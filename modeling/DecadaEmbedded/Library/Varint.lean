import DecadaEmbedded.Library.BigEndian

/-!
# Numbers of varying length

Seven bits a byte, the lowest first; the eighth bit says that more follow. A number is read back byte by
byte from any source, up to a number of bytes that the reader allows.
-/

namespace DecadaEmbedded.Library

def varint (n : Nat) : List UInt8 :=
  if n < 128 then [UInt8.ofNat n] else UInt8.ofNat (n % 128 + 128) :: varint (n / 128)
termination_by n
decreasing_by omega

theorem varint_of_lt {n : Nat} (small : n < 128) : varint n = [UInt8.ofNat n] := by
  rw [varint, if_pos small]

theorem varint_of_le {n : Nat} (large : 128 ≤ n) :
    varint n = UInt8.ofNat (n % 128 + 128) :: varint (n / 128) := by
  rw [varint, if_neg (Nat.not_lt.mpr large)]

theorem length_varint_pos (n : Nat) : 0 < (varint n).length := by
  rw [varint]
  split <;> exact Nat.succ_pos _

theorem length_varint_le_iff {n k : Nat} (positive : 0 < k) : (varint n).length ≤ k ↔ n < 128 ^ k := by
  induction k generalizing n with
  | zero => exact absurd positive (lt_irrefl 0)
  | succ k ih =>
      by_cases small : n < 128
      · rw [varint_of_lt small, List.length_singleton, Nat.pow_succ]
        have := Nat.one_le_pow k 128 (by decide)
        exact iff_of_true (by omega) (by omega)
      · rw [varint_of_le (Nat.not_lt.mp small), List.length_cons, Nat.succ_le_succ_iff]
        rcases Nat.eq_zero_or_pos k with rfl | more
        · have := length_varint_pos (n / 128)
          exact iff_of_false (by omega) (by omega)
        · rw [ih more, Nat.pow_succ, Nat.div_lt_iff_lt_mul (by decide)]

/-! ## Reading from a source -/

section Source
variable {σ : Type} (get : σ → Option UInt8 × σ)

/-- The source gives these bytes, one at a time. -/
def Gives (s : σ) : List UInt8 → σ → Prop
  | [], t => s = t
  | c :: rest, t => ∃ u, get s = (some c, u) ∧ Gives u rest t

/-- At most `k` more bytes of a number of which `value` has been read; the value, the number of the byte
at which reading ends, and the source behind it. A source that gives no byte ends the number, too. -/
def readVarint : (k multiplier value count : Nat) → σ → Nat × Nat × σ
  | 0, _, value, count, s => (value, count + 1, s)
  | k + 1, multiplier, value, count, s =>
      match get s with
      | (none, s) => (value, count + 1, s)
      | (some c, s) =>
          if 128 ≤ c.toNat then readVarint k (multiplier * 128) (value + c.toNat % 128 * multiplier) (count + 1) s
          else (value + c.toNat % 128 * multiplier, count + 1, s)

variable {get}

theorem readVarint_varint {k n : Nat} (positive : 0 < k) (small : n < 128 ^ k) {s t : σ}
    (gives : Gives get s (varint n) t) (multiplier value count : Nat) :
    readVarint get k multiplier value count s = (value + n * multiplier, count + (varint n).length, t) := by
  induction k generalizing n s multiplier value count with
  | zero => exact absurd positive (lt_irrefl 0)
  | succ k ih =>
      by_cases last : n < 128
      · rw [varint_of_lt last] at gives ⊢
        obtain ⟨u, got, rfl⟩ := gives
        have byte := toNat_ofNat_of_lt (show n < 256 by omega)
        rw [readVarint, got]
        simp only [byte]
        rw [if_neg (by omega), Nat.mod_eq_of_lt last, List.length_singleton]
      · have large := Nat.not_lt.mp last
        rw [varint_of_le large] at gives ⊢
        obtain ⟨u, got, gives⟩ := gives
        have byte := toNat_ofNat_of_lt (show n % 128 + 128 < 256 by omega)
        have more : 0 < k := by
          rcases Nat.eq_zero_or_pos k with rfl | more
          · omega
          · exact more
        rw [Nat.pow_succ, ← Nat.div_lt_iff_lt_mul (by decide)] at small
        rw [readVarint, got]
        simp only [byte]
        rw [if_pos (by omega), ih more small gives, List.length_cons, Nat.add_mod_right, Nat.mod_mod,
          Nat.add_right_comm count, Nat.add_assoc count]
        have whole : n % 128 * multiplier + n / 128 * (multiplier * 128) = n * multiplier := by
          rw [Nat.mul_comm multiplier, ← Nat.mul_assoc, ← Nat.add_mul, Nat.mul_comm (n / 128), Nat.mod_add_div]
        rw [Nat.add_assoc, whole]

end Source

end DecadaEmbedded.Library
