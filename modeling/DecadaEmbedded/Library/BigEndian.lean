import Mathlib.Data.Nat.Digits.Lemmas

/-!
# Numbers as bytes, the highest first
-/

namespace DecadaEmbedded.Library

def bigEndian (bytes : List UInt8) : Nat := bytes.foldl (fun before byte => 256 * before + byte.toNat) 0

/-- The bytes of a number without leading zeros; none for zero. -/
def bytesOf (n : Nat) : List UInt8 := (Nat.digits 256 n).reverse.map UInt8.ofNat

theorem toNat_ofNat_of_lt {n : Nat} (byte : n < 256) : (UInt8.ofNat n).toNat = n := by
  rw [UInt8.toNat_ofNat', Nat.mod_eq_of_lt byte]

@[simp] theorem bigEndian_nil : bigEndian [] = 0 := rfl

@[simp] theorem bigEndian_append_singleton (bytes : List UInt8) (byte : UInt8) :
    bigEndian (bytes ++ [byte]) = 256 * bigEndian bytes + byte.toNat := by
  simp [bigEndian]

@[simp] theorem bigEndian_zero_cons (bytes : List UInt8) : bigEndian (0 :: bytes) = bigEndian bytes := rfl

theorem bigEndian_reverse {digits : List Nat} (bytes : ∀ digit ∈ digits, digit < 256) :
    bigEndian (digits.reverse.map UInt8.ofNat) = Nat.ofDigits 256 digits := by
  induction digits with
  | nil => rfl
  | cons digit digits ih =>
      rw [List.forall_mem_cons] at bytes
      rw [List.reverse_cons, List.map_append, List.map_singleton, bigEndian_append_singleton, ih bytes.2,
        Nat.ofDigits_cons, toNat_ofNat_of_lt bytes.1, Nat.add_comm]

theorem bigEndian_bytesOf (n : Nat) : bigEndian (bytesOf n) = n := by
  rw [bytesOf, bigEndian_reverse fun digit member => Nat.digits_lt_base (by decide) member,
    Nat.ofDigits_digits]

theorem length_bytesOf_le_iff (n k : Nat) : (bytesOf n).length ≤ k ↔ n < 256 ^ k := by
  rw [bytesOf, List.length_map, List.length_reverse, Nat.digits_length_le_iff (by decide)]

theorem head?_bytesOf (n : Nat) : (bytesOf n).head? ≠ some 0 := by
  rcases Nat.eq_zero_or_pos n with rfl | positive
  · simp [bytesOf]
  · have nonempty : Nat.digits 256 n ≠ [] := Nat.digits_ne_nil_iff_ne_zero.mpr positive.ne'
    have leading := Nat.getLast_digit_ne_zero 256 positive.ne'
    have byte : (Nat.digits 256 n).getLast nonempty < 256 :=
      Nat.digits_lt_base (by decide) (List.getLast_mem nonempty)
    rw [bytesOf, List.head?_map, List.head?_reverse, List.getLast?_eq_getLast_of_ne_nil nonempty]
    intro zero
    have value := congrArg UInt8.toNat (Option.some.inj zero)
    rw [toNat_ofNat_of_lt byte] at value
    exact leading value

end DecadaEmbedded.Library
