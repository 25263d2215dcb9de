import DecadaEmbedded.Library.Decimal
import Mathlib.Tactic.Ring

/-!
# The lexicographic order of texts with fields of fixed width
-/

namespace DecadaEmbedded.Library

theorem lt_append_of_lt {α : Type*} [LT α] {x y : List α} (same : x.length = y.length) (less : x < y)
    (u v : List α) : x ++ u < y ++ v := by
  induction x generalizing y with
  | nil =>
      rw [List.eq_nil_of_length_eq_zero same.symm] at less
      exact absurd less (List.not_lt_nil [])
  | cons a x ih =>
      cases y with
      | nil => cases same
      | cons b y =>
          rw [List.cons_append, List.cons_append, List.cons_lt_cons_iff]
          rcases List.cons_lt_cons_iff.mp less with first | ⟨rfl, later⟩
          · exact .inl first
          · exact .inr ⟨rfl, ih (Nat.succ.inj same) later⟩

theorem digitsValue_cons (c : UInt8) (digits : List UInt8) :
    digitsValue (c :: digits) = (c.toNat - 48) * 10 ^ digits.length + digitsValue digits := by
  have fold (before : Nat) :
      digits.foldl (fun value c => 10 * value + (c.toNat - 48)) before =
        before * 10 ^ digits.length + digitsValue digits := by
    induction digits generalizing before with
    | nil => simp [digitsValue]
    | cons d digits ih =>
        rw [digitsValue, List.foldl_cons, List.foldl_cons, ih, ih, List.length_cons, pow_succ]
        ring
  rw [digitsValue, List.foldl_cons, fold, Nat.mul_zero, Nat.zero_add]

theorem value_le_nine {c : UInt8} (digit : isDigit c) : 48 ≤ c.toNat ∧ c.toNat ≤ 57 := by
  simpa [isDigit, UInt8.le_iff_toNat_le] using digit

theorem digitsValue_lt {digits : List UInt8} (all : ∀ c ∈ digits, isDigit c) :
    digitsValue digits < 10 ^ digits.length := by
  induction digits with
  | nil => decide
  | cons c digits ih =>
      rw [List.forall_mem_cons] at all
      have first := value_le_nine all.1
      have rest := ih all.2
      have scaled := Nat.mul_le_mul_right (10 ^ digits.length) (show c.toNat - 48 ≤ 9 by omega)
      rw [digitsValue_cons, List.length_cons, pow_succ]
      omega

/-- Digits of the same width are ordered as the numbers that they denote. -/
theorem lt_of_digitsValue_lt {x y : List UInt8} (same : x.length = y.length)
    (first : ∀ c ∈ x, isDigit c) (second : ∀ c ∈ y, isDigit c) (less : digitsValue x < digitsValue y) :
    x < y := by
  induction x generalizing y with
  | nil =>
      rw [List.eq_nil_of_length_eq_zero same.symm] at less
      exact absurd less (Nat.lt_irrefl _)
  | cons c x ih =>
      cases y with
      | nil => cases same
      | cons d y =>
          rw [List.forall_mem_cons] at first second
          have width : x.length = y.length := Nat.succ.inj same
          have digit := value_le_nine first.1
          have digit' := value_le_nine second.1
          have bound := digitsValue_lt second.2
          rw [digitsValue_cons, digitsValue_cons, width] at less
          rw [List.cons_lt_cons_iff, UInt8.lt_iff_toNat_lt]
          rcases Nat.lt_trichotomy c.toNat d.toNat with before | equal | behind
          · exact .inl before
          · right
            have head : c = d := UInt8.toNat_inj.mp equal
            subst head
            exact ⟨rfl, ih width first.2 second.2 (Nat.lt_of_add_lt_add_left less)⟩
          · exfalso
            have scaled := Nat.mul_le_mul_right (10 ^ y.length)
              (show d.toNat - 48 + 1 ≤ c.toNat - 48 by omega)
            rw [Nat.add_mul] at scaled
            omega

end DecadaEmbedded.Library
