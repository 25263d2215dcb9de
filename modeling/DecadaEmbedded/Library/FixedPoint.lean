import DecadaEmbedded.Library.Decimal
import Mathlib.Data.Rat.Floor
import Mathlib.Tactic.Linarith
import Mathlib.Tactic.FieldSimp
import Mathlib.Tactic.Ring

/-!
# Rationals with a fixed number of decimals

Truncation toward zero, digits with leading zeros, and what a text with a point denotes.
-/

namespace DecadaEmbedded.Library

def truncate (v : ℚ) : Int := if v < 0 then -⌊-v⌋ else ⌊v⌋

theorem truncate_of_nonneg {v : ℚ} (nonneg : 0 ≤ v) : truncate v = ⌊v⌋ := if_neg (not_lt.mpr nonneg)

theorem truncate_of_neg {v : ℚ} (negative : v < 0) : truncate v = -⌊-v⌋ := if_pos negative

theorem natAbs_truncate (v : ℚ) : ((truncate v).natAbs : Int) = ⌊|v|⌋ := by
  have nonneg : 0 ≤ ⌊|v|⌋ := Int.floor_nonneg.mpr (abs_nonneg v)
  rcases lt_or_ge v 0 with negative | positive
  · rw [abs_of_neg negative] at nonneg ⊢
    rw [truncate_of_neg negative]
    omega
  · rw [abs_of_nonneg positive] at nonneg ⊢
    rw [truncate_of_nonneg positive]
    omega

theorem truncate_neg_iff (v : ℚ) : truncate v < 0 ↔ v ≤ -1 := by
  rcases lt_or_ge v 0 with negative | positive
  · rw [truncate_of_neg negative, neg_lt_zero, Int.floor_pos, le_neg]
  · rw [truncate_of_nonneg positive, Int.floor_lt, Int.cast_zero]
    constructor
    · intro negative
      exact absurd positive (not_le.mpr negative)
    · intro low
      linarith

theorem digitsValue_replicate_append (zeros : Nat) (digits : List UInt8) :
    digitsValue (List.replicate zeros 48 ++ digits) = digitsValue digits := by
  induction zeros with
  | zero => rfl
  | succ zeros ih => exact ih

def padded (width n : Nat) : List UInt8 :=
  List.replicate (width - (decimal n).length) 48 ++ decimal n

theorem length_decimal_le_iff {n width : Nat} (positive : 0 < width) :
    (decimal n).length ≤ width ↔ n < 10 ^ width := by
  rw [decimal, List.length_map]
  exact Nat.length_toDigits_le_iff (by decide) positive

theorem length_padded {width n : Nat} (positive : 0 < width) (fits : n < 10 ^ width) :
    (padded width n).length = width := by
  have short := (length_decimal_le_iff positive).mpr fits
  rw [padded, List.length_append, List.length_replicate]
  omega

theorem digitsValue_padded (width n : Nat) : digitsValue (padded width n) = n := by
  rw [padded, digitsValue_replicate_append, digitsValue_decimal]

theorem all_isDigit_decimal (n : Nat) : (decimal n).all isDigit :=
  List.all_eq_true.mpr fun _ member => isDigit_of_mem_decimal member

theorem all_isDigit_padded (width n : Nat) : (padded width n).all isDigit := by
  rw [padded, List.all_append, all_isDigit_decimal, Bool.and_true, List.all_replicate]
  split_ifs <;> decide

theorem truncate_mul_of_pos (v : ℚ) {scale : ℚ} (positive : 0 < scale) :
    (truncate (v * scale) : ℚ) = if v < 0 then -(⌊|v| * scale⌋ : ℚ) else ⌊|v| * scale⌋ := by
  split_ifs with negative
  · rw [truncate_of_neg (mul_neg_of_neg_of_pos negative positive), ← neg_mul, abs_of_neg negative,
      Int.cast_neg]
  · rw [truncate_of_nonneg (mul_nonneg (not_lt.mp negative) positive.le),
      abs_of_nonneg (not_lt.mp negative)]

/-- The text is an optional minus sign, digits, a point and `width` digits, and denotes `value`. -/
def Denotes (text : List UInt8) (width : Nat) (negative : Bool) (value : ℚ) : Prop :=
  ∃ whole fraction,
    text = (if negative then [45] else []) ++ whole ++ 46 :: fraction ∧
      whole ≠ [] ∧ whole.all isDigit ∧ fraction.all isDigit ∧ fraction.length = width ∧
      value = (if negative then -1 else 1) * (digitsValue whole + digitsValue fraction / 10 ^ width)

theorem Denotes.nulFree {text : List UInt8} {width : Nat} {negative : Bool} {value : ℚ}
    (denotes : Denotes text width negative value) : 0 ∉ text := by
  obtain ⟨whole, fraction, rfl, -, digits, digits', -⟩ := denotes
  have digit : ¬ isDigit 0 := by decide
  have free : 0 ∉ whole := fun zero => digit (List.all_eq_true.mp digits 0 zero)
  have free' : 0 ∉ fraction := fun zero => digit (List.all_eq_true.mp digits' 0 zero)
  cases negative <;> simp [free, free']

theorem not_denotes_negative {whole rest : List UInt8} (nonempty : whole ≠ []) (digits : whole.all isDigit)
    (width : Nat) (value : ℚ) : ¬ Denotes (whole ++ rest) width true value := by
  rintro ⟨whole', fraction, text, -⟩
  cases whole with
  | nil => exact nonempty rfl
  | cons c whole =>
      obtain ⟨rfl, -⟩ := List.cons.inj text
      exact absurd (List.all_eq_true.mp digits 45 List.mem_cons_self) (by decide)

theorem floor_mul_pow (v : ℚ) (width : Nat) :
    (⌊v * 10 ^ width⌋ : ℚ) / 10 ^ width = ⌊v⌋ + ⌊Int.fract v * 10 ^ width⌋ / 10 ^ width := by
  have split : v * 10 ^ width = ((⌊v⌋ * 10 ^ width : Int) : ℚ) + Int.fract v * 10 ^ width := by
    push_cast
    rw [← add_mul, Int.floor_add_fract]
  rw [split, Int.floor_intCast_add]
  push_cast
  field_simp

end DecadaEmbedded.Library
