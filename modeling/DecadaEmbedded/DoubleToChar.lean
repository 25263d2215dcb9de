import DecadaEmbedded.Library.FixedPoint
import DecadaEmbedded.Conversions

/-!
# `DoubleToChar` of `DatastructConversion/conversions.cpp`

A `double` is the rational it stands for, and its arithmetic is exact. The buffer is large enough.
-/

namespace DecadaEmbedded.Conversions
open Library

/-- `(int) v`; the language leaves open what becomes of a number outside the range, and the target
takes the nearest end. -/
def doubleToInt (v : ℚ) : Int := max intMin (min intMax (truncate v))

def multiplicator : Nat → Int → Int
  | 0, i => i
  | decimalDigits + 1, i => multiplicator decimalDigits (wrapInt (i * 10))

def leadingZeros (fractPart i : Int) : Bytes :=
  if 1 < i then
    if i ≤ fractPart then [] else 48 :: leadingZeros fractPart (i.tdiv 10)
  else []
termination_by i.toNat
decreasing_by
  rw [Int.tdiv_eq_ediv_of_nonneg (by omega)]
  omega

def doubleToChar (v : ℚ) (decimalDigits : Nat) : Bytes :=
  let i := multiplicator decimalDigits 1
  let intPart := doubleToInt v
  let v := if v < 0 then -v else v
  let fractPart := doubleToInt ((v - doubleToInt v) * i)
  intToString intPart ++ str "." ++ leadingZeros fractPart (i.tdiv 10) ++ intToString fractPart

theorem multiplicator_eq (decimalDigits digits : Nat) (few : digits + decimalDigits ≤ 9) :
    multiplicator decimalDigits (10 ^ digits) = 10 ^ (digits + decimalDigits) := by
  induction decimalDigits generalizing digits with
  | zero => rfl
  | succ decimalDigits ih =>
      have small : (10 : Int) ^ (digits + 1) ≤ 10 ^ 9 := pow_le_pow_right₀ (by decide) (by omega)
      have positive : (0 : Int) < 10 ^ (digits + 1) := Int.pow_pos (by decide)
      have range : InInt (10 ^ digits * 10) := by
        unfold InInt intMin intMax
        omega
      rw [multiplicator, wrapInt_of_inInt range, ← pow_succ, ih (digits + 1) (by omega)]
      congr 1
      omega

theorem doubleToInt_of_abs_lt {v : ℚ} (bound : |v| < 2147483648) : doubleToInt v = truncate v := by
  have magnitude : ⌊|v|⌋ < 2147483648 := Int.floor_lt.mpr (by exact_mod_cast bound)
  have same := natAbs_truncate v
  unfold doubleToInt intMin intMax
  omega

theorem leadingZeros_append (digits fractPart : Nat) (fits : fractPart < 10 ^ (digits + 1)) :
    leadingZeros fractPart (10 ^ digits) ++ decimal fractPart = padded (digits + 1) fractPart := by
  induction digits with
  | zero =>
      have short := (length_decimal_le_iff Nat.one_pos).mpr fits
      have some := List.length_pos_iff.mpr (decimal_ne_nil fractPart)
      rw [leadingZeros, if_neg (by decide), padded, show 0 + 1 - (decimal fractPart).length = 0 by omega]
      rfl
  | succ digits ih =>
      have power : (1 : Int) < 10 ^ (digits + 1) := one_lt_pow₀ (by decide) (Nat.succ_ne_zero digits)
      rw [leadingZeros, if_pos power]
      by_cases whole : 10 ^ (digits + 1) ≤ fractPart
      · have long := mt (length_decimal_le_iff (Nat.succ_pos digits)).mp (not_lt.mpr whole)
        have short := (length_decimal_le_iff (Nat.succ_pos (digits + 1))).mpr fits
        rw [if_pos (by exact_mod_cast whole), padded,
          show digits + 1 + 1 - (decimal fractPart).length = 0 by omega]
        rfl
      · have fits := not_le.mp whole
        have short := (length_decimal_le_iff (Nat.succ_pos digits)).mpr fits
        have next : ((10 : Int) ^ (digits + 1)).tdiv 10 = 10 ^ digits := by
          rw [pow_succ, Int.mul_tdiv_cancel _ (by decide)]
        rw [if_neg (by exact_mod_cast whole), next, List.cons_append, ih fits, padded, padded,
          show digits + 1 + 1 - (decimal fractPart).length =
            (digits + 1 - (decimal fractPart).length) + 1 by omega]
        rfl

theorem doubleToInt_of_nonneg {v : ℚ} (nonneg : 0 ≤ v) (bound : v < 2147483648) :
    doubleToInt v = ⌊v⌋ := by
  rw [doubleToInt_of_abs_lt (by rwa [abs_of_nonneg nonneg]), truncate_of_nonneg nonneg]

theorem intToString_doubleToInt {v : ℚ} (bound : |v| < 2147483648) :
    intToString (doubleToInt v) = (if v ≤ -1 then [45] else []) ++ decimal ⌊|v|⌋.toNat := by
  have magnitude : (truncate v).natAbs = ⌊|v|⌋.toNat := by
    have same := natAbs_truncate v
    omega
  rw [doubleToInt_of_abs_lt bound, intToString, decimalInt_eq, magnitude]
  simp only [truncate_neg_iff]

theorem fract_mul_pow {v : ℚ} {width : Nat} :
    0 ≤ Int.fract v * 10 ^ width ∧ Int.fract v * 10 ^ width < 10 ^ width := by
  have power : (0 : ℚ) < 10 ^ width := by positivity
  exact ⟨mul_nonneg (Int.fract_nonneg v) power.le,
    mul_lt_of_lt_one_left power (Int.fract_lt_one v)⟩

theorem doubleToChar_eq {v : ℚ} {decimalDigits : Nat} (bound : |v| < 2147483648)
    (some : 1 ≤ decimalDigits) (few : decimalDigits ≤ 9) :
    doubleToChar v decimalDigits =
      (if v ≤ -1 then [45] else []) ++ decimal ⌊|v|⌋.toNat ++
        46 :: padded decimalDigits ⌊Int.fract |v| * 10 ^ decimalDigits⌋.toNat := by
  obtain ⟨digits, rfl⟩ := Nat.exists_eq_add_of_le' some
  have magnitude : (if v < 0 then -v else v) = |v| := by
    split_ifs with negative
    · exact (abs_of_neg negative).symm
    · exact (abs_of_nonneg (not_lt.mp negative)).symm
  have factor : multiplicator (digits + 1) 1 = 10 ^ (digits + 1) := by
    simpa using multiplicator_eq (digits + 1) 0 (by omega)
  have shift : ((10 : Int) ^ (digits + 1)).tdiv 10 = 10 ^ digits := by
    rw [pow_succ, Int.mul_tdiv_cancel _ (by decide)]
  obtain ⟨nonneg, below⟩ := @fract_mul_pow |v| (digits + 1)
  have small : (10 : ℚ) ^ (digits + 1) ≤ 10 ^ 9 := pow_le_pow_right₀ (by norm_num) few
  have fractPart : doubleToInt (Int.fract |v| * 10 ^ (digits + 1)) =
      (⌊Int.fract |v| * 10 ^ (digits + 1)⌋.toNat : Int) := by
    rw [doubleToInt_of_nonneg nonneg (by linarith), Int.toNat_of_nonneg (Int.floor_nonneg.mpr nonneg)]
  have fits : ⌊Int.fract |v| * 10 ^ (digits + 1)⌋.toNat < 10 ^ (digits + 1) := by
    have floor : ⌊Int.fract |v| * 10 ^ (digits + 1)⌋ < 10 ^ (digits + 1) :=
      Int.floor_lt.mpr (by exact_mod_cast below)
    exact (Int.toNat_lt (Int.floor_nonneg.mpr nonneg)).mpr (by exact_mod_cast floor)
  simp only [doubleToChar, magnitude, factor, shift]
  rw [doubleToInt_of_nonneg (abs_nonneg v) bound, Int.self_sub_floor, intToString_doubleToInt bound]
  push_cast
  rw [fractPart, List.append_assoc, intToString, decimalInt_natCast, leadingZeros_append digits _ fits]
  simp [show str "." = [46] from rfl]

theorem denotes_doubleToChar {v : ℚ} {decimalDigits : Nat} (bound : |v| < 2147483648)
    (some : 1 ≤ decimalDigits) (few : decimalDigits ≤ 9) :
    Denotes (doubleToChar v decimalDigits) decimalDigits (decide (v ≤ -1))
      ((if v ≤ -1 then -1 else 1) * (⌊|v| * 10 ^ decimalDigits⌋ / 10 ^ decimalDigits)) := by
  obtain ⟨nonneg, below⟩ := @fract_mul_pow |v| decimalDigits
  have floor : ⌊Int.fract |v| * 10 ^ decimalDigits⌋ < 10 ^ decimalDigits :=
    Int.floor_lt.mpr (by exact_mod_cast below)
  have fits : ⌊Int.fract |v| * 10 ^ decimalDigits⌋.toNat < 10 ^ decimalDigits :=
    (Int.toNat_lt (Int.floor_nonneg.mpr nonneg)).mpr (by exact_mod_cast floor)
  have whole : ((⌊|v|⌋.toNat : Nat) : ℚ) = ⌊|v|⌋ := by
    exact_mod_cast congrArg (Int.cast : Int → ℚ) (Int.toNat_of_nonneg (Int.floor_nonneg.mpr (abs_nonneg v)))
  have fraction : ((⌊Int.fract |v| * 10 ^ decimalDigits⌋.toNat : Nat) : ℚ) =
      ⌊Int.fract |v| * 10 ^ decimalDigits⌋ := by
    exact_mod_cast congrArg (Int.cast : Int → ℚ) (Int.toNat_of_nonneg (Int.floor_nonneg.mpr nonneg))
  refine ⟨decimal ⌊|v|⌋.toNat, padded decimalDigits ⌊Int.fract |v| * 10 ^ decimalDigits⌋.toNat, ?_,
    decimal_ne_nil _, all_isDigit_decimal _, all_isDigit_padded _ _, length_padded some fits, ?_⟩
  · simpa using doubleToChar_eq bound some few
  · rw [digitsValue_decimal, digitsValue_padded, whole, fraction, floor_mul_pow]
    simp

theorem not_denotes_doubleToChar {v : ℚ} {decimalDigits : Nat} (small : -1 < v) (negative : v < 0)
    (some : 1 ≤ decimalDigits) (few : decimalDigits ≤ 9) (value : ℚ) :
    ¬ Denotes (doubleToChar v decimalDigits) decimalDigits true value := by
  have bound : |v| < 2147483648 := by
    rw [abs_of_neg negative]
    linarith
  rw [doubleToChar_eq bound some few, if_neg (not_le.mpr small), List.nil_append]
  exact not_denotes_negative (decimal_ne_nil _) (all_isDigit_decimal _) _ _

theorem denotes_truncated_iff (v : ℚ) (decimalDigits : Nat) (bound : |v| < 2147483648)
    (some : 1 ≤ decimalDigits) (few : decimalDigits ≤ 9) :
    Denotes (doubleToChar v decimalDigits) decimalDigits (decide (v < 0))
        (truncate (v * 10 ^ decimalDigits) / 10 ^ decimalDigits) ↔
      v ≤ -1 ∨ 0 ≤ v := by
  constructor
  · intro denotes
    by_contra! small
    rw [decide_eq_true small.2] at denotes
    exact not_denotes_doubleToChar small.1 small.2 some few _ denotes
  · intro signed
    have denotes := denotes_doubleToChar bound some few
    have sign : v ≤ -1 ↔ v < 0 := by
      rcases signed with low | high
      · exact ⟨fun _ => by linarith, fun _ => low⟩
      · exact ⟨fun _ => by linarith, fun negative => absurd high (not_le.mpr negative)⟩
    simp only [sign] at denotes
    have power : (0 : ℚ) < 10 ^ decimalDigits := by positivity
    rw [truncate_mul_of_pos v power]
    split_ifs with negative
    · simpa [negative, neg_div] using denotes
    · simpa [negative] using denotes

theorem denotes_truncated_iff_thirds :
    Denotes (doubleToChar (-7 / 3) 2) 2 (decide ((-7 / 3 : ℚ) < 0))
        (truncate (-7 / 3 * 10 ^ 2) / 10 ^ 2) ↔ (-7 / 3 : ℚ) ≤ -1 ∨ (0 : ℚ) ≤ -7 / 3 :=
  denotes_truncated_iff (-7 / 3) 2 (by norm_num [abs_of_neg]) (by decide) (by decide)

theorem denotes_truncated_violated : ¬ ∀ (v : ℚ) (decimalDigits : Nat), |v| < 2147483648 →
    1 ≤ decimalDigits → decimalDigits ≤ 9 →
    Denotes (doubleToChar v decimalDigits) decimalDigits (decide (v < 0))
      (truncate (v * 10 ^ decimalDigits) / 10 ^ decimalDigits) := by
  intro every
  have half := every (-1 / 2) 2 (by norm_num [abs_of_neg]) (by decide) (by decide)
  have sign : decide ((-1 / 2 : ℚ) < 0) = true := by norm_num
  rw [sign] at half
  exact not_denotes_doubleToChar (by norm_num) (by norm_num) (by decide) (by decide) _ half

end DecadaEmbedded.Conversions
