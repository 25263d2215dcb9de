import Mathlib.Data.List.TakeWhile

/-!
# Decimal text over bytes

Printing and scanning of integers as ASCII decimal text. A scan reads an optional sign and the
digits that follow it, and stops at the first other byte.
-/

namespace DecadaEmbedded.Library

def decimal (n : Nat) : List UInt8 := (Nat.toDigits 10 n).map Char.toUInt8

def decimalInt : Int → List UInt8
  | .ofNat n => decimal n
  | .negSucc n => 45 :: decimal (n + 1)

def isDigit (c : UInt8) : Bool := 48 ≤ c && c ≤ 57

def digitsValue (digits : List UInt8) : Nat :=
  digits.foldl (fun value c => 10 * value + (c.toNat - 48)) 0

/-- The integer that the longest prefix of an optional sign and digits denotes; 0 without digits. -/
def leadingInteger : List UInt8 → Int
  | [] => 0
  | c :: rest =>
      if c = 45 then -(digitsValue (rest.takeWhile isDigit) : Int)
      else if c = 43 then digitsValue (rest.takeWhile isDigit)
      else digitsValue ((c :: rest).takeWhile isDigit)

theorem toNat_toUInt8_of_isDigit {c : Char} (digit : c.isDigit) : c.toUInt8.toNat = c.toNat := by
  simp only [Char.isDigit, ge_iff_le, Bool.and_eq_true, decide_eq_true_eq] at digit
  have bound : c.val.toNat ≤ 57 := UInt32.le_iff_toNat_le.mp digit.2
  change c.val.toNat % 256 = c.val.toNat
  omega

theorem isDigit_toUInt8 {c : Char} (digit : c.isDigit) : isDigit c.toUInt8 := by
  have same := toNat_toUInt8_of_isDigit digit
  simp only [Char.isDigit, ge_iff_le, Bool.and_eq_true, decide_eq_true_eq] at digit
  have lower : 48 ≤ c.toNat := UInt32.le_iff_toNat_le.mp digit.1
  have upper : c.toNat ≤ 57 := UInt32.le_iff_toNat_le.mp digit.2
  simp only [isDigit, Bool.and_eq_true, decide_eq_true_eq, UInt8.le_iff_toNat_le, same]
  exact ⟨lower, upper⟩

theorem isDigit_of_mem_decimal {n : Nat} {c : UInt8} (member : c ∈ decimal n) : isDigit c := by
  obtain ⟨d, digit, rfl⟩ := List.mem_map.mp member
  exact isDigit_toUInt8 (Nat.isDigit_of_mem_toDigits (by decide) (by decide) digit)

theorem decimal_ne_nil (n : Nat) : decimal n ≠ [] := by
  simp [decimal, Nat.toDigits_ne_nil]

theorem decimalInt_natCast (n : Nat) : decimalInt n = decimal n := rfl

theorem decimalInt_eq (i : Int) : decimalInt i = (if i < 0 then [45] else []) ++ decimal i.natAbs := by
  cases i with
  | ofNat n => rfl
  | negSucc n =>
      rw [if_pos (Int.negSucc_lt_zero n)]
      rfl

theorem digitsValue_decimal (n : Nat) : digitsValue (decimal n) = n := by
  have fold (digits : List Char) (all : ∀ d ∈ digits, d.isDigit) (value : Nat) :
      (digits.map Char.toUInt8).foldl (fun value c => 10 * value + (c.toNat - 48)) value =
        Nat.ofDigitChars 10 digits value := by
    induction digits generalizing value with
    | nil => simp
    | cons d digits ih =>
        rw [List.map_cons, List.foldl_cons, Nat.ofDigitChars_cons,
          toNat_toUInt8_of_isDigit (all d (by simp)), ih fun e member => all e (by simp [member])]
        rfl
  unfold digitsValue decimal
  rw [fold _ fun d digit => Nat.isDigit_of_mem_toDigits (by decide) (by decide) digit]
  exact Nat.ofDigitChars_ten_toDigits

theorem takeWhile_isDigit_decimal (n : Nat) (rest : List UInt8)
    (stops : ∀ c ∈ rest.head?, isDigit c = false) :
    (decimal n ++ rest).takeWhile isDigit = decimal n := by
  rw [List.takeWhile_append_of_pos fun c member => isDigit_of_mem_decimal member]
  cases rest with
  | nil => simp
  | cons c rest => simp [stops c (by simp)]

theorem leadingInteger_of_isDigit {c : UInt8} (digit : isDigit c) (rest : List UInt8) :
    leadingInteger (c :: rest) = digitsValue ((c :: rest).takeWhile isDigit) := by
  have minus : c ≠ 45 := by rintro rfl; exact absurd digit (by decide)
  have plus : c ≠ 43 := by rintro rfl; exact absurd digit (by decide)
  simp [leadingInteger, minus, plus]

theorem leadingInteger_decimal (n : Nat) (rest : List UInt8)
    (stops : ∀ c ∈ rest.head?, isDigit c = false) : leadingInteger (decimal n ++ rest) = n := by
  have scanned := takeWhile_isDigit_decimal n rest stops
  have value := digitsValue_decimal n
  have digits := fun c => isDigit_of_mem_decimal (n := n) (c := c)
  cases text : decimal n with
  | nil => exact absurd text (decimal_ne_nil n)
  | cons c tail =>
      rw [text] at scanned value digits
      rw [List.cons_append, leadingInteger_of_isDigit (digits c (by simp)), ← List.cons_append,
        scanned, value]

theorem leadingInteger_decimalInt (i : Int) : leadingInteger (decimalInt i) = i := by
  cases i with
  | ofNat n => simpa [decimalInt] using leadingInteger_decimal n [] (by simp)
  | negSucc n =>
      have scanned := takeWhile_isDigit_decimal (n + 1) [] (by simp)
      rw [List.append_nil] at scanned
      simp only [decimalInt, leadingInteger, ↓reduceIte, scanned, digitsValue_decimal]
      omega

end DecadaEmbedded.Library
