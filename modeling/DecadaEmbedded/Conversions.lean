import DecadaEmbedded.Library.Decimal
import DecadaEmbedded.Text

/-! # `DatastructConversion/conversions.cpp` -/

namespace DecadaEmbedded.Conversions
open Library

def intMax : Int := 2147483647

def intMin : Int := -2147483648

def InInt (i : Int) : Prop := intMin ≤ i ∧ i ≤ intMax

instance (i : Int) : Decidable (InInt i) := inferInstanceAs (Decidable (_ ∧ _))

abbrev CInt := { i : Int // InInt i }

def zeroInt : CInt := ⟨0, by decide⟩

-- Two's complement reduction, what the target's multiplication leaves of an overflow
def wrapInt (i : Int) : Int := i.bmod 4294967296

def isSpace (c : UInt8) : Bool := c = 32 || (9 ≤ c && c ≤ 13)

/-- `iss >> v` into an `int`: without a character left after white space the sentry fails and `v`
keeps what it held; else the number is clamped to the type's range. -/
def extractInt (held : Int) (text : Bytes) : Int :=
  match text.dropWhile isSpace with
  | [] => held
  | c :: rest => max intMin (min intMax (leadingInteger (c :: rest)))

-- `v` is not initialised: `junk` is what its storage held
def stringToInt (junk : Int) (text : Bytes) : Int := extractInt junk text

def intToString (v : Int) : Bytes := decimalInt v

def msPaddingIntToString (v : Int) : Bytes := intToString v ++ str "000"

-- the type that `std::time_t` is an alias of, which the C library chooses
structure TimeType where
  signed : Bool
  max : Nat

def TimeType.min (type : TimeType) : Int := if type.signed then -type.max - 1 else 0

def InTime (type : TimeType) (time : Int) : Prop := type.min ≤ time ∧ time ≤ type.max

/-- `iss >> time`; a minus sign before a number of an unsigned type negates it modulo the type. -/
def extractTime (type : TimeType) (held : Int) (text : Bytes) : Int :=
  match text.dropWhile isSpace with
  | [] => held
  | c :: rest =>
      let number := leadingInteger (c :: rest)
      if type.signed || decide (0 ≤ number) then max type.min (min type.max number)
      else if -number ≤ type.max then number + type.max + 1
      else type.max

def timeToString (time : Int) : Bytes := decimalInt time

def stringToTime (type : TimeType) (junk : Int) (text : Bytes) : Int := extractTime type junk text

def stringToChar (text : Bytes) : Bytes := cstr text

def toLowerCase (s : Bytes) : Bytes := s.map fun c => if 65 ≤ c && c ≤ 90 then c + 32 else c

theorem isSpace_of_isDigit {c : UInt8} (digit : isDigit c) : isSpace c = false := by
  simp only [isDigit, Bool.and_eq_true, decide_eq_true_eq, UInt8.le_iff_toNat_le] at digit
  simp only [isSpace, Bool.or_eq_false_iff, Bool.and_eq_false_iff, decide_eq_false_iff_not,
    UInt8.le_iff_toNat_le, ← UInt8.toNat_inj]
  simp at digit ⊢
  omega

theorem decimalInt_head_not_space (v : Int) : ∀ c ∈ (decimalInt v).head?, isSpace c = false := by
  intro c first
  cases v with
  | ofNat n =>
      exact isSpace_of_isDigit (isDigit_of_mem_decimal (n := n) (List.mem_of_mem_head? first))
  | negSucc n =>
      obtain rfl : 45 = c := by simpa [decimalInt] using first
      decide

theorem scan_decimalInt (v : Int) : ∃ c rest,
    (decimalInt v).dropWhile isSpace = c :: rest ∧ leadingInteger (c :: rest) = v := by
  have value := leadingInteger_decimalInt v
  have head := decimalInt_head_not_space v
  have nonempty : decimalInt v ≠ [] := by
    cases v with
    | ofNat n => exact decimal_ne_nil n
    | negSucc n => simp [decimalInt]
  cases text : decimalInt v with
  | nil => exact absurd text nonempty
  | cons c rest =>
      rw [text] at value head
      exact ⟨c, rest, List.dropWhile_cons_of_neg (by simp [head c (by simp)]), value⟩

theorem stringToInt_intToString (junk : Int) {v : Int} (range : InInt v) :
    stringToInt junk (intToString v) = v := by
  obtain ⟨c, rest, text, value⟩ := scan_decimalInt v
  simp only [stringToInt, extractInt, intToString, text, value]
  unfold InInt at range
  omega

theorem stringToInt_of_isDigit (junk : Int) {text : Bytes} (nonempty : text ≠ [])
    (digits : text.all isDigit) : stringToInt junk text = min intMax (digitsValue text) := by
  cases text with
  | nil => exact absurd rfl nonempty
  | cons c rest =>
      have first : isDigit c := List.all_eq_true.mp digits c List.mem_cons_self
      have whole : (c :: rest).takeWhile isDigit = c :: rest :=
        List.takeWhile_eq_self_iff.mpr (List.all_eq_true.mp digits)
      rw [stringToInt, extractInt, List.dropWhile_cons_of_neg (by simp [isSpace_of_isDigit first])]
      simp only [leadingInteger_of_isDigit first, whole]
      unfold intMin intMax
      omega

theorem stringToTime_timeToString (type : TimeType) (junk : Int) {time : Int}
    (range : InTime type time) : stringToTime type junk (timeToString time) = time := by
  obtain ⟨c, rest, text, value⟩ := scan_decimalInt time
  obtain ⟨lower, upper⟩ := range
  have scanned : type.signed || decide (0 ≤ time) := by
    cases signed : type.signed with
    | true => rfl
    | false => simpa [TimeType.min, signed] using lower
  simp only [stringToTime, extractTime, timeToString, text, value, scanned, ↓reduceIte]
  omega

theorem wrapInt_of_inInt {i : Int} (range : InInt i) : wrapInt i = i := by
  unfold InInt intMin intMax at range
  exact Int.bmod_eq_of_le (by omega) (by omega)

theorem nulFree_decimalInt (v : Int) : (0 : UInt8) ∉ decimalInt v := by
  have digits (n : Nat) : (0 : UInt8) ∉ decimal n := fun zero =>
    absurd (isDigit_of_mem_decimal zero) (by decide)
  cases v with
  | ofNat n => exact digits n
  | negSucc n => simpa [decimalInt] using digits (n + 1)

theorem nulFree_intToString (v : Int) : (0 : UInt8) ∉ intToString v := nulFree_decimalInt v

end DecadaEmbedded.Conversions
