import Mathlib.Data.Nat.Digits.Defs

/-!
# Hexadecimal text over bytes

The lower-case digits of a number, without leading zeros, and reading them back.
-/

namespace DecadaEmbedded.Library

def hexadecimal (n : Nat) : List UInt8 := (Nat.toDigits 16 n).map Char.toUInt8

def isHexDigit (c : UInt8) : Bool := (48 ≤ c && c ≤ 57) || (97 ≤ c && c ≤ 102)

def hexDigitValue (c : UInt8) : Nat := if c ≤ 57 then c.toNat - 48 else c.toNat - 87

def hexValue (digits : List UInt8) : Nat :=
  digits.foldl (fun value c => 16 * value + hexDigitValue c) 0

theorem digitChar_hex {digit : Nat} (small : digit < 16) :
    isHexDigit digit.digitChar.toUInt8 ∧ hexDigitValue digit.digitChar.toUInt8 = digit := by
  have all : ∀ digit < 16,
      isHexDigit digit.digitChar.toUInt8 ∧ hexDigitValue digit.digitChar.toUInt8 = digit := by
    decide
  exact all digit small

theorem hexadecimal_of_lt {n : Nat} (small : n < 16) : hexadecimal n = [n.digitChar.toUInt8] := by
  rw [hexadecimal, Nat.toDigits_of_lt_base small, List.map_singleton]

theorem hexadecimal_of_le {n : Nat} (large : 16 ≤ n) :
    hexadecimal n = hexadecimal (n / 16) ++ [(n % 16).digitChar.toUInt8] := by
  rw [hexadecimal, Nat.toDigits_of_base_le (by decide) large, List.map_append]
  rfl

theorem isHexDigit_of_mem_hexadecimal {n : Nat} {c : UInt8} (member : c ∈ hexadecimal n) :
    isHexDigit c := by
  induction n using Nat.strong_induction_on with
  | _ n ih =>
      by_cases small : n < 16
      · rw [hexadecimal_of_lt small, List.mem_singleton] at member
        rw [member]
        exact (digitChar_hex small).1
      · rw [hexadecimal_of_le (Nat.not_lt.mp small), List.mem_append, List.mem_singleton] at member
        rcases member with earlier | last
        · exact ih (n / 16) (Nat.div_lt_self (by omega) (by decide)) earlier
        · rw [last]
          exact (digitChar_hex (Nat.mod_lt n (by decide))).1

theorem hexValue_hexadecimal (n : Nat) : hexValue (hexadecimal n) = n := by
  induction n using Nat.strong_induction_on with
  | _ n ih =>
      by_cases small : n < 16
      · rw [hexadecimal_of_lt small]
        simpa [hexValue] using (digitChar_hex small).2
      · have earlier := ih (n / 16) (Nat.div_lt_self (by omega) (by decide))
        have last := (digitChar_hex (Nat.mod_lt n (by decide : 16 > 0))).2
        rw [hexValue] at earlier
        rw [hexadecimal_of_le (Nat.not_lt.mp small), hexValue, List.foldl_append, earlier,
          List.foldl_cons, List.foldl_nil, last]
        exact Nat.div_add_mod n 16

theorem hexadecimal_ne_nil (n : Nat) : hexadecimal n ≠ [] := by
  rw [hexadecimal, Ne, List.map_eq_nil_iff]
  exact Nat.toDigits_ne_nil

theorem hexadecimal_injective : Function.Injective hexadecimal :=
  Function.LeftInverse.injective hexValue_hexadecimal

theorem length_hexadecimal_le_iff {n k : Nat} (positive : 0 < k) :
    (hexadecimal n).length ≤ k ↔ n < 16 ^ k := by
  rw [hexadecimal, List.length_map]
  exact Nat.length_toDigits_le_iff (by decide) positive

end DecadaEmbedded.Library
