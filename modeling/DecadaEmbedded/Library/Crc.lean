import Mathlib.Algebra.CharP.Two
import Mathlib.Algebra.Field.ZMod
import Mathlib.Algebra.Polynomial.Div
import Mathlib.Data.ZMod.Basic
import Mathlib.Tactic.LinearCombination

/-!
# Cyclic redundancy checks

A word of `w` bits stands for a polynomial over the field of two elements. `crc` shifts a register
once for each bit of a message; what it leaves is the remainder of the message and the initial value
by `X ^ w + generator`, which is what `Checks` says.
-/

namespace DecadaEmbedded.Library.Crc
open Polynomial

variable {w : Nat}

def shift (generator crc : BitVec w) : BitVec w :=
  if crc.msb then crc <<< 1 ^^^ generator else crc <<< 1

def feed (generator crc word : BitVec w) : BitVec w := Nat.iterate (shift generator) w (crc ^^^ word)

def crc (generator init : BitVec w) (message : List (BitVec w)) : BitVec w :=
  message.foldl (feed generator) init

def bit (b : Bool) : ZMod 2 := if b then 1 else 0

@[simp] theorem bit_false : bit false = 0 := rfl

@[simp] theorem bit_true : bit true = 1 := rfl

theorem bit_xor (a b : Bool) : bit (a ^^ b) = bit a + bit b := by
  cases a <;> cases b <;> decide

theorem bit_injective : Function.Injective bit := by
  intro a b
  cases a <;> cases b <;> decide

noncomputable def poly (word : BitVec w) : (ZMod 2)[X] :=
  ∑ i : Fin w, C (bit (word.getLsbD i)) * X ^ i.val

noncomputable def modulus (generator : BitVec w) : (ZMod 2)[X] := X ^ w + poly generator

noncomputable def messagePoly (message : List (BitVec w)) : (ZMod 2)[X] :=
  message.foldl (fun before word => X ^ w * before + poly word) 0

def Checks (generator init : BitVec w) (message : List (BitVec w)) (checksum : BitVec w) : Prop :=
  poly checksum =
    (X ^ w * messagePoly message + X ^ (w * message.length) * poly init) %ₘ modulus generator

theorem coeff_poly (word : BitVec w) (k : Nat) : (poly word).coeff k = bit (word.getLsbD k) := by
  simp only [poly, finsetSum_coeff, coeff_C_mul_X_pow]
  by_cases inside : k < w
  · rw [Finset.sum_eq_single ⟨k, inside⟩]
    · simp
    · intro i _ other
      have apart : k ≠ i.val := fun same => other (Fin.ext same.symm)
      simp [apart]
    · simp
  · rw [BitVec.getLsbD_of_ge word k (Nat.le_of_not_lt inside)]
    apply Finset.sum_eq_zero
    intro i _
    have apart : k ≠ i.val := by omega
    simp [apart]

theorem poly_injective : Function.Injective (poly (w := w)) := by
  intro a b same
  apply BitVec.eq_of_getLsbD_eq
  intro i _
  apply bit_injective
  rw [← coeff_poly, ← coeff_poly, same]

theorem degree_poly_lt (word : BitVec w) : (poly word).degree < w := degree_sum_fin_lt _

theorem poly_xor (a b : BitVec w) : poly (a ^^^ b) = poly a + poly b := by
  ext k
  simp [coeff_poly, bit_xor]

theorem monic_modulus (generator : BitVec w) : (modulus generator).Monic :=
  monic_X_pow_add (degree_poly_lt generator)

theorem degree_modulus (generator : BitVec w) : (modulus generator).degree = w := by
  rw [modulus, add_comm]
  exact degree_add_eq_right_of_degree_lt (by simpa using degree_poly_lt generator) |>.trans (by simp)

theorem X_mul_poly (word : BitVec w) :
    X * poly word = poly (word <<< 1) + C (bit word.msb) * X ^ w := by
  ext k
  rw [coeff_add, coeff_C_mul, coeff_X_pow, coeff_poly]
  cases k with
  | zero =>
      rcases Nat.eq_zero_or_pos w with rfl | positive
      · simp [BitVec.msb_eq_getLsbD_last]
      · simp [positive.ne]
  | succ k =>
      rw [coeff_X_mul, coeff_poly, BitVec.getLsbD_shiftLeft, BitVec.msb_eq_getLsbD_last]
      rcases Nat.lt_trichotomy (k + 1) w with inside | rfl | outside
      · simp [inside, inside.ne]
      · simp
      · simp [BitVec.getLsbD_of_ge word k (by omega), outside.ne', Nat.not_lt.mpr outside.le]

/-- A shift multiplies by `X` and takes the modulus away if the product reaches its degree. -/
theorem modulus_dvd_shift (generator word : BitVec w) :
    modulus generator ∣ X * poly word - poly (shift generator word) := by
  rw [X_mul_poly, shift]
  cases word.msb with
  | false => simp
  | true =>
      have twice : poly generator + poly generator = 0 := CharTwo.add_self_eq_zero _
      rw [if_pos rfl, poly_xor]
      refine ⟨1, ?_⟩
      rw [modulus, bit_true, C_1]
      linear_combination - twice

theorem modulus_dvd_shifts (generator word : BitVec w) (n : Nat) :
    modulus generator ∣ X ^ n * poly word - poly (Nat.iterate (shift generator) n word) := by
  induction n with
  | zero => simp
  | succ n before =>
      rw [Function.iterate_succ_apply']
      generalize Nat.iterate (shift generator) n word = shifted at *
      have step := modulus_dvd_shift generator shifted
      have both := dvd_add (dvd_mul_of_dvd_right before X) step
      convert both using 1
      ring

/-- The register after a message, from any value it starts with. -/
theorem modulus_dvd_crc (generator init : BitVec w) (message : List (BitVec w)) :
    modulus generator ∣
      X ^ w * messagePoly message + X ^ (w * message.length) * poly init -
        poly (crc generator init message) := by
  induction message using List.reverseRecOn with
  | nil => simp [messagePoly, crc]
  | append_singleton message word before =>
      have fed : crc generator init (message ++ [word]) =
          feed generator (crc generator init message) word := by
        simp [crc]
      have grown : messagePoly (message ++ [word]) = X ^ w * messagePoly message + poly word := by
        simp [messagePoly]
      rw [fed, grown, List.length_append, List.length_singleton, feed]
      generalize crc generator init message = register at *
      have step := modulus_dvd_shifts generator (register ^^^ word) w
      rw [poly_xor] at step
      have both := dvd_add (dvd_mul_of_dvd_right before (X ^ w)) step
      convert both using 1
      ring

theorem checks_iff (generator init : BitVec w) (message : List (BitVec w)) (checksum : BitVec w) :
    Checks generator init message checksum ↔ crc generator init message = checksum := by
  have short : (poly (crc generator init message)).degree < (modulus generator).degree := by
    rw [degree_modulus]
    exact degree_poly_lt _
  rw [Checks, modByMonic_eq_of_dvd_sub (monic_modulus generator) (modulus_dvd_crc generator init message),
    (modByMonic_eq_self_iff (monic_modulus generator)).mpr short]
  constructor
  · intro same
    exact (poly_injective same).symm
  · intro same
    rw [same]

end DecadaEmbedded.Library.Crc
