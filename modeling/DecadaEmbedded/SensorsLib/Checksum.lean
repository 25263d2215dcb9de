import DecadaEmbedded.Library.Crc
import DecadaEmbedded.SensorsLib

/-!
# The checksum of the drivers

`CalcCrc2b` is the cyclic redundancy check of the two bytes of a word.
-/

namespace DecadaEmbedded.SensorsLib
open Library

variable (model : Model)

theorem toNat_word (high low : UInt8) :
    (high.toUInt16 <<< 8 ||| low.toUInt16).toNat = 256 * high.toNat + low.toNat := by
  have highBound := high.toNat_lt
  have lowBound : low.toNat < 2 ^ 8 := low.toNat_lt
  simp only [UInt16.toNat_or, UInt16.toNat_shiftLeft, UInt8.toNat_toUInt16]
  rw [show UInt16.toNat 8 % 16 = 8 by rfl, Nat.shiftLeft_eq, Nat.mod_eq_of_lt (by omega), ← Nat.shiftLeft_eq,
    ← Nat.shiftLeft_add_eq_or_of_lt lowBound, Nat.shiftLeft_eq]
  omega

theorem toUInt8_word (high low : UInt8) : (high.toUInt16 <<< 8 ||| low.toUInt16).toUInt8 = low := by
  apply UInt8.toNat_inj.mp
  have lowBound := low.toNat_lt
  rw [UInt16.toNat_toUInt8, toNat_word]
  omega

theorem toUInt8_word_shiftRight (high low : UInt8) :
    ((high.toUInt16 <<< 8 ||| low.toUInt16) >>> 8).toUInt8 = high := by
  apply UInt8.toNat_inj.mp
  have highBound := high.toNat_lt
  have lowBound := low.toNat_lt
  rw [UInt16.toNat_toUInt8, UInt16.toNat_shiftRight, toNat_word, show UInt16.toNat 8 % 16 = 8 by rfl,
    Nat.shiftRight_eq_div_pow]
  omega

theorem topBit_iff_msb : ∀ crc : UInt8, crc &&& 0x80 ≠ 0 ↔ crc.toBitVec.msb = true :=
  forall_byte (by decide +kernel)

theorem toBitVec_shiftCrc (crc : UInt8) :
    (shiftCrc model crc).toBitVec = Crc.shift model.polynomial.toBitVec crc.toBitVec := by
  simp only [shiftCrc, Crc.shift, topBit_iff_msb]
  split <;> rfl

theorem toBitVec_shifts (n : Nat) (crc : UInt8) :
    (Nat.iterate (shiftCrc model) n crc).toBitVec =
      Nat.iterate (Crc.shift model.polynomial.toBitVec) n crc.toBitVec := by
  induction n generalizing crc with
  | zero => rfl
  | succ n ih =>
      rw [Function.iterate_succ_apply, Function.iterate_succ_apply, ih, toBitVec_shiftCrc]

theorem toBitVec_calcCrc2b (seed : UInt16) :
    (calcCrc2b model seed).toBitVec =
      Crc.crc model.polynomial.toBitVec model.crcInit.toBitVec
        [(seed >>> 8).toUInt8.toBitVec, seed.toUInt8.toBitVec] := by
  simp only [calcCrc2b, Crc.crc, Crc.feed, List.foldl_cons, List.foldl_nil]
  rw [toBitVec_shifts, UInt8.toBitVec_xor, toBitVec_shifts, UInt8.toBitVec_xor]

theorem checkCrc2b_eq_crcError_iff (seed : UInt16) (crcIn : UInt8) :
    checkCrc2b model seed crcIn = .crcError ↔ calcCrc2b model seed ≠ crcIn := by
  unfold checkCrc2b
  split <;> simp_all

theorem calcCrc2b_word_iff (high low crcIn : UInt8) :
    calcCrc2b model (high.toUInt16 <<< 8 ||| low.toUInt16) = crcIn ↔
      Crc.Checks model.polynomial.toBitVec model.crcInit.toBitVec
        [high.toBitVec, low.toBitVec] crcIn.toBitVec := by
  rw [Crc.checks_iff, ← UInt8.toBitVec_inj, toBitVec_calcCrc2b, toUInt8_word_shiftRight, toUInt8_word]

end DecadaEmbedded.SensorsLib
