import DecadaEmbedded.Library.Hexadecimal
import DecadaEmbedded.Text

/-! # `DeviceUID/device_uid.cpp` -/

namespace DecadaEmbedded.DeviceUid
open Library

/-- What an insertion into `ss` uses of the stream's format, after `ss << hex`. -/
structure StringStream where
  width : Nat
  fill : UInt8
  buffer : Bytes

def hexStream : StringStream := ⟨0, 32, []⟩

def StringStream.setw (width : Nat) (ss : StringStream) : StringStream := { ss with width }

def StringStream.setfill (fill : UInt8) (ss : StringStream) : StringStream := { ss with fill }

-- every insertion of a number sets the width back to 0
def StringStream.insert (word : UInt32) (ss : StringStream) : StringStream :=
  let digits := hexadecimal word.toNat
  { ss with
    width := 0
    buffer := ss.buffer ++ List.replicate (ss.width - digits.length) ss.fill ++ digits }

/-- The factory UID, the word at offset 0 first. -/
structure Uid where
  word0 : UInt32
  word4 : UInt32
  word8 : UInt32
deriving DecidableEq, Repr

def getDeviceUid (uid : Uid) : Bytes :=
  let ss := hexStream
  let ss := (ss.setw 8).setfill 48
  let ss := ((ss.insert uid.word0).insert uid.word4).insert uid.word8
  ss.buffer

def TwentyFourDigits (text : Bytes) : Prop := text.length = 24 ∧ ∀ c ∈ text, isHexDigit c

instance (text : Bytes) : Decidable (TwentyFourDigits text) := inferInstanceAs (Decidable (_ ∧ _))

def padded (word : UInt32) : Bytes :=
  List.replicate (8 - (hexadecimal word.toNat).length) 48 ++ hexadecimal word.toNat

theorem getDeviceUid_eq (uid : Uid) :
    getDeviceUid uid =
      padded uid.word0 ++ hexadecimal uid.word4.toNat ++ hexadecimal uid.word8.toNat := by
  simp [getDeviceUid, hexStream, StringStream.setw, StringStream.setfill, StringStream.insert, padded]

theorem length_word_le (word : UInt32) : (hexadecimal word.toNat).length ≤ 8 :=
  (length_hexadecimal_le_iff (by decide)).mpr word.toNat_lt

theorem length_word_eq_iff (word : UInt32) :
    (hexadecimal word.toNat).length = 8 ↔ 0x10000000 ≤ word := by
  have seven : (hexadecimal word.toNat).length ≤ 7 ↔ word.toNat < 268435456 :=
    length_hexadecimal_le_iff (by decide)
  have eight := length_word_le word
  have bound : 0x10000000 ≤ word ↔ 268435456 ≤ word.toNat := UInt32.le_iff_toNat_le
  rw [bound]
  omega

theorem length_padded (word : UInt32) : (padded word).length = 8 := by
  have eight := length_word_le word
  simp only [padded, List.length_append, List.length_replicate]
  omega

theorem hexValue_padded (word : UInt32) : hexValue (padded word) = word.toNat := by
  have zeros (n : Nat) : (List.replicate n (48 : UInt8)).foldl
      (fun value c => 16 * value + hexDigitValue c) 0 = 0 := by
    induction n with
    | zero => rfl
    | succ n ih => exact ih
  rw [padded, hexValue, List.foldl_append, zeros]
  exact hexValue_hexadecimal word.toNat

theorem padded_injective : Function.Injective padded := by
  intro word other same
  have value := congrArg hexValue same
  rw [hexValue_padded, hexValue_padded] at value
  exact UInt32.toNat_inj.mp value

theorem isHexDigit_of_mem_getDeviceUid {uid : Uid} {c : UInt8} (member : c ∈ getDeviceUid uid) :
    isHexDigit c := by
  simp only [getDeviceUid_eq, padded, List.mem_append, List.mem_replicate] at member
  rcases member with ((⟨-, zero⟩ | first) | second) | third
  · rw [zero]
    decide
  · exact isHexDigit_of_mem_hexadecimal first
  · exact isHexDigit_of_mem_hexadecimal second
  · exact isHexDigit_of_mem_hexadecimal third

theorem length_getDeviceUid_iff (uid : Uid) :
    (getDeviceUid uid).length = 24 ↔ 0x10000000 ≤ uid.word4 ∧ 0x10000000 ≤ uid.word8 := by
  have first := length_padded uid.word0
  have second := length_word_le uid.word4
  have third := length_word_le uid.word8
  rw [getDeviceUid_eq, ← length_word_eq_iff, ← length_word_eq_iff]
  simp only [List.length_append]
  omega

/-- Where the second words have equally many digits the text tells the whole UID. -/
theorem getDeviceUid_injective_of_length {uid other : Uid}
    (aligned : (hexadecimal uid.word4.toNat).length = (hexadecimal other.word4.toNat).length)
    (same : getDeviceUid uid = getDeviceUid other) : uid = other := by
  have lengths : (padded uid.word0).length = (padded other.word0).length := by
    rw [length_padded, length_padded]
  rw [getDeviceUid_eq, getDeviceUid_eq, List.append_assoc, List.append_assoc] at same
  obtain ⟨first, rest⟩ := List.append_inj same lengths
  obtain ⟨second, third⟩ := List.append_inj rest aligned
  have word0 := padded_injective first
  have word4 := UInt32.toNat_inj.mp (hexadecimal_injective second)
  have word8 := UInt32.toNat_inj.mp (hexadecimal_injective third)
  cases uid
  cases other
  simp_all

/-- A UID is written with 24 digits that no other UID is written with exactly if neither its second
nor its third word has a leading zero digit. -/
theorem getDeviceUid_identifies_iff (uid : Uid) :
    (TwentyFourDigits (getDeviceUid uid) ∧
        ∀ other, other ≠ uid → getDeviceUid other ≠ getDeviceUid uid) ↔
      0x10000000 ≤ uid.word4 ∧ 0x10000000 ≤ uid.word8 := by
  constructor
  · rintro ⟨⟨length, -⟩, -⟩
    exact (length_getDeviceUid_iff uid).mp length
  · intro long
    have length := (length_getDeviceUid_iff uid).mpr long
    refine ⟨⟨length, fun c member => isHexDigit_of_mem_getDeviceUid member⟩, ?_⟩
    intro other different same
    have longOther := (length_getDeviceUid_iff other).mp (by rw [same, length])
    apply different
    apply getDeviceUid_injective_of_length _ same
    rw [(length_word_eq_iff _).mpr longOther.1, (length_word_eq_iff _).mpr long.1]

theorem getDeviceUid_violated :
    (¬ ∀ uid, TwentyFourDigits (getDeviceUid uid)) ∧
      ¬ ∀ uid other, uid ≠ other → getDeviceUid uid ≠ getDeviceUid other := by
  constructor
  · intro digits
    exact absurd (digits ⟨0, 0, 0⟩) (by decide)
  · intro different
    exact different ⟨0, 1, 0x12⟩ ⟨0, 0x11, 2⟩ (by decide) (by decide)

end DecadaEmbedded.DeviceUid
