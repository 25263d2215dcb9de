import DecadaEmbedded.SensorsLib.Checksum

/-!
# The commands of the drivers that set a parameter

Each command fills `i2cbuff` and hands a number of its bytes to `_i2c.write`. A frame is a command
word and the words of an argument, each followed by its checksum. A device takes apart what it
receives and refuses a word whose checksum is wrong.
-/

namespace DecadaEmbedded.SensorsLib.Commands
open Library

structure Transfer where
  address : UInt8
  bytes : List UInt8
deriving DecidableEq, Repr

/-! ## Frames -/

def wordBytes (word : UInt16) : List UInt8 := [(word >>> 8).toUInt8, word.toUInt8]

def checksum (high low : UInt8) : UInt8 := ⟨Crc.crc (0x31 : BitVec 8) 0xff [high.toBitVec, low.toBitVec]⟩

def checkedWord (word : UInt16) : List UInt8 :=
  wordBytes word ++ [checksum (word >>> 8).toUInt8 word.toUInt8]

def frame (command : UInt16) (words : List UInt16) : List UInt8 :=
  wordBytes command ++ words.flatMap checkedWord

def decodeWords : List UInt8 → Option (List UInt16)
  | [] => some []
  | high :: low :: crc :: rest =>
      if checksum high low = crc then
        (decodeWords rest).map fun words => (high.toUInt16 <<< 8 ||| low.toUInt16) :: words
      else none
  | _ => none

def decode : List UInt8 → Option (UInt16 × List UInt16)
  | high :: low :: rest =>
      (decodeWords rest).map fun words => (high.toUInt16 <<< 8 ||| low.toUInt16, words)
  | _ => none

def argument (words : List UInt16) : Nat := words.foldl (fun before word => 65536 * before + word.toNat) 0

/-! ## The encoders -/

def ackError (write : Int) : SensorError := if write ≠ 0 then .noAckError else .noError

/-- What the encoders of one word share; only `length` bytes of the buffer are handed over. -/
def setWord (model : Model) (address : UInt8) (cmmd word : UInt16) (length : Nat) (room : 5 ≤ model.size)
    (i2cbuff : Vector UInt8 model.size) (write : Int) :
    SensorError × Vector UInt8 model.size × Transfer :=
  let i2cbuff := i2cbuff.set 0 (cmmd >>> 8).toUInt8
  let i2cbuff := i2cbuff.set 1 cmmd.toUInt8
  let i2cbuff := i2cbuff.set 2 (word >>> 8).toUInt8
  let i2cbuff := i2cbuff.set 3 word.toUInt8
  let i2cbuff := i2cbuff.set 4 (calcCrc2b model word)
  (ackError write, i2cbuff, ⟨address, i2cbuff.toList.take length⟩)

namespace Scd30

def i2cAddr : UInt8 := 0xc2

variable (i2cbuff : Vector UInt8 34) (write : Int)

def startMeasurement (baro : UInt16) : SensorError × Vector UInt8 34 × Transfer :=
  setWord scd30 i2cAddr 0x0010 baro 5 (by decide) i2cbuff write

def setMeasInterval (interval : UInt16) : SensorError × Vector UInt8 34 × Transfer :=
  setWord scd30 i2cAddr 0x4600 interval 5 (by decide) i2cbuff write

def setTemperatureOffs (temp : UInt16) : SensorError × Vector UInt8 34 × Transfer :=
  setWord scd30 i2cAddr 0x5403 temp 5 (by decide) i2cbuff write

def setAltitudeComp (alt : UInt16) : SensorError × Vector UInt8 34 × Transfer :=
  setWord scd30 i2cAddr 0x5102 alt 5 (by decide) i2cbuff write

-- the next two fill five bytes and hand over two
def activateASC (activate : UInt16) : SensorError × Vector UInt8 34 × Transfer :=
  setWord scd30 i2cAddr 0x5306 activate 2 (by decide) i2cbuff write

def setFRCvalue (conc : UInt16) : SensorError × Vector UInt8 34 × Transfer :=
  setWord scd30 i2cAddr 0x5204 conc 2 (by decide) i2cbuff write

end Scd30

namespace Sps30

def i2cAddr : UInt8 := 0xd2

structure CleanInterval where
  i2cbuff : Vector UInt8 60
  cleanIntervalM : UInt16
  cleanIntervalL : UInt16
  cleanIntervalI : UInt32

def startMeasurement (i2cbuff : Vector UInt8 60) (write : Int) : SensorError × Vector UInt8 60 × Transfer :=
  setWord sps30 i2cAddr 0x0010 0x0300 5 (by decide) i2cbuff write

def readCleanInterval (sensor : CleanInterval) (response : Response 6) : SensorError × CleanInterval :=
  let i2cbuff := Vector.ofFn fun i =>
    if inside : i < response.stored.length then response.stored[i] else sensor.i2cbuff[i]
  let stat : UInt16 := i2cbuff[0].toUInt16 <<< 8 ||| i2cbuff[1].toUInt16
  let sensor := { sensor with i2cbuff, cleanIntervalM := stat }
  if SensorsLib.Sps30.checkCrc2b stat i2cbuff[2] = .crcError then (.crcError, sensor)
  else
    let stat : UInt16 := i2cbuff[3].toUInt16 <<< 8 ||| i2cbuff[4].toUInt16
    let sensor := { sensor with cleanIntervalL := stat }
    if SensorsLib.Sps30.checkCrc2b stat i2cbuff[5] = .crcError then (.crcError, sensor)
    else
      (.noError, { sensor with
        cleanIntervalI := sensor.cleanIntervalM.toUInt32 <<< 16 ||| sensor.cleanIntervalL.toUInt32 })

def setAutoCleanInterval (setInterval : UInt32) (sensor : CleanInterval) (write : Int)
    (response : Response 6) : SensorError × CleanInterval × Transfer :=
  let setIntervalM := (setInterval >>> 16).toUInt16
  let setIntervalL := (setInterval &&& 65535).toUInt16
  let i2cbuff := sensor.i2cbuff.set 0 ((0x8004 : UInt16) >>> 8).toUInt8
  let i2cbuff := i2cbuff.set 1 (0x8004 : UInt16).toUInt8
  let i2cbuff := i2cbuff.set 2 (setIntervalM >>> 8).toUInt8
  let i2cbuff := i2cbuff.set 3 setIntervalM.toUInt8
  let i2cbuff := i2cbuff.set 4 (SensorsLib.Sps30.calcCrc2b setIntervalM)
  let i2cbuff := i2cbuff.set 5 (setIntervalL >>> 8).toUInt8
  let i2cbuff := i2cbuff.set 6 setIntervalL.toUInt8
  let i2cbuff := i2cbuff.set 7 (SensorsLib.Sps30.calcCrc2b setIntervalL)
  let sensor := { sensor with i2cbuff }
  let sent : Transfer := ⟨i2cAddr, i2cbuff.toList.take 8⟩
  if write ≠ 0 then (.noAckError, sensor, sent)
  else
    let (error, sensor) := readCleanInterval sensor response
    (error, sensor, sent)

end Sps30

inductive SetCommand where
  | startMeasurement (baro : UInt16)
  | setMeasInterval (interval : UInt16)
  | setTemperatureOffs (temp : UInt16)
  | setAltitudeComp (alt : UInt16)
  | activateASC (activate : UInt16)
  | setFRCvalue (conc : UInt16)
  | startParticulateMeasurement
  | setAutoCleanInterval (setInterval : UInt32)

namespace SetCommand

/-- The word of the command, as the headers of the drivers name it. -/
def word : SetCommand → UInt16
  | startMeasurement _ => 0x0010
  | setMeasInterval _ => 0x4600
  | setTemperatureOffs _ => 0x5403
  | setAltitudeComp _ => 0x5102
  | activateASC _ => 0x5306
  | setFRCvalue _ => 0x5204
  | startParticulateMeasurement => 0x0010
  | setAutoCleanInterval _ => 0x8004

def words : SetCommand → List UInt16
  | startMeasurement baro => [baro]
  | setMeasInterval interval => [interval]
  | setTemperatureOffs temp => [temp]
  | setAltitudeComp alt => [alt]
  | activateASC activate => [activate]
  | setFRCvalue conc => [conc]
  | startParticulateMeasurement => [0x0300]
  | setAutoCleanInterval setInterval => [(setInterval >>> 16).toUInt16, setInterval.toUInt16]

def value : SetCommand → Nat
  | startMeasurement baro => baro.toNat
  | setMeasInterval interval => interval.toNat
  | setTemperatureOffs temp => temp.toNat
  | setAltitudeComp alt => alt.toNat
  | activateASC activate => activate.toNat
  | setFRCvalue conc => conc.toNat
  | startParticulateMeasurement => 0x0300
  | setAutoCleanInterval setInterval => setInterval.toNat

end SetCommand

structure Sensors where
  scd30 : Vector UInt8 34
  sps30 : Sps30.CleanInterval

/-- The bytes that a command hands to the bus. -/
def transfer (sensors : Sensors) (write : Int) (response : Response 6) : SetCommand → Transfer
  | .startMeasurement baro => (Scd30.startMeasurement sensors.scd30 write baro).2.2
  | .setMeasInterval interval => (Scd30.setMeasInterval sensors.scd30 write interval).2.2
  | .setTemperatureOffs temp => (Scd30.setTemperatureOffs sensors.scd30 write temp).2.2
  | .setAltitudeComp alt => (Scd30.setAltitudeComp sensors.scd30 write alt).2.2
  | .activateASC activate => (Scd30.activateASC sensors.scd30 write activate).2.2
  | .setFRCvalue conc => (Scd30.setFRCvalue sensors.scd30 write conc).2.2
  | .startParticulateMeasurement => (Sps30.startMeasurement sensors.sps30.i2cbuff write).2.2
  | .setAutoCleanInterval setInterval =>
      (Sps30.setAutoCleanInterval setInterval sensors.sps30 write response).2.2

/-! ## What a device receives -/

theorem word_wordBytes (word : UInt16) :
    (word >>> 8).toUInt8.toUInt16 <<< 8 ||| word.toUInt8.toUInt16 = word := by
  apply UInt16.toNat_inj.mp
  have bound := word.toNat_lt
  rw [toNat_word, UInt16.toNat_toUInt8, UInt16.toNat_toUInt8, UInt16.toNat_shiftRight,
    show UInt16.toNat 8 % 16 = 8 by rfl, Nat.shiftRight_eq_div_pow]
  omega

theorem decodeWords_flatMap (words : List UInt16) : decodeWords (words.flatMap checkedWord) = some words := by
  induction words with
  | nil => rfl
  | cons word rest ih =>
      simp only [List.flatMap_cons, checkedWord, wordBytes, List.cons_append, List.nil_append, decodeWords,
        if_true, word_wordBytes]
      rw [ih]
      rfl

theorem decode_frame (command : UInt16) (words : List UInt16) :
    decode (frame command words) = some (command, words) := by
  simp only [frame, wordBytes, List.cons_append, List.nil_append, decode, decodeWords_flatMap, word_wordBytes,
    Option.map_some]

theorem length_flatMap_checkedWord (words : List UInt16) :
    (words.flatMap checkedWord).length = 3 * words.length := by
  induction words with
  | nil => rfl
  | cons word rest ih =>
      rw [List.flatMap_cons, List.length_append, ih, List.length_cons]
      simp only [checkedWord, wordBytes, List.length_append, List.length_cons, List.length_nil]
      omega

theorem length_frame (command : UInt16) (words : List UInt16) :
    (frame command words).length = 2 + 3 * words.length := by
  rw [frame, List.length_append, length_flatMap_checkedWord]
  rfl

/-! ## What the encoders hand over -/

theorem take_fill_five (bytes : List UInt8) (room : 5 ≤ bytes.length) (a b c d e : UInt8) :
    (((((bytes.set 0 a).set 1 b).set 2 c).set 3 d).set 4 e).take 5 = [a, b, c, d, e] := by
  match bytes, room with
  | _ :: _ :: _ :: _ :: _ :: _, _ => rfl

theorem take_fill_eight {bytes : List UInt8} (room : 8 ≤ bytes.length) (a b c d e f g h : UInt8) :
    ((((((((bytes.set 0 a).set 1 b).set 2 c).set 3 d).set 4 e).set 5 f).set 6 g).set 7 h).take 8 =
      [a, b, c, d, e, f, g, h] := by
  match bytes, room with
  | _ :: _ :: _ :: _ :: _ :: _ :: _ :: _ :: _, _ => rfl

section Checksum
variable {model : Model} (polynomial : model.polynomial = 0x31) (crcInit : model.crcInit = 0xff)
include polynomial crcInit

theorem calcCrc2b_eq_checksum (word : UInt16) :
    calcCrc2b model word = checksum (word >>> 8).toUInt8 word.toUInt8 := by
  apply UInt8.toBitVec_inj.mp
  rw [toBitVec_calcCrc2b, polynomial, crcInit]
  rfl

theorem setWord_bytes (address : UInt8) (cmmd word : UInt16) {length : Nat} (short : length ≤ 5)
    (room : 5 ≤ model.size) (i2cbuff : Vector UInt8 model.size) (write : Int) :
    (setWord model address cmmd word length room i2cbuff write).2.2.bytes =
      (frame cmmd [word]).take length := by
  have filled := take_fill_five i2cbuff.toList (by simpa using room)
    (cmmd >>> 8).toUInt8 cmmd.toUInt8 (word >>> 8).toUInt8 word.toUInt8 (calcCrc2b model word)
  have whole : [(cmmd >>> 8).toUInt8, cmmd.toUInt8, (word >>> 8).toUInt8, word.toUInt8,
      calcCrc2b model word] = frame cmmd [word] := by
    rw [calcCrc2b_eq_checksum polynomial crcInit]
    rfl
  rw [← whole, ← filled, List.take_take, Nat.min_eq_left short]
  simp only [setWord, Vector.toList_set]

end Checksum

theorem setAutoCleanInterval_bytes (setInterval : UInt32) (sensor : Sps30.CleanInterval) (write : Int)
    (response : Response 6) :
    (Sps30.setAutoCleanInterval setInterval sensor write response).2.2.bytes =
      frame 0x8004 [(setInterval >>> 16).toUInt16, setInterval.toUInt16] := by
  have low : (setInterval &&& 65535).toUInt16 = setInterval.toUInt16 := by
    apply UInt16.toNat_inj.mp
    rw [UInt32.toNat_toUInt16, UInt32.toNat_toUInt16, UInt32.toNat_and,
      show UInt32.toNat 65535 = 2 ^ 16 - 1 by rfl, Nat.and_two_pow_sub_one_eq_mod]
    omega
  have crc := @calcCrc2b_eq_checksum sps30 rfl rfl
  have sent : (Sps30.setAutoCleanInterval setInterval sensor write response).2.2.bytes =
      (Sps30.setAutoCleanInterval setInterval sensor 1 response).2.2.bytes := by
    simp only [Sps30.setAutoCleanInterval]
    split <;> rfl
  rw [sent]
  simp only [Sps30.setAutoCleanInterval, ne_eq, one_ne_zero, not_false_eq_true, ↓reduceIte, Vector.toList_set]
  rw [take_fill_eight (by simp), low, SensorsLib.Sps30.calcCrc2b, crc, crc]
  rfl

theorem argument_words (setInterval : UInt32) :
    argument [(setInterval >>> 16).toUInt16, setInterval.toUInt16] = setInterval.toNat := by
  have bound := setInterval.toNat_lt
  simp only [argument, List.foldl_cons, List.foldl_nil]
  rw [UInt32.toNat_toUInt16, UInt32.toNat_toUInt16, UInt32.toNat_shiftRight,
    show UInt32.toNat 16 % 32 = 16 by rfl, Nat.shiftRight_eq_div_pow]
  omega

/-! ## Whole commands -/

namespace SetCommand

/-- The commands whose encoder hands over the command word alone. -/
def cutOff : SetCommand → Prop
  | activateASC _ => True
  | setFRCvalue _ => True
  | _ => False

/-- The bytes are the frame of the command, and a device decodes its word and its argument. -/
def Delivered (command : SetCommand) (bytes : List UInt8) : Prop :=
  bytes = frame command.word command.words ∧
    (decode bytes).map (fun received => (received.1, argument received.2)) =
      some (command.word, command.value)

theorem argument_words_eq (command : SetCommand) : argument command.words = command.value := by
  cases command with
  | setAutoCleanInterval setInterval => exact argument_words setInterval
  | startParticulateMeasurement => rfl
  | startMeasurement word => exact Nat.zero_add _
  | setMeasInterval word => exact Nat.zero_add _
  | setTemperatureOffs word => exact Nat.zero_add _
  | setAltitudeComp word => exact Nat.zero_add _
  | activateASC word => exact Nat.zero_add _
  | setFRCvalue word => exact Nat.zero_add _

theorem delivered_iff (command : SetCommand) (bytes : List UInt8) :
    command.Delivered bytes ↔ bytes = frame command.word command.words := by
  constructor
  · exact And.left
  · rintro rfl
    exact ⟨rfl, by rw [decode_frame, Option.map_some, argument_words_eq]⟩

theorem not_delivered_take (command : SetCommand) (word : UInt16) (single : command.words = [word]) :
    ¬ command.Delivered ((frame command.word [word]).take 2) := by
  rw [delivered_iff, single]
  intro whole
  have lengths := congrArg List.length whole
  rw [List.length_take, length_frame] at lengths
  simp at lengths

end SetCommand

theorem transfer_bytes (sensors : Sensors) (write : Int) (response : Response 6) (command : SetCommand)
    (kept : ¬ command.cutOff) :
    (transfer sensors write response command).bytes = frame command.word command.words := by
  have scd := @setWord_bytes scd30 rfl rfl Scd30.i2cAddr
  have sps := @setWord_bytes sps30 rfl rfl Sps30.i2cAddr
  cases command with
  | startMeasurement baro => exact scd _ baro (Nat.le_refl 5) _ _ write
  | setMeasInterval interval => exact scd _ interval (Nat.le_refl 5) _ _ write
  | setTemperatureOffs temp => exact scd _ temp (Nat.le_refl 5) _ _ write
  | setAltitudeComp alt => exact scd _ alt (Nat.le_refl 5) _ _ write
  | activateASC activate => exact absurd trivial kept
  | setFRCvalue conc => exact absurd trivial kept
  | startParticulateMeasurement => exact sps _ 0x0300 (Nat.le_refl 5) _ _ write
  | setAutoCleanInterval setInterval => exact setAutoCleanInterval_bytes setInterval _ write response

/-- The commands that reach the sensor whole are those but the automatic self-calibration and the
forced recalibration. -/
theorem delivered_transfer_iff (sensors : Sensors) (write : Int) (response : Response 6)
    (command : SetCommand) :
    command.Delivered (transfer sensors write response command).bytes ↔ ¬ command.cutOff := by
  constructor
  · intro delivered isCut
    have scd := @setWord_bytes scd30 rfl rfl Scd30.i2cAddr
    cases command with
    | activateASC activate =>
        have cut := scd 0x5306 activate (by decide : 2 ≤ 5) (by decide) sensors.scd30 write
        rw [transfer, Scd30.activateASC, cut] at delivered
        exact SetCommand.not_delivered_take (.activateASC activate) activate rfl delivered
    | setFRCvalue conc =>
        have cut := scd 0x5204 conc (by decide : 2 ≤ 5) (by decide) sensors.scd30 write
        rw [transfer, Scd30.setFRCvalue, cut] at delivered
        exact SetCommand.not_delivered_take (.setFRCvalue conc) conc rfl delivered
    | _ => exact isCut
  · intro kept
    exact (command.delivered_iff _).mpr (transfer_bytes sensors write response command kept)

def zeroSensors : Sensors := ⟨Vector.replicate 34 0, ⟨Vector.replicate 60 0, 0, 0, 0⟩⟩

theorem activateASC_cutOff :
    (transfer zeroSensors 0 ⟨1, [], by decide, by decide⟩ (.activateASC 1)).bytes = [0x53, 0x06] ∧
    ¬ ∀ (sensors : Sensors) (write : Int) (response : Response 6) (command : SetCommand),
      command.Delivered (transfer sensors write response command).bytes := by
  have sent : (transfer zeroSensors 0 ⟨1, [], by decide, by decide⟩ (.activateASC 1)).bytes =
      [0x53, 0x06] := by decide
  refine ⟨sent, fun always => ?_⟩
  have delivered := (always zeroSensors 0 ⟨1, [], by decide, by decide⟩ (.activateASC 1)).1
  rw [sent] at delivered
  exact absurd (congrArg List.length delivered) (by decide)

end DecadaEmbedded.SensorsLib.Commands
