import DecadaEmbedded.Library.Run
import DecadaEmbedded.Text

/-!
# The drivers `sensors-lib/scd30/scd30.cpp` and `sensors-lib/sps30/sps30.cpp`

Both drivers send a command, read words of two bytes and a CRC into `i2cbuff` and put two words
together into a float; a `Model` holds what differs. Each byte of the buffer carries the read that
stored it, which no branch looks at. `char` is unsigned on the target, and the waits of the bus are
left out.
-/

namespace DecadaEmbedded.SensorsLib
open Library

inductive SensorStatus where
  | disconnect | connect | dataOk | dataCrcErr | dataNotRdy | dataOutOfRange
deriving DecidableEq, Repr

inductive SensorError where
  | noError | isReady | noAckError | crcError
deriving DecidableEq, Repr

def SensorError.code : SensorError → UInt16
  | .noError => 0
  | .isReady => 1
  | .noAckError => 2
  | .crcError => 3

structure Origin where
  read : Nat
  completed : Bool
deriving DecidableEq, Repr

structure Cell where
  byte : UInt8
  origin : Option Origin
deriving DecidableEq, Repr

structure Word where
  high : Cell
  low : Cell
  crc : Cell
deriving DecidableEq, Repr

def Word.value (word : Word) : UInt16 := word.high.byte.toUInt16 <<< 8 ||| word.low.byte.toUInt16

/-- The high order and the low order word of a float. -/
structure Float32 where
  m : Word
  l : Word
deriving DecidableEq, Repr

def Float32.bits (float : Float32) : UInt32 :=
  float.m.value.toUInt32 <<< 16 ||| float.l.value.toUInt32

/-- What `_i2c.read` of `size` bytes does: it delivers the whole response, or it returns a nonzero
result after storing a prefix of it. -/
structure Response (size : Nat) where
  result : Int
  stored : List UInt8
  inside : stored.length ≤ size
  whole : result = 0 → stored.length = size

/-- The comparisons and the text of a `float`, given by its bits. -/
structure FloatUnit where
  convertDataToString : UInt32 → Bytes
  above : UInt32 → Int → Bool
  below : UInt32 → Int → Bool

structure Quantity (floats : Nat) where
  name : Bytes
  outOfRange : Bytes
  min : Int
  max : Int
  index : Fin floats

structure Model where
  getReadyStat : UInt16
  readMeas : UInt16
  polynomial : UInt8
  crcInit : UInt8
  floats : Nat
  size : Nat
  fits : 6 * floats ≤ size
  quantities : List (Quantity floats)
  reports : quantities ≠ []

theorem Model.three_le_response (model : Model) : 3 ≤ 6 * model.floats := by
  cases reported : model.quantities with
  | nil => exact absurd reported model.reports
  | cons quantity rest =>
      have index := quantity.index.isLt
      omega

theorem Model.three_le_size (model : Model) : 3 ≤ model.size :=
  model.three_le_response.trans model.fits

variable (unit : FloatUnit) (model : Model)

structure Driver where
  i2cbuff : Vector Cell model.size
  ready : Word
  words : Vector Word (2 * model.floats)
  floats : Vector Float32 model.floats
  dataOorList : List Bytes
  reads : Nat

/-- How the bus answers one call of `GetData`; a write returns 0 when it is acknowledged. -/
structure Bus where
  statusWrite : Int
  statusRead : Response 3
  measurementWrite : Int
  measurementRead : Response (6 * model.floats)

def shiftCrc (crc : UInt8) : UInt8 :=
  if crc &&& 0x80 ≠ 0 then (crc <<< 1) ^^^ model.polynomial else crc <<< 1

def calcCrc2b (seed : UInt16) : UInt8 :=
  let crc := Nat.iterate (shiftCrc model) 8 (model.crcInit ^^^ (seed >>> 8).toUInt8)
  Nat.iterate (shiftCrc model) 8 (crc ^^^ seed.toUInt8)

def checkCrc2b (seed : UInt16) (crcIn : UInt8) : SensorError :=
  if calcCrc2b model seed ≠ crcIn then .crcError else .noError

def validateData (data : UInt32) (min max : Int) : SensorStatus :=
  if unit.above data max || unit.below data min then .dataOutOfRange else .dataOk

variable {model}

def send (cmmd : UInt16) (driver : Driver model) : Driver model :=
  have room := model.three_le_size
  { driver with i2cbuff := (driver.i2cbuff.set 0 ⟨(cmmd >>> 8).toUInt8, none⟩).set 1 ⟨cmmd.toUInt8, none⟩ }

-- the callers do not look at the result of the read
def receive {size : Nat} (response : Response size) (driver : Driver model) : Driver model :=
  { driver with
    i2cbuff := Vector.ofFn fun i =>
      if inside : i < response.stored.length then
        ⟨response.stored[i], some ⟨driver.reads, response.result = 0⟩⟩
      else driver.i2cbuff[i]
    reads := driver.reads + 1 }

def wordAt (driver : Driver model) (i : Nat) (inside : 3 * i + 2 < model.size) : Word :=
  ⟨driver.i2cbuff[3 * i], driver.i2cbuff[3 * i + 1], driver.i2cbuff[3 * i + 2]⟩

theorem word_fits (i : Fin (2 * model.floats)) : 3 * i.val + 2 < model.size := by
  have fits := model.fits
  omega

def wordOf (driver : Driver model) (i : Fin (2 * model.floats)) : Word := wordAt driver i (word_fits i)

@[simp] theorem wordOf_words (driver : Driver model) (words : Vector Word (2 * model.floats))
    (i : Fin (2 * model.floats)) : wordOf { driver with words } i = wordOf driver i := rfl

def getReadyStatus (driver : Driver model) (write : Int) (response : Response 3) :
    SensorError × Driver model :=
  let driver := send model.getReadyStat driver
  if write ≠ 0 then (.noAckError, driver)
  else
    let driver := receive response driver
    let ready := wordAt driver 0 model.three_le_size
    (checkCrc2b model ready.value ready.crc.byte, { driver with ready })

def readWords (driver : Driver model) : List (Fin (2 * model.floats)) → SensorError × Driver model
  | [] => (.noError, driver)
  | i :: rest =>
      let word := wordOf driver i
      let driver := { driver with words := driver.words.set i word }
      if checkCrc2b model word.value word.crc.byte = .crcError then (.crcError, driver)
      else readWords driver rest

def assemble (words : Vector Word (2 * model.floats)) : Vector Float32 model.floats :=
  Vector.ofFn fun i => ⟨words[2 * i.val], words[2 * i.val + 1]⟩

def readMeasurement (driver : Driver model) (write : Int) (response : Response (6 * model.floats)) :
    SensorError × Driver model :=
  let driver := send model.readMeas driver
  if write ≠ 0 then (.noAckError, driver)
  else
    match readWords (receive response driver) (List.finRange _) with
    | (.noError, driver) => (.noError, { driver with floats := assemble driver.words })
    | failed => failed

def report (driver : Driver model) (quantity : Quantity model.floats) : Bytes × Bytes :=
  (quantity.name, unit.convertDataToString driver.floats[quantity.index].bits)

def outOfRange (driver : Driver model) (quantity : Quantity model.floats) : Option Bytes :=
  let bits := driver.floats[quantity.index].bits
  if validateData unit bits quantity.min quantity.max = .dataOutOfRange then
    some (quantity.outOfRange ++ unit.convertDataToString bits)
  else none

def getData (driver : Driver model) (bus : Bus model) (dataList : List (Bytes × Bytes)) :
    SensorStatus × List (Bytes × Bytes) × Driver model :=
  match getReadyStatus driver bus.statusWrite bus.statusRead with
  | (.noAckError, driver) => (.disconnect, dataList, driver)
  | (_, driver) =>
      if driver.ready.value = SensorError.isReady.code then
        match readMeasurement driver bus.measurementWrite bus.measurementRead with
        | (.noError, driver) =>
            (.dataOk, dataList ++ model.quantities.map (report unit driver),
              { driver with dataOorList := model.quantities.filterMap (outOfRange unit driver) })
        | (.noAckError, driver) => (.disconnect, dataList, driver)
        | (_, driver) => (.dataCrcErr, dataList, driver)
      else (.dataNotRdy, dataList, driver)

def scd30 : Model where
  getReadyStat := 0x0202
  readMeas := 0x0300
  polynomial := 0x31
  crcInit := 0xff
  floats := 3
  size := 34
  fits := by decide
  quantities :=
    [⟨str "co2", str "_co2_out_of_range_", 0, 10000, 0⟩,
      ⟨str "temperature", str "_temperature_out_of_range_", -40, 70, 1⟩,
      ⟨str "humidity", str "_humidity_out_of_range_", 0, 100, 2⟩]
  reports := List.cons_ne_nil _ _

namespace Scd30

def calcCrc2b : UInt16 → UInt8 := SensorsLib.calcCrc2b scd30

def checkCrc2b : UInt16 → UInt8 → SensorError := SensorsLib.checkCrc2b scd30

def getReadyStatus : Driver scd30 → Int → Response 3 → SensorError × Driver scd30 :=
  SensorsLib.getReadyStatus

def readMeasurement : Driver scd30 → Int → Response 18 → SensorError × Driver scd30 :=
  SensorsLib.readMeasurement

def getData : Driver scd30 → Bus scd30 → List (Bytes × Bytes) →
    SensorStatus × List (Bytes × Bytes) × Driver scd30 :=
  SensorsLib.getData unit

end Scd30

def sps30 : Model where
  getReadyStat := 0x0202
  readMeas := 0x0300
  polynomial := 0x31
  crcInit := 0xff
  floats := 10
  size := 60
  fits := by decide
  quantities :=
    [⟨str "PM2.5_mass", str "_PM2.5_mass_out_of_range_", 0, 1000, 1⟩,
      ⟨str "PM10_mass", str "_PM10_mass_out_of_range_", 0, 1000, 3⟩]
  reports := List.cons_ne_nil _ _

namespace Sps30

def calcCrc2b : UInt16 → UInt8 := SensorsLib.calcCrc2b sps30

def checkCrc2b : UInt16 → UInt8 → SensorError := SensorsLib.checkCrc2b sps30

def getReadyStatus : Driver sps30 → Int → Response 3 → SensorError × Driver sps30 :=
  SensorsLib.getReadyStatus

def readMeasurement : Driver sps30 → Int → Response 60 → SensorError × Driver sps30 :=
  SensorsLib.readMeasurement

def getData : Driver sps30 → Bus sps30 → List (Bytes × Bytes) →
    SensorStatus × List (Bytes × Bytes) × Driver sps30 :=
  SensorsLib.getData unit

end Sps30

/-! ## What a call relies on -/

/-- The words behind a result `DATA_OK`: the ready word and the words of the reported floats. -/
def relied (driver : Driver model) : List Word :=
  driver.ready :: model.quantities.flatMap fun quantity =>
    [driver.floats[quantity.index].m, driver.floats[quantity.index].l]

def ReadSince (first : Nat) (cell : Cell) : Prop :=
  ∃ read, first ≤ read ∧ cell.origin = some ⟨read, true⟩

variable (model) in
def Passes (word : Word) : Prop := checkCrc2b model word.value word.crc.byte = .noError

variable (model) in
structure Genuine (first : Nat) (word : Word) : Prop where
  passes : Passes model word
  high : ReadSince first word.high
  low : ReadSince first word.low
  crc : ReadSince first word.crc

structure Older (first : Nat) (driver : Driver model) : Prop where
  origin : ∀ i (inside : i < model.size) origin,
    driver.i2cbuff[i].origin = some origin → origin.read < first

section Receive
variable {size first : Nat} {response : Response size} {driver : Driver model} {i : Nat}

theorem origin_receive_of_lt (inside : i < model.size) (stored : i < response.stored.length) :
    (receive response driver).i2cbuff[i].origin = some ⟨driver.reads, response.result = 0⟩ := by
  simp [receive, stored]

theorem receive_of_le (inside : i < model.size) (left : response.stored.length ≤ i) :
    (receive response driver).i2cbuff[i] = driver.i2cbuff[i] := by
  simp [receive, Nat.not_lt.mpr left]

theorem Older.send {cmmd : UInt16} (older : Older first driver) : Older first (send cmmd driver) := by
  refine ⟨fun i inside origin known => ?_⟩
  simp only [SensorsLib.send, Vector.getElem_set] at known
  split at known
  · cases known
  split at known
  · cases known
  · exact older.origin i inside origin known

theorem Older.receive (older : Older driver.reads driver) :
    Older (driver.reads + 1) (receive response driver) := by
  refine ⟨fun i inside origin known => ?_⟩
  rcases Nat.lt_or_ge i response.stored.length with stored | left
  · rw [origin_receive_of_lt inside stored] at known
    cases known
    exact Nat.lt_succ_self driver.reads
  · rw [receive_of_le inside left] at known
    exact Nat.lt_succ_of_lt (older.origin i inside origin known)

theorem readSince_receive_of_completed (inside : i < model.size) (short : i < size)
    (recent : first ≤ driver.reads) (completed : response.result = 0) :
    ReadSince first (receive response driver).i2cbuff[i] := by
  have stored : i < response.stored.length := by rwa [response.whole completed]
  exact ⟨driver.reads, recent, by rw [origin_receive_of_lt inside stored]; simp [completed]⟩

theorem not_readSince_receive_of_failed (inside : i < model.size) (failed : response.result ≠ 0)
    (before : ¬ ReadSince first driver.i2cbuff[i]) :
    ¬ ReadSince first (receive response driver).i2cbuff[i] := by
  rcases Nat.lt_or_ge i response.stored.length with stored | left
  · rintro ⟨read, -, known⟩
    rw [origin_receive_of_lt inside stored] at known
    simp [failed] at known
  · rwa [receive_of_le inside left]

theorem Older.not_readSince (older : Older first driver) (inside : i < model.size) :
    ¬ ReadSince first driver.i2cbuff[i] := by
  rintro ⟨read, recent, known⟩
  exact absurd (older.origin i inside _ known) (Nat.not_lt.mpr recent)

theorem not_readSince_send_zero {cmmd : UInt16} (inside : 0 < model.size) :
    ¬ ReadSince first (send cmmd driver).i2cbuff[0] := by
  simp [send, ReadSince]

theorem send_of_two_le {cmmd : UInt16} (inside : i < model.size) (later : 2 ≤ i) :
    (send cmmd driver).i2cbuff[i] = driver.i2cbuff[i] := by
  simp only [send, Vector.getElem_set]
  rw [if_neg (by omega), if_neg (by omega)]

end Receive

section Call
variable (driver : Driver model) (bus : Bus model)

def statusRead : Driver model := receive bus.statusRead (send model.getReadyStat driver)

def readyWord : Word := wordAt (statusRead driver bus) 0 model.three_le_size

def statusKnown : Driver model := { statusRead driver bus with ready := readyWord driver bus }

def measurementRead : Driver model :=
  receive bus.measurementRead (send model.readMeas (statusKnown driver bus))

def measuredWord (i : Fin (2 * model.floats)) : Word :=
  wordOf (measurementRead driver bus) i

variable {driver bus}

theorem genuine_readyWord_iff (older : Older driver.reads driver) :
    Genuine model driver.reads (readyWord driver bus) ↔
      Passes model (readyWord driver bus) ∧ bus.statusRead.result = 0 := by
  have room := model.three_le_size
  constructor
  · intro genuine
    refine ⟨genuine.passes, ?_⟩
    by_contra failed
    exact not_readSince_receive_of_failed (by omega) failed (older.send.not_readSince (by omega))
      genuine.high
  · rintro ⟨passes, completed⟩
    exact ⟨passes,
      readSince_receive_of_completed (by omega) (by omega) (Nat.le_refl _) completed,
      readSince_receive_of_completed (by omega) (by omega) (Nat.le_refl _) completed,
      readSince_receive_of_completed (by omega) (by omega) (Nat.le_refl _) completed⟩

/-- The first byte of a word is a command byte, or the status read has not stored it. -/
theorem not_readSince_send_high (older : Older driver.reads driver) (i : Fin (2 * model.floats))
    (inside : 3 * i.val < model.size) :
    ¬ ReadSince driver.reads (send model.readMeas (statusKnown driver bus)).i2cbuff[3 * i.val] := by
  rcases Nat.eq_zero_or_pos i.val with first | later
  · simp only [first, Nat.mul_zero]
    exact not_readSince_send_zero (by omega)
  · have short := bus.statusRead.inside
    rw [send_of_two_le inside (by omega), statusKnown, statusRead, receive_of_le inside (by omega)]
    exact older.send.not_readSince inside

theorem genuine_measuredWord_iff (older : Older driver.reads driver) (i : Fin (2 * model.floats)) :
    Genuine model driver.reads (measuredWord driver bus i) ↔
      Passes model (measuredWord driver bus i) ∧ bus.measurementRead.result = 0 := by
  have fits := word_fits i
  constructor
  · intro genuine
    refine ⟨genuine.passes, ?_⟩
    by_contra failed
    exact not_readSince_receive_of_failed (by omega) failed
      (not_readSince_send_high older i (by omega)) genuine.high
  · rintro ⟨passes, completed⟩
    have recent : driver.reads ≤ (send model.readMeas (statusKnown driver bus)).reads := Nat.le_succ _
    exact ⟨passes,
      readSince_receive_of_completed (by omega) (by omega) recent completed,
      readSince_receive_of_completed (by omega) (by omega) recent completed,
      readSince_receive_of_completed (by omega) (by omega) recent completed⟩

end Call

/-! ## One call of `GetData` -/

theorem readWords_frame (driver : Driver model) (indices : List (Fin (2 * model.floats))) :
    (readWords driver indices).2 = { driver with words := (readWords driver indices).2.words } := by
  induction indices generalizing driver with
  | nil => rfl
  | cons i rest ih =>
      simp only [readWords]
      split
      · rfl
      · rw [ih]

theorem readWords_fst (driver : Driver model) (indices : List (Fin (2 * model.floats))) :
    (readWords driver indices).1 = .noError ∧
        (∀ i ∈ indices, Passes model (wordOf driver i)) ∨
      (readWords driver indices).1 = .crcError ∧
        ∃ i ∈ indices, ¬ Passes model (wordOf driver i) := by
  induction indices generalizing driver with
  | nil => exact .inl ⟨rfl, by simp⟩
  | cons i rest ih =>
      simp only [readWords]
      split
      · rename_i wrong
        exact .inr ⟨rfl, i, by simp, by simp [Passes, wrong]⟩
      · rename_i right
        have passes : Passes model (wordOf driver i) := by
          unfold Passes checkCrc2b at *
          split at right <;> simp_all
        rcases ih { driver with words := driver.words.set i (wordOf driver i) } with
          ⟨done, others⟩ | ⟨stopped, j, member, fails⟩
        · exact .inl ⟨done, by simpa [passes] using others⟩
        · exact .inr ⟨stopped, j, List.mem_cons_of_mem i member, fails⟩

theorem readWords_words {driver : Driver model} {indices : List (Fin (2 * model.floats))}
    (done : (readWords driver indices).1 = .noError) {j : Fin (2 * model.floats)}
    (read : j ∈ indices ∨ driver.words[j] = wordOf driver j) :
    (readWords driver indices).2.words[j] = wordOf driver j := by
  induction indices generalizing driver with
  | nil => exact read.resolve_left List.not_mem_nil
  | cons i rest ih =>
      simp only [readWords] at done ⊢
      split at done
      · cases done
      · rename_i right
        simp only [right, ↓reduceIte]
        apply ih done
        rcases eq_or_ne j i with rfl | other
        · exact .inr (Vector.getElem_set_self j.isLt)
        · apply read.imp
          · exact fun member => (List.mem_cons.mp member).resolve_left other
          · intro before
            refine Eq.trans ?_ before
            exact Vector.getElem_set_ne i.isLt j.isLt fun same => other (Fin.ext same.symm)

def Float32.high (i : Fin model.floats) : Fin (2 * model.floats) := ⟨2 * i.val, by omega⟩

def Float32.low (i : Fin model.floats) : Fin (2 * model.floats) := ⟨2 * i.val + 1, by omega⟩

theorem readMeasurement_of_ack (driver : Driver model) {write : Int} (ack : write = 0)
    (response : Response (6 * model.floats)) :
    ∃ error words floats,
      readMeasurement driver write response =
        (error, { receive response (send model.readMeas driver) with words, floats }) ∧
      (error = .noError ∧
          (∀ i, Passes model (wordOf (receive response (send model.readMeas driver)) i)) ∧
          (∀ i : Fin model.floats, floats[i] =
            ⟨wordOf (receive response (send model.readMeas driver)) (Float32.high i),
              wordOf (receive response (send model.readMeas driver)) (Float32.low i)⟩) ∨
        error = .crcError ∧
          ∃ i, ¬ Passes model (wordOf (receive response (send model.readMeas driver)) i)) := by
  generalize read : receive response (send model.readMeas driver) = driver'
  have frame := readWords_frame driver' (List.finRange _)
  have words := @readWords_words model driver' (List.finRange _)
  simp only [readMeasurement, ack, ne_eq, not_true_eq_false, ↓reduceIte, read]
  rcases readWords_fst driver' (List.finRange _) with ⟨done, passes⟩ | ⟨stopped, i, -, fails⟩
  · generalize result : readWords driver' (List.finRange _) = outcome at *
    obtain ⟨error, final⟩ := outcome
    simp only at done frame
    subst done
    rw [frame]
    refine ⟨.noError, _, _, rfl, .inl ⟨rfl, fun i => passes i (List.mem_finRange i), fun i => ?_⟩⟩
    have high := @words rfl (Float32.high i) (.inl (List.mem_finRange _))
    have low := @words rfl (Float32.low i) (.inl (List.mem_finRange _))
    rw [← high, ← low]
    simp [assemble, Float32.high, Float32.low]
  · generalize readWords driver' (List.finRange _) = outcome at *
    obtain ⟨error, final⟩ := outcome
    simp only at stopped frame
    subst stopped
    rw [frame]
    exact ⟨.crcError, _, _, rfl, .inr ⟨rfl, i, fails⟩⟩

/-- Both commands are acknowledged, and what the buffer holds after the reads is taken for a
measurement. -/
structure Accepted (driver : Driver model) (bus : Bus model) : Prop where
  statusWrite : bus.statusWrite = 0
  ready : (readyWord driver bus).value = SensorError.isReady.code
  measurementWrite : bus.measurementWrite = 0
  passes : ∀ i, Passes model (measuredWord driver bus i)

variable {driver : Driver model} {bus : Bus model} {dataList : List (Bytes × Bytes)}

def accepted (driver : Driver model) (bus : Bus model) : List Word :=
  readyWord driver bus :: model.quantities.flatMap fun quantity =>
    [measuredWord driver bus (Float32.high quantity.index),
      measuredWord driver bus (Float32.low quantity.index)]

theorem checkCrc2b_ne_noAckError (seed : UInt16) (crcIn : UInt8) :
    checkCrc2b model seed crcIn ≠ .noAckError := by
  unfold checkCrc2b
  split <;> simp

theorem getReadyStatus_of_ack (ack : bus.statusWrite = 0) :
    getReadyStatus driver bus.statusWrite bus.statusRead =
      (checkCrc2b model (readyWord driver bus).value (readyWord driver bus).crc.byte,
        statusKnown driver bus) := by
  simp [getReadyStatus, ack, readyWord, statusKnown, statusRead]

theorem getData_of_ack (ack : bus.statusWrite = 0) :
    getData unit driver bus dataList =
      if (readyWord driver bus).value = SensorError.isReady.code then
        match readMeasurement (statusKnown driver bus) bus.measurementWrite bus.measurementRead with
        | (.noError, driver) =>
            (.dataOk, dataList ++ model.quantities.map (report unit driver),
              { driver with dataOorList := model.quantities.filterMap (outOfRange unit driver) })
        | (.noAckError, driver) => (.disconnect, dataList, driver)
        | (_, driver) => (.dataCrcErr, dataList, driver)
      else (.dataNotRdy, dataList, statusKnown driver bus) := by
  simp only [getData]
  rw [getReadyStatus_of_ack ack]
  split
  · rename_i answer
    exact absurd (Prod.mk.inj answer).1 (checkCrc2b_ne_noAckError _ _)
  · rename_i answer
    obtain ⟨-, rfl⟩ := Prod.mk.inj answer
    rfl

theorem getData_cases (driver : Driver model) (bus : Bus model) (dataList : List (Bytes × Bytes)) :
    (Accepted driver bus ∧ (getData unit driver bus dataList).1 = .dataOk ∧
      (getData unit driver bus dataList).2.1 =
        dataList ++ model.quantities.map (report unit (getData unit driver bus dataList).2.2) ∧
      relied (getData unit driver bus dataList).2.2 = accepted driver bus) ∨
    (¬ Accepted driver bus ∧ (getData unit driver bus dataList).1 ≠ .dataOk) := by
  by_cases statusWrite : bus.statusWrite = 0
  · rw [getData_of_ack unit statusWrite]
    by_cases ready : (readyWord driver bus).value = SensorError.isReady.code
    · simp only [ready, ↓reduceIte]
      by_cases measurementWrite : bus.measurementWrite = 0
      · obtain ⟨error, words, floats, result, outcome⟩ :=
          readMeasurement_of_ack (statusKnown driver bus) measurementWrite bus.measurementRead
        rw [result]
        rcases outcome with ⟨rfl, passes, values⟩ | ⟨rfl, i, fails⟩
        · left
          refine ⟨⟨statusWrite, ready, measurementWrite, passes⟩, rfl, rfl, ?_⟩
          simp only [relied, accepted, values]
          rfl
        · right
          exact ⟨fun other => fails (other.passes i), by simp⟩
      · right
        refine ⟨fun other => measurementWrite other.measurementWrite, ?_⟩
        simp [readMeasurement, measurementWrite]
    · right
      refine ⟨fun other => ready other.ready, ?_⟩
      simp [ready]
  · right
    refine ⟨fun other => statusWrite other.statusWrite, ?_⟩
    simp [getData, getReadyStatus, statusWrite]

theorem older_readMeasurement (older : Older driver.reads driver) (write : Int)
    (response : Response (6 * model.floats)) :
    Older (readMeasurement driver write response).2.reads (readMeasurement driver write response).2 := by
  by_cases ack : write = 0
  · obtain ⟨error, words, floats, result, -⟩ := readMeasurement_of_ack driver ack response
    rw [result]
    have read : Older (receive response (send model.readMeas driver)).reads
      (receive response (send model.readMeas driver)) := older.send.receive
    exact ⟨read.origin⟩
  · simp only [readMeasurement, ne_eq, ack, not_false_eq_true, ↓reduceIte]
    exact older.send

theorem older_getData (older : Older driver.reads driver) :
    Older (getData unit driver bus dataList).2.2.reads (getData unit driver bus dataList).2.2 := by
  by_cases ack : bus.statusWrite = 0
  · have status : Older (statusKnown driver bus).reads (statusKnown driver bus) :=
      ⟨(older.send.receive).origin⟩
    have measurement := older_readMeasurement status bus.measurementWrite bus.measurementRead
    rw [getData_of_ack unit ack]
    split
    · generalize readMeasurement (statusKnown driver bus) bus.measurementWrite bus.measurementRead =
        outcome at *
      split <;> exact ⟨measurement.origin⟩
    · exact status
  · simp only [getData, getReadyStatus, ne_eq, ack, not_false_eq_true, ↓reduceIte]
    exact older.send

/-! ## Histories of calls -/

variable (model) in
structure Call where
  status : SensorStatus
  data : List (Bytes × Bytes)
  first : Nat
  driver : Driver model

variable (model) in
structure State where
  driver : Driver model
  calls : List (Call model)

/-- A new driver: its members hold what the memory held, and no read has stored anything. -/
def created (memory : Driver model) : State model where
  driver := { memory with i2cbuff := memory.i2cbuff.map fun cell => { cell with origin := none } }
  calls := []

def call (driver : Driver model) (bus : Bus model) : Call model :=
  let (status, data, driver') := getData unit driver bus []
  ⟨status, data, driver.reads, driver'⟩

def step (state : State model) (bus : Bus model) : Option (State model) :=
  let made := call unit state.driver bus
  some { driver := made.driver, calls := state.calls ++ [made] }

def Sound (call : Call model) : Prop :=
  call.status = .dataOk →
    call.data = model.quantities.map (report unit call.driver) ∧
    ∀ word ∈ relied call.driver, Genuine model call.first word

structure Completed (driver : Driver model) (bus : Bus model) : Prop where
  statusRead : bus.statusRead.result = 0
  passes : Passes model (readyWord driver bus)
  measurementRead : bus.measurementRead.result = 0

def AcceptsCompleted (state : State model) (bus : Bus model) : Prop :=
  Accepted state.driver bus → Completed state.driver bus

structure Inv (state : State model) : Prop where
  older : Older state.driver.reads state.driver
  sound : ∀ call ∈ state.calls, Sound unit call

theorem genuine_accepted_iff (older : Older driver.reads driver) (isAccepted : Accepted driver bus) :
    (∀ word ∈ accepted driver bus, Genuine model driver.reads word) ↔ Completed driver bus := by
  constructor
  · intro genuine
    have ready := (genuine_readyWord_iff older).mp (genuine _ (List.mem_cons_self ..))
    cases reported : model.quantities with
    | nil => exact absurd reported model.reports
    | cons quantity rest =>
        have high := genuine (measuredWord driver bus (Float32.high quantity.index))
          (by simp [accepted, reported])
        exact ⟨ready.2, ready.1, ((genuine_measuredWord_iff older _).mp high).2⟩
  · intro completed word member
    have every (i : Fin (2 * model.floats)) : Genuine model driver.reads (measuredWord driver bus i) :=
      (genuine_measuredWord_iff older i).mpr ⟨isAccepted.passes i, completed.measurementRead⟩
    rcases List.mem_cons.mp member with rfl | member
    · exact (genuine_readyWord_iff older).mpr ⟨completed.passes, completed.statusRead⟩
    · obtain ⟨quantity, -, member⟩ := List.mem_flatMap.mp member
      rcases List.mem_pair.mp member with rfl | rfl
      · exact every _
      · exact every _

theorem sound_call_iff (older : Older driver.reads driver) :
    Sound unit (call unit driver bus) ↔ (Accepted driver bus → Completed driver bus) := by
  rcases getData_cases unit driver bus [] with ⟨isAccepted, ok, data, words⟩ | ⟨other, failed⟩
  · rw [List.nil_append] at data
    simp only [Sound, call, ok, ← data, words, genuine_accepted_iff older isAccepted, true_and, forall_const,
      isAccepted]
  · simp [Sound, call, failed, other]

theorem inv_created (memory : Driver model) : Inv unit (created memory) where
  older := ⟨fun i inside origin known => by simp [created] at known⟩
  sound := by simp [created]

theorem inv_step (state : State model) (bus : Bus model) (next : State model) (inv : Inv unit state)
    (completed : AcceptsCompleted state bus) (taken : step unit state bus = some next) :
    Inv unit next := by
  cases taken
  refine ⟨older_getData unit inv.older, fun call member => ?_⟩
  rcases List.mem_append.mp member with earlier | last
  · exact inv.sound call earlier
  · rw [List.mem_singleton.mp last]
    exact (sound_call_iff unit inv.older).mpr completed

theorem not_sound_of_incomplete (state : State model) (bus : Bus model) (next : State model)
    (inv : Inv unit state) (incomplete : ¬ AcceptsCompleted state bus)
    (taken : step unit state bus = some next) : ¬ ∀ call ∈ next.calls, Sound unit call := by
  cases taken
  intro sound
  exact incomplete ((sound_call_iff unit inv.older).mp (sound _ (List.mem_append_right _ (by simp))))

theorem everySound_iff (memory : Driver model) (history : List (Bus model)) :
    EveryState (step unit) (fun state => ∀ call ∈ state.calls, Sound unit call) (created memory) history ↔
      EveryStep (step unit) AcceptsCompleted (created memory) history :=
  everyState_iff_everyStep (fun _ inv => inv.sound) (inv_step unit) (not_sound_of_incomplete unit)
    (inv_created unit memory) history

/-- Both drivers report genuine words only, exactly in the histories where each call that takes its
buffer for a measurement has completed its reads and checked the ready word. -/
theorem genuine_iff_acceptsCompleted :
    (∀ (memory : Driver scd30) (history : List (Bus scd30)),
      EveryState (step unit) (fun state => ∀ call ∈ state.calls, Sound unit call)
          (created memory) history ↔
        EveryStep (step unit) AcceptsCompleted (created memory) history) ∧
    (∀ (memory : Driver sps30) (history : List (Bus sps30)),
      EveryState (step unit) (fun state => ∀ call ∈ state.calls, Sound unit call)
          (created memory) history ↔
        EveryStep (step unit) AcceptsCompleted (created memory) history) :=
  ⟨everySound_iff unit, everySound_iff unit⟩

def zeros (words : Nat) : List UInt8 := (List.replicate words [0, 0, 0x81]).flatten

theorem length_zeros (words : Nat) : (zeros words).length = 3 * words := by
  simp [zeros, Nat.mul_comm]

variable (model) in
def zeroDriver : Driver model :=
  have zeroWord : Word := ⟨⟨0, none⟩, ⟨0, none⟩, ⟨0, none⟩⟩
  ⟨Vector.replicate _ ⟨0, none⟩, zeroWord, Vector.replicate _ zeroWord,
    Vector.replicate _ ⟨zeroWord, zeroWord⟩, [], 0⟩

def readyOne : Response 3 := ⟨0, [0, 1, 0xb0], by decide, by decide⟩

variable (model) in
def goodThenCut : List (Bus model) :=
  have whole : (zeros (2 * model.floats)).length = 6 * model.floats := by
    rw [length_zeros]
    omega
  have cut : (zeros 1).length ≤ 6 * model.floats := by
    rw [length_zeros]
    have room := model.three_le_response
    omega
  [⟨0, readyOne, 0, ⟨0, zeros (2 * model.floats), Nat.le_of_eq whole, fun _ => whole⟩⟩,
    ⟨0, readyOne, 0, ⟨1, zeros 1, cut, by simp⟩⟩]

def zeroUnit : FloatUnit := ⟨fun _ => str "0.00", fun _ _ => false, fun _ _ => false⟩

/-- The call reports a word with a byte that an earlier call has read. -/
def stale (call : Call model) : Bool :=
  call.status = .dataOk && (relied call.driver).any fun word =>
    word.low.origin.any fun origin => origin.read < call.first

theorem not_sound_of_stale {call : Call model} (isStale : stale call = true) : ¬ Sound unit call := by
  intro sound
  simp only [stale, Bool.and_eq_true, decide_eq_true_eq, List.any_eq_true,
    Option.any_eq_true] at isStale
  obtain ⟨ok, word, member, origin, known, earlier⟩ := isStale
  obtain ⟨read, recent, same⟩ := ((sound ok).2 word member).low
  rw [same] at known
  cases known
  exact absurd earlier (Nat.not_lt.mpr recent)

theorem not_everySound_of_stale {memory : Driver model} {history : List (Bus model)}
    (reached : (run (step unit) (created memory) history).any (fun final => final.calls.any stale) = true) :
    ¬ EveryState (step unit) (fun state => ∀ call ∈ state.calls, Sound unit call)
      (created memory) history := by
  intro every
  obtain ⟨final, reaches, found⟩ := (Option.any_eq_true _ _).mp reached
  obtain ⟨call, member, isStale⟩ := List.any_eq_true.mp found
  exact not_sound_of_stale unit isStale (every.last reaches call member)

/-- After a good measurement, one whose read is cut off reports the words of the first. -/
theorem genuine_violated :
    (¬ ∀ unit memory (history : List (Bus scd30)),
      EveryState (step unit) (fun state => ∀ call ∈ state.calls, Sound unit call)
        (created memory) history) ∧
    (¬ ∀ unit memory (history : List (Bus sps30)),
      EveryState (step unit) (fun state => ∀ call ∈ state.calls, Sound unit call)
        (created memory) history) := by
  constructor
  · intro always
    have reached : (run (step zeroUnit) (created (zeroDriver scd30)) (goodThenCut scd30)).any
        (fun final => final.calls.any stale) = true := by decide +kernel
    exact not_everySound_of_stale zeroUnit reached (always zeroUnit _ _)
  · intro always
    have reached : (run (step zeroUnit) (created (zeroDriver sps30)) (goodThenCut sps30)).any
        (fun final => final.calls.any stale) = true := by decide +kernel
    exact not_everySound_of_stale zeroUnit reached (always zeroUnit _ _)

end DecadaEmbedded.SensorsLib
