import DecadaEmbedded.Library.BigEndian
import DecadaEmbedded.SensorsLib.Checksum

/-!
# `Sps30::ReadMeasurement`, statement by statement

`sps30.cpp` writes out twenty extractions of a word, ten combinations of two words and ten readings
of a combination as a float. They are the rows of the three tables here, with the offsets and the
members that the source names. A float is given by its bits.
-/

namespace DecadaEmbedded.SensorsLib.Measurement
open Library

inductive Reading where
  | mass1p0 | mass2p5 | mass4p0 | mass10p0
  | num0p5 | num1p0 | num2p5 | num4p0 | num10p0
  | typPmSize
deriving DecidableEq, Repr

/-- The suffix of a member that holds one word of a reading. -/
inductive Half where
  | m | l
deriving DecidableEq, Repr

structure Sps30 where
  i2cbuff : Vector UInt8 60
  words : Reading × Half → UInt16
  ints : Reading → UInt32
  floats : Reading → UInt32

structure Extraction where
  high : Fin 60
  low : Fin 60
  crc : Fin 60
  member : Reading × Half
deriving DecidableEq, Repr

def extractions : List Extraction :=
  [⟨0, 1, 2, .mass1p0, .m⟩, ⟨3, 4, 5, .mass1p0, .l⟩,
    ⟨6, 7, 8, .mass2p5, .m⟩, ⟨9, 10, 11, .mass2p5, .l⟩,
    ⟨12, 13, 14, .mass4p0, .m⟩, ⟨15, 16, 17, .mass4p0, .l⟩,
    ⟨18, 19, 20, .mass10p0, .m⟩, ⟨21, 22, 23, .mass10p0, .l⟩,
    ⟨24, 25, 26, .num0p5, .m⟩, ⟨27, 28, 29, .num0p5, .l⟩,
    ⟨30, 31, 32, .num1p0, .m⟩, ⟨33, 34, 35, .num1p0, .l⟩,
    ⟨36, 37, 38, .num2p5, .m⟩, ⟨39, 40, 41, .num2p5, .l⟩,
    ⟨42, 43, 44, .num4p0, .m⟩, ⟨45, 46, 47, .num4p0, .l⟩,
    ⟨48, 49, 50, .num10p0, .m⟩, ⟨51, 52, 53, .num10p0, .l⟩,
    ⟨54, 55, 56, .typPmSize, .m⟩, ⟨57, 58, 59, .typPmSize, .l⟩]

structure Combination where
  target : Reading
  high : Reading × Half
  low : Reading × Half
deriving DecidableEq, Repr

def combinations : List Combination :=
  [⟨.mass1p0, (.mass1p0, .m), (.mass1p0, .l)⟩,
    ⟨.mass2p5, (.mass2p5, .m), (.mass2p5, .l)⟩,
    ⟨.mass4p0, (.mass4p0, .m), (.mass4p0, .l)⟩,
    ⟨.mass10p0, (.mass10p0, .m), (.mass10p0, .l)⟩,
    ⟨.num0p5, (.num0p5, .m), (.num0p5, .l)⟩,
    ⟨.num1p0, (.num1p0, .m), (.num1p0, .l)⟩,
    ⟨.num2p5, (.num2p5, .m), (.num2p5, .l)⟩,
    ⟨.num4p0, (.num4p0, .m), (.num4p0, .l)⟩,
    ⟨.num10p0, (.num10p0, .m), (.num10p0, .l)⟩,
    ⟨.typPmSize, (.typPmSize, .m), (.typPmSize, .l)⟩]

structure Cast where
  target : Reading
  source : Reading
deriving DecidableEq, Repr

def casts : List Cast :=
  [⟨.mass1p0, .mass1p0⟩, ⟨.mass2p5, .mass2p5⟩, ⟨.mass4p0, .mass4p0⟩, ⟨.mass10p0, .mass10p0⟩,
    ⟨.num0p5, .num0p5⟩, ⟨.num1p0, .num1p0⟩, ⟨.num2p5, .num2p5⟩, ⟨.num4p0, .num4p0⟩, ⟨.num10p0, .num10p0⟩,
    ⟨.typPmSize, .typPmSize⟩]

def stat (i2cbuff : Vector UInt8 60) (extraction : Extraction) : UInt16 :=
  i2cbuff[extraction.high].toUInt16 <<< 8 ||| i2cbuff[extraction.low].toUInt16

def Sps30.extract (sensor : Sps30) (extraction : Extraction) : Sps30 :=
  { sensor with
    words := Function.update sensor.words extraction.member (stat sensor.i2cbuff extraction) }

def Sps30.extractAll (sensor : Sps30) : List Extraction → SensorError × Sps30
  | [] => (.noError, sensor)
  | extraction :: rest =>
      let dat := Sps30.checkCrc2b (stat sensor.i2cbuff extraction) sensor.i2cbuff[extraction.crc]
      if dat = .crcError then (.crcError, sensor.extract extraction)
      else (sensor.extract extraction).extractAll rest

def Sps30.combine (sensor : Sps30) (combination : Combination) : Sps30 :=
  { sensor with
    ints := Function.update sensor.ints combination.target
      ((sensor.words combination.high).toUInt32 <<< 16 ||| (sensor.words combination.low).toUInt32) }

def Sps30.cast (sensor : Sps30) (cast : Cast) : Sps30 :=
  { sensor with floats := Function.update sensor.floats cast.target (sensor.ints cast.source) }

def Sps30.send (sensor : Sps30) (cmmd : UInt16) : Sps30 :=
  { sensor with
    i2cbuff := (sensor.i2cbuff.setIfInBounds 0 (cmmd >>> 8).toUInt8).setIfInBounds 1 cmmd.toUInt8 }

def Sps30.receive (sensor : Sps30) (response : Response 60) : Sps30 :=
  { sensor with
    i2cbuff := Vector.ofFn fun i =>
      if inside : i < response.stored.length then response.stored[i] else sensor.i2cbuff[i] }

def Sps30.readMeasurement (sensor : Sps30) (write : Int) (response : Response 60) :
    SensorError × Sps30 :=
  let sensor := sensor.send sps30.readMeas
  if write ≠ 0 then (.noAckError, sensor)
  else
    match (sensor.receive response).extractAll extractions with
    | (.noError, sensor) => (.noError, casts.foldl Sps30.cast (combinations.foldl Sps30.combine sensor))
    | failed => failed

/-! ## The twenty extractions -/

def Passes (i2cbuff : Vector UInt8 60) (extraction : Extraction) : Prop :=
  Sps30.calcCrc2b (stat i2cbuff extraction) = i2cbuff[extraction.crc]

theorem extractAll_frame (sensor : Sps30) (rows : List Extraction) :
    (sensor.extractAll rows).2 = { sensor with words := (sensor.extractAll rows).2.words } := by
  induction rows generalizing sensor with
  | nil => rfl
  | cons row rest ih =>
      simp only [Sps30.extractAll]
      split
      · rfl
      · rw [ih]
        rfl

theorem extractAll_fst (sensor : Sps30) (rows : List Extraction) :
    (sensor.extractAll rows).1 = .noError ∧ (∀ row ∈ rows, Passes sensor.i2cbuff row) ∨
      (sensor.extractAll rows).1 = .crcError ∧ ∃ row ∈ rows, ¬ Passes sensor.i2cbuff row := by
  induction rows generalizing sensor with
  | nil =>
      left
      exact ⟨rfl, by simp⟩
  | cons row rest ih =>
      simp only [Sps30.extractAll]
      split
      · rename_i wrong
        right
        exact ⟨rfl, row, List.mem_cons_self .., (checkCrc2b_eq_crcError_iff _ _ _).mp wrong⟩
      · rename_i right'
        have passes : Passes sensor.i2cbuff row := by
          by_contra fails
          exact right' ((checkCrc2b_eq_crcError_iff _ _ _).mpr fails)
        rcases ih (sensor.extract row) with ⟨done, others⟩ | ⟨stopped, other, member, fails⟩
        · left
          exact ⟨done, List.forall_mem_cons.mpr ⟨passes, others⟩⟩
        · right
          exact ⟨stopped, other, List.mem_cons_of_mem row member, fails⟩

/-- A member that no later row writes keeps what it was given. -/
theorem extractAll_words_of_notMem (sensor : Sps30) (rows : List Extraction) {member : Reading × Half}
    (apart : member ∉ rows.map Extraction.member) :
    (sensor.extractAll rows).2.words member = sensor.words member := by
  induction rows generalizing sensor with
  | nil => rfl
  | cons row rest ih =>
      rw [List.map_cons, List.mem_cons, not_or] at apart
      have kept : (sensor.extract row).words member = sensor.words member :=
        Function.update_of_ne apart.1 _ _
      simp only [Sps30.extractAll]
      split
      · exact kept
      · rw [ih _ apart.2, kept]

theorem extractAll_words (sensor : Sps30) (rows : List Extraction)
    (distinct : (rows.map Extraction.member).Nodup) (done : (sensor.extractAll rows).1 = .noError) :
    ∀ row ∈ rows, (sensor.extractAll rows).2.words row.member = stat sensor.i2cbuff row := by
  induction rows generalizing sensor with
  | nil => simp
  | cons row rest ih =>
      rw [List.map_cons, List.nodup_cons] at distinct
      simp only [Sps30.extractAll] at done ⊢
      split at done
      · cases done
      · rename_i right
        rw [if_neg right]
        intro other member
        rcases List.mem_cons.mp member with rfl | later
        · rw [extractAll_words_of_notMem _ _ distinct.1]
          exact Function.update_self _ _ _
        · exact ih _ distinct.2 done other later

/-! ## The ten combinations and the ten floats -/

def readings : List Reading :=
  [.mass1p0, .mass2p5, .mass4p0, .mass10p0, .num0p5, .num1p0, .num2p5, .num4p0, .num10p0, .typPmSize]

def Reading.nth (j : Fin 10) : Reading := readings.get j

def member (k : Fin 20) : Reading × Half :=
  (.nth ⟨k.val / 2, by omega⟩, if k.val % 2 = 0 then .m else .l)

theorem member_high : ∀ j : Fin 10, member ⟨2 * j.val, by omega⟩ = (.nth j, .m) := by decide

theorem member_low : ∀ j : Fin 10, member ⟨2 * j.val + 1, by omega⟩ = (.nth j, .l) := by decide

theorem mem_readings (target : Reading) : target ∈ readings := by
  cases target <;> decide

def combination (reading : Reading) : Combination := ⟨reading, (reading, .m), (reading, .l)⟩

theorem combinations_eq : combinations = readings.map combination := rfl

theorem casts_eq : casts = readings.map fun reading => ⟨reading, reading⟩ := rfl

def combined (words : Reading × Half → UInt16) (reading : Reading) : UInt32 :=
  (words (reading, .m)).toUInt32 <<< 16 ||| (words (reading, .l)).toUInt32

theorem foldl_combine (sensor : Sps30) (targets : List Reading) :
    (targets.map combination).foldl Sps30.combine sensor =
      { sensor with
        ints := fun reading =>
          if reading ∈ targets then combined sensor.words reading else sensor.ints reading } := by
  induction targets generalizing sensor with
  | nil => simp
  | cons target rest ih =>
      rw [List.map_cons, List.foldl_cons, ih]
      simp only [Sps30.combine, combination, Sps30.mk.injEq, true_and, and_true]
      funext reading
      rcases eq_or_ne reading target with rfl | other
      · simp [combined]
      · simp [other]

theorem foldl_cast (sensor : Sps30) (targets : List Reading) :
    (targets.map fun reading => (⟨reading, reading⟩ : Cast)).foldl Sps30.cast sensor =
      { sensor with
        floats := fun reading =>
          if reading ∈ targets then sensor.ints reading else sensor.floats reading } := by
  induction targets generalizing sensor with
  | nil => simp
  | cons target rest ih =>
      rw [List.map_cons, List.foldl_cons, ih]
      simp only [Sps30.cast, Sps30.mk.injEq, true_and]
      funext reading
      rcases eq_or_ne reading target with rfl | other
      · simp
      · simp [other]

theorem foldl_casts_combinations (sensor : Sps30) :
    casts.foldl Sps30.cast (combinations.foldl Sps30.combine sensor) =
      { sensor with ints := combined sensor.words, floats := combined sensor.words } := by
  rw [combinations_eq, foldl_combine, casts_eq, foldl_cast]
  simp [mem_readings]

/-! ## A whole response -/

def acknowledged (bytes : Vector UInt8 60) : Response 60 where
  result := 0
  stored := bytes.toList
  inside := by simp
  whole := by simp

def WordChecks (bytes : Vector UInt8 60) (k : Fin 20) : Prop :=
  Crc.Checks (0x31 : BitVec 8) 0xff [bytes[3 * k.val].toBitVec, bytes[3 * k.val + 1].toBitVec]
    bytes[3 * k.val + 2].toBitVec

def payload (bytes : Vector UInt8 60) (j : Fin 10) : List UInt8 :=
  [bytes[6 * j.val], bytes[6 * j.val + 1], bytes[6 * j.val + 3], bytes[6 * j.val + 4]]

theorem receive_acknowledged (sensor : Sps30) (cmmd : UInt16) (bytes : Vector UInt8 60) :
    (sensor.send cmmd).receive (acknowledged bytes) = { sensor with i2cbuff := bytes } := by
  have same : (Vector.ofFn fun i : Fin 60 =>
      if inside : i < (acknowledged bytes).stored.length then (acknowledged bytes).stored[i]
      else (sensor.send cmmd).i2cbuff[i]) = bytes := by
    apply Vector.ext
    intro i inside
    simp [acknowledged]
  simp only [Sps30.receive, same]
  rfl

def row (k : Fin 20) (member : Reading × Half) : Extraction :=
  ⟨⟨3 * k.val, by omega⟩, ⟨3 * k.val + 1, by omega⟩, ⟨3 * k.val + 2, by omega⟩, member⟩

theorem distinct_members : (extractions.map Extraction.member).Nodup := by decide

theorem extractions_eq : extractions = (List.finRange 20).map fun k => row k (member k) := by decide

theorem row_mem_extractions (k : Fin 20) : row k (member k) ∈ extractions := by
  rw [extractions_eq]
  exact List.mem_map_of_mem (List.mem_finRange k)

theorem passes_row_iff (bytes : Vector UInt8 60) (k : Fin 20) (member : Reading × Half) :
    Passes bytes (row k member) ↔ WordChecks bytes k :=
  calcCrc2b_word_iff sps30 _ _ _

theorem passes_iff (bytes : Vector UInt8 60) :
    (∀ extraction ∈ extractions, Passes bytes extraction) ↔ ∀ k, WordChecks bytes k := by
  rw [extractions_eq, List.forall_mem_map]
  simp only [passes_row_iff, List.mem_finRange, forall_const]

theorem toNat_combined (m l : UInt16) :
    (m.toUInt32 <<< 16 ||| l.toUInt32).toNat = 65536 * m.toNat + l.toNat := by
  have highBound := m.toNat_lt
  have lowBound : l.toNat < 2 ^ 16 := l.toNat_lt
  simp only [UInt32.toNat_or, UInt32.toNat_shiftLeft, UInt16.toNat_toUInt32]
  rw [show UInt32.toNat 16 % 32 = 16 by rfl, Nat.shiftLeft_eq, Nat.mod_eq_of_lt (by omega), ← Nat.shiftLeft_eq,
    ← Nat.shiftLeft_add_eq_or_of_lt lowBound, Nat.shiftLeft_eq]
  omega

theorem toNat_combined_stat (bytes : Vector UInt8 60) {words : Reading × Half → UInt16}
    (read : ∀ extraction ∈ extractions, words extraction.member = stat bytes extraction) (j : Fin 10) :
    (combined words (.nth j)).toNat = bigEndian (payload bytes j) := by
  have high := read _ (row_mem_extractions ⟨2 * j.val, by omega⟩)
  have low := read _ (row_mem_extractions ⟨2 * j.val + 1, by omega⟩)
  simp only [row, stat, member_high, member_low] at high low
  rw [combined, toNat_combined, high, low, toNat_word, toNat_word]
  simp only [payload, bigEndian, List.foldl_cons, List.foldl_nil, Fin.getElem_fin,
    show 3 * (2 * j.val) = 6 * j.val by omega, show 3 * (2 * j.val + 1) = 6 * j.val + 3 by omega,
    Nat.add_assoc, Nat.reduceAdd]
  omega

theorem Sps30.readMeasurement_of_noError (sensor : Sps30) (response : Response 60)
    (done : (((sensor.send sps30.readMeas).receive response).extractAll extractions).1 = .noError) :
    sensor.readMeasurement 0 response =
      (.noError, casts.foldl Sps30.cast (combinations.foldl Sps30.combine
        (((sensor.send sps30.readMeas).receive response).extractAll extractions).2)) := by
  rw [Sps30.readMeasurement, if_neg (not_not.mpr rfl)]
  generalize Sps30.extractAll _ extractions = outcome at *
  obtain ⟨error, after⟩ := outcome
  cases done
  rfl

theorem Sps30.readMeasurement_of_ne_noError (sensor : Sps30) (response : Response 60)
    (stopped : (((sensor.send sps30.readMeas).receive response).extractAll extractions).1 ≠ .noError) :
    sensor.readMeasurement 0 response =
      ((sensor.send sps30.readMeas).receive response).extractAll extractions := by
  rw [Sps30.readMeasurement, if_neg (not_not.mpr rfl)]
  generalize Sps30.extractAll _ extractions = outcome at *
  obtain ⟨error, after⟩ := outcome
  cases error with
  | noError => exact absurd rfl stopped
  | isReady => rfl
  | noAckError => rfl
  | crcError => rfl

/-- A response is accepted exactly when its twenty words check. The fields are then its numbers in
order, and otherwise they stay. -/
theorem readMeasurement_acknowledged (sensor : Sps30) (bytes : Vector UInt8 60) :
    ((sensor.readMeasurement 0 (acknowledged bytes)).1 = .noError ↔ ∀ k, WordChecks bytes k) ∧
    ((sensor.readMeasurement 0 (acknowledged bytes)).1 = .noError →
      (∀ j : Fin 10, ((sensor.readMeasurement 0 (acknowledged bytes)).2.ints (.nth j)).toNat =
        bigEndian (payload bytes j)) ∧
      (sensor.readMeasurement 0 (acknowledged bytes)).2.floats =
        (sensor.readMeasurement 0 (acknowledged bytes)).2.ints) ∧
    ((sensor.readMeasurement 0 (acknowledged bytes)).1 ≠ .noError →
      (sensor.readMeasurement 0 (acknowledged bytes)).2.ints = sensor.ints ∧
      (sensor.readMeasurement 0 (acknowledged bytes)).2.floats = sensor.floats) := by
  have received := receive_acknowledged sensor sps30.readMeas bytes
  rw [← passes_iff]
  rcases extractAll_fst { sensor with i2cbuff := bytes } extractions with
    ⟨done, passes⟩ | ⟨stopped, extraction, member, fails⟩
  · have words := extractAll_words { sensor with i2cbuff := bytes } extractions distinct_members done
    rw [sensor.readMeasurement_of_noError (acknowledged bytes) (by rw [received, done]), received,
      foldl_casts_combinations]
    refine ⟨by simpa using passes, fun _ => ⟨fun j => ?_, rfl⟩, by simp⟩
    exact toNat_combined_stat bytes words j
  · have frame := extractAll_frame { sensor with i2cbuff := bytes } extractions
    rw [sensor.readMeasurement_of_ne_noError (acknowledged bytes) (by rw [received, stopped]; decide), received,
      frame, stopped]
    refine ⟨⟨by simp, fun every => absurd (every extraction member) fails⟩, by simp, by simp⟩

/-! ## The driver of both sensors -/

section Accessors
variable {model : Model} (driver : Driver model)

def byteAt (i : Nat) : UInt8 := (driver.i2cbuff[i]?.map Cell.byte).getD 0

def valueAt (k : Nat) : UInt16 := (driver.words[k]?.map Word.value).getD 0

def bitsAt (j : Nat) : UInt32 := (driver.floats[j]?.map Float32.bits).getD 0

theorem byteAt_eq {i : Nat} (inside : i < model.size) : byteAt driver i = driver.i2cbuff[i].byte := by
  simp [byteAt, inside]

theorem valueAt_eq {k : Nat} (inside : k < 2 * model.floats) :
    valueAt driver k = driver.words[k].value := by
  simp [valueAt, inside]

theorem byteAt_send (cmmd : UInt16) {i : Nat} (inside : i < model.size) :
    byteAt (send cmmd driver) i =
      if 1 = i then cmmd.toUInt8 else if 0 = i then (cmmd >>> 8).toUInt8 else byteAt driver i := by
  rw [byteAt_eq _ inside, byteAt_eq _ inside, send, Vector.getElem_set, Vector.getElem_set]
  split_ifs <;> rfl

theorem byteAt_receive {size : Nat} (response : Response size) {i : Nat} (inside : i < model.size) :
    byteAt (receive response driver) i =
      if stored : i < response.stored.length then response.stored[i] else byteAt driver i := by
  rw [byteAt_eq _ inside, byteAt_eq _ inside, receive, Vector.getElem_ofFn]
  split_ifs <;> rfl

theorem valueAt_receive {size : Nat} (response : Response size) (k : Nat) :
    valueAt (receive response driver) k = valueAt driver k := rfl

theorem bitsAt_receive {size : Nat} (response : Response size) (j : Nat) :
    bitsAt (receive response driver) j = bitsAt driver j := rfl

theorem value_wordOf (k : Fin (2 * model.floats)) :
    (wordOf driver k).value =
      (byteAt driver (3 * k.val)).toUInt16 <<< 8 ||| (byteAt driver (3 * k.val + 1)).toUInt16 := by
  have fits := word_fits k
  rw [byteAt_eq driver (by omega), byteAt_eq driver (by omega)]
  rfl

theorem crc_wordOf (k : Fin (2 * model.floats)) :
    (wordOf driver k).crc.byte = byteAt driver (3 * k.val + 2) :=
  (byteAt_eq driver (word_fits k)).symm

theorem valueAt_set (k : Fin (2 * model.floats)) (word : Word) {other : Nat}
    (inside : other < 2 * model.floats) :
    valueAt { driver with words := driver.words.set k word } other =
      if k.val = other then word.value else valueAt driver other := by
  rw [valueAt_eq _ inside, valueAt_eq _ inside, Vector.getElem_set]
  split_ifs <;> rfl

theorem bitsAt_assemble {j : Nat} (inside : j < model.floats) :
    bitsAt { driver with floats := assemble driver.words } j =
      (valueAt driver (2 * j)).toUInt32 <<< 16 ||| (valueAt driver (2 * j + 1)).toUInt32 := by
  rw [valueAt_eq driver (by omega), valueAt_eq driver (by omega)]
  simp [bitsAt, assemble, Float32.bits, inside]

theorem readMeasurement_of_nack {write : Int} (nack : write ≠ 0)
    (response : Response (6 * model.floats)) :
    readMeasurement driver write response = (.noAckError, send model.readMeas driver) :=
  if_pos nack

theorem readMeasurement_of_noError (response : Response (6 * model.floats))
    (done : (readWords (receive response (send model.readMeas driver)) (List.finRange _)).1 = .noError) :
    readMeasurement driver 0 response =
      (.noError,
        { (readWords (receive response (send model.readMeas driver)) (List.finRange _)).2 with
          floats :=
            assemble (readWords (receive response (send model.readMeas driver)) (List.finRange _)).2.words }) := by
  rw [readMeasurement, if_neg (not_not.mpr rfl)]
  generalize readWords (receive response (send model.readMeas driver)) (List.finRange _) = outcome at *
  obtain ⟨error, after⟩ := outcome
  cases done
  rfl

theorem readMeasurement_of_ne_noError (response : Response (6 * model.floats))
    (stopped : (readWords (receive response (send model.readMeas driver)) (List.finRange _)).1 ≠ .noError) :
    readMeasurement driver 0 response =
      readWords (receive response (send model.readMeas driver)) (List.finRange _) := by
  rw [readMeasurement, if_neg (not_not.mpr rfl)]
  generalize readWords (receive response (send model.readMeas driver)) (List.finRange _) = outcome at *
  obtain ⟨error, after⟩ := outcome
  cases error with
  | noError => exact absurd rfl stopped
  | isReady => rfl
  | noAckError => rfl
  | crcError => rfl

end Accessors

structure Simulates (driver : Driver sps30) (sensor : Sps30) : Prop where
  i2cbuff : ∀ i : Fin 60, byteAt driver i = sensor.i2cbuff[i]
  words : ∀ k : Fin 20, valueAt driver k = sensor.words (member k)
  floats : ∀ j : Fin 10, bitsAt driver j = sensor.floats (.nth j)

variable {driver : Driver sps30} {sensor : Sps30}

theorem member_injective : Function.Injective member := by
  unfold Function.Injective
  decide

theorem Simulates.send (simulates : Simulates driver sensor) (cmmd : UInt16) :
    Simulates (SensorsLib.send cmmd driver) (sensor.send cmmd) where
  i2cbuff i := by
    rw [byteAt_send driver cmmd i.isLt, simulates.i2cbuff]
    simp [Sps30.send, Vector.getElem_setIfInBounds]
  words := simulates.words
  floats := simulates.floats

theorem Simulates.receive (simulates : Simulates driver sensor)
    (response : Response (6 * sps30.floats)) :
    Simulates (SensorsLib.receive response driver) (sensor.receive response) where
  i2cbuff i := by
    rw [byteAt_receive driver response i.isLt, simulates.i2cbuff]
    simp only [Sps30.receive, Fin.getElem_fin, Vector.getElem_ofFn]
  words k := (valueAt_receive driver response k).trans (simulates.words k)
  floats j := (bitsAt_receive driver response j).trans (simulates.floats j)

theorem Simulates.stat_row (simulates : Simulates driver sensor) (k : Fin 20) :
    (wordOf driver k).value = stat sensor.i2cbuff (row k (member k)) := by
  have high := simulates.i2cbuff (row k (member k)).high
  have low := simulates.i2cbuff (row k (member k)).low
  apply (value_wordOf driver k).trans
  rw [stat, ← high, ← low]
  rfl

theorem Simulates.crc_row (simulates : Simulates driver sensor) (k : Fin 20) :
    (wordOf driver k).crc.byte = sensor.i2cbuff[(row k (member k)).crc] := by
  rw [← simulates.i2cbuff]
  exact crc_wordOf driver k

theorem Simulates.extract (simulates : Simulates driver sensor) (k : Fin 20) :
    Simulates { driver with words := driver.words.set k.val (wordOf driver k) k.isLt }
      (sensor.extract (row k (member k))) where
  i2cbuff := simulates.i2cbuff
  words other := by
    rw [valueAt_set driver k (wordOf driver k) other.isLt, simulates.stat_row, simulates.words]
    rcases eq_or_ne k other with rfl | apart
    · rw [if_pos rfl]
      exact (Function.update_self (member k) _ sensor.words).symm
    · rw [if_neg fun same => apart (Fin.ext same)]
      exact (Function.update_of_ne (fun same => apart (member_injective same).symm) _ sensor.words).symm
  floats := simulates.floats

theorem Simulates.readWords (simulates : Simulates driver sensor)
    (indices : List (Fin 20)) :
    (SensorsLib.readWords driver indices).1 =
        (sensor.extractAll (indices.map fun k => row k (member k))).1 ∧
      Simulates (SensorsLib.readWords driver indices).2
        (sensor.extractAll (indices.map fun k => row k (member k))).2 := by
  induction indices generalizing driver sensor with
  | nil => exact ⟨rfl, simulates⟩
  | cons k rest ih =>
      have step := simulates.extract k
      have same : SensorsLib.checkCrc2b sps30 (wordOf driver k).value (wordOf driver k).crc.byte =
          Sps30.checkCrc2b (stat sensor.i2cbuff (row k (member k)))
            sensor.i2cbuff[(row k (member k)).crc] := by
        rw [simulates.stat_row, simulates.crc_row]
        rfl
      simp only [SensorsLib.readWords, List.map_cons, Sps30.extractAll]
      by_cases wrong : Sps30.checkCrc2b (stat sensor.i2cbuff (row k (member k)))
          sensor.i2cbuff[(row k (member k)).crc] = .crcError
      · rw [if_pos (same.trans wrong), if_pos wrong]
        exact ⟨rfl, step⟩
      · rw [if_neg fun other => wrong (same.symm.trans other), if_neg wrong]
        exact ih step

theorem Simulates.assemble (simulates : Simulates driver sensor) :
    Simulates { driver with floats := assemble driver.words }
      (casts.foldl Sps30.cast (combinations.foldl Sps30.combine sensor)) := by
  rw [foldl_casts_combinations]
  refine ⟨simulates.i2cbuff, simulates.words, fun j => ?_⟩
  have high := simulates.words ⟨2 * j.val, by omega⟩
  have low := simulates.words ⟨2 * j.val + 1, by omega⟩
  rw [member_high] at high
  rw [member_low] at low
  rw [bitsAt_assemble driver j.isLt, high, low]
  rfl

/-- The statements of the source are an instance of the driver that both sensors share. -/
theorem Simulates.readMeasurement (simulates : Simulates driver sensor) (write : Int)
    (response : Response (6 * sps30.floats)) :
    (SensorsLib.readMeasurement driver write response).1 =
        (sensor.readMeasurement write response).1 ∧
      Simulates (SensorsLib.readMeasurement driver write response).2
        (sensor.readMeasurement write response).2 := by
  have sent := simulates.send sps30.readMeas
  rcases eq_or_ne write 0 with rfl | nack
  · have loop := (sent.receive response).readWords (List.finRange (2 * sps30.floats))
    have table : (List.finRange (2 * sps30.floats)).map (fun k => row k (member k)) = extractions :=
      extractions_eq.symm
    rw [table] at loop
    obtain ⟨result, after⟩ := loop
    by_cases done : (Sps30.extractAll ((sensor.send sps30.readMeas).receive response) extractions).1 =
        .noError
    · have shared := readMeasurement_of_noError driver response (result.trans done)
      have unrolled := sensor.readMeasurement_of_noError response done
      rw [shared, unrolled]
      exact ⟨rfl, after.assemble⟩
    · have shared := readMeasurement_of_ne_noError driver response fun other => done (result.symm.trans other)
      have unrolled := sensor.readMeasurement_of_ne_noError response done
      rw [shared, unrolled]
      exact ⟨result, after⟩
  · have shared := readMeasurement_of_nack driver nack response
    have unrolled : sensor.readMeasurement write response = (.noAckError, sensor.send sps30.readMeas) :=
      if_pos nack
    rw [shared, unrolled]
    exact ⟨rfl, sent⟩

end DecadaEmbedded.SensorsLib.Measurement
