import DecadaEmbedded.DoubleToChar
import DecadaEmbedded.SensorsLib
import Mathlib.Tactic.NormNum

/-!
# The driver `sensors-lib/tmp75/tmp75.cpp` and the chip it talks to

A transfer that is not acknowledged leaves the chip's registers as they are. A `float` is the
rational it stands for, and its arithmetic is exact.
-/

namespace DecadaEmbedded.Tmp75
open Library Conversions
open SensorsLib (SensorStatus)

/-! ## The chip -/

inductive Command where
  | readTempReg | configReg | tempLowReg | tempHighReg
deriving DecidableEq, Repr

-- the registers; `configuration` is the upper byte of that register
structure Chip where
  temperature : UInt16
  configuration : UInt8
  tempLow : UInt16
  tempHigh : UInt16
  pointer : Command
deriving DecidableEq, Repr

def confReserved : UInt8 := 0xFF

def word (high low : UInt8) : UInt16 := high.toUInt16 <<< 8 ||| low.toUInt16

-- the one-shot bit always reads as 0
def Chip.store (command : Command) (high low : UInt8) (chip : Chip) : Chip :=
  match command with
  | .readTempReg => chip
  | .configReg => { chip with configuration := high &&& 0x7F }
  | .tempLowReg => { chip with tempLow := word high low }
  | .tempHighReg => { chip with tempHigh := word high low }

def Chip.load (chip : Chip) : UInt16 :=
  match chip.pointer with
  | .readTempReg => chip.temperature
  | .configReg => word chip.configuration confReserved
  | .tempLowReg => chip.tempLow
  | .tempHighReg => chip.tempHigh

/-- The registers after power-up, where every field of the configuration is 0. -/
structure PowerUp where
  temperature : UInt16
  tempLow : UInt16
  tempHigh : UInt16

def Chip.powerUp (values : PowerUp) : Chip :=
  { temperature := values.temperature
    configuration := 0
    tempLow := values.tempLow
    tempHigh := values.tempHigh
    pointer := .readTempReg }

/-! ## The driver -/

inductive TmpStatus where
  | tmpNoAck | tmpAck | tmpOk | tmpAlert | tmpConfigFail
deriving DecidableEq, Repr

structure TmpConfig where
  oneshot : Bool := false
  pol : Bool := false
  tmode : Bool := false
  shutdown : Bool := false
  fqueue : Int := 0
  cvrate : Int := 0
deriving DecidableEq, Repr

-- the constructor leaves the temperatures unassigned
structure Driver where
  tmpConfig : TmpConfig := {}
  active : Bool := false
  tempHigh : ℚ
  tempLow : ℚ
  tempData : ℚ
  chip : Chip

def tmp75 (tempHigh tempLow tempData : ℚ) (values : PowerUp) : Driver :=
  { tempHigh, tempLow, tempData, chip := .powerUp values }

def upperLimit : ℚ := 125

def lowerLimit : ℚ := -40

def resolution : ℚ := 1 / 16

/-- `uint16_t temp = val`: the language leaves the result open where the truncated value does not
fit. -/
structure Conversion where
  toUInt16 : ℚ → UInt16
  truncates : ∀ val, -1 < val → val < 65536 → ((toUInt16 val).toNat : Int) = truncate val

theorem toNat_ofInt (i : Int) : (UInt16.ofInt i).toNat = (i % 65536).toNat := by
  have nonneg := Int.emod_nonneg i (show (65536 : Int) ≠ 0 by decide)
  have below := Int.emod_lt_of_pos i (show (0 : Int) < 65536 by decide)
  rw [UInt16.ofInt, UInt16.toNat_ofNat']
  exact Nat.mod_eq_of_lt (by omega)

-- the conversion that takes a negative value for 0
def nearest : Conversion where
  toUInt16 val := UInt16.ofInt (max 0 (truncate val))
  truncates := by
    intro val above below
    have low : 0 ≤ truncate val := by
      by_contra negative
      exact absurd ((truncate_neg_iff val).mp (not_le.mp negative)) (not_le.mpr above)
    have high : truncate val < 65536 := by
      rcases lt_or_ge val 0 with negative | positive
      · rw [truncate_of_neg negative]
        have floor := Int.floor_nonneg.mpr (neg_nonneg.mpr negative.le)
        omega
      · rw [truncate_of_nonneg positive]
        exact Int.floor_lt.mpr (by exact_mod_cast below)
    rw [toNat_ofInt]
    omega

variable (conversion : Conversion)

structure ReadAcks where
  write : Bool
  read : Bool
deriving DecidableEq, Repr

def write (acked : Bool) (command : Command) (high low : UInt8) (driver : Driver) : Driver :=
  if acked then
    { driver with chip := { driver.chip.store command high low with pointer := command } }
  else driver

def writeCommand (acked : Bool) (command : Command) (driver : Driver) : Driver :=
  if acked then { driver with chip := { driver.chip with pointer := command } } else driver

def checkedField (field : Int) : Int := if field < 0 ∨ 3 < field then 0 else field

def confBuf (config : TmpConfig) : UInt8 :=
  config.oneshot.toUInt8 <<< 7 ||| UInt8.ofInt config.cvrate <<< 5 |||
    UInt8.ofInt config.fqueue <<< 3 ||| config.pol.toUInt8 <<< 2 ||| config.tmode.toUInt8 <<< 1 |||
    config.shutdown.toUInt8

def setConfigReg (acked : Bool) (driver : Driver) : TmpStatus × Driver :=
  let config := { driver.tmpConfig with cvrate := checkedField driver.tmpConfig.cvrate }
  let config := { config with fqueue := checkedField config.fqueue }
  let driver := { driver with tmpConfig := config }
  let driver := write acked .configReg (confBuf config) confReserved driver
  (if acked then .tmpAck else .tmpNoAck, driver)

def setTemp (command : Command) (hold : ℚ → Driver → Driver) (val : ℚ) (acked : Bool)
    (driver : Driver) : TmpStatus × Driver :=
  if val > upperLimit ∨ val < lowerLimit then (.tmpConfigFail, driver)
  else
    let temp := conversion.toUInt16 (val / resolution) <<< 4
    let driver := write acked command (temp >>> 8).toUInt8 (temp &&& 255).toUInt8 driver
    if acked then (.tmpAck, hold val driver) else (.tmpNoAck, driver)

def setTempLow : ℚ → Bool → Driver → TmpStatus × Driver :=
  setTemp conversion .tempLowReg fun val driver => { driver with tempLow := val }

def setTempHigh : ℚ → Bool → Driver → TmpStatus × Driver :=
  setTemp conversion .tempHighReg fun val driver => { driver with tempHigh := val }

def readRegister (command : Command) (hold : ℚ → Driver → Driver) (acks : ReadAcks)
    (driver : Driver) : TmpStatus × Driver :=
  let driver := writeCommand acks.write command driver
  if acks.write then
    if acks.read then
      let stat := driver.chip.load
      (.tmpAck, hold ((stat >>> 4).toNat * resolution) driver)
    else (.tmpNoAck, driver)
  else (.tmpNoAck, driver)

def readTempLow : ReadAcks → Driver → TmpStatus × Driver :=
  readRegister .tempLowReg fun val driver => { driver with tempLow := val }

def readTempHigh : ReadAcks → Driver → TmpStatus × Driver :=
  readRegister .tempHighReg fun val driver => { driver with tempHigh := val }

def readTemp : ReadAcks → Driver → TmpStatus × Driver :=
  readRegister .readTempReg fun val driver => { driver with tempData := val }

def readAlert (pin : Bool) (driver : Driver) : TmpStatus :=
  if pin = driver.tmpConfig.pol then .tmpAlert else .tmpOk

def startMeasurement (acked : Bool) (driver : Driver) : TmpStatus × Driver :=
  setConfigReg acked
    { driver with tmpConfig := { driver.tmpConfig with oneshot := false, shutdown := false } }

def stopMeasurement (acked : Bool) (driver : Driver) : TmpStatus × Driver :=
  setConfigReg acked { driver with tmpConfig := { driver.tmpConfig with shutdown := true } }

-- the general call resets the registers
def hardReset (values : PowerUp) (acked : Bool) (driver : Driver) : Driver :=
  if acked then { driver with chip := .powerUp values } else driver

structure EnableAcks where
  high : Bool
  low : Bool
  config : Bool
deriving DecidableEq, Repr

-- the results of the three writes are not looked at
def enable (acks : EnableAcks) (driver : Driver) : Driver :=
  let config := { driver.tmpConfig with pol := true, tmode := false, fqueue := 2, cvrate := 3 }
  let driver := { driver with tmpConfig := config }
  let driver := (setTempHigh conversion 45 acks.high driver).2
  let driver := (setTempLow conversion 40 acks.low driver).2
  { (startMeasurement acks.config driver).2 with active := true }

def disable (acked : Bool) (driver : Driver) : Driver :=
  { (stopMeasurement acked driver).2 with active := false }

structure ResetAcks where
  general : Bool
  enable : EnableAcks
  disable : Bool
deriving DecidableEq, Repr

def reset (values : PowerUp) (acks : ResetAcks) (driver : Driver) : Driver :=
  let driver := hardReset values acks.general driver
  if driver.active then enable conversion acks.enable driver else disable acks.disable driver

structure ConfigureAcks where
  low : Bool
  high : Bool
  readLow : ReadAcks
  readHigh : ReadAcks
deriving DecidableEq, Repr

def configure (tLow tHigh : ℚ) (acks : ConfigureAcks) (driver : Driver) : TmpStatus × Driver :=
  match setTempLow conversion tLow acks.low driver with
  | (.tmpAck, driver) =>
      match setTempHigh conversion tHigh acks.high driver with
      | (.tmpAck, driver) =>
          match readTempLow acks.readLow driver with
          | (.tmpAck, driver) =>
              match readTempHigh acks.readHigh driver with
              | (.tmpAck, driver) =>
                  if driver.tempLow ≠ tLow then (.tmpConfigFail, driver)
                  else if driver.tempHigh ≠ tHigh then (.tmpConfigFail, driver)
                  else (.tmpOk, driver)
              | (_, driver) => (.tmpConfigFail, driver)
          | (_, driver) => (.tmpConfigFail, driver)
      | (_, driver) => (.tmpConfigFail, driver)
  | (_, driver) => (.tmpConfigFail, driver)

def convertDataToString (data : ℚ) : Bytes := doubleToChar data 2

def getData (acks : ReadAcks) (pin : Bool) (driver : Driver) (dataList : List (Bytes × Bytes)) :
    SensorStatus × List (Bytes × Bytes) × Driver :=
  if driver.active then
    match readTemp acks driver with
    | (.tmpAck, driver) =>
        let dataList := dataList ++ [(str "ambient_temp", convertDataToString driver.tempData)]
        let dataList :=
          if readAlert pin driver = .tmpAlert then dataList ++ [(str "ambient_temp_alert", [])]
          else dataList
        (.dataOk, dataList, driver)
    | (_, driver) => (.disconnect, dataList, driver)
  else (.disconnect, dataList, driver)

/-! ## What each function does -/

def InRange (val : ℚ) : Prop := lowerLimit ≤ val ∧ val ≤ upperLimit

instance : DecidablePred InRange := fun _ => inferInstanceAs (Decidable (_ ∧ _))

def encoded (val : ℚ) : UInt16 := conversion.toUInt16 (val / resolution) <<< 4

def decoded (stat : UInt16) : ℚ := (stat >>> 4).toNat * resolution

theorem resolution_pos : 0 < resolution := by norm_num [resolution]

theorem toNat_shiftRight_four (content : UInt16) : (content >>> 4).toNat = content.toNat / 16 := by
  rw [UInt16.toNat_shiftRight]
  exact Nat.shiftRight_eq_div_pow _ 4

theorem decoded_eq (content : UInt16) :
    decoded content = (((content.toNat / 16 : Nat) : Int) : ℚ) * resolution := by
  rw [decoded, toNat_shiftRight_four, Int.cast_natCast]

theorem decoded_nonneg (content : UInt16) : 0 ≤ decoded content :=
  mul_nonneg (Nat.cast_nonneg _) resolution_pos.le

theorem decoded_lt (content : UInt16) : decoded content < 4096 := by
  have bound : content.toNat / 16 < 65536 := (Nat.div_le_self _ _).trans_lt content.toNat_lt
  have cast : (((content.toNat / 16 : Nat) : Int) : ℚ) < 65536 := by exact_mod_cast bound
  rw [decoded_eq, resolution]
  linarith

theorem word_bytes (temp : UInt16) : word (temp >>> 8).toUInt8 (temp &&& 255).toUInt8 = temp := by
  have high : (temp >>> 8).toNat = temp.toNat / 256 := by
    rw [UInt16.toNat_shiftRight]
    exact Nat.shiftRight_eq_div_pow _ 8
  have low : (temp &&& 255).toNat = temp.toNat % 256 := by
    rw [UInt16.toNat_and]
    exact Nat.and_two_pow_sub_one_eq_mod _ 8
  have bound := temp.toNat_lt
  apply UInt16.toNat_inj.mp
  simp only [word, UInt16.toNat_or, UInt16.toNat_shiftLeft, UInt8.toNat_toUInt16, UInt16.toNat_toUInt8,
    high, low, show (8 : UInt16).toNat % 16 = 8 from rfl]
  rw [Nat.mod_eq_of_lt (show temp.toNat / 256 < 256 by omega),
    Nat.mod_eq_of_lt (show temp.toNat % 256 < 256 by omega), Nat.shiftLeft_eq,
    Nat.mod_eq_of_lt (by omega), ← Nat.shiftLeft_eq,
    ← Nat.shiftLeft_add_eq_or_of_lt (show temp.toNat % 256 < 2 ^ 8 by omega), Nat.shiftLeft_eq]
  omega

theorem outOfRange_iff (val : ℚ) : val > upperLimit ∨ val < lowerLimit ↔ ¬ InRange val := by
  unfold InRange
  rw [not_and_or, not_le, not_le, or_comm]

def Driver.lowWritten (val : ℚ) (driver : Driver) : Driver :=
  { driver with
    tempLow := val
    chip := { driver.chip with tempLow := encoded conversion val, pointer := .tempLowReg } }

def Driver.highWritten (val : ℚ) (driver : Driver) : Driver :=
  { driver with
    tempHigh := val
    chip := { driver.chip with tempHigh := encoded conversion val, pointer := .tempHighReg } }

section Writes
variable {conversion} {val : ℚ} {driver : Driver}

theorem setTemp_of_not_inRange {command : Command} {hold : ℚ → Driver → Driver} (outside : ¬ InRange val)
    (acked : Bool) : setTemp conversion command hold val acked driver = (.tmpConfigFail, driver) := by
  rw [setTemp, if_pos ((outOfRange_iff val).mpr outside)]

theorem setTemp_of_noAck {command : Command} {hold : ℚ → Driver → Driver} (inside : InRange val) :
    setTemp conversion command hold val false driver = (.tmpNoAck, driver) := by
  rw [setTemp, if_neg (not_not.mpr inside ∘ (outOfRange_iff val).mp)]
  rfl

theorem setTempLow_of_ack (inside : InRange val) :
    setTempLow conversion val true driver = (.tmpAck, driver.lowWritten conversion val) := by
  rw [setTempLow, setTemp, if_neg (not_not.mpr inside ∘ (outOfRange_iff val).mp)]
  simp only [write, Chip.store, word_bytes, ↓reduceIte]
  rfl

theorem setTempHigh_of_ack (inside : InRange val) :
    setTempHigh conversion val true driver = (.tmpAck, driver.highWritten conversion val) := by
  rw [setTempHigh, setTemp, if_neg (not_not.mpr inside ∘ (outOfRange_iff val).mp)]
  simp only [write, Chip.store, word_bytes, ↓reduceIte]
  rfl

end Writes

theorem readTempLow_of_acks (driver : Driver) :
    readTempLow ⟨true, true⟩ driver =
      (.tmpAck, { driver with
        tempLow := decoded driver.chip.tempLow
        chip := { driver.chip with pointer := .tempLowReg } }) := rfl

theorem readTempHigh_of_acks (driver : Driver) :
    readTempHigh ⟨true, true⟩ driver =
      (.tmpAck, { driver with
        tempHigh := decoded driver.chip.tempHigh
        chip := { driver.chip with pointer := .tempHighReg } }) := rfl

theorem readTemp_of_acks (driver : Driver) :
    readTemp ⟨true, true⟩ driver =
      (.tmpAck, { driver with
        tempData := decoded driver.chip.temperature
        chip := { driver.chip with pointer := .readTempReg } }) := rfl

theorem readRegister_of_noAck {command : Command} {hold : ℚ → Driver → Driver} {acks : ReadAcks}
    (failed : acks ≠ ⟨true, true⟩) (driver : Driver) :
    readRegister command hold acks driver = (.tmpNoAck, writeCommand acks.write command driver) := by
  obtain ⟨write, read⟩ := acks
  cases write with
  | false => rfl
  | true =>
      cases read with
      | false => rfl
      | true => exact absurd rfl failed

section Configure
variable {conversion} {tLow tHigh : ℚ} {acks : ConfigureAcks} {driver : Driver}

def Taken (val : ℚ) (acked : Bool) : Prop := InRange val ∧ acked = true

instance (val : ℚ) (acked : Bool) : Decidable (Taken val acked) := inferInstanceAs (Decidable (_ ∧ _))

theorem setTemp_of_not_taken {command : Command} {hold : ℚ → Driver → Driver} {val : ℚ} {acked : Bool}
    (refused : ¬ Taken val acked) :
    (setTemp conversion command hold val acked driver).1 ≠ .tmpAck ∧
      (setTemp conversion command hold val acked driver).2 = driver := by
  by_cases inside : InRange val
  · obtain rfl : acked = false := by
      cases acked with
      | false => rfl
      | true => exact absurd ⟨inside, rfl⟩ refused
    rw [setTemp_of_noAck inside]
    simp
  · rw [setTemp_of_not_inRange inside]
    simp

theorem setTempLow_snd (val : ℚ) (acked : Bool) :
    (setTempLow conversion val acked driver).2 =
      if Taken val acked then driver.lowWritten conversion val else driver := by
  split_ifs with taken
  · rw [taken.2, setTempLow_of_ack taken.1]
  · exact (setTemp_of_not_taken taken).2

theorem setTempHigh_snd (val : ℚ) (acked : Bool) :
    (setTempHigh conversion val acked driver).2 =
      if Taken val acked then driver.highWritten conversion val else driver := by
  split_ifs with taken
  · rw [taken.2, setTempHigh_of_ack taken.1]
  · exact (setTemp_of_not_taken taken).2

theorem configure_of_low_not_taken (refused : ¬ Taken tLow acks.low) :
    configure conversion tLow tHigh acks driver = (.tmpConfigFail, driver) := by
  obtain ⟨status, same⟩ :=
    @setTemp_of_not_taken conversion driver .tempLowReg (fun val driver => { driver with tempLow := val })
      _ _ refused
  unfold configure setTempLow
  split
  · rename_i ack
    exact absurd (congrArg Prod.fst ack) status
  · rename_i other
    rw [other] at same
    exact congrArg _ same

theorem configure_of_high_not_taken (low : Taken tLow acks.low) (refused : ¬ Taken tHigh acks.high) :
    configure conversion tLow tHigh acks driver =
      (.tmpConfigFail, driver.lowWritten conversion tLow) := by
  obtain ⟨status, same⟩ :=
    @setTemp_of_not_taken conversion (driver.lowWritten conversion tLow) .tempHighReg
      (fun val driver => { driver with tempHigh := val }) _ _ refused
  unfold configure setTempHigh
  rw [low.2, setTempLow_of_ack low.1]
  dsimp only
  split
  · rename_i ack
    exact absurd (congrArg Prod.fst ack) status
  · rename_i other
    rw [other] at same
    exact congrArg _ same

def ReadBack (acks : ConfigureAcks) : Prop :=
  acks.readLow = ⟨true, true⟩ ∧ acks.readHigh = ⟨true, true⟩

instance : DecidablePred ReadBack := fun _ => inferInstanceAs (Decidable (_ ∧ _))

theorem configure_of_taken (low : Taken tLow acks.low) (high : Taken tHigh acks.high) :
    (configure conversion tLow tHigh acks driver).1 =
        (if ReadBack acks ∧ decoded (encoded conversion tLow) = tLow ∧
          decoded (encoded conversion tHigh) = tHigh then .tmpOk else .tmpConfigFail) ∧
      (configure conversion tLow tHigh acks driver).2.chip.tempLow = encoded conversion tLow ∧
      (configure conversion tLow tHigh acks driver).2.chip.tempHigh = encoded conversion tHigh := by
  unfold configure
  rw [low.2, high.2, setTempLow_of_ack low.1]
  dsimp only
  rw [setTempHigh_of_ack high.1]
  dsimp only
  by_cases readLow : acks.readLow = ⟨true, true⟩
  · by_cases readHigh : acks.readHigh = ⟨true, true⟩
    · rw [readLow, readTempLow_of_acks, readHigh]
      dsimp only
      rw [readTempHigh_of_acks]
      dsimp only [Driver.lowWritten, Driver.highWritten]
      simp only [ReadBack, readLow, readHigh, ne_eq, ite_not, and_self, true_and]
      split_ifs <;> simp_all
    · rw [readLow, readTempLow_of_acks]
      dsimp only
      rw [readTempHigh, readRegister_of_noAck readHigh]
      simp only [ReadBack, readHigh, and_false, false_and, ↓reduceIte]
      unfold writeCommand
      split_ifs <;> simp [Driver.lowWritten, Driver.highWritten]
  · rw [readTempLow, readRegister_of_noAck readLow]
    simp only [ReadBack, readLow, false_and, ↓reduceIte]
    unfold writeCommand
    split_ifs <;> simp [Driver.lowWritten, Driver.highWritten]

end Configure

end DecadaEmbedded.Tmp75
