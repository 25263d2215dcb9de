import DecadaEmbedded.Library.Run
import DecadaEmbedded.Tmp75.Driver
import Mathlib.Tactic.NormNum
import Mathlib.Tactic.Positivity

/-!
# The thresholds of the TMP75

A temperature register holds a two's complement number of sixteenths of a degree in its upper twelve
bits.
-/

namespace DecadaEmbedded.Tmp75
open Library

/-- The temperature that a register's content stands for. -/
def temperature (content : UInt16) : ℚ := ((content.toBitVec.toInt / 16 : Int) : ℚ) * resolution

def code (val : ℚ) : UInt16 := UInt16.ofInt (16 * truncate (val / resolution))

def OnStep (val : ℚ) : Prop := ∃ steps : Int, val = steps * resolution

theorem toNat_shiftLeft_four (temp : UInt16) : (temp <<< 4).toNat = temp.toNat * 16 % 65536 := by
  rw [UInt16.toNat_shiftLeft]
  exact congrArg (· % 65536) (Nat.shiftLeft_eq _ 4)

theorem toInt_toBitVec (content : UInt16) : content.toBitVec.toInt =
    if content.toNat < 32768 then (content.toNat : Int) else content.toNat - 65536 := by
  rw [BitVec.toInt_eq_toNat_cond, UInt16.toNat_toBitVec]
  split_ifs <;> omega

theorem decoded_eq_temperature_iff (content : UInt16) :
    decoded content = temperature content ↔ content < 0x8000 := by
  have bound := content.toNat_lt
  rw [decoded_eq, temperature, toInt_toBitVec, mul_left_inj' resolution_pos.ne', Int.cast_inj,
    UInt16.lt_iff_toNat_lt, show (0x8000 : UInt16).toNat = 32768 from rfl]
  split_ifs <;> omega

section Encode
variable {conversion : Conversion} {val : ℚ}

theorem div_resolution (val : ℚ) : val / resolution = val * 16 := by
  rw [resolution, div_div_eq_mul_div, div_one]

theorem InRange.truncate_bounds (inside : InRange val) :
    -640 ≤ truncate (val / resolution) ∧ truncate (val / resolution) ≤ 2000 := by
  obtain ⟨low, high⟩ := inside
  unfold lowerLimit at low
  unfold upperLimit at high
  rw [div_resolution]
  rcases lt_or_ge (val * 16) 0 with negative | positive
  · rw [truncate_of_neg negative]
    have most : ⌊-(val * 16)⌋ < 641 := Int.floor_lt.mpr (by push_cast; linarith)
    have least : 0 ≤ ⌊-(val * 16)⌋ := Int.floor_nonneg.mpr (by linarith)
    omega
  · rw [truncate_of_nonneg positive]
    have most : ⌊val * 16⌋ < 2001 := Int.floor_lt.mpr (by push_cast; linarith)
    have least : 0 ≤ ⌊val * 16⌋ := Int.floor_nonneg.mpr positive
    omega

theorem toNat_encoded (inside : InRange val) (above : -resolution < val) :
    ((encoded conversion val).toNat : Int) = 16 * truncate (val / resolution) := by
  have low : -1 < val / resolution := by
    rw [lt_div_iff₀ resolution_pos]
    linarith
  have high : val / resolution < 65536 := by
    rw [div_resolution]
    have upper := inside.2
    unfold upperLimit at upper
    linarith
  have converted := conversion.truncates (val / resolution) low high
  have bounds := inside.truncate_bounds
  rw [encoded, toNat_shiftLeft_four]
  omega

theorem encoded_eq_code (inside : InRange val) (above : -resolution < val) :
    encoded conversion val = code val := by
  have word := @toNat_encoded conversion val inside above
  have bound := (encoded conversion val).toNat_lt
  apply UInt16.toNat_inj.mp
  rw [code, toNat_ofInt]
  omega

theorem decoded_encoded (inside : InRange val) (nonneg : 0 ≤ val) :
    decoded (encoded conversion val) = ⌊val / resolution⌋ * resolution := by
  have above : -resolution < val := by linarith [resolution_pos]
  have word := @toNat_encoded conversion val inside above
  rw [truncate_of_nonneg (div_nonneg nonneg resolution_pos.le)] at word
  rw [decoded_eq]
  congr 2
  omega

theorem decoded_encoded_iff (inside : InRange val) :
    decoded (encoded conversion val) = val ↔ 0 ≤ val ∧ OnStep val := by
  constructor
  · intro same
    have nonneg : 0 ≤ val := same ▸ decoded_nonneg _
    rw [decoded_encoded inside nonneg] at same
    exact ⟨nonneg, ⌊val / resolution⌋, same.symm⟩
  · rintro ⟨nonneg, steps, rfl⟩
    rw [decoded_encoded inside nonneg, mul_div_cancel_right₀ _ resolution_pos.ne', Int.floor_intCast]

theorem temperature_encoded (inside : InRange val) (nonneg : 0 ≤ val) (onStep : OnStep val) :
    temperature (encoded conversion val) = val := by
  have above : -resolution < val := by linarith [resolution_pos]
  have word := @toNat_encoded conversion val inside above
  have bounds := inside.truncate_bounds
  have small : encoded conversion val < 0x8000 := by
    rw [UInt16.lt_iff_toNat_lt, show (0x8000 : UInt16).toNat = 32768 from rfl]
    omega
  rw [← (decoded_eq_temperature_iff _).mpr small, (decoded_encoded_iff inside).mpr ⟨nonneg, onStep⟩]

end Encode

theorem encoded_nearest_ne_code {val : ℚ} (inside : InRange val) (below : val ≤ -resolution) :
    encoded nearest val ≠ code val := by
  have negative : truncate (val / resolution) < 0 := by
    rw [truncate_neg_iff, div_le_iff₀ resolution_pos]
    linarith
  have bounds := inside.truncate_bounds
  intro same
  have word := congrArg UInt16.toNat same
  rw [encoded, toNat_shiftLeft_four, code, toNat_ofInt, nearest, toNat_ofInt] at word
  omega

/-! ## Setting and reading back -/

def allAcked : ConfigureAcks := ⟨true, true, ⟨true, true⟩, ⟨true, true⟩⟩

theorem set_eq_code_iff {val : ℚ} (inside : InRange val) (driver : Driver) :
    (∀ conversion : Conversion,
        (setTempLow conversion val true driver).2.chip.tempLow = code val ∧
          (setTempHigh conversion val true driver).2.chip.tempHigh = code val) ↔
      -resolution < val := by
  constructor
  · intro sets
    by_contra below
    have low := (sets nearest).1
    rw [setTempLow_of_ack inside] at low
    exact encoded_nearest_ne_code inside (not_lt.mp below) low
  · intro above conversion
    rw [setTempLow_of_ack inside, setTempHigh_of_ack inside]
    exact ⟨encoded_eq_code inside above, encoded_eq_code inside above⟩

theorem configure_tmpOk_iff {tLow tHigh : ℚ} (insideLow : InRange tLow) (insideHigh : InRange tHigh)
    (conversion : Conversion) (driver : Driver) :
    (configure conversion tLow tHigh allAcked driver).1 = .tmpOk ↔
      (0 ≤ tLow ∧ OnStep tLow) ∧ 0 ≤ tHigh ∧ OnStep tHigh := by
  rw [(@configure_of_taken conversion tLow tHigh allAcked driver ⟨insideLow, rfl⟩ ⟨insideHigh, rfl⟩).1,
    ← @decoded_encoded_iff conversion tLow insideLow, ← @decoded_encoded_iff conversion tHigh insideHigh]
  have read : ReadBack allAcked := ⟨rfl, rfl⟩
  split_ifs with reads
  · exact ⟨fun _ => reads.2, fun _ => rfl⟩
  · exact ⟨fun same => absurd same (by decide), fun both => absurd ⟨read, both⟩ reads⟩

/-- Where setting a threshold, reading a register and configuring agree with what the registers
stand for. -/
theorem registers_agree_iff (driver : Driver) :
    (∀ val, InRange val →
      ((∀ conversion : Conversion,
          (setTempLow conversion val true driver).2.chip.tempLow = code val ∧
            (setTempHigh conversion val true driver).2.chip.tempHigh = code val) ↔
        -resolution < val)) ∧
    (((readTempLow ⟨true, true⟩ driver).2.tempLow = temperature driver.chip.tempLow ↔
          driver.chip.tempLow < 0x8000) ∧
        ((readTempHigh ⟨true, true⟩ driver).2.tempHigh = temperature driver.chip.tempHigh ↔
          driver.chip.tempHigh < 0x8000) ∧
        ((readTemp ⟨true, true⟩ driver).2.tempData = temperature driver.chip.temperature ↔
          driver.chip.temperature < 0x8000)) ∧
    ∀ (conversion : Conversion) (tLow tHigh : ℚ), InRange tLow → InRange tHigh →
      OnStep tLow → OnStep tHigh →
      ((configure conversion tLow tHigh allAcked driver).1 = .tmpOk ↔ 0 ≤ tLow ∧ 0 ≤ tHigh) := by
  refine ⟨fun val inside => set_eq_code_iff inside driver, ⟨?_, ?_, ?_⟩, ?_⟩
  · exact decoded_eq_temperature_iff _
  · exact decoded_eq_temperature_iff _
  · exact decoded_eq_temperature_iff _
  · intro conversion tLow tHigh insideLow insideHigh onLow onHigh
    rw [configure_tmpOk_iff insideLow insideHigh]
    exact ⟨fun both => ⟨both.1.1, both.2.1⟩, fun both => ⟨⟨both.1, onLow⟩, both.2, onHigh⟩⟩

theorem registers_disagree : ¬ ∀ (conversion : Conversion) (driver : Driver) (tLow tHigh : ℚ),
    InRange tLow → InRange tHigh → OnStep tLow → OnStep tHigh →
    (configure conversion tLow tHigh allAcked driver).1 = .tmpOk := by
  intro every
  have low : InRange (-10) := by norm_num [InRange, lowerLimit, upperLimit]
  have high : InRange 20 := by norm_num [InRange, lowerLimit, upperLimit]
  have ok := every nearest (tmp75 0 0 0 ⟨0, 0, 0⟩) (-10) 20 low high
    ⟨-160, by norm_num [resolution]⟩ ⟨320, by norm_num [resolution]⟩
  have signs := (configure_tmpOk_iff low high nearest _).mp ok
  exact absurd signs.1.1 (by norm_num)

/-! ## The order of the thresholds -/

structure Pair where
  low : ℚ
  high : ℚ
  ordered : low ≤ high

inductive Action where
  | enable (acks : EnableAcks)
  | configure (pair : Pair) (acks : ConfigureAcks)

variable (conversion : Conversion)

def step (driver : Driver) : Action → Option Driver
  | .enable acks => some (enable conversion acks driver)
  | .configure pair acks => some (configure conversion pair.low pair.high acks driver).2

def SameThresholds (chip chip' : Chip) : Prop :=
  chip'.tempLow = chip.tempLow ∧ chip'.tempHigh = chip.tempHigh

def FailureKeeps (driver : Driver) : Action → Prop
  | .enable _ => True
  | .configure pair acks =>
      (configure conversion pair.low pair.high acks driver).1 = .tmpConfigFail →
        SameThresholds driver.chip (configure conversion pair.low pair.high acks driver).2.chip

def Ordered (driver : Driver) : Prop :=
  temperature driver.chip.tempLow ≤ temperature driver.chip.tempHigh

/-- Everything is acknowledged, and the driver reads both thresholds back as they were given. -/
def Completes (pair : Pair) (acks : ConfigureAcks) : Prop :=
  (Taken pair.low acks.low ∧ Taken pair.high acks.high) ∧ ReadBack acks ∧
    (0 ≤ pair.low ∧ OnStep pair.low) ∧ 0 ≤ pair.high ∧ OnStep pair.high

def Undisturbed (driver : Driver) : Action → Prop
  | .enable acks =>
      (acks.high = true ∧ acks.low = false → temperature driver.chip.tempLow ≤ 45) ∧
        (acks.low = true ∧ acks.high = false → 40 ≤ temperature driver.chip.tempHigh)
  | .configure pair acks =>
      Completes pair acks ∨
        (Taken pair.low acks.low → encoded conversion pair.low = driver.chip.tempLow) ∧
          (Taken pair.low acks.low ∧ Taken pair.high acks.high →
            encoded conversion pair.high = driver.chip.tempHigh)

section Enable
variable {conversion} {driver : Driver} {acks : EnableAcks}

theorem setConfigReg_thresholds (acked : Bool) (driver : Driver) :
    SameThresholds driver.chip (setConfigReg acked driver).2.chip := by
  cases acked <;> exact ⟨rfl, rfl⟩

theorem taken_iff {val : ℚ} (inside : InRange val) (acked : Bool) : Taken val acked ↔ acked = true :=
  ⟨fun taken => taken.2, fun acked => ⟨inside, acked⟩⟩

theorem enable_tempLow : (enable conversion acks driver).chip.tempLow =
    if acks.low then encoded conversion 40 else driver.chip.tempLow := by
  have inside : InRange 40 := by norm_num [InRange, lowerLimit, upperLimit]
  simp only [enable, startMeasurement, (setConfigReg_thresholds _ _).1, setTempLow_snd, setTempHigh_snd,
    taken_iff inside]
  split_ifs <;> rfl

theorem enable_tempHigh : (enable conversion acks driver).chip.tempHigh =
    if acks.high then encoded conversion 45 else driver.chip.tempHigh := by
  have inside : InRange 45 := by norm_num [InRange, lowerLimit, upperLimit]
  simp only [enable, startMeasurement, (setConfigReg_thresholds _ _).2, setTempLow_snd, setTempHigh_snd,
    taken_iff inside]
  split_ifs <;> rfl

theorem temperature_high : temperature (encoded conversion 45) = 45 :=
  temperature_encoded (by norm_num [InRange, lowerLimit, upperLimit]) (by norm_num)
    ⟨720, by norm_num [resolution]⟩

theorem temperature_low : temperature (encoded conversion 40) = 40 :=
  temperature_encoded (by norm_num [InRange, lowerLimit, upperLimit]) (by norm_num)
    ⟨640, by norm_num [resolution]⟩

theorem ordered_enable_iff (ordered : Ordered driver) :
    Ordered (enable conversion acks driver) ↔ Undisturbed conversion driver (.enable acks) := by
  obtain ⟨high, low, config⟩ := acks
  unfold Ordered at ordered
  rw [Ordered, enable_tempLow, enable_tempHigh]
  cases high <;> cases low <;> simp [Undisturbed, temperature_low, temperature_high, ordered]
  norm_num

end Enable

section Configure
variable {conversion} {driver : Driver} {pair : Pair} {acks : ConfigureAcks}

theorem Ordered.of_same {driver' : Driver} (ordered : Ordered driver)
    (same : SameThresholds driver.chip driver'.chip) : Ordered driver' := by
  rw [Ordered, same.1, same.2]
  exact ordered

theorem lawful_of_fails (ordered : Ordered driver)
    (fails : (configure conversion pair.low pair.high acks driver).1 = .tmpConfigFail) :
    FailureKeeps conversion driver (.configure pair acks) ∧
        Ordered (configure conversion pair.low pair.high acks driver).2 ↔
      SameThresholds driver.chip (configure conversion pair.low pair.high acks driver).2.chip :=
  ⟨fun lawful => lawful.1 fails, fun same => ⟨fun _ => same, ordered.of_same same⟩⟩

theorem completes_iff (low : Taken pair.low acks.low) (high : Taken pair.high acks.high) :
    (configure conversion pair.low pair.high acks driver).1 = .tmpOk ↔ Completes pair acks := by
  rw [(configure_of_taken low high).1, Completes, ← @decoded_encoded_iff conversion _ low.1,
    ← @decoded_encoded_iff conversion _ high.1]
  split_ifs with reads
  · exact ⟨fun _ => ⟨⟨low, high⟩, reads⟩, fun _ => rfl⟩
  · exact ⟨fun same => absurd same (by decide), fun completes => absurd completes.2 reads⟩

theorem ordered_of_completes (completes : Completes pair acks) :
    Ordered (configure conversion pair.low pair.high acks driver).2 := by
  obtain ⟨⟨low, high⟩, -, ⟨nonnegLow, onLow⟩, nonnegHigh, onHigh⟩ := completes
  obtain ⟨-, writtenLow, writtenHigh⟩ := @configure_of_taken conversion _ _ acks driver low high
  rw [Ordered, writtenLow, writtenHigh, temperature_encoded low.1 nonnegLow onLow,
    temperature_encoded high.1 nonnegHigh onHigh]
  exact pair.ordered

theorem configure_lawful_iff (ordered : Ordered driver) :
    FailureKeeps conversion driver (.configure pair acks) ∧
        Ordered (configure conversion pair.low pair.high acks driver).2 ↔
      Undisturbed conversion driver (.configure pair acks) := by
  unfold Undisturbed
  by_cases low : Taken pair.low acks.low
  · by_cases high : Taken pair.high acks.high
    · obtain ⟨status, writtenLow, writtenHigh⟩ := @configure_of_taken conversion _ _ acks driver low high
      by_cases completes : Completes pair acks
      · have ok := (@completes_iff conversion driver pair acks low high).mpr completes
        refine ⟨fun _ => .inl completes, fun _ => ⟨fun fails => ?_, ordered_of_completes completes⟩⟩
        rw [ok] at fails
        cases fails
      · have fails : (configure conversion pair.low pair.high acks driver).1 = .tmpConfigFail := by
          have notOk := mt (@completes_iff conversion driver pair acks low high).mp completes
          rw [status] at notOk ⊢
          split_ifs at notOk ⊢ with reads
          · exact absurd rfl notOk
          · rfl
        rw [lawful_of_fails ordered fails, SameThresholds, writtenLow, writtenHigh]
        simp [completes, low, high]
    · have written := @configure_of_high_not_taken conversion _ _ _ driver low high
      have incomplete : ¬ Completes pair acks := fun completes => high completes.1.2
      rw [lawful_of_fails ordered (congrArg Prod.fst written), written]
      simp [SameThresholds, Driver.lowWritten, incomplete, low, high]
  · have same := @configure_of_low_not_taken conversion _ pair.high _ driver low
    rw [lawful_of_fails ordered (congrArg Prod.fst same), same]
    simp [SameThresholds, low]

end Configure

/-- Along a run a failed `Configure` leaves the thresholds alone and they stay in order exactly if no
call writes one threshold without the other, or a threshold that it then refuses. -/
theorem thresholds_kept_iff_undisturbed (driver : Driver) (ordered : Ordered driver)
    (actions : List Action) :
    EveryStep (step conversion) (FailureKeeps conversion) driver actions ∧
        EveryState (step conversion) Ordered driver actions ↔
      EveryStep (step conversion) (Undisturbed conversion) driver actions := by
  refine everyStep_and_everyState_iff ?_ ordered actions
  intro driver action next ordered taken
  cases action with
  | enable acks =>
      obtain rfl := Option.some.inj taken
      rw [← ordered_enable_iff ordered]
      exact and_iff_right trivial
  | configure pair acks =>
      obtain rfl := Option.some.inj taken
      exact configure_lawful_iff ordered

def poweredUp : Driver := tmp75 0 0 0 ⟨0, 0x4B00, 0x5000⟩

theorem poweredUp_thresholds :
    temperature poweredUp.chip.tempLow = 75 ∧ temperature poweredUp.chip.tempHigh = 80 := by
  have low : (0x4B00 : UInt16).toBitVec.toInt / 16 = 1200 := by decide
  have high : (0x5000 : UInt16).toBitVec.toInt / 16 = 1280 := by decide
  rw [poweredUp, tmp75, Chip.powerUp, temperature, temperature, low, high]
  norm_num [resolution]

theorem ordered_poweredUp : Ordered poweredUp := by
  rw [Ordered, poweredUp_thresholds.1, poweredUp_thresholds.2]
  norm_num

def mild : Pair where
  low := 10
  high := 20
  ordered := by decide

theorem thresholds_kept_poweredUp :
    EveryStep (step nearest) (FailureKeeps nearest) poweredUp [.configure mild allAcked] ∧
      EveryState (step nearest) Ordered poweredUp [.configure mild allAcked] := by
  refine (thresholds_kept_iff_undisturbed nearest poweredUp ordered_poweredUp _).mpr ?_
  rw [everyStep_cons]
  refine fun next _ => ⟨.inl ⟨⟨⟨?_, rfl⟩, ?_, rfl⟩, ⟨rfl, rfl⟩, ⟨?_, ?_⟩, ?_, ?_⟩, everyStep_nil _ _ _⟩
  · norm_num [InRange, lowerLimit, upperLimit, mild]
  · norm_num [InRange, lowerLimit, upperLimit, mild]
  · norm_num [mild]
  · exact ⟨160, by norm_num [resolution, mild]⟩
  · norm_num [mild]
  · exact ⟨320, by norm_num [resolution, mild]⟩

theorem thresholds_disturbed : ¬ ∀ (conversion : Conversion) (driver : Driver), Ordered driver →
    ∀ actions : List Action,
      EveryStep (step conversion) (FailureKeeps conversion) driver actions ∧
        EveryState (step conversion) Ordered driver actions := by
  intro kept
  have low : InRange 90 := by norm_num [InRange, lowerLimit, upperLimit]
  have high : ¬ InRange 130 := by norm_num [InRange, lowerLimit, upperLimit]
  have final := (kept nearest poweredUp ordered_poweredUp
    [.configure ⟨90, 130, by norm_num⟩ allAcked]).2.last rfl
  rw [Ordered, configure_of_high_not_taken ⟨low, rfl⟩ fun taken => high taken.1] at final
  have written : temperature (encoded nearest 90) = 90 :=
    temperature_encoded low (by norm_num) ⟨1440, by norm_num [resolution]⟩
  change temperature (encoded nearest 90) ≤ temperature poweredUp.chip.tempHigh at final
  rw [written, poweredUp_thresholds.2] at final
  exact absurd final (by norm_num)

end DecadaEmbedded.Tmp75
