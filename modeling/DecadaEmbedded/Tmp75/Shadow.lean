import DecadaEmbedded.Library.Run
import DecadaEmbedded.Tmp75.Driver

/-!
# The configuration that the driver takes the chip to have

`tmp_config_t` is changed before the transfer that is to bring the chip in line with it, and the
callers of `SetConfigReg` do not look at its result.
-/

namespace DecadaEmbedded.Tmp75
open Library Conversions

/-- The fields of a configuration byte, as `ReadConfigReg` takes them apart. -/
def TmpConfig.ofReg (configReg : UInt8) : TmpConfig where
  oneshot := (configReg &&& 0x80) >>> 7 = 1
  cvrate := ((configReg &&& 0x60) >>> 5).toNat
  fqueue := ((configReg &&& 0x18) >>> 3).toNat
  pol := (configReg &&& 0x04) >>> 2 = 1
  tmode := (configReg &&& 0x02) >>> 1 = 1
  shutdown := configReg &&& 0x01 = 1

/-- The fields that are not one-shot agree with the chip, an active driver has it converting, and
the alert pin is compared with the polarity that the chip uses. -/
structure Shadows (driver : Driver) : Prop where
  pol : driver.tmpConfig.pol = (TmpConfig.ofReg driver.chip.configuration).pol
  tmode : driver.tmpConfig.tmode = (TmpConfig.ofReg driver.chip.configuration).tmode
  fqueue : driver.tmpConfig.fqueue = (TmpConfig.ofReg driver.chip.configuration).fqueue
  cvrate : driver.tmpConfig.cvrate = (TmpConfig.ofReg driver.chip.configuration).cvrate
  shutdown : driver.tmpConfig.shutdown = (TmpConfig.ofReg driver.chip.configuration).shutdown
  active : driver.active = true → (TmpConfig.ofReg driver.chip.configuration).shutdown = false
  alert : ∀ pin, readAlert pin driver = .tmpAlert ↔
    pin = (TmpConfig.ofReg driver.chip.configuration).pol

structure WellFormed (config : TmpConfig) : Prop where
  oneshot : config.oneshot = false
  fqueue : 0 ≤ config.fqueue ∧ config.fqueue ≤ 3
  cvrate : 0 ≤ config.cvrate ∧ config.cvrate ≤ 3

theorem confBuf_ofReg {configReg : UInt8} (low : configReg &&& 0x7F = configReg) :
    confBuf (.ofReg configReg) = configReg := by
  have all : ∀ byte : UInt8, byte &&& 0x7F = byte → confBuf (.ofReg byte) = byte :=
    forall_byte (by decide +kernel)
  exact all configReg low

theorem WellFormed.byte {config : TmpConfig} (wellFormed : WellFormed config) :
    TmpConfig.ofReg (confBuf config) = config ∧ confBuf config &&& 0x7F = confBuf config := by
  have all : ∀ pol tmode shutdown, ∀ fqueue < 4, ∀ cvrate < 4,
      let config : TmpConfig := ⟨false, pol, tmode, shutdown, (fqueue : Nat), (cvrate : Nat)⟩
      TmpConfig.ofReg (confBuf config) = config ∧ confBuf config &&& 0x7F = confBuf config := by
    decide +kernel
  obtain ⟨oneshot, pol, tmode, shutdown, fqueue, cvrate⟩ := config
  obtain ⟨rfl, ⟨lowF, highF⟩, lowC, highC⟩ := wellFormed
  dsimp only at lowF highF lowC highC
  obtain ⟨fqueue, rfl⟩ := Int.eq_ofNat_of_zero_le lowF
  obtain ⟨cvrate, rfl⟩ := Int.eq_ofNat_of_zero_le lowC
  exact all pol tmode shutdown fqueue (by omega) cvrate (by omega)

structure Tidy (driver : Driver) : Prop where
  wellFormed : WellFormed driver.tmpConfig
  register : driver.chip.configuration &&& 0x7F = driver.chip.configuration
  continuous : driver.active = true → driver.tmpConfig.shutdown = false

theorem shadows_iff {driver : Driver} (tidy : Tidy driver) :
    Shadows driver ↔ driver.chip.configuration = confBuf driver.tmpConfig := by
  constructor
  · intro shadows
    have same : TmpConfig.ofReg driver.chip.configuration = driver.tmpConfig := by
      have oneshot : (TmpConfig.ofReg driver.chip.configuration).oneshot = false := by
        rw [← tidy.register]
        have all : ∀ byte : UInt8, (TmpConfig.ofReg (byte &&& 0x7F)).oneshot = false :=
          forall_byte (by decide +kernel)
        exact all driver.chip.configuration
      rw [TmpConfig.mk.injEq]
      exact ⟨oneshot.trans tidy.wellFormed.oneshot.symm, shadows.pol.symm, shadows.tmode.symm,
        shadows.shutdown.symm, shadows.fqueue.symm, shadows.cvrate.symm⟩
    rw [← same, confBuf_ofReg tidy.register]
  · intro same
    have fields : TmpConfig.ofReg driver.chip.configuration = driver.tmpConfig := by
      rw [same, tidy.wellFormed.byte.1]
    have pol : driver.tmpConfig.pol = (TmpConfig.ofReg driver.chip.configuration).pol := by rw [fields]
    refine ⟨pol, ?_, ?_, ?_, ?_, ?_, ?_⟩
    · rw [fields]
    · rw [fields]
    · rw [fields]
    · rw [fields]
    · rw [fields]
      exact tidy.continuous
    · intro pin
      rw [← pol, readAlert]
      split_ifs with matching
      · exact ⟨fun _ => matching, fun _ => rfl⟩
      · exact ⟨fun same => absurd same (by decide), fun same => absurd same matching⟩

/-! ## What the calls do to the configuration -/

def SameConfiguration (driver driver' : Driver) : Prop :=
  driver'.tmpConfig = driver.tmpConfig ∧ driver'.active = driver.active ∧
    driver'.chip.configuration = driver.chip.configuration

variable (conversion : Conversion)

section Frames
variable {conversion} {driver driver' driver'' : Driver}

theorem SameConfiguration.trans (first : SameConfiguration driver driver')
    (second : SameConfiguration driver' driver'') : SameConfiguration driver driver'' :=
  ⟨second.1.trans first.1, second.2.1.trans first.2.1, second.2.2.trans first.2.2⟩

theorem SameConfiguration.setTempLow (val : ℚ) (acked : Bool) (driver : Driver) :
    SameConfiguration driver (setTempLow conversion val acked driver).2 := by
  rw [setTempLow_snd]
  split_ifs <;> exact ⟨rfl, rfl, rfl⟩

theorem SameConfiguration.setTempHigh (val : ℚ) (acked : Bool) (driver : Driver) :
    SameConfiguration driver (setTempHigh conversion val acked driver).2 := by
  rw [setTempHigh_snd]
  split_ifs <;> exact ⟨rfl, rfl, rfl⟩

theorem SameConfiguration.readRegister {command : Command} {hold : ℚ → Driver → Driver}
    (keeps : ∀ val driver, SameConfiguration driver (hold val driver)) (acks : ReadAcks)
    (driver : Driver) : SameConfiguration driver (readRegister command hold acks driver).2 := by
  have pointed (acked : Bool) : SameConfiguration driver (writeCommand acked command driver) := by
    cases acked <;> exact ⟨rfl, rfl, rfl⟩
  by_cases acked : acks = ⟨true, true⟩
  · rw [acked]
    exact (pointed true).trans (keeps _ _)
  · rw [readRegister_of_noAck acked]
    exact pointed acks.write

theorem SameConfiguration.readTempLow (acks : ReadAcks) (driver : Driver) :
    SameConfiguration driver (readTempLow acks driver).2 := by
  unfold Tmp75.readTempLow
  refine .readRegister ?_ acks driver
  exact fun _ _ => ⟨rfl, rfl, rfl⟩

theorem SameConfiguration.readTempHigh (acks : ReadAcks) (driver : Driver) :
    SameConfiguration driver (readTempHigh acks driver).2 := by
  unfold Tmp75.readTempHigh
  refine .readRegister ?_ acks driver
  exact fun _ _ => ⟨rfl, rfl, rfl⟩

theorem SameConfiguration.readTemp (acks : ReadAcks) (driver : Driver) :
    SameConfiguration driver (readTemp acks driver).2 := by
  unfold Tmp75.readTemp
  refine .readRegister ?_ acks driver
  exact fun _ _ => ⟨rfl, rfl, rfl⟩

theorem SameConfiguration.configure (tLow tHigh : ℚ) (acks : ConfigureAcks) (driver : Driver) :
    SameConfiguration driver (configure conversion tLow tHigh acks driver).2 := by
  have low := @SameConfiguration.setTempLow conversion tLow acks.low driver
  unfold Tmp75.configure
  split
  · rename_i driver₁ first
    rw [first] at low
    have high := low.trans (@SameConfiguration.setTempHigh conversion tHigh acks.high driver₁)
    split
    · rename_i driver₂ second
      rw [second] at high
      have readLow := high.trans (.readTempLow acks.readLow driver₂)
      split
      · rename_i driver₃ third
        rw [third] at readLow
        have readHigh := readLow.trans (.readTempHigh acks.readHigh driver₃)
        split
        · rename_i driver₄ fourth
          rw [fourth] at readHigh
          split_ifs <;> exact readHigh
        · rename_i other
          rwa [other] at readHigh
      · rename_i other
        rwa [other] at readLow
    · rename_i other
      rwa [other] at high
  · rename_i other
    rwa [other] at low

theorem SameConfiguration.getData (acks : ReadAcks) (pin : Bool) (driver : Driver)
    (dataList : List (Bytes × Bytes)) :
    SameConfiguration driver (getData acks pin driver dataList).2.2 := by
  have read := SameConfiguration.readTemp acks driver
  unfold Tmp75.getData
  split_ifs
  · split
    · rename_i first
      rwa [first] at read
    · rename_i other
      rwa [other] at read
  · exact ⟨rfl, rfl, rfl⟩

end Frames

def enabledConfig : TmpConfig :=
  { oneshot := false, pol := true, tmode := false, shutdown := false, fqueue := 2, cvrate := 3 }

theorem wellFormed_default : WellFormed {} := ⟨rfl, by decide, by decide⟩

theorem wellFormed_enabledConfig : WellFormed enabledConfig := ⟨rfl, by decide, by decide⟩

theorem checkedField_of_mem {field : Int} (range : 0 ≤ field ∧ field ≤ 3) : checkedField field = field := by
  rw [checkedField, if_neg (by omega)]

theorem setConfigReg_snd {driver : Driver} (wellFormed : WellFormed driver.tmpConfig) (acked : Bool) :
    (setConfigReg acked driver).2 =
      if acked then
        { driver with
          chip := { driver.chip with configuration := confBuf driver.tmpConfig, pointer := .configReg } }
      else driver := by
  simp only [setConfigReg, checkedField_of_mem wellFormed.fqueue, checkedField_of_mem wellFormed.cvrate,
    write, Chip.store, wellFormed.byte.2]

def InLine (acked : Bool) (chip : Chip) (config : TmpConfig) : Prop :=
  acked = true ∨ chip.configuration = confBuf config

def Outcome (driver : Driver) (acked : Bool) (chip : Chip) (config : TmpConfig) : Prop :=
  driver.tmpConfig = config ∧
    driver.chip.configuration = if acked then confBuf config else chip.configuration

theorem outcome_setConfigReg {driver : Driver} (wellFormed : WellFormed driver.tmpConfig) (acked : Bool) :
    Outcome (setConfigReg acked driver).2 acked driver.chip driver.tmpConfig := by
  rw [setConfigReg_snd wellFormed]
  cases acked <;> exact ⟨rfl, rfl⟩

-- `Enable` ends in a write of the configuration, whatever becomes of the two thresholds
theorem enable_eq (acks : EnableAcks) (driver : Driver) :
    ∃ ready : Driver, ready.tmpConfig = enabledConfig ∧
      ready.chip.configuration = driver.chip.configuration ∧
      enable conversion acks driver = { (setConfigReg acks.config ready).2 with active := true } := by
  let config := { driver.tmpConfig with pol := true, tmode := false, fqueue := 2, cvrate := 3 }
  let first := (setTempHigh conversion 45 acks.high { driver with tmpConfig := config }).2
  let second := (setTempLow conversion 40 acks.low first).2
  have kept : SameConfiguration { driver with tmpConfig := config } second :=
    (SameConfiguration.setTempHigh 45 acks.high _).trans (.setTempLow 40 acks.low first)
  refine ⟨{ second with tmpConfig := { second.tmpConfig with oneshot := false, shutdown := false } },
    ?_, kept.2.2, rfl⟩
  exact congrArg (fun config : TmpConfig => { config with oneshot := false, shutdown := false }) kept.1

theorem outcome_enable (acks : EnableAcks) (driver : Driver) :
    Outcome (enable conversion acks driver) acks.config driver.chip enabledConfig := by
  obtain ⟨ready, config, register, same⟩ := enable_eq conversion acks driver
  have outcome := @outcome_setConfigReg ready (config ▸ wellFormed_enabledConfig) acks.config
  rw [config] at outcome
  rw [same]
  exact ⟨outcome.1, by rw [← register]; exact outcome.2⟩

theorem WellFormed.stopped {config : TmpConfig} (wellFormed : WellFormed config) :
    WellFormed { config with shutdown := true } :=
  ⟨wellFormed.oneshot, wellFormed.fqueue, wellFormed.cvrate⟩

theorem outcome_disable (acked : Bool) {driver : Driver} (wellFormed : WellFormed driver.tmpConfig) :
    Outcome (disable acked driver) acked driver.chip { driver.tmpConfig with shutdown := true } :=
  @outcome_setConfigReg { driver with tmpConfig := { driver.tmpConfig with shutdown := true } }
    wellFormed.stopped acked

section Outcome
variable {driver : Driver} {acked : Bool} {chip : Chip} {config : TmpConfig}

theorem Outcome.tidy (outcome : Outcome driver acked chip config) (wellFormed : WellFormed config)
    (register : chip.configuration &&& 0x7F = chip.configuration)
    (continuous : driver.active = true → config.shutdown = false) : Tidy driver := by
  refine ⟨outcome.1 ▸ wellFormed, ?_, outcome.1 ▸ continuous⟩
  rw [outcome.2]
  split_ifs
  · exact wellFormed.byte.2
  · exact register

theorem Outcome.shadows_iff (outcome : Outcome driver acked chip config) (tidy : Tidy driver) :
    Shadows driver ↔ InLine acked chip config := by
  rw [Tmp75.shadows_iff tidy, outcome.1, outcome.2, InLine]
  cases acked <;> simp

end Outcome

/-! ## Runs -/

inductive Call where
  | enable (acks : EnableAcks)
  | disable (acked : Bool)
  | reset (acks : ResetAcks)
  | configure (tLow tHigh : ℚ) (acks : ConfigureAcks)
  | getData (acks : ReadAcks) (pin : Bool)

variable (values : PowerUp)

def call (driver : Driver) : Call → Option Driver
  | .enable acks => some (enable conversion acks driver)
  | .disable acked => some (disable acked driver)
  | .reset acks => some (reset conversion values acks driver)
  | .configure tLow tHigh acks => some (configure conversion tLow tHigh acks driver).2
  | .getData acks pin => some (getData acks pin driver []).2.2

def EnableReaches (acks : EnableAcks) (chip : Chip) : Prop := InLine acks.config chip enabledConfig

def DisableReaches (acked : Bool) (driver : Driver) : Prop :=
  InLine acked driver.chip { driver.tmpConfig with shutdown := true }

/-- The configuration that the call writes is acknowledged, or the chip has it already: `Reset` gives
it the values after power-up before it is configured again. -/
def Reaches (driver : Driver) : Call → Prop
  | .enable acks => EnableReaches acks driver.chip
  | .disable acked => DisableReaches acked driver
  | .reset acks =>
      let driver := hardReset values acks.general driver
      if driver.active then EnableReaches acks.enable driver.chip
      else DisableReaches acks.disable driver
  | _ => True

section Calls
variable {conversion} {values} {driver : Driver}

theorem shadows_enable_iff (acks : EnableAcks) (tidy : Tidy driver) :
    Tidy (enable conversion acks driver) ∧
      (Shadows (enable conversion acks driver) ↔ EnableReaches acks driver.chip) := by
  have outcome := outcome_enable conversion acks driver
  have after := outcome.tidy wellFormed_enabledConfig tidy.register fun _ => rfl
  exact ⟨after, outcome.shadows_iff after⟩

theorem shadows_disable_iff (acked : Bool) (tidy : Tidy driver) :
    Tidy (disable acked driver) ∧ (Shadows (disable acked driver) ↔ DisableReaches acked driver) := by
  have outcome := outcome_disable acked tidy.wellFormed
  have after := outcome.tidy tidy.wellFormed.stopped tidy.register fun active => by cases active
  exact ⟨after, outcome.shadows_iff after⟩

theorem Tidy.hardReset (tidy : Tidy driver) (acked : Bool) : Tidy (hardReset values acked driver) := by
  cases acked with
  | false => exact tidy
  | true => exact ⟨tidy.wellFormed, (by decide : (0 : UInt8) &&& 0x7F = 0), tidy.continuous⟩

theorem shadows_reset_iff (acks : ResetAcks) (tidy : Tidy driver) :
    Tidy (reset conversion values acks driver) ∧
      (Shadows (reset conversion values acks driver) ↔ Reaches values driver (.reset acks)) := by
  have first := @Tidy.hardReset values driver tidy acks.general
  unfold reset Reaches
  dsimp only
  split_ifs
  · exact shadows_enable_iff acks.enable first
  · exact shadows_disable_iff acks.disable first

theorem SameConfiguration.shadows_iff {driver' : Driver} (same : SameConfiguration driver driver')
    (tidy : Tidy driver) : Tidy driver' ∧ (Shadows driver' ↔ Shadows driver) := by
  have after : Tidy driver' := by
    refine ⟨?_, ?_, ?_⟩
    · rw [same.1]
      exact tidy.wellFormed
    · rw [same.2.2]
      exact tidy.register
    · rw [same.1, same.2.1]
      exact tidy.continuous
  exact ⟨after, by rw [Tmp75.shadows_iff after, Tmp75.shadows_iff tidy, same.1, same.2.2]⟩

theorem shadows_call_iff {next : Driver} {action : Call} (tidy : Tidy driver) (shadows : Shadows driver)
    (taken : call conversion values driver action = some next) :
    Tidy next ∧ (Shadows next ↔ Reaches values driver action) := by
  cases action with
  | enable acks =>
      obtain rfl := Option.some.inj taken
      exact shadows_enable_iff acks tidy
  | disable acked =>
      obtain rfl := Option.some.inj taken
      exact shadows_disable_iff acked tidy
  | reset acks =>
      obtain rfl := Option.some.inj taken
      exact shadows_reset_iff acks tidy
  | configure tLow tHigh acks =>
      obtain rfl := Option.some.inj taken
      have same := @SameConfiguration.configure conversion tLow tHigh acks driver
      obtain ⟨after, iff⟩ := same.shadows_iff tidy
      exact ⟨after, iff.trans (iff_true_intro shadows)⟩
  | getData acks pin =>
      obtain rfl := Option.some.inj taken
      obtain ⟨after, iff⟩ := (SameConfiguration.getData acks pin driver []).shadows_iff tidy
      exact ⟨after, iff.trans (iff_true_intro shadows)⟩

end Calls

theorem tidy_tmp75 (tempHigh tempLow tempData : ℚ) : Tidy (tmp75 tempHigh tempLow tempData values) :=
  ⟨wellFormed_default, (by decide : (0 : UInt8) &&& 0x7F = 0), fun active => by cases active⟩

theorem shadows_tmp75 (tempHigh tempLow tempData : ℚ) :
    Shadows (tmp75 tempHigh tempLow tempData values) :=
  (shadows_iff (tidy_tmp75 values tempHigh tempLow tempData)).mpr
    (by decide : (0 : UInt8) = confBuf {})

/-- From power-up the driver's picture of the chip stays right exactly as long as each configuration
that a call writes reaches the chip. -/
theorem shadows_iff_reaches (tempHigh tempLow tempData : ℚ) (calls : List Call) :
    EveryState (call conversion values) Shadows (tmp75 tempHigh tempLow tempData values) calls ↔
      EveryStep (call conversion values) (Reaches values) (tmp75 tempHigh tempLow tempData values)
        calls := by
  refine @everyState_iff_everyStep _ _ _ (fun driver => Tidy driver ∧ Shadows driver) _ _
    (fun _ both => both.2) ?_ ?_ _
    ⟨tidy_tmp75 values tempHigh tempLow tempData, shadows_tmp75 values tempHigh tempLow tempData⟩ calls
  · intro driver action next both reaches taken
    obtain ⟨tidy, iff⟩ := shadows_call_iff both.1 both.2 taken
    exact ⟨tidy, iff.mpr reaches⟩
  · intro driver action next both unmet taken
    obtain ⟨-, iff⟩ := shadows_call_iff both.1 both.2 taken
    exact fun shadows => unmet (iff.mp shadows)

theorem shadows_lost : ¬ ∀ (conversion : Conversion) (values : PowerUp) (tempHigh tempLow tempData : ℚ)
    (calls : List Call),
    EveryState (call conversion values) Shadows (tmp75 tempHigh tempLow tempData values) calls := by
  intro kept
  have final := (kept nearest ⟨0, 0, 0⟩ 0 0 0 [.enable ⟨true, true, false⟩]).last rfl
  rcases (shadows_enable_iff _ (tidy_tmp75 _ 0 0 0)).2.mp final with acked | same
  · cases acked
  · exact absurd same (by decide)

end DecadaEmbedded.Tmp75
