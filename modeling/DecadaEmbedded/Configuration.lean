import DecadaEmbedded.BootSession
import DecadaEmbedded.DecadaManager.Provisioning
import DecadaEmbedded.SensorThread

/-!
# The configuration in the flash, over the life of a device

A run is a sequence of boot manager sessions, boots, renewals and steps of the sensor thread, which
carries out the control commands. A session, a boot or a renewal can lose power between two flash
writes: `lost` is the number of writes it does not get to. Flash calls succeed.
-/

namespace DecadaEmbedded.Configuration
open Library Conversions PersistStore CryptoEngine DecadaManager BootManager BootSession SensorThread

-- `running` tells whether the worker threads have been started since the last reset
structure State where
  sensor : SensorThread.State
  running : Bool

inductive Action where
  | bootManager (console : Bytes) (lost : Nat)
  | boot (send : HttpsRequest → Option HttpResponse) (calls : Calls) (csrTime now tokenTime : Int)
      (junk : CInt) (lost : Nat)
  | renew (send : HttpsRequest → Option HttpResponse) (now tokenTime : Int) (junk : CInt) (lost : Nat)
  | request (param value : Bytes) (junk : CInt)
  | iterate

def blank : State := ⟨SensorThread.init (fun _ => none) zeroInt, false⟩

variable (device : Cloud)

-- `main` starts the threads only where the flag is set; the boot manager can be entered at any boot
def step (state : State) : Action → Option State
  | .bootManager console lost =>
      (runBootManager device.useSecureElement console state.sensor.store).2.points[lost]?.map
        fun store => ⟨{ state.sensor with store }, false⟩
  | .boot send calls csrTime now tokenTime junk lost =>
      let (outcome, flash) :=
        decadaManager { device with send } calls {} csrTime now tokenTime state.sensor.store
      if readInitFlag {} state.sensor.store = str "true" then
        flash.points[lost]?.map fun store =>
          ⟨{ SensorThread.boot junk state.sensor with store }, outcome = .ok () ∧ lost = 0⟩
      else none
  | .renew send now tokenTime junk lost =>
      let (outcome, flash) :=
        renewCertificate { device with send } {} now tokenTime junk state.sensor.store
      if state.running then
        flash.points[lost]?.map fun store => ⟨{ state.sensor with store }, outcome = .ok false⟩
      else none
  | .request param value junk =>
      if state.running then
        (SensorThread.step state.sensor (.request param value junk)).map (⟨·, true⟩)
      else none
  | .iterate =>
      if state.running then (SensorThread.step state.sensor .iterate).map (⟨·, true⟩) else none

/-! ## Configured stores -/

def requiredKeys : List PersistKey :=
  [.swVer, .wifiSsid, .wifiPass, .clientCertificate, .clientCertificateSn]

def Present (keys : List PersistKey) (store : Store) : Prop := ∀ key ∈ keys, (store key.name).isSome

structure Complete (store : Store) : Prop where
  present : Present requiredKeys store
  interval : ∃ interval, InInt interval ∧
    store PersistKey.cycleInterval.name = some (intToString interval)

def Configured (store : Store) : Prop := readInitFlag {} store = str "true" → Complete store

theorem present_nil (store : Store) : Present [] store := by
  intro key member
  cases member

theorem Present.mono {keys fewer : List PersistKey} {store : Store} (present : Present keys store)
    (within : fewer ⊆ keys) : Present fewer store :=
  fun key member => present key (within member)

theorem Present.writeKey {keys : List PersistKey} {store : Store} (present : Present keys store)
    (key : PersistKey) (val : Bytes) : Present (key :: keys) (PersistStore.writeKey 0 key val store) := by
  intro other member
  by_cases same : other = key
  · subst same
    simp [PersistStore.writeKey]
  · rw [writeKey_apply_of_ne same]
    rcases List.mem_cons.mp member with new | old
    · exact absurd new same
    · exact present other old

theorem complete_writeCycleInterval {store : Store} (present : Present requiredKeys store)
    {interval : Int} (range : InInt interval) :
    Complete (writeCycleInterval 0 (intToString interval) store) where
  present := (present.writeKey .cycleInterval _).mono (List.subset_cons_self _ _)
  interval := by
    refine ⟨interval, range, ?_⟩
    simp [writeCycleInterval, PersistStore.writeKey, cstr_of_nulFree (nulFree_intToString interval)]

theorem Complete.writeKey {store : Store} (complete : Complete store) {key : PersistKey}
    (other : key ≠ .cycleInterval) (val : Bytes) :
    Complete (PersistStore.writeKey 0 key val store) where
  present := (complete.present.writeKey key val).mono (List.subset_cons_self _ _)
  interval := by
    obtain ⟨interval, range, stored⟩ := complete.interval
    exact ⟨interval, range, by rw [writeKey_apply_of_ne other.symm, stored]⟩

theorem Complete.persisted {store : Store} (complete : Complete store) :
    ∃ interval, InInt interval ∧ Persisted store interval := by
  obtain ⟨interval, range, stored⟩ := complete.interval
  refine ⟨interval, range, fun junk => ?_⟩
  have read : readCycleInterval {} store = intToString interval := by
    simp [readCycleInterval, readKey_eq, stored, cstr_of_nulFree (nulFree_intToString interval)]
  rw [read]
  exact stringToInt_intToString junk range

theorem Configured.writeKey {store : Store} (configured : Configured store) {key : PersistKey}
    (menu : key ∈ menuKeys) (val : Bytes) : Configured (PersistStore.writeKey 0 key val store) := by
  have flag : PersistKey.initFlag ≠ key := by
    rintro rfl
    exact absurd menu (by decide)
  have interval : key ≠ .cycleInterval := by
    rintro rfl
    exact absurd menu (by decide)
  intro ready
  rw [readInitFlag, readKey_writeKey_of_ne flag] at ready
  exact (configured ready).writeKey interval val

theorem configured_keeps :
    ∀ key ∈ menuKeys, ∀ val store, Configured store → Configured (PersistStore.writeKey 0 key val store) :=
  fun _ menu val _ configured => configured.writeKey menu val

/-! ## The boot manager -/

variable (useSecureElement : Bool)

theorem readInitFlag_keeps {store : Store} {key : PersistKey} (menu : key ∈ menuKeys) (val : Bytes) :
    readInitFlag {} (PersistStore.writeKey 0 key val store) = readInitFlag {} store := by
  apply readKey_writeKey_of_ne
  rintro rfl
  exact absurd menu (by decide)

theorem present_setDefaultConfig (store : Store) :
    Present [.wifiSsid, .wifiPass, .clientCertificate, .clientCertificateSn]
      (setDefaultConfig useSecureElement (.start store)).now := by
  have ssid := (present_nil store).writeKey .wifiSsid (str "WIFI_SSID")
  have pass := ssid.writeKey .wifiPass (str "WIFI_PW")
  have certificate := pass.writeKey .clientCertificate []
  have number := certificate.writeKey .clientCertificateSn []
  cases useSecureElement with
  | true => exact number.mono (by decide)
  | false => exact (number.writeKey .clientPrivateKey []).mono (by decide)

/-- Up to the login either the flag is not set, or the store is complete already. -/
theorem startEvents_configured {store : Store} (configured : Configured store) :
    (replay (.start store) (startEvents useSecureElement store)).Always Configured ∧
      Present requiredKeys (replay (.start store) (startEvents useSecureElement store)).now := by
  unfold startEvents
  rw [replay_append]
  split_ifs with unready
  · have unset (point : Store) (unset : readInitFlag {} point ≠ str "true") : Configured point :=
      fun ready => absurd ready unset
    have defaults : (replay (.start store) (setDefaultConfigEvents useSecureElement)).Always
        (readInitFlag {} · ≠ str "true") := by
      refine always_replay ?_ (writesOnly_setDefaultConfigEvents useSecureElement) (Journal.always_start unready)
      intro key menu val point unset
      rwa [readInitFlag_keeps menu]
    have versioned := defaults.advance (PersistStore.writeKey 0 .swVer sdkVer) (by
      rw [readInitFlag, readKey_writeKey_of_ne (by decide)]
      exact defaults.now)
    refine ⟨fun point reached => unset point (versioned point reached), ?_⟩
    have present := present_setDefaultConfig useSecureElement store
    rw [← replay_setDefaultConfigEvents] at present
    exact (present.writeKey .swVer sdkVer).mono (by decide)
  · have ready : readInitFlag {} store = str "true" := not_not.mp unready
    have complete : Complete (PersistStore.writeKey 0 .swVer sdkVer store) :=
      (configured ready).writeKey (by decide) sdkVer
    exact ⟨(Journal.always_start configured).advance _ fun _ => complete, complete.present⟩

theorem runBootManager_configured (console : Bytes) {store : Store} (configured : Configured store) :
    (runBootManager useSecureElement console store).2.Always Configured := by
  obtain ⟨started, present⟩ := startEvents_configured useSecureElement configured
  rw [← replay_runBootManagerEvents, runBootManagerEvents, replay_append, replay_append,
    replay_loginEvents]
  unfold afterLoginEvents
  cases bootManagerLogin maxLoginAttempts console with
  | error halt => exact started
  | ok rest =>
      rw [replay_append]
      apply always_replay configured_keeps (writesOnly_menuLoopEvents useSecureElement rest _)
      have complete : Complete (writeCycleInterval 0 pollRateMs _) :=
        complete_writeCycleInterval present (show InInt 10000 by decide)
      have interval := started.advance (writeCycleInterval 0 pollRateMs) fun _ => complete
      exact interval.advance _ fun _ => complete.writeKey (by decide) (str "true")

/-! ## Provisioning and control commands -/

theorem storeReply_configured (reply : Option CsrSignResp) {flash : Flash}
    (configured : flash.Always Configured) : (storeReply {} reply flash).Always Configured := by
  cases reply with
  | none => exact configured
  | some signResp =>
      have certificate := configured.advance (writeClientCertificate 0 signResp.cert)
        (configured.now.writeKey (by decide) signResp.cert)
      exact certificate.advance _ (certificate.now.writeKey (by decide) signResp.certSn)

theorem decadaManager_configured (cloud : Cloud) (calls : Calls) (csrTime now tokenTime : Int)
    {store : Store} (configured : Configured store) :
    (decadaManager cloud calls {} csrTime now tokenTime store).2.Always Configured := by
  rw [decadaManager_flash]
  split_ifs
  · apply storeReply_configured
    unfold keyWritten
    split_ifs
    · exact Journal.always_start configured
    · exact (Journal.always_start configured).advance _ (configured.writeKey (by decide) _)
  · exact Journal.always_start configured

theorem renewCertificate_configured (cloud : Cloud) (now tokenTime junk : Int) {store : Store}
    (configured : Configured store) :
    (renewCertificate cloud {} now tokenTime junk store).2.Always Configured := by
  rw [renewCertificate_flash]
  exact storeReply_configured _ (Journal.always_start configured)

theorem inInt_wrapInt (i : Int) : InInt (wrapInt i) := by
  have lower := @Int.le_bmod i 4294967296 (by decide)
  have upper := @Int.bmod_lt i 4294967296 (by decide)
  unfold InInt intMin intMax wrapInt
  omega

theorem executeSensorControl_configured {state : SensorThread.State}
    (configured : Configured state.store) : Configured (executeSensorControl state).store := by
  unfold executeSensorControl
  cases state.controls with
  | nil => exact configured
  | cons control rest =>
      obtain ⟨param, value⟩ := control
      dsimp only
      split_ifs
      · intro ready
        rw [readInitFlag, writeCycleInterval, readKey_writeKey_of_ne (by decide)] at ready
        exact complete_writeCycleInterval (configured ready).present (inInt_wrapInt (value * 1000))
      · exact configured

/-! ## Runs -/

variable {device}

theorem configured_step {state next : State} {action : Action}
    (configured : Configured state.sensor.store) (taken : step device state action = some next) :
    Configured next.sensor.store := by
  cases action with
  | bootManager console lost =>
      obtain ⟨store, reached, rfl⟩ := Option.map_eq_some_iff.mp taken
      exact runBootManager_configured device.useSecureElement console configured store
        (List.mem_of_getElem? reached)
  | boot send calls csrTime now tokenTime junk lost =>
      simp only [step] at taken
      split_ifs at taken
      obtain ⟨store, reached, rfl⟩ := Option.map_eq_some_iff.mp taken
      exact decadaManager_configured _ calls csrTime now tokenTime configured store
        (List.mem_of_getElem? reached)
  | renew send now tokenTime junk lost =>
      simp only [step] at taken
      split_ifs at taken
      obtain ⟨store, reached, rfl⟩ := Option.map_eq_some_iff.mp taken
      exact renewCertificate_configured _ now tokenTime junk configured store
        (List.mem_of_getElem? reached)
  | request param value junk =>
      simp only [step] at taken
      split_ifs at taken
      cases taken
      obtain ⟨controls, same⟩ := distribute_eq param value junk state.sensor
      rw [same]
      exact configured
  | iterate =>
      simp only [step] at taken
      split_ifs at taken
      cases taken
      have polled : Configured (pollFrame state.sensor).store := configured
      exact executeSensorControl_configured polled

/-- In every flash that a device can come to, with the flag set, every key that the worker threads
need is present, and the interval that the sensor thread reads is the integer stored. -/
theorem configured_everywhere (device : Cloud) (actions : List Action) :
    EveryState (step device) (fun state => readInitFlag {} state.sensor.store = str "true" →
      Complete state.sensor.store ∧ ∃ interval, InInt interval ∧ Persisted state.sensor.store interval)
      blank actions := by
  have initial : Configured blank.sensor.store := by
    intro ready
    exact absurd ready (by decide)
  have unconditional : EveryStep (step device) (fun _ _ => True) blank actions :=
    fun _ _ _ _ _ _ _ => trivial
  have configured : EveryState (step device) (fun state => Configured state.sensor.store) blank actions :=
    everyState_of_everyStep (fun _ _ _ configured _ taken => configured_step configured taken) initial
      unconditional
  exact configured.mono fun _ configured ready => ⟨configured ready, (configured ready).persisted⟩

end DecadaEmbedded.Configuration
