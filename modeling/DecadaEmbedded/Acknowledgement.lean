import DecadaEmbedded.ServiceRequests

/-!
# Acknowledged poll rates and power loss

`execute_sensor_control` puts the reply to an accepted command before it stores the interval. The
power can be lost between any two steps; the flash survives, the mailboxes do not. `rc` is what
`kv_set` returns.
-/

namespace DecadaEmbedded.Acknowledgement
open Library Conversions PersistStore SensorControl Upstream
open ServiceRequests (decadaServiceResponse)

inductive Place where
  | idle
  | responding (mail : SensorControlMail)
  | writing (mail : SensorControlMail)

/-- A command that was accepted: the flash it found, whether its reply has been put, and whether its
interval has been stored. -/
structure Accepted where
  value : Int
  before : Store
  answered : Bool
  stored : Bool

/-- `last` is the last command accepted, and `booted` says that nothing has happened since a boot. -/
structure State where
  store : Store
  sensorControl : List SensorControlMail
  serviceResponse : List ServiceResponseMail
  place : Place
  currentCycleInterval : Int
  booted : Bool
  last : Option Accepted

inductive Action where
  | putControl (mail : SensorControlMail)
  | takeControl
  | respond
  | writeInterval (rc : Int)
  | reboot (junk : CInt)

-- `junk` is what an empty interval reads as
def boot (junk : CInt) (state : State) : State :=
  { store := state.store
    sensorControl := []
    serviceResponse := []
    place := .idle
    currentCycleInterval := stringToInt junk (readCycleInterval {} state.store)
    booted := true
    last := state.last }

def init (store : Store) (junk : CInt) : State := boot junk ⟨store, [], [], .idle, 0, false, none⟩

def step (state : State) : Action → Option State
  | .putControl mail =>
      some { state with sensorControl := state.sensorControl ++ [mail], booted := false }
  | .takeControl =>
      match state.place, state.sensorControl with
      | .idle, mail :: sensorControl =>
          if accepted mail then
            some { state with
              sensorControl
              place := .responding mail
              booted := false
              last := some ⟨mail.value, state.store, false, false⟩ }
          else some { state with sensorControl, booted := false }
      | _, _ => none
  | .respond =>
      match state.place with
      | .responding mail =>
          match decadaServiceResponse mail.endpointId mail.msgId TraceManager.pollRateUpdate with
          | .ok response => some { state with
              serviceResponse := state.serviceResponse ++ [response]
              place := .writing mail
              booted := false
              last := state.last.map fun command => { command with answered := true } }
          | .error _ => none
      | _ => none
  | .writeInterval rc =>
      match state.place with
      | .writing mail =>
          let milliseconds := wrapInt (mail.value * 1000)
          some { state with
            store := writeCycleInterval rc (decimalInt milliseconds) state.store
            place := .idle
            currentCycleInterval := milliseconds
            booted := false
            last := state.last.map fun command => { command with stored := rc = 0 } }
      | _ => none
  | .reboot junk => some (boot junk state)

/-- After a boot the interval is the one that the last command was told it has set. -/
def Durable (state : State) : Prop :=
  state.booted = true → ∀ command ∈ state.last, command.answered = true →
    state.currentCycleInterval = 1000 * command.value

/-- Where the last command has been answered, the power is lost only after its interval was stored
and if that is an `int`, or the flash held that interval before the command. -/
def Stored (state : State) : Action → Prop
  | .reboot junk => ∀ command ∈ state.last, command.answered = true →
      if command.stored then command.value ≤ 2147483
      else stringToInt junk (readCycleInterval {} command.before) = 1000 * command.value
  | _ => True

/-! ## Runs -/

structure Tracks (state : State) (command : Accepted) : Prop where
  lower : 10 ≤ command.value
  unstored : command.stored = false → state.store = command.before
  stored : command.stored = true →
    state.store = writeCycleInterval 0 (decimalInt (wrapInt (command.value * 1000))) command.before

def Place.Pending (last : Option Accepted) : Place → Prop
  | .idle => True
  | .responding mail | .writing mail =>
      ∃ command, last = some command ∧ command.value = mail.value ∧ command.stored = false

structure Inv (state : State) : Prop where
  tracks : ∀ command ∈ state.last, Tracks state command
  pending : state.place.Pending state.last
  durable : Durable state

variable {state next : State}

theorem Tracks.of_store {command : Accepted} (tracks : Tracks state command)
    (same : next.store = state.store) : Tracks next command where
  lower := tracks.lower
  unstored := fun unstored => same.trans (tracks.unstored unstored)
  stored := fun stored => same.trans (tracks.stored stored)

theorem durable_of_not_booted (running : state.booted = false) : Durable state := fun booted => by
  rw [running] at booted
  cases booted

theorem lower_of_accepted {mail : SensorControlMail} (taken : accepted mail = true) : 10 ≤ mail.value := by
  simp only [accepted, decide_eq_true_eq] at taken
  exact taken.2

theorem readCycleInterval_stored (junk : CInt) (value : Int) (store : Store) :
    stringToInt junk (readCycleInterval {} (writeCycleInterval 0 (decimalInt (wrapInt value)) store)) =
      wrapInt value := by
  have range : InInt (wrapInt value) := by
    have lower := Int.le_bmod (x := value) (m := 4294967296) (by decide)
    have upper := Int.bmod_lt (x := value) (m := 4294967296) (by decide)
    unfold InInt intMin intMax wrapInt
    omega
  exact SensorThread.persisted_writeCycleInterval range store junk

theorem wrapInt_eq_iff {value : Int} (lower : 10 ≤ value) :
    wrapInt (value * 1000) = 1000 * value ↔ value ≤ 2147483 := by
  constructor
  · intro same
    have upper := Int.bmod_lt (x := value * 1000) (m := 4294967296) (by decide)
    unfold wrapInt at same
    omega
  · intro small
    rw [wrapInt_of_inInt (by unfold InInt intMin intMax; omega), Int.mul_comm]

theorem durable_boot_iff (tracks : ∀ command ∈ state.last, Tracks state command) (junk : CInt) :
    Durable (boot junk state) ↔ Stored state (.reboot junk) := by
  have each : ∀ command ∈ state.last,
      ((boot junk state).currentCycleInterval = 1000 * command.value ↔
        if command.stored then command.value ≤ 2147483
        else stringToInt junk (readCycleInterval {} command.before) = 1000 * command.value) := by
    intro command held
    have follows := tracks command held
    cases stored : command.stored with
    | true =>
        rw [boot, follows.stored stored, readCycleInterval_stored, wrapInt_eq_iff follows.lower]
        simp
    | false =>
        rw [boot, follows.unstored stored]
        simp
  constructor
  · intro durable command held answered
    exact (each command held).mp (durable rfl command held answered)
  · intro stored _ command held answered
    exact (each command held).mpr (stored command held answered)

theorem Inv.takeControl (inv : Inv state) (taken : step state .takeControl = some next) : Inv next := by
  simp only [step] at taken
  split at taken
  · split_ifs at taken with asked
    · cases taken
      refine ⟨?_, ⟨_, rfl, rfl, rfl⟩, durable_of_not_booted rfl⟩
      intro command held
      obtain rfl := Option.some.inj held
      exact ⟨lower_of_accepted asked, fun _ => rfl, fun other => by cases other⟩
    · cases taken
      exact ⟨fun command held => (inv.tracks command held).of_store rfl, inv.pending,
        durable_of_not_booted rfl⟩
  · cases taken

theorem Inv.respond (inv : Inv state) (taken : step state .respond = some next) : Inv next := by
  simp only [step] at taken
  split at taken
  · rename_i mail place
    split at taken
    · cases taken
      have pending := inv.pending
      rw [place] at pending
      obtain ⟨command, last, same, unstored⟩ := pending
      have follows := inv.tracks command last
      refine ⟨?_, ⟨{ command with answered := true }, ?_, same, unstored⟩, durable_of_not_booted rfl⟩
      · intro answered held
        rw [last] at held
        obtain rfl := Option.some.inj held
        exact ⟨follows.lower, follows.unstored, follows.stored⟩
      · rw [last]
        rfl
    · cases taken
  · cases taken

theorem Inv.writeInterval (inv : Inv state) {rc : Int}
    (taken : step state (.writeInterval rc) = some next) : Inv next := by
  simp only [step] at taken
  split at taken
  · rename_i mail place
    cases taken
    have pending := inv.pending
    rw [place] at pending
    obtain ⟨command, last, same, unstored⟩ := pending
    have follows := inv.tracks command last
    refine ⟨?_, trivial, durable_of_not_booted rfl⟩
    intro written held
    rw [last] at held
    obtain rfl := Option.some.inj held
    refine ⟨follows.lower, ?_, ?_⟩
    · intro failed
      have failed : rc ≠ 0 := of_decide_eq_false failed
      exact (writeKey_of_failed failed _ _ _).trans (follows.unstored unstored)
    · intro done
      obtain rfl : rc = 0 := of_decide_eq_true done
      rw [same, ← follows.unstored unstored]
  · cases taken

theorem inv_step {action : Action} (inv : Inv state) (stored : Stored state action)
    (taken : step state action = some next) : Inv next := by
  cases action with
  | putControl mail =>
      cases taken
      exact ⟨fun command held => (inv.tracks command held).of_store rfl, inv.pending,
        durable_of_not_booted rfl⟩
  | takeControl => exact inv.takeControl taken
  | respond => exact inv.respond taken
  | writeInterval rc => exact inv.writeInterval taken
  | reboot junk =>
      cases taken
      exact ⟨fun command held => (inv.tracks command held).of_store rfl, trivial,
        (durable_boot_iff inv.tracks junk).mpr stored⟩

theorem inv_init (store : Store) (junk : CInt) : Inv (init store junk) :=
  ⟨fun _ held => (by cases held), trivial, fun _ _ held => (by cases held)⟩

/-- An acknowledged poll rate survives every loss of power in a run exactly if each of them comes
after the interval was stored. -/
theorem durable_iff_stored (store : Store) (junk : CInt) (actions : List Action) :
    EveryState step Durable (init store junk) actions ↔
      EveryStep step Stored (init store junk) actions := by
  refine everyState_iff_everyStep (fun _ inv => inv.durable)
    (fun _ _ _ inv stored taken => inv_step inv stored taken) ?_ (inv_init store junk) actions
  intro state action next inv lost taken durable
  cases action with
  | reboot junk =>
      cases taken
      exact lost ((durable_boot_iff inv.tracks junk).mp durable)
  | _ => exact lost trivial

def everyThirtySeconds : SensorControlMail :=
  { param := str "sensor_poll_rate", value := 30, msgId := str "1", endpointId := str "set_poll_rate" }

-- the power is lost between the reply and the write
theorem durable_violated : ¬ ∀ (store : Store) (junk : CInt) (actions : List Action),
    EveryState step Durable (init store junk) actions := by
  intro every
  have lost : (run step (init SensorThread.defaultStore zeroInt)
      [.putControl everyThirtySeconds, .takeControl, .respond, .reboot zeroInt]).map (fun state =>
        (state.booted, state.currentCycleInterval,
          state.last.map fun command => (command.answered, command.value))) =
      some (true, 10000, some (true, 30)) := by
    decide +kernel
  obtain ⟨final, reaches, outcome⟩ := Option.map_eq_some_iff.mp lost
  obtain ⟨booted, rest⟩ := Prod.mk.inj outcome
  obtain ⟨interval, last⟩ := Prod.mk.inj rest
  obtain ⟨command, held, fields⟩ := Option.map_eq_some_iff.mp last
  obtain ⟨answered, value⟩ := Prod.mk.inj fields
  have read := (every SensorThread.defaultStore zeroInt _).last reaches booted command held answered
  rw [interval, value] at read
  exact absurd read (by decide)

end DecadaEmbedded.Acknowledgement
