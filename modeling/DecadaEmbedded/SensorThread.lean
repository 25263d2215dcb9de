import DecadaEmbedded.PersistStore
import DecadaEmbedded.SensorControl

/-!
# `threads/sensor_thread.cpp`: the poll interval

The sensor thread with the control requests that reach it through `event_manager_thread` and
`DistributeControlMessage`; their mailboxes are one FIFO queue here. A reboot loses what is not in
flash. An iteration starts a measurement frame or not; the frame's readings are left out.
-/

namespace DecadaEmbedded.SensorThread
open Library Conversions PersistStore SensorControl

structure State where
  store : Store
  controls : List (Bytes × Int)
  currentCycleInterval : Int
  pollCounter : Int
  /-- Whether the thread has not iterated since the boot. -/
  fresh : Bool
  boots : Nat
  iterations : Nat
  /-- The boot and the iteration of each frame started, the latest first. -/
  frames : List (Nat × Nat)
  lastAccepted : Option Int
  overflowed : Bool

inductive Action where
  | request (param value : Bytes) (junk : CInt)
  | iterate
  | reboot (junk : CInt)

-- the start of `sensor_thread`; `junk` is what an empty interval reads as
def boot (junk : CInt) (state : State) : State :=
  { state with
    controls := [], currentCycleInterval := stringToInt junk (readCycleInterval {} state.store)
    pollCounter := 0, fresh := true, boots := state.boots + 1 }

def init (store : Store) (junk : CInt) : State :=
  boot junk
    { store, controls := [], currentCycleInterval := 0, pollCounter := 0, fresh := true, boots := 0
      iterations := 0, frames := [], lastAccepted := none, overflowed := false }

def distribute (param value : Bytes) (junk : CInt) (state : State) : State :=
  let intValue := stringToInt junk (cstr value)
  if isSensorParam (cstr param) then
    { state with controls := state.controls ++ [(cstr param, intValue)] }
  else state

def executeSensorControl (state : State) : State :=
  match state.controls with
  | [] => state
  | (param, value) :: controls =>
      let state := { state with controls }
      if accepted ⟨param, value, [], []⟩ then
        let milliseconds := wrapInt (value * 1000)
        { state with
          store := writeCycleInterval 0 (decimalInt milliseconds) state.store
          currentCycleInterval := milliseconds
          lastAccepted := some value
          overflowed := state.overflowed || !decide (InInt (value * 1000)) }
      else state

def pollFrame (state : State) : State :=
  let currentPollCount := state.currentCycleInterval.tdiv 1000
  let frames :=
    if state.pollCounter = 0 then (state.boots, state.iterations) :: state.frames else state.frames
  let pollCounter := state.pollCounter + 1
  { state with
    frames, pollCounter := if pollCounter ≥ currentPollCount then 0 else pollCounter
    fresh := false, iterations := state.iterations + 1 }

def step (state : State) : Action → Option State
  | .request param value junk => some (distribute param value junk state)
  | .iterate => some (executeSensorControl (pollFrame state))
  | .reboot junk => some (boot junk state)

/-! ## What is claimed of the interval -/

def expected (start : Int) (state : State) : Int := (state.lastAccepted.map (1000 * ·)).getD start

def Persisted (store : Store) (interval : Int) : Prop :=
  ∀ junk : CInt, stringToInt junk (readCycleInterval {} store) = interval

structure Regular (start : Int) (state : State) : Prop where
  exact : state.overflowed = false
  live : state.currentCycleInterval = expected start state
  persisted : Persisted state.store (expected start state)
  bound : 10000 ≤ expected start state
  spaced : state.frames.Pairwise fun later earlier =>
    later.1 = earlier.1 → earlier.2 + 10 ≤ later.2

def SpacedAcrossBoots (state : State) : Prop :=
  state.frames.Pairwise fun later earlier => earlier.2 + 10 ≤ later.2

def SmallCommand (state : State) (action : Action) : Prop :=
  match action, state.controls with
  | .iterate, (param, value) :: _ => accepted ⟨param, value, [], []⟩ → value ≤ 2147483
  | _, _ => True

def LateFirst (state : State) (action : Action) : Prop :=
  match action with
  | .iterate => state.fresh → ∀ frame ∈ state.frames, frame.2 + 10 ≤ state.iterations
  | _ => True

/-! ## Commands -/

variable {start : Int} {state next : State}

theorem persisted_writeCycleInterval {interval : Int} (range : InInt interval) (store : Store) :
    Persisted (writeCycleInterval 0 (decimalInt interval) store) interval := by
  intro junk
  have nulFree : (0 : UInt8) ∉ decimalInt interval := nulFree_intToString interval
  rw [readCycleInterval, writeCycleInterval, readKey_writeKey_self, cstr_of_nulFree nulFree]
  exact stringToInt_intToString junk range

structure Interval (start : Int) (state : State) : Prop where
  exact : state.overflowed = false
  live : state.currentCycleInterval = expected start state
  persisted : Persisted state.store (expected start state)
  bound : 10000 ≤ expected start state

theorem accepted_iff {param : Bytes} {value : Int} :
    accepted ⟨param, value, [], []⟩ ↔ param = str "sensor_poll_rate" ∧ 10 ≤ value := by
  simp [accepted]

theorem Interval.executeSensorControl (interval : Interval start state)
    (small : SmallCommand state .iterate) : Interval start (executeSensorControl state) := by
  unfold SensorThread.executeSensorControl
  cases controls : state.controls with
  | nil => exact interval
  | cons control rest =>
      obtain ⟨param, value⟩ := control
      simp only [SmallCommand, controls] at small
      dsimp only
      split_ifs with taken
      · have upper := small taken
        have lower := (accepted_iff.mp taken).2
        have range : InInt (value * 1000) := by
          simp only [InInt, intMin, intMax]
          omega
        have scaled : wrapInt (value * 1000) = 1000 * value := by
          rw [wrapInt_of_inInt range, Int.mul_comm]
        refine ⟨by simp [interval.exact, range], scaled, ?_, ?_⟩
        · rw [scaled]
          exact persisted_writeCycleInterval (Int.mul_comm value 1000 ▸ range) state.store
        · simp only [expected, Option.map_some, Option.getD_some]
          omega
      · exact ⟨interval.exact, interval.live, interval.persisted, interval.bound⟩

theorem overflowed_of_not_smallCommand (large : ¬ SmallCommand state .iterate) :
    (executeSensorControl state).overflowed = true := by
  unfold executeSensorControl
  cases controls : state.controls with
  | nil => simp [SmallCommand, controls] at large
  | cons control rest =>
      obtain ⟨param, value⟩ := control
      simp only [SmallCommand, controls, Classical.not_imp] at large
      obtain ⟨taken, large⟩ := large
      have outside : ¬ InInt (value * 1000) := by
        simp only [InInt, intMin, intMax]
        omega
      simp [taken, outside]

theorem frames_executeSensorControl (state : State) :
    (executeSensorControl state).frames = state.frames ∧
      (executeSensorControl state).pollCounter = state.pollCounter ∧
      (executeSensorControl state).iterations = state.iterations ∧
      (executeSensorControl state).boots = state.boots ∧
      (executeSensorControl state).fresh = state.fresh := by
  unfold executeSensorControl
  cases state.controls with
  | nil => simp
  | cons control rest =>
      obtain ⟨param, value⟩ := control
      dsimp only
      split_ifs <;> simp

/-! ## Frames -/

/-- How far the thread is past a frame: the counter has run since, and where it has come round ten
iterations have passed. -/
structure Past (state : State) (frame : Nat × Nat) : Prop where
  counted : frame.2 + state.pollCounter ≤ state.iterations
  round : state.pollCounter = 0 → frame.2 + 10 ≤ state.iterations

theorem past_pollFrame {frame : Nat × Nat} (long : 10000 ≤ state.currentCycleInterval)
    (counter : 0 ≤ state.pollCounter) (past : frame ∈ state.frames → Past state frame)
    (member : frame ∈ (pollFrame state).frames) : Past (pollFrame state) frame := by
  have polls : 10 ≤ state.currentCycleInterval.tdiv 1000 := by
    rw [Int.tdiv_eq_ediv_of_nonneg (by omega)]
    omega
  have old (inside : frame ∈ state.frames) : Past (pollFrame state) frame := by
    obtain ⟨counted, round⟩ := past inside
    constructor <;> simp only [pollFrame] <;> split_ifs <;> omega
  by_cases zero : state.pollCounter = 0
  · simp only [pollFrame, zero, ↓reduceIte, List.mem_cons] at member
    rcases member with rfl | inside
    · constructor <;> simp only [pollFrame, zero] <;> split_ifs <;> omega
    · exact old inside
  · simp only [pollFrame, zero, ↓reduceIte] at member
    exact old member

theorem pairwise_pollFrame {apart : Nat × Nat → Nat × Nat → Prop} (before : state.frames.Pairwise apart)
    (new : state.pollCounter = 0 →
      ∀ frame ∈ state.frames, apart (state.boots, state.iterations) frame) :
    (pollFrame state).frames.Pairwise apart := by
  by_cases zero : state.pollCounter = 0
  · simpa [pollFrame, zero] using ⟨fun boot iteration => new zero (boot, iteration), before⟩
  · simpa [pollFrame, zero] using before

theorem pollCounter_nonneg (counter : 0 ≤ state.pollCounter) : 0 ≤ (pollFrame state).pollCounter := by
  simp only [pollFrame]
  split_ifs <;> omega

/-! ## Runs -/

structure Inv (start : Int) (state : State) : Prop where
  interval : Interval start state
  spaced : state.frames.Pairwise fun later earlier => later.1 = earlier.1 → earlier.2 + 10 ≤ later.2
  counter : 0 ≤ state.pollCounter
  boots : ∀ frame ∈ state.frames, frame.1 ≤ state.boots
  past : ∀ frame ∈ state.frames, frame.1 = state.boots → Past state frame

theorem Inv.regular (inv : Inv start state) : Regular start state :=
  ⟨inv.interval.exact, inv.interval.live, inv.interval.persisted, inv.interval.bound, inv.spaced⟩

theorem interval_boot (interval : Interval start state) (junk : CInt) :
    Interval start (boot junk state) :=
  ⟨interval.exact, interval.persisted junk, interval.persisted, interval.bound⟩

theorem Inv.boot (inv : Inv start state) (junk : CInt) : Inv start (SensorThread.boot junk state) where
  interval := interval_boot inv.interval junk
  spaced := inv.spaced
  counter := Int.le_refl 0
  boots := fun frame member => Nat.le_succ_of_le (inv.boots frame member)
  past := by
    intro frame member same
    have bound := inv.boots frame member
    simp only [SensorThread.boot] at same
    omega

theorem interval_pollFrame (interval : Interval start state) : Interval start (pollFrame state) :=
  ⟨interval.exact, interval.live, interval.persisted, interval.bound⟩

theorem Inv.iterate (inv : Inv start state) (small : SmallCommand state .iterate) :
    Inv start (executeSensorControl (pollFrame state)) := by
  have polled := interval_pollFrame inv.interval
  have long : 10000 ≤ state.currentCycleInterval := inv.interval.live ▸ inv.interval.bound
  obtain ⟨frames, counter, iterations, boots, -⟩ := frames_executeSensorControl (pollFrame state)
  refine ⟨polled.executeSensorControl small, ?_, ?_, ?_, ?_⟩
  · rw [frames]
    apply pairwise_pollFrame inv.spaced
    intro zero frame member same
    exact (inv.past frame member same.symm).round zero
  · rw [counter]
    exact pollCounter_nonneg inv.counter
  · rw [frames, boots]
    intro frame member
    by_cases zero : state.pollCounter = 0
    · simp only [pollFrame, zero, ↓reduceIte, List.mem_cons] at member ⊢
      rcases member with rfl | inside
      · exact le_rfl
      · exact inv.boots frame inside
    · simp only [pollFrame, zero, ↓reduceIte] at member ⊢
      exact inv.boots frame member
  · rw [frames, boots]
    intro frame member same
    have past := past_pollFrame long inv.counter (fun inside => inv.past frame inside same) member
    exact ⟨by rw [counter, iterations]; exact past.counted, by rw [counter, iterations]; exact past.round⟩

theorem distribute_eq (param value : Bytes) (junk : CInt) (state : State) :
    ∃ controls, distribute param value junk state = { state with controls } := by
  unfold distribute
  dsimp only
  split_ifs
  · exact ⟨_, rfl⟩
  · exact ⟨state.controls, rfl⟩

theorem Inv.withControls (inv : Inv start state) (controls : List (Bytes × Int)) :
    Inv start { state with controls } where
  interval := ⟨inv.interval.exact, inv.interval.live, inv.interval.persisted, inv.interval.bound⟩
  spaced := inv.spaced
  counter := inv.counter
  boots := inv.boots
  past := fun frame member same =>
    ⟨(inv.past frame member same).counted, (inv.past frame member same).round⟩

theorem inv_step {action : Action} (inv : Inv start state) (small : SmallCommand state action)
    (taken : step state action = some next) : Inv start next := by
  cases action with
  | request param value junk =>
      cases taken
      obtain ⟨controls, same⟩ := distribute_eq param value junk state
      rw [same]
      exact inv.withControls controls
  | iterate =>
      cases taken
      exact inv.iterate small
  | reboot junk =>
      cases taken
      exact inv.boot junk

theorem not_regular_of_not_smallCommand {action : Action} (large : ¬ SmallCommand state action)
    (taken : step state action = some next) : ¬ Regular start next := by
  cases action with
  | iterate =>
      cases taken
      intro regular
      have polled : ¬ SmallCommand (pollFrame state) .iterate := large
      simpa [regular.exact] using overflowed_of_not_smallCommand polled
  | _ => exact absurd trivial large

theorem inv_init {store : Store} (junk : CInt) (stored : Persisted store start)
    (lower : 10000 ≤ start) : Inv start (init store junk) where
  interval := ⟨rfl, stored junk, stored, lower⟩
  spaced := List.Pairwise.nil
  counter := Int.le_refl 0
  boots := by simp [init, SensorThread.boot]
  past := by simp [init, SensorThread.boot]

structure InvAcross (start : Int) (state : State) : Prop where
  inv : Inv start state
  spaced : SpacedAcrossBoots state
  fresh : state.fresh → state.pollCounter = 0
  past : ¬ state.fresh → ∀ frame ∈ state.frames, Past state frame

theorem InvAcross.past_of_lateFirst (inv : InvAcross start state) (late : LateFirst state .iterate) :
    ∀ frame ∈ state.frames, Past state frame := by
  intro frame member
  by_cases fresh : state.fresh
  · have zero := inv.fresh fresh
    have ten := late fresh frame member
    exact ⟨by omega, fun _ => ten⟩
  · exact inv.past fresh frame member

theorem invAcross_step {action : Action} (inv : InvAcross start state)
    (small : SmallCommand state action) (late : LateFirst state action)
    (taken : step state action = some next) : InvAcross start next := by
  have kept := inv_step inv.inv small taken
  cases action with
  | request param value junk =>
      cases taken
      obtain ⟨controls, same⟩ := distribute_eq param value junk state
      rw [same] at kept ⊢
      exact ⟨kept, inv.spaced, inv.fresh, fun running frame member =>
        ⟨(inv.past running frame member).counted, (inv.past running frame member).round⟩⟩
  | iterate =>
      cases taken
      have past := inv.past_of_lateFirst late
      have long : 10000 ≤ state.currentCycleInterval := inv.inv.interval.live ▸ inv.inv.interval.bound
      obtain ⟨frames, counter, iterations, -, fresh⟩ := frames_executeSensorControl (pollFrame state)
      refine ⟨kept, ?_, ?_, ?_⟩
      · rw [SpacedAcrossBoots, frames]
        exact pairwise_pollFrame inv.spaced fun zero frame member => (past frame member).round zero
      · rw [fresh]
        intro running
        cases running
      · rw [frames]
        intro _ frame member
        have later := past_pollFrame long inv.inv.counter (past frame) member
        exact ⟨by rw [counter, iterations]; exact later.counted,
          by rw [counter, iterations]; exact later.round⟩
  | reboot junk =>
      cases taken
      exact ⟨kept, inv.spaced, fun _ => rfl, by simp [boot]⟩

theorem not_spaced_of_not_lateFirst {action : Action} (inv : InvAcross start state)
    (early : ¬ LateFirst state action) (taken : step state action = some next) :
    ¬ SpacedAcrossBoots next := by
  cases action with
  | iterate =>
      cases taken
      simp only [LateFirst, Classical.not_imp, not_forall] at early
      obtain ⟨fresh, frame, member, early⟩ := early
      intro spaced
      rw [SpacedAcrossBoots, (frames_executeSensorControl (pollFrame state)).1] at spaced
      simp only [pollFrame, inv.fresh fresh, ↓reduceIte] at spaced
      exact early ((List.pairwise_cons.mp spaced).1 frame member)
  | _ => exact absurd trivial early

/-- The interval stays regular exactly in the runs whose accepted values are small enough to be
scaled, and its frames are spaced across reboots too exactly if each boot comes late enough. -/
theorem regular_iff_smallCommand {store : Store} (junk : CInt) (stored : Persisted store start)
    (lower : 10000 ≤ start) (actions : List Action) :
    (EveryState step (Regular start) (init store junk) actions ↔
        EveryStep step SmallCommand (init store junk) actions) ∧
      (EveryState step (fun state => Regular start state ∧ SpacedAcrossBoots state)
          (init store junk) actions ↔
        EveryStep step (fun state action => SmallCommand state action ∧ LateFirst state action)
          (init store junk) actions) := by
  have first := inv_init junk stored lower
  constructor
  · exact everyState_iff_everyStep (fun _ inv => inv.regular)
      (fun _ _ _ inv small taken => inv_step inv small taken)
      (fun _ _ _ _ large taken => not_regular_of_not_smallCommand large taken) first actions
  · have firstAcross : InvAcross start (init store junk) :=
      ⟨first, List.Pairwise.nil, fun _ => rfl, by simp [init, boot]⟩
    refine everyState_iff_everyStep (fun _ inv => ⟨inv.inv.regular, inv.spaced⟩)
      (fun _ _ _ inv met taken => invAcross_step inv met.1 met.2 taken) ?_ firstAcross actions
    rintro state action next inv unmet taken ⟨regular, spaced⟩
    by_cases small : SmallCommand state action
    · exact not_spaced_of_not_lateFirst inv (fun late => unmet ⟨small, late⟩) taken spaced
    · exact not_regular_of_not_smallCommand small taken regular

def defaultStore : Store := writeCycleInterval 0 (str "10000") fun _ => none

theorem persisted_defaultStore : Persisted defaultStore 10000 := fun _ => rfl

def pollRateRequest (value : Bytes) : List Action :=
  [.request (str "sensor_poll_rate") value zeroInt, .iterate]

theorem regular_iff_smallCommand_thirty :
    (EveryState step (Regular 10000) (init defaultStore zeroInt) (pollRateRequest (str "30")) ↔
        EveryStep step SmallCommand (init defaultStore zeroInt) (pollRateRequest (str "30"))) ∧
      (EveryState step (fun state => Regular 10000 state ∧ SpacedAcrossBoots state)
          (init defaultStore zeroInt) (pollRateRequest (str "30")) ↔
        EveryStep step (fun state action => SmallCommand state action ∧ LateFirst state action)
          (init defaultStore zeroInt) (pollRateRequest (str "30"))) :=
  regular_iff_smallCommand zeroInt persisted_defaultStore (by decide) (pollRateRequest (str "30"))

-- the value 2147484, scaled to milliseconds, is beyond the largest int
theorem regular_violated : ¬ ∀ (start : Int) (store : Store) (junk : CInt) (actions : List Action),
    Persisted store start → 10000 ≤ start →
      EveryState step (Regular start) (init store junk) actions := by
  intro every
  have overflows : (run step (init defaultStore zeroInt) (pollRateRequest (str "2147484"))).map
      State.overflowed = some true := by
    decide +kernel
  obtain ⟨final, reaches, overflowed⟩ := Option.map_eq_some_iff.mp overflows
  have regular := (every 10000 defaultStore zeroInt _ persisted_defaultStore (by decide)).last reaches
  simp [regular.exact] at overflowed

end DecadaEmbedded.SensorThread
