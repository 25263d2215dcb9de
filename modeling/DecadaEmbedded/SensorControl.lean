import DecadaEmbedded.Conversions
import DecadaEmbedded.Library.Mail
import DecadaEmbedded.Library.Run

/-!
# `sensor_control_mail_box`

`DistributeControlMessage` of `ParamControl/param_control.cpp` fills the mailbox for the event
manager thread, and `execute_sensor_control` of `threads/sensor_thread.cpp` empties it. The two
threads interleave at the operations on the mailbox; each thread's place is one constructor. The
sensor thread copies a mail's fields when it gets the mail.
-/

namespace DecadaEmbedded.SensorControl
open Library

structure SensorControlMail where
  param : Bytes
  value : Int
  msgId : Bytes
  endpointId : Bytes
deriving DecidableEq, Repr

def capacity : Nat := 64

def zeroMail : SensorControlMail := ⟨[], 0, [], []⟩

def isSensorParam (param : Bytes) : Bool := (DecadaEmbedded.find param (str "sensor")).isSome

def accepted (mail : SensorControlMail) : Bool :=
  mail.param = str "sensor_poll_rate" ∧ mail.value ≥ 10

inductive EventManager where
  | idle
  | allocating (mail : SensorControlMail)
  | filling (slot : Nat) (mail : SensorControlMail)
  | filled (slot : Nat) (mail : SensorControlMail)

-- `acknowledged` lies between the two frees of an accepted command
inductive SensorThread where
  | idle
  | processing (slot : Nat) (mail : SensorControlMail)
  | acknowledged (slot : Nat) (mail : SensorControlMail)

/-- `allocated` and `freed` collect the slots the pool handed out and took back, `puts` and
`processed` the mails put and got. -/
structure State where
  mailBox : Mail SensorControlMail
  eventManager : EventManager
  sensorThread : SensorThread
  allocated : List Nat
  freed : List Nat
  puts : List SensorControlMail
  processed : List SensorControlMail

def init : State := ⟨Mail.init capacity zeroMail, .idle, .idle, [], [], [], []⟩

inductive Action where
  | distribute (mail : SensorControlMail)
  | tryCalloc | fill | put
  | tryGet | free | freeAgain

def State.free (state : State) (slot : Nat) : State :=
  { state with
    mailBox := state.mailBox.release slot
    freed := if state.mailBox.used = 0 then state.freed else slot :: state.freed }

def step (state : State) : Action → Option State
  | .distribute mail =>
      match state.eventManager with
      | .idle =>
          if isSensorParam mail.param then some { state with eventManager := .allocating mail }
          else some state
      | _ => none
  | .tryCalloc =>
      match state.eventManager with
      | .allocating mail =>
          match state.mailBox.tryCalloc zeroMail with
          | some (slot, mailBox) => some { state with
              mailBox, eventManager := .filling slot mail, allocated := slot :: state.allocated }
          | none => some state
      | _ => none
  | .fill =>
      match state.eventManager with
      | .filling slot mail => some { state with
          mailBox := state.mailBox.write slot mail, eventManager := .filled slot mail }
      | _ => none
  | .put =>
      match state.eventManager with
      | .filled slot mail => some { state with
          mailBox := state.mailBox.put slot, eventManager := .idle, puts := state.puts ++ [mail] }
      | _ => none
  | .tryGet =>
      match state.sensorThread with
      | .idle =>
          match state.mailBox.tryGet with
          | some (slot, mailBox) =>
              let mail := state.mailBox.memory slot
              some { state with
                mailBox, sensorThread := .processing slot mail
                processed := state.processed ++ [mail] }
          | none => some state
      | _ => none
  | .free =>
      match state.sensorThread with
      | .processing slot mail =>
          if accepted mail then some { state.free slot with sensorThread := .acknowledged slot mail }
          else some { state.free slot with sensorThread := .idle }
      | _ => none
  | .freeAgain =>
      match state.sensorThread with
      | .acknowledged slot _ => some { state.free slot with sensorThread := .idle }
      | _ => none

def EventManager.held : EventManager → List Nat
  | .filling slot _ | .filled slot _ => [slot]
  | _ => []

def SensorThread.held : SensorThread → List Nat
  | .processing slot _ => [slot]
  | _ => []

def State.held (state : State) : List Nat := state.eventManager.held ++ state.sensorThread.held

/-- Every slot is in one place, the slots handed out are those taken back and those in use, and
the mails put are those processed and those queued, in order. -/
structure Sound (state : State) : Prop where
  owns : Mail.Owns capacity state.mailBox state.held
  freedOnce : state.allocated.Perm (state.freed ++ state.mailBox.queue ++ state.held)
  inOrder : state.processed ++ state.mailBox.queued = state.puts

def SecondFreeRefused (state : State) (action : Action) : Prop :=
  match action with
  | .freeAgain => state.mailBox.used = 0
  | _ => True

structure Inv (state : State) : Prop where
  sound : Sound state
  filled : ∀ slot mail, state.eventManager = .filled slot mail → state.mailBox.memory slot = mail
  inside : ∀ slot mail, state.sensorThread = .acknowledged slot mail → slot < capacity

theorem inv_init : Inv init where
  sound := ⟨Mail.owns_init capacity zeroMail, by simp [init, Mail.init, State.held,
    EventManager.held, SensorThread.held], rfl⟩
  filled := by simp [init]
  inside := by simp [init]

/-! ## One step -/

variable {state next : State} {slot : Nat}

theorem State.free_of_owned (held : List Nat)
    (owns : Mail.Owns capacity state.mailBox (slot :: held)) :
    state.free slot =
      { state with mailBox := state.mailBox.release slot, freed := slot :: state.freed } := by
  have positive : state.mailBox.used ≠ 0 := by simp [owns.used]
  simp [State.free, positive]

theorem State.free_of_used_eq_zero (unused : state.mailBox.used = 0) : state.free slot = state := by
  simp [State.free, unused, Mail.release_of_used_eq_zero]

theorem Inv.tryCalloc {mail : SensorControlMail} {mailBox : Mail SensorControlMail} (inv : Inv state)
    (place : state.eventManager = .allocating mail)
    (taken : state.mailBox.tryCalloc zeroMail = some (slot, mailBox)) :
    Inv { state with
      mailBox, eventManager := .filling slot mail, allocated := slot :: state.allocated } := by
  have owns := inv.sound.owns.tryCalloc taken
  have queue : mailBox.queue = state.mailBox.queue := by
    obtain ⟨free, -, rfl⟩ := Mail.tryCalloc_eq_some taken
    rfl
  have before : state.held = state.sensorThread.held := by
    simp [State.held, place, EventManager.held]
  refine ⟨⟨?_, ?_, ?_⟩, by simp, inv.inside⟩
  · rwa [before] at owns
  · have balance := inv.sound.freedOnce
    rw [before] at balance
    simpa [State.held, EventManager.held, queue] using
      (balance.cons slot).trans List.perm_middle.symm
  · simpa [inv.sound.owns.queued_tryCalloc taken] using inv.sound.inOrder

theorem Inv.fill {mail : SensorControlMail} (inv : Inv state)
    (place : state.eventManager = .filling slot mail) :
    Inv { state with
      mailBox := state.mailBox.write slot mail, eventManager := .filled slot mail } := by
  have before : state.held = slot :: state.sensorThread.held := by
    simp [State.held, place, EventManager.held]
  have owns := inv.sound.owns
  rw [before] at owns
  refine ⟨⟨owns.write slot mail, ?_, ?_⟩, ?_, inv.inside⟩
  · have balance := inv.sound.freedOnce
    rw [before] at balance
    exact balance
  · simpa [Mail.queued_write_of_not_mem owns.not_mem_queue] using inv.sound.inOrder
  · intro other content same
    cases same
    simp [Mail.write]

theorem Inv.put {mail : SensorControlMail} (inv : Inv state)
    (place : state.eventManager = .filled slot mail) :
    Inv { state with
      mailBox := state.mailBox.put slot, eventManager := .idle, puts := state.puts ++ [mail] } := by
  have before : state.held = slot :: state.sensorThread.held := by
    simp [State.held, place, EventManager.held]
  have owns := inv.sound.owns
  rw [before] at owns
  refine ⟨⟨owns.put, ?_, ?_⟩, by simp, inv.inside⟩
  · have balance := inv.sound.freedOnce
    rw [before] at balance
    simpa [State.held, EventManager.held, Mail.put] using balance
  · rw [Mail.queued_put, inv.filled slot mail place, ← List.append_assoc, inv.sound.inOrder]

theorem Inv.tryGet {mailBox : Mail SensorControlMail} (inv : Inv state)
    (place : state.sensorThread = .idle) (taken : state.mailBox.tryGet = some (slot, mailBox)) :
    Inv { state with
      mailBox, sensorThread := .processing slot (state.mailBox.memory slot)
      processed := state.processed ++ [state.mailBox.memory slot] } := by
  have before : state.held = state.eventManager.held := by
    simp [State.held, place, SensorThread.held]
  have owns := inv.sound.owns.tryGet taken
  rw [before] at owns
  obtain ⟨queued, memory⟩ := Mail.queued_of_tryGet taken
  obtain ⟨queue, split, rfl⟩ := Mail.tryGet_eq_some taken
  refine ⟨⟨owns.of_perm ?_, ?_, ?_⟩, inv.filled, by simp⟩
  · simpa [State.held, SensorThread.held] using (List.perm_append_singleton slot _).symm
  · have balance := inv.sound.freedOnce
    rw [before, split] at balance
    refine balance.trans (List.perm_iff_count.mpr fun other => ?_)
    simp only [State.held, SensorThread.held, List.count_append, List.count_cons, List.count_nil]
    omega
  · have order := inv.sound.inOrder
    rw [queued] at order
    simpa using order

theorem Inv.free {mail : SensorControlMail} {place' : SensorThread} (inv : Inv state)
    (place : state.sensorThread = .processing slot mail) (after : place'.held = [])
    (inside : ∀ other content, place' = .acknowledged other content → other = slot) :
    Inv { state.free slot with sensorThread := place' } := by
  have perm : state.held.Perm (slot :: state.eventManager.held) := by
    simp [State.held, place, SensorThread.held]
  have owns := inv.sound.owns.of_perm perm
  rw [State.free_of_owned _ owns]
  refine ⟨⟨?_, ?_, ?_⟩, ?_, ?_⟩
  · simpa only [State.held, after, List.append_nil] using owns.release
  · have queue : (state.mailBox.release slot).queue = state.mailBox.queue := by
      unfold Mail.release
      split_ifs <;> rfl
    apply (inv.sound.freedOnce.trans (perm.append_left _)).trans
    have middle := @List.perm_middle _ slot (state.freed ++ state.mailBox.queue) state.eventManager.held
    simpa [State.held, after, queue] using middle
  · simpa using inv.sound.inOrder
  · simpa using inv.filled
  · intro other content same
    rw [inside other content same]
    exact owns.lt

theorem Inv.freeAgain {mail : SensorControlMail} (inv : Inv state)
    (place : state.sensorThread = .acknowledged slot mail) (unused : state.mailBox.used = 0) :
    Inv { state.free slot with sensorThread := .idle } := by
  have held : state.held = state.eventManager.held := by
    simp [State.held, place, SensorThread.held]
  have owns := inv.sound.owns
  have balance := inv.sound.freedOnce
  rw [held] at owns balance
  rw [State.free_of_used_eq_zero unused]
  refine ⟨⟨?_, ?_, inv.sound.inOrder⟩, inv.filled, by simp⟩
  · simpa [State.held, SensorThread.held] using owns
  · simpa [State.held, SensorThread.held] using balance

theorem inv_step {action : Action} (inv : Inv state) (refused : SecondFreeRefused state action)
    (taken : step state action = some next) : Inv next := by
  cases action with
  | distribute mail =>
      simp only [step] at taken
      split at taken
      next place =>
        have held : state.held = state.sensorThread.held := by
          simp [State.held, place, EventManager.held]
        split_ifs at taken
        · cases taken
          have balance := inv.sound.freedOnce
          have owns := inv.sound.owns
          rw [held] at balance owns
          exact ⟨⟨owns, balance, inv.sound.inOrder⟩, by simp, inv.inside⟩
        · cases taken
          exact inv
      next => cases taken
  | tryCalloc =>
      simp only [step] at taken
      split at taken
      next mail place =>
        split at taken
        next slot mailBox got =>
          cases taken
          exact inv.tryCalloc place got
        next =>
          cases taken
          exact inv
      next => cases taken
  | fill =>
      simp only [step] at taken
      split at taken
      next slot mail place =>
        cases taken
        exact inv.fill place
      next => cases taken
  | put =>
      simp only [step] at taken
      split at taken
      next slot mail place =>
        cases taken
        exact inv.put place
      next => cases taken
  | tryGet =>
      simp only [step] at taken
      split at taken
      next place =>
        split at taken
        next slot mailBox got =>
          cases taken
          exact inv.tryGet place got
        next =>
          cases taken
          exact inv
      next => cases taken
  | free =>
      simp only [step] at taken
      split at taken
      next slot mail place =>
        split_ifs at taken
        · cases taken
          exact inv.free place rfl fun other content same => by cases same; rfl
        · cases taken
          exact inv.free place rfl fun other content same => by cases same
      next => cases taken
  | freeAgain =>
      simp only [step] at taken
      split at taken
      next slot mail place =>
        cases taken
        exact inv.freeAgain place refused
      next => cases taken

theorem not_sound_freeAgain {action : Action} (inv : Inv state)
    (accepting : ¬ SecondFreeRefused state action) (taken : step state action = some next) :
    ¬ Sound next := by
  cases action with
  | freeAgain =>
      simp only [step] at taken
      split at taken
      next slot mail place =>
        cases taken
        have held : state.held = state.eventManager.held := by
          simp [State.held, place, SensorThread.held]
        have owns := inv.sound.owns
        rw [held] at owns
        intro sound
        apply owns.not_nodup_release (inv.inside slot mail place) accepting
        simpa [State.held, SensorThread.held, State.free] using sound.owns.nodup
      next => cases taken
  | _ => exact absurd trivial accepting

/-- The pool and the order of the mails stay sound exactly in the runs in which every second free
of an accepted command is refused. -/
theorem sound_iff_secondFreeRefused (actions : List Action) :
    EveryState step Sound init actions ↔ EveryStep step SecondFreeRefused init actions :=
  everyState_iff_everyStep (fun _ inv => inv.sound)
    (fun _ _ _ inv refused taken => inv_step inv refused taken)
    (fun _ _ _ inv accepting taken => not_sound_freeAgain inv accepting taken) inv_init actions

def pollRate (value : Int) : SensorControlMail := ⟨str "sensor_poll_rate", value, str "1", []⟩

theorem sound_violated : ¬ ∀ actions, EveryState step Sound init actions := by
  intro every
  have twice : ((run step init [.distribute (pollRate 20), .tryCalloc, .fill, .put,
      .distribute (pollRate 30), .tryCalloc, .fill, .put, .tryGet, .free, .freeAgain]).map
        fun final => final.mailBox.free.take 2) = some [0, 0] := by
    decide +kernel
  obtain ⟨final, reaches, free⟩ := Option.map_eq_some_iff.mp twice
  have nodup := ((every _).last reaches).owns.nodup
  rw [List.append_assoc] at nodup
  have distinct := (nodup.sublist (List.sublist_append_left _ _)).sublist
    (List.take_sublist 2 final.mailBox.free)
  rw [free] at distinct
  exact absurd distinct (by decide)

end DecadaEmbedded.SensorControl
