import DecadaEmbedded.Text
import DecadaEmbedded.Library.Mail
import DecadaEmbedded.Library.Run

/-!
# `comms_upstream_mail_box`, `service_response_mail_box` and `stdio_mutex`

The coordinator of `threads/behavior_coordinator_thread.cpp` takes an upstream slot while it holds
`stdio_mutex`. The loop of `threads/communications_thread.cpp` gets a mail from each box in turn,
publishes it, and frees its slot; `Publish` of `DecadaManager/decada_manager.cpp` runs under the
same mutex. Service responses come from a thread that does not take part in the cycle, so one
step puts them. Nobody takes `mqtt_mutex` under `stdio_mutex`, and it is left out.
-/

namespace DecadaEmbedded.Upstream
open Library

structure ServiceResponseMail where
  response : Bytes
  serviceId : Bytes
deriving DecidableEq, Repr

def capacity : Nat := 256

inductive Thread where
  | coordinator | comms
deriving DecidableEq, Repr

inductive Box where
  | upstream | serviceResponse
deriving DecidableEq, Repr

inductive Coordinator where
  | idle
  | locking (packet : Bytes)
  | allocating (packet : Bytes)
  | filling (slot : Nat) (packet : Bytes)
  | filled (slot : Nat)
  | unlocking

inductive Comms where
  | getting (box : Box)
  | locking (box : Box) (slot : Nat)
  | publishing (box : Box) (slot : Nat)
  | published (box : Box) (slot : Nat)

structure State where
  stdioMutex : Option Thread
  upstream : Mail Bytes
  serviceResponses : Mail ServiceResponseMail
  coordinator : Coordinator
  comms : Comms

def init : State where
  stdioMutex := none
  upstream := Mail.init capacity []
  serviceResponses := Mail.init capacity ⟨[], []⟩
  coordinator := .idle
  comms := .getting .upstream

inductive Action where
  | sendPackets (packet : Bytes)
  | lock | tryCalloc | fill | put | unlock
  | tryGet | lockPublish | unlockPublish | free
  | respond (mail : ServiceResponseMail)

def Box.next : Box → Box
  | .upstream => .serviceResponse
  | .serviceResponse => .upstream

def State.tryGet (state : State) : Box → Option (Nat × State)
  | .upstream => state.upstream.tryGet.map fun (slot, upstream) => (slot, { state with upstream })
  | .serviceResponse =>
      state.serviceResponses.tryGet.map fun (slot, serviceResponses) =>
        (slot, { state with serviceResponses })

def State.release (state : State) (slot : Nat) : Box → State
  | .upstream => { state with upstream := state.upstream.release slot }
  | .serviceResponse => { state with serviceResponses := state.serviceResponses.release slot }

def step (state : State) : Action → Option State
  | .sendPackets packet =>
      match state.coordinator with
      | .idle => some { state with coordinator := .locking packet }
      | _ => none
  | .lock =>
      match state.coordinator, state.stdioMutex with
      | .locking packet, none =>
          some { state with stdioMutex := some .coordinator, coordinator := .allocating packet }
      | _, _ => none
  | .tryCalloc =>
      match state.coordinator with
      | .allocating packet =>
          match state.upstream.tryCalloc [] with
          | some (slot, upstream) => some { state with upstream, coordinator := .filling slot packet }
          | none => some state
      | _ => none
  | .fill =>
      match state.coordinator with
      | .filling slot packet => some { state with
          upstream := state.upstream.write slot (cstr packet), coordinator := .filled slot }
      | _ => none
  | .put =>
      match state.coordinator with
      | .filled slot => some { state with
          upstream := state.upstream.put slot, coordinator := .unlocking }
      | _ => none
  | .unlock =>
      match state.coordinator with
      | .unlocking => some { state with stdioMutex := none, coordinator := .idle }
      | _ => none
  | .tryGet =>
      match state.comms with
      | .getting box =>
          match state.tryGet box with
          | some (slot, state) => some { state with comms := .locking box slot }
          | none => some { state with comms := .getting box.next }
      | _ => none
  | .lockPublish =>
      match state.comms, state.stdioMutex with
      | .locking box slot, none =>
          some { state with stdioMutex := some .comms, comms := .publishing box slot }
      | _, _ => none
  | .unlockPublish =>
      match state.comms with
      | .publishing box slot => some { state with stdioMutex := none, comms := .published box slot }
      | _ => none
  | .free =>
      match state.comms with
      | .published box slot => some { state.release slot box with comms := .getting box.next }
      | _ => none
  | .respond mail =>
      (state.serviceResponses.tryCalloc ⟨[], []⟩).map fun (slot, box) =>
        { state with serviceResponses := (box.write slot mail).put slot }

def Action.isComms : Action → Bool
  | .tryGet | .lockPublish | .unlockPublish | .free => true
  | _ => false

/-- The coordinator holds the mutex and waits for a slot, the communications thread holds a slot
and waits for the mutex. -/
structure Deadlocked (state : State) : Prop where
  holds : state.stdioMutex = some .coordinator
  waits : ∃ packet, state.coordinator = .allocating packet
  full : state.upstream.free = []
  locking : ∃ box slot, state.comms = .locking box slot

instance : DecidablePred Deadlocked := fun state =>
  match mutex : state.stdioMutex, place : state.coordinator, free : state.upstream.free,
      other : state.comms with
  | some .coordinator, .allocating packet, [], .locking box slot =>
      isTrue ⟨mutex, ⟨packet, place⟩, free, box, slot, other⟩
  | some .comms, _, _, _ | none, _, _, _ => isFalse fun deadlocked => by
      simpa [mutex] using deadlocked.holds
  | _, .idle, _, _ | _, .locking _, _, _ | _, .filling _ _, _, _ | _, .filled _, _, _
  | _, .unlocking, _, _ => isFalse fun deadlocked => by simpa [place] using deadlocked.waits
  | _, _, _ :: _, _ => isFalse fun deadlocked => by simpa [free] using deadlocked.full
  | _, _, _, .getting _ | _, _, _, .publishing _ _ | _, _, _, .published _ _ =>
      isFalse fun deadlocked => by simpa [other] using deadlocked.locking

def Doomed (state : State) : Prop :=
  ∃ rest final, (∀ action ∈ rest, action.isComms) ∧ run step state rest = some final ∧
    Deadlocked final

def SlotInReach (state : State) : Prop :=
  state.upstream.free ≠ [] ∨ ∃ slot, state.comms = .published .upstream slot

def LockWithSlot (state : State) (action : Action) : Prop :=
  match action with
  | .lock => SlotInReach state
  | _ => True

variable {state next : State}

def Coordinator.held : Coordinator → List Nat
  | .filling slot _ | .filled slot => [slot]
  | _ => []

def Comms.held : Comms → Box → List Nat
  | .locking box slot, box' | .publishing box slot, box' | .published box slot, box' =>
      if box = box' then [slot] else []
  | .getting _, _ => []

def Coordinator.locked : Coordinator → Bool
  | .idle | .locking _ => false
  | _ => true

structure Inv (state : State) : Prop where
  upstream : Mail.Owns capacity state.upstream (state.comms.held .upstream ++ state.coordinator.held)
  responses : Mail.Owns capacity state.serviceResponses (state.comms.held .serviceResponse)
  coordinator : state.coordinator.locked → state.stdioMutex = some .coordinator
  comms : ∀ box slot, state.comms = .publishing box slot → state.stdioMutex = some .comms
  reach : ∀ packet, state.coordinator = .allocating packet → SlotInReach state

theorem inv_init : Inv init where
  upstream := Mail.owns_init capacity []
  responses := Mail.owns_init capacity (⟨[], []⟩ : ServiceResponseMail)
  coordinator := by simp [init, Coordinator.locked]
  comms := by simp [init]
  reach := by simp [init]

theorem not_deadlocked (inv : Inv state) : ¬ Deadlocked state := by
  intro deadlocked
  obtain ⟨packet, waits⟩ := deadlocked.waits
  obtain ⟨box, slot, locking⟩ := deadlocked.locking
  rcases inv.reach packet waits with free | ⟨other, published⟩
  · exact free deadlocked.full
  · simp [locking] at published

theorem Inv.tryGet {box : Box} {slot : Nat} (inv : Inv state) (place : state.comms = .getting box)
    (taken : state.tryGet box = some (slot, next)) : Inv { next with comms := .locking box slot } := by
  have upstream := inv.upstream
  have responses := inv.responses
  have reach := inv.reach
  simp only [place, Comms.held, List.nil_append, SlotInReach, reduceCtorEq, exists_false,
    or_false] at upstream responses reach
  cases box with
  | upstream =>
      obtain ⟨⟨first, mail⟩, got, same⟩ := Option.map_eq_some_iff.mp taken
      cases same
      have free : mail.free = state.upstream.free := by
        obtain ⟨queue, -, rfl⟩ := Mail.tryGet_eq_some got
        rfl
      exact ⟨upstream.tryGet got, responses, inv.coordinator, by simp,
        fun packet allocating => .inl (free ▸ reach packet allocating)⟩
  | serviceResponse =>
      obtain ⟨⟨first, mail⟩, got, same⟩ := Option.map_eq_some_iff.mp taken
      cases same
      exact ⟨upstream, responses.tryGet got, inv.coordinator, by simp,
        fun packet allocating => .inl (reach packet allocating)⟩

theorem Inv.free {box : Box} {slot : Nat} (inv : Inv state) (place : state.comms = .published box slot) :
    Inv { state.release slot box with comms := .getting box.next } := by
  have upstream := inv.upstream
  have responses := inv.responses
  have reach := inv.reach
  simp only [place, Comms.held, SlotInReach, Comms.published.injEq] at upstream responses reach
  cases box with
  | upstream =>
      have positive : state.upstream.used ≠ 0 := by simp [upstream.used]
      exact ⟨upstream.release, responses, inv.coordinator, by simp,
        fun packet allocating => .inl (by simp [State.release, Mail.release, positive])⟩
  | serviceResponse =>
      exact ⟨upstream, responses.release, inv.coordinator, by simp,
        fun packet allocating => .inl (by simpa [State.release] using reach packet allocating)⟩

theorem Inv.tryCalloc {packet : Bytes} {slot : Nat} {upstream : Mail Bytes} (inv : Inv state)
    (place : state.coordinator = .allocating packet)
    (taken : state.upstream.tryCalloc [] = some (slot, upstream)) :
    Inv { state with upstream, coordinator := .filling slot packet } := by
  have owns := inv.upstream
  simp only [place, Coordinator.held, List.append_nil] at owns
  have mutex := inv.coordinator (by simp [place, Coordinator.locked])
  have after := (owns.tryCalloc taken).of_perm (List.perm_append_singleton slot _).symm
  exact ⟨after, inv.responses, fun _ => mutex, inv.comms, by simp⟩

theorem Inv.put {slot : Nat} (inv : Inv state) (place : state.coordinator = .filled slot) :
    Inv { state with upstream := state.upstream.put slot, coordinator := .unlocking } := by
  have owns := inv.upstream
  simp only [place, Coordinator.held] at owns
  have mutex := inv.coordinator (by simp [place, Coordinator.locked])
  have first := owns.of_perm (List.perm_append_singleton slot _)
  exact ⟨by simpa [Coordinator.held] using first.put, inv.responses, fun _ => mutex, inv.comms, by simp⟩

/-- The communications thread takes or gives back a mutex that the coordinator does not hold. -/
theorem Inv.publishes {stdioMutex : Option Thread} {comms : Comms} (inv : Inv state)
    (held : comms.held = state.comms.held) (others : state.stdioMutex ≠ some .coordinator)
    (publishing : ∀ box slot, comms = .publishing box slot → stdioMutex = some .comms) :
    Inv { state with stdioMutex, comms } := by
  have unlocked : ¬ state.coordinator.locked := fun locked => others (inv.coordinator locked)
  refine ⟨?_, ?_, fun locked => absurd locked unlocked, publishing, fun packet allocating => ?_⟩
  · rw [held]
    exact inv.upstream
  · rw [held]
    exact inv.responses
  · exact absurd (by simp [show state.coordinator = _ from allocating, Coordinator.locked]) unlocked

theorem Inv.respond {mail : ServiceResponseMail} {slot : Nat} {box : Mail ServiceResponseMail}
    (inv : Inv state) (taken : state.serviceResponses.tryCalloc ⟨[], []⟩ = some (slot, box)) :
    Inv { state with serviceResponses := (box.write slot mail).put slot } :=
  ⟨inv.upstream, ((inv.responses.tryCalloc taken).write slot mail).put, inv.coordinator, inv.comms,
    inv.reach⟩

theorem inv_step {action : Action} (inv : Inv state) (inReach : LockWithSlot state action)
    (taken : step state action = some next) : Inv next := by
  have coordinator := inv.coordinator
  have comms := inv.comms
  cases action with
  | sendPackets packet =>
      simp only [step] at taken
      split at taken
      next place =>
        cases taken
        have owns := inv.upstream
        simp only [place, Coordinator.held] at owns
        exact ⟨owns, inv.responses, by simp [Coordinator.locked], inv.comms, by simp⟩
      next => cases taken
  | lock =>
      simp only [step] at taken
      split at taken
      next packet place free =>
        cases taken
        have owns := inv.upstream
        simp only [place, Coordinator.held] at owns
        refine ⟨owns, inv.responses, fun _ => rfl, ?_, fun _ _ => inReach⟩
        intro box slot publishing
        simpa [free] using comms box slot publishing
      next => cases taken
  | tryCalloc =>
      simp only [step] at taken
      split at taken
      next packet place =>
        split at taken
        next slot upstream got =>
          cases taken
          exact inv.tryCalloc place got
        next =>
          cases taken
          exact inv
      next => cases taken
  | fill =>
      simp only [step] at taken
      split at taken
      next slot packet place =>
        cases taken
        have owns := inv.upstream
        simp only [place, Coordinator.held] at owns
        have mutex := coordinator (by simp [place, Coordinator.locked])
        exact ⟨owns.write slot _, inv.responses, fun _ => mutex, inv.comms, by simp⟩
      next => cases taken
  | put =>
      simp only [step] at taken
      split at taken
      next slot place =>
        cases taken
        exact inv.put place
      next => cases taken
  | unlock =>
      simp only [step] at taken
      split at taken
      next place =>
        cases taken
        have owns := inv.upstream
        simp only [place, Coordinator.held] at owns
        have mutex := coordinator (by simp [place, Coordinator.locked])
        refine ⟨owns, inv.responses, by simp [Coordinator.locked], ?_, by simp⟩
        intro box slot publishing
        simpa [mutex] using comms box slot publishing
      next => cases taken
  | tryGet =>
      simp only [step] at taken
      split at taken
      next box place =>
        split at taken
        next slot got found =>
          cases taken
          exact inv.tryGet place found
        next =>
          cases taken
          have upstream := inv.upstream
          have responses := inv.responses
          have reach := inv.reach
          simp only [place, Comms.held, SlotInReach, reduceCtorEq, exists_false,
            or_false] at upstream responses reach
          exact ⟨upstream, responses, inv.coordinator, by simp,
            fun packet allocating => .inl (reach packet allocating)⟩
      next => cases taken
  | lockPublish =>
      simp only [step] at taken
      split at taken
      next box slot place free =>
        cases taken
        exact inv.publishes (by rw [place]; rfl) (by simp [free]) fun _ _ _ => rfl
      next => cases taken
  | unlockPublish =>
      simp only [step] at taken
      split at taken
      next box slot place =>
        cases taken
        have mutex := comms box slot place
        exact inv.publishes (by rw [place]; rfl) (by simp [mutex]) (by simp)
      next => cases taken
  | free =>
      simp only [step] at taken
      split at taken
      next box slot place =>
        cases taken
        exact inv.free place
      next => cases taken
  | respond mail =>
      obtain ⟨⟨slot, box⟩, got, rfl⟩ := Option.map_eq_some_iff.mp taken
      exact inv.respond got

/-! ## A lock outside the condition -/

theorem Doomed.of_step {action : Action} (doomed : Doomed next) (comms : action.isComms)
    (taken : step state action = some next) : Doomed state := by
  obtain ⟨rest, final, alone, reaches, deadlocked⟩ := doomed
  refine ⟨action :: rest, final, ?_, ?_, deadlocked⟩
  · intro other member
    rcases List.mem_cons.mp member with rfl | member
    · exact comms
    · exact alone other member
  · rw [run_cons, taken]
    exact reaches

theorem Deadlocked.doomed (deadlocked : Deadlocked state) : Doomed state :=
  ⟨[], state, by simp, rfl, deadlocked⟩

structure Starving (state : State) : Prop where
  holds : state.stdioMutex = some .coordinator
  waits : ∃ packet, state.coordinator = .allocating packet
  full : state.upstream.free = []

theorem Starving.doomed_locking {box : Box} {slot : Nat} (starving : Starving state)
    (place : state.comms = .locking box slot) : Doomed state :=
  Deadlocked.doomed ⟨starving.holds, starving.waits, starving.full, box, slot, place⟩

theorem Starving.doomed_upstream (starving : Starving state)
    (owns : Mail.Owns capacity state.upstream []) (place : state.comms = .getting .upstream) :
    Doomed state := by
  obtain ⟨slot, queue, split⟩ : ∃ slot queue, state.upstream.queue = slot :: queue := by
    apply List.exists_cons_of_ne_nil
    intro empty
    have length := owns.partition.length_eq
    simp [starving.full, empty, capacity] at length
  have taken : step state .tryGet =
      some { state with upstream := { state.upstream with queue }, comms := .locking .upstream slot } := by
    simp [step, place, State.tryGet, Mail.tryGet, split]
  refine Doomed.of_step (Starving.doomed_locking ?_ rfl) rfl taken
  exact ⟨starving.holds, starving.waits, starving.full⟩

theorem Starving.doomed (starving : Starving state)
    (owns : Mail.Owns capacity state.upstream (state.comms.held .upstream))
    (outside : ∀ box slot, state.comms ≠ .publishing box slot)
    (outOfReach : ¬ SlotInReach state) : Doomed state := by
  cases place : state.comms with
  | getting box =>
      rw [place] at owns
      cases box with
      | upstream => exact starving.doomed_upstream owns place
      | serviceResponse =>
          cases found : state.tryGet .serviceResponse with
          | some got =>
              obtain ⟨slot, after⟩ := got
              have taken : step state .tryGet =
                  some { after with comms := .locking .serviceResponse slot } := by
                simp [step, place, found]
              obtain ⟨⟨first, mail⟩, -, same⟩ := Option.map_eq_some_iff.mp found
              cases same
              refine Doomed.of_step (Starving.doomed_locking ?_ rfl) rfl taken
              exact ⟨starving.holds, starving.waits, starving.full⟩
          | none =>
              have taken : step state .tryGet = some { state with comms := .getting .upstream } := by
                simp [step, place, found, Box.next]
              refine Doomed.of_step (Starving.doomed_upstream ?_ ?_ rfl) rfl taken
              · exact ⟨starving.holds, starving.waits, starving.full⟩
              · exact owns
  | locking box slot => exact starving.doomed_locking place
  | publishing box slot => exact absurd place (outside box slot)
  | published box slot =>
      rw [place] at owns
      cases box with
      | upstream => exact absurd (.inr ⟨slot, place⟩) outOfReach
      | serviceResponse =>
          have taken : step state .free = some
              { state.release slot .serviceResponse with comms := .getting .upstream } := by
            simp [step, place, Box.next]
          refine Doomed.of_step (Starving.doomed_upstream ?_ ?_ rfl) rfl taken
          · exact ⟨starving.holds, starving.waits, starving.full⟩
          · exact owns

theorem doomed_of_lock {action : Action} (inv : Inv state) (outOfReach : ¬ LockWithSlot state action)
    (taken : step state action = some next) : Doomed next := by
  cases action with
  | lock =>
      simp only [step] at taken
      split at taken
      next packet place free =>
        cases taken
        have owns := inv.upstream
        simp only [place, Coordinator.held, List.append_nil] at owns
        refine Starving.doomed ⟨rfl, ⟨packet, rfl⟩, ?_⟩ owns ?_ outOfReach
        · by_contra slotFree
          exact outOfReach (.inl slotFree)
        · intro box slot publishing
          simpa [free] using inv.comms box slot publishing
      next => cases taken
  | _ => exact absurd trivial outOfReach

theorem inv_of_comms {rest : List Action} (inv : Inv state)
    (alone : ∀ action ∈ rest, action.isComms) (reaches : run step state rest = some next) :
    Inv next := by
  induction rest generalizing state with
  | nil =>
      cases reaches
      exact inv
  | cons action rest ih =>
      rw [run_cons] at reaches
      obtain ⟨middle, taken, reaches⟩ := Option.bind_eq_some_iff.mp reaches
      have inReach : LockWithSlot state action := by
        have comms := alone action (by simp)
        cases action with
        | lock => cases comms
        | _ => trivial
      exact ih (inv_step inv inReach taken) (fun other member => alone other (by simp [member])) reaches

/-- In a run whose locks all have a slot in reach the two threads never deadlock; and the
communications thread can never be led into the deadlock exactly in these runs. -/
theorem neverDeadlocked_of_lockWithSlot (actions : List Action) :
    (EveryStep step LockWithSlot init actions → EveryState step (¬ Deadlocked ·) init actions) ∧
      (EveryState step (¬ Doomed ·) init actions ↔ EveryStep step LockWithSlot init actions) := by
  have doomed_iff : EveryState step (¬ Doomed ·) init actions ↔
      EveryStep step LockWithSlot init actions := by
    refine everyState_iff_everyStep ?_ (fun _ _ _ inv inReach taken => inv_step inv inReach taken)
      (fun _ _ _ inv outOfReach taken => not_not_intro (doomed_of_lock inv outOfReach taken))
      inv_init actions
    rintro state inv ⟨rest, final, alone, reaches, deadlocked⟩
    exact not_deadlocked (inv_of_comms inv alone reaches) deadlocked
  exact ⟨fun steps => (doomed_iff.mpr steps).mono fun _ safe deadlocked => safe deadlocked.doomed, doomed_iff⟩

theorem Deadlocked.step {action : Action} (deadlocked : Deadlocked state)
    (taken : Upstream.step state action = some next) : Deadlocked next := by
  obtain ⟨holds, ⟨packet, waits⟩, full, ⟨box, slot, locking⟩⟩ := deadlocked
  cases action <;> simp [Upstream.step, holds, waits, locking, Mail.tryCalloc, full] at taken
  · cases taken
    exact ⟨holds, ⟨packet, waits⟩, full, box, slot, locking⟩
  · obtain ⟨free, other, -, rfl⟩ := taken
    exact ⟨rfl, ⟨packet, rfl⟩, full, box, slot, rfl⟩

def sendPacket : List Action := [.sendPackets [], .lock, .tryCalloc, .fill, .put, .unlock]

theorem deadlocked_reachable : ¬ ∀ actions, EveryState step (¬ Deadlocked ·) init actions := by
  intro every
  have reached : (run step init ((List.replicate 256 sendPacket).flatten ++
      [.tryGet, .sendPackets [], .lock])).any (fun final => decide (Deadlocked final)) = true := by
    decide +kernel
  obtain ⟨final, reaches, deadlocked⟩ := (Option.any_eq_true _ _).mp reached
  exact (every _).last reaches (of_decide_eq_true deadlocked)

end DecadaEmbedded.Upstream
