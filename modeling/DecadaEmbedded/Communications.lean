import DecadaEmbedded.DecadaManager.Rest
import DecadaEmbedded.Library.Run
import DecadaEmbedded.Upstream

/-!
# The main loop of `threads/communications_thread.cpp`

A turn of the loop tries each mailbox once and then looks at `pub_ok`; mails arrive at any time.
What `Publish` and `Reconnect` return is part of the action, and a `Reconnect` that does not return
true has reset the system. The update of the clock and the watchdog are left out, and the mailboxes
are FIFO queues.
-/

namespace DecadaEmbedded.Communications
open Library DecadaManager Upstream

inductive Event where
  | publish (box : Box) (topic payload : Bytes) (ok : Bool)
  | reconnect (returned : Bool)
deriving DecidableEq, Repr

inductive Place where
  | getting (box : Box)
  | checking

/-- `published` tells whether the present turn has called `Publish`. -/
structure State where
  upstream : List Bytes
  serviceResponses : List ServiceResponseMail
  place : Place
  pubOk : Bool
  published : Bool
  events : List Event
  systemReset : Bool

inductive Action where
  | putUpstream (payload : Bytes)
  | putServiceResponse (mail : ServiceResponseMail)
  | tryGet (ok : Bool)
  | checkPubOk (returned : Bool)

variable (cloud : Cloud)

def sensorPubTopic : Bytes :=
  str "/sys/" ++ cloud.decadaProductKey ++ str "/" ++ cloud.deviceUid ++ str "/thing/measurepoint/post"

def decadaServiceTopic : Bytes :=
  str "/sys/" ++ cloud.decadaProductKey ++ str "/" ++ cloud.deviceUid ++ str "/thing/service/"

def responseTopic (serviceId : Bytes) : Bytes := decadaServiceTopic cloud ++ serviceId ++ str "_reply"

def init : State := ⟨[], [], .getting .upstream, true, false, [], false⟩

def State.publish (state : State) (box : Box) (topic payload : Bytes) (ok : Bool) : State :=
  { state with
    pubOk := ok, published := true, events := state.events ++ [.publish box (cstr topic) payload ok] }

-- `mqtt_mutex` is left out
def tryGet (ok : Bool) (state : State) : Box → State
  | .upstream =>
      let state' := { state with place := .getting .serviceResponse }
      match state.upstream with
      | [] => state'
      | payload :: upstream =>
          { state' with upstream }.publish .upstream (sensorPubTopic cloud) payload ok
  | .serviceResponse =>
      let state' := { state with place := .checking }
      match state.serviceResponses with
      | [] => state'
      | mail :: serviceResponses =>
          { state' with serviceResponses }.publish .serviceResponse (responseTopic cloud mail.serviceId)
            mail.response ok

def checkPubOk (returned : Bool) (state : State) : State :=
  let turned := { state with place := .getting .upstream, published := false }
  if state.pubOk then turned
  else if returned then { turned with events := state.events ++ [.reconnect true] }
  else { state with events := state.events ++ [.reconnect false], systemReset := true }

def step (state : State) (action : Action) : Option State :=
  if state.systemReset then none
  else
    match action, state.place with
    | .putUpstream payload, _ => some { state with upstream := state.upstream ++ [payload] }
    | .putServiceResponse mail, _ =>
        some { state with serviceResponses := state.serviceResponses ++ [mail] }
    | .tryGet ok, .getting box => some (tryGet cloud ok state box)
    | .checkPubOk returned, .checking => some (checkPubOk returned state)
    | _, _ => none

/-! ## Reconnections -/

/-- Whether some `Publish` returned false after the last `Reconnect` that returned true. -/
def failedSince (events : List Event) : Bool :=
  events.foldl (fun failed event =>
    match event with
    | .publish _ _ _ ok => failed || !ok
    | .reconnect returned => failed && !returned) false

def Justified (events : List Event) : Prop :=
  ∀ before returned, before ++ [.reconnect returned] <+: events → failedSince before = true

def PublishedThisTurn (state : State) : Action → Prop
  | .checkPubOk _ => state.pubOk = false → state.published = true
  | _ => True

structure Inv (state : State) : Prop where
  justified : Justified state.events
  failed : state.pubOk = false → failedSince state.events = state.published

theorem failedSince_publish (events : List Event) (box : Box) (topic payload : Bytes) (ok : Bool) :
    failedSince (events ++ [.publish box topic payload ok]) = (failedSince events || !ok) := by
  simp [failedSince]

theorem failedSince_reconnect (events : List Event) (returned : Bool) :
    failedSince (events ++ [.reconnect returned]) = (failedSince events && !returned) := by
  simp [failedSince]

theorem justified_publish_iff {events : List Event} {box : Box} {topic payload : Bytes} {ok : Bool} :
    Justified (events ++ [.publish box topic payload ok]) ↔ Justified events := by
  constructor
  · intro justified before returned earlier
    exact justified before returned (earlier.trans (List.prefix_append _ _))
  · intro justified before returned earlier
    rcases List.prefix_concat_iff.mp earlier with whole | earlier
    · cases (List.append_inj' whole rfl).2
    · exact justified before returned earlier

theorem justified_reconnect_iff {events : List Event} {returned : Bool} :
    Justified (events ++ [.reconnect returned]) ↔ Justified events ∧ failedSince events = true := by
  constructor
  · intro justified
    refine ⟨?_, justified events returned List.prefix_rfl⟩
    intro before earlierReturned earlier
    exact justified before earlierReturned (earlier.trans (List.prefix_append _ _))
  · rintro ⟨justified, failed⟩ before earlierReturned earlier
    rcases List.prefix_concat_iff.mp earlier with whole | earlier
    · rw [(List.append_inj' whole rfl).1]
      exact failed
    · exact justified before earlierReturned earlier

theorem inv_init : Inv init where
  justified := by simp [Justified, init]
  failed := by simp [init]

variable {state next : State}

theorem Inv.publish (inv : Inv state) (box : Box) (topic payload : Bytes) (ok : Bool) :
    Inv (state.publish box topic payload ok) where
  justified := justified_publish_iff.mpr inv.justified
  failed := by
    intro refused
    rw [State.publish] at refused ⊢
    simp only at refused
    rw [failedSince_publish, refused]
    simp

theorem Inv.tryGet (inv : Inv state) (ok : Bool) (box : Box) :
    Inv (Communications.tryGet cloud ok state box) := by
  cases box with
  | upstream =>
      simp only [Communications.tryGet]
      cases state.upstream with
      | nil => exact ⟨inv.justified, inv.failed⟩
      | cons payload upstream =>
          apply Inv.publish
          exact ⟨inv.justified, inv.failed⟩
  | serviceResponse =>
      simp only [Communications.tryGet]
      cases state.serviceResponses with
      | nil => exact ⟨inv.justified, inv.failed⟩
      | cons mail serviceResponses =>
          apply Inv.publish
          exact ⟨inv.justified, inv.failed⟩

theorem Inv.checkPubOk (inv : Inv state) (returned : Bool)
    (published : PublishedThisTurn state (.checkPubOk returned)) :
    Inv (Communications.checkPubOk returned state) := by
  cases pubOk : state.pubOk with
  | true =>
      simp only [Communications.checkPubOk, pubOk, ↓reduceIte]
      exact ⟨inv.justified, by simp⟩
  | false =>
      have failed : failedSince state.events = true := (inv.failed pubOk).trans (published pubOk)
      cases returned with
      | true =>
          simp only [Communications.checkPubOk, pubOk, Bool.false_eq_true, ↓reduceIte]
          refine ⟨justified_reconnect_iff.mpr ⟨inv.justified, failed⟩, fun _ => ?_⟩
          simp [failedSince_reconnect]
      | false =>
          simp only [Communications.checkPubOk, pubOk, Bool.false_eq_true, ↓reduceIte]
          refine ⟨justified_reconnect_iff.mpr ⟨inv.justified, failed⟩, fun _ => ?_⟩
          simp [failedSince_reconnect, failed, published pubOk]

theorem step_cases {action : Action} (taken : step cloud state action = some next) :
    (next.events = state.events ∧ next.pubOk = state.pubOk ∧ next.published = state.published ∧
      PublishedThisTurn state action) ∨
    (∃ ok box, action = .tryGet ok ∧ next = tryGet cloud ok state box) ∨
    ∃ returned, action = .checkPubOk returned ∧ next = checkPubOk returned state := by
  unfold step at taken
  split at taken
  · cases taken
  cases action with
  | putUpstream payload =>
      cases taken
      exact .inl ⟨rfl, rfl, rfl, trivial⟩
  | putServiceResponse mail =>
      cases taken
      exact .inl ⟨rfl, rfl, rfl, trivial⟩
  | tryGet ok =>
      cases place : state.place with
      | getting box =>
          simp only [place] at taken
          exact .inr (.inl ⟨ok, box, rfl, (Option.some.inj taken).symm⟩)
      | checking => simp [place] at taken
  | checkPubOk returned =>
      cases place : state.place with
      | getting box => simp [place] at taken
      | checking =>
          simp only [place] at taken
          exact .inr (.inr ⟨returned, rfl, (Option.some.inj taken).symm⟩)

theorem inv_step {action : Action} (inv : Inv state) (published : PublishedThisTurn state action)
    (taken : step cloud state action = some next) : Inv next := by
  rcases step_cases cloud taken with ⟨events, pubOk, same, -⟩ | ⟨ok, box, rfl, rfl⟩ | ⟨returned, rfl, rfl⟩
  · refine ⟨events.symm ▸ inv.justified, ?_⟩
    rw [events, pubOk, same]
    exact inv.failed
  · exact inv.tryGet cloud ok box
  · exact inv.checkPubOk returned published

theorem not_justified_of_silent {action : Action} (inv : Inv state)
    (silent : ¬ PublishedThisTurn state action) (taken : step cloud state action = some next) :
    ¬ Justified next.events := by
  rcases step_cases cloud taken with ⟨-, -, -, published⟩ | ⟨ok, box, rfl, rfl⟩ | ⟨returned, rfl, rfl⟩
  · exact absurd published silent
  · exact absurd trivial silent
  · simp only [PublishedThisTurn, Classical.not_imp, Bool.not_eq_true] at silent
    obtain ⟨pubOk, unpublished⟩ := silent
    have calm : failedSince state.events = false := (inv.failed pubOk).trans unpublished
    cases returned <;>
      simp [checkPubOk, pubOk, justified_reconnect_iff, calm]

/-- The loop reconnects only after a publication has failed since its last reconnection exactly in
the runs where each turn that finds `pub_ok` false has published something. -/
theorem justified_iff_publishedThisTurn (actions : List Action) :
    EveryState (step cloud) (fun state => Justified state.events) init actions ↔
      EveryStep (step cloud) PublishedThisTurn init actions :=
  everyState_iff_everyStep (fun _ inv => inv.justified)
    (fun _ _ _ inv published taken => inv_step cloud inv published taken)
    (fun _ _ _ inv silent taken => not_justified_of_silent cloud inv silent taken) inv_init actions

def failedOnce : List Action :=
  [.putUpstream [], .tryGet false, .tryGet true, .checkPubOk true, .tryGet true, .tryGet true,
    .checkPubOk true]

theorem justified_violated : ¬ ∀ (cloud : Cloud) (actions : List Action),
    EveryState (step cloud) (fun state => Justified state.events) init actions := by
  intro always
  have twice : (run (step (answering [])) init failedOnce).map (fun final => final.events.drop 1) =
      some [.reconnect true, .reconnect true] := by
    decide +kernel
  obtain ⟨final, reaches, events⟩ := Option.map_eq_some_iff.mp twice
  have justified := (always (answering []) failedOnce).last reaches
  cases split : final.events with
  | nil =>
      rw [split] at events
      cases events
  | cons first rest =>
      rw [split, List.drop_one, List.tail_cons] at events
      rw [split, events] at justified
      have calm := justified [first, .reconnect true] true List.prefix_rfl
      rw [show [first, Event.reconnect true] = [first] ++ [.reconnect true] from rfl,
        failedSince_reconnect] at calm
      simp at calm

/-! ## Replies -/

def replies (events : List Event) : List (Bytes × Bytes) :=
  events.filterMap fun event =>
    match event with
    | .publish .serviceResponse topic payload _ => some (topic, payload)
    | _ => none

def replyFor (mail : ServiceResponseMail) : Bytes × Bytes :=
  (cstr (responseTopic cloud mail.serviceId), mail.response)

def Action.puts : Action → List ServiceResponseMail
  | .putServiceResponse mail => [mail]
  | _ => []

/-- The replies published and those queued are the mails put, in their order. -/
theorem replies_step {action : Action} (taken : step cloud state action = some next) :
    replies next.events ++ next.serviceResponses.map (replyFor cloud) =
      replies state.events ++ state.serviceResponses.map (replyFor cloud) ++
        action.puts.map (replyFor cloud) := by
  unfold step at taken
  split at taken
  · cases taken
  cases action with
  | putUpstream payload =>
      cases taken
      simp [Action.puts]
  | putServiceResponse mail =>
      cases taken
      simp [Action.puts]
  | tryGet ok =>
      cases place : state.place with
      | checking => simp [place] at taken
      | getting box =>
          simp only [place, Option.some.injEq] at taken
          subst taken
          cases box with
          | upstream =>
              cases upstream : state.upstream <;>
                simp [tryGet, upstream, Action.puts, State.publish, replies]
          | serviceResponse =>
              cases waiting : state.serviceResponses <;>
                simp [tryGet, waiting, Action.puts, State.publish, replies, replyFor]
  | checkPubOk returned =>
      cases place : state.place with
      | getting box => simp [place] at taken
      | checking =>
          simp only [place, Option.some.injEq] at taken
          subst taken
          unfold checkPubOk
          dsimp only
          split_ifs <;> simp [Action.puts, replies]

end DecadaEmbedded.Communications
