import DecadaEmbedded.Library.Program
import DecadaEmbedded.Library.Run
import DecadaEmbedded.Text
import Mathlib.Logic.Function.Basic

/-!
# `mqtt_network_` and `mqtt_client_` from the start-up on

The communications thread and the subscription manager of `threads/communications_thread.cpp`, as
far as they use the two pointers of `DecadaManager/decada_manager.cpp`; no other thread does. The
threads interleave at each use, and what a method returns is an answer from outside.
-/

namespace DecadaEmbedded.DecadaManager.Pointers
open Library

inductive Pointer where
  | network | client
deriving DecidableEq, Repr

inductive Method where
  | connect | disconnect | publish | subscribe | unsubscribe | setMessageHandler | isConnected | yield
deriving DecidableEq, Repr

/-- `call` is answered with whether the method returned success, or true; `outside` is something that
the firmware waits for or asks elsewhere and `returned` what `Connect` has returned. -/
inductive Op where
  | call (pointer : Pointer) (method : Method)
  | create (pointer : Pointer)
  | setNull (pointer : Pointer)
  | isNotNull (pointer : Pointer)
  | lock | unlock
  | outside
  | returned (ok : Bool)
  | setFlag
  | startSubscriptionManager
  | countFailure | isLastFailure | clearFailures
  | systemReset

abbrev Code := Program Op

inductive Thread where
  | comms | subscription
deriving DecidableEq, Repr

/-- What a thread does next: another turn of its loop, with `pub_ok`, or another try to reconnect. -/
inductive Next where
  | turn (pubOk : Bool)
  | retry

/-! ## `DecadaManager` -/

def connectMqttNetwork : Code Bool := do
  .tell (.create .network)
  .ask (.call .network .connect)

def connectMqttClient : Code Bool := do
  .tell (.create .client)
  .ask (.call .client .connect)

-- `CheckDeviceCreation` returns once the device is created
def connect : Code Bool := do
  .tell .outside
  if ← connectMqttNetwork then connectMqttClient else return false

def publish : Code Bool := .ask (.call .client .publish)

def subscribe : Code Bool := .ask (.call .client .subscribe)

def disconnectMqttNetwork : Code Unit := do
  .tell (.call .network .disconnect)
  .tell (.setNull .network)

def unsubscribeAll : List Bytes → Code Unit
  | [] => return ()
  | _ :: subTopics => do
      .tell (.call .client .unsubscribe)
      .tell (.call .client .setMessageHandler)
      unsubscribeAll subTopics

def disconnectMqttClient (subTopics : List Bytes) : Code Unit := do
  unsubscribeAll subTopics
  if ← .ask (.call .client .isConnected) then .tell (.call .client .disconnect)
  .tell (.setNull .client)

def subscribeAll : List Bytes → Bool → Code Bool
  | [], subscribed => return subscribed
  | _ :: subTopics, subscribed => do
      let ok ← subscribe
      subscribeAll subTopics (subscribed && ok)

def reconnectMqttClient (subTopics : List Bytes) : Code Bool := do
  let connected ← connectMqttClient
  let subscribed ← subscribeAll subTopics true
  return connected && subscribed

def reconnected (networkIsConnected clientIsConnected : Bool) : Code Next :=
  if networkIsConnected && clientIsConnected then do
    .tell .clearFailures
    return .turn false
  else return .retry

/-- One turn of the loop in `ReconnectMqttService`. -/
def retryMqttService (subTopics : List Bytes) : Code Next := do
  let networkIsConnected ← connectMqttNetwork
  let clientIsConnected ← reconnectMqttClient subTopics
  .tell .countFailure
  if ← .ask .isLastFailure then .tell .systemReset
  reconnected networkIsConnected clientIsConnected

def reconnectMqttService (subTopics : List Bytes) : Code Next := do
  .tell .lock
  disconnectMqttNetwork
  disconnectMqttClient subTopics
  let networkIsConnected ← connectMqttNetwork
  let clientIsConnected ← reconnectMqttClient subTopics
  .tell .unlock
  reconnected networkIsConnected clientIsConnected

/-! ## The two threads -/

variable (subscriptionTopics : List Bytes)

def startUp : Code Next := do
  let connected ← connect
  .tell (.returned connected)
  .tell .setFlag
  let _ ← subscribeAll subscriptionTopics true
  .tell .startSubscriptionManager
  return .turn true

-- a mailbox is tried, and its mail published
def publishMail (pubOk : Bool) : Code Bool := do
  if ← .ask .outside then
    .tell .lock
    let pubOk ← publish
    .tell .unlock
    return pubOk
  else return pubOk

def commsTurn (pubOk : Bool) : Code Next := do
  let pubOk ← publishMail pubOk
  let pubOk ← publishMail pubOk
  if pubOk then return .turn pubOk else reconnectMqttService subscriptionTopics

def subscriptionTurn : Code Next := do
  if ← .ask (.isNotNull .client) then
    .tell (.call .client .yield)
    if ← .ask (.call .client .isConnected) then return .turn true
    else reconnectMqttService subscriptionTopics
  else return .turn true

def Thread.code (thread : Thread) : Next → Code Next
  | .retry => retryMqttService subscriptionTopics
  | .turn pubOk =>
      match thread with
      | .comms => commsTurn subscriptionTopics pubOk
      | .subscription => subscriptionTurn subscriptionTopics

/-- `torn` are the pointers that the thread leaves null, `refused` tells whether a connect of the thread
has failed and `connected` what `Connect` has returned to it. -/
structure History where
  torn : Pointer → Bool
  holding : Bool
  refused : Bool
  connected : Option Bool

def History.after (history : History) : Op → Bool → History
  | .call _ method, answer =>
      if method = .connect ∧ answer = false then { history with refused := true } else history
  | .create pointer, _ => { history with torn := Function.update history.torn pointer false }
  | .setNull pointer, _ => { history with torn := Function.update history.torn pointer true }
  | .lock, _ => { history with holding := true }
  | .unlock, _ => { history with holding := false }
  | .returned ok, _ => { history with connected := some ok }
  | _, _ => history

structure ThreadState where
  code : Code Next
  history : History

/-- `returns` is what `Connect` has returned and `nullCalls` are the calls through a null pointer;
`nulledBy` is the thread that has set a pointer to null, until the object is created anew. -/
structure State where
  pointers : Pointer → Bool
  nulledBy : Pointer → Option Thread
  mutex : Option Thread
  flag : Bool
  started : Bool
  failures : Nat
  systemReset : Bool
  threads : Thread → ThreadState
  returns : List Bool
  nullCalls : List (Thread × Pointer)

def State.history (state : State) (thread : Thread) : History := (state.threads thread).history

def init : State where
  pointers _ := false
  nulledBy _ := some .comms
  mutex := none
  flag := false
  started := false
  failures := 0
  systemReset := false
  threads
    | .comms => ⟨startUp subscriptionTopics, ⟨fun _ => true, false, false, none⟩⟩
    | .subscription => ⟨.done (.turn true), ⟨fun _ => false, false, false, none⟩⟩
  returns := []
  nullCalls := []

structure Action where
  thread : Thread
  answer : Bool

def maxMqttFailedReconnections : Nat := 5

def effect (state : State) (thread : Thread) (answer : Bool) : Op → Option (Bool × State)
  | .call pointer _ => some (answer,
      if state.pointers pointer then state
      else { state with nullCalls := (thread, pointer) :: state.nullCalls })
  | .create pointer =>
      some (answer, { state with
        pointers := Function.update state.pointers pointer true
        nulledBy := Function.update state.nulledBy pointer none })
  | .setNull pointer =>
      some (answer, { state with
        pointers := Function.update state.pointers pointer false
        nulledBy := Function.update state.nulledBy pointer (some thread) })
  | .isNotNull pointer => some (state.pointers pointer, state)
  | .lock =>
      match state.mutex with
      | none => some (answer, { state with mutex := some thread })
      | some _ => none
  | .unlock => some (answer, { state with mutex := none })
  | .outside => some (answer, state)
  | .returned ok => some (answer, { state with returns := state.returns ++ [ok] })
  | .setFlag => some (answer, { state with flag := true })
  | .startSubscriptionManager => some (answer, { state with started := true })
  | .countFailure => some (answer, { state with failures := (state.failures + 1) % 256 })
  | .isLastFailure => some (state.failures = maxMqttFailedReconnections, state)
  | .clearFailures => some (answer, { state with failures := 0 })
  | .systemReset => some (answer, { state with systemReset := true })

def State.set (state : State) (thread : Thread) (holding : ThreadState) : State :=
  { state with threads := Function.update state.threads thread holding }

-- a thread whose turn is over waits for the flag before the next one; a reset ends everything
def step (state : State) (action : Action) : Option State :=
  if state.systemReset then none
  else
    let current := state.threads action.thread
    match current.code with
    | .done next =>
        if action.thread = .comms ∨ (state.flag ∧ state.started) then
          some (state.set action.thread
            { current with code := action.thread.code subscriptionTopics next })
        else none
    | .perform op next =>
        (effect state action.thread action.answer op).map fun (answer, state) =>
          state.set action.thread ⟨next answer, current.history.after op answer⟩

/-! ## What is claimed of the pointers -/

structure Careful (state : State) : Prop where
  flagged : state.flag = true → true ∈ state.returns
  safe : state.nullCalls = []

/-- When the flag is set, every connect of the thread has succeeded. A call outside `mqtt_mutex` does
not come between the other thread's setting the pointer to null and the next creation. -/
def Meets (state : State) (action : Action) : Prop :=
  match (state.threads action.thread).code with
  | .perform .setFlag _ => (state.history action.thread).refused = false
  | .perform (.call pointer _) _ => state.mutex ≠ some action.thread →
      ∀ other, state.nulledBy pointer = some other → other = action.thread
  | _ => True

/-! ## The programs, one thread at a time -/

/-- A pointer is set to null only under the mutex and created anew before it is called through, before
the mutex is released and before the flag is set. -/
def rule (thread : Thread) : Rule Op History where
  assumed history op := op = .setFlag → history.refused = false
  allowed history op :=
    match op with
    | .call pointer _ => history.torn pointer = false
    | .setNull _ => history.holding = true
    | .unlock => history.holding = true ∧ ∀ pointer, history.torn pointer = false
    | .returned _ => thread = .comms ∧ history.connected = none
    | .setFlag => thread = .comms ∧ history.connected = some (!history.refused) ∧
        (history.refused = false → ∀ pointer, history.torn pointer = false)
    | _ => True
  after := History.after

structure Idle (history : History) : Prop where
  holding : history.holding = false
  torn : ∀ pointer, history.torn pointer = false

def History.connect (history : History) (pointer : Pointer) (answer : Bool) : History :=
  { history with
    torn := Function.update history.torn pointer false, refused := history.refused || !answer }

def History.tear (history : History) (pointer : Pointer) : History :=
  { history with torn := Function.update history.torn pointer true }

variable {thread : Thread} {history : History}

theorem wp_connect_pointer (pointer : Pointer) (post : Bool → History → Prop) :
    wp (rule thread) (do .tell (.create pointer); .ask (.call pointer .connect)) post history ↔
      ∀ answer, post answer (history.connect pointer answer) := by
  simp only [wp_bind, wp_tell, wp_ask, rule, History.after, reduceCtorEq, false_implies, true_and,
    Function.update_self, forall_const]
  apply forall_congr'
  intro answer
  cases answer <;> simp [History.connect]

@[simp] theorem wp_connectMqttNetwork (post : Bool → History → Prop) :
    wp (rule thread) connectMqttNetwork post history ↔
      ∀ answer, post answer (history.connect .network answer) :=
  wp_connect_pointer .network post

@[simp] theorem wp_connectMqttClient (post : Bool → History → Prop) :
    wp (rule thread) connectMqttClient post history ↔
      ∀ answer, post answer (history.connect .client answer) :=
  wp_connect_pointer .client post

theorem after_call {pointer : Pointer} {method : Method} (other : method ≠ .connect) (answer : Bool) :
    (rule thread).after history (.call pointer method) answer = history := by
  simp [rule, History.after, other]

theorem wp_askMethod {pointer : Pointer} {method : Method} (other : method ≠ .connect)
    (created : history.torn pointer = false) {post : Bool → History → Prop}
    (later : ∀ answer, post answer history) :
    wp (rule thread) (.ask (.call pointer method)) post history := by
  refine ⟨created, fun _ answer => ?_⟩
  show post answer ((rule thread).after history (.call pointer method) answer)
  rw [after_call other]
  exact later answer

theorem wp_tellMethod {pointer : Pointer} {method : Method} (other : method ≠ .connect)
    (created : history.torn pointer = false) {post : Unit → History → Prop} (later : post () history) :
    wp (rule thread) (.tell (.call pointer method)) post history := by
  refine ⟨created, fun _ answer => ?_⟩
  show post () ((rule thread).after history (.call pointer method) answer)
  rw [after_call other]
  exact later

theorem wp_subscribeAll (created : history.torn .client = false) (subTopics : List Bytes)
    (subscribed : Bool) {post : Bool → History → Prop} (later : ∀ answer, post answer history) :
    wp (rule thread) (subscribeAll subTopics subscribed) post history := by
  induction subTopics generalizing subscribed with
  | nil => exact later subscribed
  | cons topic subTopics ih =>
      rw [subscribeAll, wp_bind]
      exact wp_askMethod (by decide) created fun ok => ih (subscribed && ok)

theorem wp_unsubscribeAll (created : history.torn .client = false) (subTopics : List Bytes)
    {post : Unit → History → Prop} (later : post () history) :
    wp (rule thread) (unsubscribeAll subTopics) post history := by
  induction subTopics with
  | nil => exact later
  | cons topic subTopics ih =>
      rw [unsubscribeAll, wp_bind]
      apply wp_tellMethod (by decide) created
      rw [wp_bind]
      exact wp_tellMethod (by decide) created ih

theorem wp_reconnectMqttClient (subTopics : List Bytes) {post : Bool → History → Prop}
    (later : ∀ connected answer, post answer (history.connect .client connected)) :
    wp (rule thread) (reconnectMqttClient subTopics) post history := by
  rw [reconnectMqttClient, wp_bind, wp_connectMqttClient]
  intro connected
  rw [wp_bind]
  apply wp_subscribeAll (by simp [History.connect]) subTopics true
  intro subscribed
  exact later connected (connected && subscribed)

theorem wp_reconnected (idle : Idle history) (networkIsConnected clientIsConnected : Bool) :
    wp (rule thread) (reconnected networkIsConnected clientIsConnected) (fun _ => Idle) history := by
  unfold reconnected
  split_ifs
  · simpa [rule, History.after] using idle
  · exact idle

theorem Idle.connect (idle : Idle history) (pointer : Pointer) (answer : Bool) :
    Idle (history.connect pointer answer) := by
  refine ⟨idle.holding, fun other => ?_⟩
  by_cases same : other = pointer
  · simp [History.connect, same]
  · simp [History.connect, Function.update_of_ne same, idle.torn other]

theorem wp_retryMqttService (idle : Idle history) (subTopics : List Bytes) :
    wp (rule thread) (retryMqttService subTopics) (fun _ => Idle) history := by
  rw [retryMqttService, wp_bind, wp_connectMqttNetwork]
  intro network
  rw [wp_bind]
  apply wp_reconnectMqttClient subTopics
  intro connected client
  have ready := (idle.connect .network network).connect .client connected
  simp only [wp_bind, wp_tell, wp_ask, rule, History.after]
  refine ⟨trivial, fun _ _ => ⟨trivial, fun _ last => ?_⟩⟩
  cases last with
  | true => exact ⟨trivial, fun _ _ => wp_reconnected ready network client⟩
  | false => exact wp_reconnected ready network client

theorem wp_disconnectMqttNetwork (created : history.torn .network = false)
    (holding : history.holding = true) {post : Unit → History → Prop}
    (later : post () (history.tear .network)) :
    wp (rule thread) disconnectMqttNetwork post history := by
  rw [disconnectMqttNetwork, wp_bind]
  exact wp_tellMethod (by decide) created ⟨holding, fun _ _ => later⟩

theorem wp_disconnectMqttClient (created : history.torn .client = false) (holding : history.holding = true)
    (subTopics : List Bytes) {post : Unit → History → Prop} (later : post () (history.tear .client)) :
    wp (rule thread) (disconnectMqttClient subTopics) post history := by
  have torn : wp (rule thread) (.tell (.setNull .client)) post history :=
    ⟨holding, fun _ _ => later⟩
  rw [disconnectMqttClient, wp_bind]
  apply wp_unsubscribeAll created subTopics
  rw [wp_bind]
  apply wp_askMethod (by decide) created
  intro isConnected
  cases isConnected with
  | true =>
      show wp (rule thread) (do .tell (.call .client .disconnect); .tell (.setNull .client)) post history
      rw [wp_bind]
      exact wp_tellMethod (by decide) created torn
  | false => exact torn

theorem wp_reconnectMqttService (idle : Idle history) (subTopics : List Bytes) :
    wp (rule thread) (reconnectMqttService subTopics) (fun _ => Idle) history := by
  rw [reconnectMqttService, wp_bind, wp_tell]
  refine ⟨trivial, fun _ _ => ?_⟩
  rw [wp_bind]
  refine wp_disconnectMqttNetwork ?_ rfl ?_
  · exact idle.torn .network
  rw [wp_bind]
  refine wp_disconnectMqttClient ?_ rfl subTopics ?_
  · exact idle.torn .client
  rw [wp_bind, wp_connectMqttNetwork]
  intro network
  rw [wp_bind]
  apply wp_reconnectMqttClient subTopics
  intro connected client
  rw [wp_bind, wp_tell]
  -- both objects are new, so nothing stays torn once the mutex is released
  refine ⟨⟨rfl, fun pointer => ?_⟩, fun _ _ => wp_reconnected ⟨rfl, fun pointer => ?_⟩ network client⟩
  · cases pointer <;> rfl
  · cases pointer <;> rfl

theorem wp_publishMail (idle : Idle history) (pubOk : Bool) :
    wp (rule thread) (publishMail pubOk) (fun _ => Idle) history := by
  rw [publishMail, wp_bind, wp_ask]
  refine ⟨trivial, fun _ mail => ?_⟩
  cases mail with
  | true =>
      show wp (rule thread) (do .tell .lock; let pubOk ← publish; .tell .unlock; return pubOk)
        (fun _ => Idle) history
      rw [wp_bind, wp_tell]
      refine ⟨trivial, fun _ _ => ?_⟩
      rw [wp_bind]
      refine wp_askMethod (by decide) ?_ fun published => ?_
      · exact idle.torn .client
      rw [wp_bind, wp_tell]
      exact ⟨⟨rfl, idle.torn⟩, fun _ _ => ⟨rfl, idle.torn⟩⟩
  | false => exact idle

theorem wp_commsTurn (idle : Idle history) (topics : List Bytes) (pubOk : Bool) :
    wp (rule thread) (commsTurn topics pubOk) (fun _ => Idle) history := by
  rw [commsTurn, wp_bind]
  refine wp_mono (fun pubOk history idle => ?_) (wp_publishMail idle pubOk)
  rw [wp_bind]
  refine wp_mono (fun pubOk history idle => ?_) (wp_publishMail idle pubOk)
  cases pubOk with
  | true => exact idle
  | false => exact wp_reconnectMqttService idle topics

theorem wp_subscriptionTurn (idle : Idle history) (topics : List Bytes) :
    wp (rule thread) (subscriptionTurn topics) (fun _ => Idle) history := by
  rw [subscriptionTurn, wp_bind, wp_ask]
  refine ⟨trivial, fun _ isNotNull => ?_⟩
  cases isNotNull with
  | true =>
      refine (wp_bind _ _ _).mpr (wp_tellMethod (by decide) (idle.torn .client) ?_)
      refine (wp_bind _ _ _).mpr (wp_askMethod (by decide) (idle.torn .client) fun isConnected => ?_)
      cases isConnected with
      | true => exact idle
      | false => exact wp_reconnectMqttService idle topics
  | false => exact idle

theorem wp_code (idle : Idle history) (topics : List Bytes) (next : Next) :
    wp (rule thread) (thread.code topics next) (fun _ => Idle) history := by
  cases next with
  | retry => exact wp_retryMqttService idle topics
  | turn pubOk =>
      cases thread with
      | comms => exact wp_commsTurn idle topics pubOk
      | subscription => exact wp_subscriptionTurn idle topics

theorem wp_startUp (topics : List Bytes) :
    wp (rule .comms) (startUp topics) (fun _ => Idle) ⟨fun _ => true, false, false, none⟩ := by
  rw [startUp, wp_bind, connect, wp_bind, wp_tell]
  refine ⟨trivial, fun _ _ => ?_⟩
  rw [wp_bind, wp_connectMqttNetwork]
  intro network
  cases network with
  | false =>
      rw [if_neg Bool.false_ne_true, wp_pure, wp_bind, wp_tell]
      refine ⟨⟨rfl, rfl⟩, fun _ _ => ?_⟩
      rw [wp_bind, wp_tell]
      have refused : ¬ (true = false) := by decide
      exact ⟨⟨rfl, rfl, fun met => absurd met refused⟩, fun assumed => absurd (assumed rfl) refused⟩
  | true =>
      rw [if_pos rfl, wp_connectMqttClient]
      intro client
      have torn : ∀ pointer, ((History.connect ⟨fun _ => true, false, false, none⟩ .network true).connect
          .client client).torn pointer = false := by
        intro pointer
        cases pointer <;> rfl
      rw [wp_bind, wp_tell]
      refine ⟨⟨rfl, rfl⟩, fun _ _ => ?_⟩
      rw [wp_bind, wp_tell]
      refine ⟨⟨rfl, by cases client <;> rfl, fun _ => torn⟩, fun _ _ => ?_⟩
      rw [wp_bind]
      apply wp_subscribeAll rfl topics true
      intro _
      rw [wp_bind, wp_tell]
      exact ⟨trivial, fun _ _ => ⟨rfl, torn⟩⟩

/-! ## The threads together -/

/-- What a thread's history and the state have to do with each other. `windows`: a pointer is left null
under the mutex only, or by the start-up before the flag is set. -/
structure Agrees (state : State) (thread : Thread) (history : History) : Prop where
  mutex : history.holding = true ↔ state.mutex = some thread
  torn : ∀ pointer, state.nulledBy pointer = some thread → history.torn pointer = true
  windows : ∀ pointer, history.torn pointer = true →
    history.holding = true ∨ thread = .comms ∧ state.flag = false
  returns : thread = .comms → state.returns = history.connected.toList

variable {state next : State} {op : Op} {answer given : Bool}

theorem effect_lock (taken : effect state thread answer .lock = some (given, next)) :
    state.mutex = none ∧ next = { state with mutex := some thread } := by
  cases free : state.mutex with
  | some owner => simp [effect, free] at taken
  | none =>
      simp only [effect, free, Option.some.injEq, Prod.mk.injEq] at taken
      exact ⟨rfl, taken.2.symm⟩

theorem Agrees.own (agrees : Agrees state thread history) (allowed : (rule thread).allowed history op)
    (assumed : (rule thread).assumed history op)
    (taken : effect state thread answer op = some (given, next)) :
    Agrees next thread ((rule thread).after history op given) := by
  cases op with
  | call pointer method =>
      cases taken
      simp only [rule, History.after]
      split_ifs <;> exact ⟨agrees.mutex, agrees.torn, agrees.windows, agrees.returns⟩
  | create pointer =>
      cases taken
      refine ⟨agrees.mutex, fun place nulled => ?_, fun place torn => ?_, agrees.returns⟩
      · change Function.update state.nulledBy pointer none place = some thread at nulled
        show Function.update history.torn pointer false place = true
        rcases eq_or_ne place pointer with rfl | different
        · simp at nulled
        · rw [Function.update_of_ne different] at nulled ⊢
          exact agrees.torn place nulled
      · change Function.update history.torn pointer false place = true at torn
        rcases eq_or_ne place pointer with rfl | different
        · simp at torn
        · rw [Function.update_of_ne different] at torn
          exact agrees.windows place torn
  | setNull pointer =>
      cases taken
      refine ⟨agrees.mutex, fun place nulled => ?_, fun _ _ => .inl allowed, agrees.returns⟩
      change Function.update state.nulledBy pointer (some thread) place = some thread at nulled
      show Function.update history.torn pointer true place = true
      rcases eq_or_ne place pointer with rfl | different
      · exact Function.update_self ..
      · rw [Function.update_of_ne different] at nulled ⊢
        exact agrees.torn place nulled
  | lock =>
      obtain ⟨-, rfl⟩ := effect_lock taken
      exact ⟨iff_of_true rfl rfl, agrees.torn, fun _ _ => .inl rfl, agrees.returns⟩
  | unlock =>
      cases taken
      refine ⟨by simp [rule, History.after], agrees.torn, fun place torn => ?_, agrees.returns⟩
      exact absurd (torn.symm.trans (allowed.2 place)) (by decide)
  | returned ok =>
      cases taken
      refine ⟨agrees.mutex, agrees.torn, agrees.windows, fun comms => ?_⟩
      simp [rule, History.after, agrees.returns comms, allowed.2]
  | setFlag =>
      cases taken
      refine ⟨agrees.mutex, agrees.torn, fun place torn => ?_, agrees.returns⟩
      exact absurd (torn.symm.trans (allowed.2.2 (assumed rfl) place)) (by decide)
  | _ =>
      cases taken
      exact ⟨agrees.mutex, agrees.torn, agrees.windows, agrees.returns⟩

/-- A step of another thread disturbs nothing of what a thread's history says. -/
theorem Agrees.other {other : Thread} {mine : History} (agrees : Agrees state other history)
    (different : other ≠ thread) (own : Agrees state thread mine)
    (allowed : (rule thread).allowed mine op)
    (taken : effect state thread answer op = some (given, next)) : Agrees next other history := by
  cases op with
  | call pointer method =>
      cases taken
      split_ifs <;> exact ⟨agrees.mutex, agrees.torn, agrees.windows, agrees.returns⟩
  | create pointer =>
      cases taken
      refine ⟨agrees.mutex, fun place nulled => ?_, agrees.windows, agrees.returns⟩
      change Function.update state.nulledBy pointer none place = some other at nulled
      rcases eq_or_ne place pointer with rfl | elsewhere
      · simp at nulled
      · rw [Function.update_of_ne elsewhere] at nulled
        exact agrees.torn place nulled
  | setNull pointer =>
      cases taken
      refine ⟨agrees.mutex, fun place nulled => ?_, agrees.windows, agrees.returns⟩
      change Function.update state.nulledBy pointer (some thread) place = some other at nulled
      rcases eq_or_ne place pointer with rfl | elsewhere
      · rw [Function.update_self] at nulled
        exact absurd (Option.some.inj nulled).symm different
      · rw [Function.update_of_ne elsewhere] at nulled
        exact agrees.torn place nulled
  | lock =>
      obtain ⟨free, rfl⟩ := effect_lock taken
      refine ⟨?_, agrees.torn, agrees.windows, agrees.returns⟩
      simpa [different.symm, free] using agrees.mutex
  | unlock =>
      cases taken
      refine ⟨?_, agrees.torn, agrees.windows, agrees.returns⟩
      have owned := own.mutex.mp allowed.1
      simpa [owned, different.symm] using agrees.mutex
  | returned ok =>
      cases taken
      refine ⟨agrees.mutex, agrees.torn, agrees.windows, fun comms => ?_⟩
      exact absurd (comms.trans allowed.1.symm) different
  | setFlag =>
      cases taken
      refine ⟨agrees.mutex, agrees.torn, fun place torn => ?_, agrees.returns⟩
      rcases agrees.windows place torn with holding | ⟨comms, -⟩
      · exact .inl holding
      · exact absurd (comms.trans allowed.1.symm) different
  | _ =>
      cases taken
      exact ⟨agrees.mutex, agrees.torn, agrees.windows, agrees.returns⟩

/-! ## Runs -/

structure Invariant (state : State) : Prop extends Careful state where
  programs : ∀ thread, wp (rule thread) (state.threads thread).code (fun _ => Idle) (state.history thread)
  agrees : ∀ thread, Agrees state thread (state.history thread)
  pointers : ∀ pointer, state.pointers pointer = (state.nulledBy pointer).isNone
  waiting : state.flag = false → ∃ next, (state.threads .subscription).code = .done next

theorem effect_pointers (pointers : ∀ pointer, state.pointers pointer = (state.nulledBy pointer).isNone)
    (taken : effect state thread answer op = some (given, next)) (place : Pointer) :
    next.pointers place = (next.nulledBy place).isNone := by
  cases op with
  | call pointer method =>
      cases taken
      split_ifs <;> exact pointers place
  | create pointer =>
      cases taken
      rcases eq_or_ne place pointer with rfl | elsewhere
      · simp
      · simp [elsewhere, pointers place]
  | setNull pointer =>
      cases taken
      rcases eq_or_ne place pointer with rfl | elsewhere
      · simp
      · simp [elsewhere, pointers place]
  | lock =>
      obtain ⟨-, rfl⟩ := effect_lock taken
      exact pointers place
  | _ =>
      cases taken
      exact pointers place

theorem effect_threads (taken : effect state thread answer op = some (given, next)) :
    next.threads = state.threads := by
  cases op with
  | call pointer method =>
      cases taken
      split_ifs <;> rfl
  | lock =>
      obtain ⟨-, rfl⟩ := effect_lock taken
      rfl
  | _ =>
      cases taken
      rfl

theorem flag_of_effect (taken : effect state thread answer op = some (given, next))
    (unset : next.flag = false) : state.flag = false := by
  cases op with
  | call pointer method =>
      cases taken
      split_ifs at unset <;> exact unset
  | lock =>
      obtain ⟨-, rfl⟩ := effect_lock taken
      exact unset
  | setFlag =>
      cases taken
      cases unset
  | _ =>
      cases taken
      exact unset

/-- What a call needs of the pointer, from its own thread's history and from what the other may do. -/
theorem Invariant.created (invariant : Invariant state) {action : Action} {pointer : Pointer}
    {method : Method} {rest : Bool → Code Next}
    (code : (state.threads action.thread).code = .perform (.call pointer method) rest)
    (meets : Meets state action) : state.pointers pointer = true := by
  have untorn : (state.history action.thread).torn pointer = false := by
    have program := invariant.programs action.thread
    rw [code] at program
    exact program.1
  rw [invariant.pointers]
  cases nulled : state.nulledBy pointer with
  | none => rfl
  | some other =>
      have torn := (invariant.agrees other).torn pointer nulled
      have different : other ≠ action.thread := by
        rintro rfl
        exact absurd (torn.symm.trans untorn) (by decide)
      by_cases owned : state.mutex = some action.thread
      · rcases (invariant.agrees other).windows pointer torn with holding | ⟨rfl, unset⟩
        · have mutex := (invariant.agrees other).mutex.mp holding
          exact absurd (Option.some.inj (mutex.symm.trans owned)) different
        · obtain ⟨next, waits⟩ := invariant.waiting unset
          cases thread : action.thread with
          | comms => exact absurd thread.symm different
          | subscription =>
              rw [thread, waits] at code
              cases code
      · unfold Meets at meets
        rw [code] at meets
        exact absurd (meets owned other nulled) different

theorem Careful.effect (careful : Careful state) (agrees : Agrees state thread history)
    (allowed : (rule thread).allowed history op) (assumed : (rule thread).assumed history op)
    (created : ∀ pointer method, op = .call pointer method → state.pointers pointer = true)
    (taken : effect state thread answer op = some (given, next)) : Careful next := by
  cases op with
  | call pointer method =>
      cases taken
      rw [if_pos (created pointer method rfl)]
      exact careful
  | lock =>
      obtain ⟨-, rfl⟩ := effect_lock taken
      exact ⟨careful.flagged, careful.safe⟩
  | returned ok =>
      cases taken
      exact ⟨fun flag => List.mem_append_left _ (careful.flagged flag), careful.safe⟩
  | setFlag =>
      cases taken
      refine ⟨fun _ => ?_, careful.safe⟩
      simp [agrees.returns allowed.1, allowed.2.1, assumed rfl]
  | _ =>
      cases taken
      exact ⟨careful.flagged, careful.safe⟩

theorem Agrees.set (agrees : Agrees state thread history) (other : Thread) (changed : ThreadState) :
    Agrees (state.set other changed) thread history :=
  ⟨agrees.mutex, agrees.torn, agrees.windows, agrees.returns⟩

theorem forall_set (condition : Thread → ThreadState → Prop) {changed : ThreadState}
    (own : condition thread changed)
    (others : ∀ other, other ≠ thread → condition other (state.threads other)) (other : Thread) :
    condition other ((state.set thread changed).threads other) :=
  (Function.forall_update_iff state.threads condition).mpr ⟨own, others⟩ other

variable {topics : List Bytes} {action : Action}

theorem Invariant.turn (invariant : Invariant state) {next : Next}
    (code : (state.threads thread).code = .done next) (ready : thread = .comms ∨ state.flag = true) :
    Invariant (state.set thread { state.threads thread with code := thread.code topics next }) where
  flagged := invariant.flagged
  safe := invariant.safe
  programs := by
    have idle : Idle (state.history thread) := by
      have program := invariant.programs thread
      rw [code] at program
      exact program
    apply forall_set fun thread current =>
      wp (rule thread) current.code (fun _ => Idle) current.history
    · exact wp_code idle topics next
    · exact fun other _ => invariant.programs other
  agrees := by
    apply forall_set fun thread current => Agrees _ thread current.history
    · exact (invariant.agrees thread).set _ _
    · exact fun other _ => (invariant.agrees other).set _ _
  pointers := invariant.pointers
  waiting unset := by
    have comms : thread = .comms := ready.resolve_right (by simp [show state.flag = false from unset])
    subst comms
    exact invariant.waiting unset

theorem Invariant.perform (invariant : Invariant state) (meets : Meets state action) {op : Op}
    {rest : Bool → Code Next} (code : (state.threads action.thread).code = .perform op rest)
    {given : Bool} {middle : State}
    (taken : effect state action.thread action.answer op = some (given, middle)) :
    Invariant (middle.set action.thread
      ⟨rest given, (state.history action.thread).after op given⟩) := by
  obtain ⟨allowed, later⟩ : (rule action.thread).allowed (state.history action.thread) op ∧ _ := by
    have program := invariant.programs action.thread
    rw [code] at program
    exact program
  have assumed : (rule action.thread).assumed (state.history action.thread) op := by
    rintro rfl
    unfold Meets at meets
    rw [code] at meets
    exact meets
  have own := invariant.agrees action.thread
  have careful := invariant.toCareful.effect own allowed assumed
    (fun pointer method call => invariant.created (call ▸ code) meets) taken
  have threads := effect_threads taken
  have pointers := effect_pointers invariant.pointers taken
  refine ⟨⟨careful.flagged, careful.safe⟩, ?_, ?_, pointers, ?_⟩
  · apply forall_set fun thread current => wp (rule thread) current.code (fun _ => Idle) current.history
    · exact later assumed given
    · rw [threads]
      exact fun other _ => invariant.programs other
  · apply forall_set fun thread current => Agrees _ thread current.history
    · exact (own.own allowed assumed taken).set _ _
    · rw [threads]
      exact fun other different => ((invariant.agrees other).other different own allowed taken).set _ _
  · intro unset
    obtain ⟨next, waits⟩ := invariant.waiting (flag_of_effect taken unset)
    refine ⟨next, ?_⟩
    cases thread : action.thread with
    | comms =>
        rw [← waits, ← threads]
        rfl
    | subscription =>
        rw [thread, waits] at code
        cases code

theorem step_cases (taken : step topics state action = some next) :
    (∃ following, (state.threads action.thread).code = .done following ∧
      (action.thread = .comms ∨ state.flag = true) ∧
      next = state.set action.thread
        { state.threads action.thread with code := action.thread.code topics following }) ∨
    ∃ op rest given middle, (state.threads action.thread).code = .perform op rest ∧
      effect state action.thread action.answer op = some (given, middle) ∧
      next = middle.set action.thread ⟨rest given, (state.history action.thread).after op given⟩ := by
  cases code : (state.threads action.thread).code with
  | done following =>
      simp only [step, code] at taken
      split_ifs at taken with reset ready
      cases taken
      exact .inl ⟨following, rfl, ready.imp_right And.left, rfl⟩
  | perform op rest =>
      simp only [step, code] at taken
      split_ifs at taken
      obtain ⟨⟨given, middle⟩, performed, rfl⟩ := Option.map_eq_some_iff.mp taken
      exact .inr ⟨op, rest, given, middle, rfl, performed, rfl⟩

theorem Invariant.kept (invariant : Invariant state) (meets : Meets state action)
    (taken : step topics state action = some next) : Invariant next := by
  rcases step_cases taken with ⟨following, code, ready, rfl⟩ | ⟨op, rest, given, middle, code, performed, rfl⟩
  · exact invariant.turn code ready
  · exact invariant.perform meets code performed

theorem Invariant.broken (invariant : Invariant state) (unmet : ¬ Meets state action)
    (taken : step topics state action = some next) : ¬ Careful next := by
  intro careful
  unfold Meets at unmet
  rcases step_cases taken with ⟨following, code, -, rfl⟩ | ⟨op, rest, given, middle, code, performed, rfl⟩
  · simp [code] at unmet
  · have program := invariant.programs action.thread
    rw [code] at program unmet
    cases op with
    | call pointer method =>
        simp only [ne_eq, not_forall] at unmet
        obtain ⟨-, other, nulled, -⟩ := unmet
        have null : state.pointers pointer = false := by simp [invariant.pointers, nulled]
        cases performed
        simpa [State.set, null] using careful.safe
    | setFlag =>
        cases performed
        obtain ⟨comms, connected, -⟩ := program.1
        have returns := (invariant.agrees action.thread).returns comms
        have flagged := careful.flagged rfl
        simp [State.set, returns, connected, unmet] at flagged
    | _ => exact unmet trivial

theorem invariant_init (topics : List Bytes) : Invariant (init topics) where
  flagged flag := by cases flag
  safe := rfl
  programs thread := by
    cases thread with
    | comms => exact wp_startUp topics
    | subscription => exact ⟨rfl, fun _ => rfl⟩
  agrees thread := by
    cases thread with
    | comms => exact ⟨by simp [init, State.history], fun _ _ => rfl, fun _ _ => .inr ⟨rfl, rfl⟩, fun _ => rfl⟩
    | subscription => exact ⟨by simp [init, State.history], by simp [init], by simp [init, State.history], nofun⟩
  pointers _ := rfl
  waiting _ := ⟨.turn true, rfl⟩

/-- Along a run, the flag is set only after `Connect` has returned true and no method is called through
a null pointer, exactly as long as every step meets the condition. -/
theorem careful_iff_meets (topics : List Bytes) (actions : List Action) :
    EveryState (step topics) Careful (init topics) actions ↔
      EveryStep (step topics) Meets (init topics) actions :=
  everyState_iff_everyStep (fun _ invariant => invariant.toCareful)
    (fun _ _ _ invariant meets taken => invariant.kept meets taken)
    (fun _ _ _ invariant unmet taken => invariant.broken unmet taken) (invariant_init topics) actions

def socketRefused : List Action :=
  [true, true, false, true, true, true].map fun answer => ⟨.comms, answer⟩

theorem careful_violated : ¬ ∀ (topics : List Bytes) (actions : List Action),
    EveryState (step topics) Careful (init topics) actions := by
  intro always
  have outcome : (run (step [str "sensorpollrate"]) (init [str "sensorpollrate"]) socketRefused).map
      (fun final => (final.returns, final.flag, final.nullCalls)) =
        some ([false], true, [(.comms, .client)]) := by
    decide +kernel
  obtain ⟨final, reaches, parts⟩ := Option.map_eq_some_iff.mp outcome
  have careful := (always _ _).last reaches
  have called : final.nullCalls = [(.comms, .client)] := congrArg (fun parts => parts.2.2) parts
  exact absurd (called.symm.trans careful.safe) (by decide)

end DecadaEmbedded.DecadaManager.Pointers
