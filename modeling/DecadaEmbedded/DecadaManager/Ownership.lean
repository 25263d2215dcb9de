import DecadaEmbedded.DecadaManager.Reconnection

/-!
# The objects that `mqtt_network_` and `mqtt_client_` own

`Reconnect` deletes the network and the client before its first try. A later try overwrites both
pointers and deletes nothing.
-/

namespace DecadaEmbedded.DecadaManager.Reconnection
open Library Mqtt Connection

structure OneEach (manager : Manager) : Prop where
  networks : manager.service.arena.live = [manager.service.mqttNetwork]
  clients : manager.clients.live = [manager.mqttClient]
  own : manager.service.mqttClient.ipstack = manager.service.mqttNetwork

-- a call that ends in a reset does not return
def Owned (manager : Manager) : Prop := manager.systemReset = false → OneEach manager

/-! ## The teardown deletes both -/

theorem live_unsubscribeAll (exchange : Bytes → Exchange) (topics : List Bytes) (service : Service) :
    (unsubscribeAll exchange topics service).arena.live = service.arena.live := by
  induction topics generalizing service with
  | nil => rfl
  | cons topic topics ih => exact (ih _).trans (Arena.live_useIf _ _ _)

theorem live_disconnectMqttClient (teardown : Teardown) (subTopics : List Bytes) (service : Service) :
    (Connection.disconnectMqttClient teardown subTopics service).arena.live = service.arena.live := by
  have silent := live_unsubscribeAll teardown.unsubscribe subTopics service
  unfold Connection.disconnectMqttClient
  dsimp only
  split_ifs
  · exact (Arena.live_useIf _ _ _).trans silent
  · exact silent

theorem OneEach.disconnectMqtt {manager : Manager} (each : OneEach manager) (teardown : Teardown) :
    (disconnectMqtt teardown manager).service.arena.live = [] ∧
      (disconnectMqtt teardown manager).clients.live = [] := by
  constructor
  · refine (live_disconnectMqttClient teardown manager.subTopics _).trans ?_
    simp [disconnectMqttNetwork, Arena.free, each.networks]
  · show (manager.clients.free manager.mqttClient).live = []
    simp [Arena.free, each.clients]

/-! ## Calls -/

variable {cloud : Cloud} {deviceSecret : Bytes}

variable (cloud deviceSecret) in
/-- If a try of the `Reconnect` succeeds before the reset, then the first one does. -/
def NoRetrySucceeds (manager : Manager) : Call → Prop
  | .reconnect _ attempts =>
      (∃ attempt ∈ tries attempts maxMqttFailedReconnections,
        succeeds cloud deviceSecret manager.subTopics attempt = true) →
      succeeds cloud deviceSecret manager.subTopics (attempts maxMqttFailedReconnections) = true
  | _ => True

theorem oneEach_created_iff {before later : Manager} (created : Created before later) :
    OneEach later ↔ before.service.arena.live = [] ∧ before.clients.live = [] := by
  constructor
  · intro each
    have networks := created.networks.symm.trans each.networks
    have clients := created.clients.symm.trans each.clients
    exact ⟨(List.cons.inj networks).2, (List.cons.inj clients).2⟩
  · rintro ⟨networks, clients⟩
    exact ⟨networks ▸ created.networks, clients ▸ created.clients, created.own⟩

theorem owned_reconnect_iff {manager : Manager} (each : OneEach manager) (teardown : Teardown)
    (attempts : Nat → Attempt) :
    Owned (reconnect cloud deviceSecret teardown attempts manager) ↔
      NoRetrySucceeds cloud deviceSecret manager (.reconnect teardown attempts) := by
  obtain ⟨networks, clients⟩ := each.disconnectMqtt teardown
  rcases @reconnect_cases cloud deviceSecret teardown attempts manager with
    ⟨missing, reset⟩ | ⟨attempt, failed, before, found, count, retried, returned⟩
  · refine iff_of_true (fun running => ?_) ?_
    · rw [reset] at running
      cases running
    · rintro ⟨attempt, member, ok⟩
      exact absurd ok (List.find?_eq_none.mp missing attempt member)
  · have reached : ∃ attempt ∈ tries attempts maxMqttFailedReconnections,
        succeeds cloud deviceSecret manager.subTopics attempt = true :=
      ⟨attempt, List.mem_of_find?_eq_some found, List.find?_some found⟩
    have created := @created_reconnectMqtt cloud deviceSecret attempt before
    have emptied : Owned (reconnect cloud deviceSecret teardown attempts manager) ↔
        before.service.arena.live = [] ∧ before.clients.live = [] := by
      rw [returned]
      exact (imp_iff_right rfl).trans (oneEach_created_iff
        ⟨created.networks, created.clients, created.own, created.subTopics⟩)
    rw [emptied, NoRetrySucceeds, imp_iff_right reached, ← count, ← List.length_eq_zero_iff,
      ← List.length_eq_zero_iff, retried.networks, retried.clients, networks, clients]
    simp

theorem OneEach.sameObjects {manager next : Manager} (each : OneEach manager)
    (same : SameObjects manager.service next.service) (clients : next.clients = manager.clients)
    (mqttClient : next.mqttClient = manager.mqttClient) : OneEach next where
  networks := by rw [same.1, same.2.1, each.networks]
  clients := by rw [clients, mqttClient, each.clients]
  own := by rw [same.2.2, same.2.1, each.own]

theorem owned_step_iff {manager next : Manager} {call : Call} (owned : Owned manager)
    (taken : step cloud deviceSecret manager call = some next) :
    Owned next ↔ NoRetrySucceeds cloud deviceSecret manager call := by
  unfold step at taken
  split at taken
  · cases taken
  rename_i running
  have each := owned (Bool.eq_false_iff.mpr running)
  have kept {method : Client → Outcome} (keeps : Client.KeepsNetwork method) :=
    sameObjects_perform manager.service keeps
  cases call with
  | publish topic payload writes =>
      cases taken
      refine iff_of_true (fun _ => ?_) trivial
      exact each.sameObjects (kept (Client.publish_keepsNetwork topic payload writes)) rfl rfl
  | subscribe topic order exchange =>
      dsimp only at taken
      split at taken
      · cases taken
        refine iff_of_true (fun _ => ?_) trivial
        exact each.sameObjects (kept (Client.subscribe_keepsNetwork topic exchange)) rfl rfl
      · cases taken
  | yield passes =>
      cases taken
      refine iff_of_true (fun _ => ?_) trivial
      exact each.sameObjects (kept (Client.yield_keepsNetwork passes)) rfl rfl
  | reconnect teardown attempts =>
      cases taken
      exact owned_reconnect_iff each teardown attempts

/-- After a successful `Connect`, exactly one network and one client exist in every state of a run, those
the pointers point to, exactly if no `Reconnect` of the run returns after a try that follows a failed
one. -/
theorem owned_iff_noRetrySucceeds {attempt : Attempt} {start : Manager}
    (connected : connect cloud deviceSecret attempt = some start) (calls : List Call) :
    EveryState (step cloud deviceSecret) Owned start calls ↔
      EveryStep (step cloud deviceSecret) (NoRetrySucceeds cloud deviceSecret) start calls := by
  have each : OneEach start := (oneEach_created_iff (created_of_connect connected)).mpr ⟨rfl, rfl⟩
  refine everyState_iff_everyStep (fun manager owned => owned) ?_ ?_ (fun _ => each) calls
  · intro manager call next owned decides taken
    exact (owned_step_iff owned taken).mpr decides
  · intro manager call next owned fails taken kept
    exact fails ((owned_step_iff owned taken).mp kept)

-- the socket does not open at first
def opensAtSecondTry (left : Nat) : Attempt :=
  if left = maxMqttFailedReconnections then { answered with networkRc := -3001 } else answered

-- the write of a publication fails, which ends the session
def reconnectedAtSecondTry : List Call :=
  [.publish (str "t") (str "v") [⟨-1, false⟩], .reconnect unanswered opensAtSecondTry]

theorem owned_iff_noRetrySucceeds_opensAtSecondTry :
    ∃ start, connect (answering []) [] answered = some start ∧
      (EveryState (step (answering []) []) Owned start reconnectedAtSecondTry ↔
        EveryStep (step (answering []) []) (NoRetrySucceeds (answering []) []) start
          reconnectedAtSecondTry) := by
  have succeeds : (connect (answering []) [] answered).isSome := by decide +kernel
  obtain ⟨start, connected⟩ := Option.isSome_iff_exists.mp succeeds
  exact ⟨start, connected, owned_iff_noRetrySucceeds connected reconnectedAtSecondTry⟩

theorem owned_violated : ¬ ∀ (cloud : Cloud) (deviceSecret : Bytes) (attempt : Attempt)
    (start : Manager), connect cloud deviceSecret attempt = some start → ∀ calls,
    EveryState (step cloud deviceSecret) Owned start calls := by
  intro always
  have final : ((connect (answering []) [] answered).bind fun start =>
      run (step (answering []) []) start reconnectedAtSecondTry).map
        (fun manager => (manager.systemReset, manager.service.arena.live, manager.clients.live)) =
      some (false, [2, 1], [2, 1]) := by
    decide +kernel
  obtain ⟨manager, reached, leaked⟩ := Option.map_eq_some_iff.mp final
  obtain ⟨start, connected, reached⟩ := Option.bind_eq_some_iff.mp reached
  obtain ⟨running, objects⟩ := Prod.mk.inj leaked
  have each := (always (answering []) [] answered start connected _).last reached running
  have one := congrArg List.length (each.networks.symm.trans (Prod.mk.inj objects).1)
  exact absurd one (by simp)

end DecadaEmbedded.DecadaManager.Reconnection
