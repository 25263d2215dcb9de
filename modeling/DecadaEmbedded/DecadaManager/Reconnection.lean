import DecadaEmbedded.DecadaManager.Connection
import DecadaEmbedded.Mqtt.Session

/-!
# The public methods of `DecadaManager/decada_manager.cpp`, called in any order

The connection of `Connection` together with the `MQTT::Client` objects, which an arena of their own
holds. Whether a try to reconnect succeeds depends on the answers to it alone.
-/

namespace DecadaEmbedded.DecadaManager.Reconnection
open Library Mqtt Connection

structure Manager where
  service : Service
  clients : Arena
  mqttClient : Nat
  subTopics : List Bytes
  systemReset : Bool

variable (cloud : Cloud) (deviceSecret : Bytes)

def Manager.serve (method : Service → Bool × Service) (manager : Manager) : Bool × Manager :=
  match method manager.service with
  | (ok, service) => (ok, { manager with service })

def connectMqttClient (attempt : Attempt) (manager : Manager) : Bool × Manager :=
  { manager with clients := manager.clients.allocate, mqttClient := manager.clients.next }.serve
    (Connection.connectMqttClient cloud deviceSecret attempt)

def disconnectMqttClient (teardown : Teardown) (manager : Manager) : Manager :=
  { manager with
    service := Connection.disconnectMqttClient teardown manager.subTopics manager.service
    clients := manager.clients.free manager.mqttClient }

def reconnectMqttClient (attempt : Attempt) (manager : Manager) : Bool × Manager :=
  match connectMqttClient cloud deviceSecret attempt manager with
  | (connected, manager) =>
      match manager.serve (subscribeAll attempt.subscribe manager.subTopics true) with
      | (subscribed, manager) => (connected && subscribed, manager)

def reconnectMqtt (attempt : Attempt) (manager : Manager) : Bool × Manager :=
  match manager.serve (connectMqttNetwork attempt) with
  | (networkIsConnected, manager) =>
      match reconnectMqttClient cloud deviceSecret attempt manager with
      | (clientIsConnected, manager) => (networkIsConnected && clientIsConnected, manager)

-- the loop over the same count as in `Connection`
def reconnectLoop (attempts : Nat → Attempt) : Nat → Bool → Manager → Bool × Manager
  | 0, _, manager => (true, manager)
  | _ + 1, true, manager => (false, manager)
  | left + 1, false, manager =>
      match reconnectMqtt cloud deviceSecret (attempts left) manager with
      | (connected, manager) => reconnectLoop attempts left connected manager

def reconnectMqttService (teardown : Teardown) (attempts : Nat → Attempt) (manager : Manager) :
    Bool × Manager :=
  let manager := { manager with service := disconnectMqttNetwork manager.service }
  let manager := disconnectMqttClient teardown manager
  match reconnectMqtt cloud deviceSecret (attempts maxMqttFailedReconnections) manager with
  | (connected, manager) =>
      reconnectLoop cloud deviceSecret attempts maxMqttFailedReconnections connected manager

inductive Call where
  | publish (topic payload : Bytes) (writes : List Write)
  | subscribe (topic : Bytes) (order : List Bytes) (exchange : Exchange)
  | yield (passes : List Pass)
  | reconnect (teardown : Teardown) (attempts : Nat → Attempt)

def booted : Manager := ⟨⟨.empty, 0, .new 0⟩, .empty, 0, [], false⟩

def connect (attempt : Attempt) : Option Manager :=
  match booted.serve (connectMqttNetwork attempt) with
  | (networkIsConnected, manager) =>
      match connectMqttClient cloud deviceSecret attempt manager with
      | (clientIsConnected, manager) =>
          if networkIsConnected ∧ clientIsConnected then some manager else none

def reconnect (teardown : Teardown) (attempts : Nat → Attempt) (manager : Manager) : Manager :=
  match reconnectMqttService cloud deviceSecret teardown attempts manager with
  | (systemReset, manager) => { manager with systemReset }

def step (manager : Manager) (call : Call) : Option Manager :=
  if manager.systemReset then none
  else
    match call with
    | .publish topic payload writes => some (manager.serve (Connection.publish topic payload writes)).2
    | .subscribe topic order exchange =>
        if order.Perm (manager.subTopics.insert topic) then
          some { (manager.serve (Connection.subscribe topic exchange)).2 with subTopics := order }
        else none
    | .yield passes =>
        some { manager with service := (manager.service.perform (·.yield passes)).2 }
    | .reconnect teardown attempts => some (reconnect cloud deviceSecret teardown attempts manager)

/-! ## The two threads make such calls -/

theorem reconnectLoop_service (attempts : Nat → Attempt) (left : Nat) (connected : Bool)
    (manager : Manager) :
    Prod.map id Manager.service (reconnectLoop cloud deviceSecret attempts left connected manager) =
      Connection.reconnectLoop cloud deviceSecret attempts manager.subTopics left connected
        manager.service := by
  induction left generalizing connected manager with
  | zero => rfl
  | succ left ih =>
      cases connected with
      | true => rfl
      | false => exact ih _ _

theorem reconnectMqttService_service (teardown : Teardown) (attempts : Nat → Attempt)
    (manager : Manager) :
    Prod.map id Manager.service (reconnectMqttService cloud deviceSecret teardown attempts manager) =
      Connection.reconnectMqttService cloud deviceSecret teardown attempts manager.subTopics
        manager.service :=
  reconnectLoop_service cloud deviceSecret attempts _ _ _

theorem reconnectLoop_subTopics (attempts : Nat → Attempt) (left : Nat) (connected : Bool)
    (manager : Manager) :
    (reconnectLoop cloud deviceSecret attempts left connected manager).2.subTopics =
      manager.subTopics := by
  induction left generalizing connected manager with
  | zero => rfl
  | succ left ih =>
      cases connected with
      | true => rfl
      | false => exact ih _ _

def Represents (manager : Manager) (state : State) : Prop :=
  manager.service = state.service ∧ manager.subTopics = state.subTopics ∧
    manager.systemReset = state.systemReset

def calls : Action → List Call
  | .publish topic payload writes => [.publish topic payload writes]
  | .subscribe topic order exchange => [.subscribe topic order exchange]
  | .yield passes => [.yield passes]
  | .checkConnected => []
  | .reconnectAfterPublish teardown attempts | .reconnectAfterYield teardown attempts =>
      [.reconnect teardown attempts]

variable {cloud deviceSecret}

theorem represents_reconnect {manager : Manager} {state : State} (same : Represents manager state)
    (teardown : Teardown) (attempts : Nat → Attempt) :
    Represents (reconnect cloud deviceSecret teardown attempts manager)
      (Connection.reconnect cloud deviceSecret teardown attempts state) := by
  obtain ⟨service, topics, -⟩ := same
  have lifted := reconnectMqttService_service cloud deviceSecret teardown attempts manager
  rw [service, topics] at lifted
  unfold Connection.reconnect
  rw [← lifted]
  refine ⟨rfl, ?_, rfl⟩
  exact (reconnectLoop_subTopics cloud deviceSecret attempts _ _ _).trans topics

theorem connect_represents {attempt : Attempt} {start : State}
    (connected : Connection.connect cloud deviceSecret attempt = some start) :
    ∃ manager, connect cloud deviceSecret attempt = some manager ∧ Represents manager start := by
  unfold Connection.connect at connected
  dsimp only at connected
  split at connected
  · rename_i both
    cases connected
    exact ⟨_, if_pos both, rfl, rfl, rfl⟩
  · cases connected

theorem step_reconnect {manager next : Manager} {teardown : Teardown} {attempts : Nat → Attempt}
    (taken : step cloud deviceSecret manager (.reconnect teardown attempts) = some next) :
    reconnect cloud deviceSecret teardown attempts manager = next := by
  unfold step at taken
  split at taken
  · cases taken
  · exact Option.some.inj taken

theorem run_single (manager : Manager) (call : Call) :
    run (step cloud deviceSecret) manager [call] = step cloud deviceSecret manager call := by
  rw [run_cons]
  cases step cloud deviceSecret manager call <;> rfl

theorem step_represents {manager : Manager} {state next : State} {action : Action}
    (same : Represents manager state)
    (taken : Connection.step cloud deviceSecret state action = some next) :
    ∃ later, run (step cloud deviceSecret) manager (calls action) = some later ∧
      Represents later next := by
  obtain ⟨service, topics, reset⟩ := id same
  unfold Connection.step at taken
  split at taken
  · cases taken
  rename_i running
  have enabled : ¬ manager.systemReset = true := reset ▸ running
  cases action with
  | publish topic payload writes =>
      cases taken
      rw [calls, run_single]
      refine ⟨_, if_neg enabled, ?_, topics, reset⟩
      rw [← service]
      rfl
  | subscribe topic order exchange =>
      dsimp only at taken
      split at taken
      · rename_i arranged
        cases taken
        rw [calls, run_single]
        refine ⟨_, (if_neg enabled).trans (if_pos (topics ▸ arranged)), ?_, rfl, reset⟩
        rw [← service]
        rfl
      · cases taken
  | yield passes =>
      cases taken
      rw [calls, run_single]
      refine ⟨_, if_neg enabled, ?_, topics, reset⟩
      rw [← service]
  | checkConnected =>
      cases taken
      exact ⟨manager, rfl, same⟩
  | reconnectAfterPublish teardown attempts =>
      dsimp only at taken
      split at taken
      · cases taken
      · cases taken
        rw [calls, run_single]
        exact ⟨_, if_neg enabled, represents_reconnect same teardown attempts⟩
  | reconnectAfterYield teardown attempts =>
      dsimp only at taken
      split at taken
      · cases taken
        rw [calls, run_single]
        exact ⟨_, if_neg enabled, represents_reconnect ⟨service, topics, reset⟩ teardown attempts⟩
      · cases taken

theorem run_represents {manager : Manager} {state final : State} {actions : List Action}
    (same : Represents manager state)
    (reached : run (Connection.step cloud deviceSecret) state actions = some final) :
    ∃ later, run (step cloud deviceSecret) manager (actions.flatMap calls) = some later ∧
      Represents later final := by
  induction actions generalizing manager state with
  | nil =>
      cases reached
      exact ⟨manager, rfl, same⟩
  | cons action actions ih =>
      rw [run_cons] at reached
      obtain ⟨next, taken, reached⟩ := Option.bind_eq_some_iff.mp reached
      obtain ⟨middle, early, represents⟩ := step_represents same taken
      obtain ⟨later, late, final⟩ := ih represents reached
      refine ⟨later, ?_, final⟩
      rw [List.flatMap_cons, run_append, early]
      exact late

theorem threads_represented {attempt : Attempt} {start final : State} {actions : List Action}
    (connected : Connection.connect cloud deviceSecret attempt = some start)
    (reached : run (Connection.step cloud deviceSecret) start actions = some final) :
    ∃ manager later, connect cloud deviceSecret attempt = some manager ∧
      run (step cloud deviceSecret) manager (actions.flatMap calls) = some later ∧
      Represents later final := by
  obtain ⟨manager, started, same⟩ := connect_represents connected
  obtain ⟨later, ran, represents⟩ := run_represents same reached
  exact ⟨manager, later, started, ran, represents⟩

/-! ## When a try succeeds -/

variable (cloud deviceSecret)

def acknowledged (exchange : Bytes → Exchange) : List Bytes → Client → Bool
  | [], _ => true
  | topic :: topics, client =>
      let outcome := client.subscribe topic (exchange topic)
      decide (outcome.rc = success) && acknowledged exchange topics outcome.client

/-- The socket opens, and with these answers a new client connects and subscribes to all topics. -/
def succeeds (subTopics : List Bytes) (attempt : Attempt) : Bool :=
  let outcome := (Client.new 0).connect (connectData cloud deviceSecret attempt.now) attempt.connect
  decide (attempt.networkRc = 0) &&
    (decide (outcome.rc = success) && acknowledged attempt.subscribe subTopics outcome.client)

-- the tries that `Reconnect` may return after, in their order
def tries (attempts : Nat → Attempt) : Nat → List Attempt
  | 0 => []
  | left + 1 => attempts (left + 1) :: tries attempts left

variable {cloud deviceSecret}

theorem acknowledged_onNetwork (exchange : Bytes → Exchange) (topics : List Bytes) (ipstack : Nat)
    (client : Client) :
    acknowledged exchange topics (client.onNetwork ipstack) = acknowledged exchange topics client := by
  induction topics generalizing client with
  | nil => rfl
  | cons topic topics ih =>
      unfold acknowledged
      rw [Client.subscribe_onNetwork]
      exact congrArg (decide _ && ·) (ih _)

theorem subscribeAll_succeeds (exchange : Bytes → Exchange) (topics : List Bytes) (subscribed : Bool)
    (service : Service) :
    (subscribeAll exchange topics subscribed service).1 =
      (subscribed && acknowledged exchange topics service.mqttClient) := by
  induction topics generalizing subscribed service with
  | nil => exact (Bool.and_true subscribed).symm
  | cons topic topics ih =>
      rw [acknowledged, ← Bool.and_assoc]
      exact ih _ _

theorem connect_mqttClient (attempt : Attempt) (service : Service) :
    (Connection.connectMqttClient cloud deviceSecret attempt
        (connectMqttNetwork attempt service).2).2.mqttClient =
      ((Client.new 0).connect (connectData cloud deviceSecret attempt.now)
        attempt.connect).client.onNetwork service.arena.next :=
  congrArg Outcome.client (Client.connect_onNetwork service.arena.next (Client.new 0) _ _)

theorem reconnectMqtt_succeeds (attempt : Attempt) (manager : Manager) :
    (reconnectMqtt cloud deviceSecret attempt manager).1 =
      succeeds cloud deviceSecret manager.subTopics attempt := by
  have rc := congrArg Outcome.rc (Client.connect_onNetwork manager.service.arena.next (Client.new 0)
    (connectData cloud deviceSecret attempt.now) attempt.connect)
  have subscribed := subscribeAll_succeeds attempt.subscribe manager.subTopics true
    (Connection.connectMqttClient cloud deviceSecret attempt
      (connectMqttNetwork attempt manager.service).2).2
  rw [connect_mqttClient, acknowledged_onNetwork, Bool.true_and] at subscribed
  unfold succeeds
  dsimp only [Outcome.onNetwork] at rc ⊢
  rw [← subscribed, ← rc]
  rfl

/-! ## What a try creates -/

def SameObjects (service later : Service) : Prop :=
  later.arena.live = service.arena.live ∧ later.mqttNetwork = service.mqttNetwork ∧
    later.mqttClient.ipstack = service.mqttClient.ipstack

theorem SameObjects.trans {first second third : Service} (early : SameObjects first second)
    (late : SameObjects second third) : SameObjects first third :=
  ⟨late.1.trans early.1, late.2.1.trans early.2.1, late.2.2.trans early.2.2⟩

theorem sameObjects_perform (service : Service) {method : Client → Outcome}
    (keeps : Client.KeepsNetwork method) : SameObjects service (service.perform method).2 :=
  ⟨Arena.live_useIf _ _ _, rfl, keeps service.mqttClient⟩

theorem sameObjects_subscribeAll (exchange : Bytes → Exchange) (topics : List Bytes)
    (subscribed : Bool) (service : Service) :
    SameObjects service (subscribeAll exchange topics subscribed service).2 := by
  induction topics generalizing subscribed service with
  | nil => exact ⟨rfl, rfl, rfl⟩
  | cons topic topics ih =>
      exact (sameObjects_perform service (Client.subscribe_keepsNetwork topic (exchange topic))).trans
        (ih _ _)

structure Created (manager later : Manager) : Prop where
  networks : later.service.arena.live = later.service.mqttNetwork :: manager.service.arena.live
  clients : later.clients.live = later.mqttClient :: manager.clients.live
  own : later.service.mqttClient.ipstack = later.service.mqttNetwork
  subTopics : later.subTopics = manager.subTopics

theorem created_connect (attempt : Attempt) (manager : Manager) :
    Created manager (connectMqttClient cloud deviceSecret attempt
      (manager.serve (connectMqttNetwork attempt)).2).2 := by
  have same := sameObjects_perform ⟨manager.service.arena.allocate, manager.service.arena.next,
      Client.new manager.service.arena.next⟩
    (Client.connect_keepsNetwork (connectData cloud deviceSecret attempt.now) attempt.connect)
  exact ⟨same.1.trans (congrArg (· :: _) same.2.1.symm), rfl, same.2.2.trans same.2.1.symm, rfl⟩

theorem created_of_connect {attempt : Attempt} {start : Manager}
    (connected : connect cloud deviceSecret attempt = some start) : Created booted start := by
  have created := @created_connect cloud deviceSecret attempt booted
  unfold connect at connected
  dsimp only at connected
  split_ifs at connected
  cases connected
  exact created

theorem created_reconnectMqtt (attempt : Attempt) (manager : Manager) :
    Created manager (reconnectMqtt cloud deviceSecret attempt manager).2 := by
  have created := @created_connect cloud deviceSecret attempt manager
  have same := sameObjects_subscribeAll attempt.subscribe manager.subTopics true
    (connectMqttClient cloud deviceSecret attempt
      (manager.serve (connectMqttNetwork attempt)).2).2.service
  exact ⟨same.1.trans (created.networks.trans (congrArg (· :: _) same.2.1.symm)), created.clients,
    same.2.2.trans (created.own.trans same.2.1.symm), created.subTopics⟩

/-! ## The tries of `Reconnect` -/

/-- That many failed tries lie between the two, and none of them has deleted an object. -/
structure Retried (failed : Nat) (manager later : Manager) : Prop where
  networks : later.service.arena.live.length = manager.service.arena.live.length + failed
  clients : later.clients.live.length = manager.clients.live.length + failed
  subTopics : later.subTopics = manager.subTopics
  none_failed : failed = 0 → later = manager

theorem Retried.refl (manager : Manager) : Retried 0 manager manager := ⟨rfl, rfl, rfl, fun _ => rfl⟩

theorem Created.retried {manager next later : Manager} {failed : Nat} (created : Created manager next)
    (retried : Retried failed next later) : Retried (failed + 1) manager later where
  networks := by
    rw [retried.networks, created.networks, List.length_cons]
    omega
  clients := by
    rw [retried.clients, created.clients, List.length_cons]
    omega
  subTopics := retried.subTopics.trans created.subTopics
  none_failed := fun none => absurd none (Nat.succ_ne_zero failed)

theorem reconnectLoop_cases (attempts : Nat → Attempt) (left : Nat) (manager : Manager) :
    ((tries attempts left).find? (succeeds cloud deviceSecret manager.subTopics) = none ∧
      (reconnectLoop cloud deviceSecret attempts (left + 1) false manager).1 = true) ∨
    ∃ attempt failed before,
      (tries attempts left).find? (succeeds cloud deviceSecret manager.subTopics) = some attempt ∧
      (failed = 0 ↔ succeeds cloud deviceSecret manager.subTopics (attempts left) = true) ∧
      Retried failed manager before ∧
      reconnectLoop cloud deviceSecret attempts (left + 1) false manager =
        (false, (reconnectMqtt cloud deviceSecret attempt before).2) := by
  induction left generalizing manager with
  | zero => exact .inl ⟨rfl, rfl⟩
  | succ left ih =>
      have first := @reconnectMqtt_succeeds cloud deviceSecret (attempts (left + 1)) manager
      have created := @created_reconnectMqtt cloud deviceSecret (attempts (left + 1)) manager
      have topics := created.subTopics
      rw [reconnectLoop, tries, List.find?_cons]
      dsimp only
      cases ok : succeeds cloud deviceSecret manager.subTopics (attempts (left + 1)) with
      | true =>
          rw [ok] at first
          rw [first]
          exact .inr ⟨attempts (left + 1), 0, manager, rfl, by simp, .refl manager, rfl⟩
      | false =>
          rw [ok] at first
          rw [first]
          rcases ih (reconnectMqtt cloud deviceSecret (attempts (left + 1)) manager).2 with
            ⟨missing, reset⟩ | ⟨attempt, failed, before, found, -, retried, returned⟩
          · rw [topics] at missing
            exact .inl ⟨missing, reset⟩
          · rw [topics] at found
            exact .inr ⟨attempt, failed + 1, before, found, by simp, created.retried retried, returned⟩

def disconnectMqtt (teardown : Teardown) (manager : Manager) : Manager :=
  disconnectMqttClient teardown { manager with service := disconnectMqttNetwork manager.service }

-- the first try, and the five in the loop
theorem reconnectMqttService_eq (teardown : Teardown) (attempts : Nat → Attempt) (manager : Manager) :
    reconnectMqttService cloud deviceSecret teardown attempts manager =
      reconnectLoop cloud deviceSecret attempts (maxMqttFailedReconnections + 1) false
        (disconnectMqtt teardown manager) := rfl

theorem reconnect_cases (teardown : Teardown) (attempts : Nat → Attempt) (manager : Manager) :
    ((tries attempts maxMqttFailedReconnections).find?
        (succeeds cloud deviceSecret manager.subTopics) = none ∧
      (reconnect cloud deviceSecret teardown attempts manager).systemReset = true) ∨
    ∃ attempt failed before,
      (tries attempts maxMqttFailedReconnections).find?
        (succeeds cloud deviceSecret manager.subTopics) = some attempt ∧
      (failed = 0 ↔
        succeeds cloud deviceSecret manager.subTopics (attempts maxMqttFailedReconnections) = true) ∧
      Retried failed (disconnectMqtt teardown manager) before ∧
      reconnect cloud deviceSecret teardown attempts manager =
        { (reconnectMqtt cloud deviceSecret attempt before).2 with systemReset := false } := by
  have loop := @reconnectLoop_cases cloud deviceSecret attempts maxMqttFailedReconnections
    (disconnectMqtt teardown manager)
  unfold reconnect
  rw [reconnectMqttService_eq]
  rcases loop with ⟨missing, reset⟩ | ⟨attempt, failed, before, found, count, retried, returned⟩
  · exact .inl ⟨missing, reset⟩
  · rw [returned]
    exact .inr ⟨attempt, failed, before, found, count, retried, rfl⟩

end DecadaEmbedded.DecadaManager.Reconnection
