import DecadaEmbedded.DecadaManager.Rest
import DecadaEmbedded.Library.Arena
import DecadaEmbedded.Library.Run
import DecadaEmbedded.Mqtt.Client

/-!
# The MQTT connection in `DecadaManager/decada_manager.cpp` and `communications_thread.cpp`

An arena holds the `MQTTNetwork` objects; it records each method of the client that reads from or
writes to its network. The two pointers are null only inside `ReconnectMqttService`, where nothing
reads them. The calls of the two threads are taken one after the other.
-/

namespace DecadaEmbedded.DecadaManager.Connection
open Library Conversions CryptoEngine Mqtt

structure Service where
  arena : Arena
  mqttNetwork : Nat
  mqttClient : Client

-- Answers to one try to connect and subscribe; `now` is the clock
structure Attempt where
  networkRc : Int
  now : Int
  connect : Exchange
  subscribe : Bytes → Exchange

structure Teardown where
  unsubscribe : Bytes → Exchange
  disconnect : List Write

def maxMqttFailedReconnections : Nat := 5

variable (cloud : Cloud) (deviceSecret : Bytes)

def connectData (now : Int) : ConnectData :=
  let timeNowMilliSec := msPaddingIntToString now
  let sha256Input := str "clientId" ++ cloud.deviceUid ++ str "deviceKey" ++ cloud.deviceUid ++
    str "productKey" ++ cloud.decadaProductKey ++ str "timestamp" ++ timeNowMilliSec ++ deviceSecret
  { clientId := cstr (cloud.deviceUid ++ str "|securemode=2,signmethod=sha256,timestamp=" ++
      timeNowMilliSec ++ str "|")
    username := cstr (cloud.deviceUid ++ str "&" ++ cloud.decadaProductKey)
    password := cstr (toLowerCase (genericSHA256Generator cloud.sha256 sha256Input))
    keepAliveInterval := 3600 }

def Service.perform (method : Client → Outcome) (service : Service) : Int × Service :=
  let outcome := method service.mqttClient
  (outcome.rc,
    { service with
      arena := service.arena.useIf outcome.usedNetwork service.mqttClient.ipstack
      mqttClient := outcome.client })

def connectMqttNetwork (attempt : Attempt) (service : Service) : Bool × Service :=
  (attempt.networkRc = 0,
    { service with arena := service.arena.allocate, mqttNetwork := service.arena.next })

def connectMqttClient (attempt : Attempt) (service : Service) : Bool × Service :=
  match { service with mqttClient := Client.new service.mqttNetwork }.perform
      (·.connect (connectData cloud deviceSecret attempt.now) attempt.connect) with
  | (rc, service) => (rc = success, service)

def publish (topic payload : Bytes) (writes : List Write) (service : Service) : Bool × Service :=
  match service.perform (·.publish topic payload writes) with
  | (rc, service) => (rc = success, service)

-- the topic has been inserted into `sub_topics_`
def subscribe (topic : Bytes) (exchange : Exchange) (service : Service) : Bool × Service :=
  match service.perform (·.subscribe topic exchange) with
  | (rc, service) => (rc = success, service)

def disconnectMqttNetwork (service : Service) : Service :=
  { service with arena := service.arena.free service.mqttNetwork }

def unsubscribe (topic : Bytes) (exchange : Exchange) (service : Service) : Service :=
  match service.perform (·.unsubscribe topic exchange) with
  | (_, service) =>
      { service with mqttClient := (service.mqttClient.setMessageHandler topic false).1 }

def unsubscribeAll (exchange : Bytes → Exchange) : List Bytes → Service → Service
  | [], service => service
  | topic :: topics, service =>
      unsubscribeAll exchange topics (unsubscribe topic (exchange topic) service)

def disconnectMqttClient (teardown : Teardown) (subTopics : List Bytes) (service : Service) : Service :=
  let service := unsubscribeAll teardown.unsubscribe subTopics service
  if service.mqttClient.isconnected then (service.perform (·.disconnect teardown.disconnect)).2
  else service

def subscribeAll (exchange : Bytes → Exchange) : List Bytes → Bool → Service → Bool × Service
  | [], subscribed, service => (subscribed, service)
  | topic :: topics, subscribed, service =>
      match subscribe topic (exchange topic) service with
      | (ok, service) => subscribeAll exchange topics (subscribed && ok) service

def reconnectMqttClient (attempt : Attempt) (subTopics : List Bytes) (service : Service) :
    Bool × Service :=
  match connectMqttClient cloud deviceSecret attempt service with
  | (connected, service) =>
      match subscribeAll attempt.subscribe subTopics true service with
      | (subscribed, service) => (connected && subscribed, service)

-- both halves, whether or not the first one succeeds
def reconnectMqtt (attempt : Attempt) (subTopics : List Bytes) (service : Service) : Bool × Service :=
  match connectMqttNetwork attempt service with
  | (networkIsConnected, service) =>
      match reconnectMqttClient cloud deviceSecret attempt subTopics service with
      | (clientIsConnected, service) => (networkIsConnected && clientIsConnected, service)

/-- The first argument counts down what `mqtt_failed_reconnections`, zero at the start, counts up.
The result tells whether the system is reset, which the last failure allowed leads to even where
the try after it succeeds. -/
def reconnectLoop (attempts : Nat → Attempt) (subTopics : List Bytes) :
    Nat → Bool → Service → Bool × Service
  | 0, _, service => (true, service)
  | _ + 1, true, service => (false, service)
  | left + 1, false, service =>
      match reconnectMqtt cloud deviceSecret (attempts left) subTopics service with
      | (connected, service) => reconnectLoop attempts subTopics left connected service

def reconnectMqttService (teardown : Teardown) (attempts : Nat → Attempt) (subTopics : List Bytes)
    (service : Service) : Bool × Service :=
  let service := disconnectMqttNetwork service
  let service := disconnectMqttClient teardown subTopics service
  match reconnectMqtt cloud deviceSecret (attempts maxMqttFailedReconnections) subTopics service with
  | (connected, service) =>
      reconnectLoop cloud deviceSecret attempts subTopics maxMqttFailedReconnections connected service

/-! ## The two threads -/

/-- `subTopics` in the order of the hash table, `pubOk` of the communications loop, and whether the
subscription manager has found the client disconnected. -/
structure State where
  service : Service
  subTopics : List Bytes
  pubOk : Bool
  foundDisconnected : Bool
  systemReset : Bool

inductive Action where
  | publish (topic payload : Bytes) (writes : List Write)
  | subscribe (topic : Bytes) (order : List Bytes) (exchange : Exchange)
  | yield (passes : List Pass)
  | checkConnected
  | reconnectAfterPublish (teardown : Teardown) (attempts : Nat → Attempt)
  | reconnectAfterYield (teardown : Teardown) (attempts : Nat → Attempt)

def connect (attempt : Attempt) : Option State :=
  match connectMqttNetwork attempt ⟨.empty, 0, .new 0⟩ with
  | (networkIsConnected, service) =>
      match connectMqttClient cloud deviceSecret attempt service with
      | (clientIsConnected, service) =>
          if networkIsConnected ∧ clientIsConnected then some ⟨service, [], true, false, false⟩ else none

def reconnect (teardown : Teardown) (attempts : Nat → Attempt) (state : State) : State :=
  match reconnectMqttService cloud deviceSecret teardown attempts state.subTopics state.service with
  | (systemReset, service) => { state with service, systemReset }

-- nothing happens after a reset, which starts the firmware anew
def step (state : State) (action : Action) : Option State :=
  if state.systemReset then none
  else
    match action with
    | .publish topic payload writes =>
        match publish topic payload writes state.service with
        | (pubOk, service) => some { state with service, pubOk }
    | .subscribe topic order exchange =>
        if order.Perm (state.subTopics.insert topic) then
          some { state with service := (subscribe topic exchange state.service).2, subTopics := order }
        else none
    | .yield passes => some { state with service := (state.service.perform (·.yield passes)).2 }
    | .checkConnected =>
        some { state with foundDisconnected := !state.service.mqttClient.isconnected }
    | .reconnectAfterPublish teardown attempts =>
        if state.pubOk then none else some (reconnect cloud deviceSecret teardown attempts state)
    | .reconnectAfterYield teardown attempts =>
        if state.foundDisconnected then
          some (reconnect cloud deviceSecret teardown attempts { state with foundDisconnected := false })
        else none

/-! ## Services whose client has its network -/

structure Healthy (service : Service) : Prop where
  own : service.mqttClient.ipstack = service.mqttNetwork
  live : service.mqttNetwork ∈ service.arena.live
  safe : service.arena.Safe

def Service.Extends (service later : Service) : Prop := service.arena.Extends later.arena

theorem extends_perform (method : Client → Outcome) (service : Service) :
    service.Extends (service.perform method).2 :=
  Arena.extends_useIf _ _ _

theorem Healthy.perform {service : Service} (healthy : Healthy service) {method : Client → Outcome}
    (keeps : Client.KeepsNetwork method) : Healthy (service.perform method).2 where
  own := (keeps service.mqttClient).trans healthy.own
  live := by
    rw [Service.perform, Arena.live_useIf]
    exact healthy.live
  safe := healthy.safe.useIf _ (healthy.own.symm ▸ healthy.live)

theorem extends_subscribeAll (exchange : Bytes → Exchange) (topics : List Bytes) (subscribed : Bool)
    (service : Service) : service.Extends (subscribeAll exchange topics subscribed service).2 := by
  induction topics generalizing subscribed service with
  | nil => exact Arena.Extends.refl _
  | cons topic topics ih =>
      exact (extends_perform (·.subscribe topic (exchange topic)) service).trans (ih _ _)

theorem Healthy.subscribeAll {service : Service} (healthy : Healthy service)
    (exchange : Bytes → Exchange) (topics : List Bytes) (subscribed : Bool) :
    Healthy (subscribeAll exchange topics subscribed service).2 := by
  induction topics generalizing subscribed service with
  | nil => exact healthy
  | cons topic topics ih =>
      exact ih (healthy.perform (Client.subscribe_keepsNetwork topic (exchange topic))) _

theorem extends_connectMqttNetwork (attempt : Attempt) (service : Service) :
    service.Extends (connectMqttNetwork attempt service).2 :=
  Arena.extends_allocate service.arena

theorem extends_connectMqttClient (attempt : Attempt) (service : Service) :
    service.Extends (connectMqttClient cloud deviceSecret attempt service).2 :=
  extends_perform (·.connect (connectData cloud deviceSecret attempt.now) attempt.connect)
    { service with mqttClient := Client.new service.mqttNetwork }

theorem extends_reconnectMqtt (attempt : Attempt) (subTopics : List Bytes) (service : Service) :
    service.Extends (reconnectMqtt cloud deviceSecret attempt subTopics service).2 := by
  have network := extends_connectMqttNetwork attempt service
  have client := extends_connectMqttClient cloud deviceSecret attempt
    (connectMqttNetwork attempt service).2
  have subscribed := extends_subscribeAll attempt.subscribe subTopics true
    (connectMqttClient cloud deviceSecret attempt (connectMqttNetwork attempt service).2).2
  exact (network.trans client).trans subscribed

theorem healthy_connectMqttClient (attempt : Attempt) {service : Service}
    (live : service.mqttNetwork ∈ service.arena.live) (safe : service.arena.Safe) :
    Healthy (connectMqttClient cloud deviceSecret attempt service).2 := by
  have fresh : Healthy { service with mqttClient := Client.new service.mqttNetwork } :=
    { own := Client.new_ipstack service.mqttNetwork, live, safe }
  have connected := fresh.perform
    (Client.connect_keepsNetwork (connectData cloud deviceSecret attempt.now) attempt.connect)
  unfold connectMqttClient
  generalize Service.perform _ _ = result at connected ⊢
  exact connected

-- whatever went before, a fresh client is constructed on a fresh network
theorem healthy_connect (attempt : Attempt) {service : Service} (safe : service.arena.Safe) :
    Healthy (connectMqttClient cloud deviceSecret attempt (connectMqttNetwork attempt service).2).2 :=
  healthy_connectMqttClient cloud deviceSecret attempt (Arena.mem_live_allocate service.arena)
    (Arena.safe_allocate.mpr safe)

theorem healthy_reconnectMqtt (attempt : Attempt) (subTopics : List Bytes) {service : Service}
    (safe : service.arena.Safe) :
    Healthy (reconnectMqtt cloud deviceSecret attempt subTopics service).2 :=
  (healthy_connect cloud deviceSecret attempt safe).subscribeAll attempt.subscribe subTopics true

theorem extends_reconnectLoop (attempts : Nat → Attempt) (subTopics : List Bytes) (left : Nat)
    (connected : Bool) (service : Service) :
    service.Extends (reconnectLoop cloud deviceSecret attempts subTopics left connected service).2 := by
  induction left generalizing connected service with
  | zero => exact Arena.Extends.refl _
  | succ left ih =>
      cases connected with
      | true => exact Arena.Extends.refl _
      | false =>
          exact (extends_reconnectMqtt cloud deviceSecret (attempts left) subTopics service).trans
            (ih _ _)

theorem Healthy.reconnectLoop {service : Service} (healthy : Healthy service)
    (attempts : Nat → Attempt) (subTopics : List Bytes) (left : Nat) (connected : Bool) :
    Healthy (reconnectLoop cloud deviceSecret attempts subTopics left connected service).2 := by
  induction left generalizing connected service with
  | zero => exact healthy
  | succ left ih =>
      cases connected with
      | true => exact healthy
      | false =>
          exact ih (healthy_reconnectMqtt cloud deviceSecret (attempts left) subTopics healthy.safe) _

/-! ## Tearing the service down -/

theorem extends_unsubscribe (topic : Bytes) (exchange : Exchange) (service : Service) :
    service.Extends (unsubscribe topic exchange service) :=
  extends_perform (·.unsubscribe topic exchange) service

theorem extends_unsubscribeAll (exchange : Bytes → Exchange) (topics : List Bytes)
    (service : Service) : service.Extends (unsubscribeAll exchange topics service) := by
  induction topics generalizing service with
  | nil => exact Arena.Extends.refl _
  | cons topic topics ih => exact (extends_unsubscribe topic (exchange topic) service).trans (ih _)

theorem extends_disconnectMqttClient (teardown : Teardown) (subTopics : List Bytes)
    (service : Service) : service.Extends (disconnectMqttClient teardown subTopics service) := by
  have unsubscribed := extends_unsubscribeAll teardown.unsubscribe subTopics service
  unfold disconnectMqttClient
  dsimp only
  split_ifs
  · exact unsubscribed.trans (extends_perform _ _)
  · exact unsubscribed

theorem unsubscribe_quiet {topic : Bytes} {exchange : Exchange} {service : Service}
    (unused : (service.mqttClient.unsubscribe topic exchange).usedNetwork = false) :
    (unsubscribe topic exchange service).arena = service.arena ∧
      (unsubscribe topic exchange service).mqttClient.isconnected = false := by
  constructor
  · show service.arena.useIf (service.mqttClient.unsubscribe topic exchange).usedNetwork _ = _
    rw [unused]
    rfl
  · exact (Client.setMessageHandler_isconnected _ topic false).trans (Client.unsubscribe_isconnected unused)

theorem unsubscribeAll_of_disconnected (exchange : Bytes → Exchange) (topics : List Bytes)
    {service : Service} (disconnected : service.mqttClient.isconnected = false) :
    (unsubscribeAll exchange topics service).arena = service.arena ∧
      (unsubscribeAll exchange topics service).mqttClient.isconnected = false := by
  induction topics generalizing service with
  | nil => exact ⟨rfl, disconnected⟩
  | cons topic topics ih =>
      have unused : (service.mqttClient.unsubscribe topic (exchange topic)).usedNetwork = false := by
        rw [Client.unsubscribe_usedNetwork, disconnected, Bool.false_and]
      obtain ⟨same, closed⟩ := unsubscribe_quiet unused
      obtain ⟨arena, still⟩ := ih closed
      exact ⟨arena.trans same, still⟩

theorem disconnectMqttClient_of_disconnected (teardown : Teardown) (subTopics : List Bytes)
    {service : Service} (disconnected : service.mqttClient.isconnected = false) :
    (disconnectMqttClient teardown subTopics service).arena = service.arena := by
  obtain ⟨same, still⟩ := unsubscribeAll_of_disconnected teardown.unsubscribe subTopics disconnected
  unfold disconnectMqttClient
  simpa [still] using same

/-- The client is torn down in silence: it has no session, or the first topic is too long for a
packet, and the session ends over it. -/
def Quiet (subTopics : List Bytes) (client : Client) : Prop :=
  client.isconnected = false ∨
    ∃ topic ∈ subTopics.head?, serialize (mqttSerializeUnsubscribeLength topic) = none

theorem disconnectMqttClient_safe_iff (teardown : Teardown) (subTopics : List Bytes)
    {service : Service} (freed : service.mqttClient.ipstack ∉ service.arena.live)
    (safe : service.arena.Safe) :
    (disconnectMqttClient teardown subTopics service).arena.Safe ↔
      Quiet subTopics service.mqttClient := by
  cases connected : service.mqttClient.isconnected with
  | false =>
      rw [disconnectMqttClient_of_disconnected teardown subTopics connected]
      exact iff_of_true safe (.inl connected)
  | true =>
      have unsafeUse (method : Client → Outcome)
          (used : (method service.mqttClient).usedNetwork = true) :
          ¬ (service.perform method).2.arena.Safe := by
        rw [Service.perform, used]
        exact fun alive => freed (Arena.safe_use.mp alive).1
      cases subTopics with
      | nil =>
          have spoken : disconnectMqttClient teardown [] service =
              (service.perform (·.disconnect teardown.disconnect)).2 := if_pos connected
          rw [spoken]
          exact iff_of_false (unsafeUse _ rfl) (by simp [Quiet, connected])
      | cons topic topics =>
          cases fits : serialize (mqttSerializeUnsubscribeLength topic) with
          | none =>
              have unused : (service.mqttClient.unsubscribe topic
                  (teardown.unsubscribe topic)).usedNetwork = false := by
                rw [Client.unsubscribe_usedNetwork, fits, Option.isSome_none, Bool.and_false]
              obtain ⟨same, closed⟩ := unsubscribe_quiet unused
              have rest := disconnectMqttClient_of_disconnected teardown topics closed
              have whole : (disconnectMqttClient teardown (topic :: topics) service).arena =
                  service.arena := rest.trans same
              rw [whole]
              exact iff_of_true safe (.inr ⟨topic, rfl, fits⟩)
          | some length =>
              have used : (service.mqttClient.unsubscribe topic
                  (teardown.unsubscribe topic)).usedNetwork = true := by
                rw [Client.unsubscribe_usedNetwork, connected, fits]
                rfl
              have grows : Service.Extends _ (disconnectMqttClient teardown (topic :: topics) service) :=
                extends_disconnectMqttClient teardown topics
                  (unsubscribe topic (teardown.unsubscribe topic) service)
              refine iff_of_false (fun alive => ?_) (by simp [Quiet, connected, fits])
              exact unsafeUse (·.unsubscribe topic (teardown.unsubscribe topic)) used (grows.safe alive)

theorem extends_reconnectMqttService (teardown : Teardown) (attempts : Nat → Attempt)
    (subTopics : List Bytes) (service : Service) :
    (disconnectMqttClient teardown subTopics (disconnectMqttNetwork service)).Extends
      (reconnectMqttService cloud deviceSecret teardown attempts subTopics service).2 :=
  (extends_reconnectMqtt cloud deviceSecret _ subTopics _).trans
    (extends_reconnectLoop cloud deviceSecret attempts subTopics _ _ _)

theorem reconnectMqttService_iff (teardown : Teardown) (attempts : Nat → Attempt)
    (subTopics : List Bytes) {service : Service} (healthy : Healthy service) :
    (Quiet subTopics service.mqttClient →
        Healthy (reconnectMqttService cloud deviceSecret teardown attempts subTopics service).2) ∧
      ((reconnectMqttService cloud deviceSecret teardown attempts subTopics service).2.arena.Safe →
        Quiet subTopics service.mqttClient) := by
  have freed : service.mqttClient.ipstack ∉ (disconnectMqttNetwork service).arena.live := by
    rw [healthy.own]
    exact Arena.not_mem_live_free _ _
  have torn := @disconnectMqttClient_safe_iff teardown subTopics (disconnectMqttNetwork service) freed
    healthy.safe
  constructor
  · intro quiet
    exact (healthy_reconnectMqtt cloud deviceSecret _ subTopics (torn.mpr quiet)).reconnectLoop
      cloud deviceSecret attempts subTopics _ _
  · intro safe
    exact torn.mp ((extends_reconnectMqttService cloud deviceSecret teardown attempts subTopics
      service).safe safe)

/-! ## Runs -/

def NetworkAlive (state : State) : Prop := state.service.arena.Safe

def QuietReconnect (state : State) : Action → Prop
  | .reconnectAfterPublish _ _ | .reconnectAfterYield _ _ =>
      Quiet state.subTopics state.service.mqttClient
  | _ => True

variable {cloud deviceSecret}

theorem healthy_of_connect {attempt : Attempt} {start : State}
    (connected : connect cloud deviceSecret attempt = some start) : Healthy start.service := by
  have fresh := @healthy_connect cloud deviceSecret attempt ⟨.empty, 0, .new 0⟩ Arena.safe_empty
  unfold connect at connected
  dsimp only at connected
  split_ifs at connected
  cases connected
  exact fresh

theorem step_cases {state next : State} {action : Action}
    (taken : step cloud deviceSecret state action = some next) :
    (QuietReconnect state action ∧ next.service = state.service) ∨
    (QuietReconnect state action ∧ ∃ method, Client.KeepsNetwork method ∧
      next.service = (state.service.perform method).2) ∨
    ∃ teardown attempts,
      (QuietReconnect state action ↔ Quiet state.subTopics state.service.mqttClient) ∧
      next.service = (reconnectMqttService cloud deviceSecret teardown attempts state.subTopics
        state.service).2 := by
  unfold step at taken
  split at taken
  · cases taken
  cases action with
  | publish topic payload writes =>
      cases taken
      exact .inr (.inl ⟨trivial, _, Client.publish_keepsNetwork topic payload writes, rfl⟩)
  | subscribe topic order exchange =>
      dsimp only at taken
      split at taken
      · cases taken
        exact .inr (.inl ⟨trivial, _, Client.subscribe_keepsNetwork topic exchange, rfl⟩)
      · cases taken
  | yield passes =>
      cases taken
      exact .inr (.inl ⟨trivial, _, Client.yield_keepsNetwork passes, rfl⟩)
  | checkConnected =>
      cases taken
      exact .inl ⟨trivial, rfl⟩
  | reconnectAfterPublish teardown attempts =>
      dsimp only at taken
      split at taken
      · cases taken
      · cases taken
        exact .inr (.inr ⟨teardown, attempts, Iff.rfl, rfl⟩)
  | reconnectAfterYield teardown attempts =>
      dsimp only at taken
      split at taken
      · cases taken
        exact .inr (.inr ⟨teardown, attempts, Iff.rfl, rfl⟩)
      · cases taken

theorem Healthy.step {state next : State} {action : Action} (healthy : Healthy state.service)
    (quiet : QuietReconnect state action) (taken : step cloud deviceSecret state action = some next) :
    Healthy next.service := by
  rcases step_cases taken with ⟨-, same⟩ | ⟨-, method, keeps, performed⟩ | ⟨teardown, attempts, loud, torn⟩
  · rwa [same]
  · rw [performed]
    exact healthy.perform keeps
  · rw [torn]
    exact (reconnectMqttService_iff cloud deviceSecret teardown attempts _ healthy).1 (loud.mp quiet)

theorem quietReconnect_of_networkAlive {state next : State} {action : Action}
    (healthy : Healthy state.service) (taken : step cloud deviceSecret state action = some next)
    (alive : NetworkAlive next) : QuietReconnect state action := by
  rcases step_cases taken with ⟨quiet, -⟩ | ⟨quiet, -⟩ | ⟨teardown, attempts, loud, torn⟩
  · exact quiet
  · exact quiet
  · rw [NetworkAlive, torn] at alive
    exact loud.mpr
      ((reconnectMqttService_iff cloud deviceSecret teardown attempts _ healthy).2 alive)

/-- After a successful `Connect` no client uses a deleted network, in any state of a run, exactly if
each reconnection of the run tears a client down that has nothing left to say. -/
theorem networkAlive_iff_quietReconnect {attempt : Attempt} {start : State}
    (connected : connect cloud deviceSecret attempt = some start) (actions : List Action) :
    EveryState (step cloud deviceSecret) NetworkAlive start actions ↔
      EveryStep (step cloud deviceSecret) QuietReconnect start actions := by
  have healthy := healthy_of_connect connected
  have keeps : ∀ state action next, Healthy state.service → QuietReconnect state action →
      step cloud deviceSecret state action = some next → Healthy next.service :=
    fun state action next healthy quiet taken => healthy.step quiet taken
  refine everyState_iff_everyStep (fun state healthy => healthy.safe) keeps ?_ healthy actions
  intro state action next healthy loud taken alive
  exact loud (quietReconnect_of_networkAlive healthy taken alive)

def answered : Attempt :=
  { networkRc := 0, now := 0
    connect := ⟨[⟨133, false⟩], [{ packetType := connack }], some 0⟩
    subscribe := fun _ => ⟨[⟨8, false⟩], [{ packetType := suback }], some 1⟩ }

def unanswered : Teardown where
  unsubscribe _ := ⟨[⟨-1, false⟩], [], none⟩
  disconnect := [⟨-1, false⟩]

-- A publication fails and the connection is made anew. In the next turn of its loop, with nothing
-- to publish, the communications thread still finds `pub_ok` false.
def reconnectedTwice : List Action :=
  [.subscribe (str "t") [str "t"] (answered.subscribe []),
    .publish (str "t") (str "v") [⟨-1, false⟩],
    .reconnectAfterPublish unanswered fun _ => answered,
    .reconnectAfterPublish unanswered fun _ => answered]

theorem networkAlive_iff_quietReconnect_answered :
    ∃ start, connect (answering []) [] answered = some start ∧
      (EveryState (step (answering []) []) NetworkAlive start reconnectedTwice ↔
        EveryStep (step (answering []) []) QuietReconnect start reconnectedTwice) := by
  have succeeds : (connect (answering []) [] answered).isSome := by decide +kernel
  obtain ⟨start, connected⟩ := Option.isSome_iff_exists.mp succeeds
  exact ⟨start, connected, networkAlive_iff_quietReconnect connected reconnectedTwice⟩

theorem networkAlive_violated : ¬ ∀ (cloud : Cloud) (deviceSecret : Bytes) (attempt : Attempt)
    (start : State), connect cloud deviceSecret attempt = some start → ∀ actions,
    EveryState (step cloud deviceSecret) NetworkAlive start actions := by
  intro always
  have final : ((connect (answering []) [] answered).bind fun start =>
      run (step (answering []) []) start reconnectedTwice).map
        (fun state => decide (∀ use ∈ state.service.arena.uses, use.alive = true)) = some false := by
    decide +kernel
  obtain ⟨state, reached, dead⟩ := Option.map_eq_some_iff.mp final
  obtain ⟨start, connected, reached⟩ := Option.bind_eq_some_iff.mp reached
  have alive := (always (answering []) [] answered start connected reconnectedTwice).last reached
  exact of_decide_eq_false dead alive

end DecadaEmbedded.DecadaManager.Connection
