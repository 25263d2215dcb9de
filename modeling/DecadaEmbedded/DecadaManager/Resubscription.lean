import DecadaEmbedded.DecadaManager.Reconnection

/-!
# The subscriptions of `DecadaManager/decada_manager.cpp` after a reconnection

A try succeeds where every topic is acknowledged, whatever the acknowledgement says. The new client
has a message handler for those topics whose SUBACK grants them, as long as its session lasts.
-/

namespace DecadaEmbedded.DecadaManager.Reconnection
open Library Mqtt Connection

def Online (topics : List Bytes) (client : Client) : Prop :=
  client.isconnected = true ∧ ∀ topic ∈ topics, some topic ∈ client.messageHandlers

def Call.topic? : Call → Option Bytes
  | .subscribe topic _ _ => some topic
  | _ => none

def passed (calls : List Call) : List Bytes := calls.filterMap Call.topic?

variable (cloud : Cloud) (deviceSecret : Bytes)

/-- The client is online for all topics so far after each `Reconnect` of the run that returns. -/
def ReturnsOnline (start : Manager) (calls : List Call) : Prop :=
  ∀ past teardown attempts manager, past ++ [.reconnect teardown attempts] <+: calls →
    run (step cloud deviceSecret) start (past ++ [.reconnect teardown attempts]) = some manager →
    manager.systemReset = false → Online (passed past) manager.service.mqttClient

/-- Each SUBACK grants its topic, and no packet before the last of them closes the session. -/
def GrantsAll (subTopics : List Bytes) (attempt : Attempt) : Prop :=
  (∀ topic ∈ subTopics, Grants (attempt.subscribe topic)) ∧
    ∀ topic ∈ subTopics.getLast?, Undisturbed (attempt.subscribe topic).passes

-- the first try to succeed, if one does before the reset
def FirstSuccessGrants (manager : Manager) : Call → Prop
  | .reconnect _ attempts =>
      ∀ attempt ∈ (tries attempts maxMqttFailedReconnections).find?
          (succeeds cloud deviceSecret manager.subTopics),
        GrantsAll manager.subTopics attempt
  | _ => True

variable {cloud deviceSecret}

/-! ## One try -/

theorem subscribeAll_session (exchange : Bytes → Exchange) (topics : List Bytes) (subscribed : Bool)
    {service : Service} (connected : service.mqttClient.isconnected = true)
    (ok : acknowledged exchange topics service.mqttClient = true) {later : Client}
    (final : (subscribeAll exchange topics subscribed service).2.mqttClient = later) :
    (later.isconnected = true ↔ ∀ topic ∈ topics.getLast?, Undisturbed (exchange topic).passes) ∧
      (later.isconnected = true → ∀ topic, some topic ∈ later.messageHandlers ↔
        some topic ∈ service.mqttClient.messageHandlers ∨ topic ∈ topics ∧ Grants (exchange topic)) := by
  induction topics generalizing subscribed service with
  | nil =>
      subst final
      exact ⟨iff_of_true connected (by simp), fun _ topic => by simp [subscribeAll]⟩
  | cons topic topics ih =>
      rw [acknowledged, Bool.and_eq_true, decide_eq_true_eq] at ok
      have first := Client.subscribed_of_success ok.1
      cases topics with
      | nil =>
          subst final
          refine ⟨first.after.trans (by simp), fun remains other => ?_⟩
          refine (first.handlers remains other).trans ?_
          grind
      | cons next topics =>
          -- the second subscription, a success too, finds the session open
          have rest := ok.2
          rw [acknowledged, Bool.and_eq_true, decide_eq_true_eq] at rest
          have between := (Client.subscribed_of_success rest.1).before
          obtain ⟨lasts, handlers⟩ :=
            @ih _ (subscribe topic (exchange topic) service).2 between ok.2 final
          refine ⟨lasts.trans (by rw [List.getLast?_cons_cons]), fun remains other => ?_⟩
          have earlier :
              some other ∈ (subscribe topic (exchange topic) service).2.mqttClient.messageHandlers ↔ _ :=
            first.handlers between other
          rw [handlers remains other, earlier]
          constructor
          · rintro ((old | ⟨rfl, grants⟩) | ⟨member, grants⟩)
            · exact .inl old
            · exact .inr ⟨List.mem_cons_self, grants⟩
            · exact .inr ⟨List.mem_cons_of_mem _ member, grants⟩
          · rintro (old | ⟨member, grants⟩)
            · exact .inl (.inl old)
            · rcases List.mem_cons.mp member with rfl | later
              · exact .inl (.inr ⟨rfl, grants⟩)
              · exact .inr ⟨later, grants⟩

theorem online_iff_grantsAll {attempt : Attempt} {manager : Manager}
    (ok : succeeds cloud deviceSecret manager.subTopics attempt = true) :
    Online manager.subTopics (reconnectMqtt cloud deviceSecret attempt manager).2.service.mqttClient ↔
      GrantsAll manager.subTopics attempt := by
  unfold succeeds at ok
  simp only [Bool.and_eq_true, decide_eq_true_eq] at ok
  obtain ⟨-, accepted, subscribed⟩ := ok
  obtain ⟨-, connected, handlers⟩ := Client.connect_of_success accepted
  have client := @connect_mqttClient cloud deviceSecret attempt manager.service
  have opened : (Connection.connectMqttClient cloud deviceSecret attempt
      (connectMqttNetwork attempt manager.service).2).2.mqttClient.isconnected = true :=
    (congrArg Client.isconnected client).trans connected
  have all := subscribed
  rw [← acknowledged_onNetwork attempt.subscribe manager.subTopics manager.service.arena.next,
    ← client] at all
  generalize final : (reconnectMqtt cloud deviceSecret attempt manager).2.service.mqttClient = later
  obtain ⟨lasts, installed⟩ := subscribeAll_session attempt.subscribe manager.subTopics true opened all
    final
  have vacant (topic : Bytes) : some topic ∉ (Connection.connectMqttClient cloud deviceSecret attempt
      (connectMqttNetwork attempt manager.service).2).2.mqttClient.messageHandlers := by
    rw [client]
    intro member
    have empty := (congrArg (some topic ∈ ·) handlers).mp member
    cases List.eq_of_mem_replicate empty
  constructor
  · rintro ⟨remains, all⟩
    refine ⟨fun topic member => ?_, lasts.mp remains⟩
    exact (((installed remains topic).mp (all topic member)).resolve_left (vacant topic)).2
  · rintro ⟨grants, calm⟩
    have remains := lasts.mpr calm
    refine ⟨remains, fun topic member => ?_⟩
    exact (installed remains topic).mpr (.inr ⟨member, grants topic member⟩)

/-! ## Runs -/

theorem reconnect_subTopics (teardown : Teardown) (attempts : Nat → Attempt) (manager : Manager) :
    (reconnect cloud deviceSecret teardown attempts manager).subTopics = manager.subTopics :=
  reconnectLoop_subTopics cloud deviceSecret attempts _ _ _

theorem mem_subTopics_step {manager next : Manager} {call : Call}
    (taken : step cloud deviceSecret manager call = some next) (topic : Bytes) :
    topic ∈ next.subTopics ↔ topic ∈ manager.subTopics ∨ call.topic? = some topic := by
  unfold step at taken
  split at taken
  · cases taken
  cases call with
  | subscribe other order exchange =>
      dsimp only at taken
      split at taken
      · rename_i arranged
        cases taken
        refine arranged.mem_iff.trans ?_
        rw [List.mem_insert_iff, Call.topic?, Option.some.injEq, or_comm, eq_comm]
      · cases taken
  | publish _ _ _ | yield _ =>
      cases taken
      simp [Call.topic?, Manager.serve]
  | reconnect teardown attempts =>
      cases taken
      simp [Call.topic?, reconnect_subTopics]

theorem mem_subTopics_run {start manager : Manager} {calls : List Call}
    (reached : run (step cloud deviceSecret) start calls = some manager) (topic : Bytes) :
    topic ∈ manager.subTopics ↔ topic ∈ start.subTopics ∨ topic ∈ passed calls := by
  induction calls generalizing start with
  | nil =>
      cases reached
      simp [passed]
  | cons call calls ih =>
      rw [run_cons] at reached
      obtain ⟨next, taken, reached⟩ := Option.bind_eq_some_iff.mp reached
      rw [ih reached, mem_subTopics_step taken, or_assoc]
      simp [passed, List.mem_filterMap]

theorem reconnect_online_iff (teardown : Teardown) (attempts : Nat → Attempt) (manager : Manager) :
    ((reconnect cloud deviceSecret teardown attempts manager).systemReset = false →
        Online manager.subTopics
          (reconnect cloud deviceSecret teardown attempts manager).service.mqttClient) ↔
      FirstSuccessGrants cloud deviceSecret manager (.reconnect teardown attempts) := by
  rw [FirstSuccessGrants]
  rcases @reconnect_cases cloud deviceSecret teardown attempts manager with
    ⟨missing, reset⟩ | ⟨attempt, failed, before, found, -, retried, returned⟩
  · rw [missing, reset]
    simp
  · have topics : before.subTopics = manager.subTopics := retried.subTopics
    have ok := List.find?_some found
    rw [found, returned]
    rw [← topics] at ok ⊢
    refine (imp_iff_right rfl).trans ((online_iff_grantsAll ok).trans ?_)
    simp

theorem run_snoc {start manager : Manager} {past : List Call} {call : Call} :
    run (step cloud deviceSecret) start (past ++ [call]) = some manager ↔
      ∃ reached, run (step cloud deviceSecret) start past = some reached ∧
        step cloud deviceSecret reached call = some manager := by
  rw [run_append, Option.bind_eq_some_iff]
  simp only [run_single]

/-- After a successful `Connect`, each `Reconnect` of a run that returns leaves the client connected and
with a message handler for all topics so far, exactly if the first try to succeed, in each of them,
has every topic granted and its session undisturbed up to the last SUBACK. -/
theorem returnsOnline_iff_firstSuccessGrants {attempt : Attempt} {start : Manager}
    (connected : connect cloud deviceSecret attempt = some start) (calls : List Call) :
    ReturnsOnline cloud deviceSecret start calls ↔
      EveryStep (step cloud deviceSecret) (FirstSuccessGrants cloud deviceSecret) start calls := by
  have known {past : List Call} {manager : Manager}
      (reached : run (step cloud deviceSecret) start past = some manager) (client : Client) :
      Online (passed past) client ↔ Online manager.subTopics client := by
    have topics := mem_subTopics_run reached
    rw [(created_of_connect connected).subTopics] at topics
    simp [Online, topics, booted]
  constructor
  · intro online past call manager next initial reached taken
    cases call with
    | publish _ _ _ | subscribe _ _ _ | yield _ => trivial
    | reconnect teardown attempts =>
        have returns := online past teardown attempts next initial
          (run_snoc.mpr ⟨manager, reached, taken⟩)
        rw [← step_reconnect taken] at returns
        refine (reconnect_online_iff teardown attempts manager).mp fun running => ?_
        exact (known reached _).mp (returns running)
  · intro steps past teardown attempts next initial reached running
    obtain ⟨manager, earlier, taken⟩ := run_snoc.mp reached
    have grants := steps past _ manager next initial earlier taken
    rw [← step_reconnect taken] at running ⊢
    exact (known earlier _).mpr ((reconnect_online_iff teardown attempts manager).mpr grants running)

-- the broker refuses the subscription after the session has ended
def refused : Attempt :=
  { answered with subscribe := fun _ => ⟨[⟨8, false⟩], [{ packetType := suback }], some 0x80⟩ }

def subscribedAndLost : List Call :=
  [.subscribe (str "t") [str "t"] (answered.subscribe []), .publish (str "t") (str "v") [⟨-1, false⟩]]

def refusedAfterReconnection : List Call :=
  subscribedAndLost ++ [.reconnect unanswered fun _ => refused]

theorem returnsOnline_iff_firstSuccessGrants_refused :
    ∃ start, connect (answering []) [] answered = some start ∧
      (ReturnsOnline (answering []) [] start refusedAfterReconnection ↔
        EveryStep (step (answering []) []) (FirstSuccessGrants (answering []) []) start
          refusedAfterReconnection) := by
  have succeeds : (connect (answering []) [] answered).isSome := by decide +kernel
  obtain ⟨start, connected⟩ := Option.isSome_iff_exists.mp succeeds
  exact ⟨start, connected, returnsOnline_iff_firstSuccessGrants connected refusedAfterReconnection⟩

theorem returnsOnline_violated : ¬ ∀ (cloud : Cloud) (deviceSecret : Bytes) (attempt : Attempt)
    (start : Manager), connect cloud deviceSecret attempt = some start → ∀ calls,
    ReturnsOnline cloud deviceSecret start calls := by
  intro always
  have final : ((connect (answering []) [] answered).bind fun start =>
      run (step (answering []) []) start refusedAfterReconnection).map
        (fun manager => (manager.systemReset,
          decide (some (str "t") ∈ manager.service.mqttClient.messageHandlers))) =
      some (false, false) := by
    decide +kernel
  obtain ⟨manager, reached, lost⟩ := Option.map_eq_some_iff.mp final
  obtain ⟨start, connected, reached⟩ := Option.bind_eq_some_iff.mp reached
  obtain ⟨running, missing⟩ := Prod.mk.inj lost
  have online := always (answering []) [] answered start connected refusedAfterReconnection
    subscribedAndLost unanswered (fun _ => refused) manager List.prefix_rfl reached running
  exact of_decide_eq_false missing (online.2 (str "t") List.mem_cons_self)

end DecadaEmbedded.DecadaManager.Reconnection
