import DecadaEmbedded.Mqtt.Client

/-!
# The session of the client in `lib/MQTT/MQTTClient.h`

What a client does depends on the answers to it and not on which network it has. While it waits
for a SUBACK, a packet of a type that `cycle` does not expect closes the session, but does not end
the wait.
-/

namespace DecadaEmbedded.Mqtt

def expectedPackets : List Int := [0, connack, publishPacket, puback, suback, pingresp]

/-- No packet before the first SUBACK closes the session. -/
def Undisturbed (passes : List Pass) : Prop :=
  ∀ pass ∈ passes.takeWhile (·.packetType ≠ suback), pass.packetType ∈ expectedPackets

-- the SUBACK can be deserialized and does not refuse
def Grants (exchange : Exchange) : Prop := exchange.code ≠ none ∧ exchange.code ≠ some 0x80

namespace Client

/-! ## The same client on another network -/

def onNetwork (ipstack : Nat) (client : Client) : Client := { client with ipstack }

theorem closeSession_onNetwork (ipstack : Nat) (client : Client) :
    (client.onNetwork ipstack).closeSession = client.closeSession.onNetwork ipstack := by
  rcases client with ⟨old, interval, outstanding, cleansession, messageHandlers, connected⟩
  cases cleansession <;> rfl

theorem setMessageHandler_onNetwork (ipstack : Nat) (client : Client) (topicFilter : Bytes)
    (attach : Bool) :
    (client.onNetwork ipstack).setMessageHandler topicFilter attach =
      Prod.map (onNetwork ipstack) id (client.setMessageHandler topicFilter attach) := by
  rcases client with ⟨old, interval, outstanding, cleansession, messageHandlers, connected⟩
  simp only [onNetwork, setMessageHandler]
  split
  · split_ifs <;> rfl
  · split_ifs
    · split <;> rfl
    · rfl

theorem keepalive_onNetwork (ipstack : Nat) (client : Client) (pass : Pass) :
    (client.onNetwork ipstack).keepalive pass =
      Prod.map (onNetwork ipstack) id (client.keepalive pass) := by
  have interval : (client.onNetwork ipstack).keepAliveInterval = client.keepAliveInterval := rfl
  have outstanding : (client.onNetwork ipstack).pingOutstanding = client.pingOutstanding := rfl
  unfold keepalive
  rw [interval, outstanding]
  split_ifs <;> rfl

theorem failCycle_onNetwork (ipstack : Nat) (client : Client) (rc : Int) :
    (client.onNetwork ipstack).failCycle rc = Prod.map (onNetwork ipstack) id (client.failCycle rc) := by
  unfold failCycle
  rw [closeSession_onNetwork]
  cases connected : client.isconnected <;> simp [onNetwork, connected]

theorem endCycle_onNetwork (ipstack : Nat) (client : Client) (pass : Pass) :
    (client.onNetwork ipstack).endCycle pass =
      Prod.map (onNetwork ipstack) id (client.endCycle pass) := by
  unfold endCycle
  rw [keepalive_onNetwork]
  dsimp only [Prod.map, id]
  split_ifs
  · rfl
  · exact failCycle_onNetwork ipstack _ failure

theorem cycle_onNetwork (ipstack : Nat) (client : Client) (pass : Pass) :
    (client.onNetwork ipstack).cycle pass = Prod.map (onNetwork ipstack) id (client.cycle pass) := by
  have answered : { client.onNetwork ipstack with pingOutstanding := false } =
      { client with pingOutstanding := false }.onNetwork ipstack := rfl
  unfold cycle
  dsimp only
  rw [answered, endCycle_onNetwork, endCycle_onNetwork, failCycle_onNetwork, failCycle_onNetwork]
  split
  · rfl
  split
  · cases pass.message with
    | none => rfl
    | some qos =>
        cases qos with
        | qos0 => rfl
        | qos1 | qos2 =>
            dsimp only
            split <;> rfl
  split <;> rfl

theorem waitfor_onNetwork (ipstack : Nat) (packetType : Int) (client : Client) (rc : Int)
    (passes : List Pass) :
    waitfor packetType (client.onNetwork ipstack) rc passes =
      Prod.map (onNetwork ipstack) id (waitfor packetType client rc passes) := by
  induction passes generalizing client rc with
  | nil => rfl
  | cons pass passes ih =>
      unfold waitfor
      rw [cycle_onNetwork]
      dsimp only [Prod.map, id]
      split_ifs
      · exact ih _ _
      · rfl

end Client

def Outcome.onNetwork (ipstack : Nat) (outcome : Outcome) : Outcome :=
  { outcome with client := outcome.client.onNetwork ipstack }

namespace Client

theorem connect_onNetwork (ipstack : Nat) (client : Client) (options : ConnectData)
    (exchange : Exchange) :
    (client.onNetwork ipstack).connect options exchange =
      (client.connect options exchange).onNetwork ipstack := by
  have waited (interval : Nat) (cleansession : Bool) := waitfor_onNetwork ipstack connack
    { client with keepAliveInterval := interval, cleansession } failure exchange.passes
  rcases client with ⟨old, interval, outstanding, cleansession, messageHandlers, connected⟩
  simp only [onNetwork] at waited
  cases connected with
  | true => rfl
  | false =>
      simp only [onNetwork, connect, waited]
      cases serialize (mqttSerializeConnectLength options) with
      | none => rfl
      | some length =>
          dsimp only [Prod.map, id]
          split_ifs <;> rfl

theorem subscribe_onNetwork (ipstack : Nat) (client : Client) (topicFilter : Bytes)
    (exchange : Exchange) :
    (client.onNetwork ipstack).subscribe topicFilter exchange =
      (client.subscribe topicFilter exchange).onNetwork ipstack := by
  unfold subscribe
  rw [closeSession_onNetwork, waitfor_onNetwork]
  have same : (client.onNetwork ipstack).isconnected = client.isconnected := rfl
  rw [same]
  split_ifs
  · cases serialize (mqttSerializeSubscribeLength topicFilter) with
    | none => rfl
    | some length =>
        dsimp only [Prod.map, id]
        rw [closeSession_onNetwork, setMessageHandler_onNetwork]
        cases exchange.code with
        | none => split_ifs <;> rfl
        | some grantedQoS =>
            dsimp only [Prod.map, id]
            rw [closeSession_onNetwork]
            split_ifs <;> rfl
  · rfl

/-! ## Waiting for an acknowledgement -/

def Steady (client later : Client) : Prop :=
  ∃ pingOutstanding, later = { client with pingOutstanding }

theorem Steady.trans {first second third : Client} (early : first.Steady second)
    (late : second.Steady third) : first.Steady third := by
  obtain ⟨_, rfl⟩ := early
  obtain ⟨outstanding, rfl⟩ := late
  exact ⟨outstanding, rfl⟩

theorem Steady.isconnected {client later : Client} (steady : client.Steady later) :
    later.isconnected = client.isconnected := by
  obtain ⟨_, rfl⟩ := steady
  rfl

theorem Steady.messageHandlers {client later : Client} (steady : client.Steady later) :
    later.messageHandlers = client.messageHandlers := by
  obtain ⟨_, rfl⟩ := steady
  rfl

theorem keepalive_steady (client : Client) (pass : Pass) : client.Steady (client.keepalive pass).1 := by
  unfold keepalive
  split_ifs <;> exact ⟨_, rfl⟩

theorem failCycle_isconnected (client : Client) (rc : Int) :
    (client.failCycle rc).1.isconnected = false := by
  unfold failCycle
  split_ifs with connected
  · exact closeSession_isconnected client
  · exact Bool.eq_false_iff.mpr connected

theorem failCycle_of_disconnected {client : Client} (disconnected : client.isconnected = false)
    (rc : Int) : client.failCycle rc = (client, rc) := by
  simp [failCycle, disconnected]

inductive Turn (client : Client) (pass : Pass) : Client × Int → Prop
  | steady {later : Client} (expected : pass.packetType ∈ expectedPackets)
      (same : client.Steady later) : Turn client pass (later, pass.packetType)
  | unexpected (other : pass.packetType ∉ expectedPackets) :
      Turn client pass (client.failCycle pass.packetType)
  | failed {later : Client} {rc : Int} (negative : rc < 0)
      (quiet : client.isconnected = false → client.Steady later) : Turn client pass (later, rc)

theorem Turn.failCycle {client other : Client} (same : client.Steady other) (pass : Pass) :
    Turn client pass (other.failCycle failure) := by
  apply @Turn.failed client pass (other.failCycle failure).1 failure (by decide)
  intro disconnected
  rw [failCycle_of_disconnected (same.isconnected.trans disconnected)]
  exact same

theorem Turn.endCycle {client other : Client} (same : client.Steady other) {pass : Pass}
    (expected : pass.packetType ∈ expectedPackets) : Turn client pass (other.endCycle pass) := by
  have steady := same.trans (keepalive_steady other pass)
  unfold Client.endCycle
  dsimp only
  split_ifs
  · exact .steady expected steady
  · exact .failCycle steady pass

theorem turn_cycle (client : Client) (pass : Pass) : Turn client pass (client.cycle pass) := by
  have same : client.Steady client := ⟨_, rfl⟩
  have expected (type : Int) (known : type ∈ expectedPackets) (is : pass.packetType = type) :
      pass.packetType ∈ expectedPackets := is ▸ known
  unfold cycle
  dsimp only
  by_cases plain : pass.packetType = 0 ∨ pass.packetType = connack ∨ pass.packetType = puback ∨
      pass.packetType = suback
  · rw [if_pos plain]
    rcases plain with is | is | is | is <;> exact .endCycle same (expected _ (by decide) is)
  by_cases publication : pass.packetType = publishPacket
  · rw [if_neg plain, if_pos publication]
    have expected := expected _ (by decide) publication
    cases pass.message with
    | none => exact .steady expected same
    | some qos =>
        cases qos with
        | qos0 => exact .endCycle same expected
        | qos1 | qos2 =>
            dsimp only
            split
            · exact .endCycle same expected
            · exact .failCycle same pass
  by_cases ping : pass.packetType = pingresp
  · rw [if_neg plain, if_neg publication, if_pos ping]
    exact .endCycle ⟨false, rfl⟩ (expected _ (by decide) ping)
  · rw [if_neg plain, if_neg publication, if_neg ping]
    refine .unexpected fun known => ?_
    simp only [expectedPackets, List.mem_cons, List.not_mem_nil] at known
    grind

theorem cycle_of_disconnected {client : Client} (disconnected : client.isconnected = false)
    (pass : Pass) : client.Steady (client.cycle pass).1 := by
  have turn := turn_cycle client pass
  generalize client.cycle pass = result at turn ⊢
  cases turn with
  | steady expected same => exact same
  | unexpected other =>
      rw [failCycle_of_disconnected disconnected]
      exact ⟨_, rfl⟩
  | failed negative quiet => exact quiet disconnected

theorem waitfor_of_disconnected (packetType : Int) {client : Client}
    (disconnected : client.isconnected = false) (rc : Int) (passes : List Pass) :
    client.Steady (waitfor packetType client rc passes).1 := by
  induction passes generalizing client rc with
  | nil => exact ⟨_, rfl⟩
  | cons pass passes ih =>
      have steady := cycle_of_disconnected disconnected pass
      unfold waitfor
      dsimp only
      split_ifs
      · exact steady.trans (ih (steady.isconnected.trans disconnected) _)
      · exact steady

theorem undisturbed_cons (pass : Pass) (passes : List Pass) :
    Undisturbed (pass :: passes) ↔
      pass.packetType = suback ∨ pass.packetType ∈ expectedPackets ∧ Undisturbed passes := by
  unfold Undisturbed
  by_cases last : pass.packetType = suback <;> simp [last]

theorem waitfor_suback {client : Client} {rc : Int} {passes : List Pass} (fresh : rc ≠ suback)
    (acknowledged : (waitfor suback client rc passes).2 = suback) :
    (Undisturbed passes → client.Steady (waitfor suback client rc passes).1) ∧
      (¬ Undisturbed passes → (waitfor suback client rc passes).1.isconnected = false) := by
  induction passes generalizing client rc with
  | nil => exact absurd acknowledged fresh
  | cons pass passes ih =>
      have turn := turn_cycle client pass
      unfold waitfor at acknowledged ⊢
      rw [undisturbed_cons]
      generalize client.cycle pass = result at turn acknowledged ⊢
      cases turn with
      | @steady later expected same =>
          dsimp only at acknowledged ⊢
          split_ifs at acknowledged ⊢ with goesOn
          · obtain ⟨kept, closed⟩ := ih goesOn.1 acknowledged
            refine ⟨fun calm => ?_, fun disturbed => ?_⟩
            · rcases calm with last | ⟨-, rest⟩
              · exact absurd last goesOn.1
              · exact same.trans (kept rest)
            · exact closed fun rest => disturbed (.inr ⟨expected, rest⟩)
          · exact ⟨fun _ => same, fun disturbed => absurd (.inl acknowledged) disturbed⟩
      | unexpected other =>
          have closed := failCycle_isconnected client pass.packetType
          have disturbed : ¬ (pass.packetType = suback ∨
              pass.packetType ∈ expectedPackets ∧ Undisturbed passes) := by
            rintro (last | ⟨expected, -⟩)
            · exact other (last ▸ by decide)
            · exact other expected
          refine ⟨fun calm => absurd calm disturbed, fun _ => ?_⟩
          dsimp only
          split_ifs
          · exact (waitfor_of_disconnected suback closed _ passes).isconnected.trans closed
          · exact closed
      | @failed later rc negative quiet =>
          have ended : ¬ (rc ≠ suback ∧ 0 ≤ rc) := by omega
          dsimp only at acknowledged
          rw [if_neg ended] at acknowledged
          subst acknowledged
          exact absurd negative (by decide)

/-! ## Connecting and subscribing -/

theorem connect_of_success {client : Client} {options : ConnectData} {exchange : Exchange}
    (ok : (client.connect options exchange).rc = success) :
    client.isconnected = false ∧ (client.connect options exchange).client.isconnected = true ∧
      (client.connect options exchange).client.messageHandlers = client.messageHandlers := by
  rcases client with ⟨ipstack, interval, outstanding, cleansession, messageHandlers, connected⟩
  cases connected with
  | true => exact absurd ok (by decide : failure ≠ success)
  | false =>
      have waited := @waitfor_of_disconnected connack
        ⟨ipstack, options.keepAliveInterval, outstanding, options.cleansession, messageHandlers, false⟩
        rfl failure exchange.passes
      unfold connect at ok ⊢
      simp only [Bool.false_eq_true, ↓reduceIte] at ok ⊢
      generalize waitfor connack _ failure exchange.passes = result at waited ok ⊢
      cases fits : serialize (mqttSerializeConnectLength options) with
      | none =>
          rw [fits] at ok
          exact absurd ok (by decide : failure ≠ success)
      | some length =>
          rw [fits] at ok
          dsimp only at ok ⊢
          by_cases sent : sendPacket exchange.writes length = true
          · rw [if_pos sent] at ok ⊢
            split_ifs at ok ⊢ with received accepted accepted
            · exact ⟨trivial, rfl, waited.messageHandlers⟩
            · exact absurd ok accepted
            · exact ⟨trivial, rfl, waited.messageHandlers⟩
            · exact absurd ok accepted
          · rw [if_neg sent] at ok
            exact absurd ok (by decide : failure ≠ success)

theorem some_mem_set_iff {handlers : List (Option Bytes)} {slot : Nat}
    (free : handlers.findIdx? (· = none) = some slot) (topicFilter topic : Bytes) :
    some topic ∈ handlers.set slot (some topicFilter) ↔
      some topic ∈ handlers ∨ topic = topicFilter := by
  obtain ⟨inside, empty, -⟩ := List.findIdx?_eq_some_iff_getElem.mp free
  rw [decide_eq_true_eq] at empty
  constructor
  · intro member
    rcases List.mem_or_eq_of_mem_set member with old | new
    · exact .inl old
    · exact .inr (Option.some.inj new)
  · rintro (old | rfl)
    · obtain ⟨i, bound, here⟩ := List.mem_iff_getElem.mp old
      have other : slot ≠ i := by
        rintro rfl
        simp [empty] at here
      refine List.mem_iff_getElem.mpr ⟨i, by simpa using bound, ?_⟩
      rw [List.getElem_set_ne other, here]
    · exact List.mem_set inside (some topic)

theorem setMessageHandler_attach {client : Client} {topicFilter : Bytes}
    (ok : (client.setMessageHandler topicFilter true).2 = success) (topic : Bytes) :
    some topic ∈ (client.setMessageHandler topicFilter true).1.messageHandlers ↔
      some topic ∈ client.messageHandlers ∨ topic = topicFilter := by
  unfold setMessageHandler at ok ⊢
  cases found : client.messageHandlers.findIdx? (· = some topicFilter) with
  | some slot =>
      obtain ⟨inside, here, -⟩ := List.findIdx?_eq_some_iff_getElem.mp found
      rw [decide_eq_true_eq] at here
      have member : some topicFilter ∈ client.messageHandlers := here ▸ List.getElem_mem inside
      constructor
      · exact .inl
      · rintro (old | rfl)
        · exact old
        · exact member
  | none =>
      cases free : client.messageHandlers.findIdx? (· = none) with
      | some slot => exact some_mem_set_iff free topicFilter topic
      | none =>
          simp only [found, free] at ok
          exact absurd ok (by decide : failure ≠ success)

/-- What a subscription that is reported as a success leaves behind. -/
structure Subscribed (client later : Client) (topicFilter : Bytes) (exchange : Exchange) : Prop where
  before : client.isconnected = true
  after : later.isconnected = true ↔ Undisturbed exchange.passes
  handlers : later.isconnected = true → ∀ topic, some topic ∈ later.messageHandlers ↔
    some topic ∈ client.messageHandlers ∨ topic = topicFilter ∧ Grants exchange

theorem subscribed_of_success {client : Client} {topicFilter : Bytes} {exchange : Exchange}
    (ok : (client.subscribe topicFilter exchange).rc = success) :
    Subscribed client (client.subscribe topicFilter exchange).client topicFilter exchange := by
  have failed : failure ≠ success := by decide
  unfold subscribe at ok ⊢
  by_cases connected : client.isconnected
  · simp only [connected, not_true_eq_false, ↓reduceIte] at ok ⊢
    cases fits : serialize (mqttSerializeSubscribeLength topicFilter) with
    | none =>
        rw [fits] at ok
        exact absurd ok failed
    | some length =>
        rw [fits] at ok
        dsimp only at ok ⊢
        by_cases sent : sendPacket exchange.writes length = true
        · rw [if_pos sent] at ok ⊢
          by_cases received : (waitfor suback client failure exchange.passes).2 = suback
          · rw [if_pos received] at ok ⊢
            have waited := waitfor_suback (by decide) received
            generalize (waitfor suback client failure exchange.passes).1 = later at waited ok ⊢
            have after : later.isconnected = true ↔ Undisturbed exchange.passes := by
              constructor
              · intro remains
                by_contra disturbed
                exact absurd remains (by simp [waited.2 disturbed])
              · intro calm
                exact (waited.1 calm).isconnected.trans connected
            have refused (refusal : ¬ Grants exchange) :
                Subscribed client later topicFilter exchange := by
              refine ⟨connected, after, fun remains topic => ?_⟩
              rw [(waited.1 (after.mp remains)).messageHandlers]
              exact ⟨.inl, fun member => member.resolve_right fun new => refusal new.2⟩
            cases code : exchange.code with
            | none => exact refused fun grants => grants.1 code
            | some grantedQoS =>
                rw [code] at ok
                dsimp only at ok ⊢
                by_cases refusal : grantedQoS = 0x80
                · rw [if_pos refusal]
                  exact refused fun grants => grants.2 (refusal ▸ code)
                · rw [if_neg refusal] at ok ⊢
                  have grants : Grants exchange := by simp [Grants, code, refusal]
                  have attached := setMessageHandler_attach ok
                  dsimp only at ok ⊢
                  rw [if_neg (ok ▸ failed.symm)]
                  refine ⟨connected, (by rw [setMessageHandler_isconnected, after]), ?_⟩
                  intro remains topic
                  rw [setMessageHandler_isconnected] at remains
                  rw [attached, (waited.1 (after.mp remains)).messageHandlers, and_iff_left grants]
          · rw [if_neg received] at ok
            exact absurd ok failed
        · rw [if_neg sent] at ok
          exact absurd ok failed
  · rw [if_pos connected] at ok
    exact absurd ok failed

end Client

end DecadaEmbedded.Mqtt
