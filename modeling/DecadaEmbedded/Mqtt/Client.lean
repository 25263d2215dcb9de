import DecadaEmbedded.Text

/-!
# `lib/MQTT/MQTTClient.h`

The client as `DecadaManager` uses it: QoS 0 publications, and clean sessions, in which no
publication is kept to be sent again. What the socket and the timers answer is an argument of each
method; the callbacks that deliver a message do not touch the client. Packet identifiers are left
out.
-/

namespace DecadaEmbedded.Mqtt

/-! ## Packets -/

def maxMqttPacketSize : Nat := 500
def maxMessageHandlers : Nat := 10

def mqttPacketLen (remLen : Nat) : Nat :=
  let remLen := remLen + 1
  if remLen < 128 then remLen + 1
  else if remLen < 16384 then remLen + 2
  else if remLen < 2097151 then remLen + 3
  else remLen + 4

def mqttPacketEncode (length : Nat) : Nat :=
  if length < 128 then 1 else mqttPacketEncode (length / 128) + 1
termination_by length
decreasing_by omega

-- the length of the serialized packet, unless the buffer is too short for it
def serialize (remLen : Nat) : Option Nat :=
  if maxMqttPacketSize < mqttPacketLen remLen then none
  else some (1 + mqttPacketEncode remLen + remLen)

structure ConnectData where
  clientId : Bytes
  username : Bytes
  password : Bytes
  keepAliveInterval : Nat
  cleansession : Bool := true

-- for version 3 of the protocol, without a will
def mqttSerializeConnectLength (options : ConnectData) : Nat :=
  12 + (options.clientId.length + 2) + (options.username.length + 2) + (options.password.length + 2)

def mqttSerializeSubscribeLength (topic : Bytes) : Nat := 2 + (2 + topic.length + 1)

def mqttSerializeUnsubscribeLength (topic : Bytes) : Nat := 2 + (2 + topic.length)

-- at QoS 0
def mqttSerializePublishLength (topic payload : Bytes) : Nat := 2 + topic.length + payload.length

/-! ## The network -/

inductive QoS where
  | qos0 | qos1 | qos2
deriving DecidableEq, Repr

structure Write where
  rc : Int
  expired : Bool := false

/-- What happens during one call of `cycle`: the result of `readPacket`, which reads from the
network first of all, the deserialized message of a publication, and the sends that may follow. -/
structure Pass where
  packetType : Int
  message : Option QoS := none
  acknowledge : List Write := []
  pingSentExpired : Bool := false
  idleExpired : Bool := false
  ping : List Write := []

/-- The answers to one request, and the code in the acknowledgement if it can be deserialized. The
timer of the request expires after the last pass. -/
structure Exchange where
  writes : List Write
  passes : List Pass
  code : Option Int

def sendPacket : List Write → (remaining : Int) → Bool
  | [], remaining => remaining = 0
  | write :: writes, remaining =>
      if remaining ≤ 0 then remaining = 0
      else if write.rc < 0 then false
      else if write.expired then remaining - write.rc = 0
      else sendPacket writes (remaining - write.rc)

/-! ## The client -/

def success : Int := 0
def failure : Int := -1

def connack : Int := 2
def publishPacket : Int := 3
def puback : Int := 4
def suback : Int := 9
def unsuback : Int := 11
def pingresp : Int := 13

-- `ipstack` is the network that the client was constructed on
structure Client where
  ipstack : Nat
  keepAliveInterval : Nat
  pingOutstanding : Bool
  cleansession : Bool
  messageHandlers : List (Option Bytes)
  isconnected : Bool
deriving DecidableEq, Repr

structure Outcome where
  client : Client
  rc : Int
  usedNetwork : Bool

namespace Client

def cleanSession (client : Client) : Client :=
  { client with messageHandlers := List.replicate maxMessageHandlers none }

def closeSession (client : Client) : Client :=
  let client := { client with pingOutstanding := false, isconnected := false }
  if client.cleansession then client.cleanSession else client

-- the constructor; `connect` sets the keep-alive interval
def new (ipstack : Nat) : Client :=
  closeSession
    { ipstack, keepAliveInterval := 0, pingOutstanding := false, cleansession := true
      messageHandlers := [], isconnected := false }

def setMessageHandler (client : Client) (topicFilter : Bytes) (attach : Bool) : Client × Int :=
  match client.messageHandlers.findIdx? (· = some topicFilter) with
  | some i =>
      if attach then (client, success)
      else ({ client with messageHandlers := client.messageHandlers.set i none }, success)
  | none =>
      if attach then
        match client.messageHandlers.findIdx? (· = none) with
        | some i =>
            ({ client with messageHandlers := client.messageHandlers.set i (some topicFilter) }, success)
        | none => (client, failure)
      else (client, failure)

def keepalive (client : Client) (pass : Pass) : Client × Int :=
  if client.keepAliveInterval = 0 then (client, success)
  else if client.pingOutstanding then (client, if pass.pingSentExpired then failure else success)
  else if pass.idleExpired then
    if sendPacket pass.ping 2 then ({ client with pingOutstanding := true }, success)
    else (client, failure)
  else (client, success)

def failCycle (client : Client) (rc : Int) : Client × Int :=
  (if client.isconnected then client.closeSession else client, rc)

def endCycle (client : Client) (pass : Pass) : Client × Int :=
  match client.keepalive pass with
  | (client, rc) => if rc = success then (client, pass.packetType) else client.failCycle failure

def cycle (client : Client) (pass : Pass) : Client × Int :=
  let packetType := pass.packetType
  if packetType = 0 ∨ packetType = connack ∨ packetType = puback ∨ packetType = suback then
    client.endCycle pass
  else if packetType = publishPacket then
    match pass.message with
    | none => (client, packetType)
    | some .qos0 => client.endCycle pass
    | some _ =>
        if sendPacket pass.acknowledge 4 then client.endCycle pass else client.failCycle failure
  else if packetType = pingresp then ({ client with pingOutstanding := false }).endCycle pass
  else client.failCycle packetType

-- `rc` is that of the pass before; the timer expires after the last pass
def waitfor (packetType : Int) (client : Client) (rc : Int) : List Pass → Client × Int
  | [] => (client, rc)
  | pass :: passes =>
      match client.cycle pass with
      | (client, rc) =>
          if rc ≠ packetType ∧ 0 ≤ rc then waitfor packetType client rc passes else (client, rc)

def connect (client : Client) (options : ConnectData) (exchange : Exchange) : Outcome :=
  if client.isconnected then ⟨client, failure, false⟩
  else
    let client :=
      { client with keepAliveInterval := options.keepAliveInterval, cleansession := options.cleansession }
    match serialize (mqttSerializeConnectLength options) with
    | none => ⟨client, failure, false⟩
    | some length =>
        if sendPacket exchange.writes length then
          match waitfor connack client failure exchange.passes with
          | (client, received) =>
              let rc := if received = connack then exchange.code.getD failure else failure
              if rc = success then
                ⟨{ client with isconnected := true, pingOutstanding := false }, rc, true⟩
              else ⟨client, rc, true⟩
        else ⟨client, failure, true⟩

-- A granted QoS of 0x80 is a refusal, which leaves the result of the send
def subscribe (client : Client) (topicFilter : Bytes) (exchange : Exchange) : Outcome :=
  if ¬ client.isconnected then ⟨client.closeSession, failure, false⟩
  else
    match serialize (mqttSerializeSubscribeLength topicFilter) with
    | none => ⟨client.closeSession, failure, false⟩
    | some length =>
        if sendPacket exchange.writes length then
          match waitfor suback client failure exchange.passes with
          | (client, received) =>
              if received = suback then
                match exchange.code with
                | none => ⟨client, success, true⟩
                | some grantedQoS =>
                    if grantedQoS = 0x80 then ⟨client, success, true⟩
                    else
                      match client.setMessageHandler topicFilter true with
                      | (client, rc) =>
                          ⟨if rc = failure then client.closeSession else client, rc, true⟩
              else ⟨client.closeSession, failure, true⟩
        else ⟨client.closeSession, failure, true⟩

-- an acknowledgement of it closes the session, since `cycle` does not expect that type
def unsubscribe (client : Client) (topicFilter : Bytes) (exchange : Exchange) : Outcome :=
  if ¬ client.isconnected then ⟨client.closeSession, failure, false⟩
  else
    match serialize (mqttSerializeUnsubscribeLength topicFilter) with
    | none => ⟨client.closeSession, failure, false⟩
    | some length =>
        if sendPacket exchange.writes length then
          match waitfor unsuback client failure exchange.passes with
          | (client, received) =>
              if received = unsuback then
                ⟨if exchange.code.isSome then (client.setMessageHandler topicFilter false).1 else client,
                  success, true⟩
              else ⟨client.closeSession, failure, true⟩
        else ⟨client.closeSession, failure, true⟩

def publish (client : Client) (topicName payload : Bytes) (writes : List Write) : Outcome :=
  if ¬ client.isconnected then ⟨client, failure, false⟩
  else
    match serialize (mqttSerializePublishLength topicName payload) with
    | none => ⟨client, failure, false⟩
    | some length =>
        if sendPacket writes length then ⟨client, success, true⟩
        else ⟨client.closeSession, failure, true⟩

def disconnect (client : Client) (writes : List Write) : Outcome :=
  ⟨client.closeSession, if sendPacket writes 2 then success else failure, true⟩

def yield (client : Client) : List Pass → Outcome
  | [] => ⟨client, success, false⟩
  | pass :: passes =>
      match client.cycle pass with
      | (client, rc) =>
          if rc < 0 then ⟨client, failure, true⟩
          else { client.yield passes with usedNetwork := true }

/-! ## A client keeps its network -/

@[simp] theorem closeSession_ipstack (client : Client) : client.closeSession.ipstack = client.ipstack := by
  unfold closeSession cleanSession
  dsimp only
  split_ifs <;> rfl

@[simp] theorem closeSession_isconnected (client : Client) :
    client.closeSession.isconnected = false := by
  unfold closeSession cleanSession
  dsimp only
  split_ifs <;> rfl

@[simp] theorem new_ipstack (ipstack : Nat) : (new ipstack).ipstack = ipstack := closeSession_ipstack _

theorem setMessageHandler_client (client : Client) (topicFilter : Bytes) (attach : Bool) :
    ∃ messageHandlers,
      (client.setMessageHandler topicFilter attach).1 = { client with messageHandlers } := by
  unfold setMessageHandler
  split
  · split <;> exact ⟨_, rfl⟩
  · split
    · split <;> exact ⟨_, rfl⟩
    · exact ⟨_, rfl⟩

@[simp] theorem setMessageHandler_ipstack (client : Client) (topicFilter : Bytes) (attach : Bool) :
    (client.setMessageHandler topicFilter attach).1.ipstack = client.ipstack := by
  obtain ⟨messageHandlers, same⟩ := client.setMessageHandler_client topicFilter attach
  rw [same]

@[simp] theorem setMessageHandler_isconnected (client : Client) (topicFilter : Bytes) (attach : Bool) :
    (client.setMessageHandler topicFilter attach).1.isconnected = client.isconnected := by
  obtain ⟨messageHandlers, same⟩ := client.setMessageHandler_client topicFilter attach
  rw [same]

theorem keepalive_ipstack (client : Client) (pass : Pass) :
    (client.keepalive pass).1.ipstack = client.ipstack := by
  unfold keepalive
  split_ifs <;> rfl

@[simp] theorem failCycle_ipstack (client : Client) (rc : Int) :
    (client.failCycle rc).1.ipstack = client.ipstack := by
  unfold failCycle
  split_ifs
  · exact closeSession_ipstack client
  · rfl

@[simp] theorem endCycle_ipstack (client : Client) (pass : Pass) :
    (client.endCycle pass).1.ipstack = client.ipstack := by
  have kept := keepalive_ipstack client pass
  unfold endCycle
  dsimp only
  split_ifs
  · exact kept
  · rw [failCycle_ipstack, kept]

theorem cycle_ipstack (client : Client) (pass : Pass) :
    (client.cycle pass).1.ipstack = client.ipstack := by
  unfold cycle
  dsimp only
  split
  · exact endCycle_ipstack client pass
  split
  · cases pass.message with
    | none => rfl
    | some qos =>
        cases qos with
        | qos0 => exact endCycle_ipstack client pass
        | qos1 | qos2 =>
            dsimp only
            split
            · exact endCycle_ipstack client pass
            · exact failCycle_ipstack client failure
  split
  · exact endCycle_ipstack _ pass
  · exact failCycle_ipstack client _

@[simp] theorem waitfor_ipstack (packetType : Int) (client : Client) (rc : Int) (passes : List Pass) :
    (waitfor packetType client rc passes).1.ipstack = client.ipstack := by
  induction passes generalizing client rc with
  | nil => rfl
  | cons pass passes ih =>
      have kept := cycle_ipstack client pass
      unfold waitfor
      dsimp only
      split_ifs
      · rw [ih, kept]
      · exact kept

def KeepsNetwork (method : Client → Outcome) : Prop :=
  ∀ client, (method client).client.ipstack = client.ipstack

theorem connect_keepsNetwork (options : ConnectData) (exchange : Exchange) :
    KeepsNetwork (·.connect options exchange) := by
  intro client
  show (client.connect options exchange).client.ipstack = client.ipstack
  unfold connect
  split
  · rfl
  cases serialize (mqttSerializeConnectLength options) with
  | none => rfl
  | some length =>
      dsimp only
      split_ifs <;> simp

theorem subscribe_keepsNetwork (topicFilter : Bytes) (exchange : Exchange) :
    KeepsNetwork (·.subscribe topicFilter exchange) := by
  intro client
  show (client.subscribe topicFilter exchange).client.ipstack = client.ipstack
  unfold subscribe
  split
  · exact closeSession_ipstack client
  cases serialize (mqttSerializeSubscribeLength topicFilter) with
  | none => exact closeSession_ipstack client
  | some length =>
      cases exchange.code <;> dsimp only <;> split_ifs <;> simp

theorem publish_keepsNetwork (topicName payload : Bytes) (writes : List Write) :
    KeepsNetwork (·.publish topicName payload writes) := by
  intro client
  show (client.publish topicName payload writes).client.ipstack = client.ipstack
  unfold publish
  split
  · rfl
  cases serialize (mqttSerializePublishLength topicName payload) with
  | none => rfl
  | some length =>
      dsimp only
      split_ifs
      · rfl
      · exact closeSession_ipstack client

theorem yield_keepsNetwork (passes : List Pass) : KeepsNetwork (·.yield passes) := by
  intro client
  induction passes generalizing client with
  | nil => rfl
  | cons pass passes ih =>
      have kept := cycle_ipstack client pass
      unfold yield
      dsimp only
      split_ifs
      · exact kept
      · exact (ih _).trans kept

/-! ## When `unsubscribe` uses the network -/

theorem unsubscribe_usedNetwork (client : Client) (topicFilter : Bytes) (exchange : Exchange) :
    (client.unsubscribe topicFilter exchange).usedNetwork =
      (client.isconnected && (serialize (mqttSerializeUnsubscribeLength topicFilter)).isSome) := by
  unfold unsubscribe
  cases client.isconnected with
  | false => rfl
  | true =>
      simp only [not_true_eq_false, ↓reduceIte, Bool.true_and]
      cases serialize (mqttSerializeUnsubscribeLength topicFilter) with
      | none => rfl
      | some length =>
          dsimp only
          split_ifs <;> rfl

theorem unsubscribe_isconnected {client : Client} {topicFilter : Bytes} {exchange : Exchange}
    (unused : (client.unsubscribe topicFilter exchange).usedNetwork = false) :
    (client.unsubscribe topicFilter exchange).client.isconnected = false := by
  rw [unsubscribe_usedNetwork] at unused
  unfold unsubscribe
  cases connected : client.isconnected with
  | false => simp
  | true =>
      rw [connected, Bool.true_and] at unused
      rw [Option.isSome_eq_false_iff, Option.isNone_iff_eq_none] at unused
      simp [unused]

end Client

end DecadaEmbedded.Mqtt
