import DecadaEmbedded.Mqtt.Subscriptions

/-!
# What the client sends

The client counts bytes, and keeps no packet. Its lengths are those of the packets that are serialized
into `sendbuf` for the strings that it is given.
-/

namespace DecadaEmbedded.Mqtt
open Library

/-- The characters of a string, with no zero among them. -/
def Text (string : Bytes) : Prop := cstr string = string

def cstring (string : Bytes) : MqttString := { cstring := some string }

-- the fields that `connect` is given, in `MQTTPacket_connectData_initializer`
def ConnectData.packetData (options : ConnectData) : ConnectOptions where
  mqttVersion := 3
  clientID := cstring options.clientId
  keepAliveInterval := options.keepAliveInterval
  cleansession := options.cleansession.toNat
  username := cstring options.username
  password := cstring options.password

theorem text_cstring {string : Bytes} (text : Text string) : (cstring string).text = string := text

theorem mqttStrlen_cstring (string : Bytes) : mqttStrlen (cstring string) = (cstring string).text.length := rfl

theorem length_writePacket {header : UInt8} {remLen : Nat} {body : Bytes} (whole : body.length = remLen) :
    (writePacket maxMqttPacketSize header remLen body).map List.length = serialize remLen := by
  unfold writePacket serialize
  split_ifs
  · rfl
  · rw [Option.map_some, List.length_append, List.length_cons, length_varint, whole, Nat.add_comm (mqttPacketEncode _) 1]

theorem length_serializeConnect {options : ConnectData} (clientId : Text options.clientId)
    (username : Text options.username) (password : Text options.password) :
    (mqttSerializeConnect maxMqttPacketSize options.packetData).map List.length =
      serialize (mqttSerializeConnectLength options) := by
  have length : mqttSerializeConnectRemLen options.packetData = mqttSerializeConnectLength options := by
    unfold mqttSerializeConnectRemLen mqttSerializeConnectLength ConnectData.packetData
    simp only [mqttStrlen_cstring, text_cstring clientId, text_cstring username, text_cstring password]
    rfl
  rw [← length]
  refine length_writePacket (length_connectBody (.inl rfl) ?_)
  simp only [List.forall_mem_cons, List.not_mem_nil, false_imp_iff, implies_true, and_true]
  exact ⟨rfl, rfl, rfl, rfl, rfl⟩

theorem length_serializeSubscribe {topicFilter : Bytes} (text : Text topicFilter) (packetid qos : Nat) :
    (mqttSerializeSubscribe maxMqttPacketSize 0 packetid [(cstring topicFilter, qos)]).map List.length =
      serialize (mqttSerializeSubscribeLength topicFilter) := by
  have length : requestRemLen [⟨cstring topicFilter, [UInt8.ofNat qos]⟩] = mqttSerializeSubscribeLength topicFilter := by
    simp [requestRemLen, mqttSerializeSubscribeLength, mqttStrlen_cstring, text_cstring text]
  rw [← length]
  exact length_writePacket (length_requestBody _ (List.forall_mem_singleton.mpr rfl))

theorem length_serializeUnsubscribe {topicFilter : Bytes} (text : Text topicFilter) (packetid : Nat) :
    (mqttSerializeUnsubscribe maxMqttPacketSize 0 packetid [cstring topicFilter]).map List.length =
      serialize (mqttSerializeUnsubscribeLength topicFilter) := by
  have length : requestRemLen [⟨cstring topicFilter, []⟩] = mqttSerializeUnsubscribeLength topicFilter := by
    simp [requestRemLen, mqttSerializeUnsubscribeLength, mqttStrlen_cstring, text_cstring text]
  rw [← length]
  exact length_writePacket (length_requestBody _ (List.forall_mem_singleton.mpr rfl))

theorem length_serializePublish {topicName : Bytes} (text : Text topicName) (payload : Bytes) (packetid : Nat) :
    (mqttSerializePublish maxMqttPacketSize 0 0 0 packetid (cstring topicName) payload).map List.length =
      serialize (mqttSerializePublishLength topicName payload) := by
  have length : mqttSerializePublishRemLen 0 (cstring topicName) payload.length =
      mqttSerializePublishLength topicName payload := by
    simp [mqttSerializePublishRemLen, mqttSerializePublishLength, mqttStrlen_cstring, text_cstring text]
  rw [← length]
  refine length_writePacket ?_
  rw [writeMqttString_eq, mqttSerializePublishRemLen, mqttStrlen_cstring]
  simp [Nat.add_assoc]

/-- The lengths that the client computes, and the requests that it gives up, are those of the packets. -/
theorem length_serialize {options : ConnectData} {topic : Bytes}
    (login : Text options.clientId ∧ Text options.username ∧ Text options.password) (text : Text topic)
    (payload : Bytes) (packetid qos : Nat) :
    (mqttSerializeConnect maxMqttPacketSize options.packetData).map List.length =
        serialize (mqttSerializeConnectLength options) ∧
      (mqttSerializeSubscribe maxMqttPacketSize 0 packetid [(cstring topic, qos)]).map List.length =
        serialize (mqttSerializeSubscribeLength topic) ∧
      (mqttSerializeUnsubscribe maxMqttPacketSize 0 packetid [cstring topic]).map List.length =
        serialize (mqttSerializeUnsubscribeLength topic) ∧
      (mqttSerializePublish maxMqttPacketSize 0 0 0 packetid (cstring topic) payload).map List.length =
        serialize (mqttSerializePublishLength topic payload) := by
  obtain ⟨clientId, username, password⟩ := login
  exact ⟨length_serializeConnect clientId username password, length_serializeSubscribe text packetid qos,
    length_serializeUnsubscribe text packetid, length_serializePublish text payload packetid⟩

theorem length_serialize_login :
    (mqttSerializeSubscribe maxMqttPacketSize 0 9 [(cstring (str "a/#"), 1)]).map List.length =
      serialize (mqttSerializeSubscribeLength (str "a/#")) :=
  (@length_serialize ⟨str "board", str "user", str "word", 60, true⟩ (str "a/#")
    ⟨rfl, rfl, rfl⟩ rfl [] 9 1).2.1

/-! ## What the network takes -/

/-- The bytes that `sendPacket` has written when it ends. -/
def transmitted : List Write → (remaining : Bytes) → Bytes
  | [], _ => []
  | write :: writes, remaining =>
      if remaining = [] then []
      else if write.rc < 0 then []
      else
        remaining.take write.rc.toNat ++
          if write.expired then [] else transmitted writes (remaining.drop write.rc.toNat)

theorem not_sendPacket_of_neg (writes : List Write) {remaining : Int} (exceeds : remaining < 0) :
    ¬ sendPacket writes remaining = true := by
  cases writes with
  | nil =>
      rw [sendPacket, decide_eq_true_eq]
      omega
  | cons write writes =>
      rw [sendPacket, if_pos (by omega), decide_eq_true_eq]
      omega

theorem transmitted_of_sendPacket {writes : List Write} {packet : Bytes}
    (sent : sendPacket writes packet.length = true) : transmitted writes packet = packet := by
  induction writes generalizing packet with
  | nil =>
      rw [sendPacket, decide_eq_true_eq] at sent
      exact (List.length_eq_zero_iff.mp (by omega)).symm
  | cons write writes ih =>
      by_cases empty : packet = []
      · rw [transmitted, if_pos empty, empty]
      · have some' : 0 < packet.length := List.length_pos_iff.mpr empty
        unfold sendPacket at sent
        rw [if_neg (by omega)] at sent
        split_ifs at sent with negative expired
        · rw [decide_eq_true_eq] at sent
          rw [transmitted, if_neg empty, if_neg negative, if_pos expired, List.append_nil,
            List.take_of_length_le (by omega)]
        · have within : write.rc.toNat ≤ packet.length := by
            by_contra exceeds
            exact not_sendPacket_of_neg writes (by omega) sent
          have left : (packet.length : Int) - write.rc = ((packet.drop write.rc.toNat).length : Nat) := by
            rw [List.length_drop]
            omega
          rw [left] at sent
          rw [transmitted, if_neg empty, if_neg negative, if_neg expired, ih sent, List.take_append_drop]

/-- A packet that the network has taken whole. -/
def Sent (writes : List Write) (packet : Bytes) : Prop :=
  packet.length ≤ maxMqttPacketSize ∧ transmitted writes packet = packet

theorem exists_sent {serialized : Option Bytes} {remLen length : Nat} {writes : List Write}
    (lengths : serialized.map List.length = serialize remLen) (small : remLen < 268435456)
    (fits : serialize remLen = some length) (sent : sendPacket writes length = true) :
    ∃ packet, serialized = some packet ∧ Sent writes packet := by
  rw [fits] at lengths
  obtain ⟨packet, same, rfl⟩ := Option.map_eq_some_iff.mp lengths
  refine ⟨packet, same, ?_, transmitted_of_sendPacket sent⟩
  unfold serialize at fits
  split_ifs at fits with exceeds
  have enough := (mqttPacketLen_bounds small).1
  rw [length_varint] at enough
  have length := Option.some.inj fits
  omega

theorem serialize_lt {remLen length : Nat} (fits : serialize remLen = some length) : remLen < maxMqttPacketSize := by
  unfold serialize at fits
  split_ifs at fits with exceeds
  have := lt_of_mqttPacketLen_le (Nat.not_lt.mp exceeds)
  omega

/-- What has been published as a success is on the network, and the other end reads it as it was given. -/
theorem publish_received {client : Client} {topicName payload : Bytes} {writes : List Write} (text : Text topicName)
    (ok : (client.publish topicName payload writes).rc = success) (packetid : Nat) : ∃ packet,
    mqttSerializePublish maxMqttPacketSize 0 0 0 packetid (cstring topicName) payload = some packet ∧
      Sent writes packet ∧ ∀ behind, mqttDeserializePublish (packet ++ behind) = some (1, some
        { dup := 0, qos := 0, retained := 0, id := none, topicName, payload := payload ++ behind
          payloadlen := payload.length }) := by
  have failed : failure ≠ success := by decide
  unfold Client.publish at ok
  by_cases connected : client.isconnected = true
  · rw [if_neg (not_not.mpr connected)] at ok
    cases fits : serialize (mqttSerializePublishLength topicName payload) with
    | none =>
        rw [fits] at ok
        exact absurd ok failed
    | some length =>
        rw [fits] at ok
        dsimp only at ok
        by_cases sent : sendPacket writes length = true
        · have small := serialize_lt fits
          unfold maxMqttPacketSize mqttSerializePublishLength at small
          obtain ⟨packet, serialized, whole⟩ := exists_sent (length_serializePublish text payload packetid)
            (by unfold mqttSerializePublishLength; omega) fits sent
          refine ⟨packet, serialized, whole, fun behind => ?_⟩
          obtain ⟨inside, rfl⟩ := mqttSerializePublish_eq_some (mqttStrlen_cstring topicName) serialized
          unfold maxMqttPacketSize at inside
          rw [text_cstring text] at inside ⊢
          exact @mqttDeserializePublish_publishBody 0 0 0 0 topicName payload (by decide) (by decide) (by omega)
            (show (publishBody 0 packetid topicName payload).length < 268435456 by omega) behind
        · rw [if_neg sent] at ok
          exact absurd ok failed
  · rw [if_pos connected] at ok
    exact absurd ok failed

/-- Six bytes, which the network takes in two writes. -/
theorem publish_received_pair : ∃ packet,
    mqttSerializePublish maxMqttPacketSize 0 0 0 0 (cstring (str "a")) (str "1") = some packet ∧
      Sent [⟨4, false⟩, ⟨2, false⟩] packet ∧ ∀ behind, mqttDeserializePublish (packet ++ behind) = some (1, some
        { dup := 0, qos := 0, retained := 0, id := none, topicName := str "a", payload := str "1" ++ behind
          payloadlen := 1 }) := by
  have fits : serialize (mqttSerializePublishLength (str "a") (str "1")) = some 6 := by
    have one : mqttPacketEncode 4 = 1 := by rw [← length_varint, varint_of_lt (by decide), List.length_singleton]
    change (if maxMqttPacketSize < mqttPacketLen 4 then none else some (1 + mqttPacketEncode 4 + 4)) = some 6
    rw [one]
    rfl
  refine @publish_received { Client.new 0 with isconnected := true } (str "a") (str "1")
    [⟨4, false⟩, ⟨2, false⟩] rfl ?_ 0
  unfold Client.publish
  rw [fits]
  rfl

end DecadaEmbedded.Mqtt
