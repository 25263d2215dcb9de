import DecadaEmbedded.Mqtt.Packet

/-!
# Publications as they are received

A packet lies at the start of the read buffer, with what was there before behind it. Its body is split
where the topic ends; a body that cannot be split leaves the message unread.
-/

namespace DecadaEmbedded.Mqtt
open Library

/-- A packet as `readPacket` leaves it. -/
def framed (header : UInt8) (body : Bytes) : Bytes := header :: varint body.length ++ body

/-- The topic of a publication and what is behind it. -/
def splitTopic (body : Bytes) : Option (Bytes × Bytes) := do
  let (len, rest) ← readInt body
  if rest.length < len then none else some (rest.take len, rest.drop len)

theorem readInt_append {body rest : Bytes} {n : Nat} (behind : Bytes) (read : readInt body = some (n, rest)) :
    readInt (body ++ behind) = some (n, rest ++ behind) ∧ body.length = rest.length + 2 ∧ n < 65536 := by
  match body, read with
  | high :: low :: rest', read =>
      obtain ⟨rfl, rfl⟩ := Prod.mk.inj (Option.some.inj read)
      have := high.toNat_lt
      have := low.toNat_lt
      exact ⟨rfl, rfl, by omega⟩

theorem readInt_eq_none_iff (p : Bytes) : readInt p = none ↔ p.length < 2 := by
  match p with
  | [] | [_] => exact iff_of_true rfl (by simp)
  | _ :: _ :: rest => exact iff_of_false (by simp [readInt]) (by simp)

theorem readMqttLenString_splitTopic (body behind : Bytes) :
    readMqttLenString (body ++ behind) behind.length =
      some ((splitTopic body).map fun (topicName, rest) => (topicName, rest ++ behind)) := by
  unfold readMqttLenString splitTopic
  by_cases short : body.length < 2
  · rw [if_pos (by rw [List.length_append]; omega), (readInt_eq_none_iff body).mpr short]
    rfl
  · rw [if_neg (by rw [List.length_append]; omega)]
    cases read : readInt body with
    | none => exact absurd ((readInt_eq_none_iff body).mp read) short
    | some pair =>
        obtain ⟨len, rest⟩ := pair
        obtain ⟨read', -, -⟩ := readInt_append behind read
        rw [read']
        simp only [Option.bind_eq_bind, Option.bind_some, List.length_append]
        by_cases exceeds : rest.length < len
        · rw [if_neg (by omega), if_pos exceeds]
          rfl
        · rw [if_pos (by omega), if_neg (by omega), if_neg exceeds, List.take_append_of_le_length (by omega),
            List.drop_append_of_le_length (by omega)]
          rfl

/-- Every packet that may have been received. A body that cannot be split is reported by the number of the
bytes of its length, which is the code of success where that is one. -/
theorem mqttDeserializePublish_framed {header : UInt8} {body : Bytes} (small : body.length < 268435456)
    (publish : headerType header = MsgType.publish) (behind : Bytes) :
    mqttDeserializePublish (framed header body ++ behind) =
      match splitTopic body with
      | none => some (((varint body.length).length : Int), none)
      | some (topicName, rest) =>
          (if 0 < headerQos header then (readInt (rest ++ behind)).map (Prod.map some id)
          else some (none, rest ++ behind)).map fun (id, payload) =>
            (1, some
              { dup := headerDup header, qos := headerQos header, retained := headerRetain header, id, topicName
                payload, payloadlen := payload.length - behind.length }) := by
  have enddata : ((body ++ behind).length : Int) - body.length = behind.length := by
    rw [List.length_append]
    omega
  unfold mqttDeserializePublish framed
  rw [List.append_assoc, List.cons_append, readChar_cons]
  simp only [Option.bind_eq_bind, Option.bind_some, publish, ne_eq, not_true_eq_false, if_false,
    mqttPacketDecodeBuf_varint small, enddata, readMqttLenString_splitTopic]
  cases splitTopic body with
  | none => rfl
  | some pair =>
      obtain ⟨topicName, rest⟩ := pair
      simp only [Option.map_some, List.length_append]
      rw [if_neg (by omega)]
      split_ifs
      · cases readInt (rest ++ behind) with
        | none => rfl
        | some pair => rfl
      · rfl

theorem length_varint_eq_one_iff (n : Nat) : (varint n).length = 1 ↔ n < 128 := by
  have short := length_varint_le_iff (n := n) (k := 1) (by decide)
  have some' := length_varint_pos n
  rw [pow_one] at short
  omega

/-- What passes for a publication though it is none: a short packet whose topic goes on behind its end, of
which no message is read, and one at a higher QoS that ends before its identifier does, whose payload has a
negative length unless the identifier is read from behind the buffer. -/
theorem mqttDeserializePublish_defective {header : UInt8} {body : Bytes} (small : body.length < 268435456)
    (publish : headerType header = MsgType.publish) (behind : Bytes) :
    (mqttDeserializePublish (framed header body ++ behind) = some (1, none) ↔
      splitTopic body = none ∧ body.length < 128) ∧
    ((mqttDeserializePublish (framed header body ++ behind) = none ∨
        ∃ message, mqttDeserializePublish (framed header body ++ behind) = some (1, some message) ∧
          message.payloadlen < 0) ↔
      ∃ topicName rest, splitTopic body = some (topicName, rest) ∧ 0 < headerQos header ∧ rest.length < 2) := by
  rw [mqttDeserializePublish_framed small publish]
  cases split : splitTopic body with
  | none => simp [← length_varint_eq_one_iff]
  | some pair =>
      obtain ⟨topicName, rest⟩ := pair
      by_cases qos : 0 < headerQos header
      · cases read : readInt (rest ++ behind) with
        | none =>
            have short := (readInt_eq_none_iff _).mp read
            rw [List.length_append] at short
            simp [qos, read]
            omega
        | some pair =>
            obtain ⟨id, payload⟩ := pair
            have lengths := (readInt_append [] read).2.1
            rw [List.length_append] at lengths
            simp [qos, read]
            omega
      · simp [qos]

/-- A topic of five bytes of which two have been sent, and an identifier of which nothing has. -/
theorem mqttDeserializePublish_short :
    mqttDeserializePublish (framed 0x30 [0, 5, 97, 98] ++ [99]) = some (1, none) ∧
      ∃ message, mqttDeserializePublish (framed 0x32 [0, 1, 97] ++ [0, 7]) = some (1, some message) ∧
        message.payloadlen < 0 := by
  refine ⟨(mqttDeserializePublish_defective (by decide) (by decide) [99]).1.mpr ⟨by decide, by decide⟩, ?_⟩
  have defect := (@mqttDeserializePublish_defective 0x32 [0, 1, 97] (by decide) (by decide) [0, 7]).2.mpr
    ⟨[97], [], by decide, by decide, by decide⟩
  refine defect.resolve_left fun outside => ?_
  rw [mqttDeserializePublish_framed (by decide) (by decide)] at outside
  exact absurd outside (by decide)

/-! ## Publications as they are serialized -/

def publishBody (qos packetid : Nat) (topicName payload : Bytes) : Bytes :=
  writeInt topicName.length ++ topicName ++ (if 0 < qos then writeInt packetid else []) ++ payload

theorem mqttSerializePublish_eq_some {buflen dup qos retained packetid : Nat} {topicName : MqttString}
    {payload packet : Bytes} (single : mqttStrlen topicName = topicName.text.length)
    (written : mqttSerializePublish buflen dup qos retained packetid topicName payload = some packet) :
    (publishBody qos packetid topicName.text payload).length + 1 < buflen ∧
      packet = framed (headerByte MsgType.publish dup qos retained) (publishBody qos packetid topicName.text payload) := by
  obtain ⟨fits, rfl⟩ := writePacket_eq_some written
  have whole : (publishBody qos packetid topicName.text payload).length =
      mqttSerializePublishRemLen qos topicName payload.length := by
    rw [publishBody, mqttSerializePublishRemLen, single]
    split_ifs <;> simp only [List.length_append, length_writeInt, List.length_nil] <;> omega
  refine ⟨whole ▸ lt_of_mqttPacketLen_le fits, ?_⟩
  rw [framed, whole, writeMqttString_eq, publishBody]

theorem splitTopic_publishBody {qos packetid : Nat} {topicName payload : Bytes} (short : topicName.length < 65536) :
    splitTopic (publishBody qos packetid topicName payload) =
      some (topicName, (if 0 < qos then writeInt packetid else []) ++ payload) := by
  unfold splitTopic publishBody
  rw [List.append_assoc, List.append_assoc, readInt_writeInt short]
  simp

theorem mqttDeserializePublish_publishBody {dup qos retained packetid : Nat} {topicName payload : Bytes}
    (flags : dup < 2 ∧ qos < 3 ∧ retained < 2) (identifier : packetid < 65536) (short : topicName.length < 65536)
    (small : (publishBody qos packetid topicName payload).length < 268435456) (behind : Bytes) :
    mqttDeserializePublish (framed (headerByte MsgType.publish dup qos retained)
        (publishBody qos packetid topicName payload) ++ behind) = some (1, some
      { dup, qos, retained, id := if 0 < qos then some packetid else none, topicName
        payload := payload ++ behind, payloadlen := payload.length }) := by
  obtain ⟨dup', qos', retained'⟩ := flags
  have publishes : headerType (headerByte MsgType.publish dup qos retained) = MsgType.publish :=
    headerType_headerByte _ _ _ _
  have qosBits : headerQos (headerByte MsgType.publish dup qos retained) = qos := by
    rw [headerQos_headerByte]
    omega
  have dupBit : headerDup (headerByte MsgType.publish dup qos retained) = dup := by
    rw [headerDup_headerByte]
    omega
  have retainBit : headerRetain (headerByte MsgType.publish dup qos retained) = retained := by
    rw [headerRetain_headerByte]
    omega
  rw [mqttDeserializePublish_framed small publishes, splitTopic_publishBody short]
  simp only [qosBits, dupBit, retainBit]
  by_cases identified : 0 < qos
  · rw [if_pos identified, if_pos identified, if_pos identified, List.append_assoc, readInt_writeInt identifier]
    simp
  · rw [if_neg identified, if_neg identified, if_neg identified]
    simp

/-- A publication is received as it was serialized, whatever lies behind it in the buffer. -/
theorem mqttDeserializePublish_serialize {buflen dup qos retained packetid : Nat} {topicName : MqttString}
    {payload packet : Bytes} (bounded : buflen ≤ 65536) (single : mqttStrlen topicName = topicName.text.length)
    (flags : dup < 2 ∧ qos < 3 ∧ retained < 2) (identifier : packetid < 65536)
    (written : mqttSerializePublish buflen dup qos retained packetid topicName payload = some packet)
    (behind : Bytes) :
    mqttDeserializePublish (packet ++ behind) = some (1, some
      { dup, qos, retained, id := if 0 < qos then some packetid else none, topicName := topicName.text
        payload := payload ++ behind, payloadlen := payload.length }) := by
  obtain ⟨inside, rfl⟩ := mqttSerializePublish_eq_some single written
  have topic : topicName.text.length ≤ (publishBody qos packetid topicName.text payload).length := by
    simp only [publishBody, List.length_append]
    omega
  exact mqttDeserializePublish_publishBody flags identifier (by omega) (by omega) behind

/-- A topic that names a sensor, a payload of three bytes, and a buffer in which another packet lay. -/
theorem mqttDeserializePublish_sensor : ∃ packet,
    mqttSerializePublish 500 0 1 0 7 { lenstring := some (str "sensor") } (str "{1}") = some packet ∧
      mqttDeserializePublish (packet ++ [9, 9]) = some (1, some
        { dup := 0, qos := 1, retained := 0, id := some 7, topicName := str "sensor"
          payload := str "{1}" ++ [9, 9], payloadlen := 3 }) := by
  refine ⟨_, rfl, ?_⟩
  apply @mqttDeserializePublish_serialize 500 0 1 0 7 { lenstring := some (str "sensor") } (str "{1}")
  · decide
  · decide
  · decide
  · decide
  · rfl

end DecadaEmbedded.Mqtt
