import DecadaEmbedded.Json.Lengths
import DecadaEmbedded.Mqtt.Client
import DecadaEmbedded.ServiceRequests

/-!
# The packet of a command and the packet of its reply

A publication from the broker comes to lie in the client's `readbuf`, and the reply to it is
serialized into `sendbuf`, which is as long. A publication at QoS 1 or 2 carries a packet identifier.
-/

namespace DecadaEmbedded.ReplyPackets
open Library Conversions Json Json.Reader Json.Writer Mqtt SensorControl ServiceRequests SubscriptionCallback
  TraceManager

/-! ## The two buffers -/

structure Publication where
  qos : QoS
  topicName : Bytes
  payload : Bytes

def Publication.remLen (publication : Publication) : Nat :=
  2 + publication.topicName.length + (if publication.qos = .qos0 then 0 else 2) +
    publication.payload.length

-- `readPacket` puts the length that it has decoded back into the buffer
def Publication.FitsReadbuf (publication : Publication) : Prop :=
  1 + mqttPacketEncode publication.remLen + publication.remLen ≤ maxMqttPacketSize

def FitsSendbuf (reply : Bytes × Bytes) : Prop :=
  (serialize (mqttSerializePublishLength reply.1 reply.2)).isSome = true

theorem mqttPacketEncode_pos (length : Nat) : 0 < mqttPacketEncode length := by
  rw [mqttPacketEncode]
  split <;> omega

theorem fitsReadbuf_iff (publication : Publication) :
    publication.FitsReadbuf ↔ publication.remLen ≤ 497 := by
  unfold Publication.FitsReadbuf maxMqttPacketSize
  rw [mqttPacketEncode]
  split
  · omega
  · have more := mqttPacketEncode_pos (publication.remLen / 128)
    constructor
    · intro fits
      omega
    · intro short
      rw [mqttPacketEncode, if_pos (by omega)]
      omega

theorem mqttPacketLen_le_iff (remLen : Nat) : mqttPacketLen remLen ≤ maxMqttPacketSize ↔ remLen ≤ 497 := by
  unfold mqttPacketLen maxMqttPacketSize
  dsimp only
  split_ifs <;> omega

theorem Publication.FitsReadbuf.length_le {publication : Publication} (fits : publication.FitsReadbuf) :
    publication.topicName.length + publication.payload.length ≤ 495 := by
  have within := (fitsReadbuf_iff publication).mp fits
  unfold remLen at within
  omega

theorem fitsSendbuf_iff (reply : Bytes × Bytes) :
    FitsSendbuf reply ↔ reply.1.length + reply.2.length ≤ 495 := by
  have within := mqttPacketLen_le_iff (mqttSerializePublishLength reply.1 reply.2)
  unfold FitsSendbuf serialize
  unfold mqttSerializePublishLength at within ⊢
  split
  · simp only [Option.isSome_none, Bool.false_eq_true, false_iff]
    omega
  · simp only [Option.isSome_some, true_iff]
    omega

/-- A packet that does not fit fails before anything is sent and leaves the session open. -/
theorem publish_of_not_fits {client : Client} (connected : client.isconnected = true)
    {reply : Bytes × Bytes} (long : ¬ FitsSendbuf reply) (writes : List Write) :
    client.publish reply.1 reply.2 writes = ⟨client, failure, false⟩ := by
  rw [FitsSendbuf, Bool.not_eq_true, Option.isSome_eq_false_iff, Option.isNone_iff_eq_none] at long
  simp [Client.publish, connected, long]

/-! ## The reply -/

theorem length_writeValue_response (id : Bytes) :
    (writeValue (response pollRateUpdate id)).length = 54 + (valueToQuotedString id).length := by
  have code : (decimalInt 200).length = 3 := by decide
  have quoted : (valueToQuotedString (str "code")).length = 6 ∧ (valueToQuotedString (str "data")).length = 6 ∧
      (valueToQuotedString (str "id")).length = 4 ∧ (valueToQuotedString (str "true")).length = 6 ∧
      (valueToQuotedString pollRateUpdate).length = 19 := by
    decide
  obtain ⟨codeName, dataName, idName, true, update⟩ := quoted
  simp only [response, writeValue, writeMembers, List.length_append, code, codeName, dataName, idName, true,
    update]
  simp [str]
  omega

variable (site : Site) (decodeDouble : Bytes → Option Bytes)

def sensorPollRateTopic : Bytes := Communications.decadaServiceTopic site.cloud ++ str "sensorpollrate"

/-- The publication leads through the callback, the event manager and the sensor thread, which
accepts it, to the topic and the payload that the main loop hands to `publish`. -/
def Answered (publication : Publication) (mail : MqttArrivedMail) (reply : Bytes × Bytes) : Prop :=
  ∃ trailing mails junk n control response,
    subscriptionMessageArrivalCallback decodeDouble publication.payload trailing = .ok mails ∧
      mail ∈ mails ∧ distributeControlMessage junk n mail = some control ∧ accepted control = true ∧
      decadaServiceResponse control.endpointId control.msgId pollRateUpdate = .ok response ∧
      reply = Communications.replyFor site.cloud response

variable {site decodeDouble} {publication : Publication} {mail : MqttArrivedMail} {reply : Bytes × Bytes}

theorem distributeControlMessage_eq {junk : Nat → CInt} {n : Nat} {control : SensorControlMail}
    (distributed : distributeControlMessage junk n mail = some control) :
    control = ⟨cstr mail.param, stringToInt (junk n) mail.value, cstr mail.msgId, cstr mail.endpointId⟩ := by
  unfold distributeControlMessage at distributed
  split at distributed
  · exact (Option.some.inj distributed).symm
  · cases distributed

theorem Answered.reply_eq (answered : Answered site decodeDouble publication mail reply) :
    reply = (Communications.decadaServiceTopic site.cloud ++ mail.endpointId ++ str "_reply",
      writeValue (response pollRateUpdate mail.msgId)) := by
  obtain ⟨trailing, mails, junk, n, control, response, returned, member, distributed, -, created, rfl⟩ :=
    answered
  obtain ⟨-, -, msgId, -, endpointId, params, -, -, -, -, -, rfl⟩ :=
    (subscriptionMessageArrivalCallback_ok_iff decodeDouble).mp returned
  obtain ⟨param, -, rfl⟩ := List.mem_map.mp member
  rw [distributeControlMessage_eq distributed, decadaServiceResponse, createDecadaResponse_eq] at created
  cases created
  simp only [Communications.replyFor, mailFor, stringToChar, cstr_cstr, cstr_writeValue_response,
    cstr_responseTopic (nulFree_cstr _)]

theorem Answered.length_eq (answered : Answered site decodeDouble publication mail reply) :
    reply.1.length + reply.2.length = (Communications.decadaServiceTopic site.cloud).length +
      mail.endpointId.length + (valueToQuotedString mail.msgId).length + 60 := by
  have suffix : (str "_reply").length = 6 := by decide
  rw [answered.reply_eq, length_writeValue_response]
  simp only [List.length_append, suffix]
  omega

/-! ## The request -/

/-- The members that an accepted command cannot do without make up 50 bytes beside the two texts. -/
theorem Answered.length_le (answered : Answered site decodeDouble publication mail reply) {ok : Bool}
    {root : Value} {id method : Bytes}
    (parsed : parse decodeDouble (cstr publication.payload) = .ok (ok, root))
    (idMember : root.member? (str "id") = some (.string id))
    (methodMember : root.member? (str "method") = some (.string method)) :
    id.length + method.length + 50 ≤ publication.payload.length := by
  obtain ⟨trailing, mails, junk, n, control, response, returned, member, distributed, accepted, -, -⟩ :=
    answered
  obtain ⟨_, _, msgId, _, endpointId, params, same, -, -, -, taken, rfl⟩ :=
    (subscriptionMessageArrivalCallback_ok_iff decodeDouble).mp returned
  cases parsed.symm.trans same
  obtain ⟨param, listed, rfl⟩ := List.mem_map.mp member
  obtain ⟨members, value, paramsMember, found⟩ :=
    mem_paramList (Value.searchable_of_member idMember) taken listed
  have named : (str "sensor_poll_rate").length ≤ param.1.length := by
    rw [distributeControlMessage_eq distributed] at accepted
    simp only [SensorControl.accepted, mailFor, stringToChar, cstr_cstr, decide_eq_true_eq] at accepted
    rw [← accepted.1]
    exact length_cstr_le param.1
  have inner := weightMembers_of_lookup found
  have short := length_cstr_le publication.payload
  have spelled := weight_le_of_parse parsed
  have names : (str "id").length = 2 ∧ (str "method").length = 6 ∧ (str "params").length = 6 ∧
      (str "sensor_poll_rate").length = 16 := by
    decide
  cases root with
  | object entries =>
      have three := weightMembers_of_three idMember methodMember paramsMember (by decide)
      simp only [weight] at three spelled
      omega
  | _ => cases idMember

/-! ## When the reply fits -/

theorem Answered.fits_iff (answered : Answered site decodeDouble publication mail reply) :
    FitsSendbuf reply ↔ (Communications.decadaServiceTopic site.cloud).length + mail.endpointId.length +
      (valueToQuotedString mail.msgId).length ≤ 435 := by
  rw [fitsSendbuf_iff, answered.length_eq]
  omega

theorem Answered.fits_of_quoted_le (answered : Answered site decodeDouble publication mail reply)
    (onTopic : publication.topicName = sensorPollRateTopic site) (received : publication.FitsReadbuf)
    {ok : Bool} {root : Value} {id method : Bytes}
    (parsed : parse decodeDouble (cstr publication.payload) = .ok (ok, root))
    (idMember : root.member? (str "id") = some (.string id))
    (methodMember : root.member? (str "method") = some (.string method))
    (short : (valueToQuotedString mail.msgId).length + mail.endpointId.length ≤
      id.length + method.length + 4) : FitsSendbuf reply := by
  have spelled := answered.length_le parsed idMember methodMember
  have within := received.length_le
  have subscribed : (str "sensorpollrate").length = 14 := by decide
  rw [onTopic, sensorPollRateTopic, List.length_append] at within
  rw [answered.fits_iff]
  omega

/-- The reply fits exactly if the topic, the service and the quoted id leave room for the rest of
it. They do if quoting lengthens the id by no more than four bytes beside what the callback takes
from the method. -/
theorem reply_fits_iff (onTopic : publication.topicName = sensorPollRateTopic site)
    (received : publication.FitsReadbuf) (answered : Answered site decodeDouble publication mail reply) :
    (FitsSendbuf reply ↔ (Communications.decadaServiceTopic site.cloud).length + mail.endpointId.length +
      (valueToQuotedString mail.msgId).length ≤ 435) ∧
    ∀ ok root id method, parse decodeDouble (cstr publication.payload) = .ok (ok, root) →
      root.member? (str "id") = some (.string id) →
      root.member? (str "method") = some (.string method) →
      (valueToQuotedString mail.msgId).length + mail.endpointId.length ≤ id.length + method.length + 4 →
      FitsSendbuf reply :=
  ⟨answered.fits_iff, fun _ _ _ _ parsed idMember methodMember short =>
    answered.fits_of_quoted_le onTopic received parsed idMember methodMember short⟩

theorem answered_replyOf {trailing : Bytes} {mails : List MqttArrivedMail} {junk : Nat → CInt} {n : Nat}
    {control : SensorControlMail}
    (returned : subscriptionMessageArrivalCallback decodeDouble publication.payload trailing = .ok mails)
    (member : mail ∈ mails) (distributed : distributeControlMessage junk n mail = some control)
    (ok : accepted control = true) : Answered site decodeDouble publication mail (replyOf site control) := by
  obtain ⟨response, created, same⟩ := decadaServiceResponse_eq site control
  exact ⟨trailing, mails, junk, n, control, response, returned, member, distributed, ok, created, same.symm⟩

-- a key of ten characters and an identifier of 96 bits
def keyedSite : Site where
  cloud := { DecadaManager.answering [] with
    decadaProductKey := str "productkey", deviceUid := str "0123456789abcdef01234567" }
  nulFree := by decide

def pollRateCommand (id : Bytes) : Publication where
  qos := .qos0
  topicName := sensorPollRateTopic keyedSite
  payload := str "\x7b\"id\":\"" ++ id ++
    str "\",\"method\":\"thing.service.sensorpollrate\",\"params\":\x7b\"sensor_poll_rate\":10\x7d\x7d"

theorem pollRateCommand_answered {id : Bytes}
    (returned : subscriptionMessageArrivalCallback (fun _ => none) (pollRateCommand id).payload [] =
      .ok [⟨str "sensorpollrate", id, str "sensor_poll_rate", str "10"⟩]) :
    ∃ reply, Answered keyedSite (fun _ => none) (pollRateCommand id)
      ⟨str "sensorpollrate", id, str "sensor_poll_rate", str "10"⟩ reply := by
  have value : stringToInt zeroInt (str "10") = 10 := by
    rw [show str "10" = intToString 10 by decide]
    exact stringToInt_intToString zeroInt (by decide)
  have distributed : distributeControlMessage (fun _ => zeroInt) 0
      ⟨str "sensorpollrate", id, str "sensor_poll_rate", str "10"⟩ =
        some ⟨str "sensor_poll_rate", 10, cstr id, str "sensorpollrate"⟩ := by
    rw [distributeControlMessage, value]
    rfl
  exact ⟨_, answered_replyOf returned (List.mem_singleton.mpr rfl) distributed (by simp [accepted])⟩

theorem reply_fits_iff_one : ∃ mail reply,
    Answered keyedSite (fun _ => none) (pollRateCommand (str "1")) mail reply ∧ FitsSendbuf reply := by
  have returned : subscriptionMessageArrivalCallback (fun _ => none) (pollRateCommand (str "1")).payload [] =
      .ok [⟨str "sensorpollrate", str "1", str "sensor_poll_rate", str "10"⟩] := by
    decide +kernel
  have received : (pollRateCommand (str "1")).FitsReadbuf := (fitsReadbuf_iff _).mpr (by decide +kernel)
  obtain ⟨reply, answered⟩ := pollRateCommand_answered returned
  exact ⟨_, reply, answered, (reply_fits_iff rfl received answered).1.mpr (by decide +kernel)⟩

-- each of the accented letters is two bytes in the command and six in the reply
def accentedId : Bytes := str "1" ++ (List.replicate 80 [0xC3, 0xA9]).flatten

theorem reply_violated : ¬ ∀ (site : Site) (decodeDouble : Bytes → Option Bytes) (publication : Publication)
    (mail : MqttArrivedMail) (reply : Bytes × Bytes), publication.topicName = sensorPollRateTopic site →
    publication.FitsReadbuf → Answered site decodeDouble publication mail reply → FitsSendbuf reply := by
  intro always
  have returned : subscriptionMessageArrivalCallback (fun _ => none) (pollRateCommand accentedId).payload [] =
      .ok [⟨str "sensorpollrate", accentedId, str "sensor_poll_rate", str "10"⟩] := by
    decide +kernel
  have received : (pollRateCommand accentedId).FitsReadbuf := (fitsReadbuf_iff _).mpr (by decide +kernel)
  obtain ⟨reply, answered⟩ := pollRateCommand_answered returned
  have fits := always keyedSite (fun _ => none) _ _ reply rfl received answered
  exact absurd (answered.fits_iff.mp fits) (by decide +kernel)

/-! ## The replies of a run -/

theorem length_endpointOf_le (method : Bytes) : (endpointOf method).length ≤ method.length := by
  unfold endpointOf
  split
  · simp only [List.length_append, List.length_take, List.length_drop]
    omega
  · exact le_rfl

theorem mem_controlsOf {junk : Nat → CInt} {mails : List MqttArrivedMail} {control : SensorControlMail}
    (member : control ∈ controlsOf junk mails) :
    ∃ mail ∈ mails, ∃ n, distributeControlMessage junk n mail = some control := by
  obtain ⟨numbered, listed, distributed⟩ := List.mem_filterMap.mp member
  exact ⟨numbered.1, List.fst_mem_of_mem_zipIdx listed, numbered.2, distributed⟩

variable {junk : Nat → CInt} {before : PersistStore.Store × Int} {state : State decodeDouble}

theorem origin_of_reply (flow : Flow junk site before state)
    (published : reply ∈ Communications.replies state.communications.events) :
    ∃ request ∈ state.arrived, ∃ command ∈ request.commands, ∀ qos topicName,
      Answered site decodeDouble ⟨qos, topicName, request.payload⟩ command.mail reply := by
  have answeredReply : reply ∈ state.answered.map (replyOf site) := by
    rw [flow.replies]
    exact List.mem_append_left _ published
  obtain ⟨control, answered, rfl⟩ := List.mem_map.mp answeredReply
  have taken : control ∈ state.controlled.filter accepted := by
    rw [flow.answers]
    exact List.mem_append_left _ answered
  obtain ⟨controlled, ok⟩ := List.mem_filter.mp taken
  have distributed : control ∈ controlsOf junk state.processed := by
    rw [flow.controls]
    exact List.mem_append_left _ (List.mem_append_left _ controlled)
  obtain ⟨mail, processed, n, distributed⟩ := mem_controlsOf distributed
  have arrived : mail ∈ (state.arrived.flatMap Request.commands).map Command.mail := by
    rw [flow.arrivals]
    exact List.mem_append_left _ (List.mem_append_left _ processed)
  obtain ⟨command, sent, rfl⟩ := List.mem_map.mp arrived
  obtain ⟨request, received, inside⟩ := List.mem_flatMap.mp sent
  exact ⟨request, received, command, inside, fun qos topicName =>
    answered_replyOf request.callback_eq (List.mem_map_of_mem inside) distributed ok⟩

/-- Whatever the threads and the network do, the replies to requests that fit the buffer fit it as
well, if the writer has nothing to escape in their ids. -/
theorem replies_fit {store : PersistStore.Store} {interval : Int} {actions : List (Action decodeDouble)}
    {final : State decodeDouble}
    (reaches : run (step junk site) (init decodeDouble store interval) actions = some final)
    (received : ∀ request ∈ final.arrived, ∃ qos,
      Publication.FitsReadbuf ⟨qos, sensorPollRateTopic site, request.payload⟩)
    (plain : ∀ request ∈ final.arrived, Unescaped request.id) :
    ∀ reply ∈ Communications.replies final.communications.events, FitsSendbuf reply := by
  intro reply published
  obtain ⟨request, arrived, command, inside, answered⟩ := origin_of_reply (flow_run reaches) published
  obtain ⟨qos, fits⟩ := received request arrived
  refine (answered qos _).fits_of_quoted_le rfl fits request.parsed request.idMember request.methodMember ?_
  obtain ⟨setting, -, rfl⟩ := List.mem_map.mp inside
  have shorter := length_endpointOf_le request.method
  rw [Request.mail_of_mem inside, valueToQuotedString_of_unescaped (plain request arrived)]
  simp only [List.length_append, List.length_cons, List.length_nil]
  omega

end DecadaEmbedded.ReplyPackets
