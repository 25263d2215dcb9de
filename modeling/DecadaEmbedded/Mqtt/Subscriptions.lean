import DecadaEmbedded.Mqtt.Handshake
import Mathlib.Algebra.Order.BigOperators.Group.List

/-!
# `MQTTSubscribe*.c` and `MQTTUnsubscribe*.c`

The packets that ask for topics and the ones that answer them, each with both of its ends.
-/

namespace DecadaEmbedded.Mqtt
open Library

/-! ## Requests -/

/-- An entry of a request: a topic filter and what follows it, which is the requested QoS or nothing. -/
structure Entry where
  topicFilter : MqttString
  options : Bytes

def requestRemLen (entries : List Entry) : Nat :=
  2 + (entries.map fun entry => 2 + mqttStrlen entry.topicFilter + entry.options.length).sum

def requestBody (packetid : Nat) (entries : List Entry) : Bytes :=
  writeInt packetid ++ entries.flatMap fun entry => writeMqttString entry.topicFilter ++ entry.options

def serializeRequest (type buflen dup packetid : Nat) (entries : List Entry) : Option Bytes :=
  writePacket buflen (headerByte type dup 1 0) (requestRemLen entries) (requestBody packetid entries)

def mqttSerializeSubscribe (buflen dup packetid : Nat) (topics : List (MqttString × Nat)) : Option Bytes :=
  serializeRequest MsgType.subscribe buflen dup packetid
    (topics.map fun (topicFilter, requestedQoS) => ⟨topicFilter, [UInt8.ofNat requestedQoS]⟩)

def mqttSerializeUnsubscribe (buflen dup packetid : Nat) (topicFilters : List MqttString) : Option Bytes :=
  serializeRequest MsgType.unsubscribe buflen dup packetid (topicFilters.map (⟨·, []⟩))

/-- The entries up to the end of the data, and whether it was reached; `size` bytes follow a filter. -/
def readEntries (size : Nat) (enddata : Int) : Nat → Bytes → Option (List (Bytes × Bytes) × Bool)
  | 0, _ => some ([], true)
  | fuel + 1, p =>
      if (p.length : Int) ≤ enddata then some ([], true)
      else
        match readMqttLenString p enddata with
        | none => none
        | some none => some ([], false)
        | some (some (topicFilter, p)) =>
            if 0 < size ∧ (p.length : Int) ≤ enddata then some ([], false)
            else if p.length < size then none
            else
              (readEntries size enddata fuel (p.drop size)).map fun (entries, whole) =>
                ((topicFilter, p.take size) :: entries, whole)

structure Request where
  dup : Nat
  packetid : Nat
  entries : List (Bytes × Bytes)
deriving DecidableEq, Repr

-- `maxcount` is read by neither of the two
def deserializeRequest (type size : Nat) (wrong : Int) (buf : Bytes) : Option (Int × Option Request) := do
  let (header, p) ← readChar buf
  if headerType header ≠ type then return (wrong, none)
  let (mylen, rc, p) ← mqttPacketDecodeBuf p
  let enddata : Int := p.length - mylen
  let (packetid, p) ← readInt p
  let (entries, whole) ← readEntries size enddata p.length p
  return (if whole then 1 else rc, some ⟨headerDup header, packetid, entries⟩)

def mqttDeserializeSubscribe (buf : Bytes) : Option (Int × Option Request) :=
  deserializeRequest MsgType.subscribe 1 (-1) buf

def mqttDeserializeUnsubscribe (buf : Bytes) : Option (Int × Option Request) :=
  deserializeRequest MsgType.unsubscribe 0 0 buf

theorem readEntries_write {size : Nat} (entries : List Entry) (behind : Bytes)
    (short : ∀ entry ∈ entries, entry.topicFilter.text.length < 65536 ∧ entry.options.length = size) (fuel : Nat)
    (enough : entries.length ≤ fuel) :
    readEntries size behind.length fuel
        ((entries.flatMap fun entry => writeMqttString entry.topicFilter ++ entry.options) ++ behind) =
      some (entries.map fun entry => (entry.topicFilter.text, entry.options), true) := by
  induction entries generalizing fuel with
  | nil =>
      cases fuel with
      | zero => rfl
      | succ fuel => rw [readEntries, List.flatMap_nil, List.nil_append, if_pos le_rfl, List.map_nil]
  | cons entry rest ih =>
      obtain ⟨⟨text, length⟩, shortRest⟩ := List.forall_mem_cons.mp short
      obtain ⟨fuel, rfl⟩ : ∃ fuel', fuel = fuel' + 1 := Nat.exists_eq_succ_of_ne_zero (by
        rw [List.length_cons] at enough
        omega)
      have inside (p : Bytes) : ((behind.length : Nat) : Int) ≤ (p ++ behind).length := by
        rw [List.length_append]
        omega
      have open' : ¬ ((((entry :: rest).flatMap fun entry => writeMqttString entry.topicFilter ++ entry.options) ++
          behind).length : Int) ≤ behind.length := by
        rw [List.flatMap_cons, writeMqttString_eq]
        simp only [List.length_append, length_writeInt]
        omega
      have filled (p : Bytes) : ¬ (0 < size ∧ ((entry.options ++ (p ++ behind)).length : Int) ≤ behind.length) := by
        simp only [List.length_append]
        omega
      rw [readEntries, if_neg open', List.flatMap_cons, List.append_assoc, List.append_assoc,
        readMqttLenString_write text _ (by rw [← List.append_assoc]; exact inside _)]
      dsimp only
      rw [if_neg (filled _), if_neg (by rw [List.length_append]; omega), ← length, List.drop_left, List.take_left,
        length, ih shortRest fuel (by rw [List.length_cons] at enough; omega)]
      rfl

theorem length_requestBody (packetid : Nat) {entries : List Entry}
    (single : ∀ entry ∈ entries, mqttStrlen entry.topicFilter = entry.topicFilter.text.length) :
    (requestBody packetid entries).length = requestRemLen entries := by
  have lengths : entries.map (fun entry => (writeMqttString entry.topicFilter ++ entry.options).length) =
      entries.map fun entry => 2 + mqttStrlen entry.topicFilter + entry.options.length :=
    List.map_congr_left fun entry there => by
      rw [List.length_append, writeMqttString_eq, List.length_append, length_writeInt, single entry there]
  rw [requestBody, List.length_append, length_writeInt, List.length_flatMap, lengths, requestRemLen]

/-- A request is received as it was serialized, whatever lies behind it. -/
theorem deserializeRequest_serialize {type buflen dup packetid size : Nat} {wrong : Int} {entries : List Entry}
    {packet : Bytes} (bounded : buflen ≤ 65536) (small : type < 16 ∧ dup < 2) (identifier : packetid < 65536)
    (single : ∀ entry ∈ entries, mqttStrlen entry.topicFilter = entry.topicFilter.text.length ∧
      entry.options.length = size)
    (written : serializeRequest type buflen dup packetid entries = some packet) (behind : Bytes) :
    deserializeRequest type size wrong (packet ++ behind) = some (1, some
      ⟨dup, packetid, entries.map fun entry => (entry.topicFilter.text, entry.options)⟩) := by
  obtain ⟨fits, rfl⟩ := writePacket_eq_some written
  obtain ⟨type', dup'⟩ := small
  have remLen := lt_of_mqttPacketLen_le fits
  have whole := length_requestBody packetid fun entry there => (single entry there).1
  have short : ∀ entry ∈ entries, entry.topicFilter.text.length < 65536 ∧ entry.options.length = size := by
    intro entry there
    obtain ⟨counted, length⟩ := single entry there
    have within := List.le_sum_of_mem (List.mem_map_of_mem (f := fun entry : Entry =>
      2 + mqttStrlen entry.topicFilter + entry.options.length) there)
    unfold requestRemLen at remLen
    exact ⟨by omega, length⟩
  have enddata : ((requestBody packetid entries ++ behind).length : Int) - requestRemLen entries = behind.length := by
    rw [List.length_append, whole]
    omega
  have few : entries.length ≤ ((entries.flatMap fun entry => writeMqttString entry.topicFilter ++ entry.options) ++
      behind).length := by
    have bytes := List.length_le_sum_of_one_le
      (entries.map fun entry => (writeMqttString entry.topicFilter ++ entry.options).length) fun length there => by
        obtain ⟨entry, -, rfl⟩ := List.mem_map.mp there
        rw [List.length_append, writeMqttString_eq, List.length_append, length_writeInt]
        omega
    rw [List.length_append, List.length_flatMap]
    rw [List.length_map] at bytes
    omega
  unfold deserializeRequest
  rw [List.append_assoc, List.cons_append, readChar_cons]
  simp only [Option.bind_eq_bind, Option.bind_some, headerType_headerByte, Nat.mod_eq_of_lt type', ne_eq,
    not_true_eq_false, if_false, mqttPacketDecodeBuf_varint (by omega : requestRemLen entries < 268435456), enddata]
  rw [requestBody, List.append_assoc, readInt_writeInt identifier]
  simp only [Option.bind_some, readEntries_write entries behind short _ few, headerDup_headerByte,
    Nat.mod_eq_of_lt dup', if_true]
  rfl

theorem mqttDeserializeSubscribe_serialize {buflen dup packetid : Nat} {topics : List (MqttString × Nat)}
    {packet : Bytes} (bounded : buflen ≤ 65536) (flag : dup < 2) (identifier : packetid < 65536)
    (single : ∀ topic ∈ topics, mqttStrlen topic.1 = topic.1.text.length)
    (written : mqttSerializeSubscribe buflen dup packetid topics = some packet) (behind : Bytes) :
    mqttDeserializeSubscribe (packet ++ behind) = some (1, some
      ⟨dup, packetid, topics.map fun (topicFilter, requestedQoS) =>
        (topicFilter.text, [UInt8.ofNat requestedQoS])⟩) := by
  have received : deserializeRequest MsgType.subscribe 1 (-1) (packet ++ behind) = _ :=
    deserializeRequest_serialize bounded ⟨by decide, flag⟩ identifier (fun entry there => by
      obtain ⟨topic, member, rfl⟩ := List.mem_map.mp there
      exact ⟨single topic member, rfl⟩) written behind
  rw [mqttDeserializeSubscribe, received, List.map_map]
  rfl

theorem mqttDeserializeSubscribe_pair : ∃ packet,
    mqttSerializeSubscribe 500 0 7 [({ cstring := some (str "a") }, 0), ({ cstring := some (str "b/#") }, 1)] =
        some packet ∧
      mqttDeserializeSubscribe (packet ++ [0]) = some (1, some ⟨0, 7, [(str "a", [0]), (str "b/#", [1])]⟩) := by
  refine ⟨_, rfl, ?_⟩
  apply @mqttDeserializeSubscribe_serialize 500 0 7
    [({ cstring := some (str "a") }, 0), ({ cstring := some (str "b/#") }, 1)]
  · decide
  · decide
  · decide
  · decide
  · rfl

theorem mqttDeserializeUnsubscribe_serialize {buflen dup packetid : Nat} {topicFilters : List MqttString}
    {packet : Bytes} (bounded : buflen ≤ 65536) (flag : dup < 2) (identifier : packetid < 65536)
    (single : ∀ topicFilter ∈ topicFilters, mqttStrlen topicFilter = topicFilter.text.length)
    (written : mqttSerializeUnsubscribe buflen dup packetid topicFilters = some packet) (behind : Bytes) :
    mqttDeserializeUnsubscribe (packet ++ behind) = some (1, some
      ⟨dup, packetid, topicFilters.map fun topicFilter => (topicFilter.text, [])⟩) := by
  have received : deserializeRequest MsgType.unsubscribe 0 0 (packet ++ behind) = _ :=
    deserializeRequest_serialize bounded ⟨by decide, flag⟩ identifier (fun entry there => by
      obtain ⟨topicFilter, member, rfl⟩ := List.mem_map.mp there
      exact ⟨single topicFilter member, rfl⟩) written behind
  rw [mqttDeserializeUnsubscribe, received, List.map_map]
  rfl

theorem mqttDeserializeUnsubscribe_pair : ∃ packet,
    mqttSerializeUnsubscribe 500 1 7 [{ lenstring := some (str "b/#") }, { cstring := some (str "c/+/d") }] =
        some packet ∧
      mqttDeserializeUnsubscribe (packet ++ [0]) = some (1, some ⟨1, 7, [(str "b/#", []), (str "c/+/d", [])]⟩) := by
  refine ⟨_, rfl, ?_⟩
  apply @mqttDeserializeUnsubscribe_serialize 500 1 7
    [{ lenstring := some (str "b/#") }, { cstring := some (str "c/+/d") }]
  · decide
  · decide
  · decide
  · decide
  · rfl

/-! ## Acknowledgements -/

/-- None is refused: a body that ends before the identifier is reported by the number of the bytes of its
length, which is the code of success. -/
theorem mqttDeserializeAck_framed {body : Bytes} (small : body.length < 268435456) (header : UInt8)
    (behind : Bytes) :
    mqttDeserializeAck (framed header body ++ behind) =
      some (1, ⟨headerType header, headerDup header, (readInt body).map Prod.fst⟩) := by
  unfold mqttDeserializeAck
  rw [framed, List.append_assoc, List.cons_append, readChar_cons]
  simp only [Option.bind_eq_bind, Option.bind_some, mqttPacketDecodeBuf_varint small]
  cases read : readInt body with
  | none =>
      have short := (readInt_eq_none_iff body).mp read
      have one : (varint body.length).length = 1 := (length_varint_eq_one_iff _).mpr (by omega)
      rw [if_pos short, one]
      rfl
  | some pair =>
      obtain ⟨packetid, rest⟩ := pair
      obtain ⟨read', length, -⟩ := readInt_append behind read
      rw [if_neg (by omega), read']
      rfl

/-- Whatever has been received is an acknowledgement of the unsubscription. -/
theorem mqttDeserializeUnsuback_framed {body : Bytes} (small : body.length < 268435456) (header : UInt8)
    (behind : Bytes) :
    mqttDeserializeUnsuback (framed header body ++ behind) = some (1, (readInt body).map Prod.fst) := by
  unfold mqttDeserializeUnsuback
  rw [mqttDeserializeAck_framed small]
  simp only [Option.bind_eq_bind, Option.bind_some, ite_self, Option.pure_def]

theorem mqttDeserializeUnsuback_publish :
    mqttDeserializeUnsuback (framed 0x30 [0, 1, 97] ++ []) = some (1, some 1) :=
  mqttDeserializeUnsuback_framed (by decide) 0x30 []

theorem mqttDeserializeAck_writeInt {packetid : Nat} (identifier : packetid < 65536) (header : UInt8)
    (behind : Bytes) : mqttDeserializeAck (header :: varint 2 ++ writeInt packetid ++ behind) =
      some (1, ⟨headerType header, headerDup header, some packetid⟩) := by
  have short : (writeInt packetid).length < 268435456 := by
    rw [length_writeInt]
    decide
  refine (mqttDeserializeAck_framed short header behind).trans ?_
  rw [readInt_writeInt_nil identifier]
  rfl

theorem mqttDeserializeAck_serialize {buflen packettype dup packetid : Nat} {packet : Bytes}
    (type : packettype < 16) (flag : dup < 2) (identifier : packetid < 65536)
    (written : mqttSerializeAck buflen packettype dup packetid = some packet) (behind : Bytes) :
    packet.length ≤ buflen ∧ mqttDeserializeAck (packet ++ behind) = some (1, ⟨packettype, dup, some packetid⟩) := by
  unfold mqttSerializeAck at written
  by_cases few : buflen < 4
  · rw [if_pos few] at written
    exact absurd written (Option.some_ne_none _).symm
  · rw [if_neg few] at written
    obtain rfl := Option.some.inj written
    constructor
    · rw [varint_two]
      exact Nat.not_lt.mp few
    · rw [mqttDeserializeAck_writeInt identifier, headerType_headerByte, headerDup_headerByte,
        Nat.mod_eq_of_lt type, Nat.mod_eq_of_lt flag]

theorem mqttDeserializeAck_pubrel : ∃ packet, mqttSerializeAck 4 MsgType.pubrel 1 7 = some packet ∧
    packet.length ≤ 4 ∧ mqttDeserializeAck (packet ++ [9]) = some (1, ⟨MsgType.pubrel, 1, some 7⟩) :=
  ⟨_, rfl, mqttDeserializeAck_serialize (by decide) (by decide) (by decide) rfl [9]⟩

/-! ## Answers -/

def mqttSerializeSuback (buflen packetid : Nat) (grantedQoSs : List Nat) : Option Bytes :=
  if buflen < 2 + grantedQoSs.length then none
  else
    some (headerByte MsgType.suback 0 0 0 :: varint (2 + grantedQoSs.length) ++
      (writeInt packetid ++ grantedQoSs.map UInt8.ofNat))

/-- The codes that are stored one behind the other, and whether all of them are. -/
def readCodes (enddata : Int) : (left : Nat) → Bytes → Option (List Nat × Bool)
  | 0, p => some ([], decide ((p.length : Int) ≤ enddata))
  | left + 1, p =>
      if (p.length : Int) ≤ enddata then some ([], true)
      else
        match p with
        | [] => none
        | code :: p => (readCodes enddata left p).map fun (codes, whole) => (code.toNat :: codes, whole)

-- `*count > maxcount` lets one code more pass than there is room for
def mqttDeserializeSuback (maxcount : Nat) (buf : Bytes) : Option (Int × Option (Nat × List Nat)) := do
  let (header, p) ← readChar buf
  if headerType header ≠ MsgType.suback then return (0, none)
  let (mylen, rc, p) ← mqttPacketDecodeBuf p
  let enddata : Int := p.length - mylen
  if mylen < 2 then return (rc, none)
  let (packetid, p) ← readInt p
  let (grantedQoSs, whole) ← readCodes enddata (maxcount + 1) p
  return (if whole then 1 else -1, some (packetid, grantedQoSs))

theorem readCodes_append (codes behind : Bytes) (left : Nat) :
    readCodes behind.length left (codes ++ behind) =
      some ((codes.take left).map UInt8.toNat, decide (codes.length ≤ left)) := by
  induction left generalizing codes with
  | zero => simp [readCodes]
  | succ left ih =>
      cases codes with
      | nil => simp [readCodes]
      | cons code codes =>
          have more : ¬ (((code :: (codes ++ behind)).length : Nat) : Int) ≤ behind.length := by
            rw [List.length_cons, List.length_append]
            omega
          rw [List.cons_append, readCodes, if_neg more, ih]
          simp

/-- An acknowledgement as it is received. A code more than there is room for is stored behind it. -/
theorem mqttDeserializeSuback_framed {header : UInt8} {body : Bytes} (small : body.length < 268435456)
    (suback : headerType header = MsgType.suback) (maxcount : Nat) (behind : Bytes) :
    mqttDeserializeSuback maxcount (framed header body ++ behind) =
      match readInt body with
      | none => some (((varint body.length).length : Int), none)
      | some (packetid, codes) =>
          some (if codes.length ≤ maxcount + 1 then 1 else -1,
            some (packetid, (codes.take (maxcount + 1)).map UInt8.toNat)) := by
  have enddata : ((body ++ behind).length : Int) - body.length = behind.length := by
    rw [List.length_append]
    omega
  unfold mqttDeserializeSuback
  rw [framed, List.append_assoc, List.cons_append, readChar_cons]
  simp only [Option.bind_eq_bind, Option.bind_some, suback, ne_eq, not_true_eq_false, if_false,
    mqttPacketDecodeBuf_varint small, enddata]
  cases read : readInt body with
  | none =>
      rw [if_pos ((readInt_eq_none_iff body).mp read)]
      rfl
  | some pair =>
      obtain ⟨packetid, codes⟩ := pair
      obtain ⟨read', length, -⟩ := readInt_append behind read
      rw [if_neg (by omega), read']
      simp only [Option.bind_some, readCodes_append, decide_eq_true_eq]
      rfl

/-- The codes of a server are read as they were serialized, as far as there is room for them. The packet takes
the bytes of its header more than are asked for. -/
theorem mqttDeserializeSuback_serialize {buflen packetid : Nat} {grantedQoSs : List Nat} {packet : Bytes}
    (few : grantedQoSs.length < 268435454) (identifier : packetid < 65536) (codes : ∀ code ∈ grantedQoSs, code < 256)
    (written : mqttSerializeSuback buflen packetid grantedQoSs = some packet) (maxcount : Nat) (behind : Bytes) :
    packet.length = 3 + (varint (2 + grantedQoSs.length)).length + grantedQoSs.length ∧
      mqttDeserializeSuback maxcount (packet ++ behind) =
        some (if grantedQoSs.length ≤ maxcount + 1 then 1 else -1,
          some (packetid, grantedQoSs.take (maxcount + 1))) := by
  unfold mqttSerializeSuback at written
  split_ifs at written with room
  obtain rfl := Option.some.inj written
  have length : (writeInt packetid ++ grantedQoSs.map UInt8.ofNat).length = 2 + grantedQoSs.length := by
    rw [List.length_append, length_writeInt, List.length_map]
  have back : (grantedQoSs.map UInt8.ofNat).map UInt8.toNat = grantedQoSs := by
    rw [List.map_map]
    exact (List.map_congr_left fun code member => toNat_ofNat_of_lt (codes code member)).trans (List.map_id _)
  constructor
  · simp only [List.length_append, List.length_cons, length_writeInt, List.length_map]
    omega
  · rw [← length]
    refine (mqttDeserializeSuback_framed (by omega) (headerType_headerByte ..) maxcount behind).trans ?_
    rw [readInt_writeInt identifier]
    simp only [List.length_map, List.map_take, back]

theorem mqttDeserializeSuback_three : ∃ packet, mqttSerializeSuback 5 7 [0, 1, 2] = some packet ∧
    packet.length = 7 ∧ mqttDeserializeSuback 1 (packet ++ []) = some (-1, some (7, [0, 1])) := by
  obtain ⟨length, read⟩ :=
    @mqttDeserializeSuback_serialize 5 7 [0, 1, 2] _ (by decide) (by decide) (by decide) rfl 1 []
  refine ⟨_, rfl, length.trans ?_, read⟩
  rw [varint_of_lt (by decide)]
  rfl

/-- What `subscribe` takes for the QoS that its answer grants, which it has set to 0 before; none where the
answer is a failure. -/
def grantedCode (readbuf : Bytes) : Option (Option Int) :=
  (mqttDeserializeSuback 1 readbuf).map fun (rc, values) =>
    if rc = 1 then some (((values.bind fun (_, grantedQoSs) => grantedQoSs.head?).getD 0 : Nat) : Int) else none

/-- An answer without a code grants, too. The variable holds one code, and the second of an answer is stored
behind it. -/
theorem grantedCode_framed {header : UInt8} {body : Bytes} (small : body.length < 268435456)
    (suback : headerType header = MsgType.suback) (behind : Bytes) :
    grantedCode (framed header body ++ behind) =
        some (if body.length ≤ 4 then some (((body[2]?.map UInt8.toNat).getD 0 : Nat) : Int) else none) ∧
      ∀ rc packetid grantedQoSs, mqttDeserializeSuback 1 (framed header body ++ behind) =
        some (rc, some (packetid, grantedQoSs)) → (1 < grantedQoSs.length ↔ 4 ≤ body.length) := by
  unfold grantedCode
  rw [mqttDeserializeSuback_framed small suback]
  cases read : readInt body with
  | none =>
      have short := (readInt_eq_none_iff body).mp read
      have one : (varint body.length).length = 1 := (length_varint_eq_one_iff _).mpr (by omega)
      simp [one, List.getElem?_eq_none (by omega : body.length ≤ 2), (by omega : body.length ≤ 4)]
  | some pair =>
      obtain ⟨packetid, codes⟩ := pair
      obtain ⟨high, low, rfl⟩ : ∃ high low, body = high :: low :: codes := by
        match body, read with
        | high :: low :: rest, read => exact ⟨high, low, by cases read; rfl⟩
      constructor
      · have few : (high :: low :: codes).length ≤ 4 ↔ codes.length ≤ 2 := by
          simp only [List.length_cons]
          omega
        have first : (high :: low :: codes)[2]? = codes.head? := by
          cases codes <;> rfl
        rw [first]
        by_cases fits : codes.length ≤ 2
        · cases codes <;> simp_all
        · rw [if_neg (mt few.mp fits)]
          simp [fits]
      · rintro rc packetid' grantedQoSs same
        cases same
        simp
        omega

theorem grantedCode_pair : grantedCode (framed 0x90 [0, 7, 1, 0x80] ++ []) = some (some 1) :=
  (grantedCode_framed (by decide) (by decide) []).1

end DecadaEmbedded.Mqtt
