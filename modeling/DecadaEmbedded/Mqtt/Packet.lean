import DecadaEmbedded.Library.Varint
import DecadaEmbedded.Mqtt.Client

/-!
# `lib/MQTT/MQTTPacket`

The packets as bytes. A serializer gives the packet, or none where it returns
`MQTTPACKET_BUFFER_TOO_SHORT`. A deserializer reads memory that begins at a packet: a pointer into it is
the memory from there on, and the end of the data is given by how much memory is behind it. None stands
for a read outside of the memory. A result is the return code with the values, where they are set.
-/

namespace DecadaEmbedded.Mqtt
open Library

namespace MsgType

def connect : Nat := 1
def connack : Nat := 2
def publish : Nat := 3
def pubrel : Nat := 6
def subscribe : Nat := 8
def suback : Nat := 9
def unsubscribe : Nat := 10
def unsuback : Nat := 11

end MsgType

/-! ## `MQTTPacket.c` -/

-- the bits of `MQTTHeader`, each of which takes as much of its value as it holds
def headerByte (type dup qos retain : Nat) : UInt8 :=
  UInt8.ofNat (type % 16 * 16 + dup % 2 * 8 + qos % 4 * 2 + retain % 2)

def headerType (header : UInt8) : Nat := header.toNat / 16
def headerDup (header : UInt8) : Nat := header.toNat / 8 % 2
def headerQos (header : UInt8) : Nat := header.toNat / 2 % 4
def headerRetain (header : UInt8) : Nat := header.toNat % 2

def writeInt (anInt : Nat) : Bytes := [UInt8.ofNat (anInt / 256), UInt8.ofNat (anInt % 256)]

/-- A pointer that is null is none; that of a `lenstring` comes with its length. -/
structure MqttString where
  cstring : Option Bytes := none
  lenstring : Option Bytes := none
deriving DecidableEq, Repr

def MqttString.isSet (string : MqttString) : Bool := string.cstring.isSome || string.lenstring.isSome

def writeCString (string : Bytes) : Bytes := writeInt (cstr string).length ++ cstr string

def writeMqttString (string : MqttString) : Bytes :=
  let data := string.lenstring.getD []
  if 0 < data.length then writeInt data.length ++ data
  else
    match string.cstring with
    | some cstring => writeCString cstring
    | none => writeInt 0

def mqttStrlen (string : MqttString) : Nat :=
  match string.cstring with
  | some cstring => (cstr cstring).length
  | none => (string.lenstring.getD []).length

def readChar : Bytes → Option (UInt8 × Bytes)
  | [] => none
  | c :: p => some (c, p)

def readInt (p : Bytes) : Option (Nat × Bytes) := do
  let (high, p) ← readChar p
  let (low, p) ← readChar p
  return (256 * high.toNat + low.toNat, p)

/-- The outer none is a read outside of the memory, the inner one the result 0. -/
def readMqttLenString (p : Bytes) (enddata : Int) : Option (Option (Bytes × Bytes)) :=
  if (p.length : Int) - enddata ≤ 1 then some none
  else do
    let (len, p) ← readInt p
    if enddata ≤ (p.length : Int) - len then
      if p.length < len then none else return some (p.take len, p.drop len)
    else return none

def bufchar (p : Bytes) : Option UInt8 × Bytes := (p.head?, p.tail)

-- the value, the result and `curdata` moved by it
def mqttPacketDecodeBuf (p : Bytes) : Option (Nat × Nat × Bytes) :=
  let (value, len, _) := readVarint bufchar 4 1 0 0 p
  if len ≤ p.length then some (value, len, p.drop len) else none

/-- What the serializers share: the length that is checked and written is not that of the bytes that follow
but one computed before. -/
def writePacket (buflen : Nat) (header : UInt8) (remLen : Nat) (body : Bytes) : Option Bytes :=
  if buflen < mqttPacketLen remLen then none else some (header :: varint remLen ++ body)

/-! ## Publications and acknowledgements -/

structure Message where
  dup : Nat
  qos : Nat
  retained : Nat
  id : Option Nat
  topicName : Bytes
  -- the memory from the payload on
  payload : Bytes
  payloadlen : Int
deriving DecidableEq, Repr

def mqttSerializePublishRemLen (qos : Nat) (topicName : MqttString) (payloadlen : Nat) : Nat :=
  2 + mqttStrlen topicName + payloadlen + if 0 < qos then 2 else 0

def mqttSerializePublish (buflen dup qos retained packetid : Nat) (topicName : MqttString)
    (payload : Bytes) : Option Bytes :=
  writePacket buflen (headerByte MsgType.publish dup qos retained)
    (mqttSerializePublishRemLen qos topicName payload.length)
    (writeMqttString topicName ++ (if 0 < qos then writeInt packetid else []) ++ payload)

def mqttSerializeAck (buflen packettype dup packetid : Nat) : Option Bytes :=
  if buflen < 4 then none
  else
    some (headerByte packettype dup (if packettype = MsgType.pubrel then 1 else 0) 0 ::
      varint 2 ++ writeInt packetid)

def mqttDeserializePublish (buf : Bytes) : Option (Int × Option Message) := do
  let (header, p) ← readChar buf
  if headerType header ≠ MsgType.publish then return (0, none)
  let (mylen, rc, p) ← mqttPacketDecodeBuf p
  let enddata : Int := p.length - mylen
  match ← readMqttLenString p enddata with
  | none => return (rc, none)
  | some (topicName, p) =>
      if (p.length : Int) - enddata < 0 then return (rc, none)
      let (id, p) ← if 0 < headerQos header then (readInt p).map (Prod.map some id) else pure (none, p)
      return (1, some
        { dup := headerDup header, qos := headerQos header, retained := headerRetain header, id, topicName
          payload := p, payloadlen := p.length - enddata })

structure Ack where
  packettype : Nat
  dup : Nat
  packetid : Option Nat
deriving DecidableEq, Repr

def mqttDeserializeAck (buf : Bytes) : Option (Int × Ack) := do
  let (header, p) ← readChar buf
  let (mylen, rc, p) ← mqttPacketDecodeBuf p
  if mylen < 2 then return (rc, ⟨headerType header, headerDup header, none⟩)
  let (packetid, _) ← readInt p
  return (1, ⟨headerType header, headerDup header, some packetid⟩)

def mqttDeserializeUnsuback (buf : Bytes) : Option (Int × Option Nat) := do
  let (rc, ack) ← mqttDeserializeAck buf
  return (if ack.packettype = MsgType.unsuback then 1 else rc, ack.packetid)

/-! ## Reading what has been written -/

section Header
variable (type dup qos retain : Nat)

theorem headerByte_toNat : (headerByte type dup qos retain).toNat =
    type % 16 * 16 + dup % 2 * 8 + qos % 4 * 2 + retain % 2 :=
  toNat_ofNat_of_lt (by omega)

@[simp] theorem headerType_headerByte : headerType (headerByte type dup qos retain) = type % 16 := by
  rw [headerType, headerByte_toNat]
  omega

@[simp] theorem headerDup_headerByte : headerDup (headerByte type dup qos retain) = dup % 2 := by
  rw [headerDup, headerByte_toNat]
  omega

@[simp] theorem headerQos_headerByte : headerQos (headerByte type dup qos retain) = qos % 4 := by
  rw [headerQos, headerByte_toNat]
  omega

@[simp] theorem headerRetain_headerByte : headerRetain (headerByte type dup qos retain) = retain % 2 := by
  rw [headerRetain, headerByte_toNat]
  omega

end Header

@[simp] theorem readChar_cons (c : UInt8) (p : Bytes) : readChar (c :: p) = some (c, p) := rfl

theorem readInt_writeInt {n : Nat} (small : n < 65536) (rest : Bytes) :
    readInt (writeInt n ++ rest) = some (n, rest) := by
  have high := toNat_ofNat_of_lt (show n / 256 < 256 by omega)
  have low := toNat_ofNat_of_lt (show n % 256 < 256 by omega)
  simp only [readInt, writeInt, List.cons_append, List.nil_append, readChar_cons, Option.bind_eq_bind, Option.bind_some,
    high, low, Nat.div_add_mod, Option.pure_def]

theorem readInt_writeInt_nil {n : Nat} (small : n < 65536) : readInt (writeInt n) = some (n, []) := by
  have read := readInt_writeInt small []
  rwa [List.append_nil] at read

@[simp] theorem length_writeInt (n : Nat) : (writeInt n).length = 2 := rfl

theorem gives_bufchar (bytes rest : Bytes) : Gives bufchar (bytes ++ rest) bytes rest := by
  induction bytes with
  | nil => rfl
  | cons c bytes ih => exact ⟨_, rfl, ih⟩

theorem length_varint (n : Nat) : (varint n).length = mqttPacketEncode n := by
  induction n using Nat.strong_induction_on with
  | _ n ih =>
      rw [varint, mqttPacketEncode]
      split_ifs with last
      · rfl
      · rw [List.length_cons, ih (n / 128) (by omega)]

theorem varint_two : varint 2 = [2] := varint_of_lt (by decide)

theorem mqttPacketDecodeBuf_varint {n : Nat} (small : n < 268435456) (rest : Bytes) :
    mqttPacketDecodeBuf (varint n ++ rest) = some (n, (varint n).length, rest) := by
  have read := readVarint_varint (k := 4) (by decide) small (gives_bufchar (varint n) rest) 1 0 0
  rw [Nat.mul_one, Nat.zero_add, Nat.zero_add] at read
  rw [mqttPacketDecodeBuf, read]
  simp

/-- The bytes that a string stands for in a packet. -/
def MqttString.text (string : MqttString) : Bytes :=
  let data := string.lenstring.getD []
  if 0 < data.length then data else cstr (string.cstring.getD [])

theorem writeMqttString_eq (string : MqttString) :
    writeMqttString string = writeInt string.text.length ++ string.text := by
  unfold writeMqttString MqttString.text
  dsimp only
  split_ifs
  · rfl
  · cases string.cstring with
    | none => rfl
    | some cstring => rfl

/-- A string with both of its pointers set is counted by the one and written by the other. -/
theorem mqttStrlen_eq_iff (string : MqttString) : mqttStrlen string = string.text.length ↔
    ∀ cstring data, string.cstring = some cstring → string.lenstring = some data → data ≠ [] →
      (cstr cstring).length = data.length := by
  obtain ⟨cstring | cstring, lenstring | data⟩ := string
  · simp [mqttStrlen, MqttString.text]
  · by_cases empty : data = []
    · simp [mqttStrlen, MqttString.text, empty]
    · simp [mqttStrlen, MqttString.text, List.length_pos_iff.mpr empty]
  · simp [mqttStrlen, MqttString.text]
  · by_cases empty : data = []
    · simp [mqttStrlen, MqttString.text, empty]
    · simp [mqttStrlen, MqttString.text, empty, List.length_pos_iff.mpr empty]

theorem readMqttLenString_writeInt {data : Bytes} (short : data.length < 65536) (rest : Bytes) {enddata : Int}
    (inside : enddata ≤ rest.length) :
    readMqttLenString (writeInt data.length ++ data ++ rest) enddata = some (some (data, rest)) := by
  have longer : ¬ ((writeInt data.length ++ data ++ rest).length : Int) - enddata ≤ 1 := by
    simp only [List.length_append, length_writeInt]
    omega
  unfold readMqttLenString
  rw [if_neg longer, List.append_assoc, readInt_writeInt short]
  have reaches : enddata ≤ ((data ++ rest).length : Int) - data.length := by
    rw [List.length_append]
    omega
  simp only [Option.bind_eq_bind, Option.bind_some, if_pos reaches]
  rw [if_neg (by rw [List.length_append]; omega), List.take_left, List.drop_left]
  rfl

theorem readMqttLenString_write {string : MqttString} (short : string.text.length < 65536) (rest : Bytes)
    {enddata : Int} (inside : enddata ≤ rest.length) :
    readMqttLenString (writeMqttString string ++ rest) enddata = some (some (string.text, rest)) := by
  rw [writeMqttString_eq, readMqttLenString_writeInt short rest inside]

/-- The length that a serializer checks is enough, by one byte more than needed at most. -/
theorem mqttPacketLen_bounds {remLen : Nat} (small : remLen < 268435456) :
    1 + (varint remLen).length + remLen ≤ mqttPacketLen remLen ∧
      mqttPacketLen remLen ≤ 1 + (varint remLen).length + remLen + 1 := by
  have one := length_varint_le_iff (n := remLen) (k := 1) (by decide)
  have two := length_varint_le_iff (n := remLen) (k := 2) (by decide)
  have three := length_varint_le_iff (n := remLen) (k := 3) (by decide)
  have four := (length_varint_le_iff (n := remLen) (k := 4) (by decide)).mpr small
  have some' := length_varint_pos remLen
  norm_num at one two three
  unfold mqttPacketLen
  dsimp only
  split_ifs <;> omega

theorem writePacket_eq_some {buflen remLen : Nat} {header : UInt8} {body packet : Bytes}
    (written : writePacket buflen header remLen body = some packet) :
    mqttPacketLen remLen ≤ buflen ∧ packet = header :: varint remLen ++ body := by
  unfold writePacket at written
  split_ifs at written with exceeds
  exact ⟨Nat.not_lt.mp exceeds, (Option.some.inj written).symm⟩

theorem lt_of_mqttPacketLen_le {buflen remLen : Nat} (fits : mqttPacketLen remLen ≤ buflen) :
    remLen + 1 < buflen := by
  unfold mqttPacketLen at fits
  dsimp only at fits
  split_ifs at fits <;> omega

end DecadaEmbedded.Mqtt
