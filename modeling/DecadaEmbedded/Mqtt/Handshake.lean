import DecadaEmbedded.Mqtt.Publication

/-!
# `MQTTConnectClient.c` and `MQTTConnectServer.c`

The packet that opens a session and the one that answers it, each with both of its ends.
-/

namespace DecadaEmbedded.Mqtt
open Library

/-! ## CONNECT -/

structure WillOptions where
  topicName : MqttString := {}
  message : MqttString := {}
  retained : Nat := 0
  qos : Nat := 0

structure ConnectOptions where
  mqttVersion : Nat := 4
  clientID : MqttString := {}
  keepAliveInterval : Nat := 60
  cleansession : Nat := 1
  willFlag : Bool := false
  will : WillOptions := {}
  username : MqttString := {}
  password : MqttString := {}

def mqttSerializeConnectRemLen (options : ConnectOptions) : Nat :=
  (if options.mqttVersion = 3 then 12 else if options.mqttVersion = 4 then 10 else 0) +
    (mqttStrlen options.clientID + 2) +
    (if options.willFlag then mqttStrlen options.will.topicName + 2 + (mqttStrlen options.will.message + 2) else 0) +
    (if options.username.isSet then mqttStrlen options.username + 2 else 0) +
    if options.password.isSet then mqttStrlen options.password + 2 else 0

-- the bits of `MQTTConnectFlags`
def connectFlags (options : ConnectOptions) : UInt8 :=
  UInt8.ofNat (options.cleansession % 2 * 2 +
    (if options.willFlag then 4 + options.will.qos % 4 * 8 + options.will.retained % 2 * 32 else 0) +
    options.password.isSet.toNat * 64 + options.username.isSet.toNat * 128)

def connectBody (options : ConnectOptions) : Bytes :=
  (if options.mqttVersion = 4 then writeCString (str "MQTT") ++ [4] else writeCString (str "MQIsdp") ++ [3]) ++
    [connectFlags options] ++ writeInt options.keepAliveInterval ++ writeMqttString options.clientID ++
    (if options.willFlag then
      writeMqttString options.will.topicName ++ writeMqttString options.will.message
    else []) ++
    (if options.username.isSet then writeMqttString options.username else []) ++
    if options.password.isSet then writeMqttString options.password else []

def mqttSerializeConnect (buflen : Nat) (options : ConnectOptions) : Option Bytes :=
  writePacket buflen (headerByte MsgType.connect 0 0 0) (mqttSerializeConnectRemLen options) (connectBody options)

/-- The values that are filled in when the result is 1. -/
structure ConnectRead where
  cleansession : Nat
  keepAliveInterval : Nat
  clientID : Bytes
  will : Option (Nat × Nat × Bytes × Bytes)
  username : Option Bytes
  password : Option Bytes
deriving DecidableEq, Repr

-- `MQIdsp`, where the client writes `MQIsdp`
def mqttPacketCheckVersion (protocol : Bytes) (version : UInt8) : Bool :=
  version = 3 && (protocol.take 6).isPrefixOf (str "MQIdsp") ||
    version = 4 && (protocol.take 4).isPrefixOf (str "MQTT")

/-- A string, and what follows unless the result is 0. -/
def readString {α : Type} (p : Bytes) (enddata : Int) (next : Bytes → Bytes → Option (Option α)) :
    Option (Option α) :=
  match readMqttLenString p enddata with
  | none => none
  | some none => some none
  | some (some (string, p)) => next string p

-- the user name and the password, at the end of the packet
def readLogin (flags : UInt8) (read : ConnectRead) (p : Bytes) (enddata : Int) : Option (Option ConnectRead) :=
  if flags.toNat / 128 % 2 = 1 then
    if (p.length : Int) - enddata < 3 then some none
    else
      readString p enddata fun username p =>
        if flags.toNat / 64 % 2 = 1 then
          if (p.length : Int) - enddata < 3 then some none
          else
            readString p enddata fun password _ =>
              some (some { read with username := some username, password := some password })
        else some (some { read with username := some username })
  else if flags.toNat / 64 % 2 = 1 then some none
  else some (some read)

-- behind the fixed header
def readConnect (p : Bytes) (enddata : Int) : Option (Option ConnectRead) :=
  readString p enddata fun protocol p => do
    let (version, p) ← readChar p
    if !mqttPacketCheckVersion protocol version then return none
    let (flags, p) ← readChar p
    let (keepAliveInterval, p) ← readInt p
    readString p enddata fun clientID p =>
      let read : ConnectRead :=
        { cleansession := flags.toNat / 2 % 2, keepAliveInterval, clientID, will := none, username := none
          password := none }
      if flags.toNat / 4 % 2 = 1 then
        readString p enddata fun topicName p =>
          readString p enddata fun message p =>
            readLogin flags
              { read with will := some (flags.toNat / 8 % 4, flags.toNat / 32 % 2, topicName, message) } p enddata
      else readLogin flags read p enddata

def mqttDeserializeConnect (buf : Bytes) (len : Nat) : Option (Option ConnectRead) := do
  let (header, p) ← readChar buf
  if headerType header ≠ MsgType.connect then return none
  let (_, _, p) ← mqttPacketDecodeBuf p
  readConnect p (buf.length - len)

/-! ## A connection request as it is received -/

section Strings
variable {α : Type} {enddata : Int} (next : Bytes → Bytes → Option (Option α))

theorem readString_writeInt {data : Bytes} (short : data.length < 65536) {rest : Bytes}
    (inside : enddata ≤ rest.length) :
    readString (writeInt data.length ++ (data ++ rest)) enddata next = next data rest := by
  rw [readString, ← List.append_assoc, readMqttLenString_writeInt short rest inside]

theorem readString_write {string : MqttString} (short : string.text.length < 65536) {rest : Bytes}
    (inside : enddata ≤ rest.length) :
    readString (writeMqttString string ++ rest) enddata next = next string.text rest := by
  rw [readString, readMqttLenString_write short rest inside]

end Strings

section Flags
variable (options : ConnectOptions)

theorem connectFlags_toNat : (connectFlags options).toNat = options.cleansession % 2 * 2 +
    (if options.willFlag then 4 + options.will.qos % 4 * 8 + options.will.retained % 2 * 32 else 0) +
    options.password.isSet.toNat * 64 + options.username.isSet.toNat * 128 := by
  refine toNat_ofNat_of_lt ?_
  have := Bool.toNat_le options.password.isSet
  have := Bool.toNat_le options.username.isSet
  split_ifs <;> omega

theorem connectFlags_cleansession : (connectFlags options).toNat / 2 % 2 = options.cleansession % 2 := by
  rw [connectFlags_toNat]
  split_ifs <;> omega

theorem connectFlags_willFlag : (connectFlags options).toNat / 4 % 2 = options.willFlag.toNat := by
  rw [connectFlags_toNat]
  cases options.willFlag <;> simp only [Bool.false_eq_true, if_false, if_true, Bool.toNat_false, Bool.toNat_true] <;>
    omega

theorem connectFlags_will (will : options.willFlag = true) :
    (connectFlags options).toNat / 8 % 4 = options.will.qos % 4 ∧
      (connectFlags options).toNat / 32 % 2 = options.will.retained % 2 := by
  rw [connectFlags_toNat, if_pos will]
  omega

theorem connectFlags_password : (connectFlags options).toNat / 64 % 2 = options.password.isSet.toNat := by
  have := Bool.toNat_le options.password.isSet
  rw [connectFlags_toNat]
  split_ifs <;> omega

theorem connectFlags_username : (connectFlags options).toNat / 128 % 2 = options.username.isSet.toNat := by
  have := Bool.toNat_le options.password.isSet
  have := Bool.toNat_le options.username.isSet
  rw [connectFlags_toNat]
  split_ifs <;> omega

end Flags

namespace ConnectOptions

/-- The login is read if there is a user name with a password, and the last of what there is says
something. -/
def loginReadable (options : ConnectOptions) : Bool :=
  if options.username.isSet then
    if options.password.isSet then options.password.text ≠ [] else options.username.text ≠ []
  else !options.password.isSet

def read (options : ConnectOptions) : ConnectRead where
  cleansession := options.cleansession
  keepAliveInterval := options.keepAliveInterval
  clientID := options.clientID.text
  will :=
    if options.willFlag then
      some (options.will.qos, options.will.retained, options.will.topicName.text, options.will.message.text)
    else none
  username := if options.username.isSet then some options.username.text else none
  password := if options.password.isSet then some options.password.text else none

end ConnectOptions

theorem readLogin_write {options : ConnectOptions} (username : options.username.text.length < 65536)
    (password : options.password.text.length < 65536) (behind : Bytes) (read : ConnectRead)
    (fresh : read.username = none ∧ read.password = none) :
    readLogin (connectFlags options) read
        ((if options.username.isSet then writeMqttString options.username else []) ++
          (if options.password.isSet then writeMqttString options.password else []) ++ behind) behind.length =
      some (if options.loginReadable then some { read with
          username := if options.username.isSet then some options.username.text else none
          password := if options.password.isSet then some options.password.text else none }
        else none) := by
  obtain ⟨noName, noWord⟩ := fresh
  have lengths (string : MqttString) (rest : Bytes) :
      ((writeMqttString string ++ rest).length : Int) = 2 + string.text.length + rest.length := by
    rw [writeMqttString_eq]
    simp only [List.length_append, length_writeInt]
    push_cast
    ring
  have short (string : MqttString) (rest : Bytes) :
      ((writeMqttString string ++ rest).length : Int) - rest.length < 3 ↔ string.text = [] := by
    rw [lengths, ← List.length_eq_zero_iff]
    omega
  have inside (rest : Bytes) : ((behind.length : Nat) : Int) ≤ (rest ++ behind).length := by
    rw [List.length_append]
    omega
  obtain ⟨cleansession, keepAliveInterval, clientID, will, _, _⟩ := read
  subst noName noWord
  unfold readLogin ConnectOptions.loginReadable
  rw [connectFlags_username, connectFlags_password]
  cases named : options.username.isSet with
  | false => cases options.password.isSet <;> rfl
  | true =>
      cases options.password.isSet with
      | false =>
          simp only [Bool.toNat_true, Bool.toNat_false, if_true, List.append_nil, Bool.false_eq_true, if_false,
            short, readString_write _ username le_rfl, zero_ne_one]
          by_cases empty : options.username.text = [] <;> simp [empty]
      | true =>
          have more : ¬ ((writeMqttString options.username ++
              (writeMqttString options.password ++ behind)).length : Int) - behind.length < 3 := by
            rw [lengths, lengths]
            omega
          simp only [Bool.toNat_true, if_true, List.append_assoc, if_neg more, short,
            readString_write _ username (inside _), readString_write _ password le_rfl]
          by_cases empty : options.password.text = [] <;> simp [empty]

theorem text_of_not_isSet {string : MqttString} (unset : string.isSet = false) : string.text = [] := by
  obtain ⟨_ | cstring, _ | lenstring⟩ := string
  · rfl
  all_goals cases unset

theorem length_writeMqttString (string : MqttString) : (writeMqttString string).length = 2 + string.text.length := by
  rw [writeMqttString_eq, List.length_append, length_writeInt]

theorem length_connectBody {options : ConnectOptions}
    (version : options.mqttVersion = 3 ∨ options.mqttVersion = 4)
    (single : ∀ string ∈ [options.clientID, options.will.topicName, options.will.message, options.username,
      options.password], mqttStrlen string = string.text.length) :
    (connectBody options).length = mqttSerializeConnectRemLen options := by
  simp only [List.forall_mem_cons, List.not_mem_nil, false_imp_iff, implies_true, and_true] at single
  obtain ⟨clientID, topicName, message, username, password⟩ := single
  have protocol : (if options.mqttVersion = 4 then writeCString (str "MQTT") ++ [4]
        else writeCString (str "MQIsdp") ++ [3]).length + 3 =
      if options.mqttVersion = 3 then 12 else if options.mqttVersion = 4 then 10 else 0 := by
    rcases version with version | version <;> rw [version] <;> decide
  unfold connectBody mqttSerializeConnectRemLen
  rw [clientID, topicName, message, username, password, ← protocol]
  simp only [List.length_append, apply_ite List.length, length_writeMqttString, length_writeInt,
    List.length_singleton, List.length_nil]
  split_ifs <;> omega

theorem mqttDeserializeConnect_framed {body : Bytes} (small : body.length < 268435456) (behind : Bytes) :
    mqttDeserializeConnect (framed (headerByte MsgType.connect 0 0 0) body ++ behind)
        (framed (headerByte MsgType.connect 0 0 0) body).length = readConnect (body ++ behind) behind.length := by
  have enddata : ((framed (headerByte MsgType.connect 0 0 0) body ++ behind).length : Int) -
      (framed (headerByte MsgType.connect 0 0 0) body).length = behind.length := by
    rw [List.length_append]
    omega
  unfold mqttDeserializeConnect
  rw [enddata, framed, List.append_assoc, List.cons_append, readChar_cons]
  simp only [Option.bind_eq_bind, Option.bind_some, headerType_headerByte, mqttPacketDecodeBuf_varint small]
  rfl

theorem readConnect_connectBody {options : ConnectOptions} (version : options.mqttVersion = 3 ∨ options.mqttVersion = 4)
    (flags : options.cleansession < 2 ∧ options.will.qos < 4 ∧ options.will.retained < 2)
    (interval : options.keepAliveInterval < 65536) (clientID : options.clientID.text.length < 65536)
    (will : options.willFlag → options.will.topicName.text.length < 65536 ∧ options.will.message.text.length < 65536)
    (username : options.username.text.length < 65536) (password : options.password.text.length < 65536)
    (behind : Bytes) :
    readConnect (connectBody options ++ behind) behind.length =
      some (if options.mqttVersion = 4 ∧ options.loginReadable then some options.read else none) := by
  have inside (rest : Bytes) : ((behind.length : Nat) : Int) ≤ (rest ++ behind).length := by
    rw [List.length_append]
    omega
  unfold readConnect connectBody
  rcases version with version | version
  · simp only [version, if_neg (by decide : ¬ 3 = 4), writeCString, List.append_assoc]
    rw [readString_writeInt _ (by decide) (by simp only [← List.append_assoc]; exact inside _)]
    rfl
  · obtain ⟨cleansession, qos, retained⟩ := flags
    simp only [version, if_true, true_and, writeCString, List.append_assoc]
    rw [readString_writeInt _ (by decide) (by simp only [← List.append_assoc]; exact inside _)]
    simp only [List.singleton_append, readChar_cons, Option.bind_eq_bind, Option.bind_some,
      (by decide : mqttPacketCheckVersion (cstr (str "MQTT")) 4 = true), Bool.not_true, Bool.false_eq_true, if_false,
      readInt_writeInt interval]
    rw [readString_write _ clientID (by simp only [← List.append_assoc]; exact inside _)]
    simp only [connectFlags_willFlag, connectFlags_cleansession, Nat.mod_eq_of_lt cleansession]
    have login (will : Option (Nat × Nat × Bytes × Bytes)) (same : options.read.will = will) :
        readLogin (connectFlags options)
            { cleansession := options.cleansession, keepAliveInterval := options.keepAliveInterval
              clientID := options.clientID.text, will, username := none, password := none }
            ((if options.username.isSet then writeMqttString options.username else []) ++
              ((if options.password.isSet then writeMqttString options.password else []) ++ behind)) behind.length =
          some (if options.loginReadable then some options.read else none) := by
      have read := readLogin_write username password behind
        ⟨options.cleansession, options.keepAliveInterval, options.clientID.text, will, none, none⟩ ⟨rfl, rfl⟩
      rw [List.append_assoc] at read
      rw [read, ← same]
      rfl
    cases willFlag : options.willFlag with
    | false =>
        simp only [Bool.toNat_false, zero_ne_one, if_false, Bool.false_eq_true, List.nil_append]
        exact login none (if_neg (by rw [willFlag]; decide))
    | true =>
        obtain ⟨topicName, message⟩ := will willFlag
        obtain ⟨qosBits, retainBit⟩ := connectFlags_will options willFlag
        rw [Nat.mod_eq_of_lt qos] at qosBits
        rw [Nat.mod_eq_of_lt retained] at retainBit
        simp only [Bool.toNat_true, if_true, List.append_assoc, qosBits, retainBit]
        rw [readString_write _ topicName (by simp only [← List.append_assoc]; exact inside _),
          readString_write _ message (by simp only [← List.append_assoc]; exact inside _)]
        exact login _ (if_pos willFlag)

/-- The server end reads what the client end has written, if it is of version 4 and the login is one that it
reads; it does not know the name of version 3 as the client writes it. -/
theorem mqttDeserializeConnect_serialize {buflen : Nat} {options : ConnectOptions} {packet : Bytes}
    (bounded : buflen ≤ 65536) (version : options.mqttVersion = 3 ∨ options.mqttVersion = 4)
    (single : ∀ string ∈ [options.clientID, options.will.topicName, options.will.message, options.username,
      options.password], mqttStrlen string = string.text.length)
    (flags : options.cleansession < 2 ∧ options.will.qos < 4 ∧ options.will.retained < 2)
    (interval : options.keepAliveInterval < 65536) (written : mqttSerializeConnect buflen options = some packet)
    (behind : Bytes) :
    mqttDeserializeConnect (packet ++ behind) packet.length =
      some (if options.mqttVersion = 4 ∧ options.loginReadable then some options.read else none) := by
  obtain ⟨fits, rfl⟩ := writePacket_eq_some written
  have remLen := lt_of_mqttPacketLen_le fits
  have whole := length_connectBody version single
  rw [← whole]
  refine (mqttDeserializeConnect_framed (by omega) behind).trans ?_
  simp only [List.forall_mem_cons, List.not_mem_nil, false_imp_iff, implies_true, and_true] at single
  obtain ⟨clientID, topicName, message, username, password⟩ := single
  unfold mqttSerializeConnectRemLen at remLen
  rw [clientID, topicName, message, username, password] at remLen
  have short (string : MqttString) (there : string.isSet = true → string.text.length < 65536) :
      string.text.length < 65536 := by
    cases isSet : string.isSet with
    | true => exact there isSet
    | false =>
        rw [text_of_not_isSet isSet]
        decide
  refine readConnect_connectBody version flags interval (by omega) (fun will => ?_) (short _ fun isSet => ?_)
    (short _ fun isSet => ?_) behind
  · rw [if_pos will] at remLen
    omega
  · rw [if_pos isSet] at remLen
    omega
  · rw [if_pos isSet] at remLen
    omega

def named : ConnectOptions :=
  { clientID := { cstring := some (str "board") }, username := { cstring := some (str "user") } }

theorem mqttDeserializeConnect_named : ∃ packet, mqttSerializeConnect 500 named = some packet ∧
    mqttDeserializeConnect (packet ++ [1, 2]) packet.length = some (some
      { cleansession := 1, keepAliveInterval := 60, clientID := str "board", will := none
        username := some (str "user"), password := none }) := by
  refine ⟨_, rfl, ?_⟩
  apply @mqttDeserializeConnect_serialize 500 named
  · decide
  · decide
  · decide
  · decide
  · decide
  · rfl

/-! ## CONNACK -/

def mqttSerializeConnack (buflen connackRc sessionPresent : Nat) : Option Bytes :=
  if buflen < 2 then none
  else
    some (headerByte MsgType.connack 0 0 0 :: varint 2 ++
      [UInt8.ofNat (sessionPresent % 2), UInt8.ofNat connackRc])

-- the session that is present, and the return code
def mqttDeserializeConnack (buf : Bytes) : Option (Int × Option (Nat × Nat)) := do
  let (header, p) ← readChar buf
  if headerType header ≠ MsgType.connack then return (0, none)
  let (mylen, rc, p) ← mqttPacketDecodeBuf p
  if mylen < 2 then return (rc, none)
  let (flags, p) ← readChar p
  let (connackRc, _) ← readChar p
  return (1, some (flags.toNat % 2, connackRc.toNat))

/-- What `connect` takes for the code of the answer in its read buffer; it has set it to 0 before. -/
def connectionCode (readbuf : Bytes) : Option Int :=
  (mqttDeserializeConnack readbuf).map fun (rc, values) =>
    if rc = 1 then (values.map fun (_, connackRc) => (connackRc : Int)).getD 0 else failure

/-- A connection is taken for accepted when the broker says so, and when the answer ends before the code. -/
theorem connectionCode_success_iff {header : UInt8} {body : Bytes} (small : body.length < 268435456)
    (connack : headerType header = MsgType.connack) (behind : Bytes) :
    connectionCode (framed header body ++ behind) = some success ↔ body.length < 2 ∨ body[1]? = some 0 := by
  unfold connectionCode mqttDeserializeConnack
  rw [framed, List.append_assoc, List.cons_append, readChar_cons]
  simp only [Option.bind_eq_bind, Option.bind_some, connack, ne_eq, not_true_eq_false, if_false,
    mqttPacketDecodeBuf_varint small]
  by_cases short : body.length < 2
  · have one : (varint body.length).length = 1 := (length_varint_eq_one_iff _).mpr (by omega)
    simp [short, one, success]
  · obtain _ | ⟨flags, _ | ⟨connackRc, rest⟩⟩ := body
    · exact absurd (by simp) short
    · exact absurd (by simp) short
    · simp [success, UInt8.ext_iff]

/-- The second answer refuses, and the first is one byte short. -/
theorem connectionCode_short : connectionCode (framed 0x20 [0] ++ [5]) = some success ∧
    connectionCode (framed 0x20 [0, 5] ++ []) ≠ some success := by
  constructor
  · exact (connectionCode_success_iff (by decide) (by decide) [5]).mpr (by decide)
  · exact fun accepted =>
      absurd ((connectionCode_success_iff (by decide) (by decide) []).mp accepted) (by decide)

/-- The answer of a server is read as it was serialized. It takes four bytes, where room for two is asked for. -/
theorem connectionCode_serialize {buflen connackRc sessionPresent : Nat} {packet : Bytes} (code : connackRc < 256)
    (flag : sessionPresent < 2) (written : mqttSerializeConnack buflen connackRc sessionPresent = some packet)
    (behind : Bytes) :
    packet.length = 4 ∧ mqttDeserializeConnack (packet ++ behind) = some (1, some (sessionPresent, connackRc)) ∧
      connectionCode (packet ++ behind) = some (connackRc : Int) := by
  unfold mqttSerializeConnack at written
  split_ifs at written with room
  obtain rfl := Option.some.inj written
  have read : mqttDeserializeConnack (headerByte MsgType.connack 0 0 0 :: varint 2 ++
      [UInt8.ofNat (sessionPresent % 2), UInt8.ofNat connackRc] ++ behind) =
        some (1, some (sessionPresent, connackRc)) := by
    unfold mqttDeserializeConnack
    rw [List.append_assoc, List.cons_append, readChar_cons]
    have flags := toNat_ofNat_of_lt (show sessionPresent < 256 by omega)
    have code' := toNat_ofNat_of_lt code
    simp only [Option.bind_eq_bind, Option.bind_some, headerType_headerByte,
      mqttPacketDecodeBuf_varint (show 2 < 268435456 by decide), List.cons_append, readChar_cons, flags, code',
      Nat.mod_eq_of_lt flag]
    rw [if_neg (by decide), if_neg (by decide)]
    rfl
  refine ⟨varint_two ▸ rfl, read, ?_⟩
  rw [connectionCode, read]
  rfl

theorem connectionCode_refused : ∃ packet, mqttSerializeConnack 2 5 0 = some packet ∧ packet.length = 4 ∧
    mqttDeserializeConnack (packet ++ [9]) = some (1, some (0, 5)) ∧ connectionCode (packet ++ [9]) = some 5 :=
  ⟨_, rfl, @connectionCode_serialize 2 5 0 _ (by decide) (by decide) rfl [9]⟩

end DecadaEmbedded.Mqtt
