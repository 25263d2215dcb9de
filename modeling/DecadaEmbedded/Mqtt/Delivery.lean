import DecadaEmbedded.Mqtt.ReadPacket
import DecadaEmbedded.Mqtt.Session
import DecadaEmbedded.Mqtt.Topics

/-!
# From the socket to the message handlers

`cycle` with what it reads: the packet, the message in it and the handlers that are called with the message.
A handler is known by its topic filter. The client has no default handler.
-/

namespace DecadaEmbedded.Mqtt
open Library

/-- The filters of the handlers that are called, by their slots. -/
def Client.deliverMessage (client : Client) (topicName : Bytes) : List Bytes :=
  client.messageHandlers.reduceOption.filter (handles · topicName)

-- a publication at the fourth QoS is not acknowledged, which counts as a failure
def Pass.receive (pass : Pass) : (intQoS : Nat) → Pass
  | 0 => { pass with message := some .qos0 }
  | 1 => { pass with message := some .qos1 }
  | 2 => { pass with message := some .qos2 }
  | _ => { pass with message := some .qos2, acknowledge := [] }

structure Receiver where
  client : Client
  readbuf : Bytes
  incoming : Incoming
  calls : List (Bytes × Message) := []
deriving DecidableEq, Repr

namespace Receiver

-- what follows the reading of a packet
def through (s : Receiver) (pass : Pass) : Receiver × Int :=
  match s.client.cycle pass with
  | (client, rc) => ({ s with client }, rc)

/-- None where values are used that have never been set. A topic that cannot be read is not compared with
filters here: its length may have been set without its text. -/
def cycle (s : Receiver) (pass : Pass) : Option (Receiver × Int) :=
  match readPacket s.readbuf s.incoming with
  | (packetType, readbuf, incoming) =>
      let s := { s with readbuf, incoming }
      let pass := { pass with packetType, message := none }
      if packetType = publishPacket then
        match mqttDeserializePublish readbuf with
        | none => none
        | some (rc, message) =>
            if rc ≠ 1 then some (s.through pass)
            else
              match message with
              | none =>
                  if s.client.messageHandlers.reduceOption = [] ∧ headerQos (readbuf.headD 0) = 0 then
                    some (s.through (pass.receive 0))
                  else none
              | some message =>
                  let s := { s with calls := s.calls ++ (s.client.deliverMessage message.topicName).map (·, message) }
                  some (s.through (pass.receive message.qos))
      else some (s.through pass)

-- the timer expires after the last pass
def yield (s : Receiver) : List Pass → Option (Receiver × Int)
  | [] => some (s, success)
  | pass :: passes =>
      match s.cycle pass with
      | none => none
      | some (s, rc) => if rc < 0 then some (s, failure) else s.yield passes

end Receiver

/-! ## What the broker sends -/

structure Published where
  dup : Nat
  qos : Nat
  retained : Nat
  packetid : Nat
  topicName : Bytes
  payload : Bytes
  flags : dup < 2 ∧ qos < 3 ∧ retained < 2
  identifier : packetid < 65536

namespace Published

def header (p : Published) : UInt8 := headerByte MsgType.publish p.dup p.qos p.retained

def body (p : Published) : Bytes := publishBody p.qos p.packetid p.topicName p.payload

def packet (p : Published) : Bytes := framed p.header p.body

/-- The message with no more of the memory than its payload. -/
def message (p : Published) : Message where
  dup := p.dup
  qos := p.qos
  retained := p.retained
  id := if 0 < p.qos then some p.packetid else none
  topicName := p.topicName
  payload := p.payload
  payloadlen := p.payload.length

theorem received {p : Published} (small : p.body.length < 65536) (behind : Bytes) :
    mqttDeserializePublish (framed p.header p.body ++ behind) =
      some (1, some { p.message with payload := p.payload ++ behind }) := by
  have topic : p.topicName.length ≤ p.body.length := by
    simp only [body, publishBody, List.length_append]
    omega
  exact mqttDeserializePublish_publishBody p.flags p.identifier (by omega) (show p.body.length < 268435456 by omega) behind

end Published

def Message.content (message : Message) : Message :=
  { message with payload := message.payload.take message.payloadlen.toNat }

/-- The calls that publications ask for. -/
def Client.callsFor (client : Client) (published : List Published) : List (Bytes × Message) :=
  published.flatMap fun p => (client.deliverMessage p.topicName).map (·, p.message)

theorem Client.callsFor_cons (client : Client) (p : Published) (published : List Published) :
    client.callsFor (p :: published) = client.callsFor [p] ++ client.callsFor published := by
  rw [callsFor, ← List.singleton_append, List.flatMap_append]
  rfl

/-- The places inside the bodies of the packets. -/
def Inside : List Published → Nat → Prop
  | [], _ => False
  | p :: published, i =>
      (1 + (varint p.body.length).length < i ∧ i < p.packet.length) ∨ Inside published (i - p.packet.length)

theorem inside_pos {published : List Published} {i : Nat} (inside : Inside published i) : 0 < i := by
  induction published generalizing i with
  | nil => exact absurd inside id
  | cons p published ih =>
      rcases inside with ⟨after, -⟩ | inside
      · omega
      · have := ih inside
        omega

-- the ping and the acknowledgement can be sent, and the last ping has been answered in time
structure Healthy (pass : Pass) : Prop where
  answered : pass.pingSentExpired = false
  ping : sendPacket pass.ping 2 = true
  acknowledge : sendPacket pass.acknowledge 4 = true

/-! ## One pass -/

theorem Client.Steady.deliverMessage {client later : Client} (steady : client.Steady later) (topicName : Bytes) :
    later.deliverMessage topicName = client.deliverMessage topicName := by
  rw [Client.deliverMessage, steady.messageHandlers, Client.deliverMessage]

theorem Client.Steady.callsFor {client later : Client} (steady : client.Steady later) (published : List Published) :
    later.callsFor published = client.callsFor published := by
  unfold Client.callsFor
  simp only [steady.deliverMessage]

theorem Healthy.endCycle {pass : Pass} (healthy : Healthy pass) (client : Client) (packetType : Int)
    (message : Option QoS) : ∃ later, client.Steady later ∧
      client.endCycle { pass with packetType, message } = (later, packetType) := by
  have kept := client.keepalive_steady { pass with packetType, message }
  have ok : (client.keepalive { pass with packetType, message }).2 = success := by
    unfold Client.keepalive
    simp only [healthy.answered, healthy.ping, Bool.false_eq_true, if_true, if_false]
    split_ifs <;> rfl
  refine ⟨_, kept, ?_⟩
  unfold Client.endCycle
  dsimp only
  rw [if_pos ok]

theorem Pass.receive_of_lt (pass : Pass) {intQoS : Nat} (known : intQoS < 3) :
    ∃ qos, pass.receive intQoS = { pass with message := some qos } := by
  match intQoS, known with
  | 0, _ => exact ⟨.qos0, rfl⟩
  | 1, _ => exact ⟨.qos1, rfl⟩
  | 2, _ => exact ⟨.qos2, rfl⟩

theorem Healthy.cycle_publish {pass : Pass} (healthy : Healthy pass) (client : Client) (qos : QoS) :
    ∃ later, client.Steady later ∧
      client.cycle { pass with packetType := publishPacket, message := some qos } = (later, publishPacket) := by
  obtain ⟨later, steady, ended⟩ := healthy.endCycle client publishPacket (some qos)
  refine ⟨later, steady, ?_⟩
  rw [← ended]
  unfold Client.cycle
  dsimp only
  rw [if_neg (by decide), if_pos rfl]
  cases qos with
  | qos0 => rfl
  | qos1 | qos2 => exact if_pos healthy.acknowledge

section Packet
variable {s : Receiver} {p : Published} {rest : Bytes} (holds : Holds s.incoming p.header p.body rest)
include holds

theorem cycle_whole {pass : Pass} (healthy : Healthy pass) (whole : Whole s.incoming p.body) :
    ∃ (later : Receiver) (segments : List Bytes), s.cycle pass = some (later, publishPacket) ∧
      s.client.Steady later.client ∧
      later.calls.map (Prod.map id Message.content) =
        s.calls.map (Prod.map id Message.content) ++ s.client.callsFor [p] ∧
      later.incoming = { s.incoming with segments } ∧ Filled segments ∧ segments.flatten = rest ∧
      ∀ i, 0 < i → (Cut segments i ↔ Cut s.incoming.segments (p.packet.length + i)) := by
  obtain ⟨segments, read, filled, stream, cuts⟩ := readPacket_whole holds whole s.readbuf
  have fits := holds.fits
  rw [length_framed] at fits
  unfold maxMqttPacketSize at fits
  have received := Published.received (p := p) (by omega) (s.readbuf.drop (framed p.header p.body).length)
  obtain ⟨qos, acknowledged⟩ :=
    { pass with packetType := publishPacket, message := none }.receive_of_lt
      (show p.message.qos < 3 from p.flags.2.1)
  obtain ⟨later, steady, cycled⟩ := healthy.cycle_publish s.client qos
  have publishes : ((headerType p.header : Nat) : Int) = publishPacket :=
    congrArg Nat.cast (headerType_headerByte _ _ _ _)
  unfold Receiver.cycle
  rw [read, publishes]
  dsimp only
  rw [if_pos rfl]
  rw [received]
  dsimp only
  rw [if_neg (by decide), acknowledged]
  unfold Receiver.through
  dsimp only
  rw [cycled]
  refine ⟨_, segments, rfl, steady, ?_, rfl, filled, stream, cuts⟩
  rw [List.map_append, Client.callsFor, List.flatMap_singleton, List.map_map]
  simp [Function.comp_def, Message.content, Published.message]

theorem cycle_cut (pass : Pass) (cut : ¬ Whole s.incoming p.body) :
    ∃ later, s.cycle pass = some (later, 1) ∧ later.client.isconnected = false ∧ later.calls = s.calls := by
  have result := readPacket_cut holds cut s.readbuf
  unfold Receiver.cycle
  generalize readPacket s.readbuf s.incoming = read at result ⊢
  obtain ⟨packetType, readbuf, incoming⟩ := read
  obtain rfl : packetType = 1 := result
  dsimp only
  rw [if_neg (by decide)]
  unfold Receiver.through Client.cycle
  dsimp only
  rw [if_neg (by decide), if_neg (by decide), if_neg (by decide)]
  exact ⟨_, rfl, s.client.failCycle_isconnected 1, rfl⟩

end Packet

/-! ## A run of `yield` -/

/-- Whatever was read, the client makes a pass of its own. -/
theorem Receiver.cycle_through {s : Receiver} {pass : Pass} {result : Receiver × Int}
    (cycled : s.cycle pass = some result) :
    ∃ (t : Receiver) (pass : Pass), t.client = s.client ∧ t.through pass = result := by
  have found {t : Receiver} {pass : Pass} (same : some (t.through pass) = some result)
      (client : t.client = s.client) :
      ∃ (t : Receiver) (pass : Pass), t.client = s.client ∧ t.through pass = result :=
    ⟨t, pass, client, Option.some.inj same⟩
  unfold Receiver.cycle at cycled
  dsimp only at cycled
  split at cycled
  · split at cycled
    · cases cycled
    · split at cycled
      · exact found cycled rfl
      · split at cycled
        · split at cycled
          · exact found cycled rfl
          · cases cycled
        · exact found cycled rfl
  · exact found cycled rfl

theorem Receiver.cycle_of_disconnected {s later : Receiver} {rc : Int} {pass : Pass}
    (closed : s.client.isconnected = false) (cycled : s.cycle pass = some (later, rc)) :
    later.client.isconnected = false := by
  obtain ⟨t, pass, same, result⟩ := Receiver.cycle_through cycled
  obtain ⟨rfl, -⟩ := Prod.mk.inj result
  rw [← same] at closed
  exact (Client.cycle_of_disconnected closed pass).isconnected.trans closed

/-- A client that has been closed reads on, and stays closed. -/
theorem Receiver.yield_of_disconnected {s later : Receiver} {rc : Int} {passes : List Pass}
    (closed : s.client.isconnected = false) (yielded : s.yield passes = some (later, rc)) :
    later.client.isconnected = false := by
  induction passes generalizing s with
  | nil =>
      obtain ⟨rfl, -⟩ := Prod.mk.inj (Option.some.inj yielded)
      exact closed
  | cons pass passes ih =>
      unfold Receiver.yield at yielded
      split at yielded
      · cases yielded
      · rename_i next rc' cycled
        have closed := Receiver.cycle_of_disconnected closed cycled
        split_ifs at yielded
        · obtain ⟨rfl, -⟩ := Prod.mk.inj (Option.some.inj yielded)
          exact closed
        · exact ih closed yielded

/-- The stream goes on with these publications, each of which fits into the read buffer. -/
structure Sends (incoming : Incoming) (published : List Published) (rest : Bytes) : Prop where
  filled : Filled incoming.segments
  stream : incoming.segments.flatten = published.flatMap Published.packet ++ rest
  fits : ∀ p ∈ published, p.packet.length ≤ maxMqttPacketSize

theorem Sends.holds {incoming : Incoming} {p : Published} {published : List Published} {rest : Bytes}
    (sends : Sends incoming (p :: published) rest) :
    Holds incoming p.header p.body (published.flatMap Published.packet ++ rest) where
  filled := sends.filled
  stream := by
    rw [sends.stream, List.flatMap_cons, List.append_assoc]
    rfl
  fits := sends.fits p List.mem_cons_self

theorem yield_whole {s : Receiver} {published : List Published} {rest : Bytes}
    (sends : Sends s.incoming published rest) {passes : List Pass} (timely : passes.length = published.length)
    (healthy : ∀ pass ∈ passes, Healthy pass)
    (uncut : ∀ i, Inside published i → ¬ Cut s.incoming.segments i) :
    ∃ later, s.yield passes = some (later, success) ∧ s.client.Steady later.client ∧
      later.calls.map (Prod.map id Message.content) =
        s.calls.map (Prod.map id Message.content) ++ s.client.callsFor published ∧
      Sends later.incoming [] rest := by
  induction published generalizing s passes with
  | nil =>
      obtain rfl := List.length_eq_zero_iff.mp timely
      exact ⟨s, rfl, ⟨_, rfl⟩, (List.append_nil _).symm, sends⟩
  | cons p published ih =>
      obtain ⟨pass, passes, rfl⟩ := List.exists_cons_of_length_eq_add_one timely
      obtain ⟨healthyFirst, healthyRest⟩ := List.forall_mem_cons.mp healthy
      have whole : Whole s.incoming p.body := fun i after before =>
        uncut i (.inl ⟨after, by rwa [Published.packet, length_framed]⟩)
      obtain ⟨next, segments, cycled, steady, calls, behind, filled, stream, cuts⟩ :=
        cycle_whole sends.holds healthyFirst whole
      have sendsRest : Sends next.incoming published rest := by
        rw [behind]
        exact ⟨filled, stream, fun q member => sends.fits q (List.mem_cons_of_mem _ member)⟩
      have uncutRest : ∀ i, Inside published i → ¬ Cut next.incoming.segments i := by
        intro i inside cut
        have after : 0 < i := inside_pos inside
        rw [behind] at cut
        exact uncut _ (.inr (by rwa [Nat.add_sub_cancel_left])) ((cuts i after).mp cut)
      obtain ⟨later, yielded, steady', calls', sends'⟩ :=
        ih sendsRest (Nat.succ.inj timely) healthyRest uncutRest
      refine ⟨later, ?_, steady.trans steady', ?_, sends'⟩
      · rw [Receiver.yield, cycled]
        exact (if_neg (by decide)).trans yielded
      · rw [calls', calls, steady.callsFor, List.append_assoc, s.client.callsFor_cons p published]

/-- The first body that is cut closes the session, and nothing opens it again. -/
theorem yield_cut {s : Receiver} {published : List Published} {rest : Bytes}
    (sends : Sends s.incoming published rest) {passes : List Pass} (timely : published.length ≤ passes.length)
    (healthy : ∀ pass ∈ passes, Healthy pass) {i : Nat} (inside : Inside published i)
    (cut : Cut s.incoming.segments i) {later : Receiver} {rc : Int} (yielded : s.yield passes = some (later, rc)) :
    later.client.isconnected = false := by
  induction published generalizing s passes i with
  | nil => exact absurd inside id
  | cons p published ih =>
      obtain ⟨pass, passes, rfl⟩ := List.exists_cons_of_length_pos (Nat.lt_of_lt_of_le (Nat.succ_pos _) timely)
      obtain ⟨healthyFirst, healthyRest⟩ := List.forall_mem_cons.mp healthy
      by_cases whole : Whole s.incoming p.body
      · obtain ⟨next, segments, cycled, steady, calls, behind, filled, stream, cuts⟩ :=
          cycle_whole sends.holds healthyFirst whole
        rw [Receiver.yield, cycled] at yielded
        replace yielded := (if_neg (by decide)).symm.trans yielded
        have sendsRest : Sends next.incoming published rest := by
          rw [behind]
          exact ⟨filled, stream, fun q member => sends.fits q (List.mem_cons_of_mem _ member)⟩
        rcases inside with ⟨after, before⟩ | inside
        · rw [Published.packet, length_framed] at before
          exact absurd cut (whole i after before)
        · have behindFirst := inside_pos inside
          refine ih sendsRest (Nat.le_of_succ_le_succ timely) healthyRest inside ?_ yielded
          rw [behind, cuts _ behindFirst, Nat.add_sub_cancel' (by omega)]
          exact cut
      · obtain ⟨next, cycled, closed, -⟩ := cycle_cut sends.holds pass whole
        rw [Receiver.yield, cycled] at yielded
        exact Receiver.yield_of_disconnected closed ((if_neg (by decide)).symm.trans yielded)

/-- What the broker has published is handed to the handlers of its topics, once each and in order, if no
segment of the stream ends inside the body of a packet. The session is closed otherwise. -/
theorem yield_published {s : Receiver} {published : List Published} {rest : Bytes}
    (sends : Sends s.incoming published rest) {passes : List Pass} (timely : passes.length = published.length)
    (healthy : ∀ pass ∈ passes, Healthy pass) :
    ((∀ i, Inside published i → ¬ Cut s.incoming.segments i) →
      ∃ later, s.yield passes = some (later, success) ∧ s.client.Steady later.client ∧
        later.calls.map (Prod.map id Message.content) =
          s.calls.map (Prod.map id Message.content) ++ s.client.callsFor published ∧
        Sends later.incoming [] rest) ∧
    ((∃ i, Inside published i ∧ Cut s.incoming.segments i) →
      ∀ later rc, s.yield passes = some (later, rc) → later.client.isconnected = false) := by
  refine ⟨yield_whole sends timely healthy, ?_⟩
  rintro ⟨i, inside, cut⟩ later rc yielded
  exact yield_cut sends timely.ge healthy inside cut yielded

def reading : Published where
  dup := 0
  qos := 1
  retained := 0
  packetid := 7
  topicName := str "a/b"
  payload := str "1"
  flags := by decide
  identifier := by decide

def alarm : Published where
  dup := 0
  qos := 0
  retained := 0
  packetid := 0
  topicName := str "b/c/d"
  payload := str "22"
  flags := by decide
  identifier := by decide

def listening : Receiver where
  client := { Client.new 0 with isconnected := true, messageHandlers := [none, some (str "a/+"), some (str "b/#")] }
  readbuf := List.replicate maxMqttPacketSize 0
  incoming := ⟨[reading.packet, alarm.packet], 0⟩

def prompt : Pass := { packetType := 0, ping := [⟨2, false⟩], acknowledge := [⟨4, false⟩] }

theorem length_packets : reading.packet.length = 10 ∧ alarm.packet.length = 11 := by
  have bodies : reading.body.length = 8 ∧ alarm.body.length = 9 := ⟨rfl, rfl⟩
  constructor
  · rw [Published.packet, length_framed, bodies.1, varint_of_lt (by decide)]
    rfl
  · rw [Published.packet, length_framed, bodies.2, varint_of_lt (by decide)]
    rfl

theorem sends_listening : Sends listening.incoming [reading, alarm] [] := by
  obtain ⟨first, second⟩ := length_packets
  refine ⟨?_, by simp [listening], ?_⟩
  · refine List.forall_mem_cons.mpr ⟨?_, List.forall_mem_singleton.mpr ?_⟩
    · exact List.ne_nil_of_length_pos (by omega)
    · exact List.ne_nil_of_length_pos (by omega)
  · refine List.forall_mem_cons.mpr ⟨?_, List.forall_mem_singleton.mpr ?_⟩
    · rw [first]
      decide
    · rw [second]
      decide

-- the stream is cut between the two packets only
theorem uncut_listening (i : Nat) (inside : Inside [reading, alarm] i) : ¬ Cut listening.incoming.segments i := by
  obtain ⟨first, second⟩ := length_packets
  rintro ⟨pieces, behind, split, rfl⟩
  have ends : pieces.flatten.length = 0 ∨ pieces.flatten.length = 10 ∨ pieces.flatten.length = 21 := by
    have listed : pieces <+: [reading.packet, alarm.packet] := ⟨behind, split.symm⟩
    rcases List.prefix_cons_iff.mp listed with rfl | ⟨rest, rfl, one⟩
    · exact .inl rfl
    · rcases List.prefix_cons_iff.mp one with rfl | ⟨last, rfl, none⟩
      · exact .inr (.inl (by simp [first]))
      · obtain rfl := List.prefix_nil.mp none
        exact .inr (.inr (by simp [first, second]))
  simp only [Inside, first, second, or_false] at inside
  omega

theorem yield_two : ∃ later, listening.yield [prompt, prompt] = some (later, success) ∧
    later.client.isconnected = true ∧
      later.calls.map (Prod.map id Message.content) = [(str "a/+", reading.message), (str "b/#", alarm.message)] := by
  have healthy : Healthy prompt := ⟨rfl, by decide, by decide⟩
  have both : ∀ pass ∈ [prompt, prompt], Healthy pass :=
    List.forall_mem_cons.mpr ⟨healthy, List.forall_mem_singleton.mpr healthy⟩
  obtain ⟨later, yielded, ⟨_, same⟩, calls, -⟩ :=
    (@yield_published listening [reading, alarm] [] sends_listening [prompt, prompt] rfl both).1 uncut_listening
  exact ⟨later, yielded, by rw [same]; rfl, calls⟩

end DecadaEmbedded.Mqtt
