import DecadaEmbedded.Library.Cuts
import DecadaEmbedded.Mqtt.Publication

/-!
# `Client::readPacket`

`MQTTNetwork::read` is one call of `recv`, which returns what has arrived of the data asked for. What the
broker sends arrives in segments; behind the last, `recv` returns `ending`, which is no byte count.
-/

namespace DecadaEmbedded.Mqtt
open Library

def bufferOverflow : Int := -2

structure Incoming where
  segments : List Bytes
  ending : Int
deriving DecidableEq, Repr

def Incoming.read (incoming : Incoming) (len : Nat) : Int × Bytes × Incoming :=
  match incoming.segments with
  | [] => (incoming.ending, [], incoming)
  | segments =>
      let (bytes, segments) := readSome len segments
      (bytes.length, bytes, { incoming with segments })

-- `read(&c, 1, timeout)`, which is to return 1
def Incoming.getchar (incoming : Incoming) : Option UInt8 × Incoming :=
  match incoming.read 1 with
  | (rc, bytes, incoming) => (if rc = 1 then bytes.head? else none, incoming)

def overwrite (buffer : Bytes) (offset : Nat) (bytes : Bytes) : Bytes :=
  buffer.take offset ++ bytes ++ buffer.drop (offset + bytes.length)

/-- The result, `readbuf` and what is left to come. A body that is cut short gives the result of the first
read, which was 1. -/
def readPacket (readbuf : Bytes) (incoming : Incoming) : Int × Bytes × Incoming :=
  match incoming.read 1 with
  | (rc, header, incoming) =>
      let readbuf := overwrite readbuf 0 header
      if rc ≠ 1 then (rc, readbuf, incoming)
      else
        let (remLen, _, incoming) := readVarint Incoming.getchar 4 1 0 0 incoming
        let readbuf := overwrite readbuf 1 (varint remLen)
        let len := 1 + (varint remLen).length
        if maxMqttPacketSize < len + remLen then (bufferOverflow, readbuf, incoming)
        else if 0 < remLen then
          match incoming.read remLen with
          | (rest, body, incoming) =>
              let readbuf := overwrite readbuf len body
              if rest ≠ remLen then (rc, readbuf, incoming)
              else (headerType (header.headD 0), readbuf, incoming)
        else (headerType (header.headD 0), readbuf, incoming)

/-! ## Reading from segments -/

theorem read_filled {incoming : Incoming} (some' : incoming.segments ≠ []) (len : Nat) :
    incoming.read len = (((readSome len incoming.segments).1.length : Int), (readSome len incoming.segments).1,
      { incoming with segments := (readSome len incoming.segments).2 }) := by
  unfold Incoming.read
  split
  · exact absurd (by assumption) some'
  · rfl

theorem read_one {incoming : Incoming} (filled : Filled incoming.segments) {c : UInt8} {rest : Bytes}
    (stream : incoming.segments.flatten = c :: rest) :
    ∃ segments, incoming.read 1 = (1, [c], { incoming with segments }) ∧ Filled segments ∧ segments.flatten = rest ∧
      ∀ i, 0 < i → (Cut segments i ↔ Cut incoming.segments (1 + i)) := by
  have some' : incoming.segments ≠ [] := by
    intro none
    rw [none] at stream
    cases stream
  have whole := (length_readSome_iff filled Nat.one_pos (by rw [stream, List.length_cons]; omega)).mpr
    fun i after before => by omega
  have pieces := flatten_readSome 1 incoming.segments
  obtain ⟨d, one⟩ := List.length_eq_one_iff.mp whole
  rw [one, stream] at pieces
  obtain ⟨rfl, stream'⟩ := List.cons.inj pieces
  refine ⟨_, by rw [read_filled some', one]; rfl, filled_readSome filled, stream', fun i after => ?_⟩
  rw [cut_readSome after, whole]

/-- The segments behind the first bytes, which are read one at a time. -/
theorem gives_getchar {incoming : Incoming} (filled : Filled incoming.segments) (bytes rest : Bytes)
    (stream : incoming.segments.flatten = bytes ++ rest) :
    ∃ segments, Gives Incoming.getchar incoming bytes { incoming with segments } ∧ Filled segments ∧
      segments.flatten = rest ∧ ∀ i, 0 < i → (Cut segments i ↔ Cut incoming.segments (bytes.length + i)) := by
  induction bytes generalizing incoming with
  | nil => exact ⟨incoming.segments, rfl, filled, stream, fun i _ => by rw [List.length_nil, Nat.zero_add]⟩
  | cons c bytes ih =>
      obtain ⟨segments, one, filled', stream', cuts⟩ := read_one filled stream
      obtain ⟨segments', gives, filled'', stream'', cuts'⟩ := @ih { incoming with segments } filled' stream'
      refine ⟨segments', ⟨_, ?_, gives⟩, filled'', stream'', fun i after => ?_⟩
      · rw [Incoming.getchar, one]
        rfl
      · rw [cuts' i after, cuts _ (by omega), List.length_cons, ← Nat.add_assoc, Nat.add_comm 1]

theorem overwrite_append (start behind bytes : Bytes) :
    overwrite (start ++ behind) start.length bytes = start ++ bytes ++ behind.drop bytes.length := by
  rw [overwrite, List.take_left, List.drop_append, List.drop_eq_nil_of_le (Nat.le_add_right _ _), List.nil_append,
    Nat.add_sub_cancel_left]

/-- A stream that goes on with a packet, one that fits into the read buffer. -/
structure Holds (incoming : Incoming) (header : UInt8) (body rest : Bytes) : Prop where
  filled : Filled incoming.segments
  stream : incoming.segments.flatten = framed header body ++ rest
  fits : (framed header body).length ≤ maxMqttPacketSize

/-- The stream is not cut inside the body of its first packet. -/
def Whole (incoming : Incoming) (body : Bytes) : Prop :=
  ∀ i, 1 + (varint body.length).length < i → i < 1 + (varint body.length).length + body.length →
    ¬ Cut incoming.segments i

theorem length_framed (header : UInt8) (body : Bytes) :
    (framed header body).length = 1 + (varint body.length).length + body.length := by
  rw [framed, List.length_append, List.length_cons]
  omega

section Packet
variable {incoming : Incoming} {header : UInt8} {body rest : Bytes} (holds : Holds incoming header body rest)
include holds

/-- Up to the body, however the stream is cut. -/
theorem readPacket_body (readbuf : Bytes) : ∃ behind : Incoming, Filled behind.segments ∧
    behind.segments.flatten = body ++ rest ∧ behind.ending = incoming.ending ∧
    (∀ i, 0 < i → (Cut behind.segments i ↔ Cut incoming.segments (1 + (varint body.length).length + i))) ∧
    readPacket readbuf incoming =
      if 0 < body.length then
        match behind.read body.length with
        | (got, bytes, incoming) =>
            let readbuf := header :: varint body.length ++ bytes ++
              readbuf.drop (1 + (varint body.length).length + bytes.length)
            if got ≠ body.length then (1, readbuf, incoming) else ((headerType header : Int), readbuf, incoming)
      else ((headerType header : Int),
        header :: varint body.length ++ readbuf.drop (1 + (varint body.length).length), behind) := by
  obtain ⟨filled, stream, fits⟩ := holds
  rw [length_framed] at fits
  obtain ⟨segments, one, filled', stream', cuts⟩ := read_one filled stream
  obtain ⟨segments', gives, filled'', stream'', cuts'⟩ :=
    @gives_getchar { incoming with segments } filled' (varint body.length) (body ++ rest) (by
      rw [← List.append_assoc]
      exact stream')
  refine ⟨{ incoming with segments := segments' }, filled'', stream'', rfl, fun i after => ?_, ?_⟩
  · rw [cuts' i after, cuts _ (by omega), Nat.add_assoc]
  · have small : body.length < 128 ^ 4 := by
      unfold maxMqttPacketSize at fits
      omega
    have length := readVarint_varint (by decide) small gives 1 0 0
    rw [Nat.mul_one, Nat.zero_add, Nat.zero_add] at length
    have first : overwrite (overwrite readbuf 0 [header]) 1 (varint body.length) =
        header :: varint body.length ++ readbuf.drop (1 + (varint body.length).length) := by
      have step := overwrite_append [header] (readbuf.drop 1) (varint body.length)
      rw [List.drop_drop] at step
      exact step
    have second (bytes : Bytes) : overwrite
        (header :: varint body.length ++ readbuf.drop (1 + (varint body.length).length))
        (1 + (varint body.length).length) bytes =
          header :: varint body.length ++ bytes ++ readbuf.drop (1 + (varint body.length).length + bytes.length) := by
      have step := overwrite_append (header :: varint body.length)
        (readbuf.drop (1 + (varint body.length).length)) bytes
      rw [List.drop_drop, List.length_cons, Nat.add_comm _ 1] at step
      exact step
    unfold readPacket
    rw [one]
    dsimp only
    rw [if_neg (by decide), length]
    dsimp only
    rw [if_neg (Nat.not_lt.mpr fits), first]
    simp only [second, List.headD_cons]

/-- A body that is not cut is read as it was sent. -/
theorem readPacket_whole (whole : Whole incoming body) (readbuf : Bytes) :
    ∃ segments, readPacket readbuf incoming =
        ((headerType header : Int), framed header body ++ readbuf.drop (framed header body).length,
          { incoming with segments }) ∧
      Filled segments ∧ segments.flatten = rest ∧
      ∀ i, 0 < i → (Cut segments i ↔ Cut incoming.segments ((framed header body).length + i)) := by
  obtain ⟨⟨segments, ending⟩, filled, stream, rfl, cuts, read⟩ := readPacket_body holds readbuf
  by_cases empty : body = []
  · subst empty
    refine ⟨segments, ?_, filled, stream, fun i after => ?_⟩
    · rw [read, if_neg (by simp), length_framed, framed, List.append_nil]
      rfl
    · rw [cuts i after, length_framed]
      rfl
  · have positive : 0 < body.length := List.length_pos_iff.mpr empty
    have some' : segments ≠ [] := by
      rintro rfl
      exact empty (List.append_eq_nil_iff.mp stream.symm).1
    have got := (length_readSome_iff filled positive (by rw [stream, List.length_append]; omega)).mpr
      fun i after before cut => whole _ (by omega) (by omega) ((cuts i after).mp cut)
    obtain ⟨same, left⟩ := List.append_inj ((flatten_readSome body.length segments).trans stream) got
    refine ⟨_, ?_, filled_readSome filled, left, fun i after => ?_⟩
    · rw [read, if_pos positive, read_filled some', same]
      dsimp only
      rw [if_neg (by simp), length_framed, framed]
    · rw [cut_readSome after, got, cuts _ (by omega), length_framed, ← Nat.add_assoc]

/-- A body that is cut gives the result of a `CONNECT` packet. -/
theorem readPacket_cut (cut : ¬ Whole incoming body) (readbuf : Bytes) :
    (readPacket readbuf incoming).1 = 1 := by
  obtain ⟨⟨segments, ending⟩, filled, stream, rfl, cuts, read⟩ := readPacket_body holds readbuf
  unfold Whole at cut
  push Not at cut
  obtain ⟨i, after, before, inside⟩ := cut
  have positive : 0 < body.length := by omega
  have some' : segments ≠ [] := by
    rintro rfl
    exact absurd (List.append_eq_nil_iff.mp stream.symm).1 (List.length_pos_iff.mp positive)
  have short : (readSome body.length segments).1.length ≠ body.length := fun whole => by
    obtain ⟨k, rfl⟩ := Nat.exists_eq_add_of_lt after
    exact (length_readSome_iff filled positive (by rw [stream, List.length_append]; omega)).mp whole (k + 1)
      (Nat.succ_pos k) (by omega) ((cuts (k + 1) (Nat.succ_pos k)).mpr (by rwa [← Nat.add_assoc]))
  rw [read, if_pos positive, read_filled some']
  dsimp only
  rw [if_pos (by simpa using short)]

end Packet

end DecadaEmbedded.Mqtt
