import DecadaEmbedded.Http.Receive
import DecadaEmbedded.Http.SegmentBody
import DecadaEmbedded.Http.SegmentHeaders

/-!
# The cuts between segments

The data of a response arrive in segments whose ends the network chooses. One byte at a time is the
strictest way to hand them over: what is accepted so is accepted in any segments, with the same parser
and response but for the count of header bytes and the status message.
-/

namespace DecadaEmbedded.Http
open Library

theorem keeps {a : Run} {b final : Session} {ch : UInt8} {tail : Bytes} (follows : Follows a b)
    (accepted : oneByOne b (ch :: tail) = some final) : Keeps a b ch tail := by
  cases state : a.parser.state
  case resStatus => exact keeps_status follows accepted state
  case headerField => exact keeps_field follows accepted state
  case headerValue => exact keeps_value follows accepted state
  case bodyIdentity =>
    rcases Nat.lt_or_ge (ch :: tail).length a.parser.contentLength with more | enough
    · exact keeps_identity_rest follows accepted state more
    · exact keeps_identity_last follows accepted state enough
  case bodyIdentityEof => exact keeps_eof follows accepted state
  case chunkData => exact keeps_chunk follows accepted state
  case chunkDataAlmostDone => exact keeps_chunkDataAlmostDone follows accepted state
  all_goals exact keeps_closed follows accepted (by rw [state]; rfl)

/-- A whole segment, whose bytes are accepted one at a time. -/
theorem loop_follows {a : Run} {b final : Session} (follows : Follows a b) (bytes : Bytes)
    (accepted : oneByOne b bytes = some final) :
    ∃ last : Run, last.Invariant ∧ loop a bytes = some ⟨last.flushed, bytes.length⟩ ∧
      last.flushed.Like final := by
  induction length : bytes.length using Nat.strong_induction_on generalizing a b bytes with
  | _ length' ih =>
  cases bytes with
  | nil =>
      cases accepted
      subst length
      exact ⟨a, follows.invariant, loop_nil follows.invariant, follows.like⟩
  | cons ch tail =>
      rcases keeps follows accepted with
        ⟨next, ahead, b', turned, read, follows'⟩ | ⟨last, b', turned, read, like⟩
      · have good : (turn a ch tail).Good tail.length := turn_good follows.invariant
        rw [turned] at good
        have fits := good.2
        rw [← List.take_append_drop ahead tail, ← List.cons_append, oneByOne_append, read,
          Option.bind_some] at accepted
        rw [List.length_cons] at length
        obtain ⟨last, invariant, looped, like⟩ :=
          ih (tail.drop ahead).length (by rw [List.length_drop]; omega) follows' _ accepted rfl
        refine ⟨last, invariant, ?_, like⟩
        rw [loop_next turned, looped, ← length, List.length_drop]
        simp only [Option.map_some, Option.some.injEq, Executed.mk.injEq, true_and]
        omega
      · have good : (turn a ch tail).Good tail.length := turn_good follows.invariant
        rw [turned] at good
        rw [accepted] at read
        cases read
        refine ⟨last, good.1, ?_, ?_⟩
        · rw [loop_returned turned, flushed_unmarked good.2.1.marks, ← length, List.length_cons]
        · rw [flushed_unmarked good.2.1.marks]
          exact like

/-- A call that goes on where another has ended gives its text on once more, empty. -/
theorem resume_flushed {run : Run} (invariant : run.Invariant) :
    run.flushed.resume.flushed.Like run.flushed := by
  have parser : run.flushed.parser = run.parser := by rw [Run.flushed, Run.callbacks_parser]
  by_cases resumes : ∃ datum, (resumed run.parser.state datum).isSome
  · obtain ⟨datum, isSet⟩ := resumes
    have only (other : Datum) (differs : other ≠ datum) : run.parser.state.opens other = false := by
      revert isSet differs
      cases run.parser.state <;> cases datum <;> cases other <;> simp [resumed, State.opens]
    obtain ⟨text, marked⟩ := Option.isSome_iff_exists.mp (invariant.set datum isSet)
    have whole := eq_marking (fun other differs => invariant.unmarked (only other differs)) marked
    rw [resume_marking datum (by rw [parser]; exact isSet), whole, marking_flushed, marking_flushed]
    cases datum with
    | headerField =>
        rw [Session.on, Session.on, HttpResponse.setHeaderField_append, List.append_nil]
        exact Session.Like.refl _
    | headerValue =>
        rw [Session.on, Session.on, HttpResponse.setHeaderValue_append, List.append_nil]
        exact Session.Like.refl _
    | status => exact ⟨_, [], le_rfl, rfl⟩
    | body =>
        revert isSet
        cases run.parser.state <;> simp [resumed]
  · rw [resume_unmarked fun datum => by
      rw [parser]
      exact Option.not_isSome_iff_eq_none.mp fun isSet => resumes ⟨datum, isSet⟩, unmarked_flushed]
    exact Session.Like.refl _

theorem Run.Invariant.flushed {run : Run} (invariant : run.Invariant) :
    run.flushed.Settled ∧ run.flushed.parser.httpErrno = .ok := by
  have parser : run.flushed.parser = run.parser := by rw [Run.flushed, Run.callbacks_parser]
  rw [Session.Settled, parser]
  exact ⟨fun _ => ⟨invariant.bounded, invariant.sound⟩, invariant.ok⟩

/-- Segments against the same bytes one at a time, between two calls. -/
theorem follows_resume {session b : Session} (settled : session.Settled) (ok : session.parser.httpErrno = .ok)
    (like : session.resume.flushed.Like b) (settled' : b.Settled) : Follows session.resume b where
  invariant := settled.invariant ok
  like := like
  filled := by
    intro isSet
    change resumed session.parser.state .body = some [] at isSet
    revert isSet
    cases session.parser.state <;> simp [resumed]
  settled := settled'

theorem finish_like {a b : Session} (like : a.Like b) :
    ∃ statusMessage, finish a = (finish b).map fun response => { response with statusMessage } := by
  obtain ⟨n, m, -, rfl⟩ := like
  refine ⟨m, ?_⟩
  rw [finish_eq, finish_eq]
  dsimp only
  split_ifs <;> rfl

/-- What the request ends with when the bytes have been read one at a time up to `final`. -/
def outcome (final : Session) (ending : Int) : Option (Except Int HttpResponse) :=
  if final.response.isMessageCompleted ∨ ¬ ending < 0 then (finish final).map .ok else some (.error ending)

theorem receive_of_oneByOne {session b final : Session} (settled : session.Settled)
    (ok : session.parser.httpErrno = .ok) (like : session.resume.flushed.Like b) (similar : session.Like b)
    (settled' : b.Settled) (running : b.response.isMessageCompleted = false) (ending : Int)
    (segments : List Bytes) (filled : ∀ segment ∈ segments, segment ≠ [])
    (accepted : oneByOne b segments.flatten = some final) :
    ∃ statusMessage, receive session ending segments =
      (outcome final ending).map fun result => result.map fun response => { response with statusMessage } := by
  induction segments generalizing session b with
  | nil =>
      cases accepted
      obtain ⟨m, finished⟩ := finish_like similar
      refine ⟨m, ?_⟩
      unfold receive outcome
      rw [finished]
      by_cases failed : ending < 0
      · rw [if_pos failed, if_neg (by simp [running, failed])]
        rfl
      · rw [if_neg failed, if_pos (.inr failed), Option.map_map, Option.map_map]
        rfl
  | cons segment rest ih =>
      rw [List.flatten_cons, oneByOne_append] at accepted
      obtain ⟨b', read, accepted⟩ := Option.bind_eq_some_iff.mp accepted
      obtain ⟨filledHere, filledRest⟩ := List.forall_mem_cons.mp filled
      obtain ⟨last, invariant, looped, like'⟩ :=
        loop_follows (follows_resume settled ok like settled') segment read
      have executes : httpParserExecute session segment = some ⟨last.flushed, segment.length⟩ := by
        obtain ⟨ch, tail, rfl⟩ := List.exists_cons_of_ne_nil filledHere
        rw [httpParserExecute_cons ok, looped]
      have completed : last.flushed.response.isMessageCompleted = b'.response.isMessageCompleted := by
        obtain ⟨n, m, -, same⟩ := like'
        rw [same]
      unfold receive
      rw [executes]
      simp only [Option.bind_eq_bind, Option.bind_some, ne_eq, not_true_eq_false, if_false, completed]
      by_cases done : b'.response.isMessageCompleted = true
      · rw [if_pos done]
        rw [oneByOne_completed done accepted] at accepted
        cases accepted
        obtain ⟨m, finished⟩ := finish_like like'
        refine ⟨m, ?_⟩
        rw [finished, outcome, if_pos (.inl done), Option.map_map, Option.map_map]
        rfl
      · rw [if_neg done]
        obtain ⟨settledLast, okLast⟩ := invariant.flushed
        exact ih settledLast okLast ((resume_flushed invariant).trans like') like'
          (oneByOne_settled settled' read) (by simpa using done) filledRest accepted

theorem resume_init : (Session.resume {}).flushed.Like {} := by
  rw [resume_unmarked fun datum => by cases datum <;> rfl, unmarked_flushed]
  exact Session.Like.refl _

/-- Bytes that are accepted one at a time are accepted in whatever segments they arrive, and the request
ends the same but for the status message. -/
theorem createHttpResponse_cut (arrivals : Arrivals) {final : Session}
    (accepted : oneByOne {} arrivals.segments.flatten = some final) :
    ∃ statusMessage, createHttpResponse arrivals =
      (outcome final arrivals.ending).map fun result =>
        result.map fun response => { response with statusMessage } :=
  receive_of_oneByOne settled_init rfl resume_init (Session.Like.refl _) settled_init rfl _ _ arrivals.filled accepted

def noContent : Bytes := str "HTTP/1.1 204 \r\nContent-Length: 0\r\n\r\n"

theorem createHttpResponse_cut_noContent : ∃ final statusMessage, createHttpResponse
      ⟨[noContent.take 20, noContent.drop 20], by decide, 0, Int.le_refl 0⟩ =
    (outcome final 0).map fun result => result.map fun response => { response with statusMessage } := by
  have accepted : (oneByOne {} [noContent.take 20, noContent.drop 20].flatten).isSome = true := by decide +kernel
  obtain ⟨final, accepted⟩ := Option.isSome_iff_exists.mp accepted
  obtain ⟨statusMessage, received⟩ :=
    createHttpResponse_cut ⟨[noContent.take 20, noContent.drop 20], by decide, 0, Int.le_refl 0⟩ accepted
  exact ⟨final, statusMessage, received⟩

end DecadaEmbedded.Http
