import DecadaEmbedded.Http.OneByOne
import Mathlib.Data.List.Induction

/-!
# Bodies in segments

A turn in a body takes what the segment holds of it, the bytes one at a time the same.
-/

namespace DecadaEmbedded.Http
open Library

/-! ## Single bytes -/

/-- A session behind the end of its message. -/
def Session.complete (session : Session) : Session :=
  ⟨{ session.parser with state := session.parser.newMessage }, session.response.setMessageComplete⟩

/-- A byte that ends no message, read alone. -/
theorem byte_of_next {session : Session} {ch : UInt8} {run : Run} (settled : session.Settled)
    (ok : session.parser.httpErrno = .ok) (running : session.response.isMessageCompleted = false)
    (bounded : session.resume.Bounded) (switched : switch session.resume.counted ch [] = .next run 0) :
    byte session ch = some (run.advance [ch]).flushed := by
  have turned := (turn_of_bounded (settled.invariant ok) bounded).trans switched
  have good : (turn session.resume ch []).Good 0 := turn_good (settled.invariant ok)
  rw [turned] at good
  have fine : (run.advance [ch]).flushed.parser.httpErrno = .ok := by
    rw [Run.flushed, Run.callbacks_parser]
    exact good.1.ok
  have executes : httpParserExecute session [ch] = some ⟨(run.advance [ch]).flushed, 1⟩ := by
    rw [httpParserExecute_cons ok, loop_next turned, List.take_nil, List.drop_nil, loop_nil (good.1.advance [ch])]
    rfl
  rw [byte, if_neg (by rw [running]; decide), executes]
  exact if_pos fine

theorem State.inBody.not_counting {state : State} (body : state.inBody) : state.parsingHeader = false := by
  revert body
  cases state <;> decide

theorem counted_inBody {run : Run} (body : run.parser.state.inBody) : run.counted = run := by
  rw [Run.counted, if_neg (by rw [State.inBody.not_counting body]; decide)]

theorem bounded_inBody {run : Run} (body : run.parser.state.inBody) : run.Bounded := fun counting => by
  rw [State.inBody.not_counting body] at counting
  cases counting

theorem resume_inBody {session : Session} (body : session.parser.state.inBody) :
    session.resume = session.unmarked := by
  refine resume_unmarked fun datum => ?_
  revert body
  cases session.parser.state <;> cases datum <;> simp [State.inBody, resumed]

/-- The byte of a body that is not its last. -/
theorem byte_inBody {parser next : Parser} {response : HttpResponse} {ch : UInt8}
    (settled : Session.Settled ⟨parser, response⟩) (ok : parser.httpErrno = .ok)
    (running : response.isMessageCompleted = false) (body : parser.state.inBody)
    (switched : switch (Session.unmarked ⟨parser, response⟩) ch [] =
      .next (Session.marking ⟨next, response⟩ .body []) 0) :
    byte ⟨parser, response⟩ ch = some ⟨next, response.setBody [ch]⟩ := by
  have resumes : Session.resume ⟨parser, response⟩ = Session.unmarked ⟨parser, response⟩ := resume_inBody body
  have body' : (Session.unmarked ⟨parser, response⟩).parser.state.inBody := body
  rw [byte_of_next settled ok running (bounded_inBody (by rw [resumes]; exact body'))
    (by rw [resumes, counted_inBody body']; exact switched), marking_advance, marking_flushed]
  rfl

section Body
variable {parser : Parser} {response : HttpResponse} {ch : UInt8}

theorem onBodyIdentity_rest {run : Run} {bytes : Bytes} (more : bytes.length < run.parser.contentLength) :
    onBodyIdentity run bytes =
      .next { run.mark .body with
        parser := { run.parser with contentLength := run.parser.contentLength - bytes.length } }
        (bytes.length - 1) := by
  have all : min run.parser.contentLength bytes.length = bytes.length := min_eq_right more.le
  have left : ¬ run.parser.contentLength - bytes.length = 0 := by omega
  unfold onBodyIdentity
  simp only [Run.mark, all, left, if_false]

theorem onBodyIdentity_last {run : Run} {bytes : Bytes} (enough : run.parser.contentLength ≤ bytes.length) :
    onBodyIdentity run bytes =
      (onMessageDone (Run.callbackData
        { run.mark .body with parser := { run.parser with contentLength := 0, state := .messageDone } }
        .body (bytes.take run.parser.contentLength))).after (run.parser.contentLength - 1) := by
  have all : min run.parser.contentLength bytes.length = run.parser.contentLength := min_eq_left enough
  unfold onBodyIdentity
  simp only [Run.mark, Run.updateState, all, Nat.sub_self, if_true]

/-- The state behind `toRead` bytes of a chunk. -/
def Parser.inChunk (parser : Parser) (toRead : Nat) : Parser :=
  { parser with
    contentLength := parser.contentLength - toRead
    state := if parser.contentLength - toRead = 0 then .chunkDataAlmostDone else .chunkData }

theorem onChunkData_eq {run : Run} (state : run.parser.state = .chunkData) {bytes : Bytes} {toRead : Nat}
    (reads : min run.parser.contentLength bytes.length = toRead) :
    onChunkData run bytes = .next { run.mark .body with parser := run.parser.inChunk toRead } (toRead - 1) := by
  unfold onChunkData Parser.inChunk
  by_cases ends : run.parser.contentLength - toRead = 0
  · simp only [Run.mark, Run.updateState, reads, ends, if_true]
  · simp only [Run.mark, reads, ends, if_false, ← state]

theorem byte_eof (settled : Session.Settled ⟨parser, response⟩) (ok : parser.httpErrno = .ok)
    (running : response.isMessageCompleted = false) (state : parser.state = .bodyIdentityEof) :
    byte ⟨parser, response⟩ ch = some ⟨parser, response.setBody [ch]⟩ := by
  refine byte_inBody settled ok running (by rw [state]; rfl) ?_
  rw [switch, show (Session.unmarked ⟨parser, response⟩).parser.state = _ from state]
  rfl

theorem byte_identity (settled : Session.Settled ⟨parser, response⟩) (ok : parser.httpErrno = .ok)
    (running : response.isMessageCompleted = false) (state : parser.state = .bodyIdentity)
    (more : 1 < parser.contentLength) :
    byte ⟨parser, response⟩ ch =
      some ⟨{ parser with contentLength := parser.contentLength - 1 }, response.setBody [ch]⟩ := by
  refine byte_inBody settled ok running (by rw [state]; rfl) ?_
  rw [switch, show (Session.unmarked ⟨parser, response⟩).parser.state = _ from state]
  exact onBodyIdentity_rest more

theorem byte_chunk (settled : Session.Settled ⟨parser, response⟩) (ok : parser.httpErrno = .ok)
    (running : response.isMessageCompleted = false) (state : parser.state = .chunkData)
    (filled : parser.contentLength ≠ 0) :
    byte ⟨parser, response⟩ ch = some ⟨parser.inChunk 1, response.setBody [ch]⟩ := by
  refine byte_inBody settled ok running (by rw [state]; rfl) ?_
  rw [switch, show (Session.unmarked ⟨parser, response⟩).parser.state = _ from state]
  exact onChunkData_eq state (by rw [List.length_singleton]; exact min_eq_right (Nat.one_le_iff_ne_zero.mpr filled))

end Body

/-- The bytes of a body, each of which goes to the response and takes the parser one further. -/
theorem oneByOne_body (parsers : Nat → Parser) (xs : Bytes) {response : HttpResponse}
    (running : response.isMessageCompleted = false)
    (takes : ∀ i < xs.length, ∀ (response : HttpResponse) (ch : UInt8), response.isMessageCompleted = false →
      byte ⟨parsers i, response⟩ ch = some ⟨parsers (i + 1), response.setBody [ch]⟩) :
    ∃ response', oneByOne ⟨parsers 0, response⟩ xs = some ⟨parsers xs.length, response'⟩ ∧
      response'.isMessageCompleted = false ∧ (xs ≠ [] → response' = response.setBody xs) ∧
      ∀ y ≠ [], response'.setBody y = response.setBody (xs ++ y) := by
  induction xs using List.reverseRecOn with
  | nil => exact ⟨response, rfl, running, fun filled => absurd rfl filled, fun y _ => rfl⟩
  | append_singleton xs ch ih =>
      rw [List.length_append, List.length_singleton] at takes ⊢
      obtain ⟨middle, read, open', -, appends⟩ := ih fun i below => takes i (below.trans (Nat.lt_succ_self _))
      refine ⟨middle.setBody [ch], ?_, open', fun _ => appends _ (List.cons_ne_nil ch []), fun y _ => ?_⟩
      · rw [oneByOne_append, read, Option.bind_some, oneByOne_cons, takes _ (Nat.lt_succ_self _) _ _ open']
        rfl
      · rw [HttpResponse.setBody_append _ _ _ (List.cons_ne_nil ch []), List.append_assoc]
        exact appends _ (List.cons_ne_nil ch y)

section Keeps
variable {a : Run} {b final : Session} {ch : UInt8} {tail : Bytes}

/-- The text that the mark of the body holds, and what a call ending behind `passed` would pass on. -/
theorem Follows.body_like (follows : Follows a b) (body : a.parser.state.inBody) :
    ∃ text, a.mark .body = a.toSession.marking .body text ∧
      ∀ passed ≠ [], Session.Like ⟨a.parser, a.response.setBody (text ++ passed)⟩ ⟨b.parser, b.response.setBody passed⟩ := by
  have others := follows.invariant.others body
  have like := follows.flushed_eq others
  have marks (text : Bytes) (held : (a.marks .body).getD [] = text) :
      a.mark .body = a.toSession.marking .body text :=
    eq_marking (mark_others others) (by simp only [Run.mark, Function.update_self, held])
  cases marked : a.marks .body with
  | none =>
      refine ⟨[], marks [] (by rw [marked]; rfl), fun passed _ => ?_⟩
      rw [Run.callbackData, marked] at like
      obtain ⟨n, m, below, same⟩ := like
      obtain ⟨parsers, responses⟩ := Session.mk.inj same
      refine ⟨n, m, below, ?_⟩
      rw [parsers, responses]
      rfl
  | some text =>
      refine ⟨text, marks text (by rw [marked]; rfl), fun passed _ => ?_⟩
      have filled : text ≠ [] := fun empty => follows.filled (by rw [marked, empty])
      rw [Run.callbackData, marked] at like
      obtain ⟨n, m, below, same⟩ := like
      obtain ⟨parsers, responses⟩ := Session.mk.inj same
      rw [List.append_nil] at responses
      refine ⟨n, m, below, ?_⟩
      rw [← HttpResponse.setBody_append _ _ _ filled, show a.response.setBody text = _ from responses]
      exact congrArg (Session.mk · _) parsers

theorem Follows.running (follows : Follows a b) (accepted : oneByOne b (ch :: tail) = some final) :
    b.parser.httpErrno = .ok ∧ b.response.isMessageCompleted = false := by
  rw [oneByOne_cons] at accepted
  obtain ⟨b', one, -⟩ := Option.bind_eq_some_iff.mp accepted
  obtain ⟨ok, running, -⟩ := byte_spec follows.settled one
  exact ⟨ok, running⟩

theorem turn_inBody (follows : Follows a b) (body : a.parser.state.inBody) :
    turn a ch tail = switch a ch tail := by
  rw [turn_of_bounded follows.invariant (bounded_inBody body), counted_inBody body]

theorem keeps_eof (follows : Follows a b) (accepted : oneByOne b (ch :: tail) = some final)
    (state : a.parser.state = .bodyIdentityEof) : Keeps a b ch tail := by
  have body : a.parser.state.inBody := by rw [state]; rfl
  obtain ⟨text, marked, like⟩ := follows.body_like body
  obtain ⟨ok, running⟩ := follows.running accepted
  obtain ⟨response', read, -, whole, -⟩ := oneByOne_body (fun _ => b.parser) (ch :: tail) running
    fun _ _ _ _ running => byte_eof follows.settled ok running (follows.state.trans state)
  have turned : turn a ch tail = .next (a.toSession.marking .body text) tail.length := by
    rw [turn_inBody follows body, switch, state, ← marked]
    rfl
  refine .inl ⟨_, _, _, turned, by rw [List.take_length]; exact read,
    follows_next follows turned (oneByOne_settled follows.settled read) ?_⟩
  rw [List.take_length, marking_advance, marking_flushed, whole (List.cons_ne_nil ch tail)]
  exact like _ (List.cons_ne_nil ch tail)

theorem Follows.contentLength (follows : Follows a b) : b.parser.contentLength = a.parser.contentLength := by
  obtain ⟨n, -, parsers⟩ := follows.parser
  rw [parsers]

/-- The bytes of a sized body before its last. -/
theorem oneByOne_identity (settled : b.Settled) (ok : b.parser.httpErrno = .ok)
    (running : b.response.isMessageCompleted = false) (state : b.parser.state = .bodyIdentity) (xs : Bytes)
    (more : xs.length < b.parser.contentLength) :
    ∃ response', oneByOne b xs =
        some ⟨{ b.parser with contentLength := b.parser.contentLength - xs.length }, response'⟩ ∧
      response'.isMessageCompleted = false ∧ (xs ≠ [] → response' = b.response.setBody xs) ∧
      ∀ y ≠ [], response'.setBody y = b.response.setBody (xs ++ y) := by
  obtain ⟨bounded, sound⟩ := settled ok
  simp only [Parser.Sound, state] at sound
  refine oneByOne_body (fun i => { b.parser with contentLength := b.parser.contentLength - i }) xs running
    fun i below response ch running => ?_
  have settled : Session.Settled ⟨{ b.parser with contentLength := b.parser.contentLength - i }, response⟩ := by
    refine fun _ => ⟨(Nat.sub_le _ _).trans bounded, ?_⟩
    simp only [Parser.Sound, state]
    exact ⟨by omega, (Nat.sub_le _ _).trans_lt sound.2⟩
  exact byte_identity settled ok running state (show 1 < b.parser.contentLength - i by omega)

/-- A body that goes on behind this segment. -/
theorem keeps_identity_rest (follows : Follows a b) (accepted : oneByOne b (ch :: tail) = some final)
    (state : a.parser.state = .bodyIdentity) (more : (ch :: tail).length < a.parser.contentLength) :
    Keeps a b ch tail := by
  have body : a.parser.state.inBody := by rw [state]; rfl
  obtain ⟨text, marked, like⟩ := follows.body_like body
  obtain ⟨ok, running⟩ := follows.running accepted
  obtain ⟨response', read, -, whole, -⟩ := oneByOne_identity follows.settled ok running
    (follows.state.trans state) (ch :: tail) (by rw [follows.contentLength]; exact more)
  have turned : turn a ch tail = .next (Session.marking
      ⟨{ a.parser with contentLength := a.parser.contentLength - (ch :: tail).length }, a.response⟩ .body text)
      tail.length := by
    rw [turn_inBody follows body, switch, state]
    refine (onBodyIdentity_rest more).trans ?_
    rw [marked]
    rfl
  refine .inl ⟨_, _, _, turned, by rw [List.take_length]; exact read,
    follows_next follows turned (oneByOne_settled follows.settled read) ?_⟩
  obtain ⟨n, m, below, same⟩ := like (ch :: tail) (List.cons_ne_nil ch tail)
  rw [List.take_length, marking_advance, marking_flushed, whole (List.cons_ne_nil ch tail)]
  obtain ⟨parsers, responses⟩ := Session.mk.inj same
  refine ⟨n, m, below, ?_⟩
  rw [Session.on, responses, parsers]

theorem Step.after_zero (step : Step) : step.after 0 = step := by
  cases step <;> simp only [Step.after, Nat.zero_add]

theorem onMessageDone_unmarked (session : Session) :
    onMessageDone session.unmarked =
      if session.parser.upgrade then .returned session.complete.unmarked 1
      else .next session.complete.unmarked 0 := rfl

theorem complete_like {s t : Session} (like : s.Like t) : s.complete.Like t.complete := by
  obtain ⟨n, m, below, rfl⟩ := like
  exact ⟨n, m, below, rfl⟩

/-- The last byte of a sized body, read alone. -/
theorem byte_last {session next : Session} (settled : session.Settled) (ch : UInt8)
    (state : session.parser.state = .bodyIdentity) (last : session.parser.contentLength = 1)
    (accepted : byte session ch = some next) :
    next = Session.complete
      ⟨{ session.parser with contentLength := 0, state := .messageDone }, session.response.setBody [ch]⟩ := by
  have body : session.parser.state.inBody := by rw [state]; rfl
  have switched : switch session.resume.counted ch [] = onMessageDone (Session.unmarked
      ⟨{ session.parser with contentLength := 0, state := .messageDone }, session.response.setBody [ch]⟩) := by
    rw [resume_inBody body, counted_inBody body, switch,
      show session.unmarked.parser.state = _ from state, onBodyIdentity_last last.le,
      show session.unmarked.parser.contentLength = 1 from last]
    have called := marking_callbackData
      ⟨{ session.parser with contentLength := 0, state := .messageDone }, session.response⟩ .body [] [ch]
    exact (Step.after_zero _).trans (congrArg onMessageDone called)
  obtain ⟨-, -, -, ⟨run, turned, rfl⟩ | ⟨run, turned, rfl⟩⟩ := byte_spec settled accepted
  · have ends := (turn_eq_switch turned (by simp) (by simp)).1
    rw [switched, onMessageDone_unmarked] at ends
    split_ifs at ends
    cases ends
    rw [unmarked_advance, unmarked_flushed]
  · have ends := (turn_eq_switch turned (by simp) (by simp)).1
    rw [switched, onMessageDone_unmarked] at ends
    split_ifs at ends
    cases ends
    rfl

/-- A body that ends in this segment. -/
theorem keeps_identity_last (follows : Follows a b) (accepted : oneByOne b (ch :: tail) = some final)
    (state : a.parser.state = .bodyIdentity) (enough : a.parser.contentLength ≤ (ch :: tail).length) :
    Keeps a b ch tail := by
  have body : a.parser.state.inBody := by rw [state]; rfl
  obtain ⟨text, marked, like⟩ := follows.body_like body
  obtain ⟨ok, running⟩ := follows.running accepted
  obtain ⟨-, sound⟩ := follows.settled ok
  simp only [Parser.Sound, follows.state.trans state, follows.contentLength] at sound
  obtain ⟨n, length⟩ : ∃ n, a.parser.contentLength = n + 1 := Nat.exists_eq_succ_of_ne_zero sound.1
  rw [length] at enough
  -- the last byte of the body, and what is behind it
  obtain ⟨last, cut⟩ : ∃ last, (ch :: tail)[n]? = some last :=
    ⟨_, List.getElem?_eq_getElem (Nat.lt_of_succ_le enough)⟩
  have taken : (ch :: tail).take (n + 1) = (ch :: tail).take n ++ [last] := by
    rw [List.take_add_one, cut]
    rfl
  have whole : (ch :: tail).take n ++ last :: tail.drop n = ch :: tail := by
    have := List.take_append_drop (n + 1) (ch :: tail)
    rwa [taken, List.append_assoc, List.drop_succ_cons] at this
  have short : ((ch :: tail).take n).length = n := List.length_take_of_le (by omega)
  obtain ⟨response', read, running', -, appends⟩ := oneByOne_identity follows.settled ok running
    (follows.state.trans state) ((ch :: tail).take n) (by rw [follows.contentLength, length, short]; omega)
  rw [← whole, oneByOne_append, read, Option.bind_some, oneByOne_cons] at accepted
  obtain ⟨b', one, rest⟩ := Option.bind_eq_some_iff.mp accepted
  have ends := byte_last (oneByOne_settled follows.settled read) last (follows.state.trans state)
    (by rw [follows.contentLength, length, short]; exact Nat.add_sub_cancel_left n 1) one
  rw [appends _ (List.cons_ne_nil last []), ← taken] at ends
  -- nothing is accepted behind the message
  have done : tail.drop n = [] := oneByOne_completed (by rw [ends]; rfl) rest
  obtain rfl : n = tail.length := le_antisymm (Nat.le_of_succ_le_succ enough) (List.drop_eq_nil_iff.mp done)
  have all : (ch :: tail).take (tail.length + 1) = ch :: tail := List.take_of_length_le le_rfl
  rw [all] at ends
  have read' : oneByOne b (ch :: tail) = some b' := by
    rw [← whole, oneByOne_append, read, Option.bind_some, oneByOne_cons, one, Option.bind_some, done]
    rfl
  have like' : Session.Like
      ⟨{ a.parser with contentLength := 0, state := .messageDone }, a.response.setBody (text ++ ch :: tail)⟩
      ⟨{ b.parser with contentLength := 0, state := .messageDone }, b.response.setBody (ch :: tail)⟩ := by
    obtain ⟨m, message, below, same⟩ := like (ch :: tail) (List.cons_ne_nil ch tail)
    obtain ⟨parsers, responses⟩ := Session.mk.inj same
    refine ⟨m, message, below, ?_⟩
    rw [responses, parsers]
  have turned : turn a ch tail = (onMessageDone (Session.unmarked
      ⟨{ a.parser with contentLength := 0, state := .messageDone }, a.response.setBody (text ++ ch :: tail)⟩)).after
        tail.length := by
    have called := marking_callbackData
      ⟨{ a.parser with contentLength := 0, state := .messageDone }, a.response⟩ .body text (ch :: tail)
    rw [turn_inBody follows body, switch, state]
    refine (onBodyIdentity_last (by rw [length]; exact enough)).trans ?_
    rw [length, all, marked]
    exact congrArg (fun run => (onMessageDone run).after tail.length) called
  rw [onMessageDone_unmarked] at turned
  split_ifs at turned with upgraded
  · exact .inr ⟨_, b', turned, read', by rw [ends]; exact complete_like like'⟩
  · refine .inl ⟨_, _, b', turned, by rw [Nat.add_zero, List.take_length]; exact read', ?_⟩
    refine follows_next follows turned (oneByOne_settled follows.settled read') ?_
    rw [unmarked_advance, unmarked_flushed, ends]
    exact complete_like like'

/-- The bytes of a chunk. -/
theorem oneByOne_chunk (settled : b.Settled) (ok : b.parser.httpErrno = .ok)
    (running : b.response.isMessageCompleted = false) (state : b.parser.state = .chunkData) (xs : Bytes)
    (filled : xs ≠ []) (fits : xs.length ≤ b.parser.contentLength) :
    oneByOne b xs = some ⟨b.parser.inChunk xs.length, b.response.setBody xs⟩ := by
  obtain ⟨bounded, sound⟩ := settled ok
  simp only [Parser.Sound, state] at sound
  have start : b.parser.inChunk 0 = b.parser := by
    rw [Parser.inChunk, Nat.sub_zero, if_neg sound.2.1, ← state]
  obtain ⟨response', read, -, whole, -⟩ := oneByOne_body b.parser.inChunk xs running
    fun i below response ch running => by
      have left : b.parser.contentLength - i ≠ 0 := by omega
      have state' : (b.parser.inChunk i).state = .chunkData := if_neg left
      have settled : Session.Settled ⟨b.parser.inChunk i, response⟩ := by
        refine fun _ => ⟨(Nat.sub_le _ _).trans bounded, ?_⟩
        simp only [Parser.Sound, state']
        exact ⟨sound.1, left, (Nat.sub_le _ _).trans_lt sound.2.2⟩
      exact byte_chunk settled ok running state' left
  rw [start] at read
  rw [read, whole filled]

theorem keeps_chunk (follows : Follows a b) (accepted : oneByOne b (ch :: tail) = some final)
    (state : a.parser.state = .chunkData) : Keeps a b ch tail := by
  have body : a.parser.state.inBody := by rw [state]; rfl
  obtain ⟨text, marked, like⟩ := follows.body_like body
  obtain ⟨ok, running⟩ := follows.running accepted
  obtain ⟨-, sound⟩ := follows.settled ok
  simp only [Parser.Sound, follows.state.trans state, follows.contentLength] at sound
  obtain ⟨n, reads⟩ : ∃ n, min a.parser.contentLength (ch :: tail).length = n + 1 :=
    Nat.exists_eq_succ_of_ne_zero (by rw [List.length_cons]; omega)
  have short : ((ch :: tail).take (n + 1)).length = n + 1 := by
    rw [List.length_take, ← reads, min_assoc, min_self]
  have read := oneByOne_chunk follows.settled ok running (follows.state.trans state) ((ch :: tail).take (n + 1))
    (List.ne_nil_of_length_eq_add_one short)
    (by rw [short, follows.contentLength, ← reads]; exact min_le_left _ _)
  have turned : turn a ch tail =
      .next (Session.marking ⟨a.parser.inChunk (n + 1), a.response⟩ .body text) n := by
    rw [turn_inBody follows body, switch, state]
    refine (onChunkData_eq state reads).trans ?_
    rw [marked]
    rfl
  refine .inl ⟨_, _, _, turned, read, follows_next follows turned (oneByOne_settled follows.settled read) ?_⟩
  obtain ⟨m, message, below, same⟩ := like ((ch :: tail).take (n + 1)) (List.ne_nil_of_length_eq_add_one short)
  obtain ⟨parsers, responses⟩ := Session.mk.inj same
  rw [marking_advance, marking_flushed, short]
  refine ⟨m, message, below, ?_⟩
  rw [Session.on, ← List.take_succ_cons, responses, parsers]
  rfl

end Keeps

end DecadaEmbedded.Http
