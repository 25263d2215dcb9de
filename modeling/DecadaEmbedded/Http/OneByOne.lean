import DecadaEmbedded.Http.Alike

/-!
# One byte at a time

A run inside a segment beside the session that has read the same bytes one at a time. A turn that reads
one byte keeps the two together; those that read many are in the modules behind this one.
-/

namespace DecadaEmbedded.Http
open Library

/-! ## One byte at a time -/

/-- `http_parser_execute` on one byte, of a message that is not complete; none if it is not accepted. -/
def byte (session : Session) (ch : UInt8) : Option Session :=
  if session.response.isMessageCompleted then none
  else
    match httpParserExecute session [ch] with
    | some ⟨next, 1⟩ => if next.parser.httpErrno = .ok then some next else none
    | _ => none

def oneByOne (session : Session) (bytes : Bytes) : Option Session := bytes.foldlM byte session

def Session.resume (session : Session) : Run := { session with marks := resumed session.parser.state }

/-- The session that a call ending here would leave. -/
def Run.flushed (run : Run) : Session := run.callbacks.toSession

theorem Session.Settled.invariant {session : Session} (settled : session.Settled)
    (ok : session.parser.httpErrno = .ok) : session.resume.Invariant :=
  ⟨ok, (settled ok).1, (settled ok).2, fun _ isSet => isSet, fun _ isSet => opens_of_resumed isSet⟩

theorem httpParserExecute_cons {session : Session} (ok : session.parser.httpErrno = .ok) (ch : UInt8)
    (tail : Bytes) : httpParserExecute session (ch :: tail) = loop session.resume (ch :: tail) := by
  rw [httpParserExecute, if_neg (by simp [ok]), if_neg (List.cons_ne_nil ch tail)]
  rfl

theorem loop_nil {run : Run} (invariant : run.Invariant) : loop run [] = some ⟨run.flushed, 0⟩ := by
  rw [loop, if_pos invariant.countP_le]
  rfl

/-- What a byte that is accepted does. -/
theorem byte_spec {session next : Session} {ch : UInt8} (settled : session.Settled)
    (accepted : byte session ch = some next) :
    session.parser.httpErrno = .ok ∧ session.response.isMessageCompleted = false ∧ next.Settled ∧
      ((∃ run, turn session.resume ch [] = .next run 0 ∧ next = (run.advance [ch]).flushed) ∨
        ∃ run, turn session.resume ch [] = .returned run 1 ∧ next = run.toSession) := by
  unfold byte at accepted
  split_ifs at accepted with completed
  rw [Bool.not_eq_true] at completed
  obtain ⟨executed, executes, left, -⟩ := httpParserExecute_spec settled [ch]
  rw [executes] at accepted
  obtain ⟨last, nparsed⟩ := executed
  have one : nparsed = 1 ∧ last.parser.httpErrno = .ok ∧ last = next := by
    split at accepted
    · rename_i same
      cases same
      split_ifs at accepted with ok
      exact ⟨rfl, ok, Option.some.inj accepted⟩
    · cases accepted
  obtain ⟨rfl, fine, rfl⟩ := one
  have ok : session.parser.httpErrno = .ok := by
    by_contra failed
    rw [httpParserExecute, if_pos failed] at executes
    cases executes
  rw [httpParserExecute_cons ok] at executes
  refine ⟨ok, completed, left, ?_⟩
  have good : (turn session.resume ch []).Good 0 := turn_good (settled.invariant ok)
  cases ended : turn session.resume ch [] with
  | assertion => rw [ended] at good; exact good.elim
  | error run ahead errno =>
      rw [ended] at good
      rw [loop_error ended] at executes
      cases executes
      exact absurd fine good.1
  | returned run ahead =>
      rw [loop_returned ended] at executes
      cases executes
      exact .inr ⟨run, rfl, rfl⟩
  | next run ahead =>
      rw [ended] at good
      obtain rfl : ahead = 0 := Nat.le_zero.mp good.2
      rw [loop_next ended, List.take_nil, List.drop_nil, loop_nil (good.1.advance [ch])] at executes
      cases executes
      exact .inl ⟨run, rfl, rfl⟩

/-! ## Runs with one mark or none -/

def Session.unmarked (session : Session) : Run := { session with marks := fun _ => none }

def Session.marking (session : Session) (datum : Datum) (text : Bytes) : Run :=
  { session with marks := Function.update (fun _ => none) datum (some text) }

section Marking
variable (session : Session) (datum : Datum) (text passed : Bytes)

theorem marking_callbackData :
    (session.marking datum text).callbackData datum passed =
      Session.unmarked ⟨session.parser, session.on (text ++ passed) datum⟩ := by
  unfold Run.callbackData Session.marking Session.unmarked
  simp only [Function.update_self, Function.update_idem]
  rw [Function.update_eq_self datum (fun _ => (none : Option Bytes))]

theorem unmarked_advance : session.unmarked.advance passed = session.unmarked := by
  simp only [Run.advance, Session.unmarked, Option.map_none]

theorem marking_advance : (session.marking datum text).advance passed = session.marking datum (text ++ passed) := by
  unfold Run.advance Session.marking
  congr 1
  funext other
  by_cases same : other = datum
  · subst same
    simp
  · simp [same]

end Marking

/-! ## A turn against the same bytes one at a time -/

/-- A run inside a segment, beside the session that has read the same bytes one at a time. -/
structure Follows (a : Run) (b : Session) : Prop where
  invariant : a.Invariant
  like : a.flushed.Like b
  filled : a.marks .body ≠ some []
  settled : b.Settled

theorem callbacks_eq {run : Run} {datum : Datum} (others : ∀ other, other ≠ datum → run.marks other = none) :
    run.callbacks = run.callbackData datum := by
  have skip (run : Run) (other : Datum) (unmarked : run.marks other = none) : run.callbackData other = run := by
    rw [Run.callbackData, unmarked]
  have still (run : Run) (other next : Datum) (passed : Bytes) (unmarked : run.marks other = none) :
      (run.callbackData next passed).marks other = none := by
    unfold Run.callbackData
    split
    · exact unmarked
    · by_cases same : other = next
      · subst same
        exact Function.update_self _ _ _
      · exact (Function.update_of_ne same _ _).trans unmarked
  unfold Run.callbacks Datum.all
  simp only [List.foldl_cons, List.foldl_nil]
  cases datum with
  | headerField =>
      rw [skip _ .headerValue (still _ _ _ _ (others _ (by decide))),
        skip _ .body (still _ _ _ _ (others _ (by decide))), skip _ .status (still _ _ _ _ (others _ (by decide)))]
  | headerValue =>
      rw [skip _ .headerField (others _ (by decide)), skip _ .body (still _ _ _ _ (others _ (by decide))),
        skip _ .status (still _ _ _ _ (others _ (by decide)))]
  | body =>
      rw [skip _ .headerField (others _ (by decide)), skip _ .headerValue (others _ (by decide)),
        skip _ .status (still _ _ _ _ (others _ (by decide)))]
  | status =>
      rw [skip _ .headerField (others _ (by decide)), skip _ .headerValue (others _ (by decide)),
        skip _ .body (others _ (by decide))]

theorem flushed_unmarked {run : Run} (marks : run.marks = fun _ => none) : run.flushed = run.toSession := by
  have unmarked (datum : Datum) : run.marks datum = none := congrFun marks datum
  rw [Run.flushed, callbacks_eq fun (other : Datum) (_ : other ≠ .status) => unmarked other, Run.callbackData, unmarked]

theorem unmarked_flushed (session : Session) : session.unmarked.flushed = session := flushed_unmarked rfl

theorem marking_flushed (session : Session) (datum : Datum) (text : Bytes) :
    (session.marking datum text).flushed = ⟨session.parser, session.on text datum⟩ := by
  have others (other : Datum) (differs : other ≠ datum) : (session.marking datum text).marks other = none :=
    (Function.update_of_ne differs _ (fun _ => none) : _)
  rw [Run.flushed, callbacks_eq others, marking_callbackData, List.append_nil]
  rfl

theorem callbackData_like {a b : Run} (like : a.Like b) (datum : Datum) (passed : Bytes) :
    (a.callbackData datum passed).Like (b.callbackData datum passed) := by
  obtain ⟨n, m, below, rfl⟩ := like.eq
  unfold Run.callbackData
  dsimp only
  cases b.marks datum with
  | none => exact ⟨⟨n, m, below, rfl⟩, rfl⟩
  | some text =>
      cases datum with
      | status => exact ⟨⟨n, text ++ passed, below, rfl⟩, rfl⟩
      | headerField | headerValue | body => exact ⟨⟨n, m, below, rfl⟩, rfl⟩

theorem flushed_like {a b : Run} (like : a.Like b) : a.flushed.Like b.flushed :=
  (callbackData_like (callbackData_like (callbackData_like (callbackData_like like _ _) _ _) _ _) _ _).1

theorem advance_like {a b : Run} (like : a.Like b) (passed : Bytes) : (a.advance passed).Like (b.advance passed) :=
  ⟨like.1, by rw [Run.advance, Run.advance, like.2]⟩

theorem advance_filled (run : Run) (ch : UInt8) (passed : Bytes) (datum : Datum) :
    (run.advance (ch :: passed)).marks datum ≠ some [] := by
  simp [Run.advance]

theorem oneByOne_cons (session : Session) (ch : UInt8) (bytes : Bytes) :
    oneByOne session (ch :: bytes) = (byte session ch).bind fun next => oneByOne next bytes := rfl

theorem oneByOne_append (session : Session) (x y : Bytes) :
    oneByOne session (x ++ y) = (oneByOne session x).bind fun next => oneByOne next y :=
  List.foldlM_append

theorem oneByOne_completed {session : Session} (completed : session.response.isMessageCompleted) {bytes : Bytes}
    {final : Session} (accepted : oneByOne session bytes = some final) : bytes = [] := by
  cases bytes with
  | nil => rfl
  | cons ch tail =>
      rw [oneByOne_cons, byte, if_pos completed] at accepted
      cases accepted

theorem oneByOne_settled {session final : Session} {bytes : Bytes} (settled : session.Settled)
    (accepted : oneByOne session bytes = some final) : final.Settled := by
  induction bytes generalizing session with
  | nil => cases accepted; exact settled
  | cons ch tail ih =>
      rw [oneByOne_cons] at accepted
      obtain ⟨next, one, rest⟩ := Option.bind_eq_some_iff.mp accepted
      exact ih (byte_spec settled one).2.2.1 rest

def Run.counted (run : Run) : Run := if run.parser.state.parsingHeader then run.countHeaderSize 1 else run

/-- How far the count of header bytes has room at this byte. -/
def Run.Bounded (run : Run) : Prop :=
  run.parser.state.parsingHeader → run.parser.nread + 1 ≤ httpMaxHeaderSize

instance (run : Run) : Decidable run.Bounded := inferInstanceAs (Decidable (_ → _))

section Turns
variable {a b : Run} {ch : UInt8} {tail : Bytes}

@[simp] theorem counted_state (run : Run) : run.counted.parser.state = run.parser.state := by
  unfold Run.counted
  split_ifs <;> rfl

@[simp] theorem counted_marks (run : Run) : run.counted.marks = run.marks := by
  unfold Run.counted
  split_ifs <;> rfl

theorem turn_cases (run : Run) (ch : UInt8) (tail : Bytes) :
    turn run ch tail =
      if run.Bounded then if run.counted.parser.asserted then switch run.counted ch tail else .assertion
      else .error run.counted 0 .headerOverflow := by
  unfold turn Run.Bounded Run.counted
  by_cases counting : run.parser.state.parsingHeader
  · have counted : (run.countHeaderSize 1).parser.state.parsingHeader = true := counting
    simp only [counting, if_true, counted, Bool.true_and, decide_eq_true_eq, true_imp_iff]
    by_cases fits : run.parser.nread + 1 ≤ httpMaxHeaderSize
    · rw [if_pos fits, if_neg (by simpa [Run.countHeaderSize] using fits)]
    · rw [if_neg fits, if_pos (by simpa [Run.countHeaderSize] using fits)]
  · simp only [counting, Bool.false_eq_true, if_false, Bool.false_and, false_imp_iff, if_true]

/-- A turn without an error is the `switch`, and the count had room. -/
theorem turn_eq_switch {step : Step} (turned : turn a ch tail = step)
    (fine : ∀ run ahead errno, step ≠ .error run ahead errno) (whole : step ≠ .assertion) :
    switch a.counted ch tail = step ∧ a.Bounded := by
  rw [turn_cases] at turned
  split_ifs at turned with bounded asserted
  · exact ⟨turned, bounded⟩
  · exact absurd turned.symm whole
  · exact absurd turned.symm (fine _ _ _)

/-- A byte that is accepted, by its case. -/
theorem byte_switch {session next : Session} (settled : session.Settled)
    (accepted : byte session ch = some next) :
    session.resume.Bounded ∧
      ((∃ run, switch session.resume.counted ch [] = .next run 0 ∧ next = (run.advance [ch]).flushed) ∨
        ∃ run, switch session.resume.counted ch [] = .returned run 1 ∧ next = run.toSession) := by
  obtain ⟨-, -, -, ⟨run, turned, same⟩ | ⟨run, turned, same⟩⟩ := byte_spec settled accepted
  · obtain ⟨switched, bounded⟩ := turn_eq_switch turned (by simp) (by simp)
    exact ⟨bounded, .inl ⟨run, switched, same⟩⟩
  · obtain ⟨switched, bounded⟩ := turn_eq_switch turned (by simp) (by simp)
    exact ⟨bounded, .inr ⟨run, switched, same⟩⟩

theorem turn_of_bounded (invariant : a.Invariant) (bounded : a.Bounded) :
    turn a ch tail = switch a.counted ch tail := by
  have good : (turn a ch tail).Good tail.length := turn_good invariant
  rw [turn_cases, if_pos bounded] at good ⊢
  split_ifs at good ⊢ with asserted
  · rfl
  · exact good.elim

theorem counted_like (like : a.Like b) : a.counted.Like b.counted := by
  obtain ⟨n, m, below, rfl⟩ := like.eq
  unfold Run.counted
  dsimp only
  split_ifs
  · exact ⟨⟨n + 1, m, Nat.succ_le_succ below, rfl⟩, rfl⟩
  · exact ⟨⟨n, m, below, rfl⟩, rfl⟩

end Turns

theorem resumed_closed {state : State} (closed : Datum.all.any state.opens = false) :
    resumed state = fun _ => none := by
  funext datum
  by_contra isSet
  have opened := opens_of_resumed (Option.isSome_iff_ne_none.mpr isSet)
  exact List.any_eq_false.mp closed datum (by cases datum <;> decide) opened

/-- How a turn goes when its bytes are accepted one at a time. -/
def Keeps (a : Run) (b : Session) (ch : UInt8) (tail : Bytes) : Prop :=
  (∃ next ahead b', turn a ch tail = .next next ahead ∧
    oneByOne b (ch :: tail.take ahead) = some b' ∧ Follows (next.advance (ch :: tail.take ahead)) b') ∨
  ∃ last b', turn a ch tail = .returned last (tail.length + 1) ∧ oneByOne b (ch :: tail) = some b' ∧
    last.toSession.Like b'

section Keeps
variable {a : Run} {b final : Session} {ch : UInt8} {tail : Bytes}

theorem follows_next (follows : Follows a b) {next : Run} {ahead : Nat} {b' : Session}
    (turned : turn a ch tail = .next next ahead) (settled : b'.Settled)
    (like : (next.advance (ch :: tail.take ahead)).flushed.Like b') :
    Follows (next.advance (ch :: tail.take ahead)) b' := by
  have good : (turn a ch tail).Good tail.length := turn_good follows.invariant
  rw [turned] at good
  exact ⟨good.1.advance _, like, advance_filled _ _ _ _, settled⟩

theorem Follows.parser (follows : Follows a b) :
    ∃ n ≤ b.parser.nread, a.parser = { b.parser with nread := n } := by
  obtain ⟨n, m, below, same⟩ := follows.like
  have parsers := congrArg Session.parser same
  rw [Run.flushed, Run.callbacks_parser] at parsers
  exact ⟨n, below, parsers⟩

theorem Follows.state (follows : Follows a b) : b.parser.state = a.parser.state := by
  obtain ⟨n, -, parsers⟩ := follows.parser
  rw [parsers]

/-- What a byte makes of two runs is alike once their marks are passed on. -/
def Step.Alike (ch : UInt8) (s t : Step) : Prop :=
  match t with
  | .next b ahead => ∃ a, s = .next a ahead ∧ (a.advance [ch]).flushed.Like (b.advance [ch]).flushed
  | .returned b ahead => ∃ a, s = .returned a ahead ∧ a.toSession.Like b.toSession
  | _ => True

theorem Step.Like.alike {s t : Step} (like : s.Like t) (ch : UInt8) : s.Alike ch t := by
  cases t with
  | next b ahead =>
      obtain ⟨a, same, like⟩ := like
      exact ⟨a, same, flushed_like (advance_like like [ch])⟩
  | returned b ahead =>
      obtain ⟨a, same, like⟩ := like
      exact ⟨a, same, like.1⟩
  | error b ahead errno => trivial
  | assertion => trivial

/-- A turn of one byte that the two sides take alike. -/
theorem keeps_of_alike (follows : Follows a b) (accepted : oneByOne b (ch :: tail) = some final)
    (alike : (switch a.counted ch tail).Alike ch (switch b.resume.counted ch [])) : Keeps a b ch tail := by
  have bounds (bounded : b.resume.Bounded) : a.Bounded := by
    obtain ⟨n, below, parsers⟩ := follows.parser
    unfold Run.Bounded at bounded ⊢
    rw [parsers]
    exact fun counting => (Nat.succ_le_succ below).trans (bounded counting)
  rw [oneByOne_cons] at accepted
  obtain ⟨b', one, rest⟩ := Option.bind_eq_some_iff.mp accepted
  obtain ⟨ok, -, settled, ends⟩ := byte_spec follows.settled one
  rcases ends with ⟨run, turned, rfl⟩ | ⟨run, turned, rfl⟩
  · obtain ⟨switched, bounded⟩ := turn_eq_switch turned (by simp) (by simp)
    rw [switched] at alike
    obtain ⟨next, switched', like⟩ := alike
    have turned' : turn a ch tail = .next next 0 := by
      rw [turn_of_bounded follows.invariant (bounds bounded), switched']
    refine .inl ⟨next, 0, _, turned', ?_, follows_next follows turned' settled ?_⟩
    · rw [List.take_zero, oneByOne_cons, one]
      rfl
    · rw [List.take_zero]
      exact like
  · obtain ⟨switched, bounded⟩ := turn_eq_switch turned (by simp) (by simp)
    have good : (turn b.resume ch []).Good 0 := turn_good (follows.settled.invariant ok)
    rw [turned] at good
    obtain rfl := oneByOne_completed good.2.2.1 rest
    rw [switched] at alike
    obtain ⟨last, switched', like⟩ := alike
    refine .inr ⟨last, _, ?_, ?_, like⟩
    · rw [turn_of_bounded follows.invariant (bounds bounded), switched']
      rfl
    · rw [oneByOne_cons, one]
      rfl

theorem keeps_closed (follows : Follows a b) (accepted : oneByOne b (ch :: tail) = some final)
    (closed : Datum.all.any a.parser.state.opens = false) : Keeps a b ch tail := by
  have marks := (follows.invariant.clean closed).marks
  have closed' : Datum.all.any b.parser.state.opens = false := by rw [follows.state]; exact closed
  have like : a.Like b.resume := by
    refine ⟨?_, ?_⟩
    · have := follows.like
      rwa [flushed_unmarked marks] at this
    · rw [marks, Session.resume, resumed_closed closed']
  refine keeps_of_alike follows accepted (Step.Like.alike (switch_like (counted_like like) ?_ ?_ tail) ch)
  · rw [counted_marks, ← like.2, marks]
  · rw [counted_state]
    exact closed'

theorem eq_marking {run : Run} {datum : Datum} {text : Bytes}
    (others : ∀ other, other ≠ datum → run.marks other = none) (marked : run.marks datum = some text) :
    run = run.toSession.marking datum text := by
  obtain ⟨session, marks⟩ := run
  unfold Session.marking
  congr 1
  funext other
  by_cases same : other = datum
  · subst same
    rw [Function.update_self]
    exact marked
  · exact (others other same).trans (Function.update_of_ne same _ (fun _ => none)).symm

/-- A run in a state where one mark may be set is the session beside it, but for the text of the mark. -/
theorem Follows.flushed_eq (follows : Follows a b) {datum : Datum}
    (others : ∀ other, other ≠ datum → a.marks other = none) : (a.callbackData datum).toSession.Like b := by
  rw [← callbacks_eq others]
  exact follows.like

theorem resume_unmarked {session : Session} (closed : ∀ datum, resumed session.parser.state datum = none) :
    session.resume = session.unmarked := by
  unfold Session.resume Session.unmarked
  congr 1
  exact funext closed

theorem resume_marking {session : Session} (datum : Datum) (isSet : (resumed session.parser.state datum).isSome) :
    session.resume = session.marking datum [] := by
  unfold Session.resume Session.marking
  congr 1
  funext other
  revert isSet
  cases session.parser.state <;> cases datum <;> cases other <;> simp [resumed]

theorem on_status_like {s t : Session} {text : Bytes} (like : Session.Like ⟨s.parser, s.on text .status⟩ t)
    (x y : Bytes) : Session.Like ⟨s.parser, s.on x .status⟩ ⟨t.parser, t.on y .status⟩ := by
  obtain ⟨n, m, below, same⟩ := like
  simp only [Session.on, HttpResponse.setStatus, Session.mk.injEq] at same ⊢
  obtain ⟨parsers, responses⟩ := same
  refine ⟨n, x, below, ?_⟩
  simp only [HttpResponse.mk.injEq, Session.mk.injEq, parsers, true_and] at responses ⊢
  exact responses.2.2

theorem like_state {s t : Session} (like : s.Like t) (state : State) :
    Session.Like ⟨{ s.parser with state }, s.response⟩ ⟨{ t.parser with state }, t.response⟩ := by
  obtain ⟨n, m, below, rfl⟩ := like
  exact ⟨n, m, below, rfl⟩

theorem like_count {s t : Session} (like : s.Like t) (k : Nat) :
    Session.Like ⟨{ s.parser with nread := s.parser.nread + k }, s.response⟩
      ⟨{ t.parser with nread := t.parser.nread + k }, t.response⟩ := by
  obtain ⟨n, m, below, rfl⟩ := like
  exact ⟨n + k, m, Nat.add_le_add_right below k, rfl⟩

theorem onStatus_alike {s t : Session} {text : Bytes} (like : Session.Like ⟨s.parser, s.on text .status⟩ t) :
    (onStatus (s.marking .status text) ch).Alike ch (onStatus (t.marking .status []) ch) := by
  have left (session : Session) (text : Bytes) (state : State) :
      ((session.marking .status text).updateState state).callbackData .status =
        Session.unmarked ⟨{ session.parser with state }, session.on text .status⟩ := by
    have moved := marking_callbackData ⟨{ session.parser with state }, session.response⟩ .status text []
    rw [List.append_nil] at moved
    exact moved
  unfold onStatus
  rw [left, left, left, left]
  split_ifs
  · refine ⟨_, rfl, ?_⟩
    rw [unmarked_advance, unmarked_advance, unmarked_flushed, unmarked_flushed]
    exact like_state (on_status_like like _ _) _
  · refine ⟨_, rfl, ?_⟩
    rw [unmarked_advance, unmarked_advance, unmarked_flushed, unmarked_flushed]
    exact like_state (on_status_like like _ _) _
  · refine ⟨_, rfl, ?_⟩
    rw [marking_advance, marking_advance, marking_flushed, marking_flushed]
    exact on_status_like like _ _

theorem keeps_status (follows : Follows a b) (accepted : oneByOne b (ch :: tail) = some final)
    (state : a.parser.state = .resStatus) : Keeps a b ch tail := by
  have others (other : Datum) (differs : other ≠ .status) : a.marks other = none :=
    follows.invariant.unmarked (by rw [state]; cases other <;> first | rfl | exact absurd rfl differs)
  obtain ⟨text, marked⟩ := Option.isSome_iff_exists.mp (follows.invariant.set .status (by rw [state]; rfl))
  have resumes : b.resume = b.marking .status [] := resume_marking .status (by rw [follows.state, state]; rfl)
  have like := follows.like
  have marking := eq_marking others marked
  rw [marking, marking_flushed] at like
  have switched (session : Session) (text tail : Bytes) (state : session.parser.state = .resStatus) :
      switch (session.marking .status text).counted ch tail =
        onStatus (Session.marking
          ⟨{ session.parser with nread := session.parser.nread + 1 }, session.response⟩ .status text) ch := by
    rw [switch, counted_state, show (session.marking .status text).parser.state = .resStatus from state,
      Run.counted, if_pos (by rw [Session.marking, state]; rfl)]
    rfl
  refine keeps_of_alike follows accepted ?_
  rw [resumes, marking, switched _ _ _ state, switched _ _ _ (follows.state.trans state)]
  exact onStatus_alike (like_count like 1)

theorem keeps_chunkDataAlmostDone (follows : Follows a b) (accepted : oneByOne b (ch :: tail) = some final)
    (state : a.parser.state = .chunkDataAlmostDone) : Keeps a b ch tail := by
  have others := follows.invariant.others (by rw [state]; rfl)
  have state' := follows.state.trans state
  have resumes : b.resume = b.unmarked := resume_unmarked fun datum => by rw [state']; cases datum <;> rfl
  have like := follows.flushed_eq others
  have switched (run : Run) (tail : Bytes) (state : run.parser.state = .chunkDataAlmostDone) :
      switch run.counted ch tail = onChunkDataAlmostDone run ch := by
    rw [switch, counted_state, state, Run.counted, state]
    rfl
  refine keeps_of_alike follows accepted ?_
  rw [switched _ _ state, switched _ _ (by rw [resumes]; exact state'), resumes]
  unfold onChunkDataAlmostDone strictCheck
  split_ifs
  · trivial
  · have left (run : Run) (others : ∀ other, other ≠ Datum.body → run.marks other = none) :
        (((run.updateState .chunkDataDone).callbackData .body).advance [ch]).flushed =
          ⟨{ (run.callbackData .body).parser with state := .chunkDataDone }, (run.callbackData .body).response⟩ := by
      have marks : ((run.updateState .chunkDataDone).callbackData .body).marks = fun _ => none :=
        Run.callbackData_marks [] others
      rw [flushed_unmarked (by rw [Run.advance, marks]; rfl)]
      cases held : run.marks .body <;> simp only [Run.callbackData, Run.updateState, held] <;> rfl
    refine ⟨_, rfl, ?_⟩
    rw [left a others, left b.unmarked fun _ _ => rfl]
    exact like_state like _

end Keeps

end DecadaEmbedded.Http
