import DecadaEmbedded.Http.Parser

/-!
# What holds at every byte

The invariant of the loop of `http_parser_execute`: what the state promises of the other members of
the parser, and which marks are set. Every turn keeps it, so no assertion of the parser fails.
-/

namespace DecadaEmbedded.Http
open Library

def HeaderState.inField : HeaderState → Bool
  | .general | .c | .co | .con | .matchingConnection | .matchingProxyConnection | .matchingContentLength
  | .matchingTransferEncoding | .matchingUpgrade | .connection | .contentLength | .transferEncoding
  | .upgrade => true
  | _ => false

def HeaderState.inValue : HeaderState → Bool
  | .connection | .transferEncoding => false
  | _ => true

def Parser.Sound (parser : Parser) : Prop :=
  match parser.state with
  | .headerField => parser.headerState.inField = true
  | .headerValue => parser.headerState.inValue = true
  | .chunkSizeStart => parser.nread = 0 ∧ parser.flags.chunked = true
  | .chunkSize | .chunkParameters | .chunkSizeAlmostDone =>
      parser.flags.chunked = true ∧ parser.contentLength < ullongMax
  | .chunkData => parser.flags.chunked = true ∧ parser.contentLength ≠ 0 ∧ parser.contentLength < ullongMax
  | .chunkDataAlmostDone => parser.flags.chunked = true ∧ parser.contentLength = 0
  | .chunkDataDone => parser.flags.chunked = true
  | .bodyIdentity => parser.contentLength ≠ 0 ∧ parser.contentLength < ullongMax
  | .headersDone | .messageDone => False
  | _ => True

/-- The marks that may be set in a state; that for the body is set by the case itself. -/
def State.opens : State → Datum → Bool
  | .headerField, .headerField | .headerValue, .headerValue | .resStatus, .status => true
  | .bodyIdentity, .body | .bodyIdentityEof, .body | .chunkData, .body | .chunkDataAlmostDone, .body => true
  | _, _ => false

namespace Run

structure Invariant (run : Run) : Prop where
  ok : run.parser.httpErrno = .ok
  bounded : run.parser.contentLength ≤ ullongMax
  sound : run.parser.Sound
  set : ∀ datum, (resumed run.parser.state datum).isSome → (run.marks datum).isSome
  only : ∀ datum, (run.marks datum).isSome → run.parser.state.opens datum

/-- Between two cases that set no mark. -/
structure Clean (run : Run) : Prop where
  ok : run.parser.httpErrno = .ok
  bounded : run.parser.contentLength ≤ ullongMax
  marks : run.marks = fun _ => none

end Run

/-- A turn that goes on keeps the invariant and stays inside the data, and no assertion fails. -/
def Step.Good (room : Nat) : Step → Prop
  | .next run ahead => run.Invariant ∧ ahead ≤ room
  | .error _ ahead errno => errno ≠ .ok ∧ ahead ≤ room + 1
  | .returned run ahead =>
      run.Invariant ∧ run.Clean ∧ run.response.isMessageCompleted ∧ ahead ≤ room + 1
  | .assertion => False

variable {run : Run} {ch : UInt8} {room : Nat}

theorem Run.Clean.invariant (clean : run.Clean) (sound : run.parser.Sound)
    (unmarked : ∀ datum, resumed run.parser.state datum = none) : run.Invariant where
  ok := clean.ok
  bounded := clean.bounded
  sound := sound
  set datum isSet := by rw [unmarked datum] at isSet; cases isSet
  only datum isSet := by rw [clean.marks] at isSet; cases isSet

@[simp] theorem Run.callbackData_parser (run : Run) (datum : Datum) (passed : Bytes) :
    (run.callbackData datum passed).parser = run.parser := by
  unfold Run.callbackData
  split <;> rfl

theorem Run.callbackData_marks {datum : Datum} (passed : Bytes)
    (others : ∀ other, other ≠ datum → run.marks other = none) :
    (run.callbackData datum passed).marks = fun _ => none := by
  funext other
  unfold Run.callbackData
  by_cases same : other = datum
  · subst same
    split
    · assumption
    · exact Function.update_self _ _ _
  · split
    · exact others other same
    · exact (Function.update_of_ne same _ _).trans (others other same)

theorem Run.clean_callbackData {datum : Datum} (passed : Bytes) (ok : run.parser.httpErrno = .ok)
    (bounded : run.parser.contentLength ≤ ullongMax)
    (others : ∀ other, other ≠ datum → run.marks other = none) : (run.callbackData datum passed).Clean :=
  ⟨by rw [Run.callbackData_parser]; exact ok, by rw [Run.callbackData_parser]; exact bounded,
    Run.callbackData_marks passed others⟩

theorem Run.Invariant.unmarked (invariant : run.Invariant) {datum : Datum}
    (closed : run.parser.state.opens datum = false) : run.marks datum = none := by
  by_contra isSet
  have opened := invariant.only datum (Option.isSome_iff_ne_none.mpr isSet)
  rw [closed] at opened
  cases opened

theorem Run.Invariant.clean (invariant : run.Invariant)
    (closed : Datum.all.any run.parser.state.opens = false) : run.Clean where
  ok := invariant.ok
  bounded := invariant.bounded
  marks := funext fun datum => invariant.unmarked <| by
    have := List.any_eq_false.mp closed datum (by cases datum <;> decide)
    simpa using this

/-! ## The single bytes -/

/-- The states that promise nothing and start without marks. -/
def State.free : State → Bool
  | .headerField | .headerValue | .resStatus => false
  | .chunkSizeStart | .chunkSize | .chunkParameters | .chunkSizeAlmostDone => false
  | .chunkData | .chunkDataAlmostDone | .chunkDataDone | .bodyIdentity => false
  | .headersDone | .messageDone => false
  | _ => true

theorem Run.Clean.invariant_of_free (clean : run.Clean) (free : run.parser.state.free) : run.Invariant := by
  refine clean.invariant ?_ ?_
  · unfold Parser.Sound
    split <;> simp_all [State.free]
  · intro datum
    cases datum <;> simp only [resumed] <;> split <;> simp_all [State.free]

theorem good_free (clean : run.Clean) (free : run.parser.state.free) : (Step.next run 0).Good room :=
  ⟨clean.invariant_of_free free, Nat.zero_le room⟩

theorem good_error {errno : Errno} (failed : errno ≠ .ok) : (Step.error run 0 errno).Good room :=
  ⟨failed, Nat.zero_le _⟩

theorem good_strictCheck {violated : Bool} {rest : Step} (good : violated = false → rest.Good room) :
    (strictCheck violated run rest).Good room := by
  unfold strictCheck
  cases violated with
  | true => exact good_error (by decide)
  | false => exact good rfl

theorem free_newMessage (parser : Parser) : parser.newMessage.free := by
  unfold Parser.newMessage
  split_ifs <;> rfl

theorem onDead_good (clean : run.Clean) (state : run.parser.state = .dead) : (onDead run ch).Good room := by
  unfold onDead
  split_ifs
  · exact good_free clean (by rw [state]; rfl)
  · exact good_error (by decide)

theorem onStartRes_good (clean : run.Clean) (state : run.parser.state = .startRes) :
    (onStartRes run ch).Good room := by
  unfold onStartRes
  dsimp only
  split_ifs
  · exact good_free ⟨clean.ok, le_rfl, clean.marks⟩ rfl
  · exact good_free ⟨clean.ok, le_rfl, clean.marks⟩ (by simp only [state]; rfl)
  · exact good_error (by decide)

theorem expect_good {expected : UInt8} {state : State} (clean : run.Clean) (free : state.free) :
    (expect expected state run ch).Good room :=
  good_strictCheck fun _ => good_free ⟨clean.ok, clean.bounded, clean.marks⟩ free

theorem onFirstHttpMajor_good (clean : run.Clean) : (onFirstHttpMajor run ch).Good room := by
  unfold onFirstHttpMajor
  split_ifs
  · exact good_error (by decide)
  · exact good_free ⟨clean.ok, clean.bounded, clean.marks⟩ rfl

theorem onHttpMajor_good (clean : run.Clean) (state : run.parser.state = .resHttpMajor) :
    (onHttpMajor run ch).Good room := by
  unfold onHttpMajor
  dsimp only
  split_ifs
  · exact good_free ⟨clean.ok, clean.bounded, clean.marks⟩ rfl
  · exact good_error (by decide)
  · exact good_error (by decide)
  · exact good_free ⟨clean.ok, clean.bounded, clean.marks⟩ (by simp only [state]; rfl)

theorem onFirstHttpMinor_good (clean : run.Clean) : (onFirstHttpMinor run ch).Good room := by
  unfold onFirstHttpMinor
  split_ifs
  · exact good_error (by decide)
  · exact good_free ⟨clean.ok, clean.bounded, clean.marks⟩ rfl

theorem onHttpMinor_good (clean : run.Clean) (state : run.parser.state = .resHttpMinor) :
    (onHttpMinor run ch).Good room := by
  unfold onHttpMinor
  dsimp only
  split_ifs
  · exact good_free ⟨clean.ok, clean.bounded, clean.marks⟩ rfl
  · exact good_error (by decide)
  · exact good_error (by decide)
  · exact good_free ⟨clean.ok, clean.bounded, clean.marks⟩ (by simp only [state]; rfl)

theorem onFirstStatusCode_good (clean : run.Clean) (state : run.parser.state = .resFirstStatusCode) :
    (onFirstStatusCode run ch).Good room := by
  unfold onFirstStatusCode
  split_ifs
  · exact good_free clean (by rw [state]; rfl)
  · exact good_error (by decide)
  · exact good_free ⟨clean.ok, clean.bounded, clean.marks⟩ rfl

theorem onStatusCode_good (clean : run.Clean) (state : run.parser.state = .resStatusCode) :
    (onStatusCode run ch).Good room := by
  unfold onStatusCode
  dsimp only
  split_ifs
  · exact good_free ⟨clean.ok, clean.bounded, clean.marks⟩ rfl
  · exact good_free ⟨clean.ok, clean.bounded, clean.marks⟩ rfl
  · exact good_free ⟨clean.ok, clean.bounded, clean.marks⟩ rfl
  · exact good_error (by decide)
  · exact good_error (by decide)
  · exact good_free ⟨clean.ok, clean.bounded, clean.marks⟩ (by simp only [state]; rfl)

theorem onMessageDone_good (clean : run.Clean) : (onMessageDone run).Good room := by
  have complete : ((run.updateState run.parser.newMessage).messageComplete).Invariant :=
    Run.Clean.invariant_of_free ⟨clean.ok, clean.bounded, clean.marks⟩ (free_newMessage run.parser)
  unfold onMessageDone
  dsimp only
  split_ifs
  · exact ⟨complete, ⟨complete.ok, complete.bounded, clean.marks⟩, rfl, Nat.le_add_left 1 room⟩
  · exact ⟨complete, Nat.zero_le room⟩

theorem onHeadersDone_good (clean : run.Clean) : (onHeadersDone run ch).Good room := by
  refine good_strictCheck fun _ => ?_
  have complete : ∀ parser : Parser, parser.httpErrno = .ok → parser.contentLength ≤ ullongMax →
      Run.Invariant { run with
        parser := { parser with state := parser.newMessage }
        response := run.response.setMessageComplete } :=
    fun parser ok bounded =>
      Run.Clean.invariant_of_free ⟨ok, bounded, clean.marks⟩ (free_newMessage parser)
  have done := complete { run.parser with nread := 0 } clean.ok clean.bounded
  dsimp only
  split_ifs with upgraded skipped chunked empty sized eof
  · exact ⟨done, ⟨done.ok, done.bounded, clean.marks⟩, rfl, Nat.le_add_left 1 room⟩
  · exact ⟨done, Nat.zero_le room⟩
  · exact ⟨Run.Clean.invariant ⟨clean.ok, clean.bounded, clean.marks⟩ ⟨rfl, chunked⟩
      (fun datum => by cases datum <;> rfl), Nat.zero_le room⟩
  · exact ⟨done, Nat.zero_le room⟩
  · exact ⟨Run.Clean.invariant ⟨clean.ok, clean.bounded, clean.marks⟩
      ⟨empty, lt_of_le_of_ne clean.bounded sized⟩ (fun datum => by cases datum <;> rfl), Nat.zero_le room⟩
  · exact ⟨done, Nat.zero_le room⟩
  · exact good_free ⟨clean.ok, clean.bounded, clean.marks⟩ rfl

theorem onHeadersAlmostDone_good (clean : run.Clean) : (onHeadersAlmostDone run ch).Good room := by
  refine good_strictCheck fun _ => ?_
  split_ifs
  · exact onMessageDone_good ⟨clean.ok, clean.bounded, clean.marks⟩
  · exact good_error (by decide)
  · exact onHeadersDone_good ⟨clean.ok, clean.bounded, clean.marks⟩

/-! ## Header fields -/

theorem opens_of_resumed {state : State} {datum : Datum} (isSet : (resumed state datum).isSome) :
    state.opens datum := by
  unfold resumed at isSet
  split at isSet <;> first | rfl | cases isSet

theorem good_next {ahead : Nat} (ok : run.parser.httpErrno = .ok)
    (bounded : run.parser.contentLength ≤ ullongMax) (sound : run.parser.Sound)
    (marks : ∀ datum, (run.marks datum).isSome = (resumed run.parser.state datum).isSome)
    (inside : ahead ≤ room) : (Step.next run ahead).Good room :=
  ⟨⟨ok, bounded, sound, fun datum isSet => by rw [marks]; exact isSet,
    fun datum isSet => opens_of_resumed (by rw [← marks]; exact isSet)⟩, inside⟩

theorem Run.Clean.mark_marks (clean : run.Clean) (datum : Datum) :
    (run.mark datum).marks = Function.update (fun _ => none) datum (some []) := by
  simp only [Run.mark, clean.marks, Option.getD_none]

theorem onStatusStart_good (clean : run.Clean) : (onStatusStart run ch).Good room := by
  unfold onStatusStart
  split_ifs
  · exact good_free ⟨clean.ok, clean.bounded, clean.marks⟩ rfl
  · exact good_free ⟨clean.ok, clean.bounded, clean.marks⟩ rfl
  · refine good_next clean.ok clean.bounded trivial (fun datum => ?_) (Nat.zero_le room)
    dsimp only
    rw [clean.mark_marks]
    cases datum <;> rfl

theorem inField_fieldStart (c : UInt8) : (fieldStart c).inField := by
  unfold fieldStart
  split_ifs <;> rfl

theorem onHeaderFieldStart_good (clean : run.Clean) : (onHeaderFieldStart run ch).Good room := by
  unfold onHeaderFieldStart
  split_ifs
  · exact good_free ⟨clean.ok, clean.bounded, clean.marks⟩ rfl
  · exact onHeadersAlmostDone_good ⟨clean.ok, clean.bounded, clean.marks⟩
  · exact good_error (by decide)
  · refine good_next clean.ok clean.bounded (inField_fieldStart _) (fun datum => ?_) (Nat.zero_le room)
    dsimp only
    rw [clean.mark_marks]
    cases datum <;> rfl

theorem matching_of_cases (property : HeaderState → Bool) {word : Bytes}
    {current matched failed : HeaderState} {index : Nat} {c : UInt8} (stays : property current)
    (ends : property matched) (fails : property failed) :
    property (matching word current matched failed index c) := by
  unfold matching
  split_ifs <;> assumption

theorem fieldChar_spec {parser : Parser} (inField : parser.headerState.inField) (ch : UInt8) :
    ∃ index headerState, fieldChar parser ch = some { parser with index, headerState } ∧
      headerState.inField := by
  unfold fieldChar
  dsimp only
  split <;> rename_i current
  · exact ⟨_, _, rfl, inField⟩
  · exact ⟨_, _, rfl, by split_ifs <;> rfl⟩
  · exact ⟨_, _, rfl, by split_ifs <;> rfl⟩
  · exact ⟨_, _, rfl, by split_ifs <;> rfl⟩
  · exact ⟨_, _, rfl, matching_of_cases HeaderState.inField rfl rfl rfl⟩
  · exact ⟨_, _, rfl, matching_of_cases HeaderState.inField rfl rfl rfl⟩
  · exact ⟨_, _, rfl, matching_of_cases HeaderState.inField rfl rfl rfl⟩
  · exact ⟨_, _, rfl, matching_of_cases HeaderState.inField rfl rfl rfl⟩
  · exact ⟨_, _, rfl, matching_of_cases HeaderState.inField rfl rfl rfl⟩
  · exact ⟨_, _, rfl, by split_ifs <;> first | rfl | exact inField⟩
  · exact ⟨_, _, rfl, by split_ifs <;> first | rfl | exact inField⟩
  · exact ⟨_, _, rfl, by split_ifs <;> first | rfl | exact inField⟩
  · exact ⟨_, _, rfl, by split_ifs <;> first | rfl | exact inField⟩
  · revert inField
    cases held : parser.headerState <;> simp_all [HeaderState.inField]

theorem fieldLoop_spec {parser : Parser} (inField : parser.headerState.inField) (bytes : Bytes) :
    ∃ index headerState n, fieldLoop parser bytes = some ({ parser with index, headerState }, n) ∧
      headerState.inField ∧ n ≤ bytes.length := by
  induction bytes generalizing parser with
  | nil => exact ⟨_, _, 0, rfl, inField, le_rfl⟩
  | cons ch rest ih =>
      unfold fieldLoop
      split_ifs
      · exact ⟨_, _, 0, rfl, inField, Nat.zero_le _⟩
      · obtain ⟨index, headerState, taken, inField⟩ := fieldChar_spec inField ch
        obtain ⟨index, headerState, n, looped, inField, inside⟩ :=
          @ih { parser with index, headerState } inField
        rw [taken]
        simp only [Option.bind_eq_bind, Option.bind_some, looped]
        exact ⟨index, headerState, n + 1, rfl, inField, Nat.succ_le_succ inside⟩

/-- While a name, a value or a status text is read, exactly its mark is set. -/
theorem Run.Invariant.marks_eq (invariant : run.Invariant)
    (text : run.parser.state = .headerField ∨ run.parser.state = .headerValue) (datum : Datum) :
    (run.marks datum).isSome = (resumed run.parser.state datum).isSome := by
  refine Bool.eq_iff_iff.mpr ⟨fun isSet => ?_, invariant.set datum⟩
  have opened := invariant.only datum isSet
  rcases text with state | state <;> rw [state] at opened ⊢ <;> cases datum <;> first | rfl | cases opened

theorem onHeaderField_good {tail : Bytes} (invariant : run.Invariant)
    (state : run.parser.state = .headerField) : (onHeaderField run (ch :: tail)).Good tail.length := by
  have inField : run.parser.headerState.inField := by
    have sound := invariant.sound
    rw [Parser.Sound, state] at sound
    exact sound
  have others (other : Datum) (differs : other ≠ .headerField) : run.marks other = none :=
    invariant.unmarked (by rw [state]; cases other <;> first | rfl | exact absurd rfl differs)
  obtain ⟨index, headerState, n, looped, inField, inside⟩ := fieldLoop_spec inField (ch :: tail)
  rw [List.length_cons] at inside
  unfold onHeaderField
  rw [looped]
  dsimp only
  split_ifs with overflows
  · exact ⟨by decide, inside⟩
  · split
    · refine good_next invariant.ok invariant.bounded ?_ (invariant.marks_eq (.inl state)) (by omega)
      simp only [Parser.Sound, Run.countHeaderSize, state]
      exact inField
    · rename_i stop found
      have before : n < tail.length + 1 := (List.getElem?_eq_some_iff.mp found).1
      split_ifs
      · refine ⟨Run.Clean.invariant_of_free
          (Run.clean_callbackData _ invariant.ok invariant.bounded others) ?_, by omega⟩
        rw [Run.callbackData_parser]
        rfl
      · exact ⟨by decide, inside⟩

/-! ## Header values -/

theorem digitOf_le (ch : UInt8) (digit : isNum ch) : digitOf ch ≤ 9 := by
  simp only [isNum, Bool.and_eq_true, decide_eq_true_eq, UInt8.le_iff_toNat_le] at digit
  have upper : ch.toNat ≤ 57 := digit.2
  unfold digitOf
  omega

theorem onHeaderValueStart_good (clean : run.Clean) : (onHeaderValueStart run ch).Good room := by
  have marks (datum : Datum) :
      ((run.mark .headerValue).marks datum).isSome = (resumed .headerValue datum).isSome := by
    rw [clean.mark_marks]
    cases datum <;> rfl
  unfold onHeaderValueStart
  dsimp only [Run.mark]
  split
  · exact good_next clean.ok clean.bounded rfl marks (Nat.zero_le room)
  · exact good_next clean.ok clean.bounded (by simp only [Parser.Sound]; split_ifs <;> rfl) marks (Nat.zero_le room)
  · rename_i sized
    split_ifs with digit twice
    · exact good_error (by decide)
    · exact good_error (by decide)
    · have small := digitOf_le ch (by simpa using digit)
      refine good_next clean.ok ?_ ?_ marks (Nat.zero_le room)
      · exact small.trans (by decide)
      · simp only [Parser.Sound]
        rw [show run.parser.headerState = .contentLength from sized]
        rfl
  · exact good_next clean.ok clean.bounded (by simp only [Parser.Sound]; split_ifs <;> rfl) marks (Nat.zero_le room)
  · exact good_next clean.ok clean.bounded rfl marks (Nat.zero_le room)
  · exact good_next clean.ok clean.bounded rfl marks (Nat.zero_le room)

theorem onHeaderValueDiscardWs_good (clean : run.Clean) (state : run.parser.state = .headerValueDiscardWs) :
    (onHeaderValueDiscardWs run ch).Good room := by
  unfold onHeaderValueDiscardWs
  split_ifs
  · exact good_free clean (by rw [state]; rfl)
  · exact good_free ⟨clean.ok, clean.bounded, clean.marks⟩ rfl
  · exact good_free ⟨clean.ok, clean.bounded, clean.marks⟩ rfl
  · exact onHeaderValueStart_good clean

/-- What the loop over a value leaves alone, and the members that it may change. -/
structure InValue (parser : Parser) (headerState : HeaderState) : Prop where
  ok : parser.httpErrno = .ok
  bounded : parser.contentLength ≤ ullongMax
  state : parser.state = .headerValue
  inValue : headerState.inValue

theorem valueChar_spec {parser : Parser} {headerState : HeaderState} (here : InValue parser headerState)
    (ch : UInt8) :
    (∃ next parser', valueChar headerState parser ch = .go next parser' ∧ InValue parser' next) ∨
      valueChar headerState parser ch = .invalidContentLength := by
  have word (text : String) (current matched failed : HeaderState) (stays : current.inValue)
      (ends : matched.inValue) (fails : failed.inValue) :
      InValue { parser with index := parser.index + 1 }
        (matching (str text) current matched failed (parser.index + 1) (lower ch)) :=
    ⟨here.ok, here.bounded, here.state, matching_of_cases HeaderState.inValue stays ends fails⟩
  cases headerState with
  | connection | transferEncoding => cases here.inValue
  | contentLength =>
      unfold valueChar
      dsimp only
      split_ifs with blank digit overflow
      · exact .inl ⟨_, _, rfl, here⟩
      · exact .inr rfl
      · exact .inr rfl
      · refine .inl ⟨_, _, rfl, here.ok, ?_, here.state, rfl⟩
        have small := digitOf_le ch (by simpa using digit)
        dsimp only [ullongMax] at overflow ⊢
        omega
  | matchingTransferEncodingChunked | matchingConnectionKeepAlive | matchingConnectionClose
    | matchingConnectionUpgrade => exact .inl ⟨_, _, rfl, word _ _ _ _ rfl rfl rfl⟩
  | matchingConnectionTokenStart =>
      exact .inl ⟨_, _, rfl, here.ok, here.bounded, here.state, by split_ifs <;> rfl⟩
  | matchingConnectionToken =>
      unfold valueChar
      dsimp only
      split_ifs
      · exact .inl ⟨_, _, rfl, here.ok, here.bounded, here.state, rfl⟩
      · exact .inl ⟨_, _, rfl, here⟩
  | transferEncodingChunked =>
      exact .inl ⟨_, _, rfl, here.ok, here.bounded, here.state, by split_ifs <;> rfl⟩
  | connectionKeepAlive | connectionClose | connectionUpgrade =>
      unfold valueChar
      dsimp only
      split_ifs
      · exact .inl ⟨_, _, rfl, here.ok, here.bounded, here.state, rfl⟩
      · exact .inl ⟨_, _, rfl, here.ok, here.bounded, here.state, rfl⟩
      · exact .inl ⟨_, _, rfl, here⟩
  | general => exact .inl ⟨_, _, rfl, here⟩
  | c | co | con | matchingConnection | matchingProxyConnection | matchingContentLength
    | matchingTransferEncoding | matchingUpgrade | upgrade =>
      exact .inl ⟨_, _, rfl, here.ok, here.bounded, rfl, rfl⟩

theorem lineLength_le (bytes : Bytes) : lineLength bytes ≤ bytes.length := by
  unfold lineLength
  dsimp only
  split_ifs with stops
  · have inside := List.length_take_le httpMaxHeaderSize bytes
    have short := List.length_take_le' httpMaxHeaderSize bytes
    omega
  · exact le_rfl

theorem valueLoop_spec {parser : Parser} {headerState : HeaderState} (here : InValue parser headerState)
    (bytes : Bytes) :
    (∃ next parser' n, valueLoop headerState parser bytes = .ended next parser' n ∧ InValue parser' next ∧
      n ≤ bytes.length) ∨
    ∃ parser' n errno, valueLoop headerState parser bytes = .error parser' n errno ∧ errno ≠ .ok ∧
      n ≤ bytes.length := by
  induction bytes generalizing parser headerState with
  | nil => exact .inl ⟨_, _, 0, rfl, here, le_rfl⟩
  | cons ch rest ih =>
      unfold valueLoop
      split_ifs with stops foreign general
      · exact .inl ⟨_, _, 0, rfl, here, Nat.zero_le _⟩
      · exact .inr ⟨_, 0, _, rfl, by decide, Nat.zero_le _⟩
      · exact .inl ⟨_, _, _, rfl, general ▸ here, lineLength_le _⟩
      · rcases valueChar_spec here ch with ⟨next, parser', taken, there⟩ | failed
        · rw [taken]
          rcases ih there with ⟨last, final, n, ended, good, inside⟩ | ⟨final, n, errno, failed, real, inside⟩
          · exact .inl ⟨last, final, n + 1, by simp only [ended]; rfl, good, Nat.succ_le_succ inside⟩
          · exact .inr ⟨final, n + 1, errno, by simp only [failed]; rfl, real, Nat.succ_le_succ inside⟩
        · rw [failed]
          exact .inr ⟨_, 0, _, rfl, by decide, Nat.zero_le _⟩

theorem onHeaderAlmostDone_good (clean : run.Clean) : (onHeaderAlmostDone run ch).Good room := by
  unfold onHeaderAlmostDone
  split_ifs
  · exact good_error (by decide)
  · exact good_free ⟨clean.ok, clean.bounded, clean.marks⟩ rfl

theorem good_after {step : Step} (n : Nat) (good : step.Good 0) : (step.after n).Good n := by
  cases step with
  | next run ahead => exact ⟨good.1, Nat.add_le_add_left good.2 n⟩
  | error run ahead errno => exact ⟨good.1, Nat.add_le_add_left good.2 n⟩
  | returned run ahead => exact ⟨good.1, good.2.1, good.2.2.1, Nat.add_le_add_left good.2.2.2 n⟩
  | assertion => exact good

theorem good_mono {step : Step} {more : Nat} (good : step.Good room) (le : room ≤ more) : step.Good more := by
  cases step with
  | next run ahead => exact ⟨good.1, good.2.trans le⟩
  | error run ahead errno => exact ⟨good.1, good.2.trans (Nat.succ_le_succ le)⟩
  | returned run ahead => exact ⟨good.1, good.2.1, good.2.2.1, good.2.2.2.trans (Nat.succ_le_succ le)⟩
  | assertion => exact good

theorem onHeaderValue_good {tail : Bytes} (invariant : run.Invariant)
    (state : run.parser.state = .headerValue) : (onHeaderValue run (ch :: tail)).Good tail.length := by
  have inValue : run.parser.headerState.inValue := by
    have sound := invariant.sound
    rw [Parser.Sound, state] at sound
    exact sound
  have others (other : Datum) (differs : other ≠ .headerValue) : run.marks other = none :=
    invariant.unmarked (by rw [state]; cases other <;> first | rfl | exact absurd rfl differs)
  unfold onHeaderValue
  rcases valueLoop_spec ⟨invariant.ok, invariant.bounded, state, inValue⟩ (ch :: tail) with
    ⟨next, parser, n, ended, there, inside⟩ | ⟨parser, n, errno, failed, real, inside⟩
  · rw [List.length_cons] at inside
    rw [ended]
    dsimp only
    split
    · split_ifs
      · exact ⟨by decide, inside⟩
      · refine good_next there.ok there.bounded ?_ (fun datum => ?_) (by omega)
        · simp only [Parser.Sound, Run.countHeaderSize, there.state]
          exact there.inValue
        · simp only [Run.countHeaderSize, there.state]
          rw [invariant.marks_eq (.inr state), state]
    · rename_i stop found
      have before : n < tail.length + 1 := (List.getElem?_eq_some_iff.mp found).1
      split_ifs
      · exact ⟨by decide, inside⟩
      · have clean : Run.Clean (Run.callbackData { run with
            parser := { parser with state := .headerAlmostDone, headerState := next } }
            .headerValue ((ch :: tail).take n)) :=
          Run.clean_callbackData _ there.ok there.bounded others
        have counted : Run.Clean (Run.countHeaderSize _ n) := ⟨clean.ok, clean.bounded, clean.marks⟩
        refine ⟨counted.invariant_of_free ?_, by omega⟩
        simp only [Run.countHeaderSize, Run.callbackData_parser]
        rfl
      · exact ⟨by decide, inside⟩
      · exact good_mono (good_after _ (onHeaderAlmostDone_good
          (Run.clean_callbackData _ there.ok there.bounded others))) (by omega)
  · rw [failed]
    exact ⟨real, inside⟩

theorem Run.Clean.finishHeader (clean : run.Clean) : run.finishHeader.Clean :=
  ⟨clean.ok, clean.bounded, clean.marks⟩

theorem onHeaderValueLws_good (clean : run.Clean) : (onHeaderValueLws run ch).Good room := by
  unfold onHeaderValueLws
  split_ifs
  · exact onHeaderValueStart_good ⟨clean.ok, clean.bounded, clean.marks⟩
  · exact onHeaderFieldStart_good ⟨clean.ok, clean.bounded, clean.marks⟩

theorem onHeaderValueDiscardLws_good (clean : run.Clean) : (onHeaderValueDiscardLws run ch).Good room := by
  unfold onHeaderValueDiscardLws
  split_ifs
  · exact good_free ⟨clean.ok, clean.bounded, clean.marks⟩ rfl
  · refine onHeaderFieldStart_good (Run.clean_callbackData [] clean.ok clean.bounded fun other differs => ?_)
    refine (Function.update_of_ne differs _ _).trans ?_
    exact congrFun clean.marks other

theorem onStatus_good (invariant : run.Invariant) (state : run.parser.state = .resStatus) :
    (onStatus run ch).Good room := by
  have others (other : Datum) (differs : other ≠ .status) : run.marks other = none :=
    invariant.unmarked (by rw [state]; cases other <;> first | rfl | exact absurd rfl differs)
  have left (next : State) (free : next.free) :
      (Step.next ((run.updateState next).callbackData .status) 0).Good room := by
    refine good_free (Run.clean_callbackData [] invariant.ok invariant.bounded others) ?_
    rw [Run.callbackData_parser]
    exact free
  unfold onStatus
  split_ifs
  · exact left _ rfl
  · exact left _ rfl
  · exact ⟨invariant, Nat.zero_le room⟩

/-! ## The body -/

/-- Where only the mark of the body may be set. -/
def State.inBody : State → Bool
  | .bodyIdentity | .bodyIdentityEof | .chunkData | .chunkDataAlmostDone => true
  | _ => false

theorem Run.Invariant.others (invariant : run.Invariant) (body : run.parser.state.inBody) (other : Datum)
    (differs : other ≠ .body) : run.marks other = none := by
  refine invariant.unmarked ?_
  revert body
  cases run.parser.state <;> cases other <;> simp_all [State.inBody, State.opens]

theorem good_body {ahead : Nat} (ok : run.parser.httpErrno = .ok)
    (bounded : run.parser.contentLength ≤ ullongMax) (sound : run.parser.Sound)
    (body : run.parser.state.inBody) (others : ∀ other, other ≠ .body → run.marks other = none)
    (inside : ahead ≤ room) : (Step.next run ahead).Good room := by
  refine ⟨⟨ok, bounded, sound, fun datum isSet => ?_, fun datum isSet => ?_⟩, inside⟩
  · revert isSet body
    cases run.parser.state <;> cases datum <;> simp_all [State.inBody, resumed]
  · by_cases same : datum = .body
    · subst same
      revert body
      cases run.parser.state <;> simp_all [State.inBody, State.opens]
    · rw [others datum same] at isSet
      cases isSet

theorem mark_others {datum : Datum} (others : ∀ other, other ≠ datum → run.marks other = none)
    (other : Datum) (differs : other ≠ datum) : (run.mark datum).marks other = none :=
  (Function.update_of_ne differs _ _).trans (others other differs)

theorem onBodyIdentity_good {tail : Bytes} (invariant : run.Invariant)
    (state : run.parser.state = .bodyIdentity) : (onBodyIdentity run (ch :: tail)).Good tail.length := by
  have others := mark_others (invariant.others (by rw [state]; rfl))
  have fits : min run.parser.contentLength (ch :: tail).length - 1 ≤ tail.length := by
    rw [List.length_cons]
    omega
  have shorter (n : Nat) : run.parser.contentLength - n ≤ ullongMax := (Nat.sub_le _ _).trans invariant.bounded
  unfold onBodyIdentity
  dsimp only
  split_ifs with finished
  · exact good_mono (good_after _ (onMessageDone_good
      (Run.clean_callbackData _ invariant.ok (shorter _) others))) fits
  · refine good_body invariant.ok (shorter _) ?_ (by simp only [Run.mark, state]; rfl) others fits
    have sound := invariant.sound
    simp only [Parser.Sound, state] at sound
    simp only [Parser.Sound, Run.mark, state]
    exact ⟨finished, (Nat.sub_le _ _).trans_lt sound.2⟩

theorem onBodyIdentityEof_good {tail : Bytes} (invariant : run.Invariant)
    (state : run.parser.state = .bodyIdentityEof) :
    (onBodyIdentityEof run (ch :: tail)).Good tail.length := by
  have others := mark_others (invariant.others (by rw [state]; rfl))
  refine good_body invariant.ok invariant.bounded ?_ (by simp only [Run.mark, state]; rfl) others
    (by rw [List.length_cons]; omega)
  simp only [Parser.Sound, Run.mark, state]

theorem unhex_lt {ch : UInt8} {value : Nat} (read : unhex ch = some value) : value < 16 := by
  unfold unhex at read
  simp only [isNum, Bool.and_eq_true, decide_eq_true_eq, UInt8.le_iff_toNat_le] at read
  split_ifs at read with digit upper loud high
  · have := digit.2
    cases read
    change ch.toNat ≤ 57 at this
    omega
  · have := upper.2
    cases read
    change ch.toNat ≤ 70 at this
    omega
  · have := loud.2
    cases read
    change ch.toNat ≤ 102 at this
    omega
  · cases read
    decide

theorem onChunkSizeStart_good (clean : run.Clean) (chunked : run.parser.flags.chunked) :
    (onChunkSizeStart run ch).Good room := by
  unfold onChunkSizeStart
  split
  · exact good_error (by decide)
  · rename_i value read
    have small := unhex_lt read
    have below : value < ullongMax := small.trans (by decide)
    exact ⟨Run.Clean.invariant ⟨clean.ok, below.le, clean.marks⟩ ⟨chunked, below⟩
      (fun datum => by cases datum <;> rfl), Nat.zero_le room⟩

theorem good_sized (next : State) (clean : run.Clean) (chunked : run.parser.flags.chunked)
    (below : run.parser.contentLength < ullongMax) (state : run.parser.state = next)
    (sized : next = .chunkSize ∨ next = .chunkParameters ∨ next = .chunkSizeAlmostDone) :
    (Step.next run 0).Good room := by
  refine ⟨clean.invariant ?_ fun datum => ?_, Nat.zero_le room⟩
  · rcases sized with rfl | rfl | rfl <;> rw [Parser.Sound, state] <;> exact ⟨chunked, below⟩
  · rcases sized with rfl | rfl | rfl <;> rw [state] <;> cases datum <;> rfl

theorem onChunkSize_good (clean : run.Clean) (state : run.parser.state = .chunkSize)
    (chunked : run.parser.flags.chunked) (below : run.parser.contentLength < ullongMax) :
    (onChunkSize run ch).Good room := by
  unfold onChunkSize
  by_cases ends : ch = cr
  · rw [if_pos ends]
    exact good_sized .chunkSizeAlmostDone ⟨clean.ok, clean.bounded, clean.marks⟩ chunked below rfl (by decide)
  · rw [if_neg ends]
    cases read : unhex ch with
    | none =>
      dsimp only
      split_ifs
      · exact good_sized .chunkParameters ⟨clean.ok, clean.bounded, clean.marks⟩ chunked below rfl (by decide)
      · exact good_error (by decide)
    | some value =>
      have small := unhex_lt read
      dsimp only
      split_ifs with overflow
      · exact good_error (by decide)
      · have fits : run.parser.contentLength * 16 + value < ullongMax := by
          dsimp only [ullongMax] at overflow ⊢
          omega
        exact good_sized .chunkSize ⟨clean.ok, fits.le, clean.marks⟩ chunked fits state (by decide)

theorem onChunkParameters_good (clean : run.Clean) (state : run.parser.state = .chunkParameters)
    (chunked : run.parser.flags.chunked) (below : run.parser.contentLength < ullongMax) :
    (onChunkParameters run ch).Good room := by
  unfold onChunkParameters
  split_ifs
  · exact good_sized .chunkSizeAlmostDone ⟨clean.ok, clean.bounded, clean.marks⟩ chunked below rfl (by decide)
  · exact good_sized .chunkParameters clean chunked below state (by decide)

theorem onChunkSizeAlmostDone_good (clean : run.Clean) (chunked : run.parser.flags.chunked)
    (below : run.parser.contentLength < ullongMax) : (onChunkSizeAlmostDone run ch).Good room := by
  refine good_strictCheck fun _ => ?_
  dsimp only
  split_ifs with last
  · exact good_free ⟨clean.ok, clean.bounded, clean.marks⟩ rfl
  · refine good_body clean.ok clean.bounded ⟨chunked, last, below⟩ rfl (fun other _ => ?_) (Nat.zero_le room)
    exact congrFun clean.marks other

theorem onChunkData_good {tail : Bytes} (invariant : run.Invariant) (state : run.parser.state = .chunkData) :
    (onChunkData run (ch :: tail)).Good tail.length := by
  have others := mark_others (invariant.others (by rw [state]; rfl))
  have fits : min run.parser.contentLength (ch :: tail).length - 1 ≤ tail.length := by
    rw [List.length_cons]
    omega
  have shorter (n : Nat) : run.parser.contentLength - n ≤ ullongMax := (Nat.sub_le _ _).trans invariant.bounded
  have sound := invariant.sound
  simp only [Parser.Sound, state] at sound
  unfold onChunkData
  dsimp only
  split_ifs with finished
  · exact good_body invariant.ok (shorter _) ⟨sound.1, finished⟩ rfl others fits
  · refine good_body invariant.ok (shorter _) ?_ (by simp only [Run.mark, state]; rfl) others fits
    simp only [Parser.Sound, Run.mark, state]
    exact ⟨sound.1, finished, (Nat.sub_le _ _).trans_lt sound.2.2⟩

theorem onChunkDataAlmostDone_good (invariant : run.Invariant)
    (state : run.parser.state = .chunkDataAlmostDone) : (onChunkDataAlmostDone run ch).Good room := by
  refine good_strictCheck fun _ => ?_
  have sound := invariant.sound
  simp only [Parser.Sound, state] at sound
  refine ⟨Run.Clean.invariant (Run.clean_callbackData [] invariant.ok invariant.bounded
    (invariant.others (by rw [state]; rfl))) ?_ fun datum => ?_, Nat.zero_le room⟩
  · rw [Run.callbackData_parser]
    exact sound.1
  · rw [Run.callbackData_parser]
    cases datum <;> rfl

theorem onChunkDataDone_good (clean : run.Clean) (chunked : run.parser.flags.chunked) :
    (onChunkDataDone run ch).Good room :=
  good_strictCheck fun _ =>
    ⟨Run.Clean.invariant ⟨clean.ok, clean.bounded, clean.marks⟩ ⟨rfl, chunked⟩
      (fun datum => by cases datum <;> rfl), Nat.zero_le room⟩

/-! ## Whole runs -/

theorem Parser.sound_nread {parser : Parser} (elsewhere : parser.state ≠ .chunkSizeStart) (nread : Nat) :
    ({ parser with nread } : Parser).Sound ↔ parser.Sound := by
  unfold Parser.Sound
  cases held : parser.state <;> simp_all

theorem Run.Invariant.countHeaderSize (invariant : run.Invariant)
    (elsewhere : run.parser.state ≠ .chunkSizeStart) (v : Nat) : (run.countHeaderSize v).Invariant :=
  ⟨invariant.ok, invariant.bounded, (Parser.sound_nread elsewhere _).mpr invariant.sound, invariant.set,
    invariant.only⟩

theorem switch_good {tail : Bytes} (invariant : run.Invariant)
    (elsewhere : run.parser.state ≠ .chunkSizeStart) : (switch run ch tail).Good tail.length := by
  have clean := invariant.clean
  have sound := invariant.sound
  unfold switch
  cases state : run.parser.state <;> simp only [state, Parser.Sound] at clean sound ⊢
  case dead => exact onDead_good (clean rfl) state
  case startRes => exact onStartRes_good (clean rfl) state
  case resH | resHT | resHTT | resHTTP | resLineAlmostDone | headerValueDiscardWsAlmostDone =>
    exact expect_good (clean rfl) rfl
  case resFirstHttpMajor => exact onFirstHttpMajor_good (clean rfl)
  case resHttpMajor => exact onHttpMajor_good (clean rfl) state
  case resFirstHttpMinor => exact onFirstHttpMinor_good (clean rfl)
  case resHttpMinor => exact onHttpMinor_good (clean rfl) state
  case resFirstStatusCode => exact onFirstStatusCode_good (clean rfl) state
  case resStatusCode => exact onStatusCode_good (clean rfl) state
  case resStatusStart => exact onStatusStart_good (clean rfl)
  case resStatus => exact onStatus_good invariant state
  case headerFieldStart => exact onHeaderFieldStart_good (clean rfl)
  case headerField => exact onHeaderField_good invariant state
  case headerValueDiscardWs => exact onHeaderValueDiscardWs_good (clean rfl) state
  case headerValueDiscardLws => exact onHeaderValueDiscardLws_good (clean rfl)
  case headerValueStart => exact onHeaderValueStart_good (clean rfl)
  case headerValue => exact onHeaderValue_good invariant state
  case headerValueLws => exact onHeaderValueLws_good (clean rfl)
  case headerAlmostDone => exact onHeaderAlmostDone_good (clean rfl)
  case chunkSizeStart => exact absurd state elsewhere
  case chunkSize => exact onChunkSize_good (clean rfl) state sound.1 sound.2
  case chunkParameters => exact onChunkParameters_good (clean rfl) state sound.1 sound.2
  case chunkSizeAlmostDone => exact onChunkSizeAlmostDone_good (clean rfl) sound.1 sound.2
  case headersAlmostDone => exact onHeadersAlmostDone_good (clean rfl)
  case chunkData => exact onChunkData_good invariant state
  case chunkDataAlmostDone => exact onChunkDataAlmostDone_good invariant state
  case chunkDataDone => exact onChunkDataDone_good (clean rfl) sound
  case bodyIdentity => exact onBodyIdentity_good invariant state
  case bodyIdentityEof => exact onBodyIdentityEof_good invariant state

theorem Parser.asserted_of_sound {parser : Parser} (sound : parser.Sound)
    (elsewhere : parser.state ≠ .chunkSizeStart) : parser.asserted := by
  unfold Parser.asserted
  cases state : parser.state <;> simp only [Parser.Sound, state] at sound ⊢ <;> grind

theorem turn_good {tail : Bytes} (invariant : run.Invariant) : (turn run ch tail).Good tail.length := by
  unfold turn
  dsimp only
  by_cases start : run.parser.state = .chunkSizeStart
  · have sound := invariant.sound
    simp only [Parser.Sound, start] at sound
    have counted : (run.countHeaderSize 1).parser.nread = 1 := by simp only [Run.countHeaderSize, sound.1]
    have state : (run.countHeaderSize 1).parser.state = .chunkSizeStart := start
    have asserted : (run.countHeaderSize 1).parser.asserted := by
      simp only [Parser.asserted, state, counted, decide_true, Bool.true_and]
      exact sound.2
    have below : ¬ httpMaxHeaderSize < 1 := by decide
    have clean := invariant.clean (by rw [start]; rfl)
    rw [show run.parser.state.parsingHeader = true by rw [start]; rfl, if_pos rfl, counted, if_neg (by simp [below]),
      if_pos asserted, switch, state]
    exact onChunkSizeStart_good ⟨clean.ok, clean.bounded, clean.marks⟩ sound.2
  · have kept (run : Run) (invariant : run.Invariant) (elsewhere : run.parser.state ≠ .chunkSizeStart) :
        Step.Good tail.length
          (if run.parser.state.parsingHeader && decide (httpMaxHeaderSize < run.parser.nread) then
            .error run 0 .headerOverflow
          else if run.parser.asserted then switch run ch tail else .assertion) := by
      split_ifs with overflow asserted
      · exact good_error (by decide)
      · exact switch_good invariant elsewhere
      · exact absurd (Parser.asserted_of_sound invariant.sound elsewhere) asserted
    by_cases counting : run.parser.state.parsingHeader = true
    · rw [if_pos counting]
      exact kept _ (invariant.countHeaderSize start 1) start
    · rw [if_neg counting]
      exact kept run invariant start

theorem Run.Invariant.advance (invariant : run.Invariant) (passed : Bytes) : (run.advance passed).Invariant :=
  ⟨invariant.ok, invariant.bounded, invariant.sound,
    fun datum isSet => by rw [Run.advance, Option.isSome_map]; exact invariant.set datum isSet,
    fun datum isSet => by rw [Run.advance, Option.isSome_map] at isSet; exact invariant.only datum isSet⟩

theorem Run.Invariant.countP_le (invariant : run.Invariant) :
    (Datum.all.countP fun datum => (run.marks datum).isSome) ≤ 1 := by
  have fewer : (Datum.all.countP fun datum => (run.marks datum).isSome) ≤
      Datum.all.countP run.parser.state.opens :=
    List.countP_mono_left fun datum _ isSet => invariant.only datum isSet
  refine fewer.trans ?_
  cases run.parser.state <;> decide

@[simp] theorem Run.callbacks_parser (run : Run) : run.callbacks.parser = run.parser := by
  simp only [Run.callbacks, Datum.all, List.foldl_cons, List.foldl_nil, Run.callbackData_parser]

/-- What a call leaves to the next one, unless it has failed. -/
def Session.Settled (session : Session) : Prop :=
  session.parser.httpErrno = .ok → session.parser.contentLength ≤ ullongMax ∧ session.parser.Sound

theorem loop_spec (invariant : run.Invariant) (bytes : Bytes) :
    ∃ executed, loop run bytes = some executed ∧ executed.nparsed ≤ bytes.length ∧
      executed.session.Settled := by
  induction length : bytes.length using Nat.strong_induction_on generalizing run bytes with
  | _ length' ih =>
  cases bytes with
  | nil =>
      refine ⟨_, by rw [loop, if_pos invariant.countP_le], Nat.zero_le _, fun _ => ?_⟩
      rw [Run.callbacks_parser]
      exact ⟨invariant.bounded, invariant.sound⟩
  | cons ch tail =>
      have good : (turn run ch tail).Good tail.length := turn_good invariant
      rw [List.length_cons] at length
      cases ended : turn run ch tail with
      | assertion => rw [ended] at good; exact good.elim
      | error last ahead errno =>
          rw [ended] at good
          exact ⟨_, loop_error ended, length ▸ good.2, fun ok => absurd (show errno = .ok from ok) good.1⟩
      | returned last ahead =>
          rw [ended] at good
          exact ⟨_, loop_returned ended, length ▸ good.2.2.2, fun _ => ⟨good.1.bounded, good.1.sound⟩⟩
      | next last ahead =>
          rw [ended] at good
          have fits := good.2
          obtain ⟨executed, looped, inside, settled⟩ :=
            ih (tail.drop ahead).length (by rw [List.length_drop]; omega)
              (good.1.advance (ch :: tail.take ahead)) (tail.drop ahead) rfl
          refine ⟨{ executed with nparsed := executed.nparsed + ahead + 1 }, ?_, ?_, settled⟩
          · rw [loop_next ended, looped]
            rfl
          · rw [List.length_drop] at inside
            dsimp only
            omega

/-- One call on any data: no assertion fails, the parser stays inside the data, and is left so that this
holds of the next call. -/
theorem httpParserExecute_spec {session : Session} (settled : session.Settled) (data : Bytes) :
    ∃ executed, httpParserExecute session data = some executed ∧ executed.session.Settled ∧
      (data ≠ [] → executed.nparsed ≤ data.length) := by
  unfold httpParserExecute
  split_ifs with failed empty
  · exact ⟨_, rfl, settled, fun _ => Nat.zero_le _⟩
  · split
    · exact ⟨_, rfl, settled, fun filled => absurd empty filled⟩
    · exact ⟨_, rfl, settled, fun filled => absurd empty filled⟩
    · exact ⟨_, rfl, settled, fun filled => absurd empty filled⟩
    · exact ⟨_, rfl, fun ok => Errno.noConfusion ok, fun filled => absurd empty filled⟩
  · have ok : session.parser.httpErrno = .ok := by simpa using failed
    obtain ⟨bounded, sound⟩ := settled ok
    have invariant : Run.Invariant { session with marks := resumed session.parser.state } :=
      ⟨ok, bounded, sound, fun _ isSet => isSet, fun _ isSet => opens_of_resumed isSet⟩
    obtain ⟨executed, looped, inside, left⟩ := loop_spec invariant data
    exact ⟨executed, looped, left, fun _ => inside⟩

theorem settled_init : Session.Settled {} := fun _ => ⟨Nat.zero_le _, trivial⟩

end DecadaEmbedded.Http
