import DecadaEmbedded.Http.Invariant

/-!
# The room of the body

The block of a body that is not chunked keeps the size that the first `Content-Length` gave it. Nothing
but a body that outgrows it is written outside of it.
-/

namespace DecadaEmbedded.Http
open Library

namespace HttpResponse

/-- More bytes than the block has room for. -/
def Overrun (response : HttpResponse) : Prop :=
  response.isChunked = false ∧ response.block.getD 0 < response.body.length

def copied (response : HttpResponse) : Bool × Option Nat × Bytes × Bool :=
  (response.isChunked, response.block, response.body, response.outside)

/-- While the body is not chunked, what is outside of the block is what does not fit. -/
structure Tracked (response : HttpResponse) : Prop where
  empty : response.block = none → response.body = []
  outside : response.isChunked = false → (response.outside = true ↔ response.Overrun)

/-- What a turn of the loop does to the body. -/
structure Grows (before after : HttpResponse) : Prop where
  kept : before.outside = true → after.outside = true
  caused : after.outside = true → before.outside = true ∨ after.Overrun
  tracked : before.Tracked → after.Tracked

variable {before response after : HttpResponse}

theorem Tracked.of_copied (tracked : before.Tracked) (same : after.copied = before.copied) : after.Tracked := by
  simp only [copied, Prod.mk.injEq] at same
  obtain ⟨chunked, block, body, outside⟩ := same
  refine ⟨fun none => ?_, fun plain => ?_⟩
  · rw [body]
    exact tracked.empty (block ▸ none)
  · rw [Overrun, chunked, block, body, outside]
    exact tracked.outside (chunked ▸ plain)

theorem Grows.outside_iff (grows : before.Grows after) (tracked : before.Tracked) :
    after.outside = true ↔ before.outside = true ∨ after.Overrun :=
  ⟨grows.caused, fun either =>
    either.elim grows.kept fun overrun => ((grows.tracked tracked).outside overrun.1).mpr overrun⟩

theorem Grows.of_copied (same : after.copied = before.copied) : before.Grows after := by
  have outside : after.outside = before.outside := congrArg (·.2.2.2) same
  exact ⟨fun out => outside ▸ out, fun out => .inl (outside ▸ out), fun tracked => tracked.of_copied same⟩

theorem Grows.behind (grows : response.Grows after) (same : response.copied = before.copied) :
    before.Grows after := by
  have outside : response.outside = before.outside := congrArg (·.2.2.2) same
  exact ⟨fun out => grows.kept (outside ▸ out), fun out => outside ▸ grows.caused out,
    fun tracked => grows.tracked (tracked.of_copied same)⟩

theorem Grows.then (grows : before.Grows response) (same : after.copied = response.copied) :
    before.Grows after := by
  have overrun : after.Overrun ↔ response.Overrun := by
    simp only [copied, Prod.mk.injEq] at same
    rw [Overrun, Overrun, same.1, same.2.1, same.2.2.1]
  have outside : after.outside = response.outside := congrArg (·.2.2.2) same
  exact ⟨fun out => outside ▸ grows.kept out, fun out => (grows.caused (outside ▸ out)).imp_right overrun.mpr,
    fun tracked => (grows.tracked tracked).of_copied same⟩

/-- A chunked body is given the room for what is copied, and one that is not keeps its block. -/
theorem grows_setBody (response : HttpResponse) (at' : Bytes) : response.Grows (response.setBody at') := by
  by_cases chunked :
      (response.isChunked || (response.expectedContentLength = 0 && 0 < at'.length)) = true
  · refine ⟨fun out => ?_, fun out => ?_, fun _ => ⟨fun none => ?_, fun plain => ?_⟩⟩
    · simp [setBody, out]
    · exact .inl (by simpa [setBody, chunked] using out)
    · simp [setBody] at none
    · simp [setBody, chunked] at plain
  · rw [Bool.not_eq_true] at chunked
    have plain : response.isChunked = false := (Bool.or_eq_false_iff.mp chunked).1
    refine ⟨fun out => ?_, fun out => ?_, fun tracked => ⟨fun none => ?_, fun _ => ?_⟩⟩
    · simp [setBody, out]
    · simpa [setBody, Overrun, chunked] using out
    · simp [setBody] at none
    · have before : response.outside = true → response.Overrun := (tracked.outside plain).mp
      simp only [setBody, Overrun, chunked, Option.getD_some, List.length_append, Bool.or_eq_true,
        decide_eq_true_eq, true_and, Bool.false_eq_true, if_false]
      refine ⟨fun either => either.elim (fun out => ?_) id, .inr⟩
      have overrun : response.block.getD 0 < response.body.length := (before out).2
      cases block : response.block with
      | none => simp [tracked.empty block] at overrun
      | some room =>
          rw [block, Option.getD_some] at overrun
          exact Nat.lt_add_right _ overrun

theorem grows_setChunked (response : HttpResponse) : response.Grows response.setChunked :=
  ⟨id, .inl, fun tracked => ⟨tracked.empty, fun plain => by simp [setChunked] at plain⟩⟩

theorem copied_setMessageComplete (response : HttpResponse) :
    response.setMessageComplete.copied = response.copied := rfl

theorem copied_setHeadersComplete : response.setHeadersComplete.copied = response.copied := by
  unfold setHeadersComplete
  cases response.contentLength <;> rfl

end HttpResponse

open HttpResponse

/-! ## One turn -/

def Step.left : Step → Option Run
  | .next run _ | .error run _ _ | .returned run _ => some run
  | .assertion => none

/-- The response behind a step, against the one in front of it. -/
def Step.Grows (before : HttpResponse) (step : Step) : Prop :=
  ∀ last, step.left = some last → before.Grows last.response

section Turns
variable {run last : Run} {before : HttpResponse} {ch : UInt8} {ahead : Nat}

theorem copied_callbackData (run : Run) {datum : Datum} (other : datum ≠ .body) (passed : Bytes) :
    (run.callbackData datum passed).response.copied = run.response.copied := by
  unfold Run.callbackData
  cases run.marks datum with
  | none => rfl
  | some text => cases datum <;> first | rfl | exact absurd rfl other

theorem grows_callbackData (run : Run) (datum : Datum) (passed : Bytes) :
    run.response.Grows (run.callbackData datum passed).response := by
  by_cases other : datum = .body
  · subst other
    unfold Run.callbackData
    cases run.marks .body with
    | none => exact .of_copied rfl
    | some text => exact grows_setBody _ _
  · exact .of_copied (copied_callbackData run other passed)

theorem next_grows (grows : before.Grows run.response) : (Step.next run ahead).Grows before := by
  rintro _ ⟨⟩
  exact grows

theorem error_grows {errno : Errno} (grows : before.Grows run.response) :
    (Step.error run ahead errno).Grows before := by
  rintro _ ⟨⟩
  exact grows

theorem returned_grows (grows : before.Grows run.response) : (Step.returned run ahead).Grows before := by
  rintro _ ⟨⟩
  exact grows

theorem after_grows {step : Step} (n : Nat) (grows : step.Grows before) : (step.after n).Grows before := by
  cases step <;> exact grows

theorem strictCheck_grows {violated : Bool} {rest : Step} (grows : rest.Grows run.response) :
    (strictCheck violated run rest).Grows run.response := by
  unfold strictCheck
  split_ifs
  · exact error_grows (.of_copied rfl)
  · exact grows

theorem onMessageDone_grows (grows : before.Grows run.response) : (onMessageDone run).Grows before := by
  have complete := grows.then (copied_setMessageComplete run.response)
  unfold onMessageDone
  dsimp only
  split_ifs
  · exact returned_grows complete
  · exact next_grows complete

theorem expect_grows {expected : UInt8} {state : State} : (expect expected state run ch).Grows run.response :=
  strictCheck_grows (next_grows (.of_copied rfl))

theorem onHeadersDone_grows : (onHeadersDone run ch).Grows run.response := by
  refine strictCheck_grows ?_
  dsimp only
  split_ifs <;> first
    | exact next_grows (.of_copied rfl)
    | exact returned_grows (.of_copied rfl)

theorem onHeadersAlmostDone_grows : (onHeadersAlmostDone run ch).Grows run.response := by
  refine strictCheck_grows ?_
  dsimp only
  split_ifs
  · exact onMessageDone_grows (.of_copied rfl)
  · exact error_grows (.of_copied rfl)
  · intro last left
    exact (onHeadersDone_grows last left).behind copied_setHeadersComplete

theorem onHeaderFieldStart_grows : (onHeaderFieldStart run ch).Grows run.response := by
  unfold onHeaderFieldStart
  split_ifs
  · exact next_grows (.of_copied rfl)
  · exact onHeadersAlmostDone_grows
  · exact error_grows (.of_copied rfl)
  · exact next_grows (.of_copied rfl)

theorem onHeaderField_grows (bytes : Bytes) : (onHeaderField run bytes).Grows run.response := by
  unfold onHeaderField
  cases fieldLoop run.parser bytes with
  | none => rintro _ ⟨⟩
  | some ended =>
      dsimp only
      split_ifs
      · exact error_grows (.of_copied rfl)
      · cases bytes[ended.2]? with
        | none => exact next_grows (.of_copied rfl)
        | some ch =>
            dsimp only
            split_ifs
            · exact next_grows (.of_copied (copied_callbackData _ Datum.noConfusion _))
            · exact error_grows (.of_copied rfl)

theorem onHeaderValueStart_grows : (onHeaderValueStart run ch).Grows run.response := by
  unfold onHeaderValueStart
  dsimp only [Run.mark]
  split
  · exact next_grows (.of_copied rfl)
  · exact next_grows (.of_copied rfl)
  · split_ifs
    · exact error_grows (.of_copied rfl)
    · exact error_grows (.of_copied rfl)
    · exact next_grows (.of_copied rfl)
  · exact next_grows (.of_copied rfl)
  · exact next_grows (.of_copied rfl)
  · exact next_grows (.of_copied rfl)

theorem onHeaderAlmostDone_grows : (onHeaderAlmostDone run ch).Grows run.response := by
  unfold onHeaderAlmostDone
  split_ifs
  · exact error_grows (.of_copied rfl)
  · exact next_grows (.of_copied rfl)

theorem onHeaderValue_grows (bytes : Bytes) : (onHeaderValue run bytes).Grows run.response := by
  have called (run : Run) (passed : Bytes) :
      (run.callbackData .headerValue passed).response.copied = run.response.copied :=
    copied_callbackData run Datum.noConfusion passed
  unfold onHeaderValue
  cases valueLoop run.parser.headerState run.parser bytes with
  | assertion => rintro _ ⟨⟩
  | error parser n errno => exact error_grows (.of_copied rfl)
  | ended headerState parser n =>
      dsimp only
      cases bytes[n]? with
      | none =>
          dsimp only
          split_ifs
          · exact error_grows (.of_copied rfl)
          · exact next_grows (.of_copied rfl)
      | some ch =>
          dsimp only
          split_ifs
          · exact error_grows (.of_copied (called _ _))
          · exact next_grows (.of_copied (called _ _))
          · exact error_grows (.of_copied rfl)
          · refine after_grows n fun last left => ?_
            exact (onHeaderAlmostDone_grows last left).behind (called _ _)

theorem onHeaderValueDiscardLws_grows : (onHeaderValueDiscardLws run ch).Grows run.response := by
  unfold onHeaderValueDiscardLws
  split_ifs
  · exact next_grows (.of_copied rfl)
  · intro last left
    exact (onHeaderFieldStart_grows last left).behind (copied_callbackData _ Datum.noConfusion _)

theorem onBodyIdentity_grows (bytes : Bytes) : (onBodyIdentity run bytes).Grows run.response := by
  unfold onBodyIdentity
  dsimp only
  split_ifs
  · exact after_grows _ (onMessageDone_grows (Grows.behind (grows_callbackData _ .body _) rfl))
  · exact next_grows (.of_copied rfl)

theorem onChunkSize_grows : (onChunkSize run ch).Grows run.response := by
  unfold onChunkSize
  by_cases ends : ch = cr
  · rw [if_pos ends]
    exact next_grows (.of_copied rfl)
  · rw [if_neg ends]
    cases unhex ch with
    | none =>
        dsimp only
        split_ifs
        · exact next_grows (.of_copied rfl)
        · exact error_grows (.of_copied rfl)
    | some value =>
        dsimp only
        split_ifs
        · exact error_grows (.of_copied rfl)
        · exact next_grows (.of_copied rfl)

theorem onChunkSizeAlmostDone_grows : (onChunkSizeAlmostDone run ch).Grows run.response :=
  strictCheck_grows (next_grows (grows_setChunked run.response))

theorem onChunkData_grows (bytes : Bytes) : (onChunkData run bytes).Grows run.response := by
  unfold onChunkData
  dsimp only
  split_ifs <;> exact next_grows (.of_copied rfl)

theorem switch_grows (tail : Bytes) : (switch run ch tail).Grows run.response := by
  unfold switch
  cases run.parser.state <;> dsimp only
  case resH | resHT | resHTT | resHTTP | resLineAlmostDone | headerValueDiscardWsAlmostDone =>
    exact expect_grows
  case resStatus =>
    unfold onStatus
    split_ifs
    · exact next_grows (.of_copied (copied_callbackData _ Datum.noConfusion _))
    · exact next_grows (.of_copied (copied_callbackData _ Datum.noConfusion _))
    · exact next_grows (.of_copied rfl)
  case headerFieldStart => exact onHeaderFieldStart_grows
  case headerField => exact onHeaderField_grows _
  case headerValueDiscardWs =>
    unfold onHeaderValueDiscardWs
    split_ifs
    · exact next_grows (.of_copied rfl)
    · exact next_grows (.of_copied rfl)
    · exact next_grows (.of_copied rfl)
    · exact onHeaderValueStart_grows
  case headerValueDiscardLws => exact onHeaderValueDiscardLws_grows
  case headerValueStart => exact onHeaderValueStart_grows
  case headerValue => exact onHeaderValue_grows _
  case headerValueLws =>
    unfold onHeaderValueLws
    split_ifs
    · exact onHeaderValueStart_grows
    · exact onHeaderFieldStart_grows
  case headerAlmostDone => exact onHeaderAlmostDone_grows
  case chunkSizeStart =>
    unfold onChunkSizeStart
    cases unhex ch
    · exact error_grows (.of_copied rfl)
    · exact next_grows (.of_copied rfl)
  case chunkSize => exact onChunkSize_grows
  case chunkSizeAlmostDone => exact onChunkSizeAlmostDone_grows
  case headersAlmostDone => exact onHeadersAlmostDone_grows
  case headersDone => exact onHeadersDone_grows
  case chunkData => exact onChunkData_grows _
  case chunkDataAlmostDone =>
    exact strictCheck_grows (next_grows (Grows.behind (grows_callbackData _ .body _) rfl))
  case chunkDataDone => exact strictCheck_grows (next_grows (.of_copied rfl))
  case bodyIdentity => exact onBodyIdentity_grows _
  case bodyIdentityEof => exact next_grows (.of_copied rfl)
  case messageDone => exact onMessageDone_grows (.of_copied rfl)
  -- the status line and the parameters of a chunk, which no callback is told of
  all_goals
    simp only [onDead, onStartRes, onFirstHttpMajor, onHttpMajor, onFirstHttpMinor, onHttpMinor,
      onFirstStatusCode, onStatusCode, onStatusStart, onChunkParameters]
    split_ifs <;> first
      | exact next_grows (.of_copied rfl)
      | exact error_grows (.of_copied rfl)

theorem turn_grows (tail : Bytes) : (turn run ch tail).Grows run.response := by
  unfold turn
  dsimp only
  split_ifs
  · exact error_grows (.of_copied rfl)
  · exact switch_grows tail
  · rintro _ ⟨⟩
  · exact error_grows (.of_copied rfl)
  · exact switch_grows tail
  · rintro _ ⟨⟩

theorem callbacks_grows (run : Run) : run.response.Grows run.callbacks.response := by
  let fields := (run.callbackData .headerField).callbackData .headerValue
  have front : fields.response.copied = run.response.copied :=
    (copied_callbackData _ Datum.noConfusion []).trans (copied_callbackData _ Datum.noConfusion [])
  have body : run.response.Grows (fields.callbackData .body).response :=
    (grows_callbackData fields .body []).behind front
  exact body.then (copied_callbackData _ Datum.noConfusion [])

end Turns

/-! ## The loop -/

/-- The responses that the loop comes by: the one behind each turn, and the one that it ends with. -/
inductive Run.Passes : Run → Bytes → HttpResponse → Prop where
  | ends (run : Run) : run.Passes [] run.callbacks.response
  | turned {run last : Run} {ch : UInt8} {tail : Bytes} (left : (turn run ch tail).left = some last) :
      run.Passes (ch :: tail) last.response
  | next {run last : Run} {ch : UInt8} {tail : Bytes} {ahead : Nat} {response : HttpResponse}
      (turned : turn run ch tail = .next last ahead)
      (behind : (last.advance (ch :: tail.take ahead)).Passes (tail.drop ahead) response) :
      run.Passes (ch :: tail) response

section Loop
variable {run last : Run} {ch : UInt8} {tail bytes : Bytes} {ahead : Nat} {response : HttpResponse}
  {executed : Executed}

theorem Run.passes_nil : run.Passes [] response ↔ response = run.callbacks.response :=
  ⟨fun passes => by cases passes; rfl, fun same => same ▸ .ends run⟩

theorem Run.passes_stopped (left : (turn run ch tail).left = some last)
    (stops : ∀ last ahead, turn run ch tail ≠ .next last ahead) :
    run.Passes (ch :: tail) response ↔ response = last.response := by
  refine ⟨fun passes => ?_, fun same => same ▸ .turned left⟩
  cases passes with
  | turned other => rw [Option.some.inj (left.symm.trans other)]
  | next turned _ => exact absurd turned (stops _ _)

theorem Run.passes_next (turned : turn run ch tail = .next last ahead) :
    run.Passes (ch :: tail) response ↔
      response = last.response ∨
        (last.advance (ch :: tail.take ahead)).Passes (tail.drop ahead) response := by
  have left : (turn run ch tail).left = some last := by rw [turned]; rfl
  refine ⟨fun passes => ?_, fun either => ?_⟩
  · cases passes with
    | turned other => exact .inl (by rw [Option.some.inj (left.symm.trans other)])
    | next again behind =>
        obtain ⟨rfl, rfl⟩ := Step.next.inj (turned.symm.trans again)
        exact .inr behind
  · rcases either with rfl | behind
    · exact .turned left
    · exact .next turned behind

/-- What is written outside the block has been an overrun on the way. -/
theorem loop_outside (tracked : run.response.Tracked) (looped : loop run bytes = some executed) :
    (executed.session.response.outside = true ↔
      run.response.outside = true ∨ ∃ response, run.Passes bytes response ∧ response.Overrun) ∧
    executed.session.response.Tracked := by
  induction length : bytes.length using Nat.strong_induction_on generalizing run bytes executed with
  | _ length' ih =>
  cases bytes with
  | nil =>
      have ended : executed = ⟨run.callbacks.toSession, 0⟩ := by
        rw [loop] at looped
        split_ifs at looped
        exact (Option.some.inj looped).symm
      subst ended
      have grows := callbacks_grows run
      simp only [Run.passes_nil, exists_eq_left]
      exact ⟨grows.outside_iff tracked, grows.tracked tracked⟩
  | cons ch tail =>
      have stopped {last : Run} (left : (turn run ch tail).left = some last)
          (stops : ∀ last ahead, turn run ch tail ≠ .next last ahead) :
          (last.response.outside = true ↔ run.response.outside = true ∨
            ∃ response, run.Passes (ch :: tail) response ∧ response.Overrun) ∧ last.response.Tracked := by
        have grows := turn_grows tail last left
        simp only [Run.passes_stopped left stops, exists_eq_left]
        exact ⟨grows.outside_iff tracked, grows.tracked tracked⟩
      cases ended : turn run ch tail with
      | assertion => rw [loop, ended] at looped; cases looped
      | error last ahead errno =>
          rw [loop_error ended] at looped
          cases looped
          exact stopped (by rw [ended]; rfl) (by simp [ended])
      | returned last ahead =>
          rw [loop_returned ended] at looped
          cases looped
          exact stopped (by rw [ended]; rfl) (by simp [ended])
      | next last ahead =>
          have grows : run.response.Grows last.response := turn_grows tail last (by rw [ended]; rfl)
          rw [loop_next ended] at looped
          obtain ⟨behind, goesOn, rfl⟩ := Option.map_eq_some_iff.mp looped
          rw [List.length_cons] at length
          have still : (last.advance (ch :: tail.take ahead)).response.Tracked := grows.tracked tracked
          obtain ⟨outside, left⟩ :=
            ih (tail.drop ahead).length (by rw [List.length_drop]; omega) still goesOn rfl
          refine ⟨?_, left⟩
          have first : last.response.outside = true ↔ run.response.outside = true ∨ last.response.Overrun :=
            grows.outside_iff tracked
          simp only [Run.passes_next ended, or_and_right, exists_or, exists_eq_left, ← or_assoc, ← first]
          exact outside

end Loop

theorem httpParserExecute_outside {session : Session} {segment : Bytes} {executed : Executed}
    (tracked : session.response.Tracked) (filled : segment ≠ [])
    (executes : httpParserExecute session segment = some executed) :
    (executed.session.response.outside = true ↔ session.response.outside = true ∨
      session.parser.httpErrno = .ok ∧
        ∃ response, Run.Passes { session with marks := resumed session.parser.state } segment response ∧
          response.Overrun) ∧
    executed.session.response.Tracked := by
  unfold httpParserExecute at executes
  split_ifs at executes with failed
  · cases executes
    exact ⟨by simp [failed], tracked⟩
  · have ok : session.parser.httpErrno = .ok := by simpa using failed
    rw [and_iff_right ok]
    exact loop_outside tracked executes

end DecadaEmbedded.Http
