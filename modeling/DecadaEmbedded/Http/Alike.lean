import DecadaEmbedded.Http.Invariant

/-!
# Sessions alike

How the callbacks take a text in parts, and the sessions that differ in the count of header bytes and in
the status message only. A turn that reads one byte does the same to both, unless the count is too high.
-/

namespace DecadaEmbedded.Http
open Library

/-! ## Texts in parts -/

theorem appendToLast_append (texts : List Bytes) (x y : Bytes) :
    appendToLast (appendToLast texts x) y = appendToLast texts (x ++ y) := by
  unfold appendToLast
  cases texts.getLast? <;> simp

theorem appendToLast_concat (texts : List Bytes) (x y : Bytes) :
    appendToLast (texts ++ [x]) y = texts ++ [x ++ y] := by
  simp [appendToLast]

namespace HttpResponse
variable (response : HttpResponse) (x y : Bytes)

theorem setHeaderField_append :
    (response.setHeaderField x).setHeaderField y = response.setHeaderField (x ++ y) := by
  unfold setHeaderField
  cases response.concatHeaderField <;> simp [appendToLast_append, appendToLast_concat]

theorem setHeaderValue_append :
    (response.setHeaderValue x).setHeaderValue y = response.setHeaderValue (x ++ y) := by
  unfold setHeaderValue
  cases response.concatHeaderValue <;> simp [appendToLast_append, appendToLast_concat]

theorem setBody_growing {response : HttpResponse} {x : Bytes}
    (grows : response.isChunked ∨ response.expectedContentLength = 0 ∧ x ≠ []) :
    response.setBody x =
      { response with
        isChunked := true
        block := some (response.body.length + x.length)
        body := response.body ++ x } := by
  have flag : (response.isChunked || (response.expectedContentLength = 0 && 0 < x.length)) = true := by
    simpa [List.length_pos_iff] using grows
  simp [setBody, flag]

theorem setBody_sized {response : HttpResponse} (plain : response.isChunked = false)
    (sized : response.expectedContentLength ≠ 0) (x : Bytes) :
    response.setBody x =
      { response with
        block := some (response.block.getD response.expectedContentLength)
        body := response.body ++ x
        outside := response.outside ||
          response.block.getD response.expectedContentLength < response.body.length + x.length } := by
  simp [setBody, plain, sized]

theorem setBody_append (filled : x ≠ []) : (response.setBody x).setBody y = response.setBody (x ++ y) := by
  by_cases grows : response.isChunked ∨ response.expectedContentLength = 0
  · rw [setBody_growing (grows.imp_right (⟨·, filled⟩)), setBody_growing (.inl rfl),
      setBody_growing (grows.imp_right (⟨·, by simp [filled]⟩))]
    simp [Nat.add_assoc]
  · obtain ⟨plain, sized⟩ := not_or.mp grows
    rw [Bool.not_eq_true] at plain
    have still : (response.setBody x).isChunked = false := by rw [setBody_sized plain sized]; exact plain
    rw [setBody_sized still sized, setBody_sized plain sized, setBody_sized plain sized]
    simp only [Option.getD_some, List.append_assoc, List.length_append, Bool.or_assoc, ← Bool.decide_or]
    congr 3
    exact propext (by omega)

theorem setHeadersComplete_message (statusMessage : Bytes) :
    ({ response with statusMessage } : HttpResponse).setHeadersComplete =
      { response.setHeadersComplete with statusMessage } := by
  unfold setHeadersComplete
  rw [show ({ response with statusMessage } : HttpResponse).contentLength = response.contentLength from rfl]
  cases response.contentLength <;> rfl

end HttpResponse

/-! ## Alike but for the count and the message -/

def Session.Like (a b : Session) : Prop :=
  ∃ nread statusMessage, nread ≤ b.parser.nread ∧
    a = ⟨{ b.parser with nread }, { b.response with statusMessage }⟩

def Run.Like (a b : Run) : Prop := a.toSession.Like b.toSession ∧ a.marks = b.marks

/-- What the second step does without an error, the first does too. -/
def Step.Like (s t : Step) : Prop :=
  match t with
  | .next b ahead => ∃ a, s = .next a ahead ∧ a.Like b
  | .returned b ahead => ∃ a, s = .returned a ahead ∧ a.Like b
  | _ => True

namespace Session.Like
variable {a b c : Session}

theorem refl (a : Session) : a.Like a := ⟨_, _, le_rfl, rfl⟩

theorem trans (ab : a.Like b) (bc : b.Like c) : a.Like c := by
  obtain ⟨n, m, below, rfl⟩ := ab
  obtain ⟨n', m', below', rfl⟩ := bc
  exact ⟨n, m, below.trans below', rfl⟩

end Session.Like

namespace Run
variable {a b : Run}

theorem Like.parser (like : a.Like b) :
    ∃ nread ≤ b.parser.nread, a.parser = { b.parser with nread } := by
  obtain ⟨⟨n, m, below, same⟩, -⟩ := like
  exact ⟨n, below, by rw [same]⟩

/-- A turn that reads neither the count nor the message. -/
theorem Like.eq (like : a.Like b) :
    ∃ n m, n ≤ b.parser.nread ∧
      a = { b with parser := { b.parser with nread := n }, response := { b.response with statusMessage := m } } := by
  obtain ⟨⟨n, m, below, same⟩, marks⟩ := like
  refine ⟨n, m, below, ?_⟩
  cases a
  cases b
  simp_all

end Run

section SingleBytes
variable {a b : Run} {ch : UInt8}

/-- The step of a run alike: the same one, with the count and the message of the first. -/
theorem like_next {n : Nat} {m : Bytes} {ahead : Nat} (below : n ≤ b.parser.nread)
    (same : a = { b with
      parser := { b.parser with nread := n }, response := { b.response with statusMessage := m } }) :
    (Step.next a ahead).Like (.next b ahead) :=
  ⟨a, rfl, ⟨n, m, below, by rw [same]⟩, by rw [same]⟩

theorem onDead_like (like : a.Like b) : (onDead a ch).Like (onDead b ch) := by
  obtain ⟨n, m, below, rfl⟩ := like.eq
  unfold onDead
  dsimp only
  split_ifs <;> first | trivial | exact like_next below rfl

theorem onStartRes_like (like : a.Like b) : (onStartRes a ch).Like (onStartRes b ch) := by
  obtain ⟨n, m, below, rfl⟩ := like.eq
  unfold onStartRes
  dsimp only
  split_ifs <;> first | trivial | exact like_next below rfl

theorem onFirstHttpMajor_like (like : a.Like b) : (onFirstHttpMajor a ch).Like (onFirstHttpMajor b ch) := by
  obtain ⟨n, m, below, rfl⟩ := like.eq
  unfold onFirstHttpMajor
  dsimp only
  split_ifs <;> first | trivial | exact like_next below rfl

theorem onHttpMajor_like (like : a.Like b) : (onHttpMajor a ch).Like (onHttpMajor b ch) := by
  obtain ⟨n, m, below, rfl⟩ := like.eq
  unfold onHttpMajor
  dsimp only
  split_ifs <;> first | trivial | exact like_next below rfl

theorem onFirstHttpMinor_like (like : a.Like b) : (onFirstHttpMinor a ch).Like (onFirstHttpMinor b ch) := by
  obtain ⟨n, m, below, rfl⟩ := like.eq
  unfold onFirstHttpMinor
  dsimp only
  split_ifs <;> first | trivial | exact like_next below rfl

theorem onHttpMinor_like (like : a.Like b) : (onHttpMinor a ch).Like (onHttpMinor b ch) := by
  obtain ⟨n, m, below, rfl⟩ := like.eq
  unfold onHttpMinor
  dsimp only
  split_ifs <;> first | trivial | exact like_next below rfl

theorem onFirstStatusCode_like (like : a.Like b) : (onFirstStatusCode a ch).Like (onFirstStatusCode b ch) := by
  obtain ⟨n, m, below, rfl⟩ := like.eq
  unfold onFirstStatusCode
  dsimp only
  split_ifs <;> first | trivial | exact like_next below rfl

theorem onStatusCode_like (like : a.Like b) : (onStatusCode a ch).Like (onStatusCode b ch) := by
  obtain ⟨n, m, below, rfl⟩ := like.eq
  unfold onStatusCode
  dsimp only
  split_ifs <;> first | trivial | exact like_next below rfl

theorem onStatusStart_like (like : a.Like b) : (onStatusStart a ch).Like (onStatusStart b ch) := by
  obtain ⟨n, m, below, rfl⟩ := like.eq
  unfold onStatusStart
  dsimp only
  split_ifs <;> first | trivial | exact like_next below rfl

theorem expect_like {expected : UInt8} {state : State} (like : a.Like b) :
    (expect expected state a ch).Like (expect expected state b ch) := by
  obtain ⟨n, m, below, rfl⟩ := like.eq
  unfold expect strictCheck
  split_ifs <;> first | trivial | exact like_next below rfl

theorem onMessageDone_like (like : a.Like b) : (onMessageDone a).Like (onMessageDone b) := by
  obtain ⟨n, m, below, rfl⟩ := like.eq
  unfold onMessageDone
  dsimp only [Run.updateState, Run.messageComplete]
  split_ifs
  · exact ⟨_, rfl, ⟨n, m, below, rfl⟩, rfl⟩
  · exact like_next below rfl

theorem onHeadersDone_like (like : a.Like b) : (onHeadersDone a ch).Like (onHeadersDone b ch) := by
  obtain ⟨n, m, below, rfl⟩ := like.eq
  unfold onHeadersDone strictCheck
  dsimp only [Parser.httpMessageNeedsEof]
  split_ifs <;> first | trivial | exact like_next le_rfl rfl | exact ⟨_, rfl, ⟨0, m, le_rfl, rfl⟩, rfl⟩

theorem onHeadersAlmostDone_like (like : a.Like b) :
    (onHeadersAlmostDone a ch).Like (onHeadersAlmostDone b ch) := by
  obtain ⟨n, m, below, rfl⟩ := like.eq
  unfold onHeadersAlmostDone
  by_cases violated : (decide (ch ≠ lf)) = true
  · rw [strictCheck, strictCheck, if_pos violated, if_pos violated]
    trivial
  · rw [strictCheck, strictCheck, if_neg violated, if_neg violated]
    dsimp only
    split_ifs
    · exact onMessageDone_like ⟨⟨n, m, below, rfl⟩, rfl⟩
    · trivial
    · refine onHeadersDone_like ⟨⟨n, m, below, ?_⟩, rfl⟩
      rw [HttpResponse.setHeadersComplete_message]

theorem onHeaderFieldStart_like (like : a.Like b) :
    (onHeaderFieldStart a ch).Like (onHeaderFieldStart b ch) := by
  obtain ⟨n, m, below, rfl⟩ := like.eq
  unfold onHeaderFieldStart
  dsimp only
  split_ifs
  · exact like_next below rfl
  · exact onHeadersAlmostDone_like ⟨⟨n, m, below, rfl⟩, rfl⟩
  · trivial
  · exact like_next below rfl

theorem onHeaderValueStart_like (like : a.Like b) :
    (onHeaderValueStart a ch).Like (onHeaderValueStart b ch) := by
  obtain ⟨n, m, below, rfl⟩ := like.eq
  unfold onHeaderValueStart
  dsimp only [Run.mark]
  split
  · exact like_next below rfl
  · exact like_next below rfl
  · split_ifs <;> first | trivial | exact like_next below rfl
  · exact like_next below rfl
  · exact like_next below rfl
  · exact like_next below rfl

theorem onHeaderValueDiscardWs_like (like : a.Like b) :
    (onHeaderValueDiscardWs a ch).Like (onHeaderValueDiscardWs b ch) := by
  unfold onHeaderValueDiscardWs
  have started : (onHeaderValueStart a ch).Like (onHeaderValueStart b ch) := onHeaderValueStart_like like
  obtain ⟨n, m, below, rfl⟩ := like.eq
  split_ifs
  · exact like_next below rfl
  · exact like_next below rfl
  · exact like_next below rfl
  · exact started

theorem onHeaderValueLws_like (like : a.Like b) : (onHeaderValueLws a ch).Like (onHeaderValueLws b ch) := by
  obtain ⟨n, m, below, rfl⟩ := like.eq
  unfold onHeaderValueLws
  split_ifs
  · exact onHeaderValueStart_like ⟨⟨n, m, below, rfl⟩, rfl⟩
  · exact onHeaderFieldStart_like ⟨⟨n, m, below, rfl⟩, rfl⟩

theorem onHeaderValueDiscardLws_like (like : a.Like b) (marks : b.marks = fun _ => none) :
    (onHeaderValueDiscardLws a ch).Like (onHeaderValueDiscardLws b ch) := by
  obtain ⟨n, m, below, rfl⟩ := like.eq
  unfold onHeaderValueDiscardLws
  split_ifs
  · exact like_next below rfl
  · refine onHeaderFieldStart_like ⟨?_, ?_⟩
    · simp only [Run.callbackData, Run.updateState, Run.mark, Run.finishHeader, marks, Function.update_self]
      exact ⟨n, m, below, rfl⟩
    · simp only [Run.callbackData, Run.updateState, Run.mark, Run.finishHeader, marks, Function.update_self]

theorem onHeaderAlmostDone_like (like : a.Like b) :
    (onHeaderAlmostDone a ch).Like (onHeaderAlmostDone b ch) := by
  obtain ⟨n, m, below, rfl⟩ := like.eq
  unfold onHeaderAlmostDone
  split_ifs <;> first | trivial | exact like_next below rfl

theorem onChunkSizeStart_like (like : a.Like b) : (onChunkSizeStart a ch).Like (onChunkSizeStart b ch) := by
  obtain ⟨n, m, below, rfl⟩ := like.eq
  unfold onChunkSizeStart
  split
  · trivial
  · exact like_next below rfl

theorem onChunkSize_like (like : a.Like b) : (onChunkSize a ch).Like (onChunkSize b ch) := by
  obtain ⟨n, m, below, rfl⟩ := like.eq
  unfold onChunkSize
  by_cases ends : ch = cr
  · rw [if_pos ends, if_pos ends]
    exact like_next below rfl
  · rw [if_neg ends, if_neg ends]
    cases unhex ch <;> dsimp only <;> split_ifs <;> first | trivial | exact like_next below rfl

theorem onChunkParameters_like (like : a.Like b) :
    (onChunkParameters a ch).Like (onChunkParameters b ch) := by
  obtain ⟨n, m, below, rfl⟩ := like.eq
  unfold onChunkParameters
  split_ifs <;> exact like_next below rfl

theorem onChunkSizeAlmostDone_like (like : a.Like b) :
    (onChunkSizeAlmostDone a ch).Like (onChunkSizeAlmostDone b ch) := by
  obtain ⟨n, m, below, rfl⟩ := like.eq
  unfold onChunkSizeAlmostDone strictCheck
  dsimp only
  split_ifs <;> first | trivial | exact like_next le_rfl rfl

theorem onChunkDataDone_like (like : a.Like b) : (onChunkDataDone a ch).Like (onChunkDataDone b ch) := by
  obtain ⟨n, m, below, rfl⟩ := like.eq
  unfold onChunkDataDone strictCheck
  split_ifs <;> first | trivial | exact like_next le_rfl rfl

end SingleBytes

theorem switch_like {a b : Run} {ch : UInt8} (like : a.Like b) (marks : b.marks = fun _ => none)
    (closed : Datum.all.any b.parser.state.opens = false) (tail : Bytes) :
    (switch a ch tail).Like (switch b ch []) := by
  obtain ⟨n, -, parser⟩ := like.parser
  unfold switch
  rw [parser]
  dsimp only
  cases state : b.parser.state <;> rw [state] at closed <;> dsimp only
  case dead => exact onDead_like like
  case startRes => exact onStartRes_like like
  case resH | resHT | resHTT | resHTTP | resLineAlmostDone | headerValueDiscardWsAlmostDone =>
    exact expect_like like
  case resFirstHttpMajor => exact onFirstHttpMajor_like like
  case resHttpMajor => exact onHttpMajor_like like
  case resFirstHttpMinor => exact onFirstHttpMinor_like like
  case resHttpMinor => exact onHttpMinor_like like
  case resFirstStatusCode => exact onFirstStatusCode_like like
  case resStatusCode => exact onStatusCode_like like
  case resStatusStart => exact onStatusStart_like like
  case headerFieldStart => exact onHeaderFieldStart_like like
  case headerValueDiscardWs => exact onHeaderValueDiscardWs_like like
  case headerValueDiscardLws => exact onHeaderValueDiscardLws_like like marks
  case headerValueStart => exact onHeaderValueStart_like like
  case headerValueLws => exact onHeaderValueLws_like like
  case headerAlmostDone => exact onHeaderAlmostDone_like like
  case chunkSizeStart => exact onChunkSizeStart_like like
  case chunkSize => exact onChunkSize_like like
  case chunkParameters => exact onChunkParameters_like like
  case chunkSizeAlmostDone => exact onChunkSizeAlmostDone_like like
  case headersAlmostDone => exact onHeadersAlmostDone_like like
  case headersDone => exact onHeadersDone_like like
  case chunkDataDone => exact onChunkDataDone_like like
  case messageDone => exact onMessageDone_like like
  all_goals cases closed

end DecadaEmbedded.Http
