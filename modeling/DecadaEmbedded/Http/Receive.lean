import DecadaEmbedded.Http.BodyRoom

/-!
# `HttpRequestBase::create_http_response`

The loop over `Socket::recv` behind a request that has been sent. What arrives is up to the network: any
bytes, in any segments, and in the end none or an error of the socket.
-/

namespace DecadaEmbedded.Http
open Library

/-- What the calls of `recv` return. -/
structure Arrivals where
  segments : List Bytes
  filled : ∀ segment ∈ segments, segment ≠ []
  ending : Int
  ends : ending ≤ 0

-- `HttpParser::finish`
def finish (session : Session) : Option HttpResponse :=
  (httpParserExecute session []).map fun executed => executed.session.response

/-- The error, or the response. None: an assertion has failed. -/
def receive (session : Session) (ending : Int) : List Bytes → Option (Except Int HttpResponse)
  | [] => if ending < 0 then some (.error ending) else (finish session).map .ok
  | segment :: rest => do
      let executed ← httpParserExecute session segment
      if executed.nparsed ≠ segment.length then return .error (-2101)
      else if executed.session.response.isMessageCompleted then (finish executed.session).map .ok
      else receive executed.session ending rest

def createHttpResponse (arrivals : Arrivals) : Option (Except Int HttpResponse) :=
  receive {} arrivals.ending arrivals.segments

/-! ## Any bytes -/

/-- The end of the stream ends a body that goes up to it, and nothing else. -/
theorem finish_eq (session : Session) :
    finish session = some
      (if session.parser.httpErrno = .ok ∧ session.parser.state = .bodyIdentityEof then
        session.response.setMessageComplete
      else session.response) := by
  unfold finish httpParserExecute
  by_cases ok : session.parser.httpErrno = .ok
  · rw [if_neg (by simp [ok]), if_pos rfl]
    cases session.parser.state <;> simp [ok]
  · rw [if_pos ok, if_neg fun both => ok both.1]
    rfl

/-- The session behind the last call of `recv` that brings bytes. -/
def reached (session : Session) : List Bytes → Option Session
  | [] => some session
  | segment :: rest => do
      let executed ← httpParserExecute session segment
      if executed.nparsed ≠ segment.length ∨ executed.session.response.isMessageCompleted then
        return executed.session
      else reached executed.session rest

/-- The responses that the parser comes by in these segments. -/
inductive Session.Passes : Session → List Bytes → HttpResponse → Prop where
  | reads {session : Session} {segment : Bytes} {rest : List Bytes} {response : HttpResponse}
      (ok : session.parser.httpErrno = .ok)
      (passes : Run.Passes { session with marks := resumed session.parser.state } segment response) :
      session.Passes (segment :: rest) response
  | next {session : Session} {segment : Bytes} {rest : List Bytes} {executed : Executed}
      {response : HttpResponse} (executes : httpParserExecute session segment = some executed)
      (whole : executed.nparsed = segment.length)
      (lasts : executed.session.response.isMessageCompleted = false)
      (behind : executed.session.Passes rest response) :
      session.Passes (segment :: rest) response

/-- Any bytes are received up to an error or a response, and `reached` is where they are. -/
theorem receive_spec {session : Session} (settled : session.Settled) (ending : Int) (segments : List Bytes) :
    ∃ result last, receive session ending segments = some result ∧ reached session segments = some last ∧
      (result = .error (-2101) ∨ ending < 0 ∧ result = .error ending ∨
        ∃ response, finish last = some response ∧ result = .ok response) := by
  induction segments generalizing session with
  | nil =>
      unfold receive reached
      split_ifs with failed
      · exact ⟨_, _, rfl, rfl, .inr (.inl ⟨failed, rfl⟩)⟩
      · rw [finish_eq]
        exact ⟨_, _, rfl, rfl, .inr (.inr ⟨_, finish_eq session, rfl⟩)⟩
  | cons segment rest ih =>
      obtain ⟨executed, executes, left, -⟩ := httpParserExecute_spec settled segment
      unfold receive reached
      rw [executes]
      simp only [Option.bind_eq_bind, Option.bind_some]
      by_cases whole : executed.nparsed = segment.length
      · by_cases completed : executed.session.response.isMessageCompleted = true
        · rw [if_neg (not_not.mpr whole), if_pos completed, if_pos (.inr completed), finish_eq]
          exact ⟨_, _, rfl, rfl, .inr (.inr ⟨_, finish_eq executed.session, rfl⟩)⟩
        · rw [if_neg (not_not.mpr whole), if_neg completed, if_neg (by simp [whole, completed])]
          exact ih left
      · rw [if_pos whole, if_pos (.inl whole)]
        exact ⟨_, _, rfl, rfl, .inl rfl⟩

theorem reached_outside {session last : Session} {segments : List Bytes} (tracked : session.response.Tracked)
    (filled : ∀ segment ∈ segments, segment ≠ []) (reaches : reached session segments = some last) :
    (last.response.outside = true ↔ session.response.outside = true ∨
      ∃ response, session.Passes segments response ∧ response.Overrun) ∧
    last.response.Tracked := by
  induction segments generalizing session with
  | nil =>
      cases reaches
      refine ⟨⟨.inl, fun either => either.resolve_right ?_⟩, tracked⟩
      rintro ⟨_, ⟨⟩, -⟩
  | cons segment rest ih =>
      unfold reached at reaches
      cases executes : httpParserExecute session segment with
      | none => rw [executes] at reaches; cases reaches
      | some executed =>
          rw [executes] at reaches
          simp only [Option.bind_eq_bind, Option.bind_some] at reaches
          obtain ⟨outside, left⟩ :=
            httpParserExecute_outside tracked (filled segment List.mem_cons_self) executes
          by_cases stops : executed.nparsed ≠ segment.length ∨ executed.session.response.isMessageCompleted
          · rw [if_pos stops] at reaches
            cases reaches
            refine ⟨outside.trans (or_congr_right ⟨?_, ?_⟩), left⟩
            · rintro ⟨ok, response, passes, overrun⟩
              exact ⟨response, .reads ok passes, overrun⟩
            · rintro ⟨response, passes, overrun⟩
              cases passes with
              | reads ok passes => exact ⟨ok, response, passes, overrun⟩
              | next again whole lasts _ =>
                  cases executes.symm.trans again
                  simp [whole, lasts] at stops
          · rw [if_neg stops] at reaches
            obtain ⟨whole, lasts⟩ := not_or.mp stops
            obtain ⟨behind, kept⟩ :=
              ih left (fun segment inside => filled segment (List.mem_cons_of_mem _ inside)) reaches
            rw [outside, or_assoc] at behind
            refine ⟨behind.trans (or_congr_right ⟨?_, ?_⟩), kept⟩
            · rintro (⟨ok, response, passes, overrun⟩ | ⟨response, passes, overrun⟩)
              · exact ⟨response, .reads ok passes, overrun⟩
              · exact ⟨response, .next executes (not_not.mp whole) (by simpa using lasts) passes, overrun⟩
            · rintro ⟨response, passes, overrun⟩
              cases passes with
              | reads ok passes => exact .inl ⟨ok, response, passes, overrun⟩
              | next again _ _ behind =>
                  cases executes.symm.trans again
                  exact .inr ⟨response, behind, overrun⟩

/-- Whatever arrives, in whatever segments: no assertion of the parser fails, and the request ends with a
response, with the error of the socket, or with `-2101`. Something has been written outside the block of
the body exactly if the parser came by a body that is not chunked and longer than its block. Unless a
chunked one has followed, this is the body that it ends with. -/
theorem createHttpResponse_total (arrivals : Arrivals) :
    ∃ result session, createHttpResponse arrivals = some result ∧
      reached {} arrivals.segments = some session ∧
      (result = .error (-2101) ∨ arrivals.ending < 0 ∧ result = .error arrivals.ending ∨
        ∃ response, finish session = some response ∧ result = .ok response) ∧
      (session.response.outside = true ↔
        ∃ response, Session.Passes {} arrivals.segments response ∧ response.Overrun) ∧
      (session.response.isChunked = false →
        (session.response.outside = true ↔
          session.response.block.getD 0 < session.response.body.length)) := by
  obtain ⟨result, session, received, reaches, cases⟩ :=
    receive_spec settled_init arrivals.ending arrivals.segments
  have inside : ¬ ({} : Session).response.outside = true := Bool.false_ne_true
  have tracked : ({} : Session).response.Tracked :=
    ⟨fun _ => rfl, fun _ => iff_of_false inside fun overrun => absurd overrun.2 (by simp)⟩
  obtain ⟨outside, left⟩ := reached_outside tracked arrivals.filled reaches
  exact ⟨result, session, received, reaches, cases, outside.trans (or_iff_right inside),
    fun plain => (left.outside plain).trans (and_iff_right plain)⟩

-- a length with a blank inside: the parser reads ten bytes, `atoi` reads 1
example :
    (((({} : HttpResponse).setHeaderField (str "Content-Length")).setHeaderValue
      (str "1 0")).setHeadersComplete.setBody (str "0123456789")).outside = true := by decide

end DecadaEmbedded.Http
