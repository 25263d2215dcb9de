import DecadaEmbedded.Http.ReplyHeaders

/-!
# Bodies of replies, read one byte at a time

The end of the head, where the parser decides how the body ends, and the three kinds of bodies.
-/

namespace DecadaEmbedded.Http
open Conversions Library

/-! ## Bytes without a mark -/

section Bytes
variable {s next : Session} {ch : UInt8}

theorem byte_counted (ready : s.Ready) (sound : s.parser.Sound)
    (closed : ∀ datum, resumed s.parser.state datum = none) (counting : s.parser.state.parsingHeader)
    (room : s.parser.nread + 1 ≤ httpMaxHeaderSize)
    (switched : switch (s.at (s.parser.nread + 1)).unmarked ch [] = .next next.unmarked 0) :
    byte s ch = some next := by
  have resumes : s.resume = s.unmarked := resume_unmarked closed
  have counted : s.resume.counted = (s.at (s.parser.nread + 1)).unmarked := by
    rw [resumes]
    exact if_pos counting
  rw [byte_of_next (fun _ => ⟨ready.bounded, sound⟩) ready.ok ready.running (by rw [resumes]; exact fun _ => room)
    (by rw [counted, switched]), unmarked_advance, unmarked_flushed]

theorem byte_uncounted (ready : s.Ready) (sound : s.parser.Sound)
    (closed : ∀ datum, resumed s.parser.state datum = none) (counting : s.parser.state.parsingHeader = false)
    (switched : switch s.unmarked ch [] = .next next.unmarked 0) : byte s ch = some next := by
  have resumes : s.resume = s.unmarked := resume_unmarked closed
  have counted : s.resume.counted = s.unmarked := by
    rw [resumes]
    exact if_neg (by rw [Session.unmarked, counting]; decide)
  have bounded : s.resume.Bounded := fun counts => by
    rw [resumes, Session.unmarked, counting] at counts
    cases counts
  rw [byte_of_next (fun _ => ⟨ready.bounded, sound⟩) ready.ok ready.running bounded (by rw [counted, switched]),
    unmarked_advance, unmarked_flushed]

end Bytes

/-! ## The end of the head -/

section HeadEnd
variable {s : Session} {parser : Parser} {response : HttpResponse} {code length : Nat} {chunked sized : Bool}

theorem onHeadersAlmostDone_eq (framing : parser.Framing code length chunked sized)
    (apart : (chunked && sized) = false) :
    onHeadersAlmostDone (Session.unmarked ⟨parser, response⟩) lf =
      onHeadersDone (Session.unmarked
        ⟨{ parser with state := .headersDone, upgrade := false }, response.setHeadersComplete⟩) lf := by
  have notTrailing : ¬ parser.flags.trailing = true := by
    rw [framing.trailing]
    decide
  have notBoth : ¬ (parser.flags.chunked && parser.flags.contentlength) = true := by
    rw [framing.chunked, framing.sized, apart]
    decide
  have noUpgrade : (parser.flags.upgrade && parser.flags.connectionUpgrade) = false := by
    rw [framing.upgrade, Bool.false_and]
  unfold onHeadersAlmostDone strictCheck
  rw [if_neg (by decide)]
  refine (if_neg notTrailing).trans ((if_neg notBoth).trans ?_)
  simp only [Session.unmarked, noUpgrade]

/-- The state in which a body starts, if one does. -/
def bodyState (length : Nat) (chunked : Bool) : State :=
  if chunked then .chunkSizeStart else if length = ullongMax then .bodyIdentityEof else .bodyIdentity

theorem onHeadersDone_eq (framing : parser.Framing code length chunked sized) (upgrade : parser.upgrade = false)
    (eof : chunked = false → length = ullongMax → code / 100 ≠ 1 ∧ code ≠ 204 ∧ code ≠ 304) :
    onHeadersDone (Session.unmarked ⟨parser, response⟩) lf =
      .next (Session.unmarked (if chunked = false ∧ length = 0 then Session.complete ⟨{ parser with nread := 0 }, response⟩
        else ⟨{ parser with nread := 0, state := bodyState length chunked }, response⟩)) 0 := by
  have notSkip : ¬ parser.flags.skipbody = true := by
    rw [framing.skipbody]
    decide
  have noUpgrade (rest : Bool) : ¬ (parser.upgrade && rest) = true := by
    rw [upgrade, Bool.false_and]
    decide
  unfold onHeadersDone strictCheck
  rw [if_neg (by decide)]
  refine (if_neg (noUpgrade _)).trans ((if_neg notSkip).trans ?_)
  cases chunked with
  | true => exact if_pos framing.chunked
  | false =>
      refine (if_neg (show ¬ parser.flags.chunked = true by rw [framing.chunked]; decide)).trans ?_
      by_cases empty : length = 0
      · rw [if_pos (show false = false ∧ length = 0 from ⟨rfl, empty⟩)]
        exact if_pos (framing.contentLength.trans empty)
      · rw [if_neg (show ¬ (false = false ∧ length = 0) from fun both => empty both.2)]
        refine (if_neg (show ¬ parser.contentLength = 0 by rw [framing.contentLength]; exact empty)).trans ?_
        by_cases endless : length = ullongMax
        · have needsEof : Parser.httpMessageNeedsEof { parser with nread := 0 } = true := by
            obtain ⟨notInfo, notEmpty, notModified⟩ := eof rfl endless
            simp [Parser.httpMessageNeedsEof, framing.statusCode, framing.skipbody, framing.chunked,
              framing.contentLength, notInfo, notEmpty, notModified, endless]
          refine (if_neg (not_not.mpr (framing.contentLength.trans endless))).trans ?_
          refine (if_neg (show ¬ (!Parser.httpMessageNeedsEof { parser with nread := 0 }) = true by
            rw [needsEof]
            decide)).trans ?_
          simp only [bodyState, endless, if_true]
          rfl
        · refine (if_pos (show parser.contentLength ≠ ullongMax by rw [framing.contentLength]; exact endless)).trans ?_
          simp only [bodyState, endless, if_false]
          rfl

/-- The line that ends the head, from the start of a line on. -/
theorem headEnd {s : Session} {reported : Nat} {headers : List Header} (at' : AtLine s reported code length chunked sized headers)
    (apart : (chunked && sized) = false)
    (eof : chunked = false → length = ullongMax → code / 100 ≠ 1 ∧ code ≠ 204 ∧ code ≠ 304) {n : Nat}
    (room : n + 3 ≤ httpMaxHeaderSize) :
    ∃ parser, parser.Framing code length chunked sized ∧ parser.nread = 0 ∧ parser.upgrade = false ∧
      oneByOne (s.at n) crlf =
      some (if chunked = false ∧ length = 0 then
          Session.complete ⟨parser, (responseWith reported headers).setHeadersComplete⟩
        else ⟨{ parser with state := bodyState length chunked },
          (responseWith reported headers).setHeadersComplete⟩) := by
  obtain ⟨held, parser, line, framing⟩ := at'
  have first : Reads s [cr] ⟨{ parser with state := .headersAlmostDone }, s.response⟩ := by
    have started (n : Nat) : onHeaderFieldStart (Session.at ⟨parser, s.response⟩ n).unmarked cr =
        .next (Session.at ⟨{ parser with state := .headersAlmostDone }, s.response⟩ n).unmarked 0 := if_pos rfl
    exact line.reads_byte (by decide) (by decide) started fun n => by rw [unmarked_advance, unmarked_flushed]
  obtain ⟨m, small, read⟩ := first n (by rw [List.length_singleton]; omega)
  rw [List.length_singleton] at small
  have framing' (state : State) (nread : Nat) (upgrade : Bool) :
      Parser.Framing { parser with state, nread, upgrade } code length chunked sized :=
    ⟨framing.ok, framing.statusCode, framing.contentLength, framing.chunked, framing.sized, framing.upgrade,
      framing.trailing, framing.skipbody⟩
  refine ⟨{ parser with state := .headersDone, nread := 0, upgrade := false }, framing' _ _ _, rfl, rfl, ?_⟩
  rw [show crlf = [cr] ++ [lf] from rfl, oneByOne_append, read, Option.bind_some, oneByOne_cons, held]
  have last : onHeadersAlmostDone (Session.unmarked
      ⟨{ parser with state := .headersAlmostDone, nread := m + 1 }, responseWith reported headers⟩) lf = _ :=
    (onHeadersAlmostDone_eq (framing' .headersAlmostDone (m + 1) parser.upgrade) apart).trans
      (onHeadersDone_eq (framing' .headersDone (m + 1) false) rfl eof)
  have ends := byte_counted
    (s := ⟨{ parser with state := .headersAlmostDone, nread := m }, responseWith reported headers⟩)
    ⟨framing.ok, line.ready.bounded, rfl⟩ trivial (fun datum => by cases datum <;> rfl) rfl
    (show m + 1 ≤ _ by omega) last
  exact (congrArg (Option.bind · _) ends).trans rfl

end HeadEnd

/-! ## Sized bodies -/

theorem oneByOne_sized {s : Session} (ready : s.Ready) (state : s.parser.state = .bodyIdentity)
    (upgrade : s.parser.upgrade = false) {body : Bytes} (filled : body ≠ [])
    (length : s.parser.contentLength = body.length) (short : body.length < ullongMax) :
    ∃ parser, oneByOne s body = some ⟨parser, (s.response.setBody body).setMessageComplete⟩ := by
  obtain ⟨xs, ch, rfl⟩ := List.eq_nil_or_concat body |>.resolve_left filled
  rw [List.concat_eq_append] at *
  rw [List.length_append, List.length_singleton] at length short
  have settled : s.Settled := fun _ => ⟨ready.bounded, by
    simp only [Parser.Sound, state]
    omega⟩
  obtain ⟨response', read, running', -, appends⟩ := oneByOne_identity settled ready.ok ready.running state xs (by omega)
  have left : s.parser.contentLength - xs.length = 1 := by omega
  have switched : switch (Session.unmarked ⟨{ s.parser with contentLength := 1 }, response'⟩) ch [] =
      .next (Session.unmarked (Session.complete
        ⟨{ s.parser with contentLength := 0, state := .messageDone }, response'.setBody [ch]⟩)) 0 := by
    have called := marking_callbackData
      ⟨{ s.parser with contentLength := 0, state := .messageDone }, response'⟩ .body [] [ch]
    rw [switch, show (Session.unmarked ⟨{ s.parser with contentLength := 1 }, response'⟩).parser.state = _ from state,
      onBodyIdentity_last (by exact le_rfl)]
    refine (Step.after_zero _).trans ((congrArg onMessageDone called).trans ?_)
    rw [onMessageDone_unmarked]
    exact if_neg (show ¬ s.parser.upgrade = true by rw [upgrade]; decide)
  have ends := byte_uncounted (s := ⟨{ s.parser with contentLength := 1 }, response'⟩)
    ⟨ready.ok, (show 1 ≤ ullongMax by decide), running'⟩ (by simp only [Parser.Sound, state]; decide)
    (fun datum => by simp only [state]; cases datum <;> rfl) (by simp only [state]; rfl) switched
  rw [appends _ (List.cons_ne_nil ch [])] at ends
  rw [oneByOne_append, read, Option.bind_some, left]
  exact ⟨_, (congrArg (Option.bind · _) ends).trans rfl⟩

/-! ## Chunks -/

theorem le_hexFrom (value : Nat) (digits : Bytes) :
    value ≤ digits.foldl (fun value c => 16 * value + hexDigitValue c) value := by
  induction digits generalizing value with
  | nil => exact le_rfl
  | cons c rest ih => exact le_trans (by omega) (ih (16 * value + hexDigitValue c))

theorem unhex_of_isHexDigit (c : UInt8) (digit : isHexDigit c) : unhex c = some (hexDigitValue c) :=
  (tables c).2.2.2 digit

theorem ne_cr_of_isHexDigit {c : UInt8} (digit : isHexDigit c) : c ≠ cr := by
  rintro rfl
  exact absurd digit (by decide)

section Chunks
variable {s : Session}

/-- The digits of a size behind its first. -/
theorem oneByOne_sizeRest (ready : s.Ready) (state : s.parser.state = .chunkSize) (chunked : s.parser.flags.chunked)
    {digits : Bytes} (all : ∀ c ∈ digits, isHexDigit c)
    (small : digits.foldl (fun value c => 16 * value + hexDigitValue c) s.parser.contentLength < 4294967296)
    (room : s.parser.nread + digits.length ≤ httpMaxHeaderSize) :
    oneByOne s digits = some ⟨{ s.parser with
      nread := s.parser.nread + digits.length
      contentLength := digits.foldl (fun value c => 16 * value + hexDigitValue c) s.parser.contentLength },
      s.response⟩ := by
  induction digits generalizing s with
  | nil => rfl
  | cons c rest ih =>
      obtain ⟨digit, digits⟩ := List.forall_mem_cons.mp all
      rw [List.length_cons] at room
      rw [List.foldl_cons] at small
      have below := (le_hexFrom _ rest).trans_lt small
      have fits : ¬ (ullongMax - 16) / 16 < s.parser.contentLength := by
        dsimp only [ullongMax]
        omega
      have switched : switch (s.at (s.parser.nread + 1)).unmarked c [] =
          .next (Session.unmarked ⟨{ s.parser with
            nread := s.parser.nread + 1
            contentLength := 16 * s.parser.contentLength + hexDigitValue c }, s.response⟩) 0 := by
        rw [switch, show (s.at (s.parser.nread + 1)).unmarked.parser.state = _ from state, Nat.mul_comm 16]
        unfold onChunkSize
        rw [if_neg (ne_cr_of_isHexDigit digit), unhex_of_isHexDigit c digit]
        exact if_neg fits
      have bounded : 16 * s.parser.contentLength + hexDigitValue c ≤ ullongMax := by
        dsimp only [ullongMax]
        omega
      have sound : s.parser.Sound := by
        simp only [Parser.Sound, state]
        exact ⟨chunked, by dsimp only [ullongMax]; omega⟩
      have step := byte_counted ready sound (fun datum => by rw [state]; cases datum <;> rfl) (by rw [state]; rfl)
        (by omega) switched
      have behind := ih (s := ⟨{ s.parser with
        nread := s.parser.nread + 1
        contentLength := 16 * s.parser.contentLength + hexDigitValue c }, s.response⟩)
        ⟨ready.ok, bounded, ready.running⟩ state chunked digits small (show s.parser.nread + 1 + rest.length ≤ _ by omega)
      rw [oneByOne_cons, step, Option.bind_some, behind]
      simp only [List.foldl_cons, List.length_cons, Nat.add_assoc, Nat.add_comm 1]

/-- The parser behind the line that announces a chunk of that size. -/
def Parser.behindSize (parser : Parser) (size : Nat) : Parser :=
  if size = 0 then
    { parser with
      contentLength := size, nread := 0, flags := { parser.flags with trailing := true }, state := .headerFieldStart }
  else { parser with contentLength := size, nread := 0, state := .chunkData }

theorem oneByOne_sizeLine (ready : s.Ready) (state : s.parser.state = .chunkSizeStart) (fresh : s.parser.nread = 0)
    (chunked : s.parser.flags.chunked) {size : Nat} (small : size < 4294967296) :
    oneByOne s (hexadecimal size ++ crlf) = some ⟨s.parser.behindSize size, s.response.setChunked⟩ := by
  obtain ⟨c, rest, digits⟩ := List.exists_cons_of_ne_nil (hexadecimal_ne_nil size)
  have all : ∀ d ∈ c :: rest, isHexDigit d := fun d there =>
    isHexDigit_of_mem_hexadecimal (n := size) (digits ▸ there)
  have value : rest.foldl (fun value c => 16 * value + hexDigitValue c) (hexDigitValue c) = size := by
    have whole := hexValue_hexadecimal size
    rwa [digits, hexValue, List.foldl_cons, Nat.mul_zero, Nat.zero_add] at whole
  have few : rest.length + 1 ≤ 8 := by
    have length := (length_hexadecimal_le_iff (n := size) (k := 8) (by decide)).mpr small
    rwa [digits] at length
  have room (n : Nat) (short : n ≤ 10) : n ≤ httpMaxHeaderSize := short.trans (by decide)
  obtain ⟨digit, digits'⟩ := List.forall_mem_cons.mp all
  have below := (le_hexFrom (hexDigitValue c) rest).trans_eq value
  have first : byte s c = some ⟨{ s.parser with
      nread := 1, contentLength := hexDigitValue c, state := .chunkSize }, s.response⟩ := by
    refine byte_counted ready (by simp only [Parser.Sound, state]; exact ⟨fresh, chunked⟩)
      (fun datum => by rw [state]; cases datum <;> rfl) (by rw [state]; rfl) (by rw [fresh]; exact room _ (by decide)) ?_
    rw [switch, show (s.at (s.parser.nread + 1)).unmarked.parser.state = _ from state, fresh]
    unfold onChunkSizeStart
    rw [unhex_of_isHexDigit c digit]
    rfl
  have behind := oneByOne_sizeRest (s := ⟨{ s.parser with
      nread := 1, contentLength := hexDigitValue c, state := .chunkSize }, s.response⟩)
    ⟨ready.ok, below.trans (by dsimp only [ullongMax]; omega), ready.running⟩ rfl chunked digits' (value.trans_lt small)
    (room _ (show 1 + rest.length ≤ 10 by omega))
  have bounded : size ≤ ullongMax := by
    dsimp only [ullongMax]
    omega
  have bounded' : size < ullongMax := by
    dsimp only [ullongMax]
    omega
  have ends : byte ⟨{ s.parser with nread := 1 + rest.length, contentLength := size, state := .chunkSize }, s.response⟩ cr =
      some ⟨{ s.parser with
        nread := 1 + rest.length + 1, contentLength := size, state := .chunkSizeAlmostDone }, s.response⟩ :=
    byte_counted ⟨ready.ok, bounded, ready.running⟩ ⟨chunked, bounded'⟩ (fun datum => by cases datum <;> rfl) rfl
      (room _ (show 1 + rest.length + 1 ≤ 10 by omega)) rfl
  have line : byte ⟨{ s.parser with
        nread := 1 + rest.length + 1, contentLength := size, state := .chunkSizeAlmostDone }, s.response⟩ lf =
      some ⟨s.parser.behindSize size, s.response.setChunked⟩ := by
    refine byte_counted ⟨ready.ok, bounded, ready.running⟩ ⟨chunked, bounded'⟩ (fun datum => by cases datum <;> rfl) rfl
      (room _ (show 1 + rest.length + 1 + 1 ≤ 10 by omega)) ?_
    rfl
  rw [digits, List.cons_append, oneByOne_cons, first, Option.bind_some, oneByOne_append, behind, Option.bind_some,
    value]
  exact (congrArg (Option.bind · _) ends).trans ((congrArg (Option.bind · _) line).trans rfl)

theorem oneByOne_chunkText (ready : s.Ready) (state : s.parser.state = .chunkSizeStart) (fresh : s.parser.nread = 0)
    (chunked : s.parser.flags.chunked) {chunk : Bytes} (filled : chunk ≠ []) (small : chunk.length < 4294967296) :
    oneByOne s (chunkText chunk) =
      some ⟨{ s.parser with contentLength := 0 }, s.response.setChunked.setBody chunk⟩ := by
  have positive : chunk.length ≠ 0 := fun empty => filled (List.eq_nil_of_length_eq_zero empty)
  have below : chunk.length < ullongMax := by
    dsimp only [ullongMax]
    omega
  have line := oneByOne_sizeLine ready state fresh chunked small
  rw [Parser.behindSize, if_neg positive] at line
  have data := oneByOne_chunk
    (b := ⟨{ s.parser with contentLength := chunk.length, nread := 0, state := .chunkData }, s.response.setChunked⟩)
    (fun _ => ⟨below.le, chunked, positive, below⟩) ready.ok ready.running rfl chunk filled le_rfl
  rw [Parser.inChunk, Nat.sub_self, if_pos rfl] at data
  have ends : byte ⟨{ s.parser with contentLength := 0, nread := 0, state := .chunkDataAlmostDone },
        s.response.setChunked.setBody chunk⟩ cr =
      some ⟨{ s.parser with contentLength := 0, nread := 0, state := .chunkDataDone },
        s.response.setChunked.setBody chunk⟩ :=
    byte_uncounted ⟨ready.ok, Nat.zero_le _, ready.running⟩ ⟨chunked, rfl⟩ (fun datum => by cases datum <;> rfl) rfl rfl
  have again : byte ⟨{ s.parser with contentLength := 0, nread := 0, state := .chunkDataDone },
        s.response.setChunked.setBody chunk⟩ lf =
      some ⟨{ s.parser with contentLength := 0, nread := 0, state := .chunkSizeStart },
        s.response.setChunked.setBody chunk⟩ :=
    byte_uncounted ⟨ready.ok, Nat.zero_le _, ready.running⟩ chunked (fun datum => by cases datum <;> rfl) rfl rfl
  have crlf' (t : Session) : oneByOne t crlf = (byte t cr).bind fun u => (byte u lf).bind some := rfl
  rw [chunkText, oneByOne_append, oneByOne_append, line, Option.bind_some, data, Option.bind_some, crlf']
  refine (congrArg (Option.bind · _) ends).trans ((congrArg (Option.bind · _) again).trans ?_)
  rw [Option.bind_some, ← state, ← fresh]

theorem oneByOne_chunkTexts (ready : s.Ready) (state : s.parser.state = .chunkSizeStart) (fresh : s.parser.nread = 0)
    (chunked : s.parser.flags.chunked) {chunks : List Bytes}
    (bounds : ∀ chunk ∈ chunks, chunk ≠ [] ∧ chunk.length < 4294967296) :
    ∃ contentLength ≤ ullongMax, oneByOne s (chunks.flatMap chunkText) = some ⟨{ s.parser with contentLength },
      chunks.foldl (fun response chunk => response.setChunked.setBody chunk) s.response⟩ := by
  induction chunks generalizing s with
  | nil => exact ⟨_, ready.bounded, rfl⟩
  | cons chunk rest ih =>
      obtain ⟨⟨filled, small⟩, bounds⟩ := List.forall_mem_cons.mp bounds
      have first := oneByOne_chunkText ready state fresh chunked filled small
      obtain ⟨contentLength, bounded, read⟩ := ih
        (s := ⟨{ s.parser with contentLength := 0 }, s.response.setChunked.setBody chunk⟩)
        ⟨ready.ok, Nat.zero_le _, ready.running⟩ state fresh chunked bounds
      exact ⟨contentLength, bounded, by
        rw [List.flatMap_cons, oneByOne_append, first, Option.bind_some, read, List.foldl_cons]⟩

/-- The chunk of size 0, and the line behind it. -/
theorem oneByOne_lastChunk (ready : s.Ready) (state : s.parser.state = .chunkSizeStart) (fresh : s.parser.nread = 0)
    (chunked : s.parser.flags.chunked) (upgrade : s.parser.upgrade = false) :
    ∃ parser, oneByOne s (str "0" ++ crlf ++ crlf) = some ⟨parser, s.response.setChunked.setMessageComplete⟩ := by
  have line := oneByOne_sizeLine ready state fresh chunked (by decide : 0 < 4294967296)
  rw [show hexadecimal 0 = str "0" by decide, Parser.behindSize, if_pos rfl] at line
  have ends : byte ⟨{ s.parser with
        contentLength := 0, nread := 0, flags := { s.parser.flags with trailing := true },
        state := .headerFieldStart }, s.response.setChunked⟩ cr =
      some ⟨{ s.parser with
        contentLength := 0, nread := 1, flags := { s.parser.flags with trailing := true },
        state := .headersAlmostDone }, s.response.setChunked⟩ :=
    byte_counted ⟨ready.ok, Nat.zero_le _, ready.running⟩ trivial (fun datum => by cases datum <;> rfl) rfl
      (show 0 + 1 ≤ httpMaxHeaderSize by decide) rfl
  have done : byte ⟨{ s.parser with
        contentLength := 0, nread := 1, flags := { s.parser.flags with trailing := true },
        state := .headersAlmostDone }, s.response.setChunked⟩ lf =
      some (Session.complete ⟨{ s.parser with
        contentLength := 0, nread := 2, flags := { s.parser.flags with trailing := true },
        state := .messageDone }, s.response.setChunked⟩) :=
    byte_counted ⟨ready.ok, Nat.zero_le _, ready.running⟩ trivial (fun datum => by cases datum <;> rfl) rfl
      (show 1 + 1 ≤ httpMaxHeaderSize by decide) (if_neg (show ¬ s.parser.upgrade = true by rw [upgrade]; decide))
  have crlf' (t : Session) : oneByOne t crlf = (byte t cr).bind fun u => (byte u lf).bind some := rfl
  rw [oneByOne_append, line, Option.bind_some, crlf']
  exact ⟨_, (congrArg (Option.bind · _) ends).trans ((congrArg (Option.bind · _) done).trans rfl)⟩

end Chunks

end DecadaEmbedded.Http
