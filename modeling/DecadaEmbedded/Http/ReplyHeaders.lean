import DecadaEmbedded.Http.ReplyHead

/-!
# Header lines, read one byte at a time

The values of the headers of a reply, and its lines as a whole: what they say about the body, and what
they leave in the response.
-/

namespace DecadaEmbedded.Http
open Conversions Library

/-! ## Values -/

/-- A character of a value as it leaves the parser, if it is taken. -/
def takeChar (parser : Parser) (ch : UInt8) : Option Parser :=
  match valueChar parser.headerState parser ch with
  | .go headerState parser => some { parser with headerState }
  | _ => none

theorem takeChar_inValue {parser next : Parser} {ch : UInt8} (here : InValue parser parser.headerState)
    (taken : takeChar parser ch = some next) : InValue next next.headerState := by
  unfold takeChar at taken
  rcases valueChar_spec here ch with ⟨headerState, parser', goes, there⟩ | failed
  · rw [goes] at taken
    cases taken
    exact ⟨there.ok, there.bounded, there.state, there.inValue⟩
  · rw [failed] at taken
    cases taken

section Value
variable {parser next : Parser} {response : HttpResponse}

theorem reads_valueChar {ch : UInt8} (here : InValue parser parser.headerState)
    (running : response.isMessageCompleted = false) (foreign : isHeaderChar ch = true) (inside : ¬ lineEnd ch)
    (taken : takeChar parser ch = some next) (before : Bytes) :
    Reads ⟨parser, response.setHeaderValue before⟩ [ch] ⟨next, response.setHeaderValue (before ++ [ch])⟩ := by
  have switched (n : Nat) (fits : n + 1 ≤ httpMaxHeaderSize) :
      switch ((Session.at ⟨parser, response.setHeaderValue before⟩ n).marking .headerValue []) ch [] =
        .next (Session.marking ⟨{ next with nread := n + 1 }, response.setHeaderValue before⟩ .headerValue []) 0 := by
    have looped : ∃ headerState parser', valueLoop parser.headerState parser [ch] =
        .ended headerState parser' 1 ∧ next = { parser' with headerState } := by
      unfold takeChar at taken
      have goes : ¬ (decide (ch = cr) || decide (ch = lf)) = true := by simpa [lineEnd] using inside
      by_cases general : parser.headerState = .general
      · rw [general] at taken ⊢
        cases taken
        refine ⟨_, _, ?_, rfl⟩
        rw [valueLoop, if_neg goes, if_neg (by rw [foreign]; decide), if_pos rfl, lineLength_all (by simpa using inside)]
        rfl
      · cases goes' : valueChar parser.headerState parser ch with
        | go headerState parser' =>
            rw [goes'] at taken
            cases taken
            refine ⟨headerState, parser', ?_, rfl⟩
            rw [valueLoop, if_neg goes, if_neg (by rw [foreign]; decide), if_neg general, goes']
            rfl
        | invalidContentLength => rw [goes'] at taken; cases taken
        | assertion => rw [goes'] at taken; cases taken
    obtain ⟨headerState, parser', looped, rfl⟩ := looped
    have looped' : valueLoop parser.headerState { parser with nread := n } [ch] =
        .ended headerState { parser' with nread := n } 1 := by
      rw [valueLoop_nread, looped]
      rfl
    rw [switch, show ((Session.at ⟨parser, response.setHeaderValue before⟩ n).marking .headerValue []).parser.state =
      .headerValue from here.state]
    exact onHeaderValue_all ⟨{ parser with nread := n }, response.setHeaderValue before⟩ [] looped' fits rfl
  refine reads_resumed .headerValue ⟨here.ok, here.bounded, running⟩ (by rw [here.state]; rfl)
    (by rw [Parser.Sound, here.state]; exact here.inValue) le_rfl switched fun n => ?_
  rw [marking_advance, marking_flushed]
  exact congrArg (Session.mk _) (HttpResponse.setHeaderValue_append response before [ch])

theorem reads_valueRest {xs : Bytes} (here : InValue parser parser.headerState)
    (running : response.isMessageCompleted = false)
    (inside : ∀ ch ∈ xs, isHeaderChar ch = true ∧ ¬ lineEnd ch)
    (taken : xs.foldlM takeChar parser = some next) (before : Bytes) :
    InValue next next.headerState ∧
      Reads ⟨parser, response.setHeaderValue before⟩ xs ⟨next, response.setHeaderValue (before ++ xs)⟩ := by
  induction xs generalizing parser before with
  | nil =>
      cases taken
      exact ⟨here, by rw [List.append_nil]; exact Reads.nil⟩
  | cons ch rest ih =>
      obtain ⟨⟨plain, notEnd⟩, inRest⟩ := List.forall_mem_cons.mp inside
      obtain ⟨middle, first, more⟩ := Option.bind_eq_some_iff.mp taken
      obtain ⟨there, reads⟩ := ih (takeChar_inValue here first) inRest more (before ++ [ch])
      rw [List.append_assoc] at reads
      exact ⟨there, (reads_valueChar here running plain notEnd first before).cons reads⟩

theorem reads_valueEnd (here : InValue parser parser.headerState)
    (running : response.isMessageCompleted = false) (value : Bytes) :
    Reads ⟨parser, response.setHeaderValue value⟩ crlf
      ⟨{ parser with state := .headerValueLws }, response.setHeaderValue value⟩ := by
  have switched (n : Nat) (fits : n + 0 ≤ httpMaxHeaderSize) :
      switch ((Session.at ⟨parser, response.setHeaderValue value⟩ n).marking .headerValue []) cr [] =
        .next (Session.unmarked ⟨{ parser with nread := n, state := .headerAlmostDone },
          (response.setHeaderValue value).setHeaderValue []⟩) 0 := by
    have looped : valueLoop parser.headerState { parser with nread := n } [cr] =
        .ended parser.headerState { parser with nread := n } 0 := by
      rw [valueLoop, if_pos (by decide)]
    rw [switch, show ((Session.at ⟨parser, response.setHeaderValue value⟩ n).marking .headerValue []).parser.state =
      .headerValue from here.state]
    exact onHeaderValue_ends ⟨{ parser with nread := n }, response.setHeaderValue value⟩ [] looped fits rfl (.inl rfl)
  refine Reads.cons (t := ⟨{ parser with state := .headerAlmostDone }, response.setHeaderValue value⟩) ?_ ?_
  · refine reads_resumed .headerValue ⟨here.ok, here.bounded, running⟩ (by rw [here.state]; rfl)
      (by rw [Parser.Sound, here.state]; exact here.inValue) zero_le_one switched fun n => ?_
    rw [unmarked_advance, unmarked_flushed, HttpResponse.setHeaderValue_append, List.append_nil]
    rfl
  · exact reads_plain ⟨here.ok, here.bounded, running⟩ rfl rfl fun n => rfl

/-- The first character of a value, behind the blank. -/
theorem reads_valueFirst {ch : UInt8} (ready : Session.Ready ⟨parser, response⟩)
    (state : parser.state = .headerValueDiscardWs) (notBlank : ch ≠ space ∧ ch ≠ tab) (inside : ¬ lineEnd ch)
    (started : ∀ n, onHeaderValueStart (Session.at ⟨parser, response⟩ n).unmarked ch =
      .next ((Session.at ⟨next, response⟩ n).marking .headerValue []) 0) :
    Reads ⟨parser, response⟩ [ch] ⟨next, response.setHeaderValue [ch]⟩ := by
  obtain ⟨notCr, notLf⟩ := not_or.mp inside
  have switched (n : Nat) : switch (Session.at ⟨parser, response⟩ n).unmarked ch [] =
      .next ((Session.at ⟨next, response⟩ n).marking .headerValue []) 0 := by
    rw [switch, show (Session.at ⟨parser, response⟩ n).unmarked.parser.state = .headerValueDiscardWs from state]
    refine Eq.trans ?_ (started n)
    simp [onHeaderValueDiscardWs, notBlank, notCr, notLf]
  refine reads_byte ready (by rw [state]; rfl) (by rw [state]; rfl) switched fun n => ?_
  rw [marking_advance, marking_flushed]
  rfl

end Value

/-! ## What the lines say about the body -/

structure Parser.Framing (parser : Parser) (code length : Nat) (chunked sized : Bool) : Prop where
  ok : parser.httpErrno = .ok
  statusCode : parser.statusCode = code
  contentLength : parser.contentLength = length
  chunked : parser.flags.chunked = chunked
  sized : parser.flags.contentlength = sized
  upgrade : parser.flags.upgrade = false
  trailing : parser.flags.trailing = false
  skipbody : parser.flags.skipbody = false

/-- Values that are read for what they say about the connection, or for nothing. -/
def HeaderState.connecting : HeaderState → Bool
  | .general | .matchingConnectionTokenStart | .matchingConnectionKeepAlive | .matchingConnectionClose
  | .matchingConnectionUpgrade | .matchingConnectionToken | .connectionKeepAlive | .connectionClose
  | .connectionUpgrade => true
  | _ => false

section Plain
variable {parser : Parser} {code length : Nat} {chunked sized : Bool}

theorem HeaderState.connecting.inValue {headerState : HeaderState} (connecting : headerState.connecting) :
    headerState.inValue := by
  revert connecting
  cases headerState <;> decide

theorem takeChar_connecting (connecting : parser.headerState.connecting)
    (framing : parser.Framing code length chunked sized) (ch : UInt8) :
    ∃ next, takeChar parser ch = some next ∧ next.headerState.connecting ∧
      next.Framing code length chunked sized := by
  obtain ⟨ok, status, cl, ck, sz, up, tr, sk⟩ := framing
  have goes : ∃ headerState next, valueChar parser.headerState parser ch = .go headerState next ∧
      headerState.connecting ∧ next.Framing code length chunked sized := by
    unfold valueChar
    cases held : parser.headerState <;> rw [held] at connecting <;> try cases connecting
    case general => exact ⟨_, _, rfl, rfl, ok, status, cl, ck, sz, up, tr, sk⟩
    case matchingConnectionTokenStart =>
      exact ⟨_, _, rfl, by split_ifs <;> rfl, ok, status, cl, ck, sz, up, tr, sk⟩
    case matchingConnectionKeepAlive | matchingConnectionClose | matchingConnectionUpgrade =>
      exact ⟨_, _, rfl, matching_of_cases HeaderState.connecting rfl rfl rfl, ok, status, cl, ck, sz, up, tr, sk⟩
    case matchingConnectionToken =>
      dsimp only
      split_ifs <;> exact ⟨_, _, rfl, rfl, ok, status, cl, ck, sz, up, tr, sk⟩
    case connectionKeepAlive | connectionClose | connectionUpgrade =>
      dsimp only
      split_ifs <;> exact ⟨_, _, rfl, rfl, ok, status, cl, ck, sz, up, tr, sk⟩
  obtain ⟨headerState, next, taken, connecting', framing'⟩ := goes
  refine ⟨{ next with headerState }, by rw [takeChar, taken], connecting', ?_⟩
  exact ⟨framing'.ok, framing'.statusCode, framing'.contentLength, framing'.chunked, framing'.sized,
    framing'.upgrade, framing'.trailing, framing'.skipbody⟩

theorem takeChars_connecting (parser : Parser) (connecting : parser.headerState.connecting)
    (framing : parser.Framing code length chunked sized) (xs : Bytes) :
    ∃ next, xs.foldlM takeChar parser = some next ∧ next.headerState.connecting ∧
      next.Framing code length chunked sized := by
  induction xs generalizing parser with
  | nil => exact ⟨parser, rfl, connecting, framing⟩
  | cons ch rest ih =>
      obtain ⟨middle, taken, connecting', framing'⟩ := takeChar_connecting connecting framing ch
      obtain ⟨next, more, rest'⟩ := ih middle connecting' framing'
      exact ⟨next, by rw [List.foldlM_cons, taken]; exact more, rest'⟩

theorem onHeaderValueStart_plain (parser : Parser) (ch : UInt8) (inField : parser.headerState.inField)
    (plain : parser.headerState ≠ .contentLength ∧ parser.headerState ≠ .transferEncoding ∧
      parser.headerState ≠ .upgrade) :
    ∃ headerState, headerState.connecting ∧
      ∀ n response, onHeaderValueStart (Session.at ⟨parser, response⟩ n).unmarked ch =
        .next ((Session.at ⟨{ parser with state := .headerValue, index := 0, headerState }, response⟩ n).marking
          .headerValue []) 0 := by
  obtain ⟨flags, state, headerState⟩ := parser
  cases headerState
  case connection =>
    exact ⟨if lower ch = 107 then .matchingConnectionKeepAlive
      else if lower ch = 99 then .matchingConnectionClose
      else if lower ch = 117 then .matchingConnectionUpgrade
      else .matchingConnectionToken, by split_ifs <;> rfl, fun n response => rfl⟩
  case contentLength => exact absurd rfl plain.1
  case transferEncoding => exact absurd rfl plain.2.1
  case upgrade => exact absurd rfl plain.2.2
  all_goals first | exact ⟨.general, rfl, fun n response => rfl⟩ | cases inField

end Plain

/-! ## Header lines -/

def responseWith (code : Nat) (headers : List Header) : HttpResponse :=
  { statusCode := code
    headerFields := headers.map Header.name
    headerValues := headers.map Header.value
    concatHeaderValue := !headers.isEmpty }

theorem responseWith_append (code : Nat) (headers : List Header) (header : Header) :
    ((responseWith code headers).setHeaderField header.name).setHeaderValue header.value =
      responseWith code (headers ++ [header]) := by
  simp [responseWith, HttpResponse.setHeaderField, HttpResponse.setHeaderValue]

/-- The start of a line, behind some headers. -/
def AtLine (s : Session) (reported code length : Nat) (chunked sized : Bool) (headers : List Header) : Prop :=
  s.response = responseWith reported headers ∧
    ∃ parser, s.Line parser ∧ parser.Framing code length chunked sized

theorem toLowerCase_eq_token {name : Bytes} (names : ∀ ch ∈ name, token ch ≠ 0) :
    toLowerCase name = name.map token :=
  List.map_congr_left fun ch there => (tables ch).2.1 (names ch there)

section Lines
variable {s : Session} {parser : Parser} {reported code length : Nat} {chunked sized : Bool} {headers : List Header}
  {header : Header}

/-- A header line, by what its value makes of the parser. -/
theorem reads_line (line : s.Line parser) (formed : header.WellFormed) (good : Parser → Prop)
    (value : ∀ index headerState, headerState.inField → Named (toLowerCase header.name) index headerState →
      (∀ c rest, toLowerCase header.name = c :: rest → ∃ n, fieldLoop
          { parser with index := 0, state := .headerField, headerState := fieldStart c } rest =
        some ({ parser with index, state := .headerField, headerState }, n)) →
      ∀ ch rest, header.value = ch :: rest → ∃ start next : Parser,
        (∀ n response, onHeaderValueStart
            (Session.at ⟨{ parser with index, headerState, state := .headerValueDiscardWs }, response⟩ n).unmarked ch =
          .next ((Session.at ⟨start, response⟩ n).marking .headerValue []) 0) ∧
        InValue start start.headerState ∧ rest.foldlM takeChar start = some next ∧ good next) :
    ∃ next, good next ∧ InValue next next.headerState ∧ Reads s header.text
      ⟨{ next with state := .headerValueLws },
        (s.response.setHeaderField header.name).setHeaderValue header.value⟩ := by
  obtain ⟨index, headerState, inField, named, looped, reads⟩ := reads_name line formed.named formed.name
  rw [← toLowerCase_eq_token formed.name] at named looped
  obtain ⟨ch, rest, split⟩ := List.exists_cons_of_ne_nil formed.filled
  obtain ⟨start, next, started, here, taken, holds⟩ := value index headerState inField named looped ch rest split
  have allowed := formed.value
  have starts := formed.starts
  rw [split] at allowed starts
  obtain ⟨⟨plain, notEnd⟩, inRest⟩ := List.forall_mem_cons.mp allowed
  have running : (s.response.setHeaderField header.name).isMessageCompleted = false := line.ok.running
  obtain ⟨there, reads'⟩ := reads_valueRest here running inRest taken [ch]
  have ready : Session.Ready ⟨{ parser with index, headerState, state := .headerValueDiscardWs },
      s.response.setHeaderField header.name⟩ := ⟨line.ready.ok, line.ready.bounded, running⟩
  have first := reads_valueFirst ready rfl (starts ch rfl) notEnd fun n => started n _
  have whole := reads.trans ((first.cons reads').trans (reads_valueEnd there running _))
  refine ⟨next, holds, there, ?_⟩
  rw [Header.text, split, List.append_assoc]
  exact whole

/-- Behind a line whose value has left `next`. -/
theorem atLine_of_read {next : Parser} (here : InValue next next.headerState)
    (framing : Parser.Framing { next with flags := next.flags.withHeader next.headerState }
      code length chunked sized) {response : HttpResponse} (held : response = responseWith reported headers) :
    AtLine ⟨{ next with state := .headerValueLws },
      (response.setHeaderField header.name).setHeaderValue header.value⟩ reported code length chunked sized
      (headers ++ [header]) := by
  subst held
  refine ⟨responseWith_append reported headers header, _, line_lws ⟨here.ok, here.bounded, rfl⟩ rfl, ?_⟩
  exact ⟨framing.ok, framing.statusCode, framing.contentLength, framing.chunked, framing.sized, framing.upgrade,
    framing.trailing, framing.skipbody⟩

theorem reads_plainLine (at' : AtLine s reported code length chunked sized headers) (formed : header.WellFormed)
    (plain : header.framing = false) :
    ∃ t, Reads s header.text t ∧ AtLine t reported code length chunked sized (headers ++ [header]) := by
  obtain ⟨held, parser, line, framing⟩ := at'
  simp only [Header.framing, List.mem_cons, List.not_mem_nil, or_false, decide_eq_false_iff_not, not_or] at plain
  obtain ⟨notLength, notEncoding, notUpgrade⟩ := plain
  obtain ⟨next, ⟨connecting, framing'⟩, here, reads⟩ := reads_line line formed
    (fun next => next.headerState.connecting ∧ next.Framing code length chunked sized)
    fun index headerState inField named _ ch rest _ => by
      obtain ⟨headerState', connecting, started⟩ := onHeaderValueStart_plain
        { parser with index, headerState, state := .headerValueDiscardWs } ch inField
        ⟨fun same => notLength (by rw [show headerState = _ from same] at named; exact named),
          fun same => notEncoding (by rw [show headerState = _ from same] at named; exact named),
          fun same => notUpgrade (by rw [show headerState = _ from same] at named; exact named)⟩
      obtain ⟨next, taken, good⟩ := takeChars_connecting
        { parser with index := 0, state := .headerValue, headerState := headerState' } connecting
        ⟨framing.ok, framing.statusCode, framing.contentLength, framing.chunked, framing.sized, framing.upgrade,
          framing.trailing, framing.skipbody⟩ rest
      exact ⟨_, next, started, ⟨line.ready.ok, line.ready.bounded, rfl, HeaderState.connecting.inValue connecting⟩,
        taken, good⟩
  refine ⟨_, reads, atLine_of_read here ?_ held⟩
  obtain ⟨ok, status, cl, ck, sz, up, tr, sk⟩ := framing'
  cases state : next.headerState <;> rw [state] at connecting <;>
    first | exact ⟨ok, status, cl, ck, sz, up, tr, sk⟩ | cases connecting

/-- The digits of a length behind its first. -/
theorem takeChars_digits {digits : Bytes} (here : parser.headerState = .contentLength)
    (all : ∀ c ∈ digits, isDigit c) (small : digitsFrom parser.contentLength digits < 2147483648) :
    digits.foldlM takeChar parser =
      some { parser with contentLength := digitsFrom parser.contentLength digits } := by
  induction digits generalizing parser with
  | nil => rfl
  | cons c rest ih =>
      obtain ⟨digit, digits⟩ := List.forall_mem_cons.mp all
      have below : 10 * parser.contentLength + (c.toNat - 48) < 2147483648 :=
        (le_digitsFrom _ rest).trans_lt small
      have notBlank : c ≠ space := by
        rintro rfl
        exact absurd digit (by decide)
      have room : ¬ (ullongMax - 10) / 10 < parser.contentLength := by
        dsimp only [ullongMax]
        omega
      have taken : takeChar parser c =
          some { parser with contentLength := 10 * parser.contentLength + (c.toNat - 48) } := by
        unfold takeChar valueChar
        rw [here]
        dsimp only
        rw [if_neg notBlank, if_neg (by rw [show isNum c = true from digit]; decide), if_neg room, Nat.mul_comm,
          ← here]
        rfl
      rw [List.foldlM_cons, taken]
      exact ih here digits small

theorem reads_sizedLine (at' : AtLine s reported code ullongMax false false headers) (formed : header.WellFormed)
    {n : Nat} (small : n < 2147483648)
    (named : toLowerCase header.name = str "content-length") (value : header.value = decimal n) :
    ∃ t, Reads s header.text t ∧ AtLine t reported code n false true (headers ++ [header]) := by
  obtain ⟨held, parser, line, framing⟩ := at'
  obtain ⟨next, ⟨state, framing'⟩, here, reads⟩ := reads_line line formed
    (fun next => next.headerState = .contentLength ∧ next.Framing code n false true)
    fun index headerState inField _ looped ch rest split => by
      obtain ⟨k, looped⟩ := looped 99 (str "ontent-length") (by rw [named]; decide)
      have state : headerState = .contentLength := by
        have closed : fieldLoop { parser with index := 0, state := .headerField, headerState := .c }
            (str "ontent-length") =
          some ({ parser with index := 13, state := .headerField, headerState := .contentLength }, 13) := rfl
        have same := Option.some.inj (looped.symm.trans closed)
        exact congrArg (fun ended => ended.1.headerState) same
      subst state
      have all : ∀ c ∈ header.value, isDigit c := by
        rw [value]
        exact fun c there => isDigit_of_mem_decimal there
      have number : digitsFrom 0 header.value = n := by
        rw [value]
        exact digitsValue_decimal n
      rw [split] at all number
      obtain ⟨digit, digits⟩ := List.forall_mem_cons.mp all
      have number' : digitsFrom (digitOf ch) rest = n := by
        rw [← number, digitsFrom, digitsFrom, List.foldl_cons, Nat.mul_zero, Nat.zero_add]
        rfl
      have notSized : ¬ parser.flags.contentlength = true := by
        rw [framing.sized]
        decide
      refine ⟨{ parser with
        index := 0, state := .headerValue, headerState := .contentLength
        flags := { parser.flags with contentlength := true }, contentLength := digitOf ch }, _, fun n response =>
        (if_neg (by rw [show isNum ch = true from digit]; decide)).trans (if_neg notSized),
        ⟨line.ready.ok, ?_, rfl, rfl⟩, takeChars_digits rfl digits (number'.symm ▸ small), rfl, ?_⟩
      · exact (digitOf_le ch digit).trans (by decide)
      · exact ⟨framing.ok, framing.statusCode, number', framing.chunked, rfl, framing.upgrade, framing.trailing,
          framing.skipbody⟩
  refine ⟨_, reads, atLine_of_read here ?_ held⟩
  rw [state]
  exact ⟨framing'.ok, framing'.statusCode, framing'.contentLength, framing'.chunked, framing'.sized,
    framing'.upgrade, framing'.trailing, framing'.skipbody⟩

theorem map_lower_of_toLowerCase {text word : Bytes} (same : toLowerCase text = word)
    (letters : word.all fun c => 97 ≤ c && c ≤ 122) : text.map lower = word := by
  subst same
  refine List.map_congr_left fun ch there => (tables ch).2.2.1 ?_
  exact List.all_eq_true.mp letters _ (List.mem_map_of_mem there)

/-- The rest of the value `chunked` behind the character at `index`. -/
theorem takeChars_chunked (parser : Parser) {rest : Bytes} (filled : rest ≠ []) (index : Nat)
    (word : rest.map lower = (str "chunked").drop (index + 1)) :
    rest.foldlM takeChar { parser with index, headerState := .matchingTransferEncodingChunked } =
      some { parser with index := 6, headerState := .transferEncodingChunked } := by
  have seven : (str "chunked").length = 7 := by decide
  induction rest generalizing index with
  | nil => exact absurd rfl filled
  | cons ch rest ih =>
      have inside : index + 1 < (str "chunked").length := by
        by_contra outside
        rw [List.drop_of_length_le (Nat.not_lt.mp outside)] at word
        cases word
      rw [List.map_cons, List.drop_eq_getElem_cons inside] at word
      obtain ⟨here, word⟩ := List.cons.inj word
      have step : takeChar { parser with index, headerState := .matchingTransferEncodingChunked } ch =
          some { parser with
            index := index + 1
            headerState := if index + 1 = 6 then .transferEncodingChunked else .matchingTransferEncodingChunked } := by
        unfold takeChar valueChar matching
        dsimp only
        rw [here, List.getD_eq_getElem _ _ inside, if_neg (by simp; omega), seven]
      rw [List.foldlM_cons, step, Option.bind_eq_bind, Option.bind_some]
      by_cases last : index + 1 = 6
      · rw [if_pos last]
        have behind : rest = [] := by
          rw [last] at word
          exact List.map_eq_nil_iff.mp word
        rw [behind, last]
        rfl
      · rw [if_neg last]
        refine ih ?_ _ word
        rintro rfl
        have := congrArg List.length word
        rw [List.length_drop, seven] at this
        simp at this
        omega

theorem reads_chunkedLine (at' : AtLine s reported code ullongMax false false headers) (formed : header.WellFormed)
    (named : toLowerCase header.name = str "transfer-encoding")
    (value : toLowerCase header.value = str "chunked") :
    ∃ t, Reads s header.text t ∧ AtLine t reported code ullongMax true false (headers ++ [header]) := by
  obtain ⟨held, parser, line, framing⟩ := at'
  obtain ⟨next, ⟨state, framing'⟩, here, reads⟩ := reads_line line formed
    (fun next => next.headerState = .transferEncodingChunked ∧ next.Framing code ullongMax false false)
    fun index headerState inField _ looped ch rest split => by
      obtain ⟨k, looped⟩ := looped 116 (str "ransfer-encoding") (by rw [named]; decide)
      have state : headerState = .transferEncoding := by
        have closed : fieldLoop
            { parser with index := 0, state := .headerField, headerState := .matchingTransferEncoding }
            (str "ransfer-encoding") =
          some ({ parser with index := 16, state := .headerField, headerState := .transferEncoding }, 16) := rfl
        have same := Option.some.inj (looped.symm.trans closed)
        exact congrArg (fun ended => ended.1.headerState) same
      subst state
      have lowered := map_lower_of_toLowerCase value (by decide)
      rw [split, List.map_cons] at lowered
      obtain ⟨c, word⟩ := List.cons.inj (lowered.trans (by decide : str "chunked" = 99 :: str "hunked"))
      have filled : rest ≠ [] := by
        rintro rfl
        exact absurd word (by decide)
      have started : ∀ n response, onHeaderValueStart (Session.at
            ⟨{ parser with index, headerState := .transferEncoding, state := .headerValueDiscardWs }, response⟩
            n).unmarked ch =
          .next ((Session.at ⟨{ parser with
            index := 0, state := .headerValue, headerState := .matchingTransferEncodingChunked }, response⟩
            n).marking .headerValue []) 0 := fun n response => by
        unfold onHeaderValueStart
        dsimp only
        rw [c]
        rfl
      exact ⟨_, _, started, ⟨line.ready.ok, line.ready.bounded, rfl, rfl⟩, takeChars_chunked { parser with state := .headerValue } filled 0 word, rfl,
        framing.ok, framing.statusCode, framing.contentLength, framing.chunked, framing.sized, framing.upgrade,
        framing.trailing, framing.skipbody⟩
  refine ⟨_, reads, atLine_of_read here ?_ held⟩
  rw [state]
  exact ⟨framing'.ok, framing'.statusCode, framing'.contentLength, rfl, framing'.sized,
    framing'.upgrade, framing'.trailing, framing'.skipbody⟩

theorem reads_plainLines (at' : AtLine s reported code length chunked sized headers) (more : List Header)
    (formed : ∀ header ∈ more, header.WellFormed) (plain : ∀ header ∈ more, header.framing = false) :
    ∃ t, Reads s (more.flatMap Header.text) t ∧ AtLine t reported code length chunked sized (headers ++ more) := by
  induction more generalizing s headers with
  | nil => exact ⟨s, Reads.nil, by rwa [List.append_nil]⟩
  | cons header rest ih =>
      obtain ⟨formedHere, formedRest⟩ := List.forall_mem_cons.mp formed
      obtain ⟨plainHere, plainRest⟩ := List.forall_mem_cons.mp plain
      obtain ⟨t, first, behind⟩ := reads_plainLine at' formedHere plainHere
      obtain ⟨u, reads, behind⟩ := ih behind formedRest plainRest
      rw [List.append_assoc] at behind
      exact ⟨u, first.trans reads, behind⟩

end Lines

/-! ## The head -/

theorem reads_statusLine {code : Nat} {reason : Bytes} (small : code ≤ 999)
    (inside : ∀ ch ∈ reason, ¬ lineEnd ch) :
    ∃ t, Reads {} (str "HTTP/1.1 " ++ decimal code ++ [space] ++ reason ++ crlf) t ∧
      AtLine t (reported code reason) code ullongMax false false [] := by
  have whole := (reads_version.trans (reads_statusCode small)).trans (reads_reason inside)
  refine ⟨_, by simpa [List.append_assoc] using whole, rfl, _, line_start ⟨rfl, le_rfl, rfl⟩ rfl, ?_⟩
  exact ⟨rfl, rfl, rfl, rfl, rfl, rfl, rfl, rfl⟩

/-- The lines before, at and behind the one that announces the payload. -/
theorem reads_around {s : Session} {reported code length : Nat} {chunked sized : Bool} {before after : List Header}
    {header : Header} (start : AtLine s reported code ullongMax false false [])
    (formed : ∀ other ∈ before ++ header :: after, other.WellFormed)
    (plain : ∀ other ∈ before ++ after, other.framing = false)
    (middle : ∀ t, AtLine t reported code ullongMax false false before → header.WellFormed →
      ∃ u, Reads t header.text u ∧ AtLine u reported code length chunked sized (before ++ [header])) :
    ∃ t, Reads s ((before ++ header :: after).flatMap Header.text) t ∧
      AtLine t reported code length chunked sized (before ++ header :: after) := by
  obtain ⟨formedBefore, formedBehind⟩ := List.forall_mem_append.mp formed
  obtain ⟨formedHere, formedAfter⟩ := List.forall_mem_cons.mp formedBehind
  obtain ⟨plainBefore, plainAfter⟩ := List.forall_mem_append.mp plain
  obtain ⟨t, reads, behind⟩ := reads_plainLines start before formedBefore plainBefore
  obtain ⟨u, reads', behind'⟩ := middle t behind formedHere
  obtain ⟨v, reads'', behind''⟩ := reads_plainLines behind' after formedAfter plainAfter
  refine ⟨v, ?_, by rwa [List.append_assoc] at behind''⟩
  rw [List.flatMap_append, List.flatMap_cons]
  exact reads.trans (reads'.trans reads'')

/-- What the head of a reply has said about its body. -/
def Payload.Announced (payload : Payload) (length : Nat) (chunked sized : Bool) : Prop :=
  match payload with
  | .sized body => length = body.length ∧ chunked = false ∧ sized = true
  | .chunked _ => length = ullongMax ∧ chunked = true ∧ sized = false
  | .untilClose _ => length = ullongMax ∧ chunked = false ∧ sized = false

theorem reads_headers {reply : Reply} (formed : reply.WellFormed) :
    ∃ t length chunked sized, Reads {} (str "HTTP/1.1 " ++ decimal reply.statusCode ++ [space] ++ reply.reason ++
        crlf ++ reply.headers.flatMap Header.text) t ∧
      AtLine t (reported reply.statusCode reply.reason) reply.statusCode length chunked sized reply.headers ∧
      reply.payload.Announced length chunked sized := by
  obtain ⟨s, status, start⟩ := reads_statusLine formed.code formed.reason
  have announced := formed.announced
  have bound := formed.payload
  unfold Reply.Announced at announced
  cases payload : reply.payload with
  | untilClose body =>
      rw [payload] at announced
      obtain ⟨t, reads, behind⟩ := reads_plainLines start reply.headers formed.headers announced
      exact ⟨t, _, _, _, status.trans reads, behind, rfl, rfl, rfl⟩
  | sized body =>
      rw [payload] at announced bound
      obtain ⟨before, header, after, split, ⟨named, value⟩, plain⟩ := announced
      rw [split]
      obtain ⟨t, reads, behind⟩ := reads_around start (split ▸ formed.headers) plain
        fun t there formedHere => reads_sizedLine there formedHere bound named value
      exact ⟨t, _, _, _, status.trans reads, behind, rfl, rfl, rfl⟩
  | chunked chunks =>
      rw [payload] at announced
      obtain ⟨before, header, after, split, ⟨named, value⟩, plain⟩ := announced
      rw [split]
      obtain ⟨t, reads, behind⟩ := reads_around start (split ▸ formed.headers) plain
        fun t there formedHere => reads_chunkedLine there formedHere named value
      exact ⟨t, _, _, _, status.trans reads, behind, rfl, rfl, rfl⟩

end DecadaEmbedded.Http
