import DecadaEmbedded.Http.ReplyBody
import Mathlib.Data.Bool.AllAny

/-!
# What the client gets of a reply

A server's reply, cut into segments anywhere, gives the client the status code, the headers and the body
that the server meant.
-/

namespace DecadaEmbedded.Http
open Conversions Library

/-! ## The length that the client looks up -/

section Lookup
variable {code : Nat} {headers : List Header}

theorem Header.WellFormed.strcicmp {header : Header} (formed : header.WellFormed) (word : Bytes)
    (nulFree : 0 ∉ word) (lowered : toLowerCase word = word) :
    strcicmp header.name word = decide (toLowerCase header.name = word) := by
  have named : cstr header.name = header.name := cstr_of_nulFree fun zero => formed.name 0 zero (by decide)
  rw [Http.strcicmp, named, cstr_of_nulFree nulFree, lowered]

theorem findIdx?_plain (formed : ∀ header ∈ headers, header.WellFormed)
    (other : ∀ header ∈ headers, toLowerCase header.name ≠ str "content-length") :
    (headers.map Header.name).findIdx? (strcicmp · (str "content-length")) = none := by
  rw [List.findIdx?_eq_none_iff]
  intro name there
  obtain ⟨header, member, rfl⟩ := List.mem_map.mp there
  rw [(formed header member).strcicmp _ (by decide) (by decide)]
  exact decide_eq_false (other header member)

theorem contentLength_none (formed : ∀ header ∈ headers, header.WellFormed)
    (other : ∀ header ∈ headers, toLowerCase header.name ≠ str "content-length") :
    (responseWith code headers).contentLength = none := by
  unfold HttpResponse.contentLength
  rw [show (responseWith code headers).headerFields = headers.map Header.name from rfl, findIdx?_plain formed other]

theorem contentLength_some {before after : List Header} {header : Header}
    (formed : ∀ other ∈ before ++ header :: after, other.WellFormed)
    (other : ∀ other ∈ before, toLowerCase other.name ≠ str "content-length")
    (named : toLowerCase header.name = str "content-length") :
    (responseWith code (before ++ header :: after)).contentLength = some header.value := by
  obtain ⟨formedBefore, formedBehind⟩ := List.forall_mem_append.mp formed
  have found : strcicmp header.name (str "content-length") = true := by
    rw [(List.forall_mem_cons.mp formedBehind).1.strcicmp _ (by decide) (by decide)]
    exact decide_eq_true named
  unfold HttpResponse.contentLength
  rw [show (responseWith code (before ++ header :: after)).headerFields =
    before.map Header.name ++ header.name :: after.map Header.name by simp [responseWith],
    List.findIdx?_append, findIdx?_plain formedBefore other, List.findIdx?_cons, if_pos found]
  simp [responseWith]

end Lookup

theorem toUint32_atoi_decimal {n : Nat} (small : n < 2147483648) :
    toUint32 (atoi (cstr (decimal n))) = n := by
  obtain ⟨c, rest, text, value⟩ := scan_decimalInt n
  have nulFree := nulFree_decimalInt n
  rw [decimalInt_natCast] at text nulFree
  rw [cstr_of_nulFree nulFree, atoi, text, value, toUint32]
  unfold intMin intMax
  omega

theorem Header.ne_contentLength {header : Header} (plain : header.framing = false) :
    toLowerCase header.name ≠ str "content-length" := fun named => by
  rw [Header.framing, named] at plain
  exact absurd plain (by decide)

def Payload.expectedContentLength : Payload → Nat
  | .sized body => body.length
  | _ => 0

theorem setHeadersComplete_reply {reply : Reply} (formed : reply.WellFormed) :
    (responseWith (reported reply.statusCode reply.reason) reply.headers).setHeadersComplete =
      { responseWith (reported reply.statusCode reply.reason) reply.headers with
        expectedContentLength := reply.payload.expectedContentLength } := by
  have announced := formed.announced
  have headers := formed.headers
  have bound := formed.payload
  unfold HttpResponse.setHeadersComplete
  unfold Reply.Announced at announced
  cases payload : reply.payload with
  | untilClose body =>
      rw [payload] at announced
      rw [contentLength_none headers fun header there => Header.ne_contentLength (announced header there)]
      rfl
  | chunked chunks =>
      rw [payload] at announced
      obtain ⟨before, header, after, split, ⟨named, value⟩, plain⟩ := announced
      rw [contentLength_none headers]
      · rfl
      · rw [split]
        intro other there
        rcases List.mem_append.mp there with left | right
        · exact Header.ne_contentLength (plain other (List.mem_append_left _ left))
        · rcases List.mem_cons.mp right with rfl | behind
          · rw [named]
            decide
          · exact Header.ne_contentLength (plain other (List.mem_append_right _ behind))
  | sized body =>
      rw [payload] at announced bound
      obtain ⟨before, header, after, split, ⟨named, value⟩, plain⟩ := announced
      rw [split] at headers ⊢
      rw [contentLength_some headers (fun other there =>
        Header.ne_contentLength (plain other (List.mem_append_left _ there))) named]
      dsimp only
      rw [value, toUint32_atoi_decimal bound]
      rfl

/-! ## The body that the response collects -/

theorem setBody_room {response : HttpResponse} {x : Bytes}
    (room : response.isChunked ∨ response.expectedContentLength = 0 ∨
      response.block = none ∧ response.body = [] ∧ x.length ≤ response.expectedContentLength) (filled : x ≠ []) :
    ∃ isChunked block, response.setBody x = { response with isChunked, block, body := response.body ++ x } := by
  by_cases grows : response.isChunked ∨ response.expectedContentLength = 0
  · exact ⟨_, _, HttpResponse.setBody_growing (grows.imp_right (⟨·, filled⟩))⟩
  · obtain ⟨plain, sized⟩ := not_or.mp grows
    obtain ⟨fresh, empty, fits⟩ := room.resolve_left plain |>.resolve_left sized
    refine ⟨response.isChunked, some (response.block.getD response.expectedContentLength), ?_⟩
    rw [HttpResponse.setBody_sized (by simpa using plain) sized x]
    simp [fresh, empty, Nat.not_lt.mpr fits]

theorem setBody_chunks (chunks : List Bytes) (filled : ∀ chunk ∈ chunks, chunk ≠ []) (response : HttpResponse) :
    ∃ isChunked block, chunks.foldl (fun response chunk => response.setChunked.setBody chunk) response =
      { response with isChunked, block, body := response.body ++ chunks.flatten } := by
  induction chunks generalizing response with
  | nil => exact ⟨response.isChunked, response.block, by rw [List.flatten_nil, List.append_nil]; rfl⟩
  | cons chunk rest ih =>
      obtain ⟨here, filled⟩ := List.forall_mem_cons.mp filled
      have growing : response.setChunked.isChunked = true := rfl
      obtain ⟨isChunked, block, first⟩ := setBody_room (.inl growing) here
      obtain ⟨isChunked', block', more⟩ := ih filled (response.setChunked.setBody chunk)
      refine ⟨isChunked', block', ?_⟩
      rw [List.foldl_cons, more, first, List.flatten_cons, ← List.append_assoc]
      rfl

/-! ## The reply as a whole -/

/-- A response that says what the reply does. -/
structure HttpResponse.Answers (response : HttpResponse) (reply : Reply) : Prop where
  statusCode : response.statusCode = reported reply.statusCode reply.reason
  headerFields : response.headerFields = reply.headers.map Header.name
  headerValues : response.headerValues = reply.headers.map Header.value
  body : response.body = reply.payload.body
  isMessageCompleted : response.isMessageCompleted = true
  inside : response.outside = false

/-- The response behind the head. -/
def Reply.response (reply : Reply) : HttpResponse :=
  { responseWith (reported reply.statusCode reply.reason) reply.headers with
    expectedContentLength := reply.payload.expectedContentLength }

theorem answers_of_body {reply : Reply} {response : HttpResponse}
    (held : ∃ isChunked block, response = { reply.response with isChunked, block, body := reply.payload.body }) :
    response.setMessageComplete.Answers reply := by
  obtain ⟨isChunked, block, rfl⟩ := held
  exact ⟨rfl, rfl, rfl, rfl, rfl, rfl⟩

/-- The head of a reply, one byte at a time. -/
theorem oneByOne_head {reply : Reply} (formed : reply.WellFormed) :
    ∃ parser length chunked sized, parser.Framing reply.statusCode length chunked sized ∧
      reply.payload.Announced length chunked sized ∧ parser.nread = 0 ∧ parser.upgrade = false ∧
      oneByOne {} reply.head = some (if chunked = false ∧ length = 0 then Session.complete ⟨parser, reply.response⟩
        else ⟨{ parser with state := bodyState length chunked }, reply.response⟩) := by
  obtain ⟨t, length, chunked, sized, reads, line, announced⟩ := reads_headers formed
  have short := formed.short
  have text : reply.head = (str "HTTP/1.1 " ++ decimal reply.statusCode ++ [space] ++ reply.reason ++ crlf ++
    reply.headers.flatMap Header.text) ++ crlf := rfl
  rw [text, List.length_append, show crlf.length = 2 from rfl] at short
  obtain ⟨n, small, read⟩ := reads 0 (by omega)
  have apart : (chunked && sized) = false := by
    revert announced
    cases reply.payload <;> rintro ⟨-, rfl, rfl⟩ <;> rfl
  have eof : chunked = false → length = ullongMax →
      reply.statusCode / 100 ≠ 1 ∧ reply.statusCode ≠ 204 ∧ reply.statusCode ≠ 304 := by
    intro plain endless
    have bound := formed.payload
    cases payload : reply.payload with
    | untilClose body => rwa [payload] at bound
    | sized body =>
        rw [payload] at bound announced
        rw [announced.1] at endless
        dsimp only at bound
        rw [endless] at bound
        exact absurd bound (by decide)
    | chunked chunks =>
        rw [payload] at announced
        rw [announced.2.1] at plain
        cases plain
  obtain ⟨parser, framing, fresh, upgrade, read'⟩ := headEnd line apart eof (n := n) (by omega)
  refine ⟨parser, length, chunked, sized, framing, announced, fresh, upgrade, ?_⟩
  rw [setHeadersComplete_reply formed] at read'
  rw [text, oneByOne_append, show ({} : Session) = Session.at {} 0 from rfl, read, Option.bind_some]
  exact read'

theorem Payload.Announced.le_ullongMax {reply : Reply} (formed : reply.WellFormed) {length : Nat} {chunked sized : Bool}
    (announced : reply.payload.Announced length chunked sized) : length ≤ ullongMax := by
  have bound := formed.payload
  cases payload : reply.payload with
  | sized body =>
      rw [payload] at announced bound
      rw [announced.1]
      exact bound.le.trans (by decide)
  | chunked chunks | untilClose body =>
      rw [payload] at announced
      exact announced.1.le

/-- The whole of a reply, one byte at a time. -/
theorem oneByOne_reply {reply : Reply} (formed : reply.WellFormed) :
    ∃ final response, oneByOne {} reply.text = some final ∧ finish final = some response ∧
      response.Answers reply ∧ ((∃ body, reply.payload = .untilClose body) ∨ final.response.isMessageCompleted) := by
  obtain ⟨parser, length, chunked, sized, framing, announced, fresh, upgrade, read⟩ := oneByOne_head formed
  have completed (parser : Parser) {response : HttpResponse} (text : oneByOne {} reply.text =
      some ⟨parser, response.setMessageComplete⟩) (held : ∃ isChunked block,
        response = { reply.response with isChunked, block, body := reply.payload.body }) :
      ∃ final response, oneByOne {} reply.text = some final ∧ finish final = some response ∧
        response.Answers reply ∧
          ((∃ body, reply.payload = .untilClose body) ∨ final.response.isMessageCompleted) := by
    have answers := answers_of_body held
    refine ⟨_, _, text, finish_eq _, ?_, .inr rfl⟩
    split_ifs <;> exact answers
  have bound := formed.payload
  have ready (state : State) : Session.Ready ⟨{ parser with state }, reply.response⟩ :=
    ⟨framing.ok, by rw [framing.contentLength]; exact Payload.Announced.le_ullongMax formed announced, rfl⟩
  have text : oneByOne {} reply.text = (oneByOne {} reply.head).bind fun behind =>
    oneByOne behind reply.payload.text := by rw [Reply.text, oneByOne_append]
  rw [read, Option.bind_some] at text
  cases payload : reply.payload with
  | untilClose body =>
      rw [payload] at announced text
      obtain ⟨rfl, rfl, rfl⟩ := announced
      rw [if_neg (by decide), bodyState, if_neg (by decide), if_pos rfl] at text
      have body' : ∃ response, oneByOne ⟨{ parser with state := .bodyIdentityEof }, reply.response⟩ body =
            some ⟨{ parser with state := .bodyIdentityEof }, response⟩ ∧
          ∃ isChunked block, response = { reply.response with isChunked, block, body := body } := by
        by_cases empty : body = []
        · subst empty
          exact ⟨_, rfl, false, none, rfl⟩
        · obtain ⟨response, read', -, whole, -⟩ := oneByOne_body
            (fun _ => { parser with state := .bodyIdentityEof }) body (ready .bodyIdentityEof).running
            fun _ _ response ch running =>
              byte_eof (fun _ => ⟨(ready .bodyIdentityEof).bounded, trivial⟩) framing.ok running rfl
          have growing : reply.response.expectedContentLength = 0 := by
            rw [Reply.response, payload]
            rfl
          exact ⟨response, read', whole empty ▸ setBody_room (.inr (.inl growing)) empty⟩
      obtain ⟨response, read', held⟩ := body'
      rw [Payload.text, read'] at text
      exact ⟨_, _, text, (finish_eq _).trans (congrArg some (if_pos ⟨framing.ok, rfl⟩)),
        answers_of_body (payload ▸ held), .inl ⟨body, rfl⟩⟩
  | sized body =>
      rw [payload] at announced bound text
      obtain ⟨rfl, rfl, rfl⟩ := announced
      by_cases empty : body = []
      · subst empty
        rw [if_pos ⟨rfl, rfl⟩, Payload.text] at text
        exact payload ▸ completed _ text ⟨false, none, by rw [payload]; rfl⟩
      · have filled : body.length ≠ 0 := fun none => empty (List.eq_nil_of_length_eq_zero none)
        have short : body.length < ullongMax := lt_trans bound (by decide)
        rw [if_neg fun both => filled both.2, bodyState, if_neg (by decide), if_neg short.ne, Payload.text] at text
        obtain ⟨next, read'⟩ := oneByOne_sized (ready .bodyIdentity) rfl upgrade empty framing.contentLength short
        rw [read'] at text
        have room : body.length ≤ reply.response.expectedContentLength := by
          rw [Reply.response, payload]
          exact le_rfl
        have held := setBody_room (.inr (.inr ⟨rfl, rfl, room⟩)) empty
        exact payload ▸ completed _ text (by rw [payload]; exact held)
  | chunked chunks =>
      rw [payload] at announced bound text
      obtain ⟨rfl, rfl, rfl⟩ := announced
      rw [if_neg (by decide), bodyState, if_pos rfl, show Payload.text (.chunked chunks) =
        chunks.flatMap chunkText ++ (str "0" ++ crlf ++ crlf) by simp [Payload.text], oneByOne_append] at text
      obtain ⟨contentLength, bounded, read'⟩ :=
        oneByOne_chunkTexts (ready .chunkSizeStart) rfl fresh framing.chunked bound
      obtain ⟨isChunked, block, collected⟩ :=
        setBody_chunks chunks (fun chunk there => (bound chunk there).1) reply.response
      rw [read', Option.bind_some, collected] at text
      obtain ⟨next, ends⟩ := oneByOne_lastChunk
        (s := ⟨{ parser with state := .chunkSizeStart, contentLength }, { reply.response with
          isChunked, block, body := chunks.flatten }⟩)
        ⟨framing.ok, bounded, rfl⟩ rfl fresh framing.chunked upgrade
      exact payload ▸ completed _ (text.trans ends) ⟨true, block, by rw [payload]; rfl⟩

theorem receive_reply {reply : Reply} (formed : reply.WellFormed) (arrivals : Arrivals)
    (sent : arrivals.segments.flatten = reply.text)
    (closed : ∀ body, reply.payload = .untilClose body → arrivals.ending = 0) :
    ∃ response, receive {} arrivals.ending arrivals.segments = some (.ok response) ∧ response.Answers reply := by
  obtain ⟨final, response, accepted, finished, answers, completed⟩ := oneByOne_reply formed
  obtain ⟨statusMessage, received⟩ := receive_of_oneByOne settled_init rfl resume_init (Session.Like.refl _)
    settled_init rfl arrivals.ending arrivals.segments arrivals.filled (sent ▸ accepted)
  have ends : final.response.isMessageCompleted ∨ ¬ arrivals.ending < 0 :=
    completed.symm.imp_right fun ⟨body, payload⟩ => by
      rw [closed body payload]
      exact lt_irrefl 0
  rw [outcome, if_pos ends, finished] at received
  exact ⟨{ response with statusMessage }, received, answers.statusCode, answers.headerFields, answers.headerValues,
    answers.body, answers.isMessageCompleted, answers.inside⟩

/-- However the network cuts a reply up, the client gets its headers, its body, and its status code if it
names a reason. -/
theorem createHttpResponse_reply {reply : Reply} (formed : reply.WellFormed) (arrivals : Arrivals)
    (sent : arrivals.segments.flatten = reply.text)
    (closed : ∀ body, reply.payload = .untilClose body → arrivals.ending = 0) :
    ∃ response, createHttpResponse arrivals = some (.ok response) ∧ response.Answers reply :=
  receive_reply formed arrivals sent closed

def greeting : Reply where
  statusCode := 200
  reason := str "OK"
  headers := [⟨str "Server", str "here"⟩, ⟨str "transfer-encoding", str "Chunked"⟩]
  payload := .chunked [str "hel", str "lo"]

theorem wellFormed_greeting : greeting.WellFormed := by
  refine ⟨by decide, List.all_iff_forall_prop.mp (by decide), ?_, ?_, by decide, ?_⟩
  · intro header there
    simp only [greeting, List.mem_cons, List.not_mem_nil, or_false] at there
    rcases there with rfl | rfl
    all_goals
      refine ⟨by decide, List.all_iff_forall_prop.mp (by decide), by decide,
        List.all_iff_forall_prop.mp (by decide), fun ch starts => ?_⟩
      obtain rfl := Option.some.inj starts
      decide
  · exact ⟨[⟨str "Server", str "here"⟩], ⟨str "transfer-encoding", str "Chunked"⟩, [], rfl,
      ⟨by decide, by decide⟩, by decide⟩
  · exact (by decide : ∀ chunk ∈ [str "hel", str "lo"], chunk ≠ [] ∧ chunk.length < 4294967296)

def greetingArrivals : Arrivals := ⟨[greeting.text.take 60, greeting.text.drop 60], by decide, 0, le_rfl⟩

theorem flatten_greetingArrivals : greetingArrivals.segments.flatten = greeting.text := by
  rw [greetingArrivals, List.flatten_cons, List.flatten_cons, List.flatten_nil, List.append_nil,
    List.take_append_drop]

theorem createHttpResponse_greeting : ∃ response, createHttpResponse greetingArrivals = some (.ok response) ∧
    response.Answers greeting :=
  createHttpResponse_reply wellFormed_greeting greetingArrivals flatten_greetingArrivals fun _ _ => rfl

end DecadaEmbedded.Http
