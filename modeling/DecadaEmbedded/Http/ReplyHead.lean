import DecadaEmbedded.Http.Reply
import Mathlib.Data.List.GetD

/-!
# Status lines and field names, read one byte at a time

What the status line of a reply and the names of its headers leave in the parser and in the response. The
count of header bytes is kept out of sight: it grows by at most two a byte.
-/

namespace DecadaEmbedded.Http
open Conversions Library

def Session.at (session : Session) (nread : Nat) : Session :=
  ⟨{ session.parser with nread }, session.response⟩

/-- The bytes lead from one session to the other, whatever the count, as long as it has room. -/
def Reads (s : Session) (bytes : Bytes) (t : Session) : Prop :=
  ∀ n, n + 2 * bytes.length ≤ httpMaxHeaderSize →
    ∃ n' ≤ n + 2 * bytes.length, oneByOne (s.at n) bytes = some (t.at n')

namespace Reads
variable {s t u : Session} {x y : Bytes}

theorem nil : Reads s [] s := fun n _ => ⟨n, Nat.le_add_right _ _, rfl⟩

theorem trans (first : Reads s x t) (second : Reads t y u) : Reads s (x ++ y) u := by
  intro n room
  rw [List.length_append] at room ⊢
  obtain ⟨n', small, read⟩ := first n (by omega)
  obtain ⟨n'', small', read'⟩ := second n' (by omega)
  exact ⟨n'', by omega, by rw [oneByOne_append, read, Option.bind_some, read']⟩

theorem cons {ch : UInt8} (first : Reads s [ch] t) (second : Reads t y u) : Reads s (ch :: y) u :=
  first.trans second

end Reads

/-- What every session on the way through a head satisfies. -/
structure Session.Ready (s : Session) : Prop where
  ok : s.parser.httpErrno = .ok
  bounded : s.parser.contentLength ≤ ullongMax
  running : s.response.isMessageCompleted = false

/-- A byte in a state without a mark. -/
theorem reads_byte {s t : Session} {ch : UInt8} (ready : s.Ready) (free : s.parser.state.free)
    (counting : s.parser.state.parsingHeader) {run : Nat → Run}
    (switched : ∀ n, switch (s.at n).unmarked ch [] = .next (run n) 0)
    (flushes : ∀ n, ((run n).advance [ch]).flushed = t.at n) : Reads s [ch] t := by
  intro n room
  rw [List.length_singleton] at room ⊢
  have clean : Run.Clean (s.at n).unmarked := ⟨ready.ok, ready.bounded, rfl⟩
  have settled : (s.at n).Settled := fun _ => ⟨ready.bounded, (clean.invariant_of_free free).sound⟩
  have resumes : (s.at n).resume = (s.at n).unmarked := resume_unmarked fun datum => by
    change resumed s.parser.state datum = none
    revert free
    cases s.parser.state <;> cases datum <;> simp [State.free, resumed]
  have counted : (s.at n).resume.counted = (s.at (n + 1)).unmarked := by
    rw [resumes]
    exact if_pos counting
  refine ⟨n + 1, by omega, ?_⟩
  rw [oneByOne_cons, byte_of_next settled ready.ok ready.running (by
    rw [resumes]
    exact fun _ => by change n + 1 ≤ _; omega) (by rw [counted, switched]), flushes]
  rfl

theorem reads_plain {s t : Session} {ch : UInt8} (ready : s.Ready) (free : s.parser.state.free)
    (counting : s.parser.state.parsingHeader)
    (switched : ∀ n, switch (s.at n).unmarked ch [] = .next (t.at n).unmarked 0) : Reads s [ch] t :=
  reads_byte ready free counting switched fun n => by rw [unmarked_advance, unmarked_flushed]

/-- A byte of a text that is being passed on; `k` counts what its case counts besides. -/
theorem reads_resumed {s t : Session} {ch : UInt8} (datum : Datum) (ready : s.Ready)
    (isSet : (resumed s.parser.state datum).isSome) (sound : s.parser.Sound) {k : Nat} (small : k ≤ 1)
    {run : Nat → Run}
    (switched : ∀ n, n + k ≤ httpMaxHeaderSize → switch ((s.at n).marking datum []) ch [] = .next (run n) 0)
    (flushes : ∀ n, ((run n).advance [ch]).flushed = t.at (n + k)) : Reads s [ch] t := by
  intro n room
  rw [List.length_singleton] at room ⊢
  have counting : s.parser.state.parsingHeader ∧ s.parser.state ≠ .chunkSizeStart := by
    revert isSet
    cases s.parser.state <;> cases datum <;> simp [resumed, State.parsingHeader]
  have settled : (s.at n).Settled := fun _ => ⟨ready.bounded, (Parser.sound_nread counting.2 n).mpr sound⟩
  have resumes : (s.at n).resume = (s.at n).marking datum [] := resume_marking datum isSet
  have counted : (s.at n).resume.counted = (s.at (n + 1)).marking datum [] := by
    rw [resumes]
    exact if_pos counting.1
  refine ⟨n + 1 + k, by omega, ?_⟩
  rw [oneByOne_cons, byte_of_next settled ready.ok ready.running (by
    rw [resumes]
    exact fun _ => by change n + 1 ≤ _; omega) (by rw [counted, switched _ (by omega)]), flushes]
  rfl

/-! ## The status line -/

def statusLine (state : State) (httpMajor httpMinor statusCode : Nat) : Session :=
  ⟨{ state, contentLength := ullongMax, httpMajor, httpMinor, statusCode }, {}⟩

theorem ready_statusLine (state : State) (httpMajor httpMinor statusCode : Nat) :
    (statusLine state httpMajor httpMinor statusCode).Ready := ⟨rfl, le_rfl, rfl⟩

theorem reads_version : Reads {} (str "HTTP/1.1 ") (statusLine .resFirstStatusCode 1 1 0) := by
  have step (state next : State) (major minor major' minor' : Nat) (ch : UInt8) (free : state.free)
      (counting : state.parsingHeader)
      (switched : ∀ n, switch ((statusLine state major minor 0).at n).unmarked ch [] =
        .next ((statusLine next major' minor' 0).at n).unmarked 0) :
      Reads (statusLine state major minor 0) [ch] (statusLine next major' minor' 0) :=
    reads_plain (ready_statusLine _ _ _ _) free counting switched
  have start : Reads {} [72] (statusLine .resH 0 0 0) :=
    reads_plain ⟨rfl, Nat.zero_le _, rfl⟩ rfl rfl fun _ => rfl
  have text : str "HTTP/1.1 " = [72, 84, 84, 80, 47, 49, 46, 49, 32] := by decide
  rw [text]
  exact start.cons <| (step .resH .resHT 0 0 0 0 84 rfl rfl fun _ => rfl).cons <|
    (step .resHT .resHTT 0 0 0 0 84 rfl rfl fun _ => rfl).cons <|
    (step .resHTT .resHTTP 0 0 0 0 80 rfl rfl fun _ => rfl).cons <|
    (step .resHTTP .resFirstHttpMajor 0 0 0 0 47 rfl rfl fun _ => rfl).cons <|
    (step .resFirstHttpMajor .resHttpMajor 0 0 1 0 49 rfl rfl fun _ => rfl).cons <|
    (step .resHttpMajor .resFirstHttpMinor 1 0 1 0 46 rfl rfl fun _ => rfl).cons <|
    (step .resFirstHttpMinor .resHttpMinor 1 0 1 1 49 rfl rfl fun _ => rfl).cons <|
    step .resHttpMinor .resFirstStatusCode 1 1 1 1 32 rfl rfl fun _ => rfl

/-- The number that `digits` after `value` makes. -/
def digitsFrom (value : Nat) (digits : Bytes) : Nat :=
  digits.foldl (fun value c => 10 * value + (c.toNat - 48)) value

theorem le_digitsFrom (value : Nat) (digits : Bytes) : value ≤ digitsFrom value digits := by
  induction digits generalizing value with
  | nil => exact le_rfl
  | cons c rest ih => exact le_trans (by omega) (ih (10 * value + (c.toNat - 48)))

theorem reads_statusDigits (digits : Bytes) (value : Nat) (all : ∀ c ∈ digits, isDigit c)
    (small : digitsFrom value digits ≤ 999) :
    Reads (statusLine .resStatusCode 1 1 value) digits
      (statusLine .resStatusCode 1 1 (digitsFrom value digits)) := by
  induction digits generalizing value with
  | nil => exact Reads.nil
  | cons c rest ih =>
      obtain ⟨digit, digits⟩ := List.forall_mem_cons.mp all
      refine Reads.cons ?_ (ih (10 * value + (c.toNat - 48)) digits small)
      refine reads_plain (ready_statusLine _ _ _ _) rfl rfl fun n => ?_
      have below : value * 10 + digitOf c ≤ 999 := by
        rw [Nat.mul_comm]
        exact (le_digitsFrom _ rest).trans small
      have step : onStatusCode ((statusLine .resStatusCode 1 1 value).at n).unmarked c =
          .next ((statusLine .resStatusCode 1 1 (value * 10 + digitOf c)).at n).unmarked 0 := by
        unfold onStatusCode
        rw [if_neg (by rw [show isNum c = true from digit]; decide)]
        exact if_neg (Nat.not_lt.mpr below)
      rw [Nat.mul_comm] at step
      exact step

theorem reads_statusCode {code : Nat} (small : code ≤ 999) :
    Reads (statusLine .resFirstStatusCode 1 1 0) (decimal code ++ [space])
      (statusLine .resStatusStart 1 1 code) := by
  have all : ∀ c ∈ decimal code, isDigit c := fun c there => isDigit_of_mem_decimal there
  have value : digitsFrom 0 (decimal code) = code := digitsValue_decimal code
  obtain ⟨c, rest, split⟩ := List.exists_cons_of_ne_nil (decimal_ne_nil code)
  rw [split] at all value ⊢
  obtain ⟨digit, digits⟩ := List.forall_mem_cons.mp all
  have rest' : digitsFrom (digitOf c) rest = code := by
    rw [← value, digitsFrom, digitsFrom, List.foldl_cons, Nat.mul_zero, Nat.zero_add]
    rfl
  refine Reads.trans (Reads.cons ?_ (rest' ▸ reads_statusDigits rest (digitOf c) digits (rest' ▸ small))) ?_
  · refine reads_plain (ready_statusLine _ _ _ _) rfl rfl fun n => ?_
    exact if_neg (by rw [show isNum c = true from digit]; decide)
  · exact reads_plain (ready_statusLine _ _ _ _) rfl rfl fun n => rfl

/-- Inside the reason, of which one byte at a time leaves no more than the last. -/
def reasonRead (state : State) (code : Nat) (statusMessage : Bytes) : Session :=
  ⟨{ state, contentLength := ullongMax, httpMajor := 1, httpMinor := 1, statusCode := code },
    { statusCode := code, statusMessage }⟩

theorem ready_reasonRead (state : State) (code : Nat) (message : Bytes) :
    (reasonRead state code message).Ready := ⟨rfl, le_rfl, rfl⟩

theorem reads_reasonRest {code : Nat} (message : Bytes) {rest : Bytes} (inside : ∀ ch ∈ rest, ¬ lineEnd ch) :
    Reads (reasonRead .resStatus code message) (rest ++ crlf) (reasonRead .headerFieldStart code []) := by
  induction rest generalizing message with
  | nil =>
      refine Reads.cons ?_ (reads_plain (ready_reasonRead .resLineAlmostDone code []) rfl rfl fun n => rfl)
      refine reads_resumed .status (ready_reasonRead _ _ _) rfl trivial zero_le_one (fun n _ => rfl) fun n => ?_
      exact unmarked_flushed _
  | cons ch rest ih =>
      obtain ⟨here, inRest⟩ := List.forall_mem_cons.mp inside
      obtain ⟨notCr, notLf⟩ := not_or.mp here
      refine Reads.cons ?_ (ih [ch] inRest)
      refine reads_resumed .status (ready_reasonRead _ _ _) rfl trivial zero_le_one
        (fun n _ => (if_neg notCr).trans (if_neg notLf)) fun n => ?_
      rw [marking_advance, marking_flushed]
      rfl

/-- The status code goes to the response with the reason, so not at all if there is none. -/
def reported (code : Nat) (reason : Bytes) : Nat := if reason = [] then 0 else code

theorem reads_reason {code : Nat} {reason : Bytes} (inside : ∀ ch ∈ reason, ¬ lineEnd ch) :
    Reads (statusLine .resStatusStart 1 1 code) (reason ++ crlf)
      ⟨(statusLine .headerFieldStart 1 1 code).parser, { statusCode := reported code reason }⟩ := by
  cases reason with
  | nil =>
      exact (reads_plain (ready_statusLine _ _ _ _) rfl rfl fun n => rfl).cons
        (reads_plain (ready_statusLine .resLineAlmostDone 1 1 code) rfl rfl fun n => rfl)
  | cons ch rest =>
      obtain ⟨here, inRest⟩ := List.forall_mem_cons.mp inside
      obtain ⟨notCr, notLf⟩ := not_or.mp here
      refine Reads.cons ?_ (reads_reasonRest [ch] inRest)
      refine reads_byte (ready_statusLine _ _ _ _) rfl rfl (fun n => (if_neg notCr).trans (if_neg notLf)) fun n => ?_
      have moved := marking_advance ⟨{ (reasonRead .resStatus code []).parser with nread := n }, {}⟩ .status [] [ch]
      exact (congrArg Run.flushed moved).trans (marking_flushed _ _ _)

/-! ## Field names -/

/-- What the state of a header says of the part of its name, in lower case, that has been read. -/
def Named (name : Bytes) (index : Nat) : HeaderState → Prop
  | .general => True
  | .c => name = str "c" ∧ index = 0
  | .co => name = str "co" ∧ index = 1
  | .con => name = str "con" ∧ index = 2
  | .matchingConnection => name = (str "connection").take (index + 1)
  | .matchingProxyConnection => name = (str "proxy-connection").take (index + 1)
  | .matchingContentLength => name = (str "content-length").take (index + 1)
  | .matchingTransferEncoding => name = (str "transfer-encoding").take (index + 1)
  | .matchingUpgrade => name = (str "upgrade").take (index + 1)
  | .connection => True
  | .contentLength => name = str "content-length"
  | .transferEncoding => name = str "transfer-encoding"
  | .upgrade => name = str "upgrade"
  | _ => False

theorem matching_named {property : HeaderState → Prop} {word name : Bytes} {current matched : HeaderState}
    {index : Nat} {c : UInt8} (real : c ≠ 0) (before : name = word.take (index + 1))
    (goes : name ++ [c] = word.take (index + 1 + 1) → property current)
    (ends : name ++ [c] = word → property matched) (fails : property .general) :
    property (matching word current matched .general (index + 1) c) := by
  unfold matching
  split_ifs with wrong last
  · exact fails
  all_goals
    simp only [Bool.or_eq_true, decide_eq_true_eq, not_or, Nat.not_lt, not_not] at wrong
    obtain ⟨-, found⟩ := wrong
    have inside : index + 1 < word.length := by
      by_contra outside
      rw [List.getD_eq_default _ _ (Nat.not_lt.mp outside)] at found
      exact real found
    have further : name ++ [c] = word.take (index + 1 + 1) := by
      rw [before, found, List.getD_eq_getElem _ _ inside]
      exact List.take_append_getElem inside
  · exact ends (further.trans (List.take_of_length_le (by omega)))
  · exact goes further

theorem fieldChar_named {parser next : Parser} {name : Bytes} {ch : UInt8}
    (named : Named name parser.index parser.headerState) (real : token ch ≠ 0)
    (taken : fieldChar parser ch = some next) : Named (name ++ [token ch]) next.index next.headerState := by
  have notBlank : ch ≠ space := by
    rintro rfl
    exact real (by decide)
  unfold fieldChar at taken
  dsimp only at taken
  cases held : parser.headerState <;> rw [held] at named taken <;> dsimp only at taken
  case general => cases taken; rw [held]; trivial
  case c =>
    cases taken
    obtain ⟨rfl, index⟩ := named
    dsimp only
    split_ifs with same
    · rw [same, index]
      exact ⟨by decide, rfl⟩
    · trivial
  case co =>
    cases taken
    obtain ⟨rfl, index⟩ := named
    dsimp only
    split_ifs with same
    · rw [same, index]
      exact ⟨by decide, rfl⟩
    · trivial
  case con =>
    cases taken
    obtain ⟨rfl, index⟩ := named
    dsimp only
    split_ifs with same same
    · rw [same, index]
      exact (by decide : str "con" ++ [110] = (str "connection").take 4)
    · rw [same, index]
      exact (by decide : str "con" ++ [116] = (str "content-length").take 4)
    · trivial
  case matchingConnection =>
    cases taken
    exact matching_named real named id (fun _ => trivial) trivial
  case matchingProxyConnection =>
    cases taken
    exact matching_named real named id (fun _ => trivial) trivial
  case matchingContentLength =>
    cases taken
    exact matching_named real named id id trivial
  case matchingTransferEncoding =>
    cases taken
    exact matching_named real named id id trivial
  case matchingUpgrade =>
    cases taken
    exact matching_named real named id id trivial
  case connection | contentLength | transferEncoding | upgrade =>
    rw [if_pos notBlank] at taken
    cases taken
    trivial
  all_goals cases taken

theorem fieldChar_token {ch other : UInt8} (real : token ch ≠ 0) (same : token ch = token other)
    (parser : Parser) : fieldChar parser ch = fieldChar parser other := by
  have notBlank : ch ≠ space := by
    rintro rfl
    exact real (by decide)
  have notBlank' : other ≠ space := by
    rintro rfl
    exact real (same.trans (by decide))
  unfold fieldChar
  rw [same]
  simp only [notBlank, notBlank', ne_eq, not_false_eq_true, if_true]

section Name
variable (parser : Parser) (response : HttpResponse) (before : Bytes)

theorem reads_nameChar {ch : UInt8} (ready : Session.Ready ⟨parser, response⟩)
    (state : parser.state = .headerField) (inField : parser.headerState.inField) (name : token ch ≠ 0)
    {index : Nat} {headerState : HeaderState}
    (taken : fieldChar parser ch = some { parser with index, headerState }) :
    Reads ⟨parser, response.setHeaderField before⟩ [ch]
      ⟨{ parser with index, headerState }, response.setHeaderField (before ++ [ch])⟩ := by
  have switched (n : Nat) (fits : n + 1 ≤ httpMaxHeaderSize) :
      switch ((Session.at ⟨parser, response.setHeaderField before⟩ n).marking .headerField []) ch [] =
        .next (Session.marking ⟨{ parser with index, headerState, nread := n + 1 },
          response.setHeaderField before⟩ .headerField []) 0 := by
    have looped : fieldLoop { parser with nread := n } [ch] =
        some ({ parser with index, headerState, nread := n }, 1) := by
      rw [fieldLoop, if_neg name, fieldChar_nread, taken]
      rfl
    have step := onHeaderField_eq ⟨{ parser with nread := n }, response.setHeaderField before⟩ [] looped
    rw [if_neg (Nat.not_lt.mpr fits)] at step
    rw [switch, show ((Session.at ⟨parser, response.setHeaderField before⟩ n).marking .headerField []).parser.state =
      .headerField from state]
    exact step
  refine reads_resumed .headerField ⟨ready.ok, ready.bounded, ready.running⟩ (by rw [state]; rfl)
    (by rw [Parser.Sound, state]; exact inField) le_rfl switched fun n => ?_
  rw [marking_advance, marking_flushed]
  exact congrArg (Session.mk _) (HttpResponse.setHeaderField_append response before [ch])

theorem reads_nameRest {xs : Bytes} (ready : Session.Ready ⟨parser, response⟩)
    (state : parser.state = .headerField) (inField : parser.headerState.inField)
    (names : ∀ ch ∈ xs, token ch ≠ 0) :
    ∃ index headerState, fieldLoop parser xs = some ({ parser with index, headerState }, xs.length) ∧
      headerState.inField ∧
      (∀ name, Named name parser.index parser.headerState → Named (name ++ xs.map token) index headerState) ∧
      Reads ⟨parser, response.setHeaderField before⟩ xs
        ⟨{ parser with index, headerState }, response.setHeaderField (before ++ xs)⟩ := by
  induction xs generalizing parser before with
  | nil => exact ⟨parser.index, parser.headerState, rfl, inField, fun _ named => by simpa using named,
      by rw [List.append_nil]; exact Reads.nil⟩
  | cons ch rest ih =>
      obtain ⟨name, names⟩ := List.forall_mem_cons.mp names
      obtain ⟨index, headerState, taken, inField'⟩ := fieldChar_spec inField ch
      obtain ⟨index', headerState', looped, inField'', goes, reads⟩ :=
        ih { parser with index, headerState } (before ++ [ch]) ⟨ready.ok, ready.bounded, ready.running⟩ state inField' names
      refine ⟨index', headerState', ?_, inField'', fun before named => ?_, ?_⟩
      · rw [fieldLoop, if_neg name, taken]
        simp only [Option.bind_eq_bind, Option.bind_some, looped]
        rfl
      · have further := goes _ (fieldChar_named named name taken)
        rwa [List.append_assoc] at further
      · rw [List.append_assoc] at reads
        exact (reads_nameChar parser response before ready state inField name taken).cons reads

end Name

/-- The tables of the parser, and the letters and digits of those that write replies. -/
theorem tables (ch : UInt8) : token (token ch) = token ch ∧
    (token ch ≠ 0 → (if 65 ≤ ch && ch ≤ 90 then ch + 32 else ch) = token ch) ∧
    ((97 ≤ (if 65 ≤ ch && ch ≤ 90 then ch + 32 else ch) && (if 65 ≤ ch && ch ≤ 90 then ch + 32 else ch) ≤ 122) = true →
      lower ch = if 65 ≤ ch && ch ≤ 90 then ch + 32 else ch) ∧
    (isHexDigit ch → unhex ch = some (hexDigitValue ch)) := by
  revert ch
  exact forall_byte (by decide +kernel)

theorem token_token (ch : UInt8) : token (token ch) = token ch := (tables ch).1

theorem fieldLoop_map_token {xs : Bytes} (names : ∀ ch ∈ xs, token ch ≠ 0) (parser : Parser) :
    fieldLoop parser (xs.map token) = fieldLoop parser xs := by
  induction xs generalizing parser with
  | nil => rfl
  | cons ch rest ih =>
      obtain ⟨name, names⟩ := List.forall_mem_cons.mp names
      have name' : token (token ch) ≠ 0 := by rwa [token_token]
      rw [List.map_cons, fieldLoop, fieldLoop, if_neg name, if_neg name',
        fieldChar_token name' (token_token ch)]
      simp only [ih names]

/-- The start of a header line. Behind a line the flags of its header are still to be set. -/
structure Session.Line (s : Session) (parser : Parser) : Prop where
  state : s.parser.state = .headerFieldStart ∨ s.parser.state = .headerValueLws
  start : parser.state = .headerFieldStart
  ready : Session.Ready ⟨parser, s.response⟩
  ok : s.Ready
  switched : ∀ (n : Nat) (ch : UInt8), ch ≠ space → ch ≠ tab → switch (s.at n).unmarked ch [] =
    onHeaderFieldStart (Session.at ⟨parser, s.response⟩ n).unmarked ch

theorem line_start {s : Session} (ready : s.Ready) (state : s.parser.state = .headerFieldStart) :
    s.Line s.parser where
  state := .inl state
  start := state
  ready := ready
  ok := ready
  switched n ch _ _ := by
    rw [switch, show (s.at n).unmarked.parser.state = .headerFieldStart from state]

theorem line_lws {s : Session} (ready : s.Ready) (state : s.parser.state = .headerValueLws) :
    s.Line { s.parser with
      flags := s.parser.flags.withHeader s.parser.headerState, state := .headerFieldStart } where
  state := .inr state
  start := rfl
  ready := ⟨ready.ok, ready.bounded, ready.running⟩
  ok := ready
  switched n ch notSpace notTab := by
    rw [switch, show (s.at n).unmarked.parser.state = .headerValueLws from state]
    exact if_neg (by simp [notSpace, notTab])

theorem Session.Line.reads_byte {s t : Session} {parser : Parser} (line : s.Line parser) {ch : UInt8}
    (notSpace : ch ≠ space) (notTab : ch ≠ tab) {run : Nat → Run}
    (started : ∀ n, onHeaderFieldStart (Session.at ⟨parser, s.response⟩ n).unmarked ch = .next (run n) 0)
    (flushes : ∀ n, ((run n).advance [ch]).flushed = t.at n) : Reads s [ch] t :=
  Http.reads_byte line.ok (by rcases line.state with state | state <;> rw [state] <;> rfl)
    (by rcases line.state with state | state <;> rw [state] <;> rfl)
    (fun n => (line.switched n ch notSpace notTab).trans (started n)) flushes

theorem named_fieldStart (c : UInt8) : Named [c] 0 (fieldStart c) := by
  unfold fieldStart
  split_ifs with same same same same
  · rw [same]
    exact ⟨by decide, rfl⟩
  · rw [same]
    exact (by decide : [112] = (str "proxy-connection").take 1)
  · rw [same]
    exact (by decide : [116] = (str "transfer-encoding").take 1)
  · rw [same]
    exact (by decide : [117] = (str "upgrade").take 1)
  · trivial

theorem reads_nameFirst {s : Session} {parser : Parser} (line : s.Line parser) {ch : UInt8}
    (name : token ch ≠ 0) :
    Reads s [ch] ⟨{ parser with index := 0, state := .headerField, headerState := fieldStart (token ch) },
      s.response.setHeaderField [ch]⟩ := by
  have apart (c : UInt8) (none : token c = 0) : ch ≠ c := by
    rintro rfl
    exact name none
  have started (n : Nat) : onHeaderFieldStart (Session.at ⟨parser, s.response⟩ n).unmarked ch =
      .next (Session.marking ⟨{ parser with
        index := 0, state := .headerField, headerState := fieldStart (token ch), nread := n }, s.response⟩
        .headerField []) 0 := by
    unfold onHeaderFieldStart
    rw [if_neg (apart _ (by decide)), if_neg (apart _ (by decide)), if_neg name]
    rfl
  refine line.reads_byte (apart _ (by decide)) (apart _ (by decide)) started fun n => ?_
  rw [marking_advance, marking_flushed]
  rfl

theorem reads_colon {parser : Parser} {response : HttpResponse} (ready : Session.Ready ⟨parser, response⟩)
    (state : parser.state = .headerField) (inField : parser.headerState.inField) (name : Bytes) :
    Reads ⟨parser, response.setHeaderField name⟩ [colon]
      ⟨{ parser with state := .headerValueDiscardWs }, response.setHeaderField name⟩ := by
  have switched (n : Nat) (fits : n + 0 ≤ httpMaxHeaderSize) :
      switch ((Session.at ⟨parser, response.setHeaderField name⟩ n).marking .headerField []) colon [] =
        .next (Session.unmarked ⟨{ parser with nread := n, state := .headerValueDiscardWs },
          (response.setHeaderField name).setHeaderField []⟩) 0 := by
    have looped : fieldLoop { parser with nread := n } [colon] = some ({ parser with nread := n }, 0) := by
      rw [fieldLoop, if_pos (by decide)]
    have step := onHeaderField_eq ⟨{ parser with nread := n }, response.setHeaderField name⟩ [] looped
    rw [if_neg (Nat.not_lt.mpr fits)] at step
    rw [switch, show ((Session.at ⟨parser, response.setHeaderField name⟩ n).marking .headerField []).parser.state =
      .headerField from state]
    exact step
  refine reads_resumed .headerField ⟨ready.ok, ready.bounded, ready.running⟩ (by rw [state]; rfl)
    (by rw [Parser.Sound, state]; exact inField) zero_le_one switched fun n => ?_
  rw [unmarked_advance, unmarked_flushed, HttpResponse.setHeaderField_append, List.append_nil]
  rfl

/-- The name of a header, its colon and the blank behind it. -/
theorem reads_name {s : Session} {parser : Parser} (line : s.Line parser) {name : Bytes} (named : name ≠ [])
    (names : ∀ ch ∈ name, token ch ≠ 0) :
    ∃ index headerState, headerState.inField ∧ Named (name.map token) index headerState ∧
      (∀ c rest, name.map token = c :: rest → ∃ n, fieldLoop
          { parser with index := 0, state := .headerField, headerState := fieldStart c } rest =
        some ({ parser with index, state := .headerField, headerState }, n)) ∧
      Reads s (name ++ [colon, space])
        ⟨{ parser with index, headerState, state := .headerValueDiscardWs }, s.response.setHeaderField name⟩ := by
  obtain ⟨ch, rest, rfl⟩ := List.exists_cons_of_ne_nil named
  obtain ⟨name, names⟩ := List.forall_mem_cons.mp names
  obtain ⟨index, headerState, looped, inField, goes, reads⟩ := reads_nameRest
    { parser with index := 0, state := .headerField, headerState := fieldStart (token ch) } s.response [ch]
    ⟨line.ready.ok, line.ready.bounded, line.ready.running⟩ rfl (inField_fieldStart _) names
  refine ⟨index, headerState, inField, goes _ (named_fieldStart _), fun c rest' same => ?_, ?_⟩
  · obtain ⟨rfl, rfl⟩ := List.cons.inj same
    exact ⟨_, (fieldLoop_map_token names _).trans looped⟩
  · have ready : Session.Ready ⟨{ parser with index, state := .headerField, headerState }, s.response⟩ :=
      ⟨line.ready.ok, line.ready.bounded, line.ready.running⟩
    refine ((reads_nameFirst line name).cons reads).trans ((reads_colon ready rfl inField _).cons ?_)
    exact reads_plain ⟨ready.ok, ready.bounded, ready.running⟩ rfl rfl fun n => rfl

end DecadaEmbedded.Http
