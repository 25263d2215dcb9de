import DecadaEmbedded.Http.Response
import Mathlib.Logic.Function.Basic

/-!
# `lib/HTTP/http_parser/http_parser.c` for responses

`http_parser_execute` with the strictness and the header limit it is built with, for a parser of type
`HTTP_RESPONSE`: the states of requests are unreachable there and left out, as are the URL and the
method. A case of the `switch` is a function of its own, which a `REEXECUTE` into it calls.
`Step.assertion` is a failed `assert`. The callbacks are those of `http_request_parser.h`, without a
body callback; they never fail. Arithmetic on 64 bits is guarded by the code and done here in `Nat`.
-/

namespace DecadaEmbedded.Http
open Library

def cr : UInt8 := 13
def lf : UInt8 := 10
def space : UInt8 := 32
def tab : UInt8 := 9
def colon : UInt8 := 58
def comma : UInt8 := 44

def httpMaxHeaderSize : Nat := 80 * 1024
def ullongMax : Nat := 18446744073709551615

/-! ## Character classes -/

def lower (c : UInt8) : UInt8 := c ||| 0x20

def isAlpha (c : UInt8) : Bool := 97 ≤ lower c && lower c ≤ 122

def isNum (c : UInt8) : Bool := 48 ≤ c && c ≤ 57

/-- The table `tokens`: 0 for a byte that is not part of a token. -/
def token (c : UInt8) : UInt8 :=
  if isAlpha c then lower c
  else if isNum c || (str "!#$%&'*+-.^_|~").contains c || c = 96 then c
  else 0

/-- The table `unhex`. It lists 128 entries, so those behind them are zeros. -/
def unhex (c : UInt8) : Option Nat :=
  if isNum c then some (c.toNat - 48)
  else if 65 ≤ c && c ≤ 70 then some (c.toNat - 55)
  else if 97 ≤ c && c ≤ 102 then some (c.toNat - 87)
  else if 128 ≤ c then some 0
  else none

def isHeaderChar (ch : UInt8) : Bool := ch = cr || ch = lf || ch = tab || (31 < ch && ch ≠ 127)

/-! ## The parser -/

inductive State where
  | dead
  | startRes | resH | resHT | resHTT | resHTTP
  | resFirstHttpMajor | resHttpMajor | resFirstHttpMinor | resHttpMinor
  | resFirstStatusCode | resStatusCode | resStatusStart | resStatus | resLineAlmostDone
  | headerFieldStart | headerField
  | headerValueDiscardWs | headerValueDiscardWsAlmostDone | headerValueDiscardLws
  | headerValueStart | headerValue | headerValueLws | headerAlmostDone
  | chunkSizeStart | chunkSize | chunkParameters | chunkSizeAlmostDone
  | headersAlmostDone | headersDone
  | chunkData | chunkDataAlmostDone | chunkDataDone
  | bodyIdentity | bodyIdentityEof
  | messageDone
deriving DecidableEq, Repr

-- the states up to `s_headers_done`
def State.parsingHeader : State → Bool
  | .chunkData | .chunkDataAlmostDone | .chunkDataDone | .bodyIdentity | .bodyIdentityEof | .messageDone =>
      false
  | _ => true

inductive HeaderState where
  | general | c | co | con
  | matchingConnection | matchingProxyConnection | matchingContentLength | matchingTransferEncoding
  | matchingUpgrade
  | connection | contentLength | transferEncoding | upgrade
  | matchingTransferEncodingChunked | matchingConnectionTokenStart | matchingConnectionKeepAlive
  | matchingConnectionClose | matchingConnectionUpgrade | matchingConnectionToken
  | transferEncodingChunked | connectionKeepAlive | connectionClose | connectionUpgrade
deriving DecidableEq, Repr

inductive Errno where
  | ok | invalidEofState | headerOverflow | closedConnection | invalidVersion | invalidStatus | lfExpected
  | invalidHeaderToken | invalidContentLength | unexpectedContentLength | invalidChunkSize
  | invalidConstant | strict
deriving DecidableEq, Repr

structure Flags where
  chunked : Bool := false
  connectionKeepAlive : Bool := false
  connectionClose : Bool := false
  connectionUpgrade : Bool := false
  trailing : Bool := false
  upgrade : Bool := false
  skipbody : Bool := false
  contentlength : Bool := false
deriving DecidableEq, Repr

-- as `http_parser_init` leaves it
structure Parser where
  flags : Flags := {}
  state : State := .startRes
  headerState : HeaderState := .general
  index : Nat := 0
  nread : Nat := 0
  contentLength : Nat := 0
  httpMajor : Nat := 0
  httpMinor : Nat := 0
  statusCode : Nat := 0
  httpErrno : Errno := .ok
  upgrade : Bool := false
deriving DecidableEq, Repr

namespace Parser

def httpMessageNeedsEof (parser : Parser) : Bool :=
  if parser.statusCode / 100 = 1 || parser.statusCode = 204 || parser.statusCode = 304 ||
      parser.flags.skipbody then false
  else !(parser.flags.chunked || parser.contentLength ≠ ullongMax)

def httpShouldKeepAlive (parser : Parser) : Bool :=
  if 0 < parser.httpMajor && 0 < parser.httpMinor then
    !parser.flags.connectionClose && !parser.httpMessageNeedsEof
  else parser.flags.connectionKeepAlive && !parser.httpMessageNeedsEof

def newMessage (parser : Parser) : State := if parser.httpShouldKeepAlive then .startRes else .dead

/-- The assertions at the head of the cases. -/
def asserted (parser : Parser) : Bool :=
  match parser.state with
  | .chunkSizeStart => parser.nread = 1 && parser.flags.chunked
  | .chunkSize | .chunkParameters | .chunkSizeAlmostDone | .chunkDataDone => parser.flags.chunked
  | .chunkData => parser.flags.chunked && parser.contentLength ≠ 0 && parser.contentLength ≠ ullongMax
  | .chunkDataAlmostDone => parser.flags.chunked && parser.contentLength = 0
  | .bodyIdentity => parser.contentLength ≠ 0 && parser.contentLength ≠ ullongMax
  | _ => true

end Parser

/-! ## Marks and callbacks -/

inductive Datum where
  | headerField | headerValue | body | status
deriving DecidableEq, Repr

-- `http_parser_execute` sees the parser and the response behind it
structure Session where
  parser : Parser := {}
  response : HttpResponse := {}
deriving DecidableEq, Repr

def Session.on (session : Session) (text : Bytes) : Datum → HttpResponse
  | .headerField => session.response.setHeaderField text
  | .headerValue => session.response.setHeaderValue text
  | .body => session.response.setBody text
  | .status => session.response.setStatus session.parser.statusCode text

/-- The local variables: a mark that is set is kept as the bytes between it and `p`. -/
structure Run extends Session where
  marks : Datum → Option Bytes := fun _ => none

namespace Run

def updateState (run : Run) (state : State) : Run :=
  { run with parser := { run.parser with state } }

def mark (run : Run) (datum : Datum) : Run :=
  { run with marks := Function.update run.marks datum (some ((run.marks datum).getD [])) }

-- `passed` are the bytes of this turn that the mark lies before
def callbackData (run : Run) (datum : Datum) (passed : Bytes := []) : Run :=
  match run.marks datum with
  | none => run
  | some text =>
      { run with
        response := run.toSession.on (text ++ passed) datum
        marks := Function.update run.marks datum none }

def advance (run : Run) (passed : Bytes) : Run :=
  { run with marks := fun datum => (run.marks datum).map (· ++ passed) }

def countHeaderSize (run : Run) (v : Nat) : Run :=
  { run with parser := { run.parser with nread := run.parser.nread + v } }

def messageComplete (run : Run) : Run := { run with response := run.response.setMessageComplete }

end Run

/-- How a turn of the loop ends: `p` has moved `ahead` bytes in it. -/
inductive Step where
  | next (run : Run) (ahead : Nat)
  | error (run : Run) (ahead : Nat) (errno : Errno)
  | returned (run : Run) (ahead : Nat)
  | assertion

/-! ## The cases -/

def strictCheck (violated : Bool) (run : Run) (rest : Step) : Step :=
  if violated then .error run 0 .strict else rest

def expect (expected : UInt8) (state : State) (run : Run) (ch : UInt8) : Step :=
  strictCheck (ch ≠ expected) run (.next (run.updateState state) 0)

def digitOf (ch : UInt8) : Nat := ch.toNat - 48

def onDead (run : Run) (ch : UInt8) : Step :=
  if ch = cr || ch = lf then .next run 0 else .error run 0 .closedConnection

def onStartRes (run : Run) (ch : UInt8) : Step :=
  let run := { run with parser := { run.parser with flags := {}, contentLength := ullongMax } }
  if ch = 72 then .next (run.updateState .resH) 0
  else if ch = cr || ch = lf then .next run 0
  else .error run 0 .invalidConstant

def onFirstHttpMajor (run : Run) (ch : UInt8) : Step :=
  if ch < 48 || 57 < ch then .error run 0 .invalidVersion
  else .next { run with parser := { run.parser with httpMajor := digitOf ch, state := .resHttpMajor } } 0

def onHttpMajor (run : Run) (ch : UInt8) : Step :=
  if ch = 46 then .next (run.updateState .resFirstHttpMinor) 0
  else if !isNum ch then .error run 0 .invalidVersion
  else
    let run := { run with parser := { run.parser with httpMajor := run.parser.httpMajor * 10 + digitOf ch } }
    if 999 < run.parser.httpMajor then .error run 0 .invalidVersion else .next run 0

def onFirstHttpMinor (run : Run) (ch : UInt8) : Step :=
  if !isNum ch then .error run 0 .invalidVersion
  else .next { run with parser := { run.parser with httpMinor := digitOf ch, state := .resHttpMinor } } 0

def onHttpMinor (run : Run) (ch : UInt8) : Step :=
  if ch = space then .next (run.updateState .resFirstStatusCode) 0
  else if !isNum ch then .error run 0 .invalidVersion
  else
    let run := { run with parser := { run.parser with httpMinor := run.parser.httpMinor * 10 + digitOf ch } }
    if 999 < run.parser.httpMinor then .error run 0 .invalidVersion else .next run 0

def onFirstStatusCode (run : Run) (ch : UInt8) : Step :=
  if !isNum ch then
    if ch = space then .next run 0 else .error run 0 .invalidStatus
  else .next { run with parser := { run.parser with statusCode := digitOf ch, state := .resStatusCode } } 0

def onStatusCode (run : Run) (ch : UInt8) : Step :=
  if !isNum ch then
    if ch = space then .next (run.updateState .resStatusStart) 0
    else if ch = cr then .next (run.updateState .resLineAlmostDone) 0
    else if ch = lf then .next (run.updateState .headerFieldStart) 0
    else .error run 0 .invalidStatus
  else
    let run :=
      { run with parser := { run.parser with statusCode := run.parser.statusCode * 10 + digitOf ch } }
    if 999 < run.parser.statusCode then .error run 0 .invalidStatus else .next run 0

def onStatusStart (run : Run) (ch : UInt8) : Step :=
  if ch = cr then .next (run.updateState .resLineAlmostDone) 0
  else if ch = lf then .next (run.updateState .headerFieldStart) 0
  else
    let run := run.mark .status
    .next { run with parser := { run.parser with state := .resStatus, index := 0 } } 0

def onStatus (run : Run) (ch : UInt8) : Step :=
  if ch = cr then .next ((run.updateState .resLineAlmostDone).callbackData .status) 0
  else if ch = lf then .next ((run.updateState .headerFieldStart).callbackData .status) 0
  else .next run 0

def onMessageDone (run : Run) : Step :=
  let run := (run.updateState run.parser.newMessage).messageComplete
  if run.parser.upgrade then .returned run 1 else .next run 0

def onHeadersDone (run : Run) (ch : UInt8) : Step :=
  strictCheck (ch ≠ lf) run <|
    let run := { run with parser := { run.parser with nread := 0 } }
    let hasBody := run.parser.flags.chunked ||
      (0 < run.parser.contentLength && run.parser.contentLength ≠ ullongMax)
    let complete := (run.updateState run.parser.newMessage).messageComplete
    if run.parser.upgrade && (run.parser.flags.skipbody || !hasBody) then .returned complete 1
    else if run.parser.flags.skipbody then .next complete 0
    else if run.parser.flags.chunked then .next (run.updateState .chunkSizeStart) 0
    else if run.parser.contentLength = 0 then .next complete 0
    else if run.parser.contentLength ≠ ullongMax then .next (run.updateState .bodyIdentity) 0
    else if !run.parser.httpMessageNeedsEof then .next complete 0
    else .next (run.updateState .bodyIdentityEof) 0

def onHeadersAlmostDone (run : Run) (ch : UInt8) : Step :=
  strictCheck (ch ≠ lf) run <|
    if run.parser.flags.trailing then onMessageDone (run.updateState .messageDone)
    else if run.parser.flags.chunked && run.parser.flags.contentlength then
      .error run 0 .unexpectedContentLength
    else
      let upgrade := run.parser.flags.upgrade && run.parser.flags.connectionUpgrade
      onHeadersDone
        { run with
          parser := { run.parser with state := .headersDone, upgrade }
          response := run.response.setHeadersComplete } ch

def fieldStart (c : UInt8) : HeaderState :=
  if c = 99 then .c
  else if c = 112 then .matchingProxyConnection
  else if c = 116 then .matchingTransferEncoding
  else if c = 117 then .matchingUpgrade
  else .general

def onHeaderFieldStart (run : Run) (ch : UInt8) : Step :=
  if ch = cr then .next (run.updateState .headersAlmostDone) 0
  else if ch = lf then onHeadersAlmostDone (run.updateState .headersAlmostDone) ch
  else if token ch = 0 then .error run 0 .invalidHeaderToken
  else
    let run := run.mark .headerField
    .next
      { run with
        parser := { run.parser with index := 0, state := .headerField, headerState := fieldStart (token ch) } }
      0

/-- A character of a word that is being matched; `index` is its position. The last one ends the match
and a wrong one goes on with `failed`. -/
def matching (word : Bytes) (current matched failed : HeaderState) (index : Nat) (c : UInt8) :
    HeaderState :=
  if word.length < index || c ≠ word.getD index 0 then failed
  else if index = word.length - 1 then matched
  else current

/-- A character of a field name; none where the source asserts. -/
def fieldChar (parser : Parser) (ch : UInt8) : Option Parser :=
  let c := token ch
  let index := parser.index + 1
  let word (text : String) (current matched : HeaderState) : Option Parser :=
    some { parser with index, headerState := matching (str text) current matched .general index c }
  match parser.headerState with
  | .general => some parser
  | .c => some { parser with index, headerState := if c = 111 then .co else .general }
  | .co => some { parser with index, headerState := if c = 110 then .con else .general }
  | .con =>
      some
        { parser with
          index
          headerState :=
            if c = 110 then .matchingConnection
            else if c = 116 then .matchingContentLength
            else .general }
  | .matchingConnection => word "connection" .matchingConnection .connection
  | .matchingProxyConnection => word "proxy-connection" .matchingProxyConnection .connection
  | .matchingContentLength => word "content-length" .matchingContentLength .contentLength
  | .matchingTransferEncoding => word "transfer-encoding" .matchingTransferEncoding .transferEncoding
  | .matchingUpgrade => word "upgrade" .matchingUpgrade .upgrade
  | .connection | .contentLength | .transferEncoding | .upgrade =>
      some { parser with headerState := if ch ≠ space then .general else parser.headerState }
  | _ => none

/-- The loop over a field name, up to the first byte that is not part of a token; the number of bytes
before it. -/
def fieldLoop (parser : Parser) : Bytes → Option (Parser × Nat)
  | [] => some (parser, 0)
  | ch :: rest =>
      if token ch = 0 then some (parser, 0)
      else do
        let parser ← fieldChar parser ch
        let (parser, n) ← fieldLoop parser rest
        return (parser, n + 1)

def onHeaderField (run : Run) (bytes : Bytes) : Step :=
  match fieldLoop run.parser bytes with
  | none => .assertion
  | some (parser, n) =>
      let run := { run with parser }.countHeaderSize n
      if httpMaxHeaderSize < run.parser.nread then .error run n .headerOverflow
      else
        match bytes[n]? with
        | none => .next run (n - 1)
        | some ch =>
            if ch = colon then
              .next ((run.updateState .headerValueDiscardWs).callbackData .headerField (bytes.take n)) n
            else .error run n .invalidHeaderToken

def onHeaderValueStart (run : Run) (ch : UInt8) : Step :=
  let run := run.mark .headerValue
  let run := { run with parser := { run.parser with state := .headerValue, index := 0 } }
  let c := lower ch
  let go (headerState : HeaderState) : Step :=
    .next { run with parser := { run.parser with headerState } } 0
  match run.parser.headerState with
  | .upgrade =>
      .next
        { run with
          parser :=
            { run.parser with
              flags := { run.parser.flags with upgrade := true }, headerState := .general } }
        0
  | .transferEncoding => go (if c = 99 then .matchingTransferEncodingChunked else .general)
  | .contentLength =>
      if !isNum ch then .error run 0 .invalidContentLength
      else if run.parser.flags.contentlength then .error run 0 .unexpectedContentLength
      else
        .next
          { run with
            parser :=
              { run.parser with
                flags := { run.parser.flags with contentlength := true }, contentLength := digitOf ch } }
          0
  | .connection =>
      go
        (if c = 107 then .matchingConnectionKeepAlive
        else if c = 99 then .matchingConnectionClose
        else if c = 117 then .matchingConnectionUpgrade
        else .matchingConnectionToken)
  | .matchingConnectionTokenStart => go .matchingConnectionTokenStart
  | _ => go .general

def onHeaderValueDiscardWs (run : Run) (ch : UInt8) : Step :=
  if ch = space || ch = tab then .next run 0
  else if ch = cr then .next (run.updateState .headerValueDiscardWsAlmostDone) 0
  else if ch = lf then .next (run.updateState .headerValueDiscardLws) 0
  else onHeaderValueStart run ch

/-- How a character of a value is taken, or the loop over the value left. -/
inductive ValueChar where
  | go (headerState : HeaderState) (parser : Parser)
  | invalidContentLength
  | assertion

def valueChar (headerState : HeaderState) (parser : Parser) (ch : UInt8) : ValueChar :=
  let c := lower ch
  let index := parser.index + 1
  let word (text : String) (matched failed : HeaderState) : ValueChar :=
    .go (matching (str text) headerState matched failed index c) { parser with index }
  let connected (flags : Flags) : ValueChar :=
    if ch = comma then .go .matchingConnectionTokenStart { parser with flags, index := 0 }
    else if ch ≠ space then .go .matchingConnectionToken parser
    else .go headerState parser
  match headerState with
  | .general => .go .general parser
  | .connection | .transferEncoding => .assertion
  | .contentLength =>
      if ch = space then .go .contentLength parser
      else if !isNum ch then .invalidContentLength
      else if (ullongMax - 10) / 10 < parser.contentLength then .invalidContentLength
      else .go .contentLength { parser with contentLength := parser.contentLength * 10 + digitOf ch }
  | .matchingTransferEncodingChunked => word "chunked" .transferEncodingChunked .general
  | .matchingConnectionTokenStart =>
      .go
        (if c = 107 then .matchingConnectionKeepAlive
        else if c = 99 then .matchingConnectionClose
        else if c = 117 then .matchingConnectionUpgrade
        else if token c ≠ 0 then .matchingConnectionToken
        else if c = space || c = tab then .matchingConnectionTokenStart
        else .general)
        parser
  | .matchingConnectionKeepAlive => word "keep-alive" .connectionKeepAlive .matchingConnectionToken
  | .matchingConnectionClose => word "close" .connectionClose .matchingConnectionToken
  | .matchingConnectionUpgrade => word "upgrade" .connectionUpgrade .matchingConnectionToken
  | .matchingConnectionToken =>
      if ch = comma then .go .matchingConnectionTokenStart { parser with index := 0 }
      else .go .matchingConnectionToken parser
  | .transferEncodingChunked =>
      .go (if ch ≠ space then .general else .transferEncodingChunked) parser
  | .connectionKeepAlive => connected { parser.flags with connectionKeepAlive := true }
  | .connectionClose => connected { parser.flags with connectionClose := true }
  | .connectionUpgrade => connected { parser.flags with connectionUpgrade := true }
  | _ => .go .general { parser with state := .headerValue }

-- the two calls of `memchr`
def lineLength (bytes : Bytes) : Nat :=
  let window := (bytes.take httpMaxHeaderSize).takeWhile fun ch => ch ≠ cr && ch ≠ lf
  if window.length < (bytes.take httpMaxHeaderSize).length then window.length else bytes.length

/-- How the loop over a value ends, after `n` bytes: at a CR, an LF or the end of the data, or at a byte
that is not accepted. -/
inductive ValueLoop where
  | ended (headerState : HeaderState) (parser : Parser) (n : Nat)
  | error (parser : Parser) (n : Nat) (errno : Errno)
  | assertion

def ValueLoop.succ : ValueLoop → ValueLoop
  | .ended headerState parser n => .ended headerState parser (n + 1)
  | .error parser n errno => .error parser (n + 1) errno
  | .assertion => .assertion

def valueLoop (headerState : HeaderState) (parser : Parser) : Bytes → ValueLoop
  | [] => .ended headerState parser 0
  | ch :: rest =>
      if ch = cr || ch = lf then .ended headerState parser 0
      else if !isHeaderChar ch then .error parser 0 .invalidHeaderToken
      else if headerState = .general then .ended .general parser (lineLength (ch :: rest))
      else
        match valueChar headerState parser ch with
        | .go headerState parser => (valueLoop headerState parser rest).succ
        | .invalidContentLength => .error { parser with headerState } 0 .invalidContentLength
        | .assertion => .assertion

def onHeaderAlmostDone (run : Run) (ch : UInt8) : Step :=
  if ch ≠ lf then .error run 0 .lfExpected else .next (run.updateState .headerValueLws) 0

def Step.after (n : Nat) : Step → Step
  | .next run ahead => .next run (n + ahead)
  | .error run ahead errno => .error run (n + ahead) errno
  | .returned run ahead => .returned run (n + ahead)
  | .assertion => .assertion

def onHeaderValue (run : Run) (bytes : Bytes) : Step :=
  match valueLoop run.parser.headerState run.parser bytes with
  | .assertion => .assertion
  | .error parser n errno => .error { run with parser } n errno
  | .ended headerState parser n =>
      let run := { run with parser }
      let counted := run.countHeaderSize n
      match bytes[n]? with
      | none =>
          let run := { counted with parser := { counted.parser with headerState } }
          if httpMaxHeaderSize < run.parser.nread then .error run n .headerOverflow else .next run (n - 1)
      | some ch =>
          if ch = cr then
            let run := run.updateState .headerAlmostDone
            let run := { run with parser := { run.parser with headerState } }
            let run := (run.callbackData .headerValue (bytes.take n)).countHeaderSize n
            if httpMaxHeaderSize < run.parser.nread then .error run n .headerOverflow else .next run n
          else
            let run := counted.updateState .headerAlmostDone
            if httpMaxHeaderSize < run.parser.nread then .error run n .headerOverflow
            else
              let run := { run with parser := { run.parser with headerState } }
              (onHeaderAlmostDone (run.callbackData .headerValue (bytes.take n)) ch).after n

/-- The flags that a finished header leaves. -/
def Flags.withHeader (flags : Flags) : HeaderState → Flags
  | .connectionKeepAlive => { flags with connectionKeepAlive := true }
  | .connectionClose => { flags with connectionClose := true }
  | .transferEncodingChunked => { flags with chunked := true }
  | .connectionUpgrade => { flags with connectionUpgrade := true }
  | _ => flags

def Run.finishHeader (run : Run) : Run :=
  { run with parser := { run.parser with flags := run.parser.flags.withHeader run.parser.headerState } }

def onHeaderValueLws (run : Run) (ch : UInt8) : Step :=
  if ch = space || ch = tab then onHeaderValueStart (run.updateState .headerValueStart) ch
  else onHeaderFieldStart (run.finishHeader.updateState .headerFieldStart) ch

def onHeaderValueDiscardLws (run : Run) (ch : UInt8) : Step :=
  if ch = space || ch = tab then .next (run.updateState .headerValueDiscardWs) 0
  else
    -- the value was empty
    let run := (run.finishHeader.mark .headerValue).updateState .headerFieldStart
    onHeaderFieldStart (run.callbackData .headerValue) ch

def onBodyIdentity (run : Run) (bytes : Bytes) : Step :=
  let toRead := min run.parser.contentLength bytes.length
  let run := run.mark .body
  let run := { run with parser := { run.parser with contentLength := run.parser.contentLength - toRead } }
  if run.parser.contentLength = 0 then
    (onMessageDone ((run.updateState .messageDone).callbackData .body (bytes.take toRead))).after (toRead - 1)
  else .next run (toRead - 1)

def onBodyIdentityEof (run : Run) (bytes : Bytes) : Step := .next (run.mark .body) (bytes.length - 1)

def onChunkSizeStart (run : Run) (ch : UInt8) : Step :=
  match unhex ch with
  | none => .error run 0 .invalidChunkSize
  | some value =>
      .next { run with parser := { run.parser with contentLength := value, state := .chunkSize } } 0

def onChunkSize (run : Run) (ch : UInt8) : Step :=
  if ch = cr then .next (run.updateState .chunkSizeAlmostDone) 0
  else
    match unhex ch with
    | none =>
        if ch = 59 || ch = space then .next (run.updateState .chunkParameters) 0
        else .error run 0 .invalidChunkSize
    | some value =>
        if (ullongMax - 16) / 16 < run.parser.contentLength then .error run 0 .invalidContentLength
        else
          .next { run with parser := { run.parser with contentLength := run.parser.contentLength * 16 + value } } 0

def onChunkParameters (run : Run) (ch : UInt8) : Step :=
  if ch = cr then .next (run.updateState .chunkSizeAlmostDone) 0 else .next run 0

def onChunkSizeAlmostDone (run : Run) (ch : UInt8) : Step :=
  strictCheck (ch ≠ lf) run <|
    let parser := { run.parser with nread := 0 }
    let parser :=
      if parser.contentLength = 0 then
        { parser with flags := { parser.flags with trailing := true }, state := .headerFieldStart }
      else { parser with state := .chunkData }
    .next { run with parser, response := run.response.setChunked } 0

def onChunkData (run : Run) (bytes : Bytes) : Step :=
  let toRead := min run.parser.contentLength bytes.length
  let run := run.mark .body
  let run := { run with parser := { run.parser with contentLength := run.parser.contentLength - toRead } }
  if run.parser.contentLength = 0 then .next (run.updateState .chunkDataAlmostDone) (toRead - 1)
  else .next run (toRead - 1)

def onChunkDataAlmostDone (run : Run) (ch : UInt8) : Step :=
  strictCheck (ch ≠ cr) run (.next ((run.updateState .chunkDataDone).callbackData .body) 0)

def onChunkDataDone (run : Run) (ch : UInt8) : Step :=
  strictCheck (ch ≠ lf) run <|
    .next { run with parser := { run.parser with nread := 0, state := .chunkSizeStart } } 0

/-! ## The loop -/

/-- The `switch` at the byte `ch`, with the bytes behind it. -/
def switch (run : Run) (ch : UInt8) (tail : Bytes) : Step :=
  match run.parser.state with
  | .dead => onDead run ch
  | .startRes => onStartRes run ch
  | .resH => expect 84 .resHT run ch
  | .resHT => expect 84 .resHTT run ch
  | .resHTT => expect 80 .resHTTP run ch
  | .resHTTP => expect 47 .resFirstHttpMajor run ch
  | .resFirstHttpMajor => onFirstHttpMajor run ch
  | .resHttpMajor => onHttpMajor run ch
  | .resFirstHttpMinor => onFirstHttpMinor run ch
  | .resHttpMinor => onHttpMinor run ch
  | .resFirstStatusCode => onFirstStatusCode run ch
  | .resStatusCode => onStatusCode run ch
  | .resStatusStart => onStatusStart run ch
  | .resStatus => onStatus run ch
  | .resLineAlmostDone => expect lf .headerFieldStart run ch
  | .headerFieldStart => onHeaderFieldStart run ch
  | .headerField => onHeaderField run (ch :: tail)
  | .headerValueDiscardWs => onHeaderValueDiscardWs run ch
  | .headerValueDiscardWsAlmostDone => expect lf .headerValueDiscardLws run ch
  | .headerValueDiscardLws => onHeaderValueDiscardLws run ch
  | .headerValueStart => onHeaderValueStart run ch
  | .headerValue => onHeaderValue run (ch :: tail)
  | .headerValueLws => onHeaderValueLws run ch
  | .headerAlmostDone => onHeaderAlmostDone run ch
  | .chunkSizeStart => onChunkSizeStart run ch
  | .chunkSize => onChunkSize run ch
  | .chunkParameters => onChunkParameters run ch
  | .chunkSizeAlmostDone => onChunkSizeAlmostDone run ch
  | .headersAlmostDone => onHeadersAlmostDone run ch
  | .headersDone => onHeadersDone run ch
  | .chunkData => onChunkData run (ch :: tail)
  | .chunkDataAlmostDone => onChunkDataAlmostDone run ch
  | .chunkDataDone => onChunkDataDone run ch
  | .bodyIdentity => onBodyIdentity run (ch :: tail)
  | .bodyIdentityEof => onBodyIdentityEof run (ch :: tail)
  | .messageDone => onMessageDone run

def turn (run : Run) (ch : UInt8) (tail : Bytes) : Step :=
  let run := if run.parser.state.parsingHeader then run.countHeaderSize 1 else run
  if run.parser.state.parsingHeader && httpMaxHeaderSize < run.parser.nread then
    .error run 0 .headerOverflow
  else if run.parser.asserted then switch run ch tail
  else .assertion

structure Executed where
  session : Session
  nparsed : Nat
deriving DecidableEq, Repr

def Datum.all : List Datum := [.headerField, .headerValue, .body, .status]

-- `CALLBACK_DATA_NOADVANCE` for the marks that are left
def Run.callbacks (run : Run) : Run := Datum.all.foldl (fun run datum => run.callbackData datum) run

/-- The loop from a byte on; `nparsed` counts from there. None: an assertion has failed. -/
def loop (run : Run) : Bytes → Option Executed
  | [] =>
      if (Datum.all.countP fun datum => (run.marks datum).isSome) ≤ 1 then
        some ⟨run.callbacks.toSession, 0⟩
      else none
  | ch :: tail =>
      match turn run ch tail with
      | .assertion => none
      | .error run ahead errno =>
          some ⟨{ run with parser := { run.parser with httpErrno := errno } }, ahead⟩
      | .returned run ahead => some ⟨run.toSession, ahead⟩
      | .next run ahead =>
          (loop (run.advance (ch :: tail.take ahead)) (tail.drop ahead)).map fun executed =>
            { executed with nparsed := executed.nparsed + ahead + 1 }
termination_by bytes => bytes.length
decreasing_by simp only [List.length_drop, List.length_cons]; omega

section Loop
variable {run last : Run} {ch : UInt8} {tail : Bytes} {ahead : Nat}

theorem loop_error {errno : Errno} (turned : turn run ch tail = .error last ahead errno) :
    loop run (ch :: tail) =
      some ⟨{ last with parser := { last.parser with httpErrno := errno } }, ahead⟩ := by
  rw [loop, turned]

theorem loop_returned (turned : turn run ch tail = .returned last ahead) :
    loop run (ch :: tail) = some ⟨last.toSession, ahead⟩ := by
  rw [loop, turned]

theorem loop_next (turned : turn run ch tail = .next last ahead) :
    loop run (ch :: tail) =
      (loop (last.advance (ch :: tail.take ahead)) (tail.drop ahead)).map fun executed =>
        { executed with nparsed := executed.nparsed + ahead + 1 } := by
  rw [loop, turned]

end Loop

/-- The marks that go on from the data before. -/
def resumed (state : State) (datum : Datum) : Option Bytes :=
  match datum, state with
  | .headerField, .headerField => some []
  | .headerValue, .headerValue => some []
  | .status, .resStatus => some []
  | _, _ => none

def httpParserExecute (session : Session) (data : Bytes) : Option Executed :=
  if session.parser.httpErrno ≠ .ok then some ⟨session, 0⟩
  else if data = [] then
    match session.parser.state with
    | .bodyIdentityEof => some ⟨{ session with response := session.response.setMessageComplete }, 0⟩
    | .dead | .startRes => some ⟨session, 0⟩
    | _ => some ⟨{ session with parser := { session.parser with httpErrno := .invalidEofState } }, 1⟩
  else loop { session with marks := resumed session.parser.state } data

end DecadaEmbedded.Http
