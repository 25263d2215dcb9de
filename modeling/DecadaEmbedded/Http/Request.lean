import DecadaEmbedded.Http.RoundTrip
import DecadaEmbedded.Http.UrlFields
import DecadaEmbedded.Library.FixedPoint
import DecadaEmbedded.Library.TextOrder
import Mathlib.Algebra.Order.BigOperators.Group.List

/-!
# `http_request_builder.h` and `HttpRequestBase::send`

A request with its body in one piece. The headers are kept in the order of a `std::map`. The log of what is
sent and the resolution of the host name are left out, and memory is taken as sufficient.
-/

namespace DecadaEmbedded.Http
open Library

inductive HttpMethod where
  | delete | get | head | post | put
  | connect | options | trace
  | copy | lock | mkcol | move | propfind | proppatch | search | unlock | bind | rebind | unbind | acl
  | report | mkactivity | checkout | merge
  | msearch | notify | subscribe | unsubscribe
  | patch | purge
  | mkcalendar
  | link | unlink
deriving DecidableEq, Repr

def httpMethodStr : HttpMethod → Bytes
  | .delete => str "DELETE" | .get => str "GET" | .head => str "HEAD" | .post => str "POST" | .put => str "PUT"
  | .connect => str "CONNECT" | .options => str "OPTIONS" | .trace => str "TRACE"
  | .copy => str "COPY" | .lock => str "LOCK" | .mkcol => str "MKCOL" | .move => str "MOVE"
  | .propfind => str "PROPFIND" | .proppatch => str "PROPPATCH" | .search => str "SEARCH" | .unlock => str "UNLOCK"
  | .bind => str "BIND" | .rebind => str "REBIND" | .unbind => str "UNBIND" | .acl => str "ACL"
  | .report => str "REPORT" | .mkactivity => str "MKACTIVITY" | .checkout => str "CHECKOUT" | .merge => str "MERGE"
  | .msearch => str "M-SEARCH" | .notify => str "NOTIFY" | .subscribe => str "SUBSCRIBE"
  | .unsubscribe => str "UNSUBSCRIBE"
  | .patch => str "PATCH" | .purge => str "PURGE"
  | .mkcalendar => str "MKCALENDAR"
  | .link => str "LINK" | .unlink => str "UNLINK"

/-! ## The builder -/

structure HttpRequestBuilder where
  method : HttpMethod
  parsedUrl : ParsedUrl
  headers : List (Bytes × Bytes) := []
deriving DecidableEq, Repr

def insertHeader (key value : Bytes) : List (Bytes × Bytes) → List (Bytes × Bytes)
  | [] => [(key, value)]
  | (name, text) :: rest =>
      if name = key then (name, value) :: rest
      else if key < name then (key, value) :: (name, text) :: rest
      else (name, text) :: insertHeader key value rest

-- `size` is what the caller is told, a `uint32_t` that cannot wrap while headers and body are in a memory of
-- 32 bits; `bytes` is all that is written, into a block of `size + 1` bytes
structure Built where
  builder : HttpRequestBuilder
  size : Nat
  bytes : Bytes
deriving DecidableEq, Repr

namespace HttpRequestBuilder

def setHeader (builder : HttpRequestBuilder) (key value : Bytes) : HttpRequestBuilder :=
  { builder with headers := insertHeader key value builder.headers }

def hostHeader (parsedUrl : ParsedUrl) : Bytes :=
  if parsedUrl.schema = str "http" ∧ parsedUrl.port ≠ 80 ∨ parsedUrl.schema = str "https" ∧ parsedUrl.port ≠ 443 then
    parsedUrl.host ++ str ":" ++ decimal parsedUrl.port
  else parsedUrl.host

def new (method : HttpMethod) (parsedUrl : ParsedUrl) : HttpRequestBuilder :=
  ({ method, parsedUrl } : HttpRequestBuilder).setHeader (str "Host") (hostHeader parsedUrl)

def hasHeader (builder : HttpRequestBuilder) (key value : Bytes) : Bool :=
  builder.headers.any fun (name, text) => cstr name = key && cstr text = value

def isChunked (builder : HttpRequestBuilder) : Bool :=
  builder.hasHeader (str "Transfer-Encoding") (str "chunked")

-- `snprintf` with room for nine digits
def withContentLength (builder : HttpRequestBuilder) (bodySize : Nat) : HttpRequestBuilder :=
  if !builder.isChunked &&
      (builder.method = .post || builder.method = .put || builder.method = .delete || 0 < bodySize) then
    builder.setHeader (str "Content-Length") ((decimal bodySize).take 9)
  else builder

def target (builder : HttpRequestBuilder) : Bytes :=
  builder.parsedUrl.path ++ if builder.parsedUrl.query ≠ [] then str "?" ++ builder.parsedUrl.query else []

def requestLine (builder : HttpRequestBuilder) : Bytes :=
  httpMethodStr builder.method ++ str " " ++ builder.target ++ str " HTTP/1.1" ++ crlf

def requestLineSize (builder : HttpRequestBuilder) : Nat :=
  (httpMethodStr builder.method).length + 1 + builder.parsedUrl.path.length +
    (if 0 < builder.parsedUrl.query.length then builder.parsedUrl.query.length + 1 else 0) + 1 + 8 + 2

def headerSize (header : Bytes × Bytes) : Nat := header.1.length + 1 + 1 + header.2.length + 2

/-- The pointer moves on by the lengths of the strings, behind what `sprintf` writes of them. -/
def headerLine (header : Bytes × Bytes) : Bytes :=
  let line := cstr header.1 ++ str ": " ++ cstr header.2 ++ crlf
  line ++ List.replicate (headerSize header - line.length) 0

/-- A body is copied even where it has not been counted. -/
def build (builder : HttpRequestBuilder) (body : Bytes) : Built :=
  let isChunked := builder.isChunked
  let builder := builder.withContentLength body.length
  { builder
    size := builder.requestLineSize + (builder.headers.map headerSize).sum + 2 +
      if !isChunked then body.length else 0
    bytes := builder.requestLine ++ builder.headers.flatMap headerLine ++ crlf ++ body }

end HttpRequestBuilder

/-! ## The request -/

/-- `sends` and `arrivals` are the answers of the socket, which takes nothing behind the last of `sends`. -/
structure Network where
  connection : Int
  sends : List Int
  arrivals : Arrivals

-- the count or the error, and what the socket has taken
def sendBuffer : (totalSendCount : Int) → List Int → (slice : Bytes) → Int × Bytes
  | total, [], _ => (total, [])
  | total, sendResult :: sends, slice =>
      if slice = [] then (total, [])
      else if sendResult < 0 then (sendResult, [])
      else if sendResult = 0 then (total, [])
      else
        let (count, sent) := sendBuffer (total + sendResult) sends (slice.drop sendResult.toNat)
        (count, slice.take sendResult.toNat ++ sent)

-- `executed` says that `_response` is set
structure HttpRequest where
  builder : HttpRequestBuilder
  executed : Bool := false
  error : Int := 0
deriving DecidableEq, Repr

structure Sent where
  request : HttpRequest
  wire : Bytes
  response : Option HttpResponse
deriving DecidableEq, Repr

/-- A count that is too low is no error. None: an assertion of the parser has failed. -/
def HttpRequest.send (request : HttpRequest) (body : Bytes) (network : Network) : Option Sent :=
  if request.executed then some ⟨{ request with error := -2100 }, [], none⟩
  else if network.connection ≠ 0 then some ⟨{ request with error := network.connection }, [], none⟩
  else
    let built := request.builder.build body
    let request := { request with builder := built.builder }
    let (ret, wire) := sendBuffer 0 network.sends (built.bytes.take built.size)
    if ret < 0 then some ⟨{ request with error := ret }, wire, none⟩
    else
      (createHttpResponse network.arrivals).map fun
        | .ok response => ⟨{ request with executed := true }, wire, some response⟩
        | .error error => ⟨{ request with executed := true, error }, wire, none⟩

/-! ## The size of a request -/

theorem length_headerLine (header : Bytes × Bytes) :
    (HttpRequestBuilder.headerLine header).length = HttpRequestBuilder.headerSize header := by
  have key : (cstr header.1).length ≤ header.1.length := (List.takeWhile_sublist _).length_le
  have value : (cstr header.2).length ≤ header.2.length := (List.takeWhile_sublist _).length_le
  have marks : (str ": ").length = 2 ∧ crlf.length = 2 := by decide
  unfold HttpRequestBuilder.headerLine HttpRequestBuilder.headerSize
  simp only [List.length_append, List.length_replicate, marks.1, marks.2]
  omega

theorem length_requestLine (builder : HttpRequestBuilder) :
    builder.requestLine.length = builder.requestLineSize := by
  have marks : (str " ").length = 1 ∧ (str " HTTP/1.1").length = 9 ∧ (str "?").length = 1 ∧ crlf.length = 2 := by decide
  unfold HttpRequestBuilder.requestLine HttpRequestBuilder.requestLineSize HttpRequestBuilder.target
  by_cases empty : builder.parsedUrl.query = []
  · simp only [empty, List.length_append, marks, ne_eq, not_true_eq_false, if_false, List.length_nil, lt_irrefl]
    omega
  · simp only [List.length_append, marks, ne_eq, empty, not_false_eq_true, if_true, List.length_pos_iff.mpr empty]
    omega

theorem length_build (builder : HttpRequestBuilder) (body : Bytes) :
    (builder.build body).bytes.length = (builder.build body).size + if builder.isChunked then body.length else 0 := by
  have lines (headers : List (Bytes × Bytes)) : (headers.flatMap HttpRequestBuilder.headerLine).length =
      (headers.map HttpRequestBuilder.headerSize).sum := by
    rw [List.length_flatMap, List.map_congr_left fun header _ => length_headerLine header]
  have mark : crlf.length = 2 := by decide
  unfold HttpRequestBuilder.build
  simp only [List.length_append, length_requestLine, lines, mark]
  cases builder.isChunked <;> simp

theorem lookup_insertHeader (key value : Bytes) (headers : List (Bytes × Bytes)) :
    (insertHeader key value headers).lookup key = some value := by
  induction headers with
  | nil => simp [insertHeader]
  | cons header rest ih =>
      obtain ⟨name, text⟩ := header
      unfold insertHeader
      split_ifs with same before
      · simp [same]
      · simp
      · have other : (key == name) = false := by simpa using Ne.symm same
        rw [List.lookup_cons, other]
        exact ih

theorem digitsValue_take_decimal (n : Nat) : digitsValue ((decimal n).take 9) = n ↔ n < 10 ^ 9 := by
  have fits := length_decimal_le_iff (n := n) (show 0 < 9 by decide)
  constructor
  · intro same
    have short := @digitsValue_lt ((decimal n).take 9) fun c member =>
      isDigit_of_mem_decimal (List.mem_of_mem_take member)
    rw [same] at short
    exact short.trans_le (Nat.pow_le_pow_right (by decide) (List.length_take_le _ _))
  · intro short
    rw [List.take_of_length_le (fits.mpr short), digitsValue_decimal]

/-- What is written goes beyond the block only where a body is given to a chunked request, and otherwise all
of it is counted. The length that the request names has nine digits at most. -/
theorem build_fits (builder : HttpRequestBuilder) (body : Bytes) :
    ((builder.build body).size + 1 < (builder.build body).bytes.length ↔ builder.isChunked ∧ 1 < body.length) ∧
      (¬ builder.isChunked → (builder.build body).bytes.length = (builder.build body).size ∧
        (body ≠ [] → ∃ digits,
          (builder.build body).builder.headers.lookup (str "Content-Length") = some digits ∧
            (digitsValue digits = body.length ↔ body.length < 10 ^ 9))) := by
  rw [length_build]
  cases chunked : builder.isChunked with
  | true => simp
  | false =>
      refine ⟨by simp, fun _ => ⟨by simp, fun some' => ⟨_, ?_, digitsValue_take_decimal body.length⟩⟩⟩
      have counted : (builder.build body).builder =
          builder.setHeader (str "Content-Length") ((decimal body.length).take 9) := by
        unfold HttpRequestBuilder.build HttpRequestBuilder.withContentLength
        exact if_pos (by simp [chunked, List.length_pos_iff.mpr some'])
      rw [counted]
      exact lookup_insertHeader _ _ _

/-! ## An exchange -/

theorem sendBuffer_whole {sends : List Int} (takes : ∀ sendResult ∈ sends, 0 < sendResult) (total : Int)
    (slice : Bytes) (enough : (slice.length : Int) ≤ sends.sum) :
    ∃ count, total ≤ count ∧ sendBuffer total sends slice = (count, slice) := by
  induction sends generalizing total slice with
  | nil =>
      rw [List.sum_nil] at enough
      exact ⟨total, le_rfl, by rw [sendBuffer, List.length_eq_zero_iff.mp (show slice.length = 0 by omega)]⟩
  | cons sendResult sends ih =>
      obtain ⟨positive, takes⟩ := List.forall_mem_cons.mp takes
      by_cases empty : slice = []
      · exact ⟨total, le_rfl, by rw [sendBuffer, if_pos empty, empty]⟩
      · obtain ⟨count, grows, rest⟩ := ih takes (total + sendResult) (slice.drop sendResult.toNat) (by
          rw [List.sum_cons] at enough
          have some' : 0 ≤ sends.sum := List.sum_nonneg fun r member => (takes r member).le
          rw [List.length_drop]
          omega)
        refine ⟨count, by omega, ?_⟩
        rw [sendBuffer, if_neg empty, if_neg (by omega), if_neg (by omega), rest]
        dsimp only
        rw [List.take_append_drop]

/-- The server gets the request and the caller the reply, and the object of the request serves once. -/
theorem send_reply {request : HttpRequest} {body : Bytes} {network : Network} {reply : Reply}
    (fresh : request.executed = false) (whole : request.builder.isChunked = false)
    (connected : network.connection = 0) (takes : ∀ sendResult ∈ network.sends, 0 < sendResult)
    (enough : ((request.builder.build body).size : Int) ≤ network.sends.sum) (formed : reply.WellFormed)
    (arrives : network.arrivals.segments.flatten = reply.text)
    (closed : ∀ body, reply.payload = .untilClose body → network.arrivals.ending = 0) :
    ∃ sent response, request.send body network = some sent ∧ sent.wire = (request.builder.build body).bytes ∧
      sent.response = some response ∧ response.Answers reply ∧
      ∀ body network, sent.request.send body network = some ⟨{ sent.request with error := -2100 }, [], none⟩ := by
  have length : (request.builder.build body).bytes.length = (request.builder.build body).size := by
    rw [length_build, whole]
    rfl
  have slice : (request.builder.build body).bytes.take (request.builder.build body).size =
      (request.builder.build body).bytes := List.take_of_length_le length.le
  obtain ⟨count, positive, taken⟩ := sendBuffer_whole takes 0 (request.builder.build body).bytes (by omega)
  obtain ⟨response, received, answers⟩ := receive_reply formed network.arrivals arrives closed
  refine ⟨⟨{ request with builder := (request.builder.build body).builder, executed := true },
    (request.builder.build body).bytes, some response⟩, response, ?_, rfl, rfl, answers, fun _ _ => rfl⟩
  unfold HttpRequest.send
  rw [if_neg (by simp [fresh]), if_neg (not_not.mpr connected)]
  dsimp only
  rw [slice, taken]
  dsimp only
  rw [if_neg (by omega)]
  have responded : createHttpResponse network.arrivals = some (.ok response) := received
  rw [responded]
  rfl

def asking : HttpRequest where
  builder := .new .get ⟨str "https", str "here", 443, str "/", str "q=1", []⟩

theorem send_reply_greeting : ∃ sent response, asking.send [] ⟨0, [20, 30], greetingArrivals⟩ = some sent ∧
    sent.wire = str "GET /?q=1 HTTP/1.1" ++ crlf ++ str "Host: here" ++ crlf ++ crlf ∧
    sent.response = some response ∧ response.Answers greeting := by
  obtain ⟨sent, response, executed, wire, received, answers, -⟩ :=
    @send_reply asking [] ⟨0, [20, 30], greetingArrivals⟩ greeting rfl (by decide) rfl (by decide) (by decide)
      wellFormed_greeting flatten_greetingArrivals fun _ _ => rfl
  exact ⟨sent, response, executed, wire.trans (by decide), received, answers⟩

end DecadaEmbedded.Http
