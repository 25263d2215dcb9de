import DecadaEmbedded.Http.Segments
import DecadaEmbedded.Library.Hexadecimal

/-!
# Replies

What a server means by a response, and the text that it sends: a status line, header lines, and a body
whose end is given by its length, by chunks, or by the end of the stream.
-/

namespace DecadaEmbedded.Http
open Conversions Library

inductive Payload where
  | sized (body : Bytes)
  | chunked (chunks : List Bytes)
  | untilClose (body : Bytes)

def Payload.body : Payload → Bytes
  | .sized body => body
  | .chunked chunks => chunks.flatten
  | .untilClose body => body

structure Header where
  name : Bytes
  value : Bytes

structure Header.WellFormed (header : Header) : Prop where
  named : header.name ≠ []
  name : ∀ ch ∈ header.name, token ch ≠ 0
  filled : header.value ≠ []
  value : ∀ ch ∈ header.value, isHeaderChar ch = true ∧ ¬ lineEnd ch
  starts : ∀ ch ∈ header.value.head?, ch ≠ space ∧ ch ≠ tab

/-- The names that say where a body ends, or that no body follows. -/
def Header.framing (header : Header) : Bool :=
  toLowerCase header.name ∈ [str "content-length", str "transfer-encoding", str "upgrade"]

def crlf : Bytes := [cr, lf]

def Header.text (header : Header) : Bytes := header.name ++ [colon, space] ++ header.value ++ crlf

/-- The header that announces the payload. -/
def Payload.Announces (payload : Payload) (header : Header) : Prop :=
  match payload with
  | .sized body =>
      toLowerCase header.name = str "content-length" ∧ header.value = decimal body.length
  | .chunked _ =>
      toLowerCase header.name = str "transfer-encoding" ∧ toLowerCase header.value = str "chunked"
  | .untilClose _ => False

def chunkText (chunk : Bytes) : Bytes := hexadecimal chunk.length ++ crlf ++ chunk ++ crlf

def Payload.text : Payload → Bytes
  | .sized body => body
  | .chunked chunks => chunks.flatMap chunkText ++ str "0" ++ crlf ++ crlf
  | .untilClose body => body

structure Reply where
  statusCode : Nat
  reason : Bytes
  headers : List Header
  payload : Payload

def Reply.head (reply : Reply) : Bytes :=
  str "HTTP/1.1 " ++ decimal reply.statusCode ++ [space] ++ reply.reason ++ crlf ++
    reply.headers.flatMap Header.text ++ crlf

def Reply.text (reply : Reply) : Bytes := reply.head ++ reply.payload.text

/-- The payload is announced by one header among the others, or by none if it goes on until the stream
ends. -/
def Reply.Announced (reply : Reply) : Prop :=
  match reply.payload with
  | .untilClose _ => ∀ header ∈ reply.headers, header.framing = false
  | payload => ∃ before header after, reply.headers = before ++ header :: after ∧ payload.Announces header ∧
      ∀ other ∈ before ++ after, other.framing = false

structure Reply.WellFormed (reply : Reply) : Prop where
  code : reply.statusCode ≤ 999
  reason : ∀ ch ∈ reply.reason, ¬ lineEnd ch
  headers : ∀ header ∈ reply.headers, header.WellFormed
  announced : reply.Announced
  -- a byte of the head counts at most twice
  short : 2 * reply.head.length ≤ httpMaxHeaderSize
  payload : match reply.payload with
    | .sized body => body.length < 2147483648
    | .chunked chunks => ∀ chunk ∈ chunks, chunk ≠ [] ∧ chunk.length < 4294967296
    | .untilClose _ => reply.statusCode / 100 ≠ 1 ∧ reply.statusCode ≠ 204 ∧ reply.statusCode ≠ 304

end DecadaEmbedded.Http
