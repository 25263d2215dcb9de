import DecadaEmbedded.Conversions

/-!
# `lib/HTTP/http_response.h`

The response that the callbacks of the parser fill in. The body is a heap block: `block` is its size
and `body` the bytes copied into it; `outside` says that a copy has gone beyond the block. Memory is
taken as sufficient. The URL and the method, which no response has, are left out, as is the count of
body bytes that nothing reads.
-/

namespace DecadaEmbedded.Http
open Conversions Library

structure HttpResponse where
  statusCode : Nat := 0
  statusMessage : Bytes := []
  headerFields : List Bytes := []
  headerValues : List Bytes := []
  concatHeaderField : Bool := false
  concatHeaderValue : Bool := false
  expectedContentLength : Nat := 0
  isChunked : Bool := false
  isMessageCompleted : Bool := false
  block : Option Nat := none
  body : Bytes := []
  outside : Bool := false
deriving DecidableEq, Repr

-- A number that is no `int` becomes the nearest one, as in the C library of the target
def atoi (text : Bytes) : Int := max intMin (min intMax (leadingInteger (text.dropWhile isSpace)))

def toUint32 (i : Int) : Nat := (i % 4294967296).toNat

def strcicmp (a b : Bytes) : Bool := toLowerCase (cstr a) = toLowerCase (cstr b)

-- `*v[v.size() - 1] = *v[v.size() - 1] + text`
def appendToLast (texts : List Bytes) (text : Bytes) : List Bytes :=
  match texts.getLast? with
  | none => []
  | some last => texts.dropLast ++ [last ++ text]

namespace HttpResponse

def setStatus (response : HttpResponse) (statusCode : Nat) (statusMessage : Bytes) : HttpResponse :=
  { response with statusCode, statusMessage }

def setHeaderField (response : HttpResponse) (field : Bytes) : HttpResponse :=
  { response with
    concatHeaderValue := false
    headerFields :=
      if response.concatHeaderField then appendToLast response.headerFields field
      else response.headerFields ++ [field]
    concatHeaderField := true }

def setHeaderValue (response : HttpResponse) (value : Bytes) : HttpResponse :=
  { response with
    concatHeaderField := false
    headerValues :=
      if response.concatHeaderValue then appendToLast response.headerValues value
      else response.headerValues ++ [value]
    concatHeaderValue := true }

-- the value beside the first field of that name
def contentLength (response : HttpResponse) : Option Bytes :=
  match response.headerFields.findIdx? (strcicmp · (str "content-length")) with
  | none => none
  | some ix => response.headerValues[ix]?

def setHeadersComplete (response : HttpResponse) : HttpResponse :=
  match response.contentLength with
  | none => response
  | some value => { response with expectedContentLength := toUint32 (atoi (cstr value)) }

-- `malloc` and `realloc`, and the copy behind what is there
def setBody (response : HttpResponse) (at' : Bytes) : HttpResponse :=
  let isChunked := response.isChunked || (response.expectedContentLength = 0 && 0 < at'.length)
  let block :=
    if isChunked then response.body.length + at'.length
    else response.block.getD response.expectedContentLength
  { response with
    isChunked
    block := some block
    body := response.body ++ at'
    outside := response.outside || block < response.body.length + at'.length }

def setChunked (response : HttpResponse) : HttpResponse := { response with isChunked := true }

def setMessageComplete (response : HttpResponse) : HttpResponse :=
  { response with isMessageCompleted := true }

end HttpResponse

end DecadaEmbedded.Http
