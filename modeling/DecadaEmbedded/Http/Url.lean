import DecadaEmbedded.Http.Parser
import DecadaEmbedded.Library.Decimal

/-!
# `http_parser_parse_url` and `lib/HTTP/http_parsed_url.h`

The URL of a request. A field is an offset into the URL and a length, both of 16 bits, which wrap in a URL
that is longer; what has been found before a failure stays, and `ParsedUrl` goes on with it. The URL is not
that of a `CONNECT` request.
-/

namespace DecadaEmbedded.Http
open Conversions Library

/-! ## Characters and states -/

def isAlphanum (c : UInt8) : Bool := isAlpha c || isNum c

def isHex (c : UInt8) : Bool := isNum c || (97 ≤ lower c && lower c ≤ 102)

def isMark (c : UInt8) : Bool := (str "-_.!~*'()").contains c

def isUserinfoChar (c : UInt8) : Bool := isAlphanum c || isMark c || (str "%;:&=+$,").contains c

-- the table `normal_url_char`: neither `#` nor `?`
def isUrlChar (c : UInt8) : Bool := 33 ≤ c && c ≤ 126 && c ≠ 35 && c ≠ 63

def isHostChar (c : UInt8) : Bool := isAlphanum c || c = 46 || c = 45

def slash : UInt8 := 47
def question : UInt8 := 63
def hash : UInt8 := 35
def atSign : UInt8 := 64
def openBracket : UInt8 := 91
def closeBracket : UInt8 := 93

inductive UrlState where
  | dead | spacesBeforeUrl | schema | schemaSlash | schemaSlashSlash | serverStart | server | serverWithAt | path
  | queryStringStart | queryString | fragmentStart | fragment
deriving DecidableEq, Repr

def isBlank (ch : UInt8) : Bool := ch = space || ch = cr || ch = lf || ch = tab || ch = 12

def parseServerChar (ch : UInt8) : UrlState :=
  if ch = slash then .path
  else if ch = question then .queryStringStart
  else if ch = atSign then .serverWithAt
  else if isUserinfoChar ch || ch = openBracket || ch = closeBracket then .server
  else .dead

def parseUrlChar (s : UrlState) (ch : UInt8) : UrlState :=
  if isBlank ch then .dead
  else
    match s with
    | .spacesBeforeUrl => if ch = slash || ch = 42 then .path else if isAlpha ch then .schema else .dead
    | .schema => if isAlpha ch then .schema else if ch = colon then .schemaSlash else .dead
    | .schemaSlash => if ch = slash then .schemaSlashSlash else .dead
    | .schemaSlashSlash => if ch = slash then .serverStart else .dead
    | .serverWithAt => if ch = atSign then .dead else parseServerChar ch
    | .serverStart | .server => parseServerChar ch
    | .path =>
        if isUrlChar ch then .path
        else if ch = question then .queryStringStart
        else if ch = hash then .fragmentStart
        else .dead
    | .queryStringStart | .queryString =>
        if isUrlChar ch || ch = question then .queryString else if ch = hash then .fragmentStart else .dead
    | .fragmentStart =>
        if isUrlChar ch || ch = question then .fragment else if ch = hash then .fragmentStart else .dead
    | .fragment => if isUrlChar ch || ch = question || ch = hash then .fragment else .dead
    | .dead => .dead

inductive UrlField where
  | schema | host | port | path | query | fragment | userinfo
deriving DecidableEq, Repr

/-! ## The fields -/

def uint16 (n : Nat) : Nat := n % 65536

theorem uint16_le (n : Nat) : uint16 n ≤ n := Nat.mod_le ..

theorem uint16_of_lt {n : Nat} (short : n < 65536) : uint16 n = n := Nat.mod_eq_of_lt short

-- the bit of a field in `field_set`, with its data
structure HttpParserUrl where
  fieldData : UrlField → Option (Nat × Nat) := fun _ => none
  port : Nat := 0

namespace HttpParserUrl

def set (u : HttpParserUrl) (uf : UrlField) (off len : Nat) : HttpParserUrl :=
  { u with fieldData := Function.update u.fieldData uf (some (uint16 off, uint16 len)) }

-- `u->field_data[uf].len++`
def lengthen (u : HttpParserUrl) (uf : UrlField) : HttpParserUrl :=
  { u with
    fieldData := Function.update u.fieldData uf ((u.fieldData uf).map fun (off, len) => (off, uint16 (len + 1))) }

-- `u->field_data[uf].off = p - buf`
def move (u : HttpParserUrl) (uf : UrlField) (p : Nat) : HttpParserUrl :=
  { u with fieldData := Function.update u.fieldData uf ((u.fieldData uf).map fun (_, len) => (uint16 p, len)) }

def text (u : HttpParserUrl) (buf : Bytes) (uf : UrlField) : Bytes :=
  match u.fieldData uf with
  | some (off, len) => (buf.drop off).take len
  | none => []

end HttpParserUrl

inductive Mark where
  | unexpected
  | delimiter
  | field (uf : UrlField)

def UrlState.mark : UrlState → Mark
  | dead | spacesBeforeUrl => .unexpected
  | schemaSlash | schemaSlashSlash | serverStart | queryStringStart | fragmentStart => .delimiter
  | schema => .field .schema
  | server | serverWithAt => .field .host
  | path => .field .path
  | queryString => .field .query
  | fragment => .field .fragment

structure UrlScan where
  u : HttpParserUrl := {}
  s : UrlState := .spacesBeforeUrl
  oldUf : Option UrlField := none
  foundAt : Bool := false

/-- The character at `p`, or none where the URL is given up. -/
def UrlScan.step (scan : UrlScan) (p : Nat) (ch : UInt8) : Option UrlScan :=
  let s := parseUrlChar scan.s ch
  match s.mark with
  | .unexpected => none
  | .delimiter => some { scan with s }
  | .field uf =>
      let foundAt := scan.foundAt || s = .serverWithAt
      if scan.oldUf = some uf then some { scan with s, foundAt, u := scan.u.lengthen uf }
      else some { u := scan.u.set uf p 1, s, oldUf := some uf, foundAt }

-- whether the end has been reached, and what has been found
def UrlScan.loop (scan : UrlScan) (p : Nat) : Bytes → Bool × UrlScan
  | [] => (true, scan)
  | ch :: rest =>
      match scan.step p ch with
      | none => (false, scan)
      | some scan => scan.loop (p + 1) rest

/-! ## The host -/

inductive HostState where
  | dead | userinfoStart | userinfo | hostStart | hostV6Start | host | hostV6 | hostV6End | hostV6ZoneStart | hostV6Zone
  | hostPortStart | hostPort
deriving DecidableEq, Repr

def isZoneChar (ch : UInt8) : Bool := isAlphanum ch || (str "%.-_~").contains ch

def parseHostChar (s : HostState) (ch : UInt8) : HostState :=
  match s with
  | .userinfo | .userinfoStart => if ch = atSign then .hostStart else if isUserinfoChar ch then .userinfo else .dead
  | .hostStart => if ch = openBracket then .hostV6Start else if isHostChar ch then .host else .dead
  | .host => if isHostChar ch then .host else if ch = colon then .hostPortStart else .dead
  | .hostV6End => if ch = colon then .hostPortStart else .dead
  | .hostV6 =>
      if ch = closeBracket then .hostV6End
      else if isHex ch || ch = colon || ch = 46 then .hostV6
      else if ch = 37 then .hostV6ZoneStart
      else .dead
  | .hostV6Start => if isHex ch || ch = colon || ch = 46 then .hostV6 else .dead
  | .hostV6Zone =>
      if ch = closeBracket then .hostV6End else if isZoneChar ch then .hostV6Zone else .dead
  | .hostV6ZoneStart => if isZoneChar ch then .hostV6Zone else .dead
  | .hostPort | .hostPortStart => if isNum ch then .hostPort else .dead
  | .dead => .dead

-- the fields after a step from `s` to `newS` at `p`
def HttpParserUrl.hostStep (u : HttpParserUrl) (s newS : HostState) (p : Nat) : HttpParserUrl :=
  match newS with
  | .host | .hostV6 => (if s ≠ newS then u.move .host p else u).lengthen .host
  | .hostV6ZoneStart | .hostV6Zone => u.lengthen .host
  | .hostPort => (if s ≠ newS then u.set .port p 0 else u).lengthen .port
  | .userinfo => (if s ≠ newS then u.set .userinfo p 0 else u).lengthen .userinfo
  | _ => u

def HostState.ends : HostState → Bool
  | hostStart | hostV6Start | hostV6 | hostV6ZoneStart | hostV6Zone | hostPortStart | userinfo | userinfoStart => false
  | _ => true

def HttpParserUrl.hostLoop (u : HttpParserUrl) (s : HostState) (p : Nat) : Bytes → Bool × HttpParserUrl
  | [] => (s.ends, u)
  | ch :: rest =>
      let newS := parseHostChar s ch
      if newS = .dead then (false, u) else (u.hostStep s newS p).hostLoop newS (p + 1) rest

-- it is asserted that there is a host
def HttpParserUrl.parseHost (u : HttpParserUrl) (buf : Bytes) (foundAt : Bool) : Bool × HttpParserUrl :=
  match u.fieldData .host with
  | none => (false, u)
  | some (off, len) =>
      (u.set .host off 0).hostLoop (if foundAt then .userinfoStart else .hostStart) off ((buf.drop off).take len)

def ulongMax : Nat := 4294967295

-- A sign before the number negates it. It is called at a digit unless the offset of the port has wrapped.
def strtoul (text : Bytes) : Nat :=
  match text.dropWhile isSpace with
  | 45 :: rest =>
      let value := digitsValue (rest.takeWhile isDigit)
      if ulongMax < value then ulongMax else (ulongMax + 1 - value) % (ulongMax + 1)
  | 43 :: rest => min ulongMax (digitsValue (rest.takeWhile isDigit))
  | text => min ulongMax (digitsValue (text.takeWhile isDigit))

/-- Whether the result is 0, and the fields. -/
def httpParserParseUrl (buf : Bytes) : Bool × HttpParserUrl :=
  match ({} : UrlScan).loop 0 buf with
  | (false, scan) => (false, scan.u)
  | (true, scan) =>
      let u := scan.u
      if u.fieldData .schema ≠ none ∧ u.fieldData .host = none then (false, u)
      else
        match if u.fieldData .host = none then (true, u) else u.parseHost buf scan.foundAt with
        | (false, u) => (false, u)
        | (true, u) =>
            match u.fieldData .port with
            | none => (true, u)
            | some (off, _) =>
                let v := strtoul (buf.drop off)
                if 65535 < v then (false, u) else (true, { u with port := v })

/-! ## `ParsedUrl` -/

structure ParsedUrl where
  schema : Bytes
  host : Bytes
  port : Nat
  path : Bytes
  query : Bytes
  userinfo : Bytes
deriving DecidableEq, Repr

-- the result of the parser is not looked at
def ParsedUrl.new (url : Bytes) : ParsedUrl :=
  let buf := cstr url
  let (_, u) := httpParserParseUrl buf
  let schema := u.text buf .schema
  let path := u.text buf .path
  { schema
    host := u.text buf .host
    port := if u.port = 0 then if schema = str "https" then 443 else 80 else u.port
    path := if path = [] then [slash] else path
    query := u.text buf .query
    userinfo := u.text buf .userinfo }

end DecadaEmbedded.Http
