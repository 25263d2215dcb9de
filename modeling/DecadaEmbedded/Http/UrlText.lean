import DecadaEmbedded.Http.UrlFields
import Mathlib.Data.Bool.AllAny

/-!
# URLs as they are written

The parts of a URL, and that they are what is found in its text.
-/

namespace DecadaEmbedded.Http
open Library

inductive HostText where
  | name (text : Bytes)
  | v6 (text : Bytes)

structure UrlParts where
  schema : Bytes
  userinfo : Option Bytes := none
  host : HostText
  port : Option Bytes := none
  path : Bytes := []
  query : Option Bytes := none
  fragment : Option Bytes := none

def HostText.inner : HostText → Bytes
  | name text | v6 text => text

def HostText.text : HostText → Bytes
  | name text => text
  | v6 text => openBracket :: (text ++ [closeBracket])

def isV6Char (c : UInt8) : Bool := isHex c || c = colon || c = 46

inductive HostText.Formed : HostText → Prop
  | name {text : Bytes} (some' : text ≠ []) (chars : ∀ c ∈ text, isHostChar c) : Formed (.name text)
  | v6 {text : Bytes} (some' : text ≠ []) (chars : ∀ c ∈ text, isV6Char c) : Formed (.v6 text)

namespace UrlParts

def userinfoText (url : UrlParts) : Bytes := (url.userinfo.map (· ++ [atSign])).getD []
def portText (url : UrlParts) : Bytes := (url.port.map (colon :: ·)).getD []
def authority (url : UrlParts) : Bytes := url.userinfoText ++ (url.host.text ++ url.portText)
def queryText (url : UrlParts) : Bytes := (url.query.map (question :: ·)).getD []
def fragmentText (url : UrlParts) : Bytes := (url.fragment.map (hash :: ·)).getD []

def text (url : UrlParts) : Bytes :=
  url.schema ++ (str "://" ++ (url.authority ++ (url.path ++ (url.queryText ++ url.fragmentText))))

/-- A fragment needs a path or a query before it. The text is short enough for offsets of 16 bits. -/
structure WellFormed (url : UrlParts) : Prop where
  short : url.text.length < 65536
  schema : url.schema ≠ [] ∧ ∀ c ∈ url.schema, isAlpha c
  userinfo : ∀ userinfo, url.userinfo = some userinfo → userinfo ≠ [] ∧ ∀ c ∈ userinfo, isUserinfoChar c
  host : url.host.Formed
  port : ∀ port, url.port = some port → port ≠ [] ∧ ∀ c ∈ port, isDigit c
  path : url.path = [] ∨ ∃ rest, url.path = slash :: rest ∧ ∀ c ∈ rest, isUrlChar c
  query : ∀ query, url.query = some query → ∀ c ∈ query, isUrlChar c || c = question
  fragment : ∀ fragment, url.fragment = some fragment →
    (url.path ≠ [] ∨ url.query ≠ none) ∧ ∀ c ∈ fragment, isUrlChar c || c = question || c = hash

def portNumber (url : UrlParts) : Nat :=
  if 65535 < digitsValue (url.port.getD []) then 0 else digitsValue (url.port.getD [])

/-- What a request takes from the URL. -/
def read (url : UrlParts) : ParsedUrl where
  schema := url.schema
  host := url.host.inner
  port := if url.portNumber = 0 then if url.schema = str "https" then 443 else 80 else url.portNumber
  path := if url.path = [] then [slash] else url.path
  query := url.query.getD []
  userinfo := url.userinfo.getD []

end UrlParts

/-! ## Characters -/

/-- What the scan of the URL makes of a character, by its class. -/
structure Classed (c : UInt8) : Prop where
  alpha : isAlpha c → parseUrlChar .spacesBeforeUrl c = .schema ∧ parseUrlChar .schema c = .schema ∧ c ≠ 0
  server : isUserinfoChar c ∨ c = openBracket ∨ c = closeBracket →
    parseUrlChar .serverStart c = .server ∧ parseUrlChar .server c = .server ∧
      parseUrlChar .serverWithAt c = .server ∧ c ≠ 0
  url : isUrlChar c → parseUrlChar .path c = .path ∧ c ≠ 0
  query : isUrlChar c || c = question →
    parseUrlChar .queryStringStart c = .queryString ∧ parseUrlChar .queryString c = .queryString ∧ c ≠ 0
  fragment : isUrlChar c || c = question || c = hash →
    (parseUrlChar .fragmentStart c = .fragment ∨ parseUrlChar .fragmentStart c = .fragmentStart) ∧
      parseUrlChar .fragment c = .fragment ∧ c ≠ 0

/-- What the scan of the host makes of it. -/
structure HostClassed (c : UInt8) : Prop where
  userinfo : isUserinfoChar c → parseHostChar .userinfoStart c = .userinfo ∧ parseHostChar .userinfo c = .userinfo
  host : isHostChar c → isUserinfoChar c ∧ parseHostChar .hostStart c = .host ∧ parseHostChar .host c = .host
  v6 : isV6Char c → isUserinfoChar c ∧ parseHostChar .hostV6Start c = .hostV6 ∧ parseHostChar .hostV6 c = .hostV6
  digit : isDigit c →
    isUserinfoChar c ∧ parseHostChar .hostPortStart c = .hostPort ∧ parseHostChar .hostPort c = .hostPort

instance (c : UInt8) : Decidable (Classed c) :=
  decidable_of_iff (_ ∧ _ ∧ _ ∧ _ ∧ _)
    ⟨fun ⟨alpha, server, url, query, fragment⟩ => ⟨alpha, server, url, query, fragment⟩,
    fun ⟨alpha, server, url, query, fragment⟩ => ⟨alpha, server, url, query, fragment⟩⟩

instance (c : UInt8) : Decidable (HostClassed c) :=
  decidable_of_iff (_ ∧ _ ∧ _ ∧ _)
    ⟨fun ⟨userinfo, host, v6, digit⟩ => ⟨userinfo, host, v6, digit⟩,
    fun ⟨userinfo, host, v6, digit⟩ => ⟨userinfo, host, v6, digit⟩⟩

theorem classed_and_hostClassed : ∀ c : UInt8, Classed c ∧ HostClassed c := forall_byte (by decide +kernel)

theorem classed (c : UInt8) : Classed c := (classed_and_hostClassed c).1

theorem hostClassed (c : UInt8) : HostClassed c := (classed_and_hostClassed c).2

/-! ## Pieces of the scan -/

namespace HttpParserUrl
variable {u : HttpParserUrl} {uf : UrlField} {off len : Nat}

theorem lengthen_set : (u.set uf off len).lengthen uf = u.set uf off (len + 1) := by
  have wraps : uint16 (uint16 len + 1) = uint16 (len + 1) := Nat.mod_add_mod ..
  unfold lengthen
  rw [set_same, Option.map_some]
  dsimp only
  rw [wraps]
  unfold set
  rw [Function.update_idem]

/-- A field that lies in the first 65536 bytes is kept as it is set. -/
theorem set_short (short : off + len < 65536) : (u.set uf off len).fieldData uf = some (off, len) := by
  rw [set_same, uint16_of_lt (by omega), uint16_of_lt (by omega)]

theorem move_eq_set (found : u.fieldData uf = some (off, 0)) (p : Nat) : u.move uf p = u.set uf p 0 := by
  rw [move, found]
  rfl

end HttpParserUrl

namespace UrlScan
variable {u : HttpParserUrl} {s before : UrlState} {uf : UrlField} {foundAt : Bool} {off len p : Nat} {c : UInt8}
  {rest : Bytes}

theorem loop_delimiter {oldUf : Option UrlField} (stepped : parseUrlChar before c = s) (mark : s.mark = .delimiter) :
    UrlScan.loop ⟨u, before, oldUf, foundAt⟩ p (c :: rest) = UrlScan.loop ⟨u, s, oldUf, foundAt⟩ (p + 1) rest := by
  rw [UrlScan.loop, UrlScan.step]
  simp only [stepped, mark]

theorem loop_first {oldUf : Option UrlField} (fresh : oldUf ≠ some uf) (stepped : parseUrlChar before c = s)
    (mark : s.mark = .field uf) (plain : s ≠ .serverWithAt) :
    UrlScan.loop ⟨u, before, oldUf, foundAt⟩ p (c :: rest) =
      UrlScan.loop ⟨u.set uf p 1, s, some uf, foundAt⟩ (p + 1) rest := by
  rw [UrlScan.loop, UrlScan.step]
  simp only [stepped, mark, if_neg fresh, decide_eq_false plain, Bool.or_false]

theorem loop_next (stepped : parseUrlChar before c = s) (mark : s.mark = .field uf) :
    UrlScan.loop ⟨u.set uf off len, before, some uf, foundAt⟩ p (c :: rest) =
      UrlScan.loop ⟨u.set uf off (len + 1), s, some uf, foundAt || s = .serverWithAt⟩ (p + 1) rest := by
  rw [UrlScan.loop, UrlScan.step]
  simp only [stepped, mark, if_true]
  rw [HttpParserUrl.lengthen_set]

theorem loop_run {text : Bytes} (stays : ∀ c ∈ text, parseUrlChar s c = s) (mark : s.mark = .field uf)
    (plain : s ≠ .serverWithAt) :
    UrlScan.loop ⟨u.set uf off len, s, some uf, foundAt⟩ p (text ++ rest) =
      UrlScan.loop ⟨u.set uf off (len + text.length), s, some uf, foundAt⟩ (p + text.length) rest := by
  induction text generalizing len p with
  | nil => rfl
  | cons c text ih =>
      obtain ⟨stay, stays⟩ := List.forall_mem_cons.mp stays
      rw [List.cons_append, loop_next stay mark, decide_eq_false plain, Bool.or_false, ih stays, List.length_cons]
      simp only [Nat.add_assoc, Nat.add_comm 1]

/-- A field that begins with the text. -/
theorem loop_field {oldUf : Option UrlField} (fresh : oldUf ≠ some uf) {text : Bytes} (some' : text ≠ [])
    (enters : ∀ c ∈ text, parseUrlChar before c = s) (stays : ∀ c ∈ text, parseUrlChar s c = s)
    (mark : s.mark = .field uf) (plain : s ≠ .serverWithAt) :
    UrlScan.loop ⟨u, before, oldUf, foundAt⟩ p (text ++ rest) =
      UrlScan.loop ⟨u.set uf p text.length, s, some uf, foundAt⟩ (p + text.length) rest := by
  obtain ⟨c, text, rfl⟩ := List.exists_cons_of_ne_nil some'
  obtain ⟨-, stays⟩ := List.forall_mem_cons.mp stays
  rw [List.cons_append, loop_first fresh (enters c List.mem_cons_self) mark plain, loop_run stays mark plain,
    List.length_cons]
  simp only [Nat.add_assoc, Nat.add_comm 1]

theorem loop_fragment {oldUf : Option UrlField} (chars : ∀ c ∈ rest, isUrlChar c || c = question || c = hash)
    (place : s = .fragmentStart ∧ oldUf ≠ some .fragment ∨ s = .fragment ∧ oldUf = some .fragment) :
    ∃ scan, UrlScan.loop ⟨u, s, oldUf, foundAt⟩ p rest = (true, scan) ∧ scan.foundAt = foundAt ∧
      ∀ uf, uf ≠ .fragment → scan.u.fieldData uf = u.fieldData uf := by
  induction rest generalizing u s oldUf p with
  | nil => exact ⟨_, rfl, rfl, fun _ _ => rfl⟩
  | cons c rest ih =>
      obtain ⟨char, chars⟩ := List.forall_mem_cons.mp chars
      obtain ⟨enters, stays, -⟩ := (classed c).fragment char
      rcases place with ⟨rfl, fresh⟩ | ⟨rfl, rfl⟩
      · rcases enters with enters | enters
        · obtain ⟨scan, looped, at', same⟩ :=
            @ih (u.set .fragment p 1) .fragment (p + 1) (some .fragment) chars (.inr ⟨rfl, rfl⟩)
          refine ⟨scan, (loop_first fresh enters rfl (by decide)).trans looped, at', fun uf other => ?_⟩
          rw [same uf other, HttpParserUrl.set_other other]
        · obtain ⟨scan, looped, found⟩ := @ih u .fragmentStart (p + 1) oldUf chars (.inl ⟨rfl, fresh⟩)
          exact ⟨scan, (loop_delimiter enters rfl).trans looped, found⟩
      · obtain ⟨scan, looped, at', same⟩ :=
          @ih (u.lengthen .fragment) .fragment (p + 1) (some .fragment) chars (.inr ⟨rfl, rfl⟩)
        refine ⟨scan, ?_, at', fun uf other => ?_⟩
        · rw [UrlScan.loop, UrlScan.step]
          simp only [stays, UrlState.mark, if_true, decide_eq_false (by decide : ¬ UrlState.fragment = .serverWithAt),
            Bool.or_false]
          exact looped
        · rw [same uf other, HttpParserUrl.lengthen_other other]

end UrlScan

/-! ## The scan of a URL -/

section Text
variable {url : UrlParts} (formed : url.WellFormed)
include formed

theorem host_chars : url.host.text ++ url.portText ≠ [] ∧
    ∀ c ∈ url.host.text ++ url.portText, isUserinfoChar c ∨ c = openBracket ∨ c = closeBracket := by
  have port : ∀ c ∈ url.portText, isUserinfoChar c := by
    unfold UrlParts.portText
    cases given : url.port with
    | none => exact fun c member => nomatch member
    | some port =>
        obtain ⟨-, digits⟩ := formed.port port given
        exact List.forall_mem_cons.mpr ⟨by decide, fun c member => ((hostClassed c).digit (digits c member)).1⟩
  have host : url.host.text ≠ [] ∧
      ∀ c ∈ url.host.text, isUserinfoChar c ∨ c = openBracket ∨ c = closeBracket := by
    have hostFormed := formed.host
    generalize url.host = host at hostFormed ⊢
    cases hostFormed with
    | name some' chars => exact ⟨some', fun c member => .inl ((hostClassed c).host (chars c member)).1⟩
    | v6 some' chars =>
        refine ⟨List.cons_ne_nil _ _, List.forall_mem_cons.mpr ⟨.inr (.inl rfl), List.forall_mem_append.mpr ⟨?_, ?_⟩⟩⟩
        · exact fun c member => .inl ((hostClassed c).v6 (chars c member)).1
        · exact List.forall_mem_singleton.mpr (.inr (.inr rfl))
  exact ⟨List.append_ne_nil_of_left_ne_nil host.1 _,
    List.forall_mem_append.mpr ⟨host.2, fun c member => .inl (port c member)⟩⟩

theorem loop_authority (u : HttpParserUrl) (p : Nat) (rest : Bytes) :
    UrlScan.loop ⟨u, .serverStart, some .schema, false⟩ p (url.authority ++ rest) =
      UrlScan.loop ⟨u.set .host p url.authority.length, .server, some .host, url.userinfo.isSome⟩
        (p + url.authority.length) rest := by
  obtain ⟨some', chars⟩ := host_chars formed
  unfold UrlParts.authority UrlParts.userinfoText
  generalize url.host.text ++ url.portText = tail at some' chars ⊢
  have server (c : UInt8) (member : c ∈ tail) := (classed c).server (chars c member)
  cases given : url.userinfo with
  | none =>
      exact UrlScan.loop_field (by decide) some' (fun c member => (server c member).1)
        (fun c member => (server c member).2.1) rfl (by decide)
  | some userinfo =>
      obtain ⟨filled, infoChars⟩ := formed.userinfo userinfo given
      have info (c : UInt8) (member : c ∈ userinfo) := (classed c).server (.inl (infoChars c member))
      obtain ⟨c, tail, rfl⟩ := List.exists_cons_of_ne_nil some'
      obtain ⟨first, stays⟩ := List.forall_mem_cons.mp server
      simp only [Option.map_some, Option.getD_some, List.append_assoc, List.singleton_append, Option.isSome_some]
      rw [UrlScan.loop_field (by decide) filled (fun c member => (info c member).1)
        (fun c member => (info c member).2.1) rfl (by decide), List.cons_append,
        UrlScan.loop_next (s := .serverWithAt) (by decide) rfl, List.cons_append,
        UrlScan.loop_next (s := .server) first.2.2.1 rfl,
        UrlScan.loop_run (fun c member => (stays c member).2.1) rfl (by decide)]
      simp only [List.length_append, List.length_cons, Bool.false_or, decide_true, Bool.true_or]
      simp only [Nat.add_assoc, Nat.add_comm 1]

theorem loop_path (u : HttpParserUrl) (foundAt : Bool) (p : Nat) (rest : Bytes) :
    UrlScan.loop ⟨u, .server, some .host, foundAt⟩ p (url.path ++ rest) =
      UrlScan.loop ⟨if url.path = [] then u else u.set .path p url.path.length,
        if url.path = [] then .server else .path, some (if url.path = [] then .host else .path), foundAt⟩
        (p + url.path.length) rest := by
  rcases formed.path with empty | ⟨tail, same, chars⟩
  · rw [empty]
    rfl
  · rw [same]
    simp only [List.cons_ne_nil, if_false]
    rw [List.cons_append, UrlScan.loop_first (by decide) (by decide : parseUrlChar .server slash = .path) rfl (by decide),
      UrlScan.loop_run (fun c member => ((classed c).url (chars c member)).1) rfl (by decide), List.length_cons]
    simp only [Nat.add_assoc, Nat.add_comm 1]

theorem loop_query {s : UrlState} {oldUf : Option UrlField} (place : s = .server ∨ s = .path)
    (fresh : oldUf ≠ some .query ∧ oldUf ≠ some .fragment) (u : HttpParserUrl) (foundAt : Bool) (p : Nat)
    (rest : Bytes) :
    ∃ s' oldUf', (s = .path ∨ url.query ≠ none → parseUrlChar s' hash = .fragmentStart) ∧ oldUf' ≠ some .fragment ∧
      UrlScan.loop ⟨u, s, oldUf, foundAt⟩ p (url.queryText ++ rest) =
        UrlScan.loop ⟨if url.query.getD [] = [] then u else u.set .query (p + 1) (url.query.getD []).length,
          s', oldUf', foundAt⟩ (p + url.queryText.length) rest := by
  have enters : parseUrlChar s question = .queryStringStart := by rcases place with rfl | rfl <;> decide
  unfold UrlParts.queryText
  cases given : url.query with
  | none =>
      refine ⟨s, oldUf, fun here => ?_, fresh.2, rfl⟩
      rcases here with rfl | absent
      · decide
      · exact absurd rfl absent
  | some query =>
      have chars := formed.query query given
      simp only [Option.map_some, Option.getD_some, List.cons_append]
      by_cases empty : query = []
      · subst empty
        exact ⟨.queryStringStart, oldUf, fun _ => by decide, fresh.2, UrlScan.loop_delimiter enters rfl⟩
      · refine ⟨.queryString, some .query, fun _ => by decide, by decide, ?_⟩
        rw [UrlScan.loop_delimiter enters rfl, if_neg empty,
          UrlScan.loop_field fresh.1 empty (fun c member => ((classed c).query (chars c member)).1)
            (fun c member => ((classed c).query (chars c member)).2.1) rfl (by decide), List.length_cons]
        simp only [Nat.add_assoc, Nat.add_comm 1]

theorem short_path : url.schema.length + 3 + url.authority.length + url.path.length < 65536 := by
  have short := formed.short
  have marks : (str "://").length = 3 := by decide
  simp only [UrlParts.text, List.length_append, marks] at short
  omega

theorem short_query (some' : url.query.getD [] ≠ []) :
    url.schema.length + 3 + url.authority.length + url.path.length + 1 + (url.query.getD []).length < 65536 := by
  have short := formed.short
  have marks : (str "://").length = 3 := by decide
  have query : url.queryText.length = (url.query.getD []).length + 1 := by
    unfold UrlParts.queryText
    cases given : url.query with
    | none => exact absurd (by rw [given]; rfl) some'
    | some query => rfl
  simp only [UrlParts.text, List.length_append, marks, query] at short
  omega

/-- The fields that the scan leaves, but for the one that nobody reads. -/
structure Scanned (url : UrlParts) (scan : UrlScan) : Prop where
  foundAt : scan.foundAt = url.userinfo.isSome
  schema : scan.u.fieldData .schema = some (0, url.schema.length)
  host : scan.u.fieldData .host = some (url.schema.length + 3, url.authority.length)
  port : scan.u.fieldData .port = none
  userinfo : scan.u.fieldData .userinfo = none
  path : scan.u.fieldData .path = if url.path = [] then none
    else some (url.schema.length + 3 + url.authority.length, url.path.length)
  query : scan.u.fieldData .query = if url.query.getD [] = [] then none
    else some (url.schema.length + 3 + url.authority.length + url.path.length + 1, (url.query.getD []).length)

theorem loop_fragmentText {s : UrlState} {oldUf : Option UrlField} (fresh : oldUf ≠ some .fragment)
    (hashes : url.fragment ≠ none → parseUrlChar s hash = .fragmentStart) (u : HttpParserUrl) (foundAt : Bool)
    (p : Nat) : ∃ scan, UrlScan.loop ⟨u, s, oldUf, foundAt⟩ p url.fragmentText = (true, scan) ∧
      scan.foundAt = foundAt ∧ ∀ uf, uf ≠ .fragment → scan.u.fieldData uf = u.fieldData uf := by
  unfold UrlParts.fragmentText
  cases given : url.fragment with
  | none => exact ⟨_, rfl, rfl, fun _ _ => rfl⟩
  | some fragment =>
      obtain ⟨-, chars⟩ := formed.fragment fragment given
      obtain ⟨scan, looped, found⟩ := @UrlScan.loop_fragment u .fragmentStart foundAt (p + 1) fragment oldUf chars
        (.inl ⟨rfl, fresh⟩)
      exact ⟨scan, (UrlScan.loop_delimiter (hashes (by simp [given])) rfl).trans looped, found⟩

theorem loop_text : ∃ scan, ({} : UrlScan).loop 0 url.text = (true, scan) ∧ Scanned url scan := by
  obtain ⟨some', letters⟩ := formed.schema
  have opened (u : HttpParserUrl) (p : Nat) (rest : Bytes) :
      UrlScan.loop ⟨u, .schema, some .schema, false⟩ p (str "://" ++ rest) =
        UrlScan.loop ⟨u, .serverStart, some .schema, false⟩ (p + 3) rest := by
    rw [(by decide : str "://" = [colon, slash, slash]), List.cons_append, List.cons_append, List.cons_append,
      UrlScan.loop_delimiter (s := .schemaSlash) (by decide) rfl,
      UrlScan.loop_delimiter (s := .schemaSlashSlash) (by decide) rfl,
      UrlScan.loop_delimiter (s := .serverStart) (by decide) rfl]
    rfl
  have place : (if url.path = [] then UrlState.server else .path) = .server ∨
      (if url.path = [] then UrlState.server else .path) = .path := by split_ifs <;> simp
  obtain ⟨s', oldUf', hashes, fresh, queried⟩ := @loop_query url formed _
    (some (if url.path = [] then .host else .path)) place (by split_ifs <;> decide)
    (if url.path = [] then (HttpParserUrl.set {} .schema 0 url.schema.length).set .host (url.schema.length + 3)
        url.authority.length
      else ((HttpParserUrl.set {} .schema 0 url.schema.length).set .host (url.schema.length + 3)
        url.authority.length).set .path (url.schema.length + 3 + url.authority.length) url.path.length)
    url.userinfo.isSome (url.schema.length + 3 + url.authority.length + url.path.length) url.fragmentText
  obtain ⟨scan, ended, foundAt, same⟩ := loop_fragmentText formed fresh (fun given => hashes (by
    obtain ⟨fragment, given⟩ := Option.ne_none_iff_exists'.mp given
    exact (formed.fragment fragment given).1.imp_left fun path => if_neg path)) _ url.userinfo.isSome _
  have path := short_path formed
  have schema (u : HttpParserUrl) :
      (u.set .schema 0 url.schema.length).fieldData .schema = some (0, url.schema.length) :=
    HttpParserUrl.set_short (by omega)
  have host (u : HttpParserUrl) :
      (u.set .host (url.schema.length + 3) url.authority.length).fieldData .host =
        some (url.schema.length + 3, url.authority.length) := HttpParserUrl.set_short (by omega)
  refine ⟨scan, ?_, foundAt, ?schema, ?host, ?port, ?userinfo, ?path, ?query⟩
  · rw [UrlParts.text]
    refine (UrlScan.loop_field (by decide) some' (fun c member => ((classed c).alpha (letters c member)).1)
      (fun c member => ((classed c).alpha (letters c member)).2.1) rfl (by decide)).trans ?_
    rw [opened, loop_authority formed, loop_path formed, Nat.zero_add, queried, ended]
  case schema =>
    rw [same _ (by decide)]
    split_ifs <;> simp [-HttpParserUrl.set_same, HttpParserUrl.set_other, schema]
  case host =>
    rw [same _ (by decide)]
    split_ifs <;> simp [-HttpParserUrl.set_same, HttpParserUrl.set_other, host]
  case port | userinfo =>
    rw [same _ (by decide)]
    split_ifs <;> simp [HttpParserUrl.set_other]
  case path =>
    rw [same _ (by decide)]
    split_ifs <;> simp [-HttpParserUrl.set_same, HttpParserUrl.set_other, HttpParserUrl.set_short path]
  case query =>
    rw [same _ (by decide)]
    split_ifs with empty
    · simp [HttpParserUrl.set_other]
    · simp [HttpParserUrl.set_other]
    · rw [HttpParserUrl.set_short (short_query formed empty)]
    · rw [HttpParserUrl.set_short (short_query formed empty)]

end Text

/-! ## Pieces of the host -/

-- the field that grows in a state
def HostState.field : HostState → Option UrlField
  | host | hostV6 => some .host
  | hostPort => some .port
  | userinfo => some .userinfo
  | _ => none

namespace HttpParserUrl
variable {u : HttpParserUrl} {s t : HostState} {uf : UrlField} {off len p : Nat} {rest text : Bytes}

theorem hostLoop_quiet {c : UInt8} (stepped : parseHostChar s c = t) (quiet : t.field = none)
    (alive : t ≠ .dead ∧ t ≠ .hostV6ZoneStart ∧ t ≠ .hostV6Zone) :
    u.hostLoop s p (c :: rest) = u.hostLoop t (p + 1) rest := by
  rw [hostLoop, stepped, if_neg alive.1]
  cases t <;> simp_all [hostStep, HostState.field]

theorem hostStep_stay (field : s.field = some uf) : (u.set uf off len).hostStep s s p = u.set uf off (len + 1) := by
  rw [← lengthen_set]
  cases s <;> cases field <;> exact congrArg (lengthen · _) (if_neg (not_not.mpr rfl))

theorem hostStep_enter (field : t.field = some uf) (fresh : s ≠ t)
    (host : uf = .host → ∃ off, u.fieldData .host = some (off, 0)) : u.hostStep s t p = u.set uf p 1 := by
  have begun (v : HttpParserUrl) (grown : v = u.set uf p 0) : v.lengthen uf = u.set uf p 1 := by
    rw [grown, lengthen_set]
  cases t <;> cases field
  case host | hostV6 =>
    obtain ⟨off, found⟩ := host rfl
    exact begun _ ((if_pos fresh).trans (move_eq_set found p))
  case hostPort | userinfo => exact begun _ (if_pos fresh)

theorem hostLoop_run (field : s.field = some uf) (stays : ∀ c ∈ text, parseHostChar s c = s) :
    (u.set uf off len).hostLoop s p (text ++ rest) =
      (u.set uf off (len + text.length)).hostLoop s (p + text.length) rest := by
  induction text generalizing len p with
  | nil => rfl
  | cons c text ih =>
      obtain ⟨stay, stays⟩ := List.forall_mem_cons.mp stays
      have alive : s ≠ .dead := by
        rintro rfl
        cases field
      rw [List.cons_append, hostLoop, stay, if_neg alive, hostStep_stay field, ih stays, List.length_cons]
      simp only [Nat.add_assoc, Nat.add_comm 1]

/-- A field that begins with the text. -/
theorem hostLoop_field (field : t.field = some uf) (fresh : s ≠ t)
    (host : uf = .host → ∃ off, u.fieldData .host = some (off, 0)) (some' : text ≠ [])
    (enters : ∀ c ∈ text, parseHostChar s c = t) (stays : ∀ c ∈ text, parseHostChar t c = t) :
    u.hostLoop s p (text ++ rest) = (u.set uf p text.length).hostLoop t (p + text.length) rest := by
  obtain ⟨c, text, rfl⟩ := List.exists_cons_of_ne_nil some'
  obtain ⟨-, stays⟩ := List.forall_mem_cons.mp stays
  have alive : t ≠ .dead := by
    rintro rfl
    cases field
  rw [List.cons_append, hostLoop, enters c List.mem_cons_self, if_neg alive, hostStep_enter field fresh host, hostLoop_run field stays,
    List.length_cons]
  simp only [Nat.add_assoc, Nat.add_comm 1]

end HttpParserUrl

/-! ## The host of a URL -/

-- where what is read of the host begins
def HostText.offset : HostText → Nat
  | name _ => 0
  | v6 _ => 1

section Host
variable {url : UrlParts} (formed : url.WellFormed) {u : HttpParserUrl} {off : Nat}
  (found : u.fieldData .host = some (off, 0))
include formed

theorem hostLoop_userinfo (p : Nat) (rest : Bytes) :
    u.hostLoop (if url.userinfo.isSome then .userinfoStart else .hostStart) p (url.userinfoText ++ rest) =
      (if url.userinfo.isSome then u.set .userinfo p (url.userinfo.getD []).length else u).hostLoop .hostStart
        (p + url.userinfoText.length) rest := by
  unfold UrlParts.userinfoText
  cases given : url.userinfo with
  | none => rfl
  | some userinfo =>
      obtain ⟨some', chars⟩ := formed.userinfo userinfo given
      simp only [Option.isSome_some, if_true, Option.map_some, Option.getD_some, List.append_assoc,
        List.singleton_append]
      rw [HttpParserUrl.hostLoop_field (t := .userinfo) rfl (by decide) (fun here => nomatch here) some'
          (fun c member => ((hostClassed c).userinfo (chars c member)).1)
          (fun c member => ((hostClassed c).userinfo (chars c member)).2),
        HttpParserUrl.hostLoop_quiet (t := .hostStart) (by decide) rfl (by decide)]
      simp [Nat.add_assoc]

theorem hostLoop_port {s : HostState} (ends : s.ends = true) (opens : parseHostChar s colon = .hostPortStart) (p : Nat) :
    u.hostLoop s p url.portText = (true,
      if url.port = none then u else u.set .port (p + 1) (url.port.getD []).length) := by
  unfold UrlParts.portText
  cases given : url.port with
  | none => exact congrArg (·, u) ends
  | some port =>
      obtain ⟨some', digits⟩ := formed.port port given
      simp only [Option.map_some, Option.getD_some]
      rw [HttpParserUrl.hostLoop_quiet opens rfl (by decide), ← List.append_nil port,
        HttpParserUrl.hostLoop_field (t := .hostPort) rfl (by decide) (fun here => nomatch here) some'
          (fun c member => ((hostClassed c).digit (digits c member)).2.1)
          (fun c member => ((hostClassed c).digit (digits c member)).2.2)]
      simp [HttpParserUrl.hostLoop, HostState.ends]

include found in
theorem hostLoop_host (p : Nat) (rest : Bytes) :
    ∃ s : HostState, s.ends = true ∧ parseHostChar s colon = .hostPortStart ∧
      u.hostLoop .hostStart p (url.host.text ++ rest) =
        (u.set .host (p + url.host.offset) url.host.inner.length).hostLoop s (p + url.host.text.length) rest := by
  have hostFormed := formed.host
  generalize url.host = host at hostFormed ⊢
  cases hostFormed with
  | @name text some' chars =>
      refine ⟨.host, rfl, by decide, HttpParserUrl.hostLoop_field rfl (by decide) (fun _ => ⟨off, found⟩) some' ?_ ?_⟩
      · exact fun c member => ((hostClassed c).host (chars c member)).2.1
      · exact fun c member => ((hostClassed c).host (chars c member)).2.2
  | @v6 text some' chars =>
      refine ⟨.hostV6End, rfl, by decide, ?_⟩
      rw [HostText.text, List.cons_append, List.append_assoc, List.singleton_append,
        HttpParserUrl.hostLoop_quiet (t := .hostV6Start) (by decide) rfl (by decide),
        HttpParserUrl.hostLoop_field (t := .hostV6) rfl (by decide) (fun _ => ⟨off, found⟩) some'
          (fun c member => ((hostClassed c).v6 (chars c member)).2.1)
          (fun c member => ((hostClassed c).v6 (chars c member)).2.2),
        HttpParserUrl.hostLoop_quiet (t := .hostV6End) (by decide) rfl (by decide)]
      simp [HostText.offset, HostText.inner, Nat.add_assoc, Nat.add_comm 1]

end Host

/-! ## The parts of a URL -/

theorem HttpParserUrl.text_eq {u : HttpParserUrl} {uf : UrlField} {buf pre part post : Bytes} {off : Nat}
    (split : buf = pre ++ (part ++ post)) (begins : pre.length = off)
    (found : u.fieldData uf = if part = [] then none else some (off, part.length)) : u.text buf uf = part := by
  unfold HttpParserUrl.text
  rw [found]
  split_ifs with empty
  · exact empty.symm
  · dsimp only
    rw [split, ← begins, List.drop_left, List.take_left]

theorem HostText.text_eq (host : HostText) :
    ∃ before after, host.text = before ++ (host.inner ++ after) ∧ before.length = host.offset := by
  cases host with
  | name text => exact ⟨[], [], (List.append_nil _).symm, rfl⟩
  | v6 text => exact ⟨[openBracket], [closeBracket], rfl, rfl⟩

section Read
variable {url : UrlParts} (formed : url.WellFormed)
include formed

theorem strtoul_port {port : Bytes} (given : url.port = some port) :
    strtoul (port ++ (url.path ++ (url.queryText ++ url.fragmentText))) = min ulongMax (digitsValue port) := by
  obtain ⟨some', digits⟩ := formed.port port given
  have ended : (url.path ++ (url.queryText ++ url.fragmentText)).takeWhile isDigit = [] := by
    rcases formed.path with empty | ⟨tail, same, -⟩
    · unfold UrlParts.queryText UrlParts.fragmentText
      rw [empty]
      cases url.query with
      | none =>
          cases url.fragment with
          | none => rfl
          | some fragment => exact List.takeWhile_cons_of_neg (by decide)
      | some query => exact List.takeWhile_cons_of_neg (by decide)
    · rw [same]
      exact List.takeWhile_cons_of_neg (by decide)
  obtain ⟨c, tail, rfl⟩ := List.exists_cons_of_ne_nil some'
  rw [List.cons_append, strtoul_of_isDigit (digits c List.mem_cons_self), ← List.cons_append,
    List.takeWhile_append_of_pos digits, ended, List.append_nil]

theorem short_host : url.schema.length + 3 + url.userinfoText.length + url.host.text.length < 65536 ∧
    url.host.offset + url.host.inner.length ≤ url.host.text.length ∧
    (url.userinfo.getD []).length ≤ url.userinfoText.length := by
  have path := short_path formed
  have authority : url.authority.length =
      url.userinfoText.length + (url.host.text.length + url.portText.length) := by
    rw [UrlParts.authority, List.length_append, List.length_append]
  refine ⟨by omega, ?_, ?_⟩
  · cases url.host with
    | name text => exact (Nat.zero_add _).le
    | v6 text => simp [HostText.offset, HostText.inner, HostText.text, Nat.add_comm 1]
  · unfold UrlParts.userinfoText
    cases url.userinfo <;> simp

theorem short_port {port : Bytes} (given : url.port = some port) :
    url.schema.length + 3 + url.userinfoText.length + url.host.text.length + 1 + port.length < 65536 := by
  have path := short_path formed
  have written : url.portText.length = port.length + 1 := by
    rw [UrlParts.portText, given]
    rfl
  have authority : url.authority.length =
      url.userinfoText.length + (url.host.text.length + url.portText.length) := by
    rw [UrlParts.authority, List.length_append, List.length_append]
  omega

/-- The host and the port of what the scan has left. -/
theorem parseHost_text {scan : UrlScan} (scanned : Scanned url scan) :
    ∃ u, scan.u.parseHost url.text scan.foundAt = (true, u) ∧
      (∀ uf, uf = .schema ∨ uf = .path ∨ uf = .query → u.fieldData uf = scan.u.fieldData uf) ∧
      u.port = scan.u.port ∧
      u.fieldData .userinfo = (if url.userinfo.getD [] = [] then none
        else some (url.schema.length + 3, (url.userinfo.getD []).length)) ∧
      u.fieldData .host = some (url.schema.length + 3 + url.userinfoText.length + url.host.offset, url.host.inner.length) ∧
      u.fieldData .port = if url.port = none then none
        else some (url.schema.length + 3 + url.userinfoText.length + url.host.text.length + 1,
          (url.port.getD []).length) := by
  have authority : (url.text.drop (url.schema.length + 3)).take url.authority.length = url.authority := by
    have pre : url.schema.length + 3 = (url.schema ++ str "://").length := by
      rw [List.length_append]
      rfl
    rw [pre, UrlParts.text, ← List.append_assoc, List.drop_left, List.take_left]
  obtain ⟨host, inner, userinfo⟩ := short_host formed
  have hostSet (u : HttpParserUrl) (len : Nat) (within : len ≤ url.host.inner.length) :
      (u.set .host (url.schema.length + 3 + url.userinfoText.length + url.host.offset) len).fieldData .host =
        some (url.schema.length + 3 + url.userinfoText.length + url.host.offset, len) :=
    HttpParserUrl.set_short (by omega)
  have opened (u : HttpParserUrl) :
      (u.set .host (url.schema.length + 3) 0).fieldData .host = some (url.schema.length + 3, 0) :=
    HttpParserUrl.set_short (by omega)
  have infoSet (u : HttpParserUrl) :
      (u.set .userinfo (url.schema.length + 3) (url.userinfo.getD []).length).fieldData .userinfo =
        some (url.schema.length + 3, (url.userinfo.getD []).length) := HttpParserUrl.set_short (by omega)
  obtain ⟨s, ends, opens, looped⟩ := @hostLoop_host url formed
    (if url.userinfo.isSome then (scan.u.set .host (url.schema.length + 3) 0).set .userinfo
      (url.schema.length + 3) (url.userinfo.getD []).length else scan.u.set .host (url.schema.length + 3) 0)
    (url.schema.length + 3) (by split_ifs <;> simp [-HttpParserUrl.set_same, HttpParserUrl.set_other, opened])
    (url.schema.length + 3 + url.userinfoText.length) url.portText
  unfold HttpParserUrl.parseHost
  rw [scanned.host]
  dsimp only
  rw [authority, scanned.foundAt, UrlParts.authority, hostLoop_userinfo formed, looped, hostLoop_port formed ends opens]
  refine ⟨_, rfl, ?_, ?_, ?_, ?_, ?_⟩
  · rintro uf (rfl | rfl | rfl) <;> split_ifs <;> simp [HttpParserUrl.set_other]
  · split_ifs <;> rfl
  · cases given : url.userinfo with
    | none => split_ifs <;> simp_all [HttpParserUrl.set_other, scanned.userinfo]
    | some userinfo =>
        have some' := (formed.userinfo userinfo given).1
        split_ifs <;> simp_all [-HttpParserUrl.set_same, HttpParserUrl.set_other]
  · split_ifs <;> simp [-HttpParserUrl.set_same, HttpParserUrl.set_other, hostSet]
  · cases given : url.port with
    | none => split_ifs <;> simp_all [HttpParserUrl.set_other, scanned.port]
    | some port =>
        have short := short_port formed given
        simp [uint16_of_lt (Nat.lt_of_le_of_lt (Nat.le_add_right _ _) short),
          uint16_of_lt (Nat.lt_of_le_of_lt (Nat.le_add_left _ _) short)]

/-- The fields of a URL are its parts, and a port that is too large is the only failure. -/
theorem httpParserParseUrl_text : ∃ u,
    httpParserParseUrl url.text = (decide (digitsValue (url.port.getD []) ≤ 65535), u) ∧ u.port = url.portNumber ∧
    u.text url.text .schema = url.schema ∧ u.text url.text .userinfo = url.userinfo.getD [] ∧
    u.text url.text .host = url.host.inner ∧ u.text url.text .path = url.path ∧
    u.text url.text .query = url.query.getD [] := by
  obtain ⟨scan, looped, scanned⟩ := loop_text formed
  have unset : scan.u.port = 0 := by
    obtain ⟨n, -, -, port, -⟩ := @UrlScan.loop_spec {} 0 (fun _ _ _ found => nomatch found) url.text
    rw [looped] at port
    exact port
  obtain ⟨u, hosted, same, samePort, userinfo, host, port⟩ := parseHost_text formed scanned
  have marks : (str "://").length = 3 := by decide
  have texts : u.text url.text .schema = url.schema ∧ u.text url.text .userinfo = url.userinfo.getD [] ∧
      u.text url.text .host = url.host.inner ∧ u.text url.text .path = url.path ∧
      u.text url.text .query = url.query.getD [] := by
    refine ⟨?_, ?_, ?_, ?_, ?_⟩
    · have split : url.text = [] ++ (url.schema ++ (str "://" ++ (url.authority ++
          (url.path ++ (url.queryText ++ url.fragmentText))))) := rfl
      refine HttpParserUrl.text_eq split rfl ?_
      rw [same _ (.inl rfl), scanned.schema, if_neg formed.schema.1]
      rfl
    · cases given : url.userinfo with
      | none =>
          rw [given] at userinfo
          unfold HttpParserUrl.text
          rw [userinfo]
          rfl
      | some info =>
          have split : url.text = (url.schema ++ str "://") ++ (info ++ ([atSign] ++ (url.host.text ++ url.portText) ++
              (url.path ++ (url.queryText ++ url.fragmentText)))) := by
            simp [UrlParts.text, UrlParts.authority, UrlParts.userinfoText, given]
          rw [given] at userinfo
          exact HttpParserUrl.text_eq split (by rw [List.length_append, marks]) userinfo
    · obtain ⟨before, after, whole, begins⟩ := url.host.text_eq
      have split : url.text = (url.schema ++ str "://" ++ url.userinfoText ++ before) ++ (url.host.inner ++
          (after ++ url.portText ++ (url.path ++ (url.queryText ++ url.fragmentText)))) := by
        simp [UrlParts.text, UrlParts.authority, whole]
      have some' : url.host.inner ≠ [] := by
        have hostFormed := formed.host
        generalize url.host = host at hostFormed ⊢
        cases hostFormed with
        | name some' chars | v6 some' chars => exact some'
      refine HttpParserUrl.text_eq split ?_ (host.trans (if_neg some').symm)
      simp only [List.length_append, marks, begins]
    · have split : url.text = (url.schema ++ str "://" ++ url.authority) ++
          (url.path ++ (url.queryText ++ url.fragmentText)) := by
        simp [UrlParts.text]
      refine HttpParserUrl.text_eq split ?_ ((same _ (.inr (.inl rfl))).trans scanned.path)
      simp only [List.length_append, marks]
    · cases given : url.query with
      | none =>
          have absent := (same _ (.inr (.inr rfl))).trans scanned.query
          rw [given] at absent
          unfold HttpParserUrl.text
          rw [absent]
          rfl
      | some query =>
          have split : url.text = (url.schema ++ str "://" ++ url.authority ++ url.path ++ [question]) ++
              (query ++ url.fragmentText) := by
            simp [UrlParts.text, UrlParts.queryText, given]
          have present := (same _ (.inr (.inr rfl))).trans scanned.query
          rw [given] at present
          refine HttpParserUrl.text_eq split ?_ present
          simp only [List.length_append, marks, List.length_singleton]
  unfold httpParserParseUrl
  rw [looped]
  dsimp only
  rw [if_neg (fun both => by simp [scanned.host] at both), if_neg (by simp [scanned.host]), hosted]
  dsimp only
  cases given : url.port with
  | none =>
      rw [port, given, if_pos rfl]
      refine ⟨u, rfl, ?_, texts⟩
      rw [samePort, unset, UrlParts.portNumber, given]
      rfl
  | some digits =>
      have value : strtoul (url.text.drop (url.schema.length + 3 + url.userinfoText.length + url.host.text.length + 1)) =
          min ulongMax (digitsValue digits) := by
        have split : url.text = (url.schema ++ str "://" ++ url.userinfoText ++ url.host.text ++ [colon]) ++
            (digits ++ (url.path ++ (url.queryText ++ url.fragmentText))) := by
          simp [UrlParts.text, UrlParts.authority, UrlParts.portText, given]
        have begins : url.schema.length + 3 + url.userinfoText.length + url.host.text.length + 1 =
            (url.schema ++ str "://" ++ url.userinfoText ++ url.host.text ++ [colon]).length := by
          simp only [List.length_append, marks, List.length_singleton]
        rw [begins, split, List.drop_left, strtoul_port formed given]
      rw [port, given, if_neg (by simp)]
      dsimp only
      rw [value]
      by_cases exceeds : 65535 < digitsValue digits
      · refine ⟨u, ?_, ?_, texts⟩
        · have large : 65535 < min ulongMax (digitsValue digits) := lt_min (by decide) exceeds
          rw [if_pos large, Option.getD_some, decide_eq_false (Nat.not_le.mpr exceeds)]
        · rw [samePort, unset, UrlParts.portNumber, given, Option.getD_some, if_pos exceeds]
      · have small : min ulongMax (digitsValue digits) = digitsValue digits :=
          min_eq_right ((Nat.not_lt.mp exceeds).trans (by decide))
        refine ⟨{ u with port := digitsValue digits }, ?_, ?_, texts⟩
        · rw [small, if_neg exceeds, Option.getD_some, decide_eq_true (Nat.not_lt.mp exceeds)]
        · rw [UrlParts.portNumber, given, Option.getD_some, if_neg exceeds]

theorem text_ne_zero : ∀ c ∈ url.text, c ≠ 0 := by
  have option {part : Option Bytes} {mark : UInt8} (marked : mark ≠ 0)
      (chars : ∀ text, part = some text → ∀ c ∈ text, c ≠ 0) : ∀ c ∈ (part.map (mark :: ·)).getD [], c ≠ 0 := by
    cases part with
    | none => exact fun c member => nomatch member
    | some text => exact List.forall_mem_cons.mpr ⟨marked, chars text rfl⟩
  have server (c : UInt8) (member : c ∈ url.host.text ++ url.portText) :=
    ((classed c).server ((host_chars formed).2 c member)).2.2.2
  have userinfo : ∀ c ∈ url.userinfoText, c ≠ 0 := by
    unfold UrlParts.userinfoText
    cases given : url.userinfo with
    | none => exact fun c member => nomatch member
    | some info =>
        refine List.forall_mem_append.mpr ⟨fun c member => ?_, List.forall_mem_singleton.mpr (by decide)⟩
        exact ((classed c).server (.inl ((formed.userinfo info given).2 c member))).2.2.2
  have path : ∀ c ∈ url.path, c ≠ 0 := by
    rcases formed.path with empty | ⟨tail, same, chars⟩
    · rw [empty]
      exact fun c member => nomatch member
    · rw [same]
      exact List.forall_mem_cons.mpr ⟨by decide, fun c member => ((classed c).url (chars c member)).2⟩
  refine List.forall_mem_append.mpr ⟨fun c member => ((classed c).alpha (formed.schema.2 c member)).2.2, ?_⟩
  refine List.forall_mem_append.mpr ⟨List.all_iff_forall_prop.mp (by decide), ?_⟩
  refine List.forall_mem_append.mpr ⟨List.forall_mem_append.mpr ⟨userinfo, server⟩, ?_⟩
  refine List.forall_mem_append.mpr ⟨path, List.forall_mem_append.mpr ⟨?_, ?_⟩⟩
  · exact option (by decide) fun query given c member => ((classed c).query (formed.query query given c member)).2.2
  · exact option (by decide) fun fragment given c member =>
      ((classed c).fragment ((formed.fragment fragment given).2 c member)).2.2

/-- `ParsedUrl` reads a URL as it was written, with the defaults of what it leaves out. A port that is too
large counts as left out. -/
theorem parsedUrl_text : ParsedUrl.new url.text = url.read := by
  have ended : cstr url.text = url.text :=
    List.takeWhile_eq_self_iff.mpr fun c member => by simpa using text_ne_zero formed c member
  obtain ⟨u, parsed, port, schema, userinfo, host, path, query⟩ := httpParserParseUrl_text formed
  unfold ParsedUrl.new UrlParts.read
  rw [ended]
  dsimp only
  rw [parsed]
  dsimp only
  rw [port, schema, userinfo, host, path, query]

end Read

def apiUrl : UrlParts where
  schema := str "https"
  host := .name (str "api.example.com")
  port := some (str "8443")
  path := str "/service/v2"
  query := some (str "action=get&id=1?2")

theorem parsedUrl_apiUrl : ParsedUrl.new (str "https://api.example.com:8443/service/v2?action=get&id=1?2") =
    ⟨str "https", str "api.example.com", 8443, str "/service/v2", str "action=get&id=1?2", []⟩ := by
  have schema : ∀ c ∈ str "https", isAlpha c := List.all_iff_forall_prop.mp (by decide)
  have name : ∀ c ∈ str "api.example.com", isHostChar c := List.all_iff_forall_prop.mp (by decide)
  have path : ∀ c ∈ str "service/v2", isUrlChar c := List.all_iff_forall_prop.mp (by decide)
  refine @parsedUrl_text apiUrl ⟨by decide, ⟨by decide, schema⟩, (fun info given => nomatch given), .name (by decide) name, ?_,
    .inr ⟨str "service/v2", by decide, path⟩, ?_, (fun fragment given => nomatch given)⟩
  · intro port given
    obtain rfl := Option.some.inj given
    exact ⟨by decide, List.all_iff_forall_prop.mp (by decide)⟩
  · intro query given
    obtain rfl := Option.some.inj given
    exact List.all_iff_forall_prop.mp (by decide)

end DecadaEmbedded.Http
