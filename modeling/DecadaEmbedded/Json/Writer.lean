import DecadaEmbedded.Json.Reader
import DecadaEmbedded.Library.BigEndian
import Mathlib.Tactic.SplitIfs

/-!
# `Json::FastWriter` of the bundled jsoncpp 1.8.4

The writer with its default options. A `real` of a value to be written holds what `valueToString`
prints with 15 digits. The reader takes a written string for itself where it is well-formed UTF-8;
in other strings the writer puts replacement characters.
-/

namespace DecadaEmbedded.Json.Writer
open Library Reader Value

def isAnyCharRequiredQuoting (s : Bytes) : Bool := s.any fun c => c = 92 || c = 34 || c < 32 || c < 0x80

def replacementCharacter : Nat := 0xFFFD

/-- The code point that starts with the byte `first`, and what is left behind it. -/
def utf8ToCodepoint (first : UInt8) (rest : Bytes) : Nat × Bytes :=
  if first < 0x80 then (first.toNat, rest)
  else if first < 0xE0 then
    match rest with
    | s1 :: rest =>
        let calculated := ((first.toNat &&& 0x1F) <<< 6) ||| (s1.toNat &&& 0x3F)
        (if calculated < 0x80 then replacementCharacter else calculated, rest)
    | rest => (replacementCharacter, rest)
  else if first < 0xF0 then
    match rest with
    | s1 :: s2 :: rest =>
        let calculated :=
          ((first.toNat &&& 0x0F) <<< 12) ||| ((s1.toNat &&& 0x3F) <<< 6) ||| (s2.toNat &&& 0x3F)
        (if 0xD800 ≤ calculated ∧ calculated ≤ 0xDFFF then replacementCharacter
          else if calculated < 0x800 then replacementCharacter else calculated, rest)
    | rest => (replacementCharacter, rest)
  else if first < 0xF8 then
    match rest with
    | s1 :: s2 :: s3 :: rest =>
        let calculated := ((first.toNat &&& 0x07) <<< 18) ||| ((s1.toNat &&& 0x3F) <<< 12) |||
          ((s2.toNat &&& 0x3F) <<< 6) ||| (s3.toNat &&& 0x3F)
        (if calculated < 0x10000 then replacementCharacter else calculated, rest)
    | rest => (replacementCharacter, rest)
  else (replacementCharacter, rest)

def hexChar (digit : Nat) : UInt8 := if digit < 10 then UInt8.ofNat (48 + digit) else UInt8.ofNat (87 + digit)

def toHex16Bit (x : Nat) : Bytes :=
  [hexChar (x / 4096 % 16), hexChar (x / 256 % 16), hexChar (x / 16 % 16), hexChar (x % 16)]

def shortEscape (c : UInt8) : Option UInt8 :=
  match Char.ofUInt8 c with
  | '"' => some 34
  | '\\' => some 92
  | '\x08' => some 98
  | '\x0c' => some 102
  | '\n' => some 110
  | '\r' => some 114
  | '\t' => some 116
  | _ => none

def codepointText (cp : Nat) : Bytes :=
  if cp < 0x80 ∧ 0x20 ≤ cp then [UInt8.ofNat cp]
  else if cp < 0x10000 then 92 :: 117 :: toHex16Bit cp
  else
    92 :: 117 :: toHex16Bit (((cp - 0x10000) >>> 10) + 0xD800) ++
      92 :: 117 :: toHex16Bit (((cp - 0x10000) &&& 0x3FF) + 0xDC00)

/-- The text between the quotes; a character takes a byte or more, so a bound of the length is never
reached. -/
def quotedBody : Nat → Bytes → Bytes
  | 0, _ => []
  | _ + 1, [] => []
  | bound + 1, c :: rest =>
      match shortEscape c with
      | some e => 92 :: e :: quotedBody bound rest
      | none =>
          let (cp, rest) := utf8ToCodepoint c rest
          codepointText cp ++ quotedBody bound rest

def valueToQuotedString (value : Bytes) : Bytes :=
  if isAnyCharRequiredQuoting value then 34 :: quotedBody value.length value ++ [34]
  else 34 :: cstr value ++ [34]

mutual

def writeValue : Value → Bytes
  | .null => str "null"
  | .boolean b => if b then str "true" else str "false"
  | .int i => decimalInt i
  | .uint n => decimal n
  | .real text => text
  | .string s => valueToQuotedString s
  | .array items => str "[" ++ writeItems items ++ str "]"
  | .object members => str "\x7b" ++ writeMembers members ++ str "\x7d"

def writeItems : List Value → Bytes
  | [] => []
  | [item] => writeValue item
  | item :: items => writeValue item ++ str "," ++ writeItems items

def writeMembers : List (Bytes × Value) → Bytes
  | [] => []
  | [(name, value)] => valueToQuotedString name ++ str ":" ++ writeValue value
  | (name, value) :: members =>
      valueToQuotedString name ++ str ":" ++ writeValue value ++ str "," ++ writeMembers members

end

def write (root : Value) : Bytes := writeValue root ++ [10]

/-! ## Strings of well-formed UTF-8 -/

def Utf8 (s : Bytes) : Prop := ∃ chars : List Char, s = chars.flatMap String.utf8EncodeChar

theorem utf8_str {literal : String} (ascii : str literal = literal.toList.flatMap String.utf8EncodeChar) :
    Utf8 (str literal) := ⟨literal.toList, ascii⟩

theorem and_seven (x : Nat) : x &&& 0x07 = x % 8 := Nat.and_two_pow_sub_one_eq_mod x 3

theorem and_fifteen (x : Nat) : x &&& 0x0F = x % 16 := Nat.and_two_pow_sub_one_eq_mod x 4

theorem and_thirtyOne (x : Nat) : x &&& 0x1F = x % 32 := Nat.and_two_pow_sub_one_eq_mod x 5

theorem and_sixtyThree (x : Nat) : x &&& 0x3F = x % 64 := Nat.and_two_pow_sub_one_eq_mod x 6

theorem or_six (a : Nat) {b : Nat} (b64 : b < 64) : a <<< 6 ||| b = a * 64 + b := by
  rw [← Nat.shiftLeft_add_eq_or_of_lt b64, Nat.shiftLeft_eq]

theorem or_twelve (a : Nat) {b c : Nat} (b64 : b < 64) (c64 : c < 64) :
    a <<< 12 ||| b <<< 6 ||| c = (a * 64 + b) * 64 + c := by
  rw [Nat.shiftLeft_add a 6 6, ← Nat.shiftLeft_or_distrib, or_six a b64, or_six _ c64]

theorem or_eighteen (a : Nat) {b c d : Nat} (b64 : b < 64) (c64 : c < 64) (d64 : d < 64) :
    a <<< 18 ||| b <<< 12 ||| c <<< 6 ||| d = ((a * 64 + b) * 64 + c) * 64 + d := by
  rw [Nat.shiftLeft_add a 12 6, Nat.shiftLeft_add b 6 6, ← Nat.shiftLeft_or_distrib,
    ← Nat.shiftLeft_or_distrib, or_twelve a b64 c64, or_six _ d64]

theorem utf8ToCodepoint_two {v : Nat} (low : 0x80 ≤ v) (high : v ≤ 0x7FF) (rest : Bytes) :
    utf8ToCodepoint (UInt8.ofNat (v / 64 % 0x20 + 0xc0)) (UInt8.ofNat (v % 0x40 + 0x80) :: rest) =
      (v, rest) := by
  have lead := @toNat_ofNat_of_lt (v / 64 % 0x20 + 0xc0) (by omega)
  have tail := @toNat_ofNat_of_lt (v % 0x40 + 0x80) (by omega)
  simp only [utf8ToCodepoint, UInt8.lt_iff_toNat_lt, lead, tail, and_thirtyOne, and_sixtyThree]
  rw [if_neg (by simp), if_pos (by simp; omega), or_six _ (Nat.mod_lt _ (by decide)),
    if_neg (by omega)]
  exact Prod.ext (by dsimp only; omega) rfl

theorem utf8ToCodepoint_three {v : Nat} (low : 0x800 ≤ v) (high : v ≤ 0xFFFF)
    (scalar : v < 0xD800 ∨ 0xDFFF < v) (rest : Bytes) :
    utf8ToCodepoint (UInt8.ofNat (v / 4096 % 0x10 + 0xe0))
        (UInt8.ofNat (v / 64 % 0x40 + 0x80) :: UInt8.ofNat (v % 0x40 + 0x80) :: rest) = (v, rest) := by
  have lead := @toNat_ofNat_of_lt (v / 4096 % 0x10 + 0xe0) (by omega)
  have middle := @toNat_ofNat_of_lt (v / 64 % 0x40 + 0x80) (by omega)
  have tail := @toNat_ofNat_of_lt (v % 0x40 + 0x80) (by omega)
  have value : (v / 4096 % 16 + 224) % 16 * 64 + (v / 64 % 64 + 128) % 64 = v / 64 := by omega
  simp only [utf8ToCodepoint, UInt8.lt_iff_toNat_lt, lead, middle, tail, and_fifteen, and_sixtyThree]
  rw [if_neg (by simp), if_neg (by simp), if_pos (by simp; omega),
    or_twelve _ (Nat.mod_lt _ (by decide)) (Nat.mod_lt _ (by decide)), value, if_neg (by omega),
    if_neg (by omega)]
  exact Prod.ext (by dsimp only; omega) rfl

theorem utf8ToCodepoint_four {v : Nat} (low : 0x10000 ≤ v) (high : v < 0x110000) (rest : Bytes) :
    utf8ToCodepoint (UInt8.ofNat (v / 262144 % 0x08 + 0xf0))
        (UInt8.ofNat (v / 4096 % 0x40 + 0x80) :: UInt8.ofNat (v / 64 % 0x40 + 0x80) ::
          UInt8.ofNat (v % 0x40 + 0x80) :: rest) = (v, rest) := by
  have lead := @toNat_ofNat_of_lt (v / 262144 % 0x08 + 0xf0) (by omega)
  have second := @toNat_ofNat_of_lt (v / 4096 % 0x40 + 0x80) (by omega)
  have third := @toNat_ofNat_of_lt (v / 64 % 0x40 + 0x80) (by omega)
  have tail := @toNat_ofNat_of_lt (v % 0x40 + 0x80) (by omega)
  have upper : (v / 262144 % 8 + 240) % 8 * 64 + (v / 4096 % 64 + 128) % 64 = v / 4096 := by omega
  have value : v / 4096 * 64 + (v / 64 % 64 + 128) % 64 = v / 64 := by omega
  simp only [utf8ToCodepoint, UInt8.lt_iff_toNat_lt, lead, second, third, tail, and_seven, and_sixtyThree]
  rw [if_neg (by simp), if_neg (by simp), if_neg (by simp), if_pos (by simp; omega),
    or_eighteen _ (Nat.mod_lt _ (by decide)) (Nat.mod_lt _ (by decide)) (Nat.mod_lt _ (by decide)),
    upper, value, if_neg (by omega)]
  exact Prod.ext (by dsimp only; omega) rfl

/-- A byte of 128 or more starts the character, or the character is the byte. -/
theorem utf8ToCodepoint_encode (char : Char) (rest : Bytes) :
    ∃ first tail, String.utf8EncodeChar char ++ rest = first :: tail ∧
      utf8ToCodepoint first tail = (char.toNat, rest) ∧
      (char.toNat < 0x80 ∧ first = UInt8.ofNat char.toNat ∨ 0x80 ≤ char.toNat ∧ 0x80 ≤ first.toNat) := by
  have scalar : char.toNat < 0xD800 ∨ 0xDFFF < char.toNat ∧ char.toNat < 0x110000 := char.valid
  simp only [String.utf8EncodeChar, show char.val.toNat = char.toNat from rfl]
  split_ifs with one two three
  · refine ⟨_, _, rfl, ?_, .inl ⟨by omega, rfl⟩⟩
    simp only [utf8ToCodepoint, UInt8.lt_iff_toNat_lt, @toNat_ofNat_of_lt char.toNat (by omega)]
    rw [if_pos (by simp; omega)]
    rfl
  · refine ⟨_, _, rfl, utf8ToCodepoint_two (by omega) two rest, .inr ⟨by omega, ?_⟩⟩
    rw [@toNat_ofNat_of_lt _ (by omega)]
    omega
  · refine ⟨_, _, rfl, utf8ToCodepoint_three (by omega) three (by omega) rest, .inr ⟨by omega, ?_⟩⟩
    rw [@toNat_ofNat_of_lt _ (by omega)]
    omega
  · refine ⟨_, _, rfl, utf8ToCodepoint_four (by omega) (by omega) rest, .inr ⟨by omega, ?_⟩⟩
    rw [@toNat_ofNat_of_lt _ (by omega)]
    omega

theorem or_0x80 {x : Nat} (small : x < 64) : 0x80 ||| x = x + 0x80 := by
  rw [Nat.add_comm]
  exact (Nat.shiftLeft_add_eq_or_of_lt (by omega : x < 2 ^ 7) 1).symm

theorem or_0xC0 {x : Nat} (small : x < 32) : 0xC0 ||| x = x + 0xC0 := by
  rw [Nat.add_comm]
  exact (Nat.shiftLeft_add_eq_or_of_lt (by omega : x < 2 ^ 6) 3).symm

theorem or_0xE0 {x : Nat} (small : x < 16) : 0xE0 ||| x = x + 0xE0 := by
  rw [Nat.add_comm]
  exact (Nat.shiftLeft_add_eq_or_of_lt (by omega : x < 2 ^ 5) 7).symm

theorem or_0xF0 {x : Nat} (small : x < 8) : 0xF0 ||| x = x + 0xF0 := by
  rw [Nat.add_comm]
  exact (Nat.shiftLeft_add_eq_or_of_lt (by omega : x < 2 ^ 4) 15).symm

theorem codePointToUTF8_eq (char : Char) : codePointToUTF8 char.toNat = String.utf8EncodeChar char := by
  have scalar : char.toNat < 0xD800 ∨ 0xDFFF < char.toNat ∧ char.toNat < 0x110000 := char.valid
  simp only [codePointToUTF8, String.utf8EncodeChar, show char.val.toNat = char.toNat from rfl,
    Nat.and_comm 0x7, Nat.and_comm 0xf, Nat.and_comm 0x1f, Nat.and_comm 0x3f, and_seven, and_fifteen,
    and_thirtyOne, and_sixtyThree, Nat.shiftRight_eq_div_pow]
  split_ifs with one two three four
  · rfl
  · rw [or_0xC0 (Nat.mod_lt _ (by decide)), or_0x80 (Nat.mod_lt _ (by decide))]
  · rw [or_0xE0 (Nat.mod_lt _ (by decide)), or_0x80 (Nat.mod_lt _ (by decide)),
      or_0x80 (Nat.mod_lt _ (by decide))]
  · rw [or_0xF0 (Nat.mod_lt _ (by decide)), or_0x80 (Nat.mod_lt _ (by decide)),
      or_0x80 (Nat.mod_lt _ (by decide)), or_0x80 (Nat.mod_lt _ (by decide))]
  · omega

def Closed (text : Bytes) : Prop :=
  ∀ rest, readString (text ++ rest) = (readString rest).map fun (body, left) => (text ++ body, left)

/-- Inside a string the reader takes `text` for `bytes`. -/
structure Spells (text bytes : Bytes) : Prop where
  closed : Closed text
  decoded : ∀ rest, decodeStringBody (text ++ rest) = (decodeStringBody rest).map (bytes ++ ·)

theorem Closed.append {text text' : Bytes} (first : Closed text) (second : Closed text') :
    Closed (text ++ text') := by
  intro rest
  rw [List.append_assoc, first, second, Option.map_map]
  simp [Function.comp_def]

theorem Spells.append {text text' bytes bytes' : Bytes} (first : Spells text bytes)
    (second : Spells text' bytes') : Spells (text ++ text') (bytes ++ bytes') where
  closed := first.closed.append second.closed
  decoded := by
    intro rest
    rw [List.append_assoc, first.decoded, second.decoded, Option.map_map]
    simp [Function.comp_def]

theorem spells_flatMap {text bytes : Char → Bytes} {chars : List Char}
    (each : ∀ char ∈ chars, Spells (text char) (bytes char)) :
    Spells (chars.flatMap text) (chars.flatMap bytes) := by
  induction chars with
  | nil => exact ⟨fun rest => by simp, fun rest => by simp⟩
  | cons char chars ih =>
      rw [List.flatMap_cons, List.flatMap_cons]
      exact (each char (by simp)).append (ih fun other member => each other (by simp [member]))

theorem ofUInt8_injective {c d : UInt8} (same : Char.ofUInt8 c = Char.ofUInt8 d) : c = d := by
  have value : c.toUInt32.toNat = d.toUInt32.toNat := congrArg (fun char => char.val.toNat) same
  rwa [UInt8.toNat_toUInt32, UInt8.toNat_toUInt32, UInt8.toNat_inj] at value

theorem closed_plain {c : UInt8} (quote : c ≠ 34) (backslash : c ≠ 92) : Closed [c] := by
  intro rest
  rw [List.singleton_append, readString.eq_def]
  dsimp only
  split
  · rename_i same
    exact absurd (@ofUInt8_injective c 92 same) backslash
  · rename_i same
    exact absurd (@ofUInt8_injective c 34 same) quote
  · rfl

theorem spells_plain {c : UInt8} (quote : c ≠ 34) (backslash : c ≠ 92) : Spells [c] [c] where
  closed := closed_plain quote backslash
  decoded := by
    intro rest
    rw [List.singleton_append, decodeStringBody.eq_def]
    simp [quote, backslash]

theorem spells_shortEscape {c e : UInt8} (escape : simpleEscape e = some c) : Spells [92, e] [c] where
  closed := fun rest => rfl
  decoded := by
    intro rest
    rw [List.cons_append, List.singleton_append, decodeStringBody.eq_def]
    simp [escape]

theorem hexChar_digit {digit : Nat} (small : digit < 16) :
    hexDigit (hexChar digit) = some digit ∧ hexChar digit ≠ 34 ∧ hexChar digit ≠ 92 := by
  have all : ∀ digit < 16,
      hexDigit (hexChar digit) = some digit ∧ hexChar digit ≠ 34 ∧ hexChar digit ≠ 92 := by
    decide
  exact all digit small

theorem decode_toHex16Bit {x : Nat} (small : x < 65536) :
    decodeUnicodeEscapeSequence (hexChar (x / 4096 % 16)) (hexChar (x / 256 % 16))
      (hexChar (x / 16 % 16)) (hexChar (x % 16)) = some x := by
  simp only [decodeUnicodeEscapeSequence, (hexChar_digit (Nat.mod_lt _ (by decide))).1]
  simp only [Option.bind_eq_bind, Option.bind_some, Option.pure_def, Option.some.injEq]
  omega

theorem closed_hexEscape (x : Nat) : Closed (92 :: 117 :: toHex16Bit x) := by
  have start : Closed [92, 117] := fun rest => rfl
  have digit (d : Nat) : Closed [hexChar (d % 16)] :=
    have plain := (hexChar_digit (Nat.mod_lt d (by decide : 16 > 0))).2
    closed_plain plain.1 plain.2
  exact start.append ((digit _).append ((digit _).append ((digit _).append (digit x))))

theorem spells_hexEscape {cp : Nat} (plane : cp < 0x10000) (scalar : cp < 0xD800 ∨ 0xDFFF < cp) :
    Spells (92 :: 117 :: toHex16Bit cp) (codePointToUTF8 cp) where
  closed := closed_hexEscape cp
  decoded := by
    intro rest
    have noSurrogate : ¬ (0xD800 ≤ cp ∧ cp ≤ 0xDBFF) := by omega
    rw [decodeStringBody.eq_def]
    simp only [toHex16Bit, List.cons_append, List.nil_append, decode_toHex16Bit plane, noSurrogate,
      show simpleEscape 117 = none from rfl, ↓reduceIte]
    rfl

theorem spells_surrogatePair {high low cp : Nat} (leading : 0xD800 ≤ high ∧ high ≤ 0xDBFF)
    (trailing : low < 0x10000)
    (value : 0x10000 + ((high &&& 0x3FF) <<< 10) + (low &&& 0x3FF) = cp) :
    Spells (92 :: 117 :: toHex16Bit high ++ 92 :: 117 :: toHex16Bit low) (codePointToUTF8 cp) where
  closed := (closed_hexEscape high).append (closed_hexEscape low)
  decoded := by
    intro rest
    have plane : high < 0x10000 := by omega
    rw [decodeStringBody.eq_def]
    simp only [toHex16Bit, List.cons_append, List.nil_append, decode_toHex16Bit plane,
      decode_toHex16Bit trailing, leading, show simpleEscape 117 = none from rfl, ↓reduceIte, and_self,
      value]
    rfl

theorem spells_surrogates {cp : Nat} (low : 0x10000 ≤ cp) (high : cp < 0x110000) :
    Spells (92 :: 117 :: toHex16Bit (((cp - 0x10000) >>> 10) + 0xD800) ++
      92 :: 117 :: toHex16Bit (((cp - 0x10000) &&& 0x3FF) + 0xDC00)) (codePointToUTF8 cp) := by
  have shift : (cp - 0x10000) >>> 10 = (cp - 0x10000) / 1024 := Nat.shiftRight_eq_div_pow _ 10
  have mask (x : Nat) : x &&& 0x3FF = x % 1024 := Nat.and_two_pow_sub_one_eq_mod x 10
  rw [shift, mask]
  apply spells_surrogatePair
  · omega
  · omega
  · rw [mask, mask, Nat.shiftLeft_eq]
    omega

def charText (char : Char) : Bytes :=
  match (if char.toNat < 0x80 then shortEscape (UInt8.ofNat char.toNat) else none) with
  | some e => [92, e]
  | none => codepointText char.toNat

theorem simpleEscape_of_shortEscape {n : Nat} {e : UInt8} (ascii : n < 0x80)
    (escape : shortEscape (UInt8.ofNat n) = some e) : simpleEscape e = some (UInt8.ofNat n) := by
  have all : ∀ n < 0x80,
      ((shortEscape (UInt8.ofNat n)).all fun e => simpleEscape e = some (UInt8.ofNat n)) = true := by
    decide +kernel
  have here := all n ascii
  rw [escape] at here
  exact of_decide_eq_true here

theorem plain_of_shortEscape {n : Nat} (ascii : n < 0x80)
    (unescaped : shortEscape (UInt8.ofNat n) = none) : UInt8.ofNat n ≠ 34 ∧ UInt8.ofNat n ≠ 92 := by
  have all : ∀ n < 0x80, shortEscape (UInt8.ofNat n) = none →
      UInt8.ofNat n ≠ 34 ∧ UInt8.ofNat n ≠ 92 := by
    decide +kernel
  exact all n ascii unescaped

theorem shortEscape_of_le {c : UInt8} (high : 0x80 ≤ c.toNat) : shortEscape c = none := by
  have all : ∀ byte : UInt8, 0x80 ≤ byte.toNat → shortEscape byte = none :=
    forall_byte (by decide +kernel)
  exact all c high

theorem spells_charText (char : Char) : Spells (charText char) (String.utf8EncodeChar char) := by
  have scalar : char.toNat < 0xD800 ∨ 0xDFFF < char.toNat ∧ char.toNat < 0x110000 := char.valid
  rw [← codePointToUTF8_eq]
  unfold charText
  split
  · rename_i e escape
    split_ifs at escape with ascii
    rw [codePointToUTF8, if_pos (by omega)]
    exact spells_shortEscape (simpleEscape_of_shortEscape ascii escape)
  · rename_i unescaped
    unfold codepointText
    split_ifs with printable plane
    · rw [if_pos printable.1] at unescaped
      have plain := plain_of_shortEscape printable.1 unescaped
      rw [codePointToUTF8, if_pos (by omega)]
      exact spells_plain plain.1 plain.2
    · exact spells_hexEscape plane (by omega)
    · exact spells_surrogates (by omega) (by omega)

theorem quotedBody_flatMap (chars : List Char) {bound : Nat}
    (enough : (chars.flatMap String.utf8EncodeChar).length ≤ bound) :
    quotedBody bound (chars.flatMap String.utf8EncodeChar) = chars.flatMap charText := by
  induction chars generalizing bound with
  | nil => cases bound <;> rfl
  | cons char chars ih =>
      obtain ⟨first, tail, split, decoded, kind⟩ :=
        utf8ToCodepoint_encode char (chars.flatMap String.utf8EncodeChar)
      have positive : 0 < (String.utf8EncodeChar char).length :=
        List.length_pos_iff.mpr String.utf8EncodeChar_ne_nil
      rw [List.flatMap_cons, List.length_append] at enough
      cases bound with
      | zero => omega
      | succ bound =>
          have later := @ih bound (by omega)
          rw [List.flatMap_cons, List.flatMap_cons, split, quotedBody]
          rcases kind with ⟨ascii, rfl⟩ | ⟨high, high'⟩
          · cases escape : shortEscape (UInt8.ofNat char.toNat) with
            | some e =>
                have byte : UInt8.ofNat char.toNat < 0x80 := by
                  rw [UInt8.lt_iff_toNat_lt, toNat_ofNat_of_lt (by omega)]
                  exact ascii
                simp only [utf8ToCodepoint, byte, ↓reduceIte] at decoded
                obtain ⟨-, rfl⟩ := Prod.mk.inj decoded
                simp only [later, charText, if_pos ascii, escape]
                rfl
            | none => simp only [decoded, later, charText, if_pos ascii, escape]
          · rw [shortEscape_of_le high']
            simp only [decoded, later, charText, if_neg (Nat.not_lt.mpr high)]

theorem spells_high {s : Bytes} (high : ∀ c ∈ s, 0x80 ≤ c) : Spells s s := by
  induction s with
  | nil => exact ⟨fun rest => by simp, fun rest => by simp⟩
  | cons c s ih =>
      have first := high c (by simp)
      have plain : Spells [c] [c] := by
        apply spells_plain
        · rintro rfl
          exact absurd first (by decide)
        · rintro rfl
          exact absurd first (by decide)
      exact plain.append (ih fun d member => high d (by simp [member]))

theorem valueToQuotedString_spells {s : Bytes} (utf8 : Utf8 s) :
    ∃ body, valueToQuotedString s = 34 :: body ++ [34] ∧ Spells body s := by
  unfold valueToQuotedString
  split
  · obtain ⟨chars, rfl⟩ := utf8
    refine ⟨_, rfl, ?_⟩
    rw [quotedBody_flatMap chars (Nat.le_refl _)]
    exact spells_flatMap fun char _ => spells_charText char
  · rename_i unquoted
    have high : ∀ c ∈ s, 0x80 ≤ c := by
      intro c member
      by_contra low
      refine unquoted (List.any_eq_true.mpr ⟨c, member, ?_⟩)
      simp [UInt8.not_le.mp low]
    refine ⟨_, rfl, ?_⟩
    rw [cstr_of_nulFree fun zero => absurd (high 0 zero) (by decide)]
    exact spells_high high

theorem readToken_quote {input text rest : Bytes} (closed : readString input = some (text, rest)) :
    readToken (34 :: input) = (⟨.string, 34 :: text⟩, rest) := by
  have spaces : skipSpaces (34 :: input) = 34 :: input := rfl
  have quote : Char.ofUInt8 34 = '"' := rfl
  simp only [readToken, spaces, quote, closed]

/-- The reader takes a string that the writer has written for the string itself. -/
theorem readToken_valueToQuotedString {s : Bytes} (utf8 : Utf8 s) (rest : Bytes) :
    ∃ text, readToken (valueToQuotedString s ++ rest) = (⟨.string, text⟩, rest) ∧
      decodeString text = some s := by
  obtain ⟨body, quoted, spells⟩ := valueToQuotedString_spells utf8
  refine ⟨34 :: body ++ [34], ?_, ?_⟩
  · have closed : readString (body ++ 34 :: rest) = some (body ++ [34], rest) := by
      rw [spells.closed, readString.eq_def]
      rfl
    rw [quoted]
    simp only [List.cons_append, List.append_assoc, List.nil_append]
    exact readToken_quote closed
  · have decoded := spells.decoded []
    rw [List.append_nil, decodeStringBody.eq_def []] at decoded
    rw [decodeString, List.cons_append, List.drop_one, List.tail_cons, List.dropLast_concat, decoded]
    simp

theorem le_of_all {text : Bytes} (all : (text.all fun c => 32 ≤ c) = true) : ∀ c ∈ text, 32 ≤ c := by
  simpa using all

theorem le_of_mem_toHex16Bit {x : Nat} : ∀ c ∈ toHex16Bit x, 32 ≤ c := by
  have all : ∀ digit < 16, 32 ≤ hexChar digit := by decide
  intro c member
  simp only [toHex16Bit, List.mem_cons, List.not_mem_nil, or_false] at member
  rcases member with rfl | rfl | rfl | rfl <;> exact all _ (Nat.mod_lt _ (by decide))

theorem le_of_mem_codepointText (cp : Nat) : ∀ c ∈ codepointText cp, 32 ≤ c := by
  have escaped (x : Nat) : ∀ c ∈ 92 :: 117 :: toHex16Bit x, (32 : UInt8) ≤ c := by
    intro c member
    rcases List.mem_cons.mp member with rfl | member
    · decide
    rcases List.mem_cons.mp member with rfl | member
    · decide
    · exact le_of_mem_toHex16Bit c member
  intro c member
  unfold codepointText at member
  split_ifs at member with printable
  · rw [List.mem_singleton.mp member, UInt8.le_iff_toNat_le, toNat_ofNat_of_lt (by omega)]
    exact printable.2
  · exact escaped _ c member
  · rcases List.mem_append.mp member with member | member
    · exact escaped _ c member
    · exact escaped _ c member

theorem le_of_shortEscape {c e : UInt8} (escape : shortEscape c = some e) : 32 ≤ e := by
  unfold shortEscape at escape
  split at escape <;> cases escape <;> decide

theorem le_of_mem_quotedBody (bound : Nat) (s : Bytes) : ∀ c ∈ quotedBody bound s, 32 ≤ c := by
  induction bound generalizing s with
  | zero => simp [quotedBody]
  | succ bound ih =>
      cases s with
      | nil => simp [quotedBody]
      | cons c s =>
          intro d member
          rw [quotedBody] at member
          split at member
          · rename_i e escape
            rcases List.mem_cons.mp member with rfl | member
            · decide
            rcases List.mem_cons.mp member with rfl | member
            · exact le_of_shortEscape escape
            · exact ih s d member
          · rcases List.mem_append.mp member with member | member
            · exact le_of_mem_codepointText _ d member
            · exact ih _ d member

theorem le_of_mem_valueToQuotedString (s : Bytes) : ∀ c ∈ valueToQuotedString s, 32 ≤ c := by
  intro c member
  unfold valueToQuotedString at member
  split at member
  · simp only [List.cons_append, List.mem_cons, List.mem_append, List.not_mem_nil, or_false] at member
    rcases member with rfl | member | rfl
    · decide
    · exact le_of_mem_quotedBody _ _ c member
    · decide
  · rename_i unquoted
    simp only [List.cons_append, List.mem_cons, List.mem_append, List.not_mem_nil, or_false] at member
    rcases member with rfl | member | rfl
    · decide
    · by_contra low
      refine unquoted (List.any_eq_true.mpr ⟨c, (List.takeWhile_sublist _).subset member, ?_⟩)
      simp [UInt8.not_le.mp low]
    · decide

/-! ## Strings without escapes -/

def Unescaped (id : Bytes) : Prop := ∀ c ∈ id, 32 ≤ c ∧ c < 0x80 ∧ c ≠ 34 ∧ c ≠ 92

theorem written_of_plain {c : UInt8} (plain : 32 ≤ c ∧ c < 0x80 ∧ c ≠ 34 ∧ c ≠ 92) :
    shortEscape c = none ∧ codepointText c.toNat = [c] := by
  have all : ∀ byte : UInt8, 32 ≤ byte ∧ byte < 0x80 ∧ byte ≠ 34 ∧ byte ≠ 92 →
      shortEscape byte = none ∧ codepointText byte.toNat = [byte] :=
    forall_byte (by decide +kernel)
  exact all c plain

theorem quotedBody_of_unescaped {id : Bytes} (plain : Unescaped id) {bound : Nat}
    (enough : id.length ≤ bound) : quotedBody bound id = id := by
  induction id generalizing bound with
  | nil => cases bound <;> rfl
  | cons c id ih =>
      have first := plain c (by simp)
      obtain ⟨unescaped, written⟩ := written_of_plain first
      cases bound with
      | zero => cases enough
      | succ bound =>
          have rest : Unescaped id := fun d member => plain d (List.mem_cons_of_mem c member)
          have later := ih rest (Nat.le_of_succ_le_succ enough)
          simp only [quotedBody, unescaped, utf8ToCodepoint, first.2.1, ↓reduceIte, written, later]
          rfl

theorem valueToQuotedString_of_unescaped {id : Bytes} (plain : Unescaped id) :
    valueToQuotedString id = 34 :: id ++ [34] := by
  have nulFree : 0 ∉ id := fun zero => absurd (plain 0 zero).1 (by decide)
  unfold valueToQuotedString
  rw [quotedBody_of_unescaped plain le_rfl, cstr_of_nulFree nulFree, ite_self]

/-! ## Printed values -/

/-- A value whose texts of doubles have no control character. -/
inductive Printed : Value → Prop where
  | null : Printed .null
  | boolean (b : Bool) : Printed (.boolean b)
  | int (i : Int) : Printed (.int i)
  | uint (n : Nat) : Printed (.uint n)
  | real {text : Bytes} (printable : ∀ c ∈ text, 32 ≤ c) : Printed (.real text)
  | string (s : Bytes) : Printed (.string s)
  | array {items : List Value} (each : ∀ item ∈ items, Printed item) : Printed (.array items)
  | object {members : List (Bytes × Value)} (each : ∀ member ∈ members, Printed member.2) :
      Printed (.object members)

theorem le_of_mem_decimal {n : Nat} : ∀ c ∈ decimal n, 32 ≤ c := by
  intro c member
  have digit := isDigit_of_mem_decimal member
  simp only [isDigit, Bool.and_eq_true, decide_eq_true_eq, UInt8.le_iff_toNat_le] at digit ⊢
  simp at digit ⊢
  omega

theorem le_of_mem_decimalInt (i : Int) : ∀ c ∈ decimalInt i, 32 ≤ c := by
  cases i with
  | ofNat n => exact le_of_mem_decimal
  | negSucc n =>
      intro c member
      rcases List.mem_cons.mp member with rfl | member
      · decide
      · exact le_of_mem_decimal c member

theorem le_of_mem_writeItems {items : List Value} (each : ∀ item ∈ items, ∀ c ∈ writeValue item, 32 ≤ c) :
    ∀ c ∈ writeItems items, 32 ≤ c := by
  induction items with
  | nil => simp [writeItems]
  | cons item items ih =>
      have here := each item (by simp)
      have later := ih fun other member => each other (List.mem_cons_of_mem item member)
      cases items with
      | nil => simpa [writeItems] using here
      | cons second items =>
          intro c member
          simp only [writeItems, str, List.mem_append] at member
          rcases member with (member | member) | member
          · exact here c member
          · exact @le_of_all (str ",") (by decide) c member
          · exact later c (by simpa [writeItems] using member)

theorem le_of_mem_writeMembers {members : List (Bytes × Value)}
    (each : ∀ member ∈ members, ∀ c ∈ writeValue member.2, 32 ≤ c) : ∀ c ∈ writeMembers members, 32 ≤ c := by
  have colon : ∀ c ∈ str ":", 32 ≤ c := le_of_all (by decide)
  have comma : ∀ c ∈ str ",", 32 ≤ c := le_of_all (by decide)
  induction members with
  | nil => simp [writeMembers]
  | cons member members ih =>
      obtain ⟨name, value⟩ := member
      have quoted := le_of_mem_valueToQuotedString name
      have here : ∀ c ∈ writeValue value, 32 ≤ c := each (name, value) (by simp)
      have later := ih fun other inside => each other (List.mem_cons_of_mem _ inside)
      intro c inside
      cases members with
      | nil =>
          rw [writeMembers] at inside
          simp only [List.mem_append] at inside
          rcases inside with (inside | inside) | inside
          · exact quoted c inside
          · exact colon c inside
          · exact here c inside
      | cons second members =>
          rw [writeMembers] at inside
          · simp only [List.mem_append] at inside
            rcases inside with (((inside | inside) | inside) | inside) | inside
            · exact quoted c inside
            · exact colon c inside
            · exact here c inside
            · exact comma c inside
            · exact later c inside
          · simp

theorem le_of_mem_writeValue {value : Value} (printed : Printed value) : ∀ c ∈ writeValue value, 32 ≤ c := by
  induction printed with
  | null => exact le_of_all (by decide)
  | boolean b => cases b <;> exact le_of_all (by decide)
  | int i => exact le_of_mem_decimalInt i
  | uint n => exact le_of_mem_decimal
  | real printable => exact printable
  | string s => exact le_of_mem_valueToQuotedString s
  | array _ each =>
      intro c member
      simp only [writeValue, List.mem_append] at member
      rcases member with (member | member) | member
      · exact @le_of_all (str "[") (by decide) c member
      · exact le_of_mem_writeItems each c member
      · exact @le_of_all (str "]") (by decide) c member
  | object _ each =>
      intro c member
      simp only [writeValue, List.mem_append] at member
      rcases member with (member | member) | member
      · exact @le_of_all (str "\x7b") (by decide) c member
      · exact le_of_mem_writeMembers each c member
      · exact @le_of_all (str "\x7d") (by decide) c member

theorem nulFree_writeValue {value : Value} (printed : Printed value) : 0 ∉ writeValue value :=
  fun zero => absurd (le_of_mem_writeValue printed 0 zero) (by decide)

/-- Erasing the line feeds of a document takes the one at its end and no other. -/
theorem filter_write {root : Value} (printed : Printed root) :
    (write root).filter (· ≠ 10) = writeValue root := by
  have kept : (writeValue root).filter (· ≠ 10) = writeValue root := by
    refine List.filter_eq_self.mpr fun c member => decide_eq_true ?_
    rintro rfl
    exact absurd (le_of_mem_writeValue printed 10 member) (by decide)
  rw [write, List.filter_append, kept]
  simp

end DecadaEmbedded.Json.Writer
