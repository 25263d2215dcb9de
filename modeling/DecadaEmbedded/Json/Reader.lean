import DecadaEmbedded.Json.Value

/-!
# `Json::Reader` of the bundled jsoncpp 1.8.4

The reader with its default features (comments allowed, any root, no dropped placeholders, no
numeric keys) and without comment collection. An error leaves in the root what was read before
it. `recoverFromError` only moves `current_`, which nobody reads after a failed value, so a failed
value keeps no rest. A failed token does: the members of an object go on behind it.
-/

namespace DecadaEmbedded.Json.Reader
open Library Value

inductive TokenType where
  | endOfStream | objectBegin | objectEnd | arrayBegin | arrayEnd | string | number
  | true | false | null | arraySeparator | memberSeparator | comment | error
deriving DecidableEq, Repr

structure Token where
  type : TokenType
  text : Bytes := []
deriving DecidableEq, Repr

/-! ## Tokens -/

def isJsonSpace (c : UInt8) : Bool := c = 32 || c = 9 || c = 13 || c = 10

def skipSpaces (input : Bytes) : Bytes := input.dropWhile isJsonSpace

def readString : Bytes → Option (Bytes × Bytes)
  | [] => none
  | c :: rest =>
      match Char.ofUInt8 c with
      | '\\' =>
          match rest with
          | [] => none
          | e :: rest => (readString rest).map fun (text, rest) => (c :: e :: text, rest)
      | '"' => some ([c], rest)
      | _ => (readString rest).map fun (text, rest) => (c :: text, rest)

-- A slash as the last byte closes the comment even where no star stands before it
def readCStyleComment : Bytes → Option Bytes
  | [] => none
  | [c] => if Char.ofUInt8 c = '/' then some [] else none
  | c :: d :: rest =>
      if Char.ofUInt8 c = '*' ∧ Char.ofUInt8 d = '/' then some rest
      else readCStyleComment (d :: rest)

def readCppStyleComment : Bytes → Bytes
  | [] => []
  | c :: rest =>
      match Char.ofUInt8 c with
      | '\n' => rest
      | '\r' =>
          match rest with
          | 10 :: rest => rest
          | rest => rest
      | _ => readCppStyleComment rest

-- A slash that starts no comment takes one byte with it, an unclosed comment all of the rest
def readComment : Bytes → Bool × Bytes
  | [] => (false, [])
  | c :: rest =>
      match Char.ofUInt8 c with
      | '*' =>
          match readCStyleComment rest with
          | some rest => (true, rest)
          | none => (false, [])
      | '/' => (true, readCppStyleComment rest)
      | _ => (false, rest)

def readExponent : Bytes → Bytes × Bytes
  | [] => ([], [])
  | c :: rest =>
      if c = 43 ∨ c = 45 then (c :: rest.takeWhile isDigit, rest.dropWhile isDigit)
      else ((c :: rest).takeWhile isDigit, (c :: rest).dropWhile isDigit)

def readFraction : Bytes → Bytes × Bytes
  | [] => ([], [])
  | c :: rest =>
      if c = 46 then (c :: rest.takeWhile isDigit, rest.dropWhile isDigit) else ([], c :: rest)

def readNumber (input : Bytes) : Bytes × Bytes :=
  let integral := input.takeWhile isDigit
  let (fraction, rest) := readFraction (input.dropWhile isDigit)
  match rest with
  | [] => (integral ++ fraction, [])
  | c :: tail =>
      if c = 101 ∨ c = 69 then
        let (exponent, rest) := readExponent tail
        (integral ++ fraction ++ c :: exponent, rest)
      else (integral ++ fraction, c :: tail)

def matchPattern (pattern rest : Bytes) (type : TokenType) : Token × Bytes :=
  if pattern.isPrefixOf rest then (⟨type, []⟩, rest.drop pattern.length) else (⟨.error, []⟩, rest)

def readToken (input : Bytes) : Token × Bytes :=
  match skipSpaces input with
  | [] => (⟨.endOfStream, []⟩, [])
  | c :: rest =>
      match Char.ofUInt8 c with
      | '{' => (⟨.objectBegin, []⟩, rest)
      | '}' => (⟨.objectEnd, []⟩, rest)
      | '[' => (⟨.arrayBegin, []⟩, rest)
      | ']' => (⟨.arrayEnd, []⟩, rest)
      | '"' =>
          match readString rest with
          | some (text, rest) => (⟨.string, c :: text⟩, rest)
          | none => (⟨.error, []⟩, [])
      | '/' =>
          let (ok, rest) := readComment rest
          (⟨if ok then .comment else .error, []⟩, rest)
      | '0' | '1' | '2' | '3' | '4' | '5' | '6' | '7' | '8' | '9' | '-' =>
          let (text, rest) := readNumber rest
          (⟨.number, c :: text⟩, rest)
      | 't' => matchPattern (str "rue") rest .true
      | 'f' => matchPattern (str "alse") rest .false
      | 'n' => matchPattern (str "ull") rest .null
      | ',' => (⟨.arraySeparator, []⟩, rest)
      | ':' => (⟨.memberSeparator, []⟩, rest)
      | '\x00' => (⟨.endOfStream, []⟩, rest)
      | _ => (⟨.error, []⟩, rest)

def skipComments : Nat → Bytes → Token × Bytes
  | 0, input => readToken input
  | bound + 1, input =>
      let (token, rest) := readToken input
      if token.type = .comment then skipComments bound rest else (token, rest)

-- A comment takes two bytes or more, so the bound is never reached
def skipCommentTokens (input : Bytes) : Token × Bytes := skipComments input.length input

/-! ## Strings and numbers -/

def codePointToUTF8 (cp : Nat) : Bytes :=
  if cp ≤ 0x7f then [UInt8.ofNat cp]
  else if cp ≤ 0x7FF then
    [UInt8.ofNat (0xC0 ||| (0x1f &&& (cp >>> 6))), UInt8.ofNat (0x80 ||| (0x3f &&& cp))]
  else if cp ≤ 0xFFFF then
    [UInt8.ofNat (0xE0 ||| (0xf &&& (cp >>> 12))), UInt8.ofNat (0x80 ||| (0x3f &&& (cp >>> 6))),
      UInt8.ofNat (0x80 ||| (0x3f &&& cp))]
  else if cp ≤ 0x10FFFF then
    [UInt8.ofNat (0xF0 ||| (0x7 &&& (cp >>> 18))), UInt8.ofNat (0x80 ||| (0x3f &&& (cp >>> 12))),
      UInt8.ofNat (0x80 ||| (0x3f &&& (cp >>> 6))), UInt8.ofNat (0x80 ||| (0x3f &&& cp))]
  else []

def hexDigit (c : UInt8) : Option Nat :=
  if 48 ≤ c ∧ c ≤ 57 then some (c.toNat - 48)
  else if 97 ≤ c ∧ c ≤ 102 then some (c.toNat - 97 + 10)
  else if 65 ≤ c ∧ c ≤ 70 then some (c.toNat - 65 + 10)
  else none

def decodeUnicodeEscapeSequence (a b c d : UInt8) : Option Nat := do
  let a ← hexDigit a
  let b ← hexDigit b
  let c ← hexDigit c
  let d ← hexDigit d
  return ((a * 16 + b) * 16 + c) * 16 + d

def simpleEscape (e : UInt8) : Option UInt8 :=
  match Char.ofUInt8 e with
  | '"' => some 34
  | '/' => some 47
  | '\\' => some 92
  | 'b' => some 8
  | 'f' => some 12
  | 'n' => some 10
  | 'r' => some 13
  | 't' => some 9
  | _ => none

def decodeStringBody : Bytes → Option Bytes
  | [] => some []
  | c :: rest =>
      if c = 34 then some []
      else if c = 92 then
        match rest with
        | [] => none
        | e :: rest =>
            match simpleEscape e with
            | some byte => (decodeStringBody rest).map (byte :: ·)
            | none =>
                if e = 117 then
                  match rest with
                  | h1 :: h2 :: h3 :: h4 :: rest =>
                      match decodeUnicodeEscapeSequence h1 h2 h3 h4 with
                      | none => none
                      | some unicode =>
                          if 0xD800 ≤ unicode ∧ unicode ≤ 0xDBFF then
                            match rest with
                            | s1 :: s2 :: l1 :: l2 :: l3 :: l4 :: rest =>
                                if s1 = 92 ∧ s2 = 117 then
                                  match decodeUnicodeEscapeSequence l1 l2 l3 l4 with
                                  | none => none
                                  | some surrogatePair =>
                                      (decodeStringBody rest).map
                                        (codePointToUTF8 (0x10000 + ((unicode &&& 0x3FF) <<< 10) +
                                          (surrogatePair &&& 0x3FF)) ++ ·)
                                else none
                            | _ => none
                          else (decodeStringBody rest).map (codePointToUTF8 unicode ++ ·)
                  | _ => none
                else none
      else (decodeStringBody rest).map (c :: ·)

def decodeString (text : Bytes) : Option Bytes := decodeStringBody (text.drop 1).dropLast

def maxLargestInt : Nat := 9223372036854775807

def maxLargestUInt : Nat := 18446744073709551615

-- the digit loop of `decodeNumber`; `none` sends the token to `decodeDouble`
def decodeDigits (maxIntegerValue : Nat) : Nat → Bytes → Option Nat
  | value, [] => some value
  | value, c :: rest =>
      if isDigit c then
        let digit := c.toNat - 48
        let threshold := maxIntegerValue / 10
        if threshold ≤ value ∧ (threshold < value ∨ rest ≠ [] ∨ maxIntegerValue % 10 < digit) then none
        else decodeDigits maxIntegerValue (value * 10 + digit) rest
      else none

/-- `decodeDouble text` is the text `valueToString` prints for the double that `is >> value` reads
from a number token, or `none` where the extraction fails. -/
def decodeNumber (decodeDouble : Bytes → Option Bytes) (text : Bytes) : Option Value :=
  let isNegative := text.head? = some 45
  let digits := if isNegative then text.drop 1 else text
  let maxIntegerValue := if isNegative then maxLargestInt + 1 else maxLargestUInt
  match decodeDigits maxIntegerValue 0 digits with
  | none => (decodeDouble text).map .real
  | some value =>
      if isNegative then some (.int (-(value : Int)))
      else if value ≤ 2147483647 then some (.int value)
      else some (.uint value)

/-! ## Values -/

structure Read where
  ok : Bool
  value : Value
  rest : Bytes

def failed (value : Value) : Except Raised Read := .ok ⟨false, value, []⟩

def stackLimit : Nat := 1000

variable (decodeDouble : Bytes → Option Bytes)

mutual

/-- `depth` counts the nodes above this one and `current` is what the node holds before the read. -/
def readValue : Nat → Nat → Value → Bytes → Except Raised Read
  | 0, _, _, _ => .error .fuelExhausted
  | fuel + 1, depth, current, input =>
      if stackLimit < depth + 1 then
        .error (.undefinedBehaviour "throwRuntimeError" "Exceeded stackLimit in readValue().")
      else
        let (token, rest) := skipCommentTokens input
        match token.type with
        | .objectBegin => readObject fuel depth [] [] rest
        | .arrayBegin =>
            match skipSpaces rest with
            | 93 :: rest => .ok ⟨true, .array [], rest⟩
            | _ => readArray fuel depth [] rest
        | .number =>
            match decodeNumber decodeDouble token.text with
            | some value => .ok ⟨true, value, rest⟩
            | none => failed current
        | .string =>
            match decodeString token.text with
            | some s => .ok ⟨true, .string s, rest⟩
            | none => failed current
        | .true => .ok ⟨true, .boolean true, rest⟩
        | .false => .ok ⟨true, .boolean false, rest⟩
        | .null => .ok ⟨true, .null, rest⟩
        | _ => failed current

def readObject : Nat → Nat → List (Bytes × Value) → Bytes → Bytes → Except Raised Read
  | 0, _, _, _, _ => .error .fuelExhausted
  | fuel + 1, depth, members, name, input =>
      let (tokenName, rest) := skipCommentTokens input
      if tokenName.type = .objectEnd ∧ name = [] then .ok ⟨true, .object members, rest⟩
      else if tokenName.type = .string then
        match decodeString tokenName.text with
        | none => failed (.object members)
        | some name =>
            let (colon, rest) := readToken rest
            if colon.type ≠ .memberSeparator then failed (.object members)
            else
              -- a repeated name reads into the member it already made
              match readValue fuel (depth + 1) ((members.lookup name).getD .null) rest with
              | .error raised => .error raised
              | .ok read =>
                  let members := setMember members name read.value
                  if read.ok then
                    let (comma, rest) := readToken read.rest
                    if comma.type = .objectEnd then .ok ⟨true, .object members, rest⟩
                    else if comma.type = .arraySeparator then readObject fuel depth members name rest
                    else if comma.type = .comment then
                      -- after a comment every token but a closing brace passes for the comma
                      let (comma, rest) := skipCommentTokens rest
                      if comma.type = .objectEnd then .ok ⟨true, .object members, rest⟩
                      else readObject fuel depth members name rest
                    else failed (.object members)
                  else failed (.object members)
      else failed (.object members)

def readArray : Nat → Nat → List Value → Bytes → Except Raised Read
  | 0, _, _, _ => .error .fuelExhausted
  | fuel + 1, depth, items, input =>
      match readValue fuel (depth + 1) .null input with
      | .error raised => .error raised
      | .ok read =>
          let items := items ++ [read.value]
          if read.ok then
            let (token, rest) := skipCommentTokens read.rest
            if token.type = .arrayEnd then .ok ⟨true, .array items, rest⟩
            else if token.type = .arraySeparator then readArray fuel depth items rest
            else failed (.array items)
          else failed (.array items)

end

/-- `parse(document, root, false)` into a null root: its result and what it leaves in the root. -/
def parse (document : Bytes) : Except Raised (Bool × Value) := do
  let read ← readValue decodeDouble (2 * document.length + 1) 0 .null document
  return (read.ok, read.value)

/-! ## Termination -/

theorem readString_length {input text rest : Bytes} (closed : readString input = some (text, rest)) :
    rest.length < input.length := by
  fun_induction readString input generalizing text with
  | case1 => cases closed
  | case2 => cases closed
  | case3 c e tail _ ih =>
      obtain ⟨⟨inner, left⟩, closed, same⟩ := Option.map_eq_some_iff.mp closed
      cases same
      have shorter := ih closed
      simp only [List.length_cons]
      omega
  | case4 =>
      cases closed
      simp
  | case5 c tail _ _ ih =>
      obtain ⟨⟨inner, left⟩, closed, same⟩ := Option.map_eq_some_iff.mp closed
      cases same
      have shorter := ih closed
      simp only [List.length_cons]
      omega

theorem readCStyleComment_length {input rest : Bytes} (closed : readCStyleComment input = some rest) :
    rest.length < input.length := by
  fun_induction readCStyleComment input with
  | case1 => cases closed
  | case2 =>
      cases closed
      simp
  | case3 => cases closed
  | case4 =>
      cases closed
      simp only [List.length_cons]
      omega
  | case5 c d tail _ ih =>
      have shorter := ih closed
      simp only [List.length_cons] at shorter ⊢
      omega

theorem readCppStyleComment_length (input : Bytes) :
    (readCppStyleComment input).length ≤ input.length := by
  fun_induction readCppStyleComment input <;> simp_all <;> omega

theorem readComment_length (input : Bytes) : (readComment input).2.length ≤ input.length := by
  cases input with
  | nil => exact Nat.zero_le _
  | cons c input =>
      simp only [readComment]
      split
      · split
        · exact (readCStyleComment_length (by assumption)).le.trans (Nat.le_succ _)
        · exact Nat.zero_le _
      · exact (readCppStyleComment_length input).trans (Nat.le_succ _)
      · exact Nat.le_succ _

theorem dropWhile_length_le (p : UInt8 → Bool) (input : Bytes) :
    (input.dropWhile p).length ≤ input.length :=
  (List.dropWhile_sublist p).length_le

theorem readNumber_length (input : Bytes) : (readNumber input).2.length ≤ input.length := by
  have fraction (s : Bytes) : (readFraction s).2.length ≤ s.length := by
    cases s with
    | nil => simp [readFraction]
    | cons c s =>
        have shorter := dropWhile_length_le isDigit s
        simp only [readFraction]
        split_ifs <;> simp only [List.length_cons] <;> omega
  have exponent (s : Bytes) : (readExponent s).2.length ≤ s.length := by
    cases s with
    | nil => simp [readExponent]
    | cons c s =>
        have tail := dropWhile_length_le isDigit s
        have whole := dropWhile_length_le isDigit (c :: s)
        simp only [readExponent]
        split_ifs <;> simp only [List.length_cons] at whole ⊢ <;> omega
  have integral := dropWhile_length_le isDigit input
  have fractional := fraction (input.dropWhile isDigit)
  simp only [readNumber]
  split
  · simp
  · rename_i c tail same
    have exponential := exponent tail
    rw [same, List.length_cons] at fractional
    split_ifs <;> simp only [List.length_cons] <;> omega

theorem matchPattern_length (pattern rest : Bytes) (type : TokenType) :
    (matchPattern pattern rest type).2.length ≤ rest.length := by
  unfold matchPattern
  split <;> simp

theorem readToken_length (input : Bytes) : (readToken input).2.length ≤ input.length ∧
    ((readToken input).1.type ≠ .endOfStream → (readToken input).2.length < input.length) := by
  have spaces := dropWhile_length_le isJsonSpace input
  change (skipSpaces input).length ≤ input.length at spaces
  unfold readToken
  cases same : skipSpaces input with
  | nil => simp
  | cons c rest =>
      rw [same, List.length_cons] at spaces
      suffices shorter : ∀ result : Token × Bytes, result.2.length ≤ rest.length →
          result.2.length ≤ input.length ∧
            (result.1.type ≠ .endOfStream → result.2.length < input.length) by
        apply shorter
        dsimp only
        split
        any_goals exact le_rfl
        any_goals exact matchPattern_length _ _ _
        any_goals exact readNumber_length _
        · split
          · exact (readString_length (by assumption)).le
          · exact Nat.zero_le _
        · exact readComment_length _
      intro result bound
      exact ⟨by omega, fun _ => by omega⟩

theorem skipComments_length (bound : Nat) (input : Bytes) :
    (skipComments bound input).2.length ≤ input.length ∧
      ((skipComments bound input).1.type ≠ .endOfStream →
        (skipComments bound input).2.length < input.length) := by
  induction bound generalizing input with
  | zero => exact readToken_length input
  | succ bound ih =>
      have first := readToken_length input
      simp only [skipComments]
      split_ifs with comment
      · have later := ih (readToken input).2
        exact ⟨by omega, fun more => by have := later.2 more; omega⟩
      · exact first

theorem skipCommentTokens_length (input : Bytes) :
    (skipCommentTokens input).2.length ≤ input.length ∧
      ((skipCommentTokens input).1.type ≠ .endOfStream →
        (skipCommentTokens input).2.length < input.length) :=
  skipComments_length input.length input

/-- What a read from `input` promises where `limit` bounds its depth plus the bytes left: it never
exhausts the fuel, it raises only beyond the stack limit, and a successful read takes a byte. -/
def Progresses (input : Bytes) (limit : Nat) : Except Raised Read → Prop
  | .error raised => raised ≠ .fuelExhausted ∧ stackLimit ≤ limit
  | .ok read => read.ok = true → read.rest.length < input.length

theorem Progresses.failed (input : Bytes) (limit : Nat) (value : Value) :
    Progresses input limit (failed value) := fun ok => Bool.noConfusion ok

theorem Progresses.mono {input shorter : Bytes} {limit : Nat} {result : Except Raised Read}
    (progresses : Progresses shorter limit result) (le : shorter.length ≤ input.length) :
    Progresses input limit result := by
  cases result with
  | error raised => exact progresses
  | ok read => exact fun ok => lt_of_lt_of_le (progresses ok) le

structure ReadersProgress (limit fuel : Nat) : Prop where
  value : ∀ depth current input, depth + input.length ≤ limit → 2 * input.length + 1 ≤ fuel →
    Progresses input limit (readValue decodeDouble fuel depth current input)
  object : ∀ depth members name input, depth + 1 + input.length ≤ limit →
    2 * input.length + 2 ≤ fuel →
    Progresses input limit (readObject decodeDouble fuel depth members name input)
  array : ∀ depth items input, depth + 1 + input.length ≤ limit → 2 * input.length + 2 ≤ fuel →
    Progresses input limit (readArray decodeDouble fuel depth items input)

variable {decodeDouble}

theorem ReadersProgress.readValue_succ {limit fuel : Nat}
    (less : ReadersProgress decodeDouble limit fuel) (depth : Nat) (current : Value) (input : Bytes)
    (within : depth + input.length ≤ limit) (enough : 2 * input.length + 1 ≤ fuel + 1) :
    Progresses input limit (readValue decodeDouble (fuel + 1) depth current input) := by
  have token := skipCommentTokens_length input
  simp only [readValue]
  split
  · exact ⟨by simp, by omega⟩
  · cases kind : (skipCommentTokens input).1.type
    case objectBegin =>
      have shorter := token.2 (by simp [kind])
      exact (less.object depth [] [] _ (by omega) (by omega)).mono token.1
    case arrayBegin =>
      have shorter := token.2 (by simp [kind])
      simp only
      split
      · rename_i rest same
        have spaces := dropWhile_length_le isJsonSpace (skipCommentTokens input).2
        change (skipSpaces _).length ≤ _ at spaces
        rw [same, List.length_cons] at spaces
        exact fun _ => by dsimp only; omega
      · exact (less.array depth [] _ (by omega) (by omega)).mono token.1
    case number =>
      have shorter := token.2 (by simp [kind])
      simp only
      split
      · exact fun _ => shorter
      · exact Progresses.failed _ _ _
    case string =>
      have shorter := token.2 (by simp [kind])
      simp only
      split
      · exact fun _ => shorter
      · exact Progresses.failed _ _ _
    case true => exact fun _ => token.2 (by simp [kind])
    case false => exact fun _ => token.2 (by simp [kind])
    case null => exact fun _ => token.2 (by simp [kind])
    all_goals exact Progresses.failed _ _ _

theorem ReadersProgress.readObject_succ {limit fuel : Nat}
    (less : ReadersProgress decodeDouble limit fuel) (depth : Nat) (members : List (Bytes × Value))
    (name input : Bytes) (within : depth + 1 + input.length ≤ limit)
    (enough : 2 * input.length + 2 ≤ fuel + 1) :
    Progresses input limit (readObject decodeDouble (fuel + 1) depth members name input) := by
  have token := skipCommentTokens_length input
  simp only [readObject]
  split
  next empty => exact fun _ => token.2 (by simp [empty.1])
  split
  next =>
    have shorter := token.2 (by simp [*])
    split
    next => exact Progresses.failed _ _ _
    next name _ =>
      have colon := (readToken_length (skipCommentTokens input).2).1
      split
      next => exact Progresses.failed _ _ _
      have value := less.value (depth + 1) ((members.lookup name).getD .null)
        (readToken (skipCommentTokens input).2).2 (by omega) (by omega)
      split
      next raised same =>
        rw [same] at value
        exact value
      next read same =>
        rw [same] at value
        split
        next ok =>
          have shorterValue := value ok
          have comma := (readToken_length read.rest).1
          have later := (skipCommentTokens_length (readToken read.rest).2).1
          split
          next => exact fun _ => lt_of_le_of_lt comma (by omega)
          split
          next => exact (less.object depth _ _ _ (by omega) (by omega)).mono (by omega)
          split
          next =>
            split
            next => exact fun _ => lt_of_le_of_lt later (by omega)
            next => exact (less.object depth _ _ _ (by omega) (by omega)).mono (by omega)
          next => exact Progresses.failed _ _ _
        next => exact Progresses.failed _ _ _
  next => exact Progresses.failed _ _ _

theorem ReadersProgress.readArray_succ {limit fuel : Nat}
    (less : ReadersProgress decodeDouble limit fuel) (depth : Nat) (items : List Value)
    (input : Bytes) (within : depth + 1 + input.length ≤ limit)
    (enough : 2 * input.length + 2 ≤ fuel + 1) :
    Progresses input limit (readArray decodeDouble (fuel + 1) depth items input) := by
  have value := less.value (depth + 1) .null input within (by omega)
  simp only [readArray]
  split
  · rename_i raised same
    rw [same] at value
    exact value
  · rename_i read same
    rw [same] at value
    split_ifs with ok close separator
    · have shorter := value ok
      have token := (skipCommentTokens_length read.rest).1
      exact fun _ => lt_of_le_of_lt token shorter
    · have shorter := value ok
      have token := (skipCommentTokens_length read.rest).1
      exact (less.array depth _ _ (by omega) (by omega)).mono (by omega)
    · exact Progresses.failed _ _ _
    · exact Progresses.failed _ _ _

theorem readersProgress (limit fuel : Nat) : ReadersProgress decodeDouble limit fuel := by
  induction fuel with
  | zero => constructor <;> intros <;> omega
  | succ fuel less => exact ⟨less.readValue_succ, less.readObject_succ, less.readArray_succ⟩

theorem parse_progresses (decodeDouble : Bytes → Option Bytes) (document : Bytes) : Progresses document document.length
    (readValue decodeDouble (2 * document.length + 1) 0 .null document) :=
  (readersProgress document.length _).value 0 .null document (by omega) le_rfl

theorem parse_ne_fuelExhausted (document : Bytes) :
    parse decodeDouble document ≠ .error .fuelExhausted := by
  have progresses := parse_progresses decodeDouble document
  unfold parse
  cases result : readValue decodeDouble (2 * document.length + 1) 0 .null document with
  | error raised =>
      rw [result] at progresses
      simpa [bind, Except.bind] using progresses.1
  | ok read => simp [bind, Except.bind, pure, Except.pure]

theorem parse_ok_of_length_lt {document : Bytes} (short : document.length < stackLimit) :
    ∃ ok root, parse decodeDouble document = .ok (ok, root) := by
  have progresses := parse_progresses decodeDouble document
  unfold parse
  cases result : readValue decodeDouble (2 * document.length + 1) 0 .null document with
  | error raised =>
      rw [result] at progresses
      exact absurd progresses.2 (by omega)
  | ok read => exact ⟨read.ok, read.value, rfl⟩

end DecadaEmbedded.Json.Reader
