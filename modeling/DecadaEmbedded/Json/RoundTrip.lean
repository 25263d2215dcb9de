import DecadaEmbedded.Json.Ordered
import DecadaEmbedded.Json.Writer

/-!
# Reading back what `FastWriter` writes

A value without doubles is read back as itself from its text if its strings are well-formed UTF-8,
its numbers have the type that the reader gives them, and it is not nested too deep.
-/

namespace DecadaEmbedded.Json.Writer
open Library Reader Value

/-- The reader gives the value back, at a node with `levels` nodes to spare. -/
inductive Readable : Nat → Value → Prop where
  | null {levels : Nat} : Readable (levels + 1) .null
  | boolean {levels : Nat} (b : Bool) : Readable (levels + 1) (.boolean b)
  | int {levels : Nat} {i : Int} (low : -9223372036854775808 ≤ i) (high : i ≤ 2147483647) :
      Readable (levels + 1) (.int i)
  | uint {levels n : Nat} (low : 2147483647 < n) (high : n ≤ maxLargestUInt) :
      Readable (levels + 1) (.uint n)
  | string {levels : Nat} {s : Bytes} (utf8 : Utf8 s) : Readable (levels + 1) (.string s)
  | array {levels : Nat} {items : List Value} (each : ∀ item ∈ items, Readable levels item) :
      Readable (levels + 1) (.array items)
  | object {levels : Nat} {members : List (Bytes × Value)} (ascending : Ascending members)
      (names : ∀ member ∈ members, Utf8 member.1) (each : ∀ member ∈ members, Readable levels member.2) :
      Readable (levels + 1) (.object members)

/-- What stands behind a written value: nothing, a line feed, a separator or a closing bracket. -/
def Delimited (rest : Bytes) : Prop := ∀ c ∈ rest.head?, c = 10 ∨ c = 44 ∨ c = 93 ∨ c = 125

variable (decodeDouble : Bytes → Option Bytes)

/-! ## Tokens and members -/

theorem skipCommentTokens_of_ne {input : Bytes} (other : (readToken input).1.type ≠ .comment) :
    skipCommentTokens input = readToken input := by
  unfold skipCommentTokens
  cases input.length with
  | zero => rfl
  | succ bound => simp only [skipComments, other, ↓reduceIte]

theorem skipCommentTokens_valueToQuotedString {s : Bytes} (utf8 : Utf8 s) (rest : Bytes) :
    ∃ text, skipCommentTokens (valueToQuotedString s ++ rest) = (⟨.string, text⟩, rest) ∧
      decodeString text = some s := by
  obtain ⟨text, token, decoded⟩ := readToken_valueToQuotedString utf8 rest
  refine ⟨text, ?_, decoded⟩
  rw [skipCommentTokens_of_ne (by simp [token]), token]

theorem readValue_string {s : Bytes} (utf8 : Utf8 s) {fuel depth : Nat} (shallow : depth < stackLimit)
    (current : Value) (rest : Bytes) :
    readValue decodeDouble (fuel + 1) depth current (valueToQuotedString s ++ rest) =
      .ok ⟨true, .string s, rest⟩ := by
  obtain ⟨text, token, decoded⟩ := skipCommentTokens_valueToQuotedString utf8 rest
  rw [readValue, if_neg (by omega), token]
  simp only [decoded]

theorem readObject_next {key : Bytes} (utf8 : Utf8 key) {fuel depth : Nat} {value : Value}
    {members : List (Bytes × Value)} {text rest : Bytes}
    (read : readValue decodeDouble fuel (depth + 1) ((members.lookup key).getD .null) text =
      .ok ⟨true, value, 44 :: rest⟩) (name : Bytes) :
    readObject decodeDouble (fuel + 1) depth members name (valueToQuotedString key ++ 58 :: text) =
      readObject decodeDouble fuel depth (setMember members key value) key rest := by
  obtain ⟨token, first, decoded⟩ := skipCommentTokens_valueToQuotedString utf8 (58 :: text)
  have colon : readToken (58 :: text) = (⟨.memberSeparator, []⟩, text) := rfl
  have comma : readToken (44 :: rest) = (⟨.arraySeparator, []⟩, rest) := rfl
  rw [readObject, first]
  simp only [decoded, colon, read, comma, reduceCtorEq, false_and, ne_eq, not_true_eq_false, ↓reduceIte]

theorem readObject_last {key : Bytes} (utf8 : Utf8 key) {fuel depth : Nat} {value : Value}
    {members : List (Bytes × Value)} {text rest : Bytes}
    (read : readValue decodeDouble fuel (depth + 1) ((members.lookup key).getD .null) text =
      .ok ⟨true, value, 125 :: rest⟩) (name : Bytes) :
    readObject decodeDouble (fuel + 1) depth members name (valueToQuotedString key ++ 58 :: text) =
      .ok ⟨true, .object (setMember members key value), rest⟩ := by
  obtain ⟨token, first, decoded⟩ := skipCommentTokens_valueToQuotedString utf8 (58 :: text)
  have colon : readToken (58 :: text) = (⟨.memberSeparator, []⟩, text) := rfl
  have close : readToken (125 :: rest) = (⟨.objectEnd, []⟩, rest) := rfl
  rw [readObject, first]
  simp only [decoded, colon, read, close, reduceCtorEq, false_and, ne_eq, not_true_eq_false, ↓reduceIte]

theorem readValue_object {fuel depth : Nat} (shallow : depth < stackLimit) (current : Value)
    (text : Bytes) :
    readValue decodeDouble (fuel + 1) depth current (123 :: text) =
      readObject decodeDouble fuel depth [] [] text := by
  have first : skipCommentTokens (123 :: text) = (⟨.objectBegin, []⟩, text) := rfl
  rw [readValue, if_neg (by omega), first]

/-! ## Numbers -/

theorem readToken_digit {c : UInt8} (digit : isDigit c) (rest : Bytes) :
    readToken (c :: rest) = (⟨.number, c :: (readNumber rest).1⟩, (readNumber rest).2) := by
  have cases : c = 48 ∨ c = 49 ∨ c = 50 ∨ c = 51 ∨ c = 52 ∨ c = 53 ∨ c = 54 ∨ c = 55 ∨ c = 56 ∨
      c = 57 := by
    simp only [isDigit, Bool.and_eq_true, decide_eq_true_eq, UInt8.le_iff_toNat_le,
      ← UInt8.toNat_inj] at digit ⊢
    simp at digit ⊢
    omega
  rcases cases with rfl | rfl | rfl | rfl | rfl | rfl | rfl | rfl | rfl | rfl <;> rfl

theorem readNumber_digits {digits rest : Bytes} (all : ∀ c ∈ digits, isDigit c)
    (delimited : Delimited rest) : readNumber (digits ++ rest) = (digits, rest) := by
  have stop : rest.takeWhile isDigit = [] ∧ rest.dropWhile isDigit = rest := by
    cases rest with
    | nil => exact ⟨rfl, rfl⟩
    | cons c rest =>
        have first := delimited c (by simp)
        have other : isDigit c = false := by rcases first with rfl | rfl | rfl | rfl <;> rfl
        simp [other]
  rw [readNumber, List.takeWhile_append_of_pos all, List.dropWhile_append_of_pos all, stop.1, stop.2,
    List.append_nil]
  cases rest with
  | nil => simp [readFraction]
  | cons c rest =>
      rcases delimited c (by simp) with rfl | rfl | rfl | rfl <;> simp [readFraction]

theorem le_foldl_digits (digits : Bytes) (value : Nat) :
    value ≤ digits.foldl (fun value c => 10 * value + (c.toNat - 48)) value := by
  induction digits generalizing value with
  | nil => exact Nat.le_refl value
  | cons c digits ih =>
      have later := ih (10 * value + (c.toNat - 48))
      rw [List.foldl_cons]
      omega

theorem decodeDigits_eq {max : Nat} (large : 10 ≤ max) {digits : Bytes} (all : ∀ c ∈ digits, isDigit c)
    {value : Nat} (bound : digits.foldl (fun value c => 10 * value + (c.toNat - 48)) value ≤ max) :
    decodeDigits max value digits =
      some (digits.foldl (fun value c => 10 * value + (c.toNat - 48)) value) := by
  induction digits generalizing value with
  | nil => rfl
  | cons c digits ih =>
      rw [List.foldl_cons] at bound ⊢
      have here := le_foldl_digits digits (10 * value + (c.toNat - 48))
      have inside : ¬ (max / 10 ≤ value ∧
          (max / 10 < value ∨ digits ≠ [] ∨ max % 10 < c.toNat - 48)) := by
        rintro ⟨reached, beyond | more | last⟩
        · omega
        · cases digits with
          | nil => exact more rfl
          | cons d digits =>
              have next := le_foldl_digits digits
                (10 * (10 * value + (c.toNat - 48)) + (d.toNat - 48))
              rw [List.foldl_cons] at bound
              omega
        · omega
      rw [decodeDigits, if_pos (all c (by simp))]
      simp only [inside, ↓reduceIte]
      rw [Nat.mul_comm value 10]
      exact ih (fun d member => all d (by simp [member])) bound

theorem decodeDigits_decimal {max n : Nat} (large : 10 ≤ max) (bound : n ≤ max) :
    decodeDigits max 0 (decimal n) = some n := by
  have value := digitsValue_decimal n
  rw [digitsValue] at value
  rw [decodeDigits_eq large (fun c member => isDigit_of_mem_decimal member) (by rw [value]; exact bound),
    value]

theorem decodeNumber_decimal {n : Nat} (bound : n ≤ maxLargestUInt) :
    decodeNumber decodeDouble (decimal n) =
      some (if n ≤ 2147483647 then .int n else .uint n) := by
  have positive : ¬ (decimal n).head? = some 45 := by
    intro minus
    exact absurd (isDigit_of_mem_decimal (List.mem_of_mem_head? minus)) (by decide)
  simp only [decodeNumber, positive, ↓reduceIte,
    decodeDigits_decimal (by decide) bound]
  split <;> rfl

theorem decodeNumber_negative {n : Nat} (bound : n ≤ maxLargestInt + 1) :
    decodeNumber decodeDouble (45 :: decimal n) = some (.int (-(n : Int))) := by
  simp [decodeNumber, decodeDigits_decimal (by decide) bound]

/-! ## Values -/

def Reads (levels : Nat) (value : Value) : Prop :=
  ∀ fuel depth current rest, depth + levels ≤ stackLimit → 2 * (writeValue value).length + 1 ≤ fuel →
    Delimited rest →
      readValue decodeDouble fuel depth current (writeValue value ++ rest) = .ok ⟨true, value, rest⟩

variable {decodeDouble}

theorem readValue_of_token {fuel depth : Nat} (shallow : depth < stackLimit) (current : Value)
    {input rest : Bytes} {token : Token} (first : readToken input = (token, rest))
    (other : token.type ≠ .comment) :
    readValue decodeDouble (fuel + 1) depth current input =
      match token.type with
      | .objectBegin => readObject decodeDouble fuel depth [] [] rest
      | .arrayBegin =>
          match skipSpaces rest with
          | 93 :: rest => .ok ⟨true, .array [], rest⟩
          | _ => readArray decodeDouble fuel depth [] rest
      | .number =>
          match decodeNumber decodeDouble token.text with
          | some value => .ok ⟨true, value, rest⟩
          | none => failed current
      | .string =>
          match decodeString token.text with
          | some s => .ok ⟨true, .string s, rest⟩
          | none => failed current
      | .true => .ok ⟨true, .boolean true, rest⟩
      | .false => .ok ⟨true, .boolean false, rest⟩
      | .null => .ok ⟨true, .null, rest⟩
      | _ => failed current := by
  have skipped : skipCommentTokens input = (token, rest) := by
    rw [skipCommentTokens_of_ne (by rw [first]; exact other), first]
  rw [readValue, if_neg (by omega)]
  generalize skipCommentTokens input = found at skipped ⊢
  subst skipped
  rfl

theorem reads_literal {levels : Nat} {value : Value}
    (literal : ∀ fuel depth current rest, depth < stackLimit →
      readValue decodeDouble (fuel + 1) depth current (writeValue value ++ rest) =
        .ok ⟨true, value, rest⟩) : Reads decodeDouble (levels + 1) value := by
  intro fuel depth current rest deep enough delimited
  cases fuel with
  | zero => omega
  | succ fuel => exact literal fuel depth current rest (by omega)

theorem reads_null {levels : Nat} : Reads decodeDouble (levels + 1) .null := by
  apply reads_literal
  intro fuel depth current rest shallow
  have token : readToken (writeValue .null ++ rest) = (⟨.null, []⟩, rest) := rfl
  rw [readValue_of_token shallow current token (by simp)]

theorem reads_boolean {levels : Nat} (b : Bool) : Reads decodeDouble (levels + 1) (.boolean b) := by
  apply reads_literal
  intro fuel depth current rest shallow
  cases b with
  | true =>
      have token : readToken (writeValue (.boolean true) ++ rest) = (⟨.true, []⟩, rest) := rfl
      rw [readValue_of_token shallow current token (by simp)]
  | false =>
      have token : readToken (writeValue (.boolean false) ++ rest) = (⟨.false, []⟩, rest) := rfl
      rw [readValue_of_token shallow current token (by simp)]

theorem reads_string {levels : Nat} {s : Bytes} (utf8 : Utf8 s) :
    Reads decodeDouble (levels + 1) (.string s) := by
  apply reads_literal
  intro fuel depth current rest shallow
  rw [writeValue]
  exact readValue_string decodeDouble utf8 shallow current rest

theorem reads_number {levels : Nat} {value : Value}
    (token : ∀ rest, Delimited rest →
      readToken (writeValue value ++ rest) = (⟨.number, writeValue value⟩, rest))
    (decoded : decodeNumber decodeDouble (writeValue value) = some value) :
    Reads decodeDouble (levels + 1) value := by
  intro fuel depth current rest deep enough delimited
  cases fuel with
  | zero => omega
  | succ fuel =>
      rw [readValue_of_token (by omega) current (token rest delimited) (by simp)]
      simp only [decoded]

theorem readToken_decimal (n : Nat) {rest : Bytes} (delimited : Delimited rest) :
    readToken (decimal n ++ rest) = (⟨.number, decimal n⟩, rest) := by
  have all : ∀ c ∈ decimal n, isDigit c := fun c member => isDigit_of_mem_decimal member
  cases text : decimal n with
  | nil => exact absurd text (decimal_ne_nil n)
  | cons c digits =>
      rw [text] at all
      have rest := readNumber_digits (fun d member => all d (List.mem_cons_of_mem c member)) delimited
      rw [List.cons_append, readToken_digit (all c (by simp)), rest]

theorem readToken_negative (n : Nat) {rest : Bytes} (delimited : Delimited rest) :
    readToken (45 :: decimal n ++ rest) = (⟨.number, 45 :: decimal n⟩, rest) := by
  have number := readNumber_digits (fun c member => isDigit_of_mem_decimal (n := n) member) delimited
  have token : readToken (45 :: (decimal n ++ rest)) =
      (⟨.number, 45 :: (readNumber (decimal n ++ rest)).1⟩, (readNumber (decimal n ++ rest)).2) := rfl
  rw [List.cons_append, token, number]

theorem reads_int {levels : Nat} {i : Int} (low : -9223372036854775808 ≤ i) (high : i ≤ 2147483647) :
    Reads decodeDouble (levels + 1) (.int i) := by
  cases i with
  | ofNat n =>
      rw [Int.ofNat_eq_natCast] at high
      refine reads_number (fun rest delimited => readToken_decimal n delimited) ?_
      have decoded := @decodeNumber_decimal decodeDouble n (by simp only [maxLargestUInt]; omega)
      rw [if_pos (by omega)] at decoded
      exact decoded
  | negSucc n =>
      refine reads_number (fun rest delimited => readToken_negative (n + 1) delimited) ?_
      exact @decodeNumber_negative decodeDouble (n + 1) (by simp only [maxLargestInt]; omega)

theorem reads_uint {levels n : Nat} (low : 2147483647 < n) (high : n ≤ maxLargestUInt) :
    Reads decodeDouble (levels + 1) (.uint n) := by
  refine reads_number (fun rest delimited => readToken_decimal n delimited) ?_
  have decoded := @decodeNumber_decimal decodeDouble n high
  rw [if_neg (by omega)] at decoded
  exact decoded

/-! ## Arrays and objects -/

theorem writeItems_cons_cons (item second : Value) (items : List Value) :
    writeItems (item :: second :: items) = writeValue item ++ 44 :: writeItems (second :: items) := by
  rw [writeItems]
  · rw [List.append_assoc]
    rfl
  · simp

theorem writeMembers_cons_cons (key : Bytes) (value : Value) (second : Bytes × Value)
    (members : List (Bytes × Value)) :
    writeMembers ((key, value) :: second :: members) =
      valueToQuotedString key ++ 58 :: (writeValue value ++ 44 :: writeMembers (second :: members)) := by
  rw [writeMembers]
  · simp only [List.append_assoc]
    rfl
  · simp

theorem readArray_reads {levels : Nat} {items : List Value} (nonempty : items ≠ [])
    (each : ∀ item ∈ items, Reads decodeDouble levels item) {fuel depth : Nat} (before : List Value)
    (rest : Bytes) (deep : depth + 1 + levels ≤ stackLimit)
    (enough : 2 * (writeItems items).length + 2 ≤ fuel) :
    readArray decodeDouble fuel depth before (writeItems items ++ 93 :: rest) =
      .ok ⟨true, .array (before ++ items), rest⟩ := by
  induction items generalizing before fuel with
  | nil => exact absurd rfl nonempty
  | cons item items ih =>
      have reads := each item (by simp)
      cases fuel with
      | zero => omega
      | succ fuel =>
          cases items with
          | nil =>
              rw [writeItems] at enough ⊢
              have read := reads fuel (depth + 1) .null (93 :: rest) (by omega) (by omega)
                (by simp [Delimited])
              have close : skipCommentTokens (93 :: rest) = (⟨.arrayEnd, []⟩, rest) := rfl
              rw [readArray, read]
              simp only [close, ↓reduceIte]
          | cons second items =>
              rw [writeItems_cons_cons, List.length_append, List.length_cons] at enough
              have read := reads fuel (depth + 1) .null
                (44 :: (writeItems (second :: items) ++ 93 :: rest)) (by omega) (by omega)
                (by simp [Delimited])
              have comma : skipCommentTokens (44 :: (writeItems (second :: items) ++ 93 :: rest)) =
                  (⟨.arraySeparator, []⟩, writeItems (second :: items) ++ 93 :: rest) := rfl
              have later := @ih (by simp) (fun other member => each other (List.mem_cons_of_mem item member))
                fuel (before ++ [item]) (by omega)
              rw [writeItems_cons_cons, List.append_assoc, List.cons_append, readArray, read]
              simp only [comma, reduceCtorEq, ↓reduceIte, later, List.append_assoc,
                List.singleton_append]

theorem setMember_of_forall_keyLt {members : List (Bytes × Value)} {key : Bytes}
    (below : ∀ member ∈ members, keyLt member.1 key = true) (value : Value) :
    setMember members key value = members ++ [(key, value)] := by
  induction members with
  | nil => rfl
  | cons first rest ih =>
      obtain ⟨key', value'⟩ := first
      have less : keyLt key' key = true := below (key', value') (by simp)
      have unequal : key' ≠ key := by
        rintro rfl
        rw [keyLt_irrefl] at less
        cases less
      have notBelow : ¬ keyLt key key' = true := by
        intro greater
        have cycle := keyLt_trans less greater
        rw [keyLt_irrefl] at cycle
        cases cycle
      rw [setMember, if_neg unequal, if_neg notBelow, ih fun member inside => below member (by simp [inside])]
      rfl

theorem readObject_reads {levels : Nat} {members : List (Bytes × Value)} (nonempty : members ≠ [])
    (names : ∀ member ∈ members, Utf8 member.1)
    (each : ∀ member ∈ members, Reads decodeDouble levels member.2) {fuel depth : Nat}
    {before : List (Bytes × Value)} (ascending : Ascending (before ++ members)) (name rest : Bytes)
    (deep : depth + 1 + levels ≤ stackLimit) (enough : 2 * (writeMembers members).length + 2 ≤ fuel) :
    readObject decodeDouble fuel depth before name (writeMembers members ++ 125 :: rest) =
      .ok ⟨true, .object (before ++ members), rest⟩ := by
  induction members generalizing before fuel name with
  | nil => exact absurd rfl nonempty
  | cons member members ih =>
      obtain ⟨key, value⟩ := member
      have reads : Reads decodeDouble levels value := each (key, value) (by simp)
      have utf8 : Utf8 key := names (key, value) (by simp)
      have below : ∀ earlier ∈ before, keyLt earlier.1 key = true := by
        intro earlier member
        exact (List.pairwise_append.mp ascending).2.2 earlier member (key, value) (by simp)
      have added := setMember_of_forall_keyLt below value
      cases fuel with
      | zero => omega
      | succ fuel =>
          cases members with
          | nil =>
              have text : writeMembers [(key, value)] =
                  valueToQuotedString key ++ 58 :: writeValue value := by
                rw [writeMembers, List.append_assoc]
                rfl
              rw [text, List.length_append, List.length_cons] at enough
              have read := reads fuel (depth + 1) ((before.lookup key).getD .null) (125 :: rest)
                (by omega) (by omega) (by simp [Delimited])
              rw [text, List.append_assoc, List.cons_append, readObject_last decodeDouble utf8 read, added]
          | cons second members =>
              rw [writeMembers_cons_cons, List.length_append, List.length_cons, List.length_append,
                List.length_cons] at enough
              have read := reads fuel (depth + 1) ((before.lookup key).getD .null)
                (44 :: (writeMembers (second :: members) ++ 125 :: rest)) (by omega) (by omega)
                (by simp [Delimited])
              have later := @ih (by simp) (fun other member => names other (List.mem_cons_of_mem _ member))
                (fun other member => each other (List.mem_cons_of_mem _ member)) fuel
                (before ++ [(key, value)]) (by simpa using ascending) key (by omega)
              rw [writeMembers_cons_cons, List.append_assoc, List.cons_append, List.append_assoc,
                List.cons_append, readObject_next decodeDouble utf8 read, added, later,
                List.append_assoc, List.singleton_append]

/-- The first byte of a written value is neither white space nor a closing bracket. -/
theorem writeValue_head {levels : Nat} {value : Value} (readable : Readable levels value) :
    ∃ c text, writeValue value = c :: text ∧ isJsonSpace c = false ∧ c ≠ 93 := by
  have digits (n : Nat) : ∃ c text, decimal n = c :: text ∧ isJsonSpace c = false ∧ c ≠ 93 := by
    have all : ∀ c ∈ decimal n, isDigit c := fun c member => isDigit_of_mem_decimal member
    cases text : decimal n with
    | nil => exact absurd text (decimal_ne_nil n)
    | cons c digits =>
        rw [text] at all
        have digit := all c (by simp)
        refine ⟨c, digits, rfl, ?_, ?_⟩
        · simp only [isDigit, Bool.and_eq_true, decide_eq_true_eq, UInt8.le_iff_toNat_le] at digit
          simp only [isJsonSpace, Bool.or_eq_false_iff, decide_eq_false_iff_not, ← UInt8.toNat_inj]
          simp at digit ⊢
          omega
        · rintro rfl
          exact absurd digit (by decide)
  cases readable with
  | null => exact ⟨_, _, rfl, rfl, by decide⟩
  | boolean b => cases b <;> exact ⟨_, _, rfl, rfl, by decide⟩
  | @int levels i low high =>
      cases i with
      | ofNat n => exact digits n
      | negSucc n => exact ⟨45, decimal (n + 1), rfl, rfl, by decide⟩
  | uint low high => exact digits _
  | string utf8 =>
      obtain ⟨body, quoted, -⟩ := valueToQuotedString_spells utf8
      refine ⟨34, body ++ [34], ?_, rfl, by decide⟩
      rw [writeValue, quoted]
      rfl
  | array each => exact ⟨_, _, rfl, rfl, by decide⟩
  | object ascending names each => exact ⟨_, _, rfl, rfl, by decide⟩

/-- A list of items never begins with a closing bracket, with or without white space before it. -/
theorem skipSpaces_writeItems {levels : Nat} {items : List Value} (nonempty : items ≠ [])
    (readable : ∀ item ∈ items, Readable levels item) (rest : Bytes) :
    ∃ c text, skipSpaces (writeItems items ++ 93 :: rest) = c :: text ∧ c ≠ 93 := by
  cases items with
  | nil => exact absurd rfl nonempty
  | cons item items =>
      obtain ⟨c, text, written, space, other⟩ := writeValue_head (readable item (by simp))
      have head : ∃ text, writeItems (item :: items) = c :: text := by
        cases items with
        | nil => exact ⟨text, by rw [writeItems, written]⟩
        | cons second items =>
            exact ⟨text ++ 44 :: writeItems (second :: items), by rw [writeItems_cons_cons, written]; rfl⟩
      obtain ⟨text, head⟩ := head
      refine ⟨c, text ++ 93 :: rest, ?_, other⟩
      rw [head, skipSpaces, List.cons_append, List.dropWhile_cons_of_neg (by simp [space])]

theorem reads_array {levels : Nat} {items : List Value} (readable : ∀ item ∈ items, Readable levels item)
    (each : ∀ item ∈ items, Reads decodeDouble levels item) :
    Reads decodeDouble (levels + 1) (.array items) := by
  intro fuel depth current rest deep enough delimited
  have text : writeValue (.array items) ++ rest = 91 :: (writeItems items ++ 93 :: rest) := by
    rw [writeValue, List.append_assoc, List.append_assoc]
    rfl
  have length : (writeValue (.array items)).length = (writeItems items).length + 2 := by
    simp [writeValue, str]
  have token : readToken (91 :: (writeItems items ++ 93 :: rest)) =
      (⟨.arrayBegin, []⟩, writeItems items ++ 93 :: rest) := rfl
  cases fuel with
  | zero => omega
  | succ fuel =>
      rw [text, readValue_of_token (by omega) current token (by simp)]
      cases items with
      | nil => rfl
      | cons item items =>
          obtain ⟨c, inner, spaces, other⟩ := skipSpaces_writeItems (by simp) readable rest
          have read := @readArray_reads decodeDouble levels (item :: items) (by simp) each fuel depth [] rest
            (by omega) (by omega)
          simp only [spaces]
          split
          · rename_i same
            exact absurd (List.cons.inj same).1 other
          · exact read

theorem reads_object {levels : Nat} {members : List (Bytes × Value)} (ascending : Ascending members)
    (names : ∀ member ∈ members, Utf8 member.1)
    (each : ∀ member ∈ members, Reads decodeDouble levels member.2) :
    Reads decodeDouble (levels + 1) (.object members) := by
  intro fuel depth current rest deep enough delimited
  have text : writeValue (.object members) ++ rest = 123 :: (writeMembers members ++ 125 :: rest) := by
    rw [writeValue, List.append_assoc, List.append_assoc]
    rfl
  have length : (writeValue (.object members)).length = (writeMembers members).length + 2 := by
    simp [writeValue, str]
  cases fuel with
  | zero => omega
  | succ fuel =>
      rw [text, readValue_object decodeDouble (by omega)]
      cases members with
      | nil =>
          have close : skipCommentTokens (writeMembers [] ++ 125 :: rest) = (⟨.objectEnd, []⟩, rest) := rfl
          cases fuel with
          | zero => omega
          | succ fuel =>
              rw [readObject, close]
              rfl
      | cons member members =>
          exact readObject_reads (by simp) names each ascending [] rest (by omega) (by omega)

theorem reads_of_readable {levels : Nat} {value : Value} (readable : Readable levels value) :
    Reads decodeDouble levels value := by
  induction readable with
  | null => exact reads_null
  | boolean b => exact reads_boolean b
  | int low high => exact reads_int low high
  | uint low high => exact reads_uint low high
  | string utf8 => exact reads_string utf8
  | array readable each => exact reads_array readable each
  | object ascending names readable each => exact reads_object ascending names each

theorem Readable.printed {levels : Nat} {value : Value} (readable : Readable levels value) :
    Printed value := by
  induction readable with
  | null => exact .null
  | boolean b => exact .boolean b
  | @int _ i low high => exact .int i
  | @uint _ n low high => exact .uint n
  | @string _ s utf8 => exact .string s
  | array _ each => exact .array each
  | object ascending names _ each => exact .object each

theorem parse_writeValue {value : Value} (readable : Readable stackLimit value) :
    parse decodeDouble (writeValue value) = .ok (true, value) := by
  have read := @reads_of_readable decodeDouble stackLimit value readable
    (2 * (writeValue value).length + 1) 0 .null [] (by omega) (Nat.le_refl _) (by simp [Delimited])
  rw [List.append_nil] at read
  rw [parse, read]
  rfl

/-- A document ends where its NUL stands, and a written one holds none. -/
theorem parse_cstr_writeValue {value : Value} (readable : Readable stackLimit value) :
    parse decodeDouble (cstr (writeValue value)) = .ok (true, value) := by
  rw [cstr_of_nulFree (nulFree_writeValue readable.printed), parse_writeValue readable]

end DecadaEmbedded.Json.Writer
