import DecadaEmbedded.Json.Ordered

/-!
# How long a document is

The reader takes from a document at least the bytes that spell the strings and the members it leaves
in the root, whether it accepts the document or stops at an error.
-/

namespace DecadaEmbedded.Json.Reader
open Library Value

mutual

/-- A string with its quotes; for each member of an object the name with its quotes, the colon, and
the brace or the comma in front. -/
def weight : Value → Nat
  | .string s => s.length + 2
  | .object members => weightMembers members
  | _ => 0

def weightMembers : List (Bytes × Value) → Nat
  | [] => 0
  | (name, value) :: members => name.length + 4 + weight value + weightMembers members

end

/-! ## Members -/

theorem lookup_eq_none_of_keyLt {members : List (Bytes × Value)} {key : Bytes}
    (below : ∀ member ∈ members, keyLt key member.1 = true) : members.lookup key = none := by
  refine List.lookup_eq_none_iff.mpr fun member inside => bne_iff_ne.mpr ?_
  rintro rfl
  exact absurd (below member inside) (by rw [keyLt_irrefl]; decide)

/-- A member that is read again gives back the weight it had. -/
theorem weightMembers_setMember {members : List (Bytes × Value)} (ascending : Ascending members)
    (key : Bytes) (value : Value) :
    weightMembers (setMember members key value) + weight ((members.lookup key).getD .null) ≤
      weightMembers members + (key.length + 4 + weight value) := by
  induction members with
  | nil => simp [setMember, weightMembers, weight]
  | cons first rest ih =>
      obtain ⟨key', value'⟩ := first
      obtain ⟨least, ascending⟩ := List.pairwise_cons.mp ascending
      rw [setMember]
      split_ifs with same before
      · subst same
        simp only [weightMembers, List.lookup_cons_self, Option.getD_some]
        omega
      · have absent : ((key', value') :: rest).lookup key = none := by
          refine lookup_eq_none_of_keyLt fun member inside => ?_
          rcases List.mem_cons.mp inside with rfl | inside
          · exact before
          · exact keyLt_trans before (least member inside)
        simp only [absent, weightMembers, Option.getD_none, weight]
        omega
      · have other : (key == key') = false := beq_false_of_ne (Ne.symm same)
        have later := ih ascending
        simp only [List.lookup_cons, other, weightMembers]
        omega

theorem weightMembers_filter_le (p : Bytes × Value → Bool) (members : List (Bytes × Value)) :
    weightMembers (members.filter p) ≤ weightMembers members := by
  induction members with
  | nil => exact le_rfl
  | cons first rest ih =>
      rw [List.filter_cons]
      split <;> simp only [weightMembers] <;> omega

theorem lookup_filter_ne (members : List (Bytes × Value)) {key other : Bytes} (unequal : key ≠ other) :
    (members.filter fun member => member.1 ≠ other).lookup key = members.lookup key := by
  induction members with
  | nil => rfl
  | cons first rest ih =>
      obtain ⟨name, value⟩ := first
      by_cases same : name = other
      · have skipped : (key == name) = false := beq_false_of_ne (by rw [same]; exact unequal)
        simp [same, List.lookup_cons, ← ih, beq_false_of_ne unequal]
      · rw [List.filter_cons_of_pos (by simpa using same), List.lookup_cons, List.lookup_cons, ih]

theorem weightMembers_of_lookup {members : List (Bytes × Value)} {key : Bytes} {value : Value}
    (found : members.lookup key = some value) :
    key.length + 4 + weight value + weightMembers (members.filter fun member => member.1 ≠ key) ≤
      weightMembers members := by
  induction members with
  | nil => cases found
  | cons first rest ih =>
      obtain ⟨name, held⟩ := first
      by_cases same : key = name
      · subst same
        rw [List.lookup_cons_self] at found
        cases found
        have shorter := weightMembers_filter_le (fun member => member.1 ≠ key) rest
        rw [List.filter_cons_of_neg (by simp)]
        simp only [weightMembers]
        omega
      · rw [List.lookup_cons, beq_false_of_ne same] at found
        have later := ih found
        rw [List.filter_cons_of_pos (by simpa using Ne.symm same)]
        simp only [weightMembers]
        omega

theorem weightMembers_of_three {members : List (Bytes × Value)} {key₁ key₂ key₃ : Bytes}
    {value₁ value₂ value₃ : Value} (found₁ : members.lookup key₁ = some value₁)
    (found₂ : members.lookup key₂ = some value₂) (found₃ : members.lookup key₃ = some value₃)
    (unequal : key₂ ≠ key₁ ∧ key₃ ≠ key₁ ∧ key₃ ≠ key₂) :
    key₁.length + 4 + weight value₁ + (key₂.length + 4 + weight value₂) +
      (key₃.length + 4 + weight value₃) ≤ weightMembers members := by
  obtain ⟨second, third, third'⟩ := unequal
  have first := weightMembers_of_lookup found₁
  rw [← lookup_filter_ne members second] at found₂
  rw [← lookup_filter_ne members third, ← lookup_filter_ne _ third'] at found₃
  have later := weightMembers_of_lookup found₂
  have last := weightMembers_of_lookup found₃
  omega

/-! ## String tokens -/

theorem length_codePointToUTF8_le (cp : Nat) : (codePointToUTF8 cp).length ≤ 4 := by
  unfold codePointToUTF8
  split_ifs <;> simp

/-- The string goes on behind a piece that is no longer than its spelling. -/
def GoesOn (rest s : Bytes) : Prop :=
  ∃ piece later tail, s = piece ++ tail ∧ decodeStringBody later = some tail ∧
    piece.length + later.length ≤ rest.length + 1 ∧ later.length ≤ rest.length

theorem goesOn_of_map (piece : Bytes) {later rest s : Bytes}
    (spelled : piece.length + later.length ≤ rest.length + 1) (shorter : later.length ≤ rest.length)
    (mapped : (decodeStringBody later).map (piece ++ ·) = some s) : GoesOn rest s := by
  obtain ⟨tail, read, rfl⟩ := Option.map_eq_some_iff.mp mapped
  exact ⟨piece, later, tail, rfl, read, spelled, shorter⟩

theorem goesOn_of_unicode {cp : Nat} {later rest s : Bytes} (spelled : later.length + 3 ≤ rest.length)
    (mapped : (decodeStringBody later).map (codePointToUTF8 cp ++ ·) = some s) : GoesOn rest s := by
  have four := length_codePointToUTF8_le cp
  exact goesOn_of_map _ (by omega) (by omega) mapped

theorem decodeStringBody_cons {c : UInt8} {rest s : Bytes} (decoded : decodeStringBody (c :: rest) = some s) :
    s = [] ∨ GoesOn rest s := by
  rw [decodeStringBody.eq_def] at decoded
  dsimp only at decoded
  split_ifs at decoded
  · exact .inl (Option.some.inj decoded).symm
  · right
    split at decoded
    · cases decoded
    · split at decoded
      · exact goesOn_of_map [_] (by simp only [List.length_cons, List.length_nil]; omega) (Nat.le_succ _)
          decoded
      · split_ifs at decoded
        split at decoded
        · split at decoded
          · cases decoded
          · split_ifs at decoded
            · split at decoded
              · split_ifs at decoded
                split at decoded
                · cases decoded
                · exact goesOn_of_unicode (by simp only [List.length_cons]; omega) decoded
              · cases decoded
            · exact goesOn_of_unicode (by simp only [List.length_cons]; omega) decoded
        · cases decoded
  · exact .inr (goesOn_of_map [c] (Nat.le_of_eq (Nat.add_comm 1 _)) le_rfl decoded)

/-- No spelling of a string is shorter than the string. -/
theorem length_decodeStringBody_le {body s : Bytes} (decoded : decodeStringBody body = some s) :
    s.length ≤ body.length := by
  induction length : body.length using Nat.strong_induction_on generalizing body s with
  | _ n ih =>
      cases body with
      | nil =>
          cases decoded
          exact Nat.zero_le n
      | cons c rest =>
          rw [List.length_cons] at length
          rcases decodeStringBody_cons decoded with rfl | ⟨piece, later, tail, rfl, read, spelled, shorter⟩
          · exact Nat.zero_le n
          · have inner := ih later.length (by omega) read rfl
            rw [List.length_append]
            omega

theorem length_readString {input text rest : Bytes} (closed : readString input = some (text, rest)) :
    text.length + rest.length = input.length ∧ text ≠ [] := by
  fun_induction readString input generalizing text with
  | case1 | case2 => cases closed
  | case3 c e tail _ ih =>
      obtain ⟨⟨inner, left⟩, closed, same⟩ := Option.map_eq_some_iff.mp closed
      cases same
      obtain ⟨length, -⟩ := ih closed
      simp only [List.length_cons]
      exact ⟨by omega, List.cons_ne_nil _ _⟩
  | case4 =>
      cases closed
      exact ⟨by simp [Nat.add_comm], List.cons_ne_nil _ _⟩
  | case5 c tail _ _ ih =>
      obtain ⟨⟨inner, left⟩, closed, same⟩ := Option.map_eq_some_iff.mp closed
      cases same
      obtain ⟨length, -⟩ := ih closed
      simp only [List.length_cons]
      exact ⟨by omega, List.cons_ne_nil _ _⟩

theorem length_decodeString_le {text s : Bytes} (decoded : decodeString text = some s) :
    s.length ≤ text.length - 2 := by
  have shorter := length_decodeStringBody_le decoded
  simp only [List.length_dropLast, List.length_drop] at shorter
  omega

theorem matchPattern_ne_string {pattern rest : Bytes} {type : TokenType} (other : type ≠ .string) :
    (matchPattern pattern rest type).1.type ≠ .string := by
  unfold matchPattern
  split
  · exact other
  · rintro ⟨⟩

theorem length_readToken {input : Bytes} (string : (readToken input).1.type = .string) :
    2 ≤ (readToken input).1.text.length ∧
      (readToken input).1.text.length + (readToken input).2.length ≤ input.length := by
  have spaces := dropWhile_length_le isJsonSpace input
  change (skipSpaces input).length ≤ input.length at spaces
  unfold readToken at string ⊢
  cases same : skipSpaces input with
  | nil => simp [same] at string
  | cons c rest =>
      rw [same, List.length_cons] at spaces
      simp only [same] at string ⊢
      split at string
      case h_5 =>
        cases closed : readString rest with
        | none => simp [closed] at string
        | some result =>
            obtain ⟨text, tail⟩ := result
            obtain ⟨length, nonempty⟩ := length_readString closed
            have positive := List.length_pos_iff.mpr nonempty
            simp only [List.length_cons]
            exact ⟨by omega, by omega⟩
      case h_6 => split at string <;> cases string
      case h_18 | h_19 | h_20 => exact absurd string (matchPattern_ne_string (by decide))
      all_goals cases string

theorem length_skipComments (bound : Nat) {input : Bytes}
    (string : (skipComments bound input).1.type = .string) :
    2 ≤ (skipComments bound input).1.text.length ∧
      (skipComments bound input).1.text.length + (skipComments bound input).2.length ≤ input.length := by
  induction bound generalizing input with
  | zero => exact length_readToken string
  | succ bound ih =>
      simp only [skipComments] at string ⊢
      split_ifs at string ⊢ with comment
      · have first := (readToken_length input).1
        obtain ⟨long, within⟩ := ih string
        exact ⟨long, by omega⟩
      · exact length_readToken string

theorem length_skipCommentTokens {input s : Bytes} (string : (skipCommentTokens input).1.type = .string)
    (decoded : decodeString (skipCommentTokens input).1.text = some s) :
    s.length + 2 + (skipCommentTokens input).2.length ≤ input.length := by
  obtain ⟨long, within⟩ := length_skipComments input.length string
  change 2 ≤ (skipCommentTokens input).1.text.length at long
  change (skipCommentTokens input).1.text.length + (skipCommentTokens input).2.length ≤ _ at within
  have shorter := length_decodeString_le decoded
  omega

/-! ## Reads -/

variable (decodeDouble : Bytes → Option Bytes)

def Spends (bound : Nat) (result : Except Raised Read) : Prop :=
  ∀ read, result = .ok read → weight read.value + read.rest.length ≤ bound

/-- What a node held before counts, as a failed read leaves it; `readObject` starts behind the brace
or the comma. -/
structure ReadersSpend (fuel : Nat) : Prop where
  value : ∀ depth current input,
    Spends (weight current + input.length) (readValue decodeDouble fuel depth current input)
  object : ∀ depth members name input, Ascending members →
    Spends (weightMembers members + 1 + input.length)
      (readObject decodeDouble fuel depth members name input)
  array : ∀ depth items input, Spends input.length (readArray decodeDouble fuel depth items input)

variable {decodeDouble}

theorem Spends.ok {bound : Nat} {read : Read} (within : weight read.value + read.rest.length ≤ bound) :
    Spends bound (.ok read) := by
  rintro _ ⟨⟩
  exact within

theorem Spends.error (bound : Nat) (raised : Raised) : Spends bound (.error raised) := by
  rintro _ ⟨⟩

theorem Spends.failed {bound : Nat} {value : Value} (within : weight value ≤ bound) :
    Spends bound (failed value) := Spends.ok within

theorem Spends.mono {less bound : Nat} {result : Except Raised Read} (spends : Spends less result)
    (le : less ≤ bound) : Spends bound result := fun read same => (spends read same).trans le

theorem weight_decodeNumber {text : Bytes} {value : Value}
    (decoded : decodeNumber decodeDouble text = some value) : weight value = 0 := by
  unfold decodeNumber at decoded
  dsimp only at decoded
  split at decoded
  · obtain ⟨real, -, rfl⟩ := Option.map_eq_some_iff.mp decoded
    rfl
  · split_ifs at decoded <;> cases decoded <;> rfl

theorem ReadersSpend.readValue_succ {fuel : Nat} (less : ReadersSpend decodeDouble fuel) (depth : Nat)
    (current : Value) (input : Bytes) :
    Spends (weight current + input.length) (readValue decodeDouble (fuel + 1) depth current input) := by
  have token := skipCommentTokens_length input
  have unread : Spends (weight current + input.length) (failed current) :=
    .failed (Nat.le_add_right _ _)
  simp only [readValue]
  split
  · exact .error _ _
  · cases kind : (skipCommentTokens input).1.type
    case objectBegin =>
      have brace := token.2 (by simp [kind])
      exact (less.object depth [] [] _ List.Pairwise.nil).mono (by simp only [weightMembers]; omega)
    case arrayBegin =>
      simp only
      split
      · rename_i rest same
        have spaces := dropWhile_length_le isJsonSpace (skipCommentTokens input).2
        change (skipSpaces _).length ≤ _ at spaces
        rw [same, List.length_cons] at spaces
        exact .ok (by simp only [weight]; omega)
      · exact (less.array depth [] _).mono (by omega)
    case number =>
      simp only
      split
      · rename_i value decoded
        have weightless := weight_decodeNumber decoded
        exact .ok (by dsimp only; omega)
      · exact unread
    case string =>
      simp only
      split
      · rename_i s decoded
        have spelled := length_skipCommentTokens kind decoded
        exact .ok (by simp only [weight]; omega)
      · exact unread
    case true | false | null => exact .ok (by simp only [weight]; omega)
    all_goals exact unread

theorem ReadersSpend.readObject_succ {fuel : Nat} (less : ReadersSpend decodeDouble fuel) (depth : Nat)
    {members : List (Bytes × Value)} (name input : Bytes) (ascending : Ascending members) :
    Spends (weightMembers members + 1 + input.length)
      (readObject decodeDouble (fuel + 1) depth members name input) := by
  have token := skipCommentTokens_length input
  have stopped : Spends (weightMembers members + 1 + input.length) (failed (.object members)) :=
    .failed (by simp only [weight]; omega)
  simp only [readObject]
  split
  · exact .ok (by simp only [weight]; omega)
  split
  · rename_i string
    split
    · exact stopped
    rename_i key decoded
    have spelled := length_skipCommentTokens string decoded
    have colon := readToken_length (skipCommentTokens input).2
    split
    · exact stopped
    rename_i separated
    have behind := colon.2 (by intro ended; simp [ended] at separated)
    have value := less.value (depth + 1) ((members.lookup key).getD .null)
      (readToken (skipCommentTokens input).2).2
    split
    · exact .error _ _
    rename_i read same
    have spent := value read same
    have grown := weightMembers_setMember ascending key read.value
    have ascending' := ascending.setMember key read.value
    have within : weightMembers (setMember members key read.value) + read.rest.length ≤
        weightMembers members + 1 + input.length := by
      omega
    have stopped' : Spends (weightMembers members + 1 + input.length)
        (failed (.object (setMember members key read.value))) :=
      .failed (by simp only [weight]; omega)
    split
    · have comma := readToken_length read.rest
      have later := (skipCommentTokens_length (readToken read.rest).2).1
      split
      · exact .ok (by simp only [weight]; omega)
      split
      · rename_i next
        have shorter := comma.2 (by simp [next])
        exact (less.object depth _ _ _ ascending').mono (by omega)
      split
      · rename_i comment
        have shorter := comma.2 (by simp [comment])
        split
        · exact .ok (by simp only [weight]; omega)
        · exact (less.object depth _ _ _ ascending').mono (by omega)
      · exact stopped'
    · exact stopped'
  · exact stopped

theorem ReadersSpend.readArray_succ {fuel : Nat} (less : ReadersSpend decodeDouble fuel) (depth : Nat)
    (items : List Value) (input : Bytes) :
    Spends input.length (readArray decodeDouble (fuel + 1) depth items input) := by
  have value := less.value (depth + 1) .null input
  simp only [readArray]
  split
  · exact .error _ _
  · rename_i read same
    have spent := value read same
    have token := (skipCommentTokens_length read.rest).1
    simp only [weight] at spent
    split_ifs
    · exact .ok (by simp only [weight]; omega)
    · exact (less.array depth _ _).mono (by omega)
    · exact .failed (by simp only [weight]; omega)
    · exact .failed (by simp only [weight]; omega)

theorem readersSpend (fuel : Nat) : ReadersSpend decodeDouble fuel := by
  induction fuel with
  | zero => exact ⟨fun _ _ _ => .error _ _, fun _ _ _ _ _ => .error _ _, fun _ _ _ => .error _ _⟩
  | succ fuel less =>
      exact ⟨less.readValue_succ, fun depth _ name input => less.readObject_succ depth name input,
        less.readArray_succ⟩

/-- A document is no shorter than what it leaves in the root, accepted or not. -/
theorem weight_le_of_parse {document : Bytes} {ok : Bool} {root : Value}
    (parsed : parse decodeDouble document = .ok (ok, root)) : weight root ≤ document.length := by
  obtain ⟨read, result, done⟩ := bind_eq_ok.mp parsed
  cases pure_eq_ok.mp done
  have spent := (readersSpend _).value 0 .null document read result
  simp only [weight] at spent
  omega

end DecadaEmbedded.Json.Reader
