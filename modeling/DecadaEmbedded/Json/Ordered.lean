import DecadaEmbedded.Json.Reader
/-!
# The objects of a read value

`std::map` keeps the members of an object in ascending order of their names, so no object that
`Reader::parse` returns has two members of one name.
-/

namespace DecadaEmbedded.Json.Reader
open Library Value

theorem keyLt_irrefl (key : Bytes) : keyLt key key = false := by
  induction key with
  | nil => rfl
  | cons c key ih => simp [keyLt, ih]

theorem keyLt_trans {first second third : Bytes} (below : keyLt first second = true)
    (above : keyLt second third = true) : keyLt first third = true := by
  induction first generalizing second third with
  | nil =>
      cases third with
      | nil => cases second <;> cases above
      | cons c third => rfl
  | cons a first ih =>
      cases second with
      | nil => cases below
      | cons b second =>
          cases third with
          | nil => cases above
          | cons c third =>
              simp only [keyLt, Bool.or_eq_true, Bool.and_eq_true, decide_eq_true_eq,
                UInt8.lt_iff_toNat_lt, ← UInt8.toNat_inj] at below above ⊢
              rcases below with less | ⟨same, below⟩
              · omega
              rcases above with less | ⟨same', above⟩
              · omega
              · exact .inr ⟨by omega, ih below above⟩

theorem keyLt_of_not {first second : Bytes} (unequal : first ≠ second)
    (notBelow : keyLt first second = false) : keyLt second first = true := by
  induction first generalizing second with
  | nil =>
      cases second with
      | nil => exact absurd rfl unequal
      | cons b second => cases notBelow
  | cons a first ih =>
      cases second with
      | nil => rfl
      | cons b second =>
          simp only [keyLt, Bool.or_eq_false_iff, Bool.and_eq_false_iff, decide_eq_false_iff_not,
            Bool.or_eq_true, Bool.and_eq_true, decide_eq_true_eq, UInt8.lt_iff_toNat_lt,
            ← UInt8.toNat_inj] at notBelow ⊢
          by_cases same : a = b
          · subst same
            refine .inr ⟨rfl, ih (fun equal => unequal (by rw [equal])) ?_⟩
            rcases notBelow.2 with other | notBelow
            · exact absurd rfl other
            · exact notBelow
          · left
            rw [← UInt8.toNat_inj] at same
            omega

def Ascending (members : List (Bytes × Value)) : Prop :=
  members.Pairwise fun first second => keyLt first.1 second.1 = true

theorem Ascending.nodup {members : List (Bytes × Value)} (ascending : Ascending members) :
    (members.map Prod.fst).Nodup := by
  refine List.pairwise_map.mpr (ascending.imp fun {first second} below same => ?_)
  rw [same, keyLt_irrefl] at below
  cases below

theorem lookup_of_mem {params : List (Bytes × Value)} (names : (params.map Prod.fst).Nodup)
    {name : Bytes} {value : Value} (member : (name, value) ∈ params) :
    params.lookup name = some value := by
  induction params with
  | nil => cases member
  | cons first rest ih =>
      obtain ⟨key, held⟩ := first
      rw [List.map_cons, List.nodup_cons] at names
      rcases List.mem_cons.mp member with same | member
      · cases same
        simp
      · have other : (name == key) = false := by
          apply beq_false_of_ne
          intro same
          exact names.1 (List.mem_map.mpr ⟨_, member, same⟩)
        rw [List.lookup_cons, other]
        exact ih names.2 member

theorem mem_of_mem_setMember {members : List (Bytes × Value)} {key : Bytes} {value : Value}
    {member : Bytes × Value} (inside : member ∈ setMember members key value) :
    member = (key, value) ∨ member ∈ members := by
  induction members with
  | nil => exact .inl (List.mem_singleton.mp inside)
  | cons first rest ih =>
      obtain ⟨key', value'⟩ := first
      rw [setMember] at inside
      split_ifs at inside with same before
      · rcases List.mem_cons.mp inside with new | old
        · exact .inl new
        · exact .inr (List.mem_cons_of_mem _ old)
      · rcases List.mem_cons.mp inside with new | old
        · exact .inl new
        · exact .inr old
      · rcases List.mem_cons.mp inside with old | inside
        · exact .inr (List.mem_cons.mpr (.inl old))
        · exact (ih inside).imp_right (List.mem_cons_of_mem _)

theorem Ascending.setMember {members : List (Bytes × Value)} (ascending : Ascending members)
    (key : Bytes) (value : Value) : Ascending (setMember members key value) := by
  induction members with
  | nil => exact List.pairwise_singleton _ _
  | cons first rest ih =>
      obtain ⟨key', value'⟩ := first
      obtain ⟨least, ascending⟩ := List.pairwise_cons.mp ascending
      rw [Value.setMember]
      split_ifs with same before
      · subst same
        exact List.pairwise_cons.mpr ⟨least, ascending⟩
      · refine List.pairwise_cons.mpr ⟨?_, List.pairwise_cons.mpr ⟨least, ascending⟩⟩
        intro member inside
        rcases List.mem_cons.mp inside with rfl | inside
        · exact before
        · exact keyLt_trans before (least member inside)
      · refine List.pairwise_cons.mpr ⟨?_, ih ascending⟩
        intro member inside
        rcases mem_of_mem_setMember inside with rfl | inside
        · exact keyLt_of_not (Ne.symm same) (by simpa using before)
        · exact least member inside

/-- The members of every object of the value stand in ascending order of their names. -/
inductive Ordered : Value → Prop where
  | null : Ordered .null
  | boolean (b : Bool) : Ordered (.boolean b)
  | int (i : Int) : Ordered (.int i)
  | uint (n : Nat) : Ordered (.uint n)
  | real (text : Bytes) : Ordered (.real text)
  | string (s : Bytes) : Ordered (.string s)
  | array {items : List Value} (each : ∀ item ∈ items, Ordered item) : Ordered (.array items)
  | object {members : List (Bytes × Value)} (ascending : Ascending members)
      (each : ∀ member ∈ members, Ordered member.2) : Ordered (.object members)

theorem Ordered.setMember {members : List (Bytes × Value)} {value : Value}
    (each : ∀ member ∈ members, Ordered member.2) (ordered : Ordered value) (key : Bytes) :
    ∀ member ∈ setMember members key value, Ordered member.2 := by
  intro member inside
  rcases mem_of_mem_setMember inside with rfl | inside
  · exact ordered
  · exact each member inside

theorem Ordered.ascending {members : List (Bytes × Value)} (ordered : Ordered (.object members)) :
    Ascending members := by
  cases ordered with
  | object ascending => exact ascending

theorem Ordered.member {value member : Value} {key : Bytes} (ordered : Ordered value)
    (found : value.member? key = some member) : Ordered member := by
  cases ordered with
  | object ascending each =>
      obtain ⟨before, after, rfl, -⟩ := List.lookup_eq_some_iff.mp found
      exact each (key, member) (by simp)
  | _ => cases found

variable (decodeDouble : Bytes → Option Bytes)

def Yields (result : Except Raised Read) : Prop := ∀ read, result = .ok read → Ordered read.value

structure ReadersYield (fuel : Nat) : Prop where
  value : ∀ depth current input, Ordered current →
    Yields (readValue decodeDouble fuel depth current input)
  object : ∀ depth members name input, Ascending members → (∀ member ∈ members, Ordered member.2) →
    Yields (readObject decodeDouble fuel depth members name input)
  array : ∀ depth items input, (∀ item ∈ items, Ordered item) →
    Yields (readArray decodeDouble fuel depth items input)

variable {decodeDouble}

theorem Yields.ok {read : Read} (ordered : Ordered read.value) : Yields (.ok read) := by
  rintro _ ⟨⟩
  exact ordered

theorem Yields.error (raised : Raised) : Yields (.error raised) := by
  rintro _ ⟨⟩

theorem decodeNumber_ordered {text : Bytes} {value : Value}
    (decoded : decodeNumber decodeDouble text = some value) : Ordered value := by
  unfold decodeNumber at decoded
  dsimp only at decoded
  split at decoded
  · obtain ⟨real, -, rfl⟩ := Option.map_eq_some_iff.mp decoded
    exact .real real
  · split_ifs at decoded <;> cases decoded <;> constructor

theorem ReadersYield.readValue_succ {fuel : Nat} (less : ReadersYield decodeDouble fuel) (depth : Nat)
    {current : Value} (input : Bytes) (ordered : Ordered current) :
    Yields (readValue decodeDouble (fuel + 1) depth current input) := by
  simp only [readValue]
  split
  · exact .error _
  · cases (skipCommentTokens input).1.type
    case objectBegin => exact less.object depth [] [] _ List.Pairwise.nil (by simp)
    case arrayBegin =>
      simp only
      split
      · exact .ok (.array (by simp))
      · exact less.array depth [] _ (by simp)
    case number =>
      simp only
      split
      · exact .ok (decodeNumber_ordered (by assumption))
      · exact .ok ordered
    case string =>
      simp only
      split
      · exact .ok (.string _)
      · exact .ok ordered
    case true => exact .ok (.boolean true)
    case false => exact .ok (.boolean false)
    case null => exact .ok .null
    all_goals exact .ok ordered

theorem ReadersYield.readObject_succ {fuel : Nat} (less : ReadersYield decodeDouble fuel) (depth : Nat)
    {members : List (Bytes × Value)} (name input : Bytes) (ascending : Ascending members)
    (each : ∀ member ∈ members, Ordered member.2) :
    Yields (readObject decodeDouble (fuel + 1) depth members name input) := by
  have held (key : Bytes) : Ordered ((members.lookup key).getD .null) := by
    cases found : members.lookup key with
    | none => exact .null
    | some value => exact (Ordered.object ascending each).member found
  have stopped : Yields (failed (.object members)) := .ok (.object ascending each)
  simp only [readObject]
  split
  · exact .ok (.object ascending each)
  split
  · split
    · exact stopped
    rename_i key _
    split
    · exact stopped
    have value := less.value (depth + 1) ((members.lookup key).getD .null)
      (readToken (skipCommentTokens input).2).2 (held key)
    split
    · exact .error _
    rename_i read same
    have ascending' := ascending.setMember key read.value
    have each' := Ordered.setMember each (value read same) key
    have stopped' : Yields (failed (.object (Value.setMember members key read.value))) :=
      .ok (.object ascending' each')
    split
    · split
      · exact .ok (.object ascending' each')
      split
      · exact less.object depth _ _ _ ascending' each'
      split
      · split
        · exact .ok (.object ascending' each')
        · exact less.object depth _ _ _ ascending' each'
      · exact stopped'
    · exact stopped'
  · exact stopped

theorem ReadersYield.readArray_succ {fuel : Nat} (less : ReadersYield decodeDouble fuel) (depth : Nat)
    {items : List Value} (input : Bytes) (each : ∀ item ∈ items, Ordered item) :
    Yields (readArray decodeDouble (fuel + 1) depth items input) := by
  have value := less.value (depth + 1) .null input .null
  simp only [readArray]
  split
  · exact .error _
  · rename_i read same
    have each' : ∀ item ∈ items ++ [read.value], Ordered item := by
      intro item member
      rcases List.mem_append.mp member with member | member
      · exact each item member
      · rw [List.mem_singleton.mp member]
        exact value read same
    split_ifs
    · exact .ok (.array each')
    · exact less.array depth _ _ each'
    · exact .ok (.array each')
    · exact .ok (.array each')

theorem readersYield (fuel : Nat) : ReadersYield decodeDouble fuel := by
  induction fuel with
  | zero => exact ⟨fun _ _ _ _ => .error _, fun _ _ _ _ _ _ => .error _, fun _ _ _ _ => .error _⟩
  | succ fuel less =>
      exact ⟨fun depth _ input => less.readValue_succ depth input,
        fun depth _ name input => less.readObject_succ depth name input,
        fun depth _ input => less.readArray_succ depth input⟩

theorem parse_ordered {document : Bytes} {ok : Bool} {root : Value}
    (parsed : parse decodeDouble document = .ok (ok, root)) : Ordered root := by
  obtain ⟨read, result, done⟩ := bind_eq_ok.mp parsed
  cases pure_eq_ok.mp done
  exact (readersYield _).value 0 .null document .null read result

end DecadaEmbedded.Json.Reader
