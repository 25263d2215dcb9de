import DecadaEmbedded.Library.Decimal
import DecadaEmbedded.Text

/-! # `Json::Value` of the bundled jsoncpp 1.8.4 -/

namespace DecadaEmbedded.Json
open Library

/-- The only thing the firmware asks of a double is its text, so `real` holds what
`valueToString` prints for it. Members stand in the order of the `std::map` that holds them. -/
inductive Value where
  | null
  | boolean (b : Bool)
  | int (i : Int)
  | uint (n : Nat)
  | real (text : Bytes)
  | string (s : Bytes)
  | array (items : List Value)
  | object (members : List (Bytes × Value))
deriving Repr, Inhabited

namespace Value

-- `CZString::operator<`: `memcmp` on the common length, then the shorter key first
def keyLt : Bytes → Bytes → Bool
  | [], [] => false
  | [], _ :: _ => true
  | _ :: _, [] => false
  | a :: as, b :: bs => a < b || (a = b && keyLt as bs)

def setMember : List (Bytes × Value) → Bytes → Value → List (Bytes × Value)
  | [], key, value => [(key, value)]
  | (key', value') :: rest, key, value =>
      if key' = key then (key, value) :: rest
      else if keyLt key key' then (key, value) :: (key', value') :: rest
      else (key', value') :: setMember rest key value

def find (value : Value) (key : Bytes) : Except Raised (Option Value) :=
  match value with
  | .null => .ok none
  | .object members => .ok (members.lookup key)
  | _ => .error (.undefinedBehaviour "throwLogicError"
      "in Json::Value::find(key, end, found): requires objectValue or nullValue")

def get (value : Value) (key : Bytes) (defaultValue : Value) : Except Raised Value := do
  let found ← value.find key
  return found.getD defaultValue

/-- `operator[]` on a non-const value: the container with the member made to exist, and the member. -/
def resolveReference (value : Value) (key : Bytes) : Except Raised (Value × Value) :=
  match value with
  | .null => .ok (.object [(key, .null)], .null)
  | .object members =>
      match members.lookup key with
      | some member => .ok (.object members, member)
      | none => .ok (.object (setMember members key .null), .null)
  | _ => .error (.undefinedBehaviour "throwLogicError"
      "in Json::Value::resolveReference(key, end): requires objectValue")

def assign (value : Value) (key : Bytes) (member : Value) : Value :=
  match value with
  | .object members =>
      .object (members.map fun entry => if entry.1 = key then (entry.1, member) else entry)
  | value => value

/-- `value[key] = member`. -/
def setField (value : Value) (key : Bytes) (member : Value) : Except Raised Value := do
  let (value, _) ← value.resolveReference key
  return value.assign key member

def getMemberNames : Value → Except Raised (List Bytes)
  | .null => .ok []
  | .object members => .ok (members.map Prod.fst)
  | _ => .error (.undefinedBehaviour "throwLogicError"
      "in Json::Value::getMemberNames(), value must be objectValue")

def asString : Value → Except Raised Bytes
  | .null => .ok []
  | .string s => .ok s
  | .boolean b => .ok (if b then str "true" else str "false")
  | .int i => .ok (decimalInt i)
  | .uint n => .ok (decimal n)
  | .real text => .ok text
  | .array _ | .object _ =>
      .error (.undefinedBehaviour "throwLogicError" "Type is not convertible to string")

def scalarText (value : Value) : Option Bytes :=
  match value with
  | .null => none
  | value => value.asString.toOption

def memberText (value : Value) (key missing : Bytes) : Except Raised Bytes := do
  let member ← value.get key (.string missing)
  member.asString

def neString (value : Value) (s : Bytes) : Bool :=
  match value with
  | .string s' => s' ≠ s
  | _ => true

def Printable : Value → Prop
  | .array _ | .object _ => False
  | _ => True

instance : DecidablePred Printable
  | .array _ | .object _ => isFalse id
  | .null | .boolean _ | .int _ | .uint _ | .real _ | .string _ => isTrue trivial

def Searchable : Value → Prop
  | .null | .object _ => True
  | _ => False

instance : DecidablePred Searchable
  | .null | .object _ => isTrue trivial
  | .boolean _ | .int _ | .uint _ | .real _ | .string _ | .array _ => isFalse id

def member? (value : Value) (key : Bytes) : Option Value :=
  match value with
  | .object members => members.lookup key
  | _ => none

theorem resolveReference_of_member {value member : Value} {key : Bytes}
    (found : value.member? key = some member) : value.resolveReference key = .ok (value, member) := by
  cases value with
  | object members => simp only [resolveReference, show members.lookup key = some member from found]
  | _ => cases found

theorem member?_assign {value held member : Value} {key : Bytes}
    (found : value.member? key = some held) : (value.assign key member).member? key = some member := by
  cases value with
  | object members =>
      simp only [member?, assign] at found ⊢
      induction members with
      | nil => cases found
      | cons entry rest ih =>
          obtain ⟨key', value'⟩ := entry
          by_cases same : key' = key
          · simp [same]
          · have unequal : (key == key') = false := beq_false_of_ne (Ne.symm same)
            rw [List.lookup_cons, unequal] at found
            simpa [same, List.lookup_cons, unequal] using ih found
  | _ => cases found

theorem setField_null (key : Bytes) (member : Value) :
    Value.null.setField key member = .ok (.object [(key, member)]) := by
  simp [setField, resolveReference, assign, ok_bind, pure, Except.pure]

theorem lookup_setMember (members : List (Bytes × Value)) (key : Bytes) (value : Value) (name : Bytes) :
    (setMember members key value).lookup name = if name = key then some value else members.lookup name := by
  induction members with
  | nil =>
      by_cases same : name = key
      · simp [setMember, same]
      · simp [setMember, same, List.lookup_cons, beq_false_of_ne same]
  | cons first rest ih =>
      obtain ⟨key', value'⟩ := first
      rw [setMember]
      split_ifs
      all_goals grind

theorem setField_object {members : List (Bytes × Value)} {key : Bytes}
    (fresh : members.lookup key = none) (member : Value) :
    (Value.object members).setField key member = .ok (.object (setMember members key member)) := by
  have absent : ∀ entry ∈ members, entry.1 ≠ key := by
    intro entry inside same
    have none := List.lookup_eq_none_iff.mp fresh entry inside
    simp [same] at none
  have assigned : ((setMember members key .null).map fun entry =>
      if entry.1 = key then (entry.1, member) else entry) = setMember members key member := by
    clear fresh
    induction members with
    | nil => simp [setMember]
    | cons first rest ih =>
        obtain ⟨other, later⟩ := List.forall_mem_cons.mp absent
        have kept : (rest.map fun entry => if entry.1 = key then (entry.1, member) else entry) = rest :=
          (List.map_congr_left fun entry inside => if_neg (later entry inside)).trans (List.map_id rest)
        rw [setMember, if_neg other, setMember, if_neg other]
        split_ifs with before
        · simp [other, kept]
        · simp [other, ih later]
  simp only [setField, resolveReference, fresh, ok_bind, assign, assigned]
  rfl

theorem get_ok_iff {value defaultValue result : Value} {key : Bytes} :
    value.get key defaultValue = .ok result ↔
      value.Searchable ∧ (value.member? key).getD defaultValue = result := by
  cases value <;> simp [get, find, Searchable, member?, bind, Except.bind, pure, Except.pure]

theorem asString_ok_iff {value : Value} : (∃ s, value.asString = .ok s) ↔ value.Printable := by
  cases value <;> simp [asString, Printable]

def PrintableMember (value : Value) (key : Bytes) : Prop :=
  ∀ member, value.member? key = some member → member.Printable

theorem memberText_ok_iff {value : Value} {key missing : Bytes} :
    (∃ text, value.memberText key missing = .ok text) ↔
      value.Searchable ∧ value.PrintableMember key := by
  simp only [memberText, exists_bind_eq_ok, get_ok_iff]
  constructor
  · rintro ⟨member, ⟨searchable, rfl⟩, printed⟩
    refine ⟨searchable, fun member found => ?_⟩
    rw [found] at printed
    exact asString_ok_iff.mp printed
  · rintro ⟨searchable, printable⟩
    refine ⟨_, ⟨searchable, rfl⟩, asString_ok_iff.mpr ?_⟩
    cases found : value.member? key with
    | none => trivial
    | some member => exact printable member found

theorem memberText_of_searchable {value : Value} (searchable : value.Searchable)
    (key missing : Bytes) :
    value.memberText key missing = ((value.member? key).getD (.string missing)).asString := by
  rw [memberText, get_ok_iff.mpr ⟨searchable, rfl⟩]
  rfl

theorem searchable_of_member {value member : Value} {key : Bytes}
    (found : value.member? key = some member) : value.Searchable := by
  cases value with
  | object members => trivial
  | _ => cases found

theorem asString_of_scalarText {value : Value} {text : Bytes} (scalar : value.scalarText = some text) :
    value.asString = .ok text := by
  cases value <;> simp_all [scalarText, asString, Except.toOption]

theorem asString_of_scalarText_none {value : Value} (none : value.scalarText = none) :
    value = .null ∨ ∃ raised, value.asString = .error raised := by
  cases value <;> simp_all [scalarText, asString, Except.toOption]

end Value

end DecadaEmbedded.Json
