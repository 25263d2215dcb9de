import DecadaEmbedded.Conversions
import DecadaEmbedded.Json.Reader

/-!
# `DecadaManager/subscription_callback.cpp`

The callback as a function from the message to the mails it puts. Its wait for a free slot of
`mqtt_arrived_mail_box` is left out: a slot is taken to become free.
-/

namespace DecadaEmbedded.SubscriptionCallback
open Conversions Json Json.Reader

structure MqttArrivedMail where
  endpointId : Bytes
  msgId : Bytes
  param : Bytes
  value : Bytes
deriving DecidableEq, Repr

/-- The payload lies in the client's read buffer; `trailing` is the memory behind it. -/
def incomingPayload (payload trailing : Bytes) : Except Raised Bytes :=
  substr (cstr (payload ++ trailing)) 0 payload.length

def identifier : Bytes := str "thing.service."

def eraseIdentifier (endpointId : Bytes) : Except Raised Bytes :=
  match DecadaEmbedded.find endpointId identifier with
  | some found => erase endpointId found (found + identifier.length)
  | none => .ok endpointId

def readParam (root : Value) (name : Bytes) : Except Raised (Value × Bytes) := do
  let (root, params) ← root.resolveReference (str "params")
  let (params, member) ← params.resolveReference name
  let value ← member.asString
  return (root.assign (str "params") params, value)

def readParams : Value → List Bytes → Except Raised (List (Bytes × Bytes))
  | _, [] => .ok []
  | root, name :: names => do
      let (root, value) ← readParam root name
      let rest ← readParams root names
      return (name, value) :: rest

def paramList (root : Value) : Except Raised (List (Bytes × Bytes)) := do
  let params ← root.get (str "params") (.string (str "invalid"))
  if params.neString (str "invalid") then
    let paramKeys ← params.getMemberNames
    readParams root paramKeys
  else return []

variable (decodeDouble : Bytes → Option Bytes)

def subscriptionMessageArrivalCallback (payload trailing : Bytes) :
    Except Raised (List MqttArrivedMail) := do
  let incoming ← incomingPayload payload trailing
  let (_, root) ← parse decodeDouble incoming
  let msgId ← root.memberText (str "id") (str "invalid")
  let endpointId ← root.memberText (str "method") (str "invalid")
  let endpointId ← eraseIdentifier endpointId
  let params ← paramList root
  return params.map fun (name, value) =>
    { endpointId := stringToChar endpointId, msgId := stringToChar msgId,
      param := stringToChar name, value := stringToChar value }

/-! ## The shapes the callback takes -/

def ReadableParams (root : Value) : Prop :=
  match root.member? (str "params") with
  | none | some .null => True
  | some (.string s) => s = str "invalid"
  | some (.object params) => ∀ name, (Value.object params).PrintableMember name
  | some _ => False

structure Expected (root : Value) : Prop where
  searchable : root.Searchable
  id : root.PrintableMember (str "id")
  method : root.PrintableMember (str "method")
  params : ReadableParams root

theorem incomingPayload_eq (payload trailing : Bytes) :
    incomingPayload payload trailing = .ok (cstr payload) := by
  simp [incomingPayload, substr, take_cstr_append]

theorem eraseIdentifier_ok (endpointId : Bytes) : ∃ erased, eraseIdentifier endpointId = .ok erased := by
  unfold eraseIdentifier
  cases found : DecadaEmbedded.find endpointId identifier with
  | none => exact ⟨endpointId, rfl⟩
  | some pos => exact ⟨_, erase_of_le _ (find_le_length found)⟩

theorem readParam_eq {root params member : Value} {name : Bytes}
    (held : root.member? (str "params") = some params) (found : params.member? name = some member) :
    readParam root name =
      member.asString.map fun value => (root.assign (str "params") params, value) := by
  simp only [readParam, Value.resolveReference_of_member held,
    Value.resolveReference_of_member found, ok_bind]
  cases member.asString <;> rfl

theorem readParams_ok_iff {params : Value} {names : List Bytes}
    (listed : ∀ name ∈ names, ∃ member, params.member? name = some member)
    {root : Value} (held : root.member? (str "params") = some params) :
    (∃ read, readParams root names = .ok read) ↔ ∀ name ∈ names, params.PrintableMember name := by
  induction names generalizing root with
  | nil => simp [readParams]
  | cons name names ih =>
      obtain ⟨member, found⟩ := listed name (by simp)
      have step := readParam_eq held found
      have later := ih (fun name inside => listed name (by simp [inside])) (Value.member?_assign held)
      have head : params.PrintableMember name ↔ ∃ text, member.asString = .ok text := by
        rw [Value.asString_ok_iff]
        constructor
        · exact fun printable => printable member found
        · intro printable other same
          obtain rfl : member = other := Option.some.inj (found.symm.trans same)
          exact printable
      simp only [readParams, List.forall_mem_cons, head, step]
      constructor
      · rintro ⟨read, taken⟩
        obtain ⟨⟨next, text⟩, first, taken⟩ := bind_eq_ok.mp taken
        obtain ⟨rest, taken, -⟩ := bind_eq_ok.mp taken
        cases printed : member.asString with
        | error raised => simp [printed, Except.map] at first
        | ok text =>
            simp only [printed, Except.map, Except.ok.injEq, Prod.mk.injEq] at first
            obtain ⟨rfl, -⟩ := first
            exact ⟨⟨text, rfl⟩, later.mp ⟨rest, taken⟩⟩
      · rintro ⟨⟨text, printed⟩, printable⟩
        obtain ⟨rest, taken⟩ := later.mpr printable
        refine ⟨(name, text) :: rest, ?_⟩
        simp only [printed, Except.map, ok_bind, taken]
        rfl

theorem mem_memberNames {members : List (Bytes × Value)} {name : Bytes} :
    name ∈ members.map Prod.fst ↔ ∃ member, members.lookup name = some member := by
  induction members with
  | nil => simp
  | cons entry rest ih =>
      obtain ⟨key, value⟩ := entry
      by_cases same : name = key
      · simp [same]
      · have unequal : (name == key) = false := beq_false_of_ne same
        simp only [List.map_cons, List.mem_cons, same, false_or, ih, List.lookup_cons, unequal]

theorem paramList_ok_iff {root : Value} (searchable : root.Searchable) :
    (∃ params, paramList root = .ok params) ↔ ReadableParams root := by
  have got (params : Value) (held : root.member? (str "params") = some params) :
      root.get (str "params") (.string (str "invalid")) = .ok params :=
    Value.get_ok_iff.mpr ⟨searchable, by rw [held]; rfl⟩
  unfold ReadableParams
  cases held : root.member? (str "params") with
  | none =>
      have default : root.get (str "params") (.string (str "invalid")) =
          .ok (.string (str "invalid")) := Value.get_ok_iff.mpr ⟨searchable, by rw [held]; rfl⟩
      simp only [paramList, default, ok_bind, iff_true]
      exact ⟨[], rfl⟩
  | some params =>
      simp only [paramList, got params held, ok_bind]
      cases params with
      | null => exact ⟨fun _ => trivial, fun _ => ⟨[], rfl⟩⟩
      | string s =>
          by_cases invalid : s = str "invalid"
          · subst invalid
            exact ⟨fun _ => rfl, fun _ => ⟨[], rfl⟩⟩
          · simp [Value.neString, invalid, Value.getMemberNames, bind, Except.bind]
      | object members =>
          have listed : ∀ name ∈ members.map Prod.fst,
              ∃ member, (Value.object members).member? name = some member :=
            fun name inside => mem_memberNames.mp inside
          have read := readParams_ok_iff listed held
          simp only [Value.neString, ↓reduceIte, Value.getMemberNames, ok_bind, read]
          constructor
          · intro printable name member found
            exact printable name (mem_memberNames.mpr ⟨member, found⟩) member found
          · exact fun printable name _ => printable name
      | _ => simp [Value.neString, Value.getMemberNames, bind, Except.bind]

theorem expected_of_returned {payload trailing : Bytes} {mails : List MqttArrivedMail}
    (returned : subscriptionMessageArrivalCallback decodeDouble payload trailing = .ok mails) :
    ∃ ok root, parse decodeDouble (cstr payload) = .ok (ok, root) ∧ Expected root := by
  simp only [subscriptionMessageArrivalCallback, incomingPayload_eq, ok_bind, bind_eq_ok, pure_eq_ok,
    Prod.exists] at returned
  obtain ⟨ok, root, parsed, msgId, idRead, endpointId, methodRead, -, -, params, paramsRead, -⟩ := returned
  obtain ⟨searchable, id⟩ := Value.memberText_ok_iff.mp ⟨msgId, idRead⟩
  obtain ⟨-, method⟩ := Value.memberText_ok_iff.mp ⟨endpointId, methodRead⟩
  have readable := (paramList_ok_iff searchable).mp ⟨params, paramsRead⟩
  exact ⟨ok, root, parsed, searchable, id, method, readable⟩

theorem returned_of_expected {payload : Bytes} (trailing : Bytes) {ok : Bool} {root : Value}
    (parsed : parse decodeDouble (cstr payload) = .ok (ok, root)) (expected : Expected root) :
    ∃ mails, subscriptionMessageArrivalCallback decodeDouble payload trailing = .ok mails := by
  obtain ⟨msgId, idRead⟩ := Value.memberText_ok_iff.mpr ⟨expected.searchable, expected.id⟩
  obtain ⟨endpointId, methodRead⟩ := Value.memberText_ok_iff.mpr ⟨expected.searchable, expected.method⟩
  obtain ⟨erased, erasure⟩ := eraseIdentifier_ok endpointId
  obtain ⟨params, paramsRead⟩ := (paramList_ok_iff expected.searchable).mpr expected.params
  simp only [subscriptionMessageArrivalCallback, incomingPayload_eq, ok_bind, exists_bind_eq_ok,
    pure_eq_ok, exists_eq', and_true, Prod.exists]
  exact ⟨ok, root, parsed, msgId, idRead, endpointId, methodRead, erased, erasure, params, paramsRead⟩

/-- The callback returns on exactly the payloads whose JSON value, or the part of it read before
an error, has the expected shape. -/
theorem subscriptionMessageArrivalCallback_returns_iff (payload trailing : Bytes) :
    (∃ mails, subscriptionMessageArrivalCallback decodeDouble payload trailing = .ok mails) ↔
      ∃ ok root, parse decodeDouble (cstr payload) = .ok (ok, root) ∧ Expected root := by
  constructor
  · rintro ⟨mails, returned⟩
    exact expected_of_returned decodeDouble returned
  · rintro ⟨ok, root, parsed, expected⟩
    exact returned_of_expected decodeDouble trailing parsed expected

theorem subscriptionMessageArrivalCallback_array :
    ¬ ∀ (decodeDouble : Bytes → Option Bytes) (payload trailing : Bytes), ∃ mails,
      subscriptionMessageArrivalCallback decodeDouble payload trailing = .ok mails := by
  intro returns
  obtain ⟨mails, returned⟩ := returns (fun _ => none) (str "\x7b\"id\":[]\x7d") []
  have raised : subscriptionMessageArrivalCallback (fun _ => none) (str "\x7b\"id\":[]\x7d") [] =
      .error (.undefinedBehaviour "throwLogicError" "Type is not convertible to string") := by
    decide +kernel
  rw [raised] at returned
  cases returned

/-! ## Mails from what the reader rejects -/

def CarriesParams (root : Value) : Prop :=
  ∃ param params, root.member? (str "params") = some (.object (param :: params))

theorem names_readParams {root : Value} {names : List Bytes} {read : List (Bytes × Bytes)}
    (taken : readParams root names = .ok read) : read.map Prod.fst = names := by
  induction names generalizing root read with
  | nil =>
      cases taken
      rfl
  | cons name names ih =>
      simp only [readParams] at taken
      obtain ⟨⟨next, value⟩, -, taken⟩ := bind_eq_ok.mp taken
      obtain ⟨rest, later, done⟩ := bind_eq_ok.mp taken
      cases pure_eq_ok.mp done
      rw [List.map_cons, ih later]

theorem length_readParams {root : Value} {names : List Bytes} {read : List (Bytes × Bytes)}
    (taken : readParams root names = .ok read) : read.length = names.length := by
  rw [← names_readParams taken, List.length_map]

theorem paramList_ne_nil_iff {root : Value} {params : List (Bytes × Bytes)}
    (searchable : root.Searchable) (taken : paramList root = .ok params) :
    params ≠ [] ↔ CarriesParams root := by
  have got : root.get (str "params") (.string (str "invalid")) =
      .ok ((root.member? (str "params")).getD (.string (str "invalid"))) :=
    Value.get_ok_iff.mpr ⟨searchable, rfl⟩
  rw [paramList, got, ok_bind] at taken
  unfold CarriesParams
  cases held : root.member? (str "params") with
  | none =>
      rw [held] at taken
      cases pure_eq_ok.mp taken
      simp
  | some member =>
      rw [held, Option.getD_some] at taken
      cases member with
      | object members =>
          have read : readParams root (members.map Prod.fst) = .ok params := taken
          have length := length_readParams read
          cases members with
          | nil =>
              obtain rfl := List.length_eq_zero_iff.mp length
              simp
          | cons param rest =>
              have nonempty : params ≠ [] := by
                rintro rfl
                cases length
              exact iff_of_true nonempty ⟨param, rest, rfl⟩
      | null =>
          cases taken
          simp
      | string s =>
          by_cases invalid : s = str "invalid"
          · subst invalid
            cases taken
            simp
          · simp [Value.neString, invalid, Value.getMemberNames, bind, Except.bind] at taken
      | _ => cases taken

theorem mem_paramList {root : Value} {params : List (Bytes × Bytes)} (searchable : root.Searchable)
    (taken : paramList root = .ok params) {param : Bytes × Bytes} (member : param ∈ params) :
    ∃ members value, root.member? (str "params") = some (.object members) ∧
      members.lookup param.1 = some value := by
  obtain ⟨first, rest, held⟩ :=
    (paramList_ne_nil_iff searchable taken).mp (List.ne_nil_of_mem member)
  have got : root.get (str "params") (.string (str "invalid")) = .ok (.object (first :: rest)) :=
    Value.get_ok_iff.mpr ⟨searchable, by rw [held]; rfl⟩
  rw [paramList, got, ok_bind] at taken
  have read : readParams root ((first :: rest).map Prod.fst) = .ok params := taken
  have listed : param.1 ∈ (first :: rest).map Prod.fst := by
    rw [← names_readParams read]
    exact List.mem_map_of_mem member
  obtain ⟨value, found⟩ := mem_memberNames.mp listed
  exact ⟨first :: rest, value, held, found⟩

def mailFor (endpointId msgId : Bytes) (param : Bytes × Bytes) : MqttArrivedMail where
  endpointId := stringToChar endpointId
  msgId := stringToChar msgId
  param := stringToChar param.1
  value := stringToChar param.2

theorem subscriptionMessageArrivalCallback_ok_iff {payload trailing : Bytes}
    {mails : List MqttArrivedMail} :
    subscriptionMessageArrivalCallback decodeDouble payload trailing = .ok mails ↔
      ∃ ok root msgId method endpointId params, parse decodeDouble (cstr payload) = .ok (ok, root) ∧
        root.memberText (str "id") (str "invalid") = .ok msgId ∧
        root.memberText (str "method") (str "invalid") = .ok method ∧
        eraseIdentifier method = .ok endpointId ∧ paramList root = .ok params ∧
        params.map (mailFor endpointId msgId) = mails := by
  simp only [subscriptionMessageArrivalCallback, incomingPayload_eq, ok_bind, bind_eq_ok, pure_eq_ok,
    Prod.exists]
  constructor
  · rintro ⟨ok, root, parsed, msgId, id, method, methodRead, endpointId, erased, params, read, done⟩
    exact ⟨ok, root, msgId, method, endpointId, params, parsed, id, methodRead, erased, read, done⟩
  · rintro ⟨ok, root, msgId, method, endpointId, params, parsed, id, methodRead, erased, read, done⟩
    exact ⟨ok, root, parsed, msgId, id, method, methodRead, endpointId, erased, params, read, done⟩

theorem subscriptionMessageArrivalCallback_puts_iff {payload : Bytes} (trailing : Bytes) {ok : Bool}
    {root : Value} (parsed : parse decodeDouble (cstr payload) = .ok (ok, root)) :
    (∃ mails, subscriptionMessageArrivalCallback decodeDouble payload trailing = .ok mails ∧ mails ≠ []) ↔
      Expected root ∧ CarriesParams root := by
  have nonempty {mails : List MqttArrivedMail} (searchable : root.Searchable)
      (returned : subscriptionMessageArrivalCallback decodeDouble payload trailing = .ok mails) :
      mails ≠ [] ↔ CarriesParams root := by
    obtain ⟨_, _, msgId, method, endpointId, params, same, -, -, -, read, done⟩ :=
      (subscriptionMessageArrivalCallback_ok_iff decodeDouble).mp returned
    cases parsed.symm.trans same
    rw [← done, ← paramList_ne_nil_iff searchable read, ne_eq, List.map_eq_nil_iff]
  constructor
  · rintro ⟨mails, returned, puts⟩
    obtain ⟨_, _, same, expected⟩ := expected_of_returned decodeDouble returned
    cases parsed.symm.trans same
    exact ⟨expected, (nonempty expected.searchable returned).mp puts⟩
  · rintro ⟨expected, carries⟩
    obtain ⟨mails, returned⟩ := returned_of_expected decodeDouble trailing parsed expected
    exact ⟨mails, returned, (nonempty expected.searchable returned).mpr carries⟩

/-- On a payload that the reader rejects the callback returns without a mail exactly if what the reader
left of it in the root is of the expected shape and has no parameter. -/
theorem rejected_puts_no_mail_iff {payload : Bytes} (trailing : Bytes) {root : Value}
    (rejected : parse decodeDouble (cstr payload) = .ok (false, root)) :
    subscriptionMessageArrivalCallback decodeDouble payload trailing = .ok [] ↔
      Expected root ∧ ¬ CarriesParams root := by
  have puts := subscriptionMessageArrivalCallback_puts_iff decodeDouble trailing rejected
  constructor
  · intro silent
    obtain ⟨_, _, same, expected⟩ := expected_of_returned decodeDouble silent
    cases rejected.symm.trans same
    refine ⟨expected, fun carries => ?_⟩
    obtain ⟨mails, returned, nonempty⟩ := puts.mpr ⟨expected, carries⟩
    cases silent.symm.trans returned
    exact nonempty rfl
  · rintro ⟨expected, bare⟩
    obtain ⟨mails, returned⟩ := returned_of_expected decodeDouble trailing rejected expected
    by_cases empty : mails = []
    · rwa [empty] at returned
    · exact absurd (puts.mp ⟨mails, returned, empty⟩).2 bare

-- the closing brace of the request is missing
def cutOff : Bytes := str "\x7b\"id\":\"1\",\"params\":\x7b\"sensor_poll_rate\":20\x7d"

theorem cutOff_rejected : ∃ root, parse (fun _ => none) (cstr cutOff) = .ok (false, root) := by
  have rejected : (parse (fun _ => none) (cstr cutOff)).map Prod.fst = .ok false := by decide +kernel
  cases parsed : parse (fun _ => none) (cstr cutOff) with
  | error raised =>
      rw [parsed] at rejected
      cases rejected
  | ok result =>
      obtain ⟨ok, root⟩ := result
      rw [parsed] at rejected
      cases rejected
      exact ⟨root, rfl⟩

theorem rejected_puts_no_mail_iff_cutOff :
    ∃ root, parse (fun _ => none) (cstr cutOff) = .ok (false, root) ∧
      (subscriptionMessageArrivalCallback (fun _ => none) cutOff [] = .ok [] ↔
        Expected root ∧ ¬ CarriesParams root) := by
  obtain ⟨root, rejected⟩ := cutOff_rejected
  exact ⟨root, rejected, rejected_puts_no_mail_iff (fun _ => none) [] rejected⟩

theorem rejected_puts_mail :
    ¬ ∀ (decodeDouble : Bytes → Option Bytes) (payload trailing : Bytes) (root : Value),
      parse decodeDouble (cstr payload) = .ok (false, root) → ∀ mails,
        subscriptionMessageArrivalCallback decodeDouble payload trailing = .ok mails → mails = [] := by
  intro silent
  obtain ⟨root, rejected⟩ := cutOff_rejected
  have returned : subscriptionMessageArrivalCallback (fun _ => none) cutOff [] =
      .ok [⟨str "invalid", str "1", str "sensor_poll_rate", str "20"⟩] := by
    decide +kernel
  cases silent (fun _ => none) cutOff [] root rejected _ returned

end DecadaEmbedded.SubscriptionCallback
