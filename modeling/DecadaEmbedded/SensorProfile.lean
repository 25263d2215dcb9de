import DecadaEmbedded.Json.Ordered
import DecadaEmbedded.Json.Writer
import Mathlib.Data.List.AList

/-!
# `SensorProfile/sensor_profile.cpp`

`CheckEntityAvailability` has no caller and is left out. The packet is the same in whichever order
the hash map iterates, so that order is an argument. What a double reads from and prints as is a
parameter.
-/

namespace DecadaEmbedded.SensorProfile
open Json Json.Value Json.Reader Json.Writer

/-- `std::stod` and the text that jsoncpp prints for a double. -/
structure DoubleFormat where
  Double : Type
  stod : Bytes → Except Raised Double
  valueToString : Double → Bytes
  printable : ∀ value, ∀ c ∈ valueToString value, 32 ≤ c

/-- `entity_value_pairs_`, in the order in which it iterates. -/
abbrev EntityValuePairs := AList fun _ : Bytes => Bytes × Int

def updateValue (entityName value : Bytes) (timeStamp : Int) (pairs : EntityValuePairs) :
    EntityValuePairs :=
  pairs.insert entityName (value, timeStamp)

def clearEntityList (_ : EntityValuePairs) : EntityValuePairs := ∅

def decadaProtocolVersion : Bytes := str "1.0"

def decadaMethodOfDevice : Bytes := str "thing.measurepoint.post"

variable (format : DoubleFormat)

def stringToDouble (s : Bytes) : Except Raised format.Double := format.stod s

def setPoint (measurePoints : Value) (pair : Sigma fun _ : Bytes => Bytes × Int) : Except Raised Value := do
  let valueFloat ← stringToDouble format pair.2.1
  measurePoints.setField pair.1 (.real (format.valueToString valueFloat))

def createDecadaPacket (deviceUuid : Bytes) (pairs : EntityValuePairs) : Except Raised Bytes := do
  let measurePoints ← pairs.entries.foldlM (setPoint format) .null
  let params ← Value.null.setField (str "measurepoints") measurePoints
  let messageContent ← Value.null.setField (str "id") (.string deviceUuid)
  let messageContent ← messageContent.setField (str "version") (.string decadaProtocolVersion)
  let messageContent ← messageContent.setField (str "params") params
  let messageContent ← messageContent.setField (str "method") (.string decadaMethodOfDevice)
  return (write messageContent).filter (· ≠ 10)

def getNewDecadaPacket (deviceUuid : Bytes) (pairs : EntityValuePairs) : Except Raised Bytes :=
  createDecadaPacket format deviceUuid pairs

/-! ## What a packet holds -/

def packet (deviceUuid : Bytes) (measurePoints : Value) : Value :=
  .object [(str "id", .string deviceUuid), (str "method", .string decadaMethodOfDevice),
    (str "params", .object [(str "measurepoints", measurePoints)]),
    (str "version", .string decadaProtocolVersion)]

def Numeric (value : Bytes) : Prop := ∃ valueFloat, stringToDouble format value = .ok valueFloat

def point (value : Bytes) : Option Value :=
  (stringToDouble format value).toOption.map fun valueFloat => .real (format.valueToString valueFloat)

/-- The measure points are null where no entity has a value, and else an object that maps exactly
the entities with a value, each to the double that its value reads as. -/
structure PointsOf (values : Bytes → Option Bytes) (measurePoints : Value) : Prop where
  null : (∀ name, values name = none) → measurePoints = .null
  object : ∀ name value, values name = some value →
    ∃ members, measurePoints = .object members ∧ Ascending members ∧
      ∀ name, members.lookup name = (values name).bind (point format)

def valueOf (pairs : EntityValuePairs) (name : Bytes) : Option Bytes := (pairs.lookup name).map Prod.fst

@[simp] theorem valueOf_clearEntityList (pairs : EntityValuePairs) (name : Bytes) :
    valueOf (clearEntityList pairs) name = none := by
  rw [valueOf, clearEntityList, AList.lookup_empty]
  rfl

theorem valueOf_updateValue (entityName value : Bytes) (timeStamp : Int) (pairs : EntityValuePairs)
    (name : Bytes) :
    valueOf (updateValue entityName value timeStamp pairs) name =
      if name = entityName then some value else valueOf pairs name := by
  unfold valueOf updateValue
  split_ifs with same
  · rw [same, AList.lookup_insert]
    rfl
  · rw [AList.lookup_insert_ne same]

theorem valueOf_eq_of_perm {pairs pairs' : EntityValuePairs} (order : pairs.entries.Perm pairs'.entries) :
    valueOf pairs = valueOf pairs' := by
  funext name
  rw [valueOf, AList.perm_lookup order, valueOf]

/-! ## The measure points -/

variable {format}

theorem setPoint_of_fresh {members : List (Bytes × Value)} {pair : Sigma fun _ : Bytes => Bytes × Int}
    {valueFloat : format.Double} (read : stringToDouble format pair.2.1 = .ok valueFloat)
    (fresh : members.lookup pair.1 = none) :
    setPoint format (.object members) pair =
      .ok (.object (setMember members pair.1 (.real (format.valueToString valueFloat)))) := by
  rw [setPoint, read, ok_bind, setField_object fresh]

/-- The entities still to come are not yet among the members. -/
theorem foldlM_setPoint {pairs : List (Sigma fun _ : Bytes => Bytes × Int)}
    (numeric : ∀ pair ∈ pairs, Numeric format pair.2.1) (distinct : pairs.NodupKeys)
    {members : List (Bytes × Value)} (ascending : Ascending members)
    (fresh : ∀ pair ∈ pairs, members.lookup pair.1 = none) :
    ∃ members', pairs.foldlM (setPoint format) (.object members) = .ok (.object members') ∧
      Ascending members' ∧
      ∀ name, members'.lookup name =
        (((pairs.dlookup name).map Prod.fst).bind (point format)).or (members.lookup name) := by
  induction pairs generalizing members with
  | nil => exact ⟨members, rfl, ascending, fun name => by simp⟩
  | cons pair pairs ih =>
      obtain ⟨entityName, value, timeStamp⟩ := pair
      obtain ⟨⟨valueFloat, read⟩, numeric⟩ := List.forall_mem_cons.mp numeric
      obtain ⟨first, fresh⟩ := List.forall_mem_cons.mp fresh
      obtain ⟨new, distinct⟩ := List.nodupKeys_cons.mp distinct
      have still : ∀ pair ∈ pairs, (setMember members entityName
          (.real (format.valueToString valueFloat))).lookup pair.1 = none := by
        intro pair inside
        have unequal : pair.1 ≠ entityName := by
          intro same
          have key := List.mem_keys_of_mem inside
          rw [same] at key
          exact new key
        rw [lookup_setMember, if_neg unequal, fresh pair inside]
      obtain ⟨members', built, ascending', lookup⟩ := ih numeric distinct
        (ascending.setMember entityName (.real (format.valueToString valueFloat))) still
      refine ⟨members', ?_, ascending', fun name => ?_⟩
      · rw [List.foldlM_cons, setPoint_of_fresh read first, ok_bind, built]
      · rw [lookup, lookup_setMember]
        by_cases same : name = entityName
        · subst same
          have gone : pairs.dlookup name = none := List.dlookup_eq_none.mpr new
          have here : point format value = some (.real (format.valueToString valueFloat)) := by
            rw [point, show stringToDouble format value = .ok valueFloat from read]
            rfl
          simp [gone, here]
        · simp [same, List.dlookup_cons_ne pairs ⟨entityName, value, timeStamp⟩ same]

theorem measurePoints_pointsOf {pairs : EntityValuePairs}
    (numeric : ∀ pair ∈ pairs.entries, Numeric format pair.2.1) :
    ∃ measurePoints, pairs.entries.foldlM (setPoint format) .null = .ok measurePoints ∧
      PointsOf format (valueOf pairs) measurePoints := by
  obtain ⟨entries, distinct⟩ := pairs
  cases entries with
  | nil =>
      refine ⟨.null, rfl, fun _ => rfl, fun name value held => ?_⟩
      cases held
  | cons pair entries =>
      -- the first entity makes an object of the null value
      have begun : (pair :: entries).foldlM (setPoint format) .null =
          (pair :: entries).foldlM (setPoint format) (.object []) := by
        simp only [List.foldlM_cons, setPoint, setField_null, @setField_object [] _ rfl]
        rfl
      obtain ⟨members, built, ascending, lookup⟩ :=
        @foldlM_setPoint format (pair :: entries) numeric distinct [] List.Pairwise.nil (by simp)
      refine ⟨.object members, begun.trans built, fun empty => ?_, fun _ _ _ => ?_⟩
      · have held := empty pair.1
        rw [valueOf, AList.lookup, List.dlookup_cons_eq entries pair.1 pair.2] at held
        cases held
      · refine ⟨members, rfl, ascending, fun name => ?_⟩
        simp [lookup, valueOf, AList.lookup]

theorem PointsOf.printed {values : Bytes → Option Bytes} {measurePoints : Value}
    (points : PointsOf format values measurePoints) : Printed measurePoints := by
  by_cases empty : ∀ name, values name = none
  · rw [points.null empty]
    exact .null
  · obtain ⟨name, held⟩ := not_forall.mp empty
    obtain ⟨value, held⟩ := Option.ne_none_iff_exists'.mp held
    obtain ⟨members, rfl, ascending, lookup⟩ := points.object name value held
    refine .object fun member inside => ?_
    have found := lookup_of_mem ascending.nodup inside
    rw [lookup] at found
    obtain ⟨text, -, pointed⟩ := Option.bind_eq_some_iff.mp found
    obtain ⟨valueFloat, -, same⟩ := Option.map_eq_some_iff.mp pointed
    rw [← same]
    exact .real (format.printable valueFloat)

theorem printed_packet (deviceUuid : Bytes) {measurePoints : Value} (printed : Printed measurePoints) :
    Printed (packet deviceUuid measurePoints) := by
  refine .object ?_
  simp only [List.forall_mem_cons, List.not_mem_nil, false_implies, implies_true, and_true]
  exact ⟨.string _, .string _, .object (by simpa using printed), .string _⟩

theorem createDecadaPacket_eq (deviceUuid : Bytes) {pairs : EntityValuePairs}
    (numeric : ∀ pair ∈ pairs.entries, Numeric format pair.2.1) :
    ∃ measurePoints, PointsOf format (valueOf pairs) measurePoints ∧
      createDecadaPacket format deviceUuid pairs = .ok (writeValue (packet deviceUuid measurePoints)) := by
  obtain ⟨measurePoints, built, points⟩ := measurePoints_pointsOf numeric
  have content : createDecadaPacket format deviceUuid pairs =
      .ok ((write (packet deviceUuid measurePoints)).filter (· ≠ 10)) := by
    rw [createDecadaPacket, built, ok_bind, setField_null, ok_bind, setField_null, ok_bind]
    rfl
  exact ⟨measurePoints, points, by rw [content, filter_write (printed_packet deviceUuid points.printed)]⟩

def oneFormat : DoubleFormat := ⟨Unit, fun _ => .ok (), fun _ => str "1.0", fun _ => le_of_all (by decide)⟩

example : createDecadaPacket oneFormat (str "7F") (updateValue (str "temperature") (str "1.00") 5 ∅) =
    .ok (str ("\x7b\"id\":\"7F\",\"method\":\"thing.measurepoint.post\",\"params\":" ++
      "\x7b\"measurepoints\":\x7b\"temperature\":1.0\x7d\x7d,\"version\":\"1.0\"\x7d")) := by
  decide +kernel

end DecadaEmbedded.SensorProfile
