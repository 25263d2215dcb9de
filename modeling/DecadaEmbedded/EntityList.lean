import DecadaEmbedded.Library.NodeMap
import DecadaEmbedded.SensorProfile

/-!
# `SensorProfile::UpdateEntityList`

The range-based loop over `entity_value_pairs_` erases from the map that it iterates over. A `Table`
lays the pairs out as nodes, in any order.
-/

namespace DecadaEmbedded.SensorProfile
open Library

abbrev Entity := Node Bytes (Bytes × Int)

def Entity.pair (entity : Entity) : Sigma fun _ : Bytes => Bytes × Int := ⟨entity.key, entity.value⟩

def updateEntityList (timeStamp : Int) (entities : List Entity) : Node.Outcome Bytes (Bytes × Int) :=
  Node.forEach
    (fun it entities =>
      let entityTimestamp := it.value.2
      if entityTimestamp < timeStamp then Node.erase it.key entities else entities)
    entities

inductive Call where
  | updateValue (entityName value : Bytes) (timeStamp : Int)
  | clearEntityList

def Call.apply (pairs : EntityValuePairs) : Call → EntityValuePairs
  | updateValue entityName value timeStamp => SensorProfile.updateValue entityName value timeStamp pairs
  | clearEntityList => SensorProfile.clearEntityList pairs

def after (calls : List Call) : EntityValuePairs := calls.foldl Call.apply ∅

structure Table (pairs : EntityValuePairs) where
  entities : List Entity
  distinct : (entities.map Node.address).Nodup
  order : (entities.map Entity.pair).Perm pairs.entries

def isStale (timeStamp : Int) (value : Bytes × Int) : Bool := value.2 < timeStamp

theorem updateEntityList_eq (timeStamp : Int) (entities : List Entity) :
    updateEntityList timeStamp entities = Node.forEach (Node.eraseIf (isStale timeStamp)) entities := by
  have body : (fun (it : Entity) entities =>
      if it.value.2 < timeStamp then Node.erase it.key entities else entities) =
        Node.eraseIf (isStale timeStamp) := by
    funext it entities
    simp [Node.eraseIf, isStale]
  rw [← body]
  rfl

variable {pairs : EntityValuePairs} (table : Table pairs)

/-- The loop reaches the end of the map and leaves the entries that are not older. -/
def Updates (timeStamp : Int) : Prop :=
  ∃ entities, updateEntityList timeStamp table.entities = .finished entities ∧
    (entities.map Entity.pair).Perm (pairs.entries.filter fun pair => timeStamp ≤ pair.2.2)

theorem lookup_of_mem {entity : Entity} (inside : entity ∈ table.entities) :
    pairs.lookup entity.key = some entity.value := by
  apply AList.mem_lookup_iff.mpr
  exact table.order.subset (List.mem_map_of_mem inside)

theorem mem_of_lookup {entityName : Bytes} {value : Bytes × Int}
    (found : pairs.lookup entityName = some value) :
    ∃ entity ∈ table.entities, entity.value = value := by
  have listed := table.order.symm.subset (AList.mem_lookup_iff.mp found)
  obtain ⟨entity, inside, same⟩ := List.mem_map.mp listed
  cases same
  exact ⟨entity, inside, rfl⟩

theorem fresh_iff (timeStamp : Int) :
    (∀ entity ∈ table.entities, isStale timeStamp entity.value = false) ↔
      ∀ entityName value entityTimestamp,
        pairs.lookup entityName = some (value, entityTimestamp) → timeStamp ≤ entityTimestamp := by
  constructor
  · intro fresh entityName value entityTimestamp found
    obtain ⟨entity, inside, same⟩ := mem_of_lookup table found
    have kept := fresh entity inside
    rw [same] at kept
    simpa [isStale] using kept
  · intro fresh entity inside
    have kept := fresh entity.key entity.value.1 entity.value.2 (lookup_of_mem table inside)
    simpa [isStale] using kept

/-- A table without stale entries is kept, and the first stale one breaks the loop. -/
theorem updateEntityList_cases (timeStamp : Int) :
    (updateEntityList timeStamp table.entities = .finished table.entities ∧
        ∀ entity ∈ table.entities, isStale timeStamp entity.value = false) ∨
      ∃ entity ∈ table.entities, isStale timeStamp entity.value = true ∧
        updateEntityList timeStamp table.entities =
          .advancedErased (Node.erase entity.key table.entities) := by
  rw [updateEntityList_eq]
  exact Node.forEach_eraseIf (isStale timeStamp) table.distinct

/-- After any calls and in any order of iteration, the update goes right exactly when no entry is
older than its time stamp. -/
theorem updates_iff (calls : List Call) (table : Table (after calls)) (timeStamp : Int) :
    Updates table timeStamp ↔
      ∀ entityName value entityTimestamp,
        (after calls).lookup entityName = some (value, entityTimestamp) → timeStamp ≤ entityTimestamp := by
  rw [← fresh_iff table]
  rcases updateEntityList_cases table timeStamp with ⟨done, fresh⟩ | ⟨entity, inside, stale, failed⟩
  · constructor
    · intro _
      exact fresh
    · intro _
      have every : ∀ pair ∈ (after calls).entries, timeStamp ≤ pair.2.2 := by
        intro pair listed
        obtain ⟨entity, inside, same⟩ := List.mem_map.mp (table.order.symm.subset listed)
        have kept := fresh entity inside
        rw [← same, Entity.pair]
        simpa [isStale] using kept
      refine ⟨table.entities, done, ?_⟩
      rw [List.filter_eq_self.mpr (by simpa using every)]
      exact table.order
  · constructor
    · rintro ⟨entities, done, -⟩
      rw [failed] at done
      cases done
    · intro fresh
      rw [fresh entity inside] at stale
      cases stale

def oneReading : List Call := [.updateValue (str "temperature") (str "1.00") 5]

def oneNode : Table (after oneReading) where
  entities := [⟨0, str "temperature", (str "1.00", 5)⟩]
  distinct := by simp
  order := by decide

/-- The table of the unit test: its only entry is erased, and the loop goes on from it. -/
theorem one_stale_entry :
    updateEntityList 10 oneNode.entities = .advancedErased [] ∧
    ¬ ∀ (calls : List Call) (table : Table (after calls)) (timeStamp : Int), Updates table timeStamp := by
  have failed : updateEntityList 10 oneNode.entities = .advancedErased [] := rfl
  refine ⟨failed, fun always => ?_⟩
  obtain ⟨entities, done, -⟩ := always oneReading oneNode 10
  rw [failed] at done
  cases done

end DecadaEmbedded.SensorProfile
