import Mathlib.Data.List.Nodup

/-!
# Iteration over a container of nodes

A container is the list of its live nodes in the order in which it iterates, and an iterator is the
address of a node. To advance an iterator is to read its node; an iterator whose node has been
erased cannot be advanced, and `rangeFor` stops there. A loop gets one unit of fuel for each node.
-/

namespace DecadaEmbedded.Library

structure Node (Key Value : Type*) where
  address : Nat
  key : Key
  value : Value

namespace Node

variable {Key Value : Type*}

inductive Outcome (Key Value : Type*) where
  | finished (nodes : List (Node Key Value))
  | advancedErased (nodes : List (Node Key Value))
  | unfinished

/-- Where the iterator points after an increment; `none` if its node has been erased. -/
def increment (address : Nat) : List (Node Key Value) → Option (Option Nat)
  | [] => none
  | node :: rest =>
      if node.address = address then some (rest.head?.map Node.address) else increment address rest

def rangeFor (body : Node Key Value → List (Node Key Value) → List (Node Key Value)) :
    Nat → List (Node Key Value) → Option Nat → Outcome Key Value
  | _, nodes, none => .finished nodes
  | 0, _, some _ => .unfinished
  | fuel + 1, nodes, some address =>
      match nodes.find? fun node => node.address = address with
      | none => .advancedErased nodes
      | some node =>
          let nodes := body node nodes
          match increment address nodes with
          | none => .advancedErased nodes
          | some next => rangeFor body fuel nodes next

/-- The loop over all nodes, from `begin()`. -/
def forEach (body : Node Key Value → List (Node Key Value) → List (Node Key Value))
    (nodes : List (Node Key Value)) : Outcome Key Value :=
  rangeFor body nodes.length nodes (nodes.head?.map Node.address)

variable {visited rest : List (Node Key Value)} {node : Node Key Value}

theorem find?_of_distinct (distinct : ((visited ++ node :: rest).map Node.address).Nodup) :
    (visited ++ node :: rest).find? (fun other => other.address = node.address) = some node := by
  induction visited with
  | nil => simp
  | cons first visited ih =>
      rw [List.cons_append, List.map_cons, List.nodup_cons] at distinct
      have apart : first.address ≠ node.address := by
        intro same
        exact distinct.1 (by simp [same])
      rw [List.cons_append, List.find?_cons_of_neg (by simpa using apart), ih distinct.2]

theorem increment_of_distinct (distinct : ((visited ++ node :: rest).map Node.address).Nodup) :
    increment node.address (visited ++ node :: rest) = some (rest.head?.map Node.address) := by
  induction visited with
  | nil => simp [increment]
  | cons first visited ih =>
      rw [List.cons_append, List.map_cons, List.nodup_cons] at distinct
      have apart : first.address ≠ node.address := by
        intro same
        exact distinct.1 (by simp [same])
      rw [List.cons_append, increment, if_neg apart, ih distinct.2]

theorem increment_of_notMem {address : Nat} {nodes : List (Node Key Value)}
    (freed : ∀ node ∈ nodes, node.address ≠ address) : increment address nodes = none := by
  induction nodes with
  | nil => rfl
  | cons node rest ih =>
      rw [List.forall_mem_cons] at freed
      rw [increment, if_neg freed.1, ih freed.2]

variable [DecidableEq Key]

def erase (key : Key) (nodes : List (Node Key Value)) : List (Node Key Value) :=
  nodes.filter fun node => node.key ≠ key

def eraseIf (drop : Value → Bool) (node : Node Key Value) (nodes : List (Node Key Value)) :
    List (Node Key Value) :=
  if drop node.value then erase node.key nodes else nodes

theorem increment_erase (distinct : ((visited ++ node :: rest).map Node.address).Nodup) :
    increment node.address (erase node.key (visited ++ node :: rest)) = none := by
  apply increment_of_notMem
  intro other member same
  obtain ⟨inside, kept⟩ := List.mem_filter.mp member
  have only := List.inj_on_of_nodup_map distinct inside (by simp) same
  simp [only] at kept

variable (visited) in
/-- The loop passes the nodes that it keeps, and fails on the first that it erases. -/
theorem rangeFor_eraseIf (drop : Value → Bool) {fuel : Nat} (enough : rest.length ≤ fuel)
    (distinct : ((visited ++ rest).map Node.address).Nodup) :
    (rangeFor (eraseIf drop) fuel (visited ++ rest) (rest.head?.map Node.address) =
        .finished (visited ++ rest) ∧ ∀ node ∈ rest, drop node.value = false) ∨
      ∃ node ∈ rest, drop node.value = true ∧
        rangeFor (eraseIf drop) fuel (visited ++ rest) (rest.head?.map Node.address) =
          .advancedErased (erase node.key (visited ++ rest)) := by
  induction rest generalizing visited fuel with
  | nil =>
      left
      simp [rangeFor]
  | cons node rest ih =>
      cases fuel with
      | zero => simp at enough
      | succ fuel =>
          rw [List.head?_cons, Option.map_some, rangeFor, find?_of_distinct distinct]
          cases stale : drop node.value with
          | true =>
              right
              refine ⟨node, List.mem_cons_self .., stale, ?_⟩
              simp only [eraseIf, stale, ↓reduceIte, increment_erase distinct]
          | false =>
              have shifted : visited ++ node :: rest = (visited ++ [node]) ++ rest := by simp
              simp only [eraseIf, stale, Bool.false_eq_true, ↓reduceIte, increment_of_distinct distinct]
              rw [shifted] at distinct ⊢
              rcases ih _ (Nat.le_of_succ_le_succ enough) distinct with ⟨done, kept⟩ | ⟨other, member, gone, failed⟩
              · left
                exact ⟨done, List.forall_mem_cons.mpr ⟨stale, kept⟩⟩
              · right
                exact ⟨other, List.mem_cons_of_mem node member, gone, failed⟩

theorem forEach_eraseIf (drop : Value → Bool) {nodes : List (Node Key Value)}
    (distinct : (nodes.map Node.address).Nodup) :
    (forEach (eraseIf drop) nodes = .finished nodes ∧ ∀ node ∈ nodes, drop node.value = false) ∨
      ∃ node ∈ nodes, drop node.value = true ∧
        forEach (eraseIf drop) nodes = .advancedErased (erase node.key nodes) := by
  simpa [forEach] using rangeFor_eraseIf [] drop (Nat.le_refl nodes.length) distinct

end Node

end DecadaEmbedded.Library
