import Mathlib.Algebra.GroupWithZero.Nat
import Mathlib.Data.List.Basic
import Mathlib.Data.List.Nodup
import Mathlib.Data.List.Range
import Mathlib.Logic.Function.Basic

/-!
# A ledger of allocated objects

A heap numbers its objects and never reuses a number. `Accounted heap references` says that the
objects alive are exactly the `references`, each once, and that every object is alive or was
freed exactly once. Where many parties hold references, `sum_map_update` balances what changes
when one of them changes.
-/

namespace DecadaEmbedded.Library

structure Heap (Content : Type*) where
  next : Nat
  live : List Nat
  freed : List Nat
  contents : Nat → Content

namespace Heap
variable {Content : Type*}

def empty (content : Content) : Heap Content := ⟨0, [], [], fun _ => content⟩

-- the new object is `heap.next`
def malloc (content : Content) (heap : Heap Content) : Heap Content where
  next := heap.next + 1
  live := heap.next :: heap.live
  freed := heap.freed
  contents := Function.update heap.contents heap.next content

-- a second free of an object appears a second time in `freed`
def free (object : Nat) (heap : Heap Content) : Heap Content :=
  { heap with live := heap.live.erase object, freed := object :: heap.freed }

structure Accounted (heap : Heap Content) (references : List Nat) : Prop where
  live : heap.live.Perm references
  once : (heap.live ++ heap.freed).Perm (List.range heap.next)

variable {heap : Heap Content} {references : List Nat}

theorem accounted_empty (content : Content) : Accounted (empty content) [] := ⟨.nil, .nil⟩

theorem Accounted.of_perm {others : List Nat} (accounted : Accounted heap references)
    (same : references.Perm others) : Accounted heap others :=
  ⟨accounted.live.trans same, accounted.once⟩

theorem Accounted.malloc (accounted : Accounted heap references) (content : Content) :
    Accounted (heap.malloc content) (heap.next :: references) := by
  refine ⟨accounted.live.cons _, ?_⟩
  simp only [Heap.malloc, List.range_succ, List.cons_append]
  exact (accounted.once.cons heap.next).trans (List.perm_append_singleton _ _).symm

theorem Accounted.free {object : Nat} (accounted : Accounted heap (object :: references)) :
    Accounted (heap.free object) references := by
  have alive : object ∈ heap.live := accounted.live.mem_iff.mpr List.mem_cons_self
  have rest : (heap.live.erase object ++ object :: heap.freed).Perm (heap.live ++ heap.freed) :=
    List.perm_middle.trans ((List.perm_cons_erase alive).symm.append_right heap.freed)
  refine ⟨?_, rest.trans accounted.once⟩
  have left := accounted.live.erase object
  rw [List.erase_cons_head] at left
  exact left

end Heap

variable {Party Holding : Type*} [DecidableEq Party]

theorem sum_map_update {parties : List Party} (distinct : parties.Nodup) {party : Party}
    (member : party ∈ parties) (weight : Party → Holding → Nat) (holdings : Party → Holding)
    (holding : Holding) :
    (parties.map fun other => weight other (Function.update holdings party holding other)).sum +
        weight party (holdings party) =
      (parties.map fun other => weight other (holdings other)).sum + weight party holding := by
  induction parties with
  | nil => cases member
  | cons first rest ih =>
      obtain ⟨new, distinct⟩ := List.nodup_cons.mp distinct
      simp only [List.map_cons, List.sum_cons]
      by_cases same : first = party
      · subst same
        have others : (rest.map fun other =>
            weight other (Function.update holdings first holding other)) =
              rest.map fun other => weight other (holdings other) := by
          apply List.map_congr_left
          intro other inside
          rw [Function.update_of_ne]
          rintro rfl
          exact new inside
        rw [others, Function.update_self]
        omega
      · have later := ih distinct ((List.mem_cons.mp member).resolve_left (Ne.symm same))
        rw [Function.update_of_ne same]
        omega

end DecadaEmbedded.Library
