import Mathlib.Data.List.Infix

/-!
# Objects that are allocated, used and freed

An arena numbers its objects as it allocates them and never reuses a number. It remembers every
use of an object and whether the object was alive then.
-/

namespace DecadaEmbedded.Library

structure Use where
  object : Nat
  alive : Bool
deriving DecidableEq, Repr

structure Arena where
  next : Nat
  live : List Nat
  older : ∀ object ∈ live, object < next
  uses : List Use

namespace Arena

def empty : Arena where
  next := 0
  live := []
  older := by simp
  uses := []

-- the new object is `arena.next`
def allocate (arena : Arena) : Arena where
  next := arena.next + 1
  live := arena.next :: arena.live
  older := by
    intro object member
    rcases List.mem_cons.mp member with rfl | old
    · omega
    · exact Nat.lt_succ_of_lt (arena.older object old)
  uses := arena.uses

def free (object : Nat) (arena : Arena) : Arena where
  next := arena.next
  live := arena.live.filter (· ≠ object)
  older := fun other member => arena.older other (List.mem_of_mem_filter member)
  uses := arena.uses

def use (object : Nat) (arena : Arena) : Arena :=
  { arena with uses := ⟨object, decide (object ∈ arena.live)⟩ :: arena.uses }

def useIf (used : Bool) (object : Nat) (arena : Arena) : Arena :=
  if used then arena.use object else arena

def Safe (arena : Arena) : Prop := ∀ use ∈ arena.uses, use.alive = true

def Extends (arena later : Arena) : Prop := arena.uses <:+ later.uses

theorem mem_live_allocate (arena : Arena) : arena.next ∈ arena.allocate.live := List.mem_cons_self

theorem not_mem_live_free (object : Nat) (arena : Arena) : object ∉ (arena.free object).live := by
  simp [free]

theorem safe_empty : empty.Safe := by simp [Safe, empty]

@[simp] theorem safe_allocate {arena : Arena} : arena.allocate.Safe ↔ arena.Safe := Iff.rfl

@[simp] theorem safe_use {arena : Arena} {object : Nat} :
    (arena.use object).Safe ↔ object ∈ arena.live ∧ arena.Safe := by
  simp [Safe, use]

@[simp] theorem live_useIf (used : Bool) (object : Nat) (arena : Arena) :
    (arena.useIf used object).live = arena.live := by
  cases used <;> rfl

theorem Safe.useIf {arena : Arena} {object : Nat} (safe : arena.Safe) (used : Bool)
    (live : object ∈ arena.live) : (arena.useIf used object).Safe := by
  cases used with
  | false => exact safe
  | true => exact safe_use.mpr ⟨live, safe⟩

theorem Extends.refl (arena : Arena) : arena.Extends arena := List.suffix_rfl

theorem Extends.trans {first second third : Arena} (early : first.Extends second)
    (late : second.Extends third) : first.Extends third :=
  List.IsSuffix.trans early late

theorem extends_allocate (arena : Arena) : arena.Extends arena.allocate := List.suffix_rfl

theorem extends_useIf (used : Bool) (object : Nat) (arena : Arena) :
    arena.Extends (arena.useIf used object) := by
  cases used with
  | false => exact List.suffix_rfl
  | true => exact List.suffix_cons _ _

theorem Extends.safe {arena later : Arena} (grows : arena.Extends later) (safe : later.Safe) :
    arena.Safe :=
  fun use member => safe use (grows.mem member)

end Arena

end DecadaEmbedded.Library
