import Mathlib.Data.List.Basic

/-!
# A world that changes in atomic steps

A journal remembers every world it passed through, the latest first. Where a procedure can be cut
off between two atomic changes, what survives is one of `points`, and `Always` is what holds of it.
-/

namespace DecadaEmbedded.Library

structure Journal (World : Type*) where
  now : World
  past : List World

namespace Journal
variable {World Other : Type*}

def start (world : World) : Journal World := ⟨world, []⟩

def advance (change : World → World) (journal : Journal World) : Journal World :=
  ⟨change journal.now, journal.now :: journal.past⟩

def points (journal : Journal World) : List World := journal.now :: journal.past

@[simp] theorem now_start (world : World) : (start world).now = world := rfl

@[simp] theorem now_advance (change : World → World) (journal : Journal World) :
    (journal.advance change).now = change journal.now := rfl

@[simp] theorem points_start (world : World) : (start world).points = [world] := rfl

@[simp] theorem points_advance (change : World → World) (journal : Journal World) :
    (journal.advance change).points = change journal.now :: journal.points := rfl

def Always (property : World → Prop) (journal : Journal World) : Prop :=
  ∀ world ∈ journal.points, property world

theorem always_start {property : World → Prop} {world : World} (first : property world) :
    (start world).Always property := by
  intro point reached
  rw [points_start, List.mem_singleton] at reached
  exact reached ▸ first

theorem Always.now {property : World → Prop} {journal : Journal World}
    (always : journal.Always property) : property journal.now :=
  always journal.now List.mem_cons_self

theorem Always.advance {property : World → Prop} {journal : Journal World}
    (always : journal.Always property) (change : World → World)
    (changed : property (change journal.now)) : (journal.advance change).Always property := by
  intro point reached
  rw [points_advance, List.mem_cons] at reached
  rcases reached with rfl | earlier
  · exact changed
  · exact always point earlier

end Journal

end DecadaEmbedded.Library
