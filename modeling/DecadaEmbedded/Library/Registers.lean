import Mathlib.Data.Option.Basic

/-!
# Independent registers

A family of registers inside one state. `view` is what reading shows of a value that was given to a
register; the two laws make the registers independent of each other.
-/

namespace DecadaEmbedded.Library

structure Registers {Register : Type*} (State : Type*) (Given Held : Register → Type*) where
  write : ∀ register, Given register → State → State
  read : ∀ register, State → Held register
  view : ∀ register, Given register → Held register
  read_write : ∀ register value state, read register (write register value state) = view register value
  read_write_of_ne : ∀ {register other}, other ≠ register → ∀ value state,
    read other (write register value state) = read other state

namespace Registers

variable {Register State : Type*} {Given Held : Register → Type*}
variable (registers : Registers State Given Held)

def writeAll (state : State) (writes : List (Sigma Given)) : State :=
  writes.foldl (fun state given => registers.write given.1 given.2 state) state

theorem writeAll_cons (state : State) (given : Sigma Given) (writes : List (Sigma Given)) :
    registers.writeAll state (given :: writes) =
      registers.writeAll (registers.write given.1 given.2 state) writes := rfl

variable [DecidableEq Register] (register : Register)

def lastGiven : List (Sigma Given) → Option (Given register)
  | [] => none
  | given :: writes =>
      match lastGiven writes with
      | some value => some value
      | none => if same : given.1 = register then some (same ▸ given.2) else none

/-- A register holds what was last given to it, whatever was given to the others. -/
theorem read_writeAll (state : State) (writes : List (Sigma Given)) :
    registers.read register (registers.writeAll state writes) =
      ((lastGiven register writes).map (registers.view register)).getD (registers.read register state) := by
  induction writes generalizing state with
  | nil => rfl
  | cons given writes ih =>
      rw [writeAll_cons, ih, lastGiven]
      cases later : lastGiven register writes with
      | some value => rfl
      | none =>
          by_cases same : given.1 = register
          · obtain ⟨_, value⟩ := given
            cases same
            simp [registers.read_write]
          · simp [same, registers.read_write_of_ne (Ne.symm same)]

end Registers

end DecadaEmbedded.Library
