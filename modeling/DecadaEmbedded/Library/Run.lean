import Mathlib.Data.List.Infix

/-!
# Runs of a partial step function

A transition system is a function `step : State → Action → Option State`; all of its
nondeterminism is in the actions. `EveryState` and `EveryStep` speak about the states and the
steps that a run passes through. `everyState_iff_everyStep` is the rule for a property that an
invariant carries exactly as long as each step meets a condition.
-/

namespace DecadaEmbedded.Library

variable {State Action : Type*} (step : State → Action → Option State)

def run : State → List Action → Option State
  | state, [] => some state
  | state, action :: actions => (step state action).bind fun next => run next actions

theorem run_cons (state : State) (action : Action) (actions : List Action) :
    run step state (action :: actions) = (step state action).bind fun next => run step next actions := rfl

theorem run_append (state : State) (early late : List Action) :
    run step state (early ++ late) = (run step state early).bind fun middle => run step middle late := by
  induction early generalizing state with
  | nil => rfl
  | cons action early ih =>
      rw [List.cons_append, run_cons, run_cons, Option.bind_assoc]
      exact congrArg _ (funext ih)

/-- `property` holds in every state the run passes through, its first and last included. -/
def EveryState (property : State → Prop) (start : State) (actions : List Action) : Prop :=
  ∀ past reached, past <+: actions → run step start past = some reached → property reached

def EveryStep (condition : State → Action → Prop) (start : State) (actions : List Action) : Prop :=
  ∀ past action reached next, past ++ [action] <+: actions → run step start past = some reached →
    step reached action = some next → condition reached action

theorem everyState_nil (property : State → Prop) (start : State) :
    EveryState step property start [] ↔ property start := by
  constructor
  · intro every
    exact every [] start List.prefix_rfl rfl
  · intro first past reached initial reaches
    rw [List.prefix_nil] at initial
    subst initial
    cases reaches
    exact first

theorem everyState_cons (property : State → Prop) (start : State) (action : Action)
    (actions : List Action) :
    EveryState step property start (action :: actions) ↔
      property start ∧ ∀ next, step start action = some next →
        EveryState step property next actions := by
  constructor
  · intro every
    refine ⟨every [] start List.nil_prefix rfl, ?_⟩
    intro next taken past reached initial reaches
    refine every (action :: past) reached (List.cons_prefix_cons.mpr ⟨rfl, initial⟩) ?_
    rw [run_cons, taken]
    exact reaches
  · rintro ⟨first, later⟩ past reached initial reaches
    cases past with
    | nil =>
        cases reaches
        exact first
    | cons head past =>
        obtain ⟨rfl, inner⟩ := List.cons_prefix_cons.mp initial
        rw [run_cons] at reaches
        obtain ⟨next, taken, reaches⟩ := Option.bind_eq_some_iff.mp reaches
        exact later next taken past reached inner reaches

theorem everyStep_nil (condition : State → Action → Prop) (start : State) :
    EveryStep step condition start [] := by
  intro past action reached next initial
  exact absurd (List.prefix_nil.mp initial) (by simp)

theorem everyStep_cons (condition : State → Action → Prop) (start : State) (action : Action)
    (actions : List Action) :
    EveryStep step condition start (action :: actions) ↔
      ∀ next, step start action = some next →
        condition start action ∧ EveryStep step condition next actions := by
  constructor
  · intro every next taken
    refine ⟨every [] action start next (by simp) rfl taken, ?_⟩
    intro past last reached after initial reaches later
    refine every (action :: past) last reached after (List.cons_prefix_cons.mpr ⟨rfl, initial⟩) ?_ later
    rw [run_cons, taken]
    exact reaches
  · intro every past last reached after initial reaches later
    cases past with
    | nil =>
        cases reaches
        obtain ⟨rfl, -⟩ := List.cons_prefix_cons.mp initial
        exact (every after later).1
    | cons head past =>
        obtain ⟨rfl, inner⟩ := List.cons_prefix_cons.mp initial
        rw [run_cons] at reaches
        obtain ⟨next, taken, reaches⟩ := Option.bind_eq_some_iff.mp reaches
        exact (every next taken).2 past last reached after inner reaches later

variable {step} {invariant property : State → Prop} {condition : State → Action → Prop}

theorem everyState_of_everyStep
    (keeps : ∀ state action next, invariant state → condition state action →
      step state action = some next → invariant next)
    {start : State} {actions : List Action} (first : invariant start)
    (steps : EveryStep step condition start actions) : EveryState step invariant start actions := by
  induction actions generalizing start with
  | nil => exact (everyState_nil step invariant start).mpr first
  | cons action actions ih =>
      refine (everyState_cons step invariant start action actions).mpr ⟨first, ?_⟩
      intro next taken
      obtain ⟨head, rest⟩ := (everyStep_cons step condition start action actions).mp steps next taken
      exact ih (keeps start action next first head taken) rest

theorem EveryState.mono {other : State → Prop} (weaker : ∀ state, property state → other state)
    {start : State} {actions : List Action} (every : EveryState step property start actions) :
    EveryState step other start actions :=
  fun past reached initial reaches => weaker reached (every past reached initial reaches)

theorem EveryState.first {start : State} {actions : List Action}
    (every : EveryState step property start actions) : property start :=
  every [] start List.nil_prefix rfl

theorem EveryState.last {start final : State} {actions : List Action}
    (every : EveryState step property start actions) (reaches : run step start actions = some final) :
    property final :=
  every actions final List.prefix_rfl reaches

/-- Where a step outside `condition` breaks `property` at once, the property holds along a run
exactly when every step of it meets the condition. -/
theorem everyState_iff_everyStep
    (sound : ∀ state, invariant state → property state)
    (keeps : ∀ state action next, invariant state → condition state action →
      step state action = some next → invariant next)
    (breaks : ∀ state action next, invariant state → ¬ condition state action →
      step state action = some next → ¬ property next)
    {start : State} (first : invariant start) (actions : List Action) :
    EveryState step property start actions ↔ EveryStep step condition start actions := by
  constructor
  · intro every
    induction actions generalizing start with
    | nil => exact everyStep_nil step condition start
    | cons action actions ih =>
        obtain ⟨-, later⟩ := (everyState_cons step property start action actions).mp every
        refine (everyStep_cons step condition start action actions).mpr fun next taken => ?_
        have head : condition start action := by
          by_contra unmet
          exact breaks start action next first unmet taken
            (later next taken [] next List.nil_prefix rfl)
        exact ⟨head, ih (keeps start action next first head taken) (later next taken)⟩
  · intro steps
    exact (everyState_of_everyStep keeps first steps).mono sound

/-- Where each step meets the condition exactly if it is lawful and restores `property`, a run is
lawful and keeps the property exactly when every step of it meets the condition. -/
theorem everyStep_and_everyState_iff {lawful : State → Action → Prop}
    (each : ∀ state action next, property state → step state action = some next →
      (lawful state action ∧ property next ↔ condition state action))
    {start : State} (first : property start) (actions : List Action) :
    EveryStep step lawful start actions ∧ EveryState step property start actions ↔
      EveryStep step condition start actions := by
  induction actions generalizing start with
  | nil =>
      have none := everyStep_nil step
      exact ⟨fun _ => none condition start, fun _ =>
        ⟨none lawful start, (everyState_nil step property start).mpr first⟩⟩
  | cons action actions ih =>
      rw [everyStep_cons, everyStep_cons, everyState_cons]
      constructor
      · rintro ⟨steps, -, later⟩ next taken
        have kept := (later next taken).first
        have met := (each start action next first taken).mp ⟨(steps next taken).1, kept⟩
        exact ⟨met, (ih kept).mp ⟨(steps next taken).2, later next taken⟩⟩
      · intro steps
        have split := fun next taken => (each start action next first taken).mpr (steps next taken).1
        have rest := fun next taken => (ih (split next taken).2).mpr (steps next taken).2
        exact ⟨fun next taken => ⟨(split next taken).1, (rest next taken).1⟩, first,
          fun next taken => (rest next taken).2⟩

end DecadaEmbedded.Library
