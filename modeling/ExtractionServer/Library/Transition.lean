import Mathlib.Data.Set.Basic

/-! Labelled transition systems: runs, reachable states, and the induction rules that every
invariant of a run is proved by.
-/

namespace Transition

universe u v w

/-- A labelled transition system: where its runs begin and what one action can do. -/
structure System (State : Type u) (Action : Type v) where
  initial : State → Prop
  step : State → Action → State → Prop

variable {State : Type u} {Action : Type v} {sys : System State Action}

/-- A finite run from the first state to the last, with the actions in the order taken. -/
inductive System.Run (sys : System State Action)
    : State → List Action → State → Prop
  | nil (state : State) : sys.Run state [] state
  | cons {start middle last : State} {action : Action} {actions : List Action}
      (step : sys.step start action middle) (rest : sys.Run middle actions last)
      : sys.Run start (action :: actions) last

/-- The states that some run reaches from an initial state. -/
inductive System.Reachable (sys : System State Action) : State → Prop
  | initial {state : State} (h : sys.initial state) : sys.Reachable state
  | step {before after : State} {action : Action} (reached : sys.Reachable before)
      (step : sys.step before action after) : sys.Reachable after

/-- The system whose steps also meet a condition on the state before, the action and the
state after.
-/
def System.restrict (sys : System State Action) (guard : State → Action → State → Prop)
    : System State Action where
  initial := sys.initial
  step before action after :=
    sys.step before action after ∧ guard before action after

/-- The system of a partial step function, which is undefined where an action is not
enabled.
-/
def System.ofNext (initial : State → Prop) (next : State → Action → Option State)
    : System State Action where
  initial := initial
  step before action after := next before action = some after

/-- The system beside an observer, whose record follows the steps and hinders none. -/
def System.observed (sys : System State Action) {Record : Type w} (start : Record)
    (observe : Record → State → Action → State → Record)
    : System (State × Record) Action where
  initial watched := sys.initial watched.1 ∧ watched.2 = start
  step before action after :=
    sys.step before.1 action after.1
      ∧ after.2 = observe before.2 before.1 action after.1

/-- Run a partial step function along a list of actions, checking a guard at each step. -/
def replay (next : State → Action → Option State) (guard : State → Action → State → Bool)
    : State → List Action → Option State
  | state, [] => some state
  | state, action :: rest =>
      match next state action with
      | none => none
      | some after => if guard state action after then replay next guard after rest else none

/-- An invariant holds at the initial states and is preserved by every step. -/
structure System.Inductive (sys : System State Action) (Inv : State → Prop) : Prop where
  initial : ∀ state, sys.initial state → Inv state
  step : ∀ before action after, Inv before → sys.step before action after → Inv after

/-- An inductive invariant holds in every reachable state, by induction on reachability. -/
theorem System.Inductive.reachable {Inv : State → Prop} (h : sys.Inductive Inv)
    {state : State} (reached : sys.Reachable state)
    : Inv state := by
  induction reached with
  | initial start => exact h.initial _ start
  | step _ step ih => exact h.step _ _ _ ih step

/-- A run from a reachable state ends in a reachable state, by induction on the run. -/
theorem System.Run.reachable {start last : State} {actions : List Action}
    (h : sys.Run start actions last) (reached : sys.Reachable start)
    : sys.Reachable last := by
  induction h with
  | nil => exact reached
  | cons step _ ih => exact ih (.step reached step)

/-- One run after another, by induction on the first. -/
theorem System.Run.append {start middle last : State} {actions more : List Action}
    (first : sys.Run start actions middle) (second : sys.Run middle more last)
    : sys.Run start (actions ++ more) last := by
  induction first with
  | nil => exact second
  | cons step _ ih => exact .cons step (ih second)

/-- A property that each step preserves is kept along a whole run from any state that has it,
by induction on the run.
-/
theorem System.Run.preserves {P : State → Prop}
    (keeps : ∀ before action after, P before → sys.step before action after → P after)
    {start last : State} {actions : List Action} (h : sys.Run start actions last)
    (holds : P start)
    : P last := by
  induction h with
  | nil => exact holds
  | cons step _ ih => exact ih (keeps _ _ _ holds step)

/-- A replay that succeeds is a run of the guarded system, by induction on the actions. -/
theorem System.Run.of_replay (initial : State → Prop)
    (next : State → Action → Option State) (guard : State → Action → State → Bool)
    (actions : List Action) (start fallback : State)
    (succeeds : (replay next guard start actions).isSome = true)
    : ((System.ofNext initial next).restrict
        fun before action after => guard before action after = true).Run
          start actions ((replay next guard start actions).getD fallback) := by
  induction actions generalizing start with
  | nil => exact .nil start
  | cons action rest ih =>
      simp only [replay] at succeeds ⊢
      cases enabled : next start action with
      | none => simp [enabled] at succeeds
      | some after =>
          simp only [enabled] at succeeds ⊢
          split at succeeds
          · next allowed =>
              rw [if_pos allowed]
              exact .cons ⟨enabled, allowed⟩ (ih after succeeds)
          · cases succeeds

/-- A run of the restricted system is a run without the restriction. -/
theorem System.Run.of_restrict {guard : State → Action → State → Prop}
    {start last : State} {actions : List Action}
    (h : (sys.restrict guard).Run start actions last)
    : sys.Run start actions last := by
  induction h with
  | nil state => exact .nil state
  | cons step _ ih => exact .cons step.1 ih

/-- Reachable states of the restricted system are reachable without the restriction. -/
theorem System.Reachable.of_restrict {guard : State → Action → State → Prop}
    {state : State} (h : (sys.restrict guard).Reachable state)
    : sys.Reachable state := by
  induction h with
  | initial start => exact .initial start
  | step _ step ih => exact .step ih step.1

/-- A weaker guard restricts a system less. -/
theorem System.Reachable.mono_restrict {weak strong : State → Action → State → Prop}
    {state : State} (h : (sys.restrict strong).Reachable state)
    (implies : ∀ before action after, sys.step before action after →
      strong before action after → weak before action after)
    : (sys.restrict weak).Reachable state := by
  induction h with
  | initial start => exact .initial start
  | step _ step ih => exact .step ih ⟨step.1, implies _ _ _ step.1 step.2⟩

section Observed

variable {Record : Type w} {start : Record}
  {observe : Record → State → Action → State → Record}

/-- What is observed happens. -/
theorem System.Reachable.of_observed {watched : State × Record}
    (h : (sys.observed start observe).Reachable watched)
    : sys.Reachable watched.1 := by
  induction h with
  | initial begins => exact .initial begins.1
  | step _ step ih => exact .step ih step.1

/-- What happens is observed, by induction on reachability. -/
theorem System.Reachable.observed {state : State} (h : sys.Reachable state)
    : ∃ record, (sys.observed start observe).Reachable (state, record) := by
  induction h with
  | initial begins => exact ⟨start, .initial ⟨begins, rfl⟩⟩
  | @step before after action _ step ih =>
      obtain ⟨record, reached⟩ := ih
      exact ⟨observe record before action after, .step reached ⟨step, rfl⟩⟩

end Observed

end Transition
