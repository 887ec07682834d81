import Mathlib.Algebra.Group.Nat.Defs
import ExtractionServer.Library.Transition

/-! Version counters of fixed width. A counter that every change increments tells any two
states of a run apart that a change lies between, as long as it does not run full circle.
-/

namespace Transition

universe u v

variable {State : Type u} {Action : Type v} {width : Nat}

/-- The number of steps at which a counter changes when the actions are taken in turn. -/
def bumps (next : State → Action → Option State) (version : State → BitVec width)
    : State → List Action → Nat
  | _, [] => 0
  | state, action :: rest =>
      match next state action with
      | none => 0
      | some after =>
          (if version after = version state then 0 else 1) + bumps next version after rest

/-- One step of a versioned content: the counter stands still and the content keeps a
relation, or the counter goes up by one.
-/
def VersionedStep (version : State → BitVec width) (keeps : State → State → Prop)
    (before after : State)
    : Prop :=
  (version after = version before ∧ keeps before after)
    ∨ version after = version before + 1

/-- Along a run the counter goes up once for every bump, and without bumps the content
keeps the relation, by induction on the run.
-/
theorem System.Run.version_eq {initial : State → Prop}
    {next : State → Action → Option State} (version : State → BitVec width)
    (keeps : State → State → Prop) (Inv : State → Prop) (wide : 0 < width)
    (refl : ∀ state, keeps state state)
    (trans : ∀ a b c, keeps a b → keeps b c → keeps a c)
    (steps : ∀ before action after, Inv before → next before action = some after →
      Inv after ∧ VersionedStep version keeps before after)
    {start last : State} {actions : List Action}
    (run : (System.ofNext initial next).Run start actions last) (holds : Inv start)
    : version last = version start + BitVec.ofNat width (bumps next version start actions)
      ∧ (bumps next version start actions = 0 → keeps start last) := by
  induction run with
  | nil state => exact ⟨by simp [bumps], fun _ => refl state⟩
  | @cons start middle last action actions step rest ih =>
      have enabled : next start action = some middle := step
      obtain ⟨holds, versioned⟩ := steps start action middle holds enabled
      obtain ⟨counted, kept⟩ := ih holds
      simp only [bumps, enabled]
      rcases versioned with ⟨same, keep⟩ | bumped
      · rw [if_pos same, Nat.zero_add]
        exact ⟨same ▸ counted, fun none => trans _ _ _ keep (kept none)⟩
      · have changed : version middle ≠ version start := by
          rw [bumped, Ne, BitVec.add_right_eq_self]
          exact mt BitVec.one_eq_zero_iff.mp wide.ne'
        rw [if_neg changed]
        refine ⟨?_, fun none => absurd none (by omega)⟩
        rw [counted, bumped, BitVec.ofNat_add, BitVec.add_assoc]
        rfl

/-- Equal versions mean equal content, up to the relation, unless the counter has run full
circle in between.
-/
theorem System.Run.keeps_of_version_eq {initial : State → Prop}
    {next : State → Action → Option State} (version : State → BitVec width)
    (keeps : State → State → Prop) (Inv : State → Prop) (wide : 0 < width)
    (refl : ∀ state, keeps state state)
    (trans : ∀ a b c, keeps a b → keeps b c → keeps a c)
    (steps : ∀ before action after, Inv before → next before action = some after →
      Inv after ∧ VersionedStep version keeps before after)
    {start last : State} {actions : List Action}
    (run : (System.ofNext initial next).Run start actions last) (holds : Inv start)
    (few : bumps next version start actions < 2 ^ width)
    (same : version last = version start)
    : keeps start last := by
  obtain ⟨counted, kept⟩ := run.version_eq version keeps Inv wide refl trans steps holds
  apply kept
  have zero : BitVec.ofNat width (bumps next version start actions) = 0 :=
    BitVec.add_right_eq_self.mp (counted.symm.trans same)
  have value := congrArg BitVec.toNat zero
  simpa [Nat.mod_eq_of_lt few] using value

end Transition
