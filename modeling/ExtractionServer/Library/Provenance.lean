import Mathlib.Data.List.Nodup
import ExtractionServer.Library.Transition

/-! Where the data in a state comes from. What the parts of a state say is to be backed by an
origin, which is noted once, and copies of it travel between the parts. A change needs a source
for each thing that is said after it, and then everything stays backed along whole runs.
-/

namespace Provenance

universe u v w

/-- What the parts of a state say, the origins noted so far, and what an origin backs. -/
structure Model (State : Type u) (Origin : Type v) (Fact : Type w) where
  asserts : State → Fact → Prop
  origins : State → List Origin
  backs : Origin → Fact → Prop

namespace Model

variable {State : Type u} {Origin : Type v} {Fact : Type w} {model : Model State Origin Fact}
  {state before after : State}

/-- Everything that is said has an origin. -/
def Traced (model : Model State Origin Fact) (state : State) : Prop :=
  ∀ fact, model.asserts state fact → ∃ origin ∈ model.origins state, model.backs origin fact

/-- What may be said after a change: what a fact from before implies, whichever origin backs
that, and what an origin noted by then backs.
-/
def Derived (model : Model State Origin Fact) (before after : State) (fact : Fact) : Prop :=
  (∃ earlier, model.asserts before earlier
      ∧ ∀ origin ∈ model.origins before, model.backs origin earlier → model.backs origin fact)
    ∨ ∃ origin ∈ model.origins after, model.backs origin fact

theorem Derived.of_asserts {fact : Fact} (said : model.asserts before fact)
    : model.Derived before after fact :=
  .inl ⟨fact, said, fun _ _ backed => backed⟩

theorem Derived.mono {later : State} {fact : Fact} (h : model.Derived before after fact)
    (more : model.origins after ⊆ model.origins later)
    : model.Derived before later fact :=
  h.imp_right fun ⟨origin, noted, backed⟩ => ⟨origin, more noted, backed⟩

/-- A change that forgets no origin and says nothing without a source. -/
structure Sourced (model : Model State Origin Fact) (before after : State) : Prop where
  origins : model.origins before ⊆ model.origins after
  facts : ∀ fact, model.asserts after fact → model.Derived before after fact

/-- A sourced change keeps everything traced. -/
theorem Sourced.traced (h : model.Sourced before after) (traced : model.Traced before)
    : model.Traced after := by
  intro fact said
  rcases h.facts fact said with ⟨earlier, was, implies⟩ | backed
  · obtain ⟨origin, noted, backed⟩ := traced earlier was
    exact ⟨origin, h.origins noted, implies origin noted backed⟩
  · exact backed

/-- Where nothing is said at first and every step has its sources, everything that is ever
said is traced, by induction on the run.
-/
theorem traced_of_reachable {Action : Type*} {sys : Transition.System State Action}
    {Inv : State → Prop} (invariant : sys.Inductive Inv)
    (silent : ∀ state, sys.initial state → ∀ fact, ¬ model.asserts state fact)
    (sourced : ∀ before action after, Inv before → sys.step before action after →
      model.Sourced before after)
    (reached : sys.Reachable state)
    : model.Traced state := by
  have both : sys.Inductive fun state => Inv state ∧ model.Traced state := by
    constructor
    · intro first start
      exact ⟨invariant.initial first start, fun fact said => absurd said (silent _ start _)⟩
    · intro before action after h step
      exact ⟨invariant.step before action after h.1 step,
        (sourced before action after h.1 step).traced h.2⟩
  exact (both.reachable reached).2

/-- An origin backs every fact that names its key, when no two origins share a key. -/
theorem Traced.backs_of_key {Key : Type*} (traced : model.Traced state) {key : Origin → Key}
    (distinct : ((model.origins state).map key).Nodup) {origin : Origin} {fact : Fact}
    (noted : origin ∈ model.origins state) (said : model.asserts state fact)
    (names : ∀ other, model.backs other fact → key other = key origin)
    : model.backs origin fact := by
  obtain ⟨other, noted', backed⟩ := traced fact said
  have same : other = origin :=
    List.inj_on_of_nodup_map distinct noted' noted (names other backed)
  exact same ▸ backed

end Model

end Provenance
