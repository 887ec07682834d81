import Mathlib.Logic.Function.Basic

/-! Resources that one actor operates at a time, recorded on both sides: an actor knows the
resource it has open, and a resource knows the body of the actor that holds it. The
operations keep the two records in agreement.
-/

universe u v w

/-- Who operates what. An actor may be without a body, and bodies may be without an actor. -/
structure Occupancy (Actor : Type u) (Body : Type v) (Resource : Type w) where
  body : Actor → Option Body
  opened : Actor → Option Resource
  holder : Resource → Option Body

namespace Occupancy

variable {Actor : Type u} {Body : Type v} {Resource : Type w}

/-- The two records agree, and bodies are not shared. -/
structure Agrees (o : Occupancy Actor Body Resource) : Prop where
  distinct : ∀ {actor other body}, o.body actor = some body → o.body other = some body →
    actor = other
  held : ∀ {actor resource}, o.opened actor = some resource →
    ∃ body, o.body actor = some body ∧ o.holder resource = some body
  holds : ∀ {resource body}, o.holder resource = some body →
    ∃ actor, o.body actor = some body ∧ o.opened actor = some resource

variable {o : Occupancy Actor Body Resource}

/-- No resource is open twice. -/
theorem Agrees.exclusive (h : o.Agrees) {actor other : Actor} {resource : Resource}
    (mine : o.opened actor = some resource) (theirs : o.opened other = some resource)
    : actor = other := by
  obtain ⟨body, current, holder⟩ := h.held mine
  obtain ⟨_, currentOther, holderOther⟩ := h.held theirs
  cases holder.symm.trans holderOther
  exact h.distinct current currentOther

/-- A body holds one resource at most. -/
theorem Agrees.single (h : o.Agrees) {body : Body} {resource other : Resource}
    (first : o.holder resource = some body) (second : o.holder other = some body)
    : resource = other := by
  obtain ⟨actor, current, opened⟩ := h.holds first
  obtain ⟨_, currentOther, openedOther⟩ := h.holds second
  cases h.distinct current currentOther
  exact Option.some.inj (opened.symm.trans openedOther)

/-- A body whose actor has nothing open holds nothing. -/
theorem Agrees.free (h : o.Agrees) {actor : Actor} {body : Body}
    (current : o.body actor = some body) (closed : o.opened actor = none)
    (resource : Resource)
    : o.holder resource ≠ some body := by
  intro holder
  obtain ⟨other, currentOther, opened⟩ := h.holds holder
  cases h.distinct current currentOther
  cases closed.symm.trans opened

variable [DecidableEq Actor] [DecidableEq Body] [DecidableEq Resource]

/-- The holders when an actor gives up a resource, if it still holds it. -/
def releasedHolder (o : Occupancy Actor Body Resource) (actor : Actor)
    : Resource → Option Body :=
  match o.opened actor with
  | none => o.holder
  | some resource =>
      if o.holder resource = o.body actor then Function.update o.holder resource none
      else o.holder

/-- Give up what is open, on both sides. -/
def release (o : Occupancy Actor Body Resource) (actor : Actor)
    : Occupancy Actor Body Resource :=
  { o with
    opened := Function.update o.opened actor none
    holder := o.releasedHolder actor }

/-- Take a resource: its former holder is put out, and what the actor had open is given up. -/
def acquire (o : Occupancy Actor Body Resource) (actor : Actor) (body : Body)
    (resource : Resource) (evicted : Option Actor)
    : Occupancy Actor Body Resource :=
  let cleared : Occupancy Actor Body Resource :=
    { o with
      opened :=
        match evicted with
        | none => o.opened
        | some other => Function.update o.opened other none }
  let released := cleared.release actor
  { released with
    opened := Function.update released.opened actor (some resource)
    holder := Function.update released.holder resource (some body) }

/-- Change the body of an actor. -/
def embody (o : Occupancy Actor Body Resource) (actor : Actor) (body : Option Body)
    : Occupancy Actor Body Resource :=
  { o with body := Function.update o.body actor body }

omit [DecidableEq Body] [DecidableEq Resource] in
theorem embody_body (o : Occupancy Actor Body Resource) (actor other : Actor)
    (body : Option Body)
    : (o.embody actor body).body other = if other = actor then body else o.body other :=
  Function.update_apply ..

omit [DecidableEq Actor] in
/-- In agreement a release always frees the resource. -/
theorem Agrees.releasedHolder_eq_some (h : o.Agrees) {actor : Actor} {resource : Resource}
    {body : Body}
    : o.releasedHolder actor resource = some body
      ↔ o.holder resource = some body ∧ o.opened actor ≠ some resource := by
  unfold releasedHolder
  cases opened : o.opened actor with
  | none => simp
  | some mine =>
      obtain ⟨current, own, holder⟩ := h.held opened
      dsimp only
      rw [own, holder, if_pos rfl]
      by_cases same : resource = mine
      · subst same
        simp
      · simp [same, Ne.symm same]

theorem Agrees.release (h : o.Agrees) (actor : Actor) : (o.release actor).Agrees where
  distinct := h.distinct
  held {other resource} opened := by
    by_cases same : other = actor
    · subst same
      simp [Occupancy.release] at opened
    · simp only [Occupancy.release, Function.update_of_ne same] at opened ⊢
      obtain ⟨body, current, holder⟩ := h.held opened
      refine ⟨body, current, h.releasedHolder_eq_some.mpr ⟨holder, fun mine => same ?_⟩⟩
      exact h.exclusive opened mine
  holds {resource body} holder := by
    obtain ⟨holder, notMine⟩ := h.releasedHolder_eq_some.mp holder
    obtain ⟨other, current, opened⟩ := h.holds holder
    refine ⟨other, current, ?_⟩
    have ne : other ≠ actor := by
      rintro rfl
      exact notMine opened
    simpa [Occupancy.release, ne] using opened

/-- Taking a resource keeps the agreement when the actor of any other holder is put out. -/
theorem Agrees.acquire (h : o.Agrees) {actor : Actor} {body : Body}
    (current : o.body actor = some body) (resource : Resource) {evicted : Option Actor}
    (former : ∀ other, evicted = some other →
      other ≠ actor ∧ o.body other = o.holder resource)
    (complete : ∀ other, o.body other = o.holder resource → (o.body other).isSome →
      other ≠ actor → evicted = some other)
    : (o.acquire actor body resource evicted).Agrees := by
  -- Another actor keeps what it had open, unless that is the resource taken.
  have others (other : Actor) (ne : other ≠ actor)
      : (o.acquire actor body resource evicted).opened other
        = if evicted = some other then none else o.opened other := by
    simp only [Occupancy.acquire, Occupancy.release, Function.update_of_ne ne]
    cases evicted with
    | none => rfl
    | some out =>
        by_cases same : other = out
        · subst same
          simp
        · simp [same, Ne.symm same]
  have cleared : (match evicted with
      | none => o.opened
      | some other => Function.update o.opened other none) actor = o.opened actor := by
    cases evicted with
    | none => rfl
    | some out => exact Function.update_of_ne (former out rfl).1.symm _ _
  have holders (other : Resource) (ne : other ≠ resource)
      : (o.acquire actor body resource evicted).holder other = o.releasedHolder actor other := by
    simp only [Occupancy.acquire, Occupancy.release, Function.update_of_ne ne, releasedHolder]
    rw [cleared]
  have own : (o.acquire actor body resource evicted).opened actor = some resource :=
    Function.update_self _ _ _
  have taken : (o.acquire actor body resource evicted).holder resource = some body :=
    Function.update_self _ _ _
  constructor
  · exact h.distinct
  · intro other target opened
    by_cases same : other = actor
    · subst same
      cases own.symm.trans opened
      exact ⟨body, current, taken⟩
    · rw [others other same] at opened
      split at opened
      · cases opened
      · next kept =>
          obtain ⟨theirs, currentOther, holder⟩ := h.held opened
          have ne : target ≠ resource := by
            rintro rfl
            refine kept (complete other (currentOther.trans holder.symm) ?_ same)
            rw [currentOther]
            rfl
          refine ⟨theirs, currentOther, ?_⟩
          rw [holders target ne, h.releasedHolder_eq_some]
          exact ⟨holder, fun mine => same (h.exclusive opened mine)⟩
  · intro target theirs holder
    by_cases same : target = resource
    · subst same
      cases taken.symm.trans holder
      exact ⟨actor, current, own⟩
    · rw [holders target same, h.releasedHolder_eq_some] at holder
      obtain ⟨other, currentOther, opened⟩ := h.holds holder.1
      refine ⟨other, currentOther, ?_⟩
      have ne : other ≠ actor := by
        rintro rfl
        exact holder.2 opened
      rw [others other ne, if_neg, opened]
      intro out
      have same' := (former other out).2
      rw [currentOther] at same'
      exact same (h.single holder.1 same'.symm)

omit [DecidableEq Body] [DecidableEq Resource] in
/-- A body may be changed while nothing is open, for one that nobody has. -/
theorem Agrees.embody (h : o.Agrees) {actor : Actor} {body : Option Body}
    (closed : o.opened actor = none)
    (fresh : ∀ other value, body = some value → o.body other ≠ some value)
    : (o.embody actor body).Agrees where
  distinct {first second value} mine theirs := by
    by_cases own : first = actor
    · subst own
      by_cases other : second = first
      · exact other.symm
      · simp only [Occupancy.embody, Function.update_self, Function.update_of_ne other]
          at mine theirs
        exact absurd theirs (fresh second value mine)
    · by_cases other : second = actor
      · subst other
        simp only [Occupancy.embody, Function.update_self, Function.update_of_ne own]
          at mine theirs
        exact absurd mine (fresh first value theirs)
      · simp only [Occupancy.embody, Function.update_of_ne own, Function.update_of_ne other]
          at mine theirs
        exact h.distinct mine theirs
  held {other resource} opened := by
    have ne : other ≠ actor := by
      rintro rfl
      cases closed.symm.trans opened
    simpa [Occupancy.embody, ne] using h.held opened
  holds {resource value} holder := by
    obtain ⟨other, current, opened⟩ := h.holds holder
    have ne : other ≠ actor := by
      rintro rfl
      cases closed.symm.trans opened
    exact ⟨other, by simpa [Occupancy.embody, ne] using current, opened⟩

end Occupancy
