import Mathlib.Data.List.Induction
import Mathlib.Order.Lattice
import Mathlib.Data.List.Nodup

/-! Stream filters: a state machine that offers each arriving item to a filter and keeps the
items it accepts. The main rule reduces "nothing is accepted twice" to one step.
-/

namespace Acceptor

universe u v

variable {State : Type u} {Item : Type v}

/-- The filter's state after a stream of arrivals. -/
def after (offer : State → Item → State × Bool) (start : State) (items : List Item) : State :=
  items.foldl (fun state item => (offer state item).1) start

/-- The arrivals that the filter accepts, in order. -/
def accepted (offer : State → Item → State × Bool) : State → List Item → List Item
  | _, [] => []
  | state, item :: rest =>
      let (next, fresh) := offer state item
      if fresh then item :: accepted offer next rest else accepted offer next rest

variable {offer : State → Item → State × Bool} {start : State}

@[simp] theorem after_nil : after offer start [] = start := rfl

@[simp] theorem accepted_nil : accepted offer start [] = [] := rfl

@[simp] theorem after_append (left right : List Item)
    : after offer start (left ++ right) = after offer (after offer start left) right := by
  simp [after]

theorem after_concat (items : List Item) (item : Item)
    : after offer start (items ++ [item]) = (offer (after offer start items) item).1 := by
  simp [after]

/-- Acceptance of a stream splits at any point, by induction on the first part. -/
theorem accepted_append (left right : List Item)
    : accepted offer start (left ++ right)
      = accepted offer start left ++ accepted offer (after offer start left) right := by
  induction left generalizing start with
  | nil => rfl
  | cons item rest ih =>
      simp only [List.cons_append, accepted, after, List.foldl_cons, ih]
      split <;> rfl

theorem accepted_concat (items : List Item) (item : Item)
    : accepted offer start (items ++ [item])
      = accepted offer start items
        ++ if (offer (after offer start items) item).2 then [item] else [] := by
  simp only [accepted_append, accepted]

/-- Only arrivals are accepted, by induction on the stream. -/
theorem mem_of_mem_accepted {items : List Item} {item : Item}
    (h : item ∈ accepted offer start items)
    : item ∈ items := by
  induction items generalizing start with
  | nil => exact h
  | cons head rest ih =>
      simp only [accepted] at h
      split at h
      · rcases List.mem_cons.mp h with rfl | h
        · exact List.mem_cons_self
        · exact List.mem_cons_of_mem _ (ih h)
      · exact List.mem_cons_of_mem _ (ih h)

/-- Nothing is accepted twice when no arrival that was accepted before is accepted again, by
induction on the stream from its end.
-/
theorem accepted_nodup {items : List Item}
    (once : ∀ before item rest, items = before ++ item :: rest →
      item ∈ accepted offer start before → (offer (after offer start before) item).2 = false)
    : (accepted offer start items).Nodup := by
  induction items using List.reverseRecOn with
  | nil => exact List.nodup_nil
  | append_singleton items item ih =>
      have earlier : (accepted offer start items).Nodup := by
        refine ih fun before other rest split => once before other (rest ++ [item]) ?_
        rw [split, List.append_assoc, List.cons_append]
      rw [accepted_concat]
      cases fresh : (offer (after offer start items) item).2 with
      | false => simpa using earlier
      | true =>
          have new : item ∉ accepted offer start items := by
            intro old
            have := once items item [] rfl old
            rw [fresh] at this
            cases this
          exact List.nodup_append'.mpr ⟨earlier, List.nodup_singleton _, by simpa using new⟩

-----------------------------------------------------------------------------------------
-- Filters that refine each other
-----------------------------------------------------------------------------------------

/-- Two filters whose states stay related accept the same arrivals of a stream, by induction
on it from its end.
-/
theorem accepted_eq_of_simulation {Other : Type*} {other : Other → Item → Other × Bool}
    {origin : Other} (related : State → Other → Prop) {items : List Item}
    (starts : related start origin)
    (steps : ∀ before item rest, items = before ++ item :: rest →
      accepted offer start before = accepted other origin before →
      related (after offer start before) (after other origin before) →
      (offer (after offer start before) item).2 = (other (after other origin before) item).2
      ∧ related (offer (after offer start before) item).1
        (other (after other origin before) item).1)
    : accepted offer start items = accepted other origin items
      ∧ related (after offer start items) (after other origin items) := by
  induction items using List.reverseRecOn with
  | nil => exact ⟨rfl, starts⟩
  | append_singleton items item ih =>
      obtain ⟨same, holds⟩ := ih fun before other rest split =>
        steps before other (rest ++ [item]) (by rw [split, List.append_assoc, List.cons_append])
      obtain ⟨verdict, next⟩ := steps items item [] rfl same holds
      rw [accepted_concat, accepted_concat, after_concat, after_concat, same, verdict]
      exact ⟨rfl, next⟩

-----------------------------------------------------------------------------------------
-- The filter that only lets pass what is newer
-----------------------------------------------------------------------------------------

section Newest

variable {κ : Type*} [LinearOrder κ]

/-- Accept what is greater than the last accepted item. -/
def newest : Option κ → κ → Option κ × Bool
  | none, item => (some item, true)
  | some highest, item => if item ≤ highest then (some highest, false) else (some item, true)

theorem newest_of_le {item top : κ} (older : item ≤ top)
    : newest (some top) item = (some top, false) :=
  if_pos older

theorem newest_of_lt {item top : κ} (newer : top < item)
    : newest (some top) item = (some item, true) :=
  if_neg newer.not_ge

/-- The state is the greatest accepted item, and what is accepted increases. -/
structure Ascends (highest : Option κ) (kept : List κ) : Prop where
  started : highest = none ↔ kept = []
  top : ∀ item, highest = some item → item ∈ kept ∧ ∀ old ∈ kept, old ≤ item
  increasing : kept.Pairwise (· < ·)

namespace Ascends

variable {highest : Option κ} {kept : List κ}

/-- An item is accepted exactly when it exceeds all accepted before it. -/
theorem accepts_iff (h : Ascends highest kept) (item : κ)
    : (newest highest item).2 = true ↔ ∀ old ∈ kept, old < item := by
  cases highest with
  | none => simp [newest, h.started.mp rfl]
  | some top =>
      obtain ⟨mem, bound⟩ := h.top top rfl
      rcases le_or_gt item top with older | newer
      · rw [newest_of_le older]
        exact ⟨nofun, fun above => absurd (above top mem) older.not_gt⟩
      · rw [newest_of_lt newer]
        exact ⟨fun _ old kept => (bound old kept).trans_lt newer, fun _ => rfl⟩

theorem accept (h : Ascends highest kept) {item : κ} (above : ∀ old ∈ kept, old < item)
    : Ascends (some item) (kept ++ [item]) where
  started := by simp
  top last same := by
    obtain rfl := Option.some.inj same
    refine ⟨by simp, fun old mem => ?_⟩
    rcases List.mem_append.mp mem with mem | mem
    · exact (above old mem).le
    · exact le_of_eq (List.mem_singleton.mp mem)
  increasing := by
    refine List.pairwise_append.mpr ⟨h.increasing, List.pairwise_singleton _ _, ?_⟩
    intro old mem last new
    rw [List.mem_singleton.mp new]
    exact above old mem

end Ascends

/-- The filter's accepted items increase, by induction on the stream from its end. -/
theorem ascends_newest (items : List κ)
    : Ascends (after newest none items) (accepted newest none items) := by
  induction items using List.reverseRecOn with
  | nil =>
      refine ⟨by simp, fun item same => ?_, List.Pairwise.nil⟩
      cases same
  | append_singleton items item ih =>
      have verdict := ih.accepts_iff item
      rw [after_concat, accepted_concat]
      cases state : after newest none items with
      | none =>
          rw [state] at ih verdict
          exact ih.accept (verdict.mp rfl)
      | some top =>
          rw [state] at ih verdict
          rcases le_or_gt item top with older | newer
          · rw [newest_of_le older]
            simpa using ih
          · rw [newest_of_lt newer] at verdict ⊢
            exact ih.accept (verdict.mp rfl)

end Newest

end Acceptor
