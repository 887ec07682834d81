import Mathlib.Data.List.Basic

/-! Loops over the items of a list, as folds, and computations that fail or return. -/

/-- A computation that succeeds succeeds in both parts. -/
theorem Except.bind_eq_ok {ε α β : Type} {x : Except ε α} {f : α → Except ε β} {result : β}
    (h : (x >>= f) = .ok result)
    : ∃ value, x = .ok value ∧ f value = .ok result := by
  cases x with
  | error e => cases h
  | ok value => exact ⟨value, rfl, h⟩

namespace Loops

variable {State View Item : Type*}

/-- A loop follows another one through a view when each of its iterations does so on safe
items, and iterations keep later items safe, by induction on the items.
-/
theorem foldl_follows {view : State → View} {full : State → Item → State}
    {plain : View → Item → View} (later : Item → Item → Prop) (Safe : State → Item → Prop)
    (follows : ∀ state item, Safe state item →
      view (full state item) = plain (view state) item)
    (keeps : ∀ state item next, later item next → Safe state item → Safe state next →
      Safe (full state item) next)
    {items : List Item} (order : items.Pairwise later) (state : State)
    (safe : ∀ item ∈ items, Safe state item)
    : view (items.foldl full state) = items.foldl plain (view state) := by
  induction items generalizing state with
  | nil => rfl
  | cons item rest ih =>
      obtain ⟨first, order⟩ := List.pairwise_cons.mp order
      have here := safe item List.mem_cons_self
      rw [List.foldl_cons, List.foldl_cons, ← follows state item here]
      exact ih order _ fun next mem =>
        keeps state item next (first next mem) here (safe next (List.mem_cons_of_mem _ mem))

/-- A loop relates its start to its end when each iteration does so, by induction on the
items.
-/
theorem foldl_related {R : State → State → Prop} (refl : ∀ state, R state state)
    (trans : ∀ {first second third}, R first second → R second third → R first third)
    {f : State → Item → State} {items : List Item}
    (step : ∀ state, ∀ item ∈ items, R state (f state item)) (state : State)
    : R state (items.foldl f state) := by
  induction items generalizing state with
  | nil => exact refl state
  | cons item rest ih =>
      exact trans (step state item List.mem_cons_self)
        (ih (fun state next mem => step state next (List.mem_cons_of_mem _ mem)) _)

/-- The state in which a loop comes to an item, by induction on the items. -/
theorem exists_visit {R : State → State → Prop} (refl : ∀ state, R state state)
    (trans : ∀ {first second third}, R first second → R second third → R first third)
    {f : State → Item → State} {items : List Item}
    (step : ∀ state, ∀ item ∈ items, R state (f state item)) {item : Item}
    (mem : item ∈ items) (state : State)
    : ∃ visited, R state visited ∧ R (f visited item) (items.foldl f state) := by
  induction items generalizing state with
  | nil => cases mem
  | cons head rest ih =>
      have steps : ∀ state, ∀ item ∈ rest, R state (f state item) :=
        fun state next mem => step state next (List.mem_cons_of_mem _ mem)
      rcases List.mem_cons.mp mem with rfl | mem
      · exact ⟨state, refl state, foldl_related refl trans steps _⟩
      · obtain ⟨visited, before, after⟩ := ih steps mem (f state head)
        exact ⟨visited, trans (step state head List.mem_cons_self) before, after⟩

end Loops
