import Mathlib.Data.List.Nodup
import Mathlib.Data.List.Perm.Basic
import Mathlib.Data.List.Range

/-! Random draws as a source that may return any number between two bounds, and the shuffle
that settles the first places of an array by drawing for each of them among those not settled.
-/

namespace Draws

universe u v

/-- A source of numbers: in every state it draws one between the bounds. -/
structure Source (σ : Type u) where
  draw : σ → Nat → Nat → Nat × σ
  low_le : ∀ state {low high}, low ≤ high → low ≤ (draw state low high).1
  le_high : ∀ state {low high}, low ≤ high → (draw state low high).1 ≤ high

/-- The source that always draws the lower bound. -/
def lowest : Source Unit where
  draw state low _ := (low, state)
  low_le _ _ _ _ := Nat.le_refl _
  le_high _ _ _ ordered := ordered

variable {σ : Type u} {α : Type v} (source : Source σ)

/-- A draw; it is undefined where the bounds are the wrong way round. -/
def uniform (low high : Nat) (state : σ) : Option (Nat × σ) :=
  if low ≤ high then some (source.draw state low high) else none

theorem uniform_eq_some {low high : Nat} (ordered : low ≤ high) (state : σ)
    : ∃ drawn later, uniform source low high state = some (drawn, later)
        ∧ low ≤ drawn ∧ drawn ≤ high :=
  ⟨_, _, if_pos ordered, source.low_le state ordered, source.le_high state ordered⟩

/-- Exchange two elements; it is undefined outside of the array. -/
def swap? (items : Array α) (i j : Nat) : Option (Array α) :=
  if inside : i < items.size ∧ j < items.size then
    some (items.swap i j inside.1 inside.2)
  else none

/-- Settle so many places from some place on. -/
def partialShuffle : Nat → Nat → Array α → σ → Option (Array α × σ)
  | 0, _, items, state => some (items, state)
  | remaining + 1, i, items, state =>
      (uniform source i (items.size - 1) state).bind fun drawn =>
        (swap? items i drawn.1).bind fun items =>
          partialShuffle remaining (i + 1) items drawn.2

/-- Every shuffle of places inside the array permutes it, by induction on the places. -/
theorem partialShuffle_eq_some {remaining i : Nat} {items : Array α}
    (inside : i + remaining ≤ items.size) (state : σ)
    : ∃ shuffled later, partialShuffle source remaining i items state
          = some (shuffled, later)
        ∧ shuffled.toList.Perm items.toList := by
  induction remaining generalizing i items state with
  | zero => exact ⟨items, state, rfl, .refl _⟩
  | succ remaining ih =>
      obtain ⟨drawn, middle, draws, low, high⟩ :=
        uniform_eq_some source (by omega : i ≤ items.size - 1) state
      have both : i < items.size ∧ drawn < items.size := ⟨by omega, by omega⟩
      have swapped : swap? items i drawn = some (items.swap i drawn both.1 both.2) :=
        dif_pos both
      obtain ⟨shuffled, later, rest, perm⟩ :=
        @ih (i + 1) (items.swap i drawn both.1 both.2)
          (by rw [Array.size_swap]; omega) middle
      refine ⟨shuffled, later, ?_, perm.trans (Array.swap_perm both.1 both.2).toList⟩
      simp only [partialShuffle, draws, Option.bind_some, swapped, rest]

theorem map_getD_range {items : Array Nat} {m : Nat} (inside : m ≤ items.size)
    : (List.range m).map (items.getD · 0) = items.toList.take m := by
  apply List.ext_getElem?
  intro i
  by_cases early : i < m
  · simp [early, Array.getD, show i < items.size by omega]
  · have late := Nat.not_lt.mp early
    rw [List.getElem?_eq_none (by rwa [List.length_map, List.length_range]),
      List.getElem?_eq_none ((List.length_take_le m _).trans late)]

/-- The first elements of a permuted range are distinct numbers of the range. -/
theorem picks_of_perm_range {items : Array Nat} {n m : Nat}
    (perm : items.toList.Perm (List.range n)) (inside : m ≤ n)
    : ((List.range m).map (items.getD · 0)).Nodup
      ∧ ∀ i < m, items[i]? = some (items.getD i 0) ∧ items.getD i 0 < n := by
  have size : items.size = n := by simpa using perm.length_eq
  constructor
  · rw [map_getD_range (size ▸ inside)]
    exact (perm.nodup_iff.mpr List.nodup_range).sublist (List.take_sublist m _)
  · intro i early
    have within : i < items.size := by omega
    have pick : items.getD i 0 = items[i] := by simp [Array.getD, within]
    refine ⟨by rw [pick, Array.getElem?_eq_getElem within], ?_⟩
    rw [pick]
    exact List.mem_range.mp (perm.mem_iff.mp (Array.getElem_mem_toList within))

end Draws
