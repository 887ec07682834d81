import Mathlib.Data.List.Perm.Basic
import Mathlib.Logic.Equiv.Basic
import Mathlib.Order.WithBot

/-! Binary heaps in an array, least key first. Places outside of the array count as infinite, so
that the order of a heap needs no bounds.
-/

namespace BinaryHeap

variable {α κ : Type*} (key : α → κ)

/-- The key at an index. -/
def rank (heap : Array α) (i : Nat) : WithTop κ :=
  match heap[i]? with
  | none => ⊤
  | some value => key value

variable {key}

theorem swapIfInBounds_of_lt (heap : Array α) {i j : Nat} (first : i < heap.size)
    (second : j < heap.size)
    : heap.swapIfInBounds i j = heap.swap i j := by
  rw [Array.swapIfInBounds, dif_pos first, dif_pos second]

theorem rank_swap (heap : Array α) {i j : Nat} (first : i < heap.size) (second : j < heap.size)
    : rank key (heap.swapIfInBounds i j) = rank key heap ∘ Equiv.swap i j := by
  funext k
  rw [Function.comp_apply, Equiv.swap_apply_def, swapIfInBounds_of_lt heap first second, rank,
    Array.getElem?_swap]
  by_cases right : k = j
  · subst right
    by_cases left : k = i
    · subst left
      simp [rank, second]
    · simp [rank, left, first]
  · by_cases left : k = i
    · subst left
      simp [rank, Ne.symm right, second]
    · simp [rank, Ne.symm right, Ne.symm left, right, left]

theorem swapIfInBounds_perm (heap : Array α) {i j : Nat} (first : i < heap.size)
    (second : j < heap.size)
    : (heap.swapIfInBounds i j).toList.Perm heap.toList := by
  rw [swapIfInBounds_of_lt heap first second]
  exact Array.perm_iff_toList_perm.mp (Array.swap_perm first second)

/-- Without the value that the swap has put at the end. -/
theorem rank_pop_swap (heap : Array α) (i : Nat)
    : rank key (heap.swapIfInBounds 0 (heap.size - 1)).pop i
      = if i < heap.size - 1 then rank key heap (if i = 0 then heap.size - 1 else i) else ⊤ := by
  by_cases empty : heap.size = 0
  · rw [if_neg (by omega), rank, Array.getElem?_eq_none (by simp; omega)]
  have swapped := @rank_swap _ _ key heap 0 (heap.size - 1) (by omega) (by omega)
  split_ifs with inside root
  · have moved := congrFun swapped i
    rw [root, Function.comp_apply, Equiv.swap_apply_left] at moved
    rw [← moved, root, rank, rank, Array.getElem?_pop, if_pos (by simp; omega)]
  · have moved := congrFun swapped i
    rw [Function.comp_apply, Equiv.swap_apply_of_ne_of_ne root (by omega)] at moved
    rw [← moved, rank, rank, Array.getElem?_pop, if_pos (by simp; omega)]
  · rw [rank, Array.getElem?_eq_none (by simp; omega)]

variable [LinearOrder κ] (key)

/-- No key is less than that of its parent. -/
def Ordered (rank : Nat → WithTop κ) : Prop :=
  ∀ i, rank (i / 2) ≤ rank (i + 1)

/-- The array is a heap. -/
def IsHeap (heap : Array α) : Prop := Ordered (rank key heap)

/-- Move the value at an index up to its place. -/
def siftUp (heap : Array α) : Nat → Array α
  | 0 => heap
  | i + 1 =>
      if rank key heap (i + 1) < rank key heap (i / 2) then
        siftUp (heap.swapIfInBounds (i + 1) (i / 2)) (i / 2)
      else heap
termination_by i => i
decreasing_by omega

/-- The child with the lesser key. Which of two equal keys goes first is unspecified, and no
result depends on it.
-/
def lesserChild (heap : Array α) (i : Nat) : Nat :=
  if rank key heap (2 * i + 2) < rank key heap (2 * i + 1) then 2 * i + 2 else 2 * i + 1

theorem lesserChild_cases (heap : Array α) (i : Nat)
    : lesserChild key heap i = 2 * i + 1 ∨ lesserChild key heap i = 2 * i + 2 := by
  unfold lesserChild
  split
  · exact .inr rfl
  · exact .inl rfl

variable {key}

theorem lt_size_of_rank_lt {heap : Array α} {i : Nat} {bound : WithTop κ}
    (h : rank key heap i < bound)
    : i < heap.size := by
  by_contra outside
  have missing : heap[i]? = none := Array.getElem?_eq_none (Nat.le_of_not_lt outside)
  rw [rank, missing] at h
  exact not_top_lt h

variable (key)

/-- Move the value at an index down to its place. -/
def siftDown (heap : Array α) (i : Nat) : Array α :=
  if rank key heap (lesserChild key heap i) < rank key heap i then
    siftDown (heap.swapIfInBounds i (lesserChild key heap i)) (lesserChild key heap i)
  else heap
termination_by heap.size - i
decreasing_by
  have inside := lt_size_of_rank_lt ‹_›
  have below := lesserChild_cases key heap i
  rw [Array.size_swapIfInBounds]
  omega

/-- `push_heap`: the last value finds its place in the heap before it. -/
def pushHeap (heap : Array α) : Array α :=
  siftUp key heap (heap.size - 1)

/-- `pop_heap`: the first value goes to the end, behind a heap of the others. -/
def popHeap (heap : Array α) : Array α :=
  match heap[0]? with
  | none => heap
  | some front =>
      (siftDown key (heap.swapIfInBounds 0 (heap.size - 1)).pop 0).push front

variable {key}

/-- The values stay, in some order. -/
theorem siftUp_perm (heap : Array α) (i : Nat) (inside : i < heap.size)
    : (siftUp key heap i).toList.Perm heap.toList := by
  induction heap, i using siftUp.induct key with
  | case1 heap => rw [siftUp]
  | case2 heap i less ih =>
      have parent : i / 2 < heap.size := by omega
      rw [siftUp, if_pos less]
      exact (ih (by rwa [Array.size_swapIfInBounds])).trans
        (swapIfInBounds_perm heap inside parent)
  | case3 heap i less => rw [siftUp, if_neg less]

theorem siftDown_perm (heap : Array α) (i : Nat)
    : (siftDown key heap i).toList.Perm heap.toList := by
  induction heap, i using siftDown.induct key with
  | case1 heap i less ih =>
      have child := lt_size_of_rank_lt less
      have below := lesserChild_cases key heap i
      rw [siftDown, if_pos less]
      exact ih.trans (swapIfInBounds_perm heap (by omega) child)
  | case2 heap i less => rw [siftDown, if_neg less]

-----------------------------------------------------------------------------------------
-- Order
-----------------------------------------------------------------------------------------

/-- All is in order but the value at one index, which may have to rise. -/
structure RisesAt (rank : Nat → WithTop κ) (i : Nat) : Prop where
  others : ∀ j, j + 1 ≠ i → rank (j / 2) ≤ rank (j + 1)
  children : ∀ j, j / 2 = i → rank ((i - 1) / 2) ≤ rank (j + 1)

/-- All is in order but the value at one index, which may have to sink. -/
structure SinksAt (rank : Nat → WithTop κ) (i : Nat) : Prop where
  others : ∀ j, j / 2 ≠ i → rank (j / 2) ≤ rank (j + 1)
  children : ∀ j, j / 2 = i → 0 < i → rank ((i - 1) / 2) ≤ rank (j + 1)

theorem RisesAt.swap {rank : Nat → WithTop κ} {i : Nat} (h : RisesAt rank (i + 1))
    (less : rank (i + 1) < rank (i / 2))
    : RisesAt (rank ∘ Equiv.swap (i + 1) (i / 2)) (i / 2) := by
  have below (j : Nat) (sibling : j / 2 = i / 2) (other : j ≠ i)
      : rank (i / 2) ≤ rank (j + 1) := by
    rw [← sibling]
    exact h.others j (by omega)
  constructor
  · intro j elsewhere
    simp only [Function.comp_apply, Equiv.swap_apply_def, if_neg elsewhere]
    by_cases risen : j = i
    · rw [if_neg (by omega), if_pos (by omega), if_pos (by omega)]
      exact less.le
    · rw [if_neg (show ¬ j + 1 = i + 1 by omega)]
      split_ifs with child sibling
      · exact h.children j child
      · exact less.le.trans (below j sibling risen)
      · exact h.others j (by omega)
  · intro j child
    have own : rank (i / 2) ≤ if j + 1 = i + 1 then rank (i / 2) else rank (j + 1) := by
      split_ifs with risen
      · exact le_rfl
      · exact below j child (by omega)
    have after : (rank ∘ Equiv.swap (i + 1) (i / 2)) (j + 1)
        = if j + 1 = i + 1 then rank (i / 2) else rank (j + 1) := by
      simp only [Function.comp_apply, Equiv.swap_apply_def, if_neg (show ¬ j + 1 = i / 2 by omega)]
      split_ifs <;> rfl
    rw [after]
    refine le_trans ?_ own
    simp only [Function.comp_apply, Equiv.swap_apply_def]
    rw [if_neg (by omega)]
    split_ifs with root
    · exact less.le
    · have above := h.others (i / 2 - 1) (by omega)
      rwa [show i / 2 - 1 + 1 = i / 2 by omega] at above

theorem RisesAt.ordered {rank : Nat → WithTop κ} {i : Nat} (h : RisesAt rank (i + 1))
    (done : rank (i / 2) ≤ rank (i + 1))
    : Ordered rank := by
  intro j
  by_cases same : j = i
  · rwa [same]
  · exact h.others j (by omega)

/-- The value at the root has risen as far as it can. -/
theorem RisesAt.ordered_root {rank : Nat → WithTop κ} (h : RisesAt rank 0) : Ordered rank :=
  fun j => h.others j (Nat.succ_ne_zero j)

theorem siftUp_isHeap (heap : Array α) (i : Nat) (inside : i < heap.size)
    (rises : RisesAt (rank key heap) i)
    : IsHeap key (siftUp key heap i) := by
  induction heap, i using siftUp.induct key with
  | case1 heap =>
      rw [siftUp]
      exact rises.ordered_root
  | case2 heap i less ih =>
      rw [siftUp, if_pos less]
      refine ih (by rw [Array.size_swapIfInBounds]; omega) ?_
      rw [rank_swap heap inside (by omega)]
      exact rises.swap less
  | case3 heap i less =>
      rw [siftUp, if_neg less]
      exact rises.ordered (not_lt.mp less)

theorem SinksAt.swap {rank : Nat → WithTop κ} {i child : Nat} (h : SinksAt rank i)
    (below : child = 2 * i + 1 ∨ child = 2 * i + 2) (less : rank child < rank i)
    (least : rank child ≤ rank (2 * i + 1) ∧ rank child ≤ rank (2 * i + 2))
    : SinksAt (rank ∘ Equiv.swap i child) child := by
  have parent : (child - 1) / 2 = i := by omega
  constructor
  · intro j elsewhere
    simp only [Function.comp_apply, Equiv.swap_apply_def, if_neg elsewhere]
    by_cases sunk : j / 2 = i
    · rw [if_pos sunk, if_neg (show ¬ j + 1 = i by omega)]
      split_ifs with own
      · exact less.le
      · rcases (show j + 1 = 2 * i + 1 ∨ j + 1 = 2 * i + 2 by omega) with left | right
        · rw [left]
          exact least.1
        · rw [right]
          exact least.2
    · rw [if_neg sunk]
      split_ifs with above own
      · have upper := h.children (child - 1) parent (by omega)
        rwa [show child - 1 + 1 = child by omega, show (i - 1) / 2 = j / 2 by omega] at upper
      · omega
      · exact h.others j sunk
  · intro j grandchild _
    have own := h.others j (by omega)
    rw [grandchild] at own
    have placed : (rank ∘ Equiv.swap i child) (j + 1) = rank (j + 1) := by
      rw [Function.comp_apply, Equiv.swap_apply_of_ne_of_ne (by omega) (by omega)]
    rw [placed, parent, Function.comp_apply, Equiv.swap_apply_left]
    exact own

theorem SinksAt.ordered {rank : Nat → WithTop κ} {i : Nat} (h : SinksAt rank i)
    (done : rank i ≤ rank (2 * i + 1) ∧ rank i ≤ rank (2 * i + 2))
    : Ordered rank := by
  intro j
  by_cases same : j / 2 = i
  · rw [same]
    rcases (show j + 1 = 2 * i + 1 ∨ j + 1 = 2 * i + 2 by omega) with left | right
    · rw [left]
      exact done.1
    · rw [right]
      exact done.2
  · exact h.others j same

theorem rank_lesserChild (heap : Array α) (i : Nat)
    : rank key heap (lesserChild key heap i) ≤ rank key heap (2 * i + 1)
      ∧ rank key heap (lesserChild key heap i) ≤ rank key heap (2 * i + 2) := by
  unfold lesserChild
  split
  · next right => exact ⟨right.le, le_rfl⟩
  · next left => exact ⟨le_rfl, not_lt.mp left⟩

theorem siftDown_isHeap (heap : Array α) (i : Nat) (sinks : SinksAt (rank key heap) i)
    : IsHeap key (siftDown key heap i) := by
  induction heap, i using siftDown.induct key with
  | case1 heap i less ih =>
      have child := lt_size_of_rank_lt less
      have below := lesserChild_cases key heap i
      rw [siftDown, if_pos less]
      refine ih ?_
      rw [rank_swap heap (by omega) child]
      exact sinks.swap below less (rank_lesserChild heap i)
  | case2 heap i less =>
      have least := @rank_lesserChild _ _ key _ heap i
      have done := not_lt.mp less
      rw [siftDown, if_neg less]
      exact sinks.ordered ⟨done.trans least.1, done.trans least.2⟩

-----------------------------------------------------------------------------------------
-- Operations
-----------------------------------------------------------------------------------------

theorem isHeap_empty : IsHeap key (#[] : Array α) := by
  intro i
  simp [rank]

/-- The first key is the least one, by induction on the index. -/
theorem IsHeap.front_le {heap : Array α} (h : IsHeap key heap) (i : Nat)
    : rank key heap 0 ≤ rank key heap i := by
  induction i using Nat.strong_induction_on with
  | _ i ih =>
      cases i with
      | zero => exact le_rfl
      | succ i => exact (ih (i / 2) (by omega)).trans (h i)

theorem IsHeap.le_of_mem {heap : Array α} (h : IsHeap key heap) {front value : α}
    (first : heap[0]? = some front) (mem : value ∈ heap.toList)
    : key front ≤ key value := by
  obtain ⟨i, inside, rfl⟩ := List.mem_iff_getElem.mp mem
  have least := h.front_le i
  have found : heap[i]? = some heap.toList[i] := by simp
  rw [rank, rank, first, found] at least
  exact WithTop.coe_le_coe.mp least

theorem pushHeap_perm (heap : Array α) (value : α)
    : (pushHeap key (heap.push value)).toList.Perm (value :: heap.toList) := by
  have inside : (heap.push value).size - 1 < (heap.push value).size := by simp
  refine (siftUp_perm _ _ inside).trans ?_
  rw [Array.toList_push]
  exact List.perm_append_singleton value heap.toList

theorem IsHeap.pushHeap {heap : Array α} (h : IsHeap key heap) (value : α)
    : IsHeap key (pushHeap key (heap.push value)) := by
  have old (i : Nat) (other : i ≠ heap.size)
      : rank key (heap.push value) i = rank key heap i := by
    simp [rank, Array.getElem?_push, other]
  have beyond (i : Nat) (after : heap.size < i) : rank key (heap.push value) i = ⊤ := by
    rw [rank, Array.getElem?_eq_none (by simp; omega)]
  refine siftUp_isHeap _ _ (by simp) ?_
  rw [Array.size_push, Nat.add_sub_cancel]
  constructor
  · intro j other
    rw [old (j + 1) other]
    by_cases parent : j / 2 = heap.size
    · have outside := beyond (j + 1) (by omega)
      rw [old (j + 1) other] at outside
      rw [outside]
      exact le_top
    · rw [old (j / 2) parent]
      exact h j
  · intro j child
    rw [beyond (j + 1) (by omega)]
    exact le_top

/-- What `pop_heap` leaves in front of the least value. -/
theorem IsHeap.popHeap {heap : Array α} (h : IsHeap key heap) {front : α}
    (first : heap[0]? = some front)
    : ∃ rest, popHeap key heap = rest.push front ∧ IsHeap key rest
      ∧ (front :: rest.toList).Perm heap.toList := by
  obtain ⟨filled, same⟩ := Array.getElem?_eq_some_iff.mp first
  have inside : heap.size - 1 < heap.size := by omega
  refine ⟨siftDown key (heap.swapIfInBounds 0 (heap.size - 1)).pop 0, ?_, ?_, ?_⟩
  · rw [BinaryHeap.popHeap, first]
  · refine siftDown_isHeap _ _ ⟨fun j inner => ?_, fun j _ root => absurd root (by omega)⟩
    rw [rank_pop_swap, rank_pop_swap]
    rw [if_neg (show ¬ j + 1 = 0 by omega), if_neg inner]
    by_cases before : j + 1 < heap.size - 1
    · rw [if_pos before, if_pos (by omega)]
      exact h j
    · rw [if_neg before]
      exact le_top
  · have last : (heap.swapIfInBounds 0 (heap.size - 1)).toList
        = (heap.swapIfInBounds 0 (heap.size - 1)).pop.toList ++ [front] := by
      refine (List.dropLast_append_getLast? front ?_).symm
      rw [Array.getLast?_toList, Array.back?_eq_getElem?, Array.size_swapIfInBounds,
        swapIfInBounds_of_lt heap filled inside, Array.getElem?_swap, if_pos rfl, same]
      rfl
    have permuted := swapIfInBounds_perm heap filled inside
    rw [last] at permuted
    exact (((siftDown_perm _ 0).cons front).trans (List.perm_append_singleton _ _).symm).trans
      permuted

end BinaryHeap
