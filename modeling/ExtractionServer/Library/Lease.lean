import Mathlib.Logic.Basic

/-! Keys that are locked while something holds them. A key never has two holders as long as
one is only taken when it is not locked, and no lock is lost while its key is held.
-/

namespace Lease

universe u v

variable {Key : Type u} {Holder : Type v}

/-- A key that is held is locked, and nothing else holds it. -/
structure Exclusive (holds : Key → Holder → Prop) (locked : Key → Prop) : Prop where
  locked : ∀ key holder, holds key holder → locked key
  unique : ∀ key first second, holds key first → holds key second → first = second

namespace Exclusive

variable {holds holds' : Key → Holder → Prop} {locked locked' : Key → Prop}

theorem of_nothing_held (free : ∀ key holder, ¬holds key holder) : Exclusive holds locked where
  locked key holder held := absurd held (free key holder)
  unique key first _ held := absurd held (free key first)

/-- Holders come out, and the keys that are still held stay locked. -/
theorem release (h : Exclusive holds locked)
    (fewer : ∀ key holder, holds' key holder → holds key holder)
    (kept : ∀ key holder, holds' key holder → locked key → locked' key)
    : Exclusive holds' locked' where
  locked key holder held := kept key holder held (h.locked key holder (fewer key holder held))
  unique key first second heldFirst heldSecond :=
    h.unique key first second (fewer key first heldFirst) (fewer key second heldSecond)

/-- A key without a lock has no holder. -/
theorem free (h : Exclusive holds locked) {key : Key} (unlocked : ¬locked key) (holder : Holder)
    : ¬holds key holder :=
  fun held => unlocked (h.locked key holder held)

/-- One holder takes a key that is not locked. -/
theorem acquire (h : Exclusive holds locked) (taken : Key) (taker : Holder)
    (unlocked : ¬locked taken)
    (more : ∀ key holder, holds' key holder →
      holds key holder ∨ key = taken ∧ holder = taker)
    (locks : locked' taken) (kept : ∀ key, locked key → locked' key)
    : Exclusive holds' locked' where
  locked key holder held := by
    rcases more key holder held with old | ⟨rfl, -⟩
    · exact kept key (h.locked key holder old)
    · exact locks
  unique key first second heldFirst heldSecond := by
    rcases more key first heldFirst with oldFirst | ⟨rfl, rfl⟩
    · rcases more key second heldSecond with oldSecond | ⟨rfl, -⟩
      · exact h.unique key first second oldFirst oldSecond
      · exact absurd oldFirst (h.free unlocked first)
    · rcases more key second heldSecond with oldSecond | ⟨-, rfl⟩
      · exact absurd oldSecond (h.free unlocked second)
      · rfl

end Exclusive

end Lease
