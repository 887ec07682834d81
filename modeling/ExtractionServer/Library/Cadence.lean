import Mathlib.Algebra.Order.Group.Abs
import Mathlib.Algebra.Order.Ring.Nat
import Mathlib.Data.List.Basic
import Mathlib.Data.Nat.ModEq

/-! Jobs in phases: a job is called often, works only when an interval has passed since it worked
last, and goes through its phases in a circle. What works in one phase then works at a steady
pace, apart from what works in the others.
-/

namespace Cadence

/-- One time at work: the reading of the clock and the phase. -/
structure Turn where
  now : Nat
  phase : Nat
deriving DecidableEq, Repr

/-- The turns come an interval apart, in the circle of the phases. -/
structure Paced (interval period : Nat) (turns : List Turn) : Prop where
  phase : ∀ k turn, turns[k]? = some turn → turn.phase = k % period
  gap : ∀ k first second, turns[k]? = some first → turns[k + 1]? = some second →
    first.now + interval ≤ second.now

theorem paced_nil (interval period : Nat) : Paced interval period [] :=
  ⟨fun _ _ found => (by cases found), fun _ _ _ found => (by cases found)⟩

namespace Paced

variable {interval period : Nat} {turns : List Turn} {first second : Turn} {i j : Nat}

/-- The next turn. -/
theorem concat (h : Paced interval period turns) {next : Turn}
    (phase : next.phase = turns.length % period)
    (gap : ∀ last, turns.getLast? = some last → last.now + interval ≤ next.now)
    : Paced interval period (turns ++ [next]) := by
  have found_cases {k : Nat} {turn : Turn} (found : (turns ++ [next])[k]? = some turn)
      : turns[k]? = some turn ∨ k = turns.length ∧ turn = next := by
    rw [List.getElem?_append] at found
    split at found
    · exact .inl found
    · next beyond =>
        rw [List.getElem?_singleton] at found
        split at found
        · cases found
          exact .inr ⟨by omega, rfl⟩
        · cases found
  constructor
  · intro k turn found
    rcases found_cases found with old | ⟨rfl, rfl⟩
    · exact h.phase k turn old
    · exact phase
  · intro k first second earlier later
    rcases found_cases later with old | ⟨last, rfl⟩
    · rcases found_cases earlier with before | ⟨rfl, -⟩
      · exact h.gap k first second before old
      · rw [List.getElem?_eq_none (Nat.le_succ _)] at old
        cases old
    · rcases found_cases earlier with before | ⟨same, -⟩
      · refine gap first ?_
        rwa [List.getLast?_eq_getElem?, ← last, Nat.add_sub_cancel]
      · omega

/-- Turns lie at least as many intervals apart as there are turns between them, by induction on
their number.
-/
theorem later (h : Paced interval period turns) (earlier : turns[i]? = some first)
    (distance : Nat) (found : turns[i + distance]? = some second)
    : first.now + distance * interval ≤ second.now := by
  induction distance generalizing second with
  | zero =>
      cases earlier.symm.trans found
      rw [Nat.zero_mul, Nat.add_zero]
  | succ distance ih =>
      have inside : i + distance < turns.length := by
        have last := (List.getElem?_eq_some_iff.mp found).1
        omega
      have between := ih (List.getElem?_eq_getElem inside)
      have gap := h.gap (i + distance) _ _ (List.getElem?_eq_getElem inside) found
      rw [Nat.succ_mul]
      omega

/-- From one phase to the next turn of another, or of the same, it takes the way around the
circle.
-/
theorem apart (h : Paced interval period turns) (earlier : turns[i]? = some first)
    (found : turns[j]? = some second) (order : i < j) {steps : Nat}
    (short : steps ≤ period) (phases : second.phase = (first.phase + steps) % period)
    : first.now + steps * interval ≤ second.now := by
  have start := h.phase i first earlier
  have finish := h.phase j second found
  have enough : steps ≤ j - i := by
    rw [finish, start, Nat.mod_add_mod] at phases
    by_contra few
    have same : (j - i) % period = steps % period := by
      have shifted : (i + (j - i)) % period = (i + steps) % period := by
        rw [Nat.add_sub_cancel' order.le]
        exact phases
      exact Nat.ModEq.add_left_cancel' i shifted
    rw [Nat.mod_eq_of_lt (by omega : j - i < period)] at same
    rcases Nat.lt_or_eq_of_le short with less | full
    · rw [Nat.mod_eq_of_lt less] at same
      omega
    · rw [full, Nat.mod_self] at same
      omega
  have distance := h.later earlier (j - i)
    (by rw [Nat.add_sub_cancel' order.le]; exact found)
  exact (Nat.add_le_add_left (Nat.mul_le_mul_right interval enough) _).trans distance

/-- Among any turns of one circle there is exactly one of each phase. -/
theorem once (h : Paced interval period turns) (whole : i + period ≤ turns.length) {phase : Nat}
    (known : phase < period)
    : ∃ k turn, i ≤ k ∧ k < i + period ∧ turns[k]? = some turn ∧ turn.phase = phase
      ∧ ∀ other another, i ≤ other → other < i + period → turns[other]? = some another →
        another.phase = phase → other = k := by
  let k := i + (phase + (period - i % period)) % period
  have turned : k % period = phase := by
    have split := Nat.div_add_mod i period
    have residue : i % period < period := Nat.mod_lt _ (by omega)
    have circle : i + (phase + (period - i % period)) = phase + period * (i / period + 1) := by
      rw [Nat.mul_add, Nat.mul_one]
      omega
    rw [Nat.add_mod_mod, circle, Nat.add_mul_mod_self_left, Nat.mod_eq_of_lt known]
  have short : (phase + (period - i % period)) % period < period :=
    Nat.mod_lt _ (by omega)
  have inside : k < turns.length := by omega
  refine ⟨k, turns[k], Nat.le_add_right _ _, by omega, List.getElem?_eq_getElem inside,
    (h.phase k _ (List.getElem?_eq_getElem inside)).trans turned, ?_⟩
  intro other another low high found same
  have residue := ((h.phase other another found).symm.trans same).trans turned.symm
  exact Nat.ModEq.eq_of_abs_lt residue (abs_sub_lt_iff.mpr ⟨by omega, by omega⟩)

end Paced

end Cadence
