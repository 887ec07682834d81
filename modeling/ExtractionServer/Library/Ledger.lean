import Mathlib.Algebra.BigOperators.Finsupp.Basic

/-! Lists of amounts booked under keys. What is booked in all under each key decides every sum
that weights amounts by their keys.
-/

namespace Ledger

variable {κ M N : Type*} [AddCommMonoid M] [AddCommMonoid N]

/-- The sum of the amounts under one key. -/
def amount [DecidableEq κ] (entries : List (κ × M)) (key : κ) : M :=
  ((entries.filter (·.1 = key)).map (·.2)).sum

/-- All sums at once. -/
noncomputable def holdings (entries : List (κ × M)) : κ →₀ M :=
  (entries.map fun entry => Finsupp.single entry.1 entry.2).sum

theorem holdings_apply [DecidableEq κ] (entries : List (κ × M)) (key : κ)
    : holdings entries key = amount entries key := by
  induction entries with
  | nil => rfl
  | cons entry rest ih =>
      rw [holdings, List.map_cons, List.sum_cons, Finsupp.add_apply, ← holdings, ih]
      by_cases same : entry.1 = key
      · simp [amount, same]
      · simp [amount, same]

/-- A weighted sum is a function of the holdings. -/
theorem sum_weight_eq (weight : κ → M →+ N) (entries : List (κ × M))
    : (entries.map fun entry => weight entry.1 entry.2).sum
      = Finsupp.liftAddHom weight (holdings entries) := by
  rw [holdings, map_list_sum, List.map_map]
  congr 1
  refine List.map_congr_left fun entry _ => ?_
  simp

/-- The same amounts under every key give the same weighted sum. -/
theorem sum_weight_congr [DecidableEq κ] (weight : κ → M →+ N) {first second : List (κ × M)}
    (same : ∀ key, amount first key = amount second key)
    : (first.map fun entry => weight entry.1 entry.2).sum
      = (second.map fun entry => weight entry.1 entry.2).sum := by
  have holdings : holdings first = holdings second := by
    ext key
    rw [holdings_apply, holdings_apply, same]
  rw [sum_weight_eq, sum_weight_eq, holdings]

theorem amount_append [DecidableEq κ] (first second : List (κ × M)) (key : κ)
    : amount (first ++ second) key = amount first key + amount second key := by
  simp [amount]

theorem amount_singleton [DecidableEq κ] (entry : κ × M) (key : κ)
    : amount [entry] key = if entry.1 = key then entry.2 else 0 := by
  by_cases same : entry.1 = key <;> simp [amount, same]

theorem amount_perm [DecidableEq κ] {first second : List (κ × M)}
    (same : first.Perm second) (key : κ)
    : amount first key = amount second key :=
  ((same.filter _).map _).sum_eq

end Ledger
