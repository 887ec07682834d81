import Mathlib.Algebra.Group.Nat.Defs
import Mathlib.Algebra.Order.Group.Nat
import Mathlib.Tactic.Positivity

/-! Values of `JSON.parse`, and the arithmetic of numbers on integers: the sum or product of two
integers is the double nearest to it.
-/

namespace JavaScript

-----------------------------------------------------------------------------------------
-- Values
-----------------------------------------------------------------------------------------

/-- A parsed value. Numbers that `Number.isInteger` refuses are not told apart. -/
inductive Value where
  | null
  | boolean (value : Bool)
  | integer (value : Int)
  | fraction
  | string (value : String)
  | array (elements : List Value)
  | object (members : List (String × Value))

namespace Value

/-- A property of a value other than `null`; of members with one name the last one counts. -/
def get (value : Value) (name : String) : Option Value :=
  match value with
  | .object members => members.reverse.lookup name
  | _ => none

/-- The value of a property that `Number.isInteger` accepts. -/
def integer? : Option Value → Option Int
  | some (.integer value) => some value
  | _ => none

/-- The elements of a property that `Array.isArray` accepts. -/
def array? : Option Value → Option (List Value)
  | some (.array elements) => some elements
  | _ => none

end Value

-----------------------------------------------------------------------------------------
-- Integers as doubles
-----------------------------------------------------------------------------------------

/-- The largest power of two below which every integer is a double. -/
def exactBound : Nat := 2 ^ 53

/-- A natural number as the nearest double, ties to even. -/
def roundNat (n : Nat) : Nat :=
  if n ≤ exactBound then n
  else
    let unit := 2 ^ (n.log2 - 52)
    let mantissa := n / unit
    let rest := n % unit
    if unit < 2 * rest ∨ unit = 2 * rest ∧ mantissa % 2 = 1 then (mantissa + 1) * unit
    else mantissa * unit

/-- An integer as the nearest double, were there no largest one. -/
def round (n : Int) : Int :=
  match n with
  | .ofNat n => (roundNat n : Nat)
  | .negSucc n => -(roundNat (n + 1) : Nat)

/-- The double nearest to a product; no product here overflows. -/
def mul (a b : Int) : Int := round (a * b)

/-- Above the bound rounding stays above the bound. -/
theorem exactBound_le_roundNat {n : Nat} (above : exactBound < n)
    : exactBound ≤ roundNat n := by
  have nonzero : n ≠ 0 := by
    rintro rfl
    exact absurd above (Nat.not_lt_zero _)
  have size : 53 ≤ n.log2 := (Nat.le_log2 nonzero).mpr above.le
  have unit : 2 ^ 52 * 2 ^ (n.log2 - 52) = 2 ^ n.log2 := by
    rw [← Nat.pow_add, Nat.add_sub_cancel' (by omega)]
  have mantissa : 2 ^ 52 ≤ n / 2 ^ (n.log2 - 52) := by
    refine (Nat.le_div_iff_mul_le (Nat.two_pow_pos _)).mpr ?_
    rw [unit]
    exact Nat.log2_self_le nonzero
  have floor : exactBound ≤ n / 2 ^ (n.log2 - 52) * 2 ^ (n.log2 - 52) :=
    calc exactBound = 2 ^ 52 * 2 ^ 1 := rfl
      _ ≤ 2 ^ 52 * 2 ^ (n.log2 - 52) :=
          Nat.mul_le_mul_left _ (Nat.pow_le_pow_right (by decide) (by omega))
      _ ≤ n / 2 ^ (n.log2 - 52) * 2 ^ (n.log2 - 52) := Nat.mul_le_mul_right _ mantissa
  unfold roundNat
  rw [if_neg (Nat.not_le.mpr above)]
  dsimp only
  split
  · exact floor.trans (Nat.mul_le_mul_right _ (Nat.le_succ _))
  · exact floor

theorem round_eq_self {n : Int} (lower : -exactBound ≤ n) (upper : n ≤ exactBound)
    : round n = n := by
  cases n with
  | ofNat n =>
      have small : n ≤ exactBound := Int.ofNat_le.mp upper
      simp only [round, roundNat, if_pos small, Int.ofNat_eq_natCast]
  | negSucc n =>
      have small : n + 1 ≤ exactBound := by
        have := Int.negSucc_eq n ▸ lower
        omega
      simp only [round, roundNat, if_pos small, Int.negSucc_eq]
      omega

theorem exactBound_le_round {n : Int} (above : (exactBound : Int) ≤ n)
    : (exactBound : Int) ≤ round n := by
  obtain ⟨n, rfl⟩ := Int.eq_ofNat_of_zero_le (le_trans (Int.natCast_nonneg _) above)
  have above := Int.ofNat_le.mp above
  rcases above.eq_or_lt with rfl | above
  · exact le_of_eq (round_eq_self (by decide) le_rfl).symm
  · exact Int.ofNat_le.mpr (exactBound_le_roundNat above)

/-- A product below the bound is exact. -/
theorem mul_eq_of_lt {a b : Int} (nonneg : 0 ≤ a * b) (small : mul a b < exactBound)
    : mul a b = a * b := by
  refine round_eq_self (by omega) ?_
  by_contra above
  exact absurd (exactBound_le_round (le_of_lt (not_le.mp above))) (not_le.mpr small)

theorem mul_eq_of_le {a b : Int} (nonneg : 0 ≤ a * b) (small : a * b ≤ exactBound)
    : mul a b = a * b :=
  round_eq_self (by omega) small

-----------------------------------------------------------------------------------------
-- Sums that may overflow
-----------------------------------------------------------------------------------------

/-- A number that sums of integers can reach. -/
inductive Number where
  | finite (value : Int)
  | infinite (negative : Bool)
  | notANumber
deriving DecidableEq, Repr

namespace Number

/-- The first power of two beyond the doubles. -/
def overflowBound : Nat := 2 ^ 1024

/-- The double nearest to an integer, infinite from the bound on. -/
def ofInt (n : Int) : Number :=
  if (overflowBound : Int) ≤ round n then .infinite false
  else if round n ≤ -(overflowBound : Int) then .infinite true
  else .finite (round n)

def add : Number → Number → Number
  | .finite a, .finite b => ofInt (a + b)
  | .infinite a, .infinite b => if a = b then .infinite a else .notANumber
  | .infinite a, .finite _ => .infinite a
  | .finite _, .infinite b => .infinite b
  | _, _ => .notANumber

/-- `===`, by which no number that is not a number equals itself. -/
def strictEquals (a b : Number) : Bool := a == b && a != .notANumber

/-- A number is at least some integer. -/
inductive AtLeast (bound : Int) : Number → Prop where
  | finite {value : Int} (above : bound ≤ value) : AtLeast bound (.finite value)
  | infinite : AtLeast bound (.infinite false)

theorem exactBound_lt_overflowBound : exactBound < overflowBound := by
  simp only [exactBound, overflowBound]
  apply Nat.pow_lt_pow_of_lt Nat.one_lt_two
  decide

/-- Small sums are exact. -/
theorem add_finite {a b : Int} (lower : -exactBound ≤ a + b) (upper : a + b ≤ exactBound)
    : add (.finite a) (.finite b) = .finite (a + b) := by
  have limit : (exactBound : Int) < overflowBound :=
    Int.ofNat_lt.mpr exactBound_lt_overflowBound
  have same := round_eq_self lower upper
  simp only [add, ofInt, same]
  rw [if_neg (by omega), if_neg (by omega)]

/-- Above the bound sums stay above it, be they rounded or infinite. -/
theorem atLeast_ofInt {n : Int} (above : (exactBound : Int) ≤ n)
    : AtLeast exactBound (ofInt n) := by
  have limit : (exactBound : Int) < overflowBound :=
    Int.ofNat_lt.mpr exactBound_lt_overflowBound
  have rounded := exactBound_le_round above
  unfold ofInt
  split
  · exact .infinite
  · rw [if_neg (by omega)]
    exact .finite rounded

theorem AtLeast.add {a : Number} {b : Int} (above : AtLeast exactBound a) (nonneg : 0 ≤ b)
    : AtLeast exactBound (a.add (.finite b)) := by
  cases above with
  | finite above => exact atLeast_ofInt (by omega)
  | infinite => exact .infinite

theorem not_atLeast_finite {bound value : Int} (below : value < bound)
    : ¬AtLeast bound (.finite value) := by
  rintro (above | _)
  omega

end Number

end JavaScript
