import Mathlib.Algebra.BigOperators.Group.List.Basic
import Mathlib.Data.Int.Order.Basic
import Mathlib.Tactic.Ring

/-! Metering: amounts accrue a little at a time and are paid out in whole units, with the rest
carried over. However the amounts are split, what is paid is the floor of their sum.
-/

namespace Metering

/-- The units paid so far, and what has accrued towards the next one. -/
structure Meter where
  paid : Int := 0
  carried : Int := 0
deriving DecidableEq, Repr

namespace Meter

def add (unit : Int) (meter : Meter) (amount : Int) : Meter where
  paid := meter.paid + (meter.carried + amount) / unit
  carried := (meter.carried + amount) % unit

/-- The meter has paid all whole units of a total and carries the rest. -/
structure Accounts (unit total : Int) (meter : Meter) : Prop where
  balance : unit * meter.paid + meter.carried = total
  nonneg : 0 ≤ meter.carried
  below : meter.carried < unit

namespace Accounts

variable {unit total : Int} {meter : Meter}

theorem start (positive : 0 < unit) : Accounts unit 0 {} :=
  ⟨by simp, Int.le_refl 0, positive⟩

theorem positive (h : meter.Accounts unit total) : 0 < unit :=
  Int.lt_of_le_of_lt h.nonneg h.below

theorem add (h : meter.Accounts unit total) (amount : Int)
    : (meter.add unit amount).Accounts unit (total + amount) where
  balance := by
    have split := Int.mul_ediv_add_emod (meter.carried + amount) unit
    calc
      unit * (meter.paid + (meter.carried + amount) / unit)
            + (meter.carried + amount) % unit
          = unit * meter.paid
            + (unit * ((meter.carried + amount) / unit)
              + (meter.carried + amount) % unit) := by
        ring
      _ = unit * meter.paid + meter.carried + amount := by rw [split, Int.add_assoc]
      _ = total + amount := by rw [h.balance]
  nonneg := Int.emod_nonneg _ h.positive.ne'
  below := Int.emod_lt_of_pos _ h.positive

/-- The units paid are the whole units of the total. -/
theorem paid_eq (h : meter.Accounts unit total) : meter.paid = total / unit := by
  rw [← h.balance, Int.add_comm, Int.add_mul_ediv_left _ _ h.positive.ne',
    Int.ediv_eq_zero_of_lt h.nonneg h.below, Int.zero_add]

theorem le_paid (h : meter.Accounts unit total) {amount : Int} (nonneg : 0 ≤ amount)
    : meter.paid ≤ (meter.add unit amount).paid :=
  Int.le_add_of_nonneg_right
    (Int.ediv_nonneg (Int.add_nonneg h.nonneg nonneg) h.positive.le)

end Accounts

end Meter

end Metering
