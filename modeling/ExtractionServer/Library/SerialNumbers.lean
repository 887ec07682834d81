import Mathlib.Algebra.Group.Nat.Defs
import Mathlib.Algebra.Ring.Int.Defs

/-! Serial numbers: registers of fixed width that hold unbounded counters. Two registers
compare like their counters while these lie within half the range of each other.
-/

namespace SerialNumber

variable {width n m : Nat}

/-- The signed difference of two registers is the difference of their counters. -/
theorem toInt_sub (wide : 0 < width) (behind : m ≤ n + 2 ^ (width - 1))
    (ahead : n < m + 2 ^ (width - 1))
    : (BitVec.ofNat width n - BitVec.ofNat width m).toInt = n - m := by
  obtain ⟨half, rfl⟩ : ∃ half, width = half + 1 := ⟨width - 1, by omega⟩
  have double : 2 ^ (half + 1) = 2 * 2 ^ half := by omega
  rw [Nat.add_sub_cancel] at behind ahead
  rw [BitVec.toInt_sub, BitVec.toInt_ofNat', BitVec.toInt_ofNat', Int.bmod_sub_bmod,
    Int.sub_bmod_bmod]
  exact Int.bmod_eq_of_le_mul_two (by omega) (by omega)

theorem toInt_sub_nonpos_iff (wide : 0 < width) (behind : m ≤ n + 2 ^ (width - 1))
    (ahead : n < m + 2 ^ (width - 1))
    : (BitVec.ofNat width n - BitVec.ofNat width m).toInt ≤ 0 ↔ n ≤ m := by
  rw [toInt_sub wide behind ahead]
  omega

/-- The unsigned difference of two registers is the distance of their counters, as long as
that fits.
-/
theorem toNat_sub (le : m ≤ n) (near : n - m < 2 ^ width)
    : (BitVec.ofNat width n - BitVec.ofNat width m).toNat = n - m := by
  obtain ⟨distance, rfl⟩ := Nat.exists_eq_add_of_le le
  rw [Nat.add_sub_cancel_left] at near ⊢
  have same : BitVec.ofNat width (m + distance) - BitVec.ofNat width m
      = BitVec.ofNat width distance := by
    rw [BitVec.ofNat_add, BitVec.add_comm, BitVec.add_sub_cancel]
  rw [same, BitVec.toNat_ofNat, Nat.mod_eq_of_lt near]

/-- Of registers for signed counters too: one that is not behind another has a counter that is
not behind, unless more than half the range lies between them.
-/
theorem le_of_toInt_sub_nonneg {ahead last : Int} (wide : 0 < width)
    (behind : last ≤ ahead + 2 ^ (width - 1))
    (nonneg : 0 ≤ (BitVec.ofInt width ahead - BitVec.ofInt width last).toInt)
    : last ≤ ahead := by
  obtain ⟨half, rfl⟩ : ∃ half, width = half + 1 := ⟨width - 1, by omega⟩
  have double : (2 : Nat) ^ (half + 1) = 2 * 2 ^ half := by omega
  rw [Nat.add_sub_cancel] at behind
  rw [BitVec.toInt_sub, BitVec.toInt_ofInt, BitVec.toInt_ofInt, Int.bmod_sub_bmod,
    Int.sub_bmod_bmod] at nonneg
  have cast : ((2 ^ half : Nat) : Int) = 2 ^ half := by simp
  refine Int.not_lt.mp fun before => ?_
  rw [Int.bmod_eq_of_le_mul_two (by omega) (by omega)] at nonneg
  omega

end SerialNumber
