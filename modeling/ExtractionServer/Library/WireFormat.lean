import Mathlib.Algebra.BigOperators.Group.List.Basic
import Mathlib.Algebra.Order.BigOperators.Group.List
import Mathlib.Data.Nat.Log

/-! Sizes in the wire format of protocol buffers: a number takes one byte for every seven bits,
and a field is a tag followed by a number or by a length and as many bytes. Fields with their
default values are left out.
-/

namespace WireFormat

/-- The bytes of a base-128 number: seven bits in each, and one byte for zero. -/
def varintSize (n : Nat) : Nat := n.log2 / 7 + 1

/-- The three lowest bits of a tag are the type of the field. -/
def tagSize (field : Nat) : Nat := varintSize (field * 8)

def uint32FieldSize (field value : Nat) : Nat :=
  if value = 0 then 0 else tagSize field + varintSize value

def boolFieldSize (field : Nat) (value : Bool) : Nat :=
  if value then tagSize field + 1 else 0

/-- An embedded message is there even when it is empty. -/
def messageFieldSize (field size : Nat) : Nat := tagSize field + varintSize size + size

theorem varintSize_le {n bytes : Nat} (positive : 0 < bytes) (small : n < 2 ^ (7 * bytes))
    : varintSize n ≤ bytes := by
  have bits : n.log2 < 7 * bytes := by
    by_cases zero : n = 0
    · simp [zero]
      omega
    · exact (Nat.log2_lt zero).mpr small
  unfold varintSize
  omega

theorem tagSize_eq_one {field : Nat} (low : field < 16) : tagSize field = 1 := by
  have most : tagSize field ≤ 1 := varintSize_le Nat.one_pos (by omega)
  have least : 1 ≤ tagSize field := Nat.succ_pos _
  omega

/-- Numbers of 32 bits take at most five bytes. -/
theorem uint32FieldSize_le {field value : Nat} (low : field < 16) (small : value < 2 ^ 32)
    : uint32FieldSize field value ≤ 6 := by
  have number : varintSize value ≤ 5 := varintSize_le (by decide) (by omega)
  unfold uint32FieldSize
  rw [tagSize_eq_one low]
  split <;> omega

theorem boolFieldSize_le {field : Nat} (low : field < 16) (value : Bool)
    : boolFieldSize field value ≤ 2 := by
  unfold boolFieldSize
  rw [tagSize_eq_one low]
  split <;> omega

theorem messageFieldSize_le {field size : Nat} (low : field < 16) (small : size < 2 ^ 14)
    : messageFieldSize field size ≤ size + 3 := by
  have length : varintSize size ≤ 2 := varintSize_le (by decide) small
  unfold messageFieldSize
  rw [tagSize_eq_one low]
  omega

end WireFormat
