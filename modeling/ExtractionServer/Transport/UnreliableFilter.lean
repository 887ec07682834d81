import ExtractionServer.Library.Acceptor
import ExtractionServer.Library.SerialNumbers
import ExtractionServer.Transport.Channel

/-! The unreliable channel's filter over unbounded sequence numbers, of which datagrams carry
the low 16 bits: it lets pass exactly what is newer than everything before it.
-/

namespace ExtractionServer.Transport

open Acceptor

/-- `UpdateURecvState` on the register of a sequence number. -/
def offerURecv (recv : URecvState) (number : Nat) : URecvState × Bool :=
  updateURecvState recv (BitVec.ofNat 16 number)

/-- Each number lies within half the range of the highest one accepted before it. -/
def NearHighest (numbers : List Nat) : Prop :=
  ∀ before number rest, numbers = before ++ number :: rest →
    ∀ highest ∈ accepted offerURecv {} before,
      (∀ other ∈ accepted offerURecv {} before, other ≤ highest) →
      highest < number + 2 ^ 15 ∧ number < highest + 2 ^ 15

/-- The register holds the low bits of the highest accepted number. -/
def Holds (recv : URecvState) : Option Nat → Prop
  | none => recv.hasURecv = false
  | some highest =>
      recv.hasURecv = true ∧ recv.uRecvHighestSeq = BitVec.ofNat 16 highest

/-- One arrival: the register judges it as the unbounded filter does, and follows it. -/
theorem Holds.offer {recv : URecvState} {highest : Option Nat} (h : Holds recv highest)
    {number : Nat}
    (near : ∀ top, highest = some top → top < number + 2 ^ 15 ∧ number < top + 2 ^ 15)
    : (offerURecv recv number).2 = (newest highest number).2
      ∧ Holds (offerURecv recv number).1 (newest highest number).1 := by
  cases highest with
  | none =>
      have fresh : recv.hasURecv = false := h
      simp [offerURecv, updateURecvState, fresh, newest, Holds]
  | some top =>
      obtain ⟨started, held⟩ := h
      obtain ⟨behind, ahead⟩ := near top rfl
      have compared : (BitVec.ofNat 16 number - BitVec.ofNat 16 top).toInt ≤ 0
          ↔ number ≤ top :=
        SerialNumber.toInt_sub_nonpos_iff (by decide) behind.le ahead
      unfold offerURecv updateURecvState
      rw [started, held]
      rcases Nat.lt_or_ge top number with newer | older
      · rw [newest_of_lt newer, if_neg (by simp), if_neg (by omega)]
        exact ⟨rfl, rfl, rfl⟩
      · rw [newest_of_le older, if_neg (by simp), if_pos (by omega)]
        exact ⟨rfl, started, held⟩

/-- The register refines the unbounded filter over any stream of arrivals. -/
theorem offerURecv_refines {numbers : List Nat} (near : NearHighest numbers)
    : accepted offerURecv {} numbers = accepted newest none numbers
      ∧ Holds (after offerURecv {} numbers) (after newest none numbers) := by
  refine accepted_eq_of_simulation Holds rfl fun before number rest split same holds => ?_
  refine holds.offer fun top state => ?_
  obtain ⟨mem, bound⟩ := (ascends_newest before).top top state
  rw [← same] at mem bound
  exact near before number rest split top mem bound

/-- `UpdateURecvState` accepts an arrival exactly when its unbounded number exceeds every
number accepted before it, so what is accepted increases and nothing comes twice.
-/
theorem updateURecvState_refines {numbers : List Nat} (near : NearHighest numbers)
    : (∀ before number rest, numbers = before ++ number :: rest →
        ((offerURecv (after offerURecv {} before) number).2 = true
          ↔ ∀ other ∈ accepted offerURecv {} before, other < number))
      ∧ (accepted offerURecv {} numbers).Pairwise (· < ·)
      ∧ (accepted offerURecv {} numbers).Nodup := by
  have increasing : (accepted offerURecv {} numbers).Pairwise (· < ·) := by
    rw [(offerURecv_refines near).1]
    exact (ascends_newest numbers).increasing
  refine ⟨fun before number rest split => ?_, increasing, increasing.imp Nat.ne_of_lt⟩
  have nearBefore : NearHighest before := fun first other later same =>
    near first other (later ++ number :: rest) (by rw [split, same, List.append_assoc]; rfl)
  obtain ⟨same, holds⟩ := offerURecv_refines nearBefore
  have close : ∀ top, after newest none before = some top →
      top < number + 2 ^ 15 ∧ number < top + 2 ^ 15 := by
    intro top state
    obtain ⟨mem, bound⟩ := (ascends_newest before).top top state
    rw [← same] at mem bound
    exact near before number rest split top mem bound
  rw [(holds.offer close).1, same]
  exact (ascends_newest before).accepts_iff number

/-- Numbers on both sides of a wrap-around, with one that comes late and one repeated. -/
theorem wrapping_accepted
    : accepted offerURecv {} [65534, 65537, 65536, 65537] = [65534, 65537]
      ∧ (accepted offerURecv {} [65534, 65537, 65536, 65537]).Nodup := by
  have near : NearHighest [65534, 65537, 65536, 65537] := by
    intro before number rest split
    rcases before with _ | ⟨first, _ | ⟨second, _ | ⟨third, _ | ⟨fourth, before⟩⟩⟩⟩
    · exact fun highest none => absurd none List.not_mem_nil
    · obtain ⟨rfl, rfl, rfl⟩ := by simpa using split
      decide
    · obtain ⟨rfl, rfl, rfl, rfl⟩ := by simpa using split
      decide
    · obtain ⟨rfl, rfl, rfl, rfl, rfl⟩ := by simpa using split
      decide
    · simp at split
  exact ⟨by decide, (updateURecvState_refines near).2.2⟩

end ExtractionServer.Transport
