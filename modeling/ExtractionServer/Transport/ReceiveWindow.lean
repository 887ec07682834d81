import ExtractionServer.Transport.Channel

/-! What one arrival does to the reliable receive window, bit by bit, and which numbers a
selective acknowledgement names.
-/

namespace ExtractionServer.Transport

-----------------------------------------------------------------------------------------
-- Bits of a window
-----------------------------------------------------------------------------------------

/-- A window shifted by a jump below the edge keeps its bits and marks the old highest. -/
theorem getLsbD_jump {bits diff : BitVec 32} {i : Nat} (positive : diff ≠ 0)
    (inside : diff < 32) (bound : i < 32)
    : ((bits <<< diff) ||| (1#32 <<< (diff - 1))).getLsbD i
      = (decide (i + 1 = diff.toNat)
        || (decide (diff.toNat ≤ i) && bits.getLsbD (i - diff.toNat))) := by
  have lower : 1 ≤ diff.toNat := by bv_omega
  have upper : diff.toNat < 32 := by bv_omega
  have previous : (diff - 1).toNat = diff.toNat - 1 := by bv_omega
  simp only [BitVec.getLsbD_or, BitVec.shiftLeft_eq', BitVec.getLsbD_shiftLeft, previous,
    bound, BitVec.getLsbD_one]
  rw [Bool.or_comm]
  congr 1
  · grind
  · simp
    grind

/-- Setting a single bit leaves the others alone. -/
theorem getLsbD_fill (bits : BitVec 32) (k : Nat) {i : Nat} (bound : i < 32)
    : (bits ||| (1#32 <<< k)).getLsbD i = (bits.getLsbD i || decide (i = k)) := by
  simp only [BitVec.getLsbD_or, BitVec.getLsbD_shiftLeft, BitVec.getLsbD_one, bound]
  congr 1
  grind

/-- Masking with a single bit tests that bit. -/
theorem and_bit_ne_zero {bits : BitVec 32} {k : Nat} (bound : k < 32)
    : bits &&& (1#32 <<< k) ≠ 0 ↔ bits.getLsbD k = true := by
  rw [← BitVec.twoPow_eq, BitVec.and_twoPow]
  split
  · next set =>
      refine ⟨fun _ => set, fun _ zero => ?_⟩
      have := congrArg (·.getLsbD k) zero
      simp [bound] at this
  · next unset =>
      exact ⟨fun h => absurd rfl h, fun set => absurd set unset⟩

-----------------------------------------------------------------------------------------
-- The branches of `UpdateRRecvState`
-----------------------------------------------------------------------------------------

/-- Every outcome of one arrival, with the window it leaves. A jump of 32 or more forgets the
whole window, the old highest number included.
-/
inductive RRecvStep (recv : RRecvState) (seq : BitVec 32) : RRecvState × Bool → Prop
  | first (fresh : recv.hasRRecv = false)
    : RRecvStep recv seq
        ({ rRecvHighestSeq := seq, rRecvBitfield := 0, hasRRecv := true }, true)
  | jump {bitfield : BitVec 32} (started : recv.hasRRecv = true)
    (above : recv.rRecvHighestSeq.toNat < seq.toNat)
    (bits : ∀ i < 32, bitfield.getLsbD i
      = (decide (seq.toNat - recv.rRecvHighestSeq.toNat < 32)
        && (decide (i + 1 = seq.toNat - recv.rRecvHighestSeq.toNat)
          || (decide (seq.toNat - recv.rRecvHighestSeq.toNat ≤ i)
            && recv.rRecvBitfield.getLsbD (i - (seq.toNat - recv.rRecvHighestSeq.toNat))))))
    : RRecvStep recv seq
        ({ rRecvHighestSeq := seq, rRecvBitfield := bitfield, hasRRecv := true }, true)
  | repeated (started : recv.hasRRecv = true) (same : seq = recv.rRecvHighestSeq)
    : RRecvStep recv seq (recv, false)
  | outside (started : recv.hasRRecv = true)
    (below : 32 < recv.rRecvHighestSeq.toNat - seq.toNat)
    : RRecvStep recv seq (recv, false)
  | duplicate (started : recv.hasRRecv = true)
    (below : seq.toNat < recv.rRecvHighestSeq.toNat)
    (inside : recv.rRecvHighestSeq.toNat - seq.toNat ≤ 32)
    (set : recv.rRecvBitfield.getLsbD
      (recv.rRecvHighestSeq.toNat - seq.toNat - 1) = true)
    : RRecvStep recv seq (recv, false)
  | fill {bitfield : BitVec 32} (started : recv.hasRRecv = true)
    (below : seq.toNat < recv.rRecvHighestSeq.toNat)
    (inside : recv.rRecvHighestSeq.toNat - seq.toNat ≤ 32)
    (unset : recv.rRecvBitfield.getLsbD
      (recv.rRecvHighestSeq.toNat - seq.toNat - 1) = false)
    (bits : ∀ i < 32, bitfield.getLsbD i
      = (recv.rRecvBitfield.getLsbD i
        || decide (i = recv.rRecvHighestSeq.toNat - seq.toNat - 1)))
    : RRecvStep recv seq
        ({ rRecvHighestSeq := recv.rRecvHighestSeq, rRecvBitfield := bitfield,
           hasRRecv := true }, true)

/-- `UpdateRRecvState` takes one of its branches, by the comparisons it makes. -/
theorem updateRRecvState_step (recv : RRecvState) (seq : BitVec 32)
    : RRecvStep recv seq (updateRRecvState recv seq) := by
  unfold updateRRecvState
  cases started : recv.hasRRecv with
  | false => exact .first started
  | true =>
      simp only [Bool.not_true, Bool.false_eq_true, if_false]
      split
      · next above =>
          have distance : (seq - recv.rRecvHighestSeq).toNat
              = seq.toNat - recv.rRecvHighestSeq.toNat := by bv_omega
          refine .jump started (by bv_omega) fun i bound => ?_
          split
          · next far =>
              have edge : ¬ seq.toNat - recv.rRecvHighestSeq.toNat < 32 := by bv_omega
              simp [edge]
          · next near =>
              have edge : seq.toNat - recv.rRecvHighestSeq.toNat < 32 := by bv_omega
              rw [getLsbD_jump (by bv_omega) (by bv_omega) bound, distance]
              simp [edge]
      · next notAbove =>
          split
          · next same => exact .repeated started same
          · next different =>
              have below : seq.toNat < recv.rRecvHighestSeq.toNat := by bv_omega
              have distance : (recv.rRecvHighestSeq - seq).toNat
                  = recv.rRecvHighestSeq.toNat - seq.toNat := by bv_omega
              split
              · next far => exact .outside started (by bv_omega)
              · next near =>
                  have inside : recv.rRecvHighestSeq.toNat - seq.toNat ≤ 32 := by bv_omega
                  have index : (recv.rRecvHighestSeq - seq - 1).toNat
                      = recv.rRecvHighestSeq.toNat - seq.toNat - 1 := by bv_omega
                  rw [BitVec.shiftLeft_eq', index]
                  split
                  · next set =>
                      exact .duplicate started below inside
                        ((and_bit_ne_zero (by omega)).mp set)
                  · next unset =>
                      rw [and_bit_ne_zero (by omega), Bool.not_eq_true] at unset
                      have kept := RRecvStep.fill started below inside unset
                        (fun i bound => getLsbD_fill recv.rRecvBitfield
                          (recv.rRecvHighestSeq.toNat - seq.toNat - 1) bound)
                      simpa only [started] using kept

-----------------------------------------------------------------------------------------
-- Selective acknowledgement
-----------------------------------------------------------------------------------------

/-- The numbers that an acknowledgement names: the highest one and, for each set bit `i`, the
one `i + 1` below it.
-/
def Acknowledges (ackSeqNum ackBitfield seq : BitVec 32) : Prop :=
  seq = ackSeqNum
  ∨ ∃ i < 32, ackBitfield.getLsbD i = true ∧ seq = ackSeqNum - 1 - BitVec.ofNat 32 i

instance (ackSeqNum ackBitfield seq : BitVec 32)
    : Decidable (Acknowledges ackSeqNum ackBitfield seq) :=
  inferInstanceAs (Decidable (_ ∨ _))

/-- A number at most 32 below the highest is acknowledged when its bit is set. -/
theorem acknowledges_below {highest bits seq : BitVec 32}
    (below : seq.toNat < highest.toNat) (inside : highest.toNat - seq.toNat ≤ 32)
    (set : bits.getLsbD (highest.toNat - seq.toNat - 1) = true)
    : Acknowledges highest bits seq := by
  refine .inr ⟨highest.toNat - seq.toNat - 1, by omega, set, ?_⟩
  apply BitVec.eq_of_toNat_eq
  bv_omega

/-- What the window acknowledges after an arrival was acknowledged before it or is the
arrival itself: the window forgets numbers but never invents one.
-/
theorem RRecvStep.acknowledges {recv : RRecvState} {seq other : BitVec 32}
    {outcome : RRecvState × Bool} (step : RRecvStep recv seq outcome)
    (h : Acknowledges outcome.1.rRecvHighestSeq outcome.1.rRecvBitfield other)
    : Acknowledges recv.rRecvHighestSeq recv.rRecvBitfield other
      ∨ (other = seq ∧ outcome.2 = true) := by
  cases step with
  | first fresh =>
      rcases h with rfl | ⟨i, bound, set, _⟩
      · exact .inr ⟨rfl, rfl⟩
      · simp at set
  | repeated started same => exact .inl h
  | outside started below => exact .inl h
  | duplicate started below inside set => exact .inl h
  | jump started above bits =>
      rcases h with rfl | ⟨i, bound, set, named⟩
      · exact .inr ⟨rfl, rfl⟩
      · rw [bits i bound] at set
        simp only [Bool.and_eq_true, Bool.or_eq_true, decide_eq_true_eq] at set
        obtain ⟨edge, atEdge | ⟨shifted, old⟩⟩ := set
        · refine .inl (.inl ?_)
          simp only at named
          bv_omega
        · refine .inl (.inr ⟨_, by omega, old, ?_⟩)
          simp only at named
          bv_omega
  | fill started below inside unset bits =>
      rcases h with rfl | ⟨i, bound, set, named⟩
      · exact .inl (.inl rfl)
      · rw [bits i bound] at set
        simp only [Bool.or_eq_true, decide_eq_true_eq] at set
        rcases set with old | rfl
        · exact .inl (.inr ⟨i, bound, old, named⟩)
        · refine .inr ⟨?_, rfl⟩
          simp only at named
          bv_omega

end ExtractionServer.Transport
