import ExtractionServer.Transport.ReceiveWindow

/-! The exact effect of an incoming acknowledgement on the pending packets, whatever early
exit its loop takes.
-/

namespace ExtractionServer.Transport

variable {Payload : Type}

namespace PendingReliable

theorem ext_packets {left right : PendingReliable Payload}
    (h : left.packets = right.packets)
    : left = right := by
  cases left
  cases right
  cases h
  rfl

theorem keep_keep (pending : PendingReliable Payload) (p q : BitVec 32 → Bool)
    : (pending.keep p).keep q = pending.keep fun seq => p seq && q seq := by
  apply ext_packets
  simp [keep, List.filter_filter, Bool.and_comm]

theorem keep_congr (pending : PendingReliable Payload) {p q : BitVec 32 → Bool}
    (h : ∀ seq, p seq = q seq)
    : pending.keep p = pending.keep q := by
  rw [funext h]

theorem keep_true (pending : PendingReliable Payload)
    : (pending.keep fun _ => true) = pending := by
  apply ext_packets
  simp [keep]

/-- Nothing can be dropped from an empty map. -/
theorem keep_of_isEmpty {pending : PendingReliable Payload} (h : pending.isEmpty = true)
    (p : BitVec 32 → Bool)
    : pending.keep p = pending := by
  apply ext_packets
  have none : pending.packets = [] := List.isEmpty_iff.mp h
  simp [keep, none]

end PendingReliable

/-- What remains to be released after `base` iterations of the loop, when the bits have been
shifted that often.
-/
private def AckedFrom (ackSeqNum : BitVec 32) (base : Nat) (bits seq : BitVec 32) : Prop :=
  ∃ i, base + i < 32 ∧ bits.getLsbD i = true ∧ seq = ackSeqNum - 1 - BitVec.ofNat 32 (base + i)

private instance (ackSeqNum : BitVec 32) (base : Nat) (bits seq : BitVec 32)
    : Decidable (AckedFrom ackSeqNum base bits seq) :=
  decidable_of_iff
    (∃ i, i < 32 ∧ base + i < 32 ∧ bits.getLsbD i = true
      ∧ seq = ackSeqNum - 1 - BitVec.ofNat 32 (base + i))
    ⟨fun ⟨i, _, h⟩ => ⟨i, h⟩, fun ⟨i, h⟩ => ⟨i, by omega, h⟩⟩

/-- One iteration releases the number of the lowest bit and leaves the shifted rest. -/
private theorem ackedFrom_iff (ackSeqNum : BitVec 32) (base : Nat) (bits seq : BitVec 32)
    (bound : base < 32)
    : AckedFrom ackSeqNum base bits seq
      ↔ (bits.getLsbD 0 = true ∧ seq = ackSeqNum - BitVec.ofNat 32 (base + 1))
        ∨ AckedFrom ackSeqNum (base + 1) (bits >>> 1) seq := by
  have named : ackSeqNum - 1 - BitVec.ofNat 32 base = ackSeqNum - BitVec.ofNat 32 (base + 1) := by
    apply BitVec.eq_of_toNat_eq
    bv_omega
  constructor
  · rintro ⟨i, inside, set, rfl⟩
    cases i with
    | zero => exact .inl ⟨set, named⟩
    | succ i =>
        refine .inr ⟨i, by omega, by simpa [Nat.add_comm] using set, ?_⟩
        rw [Nat.add_right_comm, Nat.add_assoc]
  · rintro (⟨set, rfl⟩ | ⟨i, inside, set, rfl⟩)
    · exact ⟨0, by omega, set, named.symm⟩
    · refine ⟨i + 1, by omega, by simpa [Nat.add_comm] using set, ?_⟩
      rw [Nat.add_right_comm, Nat.add_assoc]

/-- The loop keeps exactly what no remaining bit names, by induction on the iterations
left. Both early exits happen when nothing more could be released.
-/
private theorem releaseAcked_eq (ackSeqNum : BitVec 32) {left base : Nat}
    (bits : BitVec 32) (pending : PendingReliable Payload) (iterations : base + left = 32)
    : Channel.releaseAcked ackSeqNum left bits pending
      = pending.keep fun seq => !decide (AckedFrom ackSeqNum base bits seq) := by
  induction left generalizing base bits pending with
  | zero =>
      have none : ∀ seq, ¬AckedFrom ackSeqNum base bits seq := by
        rintro seq ⟨i, inside, _⟩
        omega
      simp only [Channel.releaseAcked, none, decide_false, Bool.not_false]
      exact pending.keep_true.symm
  | succ left ih =>
      have index : 32 - (left + 1) = base := by omega
      have lowest : bits &&& 1 ≠ 0 ↔ bits.getLsbD 0 = true :=
        and_bit_ne_zero (k := 0) (by omega)
      have next (pending : PendingReliable Payload) :=
        ih (bits >>> 1) pending (show base + 1 + left = 32 by omega)
      simp only [Channel.releaseAcked, index]
      split
      · next zero =>
          have none : ∀ seq, ¬AckedFrom ackSeqNum base bits seq := by
            rintro seq ⟨i, _, set, _⟩
            simp [zero] at set
          simp only [none, decide_false, Bool.not_false]
          exact pending.keep_true.symm
      · split
        · next set =>
            have kept : (pending.release (ackSeqNum - BitVec.ofNat 32 (base + 1))).keep
                  (fun seq => !decide (AckedFrom ackSeqNum (base + 1) (bits >>> 1) seq))
                = pending.keep
                    (fun seq => !decide (AckedFrom ackSeqNum base bits seq)) := by
              rw [PendingReliable.release, PendingReliable.keep_keep]
              refine pending.keep_congr fun seq => ?_
              rw [Bool.eq_iff_iff]
              simp [ackedFrom_iff ackSeqNum base bits seq (by omega), lowest.mp set]
            split
            · next none => rw [← kept, PendingReliable.keep_of_isEmpty none]
            · rw [next, kept]
        · next unset =>
            rw [next]
            refine pending.keep_congr fun seq => ?_
            have clear : ¬bits.getLsbD 0 = true := fun set => unset (lowest.mpr set)
            have same : AckedFrom ackSeqNum (base + 1) (bits >>> 1) seq
                ↔ AckedFrom ackSeqNum base bits seq := by
              rw [ackedFrom_iff ackSeqNum base bits seq (by omega)]
              exact ⟨.inr, fun h => h.resolve_left fun lower => clear lower.1⟩
            simp [same]

/-- An acknowledgement removes exactly the pending packets it names. -/
theorem Channel.processIncomingAck_pendingReliable (channel : Channel Payload)
    (ackSeqNum ackBitfield : BitVec 32)
    : (channel.processIncomingAck ackSeqNum ackBitfield).pendingReliable
      = channel.pendingReliable.keep
          fun seq => !decide (Acknowledges ackSeqNum ackBitfield seq) := by
  have split (seq : BitVec 32) : Acknowledges ackSeqNum ackBitfield seq
      ↔ seq = ackSeqNum ∨ AckedFrom ackSeqNum 0 ackBitfield seq := by
    simp [Acknowledges, AckedFrom]
  have kept : (channel.pendingReliable.release ackSeqNum).keep
        (fun seq => !decide (AckedFrom ackSeqNum 0 ackBitfield seq))
      = channel.pendingReliable.keep
          fun seq => !decide (Acknowledges ackSeqNum ackBitfield seq) := by
    rw [PendingReliable.release, PendingReliable.keep_keep]
    refine channel.pendingReliable.keep_congr fun seq => ?_
    rw [Bool.eq_iff_iff]
    simp [split]
  rw [← kept]
  simp only [Channel.processIncomingAck]
  split
  · next exits =>
      simp only [Bool.or_eq_true, decide_eq_true_eq] at exits
      rcases exits with none | zero
      · rw [PendingReliable.keep_of_isEmpty none]
      · have none : ∀ seq, ¬AckedFrom ackSeqNum 0 ackBitfield seq := by
          rintro seq ⟨i, _, set, _⟩
          simp [zero] at set
        simp only [none, decide_false, Bool.not_false]
        exact (PendingReliable.keep_true _).symm
  · exact releaseAcked_eq ackSeqNum ackBitfield _ (Nat.zero_add 32)

/-- The numbers that remain pending after an acknowledgement. -/
theorem Channel.mem_seqNums_processIncomingAck (channel : Channel Payload)
    {ackSeqNum ackBitfield seq : BitVec 32}
    : seq ∈ (channel.processIncomingAck ackSeqNum ackBitfield).pendingReliable.seqNums
      ↔ seq ∈ channel.pendingReliable.seqNums
        ∧ ¬Acknowledges ackSeqNum ackBitfield seq := by
  rw [processIncomingAck_pendingReliable, PendingReliable.seqNums_keep]
  simp

/-- A datagram releases a pending number only if it is new and acknowledges that number. -/
theorem Channel.mem_seqNums_receive (channel : Channel Payload) (header : UDPHeader)
    (nowMs : BitVec 32) {seq : BitVec 32} (pending : seq ∈ channel.pendingReliable.seqNums)
    : seq ∈ (channel.receive header nowMs).1.pendingReliable.seqNums
      ∨ (channel.receive header nowMs).2 = true
        ∧ Acknowledges header.ackRSeqNum header.ackBitfield seq := by
  have filtered : (channel.updateRecvState header).1.pendingReliable
      = channel.pendingReliable := by
    unfold updateRecvState
    split <;> rfl
  have stamped (channel : Channel Payload) (ts : BitVec 32)
      : (channel.setLastRecvTimestamp ts).pendingReliable = channel.pendingReliable := by
    unfold setLastRecvTimestamp
    split <;> rfl
  have smoothed (channel : Channel Payload) (echoTs : BitVec 32)
      : (channel.updateRtt echoTs nowMs).pendingReliable = channel.pendingReliable := by
    unfold updateRtt
    split
    · rfl
    · split <;> rfl
  rw [← filtered] at pending
  unfold receive
  dsimp only
  split
  · exact .inl pending
  · by_cases named : Acknowledges header.ackRSeqNum header.ackBitfield seq
    · exact .inr ⟨rfl, named⟩
    · refine .inl ?_
      have kept := (Channel.mem_seqNums_processIncomingAck _).mpr ⟨pending, named⟩
      dsimp only
      split <;> split <;> simpa only [smoothed, stamped] using kept

end ExtractionServer.Transport
