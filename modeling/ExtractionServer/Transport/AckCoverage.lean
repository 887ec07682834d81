import ExtractionServer.Transport.ReliableLink

/-! How far a selective acknowledgement reaches: with at most 33 numbers outstanding it covers
all of them, unless the receiver jumps by exactly 32 past a number that is still pending.
-/

namespace ExtractionServer.Transport

open Transition

variable {Payload : Type}

/-- The unacknowledged numbers lie within 33 consecutive ones. -/
def Link.Windowed (link : Link Payload) : Prop :=
  ∀ seq ∈ link.sender.pendingReliable.seqNums,
    link.sender.sendRSeq.toNat - seq.toNat ≤ 32

instance (link : Link Payload) : Decidable link.Windowed :=
  List.decidableBAll
    (fun seq : BitVec 32 => link.sender.sendRSeq.toNat - seq.toNat ≤ 32)
    link.sender.pendingReliable.seqNums

/-- The action delivers the number exactly 32 above the receiver's highest, and that highest
number is still pending at the sender.
-/
def Link.ForgetsPending (link : Link Payload) : LinkAction Payload → Prop
  | .deliver index =>
      ∃ buf ∈ link.forward[index]?,
        link.receiver.rRecv.hasRRecv = true
        ∧ buf.header.rSeqNum.toNat = link.receiver.rRecv.rRecvHighestSeq.toNat + 32
        ∧ link.receiver.rRecv.rRecvHighestSeq ∈ link.sender.pendingReliable.seqNums
  | _ => False

/-- Every pending number is released by the receiver's current acknowledgement when it was
accepted, and would be accepted on redelivery when it was not.
-/
def Link.Covered (link : Link Payload) : Prop :=
  ∀ seq ∈ link.sender.pendingReliable.seqNums,
    (seq ∈ link.accepted →
      seq ∉ (link.sender.processIncomingAck link.receiver.getAckState.1
        link.receiver.getAckState.2).pendingReliable.seqNums)
    ∧ (seq ∉ link.accepted → (updateRRecvState link.receiver.rRecv seq).2 = true)

/-- The runs whose outstanding numbers stay within 33. -/
def windowedSystem (config : LinkConfig Payload)
    : System (Link Payload) (LinkAction Payload) :=
  (linkSystem config).restrict fun _ _ after => after.Windowed

/-- The windowed runs in which the receiver never jumps by 32 past a pending number. -/
def coveredSystem (config : LinkConfig Payload)
    : System (Link Payload) (LinkAction Payload) :=
  (linkSystem config).restrict fun before action after =>
    after.Windowed ∧ ¬before.ForgetsPending action

/-- The receiver's bit for a pending number says whether it was accepted. -/
structure CoverageInv (link : Link Payload) : Prop where
  base : LinkInv link
  windowed : link.Windowed
  marked
    : link.receiver.rRecv.hasRRecv = true →
      ∀ seq ∈ link.sender.pendingReliable.seqNums,
        seq.toNat < link.receiver.rRecv.rRecvHighestSeq.toNat →
        (link.receiver.rRecv.rRecvBitfield.getLsbD
            (link.receiver.rRecv.rRecvHighestSeq.toNat - seq.toNat - 1) = true
          ↔ seq ∈ link.accepted)

/-- A pending number is at most 32 below any sent one, by the window bound. -/
theorem CoverageInv.distance {link : Link Payload} (inv : CoverageInv link)
    {seq other : BitVec 32} (waiting : seq ∈ link.sender.pendingReliable.seqNums)
    (sent : link.Sent other)
    : other.toNat - seq.toNat ≤ 32 := by
  have := inv.windowed seq waiting
  have := sent.2
  omega

/-- The receiver's highest number was sent. -/
theorem CoverageInv.highest_sent {link : Link Payload} (inv : CoverageInv link)
    (started : link.receiver.rRecv.hasRRecv = true)
    : link.Sent link.receiver.rRecv.rRecvHighestSeq :=
  inv.base.acceptedSent _ (inv.base.highest (inv.base.started.mp started))

/-- The marked bits follow one delivery, for each branch of `UpdateRRecvState`. A jump of 32
or more would need a pending number out of reach or the excluded edge.
-/
private theorem CoverageInv.deliver_marked {link : Link Payload} (inv : CoverageInv link)
    {seq : BitVec 32} (sent : link.Sent seq)
    (keeps : link.receiver.rRecv.hasRRecv = true →
      seq.toNat = link.receiver.rRecv.rRecvHighestSeq.toNat + 32 →
      link.receiver.rRecv.rRecvHighestSeq ∉ link.sender.pendingReliable.seqNums)
    {outcome : RRecvState × Bool} (step : RRecvStep link.receiver.rRecv seq outcome)
    : ∀ n ∈ link.sender.pendingReliable.seqNums,
        n.toNat < outcome.1.rRecvHighestSeq.toNat →
        (outcome.1.rRecvBitfield.getLsbD
            (outcome.1.rRecvHighestSeq.toNat - n.toNat - 1) = true
          ↔ n ∈ if outcome.2 then link.accepted ++ [seq] else link.accepted) := by
  intro n waiting below
  cases step with
  | repeated started same => exact inv.marked started n waiting below
  | outside started far => exact inv.marked started n waiting below
  | duplicate started lower inside set => exact inv.marked started n waiting below
  | first fresh =>
      have none : link.accepted = [] := by
        by_contra some
        rw [inv.base.started.mpr some] at fresh
        cases fresh
      simp only [none, if_true, List.nil_append, List.mem_singleton]
      simp only at below
      constructor
      · intro set
        simp at set
      · rintro rfl
        omega
  | jump started above bits =>
      simp only at below ⊢
      have reach := inv.distance waiting sent
      have new : n ≠ seq := by
        rintro rfl
        omega
      rw [bits _ (by omega)]
      simp only [if_true, List.mem_append, List.mem_singleton, new, or_false,
        Bool.and_eq_true, Bool.or_eq_true, decide_eq_true_eq]
      rcases Nat.lt_trichotomy n.toNat link.receiver.rRecv.rRecvHighestSeq.toNat
        with lower | equal | higher
      · rw [← inv.marked started n waiting lower]
        have index : seq.toNat - n.toNat - 1
              - (seq.toNat - link.receiver.rRecv.rRecvHighestSeq.toNat)
            = link.receiver.rRecv.rRecvHighestSeq.toNat - n.toNat - 1 := by
          omega
        rw [index]
        constructor
        · rintro ⟨_, edge | ⟨_, set⟩⟩
          · omega
          · exact set
        · exact fun set => ⟨by omega, .inr ⟨by omega, set⟩⟩
      · have same : n = link.receiver.rRecv.rRecvHighestSeq := BitVec.eq_of_toNat_eq equal
        have notEdge : seq.toNat ≠ link.receiver.rRecv.rRecvHighestSeq.toNat + 32 :=
          fun edge => keeps started edge (same ▸ waiting)
        have taken : n ∈ link.accepted := by
          rw [same]
          exact inv.base.highest (inv.base.started.mp started)
        exact ⟨fun _ => taken, fun _ => ⟨by omega, .inl (by omega)⟩⟩
      · constructor
        · rintro ⟨_, edge | ⟨shifted, _⟩⟩ <;> omega
        · intro taken
          have := inv.base.top n taken
          omega
  | fill started lower inside unset bits =>
      simp only at below ⊢
      have reach := inv.distance waiting (inv.highest_sent started)
      rw [bits _ (by omega)]
      simp only [if_true, List.mem_append, List.mem_singleton, Bool.or_eq_true,
        decide_eq_true_eq]
      rw [inv.marked started n waiting below]
      refine or_congr_right ⟨fun index => ?_, ?_⟩
      · exact BitVec.eq_of_toNat_eq (by omega)
      · rintro rfl
        rfl

/-- Every covered step keeps the coverage invariant, one case for each action. -/
theorem CoverageInv.step {config : LinkConfig Payload} {before after : Link Payload}
    {action : LinkAction Payload} (inv : CoverageInv before)
    (step : (coveredSystem config).step before action after)
    : CoverageInv after := by
  obtain ⟨enabled, windowed, keeps⟩ := step
  refine ⟨inv.base.step enabled, windowed, ?_⟩
  have next : before.next config action = some after := enabled
  cases action with
  | send nowMs pktId payload =>
      simp only [Link.next] at next
      split at next
      · cases next
      · next room =>
          cases next
          intro started seq mem below
          obtain ⟨_, _, stored, _⟩ :=
            before.sender.makeD2CPacketImpl_reliable config nowMs pktId payload rfl
          rcases (stored seq).mp mem with rfl | waiting
          · have bounded := (inv.highest_sent started).2
            have : before.sender.sendRSeq.toNat ≠ 2 ^ 32 - 1 := by
              intro full
              exact room (BitVec.eq_of_toNat_eq (by simpa using full))
            simp only at below
            bv_omega
          · exact inv.marked started seq waiting below
  | retransmit nowMs =>
      cases next
      intro started seq mem below
      refine inv.marked started seq ?_ below
      simpa only [Channel.retransmit, PendingReliable.seqNums_restamp] using mem
  | deliver index =>
      simp only [Link.next] at next
      split at next
      · cases next
      · next buf found =>
          cases next
          intro _
          refine inv.deliver_marked
            (inv.base.forwardSent buf (List.mem_of_getElem? found)) ?_
            (updateRRecvState_step _ _)
          intro started edge waiting
          exact keeps ⟨buf, found, started, edge, waiting⟩
  | reply nowMs pktId reliable payload =>
      cases next
      obtain ⟨same, _, _⟩ :=
        before.receiver.makeD2CPacketImpl_acknowledges config nowMs pktId reliable payload rfl
      simpa only [same] using inv.marked
  | acknowledge index =>
      simp only [Link.next] at next
      split at next
      · cases next
      · next buf found =>
          cases next
          intro started seq mem below
          exact inv.marked started seq
            (before.sender.mem_seqNums_processIncomingAck.mp mem).1 below

/-- The coverage invariant holds in every reachable state of the covered runs. -/
theorem coverageInv_reachable {config : LinkConfig Payload} {link : Link Payload}
    (h : (coveredSystem config).Reachable link)
    : CoverageInv link := by
  have preserved : (coveredSystem config).Inductive CoverageInv := by
    refine ⟨fun state start => ?_, fun before action after inv step => inv.step step⟩
    cases start
    exact ⟨linkInv_initial, by simp [Link.Windowed], by simp⟩
  exact preserved.reachable h

/-- While at most 33 numbers are outstanding and the receiver never jumps by 32 past a pending
one, the current acknowledgement covers what is pending. Witness: the receiver's bits.
-/
theorem covered_of_reachable (config : LinkConfig Payload) (link : Link Payload)
    (reached : (coveredSystem config).Reachable link)
    : link.Covered := by
  have inv := coverageInv_reachable reached
  intro seq waiting
  have sent := inv.base.pendingSent seq waiting
  refine ⟨fun taken mem => ?_, fun untaken => ?_⟩
  · have started := inv.base.started.mpr (List.ne_nil_of_mem taken)
    have reach := inv.distance waiting (inv.highest_sent started)
    apply (link.sender.mem_seqNums_processIncomingAck.mp mem).2
    rcases Nat.lt_or_eq_of_le (inv.base.top seq taken) with below | equal
    · exact acknowledges_below below reach ((inv.marked started seq waiting below).mpr taken)
    · exact .inl (BitVec.eq_of_toNat_eq equal)
  · have step := updateRRecvState_step link.receiver.rRecv seq
    generalize updateRRecvState link.receiver.rRecv seq = outcome at step
    cases step with
    | first fresh => rfl
    | jump started above bits => rfl
    | fill started below inside unset bits => rfl
    | repeated started same =>
        rw [same] at untaken
        exact absurd (inv.base.highest (inv.base.started.mp started)) untaken
    | outside started far =>
        have := inv.distance waiting (inv.highest_sent started)
        omega
    | duplicate started below inside set =>
        exact absurd ((inv.marked started seq waiting below).mp set) untaken

instance (link : Link Payload) (action : LinkAction Payload)
    : Decidable (link.ForgetsPending action) :=
  match action with
  | .deliver index =>
      inferInstanceAs (Decidable (∃ buf ∈ link.forward[index]?, _))
  | .send _ _ _ => .isFalse id
  | .retransmit _ => .isFalse id
  | .reply _ _ _ _ => .isFalse id
  | .acknowledge _ => .isFalse id

/-- A run of 33 sends after which the first and the last packet arrive. -/
def edgeRun : List (LinkAction Unit) :=
  List.replicate 33 (.send 0 1 ()) ++ [.deliver 0, .deliver 32]

def edgeLink : Link Unit :=
  (replay (Link.next unitConfig) (fun _ _ after => decide after.Windowed) {} edgeRun).getD {}

/-- Number 1 was accepted and is pending, but the acknowledgement after the jump to 33 no
longer releases it.
-/
theorem edgeLink_not_covered
    : (windowedSystem unitConfig).Reachable edgeLink ∧ ¬edgeLink.Covered := by
  constructor
  · have run := System.Run.of_replay (fun link => link = ({} : Link Unit))
      (Link.next unitConfig) (fun _ _ after => decide after.Windowed) edgeRun {} {}
      (by decide +kernel)
    exact (run.reachable (.initial rfl)).mono_restrict
      fun _ _ _ _ windowed => of_decide_eq_true windowed
  · intro covered
    have released := (covered 1 (by decide +kernel)).1 (by decide +kernel)
    exact released (by decide +kernel)

/-- In the run of two sends and an early second arrival everything pending is covered. -/
theorem overtakenLink_covered : overtakenLink.Covered := by
  have run := System.Run.of_replay (fun link => link = ({} : Link Unit))
    (Link.next unitConfig)
    (fun before action after => decide (after.Windowed ∧ ¬before.ForgetsPending action))
    overtakenRun {} {} (by decide +kernel)
  exact covered_of_reachable unitConfig overtakenLink
    ((run.reachable (.initial rfl)).mono_restrict
      fun _ _ _ _ guarded => of_decide_eq_true guarded)

end ExtractionServer.Transport
