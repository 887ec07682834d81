import ExtractionServer.Library.Transition
import ExtractionServer.Transport.Acknowledgement

/-! A sender and a receiver of reliable packets over a network that loses, duplicates, delays
and reorders. Every sent number is pending or accepted, and acknowledgements cover what is
pending unless the receive window forgot it.
-/

namespace ExtractionServer.Transport

open Transition

variable {Payload : Type}

-----------------------------------------------------------------------------------------
-- The coupled system
-----------------------------------------------------------------------------------------

/-- Both ends with every datagram ever put on the network in either direction. Anything sent
may be delivered at any later time and any number of times, or never.
-/
structure Link (Payload : Type) where
  sender : Channel Payload := {}
  receiver : Channel Payload := {}
  forward : List (Datagram Payload) := []
  backward : List (Datagram Payload) := []
  accepted : List (BitVec 32) := []

/-- One step of either end, or one delivery. -/
inductive LinkAction (Payload : Type) where
  | send (nowMs : BitVec 32) (pktId : BitVec 16) (payload : Payload)
  | retransmit (nowMs : BitVec 32)
  | deliver (index : Nat)
  | reply (nowMs : BitVec 32) (pktId : BitVec 16) (reliable : Bool) (payload : Payload)
  | acknowledge (index : Nat)

/-- What both ends share: the signature digest, the session id and the client address. -/
structure LinkConfig (Payload : Type) where
  digest : UDPHeader → Payload → BitVec 64
  sessionId : BitVec 16
  address : SockAddr

/-- The link after one action, where that is possible. Sending stops before the 32-bit
counter wraps.
-/
def Link.next (config : LinkConfig Payload) (link : Link Payload)
    : LinkAction Payload → Option (Link Payload)
  | .send nowMs pktId payload =>
      if link.sender.sendRSeq = BitVec.allOnes 32 then none
      else
        let (sender, buf) := link.sender.makeD2CPacketImpl config.digest config.sessionId
          config.address nowMs pktId true payload
        some { link with sender, forward := link.forward ++ [buf] }
  | .retransmit nowMs =>
      let (sender, bufs) := link.sender.retransmit nowMs
      some { link with sender, forward := link.forward ++ bufs.map Prod.fst }
  | .deliver index =>
      match link.forward[index]? with
      | none => none
      | some buf =>
          let (rRecv, fresh) := updateRRecvState link.receiver.rRecv buf.header.rSeqNum
          some
            { link with
              receiver := { link.receiver with rRecv }
              accepted :=
                if fresh then link.accepted ++ [buf.header.rSeqNum] else link.accepted }
  | .reply nowMs pktId reliable payload =>
      let (receiver, buf) := link.receiver.makeD2CPacketImpl config.digest config.sessionId
        config.address nowMs pktId reliable payload
      some { link with receiver, backward := link.backward ++ [buf] }
  | .acknowledge index =>
      match link.backward[index]? with
      | none => none
      | some buf =>
          some
            { link with
              sender :=
                link.sender.processIncomingAck buf.header.ackRSeqNum buf.header.ackBitfield }

/-- All runs of the link from two fresh channels. -/
def linkSystem (config : LinkConfig Payload)
    : System (Link Payload) (LinkAction Payload) :=
  .ofNext (· = {}) (Link.next config)

/-- The reliable numbers handed out so far, which count up from one. -/
def Link.Sent (link : Link Payload) (seq : BitVec 32) : Prop :=
  0 < seq.toNat ∧ seq.toNat ≤ link.sender.sendRSeq.toNat

instance (link : Link Payload) (seq : BitVec 32) : Decidable (link.Sent seq) :=
  inferInstanceAs (Decidable (_ ∧ _))

-----------------------------------------------------------------------------------------
-- What the channel operations do to the pending packets
-----------------------------------------------------------------------------------------

/-- Every stored packet carries the number it is stored under. -/
def PendingReliable.Labelled (pending : PendingReliable Payload) : Prop :=
  ∀ packet ∈ pending.packets, packet.data.header.rSeqNum = packet.seqNum

theorem PendingReliable.Labelled.keep {pending : PendingReliable Payload}
    (h : pending.Labelled) (p : BitVec 32 → Bool)
    : (pending.keep p).Labelled :=
  fun packet mem => h packet (List.mem_of_mem_filter mem)

theorem PendingReliable.Labelled.emplace {pending : PendingReliable Payload}
    (h : pending.Labelled) {packet : PendingPacket Payload}
    (label : packet.data.header.rSeqNum = packet.seqNum)
    : (pending.emplace packet).Labelled := by
  unfold PendingReliable.emplace
  split
  · exact h
  · intro other mem
    rcases List.mem_cons.mp mem with rfl | mem
    · exact label
    · exact h other mem

theorem PendingReliable.Labelled.restamp {pending : PendingReliable Payload}
    (h : pending.Labelled) (due : PendingPacket Payload → Bool) (nowMs : BitVec 32)
    : (pending.restamp due nowMs).Labelled := by
  intro packet mem
  obtain ⟨original, present, rfl⟩ := List.mem_map.mp mem
  split <;> exact h original present

/-- A retransmission scan sends only what is stored. -/
theorem Channel.retransmit_labelled {channel : Channel Payload}
    (h : channel.pendingReliable.Labelled) {nowMs : BitVec 32} {buf : Datagram Payload}
    (mem : buf ∈ (channel.retransmit nowMs).2.map Prod.fst)
    : buf.header.rSeqNum ∈ channel.pendingReliable.seqNums := by
  simp only [retransmit, List.map_map, List.mem_map, Function.comp_apply] at mem
  obtain ⟨packet, candidate, rfl⟩ := mem
  have stored : packet ∈ channel.pendingReliable.packets := List.mem_of_mem_filter candidate
  rw [h packet stored]
  exact List.mem_map_of_mem stored

/-- The next reliable packet takes the next number, under which it is stored and which its
header carries.
-/
theorem Channel.makeD2CPacketImpl_reliable (channel : Channel Payload)
    (config : LinkConfig Payload) (nowMs : BitVec 32) (pktId : BitVec 16) (payload : Payload)
    {after : Channel Payload} {buf : Datagram Payload}
    (made : channel.makeD2CPacketImpl config.digest config.sessionId config.address nowMs
      pktId true payload = (after, buf))
    : after.sendRSeq = channel.sendRSeq + 1
      ∧ buf.header.rSeqNum = channel.sendRSeq + 1
      ∧ (∀ seq, seq ∈ after.pendingReliable.seqNums
          ↔ seq = channel.sendRSeq + 1 ∨ seq ∈ channel.pendingReliable.seqNums)
      ∧ (channel.pendingReliable.Labelled → after.pendingReliable.Labelled) := by
  cases made
  refine ⟨rfl, rfl, fun seq => ?_, fun labelled => labelled.emplace rfl⟩
  exact PendingReliable.mem_seqNums_emplace _ _ _

/-- Any packet made at the receiver acknowledges its window and leaves it alone. -/
theorem Channel.makeD2CPacketImpl_acknowledges (channel : Channel Payload)
    (config : LinkConfig Payload) (nowMs : BitVec 32) (pktId : BitVec 16) (reliable : Bool)
    (payload : Payload) {after : Channel Payload} {buf : Datagram Payload}
    (made : channel.makeD2CPacketImpl config.digest config.sessionId config.address nowMs
      pktId reliable payload = (after, buf))
    : after.rRecv = channel.rRecv
      ∧ buf.header.ackRSeqNum = channel.rRecv.rRecvHighestSeq
      ∧ buf.header.ackBitfield = channel.rRecv.rRecvBitfield := by
  cases reliable <;> cases made <;> exact ⟨rfl, rfl, rfl⟩

-----------------------------------------------------------------------------------------
-- No packet is lost
-----------------------------------------------------------------------------------------

/-- What an acknowledgement may name: numbers the receiver has accepted, or the zero that
stands for nothing received.
-/
def Link.Sound (link : Link Payload) (ackSeqNum ackBitfield : BitVec 32) : Prop :=
  ∀ seq, Acknowledges ackSeqNum ackBitfield seq → seq ∈ link.accepted ∨ seq = 0

/-- Sent numbers are pending or accepted, and every acknowledgement in the receiver or on the
network is sound.
-/
structure LinkInv (link : Link Payload) : Prop where
  pendingSent : ∀ seq ∈ link.sender.pendingReliable.seqNums, link.Sent seq
  labelled : link.sender.pendingReliable.Labelled
  forwardSent : ∀ buf ∈ link.forward, link.Sent buf.header.rSeqNum
  acceptedSent : ∀ seq ∈ link.accepted, link.Sent seq
  window : link.Sound link.receiver.rRecv.rRecvHighestSeq link.receiver.rRecv.rRecvBitfield
  backward : ∀ buf ∈ link.backward, link.Sound buf.header.ackRSeqNum buf.header.ackBitfield
  delivered
    : ∀ seq, link.Sent seq
      → seq ∈ link.sender.pendingReliable.seqNums ∨ seq ∈ link.accepted
  started : link.receiver.rRecv.hasRRecv = true ↔ link.accepted ≠ []
  highest
    : link.accepted ≠ [] → link.receiver.rRecv.rRecvHighestSeq ∈ link.accepted
  top
    : ∀ seq ∈ link.accepted,
        seq.toNat ≤ link.receiver.rRecv.rRecvHighestSeq.toNat

/-- Two fresh channels have sent nothing and acknowledge nothing. -/
theorem linkInv_initial : LinkInv ({} : Link Payload) := by
  have none (seq : BitVec 32) : ¬({} : Link Payload).Sent seq := by
    rintro ⟨positive, bounded⟩
    simp at bounded
    omega
  refine ⟨by simp [PendingReliable.empty, default, PendingReliable.seqNums],
    by simp [PendingReliable.Labelled, PendingReliable.empty, default], by simp, by simp, ?_,
    by simp, fun seq sent => absurd sent (none seq), by simp, by simp, by simp⟩
  rintro seq (rfl | ⟨i, _, set, _⟩)
  · exact .inr rfl
  · simp at set

/-- Sending takes the next number, stores it and puts it on the network. -/
private theorem LinkInv.send (config : LinkConfig Payload) {link : Link Payload}
    (inv : LinkInv link) {nowMs : BitVec 32} {pktId : BitVec 16} {payload : Payload}
    {sender : Channel Payload} {buf : Datagram Payload}
    (room : link.sender.sendRSeq ≠ BitVec.allOnes 32)
    (made : link.sender.makeD2CPacketImpl config.digest config.sessionId config.address nowMs
      pktId true payload = (sender, buf))
    : LinkInv { link with sender, forward := link.forward ++ [buf] } := by
  obtain ⟨counter, label, stored, labelled⟩ :=
    link.sender.makeD2CPacketImpl_reliable config nowMs pktId payload made
  have advance : sender.sendRSeq.toNat = link.sender.sendRSeq.toNat + 1 := by
    rw [counter]
    have : link.sender.sendRSeq.toNat ≠ 2 ^ 32 - 1 := by
      intro full
      exact room (BitVec.eq_of_toNat_eq (by simpa using full))
    bv_omega
  have grows {seq : BitVec 32} (sent : link.Sent seq)
      : ({ link with sender, forward := link.forward ++ [buf] } : Link Payload).Sent seq := by
    obtain ⟨positive, bounded⟩ := sent
    exact ⟨positive, by simp only; omega⟩
  have newest : ({ link with sender, forward := link.forward ++ [buf] } : Link Payload).Sent
      (link.sender.sendRSeq + 1) := by
    rw [← counter]
    exact ⟨by omega, Nat.le_refl _⟩
  refine ⟨?_, labelled inv.labelled, ?_, fun seq mem => grows (inv.acceptedSent seq mem),
    inv.window, inv.backward, ?_, inv.started, inv.highest, inv.top⟩
  · intro seq mem
    rcases (stored seq).mp mem with rfl | mem
    · exact newest
    · exact grows (inv.pendingSent seq mem)
  · intro other mem
    rcases List.mem_append.mp mem with mem | mem
    · exact grows (inv.forwardSent other mem)
    · rw [List.mem_singleton.mp mem, label]
      exact newest
  · rintro seq ⟨positive, bounded⟩
    simp only [stored] at bounded ⊢
    rcases Nat.lt_or_ge link.sender.sendRSeq.toNat seq.toNat with new | old
    · left
      left
      rw [← counter]
      exact BitVec.eq_of_toNat_eq (by omega)
    · exact (inv.delivered seq ⟨positive, old⟩).imp_left .inr

/-- A retransmission scan repeats stored packets. -/
private theorem LinkInv.retransmit {link : Link Payload} (inv : LinkInv link)
    (nowMs : BitVec 32)
    : LinkInv
        { link with
          sender := (link.sender.retransmit nowMs).1
          forward := link.forward ++ (link.sender.retransmit nowMs).2.map Prod.fst } := by
  have same : (link.sender.retransmit nowMs).1.pendingReliable.seqNums
      = link.sender.pendingReliable.seqNums :=
    PendingReliable.seqNums_restamp _ _ _
  refine ⟨?_, inv.labelled.restamp _ _, ?_, inv.acceptedSent, inv.window, inv.backward, ?_,
    inv.started, inv.highest, inv.top⟩
  · intro seq mem
    simp only [same] at mem
    exact inv.pendingSent seq mem
  · intro buf mem
    rcases List.mem_append.mp mem with mem | mem
    · exact inv.forwardSent buf mem
    · exact inv.pendingSent _ (link.sender.retransmit_labelled inv.labelled mem)
  · intro seq sent
    simp only [same]
    exact inv.delivered seq sent

/-- A delivery accepts at most the number that arrived, and the window forgets or marks but
never invents. One case for each branch of `UpdateRRecvState`.
-/
private theorem LinkInv.deliver {link : Link Payload} (inv : LinkInv link)
    {seq : BitVec 32} (sent : link.Sent seq) {outcome : RRecvState × Bool}
    (step : RRecvStep link.receiver.rRecv seq outcome)
    : LinkInv
        { link with
          receiver := { link.receiver with rRecv := outcome.1 }
          accepted := if outcome.2 then link.accepted ++ [seq] else link.accepted } := by
  have grows {n : BitVec 32} (mem : n ∈ link.accepted)
      : n ∈ if outcome.2 then link.accepted ++ [seq] else link.accepted := by
    split
    · exact List.mem_append_left _ mem
    · exact mem
  have only {n : BitVec 32}
      (mem : n ∈ if outcome.2 then link.accepted ++ [seq] else link.accepted)
      : n ∈ link.accepted ∨ (n = seq ∧ outcome.2 = true) := by
    split at mem
    · next fresh =>
        rcases List.mem_append.mp mem with mem | mem
        · exact .inl mem
        · exact .inr ⟨List.mem_singleton.mp mem, fresh⟩
    · exact .inl mem
  refine
    { pendingSent := inv.pendingSent
      labelled := inv.labelled
      forwardSent := inv.forwardSent
      acceptedSent := ?_
      window := ?_
      backward := ?_
      delivered := fun n old => (inv.delivered n old).imp_right grows
      started := ?_
      highest := ?_
      top := ?_ }
  · intro n mem
    rcases only mem with mem | ⟨rfl, _⟩
    · exact inv.acceptedSent n mem
    · exact sent
  · intro n named
    rcases step.acknowledges named with old | ⟨rfl, fresh⟩
    · exact (inv.window n old).imp_left grows
    · refine .inl ?_
      simp [fresh]
  · exact fun buf mem n named => (inv.backward buf mem n named).imp_left grows
  · cases step with
    | first fresh => simp
    | jump started above bits => simp
    | fill started below inside unset bits => simp
    | repeated started same => exact inv.started
    | outside started below => exact inv.started
    | duplicate started below inside set => exact inv.started
  · intro some
    cases step with
    | first fresh => simp
    | jump started above bits => simp
    | fill started below inside unset bits =>
        exact grows (inv.highest (inv.started.mp started))
    | repeated started same => exact inv.highest some
    | outside started below => exact inv.highest some
    | duplicate started below inside set => exact inv.highest some
  · intro n mem
    rcases only mem with old | ⟨rfl, fresh⟩
    · have := inv.top n old
      cases step with
      | first fresh =>
          have started := inv.started.mpr (List.ne_nil_of_mem old)
          rw [fresh] at started
          cases started
      | jump started above bits =>
          simp only
          omega
      | fill started below inside unset bits => exact this
      | repeated started same => exact this
      | outside started below => exact this
      | duplicate started below inside set => exact this
    · cases step with
      | first fresh => exact Nat.le_refl _
      | jump started above bits => exact Nat.le_refl _
      | fill started below inside unset bits => exact Nat.le_of_lt below
      | repeated started same => cases fresh
      | outside started below => cases fresh
      | duplicate started below inside set => cases fresh

/-- A reply carries the window's own acknowledgement. -/
private theorem LinkInv.reply (config : LinkConfig Payload) {link : Link Payload}
    (inv : LinkInv link) {nowMs : BitVec 32} {pktId : BitVec 16} {reliable : Bool}
    {payload : Payload} {receiver : Channel Payload} {buf : Datagram Payload}
    (made : link.receiver.makeD2CPacketImpl config.digest config.sessionId config.address
      nowMs pktId reliable payload = (receiver, buf))
    : LinkInv { link with receiver, backward := link.backward ++ [buf] } := by
  obtain ⟨same, highest, bitfield⟩ :=
    link.receiver.makeD2CPacketImpl_acknowledges config nowMs pktId reliable payload made
  refine
    { pendingSent := inv.pendingSent
      labelled := inv.labelled
      forwardSent := inv.forwardSent
      acceptedSent := inv.acceptedSent
      window := by simpa only [Link.Sound, same] using inv.window
      backward := ?_
      delivered := inv.delivered
      started := by simpa only [same] using inv.started
      highest := by simpa only [same] using inv.highest
      top := by simpa only [same] using inv.top }
  intro other mem
  rcases List.mem_append.mp mem with mem | mem
  · exact inv.backward other mem
  · rw [List.mem_singleton.mp mem, highest, bitfield]
    exact inv.window

/-- A sound acknowledgement releases only accepted numbers. -/
private theorem LinkInv.acknowledge {link : Link Payload} (inv : LinkInv link)
    {ackSeqNum ackBitfield : BitVec 32} (sound : link.Sound ackSeqNum ackBitfield)
    : LinkInv
        { link with sender := link.sender.processIncomingAck ackSeqNum ackBitfield } := by
  have counter : (link.sender.processIncomingAck ackSeqNum ackBitfield).sendRSeq
      = link.sender.sendRSeq := by
    simp only [Channel.processIncomingAck]
    split <;> rfl
  have same {seq : BitVec 32}
      : ({ link with sender := link.sender.processIncomingAck ackSeqNum ackBitfield }
          : Link Payload).Sent seq ↔ link.Sent seq := by
    simp only [Link.Sent, counter]
  refine
    { pendingSent := ?_
      labelled := ?_
      forwardSent := fun buf mem => same.mpr (inv.forwardSent buf mem)
      acceptedSent := fun seq mem => same.mpr (inv.acceptedSent seq mem)
      window := inv.window
      backward := inv.backward
      delivered := ?_
      started := inv.started
      highest := inv.highest
      top := inv.top }
  · intro seq mem
    exact same.mpr
      (inv.pendingSent seq (link.sender.mem_seqNums_processIncomingAck.mp mem).1)
  · simp only [Channel.processIncomingAck_pendingReliable]
    exact inv.labelled.keep _
  · intro seq sent
    have positive := sent.1
    rcases inv.delivered seq (same.mp sent) with waiting | taken
    · by_cases named : Acknowledges ackSeqNum ackBitfield seq
      · rcases sound seq named with taken | rfl
        · exact .inr taken
        · simp at positive
      · exact .inl (link.sender.mem_seqNums_processIncomingAck.mpr ⟨waiting, named⟩)
    · exact .inr taken

/-- Every step of the link keeps the invariant, one case for each action. -/
theorem LinkInv.step {config : LinkConfig Payload} {before after : Link Payload}
    {action : LinkAction Payload} (inv : LinkInv before)
    (step : before.next config action = some after)
    : LinkInv after := by
  cases action with
  | send nowMs pktId payload =>
      simp only [Link.next] at step
      split at step
      · cases step
      · next room =>
          cases step
          exact inv.send config room rfl
  | retransmit nowMs =>
      cases step
      exact inv.retransmit nowMs
  | deliver index =>
      simp only [Link.next] at step
      split at step
      · cases step
      · next buf found =>
          cases step
          exact inv.deliver (inv.forwardSent buf (List.mem_of_getElem? found))
            (updateRRecvState_step _ _)
  | reply nowMs pktId reliable payload =>
      cases step
      exact inv.reply config rfl
  | acknowledge index =>
      simp only [Link.next] at step
      split at step
      · cases step
      · next buf found =>
          cases step
          exact inv.acknowledge (inv.backward buf (List.mem_of_getElem? found))

/-- The invariant holds in every reachable state of the link. -/
theorem linkInv_reachable {config : LinkConfig Payload} {link : Link Payload}
    (h : (linkSystem config).Reachable link)
    : LinkInv link := by
  have preserved : (linkSystem config).Inductive LinkInv := by
    refine ⟨fun state start => ?_, fun before action after inv step => inv.step step⟩
    cases start
    exact linkInv_initial
  exact preserved.reachable h

/-- Every sent number is still pending or was accepted, in every interleaving of sends, scans,
deliveries and acknowledgements; and an acknowledgement removes exactly the packets it names.
-/
theorem sent_pending_or_accepted (config : LinkConfig Payload)
    : (∀ link : Link Payload, (linkSystem config).Reachable link →
        ∀ seq, link.Sent seq →
          link.sender.isReliablePending seq = true ∨ seq ∈ link.accepted)
      ∧ ∀ (channel : Channel Payload) (ackSeqNum ackBitfield : BitVec 32),
          (channel.processIncomingAck ackSeqNum ackBitfield).pendingReliable.packets
          = channel.pendingReliable.packets.filter
              fun packet => !decide (Acknowledges ackSeqNum ackBitfield packet.seqNum) := by
  refine ⟨fun link reached seq sent => ?_, fun channel ackSeqNum ackBitfield => ?_⟩
  · rw [Channel.isReliablePending, PendingReliable.contains_iff]
    exact (linkInv_reachable reached).delivered seq sent
  · rw [Channel.processIncomingAck_pendingReliable]
    rfl

/-- A link that carries no payload. -/
def unitConfig : LinkConfig Unit :=
  { digest := fun _ _ => 0, sessionId := 0, address := {} }

/-- Two packets are sent, the second arrives and its acknowledgement comes back: the first is
still pending and the second was accepted.
-/
def overtakenRun : List (LinkAction Unit) :=
  [.send 0 1 (), .send 0 1 (), .deliver 1, .reply 0 3 false (), .acknowledge 0]

def overtakenLink : Link Unit :=
  (replay (Link.next unitConfig) (fun _ _ _ => true) {} overtakenRun).getD {}

theorem overtakenLink_sent
    : (overtakenLink.sender.isReliablePending 1 = true ∨ 1 ∈ overtakenLink.accepted)
      ∧ (overtakenLink.sender.isReliablePending 2 = true ∨ 2 ∈ overtakenLink.accepted) := by
  have run := System.Run.of_replay (fun link => link = ({} : Link Unit))
    (Link.next unitConfig) (fun _ _ _ => true) overtakenRun {} {} (by decide)
  have reached : (linkSystem unitConfig).Reachable overtakenLink :=
    (run.reachable (.initial rfl)).of_restrict
  exact ⟨(sent_pending_or_accepted unitConfig).1 overtakenLink reached 1 (by decide),
    (sent_pending_or_accepted unitConfig).1 overtakenLink reached 2 (by decide)⟩

end ExtractionServer.Transport
