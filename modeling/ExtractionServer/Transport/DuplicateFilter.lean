import ExtractionServer.Library.Acceptor
import ExtractionServer.Transport.ReceiveWindow

/-! Duplicate detection on a session's reliable channel, over every sequence of deliveries.
The window forgets one number, the old highest, at a jump of exactly 32.
-/

namespace ExtractionServer.Transport

open Acceptor

-----------------------------------------------------------------------------------------
-- Arrivals that reach the forgotten edge
-----------------------------------------------------------------------------------------

/-- The number `n` was the highest until `n + 32` arrived, and nothing higher has arrived
since.
-/
def EdgeJump (arrivals : List (BitVec 32)) (n : BitVec 32) : Prop :=
  ∃ before between,
    arrivals = before ++ (n + 32) :: between
    ∧ n ∈ before
    ∧ (∀ m ∈ before, m ≤ n)
    ∧ n.toNat + 32 < 2 ^ 32
    ∧ ∀ m ∈ between, m ≤ n + 32

/-- A number arrives again while it lies exactly 32 below the highest and was the highest
just before that one.
-/
def EdgeRedelivery (arrivals : List (BitVec 32)) : Prop :=
  ∃ before n rest, arrivals = before ++ n :: rest ∧ EdgeJump before n

/-- The jump's own number is among the arrivals. -/
theorem EdgeJump.mem {arrivals : List (BitVec 32)} {n : BitVec 32}
    (h : EdgeJump arrivals n)
    : n + 32 ∈ arrivals ∧ (n + 32).toNat = n.toNat + 32 := by
  obtain ⟨before, between, rfl, _, _, room, _⟩ := h
  exact ⟨by simp, by bv_omega⟩

/-- A later arrival that is not above the jump keeps the edge. -/
theorem EdgeJump.concat {arrivals : List (BitVec 32)} {n seq : BitVec 32}
    (h : EdgeJump arrivals n) (notAbove : seq ≤ n + 32)
    : EdgeJump (arrivals ++ [seq]) n := by
  obtain ⟨before, between, rfl, present, top, room, quiet⟩ := h
  refine ⟨before, between ++ [seq], by simp, present, top, room, ?_⟩
  intro m mem
  rcases List.mem_append.mp mem with mem | mem
  · exact quiet m mem
  · rwa [List.mem_singleton.mp mem]

-----------------------------------------------------------------------------------------
-- The window after a stream of arrivals
-----------------------------------------------------------------------------------------

/-- The window after a stream of arrivals at a session that has received nothing. -/
def windowAfter (arrivals : List (BitVec 32)) : RRecvState :=
  after updateRRecvState {} arrivals

/-- The arrivals that `UpdateRRecvState` reports as new. -/
def acceptedOf (arrivals : List (BitVec 32)) : List (BitVec 32) :=
  accepted updateRRecvState {} arrivals

theorem windowAfter_concat (arrivals : List (BitVec 32)) (seq : BitVec 32)
    : windowAfter (arrivals ++ [seq]) = (updateRRecvState (windowAfter arrivals) seq).1 :=
  after_concat arrivals seq

theorem acceptedOf_concat (arrivals : List (BitVec 32)) (seq : BitVec 32)
    : acceptedOf (arrivals ++ [seq])
      = acceptedOf arrivals
        ++ if (updateRRecvState (windowAfter arrivals) seq).2 then [seq] else [] :=
  accepted_concat arrivals seq

theorem mem_of_mem_acceptedOf {arrivals : List (BitVec 32)} {n : BitVec 32}
    (h : n ∈ acceptedOf arrivals)
    : n ∈ arrivals :=
  mem_of_mem_accepted h

/-- The window's highest number is the greatest arrival, and an accepted number that lies
within the window is marked unless a jump to the edge forgot it.
-/
structure WindowTracks (arrivals : List (BitVec 32)) : Prop where
  started : (windowAfter arrivals).hasRRecv = true ↔ arrivals ≠ []
  highest : arrivals ≠ [] → (windowAfter arrivals).rRecvHighestSeq ∈ acceptedOf arrivals
  top : ∀ m ∈ arrivals, m.toNat ≤ (windowAfter arrivals).rRecvHighestSeq.toNat
  marked
    : ∀ n ∈ acceptedOf arrivals,
        n.toNat < (windowAfter arrivals).rRecvHighestSeq.toNat
        → (windowAfter arrivals).rRecvHighestSeq.toNat - n.toNat ≤ 32
        → (windowAfter arrivals).rRecvBitfield.getLsbD
              ((windowAfter arrivals).rRecvHighestSeq.toNat - n.toNat - 1) = true
          ∨ EdgeJump arrivals n

/-- An arrival that the window rejects keeps it tracking, since it is not above the highest
number.
-/
private theorem WindowTracks.reject {arrivals : List (BitVec 32)} {seq : BitVec 32}
    (tracks : WindowTracks arrivals) (started : (windowAfter arrivals).hasRRecv = true)
    (same : updateRRecvState (windowAfter arrivals) seq = (windowAfter arrivals, false))
    (notAbove : seq.toNat ≤ (windowAfter arrivals).rRecvHighestSeq.toNat)
    : WindowTracks (arrivals ++ [seq]) := by
  have state : windowAfter (arrivals ++ [seq]) = windowAfter arrivals := by
    rw [windowAfter_concat, same]
  have news : acceptedOf (arrivals ++ [seq]) = acceptedOf arrivals := by
    rw [acceptedOf_concat, same]
    simp
  refine ⟨by simpa [state] using started, ?_, ?_, ?_⟩
  · intro _
    rw [state, news]
    exact tracks.highest (tracks.started.mp started)
  · intro m mem
    rw [state]
    rcases List.mem_append.mp mem with mem | mem
    · exact tracks.top m mem
    · rwa [List.mem_singleton.mp mem]
  · intro n mem below inside
    rw [news] at mem
    rw [state] at below inside ⊢
    refine (tracks.marked n mem below inside).imp_right fun edge => edge.concat ?_
    have := tracks.top _ edge.mem.1
    have := edge.mem.2
    bv_omega

/-- The window tracks every stream of arrivals, by induction on the stream from its end and
one case for each branch of `UpdateRRecvState`.
-/
theorem windowTracks (arrivals : List (BitVec 32)) : WindowTracks arrivals := by
  induction arrivals using List.reverseRecOn with
  | nil =>
      exact ⟨by simp [windowAfter], by simp, by simp, by simp [acceptedOf]⟩
  | append_singleton arrivals seq tracks =>
      have step := updateRRecvState_step (windowAfter arrivals) seq
      generalize outcome : updateRRecvState (windowAfter arrivals) seq = result at step
      have state : windowAfter (arrivals ++ [seq]) = result.1 := by
        rw [windowAfter_concat, outcome]
      have news : acceptedOf (arrivals ++ [seq])
          = acceptedOf arrivals ++ if result.2 then [seq] else [] := by
        rw [acceptedOf_concat, outcome]
      cases step with
      | repeated started same => exact tracks.reject started outcome (Nat.le_of_eq (by rw [same]))
      | outside started below => exact tracks.reject started outcome (by omega)
      | duplicate started below inside set => exact tracks.reject started outcome (by omega)
      | first fresh =>
          have none : arrivals = [] := by
            by_contra some
            rw [tracks.started.mpr some] at fresh
            cases fresh
          subst none
          rw [List.nil_append] at state news ⊢
          refine ⟨by simp [state], ?_, ?_, ?_⟩
          · intro _
            rw [state, news]
            simp
          · intro m mem
            obtain rfl := List.mem_singleton.mp mem
            exact Nat.le_of_eq (by rw [state])
          · intro n mem below
            obtain rfl : n = seq := by
              rw [news] at mem
              simpa [acceptedOf] using mem
            rw [state] at below
            exact absurd below (Nat.lt_irrefl _)
      | @jump bitfield started above bits =>
          have some := tracks.started.mp started
          refine ⟨by simp [state], ?_, ?_, ?_⟩
          · intro _
            rw [state, news]
            simp
          · intro m mem
            rw [state]
            rcases List.mem_append.mp mem with mem | mem
            · exact Nat.le_trans (tracks.top m mem) (Nat.le_of_lt above)
            · obtain rfl := List.mem_singleton.mp mem
              exact Nat.le_of_eq rfl
          · intro n mem below inside
            rw [state] at below inside ⊢
            simp only at below inside ⊢
            simp only [news, if_true, List.mem_append, List.mem_singleton] at mem
            rcases mem with mem | rfl
            · have top := tracks.top n (mem_of_mem_acceptedOf mem)
              have whole := tracks.highest some
              rw [bits _ (by omega)]
              rcases Nat.lt_or_eq_of_le top with lower | equal
              · rcases tracks.marked n mem lower (by omega) with set | edge
                · left
                  have index : seq.toNat - n.toNat - 1
                        - (seq.toNat - (windowAfter arrivals).rRecvHighestSeq.toNat)
                      = (windowAfter arrivals).rRecvHighestSeq.toNat - n.toNat - 1 := by
                    omega
                  rw [index, set]
                  simp only [Bool.and_true, Bool.and_eq_true, Bool.or_eq_true,
                    decide_eq_true_eq]
                  omega
                · have := tracks.top _ edge.mem.1
                  have := edge.mem.2
                  omega
              · have same : n = (windowAfter arrivals).rRecvHighestSeq :=
                  BitVec.eq_of_toNat_eq equal
                by_cases near : seq.toNat - n.toNat < 32
                · left
                  rw [same] at near ⊢
                  simp only [Bool.and_eq_true, Bool.or_eq_true, decide_eq_true_eq]
                  omega
                · right
                  have edge : seq = n + 32 := by bv_omega
                  refine ⟨arrivals, [], by rw [edge], mem_of_mem_acceptedOf mem, ?_, ?_, ?_⟩
                  · intro m arrived
                    have := tracks.top m arrived
                    bv_omega
                  · bv_omega
                  · simp
            · omega
      | @fill bitfield started below inside unset bits =>
          have some := tracks.started.mp started
          refine ⟨by simp [state], ?_, ?_, ?_⟩
          · intro _
            rw [state, news]
            exact List.mem_append_left _ (tracks.highest some)
          · intro m mem
            rw [state]
            rcases List.mem_append.mp mem with mem | mem
            · exact tracks.top m mem
            · rw [List.mem_singleton.mp mem]
              simp only
              omega
          · intro n mem lower close
            rw [state] at lower close ⊢
            simp only at lower close ⊢
            rw [bits _ (by omega)]
            simp only [news, if_true, List.mem_append, List.mem_singleton] at mem
            rcases mem with mem | rfl
            · rcases tracks.marked n mem lower close with set | edge
              · exact .inl (by rw [set]; rfl)
              · refine .inr (edge.concat ?_)
                have := tracks.top _ edge.mem.1
                have := edge.mem.2
                bv_omega
            · exact .inl (by simp)

-----------------------------------------------------------------------------------------
-- Exactly when nothing is accepted twice
-----------------------------------------------------------------------------------------

/-- An accepted number stays accepted when more arrives. -/
theorem mem_acceptedOf_append {arrivals more : List (BitVec 32)} {n : BitVec 32}
    (h : n ∈ acceptedOf arrivals)
    : n ∈ acceptedOf (arrivals ++ more) := by
  rw [acceptedOf, accepted_append]
  exact List.mem_append_left _ h

/-- After a jump to the edge the window's top is the jump's number, by the bound on every
arrival.
-/
theorem EdgeJump.highest {arrivals : List (BitVec 32)} {n : BitVec 32}
    (h : EdgeJump arrivals n)
    : (windowAfter arrivals).rRecvHighestSeq = n + 32 := by
  have tracks := windowTracks arrivals
  obtain ⟨arrived, distance⟩ := h.mem
  have upper := tracks.top _ arrived
  have lower : (windowAfter arrivals).rRecvHighestSeq ≤ n + 32 := by
    have mem := mem_of_mem_acceptedOf (tracks.highest (List.ne_nil_of_mem arrived))
    obtain ⟨before, between, rfl, _, top, room, quiet⟩ := h
    rcases List.mem_append.mp mem with mem | mem
    · have := top _ mem
      bv_omega
    · rcases List.mem_cons.mp mem with same | mem
      · rw [same]
        exact BitVec.le_refl _
      · exact quiet _ mem
  apply BitVec.eq_of_toNat_eq
  bv_omega

/-- The old highest number was accepted before the jump. -/
theorem EdgeJump.accepted {arrivals : List (BitVec 32)} {n : BitVec 32}
    (h : EdgeJump arrivals n)
    : n ∈ acceptedOf arrivals := by
  obtain ⟨before, between, rfl, present, top, _, _⟩ := h
  have tracks := windowTracks before
  have highest := tracks.highest (List.ne_nil_of_mem present)
  have same : (windowAfter before).rRecvHighestSeq = n := by
    have := top _ (mem_of_mem_acceptedOf highest)
    have := tracks.top n present
    apply BitVec.eq_of_toNat_eq
    bv_omega
  rw [same] at highest
  exact mem_acceptedOf_append highest

/-- While the edge stands, the old highest number is unmarked or has been accepted twice
already, by induction on the arrivals since the jump.
-/
theorem EdgeJump.forgotten {arrivals : List (BitVec 32)} {n : BitVec 32}
    (h : EdgeJump arrivals n)
    : (windowAfter arrivals).rRecvBitfield.getLsbD 31 = false
      ∨ ¬(acceptedOf arrivals).Nodup := by
  obtain ⟨before, between, rfl, present, top, room, quiet⟩ := h
  induction between using List.reverseRecOn with
  | nil =>
      left
      have base : EdgeJump (before ++ [n + 32]) n :=
        ⟨before, [], rfl, present, top, room, by simp⟩
      have tracks := windowTracks before
      have arrived := tracks.top n present
      have highest := top _ (mem_of_mem_acceptedOf
        (tracks.highest (List.ne_nil_of_mem present)))
      have distance := base.mem.2
      have step := updateRRecvState_step (windowAfter before) (n + 32)
      rw [windowAfter_concat]
      generalize updateRRecvState (windowAfter before) (n + 32) = result at step
      cases step with
      | first fresh => simp
      | jump started above bits =>
          rw [bits 31 (by omega)]
          have edge : ¬ (n + 32).toNat - (windowAfter before).rRecvHighestSeq.toNat < 32 := by
            bv_omega
          rw [decide_eq_false edge]
          rfl
      | repeated started same => bv_omega
      | outside started below => bv_omega
      | duplicate started below inside set => bv_omega
      | fill started below inside unset bits => bv_omega
  | append_singleton between seq ih =>
      have earlier : EdgeJump (before ++ (n + 32) :: between) n :=
        ⟨before, between, rfl, present, top, room,
          fun m mem => quiet m (List.mem_append_left _ mem)⟩
      have notAbove : seq ≤ n + 32 := quiet seq (by simp)
      have distance := earlier.mem.2
      have highest := earlier.highest
      rw [← List.cons_append, ← List.append_assoc, windowAfter_concat, acceptedOf_concat]
      have step := updateRRecvState_step (windowAfter (before ++ (n + 32) :: between)) seq
      generalize updateRRecvState (windowAfter (before ++ (n + 32) :: between)) seq = result
        at step
      rcases ih fun m mem => quiet m (List.mem_append_left _ mem) with unmarked | doubled
      · cases step with
        | repeated started same => exact .inl unmarked
        | outside started below => exact .inl unmarked
        | duplicate started below inside set => exact .inl unmarked
        | first fresh => exact .inl (by simp)
        | jump started above bits =>
            rw [highest] at above
            bv_omega
        | fill started below inside unset bits =>
            by_cases same : seq = n
            · right
              subst same
              intro nodup
              exact (List.nodup_append'.mp nodup).2.2 earlier.accepted (by simp)
            · left
              rw [bits 31 (by omega), unmarked, highest]
              have : seq.toNat ≠ n.toNat := fun equal => same (BitVec.eq_of_toNat_eq equal)
              simp only [Bool.false_or, decide_eq_false_iff_not]
              rw [highest] at below inside
              omega
      · exact .inr fun nodup => doubled (List.nodup_append'.mp nodup).1

/-- `UpdateRRecvState` accepts no number twice exactly when no number arrives again at the
edge. Witness: the marked window in one direction, the forgotten bit in the other.
-/
theorem acceptedOf_nodup_iff (arrivals : List (BitVec 32))
    : (acceptedOf arrivals).Nodup ↔ ¬EdgeRedelivery arrivals := by
  constructor
  · rintro nodup ⟨before, n, rest, rfl, edge⟩
    have distance := edge.mem.2
    have highest := edge.highest
    have twice : ¬(acceptedOf (before ++ [n])).Nodup := by
      rw [acceptedOf_concat]
      rcases edge.forgotten with unmarked | doubled
      · have step := updateRRecvState_step (windowAfter before) n
        generalize updateRRecvState (windowAfter before) n = result at step
        have again (accepts : result.2 = true)
            : ¬(acceptedOf before ++ if result.2 then [n] else []).Nodup := by
          intro nodup
          rw [accepts] at nodup
          exact (List.nodup_append'.mp nodup).2.2 edge.accepted (by simp)
        cases step with
        | first fresh => exact again rfl
        | jump started above bits => exact again rfl
        | fill started below inside unset bits => exact again rfl
        | repeated started same => bv_omega
        | outside started below => bv_omega
        | duplicate started below inside set =>
            have index : (windowAfter before).rRecvHighestSeq.toNat - n.toNat - 1 = 31 := by
              rw [highest]
              omega
            rw [index, unmarked] at set
            cases set
      · exact fun nodup => doubled (List.nodup_append'.mp nodup).1
    rw [List.append_cons, acceptedOf, accepted_append] at nodup
    exact twice (List.nodup_append'.mp nodup).1
  · intro quiet
    refine accepted_nodup fun before item rest split old => ?_
    have tracks := windowTracks before
    have arrived := tracks.top item (mem_of_mem_acceptedOf old)
    have step := updateRRecvState_step (windowAfter before) item
    change (updateRRecvState (windowAfter before) item).2 = false
    generalize updateRRecvState (windowAfter before) item = result at step
    cases step with
    | repeated started same => rfl
    | outside started below => rfl
    | duplicate started below inside set => rfl
    | jump started above bits => omega
    | first fresh =>
        have := tracks.started.mpr (List.ne_nil_of_mem (mem_of_mem_acceptedOf old))
        rw [fresh] at this
        cases this
    | fill started below inside unset bits =>
        rcases tracks.marked item old below inside with set | edge
        · rw [unset] at set
          cases set
        · exact absurd ⟨before, item, rest, split, edge⟩ quiet

-----------------------------------------------------------------------------------------
-- Dispatch on a channel
-----------------------------------------------------------------------------------------

variable {Payload : Type}

/-- Everything that happens on one session's channel: authenticated datagrams arrive, the
server sends, scans for retransmission or drops its pending packets.
-/
inductive ChannelEvent (Payload : Type) where
  | receive (header : UDPHeader) (nowMs : BitVec 32)
  | send (digest : UDPHeader → Payload → BitVec 64) (sessionId : BitVec 16)
      (address : SockAddr) (nowMs : BitVec 32) (pktId : BitVec 16) (reliable : Bool)
      (payload : Payload)
  | retransmit (nowMs : BitVec 32)
  | clearPendingReliableExcept (keepSeq : BitVec 32)

/-- The channel after one event. -/
def Channel.apply (channel : Channel Payload) : ChannelEvent Payload → Channel Payload
  | .receive header nowMs => (channel.receive header nowMs).1
  | .send digest sessionId address nowMs pktId reliable payload =>
      (channel.makeD2CPacketImpl digest sessionId address nowMs pktId reliable payload).1
  | .retransmit nowMs => (channel.retransmit nowMs).1
  | .clearPendingReliableExcept keepSeq => channel.clearPendingReliableExcept keepSeq

/-- The reliable numbers whose handlers are called during a run of events. -/
def dispatchedReliable (channel : Channel Payload)
    : List (ChannelEvent Payload) → List (BitVec 32)
  | [] => []
  | event :: rest =>
      let later := dispatchedReliable (channel.apply event) rest
      match event with
      | .receive header nowMs =>
          if header.isReliable && (channel.receive header nowMs).2 then
            header.rSeqNum :: later
          else later
      | _ => later

/-- The reliable numbers that arrive during a run of events. -/
def reliableArrivals (events : List (ChannelEvent Payload)) : List (BitVec 32) :=
  events.filterMap fun
    | .receive header _ => if header.isReliable then some header.rSeqNum else none
    | _ => none

@[simp] theorem Channel.processIncomingAck_rRecv (channel : Channel Payload)
    (ackSeqNum ackBitfield : BitVec 32)
    : (channel.processIncomingAck ackSeqNum ackBitfield).rRecv = channel.rRecv := by
  simp only [processIncomingAck]
  split <;> rfl

@[simp] theorem Channel.setLastRecvTimestamp_rRecv (channel : Channel Payload)
    (ts : BitVec 32)
    : (channel.setLastRecvTimestamp ts).rRecv = channel.rRecv := by
  unfold setLastRecvTimestamp
  split <;> rfl

@[simp] theorem Channel.updateRtt_rRecv (channel : Channel Payload)
    (echoTs nowMs : BitVec 32)
    : (channel.updateRtt echoTs nowMs).rRecv = channel.rRecv := by
  unfold updateRtt
  split
  · rfl
  · split <;> rfl

@[simp] theorem Channel.makeD2CPacketImpl_rRecv (channel : Channel Payload)
    (digest : UDPHeader → Payload → BitVec 64) (sessionId : BitVec 16) (address : SockAddr)
    (nowMs : BitVec 32) (pktId : BitVec 16) (reliable : Bool) (payload : Payload)
    : (channel.makeD2CPacketImpl digest sessionId address nowMs pktId reliable payload).1.rRecv
      = channel.rRecv := by
  cases reliable <;> rfl

/-- A reliable header is dispatched exactly when the window accepts its number. -/
theorem Channel.receive_reliable (channel : Channel Payload) {header : UDPHeader}
    (reliable : header.isReliable = true) (nowMs : BitVec 32)
    : (channel.receive header nowMs).2 = (updateRRecvState channel.rRecv header.rSeqNum).2
      ∧ (channel.receive header nowMs).1.rRecv
        = (updateRRecvState channel.rRecv header.rSeqNum).1 := by
  simp only [receive, updateRecvState, reliable, if_true]
  cases fresh : (updateRRecvState channel.rRecv header.rSeqNum).2 with
  | false => simp
  | true =>
      refine ⟨by simp, ?_⟩
      simp only [Bool.not_true, Bool.false_eq_true, if_false]
      split <;> split <;> simp

/-- An unreliable header leaves the reliable window alone. -/
theorem Channel.receive_unreliable (channel : Channel Payload) {header : UDPHeader}
    (unreliable : header.isReliable = false) (nowMs : BitVec 32)
    : (channel.receive header nowMs).1.rRecv = channel.rRecv := by
  simp only [receive, updateRecvState, unreliable, Bool.false_eq_true, if_false]
  cases fresh : (updateURecvState channel.uRecv header.uSeqNum).2 with
  | false => simp
  | true =>
      simp only [Bool.not_true, Bool.false_eq_true, if_false]
      split <;> split <;> simp

/-- Handlers are called for exactly the arrivals that the window accepts, by induction on the
events.
-/
theorem dispatchedReliable_eq (channel : Channel Payload)
    (events : List (ChannelEvent Payload))
    : dispatchedReliable channel events
      = accepted updateRRecvState channel.rRecv (reliableArrivals events) := by
  induction events generalizing channel with
  | nil => rfl
  | cons event rest ih =>
      simp only [dispatchedReliable, ih]
      cases event with
      | send digest sessionId address nowMs pktId reliable payload =>
          simp [reliableArrivals, Channel.apply]
      | retransmit nowMs => rfl
      | clearPendingReliableExcept keepSeq => rfl
      | receive header nowMs =>
          cases reliable : header.isReliable with
          | false =>
              simp [reliableArrivals, reliable, Channel.apply,
                channel.receive_unreliable reliable nowMs]
          | true =>
              obtain ⟨fresh, window⟩ := channel.receive_reliable reliable nowMs
              simp only [reliableArrivals, List.filterMap_cons, reliable, if_true, accepted,
                Bool.true_and, Channel.apply, fresh, window]

/-- A session calls a reliable packet's handler at most once, in every run of deliveries,
sends and scans, exactly when no number arrives again at the edge of its window.
-/
theorem dispatchedReliable_nodup_iff (events : List (ChannelEvent Payload))
    : (dispatchedReliable ({} : Channel Payload) events).Nodup
      ↔ ¬EdgeRedelivery (reliableArrivals events) := by
  rw [dispatchedReliable_eq]
  exact acceptedOf_nodup_iff (reliableArrivals events)

/-- An authenticated reliable datagram with nothing to acknowledge. -/
def reliableDelivery (rSeqNum : BitVec 32) : ChannelEvent Payload :=
  .receive { packetId := 0, sessionId := 0, rSeqNum, uSeqNum := 0, flags := FLAG_RELIABLE } 0

/-- Number 1 is handled, 33 is handled, and a second copy of 1 is handled again. -/
theorem dispatchedReliable_twice
    : ¬(dispatchedReliable ({} : Channel Unit) ([1, 33, 1].map reliableDelivery)).Nodup := by
  decide

end ExtractionServer.Transport
