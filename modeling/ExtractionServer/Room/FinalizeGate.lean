import ExtractionServer.Room.LeaveRecords
import ExtractionServer.Room.LeaveReports

/-! The gate that ends a leave, for every clock that never runs backwards: a death waits out
its grace period, and the notice of a recall is acknowledged or times out. One case escapes: a
death that is marked later than the round's own reading of the clock ends in the same round.
-/

namespace ExtractionServer.Room

open Transition Transport
open RoomHost (Action)

-----------------------------------------------------------------------------------------
-- Elapsed time
-----------------------------------------------------------------------------------------

/-- Between readings in their order, whole milliseconds are counted modulo 2 ^ 32. -/
theorem toNat_elapsedMs {since now : TimePoint} (ordered : since ≤ now)
    : (elapsedMs since now).toNat = (now - since) / 1000000 % 2 ^ 32 := by
  have difference : ((now : Int) - since).tdiv 1000000 = ((now - since) / 1000000 : Nat) := by
    rw [← Int.ofNat_sub ordered]
    rfl
  rw [elapsedMs, difference, BitVec.ofInt_natCast, BitVec.toNat_ofNat]

/-- Between readings in their order, the elapsed milliseconds do not overstate. -/
theorem le_of_elapsedMs {since now : TimePoint} {grace : BitVec 32} (ordered : since ≤ now)
    (elapsed : elapsedMs since now ≥ grace)
    : since + grace.toNat * 1000000 ≤ now := by
  have reached : grace.toNat ≤ (now - since) / 1000000 := by
    refine Nat.le_trans (show grace.toNat ≤ (elapsedMs since now).toNat from elapsed) ?_
    rw [toNat_elapsedMs ordered]
    exact Nat.mod_le _ _
  have waited := (Nat.le_div_iff_mul_le (by decide)).mp reached
  calc since + grace.toNat * 1000000
      ≤ since + (now - since) := Nat.add_le_add_left waited _
    _ = now := Nat.add_sub_of_le ordered

-----------------------------------------------------------------------------------------
-- Rooms with the acknowledgements they have received
-----------------------------------------------------------------------------------------

/-- A room together with the numbers of the packets that were acknowledged while they were
pending, each with its session.
-/
structure Observed where
  host : RoomHost
  acknowledged : List (Nat × BitVec 32) := []

/-- The pending numbers that a packet acknowledges. -/
def RoomHost.acknowledgedBy (env : Environment) (host : RoomHost)
    : Action → List (Nat × BitVec 32)
  | .packet sessionId header _ _ =>
      if (host.room.playerSessions.lookup sessionId).isSome
          && (host.receive env sessionId header).2 then
        ((host.pendingSeqs sessionId).filter fun seq =>
          decide (Acknowledges header.ackRSeqNum header.ackBitfield seq)).map (sessionId, ·)
      else []
  | _ => []

namespace Observed

def next (env : Environment) (observed : Observed) (action : Action) : Option Observed :=
  (observed.host.next env action).map fun host =>
    { host
      acknowledged := observed.acknowledged ++ observed.host.acknowledgedBy env action }

/-- Nobody has a notice to wait for, and nothing has been acknowledged. -/
structure Fresh (observed : Observed) : Prop where
  host : observed.host.Fresh
  notices : ∀ sessionId session,
    observed.host.room.playerSessions.lookup sessionId = some session →
      session.leaveNotifyRSeq = 0
  acknowledged : observed.acknowledged = []

end Observed

def observedSystem (env : Environment) : System Observed Action :=
  .ofNext Observed.Fresh (Observed.next env)

/-- While a leave is not over, its notice is pending unless it was acknowledged. -/
def Observed.NoticesWait (observed : Observed) : Prop :=
  ∀ sessionId session, observed.host.room.playerSessions.lookup sessionId = some session →
    session.leaveState ≠ .finalized → session.leaveNotifyRSeq ≠ 0 →
    session.leaveNotifyRSeq ∈ observed.host.pendingSeqs sessionId
      ∨ (sessionId, session.leaveNotifyRSeq) ∈ observed.acknowledged

/-- What the gate keeps in one step: leaves end only in rounds of the leave pipeline, a death
after its grace period and a recall with its notice acknowledged or timed out.
-/
structure GateKept (env : Environment) (before : Observed) (action : Action)
    (after : Observed) : Prop where
  dead : ∀ sessionId session later,
    before.host.room.playerSessions.lookup sessionId = some session →
    after.host.room.playerSessions.lookup sessionId = some later →
    session.leaveState ≠ .finalized → later.leaveState = .finalized →
    later.leaveReason = .dead →
    action = .processLeaves
      ∧ later.leaveMarkedAt + PlayerSession.DEATH_GRACE_MS.toNat * 1000000
        ≤ env.clock before.host.wire.reads
  recalled : ∀ sessionId session later,
    before.host.room.playerSessions.lookup sessionId = some session →
    after.host.room.playerSessions.lookup sessionId = some later →
    session.leaveState ≠ .finalized → later.leaveState = .finalized →
    later.leaveReason = .recalled → later.leaveNotifyRSeq ≠ 0 →
    action = .processLeaves
      ∧ (later.leaveNotifyRSeq ∉ before.host.pendingSeqs sessionId
          ∧ (sessionId, later.leaveNotifyRSeq) ∈ before.acknowledged
        ∨ later.leaveMarkedAt + PlayerSession.LEAVE_FINALIZE_TIMEOUT_MS.toNat * 1000000
          ≤ env.clock before.host.wire.reads)

/-- Every death that a round marks is marked at a reading since which the round's own reading
of the clock shows no grace period.
-/
def RoomHost.deathMarksMeet (env : Environment) (host : RoomHost) : Action → Bool
  | .processLeaves =>
      let now := env.clock host.wire.reads
      (host.room.deathCalls now).zipIdx.all fun (sessionId, call) =>
        !(host.room.leaveOf sessionId).any (·.accepts .dead)
          || elapsedMs (env.clock (host.wire.reads + 1 + call)) now
            < PlayerSession.DEATH_GRACE_MS
  | _ => true

-----------------------------------------------------------------------------------------
-- One step
-----------------------------------------------------------------------------------------

namespace RoomHost

variable {env : Environment} {before after : RoomHost}

/-- What a packet releases it has acknowledged. -/
theorem hear_pending (host : RoomHost) (action : Action) {sessionId : Nat}
    {seq : BitVec 32} (pending : seq ∈ host.pendingSeqs sessionId)
    : seq ∈ (host.hear env action).pendingSeqs sessionId
      ∨ (sessionId, seq) ∈ host.acknowledgedBy env action := by
  cases action with
  | packet otherId header clientAddr pkt =>
      simp only [hear, acknowledgedBy]
      split
      · next known =>
          by_cases own : sessionId = otherId
          · subst own
            have heard := (host.wire.channels sessionId).mem_seqNums_receive header
              (nowMs (env.clock host.wire.reads)) pending
            refine heard.imp (fun kept => ?_) fun released => ?_
            · simp only [pendingSeqs, receive, modifyChannel, Function.update_self]
              exact kept
            · obtain ⟨fresh, named⟩ := released
              rw [if_pos (by rw [known]; exact fresh)]
              exact List.mem_map.mpr ⟨seq,
                List.mem_filter.mpr ⟨pending, decide_eq_true named⟩, rfl⟩
          · refine .inl ?_
            simp only [pendingSeqs, receive, modifyChannel, Function.update_of_ne own]
            exact pending
      · exact .inl pending
  | _ => exact .inl pending

theorem hear_reads (host : RoomHost) (action : Action)
    : host.wire.reads ≤ (host.hear env action).wire.reads := by
  unfold hear
  split
  · split
    · exact Nat.le_succ _
    · exact Nat.le_refl _
  · exact Nat.le_refl _

/-- What an action outside the leave pipeline makes of a record, at readings below a limit:
it may name a pending notice and mark a recall, but does not end a leave.
-/
structure Carried (env : Environment) (limit : Nat) (leave later : LeaveRecord)
    (still : List (BitVec 32)) : Prop where
  finished : later.leaveState = .finalized ↔ leave.leaveState = .finalized
  timed : later.leaveState ≠ .none →
    (leave.leaveState ≠ .none ∧ later.leaveMarkedAt = leave.leaveMarkedAt)
      ∨ ∃ reading < limit, later.leaveMarkedAt = env.clock reading
  notice : later.leaveNotifyRSeq = leave.leaveNotifyRSeq ∨ later.leaveNotifyRSeq ∈ still

theorem Waits.carried (waits : Waits before after) {sessionId : Nat} {leave : LeaveRecord}
    (stored : before.room.leaveOf sessionId = some leave) (limit : Nat)
    : ∃ later, after.room.leaveOf sessionId = some later
      ∧ Carried env limit leave later (after.pendingSeqs sessionId) := by
  rcases waits.leaves sessionId with same | ⟨seq, pending, changed⟩
  · exact ⟨leave, same.trans stored, .rfl, fun gone => .inl ⟨gone, rfl⟩, .inl rfl⟩
  · rw [stored] at changed
    exact ⟨_, changed, .rfl, fun gone => .inl ⟨gone, rfl⟩, .inr pending⟩

/-- Every action but the leave pipeline carries all records along. -/
theorem next_carried {action : Action} (step : before.next env action = some after)
    (other : action ≠ .processLeaves)
    : before.wire.reads ≤ after.wire.reads
      ∧ (∀ sessionId, ∀ seq ∈ before.pendingSeqs sessionId,
        seq ∈ after.pendingSeqs sessionId
          ∨ (sessionId, seq) ∈ before.acknowledgedBy env action)
      ∧ ∀ sessionId leave, before.room.leaveOf sessionId = some leave →
        ∃ later, after.room.leaveOf sessionId = some later
          ∧ Carried env after.wire.reads leave later (after.pendingSeqs sessionId) := by
  rcases next_served step (spawnMeets_any before action) other with served | completed
  · have waits := Served.waits served
    refine ⟨(before.hear_reads action).trans waits.sends.reads, ?_, ?_⟩
    · intro sessionId seq pending
      exact (before.hear_pending action pending).imp_left (waits.sends.pending sessionId seq)
    · intro sessionId leave stored
      rw [← hear_room env before action] at stored
      exact waits.carried stored _
  · obtain ⟨sessionId, session, ready, found, staying, effects, notice, heard, rfl⟩ := completed
    have waits := Effects.waits effects
    have sends := waits.sends.trans
      (ready.markLeaving_sends env sessionId .recalled (ready.lastSentRSeq sessionId))
    refine ⟨sends.reads, fun otherId seq pending => .inl (sends.pending otherId seq pending), ?_⟩
    intro otherId leave stored
    obtain ⟨middle, current, carried⟩ := @Waits.carried env _ _ waits otherId leave stored
      (ready.markLeaving env sessionId .recalled (ready.lastSentRSeq sessionId)).wire.reads
    rw [markLeaving_leaveOf, current]
    split
    · next own =>
        subst own
        refine ⟨_, rfl, ?_⟩
        dsimp only
        by_cases accepts : middle.accepts .recalled = true
        · simp only [LeaveRecord.marked, if_pos accepts]
          refine ⟨⟨fun ended => (by cases ended), fun ended => ?_⟩,
            fun _ => .inr ⟨_, Nat.lt_succ_self _, rfl⟩, ?_⟩
          · rcases LeaveRecord.accepts_leaveState accepts with state | ⟨state, _⟩
            · cases state.symm.trans (carried.finished.mpr ended)
            · cases state.symm.trans (carried.finished.mpr ended)
          · dsimp only
            split
            · exact .inr notice
            · exact carried.notice
        · rw [LeaveRecord.marked_of_refuses (by simpa using accepts)]
          exact carried
    · exact ⟨middle, rfl, carried⟩

end RoomHost

-----------------------------------------------------------------------------------------
-- Every run
-----------------------------------------------------------------------------------------

/-- What holds of all records along a run: leaves are marked at past readings of the clock,
and the notice of a leave that is not over is pending unless it was acknowledged.
-/
structure Observed.Gated (env : Environment) (observed : Observed) : Prop where
  sound : observed.host.Sound
  timed : ∀ sessionId leave, observed.host.room.leaveOf sessionId = some leave →
    leave.leaveState ≠ .none →
    ∃ reading < observed.host.wire.reads, leave.leaveMarkedAt = env.clock reading
  waits : ∀ sessionId leave, observed.host.room.leaveOf sessionId = some leave →
    leave.leaveState ≠ .finalized → leave.leaveNotifyRSeq ≠ 0 →
    leave.leaveNotifyRSeq ∈ observed.host.pendingSeqs sessionId
      ∨ (sessionId, leave.leaveNotifyRSeq) ∈ observed.acknowledged

variable {env : Environment} {before after : Observed}

theorem Observed.Fresh.gated (h : before.Fresh) : before.Gated env := by
  refine ⟨h.host.sound, ?_, ?_⟩
  · intro sessionId leave stored gone
    obtain ⟨session, found, rfl⟩ := Option.map_eq_some_iff.mp stored
    exact absurd (h.host.sessions sessionId session found).leaveState gone
  · intro sessionId leave stored _ named
    obtain ⟨session, found, rfl⟩ := Option.map_eq_some_iff.mp stored
    exact absurd (h.notices sessionId session found) named

/-- A record after a step belongs to a session that was there before. -/
theorem RoomHost.exists_leaveOf {before after : RoomHost} {action : RoomHost.Action}
    (sound : before.Sound) (step : before.next env action = some after) {sessionId : Nat}
    {later : LeaveRecord} (present : after.room.leaveOf sessionId = some later)
    : ∃ leave, before.room.leaveOf sessionId = some leave := by
  obtain ⟨session, found, _⟩ := Option.map_eq_some_iff.mp present
  have moves := RoomHost.next_moves step (RoomHost.spawnMeets_any before action)
  have same : before.Keeps after := RoomHost.Moves.keeps moves sound
  obtain ⟨old, stored, _⟩ := same.old_of_new found
  exact ⟨old.leave, Option.map_eq_some_iff.mpr ⟨old, stored, rfl⟩⟩

/-- Every step keeps what holds of all records. -/
theorem Observed.Gated.next (h : before.Gated env) {action : Action}
    (step : before.next env action = some after)
    : after.Gated env := by
  obtain ⟨host, moved, rfl⟩ := Option.map_eq_some_iff.mp step
  have moves := RoomHost.next_moves moved (RoomHost.spawnMeets_any before.host action)
  have sound := RoomHost.Moves.sound moves h.sound
  by_cases leaves : action = .processLeaves
  · subst leaves
    have round : before.host.processLeaves env = host := Option.some.inj moved
    refine ⟨sound, ?_, ?_⟩
    · intro sessionId later present gone
      obtain ⟨leave, stored⟩ := RoomHost.exists_leaveOf h.sound moved present
      have turn := before.host.processLeaves_leaveOf env sessionId stored
      rw [round] at turn
      obtain ⟨reads, marked, last, pending, current, marking, advance, _⟩ := turn
      cases present.symm.trans current
      rw [advance.markedAt]
      cases marking with
      | same =>
          obtain ⟨reading, past, markedAt⟩ :=
            h.timed sessionId leave stored (mt advance.staying.mpr gone)
          exact ⟨reading, past.trans_le reads, markedAt⟩
      | dead call named accepts high => exact ⟨_, high, rfl⟩
      | disconnected reading accepts high => exact ⟨reading, high, rfl⟩
    · intro sessionId later present going named
      obtain ⟨leave, stored⟩ := RoomHost.exists_leaveOf h.sound moved present
      have turn := before.host.processLeaves_leaveOf env sessionId stored
      rw [round] at turn
      obtain ⟨_, marked, last, pending, current, marking, advance, keeps⟩ := turn
      cases present.symm.trans current
      obtain ⟨unfinished, still⟩ := advance.waits going
      rw [advance.notice, marking.leaveNotifyRSeq] at named ⊢
      rcases h.waits sessionId leave stored (marking.unfinished unfinished) named with
        mem | acknowledged
      · exact .inl (still _ (keeps named mem))
      · exact .inr (List.mem_append_left _ acknowledged)
  · obtain ⟨reads, hears, carries⟩ := RoomHost.next_carried moved leaves
    refine ⟨sound, ?_, ?_⟩
    · intro sessionId later present gone
      obtain ⟨leave, stored⟩ := RoomHost.exists_leaveOf h.sound moved present
      obtain ⟨last, current, carried⟩ := carries sessionId leave stored
      cases present.symm.trans current
      rcases carried.timed gone with ⟨old, same⟩ | marked
      · obtain ⟨reading, past, markedAt⟩ := h.timed sessionId leave stored old
        exact ⟨reading, past.trans_le reads, same.trans markedAt⟩
      · exact marked
    · intro sessionId later present going named
      obtain ⟨leave, stored⟩ := RoomHost.exists_leaveOf h.sound moved present
      obtain ⟨last, current, carried⟩ := carries sessionId leave stored
      cases present.symm.trans current
      rcases carried.notice with same | mem
      · rw [same] at named ⊢
        have unfinished := mt carried.finished.mpr going
        rcases h.waits sessionId leave stored unfinished named with mem | acknowledged
        · exact (hears sessionId _ mem).imp_right (List.mem_append_right _)
        · exact .inr (List.mem_append_left _ acknowledged)
      · exact .inl mem

/-- A session that a round finishes has passed the gate with the record that the marking half
left, while all that waited for it still waited.
-/
theorem RoomHost.ready_of_finished {host : RoomHost} {sessionId : Nat}
    {session later : PlayerSession}
    (found : host.room.playerSessions.lookup sessionId = some session)
    (present : (host.processLeaves env).room.playerSessions.lookup sessionId = some later)
    (unfinished : session.leaveState ≠ .finalized) (ended : later.leaveState = .finalized)
    : ∃ marked pending,
      Marking env (host.now env).1 (env.clock host.wire.reads) sessionId session.leave
        (host.processLeaves env).wire.reads marked
      ∧ (marked.leaveReason = later.leaveReason
        ∧ marked.leaveMarkedAt = later.leaveMarkedAt
        ∧ marked.leaveNotifyRSeq = later.leaveNotifyRSeq)
      ∧ marked.Ready pending (env.clock host.wire.reads)
      ∧ (session.leaveNotifyRSeq ≠ 0 →
        session.leaveNotifyRSeq ∈ host.pendingSeqs sessionId →
        session.leaveNotifyRSeq ∈ pending) := by
  have stored : host.room.leaveOf sessionId = some session.leave :=
    Option.map_eq_some_iff.mpr ⟨session, found, rfl⟩
  have last : (host.processLeaves env).room.leaveOf sessionId = some later.leave :=
    Option.map_eq_some_iff.mpr ⟨later, present, rfl⟩
  obtain ⟨_, marked, record, pending, current, marking, advance, keeps⟩ :=
    host.processLeaves_leaveOf env sessionId stored
  cases last.symm.trans current
  have going : marked.leaveState ≠ .finalized := by
    cases marking with
    | same => exact unfinished
    | dead call named accepts high => nofun
    | disconnected reading accepts high => nofun
  exact ⟨marked, pending, marking,
    ⟨advance.reason.symm, advance.markedAt.symm, advance.notice.symm⟩, advance.gate going ended,
    keeps⟩

/-- A leave that is marked was marked at a reading up to now. -/
theorem Observed.Gated.markedAt_le (h : before.Gated env) (monotone : Monotone env.clock)
    {sessionId : Nat} {session : PlayerSession}
    (found : before.host.room.playerSessions.lookup sessionId = some session)
    (leaving : session.leaveReason ≠ .none)
    : session.leaveMarkedAt ≤ env.clock before.host.wire.reads := by
  have gone : session.leave.leaveState ≠ .none :=
    mt (h.sound.leaves sessionId session found).reason.mpr leaving
  obtain ⟨reading, past, markedAt⟩ :=
    h.timed sessionId session.leave (Option.map_eq_some_iff.mpr ⟨session, found, rfl⟩) gone
  exact (show session.leaveMarkedAt = _ from markedAt) ▸ monotone past.le

/-- A round that marks no death ahead of its own reading of the clock keeps the gate. -/
theorem Observed.Gated.processLeaves_gateKept (h : before.Gated env)
    (monotone : Monotone env.clock)
    (meets : before.host.deathMarksMeet env .processLeaves = true)
    (room : after.host.room = (before.host.processLeaves env).room)
    : GateKept env before .processLeaves after := by
  constructor
  · intro sessionId session later found present unfinished ended dead
    refine ⟨rfl, ?_⟩
    rw [room] at present
    obtain ⟨marked, pending, marking, ⟨reason, markedAt, _⟩, ready, _⟩ :=
      RoomHost.ready_of_finished found present unfinished ended
    rw [LeaveRecord.Ready, reason, if_pos dead] at ready
    rw [← markedAt]
    cases marking with
    | same =>
        refine le_of_elapsedMs (h.markedAt_le monotone found ?_) ready
        rw [show session.leaveReason = _ from reason, dead]
        nofun
    | dead call named accepts high =>
        -- The mark is ahead of the round's reading, and yet the gate was open.
        have entry : (sessionId, call)
            ∈ (before.host.room.deathCalls (env.clock before.host.wire.reads)).zipIdx :=
          List.mem_zipIdx_iff_getElem?.mpr named
        have stored : before.host.room.leaveOf sessionId = some session.leave :=
          Option.map_eq_some_iff.mpr ⟨session, found, rfl⟩
        have closed := List.all_eq_true.mp meets _ entry
        dsimp only at closed
        rw [stored] at closed
        simp only [Option.any_some, accepts, Bool.not_true, Bool.false_or,
          decide_eq_true_eq] at closed
        exact absurd ready (BitVec.not_le.mpr closed)
    | disconnected reading accepts high => cases reason.trans dead
  · intro sessionId session later found present unfinished ended recalled named
    refine ⟨rfl, ?_⟩
    rw [room] at present
    obtain ⟨marked, pending, marking, ⟨reason, markedAt, notice⟩, ready, keeps⟩ :=
      RoomHost.ready_of_finished found present unfinished ended
    have undead : marked.leaveReason ≠ .dead := by
      rw [reason, recalled]
      nofun
    rw [LeaveRecord.Ready, if_neg undead] at ready
    rw [← notice] at named
    rw [← notice, ← markedAt]
    cases marking with
    | same =>
        rcases ready with zero | gone | timeout
        · exact absurd zero named
        · have released := mt (keeps named) gone
          refine .inl ⟨released, ?_⟩
          exact (h.waits sessionId session.leave
            (Option.map_eq_some_iff.mpr ⟨session, found, rfl⟩) unfinished named).resolve_left
            released
        · refine .inr (le_of_elapsedMs (h.markedAt_le monotone found ?_) timeout)
          rw [show session.leaveReason = _ from reason, recalled]
          nofun
    | dead call named accepts high => cases reason.trans recalled
    | disconnected reading accepts high => cases reason.trans recalled

/-- Actions outside the leave pipeline end no leave. -/
theorem Observed.other_gateKept {action : Action} (other : action ≠ .processLeaves)
    (step : before.host.next env action = some after.host)
    : GateKept env before action after := by
  have unfinished {sessionId : Nat} {session later : PlayerSession}
      (found : before.host.room.playerSessions.lookup sessionId = some session)
      (present : after.host.room.playerSessions.lookup sessionId = some later)
      (going : session.leaveState ≠ .finalized)
      : later.leaveState ≠ .finalized := by
    obtain ⟨_, _, carries⟩ := RoomHost.next_carried step other
    obtain ⟨last, current, carried⟩ := carries sessionId session.leave
      (Option.map_eq_some_iff.mpr ⟨session, found, rfl⟩)
    have same : last = later.leave := by
      refine Option.some.inj (current.symm.trans ?_)
      exact Option.map_eq_some_iff.mpr ⟨later, present, rfl⟩
    exact fun ended => going (carried.finished.mp (same ▸ ended))
  constructor
  · intro sessionId session later found present going ended
    exact absurd ended (unfinished found present going)
  · intro sessionId session later found present going ended
    exact absurd ended (unfinished found present going)

/-- For every clock that never runs backwards: in every run whose rounds mark no death ahead
of their own reading of the clock, every state has the notices of all leaves that are not
over pending or acknowledged, and every step keeps the gate.
-/
theorem finalizeGate_of_reachable (env : Environment) (monotone : Monotone env.clock)
    {observed : Observed}
    (reached : ((observedSystem env).restrict fun before action _ =>
      before.host.deathMarksMeet env action = true).Reachable observed)
    : observed.NoticesWait
      ∧ ∀ action after, observed.next env action = some after →
        observed.host.deathMarksMeet env action = true →
        GateKept env observed action after := by
  have invariant : System.Inductive
      ((observedSystem env).restrict fun before action _ =>
        before.host.deathMarksMeet env action = true) (Observed.Gated env) :=
    ⟨fun _ => Observed.Fresh.gated, fun _ _ _ holds step => Observed.Gated.next holds step.1⟩
  have gated := invariant.reachable reached
  constructor
  · intro sessionId session found unfinished named
    exact gated.waits sessionId session.leave
      (Option.map_eq_some_iff.mpr ⟨session, found, rfl⟩) unfinished named
  · intro action after step meets
    obtain ⟨host, moved, rfl⟩ := Option.map_eq_some_iff.mp step
    by_cases leaves : action = .processLeaves
    · subst leaves
      exact gated.processLeaves_gateKept monotone meets (congrArg RoomHost.room
        (Option.some.inj moved).symm)
    · exact Observed.other_gateKept leaves moved

-----------------------------------------------------------------------------------------
-- A recall and an expired room
-----------------------------------------------------------------------------------------

/-- The recall of a player whose notice has not been acknowledged. -/
def recalledRoom : Observed :=
  (replay (Observed.next RoomHost.slowField)
      (fun before action _ => before.host.deathMarksMeet RoomHost.slowField action)
      { host := RoomHost.carrier } RoomHost.recallActions).getD { host := RoomHost.carrier }

theorem carrier_observedFresh : ({ host := RoomHost.carrier } : Observed).Fresh where
  host := RoomHost.carrier_fresh
  notices sessionId session found := by
    have mem : session ∈ RoomHost.carrier.room.playerSessions.values :=
      Table.mem_values_iff.mpr ⟨_, found⟩
    obtain rfl := List.mem_singleton.mp mem
    rfl
  acknowledged := rfl

/-- The notice of the recall waits, and the next round keeps the gate. -/
theorem recalledRoom_gateKept
    : recalledRoom.NoticesWait
      ∧ ∃ after, recalledRoom.next RoomHost.slowField .processLeaves = some after
        ∧ GateKept RoomHost.slowField recalledRoom .processLeaves after := by
  have monotone : Monotone RoomHost.slowField.clock :=
    fun _ _ le => Nat.mul_le_mul_right 1000000000 le
  have reached := (System.Run.of_replay Observed.Fresh (Observed.next RoomHost.slowField)
    (fun before action _ => before.host.deathMarksMeet RoomHost.slowField action)
    RoomHost.recallActions { host := RoomHost.carrier } { host := RoomHost.carrier }
    (by decide +kernel)).reachable (.initial carrier_observedFresh)
  obtain ⟨wait, gate⟩ := finalizeGate_of_reachable RoomHost.slowField monotone reached
  exact ⟨wait, _, rfl, gate .processLeaves _ rfl (by decide +kernel)⟩

/-- A clock that shows ten minutes at its first reading and advances by a millisecond with
every further one.
-/
def expiredField : Environment :=
  { RoomHost.openField with clock := fun reads => (600000 + reads) * 1000000 }

theorem soloRoom_observedFresh : ({ host := RoomHost.soloRoom } : Observed).Fresh where
  host := RoomHost.soloRoom_fresh
  notices sessionId session found := by
    have mem : session ∈ RoomHost.soloRoom.room.playerSessions.values :=
      Table.mem_values_iff.mpr ⟨_, found⟩
    obtain rfl := List.mem_singleton.mp mem
    rfl
  acknowledged := rfl

/-- When the lifetime of a room has passed, its player is marked as dead a millisecond after
the round has read the clock, and is gone at the end of the same round.
-/
theorem gate_bypassed_at_expiry
    : Monotone expiredField.clock
      ∧ ∃ observed after, (observedSystem expiredField).Reachable observed
        ∧ observed.next expiredField .processLeaves = some after
        ∧ ¬GateKept expiredField observed .processLeaves after := by
  refine ⟨fun _ _ le => Nat.mul_le_mul_right 1000000 (Nat.add_le_add_left le 600000), ?_⟩
  refine ⟨{ host := RoomHost.soloRoom }, _, .initial soloRoom_observedFresh, rfl, ?_⟩
  intro kept
  have gone : ((RoomHost.soloRoom.processLeaves expiredField).room.playerSessions.lookup 1).any
      (fun later => later.leaveState == .finalized && later.leaveReason == .dead
        && later.leaveMarkedAt == 600001000000) = true := by
    decide +kernel
  obtain ⟨later, present, facts⟩ := (Option.any_eq_true _ _).mp gone
  simp only [Bool.and_eq_true, beq_iff_eq] at facts
  obtain ⟨⟨ended, dead⟩, markedAt⟩ := facts
  obtain ⟨_, grace⟩ := kept.dead 1 (RoomHost.newcomer 1 [] []) later rfl present nofun ended dead
  rw [markedAt] at grace
  exact absurd grace (by decide)

end ExtractionServer.Room
