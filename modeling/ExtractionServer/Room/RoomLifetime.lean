import ExtractionServer.Room.FinalizeGate
import ExtractionServer.Room.NpcAuthority

/-! The end of a room: once its lifetime has passed, a round of the leave pipeline puts every
session out of the room, and the room asks once to be destroyed.
-/

namespace ExtractionServer.Room

open Transport

-----------------------------------------------------------------------------------------
-- The lease of a room
-----------------------------------------------------------------------------------------

namespace RoomHost

/-- The life of a room so far, and what it has asked of the process. -/
def lease (host : RoomHost) : RoomTerm × List Nat :=
  (host.room.term, host.wire.pendingDestroyRooms)

theorem lease_of_agenda {before after : RoomHost} (same : after.agenda = before.agenda)
    : after.lease = before.lease :=
  congrArg (fun agenda : Agenda => (agenda.term, agenda.pendingDestroyRooms)) same

section Leases

variable (env : Environment) (host : RoomHost)

theorem send_lease (sessionId : Nat) (message : D2CMessage)
    : (host.send env sessionId message).lease = host.lease :=
  lease_of_agenda (host.send_agenda env sessionId message)

theorem scheduleRecallTick_lease (sessionId : Nat) (uid : Int) (generation : BitVec 32)
    : (host.scheduleRecallTick env sessionId uid generation).lease = host.lease := rfl

theorem modifySession_lease (sessionId : Nat) (f : PlayerSession → PlayerSession)
    : (host.modifySession sessionId f).lease = host.lease := rfl

theorem completeRecall_lease (sessionId spotIndex : Nat)
    : (host.completeRecall env sessionId spotIndex).lease = host.lease := by
  unfold completeRecall markLeaving
  extract_lets ended told
  exact (send_lease env ended sessionId _).trans (host.modifySession_lease sessionId _)

theorem cancelRecall_lease (sessionId : Nat) (session : PlayerSession) (spotIndex : Nat)
    (reason : RecallResultReason)
    : (host.cancelRecall env sessionId session spotIndex reason).lease = host.lease := by
  unfold cancelRecall
  dsimp only
  split
  · rfl
  · exact send_lease env _ sessionId _

theorem recallTick_lease (timer : RecallTimer)
    : (host.recallTick env timer).lease = host.lease := by
  unfold recallTick
  dsimp only
  split
  · rfl
  · split
    · rfl
    · split
      · rfl
      · split
        · exact host.cancelRecall_lease env _ _ _ _
        · split
          · exact host.cancelRecall_lease env _ _ _ _
          · split
            · exact host.cancelRecall_lease env _ _ _ _
            · split
              · exact host.cancelRecall_lease env _ _ _ _
              · split
                · exact host.cancelRecall_lease env _ _ _ _
                · have afterPass := host.modifySession_lease timer.sessionId
                    PlayerSession.addRecallPass
                  split
                  · exact (scheduleRecallTick_lease env _ _ _ _).trans afterPass
                  · exact (completeRecall_lease env _ _ _).trans afterPass

theorem handleC2DRequestRecall_lease (sessionId : Nat) (session : PlayerSession)
    (spotIndex : Nat)
    : (host.handleC2DRequestRecall env sessionId session spotIndex).1.lease = host.lease := by
  unfold handleC2DRequestRecall
  split
  · rfl
  · split
    · rfl
    · split
      · rfl
      · split
        · rfl
        · extract_lets result answered begun
          have told : answered.lease = host.lease := host.send_lease env sessionId _
          split
          · exact told
          · have afterBegin : begun.lease = answered.lease := modifySession_lease answered _ _
            exact (scheduleRecallTick_lease env begun _ _ _).trans (afterBegin.trans told)

theorem applyNpcRequest_lease (session : PlayerSession) (npcId : Nat)
    (apply : HostileNPC → Nat → HostileNPC × HostileNPC.RequestResult)
    : (host.applyNpcRequest env session npcId apply).1.lease = host.lease := by
  rcases applyNpcRequest_cases env host session npcId apply with same | answered
  · rw [same]
  · obtain ⟨requester, npc, _, _, outcome⟩ := answered
    rw [outcome]
    exact lease_of_agenda (host.acceptAnswer_agenda env npcId _)

theorem handleC2DRequestWeaponFire_lease (layout : host.room.Layout) (sessionId : Nat)
    (session : PlayerSession) (pkt : C2DRequestWeaponFire)
    : (host.handleC2DRequestWeaponFire env sessionId session pkt).1.lease = host.lease := by
  rcases handleC2DRequestWeaponFire_cases env host layout sessionId session pkt with
    plain | ⟨_, _, _, middle, _, _, struck, _, _, outcome⟩
  · exact lease_of_agenda plain.agenda
  · rw [outcome]
    exact lease_of_agenda ((broadcastExcept_agenda env _ _ _).trans
      ((middle.acceptAnswer_agenda env _ _).trans struck.agenda))

theorem handleClientPacket_lease (layout : host.room.Layout) (sessionId : Nat)
    (header : UDPHeader) (clientAddr : SockAddr) (pkt : C2DPacket)
    : (host.handleClientPacket env sessionId header clientAddr pkt).1.lease = host.lease := by
  unfold handleClientPacket
  split
  · rfl
  · next session _ =>
      have received := lease_of_agenda (receive_plain env host sessionId header).agenda
      have layout : (host.receive env sessionId header).1.room.Layout := layout
      dsimp only
      split
      · exact received
      · refine Eq.trans ?_ received
        by_cases plain : pkt.isPlain = true
        · exact lease_of_agenda (dispatch_plain env _ sessionId session clientAddr plain).agenda
        · cases pkt with
          | requestRecall spotIndex =>
              exact handleC2DRequestRecall_lease env _ sessionId session spotIndex
          | requestWeaponFire pkt =>
              exact handleC2DRequestWeaponFire_lease env _ layout sessionId session pkt
          | requestNpcAggro npcId aggro => exact applyNpcRequest_lease env _ session npcId _
          | requestNpcAuthority npcId aggro => exact applyNpcRequest_lease env _ session npcId _
          | _ => exact absurd rfl plain

end Leases

/-- Only the leave pipeline decides about the end of a room. -/
theorem next_lease {env : Environment} {before after : RoomHost} {action : Action}
    (sound : before.Sound) (step : before.next env action = some after)
    (other : action ≠ .processLeaves)
    : after.lease = before.lease := by
  cases action with
  | packet sessionId header clientAddr pkt =>
      cases step
      exact before.handleClientPacket_lease env sound.layout sessionId header clientAddr pkt
  | recallTick index =>
      simp only [next] at step
      split at step
      · cases step
      · next timer _ =>
          split at step
          · cases step
          · cases step
            exact recallTick_lease env _ timer
  | processLeaves => exact absurd rfl other
  | update =>
      cases step
      exact lease_of_agenda (update_plain env before).agenda
  | updateNpcStates =>
      cases step
      exact lease_of_agenda (updateNpcStates_plain env before).agenda
  | bindClientIp sessionId addr =>
      cases step
      rfl
  | checkRetransmits sessionId =>
      simp only [next] at step
      split at step
      · cases step
        rfl
      · cases step
        rfl

section Rounds

variable (env : Environment) (host : RoomHost) (now : TimePoint)

theorem markAll_lease (sessionIds : List Nat)
    : (host.markAll env sessionIds).lease = host.lease := by
  unfold markAll
  refine Table.foldl_view_eq lease ?_ host
  exact fun state sessionId _ => rfl

theorem detectDisconnectedSessions_lease
    : (host.detectDisconnectedSessions env).lease = host.lease := by
  unfold detectDisconnectedSessions
  refine Table.foldl_view_eq lease ?_ _
  intro state sessionId _
  split
  · rfl
  · dsimp only
    split
    · rfl
    · split
      · rfl
      · split <;> rfl

theorem clearPendingOfLeaving_lease : host.clearPendingOfLeaving.lease = host.lease := by
  unfold clearPendingOfLeaving
  refine Table.foldl_view_eq lease ?_ host
  intro state entry _
  split <;> rfl

/-- The lifetime has passed, as the room remembers or as it counts now. -/
def isExpired (room : GameRoom) (now : TimePoint) : Bool :=
  room.lifetimeExpired || elapsedMs room.createdAt now ≥ GameRoom.ROOM_LIFETIME_MS

theorem markLeaves_lease
    : (host.markLeaves env now).lease
      = ({ host.room.term with lifetimeExpired := isExpired host.room now },
        host.wire.pendingDestroyRooms) := by
  have expired : (if !host.room.lifetimeExpired
        && elapsedMs host.room.createdAt now ≥ GameRoom.ROOM_LIFETIME_MS then
        (host.modifyRoom ({ · with lifetimeExpired := true })).allKill env
      else host).lease
      = ({ host.room.term with lifetimeExpired := isExpired host.room now },
        host.wire.pendingDestroyRooms) := by
    split
    · next passed =>
        refine (markAll_lease env _ host.room.playerSessions.keys).trans ?_
        have late : isExpired host.room now = true := by
          simp only [Bool.and_eq_true] at passed
          simp [isExpired, passed.2]
        rw [late]
        rfl
    · next going =>
        have same : isExpired host.room now = host.room.lifetimeExpired := by
          unfold isExpired
          cases remembered : host.room.lifetimeExpired with
          | true => rfl
          | false => simpa [remembered] using going
        rw [same]
        rfl
  unfold markLeaves
  refine (clearPendingOfLeaving_lease _).trans ((detectDisconnectedSessions_lease env _).trans ?_)
  rw [markDead_eq]
  exact (markAll_lease env _ _).trans expired

theorem advanceLeave_lease (sessionId : Nat)
    : (host.advanceLeave env now sessionId).lease = host.lease := by
  unfold advanceLeave
  extract_lets detached
  have afterDetach : detached.lease = host.lease := by
    unfold detached
    split
    · rfl
    · split
      · exact lease_of_agenda (detachPlayer_agenda env host sessionId)
      · rfl
  split
  · exact afterDetach
  · split
    · refine Eq.trans (lease_of_agenda ?_) afterDetach
      exact notifyLeftOnce_agenda _ sessionId
    · exact afterDetach

theorem checkAllLeft_playerSessions
    : host.checkAllLeft.room.playerSessions = host.room.playerSessions := by
  unfold checkAllLeft
  split
  · rfl
  · split <;> rfl

/-- What a round decides about the end of the room: the flag of the lifetime, and the request
to be destroyed once everybody is finished.
-/
theorem processLeaves_lease
    : ∃ advanced : RoomHost, host.processLeaves env = advanced.checkAllLeft
      ∧ advanced.room.playerSessions = (host.processLeaves env).room.playerSessions
      ∧ advanced.lease
        = ({ host.room.term with
            lifetimeExpired := isExpired host.room (env.clock host.wire.reads) },
          host.wire.pendingDestroyRooms) := by
  unfold processLeaves
  dsimp only
  refine ⟨_, rfl, (checkAllLeft_playerSessions _).symm, ?_⟩
  · refine (Table.foldl_view_eq lease ?_ _).trans (markLeaves_lease env (host.now env).1 _)
    exact fun state sessionId _ => state.advanceLeave_lease env _ sessionId

end Rounds

end RoomHost

-----------------------------------------------------------------------------------------
-- Departures
-----------------------------------------------------------------------------------------

namespace LeaveRecord

/-- The session has left the room, whether or not its leave is finished. -/
def HasLeft (leave : LeaveRecord) : Prop :=
  leave.leaveState = .detached ∨ leave.leaveState = .finalized

/-- The leave was marked so long ago that no grace period lasts. -/
def Overdue (leave : LeaveRecord) (now : TimePoint) : Prop :=
  elapsedMs leave.leaveMarkedAt now ≥ PlayerSession.DEATH_GRACE_MS

theorem Overdue.ready {leave : LeaveRecord} {now : TimePoint} (overdue : leave.Overdue now)
    (pending : List (BitVec 32))
    : leave.Ready pending now := by
  unfold Ready
  split
  · exact overdue
  · have shorter : PlayerSession.LEAVE_FINALIZE_TIMEOUT_MS ≤ PlayerSession.DEATH_GRACE_MS := by
      decide
    exact .inr (.inr (BitVec.le_trans shorter overdue))

theorem accepts_dead_of_staying {leave : LeaveRecord} (staying : leave.leaveState = .none)
    : leave.accepts .dead = true := by
  simp [accepts, staying]

theorem leaving_marked {leave : LeaveRecord} {reason : LeaveReason}
    (accepts : leave.accepts reason = true) (now : TimePoint) (notifyRSeq : BitVec 32)
    : (leave.marked reason now notifyRSeq).leaveState ≠ .none := by
  simp [marked, accepts]

end LeaveRecord

namespace RoomHost

section Departures

variable {env : Environment} {sessionId : Nat}

/-- When the lifetime has just passed, everybody is marked as leaving. -/
theorem markLeaves_all (env : Environment) (host : RoomHost) (now : TimePoint)
    {leave : LeaveRecord}
    (remembered : host.room.lifetimeExpired = false)
    (late : elapsedMs host.room.createdAt now ≥ GameRoom.ROOM_LIFETIME_MS)
    (stored : host.room.leaveOf sessionId = some leave)
    : ∃ marked, (host.markLeaves env now).room.leaveOf sessionId = some marked
      ∧ marked.leaveState ≠ .none := by
  have known : sessionId ∈ host.room.playerSessions.keys := by
    obtain ⟨session, found, _⟩ := Option.map_eq_some_iff.mp stored
    exact AList.mem_keys.mp (Table.mem_of_lookup found)
  let flagged := host.modifyRoom ({ · with lifetimeExpired := true })
  have stages : host.markLeaves env now
      = (((flagged.markAll env host.room.playerSessions.keys).markDead
          env).detectDisconnectedSessions env).clearPendingOfLeaving := by
    unfold markLeaves
    rw [if_pos (by simp [remembered, late])]
    rfl
  -- A session that refuses to be marked is leaving already, and nothing takes a mark back.
  have killed : ∃ marked, (flagged.markAll env host.room.playerSessions.keys).room.leaveOf
      sessionId = some marked ∧ marked.leaveState ≠ .none := by
    rcases flagged.markAll_leaveOf env host.room.playerSessions.keys stored with
      ⟨kept, refuses⟩ | ⟨call, _, accepts, marked⟩
    · refine ⟨leave, kept, fun staying => ?_⟩
      cases (refuses known).symm.trans (LeaveRecord.accepts_dead_of_staying staying)
    · exact ⟨_, marked, LeaveRecord.leaving_marked accepts _ _⟩
  obtain ⟨first, kept, leaving⟩ := killed
  have buried : ∃ marked, ((flagged.markAll env host.room.playerSessions.keys).markDead
      env).room.leaveOf sessionId = some marked ∧ marked.leaveState ≠ .none := by
    rw [markDead_eq]
    rcases markAll_leaveOf env _ _ kept with ⟨same, _⟩ | ⟨call, _, accepts, marked⟩
    · exact ⟨first, same, leaving⟩
    · exact ⟨_, marked, LeaveRecord.leaving_marked accepts _ _⟩
  obtain ⟨second, kept, leaving⟩ := buried
  rw [stages, room_eq_of_outcome (clearPendingOfLeaving_outcome _)]
  rcases (detectDisconnectedSessions_lost env _ kept).record with
    same | ⟨reading, _, _, accepts, marked⟩
  · exact ⟨second, same, leaving⟩
  · exact ⟨_, marked, LeaveRecord.leaving_marked accepts _ _⟩

/-- In its own turn a leaving session leaves, and finishes if its mark is old enough. -/
theorem advanceLeave_leaves (host : RoomHost) {now : TimePoint} {leave : LeaveRecord}
    (stored : host.room.leaveOf sessionId = some leave) (leaving : leave.leaveState ≠ .none)
    : ∃ later, (host.advanceLeave env now sessionId).room.leaveOf sessionId = some later
      ∧ later.HasLeft ∧ (leave.Overdue now → later.leaveState = .finalized) := by
  unfold advanceLeave
  extract_lets detached
  obtain ⟨middle, current, gone, markedAt⟩ : ∃ middle,
      detached.room.leaveOf sessionId = some middle ∧ middle.HasLeft
        ∧ middle.leaveMarkedAt = leave.leaveMarkedAt := by
    obtain ⟨session, found, rfl⟩ := Option.map_eq_some_iff.mp stored
    unfold detached
    rw [found]
    dsimp only
    split
    · next pending =>
        have same := (host.detachPlayer_leaveOf env sessionId sessionId).1
        rw [if_pos rfl, stored, Option.map_some] at same
        exact ⟨_, same, .inl rfl, rfl⟩
    · next settled =>
        refine ⟨_, stored, ?_, rfl⟩
        have settled : session.leave.leaveState ≠ .pending := settled
        unfold LeaveRecord.HasLeft
        cases state : session.leave.leaveState with
        | none => exact absurd state leaving
        | pending => exact absurd state settled
        | detached => exact .inl rfl
        | finalized => exact .inr rfl
  obtain ⟨session, found, rfl⟩ := Option.map_eq_some_iff.mp current
  rw [found]
  dsimp only
  split
  · have same := (detached.finalizeLeave_leaveOf sessionId sessionId).1
    rw [if_pos rfl, current, Option.map_some] at same
    exact ⟨_, same, .inr rfl, fun _ => rfl⟩
  · next waiting =>
      refine ⟨_, current, gone, fun overdue => ?_⟩
      rcases gone with still | ended
      · refine absurd ⟨still, ?_⟩ waiting
        have due : session.leave.Overdue now := by
          unfold LeaveRecord.Overdue at overdue ⊢
          rwa [markedAt]
        exact (detached.isFinalizeReady_iff sessionId session now).mpr (due.ready _)
      · exact ended

end Departures

end RoomHost

-----------------------------------------------------------------------------------------
-- Finished leaves
-----------------------------------------------------------------------------------------

namespace PlayerSession

/-- The leave is finished. -/
def isFinalized (session : PlayerSession) : Bool := session.leaveState == .finalized

/-- The end of the leave is as before. -/
def SameEnd (before after : PlayerSession) : Prop :=
  after.isFinalized = before.isFinalized

/-- A finished leave stays finished. -/
def StaysFinalized (before after : PlayerSession) : Prop :=
  before.isFinalized = true → after.isFinalized = true

theorem SameEnd.refl (session : PlayerSession) : session.SameEnd session := rfl

theorem StaysFinalized.refl (session : PlayerSession) : session.StaysFinalized session := id

theorem hasLeft_iff (session : PlayerSession)
    : session.leave.HasLeft ↔ session.isDetached = true := by
  simp [LeaveRecord.HasLeft, leave, isDetached]

/-- A mark neither finishes a leave nor takes its end back. -/
theorem markLeaving_isFinalized (session : PlayerSession) (reason : LeaveReason)
    (now : TimePoint) (notifyRSeq : BitVec 32)
    : (session.markLeaving reason now notifyRSeq).isFinalized = session.isFinalized := by
  unfold markLeaving
  split
  · next accepts =>
      have going := (staying_of_acceptsLeaveReason accepts).2
      have unfinished : session.isFinalized = false := by
        simp only [isDetached, Bool.or_eq_false_iff] at going
        exact going.2
      rw [unfinished]
      rfl
  · rfl

end PlayerSession

namespace RoomHost

variable {spawner : GameRoom → PlayerSession → Bool} {env : Environment}
  {before after : RoomHost}

theorem sessions_of_outcome {sessionId : Nat} {f : PlayerSession → PlayerSession}
    (step : after.outcome = (before.modifySession sessionId f).outcome)
    : after.room.playerSessions = before.room.playerSessions.adjust sessionId f :=
  congrArg GameRoom.playerSessions (room_eq_of_outcome step)

/-- No packet, timer or update finishes a leave or takes its end back. -/
theorem Act.sameEnd (act : Act spawner before after)
    : Table.Related (fun _ => PlayerSession.SameEnd) before.room.playerSessions
        after.room.playerSessions := by
  cases act with
  | ordinary actor step active =>
      refine step.room.sessions.mono fun _ old new goes => ?_
      exact congrArg (fun state : LeaveState => state == .finalized) goes.1.leaveState
  | spawn sessionId session found active meets step =>
      rw [step.sessions]
      refine .adjust (fun _ => PlayerSession.SameEnd.refl) ?_
      exact fun _ _ => rfl
  | recalled sessionId session object now notifyRSeq found staying current alive step =>
      rw [sessions_of_outcome step]
      refine .adjust (fun _ => PlayerSession.SameEnd.refl) ?_
      exact fun value _ => value.markLeaving_isFinalized _ _ _

/-- A finished leave stays finished whatever happens. -/
theorem Move.staysFinalized (move : Move spawner before after) (sound : before.Sound)
    : Table.Related (fun _ => PlayerSession.StaysFinalized) before.room.playerSessions
        after.room.playerSessions := by
  cases move with
  | act step => exact step.sameEnd.mono fun _ _ _ same done => same.trans done
  | mark sessionId reason now notifyRSeq notRecalled step =>
      rw [sessions_of_outcome step]
      refine .adjust (fun _ => PlayerSession.StaysFinalized.refl) ?_
      exact fun value _ done => (value.markLeaving_isFinalized _ _ _).trans done
  | detach sessionId session found pending step =>
      have unreported : session.leftNotified = false :=
        (sound.leaves sessionId session found).unreported
          (by simp [PlayerSession.isDetached, pending])
      rw [(step unreported).sessions]
      refine .adjust (fun _ => PlayerSession.StaysFinalized.refl) fun value stored done => ?_
      obtain rfl := Option.some.inj (found.symm.trans stored)
      simp [PlayerSession.isFinalized, pending] at done
  | finalize sessionId session found detached step =>
      have reported : session.leftNotified = true :=
        (sound.leaves sessionId session found).reported.trans
          (by simp [PlayerSession.isDetached, detached])
      rw [sessions_of_outcome (step reported)]
      refine .adjust (fun _ => PlayerSession.StaysFinalized.refl) ?_
      exact fun _ _ _ => rfl

/-- Everybody's leave is finished. -/
def Finished (host : RoomHost) : Prop :=
  ∀ sessionId session, host.room.playerSessions.lookup sessionId = some session →
    session.isFinalized = true

theorem Moves.finished (moves : Moves spawner before after) (sound : before.Sound)
    (h : before.Finished)
    : after.Finished := by
  induction moves with
  | refl => exact h
  | tail moves move ih =>
      intro sessionId session stored
      have stays := move.staysFinalized (Moves.sound moves sound)
      obtain ⟨old, found, keeps⟩ := stays.old_of_new stored
      exact keeps (ih sessionId old found)

theorem Acts.unfinished (acts : Acts spawner before after) (h : after.Finished)
    : before.Finished := by
  induction acts with
  | refl => exact h
  | tail _ act ih =>
      refine ih fun sessionId session found => ?_
      obtain ⟨new, stored, same⟩ := act.sameEnd.new_of_old found
      exact same.symm.trans (h sessionId new stored)

-----------------------------------------------------------------------------------------
-- The end of a room
-----------------------------------------------------------------------------------------

/-- The invariant of the runs from a first state: the room asks to be destroyed when it has
reported that everybody has left, and nobody is left once its lifetime has passed.
-/
structure OnLease (start host : RoomHost) : Prop where
  sound : host.Sound
  roomId : host.room.roomId = start.room.roomId
  createdAt : host.room.createdAt = start.room.createdAt
  destroys : host.wire.pendingDestroyRooms
    = start.wire.pendingDestroyRooms
      ++ if host.room.allLeftReported then [start.room.roomId] else []
  finished : host.room.allLeftReported = true → host.Finished
  expired : host.room.lifetimeExpired = true → ∀ sessionId leave,
    host.room.leaveOf sessionId = some leave → leave.HasLeft

theorem Fresh.onLease {host : RoomHost} (fresh : host.Fresh) : OnLease host host where
  sound := fresh.sound
  roomId := rfl
  createdAt := rfl
  destroys := by
    rw [fresh.allLeftReported]
    exact (List.append_nil _).symm
  finished reported := by cases fresh.allLeftReported.symm.trans reported
  expired remembered := by cases fresh.lifetimeExpired.symm.trans remembered

theorem hasLeft_of_keeps (keeps : before.Keeps after)
    (gone : ∀ sessionId leave, before.room.leaveOf sessionId = some leave → leave.HasLeft)
    (sessionId : Nat) (leave : LeaveRecord) (stored : after.room.leaveOf sessionId = some leave)
    : leave.HasLeft := by
  obtain ⟨session, found, rfl⟩ := Option.map_eq_some_iff.mp stored
  obtain ⟨old, present, same⟩ := keeps.old_of_new found
  rw [PlayerSession.hasLeft_iff]
  refine same.detached ((PlayerSession.hasLeft_iff old).mp (gone sessionId old.leave ?_))
  exact Option.map_eq_some_iff.mpr ⟨old, present, rfl⟩

/-- Between the rounds of the leave pipeline nothing about the end of a room changes. -/
theorem OnLease.act {start : RoomHost} {action : Action} (h : OnLease start before)
    (step : before.next env action = some after) (other : action ≠ .processLeaves)
    : OnLease start after := by
  have lease := next_lease h.sound step other
  have term : after.room.term = before.room.term := congrArg Prod.fst lease
  have reported : after.room.allLeftReported = before.room.allLeftReported :=
    congrArg RoomTerm.allLeftReported term
  have remembered : after.room.lifetimeExpired = before.room.lifetimeExpired :=
    congrArg RoomTerm.lifetimeExpired term
  have moves := next_moves step (before.spawnMeets_any action)
  refine ⟨Moves.sound moves h.sound, (congrArg RoomTerm.roomId term).trans h.roomId,
    (congrArg RoomTerm.createdAt term).trans h.createdAt, ?_, ?_, ?_⟩
  · rw [reported]
    exact (congrArg Prod.snd lease).trans h.destroys
  · rw [reported]
    exact fun done => Moves.finished moves h.sound (h.finished done)
  · rw [remembered]
    exact fun late => hasLeft_of_keeps (Moves.keeps moves h.sound) (h.expired late)

section Rounds

variable {host : RoomHost} {sessionId : Nat} {leave : LeaveRecord}

/-- The turns of a round: who is leaving leaves, and is finished if marked long ago. -/
theorem advanceLeaves_leaves (now : TimePoint)
    (stored : host.room.leaveOf sessionId = some leave) (leaving : leave.leaveState ≠ .none)
    : ∃ later, (host.room.playerSessions.keys.foldl (advanceLeave env now)
          host).checkAllLeft.room.leaveOf sessionId = some later
      ∧ later.HasLeft ∧ (leave.Overdue now → later.leaveState = .finalized) := by
  have known : sessionId ∈ host.room.playerSessions.keys := by
    obtain ⟨session, found, _⟩ := Option.map_eq_some_iff.mp stored
    exact AList.mem_keys.mp (Table.mem_of_lookup found)
  obtain ⟨turn, before, after⟩ := Table.foldl_around_turn (Aside sessionId)
    (fun _ => ⟨rfl, fun _ => id, Nat.le_refl _⟩) (fun _ _ _ => Aside.trans)
    (fun state other ne => state.advanceLeave_aside env sessionId now ne)
    host.room.playerSessions.keys_nodup known host
  obtain ⟨later, own, gone, overdue⟩ :=
    turn.advanceLeave_leaves (before.record.trans stored) leaving
  exact ⟨later, (after.trans (checkAllLeft_aside _ sessionId)).record.trans own, gone, overdue⟩

/-- Nobody is marked who has left. -/
theorem Marking.of_hasLeft {now : TimePoint} {limit : Nat} {later : LeaveRecord}
    (marking : Marking env host now sessionId leave limit later) (gone : leave.HasLeft)
    : later = leave := by
  have refuses : ∀ {reason : LeaveReason}, leave.accepts reason ≠ true := by
    intro reason accepts
    rcases LeaveRecord.accepts_leaveState accepts with staying | ⟨pending, _⟩
    · rcases gone with still | ended
      · cases staying.symm.trans still
      · cases staying.symm.trans ended
    · rcases gone with still | ended
      · cases pending.symm.trans still
      · cases pending.symm.trans ended
  cases marking with
  | same => rfl
  | dead call named accepts high => exact absurd accepts refuses
  | disconnected reading accepts high => exact absurd accepts refuses

/-- A session that has left stays so in a round, and is finished if it was marked long ago. -/
theorem processLeaves_finishes (stored : host.room.leaveOf sessionId = some leave)
    (gone : leave.HasLeft)
    : ∃ later, (host.processLeaves env).room.leaveOf sessionId = some later
      ∧ later.HasLeft
      ∧ (leave.Overdue (env.clock host.wire.reads) → later.leaveState = .finalized) := by
  obtain ⟨_, marked, current, marking, _⟩ :=
    (host.now env).1.markLeaves_marking env (host.now env).2 stored
  obtain rfl := marking.of_hasLeft gone
  have leaving : marked.leaveState ≠ .none := by
    rcases gone with still | ended
    · simp [still]
    · simp [ended]
  unfold processLeaves
  dsimp only
  generalize (host.now env).1.markLeaves env (host.now env).2 = start at *
  exact advanceLeaves_leaves (host.now env).2 current leaving

/-- In a round after the lifetime has passed everybody leaves. -/
theorem processLeaves_leaves
    (remembered : host.room.lifetimeExpired = true → leave.HasLeft)
    (late : isExpired host.room (env.clock host.wire.reads) = true)
    (stored : host.room.leaveOf sessionId = some leave)
    : ∃ later, (host.processLeaves env).room.leaveOf sessionId = some later
      ∧ later.HasLeft := by
  cases flag : host.room.lifetimeExpired with
  | true =>
      obtain ⟨later, own, gone, _⟩ := processLeaves_finishes stored (remembered flag)
      exact ⟨later, own, gone⟩
  | false =>
      have passed : elapsedMs host.room.createdAt (env.clock host.wire.reads)
          ≥ GameRoom.ROOM_LIFETIME_MS := by
        simpa [isExpired, flag] using late
      obtain ⟨marked, current, leaving⟩ :=
        (host.now env).1.markLeaves_all env (host.now env).2 flag passed stored
      unfold processLeaves
      dsimp only
      generalize (host.now env).1.markLeaves env (host.now env).2 = start at *
      obtain ⟨later, own, gone, _⟩ := advanceLeaves_leaves (host.now env).2 current leaving
      exact ⟨later, own, gone⟩

end Rounds

/-- The final check of a round reports the room once, when everybody is finished. -/
theorem checkAllLeft_cases (host : RoomHost)
    : host.checkAllLeft = host ∧ (host.room.allLeftReported = true ∨ ¬host.Finished)
      ∨ host.room.allLeftReported = false ∧ host.Finished
        ∧ host.checkAllLeft.lease
          = ({ host.room.term with allLeftReported := true },
            host.wire.pendingDestroyRooms ++ [host.room.roomId]) := by
  have unfinished : host.room.playerSessions.values.any (·.leaveState != .finalized) = true
      ↔ ¬host.Finished := by
    simp only [List.any_eq_true, Finished, not_forall, PlayerSession.isFinalized, bne_iff_ne,
      beq_iff_eq, Table.mem_values_iff]
    constructor
    · rintro ⟨session, ⟨sessionId, found⟩, going⟩
      exact ⟨sessionId, session, found, going⟩
    · rintro ⟨sessionId, session, found, going⟩
      exact ⟨session, ⟨sessionId, found⟩, going⟩
  unfold checkAllLeft
  split
  · next reported => exact .inl ⟨rfl, .inl reported⟩
  · next silent =>
      have silent : host.room.allLeftReported = false := by simpa using silent
      split
      · next going => exact .inl ⟨rfl, .inr (unfinished.mp going)⟩
      · next none =>
          have finished : host.Finished := by
            by_contra going
            exact none (unfinished.mpr going)
          exact .inr ⟨silent, finished, rfl⟩

/-- What a round leaves behind: the flag of the lifetime, and the one request to be destroyed
as soon as everybody is finished.
-/
structure Round (env : Environment) (before after : RoomHost) : Prop where
  roomId : after.room.roomId = before.room.roomId
  createdAt : after.room.createdAt = before.room.createdAt
  expired : after.room.lifetimeExpired = isExpired before.room (env.clock before.wire.reads)
  reports : after.room.allLeftReported = before.room.allLeftReported
      ∧ after.wire.pendingDestroyRooms = before.wire.pendingDestroyRooms
      ∧ (before.room.allLeftReported = true ∨ ¬after.Finished)
    ∨ before.room.allLeftReported = false ∧ after.room.allLeftReported = true
      ∧ after.Finished
      ∧ after.wire.pendingDestroyRooms
        = before.wire.pendingDestroyRooms ++ [before.room.roomId]

theorem processLeaves_round (host : RoomHost) : Round env host (host.processLeaves env) := by
  obtain ⟨advanced, same, sessions, lease⟩ := host.processLeaves_lease env
  generalize host.processLeaves env = after at *
  have term := congrArg Prod.fst lease
  have destroys : advanced.wire.pendingDestroyRooms = host.wire.pendingDestroyRooms :=
    congrArg Prod.snd lease
  have roomId : advanced.room.roomId = host.room.roomId := congrArg RoomTerm.roomId term
  have reported : advanced.room.allLeftReported = host.room.allLeftReported :=
    congrArg RoomTerm.allLeftReported term
  have finished : after.Finished ↔ advanced.Finished := by
    unfold Finished
    rw [sessions]
  rcases advanced.checkAllLeft_cases with ⟨idle, why⟩ | ⟨silent, done, reports⟩
  · rw [← same] at idle
    refine ⟨?_, ?_, ?_, .inl ⟨?_, ?_, ?_⟩⟩
    · rw [idle, roomId]
    · rw [idle]
      exact congrArg RoomTerm.createdAt term
    · rw [idle]
      exact congrArg RoomTerm.lifetimeExpired term
    · rw [idle, reported]
    · rw [idle, destroys]
    · rw [finished, ← reported]
      exact why
  · rw [← same] at reports
    have later := congrArg Prod.fst reports
    refine ⟨?_, ?_, ?_, .inr ⟨?_, ?_, ?_, ?_⟩⟩
    · exact (congrArg RoomTerm.roomId later).trans roomId
    · exact (congrArg RoomTerm.createdAt later).trans (congrArg RoomTerm.createdAt term)
    · exact (congrArg RoomTerm.lifetimeExpired later).trans
        (congrArg RoomTerm.lifetimeExpired term)
    · exact reported.symm.trans silent
    · exact congrArg RoomTerm.allLeftReported later
    · exact finished.mpr done
    · rw [← destroys, ← roomId]
      exact congrArg Prod.snd reports

/-- After a round the room has been reported if everybody is finished. -/
theorem Round.reported (round : Round env before after) (done : after.Finished)
    : after.room.allLeftReported = true := by
  rcases round.reports with ⟨same, _, remembered | going⟩ | ⟨_, reported, _⟩
  · exact same.trans remembered
  · exact absurd done going
  · exact reported

theorem OnLease.round {start : RoomHost} (h : OnLease start before)
    : OnLease start (before.processLeaves env) := by
  have round : Round env before (before.processLeaves env) := before.processLeaves_round
  have moves : Moves (fun _ _ => true) before (before.processLeaves env) :=
    before.processLeaves_moves
  refine ⟨moves.sound h.sound, round.roomId.trans h.roomId, round.createdAt.trans h.createdAt,
    ?_, fun reported => ?_, fun late sessionId leave stored => ?_⟩
  · rcases round.reports with ⟨same, destroys, _⟩ | ⟨silent, reported, _, destroys⟩
    · rw [destroys, same]
      exact h.destroys
    · rw [destroys, h.destroys, silent, reported, h.roomId]
      exact congrArg (· ++ _) (List.append_nil _)
  · rcases round.reports with ⟨same, _⟩ | ⟨_, _, done, _⟩
    · exact moves.finished h.sound (h.finished (same.symm.trans reported))
    · exact done
  · obtain ⟨session, found, rfl⟩ := Option.map_eq_some_iff.mp stored
    obtain ⟨old, present, _⟩ := (moves.keeps h.sound).old_of_new found
    have early : before.room.leaveOf sessionId = some old.leave :=
      Option.map_eq_some_iff.mpr ⟨old, present, rfl⟩
    obtain ⟨later, own, gone⟩ := processLeaves_leaves
      (fun remembered => h.expired remembered sessionId old.leave early)
      (round.expired.symm.trans late) early
    obtain rfl := Option.some.inj (stored.symm.trans own)
    exact gone

theorem OnLease.next {start : RoomHost} {action : Action} (h : OnLease start before)
    (step : before.next env action = some after)
    : OnLease start after := by
  by_cases leaves : action = .processLeaves
  · subst leaves
    obtain rfl : before.processLeaves env = after := Option.some.inj step
    exact h.round
  · exact h.act step leaves

/-- The invariant after a round that has found the lifetime passed. -/
structure Over (start host : RoomHost) : Prop where
  onLease : OnLease start host
  past : host.room.lifetimeExpired = true
  reported : host.Finished → host.room.allLeftReported = true

theorem OnLease.toOver {start : RoomHost} (h : OnLease start before)
    (late : isExpired before.room (env.clock before.wire.reads) = true)
    : Over start (before.processLeaves env) := by
  have round : Round env before (before.processLeaves env) := before.processLeaves_round
  exact ⟨h.round, round.expired.trans late, round.reported⟩

theorem Over.next {start : RoomHost} {action : Action} (h : Over start before)
    (step : before.next env action = some after)
    : Over start after := by
  by_cases leaves : action = .processLeaves
  · subst leaves
    obtain rfl : before.processLeaves env = after := Option.some.inj step
    refine h.onLease.toOver ?_
    simp [isExpired, h.past]
  · have term : after.room.term = before.room.term :=
      congrArg Prod.fst (next_lease h.onLease.sound step leaves)
    refine ⟨h.onLease.next step, (congrArg RoomTerm.lifetimeExpired term).trans h.past,
      fun done => ?_⟩
    have acts := next_acts step (before.spawnMeets_any action) leaves
    exact (congrArg RoomTerm.allLeftReported term).trans
      (h.reported (Acts.unfinished acts done))

/-- What the lifetime of the room demands of a session. -/
structure Departed (host : RoomHost) (sessionId : Nat) (session : PlayerSession) : Prop where
  gone : session.isDetached = true
  notified : (host.noticesOf sessionId).length = 1
  withoutObject : session.objectId = none
  inactive : session.isActiveState = false

theorem Over.departed {start host : RoomHost} (h : Over start host) {sessionId : Nat}
    {session : PlayerSession}
    (found : host.room.playerSessions.lookup sessionId = some session)
    : Departed host sessionId session := by
  have gone : session.isDetached = true :=
    session.hasLeft_iff.mp (h.onLease.expired h.past sessionId session.leave
      (Option.map_eq_some_iff.mpr ⟨session, found, rfl⟩))
  have consistent := h.onLease.sound.leaves sessionId session found
  have leftNotified : session.leftNotified = true := consistent.reported.trans gone
  refine ⟨gone, ?_, consistent.withoutObject leftNotified,
    (consistent.silenced (.inr (.inr leftNotified))).1⟩
  rw [h.onLease.sound.notices sessionId session found, leftNotified]
  rfl

theorem Over.destroys {start host : RoomHost} (h : Over start host)
    : (host.Finished →
        host.wire.pendingDestroyRooms
          = start.wire.pendingDestroyRooms ++ [start.room.roomId])
      ∧ (¬host.Finished →
        host.wire.pendingDestroyRooms = start.wire.pendingDestroyRooms) := by
  refine ⟨fun done => ?_, fun going => ?_⟩
  · rw [h.onLease.destroys, h.reported done]
    rfl
  · have silent : host.room.allLeftReported = false := by
      cases reported : host.room.allLeftReported with
      | false => rfl
      | true => exact absurd (h.onLease.finished reported) going
    rw [h.onLease.destroys, silent]
    exact List.append_nil _

/-- A round in which every mark is old enough finishes everybody. -/
theorem Over.finishes {start host : RoomHost} (h : Over start host)
    (overdue : ∀ sessionId session, host.room.playerSessions.lookup sessionId = some session →
      session.leave.Overdue (env.clock host.wire.reads))
    : (host.processLeaves env).Finished := by
  have moves : Moves (fun _ _ => true) host (host.processLeaves env) :=
    host.processLeaves_moves
  intro sessionId session stored
  obtain ⟨old, found, _⟩ := (moves.keeps h.onLease.sound).old_of_new stored
  have early : host.room.leaveOf sessionId = some old.leave :=
    Option.map_eq_some_iff.mpr ⟨old, found, rfl⟩
  obtain ⟨later, own, _, finished⟩ : ∃ later,
      (host.processLeaves env).room.leaveOf sessionId = some later ∧ later.HasLeft
      ∧ (old.leave.Overdue (env.clock host.wire.reads) → later.leaveState = .finalized) :=
    processLeaves_finishes early (h.onLease.expired h.past _ _ early)
  obtain ⟨same, present, rfl⟩ := Option.map_eq_some_iff.mp own
  obtain rfl := Option.some.inj (stored.symm.trans present)
  exact beq_iff_eq.mpr (finished (overdue sessionId old found))

/-- Nobody outlives the room. Take any run, a round of the leave pipeline at least the
lifetime after the room's creation, and any continuation. If the room's 32-bit count of
milliseconds says so too, or has said so before, everybody has left, was notified once, has
no object and cannot act, recalled players stay recalled, and the room has asked once to be
destroyed exactly if everybody is finished, which a round after the grace periods makes sure
of.
-/
theorem nobody_outlives_room {start host last : RoomHost} {actions later : List Action}
    (fresh : start.Fresh) (run : (roomSystem env).Run start actions host)
    (late : host.room.createdAt + GameRoom.ROOM_LIFETIME_MS.toNat * 1000000
      ≤ env.clock host.wire.reads)
    (counted : host.room.lifetimeExpired = true
      ∨ GameRoom.ROOM_LIFETIME_MS.toNat
        ≤ (env.clock host.wire.reads - host.room.createdAt) / 1000000 % 2 ^ 32)
    (rest : (roomSystem env).Run (host.processLeaves env) later last)
    : (∀ sessionId session, last.room.playerSessions.lookup sessionId = some session →
        Departed last sessionId session)
      ∧ (∀ sessionId session, host.room.playerSessions.lookup sessionId = some session →
        session.leaveReason = .recalled →
        ∃ departed, last.room.playerSessions.lookup sessionId = some departed
          ∧ departed.leaveReason = .recalled)
      ∧ (last.Finished →
        last.wire.pendingDestroyRooms
          = start.wire.pendingDestroyRooms ++ [start.room.roomId])
      ∧ (¬last.Finished →
        last.wire.pendingDestroyRooms = start.wire.pendingDestroyRooms)
      ∧ ((∀ sessionId session, last.room.playerSessions.lookup sessionId = some session →
          session.leave.Overdue (env.clock last.wire.reads)) →
        (last.processLeaves env).Finished) := by
  have expired : isExpired host.room (env.clock host.wire.reads) = true := by
    rcases counted with remembered | passed
    · simp [isExpired, remembered]
    · have ordered : host.room.createdAt ≤ env.clock host.wire.reads :=
        (Nat.le_add_right _ _).trans late
      rw [← toNat_elapsedMs ordered] at passed
      have reached : elapsedMs host.room.createdAt (env.clock host.wire.reads)
          ≥ GameRoom.ROOM_LIFETIME_MS := passed
      simp [isExpired, reached]
  have onLease : OnLease start host :=
    run.preserves (fun _ _ _ holds => holds.next) fresh.onLease
  have isOver : Over start last :=
    rest.preserves (fun _ _ _ holds => holds.next) (onLease.toOver expired)
  refine ⟨fun _ _ => isOver.departed, fun sessionId session found recalled => ?_,
    isOver.destroys.1, isOver.destroys.2, isOver.finishes⟩
  have moves : Moves (fun _ _ => true) host (host.processLeaves env) :=
    host.processLeaves_moves
  obtain ⟨middle, present, first⟩ := (moves.keeps onLease.sound).new_of_old found
  obtain ⟨departed, stored, second⟩ :=
    (keeps_of_run rest (moves.sound onLease.sound)).1.new_of_old present
  have same := first.reason (.inl recalled)
  exact ⟨departed, stored,
    (second.reason (.inl (same.trans recalled))).trans (same.trans recalled)⟩

/-- A player who has never connected is put out of the room. -/
theorem soloRoom_departed
    : ∃ session, (soloRoom.processLeaves expiredField).room.playerSessions.lookup 1
        = some session
      ∧ Departed (soloRoom.processLeaves expiredField) 1 session := by
  have here : ((soloRoom.processLeaves expiredField).room.playerSessions.lookup 1).isSome
      = true := by
    decide +kernel
  obtain ⟨session, found⟩ := Option.isSome_iff_exists.mp here
  exact ⟨session, found, (nobody_outlives_room soloRoom_fresh (.nil _) (by decide)
    (.inr (by decide)) (.nil _)).1 1 session found⟩

/-- The open field when the milliseconds since the room's creation first wrap. -/
def wrappedField : Environment :=
  { openField with clock := fun reads => (2 ^ 32 + reads) * 1000000 }

/-- A room whose first round comes when its count of milliseconds has wrapped keeps a player
who has never connected.
-/
theorem outlived_after_wrap
    : soloRoom.Fresh
      ∧ soloRoom.room.createdAt + GameRoom.ROOM_LIFETIME_MS.toNat * 1000000
        ≤ wrappedField.clock soloRoom.wire.reads
      ∧ ∃ session, (soloRoom.processLeaves wrappedField).room.playerSessions.lookup 1
          = some session
        ∧ session.isDetached = false := by
  refine ⟨soloRoom_fresh, by decide, ?_⟩
  have here : ((soloRoom.processLeaves wrappedField).room.playerSessions.lookup 1).any
      (fun session => !session.isDetached) = true := by
    decide +kernel
  obtain ⟨session, found, staying⟩ := (Option.any_eq_true _ _).mp here
  exact ⟨session, found, by simpa using staying⟩

end RoomHost

end ExtractionServer.Room
