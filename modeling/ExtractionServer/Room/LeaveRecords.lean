import ExtractionServer.Room.RoomRuns
import ExtractionServer.Room.Turns
import ExtractionServer.Transport.Acknowledgement

/-! What the end of a leave is decided by: the record that a session keeps of its leave, and
the notice that waits for an acknowledgement. Packets, timers and updates carry both along;
the leave pipeline marks, detaches and finalizes.
-/

namespace ExtractionServer.Room

open Transport

-----------------------------------------------------------------------------------------
-- Records
-----------------------------------------------------------------------------------------

/-- The part of a session that the leave pipeline decides by. -/
structure LeaveRecord where
  leaveState : LeaveState
  leaveReason : LeaveReason
  leaveMarkedAt : TimePoint
  leaveNotifyRSeq : BitVec 32

namespace LeaveRecord

def accepts (leave : LeaveRecord) (reason : LeaveReason) : Bool :=
  if reason = .none then false
  else
    match leave.leaveState with
    | .none => true
    | .pending => leave.leaveReason == .disconnected && reason != .disconnected
    | .detached => false
    | .finalized => false

def marked (leave : LeaveRecord) (reason : LeaveReason) (now : TimePoint)
    (notifyRSeq : BitVec 32)
    : LeaveRecord :=
  if leave.accepts reason then
    { leaveState := .pending
      leaveReason := reason
      leaveMarkedAt := now
      leaveNotifyRSeq := if notifyRSeq ≠ 0 then notifyRSeq else leave.leaveNotifyRSeq }
  else leave

theorem marked_of_accepts {leave : LeaveRecord} {reason : LeaveReason}
    (accepts : leave.accepts reason = true) (now : TimePoint)
    : leave.marked reason now 0
      = { leave with
          leaveState := .pending
          leaveReason := reason
          leaveMarkedAt := now } := by
  rw [marked, if_pos accepts]
  rfl

theorem marked_of_refuses {leave : LeaveRecord} {reason : LeaveReason}
    (refuses : leave.accepts reason = false) (now : TimePoint) (notifyRSeq : BitVec 32)
    : leave.marked reason now notifyRSeq = leave := by
  rw [marked, if_neg (by rw [refuses]; decide)]

/-- What is marked for a reason accepts that reason no more. -/
theorem accepts_marked (leave : LeaveRecord) (reason : LeaveReason) (now : TimePoint)
    (notifyRSeq : BitVec 32)
    : (leave.marked reason now notifyRSeq).accepts reason = false := by
  cases accepts : leave.accepts reason with
  | false => rw [marked_of_refuses accepts, accepts]
  | true =>
      rw [marked, if_pos accepts, LeaveRecord.accepts]
      cases reason <;> rfl

/-- Finished and detached leaves are not marked again. -/
theorem accepts_leaveState {leave : LeaveRecord} {reason : LeaveReason}
    (accepts : leave.accepts reason = true)
    : leave.leaveState = .none
      ∨ leave.leaveState = .pending ∧ leave.leaveReason = .disconnected := by
  unfold LeaveRecord.accepts at accepts
  cases state : leave.leaveState <;> simp_all

end LeaveRecord

namespace PlayerSession

def leave (session : PlayerSession) : LeaveRecord where
  leaveState := session.leaveState
  leaveReason := session.leaveReason
  leaveMarkedAt := session.leaveMarkedAt
  leaveNotifyRSeq := session.leaveNotifyRSeq

theorem Untouched.leave {before after : PlayerSession} (same : before.Untouched after)
    : after.leave = before.leave := by
  unfold PlayerSession.leave
  rw [same.leaveState, same.leaveReason, same.leaveMarkedAt, same.leaveNotifyRSeq]

theorem markLeaving_leave (session : PlayerSession) (reason : LeaveReason)
    (now : TimePoint) (notifyRSeq : BitVec 32)
    : (session.markLeaving reason now notifyRSeq).leave
      = session.leave.marked reason now notifyRSeq := by
  have same : session.leave.accepts reason = session.acceptsLeaveReason reason := rfl
  unfold PlayerSession.markLeaving LeaveRecord.marked
  rw [same]
  split <;> rfl

end PlayerSession

namespace GameRoom

def leaveOf (room : GameRoom) (sessionId : Nat) : Option LeaveRecord :=
  (room.playerSessions.lookup sessionId).map PlayerSession.leave

variable (room : GameRoom) (sessionId : Nat)

theorem leaveOf_of_sessions {before after : GameRoom}
    (sessions : after.playerSessions = before.playerSessions)
    : after.leaveOf = before.leaveOf := by
  unfold leaveOf
  rw [sessions]

/-- A write to one session that writes its record. -/
theorem leaveOf_modifySession {f : PlayerSession → PlayerSession}
    {g : LeaveRecord → LeaveRecord} (writes : ∀ session, (f session).leave = g session.leave)
    (otherId : Nat)
    : (room.modifySession sessionId f).leaveOf otherId
      = if otherId = sessionId then (room.leaveOf otherId).map g else room.leaveOf otherId := by
  unfold leaveOf
  rw [modifySession, Table.lookup_adjust]
  split
  · rw [Option.map_map, Option.map_map]
    congr 1
    exact funext writes
  · rfl

theorem leaveOf_modifySession_of_same {f : PlayerSession → PlayerSession}
    (same : ∀ session, (f session).leave = session.leave)
    : (room.modifySession sessionId f).leaveOf = room.leaveOf := by
  funext otherId
  rw [room.leaveOf_modifySession sessionId (g := id) same]
  split
  · exact Option.map_id_apply
  · rfl

theorem releaseInteractingContainer_leaveOf
    : (room.releaseInteractingContainer sessionId).leaveOf = room.leaveOf := by
  have sessions : (room.releaseInteractingContainer sessionId).playerSessions
      = (room.modifySession sessionId
          ({ · with interactingContainerId := none })).playerSessions :=
    congrArg Prod.fst (RoomHost.releaseInteractingContainer_players sessionId room)
  rw [leaveOf_of_sessions sessions]
  exact room.leaveOf_modifySession_of_same sessionId fun _ => rfl

theorem openContainer_leaveOf (containerId playerObjectId : Nat) (box : Container)
    : (room.openContainer sessionId containerId playerObjectId box).leaveOf
      = room.leaveOf := by
  unfold openContainer
  extract_lets evicted
  have cleared : evicted.leaveOf = room.leaveOf := by
    unfold evicted
    split
    · rfl
    · exact room.leaveOf_modifySession_of_same _ fun _ => rfl
  refine (leaveOf_modifySession_of_same _ sessionId ?_).trans ?_
  · exact fun _ => rfl
  · rw [leaveOf_of_sessions (modifyContainer_playerSessions ..),
      releaseInteractingContainer_leaveOf, cleared]

end GameRoom

namespace RoomHost

variable {env : Environment} {spawner : GameRoom → PlayerSession → Bool}
  {before middle after : RoomHost}

-----------------------------------------------------------------------------------------
-- Leaves outside the pipeline
-----------------------------------------------------------------------------------------

/-- The leaves of all sessions go on: at most they wait for another notice, which is
pending.
-/
structure Waits (before after : RoomHost) : Prop where
  sends : Sends before after
  leaves : ∀ sessionId, after.room.leaveOf sessionId = before.room.leaveOf sessionId
    ∨ ∃ seq ∈ after.pendingSeqs sessionId,
      after.room.leaveOf sessionId
        = (before.room.leaveOf sessionId).map ({ · with leaveNotifyRSeq := seq })

namespace Waits

theorem of_leaveOf (sends : Sends before after)
    (same : after.room.leaveOf = before.room.leaveOf)
    : Waits before after :=
  ⟨sends, fun sessionId => .inl (congrFun same sessionId)⟩

theorem refl (host : RoomHost) : Waits host host := of_leaveOf (.refl host) rfl

theorem trans (first : Waits before middle) (second : Waits middle after)
    : Waits before after := by
  refine ⟨first.sends.trans second.sends, fun sessionId => ?_⟩
  rcases second.leaves sessionId with same | ⟨seq, pending, changed⟩
  · rcases first.leaves sessionId with early | ⟨seq, pending, changed⟩
    · exact .inl (same.trans early)
    · exact .inr ⟨seq, second.sends.pending sessionId seq pending, same.trans changed⟩
  · refine .inr ⟨seq, pending, changed.trans ?_⟩
    rcases first.leaves sessionId with early | ⟨_, _, early⟩
    · rw [early]
    · rw [early, Option.map_map]
      rfl

end Waits

theorem Effect.waits (step : Effect env spawner before after) : Waits before after := by
  cases step.change with
  | quiet room => exact .of_leaveOf step.sends (room ▸ rfl)
  | scene room => exact .of_leaveOf step.sends (GameRoom.leaveOf_of_sessions room.sessions)
  | touch sessionId f keeps room =>
      refine .of_leaveOf step.sends (room ▸ ?_)
      exact before.room.leaveOf_modifySession_of_same sessionId fun session =>
        (keeps session).leave
  | notice sessionId seq pending room =>
      refine ⟨step.sends, fun otherId => ?_⟩
      rw [room, before.room.leaveOf_modifySession sessionId
        (f := ({ · with leaveNotifyRSeq := seq })) (g := ({ · with leaveNotifyRSeq := seq }))
        fun _ => rfl]
      split
      · next same => exact .inr ⟨seq, same ▸ pending, rfl⟩
      · exact .inl rfl
  | spawn sessionId session found active meets spawned =>
      have sessions : after.room.playerSessions
          = (before.room.modifySession sessionId
              ({ · with objectId := some before.room.nxtObjectId })).playerSessions :=
        spawned.sessions
      refine .of_leaveOf step.sends ?_
      rw [GameRoom.leaveOf_of_sessions sessions]
      exact before.room.leaveOf_modifySession_of_same sessionId fun _ => rfl
  | openContainer sessionId containerId playerObjectId session box found located current room =>
      exact .of_leaveOf step.sends (room ▸ before.room.openContainer_leaveOf ..)
  | closeContainer sessionId room =>
      exact .of_leaveOf step.sends (room ▸ before.room.releaseInteractingContainer_leaveOf _)

theorem Effects.waits (effects : Effects env spawner before after) : Waits before after := by
  induction effects with
  | refl => exact .refl before
  | tail _ effect ih => exact ih.trans effect.waits

/-- Changes of items leave the leaves alone. -/
theorem Deal.leaveOf (deal : Deal env before after)
    : after.room.leaveOf = before.room.leaveOf := by
  have committed (sessionId : Nat) (opened : Option (Nat × Container)) (store : SlotStore)
      : (before.commitStore sessionId opened store).room.leaveOf = before.room.leaveOf := by
    have stored : (before.modifySession sessionId
          ({ · with inventory := store.inventory })).room.leaveOf = before.room.leaveOf :=
      before.room.leaveOf_modifySession_of_same sessionId fun _ => rfl
    unfold commitStore
    dsimp only
    split
    · exact stored
    · exact (GameRoom.leaveOf_of_sessions
        (GameRoom.modifyContainer_playerSessions ..)).trans stored
  cases deal with
  | interact sessionId session pkt opened store found plan room =>
      exact room ▸ committed sessionId opened store
  | equip sessionId session pkt opened store unloadedSlotIdx found plan room =>
      exact room ▸ committed sessionId opened store
  | reload sessionId session isUsingPrimary version found room =>
      exact room ▸ before.room.leaveOf_modifySession_of_same sessionId fun _ => rfl
  | shot sessionId session isUsingPrimary found loaded positive room =>
      exact room ▸ before.room.leaveOf_modifySession_of_same sessionId fun _ => rfl

theorem Served.waits (served : Served env spawner before after) : Waits before after := by
  rcases served with effects | ⟨first, middle, early, deal, sends, late⟩
  · exact Effects.waits effects
  · exact (Effects.waits early).trans
      ((Waits.of_leaveOf sends deal.leaveOf).trans (Effects.waits late))

-----------------------------------------------------------------------------------------
-- Marking
-----------------------------------------------------------------------------------------

theorem markLeaving_leaveOf (env : Environment) (host : RoomHost) (sessionId : Nat)
    (reason : LeaveReason) (notifyRSeq : BitVec 32) (otherId : Nat)
    : (host.markLeaving env sessionId reason notifyRSeq).room.leaveOf otherId
      = if otherId = sessionId then
          (host.room.leaveOf otherId).map
            (·.marked reason (env.clock host.wire.reads) notifyRSeq)
        else host.room.leaveOf otherId :=
  host.room.leaveOf_modifySession sessionId
    (fun session => session.markLeaving_leave reason _ notifyRSeq) otherId

theorem markLeaving_sends (env : Environment) (host : RoomHost) (sessionId : Nat)
    (reason : LeaveReason) (notifyRSeq : BitVec 32)
    : Sends host (host.markLeaving env sessionId reason notifyRSeq) :=
  ⟨Nat.le_succ _, fun _ _ => id⟩

/-- Mark sessions as dead, one after the other. -/
def markAll (env : Environment) (host : RoomHost) (sessionIds : List Nat) : RoomHost :=
  sessionIds.foldl (fun host sessionId => host.markLeaving env sessionId .dead 0) host

theorem markAll_sends (env : Environment) (host : RoomHost) (sessionIds : List Nat)
    : Sends host (host.markAll env sessionIds) :=
  List.foldlRecOn sessionIds _ (motive := Sends host) (.refl host)
    fun reached sends sessionId _ => sends.trans (reached.markLeaving_sends env sessionId .dead 0)

theorem markAll_reads (env : Environment) (host : RoomHost) (sessionIds : List Nat)
    : (host.markAll env sessionIds).wire.reads = host.wire.reads + sessionIds.length := by
  induction sessionIds generalizing host with
  | nil => rfl
  | cons head rest ih =>
      refine (ih (host.markLeaving env head .dead 0)).trans ?_
      rw [List.length_cons, Nat.add_comm rest.length, ← Nat.add_assoc]
      rfl

/-- A session is marked by the first call for it that it accepts, at that call's reading of
the clock, by induction on the calls.
-/
theorem markAll_leaveOf (env : Environment) (host : RoomHost) (sessionIds : List Nat)
    {sessionId : Nat} {leave : LeaveRecord} (stored : host.room.leaveOf sessionId = some leave)
    : ((host.markAll env sessionIds).room.leaveOf sessionId = some leave
        ∧ (sessionId ∈ sessionIds → leave.accepts .dead = false))
      ∨ ∃ call, sessionIds[call]? = some sessionId ∧ leave.accepts .dead = true
        ∧ (host.markAll env sessionIds).room.leaveOf sessionId
          = some (leave.marked .dead (env.clock (host.wire.reads + call)) 0) := by
  induction sessionIds generalizing host leave with
  | nil => exact .inl ⟨stored, nofun⟩
  | cons head rest ih =>
      have turn := host.markLeaving_leaveOf env head .dead 0 sessionId
      by_cases own : sessionId = head
      · subst own
        rw [if_pos rfl, stored, Option.map_some] at turn
        by_cases accepts : leave.accepts .dead = true
        · refine .inr ⟨0, rfl, accepts, ?_⟩
          rcases ih _ turn with ⟨kept, _⟩ | ⟨_, _, again, _⟩
          · exact kept
          · rw [LeaveRecord.accepts_marked] at again
            cases again
        · have refuses : leave.accepts .dead = false := by simpa using accepts
          rw [LeaveRecord.marked_of_refuses refuses] at turn
          rcases ih _ turn with ⟨kept, _⟩ | ⟨_, _, again, _⟩
          · exact .inl ⟨kept, fun _ => refuses⟩
          · exact absurd again accepts
      · rw [if_neg own, stored] at turn
        rcases ih _ turn with ⟨kept, refuses⟩ | ⟨call, named, accepts, marked⟩
        · refine .inl ⟨kept, fun mem => refuses ?_⟩
          exact (List.mem_cons.mp mem).resolve_left own
        · refine .inr ⟨call + 1, named, accepts, marked.trans ?_⟩
          have reading : (host.markLeaving env head .dead 0).wire.reads + call
              = host.wire.reads + (call + 1) := by
            rw [Nat.add_comm call 1, ← Nat.add_assoc]
            rfl
          rw [reading]

end RoomHost

namespace GameRoom

/-- The sessions of the objects whose death is pending, in the order of the objects. -/
def deadOwners (room : GameRoom) : List Nat :=
  ((room.playerObjects.entries.filter (·.2.combat.deathPending)).map Sigma.fst).filterMap
    room.findSessionByObjectId

/-- The sessions that a round of the leave pipeline tries to mark as dead, in the order of
its calls: everybody when the lifetime of the room has just passed, otherwise the owners of
dead objects.
-/
def deathCalls (room : GameRoom) (now : TimePoint) : List Nat :=
  if !room.lifetimeExpired && elapsedMs room.createdAt now ≥ GameRoom.ROOM_LIFETIME_MS then
    room.playerSessions.keys
  else room.deadOwners

theorem findSessionByObjectId_modifySession (room : GameRoom) (sessionId : Nat)
    {f : PlayerSession → PlayerSession}
    (same : ∀ session, (f session).objectId = session.objectId)
    : (room.modifySession sessionId f).findSessionByObjectId = room.findSessionByObjectId := by
  funext objectId
  unfold findSessionByObjectId modifySession Table.adjust Table.mapWithKey
  dsimp only
  rw [List.find?_map, Option.map_map]
  congr 1
  congr 1
  funext entry
  dsimp only [Function.comp_apply]
  split
  · rw [same]
  · rfl

end GameRoom

namespace RoomHost

variable {env : Environment}

theorem markDead_eq (env : Environment) (host : RoomHost)
    : host.markDead env = host.markAll env host.room.deadOwners := by
  unfold markDead GameRoom.deadOwners
  dsimp only
  generalize (host.room.playerObjects.entries.filter (·.2.combat.deathPending)).map Sigma.fst
    = deadObjectIds
  -- No marking changes whose object an object is.
  obtain ⟨ownerOf, same⟩ : ∃ ownerOf, host.room.findSessionByObjectId = ownerOf := ⟨_, rfl⟩
  rw [same]
  induction deadObjectIds generalizing host with
  | nil => rfl
  | cons objectId rest ih =>
      rw [List.foldl_cons, same]
      cases owner : ownerOf objectId with
      | none =>
          rw [List.filterMap_cons_none owner]
          exact ih host same
      | some sessionId =>
          rw [List.filterMap_cons_some owner]
          refine ih _ (Eq.trans ?_ same)
          exact host.room.findSessionByObjectId_modifySession sessionId fun session =>
            session.markLeaving_objectId .dead _ 0

/-- Since a state with a record of a session, time has gone on, and the record is the same or
marked for a lost connection at a reading since then.
-/
structure Lost (env : Environment) (host : RoomHost) (sessionId : Nat) (leave : LeaveRecord)
    (reached : RoomHost)
    : Prop where
  sends : Sends host reached
  record : reached.room.leaveOf sessionId = some leave
    ∨ ∃ reading, host.wire.reads ≤ reading ∧ reading < reached.wire.reads
      ∧ leave.accepts .disconnected = true
      ∧ reached.room.leaveOf sessionId
        = some (leave.marked .disconnected (env.clock reading) 0)

theorem Lost.markLeaving {host reached : RoomHost} {sessionId : Nat} {leave : LeaveRecord}
    (h : Lost env host sessionId leave reached) (otherId : Nat)
    : Lost env host sessionId leave (reached.markLeaving env otherId .disconnected 0) := by
  refine ⟨h.sends.trans (reached.markLeaving_sends env otherId .disconnected 0), ?_⟩
  rw [markLeaving_leaveOf]
  split
  · rcases h.record with same | ⟨reading, low, high, accepts, marked⟩
    · rw [same, Option.map_some]
      by_cases accepts : leave.accepts .disconnected = true
      · exact .inr ⟨reached.wire.reads, h.sends.reads, Nat.lt_succ_self _, accepts, rfl⟩
      · rw [LeaveRecord.marked_of_refuses (by simpa using accepts)]
        exact .inl rfl
    · refine .inr ⟨reading, low, high.trans (Nat.lt_succ_self _), accepts, ?_⟩
      rw [marked, Option.map_some,
        LeaveRecord.marked_of_refuses (LeaveRecord.accepts_marked _ _ _ _)]
  · exact h.record.imp_right fun ⟨reading, low, high, rest⟩ =>
      ⟨reading, low, high.trans (Nat.lt_succ_self _), rest⟩

theorem detectDisconnectedSessions_lost (env : Environment) (host : RoomHost) {sessionId : Nat}
    {leave : LeaveRecord} (stored : host.room.leaveOf sessionId = some leave)
    : Lost env host sessionId leave (host.detectDisconnectedSessions env) := by
  unfold detectDisconnectedSessions
  refine List.foldlRecOn _ _ (motive := Lost env host sessionId leave)
    ⟨host.now_sends env, .inl stored⟩ ?_
  intro reached lost otherId _
  split
  · exact lost
  · dsimp only
    repeat' split
    all_goals first
      | exact lost
      | exact lost.markLeaving otherId

/-- Of the packets that wait for an acknowledgement, the marking keeps the notice of every
session.
-/
theorem clearPendingOfLeaving_keeps (host : RoomHost) {sessionId : Nat}
    {leave : LeaveRecord} (stored : host.room.leaveOf sessionId = some leave)
    (named : leave.leaveNotifyRSeq ≠ 0)
    (pending : leave.leaveNotifyRSeq ∈ host.pendingSeqs sessionId)
    : leave.leaveNotifyRSeq ∈ host.clearPendingOfLeaving.pendingSeqs sessionId := by
  unfold clearPendingOfLeaving
  refine List.foldlRecOn _ _
    (motive := fun reached : RoomHost =>
      leave.leaveNotifyRSeq ∈ reached.pendingSeqs sessionId) pending ?_
  intro reached pending entry mem
  split
  · by_cases own : sessionId = entry.1
    · subst own
      have found : host.room.playerSessions.lookup entry.1 = some entry.2 :=
        AList.mem_lookup_iff.mpr mem
      rw [GameRoom.leaveOf, found] at stored
      cases stored
      simp only [pendingSeqs, modifyChannel, Function.update_self,
        Channel.clearPendingReliableExcept, PendingReliable.seqNums_keep]
      refine List.mem_filter.mpr ⟨pending, ?_⟩
      simpa [PlayerSession.leave] using named
    · simp only [pendingSeqs, modifyChannel, Function.update_of_ne own]
      exact pending
  · exact pending

theorem clearPendingOfLeaving_reads (host : RoomHost)
    : host.clearPendingOfLeaving.wire.reads = host.wire.reads := by
  unfold clearPendingOfLeaving
  refine List.foldlRecOn _ _
    (motive := fun reached : RoomHost => reached.wire.reads = host.wire.reads) rfl ?_
  intro reached same entry _
  split <;> exact same

/-- The deaths that a round marks: everybody's when the lifetime has passed, and those of the
owners of dead objects.
-/
def markDeaths (env : Environment) (now : TimePoint) (host : RoomHost) : RoomHost :=
  (if !host.room.lifetimeExpired
      && elapsedMs host.room.createdAt now ≥ GameRoom.ROOM_LIFETIME_MS then
    (host.modifyRoom ({ · with lifetimeExpired := true })).allKill env
  else host).markDead env

/-- A session that accepts a death is marked at the reading of the first call for it. -/
theorem markDeaths_leaveOf (env : Environment) (host : RoomHost) (now : TimePoint) {sessionId : Nat}
    {leave : LeaveRecord} (stored : host.room.leaveOf sessionId = some leave)
    : Sends host (host.markDeaths env now)
      ∧ ((host.markDeaths env now).room.leaveOf sessionId = some leave
        ∨ ∃ call, (host.room.deathCalls now)[call]? = some sessionId
          ∧ host.wire.reads + call < (host.markDeaths env now).wire.reads
          ∧ leave.accepts .dead = true
          ∧ (host.markDeaths env now).room.leaveOf sessionId
            = some (leave.marked .dead (env.clock (host.wire.reads + call)) 0)) := by
  unfold markDeaths GameRoom.deathCalls
  split
  · next expired =>
      let flagged := host.modifyRoom ({ · with lifetimeExpired := true })
      let killed := flagged.markAll env host.room.playerSessions.keys
      have all : flagged.allKill env = killed := rfl
      rw [all, markDead_eq]
      have sends : Sends host killed :=
        (host.modifyRoom_sends _).trans (flagged.markAll_sends env _)
      have early := killed.markAll_sends env killed.room.deadOwners
      refine ⟨sends.trans early, ?_⟩
      rcases flagged.markAll_leaveOf env host.room.playerSessions.keys stored with
        ⟨kept, refuses⟩ | ⟨call, named, accepts, marked⟩
      · have known : sessionId ∈ host.room.playerSessions.keys := by
          obtain ⟨session, found, _⟩ := Option.map_eq_some_iff.mp stored
          exact AList.mem_keys.mp (Table.mem_of_lookup found)
        rcases killed.markAll_leaveOf env killed.room.deadOwners kept with
          ⟨still, _⟩ | ⟨_, _, again, _⟩
        · exact .inl still
        · rw [refuses known] at again
          cases again
      · refine .inr ⟨call, named, ?_, accepts, ?_⟩
        · refine Nat.lt_of_lt_of_le ?_ early.reads
          rw [markAll_reads]
          exact Nat.add_lt_add_left (List.getElem?_eq_some_iff.mp named).1 _
        · rcases killed.markAll_leaveOf env killed.room.deadOwners marked with
            ⟨still, _⟩ | ⟨_, _, again, _⟩
          · exact still
          · rw [LeaveRecord.accepts_marked] at again
            cases again
  · rw [markDead_eq]
    refine ⟨host.markAll_sends env _, ?_⟩
    rcases host.markAll_leaveOf env host.room.deadOwners stored with
      ⟨kept, _⟩ | ⟨call, named, accepts, marked⟩
    · exact .inl kept
    · refine .inr ⟨call, named, ?_, accepts, marked⟩
      rw [markAll_reads]
      exact Nat.add_lt_add_left (List.getElem?_eq_some_iff.mp named).1 _

/-- What the marking half of a round makes of a record, at readings below a limit. -/
inductive Marking (env : Environment) (host : RoomHost) (now : TimePoint) (sessionId : Nat)
    (leave : LeaveRecord) (limit : Nat) : LeaveRecord → Prop
  | same : Marking env host now sessionId leave limit leave
  | dead (call : Nat) (named : (host.room.deathCalls now)[call]? = some sessionId)
      (accepts : leave.accepts .dead = true) (high : host.wire.reads + call < limit)
      : Marking env host now sessionId leave limit
          { leave with
            leaveState := .pending
            leaveReason := .dead
            leaveMarkedAt := env.clock (host.wire.reads + call) }
  | disconnected (reading : Nat) (accepts : leave.accepts .disconnected = true)
      (high : reading < limit)
      : Marking env host now sessionId leave limit
          { leave with
            leaveState := .pending
            leaveReason := .disconnected
            leaveMarkedAt := env.clock reading }

theorem Marking.leaveNotifyRSeq {host : RoomHost} {now : TimePoint} {sessionId limit : Nat}
    {leave later : LeaveRecord} (marking : Marking env host now sessionId leave limit later)
    : later.leaveNotifyRSeq = leave.leaveNotifyRSeq := by
  cases marking <;> rfl

/-- Only leaves that are not over are marked. -/
theorem Marking.unfinished {host : RoomHost} {now : TimePoint} {sessionId limit : Nat}
    {leave later : LeaveRecord} (marking : Marking env host now sessionId leave limit later)
    (going : later.leaveState ≠ .finalized)
    : leave.leaveState ≠ .finalized := by
  have accepted {reason : LeaveReason} (accepts : leave.accepts reason = true)
      : leave.leaveState ≠ .finalized := by
    rcases LeaveRecord.accepts_leaveState accepts with staying | ⟨pending, _⟩
    · rw [staying]
      nofun
    · rw [pending]
      nofun
  cases marking with
  | same => exact going
  | dead call named accepts high => exact accepted accepts
  | disconnected reading accepts high => exact accepted accepts

theorem Marking.mono {host : RoomHost} {now : TimePoint} {sessionId limit more : Nat}
    {leave later : LeaveRecord} (marking : Marking env host now sessionId leave limit later)
    (le : limit ≤ more)
    : Marking env host now sessionId leave more later := by
  cases marking with
  | same => exact .same
  | dead call named accepts high => exact .dead call named accepts (high.trans_le le)
  | disconnected reading accepts high =>
      exact .disconnected reading accepts (high.trans_le le)

/-- The marking half of a round marks records and keeps every notice that is pending. -/
theorem markLeaves_marking (env : Environment) (host : RoomHost) (now : TimePoint) {sessionId : Nat}
    {leave : LeaveRecord} (stored : host.room.leaveOf sessionId = some leave)
    : host.wire.reads ≤ (host.markLeaves env now).wire.reads
      ∧ ∃ later, (host.markLeaves env now).room.leaveOf sessionId = some later
        ∧ Marking env host now sessionId leave (host.markLeaves env now).wire.reads later
        ∧ (later.leaveNotifyRSeq ≠ 0 →
          later.leaveNotifyRSeq ∈ host.pendingSeqs sessionId →
            later.leaveNotifyRSeq ∈ (host.markLeaves env now).pendingSeqs sessionId) := by
  have stages : host.markLeaves env now
      = ((host.markDeaths env now).detectDisconnectedSessions env).clearPendingOfLeaving :=
    rfl
  obtain ⟨early, deaths⟩ := host.markDeaths_leaveOf env now stored
  rw [stages, clearPendingOfLeaving_reads,
    room_eq_of_outcome (clearPendingOfLeaving_outcome _)]
  rcases deaths with kept | ⟨call, named, high, accepts, marked⟩
  · have lost := (host.markDeaths env now).detectDisconnectedSessions_lost env kept
    refine ⟨early.reads.trans lost.sends.reads, ?_⟩
    rcases lost.record with same | ⟨reading, low, high, accepts, marked⟩
    · refine ⟨leave, same, .same, fun named pending => ?_⟩
      exact clearPendingOfLeaving_keeps _ same named
        ((early.trans lost.sends).pending sessionId _ pending)
    · rw [LeaveRecord.marked_of_accepts accepts] at marked
      refine ⟨_, marked, .disconnected reading accepts high, fun named pending => ?_⟩
      exact clearPendingOfLeaving_keeps _ marked named
        ((early.trans lost.sends).pending sessionId _ pending)
  · rw [LeaveRecord.marked_of_accepts accepts] at marked
    have lost := (host.markDeaths env now).detectDisconnectedSessions_lost env marked
    refine ⟨early.reads.trans lost.sends.reads, ?_⟩
    rcases lost.record with same | ⟨_, _, _, again, _⟩
    · refine ⟨_, same, .dead call named accepts (high.trans_le lost.sends.reads),
        fun named pending => ?_⟩
      exact clearPendingOfLeaving_keeps _ same named
        ((early.trans lost.sends).pending sessionId _ pending)
    · cases again

-----------------------------------------------------------------------------------------
-- Detaching
-----------------------------------------------------------------------------------------

section Detaching

variable (env : Environment) (host : RoomHost) (sessionId : Nat)

theorem notifyLeftOnce_leaveOf
    : (host.notifyLeftOnce sessionId).room.leaveOf = host.room.leaveOf
      ∧ Sends host (host.notifyLeftOnce sessionId) := by
  unfold notifyLeftOnce
  split
  · exact ⟨rfl, .refl host⟩
  · split
    · exact ⟨rfl, .refl host⟩
    · exact ⟨host.room.leaveOf_modifySession_of_same sessionId fun _ => rfl, .of_eq rfl rfl⟩

theorem spawnPlayerLootContainer_leaveOf (object : PlayerObject)
    (inventory : PlayerInventory)
    : (host.spawnPlayerLootContainer env object inventory).room.leaveOf = host.room.leaveOf
      ∧ Sends host (host.spawnPlayerLootContainer env object inventory) := by
  unfold spawnPlayerLootContainer spawnDynamicObject
  dsimp only
  split
  · exact ⟨rfl, .of_eq rfl rfl⟩
  · constructor
    · rw [broadcast_room]
      rfl
    · refine Sends.trans ?_ (broadcastExcept_sends env _ _ _)
      exact .of_eq rfl rfl

theorem detachObject_leaveOf (objectId : Nat) (object : PlayerObject)
    (inventory : PlayerInventory) (reason : LeaveReason)
    : (host.detachObject env sessionId objectId object inventory reason).room.leaveOf
        = host.room.leaveOf
      ∧ Sends host (host.detachObject env sessionId objectId object inventory reason) := by
  unfold detachObject
  extract_lets spawned killerObjectId looted cleared erased
  have afterLoot : looted.room.leaveOf = host.room.leaveOf ∧ Sends host looted := by
    unfold looted
    split
    · obtain ⟨same, sends⟩ := host.spawnPlayerLootContainer_leaveOf env object inventory
      rw [broadcast_room]
      exact ⟨same, sends.trans (broadcastExcept_sends env _ _ _)⟩
    · exact ⟨rfl, .refl host⟩
  have afterClear : cleared.room.leaveOf = host.room.leaveOf ∧ Sends host cleared := by
    unfold cleared
    split
    · refine ⟨Eq.trans ?_ afterLoot.1, afterLoot.2.trans (.of_eq rfl rfl)⟩
      exact looted.room.leaveOf_modifySession_of_same sessionId fun _ => rfl
    · exact afterLoot
  have afterErase : Sends host erased := afterClear.2.trans (.of_eq rfl rfl)
  refine ⟨?_, afterErase.trans (broadcastExcept_sends env _ _ _)⟩
  rw [broadcastExcept_room]
  exact afterClear.1

theorem detachPlayer_leaveOf (otherId : Nat)
    : (host.detachPlayer env sessionId).room.leaveOf otherId
        = (if otherId = sessionId then
            (host.room.leaveOf otherId).map ({ · with leaveState := .detached })
          else host.room.leaveOf otherId)
      ∧ Sends host (host.detachPlayer env sessionId) := by
  unfold detachPlayer
  split
  · next missing =>
      refine ⟨?_, .refl host⟩
      split
      · next own => rw [own, GameRoom.leaveOf, missing]; rfl
      · rfl
  · next session _ =>
      extract_lets objectId reason stopped released freed withdrawn detached
      have afterStop : stopped.room.leaveOf = host.room.leaveOf ∧ Sends host stopped :=
        ⟨host.room.leaveOf_modifySession_of_same sessionId fun _ => rfl, .of_eq rfl rfl⟩
      have afterFree : freed.room.leaveOf = host.room.leaveOf ∧ Sends host freed := by
        have frees : Effects env (fun _ _ => true) released freed :=
          released.releaseNpcAuthority_effects objectId
        have afterRelease : Sends host released := afterStop.2.trans (.of_eq rfl rfl)
        refine ⟨?_, afterRelease.trans (Effects.sends frees)⟩
        rw [← afterStop.1, ← stopped.room.releaseInteractingContainer_leaveOf sessionId]
        exact GameRoom.leaveOf_of_sessions
          (congrArg Prod.fst (releaseNpcAuthority_players env released objectId))
      have afterWithdrawal : withdrawn.room.leaveOf = host.room.leaveOf
          ∧ Sends host withdrawn := by
        unfold withdrawn objectId
        split
        · exact afterFree
        · split
          · exact afterFree
          · next object _ =>
              obtain ⟨same, sends⟩ := freed.detachObject_leaveOf env sessionId _ object
                session.inventory reason
              exact ⟨same.trans afterFree.1, afterFree.2.trans sends⟩
      obtain ⟨notified, sends⟩ := detached.notifyLeftOnce_leaveOf sessionId
      have afterDetach : Sends host detached := afterWithdrawal.2.trans (.of_eq rfl rfl)
      refine ⟨?_, afterDetach.trans sends⟩
      rw [notified, ← afterWithdrawal.1]
      exact withdrawn.room.leaveOf_modifySession sessionId
        (g := ({ · with leaveState := .detached })) (fun _ => rfl) otherId

/-- The final step of a leave drops all packets of the session and touches no other. -/
theorem finalizeLeave_leaveOf (otherId : Nat)
    : (host.finalizeLeave sessionId).room.leaveOf otherId
        = (if otherId = sessionId then
            (host.room.leaveOf otherId).map ({ · with leaveState := .finalized })
          else host.room.leaveOf otherId)
      ∧ host.wire.reads ≤ (host.finalizeLeave sessionId).wire.reads
      ∧ (otherId ≠ sessionId → ∀ seq ∈ host.pendingSeqs otherId,
        seq ∈ (host.finalizeLeave sessionId).pendingSeqs otherId) := by
  unfold finalizeLeave
  extract_lets cleared
  obtain ⟨notified, sends⟩ := (cleared.modifyRoom fun room =>
    room.modifySession sessionId
      ({ · with leaveState := .finalized, sessionState := .left })).notifyLeftOnce_leaveOf
    sessionId
  refine ⟨?_, sends.reads, fun other seq mem => sends.pending otherId seq ?_⟩
  · rw [notified]
    exact host.room.leaveOf_modifySession sessionId
      (g := ({ · with leaveState := .finalized })) (fun _ => rfl) otherId
  · simp only [pendingSeqs, cleared, modifyRoom, modifyChannel, Function.update_of_ne other]
    exact mem

end Detaching

-----------------------------------------------------------------------------------------
-- One round
-----------------------------------------------------------------------------------------

end RoomHost

/-- `IsFinalizeReady` of a record, with the numbers of the packets that wait. -/
def LeaveRecord.Ready (leave : LeaveRecord) (pending : List (BitVec 32)) (now : TimePoint)
    : Prop :=
  if leave.leaveReason = .dead then
    elapsedMs leave.leaveMarkedAt now ≥ PlayerSession.DEATH_GRACE_MS
  else
    leave.leaveNotifyRSeq = 0 ∨ leave.leaveNotifyRSeq ∉ pending
      ∨ elapsedMs leave.leaveMarkedAt now ≥ PlayerSession.LEAVE_FINALIZE_TIMEOUT_MS

/-- The more packets wait, the longer the gate stays closed. -/
theorem LeaveRecord.Ready.mono {leave : LeaveRecord} {pending more : List (BitVec 32)}
    {now : TimePoint} (ready : leave.Ready more now) (subset : ∀ seq ∈ pending, seq ∈ more)
    : leave.Ready pending now := by
  unfold LeaveRecord.Ready at ready ⊢
  split
  · next dead => rwa [if_pos dead] at ready
  · next other =>
      rw [if_neg other] at ready
      exact ready.imp_right (Or.imp_left fun gone mem => gone (subset _ mem))

namespace RoomHost

section Rounds

variable (env : Environment) (host : RoomHost) (sessionId : Nat)

theorem isFinalizeReady_iff (session : PlayerSession) (now : TimePoint)
    : host.isFinalizeReady sessionId session now = true
      ↔ session.leave.Ready (host.pendingSeqs sessionId) now := by
  have pending : (host.wire.channels sessionId).isReliablePending session.leaveNotifyRSeq = true
      ↔ session.leaveNotifyRSeq ∈ host.pendingSeqs sessionId :=
    PendingReliable.contains_iff _ _
  unfold isFinalizeReady LeaveRecord.Ready
  simp only [PlayerSession.leave, ← pending]
  by_cases dead : session.leaveReason = .dead
  · rw [if_pos dead, if_pos dead, decide_eq_true_iff]
  · rw [if_neg dead, if_neg dead]
    by_cases none : session.leaveNotifyRSeq = 0
    · rw [if_pos none]
      exact ⟨fun _ => .inl none, fun _ => rfl⟩
    · rw [if_neg none, or_iff_right none]
      cases (host.wire.channels sessionId).isReliablePending session.leaveNotifyRSeq <;> simp

/-- A session is left aside: its record stays, and nothing that waits for it is dropped. -/
structure Aside (sessionId : Nat) (before after : RoomHost) : Prop where
  record : after.room.leaveOf sessionId = before.room.leaveOf sessionId
  waits : ∀ seq ∈ before.pendingSeqs sessionId, seq ∈ after.pendingSeqs sessionId
  reads : before.wire.reads ≤ after.wire.reads

theorem Aside.trans {sessionId : Nat} {a b c : RoomHost} (first : Aside sessionId a b)
    (second : Aside sessionId b c)
    : Aside sessionId a c where
  record := second.record.trans first.record
  waits seq mem := second.waits seq (first.waits seq mem)
  reads := first.reads.trans second.reads

/-- The turns of others leave a session aside. -/
theorem advanceLeave_aside (now : TimePoint) {otherId : Nat} (ne : otherId ≠ sessionId)
    : Aside sessionId host (host.advanceLeave env now otherId) := by
  unfold advanceLeave
  extract_lets detached
  have first : Aside sessionId host detached := by
    unfold detached
    split
    · exact ⟨rfl, fun _ => id, Nat.le_refl _⟩
    · split
      · obtain ⟨same, sends⟩ := host.detachPlayer_leaveOf env otherId sessionId
        rw [if_neg ne.symm] at same
        exact ⟨same, sends.pending sessionId, sends.reads⟩
      · exact ⟨rfl, fun _ => id, Nat.le_refl _⟩
  split
  · exact first
  · split
    · obtain ⟨same, reads, keeps⟩ := detached.finalizeLeave_leaveOf otherId sessionId
      rw [if_neg ne.symm] at same
      exact first.trans ⟨same, keeps ne.symm, reads⟩
    · exact first

/-- What a session's own turn makes of its record: a session that is leaving is detached, and
it is finished only if the gate is open. Until then its notice waits on.
-/
structure Advance (pending : List (BitVec 32)) (now : TimePoint)
    (leave later : LeaveRecord) (still : List (BitVec 32)) : Prop where
  reason : later.leaveReason = leave.leaveReason
  markedAt : later.leaveMarkedAt = leave.leaveMarkedAt
  notice : later.leaveNotifyRSeq = leave.leaveNotifyRSeq
  staying : later.leaveState = .none ↔ leave.leaveState = .none
  gate : leave.leaveState ≠ .finalized → later.leaveState = .finalized →
    leave.Ready pending now
  waits : later.leaveState ≠ .finalized →
    leave.leaveState ≠ .finalized ∧ ∀ seq ∈ pending, seq ∈ still

/-- A session's own turn. -/
theorem advanceLeave_own (now : TimePoint) {leave : LeaveRecord}
    (stored : host.room.leaveOf sessionId = some leave)
    : host.wire.reads ≤ (host.advanceLeave env now sessionId).wire.reads
      ∧ ∃ later, (host.advanceLeave env now sessionId).room.leaveOf sessionId = some later
        ∧ Advance (host.pendingSeqs sessionId) now leave later
          ((host.advanceLeave env now sessionId).pendingSeqs sessionId) := by
  unfold advanceLeave
  extract_lets detached
  -- After the detaching half the record is detached, or as it was if it was not pending.
  obtain ⟨sends, middle, current, detaches⟩ : Sends host detached
      ∧ ∃ middle, detached.room.leaveOf sessionId = some middle
        ∧ middle = (if leave.leaveState = .pending then { leave with leaveState := .detached }
          else leave) := by
    obtain ⟨session, found, rfl⟩ := Option.map_eq_some_iff.mp stored
    unfold detached
    rw [found]
    dsimp only
    by_cases pending : session.leaveState = .pending
    · obtain ⟨same, sends⟩ := host.detachPlayer_leaveOf env sessionId sessionId
      rw [if_pos rfl, stored, Option.map_some] at same
      rw [if_pos pending, if_pos (show session.leave.leaveState = .pending from pending)]
      exact ⟨sends, _, same, rfl⟩
    · rw [if_neg pending, if_neg (show ¬session.leave.leaveState = .pending from pending)]
      exact ⟨.refl host, _, stored, rfl⟩
  have decided : middle.leaveReason = leave.leaveReason
      ∧ middle.leaveMarkedAt = leave.leaveMarkedAt
      ∧ middle.leaveNotifyRSeq = leave.leaveNotifyRSeq
      ∧ (middle.leaveState = .none ↔ leave.leaveState = .none)
      ∧ (middle.leaveState = .finalized ↔ leave.leaveState = .finalized) := by
    rw [detaches]
    split
    · next pending => simp [pending]
    · simp
  obtain ⟨reason, markedAt, notice, staying, finished⟩ := decided
  have waits : Advance (host.pendingSeqs sessionId) now leave middle
      (detached.pendingSeqs sessionId) :=
    ⟨reason, markedAt, notice, staying, fun going done => absurd (finished.mp done) going,
      fun going => ⟨fun done => going (finished.mpr done), sends.pending sessionId⟩⟩
  obtain ⟨session, found, rfl⟩ := Option.map_eq_some_iff.mp current
  rw [found]
  dsimp only
  split
  · next finishes =>
      obtain ⟨same, reads, _⟩ := detached.finalizeLeave_leaveOf sessionId sessionId
      rw [if_pos rfl, current, Option.map_some] at same
      refine ⟨sends.reads.trans reads, _, same, reason, markedAt, notice, ?_, ?_,
        fun going => absurd rfl going⟩
      · rw [← staying, show session.leave.leaveState = _ from finishes.1]
        exact ⟨nofun, nofun⟩
      intro _ _
      have ready := ((detached.isFinalizeReady_iff sessionId session now).mp finishes.2).mono
        (sends.pending sessionId)
      unfold LeaveRecord.Ready at ready ⊢
      rwa [reason, markedAt, notice] at ready
  · exact ⟨sends.reads, _, current, waits⟩

theorem checkAllLeft_aside : Aside sessionId host host.checkAllLeft := by
  unfold checkAllLeft
  split
  · exact ⟨rfl, fun _ => id, Nat.le_refl _⟩
  · split
    · exact ⟨rfl, fun _ => id, Nat.le_refl _⟩
    · exact ⟨rfl, fun _ => id, Nat.le_refl _⟩

/-- What a round of the leave pipeline makes of a record: the marking half, then the
session's own turn, in which all that waited for it still waits.
-/
theorem processLeaves_leaveOf {leave : LeaveRecord}
    (stored : host.room.leaveOf sessionId = some leave)
    : host.wire.reads ≤ (host.processLeaves env).wire.reads
      ∧ ∃ marked later pending,
        (host.processLeaves env).room.leaveOf sessionId = some later
        ∧ Marking env (host.now env).1 (env.clock host.wire.reads) sessionId leave
          (host.processLeaves env).wire.reads marked
        ∧ Advance pending (env.clock host.wire.reads) marked later
          ((host.processLeaves env).pendingSeqs sessionId)
        ∧ (leave.leaveNotifyRSeq ≠ 0 → leave.leaveNotifyRSeq ∈ host.pendingSeqs sessionId →
          leave.leaveNotifyRSeq ∈ pending) := by
  unfold processLeaves
  dsimp only
  obtain ⟨reads, marked, current, marking, keeps⟩ :=
    (host.now env).1.markLeaves_marking env (host.now env).2 stored
  generalize (host.now env).1.markLeaves env (host.now env).2 = start at *
  have known : sessionId ∈ start.room.playerSessions.keys := by
    obtain ⟨session, found, _⟩ := Option.map_eq_some_iff.mp current
    exact AList.mem_keys.mp (Table.mem_of_lookup found)
  obtain ⟨turn, before, after⟩ := Table.foldl_around_turn (Aside sessionId)
    (fun _ => ⟨rfl, fun _ => id, Nat.le_refl _⟩) (fun _ _ _ => Aside.trans)
    (fun state other ne => state.advanceLeave_aside env sessionId (host.now env).2 ne)
    start.room.playerSessions.keys_nodup known start
  obtain ⟨turnReads, later, own, advance⟩ := turn.advanceLeave_own env sessionId
    (host.now env).2 (before.record.trans current)
  have rest := after.trans (checkAllLeft_aside _ sessionId)
  have limit := before.reads.trans (turnReads.trans rest.reads)
  refine ⟨(Nat.le_succ _).trans (reads.trans limit), marked, later, turn.pendingSeqs sessionId,
    rest.record.trans own, marking.mono limit, ?_, fun named pending => ?_⟩
  · exact { advance with
      waits := fun going =>
        ⟨(advance.waits going).1, fun seq mem => rest.waits seq ((advance.waits going).2 seq mem)⟩ }
  · have same := marking.leaveNotifyRSeq
    rw [← same] at named pending ⊢
    exact before.waits _ (keeps named pending)

end Rounds

end RoomHost

end ExtractionServer.Room
