import ExtractionServer.Room.LifeCycle

/-! The runs of a room from its creation, and what holds of sessions, objects and leave
notices in every state that they reach.
-/

namespace ExtractionServer.Room

open Transport

-----------------------------------------------------------------------------------------
-- The room at its creation
-----------------------------------------------------------------------------------------

/-- A session as the room registers it: everything but the identity of its player and the
items has its initial value.
-/
structure PlayerSession.Fresh (session : PlayerSession) : Prop where
  inventory : ∃ inventorySlots equipmentSlots,
    session.inventory = .ofSlots inventorySlots equipmentSlots
  objectId : session.objectId = none
  interactingContainerId : session.interactingContainerId = none
  sessionState : session.sessionState = .init
  leaveState : session.leaveState = .none
  leaveReason : session.leaveReason = .none
  leftNotified : session.leftNotified = false
  isRecalling : session.isRecalling = false

namespace RoomHost

/-- A room when its group has been registered: its map has placed containers and turrets,
nobody has spawned, nothing has been sent.
-/
structure Fresh (host : RoomHost) : Prop where
  sessions : ∀ sessionId session, host.room.playerSessions.lookup sessionId = some session →
    session.Fresh
  playerObjects : host.room.playerObjects = ∅
  staticObjects : ∀ objectId object, host.room.staticObjects.lookup objectId = some object →
    ∃ box, object = .container box ∧ box.interactingPlayerId = none
  dynamicObjects : ∀ objectId object,
    host.room.dynamicObjects.lookup objectId = some object →
      objectId < host.room.nxtObjectId
        ∧ ∃ position yawAngle, object = .hostileNpc (Turret.create objectId position yawAngle)
  lifetimeExpired : host.room.lifetimeExpired = false
  allLeftReported : host.room.allLeftReported = false
  leftNotices : host.wire.leftNotices = []
  recallTimers : host.wire.recallTimers = []

/-- The runs of a room. -/
def roomSystem (env : Environment) : Transition.System RoomHost Action :=
  .ofNext Fresh (next env)

-----------------------------------------------------------------------------------------
-- What holds in every reachable state
-----------------------------------------------------------------------------------------

end RoomHost

/-- The session has left the room, whether or not its grace period is over. -/
def PlayerSession.isDetached (session : PlayerSession) : Bool :=
  session.leaveState == .detached || session.leaveState == .finalized

/-- The states that the two enums and the reason of a leave can be in together. -/
structure PlayerSession.LeaveConsistent (session : PlayerSession) : Prop where
  reported : session.leftNotified = session.isDetached
  reason : session.leaveReason = .none ↔ session.leaveState = .none
  silenced : session.leaveReason = .recalled ∨ session.leaveReason = .dead
      ∨ session.leftNotified = true →
    session.isActiveState = false ∧ session.sessionState ≠ .init
  withoutObject : session.leftNotified = true → session.objectId = none

namespace RoomHost

/-- The notices that the main process has received about a session. -/
def noticesOf (host : RoomHost) (sessionId : Nat) : List D2MNotifyPlayerLeft :=
  (host.wire.leftNotices.filter (·.1 == sessionId)).map Prod.snd

/-- The invariant of the runs of a room. -/
structure Sound (host : RoomHost) : Prop where
  layout : host.room.Layout
  currentIds : ∀ sessionId session objectId,
    host.room.playerSessions.lookup sessionId = some session →
      session.objectId = some objectId → objectId < host.room.nxtObjectId
  /-- No two sessions share a current object. -/
  owners : ∀ sessionId otherId session other objectId,
    host.room.playerSessions.lookup sessionId = some session →
      host.room.playerSessions.lookup otherId = some other →
      session.objectId = some objectId → other.objectId = some objectId →
      sessionId = otherId
  /-- The dead wait for the leave pipeline. -/
  deaths : ∀ objectId object, host.room.playerObjects.lookup objectId = some object →
    object.combat.isAlive = false → object.combat.deathPending = true
  leaves : ∀ sessionId session, host.room.playerSessions.lookup sessionId = some session →
    session.LeaveConsistent
  notices : ∀ sessionId session, host.room.playerSessions.lookup sessionId = some session →
    host.noticesOf sessionId = if session.leftNotified then [session.leftNotice] else []

/-- A fresh room satisfies the invariant. -/
theorem Fresh.sound {host : RoomHost} (h : host.Fresh) : host.Sound where
  layout := by
    refine ⟨?_, ?_, ?_⟩
    · intro objectId object found
      obtain ⟨box, rfl, _⟩ := h.staticObjects objectId object found
      rfl
    · intro objectId mem
      obtain ⟨object, found⟩ := Table.exists_lookup_of_mem mem
      exact (h.dynamicObjects objectId object found).1
    · intro objectId mem
      rw [h.playerObjects] at mem
      cases mem
  currentIds sessionId session objectId found current := by
    rw [(h.sessions sessionId session found).objectId] at current
    cases current
  owners sessionId otherId session other objectId found _ current _ := by
    rw [(h.sessions sessionId session found).objectId] at current
    cases current
  deaths objectId object found := by
    rw [h.playerObjects] at found
    cases found
  leaves sessionId session found := by
    have fresh := h.sessions sessionId session found
    constructor
    · simp [fresh.leftNotified, PlayerSession.isDetached, fresh.leaveState]
    · simp [fresh.leaveReason, fresh.leaveState]
    · simp [fresh.leaveReason, fresh.leftNotified]
    · exact fun _ => fresh.objectId
  notices sessionId session found := by
    rw [(h.sessions sessionId session found).leftNotified, noticesOf, h.leftNotices]
    rfl

end RoomHost

namespace PlayerSession

/-- What the main process hears depends on the items of recalled players only. -/
theorem leftNotice_congr {session other : PlayerSession} (uid : other.uid = session.uid)
    (leaveReason : other.leaveReason = session.leaveReason)
    (inventory : session.leaveReason = .recalled → other.inventory = session.inventory)
    : other.leftNotice = session.leftNotice := by
  unfold leftNotice
  rw [uid, leaveReason]
  split
  · next recalled => rw [inventory recalled]
  · rfl

/-- A reason is accepted only by a session that has not been detached. -/
theorem staying_of_acceptsLeaveReason {session : PlayerSession} {reason : LeaveReason}
    (accepts : session.acceptsLeaveReason reason = true)
    : reason ≠ .none ∧ session.isDetached = false := by
  unfold acceptsLeaveReason at accepts
  split at accepts
  · cases accepts
  · next some =>
      refine ⟨some, ?_⟩
      cases state : session.leaveState with
      | none => simp [isDetached, state]
      | pending => simp [isDetached, state]
      | detached => simp [state] at accepts
      | finalized => simp [state] at accepts

theorem markLeaving_objectId (session : PlayerSession) (reason : LeaveReason)
    (now : TimePoint) (notifyRSeq : BitVec 32)
    : (session.markLeaving reason now notifyRSeq).objectId = session.objectId := by
  unfold markLeaving
  split <;> rfl

theorem markLeaving_leftNotified (session : PlayerSession) (reason : LeaveReason)
    (now : TimePoint) (notifyRSeq : BitVec 32)
    : (session.markLeaving reason now notifyRSeq).leftNotified = session.leftNotified := by
  unfold markLeaving
  split <;> rfl

theorem markLeaving_inventory (session : PlayerSession) (reason : LeaveReason)
    (now : TimePoint) (notifyRSeq : BitVec 32)
    : (session.markLeaving reason now notifyRSeq).inventory = session.inventory := by
  unfold markLeaving
  split <;> rfl

namespace LeaveConsistent

/-- A session that goes on stays consistent: without the right to act it cannot regain it. -/
theorem continues {before after : PlayerSession} (h : before.LeaveConsistent)
    (goes : before.Continues after)
    : after.LeaveConsistent where
  reported := by
    rw [goes.leftNotified, isDetached, goes.leaveState]
    exact h.reported
  reason := by
    rw [goes.leaveReason, goes.leaveState]
    exact h.reason
  silenced := by
    rw [goes.leaveReason, goes.leftNotified]
    intro decided
    obtain ⟨inactive, opened⟩ := h.silenced decided
    rcases goes.sessionState with same | ⟨early, _⟩
    · rw [isActiveState, same]
      exact ⟨inactive, opened⟩
    · rcases early with init | connected
      · exact absurd init opened
      · simp [isActiveState, connected] at inactive
  withoutObject := by
    rw [goes.leftNotified, goes.objectId]
    exact h.withoutObject

/-- An active session has not been reported. -/
theorem unreported_of_active {session : PlayerSession} (h : session.LeaveConsistent)
    (active : session.isActiveState = true)
    : session.leftNotified = false := by
  cases reported : session.leftNotified with
  | false => rfl
  | true =>
      have inactive := (h.silenced (.inr (.inr reported))).1
      rw [active] at inactive
      cases inactive

/-- A session that has not been detached yet has not been reported. -/
theorem unreported {session : PlayerSession} (h : session.LeaveConsistent)
    (staying : session.isDetached = false)
    : session.leftNotified = false :=
  h.reported.trans staying

/-- Marking a session keeps it consistent: a reason is accepted only before the report. -/
theorem markLeaving {session : PlayerSession} (h : session.LeaveConsistent)
    (reason : LeaveReason) (now : TimePoint) (notifyRSeq : BitVec 32)
    : (session.markLeaving reason now notifyRSeq).LeaveConsistent := by
  unfold PlayerSession.markLeaving
  split
  · next accepts =>
      obtain ⟨some, staying⟩ := staying_of_acceptsLeaveReason accepts
      have unreported := h.unreported staying
      constructor
      · simp [unreported, isDetached]
      · simp [some]
      · intro decided
        rcases decided with rfl | rfl | reported
        · exact ⟨rfl, nofun⟩
        · exact ⟨rfl, nofun⟩
        · exact absurd (unreported.symm.trans reported) nofun
      · intro reported
        exact absurd (unreported.symm.trans reported) nofun
  · exact h

/-- A reported session refuses every further reason. -/
theorem markLeaving_of_reported {session : PlayerSession} (h : session.LeaveConsistent)
    (reported : session.leftNotified = true) {reason : LeaveReason} {now : TimePoint}
    {notifyRSeq : BitVec 32}
    : session.markLeaving reason now notifyRSeq = session := by
  unfold PlayerSession.markLeaving
  split
  · next accepts =>
      obtain ⟨_, staying⟩ := staying_of_acceptsLeaveReason accepts
      exact absurd ((h.unreported staying).symm.trans reported) nofun
  · rfl

/-- A pending session that is detached is consistent again. -/
theorem detachedSession {session : PlayerSession} (h : session.LeaveConsistent)
    (pending : session.leaveState = .pending) (room : GameRoom)
    : (room.detachedSession session).LeaveConsistent where
  reported := by simp [GameRoom.detachedSession, isDetached]
  reason := by
    have leaving : session.leaveReason ≠ .none := by
      rw [Ne, h.reason, pending]
      decide
    simp [GameRoom.detachedSession, PlayerSession.withdraw, PlayerSession.endRecall, leaving]
  silenced _ := by
    simp only [isActiveState, GameRoom.detachedSession, PlayerSession.withdraw]
    split
    · exact ⟨rfl, by decide⟩
    · exact ⟨rfl, by decide⟩
  withoutObject _ := rfl

/-- A detached session stays consistent when its leave is finalized. -/
theorem finalize {session : PlayerSession} (h : session.LeaveConsistent)
    (detached : session.leaveState = .detached)
    : { session with leaveState := .finalized, sessionState := .left : PlayerSession
      }.LeaveConsistent where
  reported := by simp [h.reported, isDetached, detached]
  reason := by simp [h.reason, detached]
  silenced _ := ⟨rfl, nofun⟩
  withoutObject := h.withoutObject

end LeaveConsistent

end PlayerSession

namespace RoomHost

/-- Ordinary changes preserve the invariant. -/
theorem Ordinary.sound {actor : Option Nat} {before after : RoomHost}
    (step : Ordinary actor before after)
    (active : ∀ sessionId, actor = some sessionId →
      ∃ session, before.room.playerSessions.lookup sessionId = some session
        ∧ session.isActiveState = true)
    (h : before.Sound)
    : after.Sound where
  layout := step.room.layout h.layout
  currentIds sessionId session objectId found current := by
    obtain ⟨old, stored, goes, _⟩ := step.room.sessions.old_of_new found
    rw [step.room.nxtObjectId]
    exact h.currentIds sessionId old objectId stored (goes.objectId ▸ current)
  owners sessionId otherId session other objectId found foundOther current currentOther := by
    obtain ⟨old, stored, goes, _⟩ := step.room.sessions.old_of_new found
    obtain ⟨oldOther, storedOther, goesOther, _⟩ :=
      step.room.sessions.old_of_new foundOther
    exact h.owners sessionId otherId old oldOther objectId stored storedOther
      (goes.objectId ▸ current) (goesOther.objectId ▸ currentOther)
  deaths objectId object found dead := by
    obtain ⟨old, stored, goes⟩ := step.room.objects.old_of_new found
    rcases goes.newlyDead dead with dead | pending
    · exact goes.pending (h.deaths objectId old stored dead)
    · exact pending
  leaves sessionId session found := by
    obtain ⟨old, stored, goes, _⟩ := step.room.sessions.old_of_new found
    exact (h.leaves sessionId old stored).continues goes
  notices sessionId session found := by
    obtain ⟨old, stored, goes, frame⟩ := step.room.sessions.old_of_new found
    have same : after.noticesOf sessionId = before.noticesOf sessionId := by
      rw [noticesOf, noticesOf, step.leftNotices]
    have notice : session.leftNotice = old.leftNotice := by
      apply PlayerSession.leftNotice_congr goes.uid goes.leaveReason
      intro recalled
      apply frame
      intro acts
      obtain ⟨actor, present, inPlay⟩ := active sessionId acts.symm
      rw [stored] at present
      cases present
      have silent := ((h.leaves sessionId old stored).silenced (.inl recalled)).1
      rw [inPlay] at silent
      cases silent
    rw [same, goes.leftNotified, notice]
    exact h.notices sessionId old stored

/-- A change of one session preserves the invariant, if the session stays consistent, has a
current object that is old or new to the room, and its notices fit.
-/
theorem Sound.modifySession {before after : RoomHost} (h : before.Sound) {sessionId : Nat}
    {session changed : PlayerSession}
    (found : before.room.playerSessions.lookup sessionId = some session)
    (sessions : after.room.playerSessions
      = before.room.playerSessions.adjust sessionId fun _ => changed)
    (layout : after.room.Layout)
    (counter : before.room.nxtObjectId ≤ after.room.nxtObjectId)
    (deaths : ∀ objectId object, after.room.playerObjects.lookup objectId = some object →
      object.combat.isAlive = false → object.combat.deathPending = true)
    (consistent : changed.LeaveConsistent)
    (current : ∀ objectId, changed.objectId = some objectId →
      session.objectId = some objectId
        ∨ objectId = before.room.nxtObjectId ∧ objectId < after.room.nxtObjectId)
    (others : ∀ otherId, otherId ≠ sessionId →
      after.noticesOf otherId = before.noticesOf otherId)
    (own : after.noticesOf sessionId
      = if changed.leftNotified then [changed.leftNotice] else [])
    : after.Sound := by
  have cases {otherId : Nat} {other : PlayerSession}
      (present : after.room.playerSessions.lookup otherId = some other)
      : otherId = sessionId ∧ other = changed
        ∨ otherId ≠ sessionId ∧ before.room.playerSessions.lookup otherId = some other := by
    rw [sessions] at present
    rcases Table.lookup_adjust_cases present with ⟨same, _, _, new⟩ | old
    · exact .inl ⟨same, new⟩
    · exact .inr old
  -- The current id of the changed session is nobody else's: it is its old one or fresh.
  have apart {otherId : Nat} {other : PlayerSession} {objectId : Nat}
      (ne : otherId ≠ sessionId)
      (present : before.room.playerSessions.lookup otherId = some other)
      (theirs : other.objectId = some objectId) (mine : changed.objectId = some objectId)
      : False := by
    rcases current objectId mine with old | ⟨fresh, _⟩
    · exact ne (h.owners otherId sessionId other session objectId present found theirs old)
    · have bound := h.currentIds otherId other objectId present theirs
      exact absurd (fresh ▸ bound) (Nat.lt_irrefl _)
  constructor
  · exact layout
  · intro otherId other objectId present theirs
    rcases cases present with ⟨rfl, rfl⟩ | ⟨_, old⟩
    · rcases current objectId theirs with old | ⟨_, fresh⟩
      · exact (h.currentIds otherId session objectId found old).trans_le counter
      · exact fresh
    · exact (h.currentIds otherId other objectId old theirs).trans_le counter
  · intro firstId secondId first second objectId presentFirst presentSecond ofFirst ofSecond
    rcases cases presentFirst with ⟨rfl, rfl⟩ | ⟨neFirst, oldFirst⟩
    · rcases cases presentSecond with ⟨rfl, _⟩ | ⟨neSecond, oldSecond⟩
      · rfl
      · exact absurd (apart neSecond oldSecond ofSecond ofFirst) not_false
    · rcases cases presentSecond with ⟨rfl, rfl⟩ | ⟨_, oldSecond⟩
      · exact absurd (apart neFirst oldFirst ofFirst ofSecond) not_false
      · exact h.owners firstId secondId first second objectId oldFirst oldSecond ofFirst
          ofSecond
  · exact deaths
  · intro otherId other present
    rcases cases present with ⟨rfl, rfl⟩ | ⟨_, old⟩
    · exact consistent
    · exact h.leaves otherId other old
  · intro otherId other present
    rcases cases present with ⟨rfl, rfl⟩ | ⟨ne, old⟩
    · exact own
    · rw [others otherId ne]
      exact h.notices otherId other old

/-- The fresh id of a spawned object is nobody's, and the object lives. -/
theorem Spawned.sound {sessionId : Nat} {session : PlayerSession} {before after : RoomHost}
    (step : Spawned sessionId before after) (h : before.Sound)
    (found : before.room.playerSessions.lookup sessionId = some session)
    (active : session.isActiveState = true)
    : after.Sound := by
  have consistent := h.leaves sessionId session found
  have unreported := consistent.unreported_of_active active
  have fresh : before.room.nxtObjectId ∉ before.room.playerObjects :=
    fun taken => Nat.lt_irrefl _ (h.layout.playerIds _ taken)
  have same (otherId : Nat) : after.noticesOf otherId = before.noticesOf otherId := by
    rw [noticesOf, noticesOf, step.leftNotices]
  obtain ⟨object, alive, objects⟩ := step.objects h.layout
  have sessions : after.room.playerSessions = before.room.playerSessions.adjust sessionId
      fun _ => { session with objectId := some before.room.nxtObjectId } := by
    rw [step.sessions]
    apply Table.adjust_congr
    intro stored present
    rw [Option.some.inj (present.symm.trans found)]
  refine h.modifySession found sessions ?_ ?_ ?_ ?_ ?_ (fun otherId _ => same otherId) ?_
  · constructor
    · rw [step.staticObjects]
      exact h.layout.staticContainers
    · intro objectId mem
      rw [step.dynamicObjects] at mem
      rw [step.nxtObjectId]
      exact (h.layout.dynamicIds objectId mem).trans (Nat.lt_succ_self _)
    · intro objectId mem
      rw [objects] at mem
      rw [step.nxtObjectId]
      rcases Table.mem_tryEmplace mem with rfl | old
      · exact Nat.lt_succ_self _
      · exact (h.layout.playerIds objectId old).trans (Nat.lt_succ_self _)
  · rw [step.nxtObjectId]
    exact Nat.le_succ _
  · intro objectId stored present dead
    rw [objects] at present
    rcases Table.lookup_tryEmplace_cases fresh present with ⟨_, rfl⟩ | old
    · rw [alive] at dead
      cases dead
    · exact h.deaths objectId stored old dead
  · refine ⟨consistent.reported, consistent.reason, consistent.silenced, ?_⟩
    intro reported
    exact absurd (unreported.symm.trans reported) nofun
  · intro objectId current
    cases current
    exact .inr ⟨rfl, step.nxtObjectId ▸ Nat.lt_succ_self _⟩
  · rw [same, h.notices sessionId session found]
    rfl

/-- A step that writes one session and nothing else preserves the invariant. -/
theorem Sound.writeSession {before after : RoomHost} (h : before.Sound) {sessionId : Nat}
    {session : PlayerSession} {f : PlayerSession → PlayerSession}
    (found : before.room.playerSessions.lookup sessionId = some session)
    (step : after.outcome = (before.modifySession sessionId f).outcome)
    (consistent : (f session).LeaveConsistent)
    (objectId : (f session).objectId = session.objectId)
    (leftNotified : (f session).leftNotified = session.leftNotified)
    (leftNotice : session.leftNotified = true → (f session).leftNotice = session.leftNotice)
    : after.Sound := by
  have room := room_eq_of_outcome step
  have notices : after.wire.leftNotices = before.wire.leftNotices := congrArg Prod.snd step
  have same (otherId : Nat) : after.noticesOf otherId = before.noticesOf otherId := by
    rw [noticesOf, noticesOf, notices]
  have sessions : after.room.playerSessions
      = before.room.playerSessions.adjust sessionId fun _ => f session := by
    rw [room]
    apply Table.adjust_congr
    intro stored present
    rw [Option.some.inj (present.symm.trans found)]
  refine h.modifySession found sessions ?_ ?_ ?_ consistent ?_
    (fun otherId _ => same otherId) ?_
  · rw [room]
    exact ⟨h.layout.staticContainers, h.layout.dynamicIds, h.layout.playerIds⟩
  · rw [room]
    exact Nat.le_refl _
  · rw [room]
    exact h.deaths
  · intro current mine
    exact .inl (objectId ▸ mine)
  · rw [same, h.notices sessionId session found, leftNotified]
    split
    · next reported => rw [leftNotice reported]
    · rfl

/-- A detach removes the session's object and reports the session for the first time. -/
theorem Detached.sound {sessionId : Nat} {session : PlayerSession} {before after : RoomHost}
    (step : Detached sessionId session before after) (h : before.Sound)
    (found : before.room.playerSessions.lookup sessionId = some session)
    (pending : session.leaveState = .pending)
    : after.Sound := by
  have consistent := h.leaves sessionId session found
  have unreported : session.leftNotified = false :=
    consistent.unreported (by simp [PlayerSession.isDetached, pending])
  refine h.modifySession found step.sessions (step.layout h.layout) step.nxtObjectId ?_
    (consistent.detachedSession pending before.room) nofun ?_ ?_
  · intro objectId object present
    rw [step.objects] at present
    apply h.deaths objectId object
    cases current : session.objectId with
    | none => rwa [current] at present
    | some removed =>
        rw [current, GameRoom.objectsWithout] at present
        by_cases same : objectId = removed
        · subst same
          rw [AList.lookup_erase] at present
          cases present
        · rwa [AList.lookup_erase_ne same] at present
  · intro otherId ne
    have skipped : (sessionId == otherId) = false := by simpa using ne.symm
    simp [noticesOf, step.leftNotices, skipped]
  · have none : before.noticesOf sessionId = [] := by
      rw [h.notices sessionId session found, unreported]
      rfl
    simp only [noticesOf] at none
    simp [noticesOf, step.leftNotices, none, GameRoom.detachedSession]

/-- Marking a session preserves the invariant. -/
theorem Sound.markLeaving {before after : RoomHost} (h : before.Sound) {sessionId : Nat}
    {reason : LeaveReason} {now : TimePoint} {notifyRSeq : BitVec 32}
    (step : after.outcome
      = (before.modifySession sessionId (·.markLeaving reason now notifyRSeq)).outcome)
    : after.Sound := by
  cases found : before.room.playerSessions.lookup sessionId with
  | none =>
      have unchanged : before.modifySession sessionId
          (·.markLeaving reason now notifyRSeq) = before := by
        simp only [RoomHost.modifySession, modifyRoom, GameRoom.modifySession,
          Table.adjust_of_lookup_none found]
      rw [unchanged] at step
      have idle : Ordinary none before after := .of_outcome step
      exact idle.sound (fun _ acts => by cases acts) h
  | some session =>
      have consistent := h.leaves sessionId session found
      refine h.writeSession found step (consistent.markLeaving reason now notifyRSeq) ?_ ?_
        fun reported => ?_
      · exact session.markLeaving_objectId reason now notifyRSeq
      · exact session.markLeaving_leftNotified reason now notifyRSeq
      · rw [consistent.markLeaving_of_reported reported]

variable {spawner : GameRoom → PlayerSession → Bool} {before after : RoomHost}

/-- Every move preserves the invariant. -/
theorem Move.sound (move : Move spawner before after) (h : before.Sound) : after.Sound := by
  cases move with
  | act step =>
      cases step with
      | ordinary actor step active => exact step.sound active h
      | spawn sessionId session found active meets step => exact step.sound h found active
      | recalled sessionId session object now notifyRSeq found staying current alive step =>
          exact h.markLeaving step
  | mark sessionId reason now notifyRSeq notRecalled step => exact h.markLeaving step
  | detach sessionId session found pending step =>
      have consistent := h.leaves sessionId session found
      refine (step ?_).sound h found pending
      exact consistent.unreported (by simp [PlayerSession.isDetached, pending])
  | finalize sessionId session found detached step =>
      have consistent := h.leaves sessionId session found
      have gone : session.isDetached = true := by simp [PlayerSession.isDetached, detached]
      exact h.writeSession found (step (consistent.reported.trans gone))
        (consistent.finalize detached) rfl rfl (fun _ => rfl)

/-- A sequence of moves preserves the invariant. -/
theorem Moves.sound (moves : Moves spawner before after) (h : before.Sound)
    : after.Sound := by
  induction moves with
  | refl => exact h
  | tail _ move ih => exact move.sound ih

/-- The invariant holds in every reachable state. -/
theorem sound_of_reachable {env : Environment} {host : RoomHost}
    (reached : (roomSystem env).Reachable host)
    : host.Sound := by
  refine Transition.System.Inductive.reachable ⟨fun _ => Fresh.sound, ?_⟩ reached
  intro before action after sound step
  exact (next_moves step (before.spawnMeets_any action)).sound sound

-----------------------------------------------------------------------------------------
-- What a session keeps
-----------------------------------------------------------------------------------------

end RoomHost

/-- What stays of a session whatever happens: its player, that it is leaving or has left, and
a reason other than a lost connection, with the items of a recalled player.
-/
structure PlayerSession.Keeps (before after : PlayerSession) : Prop where
  uid : after.uid = before.uid
  leaving : before.isLeaving = true → after.isLeaving = true
  detached : before.isDetached = true → after.isDetached = true
  reason : before.leaveReason = .recalled ∨ before.leaveReason = .dead
      ∨ before.isDetached = true →
    after.leaveReason = before.leaveReason
  inventory : before.leaveReason = .recalled → after.inventory = before.inventory

namespace PlayerSession.Keeps

theorem refl (session : PlayerSession) : session.Keeps session :=
  ⟨rfl, id, id, fun _ => rfl, fun _ => rfl⟩

theorem trans {a b c : PlayerSession} (first : a.Keeps b) (second : b.Keeps c)
    : a.Keeps c where
  uid := second.uid.trans first.uid
  leaving h := second.leaving (first.leaving h)
  detached h := second.detached (first.detached h)
  reason h := by
    have same := first.reason h
    refine (second.reason ?_).trans same
    rw [same]
    exact h.imp_right (Or.imp_right first.detached)
  inventory h := by
    refine (second.inventory ?_).trans (first.inventory h)
    rw [first.reason (.inl h), h]

/-- A session that goes on keeps everything but, as long as it may act, its items. -/
theorem of_continues {before after : PlayerSession} (goes : before.Continues after)
    (inventory : before.leaveReason = .recalled → after.inventory = before.inventory)
    : before.Keeps after where
  uid := goes.uid
  leaving h := by rwa [isLeaving, goes.leaveState]
  detached h := by rwa [isDetached, goes.leaveState]
  reason _ := goes.leaveReason
  inventory := inventory

/-- A decided reason is never overwritten. -/
theorem markLeaving (session : PlayerSession) (reason : LeaveReason) (now : TimePoint)
    (notifyRSeq : BitVec 32)
    (staying : session.leaveState = .none → session.leaveReason = .none)
    : session.Keeps (session.markLeaving reason now notifyRSeq) := by
  unfold PlayerSession.markLeaving
  split
  · next accepts =>
      obtain ⟨_, undetached⟩ := staying_of_acceptsLeaveReason accepts
      have undecided : session.leaveReason ≠ .recalled ∧ session.leaveReason ≠ .dead := by
        unfold acceptsLeaveReason at accepts
        cases state : session.leaveState <;> simp_all
      refine ⟨rfl, fun _ => rfl, fun gone => ?_, fun h => ?_, fun _ => rfl⟩
      · rw [undetached] at gone
        cases gone
      · rw [undetached] at h
        simp [undecided] at h
  · exact refl session

/-- A detach keeps the reason, and the items of a recalled player. -/
theorem detachedSession (session : PlayerSession) (room : GameRoom)
    : session.Keeps (room.detachedSession session) where
  uid := rfl
  leaving _ := rfl
  detached _ := rfl
  reason _ := rfl
  inventory recalled := by
    have kept : ¬(session.leaveReason = .dead ∨ session.leaveReason = .disconnected) := by
      simp [recalled]
    exact if_neg fun both => kept both.2

end PlayerSession.Keeps

namespace RoomHost

variable {spawner : GameRoom → PlayerSession → Bool} {before after : RoomHost}

/-- What the sessions of a room keep. -/
abbrev Keeps (before after : RoomHost) : Prop :=
  Table.Related (fun _ => PlayerSession.Keeps) before.room.playerSessions
    after.room.playerSessions

/-- Writing one session in a way that it keeps what it has to. -/
theorem keeps_of_adjust {sessionId : Nat} {f : PlayerSession → PlayerSession}
    (step : after.room.playerSessions = before.room.playerSessions.adjust sessionId f)
    (keeps : ∀ session, before.room.playerSessions.lookup sessionId = some session →
      session.Keeps (f session))
    : before.Keeps after := by
  rw [Keeps, step]
  exact .adjust (fun _ => PlayerSession.Keeps.refl) keeps

theorem keeps_of_writeSession {sessionId : Nat} {f : PlayerSession → PlayerSession}
    (step : after.outcome = (before.modifySession sessionId f).outcome)
    (keeps : ∀ session, before.room.playerSessions.lookup sessionId = some session →
      session.Keeps (f session))
    : before.Keeps after := by
  have room := room_eq_of_outcome step
  refine keeps_of_adjust ?_ keeps
  rw [room]
  rfl

/-- Marking a session as leaving keeps a decided reason. -/
theorem Sound.keeps_markLeaving (h : before.Sound) {sessionId : Nat} {reason : LeaveReason}
    {now : TimePoint} {notifyRSeq : BitVec 32}
    (step : after.outcome
      = (before.modifySession sessionId (·.markLeaving reason now notifyRSeq)).outcome)
    : before.Keeps after := by
  refine keeps_of_writeSession step ?_
  intro session found
  exact .markLeaving session reason now notifyRSeq (h.leaves sessionId session found).reason.mpr

/-- Every session keeps what it has to along a move. -/
theorem Move.keeps (move : Move spawner before after) (h : before.Sound)
    : before.Keeps after := by
  cases move with
  | act step =>
      cases step with
      | ordinary actor step active =>
          refine ⟨step.room.sessions.keys, fun sessionId old new found present => ?_⟩
          obtain ⟨goes, frame⟩ :=
            step.room.sessions.values sessionId old new found present
          refine .of_continues goes fun recalled => frame fun acts => ?_
          obtain ⟨actor, stored, inPlay⟩ := active sessionId acts.symm
          cases found.symm.trans stored
          have silent := ((h.leaves sessionId old found).silenced (.inl recalled)).1
          rw [inPlay] at silent
          cases silent
      | spawn sessionId session found active meets step =>
          exact keeps_of_adjust step.sessions
            fun _ _ => ⟨rfl, id, id, fun _ => rfl, fun _ => rfl⟩
      | recalled sessionId session object now notifyRSeq found staying current alive step =>
          exact h.keeps_markLeaving step
  | mark sessionId reason now notifyRSeq notRecalled step => exact h.keeps_markLeaving step
  | detach sessionId session found pending step =>
      have consistent := h.leaves sessionId session found
      have unreported := consistent.unreported (by simp [PlayerSession.isDetached, pending])
      refine keeps_of_adjust (step unreported).sessions fun stored present => ?_
      cases found.symm.trans present
      exact .detachedSession session before.room
  | finalize sessionId session found detached step =>
      have consistent := h.leaves sessionId session found
      have reported := consistent.reported.trans
        (show session.isDetached = true by simp [PlayerSession.isDetached, detached])
      refine keeps_of_writeSession (step reported) ?_
      exact fun _ _ => ⟨rfl, fun _ => rfl, fun _ => rfl, fun _ => rfl, fun _ => rfl⟩

/-- Sessions keep what they have to along a sequence of moves, by induction. -/
theorem Moves.keeps (moves : Moves spawner before after) (h : before.Sound)
    : before.Keeps after := by
  induction moves with
  | refl => exact .refl (fun _ => PlayerSession.Keeps.refl) _
  | tail moves move ih =>
      exact ih.trans (fun _ _ _ _ => PlayerSession.Keeps.trans)
        (move.keeps (Moves.sound moves h))

/-- Sessions keep what they have to along a run, by induction. -/
theorem keeps_of_run {env : Environment} {first last : RoomHost} {actions : List Action}
    (run : (roomSystem env).Run first actions last) (h : first.Sound)
    : first.Keeps last ∧ last.Sound := by
  induction run with
  | nil => exact ⟨.refl (fun _ => PlayerSession.Keeps.refl) _, h⟩
  | cons step _ ih =>
      have moves := next_moves step (spawnMeets_any _ _)
      obtain ⟨keeps, sound⟩ := ih (Moves.sound moves h)
      exact ⟨(Moves.keeps moves h).trans (fun _ _ _ _ => PlayerSession.Keeps.trans) keeps,
        sound⟩

-----------------------------------------------------------------------------------------
-- Small rooms to run
-----------------------------------------------------------------------------------------

/-- A clock that advances by a millisecond with every reading, and a map where everything
is within reach.
-/
def openField : Environment where
  clock reads := reads * 1000000
  digest _ _ _ := 0
  isWithinInteractRange _ _ := true
  recallZoneContains _ _ _ := true
  byteSize _ := 1

/-- A player as registered, with given items. -/
def newcomer (uid : Int) (inventorySlots equipmentSlots : List Slot) : PlayerSession where
  uid
  userId := "player"
  characterType := 0
  securityKey := 0
  inventory := .ofSlots inventorySlots equipmentSlots

/-- A room for given sessions on an empty map. -/
def emptyMap (sessions : Table Nat PlayerSession) : RoomHost where
  room := { roomId := 1, mapId := 1, playerSessions := sessions, spawnSpots := [{}] }

theorem emptyMap_fresh {sessions : Table Nat PlayerSession}
    (fresh : ∀ session ∈ sessions.values, session.Fresh)
    : (emptyMap sessions).Fresh where
  sessions sessionId session found := fresh session (Table.mem_values_iff.mpr ⟨_, found⟩)
  playerObjects := rfl
  staticObjects objectId object found := by cases found
  dynamicObjects objectId object found := by cases found
  lifetimeExpired := rfl
  allLeftReported := rfl
  leftNotices := rfl
  recallTimers := rfl

/-- One player alone. -/
def soloRoom : RoomHost := emptyMap (AList.singleton 1 (newcomer 1 [] []))

theorem soloRoom_fresh : soloRoom.Fresh := by
  refine emptyMap_fresh fun session mem => ?_
  obtain rfl := List.mem_singleton.mp mem
  exact ⟨⟨[], [], rfl⟩, rfl, rfl, rfl, rfl, rfl, rfl, rfl⟩

/-- A reliable request with a sequence number. -/
def request (sessionId : Nat) (sequence : BitVec 32) (pkt : C2DPacket) : Action :=
  .packet sessionId
    { packetId := 0, sessionId := BitVec.ofNat 16 sessionId, rSeqNum := sequence, uSeqNum := 0,
      flags := FLAG_RELIABLE }
    {} pkt

/-- The room at the end of a list of actions, or unchanged where one is not enabled. -/
def endOf (env : Environment) (guard : RoomHost → Action → RoomHost → Bool)
    (host : RoomHost) (actions : List Action)
    : RoomHost :=
  (Transition.replay (next env) guard host actions).getD host

/-- A replay that succeeds ends in a reachable state. -/
theorem reachable_endOf (env : Environment) (guard : RoomHost → Action → RoomHost → Bool)
    {host : RoomHost} (fresh : host.Fresh) (actions : List Action)
    (succeeds : (Transition.replay (next env) guard host actions).isSome = true)
    : ((roomSystem env).restrict fun before action after =>
        guard before action after = true).Reachable (endOf env guard host actions) :=
  (Transition.System.Run.of_replay Fresh (next env) guard actions host host succeeds).reachable
    (.initial fresh)

end RoomHost

end ExtractionServer.Room
