import ExtractionServer.Room.RoomRuns

/-! The death of a player. Between the lethal hit and the next round of the leave pipeline the
session still counts as active; unless it spawns again in that gap, the pipeline finds it, and
from then on it neither owns an object nor acts.
-/

namespace ExtractionServer.Room

open Transport

namespace RoomHost

/-- A session that may spawn: its current object, if any, lives, or it is leaving anyway. -/
def undead (room : GameRoom) (session : PlayerSession) : Bool :=
  session.isLeaving || (room.currentObject session).all (·.combat.isAlive)

variable {env : Environment} {before after : RoomHost} {sessionId objectId : Nat}

/-- The current object of a staying session is dead. -/
def Dying (sessionId objectId : Nat) (host : RoomHost) : Prop :=
  ∃ session object, host.room.playerSessions.lookup sessionId = some session
    ∧ session.isLeaving = false ∧ session.objectId = some objectId
    ∧ host.room.playerObjects.lookup objectId = some object
    ∧ object.combat.isAlive = false

/-- The session is leaving because of its death. -/
def Killed (sessionId : Nat) (host : RoomHost) : Prop :=
  ∃ session, host.room.playerSessions.lookup sessionId = some session
    ∧ session.leaveReason = .dead

/-- The session has been detached after its death. -/
def Buried (sessionId : Nat) (host : RoomHost) : Prop :=
  ∃ session, host.room.playerSessions.lookup sessionId = some session
    ∧ session.leaveReason = .dead ∧ session.isDetached = true

-----------------------------------------------------------------------------------------
-- Waiting for the pipeline
-----------------------------------------------------------------------------------------

/-- No act brings a dying session back, if the dead do not spawn. -/
theorem Act.dying (act : Act undead before after) (sound : before.Sound)
    (h : before.Dying sessionId objectId)
    : after.Dying sessionId objectId := by
  obtain ⟨session, object, found, staying, current, present, dead⟩ := h
  have located : before.room.currentObject session = some object := by
    rw [GameRoom.currentObject, current]
    exact present
  cases act with
  | ordinary actor step active =>
      obtain ⟨later, stored, goes, _⟩ := step.room.sessions.new_of_old found
      obtain ⟨corpse, remains, rots⟩ := step.room.objects.new_of_old present
      refine ⟨later, corpse, stored, ?_, goes.objectId.trans current, remains, rots.dead dead⟩
      rw [PlayerSession.isLeaving, goes.leaveState]
      exact staying
  | spawn otherId other stored active meets step =>
      have ne : sessionId ≠ otherId := by
        rintro rfl
        cases found.symm.trans stored
        simp [undead, staying, located, dead] at meets
      obtain ⟨newcomer, _, objects⟩ := step.objects sound.layout
      refine ⟨session, object, ?_, staying, current, ?_, dead⟩
      · rw [step.sessions, Table.lookup_adjust_ne ne, found]
      · rw [objects, Table.lookup_tryEmplace_ne, present]
        rintro rfl
        exact absurd (sound.layout.playerIds _ (Table.mem_of_lookup present))
          (Nat.lt_irrefl _)
  | recalled otherId other target now notifyRSeq stored stays standing alive step =>
      have ne : sessionId ≠ otherId := by
        rintro rfl
        cases found.symm.trans stored
        cases located.symm.trans standing
        rw [dead] at alive
        cases alive
      rw [Dying, room_eq_of_outcome step]
      refine ⟨session, object, ?_, staying, current, present, dead⟩
      exact (Table.lookup_adjust_ne ne _ _).trans found

theorem Acts.dying (acts : Acts undead before after) (sound : before.Sound)
    (h : before.Dying sessionId objectId)
    : after.Dying sessionId objectId := by
  induction acts with
  | refl => exact h
  | tail acts act ih => exact act.dying (Moves.sound (Acts.moves acts) sound) ih

/-- A death waits for the pipeline along any run without its rounds, by induction. -/
theorem dying_of_run {actions : List Action}
    (run : ((roomSystem env).restrict fun before action _ =>
      before.spawnMeets env undead action = true).Run before actions after)
    (waiting : Action.processLeaves ∉ actions) (sound : before.Sound)
    (h : before.Dying sessionId objectId)
    : after.Sound ∧ after.Dying sessionId objectId := by
  induction run with
  | nil => exact ⟨sound, h⟩
  | cons step _ ih =>
      obtain ⟨other, later⟩ := not_or.mp fun among => waiting (List.mem_cons.mpr among)
      have acts := next_acts step.1 step.2 (Ne.symm other)
      exact ih later (Moves.sound (Acts.moves acts) sound) (Acts.dying acts sound h)

-----------------------------------------------------------------------------------------
-- One round of the pipeline
-----------------------------------------------------------------------------------------

variable {spawner : GameRoom → PlayerSession → Bool}

/-- A death is never taken back. -/
theorem Killed.moves (h : before.Killed sessionId) (sound : before.Sound)
    (moves : Moves spawner before after)
    : after.Killed sessionId := by
  obtain ⟨session, found, reason⟩ := h
  obtain ⟨later, stored, keeps⟩ := (Moves.keeps moves sound).new_of_old found
  exact ⟨later, stored, (keeps.reason (.inr (.inl reason))).trans reason⟩

/-- Marking a dying session as dead decides its leave. -/
theorem Dying.markLeaving_killed {host : RoomHost} (h : host.Dying sessionId objectId)
    (notifyRSeq : BitVec 32)
    : (host.markLeaving env sessionId .dead notifyRSeq).Killed sessionId := by
  obtain ⟨session, _, found, staying, _⟩ := h
  refine ⟨session.markLeaving .dead (env.clock host.wire.reads) notifyRSeq, ?_, ?_⟩
  · exact (Table.lookup_adjust_self sessionId _ _).trans (congrArg _ found)
  · have accepts : session.acceptsLeaveReason .dead = true := by
      have state : session.leaveState = .none := by
        simpa [PlayerSession.isLeaving] using staying
      simp [PlayerSession.acceptsLeaveReason, state]
    rw [PlayerSession.markLeaving, if_pos accepts]

/-- Marking some session as dead leaves a dying session dying or kills it. -/
theorem Dying.markLeaving {host : RoomHost} (h : host.Dying sessionId objectId)
    (otherId : Nat) (notifyRSeq : BitVec 32)
    : (host.markLeaving env otherId .dead notifyRSeq).Dying sessionId objectId
      ∨ (host.markLeaving env otherId .dead notifyRSeq).Killed sessionId := by
  by_cases same : sessionId = otherId
  · subst same
    exact .inr (h.markLeaving_killed notifyRSeq)
  · obtain ⟨session, object, found, staying, current, present, dead⟩ := h
    refine .inl ⟨session, object, ?_, staying, current, present, dead⟩
    exact (Table.lookup_adjust_ne same _ _).trans found

/-- The condition of a session whose player has died, anywhere in the marking loops. -/
def Doomed (sessionId objectId : Nat) (host : RoomHost) : Prop :=
  host.Sound ∧ (host.Dying sessionId objectId ∨ host.Killed sessionId)

theorem Doomed.markLeaving {host : RoomHost} (h : host.Doomed sessionId objectId)
    (otherId : Nat) (notifyRSeq : BitVec 32)
    : (host.markLeaving env otherId .dead notifyRSeq).Doomed sessionId objectId := by
  have move : Moves undead host (host.markLeaving env otherId .dead notifyRSeq) :=
    .single (host.markLeaving_move env otherId .dead nofun notifyRSeq)
  refine ⟨Moves.sound move h.1, ?_⟩
  rcases h.2 with dying | killed
  · exact dying.markLeaving otherId notifyRSeq
  · exact .inr (killed.moves h.1 move)

theorem Doomed.allKill {host : RoomHost} (h : host.Doomed sessionId objectId)
    : (host.allKill env).Doomed sessionId objectId :=
  List.foldlRecOn _ _ (motive := Doomed sessionId objectId) h
    fun _ doomed otherId _ => doomed.markLeaving otherId 0

/-- The lookup from a dead object's id finds its session. -/
theorem Dying.findSessionByObjectId {host : RoomHost} (h : host.Dying sessionId objectId)
    (sound : host.Sound)
    : host.room.findSessionByObjectId objectId = some sessionId := by
  obtain ⟨session, _, found, _, current, _⟩ := h
  unfold GameRoom.findSessionByObjectId
  cases search : host.room.playerSessions.entries.find? fun entry =>
      entry.2.objectId == some objectId with
  | none =>
      have missed := List.find?_eq_none.mp search _ (Table.mem_entries_iff.mpr found)
      simp [current] at missed
  | some entry =>
      have mem := Table.mem_entries_iff.mp (List.mem_of_find?_eq_some search)
      have theirs : entry.2.objectId = some objectId := by
        simpa using List.find?_some search
      exact congrArg some
        (sound.owners entry.1 sessionId entry.2 session objectId mem found theirs current)

/-- One turn of the marking of dead sessions. -/
theorem Doomed.markDead_turn {host : RoomHost} (h : host.Doomed sessionId objectId)
    (deadObjectId : Nat)
    : Doomed sessionId objectId
        (match host.room.findSessionByObjectId deadObjectId with
          | none => host
          | some otherId => host.markLeaving env otherId .dead 0) := by
  split
  · exact h
  · exact h.markLeaving _ 0

/-- The marking of dead sessions decides the leave of a dying session: its object waits
among the dead ones, and the lookup finds the session.
-/
theorem Doomed.markDead {host : RoomHost} (h : host.Doomed sessionId objectId)
    : (host.markDead env).Sound ∧ (host.markDead env).Killed sessionId := by
  have moves : Moves undead host (host.markDead env) := host.markDead_moves
  refine ⟨Moves.sound moves h.1, ?_⟩
  rcases h.2 with dying | killed
  · have ofDying := dying
    obtain ⟨session, object, found, staying, current, present, dead⟩ := ofDying
    have pending := h.1.deaths objectId object present dead
    have among : objectId ∈
        (host.room.playerObjects.entries.filter (·.2.combat.deathPending)).map Sigma.fst := by
      refine List.mem_map.mpr ⟨⟨objectId, object⟩, List.mem_filter.mpr ⟨?_, pending⟩, rfl⟩
      exact Table.mem_entries_iff.mpr present
    unfold RoomHost.markDead
    refine Table.foldl_establishes (P := Doomed sessionId objectId) (Q := Killed sessionId)
      (fun reached deadId _ doomed => doomed.markDead_turn deadId) ?_ among ?_ h
    · intro reached deadId _ doomed killed
      have turn : Moves undead reached _ := reached.markDeadTurn_moves env deadId
      exact killed.moves doomed.1 turn
    · intro reached doomed
      rcases doomed.2 with dying | killed
      · rw [dying.findSessionByObjectId doomed.1]
        exact dying.markLeaving_killed 0
      · have turn : Moves undead reached _ := reached.markDeadTurn_moves env objectId
        exact killed.moves doomed.1 turn
  · exact killed.moves h.1 moves

/-- A burial is never taken back. -/
theorem Buried.moves (h : before.Buried sessionId) (sound : before.Sound)
    (moves : Moves spawner before after)
    : after.Buried sessionId := by
  obtain ⟨session, found, reason, gone⟩ := h
  obtain ⟨later, stored, keeps⟩ := (Moves.keeps moves sound).new_of_old found
  exact ⟨later, stored, (keeps.reason (.inr (.inl reason))).trans reason, keeps.detached gone⟩

/-- A session killed earlier is detached after its own turn in the detaching loop. -/
theorem advanceLeave_buried {host : RoomHost} {now : TimePoint} (sound : host.Sound)
    (h : host.Killed sessionId)
    : (host.advanceLeave env now sessionId).Buried sessionId := by
  obtain ⟨session, found, reason⟩ := h
  have consistent := sound.leaves sessionId session found
  unfold advanceLeave
  extract_lets detached
  have first : detached.Sound ∧ detached.Buried sessionId := by
    unfold detached
    rw [found]
    by_cases pending : session.leaveState = .pending
    · have unreported := consistent.unreported (by simp [PlayerSession.isDetached, pending])
      have step := detachPlayer_detached env found unreported
      simp only [pending, if_true]
      refine ⟨step.sound sound found pending, host.room.detachedSession session, ?_, reason, rfl⟩
      rw [step.sessions, Table.lookup_adjust_self, found]
      rfl
    · simp only [pending, if_false]
      refine ⟨sound, session, found, reason, ?_⟩
      have leaving : session.leaveState ≠ .none := by
        rw [Ne, ← consistent.reason, reason]
        decide
      cases state : session.leaveState <;> simp_all [PlayerSession.isDetached]
  have second : Moves undead detached _ := detached.finalizeTurn_moves now sessionId
  exact first.2.moves first.1 second

/-- The detaching loop buries a session that the marking has killed: its own turn does, and
no other turn takes it back.
-/
theorem detachingLoop_buried {host : RoomHost} {now : TimePoint} (sound : host.Sound)
    (h : host.Killed sessionId)
    : (host.room.playerSessions.keys.foldl (advanceLeave env now) host).Buried sessionId := by
  have among : sessionId ∈ host.room.playerSessions.keys := by
    obtain ⟨session, found, _⟩ := h
    exact AList.mem_keys.mp (Table.mem_of_lookup found)
  refine Table.foldl_establishes
    (P := fun host => host.Sound ∧ host.Killed sessionId) (Q := Buried sessionId)
    ?_ ?_ among ?_ ⟨sound, h⟩
  · intro reached otherId _ ⟨sound, killed⟩
    have turn : Moves undead reached _ := reached.advanceLeave_moves env now otherId
    exact ⟨Moves.sound turn sound, killed.moves sound turn⟩
  · intro reached otherId _ ⟨sound, _⟩ buried
    have turn : Moves undead reached _ := reached.advanceLeave_moves env now otherId
    exact buried.moves sound turn
  · intro reached ⟨sound, killed⟩
    exact advanceLeave_buried sound killed

/-- The marking half of a round decides the leave of a dying session. -/
theorem markLeaves_killed {host : RoomHost} (sound : host.Sound)
    (h : host.Dying sessionId objectId) (now : TimePoint)
    : (host.markLeaves env now).Sound ∧ (host.markLeaves env now).Killed sessionId := by
  unfold markLeaves
  extract_lets expired
  have doomed : expired.Doomed sessionId objectId := by
    unfold expired
    split
    · have flagged : Moves undead host (host.modifyRoom ({ · with lifetimeExpired := true })) :=
        Moves.ordinary (.modifyRoom (.of_eq rfl))
      exact Doomed.allKill ⟨Moves.sound flagged sound, .inl h⟩
    · exact ⟨sound, .inl h⟩
  obtain ⟨soundAfter, killed⟩ :
      (expired.markDead env).Sound ∧ (expired.markDead env).Killed sessionId :=
    doomed.markDead
  have rest : Moves undead (expired.markDead env)
      ((expired.markDead env).detectDisconnectedSessions env).clearPendingOfLeaving :=
    .trans (detectDisconnectedSessions_moves _) (Moves.quiet (clearPendingOfLeaving_outcome _))
  exact ⟨Moves.sound rest soundAfter, killed.moves soundAfter rest⟩

/-- One round of the pipeline detaches a session whose player has died. -/
theorem processLeaves_buried {host : RoomHost} (sound : host.Sound)
    (h : host.Dying sessionId objectId)
    : (host.processLeaves env).Buried sessionId := by
  let now := env.clock host.wire.reads
  let marked := (host.now env).1.markLeaves env now
  let detached := marked.room.playerSessions.keys.foldl (advanceLeave env now) marked
  have reading : Moves undead host (host.now env).1 := Moves.quiet rfl
  obtain ⟨soundMarked, killed⟩ : marked.Sound ∧ marked.Killed sessionId :=
    markLeaves_killed (Moves.sound reading sound) h now
  have loop : Moves undead marked detached :=
    Moves.foldl (fun host otherId _ => host.advanceLeave_moves env now otherId) marked
  have last : Moves undead detached detached.checkAllLeft := detached.checkAllLeft_moves
  have buried : detached.Buried sessionId := detachingLoop_buried soundMarked killed
  exact buried.moves (Moves.sound loop soundMarked) last

/-- A buried session has no object and no right to act. -/
theorem Buried.gone {host : RoomHost} (h : host.Buried sessionId) (sound : host.Sound)
    : ∃ session, host.room.playerSessions.lookup sessionId = some session
      ∧ session.leaveReason = .dead ∧ session.isDetached = true
      ∧ session.objectId = none ∧ session.isActiveState = false := by
  obtain ⟨session, found, reason, gone⟩ := h
  have consistent := sound.leaves sessionId session found
  exact ⟨session, found, reason, gone,
    consistent.withoutObject (consistent.reported.trans gone),
    (consistent.silenced (.inr (.inl reason))).1⟩

/-- Death is final, if no session spawns between its death and the next round of the
pipeline: that round detaches it as dead, and along every later run it stays without an
object and without the right to act.
-/
theorem death_is_final (env : Environment) {host middle after : RoomHost}
    {actions : List Action} {sessionId : Nat} {session : PlayerSession}
    {object : PlayerObject}
    (reached : ((roomSystem env).restrict fun before action _ =>
      before.spawnMeets env undead action = true).Reachable host)
    (found : host.room.playerSessions.lookup sessionId = some session)
    (staying : session.isLeaving = false)
    (current : host.room.currentObject session = some object)
    (dead : object.combat.isAlive = false)
    (run : ((roomSystem env).restrict fun before action _ =>
      before.spawnMeets env undead action = true).Run host actions middle)
    (waiting : Action.processLeaves ∉ actions)
    (leaves : middle.next env .processLeaves = some after)
    : ∀ later last, (roomSystem env).Run after later last →
      ∃ gone, last.room.playerSessions.lookup sessionId = some gone
        ∧ gone.leaveReason = .dead ∧ gone.isDetached = true
        ∧ gone.objectId = none ∧ gone.isActiveState = false := by
  obtain ⟨objectId, ofSession, present⟩ := Option.bind_eq_some_iff.mp current
  have dying : host.Dying sessionId objectId :=
    ⟨session, object, found, staying, ofSession, present, dead⟩
  have sound : host.Sound := sound_of_reachable reached.of_restrict
  obtain ⟨soundMiddle, still⟩ := dying_of_run run waiting sound dying
  cases leaves
  have round : Moves undead middle (middle.processLeaves env) := middle.processLeaves_moves
  have soundAfter := Moves.sound round soundMiddle
  have buried : (middle.processLeaves env).Buried sessionId :=
    processLeaves_buried soundMiddle still
  intro later last rest
  obtain ⟨keeps, soundLast⟩ := keeps_of_run rest soundAfter
  refine Buried.gone ?_ soundLast
  obtain ⟨corpse, lies, reason, gone⟩ := buried
  obtain ⟨remains, stored, same⟩ := keeps.new_of_old lies
  exact ⟨remains, stored, (same.reason (.inr (.inl reason))).trans reason, same.detached gone⟩

-----------------------------------------------------------------------------------------
-- A duel
-----------------------------------------------------------------------------------------

/-- Player 1 has a loaded weapon, player 2 has nothing. -/
def duel : RoomHost :=
  emptyMap
    { entries :=
        [⟨1, newcomer 1 [{ item := { blueprintId := 6 }, slotIndex := 0, quantity := 30 }]
          [{ item := { blueprintId := 1 }, slotIndex := 0, quantity := 1 }]⟩,
        ⟨2, newcomer 2 [] []⟩]
      nodupKeys := by simp [List.NodupKeys] }

theorem duel_fresh : duel.Fresh := by
  refine emptyMap_fresh fun session mem => ?_
  rcases List.mem_pair.mp mem with rfl | rfl
  · exact ⟨⟨_, _, rfl⟩, rfl, rfl, rfl, rfl, rfl, rfl, rfl⟩
  · exact ⟨⟨_, _, rfl⟩, rfl, rfl, rfl, rfl, rfl, rfl, rfl⟩

/-- Both players spawn, and the first shoots the second dead. -/
def lethalShots : List Action :=
  [request 1 1 (.channelOpen ""), request 1 2 .requestSpawnMe,
    request 2 1 (.channelOpen ""), request 2 2 .requestSpawnMe]
  ++ [0, 1, 2, 3, 4].map fun shot =>
    request 1 (shot + 3)
      (.requestWeaponFire { fireSequence := shot, weaponDbid := 1, hitObjectId := 1 })

/-- The duel before anybody has noticed the death. -/
def slain : RoomHost :=
  endOf openField (fun before action _ => before.spawnMeets openField undead action) duel
    lethalShots

theorem slain_reachable
    : ((roomSystem openField).restrict fun before action _ =>
        before.spawnMeets openField undead action = true).Reachable slain :=
  reachable_endOf openField
    (fun before action _ => before.spawnMeets openField undead action) duel_fresh lethalShots
    (by decide +kernel)

/-- The session of the dead player is staying with its dead object. -/
theorem slain_dying
    : ∃ session object, slain.room.playerSessions.lookup 2 = some session
      ∧ session.isLeaving = false ∧ slain.room.currentObject session = some object
      ∧ object.combat.isAlive = false := by
  have here : (slain.room.playerSessions.lookup 2).any (fun session =>
      !session.isLeaving && (slain.room.currentObject session).any
        fun object => !object.combat.isAlive) = true := by
    decide +kernel
  obtain ⟨session, found, facts⟩ := (Option.any_eq_true _ _).mp here
  obtain ⟨staying, corpse⟩ := Bool.and_eq_true_iff.mp facts
  obtain ⟨object, current, dead⟩ := (Option.any_eq_true _ _).mp corpse
  exact ⟨session, object, found, by simpa using staying, current, by simpa using dead⟩

/-- The next round of the pipeline detaches the dead player of the duel. -/
theorem slain_is_final
    : ∃ gone,
      ((slain.update openField).processLeaves openField).room.playerSessions.lookup 2
        = some gone
      ∧ gone.leaveReason = .dead ∧ gone.isDetached = true
      ∧ gone.objectId = none ∧ gone.isActiveState = false := by
  obtain ⟨session, object, found, staying, current, dead⟩ := slain_dying
  have run : ((roomSystem openField).restrict fun before action _ =>
      before.spawnMeets openField undead action = true).Run slain [.update]
        (slain.update openField) :=
    .cons ⟨rfl, rfl⟩ (.nil _)
  exact death_is_final openField slain_reachable found staying current dead run (by simp) rfl
    [] _ (.nil _)

/-- The dead player of the duel spawns again before the next round of the leave pipeline,
which then finds the old object without a session: the player stays and plays on.
-/
theorem not_final_after_respawn
    : ∃ host session object, (roomSystem openField).Reachable host
      ∧ host.room.playerSessions.lookup 2 = some session
      ∧ session.isLeaving = false ∧ host.room.currentObject session = some object
      ∧ object.combat.isAlive = false
      ∧ ∃ middle after survivor,
        (roomSystem openField).Run host [request 2 3 .requestSpawnMe] middle
        ∧ middle.next openField .processLeaves = some after
        ∧ after.room.playerSessions.lookup 2 = some survivor
        ∧ survivor.isLeaving = false ∧ survivor.isActiveState = true := by
  obtain ⟨session, object, found, staying, current, dead⟩ := slain_dying
  have alive : ((((slain.next openField (request 2 3 .requestSpawnMe)).bind
      (·.next openField .processLeaves)).bind (·.room.playerSessions.lookup 2)).any
        fun survivor => !survivor.isLeaving && survivor.isActiveState) = true := by
    decide +kernel
  obtain ⟨survivor, lives, facts⟩ := (Option.any_eq_true _ _).mp alive
  obtain ⟨stays, active⟩ := Bool.and_eq_true_iff.mp facts
  obtain ⟨after, round, lives⟩ := Option.bind_eq_some_iff.mp lives
  obtain ⟨middle, respawn, round⟩ := Option.bind_eq_some_iff.mp round
  exact ⟨slain, session, object, slain_reachable.of_restrict, found, staying, current, dead,
    middle, after, survivor, .cons respawn (.nil middle), round, lives, by simpa using stays,
    active⟩

end RoomHost

end ExtractionServer.Room
