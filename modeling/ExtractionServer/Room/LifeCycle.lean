import ExtractionServer.Room.OrdinarySteps
import Mathlib.Logic.Relation

/-! The life of a session in its room: spawning, the decision to leave, detaching and
finalizing. Every turn of the process is a sequence of these moves and of ordinary changes.
-/

namespace ExtractionServer.Room

open Transport

-----------------------------------------------------------------------------------------
-- Detaching
-----------------------------------------------------------------------------------------

/-- Filling a loot container does not move it. -/
theorem PlayerLootContainer.create_objectId (objectId : Nat) (position : Vector3)
    (yawAngle : BitVec 32) (inventory : PlayerInventory)
    : (create objectId position yawAngle inventory).base.objectId = objectId := by
  unfold create fillFrom
  refine List.foldlRecOn _ _
    (motive := fun filling : Container × Nat => filling.1.base.objectId = objectId) rfl ?_
  intro filling same slot _
  unfold place Container.placeItem
  split
  · exact same
  · split <;> exact same

/-- A session without its recall, its container and its right to act. -/
def PlayerSession.withdraw (session : PlayerSession) : PlayerSession :=
  { session.endRecall with
    sessionState := if session.leaveReason = .dead then .spectating else .left
    interactingContainerId := none }

namespace GameRoom

/-- The object under the current id of a session. -/
def currentObject (room : GameRoom) (session : PlayerSession) : Option PlayerObject :=
  session.objectId.bind room.findPlayerObject

/-- A detach clears the inventory of the dead and the disconnected, if they have an object. -/
def keptInventory (room : GameRoom) (session : PlayerSession) : PlayerInventory :=
  if (room.currentObject session).isSome
      ∧ (session.leaveReason = .dead ∨ session.leaveReason = .disconnected) then
    session.inventory.clear
  else session.inventory

/-- What `DetachPlayer` makes of a session. -/
def detachedSession (room : GameRoom) (session : PlayerSession) : PlayerSession :=
  { session.withdraw with
    inventory := room.keptInventory session
    objectId := none
    leaveState := .detached
    leftNotified := true }

/-- The slots of the loot container that a detaching session leaves behind. -/
def lootSlots (room : GameRoom) (session : PlayerSession) : Option (List Slot) :=
  if session.leaveReason = .dead then
    (room.currentObject session).map fun object =>
      (PlayerLootContainer.create room.nxtObjectId object.base.position object.base.yawAngle
        session.inventory).inventorySlots
  else none

/-- The player objects that remain when one id is removed. -/
def objectsWithout (room : GameRoom) : Option Nat → Table Nat PlayerObject
  | none => room.playerObjects
  | some objectId => AList.erase objectId room.playerObjects

end GameRoom

namespace RoomHost

/-- The stages of a detach, with the session, the player objects and the new loot as they
stand.
-/
structure Withdrawal (sessionId : Nat) (before : RoomHost) (session : PlayerSession)
    (objects : Table Nat PlayerObject) (loot : Option (List Slot)) (after : RoomHost)
    : Prop where
  sessions : after.room.playerSessions
    = before.room.playerSessions.adjust sessionId fun _ => session
  objects : after.room.playerObjects = objects
  nxtObjectId : before.room.nxtObjectId ≤ after.room.nxtObjectId
  layout : before.room.Layout → after.room.Layout
  containerSlots : before.room.Layout →
    after.room.containerSlots.Perm (loot.toList ++ before.room.containerSlots)
  leftNotices : after.wire.leftNotices = before.wire.leftNotices

namespace Withdrawal

variable {sessionId : Nat} {before middle after : RoomHost} {session : PlayerSession}
  {objects : Table Nat PlayerObject} {loot : Option (List Slot)}

/-- A stage that leaves sessions, player objects and items alone. -/
theorem ordinary (h : Withdrawal sessionId before session objects loot middle)
    (step : Ordinary none middle after)
    (sessions : after.room.playerSessions = middle.room.playerSessions)
    (same : after.room.playerObjects = middle.room.playerObjects)
    : Withdrawal sessionId before session objects loot after where
  sessions := sessions.trans h.sessions
  objects := same.trans h.objects
  nxtObjectId := h.nxtObjectId.trans (Nat.le_of_eq step.room.nxtObjectId.symm)
  layout layout := step.room.layout (h.layout layout)
  containerSlots layout := by
    rw [step.room.containerSlots rfl (h.layout layout)]
    exact h.containerSlots layout
  leftNotices := step.leftNotices.trans h.leftNotices

/-- A stage that only sends. -/
theorem quiet (h : Withdrawal sessionId before session objects loot middle)
    (same : after.outcome = middle.outcome)
    : Withdrawal sessionId before session objects loot after :=
  h.ordinary (.of_outcome same)
    (congrArg GameRoom.playerSessions (room_eq_of_outcome same))
    (congrArg GameRoom.playerObjects (room_eq_of_outcome same))

theorem refl (found : before.room.playerSessions.lookup sessionId = some session)
    : Withdrawal sessionId before session before.room.playerObjects none before where
  sessions := by
    rw [← Table.adjust_congr (f := id)]
    · apply AList.ext
      simp [Table.adjust, Table.mapWithKey]
    · intro value stored
      exact Option.some.inj (stored.symm.trans found)
  objects := rfl
  nxtObjectId := Nat.le_refl _
  layout := id
  containerSlots _ := .refl _
  leftNotices := rfl

/-- A stage that writes the session. -/
theorem modifySession (h : Withdrawal sessionId before session objects loot middle)
    (f : PlayerSession → PlayerSession)
    : Withdrawal sessionId before (f session) objects loot
        (middle.modifyRoom (·.modifySession sessionId f)) where
  sessions := by
    simp only [modifyRoom, GameRoom.modifySession]
    rw [h.sessions, Table.adjust_adjust]
  objects := h.objects
  nxtObjectId := h.nxtObjectId
  layout layout :=
    ⟨(h.layout layout).staticContainers, (h.layout layout).dynamicIds,
      (h.layout layout).playerIds⟩
  containerSlots := h.containerSlots
  leftNotices := h.leftNotices

/-- The stage that removes the player object. -/
theorem erase (h : Withdrawal sessionId before session objects loot middle) (objectId : Nat)
    : Withdrawal sessionId before session (AList.erase objectId objects) loot
        (middle.modifyRoom fun room =>
          { room with playerObjects := AList.erase objectId room.playerObjects }) where
  sessions := h.sessions
  objects := congrArg (AList.erase objectId) h.objects
  nxtObjectId := h.nxtObjectId
  layout layout := by
    obtain ⟨static, dynamic, players⟩ := h.layout layout
    exact ⟨static, dynamic, fun other mem => players other (AList.mem_erase.mp mem).2⟩
  containerSlots := h.containerSlots
  leftNotices := h.leftNotices

/-- The stage that spawns the loot container: its id is fresh, so it enters the room. -/
theorem spawnLoot (env : Environment) (object : PlayerObject) (inventory : PlayerInventory)
    (h : Withdrawal sessionId before session objects none middle)
    (counter : middle.room.nxtObjectId = before.room.nxtObjectId)
    : Withdrawal sessionId before session objects
        (some (PlayerLootContainer.create before.room.nxtObjectId object.base.position
          object.base.yawAngle inventory).inventorySlots)
        (middle.spawnPlayerLootContainer env object inventory) := by
  have later : before.room.nxtObjectId ≤ middle.room.nxtObjectId + 1 :=
    h.nxtObjectId.trans (Nat.le_succ _)
  unfold spawnPlayerLootContainer spawnDynamicObject
  dsimp only [getNewObjectId]
  rw [counter]
  split
  · next taken =>
      refine ⟨h.sessions, h.objects, later, fun layout => ?_, fun layout => ?_,
        h.leftNotices⟩
      · obtain ⟨static, dynamic, players⟩ := h.layout layout
        exact ⟨static, fun other mem => (dynamic other mem).trans (Nat.lt_succ_self _),
          fun other mem => (players other mem).trans (Nat.lt_succ_self _)⟩
      · have bound := (h.layout layout).dynamicIds _ taken
        rw [NonplayerObject.base, PlayerLootContainer.create_objectId, counter] at bound
        exact absurd bound (Nat.lt_irrefl _)
  · next fresh =>
      refine Withdrawal.quiet ?_ (broadcast_outcome env _ _)
      refine ⟨h.sessions, h.objects, later, fun layout => ?_, fun layout => ?_,
        h.leftNotices⟩
      · obtain ⟨static, dynamic, players⟩ := h.layout layout
        refine ⟨static, fun other mem => ?_,
          fun other mem => (players other mem).trans (Nat.lt_succ_self _)⟩
        rcases Table.mem_tryEmplace mem with rfl | old
        · rw [NonplayerObject.base, PlayerLootContainer.create_objectId, ← counter]
          exact Nat.lt_succ_self _
        · exact (dynamic other old).trans (Nat.lt_succ_self _)
      · refine .trans ?_ ((h.containerSlots layout).cons _)
        simp only [modifyRoom] at fresh ⊢
        simp only [GameRoom.containerSlots]
        rw [Table.values_tryEmplace_fresh fresh]
        exact List.perm_middle

end Withdrawal

-- Writing other fields and releasing containers keep the maps that a detach tracks.
section Frames

variable (env : Environment) (host : RoomHost) (sessionId : Nat)

theorem releaseInteractingContainer_players (room : GameRoom)
    : ((room.releaseInteractingContainer sessionId).playerSessions,
        (room.releaseInteractingContainer sessionId).playerObjects)
      = (room.playerSessions.adjust sessionId ({ · with interactingContainerId := none }),
        room.playerObjects) := by
  unfold GameRoom.releaseInteractingContainer GameRoom.modifyContainer
    GameRoom.modifyNonplayerObject
  split
  · next missing => rw [Table.adjust_of_lookup_none missing]
  · dsimp only
    repeat' split
    all_goals rfl

theorem releaseNpcAuthority_players (playerObjectId : Option Nat)
    : ((host.releaseNpcAuthority env playerObjectId).room.playerSessions,
        (host.releaseNpcAuthority env playerObjectId).room.playerObjects)
      = (host.room.playerSessions, host.room.playerObjects) := by
  unfold releaseNpcAuthority
  split
  · rfl
  · apply Table.foldl_view_eq fun host : RoomHost =>
      (host.room.playerSessions, host.room.playerObjects)
    intro state objectId _
    split
    · rfl
    · split
      · rfl
      · dsimp only
        split
        · rfl
        · rw [notifyNpcAuthority_room]
          rfl

end Frames

/-- The stage that gives up the opened container. -/
theorem Withdrawal.release {sessionId : Nat} {before middle : RoomHost}
    {session : PlayerSession} {objects : Table Nat PlayerObject} {loot : Option (List Slot)}
    (h : Withdrawal sessionId before session objects loot middle)
    : Withdrawal sessionId before { session with interactingContainerId := none } objects loot
        (middle.modifyRoom (·.releaseInteractingContainer sessionId)) := by
  have players := releaseInteractingContainer_players sessionId middle.room
  have step : GameRoom.Ordinary none middle.room
      (middle.room.releaseInteractingContainer sessionId) :=
    .releaseInteractingContainer sessionId middle.room
  constructor
  · refine (congrArg Prod.fst players).trans ?_
    rw [h.sessions, Table.adjust_adjust]
  · exact (congrArg Prod.snd players).trans h.objects
  · exact h.nxtObjectId.trans (Nat.le_of_eq step.nxtObjectId.symm)
  · exact fun layout => step.layout (h.layout layout)
  · intro layout
    refine .trans (.of_eq ?_) (h.containerSlots layout)
    exact step.containerSlots rfl (h.layout layout)
  · exact h.leftNotices

/-- The whole effect of `DetachPlayer` on a session that has not been reported yet. -/
structure Detached (sessionId : Nat) (session : PlayerSession) (before after : RoomHost)
    : Prop where
  sessions : after.room.playerSessions = before.room.playerSessions.adjust sessionId
    fun _ => before.room.detachedSession session
  objects : after.room.playerObjects = before.room.objectsWithout session.objectId
  nxtObjectId : before.room.nxtObjectId ≤ after.room.nxtObjectId
  layout : before.room.Layout → after.room.Layout
  containerSlots : before.room.Layout →
    after.room.containerSlots.Perm
      ((before.room.lootSlots session).toList ++ before.room.containerSlots)
  leftNotices : after.wire.leftNotices = before.wire.leftNotices
    ++ [(sessionId, (before.room.detachedSession session).leftNotice)]

section Detach

variable (env : Environment) {sessionId objectId : Nat} {before middle : RoomHost}
  {session current : PlayerSession} {object : PlayerObject}

/-- The part of a detach that deals with an object: loot for the dead, and the inventory of
the dead and the disconnected is cleared.
-/
theorem Withdrawal.detachObject
    (h : Withdrawal sessionId before current before.room.playerObjects none middle)
    (counter : middle.room.nxtObjectId = before.room.nxtObjectId)
    (located : before.room.currentObject session = some object)
    (id : session.objectId = some objectId) (inventory : current.inventory = session.inventory)
    : Withdrawal sessionId before
        { current with inventory := before.room.keptInventory session }
        (before.room.objectsWithout session.objectId) (before.room.lootSlots session)
        (middle.detachObject env sessionId objectId object session.inventory
          session.leaveReason) := by
  unfold RoomHost.detachObject
  extract_lets spawned killerObjectId looted cleared erased
  have afterLoot : Withdrawal sessionId before current before.room.playerObjects
      (before.room.lootSlots session) looted := by
    unfold looted GameRoom.lootSlots
    split
    · rw [located]
      exact (h.spawnLoot env object session.inventory counter).quiet
        (broadcast_outcome env _ _)
    · exact h
  have afterClear : Withdrawal sessionId before
      { current with inventory := before.room.keptInventory session }
      before.room.playerObjects (before.room.lootSlots session) cleared := by
    unfold cleared GameRoom.keptInventory
    rw [located, ← inventory]
    by_cases reason : session.leaveReason = .dead ∨ session.leaveReason = .disconnected
    · rw [if_pos reason, if_pos ⟨rfl, reason⟩]
      exact afterLoot.modifySession fun session =>
        { session with inventory := session.inventory.clear }
    · rw [if_neg reason, if_neg fun both => reason both.2]
      exact afterLoot
  rw [id]
  exact (afterClear.erase objectId).quiet (broadcastExcept_outcome env _ _ _)

/-- `DetachPlayer` in one step. -/
theorem detachPlayer_detached
    (found : before.room.playerSessions.lookup sessionId = some session)
    (unreported : session.leftNotified = false)
    : Detached sessionId session before (before.detachPlayer env sessionId) := by
  unfold detachPlayer
  simp -zeta only [found]
  extract_lets objectId reason stopped released freed withdrawn detached
  have afterStop : Withdrawal sessionId before
      { session.endRecall with
        sessionState := if session.leaveReason = .dead then .spectating else .left }
      before.room.playerObjects none stopped :=
    (Withdrawal.refl found).modifySession fun session =>
      { session.endRecall with
        sessionState := if reason = .dead then .spectating else .left }
  have afterRelease : Withdrawal sessionId before session.withdraw before.room.playerObjects
      none released :=
    afterStop.release
  have free := releaseNpcAuthority_ordinary env released objectId
  have players := releaseNpcAuthority_players env released objectId
  have afterFree : Withdrawal sessionId before session.withdraw before.room.playerObjects
      none freed :=
    afterRelease.ordinary free (congrArg Prod.fst players) (congrArg Prod.snd players)
  have release : GameRoom.Ordinary none stopped.room released.room :=
    .releaseInteractingContainer sessionId stopped.room
  have counter : freed.room.nxtObjectId = before.room.nxtObjectId :=
    free.room.nxtObjectId.trans release.nxtObjectId
  have afterWithdrawal : Withdrawal sessionId before
      { session.withdraw with inventory := before.room.keptInventory session }
      (before.room.objectsWithout session.objectId) (before.room.lootSlots session)
      withdrawn := by
    have lookups : freed.room.findPlayerObject = before.room.findPlayerObject := by
      funext objectId
      exact congrArg (AList.lookup objectId) afterFree.objects
    cases located : before.room.currentObject session with
    | none =>
        have kept : before.room.keptInventory session = session.inventory := by
          rw [GameRoom.keptInventory, located]
          exact if_neg nofun
        have unlooted : before.room.lootSlots session = none := by
          rw [GameRoom.lootSlots, located]
          split <;> rfl
        have unerased : before.room.objectsWithout session.objectId
            = before.room.playerObjects := by
          cases id : session.objectId with
          | none => rfl
          | some current =>
              rw [GameRoom.currentObject, id] at located
              exact Table.erase_of_lookup_none located
        have idle : withdrawn = freed := by
          unfold withdrawn objectId
          cases id : session.objectId with
          | none => rfl
          | some current =>
              rw [GameRoom.currentObject, id] at located
              simp only [lookups]
              rw [show before.room.findPlayerObject current = none from located]
        rw [kept, unlooted, unerased, idle]
        exact afterFree
    | some object =>
        obtain ⟨current, id, present⟩ := Option.bind_eq_some_iff.mp located
        have step := afterFree.detachObject env counter located id rfl
        unfold withdrawn objectId
        rw [id] at step ⊢
        simp only [lookups, present]
        exact step
  have afterDetach : Withdrawal sessionId before
      { before.room.detachedSession session with leftNotified := session.leftNotified }
      (before.room.objectsWithout session.objectId) (before.room.lootSlots session)
      detached :=
    afterWithdrawal.modifySession ({ · with objectId := none, leaveState := .detached })
  have own : detached.room.playerSessions.lookup sessionId
      = some { before.room.detachedSession session with
          leftNotified := session.leftNotified } := by
    rw [afterDetach.sessions, Table.lookup_adjust_self, found]
    rfl
  unfold notifyLeftOnce
  rw [own]
  simp only [unreported]
  constructor
  · simp only [GameRoom.modifySession]
    rw [afterDetach.sessions, Table.adjust_adjust]
    rfl
  · exact afterDetach.objects
  · exact afterDetach.nxtObjectId
  · intro layout
    have kept := afterDetach.layout layout
    exact ⟨kept.staticContainers, kept.dynamicIds, kept.playerIds⟩
  · exact afterDetach.containerSlots
  · simp only [afterDetach.leftNotices]
    rfl

end Detach

-----------------------------------------------------------------------------------------
-- Spawning
-----------------------------------------------------------------------------------------

/-- The effect of an accepted spawn request: the session's current object is a new one,
whatever it was before.
-/
structure Spawned (sessionId : Nat) (before after : RoomHost) : Prop where
  sessions : after.room.playerSessions = before.room.playerSessions.adjust sessionId
    ({ · with objectId := some before.room.nxtObjectId })
  objects : before.room.Layout → ∃ object : PlayerObject, object.combat.isAlive = true
    ∧ after.room.playerObjects
      = before.room.playerObjects.tryEmplace before.room.nxtObjectId object
  nxtObjectId : after.room.nxtObjectId = before.room.nxtObjectId + 1
  staticObjects : after.room.staticObjects = before.room.staticObjects
  dynamicObjects : after.room.dynamicObjects = before.room.dynamicObjects
  leftNotices : after.wire.leftNotices = before.wire.leftNotices

theorem Spawned.quiet {sessionId : Nat} {before middle after : RoomHost}
    (h : Spawned sessionId before middle) (same : after.outcome = middle.outcome)
    : Spawned sessionId before after := by
  have room := room_eq_of_outcome same
  have notices : after.wire.leftNotices = middle.wire.leftNotices := congrArg Prod.snd same
  exact ⟨room ▸ h.sessions, room ▸ h.objects, room ▸ h.nxtObjectId, room ▸ h.staticObjects,
    room ▸ h.dynamicObjects, notices.trans h.leftNotices⟩

/-- A new object enters the room alive under its fresh id. -/
theorem spawnPlayerObject_cases (env : Environment) (host : RoomHost) (object : PlayerObject)
    (ownerSessionId : Nat)
    : object.base.objectId ∈ host.room.playerObjects
        ∧ host.spawnPlayerObject env object ownerSessionId = host
      ∨ object.base.objectId ∉ host.room.playerObjects
        ∧ (host.spawnPlayerObject env object ownerSessionId).outcome
          = (host.modifyRoom fun room =>
              { room with
                playerObjects :=
                  room.playerObjects.tryEmplace object.base.objectId object }).outcome := by
  unfold spawnPlayerObject
  dsimp only
  split
  · next taken => exact .inl ⟨taken, rfl⟩
  · next fresh => exact .inr ⟨fresh, broadcastExcept_outcome env _ _ _⟩

theorem setArmor_base (object : PlayerObject) (armorId : Nat)
    : (object.setArmor armorId).base = object.base := by
  unfold PlayerObject.setArmor
  split <;> rfl

theorem setArmor_currentHp (object : PlayerObject) (armorId : Nat)
    : (object.setArmor armorId).combat.currentHp = object.combat.currentHp := by
  unfold PlayerObject.setArmor
  split <;> rfl

theorem handleC2DRequestSpawnMe_spawned (env : Environment) (host : RoomHost)
    (sessionId : Nat) (session : PlayerSession) (active : session.isActiveState = true)
    : Spawned sessionId host (host.handleC2DRequestSpawnMe env sessionId session).1 := by
  unfold handleC2DRequestSpawnMe
  rw [if_neg (by simp [active])]
  dsimp only
  refine Spawned.quiet ?_ ((sendAll_outcome env _ sessionId _).trans
    ((send_outcome env _ sessionId _).trans (send_outcome env _ sessionId _)))
  generalize spawned : ({ PlayerObject.setArmor _ _ with combat := _ } : PlayerObject) = object
  have id : object.base.objectId = host.room.nxtObjectId := by
    rw [← spawned]
    exact congrArg UnityGameObject.objectId (setArmor_base _ _)
  have alive : object.combat.isAlive = true := by
    rw [← spawned]
    simp only [CombatState.isAlive, CombatState.chargeShield, setArmor_currentHp]
    rfl
  rcases spawnPlayerObject_cases env host.setSpawnSpot.1.getNewObjectId.1 object sessionId
    with ⟨taken, same⟩ | ⟨fresh, same⟩
  · rw [same]
    refine ⟨rfl, fun layout => ?_, rfl, rfl, rfl, rfl⟩
    exact absurd (id ▸ layout.playerIds _ taken) (Nat.lt_irrefl _)
  · generalize spawnPlayerObject env _ object sessionId = entered at same ⊢
    have room := room_eq_of_outcome same
    constructor
    · simp only [now, modifySession, modifyRoom, GameRoom.modifySession, room]
      rfl
    · intro _
      refine ⟨object, alive, ?_⟩
      simp only [now, modifySession, modifyRoom, GameRoom.modifySession, room, id]
      rfl
    · exact congrArg GameRoom.nxtObjectId room
    · exact (congrArg GameRoom.staticObjects room :)
    · exact (congrArg GameRoom.dynamicObjects room :)
    · exact congrArg Prod.snd same

-----------------------------------------------------------------------------------------
-- Moves
-----------------------------------------------------------------------------------------

/-- An elementary change that a packet, a timer or an update makes. Spawns are by sessions
that meet a condition.
-/
inductive Act (spawner : GameRoom → PlayerSession → Bool) (before after : RoomHost) : Prop
  /-- Items and fights; an actor has the right to act. -/
  | ordinary (actor : Option Nat) (step : Ordinary actor before after)
      (active : ∀ sessionId, actor = some sessionId →
        ∃ session, before.room.playerSessions.lookup sessionId = some session
          ∧ session.isActiveState = true)
  | spawn (sessionId : Nat) (session : PlayerSession)
      (found : before.room.playerSessions.lookup sessionId = some session)
      (active : session.isActiveState = true)
      (meets : spawner before.room session = true)
      (step : Spawned sessionId before after)
  /-- A living player who is staying is marked as recalled. -/
  | recalled (sessionId : Nat) (session : PlayerSession) (object : PlayerObject)
      (now : TimePoint) (notifyRSeq : BitVec 32)
      (found : before.room.playerSessions.lookup sessionId = some session)
      (staying : session.isLeaving = false)
      (current : before.room.currentObject session = some object)
      (alive : object.combat.isAlive = true)
      (step : after.outcome
        = (before.modifySession sessionId (·.markLeaving .recalled now notifyRSeq)).outcome)

/-- An elementary change of any kind: the leave pipeline marks, detaches and finalizes. -/
inductive Move (spawner : GameRoom → PlayerSession → Bool) (before after : RoomHost) : Prop
  | act (step : Act spawner before after)
  | mark (sessionId : Nat) (reason : LeaveReason) (now : TimePoint) (notifyRSeq : BitVec 32)
      (notRecalled : reason ≠ .recalled)
      (step : after.outcome
        = (before.modifySession sessionId (·.markLeaving reason now notifyRSeq)).outcome)
  | detach (sessionId : Nat) (session : PlayerSession)
      (found : before.room.playerSessions.lookup sessionId = some session)
      (pending : session.leaveState = .pending)
      (step : session.leftNotified = false → Detached sessionId session before after)
  | finalize (sessionId : Nat) (session : PlayerSession)
      (found : before.room.playerSessions.lookup sessionId = some session)
      (detached : session.leaveState = .detached)
      (step : session.leftNotified = true → after.outcome
        = (before.modifySession sessionId
            ({ · with leaveState := .finalized, sessionState := .left })).outcome)

abbrev Acts (spawner : GameRoom → PlayerSession → Bool) : RoomHost → RoomHost → Prop :=
  Relation.ReflTransGen (Act spawner)

abbrev Moves (spawner : GameRoom → PlayerSession → Bool) : RoomHost → RoomHost → Prop :=
  Relation.ReflTransGen (Move spawner)

variable {env : Environment} {spawner : GameRoom → PlayerSession → Bool}
  {before after : RoomHost}

/-- What no actor does is one act. -/
theorem Acts.ordinary (step : Ordinary none before after) : Acts spawner before after :=
  .single (.ordinary none step nofun)

theorem Acts.quiet (same : after.outcome = before.outcome) : Acts spawner before after :=
  Acts.ordinary (.of_outcome same)

theorem Acts.moves (acts : Acts spawner before after) : Moves spawner before after :=
  Relation.ReflTransGen.mono (fun _ _ => Move.act) _ _ acts

theorem Moves.ordinary (step : Ordinary none before after) : Moves spawner before after :=
  (Acts.ordinary step).moves

theorem Moves.quiet (same : after.outcome = before.outcome) : Moves spawner before after :=
  (Acts.quiet same).moves

/-- A loop whose turns are moves is a sequence of moves. -/
theorem Moves.foldl {κ : Type} {step : RoomHost → κ → RoomHost} {keys : List κ}
    (turn : ∀ host, ∀ key ∈ keys, Moves spawner host (step host key)) (host : RoomHost)
    : Moves spawner host (keys.foldl step host) :=
  List.foldlRecOn keys step (motive := Moves spawner host) .refl
    fun reached chain key mem => chain.trans (turn reached key mem)

-----------------------------------------------------------------------------------------
-- The leave pipeline as moves
-----------------------------------------------------------------------------------------

theorem markLeaving_move (env : Environment) (host : RoomHost) (sessionId : Nat)
    (reason : LeaveReason) (notRecalled : reason ≠ .recalled) (notifyRSeq : BitVec 32)
    : Move spawner host (host.markLeaving env sessionId reason notifyRSeq) :=
  .mark sessionId reason (env.clock host.wire.reads) notifyRSeq notRecalled rfl

theorem allKill_moves (host : RoomHost) : Moves spawner host (host.allKill env) :=
  .foldl (fun host sessionId _ => .single (host.markLeaving_move env sessionId .dead nofun 0))
    host

/-- One turn of the marking of dead sessions. -/
theorem markDeadTurn_moves (env : Environment) (host : RoomHost) (deadObjectId : Nat)
    : Moves spawner host
        (match host.room.findSessionByObjectId deadObjectId with
          | none => host
          | some sessionId => host.markLeaving env sessionId .dead 0) := by
  split
  · exact .refl
  · exact .single (host.markLeaving_move env _ .dead nofun 0)

theorem markDead_moves (host : RoomHost) : Moves spawner host (host.markDead env) :=
  Moves.foldl (fun host deadObjectId _ => host.markDeadTurn_moves env deadObjectId) host

theorem detectDisconnectedSessions_moves (host : RoomHost)
    : Moves spawner host (host.detectDisconnectedSessions env) := by
  refine (Moves.quiet (host.now_outcome env)).trans ?_
  refine Moves.foldl ?_ (host.now env).1
  intro host sessionId _
  split
  · exact .refl
  · dsimp only
    repeat' split
    all_goals first
      | exact .refl
      | exact .single (host.markLeaving_move env sessionId .disconnected nofun 0)

theorem markLeaves_moves (now : TimePoint) (host : RoomHost)
    : Moves spawner host (host.markLeaves env now) := by
  unfold markLeaves
  refine .trans ?_ (Moves.quiet (clearPendingOfLeaving_outcome _))
  refine .trans ?_ (detectDisconnectedSessions_moves _)
  refine .trans ?_ (markDead_moves _)
  split
  · refine .trans ?_ (allKill_moves _)
    exact Moves.ordinary (.modifyRoom (.of_eq rfl))
  · exact .refl

theorem detachPlayer_move {sessionId : Nat} {session : PlayerSession}
    (found : before.room.playerSessions.lookup sessionId = some session)
    (pending : session.leaveState = .pending)
    : Move spawner before (before.detachPlayer env sessionId) :=
  .detach sessionId session found pending (detachPlayer_detached env found)

theorem finalizeLeave_move {sessionId : Nat} {session : PlayerSession}
    (found : before.room.playerSessions.lookup sessionId = some session)
    (detached : session.leaveState = .detached)
    : Move spawner before (before.finalizeLeave sessionId) := by
  refine .finalize sessionId session found detached fun reported => ?_
  unfold finalizeLeave notifyLeftOnce
  extract_lets cleared
  have own : (cleared.modifyRoom fun room => room.modifySession sessionId
        ({ · with leaveState := .finalized, sessionState := .left })
      ).room.playerSessions.lookup sessionId
      = some { session with leaveState := .finalized, sessionState := .left } := by
    simp only [modifyRoom, GameRoom.modifySession, Table.lookup_adjust_self]
    exact congrArg _ found
  rw [own]
  simp only [reported, if_true]
  rfl

/-- The finalizing half of a session's turn. -/
theorem finalizeTurn_moves (host : RoomHost) (now : TimePoint) (sessionId : Nat)
    : Moves spawner host
        (match host.room.playerSessions.lookup sessionId with
          | none => host
          | some session =>
              if session.leaveState = LeaveState.detached
                  ∧ host.isFinalizeReady sessionId session now then
                host.finalizeLeave sessionId
              else host) := by
  split
  · exact .refl
  · next session found =>
      split
      · next ready => exact .single (finalizeLeave_move found ready.1)
      · exact .refl

theorem advanceLeave_moves (env : Environment) (now : TimePoint) (host : RoomHost)
    (sessionId : Nat)
    : Moves spawner host (host.advanceLeave env now sessionId) := by
  unfold advanceLeave
  extract_lets detached
  have first : Moves spawner host detached := by
    unfold detached
    split
    · exact .refl
    · next session found =>
        split
        · next pending => exact .single (detachPlayer_move found pending)
        · exact .refl
  exact first.trans (detached.finalizeTurn_moves now sessionId)

theorem checkAllLeft_moves (host : RoomHost) : Moves spawner host host.checkAllLeft := by
  unfold checkAllLeft
  split
  · exact .refl
  · split
    · exact .refl
    · exact Moves.ordinary ⟨.of_eq rfl, rfl⟩

theorem processLeaves_moves (host : RoomHost) : Moves spawner host (host.processLeaves env) := by
  unfold processLeaves
  refine .trans ?_ (checkAllLeft_moves _)
  refine .trans ?_ (Moves.foldl (fun host sessionId _ => host.advanceLeave_moves env _ sessionId) _)
  exact (Moves.quiet (host.now_outcome env)).trans (markLeaves_moves _ _)

-----------------------------------------------------------------------------------------
-- Every action is a sequence of moves
-----------------------------------------------------------------------------------------

/-- If the action is a new spawn request of an active session, the session meets a
condition.
-/
def spawnMeets (env : Environment) (spawner : GameRoom → PlayerSession → Bool)
    (host : RoomHost)
    : Action → Bool
  | .packet sessionId header _ .requestSpawnMe =>
      !(host.receive env sessionId header).2
        || (host.room.playerSessions.lookup sessionId).all fun session =>
          !session.isActiveState || spawner host.room session
  | _ => true

theorem dispatch_acts (host : RoomHost) {sessionId : Nat} {session : PlayerSession}
    (found : host.room.playerSessions.lookup sessionId = some session)
    (clientAddr : SockAddr) (pkt : C2DPacket)
    (meets : pkt = .requestSpawnMe → session.isActiveState = true →
      spawner host.room session = true)
    : Acts spawner host (host.dispatch env sessionId session clientAddr pkt).1 := by
  by_cases active : session.isActiveState = true
  · by_cases spawns : pkt = .requestSpawnMe
    · subst spawns
      exact .single (.spawn sessionId session found active (meets rfl active)
        (host.handleC2DRequestSpawnMe_spawned env sessionId session active))
    · refine .single (.ordinary (some sessionId)
        (host.dispatch_ordinary env sessionId session clientAddr found spawns) ?_)
      intro other same
      cases same
      exact ⟨session, found, active⟩
  · have inactive : session.isActiveState = false := by simpa using active
    by_cases opens : ∃ echo, pkt = .channelOpen echo
    · obtain ⟨echo, rfl⟩ := opens
      exact Acts.ordinary
        (host.handleC2DChannelOpen_ordinary env sessionId session clientAddr echo found)
    · exact Acts.quiet (host.dispatch_outcome_of_inactive env sessionId session clientAddr
        pkt inactive fun echo same => absurd ⟨echo, same⟩ opens)

theorem recallTick_acts (host : RoomHost) (timer : RecallTimer)
    : Acts spawner host (host.recallTick env timer) := by
  rcases host.recallTick_cases env timer with step | completed
  · exact Acts.ordinary step
  · obtain ⟨session, objectId, object, ready, notifyRSeq, found, _, staying, current, present,
      alive, step, objects, completes⟩ := completed
    rw [completes]
    obtain ⟨later, stored, goes, _⟩ := step.room.sessions.new_of_old found
    refine (Acts.ordinary step).trans (.single ?_)
    refine .recalled timer.sessionId later object (env.clock ready.wire.reads) notifyRSeq stored
      ?_ ?_ alive rfl
    · rw [PlayerSession.isLeaving, goes.leaveState]
      exact staying
    · rw [GameRoom.currentObject, goes.objectId, current]
      exact (congrArg (AList.lookup objectId) objects).trans present

theorem handleClientPacket_acts (host : RoomHost) (sessionId : Nat) (header : UDPHeader)
    (clientAddr : SockAddr) (pkt : C2DPacket)
    (meets : host.spawnMeets env spawner (.packet sessionId header clientAddr pkt) = true)
    : Acts spawner host (host.handleClientPacket env sessionId header clientAddr pkt).1 := by
  unfold handleClientPacket
  split
  · exact .refl
  · next session found =>
      have heard : Acts spawner host (host.receive env sessionId header).1 :=
        Acts.quiet (host.receive_outcome env sessionId header)
      dsimp only
      split
      · exact heard
      · next fresh =>
          refine heard.trans
            (dispatch_acts (host.receive env sessionId header).1 found clientAddr pkt ?_)
          rintro rfl active
          have same : (host.receive env sessionId header).1.room = host.room := rfl
          simpa [spawnMeets, found, fresh, active, same] using meets

/-- Every action but the leave pipeline is a sequence of acts. -/
theorem next_acts {action : Action} (step : before.next env action = some after)
    (meets : before.spawnMeets env spawner action = true) (other : action ≠ .processLeaves)
    : Acts spawner before after := by
  cases action with
  | packet sessionId header clientAddr pkt =>
      cases step
      exact before.handleClientPacket_acts sessionId header clientAddr pkt meets
  | recallTick index =>
      simp only [next] at step
      split at step
      · cases step
      · next timer _ =>
          split at step
          · cases step
          · cases step
            refine .trans ?_ (recallTick_acts _ timer)
            exact Acts.quiet rfl
  | processLeaves => exact absurd rfl other
  | update =>
      cases step
      exact Acts.ordinary (before.update_ordinary env)
  | updateNpcStates =>
      cases step
      exact Acts.ordinary (before.updateNpcStates_ordinary env)
  | bindClientIp sessionId addr =>
      cases step
      exact Acts.ordinary (.modifySession (fun _ _ => .of_eq rfl) (fun _ => rfl))
  | checkRetransmits sessionId =>
      simp only [next] at step
      split at step
      · cases step
        exact .refl
      · cases step
        exact Acts.quiet rfl

/-- Every action of the room is a sequence of moves. -/
theorem next_moves {action : Action} (step : before.next env action = some after)
    (meets : before.spawnMeets env spawner action = true)
    : Moves spawner before after := by
  by_cases leaves : action = .processLeaves
  · subst leaves
    cases step
    exact before.processLeaves_moves
  · exact (next_acts step meets leaves).moves

/-- Any session may meet the condition that asks for nothing. -/
theorem spawnMeets_any (host : RoomHost) (action : Action)
    : host.spawnMeets env (fun _ _ => true) action = true := by
  unfold spawnMeets
  split
  · simp
  · rfl

end RoomHost

end ExtractionServer.Room
