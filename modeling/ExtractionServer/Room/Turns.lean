import ExtractionServer.Room.Effects

/-! The timers, the updates and the leave pipeline of a room as chains of elementary turns.
-/

namespace ExtractionServer.Room

open Transport

namespace RoomHost

-----------------------------------------------------------------------------------------
-- Timers and updates
-----------------------------------------------------------------------------------------

section Timers

variable (env : Environment) (spawner : GameRoom → PlayerSession → Bool) (host : RoomHost)

theorem cancelRecall_effects (sessionId : Nat) (session : PlayerSession) (spotIndex : Nat)
    (reason : RecallResultReason)
    : Effects env spawner host
        (host.cancelRecall env sessionId session spotIndex reason) := by
  have ended : Effects env spawner host
      (host.modifySession sessionId PlayerSession.endRecall) :=
    Effects.touch host sessionId _ fun _ => {}
  unfold cancelRecall
  dsimp only
  split
  · exact ended
  · exact ended.trans (Effects.send _ sessionId _)

/-- A recall tick is a chain of effects, or it completes the recall of a session that is not
leaving yet; the notice of the completion is then pending.
-/
theorem recallTick_effects (timer : RecallTimer)
    : Effects env spawner host (host.recallTick env timer)
      ∨ ∃ session ready,
        host.room.playerSessions.lookup timer.sessionId = some session
        ∧ session.isLeaving = false
        ∧ Effects env spawner host ready
        ∧ ready.lastSentRSeq timer.sessionId ∈ ready.pendingSeqs timer.sessionId
        ∧ host.recallTick env timer
          = ready.markLeaving env timer.sessionId .recalled
            (ready.lastSentRSeq timer.sessionId) := by
  unfold recallTick
  dsimp only
  split
  · exact .inl .refl
  · next session found =>
    split
    · exact .inl .refl
    split
    · exact .inl .refl
    split
    · exact .inl (host.cancelRecall_effects env spawner _ session _ _)
    split
    · exact .inl (host.cancelRecall_effects env spawner _ session _ _)
    next staying =>
    split
    · exact .inl (host.cancelRecall_effects env spawner _ session _ _)
    split
    · exact .inl (host.cancelRecall_effects env spawner _ session _ _)
    split
    · exact .inl (host.cancelRecall_effects env spawner _ session _ _)
    have passed : Effects env spawner host
        (host.modifySession timer.sessionId PlayerSession.addRecallPass) :=
      Effects.touch host _ _ fun _ => {}
    split
    · exact .inl (passed.trans (Effects.scheduleRecallTick _ _ _ _))
    · have ended : Effects env spawner host
          ((host.modifySession timer.sessionId PlayerSession.addRecallPass).modifySession
            timer.sessionId PlayerSession.endRecall) :=
        passed.trans (Effects.touch _ _ _ fun _ => {})
      have current : ((host.modifySession timer.sessionId
            PlayerSession.addRecallPass).modifySession timer.sessionId
              PlayerSession.endRecall).room.playerSessions.lookup timer.sessionId
          = some session.addRecallPass.endRecall := by
        simp only [modifySession, modifyRoom, GameRoom.modifySession,
          Table.lookup_adjust_self, found]
        rfl
      exact .inr ⟨session, _, found, by simpa using staying,
        ended.trans (Effects.send _ timer.sessionId _), lastSentRSeq_pending _ _ current rfl,
        rfl⟩

theorem update_effects : Effects env spawner host (host.update env) := by
  have regenerated : Effects env spawner host (host.regenPlayerShields env) := by
    unfold regenPlayerShields
    refine (Effects.now host).trans ?_
    dsimp only
    split
    · exact Effects.modifyRoom ⟨.of_eq rfl, rfl, fun _ _ => rfl⟩
    · generalize BitVec.toNat _ = elapsedMs
      refine Effects.modifyRoom ⟨?_, rfl, fun _ _ => rfl⟩
      have mended : GameRoom.Ordinary none host.room _ :=
        .mapPlayerObjects host.room fun object => .regenShield object elapsedMs
      exact mended.trans (.of_eq rfl)
  unfold update broadcastPlayerStates
  split
  · exact regenerated
  · exact regenerated.trans (Effects.broadcastExcept _ _ _)

theorem updateNpcStates_effects : Effects env spawner host (host.updateNpcStates env) := by
  unfold updateNpcStates
  dsimp only
  split
  · exact .refl
  · exact Effects.broadcastExcept host _ _

end Timers

/-- The room after a packet has been recorded in its session's channel, before its handler
runs. Other actions are not recorded anywhere.
-/
def hear (env : Environment) (host : RoomHost) : Action → RoomHost
  | .packet sessionId header _ _ =>
      if (host.room.playerSessions.lookup sessionId).isSome then
        (host.receive env sessionId header).1
      else host
  | _ => host

@[simp] theorem hear_room (env : Environment) (host : RoomHost) (action : Action)
    : (host.hear env action).room = host.room := by
  unfold hear
  split
  · split <;> rfl
  · rfl

variable {env : Environment} {spawner : GameRoom → PlayerSession → Bool}
  {before after : RoomHost}

theorem handleClientPacket_served (host : RoomHost) (sessionId : Nat) (header : UDPHeader)
    (clientAddr : SockAddr) (pkt : C2DPacket)
    (meets : host.spawnMeets env spawner (.packet sessionId header clientAddr pkt) = true)
    : Served env spawner (host.hear env (.packet sessionId header clientAddr pkt))
        (host.handleClientPacket env sessionId header clientAddr pkt).1 := by
  unfold handleClientPacket hear
  dsimp only
  cases found : host.room.playerSessions.lookup sessionId with
  | none => exact .inl .refl
  | some session =>
      simp only [Option.isSome_some, if_true]
      split
      · exact .inl .refl
      · next fresh =>
          refine dispatch_effects env spawner (host.receive env sessionId header).1 sessionId
            session clientAddr found pkt ?_
          rintro rfl active
          have same : (host.receive env sessionId header).1.room = host.room := rfl
          simpa [spawnMeets, found, fresh, active, same] using meets

/-- Every action but the leave pipeline serves a packet or has effects, or completes a recall.
-/
theorem next_served {action : Action} (step : before.next env action = some after)
    (meets : before.spawnMeets env spawner action = true) (other : action ≠ .processLeaves)
    : Served env spawner (before.hear env action) after
      ∨ ∃ sessionId session ready,
        before.room.playerSessions.lookup sessionId = some session
        ∧ session.isLeaving = false
        ∧ Effects env spawner before ready
        ∧ ready.lastSentRSeq sessionId ∈ ready.pendingSeqs sessionId
        ∧ before.hear env action = before
        ∧ after = ready.markLeaving env sessionId .recalled (ready.lastSentRSeq sessionId) := by
  cases action with
  | packet sessionId header clientAddr pkt =>
      cases step
      exact .inl (before.handleClientPacket_served sessionId header clientAddr pkt meets)
  | recallTick index =>
      simp only [next] at step
      split at step
      · cases step
      · next timer _ =>
          split at step
          · cases step
          · cases step
            have taken : Effects env spawner before
                { before with
                  wire :=
                    { (before.now env).1.wire with
                      recallTimers := before.wire.recallTimers.eraseIdx index } } :=
              Effects.quiet rfl ⟨Nat.le_succ _, fun _ _ => id⟩
            rcases recallTick_effects env spawner _ timer with ticked | completed
            · exact .inl (.inl (taken.trans ticked))
            · obtain ⟨session, ready, found, staying, effects, pending, completes⟩ := completed
              exact .inr ⟨timer.sessionId, session, ready, found, staying,
                taken.trans effects, pending, rfl, completes⟩
  | processLeaves => exact absurd rfl other
  | update =>
      cases step
      exact .inl (.inl (before.update_effects env spawner))
  | updateNpcStates =>
      cases step
      exact .inl (.inl (before.updateNpcStates_effects env spawner))
  | bindClientIp sessionId addr =>
      cases step
      exact .inl (.inl (Effects.touch before sessionId _ fun _ => {}))
  | checkRetransmits sessionId =>
      simp only [next] at step
      split at step
      · cases step
        exact .inl (.inl .refl)
      · cases step
        refine .inl (.inl (Effects.quiet rfl ⟨Nat.le_succ _, fun otherId seq mem => ?_⟩))
        simp only [pendingSeqs, hear, now] at mem ⊢
        by_cases same : otherId = sessionId
        · subst same
          rw [Function.update_self]
          simpa [Channel.retransmit] using mem
        · rw [Function.update_of_ne same]
          exact mem

-----------------------------------------------------------------------------------------
-- Turns
-----------------------------------------------------------------------------------------

/-- An elementary change that is no request for items: the leave pipeline marks, detaches in
stages, and finalizes.
-/
inductive Turn (env : Environment) (spawner : GameRoom → PlayerSession → Bool)
    (before after : RoomHost) : Prop
  | effect (step : Effect env spawner before after)
  /-- The room stays; packets may have been dropped. -/
  | quiet (room : after.room = before.room)
  | mark (sessionId : Nat) (reason : LeaveReason) (now : TimePoint) (notifyRSeq : BitVec 32)
      (room : after.room
        = before.room.modifySession sessionId (·.markLeaving reason now notifyRSeq))
  /-- A closed container appears under a fresh id. -/
  | loot (box : Container) (closed : box.interactingPlayerId = none)
      (room : after.room
        = { before.room with
            nxtObjectId := before.room.nxtObjectId + 1
            dynamicObjects :=
              before.room.dynamicObjects.tryEmplace before.room.nxtObjectId
                (.container box) })
  | clear (sessionId : Nat)
      (room : after.room = before.room.modifySession sessionId fun session =>
        { session with inventory := session.inventory.clear })
  | erase (objectId : Nat)
      (room : after.room
        = { before.room with
            playerObjects := AList.erase objectId before.room.playerObjects })
  /-- A session gives up its object when it has nothing open any more. -/
  | detach (sessionId : Nat)
      (closed : ∀ session, before.room.playerSessions.lookup sessionId = some session →
        session.interactingContainerId = none)
      (room : after.room = before.room.modifySession sessionId
        ({ · with objectId := none, leaveState := .detached }))
  | finalize (sessionId : Nat)
      (room : after.room = before.room.modifySession sessionId
        ({ · with leaveState := .finalized, sessionState := .left }))

abbrev Turns (env : Environment) (spawner : GameRoom → PlayerSession → Bool)
    : RoomHost → RoomHost → Prop :=
  Relation.ReflTransGen (Turn env spawner)

theorem Effects.turns (effects : Effects env spawner before after)
    : Turns env spawner before after :=
  Relation.ReflTransGen.mono (fun _ _ => Turn.effect) _ _ effects

/-- A loop whose turns are chains of turns is a chain of turns. -/
theorem Turns.foldl {κ : Type} {step : RoomHost → κ → RoomHost} {keys : List κ}
    (turn : ∀ host, ∀ key ∈ keys, Turns env spawner host (step host key)) (host : RoomHost)
    : Turns env spawner host (keys.foldl step host) :=
  List.foldlRecOn keys step (motive := Turns env spawner host) .refl
    fun reached chain key mem => chain.trans (turn reached key mem)

theorem markLeaving_turns (host : RoomHost) (sessionId : Nat) (reason : LeaveReason)
    (notifyRSeq : BitVec 32)
    : Turns env spawner host (host.markLeaving env sessionId reason notifyRSeq) :=
  .single (.mark sessionId reason (env.clock host.wire.reads) notifyRSeq rfl)

theorem markLeaves_turns (now : TimePoint) (host : RoomHost)
    : Turns env spawner host (host.markLeaves env now) := by
  have expired : Turns env spawner host
      ((host.modifyRoom ({ · with lifetimeExpired := true })).allKill env) := by
    have flagged : host.room.Scene { host.room with lifetimeExpired := true } :=
      ⟨.of_eq rfl, rfl, fun _ _ => rfl⟩
    refine (Effects.modifyRoom (f := ({ · with lifetimeExpired := true }))
      flagged).turns.trans ?_
    exact Turns.foldl (fun host sessionId _ => host.markLeaving_turns sessionId .dead 0) _
  have dead (host : RoomHost) : Turns env spawner host (host.markDead env) := by
    refine Turns.foldl (fun host deadObjectId _ => ?_) host
    split
    · exact .refl
    · exact host.markLeaving_turns _ .dead 0
  have disconnected (host : RoomHost)
      : Turns env spawner host (host.detectDisconnectedSessions env) := by
    refine (Effects.now host).turns.trans (Turns.foldl (fun host sessionId _ => ?_) _)
    split
    · exact .refl
    · dsimp only
      repeat' split
      all_goals first
        | exact .refl
        | exact host.markLeaving_turns sessionId .disconnected 0
  unfold markLeaves
  refine .tail ?_ (.quiet (room_eq_of_outcome (clearPendingOfLeaving_outcome _)))
  refine .trans ?_ (disconnected _)
  refine .trans ?_ (dead _)
  split
  · exact expired
  · exact .refl

theorem notifyLeftOnce_turns (host : RoomHost) (sessionId : Nat)
    : Turns env spawner host (host.notifyLeftOnce sessionId) := by
  unfold notifyLeftOnce
  split
  · exact .refl
  · split
    · exact .refl
    · exact .single (.effect ⟨.touch sessionId ({ · with leftNotified := true })
        (fun _ => {}) rfl, .of_eq rfl rfl⟩)

theorem finalizeLeave_turns (host : RoomHost) (sessionId : Nat)
    : Turns env spawner host (host.finalizeLeave sessionId) := by
  unfold finalizeLeave
  refine .trans ?_ (notifyLeftOnce_turns _ sessionId)
  exact (Relation.ReflTransGen.single (.quiet rfl)).tail (.finalize sessionId rfl)

theorem releaseNpcAuthority_effects (host : RoomHost) (playerObjectId : Option Nat)
    : Effects env spawner host (host.releaseNpcAuthority env playerObjectId) := by
  unfold releaseNpcAuthority
  split
  · exact .refl
  · refine List.foldlRecOn _ _ (motive := Effects env spawner host) .refl ?_
    intro reached chain objectId _
    refine chain.trans ?_
    split
    · exact .refl
    · next npc found =>
        split
        · exact .refl
        · dsimp only
          split
          · exact .refl
          · refine .trans (Effects.modifyRoom ?_) (Effects.broadcastExcept _ _ _)
            exact ⟨.adjustDynamicNpc found _, rfl,
              fun _ => GameRoom.findContainer_adjustNpc found _⟩

/-- Filling a loot container leaves it closed. -/
theorem create_interactingPlayerId (objectId : Nat) (position : Vector3)
    (yawAngle : BitVec 32) (inventory : PlayerInventory)
    : (PlayerLootContainer.create objectId position yawAngle inventory).interactingPlayerId
      = none := by
  unfold PlayerLootContainer.create PlayerLootContainer.fillFrom
  refine List.foldlRecOn _ _
    (motive := fun filling : Container × Nat => filling.1.interactingPlayerId = none) rfl ?_
  intro filling closed slot _
  unfold PlayerLootContainer.place Container.placeItem
  split
  · exact closed
  · split <;> exact closed

theorem spawnPlayerLootContainer_turns (host : RoomHost) (object : PlayerObject)
    (inventory : PlayerInventory)
    : Turns env spawner host (host.spawnPlayerLootContainer env object inventory) := by
  unfold spawnPlayerLootContainer spawnDynamicObject
  dsimp only [getNewObjectId]
  rw [NonplayerObject.base, PlayerLootContainer.create_objectId]
  split
  · next taken =>
      refine .single (.loot (PlayerLootContainer.create host.room.nxtObjectId
        object.base.position object.base.yawAngle inventory)
        (create_interactingPlayerId _ _ _ _) ?_)
      simp only [modifyRoom] at taken ⊢
      rw [Table.tryEmplace, if_pos taken]
  · refine .trans (.single ?_) (Effects.broadcastExcept _ _ _).turns
    exact .loot _ (create_interactingPlayerId _ _ _ _) rfl

/-- The session has no container open. -/
def Closed (host : RoomHost) (sessionId : Nat) : Prop :=
  ∀ session, host.room.playerSessions.lookup sessionId = some session →
    session.interactingContainerId = none

theorem closed_release (host : RoomHost) (sessionId : Nat)
    : (host.modifyRoom (·.releaseInteractingContainer sessionId)).Closed sessionId := by
  intro session found
  have sessions : (host.room.releaseInteractingContainer sessionId).playerSessions
      = host.room.playerSessions.adjust sessionId
        ({ · with interactingContainerId := none }) :=
    congrArg Prod.fst (releaseInteractingContainer_players sessionId host.room)
  simp only [modifyRoom, sessions, Table.lookup_adjust_self] at found
  obtain ⟨_, _, rfl⟩ := Option.map_eq_some_iff.mp found
  rfl

theorem Closed.of_eq {sessionId : Nat} (closed : before.Closed sessionId)
    (sessions : after.room.playerSessions = before.room.playerSessions)
    : after.Closed sessionId := by
  intro session found
  exact closed session (sessions ▸ found)

/-- The part of a detach that deals with an object is a chain of turns, and opens nothing. -/
theorem detachObject_turns (host : RoomHost) (sessionId objectId : Nat)
    (object : PlayerObject) (inventory : PlayerInventory) (reason : LeaveReason)
    (closed : host.Closed sessionId)
    : Turns env spawner host
        (host.detachObject env sessionId objectId object inventory reason)
      ∧ (host.detachObject env sessionId objectId object inventory reason).Closed
        sessionId := by
  unfold detachObject
  extract_lets spawned killerObjectId looted cleared erased
  have afterLoot : Turns env spawner host looted ∧ looted.Closed sessionId := by
    unfold looted
    split
    · refine ⟨?_, closed.of_eq ?_⟩
      · exact (host.spawnPlayerLootContainer_turns object inventory).trans
          (Effects.broadcastExcept _ _ _).turns
      · rw [broadcast_room]
        unfold spawned spawnPlayerLootContainer spawnDynamicObject
        dsimp only
        split
        · rfl
        · rw [broadcast_room]
          rfl
    · exact ⟨.refl, closed⟩
  have afterClear : Turns env spawner host cleared ∧ cleared.Closed sessionId := by
    unfold cleared
    split
    · refine ⟨afterLoot.1.tail (.clear sessionId rfl), ?_⟩
      intro session found
      simp only [modifyRoom, GameRoom.modifySession, Table.lookup_adjust_self] at found
      obtain ⟨old, stored, rfl⟩ := Option.map_eq_some_iff.mp found
      exact afterLoot.2 old stored
    · exact afterLoot
  refine ⟨?_, afterClear.2.of_eq ?_⟩
  · exact (afterClear.1.tail (.erase objectId rfl)).trans
      (Effects.broadcastExcept _ _ _).turns
  · rw [broadcastExcept_room]
    rfl

theorem detachPlayer_turns (host : RoomHost) (sessionId : Nat)
    : Turns env spawner host (host.detachPlayer env sessionId) := by
  unfold detachPlayer
  split
  · exact .refl
  · next session _ =>
      extract_lets objectId reason stopped released freed withdrawn detached
      have afterStop : Turns env spawner host stopped :=
        .single (.effect ⟨.touch sessionId (fun session =>
          { session.endRecall with
            sessionState := if reason = .dead then .spectating else .left })
          (fun _ => {}) rfl, .of_eq rfl rfl⟩)
      have afterRelease : Turns env spawner host released :=
        afterStop.tail (.effect ⟨.closeContainer sessionId rfl, .of_eq rfl rfl⟩)
      have afterFree : Turns env spawner host freed :=
        afterRelease.trans (released.releaseNpcAuthority_effects objectId).turns
      have closed : freed.Closed sessionId := by
        refine (stopped.closed_release sessionId).of_eq ?_
        exact congrArg Prod.fst (releaseNpcAuthority_players env released objectId)
      have afterWithdrawal : Turns env spawner host withdrawn
          ∧ withdrawn.Closed sessionId := by
        unfold withdrawn objectId
        split
        · exact ⟨afterFree, closed⟩
        · next current _ =>
            split
            · exact ⟨afterFree, closed⟩
            · next object _ =>
                obtain ⟨step, shut⟩ : Turns env spawner freed _ ∧ _ := freed.detachObject_turns
                  sessionId current object session.inventory reason closed
                exact ⟨afterFree.trans step, shut⟩
      refine .trans ?_ (notifyLeftOnce_turns _ sessionId)
      exact afterWithdrawal.1.tail (.detach sessionId afterWithdrawal.2 rfl)

theorem advanceLeave_turns (now : TimePoint) (host : RoomHost) (sessionId : Nat)
    : Turns env spawner host (host.advanceLeave env now sessionId) := by
  unfold advanceLeave
  extract_lets detached
  have first : Turns env spawner host detached := by
    unfold detached
    split
    · exact .refl
    · split
      · exact host.detachPlayer_turns sessionId
      · exact .refl
  refine first.trans ?_
  split
  · exact .refl
  · split
    · exact detached.finalizeLeave_turns sessionId
    · exact .refl

theorem checkAllLeft_turns (host : RoomHost) : Turns env spawner host host.checkAllLeft := by
  unfold checkAllLeft
  split
  · exact .refl
  · split
    · exact .refl
    · exact .single (.effect ⟨.scene ⟨.of_eq rfl, rfl, fun _ _ => rfl⟩, .of_eq rfl rfl⟩)

theorem processLeaves_turns (host : RoomHost)
    : Turns env spawner host (host.processLeaves env) := by
  unfold processLeaves
  refine .trans ?_ (checkAllLeft_turns _)
  refine .trans ?_ (Turns.foldl (fun host sessionId _ => host.advanceLeave_turns _ sessionId) _)
  exact (Effects.now host).turns.trans (markLeaves_turns _ _)

/-- Every action of the room is a chain of turns, with at most one change of items. -/
theorem next_turns {action : Action} (step : before.next env action = some after)
    (meets : before.spawnMeets env spawner action = true)
    : Turns env spawner before after
      ∨ ∃ first middle, Turns env spawner before first ∧ Deal env first middle
        ∧ Turns env spawner middle after := by
  by_cases leaves : action = .processLeaves
  · subst leaves
    cases step
    exact .inl before.processLeaves_turns
  · have heard : Turns env spawner before (before.hear env action) :=
      .single (.quiet (before.hear_room env action))
    rcases next_served step meets leaves with served | completed
    · rcases served with effects | ⟨first, middle, early, deal, _, late⟩
      · exact .inl (heard.trans effects.turns)
      · exact .inr ⟨first, middle, heard.trans early.turns, deal, late.turns⟩
    · obtain ⟨sessionId, _, ready, _, _, effects, _, _, rfl⟩ := completed
      exact .inl (effects.turns.trans (ready.markLeaving_turns sessionId .recalled _))

-----------------------------------------------------------------------------------------
-- The layout of the room along turns
-----------------------------------------------------------------------------------------

theorem openContainer_ordinary (room : GameRoom)
    (sessionId containerId playerObjectId : Nat) (box : Container)
    : GameRoom.Ordinary none room
        (room.openContainer sessionId containerId playerObjectId box) := by
  unfold GameRoom.openContainer
  dsimp only
  refine GameRoom.Ordinary.trans ?_ (.modifySession_of_eq _ (fun _ => rfl) fun _ => rfl)
  refine GameRoom.Ordinary.trans ?_ (.modifyContainer _ fun _ _ => rfl)
  refine GameRoom.Ordinary.trans ?_ (.releaseInteractingContainer sessionId _)
  split
  · exact .refl none room
  · exact .modifySession_of_eq room (fun _ => rfl) fun _ => rfl

theorem Spawned.layout {sessionId : Nat} (step : Spawned sessionId before after)
    (layout : before.room.Layout)
    : after.room.Layout := by
  obtain ⟨object, _, objects⟩ := step.objects layout
  constructor
  · rw [step.staticObjects]
    exact layout.staticContainers
  · intro objectId mem
    rw [step.dynamicObjects] at mem
    rw [step.nxtObjectId]
    exact (layout.dynamicIds objectId mem).trans (Nat.lt_succ_self _)
  · intro objectId mem
    rw [objects] at mem
    rw [step.nxtObjectId]
    rcases Table.mem_tryEmplace mem with rfl | old
    · exact Nat.lt_succ_self _
    · exact (layout.playerIds objectId old).trans (Nat.lt_succ_self _)

theorem Effect.layout (step : Effect env spawner before after)
    (layout : before.room.Layout)
    : after.room.Layout := by
  cases step.change with
  | quiet room => exact room ▸ layout
  | scene room => exact room.ordinary.layout layout
  | touch sessionId f keeps room =>
      exact room ▸ ⟨layout.staticContainers, layout.dynamicIds, layout.playerIds⟩
  | notice sessionId seq pending room =>
      exact room ▸ ⟨layout.staticContainers, layout.dynamicIds, layout.playerIds⟩
  | spawn sessionId session found active meets step => exact step.layout layout
  | openContainer sessionId containerId playerObjectId session box found located current room =>
      exact room ▸ (openContainer_ordinary before.room sessionId containerId playerObjectId
        box).layout layout
  | closeContainer sessionId room =>
      have step : GameRoom.Ordinary none before.room _ :=
        .releaseInteractingContainer sessionId before.room
      exact room ▸ step.layout layout

theorem Deal.layout (step : Deal env before after) (layout : before.room.Layout)
    : after.room.Layout := by
  cases step with
  | interact sessionId session pkt opened store found plan room =>
      exact room ▸ (commitStore_ordinary before sessionId opened store).room.layout layout
  | equip sessionId session pkt opened store unloadedSlotIdx found plan room =>
      exact room ▸ (commitStore_ordinary before sessionId opened store).room.layout layout
  | reload sessionId session isUsingPrimary version found room =>
      exact room ▸ ⟨layout.staticContainers, layout.dynamicIds, layout.playerIds⟩
  | shot sessionId session isUsingPrimary found loaded positive room =>
      exact room ▸ ⟨layout.staticContainers, layout.dynamicIds, layout.playerIds⟩

/-- Every turn keeps the layout: new objects take the next id. -/
theorem Turn.layout (turn : Turn env spawner before after) (layout : before.room.Layout)
    : after.room.Layout := by
  cases turn with
  | effect step => exact step.layout layout
  | quiet room => exact room ▸ layout
  | mark sessionId reason now notifyRSeq room =>
      exact room ▸ ⟨layout.staticContainers, layout.dynamicIds, layout.playerIds⟩
  | loot box closed room =>
      rw [room]
      refine ⟨layout.staticContainers, fun objectId mem => ?_, fun objectId mem => ?_⟩
      · rcases Table.mem_tryEmplace mem with rfl | old
        · exact Nat.lt_succ_self _
        · exact (layout.dynamicIds objectId old).trans (Nat.lt_succ_self _)
      · exact (layout.playerIds objectId mem).trans (Nat.lt_succ_self _)
  | clear sessionId room =>
      exact room ▸ ⟨layout.staticContainers, layout.dynamicIds, layout.playerIds⟩
  | erase objectId room =>
      rw [room]
      exact ⟨layout.staticContainers, layout.dynamicIds,
        fun other mem => layout.playerIds other (AList.mem_erase.mp mem).2⟩
  | detach sessionId closed room =>
      exact room ▸ ⟨layout.staticContainers, layout.dynamicIds, layout.playerIds⟩
  | finalize sessionId room =>
      exact room ▸ ⟨layout.staticContainers, layout.dynamicIds, layout.playerIds⟩

/-- What every turn preserves, a chain of turns preserves, by induction. -/
theorem Turns.preserves {P : RoomHost → Prop}
    (keeps : ∀ before after, P before → Turn env spawner before after → P after)
    (turns : Turns env spawner before after) (holds : P before)
    : P after := by
  induction turns with
  | refl => exact holds
  | tail _ turn ih => exact keeps _ _ ih turn

/-- What every turn and every change of items preserves, every action preserves. -/
theorem preserves_of_next {P : RoomHost → Prop}
    (turn : ∀ before after, P before → Turn env spawner before after → P after)
    (deal : ∀ before after, P before → Deal env before after → P after)
    {action : Action} (step : before.next env action = some after)
    (meets : before.spawnMeets env spawner action = true) (holds : P before)
    : P after := by
  rcases next_turns step meets with turns | ⟨first, middle, early, changed, late⟩
  · exact turns.preserves turn holds
  · exact late.preserves turn (deal first middle (early.preserves turn holds) changed)

end RoomHost

end ExtractionServer.Room
