import ExtractionServer.Room.LifeCycle

/-! Every packet, timer and update of a room as a chain of elementary effects: what each of
them does to sessions and containers, with the notices that stay pending meanwhile.
-/

namespace ExtractionServer.Room

open Transport

-----------------------------------------------------------------------------------------
-- Looking up containers
-----------------------------------------------------------------------------------------

namespace GameRoom

/-- Writing through the pointer of a lookup changes what that lookup finds and no other. -/
theorem findNonplayerObject_modifyNonplayerObject (room : GameRoom) (objectId other : Nat)
    (f : NonplayerObject → NonplayerObject)
    : (room.modifyNonplayerObject objectId f).findNonplayerObject other
      = if other = objectId then (room.findNonplayerObject other).map f
        else room.findNonplayerObject other := by
  unfold modifyNonplayerObject findNonplayerObject
  by_cases same : other = objectId
  · subst same
    by_cases static : other ∈ room.staticObjects
    · obtain ⟨object, found⟩ := Table.exists_lookup_of_mem static
      simp [static, found]
    · simp [static, AList.lookup_eq_none.mpr static]
  · by_cases static : objectId ∈ room.staticObjects
    · simp [static, same, Table.lookup_adjust_ne same]
    · simp [static, same, Table.lookup_adjust_ne same]

theorem findContainer_modifyContainer (room : GameRoom) (objectId other : Nat)
    (f : Container → Container)
    : (room.modifyContainer objectId f).findContainer other
      = if other = objectId then (room.findContainer other).map f
        else room.findContainer other := by
  unfold findContainer modifyContainer
  rw [findNonplayerObject_modifyNonplayerObject]
  split
  · cases room.findNonplayerObject other with
    | none => rfl
    | some object => cases object <;> rfl
  · rfl

@[simp] theorem findContainer_modifyHostileNpc (room : GameRoom) (objectId other : Nat)
    (f : HostileNPC → HostileNPC)
    : (room.modifyHostileNpc objectId f).findContainer other = room.findContainer other := by
  unfold findContainer modifyHostileNpc
  rw [findNonplayerObject_modifyNonplayerObject]
  split
  · cases room.findNonplayerObject other with
    | none => rfl
    | some object => cases object <;> rfl
  · rfl

@[simp] theorem findContainer_modifySession (room : GameRoom) (sessionId other : Nat)
    (f : PlayerSession → PlayerSession)
    : (room.modifySession sessionId f).findContainer other = room.findContainer other := rfl

theorem modifyContainer_playerSessions (room : GameRoom) (containerId : Nat)
    (f : Container → Container)
    : (room.modifyContainer containerId f).playerSessions = room.playerSessions := by
  unfold modifyContainer modifyNonplayerObject
  split <;> rfl

/-- Without one of the dynamic NPCs the same containers are found. -/
theorem findContainer_eraseNpc {room : GameRoom} {objectId : Nat} {npc : HostileNPC}
    (found : room.dynamicObjects.lookup objectId = some (.hostileNpc npc)) (other : Nat)
    : findContainer { room with dynamicObjects := AList.erase objectId room.dynamicObjects }
        other = room.findContainer other := by
  unfold findContainer findNonplayerObject
  cases static : room.staticObjects.lookup other with
  | some object => rfl
  | none =>
      by_cases same : other = objectId
      · subst same
        simp only [AList.lookup_erase, found]
        rfl
      · simp only [AList.lookup_erase_ne same]

/-- Nor does it matter which NPC stands at an NPC's id. -/
theorem findContainer_adjustNpc {room : GameRoom} {objectId : Nat} {npc : HostileNPC}
    (found : (room.dynamicObjects.lookup objectId).bind NonplayerObject.asHostileNpc
      = some npc) (changed : HostileNPC) (other : Nat)
    : findContainer
        { room with
          dynamicObjects :=
            room.dynamicObjects.adjust objectId fun _ => .hostileNpc changed } other
      = room.findContainer other := by
  unfold findContainer findNonplayerObject
  cases static : room.staticObjects.lookup other with
  | some object => rfl
  | none =>
      by_cases same : other = objectId
      · subst same
        obtain ⟨object, stored, cast⟩ := Option.bind_eq_some_iff.mp found
        simp only [Table.lookup_adjust_self, stored, Option.map_some]
        cases object with
        | container box => cases cast
        | hostileNpc _ => rfl
      · simp only [Table.lookup_adjust_ne same]

end GameRoom

-----------------------------------------------------------------------------------------
-- Changes that items, open containers and leaves do not see
-----------------------------------------------------------------------------------------

/-- A session keeps its items, its object, its open container and its leave. -/
structure PlayerSession.Untouched (before after : PlayerSession) : Prop where
  inventory : after.inventory = before.inventory := by rfl
  objectId : after.objectId = before.objectId := by rfl
  interactingContainerId : after.interactingContainerId = before.interactingContainerId
    := by rfl
  leaveState : after.leaveState = before.leaveState := by rfl
  leaveReason : after.leaveReason = before.leaveReason := by rfl
  leaveMarkedAt : after.leaveMarkedAt = before.leaveMarkedAt := by rfl
  leaveNotifyRSeq : after.leaveNotifyRSeq = before.leaveNotifyRSeq := by rfl

/-- The sessions and the containers of a room stay while players and NPCs move and fight. -/
structure GameRoom.Scene (before after : GameRoom) : Prop where
  ordinary : GameRoom.Ordinary none before after
  sessions : after.playerSessions = before.playerSessions
  containers : before.Layout → ∀ objectId,
    after.findContainer objectId = before.findContainer objectId

namespace GameRoom.Scene

variable {before middle after : GameRoom}

theorem refl (room : GameRoom) : Scene room room :=
  ⟨.refl none room, rfl, fun _ _ => rfl⟩

theorem trans (first : Scene before middle) (second : Scene middle after)
    : Scene before after where
  ordinary := first.ordinary.trans second.ordinary
  sessions := second.sessions.trans first.sessions
  containers layout objectId :=
    (second.containers (first.ordinary.layout layout) objectId).trans
      (first.containers layout objectId)

theorem modifyPlayerObject {objectId : Nat} {f : PlayerObject → PlayerObject}
    {room : GameRoom}
    (goes : ∀ object, room.playerObjects.lookup objectId = some object →
      object.Continues (f object))
    : Scene room (room.modifyPlayerObject objectId f) :=
  ⟨.modifyPlayerObject goes, rfl, fun _ _ => rfl⟩

theorem modifyHostileNpc (objectId : Nat) (f : HostileNPC → HostileNPC) (room : GameRoom)
    : Scene room (room.modifyHostileNpc objectId f) := by
  refine ⟨.modifyHostileNpc objectId f room, ?_, fun _ _ => ?_⟩
  · unfold GameRoom.modifyHostileNpc GameRoom.modifyNonplayerObject
    split <;> rfl
  · exact room.findContainer_modifyHostileNpc objectId _ f

end GameRoom.Scene

namespace RoomHost

/-- The numbers of the packets that a session has not acknowledged. -/
def pendingSeqs (host : RoomHost) (sessionId : Nat) : List (BitVec 32) :=
  (host.wire.channels sessionId).pendingReliable.seqNums

/-- Time goes on and packets are sent; none stops waiting for its acknowledgement. -/
structure Sends (before after : RoomHost) : Prop where
  reads : before.wire.reads ≤ after.wire.reads
  pending : ∀ sessionId seq, seq ∈ before.pendingSeqs sessionId →
    seq ∈ after.pendingSeqs sessionId

namespace Sends

variable {before middle after : RoomHost}

theorem refl (host : RoomHost) : Sends host host := ⟨Nat.le_refl _, fun _ _ => id⟩

theorem trans (first : Sends before middle) (second : Sends middle after)
    : Sends before after where
  reads := first.reads.trans second.reads
  pending sessionId seq mem := second.pending sessionId seq (first.pending sessionId seq mem)

/-- The channels and the clock stay. -/
theorem of_eq (channels : after.wire.channels = before.wire.channels)
    (reads : after.wire.reads = before.wire.reads)
    : Sends before after where
  reads := Nat.le_of_eq reads.symm
  pending sessionId seq mem := by
    unfold pendingSeqs
    rw [channels]
    exact mem

end Sends

section Sending

variable (env : Environment) (host : RoomHost)

theorem now_sends : Sends host (host.now env).1 := ⟨Nat.le_succ _, fun _ _ => id⟩

theorem scheduleRecallTick_sends (sessionId : Nat) (uid : Int) (generation : BitVec 32)
    : Sends host (host.scheduleRecallTick env sessionId uid generation) :=
  ⟨Nat.le_succ _, fun _ _ => id⟩

/-- Building a packet adds at most its number to the pending ones, and if it is reliable its
number is then pending.
-/
theorem makeD2CPacketImpl_pending (channel : Channel D2CMessage)
    (digest : UDPHeader → D2CMessage → BitVec 64) (sessionId : BitVec 16)
    (address : SockAddr) (nowMs : BitVec 32) (pktId : BitVec 16) (reliable : Bool)
    (message : D2CMessage)
    : (∀ seq ∈ channel.pendingReliable.seqNums,
        seq ∈ (channel.makeD2CPacketImpl digest sessionId address nowMs pktId reliable
          message).1.pendingReliable.seqNums)
      ∧ (reliable = true →
        (channel.makeD2CPacketImpl digest sessionId address nowMs pktId reliable
            message).1.sendRSeq
          ∈ (channel.makeD2CPacketImpl digest sessionId address nowMs pktId reliable
            message).1.pendingReliable.seqNums) := by
  unfold Channel.makeD2CPacketImpl
  cases reliable with
  | false => exact ⟨fun _ => id, nofun⟩
  | true =>
      refine ⟨fun seq mem => ?_, fun _ => ?_⟩
      · exact (PendingReliable.mem_seqNums_emplace _ _ seq).mpr (.inr mem)
      · exact (PendingReliable.mem_seqNums_emplace _ _ _).mpr (.inl rfl)

theorem send_sends (sessionId : Nat) (message : D2CMessage)
    : Sends host (host.send env sessionId message) := by
  unfold send
  split
  · exact .refl host
  · next session _ =>
      refine ⟨Nat.le_succ _, fun otherId seq mem => ?_⟩
      simp only [pendingSeqs] at mem ⊢
      by_cases same : otherId = sessionId
      · subst same
        rw [Function.update_self]
        exact (makeD2CPacketImpl_pending _ _ _ _ _ _ _ _).1 seq mem
      · rw [Function.update_of_ne same]
        exact mem

theorem modifyRoom_sends (f : GameRoom → GameRoom) : Sends host (host.modifyRoom f) :=
  .of_eq rfl rfl

/-- The number of a reliable packet is pending when it has been sent. -/
theorem lastSentRSeq_pending {sessionId : Nat} {session : PlayerSession}
    (found : host.room.playerSessions.lookup sessionId = some session) {message : D2CMessage}
    (reliable : message.isReliable = true)
    : (host.send env sessionId message).lastSentRSeq sessionId
      ∈ (host.send env sessionId message).pendingSeqs sessionId := by
  unfold send lastSentRSeq pendingSeqs
  rw [found]
  simp only [Function.update_self]
  exact (makeD2CPacketImpl_pending _ _ _ _ _ _ _ _).2 reliable

theorem sendAll_sends (sessionId : Nat) (messages : List D2CMessage)
    : Sends host (host.sendAll env sessionId messages) :=
  List.foldlRecOn messages _ (motive := Sends host) (.refl host)
    fun reached sends message _ => sends.trans (reached.send_sends env sessionId message)

theorem broadcastExcept_sends (message : D2CMessage) (exceptSessionId : Option Nat)
    : Sends host (host.broadcastExcept env message exceptSessionId) := by
  refine List.foldlRecOn host.room.playerSessions.entries _ (motive := Sends host)
    (.refl host) fun reached sends entry _ => ?_
  split
  · exact sends
  · exact sends.trans (reached.send_sends env entry.1 message)

end Sending

-----------------------------------------------------------------------------------------
-- Elementary effects
-----------------------------------------------------------------------------------------

end RoomHost

/-- What an accepted request to open a container writes: a holder out of reach is put out, the
opener gives up what it had open, and both sides are set.
-/
def GameRoom.openContainer (room : GameRoom) (sessionId containerId playerObjectId : Nat)
    (box : Container)
    : GameRoom :=
  let evicted :=
    match (box.otherHolder playerObjectId).bind room.findSessionByObjectId with
    | none => room
    | some holderSessionId =>
        room.modifySession holderSessionId ({ · with interactingContainerId := none })
  ((evicted.releaseInteractingContainer sessionId).modifyContainer containerId
    ({ · with interactingPlayerId := some playerObjectId })
  ).modifySession sessionId ({ · with interactingContainerId := some containerId })

namespace RoomHost

/-- The part of an effect that the room sees, outside the leave pipeline. Spawns are by
sessions that meet a condition.
-/
inductive Change (env : Environment) (spawner : GameRoom → PlayerSession → Bool)
    (before after : RoomHost) : Prop
  | quiet (room : after.room = before.room)
  | scene (room : before.room.Scene after.room)
  | touch (sessionId : Nat) (f : PlayerSession → PlayerSession)
      (keeps : ∀ session : PlayerSession, session.Untouched (f session))
      (room : after.room = before.room.modifySession sessionId f)
  /-- A notice that is pending becomes the one that the session's leave waits for. -/
  | notice (sessionId : Nat) (seq : BitVec 32)
      (pending : seq ∈ after.pendingSeqs sessionId)
      (room : after.room
        = before.room.modifySession sessionId ({ · with leaveNotifyRSeq := seq }))
  | spawn (sessionId : Nat) (session : PlayerSession)
      (found : before.room.playerSessions.lookup sessionId = some session)
      (active : session.isActiveState = true)
      (meets : spawner before.room session = true)
      (step : Spawned sessionId before after)
  | openContainer (sessionId containerId playerObjectId : Nat) (session : PlayerSession)
      (box : Container)
      (found : before.room.playerSessions.lookup sessionId = some session)
      (located : before.room.findContainer containerId = some box)
      (current : session.objectId = some playerObjectId)
      (room : after.room = before.room.openContainer sessionId containerId playerObjectId box)
  | closeContainer (sessionId : Nat)
      (room : after.room = before.room.releaseInteractingContainer sessionId)

/-- A change of items that a request makes. -/
inductive Deal (env : Environment) (before after : RoomHost) : Prop
  | interact (sessionId : Nat) (session : PlayerSession)
      (pkt : C2DRequestInteractContainerObject) (opened : Option (Nat × Container))
      (store : SlotStore)
      (found : before.room.playerSessions.lookup sessionId = some session)
      (plan : planInteract env before.room session pkt = .ok (opened, store))
      (room : after.room = (before.commitStore sessionId opened store).room)
  | equip (sessionId : Nat) (session : PlayerSession) (pkt : C2DRequestEquipItem)
      (opened : Option (Nat × Container)) (store : SlotStore)
      (unloadedSlotIdx : Option SlotIndex)
      (found : before.room.playerSessions.lookup sessionId = some session)
      (plan : planEquip env before.room session pkt = .ok (opened, store, unloadedSlotIdx))
      (room : after.room = (before.commitStore sessionId opened store).room)
  | reload (sessionId : Nat) (session : PlayerSession) (isUsingPrimary : Bool)
      (version : BitVec 32)
      (found : before.room.playerSessions.lookup sessionId = some session)
      (room : after.room = before.room.modifySession sessionId
        ({ · with
            inventory := (RoomHost.reload session.inventory isUsingPrimary version).1 }))
  /-- A shot takes one round out of a loaded magazine. -/
  | shot (sessionId : Nat) (session : PlayerSession) (isUsingPrimary : Bool)
      (found : before.room.playerSessions.lookup sessionId = some session)
      (loaded : (session.inventory.magazineSlot isUsingPrimary).isEmpty = false)
      (positive : 0 < (session.inventory.magazineSlot isUsingPrimary).quantity)
      (room : after.room = before.room.modifySession sessionId
        fun stored =>
          { stored with
            inventory := stored.inventory.setMagazineSlot isUsingPrimary
              ((session.inventory.magazineSlot isUsingPrimary).take 1) })

/-- A change of the room while time goes on and packets are sent. -/
structure Effect (env : Environment) (spawner : GameRoom → PlayerSession → Bool)
    (before after : RoomHost) : Prop where
  change : Change env spawner before after
  sends : Sends before after

abbrev Effects (env : Environment) (spawner : GameRoom → PlayerSession → Bool)
    : RoomHost → RoomHost → Prop :=
  Relation.ReflTransGen (Effect env spawner)

/-- Effects with at most one change of items among them. -/
def Served (env : Environment) (spawner : GameRoom → PlayerSession → Bool)
    (before after : RoomHost)
    : Prop :=
  Effects env spawner before after
    ∨ ∃ first middle, Effects env spawner before first ∧ Deal env first middle
      ∧ Sends first middle ∧ Effects env spawner middle after

namespace Effects

variable {env : Environment} {spawner : GameRoom → PlayerSession → Bool}
  {before middle after : RoomHost}

theorem sends (effects : Effects env spawner before after) : Sends before after := by
  induction effects with
  | refl => exact .refl before
  | tail _ effect ih => exact ih.trans effect.sends

theorem quiet (room : after.room = before.room) (sends : Sends before after)
    : Effects env spawner before after :=
  .single ⟨.quiet room, sends⟩

theorem now (host : RoomHost) : Effects env spawner host (host.now env).1 :=
  quiet rfl (host.now_sends env)

theorem send (host : RoomHost) (sessionId : Nat) (message : D2CMessage)
    : Effects env spawner host (host.send env sessionId message) :=
  quiet (host.send_room env sessionId message) (host.send_sends env sessionId message)

theorem sendAll (host : RoomHost) (sessionId : Nat) (messages : List D2CMessage)
    : Effects env spawner host (host.sendAll env sessionId messages) :=
  quiet (room_eq_of_outcome (host.sendAll_outcome env sessionId messages))
    (host.sendAll_sends env sessionId messages)

theorem broadcastExcept (host : RoomHost) (message : D2CMessage)
    (exceptSessionId : Option Nat)
    : Effects env spawner host (host.broadcastExcept env message exceptSessionId) :=
  quiet (host.broadcastExcept_room env message exceptSessionId)
    (host.broadcastExcept_sends env message exceptSessionId)

theorem scheduleRecallTick (host : RoomHost) (sessionId : Nat) (uid : Int)
    (generation : BitVec 32)
    : Effects env spawner host (host.scheduleRecallTick env sessionId uid generation) :=
  quiet rfl (host.scheduleRecallTick_sends env sessionId uid generation)

/-- A change of the room that is no send. -/
theorem modifyRoom {f : GameRoom → GameRoom} {host : RoomHost}
    (scene : host.room.Scene (f host.room))
    : Effects env spawner host (host.modifyRoom f) :=
  .single ⟨.scene scene, .of_eq rfl rfl⟩

theorem touch (host : RoomHost) (sessionId : Nat) (f : PlayerSession → PlayerSession)
    (keeps : ∀ session : PlayerSession, session.Untouched (f session))
    : Effects env spawner host (host.modifySession sessionId f) :=
  .single ⟨.touch sessionId f keeps rfl, .of_eq rfl rfl⟩

end Effects

-----------------------------------------------------------------------------------------
-- The packet handlers
-----------------------------------------------------------------------------------------

section Handlers

variable (env : Environment) (spawner : GameRoom → PlayerSession → Bool) (host : RoomHost)
  (sessionId : Nat) (session : PlayerSession)

theorem handleC2DChannelOpen_effects (clientAddr : SockAddr) (echo : String)
    : Effects env spawner host
        (host.handleC2DChannelOpen env sessionId session clientAddr echo).1 := by
  unfold handleC2DChannelOpen
  dsimp only
  refine .trans ?_ (Effects.send _ sessionId _)
  split
  · exact Effects.touch host sessionId _ fun _ => {}
  · exact .refl

theorem handleC2DHeartBeat_effects
    : Effects env spawner host (host.handleC2DHeartBeat env sessionId session).1 := by
  unfold handleC2DHeartBeat
  split
  · exact .refl
  · dsimp only
    exact Effects.send host sessionId _

theorem handleC2DRequestBlueprint_effects
    : Effects env spawner host (host.handleC2DRequestBlueprint env sessionId session).1 := by
  unfold handleC2DRequestBlueprint
  split
  · exact .refl
  · dsimp only
    exact Effects.sendAll host sessionId _

theorem handleC2DRequestSpawnByObjectId_effects (objectId : Int)
    : Effects env spawner host
        (host.handleC2DRequestSpawnByObjectId env sessionId session objectId).1 := by
  unfold handleC2DRequestSpawnByObjectId
  repeat' split
  all_goals dsimp only
  all_goals first
    | exact .refl
    | exact Effects.send host sessionId _

/-- Players move themselves and the NPCs they drive. -/
theorem handleC2DUpdatePlayerState_effects (state : PlayerState)
    (npcStates : List GameObjectMovementInfo)
    : Effects env spawner host
        (host.handleC2DUpdatePlayerState session state npcStates).1 := by
  unfold handleC2DUpdatePlayerState
  split
  · exact .refl
  · split
    · split
      · exact .refl
      · split
        · exact .refl
        · dsimp only
          refine .trans (Effects.modifyRoom (.modifyPlayerObject fun object _ => ?_))
            (Effects.modifyRoom ?_)
          · exact .applyState object state
          · refine List.foldlRecOn npcStates _ (motive := GameRoom.Scene _) (.refl _) ?_
            intro reached moved npcState _
            refine moved.trans ?_
            split
            · exact .refl reached
            · split
              · exact .refl reached
              · exact .modifyHostileNpc _ _ reached
    · exact .refl

theorem handleC2DRequestSpawnPlayerObjects_effects
    : Effects env spawner host
        (host.handleC2DRequestSpawnPlayerObjects env sessionId session).1 := by
  unfold handleC2DRequestSpawnPlayerObjects
  repeat' split
  all_goals dsimp only
  all_goals first
    | exact .refl
    | exact Effects.send host sessionId _

theorem handleC2DNotifyLoadingComplete_effects
    : Effects env spawner host (host.handleC2DNotifyLoadingComplete sessionId session).1 := by
  unfold handleC2DNotifyLoadingComplete
  split
  · exact .refl
  · exact Effects.touch host sessionId _ fun _ => {}

theorem handleC2DRequestRecentInventoryInfo_effects (objectId : Nat)
    : Effects env spawner host
        (host.handleC2DRequestRecentInventoryInfo env sessionId session objectId).1 := by
  unfold handleC2DRequestRecentInventoryInfo
  repeat' split
  all_goals dsimp only
  all_goals first
    | exact .refl
    | exact Effects.send host sessionId _

theorem handleC2DRequestSwitchWeapon_effects (targetSlot : Nat) (version : BitVec 32)
    : Effects env spawner host
        (host.handleC2DRequestSwitchWeapon env sessionId session targetSlot version).1 := by
  unfold handleC2DRequestSwitchWeapon
  split
  · exact .refl
  · split
    · exact .refl
    · split
      · exact .refl
      · dsimp only
        split
        · dsimp only
          exact Effects.send host sessionId _
        · dsimp only
          refine .trans ?_ (Effects.send _ sessionId _)
          refine .trans ?_ (Effects.broadcastExcept _ _ _)
          exact Effects.modifyRoom (.modifyPlayerObject fun _ _ => .of_eq rfl rfl)

theorem handleC2DNotifyReloadSequence_effects (sequenceNum : Nat)
    : Effects env spawner host
        (host.handleC2DNotifyReloadSequence env sessionId session sequenceNum).1 := by
  unfold handleC2DNotifyReloadSequence
  repeat' split
  all_goals dsimp only
  all_goals first
    | exact .refl
    | exact Effects.broadcastExcept host _ _

theorem handleC2DRequestOpenContainer_effects (containerId : Nat)
    (found : host.room.playerSessions.lookup sessionId = some session)
    : Effects env spawner host
        (host.handleC2DRequestOpenContainer env sessionId session containerId).1 := by
  unfold handleC2DRequestOpenContainer
  split
  · exact .refl
  · split
    · next box playerObjectId located current =>
        split
        · exact .refl
        · dsimp only
          split
          · exact .refl
          · dsimp only
            refine .trans (.single ⟨?_, ?_⟩) (Effects.sendAll _ sessionId _)
            · exact .openContainer sessionId containerId playerObjectId session box found located
                current rfl
            · exact .of_eq rfl rfl
    · exact .refl

theorem handleC2DCloseContainer_effects
    : Effects env spawner host (host.handleC2DCloseContainer sessionId session).1 := by
  unfold handleC2DCloseContainer
  split
  · exact .refl
  · split
    · exact .refl
    · exact .single ⟨.closeContainer sessionId rfl, .of_eq rfl rfl⟩

theorem commitStore_sends (opened : Option (Nat × Container)) (store : SlotStore)
    : Sends host (host.commitStore sessionId opened store) := by
  unfold commitStore
  dsimp only
  split <;> exact .of_eq rfl rfl

theorem handleC2DRequestInteractContainerObject_effects
    (pkt : C2DRequestInteractContainerObject)
    (found : host.room.playerSessions.lookup sessionId = some session)
    : Served env spawner host
        (host.handleC2DRequestInteractContainerObject env sessionId session pkt).1 := by
  unfold handleC2DRequestInteractContainerObject
  split
  · exact .inl .refl
  · split
    · dsimp only
      exact .inl (Effects.send host sessionId _)
    · next opened store plan =>
        dsimp only
        refine .inr ⟨host, _, .refl, ?_, ?_, Effects.send _ sessionId _⟩
        · exact .interact sessionId session pkt opened store found plan rfl
        · exact host.commitStore_sends sessionId opened store

theorem refreshEquipment_effects (objectId : Option Nat) (isArmor : Bool)
    (inventory : PlayerInventory)
    : Effects env spawner host
        (host.refreshEquipment env sessionId objectId isArmor inventory) := by
  unfold refreshEquipment
  split
  · exact .refl
  · split
    · exact .refl
    · split
      · exact Effects.modifyRoom (.modifyPlayerObject fun object _ => .setArmor object _)
      · refine .trans ?_ (Effects.broadcastExcept _ _ _)
        exact Effects.modifyRoom (.modifyPlayerObject fun object _ => .setWeapons object _ _)

theorem handleC2DRequestEquipItem_effects (pkt : C2DRequestEquipItem)
    (found : host.room.playerSessions.lookup sessionId = some session)
    : Served env spawner host
        (host.handleC2DRequestEquipItem env sessionId session pkt).1 := by
  unfold handleC2DRequestEquipItem
  split
  · exact .inl .refl
  · split
    · dsimp only
      exact .inl (Effects.send host sessionId _)
    · next opened store unloadedSlotIdx plan =>
        dsimp only
        refine .inr ⟨host, _, .refl, ?_, ?_,
          .trans (refreshEquipment_effects env spawner _ sessionId _ _ _)
            (Effects.send _ sessionId _)⟩
        · exact .equip sessionId session pkt opened store unloadedSlotIdx found plan rfl
        · exact host.commitStore_sends sessionId opened store

theorem handleC2DRequestReload_effects (version : BitVec 32)
    (found : host.room.playerSessions.lookup sessionId = some session)
    : Served env spawner host
        (host.handleC2DRequestReload env sessionId session version).1 := by
  unfold handleC2DRequestReload broadcastReloadSequence
  split
  · exact .inl .refl
  · split
    · exact .inl .refl
    · split
      · exact .inl .refl
      · next object _ =>
          dsimp only
          refine .inr ⟨host, host.modifySession sessionId
              ({ · with
                  inventory :=
                    (reload session.inventory object.isUsingPrimary version).1 }),
            .refl, .reload sessionId session object.isUsingPrimary version found rfl,
            .of_eq rfl rfl, .trans ?_ (Effects.send _ sessionId _)⟩
          split
          · exact Effects.broadcastExcept _ _ _
          · exact .refl

theorem spawnPlayerObject_sends (object : PlayerObject)
    : Sends host (host.spawnPlayerObject env object sessionId) := by
  unfold spawnPlayerObject
  dsimp only
  split
  · exact .refl host
  · exact .trans (modifyRoom_sends host _) (broadcastExcept_sends env _ _ _)

theorem handleC2DRequestSpawnMe_sends
    : Sends host (host.handleC2DRequestSpawnMe env sessionId session).1 := by
  unfold handleC2DRequestSpawnMe
  split
  · exact .refl host
  · dsimp only
    refine .trans ?_ (sendAll_sends env _ sessionId _)
    refine .trans ?_ (send_sends env _ sessionId _)
    refine .trans ?_ (send_sends env _ sessionId _)
    refine .trans ?_ (now_sends env _)
    refine .trans ?_ (modifyRoom_sends _ _)
    refine .trans ?_ (spawnPlayerObject_sends env _ sessionId _)
    exact .of_eq rfl rfl

theorem handleC2DRequestSpawnMe_effects
    (found : host.room.playerSessions.lookup sessionId = some session)
    (meets : session.isActiveState = true → spawner host.room session = true)
    : Effects env spawner host (host.handleC2DRequestSpawnMe env sessionId session).1 := by
  by_cases active : session.isActiveState = true
  · refine .single ⟨.spawn sessionId session found active (meets active) ?_, ?_⟩
    · exact host.handleC2DRequestSpawnMe_spawned env sessionId session active
    · exact host.handleC2DRequestSpawnMe_sends env sessionId session
  · unfold handleC2DRequestSpawnMe
    rw [if_pos (by simpa using active)]

/-- A session is told of a hit; if it was lethal, the packet is the notice of its leave. -/
theorem tellHit_effects (found : host.room.playerSessions.lookup sessionId = some session)
    {message : D2CMessage} (reliable : message.isReliable = true) (isAlive : Bool)
    : Effects env spawner host
        (if isAlive = true then host.send env sessionId message
          else
            (host.send env sessionId message).modifySession sessionId
              ({ · with
                  leaveNotifyRSeq :=
                    (host.send env sessionId message).lastSentRSeq sessionId })) := by
  split
  · exact Effects.send host sessionId message
  · refine (Effects.send host sessionId message).tail ⟨?_, modifyRoom_sends _ _⟩
    exact .notice sessionId _ (host.lastSentRSeq_pending env found reliable) rfl

theorem notifyHit_effects (hitObjectId : Nat) (combat : CombatState)
    (attackerObjectId : Nat)
    : Effects env spawner host (host.notifyHit env hitObjectId combat attackerObjectId) := by
  unfold notifyHit
  split
  · exact .refl
  · next hitSessionId _ =>
      split
      · exact .refl
      · next inplay =>
          obtain ⟨hit, found, _⟩ := (Option.any_eq_true _ _).mp (by simpa using inplay)
          exact tellHit_effects env spawner host hitSessionId hit found rfl _

theorem destroyDeadObject_effects (objectId : Nat)
    (isNpc : host.room.Layout → ∃ npc,
      host.room.dynamicObjects.lookup objectId = some (.hostileNpc npc))
    : Effects env spawner host (host.destroyDeadObject env objectId) := by
  unfold destroyDeadObject
  split
  · exact .refl
  · dsimp only
    refine .trans (Effects.modifyRoom ?_) (Effects.broadcastExcept _ _ _)
    refine ⟨.eraseDynamicObject isNpc, rfl, fun layout => ?_⟩
    obtain ⟨npc, stored⟩ := isNpc layout
    exact GameRoom.findContainer_eraseNpc stored

theorem settleNpcHit_effects (shooterObjectId hitObjectId : Nat) (npc : HostileNPC)
    (isNpc : (host.room.findHostileNpc hitObjectId).isSome)
    : Effects env spawner host (host.settleNpcHit env shooterObjectId hitObjectId npc) := by
  have hurt : Effects env spawner host
      (host.modifyRoom (·.modifyHostileNpc hitObjectId fun _ => npc)) :=
    Effects.modifyRoom (.modifyHostileNpc hitObjectId _ host.room)
  have told := hurt.trans
    (notifyHit_effects env spawner _ hitObjectId npc.combat shooterObjectId)
  unfold settleNpcHit
  dsimp only
  split
  · exact told.trans (destroyDeadObject_effects env spawner _ hitObjectId
      (host.notifyHit_isNpc env npc shooterObjectId isNpc))
  · have driven : Effects env spawner host _ := told.trans (Effects.modifyRoom
      (f := (·.modifyHostileNpc hitObjectId fun _ =>
        (npc.applyDamageAuthority shooterObjectId).1))
      (.modifyHostileNpc hitObjectId _ _))
    split
    · exact driven.trans (Effects.broadcastExcept _ _ _)
    · exact driven

theorem applyHit_effects (shooterObjectId hitObjectId weaponId : Nat)
    : Effects env spawner host (host.applyHit env shooterObjectId hitObjectId weaponId) := by
  unfold applyHit
  split
  · exact .refl
  · split
    · next player spec isPlayer _ =>
        split
        · exact .refl
        · next alive =>
            refine .trans (Effects.modifyRoom (.modifyPlayerObject ?_))
              (notifyHit_effects env spawner _ _ _ _)
            intro object found
            have same : object = player := Option.some.inj (found.symm.trans isPlayer)
            subst same
            exact .takeDamage (by simpa using alive) _ _
    · next npc spec _ isNpc _ =>
        split
        · exact .refl
        · exact host.settleNpcHit_effects env spawner shooterObjectId hitObjectId _
            (by rw [isNpc]; rfl)
    · exact .refl

theorem handleC2DRequestWeaponFire_effects (pkt : C2DRequestWeaponFire)
    (found : host.room.playerSessions.lookup sessionId = some session)
    : Served env spawner host
        (host.handleC2DRequestWeaponFire env sessionId session pkt).1 := by
  have aimed : Effects env spawner host (host.countShot sessionId pkt) :=
    Effects.touch host sessionId _ fun _ => {}
  have outcome := host.handleC2DRequestWeaponFire_shot env sessionId session pkt
  generalize host.handleC2DRequestWeaponFire env sessionId session pkt = handled at *
  cases outcome with
  | ignored => exact .inl .refl
  | wasted => exact .inl aimed
  | @fired objectId object _ _ _ _ filled rounds =>
      refine .inr ⟨_, (host.countShot sessionId pkt).spendRound sessionId session
          object.isUsingPrimary,
        aimed, .shot sessionId { session with fireSequence := pkt.fireSequence + 1 }
          object.isUsingPrimary ?_ filled rounds rfl, .of_eq rfl rfl,
        .trans (applyHit_effects env spawner _ _ _ _) (Effects.broadcastExcept _ _ _)⟩
      simp only [countShot, modifySession, modifyRoom, GameRoom.modifySession,
        Table.lookup_adjust_self, found]
      rfl

theorem handleC2DRequestRecall_effects (recallSpotIndex : Nat)
    : Effects env spawner host
        (host.handleC2DRequestRecall env sessionId session recallSpotIndex).1 := by
  unfold handleC2DRequestRecall
  split
  · exact .refl
  · split
    · exact .refl
    · split
      · exact .refl
      · split
        · exact .refl
        · dsimp only
          split
          · dsimp only
            exact Effects.send host sessionId _
          · dsimp only
            refine .trans ?_ (Effects.scheduleRecallTick _ _ _ _)
            refine .trans (Effects.send host sessionId _) (Effects.touch _ _ _ fun stored => ?_)
            unfold PlayerSession.beginRecall
            split <;> exact {}

theorem applyNpcRequest_effects (npcObjectId : Nat)
    (apply : HostileNPC → Nat → HostileNPC × HostileNPC.RequestResult)
    : Effects env spawner host (host.applyNpcRequest env session npcObjectId apply).1 := by
  unfold applyNpcRequest
  split
  · exact .refl
  · next objectId npc _ =>
      have driven : Effects env spawner host
          (host.modifyRoom (·.modifyHostileNpc npcObjectId fun _ => (apply npc objectId).1)) :=
        Effects.modifyRoom (.modifyHostileNpc npcObjectId _ host.room)
      dsimp only
      split
      · exact driven
      · exact driven
      · exact driven.trans (Effects.broadcastExcept _ _ _)

theorem handleC2DReportNpcAttack_effects (pkt : C2DReportNpcAttack)
    (found : host.room.playerSessions.lookup sessionId = some session)
    : Effects env spawner host
        (host.handleC2DReportNpcAttack env sessionId session pkt).1 := by
  unfold handleC2DReportNpcAttack
  split
  · exact .refl
  · next objectId npc _ =>
    split
    · exact .refl
    · split
      · exact .refl
      · dsimp only
        refine .trans ?_ (Effects.broadcastExcept _ _ _)
        split
        · exact .refl
        · next player isPlayer =>
            split
            · exact .refl
            · next alive =>
                rw [not_or] at alive
                have harmed : Effects env spawner host
                    (host.modifyRoom (·.modifyPlayerObject pkt.hitObjectId
                      ({ · with
                          combat :=
                            player.combat.takeDamage npc.attackDamage
                              npc.base.objectId }))) := by
                  refine Effects.modifyRoom (.modifyPlayerObject ?_)
                  intro object stored
                  have same : object = player :=
                    Option.some.inj (stored.symm.trans isPlayer)
                  subst same
                  exact .takeDamage (by simpa using alive.2) _ _
                have present : (host.modifyRoom (·.modifyPlayerObject pkt.hitObjectId
                      ({ · with
                          combat :=
                            player.combat.takeDamage npc.attackDamage
                              npc.base.objectId }))).room.playerSessions.lookup
                    sessionId = some session := found
                exact harmed.trans
                  (tellHit_effects env spawner _ sessionId session present rfl _)

/-- Every packet is a chain of effects, with at most one change of items. -/
theorem dispatch_effects (clientAddr : SockAddr)
    (found : host.room.playerSessions.lookup sessionId = some session) (pkt : C2DPacket)
    (meets : pkt = .requestSpawnMe → session.isActiveState = true →
      spawner host.room session = true)
    : Served env spawner host (host.dispatch env sessionId session clientAddr pkt).1 := by
  cases pkt with
  | channelOpen echo =>
      exact .inl
        (host.handleC2DChannelOpen_effects env spawner sessionId session clientAddr
          echo)
  | heartBeat =>
      exact .inl (host.handleC2DHeartBeat_effects env spawner sessionId session)
  | requestBlueprint =>
      exact .inl (host.handleC2DRequestBlueprint_effects env spawner sessionId session)
  | requestSpawnMe =>
      exact .inl
        (host.handleC2DRequestSpawnMe_effects env spawner sessionId session found (meets
          rfl))
  | requestSpawnByObjectId objectId =>
      exact .inl
        (host.handleC2DRequestSpawnByObjectId_effects env spawner sessionId session
          objectId)
  | updatePlayerState state npcStates =>
      exact .inl
        (host.handleC2DUpdatePlayerState_effects env spawner session state npcStates)
  | requestSpawnPlayerObjects =>
      exact .inl
        (host.handleC2DRequestSpawnPlayerObjects_effects env spawner sessionId session)
  | notifyLoadingComplete =>
      exact .inl
        (host.handleC2DNotifyLoadingComplete_effects env spawner sessionId session)
  | requestOpenContainer containerId =>
      exact .inl
        (host.handleC2DRequestOpenContainer_effects env spawner sessionId session
          containerId found)
  | closeContainer =>
      exact .inl (host.handleC2DCloseContainer_effects env spawner sessionId session)
  | requestInteractContainerObject pkt =>
      exact host.handleC2DRequestInteractContainerObject_effects env spawner sessionId
        session pkt found
  | requestEquipItem pkt =>
      exact host.handleC2DRequestEquipItem_effects env spawner sessionId session pkt found
  | requestRecentInventoryInfo objectId =>
      exact .inl
        (host.handleC2DRequestRecentInventoryInfo_effects env spawner sessionId session
          objectId)
  | requestSwitchWeapon targetSlot version =>
      exact .inl
        (host.handleC2DRequestSwitchWeapon_effects env spawner sessionId session
          targetSlot version)
  | requestWeaponFire pkt =>
      exact host.handleC2DRequestWeaponFire_effects env spawner sessionId session pkt
        found
  | requestRecall spotIndex =>
      exact .inl
        (host.handleC2DRequestRecall_effects env spawner sessionId session spotIndex)
  | requestReload version =>
      exact host.handleC2DRequestReload_effects env spawner sessionId session version
        found
  | notifyReloadSequence sequenceNum =>
      exact .inl
        (host.handleC2DNotifyReloadSequence_effects env spawner sessionId session
          sequenceNum)
  | requestNpcAggro objectId aggro =>
      exact .inl (host.applyNpcRequest_effects env spawner session objectId _)
  | requestNpcAuthority objectId aggro =>
      exact .inl (host.applyNpcRequest_effects env spawner session objectId _)
  | reportNpcAttack pkt =>
      exact .inl (host.handleC2DReportNpcAttack_effects env spawner sessionId session pkt found)

end Handlers

end RoomHost

end ExtractionServer.Room
