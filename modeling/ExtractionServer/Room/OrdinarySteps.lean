import ExtractionServer.Room.Plans

/-! What handling packets can and cannot do to the sessions and player objects of a room,
apart from spawning a player and from the leave pipeline.
-/

namespace ExtractionServer.Room

open Transport

namespace RoomHost

variable (env : Environment) (host : RoomHost)

-----------------------------------------------------------------------------------------
-- Sends leave the room alone
-----------------------------------------------------------------------------------------

/-- The room and the leave notices: what is left when channels, clock and timers are
ignored.
-/
def outcome (host : RoomHost) : GameRoom × List (Nat × D2MNotifyPlayerLeft) :=
  (host.room, host.wire.leftNotices)

theorem room_eq_of_outcome {before after : RoomHost} (same : after.outcome = before.outcome)
    : after.room = before.room :=
  congrArg Prod.fst same

@[simp] theorem now_outcome : (host.now env).1.outcome = host.outcome := rfl

@[simp] theorem receive_outcome (sessionId : Nat) (header : UDPHeader)
    : (host.receive env sessionId header).1.outcome = host.outcome := rfl

@[simp] theorem modifyChannel_outcome (sessionId : Nat)
    (f : Channel D2CMessage → Channel D2CMessage)
    : (host.modifyChannel sessionId f).outcome = host.outcome := rfl

@[simp] theorem scheduleRecallTick_outcome (sessionId : Nat) (uid : Int)
    (generation : BitVec 32)
    : (host.scheduleRecallTick env sessionId uid generation).outcome = host.outcome := rfl

@[simp] theorem send_outcome (sessionId : Nat) (message : D2CMessage)
    : (host.send env sessionId message).outcome = host.outcome := by
  unfold send
  split <;> rfl

@[simp] theorem sendAll_outcome (sessionId : Nat) (messages : List D2CMessage)
    : (host.sendAll env sessionId messages).outcome = host.outcome :=
  Table.foldl_view_eq outcome
    (fun state message _ => state.send_outcome env sessionId message) host

@[simp] theorem broadcastExcept_outcome (message : D2CMessage) (exceptSessionId : Option Nat)
    : (host.broadcastExcept env message exceptSessionId).outcome = host.outcome := by
  apply Table.foldl_view_eq outcome
  intro state entry _
  split
  · rfl
  · exact state.send_outcome env entry.1 message

@[simp] theorem broadcast_outcome (message : D2CMessage)
    : (host.broadcast env message).outcome = host.outcome :=
  host.broadcastExcept_outcome env message none

@[simp] theorem notifyNpcAuthority_outcome (npc : HostileNPC)
    : (host.notifyNpcAuthority env npc).outcome = host.outcome :=
  host.broadcast_outcome env _

@[simp] theorem clearPendingOfLeaving_outcome
    : host.clearPendingOfLeaving.outcome = host.outcome := by
  apply Table.foldl_view_eq outcome
  intro state entry _
  split <;> rfl

@[simp] theorem send_room (sessionId : Nat) (message : D2CMessage)
    : (host.send env sessionId message).room = host.room :=
  room_eq_of_outcome (host.send_outcome env sessionId message)

@[simp] theorem broadcastExcept_room (message : D2CMessage) (exceptSessionId : Option Nat)
    : (host.broadcastExcept env message exceptSessionId).room = host.room :=
  room_eq_of_outcome (host.broadcastExcept_outcome env message exceptSessionId)

@[simp] theorem broadcast_room (message : D2CMessage)
    : (host.broadcast env message).room = host.room :=
  room_eq_of_outcome (host.broadcast_outcome env message)

@[simp] theorem notifyNpcAuthority_room (npc : HostileNPC)
    : (host.notifyNpcAuthority env npc).room = host.room :=
  room_eq_of_outcome (host.notifyNpcAuthority_outcome env npc)

end RoomHost

-----------------------------------------------------------------------------------------
-- Sessions and objects that go on
-----------------------------------------------------------------------------------------

/-- A session goes on: its object and everything about its leave stay, and its state only
advances towards play.
-/
structure PlayerSession.Continues (before after : PlayerSession) : Prop where
  uid : after.uid = before.uid
  objectId : after.objectId = before.objectId
  leaveState : after.leaveState = before.leaveState
  leaveReason : after.leaveReason = before.leaveReason
  leftNotified : after.leftNotified = before.leftNotified
  sessionState : after.sessionState = before.sessionState
    ∨ ((before.sessionState = .init ∨ before.sessionState = .connected)
      ∧ (after.sessionState = .connected ∨ after.sessionState = .inplay))

/-- A player object goes on: the dead stay dead, and a death is always pending. -/
structure PlayerObject.Continues (before after : PlayerObject) : Prop where
  dead : before.combat.isAlive = false → after.combat.isAlive = false
  pending : before.combat.deathPending = true → after.combat.deathPending = true
  newlyDead : after.combat.isAlive = false →
    before.combat.isAlive = false ∨ after.combat.deathPending = true

/-- The fields of a session that the rules on going on mention. -/
def PlayerSession.standing (session : PlayerSession) :=
  (session.uid, session.objectId, session.leaveState, session.leaveReason,
    session.leftNotified, session.sessionState)

namespace PlayerSession.Continues

/-- Changes of the fields that no rule mentions. -/
theorem of_eq {before after : PlayerSession} (same : after.standing = before.standing)
    : before.Continues after := by
  simp only [PlayerSession.standing, Prod.mk.injEq] at same
  obtain ⟨uid, objectId, leaveState, leaveReason, leftNotified, sessionState⟩ := same
  exact ⟨uid, objectId, leaveState, leaveReason, leftNotified, .inl sessionState⟩

theorem refl (session : PlayerSession) : session.Continues session := of_eq rfl

theorem trans {a b c : PlayerSession} (first : a.Continues b) (second : b.Continues c)
    : a.Continues c where
  uid := second.uid.trans first.uid
  objectId := second.objectId.trans first.objectId
  leaveState := second.leaveState.trans first.leaveState
  leaveReason := second.leaveReason.trans first.leaveReason
  leftNotified := second.leftNotified.trans first.leftNotified
  sessionState := by
    rcases first.sessionState with same | ⟨early, _⟩
    · simpa only [same] using second.sessionState
    · rcases second.sessionState with same | ⟨_, later⟩
      · rw [same]
        exact first.sessionState
      · exact .inr ⟨early, later⟩

end PlayerSession.Continues

/-- Damage kills, with a death pending, or leaves the object alive. -/
theorem CombatState.takeDamage_outcome (combat : CombatState) (damage : Int)
    (attackerObjectId : Nat)
    : ((combat.takeDamage damage attackerObjectId).isAlive = false
        ∧ (combat.takeDamage damage attackerObjectId).deathPending = true)
      ∨ ((combat.takeDamage damage attackerObjectId).isAlive = true
        ∧ (combat.takeDamage damage attackerObjectId).deathPending
          = combat.deathPending) := by
  unfold takeDamage
  extract_lets shield hitPoints wounded
  by_cases killed : hitPoints ≤ 0
  · rw [if_pos killed]
    exact .inl ⟨rfl, rfl⟩
  · rw [if_neg killed]
    exact .inr ⟨decide_eq_true (Int.not_le.mp killed), rfl⟩

namespace PlayerObject.Continues

theorem refl (object : PlayerObject) : object.Continues object :=
  ⟨id, id, .inl⟩

theorem trans {a b c : PlayerObject} (first : a.Continues b) (second : b.Continues c)
    : a.Continues c where
  dead h := second.dead (first.dead h)
  pending h := second.pending (first.pending h)
  newlyDead h := by
    rcases second.newlyDead h with dead | pending
    · rcases first.newlyDead dead with dead | pending
      · exact .inl dead
      · exact .inr (second.pending pending)
    · exact .inr pending

/-- Changes outside the hit points. -/
theorem of_eq {before after : PlayerObject}
    (hp : after.combat.currentHp = before.combat.currentHp)
    (pending : after.combat.deathPending = before.combat.deathPending)
    : before.Continues after where
  dead h := by simpa only [CombatState.isAlive, hp] using h
  pending h := pending.trans h
  newlyDead h := .inl (by simpa only [CombatState.isAlive, hp] using h)

theorem applyState (object : PlayerObject) (state : PlayerState)
    : object.Continues (object.applyState state) := by
  unfold PlayerObject.applyState
  split
  · exact refl object
  · exact of_eq rfl rfl

theorem setWeapons (object : PlayerObject) (primaryId secondaryId : Nat)
    : object.Continues (object.setWeapons primaryId secondaryId) :=
  of_eq rfl rfl

theorem setArmor (object : PlayerObject) (armorId : Nat)
    : object.Continues (object.setArmor armorId) := by
  unfold PlayerObject.setArmor
  split <;> exact of_eq rfl rfl

theorem regenShield (object : PlayerObject) (elapsedMs : Int)
    : object.Continues { object with combat := object.combat.regenShield elapsedMs } := by
  apply of_eq
  · simp only [CombatState.regenShield]
    split
    · rfl
    · split <;> rfl
  · simp only [CombatState.regenShield]
    split
    · rfl
    · split <;> rfl

/-- Damage to the living: whoever is dead afterwards has a death pending. -/
theorem takeDamage {object : PlayerObject} (alive : object.combat.isAlive = true)
    (damage : Int) (attackerObjectId : Nat)
    : object.Continues
        { object with combat := object.combat.takeDamage damage attackerObjectId } := by
  rcases object.combat.takeDamage_outcome damage attackerObjectId with killed | survived
  · refine ⟨fun dead => ?_, fun _ => killed.2, fun _ => .inr killed.2⟩
    rw [alive] at dead
    cases dead
  · refine ⟨fun dead => ?_, fun pending => survived.2.trans pending, fun dead => ?_⟩
    · rw [alive] at dead
      cases dead
    · rw [survived.1] at dead
      cases dead

end PlayerObject.Continues

-----------------------------------------------------------------------------------------
-- The objects that hold items
-----------------------------------------------------------------------------------------

namespace NonplayerObject

/-- The slots of a container, nothing for an NPC. -/
def slots (object : NonplayerObject) : Option (List Slot) :=
  object.asContainer.map Container.inventorySlots

end NonplayerObject

namespace GameRoom

/-- The slots of every container of the room. -/
def containerSlots (room : GameRoom) : List (List Slot) :=
  room.staticObjects.values.filterMap NonplayerObject.slots
    ++ room.dynamicObjects.values.filterMap NonplayerObject.slots

/-- The sessions and objects of a room, without its flags and counters of time. -/
def population (room : GameRoom) :=
  (room.playerSessions, room.playerObjects, room.staticObjects, room.dynamicObjects,
    room.nxtObjectId)

/-- Where objects live: combat objects are never static (`CanBeStaticObject`), and every
object has an id that the counter has handed out.
-/
structure Layout (room : GameRoom) : Prop where
  staticContainers : ∀ objectId object, room.staticObjects.lookup objectId = some object →
    object.asHostileNpc = none
  dynamicIds : ∀ objectId, objectId ∈ room.dynamicObjects → objectId < room.nxtObjectId
  playerIds : ∀ objectId, objectId ∈ room.playerObjects → objectId < room.nxtObjectId

/-- An NPC that a lookup finds is a dynamic object. -/
theorem Layout.dynamic_of_findHostileNpc {room : GameRoom} (layout : room.Layout)
    {objectId : Nat} {npc : HostileNPC} (found : room.findHostileNpc objectId = some npc)
    : objectId ∉ room.staticObjects
      ∧ room.dynamicObjects.lookup objectId = some (.hostileNpc npc) := by
  unfold findHostileNpc findNonplayerObject at found
  cases static : room.staticObjects.lookup objectId with
  | some object =>
      rw [static] at found
      rw [show (some object).bind NonplayerObject.asHostileNpc = object.asHostileNpc from rfl,
        layout.staticContainers objectId object static] at found
      cases found
  | none =>
      rw [static] at found
      obtain ⟨object, dynamic, cast⟩ := Option.bind_eq_some_iff.mp found
      refine ⟨AList.lookup_eq_none.mp static, ?_⟩
      cases object with
      | container box => cases cast
      | hostileNpc stored =>
          cases cast
          exact dynamic

/-- Writing through the pointer to an NPC changes what the lookup finds. -/
theorem findHostileNpc_modifyHostileNpc {room : GameRoom} {objectId : Nat}
    {npc : HostileNPC} (found : room.findHostileNpc objectId = some npc)
    (f : HostileNPC → HostileNPC)
    : (room.modifyHostileNpc objectId f).findHostileNpc objectId = some (f npc) := by
  unfold modifyHostileNpc modifyNonplayerObject
  unfold findHostileNpc findNonplayerObject at found ⊢
  by_cases static : objectId ∈ room.staticObjects
  · rw [if_pos static]
    obtain ⟨object, stored⟩ := Table.exists_lookup_of_mem static
    rw [stored] at found
    simp only [Table.lookup_adjust_self, stored, Option.map_some]
    cases object with
    | container box => cases found
    | hostileNpc other =>
        cases found
        rfl
  · rw [if_neg static]
    simp only [AList.lookup_eq_none.mpr static, Table.lookup_adjust_self] at found ⊢
    obtain ⟨object, stored, cast⟩ := Option.bind_eq_some_iff.mp found
    rw [stored]
    cases object with
    | container box => cases cast
    | hostileNpc other =>
        cases cast
        rfl

end GameRoom

-----------------------------------------------------------------------------------------
-- Ordinary changes
-----------------------------------------------------------------------------------------

/-- What an actor's ordinary request can change in a room: the items the actor reaches, and
nothing that decides who is in the room. Without an actor no items move at all.
-/
structure GameRoom.Ordinary (actor : Option Nat) (before after : GameRoom) : Prop where
  sessions : Table.Related
    (fun sessionId old new => PlayerSession.Continues old new
      ∧ (some sessionId ≠ actor → new.inventory = old.inventory))
    before.playerSessions after.playerSessions
  objects : Table.Related (fun _ => PlayerObject.Continues) before.playerObjects
    after.playerObjects
  nxtObjectId : after.nxtObjectId = before.nxtObjectId
  layout : before.Layout → after.Layout
  containerSlots : actor = none → before.Layout →
    after.containerSlots = before.containerSlots

namespace GameRoom.Ordinary

variable {actor : Option Nat} {before middle after : GameRoom}

theorem sessions_refl (actor : Option Nat) (sessions : Table Nat PlayerSession)
    : Table.Related
        (fun sessionId old new => PlayerSession.Continues old new
          ∧ (some sessionId ≠ actor → new.inventory = old.inventory))
        sessions sessions :=
  .refl (fun _ session => ⟨.refl session, fun _ => rfl⟩) sessions

theorem objects_refl (objects : Table Nat PlayerObject)
    : Table.Related (fun _ => PlayerObject.Continues) objects objects :=
  .refl (fun _ => PlayerObject.Continues.refl) objects

theorem refl (actor : Option Nat) (room : GameRoom) : Ordinary actor room room where
  sessions := sessions_refl actor room.playerSessions
  objects := objects_refl room.playerObjects
  nxtObjectId := rfl
  layout := id
  containerSlots _ _ := rfl

theorem trans (first : Ordinary actor before middle) (second : Ordinary actor middle after)
    : Ordinary actor before after where
  sessions :=
    first.sessions.trans
      (fun _ _ _ _ left right =>
        ⟨left.1.trans right.1, fun other => (right.2 other).trans (left.2 other)⟩)
      second.sessions
  objects := first.objects.trans (fun _ _ _ _ => PlayerObject.Continues.trans) second.objects
  nxtObjectId := second.nxtObjectId.trans first.nxtObjectId
  layout layout := second.layout (first.layout layout)
  containerSlots idle layout :=
    (second.containerSlots idle (first.layout layout)).trans
      (first.containerSlots idle layout)

/-- What nobody does may be seen as anybody's doing. -/
theorem of_none (h : Ordinary none before after) : Ordinary actor before after where
  sessions := h.sessions.mono fun _ _ _ ⟨goes, same⟩ => ⟨goes, fun _ => same nofun⟩
  objects := h.objects
  nxtObjectId := h.nxtObjectId
  layout := h.layout
  containerSlots _ := h.containerSlots rfl

/-- Changes of the room's flags and counters. -/
theorem of_eq (same : after.population = before.population)
    : Ordinary actor before after := by
  simp only [GameRoom.population, Prod.mk.injEq] at same
  obtain ⟨sessions, objects, static, dynamic, nxtObjectId⟩ := same
  exact {
    sessions := sessions ▸ sessions_refl actor before.playerSessions
    objects := objects ▸ objects_refl before.playerObjects
    nxtObjectId := nxtObjectId
    layout := fun layout => by
      constructor
      · rw [static]
        exact layout.staticContainers
      · rw [dynamic, nxtObjectId]
        exact layout.dynamicIds
      · rw [objects, nxtObjectId]
        exact layout.playerIds
    containerSlots := fun _ _ => by
      unfold GameRoom.containerSlots
      rw [static, dynamic] }

theorem modifySession {sessionId : Nat} {f : PlayerSession → PlayerSession} {room : GameRoom}
    (goes : ∀ session, room.playerSessions.lookup sessionId = some session →
      session.Continues (f session))
    (inventory : some sessionId = actor ∨ ∀ session, (f session).inventory = session.inventory)
    : Ordinary actor room (room.modifySession sessionId f) where
  sessions := by
    apply Table.Related.adjust
    · exact fun _ session => ⟨.refl session, fun _ => rfl⟩
    · intro session found
      refine ⟨goes session found, fun other => ?_⟩
      rcases inventory with own | same
      · exact absurd own other
      · exact same session
  objects := objects_refl room.playerObjects
  nxtObjectId := rfl
  layout layout := ⟨layout.staticContainers, layout.dynamicIds, layout.playerIds⟩
  containerSlots _ _ := rfl

/-- A change of one session outside its object, leave, state and inventory. -/
theorem modifySession_of_eq {sessionId : Nat} {f : PlayerSession → PlayerSession}
    (room : GameRoom)
    (same : ∀ session, (f session).standing = session.standing)
    (inventory : ∀ session, (f session).inventory = session.inventory)
    : Ordinary actor room (room.modifySession sessionId f) :=
  modifySession (fun session _ => .of_eq (same session)) (.inr inventory)

theorem modifyPlayerObject {objectId : Nat} {f : PlayerObject → PlayerObject}
    {room : GameRoom}
    (goes : ∀ object, room.playerObjects.lookup objectId = some object →
      object.Continues (f object))
    : Ordinary actor room (room.modifyPlayerObject objectId f) where
  sessions := sessions_refl actor room.playerSessions
  objects := .adjust (fun _ => PlayerObject.Continues.refl) goes
  nxtObjectId := rfl
  layout layout :=
    ⟨layout.staticContainers, layout.dynamicIds, fun other mem =>
      layout.playerIds other ((Table.mem_adjust objectId other f room.playerObjects).mp mem)⟩
  containerSlots _ _ := rfl

theorem mapPlayerObjects {f : PlayerObject → PlayerObject} (room : GameRoom)
    (goes : ∀ object, PlayerObject.Continues object (f object))
    : Ordinary actor room
        { room with playerObjects := room.playerObjects.mapWithKey fun _ => f } where
  sessions := sessions_refl actor room.playerSessions
  objects := .mapWithKey (fun _ => goes) room.playerObjects
  nxtObjectId := rfl
  layout layout := by
    refine ⟨layout.staticContainers, layout.dynamicIds, fun objectId mem => ?_⟩
    exact layout.playerIds objectId ((Table.mem_mapWithKey _ _ objectId).mp mem)
  containerSlots _ _ := rfl

/-- A change of one object that stays what it is and, without an actor, keeps its items. -/
theorem modifyNonplayerObject {objectId : Nat} {f : NonplayerObject → NonplayerObject}
    (room : GameRoom)
    (kind : ∀ object, object.asHostileNpc = none → (f object).asHostileNpc = none)
    (slots : actor = none → ∀ object, (f object).slots = object.slots)
    : Ordinary actor room (room.modifyNonplayerObject objectId f) := by
  unfold GameRoom.modifyNonplayerObject
  split
  · refine
      { sessions := sessions_refl actor room.playerSessions
        objects := objects_refl room.playerObjects
        nxtObjectId := rfl
        layout := fun layout => ⟨?_, layout.dynamicIds, layout.playerIds⟩
        containerSlots := ?_ }
    · intro other object found
      rw [Table.lookup_adjust] at found
      split at found
      · obtain ⟨stored, present, rfl⟩ := Option.map_eq_some_iff.mp found
        exact kind stored (layout.staticContainers other stored present)
      · exact layout.staticContainers other object found
    · intro idle _
      simp only [GameRoom.containerSlots]
      rw [Table.filterMap_adjust_of_same _ fun object _ => slots idle object]
  · refine
      { sessions := sessions_refl actor room.playerSessions
        objects := objects_refl room.playerObjects
        nxtObjectId := rfl
        layout := fun layout => ⟨layout.staticContainers, ?_, layout.playerIds⟩
        containerSlots := ?_ }
    · intro other mem
      exact layout.dynamicIds other
        ((Table.mem_adjust objectId other f room.dynamicObjects).mp mem)
    · intro idle _
      simp only [GameRoom.containerSlots]
      rw [Table.filterMap_adjust_of_same _ fun object _ => slots idle object]

theorem modifyHostileNpc (objectId : Nat) (f : HostileNPC → HostileNPC) (room : GameRoom)
    : Ordinary actor room (room.modifyHostileNpc objectId f) := by
  apply modifyNonplayerObject
  · intro object
    cases object <;> simp [NonplayerObject.asHostileNpc]
  · intro _ object
    cases object <;> rfl

theorem modifyContainer {objectId : Nat} {f : Container → Container} (room : GameRoom)
    (slots : actor = none → ∀ box, (f box).inventorySlots = box.inventorySlots)
    : Ordinary actor room (room.modifyContainer objectId f) := by
  apply modifyNonplayerObject
  · intro object
    cases object <;> simp [NonplayerObject.asHostileNpc]
  · intro idle object
    cases object with
    | container box => exact congrArg some (slots idle box)
    | hostileNpc npc => rfl

theorem releaseInteractingContainer (sessionId : Nat) (room : GameRoom)
    : Ordinary actor room (room.releaseInteractingContainer sessionId) := by
  unfold GameRoom.releaseInteractingContainer
  split
  · exact refl actor room
  · have cleared : Ordinary actor room
        (room.modifySession sessionId ({ · with interactingContainerId := none })) :=
      modifySession_of_eq room (fun _ => rfl) (fun _ => rfl)
    dsimp only
    split
    · exact cleared
    · split
      · exact cleared
      · split
        · exact cleared
        · exact cleared.trans (modifyContainer _ fun _ _ => rfl)

/-- Removing an NPC moves no items. -/
theorem eraseDynamicObject {objectId : Nat} {room : GameRoom}
    (isNpc : room.Layout → ∃ npc,
      room.dynamicObjects.lookup objectId = some (.hostileNpc npc))
    : Ordinary actor room
        { room with dynamicObjects := AList.erase objectId room.dynamicObjects } where
  sessions := sessions_refl actor room.playerSessions
  objects := objects_refl room.playerObjects
  nxtObjectId := rfl
  layout layout :=
    ⟨layout.staticContainers,
      fun other mem => layout.dynamicIds other (AList.mem_erase.mp mem).2, layout.playerIds⟩
  containerSlots _ layout := by
    obtain ⟨npc, found⟩ := isNpc layout
    simp only [GameRoom.containerSlots]
    rw [Table.filterMap_erase_of_none found rfl]

/-- Replacing an NPC by an NPC moves no items. -/
theorem adjustDynamicNpc {objectId : Nat} {npc : HostileNPC} {room : GameRoom}
    (found : (room.dynamicObjects.lookup objectId).bind NonplayerObject.asHostileNpc
      = some npc)
    (changed : HostileNPC)
    : Ordinary actor room
        { room with
          dynamicObjects :=
            room.dynamicObjects.adjust objectId fun _ => .hostileNpc changed } where
  sessions := sessions_refl actor room.playerSessions
  objects := objects_refl room.playerObjects
  nxtObjectId := rfl
  layout layout := by
    refine ⟨layout.staticContainers, fun other mem => ?_, layout.playerIds⟩
    exact layout.dynamicIds other ((Table.mem_adjust objectId other _ _).mp mem)
  containerSlots _ _ := by
    simp only [GameRoom.containerSlots]
    rw [Table.filterMap_adjust_of_same]
    intro object stored
    rw [stored] at found
    cases object with
    | container box => cases found
    | hostileNpc other => rfl

end GameRoom.Ordinary

namespace RoomHost

/-- An ordinary change of the room that sends no leave notice. -/
structure Ordinary (actor : Option Nat) (before after : RoomHost) : Prop where
  room : before.room.Ordinary actor after.room
  leftNotices : after.wire.leftNotices = before.wire.leftNotices

namespace Ordinary

variable {actor : Option Nat} {before middle after : RoomHost}

theorem refl (actor : Option Nat) (host : RoomHost) : Ordinary actor host host :=
  ⟨.refl actor host.room, rfl⟩

theorem trans (first : Ordinary actor before middle) (second : Ordinary actor middle after)
    : Ordinary actor before after :=
  ⟨first.room.trans second.room, second.leftNotices.trans first.leftNotices⟩

/-- What nobody does may be seen as anybody's doing. -/
theorem of_none (h : Ordinary none before after) : Ordinary actor before after :=
  ⟨h.room.of_none, h.leftNotices⟩

/-- A last step that only sends, reads the clock or schedules. -/
theorem quiet (first : Ordinary actor before middle) (same : after.outcome = middle.outcome)
    : Ordinary actor before after where
  room := room_eq_of_outcome same ▸ first.room
  leftNotices := (congrArg Prod.snd same).trans first.leftNotices

theorem of_outcome (same : after.outcome = before.outcome) : Ordinary actor before after :=
  (refl actor before).quiet same

theorem modifyRoom {f : GameRoom → GameRoom} {host : RoomHost}
    (h : host.room.Ordinary actor (f host.room))
    : Ordinary actor host (host.modifyRoom f) :=
  ⟨h, rfl⟩

/-- A change of one session that keeps its inventory. -/
theorem modifySession {sessionId : Nat} {f : PlayerSession → PlayerSession}
    {host : RoomHost}
    (goes : ∀ session, host.room.playerSessions.lookup sessionId = some session →
      session.Continues (f session))
    (inventory : ∀ session, (f session).inventory = session.inventory)
    : Ordinary actor host (host.modifySession sessionId f) :=
  modifyRoom (.modifySession goes (.inr inventory))

end Ordinary

-----------------------------------------------------------------------------------------
-- Every packet handler but one is ordinary
-----------------------------------------------------------------------------------------

variable (env : Environment) (host : RoomHost) (sessionId : Nat) (session : PlayerSession)

theorem handleC2DChannelOpen_ordinary (clientAddr : SockAddr) (echo : String)
    (found : host.room.playerSessions.lookup sessionId = some session)
    : Ordinary none host
        (host.handleC2DChannelOpen env sessionId session clientAddr echo).1 := by
  unfold handleC2DChannelOpen
  dsimp only
  split
  · next fresh =>
      refine Ordinary.quiet ?_ (send_outcome env _ sessionId _)
      refine Ordinary.modifySession ?_ ?_
      · intro stored present
        have same : stored = session := Option.some.inj (present.symm.trans found)
        subst same
        exact ⟨rfl, rfl, rfl, rfl, rfl, .inr ⟨.inl fresh, .inl rfl⟩⟩
      · exact fun _ => rfl
  · exact .of_outcome (send_outcome env _ sessionId _)

theorem handleC2DNotifyLoadingComplete_ordinary
    (found : host.room.playerSessions.lookup sessionId = some session)
    : Ordinary none host
        (host.handleC2DNotifyLoadingComplete sessionId session).1 := by
  unfold handleC2DNotifyLoadingComplete
  split
  · exact .refl _ host
  · next connected =>
      refine Ordinary.modifySession ?_ ?_
      · intro stored present
        have same : stored = session := Option.some.inj (present.symm.trans found)
        subst same
        exact ⟨rfl, rfl, rfl, rfl, rfl, .inr ⟨.inr (not_not.mp connected), .inr rfl⟩⟩
      · exact fun _ => rfl

theorem handleC2DUpdatePlayerState_ordinary (state : PlayerState)
    (npcStates : List GameObjectMovementInfo)
    : Ordinary none host
        (host.handleC2DUpdatePlayerState session state npcStates).1 := by
  unfold handleC2DUpdatePlayerState
  split
  · exact .refl _ host
  · split
    · split
      · exact .refl _ host
      · split
        · exact .refl _ host
        · dsimp only
          refine (Ordinary.modifyRoom (.modifyPlayerObject fun object _ =>
            .applyState object state)).trans (.modifyRoom ?_)
          refine List.foldlRecOn npcStates _
            (motive := GameRoom.Ordinary none _) (.refl _ _) ?_
          intro room moved npcState _
          refine moved.trans ?_
          split
          · exact .refl _ room
          · split
            · exact .refl _ room
            · exact .modifyHostileNpc _ _ room
    · exact .refl _ host

/-- Handlers that only answer. -/
theorem handleC2DHeartBeat_outcome
    : (host.handleC2DHeartBeat env sessionId session).1.outcome = host.outcome := by
  unfold handleC2DHeartBeat
  split <;> simp

theorem handleC2DRequestBlueprint_outcome
    : (host.handleC2DRequestBlueprint env sessionId session).1.outcome = host.outcome := by
  unfold handleC2DRequestBlueprint
  split <;> simp

theorem handleC2DRequestSpawnByObjectId_outcome (objectId : Int)
    : (host.handleC2DRequestSpawnByObjectId env sessionId session objectId).1.outcome
      = host.outcome := by
  unfold handleC2DRequestSpawnByObjectId
  repeat' split
  all_goals simp

theorem handleC2DRequestSpawnPlayerObjects_outcome
    : (host.handleC2DRequestSpawnPlayerObjects env sessionId session).1.outcome
      = host.outcome := by
  unfold handleC2DRequestSpawnPlayerObjects
  repeat' split
  all_goals simp

theorem handleC2DRequestRecentInventoryInfo_outcome (objectId : Nat)
    : (host.handleC2DRequestRecentInventoryInfo env sessionId session objectId).1.outcome
      = host.outcome := by
  unfold handleC2DRequestRecentInventoryInfo
  repeat' split
  all_goals simp

theorem handleC2DNotifyReloadSequence_outcome (sequenceNum : Nat)
    : (host.handleC2DNotifyReloadSequence env sessionId session sequenceNum).1.outcome
      = host.outcome := by
  unfold handleC2DNotifyReloadSequence broadcastReloadSequence
  repeat' split
  all_goals simp

theorem handleC2DRequestSwitchWeapon_ordinary (targetSlot : Nat) (version : BitVec 32)
    : Ordinary none host
        (host.handleC2DRequestSwitchWeapon env sessionId session targetSlot version).1 := by
  unfold handleC2DRequestSwitchWeapon
  split
  · exact .refl _ host
  · split
    · exact .refl _ host
    · split
      · exact .refl _ host
      · dsimp only
        split
        · exact .of_outcome (send_outcome env _ sessionId _)
        · refine Ordinary.quiet ?_
            ((send_outcome env _ sessionId _).trans (broadcastExcept_outcome env _ _ _))
          refine Ordinary.modifyRoom ?_
          exact .modifyPlayerObject fun _ _ => .of_eq rfl rfl

theorem handleC2DRequestOpenContainer_ordinary (containerId : Nat)
    : Ordinary none host
        (host.handleC2DRequestOpenContainer env sessionId session containerId).1 := by
  unfold handleC2DRequestOpenContainer
  split
  · exact .refl _ host
  · split
    · split
      · exact .refl _ host
      · dsimp only
        split
        · exact .refl _ host
        · refine Ordinary.quiet ?_ (sendAll_outcome env _ sessionId _)
          refine Ordinary.modifyRoom ?_
          refine GameRoom.Ordinary.trans ?_ (.modifySession_of_eq _ (fun _ => rfl) fun _ => rfl)
          refine GameRoom.Ordinary.trans ?_ (.modifyContainer _ fun _ _ => rfl)
          refine GameRoom.Ordinary.trans ?_ (.releaseInteractingContainer sessionId _)
          split
          · exact .refl _ host.room
          · exact .modifySession_of_eq host.room (fun _ => rfl) fun _ => rfl
    · exact .refl _ host

theorem handleC2DCloseContainer_ordinary
    : Ordinary none host (host.handleC2DCloseContainer sessionId session).1 := by
  unfold handleC2DCloseContainer
  split
  · exact .refl _ host
  · split
    · exact .refl _ host
    · exact ⟨.releaseInteractingContainer sessionId host.room, rfl⟩

theorem commitStore_ordinary (opened : Option (Nat × Container)) (store : SlotStore)
    : Ordinary (some sessionId) host (host.commitStore sessionId opened store) := by
  have stored : Ordinary (some sessionId) host
      (host.modifySession sessionId ({ · with inventory := store.inventory })) :=
    .modifyRoom (.modifySession (fun _ _ => .of_eq rfl) (.inl rfl))
  unfold commitStore
  dsimp only
  split
  · exact stored
  · exact stored.trans (.modifyRoom (.modifyContainer _ nofun))

theorem handleC2DRequestInteractContainerObject_ordinary
    (pkt : C2DRequestInteractContainerObject)
    : Ordinary (some sessionId) host
        (host.handleC2DRequestInteractContainerObject env sessionId session pkt).1 := by
  unfold handleC2DRequestInteractContainerObject
  split
  · exact .refl _ host
  · split
    · exact .of_outcome (send_outcome env _ sessionId _)
    · exact (host.commitStore_ordinary sessionId _ _).quiet (send_outcome env _ sessionId _)

theorem refreshEquipment_ordinary (objectId : Option Nat) (isArmor : Bool)
    (inventory : PlayerInventory)
    : Ordinary none host
        (host.refreshEquipment env sessionId objectId isArmor inventory) := by
  unfold refreshEquipment
  split
  · exact .refl _ host
  · split
    · exact .refl _ host
    · split
      · exact .modifyRoom (.modifyPlayerObject fun object _ => .setArmor object _)
      · exact Ordinary.quiet
          (.modifyRoom (.modifyPlayerObject fun object _ => .setWeapons object _ _))
          (broadcastExcept_outcome env _ _ _)

theorem handleC2DRequestEquipItem_ordinary (pkt : C2DRequestEquipItem)
    : Ordinary (some sessionId) host
        (host.handleC2DRequestEquipItem env sessionId session pkt).1 := by
  unfold handleC2DRequestEquipItem
  split
  · exact .refl _ host
  · split
    · exact .of_outcome (send_outcome env _ sessionId _)
    · refine Ordinary.quiet ?_ (send_outcome env _ sessionId _)
      exact (host.commitStore_ordinary sessionId _ _).trans
        (refreshEquipment_ordinary env _ sessionId _ _ _).of_none

theorem handleC2DRequestReload_ordinary (version : BitVec 32)
    : Ordinary (some sessionId) host
        (host.handleC2DRequestReload env sessionId session version).1 := by
  unfold handleC2DRequestReload broadcastReloadSequence
  split
  · exact .refl _ host
  · split
    · exact .refl _ host
    · split
      · exact .refl _ host
      · next object _ =>
        dsimp only
        generalize reload session.inventory object.isUsingPrimary version = result
        have stored : Ordinary (some sessionId) host
            (host.modifySession sessionId ({ · with inventory := result.1 })) :=
          .modifyRoom (.modifySession (fun _ _ => .of_eq rfl) (.inl rfl))
        refine stored.quiet ?_
        rw [send_outcome]
        split
        · exact broadcastExcept_outcome env _ _ _
        · rfl

-----------------------------------------------------------------------------------------
-- Hits, recalls and NPC requests
-----------------------------------------------------------------------------------------

/-- Telling the owner of a hit object changes at most which notice the leave waits for. -/
theorem notifyHit_ordinary (hitObjectId : Nat) (combat : CombatState)
    (attackerObjectId : Nat)
    : Ordinary none host (host.notifyHit env hitObjectId combat attackerObjectId) := by
  unfold notifyHit
  split
  · exact .refl _ host
  · split
    · exact .refl _ host
    · dsimp only
      split
      · exact .of_outcome (send_outcome env host _ _)
      · refine Ordinary.trans ?_ (.modifySession (fun _ _ => .of_eq rfl) (fun _ => rfl))
        exact .of_outcome (send_outcome env host _ _)

/-- Telling the owner of a hit object touches no other object. -/
theorem notifyHit_objects (hitObjectId : Nat) (combat : CombatState) (attackerObjectId : Nat)
    : (host.notifyHit env hitObjectId combat attackerObjectId).room.staticObjects
        = host.room.staticObjects
      ∧ (host.notifyHit env hitObjectId combat attackerObjectId).room.dynamicObjects
        = host.room.dynamicObjects := by
  unfold notifyHit
  split
  · exact ⟨rfl, rfl⟩
  · split
    · exact ⟨rfl, rfl⟩
    · dsimp only
      split
      · rw [send_room]
        exact ⟨rfl, rfl⟩
      · simp only [modifySession, modifyRoom, GameRoom.modifySession, send_room, and_self]

theorem destroyDeadObject_ordinary (objectId : Nat)
    (isNpc : host.room.Layout → ∃ npc,
      host.room.dynamicObjects.lookup objectId = some (.hostileNpc npc))
    : Ordinary none host (host.destroyDeadObject env objectId) := by
  unfold destroyDeadObject
  split
  · exact .refl _ host
  · refine Ordinary.quiet ?_ (broadcast_outcome env _ _)
    exact ⟨.eraseDynamicObject isNpc, rfl⟩

/-- A hit NPC is still there when the owner of its object has been told. -/
theorem notifyHit_isNpc {hitObjectId : Nat} (npc : HostileNPC) (shooterObjectId : Nat)
    (isNpc : (host.room.findHostileNpc hitObjectId).isSome)
    (layout : ((host.modifyRoom (·.modifyHostileNpc hitObjectId fun _ => npc)).notifyHit env
      hitObjectId npc.combat shooterObjectId).room.Layout)
    : ∃ left, ((host.modifyRoom (·.modifyHostileNpc hitObjectId fun _ => npc)).notifyHit env
        hitObjectId npc.combat shooterObjectId).room.dynamicObjects.lookup hitObjectId
      = some (.hostileNpc left) := by
  obtain ⟨static, dynamic⟩ := notifyHit_objects env
    (host.modifyRoom (·.modifyHostileNpc hitObjectId fun _ => npc)) hitObjectId npc.combat
    shooterObjectId
  obtain ⟨stored, present⟩ := Option.isSome_iff_exists.mp isNpc
  refine ⟨npc, (layout.dynamic_of_findHostileNpc ?_).2⟩
  rw [← GameRoom.findHostileNpc_modifyHostileNpc present fun _ => npc]
  unfold GameRoom.findHostileNpc GameRoom.findNonplayerObject
  rw [static, dynamic]
  rfl

theorem settleNpcHit_ordinary (shooterObjectId hitObjectId : Nat) (npc : HostileNPC)
    (isNpc : (host.room.findHostileNpc hitObjectId).isSome)
    : Ordinary none host (host.settleNpcHit env shooterObjectId hitObjectId npc) := by
  have hurt : Ordinary none host
      (host.modifyRoom (·.modifyHostileNpc hitObjectId fun _ => npc)) :=
    ⟨.modifyHostileNpc hitObjectId _ host.room, rfl⟩
  have told := hurt.trans
    (notifyHit_ordinary env _ hitObjectId npc.combat shooterObjectId)
  unfold settleNpcHit
  dsimp only
  split
  · exact told.trans (destroyDeadObject_ordinary env _ hitObjectId
      (host.notifyHit_isNpc env npc shooterObjectId isNpc))
  · split
    · refine Ordinary.quiet (told.trans ?_) (notifyNpcAuthority_outcome env _ _)
      exact ⟨.modifyHostileNpc hitObjectId _ _, rfl⟩
    · exact told.trans ⟨.modifyHostileNpc hitObjectId _ _, rfl⟩

/-- A hit harms a living player or NPC; nothing else of the room moves. -/
theorem applyHit_ordinary (shooterObjectId hitObjectId weaponId : Nat)
    : Ordinary none host (host.applyHit env shooterObjectId hitObjectId weaponId) := by
  unfold applyHit
  split
  · exact .refl _ host
  · split
    · next player spec isPlayer _ =>
        split
        · exact .refl _ host
        · next alive =>
            refine Ordinary.trans ?_ (notifyHit_ordinary env _ _ _ _)
            refine Ordinary.modifyRoom ?_
            refine GameRoom.Ordinary.modifyPlayerObject ?_
            intro object found
            have same : object = player := Option.some.inj (found.symm.trans isPlayer)
            subst same
            exact .takeDamage (by simpa using alive) _ _
    · next npc spec _ isNpc _ =>
        split
        · exact .refl _ host
        · exact host.settleNpcHit_ordinary env shooterObjectId hitObjectId _
            (by rw [isNpc]; rfl)
    · exact .refl _ host

theorem handleC2DRequestWeaponFire_ordinary (pkt : C2DRequestWeaponFire)
    : Ordinary (some sessionId) host
        (host.handleC2DRequestWeaponFire env sessionId session pkt).1 := by
  have aimed : Ordinary (some sessionId) host (host.countShot sessionId pkt) := by
    unfold countShot
    exact .modifyRoom (.modifySession_of_eq host.room (fun _ => rfl) fun _ => rfl)
  have outcome := host.handleC2DRequestWeaponFire_shot env sessionId session pkt
  generalize host.handleC2DRequestWeaponFire env sessionId session pkt = handled at *
  cases outcome with
  | ignored => exact .refl _ host
  | wasted => exact aimed
  | fired =>
      refine Ordinary.quiet ?_ (broadcastExcept_outcome env _ _ _)
      refine Ordinary.trans ?_ (applyHit_ordinary env _ _ _ _).of_none
      refine aimed.trans ?_
      unfold spendRound
      exact .modifyRoom (.modifySession (fun _ _ => .of_eq rfl) (.inl rfl))

theorem handleC2DRequestRecall_ordinary (recallSpotIndex : Nat)
    : Ordinary none host
        (host.handleC2DRequestRecall env sessionId session recallSpotIndex).1 := by
  unfold handleC2DRequestRecall
  split
  · exact .refl _ host
  · split
    · exact .refl _ host
    · split
      · exact .refl _ host
      · split
        · exact .refl _ host
        · dsimp only
          split
          · exact .of_outcome (send_outcome env host _ _)
          · refine Ordinary.quiet ?_ (scheduleRecallTick_outcome env _ _ _ _)
            refine Ordinary.trans ?_ (.modifySession ?_ ?_)
            · exact .of_outcome (send_outcome env host _ _)
            · intro stored _
              unfold PlayerSession.beginRecall
              split <;> exact .of_eq rfl
            · intro stored
              unfold PlayerSession.beginRecall
              split <;> rfl

theorem applyNpcRequest_ordinary (npcObjectId : Nat)
    (apply : HostileNPC → Nat → HostileNPC × HostileNPC.RequestResult)
    : Ordinary none host (host.applyNpcRequest env session npcObjectId apply).1 := by
  unfold applyNpcRequest
  split
  · exact .refl _ host
  · next objectId npc _ =>
      have driven : Ordinary none host
          (host.modifyRoom (·.modifyHostileNpc npcObjectId fun _ => (apply npc objectId).1)) :=
        ⟨.modifyHostileNpc npcObjectId _ host.room, rfl⟩
      dsimp only
      split
      · exact driven
      · exact driven
      · exact driven.quiet (notifyNpcAuthority_outcome env _ _)

theorem handleC2DReportNpcAttack_ordinary (pkt : C2DReportNpcAttack)
    : Ordinary none host (host.handleC2DReportNpcAttack env sessionId session pkt).1 := by
  unfold handleC2DReportNpcAttack
  split
  · exact .refl _ host
  · next objectId npc _ =>
    split
    · exact .refl _ host
    · split
      · exact .refl _ host
      · refine Ordinary.quiet ?_ (broadcastExcept_outcome env _ _ _)
        split
        · exact .refl _ host
        · next player isPlayer =>
            split
            · exact .refl _ host
            · next alive =>
                have harmed (combat : CombatState)
                    (goes : player.Continues { player with combat })
                    : Ordinary none host
                      (host.modifyRoom
                        (·.modifyPlayerObject pkt.hitObjectId ({ · with combat }))) := by
                  refine Ordinary.modifyRoom ?_
                  refine GameRoom.Ordinary.modifyPlayerObject ?_
                  intro object found
                  have same : object = player :=
                    Option.some.inj (found.symm.trans isPlayer)
                  exact same ▸ goes
                rw [not_or] at alive
                have hit := harmed
                  (player.combat.takeDamage npc.attackDamage npc.base.objectId)
                  (.takeDamage (by simpa using alive.2) _ _)
                dsimp only
                split
                · exact hit.quiet (send_outcome env _ _ _)
                · refine Ordinary.trans ?_ (.modifySession (fun _ _ => .of_eq rfl) (fun _ => rfl))
                  exact hit.quiet (send_outcome env _ _ _)

/-- Every packet but a spawn request is an ordinary request of its sender. -/
theorem dispatch_ordinary (clientAddr : SockAddr)
    (found : host.room.playerSessions.lookup sessionId = some session) {pkt : C2DPacket}
    (notSpawn : pkt ≠ .requestSpawnMe)
    : Ordinary (some sessionId) host
        (host.dispatch env sessionId session clientAddr pkt).1 := by
  cases pkt with
  | channelOpen echo =>
      exact (host.handleC2DChannelOpen_ordinary env sessionId session clientAddr echo
        found).of_none
  | heartBeat => exact .of_outcome (host.handleC2DHeartBeat_outcome env sessionId session)
  | requestBlueprint =>
      exact .of_outcome (host.handleC2DRequestBlueprint_outcome env sessionId session)
  | requestSpawnMe => exact absurd rfl notSpawn
  | requestSpawnByObjectId objectId =>
      exact .of_outcome
        (host.handleC2DRequestSpawnByObjectId_outcome env sessionId session objectId)
  | updatePlayerState state npcStates =>
      exact (host.handleC2DUpdatePlayerState_ordinary session state npcStates).of_none
  | requestSpawnPlayerObjects =>
      exact .of_outcome
        (host.handleC2DRequestSpawnPlayerObjects_outcome env sessionId session)
  | notifyLoadingComplete =>
      exact (host.handleC2DNotifyLoadingComplete_ordinary sessionId session found).of_none
  | requestOpenContainer containerId =>
      exact (host.handleC2DRequestOpenContainer_ordinary env sessionId session
        containerId).of_none
  | closeContainer =>
      exact (host.handleC2DCloseContainer_ordinary sessionId session).of_none
  | requestInteractContainerObject pkt =>
      exact host.handleC2DRequestInteractContainerObject_ordinary env sessionId session pkt
  | requestEquipItem pkt =>
      exact host.handleC2DRequestEquipItem_ordinary env sessionId session pkt
  | requestRecentInventoryInfo objectId =>
      exact .of_outcome
        (host.handleC2DRequestRecentInventoryInfo_outcome env sessionId session objectId)
  | requestSwitchWeapon targetSlot version =>
      exact (host.handleC2DRequestSwitchWeapon_ordinary env sessionId session targetSlot
        version).of_none
  | requestWeaponFire pkt =>
      exact host.handleC2DRequestWeaponFire_ordinary env sessionId session pkt
  | requestRecall spotIndex =>
      exact (host.handleC2DRequestRecall_ordinary env sessionId session spotIndex).of_none
  | requestReload version =>
      exact host.handleC2DRequestReload_ordinary env sessionId session version
  | notifyReloadSequence sequenceNum =>
      exact .of_outcome
        (host.handleC2DNotifyReloadSequence_outcome env sessionId session sequenceNum)
  | requestNpcAggro objectId aggro =>
      exact (host.applyNpcRequest_ordinary env session objectId _).of_none
  | requestNpcAuthority objectId aggro =>
      exact (host.applyNpcRequest_ordinary env session objectId _).of_none
  | reportNpcAttack pkt =>
      exact (host.handleC2DReportNpcAttack_ordinary env sessionId session pkt).of_none

-----------------------------------------------------------------------------------------
-- Sessions without the right to act
-----------------------------------------------------------------------------------------

/-- Once a session may neither act nor open its channel, its packets change nothing. -/
theorem dispatch_outcome_of_inactive (clientAddr : SockAddr) (pkt : C2DPacket)
    (inactive : session.isActiveState = false)
    (opened : ∀ echo, pkt = .channelOpen echo → session.sessionState ≠ .init)
    : (host.dispatch env sessionId session clientAddr pkt).1.outcome = host.outcome := by
  have notConnected : session.sessionState ≠ .connected := by
    intro connected
    simp [PlayerSession.isActiveState, connected] at inactive
  cases pkt <;> simp only [dispatch]
  case channelOpen echo => simp [handleC2DChannelOpen, opened echo rfl]
  case heartBeat => exact host.handleC2DHeartBeat_outcome env sessionId session
  case requestBlueprint => simp [handleC2DRequestBlueprint, inactive]
  case requestSpawnMe => simp [handleC2DRequestSpawnMe, inactive]
  case requestSpawnByObjectId => simp [handleC2DRequestSpawnByObjectId, inactive]
  case updatePlayerState => simp [handleC2DUpdatePlayerState, inactive]
  case requestSpawnPlayerObjects => simp [handleC2DRequestSpawnPlayerObjects, inactive]
  case notifyLoadingComplete => simp [handleC2DNotifyLoadingComplete, notConnected]
  case requestOpenContainer => simp [handleC2DRequestOpenContainer, inactive]
  case closeContainer => simp [handleC2DCloseContainer, inactive]
  case requestInteractContainerObject =>
    simp [handleC2DRequestInteractContainerObject, inactive]
  case requestEquipItem => simp [handleC2DRequestEquipItem, inactive]
  case requestRecentInventoryInfo => simp [handleC2DRequestRecentInventoryInfo, inactive]
  case requestSwitchWeapon => simp [handleC2DRequestSwitchWeapon, inactive]
  case requestWeaponFire => simp [handleC2DRequestWeaponFire, inactive]
  case requestRecall => simp [handleC2DRequestRecall, inactive]
  case requestReload => simp [handleC2DRequestReload, inactive]
  case notifyReloadSequence => simp [handleC2DNotifyReloadSequence, inactive]
  case requestNpcAggro =>
    simp [handleC2DRequestNpcAggro, applyNpcRequest, resolveHostileNpcRequest, inactive]
  case requestNpcAuthority =>
    simp [handleC2DRequestNpcAuthority, applyNpcRequest, resolveHostileNpcRequest, inactive]
  case reportNpcAttack =>
    simp [handleC2DReportNpcAttack, resolveHostileNpcRequest, inactive]

-----------------------------------------------------------------------------------------
-- Recall ticks and periodic work
-----------------------------------------------------------------------------------------

theorem cancelRecall_ordinary (spotIndex : Nat) (reason : RecallResultReason)
    : Ordinary none host (host.cancelRecall env sessionId session spotIndex reason) := by
  have ended : Ordinary none host
      (host.modifySession sessionId PlayerSession.endRecall) :=
    .modifySession (fun _ _ => .of_eq rfl) (fun _ => rfl)
  unfold cancelRecall
  dsimp only
  split
  · exact ended
  · exact ended.quiet (send_outcome env _ sessionId _)

/-- A recall tick is ordinary, or it completes the recall of a living player in play who is
not leaving yet.
-/
theorem recallTick_cases (timer : RecallTimer)
    : Ordinary none host (host.recallTick env timer)
      ∨ ∃ session objectId object ready notifyRSeq,
        host.room.playerSessions.lookup timer.sessionId = some session
        ∧ session.isInplay = true ∧ session.isLeaving = false
        ∧ session.objectId = some objectId
        ∧ host.room.playerObjects.lookup objectId = some object
        ∧ object.combat.isAlive = true
        ∧ Ordinary none host ready
        ∧ ready.room.playerObjects = host.room.playerObjects
        ∧ host.recallTick env timer
          = ready.markLeaving env timer.sessionId .recalled notifyRSeq := by
  unfold recallTick
  dsimp only
  split
  · exact .inl (.refl _ host)
  · next session found =>
    split
    · exact .inl (.refl _ host)
    split
    · exact .inl (.refl _ host)
    split
    · exact .inl (host.cancelRecall_ordinary env _ session _ _)
    next inplay =>
    split
    · exact .inl (host.cancelRecall_ordinary env _ session _ _)
    next staying =>
    split
    · exact .inl (host.cancelRecall_ordinary env _ session _ _)
    next object located =>
    split
    · exact .inl (host.cancelRecall_ordinary env _ session _ _)
    next alive =>
    split
    · exact .inl (host.cancelRecall_ordinary env _ session _ _)
    have passed : Ordinary none host
        (host.modifySession timer.sessionId PlayerSession.addRecallPass) :=
      .modifySession (fun _ _ => .of_eq rfl) (fun _ => rfl)
    split
    · exact .inl (passed.quiet (scheduleRecallTick_outcome env _ _ _ _))
    · obtain ⟨objectId, current, present⟩ := Option.bind_eq_some_iff.mp located
      have ended : Ordinary none host
          ((host.modifySession timer.sessionId PlayerSession.addRecallPass).modifySession
            timer.sessionId PlayerSession.endRecall) :=
        passed.trans (.modifySession (fun _ _ => .of_eq rfl) (fun _ => rfl))
      refine .inr ⟨session, objectId, object, _, _, found, by simpa using inplay,
        by simpa using staying, current, present, by simpa using alive,
        ended.quiet (send_outcome env _ timer.sessionId _), ?_, rfl⟩
      rw [send_room]
      rfl

/-- Taking authority away from a player moves NPCs only. -/
theorem releaseNpcAuthority_ordinary (playerObjectId : Option Nat)
    : Ordinary none host (host.releaseNpcAuthority env playerObjectId) := by
  unfold releaseNpcAuthority
  split
  · exact .refl _ host
  · refine List.foldlRecOn _ _ (motive := Ordinary none host) (.refl _ host) ?_
    intro reached moved objectId _
    refine moved.trans ?_
    split
    · exact .refl _ reached
    next npc found =>
    split
    · exact .refl _ reached
    dsimp only
    split
    · exact .refl _ reached
    · refine Ordinary.quiet ?_ (notifyNpcAuthority_outcome env _ _)
      exact ⟨.adjustDynamicNpc found _, rfl⟩

theorem update_ordinary : Ordinary none host (host.update env) := by
  have regenerated : Ordinary none host (host.regenPlayerShields env) := by
    unfold regenPlayerShields
    dsimp only
    split
    · exact ⟨.of_eq rfl, rfl⟩
    · generalize BitVec.toNat _ = elapsedMs
      have mended : GameRoom.Ordinary none host.room _ :=
        .mapPlayerObjects host.room fun object => .regenShield object elapsedMs
      exact ⟨mended.trans (.of_eq rfl), rfl⟩
  unfold update broadcastPlayerStates
  split
  · exact regenerated
  · exact regenerated.quiet (broadcast_outcome env _ _)

theorem updateNpcStates_ordinary : Ordinary none host (host.updateNpcStates env) := by
  unfold updateNpcStates
  dsimp only
  split
  · exact .refl _ host
  · exact .of_outcome (broadcast_outcome env host _)

end RoomHost

end ExtractionServer.Room
