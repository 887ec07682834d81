import ExtractionServer.Library.Transition
import ExtractionServer.Room.GameRoom

/-! The packet handlers of a room, the recall timer, and the runs they make together with
the periodic work of the process.
-/

namespace ExtractionServer.Room

open Transport

namespace RoomHost

/-- The return value of a handler is whether the request was served. -/
abbrev Handled := RoomHost × Bool

def modifySession (host : RoomHost) (sessionId : Nat) (f : PlayerSession → PlayerSession)
    : RoomHost :=
  host.modifyRoom (·.modifySession sessionId f)

-----------------------------------------------------------------------------------------
-- Entering the room
-----------------------------------------------------------------------------------------

def handleC2DChannelOpen (env : Environment) (host : RoomHost) (sessionId : Nat)
    (session : PlayerSession) (clientAddr : SockAddr) (echo : String)
    : Handled :=
  let host :=
    if session.sessionState = .init then
      host.modifySession sessionId fun session =>
        { session with
          clientAddr := { session.clientAddr with port := clientAddr.port }
          sessionState := .connected }
    else host
  (host.send env sessionId (.responseChannelOpen echo), true)

/-- Answered in the grace period after a death as well. -/
def handleC2DHeartBeat (env : Environment) (host : RoomHost) (sessionId : Nat)
    (session : PlayerSession)
    : Handled :=
  if !session.isActiveState && !session.isSpectating then (host, false)
  else (host.send env sessionId .heartBeat, true)

def handleC2DRequestBlueprint (env : Environment) (host : RoomHost) (sessionId : Nat)
    (session : PlayerSession)
    : Handled :=
  if !session.isActiveState then (host, false)
  else (host.sendAll env sessionId (host.room.fillStaticObjects env), true)

def handleC2DRequestSpawnByObjectId (env : Environment) (host : RoomHost) (sessionId : Nat)
    (session : PlayerSession) (objectId : Int)
    : Handled :=
  if !session.isActiveState then (host, false)
  else if session.objectId = none then (host, false)
  else if objectId < 0 then (host, false)
  else
    match host.room.findNonplayerObject objectId.toNat,
        host.room.findPlayerObject objectId.toNat with
    | some object, _ =>
        (host.send env sessionId (.responseSpawnByObjectId object.base.serialize), true)
    | none, some object =>
        (host.send env sessionId (.spawnPlayerObject object.spawnInfo), true)
    | none, none => (host, true)

/-- Movement of NPCs over which the player has no authority is ignored. -/
def handleC2DUpdatePlayerState (host : RoomHost) (session : PlayerSession)
    (state : PlayerState) (npcStates : List GameObjectMovementInfo)
    : Handled :=
  if !session.isActiveState then (host, false)
  else
    match session.objectId, state.movementInfo with
    | some objectId, some info =>
        if info.objectId ≠ objectId then (host, false)
        else if (host.room.findPlayerObject objectId).isNone then (host, false)
        else
          let host :=
            host.modifyRoom (·.modifyPlayerObject objectId (·.applyState state))
          let apply (room : GameRoom) (npcState : GameObjectMovementInfo) : GameRoom :=
            match room.findHostileNpc npcState.objectId with
            | none => room
            | some npc =>
                if !npc.isAuthority objectId then room
                else room.modifyHostileNpc npcState.objectId (·.applyMovementInfo npcState)
          (host.modifyRoom fun room => npcStates.foldl apply room, true)
    | _, _ => (host, false)

/-- `SetSpawnSpot`: the spots are handed out in turn. -/
def setSpawnSpot (host : RoomHost) : RoomHost × Vector3 :=
  (host.modifyRoom fun room =>
      { room with spawnSpotIndex := (room.spawnSpotIndex + 1) % room.spawnSpots.length },
    host.room.spawnSpots.getD host.room.spawnSpotIndex {})

/-- `GetRemainingLifetimeMs`, at a given clock reading. -/
def remainingLifetimeMs (host : RoomHost) (now : TimePoint) : Nat :=
  let elapsed := elapsedMs host.room.createdAt now
  if elapsed ≥ GameRoom.ROOM_LIFETIME_MS then 0
  else (GameRoom.ROOM_LIFETIME_MS - elapsed).toNat

/-- Nothing here asks whether the session already has a player object. -/
def handleC2DRequestSpawnMe (env : Environment) (host : RoomHost) (sessionId : Nat)
    (session : PlayerSession)
    : Handled :=
  if !session.isActiveState then (host, false)
  else
    let (host, spawnPoint) := host.setSpawnSpot
    let (host, objectId) := host.getNewObjectId
    let inventory := session.inventory
    let object :=
      ((PlayerObject.create objectId spawnPoint session.characterType
        session.userId).setWeapons inventory.primaryWeaponSlot.item.blueprintId
          inventory.secondaryWeaponSlot.item.blueprintId).setArmor
            inventory.armorSlot.item.blueprintId
    let object :=
      { object with combat := object.combat.chargeShield object.combat.maxShield }
    let host := host.spawnPlayerObject env object sessionId
    let host := host.modifySession sessionId ({ · with objectId := some objectId })
    let (host, now) := host.now env
    let host := host.send env sessionId
      (.responseSpawnMeSpawnSpot spawnPoint session.characterType objectId
        (host.remainingLifetimeMs now))
    let host :=
      host.send env sessionId (.fullInventorySync inventory.serializeFullInventory)
    (host.sendAll env sessionId (host.room.fillDynamicObjects env), true)

def handleC2DRequestSpawnPlayerObjects (env : Environment) (host : RoomHost)
    (sessionId : Nat) (session : PlayerSession)
    : Handled :=
  if !session.isActiveState then (host, false)
  else if session.objectId = none then (host, false)
  else
    (host.send env sessionId
      (.spawnPlayerObjects (host.room.playerObjects.values.map PlayerObject.spawnInfo)),
      true)

def handleC2DNotifyLoadingComplete (host : RoomHost) (sessionId : Nat)
    (session : PlayerSession)
    : Handled :=
  if session.sessionState ≠ .connected then (host, false)
  else (host.modifySession sessionId ({ · with sessionState := .inplay }), true)

-----------------------------------------------------------------------------------------
-- Containers and items
-----------------------------------------------------------------------------------------

/-- A container whose holder has walked away may be taken over. -/
def handleC2DRequestOpenContainer (env : Environment) (host : RoomHost) (sessionId : Nat)
    (session : PlayerSession) (containerId : Nat)
    : Handled :=
  if !session.isActiveState then (host, false)
  else
    match host.room.findContainer containerId, session.objectId with
    | some box, some playerObjectId =>
        if !host.room.isPlayerNearContainer env playerObjectId containerId then (host, false)
        else
          let otherHolder := box.otherHolder playerObjectId
          if otherHolder.any (host.room.isPlayerNearContainer env · containerId) then
            (host, false)
          else
            let evict (room : GameRoom) : GameRoom :=
              match otherHolder.bind room.findSessionByObjectId with
              | none => room
              | some holderSessionId =>
                  room.modifySession holderSessionId
                    ({ · with interactingContainerId := none })
            let host := host.modifyRoom fun room =>
              (((evict room).releaseInteractingContainer sessionId).modifyContainer
                containerId ({ · with interactingPlayerId := some playerObjectId })
              ).modifySession sessionId
                ({ · with interactingContainerId := some containerId })
            let info := (host.room.findContainer containerId).map Container.serialize
            (host.sendAll env sessionId (info.map .responseOpenContainer).toList, true)
    | _, _ => (host, false)

def handleC2DCloseContainer (host : RoomHost) (sessionId : Nat) (session : PlayerSession)
    : Handled :=
  if !session.isActiveState then (host, false)
  else if session.interactingContainerId = none then (host, false)
  else (host.modifyRoom (·.releaseInteractingContainer sessionId), true)

/-- The opened container of a session, within reach. -/
def resolveContainer (env : Environment) (room : GameRoom) (session : PlayerSession)
    : Except (BitVec 32) (Nat × Container) :=
  match session.interactingContainerId with
  | none => .error DENY_CONTAINER_NOT_OPEN
  | some containerId =>
      match room.findContainer containerId, session.objectId with
      | some box, some playerObjectId =>
          if room.isPlayerNearContainer env playerObjectId containerId then
            .ok (containerId, box)
          else .error DENY_OUT_OF_RANGE
      | _, _ => .error DENY_SERVER_INTERNAL

/-- The slot pointer for one side of a request; `none` is the null pointer. -/
def resolveSlot (inventory : PlayerInventory) (opened : Option (Nat × Container))
    (objectId : Nat) (version : BitVec 32) (slotIdx : Nat)
    : Except (BitVec 32) (Option SlotRef) :=
  if objectId = PLAYER_OBJECT_ID_SENTINEL then
    if version ≠ inventory.inventoryVersion then .error DENY_VERSION_MISMATCH
    else
      .ok (if inRange : slotIdx < INVENTORY_SLOT_COUNT then some (.inventory ⟨slotIdx, inRange⟩)
        else none)
  else
    match opened with
    | none => .error DENY_CONTAINER_NOT_OPEN
    | some (containerId, box) =>
        if objectId ≠ containerId then .error DENY_CONTAINER_NOT_OPEN
        else if version ≠ box.containerVersion then .error DENY_VERSION_MISMATCH
        else
          .ok (if slotIdx < box.inventorySlots.length then some (.container slotIdx)
            else none)

/-- The slots that a request of a session can reach. -/
def slotStore (session : PlayerSession) (opened : Option (Nat × Container)) : SlotStore where
  inventory := session.inventory
  container := (opened.map (·.2.inventorySlots)).getD []

/-- Write the slots of a served request back, with a new version of the container. -/
def commitStore (host : RoomHost) (sessionId : Nat) (opened : Option (Nat × Container))
    (store : SlotStore)
    : RoomHost :=
  let host := host.modifySession sessionId ({ · with inventory := store.inventory })
  match opened with
  | none => host
  | some (containerId, _) =>
      host.modifyRoom (·.modifyContainer containerId fun box =>
        { box with
          inventorySlots := store.container
          containerVersion := box.containerVersion + 1 })

/-- The checks and the move of a container request, up to the refusal mask. Both sides in
the player's inventory need no open container.
-/
def planInteract (env : Environment) (room : GameRoom) (session : PlayerSession)
    (pkt : C2DRequestInteractContainerObject)
    : Except (BitVec 32) (Option (Nat × Container) × SlotStore) := do
  if pkt.interactType > 2 then throw DENY_SERVER_INTERNAL
  let opened ←
    if pkt.startObjectId ≠ PLAYER_OBJECT_ID_SENTINEL
        ∨ pkt.endObjectId ≠ PLAYER_OBJECT_ID_SENTINEL then
      some <$> resolveContainer env room session
    else pure none
  let startSlot ← resolveSlot session.inventory opened pkt.startObjectId
    pkt.startObjectInventoryVersion pkt.startObjectSlotIdx
  let endSlot ← resolveSlot session.inventory opened pkt.endObjectId
    pkt.endObjectInventoryVersion pkt.endObjectSlotIdx
  match startSlot, endSlot with
  | some startRef, some endRef =>
      let store := slotStore session opened
      if startRef = endRef then throw DENY_SERVER_INTERNAL
      if (store.get startRef).isEmpty then throw DENY_SLOT_EMPTY
      let store ← store.interact pkt.interactType startRef endRef pkt.quantity
      if pkt.startObjectId = PLAYER_OBJECT_ID_SENTINEL
          ∨ pkt.endObjectId = PLAYER_OBJECT_ID_SENTINEL then
        pure (opened, store.touchInventory)
      else pure (opened, store)
  | _, _ => throw DENY_SERVER_INTERNAL

def handleC2DRequestInteractContainerObject (env : Environment) (host : RoomHost)
    (sessionId : Nat) (session : PlayerSession) (pkt : C2DRequestInteractContainerObject)
    : Handled :=
  if !session.isActiveState then (host, false)
  else
    match planInteract env host.room session pkt with
    | .error denyMask =>
        (host.send env sessionId (.responseInteractContainerObjectDeny denyMask), false)
    | .ok (opened, store) =>
        let host := host.commitStore sessionId opened store
        let version (objectId : Nat) : BitVec 32 :=
          if objectId = PLAYER_OBJECT_ID_SENTINEL then store.inventory.inventoryVersion
          else (opened.map (·.2.containerVersion + 1)).getD 0
        (host.send env sessionId
          (.responseInteractContainerObject
            { pkt with
              startObjectInventoryVersion := version pkt.startObjectId
              endObjectInventoryVersion := version pkt.endObjectId }), true)

/-- The checks and the move of an equipment request, up to the refusal mask. -/
def planEquip (env : Environment) (room : GameRoom) (session : PlayerSession)
    (pkt : C2DRequestEquipItem)
    : Except (BitVec 32) (Option (Nat × Container) × SlotStore × Option SlotIndex) := do
  if pkt.actionType > 1 then throw DENY_SERVER_INTERNAL
  if pkt.equipmentSlotType > 2 then throw DENY_SERVER_INTERNAL
  let opened ←
    if pkt.objectId = PLAYER_OBJECT_ID_SENTINEL then pure none
    else if session.interactingContainerId ≠ some pkt.objectId then
      throw DENY_CONTAINER_NOT_OPEN
    else some <$> resolveContainer env room session
  let slot ← resolveSlot session.inventory opened pkt.objectId pkt.objectInventoryVersion
    pkt.objectSlotIdx
  match slot with
  | none => throw DENY_SERVER_INTERNAL
  | some ref =>
      if pkt.objectId ≠ PLAYER_OBJECT_ID_SENTINEL
          ∧ pkt.myInventoryVersion ≠ session.inventory.inventoryVersion then
        throw DENY_VERSION_MISMATCH
      let store := slotStore session opened
      let isPrimary := pkt.equipmentSlotType == 0
      let (store, unloadedSlotIdx) ←
        match pkt.actionType == 0, decide (pkt.equipmentSlotType ≤ 1) with
        | true, true => store.equipWeaponFromSlot ref isPrimary
        | true, false => store.equipArmorFromSlot ref
        | false, true => store.unequipWeaponToSlot ref isPrimary
        | false, false => store.unequipArmorToSlot ref
      pure (opened, store, unloadedSlotIdx)

def weaponChanged (objectId : Nat) (object : PlayerObject) (inventoryVersion : BitVec 32)
    : D2CMessage :=
  .notifyWeaponChanged
    { objectId
      weaponId := object.currentWeaponId
      slot := if object.isUsingPrimary then 0 else 1
      inventoryVersion }

def INVENTORY_VERSION_NOT_SET : BitVec 32 := 0xFFFFFFFF#32

/-- Carry changed equipment over to the player object. Armor is not visible to others, so
only weapons are announced.
-/
def refreshEquipment (env : Environment) (host : RoomHost) (sessionId : Nat)
    (objectId : Option Nat) (isArmor : Bool) (inventory : PlayerInventory)
    : RoomHost :=
  match objectId with
  | none => host
  | some objectId =>
      match host.room.findPlayerObject objectId with
      | none => host
      | some object =>
          if isArmor then
            host.modifyRoom (·.modifyPlayerObject objectId
              (·.setArmor inventory.armorSlot.item.blueprintId))
          else
            let rearm (object : PlayerObject) : PlayerObject :=
              object.setWeapons inventory.primaryWeaponSlot.item.blueprintId
                inventory.secondaryWeaponSlot.item.blueprintId
            (host.modifyRoom (·.modifyPlayerObject objectId rearm)).broadcastExcept env
              (weaponChanged objectId (rearm object) INVENTORY_VERSION_NOT_SET)
              (some sessionId)

def handleC2DRequestEquipItem (env : Environment) (host : RoomHost) (sessionId : Nat)
    (session : PlayerSession) (pkt : C2DRequestEquipItem)
    : Handled :=
  if !session.isActiveState then (host, false)
  else
    match planEquip env host.room session pkt with
    | .error denyMask => (host.send env sessionId (.responseEquipItemDeny denyMask), false)
    | .ok (opened, store, unloadedSlotIdx) =>
        let host := host.commitStore sessionId opened store
        let host := host.refreshEquipment env sessionId session.objectId
          (pkt.equipmentSlotType == 2) store.inventory
        let isPlayer := pkt.objectId == PLAYER_OBJECT_ID_SENTINEL
        (host.send env sessionId
          (.responseEquipItem
            { actionType := pkt.actionType
              equipmentSlotType := pkt.equipmentSlotType
              objectId := pkt.objectId
              objectInventoryVersion :=
                if isPlayer then store.inventory.inventoryVersion
                else (opened.map (·.2.containerVersion + 1)).getD 0
              objectSlotIdx := pkt.objectSlotIdx
              myInventoryVersion :=
                if isPlayer then 0 else store.inventory.inventoryVersion
              unloadedAmmoSlot :=
                unloadedSlotIdx.map fun index =>
                  (store.inventory.inventorySlots.get index).serialize }), true)

def handleC2DRequestRecentInventoryInfo (env : Environment) (host : RoomHost)
    (sessionId : Nat) (session : PlayerSession) (objectId : Nat)
    : Handled :=
  if !session.isActiveState then (host, false)
  else if objectId = PLAYER_OBJECT_ID_SENTINEL then
    (host.send env sessionId (.fullInventorySync session.inventory.serializeFullInventory),
      true)
  else if session.interactingContainerId ≠ some objectId then (host, false)
  else
    match host.room.findContainer objectId with
    | none => (host, false)
    | some box => (host.send env sessionId (.responseRecentContainerInfo box.serialize), true)

-----------------------------------------------------------------------------------------
-- Weapons
-----------------------------------------------------------------------------------------

def handleC2DRequestSwitchWeapon (env : Environment) (host : RoomHost) (sessionId : Nat)
    (session : PlayerSession) (targetSlot : Nat) (myInventoryVersion : BitVec 32)
    : Handled :=
  if !session.isActiveState then (host, false)
  else
    match session.objectId with
    | none => (host, false)
    | some objectId =>
        match host.room.findPlayerObject objectId with
        | none => (host, false)
        | some object =>
            let inventoryVersion := session.inventory.inventoryVersion
            let toPrimary := targetSlot == 0
            if targetSlot > 1 ∨ myInventoryVersion ≠ inventoryVersion
                ∨ object.weaponId toPrimary = 0 then
              (host.send env sessionId (weaponChanged objectId object inventoryVersion),
                false)
            else
              let switched := { object with isUsingPrimary := toPrimary }
              let host := host.modifyRoom (·.modifyPlayerObject objectId
                ({ · with isUsingPrimary := toPrimary }))
              let host := host.broadcastExcept env
                (weaponChanged objectId switched INVENTORY_VERSION_NOT_SET) (some sessionId)
              (host.send env sessionId (weaponChanged objectId switched inventoryVersion),
                true)

/-- Tell the owner of a hit object, and make the lethal notice the one that the leave
waits for.
-/
def notifyHit (env : Environment) (host : RoomHost) (hitObjectId : Nat)
    (combat : CombatState) (attackerObjectId : Nat)
    : RoomHost :=
  match host.room.findSessionByObjectId hitObjectId with
  | none => host
  | some hitSessionId =>
      if !(host.room.playerSessions.lookup hitSessionId).any PlayerSession.isInplay then host
      else
        let host := host.send env hitSessionId
          (.notifyHealthChange combat.currentHp combat.currentShield .weaponHit
            attackerObjectId)
        if combat.isAlive then host
        else
          let notifyRSeq := host.lastSentRSeq hitSessionId
          host.modifySession hitSessionId ({ · with leaveNotifyRSeq := notifyRSeq })

/-- The rest of a hit on an NPC that has just taken damage: death removes it at once,
otherwise the shooter claims authority.
-/
def settleNpcHit (env : Environment) (host : RoomHost) (shooterObjectId hitObjectId : Nat)
    (npc : HostileNPC)
    : RoomHost :=
  let host :=
    (host.modifyRoom (·.modifyHostileNpc hitObjectId fun _ => npc)).notifyHit env
      hitObjectId npc.combat shooterObjectId
  if npc.combat.deathPending then host.destroyDeadObject env hitObjectId
  else
    let (npc, result) := npc.applyDamageAuthority shooterObjectId
    let host := host.modifyRoom (·.modifyHostileNpc hitObjectId fun _ => npc)
    if result = .authorityChanged then host.notifyNpcAuthority env npc else host

/-- What an accepted shot does to its target. A dead player is left to the leave pipeline. -/
def applyHit (env : Environment) (host : RoomHost) (shooterObjectId hitObjectId : Nat)
    (weaponId : Nat)
    : RoomHost :=
  if hitObjectId = PLAYER_OBJECT_ID_SENTINEL then host
  else
    match host.room.findPlayerObject hitObjectId, host.room.findHostileNpc hitObjectId,
        ItemDataManager.getWeaponSpec weaponId with
    | some player, _, some spec =>
        if !player.combat.isAlive then host
        else
          let combat := player.combat.takeDamage spec.baseDamage shooterObjectId
          (host.modifyRoom (·.modifyPlayerObject hitObjectId ({ · with combat }))).notifyHit
            env hitObjectId combat shooterObjectId
    | none, some npc, some spec =>
        if !npc.combat.isAlive then host
        else
          host.settleNpcHit env shooterObjectId hitObjectId
            { npc with combat := npc.combat.takeDamage spec.baseDamage shooterObjectId }
    | _, _, _ => host

/-- Sequence numbers may jump ahead but not go back. The expected number advances even
when the shot is then refused.
-/
def handleC2DRequestWeaponFire (env : Environment) (host : RoomHost) (sessionId : Nat)
    (session : PlayerSession) (pkt : C2DRequestWeaponFire)
    : Handled :=
  if !session.isActiveState then (host, false)
  else
    match session.objectId with
    | none => (host, false)
    | some objectId =>
        if (pkt.fireSequence - session.fireSequence).toInt < 0 then (host, false)
        else
          let host :=
            host.modifySession sessionId ({ · with fireSequence := pkt.fireSequence + 1 })
          match host.room.findPlayerObject objectId with
          | none => (host, false)
          | some object =>
              let magazineSlot := session.inventory.magazineSlot object.isUsingPrimary
              if object.currentWeaponId ≠ pkt.weaponDbid then (host, false)
              else if magazineSlot.isEmpty ∨ magazineSlot.quantity ≤ 0 then (host, false)
              else
                let host := host.modifySession sessionId fun session =>
                  { session with
                    inventory :=
                      session.inventory.setMagazineSlot object.isUsingPrimary
                        (magazineSlot.take 1) }
                let host := host.applyHit env objectId pkt.hitObjectId pkt.weaponDbid
                (host.broadcastExcept env (.broadcastWeaponFire objectId pkt.hitPoint)
                  (some sessionId), true)

def RELOAD_SEQUENCE_COMPLETE : Nat := 15

def broadcastReloadSequence (env : Environment) (host : RoomHost) (sessionId : Nat)
    (objectId sequenceNum : Nat)
    : RoomHost :=
  host.broadcastExcept env (.notifyReloadSequence sequenceNum objectId) (some sessionId)

/-- The reload itself, with the refusal mask; zero is success. -/
def reload (inventory : PlayerInventory) (isUsingPrimary : Bool)
    (myInventoryVersion : BitVec 32)
    : PlayerInventory × BitVec 32 :=
  if myInventoryVersion ≠ inventory.inventoryVersion then (inventory, DENY_VERSION_MISMATCH)
  else
    let (inventory, loaded) := inventory.reloadMagazine isUsingPrimary
    (inventory, if loaded then 0 else DENY_SLOT_EMPTY)

/-- The answer carries the inventory in either case. -/
def handleC2DRequestReload (env : Environment) (host : RoomHost) (sessionId : Nat)
    (session : PlayerSession) (myInventoryVersion : BitVec 32)
    : Handled :=
  if !session.isActiveState then (host, false)
  else
    match session.objectId with
    | none => (host, false)
    | some objectId =>
        match host.room.findPlayerObject objectId with
        | none => (host, false)
        | some object =>
            let (inventory, denyMask) :=
              reload session.inventory object.isUsingPrimary myInventoryVersion
            let host := host.modifySession sessionId ({ · with inventory })
            let host :=
              if denyMask = 0 then
                host.broadcastReloadSequence env sessionId objectId RELOAD_SEQUENCE_COMPLETE
              else host
            (host.send env sessionId
              (.responseReload (denyMask == 0) denyMask session.fireSequence
                inventory.serializeFullInventory), denyMask == 0)

def handleC2DNotifyReloadSequence (env : Environment) (host : RoomHost) (sessionId : Nat)
    (session : PlayerSession) (sequenceNum : Nat)
    : Handled :=
  if !session.isActiveState then (host, false)
  else
    match session.objectId with
    | none => (host, false)
    | some objectId =>
        match host.room.findPlayerObject objectId with
        | none => (host, false)
        | some object =>
            if sequenceNum = RELOAD_SEQUENCE_COMPLETE then (host, false)
            else if object.currentWeaponId = 0 then (host, false)
            else (host.broadcastReloadSequence env sessionId objectId sequenceNum, true)

-----------------------------------------------------------------------------------------
-- Recall
-----------------------------------------------------------------------------------------

/-- `ScheduleRecallTick`. -/
def scheduleRecallTick (env : Environment) (host : RoomHost) (sessionId : Nat) (uid : Int)
    (generation : BitVec 32)
    : RoomHost :=
  let (host, now) := host.now env
  let execAt := now + PlayerSession.RECALL_TICK_INTERVAL_MS * 1000000
  { host with
    wire :=
      { host.wire with
        recallTimers :=
          host.wire.recallTimers ++ [{ sessionId, uid, generation, execAt }] } }

def cancelRecall (env : Environment) (host : RoomHost) (sessionId : Nat)
    (session : PlayerSession) (spotIndex : Nat) (reason : RecallResultReason)
    : RoomHost :=
  let host := host.modifySession sessionId PlayerSession.endRecall
  if !session.isActiveState then host
  else host.send env sessionId (.notifyRecallResult false spotIndex reason)

/-- The successful end of a recall: from here on the session is leaving as recalled. -/
def completeRecall (env : Environment) (host : RoomHost) (sessionId : Nat) (spotIndex : Nat)
    : RoomHost :=
  let host := host.modifySession sessionId PlayerSession.endRecall
  let host := host.send env sessionId (.notifyRecallResult true spotIndex .success)
  host.markLeaving env sessionId .recalled (host.lastSentRSeq sessionId)

/-- A tick that belongs to an ended or restarted recall does nothing. -/
def recallTick (env : Environment) (host : RoomHost) (timer : RecallTimer) : RoomHost :=
  let sessionId := timer.sessionId
  match host.room.playerSessions.lookup sessionId with
  | none => host
  | some session =>
      let spotIndex := session.recallSpotIndex
      if !session.isRecalling ∨ session.recallGeneration ≠ timer.generation then host
      else if session.uid ≠ timer.uid then host
      else if !session.isInplay then
        host.cancelRecall env sessionId session spotIndex .sessionLost
      else if session.isLeaving then
        host.cancelRecall env sessionId session spotIndex .sessionLost
      else
        match session.objectId.bind host.room.findPlayerObject with
        | none => host.cancelRecall env sessionId session spotIndex .serverInternal
        | some object =>
            if !object.combat.isAlive then
              host.cancelRecall env sessionId session spotIndex .playerDead
            else if !host.room.isInRecallZone env spotIndex object.base.position then
              host.cancelRecall env sessionId session spotIndex .outOfZone
            else
              let host := host.modifySession sessionId PlayerSession.addRecallPass
              if session.recallPassCount + 1 < PlayerSession.RECALL_REQUIRED_PASS_COUNT then
                host.scheduleRecallTick env sessionId timer.uid timer.generation
              else host.completeRecall env sessionId spotIndex

def handleC2DRequestRecall (env : Environment) (host : RoomHost) (sessionId : Nat)
    (session : PlayerSession) (recallSpotIndex : Nat)
    : Handled :=
  if !session.isActiveState then (host, false)
  else if session.isLeaving then (host, false)
  else
    match session.objectId.bind host.room.findPlayerObject with
    | none => (host, false)
    | some object =>
        if session.isRecalling then (host, true)
        else
          let result := host.room.isInRecallZone env recallSpotIndex object.base.position
          let host := host.send env sessionId (.responseRecall result recallSpotIndex)
          if !result then (host, true)
          else
            let host := host.modifySession sessionId (·.beginRecall recallSpotIndex)
            (host.scheduleRecallTick env sessionId session.uid
              (session.beginRecall recallSpotIndex).recallGeneration, true)

-----------------------------------------------------------------------------------------
-- Hostile NPCs
-----------------------------------------------------------------------------------------

/-- `ResolveHostileNpcRequest`: the requester's object and the NPC, if both exist. -/
def resolveHostileNpcRequest (room : GameRoom) (session : PlayerSession) (npcObjectId : Nat)
    : Option (Nat × HostileNPC) :=
  if !session.isActiveState then none
  else
    match session.objectId, room.findHostileNpc npcObjectId with
    | some objectId, some npc => some (objectId, npc)
    | _, _ => none

/-- The common body of the two authority requests. -/
def applyNpcRequest (env : Environment) (host : RoomHost) (session : PlayerSession)
    (npcObjectId : Nat) (apply : HostileNPC → Nat → HostileNPC × HostileNPC.RequestResult)
    : Handled :=
  match resolveHostileNpcRequest host.room session npcObjectId with
  | none => (host, false)
  | some (objectId, npc) =>
      let (npc, result) := apply npc objectId
      let host := host.modifyRoom (·.modifyHostileNpc npcObjectId fun _ => npc)
      match result with
      | .rejected => (host, false)
      | .aggroChanged => (host, true)
      | .authorityChanged => (host.notifyNpcAuthority env npc, true)

def handleC2DRequestNpcAggro (env : Environment) (host : RoomHost) (session : PlayerSession)
    (npcObjectId : Nat) (aggro : Int)
    : Handled :=
  host.applyNpcRequest env session npcObjectId fun npc requester =>
    npc.applyAggroRequest requester aggro

def handleC2DRequestNpcAuthority (env : Environment) (host : RoomHost)
    (session : PlayerSession) (npcObjectId : Nat) (aggro : Int)
    : Handled :=
  host.applyNpcRequest env session npcObjectId fun npc requester =>
    npc.applyAuthorityRequest requester aggro

/-- An NPC attacks the player who drives it, or misses. -/
def handleC2DReportNpcAttack (env : Environment) (host : RoomHost) (sessionId : Nat)
    (session : PlayerSession) (pkt : C2DReportNpcAttack)
    : Handled :=
  match resolveHostileNpcRequest host.room session pkt.objectId with
  | none => (host, false)
  | some (objectId, npc) =>
      if !npc.isAuthority objectId then (host, false)
      else if pkt.hitObjectId ≠ PLAYER_OBJECT_ID_SENTINEL ∧ pkt.hitObjectId ≠ objectId then
        (host, false)
      else
        let attackerObjectId := npc.base.objectId
        let host :=
          match host.room.findPlayerObject pkt.hitObjectId with
          | none => host
          | some player =>
              if pkt.hitObjectId = PLAYER_OBJECT_ID_SENTINEL ∨ !player.combat.isAlive then
                host
              else
                let combat := player.combat.takeDamage npc.attackDamage attackerObjectId
                let host := host.modifyRoom
                  (·.modifyPlayerObject pkt.hitObjectId ({ · with combat }))
                let host := host.send env sessionId
                  (.notifyHealthChange combat.currentHp combat.currentShield .npcAttack
                    attackerObjectId)
                if combat.isAlive then host
                else
                  let notifyRSeq := host.lastSentRSeq sessionId
                  host.modifySession sessionId ({ · with leaveNotifyRSeq := notifyRSeq })
        (host.broadcastExcept env (.broadcastNpcAttack attackerObjectId pkt.hitPoint)
          (some sessionId), true)

-----------------------------------------------------------------------------------------
-- Dispatch
-----------------------------------------------------------------------------------------

/-- The table `GClientPacketHandler`. -/
def dispatch (env : Environment) (host : RoomHost) (sessionId : Nat)
    (session : PlayerSession) (clientAddr : SockAddr)
    : C2DPacket → Handled
  | .channelOpen echo => host.handleC2DChannelOpen env sessionId session clientAddr echo
  | .heartBeat => host.handleC2DHeartBeat env sessionId session
  | .requestBlueprint => host.handleC2DRequestBlueprint env sessionId session
  | .requestSpawnMe => host.handleC2DRequestSpawnMe env sessionId session
  | .requestSpawnByObjectId objectId =>
      host.handleC2DRequestSpawnByObjectId env sessionId session objectId
  | .updatePlayerState state npcStates =>
      host.handleC2DUpdatePlayerState session state npcStates
  | .requestSpawnPlayerObjects =>
      host.handleC2DRequestSpawnPlayerObjects env sessionId session
  | .notifyLoadingComplete => host.handleC2DNotifyLoadingComplete sessionId session
  | .requestOpenContainer containerId =>
      host.handleC2DRequestOpenContainer env sessionId session containerId
  | .closeContainer => host.handleC2DCloseContainer sessionId session
  | .requestInteractContainerObject pkt =>
      host.handleC2DRequestInteractContainerObject env sessionId session pkt
  | .requestEquipItem pkt => host.handleC2DRequestEquipItem env sessionId session pkt
  | .requestRecentInventoryInfo objectId =>
      host.handleC2DRequestRecentInventoryInfo env sessionId session objectId
  | .requestSwitchWeapon targetSlot version =>
      host.handleC2DRequestSwitchWeapon env sessionId session targetSlot version
  | .requestWeaponFire pkt => host.handleC2DRequestWeaponFire env sessionId session pkt
  | .requestRecall spotIndex => host.handleC2DRequestRecall env sessionId session spotIndex
  | .requestReload version => host.handleC2DRequestReload env sessionId session version
  | .notifyReloadSequence sequenceNum =>
      host.handleC2DNotifyReloadSequence env sessionId session sequenceNum
  | .requestNpcAggro objectId aggro =>
      host.handleC2DRequestNpcAggro env session objectId aggro
  | .requestNpcAuthority objectId aggro =>
      host.handleC2DRequestNpcAuthority env session objectId aggro
  | .reportNpcAttack pkt => host.handleC2DReportNpcAttack env sessionId session pkt

/-- Record a datagram in the channel of a session: the sequence filter and the
acknowledgement. The result is whether the datagram is new.
-/
def receive (env : Environment) (host : RoomHost) (sessionId : Nat) (header : UDPHeader)
    : RoomHost × Bool :=
  let (host, now) := host.now env
  let (channel, fresh) := (host.wire.channels sessionId).receive header (nowMs now)
  (host.modifyChannel sessionId fun _ => channel, fresh)

/-- `HandleClientPacket` for a datagram whose signature is right. -/
def handleClientPacket (env : Environment) (host : RoomHost) (sessionId : Nat)
    (header : UDPHeader) (clientAddr : SockAddr) (pkt : C2DPacket)
    : Handled :=
  match host.room.playerSessions.lookup sessionId with
  | none => (host, false)
  | some session =>
      let (host, fresh) := host.receive env sessionId header
      if !fresh then (host, false)
      else host.dispatch env sessionId session clientAddr pkt

-----------------------------------------------------------------------------------------
-- Runs
-----------------------------------------------------------------------------------------

/-- One turn of the process that concerns the room. -/
inductive Action where
  | packet (sessionId : Nat) (header : UDPHeader) (clientAddr : SockAddr) (pkt : C2DPacket)
  | recallTick (index : Nat)
  | processLeaves
  | update
  | updateNpcStates
  | bindClientIp (sessionId : Nat) (addr : BitVec 32)
  | checkRetransmits (sessionId : Nat)

/-- The room after one action. A timer fires when it is due; the source empties its heap in
the order of time, and any order is allowed here.
-/
def next (env : Environment) (host : RoomHost) : Action → Option RoomHost
  | .packet sessionId header clientAddr pkt =>
      some (host.handleClientPacket env sessionId header clientAddr pkt).1
  | .recallTick index =>
      match host.wire.recallTimers[index]? with
      | none => none
      | some timer =>
          let (host, now) := host.now env
          if now < timer.execAt then none
          else
            let host :=
              { host with
                wire :=
                  { host.wire with recallTimers := host.wire.recallTimers.eraseIdx index } }
            some (host.recallTick env timer)
  | .processLeaves => some (host.processLeaves env)
  | .update => some (host.update env)
  | .updateNpcStates => some (host.updateNpcStates env)
  | .bindClientIp sessionId addr =>
      some (host.modifySession sessionId fun session =>
        { session with clientAddr := { session.clientAddr with addr } })
  | .checkRetransmits sessionId =>
      if (host.room.playerSessions.lookup sessionId).any (·.leaveState == .finalized) then
        some host
      else
        let (host, now) := host.now env
        let (channel, bufs) := (host.wire.channels sessionId).retransmit (nowMs now)
        some
          { host with
            wire :=
              { host.wire with
                channels := Function.update host.wire.channels sessionId channel
                sent := host.wire.sent ++ bufs } }

end RoomHost

end ExtractionServer.Room
