import ExtractionServer.Room.Objects

/-! The messages between a client and its room, and those between the dedicated and the main
process about a room.
-/

namespace ExtractionServer.Room

-----------------------------------------------------------------------------------------
-- Requests of a client
-----------------------------------------------------------------------------------------

/-- The inventory or the missing target on the wire (`PLAYER_OBJECT_ID_SENTINEL`). -/
def PLAYER_OBJECT_ID_SENTINEL : Nat := 0xFFFFFFFF

structure C2DRequestInteractContainerObject where
  interactType : Nat
  startObjectId : Nat
  startObjectInventoryVersion : BitVec 32
  startObjectSlotIdx : Nat
  quantity : Int
  endObjectId : Nat
  endObjectInventoryVersion : BitVec 32
  endObjectSlotIdx : Nat
deriving DecidableEq, Repr

structure C2DRequestEquipItem where
  actionType : Nat
  equipmentSlotType : Nat
  objectId : Nat
  objectInventoryVersion : BitVec 32
  objectSlotIdx : Nat
  myInventoryVersion : BitVec 32 := 0
deriving DecidableEq, Repr

structure C2DRequestWeaponFire where
  fireSequence : BitVec 32
  weaponDbid : Nat
  hitPoint : Option Vector3 := none
  hitObjectId : Nat
deriving DecidableEq, Repr

structure C2DReportNpcAttack where
  objectId : Nat
  hitObjectId : Nat
  hitPoint : Option Vector3 := none
deriving DecidableEq, Repr

/-- Every packet for which `ClientPacketHandler::Init` registers a handler. -/
inductive C2DPacket where
  | channelOpen (echo : String)
  | heartBeat
  | requestBlueprint
  | requestSpawnMe
  | requestSpawnByObjectId (objectId : Int)
  | updatePlayerState (state : PlayerState) (npcStates : List GameObjectMovementInfo)
  | requestSpawnPlayerObjects
  | notifyLoadingComplete
  | requestOpenContainer (containerObjectId : Nat)
  | closeContainer
  | requestInteractContainerObject (pkt : C2DRequestInteractContainerObject)
  | requestEquipItem (pkt : C2DRequestEquipItem)
  | requestRecentInventoryInfo (objectId : Nat)
  | requestSwitchWeapon (targetSlot : Nat) (myInventoryVersion : BitVec 32)
  | requestWeaponFire (pkt : C2DRequestWeaponFire)
  | requestRecall (recallSpotIndex : Nat)
  | requestReload (myInventoryVersion : BitVec 32)
  | notifyReloadSequence (sequenceNum : Nat)
  | requestNpcAggro (objectId : Nat) (aggro : Int)
  | requestNpcAuthority (objectId : Nat) (aggro : Int)
  | reportNpcAttack (pkt : C2DReportNpcAttack)
deriving DecidableEq, Repr

-----------------------------------------------------------------------------------------
-- Messages to a client
-----------------------------------------------------------------------------------------

/-- The serialized form of an object. -/
structure UnityGameObjectInfo where
  objectId : Nat
  objectType : ObjectType
  transform : TransformInfo
deriving DecidableEq, Repr

def UnityGameObject.serialize (object : UnityGameObject) : UnityGameObjectInfo where
  objectId := object.objectId
  objectType := object.objectType
  transform := object.transformInfo

structure InventorySlotInfo where
  slotIndex : Int
  item : Item
  itemType : ItemType
  quantity : Int
deriving DecidableEq, Repr

/-- `FillSlotProto`. -/
def Slot.serialize (slot : Slot) : InventorySlotInfo where
  slotIndex := slot.slotIndex
  item := slot.item
  itemType := ItemDataManager.getType slot.item.blueprintId
  quantity := slot.quantity

def Slot.serializeUnlessEmpty (slot : Slot) : Option InventorySlotInfo :=
  if slot.isEmpty then none else some slot.serialize

structure FullInventoryInfo where
  inventoryVersion : BitVec 32
  inventorySlots : List InventorySlotInfo
  primaryWeapon : Option InventorySlotInfo
  secondaryWeapon : Option InventorySlotInfo
  armor : Option InventorySlotInfo
  primaryWeaponMagazine : Option InventorySlotInfo
  secondaryWeaponMagazine : Option InventorySlotInfo
deriving DecidableEq, Repr

def PlayerInventory.serializeFullInventory (inventory : PlayerInventory)
    : FullInventoryInfo where
  inventoryVersion := inventory.inventoryVersion
  inventorySlots := inventory.inventorySlots.toList.filterMap Slot.serializeUnlessEmpty
  primaryWeapon := inventory.primaryWeaponSlot.serializeUnlessEmpty
  secondaryWeapon := inventory.secondaryWeaponSlot.serializeUnlessEmpty
  armor := inventory.armorSlot.serializeUnlessEmpty
  primaryWeaponMagazine := inventory.primaryWeaponMagazineSlot.serializeUnlessEmpty
  secondaryWeaponMagazine := inventory.secondaryWeaponMagazineSlot.serializeUnlessEmpty

structure ContainerInfo where
  containerObjectId : Nat
  containerVersion : BitVec 32
  containerVolume : Nat
  containerSlots : List InventorySlotInfo
deriving DecidableEq, Repr

/-- `SerializeOpenContainer` and `SerializeRecentContainerInfo`. -/
def Container.serialize (container : Container) : ContainerInfo where
  containerObjectId := container.base.objectId
  containerVersion := container.containerVersion
  containerVolume := container.containerVolume
  containerSlots := container.inventorySlots.filterMap Slot.serializeUnlessEmpty

structure SpawnPlayerObjectInfo where
  characterType : Int
  weaponId : Nat
  gameObject : UnityGameObjectInfo
deriving DecidableEq, Repr

def PlayerObject.spawnInfo (object : PlayerObject) : SpawnPlayerObjectInfo where
  characterType := object.characterType
  weaponId := object.currentWeaponId
  gameObject := object.base.serialize

structure WeaponChangedInfo where
  objectId : Nat
  weaponId : Nat
  slot : Nat
  inventoryVersion : BitVec 32
deriving DecidableEq, Repr

structure EquipItemInfo where
  actionType : Nat
  equipmentSlotType : Nat
  objectId : Nat
  objectInventoryVersion : BitVec 32
  objectSlotIdx : Nat
  myInventoryVersion : BitVec 32
  unloadedAmmoSlot : Option InventorySlotInfo
deriving DecidableEq, Repr

inductive HealthChangeReason where
  | unknown
  | weaponHit
  | itemHeal
  | npcAttack
deriving DecidableEq, Repr

inductive RecallResultReason where
  | unknown
  | success
  | outOfZone
  | playerDead
  | sessionLost
  | serverInternal
deriving DecidableEq, Repr

inductive DespawnReason where
  | unknown
  | recalled
  | dead
  | disconnected
deriving DecidableEq, Repr

inductive D2CMessage where
  | responseChannelOpen (echo : String)
  | heartBeat
  | responseBlueprintStaticObjects (index : Nat) (isLast : Bool)
      (objects : List UnityGameObjectInfo)
  | responseSpawnMeSpawnSpot (spawnPoint : Vector3) (characterType : Int) (objectId : Nat)
      (remainingLifeMs : Nat)
  | responseSpawnMeDynamicObjects (index : Nat) (isLast : Bool)
      (objects : List UnityGameObjectInfo)
  | responseSpawnByObjectId (gameObject : UnityGameObjectInfo)
  | spawnPlayerObject (info : SpawnPlayerObjectInfo)
  | spawnPlayerObjects (players : List SpawnPlayerObjectInfo)
  | updatePlayerStates (states : List PlayerState)
  | fullInventorySync (inventory : FullInventoryInfo)
  | responseOpenContainer (container : ContainerInfo)
  | responseInteractContainerObject (response : C2DRequestInteractContainerObject)
  | responseInteractContainerObjectDeny (denyReasonMask : BitVec 32)
  | responseEquipItem (response : EquipItemInfo)
  | responseEquipItemDeny (denyReasonMask : BitVec 32)
  | responseRecentContainerInfo (container : ContainerInfo)
  | broadcastWeaponFire (shooterObjectId : Nat) (hitPoint : Option Vector3)
  | notifyHealthChange (healthPoint shieldPoint : Int) (reason : HealthChangeReason)
      (attackerObjectId : Nat)
  | responseRecall (result : Bool) (recallSpotIndex : Nat)
  | notifyRecallResult (result : Bool) (recallSpotIndex : Nat) (reason : RecallResultReason)
  | despawnPlayerObject (objectId : Nat) (reason : DespawnReason)
  | notifySpawnObject (gameObject : UnityGameObjectInfo)
  | notifyWeaponChanged (info : WeaponChangedInfo)
  | notifyPlayerKilled (victimObjectId : Nat) (killerObjectId : Option Nat)
      (victimObjectName killerObjectName : String)
  | notifyObjectKilled (victimObjectId : Nat) (killerObjectId : Option Nat)
      (killerObjectName : String)
  | responseReload (result : Bool) (denyReasonMask fireSequence : BitVec 32)
      (inventory : FullInventoryInfo)
  | notifyReloadSequence (sequenceNum objectId : Nat)
  | notifyNpcAuthority (objectId : Nat) (authorityPlayerId : Option Nat) (aggro : Int)
  | broadcastNpcAttack (attackerObjectId : Nat) (hitPoint : Option Vector3)
  | updateNpcStates (states : List GameObjectMovementInfo)
deriving DecidableEq, Repr

namespace D2CMessage

/-- The packet id and the delivery class that each `MakeD2C…` function passes on. -/
def packet : D2CMessage → BitVec 16 × Bool
  | .responseChannelOpen .. => (1, true)
  | .heartBeat => (3, false)
  | .responseBlueprintStaticObjects .. => (5, true)
  | .responseSpawnMeSpawnSpot .. => (7, true)
  | .responseSpawnMeDynamicObjects .. => (8, true)
  | .responseSpawnByObjectId .. => (10, true)
  | .spawnPlayerObject .. => (13, true)
  | .spawnPlayerObjects .. => (14, true)
  | .updatePlayerStates .. => (15, false)
  | .fullInventorySync .. => (17, true)
  | .responseOpenContainer .. => (19, true)
  | .responseInteractContainerObject .. => (22, true)
  | .responseEquipItem .. => (24, true)
  | .responseInteractContainerObjectDeny .. => (25, true)
  | .responseEquipItemDeny .. => (26, true)
  | .responseRecentContainerInfo .. => (28, true)
  | .broadcastWeaponFire .. => (30, false)
  | .notifyHealthChange .. => (31, true)
  | .responseRecall .. => (33, true)
  | .notifyRecallResult .. => (34, true)
  | .despawnPlayerObject .. => (35, true)
  | .notifySpawnObject .. => (36, true)
  | .notifyWeaponChanged .. => (37, true)
  | .notifyPlayerKilled .. => (40, true)
  | .notifyObjectKilled .. => (41, true)
  | .responseReload .. => (43, true)
  | .notifyReloadSequence .. => (45, false)
  | .notifyNpcAuthority .. => (49, true)
  | .broadcastNpcAttack .. => (50, false)
  | .updateNpcStates .. => (51, false)

def pktId (message : D2CMessage) : BitVec 16 := message.packet.1

def isReliable (message : D2CMessage) : Bool := message.packet.2

end D2CMessage

-----------------------------------------------------------------------------------------
-- Messages between the processes
-----------------------------------------------------------------------------------------

inductive LeaveReason where
  | none
  | recalled
  | dead
  | disconnected
deriving DecidableEq, Repr

/-- `IPC_Protocol::ItemSlot`. -/
structure ItemSlot where
  itemId : Nat
  slotIndex : Int
  quantity : Int
deriving DecidableEq, Repr

/-- A player of `M2DMakeRoomForThisGroup`. -/
structure PlayerInfo where
  ticketId : String
  uid : Int
  userId : String
  rating : Int
  inventoryItems : List ItemSlot
  equipmentItems : List ItemSlot
  characterType : Int
deriving DecidableEq, Repr

structure M2DMakeRoomForThisGroup where
  mapId : Int
  playerInfos : List PlayerInfo
deriving DecidableEq, Repr

structure D2MNotifyPlayerLeft where
  uid : Int
  leaveReason : LeaveReason
  inventorySlots : List ItemSlot := []
  equipmentSlots : List ItemSlot := []
deriving DecidableEq, Repr

/-- The entry of one slot in a leave notice, nothing for an empty slot. -/
def ItemSlot.ofSlot (slotIndex : Int) (slot : Slot) : Option ItemSlot :=
  if slot.isEmpty then none
  else some { itemId := slot.item.blueprintId, slotIndex, quantity := slot.quantity }

/-- `SerializeInventoryForIPC`, the inventory part. -/
def PlayerInventory.ipcInventorySlots (inventory : PlayerInventory) : List ItemSlot :=
  (List.finRange INVENTORY_SLOT_COUNT).filterMap fun index =>
    ItemSlot.ofSlot (index.val : Int) inventory.inventorySlots[index]

/-- `SerializeInventoryForIPC`, the equipment part. Magazines have no slot in the database
and are left out.
-/
def PlayerInventory.ipcEquipmentSlots (inventory : PlayerInventory) : List ItemSlot :=
  [ItemSlot.ofSlot 0 inventory.primaryWeaponSlot,
    ItemSlot.ofSlot 1 inventory.secondaryWeaponSlot,
    ItemSlot.ofSlot 2 inventory.armorSlot].reduceOption

end ExtractionServer.Room
