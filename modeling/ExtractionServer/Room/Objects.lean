import ExtractionServer.Room.Inventory

/-! The objects of a room: containers, hostile NPCs and player objects, with their combat
and authority rules. Floats appear only as bit patterns.
-/

namespace ExtractionServer.Room

-----------------------------------------------------------------------------------------
-- Placement
-----------------------------------------------------------------------------------------

/-- Three floats, each as its 32 bits. -/
structure Vector3 where
  x : BitVec 32 := 0
  y : BitVec 32 := 0
  z : BitVec 32 := 0
deriving DecidableEq, Repr

inductive ObjectType where
  | none
  | player
  | testItemBox
  | playerLoot
  | tenerifeBlueCar
  | tenerifeYellowCar
  | tenerifeBrownCar
  | tenerifeRedCar
  | tenerifeBus
  | turret
deriving DecidableEq, Repr

def ObjectType.name : ObjectType → String
  | .none => "None"
  | .player => "Player"
  | .testItemBox => "TestItemBox"
  | .playerLoot => "PlayerLoot"
  | .tenerifeBlueCar => "TenerifeBlueCar"
  | .tenerifeYellowCar => "TenerifeYellowCar"
  | .tenerifeBrownCar => "TenerifeBrownCar"
  | .tenerifeRedCar => "TenerifeRedCar"
  | .tenerifeBus => "TenerifeBus"
  | .turret => "Turret"

/-- The rotation on the wire, a compressed quaternion or a yaw angle. -/
inductive Rotation where
  | compressedQuat (bits : BitVec 32)
  | yawAngle (angle : BitVec 32)
deriving DecidableEq, Repr

structure TransformInfo where
  position : Option Vector3 := none
  rotation : Option Rotation := none
deriving DecidableEq, Repr

structure GameObjectMovementInfo where
  objectId : Nat
  transform : TransformInfo := {}
  state : BitVec 32 := 0
deriving DecidableEq, Repr

/-- The fields every object has. Objects of both maps turn about the vertical axis only
(`IsYFixed`), so they are serialized with their yaw angle; `compressedQuat` is the last
quaternion that a client sent.
-/
structure UnityGameObject where
  objectId : Nat
  objectType : ObjectType
  position : Vector3 := {}
  yawAngle : BitVec 32 := 0
  compressedQuat : BitVec 32 := 0
  state : BitVec 16 := 0
deriving DecidableEq, Repr

namespace UnityGameObject

/-- The movement that `ApplyState` and `ApplyMovementInfo` take over from a client. -/
def applyMovement (object : UnityGameObject) (info : GameObjectMovementInfo)
    : UnityGameObject :=
  let position := info.transform.position.getD object.position
  let state := info.state.setWidth 16
  match info.transform.rotation with
  | some (.compressedQuat bits) => { object with position, state, compressedQuat := bits }
  | some (.yawAngle angle) => { object with position, state, yawAngle := angle }
  | none => { object with position, state }

def transformInfo (object : UnityGameObject) : TransformInfo where
  position := some object.position
  rotation := some (.yawAngle object.yawAngle)

def movementInfo (object : UnityGameObject) : GameObjectMovementInfo where
  objectId := object.objectId
  transform := object.transformInfo
  state := object.state.setWidth 32

end UnityGameObject

-----------------------------------------------------------------------------------------
-- Combat
-----------------------------------------------------------------------------------------

/-- The combat fields of players and NPCs. Points are in hundredths. -/
structure CombatState where
  maxHp : Int
  currentHp : Int
  deathPending : Bool := false
  lastAttackerId : Option Nat := none
  maxShield : Int := 0
  currentShield : Int := 0
  damageReductionRate : Int := 0
  shieldRegenPerSec : Int := 0
  shieldRegenAccum : Int := 0
deriving DecidableEq, Repr

namespace CombatState

def ofMaxHp (maxHp : Int) : CombatState := { maxHp, currentHp := maxHp }

def isAlive (combat : CombatState) : Bool := 0 < combat.currentHp

/-- Changing armor leaves no shield: it has to regenerate. -/
def setShield (combat : CombatState) (maxShield damageReductionRate regenPerSec : Int)
    : CombatState :=
  { combat with
    maxShield, damageReductionRate
    currentShield := 0
    shieldRegenPerSec := regenPerSec
    shieldRegenAccum := 0 }

def chargeShield (combat : CombatState) (amount : Int) : CombatState :=
  let charged := combat.currentShield + amount
  { combat with
    currentShield := if charged > combat.maxShield then combat.maxShield else charged }

/-- Shield points accumulate in thousandths and are paid out whole. -/
def regenShield (combat : CombatState) (elapsedMs : Int) : CombatState :=
  if combat.shieldRegenPerSec ≤ 0 ∨ combat.currentShield ≥ combat.maxShield
      ∨ !combat.isAlive then
    { combat with shieldRegenAccum := 0 }
  else
    let accum := combat.shieldRegenAccum + combat.shieldRegenPerSec * elapsedMs
    let gain := accum.tdiv 1000
    if gain ≤ 0 then { combat with shieldRegenAccum := accum }
    else { combat with shieldRegenAccum := accum - gain * 1000 }.chargeShield gain

/-- Damage that breaks the shield passes to the hit points, otherwise a reduced share. -/
def takeDamage (combat : CombatState) (damage : Int) (attackerObjectId : Nat)
    : CombatState :=
  let shield := combat.currentShield - damage
  let hitPoints :=
    if shield ≤ 0 then combat.currentHp - -shield
    else
      combat.currentHp - (mulInt32 damage (10000 - combat.damageReductionRate)).tdiv 10000
  let combat :=
    { combat with
      lastAttackerId := some attackerObjectId
      currentShield := if shield ≤ 0 then 0 else shield }
  if hitPoints ≤ 0 then { combat with currentHp := 0, deathPending := true }
  else { combat with currentHp := hitPoints }

end CombatState

-----------------------------------------------------------------------------------------
-- Player objects
-----------------------------------------------------------------------------------------

structure PlayerObject where
  base : UnityGameObject
  combat : CombatState
  characterType : Int
  objectName : String
  primaryWeaponId : Nat := 0
  secondaryWeaponId : Nat := 0
  isUsingPrimary : Bool := true
  pitch : BitVec 32 := 0
  velocity : Vector3 := {}
  actionState : BitVec 32 := 0
deriving DecidableEq, Repr

/-- A player's state as clients report it and as the room broadcasts it. -/
structure PlayerState where
  movementInfo : Option GameObjectMovementInfo := none
  pitch : BitVec 32 := 0
  velocity : Option Vector3 := none
  actionState : BitVec 32 := 0
deriving DecidableEq, Repr

namespace PlayerObject

def DEFAULT_MAX_HP : Int := 20000

def create (objectId : Nat) (position : Vector3) (characterType : Int) (objectName : String)
    : PlayerObject where
  base := { objectId, objectType := .player, position }
  combat := .ofMaxHp DEFAULT_MAX_HP
  characterType
  objectName

def applyState (object : PlayerObject) (state : PlayerState) : PlayerObject :=
  match state.movementInfo with
  | none => object
  | some info =>
      { object with
        base := object.base.applyMovement info
        pitch := state.pitch
        velocity := state.velocity.getD {}
        actionState := state.actionState }

def fillState (object : PlayerObject) : PlayerState where
  movementInfo := some object.base.movementInfo
  pitch := object.pitch
  velocity := some object.velocity
  actionState := object.actionState

/-- The hand changes only when the weapon it holds is gone. -/
def setWeapons (object : PlayerObject) (primaryId secondaryId : Nat) : PlayerObject :=
  let isUsingPrimary :=
    if object.isUsingPrimary && primaryId == 0 then secondaryId == 0
    else if !object.isUsingPrimary && secondaryId == 0 then true
    else object.isUsingPrimary
  { object with primaryWeaponId := primaryId, secondaryWeaponId := secondaryId,
                isUsingPrimary }

def currentWeaponId (object : PlayerObject) : Nat :=
  if object.isUsingPrimary then object.primaryWeaponId else object.secondaryWeaponId

def weaponId (object : PlayerObject) (isPrimary : Bool) : Nat :=
  if isPrimary then object.primaryWeaponId else object.secondaryWeaponId

def setArmor (object : PlayerObject) (armorId : Nat) : PlayerObject :=
  match ItemDataManager.getArmorSpec armorId with
  | some spec =>
      { object with
        combat := object.combat.setShield spec.maxShieldPoint spec.damageReductionRate
          spec.regenerationPerSecond }
  | none => { object with combat := object.combat.setShield 0 0 0 }

end PlayerObject

-----------------------------------------------------------------------------------------
-- Containers
-----------------------------------------------------------------------------------------

structure Container where
  base : UnityGameObject
  inventorySlots : List Slot
  nextLootSlot : Nat := 0
  containerVolume : Nat
  containerVersion : BitVec 32 := 0
  interactingPlayerId : Option Nat := none
deriving DecidableEq, Repr

namespace Container

def DEFAULT_CONTAINER_VOLUME : Nat := 30

/-- The holder of a container, if that is not the given player. -/
def otherHolder (container : Container) (playerObjectId : Nat) : Option Nat :=
  container.interactingPlayerId.filter (· != playerObjectId)

/-- `InitializeSlots`: as many empty slots as the volume. -/
def ofVolume (base : UnityGameObject) (slotCount : Nat) : Container where
  base
  inventorySlots := (List.range slotCount).map fun index => { slotIndex := index }
  containerVolume := slotCount

def placeItem (container : Container) (slotIndex blueprintId : Nat) (quantity : Int)
    (instanceUid : Nat)
    : Container × Bool :=
  if container.inventorySlots.length ≤ slotIndex ∨ quantity ≤ 0 then (container, false)
  else
    let slot := container.inventorySlots.getD slotIndex {}
    ({ container with
        inventorySlots :=
          container.inventorySlots.set slotIndex
            (slot.put { blueprintId, instanceUid } quantity) }, true)

/-- Loot that a room's constructor puts into the next free slot. -/
def placeInitialLoot (container : Container) (blueprintId : Nat) (quantity : Int)
    (instanceUid : Nat)
    : Container × Bool :=
  if container.inventorySlots.length ≤ container.nextLootSlot then (container, false)
  else
    let (container, placed) :=
      container.placeItem container.nextLootSlot blueprintId quantity instanceUid
    if placed then ({ container with nextLootSlot := container.nextLootSlot + 1 }, true)
    else (container, false)

end Container

/-- The slots of an inventory in the order in which a loot container takes them. -/
def PlayerInventory.lootOrder (inventory : PlayerInventory) : List Slot :=
  [inventory.primaryWeaponSlot, inventory.primaryWeaponMagazineSlot,
    inventory.secondaryWeaponSlot, inventory.secondaryWeaponMagazineSlot,
    inventory.armorSlot] ++ inventory.inventorySlots.toList

namespace PlayerLootContainer

/-- The lambda of `FillFrom`: place a stack in the next slot, skipping empty ones. -/
def place (filling : Container × Nat) (slot : Slot) : Container × Nat :=
  if slot.isEmpty then filling
  else
    ((filling.1.placeItem filling.2 slot.item.blueprintId slot.quantity
      slot.item.instanceUid).1, filling.2 + 1)

def fillFrom (container : Container) (inventory : PlayerInventory) : Container :=
  (inventory.lootOrder.foldl place (container, 0)).1

def create (objectId : Nat) (position : Vector3) (yawAngle : BitVec 32)
    (inventory : PlayerInventory)
    : Container :=
  fillFrom
    (.ofVolume { objectId, objectType := .playerLoot, position, yawAngle }
      Container.DEFAULT_CONTAINER_VOLUME)
    inventory

end PlayerLootContainer

-----------------------------------------------------------------------------------------
-- Hostile NPCs
-----------------------------------------------------------------------------------------

structure HostileNPC where
  base : UnityGameObject
  combat : CombatState
  minAggro : Int := 1
  maxAggro : Int := 8
  attackDamage : Int
  aggro : Int := 1
  targetId : Option Nat := none
deriving DecidableEq, Repr

namespace HostileNPC

inductive RequestResult where
  | rejected
  | aggroChanged
  | authorityChanged
deriving DecidableEq, Repr

def isServerDriven (npc : HostileNPC) : Bool := npc.targetId.isNone

def isAuthority (npc : HostileNPC) (playerObjectId : Nat) : Bool :=
  npc.targetId == some playerObjectId

def clampAggro (npc : HostileNPC) (aggro : Int) : Int :=
  if aggro < npc.minAggro then npc.minAggro
  else if npc.maxAggro < aggro then npc.maxAggro
  else aggro

/-- The only writer of aggro and target: the least aggro means that nobody has authority. -/
def setAggroInternal (npc : HostileNPC) (aggro : Int) (targetId : Option Nat)
    : HostileNPC :=
  let aggro := npc.clampAggro aggro
  if aggro = npc.minAggro ∨ targetId = none then
    { npc with aggro := npc.minAggro, targetId := none }
  else { npc with aggro, targetId }

def applyAccepted (npc : HostileNPC) (aggro : Int) (requesterObjectId : Nat)
    : HostileNPC × RequestResult :=
  let after := npc.setAggroInternal aggro (some requesterObjectId)
  (after, if after.targetId ≠ npc.targetId then .authorityChanged else .aggroChanged)

def applyAggroRequest (npc : HostileNPC) (requesterObjectId : Nat) (aggro : Int)
    : HostileNPC × RequestResult :=
  if !npc.isAuthority requesterObjectId then (npc, .rejected)
  else npc.applyAccepted aggro requesterObjectId

def applyAuthorityRequest (npc : HostileNPC) (requesterObjectId : Nat) (aggro : Int)
    : HostileNPC × RequestResult :=
  if npc.clampAggro aggro ≤ npc.aggro then (npc, .rejected)
  else npc.applyAccepted aggro requesterObjectId

/-- A hit claims the greatest aggro and passes the same gate. -/
def applyDamageAuthority (npc : HostileNPC) (attackerObjectId : Nat)
    : HostileNPC × RequestResult :=
  npc.applyAuthorityRequest attackerObjectId npc.maxAggro

def releaseAuthority (npc : HostileNPC) : HostileNPC × Bool :=
  if npc.isServerDriven then (npc, false)
  else (npc.setAggroInternal npc.minAggro none, true)

def applyMovementInfo (npc : HostileNPC) (info : GameObjectMovementInfo) : HostileNPC :=
  { npc with base := npc.base.applyMovement info }

end HostileNPC

namespace Turret

def DEFAULT_MAX_HP : Int := 30000

def ATTACK_DAMAGE : Int := 1200

def create (objectId : Nat) (position : Vector3) (yawAngle : BitVec 32) : HostileNPC where
  base := { objectId, objectType := .turret, position, yawAngle }
  combat := .ofMaxHp DEFAULT_MAX_HP
  attackDamage := ATTACK_DAMAGE

end Turret

/-- What `_staticObjects` and `_dynamicObjects` hold. -/
inductive NonplayerObject where
  | container (container : Container)
  | hostileNpc (npc : HostileNPC)
deriving DecidableEq, Repr

namespace NonplayerObject

def base : NonplayerObject → UnityGameObject
  | .container box => box.base
  | .hostileNpc npc => npc.base

/-- `dynamic_cast<Container*>`. -/
def asContainer : NonplayerObject → Option Container
  | .container box => some box
  | .hostileNpc _ => none

/-- `dynamic_cast<HostileNPC*>`, the only combat object that is not a player. -/
def asHostileNpc : NonplayerObject → Option HostileNPC
  | .container _ => none
  | .hostileNpc npc => some npc

def getObjectName (object : NonplayerObject) : String := object.base.objectType.name

end NonplayerObject

end ExtractionServer.Room
