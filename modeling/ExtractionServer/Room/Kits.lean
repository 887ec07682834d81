import ExtractionServer.Room.Effects
import ExtractionServer.Room.InventoryRuns
import ExtractionServer.Room.RoomRuns

/-! Who carries what: the inventories of the sessions and the gear that their player objects
show, with the few ways in which either changes. What a room does to them besides is nothing.
-/

namespace ExtractionServer.Room

open Transport

-----------------------------------------------------------------------------------------
-- Packs and gear
-----------------------------------------------------------------------------------------

/-- What a session carries, for which object, the shot it expects next, and whether it has
left.
-/
@[ext] structure Pack where
  inventory : PlayerInventory
  objectId : Option Nat
  fireSequence : BitVec 32
  isDetached : Bool

/-- The weapons and the armor of a player object. -/
@[ext] structure Gear where
  primaryWeaponId : Nat
  secondaryWeaponId : Nat
  isUsingPrimary : Bool
  maxShield : Int
  damageReductionRate : Int
  shieldRegenPerSec : Int

def PlayerSession.pack (session : PlayerSession) : Pack where
  inventory := session.inventory
  objectId := session.objectId
  fireSequence := session.fireSequence
  isDetached := session.isDetached

def PlayerObject.gear (object : PlayerObject) : Gear where
  primaryWeaponId := object.primaryWeaponId
  secondaryWeaponId := object.secondaryWeaponId
  isUsingPrimary := object.isUsingPrimary
  maxShield := object.combat.maxShield
  damageReductionRate := object.combat.damageReductionRate
  shieldRegenPerSec := object.combat.shieldRegenPerSec

/-- The packs by session and the gear by object. -/
@[ext] structure Kit where
  packs : Nat → Option Pack
  gears : Nat → Option Gear

def GameRoom.kit (room : GameRoom) : Kit where
  packs sessionId := (room.playerSessions.lookup sessionId).map PlayerSession.pack
  gears objectId := (room.findPlayerObject objectId).map PlayerObject.gear

namespace Kit

def setPack (kit : Kit) (sessionId : Nat) (pack : Pack) : Kit :=
  { kit with packs := Function.update kit.packs sessionId (some pack) }

def setGear (kit : Kit) (objectId : Nat) (gear : Gear) : Kit :=
  { kit with gears := Function.update kit.gears objectId (some gear) }

variable (kit : Kit)

@[simp] theorem packs_setPack_self (sessionId : Nat) (pack : Pack)
    : (kit.setPack sessionId pack).packs sessionId = some pack := Function.update_self ..

theorem packs_setPack_ne {sessionId other : Nat} (ne : other ≠ sessionId) (pack : Pack)
    : (kit.setPack sessionId pack).packs other = kit.packs other :=
  Function.update_of_ne ne ..

/-- What a kit holds after a pack was set is that pack or an old one. -/
theorem packs_setPack_cases {sessionId other : Nat} {pack found : Pack}
    (held : (kit.setPack sessionId pack).packs other = some found)
    : other = sessionId ∧ found = pack
      ∨ other ≠ sessionId ∧ kit.packs other = some found := by
  by_cases same : other = sessionId
  · subst same
    rw [packs_setPack_self] at held
    exact .inl ⟨rfl, (Option.some.inj held).symm⟩
  · rw [packs_setPack_ne _ same] at held
    exact .inr ⟨same, held⟩

@[simp] theorem gears_setPack (sessionId : Nat) (pack : Pack)
    : (kit.setPack sessionId pack).gears = kit.gears := rfl

@[simp] theorem gears_setGear_self (objectId : Nat) (gear : Gear)
    : (kit.setGear objectId gear).gears objectId = some gear := Function.update_self ..

theorem gears_setGear_ne {objectId other : Nat} (ne : other ≠ objectId) (gear : Gear)
    : (kit.setGear objectId gear).gears other = kit.gears other :=
  Function.update_of_ne ne ..

@[simp] theorem packs_setGear (objectId : Nat) (gear : Gear)
    : (kit.setGear objectId gear).packs = kit.packs := rfl

/-- Setting the pack that a session has already changes nothing. -/
theorem setPack_of_held {sessionId : Nat} {pack : Pack}
    (held : kit.packs sessionId = some pack)
    : kit.setPack sessionId pack = kit := by
  unfold setPack
  rw [← held, Function.update_eq_self]

end Kit

-----------------------------------------------------------------------------------------
-- Kits of changed rooms
-----------------------------------------------------------------------------------------

namespace GameRoom

variable {room before after : GameRoom}

theorem kit_modifySession {sessionId : Nat} {session : PlayerSession}
    {f : PlayerSession → PlayerSession}
    (found : room.playerSessions.lookup sessionId = some session)
    : (room.modifySession sessionId f).kit = room.kit.setPack sessionId (f session).pack := by
  refine Kit.ext (funext fun other => ?_) rfl
  by_cases same : other = sessionId
  · subst same
    simp [kit, GameRoom.modifySession, found]
  · rw [Kit.packs_setPack_ne _ same]
    simp [kit, GameRoom.modifySession, Table.lookup_adjust_ne same]

theorem kit_modifySession_same {sessionId : Nat} {f : PlayerSession → PlayerSession}
    (same : ∀ session : PlayerSession, (f session).pack = session.pack)
    : (room.modifySession sessionId f).kit = room.kit := by
  refine Kit.ext (funext fun other => ?_) rfl
  by_cases own : other = sessionId
  · subst own
    cases found : room.playerSessions.lookup other <;>
      simp [kit, GameRoom.modifySession, found, same]
  · simp [kit, GameRoom.modifySession, Table.lookup_adjust_ne own]

theorem kit_modifyPlayerObject {objectId : Nat} {object : PlayerObject}
    {f : PlayerObject → PlayerObject} (found : room.findPlayerObject objectId = some object)
    : (room.modifyPlayerObject objectId f).kit = room.kit.setGear objectId (f object).gear := by
  have stored : room.playerObjects.lookup objectId = some object := found
  refine Kit.ext rfl (funext fun other => ?_)
  by_cases same : other = objectId
  · subst same
    simp [kit, findPlayerObject, modifyPlayerObject, stored]
  · rw [Kit.gears_setGear_ne _ same]
    simp [kit, findPlayerObject, modifyPlayerObject, Table.lookup_adjust_ne same]

theorem kit_modifyPlayerObject_same {objectId : Nat} {f : PlayerObject → PlayerObject}
    (same : ∀ object : PlayerObject, room.findPlayerObject objectId = some object →
      (f object).gear = object.gear)
    : (room.modifyPlayerObject objectId f).kit = room.kit := by
  refine Kit.ext rfl (funext fun other => ?_)
  by_cases own : other = objectId
  · subst own
    cases found : room.playerObjects.lookup other with
    | none => simp [kit, findPlayerObject, modifyPlayerObject, found]
    | some object =>
        simp [kit, findPlayerObject, modifyPlayerObject, found, same object found]
  · simp [kit, findPlayerObject, modifyPlayerObject, Table.lookup_adjust_ne own]

@[simp] theorem kit_modifyNonplayerObject (objectId : Nat)
    (f : NonplayerObject → NonplayerObject)
    : (room.modifyNonplayerObject objectId f).kit = room.kit := by
  unfold modifyNonplayerObject
  split <;> rfl

@[simp] theorem kit_modifyContainer (objectId : Nat) (f : Container → Container)
    : (room.modifyContainer objectId f).kit = room.kit := kit_modifyNonplayerObject _ _

@[simp] theorem kit_modifyHostileNpc (objectId : Nat) (f : HostileNPC → HostileNPC)
    : (room.modifyHostileNpc objectId f).kit = room.kit := kit_modifyNonplayerObject _ _

@[simp] theorem kit_releaseInteractingContainer (sessionId : Nat)
    : (room.releaseInteractingContainer sessionId).kit = room.kit := by
  have closed : (room.modifySession sessionId ({ · with interactingContainerId := none })).kit
      = room.kit := kit_modifySession_same fun _ => rfl
  unfold releaseInteractingContainer
  split
  · rfl
  · dsimp only
    split
    · exact closed
    · split
      · exact closed
      · split
        · exact closed
        · rw [kit_modifyContainer]
          exact closed

/-- A new player object comes with its gear. -/
theorem kit_emplace {object : PlayerObject}
    (fresh : object.base.objectId ∉ room.playerObjects)
    : ({ room with
          playerObjects := room.playerObjects.tryEmplace object.base.objectId object }
        : GameRoom).kit
      = room.kit.setGear object.base.objectId object.gear := by
  refine Kit.ext rfl (funext fun other => ?_)
  by_cases same : other = object.base.objectId
  · subst same
    simp [kit, findPlayerObject, Table.lookup_tryEmplace_fresh fresh]
  · rw [Kit.gears_setGear_ne _ same]
    simp [kit, findPlayerObject, Table.lookup_tryEmplace_ne same]

end GameRoom

-----------------------------------------------------------------------------------------
-- Gear by equipment
-----------------------------------------------------------------------------------------

/-- The shield of an armor: its greatest points, its reduction and its regeneration. -/
def armorShield (armorId : Nat) : Int × Int × Int :=
  match ItemDataManager.getArmorSpec armorId with
  | some spec => (spec.maxShieldPoint, spec.damageReductionRate, spec.regenerationPerSecond)
  | none => (0, 0, 0)

namespace Gear

def currentWeaponId (gear : Gear) : Nat :=
  if gear.isUsingPrimary then gear.primaryWeaponId else gear.secondaryWeaponId

def weaponId (gear : Gear) (isPrimary : Bool) : Nat :=
  if isPrimary then gear.primaryWeaponId else gear.secondaryWeaponId

/-- The hand changes only when the weapon it holds is gone. -/
def rearmed (gear : Gear) (inventory : PlayerInventory) : Gear :=
  let primaryId := inventory.primaryWeaponSlot.item.blueprintId
  let secondaryId := inventory.secondaryWeaponSlot.item.blueprintId
  { gear with
    primaryWeaponId := primaryId
    secondaryWeaponId := secondaryId
    isUsingPrimary :=
      if gear.isUsingPrimary && primaryId == 0 then secondaryId == 0
      else if !gear.isUsingPrimary && secondaryId == 0 then true
      else gear.isUsingPrimary }

def armored (gear : Gear) (inventory : PlayerInventory) : Gear :=
  let shield := armorShield inventory.armorSlot.item.blueprintId
  { gear with
    maxShield := shield.1
    damageReductionRate := shield.2.1
    shieldRegenPerSec := shield.2.2 }

/-- A player object without weapons and armor. -/
def bare : Gear where
  primaryWeaponId := 0
  secondaryWeaponId := 0
  isUsingPrimary := true
  maxShield := 0
  damageReductionRate := 0
  shieldRegenPerSec := 0

/-- What a new player object shows. -/
def issued (inventory : PlayerInventory) : Gear := (bare.rearmed inventory).armored inventory

end Gear

namespace PlayerObject

theorem gear_setArmor (object : PlayerObject) (inventory : PlayerInventory)
    : (object.setArmor inventory.armorSlot.item.blueprintId).gear
      = object.gear.armored inventory := by
  unfold setArmor Gear.armored armorShield
  cases ItemDataManager.getArmorSpec inventory.armorSlot.item.blueprintId <;> rfl

/-- Damage, charging and regeneration change the points of a shield, not the shield. -/
theorem gear_takeDamage (object : PlayerObject) (damage : Int) (attackerObjectId : Nat)
    : ({ object with combat := object.combat.takeDamage damage attackerObjectId }
        : PlayerObject).gear
      = object.gear := by
  unfold CombatState.takeDamage
  dsimp only
  repeat' split
  all_goals rfl

theorem gear_chargeShield (object : PlayerObject) (amount : Int)
    : ({ object with combat := object.combat.chargeShield amount } : PlayerObject).gear
      = object.gear := rfl

theorem gear_regenShield (object : PlayerObject) (elapsedMs : Int)
    : ({ object with combat := object.combat.regenShield elapsedMs } : PlayerObject).gear
      = object.gear := by
  unfold CombatState.regenShield
  split
  · rfl
  · dsimp only
    split <;> rfl

theorem gear_applyState (object : PlayerObject) (state : PlayerState)
    : (object.applyState state).gear = object.gear := by
  unfold applyState
  split <;> rfl

end PlayerObject

end ExtractionServer.Room
