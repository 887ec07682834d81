import Mathlib.Algebra.Group.Nat.Defs
import Mathlib.Data.List.FinRange

/-! Item stacks and the inventory of one player: 25 slots, three equipment slots and the
magazines of both weapons.
-/

namespace ExtractionServer.Room

-----------------------------------------------------------------------------------------
-- Item data
-----------------------------------------------------------------------------------------

inductive ItemType where
  | none
  | weapon
  | armor
  | ammo
  | misc
deriving DecidableEq, Repr

/-- The fields of a weapon that the server reads. -/
structure WeaponSpec where
  baseDamage : Int
  maxAmmo : Int
  ammoType : Nat
deriving DecidableEq, Repr

structure ArmorSpec where
  maxShieldPoint : Int
  damageReductionRate : Int
  regenerationPerSecond : Int
deriving DecidableEq, Repr

namespace ItemDataManager

def getType : Nat → ItemType
  | 1 => .weapon
  | 2 => .weapon
  | 3 => .weapon
  | 4 => .armor
  | 5 => .ammo
  | 6 => .ammo
  | 7 => .misc
  | 8 => .armor
  | _ => .none

def getWeaponSpec : Nat → Option WeaponSpec
  | 1 => some { baseDamage := 4800, maxAmmo := 30, ammoType := 6 }
  | 2 => some { baseDamage := 4000, maxAmmo := 30, ammoType := 5 }
  | 3 => some { baseDamage := 4200, maxAmmo := 30, ammoType := 5 }
  | _ => none

def getArmorSpec : Nat → Option ArmorSpec
  | 4 => some
      { maxShieldPoint := 10000, damageReductionRate := 5000, regenerationPerSecond := 800 }
  | 8 => some
      { maxShieldPoint := 16000, damageReductionRate := 5000, regenerationPerSecond := 800 }
  | _ => none

end ItemDataManager

/-- The bits of a refused item request. -/
def DENY_VERSION_MISMATCH : BitVec 32 := 0x0001#32
def DENY_SLOT_EMPTY : BitVec 32 := 0x0002#32
def DENY_SLOT_NOT_EMPTY : BitVec 32 := 0x0004#32
def DENY_SLOT_ALREADY_EMPTY : BitVec 32 := 0x0008#32
def DENY_INVALID_QUANTITY : BitVec 32 := 0x0010#32
def DENY_BLUEPRINT_MISMATCH : BitVec 32 := 0x0020#32
def DENY_ITEM_TYPE_MISMATCH : BitVec 32 := 0x0040#32
def DENY_BARE_HANDED : BitVec 32 := 0x0080#32
def DENY_SERVER_INTERNAL : BitVec 32 := 0x0200#32
def DENY_CONTAINER_NOT_OPEN : BitVec 32 := 0x0400#32
def DENY_OUT_OF_RANGE : BitVec 32 := 0x0800#32

-----------------------------------------------------------------------------------------
-- Slots
-----------------------------------------------------------------------------------------

/-- Addition of `int32_t` quantities, which wraps at 32 bits. -/
def addInt32 (a b : Int) : Int := (a + b).bmod (2 ^ 32)

/-- Multiplication of `int32_t` numbers, which wraps in the same way. -/
def mulInt32 (a b : Int) : Int := (a * b).bmod (2 ^ 32)

structure Item where
  instanceUid : Nat := 0
  blueprintId : Nat := 0
deriving DecidableEq, Repr

structure Slot where
  item : Item := {}
  slotIndex : Int := -1
  quantity : Int := 0
deriving DecidableEq, Repr

namespace Slot

def isEmpty (slot : Slot) : Bool :=
  slot.quantity ≤ 0 && slot.item.blueprintId == 0

def clear (slot : Slot) : Slot :=
  { slot with item := {}, quantity := 0 }

/-- Put a stack into a slot, which keeps its index. -/
def put (slot : Slot) (item : Item) (quantity : Int) : Slot :=
  { slot with item, quantity }

/-- Take some of a stack and clear the slot when nothing is left. -/
def take (slot : Slot) (quantity : Int) : Slot :=
  let left := { slot with quantity := slot.quantity - quantity }
  if left.quantity ≤ 0 then left.clear else left

end Slot

-----------------------------------------------------------------------------------------
-- The inventory of one player
-----------------------------------------------------------------------------------------

def INVENTORY_SLOT_COUNT : Nat := 25

/-- An index into the inventory slots. -/
abbrev SlotIndex := Fin INVENTORY_SLOT_COUNT

structure PlayerInventory where
  primaryWeaponSlot : Slot := {}
  secondaryWeaponSlot : Slot := {}
  armorSlot : Slot := {}
  primaryWeaponMagazineSlot : Slot := {}
  secondaryWeaponMagazineSlot : Slot := {}
  inventorySlots : Vector Slot INVENTORY_SLOT_COUNT
  inventoryVersion : BitVec 32 := 0
  firstEmptySlotIndex : Option SlotIndex := none
deriving DecidableEq, Repr

namespace PlayerInventory

def weaponSlot (inventory : PlayerInventory) (isPrimary : Bool) : Slot :=
  if isPrimary then inventory.primaryWeaponSlot else inventory.secondaryWeaponSlot

def setWeaponSlot (inventory : PlayerInventory) (isPrimary : Bool) (slot : Slot)
    : PlayerInventory :=
  if isPrimary then { inventory with primaryWeaponSlot := slot }
  else { inventory with secondaryWeaponSlot := slot }

def magazineSlot (inventory : PlayerInventory) (isPrimary : Bool) : Slot :=
  if isPrimary then inventory.primaryWeaponMagazineSlot
  else inventory.secondaryWeaponMagazineSlot

def setMagazineSlot (inventory : PlayerInventory) (isPrimary : Bool) (slot : Slot)
    : PlayerInventory :=
  if isPrimary then { inventory with primaryWeaponMagazineSlot := slot }
  else { inventory with secondaryWeaponMagazineSlot := slot }

def setSlot (inventory : PlayerInventory) (index : SlotIndex) (slot : Slot)
    : PlayerInventory :=
  { inventory with inventorySlots := inventory.inventorySlots.set index slot }

def incrementInventoryVersion (inventory : PlayerInventory) : PlayerInventory :=
  { inventory with inventoryVersion := inventory.inventoryVersion + 1 }

def updateFirstEmptySlotIndex (inventory : PlayerInventory) : PlayerInventory :=
  { inventory with
    firstEmptySlotIndex :=
      (List.finRange INVENTORY_SLOT_COUNT).find? fun index =>
        inventory.inventorySlots[index].isEmpty }

/-- The variables of the loop that loads a magazine. -/
structure Loading where
  slots : Vector Slot INVENTORY_SLOT_COUNT
  magazine : Slot
  remaining : Int
  changed : Bool := false
deriving DecidableEq, Repr

/-- One iteration of the loop of `LoadMagazineFromInventory`; the loop ends once the
magazine is full.
-/
def Loading.visit (ammoType : Nat) (loading : Loading) (index : SlotIndex) : Loading :=
  if loading.remaining ≤ 0 then loading
  else
    let invSlot := loading.slots[index]
    if invSlot.isEmpty || invSlot.item.blueprintId != ammoType then loading
    else
      let take := min invSlot.quantity loading.remaining
      let magazine :=
        if loading.magazine.isEmpty then loading.magazine.put invSlot.item take
        else
          { loading.magazine with quantity := addInt32 loading.magazine.quantity take }
      { slots := loading.slots.set index (invSlot.take take)
        magazine
        remaining := loading.remaining - take
        changed := true }

/-- An iteration has nothing to fill or nothing to take, or it notes that it has changed
something.
-/
theorem Loading.visit_cases (ammoType : Nat) (loading : Loading) (index : SlotIndex)
    : loading.visit ammoType index = loading
        ∧ (loading.remaining ≤ 0 ∨ loading.slots[index].isEmpty = true
          ∨ loading.slots[index].item.blueprintId ≠ ammoType)
      ∨ (loading.visit ammoType index).changed = true
        ∧ 0 < loading.remaining ∧ loading.slots[index].isEmpty = false
        ∧ loading.slots[index].item.blueprintId = ammoType := by
  unfold visit
  by_cases full : loading.remaining ≤ 0
  · rw [if_pos full]
    exact .inl ⟨rfl, .inl full⟩
  · rw [if_neg full]
    dsimp only
    split
    · next other =>
        rw [Bool.or_eq_true, bne_iff_ne] at other
        exact .inl ⟨rfl, .inr other⟩
    · next same =>
        rw [Bool.or_eq_true, bne_iff_ne, not_or, not_not] at same
        exact .inr ⟨rfl, Int.not_le.mp full, Bool.eq_false_of_not_eq_true same.1, same.2⟩

/-- The loop moves nothing, or it notes that it has changed something, by induction on the
slots.
-/
theorem Loading.foldl_changed (ammoType : Nat) (indices : List SlotIndex) (loading : Loading)
    : indices.foldl (Loading.visit ammoType) loading = loading
      ∨ (indices.foldl (Loading.visit ammoType) loading).changed = true := by
  induction indices generalizing loading with
  | nil => exact .inl rfl
  | cons index rest ih =>
      rw [List.foldl_cons]
      rcases loading.visit_cases ammoType index with ⟨same, -⟩ | ⟨changed, -⟩
      · rw [same]
        exact ih loading
      · rcases ih (loading.visit ammoType index) with same | later
        · rw [same]
          exact .inr changed
        · exact .inr later

def loadMagazineFromInventory (inventory : PlayerInventory) (isPrimary : Bool)
    : PlayerInventory :=
  let weaponSlot := inventory.weaponSlot isPrimary
  if weaponSlot.isEmpty then inventory
  else
    match ItemDataManager.getWeaponSpec weaponSlot.item.blueprintId with
    | none => inventory
    | some spec =>
        let magazineSlot := inventory.magazineSlot isPrimary
        let remaining := spec.maxAmmo - magazineSlot.quantity
        if remaining ≤ 0 then inventory
        else
          let loading :=
            (List.finRange INVENTORY_SLOT_COUNT).foldl (Loading.visit spec.ammoType)
              { slots := inventory.inventorySlots, magazine := magazineSlot, remaining }
          let inventory :=
            { inventory with inventorySlots := loading.slots }.setMagazineSlot isPrimary
              loading.magazine
          if loading.changed then
            inventory.updateFirstEmptySlotIndex.incrementInventoryVersion
          else inventory

/-- The constructor: place the given stacks by their index, then load both magazines. -/
def ofSlots (inventorySlots equipmentSlots : List Slot) : PlayerInventory :=
  let empty : Vector Slot INVENTORY_SLOT_COUNT :=
    Vector.ofFn fun index => { slotIndex := (index.val : Int) }
  let place (slots : Vector Slot INVENTORY_SLOT_COUNT) (slot : Slot) :=
    if inRange : 0 ≤ slot.slotIndex ∧ slot.slotIndex < (INVENTORY_SLOT_COUNT : Int) then
      slots.set slot.slotIndex.toNat slot (by omega)
    else slots
  let equip (inventory : PlayerInventory) (slot : Slot) :=
    if slot.slotIndex = 0 then { inventory with primaryWeaponSlot := slot }
    else if slot.slotIndex = 1 then { inventory with secondaryWeaponSlot := slot }
    else if slot.slotIndex = 2 then { inventory with armorSlot := slot }
    else inventory
  let inventory := { inventorySlots := inventorySlots.foldl place empty : PlayerInventory }
  let inventory := equipmentSlots.foldl equip inventory
  ((inventory.loadMagazineFromInventory true).loadMagazineFromInventory
    false).updateFirstEmptySlotIndex

/-- Reload the magazine of one weapon; the version tells whether anything moved. -/
def reloadMagazine (inventory : PlayerInventory) (isPrimary : Bool)
    : PlayerInventory × Bool :=
  let versionBefore := inventory.inventoryVersion
  let inventory := inventory.loadMagazineFromInventory isPrimary
  (inventory, inventory.inventoryVersion != versionBefore)

/-- The first slot that already holds the magazine's ammunition. -/
def sameAmmoSlot (inventory : PlayerInventory) (isPrimary : Bool) : Option SlotIndex :=
  (List.finRange INVENTORY_SLOT_COUNT).find? fun index =>
    !inventory.inventorySlots[index].isEmpty
      && inventory.inventorySlots[index].item.blueprintId
        == (inventory.magazineSlot isPrimary).item.blueprintId

/-- Move a magazine back into the inventory, and return the slot that received it. Rounds
that fit nowhere are discarded; every path of the source reports success.
-/
def unloadMagazineToInventory (inventory : PlayerInventory) (isPrimary : Bool)
    : PlayerInventory × Option SlotIndex :=
  let magSlot := inventory.magazineSlot isPrimary
  if magSlot.isEmpty then (inventory, none)
  else
    match inventory.sameAmmoSlot isPrimary with
    | some index =>
        let slot := inventory.inventorySlots[index]
        let merged := { slot with quantity := addInt32 slot.quantity magSlot.quantity }
        ((inventory.setSlot index merged).setMagazineSlot isPrimary magSlot.clear,
          some index)
    | none =>
        match inventory.firstEmptySlotIndex with
        | none => (inventory.setMagazineSlot isPrimary magSlot.clear, none)
        | some index =>
            let moved := inventory.inventorySlots[index].put magSlot.item magSlot.quantity
            (((inventory.setSlot index moved).setMagazineSlot isPrimary
              magSlot.clear).updateFirstEmptySlotIndex, some index)

/-- Empty the inventory, the equipment and the magazines. -/
def clear (inventory : PlayerInventory) : PlayerInventory :=
  { inventory with
    primaryWeaponSlot := inventory.primaryWeaponSlot.clear
    secondaryWeaponSlot := inventory.secondaryWeaponSlot.clear
    armorSlot := inventory.armorSlot.clear
    primaryWeaponMagazineSlot := inventory.primaryWeaponMagazineSlot.clear
    secondaryWeaponMagazineSlot := inventory.secondaryWeaponMagazineSlot.clear
    inventorySlots := inventory.inventorySlots.map Slot.clear
  }.incrementInventoryVersion.updateFirstEmptySlotIndex

end PlayerInventory

-----------------------------------------------------------------------------------------
-- Slots that a request can reach
-----------------------------------------------------------------------------------------

/-- A `Slot*`: into the player's inventory or into the opened container. -/
inductive SlotRef where
  | inventory (index : SlotIndex)
  | container (index : Nat)
deriving DecidableEq, Repr

/-- What slot pointers of one request can point into. Reading through a reference after a
write sees the write, so pointers that alias behave as in the source.
-/
structure SlotStore where
  inventory : PlayerInventory
  container : List Slot := []
deriving DecidableEq, Repr

namespace SlotStore

def get (store : SlotStore) : SlotRef → Slot
  | .inventory index => store.inventory.inventorySlots[index]
  | .container index => store.container.getD index {}

def set (store : SlotStore) (ref : SlotRef) (slot : Slot) : SlotStore :=
  match ref with
  | .inventory index => { store with inventory := store.inventory.setSlot index slot }
  | .container index => { store with container := store.container.set index slot }

/-- A request that changed the inventory: refresh the first empty slot, bump the version. -/
def touchInventory (store : SlotStore) : SlotStore :=
  { store with
    inventory := store.inventory.updateFirstEmptySlotIndex.incrementInventoryVersion }

/-- Exchange a weapon slot with a referenced slot; the index of each slot stays. -/
def swapWeapon (store : SlotStore) (ref : SlotRef) (isPrimary : Bool) : SlotStore :=
  let slot := store.get ref
  let weaponSlot := store.inventory.weaponSlot isPrimary
  { store with
    inventory :=
      store.inventory.setWeaponSlot isPrimary (weaponSlot.put slot.item slot.quantity)
  }.set ref (slot.put weaponSlot.item weaponSlot.quantity)

def equipWeaponFromSlot (store : SlotStore) (src : SlotRef) (isPrimary : Bool)
    : Except (BitVec 32) (SlotStore × Option SlotIndex) :=
  let srcSlot := store.get src
  if srcSlot.isEmpty then .error DENY_SLOT_EMPTY
  else if ItemDataManager.getType srcSlot.item.blueprintId ≠ .weapon then
    .error DENY_ITEM_TYPE_MISMATCH
  else
    let (inventory, unloadedSlotIdx) :=
      store.inventory.unloadMagazineToInventory isPrimary
    let store := { store with inventory }
    let srcSlot := store.get src
    let weaponSlot := store.inventory.weaponSlot isPrimary
    let store :=
      if weaponSlot.isEmpty then
        { store with
          inventory :=
            store.inventory.setWeaponSlot isPrimary
              (weaponSlot.put srcSlot.item srcSlot.quantity)
        }.set src srcSlot.clear
      else store.swapWeapon src isPrimary
    .ok (store.touchInventory, unloadedSlotIdx)

/-- Moving the weapon comes before unloading its magazine, which would otherwise take the
slot chosen for the weapon.
-/
def unequipWeaponToSlot (store : SlotStore) (dst : SlotRef) (isPrimary : Bool)
    : Except (BitVec 32) (SlotStore × Option SlotIndex) :=
  let weaponSlot := store.inventory.weaponSlot isPrimary
  let dstSlot := store.get dst
  if weaponSlot.isEmpty then .error DENY_SLOT_EMPTY
  else if dstSlot.isEmpty ∧ (store.inventory.weaponSlot (!isPrimary)).isEmpty then
    .error DENY_BARE_HANDED
  else if ¬dstSlot.isEmpty
      ∧ ItemDataManager.getType dstSlot.item.blueprintId ≠ .weapon then
    .error DENY_ITEM_TYPE_MISMATCH
  else
    let store :=
      if dstSlot.isEmpty then
        { store with
          inventory := store.inventory.setWeaponSlot isPrimary weaponSlot.clear
        }.set dst (dstSlot.put weaponSlot.item weaponSlot.quantity)
      else store.swapWeapon dst isPrimary
    let (inventory, unloadedSlotIdx) :=
      store.inventory.updateFirstEmptySlotIndex.unloadMagazineToInventory isPrimary
    .ok ({ store with inventory := inventory.incrementInventoryVersion }, unloadedSlotIdx)

/-- Exchange the armor slot with a referenced slot. -/
def swapArmor (store : SlotStore) (ref : SlotRef) : SlotStore :=
  let slot := store.get ref
  let armorSlot := store.inventory.armorSlot
  { store with
    inventory :=
      { store.inventory with armorSlot := armorSlot.put slot.item slot.quantity }
  }.set ref (slot.put armorSlot.item armorSlot.quantity)

def equipArmorFromSlot (store : SlotStore) (src : SlotRef)
    : Except (BitVec 32) (SlotStore × Option SlotIndex) :=
  let srcSlot := store.get src
  let armorSlot := store.inventory.armorSlot
  if srcSlot.isEmpty then .error DENY_SLOT_EMPTY
  else if ItemDataManager.getType srcSlot.item.blueprintId ≠ .armor then
    .error DENY_ITEM_TYPE_MISMATCH
  else
    let store :=
      if armorSlot.isEmpty then
        { store with
          inventory :=
            { store.inventory with
              armorSlot := armorSlot.put srcSlot.item srcSlot.quantity }
        }.set src srcSlot.clear
      else store.swapArmor src
    .ok (store.touchInventory, none)

def unequipArmorToSlot (store : SlotStore) (dst : SlotRef)
    : Except (BitVec 32) (SlotStore × Option SlotIndex) :=
  let armorSlot := store.inventory.armorSlot
  let dstSlot := store.get dst
  if armorSlot.isEmpty then .error DENY_SLOT_EMPTY
  else if ¬dstSlot.isEmpty
      ∧ ItemDataManager.getType dstSlot.item.blueprintId ≠ .armor then
    .error DENY_ITEM_TYPE_MISMATCH
  else
    let store :=
      if dstSlot.isEmpty then
        { store with inventory := { store.inventory with armorSlot := armorSlot.clear }
        }.set dst (dstSlot.put armorSlot.item armorSlot.quantity)
      else store.swapArmor dst
    .ok (store.touchInventory, none)

/-- The three ways in which a container request moves a stack: `get`, `swap`, `merge`. -/
def interact (store : SlotStore) (interactType : Nat) (startRef endRef : SlotRef)
    (quantity : Int)
    : Except (BitVec 32) SlotStore :=
  let startSlot := store.get startRef
  let endSlot := store.get endRef
  match interactType with
  | 0 =>
      if ¬endSlot.isEmpty then .error DENY_SLOT_NOT_EMPTY
      else if quantity ≤ 0 ∨ quantity > startSlot.quantity then
        .error DENY_INVALID_QUANTITY
      else
        .ok ((store.set endRef (endSlot.put startSlot.item quantity)).set startRef
          (startSlot.take quantity))
  | 1 =>
      if endSlot.isEmpty then .error DENY_SLOT_ALREADY_EMPTY
      else
        .ok ((store.set startRef (startSlot.put endSlot.item endSlot.quantity)).set endRef
          (endSlot.put startSlot.item startSlot.quantity))
  | 2 =>
      if endSlot.isEmpty then .error DENY_SLOT_ALREADY_EMPTY
      else if startSlot.item.blueprintId ≠ endSlot.item.blueprintId then
        .error DENY_BLUEPRINT_MISMATCH
      else if ItemDataManager.getType startSlot.item.blueprintId = .weapon
          ∨ ItemDataManager.getType startSlot.item.blueprintId = .armor then
        .error DENY_ITEM_TYPE_MISMATCH
      else if quantity ≤ 0 ∨ quantity > startSlot.quantity then
        .error DENY_INVALID_QUANTITY
      else
        .ok ((store.set endRef { endSlot with quantity := addInt32 endSlot.quantity quantity }
          ).set startRef (startSlot.take quantity))
  | _ => .error DENY_SERVER_INTERNAL

end SlotStore

end ExtractionServer.Room
