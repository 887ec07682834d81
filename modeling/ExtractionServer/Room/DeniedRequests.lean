import ExtractionServer.Room.InventoryRuns
import ExtractionServer.Room.RoomRuns
import ExtractionServer.Room.VersionChecks

/-! Denied item requests have no effect. The operations on slots are also given as the source
runs them, writing in place, where a refusal would keep what was written before it.
-/

namespace ExtractionServer.Room

open Transport

-----------------------------------------------------------------------------------------
-- Writing in place
-----------------------------------------------------------------------------------------

/-- The refusal of an unequipped weapon whose magazine could not be unloaded. -/
def DENY_MAGAZINE_UNLOAD_FAILED : BitVec 32 := 0x0100#32

/-- Code that writes slots as it goes: when it throws a refusal, the writes before stay. -/
abbrev InPlace := ExceptT (BitVec 32) (StateM SlotStore)

namespace InPlace

/-- Where the code is left, with its result or its refusal. -/
def runOn {α : Type} (code : InPlace α) (store : SlotStore)
    : Except (BitVec 32) α × SlotStore :=
  (code.run.run store : Id _)

/-- `UnloadMagazineToInventory`: whether it succeeds, and the slot that took the rounds. -/
def unloadMagazineToInventory (isPrimary : Bool) : InPlace (Bool × Option SlotIndex) := do
  let store ← get
  let magSlot := store.slotAt (.magazine isPrimary)
  if magSlot.isEmpty then return (true, none)
  match store.inventory.sameAmmoSlot isPrimary with
  | some index =>
      let slot := store.slotAt (.slot (.inventory index))
      modify (·.write (.slot (.inventory index))
        { slot with quantity := addInt32 slot.quantity magSlot.quantity })
      modify (·.write (.magazine isPrimary) magSlot.clear)
      return (true, some index)
  | none =>
      match store.inventory.firstEmptySlotIndex with
      | none =>
          modify (·.write (.magazine isPrimary) magSlot.clear)
          return (true, none)
      | some index =>
          let slot := store.slotAt (.slot (.inventory index))
          modify (·.write (.slot (.inventory index)) (slot.put magSlot.item magSlot.quantity))
          modify (·.write (.magazine isPrimary) magSlot.clear)
          modify fun store =>
            { store with inventory := store.inventory.updateFirstEmptySlotIndex }
          return (true, some index)

/-- `std::swap` of what two places hold. -/
def swapSlots (place other : Place) : InPlace Unit := do
  let slot := (← get).slotAt place
  let otherSlot := (← get).slotAt other
  modify (·.write place (slot.put otherSlot.item otherSlot.quantity))
  modify (·.write other (otherSlot.put slot.item slot.quantity))

/-- Move the stack of one place to another and clear the first. -/
def moveSlot (source target : Place) : InPlace Unit := do
  let slot := (← get).slotAt target
  let sourceSlot := (← get).slotAt source
  modify (·.write target (slot.put sourceSlot.item sourceSlot.quantity))
  modify (·.write source sourceSlot.clear)

def equipWeaponFromSlot (src : SlotRef) (isPrimary : Bool) : InPlace (Option SlotIndex) := do
  let srcSlot := (← get).get src
  if srcSlot.isEmpty then throw DENY_SLOT_EMPTY
  if ItemDataManager.getType srcSlot.item.blueprintId ≠ .weapon then
    throw DENY_ITEM_TYPE_MISMATCH
  let (unloaded, unloadedSlotIdx) ← unloadMagazineToInventory isPrimary
  if !unloaded then throw DENY_MAGAZINE_UNLOAD_FAILED
  if ((← get).slotAt (.weapon isPrimary)).isEmpty then
    moveSlot (.slot src) (.weapon isPrimary)
  else swapSlots (.weapon isPrimary) (.slot src)
  modify SlotStore.touchInventory
  return unloadedSlotIdx

/-- The last refusal stands behind writes. -/
def unequipWeaponToSlot (dst : SlotRef) (isPrimary : Bool) : InPlace (Option SlotIndex) := do
  let store ← get
  if (store.slotAt (.weapon isPrimary)).isEmpty then throw DENY_SLOT_EMPTY
  let dstWasEmpty := (store.get dst).isEmpty
  if dstWasEmpty then
    if (store.slotAt (.weapon !isPrimary)).isEmpty then throw DENY_BARE_HANDED
  else
    if ItemDataManager.getType (store.get dst).item.blueprintId ≠ .weapon then
      throw DENY_ITEM_TYPE_MISMATCH
  if dstWasEmpty then moveSlot (.weapon isPrimary) (.slot dst)
  else swapSlots (.weapon isPrimary) (.slot dst)
  modify fun store => { store with inventory := store.inventory.updateFirstEmptySlotIndex }
  let (unloaded, unloadedSlotIdx) ← unloadMagazineToInventory isPrimary
  if !unloaded then throw DENY_MAGAZINE_UNLOAD_FAILED
  modify fun store => { store with inventory := store.inventory.incrementInventoryVersion }
  return unloadedSlotIdx

def equipArmorFromSlot (src : SlotRef) : InPlace Unit := do
  let srcSlot := (← get).get src
  if srcSlot.isEmpty then throw DENY_SLOT_EMPTY
  if ItemDataManager.getType srcSlot.item.blueprintId ≠ .armor then
    throw DENY_ITEM_TYPE_MISMATCH
  if ((← get).slotAt .armor).isEmpty then moveSlot (.slot src) .armor
  else swapSlots .armor (.slot src)
  modify SlotStore.touchInventory

def unequipArmorToSlot (dst : SlotRef) : InPlace Unit := do
  let store ← get
  if (store.slotAt .armor).isEmpty then throw DENY_SLOT_EMPTY
  if (store.get dst).isEmpty then moveSlot .armor (.slot dst)
  else
    if ItemDataManager.getType (store.get dst).item.blueprintId ≠ .armor then
      throw DENY_ITEM_TYPE_MISMATCH
    swapSlots .armor (.slot dst)
  modify SlotStore.touchInventory

/-- Take `quantity` off a stack and clear the slot when nothing is left. -/
def takeFrom (ref : SlotRef) (quantity : Int) : InPlace Unit := do
  let slot := (← get).get ref
  modify (·.set ref (slot.take quantity))

/-- The cases of the `switch` in `Handle_C2D_RequestInteractContainerObject`. -/
def interactGet (startRef endRef : SlotRef) (quantity : Int) : InPlace Unit := do
  let startSlot := (← get).get startRef
  let endSlot := (← get).get endRef
  if ¬endSlot.isEmpty then throw DENY_SLOT_NOT_EMPTY
  if quantity ≤ 0 ∨ quantity > startSlot.quantity then throw DENY_INVALID_QUANTITY
  modify (·.set endRef (endSlot.put startSlot.item quantity))
  takeFrom startRef quantity

def interactSwap (startRef endRef : SlotRef) : InPlace Unit := do
  if ((← get).get endRef).isEmpty then throw DENY_SLOT_ALREADY_EMPTY
  swapSlots (.slot startRef) (.slot endRef)

def interactMerge (startRef endRef : SlotRef) (quantity : Int) : InPlace Unit := do
  let startSlot := (← get).get startRef
  let endSlot := (← get).get endRef
  if endSlot.isEmpty then throw DENY_SLOT_ALREADY_EMPTY
  if startSlot.item.blueprintId ≠ endSlot.item.blueprintId then
    throw DENY_BLUEPRINT_MISMATCH
  if ItemDataManager.getType startSlot.item.blueprintId = .weapon
      ∨ ItemDataManager.getType startSlot.item.blueprintId = .armor then
    throw DENY_ITEM_TYPE_MISMATCH
  if quantity ≤ 0 ∨ quantity > startSlot.quantity then throw DENY_INVALID_QUANTITY
  modify (·.set endRef { endSlot with quantity := addInt32 endSlot.quantity quantity })
  takeFrom startRef quantity

def interact (interactType : Nat) (startRef endRef : SlotRef) (quantity : Int)
    : InPlace Unit :=
  match interactType with
  | 0 => interactGet startRef endRef quantity
  | 1 => interactSwap startRef endRef
  | 2 => interactMerge startRef endRef quantity
  | _ => throw DENY_SERVER_INTERNAL

-----------------------------------------------------------------------------------------
-- Runs of such code
-----------------------------------------------------------------------------------------

section Running

variable {α β : Type} (store : SlotStore)

@[simp] theorem runOn_pure (value : α) : runOn (pure value) store = (.ok value, store) := rfl

@[simp] theorem runOn_throw (mask : BitVec 32)
    : runOn (throw mask : InPlace α) store = (.error mask, store) := rfl

@[simp] theorem runOn_get : runOn get store = (.ok store, store) := rfl

@[simp] theorem runOn_modify (f : SlotStore → SlotStore)
    : runOn (modify f) store = (.ok ⟨⟩, f store) := rfl

/-- What follows runs where the first part has left the slots. -/
theorem runOn_bind (code : InPlace α) (next : α → InPlace β)
    : runOn (code >>= next) store
      = match runOn code store with
        | (.ok value, left) => runOn (next value) left
        | (.error mask, left) => (.error mask, left) := by
  have steps : runOn (code >>= next) store
      = (ExceptT.bindCont next (runOn code store).1).run (runOn code store).2 := rfl
  rw [steps]
  rcases runOn code store with ⟨result, left⟩
  cases result <;> rfl

end Running

/-- The slots where no refusal has changed them, in terms of an operation that returns them. -/
def settled {α : Type} (store : SlotStore) : Except (BitVec 32) (SlotStore × α)
    → Except (BitVec 32) α × SlotStore
  | .ok (after, value) => (.ok value, after)
  | .error mask => (.error mask, store)

/-- Unloading a magazine always succeeds. -/
theorem unloadMagazineToInventory_runOn (store : SlotStore) (isPrimary : Bool)
    : runOn (unloadMagazineToInventory isPrimary) store
      = (.ok (true, (store.inventory.unloadMagazineToInventory isPrimary).2),
          store.unloaded isPrimary) := by
  unfold unloadMagazineToInventory SlotStore.unloaded PlayerInventory.unloadMagazineToInventory
  rw [runOn_bind, runOn_get]
  dsimp only
  by_cases empty : (store.inventory.magazineSlot isPrimary).isEmpty = true
  · rw [if_pos (show (store.slotAt (.magazine isPrimary)).isEmpty = true from empty),
      if_pos empty]
    rfl
  · rw [if_neg (show ¬(store.slotAt (.magazine isPrimary)).isEmpty = true from empty),
      if_neg empty]
    cases store.inventory.sameAmmoSlot isPrimary with
    | some index => rfl
    | none =>
        cases store.inventory.firstEmptySlotIndex with
        | none => rfl
        | some index => rfl

theorem swapSlots_runOn (store : SlotStore) (place other : Place)
    : runOn (swapSlots place other) store
      = (.ok (),
          (store.write place
            ((store.slotAt place).put (store.slotAt other).item
              (store.slotAt other).quantity)).write other
            ((store.slotAt other).put (store.slotAt place).item
              (store.slotAt place).quantity)) := rfl

theorem moveSlot_runOn (store : SlotStore) (source target : Place)
    : runOn (moveSlot source target) store
      = (.ok (),
          (store.write target
            ((store.slotAt target).put (store.slotAt source).item
              (store.slotAt source).quantity)).write source (store.slotAt source).clear) := rfl

/-- Written in place or not, an operation comes to the same: its refusals precede its writes,
but for the one that is never reached.
-/
theorem equipWeaponFromSlot_runOn (store : SlotStore) (src : SlotRef) (isPrimary : Bool)
    : runOn (equipWeaponFromSlot src isPrimary) store
      = settled store (store.equipWeaponFromSlot src isPrimary) := by
  unfold equipWeaponFromSlot SlotStore.equipWeaponFromSlot
  rw [runOn_bind, runOn_get]
  dsimp only
  by_cases empty : (store.get src).isEmpty = true
  · rw [if_pos empty, if_pos empty]
    rfl
  rw [if_neg empty, if_neg empty]
  by_cases weapon : ItemDataManager.getType (store.get src).item.blueprintId ≠ .weapon
  · rw [if_pos weapon, if_pos weapon]
    rfl
  rw [if_neg weapon, if_neg weapon, runOn_bind, unloadMagazineToInventory_runOn]
  dsimp only
  rw [if_neg (by decide), runOn_bind, runOn_get]
  dsimp only
  by_cases free : ((store.unloaded isPrimary).inventory.weaponSlot isPrimary).isEmpty = true
  · rw [if_pos (show ((store.unloaded isPrimary).slotAt (.weapon isPrimary)).isEmpty = true
        from free),
      if_pos (show ((store.inventory.unloadMagazineToInventory isPrimary).1.weaponSlot
        isPrimary).isEmpty = true from free)]
    rfl
  · rw [if_neg (show ¬((store.unloaded isPrimary).slotAt (.weapon isPrimary)).isEmpty = true
        from free),
      if_neg (show ¬((store.inventory.unloadMagazineToInventory isPrimary).1.weaponSlot
        isPrimary).isEmpty = true from free)]
    rfl

theorem unequipWeaponToSlot_runOn (store : SlotStore) (dst : SlotRef) (isPrimary : Bool)
    : runOn (unequipWeaponToSlot dst isPrimary) store
      = settled store (store.unequipWeaponToSlot dst isPrimary) := by
  unfold unequipWeaponToSlot SlotStore.unequipWeaponToSlot
  rw [runOn_bind, runOn_get]
  dsimp only
  by_cases held : (store.inventory.weaponSlot isPrimary).isEmpty = true
  · rw [if_pos (show (store.slotAt (.weapon isPrimary)).isEmpty = true from held),
      if_pos held]
    rfl
  rw [if_neg (show ¬(store.slotAt (.weapon isPrimary)).isEmpty = true from held),
    if_neg held]
  by_cases empty : (store.get dst).isEmpty = true
  · rw [if_pos empty, if_pos empty]
    by_cases bare : (store.inventory.weaponSlot !isPrimary).isEmpty = true
    · rw [if_pos (show (store.slotAt (.weapon !isPrimary)).isEmpty = true from bare),
        if_pos ⟨empty, bare⟩]
      rfl
    · rw [if_neg (show ¬(store.slotAt (.weapon !isPrimary)).isEmpty = true from bare),
        if_neg fun both => bare both.2,
        if_neg (show ¬(¬(store.get dst).isEmpty = true
          ∧ ItemDataManager.getType (store.get dst).item.blueprintId ≠ .weapon)
          from fun both => both.1 empty), if_pos empty, runOn_bind,
        moveSlot_runOn, SlotStore.write_comm _ (by nofun)]
      dsimp only
      rw [runOn_bind, runOn_modify]
      dsimp only
      rw [runOn_bind, unloadMagazineToInventory_runOn]
      rfl
  · rw [if_neg empty,
      if_neg (show ¬((store.get dst).isEmpty = true
        ∧ (store.inventory.weaponSlot !isPrimary).isEmpty = true) from fun both => empty both.1)]
    by_cases weapon : ItemDataManager.getType (store.get dst).item.blueprintId ≠ .weapon
    · have mismatch : ¬(store.get dst).isEmpty = true
          ∧ ItemDataManager.getType (store.get dst).item.blueprintId ≠ .weapon := ⟨empty, weapon⟩
      rw [if_pos weapon, if_pos mismatch]
      rfl
    · have fits : ¬(¬(store.get dst).isEmpty = true
          ∧ ItemDataManager.getType (store.get dst).item.blueprintId ≠ .weapon) :=
        fun both => weapon both.2
      rw [if_neg weapon, if_neg fits, if_neg empty, if_neg empty, runOn_bind,
        swapSlots_runOn]
      dsimp only
      rw [runOn_bind, runOn_modify]
      dsimp only
      rw [runOn_bind, unloadMagazineToInventory_runOn]
      rfl

theorem equipArmorFromSlot_runOn (store : SlotStore) (src : SlotRef)
    : runOn (equipArmorFromSlot src) store
      = settled store ((store.equipArmorFromSlot src).map fun result => (result.1, ())) := by
  unfold equipArmorFromSlot SlotStore.equipArmorFromSlot
  rw [runOn_bind, runOn_get]
  dsimp only
  by_cases empty : (store.get src).isEmpty = true
  · rw [if_pos empty, if_pos empty]
    rfl
  rw [if_neg empty, if_neg empty]
  by_cases armor : ItemDataManager.getType (store.get src).item.blueprintId ≠ .armor
  · rw [if_pos armor, if_pos armor]
    rfl
  rw [if_neg armor, if_neg armor, runOn_bind, runOn_get]
  dsimp only
  by_cases free : store.inventory.armorSlot.isEmpty = true
  · rw [if_pos (show (store.slotAt .armor).isEmpty = true from free), if_pos free]
    rfl
  · rw [if_neg (show ¬(store.slotAt .armor).isEmpty = true from free), if_neg free]
    rfl

theorem unequipArmorToSlot_runOn (store : SlotStore) (dst : SlotRef)
    : runOn (unequipArmorToSlot dst) store
      = settled store ((store.unequipArmorToSlot dst).map fun result => (result.1, ())) := by
  unfold unequipArmorToSlot SlotStore.unequipArmorToSlot
  rw [runOn_bind, runOn_get]
  dsimp only
  by_cases held : store.inventory.armorSlot.isEmpty = true
  · rw [if_pos (show (store.slotAt .armor).isEmpty = true from held), if_pos held]
    rfl
  rw [if_neg (show ¬(store.slotAt .armor).isEmpty = true from held), if_neg held]
  by_cases empty : (store.get dst).isEmpty = true
  · have fits : ¬(¬(store.get dst).isEmpty = true
        ∧ ItemDataManager.getType (store.get dst).item.blueprintId ≠ .armor) :=
      fun both => both.1 empty
    rw [if_pos empty, if_neg fits, if_pos empty, runOn_bind, moveSlot_runOn,
      SlotStore.write_comm _ (by nofun)]
    rfl
  · rw [if_neg empty]
    by_cases armor : ItemDataManager.getType (store.get dst).item.blueprintId ≠ .armor
    · have mismatch : ¬(store.get dst).isEmpty = true
          ∧ ItemDataManager.getType (store.get dst).item.blueprintId ≠ .armor := ⟨empty, armor⟩
      rw [if_pos armor, if_pos mismatch]
      rfl
    · have fits : ¬(¬(store.get dst).isEmpty = true
          ∧ ItemDataManager.getType (store.get dst).item.blueprintId ≠ .armor) :=
        fun both => armor both.2
      rw [if_neg armor, if_neg fits, if_neg empty]
      rfl

/-- A slot that was not written is read as before. -/
theorem takeFrom_runOn {store : SlotStore} {startRef endRef : SlotRef}
    (apart : startRef ≠ endRef) (slot : Slot) (quantity : Int)
    : runOn (takeFrom startRef quantity) (store.set endRef slot)
      = (.ok (), (store.set endRef slot).set startRef ((store.get startRef).take quantity)) := by
  have read : (store.set endRef slot).get startRef = store.get startRef := by
    have other : Place.slot startRef ≠ .slot endRef := fun same => apart (Place.slot.inj same)
    exact SlotStore.slotAt_write_ne store other slot
  have runs : runOn (takeFrom startRef quantity) (store.set endRef slot)
      = (.ok (), (store.set endRef slot).set startRef
          (((store.set endRef slot).get startRef).take quantity)) := rfl
  rw [runs, read]

theorem interactGet_runOn (store : SlotStore) {startRef endRef : SlotRef}
    (apart : startRef ≠ endRef) (quantity : Int)
    : runOn (interactGet startRef endRef quantity) store
      = settled store ((store.interact 0 startRef endRef quantity).map (·, ())) := by
  unfold interactGet SlotStore.interact
  rw [runOn_bind, runOn_get]
  dsimp only
  rw [runOn_bind, runOn_get]
  dsimp only
  by_cases occupied : ¬(store.get endRef).isEmpty = true
  · rw [if_pos occupied, if_pos occupied]
    rfl
  rw [if_neg occupied, if_neg occupied]
  by_cases invalid : quantity ≤ 0 ∨ quantity > (store.get startRef).quantity
  · rw [if_pos invalid, if_pos invalid]
    rfl
  · rw [if_neg invalid, if_neg invalid, runOn_bind, runOn_modify]
    exact takeFrom_runOn apart _ _

theorem interactSwap_runOn (store : SlotStore) (startRef endRef : SlotRef) (quantity : Int)
    : runOn (interactSwap startRef endRef) store
      = settled store ((store.interact 1 startRef endRef quantity).map (·, ())) := by
  unfold interactSwap SlotStore.interact
  rw [runOn_bind, runOn_get]
  dsimp only
  by_cases empty : (store.get endRef).isEmpty = true
  · rw [if_pos empty, if_pos empty]
    rfl
  · rw [if_neg empty, if_neg empty]
    rfl

theorem interactMerge_runOn (store : SlotStore) {startRef endRef : SlotRef}
    (apart : startRef ≠ endRef) (quantity : Int)
    : runOn (interactMerge startRef endRef quantity) store
      = settled store ((store.interact 2 startRef endRef quantity).map (·, ())) := by
  unfold interactMerge
  simp only [SlotStore.interact]
  rw [runOn_bind, runOn_get]
  dsimp only
  rw [runOn_bind, runOn_get]
  dsimp only
  by_cases empty : (store.get endRef).isEmpty = true
  · rw [if_pos empty, if_pos empty]
    rfl
  rw [if_neg empty, if_neg empty]
  by_cases mismatch : (store.get startRef).item.blueprintId
      ≠ (store.get endRef).item.blueprintId
  · rw [if_pos mismatch, if_pos mismatch]
    rfl
  rw [if_neg mismatch, if_neg mismatch]
  by_cases single : ItemDataManager.getType (store.get startRef).item.blueprintId = .weapon
      ∨ ItemDataManager.getType (store.get startRef).item.blueprintId = .armor
  · rw [if_pos single, if_pos single]
    rfl
  rw [if_neg single, if_neg single]
  by_cases invalid : quantity ≤ 0 ∨ quantity > (store.get startRef).quantity
  · rw [if_pos invalid, if_pos invalid]
    rfl
  · rw [if_neg invalid, if_neg invalid, runOn_bind, runOn_modify]
    exact takeFrom_runOn apart _ _

theorem interact_runOn (store : SlotStore) (interactType : Nat) {startRef endRef : SlotRef}
    (apart : startRef ≠ endRef) (quantity : Int)
    : runOn (interact interactType startRef endRef quantity) store
      = settled store ((store.interact interactType startRef endRef quantity).map (·, ())) := by
  rcases interactType with _ | _ | _ | more
  · exact interactGet_runOn store apart quantity
  · exact interactSwap_runOn store startRef endRef quantity
  · exact interactMerge_runOn store apart quantity
  · rfl

/-- Code whose refusals leave all slots as they were. -/
def Atomic {α : Type} (code : InPlace α) : Prop :=
  ∀ store mask left, runOn code store = (.error mask, left) → left = store

theorem atomic_of_settled {α : Type} {code : InPlace α}
    {result : SlotStore → Except (BitVec 32) (SlotStore × α)}
    (settles : ∀ store, runOn code store = settled store (result store))
    : Atomic code := by
  intro store mask left refused
  rw [settles] at refused
  cases performed : result store with
  | ok done =>
      rw [performed] at refused
      cases refused
  | error _ =>
      rw [performed] at refused
      cases refused
      rfl

end InPlace

-----------------------------------------------------------------------------------------
-- Refused reloads
-----------------------------------------------------------------------------------------

namespace PlayerInventory

/-- A reload that is not counted in the version has moved nothing. -/
theorem loadMagazineFromInventory_unchanged {inventory : PlayerInventory} {isPrimary : Bool}
    (same : (inventory.loadMagazineFromInventory isPrimary).inventoryVersion
      = inventory.inventoryVersion)
    : inventory.loadMagazineFromInventory isPrimary = inventory := by
  refine (inventory.loadMagazineFromInventory_cases isPrimary).resolve_right fun bumped => ?_
  rw [same] at bumped
  exact absurd bumped (by simp)

end PlayerInventory

-----------------------------------------------------------------------------------------
-- Refused requests
-----------------------------------------------------------------------------------------

/-- The requests that concern items: containers, equipment, reloads and weapons in hand. -/
def C2DPacket.isItemRequest : C2DPacket → Bool
  | .requestInteractContainerObject _ => true
  | .requestEquipItem _ => true
  | .requestReload _ => true
  | .requestSwitchWeapon _ _ => true
  | .requestOpenContainer _ => true
  | _ => false

namespace RoomHost

variable {env : Environment} {host : RoomHost} {sessionId : Nat} {session : PlayerSession}

theorem handleC2DRequestOpenContainer_denied {containerId : Nat}
    (denied : (host.handleC2DRequestOpenContainer env sessionId session containerId).2 = false)
    : (host.handleC2DRequestOpenContainer env sessionId session containerId).1.room
      = host.room := by
  revert denied
  unfold handleC2DRequestOpenContainer
  dsimp only
  repeat' split
  all_goals first | exact fun _ => rfl | nofun

theorem handleC2DRequestInteractContainerObject_denied
    {pkt : C2DRequestInteractContainerObject}
    (denied : (host.handleC2DRequestInteractContainerObject env sessionId session pkt).2
      = false)
    : (host.handleC2DRequestInteractContainerObject env sessionId session pkt).1.room
      = host.room := by
  revert denied
  unfold handleC2DRequestInteractContainerObject
  split
  · exact fun _ => rfl
  · split
    · exact fun _ => send_room ..
    · nofun

theorem handleC2DRequestEquipItem_denied {pkt : C2DRequestEquipItem}
    (denied : (host.handleC2DRequestEquipItem env sessionId session pkt).2 = false)
    : (host.handleC2DRequestEquipItem env sessionId session pkt).1.room = host.room := by
  revert denied
  unfold handleC2DRequestEquipItem
  split
  · exact fun _ => rfl
  · split
    · exact fun _ => send_room ..
    · nofun

theorem handleC2DRequestSwitchWeapon_denied {targetSlot : Nat} {version : BitVec 32}
    (denied : (host.handleC2DRequestSwitchWeapon env sessionId session targetSlot version).2
      = false)
    : (host.handleC2DRequestSwitchWeapon env sessionId session targetSlot version).1.room
      = host.room := by
  revert denied
  unfold handleC2DRequestSwitchWeapon
  dsimp only
  repeat' split
  all_goals first | exact fun _ => rfl | exact fun _ => send_room .. | nofun

/-- A refused reload has the inventory it started from. -/
theorem reload_denied {inventory : PlayerInventory} {isUsingPrimary : Bool}
    {version : BitVec 32} (denied : (reload inventory isUsingPrimary version).2 ≠ 0)
    : (reload inventory isUsingPrimary version).1 = inventory := by
  revert denied
  unfold reload
  split
  · exact fun _ => rfl
  · intro denied
    dsimp only at denied ⊢
    unfold PlayerInventory.reloadMagazine at denied ⊢
    dsimp only at denied ⊢
    refine PlayerInventory.loadMagazineFromInventory_unchanged ?_
    by_contra other
    exact denied (if_pos (bne_iff_ne.mpr other))

theorem handleC2DRequestReload_denied {version : BitVec 32}
    (found : host.room.playerSessions.lookup sessionId = some session)
    (denied : (host.handleC2DRequestReload env sessionId session version).2 = false)
    : (host.handleC2DRequestReload env sessionId session version).1.room = host.room := by
  revert denied
  unfold handleC2DRequestReload
  split
  · exact fun _ => rfl
  split
  · exact fun _ => rfl
  split
  · exact fun _ => rfl
  next object _ =>
  intro denied
  have refused : (reload session.inventory object.isUsingPrimary version).2 ≠ 0 := by
    simpa using denied
  dsimp only
  rw [send_room, if_neg refused, reload_denied refused]
  have same : host.room.playerSessions.adjust sessionId
      ({ · with inventory := session.inventory }) = host.room.playerSessions :=
    Table.adjust_eq_self fun value stored => by
      cases found.symm.trans stored
      rfl
  exact congrArg (fun sessions => { host.room with playerSessions := sessions }) same

/-- A request that is denied leaves the room as it is. -/
theorem denied_keeps_room {clientAddr : SockAddr} {pkt : C2DPacket}
    (found : host.room.playerSessions.lookup sessionId = some session)
    (item : pkt.isItemRequest = true)
    (denied : (host.dispatch env sessionId session clientAddr pkt).2 = false)
    : (host.dispatch env sessionId session clientAddr pkt).1.room = host.room := by
  cases pkt with
  | requestInteractContainerObject pkt =>
      exact handleC2DRequestInteractContainerObject_denied denied
  | requestEquipItem pkt => exact handleC2DRequestEquipItem_denied denied
  | requestReload version => exact handleC2DRequestReload_denied found denied
  | requestSwitchWeapon targetSlot version =>
      exact handleC2DRequestSwitchWeapon_denied denied
  | requestOpenContainer containerId => exact handleC2DRequestOpenContainer_denied denied
  | _ => cases item

/-- A denied item request has no effect: the room is the same as before, and the operations
that write slots in place have written none when they refuse.
-/
theorem denied_request_changes_nothing {clientAddr : SockAddr} {pkt : C2DPacket}
    (found : host.room.playerSessions.lookup sessionId = some session)
    (item : pkt.isItemRequest = true)
    (denied : (host.dispatch env sessionId session clientAddr pkt).2 = false)
    : (host.dispatch env sessionId session clientAddr pkt).1.room = host.room
      ∧ (∀ src isPrimary, InPlace.Atomic (InPlace.equipWeaponFromSlot src isPrimary))
      ∧ (∀ dst isPrimary, InPlace.Atomic (InPlace.unequipWeaponToSlot dst isPrimary))
      ∧ (∀ src, InPlace.Atomic (InPlace.equipArmorFromSlot src))
      ∧ (∀ dst, InPlace.Atomic (InPlace.unequipArmorToSlot dst))
      ∧ ∀ interactType startRef endRef quantity, startRef ≠ endRef →
        InPlace.Atomic (InPlace.interact interactType startRef endRef quantity) :=
  ⟨denied_keeps_room found item denied,
    fun src isPrimary => InPlace.atomic_of_settled
      fun store => InPlace.equipWeaponFromSlot_runOn store src isPrimary,
    fun dst isPrimary => InPlace.atomic_of_settled
      fun store => InPlace.unequipWeaponToSlot_runOn store dst isPrimary,
    fun src => InPlace.atomic_of_settled
      fun store => InPlace.equipArmorFromSlot_runOn store src,
    fun dst => InPlace.atomic_of_settled
      fun store => InPlace.unequipArmorToSlot_runOn store dst,
    fun interactType _ _ quantity apart => InPlace.atomic_of_settled
      fun store => InPlace.interact_runOn store interactType apart quantity⟩

/-- A player in the raid whose only weapon is an AK-47. -/
def gunner : PlayerSession :=
  { newcomer 1 [] [{ item := { blueprintId := 1 }, slotIndex := 0, quantity := 1 }] with
    sessionState := .inplay }

/-- The request to put the only weapon away. -/
def disarm : C2DPacket :=
  .requestEquipItem
    { actionType := 1
      equipmentSlotType := 0
      objectId := PLAYER_OBJECT_ID_SENTINEL
      objectInventoryVersion := 0
      objectSlotIdx := 3
      myInventoryVersion := 0 }

theorem disarm_denied
    : ((emptyMap (AList.singleton 1 gunner)).dispatch openField 1 gunner {} disarm).1.room
      = (emptyMap (AList.singleton 1 gunner)).room :=
  (denied_request_changes_nothing rfl rfl (by decide +kernel)).1

end RoomHost

end ExtractionServer.Room
