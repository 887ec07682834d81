import ExtractionServer.Room.InventoryRuns

/-! The weapon slots over every sequence of operations, whatever the quantities are: what a
weapon slot can come to hold, and when it is emptied.
-/

namespace ExtractionServer.Room

namespace InventoryCall

/-- Calls that change a weapon slot. -/
def rearms : InventoryCall → Bool
  | .equipWeaponFromSlot .. => true
  | .unequipWeaponToSlot .. => true
  | .clear => true
  | _ => false

/-- Calls that change the armor slot. -/
def rearmors : InventoryCall → Bool
  | .equipArmorFromSlot _ => true
  | .unequipArmorToSlot _ => true
  | .clear => true
  | _ => false

end InventoryCall

/-- A slot without an item is empty. -/
def Slot.Named (slot : Slot) : Prop := slot.item.blueprintId = 0 → slot.isEmpty = true

namespace Slot

variable {slot : Slot}

theorem Named.of_nonzero (nonzero : slot.item.blueprintId ≠ 0) : slot.Named :=
  fun zero => absurd zero nonzero

theorem Named.of_empty (empty : slot.isEmpty = true) : slot.Named := fun _ => empty

theorem Named.of_weapon (weapon : ItemDataManager.getType slot.item.blueprintId = .weapon)
    : slot.Named := .of_nonzero fun zero => by
  rw [zero] at weapon
  cases weapon

theorem Named.nonzero (named : slot.Named) (filled : slot.isEmpty = false)
    : slot.item.blueprintId ≠ 0 := fun zero => by
  rw [named zero] at filled
  cases filled

/-- Taking from a stack leaves its item or nothing. -/
theorem Named.take (named : slot.Named) (filled : slot.isEmpty = false) (quantity : Int)
    : (slot.take quantity).Named := by
  unfold Slot.take
  dsimp only
  split
  · exact .of_empty rfl
  · exact .of_nonzero (named.nonzero filled)

end Slot

namespace SlotStore

-----------------------------------------------------------------------------------------
-- Places that an operation leaves alone
-----------------------------------------------------------------------------------------

/-- What holds of a store after any operation: the cached index is up to date, weapon slots and
magazines without an item are empty, and a magazine with rounds belongs to a weapon.
Quantities play no part in it.
-/
structure Steady (store : SlotStore) : Prop where
  cached : store.Cached
  weapon : ∀ isPrimary, (store.slotAt (.weapon isPrimary)).Named
  magazine : ∀ isPrimary, (store.slotAt (.magazine isPrimary)).Named
  armed : ∀ isPrimary, (store.slotAt (.magazine isPrimary)).isEmpty = false →
    (store.slotAt (.weapon isPrimary)).item.blueprintId ≠ 0

variable {store before after : SlotStore}

theorem slotAt_of_inventory (same : after.inventory = before.inventory) {place : Place}
    (own : ∀ index, place ≠ .slot (.container index))
    : after.slotAt place = before.slotAt place := by
  cases place with
  | weapon isPrimary => exact congrArg (·.weaponSlot isPrimary) same
  | armor => exact congrArg PlayerInventory.armorSlot same
  | magazine isPrimary => exact congrArg (·.magazineSlot isPrimary) same
  | slot ref =>
      cases ref with
      | inventory index =>
          exact congrArg (fun inventory => inventory.inventorySlots[index]) same
      | container index => exact absurd rfl (own index)

theorem Steady.of_inventory (steady : before.Steady)
    (same : after.inventory = before.inventory)
    : after.Steady where
  cached := by
    unfold Cached
    rw [same]
    exact steady.cached
  weapon isPrimary := by
    rw [slotAt_of_inventory same (by nofun)]
    exact steady.weapon isPrimary
  magazine isPrimary := by
    rw [slotAt_of_inventory same (by nofun)]
    exact steady.magazine isPrimary
  armed isPrimary := by
    rw [slotAt_of_inventory same (by nofun), slotAt_of_inventory same (by nofun)]
    exact steady.armed isPrimary

/-- What is open beside an inventory does not matter. -/
theorem Steady.beside {inventory : PlayerInventory} (steady : Steady { inventory })
    (container : List Slot)
    : Steady { inventory, container } := steady.of_inventory rfl

theorem Steady.alone (steady : store.Steady) : Steady { inventory := store.inventory } :=
  steady.of_inventory rfl

theorem WellFormed.steady (good : store.WellFormed) : store.Steady where
  cached := good.cached
  weapon isPrimary := (good.stocked.wellFormed (.weapon isPrimary) trivial).isEmpty_iff.mpr
  magazine isPrimary := (good.stocked.wellFormed (.magazine isPrimary) trivial).isEmpty_iff.mpr
  armed isPrimary rounds :=
    ((good.stocked.wellFormed (.weapon isPrimary) trivial).of_filled
      (good.loaded isPrimary rounds).1).1

/-- Refreshing the cache and counting the version up moves nothing. -/
theorem Steady.of_sameStacks (same : SameStacks before after) (cached : after.Cached)
    (weapon : ∀ isPrimary, (before.slotAt (.weapon isPrimary)).Named)
    (magazine : ∀ isPrimary, (before.slotAt (.magazine isPrimary)).Named)
    (armed : ∀ isPrimary, (before.slotAt (.magazine isPrimary)).isEmpty = false →
      (before.slotAt (.weapon isPrimary)).item.blueprintId ≠ 0)
    : after.Steady where
  cached := cached
  weapon isPrimary := by
    rw [same.slotAt]
    exact weapon isPrimary
  magazine isPrimary := by
    rw [same.slotAt]
    exact magazine isPrimary
  armed isPrimary := by
    rw [same.slotAt, same.slotAt]
    exact armed isPrimary

/-- A container request moves stacks between its two slots only. -/
theorem slotAt_interact {interactType : Nat} {startRef endRef : SlotRef} {quantity : Int}
    {moved : SlotStore} {place : Place} (notSlot : ∀ ref, place ≠ .slot ref)
    (done : store.interact interactType startRef endRef quantity = .ok moved)
    : moved.slotAt place = store.slotAt place := by
  have others (first second : Slot)
      : ((store.write (.slot endRef) first).write (.slot startRef) second).slotAt place
        = store.slotAt place :=
    slotAt_write_write store (notSlot _) (notSlot _) _ _
  have swapped (first second : Slot)
      : ((store.write (.slot startRef) first).write (.slot endRef) second).slotAt place
        = store.slotAt place :=
    slotAt_write_write store (notSlot _) (notSlot _) _ _
  unfold interact at done
  dsimp only at done
  repeat' split at done
  all_goals first
    | cases done; exact others _ _
    | cases done; exact swapped _ _
    | cases done

theorem slotAt_interacted {moved : SlotStore} (startRef endRef : SlotRef) (place : Place)
    : (moved.interacted startRef endRef).slotAt place = moved.slotAt place := by
  cases startRef <;> cases endRef <;> rfl

theorem cached_interacted {interactType : Nat} {startRef endRef : SlotRef} {quantity : Int}
    {moved : SlotStore} (cached : store.Cached)
    (done : store.interact interactType startRef endRef quantity = .ok moved)
    : (moved.interacted startRef endRef).Cached := by
  cases startRef with
  | inventory index => exact cached_touchInventory moved
  | container start =>
      cases endRef with
      | inventory index => exact cached_touchInventory moved
      | container last =>
          unfold Cached
          rw [show interacted moved (.container start) (.container last) = moved from rfl,
            interact_inventory done]
          exact cached

theorem slotAt_takeFrom_ne {place other : Place} {src : SlotRef} (apart : other ≠ place)
    (apartSrc : other ≠ .slot src)
    : (store.takeFrom place src).slotAt other = store.slotAt other := by
  unfold takeFrom
  dsimp only
  split <;> exact slotAt_write_write _ apart apartSrc _ _

theorem slotAt_stowInto_ne {place other : Place} {dst : SlotRef} (apart : other ≠ place)
    (apartDst : other ≠ .slot dst)
    : (store.stowInto place dst).slotAt other = store.slotAt other := by
  unfold stowInto
  dsimp only
  split <;> exact slotAt_write_write _ apart apartDst _ _

-----------------------------------------------------------------------------------------
-- Magazines
-----------------------------------------------------------------------------------------

/-- Unloading empties the magazine, keeps the rest of the equipment, and puts the rounds where
no other item lies.
-/
structure Emptied (isPrimary : Bool) (before after : SlotStore) : Prop where
  cached : after.Cached
  magazine : ∀ isPrimary, (after.slotAt (.magazine isPrimary)).Named
  rounds : ∀ isOther, (after.slotAt (.magazine isOther)).isEmpty = false →
    isOther ≠ isPrimary ∧ (before.slotAt (.magazine isOther)).isEmpty = false
  weapon : ∀ isPrimary, after.slotAt (.weapon isPrimary) = before.slotAt (.weapon isPrimary)
  armor : after.slotAt .armor = before.slotAt .armor
  item : ∀ ref, (before.get ref).isEmpty = false → (after.get ref).item = (before.get ref).item

/-- A write of rounds to a slot of the inventory that is empty or holds the same item. -/
theorem Emptied.of_writes {isPrimary : Bool} {index : SlotIndex} {stack : Slot}
    (named : ∀ isPrimary, (store.slotAt (.magazine isPrimary)).Named)
    (fits : (store.get (.inventory index)).isEmpty = false →
      stack.item = (store.get (.inventory index)).item)
    (same : SameStacks
      ((store.write (.slot (.inventory index)) stack).write (.magazine isPrimary)
        (store.slotAt (.magazine isPrimary)).clear) after)
    (cached : after.Cached)
    : Emptied isPrimary store after where
  cached := cached
  magazine isOther := by
    rw [same.slotAt]
    by_cases own : isOther = isPrimary
    · subst own
      rw [slotAt_write_self _ (by exact trivial)]
      exact .of_empty rfl
    · rw [slotAt_write_write store (by nofun) (by rintro ⟨⟩; exact own rfl)]
      exact named isOther
  rounds isOther := by
    rw [same.slotAt]
    by_cases own : isOther = isPrimary
    · subst own
      rw [slotAt_write_self _ (by exact trivial)]
      exact nofun
    · rw [slotAt_write_write store (by nofun) (by rintro ⟨⟩; exact own rfl)]
      exact fun rounds => ⟨own, rounds⟩
  weapon isOther := by
    rw [same.slotAt]
    exact slotAt_write_write store (by nofun) (by nofun) _ _
  armor := by
    rw [same.slotAt]
    exact slotAt_write_write store (by nofun) (by nofun) _ _
  item ref filled := by
    refine (congrArg Slot.item (same.slotAt (.slot ref))).trans ?_
    by_cases here : ref = .inventory index
    · subst here
      rw [slotAt_write_ne _ (by nofun), slotAt_write_self store (by exact trivial)]
      exact fits filled
    · refine congrArg Slot.item (slotAt_write_write store ?_ (by nofun) _ _)
      rintro ⟨⟩
      exact here rfl

theorem unloaded_emptied {isPrimary : Bool} (cached : store.Cached)
    (named : ∀ isPrimary, (store.slotAt (.magazine isPrimary)).Named)
    : Emptied isPrimary store (store.unloaded isPrimary) := by
  cases filled : (store.slotAt (.magazine isPrimary)).isEmpty with
  | true =>
      have same : store.unloaded isPrimary = store := by
        unfold unloaded PlayerInventory.unloadMagazineToInventory
        rw [if_pos (show (store.inventory.magazineSlot isPrimary).isEmpty = true from filled)]
      rw [same]
      refine ⟨cached, named, fun isOther rounds => ⟨?_, rounds⟩, fun _ => rfl, rfl,
        fun _ _ => rfl⟩
      rintro rfl
      cases filled.symm.trans rounds
  | false =>
      rcases unloaded_of_filled filled with ⟨index, -, occupied, ammo, moved⟩
        | ⟨-, -, moved⟩ | ⟨index, first, moved⟩
      · rw [moved]
        refine .of_writes named ?_ (.refl _) ?_
        · exact fun _ => rfl
        -- the slot holds rounds before and after
        refine cached.of_eq (by simp) fun other => ?_
        rw [slotAt_write_ne _ (by simp)]
        by_cases here : other = index
        · subst here
          rw [slotAt_write_self store (by exact trivial), occupied]
          have nonzero := (named isPrimary).nonzero filled
          rw [ammo] at nonzero
          simp [Slot.isEmpty, nonzero]
        · rw [slotAt_write_ne store fun equal => here (by cases equal; rfl)]
      · have others (place : Place) (apart : place ≠ .magazine isPrimary)
            : (store.unloaded isPrimary).slotAt place = store.slotAt place := by
          rw [moved]
          exact slotAt_write_ne store apart _
        refine ⟨?_, fun isOther => ?_, fun isOther rounds => ?_, fun _ => others _ (by simp),
          others _ (by simp), fun ref _ => congrArg Slot.item (others (.slot ref) (by simp))⟩
        · rw [moved]
          exact cached.of_eq (by simp) fun _ => by rw [slotAt_write_ne store (by simp)]
        · by_cases own : isOther = isPrimary
          · subst own
            rw [moved, slotAt_write_self store (by exact trivial)]
            exact .of_empty rfl
          · rw [others _ (by rintro ⟨⟩; exact own rfl)]
            exact named isOther
        · by_cases own : isOther = isPrimary
          · subst own
            rw [moved, slotAt_write_self store (by exact trivial)] at rounds
            cases rounds
          · rw [others _ (by rintro ⟨⟩; exact own rfl)] at rounds
            exact ⟨own, rounds⟩
      · rw [moved]
        refine .of_writes named (fun occupied => ?_) (sameStacks_updateFirstEmptySlotIndex _)
          (cached_updateFirstEmptySlotIndex _)
        rw [show (store.get (.inventory index)).isEmpty = true from (cached.firstEmpty first).1]
          at occupied
        cases occupied

/-- What the loop that loads a magazine keeps. -/
structure Gathering (start : SlotStore) (isPrimary : Bool)
    (loading : PlayerInventory.Loading)
    : Prop where
  named : loading.magazine.Named
  unchanged : loading.changed = false → loading.store start isPrimary = start

theorem Gathering.visit {start : SlotStore} {isPrimary : Bool}
    {loading : PlayerInventory.Loading} {ammoType : Nat} (ammo : ammoType ≠ 0)
    (h : start.Gathering isPrimary loading) (index : SlotIndex)
    : start.Gathering isPrimary (loading.visit ammoType index) := by
  unfold PlayerInventory.Loading.visit
  split
  · exact h
  dsimp only
  split
  · exact h
  next usable =>
  have same : loading.slots[index].item.blueprintId = ammoType := by
    simp only [Bool.or_eq_true, bne_iff_ne, not_or, not_not] at usable
    exact usable.2
  refine ⟨?_, nofun⟩
  split
  · refine .of_nonzero ?_
    rw [← same] at ammo
    exact ammo
  · next filled => exact .of_nonzero (h.named.nonzero (Bool.eq_false_iff.mpr filled))

-----------------------------------------------------------------------------------------
-- Weapons
-----------------------------------------------------------------------------------------

/-- How a weapon slot may change: to another weapon, or to nothing. A slot is emptied when the
whole inventory is, or by an unequip into an empty slot while the other weapon stays.
-/
inductive Rearming (call : InventoryCall) (isPrimary : Bool) (before after : SlotStore) : Prop
  | kept (same : after.slotAt (.weapon isPrimary) = before.slotAt (.weapon isPrimary))
  | weapon (isWeapon : ItemDataManager.getType
      (after.slotAt (.weapon isPrimary)).item.blueprintId = .weapon)
  | stowed {dst : SlotRef} (called : call = .unequipWeaponToSlot dst isPrimary)
      (empty : (before.get dst).isEmpty = true)
      (other : (before.slotAt (.weapon !isPrimary)).isEmpty = false)
      (kept : after.slotAt (.weapon !isPrimary) = before.slotAt (.weapon !isPrimary))
      (cleared : after.slotAt (.weapon isPrimary) = (before.slotAt (.weapon isPrimary)).clear)
  | cleared (called : call = .clear)
      (cleared : after.slotAt (.weapon isPrimary) = (before.slotAt (.weapon isPrimary)).clear)

theorem Rearming.named {call : InventoryCall} {isPrimary : Bool}
    (step : Rearming call isPrimary before after)
    (named : (before.slotAt (.weapon isPrimary)).Named)
    : (after.slotAt (.weapon isPrimary)).Named := by
  cases step with
  | kept same =>
      rw [same]
      exact named
  | weapon isWeapon => exact .of_weapon isWeapon
  | stowed _ _ _ _ cleared =>
      rw [cleared]
      exact .of_empty rfl
  | cleared _ cleared =>
      rw [cleared]
      exact .of_empty rfl

/-- What a call does to the equipment. -/
structure Performed (call : InventoryCall) (before after : SlotStore) : Prop where
  steady : after.Steady
  rearming : ∀ isPrimary, Rearming call isPrimary before after
  weapon : call.rearms = false → ∀ isPrimary,
    after.slotAt (.weapon isPrimary) = before.slotAt (.weapon isPrimary)
  armor : call.rearmors = false → after.slotAt .armor = before.slotAt .armor

/-- A call that leaves the weapons alone. -/
theorem Performed.of_kept {call : InventoryCall} (steady : after.Steady)
    (weapon : ∀ isPrimary,
      after.slotAt (.weapon isPrimary) = before.slotAt (.weapon isPrimary))
    (armor : call.rearmors = false → after.slotAt .armor = before.slotAt .armor)
    : Performed call before after :=
  ⟨steady, fun isPrimary => .kept (weapon isPrimary), fun _ => weapon, armor⟩

theorem Performed.refl (call : InventoryCall) (steady : store.Steady)
    : Performed call store store := .of_kept steady (fun _ => rfl) fun _ => rfl

/-- Loading a magazine touches no weapon and no armor. -/
theorem loadMagazineFromInventory_equipment (inventory : PlayerInventory) (isPrimary : Bool)
    : (∀ isOther, (inventory.loadMagazineFromInventory isPrimary).weaponSlot isOther
        = inventory.weaponSlot isOther)
      ∧ (inventory.loadMagazineFromInventory isPrimary).armorSlot = inventory.armorSlot := by
  unfold PlayerInventory.loadMagazineFromInventory
  dsimp only
  iterate 3
    split
    · exact ⟨fun _ => rfl, rfl⟩
  generalize List.foldl _ _ _ = loading
  split <;> exact ⟨fun isOther => by cases isPrimary <;> cases isOther <;> rfl,
    by cases isPrimary <;> rfl⟩

theorem reloaded_rearming (isPrimary : Bool) (steady : store.Steady)
    : Performed (.reloadMagazine isPrimary) store (store.reloaded isPrimary) := by
  have none : Performed (.reloadMagazine isPrimary) store
      { store with inventory := store.inventory } := .refl _ steady
  unfold reloaded PlayerInventory.loadMagazineFromInventory
  dsimp only
  split
  · exact none
  split
  · exact none
  next spec known =>
  split
  · exact none
  have ammo := (ItemDataManager.getWeaponSpec_ammo known).2.1
  have initial : store.Gathering isPrimary
      { slots := store.inventory.inventorySlots
        magazine := store.inventory.magazineSlot isPrimary
        remaining := spec.maxAmmo - (store.inventory.magazineSlot isPrimary).quantity } :=
    ⟨steady.magazine isPrimary, fun _ => by cases isPrimary <;> rfl⟩
  have gathered := List.foldlRecOn (List.finRange INVENTORY_SLOT_COUNT) _
    (motive := store.Gathering isPrimary) initial
    fun _ reached index _ => reached.visit ammo index
  revert gathered
  generalize (List.finRange INVENTORY_SLOT_COUNT).foldl
    (PlayerInventory.Loading.visit spec.ammoType) _ = loading
  intro gathered
  have weapon (isOther : Bool) : (loading.store store isPrimary).slotAt (.weapon isOther)
      = store.slotAt (.weapon isOther) := by
    cases isPrimary <;> cases isOther <;> rfl
  have armor : (loading.store store isPrimary).slotAt .armor = store.slotAt .armor := by
    cases isPrimary <;> rfl
  have magazine (isOther : Bool)
      : ((loading.store store isPrimary).slotAt (.magazine isOther)).Named := by
    by_cases own : isOther = isPrimary
    · subst own
      rw [Filling.slotAt_magazine]
      exact gathered.named
    · have other : (loading.store store isPrimary).slotAt (.magazine isOther)
          = store.slotAt (.magazine isOther) := by
        cases isPrimary <;> cases isOther <;> first | rfl | exact absurd rfl own
      rw [other]
      exact steady.magazine isOther
  have armed (isOther : Bool)
      (rounds : ((loading.store store isPrimary).slotAt (.magazine isOther)).isEmpty = false)
      : ((loading.store store isPrimary).slotAt (.weapon isOther)).item.blueprintId ≠ 0 := by
    rw [weapon]
    by_cases own : isOther = isPrimary
    · subst own
      intro bare
      rw [show (store.inventory.weaponSlot isOther).item.blueprintId = 0 from bare] at known
      cases known
    · have other : (loading.store store isPrimary).slotAt (.magazine isOther)
          = store.slotAt (.magazine isOther) := by
        cases isPrimary <;> cases isOther <;> first | rfl | exact absurd rfl own
      rw [other] at rounds
      exact steady.armed isOther rounds
  split
  · have same := sameStacks_touchInventory (loading.store store isPrimary)
    show Performed _ store (loading.store store isPrimary).touchInventory
    exact .of_kept
      (.of_sameStacks same (cached_touchInventory _)
        (fun isOther => by rw [weapon]; exact steady.weapon isOther) magazine armed)
      (fun isOther => (same.slotAt _).trans (weapon isOther))
      fun _ => (same.slotAt _).trans armor
  · next unchanged =>
      have same := gathered.unchanged (Bool.eq_false_iff.mpr unchanged)
      show Performed _ store (loading.store store isPrimary)
      rw [same]
      exact .refl _ steady

theorem equipWeaponFromSlot_rearming {src : SlotRef} {isPrimary : Bool}
    {result : SlotStore × Option SlotIndex} (steady : store.Steady)
    (done : store.equipWeaponFromSlot src isPrimary = .ok result)
    : Performed (.equipWeaponFromSlot src isPrimary) store result.1 := by
  obtain ⟨filled, weapon, moved, -⟩ := equipWeaponFromSlot_ok done
  have emptied : Emptied isPrimary store (store.unloaded isPrimary) :=
    unloaded_emptied steady.cached steady.magazine
  have same := sameStacks_touchInventory
    ((store.unloaded isPrimary).takeFrom (.weapon isPrimary) src)
  have rearmed (isOther : Bool)
      : Rearming (.equipWeaponFromSlot src isPrimary) isOther store result.1 := by
    rw [moved]
    by_cases own : isOther = isPrimary
    · subst own
      refine .weapon ?_
      rw [same.slotAt, slotAt_takeFrom (by exact trivial) (by nofun)]
      exact (congrArg (fun item : Item => ItemDataManager.getType item.blueprintId)
        (emptied.item src filled)).trans weapon
    · refine .kept ?_
      rw [same.slotAt, slotAt_takeFrom_ne (by rintro ⟨⟩; exact own rfl) (by nofun),
        emptied.weapon]
  have magazine (isOther : Bool) : result.1.slotAt (.magazine isOther)
      = (store.unloaded isPrimary).slotAt (.magazine isOther) := by
    rw [moved, same.slotAt, slotAt_takeFrom_ne (by nofun) (by nofun)]
  refine ⟨⟨?_, fun isOther => (rearmed isOther).named (steady.weapon isOther),
    fun isOther => ?_, fun isOther rounds => ?_⟩, rearmed, nofun, fun _ => ?_⟩
  · rw [moved]
    exact cached_touchInventory _
  · rw [magazine]
    exact emptied.magazine isOther
  · rw [magazine] at rounds
    obtain ⟨other, before⟩ := emptied.rounds isOther rounds
    rw [moved, same.slotAt, slotAt_takeFrom_ne (by rintro ⟨⟩; exact other rfl) (by nofun),
      emptied.weapon]
    exact steady.armed isOther before
  · rw [moved, same.slotAt, slotAt_takeFrom_ne (by nofun) (by nofun), emptied.armor]

theorem unequipWeaponToSlot_rearming {dst : SlotRef} {isPrimary : Bool}
    {result : SlotStore × Option SlotIndex} (steady : store.Steady)
    (done : store.unequipWeaponToSlot dst isPrimary = .ok result)
    : Performed (.unequipWeaponToSlot dst isPrimary) store result.1 := by
  obtain ⟨-, armed, weapon, stowed, stows, moved, -⟩ := unequipWeaponToSlot_ok done
  have same : SameStacks (store.stowInto (.weapon isPrimary) dst) stowed := by
    rw [stows]
    exact sameStacks_updateFirstEmptySlotIndex _
  have others (place : Place) (apart : place ≠ .weapon isPrimary) (apartDst : place ≠ .slot dst)
      : stowed.slotAt place = store.slotAt place :=
    (same.slotAt _).trans (slotAt_stowInto_ne apart apartDst)
  have magazines (isOther : Bool) : (stowed.slotAt (.magazine isOther)).Named := by
    rw [others _ (by nofun) (by nofun)]
    exact steady.magazine isOther
  have cached : stowed.Cached := by
    rw [stows]
    exact cached_updateFirstEmptySlotIndex _
  have emptied : Emptied isPrimary stowed (stowed.unloaded isPrimary) :=
    unloaded_emptied cached magazines
  have last := sameStacks_incrementInventoryVersion (stowed.unloaded isPrimary)
  have after (isOther : Bool) : result.1.slotAt (.weapon isOther)
      = stowed.slotAt (.weapon isOther) := by
    rw [moved, last.slotAt, emptied.weapon]
  have held : result.1.slotAt (.weapon isPrimary)
      = if (store.get dst).isEmpty then (store.slotAt (.weapon isPrimary)).clear
        else (store.slotAt (.weapon isPrimary)).put (store.get dst).item
          (store.get dst).quantity := by
    rw [after, same.slotAt, slotAt_stowInto (by exact trivial) (by nofun)]
  have kept (isOther : Bool) (own : isOther ≠ isPrimary)
      : result.1.slotAt (.weapon isOther) = store.slotAt (.weapon isOther) := by
    rw [after, others _ (by rintro ⟨⟩; exact own rfl) (by nofun)]
  have rearmed (isOther : Bool)
      : Rearming (.unequipWeaponToSlot dst isPrimary) isOther store result.1 := by
    by_cases own : isOther = isPrimary
    · subst own
      cases filled : (store.get dst).isEmpty with
      | true =>
          refine .stowed rfl filled (armed filled) (kept _ (by cases isOther <;> nofun)) ?_
          rw [held, if_pos filled]
      | false =>
          refine .weapon ?_
          rw [held, if_neg (by simp [filled])]
          exact weapon filled
    · exact .kept (kept isOther own)
  refine ⟨⟨?_, fun isOther => (rearmed isOther).named (steady.weapon isOther),
    fun isOther => ?_, fun isOther rounds => ?_⟩, rearmed, nofun, fun _ => ?_⟩
  · rw [moved]
    exact emptied.cached.incrementInventoryVersion
  · rw [moved, last.slotAt]
    exact emptied.magazine isOther
  · rw [moved, last.slotAt] at rounds
    obtain ⟨other, before⟩ := emptied.rounds isOther rounds
    rw [others _ (by nofun) (by nofun)] at before
    rw [kept isOther other]
    exact steady.armed isOther before
  · rw [moved, last.slotAt, emptied.armor, others _ (by nofun) (by nofun)]

/-- Writes to the armor and to one slot. -/
theorem Performed.of_armor {call : InventoryCall} {ref : SlotRef} {first second : Slot}
    (steady : store.Steady) (armored : call.rearmors = true)
    : Performed call store
        ((store.write .armor first).write (.slot ref) second).touchInventory := by
  have same := sameStacks_touchInventory ((store.write .armor first).write (.slot ref) second)
  have others (place : Place) (apart : place ≠ .armor) (notSlot : ∀ ref, place ≠ .slot ref)
      : ((store.write .armor first).write (.slot ref) second).slotAt place
        = store.slotAt place :=
    slotAt_write_write store apart (notSlot ref) _ _
  refine .of_kept (.of_sameStacks same (cached_touchInventory _) (fun isPrimary => ?_)
      (fun isPrimary => ?_) fun isPrimary => ?_)
    (fun isPrimary => (same.slotAt _).trans (others _ (by nofun) (by nofun)))
    fun kept => by rw [armored] at kept; cases kept
  · rw [others _ (by nofun) (by nofun)]
    exact steady.weapon isPrimary
  · rw [others _ (by nofun) (by nofun)]
    exact steady.magazine isPrimary
  · rw [others _ (by nofun) (by nofun), others _ (by nofun) (by nofun)]
    exact steady.armed isPrimary

theorem equipArmorFromSlot_rearming {src : SlotRef} {result : SlotStore × Option SlotIndex}
    (steady : store.Steady) (done : store.equipArmorFromSlot src = .ok result)
    : Performed (.equipArmorFromSlot src) store result.1 := by
  obtain ⟨-, -, rfl⟩ := equipArmorFromSlot_ok done
  dsimp only [takeFrom]
  split <;> exact .of_armor steady rfl

theorem unequipArmorToSlot_rearming {dst : SlotRef} {result : SlotStore × Option SlotIndex}
    (steady : store.Steady) (done : store.unequipArmorToSlot dst = .ok result)
    : Performed (.unequipArmorToSlot dst) store result.1 := by
  obtain ⟨-, -, rfl⟩ := unequipArmorToSlot_ok done
  dsimp only [stowInto]
  split <;> exact .of_armor steady rfl

theorem interact_rearming {interactType : Nat} {startRef endRef : SlotRef} {quantity : Int}
    {moved : SlotStore} (steady : store.Steady)
    (done : store.interact interactType startRef endRef quantity = .ok moved)
    : Performed (.interact interactType startRef endRef quantity) store
        (moved.interacted startRef endRef) := by
  have others (place : Place) (notSlot : ∀ ref, place ≠ .slot ref)
      : (moved.interacted startRef endRef).slotAt place = store.slotAt place :=
    (slotAt_interacted startRef endRef place).trans (slotAt_interact notSlot done)
  refine .of_kept ⟨cached_interacted steady.cached done, fun isPrimary => ?_,
    fun isPrimary => ?_, fun isPrimary => ?_⟩ (fun _ => others _ (by nofun))
      fun _ => others _ (by nofun)
  · rw [others _ (by nofun)]
    exact steady.weapon isPrimary
  · rw [others _ (by nofun)]
    exact steady.magazine isPrimary
  · rw [others _ (by nofun), others _ (by nofun)]
    exact steady.armed isPrimary

theorem fired_rearming {isPrimary : Bool} (steady : store.Steady)
    (filled : (store.slotAt (.magazine isPrimary)).isEmpty = false)
    : Performed (.fire isPrimary) store (store.fired isPrimary) := by
  have others (place : Place) (apart : place ≠ .magazine isPrimary)
      : (store.fired isPrimary).slotAt place = store.slotAt place :=
    slotAt_write_ne store apart _
  refine .of_kept ⟨steady.cached.of_eq (firstEmptySlotIndex_write _ _ _) fun index => ?_,
    fun isOther => ?_, fun isOther => ?_, fun isOther rounds => ?_⟩
      (fun _ => others _ (by nofun)) fun _ => others _ (by nofun)
  · rw [others _ (by nofun)]
  · rw [others _ (by nofun)]
    exact steady.weapon isOther
  · by_cases own : isOther = isPrimary
    · subst own
      unfold fired
      rw [slotAt_write_self store (by exact trivial)]
      exact (steady.magazine isOther).take filled 1
    · rw [others _ (by rintro ⟨⟩; exact own rfl)]
      exact steady.magazine isOther
  · rw [others _ (by nofun)]
    by_cases own : isOther = isPrimary
    · subst own
      exact steady.armed isOther filled
    · rw [others _ (by rintro ⟨⟩; exact own rfl)] at rounds
      exact steady.armed isOther rounds

theorem cleared_rearming (store : SlotStore) : Performed .clear store store.cleared := by
  have gone (place : Place) (own : ∀ index, place ≠ .slot (.container index))
      : store.cleared.slotAt place = (store.slotAt place).clear := slotAt_cleared store own
  refine ⟨⟨rfl, fun isPrimary => ?_, fun isPrimary => ?_, fun isPrimary rounds => ?_⟩,
    fun isPrimary => .cleared rfl (gone _ (by nofun)), nofun, nofun⟩
  · rw [gone _ (by nofun)]
    exact .of_empty rfl
  · rw [gone _ (by nofun)]
    exact .of_empty rfl
  · rw [gone _ (by nofun)] at rounds
    cases rounds

/-- One call keeps the store steady and changes the equipment as told. -/
theorem Steady.perform {call : InventoryCall} (steady : store.Steady)
    (step : store.perform call = some after)
    : Performed call store after := by
  cases call with
  | openContainer slots =>
      obtain ⟨-, step⟩ := Option.ite_none_right_eq_some.mp step
      cases step
      exact .of_kept (steady.of_inventory rfl) (fun _ => slotAt_of_inventory rfl (by nofun))
        fun _ => slotAt_of_inventory rfl (by nofun)
  | equipWeaponFromSlot src isPrimary =>
      obtain ⟨-, step⟩ := Option.ite_none_right_eq_some.mp step
      cases step
      exact accepted_of (.refl _ steady) fun _ => equipWeaponFromSlot_rearming steady
  | unequipWeaponToSlot dst isPrimary =>
      obtain ⟨-, step⟩ := Option.ite_none_right_eq_some.mp step
      cases step
      exact accepted_of (.refl _ steady) fun _ => unequipWeaponToSlot_rearming steady
  | equipArmorFromSlot src =>
      obtain ⟨-, step⟩ := Option.ite_none_right_eq_some.mp step
      cases step
      exact accepted_of (.refl _ steady) fun _ => equipArmorFromSlot_rearming steady
  | unequipArmorToSlot dst =>
      obtain ⟨-, step⟩ := Option.ite_none_right_eq_some.mp step
      cases step
      exact accepted_of (.refl _ steady) fun _ => unequipArmorToSlot_rearming steady
  | reloadMagazine isPrimary =>
      cases step
      exact reloaded_rearming isPrimary steady
  | interact interactType startRef endRef quantity =>
      obtain ⟨-, step⟩ := Option.ite_none_right_eq_some.mp step
      cases step
      exact accepted_of (.refl _ steady) fun _ => interact_rearming steady
  | fire isPrimary =>
      dsimp only [SlotStore.perform] at step
      split at step
      · cases step
        exact .refl _ steady
      · next filled =>
          cases step
          exact fired_rearming steady (Bool.eq_false_iff.mpr filled)
  | clear =>
      cases step
      exact cleared_rearming store

end SlotStore

end ExtractionServer.Room
