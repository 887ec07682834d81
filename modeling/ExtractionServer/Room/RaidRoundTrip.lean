import ExtractionServer.Lobby.DBProxyRequest
import ExtractionServer.Room.BareHands
import ExtractionServer.Room.Reloads

/-! From the snapshot of a player into the raid and straight back: the rows that a recalled
player gets are those that were brought, but for the rounds in the magazines and for all but
one item of a stack in an equipment slot.
-/

namespace ExtractionServer.Room

open Lobby Matchmaking

-----------------------------------------------------------------------------------------
-- What the magazines take out of the slots
-----------------------------------------------------------------------------------------

/-- A stack that has lost some of its items, or all of them. -/
structure Slot.Drains (before after : Slot) : Prop where
  less : after.quantity ≤ before.quantity
  item : 0 < after.quantity → after.item = before.item

namespace Slot

theorem Drains.refl (slot : Slot) : slot.Drains slot := ⟨le_rfl, fun _ => rfl⟩

theorem Drains.trans {first second third : Slot} (h : first.Drains second)
    (later : second.Drains third)
    : first.Drains third where
  less := later.less.trans h.less
  item some := (later.item some).trans (h.item (some.trans_le later.less))

theorem drains_take {slot : Slot} {quantity : Int} (nonneg : 0 ≤ quantity)
    (enough : quantity ≤ slot.quantity)
    : slot.Drains (slot.take quantity) := by
  unfold take
  dsimp only
  split
  · exact ⟨by show (0 : Int) ≤ _; omega, fun some => absurd some (Int.lt_irrefl 0)⟩
  · exact ⟨by dsimp only; omega, fun _ => rfl⟩

/-- What a stack has lost is what it had more of its item. -/
theorem Drains.units {before after : Slot} (h : before.Drains after) (good : after.WellFormed)
    (blueprintId : Nat)
    : before.units blueprintId - after.units blueprintId
      = if before.item.blueprintId = blueprintId then before.quantity - after.quantity
        else 0 := by
  by_cases some : 0 < after.quantity
  · simp only [Slot.units, h.item some]
    split <;> omega
  · have none : after.quantity = 0 := by
      unfold WellFormed at good
      omega
    simp only [Slot.units, none, ite_self, Int.sub_zero]

end Slot

namespace PlayerInventory

variable {inventory before after : PlayerInventory}

/-- The items in the slots and in the magazines. -/
def rounds (inventory : PlayerInventory) (blueprintId : Nat) : Int :=
  inventory.ammo blueprintId + (inventory.magazineSlot true).units blueprintId
    + (inventory.magazineSlot false).units blueprintId

/-- Items have gone from the slots into the magazines; the equipment has stayed. -/
structure Drains (before after : PlayerInventory) : Prop where
  slots : ∀ index : SlotIndex,
    (before.inventorySlots.get index).Drains (after.inventorySlots.get index)
  rounds : ∀ blueprintId, after.rounds blueprintId = before.rounds blueprintId
  weapon : ∀ isPrimary, after.weaponSlot isPrimary = before.weaponSlot isPrimary
  armor : after.armorSlot = before.armorSlot

theorem Drains.refl (inventory : PlayerInventory) : inventory.Drains inventory :=
  ⟨fun _ => .refl _, fun _ => rfl, fun _ => rfl, rfl⟩

theorem Drains.trans {first second third : PlayerInventory} (h : first.Drains second)
    (later : second.Drains third)
    : first.Drains third where
  slots index := (h.slots index).trans (later.slots index)
  rounds blueprintId := (later.rounds blueprintId).trans (h.rounds blueprintId)
  weapon isPrimary := (later.weapon isPrimary).trans (h.weapon isPrimary)
  armor := later.armor.trans h.armor

/-- A magazine counts as the ammunition of its weapon. -/
theorem Orderly.magazine_units (orderly : inventory.Orderly) {isPrimary : Bool}
    {spec : WeaponSpec}
    (known : ItemDataManager.getWeaponSpec (inventory.weaponSlot isPrimary).item.blueprintId
      = some spec)
    (blueprintId : Nat)
    : (inventory.magazineSlot isPrimary).units blueprintId
      = if spec.ammoType = blueprintId then (inventory.magazineSlot isPrimary).quantity
        else 0 := by
  cases empty : (inventory.magazineSlot isPrimary).isEmpty with
  | true =>
      rw [(orderly.magazine isPrimary).units_of_empty empty,
        ((orderly.magazine isPrimary).of_empty empty).2, ite_self]
  | false =>
      obtain ⟨-, other, same, rounds, -⟩ := orderly.rounds isPrimary empty
      obtain rfl := Option.some.inj (known.symm.trans same)
      simp only [Slot.units, rounds]

/-- A magazine that fills up moves what the slots lose. -/
theorem FillsUp.drains {isPrimary : Bool} {spec : WeaponSpec} (good : before.Orderly)
    (later : after.Orderly)
    (known : ItemDataManager.getWeaponSpec (before.weaponSlot isPrimary).item.blueprintId
      = some spec)
    (h : FillsUp spec isPrimary before after)
    : before.Drains after where
  slots index := by
    by_cases feeds : (before.inventorySlots.get index).Feeds spec.ammoType
    · obtain ⟨take, nonneg, enough, taken⟩ := h.taken index feeds
      rw [taken]
      exact Slot.drains_take nonneg enough
    · rw [h.kept index feeds]
      exact .refl _
  rounds blueprintId := by
    have own := good.magazine_units known blueprintId
    have ownLater := later.magazine_units ((h.weapon isPrimary).symm ▸ known) blueprintId
    have other : (after.magazineSlot !isPrimary).units blueprintId
        = (before.magazineSlot !isPrimary).units blueprintId := by rw [h.otherMagazine]
    have moved : before.ammo blueprintId - after.ammo blueprintId
        = (after.magazineSlot isPrimary).units blueprintId
          - (before.magazineSlot isPrimary).units blueprintId := by
      rw [own, ownLater]
      by_cases same : spec.ammoType = blueprintId
      · subst same
        simpa using h.removed
      · have kept : after.ammo blueprintId = before.ammo blueprintId := by
          refine Finset.sum_congr rfl fun index _ => ?_
          by_cases feeds : (before.inventorySlots.get index).Feeds spec.ammoType
          · obtain ⟨take, nonneg, enough, taken⟩ := h.taken index feeds
            have foreign : (before.inventorySlots.get index).item.blueprintId
                ≠ blueprintId := fun equal => same (feeds.2.symm.trans equal)
            rw [taken, ((good.slots index).take nonneg enough).2, if_neg foreign, Int.sub_zero]
          · rw [h.kept index feeds]
        simp [same, kept]
    unfold rounds
    cases isPrimary with
    | true =>
        simp only [Bool.not_true] at other
        omega
    | false =>
        simp only [Bool.not_false] at other
        omega
  weapon := h.weapon
  armor := h.armor

theorem loadMagazineFromInventory_drains {isPrimary : Bool} (good : inventory.Orderly)
    (later : (inventory.loadMagazineFromInventory isPrimary).Orderly)
    : inventory.Drains (inventory.loadMagazineFromInventory isPrimary) := by
  cases armed : (inventory.weaponSlot isPrimary).isEmpty with
  | true =>
      rw [loadMagazineFromInventory_unarmed (.inl armed)]
      exact .refl inventory
  | false =>
      cases known : ItemDataManager.getWeaponSpec
          (inventory.weaponSlot isPrimary).item.blueprintId with
      | none =>
          rw [loadMagazineFromInventory_unarmed (.inr known)]
          exact .refl inventory
      | some spec =>
          exact (loadMagazineFromInventory_fillsUp good armed known).drains good later known

end PlayerInventory

theorem SlotStore.orderly {store : SlotStore} (stocked : store.Stocked)
    (loaded : ∀ isPrimary, store.Loaded isPrimary)
    : store.inventory.Orderly where
  slots index := stocked.wellFormed (.slot (.inventory index)) trivial
  magazine isPrimary := stocked.wellFormed (.magazine isPrimary) trivial
  rounds := loaded

namespace PlayerInventory

/-- The constructor moves rounds from the stacks that it is given into empty magazines. -/
theorem ofSlots_drains {inventorySlots equipmentSlots : List Slot}
    (slots : ∀ slot ∈ inventorySlots, slot.WellFormed)
    (equipment : ∀ slot ∈ equipmentSlots, slot.WellFormed)
    : (unarmed inventorySlots equipmentSlots).Drains (ofSlots inventorySlots equipmentSlots)
      ∧ (ofSlots inventorySlots equipmentSlots).Orderly
      ∧ ∀ blueprintId, (unarmed inventorySlots equipmentSlots).rounds blueprintId
        = (unarmed inventorySlots equipmentSlots).ammo blueprintId := by
  obtain ⟨stocked, empty⟩ := SlotStore.stocked_unarmed slots equipment
  obtain ⟨first, second⟩ := SlotStore.reloaded_unarmed slots equipment
  have start : (unarmed inventorySlots equipmentSlots).Orderly := by
    refine ⟨fun index => stocked.wellFormed (.slot (.inventory index)) trivial,
      fun isPrimary => ?_, fun isPrimary filled => ?_⟩
    · rw [empty]
      exact .inl ⟨rfl, rfl⟩
    · rw [empty] at filled
      cases filled
  have middle := SlotStore.orderly first.stocked first.loaded
  have last := SlotStore.orderly second.stocked second.loaded
  have both := (loadMagazineFromInventory_drains start middle).trans
    (loadMagazineFromInventory_drains middle last)
  rw [ofSlots_eq]
  refine ⟨⟨both.slots, both.rounds, both.weapon, both.armor⟩,
    ⟨last.slots, last.magazine, last.rounds⟩, fun blueprintId => ?_⟩
  have none : ({} : Slot).units blueprintId = 0 := ite_self 0
  simp only [rounds, empty, none, Int.add_zero]

end PlayerInventory

-----------------------------------------------------------------------------------------
-- Stacks and the places they name
-----------------------------------------------------------------------------------------

/-- What a place holds after some stacks of different indexes were put where they name: the one
that names it, or what it held before. By induction on the stacks.
-/
theorem foldl_placed {State : Type} {step : State → Slot → State} (view : State → Slot)
    {place : Int}
    (writes : ∀ state slot, view (step state slot)
      = if slot.slotIndex = place then slot else view state)
    {given : List Slot} (distinct : (given.map (·.slotIndex)).Nodup) (state : State)
    : (∃ slot ∈ given, slot.slotIndex = place ∧ view (given.foldl step state) = slot)
      ∨ (∀ slot ∈ given, slot.slotIndex ≠ place)
        ∧ view (given.foldl step state) = view state := by
  induction given generalizing state with
  | nil => exact .inr ⟨by simp, rfl⟩
  | cons slot rest ih =>
      obtain ⟨apart, distinct⟩ := List.nodup_cons.mp distinct
      rcases ih distinct (step state slot) with ⟨other, mem, named, held⟩ | ⟨others, held⟩
      · exact .inl ⟨other, List.mem_cons_of_mem _ mem, named, held⟩
      · rw [writes] at held
        by_cases named : slot.slotIndex = place
        · exact .inl ⟨slot, List.mem_cons_self, named, held.trans (if_pos named)⟩
        · refine .inr ⟨fun other mem => ?_, held.trans (if_neg named)⟩
          rcases List.mem_cons.mp mem with rfl | later
          · exact named
          · exact others other later

/-- The places of the equipment. -/
inductive EquipmentPlace where
  | primary
  | secondary
  | armor
deriving DecidableEq, Repr

def EquipmentPlace.index : EquipmentPlace → Int
  | .primary => 0
  | .secondary => 1
  | .armor => 2

namespace PlayerInventory

theorem get_placeSlot (slots : Vector Slot INVENTORY_SLOT_COUNT) (slot : Slot)
    (index : SlotIndex)
    : (placeSlot slots slot).get index
      = if slot.slotIndex = (index.val : Int) then slot else slots.get index := by
  have small := index.isLt
  unfold placeSlot
  split
  · next inRange =>
      have read : (slots.set slot.slotIndex.toNat slot (slotIndex_toNat_lt inRange)).get index
          = if slot.slotIndex.toNat = index.val then slot else slots.get index :=
        Vector.getElem_set (slotIndex_toNat_lt inRange) index.isLt
      rw [read]
      exact if_congr (by omega) rfl rfl
  · next outside => rw [if_neg (by omega)]

def equipmentSlot (inventory : PlayerInventory) : EquipmentPlace → Slot
  | .primary => inventory.primaryWeaponSlot
  | .secondary => inventory.secondaryWeaponSlot
  | .armor => inventory.armorSlot

theorem equipmentSlot_equipSlot (inventory : PlayerInventory) (slot : Slot)
    (place : EquipmentPlace)
    : (equipSlot inventory slot).equipmentSlot place
      = if slot.slotIndex = place.index then slot else inventory.equipmentSlot place := by
  by_cases primary : slot.slotIndex = 0
  · cases place <;> simp [equipSlot, equipmentSlot, EquipmentPlace.index, primary]
  · by_cases secondary : slot.slotIndex = 1
    · cases place <;> simp [equipSlot, equipmentSlot, EquipmentPlace.index, secondary]
    · by_cases armor : slot.slotIndex = 2
      · cases place <;> simp [equipSlot, equipmentSlot, EquipmentPlace.index, armor]
      · cases place <;>
          simp [equipSlot, equipmentSlot, EquipmentPlace.index, primary, secondary, armor]

/-- A slot of the inventory holds the stack that names it, or nothing. -/
theorem unarmed_slot {inventorySlots : List Slot}
    (distinct : (inventorySlots.map (·.slotIndex)).Nodup) (equipmentSlots : List Slot)
    (index : SlotIndex)
    : (∃ slot ∈ inventorySlots, slot.slotIndex = (index.val : Int)
        ∧ (unarmed inventorySlots equipmentSlots).inventorySlots.get index = slot)
      ∨ (∀ slot ∈ inventorySlots, slot.slotIndex ≠ (index.val : Int))
        ∧ (unarmed inventorySlots equipmentSlots).inventorySlots.get index
          = { slotIndex := (index.val : Int) } := by
  have same (inventory : PlayerInventory) : (equipmentSlots.foldl equipSlot
      inventory).inventorySlots = inventory.inventorySlots := by
    refine Table.foldl_view_eq PlayerInventory.inventorySlots ?_ inventory
    intro state slot _
    unfold equipSlot
    split_ifs <;> rfl
  have fresh : (Vector.ofFn fun index : SlotIndex =>
      ({ slotIndex := (index.val : Int) } : Slot)).get index
        = { slotIndex := (index.val : Int) } := Vector.getElem_ofFn index.isLt
  unfold unarmed
  rw [same, ← fresh]
  exact foldl_placed (Vector.get · index) (fun slots slot => get_placeSlot slots slot index)
    distinct _

/-- A place of the equipment holds the stack that names it, or nothing. -/
theorem unarmed_equipment (inventorySlots : List Slot) {equipmentSlots : List Slot}
    (distinct : (equipmentSlots.map (·.slotIndex)).Nodup) (place : EquipmentPlace)
    : (∃ slot ∈ equipmentSlots, slot.slotIndex = place.index
        ∧ (unarmed inventorySlots equipmentSlots).equipmentSlot place = slot)
      ∨ (∀ slot ∈ equipmentSlots, slot.slotIndex ≠ place.index)
        ∧ (unarmed inventorySlots equipmentSlots).equipmentSlot place = {} := by
  let bare : PlayerInventory :=
    { inventorySlots := inventorySlots.foldl placeSlot (Vector.ofFn fun index =>
        { slotIndex := (index.val : Int) }) }
  have fresh : bare.equipmentSlot place = {} := by cases place <;> rfl
  rw [← fresh]
  exact foldl_placed (equipmentSlot · place)
    (fun inventory slot => equipmentSlot_equipSlot inventory slot place) distinct bare

theorem Drains.equipmentSlot {before after : PlayerInventory} (h : before.Drains after)
    (place : EquipmentPlace)
    : after.equipmentSlot place = before.equipmentSlot place := by
  cases place with
  | primary => exact h.weapon true
  | secondary => exact h.weapon false
  | armor => exact h.armor

end PlayerInventory

-----------------------------------------------------------------------------------------
-- The rows of a recalled player
-----------------------------------------------------------------------------------------

/-- The rows that a session gets when it is recalled as it is. -/
def rowsOfRecall (session : PlayerSession) (now : TimePoint) (notifyRSeq : BitVec 32)
    : List InventoryRow :=
  (NotifyPlayerLeftRequest.ofPacket
    (session.markLeaving .recalled now notifyRSeq).leftNotice).rows

/-- The row of one slot, nothing for an empty slot. -/
def rowOf (uid slotIndex : Int) (slot : Slot) : Option InventoryRow :=
  if slot.isEmpty then none
  else
    some
      { uid, itemId := (slot.item.blueprintId : Int).bmod (2 ^ 32), slotIndex,
        quantity := slot.quantity }

theorem rowOf_eq_some_iff {uid slotIndex : Int} {slot : Slot} {row : InventoryRow}
    : rowOf uid slotIndex slot = some row
      ↔ slot.isEmpty = false
        ∧ row = { uid, itemId := (slot.item.blueprintId : Int).bmod (2 ^ 32), slotIndex,
                  quantity := slot.quantity } := by
  unfold rowOf
  cases slot.isEmpty with
  | true => simp
  | false => simp [eq_comm]

theorem map_ofSlot (uid base index : Int) (slot : Slot)
    : (ItemSlot.ofSlot index slot).map (fun s =>
        { uid, itemId := (s.itemId : Int).bmod (2 ^ 32), slotIndex := base + s.slotIndex,
          quantity := s.quantity : InventoryRow })
      = rowOf uid (base + index) slot := by
  unfold ItemSlot.ofSlot rowOf
  split <;> rfl

/-- The rows of the slots come first, then those of the equipment. -/
theorem rowsOfRecall_eq {session : PlayerSession} (staying : session.leaveState = .none)
    (now : TimePoint) (notifyRSeq : BitVec 32)
    : rowsOfRecall session now notifyRSeq
      = ((List.finRange INVENTORY_SLOT_COUNT).filterMap fun index =>
          rowOf session.uid (INVENTORY_SLOT_MIN + (index.val : Int))
            (session.inventory.inventorySlots.get index))
        ++ [EquipmentPlace.primary, .secondary, .armor].filterMap fun place =>
          rowOf session.uid (LOADOUT_SLOT_MIN + place.index)
            (session.inventory.equipmentSlot place) := by
  have accepts : session.acceptsLeaveReason .recalled = true := by
    simp [PlayerSession.acceptsLeaveReason, staying]
  have notice : (session.markLeaving .recalled now notifyRSeq).leftNotice
      = { uid := session.uid, leaveReason := .recalled
          inventorySlots := session.inventory.ipcInventorySlots
          equipmentSlots := session.inventory.ipcEquipmentSlots } := by
    simp only [PlayerSession.markLeaving, accepts, if_true, PlayerSession.leftNotice]
  simp only [rowsOfRecall, notice, NotifyPlayerLeftRequest.ofPacket,
    NotifyPlayerLeftRequest.rows, List.map_append, List.map_map]
  congr 1
  · simp only [PlayerInventory.ipcInventorySlots, List.map_filterMap]
    exact List.filterMap_congr fun index _ => map_ofSlot session.uid _ _ _
  · have equipment : session.inventory.ipcEquipmentSlots
        = [EquipmentPlace.primary, .secondary, .armor].filterMap fun place =>
            ItemSlot.ofSlot place.index (session.inventory.equipmentSlot place) := by
      rfl
    rw [equipment, List.map_filterMap]
    exact List.filterMap_congr fun place _ => map_ofSlot session.uid _ _ _

theorem mem_rowsOfRecall {session : PlayerSession} (staying : session.leaveState = .none)
    {now : TimePoint} {notifyRSeq : BitVec 32} {row : InventoryRow}
    : row ∈ rowsOfRecall session now notifyRSeq
      ↔ (∃ index : SlotIndex, rowOf session.uid (INVENTORY_SLOT_MIN + (index.val : Int))
          (session.inventory.inventorySlots.get index) = some row)
        ∨ ∃ place : EquipmentPlace, rowOf session.uid (LOADOUT_SLOT_MIN + place.index)
          (session.inventory.equipmentSlot place) = some row := by
  rw [rowsOfRecall_eq staying, List.mem_append, List.mem_filterMap, List.mem_filterMap]
  constructor
  · rintro (⟨index, -, found⟩ | ⟨place, -, found⟩)
    · exact .inl ⟨index, found⟩
    · exact .inr ⟨place, found⟩
  · rintro (⟨index, found⟩ | ⟨place, found⟩)
    · exact .inl ⟨index, List.mem_finRange index, found⟩
    · exact .inr ⟨place, by cases place <;> simp, found⟩

/-- Of indexed slots, each gives one row or none, by induction on the indexes. -/
theorem map_filterMap_sublist {Index : Type} {row : Index → Option InventoryRow}
    {number : Index → Int}
    (numbered : ∀ index found, row index = some found → found.slotIndex = number index)
    (indexes : List Index)
    : ((indexes.filterMap row).map (·.slotIndex)).Sublist (indexes.map number) := by
  induction indexes with
  | nil => exact .slnil
  | cons index rest ih =>
      cases found : row index with
      | none =>
          rw [List.filterMap_cons_none found]
          exact ih.cons _
      | some stored =>
          rw [List.filterMap_cons_some found, List.map_cons, List.map_cons,
            numbered index stored found]
          exact ih.cons_cons _

/-- The slot indexes of the rows are different and in the range of the raid. -/
theorem rowsOfRecall_slots {session : PlayerSession} (staying : session.leaveState = .none)
    (now : TimePoint) (notifyRSeq : BitVec 32)
    : ((rowsOfRecall session now notifyRSeq).map (·.slotIndex)).Nodup
      ∧ ∀ row ∈ rowsOfRecall session now notifyRSeq,
        INVENTORY_SLOT_MIN ≤ row.slotIndex ∧ row.slotIndex ≤ LOADOUT_SLOT_MAX := by
  have numbers : ((rowsOfRecall session now notifyRSeq).map (·.slotIndex)).Sublist
      ((List.finRange INVENTORY_SLOT_COUNT).map (fun index =>
          INVENTORY_SLOT_MIN + (index.val : Int))
        ++ [EquipmentPlace.primary, .secondary, .armor].map (LOADOUT_SLOT_MIN + ·.index)) := by
    rw [rowsOfRecall_eq staying, List.map_append]
    refine .append (map_filterMap_sublist ?_ _) (map_filterMap_sublist ?_ _)
    · exact fun index row found => by rw [(rowOf_eq_some_iff.mp found).2]
    · exact fun place row found => by rw [(rowOf_eq_some_iff.mp found).2]
  refine ⟨numbers.nodup (by decide), fun row mem => ?_⟩
  have inRange : ∀ slotIndex ∈ (List.finRange INVENTORY_SLOT_COUNT).map (fun index =>
          INVENTORY_SLOT_MIN + (index.val : Int))
        ++ [EquipmentPlace.primary, .secondary, .armor].map (LOADOUT_SLOT_MIN + ·.index),
      INVENTORY_SLOT_MIN ≤ slotIndex ∧ slotIndex ≤ LOADOUT_SLOT_MAX := by decide
  exact inRange _ (numbers.subset (List.mem_map_of_mem mem))

-----------------------------------------------------------------------------------------
-- What was brought
-----------------------------------------------------------------------------------------

/-- Rounds that the constructor has moved, by the slot that they come from: they were in the
stacks of the snapshot, and of each item as many were moved as the magazines hold.
-/
structure MovedRounds (items : List InventoryItem) (inventory : PlayerInventory)
    (moved : SlotIndex → Int) : Prop where
  nonneg : ∀ index, 0 ≤ moved index
  source : ∀ index, moved index ≠ 0 → ∃ item ∈ items,
    item.slotIndex = INVENTORY_SLOT_MIN + (index.val : Int) ∧ moved index ≤ item.quantity
  total : ∀ itemId : Nat,
    (∑ index : SlotIndex,
      if items.any fun item => item.slotIndex == INVENTORY_SLOT_MIN + (index.val : Int)
          && item.itemId == (itemId : Int) then moved index else 0)
    = (inventory.magazineSlot true).units itemId
      + (inventory.magazineSlot false).units itemId

/-- The rows that come back are those of the snapshot in the slots 80 to 107, without the rounds
that the constructor has moved into the magazines.
-/
structure ComesBack (uid : Int) (items : List InventoryItem) (inventory : PlayerInventory)
    (rows : List InventoryRow) : Prop where
  distinct : (rows.map (·.slotIndex)).Nodup
  inRange : ∀ row ∈ rows,
    INVENTORY_SLOT_MIN ≤ row.slotIndex ∧ row.slotIndex ≤ LOADOUT_SLOT_MAX
  rows : ∃ moved, MovedRounds items inventory moved ∧ ∀ row, row ∈ rows
    ↔ row.uid = uid ∧ 0 < row.quantity
      ∧ ∃ item ∈ items, row.itemId = item.itemId ∧ row.slotIndex = item.slotIndex
        ∧ ((∃ index : SlotIndex, item.slotIndex = INVENTORY_SLOT_MIN + (index.val : Int)
            ∧ row.quantity = item.quantity - moved index)
          ∨ LOADOUT_SLOT_MIN ≤ item.slotIndex ∧ item.slotIndex ≤ LOADOUT_SLOT_MAX
            ∧ row.quantity = item.quantity)

namespace Storable

variable {catalog : Catalog} {items : List InventoryItem}

/-- Two entries for one slot are the same entry. -/
theorem eq_of_slotIndex (h : Storable catalog items) {item other : InventoryItem}
    (mem : item ∈ items) (memOther : other ∈ items)
    (same : item.slotIndex = other.slotIndex)
    : item = other :=
  List.inj_on_of_nodup_map h.slots mem memOther same

/-- The stack of an entry in the inventory of a session. -/
def inventoryStack (item : InventoryItem) : Slot where
  item := { blueprintId := item.itemId.toNat }
  slotIndex := item.slotIndex - INVENTORY_SLOT_MIN
  quantity := item.quantity

/-- An entry in an equipment slot comes as a single item. -/
def equipmentStack (item : InventoryItem) : Slot where
  item := { blueprintId := item.itemId.toNat }
  slotIndex := item.slotIndex - LOADOUT_SLOT_MIN
  quantity := 1

theorem inventory_stacks (h : Storable catalog items) (ids : IntIds catalog)
    : ((customLoadout items).inventoryItems.map InventoryEntry.toSlot).map
        DediServerService.toSlot
      = (inventoryRaw items).map inventoryStack := by
  simp only [customLoadout, List.map_map]
  refine List.map_congr_left fun item chosen => ?_
  obtain ⟨mem, range⟩ := List.mem_filter.mp chosen
  have inRange := of_decide_eq_true range
  simp only [INVENTORY_SLOT_MIN, LOADOUT_SLOT_MIN] at inRange
  obtain ⟨positive, -, -, counted⟩ := h.wellFormed item mem
  have bounded := (h.known item mem).2
  have index : getInt32 (item.slotIndex - INVENTORY_SLOT_MIN)
      = item.slotIndex - INVENTORY_SLOT_MIN := by
    simp only [INVENTORY_SLOT_MIN]
    exact Int.bmod_eq_of_le (by omega) (by omega)
  have quantity : getInt32 item.quantity = item.quantity :=
    Int.bmod_eq_of_le (by omega) (by omega)
  simp only [Function.comp_apply, InventoryEntry.toSlot, DediServerService.toSlot,
    inventoryStack, h.getUInt32_itemId ids mem, index, quantity]

theorem equipment_stacks (h : Storable catalog items) (ids : IntIds catalog)
    : ((customLoadout items).equipmentItems.map EquipmentEntry.toSlot).map
        DediServerService.toSlot
      = (equipmentRaw items).map equipmentStack := by
  simp only [customLoadout, List.map_map]
  refine List.map_congr_left fun item chosen => ?_
  have mem := List.mem_of_mem_filter chosen
  simp only [Function.comp_apply, EquipmentEntry.toSlot, DediServerService.toSlot,
    equipmentStack, h.getUInt32_itemId ids mem, getInt32_slotIndex chosen]

theorem stacks_distinct (h : Storable catalog items) (base : Int)
    (chosen : InventoryItem → Bool) (stack : InventoryItem → Slot)
    (index : ∀ item, (stack item).slotIndex = item.slotIndex - base)
    : (((items.filter chosen).map stack).map (·.slotIndex)).Nodup := by
  have apart : ((items.filter chosen).map (·.slotIndex)).Nodup :=
    h.slots.sublist (List.filter_sublist.map _)
  have shifted : ((items.filter chosen).map stack).map (·.slotIndex)
      = ((items.filter chosen).map (·.slotIndex)).map (· - base) := by
    simp only [List.map_map]
    exact List.map_congr_left fun item _ => index item
  rw [shifted]
  exact apart.map fun _ _ same => sub_left_injective same

/-- The inventory that the constructor gets, before and after it loads the magazines. -/
def brought (items : List InventoryItem) : PlayerInventory :=
  .unarmed ((inventoryRaw items).map inventoryStack) ((equipmentRaw items).map equipmentStack)

def loaded (items : List InventoryItem) : PlayerInventory :=
  .ofSlots ((inventoryRaw items).map inventoryStack) ((equipmentRaw items).map equipmentStack)

/-- The rounds that the magazines have taken out of a slot. -/
def taken (items : List InventoryItem) (index : SlotIndex) : Int :=
  ((brought items).inventorySlots.get index).quantity
    - ((loaded items).inventorySlots.get index).quantity

/-- A slot of the inventory has the stack of the entry for it, or nothing. -/
theorem brought_slot (h : Storable catalog items) (index : SlotIndex)
    : (∃ item ∈ items, item.slotIndex = INVENTORY_SLOT_MIN + (index.val : Int)
        ∧ (brought items).inventorySlots.get index = inventoryStack item)
      ∨ (∀ item ∈ items, item.slotIndex ≠ INVENTORY_SLOT_MIN + (index.val : Int))
        ∧ (brought items).inventorySlots.get index = { slotIndex := (index.val : Int) } := by
  have small := index.isLt
  simp only [INVENTORY_SLOT_COUNT] at small
  rcases PlayerInventory.unarmed_slot
      (h.stacks_distinct INVENTORY_SLOT_MIN _ inventoryStack fun _ => rfl)
      ((equipmentRaw items).map equipmentStack) index with ⟨slot, mem, named, held⟩ | ⟨none, held⟩
  · obtain ⟨item, chosen, rfl⟩ := List.mem_map.mp mem
    have index : item.slotIndex - INVENTORY_SLOT_MIN = (index.val : Int) := named
    exact .inl ⟨item, List.mem_of_mem_filter chosen, by omega, held⟩
  · refine .inr ⟨fun item mem same => ?_, held⟩
    have chosen : item ∈ inventoryRaw items := by
      refine List.mem_filter.mpr ⟨mem, decide_eq_true ?_⟩
      simp only [INVENTORY_SLOT_MIN, LOADOUT_SLOT_MIN] at same ⊢
      omega
    refine none (inventoryStack item) (List.mem_map_of_mem chosen) ?_
    show item.slotIndex - INVENTORY_SLOT_MIN = (index.val : Int)
    omega

/-- A place of the equipment has one item of the entry for it, or nothing. -/
theorem brought_equipment (h : Storable catalog items) (place : EquipmentPlace)
    : (∃ item ∈ items, item.slotIndex = LOADOUT_SLOT_MIN + place.index
        ∧ (brought items).equipmentSlot place = equipmentStack item)
      ∨ (∀ item ∈ items, item.slotIndex ≠ LOADOUT_SLOT_MIN + place.index)
        ∧ (brought items).equipmentSlot place = {} := by
  rcases PlayerInventory.unarmed_equipment ((inventoryRaw items).map inventoryStack)
      (h.stacks_distinct LOADOUT_SLOT_MIN _ equipmentStack fun _ => rfl) place with
    ⟨slot, mem, named, held⟩ | ⟨none, held⟩
  · obtain ⟨item, chosen, rfl⟩ := List.mem_map.mp mem
    have index : item.slotIndex - LOADOUT_SLOT_MIN = place.index := named
    exact .inl ⟨item, List.mem_of_mem_filter chosen, by omega, held⟩
  · refine .inr ⟨fun item mem same => ?_, held⟩
    have chosen : item ∈ equipmentRaw items := by
      refine List.mem_filter.mpr ⟨mem, decide_eq_true ?_⟩
      rw [same]
      cases place <;> decide
    refine none (equipmentStack item) (List.mem_map_of_mem chosen) ?_
    show item.slotIndex - LOADOUT_SLOT_MIN = place.index
    omega

theorem wellFormed_inventoryStack (h : Storable catalog items) {item : InventoryItem}
    (mem : item ∈ items)
    : (inventoryStack item).WellFormed := by
  obtain ⟨positive, -, -, counted⟩ := h.wellFormed item mem
  exact .inr ⟨by show item.itemId.toNat ≠ 0; omega, counted⟩

theorem wellFormed_equipmentStack (h : Storable catalog items) {item : InventoryItem}
    (mem : item ∈ items)
    : (equipmentStack item).WellFormed := by
  have positive := (h.wellFormed item mem).1
  exact .inr ⟨by show item.itemId.toNat ≠ 0; omega, Int.le_refl 1⟩

theorem loaded_drains (h : Storable catalog items)
    : (brought items).Drains (loaded items) ∧ (loaded items).Orderly
      ∧ ∀ blueprintId, (brought items).rounds blueprintId
        = (brought items).ammo blueprintId := by
  refine PlayerInventory.ofSlots_drains (fun slot mem => ?_) fun slot mem => ?_
  · obtain ⟨item, chosen, rfl⟩ := List.mem_map.mp mem
    exact h.wellFormed_inventoryStack (List.mem_of_mem_filter chosen)
  · obtain ⟨item, chosen, rfl⟩ := List.mem_map.mp mem
    exact h.wellFormed_equipmentStack (List.mem_of_mem_filter chosen)

/-- The item id of an entry comes through the blueprint id unchanged. -/
theorem itemId_bmod (h : Storable catalog items) (ids : IntIds catalog) {item : InventoryItem}
    (mem : item ∈ items)
    : (item.itemId.toNat : Int).bmod (2 ^ 32) = item.itemId := by
  have positive := (h.wellFormed item mem).1
  have small := ids item.itemId (h.known item mem).1
  rw [Int.toNat_of_nonneg (by omega)]
  exact Int.bmod_eq_of_le (by omega) (by omega)

/-- The rounds that are gone from the slots are in the magazines. -/
theorem movedRounds_taken (h : Storable catalog items)
    : MovedRounds items (loaded items) (taken items) := by
  obtain ⟨drains, orderly, start⟩ := h.loaded_drains
  have less (index : SlotIndex) := (drains.slots index).less
  refine ⟨fun index => ?_, fun index some => ?_, fun itemId => ?_⟩
  · have := less index
    unfold taken
    omega
  · have left : 0 ≤ ((loaded items).inventorySlots.get index).quantity := by
      have good := orderly.slots index
      unfold Slot.WellFormed at good
      omega
    unfold taken at some ⊢
    rcases h.brought_slot index with ⟨item, mem, named, held⟩ | ⟨-, held⟩
    · refine ⟨item, mem, named, ?_⟩
      rw [held]
      show item.quantity - _ ≤ item.quantity
      omega
    · have := less index
      rw [held] at some this
      simp only at some this
      omega
  · have conserved := drains.rounds itemId
    rw [start] at conserved
    have lost : (brought items).ammo itemId - (loaded items).ammo itemId
        = ∑ index : SlotIndex,
          if items.any fun item => item.slotIndex == INVENTORY_SLOT_MIN + (index.val : Int)
              && item.itemId == (itemId : Int) then taken items index else 0 := by
      unfold PlayerInventory.ammo
      rw [← Finset.sum_sub_distrib]
      refine Finset.sum_congr rfl fun index _ => ?_
      rw [(drains.slots index).units (orderly.slots index)]
      rcases h.brought_slot index with ⟨item, mem, named, held⟩ | ⟨none, held⟩
      · have positive := (h.wellFormed item mem).1
        have own : (items.any fun other =>
            other.slotIndex == INVENTORY_SLOT_MIN + (index.val : Int)
              && other.itemId == (itemId : Int)) = true
            ↔ ((brought items).inventorySlots.get index).item.blueprintId = itemId := by
          rw [held]
          simp only [List.any_eq_true, Bool.and_eq_true, beq_iff_eq, inventoryStack]
          constructor
          · rintro ⟨other, memOther, place, same⟩
            obtain rfl := h.eq_of_slotIndex memOther mem (place.trans named.symm)
            omega
          · exact fun same => ⟨item, mem, named, by omega⟩
        exact if_congr own.symm rfl rfl
      · have nobody : (items.any fun item =>
            item.slotIndex == INVENTORY_SLOT_MIN + (index.val : Int)
              && item.itemId == (itemId : Int)) = false := by
          simp only [List.any_eq_false, Bool.and_eq_true, beq_iff_eq, not_and]
          exact fun item mem named => absurd named (none item mem)
        have still : ((brought items).inventorySlots.get index).quantity
            - ((loaded items).inventorySlots.get index).quantity = 0 := by
          have := less index
          have good := orderly.slots index
          unfold Slot.WellFormed at good
          rw [held] at this ⊢
          simp only at this ⊢
          omega
        simp [nobody, still]
    rw [← lost]
    unfold PlayerInventory.rounds at conserved
    omega

section Rows

variable {session : PlayerSession} {row : InventoryRow}

theorem row_eq {uid itemId slotIndex quantity : Int} (sameUid : row.uid = uid)
    (sameItem : row.itemId = itemId) (sameSlot : row.slotIndex = slotIndex)
    (sameQuantity : row.quantity = quantity)
    : row = { uid, itemId, slotIndex, quantity } := by
  subst sameUid sameItem sameSlot sameQuantity
  rfl

/-- The row of an inventory slot is that of the entry for the slot, without the rounds that are
gone.
-/
theorem inventory_row (h : Storable catalog items) (ids : IntIds catalog)
    (inventory : session.inventory = loaded items)
    : (∃ index : SlotIndex, rowOf session.uid (INVENTORY_SLOT_MIN + (index.val : Int))
        (session.inventory.inventorySlots.get index) = some row)
      ↔ row.uid = session.uid ∧ 0 < row.quantity
        ∧ ∃ item ∈ items, row.itemId = item.itemId ∧ row.slotIndex = item.slotIndex
          ∧ ∃ index : SlotIndex, item.slotIndex = INVENTORY_SLOT_MIN + (index.val : Int)
            ∧ row.quantity = item.quantity - taken items index := by
  obtain ⟨drains, orderly, -⟩ := h.loaded_drains
  simp only [rowOf_eq_some_iff, inventory]
  constructor
  · rintro ⟨index, filled, rfl⟩
    have some := ((orderly.slots index).of_filled filled).2
    have less := (drains.slots index).less
    have same := (drains.slots index).item (by omega)
    rcases h.brought_slot index with ⟨item, mem, named, held⟩ | ⟨-, held⟩
    · have number := h.itemId_bmod ids mem
      refine ⟨rfl, by dsimp only; omega, item, mem, ?_, named.symm, index, named, ?_⟩
      · dsimp only
        rw [same, held]
        exact number
      · have whole : ((brought items).inventorySlots.get index).quantity = item.quantity := by
          rw [held]
          rfl
        simp only [taken, whole]
        omega
    · rw [held] at less
      simp only at less
      omega
  · rintro ⟨uid, positive, item, mem, itemId, slotIndex, index, named, quantity⟩
    rcases h.brought_slot index with ⟨other, memOther, place, held⟩ | ⟨none, -⟩
    · obtain rfl := h.eq_of_slotIndex memOther mem (place.trans named.symm)
      have whole : ((brought items).inventorySlots.get index).quantity = other.quantity := by
        rw [held]
        rfl
      have left : ((loaded items).inventorySlots.get index).quantity = row.quantity := by
        rw [quantity, taken, whole]
        omega
      have same := (drains.slots index).item (by omega)
      have filled : ((loaded items).inventorySlots.get index).isEmpty = false := by
        rw [Bool.eq_false_iff]
        intro empty
        have := ((orderly.slots index).of_empty empty).2
        omega
      have number : (((loaded items).inventorySlots.get index).item.blueprintId : Int).bmod
          (2 ^ 32) = other.itemId := by
        rw [same, held]
        exact h.itemId_bmod ids mem
      refine ⟨index, filled, row_eq uid ?_ (slotIndex.trans named) left.symm⟩
      exact itemId.trans number.symm
    · exact absurd named (none item mem)

/-- The row of an equipment slot is that of the entry for it, with a single item. -/
theorem equipment_row (h : Storable catalog items) (ids : IntIds catalog)
    (inventory : session.inventory = loaded items)
    : (∃ place : EquipmentPlace, rowOf session.uid (LOADOUT_SLOT_MIN + place.index)
        (session.inventory.equipmentSlot place) = some row)
      ↔ row.uid = session.uid
        ∧ ∃ item ∈ items, row.itemId = item.itemId ∧ row.slotIndex = item.slotIndex
          ∧ LOADOUT_SLOT_MIN ≤ item.slotIndex ∧ item.slotIndex ≤ LOADOUT_SLOT_MAX
          ∧ row.quantity = 1 := by
  obtain ⟨drains, -, -⟩ := h.loaded_drains
  simp only [rowOf_eq_some_iff, inventory, drains.equipmentSlot]
  constructor
  · rintro ⟨place, filled, rfl⟩
    rcases h.brought_equipment place with ⟨item, mem, named, held⟩ | ⟨-, held⟩
    · have number := h.itemId_bmod ids mem
      rw [held]
      refine ⟨rfl, item, mem, ?_, named.symm, ?_, ?_, rfl⟩
      · dsimp only
        exact number
      · rw [named]
        cases place <;> decide
      · rw [named]
        cases place <;> decide
    · rw [held] at filled
      cases filled
  · rintro ⟨uid, item, mem, itemId, slotIndex, above, below, quantity⟩
    obtain ⟨place, named⟩ : ∃ place : EquipmentPlace,
        item.slotIndex = LOADOUT_SLOT_MIN + place.index := by
      simp only [LOADOUT_SLOT_MIN, LOADOUT_SLOT_MAX] at above below ⊢
      have three : item.slotIndex = 105 ∨ item.slotIndex = 106 ∨ item.slotIndex = 107 := by
        omega
      rcases three with primary | secondary | armor
      · exact ⟨.primary, primary⟩
      · exact ⟨.secondary, secondary⟩
      · exact ⟨.armor, armor⟩
    rcases h.brought_equipment place with ⟨other, memOther, there, held⟩ | ⟨none, -⟩
    · obtain rfl := h.eq_of_slotIndex memOther mem (there.trans named.symm)
      have filled := (h.wellFormed_equipmentStack mem).isEmpty_iff
      refine ⟨place, ?_, ?_⟩
      · rw [held, Bool.eq_false_iff]
        intro empty
        have positive := (h.wellFormed other mem).1
        have zero : other.itemId.toNat = 0 := filled.mp empty
        omega
      · rw [held]
        refine row_eq uid ?_ (slotIndex.trans named) quantity
        exact itemId.trans (h.itemId_bmod ids mem).symm
    · exact absurd named (none item mem)

/-- The rows that come back in full detail. -/
theorem comesBack_iff (h : Storable catalog items) (ids : IntIds catalog)
    (inventory : session.inventory = loaded items) (staying : session.leaveState = .none)
    (now : TimePoint) (notifyRSeq : BitVec 32)
    : ComesBack session.uid items session.inventory (rowsOfRecall session now notifyRSeq)
      ↔ ∀ item ∈ items, LOADOUT_SLOT_MIN ≤ item.slotIndex → item.quantity = 1 := by
  constructor
  · rintro ⟨-, -, moved, -, same⟩ item mem equipped
    have limit := (h.wellFormed item mem).2.2.1
    let single : InventoryRow :=
      { uid := session.uid, itemId := item.itemId, slotIndex := item.slotIndex, quantity := 1 }
    have returned : single ∈ rowsOfRecall session now notifyRSeq := by
      refine (mem_rowsOfRecall staying).mpr (.inr ((h.equipment_row ids inventory).mpr ?_))
      exact ⟨rfl, item, mem, rfl, rfl, equipped, limit, rfl⟩
    obtain ⟨-, -, other, memOther, -, place, kind⟩ := (same single).mp returned
    obtain rfl := h.eq_of_slotIndex mem memOther place
    rcases kind with ⟨index, named, -⟩ | ⟨-, -, quantity⟩
    · have small := index.isLt
      simp only [INVENTORY_SLOT_COUNT, INVENTORY_SLOT_MIN, LOADOUT_SLOT_MIN] at *
      omega
    · exact quantity.symm
  · intro singles
    obtain ⟨distinct, inRange⟩ := rowsOfRecall_slots staying now notifyRSeq
    refine ⟨distinct, inRange, taken items, inventory ▸ h.movedRounds_taken, fun row => ?_⟩
    rw [mem_rowsOfRecall staying, h.inventory_row ids inventory, h.equipment_row ids inventory]
    constructor
    · rintro (⟨uid, positive, item, mem, itemId, slotIndex, slot⟩
        | ⟨uid, item, mem, itemId, slotIndex, above, below, single⟩)
      · exact ⟨uid, positive, item, mem, itemId, slotIndex, .inl slot⟩
      · refine ⟨uid, by omega, item, mem, itemId, slotIndex, .inr ⟨above, below, ?_⟩⟩
        rw [single, singles item mem above]
    · rintro ⟨uid, positive, item, mem, itemId, slotIndex, slot | ⟨above, below, quantity⟩⟩
      · exact .inl ⟨uid, positive, item, mem, itemId, slotIndex, slot⟩
      · refine .inr ⟨uid, item, mem, itemId, slotIndex, above, below, ?_⟩
        rw [quantity, singles item mem above]

end Rows

end Storable

/-- An accepted snapshot becomes the session of its ticket. -/
theorem session_of_start {catalog : Catalog} {fails : Call → Bool}
    {index : Fin FREE_LOADOUT_PRESETS.length} {ticketId : String} {client : SessionHash}
    {state : StartState} {body : JavaScript.Value} {request : StartRequest}
    {hash : TicketHash} {fields : TicketFields} (ids : IntIds catalog)
    (read : readStart body = .ok request) (custom : request.loadoutType = .custom)
    (success : (start catalog fails index ticketId client state (some body)).2
      = .success ticketId)
    (stored : (start catalog fails index ticketId client state
      (some body)).1.redis.tickets.lookup ticketId = some hash)
    (created : hash.fields = some fields) (ticket : MatchTicket) (securityKey : BitVec 32)
    : Storable catalog request.snapshot.items
      ∧ (DediServerService.newSession (ticket.toPlayerInfo fields) securityKey).inventory
        = Storable.loaded request.snapshot.items := by
  obtain ⟨same, account, loadout, again, committed, -, inventoryItems, equipmentItems⟩ :=
    start_success success stored created
  obtain rfl := Except.ok.inj (read.symm.trans again)
  obtain ⟨rfl, -⟩ := startTransaction_custom committed custom
  have storable := storable_of_committed committed
  refine ⟨storable, ?_⟩
  simp only [DediServerService.newSession, MatchTicket.toPlayerInfo, inventoryItems,
    equipmentItems, Storable.loaded]
  rw [storable.inventory_stacks ids, storable.equipment_stacks ids]

/-- Entering a raid and coming straight back keeps the rows of an accepted `CUSTOM` snapshot, but
for the rounds in the magazines, exactly if no equipment slot holds more than one item.
-/
theorem raid_returns_snapshot_iff {catalog : Catalog} {fails : Call → Bool}
    {index : Fin FREE_LOADOUT_PRESETS.length} {ticketId : String} {client : SessionHash}
    {state : StartState} {body : JavaScript.Value} {request : StartRequest}
    {hash : TicketHash} {fields : TicketFields} (ids : IntIds catalog)
    (read : readStart body = .ok request) (custom : request.loadoutType = .custom)
    (success : (start catalog fails index ticketId client state (some body)).2
      = .success ticketId)
    (stored : (start catalog fails index ticketId client state
      (some body)).1.redis.tickets.lookup ticketId = some hash)
    (created : hash.fields = some fields) (ticket : MatchTicket) (securityKey : BitVec 32)
    (now : TimePoint) (notifyRSeq : BitVec 32)
    : ComesBack fields.uid request.snapshot.items
        (DediServerService.newSession (ticket.toPlayerInfo fields) securityKey).inventory
        (rowsOfRecall (DediServerService.newSession (ticket.toPlayerInfo fields) securityKey)
          now notifyRSeq)
      ↔ ∀ item ∈ request.snapshot.items, LOADOUT_SLOT_MIN ≤ item.slotIndex →
        item.quantity = 1 := by
  obtain ⟨storable, inventory⟩ :=
    session_of_start ids read custom success stored created ticket securityKey
  exact storable.comesBack_iff ids inventory rfl now notifyRSeq

-----------------------------------------------------------------------------------------
-- A rifleman
-----------------------------------------------------------------------------------------

namespace RoundTrip

/-- An AK-47 and its ammunition. -/
def riflesTable : Catalog where
  items := (AList.singleton 1 .weapon).insert 6 .ammo
  shop := ∅
  itemMeta := ∅

/-- A start with some AK-47 in the primary slot and fifty rounds. -/
def riflemanStart (rifles : Int) : JavaScript.Value :=
  .object
    [("mapId", .integer 0), ("characterType", .integer 0), ("loadoutType", .string "CUSTOM"),
      ("inventory", .array
        [.object [("item_id", .integer 1), ("slot_index", .integer 105),
            ("quantity", .integer rifles)],
          .object [("item_id", .integer 6), ("slot_index", .integer 83),
            ("quantity", .integer 50)]])]

def riflemanItems (rifles : Int) : List InventoryItem :=
  [{ itemId := 1, slotIndex := 105, quantity := rifles },
    { itemId := 6, slotIndex := 83, quantity := 50 }]

def owner (rifles : Int) : StartState where
  account :=
    { rows :=
        [{ itemId := 1, slotIndex := 0, quantity := rifles },
          { itemId := 6, slotIndex := 1, quantity := 50 }]
      money := some 0 }
  redis := {}

/-- The fields of the ticket do not tell how many rifles there were. -/
def riflemanFields : TicketFields where
  uid := 1
  userId := "alpha"
  rating := 1500
  aggression := 5
  loadoutType := .custom
  mapId := 0
  characterType := 0
  inventoryItems := [{ itemId := 6, quantity := 50, inventorySlotId := 3 }]
  equipmentItems := [{ itemId := 1, equipmentSlotId := 0 }]

def riflemanTicket : MatchTicket where
  ticketId := "ticket"
  uId := 1
  aggression := 5
  mapId := 0
  characterType := 0
  startTime := 0

def riflemanSession : PlayerSession :=
  DediServerService.newSession (riflemanTicket.toPlayerInfo riflemanFields) 0

theorem riflesTable_intIds : IntIds riflesTable := by
  intro itemId mem
  have known : itemId = 6 ∨ itemId = 1 := by
    simpa [riflesTable, AList.keys_insert] using AList.mem_keys.mp mem
  rcases known with rfl | rfl <;> decide

theorem readStart_rifleman {rifles : Int} (known : rifles = 1 ∨ rifles = 2)
    : ∃ request, readStart (riflemanStart rifles) = .ok request
      ∧ request.loadoutType = .custom
      ∧ request.snapshot.items = riflemanItems rifles := by
  have accepted : (readStart (riflemanStart rifles)).toOption.any (fun request =>
      decide (request.loadoutType = .custom)
        && decide (request.snapshot.items = riflemanItems rifles)) = true := by
    rcases known with rfl | rfl <;> decide +kernel
  obtain ⟨request, found, holds⟩ := (Option.any_eq_true _ _).mp accepted
  simp only [Bool.and_eq_true, decide_eq_true_eq] at holds
  refine ⟨request, ?_, holds⟩
  cases read : readStart (riflemanStart rifles) with
  | error stop =>
      rw [read] at found
      cases found
  | ok other =>
      rw [read] at found
      cases found
      rfl

/-- The start is accepted, with one rifle or with two. -/
theorem start_rifleman {rifles : Int} (known : rifles = 1 ∨ rifles = 2)
    : (start riflesTable (fun _ => false) ⟨0, by decide⟩ "ticket" playerSession (owner rifles)
        (some (riflemanStart rifles))).2 = .success "ticket"
      ∧ (start riflesTable (fun _ => false) ⟨0, by decide⟩ "ticket" playerSession
          (owner rifles) (some (riflemanStart rifles))).1.redis.tickets.lookup "ticket"
        = some { fields := some riflemanFields, status := some .waiting, ttl := some 300 } := by
  rcases known with rfl | rfl <;> decide +kernel

/-- With one rifle everything but the thirty rounds in its magazine comes back. -/
theorem raid_returns_snapshot_rifle
    : ∃ request, readStart (riflemanStart 1) = .ok request
      ∧ ComesBack 1 request.snapshot.items riflemanSession.inventory
        (rowsOfRecall riflemanSession 0 0) := by
  obtain ⟨request, read, custom, items⟩ := readStart_rifleman (.inl rfl)
  obtain ⟨success, stored⟩ := start_rifleman (.inl rfl)
  refine ⟨request, read, (raid_returns_snapshot_iff riflesTable_intIds read custom success
    stored rfl riflemanTicket 0 0 0).mpr ?_⟩
  rw [items]
  decide

/-- Of two rifles in the primary slot one comes back. -/
theorem raid_loses_rifle
    : ¬∀ (catalog : Catalog) (fails : Call → Bool) (index : Fin FREE_LOADOUT_PRESETS.length)
        (ticketId : String) (client : SessionHash) (state : StartState)
        (body : JavaScript.Value) (request : StartRequest) (hash : TicketHash)
        (fields : TicketFields) (ticket : MatchTicket) (securityKey : BitVec 32)
        (now : TimePoint) (notifyRSeq : BitVec 32), IntIds catalog →
        readStart body = .ok request → request.loadoutType = .custom →
        (start catalog fails index ticketId client state (some body)).2 = .success ticketId →
        (start catalog fails index ticketId client state (some body)).1.redis.tickets.lookup
          ticketId = some hash →
        hash.fields = some fields →
          ComesBack fields.uid request.snapshot.items
            (DediServerService.newSession (ticket.toPlayerInfo fields) securityKey).inventory
            (rowsOfRecall (DediServerService.newSession (ticket.toPlayerInfo fields) securityKey)
              now notifyRSeq) := by
  intro returns
  obtain ⟨request, read, custom, items⟩ := readStart_rifleman (.inr rfl)
  obtain ⟨success, stored⟩ := start_rifleman (.inr rfl)
  have back := returns _ _ _ _ _ _ _ request _ _ riflemanTicket 0 0 0 riflesTable_intIds read
    custom success stored rfl
  obtain ⟨storable, inventory⟩ :=
    session_of_start riflesTable_intIds read custom success stored rfl riflemanTicket 0
  have singles := (storable.comesBack_iff riflesTable_intIds inventory rfl 0 0).mp back
  rw [items] at singles
  have two : (2 : Int) = 1 :=
    singles { itemId := 1, slotIndex := 105, quantity := 2 } List.mem_cons_self (by decide)
  exact absurd two (by decide)

end RoundTrip

end ExtractionServer.Room
