import ExtractionServer.Lobby.Wealth
import ExtractionServer.Room.Holdings
import ExtractionServer.Room.RaidRoundTrip
import Mathlib.Algebra.Ring.Int.Defs

/-! What crosses the border between the rows of an account and the inventory of a session, in
numbers of each item: what a loadout brings in, and what a leave writes back.
-/

namespace ExtractionServer.Lobby

-----------------------------------------------------------------------------------------
-- Rows of one account
-----------------------------------------------------------------------------------------

def InventoryRow.toItem (row : InventoryRow) : InventoryItem where
  itemId := row.itemId
  slotIndex := row.slotIndex
  quantity := row.quantity

/-- The rows of one account in the table. -/
def itemsOf (uid : Int) (table : List InventoryRow) : List InventoryItem :=
  (table.filter (·.uid == uid)).map InventoryRow.toItem

/-- The rows that a raid can change, and the others. -/
def raidRows (rows : List InventoryItem) : List InventoryItem :=
  rows.filter (INVENTORY_SLOT_MIN ≤ ·.slotIndex)

def warehouseRows (rows : List InventoryItem) : List InventoryItem :=
  rows.filter (·.slotIndex < INVENTORY_SLOT_MIN)

/-- The rows of an account after a leave that has been applied. -/
def NotifyPlayerLeftRequest.home (request : NotifyPlayerLeftRequest)
    (rows : List InventoryItem)
    : List InventoryItem :=
  warehouseRows rows ++ request.rows.map InventoryRow.toItem

theorem totalOf_concat (first second : List InventoryItem) (itemId : Int)
    : totalOf (first ++ second) itemId = totalOf first itemId + totalOf second itemId := by
  rw [totalOf, List.map_append, Ledger.amount_append]
  rfl

theorem totalOf_cons (row : InventoryItem) (rest : List InventoryItem) (itemId : Int)
    : totalOf (row :: rest) itemId
      = (if row.itemId = itemId then row.quantity else 0) + totalOf rest itemId := by
  have first : totalOf [row] itemId = if row.itemId = itemId then row.quantity else 0 :=
    Ledger.amount_singleton row.booking itemId
  rw [← first]
  exact totalOf_concat [row] rest itemId

theorem totalOf_raid_add_warehouse (rows : List InventoryItem) (itemId : Int)
    : totalOf (raidRows rows) itemId + totalOf (warehouseRows rows) itemId
      = totalOf rows itemId := by
  have parts : (raidRows rows ++ warehouseRows rows).Perm rows := by
    have split := List.filter_append_perm (fun row : InventoryItem =>
      decide (INVENTORY_SLOT_MIN ≤ row.slotIndex)) rows
    have others : warehouseRows rows
        = rows.filter fun row => !decide (INVENTORY_SLOT_MIN ≤ row.slotIndex) := by
      refine List.filter_congr fun row _ => ?_
      by_cases raid : INVENTORY_SLOT_MIN ≤ row.slotIndex
      · simp [raid, not_lt.mpr raid]
      · simp [raid, not_le.mp raid]
    rwa [← others] at split
  rw [← totalOf_concat]
  exact Ledger.amount_perm (parts.map InventoryItem.booking) itemId

theorem totalOf_nonneg {rows : List InventoryItem} (counted : ∀ row ∈ rows, 0 ≤ row.quantity)
    (itemId : Int)
    : 0 ≤ totalOf rows itemId := by
  refine List.sum_nonneg fun quantity booked => ?_
  obtain ⟨booking, kept, rfl⟩ := List.mem_map.mp booked
  obtain ⟨row, held, rfl⟩ := List.mem_map.mp (List.mem_of_mem_filter kept)
  exact counted row held

namespace NotifyPlayerLeftRequest

variable {request : NotifyPlayerLeftRequest}

/-- A leave that is applied does to the rows of its account what `home` says. -/
theorem itemsOf_applied (request : NotifyPlayerLeftRequest) (table : List InventoryRow)
    : itemsOf request.uid (request.applied table)
      = request.home (itemsOf request.uid table) := by
  have own : request.rows.filter (·.uid == request.uid) = request.rows := by
    refine List.filter_eq_self.mpr fun row mem => ?_
    obtain ⟨slot, _, rfl⟩ := List.mem_map.mp mem
    exact beq_self_eq_true _
  have kept : (request.others table).filter (·.uid == request.uid)
      = (table.filter (·.uid == request.uid)).filter
        fun row => decide (row.slotIndex < INVENTORY_SLOT_MIN) := by
    rw [others, List.filter_filter, List.filter_filter]
    refine List.filter_congr fun row _ => ?_
    have places : (!decide (INVENTORY_SLOT_INDEX_BEGIN ≤ row.slotIndex))
        = decide (row.slotIndex < INVENTORY_SLOT_MIN) :=
      (decide_not ..).symm.trans (decide_eq_decide.mpr Int.not_le)
    rw [← places, inRaid]
    cases row.uid == request.uid <;> simp
  rw [itemsOf, applied, List.filter_append, own, kept, List.map_append, home, warehouseRows,
    itemsOf, List.filter_map]
  rfl

/-- Whatever calls fail, the rows of the account are afterwards those of before or those of
home.
-/
theorem itemsOf_execute (weather : Weather) {proxy : DBProxy}
    (settled : proxy.mysql.view = none) {pkt : Room.D2MNotifyPlayerLeft} (sent : FromDedicate pkt)
    : itemsOf pkt.uid ((ofPacket pkt).execute weather proxy).mysql.committed
        = itemsOf pkt.uid proxy.mysql.committed
      ∨ itemsOf pkt.uid ((ofPacket pkt).execute weather proxy).mysql.committed
        = (ofPacket pkt).home (itemsOf pkt.uid proxy.mysql.committed) := by
  have raid := sent.raidRows
  have account : (ofPacket pkt).uid = pkt.uid := rfl
  rw [← account]
  generalize ofPacket pkt = request at raid ⊢
  rcases lt_or_ge request.uid 0 with guest | player
  · left
    exact congrArg (itemsOf request.uid)
      (congrArg Transactions.Session.committed
        (attempts_guest weather guest DB_RETRY_COUNT proxy.mysql).1)
  · have start : request.Settling proxy.mysql.committed proxy.mysql := by
      refine ⟨.inl rfl, fun data pending => ?_⟩
      rw [settled] at pending
      cases pending
    rcases (start.attempts weather raid player DB_RETRY_COUNT).1.committed with same | applied
    · exact .inl (congrArg (itemsOf request.uid) same)
    · exact .inr ((congrArg (itemsOf request.uid) applied).trans (request.itemsOf_applied _))

end NotifyPlayerLeftRequest

end ExtractionServer.Lobby

namespace ExtractionServer.Room

open Lobby Matchmaking

-----------------------------------------------------------------------------------------
-- What a loadout brings in
-----------------------------------------------------------------------------------------

namespace PlayerInventory

variable {inventory : PlayerInventory} (blueprintId : Nat)

/-- How many of an item the equipment and the magazines hold. -/
def worn (inventory : PlayerInventory) (blueprintId : Nat) : Int :=
  inventory.primaryWeaponSlot.units blueprintId + inventory.secondaryWeaponSlot.units blueprintId
    + inventory.armorSlot.units blueprintId

def chambered (inventory : PlayerInventory) (blueprintId : Nat) : Int :=
  inventory.primaryWeaponMagazineSlot.units blueprintId
    + inventory.secondaryWeaponMagazineSlot.units blueprintId

theorem holdings_eq (inventory : PlayerInventory)
    : inventory.holdings blueprintId
      = slotUnits inventory.inventorySlots.toList blueprintId + inventory.worn blueprintId
        + inventory.chambered blueprintId := by
  simp only [holdings, lootOrder, slotUnits_append, slotUnits_cons, slotUnits_nil, worn,
    chambered]
  omega

/-- The magazines are loaded from the slots, so the constructor keeps what it was given. -/
theorem holdings_ofSlots {inventorySlots equipmentSlots : List Slot}
    (slots : ∀ slot ∈ inventorySlots, slot.WellFormed)
    (equipment : ∀ slot ∈ equipmentSlots, slot.WellFormed)
    : (ofSlots inventorySlots equipmentSlots).holdings blueprintId
      = (unarmed inventorySlots equipmentSlots).holdings blueprintId := by
  obtain ⟨first, second⟩ := SlotStore.reloaded_unarmed slots equipment
  have search := SlotStore.sameStacks_updateFirstEmptySlotIndex
    ((SlotStore.reloaded { inventory := .unarmed inventorySlots equipmentSlots } true).reloaded
      false)
  have loaded := (search.amount blueprintId).trans
    ((second.amount blueprintId).trans (first.amount blueprintId))
  rw [SlotStore.amount_inventory] at loaded
  rw [← loaded, ofSlots_eq]
  exact (SlotStore.amount_inventory _ blueprintId).symm

/-- A stack in an inventory slot adds no more than itself. -/
theorem slotUnits_placeSlot {slots : Vector Slot INVENTORY_SLOT_COUNT} {slot : Slot}
    (good : slot.WellFormed) (stocked : ∀ other ∈ slots.toList, other.WellFormed)
    : slotUnits (placeSlot slots slot).toList blueprintId
      ≤ slotUnits slots.toList blueprintId + slot.units blueprintId := by
  have own := good.units_nonneg blueprintId
  unfold placeSlot
  split
  · next inRange =>
      have index := slotIndex_toNat_lt inRange
      have small : slot.slotIndex.toNat < slots.toList.length := by simpa using index
      have replaced : 0 ≤ (slots.toList.getD slot.slotIndex.toNat {}).units blueprintId := by
        have held : slots.toList.getD slot.slotIndex.toNat {}
            = slots.toList[slot.slotIndex.toNat] := by
          rw [List.getD_eq_getElem?_getD, List.getElem?_eq_getElem small, Option.getD_some]
        rw [held]
        exact (stocked _ (List.getElem_mem small)).units_nonneg blueprintId
      rw [Vector.toList_set, slotUnits_set blueprintId small]
      omega
  · omega

theorem wellFormed_placeSlot {slots : Vector Slot INVENTORY_SLOT_COUNT} {slot : Slot}
    (good : slot.WellFormed) (stocked : ∀ other ∈ slots.toList, other.WellFormed)
    : ∀ other ∈ (placeSlot slots slot).toList, other.WellFormed := by
  unfold placeSlot
  split
  · intro other mem
    rw [Vector.toList_set] at mem
    rcases List.mem_or_eq_of_mem_set mem with old | rfl
    · exact stocked other old
    · exact good
  · exact stocked

/-- Stacks in the inventory slots add no more than themselves, by induction on them. -/
theorem slotUnits_foldl_placeSlot {given : List Slot}
    (good : ∀ slot ∈ given, slot.WellFormed) {slots : Vector Slot INVENTORY_SLOT_COUNT}
    (stocked : ∀ other ∈ slots.toList, other.WellFormed)
    : slotUnits (given.foldl placeSlot slots).toList blueprintId
      ≤ slotUnits slots.toList blueprintId + slotUnits given blueprintId := by
  induction given generalizing slots with
  | nil => exact (Int.add_zero _).ge
  | cons slot rest ih =>
      have first := good slot List.mem_cons_self
      have later := ih (fun other mem => good other (List.mem_cons_of_mem _ mem))
        (wellFormed_placeSlot first stocked)
      have placed := slotUnits_placeSlot blueprintId first stocked
      rw [List.foldl_cons, slotUnits_cons]
      omega

/-- A stack in the equipment adds no more than itself. -/
theorem worn_equipSlot {slot : Slot} (good : slot.WellFormed)
    (start : inventory.primaryWeaponSlot.WellFormed
      ∧ inventory.secondaryWeaponSlot.WellFormed ∧ inventory.armorSlot.WellFormed)
    : (equipSlot inventory slot).worn blueprintId
      ≤ inventory.worn blueprintId + slot.units blueprintId := by
  have own := good.units_nonneg blueprintId
  have primary := start.1.units_nonneg blueprintId
  have secondary := start.2.1.units_nonneg blueprintId
  have armor := start.2.2.units_nonneg blueprintId
  unfold equipSlot worn
  split
  · dsimp only
    omega
  split
  · dsimp only
    omega
  split
  · dsimp only
    omega
  · omega

theorem worn_foldl_equipSlot {given : List Slot} (good : ∀ slot ∈ given, slot.WellFormed)
    {inventory : PlayerInventory}
    (start : inventory.primaryWeaponSlot.WellFormed
      ∧ inventory.secondaryWeaponSlot.WellFormed ∧ inventory.armorSlot.WellFormed)
    : (given.foldl equipSlot inventory).worn blueprintId
      ≤ inventory.worn blueprintId + slotUnits given blueprintId := by
  induction given generalizing inventory with
  | nil => exact (Int.add_zero _).ge
  | cons slot rest ih =>
      have first := good slot List.mem_cons_self
      have equipped := (equipSlot_foldl [slot]
        (fun other mem => by rwa [List.mem_singleton.mp mem]) inventory start).1
      have later := ih (fun other mem => good other (List.mem_cons_of_mem _ mem)) equipped
      have added := worn_equipSlot blueprintId first start
      rw [List.foldl_cons, slotUnits_cons]
      rw [List.foldl_cons, List.foldl_nil] at later
      omega

/-- A loadout brings no more than its stacks, even if two of them name one slot. -/
theorem holdings_ofSlots_le {inventorySlots equipmentSlots : List Slot}
    (slots : ∀ slot ∈ inventorySlots, slot.WellFormed)
    (equipment : ∀ slot ∈ equipmentSlots, slot.WellFormed)
    : (ofSlots inventorySlots equipmentSlots).holdings blueprintId
      ≤ slotUnits inventorySlots blueprintId + slotUnits equipmentSlots blueprintId := by
  rw [holdings_ofSlots blueprintId slots equipment, holdings_eq]
  let fresh : Vector Slot INVENTORY_SLOT_COUNT := .ofFn fun index =>
    { slotIndex := (index.val : Int) }
  have unused : ∀ slot ∈ fresh.toList, slot = { slotIndex := slot.slotIndex } := by
    intro slot mem
    obtain ⟨index, inRange, rfl⟩ := List.mem_iff_getElem.mp mem
    simp [fresh]
  have none : slotUnits fresh.toList blueprintId = 0 := by
    refine List.sum_eq_zero fun units mem => ?_
    obtain ⟨slot, held, rfl⟩ := List.mem_map.mp mem
    rw [unused slot held]
    exact ite_self 0
  have untouched : ∀ slot ∈ fresh.toList, slot.WellFormed := by
    intro slot mem
    rw [unused slot mem]
    exact .inl ⟨rfl, rfl⟩
  have placed := slotUnits_foldl_placeSlot blueprintId slots untouched
  let bare : PlayerInventory := { inventorySlots := inventorySlots.foldl placeSlot fresh }
  have start : bare.primaryWeaponSlot.WellFormed ∧ bare.secondaryWeaponSlot.WellFormed
      ∧ bare.armorSlot.WellFormed := ⟨.inl ⟨rfl, rfl⟩, .inl ⟨rfl, rfl⟩, .inl ⟨rfl, rfl⟩⟩
  have equipped := worn_foldl_equipSlot blueprintId equipment start
  obtain ⟨-, same, magazines⟩ := equipSlot_foldl equipmentSlots equipment bare start
  have unloaded : (unarmed inventorySlots equipmentSlots).chambered blueprintId = 0 := by
    have primary : (unarmed inventorySlots equipmentSlots).primaryWeaponMagazineSlot = {} :=
      magazines true
    have secondary : (unarmed inventorySlots equipmentSlots).secondaryWeaponMagazineSlot = {} :=
      magazines false
    rw [chambered, primary, secondary]
    simp [Slot.units]
  have unworn : bare.worn blueprintId = 0 := by simp [worn, bare, Slot.units]
  have slotted : (unarmed inventorySlots equipmentSlots).inventorySlots
      = inventorySlots.foldl placeSlot fresh := same
  rw [slotted, unloaded]
  rw [none] at placed
  rw [unworn] at equipped
  exact (Int.add_zero _).trans_le
    (Int.add_le_add (placed.trans (Int.zero_add _).le) (equipped.trans (Int.zero_add _).le))

end PlayerInventory

-----------------------------------------------------------------------------------------
-- What a leave writes back
-----------------------------------------------------------------------------------------

/-- All items of an inventory have ids that fit the `int` of the tables. -/
def PlayerInventory.IntItems (inventory : PlayerInventory) : Prop :=
  ∀ blueprintId, 2 ^ 31 ≤ blueprintId → inventory.holdings blueprintId = 0

theorem PlayerInventory.IntItems.small {inventory : PlayerInventory} (h : inventory.IntItems)
    (good : SlotStore.WellFormed { inventory }) {slot : Slot} (mem : slot ∈ inventory.lootOrder)
    (filled : slot.isEmpty = false)
    : slot.item.blueprintId < 2 ^ 31 := by
  by_contra large
  have none := h slot.item.blueprintId (Nat.le_of_not_lt large)
  have own := single_le_slotUnits slot.item.blueprintId (fun _ mem => good.lootOrder mem) mem
  have some := ((good.lootOrder mem).of_filled filled).2
  rw [PlayerInventory.holdings] at none
  rw [Slot.units, if_pos rfl] at own
  omega

section Rows

variable (uid : Int) (blueprintId : Nat)

/-- The row of a slot counts as its stack. -/
theorem totalOf_rowOf (slotIndex : Int) {slot : Slot} (good : slot.WellFormed)
    (small : slot.isEmpty = false → slot.item.blueprintId < 2 ^ 31)
    : totalOf ((rowOf uid slotIndex slot).toList.map InventoryRow.toItem) blueprintId
      = slot.units blueprintId := by
  cases empty : slot.isEmpty with
  | true =>
      rw [rowOf, if_pos empty, good.units_of_empty empty]
      rfl
  | false =>
      have known := small empty
      have number : (slot.item.blueprintId : Int).bmod (2 ^ 32) = slot.item.blueprintId :=
        Int.bmod_eq_of_le (by omega) (by omega)
      rw [rowOf, if_neg (by simp [empty]), Option.toList_some, List.map_singleton, totalOf_cons,
        Slot.units]
      simp only [InventoryRow.toItem, number, Int.natCast_inj]
      exact Int.add_zero _

/-- The rows of some slots count as their stacks, by induction on them. -/
theorem totalOf_filterMap_rowOf {Index : Type} (indexes : List Index) (place : Index → Int)
    (slot : Index → Slot)
    (good : ∀ index ∈ indexes, (slot index).WellFormed
      ∧ ((slot index).isEmpty = false → (slot index).item.blueprintId < 2 ^ 31))
    : totalOf ((indexes.filterMap fun index => rowOf uid (place index) (slot index)).map
        InventoryRow.toItem) blueprintId
      = slotUnits (indexes.map slot) blueprintId := by
  induction indexes with
  | nil => rfl
  | cons index rest ih =>
      have others := ih fun other mem => good other (List.mem_cons_of_mem _ mem)
      obtain ⟨wellFormed, small⟩ := good index List.mem_cons_self
      have first := totalOf_rowOf uid blueprintId (place index) wellFormed small
      have parts : (index :: rest).filterMap (fun index => rowOf uid (place index) (slot index))
          = (rowOf uid (place index) (slot index)).toList
            ++ rest.filterMap fun index => rowOf uid (place index) (slot index) := by
        rw [List.filterMap_cons]
        cases rowOf uid (place index) (slot index) <;> rfl
      rw [parts, List.map_append, totalOf_concat, first, others, List.map_cons, slotUnits_cons]

end Rows

/-- A recalled player brings everything home but the rounds in the magazines. -/
theorem totalOf_rowsOfRecall {session : PlayerSession} (staying : session.leaveState = .none)
    (good : SlotStore.WellFormed { inventory := session.inventory })
    (items : session.inventory.IntItems) (now : TimePoint) (notifyRSeq : BitVec 32)
    (blueprintId : Nat)
    : totalOf ((rowsOfRecall session now notifyRSeq).map InventoryRow.toItem) blueprintId
      = session.inventory.holdings blueprintId
        - session.inventory.chambered blueprintId := by
  have proper {slot : Slot} (mem : slot ∈ session.inventory.lootOrder)
      : slot.WellFormed ∧ (slot.isEmpty = false → slot.item.blueprintId < 2 ^ 31) :=
    ⟨good.lootOrder mem, items.small good mem⟩
  have listed : (List.finRange INVENTORY_SLOT_COUNT).map session.inventory.inventorySlots.get
      = session.inventory.inventorySlots.toList :=
    List.ext_getElem (by simp) fun index first second => by simp [Vector.get]
  have slots := totalOf_filterMap_rowOf session.uid blueprintId
    (List.finRange INVENTORY_SLOT_COUNT) (fun index => INVENTORY_SLOT_MIN + (index.val : Int))
    session.inventory.inventorySlots.get fun index mem =>
      proper (List.mem_append_right _ (listed ▸ List.mem_map_of_mem mem))
  have equipment := totalOf_filterMap_rowOf session.uid blueprintId
    [EquipmentPlace.primary, .secondary, .armor] (fun place => LOADOUT_SLOT_MIN + place.index)
    session.inventory.equipmentSlot fun place _ => by
      refine proper (List.mem_append_left _ ?_)
      cases place <;> simp [PlayerInventory.equipmentSlot]
  rw [rowsOfRecall_eq staying, List.map_append, totalOf_concat, slots, equipment, listed,
    PlayerInventory.holdings_eq]
  simp only [List.map_cons, List.map_nil, slotUnits_cons, slotUnits_nil,
    PlayerInventory.equipmentSlot, PlayerInventory.worn]
  omega

-----------------------------------------------------------------------------------------
-- What a snapshot pays for
-----------------------------------------------------------------------------------------

namespace Storable

variable {catalog : Catalog} {items : List InventoryItem}

/-- The two areas of the raid slots. -/
theorem totalOf_raidRows (layout : ∀ item ∈ items, item.slotIndex ≤ LOADOUT_SLOT_MAX)
    (itemId : Int)
    : totalOf (inventoryRaw items) itemId + totalOf (equipmentRaw items) itemId
      = totalOf (raidRows items) itemId := by
  have below : INVENTORY_SLOT_MIN ≤ LOADOUT_SLOT_MIN := by decide
  have inventory : inventoryRaw items
      = (raidRows items).filter fun e => decide (e.slotIndex < LOADOUT_SLOT_MIN) := by
    rw [raidRows, List.filter_filter]
    refine List.filter_congr fun e _ => ?_
    rw [← Bool.decide_and]
    exact decide_eq_decide.mpr and_comm
  have equipment : equipmentRaw items
      = (raidRows items).filter fun e => !decide (e.slotIndex < LOADOUT_SLOT_MIN) := by
    rw [raidRows, List.filter_filter]
    refine List.filter_congr fun e mem => ?_
    have limit := layout e mem
    rw [← decide_not, ← Bool.decide_and]
    exact decide_eq_decide.mpr (by omega)
  have parts := List.filter_append_perm (fun e : InventoryItem =>
    decide (e.slotIndex < LOADOUT_SLOT_MIN)) (raidRows items)
  rw [← totalOf_concat, inventory, equipment]
  exact Ledger.amount_perm (parts.map InventoryItem.booking) itemId

/-- The stacks of entries count as the entries, single items as no more. -/
theorem slotUnits_stacks {entries : List InventoryItem}
    (wellFormed : ∀ item ∈ entries, item.WellFormed) (blueprintId : Nat)
    : slotUnits (entries.map inventoryStack) blueprintId = totalOf entries blueprintId
      ∧ slotUnits (entries.map equipmentStack) blueprintId ≤ totalOf entries blueprintId := by
  induction entries with
  | nil => exact ⟨rfl, Int.le_refl 0⟩
  | cons item rest ih =>
      obtain ⟨same, fewer⟩ := ih fun other mem => wellFormed other (List.mem_cons_of_mem _ mem)
      obtain ⟨positive, -, -, counted⟩ := wellFormed item List.mem_cons_self
      have own : item.itemId.toNat = blueprintId ↔ item.itemId = blueprintId := by omega
      simp only [List.map_cons, slotUnits_cons, totalOf_cons, Slot.units, inventoryStack,
        equipmentStack, own]
      split_ifs <;> omega

/-- The session of a snapshot holds no more than the rows in the slots of the raid. -/
theorem holdings_loaded_le (h : Storable catalog items) (blueprintId : Nat)
    : (loaded items).holdings blueprintId ≤ totalOf (raidRows items) blueprintId := by
  have inventory : slotUnits ((inventoryRaw items).map inventoryStack) blueprintId
      = totalOf (inventoryRaw items) blueprintId :=
    (slotUnits_stacks (fun item mem => h.wellFormed item (List.mem_of_mem_filter mem)) _).1
  have equipment : slotUnits ((equipmentRaw items).map equipmentStack) blueprintId
      ≤ totalOf (equipmentRaw items) blueprintId :=
    (slotUnits_stacks (fun item mem => h.wellFormed item (List.mem_of_mem_filter mem)) _).2
  have rows := totalOf_raidRows (fun item mem => (h.wellFormed item mem).2.2.1) blueprintId
  have brings : (loaded items).holdings blueprintId
      ≤ slotUnits ((inventoryRaw items).map inventoryStack) blueprintId
        + slotUnits ((equipmentRaw items).map equipmentStack) blueprintId := by
    refine PlayerInventory.holdings_ofSlots_le blueprintId (fun slot mem => ?_) fun slot mem => ?_
    · obtain ⟨item, chosen, rfl⟩ := List.mem_map.mp mem
      exact h.wellFormed_inventoryStack (List.mem_of_mem_filter chosen)
    · obtain ⟨item, chosen, rfl⟩ := List.mem_map.mp mem
      exact h.wellFormed_equipmentStack (List.mem_of_mem_filter chosen)
  calc (loaded items).holdings blueprintId
      ≤ _ := brings
    _ ≤ totalOf (inventoryRaw items) blueprintId + totalOf (equipmentRaw items) blueprintId :=
        Int.add_le_add inventory.le equipment
    _ = totalOf (raidRows items) blueprintId := rows

end Storable

end ExtractionServer.Room
