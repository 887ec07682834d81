import ExtractionServer.Room.InventoryRuns
import ExtractionServer.Room.RoomRuns
import ExtractionServer.Room.Turns

/-! How many of an item an inventory, a container and a whole room hold, and what an operation
on an inventory takes out of them.
-/

namespace ExtractionServer.Room

-----------------------------------------------------------------------------------------
-- Lists of slots
-----------------------------------------------------------------------------------------

theorem Slot.WellFormed.quantity_nonneg {slot : Slot} (h : slot.WellFormed)
    : 0 ≤ slot.quantity := by
  unfold Slot.WellFormed at h
  omega

/-- How many of an item the slots of a list hold together. -/
def slotUnits (slots : List Slot) (blueprintId : Nat) : Int :=
  (slots.map (·.units blueprintId)).sum

section SlotLists

variable (blueprintId : Nat)

@[simp] theorem slotUnits_nil : slotUnits [] blueprintId = 0 := rfl

@[simp] theorem slotUnits_cons (slot : Slot) (rest : List Slot)
    : slotUnits (slot :: rest) blueprintId
      = slot.units blueprintId + slotUnits rest blueprintId :=
  List.sum_cons

@[simp] theorem slotUnits_append (first second : List Slot)
    : slotUnits (first ++ second) blueprintId
      = slotUnits first blueprintId + slotUnits second blueprintId := by
  simp [slotUnits]

theorem slotUnits_nonneg {slots : List Slot} (good : ∀ slot ∈ slots, slot.WellFormed)
    : 0 ≤ slotUnits slots blueprintId := by
  refine List.sum_nonneg fun units mem => ?_
  obtain ⟨slot, present, rfl⟩ := List.mem_map.mp mem
  exact (good slot present).units_nonneg blueprintId

theorem single_le_slotUnits {slots : List Slot} (good : ∀ slot ∈ slots, slot.WellFormed)
    {slot : Slot} (mem : slot ∈ slots)
    : slot.units blueprintId ≤ slotUnits slots blueprintId := by
  refine List.single_le_sum ?_ _ (List.mem_map_of_mem mem)
  intro units present
  obtain ⟨other, held, rfl⟩ := List.mem_map.mp present
  exact (good other held).units_nonneg blueprintId

/-- Slots hold no more of an item than of all items, by induction on the slots. -/
theorem slotUnits_le_quantities {slots : List Slot} (good : ∀ slot ∈ slots, slot.WellFormed)
    : slotUnits slots blueprintId ≤ (slots.map Slot.quantity).sum := by
  induction slots with
  | nil => exact Int.le_refl 0
  | cons slot rest ih =>
      have others := ih fun other mem => good other (List.mem_cons_of_mem _ mem)
      have own := (good slot List.mem_cons_self).quantity_nonneg
      rw [slotUnits_cons, List.map_cons, List.sum_cons, Slot.units]
      split <;> omega

/-- A write to one slot changes the sum by the difference of two stacks, by induction on the
slots before it.
-/
theorem slotUnits_set {slots : List Slot} {index : Nat} (inRange : index < slots.length)
    (slot : Slot)
    : slotUnits (slots.set index slot) blueprintId
      = slotUnits slots blueprintId - (slots.getD index {}).units blueprintId
        + slot.units blueprintId := by
  induction slots generalizing index with
  | nil => exact absurd inRange (Nat.not_lt_zero index)
  | cons head rest ih =>
      cases index with
      | zero =>
          simp only [List.set_cons_zero, slotUnits_cons, List.getD_cons_zero]
          omega
      | succ index =>
          simp only [List.set_cons_succ, slotUnits_cons, List.getD_cons_succ]
          rw [ih (Nat.lt_of_succ_lt_succ inRange)]
          omega

end SlotLists

-----------------------------------------------------------------------------------------
-- Inventories
-----------------------------------------------------------------------------------------

/-- How many of an item an inventory holds in its slots, its equipment and its magazines. -/
def PlayerInventory.holdings (inventory : PlayerInventory) (blueprintId : Nat) : Int :=
  slotUnits inventory.lootOrder blueprintId

namespace SlotStore

/-- The list of the places of a store names each once. -/
theorem nodup_places (length : Nat)
    : ([Place.weapon true, .weapon false, .armor, .magazine true, .magazine false]
        ++ (List.finRange INVENTORY_SLOT_COUNT).map (Place.slot ∘ SlotRef.inventory)
        ++ (List.range length).map (Place.slot ∘ SlotRef.container)).Nodup := by
  refine List.nodup_append.mpr ⟨List.nodup_append.mpr ⟨by decide, ?_, ?_⟩, ?_, ?_⟩
  · refine (List.nodup_finRange _).map fun first second same => ?_
    cases same
    rfl
  · intro place mem other inSlots
    obtain ⟨index, _, rfl⟩ := List.mem_map.mp inSlots
    rintro rfl
    simp at mem
  · refine List.nodup_range.map fun first second same => ?_
    cases same
    rfl
  · intro place mem other inBox
    obtain ⟨index, _, rfl⟩ := List.mem_map.mp inBox
    rintro rfl
    simp at mem

/-- The amount of an item in a store is what the inventory and the container hold. -/
theorem amount_eq (store : SlotStore) (blueprintId : Nat)
    : store.amount blueprintId
      = store.inventory.holdings blueprintId + slotUnits store.container blueprintId := by
  have slots : (List.finRange INVENTORY_SLOT_COUNT).map (fun index =>
        (store.slotAt (.slot (.inventory index))).units blueprintId)
      = store.inventory.inventorySlots.toList.map (·.units blueprintId) := by
    refine List.ext_getElem (by simp) fun index first second => ?_
    simp [slotAt, SlotStore.get]
  have box : (List.range store.container.length).map (fun index =>
        (store.slotAt (.slot (.container index))).units blueprintId)
      = store.container.map (·.units blueprintId) := by
    refine List.ext_getElem (by simp) fun index first second => ?_
    have inRange : index < store.container.length := by simpa using second
    simp [slotAt, SlotStore.get, inRange]
  unfold amount places
  rw [List.sum_toFinset _ (nodup_places _)]
  simp only [List.map_append, List.map_map, List.sum_append, Function.comp_def, slots, box]
  simp only [PlayerInventory.holdings, PlayerInventory.lootOrder, slotUnits, List.map_append,
    List.map_cons, List.map_nil, List.sum_append, List.sum_cons, List.sum_nil, slotAt,
    PlayerInventory.weaponSlot, PlayerInventory.magazineSlot, if_true, Bool.false_eq_true,
    if_false]
  omega

theorem amount_inventory (inventory : PlayerInventory) (blueprintId : Nat)
    : amount { inventory } blueprintId = inventory.holdings blueprintId := by
  rw [amount_eq, slotUnits_nil, Int.add_zero]

/-- The slots of an ordered inventory are well formed. -/
theorem WellFormed.lootOrder {inventory : PlayerInventory}
    (good : WellFormed { inventory }) {slot : Slot} (mem : slot ∈ inventory.lootOrder)
    : slot.WellFormed := by
  have at' (place : Place) (has : SlotStore.Has { inventory } place) :=
    good.stocked.wellFormed place has
  rcases List.mem_append.mp mem with equipped | stored
  · simp only [List.mem_cons, List.not_mem_nil, or_false] at equipped
    rcases equipped with rfl | rfl | rfl | rfl | rfl
    · exact at' (.weapon true) trivial
    · exact at' (.magazine true) trivial
    · exact at' (.weapon false) trivial
    · exact at' (.magazine false) trivial
    · exact at' .armor trivial
  · obtain ⟨index, inRange, rfl⟩ := List.mem_iff_getElem.mp stored
    exact at' (.slot (.inventory ⟨index, by simpa using inRange⟩)) trivial

end SlotStore

-----------------------------------------------------------------------------------------
-- What an operation takes out
-----------------------------------------------------------------------------------------

namespace SlotStore

/-- What an operation on a store takes out of it: a weapon that is put on or off, the rounds
for which there is no place, and a shot, one round. Everything else only moves.
-/
def spent (store : SlotStore) (call : InventoryCall) (blueprintId : Nat) : Int :=
  match call with
  | .equipWeaponFromSlot src isPrimary =>
      if (store.equipWeaponFromSlot src isPrimary).isOk then
        store.discarded isPrimary blueprintId
      else 0
  | .unequipWeaponToSlot dst isPrimary =>
      if (store.unequipWeaponToSlot dst isPrimary).isOk then
        (store.stowed dst isPrimary).discarded isPrimary blueprintId
      else 0
  | .fire isPrimary =>
      if (store.slotAt (.magazine isPrimary)).isEmpty then 0
      else if (store.slotAt (.magazine isPrimary)).item.blueprintId = blueprintId then 1
      else 0
  | _ => 0

/-- The operation neither opens another container nor clears the inventory. -/
def handles : InventoryCall → Bool
  | .openContainer _ => false
  | .clear => false
  | _ => true

theorem accepted_amount {Result : Type} {store : SlotStore} {commit : Result → SlotStore}
    {done : Except (BitVec 32) Result} {blueprintId : Nat} {loss : Int}
    (served : ∀ result, done = .ok result →
      (commit result).amount blueprintId = store.amount blueprintId - loss)
    : (store.accepted commit done).amount blueprintId
      = store.amount blueprintId - if done.isOk then loss else 0 := by
  cases done with
  | error mask => exact (Int.sub_zero _).symm
  | ok result => exact served result rfl

/-- An operation that only moves. -/
theorem accepted_amount_same {Result : Type} {store : SlotStore}
    {commit : Result → SlotStore} {done : Except (BitVec 32) Result} {blueprintId : Nat}
    (served : ∀ result, done = .ok result →
      (commit result).amount blueprintId = store.amount blueprintId)
    : (store.accepted commit done).amount blueprintId = store.amount blueprintId := by
  cases done with
  | error mask => rfl
  | ok result => exact served result rfl

/-- An operation takes out what it spends, and nothing else is lost or added. -/
theorem perform_amount {store after : SlotStore} (good : store.WellFormed)
    (bounded : store.Bounded) {call : InventoryCall} (step : store.perform call = some after)
    (moves : handles call = true) (blueprintId : Nat)
    : after.amount blueprintId = store.amount blueprintId - store.spent call blueprintId := by
  cases call with
  | openContainer slots => cases moves
  | equipWeaponFromSlot src isPrimary =>
      obtain ⟨has, step⟩ := Option.ite_none_right_eq_some.mp step
      cases step
      exact accepted_amount fun result done =>
        (equipWeaponFromSlot_spec good bounded has done).2.1 blueprintId
  | unequipWeaponToSlot dst isPrimary =>
      obtain ⟨has, step⟩ := Option.ite_none_right_eq_some.mp step
      cases step
      exact accepted_amount fun result done =>
        (unequipWeaponToSlot_spec good bounded has done).2.1 blueprintId
  | equipArmorFromSlot src =>
      obtain ⟨has, step⟩ := Option.ite_none_right_eq_some.mp step
      cases step
      have moved := accepted_amount_same fun result done =>
        (equipArmorFromSlot_spec good has done).1.amount blueprintId
      exact moved.trans (Int.sub_zero _).symm
  | unequipArmorToSlot dst =>
      obtain ⟨has, step⟩ := Option.ite_none_right_eq_some.mp step
      cases step
      have moved := accepted_amount_same fun result done =>
        (unequipArmorToSlot_spec good has done).1.amount blueprintId
      exact moved.trans (Int.sub_zero _).symm
  | reloadMagazine isPrimary =>
      cases step
      have moved := (reloaded_spec isPrimary good.stocked good.loaded).amount blueprintId
      exact moved.trans (Int.sub_zero _).symm
  | interact interactType startRef endRef quantity =>
      obtain ⟨⟨hasStart, hasEnd, apart, filled⟩, step⟩ :=
        Option.ite_none_right_eq_some.mp step
      cases step
      have moved := accepted_amount_same fun moved
          (done : store.interact interactType startRef endRef quantity = .ok moved) =>
        (interact_spec good bounded hasStart hasEnd apart filled done).1.amount blueprintId
      exact moved.trans (Int.sub_zero _).symm
  | fire isPrimary =>
      unfold SlotStore.perform at step
      unfold spent
      dsimp only at step ⊢
      split at step
      · next empty =>
          cases step
          rw [if_pos empty, Int.sub_zero]
      · next rounds =>
          cases step
          rw [if_neg rounds]
          exact (fired_spec good (Bool.eq_false_iff.mpr rounds)).2 blueprintId
  | clear => cases moves

/-- The container beside the inventory keeps its slots. -/
theorem perform_container {store after : SlotStore} (good : store.WellFormed)
    (bounded : store.Bounded) {call : InventoryCall} (step : store.perform call = some after)
    (moves : handles call = true)
    : after.container.length = store.container.length := by
  cases call with
  | openContainer slots => cases moves
  | equipWeaponFromSlot src isPrimary =>
      obtain ⟨has, step⟩ := Option.ite_none_right_eq_some.mp step
      cases step
      exact accepted_of (P := (·.container.length = store.container.length)) rfl
        fun result done => (equipWeaponFromSlot_spec good bounded has done).1.container
  | unequipWeaponToSlot dst isPrimary =>
      obtain ⟨has, step⟩ := Option.ite_none_right_eq_some.mp step
      cases step
      exact accepted_of (P := (·.container.length = store.container.length)) rfl
        fun result done => (unequipWeaponToSlot_spec good bounded has done).1.container
  | equipArmorFromSlot src =>
      obtain ⟨has, step⟩ := Option.ite_none_right_eq_some.mp step
      cases step
      exact accepted_of (P := (·.container.length = store.container.length)) rfl
        fun result done => (equipArmorFromSlot_spec good has done).1.container
  | unequipArmorToSlot dst =>
      obtain ⟨has, step⟩ := Option.ite_none_right_eq_some.mp step
      cases step
      exact accepted_of (P := (·.container.length = store.container.length)) rfl
        fun result done => (unequipArmorToSlot_spec good has done).1.container
  | reloadMagazine isPrimary =>
      cases step
      exact congrArg List.length (reloaded_spec isPrimary good.stocked good.loaded).container
  | interact interactType startRef endRef quantity =>
      obtain ⟨⟨hasStart, hasEnd, apart, filled⟩, step⟩ :=
        Option.ite_none_right_eq_some.mp step
      cases step
      exact accepted_of (P := (·.container.length = store.container.length)) rfl
        fun moved (done : store.interact interactType startRef endRef quantity = .ok moved) =>
          (interact_spec good bounded hasStart hasEnd apart filled done).1.container
  | fire isPrimary =>
      unfold SlotStore.perform at step
      dsimp only at step
      split at step
      · cases step
        rfl
      · cases step
        exact container_length_write store _ _
  | clear => cases moves

theorem discarded_nonneg {store : SlotStore} (stocked : store.Stocked) (isPrimary : Bool)
    (blueprintId : Nat)
    : 0 ≤ store.discarded isPrimary blueprintId := by
  unfold discarded
  split
  · exact (stocked.wellFormed (.magazine isPrimary) trivial).units_nonneg blueprintId
  · exact Int.le_refl 0

/-- No operation adds to a store. -/
theorem spent_nonneg {store after : SlotStore} (good : store.WellFormed)
    {call : InventoryCall} (step : store.perform call = some after) (blueprintId : Nat)
    : 0 ≤ store.spent call blueprintId := by
  cases call with
  | equipWeaponFromSlot src isPrimary =>
      unfold spent
      dsimp only
      split
      · exact discarded_nonneg good.stocked isPrimary blueprintId
      · exact Int.le_refl 0
  | unequipWeaponToSlot dst isPrimary =>
      obtain ⟨has, step⟩ := Option.ite_none_right_eq_some.mp step
      have weaponSlot : store.Has (.weapon isPrimary) := trivial
      have stowed := stowInto_exchanged good.stocked weaponSlot has (by nofun)
      have search : SameStacks (store.stowInto (.weapon isPrimary) dst)
          (store.stowed dst isPrimary) :=
        sameStacks_updateFirstEmptySlotIndex (store.stowInto (.weapon isPrimary) dst)
      unfold spent
      dsimp only
      split
      · exact discarded_nonneg (search.stocked stowed.stocked) isPrimary blueprintId
      · exact Int.le_refl 0
  | fire isPrimary =>
      unfold spent
      dsimp only
      repeat' split
      all_goals omega
  | _ => exact Int.le_refl 0

end SlotStore

-----------------------------------------------------------------------------------------
-- Loot
-----------------------------------------------------------------------------------------

namespace PlayerLootContainer

/-- The container at some point of its filling: the slots from the next one on are empty, all
are well formed, and there is room for the stacks to come.
-/
structure Filling (filling : Container × Nat) (rest : List Slot) : Prop where
  room : filling.2 + rest.length ≤ filling.1.inventorySlots.length
  good : ∀ slot ∈ filling.1.inventorySlots, slot.WellFormed
  free : ∀ index, filling.2 ≤ index →
    (filling.1.inventorySlots.getD index {}).isEmpty = true

/-- One stack goes into the next slot, and an empty one nowhere. -/
theorem Filling.place {filling : Container × Nat} {slot : Slot} {rest : List Slot}
    (h : Filling filling (slot :: rest)) (good : slot.WellFormed)
    : Filling (place filling slot) rest
      ∧ ∀ blueprintId, slotUnits (PlayerLootContainer.place filling slot).1.inventorySlots
          blueprintId
        = slotUnits filling.1.inventorySlots blueprintId + slot.units blueprintId := by
  have space := h.room
  rw [List.length_cons] at space
  unfold PlayerLootContainer.place
  split
  · next empty =>
      refine ⟨⟨by omega, h.good, h.free⟩, fun blueprintId => ?_⟩
      rw [good.units_of_empty empty, Int.add_zero]
  · next filled =>
      have some := good.of_filled (Bool.eq_false_iff.mpr filled)
      have inRange : filling.2 < filling.1.inventorySlots.length := by omega
      unfold Container.placeItem
      rw [if_neg (by omega)]
      dsimp only
      refine ⟨⟨?_, ?_, ?_⟩, fun blueprintId => ?_⟩
      · simp only [List.length_set]
        omega
      · intro other mem
        rcases List.mem_or_eq_of_mem_set mem with old | rfl
        · exact h.good other old
        · exact .inr some
      · intro index later
        have apart : filling.2 ≠ index := by omega
        have free := h.free index (by omega)
        simpa [List.getD_eq_getElem?_getD, apart] using free
      · have free := h.free filling.2 (Nat.le_refl _)
        have empty : (filling.1.inventorySlots.getD filling.2 {}).units blueprintId = 0 := by
          refine Slot.WellFormed.units_of_empty ?_ free blueprintId
          have found : filling.1.inventorySlots.getD filling.2 {}
              = filling.1.inventorySlots[filling.2] := by simp [inRange]
          rw [found]
          exact h.good _ (List.getElem_mem inRange)
        rw [slotUnits_set blueprintId inRange, empty, Int.sub_zero]
        rfl

/-- All stacks find a slot, by induction on them. -/
theorem Filling.foldl {filling : Container × Nat} {rest : List Slot} (h : Filling filling rest)
    (good : ∀ slot ∈ rest, slot.WellFormed)
    : (∀ slot ∈ (rest.foldl PlayerLootContainer.place filling).1.inventorySlots,
        slot.WellFormed)
      ∧ ∀ blueprintId,
        slotUnits (rest.foldl PlayerLootContainer.place filling).1.inventorySlots blueprintId
          = slotUnits filling.1.inventorySlots blueprintId + slotUnits rest blueprintId := by
  induction rest generalizing filling with
  | nil => exact ⟨h.good, fun blueprintId => (Int.add_zero _).symm⟩
  | cons slot rest ih =>
      obtain ⟨placed, units⟩ := h.place (good slot List.mem_cons_self)
      obtain ⟨slots, sums⟩ := ih placed fun other mem => good other (List.mem_cons_of_mem _ mem)
      refine ⟨slots, fun blueprintId => ?_⟩
      rw [List.foldl_cons, sums, units, slotUnits_cons, Int.add_assoc]

/-- The loot container of a player takes everything the player had: thirty slots are enough
for an inventory, its equipment and its magazines.
-/
theorem create_spec (objectId : Nat) (position : Vector3) (yawAngle : BitVec 32)
    {inventory : PlayerInventory} (good : SlotStore.WellFormed { inventory })
    : (∀ slot ∈ (create objectId position yawAngle inventory).inventorySlots, slot.WellFormed)
      ∧ ∀ blueprintId,
        slotUnits (create objectId position yawAngle inventory).inventorySlots blueprintId
          = inventory.holdings blueprintId := by
  have unplaced (indexes : List Int) (index : Nat)
      : ((indexes.map fun slotIndex => { slotIndex : Slot }).getD index {}).isEmpty
        = true := by
    simp only [List.getD_eq_getElem?_getD, List.getElem?_map]
    cases indexes[index]? <;> rfl
  have start : Filling
      (.ofVolume { objectId, objectType := .playerLoot, position, yawAngle }
        Container.DEFAULT_CONTAINER_VOLUME, 0) inventory.lootOrder := by
    refine ⟨?_, ?_, ?_⟩
    · simp only [Container.ofVolume, PlayerInventory.lootOrder, List.length_append,
        List.length_cons, List.length_nil, Vector.length_toList, List.length_map]
      decide
    · intro slot mem
      obtain ⟨index, _, rfl⟩ := List.mem_map.mp mem
      exact .inl ⟨rfl, rfl⟩
    · intro index _
      exact unplaced _ index
  obtain ⟨slots, sums⟩ := start.foldl fun slot mem => good.lootOrder mem
  refine ⟨slots, fun blueprintId => (sums blueprintId).trans ?_⟩
  have none : slotUnits (Container.ofVolume
      { objectId, objectType := .playerLoot, position, yawAngle }
      Container.DEFAULT_CONTAINER_VOLUME).inventorySlots blueprintId = 0 := by
    refine List.sum_eq_zero fun units mem => ?_
    simp only [Container.ofVolume, List.map_map, List.mem_map] at mem
    obtain ⟨index, _, rfl⟩ := mem
    exact ite_self 0
  rw [none, Int.zero_add]
  rfl

end PlayerLootContainer

end ExtractionServer.Room
