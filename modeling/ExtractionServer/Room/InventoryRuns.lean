import ExtractionServer.Library.Transition
import ExtractionServer.Room.Magazines
import ExtractionServer.Room.Plans

/-! Every sequence of operations on an inventory, and on the containers opened beside it,
keeps its slots, its magazines and its cached index in order.
-/

namespace ExtractionServer.Room

open Transition

-----------------------------------------------------------------------------------------
-- Calls
-----------------------------------------------------------------------------------------

/-- An operation on the inventory of one player and the container that it has open. -/
inductive InventoryCall where
  | openContainer (slots : List Slot)
  | equipWeaponFromSlot (src : SlotRef) (isPrimary : Bool)
  | unequipWeaponToSlot (dst : SlotRef) (isPrimary : Bool)
  | equipArmorFromSlot (src : SlotRef)
  | unequipArmorToSlot (dst : SlotRef)
  | reloadMagazine (isPrimary : Bool)
  | interact (interactType : Nat) (startRef endRef : SlotRef) (quantity : Int)
  | fire (isPrimary : Bool)
  | clear

namespace SlotStore

instance (slot : Slot) : Decidable slot.WellFormed := by
  unfold Slot.WellFormed
  infer_instance

/-- A refused operation changes nothing. -/
def accepted {Result : Type} (store : SlotStore) (commit : Result → SlotStore)
    : Except (BitVec 32) Result → SlotStore
  | .ok result => commit result
  | .error _ => store

/-- One call. Its slots exist, as the handlers check; the two slots of an interaction are
different and the first is not empty. Another container can be opened at any time, with any
well-formed stacks.
-/
def perform (store : SlotStore) : InventoryCall → Option SlotStore
  | .openContainer slots =>
      if ∀ slot ∈ slots, slot.WellFormed then some { store with container := slots } else none
  | .equipWeaponFromSlot src isPrimary =>
      if store.Has (.slot src) then
        some (store.accepted Prod.fst (store.equipWeaponFromSlot src isPrimary))
      else none
  | .unequipWeaponToSlot dst isPrimary =>
      if store.Has (.slot dst) then
        some (store.accepted Prod.fst (store.unequipWeaponToSlot dst isPrimary))
      else none
  | .equipArmorFromSlot src =>
      if store.Has (.slot src) then
        some (store.accepted Prod.fst (store.equipArmorFromSlot src))
      else none
  | .unequipArmorToSlot dst =>
      if store.Has (.slot dst) then
        some (store.accepted Prod.fst (store.unequipArmorToSlot dst))
      else none
  | .reloadMagazine isPrimary =>
      some { store with inventory := (store.inventory.reloadMagazine isPrimary).1 }
  | .interact interactType startRef endRef quantity =>
      if store.Has (.slot startRef) ∧ store.Has (.slot endRef) ∧ startRef ≠ endRef
          ∧ (store.get startRef).isEmpty = false then
        some (store.accepted (interacted · startRef endRef)
          (store.interact interactType startRef endRef quantity))
      else none
  | .fire isPrimary =>
      if (store.slotAt (.magazine isPrimary)).isEmpty then some store
      else some (store.fired isPrimary)
  | .clear => some store.cleared

theorem accepted_of {Result : Type} {P : SlotStore → Prop} {store : SlotStore}
    {commit : Result → SlotStore} {done : Except (BitVec 32) Result} (same : P store)
    (served : ∀ result, done = .ok result → P (commit result))
    : P (store.accepted commit done) := by
  cases done with
  | error _ => exact same
  | ok result => exact served result rfl

theorem WellFormed.openContainer {store : SlotStore} (good : store.WellFormed)
    {slots : List Slot} (others : ∀ slot ∈ slots, slot.WellFormed)
    : WellFormed { store with container := slots } where
  stocked :=
    { indexes := good.stocked.indexes
      wellFormed := fun place has => by
        cases place with
        | slot ref =>
            cases ref with
            | inventory index => exact good.stocked.wellFormed (.slot (.inventory index)) trivial
            | container index =>
                have inRange : index < slots.length := has
                have found : slots.getD index {} = slots[index] := by simp [inRange]
                change (slots.getD index {}).WellFormed
                rw [found]
                exact others _ (List.getElem_mem inRange)
        | weapon isPrimary => exact good.stocked.wellFormed (.weapon isPrimary) trivial
        | armor => exact good.stocked.wellFormed .armor trivial
        | magazine isPrimary => exact good.stocked.wellFormed (.magazine isPrimary) trivial }
  loaded := good.loaded
  cached := good.cached

/-- A call keeps a bounded store in order. -/
theorem WellFormed.perform {store after : SlotStore} (good : store.WellFormed)
    (bounded : store.Bounded) {call : InventoryCall} (step : store.perform call = some after)
    : after.WellFormed := by
  cases call with
  | openContainer slots =>
      obtain ⟨others, step⟩ := Option.ite_none_right_eq_some.mp step
      cases step
      exact good.openContainer others
  | equipWeaponFromSlot src isPrimary =>
      obtain ⟨has, step⟩ := Option.ite_none_right_eq_some.mp step
      cases step
      exact accepted_of good fun result done =>
        (equipWeaponFromSlot_spec good bounded has done).1.wellFormed
  | unequipWeaponToSlot dst isPrimary =>
      obtain ⟨has, step⟩ := Option.ite_none_right_eq_some.mp step
      cases step
      exact accepted_of good fun result done =>
        (unequipWeaponToSlot_spec good bounded has done).1.wellFormed
  | equipArmorFromSlot src =>
      obtain ⟨has, step⟩ := Option.ite_none_right_eq_some.mp step
      cases step
      exact accepted_of good fun result done =>
        (equipArmorFromSlot_spec good has done).1.wellFormed
  | unequipArmorToSlot dst =>
      obtain ⟨has, step⟩ := Option.ite_none_right_eq_some.mp step
      cases step
      exact accepted_of good fun result done =>
        (unequipArmorToSlot_spec good has done).1.wellFormed
  | reloadMagazine isPrimary =>
      cases step
      have loads := reloaded_spec isPrimary good.stocked good.loaded
      have cached : (store.reloaded isPrimary).Cached := by
        rcases loads.changed with same | ⟨cached, -⟩
        · rw [same]
          exact good.cached
        · exact cached
      exact ⟨loads.stocked, loads.loaded, cached⟩
  | interact interactType startRef endRef quantity =>
      obtain ⟨⟨hasStart, hasEnd, apart, filled⟩, step⟩ :=
        Option.ite_none_right_eq_some.mp step
      cases step
      exact accepted_of good fun moved done =>
        (interact_spec good bounded hasStart hasEnd apart filled done).1.wellFormed
  | fire isPrimary =>
      unfold SlotStore.perform at step
      dsimp only at step
      split at step
      · cases step
        exact good
      · next rounds =>
          cases step
          exact (fired_spec good (Bool.eq_false_iff.mpr rounds)).1
  | clear =>
      cases step
      exact cleared_spec good.stocked

end SlotStore

-----------------------------------------------------------------------------------------
-- Runs
-----------------------------------------------------------------------------------------

/-- The representation of an inventory: slots carry their indexes, the cached index is that of
the first empty slot, every slot is empty or holds at least one of an item, and a magazine
that is not empty has no more than its weapon takes, of the ammunition that it shoots.
-/
structure PlayerInventory.Represented (inventory : PlayerInventory) : Prop where
  indexes : ∀ index : SlotIndex,
    (inventory.inventorySlots.get index).slotIndex = (index.val : Int)
  firstEmpty : ∀ first, inventory.firstEmptySlotIndex = some first →
    (inventory.inventorySlots.get first).isEmpty = true
      ∧ ∀ earlier < first, (inventory.inventorySlots.get earlier).isEmpty = false
  noneEmpty : inventory.firstEmptySlotIndex = none →
    ∀ index : SlotIndex, (inventory.inventorySlots.get index).isEmpty = false
  slots : ∀ index : SlotIndex, (inventory.inventorySlots.get index).WellFormed
  weapon : ∀ isPrimary, (inventory.weaponSlot isPrimary).WellFormed
  armor : inventory.armorSlot.WellFormed
  magazine : ∀ isPrimary, (inventory.magazineSlot isPrimary).WellFormed
  rounds : ∀ isPrimary, (inventory.magazineSlot isPrimary).isEmpty = false →
    (inventory.weaponSlot isPrimary).isEmpty = false
    ∧ ∃ spec,
      ItemDataManager.getWeaponSpec (inventory.weaponSlot isPrimary).item.blueprintId
        = some spec
      ∧ (inventory.magazineSlot isPrimary).item.blueprintId = spec.ammoType
      ∧ (inventory.magazineSlot isPrimary).quantity ≤ spec.maxAmmo

namespace SlotStore

theorem WellFormed.represented {store : SlotStore} (good : store.WellFormed)
    : store.inventory.Represented where
  indexes := good.stocked.indexes
  firstEmpty _ current := good.cached.firstEmpty current
  noneEmpty current := good.cached.noneEmpty current
  slots index := good.stocked.wellFormed (.slot (.inventory index)) trivial
  weapon isPrimary := good.stocked.wellFormed (.weapon isPrimary) trivial
  armor := good.stocked.wellFormed .armor trivial
  magazine isPrimary := good.stocked.wellFormed (.magazine isPrimary) trivial
  rounds := good.loaded

/-- A loadout: stacks of items, at least one of each. -/
def Loadout (slots : List Slot) : Prop :=
  ∀ slot ∈ slots, slot.item.blueprintId ≠ 0 ∧ 1 ≤ slot.quantity

/-- The inventory of a loadout, and the calls that requests make on it. -/
def callSystem : System SlotStore InventoryCall :=
  .ofNext
    (fun store => ∃ inventorySlots equipmentSlots,
      Loadout inventorySlots ∧ Loadout equipmentSlots
      ∧ store = { inventory := .ofSlots inventorySlots equipmentSlots })
    perform

/-- Every sequence of calls keeps the store in order while no total overflows. -/
theorem wellFormed_inductive
    : (callSystem.restrict fun before _ _ => before.Bounded).Inductive WellFormed where
  initial := by
    rintro _ ⟨inventorySlots, equipmentSlots, slots, equipment, rfl⟩
    exact wellFormed_ofSlots (fun slot mem => .inr (slots slot mem))
      fun slot mem => .inr (equipment slot mem)
  step _ _ _ good step := good.perform step.2 step.1

/-- The inventory is represented as it should be after every sequence of operations. -/
theorem inventory_represented {store : SlotStore}
    (reached : (callSystem.restrict fun before _ _ => before.Bounded).Reachable store)
    : store.inventory.Represented :=
  (wellFormed_inductive.reachable reached).represented

/-- A player with an AK-47 in the hand and some rounds for it. -/
def rifleman : SlotStore where
  inventory := .ofSlots [{ item := { blueprintId := 6 }, slotIndex := 3, quantity := 12 }]
    [{ item := { blueprintId := 1 }, slotIndex := 0, quantity := 1 }]

/-- The weapon is fired, rounds are taken out of a container and loaded, and the weapon is put
into the container when another one has been taken out of it.
-/
def rearrange : List InventoryCall :=
  [.openContainer
      [{ item := { blueprintId := 6 }, slotIndex := 0, quantity := 40 },
        { item := { blueprintId := 2 }, slotIndex := 1, quantity := 1 }],
    .fire true,
    .interact 0 (.container 0) (.inventory ⟨0, by decide⟩) 30,
    .reloadMagazine true,
    .equipWeaponFromSlot (.container 1) false,
    .unequipWeaponToSlot (.container 1) true]

/-- All quantities together do not overflow. -/
def isSmall (store : SlotStore) : Bool :=
  ∑ place ∈ store.places, max 0 (store.slotAt place).quantity < 2 ^ 31

theorem bounded_of_isSmall {store : SlotStore} (small : store.isSmall = true)
    : store.Bounded := by
  refine fun blueprintId => lt_of_le_of_lt (Finset.sum_le_sum fun place _ => ?_)
    (of_decide_eq_true small)
  unfold Slot.units
  split
  · exact le_max_right ..
  · exact le_max_left ..

/-- The inventory after all of it, with the rounds of the weapon that has been put away. -/
def rearranged : SlotStore :=
  (Transition.replay perform (fun before _ _ => before.isSmall) rifleman rearrange).getD rifleman

theorem rifleman_represented
    : rearranged.inventory.Represented
      ∧ rearranged.inventory.secondaryWeaponSlot.item.blueprintId = 2
      ∧ (rearranged.get (.inventory ⟨0, by decide⟩)).quantity = 41 := by
  have run := System.Run.of_replay callSystem.initial perform (fun before _ _ => before.isSmall)
    rearrange rifleman rifleman (by decide +kernel)
  have loadout : callSystem.initial rifleman := by
    refine ⟨_, _, fun slot mem => ?_, fun slot mem => ?_, rfl⟩ <;>
      (rw [List.mem_singleton.mp mem]; decide)
  have reached : (callSystem.restrict fun before _ _ => before.Bounded).Reachable rearranged :=
    (run.reachable (.initial loadout)).mono_restrict
      fun _ _ _ _ small => bounded_of_isSmall small
  exact ⟨inventory_represented reached, by decide +kernel, by decide +kernel⟩

end SlotStore

-----------------------------------------------------------------------------------------
-- The requests that make the calls
-----------------------------------------------------------------------------------------

namespace RoomHost

variable {env : Environment} {room : GameRoom} {session : PlayerSession}
  {opened : Option (Nat × Container)} {store : SlotStore}

theorem has_of_resolved {objectId slotIdx : Nat} {version : BitVec 32} {ref : SlotRef}
    (resolved : resolveSlot session.inventory opened objectId version slotIdx
      = .ok (some ref))
    : (slotStore session opened).Has (.slot ref) := by
  rcases resolveSlot_ok resolved with ⟨-, -, index, rfl⟩
    | ⟨-, box, rfl, -, index, inRange, rfl⟩
  · trivial
  · exact inRange

/-- The call of an equipment request. -/
def equipCall (pkt : C2DRequestEquipItem) (ref : SlotRef) : InventoryCall :=
  match pkt.actionType == 0, decide (pkt.equipmentSlotType ≤ 1) with
  | true, true => .equipWeaponFromSlot ref (pkt.equipmentSlotType == 0)
  | true, false => .equipArmorFromSlot ref
  | false, true => .unequipWeaponToSlot ref (pkt.equipmentSlotType == 0)
  | false, false => .unequipArmorToSlot ref

theorem EquipPlan.perform {pkt : C2DRequestEquipItem} {unloadedSlotIdx : Option SlotIndex}
    {ref : SlotRef} (plan : EquipPlan env room session pkt opened store unloadedSlotIdx ref)
    : (slotStore session opened).perform (equipCall pkt ref) = some store := by
  have has := has_of_resolved plan.slot
  have moves := plan.moves
  revert moves
  unfold equipMove equipCall
  cases pkt.actionType == 0 <;> cases decide (pkt.equipmentSlotType ≤ 1) <;> intro moves <;>
    dsimp only at moves <;> simp [SlotStore.perform, has, moves, SlotStore.accepted]

theorem InteractPlan.perform {pkt : C2DRequestInteractContainerObject}
    {startRef endRef : SlotRef} {moved : SlotStore}
    (plan : InteractPlan env room session pkt opened store startRef endRef moved)
    : (slotStore session opened).perform
        (.interact pkt.interactType startRef endRef pkt.quantity) = some store := by
  have hasStart := has_of_resolved plan.startSlot
  have hasEnd := has_of_resolved plan.endSlot
  have result : store = moved.interacted startRef endRef := by
    rw [plan.result]
    rcases resolveSlot_ok plan.startSlot with ⟨player, -, index, rfl⟩
      | ⟨startBox, -, -, -, index, -, rfl⟩
    · rw [if_pos (.inl player)]
      rfl
    rcases resolveSlot_ok plan.endSlot with ⟨player, -, last, rfl⟩
      | ⟨endBox, -, -, -, last, -, rfl⟩
    · rw [if_pos (.inr player)]
      rfl
    · rw [if_neg (not_or.mpr ⟨startBox, endBox⟩)]
      rfl
  simp [SlotStore.perform, hasStart, hasEnd, plan.apart, plan.filled, plan.moves,
    SlotStore.accepted, result]

end RoomHost

end ExtractionServer.Room
