import Mathlib.Algebra.Order.BigOperators.Group.Finset
import Mathlib.Data.Int.Order.Basic
import ExtractionServer.Room.Inventory

/-! The places of an inventory and of the container beside it, the stacks they hold, and what
the holdings of each item amount to.
-/

namespace ExtractionServer.Room

-----------------------------------------------------------------------------------------
-- Stacks
-----------------------------------------------------------------------------------------

namespace Slot

/-- A slot is empty, or it holds at least one of an item. -/
def WellFormed (slot : Slot) : Prop :=
  (slot.item.blueprintId = 0 ∧ slot.quantity = 0)
  ∨ (slot.item.blueprintId ≠ 0 ∧ 1 ≤ slot.quantity)

/-- How many of an item a slot holds. -/
def units (slot : Slot) (blueprintId : Nat) : Int :=
  if slot.item.blueprintId = blueprintId then slot.quantity else 0

namespace WellFormed

variable {slot : Slot}

theorem isEmpty_iff (h : slot.WellFormed) : slot.isEmpty = true ↔ slot.item.blueprintId = 0 := by
  unfold WellFormed at h
  simp only [isEmpty, Bool.and_eq_true, decide_eq_true_eq, beq_iff_eq]
  omega

theorem of_filled (h : slot.WellFormed) (filled : slot.isEmpty = false)
    : slot.item.blueprintId ≠ 0 ∧ 1 ≤ slot.quantity := by
  have nonzero : slot.item.blueprintId ≠ 0 := fun zero => by
    rw [h.isEmpty_iff.mpr zero] at filled
    cases filled
  exact h.resolve_left fun empty => nonzero empty.1

theorem of_empty (h : slot.WellFormed) (empty : slot.isEmpty = true)
    : slot.item.blueprintId = 0 ∧ slot.quantity = 0 := by
  have zero := h.isEmpty_iff.mp empty
  exact h.resolve_right fun filled => filled.1 zero

theorem units_nonneg (h : slot.WellFormed) (blueprintId : Nat)
    : 0 ≤ slot.units blueprintId := by
  unfold WellFormed at h
  unfold units
  split <;> omega

theorem units_of_empty (h : slot.WellFormed) (empty : slot.isEmpty = true)
    (blueprintId : Nat)
    : slot.units blueprintId = 0 := by
  unfold units
  rw [(h.of_empty empty).2]
  exact ite_self 0

end WellFormed

theorem wellFormed_clear (slot : Slot) : slot.clear.WellFormed := .inl ⟨rfl, rfl⟩

@[simp] theorem isEmpty_clear (slot : Slot) : slot.clear.isEmpty = true := rfl

@[simp] theorem units_clear (slot : Slot) (blueprintId : Nat)
    : slot.clear.units blueprintId = 0 := by
  unfold units clear
  exact ite_self 0

@[simp] theorem slotIndex_clear (slot : Slot) : slot.clear.slotIndex = slot.slotIndex := rfl

@[simp] theorem slotIndex_put (slot : Slot) (item : Item) (quantity : Int)
    : (slot.put item quantity).slotIndex = slot.slotIndex := rfl

theorem units_put (slot : Slot) (item : Item) (quantity : Int) (blueprintId : Nat)
    : (slot.put item quantity).units blueprintId
      = if item.blueprintId = blueprintId then quantity else 0 := rfl

/-- The stack of one slot in another one. -/
theorem units_put_stack (slot other : Slot) (blueprintId : Nat)
    : (slot.put other.item other.quantity).units blueprintId = other.units blueprintId := rfl

theorem wellFormed_put_stack (slot : Slot) {other : Slot} (h : other.WellFormed)
    : (slot.put other.item other.quantity).WellFormed := h

@[simp] theorem slotIndex_take (slot : Slot) (quantity : Int)
    : (slot.take quantity).slotIndex = slot.slotIndex := by
  unfold take
  dsimp only
  split <;> rfl

theorem take_all (slot : Slot) : slot.take slot.quantity = slot.clear := by
  unfold take
  dsimp only
  rw [Int.sub_self, if_pos (Int.le_refl 0)]
  rfl

/-- Taking part of a stack, or all of it. -/
theorem WellFormed.take {slot : Slot} (h : slot.WellFormed) {quantity : Int}
    (nonneg : 0 ≤ quantity) (enough : quantity ≤ slot.quantity)
    : (slot.take quantity).WellFormed
      ∧ ∀ blueprintId, (slot.take quantity).units blueprintId
        = slot.units blueprintId
          - if slot.item.blueprintId = blueprintId then quantity else 0 := by
  unfold Slot.take
  dsimp only
  split
  · next none =>
      refine ⟨wellFormed_clear _, fun blueprintId => ?_⟩
      rw [units_clear]
      unfold units
      split <;> omega
  · next some =>
      refine ⟨.inr ⟨?_, by dsimp only; omega⟩, fun blueprintId => ?_⟩
      · unfold WellFormed at h
        dsimp only
        omega
      · unfold units
        dsimp only
        split <;> omega

end Slot

-----------------------------------------------------------------------------------------
-- Places
-----------------------------------------------------------------------------------------

/-- Where a stack can lie. -/
inductive Place where
  | weapon (isPrimary : Bool)
  | armor
  | magazine (isPrimary : Bool)
  | slot (ref : SlotRef)
deriving DecidableEq, Repr

namespace SlotStore

/-- The slot at a place. -/
def slotAt (store : SlotStore) : Place → Slot
  | .weapon isPrimary => store.inventory.weaponSlot isPrimary
  | .armor => store.inventory.armorSlot
  | .magazine isPrimary => store.inventory.magazineSlot isPrimary
  | .slot ref => store.get ref

def write (store : SlotStore) (place : Place) (slot : Slot) : SlotStore :=
  match place with
  | .weapon isPrimary =>
      { store with inventory := store.inventory.setWeaponSlot isPrimary slot }
  | .armor => { store with inventory := { store.inventory with armorSlot := slot } }
  | .magazine isPrimary =>
      { store with inventory := store.inventory.setMagazineSlot isPrimary slot }
  | .slot ref => store.set ref slot

/-- The place exists: a container has as many slots as its list. -/
def Has (store : SlotStore) : Place → Prop
  | .slot (.container index) => index < store.container.length
  | _ => True

instance (store : SlotStore) (place : Place) : Decidable (store.Has place) := by
  unfold Has
  split <;> infer_instance

variable (store : SlotStore)

@[simp] theorem container_length_write (place : Place) (slot : Slot)
    : (store.write place slot).container.length = store.container.length := by
  unfold write SlotStore.set
  split
  · rfl
  · rfl
  · rfl
  · split
    · rfl
    · exact List.length_set

/-- Stacks are written without telling the version or the cached index. -/
@[simp] theorem inventoryVersion_write (place : Place) (slot : Slot)
    : (store.write place slot).inventory.inventoryVersion
      = store.inventory.inventoryVersion := by
  cases place with
  | weapon isPrimary => cases isPrimary <;> rfl
  | armor => rfl
  | magazine isPrimary => cases isPrimary <;> rfl
  | slot ref => cases ref <;> rfl

@[simp] theorem firstEmptySlotIndex_write (place : Place) (slot : Slot)
    : (store.write place slot).inventory.firstEmptySlotIndex
      = store.inventory.firstEmptySlotIndex := by
  cases place with
  | weapon isPrimary => cases isPrimary <;> rfl
  | armor => rfl
  | magazine isPrimary => cases isPrimary <;> rfl
  | slot ref => cases ref <;> rfl

@[simp] theorem has_write (place other : Place) (slot : Slot)
    : (store.write place slot).Has other ↔ store.Has other := by
  unfold Has
  split
  · rw [container_length_write]
  · rfl

/-- A write changes the place it names. -/
theorem slotAt_write_self {place : Place} (has : store.Has place) (slot : Slot)
    : (store.write place slot).slotAt place = slot := by
  cases place with
  | weapon isPrimary => cases isPrimary <;> rfl
  | armor => rfl
  | magazine isPrimary => cases isPrimary <;> rfl
  | slot ref =>
      cases ref with
      | inventory index =>
          simp [write, SlotStore.set, slotAt, SlotStore.get, PlayerInventory.setSlot]
      | container index =>
          have inRange : index < store.container.length := has
          simp [write, SlotStore.set, slotAt, SlotStore.get, inRange]

/-- A write changes no other place. -/
theorem slotAt_write_ne {place other : Place} (apart : other ≠ place) (slot : Slot)
    : (store.write place slot).slotAt other = store.slotAt other := by
  cases place with
  | weapon isPrimary =>
      cases other with
      | weapon otherPrimary =>
          cases isPrimary <;> cases otherPrimary <;> first | rfl | exact absurd rfl apart
      | armor => cases isPrimary <;> rfl
      | magazine otherPrimary => cases isPrimary <;> cases otherPrimary <;> rfl
      | slot ref => cases isPrimary <;> cases ref <;> rfl
  | armor =>
      cases other with
      | weapon otherPrimary => cases otherPrimary <;> rfl
      | armor => exact absurd rfl apart
      | magazine otherPrimary => cases otherPrimary <;> rfl
      | slot ref => cases ref <;> rfl
  | magazine isPrimary =>
      cases other with
      | weapon otherPrimary => cases isPrimary <;> cases otherPrimary <;> rfl
      | armor => cases isPrimary <;> rfl
      | magazine otherPrimary =>
          cases isPrimary <;> cases otherPrimary <;> first | rfl | exact absurd rfl apart
      | slot ref => cases isPrimary <;> cases ref <;> rfl
  | slot ref =>
      cases ref with
      | inventory index =>
          cases other with
          | weapon otherPrimary => cases otherPrimary <;> rfl
          | armor => rfl
          | magazine otherPrimary => cases otherPrimary <;> rfl
          | slot otherRef =>
              cases otherRef with
              | inventory otherIndex =>
                  have different : index ≠ otherIndex := fun same => apart (by rw [same])
                  have values : (index : Nat) ≠ otherIndex := Fin.val_ne_of_ne different
                  simp [write, SlotStore.set, slotAt, SlotStore.get, PlayerInventory.setSlot,
                    values]
              | container otherIndex => rfl
      | container index =>
          cases other with
          | weapon otherPrimary => cases otherPrimary <;> rfl
          | armor => rfl
          | magazine otherPrimary => cases otherPrimary <;> rfl
          | slot otherRef =>
              cases otherRef with
              | inventory otherIndex => rfl
              | container otherIndex =>
                  have different : index ≠ otherIndex := fun same => apart (by rw [same])
                  simp [write, SlotStore.set, slotAt, SlotStore.get, different]

/-- Writes to different places do not mind their order. -/
theorem write_comm {place other : Place} (apart : other ≠ place) (slot otherSlot : Slot)
    : (store.write place slot).write other otherSlot
      = (store.write other otherSlot).write place slot := by
  cases place with
  | weapon isPrimary =>
      cases other with
      | weapon otherPrimary =>
          cases isPrimary <;> cases otherPrimary <;> first | rfl | exact absurd rfl apart
      | armor => cases isPrimary <;> rfl
      | magazine otherPrimary => cases isPrimary <;> cases otherPrimary <;> rfl
      | slot ref => cases isPrimary <;> cases ref <;> rfl
  | armor =>
      cases other with
      | weapon otherPrimary => cases otherPrimary <;> rfl
      | armor => exact absurd rfl apart
      | magazine otherPrimary => cases otherPrimary <;> rfl
      | slot ref => cases ref <;> rfl
  | magazine isPrimary =>
      cases other with
      | weapon otherPrimary => cases isPrimary <;> cases otherPrimary <;> rfl
      | armor => cases isPrimary <;> rfl
      | magazine otherPrimary =>
          cases isPrimary <;> cases otherPrimary <;> first | rfl | exact absurd rfl apart
      | slot ref => cases isPrimary <;> cases ref <;> rfl
  | slot ref =>
      cases ref with
      | inventory index =>
          cases other with
          | weapon otherPrimary => cases otherPrimary <;> rfl
          | armor => rfl
          | magazine otherPrimary => cases otherPrimary <;> rfl
          | slot otherRef =>
              cases otherRef with
              | inventory otherIndex =>
                  have different : (index : Nat) ≠ otherIndex :=
                    Fin.val_ne_of_ne fun same => apart (by rw [same])
                  simp [write, SlotStore.set, PlayerInventory.setSlot,
                    Vector.set_comm _ _ different]
              | container otherIndex => rfl
      | container index =>
          cases other with
          | weapon otherPrimary => cases otherPrimary <;> rfl
          | armor => rfl
          | magazine otherPrimary => cases otherPrimary <;> rfl
          | slot otherRef =>
              cases otherRef with
              | inventory otherIndex => rfl
              | container otherIndex =>
                  have different : index ≠ otherIndex := fun same => apart (by rw [same])
                  simp [write, SlotStore.set, List.set_comm _ _ different]

/-- The places of a store. -/
def places : Finset Place :=
  ([Place.weapon true, .weapon false, .armor, .magazine true, .magazine false]
    ++ (List.finRange INVENTORY_SLOT_COUNT).map (Place.slot ∘ SlotRef.inventory)
    ++ (List.range store.container.length).map (Place.slot ∘ SlotRef.container)).toFinset

theorem mem_places (place : Place) : place ∈ store.places ↔ store.Has place := by
  unfold places Has
  simp only [List.toFinset_append, Finset.mem_union, List.mem_toFinset]
  cases place with
  | weapon isPrimary => cases isPrimary <;> simp
  | armor => simp
  | magazine isPrimary => cases isPrimary <;> simp
  | slot ref => cases ref <;> simp

theorem places_write (place : Place) (slot : Slot)
    : (store.write place slot).places = store.places := by
  unfold places
  rw [container_length_write]

/-- How many of an item lie in a store. -/
def amount (blueprintId : Nat) : Int :=
  ∑ place ∈ store.places, (store.slotAt place).units blueprintId

/-- A write changes the amount of an item by the difference of two stacks. -/
theorem amount_write {place : Place} (has : store.Has place) (slot : Slot)
    (blueprintId : Nat)
    : (store.write place slot).amount blueprintId
      = store.amount blueprintId - (store.slotAt place).units blueprintId
        + slot.units blueprintId := by
  have mem := (store.mem_places place).mpr has
  have others : ∑ other ∈ store.places.erase place,
        ((store.write place slot).slotAt other).units blueprintId
      = ∑ other ∈ store.places.erase place, (store.slotAt other).units blueprintId := by
    refine Finset.sum_congr rfl fun other erased => ?_
    rw [slotAt_write_ne store (Finset.ne_of_mem_erase erased)]
  unfold amount
  rw [places_write, ← Finset.add_sum_erase _ _ mem, ← Finset.add_sum_erase _ _ mem, others,
    slotAt_write_self store has]
  omega

/-- Two different places hold no more of an item than all of them. -/
theorem units_add_le_amount {place other : Place} (has : store.Has place)
    (hasOther : store.Has other) (apart : other ≠ place)
    (sound : ∀ place, store.Has place → (store.slotAt place).WellFormed)
    (blueprintId : Nat)
    : (store.slotAt place).units blueprintId + (store.slotAt other).units blueprintId
      ≤ store.amount blueprintId := by
  have mem := (store.mem_places place).mpr has
  have memOther : other ∈ store.places.erase place :=
    Finset.mem_erase.mpr ⟨apart, (store.mem_places other).mpr hasOther⟩
  have rest : 0 ≤ ∑ third ∈ (store.places.erase place).erase other,
      (store.slotAt third).units blueprintId := by
    refine Finset.sum_nonneg fun third erased => ?_
    have known := Finset.mem_of_mem_erase (Finset.mem_of_mem_erase erased)
    exact (sound third ((store.mem_places third).mp known)).units_nonneg blueprintId
  unfold amount
  rw [← Finset.add_sum_erase _ _ mem, ← Finset.add_sum_erase _ _ memOther]
  omega

-----------------------------------------------------------------------------------------
-- Stocked stores
-----------------------------------------------------------------------------------------

/-- Every place holds a well-formed stack, and the slots of the inventory carry their
indexes.
-/
structure Stocked (store : SlotStore) : Prop where
  indexes : ∀ index : SlotIndex,
    (store.slotAt (.slot (.inventory index))).slotIndex = (index.val : Int)
  wellFormed : ∀ place, store.Has place → (store.slotAt place).WellFormed

/-- Two stores hold the same stacks at the same places. -/
structure SameStacks (before after : SlotStore) : Prop where
  slotAt : ∀ place, after.slotAt place = before.slotAt place
  container : after.container.length = before.container.length

namespace SameStacks

variable {before after : SlotStore}

theorem refl (store : SlotStore) : SameStacks store store := ⟨fun _ => rfl, rfl⟩

theorem has_iff (h : SameStacks before after) (place : Place)
    : after.Has place ↔ before.Has place := by
  unfold Has
  split
  · rw [h.container]
  · rfl

theorem stocked (h : SameStacks before after) (stocked : before.Stocked)
    : after.Stocked where
  indexes index := by
    rw [h.slotAt]
    exact stocked.indexes index
  wellFormed place has := by
    rw [h.slotAt]
    exact stocked.wellFormed place ((h.has_iff place).mp has)

theorem amount (h : SameStacks before after) (blueprintId : Nat)
    : after.amount blueprintId = before.amount blueprintId := by
  unfold SlotStore.amount SlotStore.places
  rw [h.container]
  exact Finset.sum_congr rfl fun place _ => by rw [h.slotAt]

end SameStacks

theorem sameStacks_updateFirstEmptySlotIndex
    : SameStacks store
        { store with inventory := store.inventory.updateFirstEmptySlotIndex } where
  slotAt place := by
    cases place with
    | slot ref => cases ref <;> rfl
    | _ => rfl
  container := rfl

theorem sameStacks_incrementInventoryVersion
    : SameStacks store
        { store with inventory := store.inventory.incrementInventoryVersion } where
  slotAt place := by
    cases place with
    | slot ref => cases ref <;> rfl
    | _ => rfl
  container := rfl

theorem sameStacks_touchInventory : SameStacks store store.touchInventory where
  slotAt place := by
    cases place with
    | slot ref => cases ref <;> rfl
    | _ => rfl
  container := rfl

theorem Stocked.write {store : SlotStore} (h : store.Stocked) {place : Place}
    (has : store.Has place) {slot : Slot} (good : slot.WellFormed)
    (index : slot.slotIndex = (store.slotAt place).slotIndex)
    : (store.write place slot).Stocked where
  indexes own := by
    by_cases same : Place.slot (.inventory own) = place
    · subst same
      rw [slotAt_write_self store has, index]
      exact h.indexes own
    · rw [slotAt_write_ne store same]
      exact h.indexes own
  wellFormed other hasOther := by
    by_cases same : other = place
    · subst same
      rwa [slotAt_write_self store has]
    · rw [slotAt_write_ne store same]
      exact h.wellFormed other ((store.has_write place other slot).mp hasOther)

/-- Two places exchange what they hold: both new stacks are well formed, the slots keep their
indexes, and together they hold as much of every item as before.
-/
structure Exchange (store : SlotStore) (place other : Place) (first second : Slot)
    : Prop where
  has : store.Has place
  hasOther : store.Has other
  apart : other ≠ place
  firstGood : first.WellFormed
  secondGood : second.WellFormed
  firstIndex : first.slotIndex = (store.slotAt place).slotIndex
  secondIndex : second.slotIndex = (store.slotAt other).slotIndex
  units : ∀ blueprintId, first.units blueprintId + second.units blueprintId
    = (store.slotAt place).units blueprintId + (store.slotAt other).units blueprintId

namespace Exchange

variable {store : SlotStore} {place other : Place} {first second : Slot}

theorem stocked (h : Exchange store place other first second)
    (stocked : store.Stocked)
    : ((store.write place first).write other second).Stocked := by
  refine (stocked.write h.has h.firstGood h.firstIndex).write
    ((store.has_write place other first).mpr h.hasOther) h.secondGood ?_
  rw [slotAt_write_ne store h.apart]
  exact h.secondIndex

theorem amount (h : Exchange store place other first second) (blueprintId : Nat)
    : ((store.write place first).write other second).amount blueprintId
      = store.amount blueprintId := by
  have units := h.units blueprintId
  rw [amount_write _ ((store.has_write place other first).mpr h.hasOther),
    amount_write _ h.has, slotAt_write_ne store h.apart]
  omega

end Exchange

/-- No other place sees an exchange. -/
theorem slotAt_write_write {place other third : Place} (apart : third ≠ place)
    (apartOther : third ≠ other) (first second : Slot)
    : ((store.write place first).write other second).slotAt third = store.slotAt third := by
  rw [slotAt_write_ne _ apartOther, slotAt_write_ne _ apart]

end SlotStore

end ExtractionServer.Room
