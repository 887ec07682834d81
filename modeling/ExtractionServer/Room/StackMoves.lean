import ExtractionServer.Room.Stacks

/-! What the operations on an inventory move: which stacks, between which places, and what is
thereby lost. Magazines hold only what their weapons take, and the cached first empty slot
stays the first empty slot.
-/

namespace ExtractionServer.Room

namespace ItemDataManager

/-- Weapons take thirty rounds of an item that is itself no weapon. -/
theorem getWeaponSpec_ammo {blueprintId : Nat} {spec : WeaponSpec}
    (known : getWeaponSpec blueprintId = some spec)
    : spec.maxAmmo = 30 ∧ spec.ammoType ≠ 0 ∧ getType spec.ammoType = .ammo
      ∧ getType blueprintId = .weapon := by
  unfold getWeaponSpec at known
  split at known <;> cases known <;> exact ⟨rfl, by decide, rfl, rfl⟩

end ItemDataManager

namespace SlotStore

-----------------------------------------------------------------------------------------
-- Magazines and the first empty slot
-----------------------------------------------------------------------------------------

/-- The bound under which no quantity overflows. -/
def Bounded (store : SlotStore) : Prop := ∀ blueprintId, store.amount blueprintId < 2 ^ 31

/-- A magazine that is not empty belongs to a weapon that takes its rounds. -/
def Loaded (store : SlotStore) (isPrimary : Bool) : Prop :=
  (store.slotAt (.magazine isPrimary)).isEmpty = false →
    (store.slotAt (.weapon isPrimary)).isEmpty = false
    ∧ ∃ spec,
      ItemDataManager.getWeaponSpec (store.slotAt (.weapon isPrimary)).item.blueprintId
        = some spec
      ∧ (store.slotAt (.magazine isPrimary)).item.blueprintId = spec.ammoType
      ∧ (store.slotAt (.magazine isPrimary)).quantity ≤ spec.maxAmmo

/-- The cached index is the one that a search would find. -/
def Cached (store : SlotStore) : Prop :=
  store.inventory.updateFirstEmptySlotIndex = store.inventory

structure WellFormed (store : SlotStore) : Prop where
  stocked : store.Stocked
  loaded : ∀ isPrimary, store.Loaded isPrimary
  cached : store.Cached

variable {store before after : SlotStore}

theorem Loaded.of_empty {isPrimary : Bool}
    (empty : (store.slotAt (.magazine isPrimary)).isEmpty = true)
    : store.Loaded isPrimary := by
  intro filled
  rw [empty] at filled
  cases filled

theorem Loaded.of_eq {isPrimary : Bool} (loaded : before.Loaded isPrimary)
    (weapon : after.slotAt (.weapon isPrimary) = before.slotAt (.weapon isPrimary))
    (magazine : after.slotAt (.magazine isPrimary) = before.slotAt (.magazine isPrimary))
    : after.Loaded isPrimary := by
  unfold Loaded
  rw [weapon, magazine]
  exact loaded

theorem SameStacks.loaded (same : SameStacks before after) {isPrimary : Bool}
    (loaded : before.Loaded isPrimary)
    : after.Loaded isPrimary :=
  loaded.of_eq (same.slotAt _) (same.slotAt _)

theorem Bounded.of_le (bounded : before.Bounded)
    (le : ∀ blueprintId, after.amount blueprintId ≤ before.amount blueprintId)
    : after.Bounded := fun blueprintId =>
  (le blueprintId).trans_lt (bounded blueprintId)

theorem cached_updateFirstEmptySlotIndex (store : SlotStore)
    : Cached { store with inventory := store.inventory.updateFirstEmptySlotIndex } := rfl

theorem cached_touchInventory (store : SlotStore) : store.touchInventory.Cached := rfl

theorem Cached.incrementInventoryVersion (cached : store.Cached)
    : Cached { store with inventory := store.inventory.incrementInventoryVersion } :=
  congrArg PlayerInventory.incrementInventoryVersion cached

/-- The cache holds as long as the same slots are empty. -/
theorem Cached.of_eq (cached : before.Cached)
    (index : after.inventory.firstEmptySlotIndex = before.inventory.firstEmptySlotIndex)
    (same : ∀ index, (after.slotAt (.slot (.inventory index))).isEmpty
      = (before.slotAt (.slot (.inventory index))).isEmpty)
    : after.Cached := by
  have found : before.inventory.updateFirstEmptySlotIndex.firstEmptySlotIndex
      = before.inventory.firstEmptySlotIndex :=
    congrArg PlayerInventory.firstEmptySlotIndex cached
  have search : after.inventory.updateFirstEmptySlotIndex.firstEmptySlotIndex
      = before.inventory.updateFirstEmptySlotIndex.firstEmptySlotIndex :=
    congrArg (fun test => List.find? test (List.finRange INVENTORY_SLOT_COUNT)) (funext same)
  unfold Cached
  rw [show after.inventory.updateFirstEmptySlotIndex
      = { after.inventory with
          firstEmptySlotIndex :=
            after.inventory.updateFirstEmptySlotIndex.firstEmptySlotIndex } from rfl,
    search, found, ← index]

/-- The cached slot is the first empty one, as the search goes by ascending indexes. -/
theorem Cached.firstEmpty (cached : store.Cached) {first : SlotIndex}
    (current : store.inventory.firstEmptySlotIndex = some first)
    : (store.slotAt (.slot (.inventory first))).isEmpty = true
      ∧ ∀ earlier < first, (store.slotAt (.slot (.inventory earlier))).isEmpty = false := by
  have found : (List.finRange INVENTORY_SLOT_COUNT).find?
      (fun index => (store.slotAt (.slot (.inventory index))).isEmpty) = some first :=
    (congrArg PlayerInventory.firstEmptySlotIndex cached).trans current
  obtain ⟨empty, before, after, order, filled⟩ := List.find?_eq_some_iff_append.mp found
  refine ⟨empty, fun earlier below => ?_⟩
  have sorted := List.pairwise_lt_finRange INVENTORY_SLOT_COUNT
  have listed := List.mem_finRange earlier
  rw [order] at sorted listed
  have notAfter : ∀ later ∈ first :: after, first ≤ later := by
    intro later mem
    rcases List.mem_cons.mp mem with rfl | mem
    · exact Nat.le_refl _
    · exact Nat.le_of_lt
        ((List.pairwise_cons.mp (List.pairwise_append.mp sorted).2.1).1 later mem)
  rcases List.mem_append.mp listed with mem | mem
  · simpa using filled earlier mem
  · exact absurd below (Nat.not_lt.mpr (notAfter earlier mem))

theorem Cached.noneEmpty (cached : store.Cached)
    (current : store.inventory.firstEmptySlotIndex = none) (index : SlotIndex)
    : (store.slotAt (.slot (.inventory index))).isEmpty = false := by
  have found : (List.finRange INVENTORY_SLOT_COUNT).find?
      (fun index => (store.slotAt (.slot (.inventory index))).isEmpty) = none :=
    (congrArg PlayerInventory.firstEmptySlotIndex cached).trans current
  simpa using List.find?_eq_none.mp found index (List.mem_finRange index)

-----------------------------------------------------------------------------------------
-- Exchanges
-----------------------------------------------------------------------------------------

variable {place other : Place}

/-- Two stacks trade places. -/
theorem exchange_swap (stocked : store.Stocked) (has : store.Has place)
    (hasOther : store.Has other) (apart : other ≠ place)
    : store.Exchange place other
        ((store.slotAt place).put (store.slotAt other).item (store.slotAt other).quantity)
        ((store.slotAt other).put (store.slotAt place).item (store.slotAt place).quantity)
    where
  has := has
  hasOther := hasOther
  apart := apart
  firstGood := Slot.wellFormed_put_stack _ (stocked.wellFormed other hasOther)
  secondGood := Slot.wellFormed_put_stack _ (stocked.wellFormed place has)
  firstIndex := rfl
  secondIndex := rfl
  units blueprintId := by
    rw [Slot.units_put_stack, Slot.units_put_stack, Int.add_comm]

/-- A stack moves into an empty place. -/
theorem exchange_move (stocked : store.Stocked) (has : store.Has place)
    (hasOther : store.Has other) (apart : other ≠ place)
    (empty : (store.slotAt place).isEmpty = true)
    : store.Exchange place other
        ((store.slotAt place).put (store.slotAt other).item (store.slotAt other).quantity)
        (store.slotAt other).clear
    where
  has := has
  hasOther := hasOther
  apart := apart
  firstGood := Slot.wellFormed_put_stack _ (stocked.wellFormed other hasOther)
  secondGood := Slot.wellFormed_clear _
  firstIndex := rfl
  secondIndex := rfl
  units blueprintId := by
    rw [Slot.units_put_stack, Slot.units_clear,
      (stocked.wellFormed place has).units_of_empty empty]
    omega

/-- The same with the places named the other way round. -/
theorem exchange_moveTo (stocked : store.Stocked) (has : store.Has place)
    (hasOther : store.Has other) (apart : other ≠ place)
    (empty : (store.slotAt other).isEmpty = true)
    : store.Exchange place other (store.slotAt place).clear
        ((store.slotAt other).put (store.slotAt place).item (store.slotAt place).quantity)
    where
  has := has
  hasOther := hasOther
  apart := apart
  firstGood := Slot.wellFormed_clear _
  secondGood := Slot.wellFormed_put_stack _ (stocked.wellFormed place has)
  firstIndex := rfl
  secondIndex := rfl
  units blueprintId := by
    rw [Slot.units_put_stack, Slot.units_clear,
      (stocked.wellFormed other hasOther).units_of_empty empty]
    omega

/-- Part of a stack moves into an empty place. -/
theorem exchange_split (stocked : store.Stocked) (has : store.Has place)
    (hasOther : store.Has other) (apart : other ≠ place)
    (empty : (store.slotAt place).isEmpty = true)
    (filled : (store.slotAt other).isEmpty = false) {quantity : Int}
    (positive : 0 < quantity) (enough : quantity ≤ (store.slotAt other).quantity)
    : store.Exchange place other ((store.slotAt place).put (store.slotAt other).item quantity)
        ((store.slotAt other).take quantity) := by
  have good := (stocked.wellFormed other hasOther).of_filled filled
  have taken := (stocked.wellFormed other hasOther).take positive.le enough
  exact
    { has
      hasOther
      apart
      firstGood := .inr ⟨good.1, positive⟩
      secondGood := taken.1
      firstIndex := rfl
      secondIndex := Slot.slotIndex_take _ _
      units := fun blueprintId => by
        rw [taken.2 blueprintId, Slot.units_put,
          (stocked.wellFormed place has).units_of_empty empty]
        omega }

/-- Two stacks of one item fit into one slot. -/
theorem Bounded.fits (bounded : store.Bounded) (stocked : store.Stocked)
    (has : store.Has place) (hasOther : store.Has other) (apart : other ≠ place)
    (same : (store.slotAt other).item.blueprintId = (store.slotAt place).item.blueprintId)
    : (store.slotAt place).quantity + (store.slotAt other).quantity < 2 ^ 31 := by
  have le := (store.units_add_le_amount has hasOther apart stocked.wellFormed
    (store.slotAt place).item.blueprintId).trans_lt (bounded _)
  simpa only [Slot.units, same, if_true] using le

/-- Part of a stack is added to another stack of the same item. -/
theorem exchange_merge (stocked : store.Stocked) (has : store.Has place)
    (hasOther : store.Has other) (apart : other ≠ place)
    (filled : (store.slotAt place).isEmpty = false)
    (same : (store.slotAt other).item.blueprintId = (store.slotAt place).item.blueprintId)
    {quantity : Int} (nonneg : 0 ≤ quantity) (enough : quantity ≤ (store.slotAt other).quantity)
    (fits : (store.slotAt place).quantity + quantity < 2 ^ 31)
    : store.Exchange place other
        { store.slotAt place with
          quantity := addInt32 (store.slotAt place).quantity quantity }
        ((store.slotAt other).take quantity) := by
  have good := (stocked.wellFormed place has).of_filled filled
  have taken := (stocked.wellFormed other hasOther).take nonneg enough
  have sum : addInt32 (store.slotAt place).quantity quantity
      = (store.slotAt place).quantity + quantity :=
    Int.bmod_eq_of_le (by omega) (by omega)
  rw [sum]
  exact
    { has
      hasOther
      apart
      firstGood := .inr ⟨good.1, by dsimp only; omega⟩
      secondGood := taken.1
      firstIndex := rfl
      secondIndex := Slot.slotIndex_take _ _
      units := fun blueprintId => by
        rw [taken.2 blueprintId, same]
        simp only [Slot.units, same]
        split <;> omega }

-----------------------------------------------------------------------------------------
-- Unloading a magazine
-----------------------------------------------------------------------------------------

/-- The store after its magazine went back into the inventory. -/
def unloaded (store : SlotStore) (isPrimary : Bool) : SlotStore :=
  { store with inventory := (store.inventory.unloadMagazineToInventory isPrimary).1 }

/-- The rounds that fit nowhere. -/
def discarded (store : SlotStore) (isPrimary : Bool) (blueprintId : Nat) : Int :=
  if store.inventory.sameAmmoSlot isPrimary = none
      ∧ store.inventory.firstEmptySlotIndex = none then
    (store.slotAt (.magazine isPrimary)).units blueprintId
  else 0

/-- What unloading a magazine does: the magazine is empty, its rounds lie in the inventory or
are discarded, and slots with anything else than rounds stay.
-/
structure Unloaded (isPrimary : Bool) (before after : SlotStore) : Prop where
  stocked : after.Stocked
  cached : after.Cached
  container : after.container = before.container
  magazine : (after.slotAt (.magazine isPrimary)).isEmpty = true
  otherMagazine : after.slotAt (.magazine !isPrimary) = before.slotAt (.magazine !isPrimary)
  weapon : ∀ isPrimary, after.slotAt (.weapon isPrimary) = before.slotAt (.weapon isPrimary)
  armor : after.slotAt .armor = before.slotAt .armor
  amount : ∀ blueprintId, after.amount blueprintId
    = before.amount blueprintId - before.discarded isPrimary blueprintId
  kept : ∀ index, (before.slotAt (.slot (.inventory index))).isEmpty = false →
    (before.slotAt (.slot (.inventory index))).item.blueprintId
      ≠ (before.slotAt (.magazine isPrimary)).item.blueprintId →
    after.slotAt (.slot (.inventory index)) = before.slotAt (.slot (.inventory index))
  version : after.inventory.inventoryVersion = before.inventory.inventoryVersion

/-- An empty magazine has nothing to unload. -/
theorem unloaded_of_empty {isPrimary : Bool} (stocked : store.Stocked)
    (cached : store.Cached) (empty : (store.slotAt (.magazine isPrimary)).isEmpty = true)
    : Unloaded isPrimary store (store.unloaded isPrimary) := by
  have same : store.unloaded isPrimary = store := by
    unfold unloaded PlayerInventory.unloadMagazineToInventory
    rw [if_pos (show (store.inventory.magazineSlot isPrimary).isEmpty = true from empty)]
  rw [same]
  exact
    { stocked
      cached
      container := rfl
      magazine := empty
      otherMagazine := rfl
      weapon := fun _ => rfl
      armor := rfl
      amount := fun blueprintId => by
        unfold discarded
        rw [(stocked.wellFormed (.magazine isPrimary) trivial).units_of_empty empty, ite_self,
          Int.sub_zero]
      kept := fun _ _ _ => rfl
      version := rfl }

/-- Where the rounds of a magazine go that is not empty: to a stack of the same rounds, away,
or into the first empty slot.
-/
theorem unloaded_of_filled {isPrimary : Bool}
    (filled : (store.slotAt (.magazine isPrimary)).isEmpty = false)
    : (∃ index, store.inventory.sameAmmoSlot isPrimary = some index
        ∧ (store.slotAt (.slot (.inventory index))).isEmpty = false
        ∧ (store.slotAt (.magazine isPrimary)).item.blueprintId
          = (store.slotAt (.slot (.inventory index))).item.blueprintId
        ∧ store.unloaded isPrimary
          = (store.write (.slot (.inventory index))
              { store.slotAt (.slot (.inventory index)) with
                quantity := addInt32 (store.slotAt (.slot (.inventory index))).quantity
                  (store.slotAt (.magazine isPrimary)).quantity }).write
              (.magazine isPrimary) (store.slotAt (.magazine isPrimary)).clear)
      ∨ (store.inventory.sameAmmoSlot isPrimary = none
        ∧ store.inventory.firstEmptySlotIndex = none
        ∧ store.unloaded isPrimary
          = store.write (.magazine isPrimary) (store.slotAt (.magazine isPrimary)).clear)
      ∨ ∃ index, store.inventory.firstEmptySlotIndex = some index
        ∧ store.unloaded isPrimary
          = { store with
              inventory :=
                ((store.write (.slot (.inventory index))
                  ((store.slotAt (.slot (.inventory index))).put
                    (store.slotAt (.magazine isPrimary)).item
                    (store.slotAt (.magazine isPrimary)).quantity)).write
                  (.magazine isPrimary)
                  (store.slotAt (.magazine isPrimary)).clear
                ).inventory.updateFirstEmptySlotIndex } := by
  have notEmpty : (store.inventory.magazineSlot isPrimary).isEmpty = false := filled
  unfold unloaded PlayerInventory.unloadMagazineToInventory
  simp only [notEmpty, Bool.false_eq_true, if_false]
  cases sameAmmo : store.inventory.sameAmmoSlot isPrimary with
  | some index =>
      have found := List.find?_some sameAmmo
      simp only [Bool.and_eq_true, Bool.not_eq_true', beq_iff_eq] at found
      exact .inl ⟨index, rfl, found.1, found.2.symm, rfl⟩
  | none =>
      cases first : store.inventory.firstEmptySlotIndex with
      | none => exact .inr (.inl ⟨rfl, rfl, rfl⟩)
      | some index => exact .inr (.inr ⟨index, rfl, rfl⟩)

/-- Rounds that go to a slot of the inventory, which was empty or held the same rounds. -/
theorem unloaded_of_exchange {isPrimary : Bool} {index : SlotIndex} {stack : Slot}
    (stocked : store.Stocked)
    (exchange : store.Exchange (.slot (.inventory index)) (.magazine isPrimary) stack
      (store.slotAt (.magazine isPrimary)).clear)
    (fits : (store.slotAt (.slot (.inventory index))).isEmpty = true
      ∨ (store.slotAt (.slot (.inventory index))).item.blueprintId
        = (store.slotAt (.magazine isPrimary)).item.blueprintId)
    (room : store.inventory.sameAmmoSlot isPrimary ≠ none
      ∨ store.inventory.firstEmptySlotIndex ≠ none)
    (same : SameStacks
      ((store.write (.slot (.inventory index)) stack).write (.magazine isPrimary)
        (store.slotAt (.magazine isPrimary)).clear) after)
    (container : after.container = store.container) (cached : after.Cached)
    (version : after.inventory.inventoryVersion = store.inventory.inventoryVersion)
    : Unloaded isPrimary store after where
  stocked := same.stocked (exchange.stocked stocked)
  cached := cached
  container := container
  magazine := by
    rw [same.slotAt, slotAt_write_self _ (by exact trivial)]
    rfl
  otherMagazine := by
    rw [same.slotAt]
    exact slotAt_write_write store (by nofun) (by cases isPrimary <;> nofun) _ _
  weapon isPrimary := by
    rw [same.slotAt]
    exact slotAt_write_write store (by nofun) (by nofun) _ _
  armor := by
    rw [same.slotAt]
    exact slotAt_write_write store (by nofun) (by nofun) _ _
  amount blueprintId := by
    have none : store.discarded isPrimary blueprintId = 0 :=
      if_neg fun full => room.elim (· full.1) (· full.2)
    rw [same.amount, exchange.amount, none, Int.sub_zero]
  kept other occupied apart := by
    rw [same.slotAt]
    refine slotAt_write_write store ?_ (by nofun) _ _
    rintro ⟨⟩
    rcases fits with empty | ammo
    · rw [empty] at occupied
      cases occupied
    · exact apart ammo
  version := version

/-- Unloading keeps the stacks in order: a merge does not overflow, and the cached index
names an empty slot.
-/
theorem unloaded_spec {isPrimary : Bool} (stocked : store.Stocked) (cached : store.Cached)
    (bounded : store.Bounded)
    : Unloaded isPrimary store (store.unloaded isPrimary) := by
  cases filled : (store.slotAt (.magazine isPrimary)).isEmpty with
  | true => exact unloaded_of_empty stocked cached filled
  | false =>
      have good := stocked.wellFormed (.magazine isPrimary) trivial
      have rounds := good.of_filled filled
      have magazine : store.Has (.magazine isPrimary) := trivial
      rcases unloaded_of_filled filled with ⟨index, sameAmmo, occupied, same, moved⟩
        | ⟨noAmmo, noEmpty, moved⟩ | ⟨index, first, moved⟩
      · have here : store.Has (.slot (.inventory index)) := trivial
        have fits := bounded.fits stocked here magazine (by simp) same
        have exchange := exchange_merge stocked here magazine (by simp) occupied same
          (by omega : (0 : Int) ≤ (store.slotAt (.magazine isPrimary)).quantity)
          (Int.le_refl _) fits
        rw [Slot.take_all] at exchange
        rw [moved]
        refine unloaded_of_exchange stocked exchange (.inr same.symm)
          (.inl (by simp [sameAmmo])) (.refl _) rfl ?_ (by simp)
        -- the slot was occupied and stays so
        refine cached.of_eq (by simp) fun other => ?_
        rw [slotAt_write_ne _ (by simp)]
        by_cases here : other = index
        · subst here
          rw [slotAt_write_self store (by exact trivial), occupied]
          have nonzero := ((stocked.wellFormed (.slot (.inventory other)) trivial).of_filled
            occupied).1
          simp [Slot.isEmpty, nonzero]
        · rw [slotAt_write_ne store fun equal => here (by cases equal; rfl)]
      · rw [moved]
        have amount := amount_write store magazine (store.slotAt (.magazine isPrimary)).clear
        exact
          { stocked := stocked.write (by exact trivial) (Slot.wellFormed_clear _) rfl
            cached := cached.of_eq (by simp) fun _ => by rw [slotAt_write_ne store (by simp)]
            container := rfl
            magazine := by
              rw [slotAt_write_self store (by exact trivial)]
              rfl
            otherMagazine := slotAt_write_ne store (by simp) _
            weapon := fun _ => slotAt_write_ne store (by simp) _
            armor := slotAt_write_ne store (by simp) _
            amount := fun blueprintId => by
              rw [amount, Slot.units_clear, discarded, if_pos ⟨noAmmo, noEmpty⟩, Int.add_zero]
            kept := fun _ _ _ => slotAt_write_ne store (by simp) _
            version := by simp }
      · have empty := (cached.firstEmpty first).1
        have here : store.Has (.slot (.inventory index)) := trivial
        have exchange := exchange_move stocked here magazine (by simp) empty
        rw [moved]
        exact unloaded_of_exchange stocked exchange (.inl empty)
          (.inr (by simp [first])) (sameStacks_updateFirstEmptySlotIndex _) rfl
          (cached_updateFirstEmptySlotIndex _) (inventoryVersion_write _ _ _)

-----------------------------------------------------------------------------------------
-- Equipment
-----------------------------------------------------------------------------------------

/-- Put the stack of a slot into a place, which gives back what it holds. -/
def takeFrom (store : SlotStore) (place : Place) (src : SlotRef) : SlotStore :=
  let slot := store.get src
  let held := store.slotAt place
  if held.isEmpty then
    (store.write place (held.put slot.item slot.quantity)).write (.slot src) slot.clear
  else
    (store.write place (held.put slot.item slot.quantity)).write (.slot src)
      (slot.put held.item held.quantity)

/-- Put the stack of a place into a slot, which gives back what it holds. -/
def stowInto (store : SlotStore) (place : Place) (dst : SlotRef) : SlotStore :=
  let slot := store.get dst
  let held := store.slotAt place
  if slot.isEmpty then
    (store.write place held.clear).write (.slot dst) (slot.put held.item held.quantity)
  else
    (store.write place (held.put slot.item slot.quantity)).write (.slot dst)
      (slot.put held.item held.quantity)

/-- What an exchange between a place and a slot leaves behind. -/
structure Exchanged (place : Place) (ref : SlotRef) (before after : SlotStore) : Prop where
  stocked : after.Stocked
  amount : ∀ blueprintId, after.amount blueprintId = before.amount blueprintId
  container : after.container.length = before.container.length
  others : ∀ other, other ≠ place → other ≠ .slot ref →
    after.slotAt other = before.slotAt other

theorem Exchange.exchanged {ref : SlotRef} {first second : Slot}
    (exchange : store.Exchange place (.slot ref) first second) (stocked : store.Stocked)
    : Exchanged place ref store ((store.write place first).write (.slot ref) second) where
  stocked := exchange.stocked stocked
  amount := exchange.amount
  container := by simp
  others _ apart apartRef := slotAt_write_write store apart apartRef _ _

theorem takeFrom_exchanged {src : SlotRef} (stocked : store.Stocked) (has : store.Has place)
    (hasSrc : store.Has (.slot src)) (apart : .slot src ≠ place)
    : Exchanged place src store (store.takeFrom place src) := by
  unfold takeFrom
  dsimp only
  split
  · next empty => exact (exchange_move stocked has hasSrc apart empty).exchanged stocked
  · exact (exchange_swap stocked has hasSrc apart).exchanged stocked

theorem stowInto_exchanged {dst : SlotRef} (stocked : store.Stocked) (has : store.Has place)
    (hasDst : store.Has (.slot dst)) (apart : .slot dst ≠ place)
    : Exchanged place dst store (store.stowInto place dst) := by
  unfold stowInto
  dsimp only
  split
  · next empty => exact (exchange_moveTo stocked has hasDst apart empty).exchanged stocked
  · exact (exchange_swap stocked has hasDst apart).exchanged stocked

/-- The place then holds the stack that the slot held. -/
theorem slotAt_takeFrom {src : SlotRef} (has : store.Has place) (apart : .slot src ≠ place)
    : (store.takeFrom place src).slotAt place
      = (store.slotAt place).put (store.get src).item (store.get src).quantity := by
  unfold takeFrom
  dsimp only
  split <;> rw [slotAt_write_ne _ apart.symm, slotAt_write_self _ has]

theorem slotAt_stowInto {dst : SlotRef} (has : store.Has place) (apart : .slot dst ≠ place)
    : (store.stowInto place dst).slotAt place
      = if (store.get dst).isEmpty then (store.slotAt place).clear
        else (store.slotAt place).put (store.get dst).item (store.get dst).quantity := by
  unfold stowInto
  dsimp only
  split <;> rw [slotAt_write_ne _ apart.symm, slotAt_write_self _ has]

/-- The four equipment operations, when they are not refused. -/
theorem equipWeaponFromSlot_ok {src : SlotRef} {isPrimary : Bool}
    {result : SlotStore × Option SlotIndex}
    (done : store.equipWeaponFromSlot src isPrimary = .ok result)
    : (store.get src).isEmpty = false
      ∧ ItemDataManager.getType (store.get src).item.blueprintId = .weapon
      ∧ result.1
        = ((store.unloaded isPrimary).takeFrom (.weapon isPrimary) src).touchInventory
      ∧ result.2 = (store.inventory.unloadMagazineToInventory isPrimary).2 := by
  unfold equipWeaponFromSlot at done
  dsimp only at done
  split at done
  · cases done
  · next filled =>
      split at done
      · cases done
      · next weapon =>
          refine ⟨by simpa using filled, not_not.mp weapon, ?_, ?_⟩ <;> cases done <;> rfl

theorem unequipWeaponToSlot_ok {dst : SlotRef} {isPrimary : Bool}
    {result : SlotStore × Option SlotIndex}
    (done : store.unequipWeaponToSlot dst isPrimary = .ok result)
    : (store.slotAt (.weapon isPrimary)).isEmpty = false
      ∧ ((store.get dst).isEmpty = true →
        (store.slotAt (.weapon !isPrimary)).isEmpty = false)
      ∧ ((store.get dst).isEmpty = false →
        ItemDataManager.getType (store.get dst).item.blueprintId = .weapon)
      ∧ ∃ stowed : SlotStore,
        stowed = { store.stowInto (.weapon isPrimary) dst with
          inventory :=
            (store.stowInto (.weapon isPrimary) dst).inventory.updateFirstEmptySlotIndex }
        ∧ result.1 = { stowed.unloaded isPrimary with
          inventory := (stowed.unloaded isPrimary).inventory.incrementInventoryVersion }
        ∧ result.2 = (stowed.inventory.unloadMagazineToInventory isPrimary).2 := by
  unfold unequipWeaponToSlot at done
  dsimp only at done
  split at done
  · cases done
  · next held =>
      split at done
      · cases done
      · next armed =>
          split at done
          · cases done
          · next weapon =>
              refine ⟨Bool.eq_false_iff.mpr held, fun empty => ?_, fun filled => ?_, _, rfl, ?_, ?_⟩
              · exact Bool.eq_false_iff.mpr fun bare => armed ⟨empty, bare⟩
              · simpa [filled] using weapon
              · cases done
                rfl
              · cases done
                rfl

theorem equipArmorFromSlot_ok {src : SlotRef} {result : SlotStore × Option SlotIndex}
    (done : store.equipArmorFromSlot src = .ok result)
    : (store.get src).isEmpty = false
      ∧ ItemDataManager.getType (store.get src).item.blueprintId = .armor
      ∧ result = ((store.takeFrom .armor src).touchInventory, none) := by
  unfold equipArmorFromSlot at done
  dsimp only at done
  split at done
  · cases done
  · next filled =>
      split at done
      · cases done
      · next armor =>
          refine ⟨by simpa using filled, not_not.mp armor, ?_⟩
          cases done
          rfl

theorem unequipArmorToSlot_ok {dst : SlotRef} {result : SlotStore × Option SlotIndex}
    (done : store.unequipArmorToSlot dst = .ok result)
    : (store.slotAt .armor).isEmpty = false
      ∧ ((store.get dst).isEmpty = false →
        ItemDataManager.getType (store.get dst).item.blueprintId = .armor)
      ∧ result = ((store.stowInto .armor dst).touchInventory, none) := by
  unfold unequipArmorToSlot at done
  dsimp only at done
  split at done
  · cases done
  · next held =>
      split at done
      · cases done
      · next armor =>
          refine ⟨Bool.eq_false_iff.mpr held, fun filled => ?_, ?_⟩
          · simpa [filled] using armor
          · cases done
            rfl

/-- What a change of one weapon leaves behind: its magazine is empty, and neither the other
weapon nor the armor is touched.
-/
structure Rearmed (isPrimary : Bool) (before after : SlotStore) : Prop where
  wellFormed : after.WellFormed
  container : after.container.length = before.container.length
  magazine : (after.slotAt (.magazine isPrimary)).isEmpty = true
  otherWeapon : after.slotAt (.weapon !isPrimary) = before.slotAt (.weapon !isPrimary)
  otherMagazine : after.slotAt (.magazine !isPrimary) = before.slotAt (.magazine !isPrimary)
  armor : after.slotAt .armor = before.slotAt .armor

theorem loaded_of_others {isPrimary : Bool}
    (magazine : (after.slotAt (.magazine isPrimary)).isEmpty = true)
    (otherWeapon : after.slotAt (.weapon !isPrimary) = before.slotAt (.weapon !isPrimary))
    (otherMagazine : after.slotAt (.magazine !isPrimary) = before.slotAt (.magazine !isPrimary))
    (loaded : before.Loaded !isPrimary) (isOther : Bool)
    : after.Loaded isOther := by
  by_cases same : isOther = isPrimary
  · subst same
    exact .of_empty magazine
  · rw [Bool.eq_not_of_ne same]
    exact loaded.of_eq otherWeapon otherMagazine

theorem Unloaded.has {isPrimary : Bool} (unloaded : Unloaded isPrimary before after)
    (place : Place)
    : after.Has place ↔ before.Has place := by
  unfold Has
  split
  · rw [unloaded.container]
  · rfl

/-- Unloading moves no weapon: a slot that holds one stays. -/
theorem Unloaded.get {isPrimary : Bool} (unloaded : Unloaded isPrimary before after)
    (loaded : before.Loaded isPrimary) (good : before.Stocked) {src : SlotRef}
    (filled : (before.get src).isEmpty = false)
    (weapon : ItemDataManager.getType (before.get src).item.blueprintId = .weapon)
    : after.get src = before.get src := by
  cases src with
  | container index =>
      unfold SlotStore.get
      rw [unloaded.container]
  | inventory index =>
      refine unloaded.kept index filled fun same => ?_
      change (before.get (.inventory index)).item.blueprintId = _ at same
      cases empty : (before.slotAt (.magazine isPrimary)).isEmpty with
      | true =>
          rw [same, ((good.wellFormed (.magazine isPrimary) trivial).of_empty empty).1]
            at weapon
          cases weapon
      | false =>
          obtain ⟨-, spec, known, rounds, -⟩ := loaded empty
          rw [same, rounds, (ItemDataManager.getWeaponSpec_ammo known).2.2.1] at weapon
          cases weapon

theorem equipWeaponFromSlot_spec {src : SlotRef} {isPrimary : Bool}
    {result : SlotStore × Option SlotIndex} (good : store.WellFormed)
    (bounded : store.Bounded) (has : store.Has (.slot src))
    (done : store.equipWeaponFromSlot src isPrimary = .ok result)
    : Rearmed isPrimary store result.1
      ∧ (∀ blueprintId, result.1.amount blueprintId
        = store.amount blueprintId - store.discarded isPrimary blueprintId)
      ∧ result.1.slotAt (.weapon isPrimary)
        = (store.slotAt (.weapon isPrimary)).put (store.get src).item
          (store.get src).quantity := by
  obtain ⟨filled, weapon, performed, -⟩ := equipWeaponFromSlot_ok done
  have unloaded : Unloaded isPrimary store (store.unloaded isPrimary) :=
    unloaded_spec good.stocked good.cached bounded
  have weaponSlot : (store.unloaded isPrimary).Has (.weapon isPrimary) := trivial
  have apart : Place.slot src ≠ .weapon isPrimary := nofun
  have moved := takeFrom_exchanged unloaded.stocked weaponSlot ((unloaded.has _).mpr has) apart
  have held := slotAt_takeFrom weaponSlot apart
  have source := unloaded.get (good.loaded isPrimary) good.stocked filled weapon
  have same := sameStacks_touchInventory
    ((store.unloaded isPrimary).takeFrom (.weapon isPrimary) src)
  rw [performed]
  have other (place : Place) (apart : place ≠ .weapon isPrimary)
      (apartSrc : place ≠ .slot src)
      : ((store.unloaded isPrimary).takeFrom (.weapon isPrimary) src).touchInventory.slotAt
          place
        = (store.unloaded isPrimary).slotAt place :=
    (same.slotAt _).trans (moved.others _ apart apartSrc)
  have magazine := (other (.magazine isPrimary) (by nofun) (by nofun)).trans rfl
  have otherWeapon := (other (.weapon !isPrimary) (by cases isPrimary <;> nofun)
    (by nofun)).trans (unloaded.weapon _)
  have otherMagazine := (other (.magazine !isPrimary) (by nofun) (by nofun)).trans
    unloaded.otherMagazine
  have empty := (congrArg Slot.isEmpty magazine).trans unloaded.magazine
  refine ⟨⟨⟨same.stocked moved.stocked, ?_, cached_touchInventory _⟩, ?_, empty, otherWeapon,
    otherMagazine, ?_⟩, fun blueprintId => ?_, ?_⟩
  · exact loaded_of_others empty otherWeapon otherMagazine (good.loaded _)
  · rw [same.container, moved.container, unloaded.container]
  · exact (other .armor (by nofun) (by nofun)).trans unloaded.armor
  · rw [same.amount, moved.amount, unloaded.amount]
  · rw [same.slotAt, held, unloaded.weapon, source]

/-- The store in which an unequipped weapon lies in its slot, before its magazine is emptied. -/
def stowed (store : SlotStore) (dst : SlotRef) (isPrimary : Bool) : SlotStore :=
  { store.stowInto (.weapon isPrimary) dst with
    inventory := (store.stowInto (.weapon isPrimary) dst).inventory.updateFirstEmptySlotIndex }

theorem unequipWeaponToSlot_spec {dst : SlotRef} {isPrimary : Bool}
    {result : SlotStore × Option SlotIndex} (good : store.WellFormed)
    (bounded : store.Bounded) (has : store.Has (.slot dst))
    (done : store.unequipWeaponToSlot dst isPrimary = .ok result)
    : Rearmed isPrimary store result.1
      ∧ (∀ blueprintId, result.1.amount blueprintId
        = store.amount blueprintId - (store.stowed dst isPrimary).discarded isPrimary blueprintId)
      ∧ result.1.slotAt (.weapon isPrimary)
        = if (store.get dst).isEmpty then (store.slotAt (.weapon isPrimary)).clear
          else (store.slotAt (.weapon isPrimary)).put (store.get dst).item
            (store.get dst).quantity := by
  obtain ⟨-, -, -, stowed, stows, performed, -⟩ := unequipWeaponToSlot_ok done
  change stowed = store.stowed dst isPrimary at stows
  subst stows
  have weaponSlot : store.Has (.weapon isPrimary) := trivial
  have moved := stowInto_exchanged good.stocked weaponSlot has (by nofun)
  have search : SameStacks (store.stowInto (.weapon isPrimary) dst)
      (store.stowed dst isPrimary) :=
    sameStacks_updateFirstEmptySlotIndex (store.stowInto (.weapon isPrimary) dst)
  have amounts (blueprintId : Nat)
      : (store.stowed dst isPrimary).amount blueprintId = store.amount blueprintId :=
    (search.amount blueprintId).trans (moved.amount blueprintId)
  have unloaded : Unloaded isPrimary (store.stowed dst isPrimary)
      ((store.stowed dst isPrimary).unloaded isPrimary) :=
    unloaded_spec (search.stocked moved.stocked) (cached_updateFirstEmptySlotIndex _)
      (bounded.of_le fun blueprintId => (amounts blueprintId).le)
  have count := sameStacks_incrementInventoryVersion
    ((store.stowed dst isPrimary).unloaded isPrimary)
  rw [performed]
  have other (place : Place) (apart : place ≠ .weapon isPrimary)
      (apartDst : place ≠ .slot dst)
      : (store.stowed dst isPrimary).slotAt place = store.slotAt place :=
    (search.slotAt _).trans (moved.others _ apart apartDst)
  have empty := (congrArg Slot.isEmpty (count.slotAt _)).trans unloaded.magazine
  have otherWeapon := ((count.slotAt (.weapon !isPrimary)).trans (unloaded.weapon _)).trans
    (other _ (by cases isPrimary <;> nofun) (by nofun))
  have otherMagazine := ((count.slotAt (.magazine !isPrimary)).trans
    unloaded.otherMagazine).trans (other _ (by nofun) (by nofun))
  refine ⟨⟨⟨count.stocked unloaded.stocked, ?_, unloaded.cached.incrementInventoryVersion⟩, ?_,
    empty, otherWeapon, otherMagazine, ?_⟩, fun blueprintId => ?_, ?_⟩
  · exact loaded_of_others empty otherWeapon otherMagazine (good.loaded _)
  · rw [count.container, unloaded.container, search.container, moved.container]
  · exact ((count.slotAt .armor).trans unloaded.armor).trans (other _ (by nofun) (by nofun))
  · rw [count.amount, unloaded.amount, amounts]
  · rw [count.slotAt, unloaded.weapon]
    exact (search.slotAt _).trans (slotAt_stowInto trivial (by nofun))

-----------------------------------------------------------------------------------------
-- Armor and container requests
-----------------------------------------------------------------------------------------

/-- What a move leaves behind that touches neither weapons nor magazines. -/
structure Shifted (before after : SlotStore) : Prop where
  wellFormed : after.WellFormed
  amount : ∀ blueprintId, after.amount blueprintId = before.amount blueprintId
  container : after.container.length = before.container.length
  weapon : ∀ isPrimary, after.slotAt (.weapon isPrimary) = before.slotAt (.weapon isPrimary)
  magazine : ∀ isPrimary,
    after.slotAt (.magazine isPrimary) = before.slotAt (.magazine isPrimary)

theorem Shifted.of_exchanged {ref : SlotRef} {middle : SlotStore} (good : before.WellFormed)
    (moved : Exchanged place ref before middle) (same : SameStacks middle after)
    (cached : after.Cached)
    (notWeapon : ∀ isPrimary, place ≠ .weapon isPrimary)
    (notMagazine : ∀ isPrimary, place ≠ .magazine isPrimary)
    : Shifted before after := by
  have weapon (isPrimary : Bool)
      : after.slotAt (.weapon isPrimary) = before.slotAt (.weapon isPrimary) :=
    (same.slotAt _).trans (moved.others _ (notWeapon _).symm (by nofun))
  have magazine (isPrimary : Bool)
      : after.slotAt (.magazine isPrimary) = before.slotAt (.magazine isPrimary) :=
    (same.slotAt _).trans (moved.others _ (notMagazine _).symm (by nofun))
  exact
    { wellFormed :=
        { stocked := same.stocked moved.stocked
          loaded := fun isPrimary =>
            (good.loaded isPrimary).of_eq (weapon isPrimary) (magazine isPrimary)
          cached }
      amount := fun blueprintId => (same.amount blueprintId).trans (moved.amount blueprintId)
      container := same.container.trans moved.container
      weapon
      magazine }

theorem equipArmorFromSlot_spec {src : SlotRef} {result : SlotStore × Option SlotIndex}
    (good : store.WellFormed) (has : store.Has (.slot src))
    (done : store.equipArmorFromSlot src = .ok result)
    : Shifted store result.1
      ∧ result.1.slotAt .armor
        = (store.slotAt .armor).put (store.get src).item (store.get src).quantity := by
  obtain ⟨-, -, rfl⟩ := equipArmorFromSlot_ok done
  have armorSlot : store.Has .armor := trivial
  have moved := takeFrom_exchanged good.stocked armorSlot has (by nofun)
  have same := sameStacks_touchInventory (store.takeFrom .armor src)
  exact ⟨.of_exchanged good moved same (cached_touchInventory _) (by nofun) (by nofun),
    (same.slotAt _).trans (slotAt_takeFrom trivial (by nofun))⟩

theorem unequipArmorToSlot_spec {dst : SlotRef} {result : SlotStore × Option SlotIndex}
    (good : store.WellFormed) (has : store.Has (.slot dst))
    (done : store.unequipArmorToSlot dst = .ok result)
    : Shifted store result.1
      ∧ result.1.slotAt .armor
        = if (store.get dst).isEmpty then (store.slotAt .armor).clear
          else (store.slotAt .armor).put (store.get dst).item (store.get dst).quantity := by
  obtain ⟨-, -, rfl⟩ := unequipArmorToSlot_ok done
  have armorSlot : store.Has .armor := trivial
  have moved := stowInto_exchanged good.stocked armorSlot has (by nofun)
  have same := sameStacks_touchInventory (store.stowInto .armor dst)
  exact ⟨.of_exchanged good moved same (cached_touchInventory _) (by nofun) (by nofun),
    (same.slotAt _).trans (slotAt_stowInto trivial (by nofun))⟩

/-- `get`, `swap` and `merge` are exchanges between the two slots. -/
theorem interact_exchanged {interactType : Nat} {startRef endRef : SlotRef} {quantity : Int}
    {moved : SlotStore} (stocked : store.Stocked) (bounded : store.Bounded)
    (hasStart : store.Has (.slot startRef)) (hasEnd : store.Has (.slot endRef))
    (apart : startRef ≠ endRef) (filled : (store.get startRef).isEmpty = false)
    (done : store.interact interactType startRef endRef quantity = .ok moved)
    : Exchanged (.slot startRef) endRef store moved := by
  have apartEnd : Place.slot endRef ≠ .slot startRef := by
    rintro ⟨⟩
    exact apart rfl
  have turn (from' : Exchanged (.slot endRef) startRef store moved)
      : Exchanged (.slot startRef) endRef store moved :=
    { from' with others := fun other ne neEnd => from'.others other neEnd ne }
  unfold interact at done
  dsimp only at done
  split at done
  · split at done
    · cases done
    · next empty =>
        split at done
        · cases done
        · next valid =>
            cases done
            have exchange := exchange_split stocked hasEnd hasStart apartEnd.symm
              (not_not.mp empty) filled (by omega : (0 : Int) < quantity)
              (show quantity ≤ (store.get startRef).quantity by omega)
            exact turn (exchange.exchanged stocked)
  · split at done
    · cases done
    · cases done
      exact (exchange_swap stocked hasStart hasEnd apartEnd).exchanged stocked
  · split at done
    · cases done
    · next occupied =>
        split at done
        · cases done
        · next same =>
            split at done
            · cases done
            · split at done
              · cases done
              · next valid =>
                  cases done
                  have enough : quantity ≤ (store.get startRef).quantity := by omega
                  have fits := bounded.fits stocked hasEnd hasStart apartEnd.symm
                    (not_not.mp same)
                  have exchange := exchange_merge stocked hasEnd hasStart apartEnd.symm
                    (Bool.eq_false_iff.mpr occupied) (not_not.mp same)
                    (by omega : (0 : Int) ≤ quantity) enough
                    (Int.lt_of_le_of_lt (Int.add_le_add_left enough _) fits)
                  exact turn (exchange.exchanged stocked)
  · cases done

/-- Container slots are written without the inventory. -/
theorem interact_inventory {interactType start last : Nat} {quantity : Int} {moved : SlotStore}
    (done : store.interact interactType (.container start) (.container last) quantity
      = .ok moved)
    : moved.inventory = store.inventory := by
  unfold interact at done
  dsimp only at done
  repeat' split at done
  all_goals first | cases done; rfl | cases done

/-- The store after a served container request. -/
def interacted (moved : SlotStore) : SlotRef → SlotRef → SlotStore
  | .container _, .container _ => moved
  | _, _ => moved.touchInventory

theorem interact_spec {interactType : Nat} {startRef endRef : SlotRef} {quantity : Int}
    {moved : SlotStore} (good : store.WellFormed) (bounded : store.Bounded)
    (hasStart : store.Has (.slot startRef)) (hasEnd : store.Has (.slot endRef))
    (apart : startRef ≠ endRef) (filled : (store.get startRef).isEmpty = false)
    (done : store.interact interactType startRef endRef quantity = .ok moved)
    : Shifted store (interacted moved startRef endRef)
      ∧ (interacted moved startRef endRef).slotAt .armor = store.slotAt .armor := by
  have exchanged := interact_exchanged good.stocked bounded hasStart hasEnd apart filled done
  have armor := exchanged.others .armor (by nofun) (by nofun)
  have touched : Shifted store moved.touchInventory
      ∧ moved.touchInventory.slotAt .armor = store.slotAt .armor :=
    ⟨.of_exchanged good exchanged (sameStacks_touchInventory _) (cached_touchInventory _)
        (by nofun) (by nofun),
      ((sameStacks_touchInventory _).slotAt _).trans armor⟩
  cases startRef with
  | inventory index => exact touched
  | container index =>
      cases endRef with
      | inventory last => exact touched
      | container last =>
          have inventory := interact_inventory done
          have cached : moved.Cached := by
            unfold Cached
            rw [inventory]
            exact good.cached
          exact ⟨.of_exchanged good exchanged (.refl _) cached (by nofun) (by nofun), armor⟩

end SlotStore

end ExtractionServer.Room
