import ExtractionServer.Room.StackMoves

/-! How magazines are filled, fired empty and cleared, and the order in which the constructor
leaves an inventory.
-/

namespace ExtractionServer.Room

-----------------------------------------------------------------------------------------
-- Loading a magazine
-----------------------------------------------------------------------------------------

/-- The store at some point of the loop that loads a magazine. -/
def PlayerInventory.Loading.store (loading : PlayerInventory.Loading) (start : SlotStore)
    (isPrimary : Bool)
    : SlotStore :=
  { start with
    inventory :=
      { start.inventory with inventorySlots := loading.slots }.setMagazineSlot isPrimary
        loading.magazine }

namespace SlotStore

open PlayerInventory (Loading)

/-- What the loop keeps: nothing is lost, the magazine has only its own rounds and no more
than it takes, and without a change the store is the one at the start.
-/
structure Filling (start : SlotStore) (isPrimary : Bool) (spec : WeaponSpec)
    (loading : Loading)
    : Prop where
  stocked : (loading.store start isPrimary).Stocked
  amount : ∀ blueprintId,
    (loading.store start isPrimary).amount blueprintId = start.amount blueprintId
  rounds : loading.magazine.isEmpty = false →
    loading.magazine.item.blueprintId = spec.ammoType
  remaining : loading.magazine.quantity + loading.remaining = spec.maxAmmo
  nonneg : 0 ≤ loading.remaining
  unchanged : loading.changed = false → loading.store start isPrimary = start

variable {start store before after : SlotStore} {isPrimary : Bool} {spec : WeaponSpec}
  {loading : Loading}

@[simp] theorem Filling.slotAt_magazine (loading : Loading) (start : SlotStore)
    (isPrimary : Bool)
    : (loading.store start isPrimary).slotAt (.magazine isPrimary) = loading.magazine := by
  cases isPrimary <;> rfl

@[simp] theorem Filling.slotAt_slot (loading : Loading) (start : SlotStore)
    (isPrimary : Bool) (index : SlotIndex)
    : (loading.store start isPrimary).slotAt (.slot (.inventory index))
      = loading.slots.get index := by
  cases isPrimary <;> rfl

/-- Rounds that go from a slot into the magazine. -/
theorem Filling.of_exchange (h : start.Filling isPrimary spec loading) {index : SlotIndex}
    {magazine : Slot} {take : Int}
    (exchange : (loading.store start isPrimary).Exchange (.magazine isPrimary)
      (.slot (.inventory index)) magazine ((loading.slots.get index).take take))
    (rounds : magazine.item.blueprintId = spec.ammoType)
    (quantity : magazine.quantity = loading.magazine.quantity + take)
    (enough : take ≤ loading.remaining)
    : start.Filling isPrimary spec
        { slots := loading.slots.set index.val ((loading.slots.get index).take take) index.isLt
          magazine
          remaining := loading.remaining - take
          changed := true } := by
  have writes : Loading.store
        { slots := loading.slots.set index.val ((loading.slots.get index).take take) index.isLt
          magazine
          remaining := loading.remaining - take
          changed := true } start isPrimary
      = ((loading.store start isPrimary).write (.magazine isPrimary) magazine).write
          (.slot (.inventory index)) ((loading.slots.get index).take take) := by
    cases isPrimary <;> rfl
  have remaining := h.remaining
  refine ⟨?_, fun blueprintId => ?_, fun _ => rounds, by dsimp only; omega,
    by dsimp only; omega, nofun⟩
  · rw [writes]
    exact exchange.stocked h.stocked
  · rw [writes, exchange.amount, h.amount]

/-- One slot of the loop: its rounds, or as many as still fit, go into the magazine. -/
theorem Filling.visit (h : start.Filling isPrimary spec loading) (limit : spec.maxAmmo = 30)
    (index : SlotIndex)
    : start.Filling isPrimary spec (loading.visit spec.ammoType index) := by
  have read : loading.slots[index] = loading.slots.get index := rfl
  unfold Loading.visit
  split
  · exact h
  next needs =>
  dsimp only
  simp only [read]
  split
  · exact h
  next usable =>
  obtain ⟨filled, ammo⟩ : (loading.slots.get index).isEmpty = false
      ∧ (loading.slots.get index).item.blueprintId = spec.ammoType := by simpa using usable
  have some := (h.stocked.wellFormed (.slot (.inventory index)) trivial).of_filled
    (by simpa using filled)
  have held := h.stocked.wellFormed (.magazine isPrimary) trivial
  have remaining := h.remaining
  have magazine : (loading.store start isPrimary).Has (.magazine isPrimary) := trivial
  have here : (loading.store start isPrimary).Has (.slot (.inventory index)) := trivial
  simp only [Filling.slotAt_slot, Filling.slotAt_magazine] at some held
  split
  · next empty =>
      have none := (held.of_empty empty).2
      have exchange := exchange_split h.stocked magazine here (by nofun)
        (by simpa using empty) (by simpa using filled)
        (by omega : 0 < min (loading.slots.get index).quantity loading.remaining)
        (by simp)
      simp only [Filling.slotAt_slot, Filling.slotAt_magazine] at exchange
      refine h.of_exchange exchange ammo ?_ (Int.min_le_right _ _)
      rw [none, Int.zero_add]
      rfl
  · next occupied =>
      have loaded := Bool.eq_false_iff.mpr occupied
      have few := held.of_filled loaded
      have fits : loading.magazine.quantity
          + min (loading.slots.get index).quantity loading.remaining < 2 ^ 31 := by omega
      have same : ((loading.store start isPrimary).slotAt
            (.slot (.inventory index))).item.blueprintId
          = ((loading.store start isPrimary).slotAt (.magazine isPrimary)).item.blueprintId := by
        rw [Filling.slotAt_slot, Filling.slotAt_magazine, h.rounds loaded]
        exact ammo
      have exchange := exchange_merge h.stocked magazine here (by nofun)
        (by simpa using loaded) same
        (by omega : 0 ≤ min (loading.slots.get index).quantity loading.remaining)
        (by simp) (by simpa using fits)
      simp only [Filling.slotAt_slot, Filling.slotAt_magazine] at exchange
      exact h.of_exchange exchange (h.rounds loaded)
        (Int.bmod_eq_of_le (by omega) (by omega)) (Int.min_le_right _ _)

/-- The whole loop, by induction on the slots that it visits. -/
theorem Filling.foldl (indexes : List SlotIndex) (limit : spec.maxAmmo = 30)
    (h : start.Filling isPrimary spec loading)
    : start.Filling isPrimary spec (indexes.foldl (Loading.visit spec.ammoType) loading) := by
  induction indexes generalizing loading with
  | nil => exact h
  | cons index rest ih => exact ih (h.visit limit index)

/-- The store after a magazine was loaded. -/
def reloaded (store : SlotStore) (isPrimary : Bool) : SlotStore :=
  { store with inventory := store.inventory.loadMagazineFromInventory isPrimary }

/-- What loading a magazine leaves behind. -/
structure Reloaded (isPrimary : Bool) (before after : SlotStore) : Prop where
  stocked : after.Stocked
  loaded : ∀ isOther, after.Loaded isOther
  amount : ∀ blueprintId, after.amount blueprintId = before.amount blueprintId
  container : after.container = before.container
  otherMagazine : after.slotAt (.magazine !isPrimary) = before.slotAt (.magazine !isPrimary)
  weapon : ∀ isPrimary, after.slotAt (.weapon isPrimary) = before.slotAt (.weapon isPrimary)
  armor : after.slotAt .armor = before.slotAt .armor
  changed : after = before
    ∨ after.Cached
      ∧ after.inventory.inventoryVersion = before.inventory.inventoryVersion + 1

theorem Reloaded.refl (stocked : store.Stocked) (loaded : ∀ isOther, store.Loaded isOther)
    : Reloaded isPrimary store store :=
  ⟨stocked, loaded, fun _ => rfl, rfl, rfl, fun _ => rfl, rfl, .inl rfl⟩

/-- The loop that loads a magazine, from the store before it. -/
theorem Filling.initial {isPrimary : Bool} (stocked : store.Stocked)
    (loaded : store.Loaded isPrimary)
    (known : ItemDataManager.getWeaponSpec
      (store.slotAt (.weapon isPrimary)).item.blueprintId = some spec)
    (needs : (store.slotAt (.magazine isPrimary)).quantity < spec.maxAmmo)
    : store.Filling isPrimary spec
        { slots := store.inventory.inventorySlots
          magazine := store.slotAt (.magazine isPrimary)
          remaining := spec.maxAmmo - (store.slotAt (.magazine isPrimary)).quantity } := by
  have same : Loading.store
        { slots := store.inventory.inventorySlots
          magazine := store.slotAt (.magazine isPrimary)
          remaining := spec.maxAmmo - (store.slotAt (.magazine isPrimary)).quantity }
        store isPrimary = store := by
    cases isPrimary <;> rfl
  refine ⟨by rwa [same], fun _ => by rw [same], fun filled => ?_, by dsimp only; omega,
    by dsimp only; omega, fun _ => same⟩
  obtain ⟨-, other, shoots, rounds, -⟩ := loaded filled
  rw [known] at shoots
  cases shoots
  exact rounds

/-- Loading moves rounds of the right kind only, up to the capacity, and counts the version
up exactly when something moved.
-/
theorem reloaded_spec (isPrimary : Bool) (stocked : store.Stocked)
    (loaded : ∀ isOther, store.Loaded isOther)
    : Reloaded isPrimary store (store.reloaded isPrimary) := by
  have none : Reloaded isPrimary store { store with inventory := store.inventory } :=
    .refl stocked loaded
  unfold reloaded PlayerInventory.loadMagazineFromInventory
  dsimp only
  split
  · exact none
  next armed =>
  split
  · exact none
  next spec known =>
  split
  · exact none
  next needs =>
  have limit := (ItemDataManager.getWeaponSpec_ammo known).1
  have filled := (Filling.initial stocked (loaded isPrimary) known
    (by change ¬spec.maxAmmo - (store.slotAt (.magazine isPrimary)).quantity ≤ 0 at needs
        omega)).foldl (List.finRange INVENTORY_SLOT_COUNT) limit
  change Filling store isPrimary spec ((List.finRange INVENTORY_SLOT_COUNT).foldl
    (Loading.visit spec.ammoType)
      { slots := store.inventory.inventorySlots
        magazine := store.inventory.magazineSlot isPrimary
        remaining := spec.maxAmmo - (store.inventory.magazineSlot isPrimary).quantity })
    at filled
  revert filled
  generalize (List.finRange INVENTORY_SLOT_COUNT).foldl (Loading.visit spec.ammoType) _
    = loading
  intro filled
  split
  · next changed =>
      have same := sameStacks_touchInventory (loading.store store isPrimary)
      have others (place : Place) (apart : place ≠ .magazine isPrimary)
          (notSlot : ∀ index, place ≠ .slot (.inventory index))
          : (loading.store store isPrimary).touchInventory.slotAt place
            = store.slotAt place := by
        rw [same.slotAt]
        cases place with
        | weapon isOther => cases isPrimary <;> cases isOther <;> rfl
        | armor => cases isPrimary <;> rfl
        | magazine isOther =>
            cases isPrimary <;> cases isOther <;> first | rfl | exact absurd rfl apart
        | slot ref =>
            cases ref with
            | inventory index => exact absurd rfl (notSlot index)
            | container index => rfl
      have magazine : (loading.store store isPrimary).touchInventory.slotAt
          (.magazine isPrimary) = loading.magazine := by
        rw [same.slotAt, Filling.slotAt_magazine]
      have weapon (isOther : Bool) := others (.weapon isOther) (by nofun) (by nofun)
      have otherMagazine := others (.magazine !isPrimary) (by cases isPrimary <;> nofun)
        (by nofun)
      have remaining := filled.remaining
      have nonneg := filled.nonneg
      have current : (loading.store store isPrimary).touchInventory.Loaded isPrimary := by
        unfold Loaded
        rw [magazine, weapon]
        exact fun rounds => ⟨Bool.eq_false_iff.mpr armed, spec, known, filled.rounds rounds,
          by omega⟩
      show Reloaded isPrimary store (loading.store store isPrimary).touchInventory
      exact
        { stocked := same.stocked filled.stocked
          loaded := fun isOther => by
            by_cases equal : isOther = isPrimary
            · subst equal
              exact current
            · rw [Bool.eq_not_of_ne equal]
              exact (loaded _).of_eq (weapon _) otherMagazine
          amount := fun blueprintId => (same.amount blueprintId).trans (filled.amount _)
          container := rfl
          otherMagazine
          weapon
          armor := others .armor (by nofun) (by nofun)
          changed := .inr ⟨cached_touchInventory _, by cases isPrimary <;> rfl⟩ }
  · next unchanged =>
      have same := filled.unchanged (Bool.eq_false_iff.mpr unchanged)
      show Reloaded isPrimary store (loading.store store isPrimary)
      rw [same]
      exact none

-----------------------------------------------------------------------------------------
-- Shots and losses
-----------------------------------------------------------------------------------------

/-- Fire one round of a magazine. -/
def fired (store : SlotStore) (isPrimary : Bool) : SlotStore :=
  store.write (.magazine isPrimary) ((store.slotAt (.magazine isPrimary)).take 1)

theorem fired_spec (good : store.WellFormed)
    (rounds : (store.slotAt (.magazine isPrimary)).isEmpty = false)
    : (store.fired isPrimary).WellFormed
      ∧ ∀ blueprintId, (store.fired isPrimary).amount blueprintId
        = store.amount blueprintId
          - if (store.slotAt (.magazine isPrimary)).item.blueprintId = blueprintId then 1
            else 0 := by
  have held := good.stocked.wellFormed (.magazine isPrimary) trivial
  have some := held.of_filled rounds
  have taken := held.take (by omega : (0 : Int) ≤ 1) some.2
  have has : store.Has (.magazine isPrimary) := trivial
  have magazine := slotAt_write_self store has ((store.slotAt (.magazine isPrimary)).take 1)
  have others (place : Place) (apart : place ≠ .magazine isPrimary)
      : (store.fired isPrimary).slotAt place = store.slotAt place :=
    slotAt_write_ne store apart _
  refine ⟨⟨good.stocked.write (by exact trivial) taken.1 (Slot.slotIndex_take _ _),
    fun isOther => ?_,
    good.cached.of_eq (firstEmptySlotIndex_write _ _ _) fun index => ?_⟩,
    fun blueprintId => ?_⟩
  · by_cases same : isOther = isPrimary
    · subst same
      intro left
      obtain ⟨armed, spec, known, ammo, limit⟩ := good.loaded isOther rounds
      have item : ((store.slotAt (.magazine isOther)).take 1).item
            = (store.slotAt (.magazine isOther)).item
          ∧ ((store.slotAt (.magazine isOther)).take 1).quantity
            = (store.slotAt (.magazine isOther)).quantity - 1 := by
        unfold fired at left
        rw [magazine] at left
        unfold Slot.take at left ⊢
        dsimp only at left ⊢
        split at left
        · cases left
        · next more =>
            rw [if_neg more]
            exact ⟨rfl, rfl⟩
      refine ⟨by rwa [others _ (by nofun)], spec, by rwa [others _ (by nofun)], ?_, ?_⟩
      · unfold fired
        rw [magazine, item.1, ammo]
      · unfold fired
        rw [magazine, item.2]
        omega
    · refine (good.loaded isOther).of_eq (others _ (by nofun)) (others _ ?_)
      rintro ⟨⟩
      exact same rfl
  · rw [others _ (by nofun)]
  · unfold fired
    rw [amount_write store has, taken.2 blueprintId]
    omega

/-- Everything a player had is gone. -/
def cleared (store : SlotStore) : SlotStore := { store with inventory := store.inventory.clear }

theorem slotAt_cleared (store : SlotStore) {place : Place}
    (own : ∀ index, place ≠ .slot (.container index))
    : store.cleared.slotAt place = (store.slotAt place).clear := by
  cases place with
  | weapon isPrimary => cases isPrimary <;> rfl
  | armor => rfl
  | magazine isPrimary => cases isPrimary <;> rfl
  | slot ref =>
      cases ref with
      | inventory index => exact Vector.getElem_map ..
      | container index => exact absurd rfl (own index)

theorem cleared_spec (good : store.Stocked) : store.cleared.WellFormed where
  stocked :=
    { indexes := fun index => by
        rw [slotAt_cleared store (by nofun)]
        exact good.indexes index
      wellFormed := fun place has => by
        by_cases box : ∃ index, place = .slot (.container index)
        · obtain ⟨index, rfl⟩ := box
          exact good.wellFormed (.slot (.container index)) has
        · rw [slotAt_cleared store fun index same => box ⟨index, same⟩]
          exact Slot.wellFormed_clear _ }
  loaded isPrimary := .of_empty (by rw [slotAt_cleared store (by nofun)]; rfl)
  cached := rfl

end SlotStore

-----------------------------------------------------------------------------------------
-- The constructor
-----------------------------------------------------------------------------------------

namespace PlayerInventory

theorem slotIndex_toNat_lt {slot : Slot}
    (inRange : 0 ≤ slot.slotIndex ∧ slot.slotIndex < (INVENTORY_SLOT_COUNT : Int))
    : slot.slotIndex.toNat < INVENTORY_SLOT_COUNT := by
  omega

/-- Put a stack into the slot that its index names. -/
def placeSlot (slots : Vector Slot INVENTORY_SLOT_COUNT) (slot : Slot)
    : Vector Slot INVENTORY_SLOT_COUNT :=
  if inRange : 0 ≤ slot.slotIndex ∧ slot.slotIndex < (INVENTORY_SLOT_COUNT : Int) then
    slots.set slot.slotIndex.toNat slot (slotIndex_toNat_lt inRange)
  else slots

def equipSlot (inventory : PlayerInventory) (slot : Slot) : PlayerInventory :=
  if slot.slotIndex = 0 then { inventory with primaryWeaponSlot := slot }
  else if slot.slotIndex = 1 then { inventory with secondaryWeaponSlot := slot }
  else if slot.slotIndex = 2 then { inventory with armorSlot := slot }
  else inventory

/-- The inventory of the constructor before it loads the magazines. -/
def unarmed (inventorySlots equipmentSlots : List Slot) : PlayerInventory :=
  equipmentSlots.foldl equipSlot
    { inventorySlots :=
        inventorySlots.foldl placeSlot (Vector.ofFn fun index =>
          { slotIndex := (index.val : Int) }) }

theorem ofSlots_eq (inventorySlots equipmentSlots : List Slot)
    : ofSlots inventorySlots equipmentSlots
      = (((unarmed inventorySlots equipmentSlots).loadMagazineFromInventory
          true).loadMagazineFromInventory false).updateFirstEmptySlotIndex := rfl

/-- The slots with their indexes after some stacks were placed, by induction on the stacks. -/
theorem placeSlot_foldl (given : List Slot) (good : ∀ slot ∈ given, slot.WellFormed)
    (slots : Vector Slot INVENTORY_SLOT_COUNT)
    (start : ∀ index : SlotIndex,
      (slots.get index).slotIndex = (index.val : Int) ∧ (slots.get index).WellFormed)
    (index : SlotIndex)
    : ((given.foldl placeSlot slots).get index).slotIndex = (index.val : Int)
      ∧ ((given.foldl placeSlot slots).get index).WellFormed := by
  induction given generalizing slots with
  | nil => exact start index
  | cons slot rest ih =>
      refine ih (fun other mem => good other (List.mem_cons_of_mem _ mem)) _ fun index => ?_
      unfold placeSlot
      split
      · next inRange =>
          have read : (slots.set slot.slotIndex.toNat slot (slotIndex_toNat_lt inRange)).get index
              = if slot.slotIndex.toNat = index.val then slot else slots.get index :=
            Vector.getElem_set (slotIndex_toNat_lt inRange) index.isLt
          rw [read]
          split
          · exact ⟨by omega, good slot List.mem_cons_self⟩
          · exact start index
      · exact start index

/-- The equipment consists of the given stacks, by induction on them. -/
theorem equipSlot_foldl (given : List Slot) (good : ∀ slot ∈ given, slot.WellFormed)
    (inventory : PlayerInventory)
    (start : inventory.primaryWeaponSlot.WellFormed
      ∧ inventory.secondaryWeaponSlot.WellFormed ∧ inventory.armorSlot.WellFormed)
    : ((given.foldl equipSlot inventory).primaryWeaponSlot.WellFormed
        ∧ (given.foldl equipSlot inventory).secondaryWeaponSlot.WellFormed
        ∧ (given.foldl equipSlot inventory).armorSlot.WellFormed)
      ∧ (given.foldl equipSlot inventory).inventorySlots = inventory.inventorySlots
      ∧ (∀ isPrimary, (given.foldl equipSlot inventory).magazineSlot isPrimary
        = inventory.magazineSlot isPrimary) := by
  induction given generalizing inventory with
  | nil => exact ⟨start, rfl, fun _ => rfl⟩
  | cons slot rest ih =>
      have this := good slot List.mem_cons_self
      have kept : (equipSlot inventory slot).inventorySlots = inventory.inventorySlots
          ∧ (∀ isPrimary, (equipSlot inventory slot).magazineSlot isPrimary
            = inventory.magazineSlot isPrimary) := by
        unfold equipSlot
        repeat' split
        all_goals exact ⟨rfl, fun _ => rfl⟩
      obtain ⟨equipment, slots, magazines⟩ :=
        ih (fun other mem => good other (List.mem_cons_of_mem _ mem)) (equipSlot inventory slot)
          (by
            unfold equipSlot
            repeat' split
            · exact ⟨this, start.2⟩
            · exact ⟨start.1, this, start.2.2⟩
            · exact ⟨start.1, start.2.1, this⟩
            · exact start)
      exact ⟨equipment, slots.trans kept.1, fun isPrimary =>
        (magazines isPrimary).trans (kept.2 isPrimary)⟩

end PlayerInventory

namespace SlotStore

/-- Before its magazines are loaded, an inventory of well-formed stacks is in order. -/
theorem stocked_unarmed {inventorySlots equipmentSlots : List Slot}
    (slots : ∀ slot ∈ inventorySlots, slot.WellFormed)
    (equipment : ∀ slot ∈ equipmentSlots, slot.WellFormed)
    : Stocked { inventory := .unarmed inventorySlots equipmentSlots }
      ∧ ∀ isPrimary, (PlayerInventory.unarmed inventorySlots equipmentSlots).magazineSlot
        isPrimary = {} := by
  have placed := PlayerInventory.placeSlot_foldl inventorySlots slots
    (Vector.ofFn fun index => { slotIndex := (index.val : Int) }) fun index => by
      have fresh : (Vector.ofFn fun index : SlotIndex =>
          ({ slotIndex := (index.val : Int) } : Slot)).get index
            = { slotIndex := (index.val : Int) } := Vector.getElem_ofFn index.isLt
      rw [fresh]
      exact ⟨rfl, .inl ⟨rfl, rfl⟩⟩
  obtain ⟨⟨primary, secondary, armor⟩, same, magazines⟩ :=
    PlayerInventory.equipSlot_foldl equipmentSlots equipment
      { inventorySlots := inventorySlots.foldl PlayerInventory.placeSlot
          (Vector.ofFn fun index => { slotIndex := (index.val : Int) }) }
      ⟨.inl ⟨rfl, rfl⟩, .inl ⟨rfl, rfl⟩, .inl ⟨rfl, rfl⟩⟩
  let bare : SlotStore := { inventory := .unarmed inventorySlots equipmentSlots }
  have magazine (isPrimary : Bool) : bare.slotAt (.magazine isPrimary) = {} :=
    (magazines isPrimary).trans (by cases isPrimary <;> rfl)
  have slot (index : SlotIndex)
      : bare.slotAt (.slot (.inventory index))
        = (inventorySlots.foldl PlayerInventory.placeSlot
            (Vector.ofFn fun index => { slotIndex := (index.val : Int) })).get index :=
    congrArg (Vector.get · index) same
  refine ⟨?_, magazine⟩
  exact
    { indexes := fun index => by
        rw [slot]
        exact (placed index).1
      wellFormed := fun place has => by
        cases place with
        | weapon isPrimary =>
            cases isPrimary
            · exact secondary
            · exact primary
        | armor => exact armor
        | magazine isPrimary =>
            rw [magazine]
            exact .inl ⟨rfl, rfl⟩
        | slot ref =>
            cases ref with
            | inventory index =>
                rw [slot]
                exact (placed index).2
            | container index => exact absurd has (Nat.not_lt_zero index) }

/-- The same with the loaded magazines. -/
theorem reloaded_unarmed {inventorySlots equipmentSlots : List Slot}
    (slots : ∀ slot ∈ inventorySlots, slot.WellFormed)
    (equipment : ∀ slot ∈ equipmentSlots, slot.WellFormed)
    : Reloaded true { inventory := .unarmed inventorySlots equipmentSlots }
        (reloaded { inventory := .unarmed inventorySlots equipmentSlots } true)
      ∧ Reloaded false (reloaded { inventory := .unarmed inventorySlots equipmentSlots } true)
        ((reloaded { inventory := .unarmed inventorySlots equipmentSlots } true).reloaded
          false) := by
  obtain ⟨stocked, magazine⟩ := stocked_unarmed slots equipment
  have first := reloaded_spec true stocked fun isPrimary => .of_empty (by
    show ((PlayerInventory.unarmed inventorySlots equipmentSlots).magazineSlot
      isPrimary).isEmpty = true
    rw [magazine]
    rfl)
  exact ⟨first, reloaded_spec false first.stocked first.loaded⟩

/-- A loadout of well-formed stacks makes a well-formed inventory. -/
theorem wellFormed_ofSlots {inventorySlots equipmentSlots : List Slot}
    (slots : ∀ slot ∈ inventorySlots, slot.WellFormed)
    (equipment : ∀ slot ∈ equipmentSlots, slot.WellFormed)
    : WellFormed { inventory := .ofSlots inventorySlots equipmentSlots } := by
  have second := (reloaded_unarmed slots equipment).2
  have search := sameStacks_updateFirstEmptySlotIndex
    ((reloaded { inventory := .unarmed inventorySlots equipmentSlots } true).reloaded false)
  rw [PlayerInventory.ofSlots_eq]
  have loaded (isPrimary : Bool) := search.loaded (second.loaded isPrimary)
  exact ⟨search.stocked second.stocked, loaded, rfl⟩

end SlotStore

end ExtractionServer.Room
