import ExtractionServer.Room.InventoryRuns
import ExtractionServer.Room.VersionChecks
import Mathlib.Algebra.BigOperators.Fin

/-! A reload moves exactly as many rounds as fit and are there, and takes them from the lowest
slots that hold any.
-/

namespace ExtractionServer.Room

-----------------------------------------------------------------------------------------
-- Slots that feed a magazine
-----------------------------------------------------------------------------------------

/-- A slot has ammunition of some type. -/
def Slot.Feeds (slot : Slot) (ammoType : Nat) : Prop :=
  slot.isEmpty = false ∧ slot.item.blueprintId = ammoType

instance (slot : Slot) (ammoType : Nat) : Decidable (slot.Feeds ammoType) :=
  inferInstanceAs (Decidable (_ ∧ _))

namespace Slot

variable {slot : Slot} {ammoType : Nat}

theorem Feeds.units (feeds : slot.Feeds ammoType) : slot.units ammoType = slot.quantity :=
  if_pos feeds.2

theorem Feeds.quantity_pos (feeds : slot.Feeds ammoType) (good : slot.WellFormed)
    : 1 ≤ slot.quantity := (good.of_filled feeds.1).2

/-- A slot that feeds nothing has none of the ammunition. -/
theorem WellFormed.units_of_not_feeds (good : slot.WellFormed) (idle : ¬slot.Feeds ammoType)
    : slot.units ammoType = 0 := by
  by_cases empty : slot.isEmpty = true
  · exact good.units_of_empty empty ammoType
  · have other : slot.item.blueprintId ≠ ammoType := fun same =>
      idle ⟨Bool.eq_false_iff.mpr empty, same⟩
    exact if_neg other

theorem take_zero (positive : 1 ≤ slot.quantity) : slot.take 0 = slot := by
  simp [take, show ¬slot.quantity ≤ 0 by omega]

end Slot

-----------------------------------------------------------------------------------------
-- The loop
-----------------------------------------------------------------------------------------

namespace PlayerInventory.Loading

variable {loading before middle after : Loading} {ammoType : Nat}

/-- The ammunition that the slots hold. -/
def ammo (loading : Loading) (ammoType : Nat) : Int :=
  ∑ index : SlotIndex, (loading.slots.get index).units ammoType

/-- A state of the loop in which all stacks are well formed and no sum overflows. -/
structure Sensible (loading : Loading) : Prop where
  slots : ∀ index, (loading.slots.get index).WellFormed
  magazine : loading.magazine.WellFormed
  nonneg : 0 ≤ loading.remaining
  limit : loading.magazine.quantity + loading.remaining < 2 ^ 31

/-- What a stretch of the loop does when it visits some slots: rounds go from those that feed
the magazine into it, a slot gives rounds only after all those visited before it are cleared,
and all are cleared unless the magazine is full.
-/
structure Draws (ammoType : Nat) (indexes : List SlotIndex) (before after : Loading)
    : Prop where
  full : after.magazine.quantity + after.remaining
    = before.magazine.quantity + before.remaining
  conserved : after.magazine.quantity + after.ammo ammoType
    = before.magazine.quantity + before.ammo ammoType
  grows : before.magazine.quantity ≤ after.magazine.quantity
  changed : after.changed = true
    ↔ before.changed = true ∨ before.magazine.quantity < after.magazine.quantity
  unvisited : ∀ index ∉ indexes, after.slots.get index = before.slots.get index
  kept : ∀ index, ¬(before.slots.get index).Feeds ammoType →
    after.slots.get index = before.slots.get index
  taken : ∀ index, (before.slots.get index).Feeds ammoType →
    ∃ take, 0 ≤ take ∧ take ≤ (before.slots.get index).quantity
      ∧ after.slots.get index = (before.slots.get index).take take
  idle : before.magazine.quantity = after.magazine.quantity → after = before
  order : indexes.Pairwise fun index later =>
    (before.slots.get index).Feeds ammoType →
      after.slots.get later ≠ before.slots.get later →
        after.slots.get index = (before.slots.get index).clear
  exhausted : 0 < after.remaining → ∀ index ∈ indexes,
    (before.slots.get index).Feeds ammoType →
      after.slots.get index = (before.slots.get index).clear

theorem Sensible.ammo_nonneg (good : loading.Sensible) : 0 ≤ loading.ammo ammoType :=
  Finset.sum_nonneg fun index _ => (good.slots index).units_nonneg ammoType

theorem get_set_self (slots : Vector Slot INVENTORY_SLOT_COUNT) (index : SlotIndex)
    (slot : Slot)
    : (slots.set index.val slot index.isLt).get index = slot :=
  Vector.getElem_set_self index.isLt

theorem get_set_ne (slots : Vector Slot INVENTORY_SLOT_COUNT) {index other : SlotIndex}
    (apart : other ≠ index) (slot : Slot)
    : (slots.set index.val slot index.isLt).get other = slots.get other :=
  Vector.getElem_set_ne index.isLt other.isLt fun same => apart (Fin.ext same.symm)

/-- A write to one slot changes the ammunition by the difference of two stacks. -/
theorem sum_set (slots : Vector Slot INVENTORY_SLOT_COUNT) (index : SlotIndex) (slot : Slot)
    (ammoType : Nat)
    : ∑ other : SlotIndex,
          ((slots.set index.val slot index.isLt).get other).units ammoType
        + (slots.get index).units ammoType
      = ∑ other : SlotIndex, (slots.get other).units ammoType + slot.units ammoType := by
  have others : ∑ other ∈ Finset.univ.erase index,
        ((slots.set index.val slot index.isLt).get other).units ammoType
      = ∑ other ∈ Finset.univ.erase index, (slots.get other).units ammoType := by
    refine Finset.sum_congr rfl fun other erased => ?_
    rw [get_set_ne slots (Finset.ne_of_mem_erase erased)]
  rw [← Finset.add_sum_erase _ _ (Finset.mem_univ index), others, get_set_self,
    ← Finset.add_sum_erase Finset.univ (fun other : SlotIndex => (slots.get other).units ammoType)
      (Finset.mem_univ index)]
  omega

/-- A stretch that changes nothing, be it without slots, without room or without a slot that
feeds.
-/
theorem Draws.refl (good : loading.Sensible) {indexes : List SlotIndex}
    (idle : loading.remaining ≤ 0
      ∨ ∀ index ∈ indexes, ¬(loading.slots.get index).Feeds ammoType)
    : Draws ammoType indexes loading loading where
  full := rfl
  conserved := rfl
  grows := le_rfl
  changed := by simp
  unvisited _ _ := rfl
  kept _ _ := rfl
  taken index feeds := by
    have some := feeds.quantity_pos (good.slots index)
    exact ⟨0, le_rfl, by omega, (Slot.take_zero some).symm⟩
  idle _ := rfl
  order := List.pairwise_of_forall fun _ _ _ changed => absurd rfl changed
  exhausted needs index mem feeds := by
    rcases idle with full | idle
    · omega
    · exact absurd feeds (idle index mem)

/-- How the loop goes on where a slot feeds a magazine that is not full. -/
theorem visit_of_feeds {index : SlotIndex} (good : loading.Sensible)
    (needs : 0 < loading.remaining) (feeds : (loading.slots.get index).Feeds ammoType)
    : ∃ magazine : Slot,
        magazine.quantity = loading.magazine.quantity
            + min (loading.slots.get index).quantity loading.remaining
        ∧ magazine.WellFormed
        ∧ loading.visit ammoType index
          = { slots := loading.slots.set index.val
                ((loading.slots.get index).take
                  (min (loading.slots.get index).quantity loading.remaining)) index.isLt
              magazine
              remaining :=
                loading.remaining - min (loading.slots.get index).quantity loading.remaining
              changed := true } := by
  have read : loading.slots[index] = loading.slots.get index := rfl
  have some := feeds.quantity_pos (good.slots index)
  have limit := good.limit
  obtain ⟨filled, ammo⟩ := feeds
  simp only [visit, read, filled, ammo, bne_self_eq_false, Bool.or_self, Bool.false_eq_true,
    if_false, if_neg (Int.not_le.mpr needs)]
  by_cases empty : loading.magazine.isEmpty = true
  · have none := (good.magazine.of_empty empty).2
    rw [if_pos empty]
    refine ⟨_, ?_, ?_, rfl⟩
    · simp only [Slot.put]
      omega
    · refine .inr ⟨?_, ?_⟩
      · exact ((good.slots index).of_filled filled).1
      · simp only [Slot.put]
        omega
  · have held := good.magazine.of_filled (Bool.eq_false_iff.mpr empty)
    rw [if_neg empty]
    have sum : addInt32 loading.magazine.quantity
          (min (loading.slots.get index).quantity loading.remaining)
        = loading.magazine.quantity
          + min (loading.slots.get index).quantity loading.remaining :=
      Int.bmod_eq_of_le (by omega) (by omega)
    refine ⟨{ loading.magazine with quantity := _ }, sum, .inr ⟨held.1, ?_⟩, rfl⟩
    show 1 ≤ addInt32 _ _
    rw [sum]
    omega

theorem visit_of_idle {index : SlotIndex}
    (idle : loading.remaining ≤ 0 ∨ ¬(loading.slots.get index).Feeds ammoType)
    : loading.visit ammoType index = loading := by
  rcases loading.visit_cases ammoType index with ⟨same, -⟩ | ⟨-, needs, filled, ammo⟩
  · exact same
  · exact absurd ⟨filled, ammo⟩ (idle.resolve_left (Int.not_le.mpr needs))

variable (ammoType) in
/-- One iteration of the loop. -/
theorem visit_draws (good : loading.Sensible) (index : SlotIndex)
    : (loading.visit ammoType index).Sensible
      ∧ Draws ammoType [index] loading (loading.visit ammoType index) := by
  by_cases idle : loading.remaining ≤ 0 ∨ ¬(loading.slots.get index).Feeds ammoType
  · rw [visit_of_idle idle]
    refine ⟨good, .refl good (idle.imp_right fun other here mem => ?_)⟩
    rwa [List.mem_singleton.mp mem]
  · obtain ⟨needs, feeds⟩ := not_or.mp idle
    have feeds := not_not.mp feeds
    have some := feeds.quantity_pos (good.slots index)
    have limit := good.limit
    have held : 0 ≤ loading.magazine.quantity := by
      rcases good.magazine with ⟨_, none⟩ | ⟨_, some⟩ <;> omega
    obtain ⟨magazine, quantity, wellFormed, visited⟩ :=
      visit_of_feeds good (Int.not_le.mp needs) feeds
    generalize taken : min (loading.slots.get index).quantity loading.remaining = take
      at quantity visited
    have taking := (good.slots index).take (by omega : 0 ≤ take) (by omega)
    have rest (other : SlotIndex) (apart : other ≠ index)
        : (loading.slots.set index.val ((loading.slots.get index).take take)
            index.isLt).get other = loading.slots.get other :=
      get_set_ne _ apart _
    have sum := sum_set loading.slots index ((loading.slots.get index).take take) ammoType
    rw [taking.2, if_pos feeds.2] at sum
    rw [visited]
    refine ⟨⟨fun other => ?_, wellFormed, by dsimp only; omega, by dsimp only; omega⟩,
      { full := by dsimp only; omega
        conserved := by simp only [ammo]; omega
        grows := by dsimp only; omega
        changed := by simp only [true_iff]; right; omega
        unvisited := fun other away => rest other fun same => away (by simp [same])
        kept := fun other idle => rest other fun same => idle (same ▸ feeds)
        taken := fun other feedsOther => ?_
        idle := fun same => by dsimp only at same; omega
        order := List.pairwise_singleton _ _
        exhausted := fun more other mem _ => ?_ }⟩
    · by_cases same : other = index
      · rw [same, get_set_self]
        exact taking.1
      · rw [rest other same]
        exact good.slots other
    · by_cases same : other = index
      · subst same
        exact ⟨take, by omega, by omega, get_set_self _ _ _⟩
      · have other_some := feedsOther.quantity_pos (good.slots other)
        exact ⟨0, le_rfl, by omega, (rest other same).trans (Slot.take_zero other_some).symm⟩
    · rw [List.mem_singleton.mp mem, get_set_self]
      have all : take = (loading.slots.get index).quantity := by
        dsimp only at more
        omega
      rw [all, Slot.take_all]

/-- A slot and then others. Where one of the others gives rounds, the magazine was not full
before, so that the first slot had been cleared.
-/
theorem Draws.cons {index : SlotIndex} {rest : List SlotIndex} (new : index ∉ rest)
    (first : Draws ammoType [index] before middle) (later : Draws ammoType rest middle after)
    (nonneg : 0 ≤ after.remaining)
    : Draws ammoType (index :: rest) before after := by
  have same (other : SlotIndex) (apart : other ≠ index)
      : middle.slots.get other = before.slots.get other :=
    first.unvisited other (by simpa using apart)
  have others (other : SlotIndex) (mem : other ∈ rest)
      : middle.slots.get other = before.slots.get other :=
    same other fun equal => new (equal ▸ mem)
  have here : after.slots.get index = middle.slots.get index := later.unvisited index new
  have full := later.full
  have grows := first.grows
  have growsLater := later.grows
  exact
    { full := full.trans first.full
      conserved := later.conserved.trans first.conserved
      grows := grows.trans growsLater
      changed := by
        rw [later.changed, first.changed, or_assoc]
        exact or_congr_right ⟨fun moved => by omega, fun moved => by omega⟩
      unvisited := fun other away => by
        obtain ⟨apart, away⟩ := not_or.mp (mt List.mem_cons.mpr away)
        rw [later.unvisited other away, same other apart]
      kept := fun other idle => by
        have kept := first.kept other idle
        rw [later.kept other (by rwa [kept]), kept]
      taken := fun other feeds => by
        by_cases equal : other = index
        · subst equal
          rw [here]
          exact first.taken other feeds
        · have same := same other equal
          rw [← same] at feeds ⊢
          exact later.taken other feeds
      idle := fun unmoved => by
        rw [later.idle (by omega), first.idle (by omega)]
      order := by
        refine .cons (fun other mem feeds changed => ?_) ?_
        · have needs : 0 < middle.remaining := by
            by_contra none
            refine changed ?_
            rw [later.idle (by omega), others other mem]
          rw [here]
          exact first.exhausted needs index List.mem_cons_self feeds
        · refine later.order.imp_of_mem fun {one two} mem memLater order => ?_
          rwa [others one mem, others two memLater] at order
      exhausted := fun needs other mem feeds => by
        rcases List.mem_cons.mp mem with rfl | mem
        · rw [here]
          exact first.exhausted (by omega) other List.mem_cons_self feeds
        · have same := others other mem
          rw [← same] at feeds ⊢
          exact later.exhausted needs other mem feeds }

variable (ammoType loading) in
/-- The whole loop, by induction on the slots that it visits. -/
theorem foldl_draws (good : loading.Sensible) {indexes : List SlotIndex}
    (nodup : indexes.Nodup)
    : (indexes.foldl (visit ammoType) loading).Sensible
      ∧ Draws ammoType indexes loading (indexes.foldl (visit ammoType) loading) := by
  induction indexes generalizing loading with
  | nil => exact ⟨good, .refl good (.inr (by simp))⟩
  | cons index rest ih =>
      obtain ⟨new, nodup⟩ := List.nodup_cons.mp nodup
      obtain ⟨middle, first⟩ := visit_draws ammoType good index
      obtain ⟨last, later⟩ := ih _ middle nodup
      exact ⟨last, first.cons new later last.nonneg⟩

end PlayerInventory.Loading

-----------------------------------------------------------------------------------------
-- Reloads
-----------------------------------------------------------------------------------------

namespace PlayerInventory

variable {inventory before after : PlayerInventory} {isPrimary : Bool} {spec : WeaponSpec}

/-- The ammunition in the inventory slots. -/
def ammo (inventory : PlayerInventory) (ammoType : Nat) : Int :=
  ∑ index : SlotIndex, (inventory.inventorySlots.get index).units ammoType

/-- A magazine is filled as far as its capacity and the ammunition in the slots allow. The
rounds come from the slots that hold such ammunition: each of them loses some of its stack,
and one gives rounds only after all lower ones are cleared. Everything else stays.
-/
structure FillsUp (spec : WeaponSpec) (isPrimary : Bool) (before after : PlayerInventory)
    : Prop where
  magazine : (after.magazineSlot isPrimary).quantity
    = min spec.maxAmmo
        ((before.magazineSlot isPrimary).quantity + before.ammo spec.ammoType)
  removed : before.ammo spec.ammoType - after.ammo spec.ammoType
    = (after.magazineSlot isPrimary).quantity - (before.magazineSlot isPrimary).quantity
  taken : ∀ index, (before.inventorySlots.get index).Feeds spec.ammoType →
    ∃ take, 0 ≤ take ∧ take ≤ (before.inventorySlots.get index).quantity
      ∧ after.inventorySlots.get index = (before.inventorySlots.get index).take take
  order : ∀ index later, index < later →
    (before.inventorySlots.get index).Feeds spec.ammoType →
      after.inventorySlots.get later ≠ before.inventorySlots.get later →
        after.inventorySlots.get index = (before.inventorySlots.get index).clear
  kept : ∀ index, ¬(before.inventorySlots.get index).Feeds spec.ammoType →
    after.inventorySlots.get index = before.inventorySlots.get index
  version : after.inventoryVersion = before.inventoryVersion
    + if (before.magazineSlot isPrimary).quantity < (after.magazineSlot isPrimary).quantity
      then 1 else 0
  unmoved : (after.magazineSlot isPrimary).quantity
      = (before.magazineSlot isPrimary).quantity → after = before
  weapon : ∀ isOther, after.weaponSlot isOther = before.weaponSlot isOther
  armor : after.armorSlot = before.armorSlot
  otherMagazine : after.magazineSlot (!isPrimary) = before.magazineSlot !isPrimary

/-- The stacks and the magazines of an inventory are in order, whatever its cached index says.
It is so from the start of the constructor on.
-/
structure Orderly (inventory : PlayerInventory) : Prop where
  slots : ∀ index : SlotIndex, (inventory.inventorySlots.get index).WellFormed
  magazine : ∀ isPrimary, (inventory.magazineSlot isPrimary).WellFormed
  rounds : ∀ isPrimary, (inventory.magazineSlot isPrimary).isEmpty = false →
    (inventory.weaponSlot isPrimary).isEmpty = false
    ∧ ∃ spec,
      ItemDataManager.getWeaponSpec (inventory.weaponSlot isPrimary).item.blueprintId
        = some spec
      ∧ (inventory.magazineSlot isPrimary).item.blueprintId = spec.ammoType
      ∧ (inventory.magazineSlot isPrimary).quantity ≤ spec.maxAmmo

theorem Represented.orderly (represented : inventory.Represented) : inventory.Orderly :=
  ⟨represented.slots, represented.magazine, represented.rounds⟩

/-- A reload that has nothing to do fills up a magazine that is full. -/
theorem FillsUp.refl (orderly : inventory.Orderly)
    (full : (inventory.magazineSlot isPrimary).quantity
      = min spec.maxAmmo
          ((inventory.magazineSlot isPrimary).quantity + inventory.ammo spec.ammoType))
    : FillsUp spec isPrimary inventory inventory where
  magazine := full
  removed := by omega
  taken index feeds := by
    have some := feeds.quantity_pos (orderly.slots index)
    exact ⟨0, le_rfl, by omega, (Slot.take_zero some).symm⟩
  order _ _ _ _ changed := absurd rfl changed
  kept _ _ := rfl
  version := by simp
  unmoved _ := rfl
  weapon _ := rfl
  armor := rfl
  otherMagazine := rfl

theorem Orderly.ammo_nonneg (orderly : inventory.Orderly) (ammoType : Nat)
    : 0 ≤ inventory.ammo ammoType :=
  Finset.sum_nonneg fun index _ => (orderly.slots index).units_nonneg ammoType

/-- A magazine is never above the capacity of its weapon. -/
theorem Orderly.magazine_le (orderly : inventory.Orderly)
    (known : ItemDataManager.getWeaponSpec (inventory.weaponSlot isPrimary).item.blueprintId
      = some spec)
    : 0 ≤ (inventory.magazineSlot isPrimary).quantity
      ∧ (inventory.magazineSlot isPrimary).quantity ≤ spec.maxAmmo := by
  have capacity := (ItemDataManager.getWeaponSpec_ammo known).1
  have good := orderly.magazine isPrimary
  cases empty : (inventory.magazineSlot isPrimary).isEmpty with
  | true =>
      have none := (good.of_empty empty).2
      omega
  | false =>
      have some := (good.of_filled empty).2
      obtain ⟨-, other, same, -, limit⟩ := orderly.rounds isPrimary empty
      obtain rfl : spec = other := Option.some.inj (known.symm.trans same)
      omega

/-- The inventory after the loop, with the version counted up if something moved. -/
def Loading.stored (loading : Loading) (inventory : PlayerInventory) (isPrimary : Bool)
    : PlayerInventory :=
  let stored :=
    { inventory with inventorySlots := loading.slots }.setMagazineSlot isPrimary
      loading.magazine
  if loading.changed then stored.updateFirstEmptySlotIndex.incrementInventoryVersion
  else stored

@[simp] theorem Loading.stored_inventorySlots (loading : Loading)
    (inventory : PlayerInventory) (isPrimary : Bool)
    : (loading.stored inventory isPrimary).inventorySlots = loading.slots := by
  unfold stored
  split <;> cases isPrimary <;> rfl

@[simp] theorem Loading.stored_magazineSlot (loading : Loading)
    (inventory : PlayerInventory) (isPrimary : Bool)
    : (loading.stored inventory isPrimary).magazineSlot isPrimary = loading.magazine := by
  unfold stored
  split <;> cases isPrimary <;> rfl

/-- What the loop does not reach. -/
theorem Loading.stored_rest (loading : Loading) (inventory : PlayerInventory)
    (isPrimary : Bool)
    : (∀ isOther, (loading.stored inventory isPrimary).weaponSlot isOther
        = inventory.weaponSlot isOther)
      ∧ (loading.stored inventory isPrimary).armorSlot = inventory.armorSlot
      ∧ (loading.stored inventory isPrimary).magazineSlot (!isPrimary)
        = inventory.magazineSlot !isPrimary := by
  unfold stored
  split <;> cases isPrimary <;> exact ⟨fun _ => rfl, rfl, rfl⟩

theorem Loading.stored_inventoryVersion (loading : Loading) (inventory : PlayerInventory)
    (isPrimary : Bool)
    : (loading.stored inventory isPrimary).inventoryVersion
      = inventory.inventoryVersion + if loading.changed then 1 else 0 := by
  unfold stored
  split <;> cases isPrimary <;> simp [setMagazineSlot, updateFirstEmptySlotIndex,
    incrementInventoryVersion]

/-- The loop over all slots fills a magazine up. What it leaves to load is either nothing, or
all slots that feed the magazine are cleared.
-/
theorem FillsUp.of_draws {start loading : Loading} (slots : start.slots = inventory.inventorySlots)
    (magazine : start.magazine = inventory.magazineSlot isPrimary)
    (remaining : start.magazine.quantity + start.remaining = spec.maxAmmo)
    (fresh : start.changed = false) (sensible : loading.Sensible)
    (draws : Loading.Draws spec.ammoType (List.finRange INVENTORY_SLOT_COUNT) start loading)
    : FillsUp spec isPrimary inventory (loading.stored inventory isPrimary) := by
  have ammoBefore : start.ammo spec.ammoType = inventory.ammo spec.ammoType := by
    simp only [Loading.ammo, ammo, slots]
  have ammoAfter : loading.ammo spec.ammoType
      = (loading.stored inventory isPrimary).ammo spec.ammoType := by
    simp only [Loading.ammo, ammo, Loading.stored_inventorySlots]
  have full := draws.full
  have conserved := draws.conserved
  have nonneg := sensible.nonneg
  have left : 0 ≤ loading.ammo spec.ammoType := sensible.ammo_nonneg
  have exhausted : 0 < loading.remaining → loading.ammo spec.ammoType = 0 := by
    intro needs
    refine Finset.sum_eq_zero fun index _ => ?_
    by_cases feeds : (start.slots.get index).Feeds spec.ammoType
    · rw [draws.exhausted needs index (List.mem_finRange index) feeds]
      exact Slot.units_clear _ _
    · have kept := draws.kept index feeds
      rw [← kept] at feeds
      exact (sensible.slots index).units_of_not_feeds feeds
  obtain ⟨weapon, armor, otherMagazine⟩ := loading.stored_rest inventory isPrimary
  have order := draws.order
  have taken := draws.taken
  have kept := draws.kept
  have idle := draws.idle
  have changed := draws.changed
  rw [slots] at order taken kept
  rw [fresh, magazine] at changed
  rw [magazine] at idle remaining full conserved
  exact
    { magazine := by
        rw [Loading.stored_magazineSlot, ← ammoBefore]
        omega
      removed := by
        rw [Loading.stored_magazineSlot, ← ammoBefore, ← ammoAfter]
        omega
      taken := by simpa only [Loading.stored_inventorySlots] using taken
      order := fun index later less => by
        rw [Loading.stored_inventorySlots]
        have ordered := List.pairwise_iff_getElem.mp order index.val later.val
          (by simp) (by simp) less
        simpa using ordered
      kept := by simpa only [Loading.stored_inventorySlots] using kept
      version := by
        rw [Loading.stored_inventoryVersion, Loading.stored_magazineSlot]
        simp only [changed, Bool.false_eq_true, false_or]
      unmoved := fun same => by
        rw [Loading.stored_magazineSlot] at same
        have still := idle same.symm
        subst still
        simp only [Loading.stored, fresh, slots, magazine, Bool.false_eq_true, if_false]
        exact inventory.setMagazineSlot_self isPrimary
      weapon, armor, otherMagazine }

/-- The loop where a magazine of a known weapon is not full. -/
theorem loadMagazineFromInventory_of_needs
    (armed : (inventory.weaponSlot isPrimary).isEmpty = false)
    (known : ItemDataManager.getWeaponSpec (inventory.weaponSlot isPrimary).item.blueprintId
      = some spec)
    (needs : ¬spec.maxAmmo - (inventory.magazineSlot isPrimary).quantity ≤ 0)
    : inventory.loadMagazineFromInventory isPrimary
      = ((List.finRange INVENTORY_SLOT_COUNT).foldl (Loading.visit spec.ammoType)
          { slots := inventory.inventorySlots
            magazine := inventory.magazineSlot isPrimary
            remaining :=
              spec.maxAmmo - (inventory.magazineSlot isPrimary).quantity }).stored
        inventory isPrimary := by
  simp only [loadMagazineFromInventory, armed, known, Bool.false_eq_true, if_false,
    if_neg needs, Loading.stored]

/-- Without a weapon that shoots there is nothing to load. -/
theorem loadMagazineFromInventory_unarmed
    (unarmed : (inventory.weaponSlot isPrimary).isEmpty = true
      ∨ ItemDataManager.getWeaponSpec (inventory.weaponSlot isPrimary).item.blueprintId = none)
    : inventory.loadMagazineFromInventory isPrimary = inventory := by
  rcases unarmed with empty | unknown
  · simp only [loadMagazineFromInventory, empty, if_true]
  · simp only [loadMagazineFromInventory, unknown, ite_self]

theorem loadMagazineFromInventory_fillsUp (orderly : inventory.Orderly)
    (armed : (inventory.weaponSlot isPrimary).isEmpty = false)
    (known : ItemDataManager.getWeaponSpec (inventory.weaponSlot isPrimary).item.blueprintId
      = some spec)
    : FillsUp spec isPrimary inventory (inventory.loadMagazineFromInventory isPrimary) := by
  obtain ⟨nonneg, limit⟩ := orderly.magazine_le known
  have capacity := (ItemDataManager.getWeaponSpec_ammo known).1
  have ammo := orderly.ammo_nonneg spec.ammoType
  by_cases full : spec.maxAmmo - (inventory.magazineSlot isPrimary).quantity ≤ 0
  · have same : inventory.loadMagazineFromInventory isPrimary = inventory := by
      simp only [loadMagazineFromInventory, armed, known, Bool.false_eq_true, if_false,
        if_pos full]
    rw [same]
    exact .refl orderly (by omega)
  · rw [loadMagazineFromInventory_of_needs armed known full]
    obtain ⟨sensible, draws⟩ := Loading.foldl_draws
      { slots := inventory.inventorySlots
        magazine := inventory.magazineSlot isPrimary
        remaining := spec.maxAmmo - (inventory.magazineSlot isPrimary).quantity }
      spec.ammoType
      ⟨orderly.slots, orderly.magazine isPrimary, by dsimp only; omega,
        by dsimp only; omega⟩ (List.nodup_finRange INVENTORY_SLOT_COUNT)
    exact .of_draws rfl rfl (by dsimp only; omega) rfl sensible draws

/-- A reload leaves as many rounds in the magazine as fit and are there. They come from the
slots of that ammunition, each of which is cleared before a higher one is touched; the version
counts up, and the reload succeeds, exactly when at least one round moved. Without a weapon
that shoots nothing changes.
-/
theorem reload_fills_up (inventory : PlayerInventory) (isPrimary : Bool)
    (represented : inventory.Represented)
    : (inventory.reloadMagazine isPrimary).1 = inventory.loadMagazineFromInventory isPrimary
      ∧ ((inventory.weaponSlot isPrimary).isEmpty = true
            ∨ ItemDataManager.getWeaponSpec
              (inventory.weaponSlot isPrimary).item.blueprintId = none →
          inventory.reloadMagazine isPrimary = (inventory, false))
      ∧ ∀ spec, (inventory.weaponSlot isPrimary).isEmpty = false →
          ItemDataManager.getWeaponSpec (inventory.weaponSlot isPrimary).item.blueprintId
            = some spec →
          FillsUp spec isPrimary inventory (inventory.loadMagazineFromInventory isPrimary)
          ∧ ((inventory.reloadMagazine isPrimary).2 = true
            ↔ (inventory.magazineSlot isPrimary).quantity
              < ((inventory.loadMagazineFromInventory isPrimary).magazineSlot
                isPrimary).quantity) := by
  refine ⟨rfl, fun unarmed => ?_, fun spec armed known => ?_⟩
  · simp [reloadMagazine, loadMagazineFromInventory_unarmed unarmed]
  · have filled := loadMagazineFromInventory_fillsUp represented.orderly armed known
    refine ⟨filled, ?_⟩
    simp only [reloadMagazine, bne_iff_ne, filled.version]
    split <;> simp [*]

/-- A rifleman with 50 rounds who has fired one of those in the magazine. -/
def afterShot : SlotStore :=
  SlotStore.fired
    { inventory := .ofSlots [{ item := { blueprintId := 6 }, slotIndex := 3, quantity := 50 }]
        [{ item := { blueprintId := 1 }, slotIndex := 0, quantity := 1 }] } true

theorem afterShot_represented : afterShot.inventory.Represented := by
  refine (SlotStore.fired_spec (SlotStore.wellFormed_ofSlots ?_ ?_) (by decide +kernel)).1
    |>.represented
  · intro slot mem
    rw [List.mem_singleton.mp mem]
    exact .inr (by decide)
  · intro slot mem
    rw [List.mem_singleton.mp mem]
    exact .inr (by decide)

/-- The reload after the shot moves one round. -/
theorem reload_fills_up_after_shot
    : (afterShot.inventory.reloadMagazine true).2 = true
      ∧ (afterShot.inventory.loadMagazineFromInventory true).ammo 6 = 19 := by
  obtain ⟨spec, known⟩ : ∃ spec,
      ItemDataManager.getWeaponSpec (afterShot.inventory.weaponSlot true).item.blueprintId
        = some spec := Option.isSome_iff_exists.mp (by decide +kernel)
  obtain ⟨-, moved⟩ := (reload_fills_up afterShot.inventory true
    afterShot_represented).2.2 spec (by decide +kernel) known
  exact ⟨moved.mpr (by decide +kernel), by decide +kernel⟩

end PlayerInventory

end ExtractionServer.Room
