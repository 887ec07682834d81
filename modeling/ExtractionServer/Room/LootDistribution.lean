import Mathlib.Algebra.Ring.Nat
import ExtractionServer.Library.Draws
import ExtractionServer.Room.Objects

/-! How a room's containers get their first loot: ammunition for all, more of it for some, and
equipment for as many as the quotas say, whatever the random generator draws.
-/

namespace ExtractionServer.Room

open Draws

-----------------------------------------------------------------------------------------
-- Placing
-----------------------------------------------------------------------------------------

structure MapLootEquipQuota where
  blueprintId : Nat
  containerCount : BitVec 32
deriving DecidableEq, Repr

namespace MapDataManager

def TENERIFE_BASE_AMMO_MIN : Nat := 8
def TENERIFE_BASE_AMMO_MAX : Nat := 16
def TENERIFE_EXTRA_AMMO_CONTAINERS : Nat := 20
def TENERIFE_EXTRA_AMMO_MIN : Nat := 10
def TENERIFE_EXTRA_AMMO_MAX : Nat := 20

end MapDataManager

/-- A call of `PlaceInitialLoot` on the container with an index, and what it returned. -/
structure Placement where
  container : Nat
  blueprintId : Nat
  quantity : Int
  instanceUid : BitVec 64
  placed : Bool
deriving DecidableEq, Repr

/-- The variables of `DistributeLoot`, with all placements so far. The containers are different
objects.
-/
structure LootDistribution (σ : Type) where
  gen : σ
  indices : Array Nat := #[]
  containers : List Container
  nextWorldItemUid : BitVec 64
  placements : List Placement := []

variable {σ : Type} (source : Source σ)

namespace LootDistribution

/-- `PlaceInitialLoot` on one container; its result is ignored. It is undefined outside of the
list.
-/
def place (loot : LootDistribution σ) (k blueprintId : Nat) (quantity : Int)
    : Option (LootDistribution σ) :=
  loot.containers[k]?.map fun container =>
    let result :=
      container.placeInitialLoot blueprintId quantity loot.nextWorldItemUid.toNat
    { loot with
      containers := loot.containers.set k result.1
      nextWorldItemUid := loot.nextWorldItemUid + 1
      placements :=
        loot.placements
          ++ [⟨k, blueprintId, quantity, loot.nextWorldItemUid, result.2⟩] }

/-- The lambda `placeAmmo`. -/
def placeAmmo (ammoPool : List Nat) (minQty maxQty : Nat) (loot : LootDistribution σ) (k : Nat)
    : Option (LootDistribution σ) :=
  (uniform source 0 (ammoPool.length - 1) loot.gen).bind fun pick =>
    (ammoPool[pick.1]?).bind fun blueprintId =>
      (uniform source minQty maxQty pick.2).bind fun qty =>
        place { loot with gen := qty.2 } k blueprintId qty.1

/-- `PartialShuffle` of the indices. -/
def partialShuffle (loot : LootDistribution σ) (pickCount : Nat)
    : Option (LootDistribution σ) :=
  (Draws.partialShuffle source pickCount 0 loot.indices loot.gen).map fun shuffled =>
    { loot with indices := shuffled.1, gen := shuffled.2 }

/-- Ammunition for every container, and for as many again as there are picks. -/
def distributeAmmo (ammoPool : List Nat) (extraCount : Nat) (loot : LootDistribution σ)
    : Option (LootDistribution σ) :=
  ((List.range loot.containers.length).foldlM
      (placeAmmo source ammoPool MapDataManager.TENERIFE_BASE_AMMO_MIN
        MapDataManager.TENERIFE_BASE_AMMO_MAX) loot).bind fun loot =>
    (loot.partialShuffle source extraCount).bind fun loot =>
      (List.range extraCount).foldlM
        (fun loot i => (loot.indices[i]?).bind fun k =>
          loot.placeAmmo source ammoPool MapDataManager.TENERIFE_EXTRA_AMMO_MIN
            MapDataManager.TENERIFE_EXTRA_AMMO_MAX k) loot

/-- The inner loop over one quota, with the cursor it leaves. -/
def fillQuota (equipTotal blueprintId : Nat)
    : Nat → Nat → LootDistribution σ → Option (Nat × LootDistribution σ)
  | 0, cursor, loot => some (cursor, loot)
  | remaining + 1, cursor, loot =>
      if cursor < equipTotal then
        (loot.indices[cursor]?).bind fun k =>
          (loot.place k blueprintId 1).bind fun loot =>
            fillQuota equipTotal blueprintId remaining (cursor + 1) loot
      else some (cursor, loot)

/-- The loop over the quotas. A quota that is no equipment is skipped with its share. -/
def fillQuotas (equipTotal : Nat)
    : List MapLootEquipQuota → Nat → LootDistribution σ → Option (LootDistribution σ)
  | [], _, loot => some loot
  | quota :: rest, cursor, loot =>
      if cursor < equipTotal then
        if ItemDataManager.getType quota.blueprintId ≠ .weapon
            ∧ ItemDataManager.getType quota.blueprintId ≠ .armor then
          fillQuotas equipTotal rest ((cursor + quota.containerCount.toNat) % 2 ^ 32) loot
        else
          (fillQuota equipTotal quota.blueprintId quota.containerCount.toNat cursor loot).bind
            fun filled => fillQuotas equipTotal rest filled.1 filled.2
      else some loot

/-- The sum of the quotas, in 32 bits. -/
def quotaTotal (quotas : List MapLootEquipQuota) : BitVec 32 :=
  quotas.foldl (fun total quota => total + quota.containerCount) 0

def distributeEquipment (quotas : List MapLootEquipQuota) (count : Nat)
    (loot : LootDistribution σ)
    : Option (LootDistribution σ) :=
  let equipTotal := min (quotaTotal quotas).toNat count
  (loot.partialShuffle source equipTotal).bind (fillQuotas equipTotal quotas 0)

/-- `DistributeLoot`, with the two tables of the map. -/
def distributeLoot (rawAmmoPool : List Nat) (quotas : List MapLootEquipQuota)
    (loot : LootDistribution σ)
    : Option (LootDistribution σ) :=
  if loot.containers.isEmpty then some loot
  else
    let ammoPool := rawAmmoPool.filter fun id => ItemDataManager.getType id == .ammo
    let count := loot.containers.length % 2 ^ 32
    let loot := { loot with indices := Array.range count }
    (if ammoPool.isEmpty then some loot
      else
        loot.distributeAmmo source ammoPool
          (min MapDataManager.TENERIFE_EXTRA_AMMO_CONTAINERS count)).bind fun loot =>
      if quotas.isEmpty then some loot else loot.distributeEquipment source quotas count

end LootDistribution

-----------------------------------------------------------------------------------------
-- Containers and what was placed in them
-----------------------------------------------------------------------------------------

/-- A container without loot that has some slots. -/
structure Container.Fresh (container : Container) : Prop where
  next : container.nextLootSlot = 0
  slots : 3 ≤ container.inventorySlots.length
  empty : ∀ slot ∈ container.inventorySlots, slot.isEmpty = true

/-- A container holds what was placed in its first slots, in this order; its other slots are as
before.
-/
structure Container.Holds (before : Container) (loot : List Placement) (after : Container)
    : Prop where
  size : after.inventorySlots.length = before.inventorySlots.length
  next : after.nextLootSlot = loot.length
  taken : ∀ (j : Nat) (placement : Placement), loot[j]? = some placement →
    ∃ slot : Slot, after.inventorySlots[j]? = some slot
      ∧ slot.item = ⟨placement.instanceUid.toNat, placement.blueprintId⟩
      ∧ slot.quantity = placement.quantity
  untouched : ∀ j, loot.length ≤ j → after.inventorySlots[j]? = before.inventorySlots[j]?

namespace Container

variable {before after : Container} {loot : List Placement}

theorem Fresh.holds (fresh : before.Fresh) : before.Holds [] before where
  size := rfl
  next := fresh.next
  taken := by simp
  untouched _ _ := rfl

/-- A new container is fresh if it is not too small. -/
theorem ofVolume_fresh (object : UnityGameObject) {slotCount : Nat} (slots : 3 ≤ slotCount)
    : (ofVolume object slotCount).Fresh where
  next := rfl
  slots := by simpa [ofVolume] using slots
  empty slot member := by
    obtain ⟨index, -, rfl⟩ := List.mem_map.mp member
    rfl

/-- While there is a free slot, a stack of something is placed. -/
theorem Holds.place (holds : before.Holds loot after) {placement : Placement}
    (room : loot.length < before.inventorySlots.length) (some : 0 < placement.quantity)
    : (after.placeInitialLoot placement.blueprintId placement.quantity
          placement.instanceUid.toNat).2 = true
      ∧ before.Holds (loot ++ [placement])
        (after.placeInitialLoot placement.blueprintId placement.quantity
          placement.instanceUid.toNat).1 := by
  have inside : loot.length < after.inventorySlots.length := by
    rw [holds.size]
    exact room
  have free : ¬after.inventorySlots.length ≤ loot.length := Nat.not_le.mpr inside
  have placed : ¬(after.inventorySlots.length ≤ loot.length ∨ placement.quantity ≤ 0) := by
    omega
  simp only [placeInitialLoot, placeItem, holds.next, if_neg free, if_neg placed, if_true,
    true_and]
  exact
    { size := by
        rw [List.length_set]
        exact holds.size
      next := by simp
      taken := fun j other found => by
        by_cases earlier : j < loot.length
        · rw [List.getElem?_append_left earlier] at found
          rw [List.getElem?_set_ne (Nat.ne_of_gt earlier)]
          exact holds.taken j other found
        · have here : j = loot.length := by
            have inside := (List.getElem?_eq_some_iff.mp found).1
            rw [List.length_append, List.length_singleton] at inside
            omega
          subst here
          obtain rfl : placement = other := by simpa using found
          rw [List.getElem?_set_self inside]
          exact ⟨_, rfl, rfl, rfl⟩
      untouched := fun j later => by
        rw [List.length_append, List.length_singleton] at later
        rw [List.getElem?_set_ne (by omega)]
        exact holds.untouched j (by omega) }

end Container

namespace LootDistribution

/-- What was placed in a container. -/
def lootOf (loot : LootDistribution σ) (k : Nat) : List Placement :=
  loot.placements.filter fun placement => placement.container == k

/-- What holds while loot is distributed: all placements have succeeded, in the slots of their
containers one after the other, and the items are numbered.
-/
structure Tracks (fresh : List Container) (firstUid : BitVec 64) (loot : LootDistribution σ)
    : Prop where
  length : loot.containers.length = fresh.length
  holds : ∀ (k : Nat) (before after : Container), fresh[k]? = some before →
    loot.containers[k]? = some after → before.Holds (loot.lootOf k) after
  inside : ∀ placement ∈ loot.placements, placement.container < fresh.length
  placed : ∀ placement ∈ loot.placements, placement.placed = true
  next : loot.nextWorldItemUid = firstUid + BitVec.ofNat 64 loot.placements.length
  uids : ∀ (i : Nat) (placement : Placement), loot.placements[i]? = some placement →
    placement.instanceUid = firstUid + BitVec.ofNat 64 i

/-- Some placements were added, and the indices are as before. -/
structure Adds (loot : LootDistribution σ) (added : List Placement)
    (later : LootDistribution σ)
    : Prop where
  placements : later.placements = loot.placements ++ added
  indices : later.indices = loot.indices

/-- A container has a free slot for one more placement: it has three, and no more than two are
taken.
-/
def Ready (loot : LootDistribution σ) (k : Nat) : Prop :=
  k < loot.containers.length ∧ (loot.placements.map (·.container)).count k < 3

variable {fresh : List Container} {firstUid : BitVec 64} {loot later : LootDistribution σ}
    {added : List Placement}

theorem Adds.refl (loot : LootDistribution σ) : loot.Adds [] loot :=
  ⟨(List.append_nil _).symm, rfl⟩

theorem Adds.trans {last : LootDistribution σ} {more : List Placement}
    (first : loot.Adds added later) (next : later.Adds more last)
    : loot.Adds (added ++ more) last where
  placements := by rw [next.placements, first.placements, List.append_assoc]
  indices := next.indices.trans first.indices

theorem length_lootOf (loot : LootDistribution σ) (k : Nat)
    : (loot.lootOf k).length = (loot.placements.map (·.container)).count k := by
  rw [lootOf, List.count, List.countP_map, List.countP_eq_length_filter]
  rfl

/-- Placements elsewhere leave a container ready. -/
theorem Ready.of_adds {k : Nat} (ready : loot.Ready k) (adds : loot.Adds added later)
    (length : later.containers.length = loot.containers.length)
    (elsewhere : k ∉ added.map (·.container))
    : later.Ready k := by
  refine ⟨length ▸ ready.1, ?_⟩
  rw [adds.placements, List.map_append, List.count_append,
    List.count_eq_zero_of_not_mem elsewhere]
  exact ready.2

/-- Neither the generator nor the indices matter for what was placed. -/
theorem Tracks.redraw (tracks : loot.Tracks fresh firstUid) (gen : σ) (indices : Array Nat)
    : ({ loot with gen, indices } : LootDistribution σ).Tracks fresh firstUid where
  length := tracks.length
  holds := tracks.holds
  inside := tracks.inside
  placed := tracks.placed
  next := tracks.next
  uids := tracks.uids

/-- One placement in a container that is ready. -/
theorem Tracks.place (tracks : loot.Tracks fresh firstUid)
    (containers : ∀ container ∈ fresh, container.Fresh) {k : Nat} (ready : loot.Ready k)
    (blueprintId : Nat) {quantity : Int} (some : 0 < quantity)
    : ∃ later, loot.place k blueprintId quantity = Option.some later
        ∧ later.Tracks fresh firstUid
        ∧ loot.Adds [⟨k, blueprintId, quantity, loot.nextWorldItemUid, true⟩] later := by
  have inside : k < fresh.length := tracks.length ▸ ready.1
  obtain ⟨container, here⟩ : ∃ container, loot.containers[k]? = Option.some container :=
    ⟨_, List.getElem?_eq_getElem ready.1⟩
  obtain ⟨before, there⟩ : ∃ before, fresh[k]? = Option.some before :=
    ⟨_, List.getElem?_eq_getElem inside⟩
  have room : (loot.lootOf k).length < before.inventorySlots.length :=
    Nat.lt_of_lt_of_le (length_lootOf loot k ▸ ready.2)
      (containers before (List.mem_of_getElem? there)).slots
  obtain ⟨succeeds, holds⟩ :=
    @Container.Holds.place before container (loot.lootOf k)
      (tracks.holds k before container there here)
      ⟨k, blueprintId, quantity, loot.nextWorldItemUid, true⟩ room some
  dsimp only at succeeds holds
  refine ⟨_, by rw [LootDistribution.place, here, Option.map_some], ?_, ?_⟩
  · exact
      { length := by simp [tracks.length]
        holds := fun other before' after' was is => by
          by_cases same : k = other
          · subst same
            obtain rfl := Option.some.inj (there.symm.trans was)
            rw [List.getElem?_set_self ready.1] at is
            obtain rfl := Option.some.inj is
            simpa [lootOf, succeeds] using holds
          · rw [List.getElem?_set_ne same] at is
            simpa [lootOf, same] using tracks.holds other before' after' was is
        inside := fun placement member => by
          rcases List.mem_append.mp member with earlier | new
          · exact tracks.inside placement earlier
          · obtain rfl := List.mem_singleton.mp new
            exact inside
        placed := fun placement member => by
          rcases List.mem_append.mp member with earlier | new
          · exact tracks.placed placement earlier
          · obtain rfl := List.mem_singleton.mp new
            exact succeeds
        next := by
          rw [List.length_append, List.length_singleton, tracks.next, BitVec.add_assoc,
            BitVec.ofNat_add]
          rfl
        uids := fun i placement found => by
          by_cases earlier : i < loot.placements.length
          · rw [List.getElem?_append_left earlier] at found
            exact tracks.uids i placement found
          · have here : i = loot.placements.length := by
              have inside := (List.getElem?_eq_some_iff.mp found).1
              rw [List.length_append, List.length_singleton] at inside
              omega
            subst here
            rw [List.getElem?_append_right (Nat.le_refl _), Nat.sub_self] at found
            obtain rfl := Option.some.inj found
            exact tracks.next }
  · exact ⟨by simp only [succeeds], rfl⟩

-----------------------------------------------------------------------------------------
-- The loops
-----------------------------------------------------------------------------------------

/-- A loop that places one stack for each of its items, all in different containers that are
ready, runs to its end, by induction on the items.
-/
theorem foldlM_places {β : Type} (key : β → Nat) {indices : Array Nat}
    (step : LootDistribution σ → β → Option (LootDistribution σ))
    (Stack : β → Placement → Prop) {items : List β}
    (places : ∀ (loot : LootDistribution σ), ∀ item ∈ items, loot.indices = indices →
      loot.Tracks fresh firstUid → loot.Ready (key item) →
      ∃ later placement, step loot item = some later ∧ later.Tracks fresh firstUid
        ∧ loot.Adds [placement] later ∧ placement.container = key item
        ∧ Stack item placement)
    (distinct : (items.map key).Nodup)
    (ready : ∀ item ∈ items, loot.Ready (key item)) (same : loot.indices = indices)
    (tracks : loot.Tracks fresh firstUid)
    : ∃ later added, items.foldlM step loot = some later ∧ later.Tracks fresh firstUid
        ∧ loot.Adds added later ∧ added.map (·.container) = items.map key
        ∧ List.Forall₂ Stack items added := by
  induction items generalizing loot with
  | nil => exact ⟨loot, [], rfl, tracks, .refl loot, rfl, .nil⟩
  | cons item rest ih =>
      obtain ⟨new, others⟩ := List.nodup_cons.mp distinct
      obtain ⟨middle, placement, steps, tracked, adds, here, stack⟩ :=
        places loot item List.mem_cons_self same tracks (ready item List.mem_cons_self)
      have still : ∀ other ∈ rest, middle.Ready (key other) := fun other member =>
        (ready other (List.mem_cons_of_mem item member)).of_adds adds
          (tracked.length.trans tracks.length.symm) (by
            rw [List.map_singleton, List.mem_singleton, here]
            exact fun equal => new (equal ▸ List.mem_map_of_mem member))
      obtain ⟨later, added, runs, tracked, more, keys, stacks'⟩ :=
        ih (fun loot other member => places loot other (List.mem_cons_of_mem item member))
          others still (adds.indices.trans same) tracked
      refine ⟨later, placement :: added, ?_, tracked, adds.trans more, ?_,
        .cons stack stacks'⟩
      · rw [List.foldlM_cons, steps]
        exact runs
      · rw [List.map_cons, List.map_cons, here, keys]

/-- A stack of ammunition from the pool. -/
def IsAmmo (ammoPool : List Nat) (minQty maxQty : Nat) (placement : Placement) : Prop :=
  placement.blueprintId ∈ ammoPool ∧ minQty ≤ placement.quantity
    ∧ placement.quantity ≤ maxQty

/-- `placeAmmo` places some ammunition, whatever is drawn. -/
theorem Tracks.placeAmmo (tracks : loot.Tracks fresh firstUid)
    (containers : ∀ container ∈ fresh, container.Fresh) {ammoPool : List Nat}
    (pooled : ammoPool ≠ []) {minQty maxQty : Nat} (some : 0 < minQty)
    (ordered : minQty ≤ maxQty) {k : Nat} (ready : loot.Ready k)
    : ∃ later placement, loot.placeAmmo source ammoPool minQty maxQty k = Option.some later
        ∧ later.Tracks fresh firstUid ∧ loot.Adds [placement] later
        ∧ placement.container = k ∧ IsAmmo ammoPool minQty maxQty placement := by
  have nonempty := List.length_pos_iff.mpr pooled
  obtain ⟨pick, picked, picks, -, bounded⟩ :=
    uniform_eq_some source (Nat.zero_le (ammoPool.length - 1)) loot.gen
  obtain ⟨qty, drawn, draws, low, high⟩ := uniform_eq_some source ordered picked
  have inside : pick < ammoPool.length := by omega
  have positive : (0 : Int) < qty := Int.natCast_pos.mpr (Nat.lt_of_lt_of_le some low)
  obtain ⟨later, places, tracked, adds⟩ :=
    (tracks.redraw drawn loot.indices).place containers (k := k) ready ammoPool[pick] positive
  refine ⟨later, _, ?_, tracked, ⟨adds.placements, adds.indices⟩, rfl,
    List.getElem_mem inside, Int.ofNat_le.mpr low, Int.ofNat_le.mpr high⟩
  simp only [LootDistribution.placeAmmo, picks, Option.bind_some,
    List.getElem?_eq_getElem inside, draws, places]

/-- The shuffle permutes the indices and nothing else. -/
theorem Tracks.partialShuffle (tracks : loot.Tracks fresh firstUid) {pickCount : Nat}
    (inside : pickCount ≤ loot.indices.size)
    : ∃ later, loot.partialShuffle source pickCount = some later
        ∧ later.Tracks fresh firstUid ∧ later.placements = loot.placements
        ∧ later.indices.toList.Perm loot.indices.toList := by
  obtain ⟨shuffled, drawn, shuffles, perm⟩ :=
    partialShuffle_eq_some source (by omega : 0 + pickCount ≤ loot.indices.size) loot.gen
  refine ⟨{ loot with indices := shuffled, gen := drawn }, ?_,
    tracks.redraw drawn shuffled, rfl, perm⟩
  rw [LootDistribution.partialShuffle, shuffles, Option.map_some]

/-- The blueprints of all quotas, in the order in which they are placed. -/
def equipment (quotas : List MapLootEquipQuota) : List Nat :=
  quotas.flatMap fun quota => List.replicate quota.containerCount.toNat quota.blueprintId

/-- One step of the loops over the quotas. -/
def placeEquipment (loot : LootDistribution σ) (item : Nat × Nat)
    : Option (LootDistribution σ) :=
  (loot.indices[item.2]?).bind fun k => loot.place k item.1 1

theorem fillQuota_eq (equipTotal blueprintId remaining cursor : Nat)
    (loot : LootDistribution σ)
    : loot.fillQuota equipTotal blueprintId remaining cursor
      = ((((List.replicate remaining blueprintId).take (equipTotal - cursor)).zipIdx
          cursor).foldlM placeEquipment loot).map
        fun loot => (cursor + min remaining (equipTotal - cursor), loot) := by
  induction remaining generalizing cursor loot with
  | zero => simp [fillQuota]
  | succ remaining ih =>
      by_cases more : cursor < equipTotal
      · obtain ⟨left, split⟩ : ∃ left, equipTotal - cursor = left + 1 :=
          ⟨equipTotal - (cursor + 1), by omega⟩
        have next : equipTotal - (cursor + 1) = left := by omega
        have last : ∀ m, cursor + 1 + min m left = cursor + min (m + 1) (left + 1) := by
          omega
        rw [fillQuota, if_pos more, split, List.replicate_succ, List.take_succ_cons,
          List.zipIdx_cons, List.foldlM_cons, placeEquipment]
        cases loot.indices[cursor]? with
        | none => rfl
        | some k =>
            cases placing : loot.place k blueprintId 1 with
            | none => simp [placing]
            | some placed => simp [placing, ih, next, last]
      · have none : equipTotal - cursor = 0 := by omega
        simp [fillQuota, more, none]

/-- The loops over the quotas are one loop over the equipment, by induction on the quotas. -/
theorem fillQuotas_eq (equipTotal : Nat) {quotas : List MapLootEquipQuota}
    (typed : ∀ quota ∈ quotas, ItemDataManager.getType quota.blueprintId = .weapon
      ∨ ItemDataManager.getType quota.blueprintId = .armor) (cursor : Nat)
    (loot : LootDistribution σ)
    : loot.fillQuotas equipTotal quotas cursor
      = (((equipment quotas).take (equipTotal - cursor)).zipIdx cursor).foldlM placeEquipment
          loot := by
  induction quotas generalizing cursor loot with
  | nil => simp [fillQuotas, equipment]
  | cons quota rest ih =>
      by_cases more : cursor < equipTotal
      · have worn : ¬(ItemDataManager.getType quota.blueprintId ≠ .weapon
            ∧ ItemDataManager.getType quota.blueprintId ≠ .armor) := by
          intro neither
          exact (typed quota List.mem_cons_self).elim neither.1 neither.2
        have left : equipTotal - (cursor + min quota.containerCount.toNat
              (equipTotal - cursor))
            = equipTotal - cursor - quota.containerCount.toNat := by
          omega
        have place : cursor + min (equipTotal - cursor) quota.containerCount.toNat
            = cursor + min quota.containerCount.toNat (equipTotal - cursor) := by
          rw [Nat.min_comm]
        rw [fillQuotas, if_pos more, if_neg worn, fillQuota_eq, equipment, List.flatMap_cons,
          List.take_append, List.zipIdx_append, List.foldlM_append, List.length_take,
          List.length_replicate, place, Option.bind_map]
        refine congrArg (Option.bind _) (funext fun loot => ?_)
        rw [Function.comp_apply,
          ih (fun other member => typed other (List.mem_cons_of_mem quota member)), left]
        rfl
      · have none : equipTotal - cursor = 0 := by omega
        simp [fillQuotas, more, none]

-----------------------------------------------------------------------------------------
-- The distribution
-----------------------------------------------------------------------------------------

/-- What containers get of ammunition, if there is any: each of them some, and so many of them
more.
-/
structure Ammunition (ammoPool : List Nat) (n extraCount : Nat) (base extra : List Placement)
    : Prop where
  everywhere : base.map (·.container) = if ammoPool = [] then [] else List.range n
  baseAmmo : ∀ placement ∈ base, IsAmmo ammoPool MapDataManager.TENERIFE_BASE_AMMO_MIN
    MapDataManager.TENERIFE_BASE_AMMO_MAX placement
  distinct : (extra.map (·.container)).Nodup
  count : extra.length = if ammoPool = [] then 0 else extraCount
  extraAmmo : ∀ placement ∈ extra, IsAmmo ammoPool MapDataManager.TENERIFE_EXTRA_AMMO_MIN
    MapDataManager.TENERIFE_EXTRA_AMMO_MAX placement

/-- What so many containers get of equipment: the quotas in their order, as far as it goes. -/
structure Equipment (quotas : List MapLootEquipQuota) (equipTotal : Nat)
    (equipped : List Placement)
    : Prop where
  distinct : (equipped.map (·.container)).Nodup
  blueprints : equipped.map (·.blueprintId) = (equipment quotas).take equipTotal
  single : ∀ placement ∈ equipped, placement.quantity = 1

theorem Equipment.length_le {quotas : List MapLootEquipQuota} {equipTotal : Nat}
    {equipped : List Placement} (equips : Equipment quotas equipTotal equipped)
    : equipped.length ≤ equipTotal := by
  have length := congrArg List.length equips.blueprints
  rw [List.length_map] at length
  exact length ▸ List.length_take_le equipTotal _

theorem forall_right_of_forall₂ {α β : Type} {P : β → Prop} {items : List α}
    {results : List β} (all : List.Forall₂ (fun _ result => P result) items results)
    : ∀ result ∈ results, P result := by
  induction all with
  | nil => simp
  | cons here _ ih => exact List.forall_mem_cons.mpr ⟨here, ih⟩

/-- Containers with less than three stacks are ready. -/
theorem Tracks.ready (tracks : loot.Tracks fresh firstUid) {k : Nat}
    (inside : k < fresh.length)
    (few : (loot.placements.map (·.container)).count k < 3)
    : loot.Ready k :=
  ⟨tracks.length.symm ▸ inside, few⟩

/-- The first loop, over all containers. -/
theorem Tracks.baseAmmo (tracks : loot.Tracks fresh firstUid)
    (containers : ∀ container ∈ fresh, container.Fresh) (clean : loot.placements = [])
    {ammoPool : List Nat} (pooled : ammoPool ≠ [])
    : ∃ later base, (List.range loot.containers.length).foldlM
          (LootDistribution.placeAmmo source ammoPool MapDataManager.TENERIFE_BASE_AMMO_MIN
            MapDataManager.TENERIFE_BASE_AMMO_MAX) loot = some later
        ∧ later.Tracks fresh firstUid ∧ loot.Adds base later
        ∧ base.map (·.container) = List.range fresh.length
        ∧ ∀ placement ∈ base, IsAmmo ammoPool MapDataManager.TENERIFE_BASE_AMMO_MIN
          MapDataManager.TENERIFE_BASE_AMMO_MAX placement := by
  obtain ⟨later, base, runs, tracked, adds, everywhere, ammo⟩ :=
    foldlM_places (fun k => k) _ (fun _ => IsAmmo ammoPool _ _)
      (fun _ _ _ _ tracks ready => tracks.placeAmmo source containers pooled
        (by decide : 0 < MapDataManager.TENERIFE_BASE_AMMO_MIN)
        (by decide : _ ≤ MapDataManager.TENERIFE_BASE_AMMO_MAX) ready)
      (by rw [List.map_id']; exact List.nodup_range)
      (fun k member => tracks.ready (tracks.length ▸ List.mem_range.mp member)
        (by simp [clean])) rfl tracks
  rw [List.map_id', tracks.length] at everywhere
  exact ⟨later, base, runs, tracked, adds, everywhere, forall_right_of_forall₂ ammo⟩

/-- The second loop, over the containers that the shuffled indices begin with. -/
theorem Tracks.extraAmmo (tracks : loot.Tracks fresh firstUid)
    (containers : ∀ container ∈ fresh, container.Fresh)
    (single : (loot.placements.map (·.container)).Nodup)
    {ammoPool : List Nat} (pooled : ammoPool ≠ []) {count : Nat}
    (inside : count ≤ fresh.length) (perm : loot.indices.toList.Perm (List.range count))
    {extraCount : Nat} (few : extraCount ≤ count)
    : ∃ later extra, (List.range extraCount).foldlM
          (fun loot i => (loot.indices[i]?).bind fun k =>
            loot.placeAmmo source ammoPool MapDataManager.TENERIFE_EXTRA_AMMO_MIN
              MapDataManager.TENERIFE_EXTRA_AMMO_MAX k) loot = some later
        ∧ later.Tracks fresh firstUid ∧ loot.Adds extra later
        ∧ (extra.map (·.container)).Nodup ∧ extra.length = extraCount
        ∧ ∀ placement ∈ extra, IsAmmo ammoPool MapDataManager.TENERIFE_EXTRA_AMMO_MIN
          MapDataManager.TENERIFE_EXTRA_AMMO_MAX placement := by
  obtain ⟨distinct, picks⟩ := picks_of_perm_range perm few
  obtain ⟨later, extra, runs, tracked, adds, keys, ammo⟩ :=
    foldlM_places (loot.indices.getD · 0)
      (fun loot i => (loot.indices[i]?).bind fun k =>
        loot.placeAmmo source ammoPool MapDataManager.TENERIFE_EXTRA_AMMO_MIN
          MapDataManager.TENERIFE_EXTRA_AMMO_MAX k)
      (fun _ => IsAmmo ammoPool _ _)
      (fun middle i member same tracks ready => by
        rw [same, (picks i (List.mem_range.mp member)).1, Option.bind_some]
        exact tracks.placeAmmo source containers pooled
          (by decide : 0 < MapDataManager.TENERIFE_EXTRA_AMMO_MIN)
          (by decide : _ ≤ MapDataManager.TENERIFE_EXTRA_AMMO_MAX) ready)
      distinct
      (fun i member => tracks.ready
        (Nat.lt_of_lt_of_le (picks i (List.mem_range.mp member)).2 inside)
        (Nat.lt_of_le_of_lt (List.nodup_iff_count_le_one.mp single _) (by decide)))
      rfl tracks
  refine ⟨later, extra, runs, tracked, adds, keys ▸ distinct, ?_,
    forall_right_of_forall₂ ammo⟩
  exact ammo.length_eq.symm.trans List.length_range

/-- Without ammunition or containers, nothing is placed. -/
theorem Ammunition.none {ammoPool : List Nat} {n extraCount : Nat}
    (nothing : ammoPool = [] ∨ n = 0 ∧ extraCount = 0)
    : Ammunition ammoPool n extraCount [] [] where
  everywhere := by
    rcases nothing with rfl | ⟨rfl, -⟩ <;> simp
  baseAmmo := by simp
  distinct := List.nodup_nil
  count := by
    rcases nothing with rfl | ⟨-, rfl⟩ <;> simp
  extraAmmo := by simp

/-- No container gets more than two stacks of ammunition. -/
theorem Ammunition.count_lt {ammoPool : List Nat} {n extraCount : Nat}
    {base extra : List Placement} (ammunition : Ammunition ammoPool n extraCount base extra)
    (k : Nat)
    : ((base ++ extra).map (·.container)).count k < 3 := by
  have once : (base.map (·.container)).Nodup := by
    rw [ammunition.everywhere]
    split
    · exact List.nodup_nil
    · exact List.nodup_range
  have first := List.nodup_iff_count_le_one.mp once k
  have second := List.nodup_iff_count_le_one.mp ammunition.distinct k
  rw [List.map_append, List.count_append]
  omega

theorem Ammunition.length_le {ammoPool : List Nat} {n extraCount : Nat}
    {base extra : List Placement} (ammunition : Ammunition ammoPool n extraCount base extra)
    : (base ++ extra).length ≤ n + extraCount := by
  have everywhere := congrArg List.length ammunition.everywhere
  have count := ammunition.count
  rw [List.length_map] at everywhere
  rw [List.length_append, everywhere, count]
  split
  · exact Nat.zero_le _
  · rw [List.length_range]

/-- Both loops over the ammunition. -/
theorem Tracks.distributeAmmo (tracks : loot.Tracks fresh firstUid)
    (containers : ∀ container ∈ fresh, container.Fresh) (clean : loot.placements = [])
    {ammoPool : List Nat} (pooled : ammoPool ≠ []) {count : Nat} (inside : count ≤ fresh.length)
    (perm : loot.indices.toList.Perm (List.range count)) {extraCount : Nat}
    (few : extraCount ≤ count)
    : ∃ later base extra, loot.distributeAmmo source ammoPool extraCount = some later
        ∧ later.Tracks fresh firstUid ∧ later.placements = base ++ extra
        ∧ later.indices.toList.Perm (List.range count)
        ∧ Ammunition ammoPool fresh.length extraCount base extra := by
  obtain ⟨first, base, bases, tracked, adds, everywhere, baseAmmo⟩ :=
    tracks.baseAmmo source containers clean pooled
  have size : extraCount ≤ first.indices.size := by
    rw [adds.indices, ← Array.length_toList, perm.length_eq, List.length_range]
    exact few
  obtain ⟨second, shuffles, tracked, same, shuffled⟩ := tracked.partialShuffle source size
  have permuted : second.indices.toList.Perm (List.range count) :=
    shuffled.trans (adds.indices ▸ perm)
  have placed : second.placements = base := by
    rw [same, adds.placements, clean, List.nil_append]
  obtain ⟨later, extra, extras, tracked, more, distinct, length, extraAmmo⟩ :=
    tracked.extraAmmo source containers
      (placed ▸ everywhere ▸ List.nodup_range) pooled inside permuted few
  refine ⟨later, base, extra, ?_, tracked, by rw [more.placements, placed],
    more.indices ▸ permuted, by rw [if_neg pooled, everywhere], baseAmmo, distinct,
    by rw [if_neg pooled, length], extraAmmo⟩
  simp only [LootDistribution.distributeAmmo, bases, Option.bind_some, shuffles, extras]

/-- All ammunition, if there is any. -/
theorem Tracks.supply (tracks : loot.Tracks fresh firstUid)
    (containers : ∀ container ∈ fresh, container.Fresh) (clean : loot.placements = [])
    (ammoPool : List Nat) {count : Nat} (inside : count ≤ fresh.length)
    (perm : loot.indices.toList.Perm (List.range count))
    : ∃ later base extra,
        (if ammoPool.isEmpty then some loot
          else
            loot.distributeAmmo source ammoPool
              (min MapDataManager.TENERIFE_EXTRA_AMMO_CONTAINERS count)) = some later
        ∧ later.Tracks fresh firstUid ∧ later.placements = base ++ extra
        ∧ later.indices.toList.Perm (List.range count)
        ∧ Ammunition ammoPool fresh.length
          (min MapDataManager.TENERIFE_EXTRA_AMMO_CONTAINERS count) base extra := by
  by_cases empty : ammoPool = []
  · exact ⟨loot, [], [], by simp [empty], tracks, clean, perm, .none (.inl empty)⟩
  · rw [if_neg (by simpa using empty)]
    exact tracks.distributeAmmo source containers clean empty inside perm
      (Nat.min_le_right _ _)

/-- The loops over the quotas, when no container has more than two stacks. -/
theorem Tracks.distributeEquipment (tracks : loot.Tracks fresh firstUid)
    (containers : ∀ container ∈ fresh, container.Fresh)
    (few : ∀ k, (loot.placements.map (·.container)).count k < 3)
    {quotas : List MapLootEquipQuota}
    (typed : ∀ quota ∈ quotas, ItemDataManager.getType quota.blueprintId = .weapon
      ∨ ItemDataManager.getType quota.blueprintId = .armor)
    {count : Nat} (inside : count ≤ fresh.length)
    (perm : loot.indices.toList.Perm (List.range count))
    : ∃ later equipped, loot.distributeEquipment source quotas count = some later
        ∧ later.Tracks fresh firstUid ∧ later.placements = loot.placements ++ equipped
        ∧ later.indices.toList.Perm (List.range count)
        ∧ Equipment quotas (min (quotaTotal quotas).toNat count) equipped := by
  have most : min (quotaTotal quotas).toNat count ≤ count := Nat.min_le_right _ _
  have size : min (quotaTotal quotas).toNat count ≤ loot.indices.size := by
    rw [← Array.length_toList, perm.length_eq, List.length_range]
    exact most
  obtain ⟨second, shuffles, tracked, same, shuffled⟩ := tracks.partialShuffle source size
  have permuted : second.indices.toList.Perm (List.range count) := shuffled.trans perm
  generalize total : min (quotaTotal quotas).toNat count = equipTotal at *
  let blueprints := (equipment quotas).take equipTotal
  have shorter : blueprints.length ≤ count :=
    Nat.le_trans (List.length_take_le equipTotal _) most
  obtain ⟨distinct, picks⟩ := picks_of_perm_range permuted shorter
  have early : ∀ item ∈ blueprints.zipIdx, item.2 < blueprints.length := fun item member => by
    simpa using List.snd_lt_of_mem_zipIdx member
  have keys : blueprints.zipIdx.map (fun item => second.indices.getD item.2 0)
      = (List.range blueprints.length).map (second.indices.getD · 0) := by
    rw [List.range_eq_range', ← List.zipIdx_map_snd, List.map_map]
    rfl
  obtain ⟨later, equipped, runs, tracked, adds, places, all⟩ :=
    foldlM_places (fun item : Nat × Nat => second.indices.getD item.2 0) placeEquipment
      (fun item placement => placement.blueprintId = item.1 ∧ placement.quantity = 1)
      (fun middle item (member : item ∈ blueprints.zipIdx) same tracks ready => by
        obtain ⟨later, places, tracked, adds⟩ :=
          tracks.place containers ready item.1 Int.one_pos
        refine ⟨later, _, ?_, tracked, adds, rfl, rfl, rfl⟩
        rw [placeEquipment, same, (picks item.2 (early item member)).1, Option.bind_some]
        exact places)
      (keys ▸ distinct)
      (fun item member => tracked.ready
        (Nat.lt_of_lt_of_le (picks item.2 (early item member)).2 inside)
        (same ▸ few _))
      rfl tracked
  refine ⟨later, equipped, ?_, tracked, by rw [adds.placements, same],
    adds.indices ▸ permuted, ?_, ?_, forall_right_of_forall₂ (all.imp fun _ _ h => h.2)⟩
  · simp only [LootDistribution.distributeEquipment, total, shuffles, Option.bind_some,
      fillQuotas_eq _ typed, Nat.sub_zero]
    exact runs
  · rw [places, keys]
    exact distinct
  · have named : List.Forall₂ (· = ·) (blueprints.zipIdx.map Prod.fst)
        (equipped.map (·.blueprintId)) :=
      List.forall₂_map_left_iff.mpr
        (List.forall₂_map_right_iff.mpr (all.imp fun _ _ stack => stack.1.symm))
    rw [List.forall₂_eq_eq_eq, List.zipIdx_map_fst] at named
    exact named.symm

/-- All equipment, if there is any. -/
theorem Tracks.equip (tracks : loot.Tracks fresh firstUid)
    (containers : ∀ container ∈ fresh, container.Fresh)
    (few : ∀ k, (loot.placements.map (·.container)).count k < 3)
    {quotas : List MapLootEquipQuota}
    (typed : ∀ quota ∈ quotas, ItemDataManager.getType quota.blueprintId = .weapon
      ∨ ItemDataManager.getType quota.blueprintId = .armor)
    {count : Nat} (inside : count ≤ fresh.length)
    (perm : loot.indices.toList.Perm (List.range count))
    : ∃ later equipped,
        (if quotas.isEmpty then some loot else loot.distributeEquipment source quotas count)
          = some later
        ∧ later.Tracks fresh firstUid ∧ later.placements = loot.placements ++ equipped
        ∧ later.indices.toList.Perm (List.range count)
        ∧ Equipment quotas (min (quotaTotal quotas).toNat count) equipped := by
  cases quotas with
  | nil =>
      exact ⟨loot, [], rfl, tracks, (List.append_nil _).symm, perm, List.nodup_nil, rfl,
        by simp⟩
  | cons quota rest => exact tracks.distributeEquipment source containers few typed inside perm

theorem foldl_containerCount (quotas : List MapLootEquipQuota) (total : BitVec 32)
    : (quotas.foldl (fun total quota => total + quota.containerCount) total).toNat
      = (total.toNat + (quotas.map (·.containerCount.toNat)).sum) % 2 ^ 32 := by
  induction quotas generalizing total with
  | nil => simp [Nat.mod_eq_of_lt total.isLt]
  | cons quota rest ih =>
      simp only [List.foldl_cons, ih, BitVec.toNat_add, List.map_cons, List.sum_cons,
        Nat.mod_add_mod, Nat.add_assoc]

theorem quotaTotal_toNat (quotas : List MapLootEquipQuota)
    : (quotaTotal quotas).toNat
      = (quotas.map (·.containerCount.toNat)).sum % 2 ^ 32 := by
  simpa [quotaTotal] using foldl_containerCount quotas 0

/-- The items are numbered one after the other, so that their numbers are distinct. -/
theorem Tracks.nodup_uids (tracks : loot.Tracks fresh firstUid)
    (few : loot.placements.length ≤ 2 ^ 64)
    : (loot.placements.map (·.instanceUid)).Nodup := by
  have numbered : loot.placements.map (·.instanceUid)
      = (List.range loot.placements.length).map fun i => firstUid + BitVec.ofNat 64 i := by
    apply List.ext_getElem (by simp)
    intro i inside _
    rw [List.length_map] at inside
    rw [List.getElem_map, List.getElem_map, List.getElem_range]
    exact tracks.uids i _ (List.getElem?_eq_getElem inside)
  rw [numbered]
  apply List.nodup_range.map_on
  intro i hi j hj same
  have equal : (BitVec.ofNat 64 i).toNat = (BitVec.ofNat 64 j).toNat :=
    congrArg BitVec.toNat ((BitVec.add_right_inj firstUid).mp same)
  rw [List.mem_range] at hi hj
  rwa [BitVec.toNat_ofNat, BitVec.toNat_ofNat, Nat.mod_eq_of_lt (by omega),
    Nat.mod_eq_of_lt (by omega)] at equal

/-- What the whole distribution leaves. -/
structure Distributed (fresh : List Container) (firstUid : BitVec 64) (ammoPool : List Nat)
    (quotas : List MapLootEquipQuota) (later : LootDistribution σ)
    : Prop where
  indices : later.indices.toList.Perm (List.range (fresh.length % 2 ^ 32))
  tracks : later.Tracks fresh firstUid
  distinct : (later.placements.map (·.instanceUid)).Nodup
  parts : ∃ base extra equipped, later.placements = base ++ extra ++ equipped
    ∧ Ammunition ammoPool fresh.length
        (min MapDataManager.TENERIFE_EXTRA_AMMO_CONTAINERS (fresh.length % 2 ^ 32)) base extra
    ∧ Equipment quotas
        (min ((quotas.map (·.containerCount.toNat)).sum % 2 ^ 32) (fresh.length % 2 ^ 32))
        equipped

theorem Tracks.initial (gen : σ) (indices : Array Nat) (firstUid : BitVec 64)
    (containers : ∀ container ∈ fresh, container.Fresh)
    : Tracks fresh firstUid
        ({ gen, indices, containers := fresh, nextWorldItemUid := firstUid }
          : LootDistribution σ) where
  length := rfl
  holds k before after was is := by
    obtain rfl := Option.some.inj (was.symm.trans is)
    exact (containers before (List.mem_of_getElem? was)).holds
  inside := by simp
  placed := by simp
  next := by simp
  uids := by simp

/-- However the generator draws, the loot is distributed as the tables say. -/
theorem distributeLoot_exact (source : Source σ) (gen : σ) {ammoPool : List Nat}
    (ammo : ∀ id ∈ ammoPool, ItemDataManager.getType id = .ammo)
    {quotas : List MapLootEquipQuota}
    (typed : ∀ quota ∈ quotas, ItemDataManager.getType quota.blueprintId = .weapon
      ∨ ItemDataManager.getType quota.blueprintId = .armor)
    {containers : List Container} (few : containers.length < 2 ^ 60)
    (fresh : ∀ container ∈ containers, container.Fresh) (firstUid : BitVec 64)
    : ∃ later,
        ({ gen, containers, nextWorldItemUid := firstUid } : LootDistribution σ).distributeLoot
          source ammoPool quotas = some later
        ∧ later.Distributed containers firstUid ammoPool quotas := by
  by_cases empty : containers = []
  · subst empty
    exact ⟨_, rfl, by simp, .initial gen #[] firstUid fresh, List.nodup_nil, [], [], [], rfl,
      .none (.inr ⟨rfl, rfl⟩), List.nodup_nil, by simp, by simp⟩
  let count := containers.length % 2 ^ 32
  have inside : count ≤ containers.length := Nat.mod_le _ _
  have pool : (ammoPool.filter fun id => ItemDataManager.getType id == .ammo) = ammoPool :=
    List.filter_eq_self.mpr fun id member => by simp [ammo id member]
  have size : (Array.range count).toList.Perm (List.range count) := by simp
  obtain ⟨middle, base, extra, supplies, tracks, placed, perm, ammunition⟩ :=
    (Tracks.initial gen (Array.range count) firstUid fresh).supply source fresh rfl ammoPool
      inside size
  obtain ⟨later, equipped, equips, tracked, more, permuted, equipment⟩ :=
    tracks.equip source fresh (placed ▸ ammunition.count_lt) typed inside perm
  have total : later.placements = base ++ extra ++ equipped := by rw [more, placed]
  have sum : min (quotaTotal quotas).toNat count
      = min ((quotas.map (·.containerCount.toNat)).sum % 2 ^ 32) count := by
    rw [quotaTotal_toNat]
  refine ⟨later, ?_, permuted, tracked, tracked.nodup_uids ?_, base, extra, equipped, total,
    ammunition, sum ▸ equipment⟩
  · rw [distributeLoot, if_neg (by simpa using empty)]
    simp only [pool]
    exact (congrArg (Option.bind · _) supplies).trans equips
  · have supplied := ammunition.length_le
    have worn := equipment.length_le
    have small : count < 2 ^ 32 := Nat.mod_lt _ (by decide)
    have extra : min MapDataManager.TENERIFE_EXTRA_AMMO_CONTAINERS count ≤ 20 :=
      Nat.min_le_left _ _
    rw [total, List.length_append]
    omega

/-- Two cars, one kind of ammunition, a rifle for each of them and a vest for none. -/
theorem distributeLoot_exact_twoCars
    : ∃ later,
        ({ gen := (), containers := List.replicate 2 (.ofVolume
            { objectId := 7, objectType := .tenerifeBlueCar }
            Container.DEFAULT_CONTAINER_VOLUME), nextWorldItemUid := 1 }
          : LootDistribution Unit).distributeLoot lowest [5] [⟨1, 2⟩, ⟨4, 1⟩] = some later
        ∧ later.Distributed (List.replicate 2 (.ofVolume
            { objectId := 7, objectType := .tenerifeBlueCar }
            Container.DEFAULT_CONTAINER_VOLUME)) 1 [5] [⟨1, 2⟩, ⟨4, 1⟩] :=
  distributeLoot_exact lowest () (by decide) (by decide) (by simp)
    (fun _ member => List.eq_of_mem_replicate member ▸ Container.ofVolume_fresh _ (by decide)) 1

/-- The quotas of two weapons that add up to zero, as 32 bits, leave a container without any
equipment.
-/
theorem distributeLoot_overflow
    : ∃ (quotas : List MapLootEquipQuota) (container : Container)
        (later : LootDistribution Unit),
        (∀ quota ∈ quotas, ItemDataManager.getType quota.blueprintId = .weapon)
        ∧ container.Fresh
        ∧ ({ gen := (), containers := [container], nextWorldItemUid := 1 }
            : LootDistribution Unit).distributeLoot lowest [] quotas = some later
        ∧ later.placements = []
        ∧ min (quotas.map (·.containerCount.toNat)).sum [container].length = 1 :=
  ⟨[⟨1, BitVec.allOnes 32⟩, ⟨2, 1⟩],
    .ofVolume { objectId := 7, objectType := .tenerifeBlueCar } 3, _, by decide,
    Container.ofVolume_fresh _ (Nat.le_refl 3), rfl, rfl, by decide⟩

end LootDistribution

end ExtractionServer.Room
