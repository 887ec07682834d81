import ExtractionServer.Library.JavaScript
import ExtractionServer.Library.Ledger
import ExtractionServer.Library.Table
import Mathlib.Data.List.Induction

/-! The snapshot of an inventory that a client sends: the checks of its form, and the comparison
of its totals with the rows of the database.
-/

namespace ExtractionServer.Lobby

open JavaScript (Value Number exactBound)

-----------------------------------------------------------------------------------------
-- Slots and items
-----------------------------------------------------------------------------------------

def WAREHOUSE_SLOT_MIN : Int := 0
def WAREHOUSE_SLOT_MAX : Int := 79
def INVENTORY_SLOT_MIN : Int := 80
def LOADOUT_SLOT_MIN : Int := 105
def LOADOUT_SLOT_MAX : Int := 107

/-- An entry of a snapshot, and a row of `user_inventory` without its account. -/
structure InventoryItem where
  itemId : Int
  slotIndex : Int
  quantity : Int
deriving DecidableEq, Repr

/-- The `error` of an answer. -/
structure ResponseError where
  message : String
  code : Option String := none
deriving DecidableEq, Repr

/-- The status codes of errors. -/
inductive ErrorStatus where
  | badRequest
  | paymentRequired
  | forbidden
  | notFound
  | conflict
  | internalServerError
deriving DecidableEq, Repr

def ErrorStatus.code : ErrorStatus → Nat
  | .badRequest => 400
  | .paymentRequired => 402
  | .forbidden => 403
  | .notFound => 404
  | .conflict => 409
  | .internalServerError => 500

theorem ErrorStatus.code_ne_ok (status : ErrorStatus) : status.code ≠ 200 := by
  cases status <;> decide

/-- Why a handler stops: it answers with an error, or an exception is thrown. -/
inductive Stop where
  | answer (status : ErrorStatus) (error : ResponseError)
  | thrown
deriving DecidableEq, Repr

namespace InventoryItem

/-- The conditions on the numbers of an entry. -/
def WellFormed (item : InventoryItem) : Prop :=
  0 < item.itemId
  ∧ WAREHOUSE_SLOT_MIN ≤ item.slotIndex ∧ item.slotIndex ≤ LOADOUT_SLOT_MAX
  ∧ 1 ≤ item.quantity

instance (item : InventoryItem) : Decidable item.WellFormed :=
  inferInstanceAs (Decidable (_ ∧ _))

/-- What the item books under its id. -/
def booking (item : InventoryItem) : Int × Int := (item.itemId, item.quantity)

/-- The numbers of an entry, if all three are integers. -/
def read (entry : Value) : Option InventoryItem :=
  match Value.integer? (entry.get "item_id"), Value.integer? (entry.get "slot_index"),
    Value.integer? (entry.get "quantity") with
  | some itemId, some slotIndex, some quantity => some { itemId, slotIndex, quantity }
  | _, _, _ => none

end InventoryItem

/-- The quantity of an item in a list. -/
def totalOf (items : List InventoryItem) (itemId : Int) : Int :=
  Ledger.amount (items.map InventoryItem.booking) itemId

-----------------------------------------------------------------------------------------
-- Snapshots
-----------------------------------------------------------------------------------------

/-- The entries of a snapshot that passes the checks, in their order. -/
structure Snapshot where
  items : List InventoryItem
  wellFormed : ∀ item ∈ items, item.WellFormed
  slots : (items.map (·.slotIndex)).Nodup

namespace Snapshot

def empty : Snapshot := ⟨[], fun _ mem => absurd mem List.not_mem_nil, List.nodup_nil⟩

/-- `slots.has`. -/
def has (snapshot : Snapshot) (slotIndex : Int) : Bool :=
  snapshot.items.any (·.slotIndex == slotIndex)

theorem has_eq_false {snapshot : Snapshot} {slotIndex : Int}
    : snapshot.has slotIndex = false ↔ slotIndex ∉ snapshot.items.map (·.slotIndex) := by
  simp only [has, List.any_eq_false, beq_iff_eq, List.mem_map, not_exists, not_and]

theorem wellFormed_append (snapshot : Snapshot) {item : InventoryItem}
    (wellFormed : item.WellFormed)
    : ∀ other ∈ snapshot.items ++ [item], other.WellFormed := by
  intro other mem
  rcases List.mem_append.mp mem with mem | mem
  · exact snapshot.wellFormed other mem
  · rw [List.mem_singleton.mp mem]
    exact wellFormed

theorem slots_append (snapshot : Snapshot) {item : InventoryItem}
    (free : snapshot.has item.slotIndex = false)
    : ((snapshot.items ++ [item]).map (·.slotIndex)).Nodup := by
  rw [List.map_append]
  exact snapshot.slots.append (List.nodup_singleton _)
    (List.disjoint_singleton.mpr (has_eq_false.mp free))

/-- `slots.set`, for a slot that is free. -/
def set (snapshot : Snapshot) (item : InventoryItem) (wellFormed : item.WellFormed)
    (free : snapshot.has item.slotIndex = false)
    : Snapshot :=
  ⟨snapshot.items ++ [item], snapshot.wellFormed_append wellFormed, snapshot.slots_append free⟩

end Snapshot

def badSnapshot : Stop :=
  .answer .badRequest { message := "인벤토리 스냅샷 형식이 올바르지 않습니다.", code := some "ERR_BAD_REQUEST" }

def duplicateSlot : Stop :=
  .answer .badRequest { message := "스냅샷에 중복된 슬롯이 있습니다.", code := some "ERR_DUPLICATE_SLOT" }

/-- The loop of `validateSnapshot`. Reading a property of `null` throws. -/
def validateEntries (snapshot : Snapshot) : List Value → Except Stop Snapshot
  | [] => .ok snapshot
  | .null :: _ => .error .thrown
  | entry :: rest =>
      match InventoryItem.read entry with
      | none => .error badSnapshot
      | some item =>
          if wellFormed : item.WellFormed then
            if free : snapshot.has item.slotIndex = false then
              validateEntries (snapshot.set item wellFormed free) rest
            else .error duplicateSlot
          else .error badSnapshot

def validateSnapshot (inventory : List Value) : Except Stop Snapshot :=
  validateEntries .empty inventory

-----------------------------------------------------------------------------------------
-- Totals
-----------------------------------------------------------------------------------------

/-- One iteration of the loops of `totalsMatch`. -/
def addTotal (totals : Table Int Number) (item : InventoryItem) : Table Int Number :=
  totals.insert item.itemId
    (((totals.lookup item.itemId).getD (.finite 0)).add (.finite item.quantity))

def totals (items : List InventoryItem) : Table Int Number :=
  items.foldl addTotal ∅

def totalsMatch (dbRows inventory : List InventoryItem) : Bool :=
  let dbTotals := totals dbRows
  let snapTotals := totals inventory
  dbTotals.keys.length == snapTotals.keys.length
    && dbTotals.entries.all fun entry =>
      (snapTotals.lookup entry.1).any (·.strictEquals entry.2)

theorem strictEquals_iff {total other : Number}
    : total.strictEquals other = true ↔ total = other ∧ total ≠ .notANumber := by
  simp [Number.strictEquals]

/-- As many totals, and each one of the rows again, as a number that equals itself. -/
theorem totalsMatch_iff {rows items : List InventoryItem}
    : totalsMatch rows items = true
      ↔ (totals rows).keys.length = (totals items).keys.length
        ∧ ∀ itemId total, (totals rows).lookup itemId = some total →
          (totals items).lookup itemId = some total ∧ total ≠ .notANumber := by
  simp only [totalsMatch, Bool.and_eq_true, beq_iff_eq, List.all_eq_true, Option.any_eq_true,
    strictEquals_iff]
  refine and_congr_right fun _ => ⟨fun each itemId total found => ?_, fun each entry mem => ?_⟩
  · obtain ⟨other, same, rfl, number⟩ :=
      each ⟨itemId, total⟩ (AList.mem_lookup_iff.mp found)
    exact ⟨same, number⟩
  · obtain ⟨same, number⟩ := each entry.1 entry.2 (AList.mem_lookup_iff.mpr mem)
    exact ⟨entry.2, same, rfl, number⟩

theorem totalOf_append (items : List InventoryItem) (item : InventoryItem) (itemId : Int)
    : totalOf (items ++ [item]) itemId
      = totalOf items itemId + if item.itemId = itemId then item.quantity else 0 := by
  rw [totalOf, List.map_append, Ledger.amount_append, List.map_singleton,
    Ledger.amount_singleton]
  rfl

/-- How the computed totals follow the exact ones: whatever relation holds of zero, lasts, and
survives an addition relates them, by induction on the items from their end.
-/
theorem totals_follow (Follows : Nat → Number → Int → Prop)
    (zero : ∀ n, Follows n (.finite 0) 0)
    (lasts : ∀ n computed exact, Follows n computed exact → Follows (n + 1) computed exact)
    (items : List InventoryItem)
    (adds : ∀ item ∈ items, ∀ n computed exact, Follows n computed exact →
      Follows (n + 1) (computed.add (.finite item.quantity)) (exact + item.quantity))
    (itemId : Int)
    : Follows items.length (((totals items).lookup itemId).getD (.finite 0))
        (totalOf items itemId)
      ∧ (itemId ∈ totals items ↔ itemId ∈ items.map (·.itemId)) := by
  induction items using List.reverseRecOn with
  | nil =>
      refine ⟨zero 0, ?_⟩
      simp only [List.map_nil, List.not_mem_nil, iff_false]
      exact AList.notMem_empty itemId
  | append_singleton items item ih =>
      obtain ⟨follows, keys⟩ := ih fun other mem => adds other (List.mem_append_left _ mem)
      have last : totals (items ++ [item]) = addTotal (totals items) item := by
        simp [totals]
      rw [last, totalOf_append, List.length_append, List.length_singleton]
      by_cases same : itemId = item.itemId
      · subst same
        simp only [addTotal, AList.lookup_insert, Option.getD_some, if_true]
        refine ⟨adds item (List.mem_append_right _ (List.mem_singleton_self item)) _ _ _
          follows, ?_⟩
        simp [AList.mem_insert]
      · simp only [addTotal, AList.lookup_insert_ne same, if_neg (Ne.symm same), add_zero]
        refine ⟨lasts _ _ _ follows, ?_⟩
        simp only [AList.mem_insert, same, false_or, keys, List.map_append,
          List.mem_append, List.map_singleton, List.mem_singleton, or_false]

/-- The totals have exactly the ids of the items. -/
theorem mem_totals {items : List InventoryItem} {itemId : Int}
    : itemId ∈ totals items ↔ itemId ∈ items.map (·.itemId) :=
  (totals_follow (fun _ _ _ => True) (fun _ => trivial) (fun _ _ _ _ => trivial) items
    (fun _ _ _ _ _ _ => trivial) itemId).2

/-- The totals of few rows with 32-bit quantities are exact. -/
theorem lookup_totals_rows {rows : List InventoryItem} (few : rows.length ≤ 2 ^ 20)
    (small : ∀ row ∈ rows, -2 ^ 31 ≤ row.quantity ∧ row.quantity < 2 ^ 31) (itemId : Int)
    : ((totals rows).lookup itemId).getD (.finite 0) = .finite (totalOf rows itemId)
      ∧ totalOf rows itemId < exactBound := by
  have follows := (totals_follow
    (fun n computed exact => n ≤ 2 ^ 20 →
      computed = .finite exact ∧ -(n * 2 ^ 31 : Int) ≤ exact ∧ exact ≤ n * 2 ^ 31)
    (fun n _ => ⟨rfl, by omega, by omega⟩)
    (fun n computed exact h bound => by
      obtain ⟨same, lower, upper⟩ := h (by omega)
      refine ⟨same, ?_, ?_⟩ <;> push_cast <;> omega)
    rows
    (fun row mem n computed exact h bound => by
      obtain ⟨rfl, lower, upper⟩ := h (by omega)
      obtain ⟨low, high⟩ := small row mem
      refine ⟨Number.add_finite ?_ ?_, ?_, ?_⟩
      · simp only [exactBound]
        omega
      · simp only [exactBound]
        omega
      · push_cast
        omega
      · push_cast
        omega)
    itemId).1 few
  obtain ⟨same, _, upper⟩ := follows
  refine ⟨same, ?_⟩
  simp only [exactBound]
  omega

/-- The totals of positive quantities are exact or, like the exact ones, beyond the bound. -/
theorem lookup_totals_positive {items : List InventoryItem}
    (positive : ∀ item ∈ items, 1 ≤ item.quantity) (itemId : Int)
    : ((totals items).lookup itemId).getD (.finite 0) = .finite (totalOf items itemId)
      ∨ Number.AtLeast exactBound (((totals items).lookup itemId).getD (.finite 0))
        ∧ (exactBound : Int) ≤ totalOf items itemId := by
  have follows := (totals_follow
    (fun _ computed exact => 0 ≤ exact
      ∧ (computed = .finite exact
        ∨ Number.AtLeast exactBound computed ∧ (exactBound : Int) ≤ exact))
    (fun _ => ⟨le_rfl, .inl rfl⟩) (fun _ _ _ h => h) items
    (fun item mem _ computed exact h => by
      have more := positive item mem
      obtain ⟨nonneg, exactSum | ⟨above, large⟩⟩ := h
      · subst exactSum
        refine ⟨by omega, ?_⟩
        by_cases small : exact + item.quantity ≤ exactBound
        · exact .inl (Number.add_finite (by simp only [exactBound] at small ⊢; omega) small)
        · exact .inr ⟨Number.atLeast_ofInt (by omega), by omega⟩
      · exact ⟨by omega, .inr ⟨above.add (by omega), by omega⟩⟩)
    itemId).1
  exact follows.2

/-- The total of positive quantities is positive exactly for the ids that occur, by induction
on the items.
-/
theorem totalOf_pos_iff {items : List InventoryItem}
    (positive : ∀ item ∈ items, 1 ≤ item.quantity) (itemId : Int)
    : 0 ≤ totalOf items itemId
      ∧ (0 < totalOf items itemId ↔ itemId ∈ items.map (·.itemId)) := by
  induction items using List.reverseRecOn with
  | nil => simp [totalOf, Ledger.amount]
  | append_singleton items item ih =>
      obtain ⟨nonneg, occurs⟩ := ih fun other mem => positive other (List.mem_append_left _ mem)
      have more := positive item (List.mem_append_right _ (List.mem_singleton_self item))
      rw [totalOf_append]
      by_cases same : item.itemId = itemId
      · simp only [same, if_true, List.map_append, List.map_singleton, List.mem_append,
          List.mem_singleton, or_true, iff_true]
        omega
      · simp only [if_neg same, add_zero, List.map_append, List.map_singleton, List.mem_append,
          List.mem_singleton, Ne.symm same, or_false]
        exact ⟨nonneg, occurs⟩

/-- Totals that match are the same for every item. The rounding of sums cannot make a large
total of a snapshot match, for the totals of the rows are small.
-/
theorem totalOf_eq_of_totalsMatch {rows items : List InventoryItem}
    (few : rows.length ≤ 2 ^ 20)
    (small : ∀ row ∈ rows, -2 ^ 31 ≤ row.quantity ∧ row.quantity < 2 ^ 31)
    (positive : ∀ item ∈ items, 1 ≤ item.quantity) (matching : totalsMatch rows items = true)
    (itemId : Int)
    : totalOf items itemId = totalOf rows itemId := by
  obtain ⟨sizes, values⟩ := totalsMatch_iff.mp matching
  have sub : (totals rows).keys ⊆ (totals items).keys := by
    intro key mem
    obtain ⟨total, found⟩ := Table.exists_lookup_of_mem (AList.mem_keys.mpr mem)
    exact AList.mem_keys.mp (Table.mem_of_lookup (values key total found).1)
  have keys := (List.subperm_of_subset (AList.keys_nodup _) sub).perm_of_length_le
    (le_of_eq sizes.symm)
  have same : ((totals items).lookup itemId).getD (.finite 0)
      = ((totals rows).lookup itemId).getD (.finite 0) := by
    by_cases known : itemId ∈ (totals rows).keys
    · obtain ⟨total, found⟩ := Table.exists_lookup_of_mem (AList.mem_keys.mpr known)
      rw [found, (values itemId total found).1]
    · have absent : itemId ∉ (totals items).keys := fun mem => known (keys.mem_iff.mpr mem)
      rw [AList.lookup_eq_none.mpr known, AList.lookup_eq_none.mpr absent]
  obtain ⟨exactRows, bound⟩ := lookup_totals_rows few small itemId
  rcases lookup_totals_positive positive itemId with exactItems | ⟨above, _⟩
  · exact Number.finite.inj (exactItems.symm.trans (same.trans exactRows))
  · rw [same, exactRows] at above
    exact absurd above (Number.not_atLeast_finite bound)

/-- Equal totals match. A total of the rows is too small to be rounded, and so is the equal
one of the snapshot.
-/
theorem totalsMatch_of_totalOf_eq {rows items : List InventoryItem}
    (few : rows.length ≤ 2 ^ 20)
    (small : ∀ row ∈ rows, 1 ≤ row.quantity ∧ row.quantity < 2 ^ 31)
    (positive : ∀ item ∈ items, 1 ≤ item.quantity)
    (same : ∀ itemId, totalOf items itemId = totalOf rows itemId)
    : totalsMatch rows items = true := by
  have occurs (itemId : Int) : itemId ∈ totals rows ↔ itemId ∈ totals items := by
    rw [mem_totals, mem_totals, ← (totalOf_pos_iff positive itemId).2, same,
      (totalOf_pos_iff (fun row mem => (small row mem).1) itemId).2]
  have perm : (totals rows).keys.Perm (totals items).keys :=
    (List.perm_ext_iff_of_nodup (AList.keys_nodup _) (AList.keys_nodup _)).mpr fun itemId => by
      rw [← AList.mem_keys, ← AList.mem_keys, occurs]
  refine totalsMatch_iff.mpr ⟨perm.length_eq, fun itemId total found => ?_⟩
  obtain ⟨exactRows, bound⟩ := lookup_totals_rows few
    (fun row mem => ⟨by have := (small row mem).1; omega, (small row mem).2⟩) itemId
  obtain ⟨other, known⟩ :=
    Table.exists_lookup_of_mem ((occurs itemId).mp (Table.mem_of_lookup found))
  rw [found, Option.getD_some] at exactRows
  have exactItems := (lookup_totals_positive positive itemId).resolve_right fun large => by
    rw [same] at large
    omega
  rw [known, Option.getD_some, same] at exactItems
  rw [known, exactItems, exactRows]
  exact ⟨rfl, by simp⟩

-----------------------------------------------------------------------------------------
-- What passes
-----------------------------------------------------------------------------------------

theorem validateEntries_cons {entry : Value} {rest : List Value}
    {snapshot result : Snapshot}
    : validateEntries snapshot (entry :: rest) = .ok result
      ↔ ∃ item, InventoryItem.read entry = some item
        ∧ ∃ (wellFormed : item.WellFormed) (free : snapshot.has item.slotIndex = false),
          validateEntries (snapshot.set item wellFormed free) rest = .ok result := by
  by_cases isNull : entry = .null
  · subst isNull
    simp [validateEntries, InventoryItem.read, Value.get, Value.integer?]
  · rw [validateEntries.eq_3 _ _ _ isNull]
    cases read : InventoryItem.read entry with
    | none => simp
    | some item =>
        by_cases wellFormed : item.WellFormed
        · by_cases free : snapshot.has item.slotIndex = false
          · simp [wellFormed, free]
          · simp [wellFormed, free]
        · simp [wellFormed]

/-- The loop accepts the rest of a list exactly when it reads as items that a snapshot can
have behind those it has already, by induction on the entries.
-/
theorem validateEntries_eq_ok {inventory : List Value} {snapshot result : Snapshot}
    : validateEntries snapshot inventory = .ok result
      ↔ ∃ items, inventory.map InventoryItem.read = items.map some
        ∧ result.items = snapshot.items ++ items := by
  induction inventory generalizing snapshot with
  | nil =>
      simp only [validateEntries, List.map_nil, Except.ok.injEq]
      constructor
      · rintro rfl
        exact ⟨[], rfl, (List.append_nil _).symm⟩
      · rintro ⟨items, none, same⟩
        obtain rfl := List.map_eq_nil_iff.mp none.symm
        rw [List.append_nil] at same
        cases snapshot
        cases result
        cases same
        rfl
  | cons entry rest ih =>
      rw [validateEntries_cons]
      constructor
      · rintro ⟨item, read, wellFormed, free, later⟩
        obtain ⟨items, reads, same⟩ := ih.mp later
        refine ⟨item :: items, by simp [read, reads], ?_⟩
        simpa [Snapshot.set] using same
      · rintro ⟨items, reads, same⟩
        cases items with
        | nil => simp at reads
        | cons item items =>
            obtain ⟨read, reads⟩ := List.cons.inj reads
            have occurs : item ∈ result.items := by simp [same]
            have nodup := result.slots
            rw [same, List.map_append, List.map_cons] at nodup
            have free : snapshot.has item.slotIndex = false :=
              Snapshot.has_eq_false.mpr fun taken =>
                (List.disjoint_of_nodup_append nodup) taken List.mem_cons_self
            refine ⟨item, read, result.wellFormed item occurs, free, ih.mpr ⟨items, reads, ?_⟩⟩
            simpa [Snapshot.set] using same

/-- A list is accepted exactly when all entries are well formed and no slot occurs twice; and
the totals of an accepted list match those of the rows exactly when the sums of the quantities
are the same for every item, although large sums are rounded.
-/
theorem snapshots_judged_exactly
    : (∀ inventory : List Value,
        (∃ snapshot, validateSnapshot inventory = .ok snapshot)
          ↔ ∃ items : List InventoryItem,
            inventory.map InventoryItem.read = items.map some
            ∧ (∀ item ∈ items, item.WellFormed)
            ∧ (items.map (·.slotIndex)).Nodup)
      ∧ ∀ (rows : List InventoryItem) (inventory : List Value) (snapshot : Snapshot),
        rows.length ≤ 108
        → (∀ row ∈ rows, 1 ≤ row.quantity ∧ row.quantity < 2 ^ 31)
        → validateSnapshot inventory = .ok snapshot
        → inventory.map InventoryItem.read = snapshot.items.map some
          ∧ (totalsMatch rows snapshot.items = true
            ↔ ∀ itemId, totalOf rows itemId = totalOf snapshot.items itemId) := by
  refine ⟨fun inventory => ⟨?_, ?_⟩, fun rows inventory snapshot few small accepted => ?_⟩
  · rintro ⟨snapshot, accepted⟩
    obtain ⟨items, reads, same⟩ := validateEntries_eq_ok.mp accepted
    obtain rfl : snapshot.items = items := same
    exact ⟨_, reads, snapshot.wellFormed, snapshot.slots⟩
  · rintro ⟨items, reads, wellFormed, slots⟩
    exact ⟨⟨items, wellFormed, slots⟩, validateEntries_eq_ok.mpr ⟨items, reads, rfl⟩⟩
  · obtain ⟨items, reads, same⟩ := validateEntries_eq_ok.mp accepted
    obtain rfl : snapshot.items = items := same
    have positive : ∀ item ∈ snapshot.items, 1 ≤ item.quantity :=
      fun item mem => (snapshot.wellFormed item mem).2.2.2
    refine ⟨reads, fun matching itemId => ?_, fun equal => ?_⟩
    · refine (totalOf_eq_of_totalsMatch (few.trans (by decide))
        (fun row mem => ?_) positive matching itemId).symm
      obtain ⟨low, high⟩ := small row mem
      exact ⟨by omega, high⟩
    · exact totalsMatch_of_totalOf_eq (few.trans (by decide)) small positive
        fun itemId => (equal itemId).symm

/-- An item as a client sends it. -/
def InventoryItem.entry (item : InventoryItem) : Value :=
  .object [("item_id", .integer item.itemId), ("slot_index", .integer item.slotIndex),
    ("quantity", .integer item.quantity)]

/-- Two stacks that the client has put together have the same total. -/
theorem snapshots_judged_exactly_merged
    : ∃ snapshot,
        validateSnapshot [InventoryItem.entry ⟨1, 80, 7⟩] = .ok snapshot
        ∧ totalsMatch [⟨1, 0, 5⟩, ⟨1, 3, 2⟩] snapshot.items = true := by
  obtain ⟨snapshot, accepted⟩ := (snapshots_judged_exactly.1
    [InventoryItem.entry ⟨1, 80, 7⟩]).mpr ⟨[⟨1, 80, 7⟩], rfl, by decide, by decide⟩
  obtain ⟨reads, judged⟩ := snapshots_judged_exactly.2 [⟨1, 0, 5⟩, ⟨1, 3, 2⟩] _ snapshot
    (by decide) (by decide) accepted
  refine ⟨snapshot, accepted, judged.mpr fun itemId => ?_⟩
  have items : snapshot.items = [⟨1, 80, 7⟩] :=
    List.map_injective_iff.mpr (Option.some_injective _) reads.symm
  rw [items]
  by_cases same : 1 = itemId
  · subst same
    rfl
  · simp [totalOf, Ledger.amount, InventoryItem.booking, same]

end ExtractionServer.Lobby
