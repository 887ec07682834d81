import Mathlib.Algebra.BigOperators.Group.List.Basic
import Mathlib.Algebra.Group.Basic
import Mathlib.Algebra.Order.BigOperators.Group.List
import Mathlib.Data.List.AList
import Mathlib.Tactic.Abel

/-! Tables with one value for each key: updates in place, and totals of a weight over all
entries. Lookups, insertion and erasure are those of Mathlib's association lists.
-/

universe u v w

/-- A map from keys to values with a fixed order of its entries. -/
abbrev Table (κ : Type u) (α : Type v) := AList fun _ : κ => α

namespace Table

variable {κ : Type u} {α : Type v} {β : Type w}

-----------------------------------------------------------------------------------------
-- Updates that keep the keys
-----------------------------------------------------------------------------------------

/-- Replace every value by a function of its key and itself. -/
def mapWithKey (f : κ → α → β) (table : Table κ α) : Table κ β where
  entries := table.entries.map fun entry => ⟨entry.1, f entry.1 entry.2⟩
  nodupKeys := by
    have keys : (table.entries.map fun entry =>
        (⟨entry.1, f entry.1 entry.2⟩ : Σ _ : κ, β)).keys = table.entries.keys := by
      simp [List.keys]
    exact (congrArg List.Nodup keys).mpr table.nodupKeys

/-- The values in the order of the entries. -/
def values (table : Table κ α) : List α := table.entries.map Sigma.snd

variable [DecidableEq κ]

/-- Update the value under one key, if there is one. -/
def adjust (key : κ) (f : α → α) (table : Table κ α) : Table κ α :=
  table.mapWithKey fun other value => if other = key then f value else value

/-- Insert a value unless the key is taken. -/
def tryEmplace (key : κ) (value : α) (table : Table κ α) : Table κ α :=
  if key ∈ table then table else table.insert key value

omit [DecidableEq κ] in
@[simp] theorem keys_mapWithKey (f : κ → α → β) (table : Table κ α)
    : (table.mapWithKey f).keys = table.keys := by
  simp [AList.keys, mapWithKey, List.keys]

@[simp] theorem keys_adjust (key : κ) (f : α → α) (table : Table κ α)
    : (table.adjust key f).keys = table.keys :=
  keys_mapWithKey _ table

omit [DecidableEq κ] in
@[simp] theorem mem_mapWithKey (f : κ → α → β) (table : Table κ α) (key : κ)
    : key ∈ table.mapWithKey f ↔ key ∈ table := by
  rw [AList.mem_keys, AList.mem_keys, keys_mapWithKey]

@[simp] theorem mem_adjust (key other : κ) (f : α → α) (table : Table κ α)
    : other ∈ table.adjust key f ↔ other ∈ table :=
  mem_mapWithKey _ table other

@[simp] theorem lookup_mapWithKey (f : κ → α → β) (table : Table κ α) (key : κ)
    : (table.mapWithKey f).lookup key = (table.lookup key).map (f key) := by
  obtain ⟨entries, nodup⟩ := table
  simp only [AList.lookup, mapWithKey]
  clear nodup
  induction entries with
  | nil => rfl
  | cons entry rest ih =>
      obtain ⟨other, value⟩ := entry
      by_cases same : key = other
      · subst same
        simp
      · simpa [List.dlookup_cons_ne, Ne.symm same, same] using ih

@[simp] theorem lookup_adjust_self (key : κ) (f : α → α) (table : Table κ α)
    : (table.adjust key f).lookup key = (table.lookup key).map f := by
  simp [adjust]

theorem lookup_adjust_ne {key other : κ} (ne : other ≠ key) (f : α → α) (table : Table κ α)
    : (table.adjust key f).lookup other = table.lookup other := by
  simp [adjust, ne]

theorem lookup_adjust (key other : κ) (f : α → α) (table : Table κ α)
    : (table.adjust key f).lookup other
      = if other = key then (table.lookup other).map f else table.lookup other := by
  by_cases same : other = key
  · subst same
    simp
  · simp [lookup_adjust_ne same, same]

theorem lookup_tryEmplace_fresh {key : κ} {table : Table κ α} (fresh : key ∉ table)
    (value : α)
    : (table.tryEmplace key value).lookup key = some value := by
  simp [tryEmplace, fresh]

/-- A new entry comes first. -/
theorem values_tryEmplace_fresh {key : κ} {table : Table κ α} (fresh : key ∉ table)
    (value : α)
    : (table.tryEmplace key value).values = value :: table.values := by
  rw [tryEmplace, if_neg fresh, values, AList.entries_insert_of_notMem fresh]
  rfl

/-- What a table holds after emplacing is the new value of the key or an old value. -/
theorem lookup_tryEmplace_cases {key other : κ} {value found : α} {table : Table κ α}
    (fresh : key ∉ table) (present : (table.tryEmplace key value).lookup other = some found)
    : other = key ∧ found = value ∨ table.lookup other = some found := by
  rw [tryEmplace, if_neg fresh] at present
  by_cases same : other = key
  · subst same
    rw [AList.lookup_insert] at present
    exact .inl ⟨rfl, (Option.some.inj present).symm⟩
  · rw [AList.lookup_insert_ne same] at present
    exact .inr present

/-- Emplacing adds at most the given key. -/
theorem mem_tryEmplace {key other : κ} {value : α} {table : Table κ α}
    (mem : other ∈ table.tryEmplace key value)
    : other = key ∨ other ∈ table := by
  unfold tryEmplace at mem
  split at mem
  · exact .inr mem
  · exact (AList.mem_insert table).mp mem

/-- Emplacing a fresh key adds exactly that key. -/
theorem mem_tryEmplace_iff {key other : κ} {value : α} {table : Table κ α}
    (fresh : key ∉ table)
    : other ∈ table.tryEmplace key value ↔ other = key ∨ other ∈ table := by
  rw [tryEmplace, if_neg fresh, AList.mem_insert]

theorem lookup_tryEmplace_ne {key other : κ} (ne : other ≠ key) (value : α)
    (table : Table κ α)
    : (table.tryEmplace key value).lookup other = table.lookup other := by
  unfold tryEmplace
  split
  · rfl
  · exact AList.lookup_insert_ne ne

/-- What an updated table holds is the new value of the key or an old value. -/
theorem lookup_adjust_cases {key other : κ} {f : α → α} {table : Table κ α} {value : α}
    (found : (table.adjust key f).lookup other = some value)
    : other = key ∧ (∃ old, table.lookup key = some old ∧ value = f old)
      ∨ other ≠ key ∧ table.lookup other = some value := by
  rw [lookup_adjust] at found
  split at found
  · next same =>
      subst same
      obtain ⟨old, stored, changed⟩ := Option.map_eq_some_iff.mp found
      exact .inl ⟨rfl, old, stored, changed.symm⟩
  · next ne => exact .inr ⟨ne, found⟩

/-- Updates of a key that agree on its value are equal. -/
theorem adjust_congr {key : κ} {f g : α → α} {table : Table κ α}
    (agree : ∀ value, table.lookup key = some value → f value = g value)
    : table.adjust key f = table.adjust key g := by
  apply AList.ext
  simp only [adjust, mapWithKey]
  apply List.map_congr_left
  intro entry mem
  split
  · next at_key =>
      rw [agree entry.2]
      rw [← at_key]
      exact AList.mem_lookup_iff.mpr mem
  · rfl

/-- An update that does not change the value of its key changes nothing. -/
theorem adjust_eq_self {key : κ} {f : α → α} {table : Table κ α}
    (same : ∀ value, table.lookup key = some value → f value = value)
    : table.adjust key f = table := by
  rw [adjust_congr (g := id) same]
  apply AList.ext
  simp only [adjust, mapWithKey, id_eq, ite_self]
  exact List.map_id _

/-- Two updates of one key make one. -/
theorem adjust_adjust (key : κ) (f g : α → α) (table : Table κ α)
    : (table.adjust key f).adjust key g = table.adjust key fun value => g (f value) := by
  apply AList.ext
  simp only [adjust, mapWithKey, List.map_map]
  apply List.map_congr_left
  intro entry _
  simp only [Function.comp_apply]
  split
  · rfl
  · rfl

/-- Erasing a missing key changes nothing. -/
theorem erase_of_lookup_none {key : κ} {table : Table κ α}
    (missing : table.lookup key = none)
    : AList.erase key table = table := by
  apply AList.ext
  exact List.kerase_of_notMem_keys (AList.lookup_eq_none.mp missing)

/-- What is found after an insertion is the new value or was there before. -/
theorem lookup_insert_cases {key other : κ} {value found : α} {table : Table κ α}
    (h : (AList.insert key value table).lookup other = some found)
    : other = key ∧ found = value ∨ other ≠ key ∧ table.lookup other = some found := by
  by_cases same : other = key
  · subst same
    rw [AList.lookup_insert] at h
    exact .inl ⟨rfl, (Option.some.inj h).symm⟩
  · rw [AList.lookup_insert_ne same] at h
    exact .inr ⟨same, h⟩

/-- What is found after an erasure has another key and was there before. -/
theorem lookup_erase_cases {key other : κ} {table : Table κ α} {value : α}
    (found : (AList.erase key table).lookup other = some value)
    : other ≠ key ∧ table.lookup other = some value := by
  by_cases same : other = key
  · subst same
    rw [AList.lookup_erase] at found
    cases found
  · rw [AList.lookup_erase_ne same] at found
    exact ⟨same, found⟩

/-- An update that a projection of the values does not see leaves the list of projections
alone.
-/
theorem map_adjust_of_same {g : α → β} {key : κ} {f : α → α} (table : Table κ α)
    (same : ∀ value, table.lookup key = some value → g (f value) = g value)
    : (table.adjust key f).values.map g = table.values.map g := by
  simp only [values, adjust, mapWithKey, List.map_map]
  apply List.map_congr_left
  intro entry mem
  simp only [Function.comp_apply]
  split
  · next at_key =>
      apply same
      rw [← at_key]
      exact AList.mem_lookup_iff.mpr mem
  · rfl

/-- The same for a partial projection. -/
theorem filterMap_adjust_of_same {g : α → Option β} {key : κ} {f : α → α} (table : Table κ α)
    (same : ∀ value, table.lookup key = some value → g (f value) = g value)
    : (table.adjust key f).values.filterMap g = table.values.filterMap g := by
  have projections := congrArg (List.filterMap id) (table.map_adjust_of_same same)
  simpa only [List.filterMap_map, Function.id_comp] using projections

/-- Erasing a key takes its entry out of the list of entries. -/
theorem exists_entries_erase {key : κ} {value : α} {table : Table κ α}
    (found : table.lookup key = some value)
    : ∃ before rest, table.entries = before ++ ⟨key, value⟩ :: rest
        ∧ (AList.erase key table).entries = before ++ rest := by
  obtain ⟨stored, before, rest, _, entries, erased⟩ :=
    List.exists_of_kerase (AList.mem_keys.mp (AList.lookup_isSome.mp (by rw [found]; rfl)))
  have same : stored = value := by
    have mem : (⟨key, stored⟩ : Σ _ : κ, α) ∈ table.entries := by simp [entries]
    exact Option.some.inj ((AList.mem_lookup_iff.mpr mem).symm.trans found)
  subst same
  exact ⟨before, rest, entries, erased⟩

/-- Erasing an entry that a partial projection drops leaves the list of projections alone. -/
theorem filterMap_erase_of_none {g : α → Option β} {key : κ} {value : α} {table : Table κ α}
    (found : table.lookup key = some value) (dropped : g value = none)
    : (values (AList.erase key table)).filterMap g = table.values.filterMap g := by
  obtain ⟨before, rest, entries, shrunk⟩ := exists_entries_erase found
  simp [values, shrunk, entries, dropped]

/-- The values are those that remain after an erasure and the erased one. -/
theorem values_perm_erase {key : κ} {value : α} {table : Table κ α}
    (found : table.lookup key = some value)
    : table.values.Perm (value :: values (AList.erase key table)) := by
  obtain ⟨before, rest, entries, shrunk⟩ := exists_entries_erase found
  simp only [values, shrunk, entries, List.map_append, List.map_cons]
  exact List.perm_middle

-----------------------------------------------------------------------------------------
-- Entries and values
-----------------------------------------------------------------------------------------

theorem mem_entries_iff {table : Table κ α} {key : κ} {value : α}
    : (⟨key, value⟩ : Σ _ : κ, α) ∈ table.entries ↔ table.lookup key = some value :=
  AList.mem_lookup_iff.symm

theorem mem_values_iff {table : Table κ α} {value : α}
    : value ∈ table.values ↔ ∃ key, table.lookup key = some value := by
  constructor
  · intro mem
    obtain ⟨⟨key, stored⟩, present, rfl⟩ := List.mem_map.mp mem
    exact ⟨key, mem_entries_iff.mp present⟩
  · rintro ⟨key, found⟩
    exact List.mem_map.mpr ⟨⟨key, value⟩, mem_entries_iff.mpr found, rfl⟩

/-- A key with a value is in the table. -/
theorem mem_of_lookup {table : Table κ α} {key : κ} {value : α}
    (found : table.lookup key = some value)
    : key ∈ table :=
  AList.lookup_isSome.mp (by rw [found]; rfl)

/-- A key in the table has a value. -/
theorem exists_lookup_of_mem {table : Table κ α} {key : κ} (mem : key ∈ table)
    : ∃ value, table.lookup key = some value :=
  Option.isSome_iff_exists.mp (AList.lookup_isSome.mpr mem)

-----------------------------------------------------------------------------------------
-- Tables related key by key
-----------------------------------------------------------------------------------------

/-- Two tables with the same keys whose values are related at every key. -/
structure Related (r : κ → α → α → Prop) (before after : Table κ α) : Prop where
  keys : after.keys = before.keys
  values : ∀ key old new, before.lookup key = some old → after.lookup key = some new →
    r key old new

namespace Related

variable {r : κ → α → α → Prop} {before middle after : Table κ α}

theorem refl (reflexive : ∀ key value, r key value value) (table : Table κ α)
    : Related r table table where
  keys := rfl
  values key old new first second := by
    have same : old = new := Option.some.inj (first.symm.trans second)
    exact same ▸ reflexive key old

theorem mem_iff (h : Related r before after) (key : κ) : key ∈ after ↔ key ∈ before := by
  rw [AList.mem_keys, AList.mem_keys, h.keys]

/-- The value under a key afterwards, with its relation to the one before. -/
theorem new_of_old (h : Related r before after) {key : κ} {old : α}
    (found : before.lookup key = some old)
    : ∃ new, after.lookup key = some new ∧ r key old new := by
  obtain ⟨new, present⟩ := exists_lookup_of_mem ((h.mem_iff key).mpr (mem_of_lookup found))
  exact ⟨new, present, h.values key old new found present⟩

/-- The value under a key before, with its relation to the one afterwards. -/
theorem old_of_new (h : Related r before after) {key : κ} {new : α}
    (found : after.lookup key = some new)
    : ∃ old, before.lookup key = some old ∧ r key old new := by
  obtain ⟨old, present⟩ := exists_lookup_of_mem ((h.mem_iff key).mp (mem_of_lookup found))
  exact ⟨old, present, h.values key old new present found⟩

theorem trans (transitive : ∀ key a b c, r key a b → r key b c → r key a c)
    (first : Related r before middle) (second : Related r middle after)
    : Related r before after where
  keys := second.keys.trans first.keys
  values key old new found present := by
    obtain ⟨between, stored, left⟩ := first.new_of_old found
    exact transitive key old between new left (second.values key between new stored present)

theorem mono {r' : κ → α → α → Prop} (weaker : ∀ key a b, r key a b → r' key a b)
    (h : Related r before after)
    : Related r' before after where
  keys := h.keys
  values key old new found present := weaker key old new (h.values key old new found present)

theorem adjust (reflexive : ∀ key value, r key value value) {key : κ} {f : α → α}
    {table : Table κ α}
    (changed : ∀ value, table.lookup key = some value → r key value (f value))
    : Related r table (table.adjust key f) where
  keys := keys_adjust key f table
  values other old new found present := by
    rw [lookup_adjust, found] at present
    split at present
    · next same =>
        subst same
        cases present
        exact changed old found
    · cases present
      exact reflexive other old

theorem mapWithKey {f : κ → α → α} (changed : ∀ key value, r key value (f key value))
    (table : Table κ α)
    : Related r table (table.mapWithKey f) where
  keys := keys_mapWithKey f table
  values key old new found present := by
    rw [lookup_mapWithKey, found] at present
    cases present
    exact changed key old

end Related

-----------------------------------------------------------------------------------------
-- Loops over keys
-----------------------------------------------------------------------------------------

section Loops

variable {S : Type*} {V : Type*}

omit [DecidableEq κ] in
/-- A loop that leaves a view of the state alone leaves it alone as a whole. -/
theorem foldl_view_eq (view : S → V) {step : S → κ → S} {keys : List κ}
    (frame : ∀ state, ∀ key ∈ keys, view (step state key) = view state) (state : S)
    : view (keys.foldl step state) = view state :=
  List.foldlRecOn keys step (motive := fun reached => view reached = view state) rfl
    fun reached same key mem => (frame reached key mem).trans same

omit [DecidableEq κ] in
/-- A loop establishes what the turn of one key establishes and every turn keeps. -/
theorem foldl_establishes {step : S → κ → S} {P Q : S → Prop} {keys : List κ}
    (keeps : ∀ state, ∀ key ∈ keys, P state → P (step state key))
    (stays : ∀ state, ∀ key ∈ keys, P state → Q state → Q (step state key))
    {key : κ} (mem : key ∈ keys) (turn : ∀ state, P state → Q (step state key))
    {state : S} (holds : P state)
    : Q (keys.foldl step state) := by
  induction keys generalizing state with
  | nil => cases mem
  | cons head rest ih =>
      have first := keeps state head List.mem_cons_self holds
      have restKeeps : ∀ state, ∀ key ∈ rest, P state → P (step state key) :=
        fun state key later => keeps state key (List.mem_cons_of_mem head later)
      have restStays : ∀ state, ∀ key ∈ rest, P state → Q state → Q (step state key) :=
        fun state key later => stays state key (List.mem_cons_of_mem head later)
      rw [List.foldl_cons]
      rcases List.mem_cons.mp mem with rfl | later
      · have both : P (rest.foldl step (step state key))
            ∧ Q (rest.foldl step (step state key)) := by
          refine List.foldlRecOn rest step (motive := fun reached => P reached ∧ Q reached)
            ⟨first, turn state holds⟩ ?_
          intro reached both key later
          exact ⟨restKeeps reached key later both.1, restStays reached key later both.1 both.2⟩
        exact both.2
      · exact ih restKeeps restStays later first

omit [DecidableEq κ] in
/-- In a loop over distinct keys where the turns of all other keys keep a relation, only the
turn of the key itself need not.
-/
theorem foldl_around_turn (R : S → S → Prop) (refl : ∀ state, R state state)
    (trans : ∀ a b c, R a b → R b c → R a c) {step : S → κ → S} {key : κ}
    (frame : ∀ state other, other ≠ key → R state (step state other))
    {keys : List κ} (nodup : keys.Nodup) (mem : key ∈ keys) (state : S)
    : ∃ turn, R state turn ∧ R (step turn key) (keys.foldl step state) := by
  induction keys generalizing state with
  | nil => cases mem
  | cons head rest ih =>
      obtain ⟨fresh, nodup⟩ := List.nodup_cons.mp nodup
      rw [List.foldl_cons]
      rcases List.mem_cons.mp mem with rfl | later
      · refine ⟨state, refl state, ?_⟩
        refine List.foldlRecOn rest step (motive := R (step state key)) (refl _) ?_
        intro reached related other present
        exact trans _ _ _ related (frame reached other (by rintro rfl; exact fresh present))
      · obtain ⟨turn, before, after⟩ := ih nodup later (step state head)
        refine ⟨turn, trans _ _ _ ?_ before, after⟩
        exact frame state head (by rintro rfl; exact fresh later)

omit [DecidableEq κ] in
/-- In a loop over distinct keys where each turn touches only its own view, the final view
of a key is what its own turn makes of it.
-/
theorem foldl_own_turn (view : κ → S → V) {step : S → κ → S}
    (frame : ∀ state key other, other ≠ key → view other (step state key) = view other state)
    {keys : List κ} (nodup : keys.Nodup) {key : κ} (mem : key ∈ keys) (state : S)
    : ∃ turn, view key turn = view key state
        ∧ view key (keys.foldl step state) = view key (step turn key) := by
  exact foldl_around_turn (fun before after => view key after = view key before)
    (fun _ => rfl) (fun _ _ _ first second => second.trans first)
    (fun state other ne => frame state other key ne.symm) nodup mem state

end Loops

-----------------------------------------------------------------------------------------
-- Totals
-----------------------------------------------------------------------------------------

section Total

variable {M : Type*} [AddCommGroup M]

omit [DecidableEq κ] in
/-- The sum of a weight over all entries. -/
def total (weight : κ → α → M) (table : Table κ α) : M :=
  (table.entries.map fun entry => weight entry.1 entry.2).sum

omit [DecidableEq κ] in
@[simp] theorem total_empty (weight : κ → α → M)
    : total weight (∅ : Table κ α) = 0 := rfl

omit [DecidableEq κ] in
theorem total_mapWithKey (weight : κ → β → M) (f : κ → α → β) (table : Table κ α)
    : (table.mapWithKey f).total weight
      = table.total fun key value => weight key (f key value) := by
  simp [total, mapWithKey, Function.comp_def]

omit [DecidableEq κ] in
/-- Changing the weight of one key that occurs in a list without repeated keys changes the
sum by that key's difference.
-/
theorem sum_map_entries_eq [DecidableEq κ] (weight other : κ → α → M) {key : κ} {value : α}
    (agree : ∀ k a, k ≠ key → other k a = weight k a)
    {entries : List (Σ _ : κ, α)} (nodup : entries.NodupKeys)
    (mem : (⟨key, value⟩ : Σ _ : κ, α) ∈ entries)
    : (entries.map fun entry => other entry.1 entry.2).sum
      = (entries.map fun entry => weight entry.1 entry.2).sum
        + (other key value - weight key value) := by
  induction entries with
  | nil => cases mem
  | cons entry rest ih =>
      obtain ⟨fresh, nodup⟩ := List.nodupKeys_cons.mp nodup
      rcases List.mem_cons.mp mem with same | mem
      · subst same
        have apart : ∀ stored ∈ rest,
            other stored.1 stored.2 = weight stored.1 stored.2 := by
          intro stored present
          apply agree
          intro same
          have keys : stored.1 ∈ rest.keys := List.mem_map_of_mem present
          exact fresh (same ▸ keys)
        rw [List.map_cons, List.map_cons, List.sum_cons, List.sum_cons,
          List.map_congr_left apart]
        abel
      · have ne : entry.1 ≠ key := by
          intro same
          have keys : key ∈ rest.keys := List.mem_map_of_mem (f := Sigma.fst) mem
          exact fresh (same ▸ keys)
        rw [List.map_cons, List.map_cons, List.sum_cons, List.sum_cons, ih nodup mem,
          agree _ _ ne]
        abel

theorem total_adjust {weight : κ → α → M} {key : κ} {value : α} {table : Table κ α}
    (found : table.lookup key = some value) (f : α → α)
    : (table.adjust key f).total weight
      = table.total weight + (weight key (f value) - weight key value) := by
  rw [adjust, total_mapWithKey]
  have changed := sum_map_entries_eq weight
    (fun k a => weight k (if k = key then f a else a))
    (fun k a ne => by simp [ne]) table.nodupKeys (mem_entries_iff.mpr found)
  simpa [total] using changed

theorem adjust_of_lookup_none {key : κ} {table : Table κ α}
    (missing : table.lookup key = none) (f : α → α)
    : table.adjust key f = table := by
  apply AList.ext
  simp only [adjust, mapWithKey]
  conv_rhs => rw [← List.map_id table.entries]
  apply List.map_congr_left
  intro entry mem
  have ne : entry.1 ≠ key := by
    rintro rfl
    rw [mem_entries_iff.mp mem] at missing
    cases missing
  simp [ne]

theorem total_tryEmplace_fresh {weight : κ → α → M} {key : κ} {table : Table κ α}
    (fresh : key ∉ table) (value : α)
    : (table.tryEmplace key value).total weight
      = weight key value + table.total weight := by
  rw [tryEmplace, if_neg fresh, total, AList.entries_insert_of_notMem fresh]
  exact List.sum_cons

theorem total_erase {weight : κ → α → M} {key : κ} {value : α} {table : Table κ α}
    (found : table.lookup key = some value)
    : total weight (AList.erase key table) = table.total weight - weight key value := by
  obtain ⟨before, rest, entries, shrunk⟩ := exists_entries_erase found
  rw [total, total, shrunk, entries]
  simp only [List.map_append, List.map_cons, List.sum_append, List.sum_cons]
  abel

/-- Related tables in which related values weigh the same have the same total. -/
theorem Related.total {r : κ → α → α → Prop} {weight : κ → α → M} {before after : Table κ α}
    (h : Related r before after)
    (same : ∀ key old new, r key old new → weight key new = weight key old)
    : after.total weight = before.total weight := by
  have byKeys (table : Table κ α)
      : table.total weight
        = (table.keys.map fun key => (table.lookup key).elim 0 (weight key)).sum := by
    unfold Table.total AList.keys List.keys
    rw [List.map_map]
    congr 1
    apply List.map_congr_left
    intro entry mem
    rw [Function.comp_apply, mem_entries_iff.mp mem]
    rfl
  rw [byKeys, byKeys, h.keys]
  congr 1
  apply List.map_congr_left
  intro key mem
  obtain ⟨old, found⟩ := exists_lookup_of_mem (AList.mem_keys.mpr mem)
  obtain ⟨new, present, related⟩ := h.new_of_old found
  rw [found, present]
  exact same key old new related

/-- One of several weights that are not negative is at most the total. -/
theorem single_le_total [PartialOrder M] [IsOrderedAddMonoid M] {weight : κ → α → M}
    {table : Table κ α}
    (nonneg : ∀ key value, table.lookup key = some value → 0 ≤ weight key value)
    {key : κ} {value : α} (found : table.lookup key = some value)
    : weight key value ≤ table.total weight := by
  refine List.single_le_sum ?_ _ (List.mem_map_of_mem (mem_entries_iff.mpr found))
  intro each mem
  obtain ⟨entry, present, rfl⟩ := List.mem_map.mp mem
  exact nonneg entry.1 entry.2 (mem_entries_iff.mp present)

theorem total_nonneg [PartialOrder M] [IsOrderedAddMonoid M] {weight : κ → α → M}
    {table : Table κ α}
    (nonneg : ∀ key value, table.lookup key = some value → 0 ≤ weight key value)
    : 0 ≤ table.total weight := by
  refine List.sum_nonneg fun each mem => ?_
  obtain ⟨entry, present, rfl⟩ := List.mem_map.mp mem
  exact nonneg entry.1 entry.2 (mem_entries_iff.mp present)

end Total

end Table
