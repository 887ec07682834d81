import ExtractionServer.Library.Table

/-! Tables whose entries have lifetimes. An entry whose deadline has come is as good as gone. -/

namespace Expiry

universe u v

structure Entry (α : Type v) where
  value : α
  deadline : Option Nat := none
deriving DecidableEq, Repr

variable {κ : Type u} [DecidableEq κ] {α : Type v}

def Entry.alive (entry : Entry α) (now : Nat) : Bool := entry.deadline.all (now < ·)

/-- The entry of a key, if it is alive. -/
def get (table : Table κ (Entry α)) (now : Nat) (key : κ) : Option (Entry α) :=
  (table.lookup key).filter (·.alive now)

/-- Give the entry of a key a new deadline, if it is alive. -/
def touch (table : Table κ (Entry α)) (now : Nat) (key : κ) (deadline : Nat)
    : Table κ (Entry α) :=
  table.adjust key fun entry =>
    if entry.alive now then { entry with deadline := some deadline } else entry

theorem Entry.alive_iff {entry : Entry α} {limit : Nat} (limited : entry.deadline = some limit)
    (now : Nat)
    : entry.alive now = true ↔ now < limit := by
  rw [Entry.alive, limited, Option.all_some, decide_eq_true_eq]

theorem Entry.alive_of_le {entry : Entry α} {now later : Nat} (le : now ≤ later)
    (alive : entry.alive later = true)
    : entry.alive now = true := by
  cases deadline : entry.deadline with
  | none => rw [Entry.alive, deadline, Option.all_none]
  | some limit =>
      rw [Entry.alive_iff deadline] at alive ⊢
      omega

theorem get_eq_some {table : Table κ (Entry α)} {now : Nat} {key : κ} {entry : Entry α}
    : get table now key = some entry
      ↔ table.lookup key = some entry ∧ entry.alive now = true := by
  rw [get, Option.filter_eq_some_iff]

/-- What is alive later is alive now. -/
theorem get_of_later {table : Table κ (Entry α)} {now later : Nat} (le : now ≤ later)
    {key : κ} {entry : Entry α} (found : get table later key = some entry)
    : get table now key = some entry := by
  obtain ⟨found, alive⟩ := get_eq_some.mp found
  exact get_eq_some.mpr ⟨found, Entry.alive_of_le le alive⟩

theorem get_insert_self (table : Table κ (Entry α)) {now : Nat} (key : κ) {entry : Entry α}
    (alive : entry.alive now = true)
    : get (table.insert key entry) now key = some entry :=
  get_eq_some.mpr ⟨AList.lookup_insert table, alive⟩

theorem get_insert_ne {table : Table κ (Entry α)} {now : Nat} {key other : κ}
    (ne : other ≠ key) (entry : Entry α)
    : get (table.insert key entry) now other = get table now other := by
  rw [get, AList.lookup_insert_ne ne, get]

theorem get_erase_self (table : Table κ (Entry α)) (now : Nat) (key : κ)
    : get (table.erase key) now key = none := by
  rw [get, AList.lookup_erase, Option.filter_none]

theorem get_erase_ne {table : Table κ (Entry α)} {now : Nat} {key other : κ}
    (ne : other ≠ key)
    : get (table.erase key) now other = get table now other := by
  rw [get, AList.lookup_erase_ne ne, get]

theorem get_touch_ne {table : Table κ (Entry α)} {now : Nat} {key other : κ}
    (ne : other ≠ key) (deadline : Nat)
    : get (touch table now key deadline) now other = get table now other := by
  rw [get, touch, Table.lookup_adjust_ne ne, get]

theorem get_touch_self {table : Table κ (Entry α)} {now : Nat} {key : κ} {deadline : Nat}
    (later : now < deadline)
    : get (touch table now key deadline) now key
      = (get table now key).map ({ · with deadline := some deadline }) := by
  rw [get, touch, Table.lookup_adjust_self, get]
  cases table.lookup key with
  | none => rfl
  | some entry =>
      by_cases alive : entry.alive now = true
      · have renewed : ({ entry with deadline := some deadline } : Entry α).alive now = true :=
          decide_eq_true later
        rw [Option.map_some, if_pos alive, Option.filter_some, if_pos renewed,
          Option.filter_some, if_pos alive, Option.map_some]
      · rw [Option.map_some, if_neg alive, Option.filter_some, if_neg alive, Option.map_none]

end Expiry
