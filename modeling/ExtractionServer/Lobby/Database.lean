import ExtractionServer.Library.Loops
import ExtractionServer.Lobby.InventorySnapshot

/-! What the handlers see of MySQL: one account, the item tables, and the calls that can fail.
A call that fails has no effect, and a transaction that does not commit has none either.
-/

namespace ExtractionServer.Lobby

-----------------------------------------------------------------------------------------
-- Tables
-----------------------------------------------------------------------------------------

/-- `items.item_type`. -/
inductive ItemType where
  | weapon
  | armor
  | ammo
  | misc
deriving DecidableEq, Repr

/-- An entry of `shopCache`. -/
structure ShopItem where
  isActive : Bool
  price : Int
  itemType : ItemType
deriving DecidableEq, Repr

/-- The item tables: the types of `items`, the cache of the shop, and the prices of
`item_meta` as `Number.parseInt` reads them.
-/
structure Catalog where
  items : Table Int ItemType
  shop : Table Int ShopItem
  itemMeta : Table Int Int

/-- The rows of `user_inventory` of one account, and its money. A guest has no row in
`users`.
-/
structure Account where
  rows : List InventoryItem
  money : Option Int
deriving DecidableEq, Repr

/-- What the types, keys and references of `user_inventory` allow. -/
def Catalog.Insertable (catalog : Catalog) (account : Account) (rows : List InventoryItem)
    : Prop :=
  account.money.isSome = true
  ∧ (rows.map (·.slotIndex)).Nodup
  ∧ ∀ row ∈ rows, row.itemId ∈ catalog.items
    ∧ 0 ≤ row.slotIndex ∧ row.slotIndex < 2 ^ 8
    ∧ -2 ^ 31 ≤ row.quantity ∧ row.quantity < 2 ^ 31

instance (catalog : Catalog) (account : Account) (rows : List InventoryItem)
    : Decidable (catalog.Insertable account rows) :=
  inferInstanceAs (Decidable (_ ∧ _ ∧ _))

-----------------------------------------------------------------------------------------
-- Calls
-----------------------------------------------------------------------------------------

/-- The calls of the handlers. -/
inductive Call where
  | getConnection
  | beginTransaction
  | selectInventory
  | selectMoney
  | hGetPrice
  | deleteInventory
  | insertInventory
  | selectItemType
  | updateMoney
  | commit
  | rollback
  | setLock
  | hSetTicket
  | expireTicket
  | delLock
  | delLockAtEnd
deriving DecidableEq, Repr

/-- A call that is answered, or throws. -/
def call (fails : Call → Bool) (c : Call) : Except Stop Unit :=
  if fails c then .error .thrown else .ok ()

/-- A rollback followed by an answer. -/
def refuse {α : Type} (fails : Call → Bool) (status : ErrorStatus) (error : ResponseError)
    : Except Stop α :=
  if fails .rollback then .error .thrown else .error (.answer status error)

/-- The `DELETE` of all rows of the account and the `INSERT` of new ones, if there are any. -/
def rewriteRows (catalog : Catalog) (fails : Call → Bool) (account : Account)
    (rows : List InventoryItem)
    : Except Stop Account := do
  call fails .deleteInventory
  if rows.isEmpty then return { account with rows := [] }
  call fails .insertInventory
  if catalog.Insertable account rows then return { account with rows }
  else throw .thrown

/-- The `UPDATE` of the money, whose column is a 32-bit unsigned number. -/
def updateMoney (fails : Call → Bool) (account : Account) (difference : Int)
    : Except Stop Account := do
  call fails .updateMoney
  match account.money with
  | none => return account
  | some money =>
      if 0 ≤ money + difference ∧ money + difference < 2 ^ 32
      then return { account with money := some (money + difference) }
      else throw .thrown

-----------------------------------------------------------------------------------------
-- Answers
-----------------------------------------------------------------------------------------

/-- The answer of a handler. Express answers an exception that nothing catches. -/
inductive Response (α : Type) where
  | success (data : α)
  | failure (status : ErrorStatus) (error : ResponseError)
  | unhandled
deriving DecidableEq, Repr

def Response.status {α : Type} : Response α → Nat
  | .success _ => 200
  | .failure status _ => status.code
  | .unhandled => 500

-----------------------------------------------------------------------------------------
-- Accounts that respect the tables
-----------------------------------------------------------------------------------------

/-- The account can be in the database. -/
structure Account.InSchema (account : Account) : Prop where
  slots : (account.rows.map (·.slotIndex)).Nodup
  range : ∀ row ∈ account.rows, 0 ≤ row.slotIndex ∧ row.slotIndex < 2 ^ 8
    ∧ -2 ^ 31 ≤ row.quantity ∧ row.quantity < 2 ^ 31
  user : account.rows ≠ [] → account.money.isSome = true

/-- There are at most as many rows as slots. -/
theorem Account.InSchema.few {account : Account} (h : account.InSchema)
    : account.rows.length ≤ 2 ^ 8 := by
  have inside : account.rows.map (·.slotIndex) ⊆ (List.range (2 ^ 8)).map Int.ofNat := by
    intro slot mem
    obtain ⟨row, held, rfl⟩ := List.mem_map.mp mem
    obtain ⟨lower, upper, _⟩ := h.range row held
    refine List.mem_map.mpr ⟨row.slotIndex.toNat, List.mem_range.mpr ?_, ?_⟩
    · omega
    · exact Int.toNat_of_nonneg lower
  have := (List.subperm_of_subset h.slots inside).length_le
  rwa [List.length_map, List.length_map, List.length_range] at this

/-- A snapshot that matches the rows of the account has their totals. -/
theorem Account.InSchema.totals {account : Account} (h : account.InSchema)
    {snapshot : Snapshot} (matching : totalsMatch account.rows snapshot.items = true)
    (itemId : Int)
    : totalOf snapshot.items itemId = totalOf account.rows itemId :=
  totalOf_eq_of_totalsMatch (h.few.trans (by decide))
    (fun row mem => (h.range row mem).2.2)
    (fun item mem => (snapshot.wellFormed item mem).2.2.2) matching itemId

-----------------------------------------------------------------------------------------
-- What a call that succeeds has done
-----------------------------------------------------------------------------------------

/-- Rows are rewritten as they are given, and they respect the table. -/
theorem rewriteRows_eq_ok {catalog : Catalog} {fails : Call → Bool} {account after : Account}
    {rows : List InventoryItem} (h : rewriteRows catalog fails account rows = .ok after)
    : after = { account with rows }
      ∧ (rows = [] ∨ catalog.Insertable account rows) := by
  unfold rewriteRows at h
  obtain ⟨_, _, h⟩ := Except.bind_eq_ok h
  split at h
  · next empty =>
      cases h
      rw [List.isEmpty_iff.mp empty]
      exact ⟨rfl, .inl rfl⟩
  · obtain ⟨_, _, h⟩ := Except.bind_eq_ok h
    split at h
    · next insertable =>
        cases h
        exact ⟨rfl, .inr insertable⟩
    · cases h

/-- The money changes within its range. -/
theorem updateMoney_eq_ok {fails : Call → Bool} {account after : Account} {difference : Int}
    (h : updateMoney fails account difference = .ok after)
    : after = { account with money := account.money.map (· + difference) }
      ∧ ∀ money, account.money = some money →
          0 ≤ money + difference ∧ money + difference < 2 ^ 32 := by
  unfold updateMoney at h
  obtain ⟨_, _, h⟩ := Except.bind_eq_ok h
  split at h
  · next none =>
      cases h
      rw [none]
      refine ⟨?_, fun money some => by cases some⟩
      rw [Option.map_none, ← none]
  · next money found =>
      split at h
      · next range =>
          cases h
          rw [found]
          refine ⟨rfl, fun other same => ?_⟩
          cases same
          exact range
      · cases h

end ExtractionServer.Lobby
