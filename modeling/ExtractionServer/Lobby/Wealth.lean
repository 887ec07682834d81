import ExtractionServer.Library.Transition
import ExtractionServer.Lobby.FailedStart

/-! The wealth of an account is its money with its items at their prices. No request of the
lobby changes it.
-/

namespace ExtractionServer.Lobby

open JavaScript (Value)
open Transition

-----------------------------------------------------------------------------------------
-- Wealth
-----------------------------------------------------------------------------------------

/-- The worth of rows at given prices. -/
def worth (price : Int → Int) (rows : List InventoryItem) : Int :=
  (rows.map fun row => price row.itemId * row.quantity).sum

def Account.wealth (price : Int → Int) (account : Account) : Int :=
  account.money.getD 0 + worth price account.rows

/-- The shop and the meta data have the prices of one table, which are 32-bit unsigned. -/
structure Catalog.Shares (catalog : Catalog) (price : Int → Int) : Prop where
  shop : ∀ itemId shopItem, catalog.shop.lookup itemId = some shopItem →
    shopItem.price = price itemId
  itemMeta : ∀ itemId cached, catalog.itemMeta.lookup itemId = some cached →
    cached = price itemId
  range : ∀ itemId, 0 ≤ price itemId ∧ price itemId < 2 ^ 32

/-- Rows with the same totals have the same worth. -/
theorem worth_congr (price : Int → Int) {first second : List InventoryItem}
    (same : ∀ itemId, totalOf first itemId = totalOf second itemId)
    : worth price first = worth price second := by
  have weighted := Ledger.sum_weight_congr (fun itemId => AddMonoidHom.mulLeft (price itemId))
    same
  rw [List.map_map, List.map_map] at weighted
  exact weighted

theorem worth_append (price : Int → Int) (first second : List InventoryItem)
    : worth price (first ++ second) = worth price first + worth price second := by
  simp [worth]

theorem worth_singleton (price : Int → Int) (item : InventoryItem)
    : worth price [item] = price item.itemId * item.quantity := by
  simp [worth]

theorem worth_perm (price : Int → Int) {first second : List InventoryItem}
    (same : first.Perm second)
    : worth price first = worth price second :=
  (same.map _).sum_eq

-----------------------------------------------------------------------------------------
-- Accounts
-----------------------------------------------------------------------------------------

/-- The account respects the tables, its slots are those of the layout, and it has no
debts.
-/
structure Account.Valid (account : Account) : Prop where
  inSchema : account.InSchema
  layout : ∀ row ∈ account.rows,
    WAREHOUSE_SLOT_MIN ≤ row.slotIndex ∧ row.slotIndex ≤ LOADOUT_SLOT_MAX
  solvent : ∀ money, account.money = some money → 0 ≤ money

/-- New rows that the table takes. -/
theorem Account.Valid.of_insertable {catalog : Catalog} {account after : Account}
    (insertable : after.rows = [] ∨ catalog.Insertable account after.rows)
    (user : account.money.isSome = true → after.money.isSome = true)
    (layout : ∀ row ∈ after.rows,
      WAREHOUSE_SLOT_MIN ≤ row.slotIndex ∧ row.slotIndex ≤ LOADOUT_SLOT_MAX)
    (solvent : ∀ money, after.money = some money → 0 ≤ money)
    : after.Valid := by
  refine ⟨?_, layout, solvent⟩
  rcases insertable with empty | ⟨known, slots, rows⟩
  · rw [empty] at layout
    refine ⟨by rw [empty]; exact List.nodup_nil, fun row mem => ?_, fun some => ?_⟩
    · rw [empty] at mem
      exact absurd mem List.not_mem_nil
    · exact absurd empty some
  · exact ⟨slots, fun row mem => (rows row mem).2, fun _ => user known⟩

/-- The slots of a snapshot are those of the layout. -/
theorem Snapshot.layout (snapshot : Snapshot)
    : ∀ item ∈ snapshot.items,
        WAREHOUSE_SLOT_MIN ≤ item.slotIndex ∧ item.slotIndex ≤ LOADOUT_SLOT_MAX :=
  fun item mem =>
    ⟨(snapshot.wellFormed item mem).2.1, (snapshot.wellFormed item mem).2.2.1⟩

-----------------------------------------------------------------------------------------
-- Purchases
-----------------------------------------------------------------------------------------

/-- A property of a body. -/
def Asks (body : Option Value) (name : String) (number : Int) : Prop :=
  ∃ value, body = some value ∧ Value.integer? (value.get name) = some number

/-- The checks of a purchase. -/
theorem readPurchase_eq_ok {catalog : Catalog} {body : Option Value} {request : Purchase}
    (h : readPurchase catalog body = .ok request)
    : Asks body "item_id" request.item.itemId ∧ Asks body "quantity" request.item.quantity
      ∧ 1 ≤ request.item.quantity ∧ request.item.quantity ≤ 99
      ∧ WAREHOUSE_SLOT_MIN ≤ request.item.slotIndex
      ∧ request.item.slotIndex ≤ WAREHOUSE_SLOT_MAX
      ∧ ∃ shopItem, catalog.shop.lookup request.item.itemId = some shopItem
        ∧ request.totalCost = JavaScript.mul shopItem.price request.item.quantity := by
  unfold readPurchase at h
  split at h
  · cases h
  · next value =>
      split at h
      · next itemId slotIndex quantity inventory askedItem askedSlot askedQuantity _ =>
          split at h
          · cases h
          · next numbers =>
              split at h
              · cases h
              · next slots =>
                  obtain ⟨snapshot, _, h⟩ := Except.bind_eq_ok h
                  split at h
                  · cases h
                  · split at h
                    · cases h
                    · next shopItem sold =>
                        split at h
                        · cases h
                        · split at h
                          · cases h
                          · cases h
                            simp only [not_or, not_lt, not_le] at numbers slots
                            exact ⟨⟨value, rfl, askedItem⟩, ⟨value, rfl, askedQuantity⟩,
                              numbers.2.1, numbers.2.2, slots.1, slots.2, shopItem, sold, rfl⟩
      · cases h

/-- A purchase that commits. -/
theorem purchaseTransaction_eq_ok {catalog : Catalog} {fails : Call → Bool}
    {account after : Account} {request : Purchase} {data : Option TradeData}
    (h : purchaseTransaction catalog fails account request = .ok (after, data))
    : data.isSome = true
      ∧ totalsMatch account.rows request.snapshot.items = true
      ∧ catalog.Insertable account (request.snapshot.items ++ [request.item])
      ∧ ∃ money, account.money = some money ∧ 0 ≤ money - request.totalCost
        ∧ after = { rows := request.snapshot.items ++ [request.item],
                    money := some (money - request.totalCost) } := by
  unfold purchaseTransaction at h
  obtain ⟨_, _, h⟩ := Except.bind_eq_ok h
  obtain ⟨_, _, h⟩ := Except.bind_eq_ok h
  split at h
  · unfold refuse at h
    split at h <;> cases h
  · next matching =>
      obtain ⟨_, _, h⟩ := Except.bind_eq_ok h
      split at h
      · cases h
      · next money found =>
          split at h
          · unfold refuse at h
            split at h <;> cases h
          · dsimp only at h
            obtain ⟨rewritten, written, h⟩ := Except.bind_eq_ok h
            obtain ⟨paid, updated, h⟩ := Except.bind_eq_ok h
            obtain ⟨_, _, h⟩ := Except.bind_eq_ok h
            cases h
            obtain ⟨rfl, insertable⟩ := rewriteRows_eq_ok written
            obtain ⟨rfl, range⟩ := updateMoney_eq_ok updated
            have nonempty : request.snapshot.items ++ [request.item] ≠ [] := by simp
            refine ⟨rfl, by simpa using matching, insertable.resolve_left nonempty, money,
              found, (range money found).1, ?_⟩
            simp [found, sub_eq_add_neg]

-----------------------------------------------------------------------------------------
-- Sales
-----------------------------------------------------------------------------------------

/-- The checks of a sale. -/
theorem readSale_eq_ok {body : Option Value} {request : Sale}
    (h : readSale body = .ok request)
    : Asks body "item_id" request.item.itemId ∧ Asks body "quantity" request.item.quantity
      ∧ request.item ∈ request.snapshot.items := by
  unfold readSale at h
  split at h
  · cases h
  · next value =>
      split at h
      · next itemId slotIndex quantity inventory askedItem askedSlot askedQuantity _ =>
          split at h
          · cases h
          · obtain ⟨snapshot, _, h⟩ := Except.bind_eq_ok h
            split at h
            · cases h
            · next soldEntry found =>
                split at h
                · cases h
                · next same =>
                    cases h
                    rw [not_or, not_not, not_not] at same
                    obtain ⟨rfl, rfl⟩ := same
                    obtain rfl : soldEntry.slotIndex = slotIndex := by
                      simpa using List.find?_some found
                    exact ⟨⟨value, rfl, askedItem⟩, ⟨value, rfl, askedQuantity⟩,
                      List.mem_of_find?_eq_some found⟩
      · cases h

/-- The entry in the sold slot, and the rest of the snapshot. -/
theorem Snapshot.perm_sold (snapshot : Snapshot) {item : InventoryItem}
    (sold : item ∈ snapshot.items)
    : snapshot.items.Perm
        (snapshot.items.filter (·.slotIndex ≠ item.slotIndex) ++ [item]) := by
  have alone : snapshot.items.filter (·.slotIndex = item.slotIndex) = [item] := by
    have slots := snapshot.slots
    generalize snapshot.items = items at sold slots
    induction items with
    | nil => cases sold
    | cons head rest ih =>
        rw [List.map_cons, List.nodup_cons] at slots
        rcases List.mem_cons.mp sold with rfl | sold
        · have others : rest.filter (·.slotIndex = item.slotIndex) = [] := by
            refine List.filter_eq_nil_iff.mpr fun other mem same => slots.1 ?_
            rw [← of_decide_eq_true same]
            exact List.mem_map_of_mem mem
          rw [List.filter_cons_of_pos (by simp), others]
        · have apart : head.slotIndex ≠ item.slotIndex :=
            fun same => slots.1 (same ▸ List.mem_map_of_mem sold)
          rw [List.filter_cons_of_neg (by simpa using apart)]
          exact ih sold slots.2
  have split := List.filter_append_perm (fun other : InventoryItem =>
    decide (other.slotIndex ≠ item.slotIndex)) snapshot.items
  simp only [decide_not, Bool.not_not] at split ⊢
  rw [alone] at split
  exact split.symm

/-- A sale that commits. -/
theorem saleTransaction_eq_ok {catalog : Catalog} {fails : Call → Bool}
    {account after : Account} {request : Sale} {data : Option TradeData}
    (h : saleTransaction catalog fails account request = .ok (after, data))
    : (data.isSome = account.money.isSome)
      ∧ totalsMatch account.rows request.snapshot.items = true
      ∧ (after.rows = [] ∨ catalog.Insertable account after.rows)
      ∧ ∃ price, catalog.itemMeta.lookup request.item.itemId = some price
        ∧ after =
          { rows := request.snapshot.items.filter (·.slotIndex ≠ request.item.slotIndex),
            money := account.money.map (· + JavaScript.mul request.item.quantity price) }
        ∧ ∀ money, account.money = some money →
            0 ≤ money + JavaScript.mul request.item.quantity price
            ∧ money + JavaScript.mul request.item.quantity price < 2 ^ 32 := by
  unfold saleTransaction at h
  obtain ⟨_, _, h⟩ := Except.bind_eq_ok h
  obtain ⟨_, _, h⟩ := Except.bind_eq_ok h
  split at h
  · unfold refuse at h
    split at h <;> cases h
  · next matching =>
      obtain ⟨_, _, h⟩ := Except.bind_eq_ok h
      obtain ⟨_, _, h⟩ := Except.bind_eq_ok h
      split at h
      · unfold refuse at h
        split at h <;> cases h
      · next price found =>
          split at h
          · unfold refuse at h
            split at h <;> cases h
          · dsimp only at h
            obtain ⟨rewritten, written, h⟩ := Except.bind_eq_ok h
            obtain ⟨paid, updated, h⟩ := Except.bind_eq_ok h
            obtain ⟨_, _, h⟩ := Except.bind_eq_ok h
            cases h
            obtain ⟨rfl, insertable⟩ := rewriteRows_eq_ok written
            obtain ⟨rfl, range⟩ := updateMoney_eq_ok updated
            exact ⟨Option.isSome_map, by simpa using matching, insertable, price, found, rfl,
              range⟩

-----------------------------------------------------------------------------------------
-- The handlers of the shop
-----------------------------------------------------------------------------------------

/-- A trade leaves the account as it was and answers with an error, or its transaction has
committed.
-/
theorem trade_cases {Request : Type} (fails : Call → Bool) (account : Account)
    (read : Except Stop Request)
    (transaction : Request → Except Stop (Account × Option TradeData))
    : (trade fails account read transaction).1 = account
        ∧ (trade fails account read transaction).2.status ≠ 200
      ∨ ∃ request data, read = .ok request
        ∧ transaction request = .ok ((trade fails account read transaction).1, data)
        ∧ ((trade fails account read transaction).2.status = 200 ↔ data.isSome = true) := by
  unfold trade
  split
  · next status error => exact .inl ⟨rfl, status.code_ne_ok⟩
  · exact .inl ⟨rfl, (show (500 : Nat) ≠ 200 by decide)⟩
  · next request =>
      split
      · exact .inl ⟨rfl, (show (500 : Nat) ≠ 200 by decide)⟩
      · split
        · next committed =>
            exact .inr ⟨request, _, rfl, committed, by simp [Response.status]⟩
        · next committed =>
            exact .inr ⟨request, _, rfl, committed,
              by simp [Response.status, ErrorStatus.code]⟩
        · next status error _ => exact .inl ⟨rfl, status.code_ne_ok⟩
        · exact .inl ⟨rfl, ErrorStatus.code_ne_ok .internalServerError⟩

/-- What a trade does to an account: `sign` is one for a purchase and minus one for a sale. -/
structure Traded (price : Int → Int) (sign : Int) (body : Option Value) (before : Account)
    (result : Account × Response TradeData)
    : Prop where
  valid : result.1.Valid
  wealth : result.1.wealth price = before.wealth price
  refused : result.2.status ≠ 200 → result.1 = before
  booked : result.2.status = 200 →
    ∃ itemId quantity, Asks body "item_id" itemId ∧ Asks body "quantity" quantity
      ∧ ∀ other, totalOf result.1.rows other
        = totalOf before.rows other + if other = itemId then sign * quantity else 0

/-- What a trade does to the rows, whatever the prices are. -/
structure Booked (sign : Int) (body : Option Value) (before : Account)
    (result : Account × Response TradeData)
    : Prop where
  valid : result.1.Valid
  refused : result.2.status ≠ 200 → result.1 = before
  booked : result.2.status = 200 →
    ∃ itemId quantity, Asks body "item_id" itemId ∧ Asks body "quantity" quantity
      ∧ ∀ other, totalOf result.1.rows other
        = totalOf before.rows other + if other = itemId then sign * quantity else 0

/-- A refused trade has nothing else to show. -/
theorem Booked.of_refused {sign : Int} {body : Option Value} {before : Account}
    {result : Account × Response TradeData} (valid : before.Valid)
    (same : result.1 = before) (failed : result.2.status ≠ 200)
    : Booked sign body before result :=
  ⟨same ▸ valid, fun _ => same, fun ok => absurd ok failed⟩

theorem booked_purchase (catalog : Catalog) (fails : Call → Bool) {account : Account}
    (valid : account.Valid) (body : Option Value)
    : Booked 1 body account (purchase catalog fails account body) := by
  rcases trade_cases fails account (readPurchase catalog body)
    (purchaseTransaction catalog fails account)
    with ⟨same, failed⟩ | ⟨request, data, read, committed, status⟩
  · exact .of_refused valid same failed
  · change Booked 1 body account (trade fails account _ _)
    generalize trade fails account (readPurchase catalog body)
      (purchaseTransaction catalog fails account) = result at committed status
    obtain ⟨askedItem, askedQuantity, -, -, low, high, -⟩ := readPurchase_eq_ok read
    obtain ⟨answered, matching, insertable, money, found, enough, after⟩ :=
      purchaseTransaction_eq_ok committed
    have totals := valid.inSchema.totals matching
    refine ⟨?_, fun other => absurd (status.mpr answered) other, fun _ =>
      ⟨_, _, askedItem, askedQuantity, fun other => ?_⟩⟩
    · have inserted : catalog.Insertable account result.1.rows := by
        rw [after]
        exact insertable
      refine .of_insertable (.inr inserted) (fun _ => by rw [after]; rfl) ?_ ?_
      · intro row mem
        rw [after] at mem
        rcases List.mem_append.mp mem with mem | mem
        · exact request.snapshot.layout row mem
        · rw [List.mem_singleton.mp mem]
          exact ⟨low, high.trans (by decide)⟩
      · intro left same
        rw [after] at same
        cases same
        exact enough
    · rw [after]
      dsimp only
      rw [totalOf_append, totals, one_mul]
      simp only [eq_comm]

theorem traded_purchase {catalog : Catalog} {price : Int → Int}
    (shares : catalog.Shares price) (fails : Call → Bool) {account : Account}
    (valid : account.Valid) (body : Option Value)
    : Traded price 1 body account (purchase catalog fails account body) := by
  have rows := booked_purchase catalog fails valid body
  refine ⟨rows.valid, ?_, rows.refused, rows.booked⟩
  rcases trade_cases fails account (readPurchase catalog body)
    (purchaseTransaction catalog fails account)
    with ⟨same, failed⟩ | ⟨request, data, read, committed, status⟩
  · exact congrArg _ same
  · obtain ⟨-, -, lower, upper, -, -, shopItem, sold, cost⟩ := readPurchase_eq_ok read
    obtain ⟨-, matching, -, money, found, -, after⟩ := purchaseTransaction_eq_ok committed
    have totals := valid.inSchema.totals matching
    obtain ⟨nonneg, small⟩ := shares.range request.item.itemId
    have exactCost : request.totalCost
        = price request.item.itemId * request.item.quantity := by
      rw [cost, shares.shop _ _ sold]
      refine JavaScript.mul_eq_of_le (mul_nonneg nonneg (by omega)) ?_
      calc price request.item.itemId * request.item.quantity
          ≤ 2 ^ 32 * 99 := mul_le_mul small.le upper (by omega) (by decide)
        _ ≤ JavaScript.exactBound := by decide
    rw [purchase, after]
    simp only [Account.wealth, found, Option.getD_some, worth_append, worth_singleton,
      exactCost, worth_congr price totals]
    omega

/-- A snapshot with an item has some quantity of it. -/
theorem Snapshot.totalOf_pos (snapshot : Snapshot) {item : InventoryItem}
    (held : item ∈ snapshot.items)
    : 0 < totalOf snapshot.items item.itemId := by
  have rest : 0 ≤ totalOf (snapshot.items.filter (·.slotIndex ≠ item.slotIndex))
      item.itemId := by
    refine List.sum_nonneg fun quantity booked => ?_
    obtain ⟨booking, kept, rfl⟩ := List.mem_map.mp booked
    obtain ⟨other, held, rfl⟩ := List.mem_map.mp (List.mem_of_mem_filter kept)
    have := (snapshot.wellFormed other (List.mem_of_mem_filter held)).2.2.2
    exact le_trans (by decide) this
  have positive := (snapshot.wellFormed item held).2.2.2
  rw [totalOf, Ledger.amount_perm ((snapshot.perm_sold held).map _), ← totalOf,
    totalOf_append, if_pos rfl]
  omega

/-- A guest has no rows, so nothing that matches a snapshot with an item. -/
theorem Account.InSchema.money_of_held {account : Account} (h : account.InSchema)
    {snapshot : Snapshot} {item : InventoryItem} (held : item ∈ snapshot.items)
    (matching : totalsMatch account.rows snapshot.items = true)
    : ∃ money, account.money = some money := by
  refine Option.isSome_iff_exists.mp (h.user fun empty => ?_)
  have positive := snapshot.totalOf_pos held
  rw [h.totals matching, empty] at positive
  exact lt_irrefl 0 positive

theorem booked_sell (catalog : Catalog) (fails : Call → Bool) {account : Account}
    (valid : account.Valid) (body : Option Value)
    : Booked (-1) body account (sell catalog fails account body) := by
  rcases trade_cases fails account (readSale body) (saleTransaction catalog fails account)
    with ⟨same, failed⟩ | ⟨request, data, read, committed, status⟩
  · exact .of_refused valid same failed
  · change Booked (-1) body account (trade fails account _ _)
    generalize trade fails account (readSale body) (saleTransaction catalog fails account)
      = result at committed status
    obtain ⟨askedItem, askedQuantity, held⟩ := readSale_eq_ok read
    obtain ⟨answered, matching, insertable, cached, known, after, range⟩ :=
      saleTransaction_eq_ok committed
    have totals := valid.inSchema.totals matching
    obtain ⟨money, found⟩ := valid.inSchema.money_of_held held matching
    obtain ⟨nonneg, small⟩ := range money found
    have split := request.snapshot.perm_sold held
    refine ⟨?_, fun other => absurd (status.mpr (answered.trans (by rw [found]; rfl))) other,
      fun _ => ⟨_, _, askedItem, askedQuantity, fun other => ?_⟩⟩
    · refine .of_insertable insertable (fun _ => by rw [after, found]; rfl) ?_ ?_
      · intro row mem
        rw [after] at mem
        exact request.snapshot.layout row (List.mem_of_mem_filter mem)
      · intro left same
        rw [after, found] at same
        cases same
        exact nonneg
    · have whole : totalOf request.snapshot.items other = _ :=
        Ledger.amount_perm (split.map InventoryItem.booking) other
      rw [← totalOf, totalOf_append, totals] at whole
      rw [after, whole]
      dsimp only
      by_cases same : other = request.item.itemId
      · rw [if_pos same.symm, if_pos same]
        omega
      · rw [if_neg (Ne.symm same), if_neg same]
        omega

theorem traded_sell {catalog : Catalog} {price : Int → Int}
    (shares : catalog.Shares price) (fails : Call → Bool) {account : Account}
    (valid : account.Valid) (body : Option Value)
    : Traded price (-1) body account (sell catalog fails account body) := by
  have rows := booked_sell catalog fails valid body
  refine ⟨rows.valid, ?_, rows.refused, rows.booked⟩
  rcases trade_cases fails account (readSale body) (saleTransaction catalog fails account)
    with ⟨same, failed⟩ | ⟨request, data, read, committed, status⟩
  · exact congrArg _ same
  · obtain ⟨-, -, held⟩ := readSale_eq_ok read
    obtain ⟨-, matching, -, cached, known, after, range⟩ := saleTransaction_eq_ok committed
    have totals := valid.inSchema.totals matching
    obtain ⟨money, found⟩ := valid.inSchema.money_of_held held matching
    obtain ⟨nonneg, small⟩ := range money found
    have quantity := (request.snapshot.wellFormed request.item held).2.2.2
    have solvent := valid.solvent money found
    have payout : JavaScript.mul request.item.quantity cached
        = price request.item.itemId * request.item.quantity := by
      rw [shares.itemMeta _ _ known] at small ⊢
      rw [mul_comm (price _)]
      refine JavaScript.mul_eq_of_lt
        (mul_nonneg (by omega) (shares.range request.item.itemId).1) ?_
      exact lt_of_lt_of_le (by omega : _ < (2 ^ 32 : Int)) (by decide)
    have whole := worth_perm price (request.snapshot.perm_sold held)
    rw [worth_append, worth_singleton, worth_congr price totals] at whole
    rw [sell, after]
    simp only [Account.wealth, found, Option.map_some, Option.getD_some, payout]
    omega

-----------------------------------------------------------------------------------------
-- The handler of the match
-----------------------------------------------------------------------------------------

/-- What a start does to an account: rows may change their slots and be split or joined. -/
structure Rearranged (price : Int → Int) (before after : Account) : Prop where
  valid : after.Valid
  wealth : after.wealth price = before.wealth price
  booked : ∀ itemId, totalOf after.rows itemId = totalOf before.rows itemId

theorem rearranged_start (catalog : Catalog) (price : Int → Int) (fails : Call → Bool)
    (index : Fin FREE_LOADOUT_PRESETS.length) (ticketId : String) (session : SessionHash)
    (state : StartState) (valid : state.account.Valid) (body : Option Value)
    : Rearranged price state.account
        (start catalog fails index ticketId session state body).1.account := by
  rcases start_account_cases catalog fails index ticketId session state body
    with same | ⟨_, request, loadout, _, _, committed⟩
  · rw [same]
    exact ⟨valid, rfl, fun _ => rfl⟩
  · generalize (start catalog fails index ticketId session state body).1.account = after
      at committed
    obtain ⟨matching, rfl, insertable⟩ := startTransaction_eq_ok committed
    have totals := valid.inSchema.totals matching
    refine ⟨.of_insertable insertable id request.snapshot.layout valid.solvent, ?_, totals⟩
    simp only [Account.wealth, worth_congr price totals]

-----------------------------------------------------------------------------------------
-- Any sequence of requests
-----------------------------------------------------------------------------------------

/-- A request of the lobby. A start also finds some session and some state of Redis. -/
inductive LobbyRequest where
  | purchase (fails : Call → Bool) (body : Option Value)
  | sell (fails : Call → Bool) (body : Option Value)
  | start (fails : Call → Bool) (index : Fin FREE_LOADOUT_PRESETS.length)
      (ticketId : String) (session : SessionHash) (redis : Redis) (body : Option Value)

/-- The account after a request. -/
def LobbyRequest.handle (catalog : Catalog) (account : Account) : LobbyRequest → Account
  | .purchase fails body => (Lobby.purchase catalog fails account body).1
  | .sell fails body => (Lobby.sell catalog fails account body).1
  | .start fails index ticketId session redis body =>
      (Lobby.start catalog fails index ticketId session { account, redis } body).1.account

def lobbySystem (catalog : Catalog) : System Account LobbyRequest where
  initial := Account.Valid
  step before request after := request.handle catalog before = after

/-- One request keeps the account valid and its wealth. -/
theorem LobbyRequest.handle_wealth {catalog : Catalog} {price : Int → Int}
    (shares : catalog.Shares price) {account : Account} (valid : account.Valid)
    (request : LobbyRequest)
    : (request.handle catalog account).Valid
      ∧ (request.handle catalog account).wealth price = account.wealth price := by
  cases request with
  | purchase fails body =>
      have traded := traded_purchase shares fails valid body
      exact ⟨traded.valid, traded.wealth⟩
  | sell fails body =>
      have traded := traded_sell shares fails valid body
      exact ⟨traded.valid, traded.wealth⟩
  | start fails index ticketId session redis body =>
      have rearranged := rearranged_start catalog price fails index ticketId session
        { account, redis } valid body
      exact ⟨rearranged.valid, rearranged.wealth⟩

/-- However the lobby has been used, the account is valid and as wealthy as it was; and
whatever is requested next does to it what it should, on any bodies and failures.
-/
theorem wealth_conserved {catalog : Catalog} {price : Int → Int}
    (shares : catalog.Shares price) {first last : Account} (valid : first.Valid)
    {requests : List LobbyRequest} (run : (lobbySystem catalog).Run first requests last)
    : last.Valid ∧ last.wealth price = first.wealth price
      ∧ (∀ fails body, Traded price 1 body last (purchase catalog fails last body))
      ∧ (∀ fails body, Traded price (-1) body last (sell catalog fails last body))
      ∧ ∀ fails index ticketId session redis body,
          Rearranged price last
            (start catalog fails index ticketId session { account := last, redis }
              body).1.account := by
  obtain ⟨kept, wealth⟩ : last.Valid ∧ last.wealth price = first.wealth price := by
    refine run.preserves
      (P := fun account => account.Valid ∧ account.wealth price = first.wealth price)
      ?_ ⟨valid, rfl⟩
    rintro before request after ⟨valid, same⟩ rfl
    obtain ⟨kept, wealth⟩ := request.handle_wealth shares valid
    exact ⟨kept, wealth.trans same⟩
  exact ⟨kept, wealth, fun fails body => traded_purchase shares fails kept body,
    fun fails body => traded_sell shares fails kept body,
    fun fails index ticketId session redis body =>
      rearranged_start catalog price fails index ticketId session
        { account := last, redis } kept body⟩

/-- A shop with one weapon. -/
def weaponShop : Catalog where
  items := AList.singleton 1 .weapon
  shop := AList.singleton 1 { isActive := true, price := 100, itemType := .weapon }
  itemMeta := AList.singleton 1 100

def weaponPrice (itemId : Int) : Int := if itemId = 1 then 100 else 0

theorem weaponShop_shares : weaponShop.Shares weaponPrice := by
  refine ⟨fun itemId shopItem found => ?_, fun itemId cached found => ?_, fun itemId => ?_⟩
  · by_cases weapon : itemId = 1
    · subst weapon
      cases found
      rfl
    · have absent : weaponShop.shop.lookup itemId = none :=
        AList.lookup_eq_none.mpr fun mem => weapon (List.mem_singleton.mp mem)
      rw [absent] at found
      cases found
  · by_cases weapon : itemId = 1
    · subst weapon
      cases found
      rfl
    · have absent : weaponShop.itemMeta.lookup itemId = none :=
        AList.lookup_eq_none.mpr fun mem => weapon (List.mem_singleton.mp mem)
      rw [absent] at found
      cases found
  · unfold weaponPrice
    split <;> decide

def buyer : Account where
  rows := []
  money := some 500

def buyWeapon : Value :=
  .object
    [("item_id", .integer 1), ("slot_index", .integer 0), ("quantity", .integer 1),
      ("inventory", .array [])]

/-- The buyer has less money and a weapon for it. -/
theorem buyer_wealth
    : let after := (purchase weaponShop (fun _ => false) buyer (some buyWeapon)).1
      after.rows = [{ itemId := 1, slotIndex := 0, quantity := 1 }]
      ∧ after.wealth weaponPrice = buyer.wealth weaponPrice := by
  have run : (lobbySystem weaponShop).Run buyer
      [.purchase (fun _ => false) (some buyWeapon)]
      (purchase weaponShop (fun _ => false) buyer (some buyWeapon)).1 :=
    .cons rfl (.nil _)
  have valid : buyer.Valid :=
    ⟨⟨by decide, by decide, fun _ => rfl⟩, by decide, fun money found => by cases found; decide⟩
  exact ⟨by decide +kernel, (wealth_conserved weaponShop_shares valid run).2.1⟩

end ExtractionServer.Lobby
