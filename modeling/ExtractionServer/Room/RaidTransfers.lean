import ExtractionServer.Room.Homecoming

/-! The items of one account between the lobby and its raids. `/match/start` copies them into a
ticket, the room is made of the copy, and `/match/connect` deletes the rows. Nothing is
duplicated as long as the rows in between still have what has been copied.
-/

namespace ExtractionServer.Lobby

-----------------------------------------------------------------------------------------
-- The tickets of a start
-----------------------------------------------------------------------------------------

/-- The fields are those of a request and its loadout. -/
structure TicketFields.Copies (fields : TicketFields) (session : SessionHash)
    (request : StartRequest) (loadout : Loadout)
    : Prop where
  uid : fields.uid = session.dbId
  loadoutType : fields.loadoutType = request.loadoutType
  inventoryItems : fields.inventoryItems = loadout.inventoryItems
  equipmentItems : fields.equipmentItems = loadout.equipmentItems

section Tickets

variable {fails : Call → Bool} {ticketId other : String} {session : SessionHash}
  {fields : TicketFields}

theorem StartState.tickets_release (state : StartState) (fails : Call → Bool) (del : Call)
    (uid : Int)
    : (state.release fails del uid).redis.tickets = state.redis.tickets := by
  unfold release
  split <;> rfl

/-- An answer of the last part, whatever fails, leaves one new ticket at most. -/
theorem StartState.fields_enqueue {state : StartState} {request : StartRequest}
    {loadout : Loadout}
    (found : (state.enqueue fails ticketId session request loadout).1.redis.fields other
      = some fields)
    : state.redis.fields other = some fields ∨ fields.Copies session request loadout := by
  have made (hash : TicketHash) (copied : hash.fields = some fields →
      fields.Copies session request loadout)
      (found : (((state.redis.tickets.insert ticketId hash).lookup other).bind (·.fields))
        = some fields)
      : state.redis.fields other = some fields ∨ fields.Copies session request loadout := by
    by_cases same : other = ticketId
    · subst same
      rw [AList.lookup_insert, Option.bind_some] at found
      exact .inr (copied found)
    · rw [AList.lookup_insert_ne same] at found
      exact .inl found
  unfold enqueue at found
  dsimp only at found
  split at found
  · rw [Redis.fields, catchError, tickets_release] at found
    exact .inl found
  · split at found
    · exact .inl found
    · split at found
      · rw [Redis.fields, catchError, tickets_release, tickets_release] at found
        exact .inl found
      · split at found
        · rw [Redis.fields, catchError, tickets_release, tickets_release] at found
          refine made _ (fun copied => ?_) found
          cases copied
          exact ⟨rfl, rfl, rfl, rfl⟩
        · refine made _ (fun copied => ?_) found
          cases copied
          exact ⟨rfl, rfl, rfl, rfl⟩

theorem startTransaction_free {catalog : Catalog} {account after : Account}
    {preset loadout : Loadout} {request : StartRequest}
    (committed : startTransaction catalog fails account preset request = .ok (after, loadout))
    (free : request.loadoutType = .free)
    : loadout = preset := by
  unfold startTransaction at committed
  obtain ⟨_, _, committed⟩ := Except.bind_eq_ok committed
  obtain ⟨_, _, committed⟩ := Except.bind_eq_ok committed
  dsimp only at committed
  split at committed
  · cases committed
  · obtain ⟨_, _, committed⟩ := Except.bind_eq_ok committed
    rw [free] at committed
    obtain ⟨_, _, committed⟩ := Except.bind_eq_ok committed
    exact (Prod.mk.inj (Except.ok.inj committed)).2.symm

/-- A ticket that a start leaves was there before, or copies what its transaction has stored.
-/
theorem fields_start {catalog : Catalog} {index : Fin FREE_LOADOUT_PRESETS.length}
    {state : StartState} {body : Option JavaScript.Value}
    (found : (start catalog fails index ticketId session state body).1.redis.fields other
      = some fields)
    : state.redis.fields other = some fields
      ∨ ∃ request loadout, fields.Copies session request loadout
        ∧ startTransaction catalog fails state.account (FREE_LOADOUT_PRESETS.get index) request
          = .ok ((start catalog fails index ticketId session state body).1.account,
              loadout) := by
  unfold start at found ⊢
  split at found
  · exact .inl found
  · split at found
    · exact .inl found
    · rw [Redis.fields, StartState.catchError, StartState.tickets_release] at found
      exact .inl found
    · next request read =>
        split at found
        · rw [Redis.fields, StartState.catchError, StartState.tickets_release] at found
          exact .inl found
        · next connected =>
            rw [if_neg connected]
            split at found
            · exact .inl found
            · rw [Redis.fields, StartState.catchError, StartState.tickets_release] at found
              exact .inl found
            · next account loadout committed =>
                rw [StartState.account_enqueue]
                rcases StartState.fields_enqueue found with old | copies
                · exact .inl old
                · exact .inr ⟨request, loadout, copies, committed⟩

end Tickets

end ExtractionServer.Lobby

namespace ExtractionServer.Room

open Lobby Matchmaking

-----------------------------------------------------------------------------------------
-- Raids of an account
-----------------------------------------------------------------------------------------

/-- A raid: the fields of its ticket, its session, and the loadout type that the entry token
got, which is `FREE` if the ticket was gone by then.
-/
structure Raid where
  fields : TicketFields
  session : PlayerSession
  token : Option LoadoutType := none
  connected : Bool := false
  left : Bool := false

/-- The account, Redis, the raids of the account by ticket, and how many of each item the
account should have.
-/
structure Transfers where
  account : Account
  redis : Redis
  raids : Table String Raid := ∅
  books : Nat → Int

/-- The quantity of an item that a trade asks for. -/
def asked (body : Option JavaScript.Value) (blueprintId : Nat) : Int :=
  match body with
  | none => 0
  | some value =>
      match JavaScript.Value.integer? (value.get "item_id"),
        JavaScript.Value.integer? (value.get "quantity") with
      | some itemId, some quantity => if (blueprintId : Int) = itemId then quantity else 0
      | _, _ => 0

/-- The items of a raid count from its `/match/connect` to its leave, those of a free loadout
from the start.
-/
def Raid.held (blueprintId : Nat) (raid : Raid) : Int :=
  if raid.left = false ∧ (raid.connected = true ∨ raid.fields.loadoutType = .free)
  then raid.session.inventory.holdings blueprintId else 0

/-- The notice of a leave as the request that it becomes. -/
def Raid.request (raid : Raid) (reason : LeaveReason) (now : TimePoint)
    (notifyRSeq : BitVec 32)
    : NotifyPlayerLeftRequest :=
  .ofPacket (raid.session.markLeaving reason now notifyRSeq).leftNotice

namespace Transfers

inductive Action where
  | purchase (fails : Call → Bool) (body : Option JavaScript.Value)
  | sell (fails : Call → Bool) (body : Option JavaScript.Value)
  | start (fails : Call → Bool) (index : Fin FREE_LOADOUT_PRESETS.length) (ticketId : String)
      (session : SessionHash) (body : Option JavaScript.Value)
  /-- Commands of the matchmaker and of other accounts, and ends of lifetimes. -/
  | command (after : Redis)
  /-- `MakeRoomForThisGroup`, once for a ticket, as the main process has read it. -/
  | makeRoom (ticketId : String) (ticket : MatchTicket) (securityKey : BitVec 32)
  /-- `UpdateEntryTokenRequest::Execute`. -/
  | updateEntryToken (ticketId : String)
  /-- `/match/connect` with the entry token of the raid, by whichever account has it. The
  `DELETE` may fail.
  -/
  | connect (caller : Int) (ticketId : String) (fails : Bool)
  /-- `/match/connect` of the account with the `CUSTOM` token of another account. -/
  | connectElsewhere
  /-- What the raid does to the inventory. -/
  | play (ticketId : String) (inventory : PlayerInventory)
  /-- `NotifyPlayerLeftRequest::Execute` on a table with the rows of the account. -/
  | leave (ticketId : String) (reason : LeaveReason) (now : TimePoint) (notifyRSeq : BitVec 32)
      (weather : NotifyPlayerLeftRequest.Weather) (table : List InventoryRow)

/-- The ticket whose loadout an action brings in or home. -/
def Action.ticketId : Action → Option String
  | .connect _ ticketId _ => some ticketId
  | .leave ticketId _ _ _ _ _ => some ticketId
  | _ => none

/-- A command on Redis writes no ticket fields for the account. -/
def KeepsTickets (uid : Int) (before after : Redis) : Prop :=
  ∀ ticketId ∈ after.tickets.keys, ∀ fields ∈ after.fields ticketId, fields.uid = uid →
    before.fields ticketId = some fields

instance (uid : Int) (before after : Redis) : Decidable (KeepsTickets uid before after) :=
  inferInstanceAs (Decidable (∀ _ ∈ _, ∀ _ ∈ _, _ → _))

def setRaid (state : Transfers) (ticketId : String) (raid : Raid) : Transfers :=
  { state with raids := state.raids.adjust ticketId fun _ => raid }

/-- A change of the books. -/
def book (state : Transfers) (amount : Nat → Int) : Transfers :=
  { state with books := fun blueprintId => state.books blueprintId + amount blueprintId }

/-- A successful trade is booked; `sign` is one for a purchase and minus one for a sale. -/
def trade (state : Transfers) (sign : Int) (body : Option JavaScript.Value)
    (result : Account × Response TradeData)
    : Transfers :=
  { state with account := result.1 }.book fun blueprintId =>
    if result.2.status = 200 then sign * asked body blueprintId else 0

/-- The `DELETE` of `/match/connect`, for the account of the caller. -/
def deleteRaidRows (state : Transfers) : Transfers :=
  let rows := state.account.rows.filter fun row =>
    !decide (INVENTORY_SLOT_MIN ≤ row.slotIndex ∧ row.slotIndex ≤ LOADOUT_SLOT_MAX)
  { state with account := { state.account with rows } }

def next (catalog : Catalog) (uid : Int) (state : Transfers) : Action → Option Transfers
  | .purchase fails body =>
      some (state.trade 1 body (purchase catalog fails state.account body))
  | .sell fails body => some (state.trade (-1) body (sell catalog fails state.account body))
  | .start fails index ticketId session body =>
      if session.dbId = uid then
        let after := (start catalog fails index ticketId session
          { account := state.account, redis := state.redis } body).1
        some { state with account := after.account, redis := after.redis }
      else none
  | .command redis =>
      if KeepsTickets uid state.redis redis then some { state with redis } else none
  | .makeRoom ticketId ticket securityKey =>
      match state.redis.fields ticketId with
      | none => none
      | some fields =>
          if fields.uid = uid ∧ ticketId ∉ state.raids then
            let session := DediServerService.newSession (ticket.toPlayerInfo fields) securityKey
            some
              ({ state with
                  raids := state.raids.tryEmplace ticketId { fields, session } }.book fun b =>
                -- The items of a free loadout come from nowhere.
                if fields.loadoutType = LoadoutType.free then session.inventory.holdings b
                else 0)
          else none
  | .updateEntryToken ticketId =>
      (state.raids.lookup ticketId).map fun raid =>
        let loadoutType := ((state.redis.fields ticketId).map (·.loadoutType)).getD LoadoutType.free
        state.setRaid ticketId { raid with token := some loadoutType }
  | .connect caller ticketId fails =>
      match state.raids.lookup ticketId with
      | none => none
      | some raid =>
          match raid.token with
          | none => none
          | some .free => some (state.setRaid ticketId { raid with connected := true })
          | some .custom =>
              if fails then some state
              else
                -- Nothing compares the caller with the account of the ticket.
                let paid := if caller = uid then state.deleteRaidRows else state
                some (paid.setRaid ticketId { raid with connected := true })
  | .connectElsewhere => some state.deleteRaidRows
  | .play ticketId inventory =>
      match state.raids.lookup ticketId with
      | none => none
      | some raid =>
          if raid.connected && !raid.left then
            some
              ((state.setRaid ticketId
                { raid with session := { raid.session with inventory } }).book fun b =>
                  inventory.holdings b - raid.session.inventory.holdings b)
          else none
  | .leave ticketId reason now notifyRSeq weather table =>
      match state.raids.lookup ticketId with
      | none => none
      | some raid =>
          let proxy : DBProxy := { mysql := { committed := table }, redis := state.redis }
          let left := (raid.request reason now notifyRSeq).execute weather proxy
          let rows := itemsOf uid left.mysql.committed
          if raid.left || !raid.session.acceptsLeaveReason reason then none
          -- New rows that the database has taken are within the schema.
          else if itemsOf uid table = state.account.rows
              ∧ (rows = state.account.rows ∨ rows = []
                ∨ catalog.Insertable state.account rows) then
            some
              ({ state with account := { state.account with rows } }.setRaid ticketId
                { raid with left := true })
          else none

-----------------------------------------------------------------------------------------
-- Careful runs
-----------------------------------------------------------------------------------------

/-- The inventory that a ticket brings into the raid. -/
def broughtBy (fields : TicketFields) : PlayerInventory :=
  .ofSlots ((fields.inventoryItems.map InventoryEntry.toSlot).map DediServerService.toSlot)
    ((fields.equipmentItems.map EquipmentEntry.toSlot).map DediServerService.toSlot)

/-- A loadout of the account that has been copied and whose rows are not deleted yet. -/
def Pending (uid : Int) (state : Transfers) (ticketId : String) (inventory : PlayerInventory)
    : Prop :=
  (∃ fields, state.redis.fields ticketId = some fields ∧ fields.uid = uid
      ∧ fields.loadoutType = .custom ∧ ticketId ∉ state.raids ∧ inventory = broughtBy fields)
    ∨ ∃ raid, state.raids.lookup ticketId = some raid ∧ raid.fields.loadoutType = .custom
      ∧ raid.connected = false ∧ raid.left = false ∧ inventory = raid.session.inventory

/-- The layout in which an action asks for the rows of the account. -/
def layout (catalog : Catalog) (uid : Int) (state : Transfers)
    : Action → Option (List InventoryItem)
  | .purchase _ body =>
      (readPurchase catalog body).toOption.map fun request =>
        request.snapshot.items ++ [request.item]
  | .sell _ body =>
      (readSale body).toOption.map fun request =>
        request.snapshot.items.filter (·.slotIndex ≠ request.item.slotIndex)
  | .start _ _ _ _ body =>
      (body.bind fun value => (readStart value).toOption).map (·.snapshot.items)
  | .connect caller ticketId fails =>
      if caller = uid ∧ fails = false
          ∧ (state.raids.lookup ticketId).any (·.token = some .custom) then
        some state.deleteRaidRows.account.rows
      else none
  | .connectElsewhere => some state.deleteRaidRows.account.rows
  | .leave ticketId reason now notifyRSeq _ _ =>
      (state.raids.lookup ticketId).map fun raid =>
        (raid.request reason now notifyRSeq).home state.account.rows
  | _ => none

/-- Rows have, in the slots of the raid, whatever the pending loadouts will bring in, but for
that of one ticket.
-/
def Pays (uid : Int) (state : Transfers) (apart : Option String) (rows : List InventoryItem)
    : Prop :=
  ∀ ticketId inventory, state.Pending uid ticketId inventory → apart ≠ some ticketId →
    ∀ blueprintId : Nat, inventory.holdings blueprintId ≤ totalOf (raidRows rows) blueprintId

/-- The layout that an action asks for has what the other pending loadouts will bring in, the
ticket is there when its entry token is made, a `CUSTOM` token is used by the account itself,
and a raid keeps inventories in order.
-/
structure Careful (catalog : Catalog) (uid : Int) (before : Transfers) (action : Action)
    : Prop where
  layout : ∀ rows, before.layout catalog uid action = some rows →
    before.Pays uid action.ticketId rows
  token : ∀ ticketId raid, action = .updateEntryToken ticketId →
    before.raids.lookup ticketId = some raid → before.redis.fields ticketId = some raid.fields
  caller : ∀ caller ticketId fails raid, action = .connect caller ticketId fails →
    before.raids.lookup ticketId = some raid → raid.token = some .custom → caller = uid
  played : ∀ ticketId inventory, action = .play ticketId inventory →
    SlotStore.WellFormed { inventory } ∧ inventory.IntItems

/-- An account with no ticket and no raid, whose rows are in the books. -/
structure Fresh (uid : Int) (state : Transfers) : Prop where
  valid : state.account.Valid
  counted : ∀ row ∈ state.account.rows, 0 ≤ row.quantity
  tickets : ∀ ticketId fields, state.redis.fields ticketId = some fields → fields.uid ≠ uid
  raids : state.raids = ∅
  books : ∀ blueprintId : Nat, state.books blueprintId = totalOf state.account.rows blueprintId

/-- How many of an item the account has in its rows and in its raids. -/
def balance (state : Transfers) (blueprintId : Nat) : Int :=
  totalOf state.account.rows blueprintId
    + state.raids.total fun _ raid => raid.held blueprintId

-----------------------------------------------------------------------------------------
-- What every careful run keeps
-----------------------------------------------------------------------------------------

/-- A ticket that brings an inventory in order. -/
def Proper (inventory : PlayerInventory) : Prop :=
  SlotStore.WellFormed { inventory } ∧ inventory.IntItems

/-- A raid of the account, with a session in order. -/
structure Raids (uid : Int) (raid : Raid) : Prop where
  account : raid.session.uid = uid
  proper : Proper raid.session.inventory
  staying : raid.session.leaveState = .none
  token : raid.token = some .free → raid.fields.loadoutType = .free

/-- The account has no more of any item than the books say, and the rows still pay for every
loadout that is pending.
-/
structure Balanced (uid : Int) (state : Transfers) : Prop where
  valid : state.account.Valid
  counted : ∀ row ∈ state.account.rows, 0 ≤ row.quantity
  tickets : ∀ ticketId fields, state.redis.fields ticketId = some fields →
    fields.uid = uid → Proper (broughtBy fields)
  raids : ∀ ticketId raid, state.raids.lookup ticketId = some raid → Raids uid raid
  paid : state.Pays uid none state.account.rows
  balanced : ∀ blueprintId, state.balance blueprintId ≤ state.books blueprintId

theorem Fresh.balanced {uid : Int} {state : Transfers} (h : Fresh uid state)
    : Balanced uid state where
  valid := h.valid
  counted := h.counted
  tickets ticketId fields found own := absurd own (h.tickets ticketId fields found)
  raids ticketId raid found := by
    rw [h.raids] at found
    cases found
  paid ticketId inventory pending _ := by
    rcases pending with ⟨fields, found, own, -⟩ | ⟨raid, found, -⟩
    · exact absurd own (h.tickets ticketId fields found)
    · rw [h.raids] at found
      cases found
  balanced blueprintId := by
    rw [h.books, balance, h.raids]
    exact (Int.add_zero _).le

section Steps

variable {catalog : Catalog} {uid : Int} {before after : Transfers} {ticketId : String}

theorem Proper.holdings_nonneg {inventory : PlayerInventory} (h : Proper inventory)
    (blueprintId : Nat)
    : 0 ≤ inventory.holdings blueprintId :=
  slotUnits_nonneg blueprintId fun _ mem => h.1.lootOrder mem

/-- A raid never holds a negative number of anything. -/
theorem Raids.held_nonneg {raid : Raid} (h : Raids uid raid) (blueprintId : Nat)
    : 0 ≤ raid.held blueprintId := by
  unfold Raid.held
  split
  · exact h.proper.holdings_nonneg blueprintId
  · exact Int.le_refl 0

/-- A trade leaves the rows as they were, or well-formed entries in their place. -/
theorem counted_of_trade {Request : Type} {fails : Call → Bool} {account : Account}
    {read : Except Stop Request}
    {transaction : Request → Except Stop (Account × Option TradeData)}
    (counted : ∀ row ∈ account.rows, 0 ≤ row.quantity)
    (committed : ∀ request done data, read = .ok request →
      transaction request = .ok (done, data) → ∀ row ∈ done.rows, 0 ≤ row.quantity)
    : ∀ row ∈ (Lobby.trade fails account read transaction).1.rows, 0 ≤ row.quantity := by
  rcases trade_cases fails account read transaction
    with ⟨same, -⟩ | ⟨request, data, accepted, done, -⟩
  · rwa [same]
  · exact committed request _ data accepted done

theorem counted_of_snapshot (snapshot : Snapshot)
    : ∀ row ∈ snapshot.items, 0 ≤ row.quantity := fun row mem =>
  (Int.le_trans (by decide) (snapshot.wellFormed row mem).2.2.2)

/-- The rows pay for whatever is pending, so for all of it but one. -/
theorem Balanced.paid_apart (h : Balanced uid before) {apart : Option String}
    : before.Pays uid apart before.account.rows := fun other inventory pending _ =>
  h.paid other inventory pending (Option.some_ne_none other).symm

/-- A trade stores the layout that it asks for, or leaves the rows. -/
theorem rows_of_trade {Request : Type} {fails : Call → Bool} {account : Account}
    {read : Except Stop Request}
    {transaction : Request → Except Stop (Account × Option TradeData)}
    {layout : Request → List InventoryItem}
    (stores : ∀ request done data, transaction request = .ok (done, data) →
      done.rows = layout request)
    : (Lobby.trade fails account read transaction).1.rows = account.rows
      ∨ read.toOption.map layout
        = some (Lobby.trade fails account read transaction).1.rows := by
  rcases trade_cases fails account read transaction
    with ⟨same, -⟩ | ⟨request, data, rfl, done, -⟩
  · exact .inl (congrArg _ same)
  · exact .inr (congrArg some (stores request _ data done).symm)

/-- The rows pay after a step that leaves them or stores what it asks for. -/
theorem Balanced.pays (h : Balanced uid before) {action : Action}
    (calm : Careful catalog uid before action) {rows : List InventoryItem}
    (stored : rows = before.account.rows ∨ before.layout catalog uid action = some rows)
    : before.Pays uid action.ticketId rows := by
  rcases stored with rfl | asked
  · exact h.paid_apart
  · exact calm.layout rows asked

/-- What a trade asked for and got. -/
theorem asked_of_booked {body : Option JavaScript.Value} {itemId quantity : Int}
    (item : Asks body "item_id" itemId) (amount : Asks body "quantity" quantity)
    (blueprintId : Nat)
    : asked body blueprintId = if (blueprintId : Int) = itemId then quantity else 0 := by
  obtain ⟨value, rfl, item⟩ := item
  obtain ⟨_, same, amount⟩ := amount
  cases same
  simp only [asked, item, amount]

/-- A trade moves the rows and the books by the same amounts. -/
theorem Balanced.trade (h : Balanced uid before) {sign : Int} {body : Option JavaScript.Value}
    {result : Account × Response TradeData}
    (traded : Booked sign body before.account result)
    (counted : ∀ row ∈ result.1.rows, 0 ≤ row.quantity)
    (pays : before.Pays uid none result.1.rows)
    : Balanced uid (before.trade sign body result) where
  valid := traded.valid
  counted := counted
  tickets := h.tickets
  raids := h.raids
  paid := pays
  balanced blueprintId := by
    have held := h.balanced blueprintId
    unfold balance at held
    show totalOf result.1.rows blueprintId
        + (before.raids.total fun _ raid => raid.held blueprintId)
      ≤ before.books blueprintId
        + if result.2.status = 200 then sign * asked body blueprintId else 0
    by_cases success : result.2.status = 200
    · obtain ⟨itemId, quantity, item, amount, booked⟩ := traded.booked success
      rw [if_pos success, booked, asked_of_booked item amount]
      split <;> omega
    · rw [if_neg success, traded.refused success]
      omega

/-- Stacks of items with small ids make a proper inventory. -/
theorem proper_ofSlots {inventorySlots equipmentSlots : List Slot}
    (slots : ∀ slot ∈ inventorySlots, slot.WellFormed ∧ slot.item.blueprintId < 2 ^ 31)
    (equipment : ∀ slot ∈ equipmentSlots, slot.WellFormed ∧ slot.item.blueprintId < 2 ^ 31)
    : Proper (.ofSlots inventorySlots equipmentSlots) := by
  have good := SlotStore.wellFormed_ofSlots (fun slot mem => (slots slot mem).1)
    (fun slot mem => (equipment slot mem).1)
  refine ⟨good, fun blueprintId large => ?_⟩
  have none {given : List Slot} (small : ∀ slot ∈ given,
      slot.WellFormed ∧ slot.item.blueprintId < 2 ^ 31) : slotUnits given blueprintId = 0 := by
    refine List.sum_eq_zero fun units mem => ?_
    obtain ⟨slot, held, rfl⟩ := List.mem_map.mp mem
    have := (small slot held).2
    exact if_neg (by omega)
  have upper := PlayerInventory.holdings_ofSlots_le blueprintId
    (fun slot mem => (slots slot mem).1) (fun slot mem => (equipment slot mem).1)
  rw [none slots, none equipment] at upper
  exact Int.le_antisymm upper (slotUnits_nonneg blueprintId fun _ mem => good.lootOrder mem)

/-- The presets are proper loadouts. -/
theorem proper_preset (index : Fin FREE_LOADOUT_PRESETS.length)
    : Proper (.ofSlots
        (((FREE_LOADOUT_PRESETS.get index).inventoryItems.map InventoryEntry.toSlot).map
          DediServerService.toSlot)
        (((FREE_LOADOUT_PRESETS.get index).equipmentItems.map EquipmentEntry.toSlot).map
          DediServerService.toSlot)) := by
  refine proper_ofSlots ?_ ?_ <;> revert index <;> decide

theorem proper_loaded {items : List InventoryItem} (storable : Storable catalog items)
    (ids : IntIds catalog)
    : Proper (Storable.loaded items) := by
  have small {item : InventoryItem} (mem : item ∈ items) : item.itemId.toNat < 2 ^ 31 := by
    have known := ids item.itemId (storable.known item mem).1
    omega
  refine proper_ofSlots (fun slot mem => ?_) fun slot mem => ?_
  · obtain ⟨item, chosen, rfl⟩ := List.mem_map.mp mem
    have mem := List.mem_of_mem_filter chosen
    exact ⟨storable.wellFormed_inventoryStack mem, small mem⟩
  · obtain ⟨item, chosen, rfl⟩ := List.mem_map.mp mem
    have mem := List.mem_of_mem_filter chosen
    exact ⟨storable.wellFormed_equipmentStack mem, small mem⟩

/-- The loadout that a start has copied is proper, and the rows that it has stored pay for a
`CUSTOM` one.
-/
theorem brought_of_committed {fails : Call → Bool} {index : Fin FREE_LOADOUT_PRESETS.length}
    {account stored : Account} {session : SessionHash} {request : StartRequest}
    {loadout : Lobby.Loadout} {fields : TicketFields} (ids : IntIds catalog)
    (committed : startTransaction catalog fails account (FREE_LOADOUT_PRESETS.get index) request
      = .ok (stored, loadout))
    (copies : fields.Copies session request loadout)
    : Proper (broughtBy fields)
      ∧ (fields.loadoutType = .custom → ∀ blueprintId : Nat,
        (broughtBy fields).holdings blueprintId
          ≤ totalOf (raidRows stored.rows) blueprintId) := by
  have rows : stored.rows = request.snapshot.items := by
    rw [(startTransaction_eq_ok committed).2.1]
  rw [broughtBy, copies.inventoryItems, copies.equipmentItems, copies.loadoutType, rows]
  cases chosen : request.loadoutType with
  | free =>
      refine ⟨?_, fun custom => by cases custom⟩
      have preset : loadout = FREE_LOADOUT_PRESETS.get index :=
        startTransaction_free committed chosen
      rw [preset]
      exact proper_preset index
  | custom =>
      obtain ⟨rfl, -⟩ := startTransaction_custom committed chosen
      have storable := storable_of_committed committed
      have inventory : PlayerInventory.ofSlots
          (((customLoadout request.snapshot.items).inventoryItems.map InventoryEntry.toSlot).map
            DediServerService.toSlot)
          (((customLoadout request.snapshot.items).equipmentItems.map EquipmentEntry.toSlot).map
            DediServerService.toSlot)
          = Storable.loaded request.snapshot.items := by
        rw [storable.inventory_stacks ids, storable.equipment_stacks ids]
        rfl
      rw [inventory]
      exact ⟨proper_loaded storable ids, fun _ => storable.holdings_loaded_le⟩

/-- A start rearranges the rows, and pays for what it copies. -/
theorem Balanced.start (h : Balanced uid before) (ids : IntIds catalog)
    {fails : Call → Bool} {index : Fin FREE_LOADOUT_PRESETS.length} {session : SessionHash}
    {body : Option JavaScript.Value} {result : StartState}
    (started : result = (Lobby.start catalog fails index ticketId session
      { account := before.account, redis := before.redis } body).1)
    (pays : before.Pays uid none result.account.rows)
    : Balanced uid { before with account := result.account, redis := result.redis } := by
  have rearranged := rearranged_start catalog (fun _ => 0) fails index ticketId session
    { account := before.account, redis := before.redis } h.valid body
  have tickets (other : String) (fields : TicketFields)
      (found : result.redis.fields other = some fields) := fields_start (started ▸ found)
  have rows := start_account_cases catalog fails index ticketId session
    { account := before.account, redis := before.redis } body
  rw [← started] at rearranged rows
  refine ⟨rearranged.valid, ?_, ?_, h.raids, ?_, ?_⟩
  · rcases rows with same | ⟨_, request, _, _, _, committed⟩
    · show ∀ row ∈ result.account.rows, 0 ≤ row.quantity
      rw [same]
      exact h.counted
    · have stored := (startTransaction_eq_ok committed).2.1
      show ∀ row ∈ result.account.rows, 0 ≤ row.quantity
      rw [stored]
      exact counted_of_snapshot request.snapshot
  · intro other fields found owned
    rcases tickets other fields found with old | ⟨request, loadout, copies, committed⟩
    · exact h.tickets other fields old owned
    · exact (brought_of_committed ids committed copies).1
  · rintro other inventory (⟨fields, found, owned, custom, unmade, rfl⟩ | raid) apart
      blueprintId
    · rcases tickets other fields found with old | ⟨request, loadout, copies, committed⟩
      · exact pays other _ (.inl ⟨fields, old, owned, custom, unmade, rfl⟩) apart blueprintId
      · have paid := (brought_of_committed ids committed copies).2 custom blueprintId
        rwa [← started] at paid
    · exact pays other _ (.inr raid) apart blueprintId
  · intro blueprintId
    have held := h.balanced blueprintId
    unfold balance at held ⊢
    rw [rearranged.booked]
    exact held

/-- Other commands on Redis leave the tickets of the account or take them away. -/
theorem Balanced.command (h : Balanced uid before) {redis : Redis}
    (keeps : KeepsTickets uid before.redis redis)
    : Balanced uid { before with redis } := by
  have old (other : String) (fields : TicketFields) (found : redis.fields other = some fields)
      (owned : fields.uid = uid) : before.redis.fields other = some fields := by
    obtain ⟨hash, present, -⟩ := Option.bind_eq_some_iff.mp found
    exact keeps other (AList.mem_keys.mp (Table.mem_of_lookup present)) fields found owned
  refine ⟨h.valid, h.counted, fun other fields found owned =>
    h.tickets other fields (old other fields found owned) owned, h.raids, ?_, h.balanced⟩
  rintro other inventory (⟨fields, found, owned, rest⟩ | raid)
  · exact h.paid other inventory (.inl ⟨fields, old other fields found owned, owned, rest⟩)
  · exact h.paid other inventory (.inr raid)

/-- The session of a room has what its ticket brings. -/
theorem Balanced.makeRoom (h : Balanced uid before) {fields : TicketFields}
    {session : PlayerSession} (found : before.redis.fields ticketId = some fields)
    (owned : fields.uid = uid) (fresh : ticketId ∉ before.raids)
    (account : session.uid = fields.uid) (brings : session.inventory = broughtBy fields)
    (staying : session.leaveState = .none)
    : Balanced uid
        ({ before with
            raids := before.raids.tryEmplace ticketId { fields, session } }.book fun b =>
          if fields.loadoutType = LoadoutType.free then session.inventory.holdings b
          else 0) := by
  have proper := h.tickets ticketId fields found owned
  have cases' {other : String} {raid : Raid}
      (present : (before.raids.tryEmplace ticketId { fields, session }).lookup other
        = some raid)
      : other = ticketId ∧ raid = { fields, session }
        ∨ before.raids.lookup other = some raid := by
    rcases Table.lookup_tryEmplace_cases fresh present with made | old
    · exact .inl made
    · exact .inr old
  refine ⟨h.valid, h.counted, h.tickets, fun other raid present => ?_, ?_,
    fun blueprintId => ?_⟩
  · rcases cases' present with ⟨-, rfl⟩ | old
    · exact ⟨account.trans owned, brings ▸ proper, staying, fun absurd => by cases absurd⟩
    · exact h.raids other raid old
  · rintro other inventory (⟨others, kept, own, custom, unmade, rfl⟩
      | ⟨raid, present, custom, waits, stays, rfl⟩)
    · refine h.paid other _ (.inl ⟨others, kept, own, custom, fun made => unmade ?_, rfl⟩)
      exact (Table.mem_tryEmplace_iff fresh).mpr (.inr made)
    · rcases cases' present with ⟨rfl, rfl⟩ | old
      · rw [brings]
        exact h.paid other _ (.inl ⟨fields, found, owned, custom, fresh, rfl⟩)
      · exact h.paid other _ (.inr ⟨raid, old, custom, waits, stays, rfl⟩)
  · have held := h.balanced blueprintId
    have made : Raid.held blueprintId { fields, session }
        = if fields.loadoutType = LoadoutType.free then session.inventory.holdings blueprintId
          else 0 := by simp [Raid.held]
    unfold balance at held
    show totalOf before.account.rows blueprintId
        + Table.total (fun _ raid => Raid.held blueprintId raid)
          (before.raids.tryEmplace ticketId { fields, session })
      ≤ before.books blueprintId
        + if fields.loadoutType = LoadoutType.free then session.inventory.holdings blueprintId
          else 0
    rw [Table.total_tryEmplace_fresh fresh, made]
    omega

/-- A change of one raid keeps the balance if it takes as much as it gives, and if the rows
still pay for what waits.
-/
theorem Balanced.change (h : Balanced uid before) {raid changed : Raid}
    (found : before.raids.lookup ticketId = some raid) (redis : after.redis = before.redis)
    (raids : after.raids = before.raids.adjust ticketId fun _ => changed)
    (valid : after.account.Valid) (counted : ∀ row ∈ after.account.rows, 0 ≤ row.quantity)
    (inOrder : Raids uid changed)
    (others : before.Pays uid (some ticketId) after.account.rows)
    (own : changed.fields.loadoutType = .custom → changed.connected = false →
      changed.left = false → ∀ blueprintId : Nat,
        changed.session.inventory.holdings blueprintId
          ≤ totalOf (raidRows after.account.rows) blueprintId)
    (balanced : ∀ blueprintId : Nat,
      totalOf after.account.rows blueprintId + changed.held blueprintId
        ≤ totalOf before.account.rows blueprintId + raid.held blueprintId
          + (after.books blueprintId - before.books blueprintId))
    : Balanced uid after := by
  have keys (other : String) : other ∈ after.raids ↔ other ∈ before.raids := by
    rw [raids, Table.mem_adjust]
  have raid_cases {other : String} {another : Raid}
      (present : after.raids.lookup other = some another)
      : other = ticketId ∧ another = changed
        ∨ other ≠ ticketId ∧ before.raids.lookup other = some another := by
    rw [raids] at present
    rcases Table.lookup_adjust_cases present with ⟨same, _, -, made⟩ | old
    · exact .inl ⟨same, made⟩
    · exact .inr old
  refine ⟨valid, counted, fun other fields present owned => ?_, fun other another present => ?_,
    ?_, fun blueprintId => ?_⟩
  · exact h.tickets other fields (redis ▸ present) owned
  · rcases raid_cases present with ⟨-, rfl⟩ | ⟨-, old⟩
    · exact inOrder
    · exact h.raids other another old
  · rintro other inventory (⟨fields, present, owned, custom, unmade, rfl⟩
      | ⟨another, present, custom, waits, stays, rfl⟩) _ blueprintId
    · have pending : before.Pending uid other (broughtBy fields) :=
        .inl ⟨fields, redis ▸ present, owned, custom, fun mem => unmade ((keys other).mpr mem),
          rfl⟩
      have distinct : other ≠ ticketId := by
        rintro rfl
        exact unmade ((keys other).mpr (Table.mem_of_lookup found))
      exact others other _ pending (fun same => distinct (Option.some.inj same).symm)
        blueprintId
    · rcases raid_cases present with ⟨-, rfl⟩ | ⟨distinct, old⟩
      · exact own custom waits stays blueprintId
      · exact others other _ (.inr ⟨another, old, custom, waits, stays, rfl⟩)
          (fun same => distinct (Option.some.inj same).symm) blueprintId
  · have held := h.balanced blueprintId
    have moved := balanced blueprintId
    unfold balance at held ⊢
    rw [raids, Table.total_adjust found]
    omega

/-- A raid that waits is paid for. -/
theorem Balanced.paid_raid (h : Balanced uid before) {raid : Raid}
    (found : before.raids.lookup ticketId = some raid)
    (custom : raid.fields.loadoutType = .custom) (waits : raid.connected = false)
    (stays : raid.left = false) (blueprintId : Nat)
    : raid.session.inventory.holdings blueprintId
      ≤ totalOf (raidRows before.account.rows) blueprintId :=
  h.paid ticketId _ (.inr ⟨raid, found, custom, waits, stays, rfl⟩)
    (Option.some_ne_none ticketId).symm blueprintId

/-- An entry token that is made while the ticket is there has its loadout type. -/
theorem Balanced.updateEntryToken (h : Balanced uid before) {raid : Raid}
    (found : before.raids.lookup ticketId = some raid)
    (there : before.redis.fields ticketId = some raid.fields)
    : Balanced uid (before.setRaid ticketId
        { raid with
          token := some
            (((before.redis.fields ticketId).map (·.loadoutType)).getD LoadoutType.free) }) := by
  have known := h.raids ticketId raid found
  have same : ((before.redis.fields ticketId).map (·.loadoutType)).getD LoadoutType.free
      = raid.fields.loadoutType := by rw [there, Option.map_some, Option.getD_some]
  have paid := fun custom waits stays => h.paid_raid found custom waits stays
  rw [same]
  refine h.change found rfl rfl h.valid h.counted ⟨known.account, known.proper, known.staying, ?_⟩
    h.paid_apart paid fun blueprintId => ?_
  · exact fun token => Option.some.inj token
  · show totalOf before.account.rows blueprintId + raid.held blueprintId
      ≤ totalOf before.account.rows blueprintId + raid.held blueprintId
        + (before.books blueprintId - before.books blueprintId)
    omega

/-- A `FREE` token lets the raid in without a look at the rows. -/
theorem Balanced.connect_free (h : Balanced uid before) {raid : Raid}
    (found : before.raids.lookup ticketId = some raid) (free : raid.token = some .free)
    : Balanced uid (before.setRaid ticketId { raid with connected := true }) := by
  have known := h.raids ticketId raid found
  have loadout := known.token free
  refine h.change found rfl rfl h.valid h.counted
    ⟨known.account, known.proper, known.staying, known.token⟩
    h.paid_apart (fun _ waits => by cases waits) fun blueprintId => ?_
  have same : Raid.held blueprintId { raid with connected := true }
      = raid.held blueprintId := by simp [Raid.held, loadout]
  show totalOf before.account.rows blueprintId
      + Raid.held blueprintId { raid with connected := true }
    ≤ totalOf before.account.rows blueprintId + raid.held blueprintId
      + (before.books blueprintId - before.books blueprintId)
  omega

/-- The rows that the `DELETE` of a connect leaves are those of the warehouse. -/
theorem warehouseRows_eq {account : Account} (valid : account.Valid)
    : (account.rows.filter fun row =>
        !decide (INVENTORY_SLOT_MIN ≤ row.slotIndex ∧ row.slotIndex ≤ LOADOUT_SLOT_MAX))
      = warehouseRows account.rows := by
  refine List.filter_congr fun row mem => ?_
  have limit := (valid.layout row mem).2
  rw [← decide_not]
  exact decide_eq_decide.mpr (by omega)

/-- An account with fewer rows is as valid. -/
theorem valid_of_sublist {account : Account} (valid : account.Valid)
    {rows : List InventoryItem} (fewer : rows.Sublist account.rows)
    : Account.Valid { account with rows } where
  inSchema := by
    refine ⟨(fewer.map _).nodup valid.inSchema.slots,
      fun row mem => valid.inSchema.range row (fewer.subset mem), fun held => ?_⟩
    refine valid.inSchema.user fun empty => held ?_
    rw [empty] at fewer
    exact List.sublist_nil.mp fewer
  layout row mem := valid.layout row (fewer.subset mem)
  solvent := valid.solvent

/-- A `CUSTOM` token pays with the rows of the raid, at the first connect and again at every
later one.
-/
theorem Balanced.connect_custom (h : Balanced uid before) {raid : Raid}
    (found : before.raids.lookup ticketId = some raid)
    (others : before.Pays uid (some ticketId) (warehouseRows before.account.rows))
    : Balanced uid
        ({ before with
            account :=
              { before.account with
                rows := warehouseRows before.account.rows } }.setRaid ticketId
          { raid with connected := true }) := by
  have known := h.raids ticketId raid found
  have fewer : (warehouseRows before.account.rows).Sublist before.account.rows :=
    List.filter_sublist
  have raidCounted : ∀ row ∈ raidRows before.account.rows, 0 ≤ row.quantity := fun row mem =>
    h.counted row (List.mem_of_mem_filter mem)
  refine h.change found rfl rfl (valid_of_sublist h.valid fewer)
    (fun row mem => h.counted row (fewer.subset mem))
    ⟨known.account, known.proper, known.staying, known.token⟩ others (fun _ waits => by cases waits)
    fun blueprintId => ?_
  have parts := totalOf_raid_add_warehouse before.account.rows blueprintId
  have lost := totalOf_nonneg raidCounted blueprintId
  show totalOf (warehouseRows before.account.rows) blueprintId
      + Raid.held blueprintId { raid with connected := true }
    ≤ totalOf before.account.rows blueprintId + raid.held blueprintId
      + (before.books blueprintId - before.books blueprintId)
  by_cases brought : raid.left = true ∨ raid.connected = true
      ∨ raid.fields.loadoutType = LoadoutType.free
  · -- What the raid holds is in the balance already.
    have same : Raid.held blueprintId { raid with connected := true }
        = raid.held blueprintId := by
      rcases brought with left | connected | free
      · simp [Raid.held, left]
      · simp [Raid.held, connected]
      · simp [Raid.held, free]
    omega
  · have stays : raid.left = false := Bool.eq_false_iff.mpr fun left => brought (.inl left)
    have waits : raid.connected = false :=
      Bool.eq_false_iff.mpr fun connected => brought (.inr (.inl connected))
    have custom : raid.fields.loadoutType = .custom := by
      cases chosen : raid.fields.loadoutType with
      | free => exact absurd (.inr (.inr chosen)) brought
      | custom => rfl
    have paid := h.paid_raid found custom waits stays blueprintId
    have none : raid.held blueprintId = 0 := by simp [Raid.held, waits, custom]
    have all : Raid.held blueprintId { raid with connected := true }
        = raid.session.inventory.holdings blueprintId := by simp [Raid.held, stays]
    omega

/-- A token of another account costs the rows of the raid and brings nothing. -/
theorem Balanced.connect_elsewhere (h : Balanced uid before)
    (pays : before.Pays uid none before.deleteRaidRows.account.rows)
    : Balanced uid before.deleteRaidRows := by
  have rows : before.deleteRaidRows.account.rows = warehouseRows before.account.rows :=
    warehouseRows_eq h.valid
  have fewer : before.deleteRaidRows.account.rows.Sublist before.account.rows :=
    List.filter_sublist
  refine ⟨valid_of_sublist h.valid fewer, fun row mem => h.counted row (fewer.subset mem),
    h.tickets, h.raids, pays, fun blueprintId => ?_⟩
  · have held := h.balanced blueprintId
    have parts := totalOf_raid_add_warehouse before.account.rows blueprintId
    have lost : 0 ≤ totalOf (raidRows before.account.rows) blueprintId :=
      totalOf_nonneg (fun row mem => h.counted row (List.mem_of_mem_filter mem)) blueprintId
    unfold balance at held ⊢
    rw [rows]
    show totalOf (warehouseRows before.account.rows) blueprintId
        + (before.raids.total fun _ raid => raid.held blueprintId)
      ≤ before.books blueprintId
    omega

/-- What happens in the raid is in the books. -/
theorem Balanced.play (h : Balanced uid before) {raid : Raid} {inventory : PlayerInventory}
    (found : before.raids.lookup ticketId = some raid) (connected : raid.connected = true)
    (stays : raid.left = false) (proper : Proper inventory)
    : Balanced uid ((before.setRaid ticketId
        { raid with session := { raid.session with inventory } }).book fun b =>
          inventory.holdings b - raid.session.inventory.holdings b) := by
  have known := h.raids ticketId raid found
  refine h.change found rfl rfl h.valid h.counted
    ⟨known.account, proper, known.staying, known.token⟩
    h.paid_apart (fun _ waits => ?_) fun blueprintId => ?_
  · rw [show raid.connected = false from waits] at connected
    cases connected
  · have old : raid.held blueprintId = raid.session.inventory.holdings blueprintId := by
      simp [Raid.held, connected, stays]
    have new : Raid.held blueprintId
        { raid with session := { raid.session with inventory } }
        = inventory.holdings blueprintId := by simp [Raid.held, connected, stays]
    show totalOf before.account.rows blueprintId
        + Raid.held blueprintId { raid with session := { raid.session with inventory } }
      ≤ totalOf before.account.rows blueprintId + raid.held blueprintId
        + (before.books blueprintId
          + (inventory.holdings blueprintId - raid.session.inventory.holdings blueprintId)
          - before.books blueprintId)
    omega

/-- A leave brings home no more than the raid has, and only into the slots of the raid. -/
theorem Raids.rows_request {raid : Raid} (known : Raids uid raid) {reason : LeaveReason}
    (accepts : raid.session.acceptsLeaveReason reason = true) (now : TimePoint)
    (notifyRSeq : BitVec 32)
    : (∀ row ∈ (raid.request reason now notifyRSeq).rows,
        INVENTORY_SLOT_MIN ≤ row.slotIndex ∧ row.slotIndex ≤ LOADOUT_SLOT_MAX
          ∧ 0 ≤ row.quantity)
      ∧ ∀ blueprintId : Nat,
        totalOf ((raid.request reason now notifyRSeq).rows.map InventoryRow.toItem) blueprintId
          ≤ raid.session.inventory.holdings blueprintId := by
  by_cases recalled : reason = .recalled
  · subst recalled
    have same : (raid.request .recalled now notifyRSeq).rows
        = rowsOfRecall raid.session now notifyRSeq := rfl
    rw [same]
    refine ⟨fun row mem => ?_, fun blueprintId => ?_⟩
    · have slots := (rowsOfRecall_slots known.staying now notifyRSeq).2 row mem
      refine ⟨slots.1, slots.2, ?_⟩
      rcases (mem_rowsOfRecall known.staying).mp mem with ⟨index, made⟩ | ⟨place, made⟩
      · rw [(rowOf_eq_some_iff.mp made).2]
        exact (known.proper.1.lootOrder (List.mem_append_right _
          (Vector.mem_toList_iff.mpr (Vector.getElem_mem index.isLt)))).quantity_nonneg
      · rw [(rowOf_eq_some_iff.mp made).2]
        refine (known.proper.1.lootOrder (List.mem_append_left _ ?_)).quantity_nonneg
        cases place <;> simp [PlayerInventory.equipmentSlot]
    · have all := totalOf_rowsOfRecall known.staying known.proper.1 known.proper.2 now
        notifyRSeq blueprintId
      have loaded : 0 ≤ raid.session.inventory.chambered blueprintId := by
        refine Int.add_nonneg ?_ ?_ <;>
          exact (known.proper.1.lootOrder (List.mem_append_left _
            (by simp))).units_nonneg blueprintId
      omega
  · have none : (raid.request reason now notifyRSeq).rows = [] := by
      have notice : (raid.session.markLeaving reason now notifyRSeq).leftNotice
          = { uid := raid.session.uid, leaveReason := reason } := by
        simp [PlayerSession.markLeaving, accepts, PlayerSession.leftNotice, recalled]
      rw [Raid.request, notice]
      rfl
    rw [none]
    exact ⟨fun row mem => absurd mem List.not_mem_nil,
      fun blueprintId => known.proper.holdings_nonneg blueprintId⟩

/-- Whatever fails, the rows of the account are those of before or those of home. -/
theorem Raids.rows_execute {raid : Raid} (known : Raids uid raid) (reason : LeaveReason)
    (now : TimePoint) (notifyRSeq : BitVec 32) (weather : NotifyPlayerLeftRequest.Weather)
    {proxy : DBProxy} (settled : proxy.mysql.view = none)
    : itemsOf uid
          ((raid.request reason now notifyRSeq).execute weather proxy).mysql.committed
        = itemsOf uid proxy.mysql.committed
      ∨ itemsOf uid
          ((raid.request reason now notifyRSeq).execute weather proxy).mysql.committed
        = (raid.request reason now notifyRSeq).home (itemsOf uid proxy.mysql.committed) := by
  have reported (session : PlayerSession) : session.leftNotice.uid = session.uid := by
    unfold PlayerSession.leftNotice
    split <;> rfl
  have account : (raid.session.markLeaving reason now notifyRSeq).leftNotice.uid = uid := by
    rw [reported, ← known.account]
    unfold PlayerSession.markLeaving
    split <;> rfl
  have rows := NotifyPlayerLeftRequest.itemsOf_execute weather settled
    (NotifyPlayerLeftRequest.leftNotice_fromDedicate
      (raid.session.markLeaving reason now notifyRSeq))
  rwa [account] at rows

/-- A leave that is written puts what comes home in the place of the rows of the raid. -/
theorem Balanced.leave_applied (h : Balanced uid before) {raid : Raid} {reason : LeaveReason}
    {now : TimePoint} {notifyRSeq : BitVec 32}
    (found : before.raids.lookup ticketId = some raid) (stays : raid.left = false)
    (accepts : raid.session.acceptsLeaveReason reason = true)
    (insertable : (raid.request reason now notifyRSeq).home before.account.rows = []
      ∨ catalog.Insertable before.account
        ((raid.request reason now notifyRSeq).home before.account.rows))
    (others : before.Pays uid (some ticketId)
      ((raid.request reason now notifyRSeq).home before.account.rows))
    : Balanced uid
        ({ before with
            account :=
              { before.account with
                rows := (raid.request reason now notifyRSeq).home
                  before.account.rows } }.setRaid ticketId
          { raid with left := true }) := by
  have known := h.raids ticketId raid found
  obtain ⟨slots, fewer⟩ := known.rows_request accepts now notifyRSeq
  generalize raid.request reason now notifyRSeq = request at insertable others slots fewer ⊢
  have home_cases {row : InventoryItem} (mem : row ∈ request.home before.account.rows)
      : row ∈ before.account.rows ∨ ∃ back ∈ request.rows, back.toItem = row := by
    rcases List.mem_append.mp mem with old | back
    · exact .inl (List.mem_of_mem_filter old)
    · exact .inr (List.mem_map.mp back)
  refine h.change found rfl rfl
    (.of_insertable insertable id (fun row mem => ?_) h.valid.solvent) (fun row mem => ?_)
    ⟨known.account, known.proper, known.staying, known.token⟩ others (fun _ _ left => by cases left)
    fun blueprintId => ?_
  · rcases home_cases mem with old | ⟨back, written, rfl⟩
    · exact h.valid.layout row old
    · have place := slots back written
      exact ⟨le_trans (by decide) place.1, place.2.1⟩
  · rcases home_cases mem with old | ⟨back, written, rfl⟩
    · exact h.counted row old
    · exact (slots back written).2.2
  · have parts := totalOf_raid_add_warehouse before.account.rows blueprintId
    have raidCounted : ∀ row ∈ raidRows before.account.rows, 0 ≤ row.quantity := fun row mem =>
      h.counted row (List.mem_of_mem_filter mem)
    have lost := totalOf_nonneg raidCounted blueprintId
    have back := fewer blueprintId
    have gone : Raid.held blueprintId { raid with left := true } = 0 := by simp [Raid.held]
    show totalOf (warehouseRows before.account.rows ++ request.rows.map InventoryRow.toItem)
          blueprintId
        + Raid.held blueprintId { raid with left := true }
      ≤ totalOf before.account.rows blueprintId + raid.held blueprintId
        + (before.books blueprintId - before.books blueprintId)
    rw [totalOf_concat, gone]
    by_cases counts : raid.connected = true ∨ raid.fields.loadoutType = LoadoutType.free
    · have held : raid.held blueprintId = raid.session.inventory.holdings blueprintId := by
        simp [Raid.held, stays, counts]
      omega
    · -- The rows that the raid has brought are still there, and are deleted now.
      have custom : raid.fields.loadoutType = .custom := by
        cases chosen : raid.fields.loadoutType with
        | free => exact absurd (.inr chosen) counts
        | custom => rfl
      have paid := h.paid_raid found custom
        (Bool.eq_false_iff.mpr fun connected => counts (.inl connected)) stays blueprintId
      have held : raid.held blueprintId = 0 := by simp [Raid.held, counts]
      omega

/-- A leave that is not written loses what the raid had. -/
theorem Balanced.leave_lost (h : Balanced uid before) {raid : Raid}
    (found : before.raids.lookup ticketId = some raid)
    : Balanced uid (before.setRaid ticketId { raid with left := true }) := by
  have known := h.raids ticketId raid found
  refine h.change found rfl rfl h.valid h.counted
    ⟨known.account, known.proper, known.staying, known.token⟩
    h.paid_apart (fun _ _ left => by cases left) fun blueprintId => ?_
  have gone : Raid.held blueprintId { raid with left := true } = 0 := by simp [Raid.held]
  have held := known.held_nonneg blueprintId
  show totalOf before.account.rows blueprintId + Raid.held blueprintId { raid with left := true }
    ≤ totalOf before.account.rows blueprintId + raid.held blueprintId
      + (before.books blueprintId - before.books blueprintId)
  omega

/-- A leave, with what the database makes of it. -/
theorem Balanced.leave (h : Balanced uid before) {raid : Raid} {reason : LeaveReason}
    {now : TimePoint} {notifyRSeq : BitVec 32} {table : List InventoryRow}
    {rows : List InventoryItem} (found : before.raids.lookup ticketId = some raid)
    (stays : raid.left = false) (accepts : raid.session.acceptsLeaveReason reason = true)
    (result : rows = itemsOf uid table
      ∨ rows = (raid.request reason now notifyRSeq).home (itemsOf uid table))
    (taken : itemsOf uid table = before.account.rows
      ∧ (rows = before.account.rows ∨ rows = [] ∨ catalog.Insertable before.account rows))
    (others : before.Pays uid (some ticketId) rows)
    : Balanced uid
        ({ before with account := { before.account with rows } }.setRaid ticketId
          { raid with left := true }) := by
  obtain ⟨listed, taken⟩ := taken
  rw [listed] at result
  by_cases same : rows = before.account.rows
  · subst same
    exact h.leave_lost found
  · rcases result with unchanged | rfl
    · exact absurd unchanged same
    · exact h.leave_applied found stays accepts (taken.resolve_left same) others

/-- The rows after a step are those of before or those that the action asks for. -/
theorem rows_next {action : Action}
    (raids : ∀ ticketId raid, before.raids.lookup ticketId = some raid → Raids uid raid)
    (step : before.next catalog uid action = some after)
    : after.account.rows = before.account.rows
      ∨ before.layout catalog uid action = some after.account.rows := by
  cases action with
  | purchase fails body =>
      cases step
      refine rows_of_trade fun request done data committed => ?_
      obtain ⟨-, -, -, _, -, -, stored⟩ := purchaseTransaction_eq_ok committed
      rw [stored]
  | sell fails body =>
      cases step
      refine rows_of_trade fun request done data committed => ?_
      obtain ⟨-, -, -, _, -, stored, -⟩ := saleTransaction_eq_ok committed
      rw [stored]
  | start fails index ticketId session body =>
      simp only [Transfers.next] at step
      split at step
      · cases step
        rcases start_account_cases catalog fails index ticketId session
          { account := before.account, redis := before.redis } body
          with same | ⟨value, request, _, rfl, read, committed⟩
        · exact .inl (congrArg _ same)
        · have stored := (startTransaction_eq_ok committed).2.1
          refine .inr ?_
          simp only [layout, read, stored, Option.bind_some, Except.toOption, Option.map_some]
      · cases step
  | command redis =>
      simp only [Transfers.next] at step
      split at step <;> cases step
      exact .inl rfl
  | makeRoom ticketId ticket securityKey =>
      simp only [Transfers.next] at step
      split at step
      · cases step
      · split at step <;> cases step
        exact .inl rfl
  | updateEntryToken ticketId =>
      obtain ⟨raid, -, rfl⟩ := Option.map_eq_some_iff.mp step
      exact .inl rfl
  | connect caller ticketId fails =>
      simp only [Transfers.next] at step
      split at step
      · cases step
      · next raid found =>
          split at step
          · cases step
          · cases step
            exact .inl rfl
          · next custom =>
              split at step
              · cases step
                exact .inl rfl
              · next answered =>
                  by_cases own : caller = uid
                  · rw [if_pos own] at step
                    cases step
                    refine .inr (if_pos ⟨own, Bool.eq_false_iff.mpr answered, ?_⟩)
                    rw [found]
                    exact decide_eq_true custom
                  · rw [if_neg own] at step
                    cases step
                    exact .inl rfl
  | connectElsewhere =>
      cases step
      exact .inr rfl
  | play ticketId inventory =>
      simp only [Transfers.next] at step
      split at step
      · cases step
      · split at step <;> cases step
        exact .inl rfl
  | leave ticketId reason now notifyRSeq weather table =>
      simp only [Transfers.next] at step
      split at step
      · cases step
      · next raid found =>
          split at step
          · cases step
          · split at step
            · next taken =>
                have own := raids ticketId raid found
                have result := own.rows_execute reason now notifyRSeq weather
                  (rfl : (DBProxy.mk { committed := table } before.redis []).mysql.view = none)
                rcases result with same | home
                · cases step
                  exact .inl (same.trans taken.1)
                · cases step
                  refine .inr ?_
                  simp only [layout, found, Option.map_some]
                  exact congrArg some ((home.trans (congrArg _ taken.1)).symm)
            · cases step

/-- Whatever happens, a careful step keeps the balance. -/
theorem Balanced.next (h : Balanced uid before) (ids : IntIds catalog) {action : Action}
    (step : before.next catalog uid action = some after)
    (calm : Careful catalog uid before action)
    : Balanced uid after := by
  have pays := h.pays calm (rows_next h.raids step)
  cases action with
  | purchase fails body =>
      cases step
      refine h.trade (booked_purchase catalog fails h.valid body) ?_ pays
      refine counted_of_trade h.counted fun request done data read committed row mem => ?_
      obtain ⟨-, -, -, _, -, -, stored⟩ := purchaseTransaction_eq_ok committed
      subst stored
      rcases List.mem_append.mp mem with old | bought
      · exact counted_of_snapshot request.snapshot row old
      · rw [List.mem_singleton.mp bought]
        exact Int.le_trans (by decide) (readPurchase_eq_ok read).2.2.1
  | sell fails body =>
      cases step
      refine h.trade (booked_sell catalog fails h.valid body) ?_ pays
      refine counted_of_trade h.counted fun request done data _ committed row mem => ?_
      obtain ⟨-, -, -, _, -, stored, -⟩ := saleTransaction_eq_ok committed
      subst stored
      exact counted_of_snapshot request.snapshot row (List.mem_of_mem_filter mem)
  | start fails index ticketId session body =>
      simp only [Transfers.next] at step
      split at step
      · cases step
        exact h.start ids rfl pays
      · cases step
  | command redis =>
      simp only [Transfers.next] at step
      split at step
      · next keeps =>
          cases step
          exact h.command keeps
      · cases step
  | makeRoom ticketId ticket securityKey =>
      simp only [Transfers.next] at step
      split at step
      · cases step
      · next fields found =>
          split at step
          · next fresh =>
              cases step
              exact h.makeRoom found fresh.1 fresh.2 rfl rfl rfl
          · cases step
  | updateEntryToken ticketId =>
      obtain ⟨raid, found, rfl⟩ := Option.map_eq_some_iff.mp step
      exact h.updateEntryToken found (calm.token ticketId raid rfl found)
  | connect caller ticketId fails =>
      simp only [Transfers.next] at step
      split at step
      · cases step
      · next raid found =>
          split at step
          · cases step
          · next free =>
              cases step
              exact h.connect_free found free
          · next custom =>
              split at step
              · cases step
                exact h
              · rw [if_pos (calm.caller caller ticketId fails raid rfl found custom),
                  deleteRaidRows, warehouseRows_eq h.valid] at step
                cases step
                exact h.connect_custom found pays
  | connectElsewhere =>
      cases step
      exact h.connect_elsewhere pays
  | play ticketId inventory =>
      simp only [Transfers.next] at step
      split at step
      · cases step
      · next raid found =>
          split at step
          · next plays =>
              rw [Bool.and_eq_true, Bool.not_eq_true'] at plays
              cases step
              exact h.play found plays.1 plays.2 (calm.played ticketId inventory rfl)
          · cases step
  | leave ticketId reason now notifyRSeq weather table =>
      simp only [Transfers.next] at step
      split at step
      · cases step
      · next raid found =>
          split at step
          · cases step
          · next leaves =>
              rw [Bool.or_eq_true, not_or, Bool.not_eq_true, Bool.not_eq_true',
                Bool.not_eq_false] at leaves
              split at step
              · next taken =>
                  cases step
                  exact h.leave found leaves.1 leaves.2
                    ((h.raids ticketId raid found).rows_execute reason now notifyRSeq weather rfl)
                    taken pays
              · cases step

end Steps

-----------------------------------------------------------------------------------------
-- A rifle
-----------------------------------------------------------------------------------------

open RoundTrip

/-- The shop buys the rifle back. -/
def armory : Catalog := { riflesTable with itemMeta := AList.singleton 1 100 }

/-- One rifle and fifty rounds in the warehouse. -/
def rifleman : Transfers where
  account := (owner 1).account
  redis := {}
  books := fun blueprintId => totalOf (owner 1).account.rows blueprintId

theorem rifleman_fresh : Fresh 1 rifleman where
  valid := ⟨⟨by decide, by decide, fun _ => rfl⟩, by decide, fun money found => by
    cases found
    decide⟩
  counted := by decide
  tickets ticketId fields found := by cases found
  raids := rfl
  books _ := rfl

def queue : Action :=
  .start (fun _ => false) ⟨0, by decide⟩ "ticket" playerSession (some (riflemanStart 1))

/-- The state after an action that is possible. -/
def perform (state : Transfers) (action : Action) : Transfers :=
  (next armory 1 state action).getD state

theorem next_perform {state : Transfers} {action : Action}
    (possible : (next armory 1 state action).isSome = true)
    : next armory 1 state action = some (state.perform action) := by
  obtain ⟨after, found⟩ := Option.isSome_iff_exists.mp possible
  rw [perform, found, Option.getD_some]

def queued : Transfers := rifleman.perform queue
def housed : Transfers := queued.perform (.makeRoom "ticket" riflemanTicket 0)
def admitted : Transfers := housed.perform (.updateEntryToken "ticket")
def inside : Transfers := admitted.perform (.connect 1 "ticket" false)

/-- The database answers every call. -/
def fair : NotifyPlayerLeftRequest.Weather where
  keys := { users := [1], items := [1, 6] }
  pMysqlIsNull := false
  connection _ := .answered
  mysql _ _ := .answered
  redis := .answered

/-- The table with the rows of the account. -/
def table (state : Transfers) : List InventoryRow :=
  state.account.rows.map fun row =>
    { uid := 1, itemId := row.itemId, slotIndex := row.slotIndex, quantity := row.quantity }

def returned : Transfers :=
  inside.perform (.leave "ticket" .recalled 0 0 fair inside.table)

/-- The condition on the caller is needed as well: with a token that another account was given
the rifle is in the raid, and its row stays.
-/
theorem lent_rifle_enters
    : ∃ state, (Transition.System.ofNext (Fresh 1) (next armory 1)).Reachable state
      ∧ state.books 1 < state.balance 1 := by
  have start : (Transition.System.ofNext (Fresh 1) (next armory 1)).Reachable rifleman :=
    .initial rifleman_fresh
  have first := start.step (@next_perform _ queue (by decide +kernel))
  have second := first.step
    (@next_perform _ (.makeRoom "ticket" riflemanTicket 0) (by decide +kernel))
  have third := second.step
    (@next_perform _ (.updateEntryToken "ticket") (by decide +kernel))
  have fourth := third.step
    (@next_perform _ (.connect 2 "ticket" false) (by decide +kernel))
  exact ⟨_, fourth, by decide +kernel⟩

end Transfers

end ExtractionServer.Room
