import ExtractionServer.Library.Transactions
import ExtractionServer.Lobby.Redis
import ExtractionServer.Room.GameRoom

/-! What the main process does with the notice of a leave: it writes the player's rows in one
transaction, with retries, and then deletes the lock.
-/

namespace ExtractionServer.Lobby

open Transactions Room

-----------------------------------------------------------------------------------------
-- The table
-----------------------------------------------------------------------------------------

/-- A row of `user_inventory`. -/
structure InventoryRow where
  uid : Int
  itemId : Int
  slotIndex : Int
  quantity : Int
deriving DecidableEq, Repr

/-- The keys that a row of `user_inventory` can refer to. -/
structure RowKeys where
  users : List Int
  items : List Int

/-- What the types and keys of `user_inventory` allow. -/
def RowKeys.allows (keys : RowKeys) (rows : List InventoryRow) (row : InventoryRow) : Bool :=
  row.uid ∈ keys.users && row.itemId ∈ keys.items
    && 0 ≤ row.slotIndex && row.slotIndex < 2 ^ 8
    && -2 ^ 31 ≤ row.quantity && row.quantity < 2 ^ 31
    && rows.all fun other => !(other.uid == row.uid && other.slotIndex == row.slotIndex)

-----------------------------------------------------------------------------------------
-- The request
-----------------------------------------------------------------------------------------

structure SlotRow where
  itemId : Nat
  slotIndex : Int
  quantity : Int
deriving DecidableEq, Repr

structure NotifyPlayerLeftRequest where
  uid : Int
  leaveReason : LeaveReason
  slots : List SlotRow
deriving DecidableEq, Repr

namespace NotifyPlayerLeftRequest

def INVENTORY_SLOT_INDEX_BEGIN : Int := 80
def LOADOUT_SLOT_INDEX_BEGIN : Int := 105
def DB_RETRY_COUNT : Nat := 2

/-- `Handle_D2M_NotifyPlayerLeft`. -/
def ofPacket (pkt : D2MNotifyPlayerLeft) : NotifyPlayerLeftRequest where
  uid := pkt.uid
  leaveReason := pkt.leaveReason
  slots :=
    pkt.inventorySlots.map (fun s =>
      { itemId := s.itemId
        slotIndex := INVENTORY_SLOT_INDEX_BEGIN + s.slotIndex
        quantity := s.quantity })
    ++ pkt.equipmentSlots.map fun s =>
      { itemId := s.itemId
        slotIndex := LOADOUT_SLOT_INDEX_BEGIN + s.slotIndex
        quantity := s.quantity }

/-- The values of the `INSERT`; the item id goes through a 32-bit signed integer. -/
def rows (request : NotifyPlayerLeftRequest) : List InventoryRow :=
  request.slots.map fun row =>
    { uid := request.uid
      itemId := (row.itemId : Int).bmod (2 ^ 32)
      slotIndex := row.slotIndex
      quantity := row.quantity }

/-- The row is one that a raid can change. -/
def inRaid (request : NotifyPlayerLeftRequest) (row : InventoryRow) : Bool :=
  row.uid == request.uid && INVENTORY_SLOT_INDEX_BEGIN ≤ row.slotIndex

def delete (request : NotifyPlayerLeftRequest) (rows : List InventoryRow)
    : Option (List InventoryRow) :=
  some (rows.filter fun row => !request.inRaid row)

def insert (keys : RowKeys) (row : InventoryRow) (rows : List InventoryRow)
    : Option (List InventoryRow) :=
  if keys.allows rows row then some (rows ++ [row]) else none

/-- The statements of the transaction. To prepare one changes nothing, so a failure of that
is one more failure of the statement.
-/
def statements (keys : RowKeys) (request : NotifyPlayerLeftRequest)
    : List (List InventoryRow → Option (List InventoryRow)) :=
  request.delete :: request.rows.map (insert keys)

-----------------------------------------------------------------------------------------
-- Execution
-----------------------------------------------------------------------------------------

/-- What can go wrong, call by call. -/
structure Weather where
  keys : RowKeys
  pMysqlIsNull : Bool
  connection : Nat → Fate
  mysql : Nat → Transactions.Call (List InventoryRow) → Fate
  redis : Fate

/-- `MysqlHandle::Get`: the connection is valid, or a new one takes its place, or there is
none.
-/
def getConnection (fates : Nat → Fate) (session : Session (List InventoryRow))
    : Session (List InventoryRow) × Bool :=
  match fates session.calls with
  | .answered => (session.count, true)
  | .lost => (session.count.dropped, true)
  | .refused => (session.count.dropped, false)
  | .unheard => (session.count.dropped, false)

def applyInventoryToDb (weather : Weather) (request : NotifyPlayerLeftRequest)
    (session : Session (List InventoryRow))
    : Session (List InventoryRow) × Bool :=
  -- A guest has no row in `users`.
  if request.uid < 0 then (session, true)
  else if weather.pMysqlIsNull then (session, false)
  else
    match getConnection weather.connection session with
    | (session, false) => (session, false)
    | (session, true) => attempt weather.mysql (request.statements weather.keys) session

/-- The retry loop of `Execute`, with what each attempt reports. -/
def attempts (weather : Weather) (request : NotifyPlayerLeftRequest)
    : Nat → Session (List InventoryRow) → Session (List InventoryRow) × List Bool
  | 0, session => (session, [])
  | count + 1, session =>
      match request.applyInventoryToDb weather session with
      | (after, true) => (after, [true])
      | (after, false) =>
          let (last, reports) := request.attempts weather count after
          (last, false :: reports)

/-- What `Execute` does, in order. -/
inductive Event where
  | attempt (applied : Bool)
  | delActiveMatch
deriving DecidableEq, Repr

end NotifyPlayerLeftRequest

/-- The stores of the main process, and what has been done to them. -/
structure DBProxy where
  mysql : Session (List InventoryRow)
  redis : Redis
  log : List NotifyPlayerLeftRequest.Event := []

namespace NotifyPlayerLeftRequest

def execute (weather : Weather) (request : NotifyPlayerLeftRequest) (proxy : DBProxy)
    : DBProxy :=
  let (mysql, reports) := request.attempts weather DB_RETRY_COUNT proxy.mysql
  -- MySQL first, the lock afterwards.
  let redis :=
    match weather.redis with
    | .answered | .unheard => proxy.redis.delLock request.uid
    | .refused | .lost => proxy.redis
  { mysql, redis, log := proxy.log ++ reports.map .attempt ++ [.delActiveMatch] }

-----------------------------------------------------------------------------------------
-- One attempt
-----------------------------------------------------------------------------------------

/-- The rows that no leave of the account touches. -/
def others (request : NotifyPlayerLeftRequest) (rows : List InventoryRow) : List InventoryRow :=
  rows.filter fun row => !request.inRaid row

/-- The rows after the leave. -/
def applied (request : NotifyPlayerLeftRequest) (rows : List InventoryRow)
    : List InventoryRow :=
  request.others rows ++ request.rows

/-- The rows of the request are rows that a raid can change. -/
def RaidRows (request : NotifyPlayerLeftRequest) : Prop :=
  ∀ row ∈ request.rows, request.inRaid row = true

variable {request : NotifyPlayerLeftRequest}

theorem others_others (rows : List InventoryRow)
    : request.others (request.others rows) = request.others rows := by
  rw [others, others, List.filter_filter]
  simp only [Bool.and_self]

theorem RaidRows.others_eq_nil (h : request.RaidRows) : request.others request.rows = [] := by
  refine List.filter_eq_nil_iff.mpr fun row mem => ?_
  rw [h row mem]
  exact Bool.false_ne_true

theorem RaidRows.others_applied (h : request.RaidRows) (rows : List InventoryRow)
    : request.others (request.applied rows) = request.others rows := by
  rw [applied, others, List.filter_append]
  exact (congrArg₂ (· ++ ·) (others_others rows) h.others_eq_nil).trans (List.append_nil _)

theorem RaidRows.filter_applied (h : request.RaidRows) (rows : List InventoryRow)
    : (request.applied rows).filter request.inRaid = request.rows := by
  rw [applied, List.filter_append, others, List.filter_filter,
    List.filter_eq_self.mpr h, List.filter_eq_nil_iff.mpr, List.nil_append]
  intro row _
  cases request.inRaid row <;> decide

/-- Inserts that are all allowed add the rows in order, by induction on the rows. -/
theorem execute_inserts {keys : RowKeys} {added data result : List InventoryRow}
    (done : Transactions.execute (added.map (insert keys)) data = some result)
    : result = data ++ added := by
  induction added generalizing data with
  | nil => exact (Option.some.inj done).symm.trans (List.append_nil data).symm
  | cons row rest ih =>
      rw [Transactions.execute, List.map_cons, List.foldlM_cons] at done
      obtain ⟨next, inserted, done⟩ := Option.bind_eq_some_iff.mp done
      rw [insert] at inserted
      split at inserted
      · cases inserted
        rw [ih done, List.append_assoc]
        rfl
      · cases inserted

/-- The statements lead from any rows with the same other rows to the same result. -/
theorem execute_statements {keys : RowKeys} {data result : List InventoryRow}
    (done : Transactions.execute (request.statements keys) data = some result)
    : result = request.applied data :=
  execute_inserts
    (show Transactions.execute (request.rows.map (insert keys)) (request.others data) = some result
      from done)

/-- No statement touches the other rows. -/
theorem RaidRows.statements_keep (h : request.RaidRows) (keys : RowKeys)
    : ∀ effect ∈ request.statements keys, ∀ data result,
        effect data = some result → request.others result = request.others data := by
  intro effect mem data result done
  rcases List.mem_cons.mp mem with rfl | mem
  · rw [← Option.some.inj done]
    exact others_others data
  · obtain ⟨row, own, rfl⟩ := List.mem_map.mp mem
    rw [insert] at done
    split at done
    · cases done
      rw [others, List.filter_append, List.filter_singleton, h row own]
      exact List.append_nil _
    · cases done

-----------------------------------------------------------------------------------------
-- All attempts
-----------------------------------------------------------------------------------------

/-- The table is as before or as after the leave, and an open transaction has the other rows.
-/
structure Settling (request : NotifyPlayerLeftRequest) (before : List InventoryRow)
    (session : Session (List InventoryRow)) : Prop where
  committed : session.committed = before ∨ session.committed = request.applied before
  view : ∀ data, session.view = some data → request.others data = request.others before

namespace Settling

variable {before : List InventoryRow} {session after : Session (List InventoryRow)}
  {weather : Weather}

theorem of_untouched (h : request.Settling before session)
    (untouched : Untouched (request.others · = request.others before) session after)
    : request.Settling before after := by
  refine ⟨?_, untouched.view⟩
  rw [untouched.committed]
  exact h.committed

theorem others_committed (h : request.Settling before session) (raid : request.RaidRows)
    : request.others session.committed = request.others before := by
  rcases h.committed with same | same
  · rw [same]
  · rw [same, raid.others_applied]

/-- A connection that is dropped takes its transaction along. -/
theorem dropped (h : request.Settling before session)
    : request.Settling before session.count.dropped :=
  ⟨h.committed, fun data absurd => by cases absurd⟩

theorem getConnection (h : request.Settling before session)
    : request.Settling before (getConnection weather.connection session).1 := by
  unfold NotifyPlayerLeftRequest.getConnection
  cases weather.connection session.calls with
  | answered => exact ⟨h.committed, h.view⟩
  | lost => exact h.dropped
  | refused => exact h.dropped
  | unheard => exact h.dropped

/-- An attempt of a player leaves the table as before or as after the leave, the latter if it
reports success.
-/
theorem applyInventoryToDb (h : request.Settling before session) (weather : Weather)
    (raid : request.RaidRows) (player : 0 ≤ request.uid)
    : request.Settling before (request.applyInventoryToDb weather session).1
      ∧ ((request.applyInventoryToDb weather session).2 = true →
        (request.applyInventoryToDb weather session).1.committed = request.applied before) := by
  have connected : request.Settling before
      (NotifyPlayerLeftRequest.getConnection weather.connection session).1 := h.getConnection
  rw [NotifyPlayerLeftRequest.applyInventoryToDb, if_neg (not_lt.mpr player)]
  split
  · exact ⟨h, fun absurd => by cases absurd⟩
  · generalize NotifyPlayerLeftRequest.getConnection weather.connection session = connection
      at connected
    rcases connection with ⟨connection, _ | _⟩
    · exact ⟨connected, fun absurd => by cases absurd⟩
    · have others := connected.others_committed raid
      have visible : request.others connection.visible = request.others before :=
        Untouched.visible (P := (request.others · = request.others before))
          ⟨rfl, connected.view⟩ others
      rcases attempt_cases weather.mysql
          (fun effect mem data result kept done =>
            (raid.statements_keep weather.keys effect mem data result done).trans kept)
          others connected.view with ⟨untouched, failed⟩ | ⟨done, settled⟩
      · refine ⟨connected.of_untouched untouched, fun success => ?_⟩
        exact absurd success (ne_true_of_eq_false failed)
      · have result := execute_statements done
        rw [applied, visible] at result
        refine ⟨⟨.inr result, fun data pending => ?_⟩, fun _ => result⟩
        rw [settled] at pending
        cases pending

/-- The retries of a player, by induction on their number. -/
theorem attempts (weather : Weather) (raid : request.RaidRows) (player : 0 ≤ request.uid)
    (count : Nat) {session : Session (List InventoryRow)}
    (h : request.Settling before session)
    : request.Settling before (request.attempts weather count session).1
      ∧ (true ∈ (request.attempts weather count session).2 →
        (request.attempts weather count session).1.committed = request.applied before)
      ∧ (request.attempts weather count session).2.length ≤ count := by
  induction count generalizing session with
  | zero =>
      refine ⟨h, fun absurd => ?_, Nat.le_refl 0⟩
      cases absurd
  | succ count ih =>
      obtain ⟨kept, success⟩ := h.applyInventoryToDb weather raid player
      rw [NotifyPlayerLeftRequest.attempts]
      generalize request.applyInventoryToDb weather session = performed at kept success
      rcases performed with ⟨after, _ | _⟩
      · obtain ⟨later, applied, few⟩ := ih kept
        refine ⟨later, fun mem => applied ?_, Nat.succ_le_succ few⟩
        rcases List.mem_cons.mp mem with absurd | mem
        · cases absurd
        · exact mem
      · exact ⟨kept, fun _ => success rfl, Nat.succ_le_succ (Nat.zero_le count)⟩

end Settling

/-- Rollbacks that do not throw without effect leave no open transaction, by induction on the
attempts.
-/
theorem attempts_settled {weather : Weather}
    (effective : ∀ calls, weather.mysql calls .rollback ≠ .refused) (count : Nat)
    {session : Session (List InventoryRow)} (settled : session.view = none)
    : (request.attempts weather count session).1.view = none := by
  have applied_settled : ∀ {session : Session (List InventoryRow)}, session.view = none →
      (request.applyInventoryToDb weather session).1.view = none := by
    intro session settled
    unfold applyInventoryToDb
    split
    · exact settled
    · split
      · exact settled
      · have connected : (getConnection weather.connection session).1.view = none := by
          unfold getConnection
          split
          · exact settled
          all_goals rfl
        split
        · next after same => exact (congrArg (·.1.view) same).symm.trans connected
        · exact attempt_settled effective _ _
  induction count generalizing session with
  | zero => exact settled
  | succ count ih =>
      have first := applied_settled settled
      rw [NotifyPlayerLeftRequest.attempts]
      generalize request.applyInventoryToDb weather session = performed at first
      rcases performed with ⟨after, _ | _⟩
      · exact ih first
      · exact first

/-- A guest's leave touches no row. -/
theorem attempts_guest (weather : Weather) (guest : request.uid < 0) (count : Nat)
    (session : Session (List InventoryRow))
    : (request.attempts weather count session).1 = session
      ∧ (request.attempts weather count session).2.length ≤ count := by
  cases count with
  | zero => exact ⟨rfl, Nat.le_refl 0⟩
  | succ count =>
      rw [NotifyPlayerLeftRequest.attempts, applyInventoryToDb, if_pos guest]
      exact ⟨rfl, Nat.succ_le_succ (Nat.zero_le count)⟩

-----------------------------------------------------------------------------------------
-- The leave
-----------------------------------------------------------------------------------------

/-- The slots of a notice as the game process numbers them. -/
structure FromDedicate (pkt : D2MNotifyPlayerLeft) : Prop where
  inventory : ∀ s ∈ pkt.inventorySlots, 0 ≤ s.slotIndex ∧ s.slotIndex < 25
  equipment : ∀ s ∈ pkt.equipmentSlots, 0 ≤ s.slotIndex ∧ s.slotIndex < 3

theorem FromDedicate.raidRows {pkt : D2MNotifyPlayerLeft} (h : FromDedicate pkt)
    : (ofPacket pkt).RaidRows := by
  intro row mem
  obtain ⟨slot, listed, rfl⟩ := List.mem_map.mp mem
  have begins : INVENTORY_SLOT_INDEX_BEGIN ≤ slot.slotIndex := by
    rcases List.mem_append.mp listed with listed | listed
    · obtain ⟨s, sent, rfl⟩ := List.mem_map.mp listed
      have := (h.inventory s sent).1
      simp only [INVENTORY_SLOT_INDEX_BEGIN]
      omega
    · obtain ⟨s, sent, rfl⟩ := List.mem_map.mp listed
      have := (h.equipment s sent).1
      simp only [INVENTORY_SLOT_INDEX_BEGIN, LOADOUT_SLOT_INDEX_BEGIN]
      omega
  exact Bool.and_eq_true_iff.mpr ⟨beq_self_eq_true _, decide_eq_true begins⟩

theorem ofSlot_slotIndex {slotIndex : Int} {slot : Slot} {sent : ItemSlot}
    (made : ItemSlot.ofSlot slotIndex slot = some sent)
    : sent.slotIndex = slotIndex := by
  rw [ItemSlot.ofSlot] at made
  split at made <;> cases made
  rfl

/-- The game process sends such notices only. -/
theorem leftNotice_fromDedicate (session : PlayerSession)
    : FromDedicate session.leftNotice := by
  unfold PlayerSession.leftNotice
  split
  · refine ⟨fun s mem => ?_, fun s mem => ?_⟩
    · obtain ⟨index, _, made⟩ := List.mem_filterMap.mp mem
      rw [ofSlot_slotIndex made]
      exact ⟨Int.natCast_nonneg _, Int.ofNat_lt.mpr index.isLt⟩
    · obtain ⟨_, made, rfl⟩ := List.mem_filterMap.mp mem
      simp only [List.mem_cons, List.not_mem_nil, or_false] at made
      rcases made with made | made | made <;> rw [ofSlot_slotIndex made.symm] <;> decide
  · refine ⟨fun s mem => ?_, fun s mem => ?_⟩ <;> cases mem

/-- What a leave has done to the rows of the account, to the other rows and to the lock. -/
structure AllOrNothing (request : NotifyPlayerLeftRequest) (before after : DBProxy) : Prop
    where
  raidRows : after.mysql.committed.filter request.inRaid
      = before.mysql.committed.filter request.inRaid
    ∨ 0 ≤ request.uid ∧ after.mysql.committed.filter request.inRaid = request.rows
  otherRows : request.others after.mysql.committed = request.others before.mysql.committed
  guest : request.uid < 0 → after.mysql.committed = before.mysql.committed
  order : ∃ reports : List Bool, reports.length ≤ DB_RETRY_COUNT
    ∧ after.log = before.log ++ reports.map .attempt ++ [.delActiveMatch]
    ∧ (0 ≤ request.uid → true ∈ reports →
      after.mysql.committed.filter request.inRaid = request.rows)
  lock : after.redis = before.redis ∨ after.redis = before.redis.delLock request.uid

theorem execute_redis (weather : Weather) (proxy : DBProxy)
    : (request.execute weather proxy).redis = proxy.redis
      ∨ (request.execute weather proxy).redis = proxy.redis.delLock request.uid := by
  unfold execute
  dsimp only
  split
  · exact .inr rfl
  · exact .inr rfl
  · exact .inl rfl
  · exact .inl rfl

/-- Whatever calls fail and however they fail, a leave ends with the rows as before or with
the rows of the notice, the latter if an attempt reports success; it touches no other row, and
no row of a guest; and the lock goes after the last attempt. If no rollback throws without
effect on a living connection, it leaves no open transaction for the next leave.
-/
theorem leave_all_or_nothing (weather : Weather) {proxy : DBProxy}
    (settled : proxy.mysql.view = none) {pkt : D2MNotifyPlayerLeft} (sent : FromDedicate pkt)
    : AllOrNothing (ofPacket pkt) proxy ((ofPacket pkt).execute weather proxy)
      ∧ ((∀ calls, weather.mysql calls .rollback ≠ .refused) →
        ((ofPacket pkt).execute weather proxy).mysql.view = none) := by
  have raid := sent.raidRows
  generalize ofPacket pkt = request at raid ⊢
  refine ⟨?_, fun effective => attempts_settled effective DB_RETRY_COUNT settled⟩
  have lock : (request.execute weather proxy).redis = proxy.redis
      ∨ (request.execute weather proxy).redis = proxy.redis.delLock request.uid :=
    execute_redis weather proxy
  rcases lt_or_ge request.uid 0 with guest | player
  · obtain ⟨same, few⟩ := attempts_guest weather guest DB_RETRY_COUNT proxy.mysql
    have committed : (request.execute weather proxy).mysql.committed = proxy.mysql.committed :=
      congrArg Session.committed same
    refine ⟨.inl (congrArg _ committed), congrArg _ committed, fun _ => committed,
      ⟨_, few, rfl, fun player => ?_⟩, lock⟩
    exact absurd guest (not_lt.mpr player)
  · have start : request.Settling proxy.mysql.committed proxy.mysql := by
      refine ⟨.inl rfl, fun data pending => ?_⟩
      rw [settled] at pending
      cases pending
    obtain ⟨last, applied, few⟩ := start.attempts weather raid player DB_RETRY_COUNT
    refine ⟨?_, last.others_committed raid, fun guest => absurd guest (not_lt.mpr player),
      ⟨_, few, rfl, fun _ success => ?_⟩, lock⟩
    · rcases last.committed with same | same
      · exact .inl (congrArg _ same)
      · exact .inr ⟨player, (congrArg _ same).trans (raid.filter_applied _)⟩
    · exact (congrArg _ (applied success)).trans (raid.filter_applied _)

/-- A recalled player brings home seven pieces of item 5 in the fourth slot. -/
def homecoming : D2MNotifyPlayerLeft where
  uid := 1
  leaveReason := .recalled
  inventorySlots := [{ itemId := 5, slotIndex := 3, quantity := 7 }]

/-- The player had something in the warehouse and something in the inventory. -/
def stocked : DBProxy where
  mysql :=
    { committed :=
        [{ uid := 1, itemId := 9, slotIndex := 10, quantity := 1 },
          { uid := 1, itemId := 5, slotIndex := 80, quantity := 2 }] }
  redis := {}

/-- The answer to the first commit is lost, and from then on nothing is answered. -/
def unheardCommit : Weather where
  keys := { users := [1], items := [5, 9] }
  pMysqlIsNull := false
  connection := fun _ => .answered
  mysql := fun calls _ =>
    if calls < 4 then .answered else if calls = 4 then .unheard else .refused
  redis := .answered

/-- Witness: the rows are those of the notice although no attempt has reported success. -/
theorem homecoming_allOrNothing
    : AllOrNothing (ofPacket homecoming) stocked
        ((ofPacket homecoming).execute unheardCommit stocked)
      ∧ ((ofPacket homecoming).execute unheardCommit stocked).mysql.committed
        = [{ uid := 1, itemId := 9, slotIndex := 10, quantity := 1 },
            { uid := 1, itemId := 5, slotIndex := 83, quantity := 7 }]
      ∧ ((ofPacket homecoming).execute unheardCommit stocked).log
        = [.attempt false, .attempt false, .delActiveMatch] := by
  refine ⟨(leave_all_or_nothing unheardCommit rfl ⟨fun s mem => ?_, fun s mem => ?_⟩).1, ?_, ?_⟩
  · obtain rfl := List.mem_singleton.mp mem
    decide
  · cases mem
  · decide +kernel
  · decide +kernel

end NotifyPlayerLeftRequest

end ExtractionServer.Lobby
