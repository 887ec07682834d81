import ExtractionServer.Lobby.MatchStart

/-! What a `/match/start` that fails leaves behind. The rows are those of before or, once the
transaction has been committed, those of the snapshot; the lock changes in the outer `catch`
only.
-/

namespace ExtractionServer.Lobby

open JavaScript (Value)

-----------------------------------------------------------------------------------------
-- The transaction
-----------------------------------------------------------------------------------------

/-- A transaction that commits has found the totals of the rows in the snapshot, and has put
the snapshot in their place.
-/
theorem startTransaction_eq_ok {catalog : Catalog} {fails : Call → Bool}
    {account after : Account} {preset loadout : Loadout} {request : StartRequest}
    (h : startTransaction catalog fails account preset request = .ok (after, loadout))
    : totalsMatch account.rows request.snapshot.items = true
      ∧ after = { account with rows := request.snapshot.items }
      ∧ (request.snapshot.items = [] ∨ catalog.Insertable account request.snapshot.items) := by
  unfold startTransaction at h
  obtain ⟨_, _, h⟩ := Except.bind_eq_ok h
  obtain ⟨_, _, h⟩ := Except.bind_eq_ok h
  dsimp only at h
  split at h
  · cases h
  · next matching =>
      obtain ⟨rewritten, written, h⟩ := Except.bind_eq_ok h
      obtain ⟨same, insertable⟩ := rewriteRows_eq_ok written
      refine ⟨by simpa using matching, ?_, insertable⟩
      rw [← same]
      split at h
      · obtain ⟨_, _, h⟩ := Except.bind_eq_ok h
        cases h
        rfl
      · split at h
        · cases h
        · obtain ⟨_, _, h⟩ := Except.bind_eq_ok h
          split at h
          · cases h
          · obtain ⟨_, _, h⟩ := Except.bind_eq_ok h
            cases h
            rfl

/-- What it takes to commit the transaction: every statement up to the `COMMIT` is answered,
the totals agree, the new rows are accepted, and a `CUSTOM` loadout has a weapon.
-/
structure StartCommits (catalog : Catalog) (fails : Call → Bool) (account : Account)
    (request : StartRequest)
    : Prop where
  begins : fails .beginTransaction = false
  selects : fails .selectInventory = false
  totals : totalsMatch account.rows request.snapshot.items = true
  deletes : fails .deleteInventory = false
  inserts : request.snapshot.items = []
    ∨ fails .insertInventory = false ∧ catalog.Insertable account request.snapshot.items
  armed : request.loadoutType = .custom → fails .selectItemType = false
    ∧ (weaponSlotItems request.snapshot.items).any
        (catalog.items.lookup ·.itemId == some ItemType.weapon) = true
  commits : fails .commit = false

theorem call_ok_iff {fails : Call → Bool} {c : Call}
    : call fails c = .ok () ↔ fails c = false := by
  unfold call
  cases fails c
  · exact ⟨fun _ => rfl, fun _ => rfl⟩
  · exact ⟨fun failed => (nomatch failed), fun failed => (nomatch failed)⟩

theorem rewriteRows_ok_iff {catalog : Catalog} {fails : Call → Bool} {account : Account}
    {rows : List InventoryItem}
    : (∃ after, rewriteRows catalog fails account rows = .ok after)
      ↔ fails .deleteInventory = false
        ∧ (rows = [] ∨ fails .insertInventory = false ∧ catalog.Insertable account rows) := by
  unfold rewriteRows
  constructor
  · rintro ⟨after, written⟩
    obtain ⟨_, deleted, written⟩ := Except.bind_eq_ok written
    refine ⟨call_ok_iff.mp deleted, ?_⟩
    split at written
    · next none => exact .inl (List.isEmpty_iff.mp none)
    · obtain ⟨_, inserted, written⟩ := Except.bind_eq_ok written
      split at written
      · next insertable => exact .inr ⟨call_ok_iff.mp inserted, insertable⟩
      · cases written
  · rintro ⟨deleted, inserted⟩
    rw [call_ok_iff.mpr deleted]
    rcases inserted with none | ⟨inserted, insertable⟩
    · exact ⟨_, if_pos (List.isEmpty_iff.mpr none)⟩
    · by_cases none : rows.isEmpty = true
      · exact ⟨_, if_pos none⟩
      · refine ⟨{ account with rows }, (if_neg none).trans ?_⟩
        rw [call_ok_iff.mpr inserted]
        exact if_pos insertable

/-- A weapon among the items is an item. -/
theorem not_isEmpty_of_any {catalog : Catalog} {items : List InventoryItem}
    (armed : items.any (catalog.items.lookup ·.itemId == some ItemType.weapon) = true)
    : ¬items.isEmpty = true := by
  intro none
  rw [List.isEmpty_iff.mp none] at armed
  cases armed

/-- The transaction is committed exactly then. -/
theorem startTransaction_ok_iff {catalog : Catalog} {fails : Call → Bool} {account : Account}
    {preset : Loadout} {request : StartRequest}
    : (∃ committed, startTransaction catalog fails account preset request = .ok committed)
      ↔ StartCommits catalog fails account request := by
  unfold startTransaction
  constructor
  · rintro ⟨committed, h⟩
    obtain ⟨_, begins, h⟩ := Except.bind_eq_ok h
    obtain ⟨_, selects, h⟩ := Except.bind_eq_ok h
    dsimp only at h
    split at h
    · cases h
    · next matching =>
        obtain ⟨rewritten, written, h⟩ := Except.bind_eq_ok h
        obtain ⟨deletes, inserts⟩ := rewriteRows_ok_iff.mp ⟨rewritten, written⟩
        have rest : (request.loadoutType = .custom → fails .selectItemType = false
            ∧ (weaponSlotItems request.snapshot.items).any
                (catalog.items.lookup ·.itemId == some ItemType.weapon) = true)
            ∧ fails .commit = false := by
          split at h
          · next free =>
              obtain ⟨_, commits, _⟩ := Except.bind_eq_ok h
              exact ⟨fun custom => by simp [free] at custom, call_ok_iff.mp commits⟩
          · split at h
            · cases h
            · obtain ⟨_, typed, h⟩ := Except.bind_eq_ok h
              split at h
              · cases h
              · next armed =>
                  obtain ⟨_, commits, _⟩ := Except.bind_eq_ok h
                  exact ⟨fun _ => ⟨call_ok_iff.mp typed, by simpa using armed⟩,
                    call_ok_iff.mp commits⟩
        exact ⟨call_ok_iff.mp begins, call_ok_iff.mp selects, by simpa using matching, deletes,
          inserts, rest.1, rest.2⟩
  · intro h
    obtain ⟨rewritten, written⟩ := rewriteRows_ok_iff.mpr ⟨h.deletes, h.inserts⟩
    rw [call_ok_iff.mpr h.begins, call_ok_iff.mpr h.selects]
    have matching : ¬(!totalsMatch account.rows request.snapshot.items) = true := by
      simp [h.totals]
    cases loadoutType : request.loadoutType with
    | free =>
        refine ⟨(rewritten, preset), (if_neg matching).trans ?_⟩
        rw [written]
        show (call fails .commit >>= _) = _
        rw [call_ok_iff.mpr h.commits]
        rfl
    | custom =>
        obtain ⟨typed, armed⟩ := h.armed loadoutType
        refine ⟨(rewritten, customLoadout request.snapshot.items), (if_neg matching).trans ?_⟩
        rw [written]
        refine (if_neg (not_isEmpty_of_any armed)).trans ?_
        rw [call_ok_iff.mpr typed]
        refine (if_neg (by simpa using armed)).trans ?_
        rw [call_ok_iff.mpr h.commits]
        rfl

-----------------------------------------------------------------------------------------
-- The lock
-----------------------------------------------------------------------------------------

namespace StartState

variable {state : StartState} {fails : Call → Bool} {uid : Int}

@[simp] theorem account_release (state : StartState) (fails : Call → Bool) (del : Call)
    (uid : Int)
    : (state.release fails del uid).account = state.account := by
  unfold release
  split <;> rfl

theorem account_catchError (state : StartState) (fails : Call → Bool) (uid : Int)
    : (state.catchError fails uid).1.account = state.account :=
  account_release state fails .delLockAtEnd uid

/-- A lock that is not there is not there after a `DEL` either. -/
theorem lock_release_of_none (none : state.lock uid = none) (del : Call)
    : (state.release fails del uid).lock uid = .none := by
  unfold release
  split
  · exact none
  · exact AList.lookup_erase uid _

/-- A `DEL` that is answered leaves no lock. -/
theorem lock_release {del : Call} (answered : fails del = false)
    : (state.release fails del uid).lock uid = none := by
  unfold release
  rw [if_neg (Bool.eq_false_iff.mp answered)]
  exact AList.lookup_erase uid _

/-- After a failure behind the lock, one answered `DEL` of the two is enough. -/
theorem lock_release_catchError
    (answered : fails .delLock = false ∨ fails .delLockAtEnd = false)
    : ((state.release fails .delLock uid).catchError fails uid).1.lock uid = none := by
  rcases answered with first | second
  · exact lock_release_of_none (lock_release first) .delLockAtEnd
  · exact lock_release second

end StartState

-----------------------------------------------------------------------------------------
-- The handler
-----------------------------------------------------------------------------------------

/-- What a start leaves behind that answers with another status than 200. -/
structure FailedStart (before : Redis) (uid : Int) (fails : Call → Bool)
    (result : StartState × Response String)
    : Prop where
  /-- Only an internal error touches Redis. -/
  redis : result.2.status ≠ 500 → result.1.redis = before
  /-- Without a lock before there is none after, if a `DEL` is answered. -/
  lock : before.activeMatch.lookup uid = none →
    fails .delLock = false ∨ fails .delLockAtEnd = false →
    result.1.lock uid = none

theorem StartState.catchError_failed (state : StartState) (fails : Call → Bool) (uid : Int)
    : FailedStart state.redis uid fails (state.catchError fails uid) where
  redis failed := absurd rfl failed
  lock none _ := StartState.lock_release_of_none none .delLockAtEnd

/-- The last part fails with the lock released, or with nothing changed. -/
theorem StartState.enqueue_failed {state : StartState} {fails : Call → Bool}
    {ticketId : String} {session : SessionHash} {request : StartRequest} {loadout : Loadout}
    (failed : (state.enqueue fails ticketId session request loadout).2.status ≠ 200)
    : FailedStart state.redis session.dbId fails
        (state.enqueue fails ticketId session request loadout) := by
  unfold enqueue at failed ⊢
  dsimp only at failed ⊢
  split
  · exact state.catchError_failed fails session.dbId
  · split
    · exact ⟨fun _ => rfl, fun none _ => none⟩
    · split
      · exact ⟨fun other => absurd rfl other, fun _ => lock_release_catchError⟩
      · split
        · exact ⟨fun other => absurd rfl other, fun _ => lock_release_catchError⟩
        · next notHeld hash expire =>
            simp only [*, if_false, Bool.false_eq_true] at failed
            exact absurd rfl failed

theorem StartState.account_enqueue (state : StartState) (fails : Call → Bool)
    (ticketId : String) (session : SessionHash) (request : StartRequest) (loadout : Loadout)
    : (state.enqueue fails ticketId session request loadout).1.account = state.account := by
  unfold enqueue
  dsimp only
  split
  · exact account_catchError state fails _
  · split
    · rfl
    · split
      · rw [account_catchError, account_release]
      · split
        · rw [account_catchError, account_release]
        · rfl

/-- A start that has come behind its transaction is refused because of a lock, or fails, or
succeeds.
-/
theorem StartState.enqueue_answer (state : StartState) (fails : Call → Bool)
    (ticketId : String) (session : SessionHash) (request : StartRequest) (loadout : Loadout)
    : (state.enqueue fails ticketId session request loadout).2 = .failure .conflict alreadyInMatch
      ∨ (state.enqueue fails ticketId session request loadout).2.status = 500
      ∨ (state.enqueue fails ticketId session request loadout).2.status = 200 := by
  unfold enqueue
  dsimp only
  split
  · exact .inr (.inl rfl)
  · split
    · exact .inl rfl
    · split
      · exact .inr (.inl rfl)
      · split
        · exact .inr (.inl rfl)
        · exact .inr (.inr rfl)

/-- The transaction of the start with this body has been committed. -/
structure Committed (catalog : Catalog) (fails : Call → Bool) (account : Account)
    (body : Option Value) (request : StartRequest)
    : Prop where
  read : body.map readStart = some (.ok request)
  connects : fails .getConnection = false
  commits : StartCommits catalog fails account request

/-- A start leaves the account as it was, or its transaction has committed. -/
theorem start_account_cases (catalog : Catalog) (fails : Call → Bool)
    (index : Fin FREE_LOADOUT_PRESETS.length) (ticketId : String) (session : SessionHash)
    (state : StartState) (body : Option Value)
    : (start catalog fails index ticketId session state body).1.account = state.account
      ∨ ∃ value request loadout, body = some value ∧ readStart value = .ok request
        ∧ startTransaction catalog fails state.account (FREE_LOADOUT_PRESETS.get index) request
          = .ok ((start catalog fails index ticketId session state body).1.account,
              loadout) := by
  unfold start
  split
  · exact .inl rfl
  · split
    · exact .inl rfl
    · exact .inl (StartState.account_catchError state fails session.dbId)
    · next request read =>
        split
        · exact .inl (StartState.account_catchError state fails session.dbId)
        · split
          · exact .inl rfl
          · exact .inl (StartState.account_catchError state fails session.dbId)
          · next after loadout committed =>
              rw [StartState.account_enqueue]
              exact .inr ⟨_, request, loadout, rfl, read, committed⟩

/-- Without a commit the rows stay. -/
theorem start_account {catalog : Catalog} {fails : Call → Bool}
    {index : Fin FREE_LOADOUT_PRESETS.length} {ticketId : String} {session : SessionHash}
    {state : StartState} {body : Option Value}
    (never : ∀ request, ¬Committed catalog fails state.account body request)
    : (start catalog fails index ticketId session state body).1.account = state.account := by
  rcases start_account_cases catalog fails index ticketId session state body
    with same | ⟨value, request, loadout, given, read, committed⟩
  · exact same
  · cases connects : fails .getConnection with
    | false =>
        have commits := startTransaction_ok_iff.mp ⟨_, committed⟩
        exact absurd ⟨by rw [given, Option.map_some, read], connects, commits⟩ (never request)
    | true =>
        subst given
        simp only [start, read, connects, if_true]
        exact StartState.account_catchError state fails session.dbId

/-- A commit brings the rows of the snapshot, and the last part of the handler. -/
theorem start_eq_enqueue {catalog : Catalog} {fails : Call → Bool}
    {index : Fin FREE_LOADOUT_PRESETS.length} {ticketId : String} {session : SessionHash}
    {state : StartState} {body : Option Value} {request : StartRequest}
    (h : Committed catalog fails state.account body request)
    : ∃ loadout, start catalog fails index ticketId session state body
      = StartState.enqueue
          { state with account := { state.account with rows := request.snapshot.items } } fails
          ticketId session request loadout := by
  obtain ⟨value, rfl, read⟩ := Option.map_eq_some_iff.mp h.read
  obtain ⟨⟨after, loadout⟩, committed⟩ :=
    (@startTransaction_ok_iff _ _ _ (FREE_LOADOUT_PRESETS.get index) _).mpr h.commits
  obtain ⟨_, stored, _⟩ := startTransaction_eq_ok committed
  subst stored
  refine ⟨loadout, ?_⟩
  simp only [start, read, h.connects, committed, if_false, Bool.false_eq_true]

/-- A start that answers with another status than 200 leaves the rows as they were unless its
transaction was committed. Then they are exactly those of the snapshot, with the same totals,
and the answer is that the account is in a match already, or an internal error. It leaves
Redis as it was unless it answers 500; then there is no lock where there was none before, if
one of the two clean-ups is answered.
-/
theorem start_failed {catalog : Catalog} {fails : Call → Bool}
    {index : Fin FREE_LOADOUT_PRESETS.length} {ticketId : String} {session : SessionHash}
    {state : StartState} {body : Option Value} (schema : state.account.InSchema)
    (failed : (start catalog fails index ticketId session state body).2.status ≠ 200)
    : ((∀ request, ¬Committed catalog fails state.account body request) →
        (start catalog fails index ticketId session state body).1.account = state.account)
      ∧ (∀ request, Committed catalog fails state.account body request →
          (start catalog fails index ticketId session state body).1.account
              = { state.account with rows := request.snapshot.items }
            ∧ (∀ itemId, totalOf request.snapshot.items itemId
              = totalOf state.account.rows itemId)
            ∧ ((start catalog fails index ticketId session state body).2
                = .failure .conflict alreadyInMatch
              ∨ (start catalog fails index ticketId session state body).2.status = 500))
      ∧ FailedStart state.redis session.dbId fails
          (start catalog fails index ticketId session state body) := by
  refine ⟨start_account, fun request committed => ?_, ?_⟩
  · obtain ⟨loadout, same⟩ :=
      @start_eq_enqueue catalog fails index ticketId session state body request committed
    rw [same] at failed ⊢
    refine ⟨StartState.account_enqueue _ fails ticketId session request loadout,
      schema.totals committed.commits.totals, ?_⟩
    rcases StartState.enqueue_answer _ fails ticketId session request loadout with
      locked | error | done
    · exact .inl locked
    · exact .inr error
    · exact absurd done failed
  · unfold start at failed ⊢
    split
    · exact ⟨fun _ => rfl, fun none _ => none⟩
    · split
      · exact ⟨fun _ => rfl, fun none _ => none⟩
      · exact state.catchError_failed fails session.dbId
      · next request read =>
          split
          · exact state.catchError_failed fails session.dbId
          · next connected =>
              split
              · exact ⟨fun _ => rfl, fun none _ => none⟩
              · exact state.catchError_failed fails session.dbId
              · next account loadout committed =>
                  simp only [read, if_neg connected, committed] at failed
                  exact StartState.enqueue_failed failed

-----------------------------------------------------------------------------------------
-- A start during a game
-----------------------------------------------------------------------------------------

/-- One weapon. -/
def oneWeapon : Catalog where
  items := AList.singleton 1 .weapon
  shop := ∅
  itemMeta := ∅

def playerSession : SessionHash where
  userId := "alpha"
  dbId := 1
  userType := "1"
  rating := 1500
  aggression := 5

/-- The account has the weapon in its warehouse while an earlier ticket's game runs. -/
def playing : StartState where
  account := { rows := [{ itemId := 1, slotIndex := 0, quantity := 1 }], money := some 0 }
  redis := { activeMatch := AList.singleton 1 (.inGame "ticket_a") }

/-- The client puts the weapon on and asks for a match. -/
def equipAndStart : Value :=
  .object
    [("mapId", .integer 0), ("characterType", .integer 0), ("loadoutType", .string "CUSTOM"),
      ("inventory", .array
        [.object [("item_id", .integer 1), ("slot_index", .integer 105),
          ("quantity", .integer 1)]])]

/-- The start is refused, and the weapon has changed its slot. -/
theorem start_persists_while_locked
    : ¬∀ (catalog : Catalog) (fails : Call → Bool)
        (index : Fin FREE_LOADOUT_PRESETS.length) (ticketId : String)
        (session : SessionHash) (state : StartState) (body : Option Value),
        (start catalog fails index ticketId session state body).2.status ≠ 200 →
        (start catalog fails index ticketId session state body).1.account.rows
            = state.account.rows
          ∧ (start catalog fails index ticketId session state body).1.lock session.dbId
            = state.lock session.dbId := by
  intro unchanged
  have rows := (unchanged oneWeapon (fun _ => false) ⟨0, by decide⟩ "ticket_b" playerSession
    playing (some equipAndStart) (by decide +kernel)).1
  exact absurd rows (by decide +kernel)

theorem playing_inSchema : playing.account.InSchema :=
  ⟨by decide, by decide, fun _ => rfl⟩

/-- The client leaves the weapon in the warehouse. -/
def startUnarmed : Value :=
  .object
    [("mapId", .integer 0), ("characterType", .integer 0), ("loadoutType", .string "CUSTOM"),
      ("inventory", .array
        [.object [("item_id", .integer 1), ("slot_index", .integer 0),
          ("quantity", .integer 1)]])]

/-- The requests of both. -/
def customRequest (slotIndex : Int)
    (wellFormed : InventoryItem.WellFormed { itemId := 1, slotIndex, quantity := 1 })
    : StartRequest where
  mapId := 0
  characterType := 0
  loadoutType := .custom
  snapshot :=
    { items := [{ itemId := 1, slotIndex, quantity := 1 }]
      wellFormed := fun _ mem => List.mem_singleton.mp mem ▸ wellFormed
      slots := List.nodup_singleton slotIndex }

theorem readStart_equipAndStart
    : readStart equipAndStart = .ok (customRequest 105 (by decide)) :=
  rfl

theorem readStart_startUnarmed
    : readStart startUnarmed = .ok (customRequest 0 (by decide)) :=
  rfl

/-- Without a weapon in its slot the rows stay. With one they are those of the snapshot, and
the lock stays.
-/
theorem start_while_locked
    : (start oneWeapon (fun _ => false) ⟨0, by decide⟩ "ticket_b" playerSession playing
          (some startUnarmed)).1.account
        = playing.account
      ∧ (start oneWeapon (fun _ => false) ⟨0, by decide⟩ "ticket_b" playerSession playing
          (some equipAndStart)).1.account.rows
        = [{ itemId := 1, slotIndex := 105, quantity := 1 }]
      ∧ FailedStart playing.redis 1 (fun _ => false)
        (start oneWeapon (fun _ => false) ⟨0, by decide⟩ "ticket_b" playerSession playing
          (some equipAndStart)) := by
  have unarmed : (start oneWeapon (fun _ => false) ⟨0, by decide⟩ "ticket_b" playerSession
      playing (some startUnarmed)).2.status ≠ 200 := by decide +kernel
  have failed : (start oneWeapon (fun _ => false) ⟨0, by decide⟩ "ticket_b" playerSession
      playing (some equipAndStart)).2.status ≠ 200 := by decide +kernel
  have committed : Committed oneWeapon (fun _ => false) playing.account (some equipAndStart)
      (customRequest 105 (by decide)) :=
    ⟨congrArg some readStart_equipAndStart, rfl,
      ⟨rfl, rfl, by decide +kernel, rfl, .inr ⟨rfl, by decide +kernel⟩,
        fun _ => ⟨rfl, by decide +kernel⟩, rfl⟩⟩
  refine ⟨(start_failed playing_inSchema unarmed).1 fun request committed => ?_, ?_,
    (start_failed playing_inSchema failed).2.2⟩
  · have read := committed.read
    rw [Option.map_some, readStart_startUnarmed] at read
    cases read
    exact absurd (committed.commits.armed rfl).2 (by decide +kernel)
  · rw [((start_failed playing_inSchema failed).2.1 _ committed).1]
    rfl

end ExtractionServer.Lobby
