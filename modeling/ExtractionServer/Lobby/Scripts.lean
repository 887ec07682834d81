import ExtractionServer.Lobby.Redis

/-! What each script and each command of the main process does to the tickets and the locks,
and the condition under which every ticket answers to its owner.
-/

namespace ExtractionServer.Lobby

namespace Redis

-----------------------------------------------------------------------------------------
-- Commands of `UpdateEntryTokenRequest::Execute`
-----------------------------------------------------------------------------------------

/-- The lock of a ticket's account becomes `INGAME:<ticketId>`, if the ticket has a `uid`. -/
def setInGame (redis : Redis) (ticketId : String) : Redis :=
  match redis.fields ticketId with
  | none => redis
  | some ticket =>
      { redis with activeMatch := redis.activeMatch.insert ticket.uid (.inGame ticketId) }

/-- The `HMSET` of the status and the token, which makes the hash when there is none. -/
def setSuccess (redis : Redis) (ticketId token : String) : Redis :=
  { redis with
    tickets :=
      redis.tickets.insert ticketId
        { (redis.tickets.lookup ticketId).getD {} with
          status := some .success
          token := some token } }

-----------------------------------------------------------------------------------------
-- Statuses
-----------------------------------------------------------------------------------------

theorem status_eq_some {redis : Redis} {ticketId : String} {status : TicketStatus}
    (h : redis.status ticketId = some status)
    : ∃ hash, redis.tickets.lookup ticketId = some hash ∧ hash.status = some status :=
  Option.bind_eq_some_iff.mp h

@[simp] theorem status_setStatus_self (redis : Redis) (ticketId : String)
    (status : TicketStatus)
    : (redis.setStatus ticketId status).status ticketId = some status := by
  simp [Redis.status, setStatus]

theorem status_setStatus_ne {ticketId other : String} (ne : other ≠ ticketId)
    (redis : Redis) (status : TicketStatus)
    : (redis.setStatus ticketId status).status other = redis.status other := by
  simp [Redis.status, setStatus, AList.lookup_insert_ne ne]

theorem status_delTicket_ne {ticketId other : String} (ne : other ≠ ticketId)
    (redis : Redis)
    : (redis.delTicket ticketId).status other = redis.status other := by
  simp [Redis.status, delTicket, AList.lookup_erase_ne ne]

@[simp] theorem status_delTicket_self (redis : Redis) (ticketId : String)
    : (redis.delTicket ticketId).status ticketId = none := by
  simp [Redis.status, delTicket]

theorem waiting_of_delTicket {redis : Redis} {key ticketId : String}
    (waiting : (redis.delTicket key).status ticketId = some .waiting)
    : redis.status ticketId = some .waiting := by
  by_cases same : ticketId = key
  · subst same
    rw [status_delTicket_self] at waiting
    cases waiting
  · rwa [status_delTicket_ne same] at waiting

theorem waiting_of_setSuccess {redis : Redis} {key token ticketId : String}
    (waiting : (redis.setSuccess key token).status ticketId = some .waiting)
    : redis.status ticketId = some .waiting := by
  by_cases same : ticketId = key
  · subst same
    simp [Redis.status, setSuccess] at waiting
  · simpa [Redis.status, setSuccess, AList.lookup_insert_ne same] using waiting

theorem status_setInGame (redis : Redis) (key ticketId : String)
    : (redis.setInGame key).status ticketId = redis.status ticketId := by
  unfold setInGame
  split <;> rfl

/-- One `DEL` of several tickets makes no ticket waiting, by induction on the tickets. -/
theorem waiting_of_foldl_delTicket {keys : List String} {redis : Redis} {ticketId : String}
    (waiting : (keys.foldl delTicket redis).status ticketId = some .waiting)
    : redis.status ticketId = some .waiting := by
  induction keys generalizing redis with
  | nil => exact waiting
  | cons key rest ih => exact waiting_of_delTicket (ih waiting)

/-- A group gets the status as a whole, by induction on the group. -/
theorem status_foldl_setStatus (keys : List String) (redis : Redis) (status : TicketStatus)
    (ticketId : String)
    : (keys.foldl (·.setStatus · status) redis).status ticketId
      = if ticketId ∈ keys then some status else redis.status ticketId := by
  induction keys generalizing redis with
  | nil => simp
  | cons key rest ih =>
      rw [List.foldl_cons, ih]
      by_cases later : ticketId ∈ rest
      · simp [later]
      · by_cases now : ticketId = key
        · subst now
          simp [later]
        · simp [later, now, status_setStatus_ne now]

/-- The commit finds every ticket waiting and gives all of them the status, or it finds one
that is not waiting and changes nothing.
-/
theorem commitGroup_cases (redis : Redis) (keys : List String) (status : TicketStatus)
    : (∀ key ∈ keys, redis.status key = some .waiting)
        ∧ redis.commitGroup keys status = (keys.foldl (·.setStatus · status) redis, true)
      ∨ (∃ key ∈ keys, redis.status key ≠ some .waiting)
        ∧ redis.commitGroup keys status = (redis, false) := by
  unfold commitGroup
  split
  · next all =>
      refine .inl ⟨fun key mem => ?_, rfl⟩
      exact eq_of_beq (List.all_eq_true.mp all key mem)
  · next some =>
      refine .inr ⟨?_, rfl⟩
      by_contra none
      refine some (List.all_eq_true.mpr fun key mem => beq_iff_eq.mpr ?_)
      exact Decidable.byContradiction fun other => none ⟨key, mem, other⟩

/-- A cancellation deletes a waiting ticket or changes nothing. -/
theorem matchCancel_cases (redis : Redis) (ticketId : String) (reqUid : Int)
    : redis.status ticketId = some .waiting
        ∧ redis.matchCancel ticketId reqUid = (redis.delTicket ticketId, 1)
      ∨ (redis.matchCancel ticketId reqUid).1 = redis
        ∧ (redis.matchCancel ticketId reqUid).2 ≠ 1 := by
  unfold matchCancel
  split
  · refine .inr ⟨rfl, ?_⟩
    dsimp only
    split <;> decide
  · split
    · exact .inr ⟨rfl, show (-1 : Int) ≠ 1 by decide⟩
    · split
      · next waiting => exact .inl ⟨waiting, rfl⟩
      · exact .inr ⟨rfl, show (0 : Int) ≠ 1 by decide⟩

/-- A login takes over a waiting ticket, which it deletes with the lock, or drops a lock
without a ticket, or finds no lock, or is refused and changes nothing.
-/
inductive Takeover (redis : Redis) (uid : Int) : Redis → TakeoverDetail → Prop
  | refused {detail : TakeoverDetail} (kept : ∀ ticketId, detail ≠ .cancelled ticketId)
      : Takeover redis uid redis detail
  | unlocked {after : Redis} (tickets : after.tickets = redis.tickets)
      (locks : after.activeMatch = redis.activeMatch)
      : Takeover redis uid after .none
  | dropped {after : Redis} {ticketId : String}
      (locked : redis.activeMatch.lookup uid = some (.ticket ticketId))
      (gone : redis.status ticketId = none) (tickets : after.tickets = redis.tickets)
      (locks : after.activeMatch = redis.activeMatch.erase uid)
      : Takeover redis uid after .none
  | cancelled {after : Redis} {ticketId : String}
      (locked : redis.activeMatch.lookup uid = some (.ticket ticketId))
      (waiting : redis.status ticketId = some .waiting)
      (tickets : after.tickets = redis.tickets.erase ticketId)
      (locks : after.activeMatch = redis.activeMatch.erase uid)
      : Takeover redis uid after (.cancelled ticketId)

theorem loginTakeover_cases (redis : Redis) (newSessKey : String) (session : SessionHash)
    : Takeover redis session.dbId (redis.loginTakeover newSessKey session).1
        (redis.loginTakeover newSessKey session).2.2.1 := by
  unfold loginTakeover
  dsimp only
  cases locked : redis.activeMatch.lookup session.dbId with
  | none => exact .unlocked rfl rfl
  | some lock =>
      cases lock with
      | inGame ticketId => exact .refused fun _ same => by cases same
      | ticket ticketId =>
          dsimp only
          cases found : redis.status ticketId with
          | none => exact .dropped locked found rfl rfl
          | some status =>
              cases status with
              | waiting => exact .cancelled locked found rfl rfl
              | inProgress => exact .refused fun _ same => by cases same
              | success => exact .refused fun _ same => by cases same

-----------------------------------------------------------------------------------------
-- Tickets that answer to their owners
-----------------------------------------------------------------------------------------

/-- The lock of an account names the ticket, or it says that a game of the account has
started.
-/
def locksFor (redis : Redis) (uid : Int) (ticketId : String) : Bool :=
  match redis.activeMatch.lookup uid with
  | some (.ticket named) => named == ticketId
  | some (.inGame _) => true
  | none => false

theorem locksFor_cases {redis : Redis} {uid : Int} {ticketId : String}
    (locked : redis.locksFor uid ticketId = true)
    : redis.activeMatch.lookup uid = some (.ticket ticketId)
      ∨ ∃ game, redis.activeMatch.lookup uid = some (.inGame game) := by
  unfold locksFor at locked
  split at locked
  · next named found => exact .inl (eq_of_beq locked ▸ found)
  · next game found => exact .inr ⟨game, found⟩
  · cases locked

theorem locksFor_of_inGame {redis : Redis} {uid : Int} {game : String}
    (found : redis.activeMatch.lookup uid = some (.inGame game)) (ticketId : String)
    : redis.locksFor uid ticketId = true := by
  rw [locksFor, found]

theorem locksFor_congr {before after : Redis} {uid : Int}
    (same : after.activeMatch.lookup uid = before.activeMatch.lookup uid) (ticketId : String)
    : after.locksFor uid ticketId = before.locksFor uid ticketId := by
  rw [locksFor, same, locksFor]

/-- Every ticket has a status and the fields of its owner, and one that no longer waits has
its owner's lock.
-/
def Owned (owner : String → Int) (redis : Redis) : Prop :=
  ∀ ticketId hash, redis.tickets.lookup ticketId = some hash →
    hash.status.isSome
    ∧ (∃ fields, hash.fields = some fields ∧ fields.uid = owner ticketId)
    ∧ (hash.status = some .waiting ∨ redis.locksFor (owner ticketId) ticketId = true)

namespace Owned

variable {owner : String → Int} {redis : Redis}

theorem fields (h : Owned owner redis) {ticketId : String} {hash : TicketHash}
    (found : redis.tickets.lookup ticketId = some hash)
    : ∃ fields, redis.fields ticketId = some fields ∧ fields.uid = owner ticketId := by
  obtain ⟨_, ⟨fields, created, own⟩, _⟩ := h ticketId hash found
  exact ⟨fields, by rw [Redis.fields, found, Option.bind_some, created], own⟩

/-- A hash that is there gets a new status and perhaps a token. -/
theorem of_update (h : Owned owner redis) {ticketId : String} {old new : TicketHash}
    (found : redis.tickets.lookup ticketId = some old) (fields : new.fields = old.fields)
    (status : new.status.isSome)
    (locked : new.status = some .waiting
      ∨ redis.locksFor (owner ticketId) ticketId = true)
    : Owned owner { redis with tickets := redis.tickets.insert ticketId new } := by
  intro other hash foundOther
  by_cases same : other = ticketId
  · subst same
    obtain rfl : new = hash :=
      Option.some.inj ((AList.lookup_insert redis.tickets).symm.trans foundOther)
    obtain ⟨_, own, _⟩ := h other old found
    exact ⟨status, fields ▸ own, locked⟩
  · exact h other hash ((AList.lookup_insert_ne same).symm.trans foundOther)

theorem setStatus (h : Owned owner redis) {ticketId : String}
    (known : ticketId ∈ redis.tickets) {status : TicketStatus}
    (locked : status = .waiting ∨ redis.locksFor (owner ticketId) ticketId = true)
    : Owned owner (redis.setStatus ticketId status) := by
  obtain ⟨hash, found⟩ := Table.exists_lookup_of_mem known
  exact h.of_update found (by simp [found]) rfl (locked.imp_left (congrArg some))

theorem setSuccess (h : Owned owner redis) {ticketId : String}
    (known : ticketId ∈ redis.tickets)
    (locked : redis.locksFor (owner ticketId) ticketId = true) (token : String)
    : Owned owner (redis.setSuccess ticketId token) := by
  obtain ⟨hash, found⟩ := Table.exists_lookup_of_mem known
  exact h.of_update found (by simp [found]) rfl (.inr locked)

/-- Fewer tickets, and the locks of those that no longer wait stay good. -/
theorem of_fewer (h : Owned owner redis) {after : Redis}
    (fewer : ∀ ticketId hash, after.tickets.lookup ticketId = some hash →
      redis.tickets.lookup ticketId = some hash)
    (locks : ∀ ticketId hash, after.tickets.lookup ticketId = some hash →
      hash.status ≠ some .waiting → redis.locksFor (owner ticketId) ticketId = true →
        after.locksFor (owner ticketId) ticketId = true)
    : Owned owner after := by
  intro ticketId hash found
  obtain ⟨status, own, lock⟩ := h ticketId hash (fewer ticketId hash found)
  refine ⟨status, own, ?_⟩
  by_cases waiting : hash.status = some .waiting
  · exact .inl waiting
  · exact .inr (locks ticketId hash found waiting (lock.resolve_left waiting))

theorem delTicket (h : Owned owner redis) (ticketId : String)
    : Owned owner (redis.delTicket ticketId) :=
  h.of_fewer (fun _ _ found => (Table.lookup_erase_cases found).2) fun _ _ _ _ => id

/-- One `DEL` of several tickets, by induction on the tickets. -/
theorem delTickets (h : Owned owner redis) (keys : List String)
    : Owned owner (keys.foldl Redis.delTicket redis) := by
  induction keys generalizing redis with
  | nil => exact h
  | cons key rest ih => exact ih (h.delTicket key)

/-- A group of tickets that are there gets a status, by induction on the group. -/
theorem foldl_setStatus (h : Owned owner redis) {keys : List String}
    (known : ∀ key ∈ keys, key ∈ redis.tickets)
    (locked : ∀ key ∈ keys, redis.locksFor (owner key) key = true) (status : TicketStatus)
    : Owned owner (keys.foldl (·.setStatus · status) redis) := by
  induction keys generalizing redis with
  | nil => exact h
  | cons key rest ih =>
      have first : Owned owner (redis.setStatus key status) :=
        h.setStatus (known key List.mem_cons_self) (.inr (locked key List.mem_cons_self))
      refine ih first (fun other mem => ?_) fun other mem => ?_
      · exact (AList.mem_insert _).mpr (.inr (known other (List.mem_cons_of_mem _ mem)))
      · exact locked other (List.mem_cons_of_mem _ mem)

/-- A commit of tickets that have their locks. -/
theorem commitGroup (h : Owned owner redis) {keys : List String}
    (locked : ∀ key ∈ keys, redis.locksFor (owner key) key = true) (status : TicketStatus)
    : Owned owner (redis.commitGroup keys status).1 := by
  rcases redis.commitGroup_cases keys status with ⟨waiting, result⟩ | ⟨_, result⟩
  · rw [result]
    refine h.foldl_setStatus (fun key mem => ?_) locked status
    obtain ⟨hash, found, _⟩ := status_eq_some (waiting key mem)
    exact Table.mem_of_lookup found
  · rw [result]
    exact h

theorem matchCancel (h : Owned owner redis) (ticketId : String) (reqUid : Int)
    : Owned owner (redis.matchCancel ticketId reqUid).1 := by
  rcases redis.matchCancel_cases ticketId reqUid with ⟨_, result⟩ | ⟨result, _⟩
  · rw [result]
    exact h.delTicket ticketId
  · rw [result]
    exact h

/-- Other locks stay, and the lock that is written is one of a game or of an account whose
tickets all wait.
-/
theorem of_lock (h : Owned owner redis) {uid : Int} {after : Redis}
    (tickets : after.tickets = redis.tickets)
    (others : ∀ other, other ≠ uid →
      after.activeMatch.lookup other = redis.activeMatch.lookup other)
    (lock : (∃ game, after.activeMatch.lookup uid = some (.inGame game))
      ∨ ∀ ticketId hash, redis.tickets.lookup ticketId = some hash →
          owner ticketId = uid → hash.status = some .waiting)
    : Owned owner after := by
  refine h.of_fewer (fun ticketId hash found => tickets ▸ found)
    fun ticketId hash found notWaiting locked => ?_
  by_cases own : owner ticketId = uid
  · rcases lock with ⟨game, inGame⟩ | waiting
    · exact locksFor_of_inGame (own ▸ inGame) ticketId
    · exact absurd (waiting ticketId hash (tickets ▸ found) own) notWaiting
  · rwa [locksFor_congr (others _ own)]

/-- A lock of a game is written, or any lock of an account whose tickets all wait. -/
theorem setLock (h : Owned owner redis) {uid : Int} {lock : LockValue}
    (free : (∃ game, lock = .inGame game)
      ∨ ∀ ticketId hash, redis.tickets.lookup ticketId = some hash →
          owner ticketId = uid → hash.status = some .waiting)
    : Owned owner (redis.setLock uid lock) := by
  refine h.of_lock rfl (fun _ ne => AList.lookup_insert_ne ne) ?_
  rcases free with ⟨game, rfl⟩ | waiting
  · exact .inl ⟨game, AList.lookup_insert _⟩
  · exact .inr waiting

theorem delLock (h : Owned owner redis) {uid : Int}
    (free : ∀ ticketId hash, redis.tickets.lookup ticketId = some hash →
      owner ticketId = uid → hash.status = some .waiting)
    : Owned owner (redis.delLock uid) :=
  h.of_lock rfl (fun _ ne => AList.lookup_erase_ne ne) (.inr free)

/-- The lock of the ticket's own account says that its game runs. -/
theorem setInGame (h : Owned owner redis) (ticketId : String)
    : Owned owner (redis.setInGame ticketId) := by
  unfold Redis.setInGame
  split
  · exact h
  · next fields _ =>
      exact h.of_lock rfl (fun _ ne => AList.lookup_insert_ne ne)
        (.inl ⟨ticketId, AList.lookup_insert _⟩)

/-- A login deletes a lock only with its waiting ticket, or when its ticket is gone. -/
theorem takeover (h : Owned owner redis) {uid : Int} {after : Redis}
    {detail : TakeoverDetail} (taken : Takeover redis uid after detail)
    : Owned owner after := by
  -- A ticket of the account that no longer waits is the one in its lock.
  have named : ∀ {ticketId other hash},
      redis.activeMatch.lookup uid = some (.ticket ticketId) →
      redis.tickets.lookup other = some hash → hash.status ≠ some .waiting →
      owner other = uid → other = ticketId := by
    intro ticketId other hash locked found notWaiting own
    obtain ⟨_, _, lock⟩ := h other hash found
    rcases locksFor_cases (own ▸ lock.resolve_left notWaiting) with now | ⟨game, now⟩
    · rw [locked] at now
      cases now
      rfl
    · rw [locked] at now
      cases now
  cases taken with
  | refused _ => exact h
  | unlocked tickets locks =>
      refine h.of_fewer (fun ticketId hash found => tickets ▸ found)
        fun ticketId hash found notWaiting locked => ?_
      rwa [locksFor_congr (congrArg _ locks)]
  | @dropped _ ticketId locked gone tickets locks =>
      refine h.of_lock tickets
        (fun other ne => locks ▸ AList.lookup_erase_ne ne) (.inr fun other hash found own => ?_)
      by_contra notWaiting
      obtain rfl := named locked found notWaiting own
      obtain ⟨status, _⟩ := h other hash found
      rw [Redis.status, found, Option.bind_some] at gone
      rw [gone] at status
      cases status
  | @cancelled _ ticketId locked waiting tickets locks =>
      refine h.of_fewer (fun other hash found => ?_) fun other hash found notWaiting lock => ?_
      · exact (Table.lookup_erase_cases (tickets ▸ found)).2
      · obtain ⟨ne, found⟩ := Table.lookup_erase_cases (tickets ▸ found)
        have notOwn : owner other ≠ uid := fun own => ne (named locked found notWaiting own)
        rwa [locksFor_congr (locks ▸ AList.lookup_erase_ne notOwn)]

/-- A ticket with a status other than waiting cannot be cancelled by its owner, nor by
anybody else.
-/
theorem matchCancel_refused (h : Owned owner redis) {ticketId : String}
    {status : TicketStatus} (committed : redis.status ticketId = some status)
    (notWaiting : status ≠ .waiting) (reqUid : Int)
    : redis.matchCancel ticketId reqUid
      = (redis, if reqUid = owner ticketId then 0 else -1) := by
  obtain ⟨hash, found, _⟩ := status_eq_some committed
  obtain ⟨fields, created, own⟩ := h.fields found
  unfold Redis.matchCancel
  simp only [created, own]
  by_cases asks : reqUid = owner ticketId
  · rw [if_pos asks, if_neg (fun ne => ne asks.symm),
      if_neg fun waiting => notWaiting (Option.some.inj (committed.symm.trans waiting))]
  · rw [if_neg asks, if_pos fun same => asks same.symm]

/-- Its owner cannot log in anew either. -/
theorem loginTakeover_refused (h : Owned owner redis) {ticketId : String}
    {status : TicketStatus} (committed : redis.status ticketId = some status)
    (notWaiting : status ≠ .waiting) (newSessKey : String) {session : SessionHash}
    (login : session.dbId = owner ticketId)
    : ∃ detail, redis.loginTakeover newSessKey session = (redis, 0, detail, false) := by
  obtain ⟨hash, found, now⟩ := status_eq_some committed
  obtain ⟨_, _, lock⟩ := h ticketId hash found
  have locked := lock.resolve_left fun waiting =>
    notWaiting (Option.some.inj (now.symm.trans waiting))
  unfold Redis.loginTakeover
  rw [login]
  rcases locksFor_cases locked with lock | ⟨game, lock⟩
  · simp only [lock, committed]
    cases status with
    | waiting => exact absurd rfl notWaiting
    | inProgress => exact ⟨_, rfl⟩
    | success => exact ⟨_, rfl⟩
  · simp only [lock]
    exact ⟨_, rfl⟩

end Owned

end Redis

end ExtractionServer.Lobby
