import Mathlib.Data.Fintype.EquivFin
import ExtractionServer.Library.Lease
import ExtractionServer.Matchmaking.TicketLife

/-! The matches of an account, from the `HSET` of `/match/start` to the detach of the player,
and the lock `active_match:<uid>` that is to keep the account from having two of them.
-/

namespace ExtractionServer.Matchmaking

open Lobby Transition

-----------------------------------------------------------------------------------------
-- Requests, groups and sessions
-----------------------------------------------------------------------------------------

/-- The tickets, the requests that are about to delete a lock, and what has become of the
groups that were committed.
-/
structure MatchLife where
  life : LifeState := .fresh
  /-- Tickets whose `HSET` failed. -/
  failed : List String := []
  /-- Members of committed groups that no process has taken and that do not wait again. -/
  committed : List String := []
  /-- Members of the groups that a process has taken. -/
  handed : List String := []
  /-- Those of them whose player is detached. -/
  detached : List String := []
  /-- Tickets with the `uid` that `UpdateEntryTokenRequest::Execute` has read, whose `SET` is to
  come.
  -/
  marking : List (String × Int) := []
  /-- The accounts of requests whose `DEL active_match:<uid>` is to come. -/
  unlocking : List Int := []

namespace MatchLife

inductive Action where
  | life (action : LifeState.Action)
  /-- An error of `/match/start` that neither the `HSET` nor the `EXPIRE` throws. -/
  | startFails (uid : Int)
  | hSetFails (ticketId : String)
  | expireFails (ticketId : String)
  /-- The `HGET` of `UpdateEntryTokenRequest::Execute`. -/
  | readUid (ticketId : String)
  /-- Its `SET active_match:<uid> INGAME:<ticketId>`. -/
  | markInGame (ticketId : String) (uid : Int)
  | detachPlayer (ticketId : String)
  /-- The `DEL` of a failed start, of a cancellation or of a leave notification. -/
  | delLock (uid : Int)
  /-- The end of a lock's lifetime. -/
  | endLock (uid : Int)

/-- Redis as all processes see it. -/
def redis (state : MatchLife) : Redis :=
  state.life.server.redis

/-- The keys that the next command of the cycle is about. -/
def inHand (server : MatchState) : List String :=
  match server.stage with
  | .groups mapId (group :: _) => server.keys mapId group
  | .distribute mapId group _ => server.keys mapId group
  | .rollback mapId (ptr :: _) _ => server.keys mapId [ptr]
  | _ => []

/-- The account of a ticket among some. -/
def accountIn (tickets : Table String TicketFields) (ticketId : String) : Option Int :=
  (tickets.lookup ticketId).map (·.uid)

/-- The match of a ticket: it waits, or its group is committed and its player not detached. -/
def Runs (state : MatchLife) (ticketId : String) : Prop :=
  state.redis.status ticketId = some .waiting
    ∨ ticketId ∈ state.committed
    ∨ ticketId ∈ state.handed ∧ ticketId ∉ state.detached

/-- The account has a live match. -/
def Live (state : MatchLife) (uid : Int) (ticketId : String) : Prop :=
  accountIn state.life.created ticketId = some uid ∧ state.Runs ticketId

/-- A `/match/start` of the account stands between the `SET` of the lock and the `HSET`. -/
def Starts (state : MatchLife) (uid : Int) (ticketId : String) : Prop :=
  accountIn state.life.starting ticketId = some uid

instance (state : MatchLife) (ticketId : String) : Decidable (state.Runs ticketId) :=
  inferInstanceAs (Decidable (_ ∨ _))

instance (state : MatchLife) (uid : Int) (ticketId : String)
    : Decidable (state.Live uid ticketId) :=
  inferInstanceAs (Decidable (_ ∧ _))

instance (state : MatchLife) (uid : Int) (ticketId : String)
    : Decidable (state.Starts uid ticketId) :=
  inferInstanceAs (Decidable (_ = _))

/-- No match of the account is live. -/
def NoneLive (state : MatchLife) (uid : Int) : Prop :=
  ∀ ticketId ∈ state.life.created.keys, ¬state.Live uid ticketId

/-- No match of the account is live, and none is on its way into Redis. -/
def Idle (state : MatchLife) (uid : Int) : Prop :=
  state.NoneLive uid ∧ ∀ ticketId ∈ state.life.starting.keys, ¬state.Starts uid ticketId

instance (state : MatchLife) (uid : Int) : Decidable (state.NoneLive uid) :=
  inferInstanceAs (Decidable (∀ _ ∈ _, _))

instance (state : MatchLife) (uid : Int) : Decidable (state.Idle uid) :=
  inferInstanceAs (Decidable (_ ∧ _))

/-- The id of a ticket is a fresh UUID. Only what a process has taken gets a token, and the lock
of the game is a step of its own.
-/
def enabled (state : MatchLife) : LifeState.Action → Bool
  | .setLock ticketId _ => !state.failed.contains ticketId
  | .matchmaking (.setInGame _) => false
  | .matchmaking (.setSuccess ticketId _) => state.handed.contains ticketId
  | _ => true

/-- What a command means for the groups and for the requests. -/
def follow (state : MatchLife) (action : LifeState.Action) (after : LifeState) : MatchLife :=
  let keys := inHand state.life.server
  let others := state.committed.filter (· ∉ keys)
  match action with
  | .matchmaking (.verifyAndSetMatchStatus runs _) =>
      if runs && (state.redis.commitGroup keys .inProgress).2
      then { state with life := after, committed := keys ++ state.committed }
      else { state with life := after }
  | .matchmaking (.distributePlayerGroup _ _ _) =>
      match after.server.stage with
      | .groups _ _ =>
          { state with life := after, committed := others, handed := keys ++ state.handed }
      | _ => { state with life := after }
  | .matchmaking .setWaiting => { state with life := after, committed := others }
  | .matchmaking (.matchCancel ticketId reqUid) =>
      let (_, result) := state.redis.matchCancel ticketId reqUid
      -- Both answers are followed by the `DEL`.
      if result = 1 ∨ result = 2
      then { state with life := after, unlocking := reqUid :: state.unlocking }
      else { state with life := after }
  | _ => { state with life := after }

/-- The lock of an account says that its game has started. -/
def lockInGame (state : MatchLife) (ticketId : String) (uid : Int) : MatchLife :=
  { state with
    life := state.life.setRedis
      { state.redis with
        activeMatch := state.redis.activeMatch.insert uid (.inGame ticketId) } }

/-- The lock of an account is gone. -/
def unlock (state : MatchLife) (uid : Int) : MatchLife :=
  { state with life := state.life.setRedis (state.redis.delLock uid) }

/-- One command, one error, one detach, or the end of a lifetime. -/
def next (state : MatchLife) : Action → Option MatchLife
  | .life action =>
      if state.enabled action then (state.life.next action).map (state.follow action) else none
  | .startFails uid => some { state with unlocking := uid :: state.unlocking }
  | .hSetFails ticketId =>
      (state.life.starting.lookup ticketId).map fun fields =>
        { state with
          life := { state.life with starting := state.life.starting.erase ticketId }
          failed := ticketId :: state.failed
          -- The `DEL` of the inner `catch`, and that of the outer one.
          unlocking := fields.uid :: fields.uid :: state.unlocking }
  | .expireFails ticketId =>
      if ticketId ∈ state.life.expiring then
        (state.life.created.lookup ticketId).map fun fields =>
          { state with
            life := { state.life with expiring := state.life.expiring.erase ticketId }
            unlocking := fields.uid :: fields.uid :: state.unlocking }
      else none
  | .readUid ticketId =>
      if ticketId ∈ state.handed then
        match state.redis.fields ticketId with
        | none => some state
        | some ticket => some { state with marking := (ticketId, ticket.uid) :: state.marking }
      else none
  | .markInGame ticketId uid =>
      if (ticketId, uid) ∈ state.marking
      then
        some
          { state.lockInGame ticketId uid with
            marking := state.marking.erase (ticketId, uid) }
      else none
  | .detachPlayer ticketId =>
      if ticketId ∈ state.handed ∧ ticketId ∉ state.detached then
        (state.life.created.lookup ticketId).map fun fields =>
          { state with
            detached := ticketId :: state.detached
            unlocking := fields.uid :: state.unlocking }
      else none
  | .delLock uid =>
      if uid ∈ state.unlocking
      then some { state.unlock uid with unlocking := state.unlocking.erase uid }
      else none
  | .endLock uid =>
      -- The lifetime is longer than that of a match.
      if state.NoneLive uid then some (state.unlock uid) else none

def system : System MatchLife Action :=
  .ofNext (· = {}) next

/-- The account whose lock a step takes away without taking away the ticket in it. -/
def dropsLock (state : MatchLife) : Action → Option Int
  | .delLock uid => some uid
  | .endLock uid => some uid
  | .life (.matchmaking (.loginTakeover _ session)) =>
      match state.redis.activeMatch.lookup session.dbId with
      | some (.ticket ticketId) =>
          if state.redis.status ticketId = none then some session.dbId else none
      | _ => none
  | _ => none

/-- No account loses its lock while a match of it is live or on its way into Redis. -/
def KeepsLock (state : MatchLife) (action : Action) : Prop :=
  ∀ uid ∈ state.dropsLock action, state.Idle uid

instance (state : MatchLife) (action : Action) : Decidable (state.KeepsLock action) :=
  inferInstanceAs (Decidable (∀ _ ∈ _, _))

/-- The system in which no lock is lost too early. -/
def lockedSystem : System MatchLife Action :=
  system.restrict fun before action _ => before.KeepsLock action

end MatchLife

-----------------------------------------------------------------------------------------
-- Steps that make no ticket waiting
-----------------------------------------------------------------------------------------

namespace MatchState

/-- No ticket has become waiting, only waiting ones have been cancelled, and the cycle holds
no more committed ones.
-/
structure Fades (before after : MatchState) : Prop where
  waiting : ∀ ticketId, after.redis.status ticketId = some .waiting →
    before.redis.status ticketId = some .waiting
  cancelled : ∀ ticketId ∈ after.cancelled,
    ticketId ∈ before.cancelled ∨ before.redis.status ticketId = some .waiting
  held : ∀ key ∈ after.keys after.stage.mapId after.stage.held,
    key ∈ before.keys before.stage.mapId before.stage.held

variable {before after : MatchState}

theorem Outside.fades (h : before.Outside after) : before.Fades after where
  waiting := h.waiting
  cancelled ticketId mem := (h.cancelled ticketId mem).imp_right And.left
  held key mem := by
    unfold keys at mem ⊢
    rwa [h.matchmakers, h.stage] at mem

/-- The cycle lets go of all tickets or had none, and Redis has no new waiting ones. -/
theorem Fades.of_nothing_held (held : after.stage.held = [])
    (waiting : ∀ ticketId, after.redis.status ticketId = some .waiting →
      before.redis.status ticketId = some .waiting)
    (cancelled : after.cancelled = before.cancelled)
    : before.Fades after where
  waiting := waiting
  cancelled ticketId mem := .inl (cancelled ▸ mem)
  held key mem := by
    rw [held] at mem
    exact absurd mem List.not_mem_nil

/-- The commands that neither concern the group in hand nor write a lock. -/
def Action.isOrdinary : Action → Bool
  | .verifyAndSetMatchStatus _ _ | .distributePlayerGroup _ _ _ | .setWaiting => false
  | .loginTakeover _ _ | .setInGame _ => false
  | _ => true

theorem activeMatch_foldl_delTicket (keys : List String) (redis : Redis)
    : (keys.foldl Redis.delTicket redis).activeMatch = redis.activeMatch := by
  induction keys generalizing redis with
  | nil => rfl
  | cons key rest ih => exact ih (redis.delTicket key)

theorem activeMatch_matchCancel (ticketId : String) (reqUid : Int) (redis : Redis)
    : (redis.matchCancel ticketId reqUid).1.activeMatch = redis.activeMatch := by
  rcases redis.matchCancel_cases ticketId reqUid with ⟨_, result⟩ | ⟨same, _⟩
  · rw [result]
    rfl
  · rw [same]

/-- An ordinary command makes no ticket waiting and leaves the locks alone. -/
theorem fades_of_ordinary {action : Action} (step : before.next action = some after)
    (ordinary : action.isOrdinary = true)
    : before.Fades after ∧ after.redis.activeMatch = before.redis.activeMatch := by
  cases action with
  | addSingleMatchTicket mapId ptr ticket =>
      simp only [MatchState.next] at step
      split at step
      · next idle =>
          split at step
          · cases step
            exact ⟨.of_nothing_held (by simp [setMatchMaker, idle, Stage.held])
              (fun _ => id) rfl, rfl⟩
          · cases step
      · cases step
  | startMatchMake mapId clock =>
      simp only [MatchState.next] at step
      split at step
      · cases step
        exact ⟨.of_nothing_held rfl (fun _ => id) rfl, rfl⟩
      · cases step
  | readStatus =>
      simp only [MatchState.next] at step
      split at step
      · cases step
        exact ⟨.of_nothing_held rfl (fun _ => id) rfl, rfl⟩
      · cases step
  | nextGroup =>
      simp only [MatchState.next] at step
      split at step
      · cases step
        exact ⟨.of_nothing_held rfl (fun _ => id) rfl, rfl⟩
      · cases step
        exact ⟨.of_nothing_held rfl (fun _ => id) rfl, rfl⟩
      · cases step
  | releaseAndDeleteTickets deletes =>
      simp only [MatchState.next] at step
      split at step
      · cases step
        cases deletes with
        | true =>
            exact ⟨.of_nothing_held rfl (fun _ => Redis.waiting_of_foldl_delTicket) rfl,
              activeMatch_foldl_delTicket _ _⟩
        | false => exact ⟨.of_nothing_held rfl (fun _ => id) rfl, rfl⟩
      · cases step
  | matchCancel ticketId reqUid =>
      cases step
      exact ⟨(before.outside_matchCancel ticketId reqUid).fades,
        activeMatch_matchCancel ticketId reqUid before.redis⟩
  | expire ticketId =>
      simp only [MatchState.next] at step
      split at step
      · cases step
        exact ⟨(before.outside_of_redis fun _ => Redis.waiting_of_delTicket).fades, rfl⟩
      · cases step
  | setSuccess ticketId token =>
      cases step
      exact ⟨(before.outside_of_redis fun _ => Redis.waiting_of_setSuccess).fades, rfl⟩
  | verifyAndSetMatchStatus _ _ => cases ordinary
  | distributePlayerGroup _ _ _ => cases ordinary
  | setWaiting => cases ordinary
  | loginTakeover _ _ => cases ordinary
  | setInGame _ => cases ordinary

end MatchState

namespace MatchLife

-----------------------------------------------------------------------------------------
-- What every run keeps
-----------------------------------------------------------------------------------------

section Accounts

variable {tickets : Table String TicketFields} {ticketId other : String} {uid : Int}

theorem mem_of_accountIn (found : accountIn tickets ticketId = some uid)
    : ticketId ∈ tickets := by
  obtain ⟨fields, found, -⟩ := Option.map_eq_some_iff.mp found
  exact Table.mem_of_lookup found

@[simp] theorem accountIn_insert_self (fields : TicketFields)
    : accountIn (tickets.insert ticketId fields) ticketId = some fields.uid := by
  simp [accountIn]

theorem accountIn_insert_ne (ne : other ≠ ticketId) (fields : TicketFields)
    : accountIn (tickets.insert ticketId fields) other = accountIn tickets other := by
  rw [accountIn, AList.lookup_insert_ne ne, accountIn]

theorem accountIn_erase_ne (ne : other ≠ ticketId)
    : accountIn (tickets.erase ticketId) other = accountIn tickets other := by
  rw [accountIn, AList.lookup_erase_ne ne, accountIn]

theorem ne_of_accountIn_erase (found : accountIn (tickets.erase ticketId) other = some uid)
    : other ≠ ticketId :=
  (AList.mem_erase.mp (mem_of_accountIn found)).1

end Accounts

/-- A live match of the account, or one on its way into Redis. -/
def Engages (state : MatchLife) (uid : Int) (ticketId : String) : Prop :=
  state.Live uid ticketId ∨ state.Starts uid ticketId

/-- The ticket in a lock is one of the account, unless its `HSET` failed. -/
def Names (state : MatchLife) (uid : Int) (ticketId : String) : Prop :=
  accountIn state.life.created ticketId = some uid
    ∨ state.Starts uid ticketId ∨ ticketId ∈ state.failed

/-- Where a ticket is: it starts, it has failed or it is made; then it waits, is committed or
is handed on.
-/
structure Tracked (state : MatchLife) : Prop where
  sound : state.life.server.Sound
  starting : ∀ ticketId ∈ state.life.starting,
    ticketId ∉ state.life.created ∧ ticketId ∉ state.failed
  failed : ∀ ticketId ∈ state.failed, ticketId ∉ state.life.created
  waiting : ∀ ticketId, state.redis.status ticketId = some .waiting →
    ticketId ∈ state.life.created
  cancelled : ∀ ticketId ∈ state.life.server.cancelled, ticketId ∈ state.life.created
  committed : ∀ ticketId ∈ state.committed, ticketId ∈ state.life.created
    ∧ state.redis.status ticketId ≠ some .waiting ∧ ticketId ∉ state.handed
  handed : ∀ ticketId ∈ state.handed, ticketId ∈ state.life.created
    ∧ state.redis.status ticketId ≠ some .waiting
  held : ∀ key ∈ state.life.server.keys state.life.server.stage.mapId
    state.life.server.stage.held, key ∈ state.committed
  lock : ∀ uid ticketId, state.redis.activeMatch.lookup uid = some (.ticket ticketId) →
    state.Names uid ticketId

/-- The lock of an account is there. -/
def Locked (state : MatchLife) (uid : Int) : Prop :=
  (state.redis.activeMatch.lookup uid).isSome

/-- An account with a match has its lock and no other match. -/
structure Guarded (state : MatchLife) : Prop where
  tracked : state.Tracked
  exclusive : Lease.Exclusive state.Engages state.Locked

variable {before after : MatchLife} {uid : Int} {ticketId : String}

theorem Live.created (h : before.Live uid ticketId) : ticketId ∈ before.life.created :=
  mem_of_accountIn h.1

theorem Starts.starting (h : before.Starts uid ticketId) : ticketId ∈ before.life.starting :=
  mem_of_accountIn h

/-- An account is idle when nothing engages it. -/
theorem idle_iff : before.Idle uid ↔ ∀ ticketId, ¬before.Engages uid ticketId := by
  constructor
  · rintro ⟨noneLive, noneStarts⟩ ticketId (live | starts)
    · exact noneLive ticketId (AList.mem_keys.mp live.created) live
    · exact noneStarts ticketId (AList.mem_keys.mp starts.starting) starts
  · intro free
    exact ⟨fun ticketId _ live => free ticketId (.inl live),
      fun ticketId _ starts => free ticketId (.inr starts)⟩

/-- A step that makes no ticket waiting, starts or ends no request of `/match/start`, and
commits or hands on no group.
-/
structure Quiet (before after : MatchLife) : Prop where
  created : after.life.created = before.life.created
  starting : after.life.starting = before.life.starting
  failed : after.failed = before.failed
  committed : after.committed = before.committed
  handed : after.handed = before.handed
  detached : ∀ ticketId ∈ before.detached, ticketId ∈ after.detached
  server : before.life.server.Fades after.life.server

theorem Quiet.engages (h : before.Quiet after) (engaged : after.Engages uid ticketId)
    : before.Engages uid ticketId := by
  rcases engaged with ⟨own, runs⟩ | starts
  · refine .inl ⟨h.created ▸ own, ?_⟩
    rcases runs with waiting | committed | ⟨handed, staying⟩
    · exact .inl (h.server.waiting ticketId waiting)
    · exact .inr (.inl (h.committed ▸ committed))
    · exact .inr (.inr ⟨h.handed ▸ handed, fun gone => staying (h.detached ticketId gone)⟩)
  · refine .inr ?_
    rwa [Starts, h.starting] at starts

theorem Tracked.of_quiet (h : before.Tracked) (quiet : before.Quiet after)
    (sound : after.life.server.Sound)
    (lock : ∀ uid ticketId, after.redis.activeMatch.lookup uid = some (.ticket ticketId) →
      before.redis.activeMatch.lookup uid = some (.ticket ticketId))
    : after.Tracked where
  sound := sound
  starting := by
    rw [quiet.starting, quiet.created, quiet.failed]
    exact h.starting
  failed := by
    rw [quiet.created, quiet.failed]
    exact h.failed
  waiting ticketId waiting := by
    rw [quiet.created]
    exact h.waiting ticketId (quiet.server.waiting ticketId waiting)
  cancelled ticketId mem := by
    rw [quiet.created]
    rcases quiet.server.cancelled ticketId mem with old | waiting
    · exact h.cancelled ticketId old
    · exact h.waiting ticketId waiting
  committed := by
    rw [quiet.created, quiet.committed, quiet.handed]
    intro ticketId mem
    obtain ⟨created, waits, apart⟩ := h.committed ticketId mem
    exact ⟨created, fun now => waits (quiet.server.waiting ticketId now), apart⟩
  handed := by
    rw [quiet.created, quiet.handed]
    intro ticketId mem
    obtain ⟨created, waits⟩ := h.handed ticketId mem
    exact ⟨created, fun now => waits (quiet.server.waiting ticketId now)⟩
  held key mem := by
    rw [quiet.committed]
    exact h.held key (quiet.server.held key mem)
  lock uid ticketId locked := by
    unfold Names Starts
    rw [quiet.created, quiet.starting, quiet.failed]
    exact h.lock uid ticketId (lock uid ticketId locked)

/-- A quiet step that keeps the locks of all accounts that have a match. -/
theorem Guarded.of_quiet (h : before.Guarded) (quiet : before.Quiet after)
    (sound : after.life.server.Sound)
    (lock : ∀ uid ticketId, after.redis.activeMatch.lookup uid = some (.ticket ticketId) →
      before.redis.activeMatch.lookup uid = some (.ticket ticketId))
    (kept : ∀ uid ticketId, after.Engages uid ticketId → before.Locked uid →
      after.Locked uid)
    : after.Guarded where
  tracked := h.tracked.of_quiet quiet sound lock
  exclusive := h.exclusive.release (fun _ _ => quiet.engages) kept

/-- A quiet step that leaves the locks alone. -/
theorem Guarded.of_sameLocks (h : before.Guarded) (quiet : before.Quiet after)
    (sound : after.life.server.Sound)
    (locks : after.redis.activeMatch = before.redis.activeMatch)
    : after.Guarded :=
  h.of_quiet quiet sound (fun _ _ locked => locks ▸ locked)
    fun _ _ _ locked => by rwa [Locked, locks]

/-- A quiet step that takes away the lock of an account that nothing engages any more. -/
theorem Guarded.of_erasedLock (h : before.Guarded) (quiet : before.Quiet after)
    (sound : after.life.server.Sound)
    (locks : after.redis.activeMatch = before.redis.activeMatch.erase uid)
    (idle : ∀ ticketId, ¬after.Engages uid ticketId)
    : after.Guarded := by
  refine h.of_quiet quiet sound (fun other ticketId found => ?_)
    fun other ticketId engaged locked => ?_
  · exact (Table.lookup_erase_cases (locks ▸ found)).2
  · have ne : other ≠ uid := by
      rintro rfl
      exact idle ticketId engaged
    rw [Locked, locks, AList.lookup_erase_ne ne]
    exact locked

/-- The lock of an idle account goes. -/
theorem Guarded.unlock (h : before.Guarded) (idle : before.Idle uid) (unlocking : List Int)
    : Guarded { before.unlock uid with unlocking } := by
  have quiet : before.Quiet { before.unlock uid with unlocking } :=
    ⟨rfl, rfl, rfl, rfl, rfl, fun _ => id, ⟨fun _ => id, fun _ => .inl, fun _ => id⟩⟩
  refine h.of_erasedLock quiet ?_ rfl fun ticketId engaged => ?_
  · exact h.tracked.sound.of_outside (before.life.server.outside_of_redis fun _ => id)
  · exact idle_iff.mp idle ticketId (quiet.engages engaged)

-----------------------------------------------------------------------------------------
-- Logins and games that start
-----------------------------------------------------------------------------------------

/-- The state with other matchmaking, and perhaps more requests that are to delete a lock. -/
def withServer (state : MatchLife) (server : MatchState) (unlocking : List Int) : MatchLife :=
  { state with life := { state.life with server }, unlocking }

theorem Quiet.withServer {server : MatchState} (fades : before.life.server.Fades server)
    (unlocking : List Int)
    : before.Quiet (before.withServer server unlocking) :=
  ⟨rfl, rfl, rfl, rfl, rfl, fun _ => id, fades⟩

/-- A waiting ticket that a lock names is the one match of the account. -/
theorem Guarded.live_of_lock (h : before.Guarded)
    (locked : before.redis.activeMatch.lookup uid = some (.ticket ticketId))
    (waiting : before.redis.status ticketId = some .waiting)
    : before.Live uid ticketId := by
  have created := h.tracked.waiting ticketId waiting
  rcases h.tracked.lock uid ticketId locked with own | starts | failed
  · exact ⟨own, .inl waiting⟩
  · exact absurd created (h.tracked.starting ticketId starts.starting).1
  · exact absurd created (h.tracked.failed ticketId failed)

/-- A login takes over the waiting ticket of its account, with the lock, or the lock of an
idle account.
-/
theorem Guarded.takeover (h : before.Guarded) {redis : Redis}
    {detail : Redis.TakeoverDetail} (taken : before.redis.Takeover uid redis detail)
    (careful : ∀ ticketId, before.redis.activeMatch.lookup uid = some (.ticket ticketId) →
      before.redis.status ticketId = none → before.Idle uid)
    (unlocking : List Int)
    : Guarded
        (before.withServer
          { before.life.server with
            redis
            cancelled := MatchState.cancelledBy before.life.server.cancelled detail }
          unlocking) := by
  have outside := before.life.server.outside_takeover taken
  have quiet := Quiet.withServer outside.fades unlocking
  have sound := h.tracked.sound.of_outside outside
  cases taken with
  | refused _ => exact h.of_sameLocks quiet sound rfl
  | unlocked _ locks => exact h.of_sameLocks quiet sound locks
  | @dropped _ ticketId locked gone _ locks =>
      have idle := idle_iff.mp (careful ticketId locked gone)
      exact h.of_erasedLock quiet sound locks fun ticket engaged =>
        idle ticket (quiet.engages engaged)
  | @cancelled _ ticketId locked waiting tickets locks =>
      have live := h.live_of_lock locked waiting
      -- The deleted ticket was the only match of the account.
      refine h.of_erasedLock quiet sound locks fun ticket engaged => ?_
      obtain rfl := h.exclusive.unique uid ticket ticketId (quiet.engages engaged) (.inl live)
      rcases engaged with ⟨_, now | committed | handed⟩ | starts
      · have gone : redis.status ticket = some .waiting := now
        rw [Redis.status, tickets, AList.lookup_erase] at gone
        cases gone
      · exact (h.tracked.committed ticket committed).2.1 waiting
      · exact (h.tracked.handed ticket handed.1).2 waiting
      · exact (h.tracked.starting ticket starts.starting).1 live.created

/-- The lock of a started game takes the place of the lock of its ticket. -/
theorem Guarded.lockInGame (h : before.Guarded) (ticketId : String) (uid : Int)
    (marking : List (String × Int))
    : Guarded { before.lockInGame ticketId uid with marking } := by
  have quiet : before.Quiet { before.lockInGame ticketId uid with marking } :=
    ⟨rfl, rfl, rfl, rfl, rfl, fun _ => id, ⟨fun _ => id, fun _ => .inl, fun _ => id⟩⟩
  refine h.of_quiet quiet ?_ (fun other ticket found => ?_) fun other ticket _ locked => ?_
  · exact h.tracked.sound.of_outside (before.life.server.outside_of_redis fun _ => id)
  · rcases Table.lookup_insert_cases found with ⟨_, same⟩ | ⟨_, old⟩
    · cases same
    · exact old
  · by_cases same : other = uid
    · subst same
      exact congrArg Option.isSome (AList.lookup_insert before.redis.activeMatch)
    · exact (congrArg Option.isSome (AList.lookup_insert_ne same)).trans locked

-----------------------------------------------------------------------------------------
-- Groups
-----------------------------------------------------------------------------------------

theorem activeMatch_foldl_setStatus (keys : List String) (redis : Redis)
    (status : TicketStatus)
    : (keys.foldl (·.setStatus · status) redis).activeMatch = redis.activeMatch := by
  induction keys generalizing redis with
  | nil => rfl
  | cons key rest ih => exact ih (redis.setStatus key status)

/-- The commit finds the whole group waiting, or Redis stays as it is. -/
theorem verifyAndSetMatchStatus_cases (redis : Redis) (keys : List String)
    (runs answered : Bool)
    : (runs && (redis.commitGroup keys .inProgress).2) = true
        ∧ (∀ key ∈ keys, redis.status key = some .waiting)
        ∧ (MatchState.verifyAndSetMatchStatus redis keys runs answered).1
          = keys.foldl (·.setStatus · .inProgress) redis
      ∨ (runs && (redis.commitGroup keys .inProgress).2) = false
        ∧ MatchState.verifyAndSetMatchStatus redis keys runs answered = (redis, false) := by
  unfold MatchState.verifyAndSetMatchStatus
  cases runs with
  | false => exact .inr ⟨rfl, by simp⟩
  | true =>
      rcases redis.commitGroup_cases keys .inProgress with ⟨waiting, result⟩ | ⟨some, result⟩
      · refine .inl ⟨by rw [result]; rfl, waiting, ?_⟩
        cases keys with
        | nil => rfl
        | cons key rest => simp [result]
      · refine .inr ⟨by rw [result]; rfl, ?_⟩
        simp [result]

/-- The members of a committed group were waiting, and are live as such from now on. -/
theorem Guarded.commit (h : before.Guarded) {keys : List String} {server : MatchState}
    (waiting : ∀ key ∈ keys, before.redis.status key = some .waiting)
    (sound : server.Sound)
    (redis : server.redis = keys.foldl (·.setStatus · .inProgress) before.redis)
    (cancelled : server.cancelled = before.life.server.cancelled)
    (held : ∀ key ∈ server.keys server.stage.mapId server.stage.held, key ∈ keys)
    : Guarded
        { before with
          life := { before.life with server }
          committed := keys ++ before.committed } := by
  have status : ∀ ticketId, server.redis.status ticketId
      = if ticketId ∈ keys then some .inProgress else before.redis.status ticketId := by
    rw [redis]
    exact Redis.status_foldl_setStatus keys before.redis .inProgress
  have fades : ∀ ticketId, server.redis.status ticketId = some .waiting →
      ticketId ∉ keys ∧ before.redis.status ticketId = some .waiting := by
    intro ticketId now
    rw [status] at now
    split at now
    · cases now
    · next other => exact ⟨other, now⟩
  have locks : server.redis.activeMatch = before.redis.activeMatch :=
    redis ▸ activeMatch_foldl_setStatus keys before.redis .inProgress
  have tracked := h.tracked
  refine ⟨⟨sound, tracked.starting, tracked.failed, ?_, ?_, ?_, ?_, ?_, ?_⟩,
    h.exclusive.release ?_ ?_⟩
  · exact fun ticketId now => tracked.waiting ticketId (fades ticketId now).2
  · exact fun ticketId mem => tracked.cancelled ticketId (cancelled ▸ mem)
  · intro ticketId mem
    rcases List.mem_append.mp mem with new | old
    · have before := waiting ticketId new
      exact ⟨tracked.waiting ticketId before, fun now => (fades ticketId now).1 new,
        fun gone => (tracked.handed ticketId gone).2 before⟩
    · obtain ⟨created, waits, apart⟩ := tracked.committed ticketId old
      exact ⟨created, fun now => waits (fades ticketId now).2, apart⟩
  · intro ticketId mem
    obtain ⟨created, waits⟩ := tracked.handed ticketId mem
    exact ⟨created, fun now => waits (fades ticketId now).2⟩
  · exact fun key mem => List.mem_append_left _ (held key mem)
  · exact fun uid ticketId found => tracked.lock uid ticketId (locks ▸ found)
  · rintro uid ticketId (⟨own, now | committed | handed⟩ | starts)
    · exact .inl ⟨own, .inl (fades ticketId now).2⟩
    · rcases List.mem_append.mp committed with new | old
      · exact .inl ⟨own, .inl (waiting ticketId new)⟩
      · exact .inl ⟨own, .inr (.inl old)⟩
    · exact .inl ⟨own, .inr (.inr handed)⟩
    · exact .inr starts
  · intro uid ticketId _ locked
    show (server.redis.activeMatch.lookup uid).isSome
    rwa [locks]

theorem Guarded.verify (h : before.Guarded) {runs answered : Bool} {server : MatchState}
    (step : before.life.server.next (.verifyAndSetMatchStatus runs answered) = some server)
    : Guarded (before.follow (.matchmaking (.verifyAndSetMatchStatus runs answered))
        { before.life with server }) := by
  have sound := h.tracked.sound.next step
  simp only [MatchState.next] at step
  split at step
  · next mapId group pending stage =>
      have hand : inHand before.life.server = before.life.server.keys mapId group := by
        rw [inHand, stage]
      rcases verifyAndSetMatchStatus_cases before.redis
          (before.life.server.keys mapId group) runs answered with
        ⟨commits, waiting, result⟩ | ⟨commits, result⟩
      · simp only [follow, hand, commits, if_true]
        cases step
        refine h.commit waiting sound result rfl fun key mem => ?_
        dsimp only at mem
        split at mem
        · exact mem
        · exact absurd mem List.not_mem_nil
      · simp only [follow, hand, commits, Bool.false_eq_true, if_false]
        cases step
        refine h.of_sameLocks (.withServer ?_ before.unlocking) sound
          (congrArg (·.1.activeMatch) result)
        refine .of_nothing_held ?_ (fun ticketId now => ?_) rfl
        · exact congrArg (fun result : Redis × Bool => Stage.held
            (if result.2 then .distribute mapId group pending
              else .reread mapId group pending)) result
        · exact congrArg (·.1.status ticketId) result ▸ now
  · cases step

/-- A group is handed on as a whole, or stays in hand for the rollback. -/
theorem Guarded.distribute (h : before.Guarded) {manager : DediManager}
    {hgetall : TicketReads} {fork : Option Int} {server : MatchState}
    (step : before.life.server.next (.distributePlayerGroup manager hgetall fork)
      = some server)
    : Guarded (before.follow (.matchmaking (.distributePlayerGroup manager hgetall fork))
        { before.life with server }) := by
  have sound := h.tracked.sound.next step
  simp only [MatchState.next] at step
  split at step
  · next mapId group pending stage =>
      have hand : inHand before.life.server = before.life.server.keys mapId group := by
        rw [inHand, stage]
      have tracked := h.tracked
      have held : ∀ key ∈ before.life.server.keys mapId group, key ∈ before.committed := by
        have held := tracked.held
        rwa [stage] at held
      obtain ⟨⟨_, accepted⟩, _, rfl⟩ := Option.map_eq_some_iff.mp step
      cases accepted with
      | false =>
          simp only [follow, Bool.false_eq_true, if_false]
          refine h.of_sameLocks (.withServer ?_ before.unlocking) sound rfl
          refine ⟨fun _ => id, fun _ => .inl, fun key mem => ?_⟩
          rw [stage]
          exact mem
      | true =>
          simp only [follow, hand, if_true]
          refine ⟨⟨sound, tracked.starting, tracked.failed, tracked.waiting, tracked.cancelled,
            fun ticketId mem => ?_, fun ticketId mem => ?_,
            fun key mem => absurd mem List.not_mem_nil, tracked.lock⟩,
            h.exclusive.release ?_ fun _ _ _ => id⟩
          · obtain ⟨old, other⟩ := List.mem_filter.mp mem
            obtain ⟨created, waits, apart⟩ := tracked.committed ticketId old
            refine ⟨created, waits, fun now => ?_⟩
            rcases List.mem_append.mp now with new | gone
            · exact of_decide_eq_true other new
            · exact apart gone
          · rcases List.mem_append.mp mem with new | old
            · obtain ⟨created, waits, _⟩ := tracked.committed ticketId (held ticketId new)
              exact ⟨created, waits⟩
            · exact tracked.handed ticketId old
          · rintro uid ticketId (⟨own, now | committed | ⟨handed, staying⟩⟩ | starts)
            · exact .inl ⟨own, .inl now⟩
            · exact .inl ⟨own, .inr (.inl (List.mem_filter.mp committed).1)⟩
            · rcases List.mem_append.mp handed with new | old
              · exact .inl ⟨own, .inr (.inl (held ticketId new))⟩
              · exact .inl ⟨own, .inr (.inr ⟨old, staying⟩)⟩
            · exact .inr starts
  · cases step

/-- A committed ticket is live as a waiting one again. -/
theorem Guarded.wait (h : before.Guarded) {key : String} {server : MatchState}
    (own : key ∈ before.committed) (sound : server.Sound)
    (redis : server.redis = before.redis.setStatus key .waiting)
    (cancelled : server.cancelled = before.life.server.cancelled)
    (held : ∀ other ∈ server.keys server.stage.mapId server.stage.held,
      other ∈ before.committed ∧ other ≠ key)
    : Guarded
        { before with
          life := { before.life with server }
          committed := before.committed.filter (· ∉ [key]) } := by
  have status : ∀ ticketId, ticketId ≠ key →
      server.redis.status ticketId = before.redis.status ticketId := by
    intro ticketId ne
    rw [redis, Redis.status_setStatus_ne ne]
  have locks : server.redis.activeMatch = before.redis.activeMatch := redis ▸ rfl
  have tracked := h.tracked
  obtain ⟨created, waits, apart⟩ := tracked.committed key own
  have others : ∀ ticketId, ticketId ∈ before.committed.filter (· ∉ [key])
      ↔ ticketId ∈ before.committed ∧ ticketId ≠ key := by
    intro ticketId
    simp
  refine ⟨⟨sound, tracked.starting, tracked.failed, ?_, ?_, ?_, ?_, ?_, ?_⟩,
    h.exclusive.release ?_ ?_⟩
  · intro ticketId now
    by_cases same : ticketId = key
    · exact same ▸ created
    · exact tracked.waiting ticketId ((status ticketId same).symm.trans now)
  · exact fun ticketId mem => tracked.cancelled ticketId (cancelled ▸ mem)
  · intro ticketId mem
    obtain ⟨old, ne⟩ := (others ticketId).mp mem
    obtain ⟨created, waits, apart⟩ := tracked.committed ticketId old
    exact ⟨created, fun now => waits ((status ticketId ne).symm.trans now), apart⟩
  · intro ticketId mem
    obtain ⟨created, waits⟩ := tracked.handed ticketId mem
    have ne : ticketId ≠ key := fun same => apart (same ▸ mem)
    exact ⟨created, fun now => waits ((status ticketId ne).symm.trans now)⟩
  · exact fun other mem => (others other).mpr (held other mem)
  · exact fun uid ticketId found => tracked.lock uid ticketId (locks ▸ found)
  · rintro uid ticketId (⟨account, now | committed | handed⟩ | starts)
    · by_cases same : ticketId = key
      · exact .inl ⟨account, .inr (.inl (same ▸ own))⟩
      · exact .inl ⟨account, .inl ((status ticketId same).symm.trans now)⟩
    · exact .inl ⟨account, .inr (.inl ((others ticketId).mp committed).1)⟩
    · exact .inl ⟨account, .inr (.inr handed)⟩
    · exact .inr starts
  · intro uid ticketId _ locked
    show (server.redis.activeMatch.lookup uid).isSome
    rwa [locks]

/-- One `HSET` of a rollback. -/
theorem Guarded.setWaiting (h : before.Guarded) {server : MatchState}
    (step : before.life.server.next .setWaiting = some server)
    : Guarded (before.follow (.matchmaking .setWaiting) { before.life with server }) := by
  have sound := h.tracked.sound.next step
  simp only [MatchState.next] at step
  split at step
  · next mapId ptr remaining pending stage =>
      have hand : inHand before.life.server = before.life.server.keys mapId [ptr] := by
        rw [inHand, stage]
      have tracked := h.tracked
      have held : ∀ key ∈ before.life.server.keys mapId (ptr :: remaining),
          key ∈ before.committed := by
        have held := tracked.held
        rwa [stage] at held
      have nodup : (before.life.server.keys mapId (ptr :: remaining)).Nodup := by
        have nodup := tracked.sound.nodup
        rw [stage] at nodup
        exact nodup _ List.mem_cons_self
      obtain ⟨apart, _⟩ := List.nodup_cons.mp nodup
      have own := held _ List.mem_cons_self
      simp only [follow, hand]
      cases step
      refine h.wait own sound rfl rfl fun key mem => ?_
      have mem : key ∈ (before.life.server.setMatchMaker mapId
          ((before.life.server.matchmakers mapId).setMatched ptr false)).keys mapId remaining :=
        mem
      rw [MatchState.keys_setMatchMaker,
        (MatchMaker.SameQueue.setMatched _ ptr false).ticketId] at mem
      exact ⟨held key (List.mem_cons_of_mem _ mem), fun same => apart (same ▸ mem)⟩
  · cases step

-----------------------------------------------------------------------------------------
-- Every step
-----------------------------------------------------------------------------------------

/-- A command of the matchmaking or of a script. -/
theorem Guarded.matchmaking (h : before.Guarded) {action : MatchState.Action}
    {server : MatchState} (enabled : before.enabled (.matchmaking action) = true)
    (step : before.life.server.next action = some server)
    (keeps : before.KeepsLock (.life (.matchmaking action)))
    : Guarded (before.follow (.matchmaking action) { before.life with server }) := by
  have sound := h.tracked.sound.next step
  have ordinary : action.isOrdinary = true → ∀ unlocking,
      Guarded (before.withServer server unlocking) := by
    intro ordinary unlocking
    obtain ⟨fades, locks⟩ := MatchState.fades_of_ordinary step ordinary
    exact h.of_sameLocks (.withServer fades unlocking) sound locks
  cases action with
  | verifyAndSetMatchStatus runs answered => exact h.verify step
  | distributePlayerGroup manager hgetall fork => exact h.distribute step
  | setWaiting => exact h.setWaiting step
  | loginTakeover newSessKey session =>
      cases step
      refine h.takeover (before.redis.loginTakeover_cases newSessKey session)
        (fun ticketId locked gone => keeps session.dbId ?_) before.unlocking
      simp [dropsLock, locked, gone]
  | setInGame ticketId => cases enabled
  | matchCancel ticketId reqUid =>
      simp only [follow]
      split
      · exact ordinary rfl (reqUid :: before.unlocking)
      · exact ordinary rfl before.unlocking
  | addSingleMatchTicket mapId ptr ticket => exact ordinary rfl before.unlocking
  | startMatchMake mapId clock => exact ordinary rfl before.unlocking
  | readStatus => exact ordinary rfl before.unlocking
  | nextGroup => exact ordinary rfl before.unlocking
  | releaseAndDeleteTickets deletes => exact ordinary rfl before.unlocking
  | expire ticketId => exact ordinary rfl before.unlocking
  | setSuccess ticketId token => exact ordinary rfl before.unlocking

/-- A command on Redis that makes no ticket waiting and leaves the locks alone. -/
theorem Guarded.of_redis (h : before.Guarded) {life : LifeState} {redis : Redis}
    (server : life.server = { before.life.server with redis })
    (created : life.created = before.life.created)
    (starting : life.starting = before.life.starting)
    (waiting : ∀ ticketId, redis.status ticketId = some .waiting →
      before.redis.status ticketId = some .waiting)
    (locks : redis.activeMatch = before.redis.activeMatch)
    : Guarded { before with life } := by
  have outside := before.life.server.outside_of_redis waiting
  have fades : before.life.server.Fades life.server := server ▸ outside.fades
  have sound : life.server.Sound := server ▸ h.tracked.sound.of_outside outside
  exact h.of_sameLocks ⟨created, starting, rfl, rfl, rfl, fun _ => id, fades⟩ sound
    ((congrArg (·.redis.activeMatch) server).trans locks)

/-- A `/match/start` of an account without a lock takes the lock. -/
theorem Guarded.setLock (h : before.Guarded) {ticketId : String} {fields : TicketFields}
    (fresh : ticketId ∉ before.life.created ∧ ticketId ∉ before.life.starting)
    (unused : ticketId ∉ before.failed)
    (free : before.redis.activeMatch.lookup fields.uid = none)
    : Guarded
        { before with
          life :=
            { before.life.setRedis
                { before.redis with
                  activeMatch :=
                    before.redis.activeMatch.insert fields.uid (.ticket ticketId) } with
              starting := before.life.starting.insert ticketId fields } } := by
  have tracked := h.tracked
  refine ⟨⟨?_, ?_, tracked.failed, tracked.waiting, tracked.cancelled, tracked.committed,
    tracked.handed, tracked.held, ?_⟩, h.exclusive.acquire fields.uid ticketId ?_ ?_ ?_ ?_⟩
  · exact tracked.sound.of_outside (before.life.server.outside_of_redis fun _ => id)
  · intro other mem
    rcases (AList.mem_insert _).mp mem with rfl | old
    · exact ⟨fresh.1, unused⟩
    · exact tracked.starting other old
  · intro uid other found
    rcases Table.lookup_insert_cases found with ⟨rfl, same⟩ | ⟨_, old⟩
    · cases same
      exact .inr (.inl (accountIn_insert_self fields))
    · refine (tracked.lock uid other old).imp_right (Or.imp_left fun starts => ?_)
      have ne : other ≠ ticketId := fun same => fresh.2 (same ▸ starts.starting)
      exact (accountIn_insert_ne ne fields).trans starts
  · simp [Locked, free]
  · rintro uid other (live | now)
    · exact .inl (.inl live)
    · by_cases same : other = ticketId
      · subst same
        exact .inr ⟨Option.some.inj (now.symm.trans (accountIn_insert_self fields)), rfl⟩
      · exact .inl (.inr ((accountIn_insert_ne same fields).symm.trans now))
  · exact congrArg Option.isSome (AList.lookup_insert before.redis.activeMatch)
  · intro uid locked
    by_cases same : uid = fields.uid
    · subst same
      exact congrArg Option.isSome (AList.lookup_insert before.redis.activeMatch)
    · exact (congrArg Option.isSome (AList.lookup_insert_ne same)).trans locked

/-- The `HSET` of a `/match/start` makes the ticket, which has never been there. -/
theorem Guarded.hSetTicket (h : before.Guarded) {ticketId : String} {fields : TicketFields}
    (started : before.life.starting.lookup ticketId = some fields)
    : Guarded
        { before with
          life :=
            { before.life.setRedis
                { before.redis with
                  tickets :=
                    before.redis.tickets.insert ticketId
                      { (before.redis.tickets.lookup ticketId).getD {} with
                        fields := some fields
                        status := some .waiting } } with
              starting := before.life.starting.erase ticketId
              created := before.life.created.insert ticketId fields
              expiring := ticketId :: before.life.expiring } } := by
  have tracked := h.tracked
  obtain ⟨unused, sane⟩ := tracked.starting ticketId (Table.mem_of_lookup started)
  have ne : ∀ {other}, other ∈ before.life.created → other ≠ ticketId :=
    fun mem same => unused (same ▸ mem)
  have status : ∀ other, other ≠ ticketId →
      Redis.status
        { before.redis with
          tickets :=
            before.redis.tickets.insert ticketId
              { (before.redis.tickets.lookup ticketId).getD {} with
                fields := some fields
                status := some .waiting } } other
        = before.redis.status other :=
    fun other ne => LifeState.status_insert_ne ne before.redis _
  have waits : ∀ other, other ∈ before.life.created →
      before.redis.status other ≠ some .waiting → _ ≠ some TicketStatus.waiting :=
    fun other created waits now => waits ((status other (ne created)).symm.trans now)
  have started : before.Starts fields.uid ticketId := by rw [Starts, accountIn, started]; rfl
  refine ⟨⟨⟨tracked.sound.wellFormed, ?_, tracked.sound.nodup, ?_⟩, ?_, ?_, ?_, ?_, ?_, ?_,
    tracked.held, ?_⟩, h.exclusive.release ?_ fun _ _ _ => id⟩
  · intro other gone
    exact waits other (tracked.cancelled other gone) (tracked.sound.cancelled other gone)
  · intro key mem
    have created := (tracked.committed key (tracked.held key mem)).1
    obtain ⟨notWaiting, kept⟩ := tracked.sound.held key mem
    exact ⟨waits key created notWaiting, kept⟩
  · intro other mem
    obtain ⟨ne, old⟩ := AList.mem_erase.mp mem
    obtain ⟨fresh, sane⟩ := tracked.starting other old
    refine ⟨fun now => ?_, sane⟩
    rcases (AList.mem_insert _).mp now with same | created
    · exact ne same
    · exact fresh created
  · intro other failed now
    rcases (AList.mem_insert _).mp now with rfl | created
    · exact sane failed
    · exact tracked.failed other failed created
  · intro other now
    by_cases same : other = ticketId
    · exact (AList.mem_insert _).mpr (.inl same)
    · exact (AList.mem_insert _).mpr
        (.inr (tracked.waiting other ((status other same).symm.trans now)))
  · exact fun other gone => (AList.mem_insert _).mpr (.inr (tracked.cancelled other gone))
  · intro other mem
    obtain ⟨created, notWaiting, apart⟩ := tracked.committed other mem
    exact ⟨(AList.mem_insert _).mpr (.inr created), waits other created notWaiting, apart⟩
  · intro other mem
    obtain ⟨created, notWaiting⟩ := tracked.handed other mem
    exact ⟨(AList.mem_insert _).mpr (.inr created), waits other created notWaiting⟩
  · intro uid other locked
    by_cases same : other = ticketId
    · subst same
      refine .inl ?_
      rcases tracked.lock uid other locked with own | starts | failed
      · exact absurd (mem_of_accountIn own) unused
      · exact (accountIn_insert_self fields).trans (started.symm.trans starts)
      · exact absurd failed sane
    · refine (tracked.lock uid other locked).imp (fun own => ?_) (Or.imp_left fun starts => ?_)
      · exact (accountIn_insert_ne same fields).trans own
      · exact (accountIn_erase_ne same).trans starts
  · rintro uid other (⟨own, runs⟩ | starts)
    · by_cases same : other = ticketId
      · subst same
        exact .inr (started.trans ((accountIn_insert_self fields).symm.trans own))
      · exact .inl ⟨(accountIn_insert_ne same fields).symm.trans own,
          runs.imp_left (status other same).symm.trans⟩
    · have ne := ne_of_accountIn_erase starts
      exact .inr ((accountIn_erase_ne ne).symm.trans starts)

/-- A `/match/start` whose `HSET` fails. -/
theorem Guarded.hSetFails (h : before.Guarded) {fields : TicketFields}
    (started : before.life.starting.lookup ticketId = some fields) (unlocking : List Int)
    : Guarded
        { before with
          life := { before.life with starting := before.life.starting.erase ticketId }
          failed := ticketId :: before.failed
          unlocking } := by
  have tracked := h.tracked
  have unused := (tracked.starting ticketId (Table.mem_of_lookup started)).1
  refine ⟨⟨tracked.sound, ?_, ?_, tracked.waiting, tracked.cancelled, tracked.committed,
    tracked.handed, tracked.held, ?_⟩, h.exclusive.release ?_ fun _ _ _ => id⟩
  · intro other mem
    obtain ⟨ne, old⟩ := AList.mem_erase.mp mem
    obtain ⟨fresh, sane⟩ := tracked.starting other old
    exact ⟨fresh, List.not_mem_cons_of_ne_of_not_mem ne sane⟩
  · intro other mem
    rcases List.mem_cons.mp mem with rfl | old
    · exact unused
    · exact tracked.failed other old
  · intro uid other locked
    rcases tracked.lock uid other locked with own | starts | failed
    · exact .inl own
    · by_cases same : other = ticketId
      · exact .inr (.inr (same ▸ List.mem_cons_self))
      · exact .inr (.inl ((accountIn_erase_ne same).trans starts))
    · exact .inr (.inr (List.mem_cons_of_mem _ failed))
  · rintro uid other (live | starts)
    · exact .inl live
    · exact .inr ((accountIn_erase_ne (ne_of_accountIn_erase starts)).symm.trans starts)

/-- A command of any process. -/
theorem Guarded.life (h : before.Guarded) {action : LifeState.Action} {life : LifeState}
    (enabled : before.enabled action = true) (step : before.life.next action = some life)
    (keeps : before.KeepsLock (.life action))
    : Guarded (before.follow action life) := by
  have quiet : ∀ {life : LifeState}, life.server = before.life.server →
      life.created = before.life.created → life.starting = before.life.starting →
      Guarded { before with life } := fun server created starting =>
    @Guarded.of_redis before h _ before.redis server created starting (fun _ => id) rfl
  have expires : ∀ ticketId seconds {other},
      (LifeState.expire before.redis ticketId seconds).status other = some .waiting →
        before.redis.status other = some .waiting :=
    fun ticketId seconds other waiting =>
      (LifeState.status_expire before.redis ticketId seconds other).symm.trans waiting
  cases action with
  | matchmaking action =>
      obtain ⟨server, moved, rfl⟩ := Option.map_eq_some_iff.mp step
      exact h.matchmaking enabled moved keeps
  | setLock ticketId fields =>
      have unused : ticketId ∉ before.failed := by simpa [MatchLife.enabled] using enabled
      simp only [LifeState.next] at step
      split at step
      · next fresh =>
          split at step
          · cases step
            exact h
          · next free =>
              cases step
              exact h.setLock fresh unused (Option.not_isSome_iff_eq_none.mp free)
      · cases step
  | hSetTicket ticketId =>
      obtain ⟨fields, started, rfl⟩ := Option.map_eq_some_iff.mp step
      exact h.hSetTicket started
  | expireTicket ticketId =>
      simp only [LifeState.next] at step
      split at step
      · cases step
        exact h.of_redis rfl rfl rfl (fun _ => expires ticketId 300) rfl
      · cases step
  | readStatus ticketId uid =>
      simp only [LifeState.next] at step
      split at step <;> cases step <;> exact quiet rfl rfl rfl
  | shortenTicket ticketId =>
      simp only [LifeState.next] at step
      split at step
      · cases step
        exact h.of_redis rfl rfl rfl (fun _ => expires ticketId 60) rfl
      · cases step
  | hmSetToken token hash =>
      cases step
      exact h.of_redis rfl rfl rfl (fun _ => id) rfl
  | expireToken token =>
      cases step
      exact h.of_redis rfl rfl rfl (fun _ => id) rfl
  | endToken token =>
      simp only [LifeState.next] at step
      split at step
      · cases step
        exact h.of_redis rfl rfl rfl (fun _ => id) rfl
      · cases step
  | readTokenFd token processFound =>
      simp only [LifeState.next] at step
      split at step
      · split at step <;> cases step <;> exact quiet rfl rfl rfl
      · cases step
  | readTokenTicket =>
      simp only [LifeState.next] at step
      split at step
      · cases step
        exact quiet rfl rfl rfl
      · cases step
  | deleteToken =>
      simp only [LifeState.next] at step
      split at step
      · next token ticket _ =>
          cases step
          cases ticket with
          | none => exact h.of_redis rfl rfl rfl (fun _ => id) rfl
          | some ticketId =>
              exact h.of_redis rfl rfl rfl (fun _ => Redis.waiting_of_delTicket) rfl
      · cases step

/-- Every step that takes away no lock too early. -/
theorem Guarded.next (h : before.Guarded) {action : Action}
    (step : before.next action = some after) (keeps : before.KeepsLock action)
    : after.Guarded := by
  have quiet : ∀ {life : LifeState} {detached : List String} {marking : List (String × Int)}
      {unlocking : List Int},
      life.server = before.life.server → life.created = before.life.created →
      life.starting = before.life.starting → before.detached ⊆ detached →
      Guarded { before with life, detached, marking, unlocking } := by
    intro life detached marking unlocking server created starting more
    have fades : before.life.server.Fades life.server :=
      server ▸ ⟨fun _ => id, fun _ => .inl, fun _ => id⟩
    exact h.of_sameLocks ⟨created, starting, rfl, rfl, rfl, more, fades⟩
      (server ▸ h.tracked.sound) (congrArg (·.redis.activeMatch) server)
  cases action with
  | life action =>
      simp only [MatchLife.next] at step
      split at step
      · next enabled =>
          obtain ⟨life, moved, rfl⟩ := Option.map_eq_some_iff.mp step
          exact h.life enabled moved keeps
      · cases step
  | startFails uid =>
      cases step
      exact quiet rfl rfl rfl (List.Subset.refl _)
  | hSetFails ticketId =>
      obtain ⟨fields, started, rfl⟩ := Option.map_eq_some_iff.mp step
      exact h.hSetFails started (fields.uid :: fields.uid :: before.unlocking)
  | expireFails ticketId =>
      simp only [MatchLife.next] at step
      split at step
      · obtain ⟨fields, _, rfl⟩ := Option.map_eq_some_iff.mp step
        exact quiet rfl rfl rfl (List.Subset.refl _)
      · cases step
  | readUid ticketId =>
      simp only [MatchLife.next] at step
      split at step
      · split at step
        · cases step
          exact h
        · cases step
          exact quiet rfl rfl rfl (List.Subset.refl _)
      · cases step
  | markInGame ticketId uid =>
      simp only [MatchLife.next] at step
      split at step
      · cases step
        exact h.lockInGame ticketId uid (before.marking.erase (ticketId, uid))
      · cases step
  | detachPlayer ticketId =>
      simp only [MatchLife.next] at step
      split at step
      · obtain ⟨fields, _, rfl⟩ := Option.map_eq_some_iff.mp step
        exact quiet rfl rfl rfl (List.subset_cons_self _ _)
      · cases step
  | delLock uid =>
      simp only [MatchLife.next] at step
      split at step
      · cases step
        exact h.unlock (keeps uid rfl) (before.unlocking.erase uid)
      · cases step
  | endLock uid =>
      simp only [MatchLife.next] at step
      split at step
      · cases step
        exact h.unlock (keeps uid rfl) before.unlocking
      · cases step

theorem guarded_initial : Guarded {} where
  tracked :=
    { sound :=
        .of_idle rfl (fun mapId => .new mapId MAX_AGRESSION)
          fun ticketId mem => absurd mem List.not_mem_nil
      starting := fun ticketId mem => absurd mem (AList.notMem_empty ticketId)
      failed := fun ticketId mem => absurd mem List.not_mem_nil
      waiting := fun ticketId now => by cases now
      cancelled := fun ticketId mem => absurd mem List.not_mem_nil
      committed := fun ticketId mem => absurd mem List.not_mem_nil
      handed := fun ticketId mem => absurd mem List.not_mem_nil
      held := fun key mem => absurd mem List.not_mem_nil
      lock := fun uid ticketId found => by cases found }
  exclusive :=
    .of_nothing_held fun uid ticketId engaged =>
      engaged.elim (fun live => absurd live.created (AList.notMem_empty ticketId))
        fun starts => absurd starts.starting (AList.notMem_empty ticketId)

/-- Every state of a run that takes away no lock too early, by induction on the run. -/
theorem guarded_of_reachable {state : MatchLife} (reached : lockedSystem.Reachable state)
    : state.Guarded := by
  have invariant : lockedSystem.Inductive Guarded :=
    ⟨fun state start => start ▸ guarded_initial, fun before action after h step =>
      h.next step.1 step.2⟩
  exact invariant.reachable reached

-----------------------------------------------------------------------------------------
-- A lock that is lost too early
-----------------------------------------------------------------------------------------

/-- What other tickets are for their accounts stays. -/
structure Keeps (before after : MatchLife) (ticketId : String) : Prop where
  live : ∀ uid other, other ≠ ticketId → before.Live uid other → after.Live uid other
  starts : ∀ uid other, other ≠ ticketId → before.Starts uid other → after.Starts uid other

/-- The `HSET` of a `/match/start` makes a live match beside those there are. -/
theorem run_hSetTicket (starts : before.Starts uid ticketId)
    : ∃ last, system.Run before [.life (.hSetTicket ticketId)] last
      ∧ last.Live uid ticketId ∧ before.Keeps last ticketId := by
  obtain ⟨fields, started, rfl⟩ := Option.map_eq_some_iff.mp starts
  refine ⟨_, .cons (congrArg (Option.map _) (congrArg (Option.map _) started)) (.nil _), ?_,
    fun uid other ne live => ?_, fun uid other ne starts => ?_⟩
  · exact ⟨accountIn_insert_self fields,
      .inl (LifeState.status_insert_self ticketId before.redis _)⟩
  · exact ⟨(accountIn_insert_ne ne fields).trans live.1,
      live.2.imp_left (LifeState.status_insert_ne ne before.redis _).trans⟩
  · exact (accountIn_erase_ne ne).trans starts

/-- A `/match/start` of an account without a lock makes a live match of a fresh ticket. -/
theorem run_start (unlocked : before.redis.activeMatch.lookup uid = none)
    (unused : ticketId ∉ before.life.created) (idle : ticketId ∉ before.life.starting)
    (sane : ticketId ∉ before.failed)
    : ∃ actions last, system.Run before actions last
      ∧ last.Live uid ticketId ∧ before.Keeps last ticketId := by
  let fields : TicketFields := { LifeState.soloFields with uid }
  let life : LifeState :=
    { before.life.setRedis
        { before.redis with
          activeMatch := before.redis.activeMatch.insert uid (.ticket ticketId) } with
      starting := before.life.starting.insert ticketId fields }
  have enabled : before.enabled (.setLock ticketId fields) = true := by
    simp [MatchLife.enabled, sane]
  have locks : before.life.next (.setLock ticketId fields) = some life := by
    have unlocked : before.life.server.redis.activeMatch.lookup uid = none := unlocked
    simp only [LifeState.next, if_pos (And.intro unused idle)]
    rw [if_neg (by rw [unlocked]; decide)]
    rfl
  have step : before.next (.life (.setLock ticketId fields)) = some { before with life } := by
    simp only [MatchLife.next, if_pos enabled, locks, Option.map_some]
    rfl
  obtain ⟨last, run, live, keeps⟩ :=
    @run_hSetTicket { before with life } uid ticketId (accountIn_insert_self fields)
  refine ⟨_, last, .cons step run, live, fun uid other ne live => ?_,
    fun uid other ne starts => ?_⟩
  · exact keeps.live uid other ne live
  · exact keeps.starts uid other ne ((accountIn_insert_ne ne fields).trans starts)

theorem exists_unused (state : MatchLife)
    : ∃ ticketId, ticketId ∉ state.life.created ∧ ticketId ∉ state.life.starting
      ∧ ticketId ∉ state.failed := by
  obtain ⟨ticketId, fresh⟩ := Infinite.exists_notMem_finset
    (state.life.created.keys ++ state.life.starting.keys ++ state.failed).toFinset
  simp only [List.mem_toFinset, List.mem_append, not_or] at fresh
  exact ⟨ticketId, fun mem => fresh.1.1 (AList.mem_keys.mp mem),
    fun mem => fresh.1.2 (AList.mem_keys.mp mem), fresh.2⟩

/-- An account with a match but without a lock can get a second match. -/
theorem run_twoLive (unlocked : before.redis.activeMatch.lookup uid = none)
    (engaged : before.Engages uid ticketId)
    : ∃ actions last, system.Run before actions last
      ∧ ∃ first second, first ≠ second ∧ last.Live uid first ∧ last.Live uid second := by
  obtain ⟨fresh, unused, idle, sane⟩ := before.exists_unused
  obtain ⟨actions, last, run, live, keeps⟩ := run_start unlocked unused idle sane
  rcases engaged with old | starts
  · have ne : ticketId ≠ fresh := fun same => unused (same ▸ old.created)
    exact ⟨actions, last, run, fresh, ticketId, ne.symm, live, keeps.live uid ticketId ne old⟩
  · have ne : ticketId ≠ fresh := fun same => idle (same ▸ starts.starting)
    obtain ⟨final, more, made, kept⟩ := run_hSetTicket (keeps.starts uid ticketId ne starts)
    exact ⟨_, final, run.append more, fresh, ticketId, ne.symm,
      kept.live uid fresh ne.symm live, made⟩

/-- A login finds a lock whose ticket is gone, and deletes the lock. -/
theorem loginTakeover_dropped {redis : Redis} {session : SessionHash}
    (locked : redis.activeMatch.lookup session.dbId = some (.ticket ticketId))
    (gone : redis.status ticketId = none) (newSessKey : String)
    : (redis.loginTakeover newSessKey session).1.tickets = redis.tickets
      ∧ (redis.loginTakeover newSessKey session).1.activeMatch
        = redis.activeMatch.erase session.dbId := by
  simp only [Redis.loginTakeover, locked, gone]
  exact ⟨rfl, rfl⟩

/-- After a step that takes a lock away, the account is without a lock, and all that it was
engaged in goes on.
-/
theorem unlocked_of_dropsLock {action : Action} (step : before.next action = some after)
    (drops : before.dropsLock action = some uid)
    : after.redis.activeMatch.lookup uid = none
      ∧ ∀ ticketId, before.Engages uid ticketId → after.Engages uid ticketId := by
  cases action with
  | delLock owner =>
      cases drops
      simp only [MatchLife.next] at step
      split at step
      · cases step
        exact ⟨AList.lookup_erase _ _, fun _ => id⟩
      · cases step
  | endLock owner =>
      cases drops
      simp only [MatchLife.next] at step
      split at step
      · cases step
        exact ⟨AList.lookup_erase _ _, fun _ => id⟩
      · cases step
  | life action =>
      cases action with
      | matchmaking action =>
          cases action with
          | loginTakeover newSessKey session =>
              simp only [dropsLock] at drops
              split at drops
              · next ticketId locked =>
                  split at drops
                  · next gone =>
                      cases drops
                      cases step
                      obtain ⟨tickets, locks⟩ := loginTakeover_dropped locked gone newSessKey
                      refine ⟨(congrArg (AList.lookup session.dbId) locks).trans
                        (AList.lookup_erase _ _), fun other => Or.imp_left ?_⟩
                      rintro ⟨own, runs⟩
                      refine ⟨own, runs.imp_left fun waiting => ?_⟩
                      show ((before.redis.loginTakeover newSessKey session).1.tickets.lookup
                        other).bind (·.status) = some .waiting
                      rwa [tickets]
                  · cases drops
              · cases drops
          | _ => cases drops
      | _ => cases drops
  | startFails _ => cases drops
  | hSetFails _ => cases drops
  | expireFails _ => cases drops
  | readUid _ => cases drops
  | markInGame _ _ => cases drops
  | detachPlayer _ => cases drops

/-- In every run that takes no lock away while its account has a match, or has one on its way
into Redis, no account ever has two live matches, by induction on the run. After one step that
does take such a lock away, the account can get a second live match.
-/
theorem one_live_match {state : MatchLife} (reached : lockedSystem.Reachable state)
    : (∀ uid first second, state.Live uid first → state.Live uid second → first = second)
      ∧ ∀ action after, system.step state action after → ¬state.KeepsLock action →
          ∃ actions last, system.Run after actions last
            ∧ ∃ uid first second, first ≠ second ∧ last.Live uid first
              ∧ last.Live uid second := by
  refine ⟨fun uid first second liveFirst liveSecond => ?_, fun action after step drops => ?_⟩
  · exact (guarded_of_reachable reached).exclusive.unique uid first second (.inl liveFirst)
      (.inl liveSecond)
  · simp only [KeepsLock, not_forall] at drops
    obtain ⟨uid, dropped, busy⟩ := drops
    obtain ⟨unlocked, goesOn⟩ := unlocked_of_dropsLock step dropped
    simp only [idle_iff, not_forall, not_not] at busy
    obtain ⟨ticketId, engaged⟩ := busy
    obtain ⟨actions, last, run, first, second, two⟩ :=
      run_twoLive unlocked (goesOn ticketId engaged)
    exact ⟨actions, last, run, uid, first, second, two⟩

-----------------------------------------------------------------------------------------
-- Cancellations of account 1
-----------------------------------------------------------------------------------------

/-- The commands of one `/match/start`. -/
def startActions (ticketId : String) : List Action :=
  [.life (.setLock ticketId LifeState.soloFields), .life (.hSetTicket ticketId),
    .life (.expireTicket ticketId)]

/-- A start, a cancellation and a second start. -/
def cancelActions (ticketId : String) : List Action :=
  startActions "ticket_a"
    ++ [.life (.matchmaking (.matchCancel ticketId 1)), .delLock 1]
    ++ startActions "ticket_b"

def afterOwnCancel : MatchLife :=
  (replay next (fun before action _ => decide (before.KeepsLock action)) {}
    (cancelActions "ticket_a")).getD {}

/-- The cancelled ticket is that of the first start. -/
theorem one_live_match_afterOwnCancel
    : afterOwnCancel.Live 1 "ticket_b"
      ∧ (∀ uid first second, afterOwnCancel.Live uid first →
          afterOwnCancel.Live uid second → first = second) := by
  have run := System.Run.of_replay (· = ({} : MatchLife)) next
    (fun before action _ => decide (before.KeepsLock action)) (cancelActions "ticket_a") {} {}
    (by decide +kernel)
  have reached : lockedSystem.Reachable afterOwnCancel :=
    (run.reachable (.initial rfl)).mono_restrict fun _ _ _ _ => of_decide_eq_true
  exact ⟨by decide +kernel, (one_live_match reached).1⟩

/-- There is no ticket of the id in the request, whatever the lock says. -/
theorem two_live_matches_afterCancel
    : ¬∀ state, system.Reachable state → ∀ uid first second, state.Live uid first →
        state.Live uid second → first = second := by
  intro unique
  have run := System.Run.of_replay (· = ({} : MatchLife)) next (fun _ _ _ => true)
    (cancelActions "ticket_x") {} {} (by decide +kernel)
  have reached := run.of_restrict.reachable (.initial rfl)
  exact absurd (unique _ reached 1 "ticket_a" "ticket_b" (by decide +kernel)
    (by decide +kernel)) (by decide)

end MatchLife

end ExtractionServer.Matchmaking
