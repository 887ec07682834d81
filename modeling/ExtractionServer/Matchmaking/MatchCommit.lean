import ExtractionServer.Library.Transition
import ExtractionServer.Lobby.Scripts
import ExtractionServer.Matchmaking.DediManager
import ExtractionServer.Matchmaking.MatchQueue

/-! The matchmaking cycle against Redis. Between two of its commands the HTTP server runs its
scripts and tickets expire; the flags of the queued tickets are copies that grow stale.
-/

namespace ExtractionServer.Matchmaking

open Lobby Transition

-----------------------------------------------------------------------------------------
-- The cycle
-----------------------------------------------------------------------------------------

/-- Where `StartMatchMake` is: at the head of the loop over the groups of a map, before the
distribution of a committed group, in the rollback of a group, in the re-reads of a group.
-/
inductive Stage where
  | idle
  | groups (mapId : Nat) (pending : List TicketVector)
  | distribute (mapId : Nat) (group : TicketVector) (pending : List TicketVector)
  | rollback (mapId : Nat) (remaining : TicketVector) (pending : List TicketVector)
  | reread (mapId : Nat) (remaining : TicketVector) (pending : List TicketVector)

/-- The matchmakers of all maps and Redis, with the keys of the tickets that a cancellation or
a login has deleted.
-/
structure MatchState where
  redis : Redis
  matchmakers : Nat → MatchMaker
  stage : Stage := .idle
  cancelled : List String := []

namespace MatchState

inductive Action where
  | addSingleMatchTicket (mapId : Nat) (ptr : TicketPtr) (ticket : MatchTicket)
  | startMatchMake (mapId : Nat) (clock : Nat → TimePoint)
  /-- The script of the commit; an error can come before it runs or hide its answer. -/
  | verifyAndSetMatchStatus (runs answered : Bool)
  /-- The distribution of a committed group over the sessions of the time. -/
  | distributePlayerGroup (manager : DediManager) (hgetall : TicketReads) (fork : Option Int)
  /-- One `HSET` of the rollback. -/
  | setWaiting
  /-- One `HGET` of the re-reads. -/
  | readStatus
  | nextGroup
  /-- The end of the cycle; the `DEL` can fail. -/
  | releaseAndDeleteTickets (deletes : Bool)
  | matchCancel (ticketId : String) (reqUid : Int)
  | loginTakeover (newSessKey : String) (session : SessionHash)
  | expire (ticketId : String)
  /-- The two commands of `UpdateEntryTokenRequest::Execute` for one ticket. -/
  | setInGame (ticketId : String)
  | setSuccess (ticketId token : String)

def setMatchMaker (state : MatchState) (mapId : Nat) (mm : MatchMaker) : MatchState :=
  { state with matchmakers := Function.update state.matchmakers mapId mm }

/-- The keys of a group. -/
def keys (state : MatchState) (mapId : Nat) (group : TicketVector) : List String :=
  group.map (state.matchmakers mapId).ticketId

/-- `VerifyAndSetMatchStatus`: Redis after it, and its result. -/
def verifyAndSetMatchStatus (redis : Redis) (keys : List String) (runs answered : Bool)
    : Redis × Bool :=
  if keys.isEmpty || !runs then (redis, false)
  else
    let (redis, result) := redis.commitGroup keys .inProgress
    (redis, result && answered)

/-- What a login adds to the cancelled tickets. -/
def cancelledBy (cancelled : List String) : Redis.TakeoverDetail → List String
  | .cancelled ticketId => cancelled ++ [ticketId]
  | _ => cancelled

/-- One step. Undefined where the action is not enabled, and where an exception ends the
process.
-/
def next (state : MatchState) : Action → Option MatchState
  | .addSingleMatchTicket mapId ptr ticket =>
      let mm := state.matchmakers mapId
      match state.stage with
      | .idle =>
          -- The object is unused, and the HTTP server sends each ticket once.
          if ptr ∉ mm.tickets ∧ ∀ other ∈ mm.tickets.keys, mm.ticketId other ≠ ticket.ticketId
          then some (state.setMatchMaker mapId (mm.addSingleMatchTicket ptr ticket))
          else none
      | _ => none
  | .startMatchMake mapId clock =>
      match state.stage with
      | .idle =>
          let mm := (state.matchmakers mapId).addNewMatchTickets.findMatchGroup clock
          some { state.setMatchMaker mapId mm with stage := .groups mapId mm.matchedGroups }
      | _ => none
  | .verifyAndSetMatchStatus runs answered =>
      match state.stage with
      | .groups mapId (group :: pending) =>
          let (redis, isMatchValid) :=
            verifyAndSetMatchStatus state.redis (state.keys mapId group) runs answered
          some
            { state with
              redis
              stage :=
                if isMatchValid then .distribute mapId group pending
                else .reread mapId group pending }
      | _ => none
  | .distributePlayerGroup manager hgetall fork =>
      match state.stage with
      | .distribute mapId group pending =>
          let tickets := group.filterMap (state.matchmakers mapId).tickets.lookup
          (manager.distributePlayerGroup hgetall fork tickets).map fun (_, accepted) =>
            { state with
              stage :=
                if accepted then .groups mapId pending else .rollback mapId group pending }
      | _ => none
  | .setWaiting =>
      match state.stage with
      | .rollback mapId (ptr :: remaining) pending =>
          let mm := state.matchmakers mapId
          some
            { state.setMatchMaker mapId (mm.setMatched ptr false) with
              redis := state.redis.setStatus (mm.ticketId ptr) .waiting
              stage := .rollback mapId remaining pending }
      | _ => none
  | .readStatus =>
      match state.stage with
      | .reread mapId (ptr :: remaining) pending =>
          let mm := state.matchmakers mapId
          let mm :=
            if state.redis.status (mm.ticketId ptr) = some .waiting
            then mm.setMatched ptr false
            else mm.setInvalid ptr
          some { state.setMatchMaker mapId mm with stage := .reread mapId remaining pending }
      | _ => none
  | .nextGroup =>
      match state.stage with
      | .rollback mapId [] pending => some { state with stage := .groups mapId pending }
      | .reread mapId [] pending => some { state with stage := .groups mapId pending }
      | _ => none
  | .releaseAndDeleteTickets deletes =>
      match state.stage with
      | .groups mapId [] =>
          let (mm, keysToDelete) := (state.matchmakers mapId).releaseAndDeleteTickets
          some
            { state.setMatchMaker mapId mm with
              redis :=
                if deletes then keysToDelete.foldl Redis.delTicket state.redis
                else state.redis
              stage := .idle }
      | _ => none
  | .matchCancel ticketId reqUid =>
      let (redis, result) := state.redis.matchCancel ticketId reqUid
      some
        { state with
          redis
          cancelled :=
            if result = 1 then state.cancelled ++ [ticketId] else state.cancelled }
  | .loginTakeover newSessKey session =>
      let (redis, _, detail, _) := state.redis.loginTakeover newSessKey session
      some
        { state with
          redis
          cancelled := cancelledBy state.cancelled detail }
  | .expire ticketId =>
      if ((state.redis.tickets.lookup ticketId).bind (·.ttl)).isSome
      then some { state with redis := state.redis.delTicket ticketId }
      else none
  | .setInGame ticketId => some { state with redis := state.redis.setInGame ticketId }
  | .setSuccess ticketId token =>
      some { state with redis := state.redis.setSuccess ticketId token }

/-- Empty queues, and any waiting tickets with the fields of the accounts that started them,
under any locks.
-/
structure Fresh (owner : String → Int) (state : MatchState) : Prop where
  matchmakers : state.matchmakers = fun mapId => .new mapId MAX_AGRESSION
  stage : state.stage = .idle
  cancelled : state.cancelled = []
  tickets : ∀ ticketId hash, state.redis.tickets.lookup ticketId = some hash →
    hash.status = some .waiting
    ∧ ∃ fields, hash.fields = some fields ∧ fields.uid = owner ticketId

/-- A step of the matchmaking, or a command on a lock that belongs to no step of it: the `SET`
of a start or of a game, a `DEL`, the end of a lock's lifetime.
-/
inductive Command where
  | matchmaking (action : Action)
  | setLock (uid : Int) (lock : LockValue)
  | delLock (uid : Int)

def issue (state : MatchState) : Command → Option MatchState
  | .matchmaking action => state.next action
  | .setLock uid lock => some { state with redis := state.redis.setLock uid lock }
  | .delLock uid => some { state with redis := state.redis.delLock uid }

end MatchState

def matchSystem (owner : String → Int) : System MatchState MatchState.Action :=
  .ofNext (MatchState.Fresh owner) MatchState.next

/-- The matchmaking among the requests that write the locks. -/
def lockSystem (owner : String → Int) : System MatchState MatchState.Command :=
  .ofNext (MatchState.Fresh owner) MatchState.issue

-----------------------------------------------------------------------------------------
-- What holds in every run
-----------------------------------------------------------------------------------------

/-- The map that the cycle is at. -/
def Stage.mapId : Stage → Nat
  | .idle => 0
  | .groups mapId _ | .distribute mapId _ _ | .rollback mapId _ _ | .reread mapId _ _ => mapId

/-- The groups that are not done. -/
def Stage.pendingGroups : Stage → List TicketVector
  | .idle => []
  | .groups _ pending | .reread _ _ pending => pending
  | .distribute _ group pending | .rollback _ group pending => group :: pending

/-- The committed tickets that are neither handed on nor waiting again. -/
def Stage.held : Stage → TicketVector
  | .distribute _ group _ | .rollback _ group _ => group
  | _ => []

namespace MatchState

/-- No ticket has become waiting, and only waiting tickets have been cancelled. -/
structure Outside (state after : MatchState) : Prop where
  matchmakers : after.matchmakers = state.matchmakers
  stage : after.stage = state.stage
  waiting : ∀ ticketId, after.redis.status ticketId = some .waiting →
    state.redis.status ticketId = some .waiting
  cancelled : ∀ ticketId ∈ after.cancelled,
    ticketId ∈ state.cancelled
    ∨ state.redis.status ticketId = some .waiting
      ∧ after.redis.status ticketId ≠ some .waiting

/-- A cancelled ticket is never waiting again; the pending groups have no key twice; a
committed ticket that the cycle still holds is not waiting and has not been cancelled.
-/
structure Sound (state : MatchState) : Prop where
  wellFormed : ∀ mapId, (state.matchmakers mapId).WellFormed
  cancelled : ∀ ticketId ∈ state.cancelled, state.redis.status ticketId ≠ some .waiting
  nodup : ∀ group ∈ state.stage.pendingGroups, (state.keys state.stage.mapId group).Nodup
  held : ∀ key ∈ state.keys state.stage.mapId state.stage.held,
    state.redis.status key ≠ some .waiting ∧ key ∉ state.cancelled

theorem setMatchMaker_self (state : MatchState) (mapId : Nat) (mm : MatchMaker)
    : (state.setMatchMaker mapId mm).matchmakers mapId = mm := by
  simp [setMatchMaker]

theorem setMatchMaker_ne (state : MatchState) {mapId other : Nat} (ne : other ≠ mapId)
    (mm : MatchMaker)
    : (state.setMatchMaker mapId mm).matchmakers other = state.matchmakers other := by
  simp [setMatchMaker, ne]

theorem keys_setMatchMaker (state : MatchState) (mapId : Nat) (mm : MatchMaker)
    (group : TicketVector)
    : (state.setMatchMaker mapId mm).keys mapId group = group.map mm.ticketId := by
  unfold keys
  rw [setMatchMaker_self]

namespace Sound

variable {state after : MatchState}

theorem setMatchMaker (h : state.Sound) {mapId : Nat} {mm : MatchMaker}
    (wellFormed : mm.WellFormed) (other : Nat)
    : ((state.setMatchMaker mapId mm).matchmakers other).WellFormed := by
  by_cases same : other = mapId
  · subst same
    rwa [setMatchMaker_self]
  · rw [setMatchMaker_ne state same]
    exact h.wellFormed other

/-- Between two cycles only the queues and the cancelled tickets count. -/
theorem of_idle (idle : after.stage = .idle)
    (wellFormed : ∀ mapId, (after.matchmakers mapId).WellFormed)
    (cancelled : ∀ ticketId ∈ after.cancelled, after.redis.status ticketId ≠ some .waiting)
    : after.Sound where
  wellFormed
  cancelled
  nodup group mem := by
    rw [idle] at mem
    exact absurd mem List.not_mem_nil
  held key mem := by
    rw [idle] at mem
    exact absurd mem List.not_mem_nil

theorem of_outside (h : state.Sound) (other : state.Outside after) : after.Sound where
  wellFormed := by
    rw [other.matchmakers]
    exact h.wellFormed
  cancelled ticketId mem waiting := by
    rcases other.cancelled ticketId mem with before | ⟨_, gone⟩
    · exact h.cancelled ticketId before (other.waiting ticketId waiting)
    · exact gone waiting
  nodup := by
    unfold keys
    rw [other.matchmakers, other.stage]
    exact h.nodup
  held := by
    unfold keys
    rw [other.matchmakers, other.stage]
    intro key mem
    obtain ⟨committed, kept⟩ := h.held key mem
    refine ⟨fun waiting => committed (other.waiting key waiting), fun now => ?_⟩
    rcases other.cancelled key now with before | ⟨waiting, _⟩
    · exact kept before
    · exact committed waiting

end Sound

/-- The scripts of the HTTP server, the end of a lifetime and the commands for started
games.
-/
theorem outside_matchCancel (state : MatchState) (ticketId : String) (reqUid : Int)
    : state.Outside
        { state with
          redis := (state.redis.matchCancel ticketId reqUid).1
          cancelled :=
            if (state.redis.matchCancel ticketId reqUid).2 = 1
            then state.cancelled ++ [ticketId] else state.cancelled } := by
  rcases state.redis.matchCancel_cases ticketId reqUid with ⟨waiting, result⟩ | ⟨same, result⟩
  · rw [result]
    refine ⟨rfl, rfl, fun _ => Redis.waiting_of_delTicket, fun other mem => ?_⟩
    rcases List.mem_append.mp mem with before | now
    · exact .inl before
    · rw [List.mem_singleton.mp now]
      refine .inr ⟨waiting, ?_⟩
      rw [Redis.status_delTicket_self]
      decide
  · rw [same, if_neg result]
    exact ⟨rfl, rfl, fun _ => id, fun _ => .inl⟩

theorem outside_takeover (state : MatchState) {uid : Int} {redis : Redis}
    {detail : Redis.TakeoverDetail} (taken : state.redis.Takeover uid redis detail)
    : state.Outside { state with redis, cancelled := cancelledBy state.cancelled detail } := by
  cases taken with
  | refused kept =>
      refine ⟨rfl, rfl, fun _ => id, fun ticketId mem => .inl ?_⟩
      cases detail with
      | cancelled other => exact absurd rfl (kept other)
      | none => exact mem
      | inGame => exact mem
      | matched => exact mem
  | unlocked tickets _ =>
      refine ⟨rfl, rfl, fun ticketId waiting => ?_, fun _ => .inl⟩
      rwa [Redis.status, tickets] at waiting
  | dropped _ _ tickets _ =>
      refine ⟨rfl, rfl, fun ticketId waiting => ?_, fun _ => .inl⟩
      rwa [Redis.status, tickets] at waiting
  | @cancelled _ ticketId _ waiting tickets _ =>
      have statuses : ∀ other,
          redis.status other = (state.redis.delTicket ticketId).status other := by
        intro other
        rw [Redis.status, tickets]
        rfl
      refine ⟨rfl, rfl, fun other now => ?_, fun other mem => ?_⟩
      · exact Redis.waiting_of_delTicket (statuses other ▸ now)
      · rcases List.mem_append.mp mem with before | now
        · exact .inl before
        · rw [List.mem_singleton.mp now]
          refine .inr ⟨waiting, ?_⟩
          show redis.status ticketId ≠ some .waiting
          rw [statuses, Redis.status_delTicket_self]
          decide

/-- The commands for a started game. -/
theorem outside_of_redis (state : MatchState) {redis : Redis}
    (waiting : ∀ ticketId, redis.status ticketId = some .waiting →
      state.redis.status ticketId = some .waiting)
    : state.Outside { state with redis } :=
  ⟨rfl, rfl, waiting, fun _ => .inl⟩

namespace Sound

variable {state after : MatchState}

/-- The commit takes the first pending group in hand or leaves it to the re-reads. -/
theorem verify (h : state.Sound) {mapId : Nat} {group : TicketVector}
    {pending : List TicketVector} (stage : state.stage = .groups mapId (group :: pending))
    (runs answered : Bool)
    : Sound
        { state with
          redis :=
            (verifyAndSetMatchStatus state.redis (state.keys mapId group) runs answered).1
          stage :=
            if (verifyAndSetMatchStatus state.redis (state.keys mapId group) runs answered).2
            then .distribute mapId group pending else .reread mapId group pending } := by
  have nodup : ∀ other ∈ group :: pending, (state.keys mapId other).Nodup := by
    have := h.nodup
    rwa [stage] at this
  have later : ∀ other ∈ pending, (state.keys mapId other).Nodup :=
    fun other mem => nodup other (List.mem_cons_of_mem _ mem)
  unfold verifyAndSetMatchStatus
  split
  · exact ⟨h.wellFormed, h.cancelled, later, fun key mem => absurd mem List.not_mem_nil⟩
  · dsimp only
    rcases state.redis.commitGroup_cases (state.keys mapId group) .inProgress with
      ⟨waiting, result⟩ | ⟨_, result⟩
    · rw [result]
      have status := Redis.status_foldl_setStatus (state.keys mapId group) state.redis
        .inProgress
      have notWaiting : ∀ ticketId ∈ state.keys mapId group,
          ((state.keys mapId group).foldl (·.setStatus · .inProgress) state.redis).status
            ticketId ≠ some .waiting := by
        intro ticketId mem
        rw [status, if_pos mem]
        decide
      have cancelled : ∀ ticketId ∈ state.cancelled,
          ((state.keys mapId group).foldl (·.setStatus · .inProgress) state.redis).status
            ticketId ≠ some .waiting := by
        intro ticketId mem
        by_cases member : ticketId ∈ state.keys mapId group
        · exact notWaiting ticketId member
        · rw [status, if_neg member]
          exact h.cancelled ticketId mem
      cases answered with
      | true =>
          refine ⟨h.wellFormed, cancelled, nodup, fun key mem => ⟨notWaiting key mem, ?_⟩⟩
          exact fun gone => h.cancelled key gone (waiting key mem)
      | false =>
          exact ⟨h.wellFormed, cancelled, later, fun key mem => absurd mem List.not_mem_nil⟩
    · rw [result]
      exact ⟨h.wellFormed, h.cancelled, later, fun key mem => absurd mem List.not_mem_nil⟩

/-- A step inside a cycle changes flags only, so the keys of the groups stay. -/
theorem of_sameQueue (h : state.Sound) {mapId : Nat} {mm : MatchMaker}
    (same : (state.matchmakers mapId).SameQueue mm)
    (matchmakers : after.matchmakers = (state.setMatchMaker mapId mm).matchmakers)
    (stage : after.stage.mapId = mapId)
    (cancelled : ∀ ticketId ∈ after.cancelled, after.redis.status ticketId ≠ some .waiting)
    (nodup : ∀ group ∈ after.stage.pendingGroups, (state.keys mapId group).Nodup)
    (held : ∀ key ∈ state.keys mapId after.stage.held,
      after.redis.status key ≠ some .waiting ∧ key ∉ after.cancelled)
    : after.Sound := by
  have keys : ∀ group, after.keys after.stage.mapId group = state.keys mapId group := by
    intro group
    unfold MatchState.keys
    rw [stage, matchmakers, setMatchMaker_self, same.ticketId]
  refine ⟨?_, cancelled, fun group mem => ?_, fun key mem => held key (keys _ ▸ mem)⟩
  · rw [matchmakers]
    exact h.setMatchMaker (same.wellFormed (h.wellFormed mapId))
  · rw [keys]
    exact nodup group mem

/-- One `HSET` of the rollback. The ticket is none of those that are still to be rolled back,
so these stay committed.
-/
theorem setWaiting (h : state.Sound) {mapId : Nat} {ptr : TicketPtr}
    {remaining : TicketVector} {pending : List TicketVector}
    (stage : state.stage = .rollback mapId (ptr :: remaining) pending)
    : Sound
        { state.setMatchMaker mapId ((state.matchmakers mapId).setMatched ptr false) with
          redis :=
            state.redis.setStatus ((state.matchmakers mapId).ticketId ptr) .waiting
          stage := .rollback mapId remaining pending } := by
  have nodup : ∀ group ∈ (ptr :: remaining) :: pending, (state.keys mapId group).Nodup := by
    have := h.nodup
    rwa [stage] at this
  have held : ∀ key ∈ state.keys mapId (ptr :: remaining),
      state.redis.status key ≠ some .waiting ∧ key ∉ state.cancelled := by
    have := h.held
    rwa [stage] at this
  obtain ⟨apart, rest⟩ := List.nodup_cons.mp (nodup _ List.mem_cons_self)
  have own : (state.matchmakers mapId).ticketId ptr ∉ state.cancelled :=
    (held _ List.mem_cons_self).2
  refine h.of_sameQueue (.setMatched _ ptr false) rfl rfl ?_ ?_ ?_
  · intro ticketId gone
    have ne : ticketId ≠ (state.matchmakers mapId).ticketId ptr := fun same => own (same ▸ gone)
    rw [Redis.status_setStatus_ne ne]
    exact h.cancelled ticketId gone
  · intro group mem
    rcases List.mem_cons.mp mem with rfl | mem
    · exact rest
    · exact nodup group (List.mem_cons_of_mem _ mem)
  · intro key mem
    obtain ⟨committed, kept⟩ := held key (List.mem_cons_of_mem _ mem)
    refine ⟨?_, kept⟩
    have ne : key ≠ (state.matchmakers mapId).ticketId ptr := fun same => apart (same ▸ mem)
    rw [Redis.status_setStatus_ne ne]
    exact committed

/-- A flag is set after a re-read, and the rest of the cycle is as before. -/
theorem reread (h : state.Sound) {mapId : Nat} {ptr : TicketPtr}
    {remaining : TicketVector} {pending : List TicketVector} {mm : MatchMaker}
    (stage : state.stage = .reread mapId (ptr :: remaining) pending)
    (same : (state.matchmakers mapId).SameQueue mm)
    : Sound
        { state.setMatchMaker mapId mm with stage := .reread mapId remaining pending } := by
  have nodup := h.nodup
  rw [stage] at nodup
  exact h.of_sameQueue same rfl rfl h.cancelled nodup
    fun key mem => absurd mem List.not_mem_nil

/-- Every step keeps the state sound. -/
theorem next {action : Action} (h : state.Sound) (step : state.next action = some after)
    : after.Sound := by
  cases action with
  | addSingleMatchTicket mapId ptr ticket =>
      simp only [MatchState.next] at step
      split at step
      · next idle =>
          split at step
          · next fresh =>
              cases step
              exact of_idle idle (h.setMatchMaker
                ((h.wellFormed mapId).addSingleMatchTicket fresh.1
                  fun other known => fresh.2 other (AList.mem_keys.mp known))) h.cancelled
          · cases step
      · cases step
  | startMatchMake mapId clock =>
      simp only [MatchState.next] at step
      split at step
      · cases step
        have wellFormed := (h.wellFormed mapId).addNewMatchTickets
        obtain ⟨same, groups⟩ := MatchMaker.findMatchGroup_spec wellFormed clock
        refine ⟨h.setMatchMaker (same.wellFormed wellFormed), h.cancelled, ?_,
          fun key mem => absurd mem List.not_mem_nil⟩
        intro group mem
        refine (state.keys_setMatchMaker mapId _ group).symm ▸ ?_
        rw [same.ticketId]
        exact groups group mem
      · cases step
  | verifyAndSetMatchStatus runs answered =>
      simp only [MatchState.next] at step
      split at step
      · next stage =>
          cases step
          exact h.verify stage runs answered
      · cases step
  | distributePlayerGroup manager hgetall fork =>
      simp only [MatchState.next] at step
      split at step
      · next mapId group pending stage =>
          obtain ⟨⟨_, accepted⟩, _, result⟩ := Option.map_eq_some_iff.mp step
          have nodup := h.nodup
          have held := h.held
          rw [stage] at nodup held
          cases accepted with
          | true =>
              cases result
              exact ⟨h.wellFormed, h.cancelled,
                fun other mem => nodup other (List.mem_cons_of_mem _ mem),
                fun key mem => absurd mem List.not_mem_nil⟩
          | false =>
              cases result
              exact ⟨h.wellFormed, h.cancelled, nodup, held⟩
      · cases step
  | setWaiting =>
      simp only [MatchState.next] at step
      split at step
      · next stage =>
          cases step
          exact h.setWaiting stage
      · cases step
  | readStatus =>
      simp only [MatchState.next] at step
      split at step
      · next mapId ptr remaining pending stage =>
          cases step
          refine h.reread stage ?_
          split
          · exact .setMatched _ ptr false
          · exact .setInvalid _ ptr
      · cases step
  | nextGroup =>
      simp only [MatchState.next] at step
      split at step
      · next mapId pending stage =>
          have nodup := h.nodup
          rw [stage] at nodup
          cases step
          exact ⟨h.wellFormed, h.cancelled,
            fun other mem => nodup other (List.mem_cons_of_mem _ mem),
            fun key mem => absurd mem List.not_mem_nil⟩
      · next mapId pending stage =>
          have nodup := h.nodup
          rw [stage] at nodup
          cases step
          exact ⟨h.wellFormed, h.cancelled, nodup, fun key mem => absurd mem List.not_mem_nil⟩
      · cases step
  | releaseAndDeleteTickets deletes =>
      simp only [MatchState.next] at step
      split at step
      · next mapId stage =>
          cases step
          refine of_idle rfl (h.setMatchMaker (h.wellFormed mapId).releaseAndDeleteTickets)
            fun ticketId gone => ?_
          dsimp only
          split
          · exact fun waiting =>
              h.cancelled ticketId gone (Redis.waiting_of_foldl_delTicket waiting)
          · exact h.cancelled ticketId gone
      · cases step
  | matchCancel ticketId reqUid =>
      cases step
      exact h.of_outside (state.outside_matchCancel ticketId reqUid)
  | loginTakeover newSessKey session =>
      cases step
      exact h.of_outside
        (state.outside_takeover (state.redis.loginTakeover_cases newSessKey session))
  | expire ticketId =>
      simp only [MatchState.next] at step
      split at step
      · cases step
        exact h.of_outside (state.outside_of_redis fun _ => Redis.waiting_of_delTicket)
      · cases step
  | setInGame ticketId =>
      cases step
      refine h.of_outside (state.outside_of_redis fun other waiting => ?_)
      rwa [Redis.status_setInGame] at waiting
  | setSuccess ticketId token =>
      cases step
      exact h.of_outside (state.outside_of_redis fun _ => Redis.waiting_of_setSuccess)

end Sound

-----------------------------------------------------------------------------------------
-- Commit against cancellation
-----------------------------------------------------------------------------------------

/-- A status that the main process writes outside the commit is written to a ticket that is
still there. An `HSET` on a ticket that is gone makes a hash without an owner.
-/
def writesToTicket (state : MatchState) (action : Action) (_ : MatchState) : Bool :=
  match action with
  | .setWaiting =>
      match state.stage with
      | .rollback mapId (ptr :: _) _ =>
          (state.redis.tickets.lookup ((state.matchmakers mapId).ticketId ptr)).isSome
      | _ => true
  | .setSuccess ticketId _ => (state.redis.tickets.lookup ticketId).isSome
  | _ => true

/-- All tickets of the account wait. -/
def allWait (owner : String → Int) (redis : Redis) (uid : Int) : Bool :=
  redis.tickets.keys.all fun ticketId =>
    owner ticketId != uid || redis.status ticketId == some .waiting

/-- The group that is to be committed has a member that does not wait, or each member has the
lock of its account.
-/
def groupLocked (owner : String → Int) (state : MatchState) : Bool :=
  match state.stage with
  | .groups mapId (group :: _) =>
      (state.keys mapId group).any (state.redis.status · != some .waiting)
        || (state.keys mapId group).all fun key => state.redis.locksFor (owner key) key
  | _ => true

/-- A ticket that becomes `INPROGRESS` or `SUCCESS` has the lock of its account, and a lock
changes only to that of a game while the account has such a ticket.
-/
def keepsLocks (owner : String → Int) (state : MatchState) : Command → Bool
  | .matchmaking (.verifyAndSetMatchStatus runs _) => !runs || state.groupLocked owner
  | .matchmaking (.setSuccess ticketId _) => state.redis.locksFor (owner ticketId) ticketId
  | .matchmaking _ => true
  | .setLock _ (.inGame _) => true
  | .setLock uid (.ticket _) => allWait owner state.redis uid
  | .delLock uid => allWait owner state.redis uid

/-- A step that writes no status to a ticket that is gone and keeps the locks. -/
def isCareful (owner : String → Int) (state : MatchState) (command : Command)
    (after : MatchState)
    : Bool :=
  state.keepsLocks owner command
    && match command with
      | .matchmaking action => state.writesToTicket action after
      | _ => true

/-- A commit gives every member the status, with no effect on other tickets, or it changes
nothing; and no ticket of a group on its way to a dedicated process has been cancelled.
-/
structure CommitsWhole (state : MatchState) : Prop where
  allOrNothing : ∀ keys runs answered,
    (∀ ticketId,
        (verifyAndSetMatchStatus state.redis keys runs answered).1.status ticketId
          = if ticketId ∈ keys then some .inProgress else state.redis.status ticketId)
    ∨ verifyAndSetMatchStatus state.redis keys runs answered = (state.redis, false)
  handed : ∀ mapId group pending, state.stage = .distribute mapId group pending →
    ∀ ticketId ∈ state.keys mapId group, ticketId ∉ state.cancelled

/-- While a ticket is in progress or has succeeded, its owner can neither cancel it nor log
in anew, and nobody else can cancel it.
-/
structure RefusesCommitted (owner : String → Int) (state : MatchState) : Prop where
  matchCancel : ∀ ticketId status, state.redis.status ticketId = some status →
    status ≠ .waiting → ∀ reqUid,
      state.redis.matchCancel ticketId reqUid
        = (state.redis, if reqUid = owner ticketId then 0 else -1)
  loginTakeover : ∀ ticketId status, state.redis.status ticketId = some status →
    status ≠ .waiting → ∀ newSessKey session, session.dbId = owner ticketId →
      ∃ detail,
        state.redis.loginTakeover newSessKey session = (state.redis, 0, detail, false)

theorem Sound.commitsWhole {state : MatchState} (h : state.Sound) : state.CommitsWhole where
  allOrNothing keys runs answered := by
    unfold verifyAndSetMatchStatus
    split
    · exact .inr rfl
    · rcases state.redis.commitGroup_cases keys .inProgress with ⟨_, result⟩ | ⟨_, result⟩
      · rw [result]
        exact .inl (Redis.status_foldl_setStatus keys state.redis .inProgress)
      · rw [result]
        exact .inr rfl
  handed mapId group pending stage ticketId mem := by
    have held := h.held
    rw [stage] at held
    exact (held ticketId mem).2

theorem Fresh.sound {owner : String → Int} {state : MatchState} (h : state.Fresh owner)
    : state.Sound := by
  refine .of_idle h.stage (fun mapId => ?_) fun ticketId gone => ?_
  · rw [h.matchmakers]
    exact .new mapId MAX_AGRESSION
  · rw [h.cancelled] at gone
    exact absurd gone List.not_mem_nil

/-- Every state of a run is sound. -/
theorem sound_of_reachable {owner : String → Int} {state : MatchState}
    (reached : (lockSystem owner).Reachable state)
    : state.Sound := by
  have invariant : (lockSystem owner).Inductive Sound := by
    refine ⟨fun _ start => start.sound, fun before command after sound step => ?_⟩
    cases command with
    | matchmaking action => exact sound.next step
    | setLock uid lock =>
        cases step
        exact sound.of_outside (before.outside_of_redis fun _ => id)
    | delLock uid =>
        cases step
        exact sound.of_outside (before.outside_of_redis fun _ => id)
  exact invariant.reachable reached

/-- What a step does to Redis if it writes to no ticket that is gone. The tickets that become
`INPROGRESS` or `SUCCESS` are good.
-/
inductive Writes (good : String → Prop) (before : Redis) : Redis → Prop
  | nothing : Writes good before before
  | commit {keys : List String} (all : ∀ key ∈ keys, good key)
      : Writes good before (before.commitGroup keys .inProgress).1
  | setWaiting {ticketId : String} (known : ticketId ∈ before.tickets)
      : Writes good before (before.setStatus ticketId .waiting)
  | delete (keys : List String) : Writes good before (keys.foldl Redis.delTicket before)
  | matchCancel (ticketId : String) (reqUid : Int)
      : Writes good before (before.matchCancel ticketId reqUid).1
  | loginTakeover (newSessKey : String) (session : SessionHash)
      : Writes good before (before.loginTakeover newSessKey session).1
  | setInGame (ticketId : String) : Writes good before (before.setInGame ticketId)
  | setSuccess {ticketId : String} (known : ticketId ∈ before.tickets) (own : good ticketId)
      (token : String)
      : Writes good before (before.setSuccess ticketId token)

/-- One step. -/
theorem next_writes {good : String → Prop} {state after : MatchState} {action : Action}
    (step : state.next action = some after)
    (allowed : state.writesToTicket action after = true)
    (commits : ∀ mapId group pending answered, action = .verifyAndSetMatchStatus true answered →
      state.stage = .groups mapId (group :: pending) →
      (∀ key ∈ state.keys mapId group, state.redis.status key = some .waiting) →
        ∀ key ∈ state.keys mapId group, good key)
    (succeeds : ∀ ticketId token, action = .setSuccess ticketId token → good ticketId)
    : Writes good state.redis after.redis := by
  cases action with
  | addSingleMatchTicket mapId ptr ticket =>
      simp only [MatchState.next] at step
      split at step
      · split at step
        · cases step
          exact .nothing
        · cases step
      · cases step
  | startMatchMake mapId clock =>
      simp only [MatchState.next] at step
      split at step
      · cases step
        exact .nothing
      · cases step
  | verifyAndSetMatchStatus runs answered =>
      simp only [MatchState.next] at step
      split at step
      · next mapId group pending stage =>
          cases step
          unfold verifyAndSetMatchStatus
          split
          · exact .nothing
          · next runs' =>
              obtain rfl : runs = true := by
                simp only [Bool.or_eq_true, Bool.not_eq_true', not_or] at runs'
                exact Bool.eq_true_of_not_eq_false runs'.2
              dsimp only
              rcases state.redis.commitGroup_cases (state.keys mapId group) .inProgress with
                ⟨waiting, _⟩ | ⟨_, result⟩
              · exact .commit (commits mapId group pending answered rfl stage waiting)
              · rw [result]
                exact .nothing
      · cases step
  | distributePlayerGroup manager hgetall fork =>
      simp only [MatchState.next] at step
      split at step
      · obtain ⟨_, _, result⟩ := Option.map_eq_some_iff.mp step
        cases result
        exact .nothing
      · cases step
  | setWaiting =>
      simp only [MatchState.next] at step
      split at step
      · next stage =>
          cases step
          simp only [writesToTicket, stage] at allowed
          exact .setWaiting (AList.lookup_isSome.mp allowed)
      · cases step
  | readStatus =>
      simp only [MatchState.next] at step
      split at step
      · cases step
        exact .nothing
      · cases step
  | nextGroup =>
      simp only [MatchState.next] at step
      split at step
      · cases step
        exact .nothing
      · cases step
        exact .nothing
      · cases step
  | releaseAndDeleteTickets deletes =>
      simp only [MatchState.next] at step
      split at step
      · cases step
        dsimp only
        split
        · exact .delete _
        · exact .nothing
      · cases step
  | matchCancel ticketId reqUid =>
      cases step
      exact .matchCancel ticketId reqUid
  | loginTakeover newSessKey session =>
      cases step
      exact .loginTakeover newSessKey session
  | expire ticketId =>
      simp only [MatchState.next] at step
      split at step
      · cases step
        exact .delete [ticketId]
      · cases step
  | setInGame ticketId =>
      cases step
      exact .setInGame ticketId
  | setSuccess ticketId token =>
      cases step
      exact .setSuccess (AList.lookup_isSome.mp allowed) (succeeds ticketId token rfl) token

/-- Every ticket keeps its owner, and its lock when it no longer waits. -/
theorem Writes.owned {owner : String → Int} {before after : Redis}
    (writes : Writes (fun key => before.locksFor (owner key) key = true) before after)
    (h : before.Owned owner)
    : after.Owned owner := by
  cases writes with
  | nothing => exact h
  | commit locked => exact h.commitGroup locked .inProgress
  | setWaiting known => exact h.setStatus known (.inl rfl)
  | delete keys => exact h.delTickets keys
  | matchCancel ticketId reqUid => exact h.matchCancel ticketId reqUid
  | loginTakeover newSessKey session =>
      exact h.takeover (before.loginTakeover_cases newSessKey session)
  | setInGame ticketId => exact h.setInGame ticketId
  | setSuccess known locked token => exact h.setSuccess known locked token

theorem waits_of_allWait {owner : String → Int} {redis : Redis} {uid : Int}
    (wait : allWait owner redis uid = true)
    : ∀ ticketId hash, redis.tickets.lookup ticketId = some hash → owner ticketId = uid →
        hash.status = some .waiting := by
  intro ticketId hash found own
  have one := List.all_eq_true.mp wait ticketId (AList.mem_keys.mp (Table.mem_of_lookup found))
  rw [Bool.or_eq_true, bne_iff_ne, beq_iff_eq, Redis.status, found] at one
  exact one.resolve_left fun other => other own

theorem locks_of_groupLocked {owner : String → Int} {state : MatchState} {mapId : Nat}
    {group : TicketVector} {pending : List TicketVector}
    (locked : state.groupLocked owner = true)
    (stage : state.stage = .groups mapId (group :: pending))
    (waiting : ∀ key ∈ state.keys mapId group, state.redis.status key = some .waiting)
    : ∀ key ∈ state.keys mapId group, state.redis.locksFor (owner key) key = true := by
  simp only [groupLocked, stage, Bool.or_eq_true] at locked
  rcases locked with other | all
  · obtain ⟨key, mem, notWaiting⟩ := List.any_eq_true.mp other
    exact absurd (waiting key mem) (bne_iff_ne.mp notWaiting)
  · exact List.all_eq_true.mp all

/-- A careful step. -/
theorem owned_of_careful {owner : String → Int} {before after : MatchState}
    {command : Command} (h : before.redis.Owned owner)
    (step : before.issue command = some after)
    (careful : before.isCareful owner command after = true)
    : after.redis.Owned owner := by
  obtain ⟨locks, writes⟩ := Bool.and_eq_true_iff.mp careful
  cases command with
  | matchmaking action =>
      refine (next_writes step writes ?_ ?_).owned h
      · rintro mapId group pending answered rfl stage waiting
        exact locks_of_groupLocked locks stage waiting
      · rintro ticketId token rfl
        exact locks
  | setLock uid lock =>
      cases step
      cases lock with
      | inGame game => exact h.setLock (.inl ⟨game, rfl⟩)
      | ticket ticketId => exact h.setLock (.inr (waits_of_allWait locks))
  | delLock uid =>
      cases step
      exact h.delLock (waits_of_allWait locks)

/-- In every run commits are whole and no cancelled ticket is handed on. In a run of careful
steps, committed tickets are refused, by induction on the run.
-/
theorem exclusive_of_reachable (owner : String → Int)
    : (∀ state, (lockSystem owner).Reachable state → state.CommitsWhole)
      ∧ ∀ state,
          ((lockSystem owner).restrict fun before command after =>
            before.isCareful owner command after = true).Reachable state →
            state.RefusesCommitted owner := by
  refine ⟨fun _ reached => (sound_of_reachable reached).commitsWhole, fun state reached => ?_⟩
  have invariant : ((lockSystem owner).restrict fun before command after =>
      before.isCareful owner command after = true).Inductive (·.redis.Owned owner) := by
    refine ⟨fun state start ticketId hash found => ?_, fun _ _ _ h step =>
      owned_of_careful h step.1 step.2⟩
    obtain ⟨status, own⟩ := start.tickets ticketId hash found
    exact ⟨status ▸ rfl, own, .inl status⟩
  have owned := invariant.reachable reached
  exact ⟨fun _ _ committed notWaiting => owned.matchCancel_refused committed notWaiting,
    fun _ _ committed notWaiting _ _ => owned.loginTakeover_refused committed notWaiting _⟩

-----------------------------------------------------------------------------------------
-- A ticket alone
-----------------------------------------------------------------------------------------

/-- The ticket of account 1 waits in Redis. -/
def soloTicket : MatchState where
  redis :=
    { tickets := AList.singleton "ticket_a"
        { fields := some
            { uid := 1, userId := "alpha", rating := 1500, aggression := 5,
              loadoutType := .free, mapId := 1, characterType := 0 }
          status := some .waiting
          ttl := some 300 }
      activeMatch := AList.singleton 1 (.ticket "ticket_a") }
  matchmakers mapId := .new mapId MAX_AGRESSION

theorem soloTicket_fresh : soloTicket.Fresh fun _ => 1 := by
  refine ⟨rfl, rfl, rfl, fun ticketId hash found => ?_⟩
  have known := Table.mem_of_lookup found
  obtain rfl : ticketId = "ticket_a" := List.mem_singleton.mp known
  cases found
  exact ⟨rfl, _, rfl, rfl⟩

def soloMatchTicket : MatchTicket where
  ticketId := "ticket_a"
  uId := 1
  aggression := 5
  mapId := 1
  characterType := 0
  startTime := 0

/-- The queue of the map when the ticket has joined it. -/
def soloQueue : MatchMaker :=
  let mm := (MatchMaker.new 1 MAX_AGRESSION).addSingleMatchTicket 0 soloMatchTicket
  { mm with
    ticketsToAdd := []
    bucket := mm.pushBucket mm.bucket 0
    timeSortedTicketVector := [0] }

/-- The ticket has been sent. -/
def soloSent : MatchState :=
  soloTicket.setMatchMaker 1
    ((MatchMaker.new 1 MAX_AGRESSION).addSingleMatchTicket 0 soloMatchTicket)

/-- After a minute the ticket is a group. -/
def soloGroupFound : MatchState :=
  let mm := soloQueue.findMatchGroup fun _ => 61000000000
  { soloTicket.setMatchMaker 1 mm with stage := .groups 1 mm.matchedGroups }

theorem next_soloSent
    : soloSent.next (.startMatchMake 1 fun _ => 61000000000) = some soloGroupFound := by
  have joined : ((MatchMaker.new 1 MAX_AGRESSION).addSingleMatchTicket 0
      soloMatchTicket).addNewMatchTickets = soloQueue := by
    simp [MatchMaker.addNewMatchTickets, MatchMaker.addSingleMatchTicket, MatchMaker.new,
      soloQueue, List.nil_merge]
  show some _ = some _
  simp only [soloSent, setMatchMaker_self]
  rw [joined]
  simp [soloGroupFound, setMatchMaker]

theorem run_soloGroupFound
    : (matchSystem fun _ => 1).Run soloTicket
        [.addSingleMatchTicket 1 0 soloMatchTicket, .startMatchMake 1 fun _ => 61000000000]
        soloGroupFound := by
  have sent : soloTicket.next (.addSingleMatchTicket 1 0 soloMatchTicket) = some soloSent := rfl
  exact .cons sent (.cons next_soloSent (.nil _))

/-- The group is committed, its members are marked, and others ask for locks in vain. -/
def soloCommitted : List Command :=
  [.matchmaking (.verifyAndSetMatchStatus true true), .setLock 2 (.ticket "ticket_b"),
    .matchmaking (.setInGame "ticket_a"), .delLock 2,
    .matchmaking (.setSuccess "ticket_a" "token_a")]

/-- The state after some commands once the group is found. -/
def soloCommands (commands : List Command) : MatchState :=
  (replay issue (isCareful fun _ => 1) soloGroupFound commands).getD soloGroupFound

/-- Its player can neither cancel nor log in anew. -/
theorem soloTicket_refused
    : (soloCommands soloCommitted).CommitsWhole
      ∧ (soloCommands soloCommitted).redis.status "ticket_a" = some .success
      ∧ (soloCommands soloCommitted).RefusesCommitted fun _ => 1 := by
  have sent : soloTicket.next (.addSingleMatchTicket 1 0 soloMatchTicket) = some soloSent := rfl
  have found : ((lockSystem fun _ => 1).restrict fun before command after =>
      before.isCareful (fun _ => 1) command after = true).Run soloTicket
        [.matchmaking (.addSingleMatchTicket 1 0 soloMatchTicket),
          .matchmaking (.startMatchMake 1 fun _ => 61000000000)] soloGroupFound :=
    .cons ⟨sent, rfl⟩ (.cons ⟨next_soloSent, rfl⟩ (.nil _))
  have run := System.Run.of_replay (Fresh fun _ => 1) issue (isCareful fun _ => 1)
    soloCommitted soloGroupFound soloGroupFound (by decide +kernel)
  have reached := run.reachable (found.reachable (.initial soloTicket_fresh))
  exact ⟨(exclusive_of_reachable fun _ => 1).1 _ reached.of_restrict, by decide +kernel,
    (exclusive_of_reachable fun _ => 1).2 _ reached⟩

/-- No dedicated process takes the group and its ticket ends its lifetime meanwhile. The
rollback makes it anew, and the next cycle commits it.
-/
def afterExpiry : List Action :=
  [.verifyAndSetMatchStatus true true, .expire "ticket_a",
    .distributePlayerGroup {} (fun _ => none) none, .setWaiting, .nextGroup,
    .releaseAndDeleteTickets true, .startMatchMake 1 fun _ => 65000000000,
    .verifyAndSetMatchStatus true true]

/-- The ticket is in progress, but the cancellation of its player finds none and answers 2. -/
theorem committed_without_owner
    : ¬∀ state, (matchSystem fun _ => 1).Reachable state →
        state.RefusesCommitted fun _ => 1 := by
  intro refuses
  have run := System.Run.of_replay (Fresh fun _ => 1) next (fun _ _ _ => true) afterExpiry
    soloGroupFound soloGroupFound (by decide +kernel)
  have reached := run.of_restrict.reachable
    (run_soloGroupFound.reachable (.initial soloTicket_fresh))
  have answer := congrArg Prod.snd
    ((refuses _ reached).matchCancel "ticket_a" .inProgress (by decide +kernel)
      (by decide) 1)
  exact absurd answer (by decide +kernel)

end MatchState

end ExtractionServer.Matchmaking
