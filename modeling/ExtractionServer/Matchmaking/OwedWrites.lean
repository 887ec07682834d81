import ExtractionServer.Matchmaking.QueueFlags
import ExtractionServer.Matchmaking.TicketLife

/-! The two writers that do not look whether a ticket is still there: the rollback of a group
and `UpdateEntryTokenRequest::Execute`. Between the commit of a ticket and such a write nothing
but the end of its lifetime takes it away.
-/

namespace ExtractionServer.Matchmaking

open Lobby Transition

-----------------------------------------------------------------------------------------
-- Tickets that no longer wait
-----------------------------------------------------------------------------------------

namespace LifeState

/-- A ticket that is there and does not wait is there afterwards. -/
def Stays (before after : Redis) (key : String) : Prop :=
  key ∈ before.tickets → before.status key ≠ some .waiting → key ∈ after.tickets

namespace Stays

variable {before after : Redis} {key ticketId : String}

theorem of_tickets (same : after.tickets = before.tickets) : Stays before after key :=
  fun known _ => same ▸ known

theorem of_insert {hash : TicketHash}
    (tickets : after.tickets = before.tickets.insert ticketId hash)
    : Stays before after key :=
  fun known _ => tickets ▸ (AList.mem_insert _).mpr (.inr known)

theorem expire (redis : Redis) (ticketId : String) (seconds : Nat)
    : Stays redis (LifeState.expire redis ticketId seconds) key :=
  fun known _ => (Table.mem_adjust ticketId key _ redis.tickets).mpr known

theorem of_erase_ne (tickets : after.tickets = before.tickets.erase ticketId)
    (ne : key ≠ ticketId)
    : Stays before after key :=
  fun known _ => tickets ▸ AList.mem_erase.mpr ⟨ne, known⟩

/-- A waiting ticket is deleted. -/
theorem of_erase_waiting (tickets : after.tickets = before.tickets.erase ticketId)
    (waiting : before.status ticketId = some .waiting)
    : Stays before after key :=
  fun known busy => tickets ▸ AList.mem_erase.mpr ⟨fun same => busy (same ▸ waiting), known⟩

/-- A group gets a status, by induction on the group. -/
theorem foldl_setStatus (keys : List String) (redis : Redis) (status : TicketStatus)
    (known : key ∈ redis.tickets)
    : key ∈ (keys.foldl (·.setStatus · status) redis).tickets := by
  induction keys generalizing redis with
  | nil => exact known
  | cons head rest ih => exact ih _ ((AList.mem_insert _).mpr (.inr known))

theorem matchCancel (redis : Redis) (ticketId : String) (reqUid : Int)
    : Stays redis (redis.matchCancel ticketId reqUid).1 key := by
  rcases redis.matchCancel_cases ticketId reqUid with ⟨waiting, result⟩ | ⟨result, _⟩
  · rw [result]
    exact of_erase_waiting rfl waiting
  · exact of_tickets (congrArg _ result)

theorem takeover {uid : Int} {detail : Redis.TakeoverDetail}
    (taken : before.Takeover uid after detail)
    : Stays before after key := by
  cases taken with
  | refused _ => exact of_tickets rfl
  | unlocked tickets _ => exact of_tickets tickets
  | dropped _ _ tickets _ => exact of_tickets tickets
  | cancelled _ waiting tickets _ => exact of_erase_waiting tickets waiting

end Stays

/-- Commands that leave the tokens alone, by induction on their keys. -/
theorem tokens_foldl {f : Redis → String → Redis}
    (same : ∀ redis key, (f redis key).tokens = redis.tokens) (keys : List String)
    (redis : Redis)
    : (keys.foldl f redis).tokens = redis.tokens := by
  induction keys generalizing redis with
  | nil => rfl
  | cons key rest ih => exact (ih (f redis key)).trans (same redis key)

/-- The matchmaking makes no token. -/
theorem tokens_of_writes {good : String → Prop} {before after : Redis}
    (writes : MatchState.Writes good before after)
    : after.tokens = before.tokens := by
  cases writes with
  | nothing => rfl
  | @commit keys _ =>
      rcases before.commitGroup_cases keys .inProgress with ⟨_, result⟩ | ⟨_, result⟩
      · rw [result]
        exact @tokens_foldl (·.setStatus · .inProgress) (fun _ _ => rfl) keys before
      · rw [result]
  | setWaiting _ => rfl
  | delete keys => exact @tokens_foldl Redis.delTicket (fun _ _ => rfl) keys before
  | matchCancel ticketId reqUid =>
      rcases before.matchCancel_cases ticketId reqUid with ⟨_, result⟩ | ⟨result, _⟩
      · rw [result]
        rfl
      · rw [result]
  | loginTakeover newSessKey session =>
      unfold Redis.loginTakeover
      dsimp only
      split
      · rfl
      · rfl
      · split <;> rfl
  | setInGame ticketId =>
      unfold Redis.setInGame
      split <;> rfl
  | setSuccess _ _ token => rfl

end LifeState

-----------------------------------------------------------------------------------------
-- What the main process owes
-----------------------------------------------------------------------------------------

/-- The keys with the members of the groups that a process has taken: those whose `HMSET` by
`UpdateEntryTokenRequest::Execute` is to come, and those that have got it.
-/
structure HandedLife where
  life : LifeState := .fresh
  handed : List String := []
  succeeded : List String := []

namespace HandedLife

inductive Action where
  | life (action : LifeState.Action)
  /-- No `HMSET` will come: the process or the request has failed. -/
  | updateFails (ticketId : String)

/-- Only what a process has taken is updated, once, and the pipeline writes to the ticket
before it makes the token.
-/
def enabled (state : HandedLife) : LifeState.Action → Bool
  | .matchmaking (.setSuccess ticketId _) => state.handed.contains ticketId
  | .matchmaking action => MatchState.sendsFresh action
  | .hmSetToken _ hash => state.succeeded.contains hash.ticket
  | _ => true

/-- The committed tickets that the cycle has in hand. -/
def heldKeys (server : MatchState) : List String :=
  server.keys server.stage.mapId server.stage.held

/-- What a command means for the members of the groups. -/
def follow (state : HandedLife) (action : LifeState.Action) (after : LifeState) : HandedLife :=
  match action with
  | .matchmaking (.distributePlayerGroup _ _ _) =>
      match after.server.stage with
      | .groups _ _ =>
          { state with life := after, handed := heldKeys state.life.server ++ state.handed }
      | _ => { state with life := after }
  | .matchmaking (.setSuccess ticketId _) =>
      { life := after
        handed := state.handed.filter (· ≠ ticketId)
        succeeded := ticketId :: state.succeeded }
  | _ => { state with life := after }

/-- One command, or an update that never comes. -/
def next (state : HandedLife) : Action → Option HandedLife
  | .life action =>
      if state.enabled action then (state.life.next action).map (state.follow action) else none
  | .updateFails ticketId =>
      some { state with handed := state.handed.filter (· ≠ ticketId) }

def system : System HandedLife Action :=
  .ofNext (· = {}) next

/-- The tickets to which the main process is still to write `WAITING` or `SUCCESS`. -/
def owed (state : HandedLife) : List String :=
  heldKeys state.life.server ++ state.handed

/-- A lifetime that ends is not that of a ticket to which a write is still to come. -/
def outlives (state : HandedLife) : Action → Bool
  | .life (.matchmaking (.expire ticketId)) => !state.owed.contains ticketId
  | _ => true

/-- The system in which no lifetime ends between the commit of a ticket and the write. -/
def lastingSystem : System HandedLife Action :=
  system.restrict fun before action _ => before.outlives action = true

-----------------------------------------------------------------------------------------
-- Owed writes go to tickets that are there
-----------------------------------------------------------------------------------------

/-- Redis as all processes see it. -/
def redis (state : HandedLife) : Redis :=
  state.life.server.redis

/-- A ticket to which a write is owed is there and does not wait. One that has succeeded
never waits again, and tokens name only such tickets.
-/
structure Owing (state : HandedLife) : Prop where
  intact : state.life.Intact
  sound : state.life.server.Sound
  flags : state.life.server.Flags
  cancelled : ∀ ticketId ∈ state.life.server.cancelled, ticketId ∈ state.life.created
  held : ∀ key ∈ heldKeys state.life.server, key ∈ state.redis.tickets
  handed : ∀ key ∈ state.handed, key ∈ state.redis.tickets
    ∧ state.redis.status key ≠ some .waiting
    ∧ key ∉ heldKeys state.life.server ∧ key ∉ state.succeeded
  succeeded : ∀ key ∈ state.succeeded, key ∈ state.life.created
    ∧ state.redis.status key ≠ some .waiting ∧ key ∉ heldKeys state.life.server
  token : ∀ token hash, state.redis.tokens.lookup token = some hash →
    hash.ticket ∈ state.succeeded
  binding : ∀ token ticketId, state.life.binding = some (.read token (some ticketId)) →
    ticketId ∈ state.succeeded

variable {before after : HandedLife}

namespace Owing

/-- A ticket that is owed a write. -/
theorem owed (h : before.Owing) {key : String} (mem : key ∈ before.owed)
    : key ∈ before.redis.tickets ∧ before.redis.status key ≠ some .waiting
      ∧ key ∉ before.succeeded := by
  rcases List.mem_append.mp mem with held | handed
  · exact ⟨h.held key held, (h.sound.held key held).1,
      fun done => (h.succeeded key done).2.2 held⟩
  · obtain ⟨known, busy, _, fresh⟩ := h.handed key handed
    exact ⟨known, busy, fresh⟩

theorem created (h : before.Owing) {key : String} (known : key ∈ before.redis.tickets)
    : key ∈ before.life.created := by
  obtain ⟨hash, found⟩ := Table.exists_lookup_of_mem known
  obtain ⟨fields, created, _⟩ := h.intact.ticket key hash found
  exact Table.mem_of_lookup created

/-- So the two writers find their tickets. -/
theorem writesToTicket (h : before.Owing) {action : LifeState.Action} {life : LifeState}
    (enabled : before.enabled action = true)
    : before.life.writesToTicket action life = true := by
  cases action with
  | matchmaking action =>
      cases action with
      | setWaiting =>
          simp only [LifeState.writesToTicket, MatchState.writesToTicket]
          split
          · next mapId ptr remaining pending stage =>
              refine AList.lookup_isSome.mpr (h.held _ ?_)
              rw [heldKeys, stage]
              exact List.mem_map_of_mem List.mem_cons_self
          · rfl
      | setSuccess ticketId token =>
          have handed : ticketId ∈ before.handed := List.contains_iff_mem.mp enabled
          exact AList.lookup_isSome.mpr (h.handed ticketId handed).1
      | _ => rfl
  | _ => rfl

/-- A step after which nothing new is in hand, and in which the tickets that are owed a write
stay.
-/
theorem of_stays (h : before.Owing) (steps : before.life.Steps after.life)
    (sound : after.life.server.Sound) (flags : after.life.server.Flags)
    (cancelled : ∀ ticketId ∈ after.life.server.cancelled,
      ticketId ∈ before.life.server.cancelled ∨ before.redis.status ticketId = some .waiting)
    (held : ∀ key ∈ heldKeys after.life.server, key ∈ heldKeys before.life.server)
    (handed : ∀ key ∈ after.handed, key ∈ before.owed
      ∧ key ∉ heldKeys after.life.server ∧ key ∉ after.succeeded)
    (succeeded : ∀ key ∈ after.succeeded,
      key ∈ before.succeeded ∨ key ∈ before.handed)
    (waiting : ∀ key ∈ before.owed ++ before.succeeded, key ∈ after.owed ++ after.succeeded →
      after.redis.status key = some .waiting → before.redis.status key = some .waiting)
    (stays : ∀ key ∈ after.owed, LifeState.Stays before.redis after.redis key)
    (token : ∀ token hash, after.redis.tokens.lookup token = some hash →
      hash.ticket ∈ after.succeeded)
    (binding : ∀ token ticketId, after.life.binding = some (.read token (some ticketId)) →
      ticketId ∈ after.succeeded)
    : after.Owing where
  intact := steps.intact
  sound
  flags
  cancelled ticketId mem := by
    refine steps.created ticketId ?_
    rcases cancelled ticketId mem with old | now
    · exact h.cancelled ticketId old
    · obtain ⟨hash, found, _⟩ := Redis.status_eq_some now
      exact h.created (Table.mem_of_lookup found)
  held key mem := by
    obtain ⟨known, busy, _⟩ := h.owed (List.mem_append_left _ (held key mem))
    exact stays key (List.mem_append_left _ mem) known busy
  handed key mem := by
    obtain ⟨owed, free, fresh⟩ := handed key mem
    obtain ⟨known, busy, _⟩ := h.owed owed
    refine ⟨stays key (List.mem_append_right _ mem) known busy, fun now => busy ?_, free, fresh⟩
    exact waiting key (List.mem_append_left _ owed)
      (List.mem_append_left _ (List.mem_append_right _ mem)) now
  succeeded key mem := by
    have old : key ∈ before.life.created ∧ before.redis.status key ≠ some .waiting
        ∧ key ∉ heldKeys before.life.server := by
      rcases succeeded key mem with done | handed
      · exact h.succeeded key done
      · obtain ⟨known, busy, free, _⟩ := h.handed key handed
        exact ⟨h.created known, busy, free⟩
    refine ⟨steps.created key old.1, fun now => old.2.1 ?_, fun hold => old.2.2 (held key hold)⟩
    refine waiting key ?_ (List.mem_append_right _ mem) now
    rcases succeeded key mem with done | handed
    · exact List.mem_append_right _ done
    · exact List.mem_append_left _ (List.mem_append_right _ handed)
  token
  binding

/-- A step that leaves what is handed on and what has succeeded as it is. -/
theorem of_life (h : before.Owing) {life : LifeState} (steps : before.life.Steps life)
    (sound : life.server.Sound) (flags : life.server.Flags)
    (cancelled : ∀ ticketId ∈ life.server.cancelled,
      ticketId ∈ before.life.server.cancelled ∨ before.redis.status ticketId = some .waiting)
    (held : ∀ key ∈ heldKeys life.server, key ∈ heldKeys before.life.server)
    (waiting : ∀ key ∈ before.owed ++ before.succeeded,
      life.server.redis.status key = some .waiting → before.redis.status key = some .waiting)
    (stays : ∀ key ∈ before.owed, LifeState.Stays before.redis life.server.redis key)
    (token : ∀ token hash, life.server.redis.tokens.lookup token = some hash →
      hash.ticket ∈ before.succeeded)
    (binding : ∀ token ticketId, life.binding = some (.read token (some ticketId)) →
      ticketId ∈ before.succeeded)
    : Owing { before with life } := by
  refine h.of_stays steps sound flags cancelled held (fun key mem => ?_) (fun _ => .inl)
    (fun key mem _ => waiting key mem) (fun key mem => stays key ?_) token binding
  · obtain ⟨_, _, free, fresh⟩ := h.handed key mem
    exact ⟨List.mem_append_right _ mem, fun now => free (held key now), fresh⟩
  · rcases List.mem_append.mp mem with now | handed
    · exact List.mem_append_left _ (held key now)
    · exact List.mem_append_right _ handed

/-- A command that leaves the queues and the cycle alone. -/
theorem of_redis (h : before.Owing) {life : LifeState} (steps : before.life.Steps life)
    (server : life.server = { before.life.server with redis := life.server.redis })
    (waiting : ∀ key, life.server.redis.status key = some .waiting →
      before.redis.status key = some .waiting)
    (stays : ∀ key ∈ before.owed, LifeState.Stays before.redis life.server.redis key)
    (token : ∀ token hash, life.server.redis.tokens.lookup token = some hash →
      hash.ticket ∈ before.succeeded)
    (binding : ∀ token ticketId, life.binding = some (.read token (some ticketId)) →
      ticketId ∈ before.succeeded)
    : Owing { before with life } := by
  have outside := before.life.server.outside_of_redis waiting
  rw [← server] at outside
  refine h.of_life steps (h.sound.of_outside outside) ?_ (fun ticketId mem => .inl ?_)
    (fun key mem => ?_) (fun key _ => waiting key) stays token binding
  · exact h.flags.of_stage outside.matchmakers (congrArg _ outside.stage)
      (by rw [outside.stage])
  · rw [server] at mem
    exact mem
  · rw [server] at mem
    exact mem

/-- The `HSET` of a creation makes a ticket that has never been there. -/
theorem hSetTicket (h : before.Owing) {ticketId : String} {fields : TicketFields}
    (started : before.life.starting.lookup ticketId = some fields)
    : Owing
        { before with
          life :=
            { before.life.setRedis
                { before.redis with
                  tickets :=
                    before.redis.tickets.insert ticketId
                      { (before.redis.tickets.lookup ticketId).getD {} with
                        fields := some fields
                        status := some .waiting } } with
              starting := before.life.starting.erase ticketId
              created := before.life.created.insert ticketId fields
              expiring := ticketId :: before.life.expiring } } := by
  have unused := h.intact.starting ticketId (Table.mem_of_lookup started)
  have ne : ∀ {key}, key ∈ before.life.created → key ≠ ticketId :=
    fun mem same => unused (same ▸ mem)
  have owedNe : ∀ key ∈ before.owed, key ≠ ticketId :=
    fun key mem => ne (h.created (h.owed mem).1)
  have status : ∀ key, key ≠ ticketId →
      Redis.status
        { before.redis with
          tickets :=
            before.redis.tickets.insert ticketId
              { (before.redis.tickets.lookup ticketId).getD {} with
                fields := some fields
                status := some .waiting } } key
        = before.redis.status key :=
    fun key other => LifeState.status_insert_ne other before.redis _
  refine h.of_life (h.intact.hSetTicket started) ⟨h.sound.wellFormed, fun key mem waiting => ?_,
    h.sound.nodup, fun key mem => ⟨fun waiting => ?_, (h.sound.held key mem).2⟩⟩ ?_
    (fun _ => .inl) (fun _ => id) (fun key mem waiting => ?_) (fun key _ => .of_insert rfl)
    h.token h.binding
  · exact h.sound.cancelled key mem
      ((status key (ne (h.cancelled key mem))).symm.trans waiting)
  · exact (h.sound.held key mem).1
      ((status key (owedNe key (List.mem_append_left _ mem))).symm.trans waiting)
  · exact h.flags.of_stage rfl rfl (.refl _)
  · refine (status key ?_).symm.trans waiting
    rcases List.mem_append.mp mem with owed | done
    · exact owedNe key owed
    · exact ne (h.succeeded key done).1

/-- The commit finds a group that waits, or it changes nothing and the group is re-read. -/
theorem verify_cases {state after : MatchState} {mapId : Nat} {group : TicketVector}
    {pending : List TicketVector} {runs answered : Bool}
    (stage : state.stage = .groups mapId (group :: pending))
    (moved : state.next (.verifyAndSetMatchStatus runs answered) = some after)
    : after = { state with stage := .reread mapId group pending }
      ∨ (∀ key ∈ state.keys mapId group, state.redis.status key = some .waiting)
        ∧ after =
          { state with
            redis := (state.keys mapId group).foldl (·.setStatus · .inProgress) state.redis
            stage :=
              if answered then .distribute mapId group pending
              else .reread mapId group pending } := by
  simp only [MatchState.next, stage] at moved
  cases moved
  unfold MatchState.verifyAndSetMatchStatus
  split
  · exact .inl rfl
  · dsimp only
    rcases state.redis.commitGroup_cases (state.keys mapId group) .inProgress with
      ⟨waiting, result⟩ | ⟨_, result⟩
    · rw [result]
      exact .inr ⟨waiting, rfl⟩
    · rw [result]
      exact .inl rfl

/-- The commit takes a waiting group in hand, which nobody has handed on. -/
theorem verifyAndSetMatchStatus (h : before.Owing) {mapId : Nat} {group : TicketVector}
    {pending : List TicketVector} {runs answered : Bool} {server : MatchState}
    (stage : before.life.server.stage = .groups mapId (group :: pending))
    (moved : before.life.server.next (.verifyAndSetMatchStatus runs answered) = some server)
    (steps : before.life.Steps { before.life with server })
    : Owing { before with life := { before.life with server } } := by
  have sound := h.sound.next moved
  have flags := h.flags.next h.sound moved rfl
  rcases verify_cases stage moved with rfl | ⟨waiting, rfl⟩
  · exact h.of_life steps sound flags (fun _ => .inl)
      (fun key mem => absurd mem List.not_mem_nil) (fun _ _ => id) (fun _ _ => .of_tickets rfl)
      h.token h.binding
  · have status := Redis.status_foldl_setStatus (before.life.server.keys mapId group)
      before.redis .inProgress
    have known : ∀ key ∈ before.redis.tickets, key ∈
        ((before.life.server.keys mapId group).foldl (·.setStatus · .inProgress)
          before.redis).tickets :=
      fun key => LifeState.Stays.foldl_setStatus _ before.redis .inProgress
    have fades : ∀ key,
        ((before.life.server.keys mapId group).foldl (·.setStatus · .inProgress)
          before.redis).status key = some .waiting → before.redis.status key = some .waiting := by
      intro key now
      rw [status] at now
      split at now
      · cases now
      · exact now
    have inHand : ∀ key, key ∈ heldKeys
        { before.life.server with
          stage :=
            if answered then Stage.distribute mapId group pending
            else .reread mapId group pending } →
        before.redis.status key = some .waiting := by
      intro key mem
      cases answered with
      | true => exact waiting key mem
      | false => exact absurd mem List.not_mem_nil
    have tokens := @LifeState.tokens_foldl (·.setStatus · .inProgress) (fun _ _ => rfl)
      (before.life.server.keys mapId group) before.redis
    refine ⟨steps.intact, sound, flags, h.cancelled, fun key mem => ?_, fun key mem => ?_,
      fun key mem => ?_, fun token hash found => ?_, h.binding⟩
    · obtain ⟨hash, found, _⟩ := Redis.status_eq_some (inHand key mem)
      exact known key (Table.mem_of_lookup found)
    · obtain ⟨there, busy, _, fresh⟩ := h.handed key mem
      exact ⟨known key there, fun now => busy (fades key now), fun now => busy (inHand key now),
        fresh⟩
    · obtain ⟨created, busy, _⟩ := h.succeeded key mem
      exact ⟨created, fun now => busy (fades key now), fun now => busy (inHand key now)⟩
    · exact h.token token hash (tokens ▸ found)

/-- A process takes the group, whose members are owed `SUCCESS` then, or nobody does. -/
theorem distributePlayerGroup (h : before.Owing) {manager : DediManager}
    {hgetall : TicketReads} {fork : Option Int} {server : MatchState}
    (moved : before.life.server.next (.distributePlayerGroup manager hgetall fork)
      = some server)
    (steps : before.life.Steps { before.life with server })
    : Owing (before.follow (.matchmaking (.distributePlayerGroup manager hgetall fork))
        { before.life with server }) := by
  have sound := h.sound.next moved
  have flags := h.flags.next h.sound moved rfl
  simp only [MatchState.next] at moved
  split at moved
  · next mapId group pending stage =>
      have inHand : heldKeys before.life.server = before.life.server.keys mapId group := by
        rw [heldKeys, stage]
        rfl
      obtain ⟨⟨_, accepted⟩, _, result⟩ := Option.map_eq_some_iff.mp moved
      cases accepted with
      | true =>
          cases result
          refine h.of_stays steps sound flags
            (fun _ => .inl) (fun key mem => absurd mem List.not_mem_nil) (fun key mem => ?_)
            (fun _ => .inl) (fun _ _ _ => id) (fun _ _ => .of_tickets rfl) h.token h.binding
          exact ⟨mem, List.not_mem_nil, (h.owed mem).2.2⟩
      | false =>
          cases result
          exact h.of_life steps sound flags (fun _ => .inl) (fun key mem => inHand ▸ mem)
            (fun _ _ => id) (fun _ _ => .of_tickets rfl) h.token h.binding
  · cases moved

/-- One `HSET` of the rollback. The other tickets in hand, those that are handed on and those
that have succeeded are other tickets.
-/
theorem setWaiting (h : before.Owing) {server : MatchState}
    (moved : before.life.server.next .setWaiting = some server)
    (steps : before.life.Steps { before.life with server })
    : Owing { before with life := { before.life with server } } := by
  have sound := h.sound.next moved
  have flags := h.flags.next h.sound moved rfl
  simp only [MatchState.next] at moved
  split at moved
  · next mapId ptr remaining pending stage =>
      cases moved
      have inHand : heldKeys before.life.server
          = (before.life.server.matchmakers mapId).ticketId ptr
            :: before.life.server.keys mapId remaining := by
        rw [heldKeys, stage]
        rfl
      have keys : ∀ group, MatchState.keys
          (before.life.server.setMatchMaker mapId
            ((before.life.server.matchmakers mapId).setMatched ptr false)) mapId group
          = before.life.server.keys mapId group := by
        intro group
        rw [MatchState.keys_setMatchMaker]
        exact congrArg (group.map ·)
          (MatchMaker.SameQueue.setMatched (before.life.server.matchmakers mapId) ptr
            false).ticketId
      have nodup : ((before.life.server.matchmakers mapId).ticketId ptr
          :: before.life.server.keys mapId remaining).Nodup := by
        have := h.sound.nodup
        rw [stage] at this
        exact this _ List.mem_cons_self
      have ne : ∀ key ∈ before.life.server.keys mapId remaining ++ before.handed
          ++ before.succeeded, key ≠ (before.life.server.matchmakers mapId).ticketId ptr := by
        rintro key mem rfl
        have first : (before.life.server.matchmakers mapId).ticketId ptr
            ∈ heldKeys before.life.server := inHand ▸ List.mem_cons_self
        rcases List.mem_append.mp mem with owed | done
        · rcases List.mem_append.mp owed with rest | handed
          · exact (List.nodup_cons.mp nodup).1 rest
          · exact (h.handed _ handed).2.2.1 first
        · exact (h.succeeded _ done).2.2 first
      have held : ∀ key ∈ MatchState.keys
          (before.life.server.setMatchMaker mapId
            ((before.life.server.matchmakers mapId).setMatched ptr false)) mapId remaining,
          key ∈ heldKeys before.life.server := by
        intro key mem
        rw [inHand]
        exact List.mem_cons_of_mem _ (keys remaining ▸ mem)
      refine h.of_stays steps sound flags (fun _ => .inl) held (fun key mem => ?_) (fun _ => .inl)
        (fun key _ mem waiting => ?_) (fun _ _ => .of_insert rfl) h.token h.binding
      · obtain ⟨_, _, free, fresh⟩ := h.handed key mem
        exact ⟨List.mem_append_right _ mem, fun now => free (held key now), fresh⟩
      · have other := ne key (by
          rcases List.mem_append.mp mem with owed | done
          · refine List.mem_append_left _ ?_
            rcases List.mem_append.mp owed with rest | handed
            · exact List.mem_append_left _ (keys remaining ▸ rest)
            · exact List.mem_append_right _ handed
          · exact List.mem_append_right _ done)
        exact (Redis.status_setStatus_ne other before.redis .waiting).symm.trans waiting
  · cases moved

/-- A command of the matchmaking or of a script. -/
theorem matchmaking (h : before.Owing) {action : MatchState.Action} {server : MatchState}
    (enabled : before.enabled (.matchmaking action) = true)
    (moved : before.life.server.next action = some server)
    (outlives : before.outlives (.life (.matchmaking action)) = true)
    : Owing (before.follow (.matchmaking action) { before.life with server }) := by
  have allowed : before.life.writesToTicket (.matchmaking action) { before.life with server }
      = true := h.writesToTicket enabled
  have step : before.life.next (.matchmaking action) = some { before.life with server } := by
    simp only [LifeState.next, moved, Option.map_some]
  have steps := h.intact.next step allowed
  have sound := h.sound.next moved
  have fresh : MatchState.sendsFresh action = true := by
    cases action with
    | setSuccess ticketId token => rfl
    | _ => exact enabled
  have flags := h.flags.next h.sound moved fresh
  have writes : MatchState.Writes (fun _ => True) before.redis server.redis :=
    MatchState.next_writes moved allowed (fun _ _ _ _ _ _ _ _ _ => trivial)
      fun _ _ _ => trivial
  have token : ∀ token hash, server.redis.tokens.lookup token = some hash →
      hash.ticket ∈ before.succeeded := by
    rw [LifeState.tokens_of_writes writes]
    exact h.token
  have idle (held : server.stage.held = []) (redis : server.redis = before.redis)
      (cancelled : server.cancelled = before.life.server.cancelled)
      : Owing { before with life := { before.life with server } } := by
    refine h.of_life steps sound flags (fun _ mem => .inl (cancelled ▸ mem))
      (fun key mem => ?_) (fun key _ waiting => ?_) (fun _ _ => .of_tickets (by rw [redis]))
      token h.binding
    · rw [heldKeys, held] at mem
      exact absurd mem List.not_mem_nil
    · rwa [redis] at waiting
  have outside (other : before.life.server.Outside server)
      (stays : ∀ key ∈ before.owed, LifeState.Stays before.redis server.redis key)
      : Owing { before with life := { before.life with server } } := by
    refine h.of_life steps sound flags (fun ticketId mem => ?_) (fun key mem => ?_)
      (fun key _ => other.waiting key) stays token h.binding
    · exact (other.cancelled ticketId mem).imp_right And.left
    · rwa [heldKeys, MatchState.keys, other.matchmakers, other.stage] at mem
  cases action with
  | addSingleMatchTicket mapId ptr ticket =>
      simp only [MatchState.next] at moved
      split at moved
      · next stage =>
          split at moved
          · cases moved
            exact idle (congrArg Stage.held stage) rfl rfl
          · cases moved
      · cases moved
  | startMatchMake mapId clock =>
      simp only [MatchState.next] at moved
      split at moved <;> cases moved
      exact idle rfl rfl rfl
  | verifyAndSetMatchStatus runs answered =>
      cases stage : before.life.server.stage with
      | groups mapId pending =>
          cases pending with
          | nil =>
              simp only [MatchState.next, stage] at moved
              cases moved
          | cons group pending => exact h.verifyAndSetMatchStatus stage moved steps
      | _ =>
          simp only [MatchState.next, stage] at moved
          cases moved
  | distributePlayerGroup manager hgetall fork => exact h.distributePlayerGroup moved steps
  | setWaiting => exact h.setWaiting moved steps
  | readStatus =>
      simp only [MatchState.next] at moved
      split at moved <;> cases moved
      exact idle rfl rfl rfl
  | nextGroup =>
      simp only [MatchState.next] at moved
      split at moved <;> cases moved <;> exact idle rfl rfl rfl
  | releaseAndDeleteTickets deletes =>
      simp only [MatchState.next] at moved
      split at moved
      · next mapId stage =>
          cases moved
          refine idle rfl ?_ rfl
          -- The clean-up has no key to delete.
          have flagged := h.flags.all mapId
          dsimp only
          rw [flagged.no_keysToDelete]
          split <;> rfl
      · cases moved
  | matchCancel ticketId reqUid =>
      cases moved
      exact outside (before.life.server.outside_matchCancel ticketId reqUid) fun _ _ =>
        .matchCancel before.redis ticketId reqUid
  | loginTakeover newSessKey session =>
      cases moved
      have taken := before.redis.loginTakeover_cases newSessKey session
      exact outside (before.life.server.outside_takeover taken) fun _ _ => .takeover taken
  | expire ticketId =>
      simp only [MatchState.next] at moved
      split at moved
      · cases moved
        refine outside (before.life.server.outside_of_redis fun _ => Redis.waiting_of_delTicket)
          fun key mem => .of_erase_ne rfl ?_
        rintro rfl
        have ended : before.owed.contains key = false := (Bool.not_eq_true' _).mp outlives
        exact Bool.false_ne_true (ended.symm.trans (List.contains_iff_mem.mpr mem))
      · cases moved
  | setInGame ticketId =>
      cases moved
      have tickets : (before.redis.setInGame ticketId).tickets = before.redis.tickets := by
        unfold Redis.setInGame
        split <;> rfl
      refine outside (before.life.server.outside_of_redis fun other waiting => ?_) fun _ _ =>
        .of_tickets tickets
      rwa [Redis.status_setInGame] at waiting
  | setSuccess ticketId token' =>
      cases moved
      have handed : ticketId ∈ before.handed := List.contains_iff_mem.mp enabled
      refine h.of_stays steps sound flags (fun _ => .inl) (fun _ => id) (fun key mem => ?_)
        (fun key mem => ?_) (fun _ _ _ => Redis.waiting_of_setSuccess) (fun _ _ => .of_insert rfl)
        (fun token hash found => List.mem_cons_of_mem _ (h.token token hash found))
        fun token other read => List.mem_cons_of_mem _ (h.binding token other read)
      · obtain ⟨mem, ne⟩ := List.mem_filter.mp mem
        obtain ⟨_, _, free, fresh⟩ := h.handed key mem
        refine ⟨List.mem_append_right _ mem, free, fun now => ?_⟩
        rcases List.mem_cons.mp now with same | done
        · exact of_decide_eq_true ne same
        · exact fresh done
      · rcases List.mem_cons.mp mem with rfl | done
        · exact .inr handed
        · exact .inl done

/-- A command of any process. -/
theorem life (h : before.Owing) {action : LifeState.Action} {life : LifeState}
    (enabled : before.enabled action = true) (step : before.life.next action = some life)
    (outlives : before.outlives (.life action) = true)
    : Owing (before.follow action life) := by
  have steps := h.intact.next step (h.writesToTicket enabled)
  have same : Owing { before with life := before.life } := h
  have expires : ∀ ticketId seconds key,
      (LifeState.expire before.redis ticketId seconds).status key = some .waiting →
        before.redis.status key = some .waiting :=
    fun ticketId seconds key waiting =>
      (LifeState.status_expire before.redis ticketId seconds key).symm.trans waiting
  cases action with
  | matchmaking action =>
      obtain ⟨server, moved, rfl⟩ := Option.map_eq_some_iff.mp step
      exact h.matchmaking enabled moved outlives
  | setLock ticketId fields =>
      simp only [LifeState.next] at step
      split at step
      · split at step
        · cases step
          exact same
        · cases step
          exact h.of_redis steps rfl (fun _ => id) (fun _ _ => .of_tickets rfl) h.token h.binding
      · cases step
  | hSetTicket ticketId =>
      obtain ⟨fields, started, rfl⟩ := Option.map_eq_some_iff.mp step
      exact h.hSetTicket started
  | expireTicket ticketId =>
      simp only [LifeState.next] at step
      split at step
      · cases step
        exact h.of_redis steps rfl (expires ticketId 300) (fun _ _ => .expire _ _ _) h.token
          h.binding
      · cases step
  | readStatus ticketId uid =>
      simp only [LifeState.next] at step
      split at step <;> cases step
      · exact h.of_redis steps rfl (fun _ => id) (fun _ _ => .of_tickets rfl) h.token h.binding
      · exact same
  | shortenTicket ticketId =>
      simp only [LifeState.next] at step
      split at step
      · cases step
        exact h.of_redis steps rfl (expires ticketId 60) (fun _ _ => .expire _ _ _) h.token
          h.binding
      · cases step
  | hmSetToken token hash =>
      cases step
      refine h.of_redis steps rfl (fun _ => id) (fun _ _ => .of_tickets rfl)
        (fun other known found => ?_) h.binding
      rcases Table.lookup_insert_cases found with ⟨_, rfl⟩ | ⟨_, old⟩
      · exact List.contains_iff_mem.mp enabled
      · exact h.token other known old
  | expireToken token =>
      cases step
      refine h.of_redis steps rfl (fun _ => id) (fun _ _ => .of_tickets rfl)
        (fun other known found => ?_) h.binding
      rcases Table.lookup_adjust_cases found with ⟨_, old, was, rfl⟩ | ⟨_, was⟩
      · exact h.token token old was
      · exact h.token other known was
  | endToken token =>
      simp only [LifeState.next] at step
      split at step
      · cases step
        exact h.of_redis steps rfl (fun _ => id) (fun _ _ => .of_tickets rfl)
          (fun other known found => h.token other known (Table.lookup_erase_cases found).2)
          h.binding
      · cases step
  | readTokenFd token processFound =>
      simp only [LifeState.next] at step
      split at step
      · split at step <;> cases step
        · exact h.of_redis steps rfl (fun _ => id) (fun _ _ => .of_tickets rfl) h.token
            fun _ _ read => by cases read
        · exact same
      · cases step
  | readTokenTicket =>
      simp only [LifeState.next] at step
      split at step
      · cases step
        refine h.of_redis steps rfl (fun _ => id) (fun _ _ => .of_tickets rfl) h.token
          fun token ticketId read => ?_
        obtain ⟨_, named⟩ := BindStage.read.inj (Option.some.inj read)
        obtain ⟨hash, found, rfl⟩ := Option.map_eq_some_iff.mp named
        exact h.token _ hash found
      · cases step
  | deleteToken =>
      simp only [LifeState.next] at step
      split at step
      · next token ticket read =>
          cases step
          have tokens : ∀ other hash, (before.redis.tokens.erase token).lookup other = some hash →
              hash.ticket ∈ before.succeeded :=
            fun other hash found => h.token other hash (Table.lookup_erase_cases found).2
          cases ticket with
          | none =>
              exact h.of_redis steps rfl (fun _ => id) (fun _ _ => .of_tickets rfl) tokens
                fun _ _ read => by cases read
          | some ticketId =>
              -- The token names a ticket that has succeeded, to which nothing is owed.
              have done := h.binding token ticketId read
              exact h.of_redis steps rfl (fun _ => Redis.waiting_of_delTicket)
                (fun key mem => .of_erase_ne rfl fun same => (h.owed mem).2.2 (same ▸ done))
                tokens fun _ _ read => by cases read
      · cases step

/-- Every step in which no lifetime ends too early. -/
theorem next (h : before.Owing) {action : Action} (step : before.next action = some after)
    (outlives : before.outlives action = true)
    : before.life.Steps after.life ∧ after.Owing := by
  cases action with
  | life action =>
      simp only [HandedLife.next] at step
      split at step
      · next enabled =>
          obtain ⟨life, moved, rfl⟩ := Option.map_eq_some_iff.mp step
          refine ⟨?_, h.life enabled moved outlives⟩
          have followed : (before.follow action life).life = life := by
            unfold follow
            split
            · split <;> rfl
            · rfl
            · rfl
          rw [followed]
          exact h.intact.next moved (h.writesToTicket enabled)
      · cases step
  | updateFails ticketId =>
      cases step
      have steps : before.life.Steps before.life := ⟨h.intact, fun _ => id, fun _ _ => id⟩
      refine ⟨steps, h.of_stays steps h.sound h.flags (fun _ => .inl) (fun _ => id)
        (fun key mem => ?_) (fun _ => .inl) (fun _ _ _ => id) (fun _ _ => .of_tickets rfl) h.token
        h.binding⟩
      have handed := List.mem_of_mem_filter mem
      obtain ⟨_, _, free, fresh⟩ := h.handed key handed
      exact ⟨List.mem_append_right _ handed, free, fresh⟩

end Owing

theorem owing_initial : Owing {} where
  intact := .fresh
  sound := .of_idle rfl (fun mapId => .new mapId MAX_AGRESSION)
    fun ticketId mem => absurd mem List.not_mem_nil
  flags := .of_idle (fun mapId => .new mapId MAX_AGRESSION) rfl
  cancelled ticketId mem := absurd mem List.not_mem_nil
  held key mem := absurd mem List.not_mem_nil
  handed key mem := absurd mem List.not_mem_nil
  succeeded key mem := absurd mem List.not_mem_nil
  token token hash found := by cases found
  binding token ticketId read := by cases read

/-- Every state of a run in which no lifetime ends too early. -/
theorem owing_of_reachable {state : HandedLife} (reached : lastingSystem.Reachable state)
    : state.Owing := by
  have invariant : lastingSystem.Inductive Owing :=
    ⟨fun _ start => start ▸ owing_initial, fun _ _ _ h step => (h.next step.1 step.2).2⟩
  exact invariant.reachable reached

-----------------------------------------------------------------------------------------
-- A lifetime that ends too early
-----------------------------------------------------------------------------------------

/-- The rollback comes to each ticket in hand, by induction on those that it has before it. -/
theorem run_rollback {state : HandedLife} {mapId : Nat} {remaining : TicketVector}
    {pending : List TicketVector}
    (stage : state.life.server.stage = .rollback mapId remaining pending) {key : String}
    (mem : key ∈ state.life.server.keys mapId remaining)
    : ∃ actions last, system.Run state actions last ∧ key ∈ last.redis.tickets := by
  induction remaining generalizing state with
  | nil => exact absurd mem List.not_mem_nil
  | cons ptr rest ih =>
      let mm := state.life.server.matchmakers mapId
      let server : MatchState :=
        { state.life.server.setMatchMaker mapId (mm.setMatched ptr false) with
          redis := state.redis.setStatus (mm.ticketId ptr) .waiting
          stage := .rollback mapId rest pending }
      have moved : state.life.server.next .setWaiting = some server := by
        simp only [MatchState.next, stage]
        rfl
      have step : state.next (.life (.matchmaking .setWaiting))
          = some { state with life := { state.life with server } } := by
        have enabled : state.enabled (.matchmaking .setWaiting) = true := rfl
        simp only [HandedLife.next, if_pos enabled, LifeState.next, moved, Option.map_some]
        rfl
      have keys : server.keys mapId rest = state.life.server.keys mapId rest := by
        refine (MatchState.keys_setMatchMaker _ mapId _ rest).trans ?_
        exact congrArg (rest.map ·) (MatchMaker.SameQueue.setMatched mm ptr false).ticketId
      rcases List.mem_cons.mp mem with rfl | later
      · exact ⟨_, _, .cons step (.nil _), (AList.mem_insert _).mpr (.inl rfl)⟩
      · obtain ⟨actions, last, run, there⟩ :=
          @ih { state with life := { state.life with server } } rfl (keys ▸ later)
        exact ⟨_, last, .cons step run, there⟩

/-- Nobody takes the group in hand. -/
theorem run_distribute {state : HandedLife} {mapId : Nat} {group : TicketVector}
    {pending : List TicketVector}
    (stage : state.life.server.stage = .distribute mapId group pending) {key : String}
    (mem : key ∈ state.life.server.keys mapId group)
    : ∃ actions last, system.Run state actions last ∧ key ∈ last.redis.tickets := by
  let server : MatchState :=
    { state.life.server with stage := .rollback mapId group pending }
  have moved : state.life.server.next (.distributePlayerGroup {} (fun _ => none) none)
      = some server := by
    simp only [MatchState.next, stage]
    rfl
  have step : state.next (.life (.matchmaking (.distributePlayerGroup {} (fun _ => none) none)))
      = some { state with life := { state.life with server } } := by
    have enabled :
        state.enabled (.matchmaking (.distributePlayerGroup {} (fun _ => none) none)) = true := rfl
    simp only [HandedLife.next, if_pos enabled, LifeState.next, moved, Option.map_some]
    rfl
  obtain ⟨actions, last, run, there⟩ :=
    @run_rollback { state with life := { state.life with server } } mapId group pending rfl key mem
  exact ⟨_, last, .cons step run, there⟩

/-- A ticket to which a write is still to come gets it, whether it is there or not. -/
theorem run_owed {state : HandedLife} {key : String} (mem : key ∈ state.owed)
    : ∃ actions last, system.Run state actions last ∧ key ∈ last.redis.tickets := by
  rcases List.mem_append.mp mem with held | handed
  · cases stage : state.life.server.stage with
    | distribute mapId group pending =>
        rw [heldKeys, stage] at held
        exact run_distribute stage held
    | rollback mapId remaining pending =>
        rw [heldKeys, stage] at held
        exact run_rollback stage held
    | _ =>
        rw [heldKeys, stage] at held
        exact absurd held List.not_mem_nil
  · have enabled : state.enabled (.matchmaking (.setSuccess key "")) = true :=
      List.contains_iff_mem.mpr handed
    let last : HandedLife :=
      state.follow (.matchmaking (.setSuccess key ""))
        { state.life with
          server := { state.life.server with redis := state.redis.setSuccess key "" } }
    have step : state.next (.life (.matchmaking (.setSuccess key ""))) = some last := by
      simp only [HandedLife.next, if_pos enabled]
      rfl
    exact ⟨_, last, .cons step (.nil _), (AList.mem_insert _).mpr (.inl rfl)⟩

/-- In every run in which no lifetime ends between the commit of a ticket and the write that
the main process owes it, every ticket has its creation fields and its lifetime, the tickets
with such a write to come are there, and a key that `/match/start` has made and that is gone
is gone for the rest of the run, by induction on the run. After one lifetime that does end
there, the key can come back.
-/
theorem never_resurrected {state : HandedLife} (reached : lastingSystem.Reachable state)
    : state.life.Intact
      ∧ (∀ key ∈ state.owed, key ∈ state.redis.tickets)
      ∧ (∀ ticketId ∈ state.life.created, ticketId ∉ state.redis.tickets →
          ∀ actions last, lastingSystem.Run state actions last →
            ticketId ∉ last.redis.tickets)
      ∧ ∀ action after, system.step state action after → state.outlives action = false →
          ∃ ticketId ∈ after.life.created, ticketId ∉ after.redis.tickets
            ∧ ∃ actions last, system.Run after actions last
              ∧ ticketId ∈ last.redis.tickets := by
  have owing := owing_of_reachable reached
  refine ⟨owing.intact, fun key mem => (owing.owed mem).1,
    fun ticketId created gone actions last run => ?_, fun action after step early => ?_⟩
  · have kept := run.preserves
      (P := fun state => state.Owing ∧ ticketId ∈ state.life.created
        ∧ ticketId ∉ state.redis.tickets)
      (fun before action after holds step =>
        have steps := holds.1.next step.1 step.2
        ⟨steps.2, steps.1.created ticketId holds.2.1, steps.1.gone ticketId holds.2.1 holds.2.2⟩)
      ⟨owing, created, gone⟩
    exact kept.2.2
  · unfold outlives at early
    split at early
    · next ticketId =>
        have owed : ticketId ∈ state.owed :=
          List.contains_iff_mem.mp ((Bool.not_eq_false' _).mp early)
        have enabled : state.enabled (.matchmaking (.expire ticketId)) = true := rfl
        have next : state.next (.life (.matchmaking (.expire ticketId))) = some after := step
        simp only [HandedLife.next, if_pos enabled, LifeState.next, MatchState.next] at next
        split at next
        · cases next
          refine ⟨ticketId, owing.created (owing.owed owed).1, fun known => ?_, run_owed owed⟩
          exact (AList.mem_erase.mp known).1 rfl
        · cases next
    · cases early

-----------------------------------------------------------------------------------------
-- The ticket of account 1
-----------------------------------------------------------------------------------------

/-- The ticket is made and sent, and after a minute it is a group. -/
def soloFound : HandedLife where
  life :=
    { server := .soloGroupFound, created := AList.singleton "ticket_a" LifeState.soloFields }

theorem run_soloFound
    : lastingSystem.Run {}
        [.life (.setLock "ticket_a" LifeState.soloFields), .life (.hSetTicket "ticket_a"),
          .life (.expireTicket "ticket_a"),
          .life (.matchmaking (.addSingleMatchTicket 1 0 MatchState.soloMatchTicket)),
          .life (.matchmaking (.startMatchMake 1 fun _ => 61000000000))] soloFound := by
  let sent : HandedLife :=
    { life :=
        { server := .soloSent, created := AList.singleton "ticket_a" LifeState.soloFields } }
  have made := System.Run.of_replay (· = ({} : HandedLife)) next
    (fun before action _ => before.outlives action)
    [.life (.setLock "ticket_a" LifeState.soloFields), .life (.hSetTicket "ticket_a"),
      .life (.expireTicket "ticket_a"),
      .life (.matchmaking (.addSingleMatchTicket 1 0 MatchState.soloMatchTicket))] {} {}
    (by decide +kernel)
  have found : sent.next (.life (.matchmaking (.startMatchMake 1 fun _ => 61000000000)))
      = some soloFound := by
    have moved : sent.life.server.next (.startMatchMake 1 fun _ => 61000000000)
        = some .soloGroupFound := MatchState.next_soloSent
    have enabled : sent.enabled (.matchmaking (.startMatchMake 1 fun _ => 61000000000))
        = true := rfl
    simp only [HandedLife.next, if_pos enabled, LifeState.next, moved, Option.map_some]
    rfl
  exact made.append (.cons ⟨found, rfl⟩ (.nil _))

/-- The state after some actions once the group is found. -/
def soloAfter (actions : List Action) : HandedLife :=
  (replay next (fun before action _ => before.outlives action) soloFound actions).getD soloFound

def soloToken : TokenHash where
  udpServerIp := "127.0.0.1"
  port := 7777
  sessionId := 1
  securityKey := 5
  fd := 7
  ticket := "ticket_a"
  loadoutType := .free

/-- The group is committed, a new process takes it and reports its token, and the binding of
the token deletes the ticket.
-/
def boundActions : List Action :=
  [.life (.matchmaking (.verifyAndSetMatchStatus true true)),
    .life (.matchmaking (.distributePlayerGroup {}
      (fun _ => some { fields := some LifeState.soloFields }) (some 7))),
    .life (.matchmaking (.setSuccess "ticket_a" "token_a")),
    .life (.hmSetToken "token_a" soloToken), .life (.expireToken "token_a"),
    .life (.readTokenFd "token_a" true), .life .readTokenTicket, .life .deleteToken]

/-- The ticket is gone for good. -/
theorem soloBound_stays
    : (soloAfter boundActions).succeeded = ["ticket_a"]
      ∧ (soloAfter boundActions).life.Intact
      ∧ ∀ actions last, lastingSystem.Run (soloAfter boundActions) actions last →
          "ticket_a" ∉ last.redis.tickets := by
  have run := System.Run.of_replay (· = ({} : HandedLife)) next
    (fun before action _ => before.outlives action) boundActions soloFound soloFound
    (by decide +kernel)
  have reached : lastingSystem.Reachable (soloAfter boundActions) :=
    run.reachable (run_soloFound.reachable (.initial rfl))
  obtain ⟨intact, _, gone, _⟩ := never_resurrected reached
  exact ⟨by decide +kernel, intact, gone "ticket_a" (by decide +kernel) (by decide +kernel)⟩

def expiredActions : List Action :=
  [.life (.matchmaking (.verifyAndSetMatchStatus true true)),
    .life (.matchmaking (.expire "ticket_a"))]

/-- The group is committed, and then the lifetime of its ticket ends. -/
def soloExpired : HandedLife :=
  (replay next (fun _ _ _ => true) soloFound expiredActions).getD soloFound

/-- No process takes the group, and the rollback makes the ticket anew. -/
theorem resurrected_by_rollback
    : ¬∀ state, system.Reachable state →
        ∀ ticketId ∈ state.life.created, ticketId ∉ state.redis.tickets →
          ∀ actions last, system.Run state actions last → ticketId ∉ last.redis.tickets := by
  intro never
  have found : system.Reachable soloFound := (run_soloFound.of_restrict).reachable (.initial rfl)
  have committed := System.Run.of_replay (· = ({} : HandedLife)) next (fun _ _ _ => true)
    expiredActions soloFound soloFound (by decide +kernel)
  have expired : system.Reachable soloExpired := committed.of_restrict.reachable found
  have back := System.Run.of_replay (· = ({} : HandedLife)) next (fun _ _ _ => true)
    [.life (.matchmaking (.distributePlayerGroup {} (fun _ => none) none)),
      .life (.matchmaking .setWaiting)] soloExpired soloFound (by decide +kernel)
  exact never _ expired "ticket_a" (by decide +kernel) (by decide +kernel) _ _ back.of_restrict
    (by decide +kernel)

end HandedLife

end ExtractionServer.Matchmaking
