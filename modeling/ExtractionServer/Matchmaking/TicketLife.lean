import ExtractionServer.Matchmaking.MatchCommit

/-! The life of the keys `ticket_<UUID>`, from the `HSET` of `/match/start` to the `DEL` or the
end of the lifetime, under the commands of all processes.
-/

namespace ExtractionServer.Matchmaking

open Lobby Transition

-----------------------------------------------------------------------------------------
-- Commands
-----------------------------------------------------------------------------------------

/-- Where `BindClientIpToSession` is: it has found the process of a token, or it has also read
the token's ticket.
-/
inductive BindStage where
  | found (token : String)
  | read (token : String) (ticket : Option String)

/-- The matchmaking with the requests that are between two of their commands. -/
structure LifeState where
  server : MatchState
  /-- Requests of `/match/start` that hold the lock. -/
  starting : Table String TicketFields := ∅
  /-- The keys that `/match/start` has made, with the fields that it gave them. -/
  created : Table String TicketFields := ∅
  /-- Requests of `/match/start` whose `EXPIRE` is to come. -/
  expiring : List String := []
  /-- Requests of `/match/status` that have read `SUCCESS`. -/
  polled : List String := []
  binding : Option BindStage := none

namespace LifeState

inductive Action where
  | matchmaking (action : MatchState.Action)
  | setLock (ticketId : String) (fields : TicketFields)
  | hSetTicket (ticketId : String)
  | expireTicket (ticketId : String)
  | readStatus (ticketId : String) (uid : Int)
  | shortenTicket (ticketId : String)
  | hmSetToken (token : String) (hash : TokenHash)
  | expireToken (token : String)
  | endToken (token : String)
  | readTokenFd (token : String) (processFound : Bool)
  | readTokenTicket
  | deleteToken

def setRedis (life : LifeState) (redis : Redis) : LifeState :=
  { life with server := { life.server with redis } }

/-- `EXPIRE`, which does nothing to a key that is gone. -/
def expire (redis : Redis) (ticketId : String) (seconds : Nat) : Redis :=
  { redis with tickets := redis.tickets.adjust ticketId ({ · with ttl := some seconds }) }

/-- One command. -/
def next (life : LifeState) : Action → Option LifeState
  | .matchmaking action =>
      (life.server.next action).map fun server => { life with server }
  | .setLock ticketId fields =>
      let redis := life.server.redis
      -- The id of a ticket is a fresh UUID.
      if ticketId ∉ life.created ∧ ticketId ∉ life.starting then
        if (redis.activeMatch.lookup fields.uid).isSome then some life
        else
          some
            { life.setRedis
                { redis with
                  activeMatch := redis.activeMatch.insert fields.uid (.ticket ticketId) } with
              starting := life.starting.insert ticketId fields }
      else none
  | .hSetTicket ticketId =>
      (life.starting.lookup ticketId).map fun fields =>
        let redis := life.server.redis
        { life.setRedis
            { redis with
              tickets :=
                redis.tickets.insert ticketId
                  { (redis.tickets.lookup ticketId).getD {} with
                    fields := some fields
                    status := some .waiting } } with
          starting := life.starting.erase ticketId
          created := life.created.insert ticketId fields
          expiring := ticketId :: life.expiring }
  | .expireTicket ticketId =>
      if ticketId ∈ life.expiring then
        some
          { life.setRedis (expire life.server.redis ticketId 300) with
            expiring := life.expiring.erase ticketId }
      else none
  | .readStatus ticketId uid =>
      let redis := life.server.redis
      if (redis.fields ticketId).map (·.uid) = some uid
          ∧ redis.status ticketId = some .success
      then some { life with polled := ticketId :: life.polled }
      else some life
  | .shortenTicket ticketId =>
      if ticketId ∈ life.polled then
        some
          { life.setRedis (expire life.server.redis ticketId 60) with
            polled := life.polled.erase ticketId }
      else none
  | .hmSetToken token hash =>
      let redis := life.server.redis
      let ttl := (redis.tokens.lookup token).bind (·.ttl)
      some
        (life.setRedis
          { redis with tokens := redis.tokens.insert token { hash with ttl } })
  | .expireToken token =>
      let redis := life.server.redis
      some
        (life.setRedis
          { redis with tokens := redis.tokens.adjust token ({ · with ttl := some 300 }) })
  | .endToken token =>
      let redis := life.server.redis
      if ((redis.tokens.lookup token).bind (·.ttl)).isSome
      then some (life.setRedis { redis with tokens := redis.tokens.erase token })
      else none
  | .readTokenFd token processFound =>
      if life.binding.isNone then
        if (life.server.redis.tokens.lookup token).isSome && processFound
        then some { life with binding := some (.found token) }
        else some life
      else none
  | .readTokenTicket =>
      match life.binding with
      | some (.found token) =>
          some
            { life with
              binding :=
                some (.read token ((life.server.redis.tokens.lookup token).map (·.ticket))) }
      | _ => none
  | .deleteToken =>
      match life.binding with
      | some (.read token ticket) =>
          let redis := life.server.redis
          let redis := { redis with tokens := redis.tokens.erase token }
          some
            { life.setRedis ((ticket.map redis.delTicket).getD redis) with
              binding := none }
      | _ => none

/-- The main process has just emptied Redis. -/
def fresh : LifeState where
  server := { redis := {}, matchmakers := fun mapId => .new mapId MAX_AGRESSION }

/-- A status that the main process writes outside the commit goes to a ticket that is there. -/
def writesToTicket (life : LifeState) (action : Action) (after : LifeState) : Bool :=
  match action with
  | .matchmaking action => life.server.writesToTicket action after.server
  | _ => true

theorem status_insert_self (ticketId : String) (redis : Redis) (hash : TicketHash)
    : Redis.status { redis with tickets := redis.tickets.insert ticketId hash } ticketId
      = hash.status := by
  simp [Redis.status]

theorem status_insert_ne {ticketId other : String} (ne : other ≠ ticketId) (redis : Redis)
    (hash : TicketHash)
    : Redis.status { redis with tickets := redis.tickets.insert ticketId hash } other
      = redis.status other := by
  rw [Redis.status, AList.lookup_insert_ne ne, Redis.status]

theorem status_expire (redis : Redis) (key : String) (seconds : Nat) (ticketId : String)
    : (LifeState.expire redis key seconds).status ticketId = redis.status ticketId := by
  by_cases same : ticketId = key
  · subst same
    rw [Redis.status, LifeState.expire, Table.lookup_adjust_self, Redis.status]
    cases redis.tickets.lookup ticketId <;> rfl
  · rw [Redis.status, LifeState.expire, Table.lookup_adjust_ne same, Redis.status]

-----------------------------------------------------------------------------------------
-- Tickets descend from tickets
-----------------------------------------------------------------------------------------

/-- Every ticket has been there before, with its creation fields and its lifetime. -/
def Descends (before after : Redis) : Prop :=
  ∀ ticketId hash, after.tickets.lookup ticketId = some hash →
    ∃ old, before.tickets.lookup ticketId = some old ∧ hash.fields = old.fields
      ∧ (old.ttl.isSome → hash.ttl.isSome)

namespace Descends

theorem refl (redis : Redis) : Descends redis redis :=
  fun _ hash found => ⟨hash, found, rfl, id⟩

theorem trans {before middle after : Redis} (first : Descends before middle)
    (second : Descends middle after)
    : Descends before after := by
  intro ticketId hash found
  obtain ⟨old, found, fields, ttl⟩ := second ticketId hash found
  obtain ⟨older, found, fields', ttl'⟩ := first ticketId old found
  exact ⟨older, found, fields.trans fields', ttl ∘ ttl'⟩

theorem of_tickets {before after : Redis} (same : after.tickets = before.tickets)
    : Descends before after :=
  fun _ hash found => ⟨hash, same ▸ found, rfl, id⟩

theorem of_erase {before after : Redis} {ticketId : String}
    (tickets : after.tickets = before.tickets.erase ticketId)
    : Descends before after := by
  intro other hash found
  rw [tickets] at found
  obtain ⟨ne, _⟩ := AList.mem_erase.mp (Table.mem_of_lookup found)
  rw [AList.lookup_erase_ne ne] at found
  exact ⟨hash, found, rfl, id⟩

/-- A hash that is there is updated. -/
theorem of_update {before after : Redis} {ticketId : String} {old new : TicketHash}
    (found : before.tickets.lookup ticketId = some old)
    (tickets : after.tickets = before.tickets.insert ticketId new)
    (fields : new.fields = old.fields) (ttl : new.ttl = old.ttl)
    : Descends before after := by
  intro other hash foundOther
  rw [tickets] at foundOther
  by_cases same : other = ticketId
  · subst same
    rw [AList.lookup_insert] at foundOther
    cases foundOther
    exact ⟨old, found, fields, fun some => ttl ▸ some⟩
  · rw [AList.lookup_insert_ne same] at foundOther
    exact ⟨hash, foundOther, rfl, id⟩

theorem setStatus {redis : Redis} {ticketId : String} (known : ticketId ∈ redis.tickets)
    (status : TicketStatus)
    : Descends redis (redis.setStatus ticketId status) := by
  obtain ⟨old, found⟩ := Table.exists_lookup_of_mem known
  refine of_update found rfl ?_ ?_ <;> rw [found] <;> rfl

theorem setSuccess {redis : Redis} {ticketId : String} (known : ticketId ∈ redis.tickets)
    (token : String)
    : Descends redis (redis.setSuccess ticketId token) := by
  obtain ⟨old, found⟩ := Table.exists_lookup_of_mem known
  refine of_update found rfl ?_ ?_ <;> rw [found] <;> rfl

/-- A group of tickets that are there gets a status, by induction on the group. -/
theorem foldl_setStatus {keys : List String} {redis : Redis}
    (known : ∀ key ∈ keys, key ∈ redis.tickets) (status : TicketStatus)
    : Descends redis (keys.foldl (·.setStatus · status) redis) := by
  induction keys generalizing redis with
  | nil => exact .refl redis
  | cons key rest ih =>
      refine (setStatus (known key List.mem_cons_self) status).trans (ih fun other mem => ?_)
      exact (AList.mem_insert _).mpr (.inr (known other (List.mem_cons_of_mem _ mem)))

/-- Tickets are deleted, by induction on the keys. -/
theorem delTickets (keys : List String) (redis : Redis)
    : Descends redis (keys.foldl Redis.delTicket redis) := by
  induction keys generalizing redis with
  | nil => exact .refl redis
  | cons key rest ih => exact (of_erase rfl).trans (ih (redis.delTicket key))

theorem takeover {before after : Redis} {uid : Int} {detail : Redis.TakeoverDetail}
    (taken : before.Takeover uid after detail)
    : Descends before after := by
  cases taken with
  | refused _ => exact .refl before
  | unlocked tickets _ => exact .of_tickets tickets
  | dropped _ _ tickets _ => exact .of_tickets tickets
  | cancelled _ _ tickets _ => exact .of_erase tickets

/-- `EXPIRE` gives a lifetime to a ticket that is there. -/
theorem expire (redis : Redis) (ticketId : String) (seconds : Nat)
    : Descends redis (LifeState.expire redis ticketId seconds) := by
  intro other hash found
  by_cases same : other = ticketId
  · subst same
    rw [LifeState.expire, Table.lookup_adjust_self] at found
    obtain ⟨old, there, rfl⟩ := Option.map_eq_some_iff.mp found
    exact ⟨old, there, rfl, fun _ => rfl⟩
  · rw [LifeState.expire, Table.lookup_adjust_ne same] at found
    exact ⟨hash, found, rfl, id⟩

end Descends

/-- The matchmaking makes no ticket when it writes to those that are there. -/
theorem descends_of_writes {before after : Redis}
    (writes : MatchState.Writes (fun _ => True) before after)
    : Descends before after := by
  cases writes with
  | nothing => exact .refl before
  | @commit keys _ =>
      rcases before.commitGroup_cases keys .inProgress with ⟨waiting, result⟩ | ⟨_, result⟩
      · rw [result]
        refine .foldl_setStatus (fun key mem => ?_) .inProgress
        obtain ⟨hash, found, _⟩ := Redis.status_eq_some (waiting key mem)
        exact Table.mem_of_lookup found
      · rw [result]
        exact .refl before
  | setWaiting known => exact .setStatus known .waiting
  | delete keys => exact .delTickets keys before
  | matchCancel ticketId reqUid =>
      rcases before.matchCancel_cases ticketId reqUid with ⟨_, result⟩ | ⟨result, _⟩
      · rw [result]
        exact .of_erase rfl
      · rw [result]
        exact .refl before
  | loginTakeover newSessKey session =>
      exact .takeover (before.loginTakeover_cases newSessKey session)
  | setInGame ticketId =>
      refine .of_tickets ?_
      unfold Redis.setInGame
      split <;> rfl
  | setSuccess known _ token => exact .setSuccess known token

-----------------------------------------------------------------------------------------
-- Intact tickets
-----------------------------------------------------------------------------------------

/-- Every ticket has the fields of its creation, and a lifetime unless the request that made
it is about to give it one.
-/
structure Intact (life : LifeState) : Prop where
  ticket : ∀ ticketId hash, life.server.redis.tickets.lookup ticketId = some hash →
    ∃ fields, life.created.lookup ticketId = some fields ∧ hash.fields = some fields
      ∧ (hash.ttl.isSome ∨ ticketId ∈ life.expiring)
  starting : ∀ ticketId ∈ life.starting, ticketId ∉ life.created

/-- A step makes a key only for a request of `/match/start` that holds the lock. -/
structure Steps (before after : LifeState) : Prop where
  intact : after.Intact
  created : ∀ ticketId ∈ before.created, ticketId ∈ after.created
  gone : ∀ ticketId ∈ before.created, ticketId ∉ before.server.redis.tickets →
    ticketId ∉ after.server.redis.tickets

variable {life : LifeState}

/-- A step that makes no ticket and ends no creation. -/
theorem Intact.of_descends (h : life.Intact) {after : LifeState}
    (descends : Descends life.server.redis after.server.redis)
    (starting : ∀ ticketId ∈ after.starting,
      ticketId ∈ life.starting ∨ ticketId ∉ life.created)
    (created : after.created = life.created) (expiring : after.expiring = life.expiring)
    : life.Steps after := by
  refine ⟨⟨fun ticketId hash found => ?_, fun ticketId mem => ?_⟩, fun ticketId mem => ?_,
    fun ticketId _ gone mem => ?_⟩
  · obtain ⟨old, foundOld, fields, ttl⟩ := descends ticketId hash found
    obtain ⟨creation, known, same, lifetime⟩ := h.ticket ticketId old foundOld
    rw [created, expiring]
    exact ⟨creation, known, fields.trans same, lifetime.imp_left ttl⟩
  · rw [created]
    rcases starting ticketId mem with old | new
    · exact h.starting ticketId old
    · exact new
  · rwa [created]
  · obtain ⟨hash, found⟩ := Table.exists_lookup_of_mem mem
    obtain ⟨old, foundOld, _⟩ := descends ticketId hash found
    exact gone (Table.mem_of_lookup foundOld)

/-- The `HSET` of a creation, on a key that has never been there. -/
theorem Intact.hSetTicket (h : life.Intact) {ticketId : String} {fields : TicketFields}
    (started : life.starting.lookup ticketId = some fields)
    : life.Steps
        { life.setRedis
            { life.server.redis with
              tickets :=
                life.server.redis.tickets.insert ticketId
                  { (life.server.redis.tickets.lookup ticketId).getD {} with
                    fields := some fields
                    status := some .waiting } } with
          starting := life.starting.erase ticketId
          created := life.created.insert ticketId fields
          expiring := ticketId :: life.expiring } := by
  have unused := h.starting ticketId (Table.mem_of_lookup started)
  refine ⟨⟨fun other hash found => ?_, fun other mem => ?_⟩, fun other mem => ?_,
    fun other known gone mem => ?_⟩
  · by_cases same : other = ticketId
    · subst same
      have hashIs : _ = hash := Option.some.inj ((AList.lookup_insert _).symm.trans found)
      rw [← hashIs]
      exact ⟨fields, AList.lookup_insert _, rfl, .inr List.mem_cons_self⟩
    · obtain ⟨creation, known, fieldsIs, lifetime⟩ :=
        h.ticket other hash ((AList.lookup_insert_ne same).symm.trans found)
      exact ⟨creation, (AList.lookup_insert_ne same).trans known, fieldsIs,
        lifetime.imp_right (List.mem_cons_of_mem _)⟩
  · obtain ⟨ne, old⟩ := AList.mem_erase.mp mem
    intro created
    rcases (AList.mem_insert _).mp created with same | created
    · exact ne same
    · exact h.starting other old created
  · exact (AList.mem_insert _).mpr (.inr mem)
  · rcases (AList.mem_insert _).mp mem with rfl | mem
    · exact unused known
    · exact gone mem

/-- The `EXPIRE` of a creation. -/
theorem Intact.expireTicket (h : life.Intact) {ticketId : String}
    : life.Steps
        { life.setRedis (expire life.server.redis ticketId 300) with
          expiring := life.expiring.erase ticketId } := by
  have descends := Descends.expire life.server.redis ticketId 300
  refine ⟨⟨fun other hash found => ?_, h.starting⟩, fun _ => id,
    fun other _ gone mem => ?_⟩
  · obtain ⟨old, foundOld, fieldsIs, ttl⟩ := descends other hash found
    obtain ⟨creation, known, same, lifetime⟩ := h.ticket other old foundOld
    refine ⟨creation, known, fieldsIs.trans same, ?_⟩
    by_cases self : other = ticketId
    · subst self
      have expired : (expire life.server.redis other 300).tickets.lookup other = some hash :=
        found
      rw [expire, Table.lookup_adjust_self, foundOld] at expired
      cases expired
      exact .inl rfl
    · exact lifetime.imp ttl (List.mem_erase_of_ne self).mpr
  · obtain ⟨hash, found⟩ := Table.exists_lookup_of_mem mem
    obtain ⟨old, foundOld, _⟩ := descends other hash found
    exact gone (Table.mem_of_lookup foundOld)

/-- Every step that writes no status to a ticket that is gone. -/
theorem Intact.next (h : life.Intact) {action : Action} {after : LifeState}
    (step : life.next action = some after)
    (allowed : life.writesToTicket action after = true)
    : life.Steps after := by
  cases action with
  | matchmaking action =>
      obtain ⟨server, moved, rfl⟩ := Option.map_eq_some_iff.mp step
      have writes : MatchState.Writes (fun _ => True) life.server.redis server.redis :=
        MatchState.next_writes moved allowed (fun _ _ _ _ _ _ _ _ _ => trivial)
          fun _ _ _ => trivial
      exact h.of_descends (descends_of_writes writes) (fun _ => .inl) rfl rfl
  | setLock ticketId fields =>
      simp only [LifeState.next] at step
      split at step
      · next fresh =>
          split at step
          · cases step
            exact h.of_descends (.refl _) (fun _ => .inl) rfl rfl
          · cases step
            refine h.of_descends (.of_tickets rfl) (fun other mem => ?_) rfl rfl
            rcases (AList.mem_insert _).mp mem with rfl | mem
            · exact .inr fresh.1
            · exact .inl mem
      · cases step
  | hSetTicket ticketId =>
      obtain ⟨fields, started, rfl⟩ := Option.map_eq_some_iff.mp step
      exact h.hSetTicket started
  | expireTicket ticketId =>
      simp only [LifeState.next] at step
      split at step
      · cases step
        exact h.expireTicket
      · cases step
  | readStatus ticketId uid =>
      simp only [LifeState.next] at step
      split at step <;> cases step <;> exact h.of_descends (.refl _) (fun _ => .inl) rfl rfl
  | shortenTicket ticketId =>
      simp only [LifeState.next] at step
      split at step
      · cases step
        exact h.of_descends (.expire _ ticketId 60) (fun _ => .inl) rfl rfl
      · cases step
  | hmSetToken token hash =>
      cases step
      exact h.of_descends (.of_tickets rfl) (fun _ => .inl) rfl rfl
  | expireToken token =>
      cases step
      exact h.of_descends (.of_tickets rfl) (fun _ => .inl) rfl rfl
  | endToken token =>
      simp only [LifeState.next] at step
      split at step
      · cases step
        exact h.of_descends (.of_tickets rfl) (fun _ => .inl) rfl rfl
      · cases step
  | readTokenFd token processFound =>
      simp only [LifeState.next] at step
      split at step
      · split at step <;> cases step <;> exact h.of_descends (.refl _) (fun _ => .inl) rfl rfl
      · cases step
  | readTokenTicket =>
      simp only [LifeState.next] at step
      split at step
      · cases step
        exact h.of_descends (.refl _) (fun _ => .inl) rfl rfl
      · cases step
  | deleteToken =>
      simp only [LifeState.next] at step
      split at step
      · next token ticket _ =>
          cases step
          refine h.of_descends ?_ (fun _ => .inl) rfl rfl
          cases ticket with
          | none => exact .of_tickets rfl
          | some ticketId => exact .of_erase rfl
      · cases step

theorem Intact.fresh : Intact .fresh where
  ticket ticketId hash found := by cases found
  starting ticketId mem := absurd mem (AList.notMem_empty ticketId)

/-- What `/match/start` writes for account 1. -/
def soloFields : TicketFields where
  uid := 1
  userId := "alpha"
  rating := 1500
  aggression := 5
  loadoutType := .free
  mapId := 1
  characterType := 0

end LifeState

end ExtractionServer.Matchmaking
