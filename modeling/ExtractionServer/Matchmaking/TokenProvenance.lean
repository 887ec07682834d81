import ExtractionServer.Matchmaking.EntryTokens
import ExtractionServer.Matchmaking.StrandedGroups

/-! Where entry tokens come from: whatever a request, a Redis key, an answer or a binding says
about a token goes back to the process that issued it for a session.
-/

namespace ExtractionServer.Matchmaking

open Lobby Room Transition

-----------------------------------------------------------------------------------------
-- Commands that bring no token
-----------------------------------------------------------------------------------------

/-- Nothing new about tokens, and no creation fields that were not there. -/
structure Unissued (before after : Redis) : Prop where
  fields : ∀ ticketId fields, after.fields ticketId = some fields →
    before.fields ticketId = some fields
  tickets : ∀ ticketId token, EntryState.ticketToken after ticketId = some token →
    EntryState.ticketToken before ticketId = some token
  tokens : ∀ token hash, after.tokens.lookup token = some hash →
    ∃ old ttl, before.tokens.lookup token = some old ∧ hash = { old with ttl }

namespace Unissued

variable {before middle after redis : Redis}

theorem of_same (tickets : after.tickets = before.tickets)
    (tokens : after.tokens = before.tokens)
    : Unissued before after where
  fields ticketId fields created := by
    rwa [Redis.fields, tickets] at created
  tickets ticketId token known := by
    rwa [EntryState.ticketToken, tickets] at known
  tokens token hash known := ⟨hash, hash.ttl, tokens ▸ known, rfl⟩

theorem refl (redis : Redis) : Unissued redis redis := of_same rfl rfl

theorem trans (first : Unissued before middle) (second : Unissued middle after)
    : Unissued before after where
  fields ticketId fields created :=
    first.fields ticketId fields (second.fields ticketId fields created)
  tickets ticketId token known :=
    first.tickets ticketId token (second.tickets ticketId token known)
  tokens token hash known := by
    obtain ⟨between, ttl, there, rfl⟩ := second.tokens token hash known
    obtain ⟨old, earlier, was, rfl⟩ := first.tokens token between there
    exact ⟨old, ttl, was, rfl⟩

/-- A ticket that is updated keeps its fields and its token. -/
theorem of_insert {ticketId : String} {new : TicketHash}
    (tickets : after.tickets = before.tickets.insert ticketId new)
    (fields : new.fields = before.fields ticketId)
    (token : new.token = EntryState.ticketToken before ticketId)
    (tokens : after.tokens = before.tokens)
    : Unissued before after where
  fields other created found := by
    obtain ⟨hash, there, own⟩ := Option.bind_eq_some_iff.mp found
    rw [tickets] at there
    rcases Table.lookup_insert_cases there with ⟨rfl, rfl⟩ | ⟨-, old⟩
    · rw [← fields]
      exact own
    · exact Option.bind_eq_some_iff.mpr ⟨hash, old, own⟩
  tickets other known found := by
    obtain ⟨hash, there, own⟩ := Option.bind_eq_some_iff.mp found
    rw [tickets] at there
    rcases Table.lookup_insert_cases there with ⟨rfl, rfl⟩ | ⟨-, old⟩
    · rw [← token]
      exact own
    · exact Option.bind_eq_some_iff.mpr ⟨hash, old, own⟩
  tokens other hash known := ⟨hash, hash.ttl, tokens ▸ known, rfl⟩

/-- What leads from one command to the next, by induction on the keys. -/
theorem foldl {f : Redis → String → Redis} (one : ∀ redis key, Unissued redis (f redis key))
    (keys : List String) (redis : Redis)
    : Unissued redis (keys.foldl f redis) := by
  induction keys generalizing redis with
  | nil => exact .refl redis
  | cons key rest ih => exact (one redis key).trans (ih (f redis key))

theorem setStatus (redis : Redis) (ticketId : String) (status : TicketStatus)
    : Unissued redis (redis.setStatus ticketId status) := by
  refine @of_insert _ _ ticketId _ rfl ?_ ?_ rfl
  · cases found : redis.tickets.lookup ticketId <;> simp [Redis.fields, found]
  · cases found : redis.tickets.lookup ticketId <;> simp [EntryState.ticketToken, found]

theorem of_erase {ticketId : String}
    (tickets : after.tickets = before.tickets.erase ticketId)
    (tokens : after.tokens = before.tokens)
    : Unissued before after where
  fields other created found := by
    obtain ⟨hash, there, own⟩ := Option.bind_eq_some_iff.mp found
    rw [tickets] at there
    exact Option.bind_eq_some_iff.mpr ⟨hash, (Table.lookup_erase_cases there).2, own⟩
  tickets other known found := by
    obtain ⟨hash, there, own⟩ := Option.bind_eq_some_iff.mp found
    rw [tickets] at there
    exact Option.bind_eq_some_iff.mpr ⟨hash, (Table.lookup_erase_cases there).2, own⟩
  tokens other hash known := ⟨hash, hash.ttl, tokens ▸ known, rfl⟩

theorem delTicket (redis : Redis) (ticketId : String)
    : Unissued redis (redis.delTicket ticketId) :=
  of_erase rfl rfl

theorem expire (redis : Redis) (ticketId : String) (seconds : Nat)
    : Unissued redis (LifeState.expire redis ticketId seconds) where
  fields other created found := by
    obtain ⟨hash, there, own⟩ := Option.bind_eq_some_iff.mp found
    rcases Table.lookup_adjust_cases there with ⟨rfl, old, was, rfl⟩ | ⟨-, was⟩
    · exact Option.bind_eq_some_iff.mpr ⟨old, was, own⟩
    · exact Option.bind_eq_some_iff.mpr ⟨hash, was, own⟩
  tickets other known found := by
    obtain ⟨hash, there, own⟩ := Option.bind_eq_some_iff.mp found
    rcases Table.lookup_adjust_cases there with ⟨rfl, old, was, rfl⟩ | ⟨-, was⟩
    · exact Option.bind_eq_some_iff.mpr ⟨old, was, own⟩
    · exact Option.bind_eq_some_iff.mpr ⟨hash, was, own⟩
  tokens _ hash known := ⟨hash, hash.ttl, known, rfl⟩

theorem delToken (redis : Redis) (token : String)
    : Unissued redis { redis with tokens := redis.tokens.erase token } where
  fields _ _ found := found
  tickets _ _ found := found
  tokens _ hash known := ⟨hash, hash.ttl, (Table.lookup_erase_cases known).2, rfl⟩

theorem expireToken (redis : Redis) (token : String) (ttl : Option Nat)
    : Unissued redis
        { redis with tokens := redis.tokens.adjust token ({ · with ttl }) } where
  fields _ _ found := found
  tickets _ _ found := found
  tokens _ hash known := by
    rcases Table.lookup_adjust_cases known with ⟨rfl, old, was, rfl⟩ | ⟨-, was⟩
    · exact ⟨old, ttl, was, rfl⟩
    · exact ⟨hash, hash.ttl, was, rfl⟩

theorem matchCancel (redis : Redis) (ticketId : String) (reqUid : Int)
    : Unissued redis (redis.matchCancel ticketId reqUid).1 := by
  rcases redis.matchCancel_cases ticketId reqUid with ⟨-, result⟩ | ⟨result, -⟩
  · rw [result]
    exact delTicket redis ticketId
  · rw [result]
    exact .refl redis

theorem loginTakeover (redis : Redis) (newSessKey : String) (session : SessionHash)
    : Unissued redis (redis.loginTakeover newSessKey session).1 := by
  unfold Redis.loginTakeover
  dsimp only
  split
  · exact of_same rfl rfl
  · exact .refl redis
  · split
    · exact of_erase rfl rfl
    · exact .refl redis
    · exact of_same rfl rfl

/-- The matchmaking writes no token but that of the one `HMSET`. -/
theorem of_matchmaking {state after : MatchState} {action : MatchState.Action}
    (own : EntryState.ownCommand (.matchmaking action) = false)
    (step : state.next action = some after)
    : Unissued state.redis after.redis := by
  cases action with
  | addSingleMatchTicket mapId ptr ticket =>
      simp only [MatchState.next] at step
      split at step
      · split at step <;> cases step
        exact .refl _
      · cases step
  | startMatchMake mapId clock =>
      simp only [MatchState.next] at step
      split at step <;> cases step
      exact .refl _
  | verifyAndSetMatchStatus runs answered =>
      simp only [MatchState.next] at step
      split at step
      · next mapId group pending _ =>
          cases step
          unfold MatchState.verifyAndSetMatchStatus
          split
          · exact .refl _
          · rcases state.redis.commitGroup_cases (state.keys mapId group) .inProgress with
              ⟨-, result⟩ | ⟨-, result⟩
            · rw [result]
              exact foldl (fun redis key => setStatus redis key .inProgress) _ _
            · rw [result]
              exact .refl _
      · cases step
  | distributePlayerGroup manager hgetall fork => cases own
  | setWaiting =>
      simp only [MatchState.next] at step
      split at step <;> cases step
      exact setStatus _ _ .waiting
  | readStatus =>
      simp only [MatchState.next] at step
      split at step <;> cases step
      exact .refl _
  | nextGroup =>
      simp only [MatchState.next] at step
      split at step <;> cases step <;> exact .refl _
  | releaseAndDeleteTickets deletes =>
      simp only [MatchState.next] at step
      split at step
      · cases step
        dsimp only
        split
        · exact foldl delTicket _ _
        · exact .refl _
      · cases step
  | matchCancel ticketId reqUid =>
      cases step
      exact matchCancel _ ticketId reqUid
  | loginTakeover newSessKey session =>
      cases step
      exact loginTakeover _ newSessKey session
  | expire ticketId =>
      simp only [MatchState.next] at step
      split at step <;> cases step
      exact delTicket _ _
  | setInGame ticketId => cases own
  | setSuccess ticketId token => cases own

end Unissued

-----------------------------------------------------------------------------------------
-- Tickets and their creation
-----------------------------------------------------------------------------------------

namespace LifeState

/-- The fields of a ticket are those that it was created with, and what is about to be created
is new.
-/
structure FieldsKept (life : LifeState) : Prop where
  fields : ∀ ticketId fields, life.server.redis.fields ticketId = some fields →
    life.created.lookup ticketId = some fields
  starting : ∀ ticketId ∈ life.starting, ticketId ∉ life.created

/-- What a command that issues no token does. -/
structure Issueless (before after : LifeState) : Prop where
  kept : after.FieldsKept
  created : ∀ ticketId fields, before.created.lookup ticketId = some fields →
    after.created.lookup ticketId = some fields
  tickets : ∀ ticketId token,
    EntryState.ticketToken after.server.redis ticketId = some token →
      EntryState.ticketToken before.server.redis ticketId = some token
  tokens : ∀ token hash, after.server.redis.tokens.lookup token = some hash →
    ∃ old ttl, before.server.redis.tokens.lookup token = some old ∧ hash = { old with ttl }

variable {life before after : LifeState}

theorem FieldsKept.of_unissued (h : before.FieldsKept)
    (unissued : Unissued before.server.redis after.server.redis)
    (starting : ∀ ticketId ∈ after.starting,
      ticketId ∈ before.starting ∨ ticketId ∉ before.created)
    (created : after.created = before.created)
    : Issueless before after where
  kept :=
    { fields := fun ticketId fields known =>
        created ▸ h.fields ticketId fields (unissued.fields ticketId fields known)
      starting := fun ticketId mem => by
        rw [created]
        rcases starting ticketId mem with old | new
        · exact h.starting ticketId old
        · exact new }
  created _ _ known := created ▸ known
  tickets := unissued.tickets
  tokens := unissued.tokens

/-- The `HSET` of a creation. -/
theorem FieldsKept.hSetTicket (h : life.FieldsKept) {ticketId : String}
    {fields : TicketFields} (started : life.starting.lookup ticketId = some fields)
    (step : life.next (.hSetTicket ticketId) = some after)
    : Issueless life after := by
  obtain ⟨creation, again, rfl⟩ := Option.map_eq_some_iff.mp step
  cases started.symm.trans again
  have unused := h.starting ticketId (Table.mem_of_lookup started)
  refine ⟨⟨fun other known found => ?_, fun other mem => ?_⟩, fun other known found => ?_,
    fun other token found => ?_, fun token hash found => ⟨hash, hash.ttl, found, rfl⟩⟩
  · obtain ⟨hash, there, own⟩ := Option.bind_eq_some_iff.mp found
    rcases Table.lookup_insert_cases there with ⟨rfl, rfl⟩ | ⟨ne, was⟩
    · cases own
      exact AList.lookup_insert _
    · exact (AList.lookup_insert_ne ne).trans
        (h.fields other known (Option.bind_eq_some_iff.mpr ⟨hash, was, own⟩))
  · obtain ⟨ne, old⟩ := AList.mem_erase.mp mem
    intro created
    rcases (AList.mem_insert _).mp created with same | created
    · exact ne same
    · exact h.starting other old created
  · have ne : other ≠ ticketId := by
      rintro rfl
      exact unused (Table.mem_of_lookup found)
    exact (AList.lookup_insert_ne ne).trans found
  · obtain ⟨hash, there, own⟩ := Option.bind_eq_some_iff.mp found
    rcases Table.lookup_insert_cases there with ⟨rfl, rfl⟩ | ⟨ne, was⟩
    · cases old : life.server.redis.tickets.lookup other with
      | none =>
          rw [old] at own
          cases own
      | some hash =>
          rw [old] at own
          exact Option.bind_eq_some_iff.mpr ⟨hash, old, own⟩
    · exact Option.bind_eq_some_iff.mpr ⟨hash, was, own⟩

/-- Every command that is about no token. -/
theorem FieldsKept.next (h : life.FieldsKept) {action : Action}
    (own : EntryState.ownCommand action = false) (step : life.next action = some after)
    : Issueless life after := by
  have idle {later : LifeState} (redis : later.server.redis = life.server.redis)
      (starting : later.starting = life.starting) (created : later.created = life.created)
      : Issueless life later :=
    h.of_unissued (redis ▸ .refl _) (fun _ mem => .inl (starting ▸ mem)) created
  cases action with
  | matchmaking action =>
      obtain ⟨server, moved, rfl⟩ := Option.map_eq_some_iff.mp step
      exact h.of_unissued (.of_matchmaking own moved) (fun _ => .inl) rfl
  | setLock ticketId fields =>
      simp only [LifeState.next] at step
      split at step
      · next fresh =>
          split at step <;> cases step
          · exact idle rfl rfl rfl
          · refine h.of_unissued (.of_same rfl rfl) (fun other mem => ?_) rfl
            rcases (AList.mem_insert _).mp mem with rfl | mem
            · exact .inr fresh.1
            · exact .inl mem
      · cases step
  | hSetTicket ticketId =>
      obtain ⟨fields, started, -⟩ := Option.map_eq_some_iff.mp step
      exact h.hSetTicket started step
  | expireTicket ticketId =>
      simp only [LifeState.next] at step
      split at step <;> cases step
      exact h.of_unissued (.expire _ ticketId 300) (fun _ => .inl) rfl
  | readStatus ticketId uid => cases own
  | shortenTicket ticketId =>
      simp only [LifeState.next] at step
      split at step <;> cases step
      exact h.of_unissued (.expire _ ticketId 60) (fun _ => .inl) rfl
  | hmSetToken token hash => cases own
  | expireToken token => cases own
  | endToken token =>
      simp only [LifeState.next] at step
      split at step <;> cases step
      exact h.of_unissued (.delToken _ token) (fun _ => .inl) rfl
  | readTokenFd token processFound => cases own
  | readTokenTicket =>
      simp only [LifeState.next] at step
      split at step <;> cases step
      exact idle rfl rfl rfl
  | deleteToken =>
      simp only [LifeState.next] at step
      split at step
      · next token ticket _ =>
          cases step
          refine h.of_unissued ?_ (fun _ => .inl) rfl
          cases ticket with
          | none => exact .delToken _ token
          | some ticketId => exact (Unissued.delToken _ token).trans (.delTicket _ ticketId)
      · cases step

end LifeState

-----------------------------------------------------------------------------------------
-- Packets for groups
-----------------------------------------------------------------------------------------

/-- Every player of a packet is read from a hash with the player's account, by induction on the
group.
-/
theorem mem_makePlayerInfos {hgetall : TicketReads} {group : List MatchTicket}
    {infos : List PlayerInfo} (made : makePlayerInfos hgetall group = some infos)
    {info : PlayerInfo} (mem : info ∈ infos)
    : ∃ hash fields, hgetall info.ticketId = some hash ∧ hash.fields = some fields
      ∧ info.uid = fields.uid := by
  induction group generalizing infos with
  | nil =>
      cases made
      cases mem
  | cons ticket group ih =>
      simp only [makePlayerInfos] at made
      split at made
      · exact ih made mem
      · next hash found =>
          split at made
          · next fields rest creation others =>
              cases made
              rcases List.mem_cons.mp mem with rfl | later
              · exact ⟨hash, fields, found, creation, rfl⟩
              · exact ih others later
          · cases made

/-- The players of a packet have the accounts of their tickets. -/
def AccountsOf (created : Table String TicketFields) (pkt : M2DMakeRoomForThisGroup) : Prop :=
  ∀ info ∈ pkt.playerInfos, (created.lookup info.ticketId).map (·.uid) = some info.uid

theorem accountsOf_groupPacket {created : Table String TicketFields} {hgetall : TicketReads}
    {group : List MatchTicket} {pkt : M2DMakeRoomForThisGroup}
    (reads : ∀ ticketId hash fields, hgetall ticketId = some hash →
      hash.fields = some fields → created.lookup ticketId = some fields)
    (made : groupPacket hgetall group = some pkt)
    : AccountsOf created pkt := by
  cases group with
  | nil => cases made
  | cons first rest =>
      obtain ⟨infos, players, rfl⟩ := Option.map_eq_some_iff.mp made
      intro info mem
      obtain ⟨hash, fields, found, creation, uid⟩ := mem_makePlayerInfos players mem
      rw [reads info.ticketId hash fields found creation, uid]
      rfl

/-- All packets that have been or will be sent to dedicated processes. -/
def DediManager.AllPackets (manager : DediManager) (P : M2DMakeRoomForThisGroup → Prop)
    : Prop :=
  ∀ pid session, manager.dediSessions.lookup pid = some session →
    ∀ pkt ∈ session.sent ++ session.tempMatchPkts, P pkt

namespace DediManager.AllPackets

variable {manager after : DediManager} {P : M2DMakeRoomForThisGroup → Prop}

theorem adjust (h : manager.AllPackets P) {pid : Int} {f : M2DSession → M2DSession}
    (sessions : after.dediSessions = manager.dediSessions.adjust pid f)
    (goes : ∀ session, manager.dediSessions.lookup pid = some session →
      ∀ pkt ∈ (f session).sent ++ (f session).tempMatchPkts,
        pkt ∈ session.sent ++ session.tempMatchPkts ∨ P pkt)
    : after.AllPackets P := by
  intro other session found pkt mem
  rw [sessions] at found
  rcases Table.lookup_adjust_cases found with ⟨rfl, old, was, rfl⟩ | ⟨-, was⟩
  · exact (goes old was pkt mem).elim (h other old was pkt) id
  · exact h other session was pkt mem

theorem spawnSingleServer (h : manager.AllPackets P) (fork : Option Int)
    : (manager.spawnSingleServer fork).1.AllPackets P := by
  cases fork with
  | none => exact h
  | some pid =>
      intro other session found pkt mem
      rcases Table.lookup_insert_cases found with ⟨rfl, rfl⟩ | ⟨-, was⟩
      · cases mem
      · exact h other session was pkt mem

theorem distributePlayerGroupTo (h : manager.AllPackets P) {hgetall : TicketReads}
    {ticketVec : List MatchTicket} {pid : Int} {allocated : Bool}
    (packet : ∀ pkt, groupPacket hgetall ticketVec = some pkt → P pkt)
    (step : manager.distributePlayerGroupTo hgetall ticketVec pid = some (after, allocated))
    : after.AllPackets P := by
  unfold DediManager.distributePlayerGroupTo at step
  split at step
  · cases step
    exact h
  · next session found =>
      obtain ⟨⟨later, accepted⟩, returned, result⟩ := Option.map_eq_some_iff.mp step
      cases result
      refine h.adjust (f := fun _ => later) rfl fun old was pkt mem => ?_
      cases found.symm.trans was
      rcases M2DSession.allocatePlayers_cases returned with
        ⟨-, rfl⟩ | ⟨-, -, made, isPacket, -, -, -, -, packets⟩
      · exact .inl mem
      · rw [packets] at mem
        rcases List.mem_append.mp mem with before | new
        · exact .inl before
        · exact .inr (List.mem_singleton.mp new ▸ packet made isPacket)

/-- The loop over the sessions, by induction on the pids. -/
theorem findAvailableSession (h : manager.AllPackets P) {hgetall : TicketReads}
    {ticketVec : List MatchTicket} {pids : List Int} {allocated : Bool}
    (packet : ∀ pkt, groupPacket hgetall ticketVec = some pkt → P pkt)
    (step : DediManager.findAvailableSession hgetall ticketVec pids manager
      = some (after, allocated))
    : after.AllPackets P := by
  induction pids generalizing manager with
  | nil =>
      cases step
      exact h
  | cons pid rest ih =>
      simp only [DediManager.findAvailableSession] at step
      split at step
      · cases step
      · next taken =>
          cases step
          exact h.distributePlayerGroupTo packet taken
      · next refused => exact ih (h.distributePlayerGroupTo packet refused) step

theorem distributePlayerGroup (h : manager.AllPackets P) {hgetall : TicketReads}
    {fork : Option Int} {ticketVec : List MatchTicket} {allocated : Bool}
    (packet : ∀ pkt, groupPacket hgetall ticketVec = some pkt → P pkt)
    (step : manager.distributePlayerGroup hgetall fork ticketVec = some (after, allocated))
    : after.AllPackets P := by
  unfold DediManager.distributePlayerGroup at step
  split at step
  · cases step
  · next found =>
      cases step
      exact h.findAvailableSession packet found
  · next middle refused =>
      have spawned := (h.findAvailableSession packet refused).spawnSingleServer fork
      split at step
      · next spawn =>
          cases step
          rwa [spawn] at spawned
      · next spawn =>
          rw [spawn] at spawned
          exact spawned.distributePlayerGroupTo packet step

theorem finalizeConnection (h : manager.AllPackets P) (pid fd : Int)
    : (manager.finalizeConnection pid fd).1.AllPackets P := by
  unfold DediManager.finalizeConnection
  split
  · exact h.adjust (f := (·.bindSocket fd)) rfl fun _ _ _ mem => .inl mem
  · exact h

end DediManager.AllPackets

-----------------------------------------------------------------------------------------
-- What the parts of the state say
-----------------------------------------------------------------------------------------

/-- Something about a token: an entry on its way, the token of a ticket, the hash of a token, a
session that takes it, or an account that has been told it.
-/
inductive Fact where
  | entry (port : Int) (entry : EntryToken)
  | ticket (ticketId token : String)
  | hash (token : String) (hash : TokenHash)
  | session (pid : Int) (token : String) (sessionId : Nat) (account : Option Int)
  | handed (uid : Int) (token : String)

namespace Issue

/-- A hash leads to the session of an issue. -/
structure Describes (issue : Issue) (hash : TokenHash) : Prop where
  port : hash.port = issue.port
  sessionId : hash.sessionId = issue.entry.sessionId
  securityKey : hash.securityKey = issue.entry.securityKey.toInt
  ticket : hash.ticket = issue.entry.ticketId

def Backs (issue : Issue) : Fact → Prop
  | .entry port entry => issue.port = port ∧ issue.entry = entry
  | .ticket ticketId token =>
      issue.entry.ticketId = ticketId ∧ issue.entry.entryToken = token
  | .hash token hash => issue.entry.entryToken = token ∧ issue.Describes hash
  | .session pid token sessionId account =>
      issue.pid = pid ∧ issue.entry.entryToken = token ∧ issue.entry.sessionId = sessionId
        ∧ account = some issue.uid
  | .handed uid token => issue.uid = uid ∧ issue.entry.entryToken = token

end Issue

/-- What a command that waits in a pipeline is going to write. -/
inductive PipeCommand.Asserts : PipeCommand → Fact → Prop
  | setSuccess (ticketId token : String)
      : Asserts (.setSuccess ticketId token) (.ticket ticketId token)
  | setToken (token : String) (hash : TokenHash)
      : Asserts (.setToken token hash) (.hash token hash)

namespace EntryState

inductive Asserts (state : EntryState) : Fact → Prop
  | reported {pid : Int} {process : DedicatedProcess} {entry : EntryToken}
      (found : state.processes.lookup pid = some process)
      (mem : entry ∈ process.service.reported)
      : Asserts state (.entry process.port entry)
  | session {pid : Int} {process : DedicatedProcess} {token : String} {sessionId : Nat}
      (found : state.processes.lookup pid = some process)
      (known : process.service.tokenToPlayerSession.lookup token = some sessionId)
      : Asserts state
          (.session pid token sessionId (process.service.accountOf sessionId))
  | requested {request : UpdateEntryTokenRequest} {entry : EntryToken}
      (waits : request ∈ state.requests) (mem : entry ∈ request.entries)
      : Asserts state (.entry request.port entry)
  | remaining {run : Execution} {entry : EntryToken} (running : state.execution = some run)
      (mem : entry ∈ run.remaining)
      : Asserts state (.entry run.request.port entry)
  | piped {run : Execution} {command : PipeCommand} {fact : Fact}
      (running : state.execution = some run) (mem : command ∈ run.pipe)
      (writes : command.Asserts fact)
      : Asserts state fact
  | ticket {ticketId token : String} (known : ticketToken state.redis ticketId = some token)
      : Asserts state (.ticket ticketId token)
  | token {token : String} {hash : TokenHash}
      (known : state.redis.tokens.lookup token = some hash)
      : Asserts state (.hash token hash)
  | handed {uid : Int} {token : String} (noted : (uid, token) ∈ state.handed)
      : Asserts state (.handed uid token)
  | answered {token : String} {hash : TokenHash} (noted : (token, hash) ∈ state.answered)
      : Asserts state (.hash token hash)
  | bound {binding : Binding} (noted : binding ∈ state.bound)
      : Asserts state
          (.session binding.pid binding.token binding.sessionId binding.account)

/-- The origins are the issues. -/
def provenance : Provenance.Model EntryState Issue Fact where
  asserts := Asserts
  origins := issues
  backs := Issue.Backs

variable {before after : EntryState}

/-- What a step says has its sources, part by part. -/
structure Sources (before after : EntryState) : Prop where
  issues : before.issues ⊆ after.issues
  processes : ∀ pid process, after.processes.lookup pid = some process →
    (∀ entry ∈ process.service.reported,
        provenance.Derived before after (.entry process.port entry))
      ∧ ∀ token sessionId,
        process.service.tokenToPlayerSession.lookup token = some sessionId →
          provenance.Derived before after
            (.session pid token sessionId (process.service.accountOf sessionId))
  requests : ∀ request ∈ after.requests, ∀ entry ∈ request.entries,
    provenance.Derived before after (.entry request.port entry)
  execution : ∀ run, after.execution = some run →
    (∀ entry ∈ run.remaining,
        provenance.Derived before after (.entry run.request.port entry))
      ∧ ∀ command ∈ run.pipe, ∀ fact, command.Asserts fact →
        provenance.Derived before after fact
  tickets : ∀ ticketId token, ticketToken after.redis ticketId = some token →
    provenance.Derived before after (.ticket ticketId token)
  tokens : ∀ token hash, after.redis.tokens.lookup token = some hash →
    provenance.Derived before after (.hash token hash)
  handed : ∀ uid token, (uid, token) ∈ after.handed →
    provenance.Derived before after (.handed uid token)
  answered : ∀ token hash, (token, hash) ∈ after.answered →
    provenance.Derived before after (.hash token hash)
  bound : ∀ binding ∈ after.bound, provenance.Derived before after
    (.session binding.pid binding.token binding.sessionId binding.account)

theorem Sources.sourced (h : Sources before after) : provenance.Sourced before after where
  origins := h.issues
  facts := by
    intro fact said
    cases said with
    | reported found mem => exact (h.processes _ _ found).1 _ mem
    | session found known => exact (h.processes _ _ found).2 _ _ known
    | requested waits mem => exact h.requests _ waits _ mem
    | remaining running mem => exact (h.execution _ running).1 _ mem
    | piped running mem writes => exact (h.execution _ running).2 _ mem _ writes
    | ticket known => exact h.tickets _ _ known
    | token known => exact h.tokens _ _ known
    | handed noted => exact h.handed _ _ noted
    | answered noted => exact h.answered _ _ noted
    | bound noted => exact h.bound _ noted

/-- A state is a source of itself. -/
theorem Sources.refl (state : EntryState) : Sources state state where
  issues := List.Subset.refl _
  processes _ _ found :=
    ⟨fun _ mem => .of_asserts (.reported found mem),
      fun _ _ known => .of_asserts (.session found known)⟩
  requests _ waits _ mem := .of_asserts (.requested waits mem)
  execution _ running :=
    ⟨fun _ mem => .of_asserts (.remaining running mem),
      fun _ mem _ writes => .of_asserts (.piped running mem writes)⟩
  tickets _ _ known := .of_asserts (.ticket known)
  tokens _ _ known := .of_asserts (.token known)
  handed _ _ noted := .of_asserts (.handed noted)
  answered _ _ noted := .of_asserts (.answered noted)
  bound _ noted := .of_asserts (.bound noted)

/-- More issues take no source away. -/
theorem Sources.issue (h : Sources before after) (more : List Issue)
    : Sources before { after with issues := after.issues ++ more } := by
  have mono {fact : Fact} (derived : provenance.Derived before after fact)
      : provenance.Derived before { after with issues := after.issues ++ more } fact :=
    derived.mono (List.subset_append_left _ _)
  constructor
  · exact List.subset_append_of_subset_left _ h.issues
  · intro pid process found
    obtain ⟨reported, sessions⟩ := h.processes pid process found
    exact ⟨fun entry mem => mono (reported entry mem),
      fun token sessionId known => mono (sessions token sessionId known)⟩
  · exact fun request waits entry mem => mono (h.requests request waits entry mem)
  · intro run running
    obtain ⟨remaining, pipe⟩ := h.execution run running
    exact ⟨fun entry mem => mono (remaining entry mem),
      fun command mem fact writes => mono (pipe command mem fact writes)⟩
  · exact fun ticketId token known => mono (h.tickets ticketId token known)
  · exact fun token hash known => mono (h.tokens token hash known)
  · exact fun uid token noted => mono (h.handed uid token noted)
  · exact fun token hash noted => mono (h.answered token hash noted)
  · exact fun binding noted => mono (h.bound binding noted)

-----------------------------------------------------------------------------------------
-- Order among tickets, packets and processes
-----------------------------------------------------------------------------------------

/-- The account that a ticket was created for. -/
def accountOf (life : LifeState) (ticketId : String) : Option Int :=
  (life.created.lookup ticketId).map (·.uid)

/-- Tickets are as they were created, packets and issues name the accounts of their tickets,
and every process keeps its registers.
-/
structure Orderly (state : EntryState) : Prop where
  life : state.life.FieldsKept
  reads : ∀ ticketId hash fields, state.reads.lookup ticketId = some hash →
    hash.fields = some fields → state.life.created.lookup ticketId = some fields
  packets : state.manager.AllPackets (AccountsOf state.life.created)
  issues : ∀ issue ∈ state.issues, accountOf state.life issue.entry.ticketId = some issue.uid
  processes : ∀ pid process, state.processes.lookup pid = some process →
    process.service.Kept

theorem orderly_new : Orderly {} where
  life := ⟨fun _ _ found => (by cases found), fun _ mem => (by cases mem)⟩
  reads _ _ _ found := by cases found
  packets _ _ found := by cases found
  issues _ mem := by cases mem
  processes _ _ found := by cases found

variable {state after : EntryState}

/-- Tickets that are created later change nothing. -/
theorem Orderly.grow (h : state.Orderly) {life : LifeState} (kept : life.FieldsKept)
    (created : ∀ ticketId fields, state.life.created.lookup ticketId = some fields →
      life.created.lookup ticketId = some fields)
    : Orderly { state with life } where
  life := kept
  reads ticketId hash fields found creation :=
    created ticketId fields (h.reads ticketId hash fields found creation)
  packets pid session found pkt mem info listed := by
    obtain ⟨fields, was, uid⟩ :=
      Option.map_eq_some_iff.mp (h.packets pid session found pkt mem info listed)
    exact Option.map_eq_some_iff.mpr ⟨fields, created info.ticketId fields was, uid⟩
  issues issue mem := by
    obtain ⟨fields, was, uid⟩ := Option.map_eq_some_iff.mp (h.issues issue mem)
    exact Option.map_eq_some_iff.mpr ⟨fields, created _ fields was, uid⟩
  processes := h.processes

/-- A process that is started holds nothing yet, so it says nothing. -/
theorem Sources.insert_new (h : Sources before after) (pid port : Int)
    : Sources before { after with processes := after.processes.insert pid { port } } :=
  { h with
    processes := fun other process present => by
      rcases Table.lookup_insert_cases present with ⟨-, rfl⟩ | ⟨-, was⟩
      · exact ⟨fun _ mem => (by cases mem), fun _ _ known => (by cases known)⟩
      · exact h.processes other process was }

/-- A process is replaced by one that keeps its registers. -/
theorem Orderly.insert (h : state.Orderly) {pid : Int} {process : DedicatedProcess}
    (kept : process.service.Kept)
    : Orderly { state with processes := state.processes.insert pid process } :=
  { h with
    processes := fun other found present => by
      rcases Table.lookup_insert_cases present with ⟨-, rfl⟩ | ⟨-, was⟩
      · exact kept
      · exact h.processes other found was }

/-- A process that reports and holds no other tokens than before, with the same accounts. -/
theorem sources_insert {pid : Int} {old process : DedicatedProcess}
    (found : state.processes.lookup pid = some old) (port : process.port = old.port)
    (reported : process.service.reported = old.service.reported)
    (tokens : ∀ token sessionId,
      process.service.tokenToPlayerSession.lookup token = some sessionId →
        old.service.tokenToPlayerSession.lookup token = some sessionId
          ∧ old.service.accountOf sessionId = process.service.accountOf sessionId)
    : Sources state { state with processes := state.processes.insert pid process } :=
  { Sources.refl state with
    processes := fun other stored present => by
      rcases Table.lookup_insert_cases present with ⟨rfl, rfl⟩ | ⟨-, was⟩
      · refine ⟨fun entry mem => ?_, fun token sessionId known => ?_⟩
        · rw [port]
          exact .of_asserts (.reported found (reported ▸ mem))
        · obtain ⟨earlier, same⟩ := tokens token sessionId known
          rw [← same]
          exact .of_asserts (.session found earlier)
      · exact (Sources.refl state).processes other stored was }

/-- A turn of one process that narrows its registers. -/
theorem turn_step (h : state.Orderly) {pid : Int}
    {f : DediServerService → Option DediServerService}
    (step : state.turn pid f = some after)
    (narrows : ∀ service later, service.Kept → f service = some later →
      later.Kept ∧ service.Narrowed later ∧ later.reported = service.reported)
    : after.Orderly ∧ Sources state after := by
  unfold turn at step
  split at step
  · cases step
  · next process found =>
      obtain ⟨service, moved, rfl⟩ := Option.map_eq_some_iff.mp step
      have kept := h.processes pid process found
      obtain ⟨still, narrowed, reported⟩ := narrows process.service service kept moved
      exact ⟨h.insert still, sources_insert found rfl reported
        fun token sessionId known => narrowed.account kept still known⟩

theorem inRoom_step (h : state.Orderly) {env : Environment} {pid : Int} {roomId : Nat}
    {action : RoomHost.Action}
    (step : state.turn pid (·.inRoom env roomId action) = some after)
    : after.Orderly ∧ Sources state after := by
  refine turn_step h step fun service later kept moved => ?_
  refine ⟨(kept.inRoom moved).1, DediServerService.inRoom_narrowed kept moved, ?_⟩
  rw [DediServerService.reported, DediServerService.inRoom_toMain moved]
  rfl

theorem destroyPendingRooms_step (h : state.Orderly) {pid : Int}
    (step : state.turn pid (fun service => some service.destroyPendingRooms) = some after)
    : after.Orderly ∧ Sources state after := by
  refine turn_step h step fun service later kept moved => ?_
  cases moved
  exact ⟨kept.destroyPendingRooms.1, service.destroyPendingRooms_narrowed,
    service.destroyPendingRooms_reported⟩

/-- The next packet makes a room, and tokens are issued. -/
theorem makeRoom_step {maps : NumberedMaps} (h : state.Orderly) {pid : Int}
    {draws : List Draw} {process : DedicatedProcess} {pkt : M2DMakeRoomForThisGroup}
    (found : state.processes.lookup pid = some process)
    (accounts : AccountsOf state.life.created pkt)
    (step : state.makeRoom maps.toMapRooms pid draws process pkt = some after)
    : after.Orderly ∧ Sources state after := by
  obtain ⟨⟨service, handled⟩, made, rfl⟩ := Option.map_eq_some_iff.mp step
  have kept := h.processes pid process found
  have still := (kept.makeRoom made).1
  obtain ⟨entries, issued⟩ := kept.makeRoom_issues made
  dsimp only
  rw [issued.reported, List.drop_left]
  have noted {player : PlayerInfo × EntryToken} (mem : player ∈ pkt.playerInfos.zip entries)
      : { pid, port := process.port, uid := player.1.uid, entry := player.2 }
        ∈ (pkt.playerInfos.zip entries).map fun player =>
          ({ pid, port := process.port, uid := player.1.uid, entry := player.2 } : Issue) :=
    List.mem_map.mpr ⟨player, mem, rfl⟩
  constructor
  · refine { h.insert still with issues := fun issue mem => ?_ }
    rcases List.mem_append.mp mem with old | new
    · exact h.issues issue old
    · obtain ⟨player, listed, rfl⟩ := List.mem_map.mp new
      have account := accounts player.1 (List.of_mem_zip listed).1
      rwa [← issued.tickets player listed] at account
  · refine { (Sources.refl state).issue _ with processes := fun other stored present => ?_ }
    rcases Table.lookup_insert_cases present with ⟨rfl, rfl⟩ | ⟨-, was⟩
    · refine ⟨fun entry mem => ?_, fun token sessionId known => ?_⟩
      · show provenance.Derived _ _ (.entry process.port entry)
        rw [issued.reported] at mem
        rcases List.mem_append.mp mem with old | new
        · exact .of_asserts (.reported found old)
        · obtain ⟨info, listed⟩ := issued.players entry new
          exact .inr ⟨_, List.mem_append_right _ (noted listed), rfl, rfl⟩
      · rcases issued.tokens token sessionId known with
          ⟨earlier, same⟩ | ⟨player, listed, isToken, isSession, account⟩
        · rw [← same]
          exact .of_asserts (.session found earlier)
        · exact .inr ⟨_, List.mem_append_right _ (noted listed), rfl, isToken, isSession,
            account⟩
    · exact ⟨fun _ mem => .of_asserts (.reported was mem),
        fun _ _ known => .of_asserts (.session was known)⟩

/-- The session that takes an address is one that the token led to. -/
theorem bind_step (h : state.Orderly) {pid : Int} {process : DedicatedProcess}
    (found : state.processes.lookup pid = some process) (token : String)
    (addr : Option (BitVec 32)) (rest : List (String × Option (BitVec 32)))
    : (state.bind pid process token addr rest).Orderly
      ∧ Sources state (state.bind pid process token addr rest) := by
  have kept := h.processes pid process found
  have still := (kept.bindClientIp token addr).1
  have narrowed := process.service.bindClientIp_narrowed token addr
  have reported : (process.service.bindClientIp token addr).1.reported
      = process.service.reported := by
    rw [DediServerService.reported, DediServerService.bindClientIp_toMain]
    rfl
  refine ⟨{ h.insert still with }, ?_⟩
  have turned := @sources_insert state pid process
    { process with
      service := (process.service.bindClientIp token addr).1
      bindings := rest }
    found rfl reported fun code sessionId known => narrowed.account kept still known
  refine { turned with bound := fun binding noted => ?_ }
  simp only [bind] at noted
  split at noted
  · exact .of_asserts (.bound noted)
  · next sessionId known =>
      rcases List.mem_append.mp noted with old | new
      · exact .of_asserts (.bound old)
      · cases List.mem_singleton.mp new
        exact .of_asserts (.session found known)

/-- What the main process handles becomes a request, or it concerns no token. -/
theorem handle_step (h : state.Orderly) {pid : Int} {session : M2DSession}
    {process : DedicatedProcess} (found : state.processes.lookup pid = some process)
    {message : D2MMessage} (sent : message ∈ process.service.toMain)
    : (state.handle pid session process message).Orderly
      ∧ Sources state (state.handle pid session process message) := by
  have kept := h.processes pid process found
  have turned := @sources_insert state pid process
    { process with handled := process.handled + 1 } found rfl rfl
    fun _ _ known => ⟨known, rfl⟩
  have orderly : Orderly { state with
      processes :=
        state.processes.insert pid { process with handled := process.handled + 1 } } :=
    h.insert kept
  cases message with
  | updateEntryToken entries =>
      refine ⟨{ orderly with }, { turned with requests := fun request waits entry mem => ?_ }⟩
      rcases List.mem_append.mp waits with old | new
      · exact .of_asserts (.requested old mem)
      · cases List.mem_singleton.mp new
        exact .of_asserts (.reported found (List.mem_flatMap.mpr ⟨_, sent, mem⟩))
  | notifyRoomDestroyed roomId playerCount =>
      refine ⟨{ orderly with packets := ?_ }, { turned with }⟩
      exact h.packets.adjust (f := (·.releasePlayers playerCount)) rfl
        fun _ _ _ mem => .inl mem

-----------------------------------------------------------------------------------------
-- `Execute`
-----------------------------------------------------------------------------------------

theorem startExecute_step {request : UpdateEntryTokenRequest}
    {rest : List UpdateEntryTokenRequest} (waiting : state.requests = request :: rest)
    : Sources state { state with
        requests := rest
        execution := some { request, remaining := request.entries } } :=
  { Sources.refl state with
    requests := fun other waits entry mem =>
      .of_asserts (.requested (waiting ▸ List.mem_cons_of_mem _ waits) mem)
    execution := fun run running => by
      cases running
      refine ⟨fun entry mem => ?_, fun command mem => by cases mem⟩
      exact .of_asserts (.requested (waiting ▸ List.mem_cons_self) mem) }

/-- What one iteration puts into the pipeline is what the entry says. -/
theorem readUid_step {serverIp : String} {run : Execution} {entry : EntryToken}
    {rest : List EntryToken} (running : state.execution = some run)
    (first : run.remaining = entry :: rest) (loadoutType : LoadoutType) (uid : Option Int)
    : Sources state { state with
        execution :=
          some
            { run with
              remaining := rest
              loadoutType := none
              pipe := run.pipe ++ run.request.commands serverIp entry loadoutType uid } } :=
  { Sources.refl state with
    execution := fun later same => by
      cases same
      have said : Asserts state (.entry run.request.port entry) :=
        .remaining running (first ▸ List.mem_cons_self)
      refine ⟨fun other mem => ?_, fun command mem fact writes => ?_⟩
      · show provenance.Derived _ _ (.entry run.request.port other)
        have listed : other ∈ run.remaining := by
          rw [first]
          exact List.mem_cons_of_mem _ mem
        exact .of_asserts (.remaining running listed)
      · rcases List.mem_append.mp mem with old | new
        · exact .of_asserts (.piped running old writes)
        · refine .inl ⟨_, said, fun issue _ backed => ?_⟩
          obtain ⟨port, rfl⟩ := backed
          simp only [UpdateEntryTokenRequest.commands, List.mem_append, Option.mem_toList,
            Option.map_eq_some_iff, List.mem_cons, List.not_mem_nil, or_false] at new
          rcases new with ⟨_, _, rfl⟩ | rfl | rfl | rfl
          · cases writes
          · cases writes
            exact ⟨rfl, rfl⟩
          · cases writes
            exact ⟨rfl, port.symm, rfl, rfl, rfl⟩
          · cases writes }

/-- What a command of the pipeline does to tickets and tokens. -/
structure Performed (before after : LifeState) (command : PipeCommand) : Prop where
  kept : before.FieldsKept → after.FieldsKept
  created : after.created = before.created
  tickets : ∀ ticketId token, ticketToken after.server.redis ticketId = some token →
    ticketToken before.server.redis ticketId = some token
      ∨ command.Asserts (.ticket ticketId token)
  tokens : ∀ token hash, after.server.redis.tokens.lookup token = some hash →
    ∃ old ttl, hash = { old with ttl }
      ∧ (before.server.redis.tokens.lookup token = some old
        ∨ command.Asserts (.hash token old))

theorem performed (life : LifeState) (command : PipeCommand)
    : Performed life (life.perform command) command := by
  cases command with
  | setInGame uid ticketId =>
      exact ⟨fun h => ⟨h.fields, h.starting⟩, rfl, fun _ _ known => .inl known,
        fun _ hash known => ⟨hash, hash.ttl, rfl, .inl known⟩⟩
  | setSuccess ticketId token =>
      refine ⟨fun h => ⟨fun other fields found => ?_, h.starting⟩, rfl,
        fun other known found => ?_, fun _ hash known => ⟨hash, hash.ttl, rfl, .inl known⟩⟩
      · obtain ⟨hash, there, own⟩ := Option.bind_eq_some_iff.mp found
        rcases Table.lookup_insert_cases there with ⟨rfl, rfl⟩ | ⟨-, was⟩
        · cases old : life.server.redis.tickets.lookup other with
          | none =>
              rw [old] at own
              cases own
          | some hash =>
              rw [old] at own
              exact h.fields other fields (Option.bind_eq_some_iff.mpr ⟨hash, old, own⟩)
        · exact h.fields other fields (Option.bind_eq_some_iff.mpr ⟨hash, was, own⟩)
      · obtain ⟨hash, there, own⟩ := Option.bind_eq_some_iff.mp found
        rcases Table.lookup_insert_cases there with ⟨rfl, rfl⟩ | ⟨-, was⟩
        · cases own
          exact .inr (.setSuccess other token)
        · exact .inl (Option.bind_eq_some_iff.mpr ⟨hash, was, own⟩)
  | setToken token hash =>
      refine ⟨fun h => ⟨h.fields, h.starting⟩, rfl, fun _ _ known => .inl known,
        fun other found known => ?_⟩
      rcases Table.lookup_insert_cases known with ⟨rfl, rfl⟩ | ⟨-, was⟩
      · exact ⟨hash, _, rfl, .inr (.setToken other hash)⟩
      · exact ⟨found, found.ttl, rfl, .inl was⟩
  | expireToken token =>
      have unissued := Unissued.expireToken life.server.redis token (some 300)
      refine ⟨fun h => ⟨h.fields, h.starting⟩, rfl, fun _ _ known => .inl known,
        fun other found known => ?_⟩
      obtain ⟨old, ttl, was, same⟩ := unissued.tokens other found known
      exact ⟨old, ttl, same, .inl was⟩

/-- A lifetime is nothing that a fact is about. -/
theorem derived_ttl {token : String} {old : TokenHash} (ttl : Option Nat)
    (h : provenance.Derived before after (.hash token old))
    : provenance.Derived before after (.hash token { old with ttl }) := by
  have same {issue : Issue} (backed : issue.Backs (.hash token old))
      : issue.Backs (.hash token { old with ttl }) :=
    ⟨backed.1, backed.2.port, backed.2.sessionId, backed.2.securityKey, backed.2.ticket⟩
  rcases h with ⟨earlier, said, implies⟩ | ⟨issue, noted, backed⟩
  · exact .inl ⟨earlier, said, fun issue noted backed => same (implies issue noted backed)⟩
  · exact .inr ⟨issue, noted, same backed⟩

/-- A command that waits in the pipeline runs. -/
theorem runCommand_step (h : state.Orderly) {run : Execution} {command : PipeCommand}
    {rest : List PipeCommand} (running : state.execution = some run)
    (first : run.pipe = command :: rest)
    : Orderly { state with
          life := state.life.perform command
          execution := some { run with pipe := rest } }
      ∧ Sources state { state with
          life := state.life.perform command
          execution := some { run with pipe := rest } } := by
  have done := performed state.life command
  have mem : command ∈ run.pipe := first ▸ List.mem_cons_self
  refine ⟨{ h.grow (done.kept h.life) fun _ _ known => done.created ▸ known with }, ?_⟩
  exact { Sources.refl state with
    execution := fun later same => by
      cases same
      refine ⟨fun entry mem => ?_, fun other mem fact writes => ?_⟩
      · show provenance.Derived _ _ (.entry run.request.port entry)
        exact .of_asserts (.remaining running mem)
      · have listed : other ∈ run.pipe := by
          rw [first]
          exact List.mem_cons_of_mem _ mem
        exact .of_asserts (.piped running listed writes)
    tickets := fun ticketId token known => by
      rcases done.tickets ticketId token known with was | writes
      · exact .of_asserts (.ticket was)
      · exact .of_asserts (.piped running mem writes)
    tokens := fun token hash known => by
      obtain ⟨old, ttl, rfl, source⟩ := done.tokens token hash known
      refine derived_ttl ttl ?_
      rcases source with was | writes
      · exact .of_asserts (.token was)
      · exact .of_asserts (.piped running mem writes) }

-----------------------------------------------------------------------------------------
-- Commands and requests
-----------------------------------------------------------------------------------------

/-- Commands that issue no token. -/
theorem issueless_step (h : state.Orderly) {life : LifeState}
    (issueless : state.life.Issueless life)
    : Orderly { state with life } ∧ Sources state { state with life } := by
  refine ⟨h.grow issueless.kept issueless.created, ?_⟩
  exact { Sources.refl state with
    tickets := fun ticketId token known =>
      .of_asserts (.ticket (issueless.tickets ticketId token known))
    tokens := fun token hash known => by
      obtain ⟨old, ttl, was, rfl⟩ := issueless.tokens token hash known
      exact derived_ttl ttl (.of_asserts (.token was)) }

/-- What leaves Redis and the creations alone. -/
theorem issueless_of_same (h : state.Orderly) {life : LifeState}
    (redis : life.server.redis = state.life.server.redis)
    (created : life.created = state.life.created)
    (starting : life.starting = state.life.starting)
    : state.life.Issueless life :=
  h.life.of_unissued (redis ▸ .refl _) (fun _ mem => .inl (starting ▸ mem)) created

theorem readTicket_step (h : state.Orderly) (ticketId : String)
    : Orderly { state with
        reads :=
          match state.redis.tickets.lookup ticketId with
          | none => state.reads.erase ticketId
          | some hash => state.reads.insert ticketId hash } := by
  refine { h with reads := fun other hash fields found creation => ?_ }
  dsimp only at found
  split at found
  · exact h.reads other hash fields (Table.lookup_erase_cases found).2 creation
  · next stored there =>
      rcases Table.lookup_insert_cases found with ⟨rfl, rfl⟩ | ⟨-, was⟩
      · exact h.life.fields other fields (Option.bind_eq_some_iff.mpr ⟨hash, there, creation⟩)
      · exact h.reads other hash fields was creation

/-- A group is handed to a process, also to a new one, which holds no token yet. -/
theorem distributePlayerGroup_step (h : state.Orderly) {fork : Option (Int × Int)}
    {group : List MatchTicket} {manager : DediManager} {accepted : Bool} {life : LifeState}
    (distributed : state.manager.distributePlayerGroup
      (fun ticketId => state.reads.lookup ticketId) (fork.map Prod.fst) group
        = some (manager, accepted))
    (issueless : state.life.Issueless life) (processes : Table Int DedicatedProcess)
    (started : processes = state.processes
      ∨ ∃ pid port, processes = state.processes.insert pid { port })
    : Orderly { state with life, manager, reads := ∅, processes }
      ∧ Sources state { state with life, manager, reads := ∅, processes } := by
  have packets : manager.AllPackets (AccountsOf state.life.created) :=
    h.packets.distributePlayerGroup (fun _ made => accountsOf_groupPacket h.reads made)
      distributed
  have emptied : Orderly { state with manager, reads := ∅ } :=
    { h with
      reads := fun _ _ _ found => by cases found
      packets := packets }
  have orderly := emptied.grow issueless.kept issueless.created
  have sources := (issueless_step h issueless).2
  rcases started with rfl | ⟨pid, port, rfl⟩
  · exact ⟨orderly, { sources with }⟩
  · have started := sources.insert_new pid port
    exact ⟨orderly.insert DediServerService.kept_new, { started with }⟩

/-- A process that is started holds no token yet. -/
theorem spawnSingleServer_step (h : state.Orderly) (pid port : Int)
    : Orderly { state with
          manager := (state.manager.spawnSingleServer (some pid)).1
          processes := state.processes.insert pid { port } }
      ∧ Sources state { state with
          manager := (state.manager.spawnSingleServer (some pid)).1
          processes := state.processes.insert pid { port } } := by
  have orderly : Orderly { state with processes := state.processes.insert pid { port } } :=
    h.insert DediServerService.kept_new
  have sources := (Sources.refl state).insert_new pid port
  exact ⟨{ orderly with packets := h.packets.spawnSingleServer (some pid) },
    { sources with }⟩

/-- An account is told the token of a ticket that was created for it. -/
theorem matchStatus_step (h : state.Orderly) {ticketId : String} {uid : Int}
    {life : LifeState} (step : state.life.next (.readStatus ticketId uid) = some life)
    : Orderly { state with
          life
          handed :=
            if (state.redis.fields ticketId).map (·.uid) = some uid
                ∧ state.redis.status ticketId = some .success
            then state.handed ++ ((ticketToken state.redis ticketId).map (uid, ·)).toList
            else state.handed }
      ∧ Sources state { state with
          life
          handed :=
            if (state.redis.fields ticketId).map (·.uid) = some uid
                ∧ state.redis.status ticketId = some .success
            then state.handed ++ ((ticketToken state.redis ticketId).map (uid, ·)).toList
            else state.handed } := by
  have issueless : state.life.Issueless life := by
    simp only [LifeState.next] at step
    split at step <;> cases step <;> exact issueless_of_same h rfl rfl rfl
  obtain ⟨orderly, sources⟩ := issueless_step h issueless
  refine ⟨{ orderly with }, { sources with handed := fun account token noted => ?_ }⟩
  dsimp only at noted
  split at noted
  · next own =>
      rcases List.mem_append.mp noted with old | new
      · exact .of_asserts (.handed old)
      · obtain ⟨known, there, same⟩ :=
          Option.map_eq_some_iff.mp (Option.mem_toList.mp new)
        cases same
        refine .inl ⟨_, .ticket there, fun issue mem backed => ?_⟩
        obtain ⟨fields, creation, isUid⟩ := Option.map_eq_some_iff.mp own.1
        have account := h.issues issue mem
        rw [backed.1, accountOf, h.life.fields ticketId fields creation, Option.map_some,
          isUid] at account
        exact ⟨(Option.some.inj account).symm, backed.2⟩
  · exact .of_asserts (.handed noted)

theorem matchConnect_step {roomToken : String} {addr : Option (BitVec 32)} {hash : TokenHash}
    (known : state.redis.tokens.lookup roomToken = some hash)
    : Sources state { state with
        bindings := state.bindings ++ [(roomToken, addr)]
        answered := state.answered ++ [(roomToken, hash)] } :=
  { Sources.refl state with
    answered := fun token other noted => by
      rcases List.mem_append.mp noted with old | new
      · exact .of_asserts (.answered old)
      · cases List.mem_singleton.mp new
        exact .of_asserts (.token known) }

/-- The binding goes into the queue of a process. -/
theorem bindClientIpToSession_step (h : state.Orderly) {life : LifeState}
    (issueless : state.life.Issueless life) (bindings : List (String × Option (BitVec 32)))
    (pid : Option Int) (binding : String × Option (BitVec 32))
    : Orderly { state with
          life
          bindings
          processes :=
            match pid with
            | none => state.processes
            | some pid =>
                state.processes.adjust pid fun process =>
                  { process with bindings := process.bindings ++ [binding] } }
      ∧ Sources state { state with
          life
          bindings
          processes :=
            match pid with
            | none => state.processes
            | some pid =>
                state.processes.adjust pid fun process =>
                  { process with bindings := process.bindings ++ [binding] } } := by
  obtain ⟨orderly, sources⟩ := issueless_step h issueless
  cases pid with
  | none => exact ⟨{ orderly with }, { sources with }⟩
  | some pid =>
      constructor
      · refine { orderly with processes := fun other process present => ?_ }
        rcases Table.lookup_adjust_cases present with ⟨rfl, old, was, rfl⟩ | ⟨-, was⟩
        · exact orderly.processes other old was
        · exact orderly.processes other process was
      · refine { sources with processes := fun other process present => ?_ }
        rcases Table.lookup_adjust_cases present with ⟨rfl, old, was, rfl⟩ | ⟨-, was⟩
        · exact sources.processes other old was
        · exact sources.processes other process was

-----------------------------------------------------------------------------------------
-- Runs
-----------------------------------------------------------------------------------------

/-- Every step keeps the order and has its sources. -/
theorem next_step {maps : NumberedMaps} {env : Environment} {serverIp : String}
    {action : Action} (h : state.Orderly)
    (step : state.next maps.toMapRooms env serverIp action = some after)
    : after.Orderly ∧ Sources state after := by
  cases action with
  | life action =>
      simp only [next] at step
      split at step
      · cases step
      · next own =>
          obtain ⟨life, moved, rfl⟩ := Option.map_eq_some_iff.mp step
          exact issueless_step h (h.life.next (Bool.eq_false_iff.mpr own) moved)
  | spawnSingleServer pid port =>
      simp only [next] at step
      split at step <;> cases step
      exact spawnSingleServer_step h pid port
  | readTicket ticketId =>
      cases step
      exact ⟨readTicket_step h ticketId, { Sources.refl state with }⟩
  | distributePlayerGroup fork =>
      simp only [next] at step
      split at step
      · cases step
      · split at step
        · cases step
        · obtain ⟨⟨manager, accepted⟩, distributed, moved⟩ := Option.bind_eq_some_iff.mp step
          obtain ⟨life, turned, rfl⟩ := Option.map_eq_some_iff.mp moved
          have issueless : state.life.Issueless life := by
            obtain ⟨server, staged, rfl⟩ := Option.map_eq_some_iff.mp turned
            simp only [MatchState.next] at staged
            split at staged
            · obtain ⟨_, _, rfl⟩ := Option.map_eq_some_iff.mp staged
              exact issueless_of_same h rfl rfl rfl
            · cases staged
          refine distributePlayerGroup_step h distributed issueless _ ?_
          split
          · exact .inl rfl
          · split
            · exact .inr ⟨_, _, rfl⟩
            · exact .inl rfl
  | onAcceptDedi fd =>
      cases step
      exact ⟨{ h with }, { Sources.refl state with }⟩
  | finalizeConnection pid fd =>
      cases step
      exact ⟨{ h with packets := h.packets.finalizeConnection pid fd },
        { Sources.refl state with }⟩
  | makeRoomForThisGroup pid draws =>
      simp only [next] at step
      split at step
      · next process session found known =>
          split at step
          · cases step
          · next pkt sent =>
              have mem : pkt ∈ session.sent ++ session.tempMatchPkts :=
                List.mem_append_left _ (List.mem_of_getElem? sent)
              exact makeRoom_step h found (h.packets pid session known pkt mem) step
      · cases step
  | bindClientIp pid =>
      simp only [next] at step
      split at step
      · cases step
      · next process found =>
          split at step
          · cases step
          · cases step
            exact bind_step h found _ _ _
  | inRoom pid roomId action => exact inRoom_step h step
  | destroyPendingRooms pid => exact destroyPendingRooms_step h step
  | handleMessage pid =>
      simp only [next] at step
      split at step
      · next process session found known =>
          obtain ⟨message, sent, rfl⟩ := Option.map_eq_some_iff.mp step
          exact handle_step h found (List.mem_of_getElem? sent)
      · cases step
  | startExecute =>
      simp only [next] at step
      split at step
      · next idle waiting =>
          cases step
          exact ⟨{ h with }, startExecute_step waiting⟩
      · cases step
  | readLoadoutType =>
      simp only [next] at step
      split at step
      · next run running =>
          split at step
          · cases step
            refine ⟨{ h with }, { Sources.refl state with
              execution := fun later same => ?_ }⟩
            cases same
            exact (Sources.refl state).execution run running
          · cases step
      · cases step
  | readUid =>
      simp only [next] at step
      split at step
      · next run running =>
          split at step
          · next first _ =>
              cases step
              exact ⟨{ h with }, readUid_step running first _ _⟩
          · cases step
      · cases step
  | runCommand =>
      simp only [next] at step
      split at step
      · next run running =>
          split at step
          · next first =>
              cases step
              exact runCommand_step h running first
          · cases step
      · cases step
  | endExecute =>
      cases step
      exact ⟨{ h with }, { Sources.refl state with execution := fun _ same => by cases same }⟩
  | matchStatus ticketId uid =>
      obtain ⟨life, moved, rfl⟩ := Option.map_eq_some_iff.mp step
      exact matchStatus_step h moved
  | matchConnect roomToken addr =>
      simp only [next] at step
      split at step
      · cases step
        exact ⟨h, .refl state⟩
      · next hash known =>
          cases step
          exact ⟨{ h with }, matchConnect_step known⟩
  | bindClientIpToSession =>
      simp only [next] at step
      split at step
      · cases step
      · next token addr rest _ =>
          obtain ⟨life, moved, rfl⟩ := Option.map_eq_some_iff.mp step
          have issueless : state.life.Issueless life := by
            simp only [LifeState.next] at moved
            split at moved
            · split at moved <;> cases moved <;> exact issueless_of_same h rfl rfl rfl
            · cases moved
          exact bindClientIpToSession_step h issueless rest (state.processOf token)
            (token, addr)
  | bindFails =>
      cases step
      have issueless : state.life.Issueless { state.life with binding := none } :=
        issueless_of_same h rfl rfl rfl
      exact issueless_step h issueless

theorem orderly_inductive (maps : NumberedMaps) (env : Environment) (serverIp : String)
    : (system maps.toMapRooms env serverIp).Inductive Orderly where
  initial state start := by
    rw [start]
    exact orderly_new
  step _ _ _ h step := (next_step h step).1

theorem silent_new (fact : Fact) : ¬ Asserts {} fact := by
  intro said
  cases said with
  | reported found mem => cases found
  | session found known => cases found
  | requested waits mem => cases waits
  | remaining running mem => cases running
  | piped running mem writes => cases running
  | ticket known => cases known
  | token known => cases known
  | handed noted => cases noted
  | answered noted => cases noted
  | bound noted => cases noted

/-- Everything that is ever said about a token goes back to an issue. -/
theorem traced {maps : NumberedMaps} {env : Environment} {serverIp : String}
    (reached : (system maps.toMapRooms env serverIp).Reachable state)
    : provenance.Traced state := by
  refine Provenance.Model.traced_of_reachable (orderly_inductive maps env serverIp) ?_ ?_
    reached
  · intro first start fact
    rw [start]
    exact silent_new fact
  · exact fun _ _ _ h step => (next_step h step).2.sourced

end EntryState

end ExtractionServer.Matchmaking
