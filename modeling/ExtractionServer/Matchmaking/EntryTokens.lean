import ExtractionServer.Library.Provenance
import ExtractionServer.Matchmaking.TicketLife
import ExtractionServer.Room.IssuedTokens

/-! Entry tokens, from the process that issues them over the main process, Redis and the HTTP
server to the client, and back with the address of the client to the process. All commands to
Redis and all packets between the processes interleave as they may.
-/

namespace ExtractionServer.Matchmaking

open Lobby Room Transition

-----------------------------------------------------------------------------------------
-- `UpdateEntryTokenRequest`
-----------------------------------------------------------------------------------------

/-- `UpdateEntryTokenRequest`: what a dedicated process has reported. -/
structure UpdateEntryTokenRequest where
  gameProcessFd : Int
  entries : List EntryToken
  port : Int
deriving DecidableEq, Repr

/-- One command of the pipeline of `Execute`. -/
inductive PipeCommand where
  | setInGame (uid : Int) (ticketId : String)
  | setSuccess (ticketId token : String)
  | setToken (token : String) (hash : TokenHash)
  | expireToken (token : String)

/-- A running `Execute`: the entries that its loop has not read yet, the `loadout_type` of the
first of them once that is read, and the commands that wait in the pipeline.
-/
structure Execution where
  request : UpdateEntryTokenRequest
  remaining : List EntryToken
  loadoutType : Option LoadoutType := none
  pipe : List PipeCommand := []

namespace UpdateEntryTokenRequest

/-- The hash of a token. -/
def tokenFields (request : UpdateEntryTokenRequest) (serverIp : String) (entry : EntryToken)
    (loadoutType : LoadoutType)
    : TokenHash where
  udpServerIp := serverIp
  port := request.port
  sessionId := entry.sessionId
  securityKey := entry.securityKey.toInt
  fd := request.gameProcessFd
  ticket := entry.ticketId
  loadoutType

/-- What one iteration of the loop puts into the pipeline, with the answer to `HGET uid`. -/
def commands (request : UpdateEntryTokenRequest) (serverIp : String) (entry : EntryToken)
    (loadoutType : LoadoutType) (uid : Option Int)
    : List PipeCommand :=
  (uid.map (.setInGame · entry.ticketId)).toList ++
    [.setSuccess entry.ticketId entry.entryToken,
     .setToken entry.entryToken (request.tokenFields serverIp entry loadoutType),
     .expireToken entry.entryToken]

end UpdateEntryTokenRequest

namespace LifeState

def perform (life : LifeState) : PipeCommand → LifeState
  | .setInGame uid ticketId =>
      let redis := life.server.redis
      life.setRedis
        { redis with activeMatch := redis.activeMatch.insert uid (.inGame ticketId) }
  | .setSuccess ticketId token => life.setRedis (life.server.redis.setSuccess ticketId token)
  | .setToken token hash =>
      let redis := life.server.redis
      let ttl := (redis.tokens.lookup token).bind (·.ttl)
      life.setRedis { redis with tokens := redis.tokens.insert token { hash with ttl } }
  | .expireToken token =>
      let redis := life.server.redis
      life.setRedis
        { redis with tokens := redis.tokens.adjust token ({ · with ttl := some 300 }) }

end LifeState

-----------------------------------------------------------------------------------------
-- The processes
-----------------------------------------------------------------------------------------

/-- A dedicated process: how many of the packets for groups it has received, the bindings that
are on their way to it, and how many of its messages the main process has handled.
-/
structure DedicatedProcess where
  port : Int
  service : DediServerService := {}
  received : Nat := 0
  bindings : List (String × Option (BitVec 32)) := []
  handled : Nat := 0

/-- A token as a process issues it. -/
structure Issue where
  pid : Int
  port : Int
  uid : Int
  entry : EntryToken
deriving DecidableEq, Repr

/-- An address that a process has accepted under a token, with the session that takes it, the
session's account, and the address that the session has then.
-/
structure Binding where
  pid : Int
  token : String
  addr : Option (BitVec 32)
  sessionId : Nat
  account : Option Int
  clientAddr : Option Transport.SockAddr
deriving DecidableEq, Repr

/-- The session has taken the address, if it is one. -/
def Binding.Sets (binding : Binding) : Prop :=
  ∀ addr, binding.addr = some addr → binding.clientAddr.map (·.addr) = some addr

/-- Redis, the main process, the dedicated processes and the requests between them, and what
an observer has noted: the tokens issued, the tokens that `/match/status` has handed to
accounts, what `/match/connect` has answered, and the bindings.
-/
structure EntryState where
  life : LifeState := .fresh
  manager : DediManager := {}
  /-- The answers to the `HGETALL`s of the packet in the making. -/
  reads : Table String TicketHash := ∅
  requests : List UpdateEntryTokenRequest := []
  execution : Option Execution := none
  /-- Bindings that the HTTP server has sent to the main process. -/
  bindings : List (String × Option (BitVec 32)) := []
  processes : Table Int DedicatedProcess := ∅
  issues : List Issue := []
  handed : List (Int × String) := []
  answered : List (String × TokenHash) := []
  bound : List Binding := []

namespace EntryState

inductive Action where
  /-- A command that is about no token. -/
  | life (action : LifeState.Action)
  /-- The process that the main process starts before any group comes. -/
  | spawnSingleServer (pid port : Int)
  /-- An `HGETALL` of `MakeM2DMakeRoomForThisGroup`. -/
  | readTicket (ticketId : String)
  /-- `DistributePlayerGroup`, with the pid and the port of a process that it starts. -/
  | distributePlayerGroup (fork : Option (Int × Int))
  | onAcceptDedi (fd : Int)
  | finalizeConnection (pid fd : Int)
  | makeRoomForThisGroup (pid : Int) (draws : List Draw)
  | bindClientIp (pid : Int)
  | inRoom (pid : Int) (roomId : Nat) (action : RoomHost.Action)
  | destroyPendingRooms (pid : Int)
  /-- The main process handles the next message of a dedicated process. -/
  | handleMessage (pid : Int)
  | startExecute
  /-- The two `HGET`s for the first entry that is left. -/
  | readLoadoutType
  | readUid
  | runCommand
  /-- The end of `Execute`, also by an exception. -/
  | endExecute
  | matchStatus (ticketId : String) (uid : Int)
  | matchConnect (roomToken : String) (addr : Option (BitVec 32))
  /-- The first `HGET` of `BindClientIpToSession` and the packet to the process. -/
  | bindClientIpToSession
  /-- An exception in `BindClientIpToSession`. -/
  | bindFails

/-- Redis as all processes see it. -/
def redis (state : EntryState) : Redis :=
  state.life.server.redis

/-- The commands that this model issues by steps of its own. -/
def ownCommand : LifeState.Action → Bool
  | .matchmaking (.distributePlayerGroup _ _ _) => true
  | .matchmaking (.setInGame _) => true
  | .matchmaking (.setSuccess _ _) => true
  | .readStatus _ _ => true
  | .hmSetToken _ _ => true
  | .expireToken _ => true
  | .readTokenFd _ _ => true
  | _ => false

/-- `HGET ticketId token`. -/
def ticketToken (redis : Redis) (ticketId : String) : Option String :=
  (redis.tickets.lookup ticketId).bind (·.token)

/-- The process that `BindClientIpToSession` sends to. -/
def processOf (state : EntryState) (token : String) : Option Int :=
  match state.redis.tokens.lookup token with
  | none => none
  | some hash =>
      match state.manager.sessionFd2pid.lookup hash.fd with
      | none => none
      | some pid => if pid ∈ state.manager.dediSessions then some pid else none

/-- The tickets of the group that is to be distributed. -/
def groupInHand (server : MatchState) : Option (List MatchTicket) :=
  match server.stage with
  | .distribute mapId group _ =>
      some (group.filterMap (server.matchmakers mapId).tickets.lookup)
  | _ => none

/-- One turn of a process that does not concern the others. -/
def turn (state : EntryState) (pid : Int)
    (f : DediServerService → Option DediServerService)
    : Option EntryState :=
  match state.processes.lookup pid with
  | none => none
  | some process =>
      (f process.service).map fun service =>
        { state with processes := state.processes.insert pid { process with service } }

/-- `MakeRoomForThisGroup` for the next packet of the main process. -/
def makeRoom (maps : MapRooms) (state : EntryState) (pid : Int) (draws : List Draw)
    (process : DedicatedProcess) (pkt : M2DMakeRoomForThisGroup)
    : Option EntryState :=
  (process.service.makeRoomForThisGroup maps draws pkt).map fun (service, _) =>
    let entries := service.reported.drop process.service.reported.length
    { state with
      processes :=
        state.processes.insert pid
          { process with service, received := process.received + 1 }
      issues :=
        state.issues ++ (pkt.playerInfos.zip entries).map fun (info, entry) =>
          { pid, port := process.port, uid := info.uid, entry } }

/-- The process accepts or refuses the next binding. -/
def bind (state : EntryState) (pid : Int) (process : DedicatedProcess) (token : String)
    (addr : Option (BitVec 32)) (rest : List (String × Option (BitVec 32)))
    : EntryState :=
  let service := (process.service.bindClientIp token addr).1
  { state with
    processes := state.processes.insert pid { process with service, bindings := rest }
    bound :=
      match process.service.tokenToPlayerSession.lookup token with
      | none => state.bound
      | some sessionId =>
          state.bound ++
            [{ pid, token, addr, sessionId
               account := process.service.accountOf sessionId
               clientAddr := service.clientAddrOf sessionId }] }

/-- The handler of the main process for a message about whole rooms. -/
def handle (state : EntryState) (pid : Int) (session : M2DSession)
    (process : DedicatedProcess)
    : D2MMessage → EntryState
  | .updateEntryToken entries =>
      { state with
        processes :=
          state.processes.insert pid { process with handled := process.handled + 1 }
        requests :=
          state.requests ++
            [{ gameProcessFd := session.fd, entries, port := process.port }] }
  | .notifyRoomDestroyed _ playerCount =>
      { state with
        processes :=
          state.processes.insert pid { process with handled := process.handled + 1 }
        manager :=
          { state.manager with
            dediSessions :=
              state.manager.dediSessions.adjust pid (·.releasePlayers playerCount) } }

/-- One step of one of the processes. -/
def next (maps : MapRooms) (env : Environment) (serverIp : String) (state : EntryState)
    : Action → Option EntryState
  | .life action =>
      if ownCommand action then none
      else (state.life.next action).map fun life => { state with life }
  | .spawnSingleServer pid port =>
      if pid ∈ state.manager.dediSessions then none
      else
        some
          { state with
            manager := (state.manager.spawnSingleServer (some pid)).1
            processes := state.processes.insert pid { port } }
  | .readTicket ticketId =>
      some
        { state with
          reads :=
            match state.redis.tickets.lookup ticketId with
            | none => state.reads.erase ticketId
            | some hash => state.reads.insert ticketId hash }
  | .distributePlayerGroup fork =>
      match groupInHand state.life.server with
      | none => none
      | some group =>
          -- The pid of a new process is not that of another one.
          if (fork.map Prod.fst).any (· ∈ state.manager.dediSessions) then none
          else
            let hgetall ticketId := state.reads.lookup ticketId
            (state.manager.distributePlayerGroup hgetall (fork.map Prod.fst) group).bind
              fun (manager, _) =>
                (state.life.next
                  (.matchmaking (.distributePlayerGroup state.manager hgetall
                    (fork.map Prod.fst)))).map fun life =>
                  { state with
                    life
                    manager
                    reads := ∅
                    processes :=
                      match fork with
                      | none => state.processes
                      | some (pid, port) =>
                          if pid ∈ manager.dediSessions
                          then state.processes.insert pid { port }
                          else state.processes }
  | .onAcceptDedi fd => some { state with manager := state.manager.onAcceptDedi fd }
  | .finalizeConnection pid fd =>
      some { state with manager := (state.manager.finalizeConnection pid fd).1 }
  | .makeRoomForThisGroup pid draws =>
      match state.processes.lookup pid, state.manager.dediSessions.lookup pid with
      | some process, some session =>
          match session.sent[process.received]? with
          | none => none
          | some pkt => state.makeRoom maps pid draws process pkt
      | _, _ => none
  | .bindClientIp pid =>
      match state.processes.lookup pid with
      | none => none
      | some process =>
          match process.bindings with
          | [] => none
          | (token, addr) :: rest => some (state.bind pid process token addr rest)
  | .inRoom pid roomId action => state.turn pid (·.inRoom env roomId action)
  | .destroyPendingRooms pid => state.turn pid fun service => some service.destroyPendingRooms
  | .handleMessage pid =>
      match state.processes.lookup pid, state.manager.dediSessions.lookup pid with
      | some process, some session =>
          (process.service.toMain[process.handled]?).map (state.handle pid session process)
      | _, _ => none
  | .startExecute =>
      match state.execution, state.requests with
      | none, request :: rest =>
          some
            { state with
              requests := rest
              execution := some { request, remaining := request.entries } }
      | _, _ => none
  | .readLoadoutType =>
      match state.execution with
      | some run =>
          match run.remaining, run.loadoutType with
          | entry :: _, none =>
              let loadoutType := (state.redis.fields entry.ticketId).map (·.loadoutType)
              some
                { state with
                  execution := some { run with loadoutType := some (loadoutType.getD .free) } }
          | _, _ => none
      | none => none
  | .readUid =>
      match state.execution with
      | some run =>
          match run.remaining, run.loadoutType with
          | entry :: rest, some loadoutType =>
              let uid := (state.redis.fields entry.ticketId).map (·.uid)
              some
                { state with
                  execution :=
                    some
                      { run with
                        remaining := rest
                        loadoutType := none
                        pipe :=
                          run.pipe ++
                            run.request.commands serverIp entry loadoutType uid } }
          | _, _ => none
      | none => none
  | .runCommand =>
      match state.execution with
      | some run =>
          match run.remaining, run.pipe with
          | [], command :: rest =>
              some
                { state with
                  life := state.life.perform command
                  execution := some { run with pipe := rest } }
          | _, _ => none
      | none => none
  | .endExecute => some { state with execution := none }
  | .matchStatus ticketId uid =>
      (state.life.next (.readStatus ticketId uid)).map fun life =>
        { state with
          life
          handed :=
            if (state.redis.fields ticketId).map (·.uid) = some uid
                ∧ state.redis.status ticketId = some .success
            then state.handed ++ ((ticketToken state.redis ticketId).map (uid, ·)).toList
            else state.handed }
  | .matchConnect roomToken addr =>
      match state.redis.tokens.lookup roomToken with
      | none => some state
      | some hash =>
          some
            { state with
              bindings := state.bindings ++ [(roomToken, addr)]
              answered := state.answered ++ [(roomToken, hash)] }
  | .bindClientIpToSession =>
      match state.bindings with
      | [] => none
      | (token, addr) :: rest =>
          let pid := state.processOf token
          (state.life.next (.readTokenFd token pid.isSome)).map fun life =>
            { state with
              life
              bindings := rest
              processes :=
                match pid with
                | none => state.processes
                | some pid =>
                    state.processes.adjust pid fun process =>
                      { process with bindings := process.bindings ++ [(token, addr)] } }
  | .bindFails => some { state with life := { state.life with binding := none } }

/-- The system from an empty Redis and no process on, with the maps, the rooms' environment
and the address of the machine.
-/
def system (maps : MapRooms) (env : Environment) (serverIp : String)
    : System EntryState Action :=
  .ofNext (· = {}) (next maps env serverIp)

/-- No token is drawn twice. A process only avoids the tokens that it holds itself. -/
def TokensDiffer (state : EntryState) : Prop :=
  (state.issues.map (·.entry.entryToken)).Nodup

instance (state : EntryState) : Decidable state.TokensDiffer :=
  inferInstanceAs (Decidable (List.Nodup _))

/-- The system in which every token that is drawn is a new one. -/
def drawnSystem (maps : MapRooms) (env : Environment) (serverIp : String)
    : System EntryState Action :=
  (system maps env serverIp).restrict fun _ _ after => after.TokensDiffer

end EntryState

end ExtractionServer.Matchmaking
