import ExtractionServer.Matchmaking.MatchMaker
import ExtractionServer.Room.Protocol

/-! The main process: its side of each dedicated process, the manager that distributes
groups to them, and the requests of the HTTP server.
-/

namespace ExtractionServer.Matchmaking

open Lobby Room

-----------------------------------------------------------------------------------------
-- Groups on their way to a dedicated process
-----------------------------------------------------------------------------------------

/-- A JSON number read as `uint32_t`. -/
def getUInt32 (number : Int) : Nat := (number % 2 ^ 32).toNat

/-- A JSON number read as `int32_t`. -/
def getInt32 (number : Int) : Int := number.bmod (2 ^ 32)

def InventoryEntry.toSlot (e : InventoryEntry) : ItemSlot where
  itemId := getUInt32 e.itemId
  slotIndex := getInt32 e.inventorySlotId
  quantity := getInt32 e.quantity

def EquipmentEntry.toSlot (e : EquipmentEntry) : ItemSlot where
  itemId := getUInt32 e.itemId
  slotIndex := getInt32 e.equipmentSlotId
  quantity := 1

/-- The player that a ticket with these creation fields becomes. -/
def MatchTicket.toPlayerInfo (ticket : MatchTicket) (fields : TicketFields) : PlayerInfo where
  ticketId := ticket.ticketId
  uid := fields.uid
  userId := fields.userId
  rating := fields.rating
  inventoryItems := fields.inventoryItems.map InventoryEntry.toSlot
  equipmentItems := fields.equipmentItems.map EquipmentEntry.toSlot
  characterType := ticket.characterType

/-- The answer of Redis to each `HGETALL` of one call: the hash of every ticket as it is when
it is read.
-/
abbrev TicketReads := String → Option TicketHash

/-- The loop of `MakeM2DMakeRoomForThisGroup`. A ticket that is gone is skipped; a hash
without the creation fields makes `val.at` throw, and nothing catches that.
-/
def makePlayerInfos (hgetall : TicketReads) : List MatchTicket → Option (List PlayerInfo)
  | [] => some []
  | ticket :: group =>
      match hgetall ticket.ticketId with
      | none => makePlayerInfos hgetall group
      | some hash =>
          match hash.fields, makePlayerInfos hgetall group with
          | some fields, some infos => some (ticket.toPlayerInfo fields :: infos)
          | _, _ => none

def makeM2DMakeRoomForThisGroup (hgetall : TicketReads) (mapId : Int)
    (group : List MatchTicket)
    : Option M2DMakeRoomForThisGroup :=
  (makePlayerInfos hgetall group).map fun playerInfos => { mapId, playerInfos }

/-- The packet for a group, with the map of its first ticket. -/
def groupPacket (hgetall : TicketReads) : List MatchTicket → Option M2DMakeRoomForThisGroup
  | [] => none
  | first :: rest => makeM2DMakeRoomForThisGroup hgetall first.mapId (first :: rest)

-----------------------------------------------------------------------------------------
-- The session of a dedicated process
-----------------------------------------------------------------------------------------

def MAX_PLAYER_PER_PROCESS : Int := 50

inductive SessionState where
  | initializing
  | ready
  | terminated
deriving DecidableEq, Repr

/-- `M2DSession` without its receive loop. Sends are collected in the order in which they are
handed to the ring.
-/
structure M2DSession where
  pid : Int
  fd : Int := -1
  allocatedPlayers : Int := 0
  state : SessionState := .initializing
  tempMatchPkts : List M2DMakeRoomForThisGroup := []
  sent : List M2DMakeRoomForThisGroup := []
deriving DecidableEq, Repr

namespace M2DSession

def bindSocket (session : M2DSession) (fd : Int) : M2DSession :=
  { session with fd, state := .ready }

def getAffordablePlayers (session : M2DSession) : Int :=
  MAX_PLAYER_PER_PROCESS - session.allocatedPlayers

def flushPendingTickets (session : M2DSession) : M2DSession :=
  { session with sent := session.sent ++ session.tempMatchPkts, tempMatchPkts := [] }

/-- `AllocatePlayers`; undefined for an empty group and when an exception ends the process. -/
def allocatePlayers (session : M2DSession) (hgetall : TicketReads)
    (ticketVec : List MatchTicket)
    : Option (M2DSession × Bool) :=
  if session.getAffordablePlayers ≥ ticketVec.length ∧ session.state ≠ .terminated then
    (groupPacket hgetall ticketVec).map fun pkt =>
      let session :=
        { session with
          allocatedPlayers := session.allocatedPlayers + ticketVec.length
          tempMatchPkts := session.tempMatchPkts ++ [pkt] }
      (if session.state = .ready then session.flushPendingTickets else session, true)
  else some (session, false)

/-- A negative count is cut off. -/
def releasePlayers (session : M2DSession) (count : Int) : M2DSession :=
  let allocatedPlayers := session.allocatedPlayers - count
  { session with allocatedPlayers := if allocatedPlayers < 0 then 0 else allocatedPlayers }

end M2DSession

-----------------------------------------------------------------------------------------
-- The manager
-----------------------------------------------------------------------------------------

def MAP_MAX : Nat := 2
def MAX_AGRESSION : Nat := 20

/-- `DediManager`. The matchmakers are indexed by map. -/
structure DediManager where
  dediSessions : Table Int M2DSession := ∅
  sessionFd2pid : Table Int Int := ∅
  tempSessions : List Int := []
  matchmakers : List MatchMaker :=
    (List.range MAP_MAX).map fun mapId => .new mapId MAX_AGRESSION

namespace DediManager

def addSingleMatchTicket (manager : DediManager) (ptr : TicketPtr) (ticket : MatchTicket)
    : DediManager × Bool :=
  if 0 ≤ ticket.mapId ∧ ticket.mapId < MAP_MAX then
    ({ manager with
        matchmakers :=
          manager.matchmakers.modify ticket.mapId.toNat
            (·.addSingleMatchTicket ptr ticket) }, true)
  else (manager, false)

/-- `SpawnSingleServer`, with the pid that `fork` returns, if it succeeds. -/
def spawnSingleServer (manager : DediManager) (fork : Option Int)
    : DediManager × Option Int :=
  match fork with
  | none => (manager, none)
  | some pid =>
      ({ manager with dediSessions := manager.dediSessions.insert pid { pid } }, some pid)

def onAcceptDedi (manager : DediManager) (fd : Int) : DediManager :=
  { manager with tempSessions := fd :: manager.tempSessions.filter (· ≠ fd) }

/-- `FinalizeConnection`: the dedicated process has told its pid. -/
def finalizeConnection (manager : DediManager) (pid fd : Int) : DediManager × Bool :=
  if fd ∈ manager.tempSessions ∧ pid ∈ manager.dediSessions then
    ({ manager with
        dediSessions := manager.dediSessions.adjust pid (·.bindSocket fd)
        sessionFd2pid := manager.sessionFd2pid.insert fd pid
        tempSessions := manager.tempSessions.filter (· ≠ fd) }, true)
  else (manager, false)

/-- `DistributePlayerGroup` with a pid. -/
def distributePlayerGroupTo (manager : DediManager) (hgetall : TicketReads)
    (ticketVec : List MatchTicket) (pid : Int)
    : Option (DediManager × Bool) :=
  match manager.dediSessions.lookup pid with
  | none => some (manager, false)
  | some session =>
      (session.allocatePlayers hgetall ticketVec).map fun (session, allocated) =>
        ({ manager with dediSessions := manager.dediSessions.adjust pid fun _ => session },
          allocated)

/-- The loop of `FindAvailableSessionAndDistributePlayerGroup` over the sessions. -/
def findAvailableSession (hgetall : TicketReads) (ticketVec : List MatchTicket)
    : List Int → DediManager → Option (DediManager × Bool)
  | [], manager => some (manager, false)
  | pid :: rest, manager =>
      match manager.distributePlayerGroupTo hgetall ticketVec pid with
      | none => none
      | some (manager, true) => some (manager, true)
      | some (manager, false) => findAvailableSession hgetall ticketVec rest manager

/-- `DistributePlayerGroup`: the first session with room, else a new process. -/
def distributePlayerGroup (manager : DediManager) (hgetall : TicketReads)
    (fork : Option Int) (ticketVec : List MatchTicket)
    : Option (DediManager × Bool) :=
  match findAvailableSession hgetall ticketVec manager.dediSessions.keys manager with
  | none => none
  | some (manager, true) => some (manager, true)
  | some (manager, false) =>
      match manager.spawnSingleServer fork with
      | (manager, none) => some (manager, false)
      | (manager, some pid) => manager.distributePlayerGroupTo hgetall ticketVec pid

end DediManager

end ExtractionServer.Matchmaking
