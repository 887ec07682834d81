import ExtractionServer.Lobby.Redis

/-! The queue of one map and the search for groups in it. Tickets are shared objects, so the
lists hold pointers and the flags of a ticket are seen through all of them.
-/

namespace ExtractionServer.Matchmaking

/-- A reading of the steady clock, in nanoseconds. -/
abbrev TimePoint := Nat

/-- A `MatchTicket*`. -/
abbrev TicketPtr := Nat

abbrev TicketVector := List TicketPtr

structure MatchTicket where
  ticketId : String
  uId : Int
  aggression : Nat
  mapId : Int
  characterType : Int
  startTime : TimePoint
  isMatched : Bool := false
  isValid : Bool := true
deriving DecidableEq, Repr

/-- `GetWaitTimeSeconds` at a clock reading. -/
def MatchTicket.waitTimeSeconds (ticket : MatchTicket) (now : TimePoint) : Int :=
  ((now : Int) - ticket.startTime).tdiv 1000000000

structure MatchMaker where
  mapId : Int
  maxAggression : Nat
  /-- The tickets that the pointers point to. -/
  tickets : Table TicketPtr MatchTicket := ∅
  ticketsToAdd : TicketVector := []
  timeSortedTicketVector : TicketVector := []
  /-- Indexed by aggression. -/
  bucket : List TicketVector
  matchedGroups : List TicketVector := []

namespace MatchMaker

/-- The constructor. -/
def new (mapId : Int) (maxAggression : Nat) : MatchMaker where
  mapId
  maxAggression
  bucket := List.replicate (maxAggression + 1) []

def isMatched (mm : MatchMaker) (ptr : TicketPtr) : Bool :=
  (mm.tickets.lookup ptr).any (·.isMatched)

def startTime (mm : MatchMaker) (ptr : TicketPtr) : TimePoint :=
  ((mm.tickets.lookup ptr).map (·.startTime)).getD 0

def aggression (mm : MatchMaker) (ptr : TicketPtr) : Nat :=
  ((mm.tickets.lookup ptr).map (·.aggression)).getD 0

/-- The key of a ticket in Redis. -/
def ticketId (mm : MatchMaker) (ptr : TicketPtr) : String :=
  ((mm.tickets.lookup ptr).map (·.ticketId)).getD ""

def setMatched (mm : MatchMaker) (ptr : TicketPtr) (isMatched : Bool) : MatchMaker :=
  { mm with tickets := mm.tickets.adjust ptr ({ · with isMatched }) }

def setInvalid (mm : MatchMaker) (ptr : TicketPtr) : MatchMaker :=
  { mm with tickets := mm.tickets.adjust ptr ({ · with isValid := false }) }

-----------------------------------------------------------------------------------------
-- The queue
-----------------------------------------------------------------------------------------

/-- `AddSingleMatchTicket`, with the object that the handler has just acquired. -/
def addSingleMatchTicket (mm : MatchMaker) (ptr : TicketPtr) (ticket : MatchTicket)
    : MatchMaker :=
  { mm with
    tickets := mm.tickets.insert ptr ticket
    ticketsToAdd := mm.ticketsToAdd ++ [ptr] }

/-- The comparison of the sort and of the merge, which are both stable. -/
def startsNoLater (mm : MatchMaker) (a b : TicketPtr) : Bool :=
  mm.startTime a ≤ mm.startTime b

def pushBucket (mm : MatchMaker) (bucket : List TicketVector) (ptr : TicketPtr)
    : List TicketVector :=
  bucket.modify (mm.aggression ptr) (· ++ [ptr])

def addNewMatchTickets (mm : MatchMaker) : MatchMaker :=
  if mm.ticketsToAdd.isEmpty then mm
  else
    let ticketsToAdd := mm.ticketsToAdd.mergeSort mm.startsNoLater
    { mm with
      ticketsToAdd := []
      bucket := ticketsToAdd.foldl mm.pushBucket mm.bucket
      timeSortedTicketVector :=
        List.merge mm.timeSortedTicketVector ticketsToAdd mm.startsNoLater }

/-- The lambda `shouldRemove`. -/
def shouldRemove (mm : MatchMaker) (ptr : TicketPtr) : Bool :=
  (mm.tickets.lookup ptr).any fun ticket => ticket.isMatched || !ticket.isValid

/-- Drop the matched and the invalid tickets from the queue. The result lists the keys of the
invalid ones, which one `DEL` removes from Redis; a ticket with both flags counts as matched.
-/
def releaseAndDeleteTickets (mm : MatchMaker) : MatchMaker × List String :=
  let ticketsToDelete := mm.timeSortedTicketVector.filter fun ptr =>
    !mm.isMatched ptr && mm.shouldRemove ptr
  let released := mm.timeSortedTicketVector.filter mm.shouldRemove
  ({ mm with
      tickets := released.foldl (fun tickets ptr => tickets.erase ptr) mm.tickets
      timeSortedTicketVector := mm.timeSortedTicketVector.filter (!mm.shouldRemove ·)
      bucket := mm.bucket.map fun bucketVec => bucketVec.filter (!mm.shouldRemove ·) },
    ticketsToDelete.map mm.ticketId)

-----------------------------------------------------------------------------------------
-- The search for groups
-----------------------------------------------------------------------------------------

/-- `allowedDiff` and `targetMinPlayers` for a wait time. -/
def matchTerms (waitTime : Int) : Nat × Nat :=
  if waitTime ≥ 60 then (1, 1)
  else if waitTime ≥ 40 then (1, 2)
  else if waitTime ≥ 20 then (0, 3)
  else (0, 4)

/-- The loop over one bucket: take candidates until the group has four members. -/
def collect (skip : TicketPtr → Bool) : TicketVector → TicketVector → TicketVector
  | group, [] => group
  | group, candidate :: rest =>
      if group.length = 4 then group
      else if skip candidate then collect skip group rest
      else collect skip (group ++ [candidate]) rest

/-- The group around a pivot: its own bucket, then the one above, then the one below. -/
def gatherGroup (mm : MatchMaker) (pivot : TicketPtr) (allowedDiff : Nat) : TicketVector :=
  let pivotAggr := mm.aggression pivot
  let own :=
    collect (fun candidate => candidate == pivot || mm.isMatched candidate) [pivot]
      (mm.bucket.getD pivotAggr [])
  if allowedDiff = 0 ∨ own.length = 4 then own
  else
    let above :=
      if own.length < 4 ∧ pivotAggr + 1 ≤ mm.maxAggression then
        collect mm.isMatched own (mm.bucket.getD (pivotAggr + 1) [])
      else own
    if above.length < 4 ∧ 0 < pivotAggr then
      collect mm.isMatched above (mm.bucket.getD (pivotAggr - 1) [])
    else above

/-- The variables of the loop of `FindMatchGroup`: the queue with the groups found so far, the
aggressions that already failed, and the clock readings made.
-/
structure Search where
  mm : MatchMaker
  pivotMemorizationFlags : List Bool
  reads : Nat := 0

/-- One iteration of `FindMatchGroup`. -/
def Search.visit (clock : Nat → TimePoint) (search : Search) (pivot : TicketPtr) : Search :=
  match search.mm.tickets.lookup pivot with
  | none => search
  | some ticket =>
      if ticket.isMatched then search
      else if search.pivotMemorizationFlags.getD ticket.aggression false then search
      else
        let (allowedDiff, targetMinPlayers) :=
          matchTerms (ticket.waitTimeSeconds (clock search.reads))
        let matchedGroup := search.mm.gatherGroup pivot allowedDiff
        if targetMinPlayers ≤ matchedGroup.length then
          let mm := matchedGroup.foldl (·.setMatched · true) search.mm
          { search with
            mm := { mm with matchedGroups := mm.matchedGroups ++ [matchedGroup] }
            reads := search.reads + 1 }
        else
          { search with
            pivotMemorizationFlags :=
              search.pivotMemorizationFlags.set ticket.aggression true
            reads := search.reads + 1 }

def findMatchGroup (mm : MatchMaker) (clock : Nat → TimePoint) : MatchMaker :=
  (mm.timeSortedTicketVector.foldl (Search.visit clock)
    { mm := { mm with matchedGroups := [] }
      pivotMemorizationFlags := List.replicate (mm.maxAggression + 1) false }).mm

end MatchMaker

end ExtractionServer.Matchmaking
