import ExtractionServer.Library.Table

/-! The Redis keys that the HTTP server and the main process share, and the scripts that run
on them atomically. Keys of different kinds have different prefixes, so each kind is a table.
-/

namespace ExtractionServer.Lobby

-----------------------------------------------------------------------------------------
-- Match tickets
-----------------------------------------------------------------------------------------

inductive TicketStatus where
  | waiting
  | inProgress
  | success
deriving DecidableEq, Repr

inductive LoadoutType where
  | free
  | custom
deriving DecidableEq, Repr

/-- An entry of `inventory_items`. -/
structure InventoryEntry where
  itemId : Int
  quantity : Int
  inventorySlotId : Int
deriving DecidableEq, Repr

/-- An entry of `equipment_items`. -/
structure EquipmentEntry where
  itemId : Int
  equipmentSlotId : Int
deriving DecidableEq, Repr

/-- The fields that the one `HSET` of `/match/start` writes besides the status. -/
structure TicketFields where
  uid : Int
  userId : String
  rating : Int
  aggression : Int
  loadoutType : LoadoutType
  mapId : Int
  characterType : Int
  inventoryItems : List InventoryEntry := []
  equipmentItems : List EquipmentEntry := []
deriving DecidableEq, Repr

/-- A ticket hash. A later `HSET` of one field on a key that is gone makes a hash without the
fields of the creation and without a lifetime.
-/
structure TicketHash where
  fields : Option TicketFields := none
  status : Option TicketStatus := none
  token : Option String := none
  ttl : Option Nat := none
deriving DecidableEq, Repr

-----------------------------------------------------------------------------------------
-- The other keys
-----------------------------------------------------------------------------------------

/-- The value of `active_match:<db_id>`: a ticket id, or `INGAME:<ticketId>` from the start of
the game on.
-/
inductive LockValue where
  | ticket (ticketId : String)
  | inGame (ticketId : String)
deriving DecidableEq, Repr

/-- A login session. -/
structure SessionHash where
  userId : String
  dbId : Int
  userType : String
  rating : Int
  aggression : Int
  ttl : Option Nat := none
deriving DecidableEq, Repr

/-- An entry token. -/
structure TokenHash where
  udpServerIp : String
  port : Int
  sessionId : Int
  securityKey : Int
  fd : Int
  ticket : String
  loadoutType : LoadoutType
  ttl : Option Nat := none
deriving DecidableEq, Repr

structure Redis where
  tickets : Table String TicketHash := ∅
  activeMatch : Table Int LockValue := ∅
  sessions : Table String SessionHash := ∅
  userSess : Table String String := ∅
  tokens : Table String TokenHash := ∅

namespace Redis

/-- `HGET ticketId status`. -/
def status (redis : Redis) (ticketId : String) : Option TicketStatus :=
  (redis.tickets.lookup ticketId).bind (·.status)

/-- The creation fields of a ticket; `HGET ticketId uid` and its like read one of them. -/
def fields (redis : Redis) (ticketId : String) : Option TicketFields :=
  (redis.tickets.lookup ticketId).bind (·.fields)

/-- `HSET ticketId status`, which makes the hash when there is none. -/
def setStatus (redis : Redis) (ticketId : String) (status : TicketStatus) : Redis :=
  { redis with
    tickets :=
      redis.tickets.insert ticketId
        { (redis.tickets.lookup ticketId).getD {} with status := some status } }

/-- `DEL ticketId`, also what the end of a ticket's lifetime does. -/
def delTicket (redis : Redis) (ticketId : String) : Redis :=
  { redis with tickets := redis.tickets.erase ticketId }

/-- `SET active_match:<uid>`. -/
def setLock (redis : Redis) (uid : Int) (lock : LockValue) : Redis :=
  { redis with activeMatch := redis.activeMatch.insert uid lock }

/-- `DEL active_match:<uid>`. -/
def delLock (redis : Redis) (uid : Int) : Redis :=
  { redis with activeMatch := redis.activeMatch.erase uid }

/-- The lock says that the account's game has started. -/
def isInGame (redis : Redis) (uid : Int) : Bool :=
  match redis.activeMatch.lookup uid with
  | some (.inGame _) => true
  | _ => false

-----------------------------------------------------------------------------------------
-- Scripts
-----------------------------------------------------------------------------------------

/-- The script `matchCancel` of `/match/cancel`. -/
def matchCancel (redis : Redis) (ticketId : String) (reqUid : Int) : Redis × Int :=
  match redis.fields ticketId with
  | none => (redis, if redis.isInGame reqUid then 3 else 2)
  | some ticket =>
      if ticket.uid ≠ reqUid then (redis, -1)
      else if redis.status ticketId = some .waiting then (redis.delTicket ticketId, 1)
      else (redis, 0)

/-- The second entry of the answer of `loginTakeover`. -/
inductive TakeoverDetail where
  | none
  | inGame
  | matched
  | cancelled (ticketId : String)
deriving DecidableEq, Repr

/-- The part of `loginTakeover` that issues the new login session. -/
def issueSession (redis : Redis) (newSessKey : String) (session : SessionHash)
    : Redis × Bool :=
  let oldSess := redis.userSess.lookup session.userId
  let sessions := (oldSess.map (redis.sessions.erase ·)).getD redis.sessions
  ({ redis with
      sessions := sessions.insert newSessKey session
      userSess := redis.userSess.insert session.userId newSessKey }, oldSess.isSome)

/-- The script `loginTakeover` of `/api/login`: the answer's code, its detail, and whether an
old login session was dropped.
-/
def loginTakeover (redis : Redis) (newSessKey : String) (session : SessionHash)
    : Redis × Int × TakeoverDetail × Bool :=
  let uid := session.dbId
  let issue (redis : Redis) (code : Int) (detail : TakeoverDetail) :=
    let (redis, evicted) := redis.issueSession newSessKey session
    (redis, code, detail, evicted)
  match redis.activeMatch.lookup uid with
  | none => issue redis 1 .none
  | some (.inGame _) => (redis, 0, .inGame, false)
  | some (.ticket ticketId) =>
      match redis.status ticketId with
      | some .waiting => issue ((redis.delTicket ticketId).delLock uid) 2 (.cancelled ticketId)
      | some _ => (redis, 0, .matched, false)
      | none => issue (redis.delLock uid) 1 .none

/-- The script of `VerifyAndSetMatchStatus`: every ticket has to be waiting, then every ticket
gets the new status.
-/
def commitGroup (redis : Redis) (keys : List String) (status : TicketStatus) : Redis × Bool :=
  if keys.all fun key => redis.status key == some .waiting then
    (keys.foldl (·.setStatus · status) redis, true)
  else (redis, false)

end Redis

end ExtractionServer.Lobby
