import ExtractionServer.Library.Table
import ExtractionServer.Room.Protocol
import ExtractionServer.Transport.Channel

/-! A room with its sessions and objects, and what the room does outside of packets: sends,
spawns, the leave pipeline and the periodic updates.
-/

namespace ExtractionServer.Room

open Transport

-----------------------------------------------------------------------------------------
-- Player sessions
-----------------------------------------------------------------------------------------

/-- A reading of the steady clock, in nanoseconds. -/
abbrev TimePoint := Nat

/-- `NowMs`: a reading in milliseconds, cut to 32 bits. -/
def nowMs (now : TimePoint) : BitVec 32 := BitVec.ofNat 32 (now / 1000000)

/-- `ElapsedMs`: the cast makes a negative difference large. -/
def elapsedMs (since now : TimePoint) : BitVec 32 :=
  BitVec.ofInt 32 (((now : Int) - since).tdiv 1000000)

inductive SessionState where
  | init
  | connected
  | inplay
  | spectating
  | left
deriving DecidableEq, Repr

inductive LeaveState where
  | none
  | pending
  | detached
  | finalized
deriving DecidableEq, Repr

/-- A `PlayerSession` without its transport state, which `Wire` keeps by session id. The
session id is the key under which the room holds the session.
-/
structure PlayerSession where
  uid : Int
  userId : String
  characterType : Int
  securityKey : BitVec 32
  inventory : PlayerInventory
  objectId : Option Nat := none
  interactingContainerId : Option Nat := none
  fireSequence : BitVec 32 := 0
  clientAddr : SockAddr := {}
  sessionState : SessionState := .init
  leaveState : LeaveState := .none
  leaveReason : LeaveReason := .none
  leaveMarkedAt : TimePoint := 0
  leaveNotifyRSeq : BitVec 32 := 0
  leftNotified : Bool := false
  isRecalling : Bool := false
  recallGeneration : BitVec 32 := 0
  recallPassCount : Nat := 0
  recallSpotIndex : Nat := 0
deriving DecidableEq, Repr

namespace PlayerSession

def RECALL_REQUIRED_PASS_COUNT : Nat := 5
def RECALL_TICK_INTERVAL_MS : Nat := 1000
def DISCONNECT_TIMEOUT_MS : BitVec 32 := 6000
def LEAVE_FINALIZE_TIMEOUT_MS : BitVec 32 := 3000
def DEATH_GRACE_MS : BitVec 32 := 5000

/-- The right to act. -/
def isActiveState (session : PlayerSession) : Bool :=
  session.sessionState == .connected || session.sessionState == .inplay

def isInplay (session : PlayerSession) : Bool := session.sessionState == .inplay

def isSpectating (session : PlayerSession) : Bool := session.sessionState == .spectating

/-- The right to receive what the room broadcasts. -/
def canReceiveBroadcast (session : PlayerSession) : Bool :=
  session.isInplay || session.isSpectating

def isLeaving (session : PlayerSession) : Bool := session.leaveState != .none

def beginRecall (session : PlayerSession) (spotIndex : Nat) : PlayerSession :=
  if session.isRecalling then session
  else
    { session with
      recallGeneration := session.recallGeneration + 1
      isRecalling := true
      recallPassCount := 0
      recallSpotIndex := spotIndex }

def addRecallPass (session : PlayerSession) : PlayerSession :=
  { session with recallPassCount := session.recallPassCount + 1 }

def endRecall (session : PlayerSession) : PlayerSession :=
  { session with isRecalling := false, recallGeneration := session.recallGeneration + 1 }

/-- The early returns of `MarkLeaving`: a decided reason is never overwritten. -/
def acceptsLeaveReason (session : PlayerSession) (reason : LeaveReason) : Bool :=
  if reason = .none then false
  else
    match session.leaveState with
    | .none => true
    | .pending => session.leaveReason == .disconnected && reason != .disconnected
    | .detached => false
    | .finalized => false

/-- `MarkLeaving` at a given clock reading. -/
def markLeaving (session : PlayerSession) (reason : LeaveReason) (now : TimePoint)
    (notifyRSeq : BitVec 32)
    : PlayerSession :=
  if session.acceptsLeaveReason reason then
    { session with
      leaveState := .pending
      leaveReason := reason
      leaveMarkedAt := now
      leaveNotifyRSeq := if notifyRSeq ≠ 0 then notifyRSeq else session.leaveNotifyRSeq
      sessionState :=
        match reason with
        | .dead => .spectating
        | .disconnected => session.sessionState
        | _ => .left }
  else session

/-- What the main process hears of a leave: the items only of a recalled player. -/
def leftNotice (session : PlayerSession) : D2MNotifyPlayerLeft :=
  if session.leaveReason = .recalled then
    { uid := session.uid
      leaveReason := session.leaveReason
      inventorySlots := session.inventory.ipcInventorySlots
      equipmentSlots := session.inventory.ipcEquipmentSlots }
  else { uid := session.uid, leaveReason := session.leaveReason }

end PlayerSession

-----------------------------------------------------------------------------------------
-- The room and the process around it
-----------------------------------------------------------------------------------------

/-- The maps of the source are tables; the order of their entries is the order in which
the source's loops happen to visit them. A room lives ten minutes, so the counter of
object ids does not wrap.
-/
structure GameRoom where
  roomId : Nat
  mapId : Nat
  playerSessions : Table Nat PlayerSession
  staticObjects : Table Nat NonplayerObject := ∅
  dynamicObjects : Table Nat NonplayerObject := ∅
  playerObjects : Table Nat PlayerObject := ∅
  spawnSpots : List Vector3
  spawnSpotIndex : Nat := 0
  nxtObjectId : Nat := 0
  createdAt : TimePoint := 0
  lifetimeExpired : Bool := false
  allLeftReported : Bool := false
  lastRegenMs : BitVec 32 := 0

/-- A `RecallTick` waiting in the timer heap. -/
structure RecallTimer where
  sessionId : Nat
  uid : Int
  generation : BitVec 32
  execAt : TimePoint
deriving DecidableEq, Repr

/-- What the process keeps beside the room: the channels of the sessions, the number of
clock readings so far, all datagrams and notices handed out, and the pending timers.
-/
structure Wire where
  channels : Nat → Channel D2CMessage := fun _ => {}
  reads : Nat := 0
  sent : List (Datagram D2CMessage × SockAddr) := []
  leftNotices : List (Nat × D2MNotifyPlayerLeft) := []
  pendingDestroyRooms : List Nat := []
  recallTimers : List RecallTimer := []

/-- The state that packets, timers and updates of one room can change. -/
structure RoomHost where
  room : GameRoom
  wire : Wire := {}

/-- What the model takes from outside: the clock by number of readings, the signature, the
two float predicates, and the encoded size of an object.
-/
structure Environment where
  clock : Nat → TimePoint
  digest : BitVec 32 → UDPHeader → D2CMessage → BitVec 64
  isWithinInteractRange : Vector3 → Vector3 → Bool
  recallZoneContains : Nat → Nat → Vector3 → Bool
  byteSize : UnityGameObjectInfo → Nat

namespace GameRoom

def ROOM_LIFETIME_MS : BitVec 32 := 600000
def MAX_REGEN_STEP_MS : BitVec 32 := 1000

-----------------------------------------------------------------------------------------
-- Lookups and single writes
-----------------------------------------------------------------------------------------

def findNonplayerObject (room : GameRoom) (objectId : Nat) : Option NonplayerObject :=
  match room.staticObjects.lookup objectId with
  | some object => some object
  | none => room.dynamicObjects.lookup objectId

def findContainer (room : GameRoom) (objectId : Nat) : Option Container :=
  (room.findNonplayerObject objectId).bind NonplayerObject.asContainer

def findHostileNpc (room : GameRoom) (objectId : Nat) : Option HostileNPC :=
  (room.findNonplayerObject objectId).bind NonplayerObject.asHostileNpc

def findPlayerObject (room : GameRoom) (objectId : Nat) : Option PlayerObject :=
  room.playerObjects.lookup objectId

/-- Empty when the object is gone (`OBJECT_NAME_UNRESOLVED`). -/
def findObjectName (room : GameRoom) (objectId : Option Nat) : String :=
  match objectId with
  | none => ""
  | some objectId =>
      match room.findPlayerObject objectId, room.findNonplayerObject objectId with
      | some object, _ => object.objectName
      | none, some object => object.getObjectName
      | none, none => ""

/-- The key of the first session whose current object is the given one. -/
def findSessionByObjectId (room : GameRoom) (objectId : Nat) : Option Nat :=
  (room.playerSessions.entries.find? fun entry =>
    entry.2.objectId == some objectId).map Sigma.fst

def modifySession (room : GameRoom) (sessionId : Nat) (f : PlayerSession → PlayerSession)
    : GameRoom :=
  { room with playerSessions := room.playerSessions.adjust sessionId f }

def modifyPlayerObject (room : GameRoom) (objectId : Nat) (f : PlayerObject → PlayerObject)
    : GameRoom :=
  { room with playerObjects := room.playerObjects.adjust objectId f }

/-- Write through the pointer that `FindNonplayerObject` returns. -/
def modifyNonplayerObject (room : GameRoom) (objectId : Nat)
    (f : NonplayerObject → NonplayerObject)
    : GameRoom :=
  if objectId ∈ room.staticObjects then
    { room with staticObjects := room.staticObjects.adjust objectId f }
  else { room with dynamicObjects := room.dynamicObjects.adjust objectId f }

def modifyContainer (room : GameRoom) (objectId : Nat) (f : Container → Container)
    : GameRoom :=
  room.modifyNonplayerObject objectId fun
    | .container box => .container (f box)
    | .hostileNpc npc => .hostileNpc npc

def modifyHostileNpc (room : GameRoom) (objectId : Nat) (f : HostileNPC → HostileNPC)
    : GameRoom :=
  room.modifyNonplayerObject objectId fun
    | .container box => .container box
    | .hostileNpc npc => .hostileNpc (f npc)

/-- Undo the occupation on both sides; a container that another player took over keeps its
new holder.
-/
def releaseInteractingContainer (room : GameRoom) (sessionId : Nat) : GameRoom :=
  match room.playerSessions.lookup sessionId with
  | none => room
  | some session =>
      let room :=
        room.modifySession sessionId ({ · with interactingContainerId := none })
      match session.interactingContainerId with
      | none => room
      | some containerId =>
          match room.findContainer containerId with
          | none => room
          | some box =>
              if box.interactingPlayerId ≠ session.objectId then room
              else room.modifyContainer containerId ({ · with interactingPlayerId := none })

def isPlayerNearContainer (env : Environment) (room : GameRoom)
    (playerObjectId containerObjectId : Nat)
    : Bool :=
  match room.findPlayerObject playerObjectId, room.findNonplayerObject containerObjectId with
  | some player, some target =>
      env.isWithinInteractRange player.base.position target.base.position
  | _, _ => false

def isInRecallZone (env : Environment) (room : GameRoom) (index : Nat) (position : Vector3)
    : Bool :=
  env.recallZoneContains room.mapId index position

/-- The chunking loop of `FillStaticObjects` and `FillDynamicObjects`: a packet closes when
the next object would exceed the payload limit.
-/
def fillChunks (env : Environment)
    : List UnityGameObjectInfo → Nat → List UnityGameObjectInfo → Nat
      → List (Nat × Bool × List UnityGameObjectInfo)
  | [], index, current, size =>
      if 0 < size ∨ index = 0 then [(index, true, current.reverse)] else []
  | object :: rest, index, current, size =>
      let itemSize := env.byteSize object + 5
      if size + itemSize > 1024 - 45 then
        (index, false, current.reverse) :: fillChunks env rest (index + 1) [object] itemSize
      else fillChunks env rest index (object :: current) (size + itemSize)

def serializedObjects (objects : Table Nat NonplayerObject) : List UnityGameObjectInfo :=
  objects.values.map fun object => object.base.serialize

def fillStaticObjects (env : Environment) (room : GameRoom) : List D2CMessage :=
  (fillChunks env (serializedObjects room.staticObjects) 0 [] 0).map
    fun (index, isLast, objects) => .responseBlueprintStaticObjects index isLast objects

def fillDynamicObjects (env : Environment) (room : GameRoom) : List D2CMessage :=
  (fillChunks env (serializedObjects room.dynamicObjects) 0 [] 0).map
    fun (index, isLast, objects) => .responseSpawnMeDynamicObjects index isLast objects

end GameRoom

namespace RoomHost

-----------------------------------------------------------------------------------------
-- Clock and sends
-----------------------------------------------------------------------------------------

def now (env : Environment) (host : RoomHost) : RoomHost × TimePoint :=
  ({ host with wire := { host.wire with reads := host.wire.reads + 1 } },
    env.clock host.wire.reads)

def modifyRoom (host : RoomHost) (f : GameRoom → GameRoom) : RoomHost :=
  { host with room := f host.room }

def modifyChannel (host : RoomHost) (sessionId : Nat)
    (f : Channel D2CMessage → Channel D2CMessage)
    : RoomHost :=
  { host with
    wire :=
      { host.wire with
        channels :=
          Function.update host.wire.channels sessionId (f (host.wire.channels sessionId)) } }

/-- Build a message for a session and hand it to the socket. -/
def send (env : Environment) (host : RoomHost) (sessionId : Nat) (message : D2CMessage)
    : RoomHost :=
  match host.room.playerSessions.lookup sessionId with
  | none => host
  | some session =>
      let (host, now) := host.now env
      let (channel, buf) := (host.wire.channels sessionId).makeD2CPacketImpl
        (env.digest session.securityKey) (BitVec.ofNat 16 sessionId) session.clientAddr
        (nowMs now) message.pktId message.isReliable message
      { host with
        wire :=
          { host.wire with
            channels := Function.update host.wire.channels sessionId channel
            sent := host.wire.sent ++ [(buf, session.clientAddr)] } }

def sendAll (env : Environment) (host : RoomHost) (sessionId : Nat)
    (messages : List D2CMessage)
    : RoomHost :=
  messages.foldl (fun host message => host.send env sessionId message) host

/-- Send to every session that may receive broadcasts, but one. -/
def broadcastExcept (env : Environment) (host : RoomHost) (message : D2CMessage)
    (exceptSessionId : Option Nat)
    : RoomHost :=
  host.room.playerSessions.entries.foldl
    (fun host entry =>
      if !entry.2.canReceiveBroadcast || some entry.1 == exceptSessionId then host
      else host.send env entry.1 message)
    host

def broadcast (env : Environment) (host : RoomHost) (message : D2CMessage) : RoomHost :=
  host.broadcastExcept env message none

/-- `GetLastSentRSeq`. -/
def lastSentRSeq (host : RoomHost) (sessionId : Nat) : BitVec 32 :=
  (host.wire.channels sessionId).sendRSeq

-----------------------------------------------------------------------------------------
-- Objects
-----------------------------------------------------------------------------------------

def getNewObjectId (host : RoomHost) : RoomHost × Nat :=
  (host.modifyRoom fun room => { room with nxtObjectId := room.nxtObjectId + 1 },
    host.room.nxtObjectId)

def spawnDynamicObject (env : Environment) (host : RoomHost) (object : NonplayerObject)
    : RoomHost :=
  let objectId := object.base.objectId
  if objectId ∈ host.room.dynamicObjects then host
  else
    (host.modifyRoom fun room =>
      { room with dynamicObjects := room.dynamicObjects.tryEmplace objectId object }
    ).broadcast env (.notifySpawnObject object.base.serialize)

def spawnPlayerObject (env : Environment) (host : RoomHost) (object : PlayerObject)
    (ownerSessionId : Nat)
    : RoomHost :=
  let objectId := object.base.objectId
  if objectId ∈ host.room.playerObjects then host
  else
    (host.modifyRoom fun room =>
      { room with playerObjects := room.playerObjects.tryEmplace objectId object }
    ).broadcastExcept env (.spawnPlayerObject object.spawnInfo) (some ownerSessionId)

def spawnPlayerLootContainer (env : Environment) (host : RoomHost) (object : PlayerObject)
    (inventory : PlayerInventory)
    : RoomHost :=
  let (host, objectId) := host.getNewObjectId
  host.spawnDynamicObject env
    (.container
      (PlayerLootContainer.create objectId object.base.position object.base.yawAngle
        inventory))

def notifyNpcAuthority (env : Environment) (host : RoomHost) (npc : HostileNPC)
    : RoomHost :=
  host.broadcast env (.notifyNpcAuthority npc.base.objectId npc.targetId npc.aggro)

/-- Take back the authority of a player over every NPC that has it as its target. -/
def releaseNpcAuthority (env : Environment) (host : RoomHost)
    (playerObjectId : Option Nat)
    : RoomHost :=
  match playerObjectId with
  | none => host
  | some playerObjectId =>
      host.room.dynamicObjects.keys.foldl
        (fun host objectId =>
          match (host.room.dynamicObjects.lookup objectId).bind
              NonplayerObject.asHostileNpc with
          | none => host
          | some npc =>
              if !npc.isAuthority playerObjectId then host
              else
                let (npc, released) := npc.releaseAuthority
                if !released then host
                else
                  (host.modifyRoom fun room =>
                    { room with
                      dynamicObjects :=
                        room.dynamicObjects.adjust objectId fun _ => .hostileNpc npc }
                  ).notifyNpcAuthority env npc)
        host

/-- Remove a destroyed dynamic object and tell everyone. -/
def destroyDeadObject (env : Environment) (host : RoomHost) (objectId : Nat) : RoomHost :=
  match host.room.dynamicObjects.lookup objectId with
  | none => host
  | some object =>
      let host := host.modifyRoom fun room =>
        { room with dynamicObjects := AList.erase objectId room.dynamicObjects }
      let killerObjectId := object.asHostileNpc.bind (·.combat.lastAttackerId)
      host.broadcast env
        (.notifyObjectKilled objectId killerObjectId
          (host.room.findObjectName killerObjectId))

-----------------------------------------------------------------------------------------
-- Leaving
-----------------------------------------------------------------------------------------

def markLeaving (env : Environment) (host : RoomHost) (sessionId : Nat)
    (reason : LeaveReason) (notifyRSeq : BitVec 32)
    : RoomHost :=
  let (host, now) := host.now env
  host.modifyRoom fun room =>
    room.modifySession sessionId (·.markLeaving reason now notifyRSeq)

/-- Report the leave to the main process, once for each session. -/
def notifyLeftOnce (host : RoomHost) (sessionId : Nat) : RoomHost :=
  match host.room.playerSessions.lookup sessionId with
  | none => host
  | some session =>
      if session.leftNotified then host
      else
        { room := host.room.modifySession sessionId ({ · with leftNotified := true })
          wire :=
            { host.wire with
              leftNotices := host.wire.leftNotices ++ [(sessionId, session.leftNotice)] } }

def finalizeLeave (host : RoomHost) (sessionId : Nat) : RoomHost :=
  let host := host.modifyChannel sessionId (·.clearPendingReliableExcept 0)
  (host.modifyRoom fun room =>
    room.modifySession sessionId
      ({ · with leaveState := .finalized, sessionState := .left })
  ).notifyLeftOnce sessionId

def toDespawnReason : LeaveReason → DespawnReason
  | .recalled => .recalled
  | .dead => .dead
  | .disconnected => .disconnected
  | .none => .unknown

/-- The part of `DetachPlayer` that deals with the session's player object. -/
def detachObject (env : Environment) (host : RoomHost) (sessionId objectId : Nat)
    (object : PlayerObject) (inventory : PlayerInventory) (reason : LeaveReason)
    : RoomHost :=
  let host :=
    if reason = .dead then
      let host := host.spawnPlayerLootContainer env object inventory
      let killerObjectId := object.combat.lastAttackerId
      host.broadcast env
        (.notifyPlayerKilled objectId killerObjectId object.objectName
          (host.room.findObjectName killerObjectId))
    else host
  let host :=
    if reason = .dead ∨ reason = .disconnected then
      host.modifyRoom fun room =>
        room.modifySession sessionId fun session =>
          { session with inventory := session.inventory.clear }
    else host
  let host := host.modifyRoom fun room =>
    { room with playerObjects := AList.erase objectId room.playerObjects }
  host.broadcastExcept env (.despawnPlayerObject objectId (toDespawnReason reason))
    (some sessionId)

def detachPlayer (env : Environment) (host : RoomHost) (sessionId : Nat) : RoomHost :=
  match host.room.playerSessions.lookup sessionId with
  | none => host
  | some session =>
      let objectId := session.objectId
      let reason := session.leaveReason
      let host := host.modifyRoom fun room =>
        room.modifySession sessionId fun session =>
          { session.endRecall with
            sessionState := if reason = .dead then .spectating else .left }
      let host := host.modifyRoom (·.releaseInteractingContainer sessionId)
      let host := host.releaseNpcAuthority env objectId
      let host :=
        match objectId with
        | none => host
        | some objectId =>
            match host.room.findPlayerObject objectId with
            | none => host
            | some object =>
                host.detachObject env sessionId objectId object session.inventory reason
      let host := host.modifyRoom fun room =>
        room.modifySession sessionId ({ · with objectId := none, leaveState := .detached })
      host.notifyLeftOnce sessionId

/-- The room's lifetime has passed: everybody who is not leaving yet dies. -/
def allKill (env : Environment) (host : RoomHost) : RoomHost :=
  host.room.playerSessions.keys.foldl
    (fun host sessionId => host.markLeaving env sessionId .dead 0) host

/-- Mark the sessions whose current object has died. -/
def markDead (env : Environment) (host : RoomHost) : RoomHost :=
  let deadObjectIds :=
    (host.room.playerObjects.entries.filter (·.2.combat.deathPending)).map Sigma.fst
  deadObjectIds.foldl
    (fun host objectId =>
      match host.room.findSessionByObjectId objectId with
      | none => host
      | some sessionId => host.markLeaving env sessionId .dead 0)
    host

def detectDisconnectedSessions (env : Environment) (host : RoomHost) : RoomHost :=
  let (host, now) := host.now env
  host.room.playerSessions.keys.foldl
    (fun host sessionId =>
      match host.room.playerSessions.lookup sessionId with
      | none => host
      | some session =>
          let echoTs := (host.wire.channels sessionId).lastEchoTs
          if !session.isInplay || session.isLeaving then host
          else if echoTs = 0 then host
          else if nowMs now - echoTs < PlayerSession.DISCONNECT_TIMEOUT_MS then host
          else host.markLeaving env sessionId .disconnected 0)
    host

/-- Keep only the notice of the leave among the packets of a session marked as leaving. -/
def clearPendingOfLeaving (host : RoomHost) : RoomHost :=
  host.room.playerSessions.entries.foldl
    (fun host entry =>
      if entry.2.leaveState = .pending then
        host.modifyChannel entry.1
          (·.clearPendingReliableExcept entry.2.leaveNotifyRSeq)
      else host)
    host

/-- A death waits out its grace period; another leave ends when its notice is
acknowledged.
-/
def isFinalizeReady (host : RoomHost) (sessionId : Nat) (session : PlayerSession)
    (now : TimePoint)
    : Bool :=
  if session.leaveReason = .dead then
    elapsedMs session.leaveMarkedAt now ≥ PlayerSession.DEATH_GRACE_MS
  else if session.leaveNotifyRSeq = 0 then true
  else if !(host.wire.channels sessionId).isReliablePending session.leaveNotifyRSeq then true
  else elapsedMs session.leaveMarkedAt now ≥ PlayerSession.LEAVE_FINALIZE_TIMEOUT_MS

/-- One session's turn in the detaching loop of `ProcessLeaves`. -/
def advanceLeave (env : Environment) (now : TimePoint) (host : RoomHost) (sessionId : Nat)
    : RoomHost :=
  let host :=
    match host.room.playerSessions.lookup sessionId with
    | none => host
    | some session =>
        if session.leaveState = LeaveState.pending then host.detachPlayer env sessionId else host
  match host.room.playerSessions.lookup sessionId with
  | none => host
  | some session =>
      if session.leaveState = LeaveState.detached
          ∧ host.isFinalizeReady sessionId session now then
        host.finalizeLeave sessionId
      else host

def checkAllLeft (host : RoomHost) : RoomHost :=
  if host.room.allLeftReported then host
  else if host.room.playerSessions.values.any (·.leaveState != .finalized) then host
  else
    { room := { host.room with allLeftReported := true }
      wire :=
        { host.wire with
          pendingDestroyRooms := host.wire.pendingDestroyRooms ++ [host.room.roomId] } }

/-- The marking half of `ProcessLeaves`, before the loop that detaches. -/
def markLeaves (env : Environment) (now : TimePoint) (host : RoomHost) : RoomHost :=
  let host :=
    if !host.room.lifetimeExpired
        && elapsedMs host.room.createdAt now ≥ GameRoom.ROOM_LIFETIME_MS then
      (host.modifyRoom ({ · with lifetimeExpired := true })).allKill env
    else host
  ((host.markDead env).detectDisconnectedSessions env).clearPendingOfLeaving

def processLeaves (env : Environment) (host : RoomHost) : RoomHost :=
  let (host, now) := host.now env
  let host := host.markLeaves env now
  (host.room.playerSessions.keys.foldl (advanceLeave env now) host).checkAllLeft

-----------------------------------------------------------------------------------------
-- Periodic updates
-----------------------------------------------------------------------------------------

def regenPlayerShields (env : Environment) (host : RoomHost) : RoomHost :=
  let (host, now) := host.now env
  if host.room.lastRegenMs = 0 then
    host.modifyRoom ({ · with lastRegenMs := nowMs now })
  else
    let sinceLast := nowMs now - host.room.lastRegenMs
    let elapsed :=
      if sinceLast > GameRoom.MAX_REGEN_STEP_MS then GameRoom.MAX_REGEN_STEP_MS
      else sinceLast
    host.modifyRoom fun room =>
      { room with
        lastRegenMs := nowMs now
        playerObjects :=
          room.playerObjects.mapWithKey fun _ object =>
            { object with combat := object.combat.regenShield elapsed.toNat } }

def broadcastPlayerStates (env : Environment) (host : RoomHost) : RoomHost :=
  if host.room.playerObjects.values.isEmpty then host
  else
    host.broadcast env
      (.updatePlayerStates (host.room.playerObjects.values.map PlayerObject.fillState))

def update (env : Environment) (host : RoomHost) : RoomHost :=
  (host.regenPlayerShields env).broadcastPlayerStates env

def updateNpcStates (env : Environment) (host : RoomHost) : RoomHost :=
  let states := host.room.dynamicObjects.values.filterMap fun object =>
    object.asHostileNpc.bind fun npc =>
      if npc.isServerDriven then none else some npc.base.movementInfo
  if states.isEmpty then host else host.broadcast env (.updateNpcStates states)

end RoomHost

end ExtractionServer.Room
