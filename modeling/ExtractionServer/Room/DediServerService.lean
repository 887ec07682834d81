import ExtractionServer.Room.RoomRuns

/-! The dedicated process: its rooms, the registry of its sessions, and how it makes rooms
for groups and destroys them.
-/

namespace ExtractionServer.Room

/-- The rooms that the constructors of the two maps build. They place objects and register
nobody.
-/
structure MapRooms where
  testGameRoom : Nat → GameRoom
  tenerifeGameRoom : Nat → GameRoom
  testGameRoom_fresh (roomId : Nat)
    : ({ room := testGameRoom roomId } : RoomHost).Fresh
      ∧ (testGameRoom roomId).playerSessions = ∅
  tenerifeGameRoom_fresh (roomId : Nat)
    : ({ room := tenerifeGameRoom roomId } : RoomHost).Fresh
      ∧ (tenerifeGameRoom roomId).playerSessions = ∅

def MAP_TUTORIAL : Int := 0
def MAP_TENERIFE : Int := 1

/-- `WORLD_ITEM_UID_BASE`, from which the items that a map places are numbered. -/
def WORLD_ITEM_UID_BASE : Nat := 2 ^ 62

/-- The constructor of `TestItemBox`. -/
def testItemBox (objectId : Nat) : Container :=
  let box := Container.ofVolume { objectId, objectType := .testItemBox }
    Container.DEFAULT_CONTAINER_VOLUME
  let box := (box.placeItem 0 5 60 (WORLD_ITEM_UID_BASE + 1)).1
  let box := (box.placeItem 1 6 30 (WORLD_ITEM_UID_BASE + 2)).1
  (box.placeItem 2 4 1 (WORLD_ITEM_UID_BASE + 3)).1

/-- The constructor of `TestGameRoom`: four spawn spots ten metres from the middle, and one
box.
-/
def testGameRoom (roomId : Nat) : GameRoom where
  roomId
  mapId := MAP_TUTORIAL.toNat
  playerSessions := ∅
  staticObjects := AList.singleton 0 (.container (testItemBox 0))
  spawnSpots := [{ x := 0x41200000 }, { x := 0xC1200000 }, { z := 0x41200000 },
    { z := 0xC1200000 }]
  nxtObjectId := 1

theorem testGameRoom_fresh (roomId : Nat)
    : ({ room := testGameRoom roomId } : RoomHost).Fresh
      ∧ (testGameRoom roomId).playerSessions = ∅ := by
  refine ⟨⟨?_, rfl, ?_, ?_, rfl, rfl, rfl, rfl⟩, rfl⟩
  · intro sessionId session found
    cases found
  · intro objectId object found
    have mem : object ∈ (testGameRoom roomId).staticObjects.values :=
      Table.mem_values_iff.mpr ⟨_, found⟩
    obtain rfl := List.mem_singleton.mp mem
    exact ⟨_, rfl, rfl⟩
  · intro objectId object found
    cases found

/-- What is drawn at random for one player: the candidates of `GetUniqueToken` up to the one
that ends its loop, and the security key.
-/
structure Draw where
  tokens : List String
  securityKey : BitVec 32

/-- What `D2MUpdateEntryToken` says about one player. -/
structure EntryToken where
  ticketId : String
  sessionId : Nat
  entryToken : String
  securityKey : BitVec 32
deriving DecidableEq, Repr

/-- The messages about whole rooms. -/
inductive D2MMessage where
  | updateEntryToken (players : List EntryToken)
  | notifyRoomDestroyed (roomId playerCount : Nat)
deriving DecidableEq, Repr

/-- `DediServerService`. A session is known by its id, and `players` holds the room of the
session with each id.
-/
structure DediServerService where
  roomId : Nat := 0
  gameRooms : Table Nat RoomHost := ∅
  players : List (Option Nat) := List.replicate 51 none
  entryTokens : Table Nat String := ∅
  tokenToPlayerSession : Table String Nat := ∅
  freePlayerIds : List Nat := List.range 50
  pendingDestroyRooms : List Nat := []
  toMain : List D2MMessage := []

namespace DediServerService

-----------------------------------------------------------------------------------------
-- Making a room
-----------------------------------------------------------------------------------------

/-- The front of the free ids, or a new slot behind all others. -/
def getFreeSessionId (service : DediServerService) : DediServerService × Nat :=
  match service.freePlayerIds with
  | id :: rest => ({ service with freePlayerIds := rest }, id)
  | [] => ({ service with players := service.players ++ [none] }, service.players.length)

/-- Tokens are drawn until one is not taken. -/
def getUniqueToken (service : DediServerService) (tokens : List String) : Option String :=
  tokens.find? fun token => decide (token ∉ service.tokenToPlayerSession)

/-- The stack of an item slot in a group's packet. -/
def toSlot (s : ItemSlot) : Slot where
  item := { blueprintId := s.itemId }
  slotIndex := s.slotIndex
  quantity := s.quantity

/-- The constructor of `PlayerSession`. -/
def newSession (info : PlayerInfo) (securityKey : BitVec 32) : PlayerSession where
  uid := info.uid
  userId := info.userId
  characterType := info.characterType
  securityKey
  inventory := .ofSlots (info.inventoryItems.map toSlot) (info.equipmentItems.map toSlot)

/-- The variables of the loop of `MakeRoomForThisGroup`. -/
structure Admission where
  service : DediServerService
  room : GameRoom
  entries : List EntryToken := []

/-- One iteration: a token, a session id, and the session in all registers. -/
def Admission.admitPlayer (loop : Admission) (roomId : Nat) (info : PlayerInfo) (draw : Draw)
    : Option Admission :=
  (loop.service.getUniqueToken draw.tokens).map fun token =>
    let (service, sessionId) := loop.service.getFreeSessionId
    { service :=
        { service with
          players := service.players.set sessionId (some roomId)
          entryTokens := service.entryTokens.insert sessionId token
          tokenToPlayerSession := service.tokenToPlayerSession.insert token sessionId }
      room :=
        { loop.room with
          playerSessions :=
            loop.room.playerSessions.tryEmplace sessionId (newSession info draw.securityKey) }
      entries :=
        loop.entries ++
          [{ ticketId := info.ticketId, sessionId, entryToken := token,
             securityKey := draw.securityKey }] }

def Admission.admitAll (roomId : Nat)
    : Admission → List PlayerInfo → List Draw → Option Admission
  | loop, [], _ => some loop
  | _, _ :: _, [] => none
  | loop, info :: infos, draw :: draws =>
      match loop.admitPlayer roomId info draw with
      | none => none
      | some loop => loop.admitAll roomId infos draws

/-- `MakeRoomForThisGroup`; undefined when the draws run out. -/
def makeRoomForThisGroup (maps : MapRooms) (service : DediServerService) (draws : List Draw)
    (pkt : M2DMakeRoomForThisGroup)
    : Option (DediServerService × Bool) :=
  let roomId := service.roomId + 1
  let service := { service with roomId }
  let newRoom :=
    if pkt.mapId = MAP_TUTORIAL then some (maps.testGameRoom roomId)
    else if pkt.mapId = MAP_TENERIFE then some (maps.tenerifeGameRoom roomId)
    else none
  match newRoom with
  | none => some (service, false)
  | some room =>
      (Admission.admitAll roomId { service, room } pkt.playerInfos draws).map fun loop =>
        ({ loop.service with
            gameRooms := loop.service.gameRooms.tryEmplace roomId { room := loop.room }
            toMain := loop.service.toMain ++ [.updateEntryToken loop.entries] }, true)

-----------------------------------------------------------------------------------------
-- Rooms at work and their end
-----------------------------------------------------------------------------------------

/-- Something happens in one room; what it reserves for destruction joins the list of the
process.
-/
def inRoom (env : Environment) (service : DediServerService) (roomId : Nat)
    (action : RoomHost.Action)
    : Option DediServerService :=
  match service.gameRooms.lookup roomId with
  | none => none
  | some host =>
      (host.next env action).map fun host =>
        { service with
          gameRooms := service.gameRooms.adjust roomId fun _ =>
            { host with wire := { host.wire with pendingDestroyRooms := [] } }
          pendingDestroyRooms :=
            service.pendingDestroyRooms ++ host.wire.pendingDestroyRooms }

/-- Return one session of a destroyed room. -/
def releaseSession (service : DediServerService) (sessionId : Nat) : DediServerService :=
  { service with
    tokenToPlayerSession :=
      match service.entryTokens.lookup sessionId with
      | none => service.tokenToPlayerSession
      | some token => service.tokenToPlayerSession.erase token
    entryTokens := service.entryTokens.erase sessionId
    players := service.players.set sessionId none
    freePlayerIds := service.freePlayerIds ++ [sessionId] }

def destroyRoom (service : DediServerService) (roomId : Nat) : DediServerService :=
  match service.gameRooms.lookup roomId with
  | none => service
  | some host =>
      let sessionIds := host.room.playerSessions.keys
      let service :=
        { service with
          toMain := service.toMain ++ [.notifyRoomDestroyed roomId sessionIds.length] }
      let service := sessionIds.foldl releaseSession service
      { service with gameRooms := service.gameRooms.erase roomId }

def destroyPendingRooms (service : DediServerService) : DediServerService :=
  { service.pendingDestroyRooms.foldl destroyRoom service with pendingDestroyRooms := [] }

end DediServerService

end ExtractionServer.Room
