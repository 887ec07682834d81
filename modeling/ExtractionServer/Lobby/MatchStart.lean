import ExtractionServer.Lobby.Items
import ExtractionServer.Lobby.Redis

/-! `/match/start`: the snapshot becomes the rows of the account, then the account is locked
and a ticket is made.
-/

namespace ExtractionServer.Lobby

open JavaScript (Value)

-----------------------------------------------------------------------------------------
-- Requests
-----------------------------------------------------------------------------------------

def invalidMapId : Stop :=
  .answer .badRequest { message := "유효하지 않은 mapId 입니다.", code := some "ERR_INVALID_MAP_ID" }

def invalidCharacterType : Stop :=
  .answer .badRequest
    { message := "유효하지 않은 characterType 입니다.", code := some "ERR_INVALID_CHARACTER_TYPE" }

def badLoadoutType : Stop :=
  .answer .badRequest { message := "잘못된 loadoutType 입니다." }

def inventoryRequired : Stop :=
  .answer .badRequest { message := "inventory 배열이 필요합니다.", code := some "ERR_BAD_REQUEST" }

def loadoutNotEmpty : Stop :=
  .answer .badRequest
    { message := "인벤토리와 장착 슬롯을 비워야 프리 로드아웃으로 입장할 수 있습니다.",
      code := some "ERR_LOADOUT_NOT_EMPTY" }

def noWeaponEquipped : Stop :=
  .answer .badRequest
    { message := "무기를 최소 하나 장착해야 합니다.", code := some "ERR_NO_WEAPON_EQUIPPED" }

def alreadyInMatch : ResponseError :=
  { message := "이미 매칭 중입니다.", code := some "ERR_ALREADY_IN_MATCH" }

def VALID_MAP_IDS : List Int := [0, 1]
def VALID_CHARACTER_TYPES : List Int := [0, 1, 2]

def LoadoutType.read : Option Value → Option LoadoutType
  | some (.string "FREE") => some .free
  | some (.string "CUSTOM") => some .custom
  | _ => none

structure StartRequest where
  mapId : Int
  characterType : Int
  loadoutType : LoadoutType
  snapshot : Snapshot

/-- The checks before the transaction. -/
def readStart (body : Value) : Except Stop StartRequest :=
  match Value.integer? (body.get "mapId") with
  | none => .error invalidMapId
  | some mapId =>
      if mapId ∉ VALID_MAP_IDS then .error invalidMapId
      else
        match Value.integer? (body.get "characterType") with
        | none => .error invalidCharacterType
        | some characterType =>
            if characterType ∉ VALID_CHARACTER_TYPES then .error invalidCharacterType
            else
              match LoadoutType.read (body.get "loadoutType") with
              | none => .error badLoadoutType
              | some loadoutType =>
                  match Value.array? (body.get "inventory") with
                  | none => .error inventoryRequired
                  | some inventory => do
                      let snapshot ← validateSnapshot inventory
                      if loadoutType = .free
                          ∧ snapshot.items.any (INVENTORY_SLOT_MIN ≤ ·.slotIndex) then
                        throw loadoutNotEmpty
                      return { mapId, characterType, loadoutType, snapshot }

-----------------------------------------------------------------------------------------
-- Loadouts
-----------------------------------------------------------------------------------------

structure Loadout where
  inventoryItems : List InventoryEntry
  equipmentItems : List EquipmentEntry
deriving DecidableEq, Repr

def FREE_LOADOUT_PRESETS : List Loadout :=
  [{ inventoryItems :=
        [{ itemId := 6, quantity := 90, inventorySlotId := 0 },
          { itemId := 5, quantity := 90, inventorySlotId := 1 }]
     equipmentItems :=
        [{ itemId := 1, equipmentSlotId := 0 }, { itemId := 2, equipmentSlotId := 1 },
          { itemId := 4, equipmentSlotId := 2 }] },
    { inventoryItems :=
        [{ itemId := 5, quantity := 90, inventorySlotId := 0 },
          { itemId := 6, quantity := 90, inventorySlotId := 1 }]
      equipmentItems :=
        [{ itemId := 2, equipmentSlotId := 0 }, { itemId := 1, equipmentSlotId := 1 },
          { itemId := 4, equipmentSlotId := 2 }] }]

def inventoryRaw (inventory : List InventoryItem) : List InventoryItem :=
  inventory.filter fun e =>
    INVENTORY_SLOT_MIN ≤ e.slotIndex ∧ e.slotIndex < LOADOUT_SLOT_MIN

def equipmentRaw (inventory : List InventoryItem) : List InventoryItem :=
  inventory.filter fun e =>
    LOADOUT_SLOT_MIN ≤ e.slotIndex ∧ e.slotIndex ≤ LOADOUT_SLOT_MAX

def weaponSlotItems (inventory : List InventoryItem) : List InventoryItem :=
  (equipmentRaw inventory).filter fun e =>
    e.slotIndex = LOADOUT_SLOT_MIN ∨ e.slotIndex = LOADOUT_SLOT_MIN + 1

/-- The loadout that a `CUSTOM` snapshot becomes, with slots relative to their areas. -/
def customLoadout (inventory : List InventoryItem) : Loadout where
  inventoryItems := (inventoryRaw inventory).map fun e =>
    { itemId := e.itemId, quantity := e.quantity,
      inventorySlotId := e.slotIndex - INVENTORY_SLOT_MIN }
  equipmentItems := (equipmentRaw inventory).map fun e =>
    { itemId := e.itemId, equipmentSlotId := e.slotIndex - LOADOUT_SLOT_MIN }

-----------------------------------------------------------------------------------------
-- The handler
-----------------------------------------------------------------------------------------

/-- The transaction. A rollback that fails goes unnoticed here. -/
def startTransaction (catalog : Catalog) (fails : Call → Bool) (account : Account)
    (preset : Loadout) (request : StartRequest)
    : Except Stop (Account × Loadout) := do
  call fails .beginTransaction
  call fails .selectInventory
  let inventory := request.snapshot.items
  if !totalsMatch account.rows inventory then throw (.answer .conflict snapshotMismatch)
  let account ← rewriteRows catalog fails account inventory
  match request.loadoutType with
  | .free =>
      call fails .commit
      return (account, preset)
  | .custom =>
      if (weaponSlotItems inventory).isEmpty then throw noWeaponEquipped
      call fails .selectItemType
      if !(weaponSlotItems inventory).any
          (catalog.items.lookup ·.itemId == some ItemType.weapon) then
        throw noWeaponEquipped
      call fails .commit
      return (account, customLoadout inventory)

/-- What the handler changes. -/
structure StartState where
  account : Account
  redis : Redis

/-- The lock of an account. -/
def StartState.lock (state : StartState) (uid : Int) : Option LockValue :=
  state.redis.activeMatch.lookup uid

/-- A `DEL` of the lock. -/
def StartState.release (state : StartState) (fails : Call → Bool) (del : Call) (uid : Int)
    : StartState :=
  if fails del then state else { state with redis := state.redis.delLock uid }

/-- The outer `catch`. -/
def StartState.catchError (state : StartState) (fails : Call → Bool) (uid : Int)
    : StartState × Response String :=
  (state.release fails .delLockAtEnd uid, .failure .internalServerError { message := "서버 내부 오류" })

/-- The lock and the ticket, after the transaction. -/
def StartState.enqueue (state : StartState) (fails : Call → Bool) (ticketId : String)
    (session : SessionHash) (request : StartRequest) (loadout : Loadout)
    : StartState × Response String :=
  let uid := session.dbId
  if fails .setLock then state.catchError fails uid
  else if (state.lock uid).isSome then (state, .failure .conflict alreadyInMatch)
  else
    let redis :=
      { state.redis with activeMatch := state.redis.activeMatch.insert uid (.ticket ticketId) }
    let locked := { state with redis }
    if fails .hSetTicket then (locked.release fails .delLock uid).catchError fails uid
    else
      let hash : TicketHash :=
        { fields := some
            { uid
              userId := session.userId
              rating := session.rating
              aggression := session.aggression
              loadoutType := request.loadoutType
              mapId := request.mapId
              characterType := request.characterType
              inventoryItems := loadout.inventoryItems
              equipmentItems := loadout.equipmentItems }
          status := some .waiting }
      let made :=
        { state with redis := { redis with tickets := redis.tickets.insert ticketId hash } }
      if fails .expireTicket then (made.release fails .delLock uid).catchError fails uid
      else
        ({ state with
            redis :=
              { redis with
                tickets := redis.tickets.insert ticketId { hash with ttl := some 300 } } },
          .success ticketId)

/-- `/match/start` with the drawn preset and the id of the new ticket. Without a body the
destructuring throws before the handler's `try`.
-/
def start (catalog : Catalog) (fails : Call → Bool)
    (index : Fin FREE_LOADOUT_PRESETS.length) (ticketId : String) (session : SessionHash)
    (state : StartState) (body : Option Value)
    : StartState × Response String :=
  match body with
  | none => (state, .unhandled)
  | some body =>
      match readStart body with
      | .error (.answer status error) => (state, .failure status error)
      | .error .thrown => state.catchError fails session.dbId
      | .ok request =>
          if fails .getConnection then state.catchError fails session.dbId
          else
            match startTransaction catalog fails state.account
                (FREE_LOADOUT_PRESETS.get index) request with
            | .error (.answer status error) => (state, .failure status error)
            | .error .thrown => state.catchError fails session.dbId
            | .ok (account, loadout) =>
                { state with account }.enqueue fails ticketId session request loadout

end ExtractionServer.Lobby
