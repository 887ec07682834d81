import ExtractionServer.Lobby.Database

/-! The shop: `/items/purchase` and `/items/sell`. -/

namespace ExtractionServer.Lobby

open JavaScript (Value)

-----------------------------------------------------------------------------------------
-- Errors
-----------------------------------------------------------------------------------------

def badRequest : Stop :=
  .answer .badRequest { message := "요청 형식이 올바르지 않습니다.", code := some "ERR_BAD_REQUEST" }

def invalidSlot : Stop :=
  .answer .badRequest { message := "구매한 아이템은 창고에만 넣을 수 있습니다.", code := some "ERR_INVALID_SLOT" }

def slotOccupied : Stop :=
  .answer .badRequest { message := "구매 슬롯이 이미 사용 중입니다.", code := some "ERR_SLOT_OCCUPIED" }

def itemNotFound : Stop :=
  .answer .notFound { message := "존재하지 않는 아이템입니다.", code := some "ERR_ITEM_NOT_FOUND" }

def itemNotForSale : Stop :=
  .answer .forbidden { message := "판매 중인 아이템이 아닙니다.", code := some "ERR_ITEM_NOT_FOR_SALE" }

def invalidQuantity : Stop :=
  .answer .badRequest
    { message := "해당 아이템은 1개만 구매할 수 있습니다.", code := some "ERR_INVALID_QUANTITY" }

def slotEmpty : Stop :=
  .answer .badRequest { message := "판매할 아이템이 없는 슬롯입니다.", code := some "ERR_SLOT_EMPTY" }

def itemMismatch : Stop :=
  .answer .badRequest
    { message := "판매 대상이 인벤토리와 일치하지 않습니다.", code := some "ERR_ITEM_MISMATCH" }

def snapshotMismatch : ResponseError :=
  { message := "인벤토리 스냅샷이 일치하지 않습니다.", code := some "ERR_SNAPSHOT_MISMATCH" }

def insufficientFunds : ResponseError :=
  { message := "잔액이 부족합니다.", code := some "ERR_INSUFFICIENT_FUNDS" }

def internalError : ResponseError :=
  { message := "서버 내부 오류", code := some "ERR_INTERNAL" }

-----------------------------------------------------------------------------------------
-- Requests
-----------------------------------------------------------------------------------------

/-- The data of a successful trade. -/
structure TradeData where
  money : Int
  inventory : List InventoryItem
deriving DecidableEq, Repr

/-- A purchase that has passed the checks before the transaction. -/
structure Purchase where
  item : InventoryItem
  snapshot : Snapshot
  totalCost : Int

/-- The checks of `/items/purchase` before the transaction. Without a body its destructuring
throws.
-/
def readPurchase (catalog : Catalog) (body : Option Value) : Except Stop Purchase :=
  match body with
  | none => .error .thrown
  | some body =>
      match Value.integer? (body.get "item_id"), Value.integer? (body.get "slot_index"),
        Value.integer? (body.get "quantity"), Value.array? (body.get "inventory") with
      | some itemId, some slotIndex, some quantity, some inventory =>
          if itemId ≤ 0 ∨ quantity < 1 ∨ 99 < quantity then .error badRequest
          else if slotIndex < WAREHOUSE_SLOT_MIN ∨ WAREHOUSE_SLOT_MAX < slotIndex then
            .error invalidSlot
          else do
            let snapshot ← validateSnapshot inventory
            if snapshot.has slotIndex then throw slotOccupied
            else
              match catalog.shop.lookup itemId with
              | none => throw itemNotFound
              | some shopItem =>
                  if !shopItem.isActive then throw itemNotForSale
                  else if (shopItem.itemType = .weapon ∨ shopItem.itemType = .armor)
                      ∧ quantity ≠ 1 then
                    throw invalidQuantity
                  else
                    return {
                      item := { itemId, slotIndex, quantity }
                      snapshot
                      totalCost := JavaScript.mul shopItem.price quantity }
      | _, _, _, _ => .error badRequest

/-- The transaction of `/items/purchase`. -/
def purchaseTransaction (catalog : Catalog) (fails : Call → Bool) (account : Account)
    (request : Purchase)
    : Except Stop (Account × Option TradeData) := do
  call fails .beginTransaction
  call fails .selectInventory
  if !totalsMatch account.rows request.snapshot.items then refuse fails .conflict snapshotMismatch
  else
    call fails .selectMoney
    match account.money with
    | none => throw .thrown
    | some money =>
        if money < request.totalCost then refuse fails .paymentRequired insufficientFunds
        else
          let newInventory := request.snapshot.items ++ [request.item]
          let account ← rewriteRows catalog fails account newInventory
          let account ← updateMoney fails account (-request.totalCost)
          call fails .commit
          return (account,
            some { money := money - request.totalCost, inventory := newInventory })

/-- A sale that has passed the checks before the transaction. -/
structure Sale where
  item : InventoryItem
  snapshot : Snapshot

/-- The checks of `/items/sell` before the transaction. -/
def readSale (body : Option Value) : Except Stop Sale :=
  match body with
  | none => .error .thrown
  | some body =>
      match Value.integer? (body.get "item_id"), Value.integer? (body.get "slot_index"),
        Value.integer? (body.get "quantity"), Value.array? (body.get "inventory") with
      | some itemId, some slotIndex, some quantity, some inventory =>
          if itemId ≤ 0 ∨ quantity < 1 then .error badRequest
          else do
            let snapshot ← validateSnapshot inventory
            match snapshot.items.find? (·.slotIndex == slotIndex) with
            | none => throw slotEmpty
            | some soldEntry =>
                if soldEntry.itemId ≠ itemId ∨ soldEntry.quantity ≠ quantity then
                  throw itemMismatch
                else return { item := { itemId, slotIndex, quantity }, snapshot }
      | _, _, _, _ => .error badRequest

/-- The transaction of `/items/sell`. The price comes from Redis. Without a row in `users` the
answer throws after the commit.
-/
def saleTransaction (catalog : Catalog) (fails : Call → Bool) (account : Account)
    (request : Sale)
    : Except Stop (Account × Option TradeData) := do
  call fails .beginTransaction
  call fails .selectInventory
  if !totalsMatch account.rows request.snapshot.items then refuse fails .conflict snapshotMismatch
  else
    call fails .selectMoney
    call fails .hGetPrice
    match catalog.itemMeta.lookup request.item.itemId with
    | none => refuse fails .internalServerError internalError
    | some price =>
        if price < 0 then refuse fails .internalServerError internalError
        else
          let payout := JavaScript.mul request.item.quantity price
          let newInventory :=
            request.snapshot.items.filter (·.slotIndex ≠ request.item.slotIndex)
          let after ← rewriteRows catalog fails account newInventory
          let after ← updateMoney fails after payout
          call fails .commit
          return (after, account.money.map fun money =>
            { money := money + payout, inventory := newInventory })

/-- A handler of the shop: the checks, the connection, the transaction. An error of the
transaction rolls it back; an exception before it is not caught.
-/
def trade {Request : Type} (fails : Call → Bool) (account : Account)
    (read : Except Stop Request)
    (transaction : Request → Except Stop (Account × Option TradeData))
    : Account × Response TradeData :=
  match read with
  | .error (.answer status error) => (account, .failure status error)
  | .error .thrown => (account, .unhandled)
  | .ok request =>
      if fails .getConnection then (account, .unhandled)
      else
        match transaction request with
        | .ok (after, some data) => (after, .success data)
        | .ok (after, none) => (after, .failure .internalServerError internalError)
        | .error (.answer status error) => (account, .failure status error)
        | .error .thrown => (account, .failure .internalServerError internalError)

def purchase (catalog : Catalog) (fails : Call → Bool) (account : Account)
    (body : Option Value)
    : Account × Response TradeData :=
  trade fails account (readPurchase catalog body)
    (purchaseTransaction catalog fails account)

def sell (catalog : Catalog) (fails : Call → Bool) (account : Account) (body : Option Value)
    : Account × Response TradeData :=
  trade fails account (readSale body) (saleTransaction catalog fails account)

end ExtractionServer.Lobby
