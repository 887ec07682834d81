import ExtractionServer.Room.DeathIsFinal
import ExtractionServer.Room.Holdings
import ExtractionServer.Room.KitSteps

/-! No item is made or lost in a room: every action moves items between sessions and containers,
apart from shots, rounds for which there is no place, and what leaves with a player.
-/

namespace ExtractionServer.Room

open Transport

-----------------------------------------------------------------------------------------
-- The items of a room
-----------------------------------------------------------------------------------------

/-- What a session has on it as long as it has not been detached. -/
def PlayerSession.carried (session : PlayerSession) (blueprintId : Nat) : Int :=
  if session.isDetached then 0 else session.inventory.holdings blueprintId

namespace GameRoom

/-- How many of an item lie in the containers of a room, the loot of the dead included. -/
def stored (room : GameRoom) (blueprintId : Nat) : Int :=
  (room.containerSlots.map (slotUnits · blueprintId)).sum

/-- How many of an item the players of a room have on them. -/
def carried (room : GameRoom) (blueprintId : Nat) : Int :=
  room.playerSessions.total fun _ session => session.carried blueprintId

/-- How many of an item there are in a room. -/
def itemTotal (room : GameRoom) (blueprintId : Nat) : Int :=
  room.stored blueprintId + room.carried blueprintId

/-- The items of a session stay in the room as loot when it is detached: it died and it has an
object.
-/
def leavesLoot (room : GameRoom) (session : PlayerSession) : Bool :=
  session.leaveReason == .dead && (room.currentObject session).isSome

/-- Every inventory is in order, and every slot of a container is empty or holds at least one
of an item.
-/
structure InOrder (room : GameRoom) : Prop where
  layout : room.Layout
  inventories : ∀ sessionId session, room.playerSessions.lookup sessionId = some session →
    SlotStore.WellFormed { inventory := session.inventory }
  containers : ∀ slots ∈ room.containerSlots, ∀ slot ∈ slots, slot.WellFormed

/-- No quantity can overflow in the room. -/
def Bounded (room : GameRoom) : Prop := ∀ blueprintId, room.itemTotal blueprintId < 2 ^ 31

/-- All items stay where they are, and all sessions stay in the room or out of it. -/
structure SameItems (before after : GameRoom) : Prop where
  layout : after.Layout
  sessions : Table.Related
    (fun _ old new => new.inventory = old.inventory ∧ new.isDetached = old.isDetached)
    before.playerSessions after.playerSessions
  containers : after.containerSlots = before.containerSlots

namespace SameItems

variable {before middle after : GameRoom}

theorem of_ordinary (step : GameRoom.Ordinary none before after) (layout : before.Layout)
    : SameItems before after where
  layout := step.layout layout
  sessions := step.sessions.mono fun _ old new related => by
    refine ⟨related.2 nofun, ?_⟩
    rw [PlayerSession.isDetached, related.1.leaveState]
    rfl
  containers := step.containerSlots rfl layout

theorem refl {room : GameRoom} (layout : room.Layout) : SameItems room room :=
  of_ordinary (.refl none room) layout

theorem trans (first : SameItems before middle) (second : SameItems middle after)
    : SameItems before after where
  layout := second.layout
  sessions :=
    first.sessions.trans
      (fun _ _ _ _ left right => ⟨right.1.trans left.1, right.2.trans left.2⟩)
      second.sessions
  containers := second.containers.trans first.containers

/-- A change of one session that keeps its items and does not detach it. -/
theorem modifySession {room : GameRoom} (layout : room.Layout) {sessionId : Nat}
    {f : PlayerSession → PlayerSession}
    (keeps : ∀ session, room.playerSessions.lookup sessionId = some session →
      (f session).inventory = session.inventory
        ∧ (f session).isDetached = session.isDetached)
    : SameItems room (room.modifySession sessionId f) where
  layout := ⟨layout.staticContainers, layout.dynamicIds, layout.playerIds⟩
  sessions := .adjust (fun _ _ => ⟨rfl, rfl⟩) keeps
  containers := rfl

theorem stored (h : SameItems before after) (blueprintId : Nat)
    : after.stored blueprintId = before.stored blueprintId := by
  rw [GameRoom.stored, h.containers]
  rfl

theorem itemTotal (h : SameItems before after) (blueprintId : Nat)
    : after.itemTotal blueprintId = before.itemTotal blueprintId := by
  have carried : after.carried blueprintId = before.carried blueprintId :=
    h.sessions.total fun _ old new same => by
      rw [PlayerSession.carried, PlayerSession.carried, same.1, same.2]
  rw [GameRoom.itemTotal, GameRoom.itemTotal, h.stored, carried]

theorem inOrder (h : SameItems before after) (order : before.InOrder) : after.InOrder where
  layout := h.layout
  inventories sessionId session found := by
    obtain ⟨old, stored, same⟩ := h.sessions.old_of_new found
    rw [same.1]
    exact order.inventories sessionId old stored
  containers := h.containers ▸ order.containers

end SameItems

-----------------------------------------------------------------------------------------
-- Containers
-----------------------------------------------------------------------------------------

variable {room : GameRoom} {containerId : Nat} {box : Container}

theorem stored_eq_total (room : GameRoom) (blueprintId : Nat)
    : room.stored blueprintId
      = room.staticObjects.total
          (fun _ object => slotUnits (object.slots.getD []) blueprintId)
        + room.dynamicObjects.total
          (fun _ object => slotUnits (object.slots.getD []) blueprintId) := by
  have objects (table : Table Nat NonplayerObject)
      : ((table.values.filterMap NonplayerObject.slots).map (slotUnits · blueprintId)).sum
        = table.total fun _ object => slotUnits (object.slots.getD []) blueprintId := by
    unfold Table.values Table.total
    induction table.entries with
    | nil => rfl
    | cons entry rest ih =>
        rw [List.map_cons, List.map_cons, List.sum_cons, ← ih]
        dsimp only
        cases slots : entry.2.slots with
        | none =>
            rw [List.filterMap_cons_none slots]
            exact (Int.zero_add _).symm
        | some held =>
            rw [List.filterMap_cons_some slots]
            exact List.sum_cons
  rw [GameRoom.stored, containerSlots, List.map_append, List.sum_append, objects, objects]

/-- A container that a lookup finds is a static object or, if there is none, a dynamic one. -/
theorem findContainer_cases (located : room.findContainer containerId = some box)
    : room.staticObjects.lookup containerId = some (.container box)
      ∨ containerId ∉ room.staticObjects
        ∧ room.dynamicObjects.lookup containerId = some (.container box) := by
  obtain ⟨object, found, cast⟩ := Option.bind_eq_some_iff.mp located
  cases object with
  | hostileNpc npc => cases cast
  | container same =>
      cases cast
      unfold findNonplayerObject at found
      split at found
      · next object present =>
          cases found
          exact .inl present
      · next absent => exact .inr ⟨AList.lookup_eq_none.mp absent, found⟩

/-- Writing the slots of a container changes what is stored by the difference. -/
theorem stored_modifyContainer (located : room.findContainer containerId = some box)
    (f : Container → Container) (blueprintId : Nat)
    : (room.modifyContainer containerId f).stored blueprintId
      = room.stored blueprintId - slotUnits box.inventorySlots blueprintId
        + slotUnits (f box).inventorySlots blueprintId := by
  rw [stored_eq_total, stored_eq_total]
  unfold modifyContainer modifyNonplayerObject
  rcases findContainer_cases located with static | ⟨dynamic, found⟩
  · rw [if_pos (Table.mem_of_lookup static)]
    dsimp only
    rw [Table.total_adjust static]
    simp only [NonplayerObject.slots, NonplayerObject.asContainer, Option.map_some,
      Option.getD_some]
    omega
  · rw [if_neg dynamic]
    dsimp only
    rw [Table.total_adjust found]
    simp only [NonplayerObject.slots, NonplayerObject.asContainer, Option.map_some,
      Option.getD_some]
    omega

theorem mem_containerSlots {slots : List Slot}
    : slots ∈ room.containerSlots
      ↔ (∃ objectId box, room.staticObjects.lookup objectId = some (.container box)
          ∧ box.inventorySlots = slots)
        ∨ ∃ objectId box, room.dynamicObjects.lookup objectId = some (.container box)
          ∧ box.inventorySlots = slots := by
  have objects (table : Table Nat NonplayerObject)
      : slots ∈ table.values.filterMap NonplayerObject.slots
        ↔ ∃ objectId box, table.lookup objectId = some (.container box)
          ∧ box.inventorySlots = slots := by
    rw [List.mem_filterMap]
    constructor
    · rintro ⟨object, mem, same⟩
      obtain ⟨objectId, found⟩ := Table.mem_values_iff.mp mem
      obtain ⟨box, cast, equal⟩ := Option.map_eq_some_iff.mp same
      cases object with
      | hostileNpc npc => cases cast
      | container box =>
          cases cast
          exact ⟨objectId, _, found, equal⟩
    · rintro ⟨objectId, box, found, equal⟩
      exact ⟨_, Table.mem_values_iff.mpr ⟨objectId, found⟩, congrArg some equal⟩
  rw [containerSlots, List.mem_append, objects, objects]

theorem mem_containerSlots_of_found (located : room.findContainer containerId = some box)
    : box.inventorySlots ∈ room.containerSlots := by
  rcases findContainer_cases located with static | ⟨_, dynamic⟩
  · exact mem_containerSlots.mpr (.inl ⟨containerId, box, static, rfl⟩)
  · exact mem_containerSlots.mpr (.inr ⟨containerId, box, dynamic, rfl⟩)

/-- A write reaches the slots of one container. -/
theorem mem_containerSlots_modify (located : room.findContainer containerId = some box)
    {f : Container → Container} {slots : List Slot}
    (mem : slots ∈ (room.modifyContainer containerId f).containerSlots)
    : slots ∈ room.containerSlots ∨ slots = (f box).inventorySlots := by
  unfold modifyContainer modifyNonplayerObject at mem
  rcases findContainer_cases located with static | ⟨dynamic, found⟩
  · rw [if_pos (Table.mem_of_lookup static)] at mem
    rcases mem_containerSlots.mp mem with ⟨objectId, other, held, rfl⟩ | held
    · rcases Table.lookup_adjust_cases held with ⟨rfl, old, first, same⟩ | ⟨_, kept⟩
      · cases static.symm.trans first
        cases same
        exact .inr rfl
      · exact .inl (mem_containerSlots.mpr (.inl ⟨objectId, other, kept, rfl⟩))
    · exact .inl (mem_containerSlots.mpr (.inr held))
  · rw [if_neg dynamic] at mem
    rcases mem_containerSlots.mp mem with held | ⟨objectId, other, held, rfl⟩
    · exact .inl (mem_containerSlots.mpr (.inl held))
    · rcases Table.lookup_adjust_cases held with ⟨rfl, old, first, same⟩ | ⟨_, kept⟩
      · cases found.symm.trans first
        cases same
        exact .inr rfl
      · exact .inl (mem_containerSlots.mpr (.inr ⟨objectId, other, kept, rfl⟩))

-----------------------------------------------------------------------------------------
-- Bounds
-----------------------------------------------------------------------------------------

namespace InOrder

theorem slots_le_stored (order : room.InOrder) {slots : List Slot}
    (mem : slots ∈ room.containerSlots) (blueprintId : Nat)
    : slotUnits slots blueprintId ≤ room.stored blueprintId := by
  refine List.single_le_sum ?_ _ (List.mem_map_of_mem mem)
  intro units present
  obtain ⟨others, held, rfl⟩ := List.mem_map.mp present
  exact slotUnits_nonneg blueprintId (order.containers others held)

theorem stored_nonneg (order : room.InOrder) (blueprintId : Nat)
    : 0 ≤ room.stored blueprintId := by
  refine List.sum_nonneg fun units present => ?_
  obtain ⟨slots, held, rfl⟩ := List.mem_map.mp present
  exact slotUnits_nonneg blueprintId (order.containers slots held)

theorem holdings_nonneg (order : room.InOrder) {sessionId : Nat} {session : PlayerSession}
    (found : room.playerSessions.lookup sessionId = some session) (blueprintId : Nat)
    : 0 ≤ session.inventory.holdings blueprintId :=
  slotUnits_nonneg blueprintId fun _ mem =>
    (order.inventories sessionId session found).lootOrder mem

theorem session_carried_nonneg (order : room.InOrder) {sessionId : Nat}
    {session : PlayerSession}
    (found : room.playerSessions.lookup sessionId = some session) (blueprintId : Nat)
    : 0 ≤ session.carried blueprintId := by
  unfold PlayerSession.carried
  split
  · exact Int.le_refl 0
  · exact order.holdings_nonneg found blueprintId

theorem carried_nonneg (order : room.InOrder) (blueprintId : Nat)
    : 0 ≤ room.carried blueprintId :=
  Table.total_nonneg fun _ _ found => order.session_carried_nonneg found blueprintId

theorem holdings_le_carried (order : room.InOrder) {sessionId : Nat} {session : PlayerSession}
    (found : room.playerSessions.lookup sessionId = some session)
    (staying : session.isDetached = false) (blueprintId : Nat)
    : session.inventory.holdings blueprintId ≤ room.carried blueprintId := by
  have nonneg (otherId : Nat) (other : PlayerSession)
      (present : room.playerSessions.lookup otherId = some other)
      : 0 ≤ (fun (_ : Nat) (session : PlayerSession) => session.carried blueprintId) otherId
          other :=
    order.session_carried_nonneg present blueprintId
  have single : session.carried blueprintId ≤ room.carried blueprintId :=
    Table.single_le_total nonneg found
  rwa [PlayerSession.carried, staying] at single

end InOrder

end GameRoom

-----------------------------------------------------------------------------------------
-- Requests for items
-----------------------------------------------------------------------------------------

namespace RoomHost

/-- What happens to a room takes some items out of it and leaves everything else in order. -/
structure Loses (loss : Nat → Int) (before after : GameRoom) : Prop where
  inOrder : after.InOrder
  itemTotal : ∀ blueprintId,
    after.itemTotal blueprintId = before.itemTotal blueprintId - loss blueprintId
  nonneg : ∀ blueprintId, 0 ≤ loss blueprintId

namespace Loses

variable {first second loss : Nat → Int} {before middle after : GameRoom}

theorem of_sameItems (same : before.SameItems after) (order : before.InOrder)
    : Loses (fun _ => 0) before after where
  inOrder := same.inOrder order
  itemTotal blueprintId := by
    rw [same.itemTotal, Int.sub_zero]
  nonneg _ := Int.le_refl 0

theorem trans (early : Loses first before middle) (late : Loses second middle after)
    : Loses (fun blueprintId => first blueprintId + second blueprintId) before after where
  inOrder := late.inOrder
  itemTotal blueprintId := by
    rw [late.itemTotal, early.itemTotal]
    omega
  nonneg blueprintId := Int.add_nonneg (early.nonneg blueprintId) (late.nonneg blueprintId)

theorem then_same (early : Loses loss before middle) (same : middle.SameItems after)
    : Loses loss before after where
  inOrder := same.inOrder early.inOrder
  itemTotal blueprintId := by
    rw [same.itemTotal, early.itemTotal]
  nonneg := early.nonneg

theorem after_same (same : before.SameItems middle) (late : Loses loss middle after)
    : Loses loss before after where
  inOrder := late.inOrder
  itemTotal blueprintId := by
    rw [late.itemTotal, same.itemTotal]
  nonneg := late.nonneg

/-- Losses do not make room for an overflow. -/
theorem bounded (h : Loses loss before after) (bounded : before.Bounded) : after.Bounded := by
  intro blueprintId
  have total := h.itemTotal blueprintId
  have lost := h.nonneg blueprintId
  have limit := bounded blueprintId
  omega

end Loses

section Requests

variable {env : Environment} {host : RoomHost} {sessionId : Nat} {session : PlayerSession}
  {opened : Option (Nat × Container)} {store : SlotStore}

/-- The slots that a request of a player reaches are in order and hold no more than the room. -/
theorem slotStore_inOrder {room : GameRoom} (order : room.InOrder) (bounded : room.Bounded)
    (found : room.playerSessions.lookup sessionId = some session)
    (staying : session.isDetached = false)
    (located : ∀ container, opened = some container →
      room.findContainer container.1 = some container.2)
    : (slotStore session opened).WellFormed ∧ (slotStore session opened).Bounded := by
  have inventory := order.inventories sessionId session found
  have carried := order.holdings_le_carried found staying
  cases opened with
  | none =>
      refine ⟨inventory, fun blueprintId => ?_⟩
      have stored := order.stored_nonneg blueprintId
      have total := bounded blueprintId
      have own := carried blueprintId
      rw [GameRoom.itemTotal] at total
      rw [SlotStore.amount_eq]
      simp only [slotStore, Option.map_none, Option.getD_none, slotUnits_nil]
      omega
  | some container =>
      have mem := GameRoom.mem_containerSlots_of_found (located container rfl)
      refine ⟨inventory.openContainer (order.containers _ mem), fun blueprintId => ?_⟩
      have stored := order.slots_le_stored mem blueprintId
      have total := bounded blueprintId
      have own := carried blueprintId
      rw [GameRoom.itemTotal] at total
      rw [SlotStore.amount_eq]
      simp only [slotStore, Option.map_some, Option.getD_some]
      omega

/-- Writing back the slots of a request changes the room by what changed in them. -/
theorem commitStore_items (order : host.room.InOrder)
    (found : host.room.playerSessions.lookup sessionId = some session)
    (staying : session.isDetached = false)
    (located : ∀ container, opened = some container →
      host.room.findContainer container.1 = some container.2)
    (good : store.WellFormed)
    (length : store.container.length = (slotStore session opened).container.length)
    : (host.commitStore sessionId opened store).room.InOrder
      ∧ ∀ blueprintId,
        (host.commitStore sessionId opened store).room.itemTotal blueprintId
          = host.room.itemTotal blueprintId
            - ((slotStore session opened).amount blueprintId - store.amount blueprintId) := by
  have inventory : SlotStore.WellFormed { inventory := store.inventory } :=
    good.openContainer nofun
  have slots : ∀ slot ∈ store.container, slot.WellFormed := by
    intro slot mem
    obtain ⟨index, inRange, rfl⟩ := List.mem_iff_getElem.mp mem
    have held := good.stocked.wellFormed (.slot (.container index)) inRange
    simpa [SlotStore.slotAt, SlotStore.get, inRange] using held
  have layout := (commitStore_ordinary host sessionId opened store).room.layout order.layout
  have carried (blueprintId : Nat)
      : (host.room.modifySession sessionId ({ · with inventory := store.inventory })).carried
          blueprintId
        = host.room.carried blueprintId
          + (store.inventory.holdings blueprintId
            - session.inventory.holdings blueprintId) := by
    have stays : PlayerSession.isDetached { session with inventory := store.inventory } = false :=
      staying
    simp only [GameRoom.carried, GameRoom.modifySession]
    rw [Table.total_adjust found, PlayerSession.carried, PlayerSession.carried, staying, stays]
    rfl
  have inventories {room : GameRoom} {otherId : Nat} {other : PlayerSession}
      (sessions : room.playerSessions = (host.room.modifySession sessionId
        ({ · with inventory := store.inventory })).playerSessions)
      (present : room.playerSessions.lookup otherId = some other)
      : SlotStore.WellFormed { inventory := other.inventory } := by
    rw [sessions] at present
    rcases Table.lookup_adjust_cases present with ⟨rfl, old, stored, rfl⟩ | ⟨_, kept⟩
    · exact inventory
    · exact order.inventories otherId other kept
  unfold commitStore at layout ⊢
  cases opened with
  | none =>
      refine ⟨⟨layout, fun _ _ => inventories rfl, order.containers⟩, fun blueprintId => ?_⟩
      have none : store.container = [] := List.eq_nil_of_length_eq_zero length
      rw [SlotStore.amount_eq, SlotStore.amount_eq, none]
      have moved := carried blueprintId
      simp only [GameRoom.itemTotal, modifySession, modifyRoom, slotStore, Option.map_none,
        Option.getD_none, slotUnits_nil] at moved ⊢
      rw [moved]
      have stored : (host.room.modifySession sessionId
          ({ · with inventory := store.inventory })).stored blueprintId
        = host.room.stored blueprintId := rfl
      rw [stored]
      omega
  | some container =>
      obtain ⟨containerId, box⟩ := container
      have present : (host.room.modifySession sessionId
          ({ · with inventory := store.inventory })).findContainer containerId = some box :=
        located _ rfl
      refine ⟨⟨layout, fun _ _ => inventories (GameRoom.modifyContainer_playerSessions ..),
        fun others mem => ?_⟩, fun blueprintId => ?_⟩
      · rcases GameRoom.mem_containerSlots_modify present mem with old | rfl
        · exact order.containers others old
        · exact slots
      · have stored := GameRoom.stored_modifyContainer present (fun box =>
          { box with
            inventorySlots := store.container
            containerVersion := box.containerVersion + 1 }) blueprintId
        have moved := carried blueprintId
        rw [SlotStore.amount_eq, SlotStore.amount_eq]
        simp only [GameRoom.itemTotal, modifySession, modifyRoom, slotStore, Option.map_some,
          Option.getD_some, GameRoom.carried, GameRoom.modifyContainer_playerSessions]
          at moved stored ⊢
        rw [moved, stored]
        have same : (host.room.modifySession sessionId
            ({ · with inventory := store.inventory })).stored blueprintId
          = host.room.stored blueprintId := rfl
        rw [same]
        omega

/-- A request that is one operation on its slots costs what the operation spends. -/
theorem commitStore_loses (order : host.room.InOrder) (bounded : host.room.Bounded)
    (found : host.room.playerSessions.lookup sessionId = some session)
    (staying : session.isDetached = false)
    (located : ∀ container, opened = some container →
      host.room.findContainer container.1 = some container.2)
    {call : InventoryCall} (performed : (slotStore session opened).perform call = some store)
    (moves : SlotStore.handles call = true)
    : Loses ((slotStore session opened).spent call) host.room
        (host.commitStore sessionId opened store).room := by
  obtain ⟨good, limit⟩ := slotStore_inOrder order bounded found staying located
  have length := SlotStore.perform_container good limit performed moves
  obtain ⟨inOrder, total⟩ := commitStore_items order found staying located
    (good.perform limit performed) length
  refine ⟨inOrder, fun blueprintId => ?_, SlotStore.spent_nonneg good performed⟩
  rw [total, SlotStore.perform_amount good limit performed moves]
  omega

/-- The same for an operation on the inventory alone. -/
theorem commitInventory_loses (order : host.room.InOrder) (bounded : host.room.Bounded)
    (found : host.room.playerSessions.lookup sessionId = some session)
    (staying : session.isDetached = false) {call : InventoryCall}
    (performed : (slotStore session none).perform call = some store)
    (moves : SlotStore.handles call = true)
    : Loses ((slotStore session none).spent call) host.room
        (host.commitStore sessionId none store).room :=
  commitStore_loses order bounded found staying
    (fun container nothing => by cases nothing) performed moves

end Requests

-----------------------------------------------------------------------------------------
-- Packets
-----------------------------------------------------------------------------------------

section Packets

variable {env : Environment} {spawner : GameRoom → PlayerSession → Bool}
  {before after host : RoomHost} {sessionId : Nat} {session : PlayerSession}

theorem Spawned.sameItems (step : Spawned sessionId before after)
    (layout : before.room.Layout)
    : before.room.SameItems after.room where
  layout := step.layout layout
  sessions := by
    rw [step.sessions]
    exact .adjust (fun _ _ => ⟨rfl, rfl⟩) fun _ _ => ⟨rfl, rfl⟩
  containers := by
    rw [GameRoom.containerSlots, step.staticObjects, step.dynamicObjects]
    rfl

theorem Effect.sameItems (step : Effect env spawner before after)
    (layout : before.room.Layout)
    : before.room.SameItems after.room := by
  cases step.change with
  | quiet room =>
      rw [room]
      exact .refl layout
  | scene room => exact .of_ordinary room.ordinary layout
  | touch sessionId f keeps room =>
      rw [room]
      refine .modifySession layout fun session _ => ⟨(keeps session).inventory, ?_⟩
      rw [PlayerSession.isDetached, (keeps session).leaveState]
      rfl
  | notice sessionId seq pending room =>
      rw [room]
      exact .modifySession layout fun _ _ => ⟨rfl, rfl⟩
  | spawn sessionId session found active meets step => exact step.sameItems layout
  | openContainer sessionId containerId playerObjectId session box found located current room =>
      rw [room]
      exact .of_ordinary (openContainer_ordinary ..) layout
  | closeContainer sessionId room =>
      rw [room]
      exact .of_ordinary (.releaseInteractingContainer sessionId before.room) layout

/-- A chain of effects moves no items, by induction. -/
theorem Effects.sameItems (effects : Effects env spawner before after)
    (layout : before.room.Layout)
    : before.room.SameItems after.room := by
  induction effects with
  | refl => exact .refl layout
  | tail _ effect ih => exact ih.trans (effect.sameItems ih.layout)

theorem handleC2DRequestInteractContainerObject_loses (order : host.room.InOrder)
    (bounded : host.room.Bounded)
    (found : host.room.playerSessions.lookup sessionId = some session)
    (staying : session.isActiveState = true → session.isDetached = false)
    (pkt : C2DRequestInteractContainerObject)
    : Loses (fun _ => 0) host.room
        (host.handleC2DRequestInteractContainerObject env sessionId session pkt).1.room := by
  have idle : Loses (fun _ => 0) host.room host.room := .of_sameItems (.refl order.layout) order
  unfold handleC2DRequestInteractContainerObject
  split
  · exact idle
  · next active =>
      split
      · dsimp only
        rw [send_room]
        exact idle
      · next opened store plan =>
          obtain ⟨startRef, endRef, moved, checked⟩ := planInteract_ok plan
          dsimp only
          rw [send_room]
          exact commitStore_loses order bounded found (staying (by simpa using active))
            (fun container same => (resolveContainer_ok (checked.resolved container same)).2)
            checked.perform rfl

/-- What an equipment request costs: the rounds of the magazine that is emptied, if they find
no place.
-/
def equipLoss (env : Environment) (room : GameRoom) (session : PlayerSession)
    (pkt : C2DRequestEquipItem) (blueprintId : Nat)
    : Int :=
  match planEquip env room session pkt with
  | .error _ => 0
  | .ok (opened, _, _) =>
      match resolveSlot session.inventory opened pkt.objectId pkt.objectInventoryVersion
          pkt.objectSlotIdx with
      | .ok (some ref) => (slotStore session opened).spent (equipCall pkt ref) blueprintId
      | _ => 0

theorem handleC2DRequestEquipItem_loses (order : host.room.InOrder)
    (bounded : host.room.Bounded)
    (found : host.room.playerSessions.lookup sessionId = some session)
    (staying : session.isActiveState = true → session.isDetached = false)
    (pkt : C2DRequestEquipItem)
    : Loses
        (fun blueprintId =>
          if session.isActiveState then equipLoss env host.room session pkt blueprintId else 0)
        host.room (host.handleC2DRequestEquipItem env sessionId session pkt).1.room := by
  have idle : Loses (fun _ => 0) host.room host.room := .of_sameItems (.refl order.layout) order
  unfold handleC2DRequestEquipItem
  cases active : session.isActiveState with
  | false => exact idle
  | true =>
      simp only [Bool.not_true, Bool.false_eq_true, if_false, if_true]
      unfold equipLoss
      cases plan : planEquip env host.room session pkt with
      | error mask =>
          dsimp only
          rw [send_room]
          exact idle
      | ok planned =>
          obtain ⟨opened, store, unloadedSlotIdx⟩ := planned
          obtain ⟨ref, checked⟩ := planEquip_ok plan
          dsimp only
          rw [send_room, checked.slot]
          have moves : SlotStore.handles (equipCall pkt ref) = true := by
            unfold equipCall
            split <;> rfl
          have dealt := commitStore_loses order bounded found (staying active)
            (fun container same => (resolveContainer_ok (checked.resolved container same)).2)
            checked.perform moves
          exact dealt.then_same (Effects.sameItems
            (refreshEquipment_effects env (fun _ _ => true) _ sessionId _ _ _)
            dealt.inOrder.layout)

theorem handleC2DRequestReload_loses (order : host.room.InOrder)
    (bounded : host.room.Bounded)
    (found : host.room.playerSessions.lookup sessionId = some session)
    (staying : session.isActiveState = true → session.isDetached = false)
    (version : BitVec 32)
    : Loses (fun _ => 0) host.room
        (host.handleC2DRequestReload env sessionId session version).1.room := by
  have idle : Loses (fun _ => 0) host.room host.room := .of_sameItems (.refl order.layout) order
  unfold handleC2DRequestReload
  split
  · exact idle
  · next active =>
      split
      · exact idle
      · split
        · exact idle
        · next object _ =>
            have reloaded : Loses (fun _ => 0) host.room
                (host.modifySession sessionId ({ · with
                  inventory :=
                    (reload session.inventory object.isUsingPrimary version).1 })).room := by
              rcases reload_perform session.inventory object.isUsingPrimary version
                with same | performed
              · rw [same]
                refine .of_sameItems (.modifySession order.layout fun stored present => ?_) order
                cases found.symm.trans present
                exact ⟨rfl, rfl⟩
              · exact commitInventory_loses order bounded found
                  (staying (by simpa using active)) performed rfl
            dsimp only
            rw [send_room]
            split
            · rw [broadcastReloadSequence, broadcastExcept_room]
              exact reloaded
            · exact reloaded

/-- What a shot costs if it is accepted: one round of the weapon in the player's hand. -/
def shotLoss (env : Environment) (host : RoomHost) (sessionId : Nat) (session : PlayerSession)
    (pkt : C2DRequestWeaponFire) (blueprintId : Nat)
    : Int :=
  match session.objectId.bind host.room.findPlayerObject with
  | none => 0
  | some object =>
      if (host.handleC2DRequestWeaponFire env sessionId session pkt).2
          ∧ (session.inventory.magazineSlot object.isUsingPrimary).item.blueprintId
            = blueprintId then 1
      else 0

theorem handleC2DRequestWeaponFire_loses (order : host.room.InOrder)
    (bounded : host.room.Bounded)
    (found : host.room.playerSessions.lookup sessionId = some session)
    (staying : session.isActiveState = true → session.isDetached = false)
    (pkt : C2DRequestWeaponFire)
    : Loses (shotLoss env host sessionId session pkt) host.room
        (host.handleC2DRequestWeaponFire env sessionId session pkt).1.room := by
  have idle : Loses (fun _ => 0) host.room host.room := .of_sameItems (.refl order.layout) order
  have counted : host.room.SameItems (host.countShot sessionId pkt).room :=
    .modifySession order.layout fun _ _ => ⟨rfl, rfl⟩
  have refused (handled : Handled) (no : handled.2 = false)
      (same : host.handleC2DRequestWeaponFire env sessionId session pkt = handled)
      : shotLoss env host sessionId session pkt = fun _ => 0 := by
    funext blueprintId
    unfold shotLoss
    rw [same, no]
    split <;> simp
  have outcome := host.handleC2DRequestWeaponFire_shot env sessionId session pkt
  generalize shot : host.handleC2DRequestWeaponFire env sessionId session pkt = handled
    at outcome
  cases outcome with
  | ignored =>
      rw [refused _ rfl shot]
      exact idle
  | wasted =>
      rw [refused _ rfl shot]
      exact .of_sameItems counted order
  | @fired objectId object takes current located inHand filled rounds =>
      have present : (host.countShot sessionId pkt).room.playerSessions.lookup sessionId
          = some { session with fireSequence := pkt.fireSequence + 1 } := by
        simp only [countShot, modifySession, modifyRoom, GameRoom.modifySession,
          Table.lookup_adjust_self, found]
        rfl
      have performed : (slotStore { session with fireSequence := pkt.fireSequence + 1 }
            none).perform (.fire object.isUsingPrimary)
          = some ((slotStore session none).fired object.isUsingPrimary) := by
        unfold SlotStore.perform
        exact if_neg (Bool.eq_false_iff.mp filled)
      have dealt := commitInventory_loses (counted.inOrder order)
        ((Loses.of_sameItems counted order).bounded bounded) present (staying takes.active)
        performed rfl
      have room : ((host.countShot sessionId pkt).spendRound sessionId session
            object.isUsingPrimary).room
          = ((host.countShot sessionId pkt).commitStore sessionId none
            ((slotStore session none).fired object.isUsingPrimary)).room := by
        unfold spendRound commitStore modifySession
        simp only [modifyRoom, GameRoom.modifySession]
        rw [Table.adjust_congr]
        intro stored held
        cases present.symm.trans held
        rfl
      have cost : shotLoss env host sessionId session pkt
          = (slotStore { session with fireSequence := pkt.fireSequence + 1 } none).spent
            (.fire object.isUsingPrimary) := by
        funext blueprintId
        have spends : (slotStore { session with fireSequence := pkt.fireSequence + 1 }
              none).spent (.fire object.isUsingPrimary) blueprintId
            = if (session.inventory.magazineSlot object.isUsingPrimary).item.blueprintId
                = blueprintId then 1 else 0 := by
          unfold SlotStore.spent
          exact if_neg (Bool.eq_false_iff.mp filled)
        rw [spends, shotLoss, shot, current, Option.bind_some, located]
        simp only [true_and]
      rw [cost]
      rw [← room] at dealt
      dsimp only
      rw [broadcastExcept_room]
      exact (Loses.after_same counted dealt).then_same
        (Effects.sameItems (applyHit_effects env (fun _ _ => true) _ _ _ _)
          dealt.inOrder.layout)

/-- What a packet costs that an active session may send. -/
def requestLoss (env : Environment) (host : RoomHost) (sessionId : Nat)
    (session : PlayerSession) (pkt : C2DPacket) (blueprintId : Nat)
    : Int :=
  match pkt with
  | .requestEquipItem pkt =>
      if session.isActiveState then equipLoss env host.room session pkt blueprintId else 0
  | .requestWeaponFire pkt => shotLoss env host sessionId session pkt blueprintId
  | _ => 0

theorem dispatch_loses (order : host.room.InOrder) (bounded : host.room.Bounded)
    (found : host.room.playerSessions.lookup sessionId = some session)
    (staying : session.isActiveState = true → session.isDetached = false)
    (clientAddr : SockAddr) (pkt : C2DPacket)
    : Loses (requestLoss env host sessionId session pkt) host.room
        (host.dispatch env sessionId session clientAddr pkt).1.room := by
  have quiet {after : RoomHost} (effects : Effects env (fun _ _ => true) host after)
      : Loses (fun _ => 0) host.room after.room :=
    .of_sameItems (effects.sameItems order.layout) order
  cases pkt with
  | requestInteractContainerObject pkt =>
      exact handleC2DRequestInteractContainerObject_loses order bounded found staying pkt
  | requestEquipItem pkt =>
      exact handleC2DRequestEquipItem_loses order bounded found staying pkt
  | requestReload version =>
      exact handleC2DRequestReload_loses order bounded found staying version
  | requestWeaponFire pkt =>
      exact handleC2DRequestWeaponFire_loses order bounded found staying pkt
  | channelOpen echo => exact quiet (handleC2DChannelOpen_effects ..)
  | heartBeat => exact quiet (handleC2DHeartBeat_effects ..)
  | requestBlueprint => exact quiet (handleC2DRequestBlueprint_effects ..)
  | requestSpawnMe =>
      exact quiet (handleC2DRequestSpawnMe_effects env _ host sessionId session found
        fun _ => rfl)
  | requestSpawnByObjectId objectId =>
      exact quiet (handleC2DRequestSpawnByObjectId_effects ..)
  | updatePlayerState state npcStates => exact quiet (handleC2DUpdatePlayerState_effects ..)
  | requestSpawnPlayerObjects => exact quiet (handleC2DRequestSpawnPlayerObjects_effects ..)
  | notifyLoadingComplete => exact quiet (handleC2DNotifyLoadingComplete_effects ..)
  | requestOpenContainer containerId =>
      exact quiet (handleC2DRequestOpenContainer_effects env _ host sessionId session
        containerId found)
  | closeContainer => exact quiet (handleC2DCloseContainer_effects ..)
  | requestRecentInventoryInfo objectId =>
      exact quiet (handleC2DRequestRecentInventoryInfo_effects ..)
  | requestSwitchWeapon targetSlot version =>
      exact quiet (handleC2DRequestSwitchWeapon_effects ..)
  | requestRecall spotIndex => exact quiet (handleC2DRequestRecall_effects ..)
  | notifyReloadSequence sequenceNum =>
      exact quiet (handleC2DNotifyReloadSequence_effects ..)
  | requestNpcAggro objectId aggro => exact quiet (applyNpcRequest_effects ..)
  | requestNpcAuthority objectId aggro => exact quiet (applyNpcRequest_effects ..)
  | reportNpcAttack pkt =>
      exact quiet (handleC2DReportNpcAttack_effects env _ host sessionId session pkt found)

/-- What a packet costs: nothing if its session is unknown or its number is not taken. -/
def packetLoss (env : Environment) (host : RoomHost) (sessionId : Nat) (header : UDPHeader)
    (pkt : C2DPacket) (blueprintId : Nat)
    : Int :=
  match host.room.playerSessions.lookup sessionId with
  | none => 0
  | some session =>
      if (host.receive env sessionId header).2 then
        requestLoss env (host.receive env sessionId header).1 sessionId session pkt blueprintId
      else 0

theorem handleClientPacket_loses (order : host.room.InOrder) (bounded : host.room.Bounded)
    (sound : host.Sound) (header : UDPHeader) (clientAddr : SockAddr) (pkt : C2DPacket)
    : Loses (packetLoss env host sessionId header pkt) host.room
        (host.handleClientPacket env sessionId header clientAddr pkt).1.room := by
  have idle : Loses (fun _ => 0) host.room host.room := .of_sameItems (.refl order.layout) order
  unfold handleClientPacket packetLoss
  cases found : host.room.playerSessions.lookup sessionId with
  | none => exact idle
  | some session =>
      dsimp only
      cases (host.receive env sessionId header).2 with
      | false => exact idle
      | true =>
          have consistent := sound.leaves sessionId session found
          have heard : (host.receive env sessionId header).1.room.InOrder := order
          exact dispatch_loses heard bounded found
            (fun active => consistent.reported.symm.trans
              (consistent.unreported_of_active active)) clientAddr pkt

end Packets

-----------------------------------------------------------------------------------------
-- Leaves
-----------------------------------------------------------------------------------------

section Leaves

variable {env : Environment} {before after host : RoomHost} {sessionId : Nat}
  {session : PlayerSession}

/-- Marking a session keeps its items, and no session is marked after it was detached. -/
theorem markLeaving_sameItems (layout : host.room.Layout) (sessionId : Nat)
    (reason : LeaveReason) (notifyRSeq : BitVec 32)
    : host.room.SameItems (host.markLeaving env sessionId reason notifyRSeq).room := by
  refine .modifySession layout fun session _ => ⟨session.markLeaving_inventory _ _ _, ?_⟩
  unfold PlayerSession.markLeaving
  split
  · next accepts => exact (PlayerSession.staying_of_acceptsLeaveReason accepts).2.symm
  · rfl

/-- A loop that moves no items. -/
theorem foldl_sameItems {κ : Type} {step : RoomHost → κ → RoomHost} (keys : List κ)
    (turn : ∀ (host : RoomHost) (key : κ), host.room.Layout →
      host.room.SameItems (step host key).room)
    (layout : host.room.Layout)
    : host.room.SameItems (keys.foldl step host).room := by
  refine List.foldlRecOn keys step
    (motive := fun reached => host.room.SameItems reached.room) (.refl layout) ?_
  intro reached same key _
  exact same.trans (turn reached key same.layout)

theorem markLeaves_sameItems (layout : host.room.Layout) (now : TimePoint)
    : host.room.SameItems (host.markLeaves env now).room := by
  have expired (host : RoomHost) (layout : host.room.Layout)
      : host.room.SameItems
          ((host.modifyRoom ({ · with lifetimeExpired := true })).allKill env).room := by
    have flagged : host.room.SameItems
        (host.modifyRoom ({ · with lifetimeExpired := true })).room :=
      .of_ordinary (.of_eq rfl) layout
    exact flagged.trans (foldl_sameItems _
      (fun _ sessionId layout => markLeaving_sameItems layout sessionId .dead 0)
      flagged.layout)
  have dead (host : RoomHost) (layout : host.room.Layout)
      : host.room.SameItems (host.markDead env).room := by
    refine foldl_sameItems _ (fun host objectId layout => ?_) layout
    split
    · exact .refl layout
    · exact markLeaving_sameItems layout _ .dead 0
  have disconnected (host : RoomHost) (layout : host.room.Layout)
      : host.room.SameItems (host.detectDisconnectedSessions env).room := by
    unfold detectDisconnectedSessions
    show (host.now env).1.room.SameItems _
    refine foldl_sameItems _ (fun host sessionId layout => ?_) layout
    dsimp only
    repeat' split
    all_goals first
      | exact .refl layout
      | exact markLeaving_sameItems layout sessionId .disconnected 0
  unfold markLeaves
  rw [room_eq_of_outcome (clearPendingOfLeaving_outcome _)]
  split
  · have first := expired host layout
    have second := first.trans (dead _ first.layout)
    exact second.trans (disconnected _ second.layout)
  · have first := dead host layout
    exact first.trans (disconnected _ first.layout)

/-- A detach moves the items of a player who died in the game into a loot container. All other
items leave the room.
-/
theorem Detached.items (detached : Detached sessionId session before after)
    (order : before.room.InOrder)
    (found : before.room.playerSessions.lookup sessionId = some session)
    (staying : session.isDetached = false)
    : Loses
        (fun blueprintId =>
          if before.room.leavesLoot session then 0
          else session.inventory.holdings blueprintId)
        before.room after.room
      ∧ ∀ blueprintId, after.room.stored blueprintId
        = before.room.stored blueprintId
          + if before.room.leavesLoot session then session.inventory.holdings blueprintId
            else 0 := by
  have inventory := order.inventories sessionId session found
  have slots := detached.containerSlots order.layout
  have loot : (∀ slots ∈ (before.room.lootSlots session).toList,
        ∀ slot ∈ slots, slot.WellFormed)
      ∧ ∀ blueprintId,
        ((before.room.lootSlots session).toList.map (slotUnits · blueprintId)).sum
          = if before.room.leavesLoot session then session.inventory.holdings blueprintId
            else 0 := by
    unfold GameRoom.lootSlots GameRoom.leavesLoot
    by_cases dead : session.leaveReason = .dead
    · cases located : before.room.currentObject session with
      | none => simp [dead]
      | some object =>
          have filled := PlayerLootContainer.create_spec before.room.nxtObjectId
            object.base.position object.base.yawAngle inventory
          refine ⟨?_, fun blueprintId => ?_⟩
          · simp only [dead, if_true, Option.map_some, Option.toList_some, List.mem_singleton,
              forall_eq]
            exact filled.1
          · simp [dead, filled.2 blueprintId]
    · simp [dead]
  have stored (blueprintId : Nat) : after.room.stored blueprintId
      = before.room.stored blueprintId
        + if before.room.leavesLoot session then session.inventory.holdings blueprintId
          else 0 := by
    rw [GameRoom.stored, (slots.map _).sum_eq, List.map_append, List.sum_append,
      loot.2 blueprintId, Int.add_comm]
    rfl
  have kept : SlotStore.WellFormed { inventory := before.room.keptInventory session } := by
    unfold GameRoom.keptInventory
    split
    · exact SlotStore.cleared_spec inventory.stocked
    · exact inventory
  refine ⟨⟨⟨detached.layout order.layout, ?_, ?_⟩, fun blueprintId => ?_, fun blueprintId => ?_⟩,
    stored⟩
  · intro otherId other present
    rw [detached.sessions] at present
    rcases Table.lookup_adjust_cases present with ⟨rfl, _, _, rfl⟩ | ⟨_, old⟩
    · exact kept
    · exact order.inventories otherId other old
  · intro others mem
    rcases List.mem_append.mp (slots.mem_iff.mp mem) with new | old
    · exact loot.1 others new
    · exact order.containers others old
  · have carried : after.room.carried blueprintId
        = before.room.carried blueprintId - session.inventory.holdings blueprintId := by
      have gone : (before.room.detachedSession session).carried blueprintId = 0 := rfl
      unfold GameRoom.carried
      rw [detached.sessions, Table.total_adjust found, gone, PlayerSession.carried, staying]
      simp only [Bool.false_eq_true, if_false]
      omega
    rw [GameRoom.itemTotal, GameRoom.itemTotal, stored, carried]
    split <;> omega
  · split
    · exact Int.le_refl 0
    · exact order.holdings_nonneg found blueprintId

/-- A session's part of a sum over the sessions that a turn of the leave pipeline detaches. -/
def turnSum (weigh : GameRoom → PlayerSession → Int) (host : RoomHost) (sessionId : Nat)
    : Int :=
  match host.room.playerSessions.lookup sessionId with
  | none => 0
  | some session => if session.leaveState = .pending then weigh host.room session else 0

/-- The sum over the sessions that the loop of the leave pipeline detaches, each weighed as
the room is when its turn comes.
-/
def leaveSum (env : Environment) (now : TimePoint) (weigh : GameRoom → PlayerSession → Int)
    : RoomHost → List Nat → Int
  | _, [] => 0
  | host, sessionId :: rest =>
      host.turnSum weigh sessionId
        + leaveSum env now weigh (host.advanceLeave env now sessionId) rest

/-- The items that leave the room with a session. -/
def taken (blueprintId : Nat) (room : GameRoom) (session : PlayerSession) : Int :=
  if room.leavesLoot session then 0 else session.inventory.holdings blueprintId

/-- The items of a session that stay as loot. -/
def dropped (blueprintId : Nat) (room : GameRoom) (session : PlayerSession) : Int :=
  if room.leavesLoot session then session.inventory.holdings blueprintId else 0

/-- Finalizing moves no items. -/
theorem finalizeLeave_sameItems (layout : host.room.Layout)
    (found : host.room.playerSessions.lookup sessionId = some session)
    (gone : session.leaveState = .detached)
    : host.room.SameItems (host.finalizeLeave sessionId).room := by
  have finalized : host.room.SameItems (host.room.modifySession sessionId
      ({ · with leaveState := .finalized, sessionState := .left })) := by
    refine .modifySession layout fun stored present => ⟨rfl, ?_⟩
    cases found.symm.trans present
    simp [PlayerSession.isDetached, gone]
  unfold finalizeLeave notifyLeftOnce
  dsimp only
  split
  · exact finalized
  · split
    · exact finalized
    · exact finalized.trans (.modifySession finalized.layout fun _ _ => ⟨rfl, rfl⟩)

/-- The turn of one session. -/
theorem advanceLeave_items (env : Environment) (order : host.room.InOrder)
    (sound : host.Sound) (now : TimePoint) (sessionId : Nat)
    : Loses (fun blueprintId => host.turnSum (taken blueprintId) sessionId) host.room
        (host.advanceLeave env now sessionId).room
      ∧ ∀ blueprintId, (host.advanceLeave env now sessionId).room.stored blueprintId
        = host.room.stored blueprintId + host.turnSum (dropped blueprintId) sessionId := by
  unfold advanceLeave
  extract_lets detached
  have first : Loses
        (fun blueprintId => host.turnSum (taken blueprintId) sessionId) host.room detached.room
      ∧ ∀ blueprintId, detached.room.stored blueprintId
        = host.room.stored blueprintId + host.turnSum (dropped blueprintId) sessionId := by
    have idle : Loses (fun _ => 0) host.room host.room :=
      .of_sameItems (.refl order.layout) order
    unfold detached turnSum
    cases found : host.room.playerSessions.lookup sessionId with
    | none => exact ⟨idle, fun _ => (Int.add_zero _).symm⟩
    | some session =>
        dsimp only
        by_cases pending : session.leaveState = .pending
        · simp only [if_pos pending]
          have staying : session.isDetached = false := by
            simp [PlayerSession.isDetached, pending]
          exact (detachPlayer_detached env found
            ((sound.leaves sessionId session found).unreported staying)).items order found
              staying
        · simp only [if_neg pending]
          exact ⟨idle, fun _ => (Int.add_zero _).symm⟩
  split
  · exact first
  · next session found =>
      split
      · next ready =>
          have same := finalizeLeave_sameItems first.1.inOrder.layout found ready.1
          refine ⟨first.1.then_same same, fun blueprintId => ?_⟩
          rw [same.stored]
          exact first.2 blueprintId
      · exact first

/-- The loop over the sessions, by induction on them. -/
theorem advanceLeaves_items (env : Environment) (now : TimePoint) (sessionIds : List Nat)
    (order : host.room.InOrder) (sound : host.Sound)
    : Loses (fun blueprintId => leaveSum env now (taken blueprintId) host sessionIds) host.room
        (sessionIds.foldl (advanceLeave env now) host).room
      ∧ ∀ blueprintId, (sessionIds.foldl (advanceLeave env now) host).room.stored blueprintId
        = host.room.stored blueprintId
          + leaveSum env now (dropped blueprintId) host sessionIds := by
  induction sessionIds generalizing host with
  | nil =>
      exact ⟨.of_sameItems (.refl order.layout) order, fun _ => (Int.add_zero _).symm⟩
  | cons sessionId rest ih =>
      obtain ⟨turn, piled⟩ := advanceLeave_items env order sound now sessionId
      have movesOn : Moves (fun _ _ => true) host (host.advanceLeave env now sessionId) :=
        advanceLeave_moves env now host sessionId
      have later : (host.advanceLeave env now sessionId).Sound := movesOn.sound sound
      obtain ⟨others, sums⟩ := ih turn.inOrder later
      refine ⟨turn.trans others, fun blueprintId => ?_⟩
      rw [List.foldl_cons, sums, piled, leaveSum]
      omega

end Leaves

-----------------------------------------------------------------------------------------
-- Whole runs
-----------------------------------------------------------------------------------------

/-- The room of a round of the leave pipeline when all who leave are marked. -/
def marked (env : Environment) (host : RoomHost) : RoomHost :=
  (host.now env).1.markLeaves env (host.now env).2

/-- What an action takes out of the room: rounds of a magazine that find no place, the round
of an accepted shot, and the items of those who leave without leaving loot.
-/
def lost (env : Environment) (host : RoomHost) (action : Action) (blueprintId : Nat) : Int :=
  match action with
  | .packet sessionId header _ pkt => packetLoss env host sessionId header pkt blueprintId
  | .processLeaves =>
      leaveSum env (host.now env).2 (taken blueprintId) (host.marked env)
        (host.marked env).room.playerSessions.keys
  | _ => 0

/-- What an action moves from players into loot containers. -/
def looted (env : Environment) (host : RoomHost) (action : Action) (blueprintId : Nat) : Int :=
  match action with
  | .processLeaves =>
      leaveSum env (host.now env).2 (dropped blueprintId) (host.marked env)
        (host.marked env).room.playerSessions.keys
  | _ => 0

/-- Every loadout and every container has well-formed slots, and no total can overflow. -/
structure Supplied (host : RoomHost) : Prop where
  loadouts : ∀ sessionId session, host.room.playerSessions.lookup sessionId = some session →
    ∃ inventorySlots equipmentSlots, (∀ slot ∈ inventorySlots, slot.WellFormed)
      ∧ (∀ slot ∈ equipmentSlots, slot.WellFormed)
      ∧ session.inventory = .ofSlots inventorySlots equipmentSlots
  containers : ∀ slots ∈ host.room.containerSlots, ∀ slot ∈ slots, slot.WellFormed
  bounded : host.room.Bounded

/-- The runs of a room that starts with such items. -/
def suppliedSystem (env : Environment) : Transition.System RoomHost Action :=
  .ofNext (fun host => host.Fresh ∧ host.Supplied) (next env)

/-- What holds of the items in every reachable state. -/
structure Accounted (host : RoomHost) : Prop where
  sound : host.Sound
  inOrder : host.room.InOrder
  bounded : host.room.Bounded

theorem Supplied.accounted {host : RoomHost} (supplied : host.Supplied) (fresh : host.Fresh)
    : host.Accounted where
  sound := fresh.sound
  inOrder :=
    { layout := fresh.sound.layout
      inventories := fun sessionId session found => by
        obtain ⟨inventorySlots, equipmentSlots, slots, equipment, same⟩ :=
          supplied.loadouts sessionId session found
        rw [same]
        exact SlotStore.wellFormed_ofSlots slots equipment
      containers := supplied.containers }
  bounded := supplied.bounded

section Runs

variable {env : Environment} {before after host : RoomHost}

theorem processLeaves_items (h : host.Accounted)
    : Loses (host.lost env .processLeaves) host.room (host.processLeaves env).room
      ∧ ∀ blueprintId, (host.processLeaves env).room.stored blueprintId
        = host.room.stored blueprintId + host.looted env .processLeaves blueprintId := by
  have layout : (host.now env).1.room.Layout := h.inOrder.layout
  have marking : (host.now env).1.room.SameItems (host.marked env).room :=
    markLeaves_sameItems layout (host.now env).2
  have markedSound : (host.marked env).Sound := by
    have moves : Moves (fun _ _ => true) host (host.marked env) :=
      (Moves.quiet (host.now_outcome env)).trans (markLeaves_moves _ _)
    exact moves.sound h.sound
  obtain ⟨loses, piled⟩ := advanceLeaves_items env (host.now env).2
    (host.marked env).room.playerSessions.keys (marking.inOrder h.inOrder) markedSound
  have last (host : RoomHost) (layout : host.room.Layout)
      : host.room.SameItems host.checkAllLeft.room := by
    unfold checkAllLeft
    repeat' split
    · exact .refl layout
    · exact .refl layout
    · exact .of_ordinary (.of_eq rfl) layout
  have finished := last _ loses.inOrder.layout
  have whole : host.processLeaves env
      = ((host.marked env).room.playerSessions.keys.foldl
          (advanceLeave env (host.now env).2) (host.marked env)).checkAllLeft := rfl
  rw [whole]
  refine ⟨(Loses.after_same marking loses).then_same finished, fun blueprintId => ?_⟩
  rw [finished.stored, piled, marking.stored]
  rfl

/-- A recall tick moves no items, even if it completes the recall. -/
theorem recallTick_sameItems (layout : host.room.Layout) (timer : RecallTimer)
    : host.room.SameItems (host.recallTick env timer).room := by
  rcases recallTick_effects env (fun _ _ => true) host timer
    with ticked | ⟨_, ready, _, _, effects, _, completes⟩
  · exact ticked.sameItems layout
  · rw [completes]
    have first := effects.sameItems layout
    exact first.trans (markLeaving_sameItems first.layout _ .recalled _)

theorem next_items (h : before.Accounted) {action : Action}
    (step : before.next env action = some after)
    : Loses (before.lost env action) before.room after.room
      ∧ (action = .processLeaves → ∀ blueprintId, after.room.stored blueprintId
        = before.room.stored blueprintId + before.looted env action blueprintId) := by
  have quiet {host : RoomHost} (effects : Effects env (fun _ _ => true) before host)
      : Loses (fun _ => 0) before.room host.room :=
    .of_sameItems (effects.sameItems h.inOrder.layout) h.inOrder
  cases action with
  | packet sessionId header clientAddr pkt =>
      cases step
      exact ⟨handleClientPacket_loses h.inOrder h.bounded h.sound header clientAddr pkt,
        fun leaves => by cases leaves⟩
  | recallTick index =>
      refine ⟨?_, fun leaves => by cases leaves⟩
      simp only [next] at step
      split at step
      · cases step
      · next timer _ =>
          split at step
          · cases step
          · cases step
            have timed (host : RoomHost) (same : host.room = before.room)
                : before.room.SameItems (host.recallTick env timer).room := by
              rw [← same]
              exact recallTick_sameItems (same ▸ h.inOrder.layout) timer
            exact .of_sameItems (timed _ rfl) h.inOrder
  | processLeaves =>
      cases step
      exact ⟨(processLeaves_items h).1, fun _ => (processLeaves_items h).2⟩
  | update =>
      cases step
      exact ⟨quiet (before.update_effects ..), fun leaves => by cases leaves⟩
  | updateNpcStates =>
      cases step
      exact ⟨quiet (before.updateNpcStates_effects ..), fun leaves => by cases leaves⟩
  | bindClientIp sessionId addr =>
      cases step
      refine ⟨.of_sameItems ?_ h.inOrder, fun leaves => by cases leaves⟩
      exact .modifySession h.inOrder.layout fun _ _ => ⟨rfl, rfl⟩
  | checkRetransmits sessionId =>
      refine ⟨.of_sameItems ?_ h.inOrder, fun leaves => by cases leaves⟩
      simp only [next] at step
      split at step <;> cases step <;> exact .refl h.inOrder.layout

theorem Accounted.next (h : before.Accounted) {action : Action}
    (step : before.next env action = some after)
    : after.Accounted where
  sound := (next_moves step (before.spawnMeets_any action)).sound h.sound
  inOrder := (next_items h step).1.inOrder
  bounded := (next_items h step).1.bounded h.bounded

theorem accounted_of_reachable (reached : (suppliedSystem env).Reachable host)
    : host.Accounted := by
  refine Transition.System.Inductive.reachable ⟨?_, ?_⟩ reached
  · exact fun _ start => start.2.accounted start.1
  · exact fun _ _ _ h step => h.next step

/-- Whatever players do to one another's loot, every inventory stays as its operations expect
it, every container holds well-formed stacks, and no quantity in the room comes near the limit
of its type.
-/
theorem items_in_order (reached : (suppliedSystem env).Reachable host)
    : (∀ sessionId session, host.room.playerSessions.lookup sessionId = some session →
        session.inventory.Represented
        ∧ (session.isDetached = false → ∀ slot ∈ session.inventory.lootOrder,
          0 ≤ slot.quantity ∧ slot.quantity < 2 ^ 31))
      ∧ ∀ slots ∈ host.room.containerSlots, ∀ slot ∈ slots,
        slot.WellFormed ∧ slot.quantity < 2 ^ 31 := by
  have h := accounted_of_reachable reached
  have limit (slots : List Slot) (good : ∀ slot ∈ slots, slot.WellFormed)
      (held : ∀ blueprintId, slotUnits slots blueprintId ≤ host.room.itemTotal blueprintId)
      (slot : Slot) (mem : slot ∈ slots)
      : slot.quantity < 2 ^ 31 := by
    have single := single_le_slotUnits slot.item.blueprintId good mem
    have total := (held slot.item.blueprintId).trans_lt (h.bounded slot.item.blueprintId)
    rw [Slot.units, if_pos rfl] at single
    omega
  constructor
  · intro sessionId session found
    have good := h.inOrder.inventories sessionId session found
    refine ⟨good.represented, fun staying slot mem => ⟨?_, ?_⟩⟩
    · exact (good.lootOrder mem).quantity_nonneg
    · refine limit _ (fun slot mem => good.lootOrder mem) (fun blueprintId => ?_) slot mem
      have carried := h.inOrder.holdings_le_carried found staying blueprintId
      have stored := h.inOrder.stored_nonneg blueprintId
      rw [PlayerInventory.holdings] at carried
      rw [GameRoom.itemTotal]
      omega
  · intro slots held slot mem
    have good := h.inOrder.containers slots held
    refine ⟨good slot mem, limit slots good (fun blueprintId => ?_) slot mem⟩
    have stored := h.inOrder.slots_le_stored held blueprintId
    have carried := h.inOrder.carried_nonneg blueprintId
    rw [GameRoom.itemTotal]
    omega

/-- No item is duplicated or lost in a room. In every run, each action changes the number of
each item in the room by exactly what it takes out, and the items of those who die in the game
lie in containers afterwards.
-/
theorem items_conserved (reached : (suppliedSystem env).Reachable before) {action : Action}
    (step : before.next env action = some after) (blueprintId : Nat)
    : after.room.itemTotal blueprintId
        = before.room.itemTotal blueprintId - before.lost env action blueprintId
      ∧ 0 ≤ before.lost env action blueprintId
      ∧ (action = .processLeaves → after.room.stored blueprintId
        = before.room.stored blueprintId + before.looted env action blueprintId) := by
  obtain ⟨loses, piles⟩ := next_items (accounted_of_reachable reached) step
  exact ⟨loses.itemTotal blueprintId, loses.nonneg blueprintId,
    fun leaves => piles leaves blueprintId⟩

/-- What the actions of a run take out of the room, one after the other. -/
def lostInRun (env : Environment) (blueprintId : Nat) : RoomHost → List Action → Int
  | _, [] => 0
  | host, action :: rest =>
      match next env host action with
      | none => 0
      | some after => host.lost env action blueprintId + lostInRun env blueprintId after rest

/-- Over a whole run the number of each item falls by all that is taken out on the way, by
induction on the run; so nobody ever holds more of an item, and no container, than the room
began with.
-/
theorem items_never_increase {actions : List Action}
    (reached : (suppliedSystem env).Reachable before)
    (run : (suppliedSystem env).Run before actions after) (blueprintId : Nat)
    : after.room.itemTotal blueprintId
        = before.room.itemTotal blueprintId - lostInRun env blueprintId before actions
      ∧ 0 ≤ lostInRun env blueprintId before actions
      ∧ (∀ sessionId session, after.room.playerSessions.lookup sessionId = some session →
          session.isDetached = false →
            session.inventory.holdings blueprintId ≤ before.room.itemTotal blueprintId)
      ∧ ∀ slots ∈ after.room.containerSlots,
          slotUnits slots blueprintId ≤ before.room.itemTotal blueprintId := by
  have falls : after.room.itemTotal blueprintId
        = before.room.itemTotal blueprintId - lostInRun env blueprintId before actions
      ∧ 0 ≤ lostInRun env blueprintId before actions := by
    induction run with
    | nil state => exact ⟨(Int.sub_zero _).symm, Int.le_refl 0⟩
    | @cons start middle last action rest step _ ih =>
        obtain ⟨later, nonneg⟩ := ih (.step reached step)
        obtain ⟨loses, -⟩ := next_items (accounted_of_reachable reached) step
        have first := loses.itemTotal blueprintId
        have cost := loses.nonneg blueprintId
        have taken : next env start action = some middle := step
        simp only [lostInRun, taken]
        constructor <;> omega
  have order := (accounted_of_reachable (run.reachable reached)).inOrder
  have stored := order.stored_nonneg blueprintId
  have carried := order.carried_nonneg blueprintId
  have total : after.room.itemTotal blueprintId
      = after.room.stored blueprintId + after.room.carried blueprintId := rfl
  refine ⟨falls.1, falls.2, fun sessionId session found staying => ?_, fun slots held => ?_⟩
  · have holds := order.holdings_le_carried found staying blueprintId
    omega
  · have lies := order.slots_le_stored held blueprintId
    omega

end Runs

-----------------------------------------------------------------------------------------
-- A shot
-----------------------------------------------------------------------------------------

theorem duel_supplied : duel.Supplied where
  loadouts sessionId session found := by
    have mem := Table.mem_values_iff.mpr ⟨sessionId, found⟩
    rcases List.mem_pair.mp mem with rfl | rfl
    · exact ⟨_, _, by decide, by decide, rfl⟩
    · exact ⟨[], [], by decide, by decide, rfl⟩
  containers slots mem := by cases mem
  bounded blueprintId := by
    have holdings (uid : Int) (inventorySlots equipmentSlots : List Slot)
        (slots : ∀ slot ∈ inventorySlots, slot.WellFormed)
        (equipment : ∀ slot ∈ equipmentSlots, slot.WellFormed)
        : (newcomer uid inventorySlots equipmentSlots).carried blueprintId
          ≤ ((newcomer uid inventorySlots equipmentSlots).inventory.lootOrder.map
            Slot.quantity).sum :=
      slotUnits_le_quantities blueprintId fun _ mem =>
        (SlotStore.wellFormed_ofSlots slots equipment).lootOrder mem
    have first := holdings 1 [{ item := { blueprintId := 6 }, slotIndex := 0, quantity := 30 }]
      [{ item := { blueprintId := 1 }, slotIndex := 0, quantity := 1 }] (by decide) (by decide)
    have second := holdings 2 [] [] (by decide) (by decide)
    have few : ((newcomer 1 [{ item := { blueprintId := 6 }, slotIndex := 0, quantity := 30 }]
          [{ item := { blueprintId := 1 }, slotIndex := 0, quantity := 1 }]
            ).inventory.lootOrder.map Slot.quantity).sum = 31
        ∧ ((newcomer 2 [] []).inventory.lootOrder.map Slot.quantity).sum = 0 := by
      decide +kernel
    rw [few.1] at first
    rw [few.2] at second
    show (0 : Int) + (PlayerSession.carried _ blueprintId
      + (PlayerSession.carried _ blueprintId + 0)) < 2 ^ 31
    exact (Int.add_le_add_left (Int.add_le_add first (Int.add_le_add_right second 0)) 0).trans_lt
      (by decide)

/-- Both players of the duel have spawned. -/
def drawn : RoomHost :=
  endOf openField (fun _ _ _ => true) duel (lethalShots.take 4)

theorem drawn_reachable : (suppliedSystem openField).Reachable drawn := by
  have run := Transition.System.Run.of_replay
    (fun host : RoomHost => host.Fresh ∧ host.Supplied) (next openField) (fun _ _ _ => true)
    (lethalShots.take 4) duel duel (by decide +kernel)
  exact run.of_restrict.reachable (.initial ⟨duel_fresh, duel_supplied⟩)

def openingShot : Action :=
  request 1 3 (.requestWeaponFire { fireSequence := 0, weaponDbid := 1, hitObjectId := 1 })

/-- The first shot takes one of the thirty rounds. -/
theorem items_conserved_shot
    : ∃ after, drawn.next openField openingShot = some after
      ∧ after.room.itemTotal 6 = drawn.room.itemTotal 6 - 1 := by
  have reached := drawn_reachable
  have cost : drawn.lost openField openingShot 6 = 1 := by decide +kernel
  generalize drawn = host at *
  refine ⟨_, rfl, ?_⟩
  rw [← cost]
  exact (items_conserved reached rfl 6).1

/-- The five shots of the duel are five rounds less in the room. -/
theorem duel_items_never_increase
    : slain.room.itemTotal 6 = duel.room.itemTotal 6 - 5 := by
  have run := (Transition.System.Run.of_replay
    (fun host : RoomHost => host.Fresh ∧ host.Supplied) (next openField)
    (fun before action _ => before.spawnMeets openField undead action) lethalShots duel duel
    (by decide +kernel)).of_restrict
  have falls := items_never_increase (.initial ⟨duel_fresh, duel_supplied⟩) run 6
  have cost : lostInRun openField 6 duel lethalShots = 5 := by decide +kernel
  rw [← cost]
  exact falls.1

theorem items_in_order_drawn
    : ∃ session, drawn.room.playerSessions.lookup 1 = some session
      ∧ session.inventory.Represented := by
  have present : (drawn.room.playerSessions.lookup 1).isSome = true := by decide +kernel
  obtain ⟨session, found⟩ := Option.isSome_iff_exists.mp present
  exact ⟨session, found, ((items_in_order drawn_reachable).1 1 session found).1⟩

end RoomHost

end ExtractionServer.Room
