import ExtractionServer.Lobby.FailedStart
import ExtractionServer.Matchmaking.DediManager
import ExtractionServer.Room.DediServerService
import ExtractionServer.Room.Mirror

/-! From an admitted loadout on, a player holds a weapon until leaving, as long as no weapon is
put away while the other weapon slot holds something else than a weapon.
-/

namespace ExtractionServer.Room

open Lobby Matchmaking

-----------------------------------------------------------------------------------------
-- Weapons in weapon slots
-----------------------------------------------------------------------------------------

/-- Some weapon slot holds an item of the type `WEAPON`. -/
def PlayerInventory.HoldsWeapon (inventory : PlayerInventory) : Prop :=
  ∃ isPrimary,
    ItemDataManager.getType (inventory.weaponSlot isPrimary).item.blueprintId = .weapon

/-- A call that empties no weapon slot while the other one holds something else than a weapon. -/
def InventoryCall.LeavesWeapon (store : SlotStore) (call : InventoryCall) : Prop :=
  ∀ dst isPrimary, call = .unequipWeaponToSlot dst isPrimary →
    (store.get dst).isEmpty = true →
    (store.inventory.weaponSlot !isPrimary).isEmpty = false →
      ItemDataManager.getType (store.inventory.weaponSlot !isPrimary).item.blueprintId = .weapon

namespace SlotStore

variable {store after : SlotStore} {call : InventoryCall}

theorem Performed.holdsWeapon (performed : Performed call store after) (stays : call ≠ .clear)
    (leaves : call.LeavesWeapon store) (holds : store.inventory.HoldsWeapon)
    : after.inventory.HoldsWeapon := by
  obtain ⟨isPrimary, weapon⟩ := holds
  cases performed.rearming isPrimary with
  | kept same =>
      refine ⟨isPrimary, ?_⟩
      rw [show after.inventory.weaponSlot isPrimary = store.inventory.weaponSlot isPrimary
        from same]
      exact weapon
  | weapon isWeapon => exact ⟨isPrimary, isWeapon⟩
  | stowed called empty other kept _ =>
      refine ⟨!isPrimary, ?_⟩
      rw [show after.inventory.weaponSlot (!isPrimary) = store.inventory.weaponSlot !isPrimary
        from kept]
      exact leaves _ isPrimary called empty other
  | cleared called _ => exact absurd called stays

end SlotStore

-----------------------------------------------------------------------------------------
-- Steps
-----------------------------------------------------------------------------------------

namespace Kit

/-- The condition on the calls of one session. -/
def leavesWeapon (sessionId other : Nat) (store : SlotStore) (call : InventoryCall) : Prop :=
  other = sessionId → call.LeavesWeapon store

/-- Until it has left, the session holds a weapon. -/
structure Armed (sessionId : Nat) (kit : Kit) : Prop where
  steady : ∀ pack, kit.packs sessionId = some pack →
    SlotStore.Steady { inventory := pack.inventory }
  holdsWeapon : ∀ pack, kit.packs sessionId = some pack → pack.isDetached = false →
    pack.inventory.HoldsWeapon

variable {sessionId : Nat} {kit after : Kit}

theorem Step.armed {counts : Nat → Prop}
    (step : kit.Step (leavesWeapon sessionId) counts after) (h : kit.Armed sessionId)
    : after.Armed sessionId := by
  constructor
  · intro pack held
    obtain ⟨before, there, carries⟩ := step.carries held
    have steady := h.steady before there
    cases carries with
    | kept inventory _ =>
        rw [inventory]
        exact steady
    | @called container _ _ _ performed inventory _ =>
        rw [inventory]
        exact ((steady.beside container).perform performed).steady.alone
    | left _ inventory =>
        rcases inventory with same | cleared
        · rw [same]
          exact steady
        · rw [cleared]
          exact (SlotStore.cleared_rearming { inventory := before.inventory }).steady
  · intro pack held staying
    obtain ⟨before, there, carries⟩ := step.carries held
    have steady := h.steady before there
    cases carries with
    | kept inventory same =>
        rw [inventory]
        exact h.holdsWeapon before there (same.symm.trans staying)
    | @called container call store right performed inventory same =>
        rw [inventory]
        refine ((steady.beside container).perform performed).holdsWeapon ?_ ?_
          (h.holdsWeapon before there (same.symm.trans staying))
        · rintro rfl
          rcases right with cleared | ⟨cleared, -⟩ <;> cases cleared
        · rcases right with rearranges | ⟨-, permitted⟩
          · rintro dst isPrimary rfl
            cases rearranges
          · exact permitted rfl
    | left gone _ =>
        rw [gone] at staying
        cases staying

theorem Steps.armed {counts : Nat → Prop}
    (steps : kit.Steps (leavesWeapon sessionId) counts after) (h : kit.Armed sessionId)
    : after.Armed sessionId := by
  induction steps with
  | refl => exact h
  | tail _ step ih => exact step.armed ih

end Kit

-----------------------------------------------------------------------------------------
-- Loadouts
-----------------------------------------------------------------------------------------

namespace PlayerInventory

theorem weaponSlot_equipSlot (inventory : PlayerInventory) (slot : Slot) (isPrimary : Bool)
    : (equipSlot inventory slot).weaponSlot isPrimary
      = if slot.slotIndex = (if isPrimary then 0 else 1) then slot
        else inventory.weaponSlot isPrimary := by
  unfold equipSlot weaponSlot
  cases isPrimary with
  | true =>
      by_cases first : slot.slotIndex = 0
      · simp [first]
      · simp only [first, if_false, if_true]
        repeat' split
        all_goals rfl
  | false =>
      by_cases second : slot.slotIndex = 1
      · simp [second]
      · simp only [second, if_false, Bool.false_eq_true]
        repeat' split
        all_goals rfl

/-- Stacks for other places leave a weapon slot alone, by induction on them. -/
theorem weaponSlot_foldl_others (isPrimary : Bool) (given : List Slot)
    (others : ∀ slot ∈ given, slot.slotIndex ≠ if isPrimary then 0 else 1)
    (inventory : PlayerInventory)
    : (given.foldl equipSlot inventory).weaponSlot isPrimary
      = inventory.weaponSlot isPrimary := by
  induction given generalizing inventory with
  | nil => rfl
  | cons slot rest ih =>
      rw [List.foldl_cons, ih fun other mem => others other (List.mem_cons_of_mem _ mem),
        weaponSlot_equipSlot, if_neg (others slot List.mem_cons_self)]

/-- Of stacks with distinct indexes, each weapon slot holds the one that names it. -/
theorem weaponSlot_foldl {isPrimary : Bool} {given : List Slot}
    (distinct : (given.map (·.slotIndex)).Nodup) {slot : Slot} (mem : slot ∈ given)
    (named : slot.slotIndex = if isPrimary then 0 else 1) (inventory : PlayerInventory)
    : (given.foldl equipSlot inventory).weaponSlot isPrimary = slot := by
  obtain ⟨before, after, rfl⟩ := List.append_of_mem mem
  rw [List.map_append, List.map_cons] at distinct
  have apart := (List.nodup_cons.mp (List.nodup_append.mp distinct).2.1).1
  have others : ∀ other ∈ after, other.slotIndex ≠ if isPrimary then 0 else 1 := by
    intro other later same
    exact apart (List.mem_map.mpr ⟨other, later, same.trans named.symm⟩)
  rw [List.foldl_append, List.foldl_cons, weaponSlot_foldl_others isPrimary after others,
    weaponSlot_equipSlot, if_pos named]

theorem weaponSlot_ofSlots {inventorySlots equipmentSlots : List Slot} {isPrimary : Bool}
    (distinct : (equipmentSlots.map (·.slotIndex)).Nodup) {slot : Slot}
    (mem : slot ∈ equipmentSlots) (named : slot.slotIndex = if isPrimary then 0 else 1)
    : (ofSlots inventorySlots equipmentSlots).weaponSlot isPrimary = slot := by
  have equipped : (unarmed inventorySlots equipmentSlots).weaponSlot isPrimary = slot :=
    weaponSlot_foldl distinct mem named _
  rw [ofSlots_eq, ← equipped]
  exact ((SlotStore.loadMagazineFromInventory_equipment _ false).1 isPrimary).trans
    ((SlotStore.loadMagazineFromInventory_equipment _ true).1 isPrimary)

end PlayerInventory

/-- An item id of the item table is an `int`. -/
def IntIds (catalog : Catalog) : Prop :=
  ∀ itemId ∈ catalog.items, itemId < 2 ^ 31

/-- The item data that was generated from the item tables has their weapons as weapons; an item
id is an `int`.
-/
def MatchesItemData (catalog : Catalog) : Prop :=
  ∀ itemId itemType, catalog.items.lookup itemId = some itemType →
    itemId < 2 ^ 31
    ∧ (itemType = .weapon → ItemDataManager.getType itemId.toNat = .weapon)

theorem MatchesItemData.intIds {catalog : Catalog} (h : MatchesItemData catalog)
    : IntIds catalog := by
  intro itemId mem
  obtain ⟨itemType, found⟩ := Table.exists_lookup_of_mem mem
  exact (h itemId itemType found).1

/-- The session of a player whose `CUSTOM` loadout `/match/start` has admitted. -/
def Admitted (catalog : Catalog) (session : PlayerSession) : Prop :=
  ∃ fails index ticketId client state body hash fields ticket securityKey,
    (start catalog fails index ticketId client state (some body)).2 = .success ticketId
    ∧ (start catalog fails index ticketId client state (some body)).1.redis.tickets.lookup
        ticketId = some hash
    ∧ hash.fields = some fields ∧ fields.loadoutType = .custom
    ∧ session = DediServerService.newSession (MatchTicket.toPlayerInfo ticket fields) securityKey

/-- A ticket that is made has the loadout. -/
theorem enqueue_success {state : StartState} {fails : Call → Bool} {ticketId : String}
    {client : SessionHash} {request : StartRequest} {loadout : Lobby.Loadout}
    {hash : TicketHash} {fields : TicketFields}
    (success : (state.enqueue fails ticketId client request loadout).2 = .success ticketId)
    (stored : (state.enqueue fails ticketId client request loadout).1.redis.tickets.lookup
      ticketId = some hash)
    (created : hash.fields = some fields)
    : fields.loadoutType = request.loadoutType
      ∧ fields.inventoryItems = loadout.inventoryItems
      ∧ fields.equipmentItems = loadout.equipmentItems := by
  unfold StartState.enqueue at success stored
  by_cases locking : fails .setLock = true
  · rw [if_pos locking] at success
    cases success
  rw [if_neg locking] at success stored
  by_cases held : (state.lock client.dbId).isSome = true
  · rw [if_pos held] at success
    cases success
  rw [if_neg held] at success stored
  by_cases writing : fails .hSetTicket = true
  · simp only [writing, if_true] at success
    cases success
  by_cases expiring : fails .expireTicket = true
  · simp only [writing, expiring, if_true, Bool.false_eq_true, if_false] at success
    cases success
  simp only [writing, expiring, Bool.false_eq_true, if_false] at stored
  rw [AList.lookup_insert] at stored
  obtain rfl := Option.some.inj stored
  obtain rfl := Option.some.inj created
  exact ⟨rfl, rfl, rfl⟩

/-- What a successful start writes into its ticket. -/
theorem start_success {catalog : Catalog} {fails : Call → Bool}
    {index : Fin FREE_LOADOUT_PRESETS.length} {ticketId : String} {client : SessionHash}
    {state : StartState} {body : JavaScript.Value} {hash : TicketHash} {fields : TicketFields}
    (success : (start catalog fails index ticketId client state (some body)).2
      = .success ticketId)
    (stored : (start catalog fails index ticketId client state
      (some body)).1.redis.tickets.lookup ticketId = some hash)
    (created : hash.fields = some fields)
    : ∃ request account loadout, readStart body = .ok request
      ∧ startTransaction catalog fails state.account (FREE_LOADOUT_PRESETS.get index) request
        = .ok (account, loadout)
      ∧ fields.loadoutType = request.loadoutType
      ∧ fields.inventoryItems = loadout.inventoryItems
      ∧ fields.equipmentItems = loadout.equipmentItems := by
  unfold start at success stored
  dsimp only at success stored
  split at success
  · cases success
  · cases success
  · next request read =>
      rw [read] at stored
      dsimp only at stored
      split at success
      · cases success
      · next connected =>
          rw [if_neg connected] at stored
          split at success
          · cases success
          · cases success
          · next account loadout committed =>
              rw [committed] at stored
              refine ⟨request, account, loadout, read, committed, ?_⟩
              exact enqueue_success success stored created

/-- A transaction for a `CUSTOM` loadout that commits has found a weapon in a weapon slot, among
entries that the database takes.
-/
theorem startTransaction_custom {catalog : Catalog} {fails : Call → Bool}
    {account after : Account} {preset loadout : Lobby.Loadout} {request : StartRequest}
    (committed : startTransaction catalog fails account preset request = .ok (after, loadout))
    (custom : request.loadoutType = .custom)
    : loadout = customLoadout request.snapshot.items
      ∧ ∃ item ∈ weaponSlotItems request.snapshot.items,
        catalog.items.lookup item.itemId = some .weapon := by
  unfold startTransaction at committed
  obtain ⟨_, _, committed⟩ := Except.bind_eq_ok committed
  obtain ⟨_, _, committed⟩ := Except.bind_eq_ok committed
  dsimp only at committed
  split at committed
  · cases committed
  · obtain ⟨_, _, committed⟩ := Except.bind_eq_ok committed
    rw [custom] at committed
    dsimp only at committed
    split at committed
    · cases committed
    · obtain ⟨_, _, committed⟩ := Except.bind_eq_ok committed
      split at committed
      · cases committed
      · next armed =>
          obtain ⟨_, _, committed⟩ := Except.bind_eq_ok committed
          obtain ⟨-, rfl⟩ := Prod.mk.inj (Except.ok.inj committed)
          refine ⟨rfl, ?_⟩
          simpa only [Bool.not_eq_true', Bool.not_eq_false, List.any_eq_true, beq_iff_eq]
            using armed

/-- Entries of a snapshot that the database takes. -/
structure Storable (catalog : Catalog) (items : List InventoryItem) : Prop where
  wellFormed : ∀ item ∈ items, item.WellFormed
  known : ∀ item ∈ items, item.itemId ∈ catalog.items ∧ item.quantity < 2 ^ 31
  slots : (items.map (·.slotIndex)).Nodup

/-- The database has taken the entries of a transaction that commits. -/
theorem storable_of_committed {catalog : Catalog} {fails : Call → Bool}
    {account after : Account} {preset loadout : Lobby.Loadout} {request : StartRequest}
    (committed : startTransaction catalog fails account preset request = .ok (after, loadout))
    : Storable catalog request.snapshot.items := by
  refine ⟨request.snapshot.wellFormed, fun item mem => ?_, request.snapshot.slots⟩
  rcases (startTransaction_eq_ok committed).2.2 with none | ⟨-, -, insertable⟩
  · rw [none] at mem
    cases mem
  · obtain ⟨known, -, -, -, bounded⟩ := insertable item mem
    exact ⟨known, bounded⟩

namespace Storable

variable {catalog : Catalog} {items : List InventoryItem}

theorem getUInt32_itemId (h : Storable catalog items) (ids : IntIds catalog)
    {item : InventoryItem} (mem : item ∈ items)
    : getUInt32 item.itemId = item.itemId.toNat := by
  have small := ids item.itemId (h.known item mem).1
  have positive := (h.wellFormed item mem).1
  unfold getUInt32
  rw [Int.emod_eq_of_lt (by omega) (by omega)]

/-- The inventory of the loadout consists of proper stacks. -/
theorem loadout_inventory (h : Storable catalog items) (ids : IntIds catalog)
    : SlotStore.Loadout ((((customLoadout items).inventoryItems.map
        InventoryEntry.toSlot)).map DediServerService.toSlot) := by
  intro slot mem
  simp only [customLoadout, List.map_map, List.mem_map, Function.comp] at mem
  obtain ⟨item, chosen, rfl⟩ := mem
  have mem := List.mem_of_mem_filter chosen
  obtain ⟨positive, -, -, counted⟩ := h.wellFormed item mem
  have bounded := (h.known item mem).2
  constructor
  · show getUInt32 item.itemId ≠ 0
    rw [h.getUInt32_itemId ids mem]
    omega
  · show 1 ≤ getInt32 item.quantity
    unfold getInt32
    rw [Int.bmod_eq_of_le (by omega) (by omega)]
    exact counted

theorem loadout_equipment (h : Storable catalog items) (ids : IntIds catalog)
    : SlotStore.Loadout ((((customLoadout items).equipmentItems.map
        EquipmentEntry.toSlot)).map DediServerService.toSlot) := by
  intro slot mem
  simp only [customLoadout, List.map_map, List.mem_map, Function.comp] at mem
  obtain ⟨item, chosen, rfl⟩ := mem
  have mem := List.mem_of_mem_filter chosen
  have positive := (h.wellFormed item mem).1
  constructor
  · show getUInt32 item.itemId ≠ 0
    rw [h.getUInt32_itemId ids mem]
    omega
  · exact Int.le_refl 1

/-- An entry in an equipment slot keeps its place in the equipment. -/
theorem getInt32_slotIndex {item : InventoryItem} (mem : item ∈ equipmentRaw items)
    : getInt32 (item.slotIndex - LOADOUT_SLOT_MIN) = item.slotIndex - LOADOUT_SLOT_MIN := by
  obtain ⟨-, range⟩ := List.mem_filter.mp mem
  have inRange := of_decide_eq_true range
  simp only [LOADOUT_SLOT_MIN, LOADOUT_SLOT_MAX] at inRange ⊢
  exact Int.bmod_eq_of_le (by omega) (by omega)

theorem equipment_distinct (h : Storable catalog items)
    : (((((customLoadout items).equipmentItems.map EquipmentEntry.toSlot)).map
        DediServerService.toSlot).map (·.slotIndex)).Nodup := by
  have apart : ((equipmentRaw items).map (·.slotIndex)).Nodup :=
    h.slots.sublist (List.filter_sublist.map _)
  have shifted : ((equipmentRaw items).map fun item =>
      getInt32 (item.slotIndex - LOADOUT_SLOT_MIN))
        = ((equipmentRaw items).map (·.slotIndex)).map (· - LOADOUT_SLOT_MIN) := by
    rw [List.map_map]
    exact List.map_congr_left fun item mem => getInt32_slotIndex mem
  simp only [customLoadout, List.map_map]
  refine Eq.mpr (congrArg List.Nodup (Eq.trans ?_ shifted)) (apart.map fun first second same => ?_)
  · rfl
  · exact sub_left_injective same

/-- One of the weapons of the entries is in its weapon slot. -/
theorem holdsWeapon (h : Storable catalog items) (matched : MatchesItemData catalog)
    {item : InventoryItem} (chosen : item ∈ weaponSlotItems items)
    (weapon : catalog.items.lookup item.itemId = some .weapon) (inventorySlots : List Slot)
    : (PlayerInventory.ofSlots inventorySlots ((((customLoadout items).equipmentItems.map
        EquipmentEntry.toSlot)).map DediServerService.toSlot)).HoldsWeapon := by
  obtain ⟨equipped, place⟩ := List.mem_filter.mp chosen
  have mem := List.mem_of_mem_filter equipped
  have isWeapon := (matched item.itemId .weapon weapon).2 rfl
  have stored : DediServerService.toSlot (EquipmentEntry.toSlot
      { itemId := item.itemId, equipmentSlotId := item.slotIndex - LOADOUT_SLOT_MIN })
        ∈ ((customLoadout items).equipmentItems.map EquipmentEntry.toSlot).map
          DediServerService.toSlot :=
    List.mem_map_of_mem (List.mem_map_of_mem (List.mem_map.mpr ⟨item, equipped, rfl⟩))
  obtain ⟨isPrimary, named⟩ : ∃ isPrimary : Bool,
      getInt32 (item.slotIndex - LOADOUT_SLOT_MIN) = if isPrimary then 0 else 1 := by
    rw [getInt32_slotIndex equipped]
    simp only [decide_eq_true_eq] at place
    rcases place with primary | secondary
    · exact ⟨true, by simp [primary]⟩
    · exact ⟨false, by simp [secondary]⟩
  refine ⟨isPrimary, ?_⟩
  rw [PlayerInventory.weaponSlot_ofSlots h.equipment_distinct stored named]
  show ItemDataManager.getType (getUInt32 item.itemId) = .weapon
  rw [h.getUInt32_itemId matched.intIds mem]
  exact isWeapon

end Storable

/-- An admitted player comes with a weapon, and with proper stacks only. -/
theorem Admitted.armed {catalog : Catalog} {session : PlayerSession}
    (admitted : Admitted catalog session) (matched : MatchesItemData catalog)
    : SlotStore.Steady { inventory := session.inventory } ∧ session.inventory.HoldsWeapon := by
  obtain ⟨fails, index, ticketId, client, state, body, hash, fields, ticket, securityKey, success,
    stored, created, custom, rfl⟩ := admitted
  obtain ⟨request, account, loadout, _, committed, loadoutType, inventoryItems,
    equipmentItems⟩ := start_success success stored created
  obtain ⟨rfl, item, chosen, weapon⟩ :=
    startTransaction_custom committed (loadoutType.symm.trans custom)
  have storable := storable_of_committed committed
  have inventory : (DediServerService.newSession (MatchTicket.toPlayerInfo ticket fields)
        securityKey).inventory
      = .ofSlots (((customLoadout request.snapshot.items).inventoryItems.map
            InventoryEntry.toSlot).map DediServerService.toSlot)
          (((customLoadout request.snapshot.items).equipmentItems.map
            EquipmentEntry.toSlot).map DediServerService.toSlot) := by
    rw [← inventoryItems, ← equipmentItems]
    rfl
  rw [inventory]
  refine ⟨?_, storable.holdsWeapon matched chosen weapon _⟩
  exact (SlotStore.wellFormed_inductive.initial _ ⟨_, _,
    storable.loadout_inventory matched.intIds, storable.loadout_equipment matched.intIds,
    rfl⟩).steady

-----------------------------------------------------------------------------------------
-- Every run
-----------------------------------------------------------------------------------------

namespace RoomHost

/-- The runs of a room in which one session is that of an admitted player. -/
def admittedSystem (env : Environment) (catalog : Catalog) (sessionId : Nat)
    : Transition.System RoomHost Action :=
  .ofNext
    (fun host => host.Fresh ∧ ∃ session,
      host.room.playerSessions.lookup sessionId = some session ∧ Admitted catalog session)
    (next env)

variable {env : Environment} {catalog : Catalog} {sessionId : Nat} {host : RoomHost}

theorem armed_of_admitted (matched : MatchesItemData catalog)
    (reached : ((admittedSystem env catalog sessionId).restrict fun before action _ =>
      before.permits env (Kit.leavesWeapon sessionId) action).Reachable host)
    : host.Sound ∧ host.room.kit.Armed sessionId := by
  induction reached with
  | @initial start admission =>
      obtain ⟨fresh, session, found, admitted⟩ := admission
      obtain ⟨steady, holdsWeapon⟩ := admitted.armed matched
      refine ⟨fresh.sound, fun pack held => ?_, fun pack held _ => ?_⟩
      · cases (kit_packs found).symm.trans held
        exact steady
      · cases (kit_packs found).symm.trans held
        exact holdsWeapon
  | step _ step ih =>
      refine ⟨(next_moves step.1 (spawnMeets_any _ _)).sound ih.1, ?_⟩
      exact (next_steps ih.1 step.2 (counted_any _) step.1).armed ih.2

/-- In every run that puts no weapon away beside something else than a weapon, an admitted
player holds a weapon until leaving.
-/
theorem holds_weapon (matched : MatchesItemData catalog)
    (reached : ((admittedSystem env catalog sessionId).restrict fun before action _ =>
      before.permits env (Kit.leavesWeapon sessionId) action).Reachable host)
    {session : PlayerSession} (found : host.room.playerSessions.lookup sessionId = some session)
    (staying : session.isDetached = false)
    : session.inventory.HoldsWeapon :=
  (armed_of_admitted matched reached).2.holdsWeapon session.pack (kit_packs found) staying

/-- Two weapons and an armor. -/
def armsTable : Catalog where
  items := ((AList.singleton 1 .weapon).insert 2 .weapon).insert 4 .armor
  shop := ∅
  itemMeta := ∅

/-- A start with an AK-47 in the primary slot and another item in the secondary slot. -/
def equipBeside (other : Int) : JavaScript.Value :=
  .object
    [("mapId", .integer 0), ("characterType", .integer 0), ("loadoutType", .string "CUSTOM"),
      ("inventory", .array
        [.object [("item_id", .integer 1), ("slot_index", .integer 105),
            ("quantity", .integer 1)],
          .object [("item_id", .integer other), ("slot_index", .integer 106),
            ("quantity", .integer 1)]])]

def owning (other : Int) : StartState where
  account :=
    { rows :=
        [{ itemId := 1, slotIndex := 0, quantity := 1 },
          { itemId := other, slotIndex := 1, quantity := 1 }]
      money := some 0 }
  redis := {}

/-- The fields of the ticket. -/
def besideFields (other : Int) : TicketFields where
  uid := 1
  userId := "alpha"
  rating := 1500
  aggression := 5
  loadoutType := .custom
  mapId := 0
  characterType := 0
  equipmentItems :=
    [{ itemId := 1, equipmentSlotId := 0 }, { itemId := other, equipmentSlotId := 1 }]

def besideTicket : MatchTicket where
  ticketId := "ticket"
  uId := 1
  aggression := 5
  mapId := 0
  characterType := 0
  startTime := 0

def besideSession (other : Int) : PlayerSession :=
  DediServerService.newSession (besideTicket.toPlayerInfo (besideFields other)) 0

theorem besideSession_admitted {other : Int} (known : other = 2 ∨ other = 4)
    : Admitted armsTable (besideSession other) := by
  refine ⟨fun _ => false, ⟨0, by decide⟩, "ticket", playerSession, owning other,
    equipBeside other,
    { fields := some (besideFields other), status := some .waiting, ttl := some 300 },
    besideFields other, besideTicket, 0, ?_, ?_, rfl, rfl, rfl⟩
  · rcases known with rfl | rfl <;> decide +kernel
  · rcases known with rfl | rfl <;> decide +kernel

theorem armsTable_matches : MatchesItemData armsTable := by
  intro itemId itemType found
  have known : itemId = 4 ∨ itemId = 2 ∨ itemId = 1 := by
    have mem : itemId ∈ armsTable.items.keys :=
      AList.mem_keys.mp (AList.lookup_isSome.mp (Option.isSome_of_eq_some found))
    simpa [armsTable, AList.keys_insert] using mem
  rcases known with rfl | rfl | rfl
  · cases found
    exact ⟨by decide, nofun⟩
  · cases found
    exact ⟨by decide, fun _ => rfl⟩
  · cases found
    exact ⟨by decide, fun _ => rfl⟩

/-- A room for the player with the AK-47. -/
def besideRoom (other : Int) : RoomHost :=
  emptyMap (AList.singleton 1 (besideSession other))

theorem besideRoom_initial {other : Int} (known : other = 2 ∨ other = 4)
    : (admittedSystem openField armsTable 1).initial (besideRoom other) := by
  refine ⟨emptyMap_fresh fun session mem => ?_, besideSession other, by rfl,
    besideSession_admitted known⟩
  obtain rfl := List.mem_singleton.mp mem
  exact ⟨⟨_, _, rfl⟩, rfl, rfl, rfl, rfl, rfl, rfl, rfl⟩

/-- Enter and put the AK-47 into an empty inventory slot. -/
def putAway : List Action :=
  [request 1 1 (.channelOpen ""),
    request 1 2 (.requestEquipItem
      { actionType := 1
        equipmentSlotType := 0
        objectId := PLAYER_OBJECT_ID_SENTINEL
        objectInventoryVersion := 0
        objectSlotIdx := 0 })]

/-- Beside an armor, the AK-47 can be put away. -/
theorem bare_hands
    : ¬∀ (env : Environment) (catalog : Catalog) (sessionId : Nat) (host : RoomHost)
        (session : PlayerSession), MatchesItemData catalog →
        (admittedSystem env catalog sessionId).Reachable host →
        host.room.playerSessions.lookup sessionId = some session →
        session.isDetached = false →
          session.inventory.HoldsWeapon := by
  intro armed
  have run := Transition.System.Run.of_replay (admittedSystem openField armsTable 1).initial
    (next openField) (fun _ _ _ => true) putAway (besideRoom 4) (besideRoom 4)
    (by decide +kernel)
  have reached : (admittedSystem openField armsTable 1).Reachable
      (endOf openField (fun _ _ _ => true) (besideRoom 4) putAway) :=
    (run.reachable (.initial (besideRoom_initial (.inr rfl)))).of_restrict
  have bare : ((endOf openField (fun _ _ _ => true) (besideRoom 4)
      putAway).room.playerSessions.lookup 1).any (fun session =>
        !session.isDetached
          && decide (ItemDataManager.getType
            session.inventory.primaryWeaponSlot.item.blueprintId ≠ .weapon)
          && decide (ItemDataManager.getType
            session.inventory.secondaryWeaponSlot.item.blueprintId ≠ .weapon)) = true := by
    decide +kernel
  obtain ⟨session, found, holds⟩ := (Option.any_eq_true _ _).mp bare
  simp only [Bool.and_eq_true, Bool.not_eq_true', decide_eq_true_eq] at holds
  obtain ⟨isPrimary, weapon⟩ :=
    armed openField armsTable 1 _ session armsTable_matches reached found holds.1.1
  cases isPrimary with
  | true => exact holds.1.2 weapon
  | false => exact holds.2 weapon

/-- The player has two weapons. -/
def carriesTwo (sessionId : Nat) (host : RoomHost) : Bool :=
  (host.room.playerSessions.lookup sessionId).all fun session =>
    decide (∀ isPrimary, ItemDataManager.getType
      (session.inventory.weaponSlot isPrimary).item.blueprintId = .weapon)

/-- Of two weapons, one may be put away. -/
theorem permits_of_carriesTwo (two : host.carriesTwo sessionId = true) (action : Action)
    : host.permits env (Kit.leavesWeapon sessionId) action := by
  unfold permits
  split
  · rintro - session found - opened store unloadedSlotIdx ref - rfl dst isPrimary - - -
    unfold carriesTwo at two
    rw [found] at two
    exact of_decide_eq_true two _
  · trivial

/-- Put the AK-47 away beside another weapon. -/
def emptyHanded : RoomHost :=
  endOf openField (fun before _ _ => before.carriesTwo 1) (besideRoom 2) putAway

/-- The other weapon remains. -/
theorem weapon_remains
    : ∃ session, emptyHanded.room.playerSessions.lookup 1 = some session
      ∧ session.inventory.primaryWeaponSlot.isEmpty = true
      ∧ session.inventory.HoldsWeapon := by
  have run := Transition.System.Run.of_replay (admittedSystem openField armsTable 1).initial
    (next openField) (fun before _ _ => before.carriesTwo 1) putAway (besideRoom 2)
    (besideRoom 2) (by decide +kernel)
  have reached : ((admittedSystem openField armsTable 1).restrict fun before action _ =>
      before.permits openField (Kit.leavesWeapon 1) action).Reachable emptyHanded :=
    (run.reachable (.initial (besideRoom_initial (.inl rfl)))).mono_restrict
      fun _ action _ _ two => permits_of_carriesTwo two action
  have put : (emptyHanded.room.playerSessions.lookup 1).any (fun session =>
      !session.isDetached && session.inventory.primaryWeaponSlot.isEmpty) = true := by
    decide +kernel
  obtain ⟨session, found, holds⟩ := (Option.any_eq_true _ _).mp put
  simp only [Bool.and_eq_true, Bool.not_eq_true'] at holds
  exact ⟨session, found, holds.2, holds_weapon armsTable_matches reached found holds.1⟩

end RoomHost

end ExtractionServer.Room
