import ExtractionServer.Library.Versions
import ExtractionServer.Room.Plans
import ExtractionServer.Room.RoomRuns
import ExtractionServer.Room.StackMoves
import ExtractionServer.Room.Turns

/-! Versions detect every concurrent change. Whatever changes the slots of a container or of
an inventory increments its version, and requests that move items name the versions they
have seen.
-/

namespace ExtractionServer.Room

open Transition Transport

-----------------------------------------------------------------------------------------
-- Versions of inventories
-----------------------------------------------------------------------------------------

/-- Shots take single rounds out of a magazine. -/
def Slot.Drained : Slot → Slot → Prop :=
  Relation.ReflTransGen fun before after =>
    before.isEmpty = false ∧ 0 < before.quantity ∧ after = before.take 1

namespace PlayerInventory

/-- An inventory as long as nobody moves items: only magazines may have been drained. -/
structure Rests (before after : PlayerInventory) : Prop where
  inventorySlots : after.inventorySlots = before.inventorySlots
  primaryWeaponSlot : after.primaryWeaponSlot = before.primaryWeaponSlot
  secondaryWeaponSlot : after.secondaryWeaponSlot = before.secondaryWeaponSlot
  armorSlot : after.armorSlot = before.armorSlot
  magazines : ∀ isPrimary,
    (before.magazineSlot isPrimary).Drained (after.magazineSlot isPrimary)

theorem Rests.refl (inventory : PlayerInventory) : inventory.Rests inventory :=
  ⟨rfl, rfl, rfl, rfl, fun _ => .refl⟩

theorem Rests.trans {a b c : PlayerInventory} (first : a.Rests b) (second : b.Rests c)
    : a.Rests c where
  inventorySlots := second.inventorySlots.trans first.inventorySlots
  primaryWeaponSlot := second.primaryWeaponSlot.trans first.primaryWeaponSlot
  secondaryWeaponSlot := second.secondaryWeaponSlot.trans first.secondaryWeaponSlot
  armorSlot := second.armorSlot.trans first.armorSlot
  magazines isPrimary := (first.magazines isPrimary).trans (second.magazines isPrimary)

/-- One change of an inventory. -/
def Advances (before after : PlayerInventory) : Prop :=
  (after.inventoryVersion = before.inventoryVersion ∧ before.Rests after)
    ∨ after.inventoryVersion = before.inventoryVersion + 1

theorem Advances.refl (inventory : PlayerInventory) : inventory.Advances inventory :=
  .inl ⟨rfl, .refl inventory⟩

@[simp] theorem setSlot_inventoryVersion (inventory : PlayerInventory) (index : SlotIndex)
    (slot : Slot)
    : (inventory.setSlot index slot).inventoryVersion = inventory.inventoryVersion := rfl

@[simp] theorem setWeaponSlot_inventoryVersion (inventory : PlayerInventory)
    (isPrimary : Bool) (slot : Slot)
    : (inventory.setWeaponSlot isPrimary slot).inventoryVersion
      = inventory.inventoryVersion := by
  cases isPrimary <;> rfl

@[simp] theorem setMagazineSlot_inventoryVersion (inventory : PlayerInventory)
    (isPrimary : Bool) (slot : Slot)
    : (inventory.setMagazineSlot isPrimary slot).inventoryVersion
      = inventory.inventoryVersion := by
  cases isPrimary <;> rfl

@[simp] theorem updateFirstEmptySlotIndex_inventoryVersion (inventory : PlayerInventory)
    : inventory.updateFirstEmptySlotIndex.inventoryVersion = inventory.inventoryVersion := rfl

@[simp] theorem incrementInventoryVersion_inventoryVersion (inventory : PlayerInventory)
    : inventory.incrementInventoryVersion.inventoryVersion
      = inventory.inventoryVersion + 1 := rfl

@[simp] theorem clear_inventoryVersion (inventory : PlayerInventory)
    : inventory.clear.inventoryVersion = inventory.inventoryVersion + 1 := rfl

@[simp] theorem unloadMagazineToInventory_inventoryVersion (inventory : PlayerInventory)
    (isPrimary : Bool)
    : (inventory.unloadMagazineToInventory isPrimary).1.inventoryVersion
      = inventory.inventoryVersion := by
  unfold unloadMagazineToInventory
  dsimp only
  split
  · rfl
  · split
    · simp
    · split <;> simp

@[simp] theorem setMagazineSlot_self (inventory : PlayerInventory) (isPrimary : Bool)
    : inventory.setMagazineSlot isPrimary (inventory.magazineSlot isPrimary)
      = inventory := by
  cases isPrimary <;> rfl

/-- Loading a magazine counts as a change exactly when it moves rounds. -/
theorem loadMagazineFromInventory_cases (inventory : PlayerInventory) (isPrimary : Bool)
    : inventory.loadMagazineFromInventory isPrimary = inventory
      ∨ (inventory.loadMagazineFromInventory isPrimary).inventoryVersion
        = inventory.inventoryVersion + 1 := by
  unfold loadMagazineFromInventory
  dsimp only
  split
  · exact .inl rfl
  · split
    · exact .inl rfl
    · next spec _ =>
        split
        · exact .inl rfl
        · split
          · exact .inr (by simp)
          · next idle =>
              refine .inl ?_
              rw [(Loading.foldl_changed _ _ _).resolve_right idle]
              exact inventory.setMagazineSlot_self isPrimary

/-- A refused reload changes nothing; an accepted one has named the current version. -/
theorem reload_cases (inventory : PlayerInventory) (isUsingPrimary : Bool)
    (version : BitVec 32)
    : (RoomHost.reload inventory isUsingPrimary version).1 = inventory
      ∨ (RoomHost.reload inventory isUsingPrimary version).1.inventoryVersion
          = inventory.inventoryVersion + 1
        ∧ version = inventory.inventoryVersion := by
  unfold RoomHost.reload
  split
  · exact .inl rfl
  · next current =>
      rcases inventory.loadMagazineFromInventory_cases isUsingPrimary with same | bumped
      · exact .inl same
      · exact .inr ⟨bumped, not_not.mp current⟩

/-- A shot drains one magazine by one round. -/
theorem rests_shot {inventory : PlayerInventory} {isUsingPrimary : Bool}
    (loaded : (inventory.magazineSlot isUsingPrimary).isEmpty = false)
    (positive : 0 < (inventory.magazineSlot isUsingPrimary).quantity)
    : inventory.Rests (inventory.setMagazineSlot isUsingPrimary
        ((inventory.magazineSlot isUsingPrimary).take 1)) := by
  have drained : (inventory.magazineSlot isUsingPrimary).Drained
      ((inventory.magazineSlot isUsingPrimary).take 1) :=
    .single ⟨loaded, positive, rfl⟩
  cases isUsingPrimary with
  | true =>
      refine ⟨rfl, rfl, rfl, rfl, fun isPrimary => ?_⟩
      cases isPrimary with
      | true => exact drained
      | false => exact .refl
  | false =>
      refine ⟨rfl, rfl, rfl, rfl, fun isPrimary => ?_⟩
      cases isPrimary with
      | true => exact .refl
      | false => exact drained

end PlayerInventory

namespace SlotStore

@[simp] theorem set_inventoryVersion (store : SlotStore) (ref : SlotRef) (slot : Slot)
    : (store.set ref slot).inventory.inventoryVersion
      = store.inventory.inventoryVersion := by
  cases ref <;> rfl

@[simp] theorem swapWeapon_inventoryVersion (store : SlotStore) (ref : SlotRef)
    (isPrimary : Bool)
    : (store.swapWeapon ref isPrimary).inventory.inventoryVersion
      = store.inventory.inventoryVersion := by
  simp [swapWeapon]

@[simp] theorem swapArmor_inventoryVersion (store : SlotStore) (ref : SlotRef)
    : (store.swapArmor ref).inventory.inventoryVersion = store.inventory.inventoryVersion := by
  simp [swapArmor]

@[simp] theorem touchInventory_inventoryVersion (store : SlotStore)
    : store.touchInventory.inventory.inventoryVersion
      = store.inventory.inventoryVersion + 1 := rfl

@[simp] theorem set_container_inventory (store : SlotStore) (index : Nat) (slot : Slot)
    : (store.set (.container index) slot).inventory = store.inventory := rfl

/-- A move between slots does not touch the version itself. -/
theorem interact_inventoryVersion {store moved : SlotStore} {interactType : Nat}
    {startRef endRef : SlotRef} {quantity : Int}
    (moves : store.interact interactType startRef endRef quantity = .ok moved)
    : moved.inventory.inventoryVersion = store.inventory.inventoryVersion := by
  unfold interact at moves
  dsimp only at moves
  repeat' split at moves
  all_goals cases moves
  all_goals simp

end SlotStore

/-- Every equipment operation is one change of the inventory. -/
theorem RoomHost.equipMove_inventoryVersion {pkt : C2DRequestEquipItem}
    {store result : SlotStore} {ref : SlotRef} {unloadedSlotIdx : Option SlotIndex}
    (moves : equipMove pkt store ref = .ok (result, unloadedSlotIdx))
    : result.inventory.inventoryVersion = store.inventory.inventoryVersion + 1 := by
  unfold equipMove SlotStore.equipWeaponFromSlot SlotStore.equipArmorFromSlot
    SlotStore.unequipWeaponToSlot SlotStore.unequipArmorToSlot at moves
  dsimp only at moves
  repeat' split at moves
  all_goals cases moves
  all_goals simp

-----------------------------------------------------------------------------------------
-- The items of a room
-----------------------------------------------------------------------------------------

namespace GameRoom

def inventoryOf (room : GameRoom) (sessionId : Nat) : Option PlayerInventory :=
  (room.playerSessions.lookup sessionId).map (·.inventory)

/-- The slots of a container with their version. -/
def contents (room : GameRoom) (containerId : Nat) : Option (List Slot × BitVec 32) :=
  (room.findContainer containerId).map fun box => (box.inventorySlots, box.containerVersion)

variable (room : GameRoom) (sessionId : Nat)

theorem inventoryOf_modifySession (f : PlayerSession → PlayerSession) (otherId : Nat)
    : (room.modifySession sessionId f).inventoryOf otherId
      = if otherId = sessionId then
          (room.playerSessions.lookup otherId).map fun session => (f session).inventory
        else room.inventoryOf otherId := by
  unfold inventoryOf
  rw [modifySession, Table.lookup_adjust]
  split
  · rw [Option.map_map]
    rfl
  · rfl

theorem inventoryOf_modifySession_of_same {f : PlayerSession → PlayerSession}
    (same : ∀ session, (f session).inventory = session.inventory)
    : (room.modifySession sessionId f).inventoryOf = room.inventoryOf := by
  funext otherId
  rw [inventoryOf_modifySession]
  split
  · unfold inventoryOf
    congr 1
    exact funext same
  · rfl

theorem contents_modifyContainer (containerId : Nat) (f : Container → Container)
    (otherId : Nat)
    : (room.modifyContainer containerId f).contents otherId
      = if otherId = containerId then
          (room.findContainer otherId).map fun box =>
            ((f box).inventorySlots, (f box).containerVersion)
        else room.contents otherId := by
  unfold contents
  rw [findContainer_modifyContainer]
  split
  · rw [Option.map_map]
    rfl
  · rfl

theorem contents_modifyContainer_of_same (containerId : Nat) {f : Container → Container}
    (same : ∀ box, (f box).inventorySlots = box.inventorySlots
      ∧ (f box).containerVersion = box.containerVersion)
    : (room.modifyContainer containerId f).contents = room.contents := by
  funext otherId
  rw [contents_modifyContainer]
  split
  · unfold contents
    congr 1
    funext box
    rw [(same box).1, (same box).2]
  · rfl

theorem inventoryOf_modifyContainer (containerId : Nat) (f : Container → Container)
    : (room.modifyContainer containerId f).inventoryOf = room.inventoryOf := by
  unfold inventoryOf modifyContainer modifyNonplayerObject
  split <;> rfl

/-- Opening and closing moves no items. -/
theorem releaseInteractingContainer_items
    : (room.releaseInteractingContainer sessionId).inventoryOf = room.inventoryOf
      ∧ (room.releaseInteractingContainer sessionId).contents = room.contents := by
  have closed : (room.modifySession sessionId
        ({ · with interactingContainerId := none })).inventoryOf = room.inventoryOf :=
    room.inventoryOf_modifySession_of_same sessionId fun _ => rfl
  unfold releaseInteractingContainer
  split
  · exact ⟨rfl, rfl⟩
  · dsimp only
    split
    · exact ⟨closed, rfl⟩
    · split
      · exact ⟨closed, rfl⟩
      · split
        · exact ⟨closed, rfl⟩
        · refine ⟨(inventoryOf_modifyContainer _ _ _).trans closed, ?_⟩
          exact contents_modifyContainer_of_same _ _ fun _ => ⟨rfl, rfl⟩

theorem openContainer_items (containerId playerObjectId : Nat) (box : Container)
    : (room.openContainer sessionId containerId playerObjectId box).inventoryOf
        = room.inventoryOf
      ∧ (room.openContainer sessionId containerId playerObjectId box).contents
        = room.contents := by
  unfold openContainer
  extract_lets evicted
  have cleared : evicted.inventoryOf = room.inventoryOf ∧ evicted.contents = room.contents := by
    unfold evicted
    split
    · exact ⟨rfl, rfl⟩
    · exact ⟨room.inventoryOf_modifySession_of_same _ fun _ => rfl, rfl⟩
  have released := evicted.releaseInteractingContainer_items sessionId
  constructor
  · refine (inventoryOf_modifySession_of_same _ sessionId ?_).trans ?_
    · exact fun _ => rfl
    · rw [inventoryOf_modifyContainer, released.1, cleared.1]
  · refine Eq.trans ?_ (released.2.trans cleared.2)
    exact contents_modifyContainer_of_same _ _ fun _ => ⟨rfl, rfl⟩

end GameRoom

namespace RoomHost

variable {env : Environment} {spawner : GameRoom → PlayerSession → Bool}
  {before after : RoomHost}

/-- Effects move no items. -/
theorem Effect.items (step : Effect env spawner before after) (layout : before.room.Layout)
    : after.room.inventoryOf = before.room.inventoryOf
      ∧ after.room.contents = before.room.contents := by
  cases step.change with
  | quiet room => exact room ▸ ⟨rfl, rfl⟩
  | scene room =>
      constructor
      · unfold GameRoom.inventoryOf
        rw [room.sessions]
      · funext containerId
        unfold GameRoom.contents
        rw [room.containers layout]
  | touch sessionId f keeps room =>
      rw [room]
      exact ⟨before.room.inventoryOf_modifySession_of_same sessionId fun session =>
        (keeps session).inventory, rfl⟩
  | notice sessionId seq pending room =>
      rw [room]
      exact ⟨before.room.inventoryOf_modifySession_of_same sessionId fun _ => rfl, rfl⟩
  | spawn sessionId session found active meets step =>
      constructor
      · refine Eq.trans ?_ (before.room.inventoryOf_modifySession_of_same sessionId
          (f := ({ · with objectId := some before.room.nxtObjectId })) fun _ => rfl)
        unfold GameRoom.inventoryOf
        rw [step.sessions]
        rfl
      · unfold GameRoom.contents GameRoom.findContainer GameRoom.findNonplayerObject
        rw [step.staticObjects, step.dynamicObjects]
  | openContainer sessionId containerId playerObjectId session box found located current room =>
      rw [room]
      exact before.room.openContainer_items sessionId containerId playerObjectId box
  | closeContainer sessionId room =>
      rw [room]
      exact before.room.releaseInteractingContainer_items sessionId

theorem Effects.items (effects : Effects env spawner before after)
    (layout : before.room.Layout)
    : (after.room.inventoryOf = before.room.inventoryOf
        ∧ after.room.contents = before.room.contents)
      ∧ after.room.Layout := by
  induction effects with
  | refl => exact ⟨⟨rfl, rfl⟩, layout⟩
  | tail _ effect ih =>
      obtain ⟨same, layout⟩ := ih
      obtain ⟨inventories, contents⟩ := effect.items layout
      exact ⟨⟨inventories.trans same.1, contents.trans same.2⟩, effect.layout layout⟩

/-- Every turn leaves the containers that are there as they are. -/
theorem Turn.contents (turn : Turn env spawner before after) (layout : before.room.Layout)
    {containerId : Nat} {content : List Slot × BitVec 32}
    (stored : before.room.contents containerId = some content)
    : after.room.contents containerId = some content := by
  cases turn with
  | effect step =>
      rw [(step.items layout).2]
      exact stored
  | quiet room => exact room ▸ stored
  | mark sessionId reason now notifyRSeq room => exact room ▸ stored
  | loot box closed room =>
      have fresh : before.room.nxtObjectId ∉ before.room.dynamicObjects :=
        fun taken => Nat.lt_irrefl _ (layout.dynamicIds _ taken)
      rw [room]
      obtain ⟨old, located, rfl⟩ := Option.map_eq_some_iff.mp stored
      refine Option.map_eq_some_iff.mpr ⟨old, ?_, rfl⟩
      unfold GameRoom.findContainer GameRoom.findNonplayerObject at located ⊢
      dsimp only at located ⊢
      cases static : before.room.staticObjects.lookup containerId with
      | some object =>
          rw [static] at located
          exact located
      | none =>
          rw [static] at located
          dsimp only at located ⊢
          rw [Table.lookup_tryEmplace_ne, located]
          rintro rfl
          rw [AList.lookup_eq_none.mpr fresh] at located
          cases located
  | clear sessionId room => exact room ▸ stored
  | erase objectId room => exact room ▸ stored
  | detach sessionId closed room => exact room ▸ stored
  | finalize sessionId room => exact room ▸ stored

theorem Turns.contents (turns : Turns env spawner before after) (layout : before.room.Layout)
    {containerId : Nat} {content : List Slot × BitVec 32}
    (stored : before.room.contents containerId = some content)
    : after.room.contents containerId = some content ∧ after.room.Layout := by
  refine turns.preserves
    (P := fun host => host.room.contents containerId = some content ∧ host.room.Layout) ?_
    ⟨stored, layout⟩
  exact fun _ _ both turn => ⟨turn.contents both.2 both.1, turn.layout both.2⟩

-----------------------------------------------------------------------------------------
-- Requests that move items
-----------------------------------------------------------------------------------------

section Requests

variable {room : GameRoom} {session : PlayerSession} {opened : Option (Nat × Container)}
  {store moved : SlotStore} {startRef endRef : SlotRef}

/-- A container request changes the inventory only if it names it, and then with a new
version.
-/
theorem InteractPlan.inventory {pkt : C2DRequestInteractContainerObject}
    (plan : InteractPlan env room session pkt opened store startRef endRef moved)
    : store.inventory = session.inventory
      ∨ store.inventory.inventoryVersion = session.inventory.inventoryVersion + 1
        ∧ ((pkt.startObjectId = PLAYER_OBJECT_ID_SENTINEL
            ∧ pkt.startObjectInventoryVersion = session.inventory.inventoryVersion)
          ∨ (pkt.endObjectId = PLAYER_OBJECT_ID_SENTINEL
            ∧ pkt.endObjectInventoryVersion = session.inventory.inventoryVersion)) := by
  have version : moved.inventory.inventoryVersion = session.inventory.inventoryVersion :=
    SlotStore.interact_inventoryVersion plan.moves
  have touched (player : pkt.startObjectId = PLAYER_OBJECT_ID_SENTINEL
        ∨ pkt.endObjectId = PLAYER_OBJECT_ID_SENTINEL)
      : store.inventory.inventoryVersion = session.inventory.inventoryVersion + 1 := by
    rw [plan.result, if_pos player, SlotStore.touchInventory_inventoryVersion, version]
  rcases resolveSlot_ok plan.startSlot with ⟨player, current, _⟩ | ⟨startBox, first⟩
  · exact .inr ⟨touched (.inl player), .inl ⟨player, current⟩⟩
  rcases resolveSlot_ok plan.endSlot with ⟨player, current, _⟩ | ⟨endBox, second⟩
  · exact .inr ⟨touched (.inr player), .inr ⟨player, current⟩⟩
  obtain ⟨_, _, _, _, _, rfl⟩ := first
  obtain ⟨_, _, _, _, _, rfl⟩ := second
  refine .inl ?_
  rw [plan.result, if_neg (not_or.mpr ⟨startBox, endBox⟩)]
  exact SlotStore.interact_inventory plan.moves

/-- The container of a container request is named with its current version. -/
theorem InteractPlan.container {pkt : C2DRequestInteractContainerObject}
    (plan : InteractPlan env room session pkt opened store startRef endRef moved)
    {containerId : Nat} {box : Container} (reached : opened = some (containerId, box))
    : room.findContainer containerId = some box
      ∧ ((pkt.startObjectId = containerId
          ∧ pkt.startObjectInventoryVersion = box.containerVersion)
        ∨ (pkt.endObjectId = containerId
          ∧ pkt.endObjectInventoryVersion = box.containerVersion)) := by
  refine ⟨(resolveContainer_ok (plan.resolved _ reached)).2, ?_⟩
  rcases plan.needed (by rw [reached]; rfl) with startBox | endBox
  · rcases resolveSlot_ok plan.startSlot with ⟨player, _⟩ | ⟨_, other, same, current, _⟩
    · exact absurd player startBox
    · cases reached.symm.trans same
      exact .inl ⟨rfl, current⟩
  · rcases resolveSlot_ok plan.endSlot with ⟨player, _⟩ | ⟨_, other, same, current, _⟩
    · exact absurd player endBox
    · cases reached.symm.trans same
      exact .inr ⟨rfl, current⟩

variable {unloadedSlotIdx : Option SlotIndex} {ref : SlotRef}

/-- An equipment request changes the inventory and names its version. -/
theorem EquipPlan.inventory {pkt : C2DRequestEquipItem}
    (plan : EquipPlan env room session pkt opened store unloadedSlotIdx ref)
    : store.inventory.inventoryVersion = session.inventory.inventoryVersion + 1
      ∧ ((pkt.objectId = PLAYER_OBJECT_ID_SENTINEL
          ∧ pkt.objectInventoryVersion = session.inventory.inventoryVersion)
        ∨ (pkt.objectId ≠ PLAYER_OBJECT_ID_SENTINEL
          ∧ pkt.myInventoryVersion = session.inventory.inventoryVersion)) := by
  refine ⟨equipMove_inventoryVersion plan.moves, ?_⟩
  rcases resolveSlot_ok plan.slot with ⟨player, current, _⟩ | ⟨other, _⟩
  · exact .inl ⟨player, current⟩
  · exact .inr ⟨other, plan.version other⟩

theorem EquipPlan.container {pkt : C2DRequestEquipItem}
    (plan : EquipPlan env room session pkt opened store unloadedSlotIdx ref)
    {containerId : Nat} {box : Container} (reached : opened = some (containerId, box))
    : room.findContainer containerId = some box ∧ pkt.objectId = containerId
      ∧ pkt.objectInventoryVersion = box.containerVersion := by
  refine ⟨(resolveContainer_ok (plan.resolved _ reached)).2, ?_⟩
  rcases resolveSlot_ok plan.slot with ⟨player, _⟩ | ⟨_, other, same, current, _⟩
  · exact absurd player (plan.needed (by rw [reached]; rfl))
  · cases reached.symm.trans same
    exact ⟨rfl, current⟩

theorem commitStore_inventoryOf (host : RoomHost) (sessionId otherId : Nat)
    (opened : Option (Nat × Container)) (store : SlotStore)
    : (host.commitStore sessionId opened store).room.inventoryOf otherId
      = if otherId = sessionId then
          (host.room.playerSessions.lookup otherId).map fun _ => store.inventory
        else host.room.inventoryOf otherId := by
  have stored := host.room.inventoryOf_modifySession sessionId
    ({ · with inventory := store.inventory }) otherId
  unfold commitStore
  dsimp only
  split
  · exact stored
  · exact (congrFun (GameRoom.inventoryOf_modifyContainer _ _ _) otherId).trans stored

theorem commitStore_contents (host : RoomHost) (sessionId containerId : Nat)
    (opened : Option (Nat × Container)) (store : SlotStore)
    : (host.commitStore sessionId opened store).room.contents containerId
      = if opened.map Prod.fst = some containerId then
          (host.room.findContainer containerId).map fun box =>
            (store.container, box.containerVersion + 1)
        else host.room.contents containerId := by
  unfold commitStore
  dsimp only
  split
  · rfl
  · next openedId _ =>
      refine (GameRoom.contents_modifyContainer _ openedId _ containerId).trans ?_
      by_cases same : containerId = openedId
      · subst same
        simp only [if_true, Option.map_some]
        rfl
      · rw [if_neg same, if_neg]
        · rfl
        · rintro ⟨⟩
          exact same rfl

end Requests

/-- What a change of items makes of every inventory. -/
theorem Deal.advances (deal : Deal env before after) {sessionId : Nat}
    {inventory : PlayerInventory} (stored : before.room.inventoryOf sessionId = some inventory)
    : ∃ later, after.room.inventoryOf sessionId = some later ∧ inventory.Advances later := by
  have committed {actorId : Nat} {session : PlayerSession} {opened : Option (Nat × Container)}
      {store : SlotStore}
      (found : before.room.playerSessions.lookup actorId = some session)
      (advances : session.inventory.Advances store.inventory)
      (room : after.room = (before.commitStore actorId opened store).room)
      : ∃ later, after.room.inventoryOf sessionId = some later
        ∧ inventory.Advances later := by
    rw [room, commitStore_inventoryOf]
    split
    · next same =>
        subst same
        rw [GameRoom.inventoryOf, found] at stored
        cases stored
        rw [found]
        exact ⟨store.inventory, rfl, advances⟩
    · exact ⟨inventory, stored, .refl inventory⟩
  have written {actorId : Nat} {session : PlayerSession} {f : PlayerSession → PlayerSession}
      (found : before.room.playerSessions.lookup actorId = some session)
      (advances : session.inventory.Advances (f session).inventory)
      (room : after.room = before.room.modifySession actorId f)
      : ∃ later, after.room.inventoryOf sessionId = some later
        ∧ inventory.Advances later := by
    rw [room, GameRoom.inventoryOf_modifySession]
    split
    · next same =>
        subst same
        rw [GameRoom.inventoryOf, found] at stored
        cases stored
        rw [found]
        exact ⟨(f session).inventory, rfl, advances⟩
    · exact ⟨inventory, stored, .refl inventory⟩
  cases deal with
  | interact actorId session pkt opened store found plan room =>
      obtain ⟨_, _, _, plan⟩ := planInteract_ok plan
      refine committed found ?_ room
      rcases plan.inventory with same | ⟨bumped, _⟩
      · rw [same]
        exact .refl _
      · exact .inr bumped
  | equip actorId session pkt opened store unloadedSlotIdx found plan room =>
      obtain ⟨_, plan⟩ := planEquip_ok plan
      exact committed found (.inr plan.inventory.1) room
  | reload actorId session isUsingPrimary version found room =>
      refine written found ?_ room
      rcases session.inventory.reload_cases isUsingPrimary version with same | ⟨bumped, _⟩
      · dsimp only
        rw [same]
        exact .refl _
      · exact .inr bumped
  | shot actorId session isUsingPrimary found loaded positive room =>
      refine written found (.inl ⟨?_, PlayerInventory.rests_shot loaded positive⟩) room
      simp

/-- What a change of items makes of every container. -/
theorem Deal.contents (deal : Deal env before after) {containerId : Nat}
    {content : List Slot × BitVec 32}
    (stored : before.room.contents containerId = some content)
    : ∃ later, after.room.contents containerId = some later
      ∧ (later = content ∨ later.2 = content.2 + 1) := by
  have committed {actorId : Nat} {opened : Option (Nat × Container)} {store : SlotStore}
      (room : after.room = (before.commitStore actorId opened store).room)
      : ∃ later, after.room.contents containerId = some later
        ∧ (later = content ∨ later.2 = content.2 + 1) := by
    rw [room, commitStore_contents]
    split
    · obtain ⟨box, located, rfl⟩ := Option.map_eq_some_iff.mp stored
      rw [located]
      exact ⟨_, rfl, .inr rfl⟩
    · exact ⟨content, stored, .inl rfl⟩
  cases deal with
  | interact actorId session pkt opened store found plan room => exact committed room
  | equip actorId session pkt opened store unloadedSlotIdx found plan room =>
      exact committed room
  | reload actorId session isUsingPrimary version found room =>
      exact ⟨content, room ▸ stored, .inl rfl⟩
  | shot actorId session isUsingPrimary found loaded positive room =>
      exact ⟨content, room ▸ stored, .inl rfl⟩

-----------------------------------------------------------------------------------------
-- The leave pipeline
-----------------------------------------------------------------------------------------

section Leaving

variable (host : RoomHost) (sessionId : Nat)

theorem inventoryOf_of_sessions (sessions : after.room.playerSessions = before.room.playerSessions)
    : after.room.inventoryOf = before.room.inventoryOf := by
  unfold GameRoom.inventoryOf
  rw [sessions]

theorem markLeaving_inventoryOf (reason : LeaveReason) (notifyRSeq : BitVec 32)
    : (host.markLeaving env sessionId reason notifyRSeq).room.inventoryOf
      = host.room.inventoryOf :=
  host.room.inventoryOf_modifySession_of_same sessionId fun session =>
    session.markLeaving_inventory reason _ notifyRSeq

/-- Marking moves no items. -/
theorem markLeaves_inventoryOf (now : TimePoint)
    : (host.markLeaves env now).room.inventoryOf = host.room.inventoryOf := by
  have killed (host : RoomHost) : (host.allKill env).room.inventoryOf = host.room.inventoryOf :=
    Table.foldl_view_eq (fun host : RoomHost => host.room.inventoryOf)
      (fun state sessionId _ => state.markLeaving_inventoryOf sessionId .dead 0) host
  have dead (host : RoomHost) : (host.markDead env).room.inventoryOf = host.room.inventoryOf := by
    refine Table.foldl_view_eq (fun host : RoomHost => host.room.inventoryOf) ?_ host
    intro state deadObjectId _
    split
    · rfl
    · exact state.markLeaving_inventoryOf _ .dead 0
  have disconnected (host : RoomHost)
      : (host.detectDisconnectedSessions env).room.inventoryOf = host.room.inventoryOf := by
    refine Table.foldl_view_eq (fun host : RoomHost => host.room.inventoryOf) ?_ (host.now env).1
    intro state sessionId _
    split
    · rfl
    · dsimp only
      repeat' split
      all_goals first
        | rfl
        | exact state.markLeaving_inventoryOf sessionId .disconnected 0
  unfold markLeaves
  rw [room_eq_of_outcome (clearPendingOfLeaving_outcome _), disconnected, dead]
  split
  · rw [killed]
    rfl
  · rfl

theorem notifyLeftOnce_inventoryOf
    : (host.notifyLeftOnce sessionId).room.inventoryOf = host.room.inventoryOf := by
  unfold notifyLeftOnce
  split
  · rfl
  · split
    · rfl
    · exact host.room.inventoryOf_modifySession_of_same sessionId fun _ => rfl

/-- A detach may clear the inventory of the session that leaves, and touches no other. -/
theorem detachObject_inventoryOf (objectId : Nat) (object : PlayerObject)
    (inventory : PlayerInventory) (reason : LeaveReason) (otherId : Nat)
    : (host.detachObject env sessionId objectId object inventory reason).room.inventoryOf otherId
        = host.room.inventoryOf otherId
      ∨ otherId = sessionId
        ∧ (host.detachObject env sessionId objectId object inventory
            reason).room.inventoryOf otherId
          = (host.room.inventoryOf otherId).map PlayerInventory.clear := by
  unfold detachObject
  extract_lets spawned killerObjectId looted cleared erased
  have afterLoot : looted.room.inventoryOf = host.room.inventoryOf := by
    apply inventoryOf_of_sessions
    unfold looted
    split
    · rw [broadcast_room]
      unfold spawned spawnPlayerLootContainer spawnDynamicObject
      dsimp only
      split
      · rfl
      · rw [broadcast_room]
        rfl
    · rfl
  rw [broadcastExcept_room]
  have same : erased.room.inventoryOf otherId = cleared.room.inventoryOf otherId := rfl
  rw [same, ← afterLoot]
  unfold cleared
  split
  · have emptied := looted.room.inventoryOf_modifySession sessionId
      (fun session => { session with inventory := session.inventory.clear }) otherId
    by_cases own : otherId = sessionId
    · refine .inr ⟨own, emptied.trans ?_⟩
      rw [if_pos own, GameRoom.inventoryOf, Option.map_map]
      rfl
    · exact .inl (emptied.trans (if_neg own))
  · exact .inl rfl

theorem detachPlayer_inventoryOf (otherId : Nat)
    : (host.detachPlayer env sessionId).room.inventoryOf otherId
        = host.room.inventoryOf otherId
      ∨ otherId = sessionId
        ∧ (host.detachPlayer env sessionId).room.inventoryOf otherId
          = (host.room.inventoryOf otherId).map PlayerInventory.clear := by
  unfold detachPlayer
  split
  · exact .inl rfl
  · next session _ =>
      extract_lets objectId reason stopped released freed withdrawn detached
      rw [notifyLeftOnce_inventoryOf]
      have afterFree : freed.room.inventoryOf = host.room.inventoryOf := by
        have halted : stopped.room.inventoryOf = host.room.inventoryOf :=
          host.room.inventoryOf_modifySession_of_same sessionId fun _ => rfl
        rw [← halted, ← (stopped.room.releaseInteractingContainer_items sessionId).1]
        exact inventoryOf_of_sessions
          (congrArg Prod.fst (releaseNpcAuthority_players env released objectId))
      have last : detached.room.inventoryOf = withdrawn.room.inventoryOf :=
        withdrawn.room.inventoryOf_modifySession_of_same sessionId fun _ => rfl
      rw [last, ← afterFree]
      unfold withdrawn objectId
      split
      · exact .inl rfl
      · split
        · exact .inl rfl
        · exact freed.detachObject_inventoryOf sessionId _ _ _ _ otherId

theorem advanceLeave_inventoryOf (now : TimePoint) (otherId : Nat)
    : (host.advanceLeave env now sessionId).room.inventoryOf otherId
        = host.room.inventoryOf otherId
      ∨ otherId = sessionId
        ∧ (host.advanceLeave env now sessionId).room.inventoryOf otherId
          = (host.room.inventoryOf otherId).map PlayerInventory.clear := by
  unfold advanceLeave
  extract_lets detached
  have first : detached.room.inventoryOf otherId = host.room.inventoryOf otherId
      ∨ otherId = sessionId
        ∧ detached.room.inventoryOf otherId
          = (host.room.inventoryOf otherId).map PlayerInventory.clear := by
    unfold detached
    split
    · exact .inl rfl
    · split
      · exact host.detachPlayer_inventoryOf sessionId otherId
      · exact .inl rfl
  split
  · exact first
  · split
    · unfold finalizeLeave
      rw [notifyLeftOnce_inventoryOf]
      have kept : ((detached.modifyChannel sessionId
            (·.clearPendingReliableExcept 0)).modifyRoom fun room =>
              room.modifySession sessionId
                ({ · with leaveState := .finalized, sessionState := .left })).room.inventoryOf
          = detached.room.inventoryOf :=
        detached.room.inventoryOf_modifySession_of_same sessionId fun _ => rfl
      rw [kept]
      exact first
    · exact first

/-- The leave pipeline changes an inventory once at most: it clears it. -/
theorem processLeaves_inventoryOf
    : (host.processLeaves env).room.inventoryOf sessionId = host.room.inventoryOf sessionId
      ∨ (host.processLeaves env).room.inventoryOf sessionId
        = (host.room.inventoryOf sessionId).map PlayerInventory.clear := by
  unfold processLeaves
  dsimp only
  generalize marks : markLeaves env _ (host.now env).1 = marked
  have kept : marked.room.inventoryOf = host.room.inventoryOf := by
    rw [← marks, markLeaves_inventoryOf]
    rfl
  have last (host : RoomHost) : host.checkAllLeft.room.inventoryOf = host.room.inventoryOf := by
    unfold checkAllLeft
    split
    · rfl
    · split <;> rfl
  rw [last, ← kept]
  have frame (state : RoomHost) (key otherId : Nat) (ne : otherId ≠ key)
      : (advanceLeave env (host.now env).2 state key).room.inventoryOf otherId
        = state.room.inventoryOf otherId :=
    (state.advanceLeave_inventoryOf key _ otherId).resolve_right fun own => ne own.1
  by_cases mem : sessionId ∈ marked.room.playerSessions.keys
  · obtain ⟨turn, same, final⟩ := Table.foldl_own_turn
      (fun sessionId (host : RoomHost) => host.room.inventoryOf sessionId) frame
      marked.room.playerSessions.keys_nodup mem marked
    rw [final, ← same]
    rcases turn.advanceLeave_inventoryOf sessionId (host.now env).2 sessionId
      with kept | ⟨_, cleared⟩
    · exact .inl kept
    · exact .inr cleared
  · refine .inl (Table.foldl_view_eq
      (fun host : RoomHost => host.room.inventoryOf sessionId) ?_ marked)
    intro state key present
    exact frame state key sessionId fun own => mem (own ▸ present)

end Leaving

-----------------------------------------------------------------------------------------
-- Every action
-----------------------------------------------------------------------------------------

theorem Served.advances (served : Served env spawner before after)
    (layout : before.room.Layout)
    : (∀ sessionId inventory, before.room.inventoryOf sessionId = some inventory →
        ∃ later, after.room.inventoryOf sessionId = some later ∧ inventory.Advances later)
      ∧ ∀ containerId content, before.room.contents containerId = some content →
        ∃ later, after.room.contents containerId = some later
          ∧ (later = content ∨ later.2 = content.2 + 1) := by
  rcases served with effects | ⟨first, middle, early, deal, _, late⟩
  · obtain ⟨⟨inventories, contents⟩, _⟩ := effects.items layout
    rw [inventories, contents]
    exact ⟨fun _ inventory stored => ⟨inventory, stored, .refl inventory⟩,
      fun _ content stored => ⟨content, stored, .inl rfl⟩⟩
  · obtain ⟨⟨earlyInventories, earlyContents⟩, layout⟩ := early.items layout
    obtain ⟨⟨lateInventories, lateContents⟩, _⟩ := late.items (deal.layout layout)
    rw [lateInventories, lateContents, ← earlyInventories, ← earlyContents]
    exact ⟨fun _ _ stored => deal.advances stored, fun _ _ stored => deal.contents stored⟩

/-- One action is at most one change of every inventory and of every container. -/
theorem next_advances {action : Action} (step : before.next env action = some after)
    (layout : before.room.Layout)
    : (∀ sessionId inventory, before.room.inventoryOf sessionId = some inventory →
        ∃ later, after.room.inventoryOf sessionId = some later ∧ inventory.Advances later)
      ∧ ∀ containerId content, before.room.contents containerId = some content →
        ∃ later, after.room.contents containerId = some later
          ∧ (later = content ∨ later.2 = content.2 + 1) := by
  by_cases leaves : action = .processLeaves
  · subst leaves
    cases step
    constructor
    · intro sessionId inventory stored
      rcases @processLeaves_inventoryOf env before sessionId with same | cleared
      · exact ⟨inventory, same.trans stored, .refl inventory⟩
      · rw [stored] at cleared
        exact ⟨inventory.clear, cleared, .inr inventory.clear_inventoryVersion⟩
    · intro containerId content stored
      have turns : Turns env (fun _ _ => true) before _ := before.processLeaves_turns
      exact ⟨content, (turns.contents layout stored).1, .inl rfl⟩
  · rcases next_served step (spawnMeets_any _ _) leaves with served | completed
    · have heard := before.hear_room env action
      have advances := served.advances (heard.symm ▸ layout)
      rw [heard] at advances
      exact advances
    · obtain ⟨sessionId, _, ready, _, _, effects, _, _, rfl⟩ := completed
      obtain ⟨⟨inventories, contents⟩, _⟩ := effects.items layout
      rw [markLeaving_inventoryOf, inventories]
      have same : (ready.markLeaving env sessionId .recalled
          (ready.lastSentRSeq sessionId)).room.contents = ready.room.contents := rfl
      rw [same, contents]
      exact ⟨fun _ inventory stored => ⟨inventory, stored, .refl inventory⟩,
        fun _ content stored => ⟨content, stored, .inl rfl⟩⟩

def containerVersionOf (containerId : Nat) (host : RoomHost) : BitVec 32 :=
  ((host.room.contents containerId).map Prod.snd).getD 0

def inventoryVersionOf (sessionId : Nat) (host : RoomHost) : BitVec 32 :=
  ((host.room.inventoryOf sessionId).map (·.inventoryVersion)).getD 0

end RoomHost

/-- The inventories and containers that a request names, each with the version that the
requester has seen.
-/
def C2DPacket.namedVersions : C2DPacket → List (Nat × BitVec 32)
  | .requestInteractContainerObject pkt =>
      [(pkt.startObjectId, pkt.startObjectInventoryVersion),
        (pkt.endObjectId, pkt.endObjectInventoryVersion)]
  | .requestEquipItem pkt =>
      if pkt.objectId = PLAYER_OBJECT_ID_SENTINEL then
        [(PLAYER_OBJECT_ID_SENTINEL, pkt.objectInventoryVersion)]
      else
        [(pkt.objectId, pkt.objectInventoryVersion),
          (PLAYER_OBJECT_ID_SENTINEL, pkt.myInventoryVersion)]
  | .requestReload version => [(PLAYER_OBJECT_ID_SENTINEL, version)]
  | _ => []

/-- The requests that move items between slots. -/
def C2DPacket.movesItems : C2DPacket → Bool
  | .requestInteractContainerObject _ => true
  | .requestEquipItem _ => true
  | .requestReload _ => true
  | _ => false

namespace RoomHost

/-- What a packet of a session changes it has named, at the version it had. -/
structure ChangesNamed (pkt : C2DPacket) (sessionId : Nat) (before after : GameRoom)
    : Prop where
  inventories : ∀ otherId inventory later, before.inventoryOf otherId = some inventory →
    after.inventoryOf otherId = some later → later ≠ inventory →
    otherId = sessionId
      ∧ (PLAYER_OBJECT_ID_SENTINEL, inventory.inventoryVersion) ∈ pkt.namedVersions
  containers : ∀ containerId content later, before.contents containerId = some content →
    after.contents containerId = some later → later.1 ≠ content.1 →
    (containerId, content.2) ∈ pkt.namedVersions

variable {pkt : C2DPacket} {sessionId : Nat}

theorem ChangesNamed.of_same {before after : GameRoom}
    (inventories : after.inventoryOf = before.inventoryOf)
    (contents : after.contents = before.contents)
    : ChangesNamed pkt sessionId before after where
  inventories otherId inventory later stored present changed := by
    rw [inventories, stored] at present
    exact absurd (Option.some.inj present).symm changed
  containers containerId content later stored present changed := by
    rw [contents, stored] at present
    exact absurd (congrArg Prod.fst (Option.some.inj present)).symm changed

/-- What comes after a change of items moves none. -/
theorem ChangesNamed.quiet {before middle after : GameRoom}
    (h : ChangesNamed pkt sessionId before middle)
    (inventories : after.inventoryOf = middle.inventoryOf)
    (contents : after.contents = middle.contents)
    : ChangesNamed pkt sessionId before after where
  inventories otherId inventory later stored present :=
    h.inventories otherId inventory later stored (inventories ▸ present)
  containers containerId content later stored present :=
    h.containers containerId content later stored (contents ▸ present)

theorem commitStore_changesNamed (host : RoomHost) {session : PlayerSession}
    {opened : Option (Nat × Container)} {store : SlotStore}
    (found : host.room.playerSessions.lookup sessionId = some session)
    (inventory : store.inventory = session.inventory
      ∨ (PLAYER_OBJECT_ID_SENTINEL, session.inventory.inventoryVersion) ∈ pkt.namedVersions)
    (container : ∀ containerId box, opened = some (containerId, box) →
      host.room.findContainer containerId = some box
        ∧ (containerId, box.containerVersion) ∈ pkt.namedVersions)
    : ChangesNamed pkt sessionId host.room (host.commitStore sessionId opened store).room where
  inventories otherId old later stored present changed := by
    rw [commitStore_inventoryOf] at present
    split at present
    · next same =>
        subst same
        rw [GameRoom.inventoryOf, found] at stored
        rw [found] at present
        cases stored
        cases present
        exact ⟨rfl, inventory.resolve_left changed⟩
    · rw [stored] at present
      exact absurd (Option.some.inj present).symm changed
  containers containerId content later stored present changed := by
    rw [commitStore_contents] at present
    split at present
    · next same =>
        obtain ⟨⟨_, box⟩, reached, rfl⟩ := Option.map_eq_some_iff.mp same
        obtain ⟨located, named⟩ := container _ box reached
        rw [GameRoom.contents, located] at stored
        cases stored
        exact named
    · rw [stored] at present
      exact absurd (congrArg Prod.fst (Option.some.inj present)).symm changed

theorem handleC2DRequestInteractContainerObject_changesNamed (host : RoomHost)
    {session : PlayerSession}
    (found : host.room.playerSessions.lookup sessionId = some session)
    (pkt : C2DRequestInteractContainerObject)
    : ChangesNamed (.requestInteractContainerObject pkt) sessionId host.room
        (host.handleC2DRequestInteractContainerObject env sessionId session pkt).1.room := by
  unfold handleC2DRequestInteractContainerObject
  split
  · exact .of_same rfl rfl
  · split
    · dsimp only
      exact send_room env host sessionId _ ▸ .of_same rfl rfl
    · next opened store plan =>
        obtain ⟨_, _, _, plan⟩ := planInteract_ok plan
        dsimp only
        rw [send_room]
        refine commitStore_changesNamed host found ?_ ?_
        · refine plan.inventory.imp_right fun changed => ?_
          rcases changed.2 with ⟨player, current⟩ | ⟨player, current⟩
          · exact List.mem_cons.mpr (.inl (Prod.ext player.symm current.symm))
          · exact List.mem_cons_of_mem _
              (List.mem_singleton.mpr (Prod.ext player.symm current.symm))
        · intro containerId box reached
          obtain ⟨located, named⟩ := plan.container reached
          refine ⟨located, ?_⟩
          rcases named with ⟨same, current⟩ | ⟨same, current⟩
          · exact List.mem_cons.mpr (.inl (Prod.ext same.symm current.symm))
          · exact List.mem_cons_of_mem _
              (List.mem_singleton.mpr (Prod.ext same.symm current.symm))

theorem handleC2DRequestEquipItem_changesNamed (host : RoomHost)
    (layout : host.room.Layout) {session : PlayerSession}
    (found : host.room.playerSessions.lookup sessionId = some session)
    (pkt : C2DRequestEquipItem)
    : ChangesNamed (.requestEquipItem pkt) sessionId host.room
        (host.handleC2DRequestEquipItem env sessionId session pkt).1.room := by
  unfold handleC2DRequestEquipItem
  split
  · exact .of_same rfl rfl
  · split
    · dsimp only
      exact send_room env host sessionId _ ▸ .of_same rfl rfl
    · next opened store unloadedSlotIdx accepted =>
        obtain ⟨_, plan⟩ := planEquip_ok accepted
        have deal : Deal env host (host.commitStore sessionId opened store) :=
          .equip sessionId session pkt opened store unloadedSlotIdx found accepted rfl
        have refreshed := (refreshEquipment_effects env (fun _ _ => true)
          (host.commitStore sessionId opened store) sessionId session.objectId
          (pkt.equipmentSlotType == 2) store.inventory).items (deal.layout layout)
        dsimp only
        rw [send_room]
        refine .quiet ?_ refreshed.1.1 refreshed.1.2
        refine commitStore_changesNamed host found (.inr ?_) ?_
        · unfold C2DPacket.namedVersions
          dsimp only
          rcases plan.inventory.2 with ⟨player, current⟩ | ⟨other, current⟩
          · rw [if_pos player, current]
            exact List.mem_singleton.mpr rfl
          · rw [if_neg other, current]
            exact List.mem_cons_of_mem _ (List.mem_singleton.mpr rfl)
        · intro containerId box reached
          obtain ⟨located, same, current⟩ := plan.container reached
          have other := plan.needed (by rw [reached]; rfl)
          refine ⟨located, ?_⟩
          unfold C2DPacket.namedVersions
          dsimp only
          rw [if_neg other, same, current]
          exact List.mem_cons.mpr (.inl rfl)

theorem handleC2DRequestReload_changesNamed (host : RoomHost) {session : PlayerSession}
    (found : host.room.playerSessions.lookup sessionId = some session) (version : BitVec 32)
    : ChangesNamed (.requestReload version) sessionId host.room
        (host.handleC2DRequestReload env sessionId session version).1.room := by
  unfold handleC2DRequestReload broadcastReloadSequence
  split
  · exact .of_same rfl rfl
  · split
    · exact .of_same rfl rfl
    · split
      · exact .of_same rfl rfl
      · next object _ =>
          dsimp only
          have reloaded : ChangesNamed (.requestReload version) sessionId host.room
              (host.modifySession sessionId
                ({ · with
                    inventory :=
                      (reload session.inventory object.isUsingPrimary version).1 })).room := by
            refine ⟨?_, fun containerId content later stored present changed => ?_⟩
            · intro otherId inventory later stored present changed
              unfold modifySession modifyRoom at present
              dsimp only at present
              rw [GameRoom.inventoryOf_modifySession] at present
              split at present
              · next same =>
                  subst same
                  rw [GameRoom.inventoryOf, found] at stored
                  rw [found] at present
                  cases stored
                  cases present
                  rcases session.inventory.reload_cases object.isUsingPrimary version with
                    same | ⟨_, current⟩
                  · exact absurd same changed
                  · exact ⟨rfl, List.mem_singleton.mpr (Prod.ext rfl current.symm)⟩
              · rw [stored] at present
                exact absurd (Option.some.inj present).symm changed
            · exact absurd
                (congrArg Prod.fst (Option.some.inj (present.symm.trans stored))) changed
          refine reloaded.quiet ?_ ?_
          all_goals
            rw [send_room]
            split
            · rw [broadcastExcept_room]
            · rfl

/-- Whatever inventory or container an interact, equipment or reload request changes, it has
named at its current version.
-/
theorem handleClientPacket_changesNamed (host : RoomHost) (layout : host.room.Layout)
    (header : UDPHeader) (clientAddr : SockAddr) (moves : pkt.movesItems = true)
    : ChangesNamed pkt sessionId host.room
        (host.handleClientPacket env sessionId header clientAddr pkt).1.room := by
  unfold handleClientPacket
  split
  · exact .of_same rfl rfl
  · next session found =>
      dsimp only
      split
      · exact .of_same rfl rfl
      · cases pkt with
        | requestInteractContainerObject pkt =>
            exact handleC2DRequestInteractContainerObject_changesNamed
              (host.receive env sessionId header).1 found pkt
        | requestEquipItem pkt =>
            exact handleC2DRequestEquipItem_changesNamed
              (host.receive env sessionId header).1 layout found pkt
        | requestReload version =>
            exact handleC2DRequestReload_changesNamed
              (host.receive env sessionId header).1 found version
        | _ => cases moves

-----------------------------------------------------------------------------------------
-- Two moments of a run
-----------------------------------------------------------------------------------------

variable {host last : RoomHost} {actions : List Action}

/-- The slots of a container between two moments with the same version. -/
theorem contents_of_version_eq (run : (roomSystem env).Run host actions last)
    (sound : host.Sound) (containerId : Nat)
    (present : (host.room.contents containerId).isSome)
    (few : bumps (next env) (containerVersionOf containerId) host actions < 2 ^ 32)
    (same : last.containerVersionOf containerId = host.containerVersionOf containerId)
    : (last.room.contents containerId).map Prod.fst
      = (host.room.contents containerId).map Prod.fst := by
  let slotsOf (host : RoomHost) : Option (List Slot) :=
    (host.room.contents containerId).map Prod.fst
  let keeps (before after : RoomHost) : Prop := slotsOf after = slotsOf before
  let Inv (host : RoomHost) : Prop := host.Sound ∧ (host.room.contents containerId).isSome
  have steps (before : RoomHost) (action : Action) (after : RoomHost)
      (holds : Inv before) (step : before.next env action = some after)
      : Inv after ∧ VersionedStep (containerVersionOf containerId) keeps before after := by
    obtain ⟨sound, present⟩ := holds
    obtain ⟨content, stored⟩ := Option.isSome_iff_exists.mp present
    obtain ⟨later, kept, changed⟩ :=
      (next_advances step sound.layout).2 containerId content stored
    have next := (next_moves step (before.spawnMeets_any action)).sound sound
    refine ⟨⟨next, by rw [kept]; rfl⟩, ?_⟩
    have versions : before.containerVersionOf containerId = content.2
        ∧ after.containerVersionOf containerId = later.2 := by
      constructor
      · rw [containerVersionOf, stored]
        rfl
      · rw [containerVersionOf, kept]
        rfl
    rw [VersionedStep, versions.1, versions.2]
    rcases changed with rfl | bumped
    · refine .inl ⟨rfl, ?_⟩
      dsimp only [keeps, slotsOf]
      rw [kept, stored]
    · exact .inr bumped
  exact run.keeps_of_version_eq (containerVersionOf containerId) keeps Inv (by decide)
    (fun _ => rfl) (fun _ _ _ first second => Eq.trans second first) steps ⟨sound, present⟩
    few same

/-- An inventory between two moments with the same version. -/
theorem rests_of_version_eq (run : (roomSystem env).Run host actions last)
    (sound : host.Sound) {sessionId : Nat} {inventory later : PlayerInventory}
    (stored : host.room.inventoryOf sessionId = some inventory)
    (kept : last.room.inventoryOf sessionId = some later)
    (few : bumps (next env) (inventoryVersionOf sessionId) host actions < 2 ^ 32)
    (same : later.inventoryVersion = inventory.inventoryVersion)
    : inventory.Rests later := by
  let keeps (before after : RoomHost) : Prop :=
    ∀ inventory, before.room.inventoryOf sessionId = some inventory →
      ∃ later, after.room.inventoryOf sessionId = some later ∧ inventory.Rests later
  let Inv (host : RoomHost) : Prop :=
    host.Sound ∧ (host.room.inventoryOf sessionId).isSome
  have steps (before : RoomHost) (action : Action) (after : RoomHost)
      (holds : Inv before) (step : before.next env action = some after)
      : Inv after ∧ VersionedStep (inventoryVersionOf sessionId) keeps before after := by
    obtain ⟨sound, present⟩ := holds
    obtain ⟨inventory, stored⟩ := Option.isSome_iff_exists.mp present
    obtain ⟨later, kept, advances⟩ :=
      (next_advances step sound.layout).1 sessionId inventory stored
    have next := (next_moves step (before.spawnMeets_any action)).sound sound
    refine ⟨⟨next, by rw [kept]; rfl⟩, ?_⟩
    have versions : before.inventoryVersionOf sessionId = inventory.inventoryVersion
        ∧ after.inventoryVersionOf sessionId = later.inventoryVersion := by
      constructor
      · rw [inventoryVersionOf, stored]
        rfl
      · rw [inventoryVersionOf, kept]
        rfl
    rw [VersionedStep, versions.1, versions.2]
    refine advances.imp_left fun rested => ⟨rested.1, fun old present => ?_⟩
    cases stored.symm.trans present
    exact ⟨later, kept, rested.2⟩
  have kept' : keeps host last := by
    refine run.keeps_of_version_eq (inventoryVersionOf sessionId) keeps Inv (by decide)
      (fun state inventory stored => ⟨inventory, stored, .refl inventory⟩) ?_ steps
      ⟨sound, by rw [stored]; rfl⟩ few ?_
    · intro a b c first second inventory stored
      obtain ⟨middle, reached, early⟩ := first inventory stored
      obtain ⟨later, last, late⟩ := second middle reached
      exact ⟨later, last, early.trans late⟩
    · rw [inventoryVersionOf, inventoryVersionOf, stored, kept]
      exact same
  obtain ⟨reached, present, rests⟩ := kept' inventory stored
  cases kept.symm.trans present
  exact rests

/-- Equal versions of a container mean equal slots, and equal versions of an inventory an
inventory whose magazines at most have been drained, as long as the version has changed fewer
than `2 ^ 32` times in between. Requests name the current version of whatever they change.
-/
theorem versions_detect_changes (env : Environment) {host last : RoomHost}
    {actions : List Action} (reached : (roomSystem env).Reachable host)
    (run : (roomSystem env).Run host actions last)
    : (∀ containerId box later, host.room.findContainer containerId = some box →
        last.room.findContainer containerId = some later →
        bumps (next env) (containerVersionOf containerId) host actions < 2 ^ 32 →
        later.containerVersion = box.containerVersion →
        later.inventorySlots = box.inventorySlots)
      ∧ (∀ sessionId session later, host.room.playerSessions.lookup sessionId = some session →
        last.room.playerSessions.lookup sessionId = some later →
        bumps (next env) (inventoryVersionOf sessionId) host actions < 2 ^ 32 →
        later.inventory.inventoryVersion = session.inventory.inventoryVersion →
        session.inventory.Rests later.inventory)
      ∧ ∀ sessionId header clientAddr pkt, pkt.movesItems = true →
        ChangesNamed pkt sessionId host.room
          (host.handleClientPacket env sessionId header clientAddr pkt).1.room := by
  have sound := sound_of_reachable reached
  refine ⟨?_, ?_, ?_⟩
  · intro containerId box later located current few same
    have stored : host.room.contents containerId
        = some (box.inventorySlots, box.containerVersion) := by
      rw [GameRoom.contents, located]
      rfl
    have kept : last.room.contents containerId
        = some (later.inventorySlots, later.containerVersion) := by
      rw [GameRoom.contents, current]
      rfl
    have slots := contents_of_version_eq run sound containerId (by rw [stored]; rfl) few (by
      rw [containerVersionOf, containerVersionOf, stored, kept]
      exact same)
    rw [stored, kept] at slots
    exact Option.some.inj slots
  · intro sessionId session later found current few same
    have stored : host.room.inventoryOf sessionId = some session.inventory := by
      rw [GameRoom.inventoryOf, found]
      rfl
    have kept : last.room.inventoryOf sessionId = some later.inventory := by
      rw [GameRoom.inventoryOf, current]
      rfl
    exact rests_of_version_eq run sound stored kept few same
  · exact fun sessionId header clientAddr pkt moves =>
      handleClientPacket_changesNamed host sound.layout header clientAddr moves

/-- A room for a player with an AK-47, rounds for it and another weapon. -/
def marksmanRoom : RoomHost :=
  emptyMap (AList.singleton 1
    (newcomer 1
      [{ item := { blueprintId := 6 }, slotIndex := 0, quantity := 30 },
        { item := { blueprintId := 2 }, slotIndex := 4, quantity := 1 }]
      [{ item := { blueprintId := 1 }, slotIndex := 0, quantity := 1 }]))

theorem marksmanRoom_fresh : marksmanRoom.Fresh := by
  refine emptyMap_fresh fun session mem => ?_
  obtain rfl := List.mem_singleton.mp mem
  exact ⟨⟨_, _, rfl⟩, rfl, rfl, rfl, rfl, rfl, rfl, rfl⟩

/-- The player joins, spawns and moves the other weapon to another slot. -/
def tidyUp : List Action :=
  [request 1 1 (.channelOpen ""), request 1 2 .requestSpawnMe,
    request 1 3 (.requestInteractContainerObject
      { interactType := 0
        startObjectId := PLAYER_OBJECT_ID_SENTINEL
        startObjectInventoryVersion := 0
        startObjectSlotIdx := 4
        quantity := 1
        endObjectId := PLAYER_OBJECT_ID_SENTINEL
        endObjectInventoryVersion := 0
        endObjectSlotIdx := 7 })]

/-- Two shots at nobody. -/
def shootTwice : List Action :=
  [0, 1].map fun shot =>
    request 1 (shot + 4)
      (.requestWeaponFire { fireSequence := shot, weaponDbid := 1, hitObjectId := 9 })

def tidied : RoomHost := endOf openField (fun _ _ _ => true) marksmanRoom tidyUp
def emptied : RoomHost := endOf openField (fun _ _ _ => true) tidied shootTwice

/-- The move has the version of the inventory counted up, and the shots leave it: they take
two rounds out of the magazine and nothing else.
-/
theorem rests_after_shots
    : ∃ session later,
      tidied.room.playerSessions.lookup 1 = some session
      ∧ emptied.room.playerSessions.lookup 1 = some later
      ∧ session.inventory.inventoryVersion = 1
      ∧ (later.inventory.magazineSlot true).quantity = 28
      ∧ session.inventory.Rests later.inventory := by
  have tidies := System.Run.of_replay Fresh (next openField) (fun _ _ _ => true) tidyUp
    marksmanRoom marksmanRoom (by decide +kernel)
  have reached : (roomSystem openField).Reachable tidied :=
    tidies.of_restrict.reachable (.initial marksmanRoom_fresh)
  have shoots : (roomSystem openField).Run tidied shootTwice emptied :=
    (System.Run.of_replay Fresh (next openField) (fun _ _ _ => true) shootTwice tidied tidied
      (by decide +kernel)).of_restrict
  have before : (tidied.room.playerSessions.lookup 1).map (·.inventory.inventoryVersion)
      = some 1 := by decide +kernel
  have after : (emptied.room.playerSessions.lookup 1).map (fun session =>
      (session.inventory.inventoryVersion, (session.inventory.magazineSlot true).quantity))
      = some (1, 28) := by decide +kernel
  obtain ⟨session, found, version⟩ := Option.map_eq_some_iff.mp before
  obtain ⟨later, left, same⟩ := Option.map_eq_some_iff.mp after
  obtain ⟨same, rounds⟩ := Prod.mk.inj same
  exact ⟨session, later, found, left, version, rounds,
    (versions_detect_changes openField reached shoots).2.1 1 session later found left
      (by decide +kernel) (same.trans version.symm)⟩

end RoomHost

end ExtractionServer.Room
