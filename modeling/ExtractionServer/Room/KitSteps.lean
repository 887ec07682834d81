import ExtractionServer.Room.Kits

/-! What every action does to the kits of a room: a chain of the few steps that change who
carries what.
-/

namespace ExtractionServer.Room

open Transport

-----------------------------------------------------------------------------------------
-- Steps
-----------------------------------------------------------------------------------------

namespace InventoryCall

/-- Calls that leave the equipment alone. -/
def rearranges : InventoryCall → Bool
  | .reloadMagazine _ => true
  | .interact .. => true
  | .fire _ => true
  | _ => false

/-- Calls that change the equipment: the armor, or a weapon. -/
def equipment : InventoryCall → Option Bool
  | .equipArmorFromSlot _ => some true
  | .unequipArmorToSlot _ => some true
  | .equipWeaponFromSlot _ _ => some false
  | .unequipWeaponToSlot _ _ => some false
  | _ => none

end InventoryCall

namespace Kit

/-- Carry changed equipment over to the gear of an object, if there is one. -/
def refresh (kit : Kit) (objectId : Option Nat) (isArmor : Bool) (inventory : PlayerInventory)
    : Kit :=
  match objectId.bind fun objectId => (kit.gears objectId).map (objectId, ·) with
  | none => kit
  | some (objectId, gear) =>
      kit.setGear objectId (if isArmor then gear.armored inventory else gear.rearmed inventory)

/-- The ways in which kits change. Equipment is changed by calls that meet a condition, and shots
are counted for some sessions.
-/
inductive Step (allowed : Nat → SlotStore → InventoryCall → Prop) (counts : Nat → Prop)
    (kit : Kit)
    : Kit → Prop
  | spawn {sessionId objectId : Nat} {pack : Pack} (held : kit.packs sessionId = some pack)
      (fresh : ∀ other otherPack, kit.packs other = some otherPack →
        otherPack.objectId ≠ some objectId)
    : Step allowed counts kit
        ((kit.setGear objectId (.issued pack.inventory)).setPack sessionId
          { pack with objectId := some objectId })
  | rearrange {sessionId : Nat} {pack : Pack} {container : List Slot} {call : InventoryCall}
      {after : SlotStore} (held : kit.packs sessionId = some pack)
      (rearranges : call.rearranges = true)
      (performed : SlotStore.perform { inventory := pack.inventory, container } call
        = some after)
    : Step allowed counts kit (kit.setPack sessionId { pack with inventory := after.inventory })
  /-- A shot counts even if it is then refused. -/
  | count {sessionId : Nat} {pack : Pack} (held : kit.packs sessionId = some pack)
      (counted : counts sessionId) (fireSequence : BitVec 32)
    : Step allowed counts kit (kit.setPack sessionId { pack with fireSequence })
  | equip {sessionId : Nat} {pack : Pack} {container : List Slot} {call : InventoryCall}
      {isArmor : Bool} {after : SlotStore} (held : kit.packs sessionId = some pack)
      (equipment : call.equipment = some isArmor)
      (permitted : allowed sessionId { inventory := pack.inventory, container } call)
      (performed : SlotStore.perform { inventory := pack.inventory, container } call
        = some after)
    : Step allowed counts kit
        ((kit.setPack sessionId { pack with inventory := after.inventory }).refresh
          pack.objectId isArmor after.inventory)
  | switch {objectId : Nat} {gear : Gear} {toPrimary : Bool}
      (held : kit.gears objectId = some gear) (armed : gear.weaponId toPrimary ≠ 0)
    : Step allowed counts kit (kit.setGear objectId { gear with isUsingPrimary := toPrimary })
  | detach {after : Kit} {sessionId : Nat} {pack : Pack} {inventory : PlayerInventory}
      (held : kit.packs sessionId = some pack)
      (left : inventory = pack.inventory ∨ inventory = pack.inventory.clear)
      (packs : after.packs
        = (kit.setPack sessionId
          { pack with objectId := none, inventory, isDetached := true }).packs)
      (gears : ∀ objectId, after.gears objectId = kit.gears objectId
        ∨ after.gears objectId = none)
    : Step allowed counts kit after

abbrev Steps (allowed : Nat → SlotStore → InventoryCall → Prop) (counts : Nat → Prop)
    : Kit → Kit → Prop :=
  Relation.ReflTransGen (Step allowed counts)

/-- How the pack of one session changes in a step: by a call on its inventory, or by leaving.
-/
inductive Carries (allowed : Nat → SlotStore → InventoryCall → Prop) (sessionId : Nat)
    (before after : Pack) : Prop
  | kept (inventory : after.inventory = before.inventory)
      (isDetached : after.isDetached = before.isDetached)
  | called {container : List Slot} {call : InventoryCall} {store : SlotStore}
      (right : call.rearranges = true
        ∨ call.equipment.isSome = true
          ∧ allowed sessionId { inventory := before.inventory, container } call)
      (performed : SlotStore.perform { inventory := before.inventory, container } call
        = some store)
      (inventory : after.inventory = store.inventory)
      (isDetached : after.isDetached = before.isDetached)
  | left (isDetached : after.isDetached = true)
      (inventory : after.inventory = before.inventory
        ∨ after.inventory = before.inventory.clear)

theorem packs_refresh (kit : Kit) (objectId : Option Nat) (isArmor : Bool)
    (inventory : PlayerInventory)
    : (kit.refresh objectId isArmor inventory).packs = kit.packs := by
  unfold refresh
  split <;> rfl

/-- Every pack after a step was there before. -/
theorem Step.carries {allowed : Nat → SlotStore → InventoryCall → Prop} {counts : Nat → Prop}
    {kit after : Kit} (step : kit.Step allowed counts after) {sessionId : Nat} {pack : Pack}
    (held : after.packs sessionId = some pack)
    : ∃ before, kit.packs sessionId = some before ∧ Carries allowed sessionId before pack := by
  cases step with
  | spawn there _ =>
      rcases packs_setPack_cases _ held with ⟨rfl, rfl⟩ | ⟨-, same⟩
      · exact ⟨_, there, .kept rfl rfl⟩
      · exact ⟨_, same, .kept rfl rfl⟩
  | rearrange there rearranges performed =>
      rcases packs_setPack_cases _ held with ⟨rfl, rfl⟩ | ⟨-, same⟩
      · exact ⟨_, there, .called (.inl rearranges) performed rfl rfl⟩
      · exact ⟨_, same, .kept rfl rfl⟩
  | count there _ _ =>
      rcases packs_setPack_cases _ held with ⟨rfl, rfl⟩ | ⟨-, same⟩
      · exact ⟨_, there, .kept rfl rfl⟩
      · exact ⟨_, same, .kept rfl rfl⟩
  | equip there equipment permitted performed =>
      rw [packs_refresh] at held
      rcases packs_setPack_cases _ held with ⟨rfl, rfl⟩ | ⟨-, same⟩
      · exact ⟨_, there, .called (.inr ⟨by rw [equipment]; rfl, permitted⟩) performed rfl rfl⟩
      · exact ⟨_, same, .kept rfl rfl⟩
  | switch => exact ⟨pack, held, .kept rfl rfl⟩
  | detach there left packs _ =>
      rw [packs] at held
      rcases packs_setPack_cases _ held with ⟨rfl, rfl⟩ | ⟨-, same⟩
      · exact ⟨_, there, .left rfl left⟩
      · exact ⟨_, same, .kept rfl rfl⟩

theorem Steps.of_eq {allowed : Nat → SlotStore → InventoryCall → Prop} {counts : Nat → Prop}
    {before after : Kit} (same : after = before)
    : Steps allowed counts before after := same ▸ .refl

end Kit

namespace RoomHost

variable (env : Environment) (host : RoomHost)

@[simp] theorem sendAll_room (sessionId : Nat) (messages : List D2CMessage)
    : (host.sendAll env sessionId messages).room = host.room :=
  room_eq_of_outcome (host.sendAll_outcome env sessionId messages)

-----------------------------------------------------------------------------------------
-- Handlers that leave kits alone
-----------------------------------------------------------------------------------------

variable (sessionId : Nat) (session : PlayerSession)

theorem handleC2DChannelOpen_kit (clientAddr : SockAddr) (echo : String)
    : (host.handleC2DChannelOpen env sessionId session clientAddr echo).1.room.kit
      = host.room.kit := by
  unfold handleC2DChannelOpen
  dsimp only
  rw [send_room]
  split
  · exact GameRoom.kit_modifySession_same fun _ => rfl
  · rfl

theorem handleC2DUpdatePlayerState_kit (state : PlayerState)
    (npcStates : List GameObjectMovementInfo)
    : (host.handleC2DUpdatePlayerState session state npcStates).1.room.kit
      = host.room.kit := by
  unfold handleC2DUpdatePlayerState
  split
  · rfl
  · split
    · split
      · rfl
      · split
        · rfl
        · next objectId _ _ _ _ _ =>
          have moved : (host.room.modifyPlayerObject objectId (·.applyState state)).kit
              = host.room.kit :=
            GameRoom.kit_modifyPlayerObject_same fun object _ => object.gear_applyState state
          dsimp only [modifyRoom]
          refine Eq.trans ?_ moved
          apply Table.foldl_view_eq GameRoom.kit
          intro room npcState _
          split
          · rfl
          · split
            · rfl
            · exact GameRoom.kit_modifyHostileNpc _ _
    · rfl

theorem handleC2DNotifyLoadingComplete_kit
    : (host.handleC2DNotifyLoadingComplete sessionId session).1.room.kit = host.room.kit := by
  unfold handleC2DNotifyLoadingComplete
  split
  · rfl
  · exact GameRoom.kit_modifySession_same fun _ => rfl

theorem handleC2DRequestOpenContainer_kit (containerId : Nat)
    : (host.handleC2DRequestOpenContainer env sessionId session containerId).1.room.kit
      = host.room.kit := by
  unfold handleC2DRequestOpenContainer
  split
  · rfl
  · split
    · split
      · rfl
      · dsimp only
        split
        · rfl
        · rw [sendAll_room]
          refine Eq.trans (GameRoom.kit_modifySession_same fun _ => rfl) ?_
          rw [GameRoom.kit_modifyContainer, GameRoom.kit_releaseInteractingContainer]
          split
          · rfl
          · exact GameRoom.kit_modifySession_same fun _ => rfl
    · rfl

theorem handleC2DCloseContainer_kit
    : (host.handleC2DCloseContainer sessionId session).1.room.kit = host.room.kit := by
  unfold handleC2DCloseContainer
  split
  · rfl
  · split
    · rfl
    · exact GameRoom.kit_releaseInteractingContainer sessionId

theorem handleC2DRequestRecall_kit (recallSpotIndex : Nat)
    : (host.handleC2DRequestRecall env sessionId session recallSpotIndex).1.room.kit
      = host.room.kit := by
  unfold handleC2DRequestRecall
  split
  · rfl
  · split
    · rfl
    · split
      · rfl
      · split
        · rfl
        · dsimp only
          split
          · rw [send_room]
          · dsimp only [scheduleRecallTick]
            refine (GameRoom.kit_modifySession_same fun session => ?_).trans
              (congrArg GameRoom.kit (send_room ..))
            unfold PlayerSession.beginRecall
            split <;> rfl

theorem applyNpcRequest_kit (npcObjectId : Nat)
    (apply : HostileNPC → Nat → HostileNPC × HostileNPC.RequestResult)
    : (host.applyNpcRequest env session npcObjectId apply).1.room.kit = host.room.kit := by
  unfold applyNpcRequest
  split
  · rfl
  · dsimp only
    split
    · exact GameRoom.kit_modifyHostileNpc _ _
    · exact GameRoom.kit_modifyHostileNpc _ _
    · rw [notifyNpcAuthority_room]
      exact GameRoom.kit_modifyHostileNpc _ _

theorem handleC2DReportNpcAttack_kit (pkt : C2DReportNpcAttack)
    : (host.handleC2DReportNpcAttack env sessionId session pkt).1.room.kit = host.room.kit := by
  unfold handleC2DReportNpcAttack
  split
  · rfl
  · split
    · rfl
    · split
      · rfl
      · dsimp only
        rw [broadcastExcept_room]
        split
        · rfl
        · next player found =>
            have hurt (damage : Int) (attackerObjectId : Nat)
                : (host.room.modifyPlayerObject pkt.hitObjectId
                    ({ · with combat := player.combat.takeDamage damage attackerObjectId })).kit
                  = host.room.kit :=
              GameRoom.kit_modifyPlayerObject_same fun object stored => by
                cases found.symm.trans stored
                exact PlayerObject.gear_takeDamage player damage attackerObjectId
            split
            · rfl
            · split
              · rw [send_room]
                exact hurt _ _
              · refine (GameRoom.kit_modifySession_same fun session => ?_).trans ?_
                · rfl
                · rw [send_room]
                  exact hurt _ _

theorem handleC2DRequestNpcAggro_kit (npcObjectId : Nat) (aggro : Int)
    : (host.handleC2DRequestNpcAggro env session npcObjectId aggro).1.room.kit
      = host.room.kit := applyNpcRequest_kit env host session npcObjectId _

theorem handleC2DRequestNpcAuthority_kit (npcObjectId : Nat) (aggro : Int)
    : (host.handleC2DRequestNpcAuthority env session npcObjectId aggro).1.room.kit
      = host.room.kit := applyNpcRequest_kit env host session npcObjectId _

-----------------------------------------------------------------------------------------
-- Handlers that change kits
-----------------------------------------------------------------------------------------

variable {env host sessionId session}
  {allowed : Nat → SlotStore → InventoryCall → Prop} {counts : Nat → Prop}

theorem kit_packs (found : host.room.playerSessions.lookup sessionId = some session)
    : host.room.kit.packs sessionId = some session.pack := by
  simp [GameRoom.kit, found]

theorem kit_gears {objectId : Nat} {object : PlayerObject}
    (located : host.room.findPlayerObject objectId = some object)
    : host.room.kit.gears objectId = some object.gear := by
  simp [GameRoom.kit, located]

/-- The new object shows what its session carries. -/
theorem handleC2DRequestSpawnMe_kit (layout : host.room.Layout)
    (found : host.room.playerSessions.lookup sessionId = some session)
    (active : session.isActiveState = true)
    : (host.handleC2DRequestSpawnMe env sessionId session).1.room.kit
      = (host.room.kit.setGear host.room.nxtObjectId (.issued session.inventory)).setPack
          sessionId { session.pack with objectId := some host.room.nxtObjectId } := by
  unfold handleC2DRequestSpawnMe
  rw [if_neg (by simp [active])]
  dsimp only
  rw [sendAll_room, send_room, send_room]
  generalize spawned : ({ PlayerObject.setArmor _ _ with combat := _ } : PlayerObject) = object
  have id : object.base.objectId = host.room.nxtObjectId := by
    rw [← spawned]
    exact congrArg UnityGameObject.objectId (setArmor_base _ _)
  have gear : object.gear = .issued session.inventory := by
    rw [← spawned]
    refine (PlayerObject.gear_chargeShield _ _).trans ?_
    exact PlayerObject.gear_setArmor _ session.inventory
  rcases spawnPlayerObject_cases env host.setSpawnSpot.1.getNewObjectId.1 object sessionId
    with ⟨taken, -⟩ | ⟨fresh, same⟩
  · exact absurd (id ▸ layout.playerIds _ taken) (Nat.lt_irrefl _)
  · have entered := room_eq_of_outcome same
    generalize spawnPlayerObject env _ object sessionId = next at entered ⊢
    have stored : next.room.playerSessions.lookup sessionId = some session := by
      rw [entered]
      exact found
    refine (GameRoom.kit_modifySession stored).trans ?_
    rw [entered]
    refine congrArg (Kit.setPack · sessionId _) ?_
    rw [← gear, ← id]
    exact GameRoom.kit_emplace fresh

theorem handleC2DRequestSpawnMe_steps (sound : host.Sound)
    (found : host.room.playerSessions.lookup sessionId = some session)
    : Kit.Steps allowed counts host.room.kit
        (host.handleC2DRequestSpawnMe env sessionId session).1.room.kit := by
  by_cases active : session.isActiveState = true
  · rw [handleC2DRequestSpawnMe_kit sound.layout found active]
    refine .single (.spawn (kit_packs found) fun other otherPack held same => ?_)
    obtain ⟨otherSession, stored, rfl⟩ := Option.map_eq_some_iff.mp held
    exact absurd (sound.currentIds other otherSession _ stored same) (Nat.lt_irrefl _)
  · unfold handleC2DRequestSpawnMe
    rw [if_pos (by simp [active])]

theorem commitStore_kit (found : host.room.playerSessions.lookup sessionId = some session)
    (opened : Option (Nat × Container)) (store : SlotStore)
    : (host.commitStore sessionId opened store).room.kit
      = host.room.kit.setPack sessionId
          { session.pack with inventory := store.inventory } := by
  have moved : (host.modifySession sessionId ({ · with inventory := store.inventory })).room.kit
      = host.room.kit.setPack sessionId { session.pack with inventory := store.inventory } :=
    GameRoom.kit_modifySession found
  unfold commitStore
  dsimp only
  split
  · exact moved
  · exact (GameRoom.kit_modifyContainer _ _).trans moved

theorem handleC2DRequestInteractContainerObject_steps
    (found : host.room.playerSessions.lookup sessionId = some session)
    (pkt : C2DRequestInteractContainerObject)
    : Kit.Steps allowed counts host.room.kit
        (host.handleC2DRequestInteractContainerObject env sessionId session pkt).1.room.kit
    := by
  unfold handleC2DRequestInteractContainerObject
  split
  · exact .refl
  · split
    · exact Kit.Steps.of_eq (congrArg GameRoom.kit (send_room ..))
    · next opened store plan =>
        obtain ⟨startRef, endRef, moved, served⟩ := planInteract_ok plan
        dsimp only
        rw [send_room, commitStore_kit found]
        exact .single (.rearrange (kit_packs found) rfl served.perform)

theorem refreshEquipment_kit (objectId : Option Nat) (isArmor : Bool)
    (inventory : PlayerInventory)
    : (host.refreshEquipment env sessionId objectId isArmor inventory).room.kit
      = host.room.kit.refresh objectId isArmor inventory := by
  unfold refreshEquipment Kit.refresh
  cases objectId with
  | none => rfl
  | some objectId =>
      dsimp only [Option.bind_some]
      cases located : host.room.findPlayerObject objectId with
      | none =>
          have missing : host.room.kit.gears objectId = none := by simp [GameRoom.kit, located]
          rw [missing]
          rfl
      | some object =>
          rw [kit_gears located]
          dsimp only [Option.map_some]
          cases isArmor with
          | true =>
              refine (GameRoom.kit_modifyPlayerObject located).trans ?_
              rw [PlayerObject.gear_setArmor]
              rfl
          | false =>
              refine (congrArg GameRoom.kit (broadcastExcept_room ..)).trans ?_
              exact GameRoom.kit_modifyPlayerObject located

/-- There are three equipment slots. -/
theorem planEquip_equipmentSlotType {room : GameRoom} {pkt : C2DRequestEquipItem}
    {result : Option (Nat × Container) × SlotStore × Option SlotIndex}
    (plan : planEquip env room session pkt = .ok result)
    : pkt.equipmentSlotType ≤ 2 := by
  by_contra beyond
  unfold planEquip at plan
  dsimp only at plan
  split at plan
  · obtain ⟨_, thrown, _⟩ := Except.bind_eq_ok plan
    cases thrown
  · rw [if_pos (by omega)] at plan
    obtain ⟨_, thrown, _⟩ := Except.bind_eq_ok plan
    cases thrown

theorem equipCall_equipment {pkt : C2DRequestEquipItem} (known : pkt.equipmentSlotType ≤ 2)
    (ref : SlotRef)
    : (equipCall pkt ref).equipment = some (pkt.equipmentSlotType == 2) := by
  have armor : (pkt.equipmentSlotType == 2) = !decide (pkt.equipmentSlotType ≤ 1) := by
    by_cases weapon : pkt.equipmentSlotType ≤ 1
    · simp [weapon]
      omega
    · simp [weapon]
      omega
  rw [armor]
  unfold equipCall
  cases pkt.actionType == 0 <;> cases decide (pkt.equipmentSlotType ≤ 1) <;> rfl

theorem handleC2DRequestEquipItem_steps
    (found : host.room.playerSessions.lookup sessionId = some session)
    {pkt : C2DRequestEquipItem}
    (permitted : session.isActiveState = true → ∀ opened store unloadedSlotIdx ref,
      EquipPlan env host.room session pkt opened store unloadedSlotIdx ref →
        allowed sessionId (slotStore session opened) (equipCall pkt ref))
    : Kit.Steps allowed counts host.room.kit
        (host.handleC2DRequestEquipItem env sessionId session pkt).1.room.kit := by
  unfold handleC2DRequestEquipItem
  split
  · exact .refl
  · next active =>
      split
      · exact Kit.Steps.of_eq (congrArg GameRoom.kit (send_room ..))
      · next opened store unloadedSlotIdx plan =>
          obtain ⟨ref, served⟩ := planEquip_ok plan
          have equipment := equipCall_equipment (planEquip_equipmentSlotType plan) ref
          have right := permitted (by simpa using active) opened store unloadedSlotIdx ref served
          dsimp only
          rw [send_room, refreshEquipment_kit, commitStore_kit found]
          exact .single (.equip (kit_packs found) equipment right served.perform)

theorem handleC2DRequestSwitchWeapon_steps (targetSlot : Nat) (version : BitVec 32)
    : Kit.Steps allowed counts host.room.kit
        (host.handleC2DRequestSwitchWeapon env sessionId session targetSlot version).1.room.kit
    := by
  unfold handleC2DRequestSwitchWeapon
  split
  · exact .refl
  · split
    · exact .refl
    · split
      · exact .refl
      · next objectId _ object located =>
          dsimp only
          split
          · exact Kit.Steps.of_eq (congrArg GameRoom.kit (send_room ..))
          · next accepted =>
              have armed : object.weaponId (targetSlot == 0) ≠ 0 :=
                fun bare => accepted (.inr (.inr bare))
              dsimp only
              rw [send_room, broadcastExcept_room]
              refine .trans (.single (.switch (kit_gears located) armed)) (Kit.Steps.of_eq ?_)
              exact GameRoom.kit_modifyPlayerObject located

theorem reload_perform (inventory : PlayerInventory) (isUsingPrimary : Bool)
    (version : BitVec 32)
    : (reload inventory isUsingPrimary version).1 = inventory
      ∨ (SlotStore.mk inventory []).perform (.reloadMagazine isUsingPrimary)
        = some { inventory := (reload inventory isUsingPrimary version).1 } := by
  unfold reload
  split
  · exact .inl rfl
  · exact .inr rfl

theorem handleC2DRequestReload_steps
    (found : host.room.playerSessions.lookup sessionId = some session) (version : BitVec 32)
    : Kit.Steps allowed counts host.room.kit
        (host.handleC2DRequestReload env sessionId session version).1.room.kit := by
  unfold handleC2DRequestReload
  split
  · exact .refl
  · split
    · exact .refl
    · split
      · exact .refl
      · next objectId _ object located =>
          have moved : (host.modifySession sessionId ({ · with
                inventory :=
                  (reload session.inventory object.isUsingPrimary version).1 })).room.kit
              = host.room.kit.setPack sessionId
                  { session.pack with
                    inventory :=
                      (reload session.inventory object.isUsingPrimary version).1 } :=
            GameRoom.kit_modifySession found
          have steps : Kit.Steps allowed counts host.room.kit
              (host.modifySession sessionId ({ · with
                inventory :=
                  (reload session.inventory object.isUsingPrimary version).1 })).room.kit := by
            rw [moved]
            rcases reload_perform session.inventory object.isUsingPrimary version
              with same | performed
            · rw [same]
              exact Kit.Steps.of_eq (Kit.setPack_of_held _ (kit_packs found))
            · exact .single (.rearrange (kit_packs found) rfl performed)
          dsimp only
          rw [send_room]
          split
          · rw [broadcastReloadSequence, broadcastExcept_room]
            exact steps
          · exact steps

-----------------------------------------------------------------------------------------
-- Shots
-----------------------------------------------------------------------------------------

variable (env host sessionId)

theorem notifyHit_kit (hitObjectId : Nat) (combat : CombatState) (attackerObjectId : Nat)
    : (host.notifyHit env hitObjectId combat attackerObjectId).room.kit = host.room.kit := by
  unfold notifyHit
  split
  · rfl
  · split
    · rfl
    · dsimp only
      split
      · rw [send_room]
      · refine (GameRoom.kit_modifySession_same fun session => ?_).trans ?_
        · rfl
        · rw [send_room]

theorem destroyDeadObject_kit (objectId : Nat)
    : (host.destroyDeadObject env objectId).room.kit = host.room.kit := by
  unfold destroyDeadObject
  split
  · rfl
  · dsimp only
    rw [broadcast_room]
    rfl

theorem settleNpcHit_kit (shooterObjectId hitObjectId : Nat) (npc : HostileNPC)
    : (host.settleNpcHit env shooterObjectId hitObjectId npc).room.kit = host.room.kit := by
  have told : ((host.modifyRoom (·.modifyHostileNpc hitObjectId fun _ => npc)).notifyHit env
      hitObjectId npc.combat shooterObjectId).room.kit = host.room.kit :=
    (notifyHit_kit ..).trans (GameRoom.kit_modifyHostileNpc _ _)
  unfold settleNpcHit
  dsimp only
  split
  · exact (destroyDeadObject_kit ..).trans told
  · split
    · rw [notifyNpcAuthority_room]
      exact (GameRoom.kit_modifyHostileNpc _ _).trans told
    · exact (GameRoom.kit_modifyHostileNpc _ _).trans told

theorem applyHit_kit (shooterObjectId hitObjectId weaponId : Nat)
    : (host.applyHit env shooterObjectId hitObjectId weaponId).room.kit = host.room.kit := by
  unfold applyHit
  split
  · rfl
  · split
    · next player spec located _ =>
        split
        · rfl
        · refine (notifyHit_kit ..).trans (GameRoom.kit_modifyPlayerObject_same ?_)
          intro object stored
          cases located.symm.trans stored
          exact PlayerObject.gear_takeDamage player _ _
    · split
      · rfl
      · exact settleNpcHit_kit ..
    · rfl

variable {env host sessionId}

/-- Counting a shot changes the number that its session expects. -/
theorem countShot_kit (found : host.room.playerSessions.lookup sessionId = some session)
    (pkt : C2DRequestWeaponFire)
    : (host.countShot sessionId pkt).room.kit
      = host.room.kit.setPack sessionId
          { session.pack with fireSequence := pkt.fireSequence + 1 } :=
  GameRoom.kit_modifySession found

/-- A spent round leaves the magazine in the inventory. -/
theorem spendRound_kit (found : host.room.playerSessions.lookup sessionId = some session)
    (isUsingPrimary : Bool)
    : (host.spendRound sessionId session isUsingPrimary).room.kit
      = host.room.kit.setPack sessionId
          { session.pack with
            inventory := (SlotStore.fired { inventory := session.inventory }
              isUsingPrimary).inventory } :=
  GameRoom.kit_modifySession found

theorem countShot_found (found : host.room.playerSessions.lookup sessionId = some session)
    (pkt : C2DRequestWeaponFire)
    : (host.countShot sessionId pkt).room.playerSessions.lookup sessionId
      = some { session with fireSequence := pkt.fireSequence + 1 } := by
  simp [countShot, modifySession, modifyRoom, GameRoom.modifySession, found]

theorem handleC2DRequestWeaponFire_steps
    (found : host.room.playerSessions.lookup sessionId = some session)
    (counted : counts sessionId) (pkt : C2DRequestWeaponFire)
    : Kit.Steps allowed counts host.room.kit
        (host.handleC2DRequestWeaponFire env sessionId session pkt).1.room.kit := by
  have afterCount : Kit.Steps allowed counts host.room.kit
      (host.countShot sessionId pkt).room.kit := by
    rw [countShot_kit found]
    exact .single (.count (kit_packs found) counted _)
  have outcome := host.handleC2DRequestWeaponFire_shot env sessionId session pkt
  generalize host.handleC2DRequestWeaponFire env sessionId session pkt = handled at *
  cases outcome with
  | ignored => exact .refl
  | wasted => exact afterCount
  | @fired objectId object _ _ _ _ filled _ =>
      have stored := countShot_found found pkt
      have performed : SlotStore.perform { inventory := session.inventory, container := [] }
          (.fire object.isUsingPrimary) = some _ := if_neg (Bool.eq_false_iff.mp filled)
      rw [broadcastExcept_room, applyHit_kit]
      refine afterCount.tail ?_
      exact (spendRound_kit stored object.isUsingPrimary) ▸
        .rearrange (kit_packs stored) rfl performed

-----------------------------------------------------------------------------------------
-- Leaving
-----------------------------------------------------------------------------------------

theorem pack_markLeaving (session : PlayerSession) (reason : LeaveReason)
    (now : TimePoint) (notifyRSeq : BitVec 32)
    : (session.markLeaving reason now notifyRSeq).pack = session.pack := by
  unfold PlayerSession.markLeaving
  split
  · next accepted =>
      have staying := (PlayerSession.staying_of_acceptsLeaveReason accepted).2
      exact Pack.ext rfl rfl rfl staying.symm
  · rfl

theorem markLeaving_kit (sessionId : Nat) (reason : LeaveReason) (notifyRSeq : BitVec 32)
    (host : RoomHost)
    : (host.markLeaving env sessionId reason notifyRSeq).room.kit = host.room.kit :=
  GameRoom.kit_modifySession_same fun session => pack_markLeaving session reason _ _

theorem markLeaves_kit (now : TimePoint) (host : RoomHost)
    : (host.markLeaves env now).room.kit = host.room.kit := by
  have dead (host : RoomHost) : (host.markDead env).room.kit = host.room.kit := by
    unfold markDead
    apply Table.foldl_view_eq fun host : RoomHost => host.room.kit
    intro host objectId _
    split
    · rfl
    · exact markLeaving_kit ..
  have disconnected (host : RoomHost)
      : (host.detectDisconnectedSessions env).room.kit = host.room.kit := by
    unfold detectDisconnectedSessions
    dsimp only
    refine (Table.foldl_view_eq (fun host : RoomHost => host.room.kit) ?_ _).trans rfl
    intro host sessionId _
    repeat' split
    all_goals first | rfl | exact markLeaving_kit ..
  have cleared (host : RoomHost) : host.clearPendingOfLeaving.room.kit = host.room.kit :=
    congrArg GameRoom.kit (room_eq_of_outcome (clearPendingOfLeaving_outcome host))
  unfold markLeaves
  dsimp only
  rw [cleared, disconnected, dead]
  split
  · unfold allKill
    refine (Table.foldl_view_eq (fun host : RoomHost => host.room.kit) ?_ _).trans rfl
    intro host sessionId _
    exact markLeaving_kit ..
  · rfl

theorem detachPlayer_steps (sound : host.Sound)
    (found : host.room.playerSessions.lookup sessionId = some session)
    (pending : session.leaveState = .pending)
    : Kit.Steps allowed counts host.room.kit (host.detachPlayer env sessionId).room.kit := by
  have unreported : session.leftNotified = false := by
    rw [(sound.leaves sessionId session found).reported, PlayerSession.isDetached, pending]
    rfl
  have detached := detachPlayer_detached env found unreported
  have left : host.room.keptInventory session = session.inventory
      ∨ host.room.keptInventory session = session.inventory.clear := by
    unfold GameRoom.keptInventory
    split
    · exact .inr rfl
    · exact .inl rfl
  refine .single (.detach (kit_packs found) left ?_ fun objectId => ?_)
  · have packs := congrArg Kit.packs (GameRoom.kit_modifySession
      (f := fun _ => host.room.detachedSession session) found)
    refine Eq.trans ?_ packs
    unfold GameRoom.kit
    rw [detached.sessions]
    rfl
  · unfold GameRoom.kit GameRoom.findPlayerObject
    rw [detached.objects]
    unfold GameRoom.objectsWithout
    split
    · exact .inl rfl
    · next current _ =>
        by_cases same : objectId = current
        · subst same
          exact .inr (by simp)
        · exact .inl (by simp [AList.lookup_erase_ne same])

theorem notifyLeftOnce_kit (sessionId : Nat) (host : RoomHost)
    : (host.notifyLeftOnce sessionId).room.kit = host.room.kit := by
  unfold notifyLeftOnce
  split
  · rfl
  · split
    · rfl
    · exact GameRoom.kit_modifySession_same fun _ => rfl

theorem advanceLeave_steps (sound : host.Sound) (now : TimePoint) (sessionId : Nat)
    : Kit.Steps allowed counts host.room.kit (host.advanceLeave env now sessionId).room.kit := by
  have finalized {host : RoomHost} {session : PlayerSession}
      (found : host.room.playerSessions.lookup sessionId = some session)
      (gone : session.leaveState = .detached)
      : (host.finalizeLeave sessionId).room.kit = host.room.kit := by
    have same : PlayerSession.pack
        { session with leaveState := .finalized, sessionState := .left } = session.pack :=
      Pack.ext rfl rfl rfl (by simp [PlayerSession.pack, PlayerSession.isDetached, gone])
    refine (notifyLeftOnce_kit ..).trans ((GameRoom.kit_modifySession found).trans ?_)
    rw [same]
    exact Kit.setPack_of_held _ (kit_packs found)
  unfold advanceLeave
  extract_lets detached
  have first : Kit.Steps allowed counts host.room.kit detached.room.kit := by
    unfold detached
    split
    · exact .refl
    · next session found =>
        split
        · next pending => exact detachPlayer_steps sound found pending
        · exact .refl
  split
  · exact first
  · next session found =>
      split
      · next ready =>
          rw [finalized found ready.1]
          exact first
      · exact first

theorem processLeaves_steps (sound : host.Sound)
    : Kit.Steps allowed counts host.room.kit (host.processLeaves env).room.kit := by
  have last (host : RoomHost) : host.checkAllLeft.room.kit = host.room.kit := by
    unfold checkAllLeft
    repeat' split
    all_goals rfl
  have awaited : Moves (fun _ _ => true) host (host.now env).1 := .quiet (host.now_outcome env)
  have marked (now : TimePoint) : Moves (fun _ _ => true) host
      (markLeaves env now (host.now env).1) := awaited.trans (markLeaves_moves _ _)
  unfold processLeaves
  dsimp only
  rw [last]
  refine (List.foldlRecOn _ _ (motive := fun reached : RoomHost =>
    reached.Sound ∧ Kit.Steps allowed counts host.room.kit reached.room.kit) ⟨?_, ?_⟩ ?_).2
  · exact (marked _).sound sound
  · exact Kit.Steps.of_eq (markLeaves_kit _ _)
  · intro reached ⟨soundThere, steps⟩ sessionId _
    have turn (now : TimePoint)
        : Moves (fun _ _ => true) reached (reached.advanceLeave env now sessionId) :=
      reached.advanceLeave_moves env now sessionId
    exact ⟨(turn _).sound soundThere, steps.trans (advanceLeave_steps soundThere _ sessionId)⟩

-----------------------------------------------------------------------------------------
-- Timers and updates
-----------------------------------------------------------------------------------------

theorem cancelRecall_kit (sessionId : Nat) (session : PlayerSession) (spotIndex : Nat)
    (reason : RecallResultReason)
    : (host.cancelRecall env sessionId session spotIndex reason).room.kit = host.room.kit := by
  have ended : (host.modifySession sessionId PlayerSession.endRecall).room.kit
      = host.room.kit := GameRoom.kit_modifySession_same fun _ => rfl
  unfold cancelRecall
  dsimp only
  split
  · exact ended
  · rw [send_room]
    exact ended

theorem recallTick_kit (timer : RecallTimer)
    : (host.recallTick env timer).room.kit = host.room.kit := by
  unfold recallTick
  dsimp only
  split
  · rfl
  iterate 4
    split
    · first | rfl | exact cancelRecall_kit ..
  split
  · exact cancelRecall_kit ..
  iterate 2
    split
    · exact cancelRecall_kit ..
  have passed : (host.modifySession timer.sessionId PlayerSession.addRecallPass).room.kit
      = host.room.kit := GameRoom.kit_modifySession_same fun _ => rfl
  split
  · exact passed
  · unfold completeRecall
    dsimp only
    rw [markLeaving_kit, send_room]
    refine Eq.trans ?_ passed
    exact GameRoom.kit_modifySession_same fun _ => rfl

theorem update_kit (host : RoomHost) : (host.update env).room.kit = host.room.kit := by
  have regenerated : (host.regenPlayerShields env).room.kit = host.room.kit := by
    unfold regenPlayerShields
    dsimp only
    split
    · rfl
    · refine Kit.ext rfl (funext fun objectId => ?_)
      simp only [GameRoom.kit, GameRoom.findPlayerObject, modifyRoom, Table.lookup_mapWithKey,
        Option.map_map]
      refine congrArg (Option.map · _) (funext fun object => ?_)
      exact object.gear_regenShield _
  unfold update broadcastPlayerStates
  split
  · exact regenerated
  · rw [broadcast_room]
    exact regenerated

theorem updateNpcStates_kit (host : RoomHost)
    : (host.updateNpcStates env).room.kit = host.room.kit := by
  unfold updateNpcStates
  dsimp only
  split
  · rfl
  · rw [broadcast_room]

-----------------------------------------------------------------------------------------
-- Every action
-----------------------------------------------------------------------------------------

theorem dispatch_steps (sound : host.Sound)
    (found : host.room.playerSessions.lookup sessionId = some session)
    (clientAddr : SockAddr) {pkt : C2DPacket}
    (permitted : ∀ request, pkt = .requestEquipItem request →
      session.isActiveState = true → ∀ opened store unloadedSlotIdx ref,
        EquipPlan env host.room session request opened store unloadedSlotIdx ref →
          allowed sessionId (slotStore session opened) (equipCall request ref))
    (counted : ∀ request, pkt = .requestWeaponFire request → counts sessionId)
    : Kit.Steps allowed counts host.room.kit
        (host.dispatch env sessionId session clientAddr pkt).1.room.kit := by
  have answered {after : RoomHost} (same : after.outcome = host.outcome)
      : Kit.Steps allowed counts host.room.kit after.room.kit :=
    Kit.Steps.of_eq (congrArg GameRoom.kit (room_eq_of_outcome same))
  cases pkt with
  | channelOpen echo => exact Kit.Steps.of_eq (handleC2DChannelOpen_kit ..)
  | heartBeat => exact answered (handleC2DHeartBeat_outcome ..)
  | requestBlueprint => exact answered (handleC2DRequestBlueprint_outcome ..)
  | requestSpawnMe => exact handleC2DRequestSpawnMe_steps sound found
  | requestSpawnByObjectId objectId =>
      exact answered (handleC2DRequestSpawnByObjectId_outcome ..)
  | updatePlayerState state npcStates =>
      exact Kit.Steps.of_eq (handleC2DUpdatePlayerState_kit ..)
  | requestSpawnPlayerObjects => exact answered (handleC2DRequestSpawnPlayerObjects_outcome ..)
  | notifyLoadingComplete => exact Kit.Steps.of_eq (handleC2DNotifyLoadingComplete_kit ..)
  | requestOpenContainer containerId =>
      exact Kit.Steps.of_eq (handleC2DRequestOpenContainer_kit ..)
  | closeContainer => exact Kit.Steps.of_eq (handleC2DCloseContainer_kit ..)
  | requestInteractContainerObject pkt =>
      exact handleC2DRequestInteractContainerObject_steps found pkt
  | requestEquipItem pkt =>
      exact handleC2DRequestEquipItem_steps found (permitted pkt rfl)
  | requestRecentInventoryInfo objectId =>
      exact answered (handleC2DRequestRecentInventoryInfo_outcome ..)
  | requestSwitchWeapon targetSlot version =>
      exact handleC2DRequestSwitchWeapon_steps targetSlot version
  | requestWeaponFire pkt => exact handleC2DRequestWeaponFire_steps found (counted pkt rfl) pkt
  | requestRecall spotIndex => exact Kit.Steps.of_eq (handleC2DRequestRecall_kit ..)
  | requestReload version => exact handleC2DRequestReload_steps found version
  | notifyReloadSequence sequenceNum =>
      exact answered (handleC2DNotifyReloadSequence_outcome ..)
  | requestNpcAggro objectId aggro => exact Kit.Steps.of_eq (handleC2DRequestNpcAggro_kit ..)
  | requestNpcAuthority objectId aggro =>
      exact Kit.Steps.of_eq (handleC2DRequestNpcAuthority_kit ..)
  | reportNpcAttack pkt => exact Kit.Steps.of_eq (handleC2DReportNpcAttack_kit ..)

/-- The equipment request in an action, if it is to be served, makes a call that meets a
condition.
-/
def permits (env : Environment) (allowed : Nat → SlotStore → InventoryCall → Prop)
    (host : RoomHost)
    : Action → Prop
  | .packet sessionId header _ (.requestEquipItem pkt) =>
      (host.receive env sessionId header).2 = true → ∀ session,
        host.room.playerSessions.lookup sessionId = some session →
        session.isActiveState = true → ∀ opened store unloadedSlotIdx ref,
          EquipPlan env host.room session pkt opened store unloadedSlotIdx ref →
            allowed sessionId (slotStore session opened) (equipCall pkt ref)
  | _ => True

theorem permits_any (host : RoomHost) (action : Action)
    : host.permits env (fun _ _ _ => True) action := by
  unfold permits
  split
  · exact fun _ _ _ _ _ _ _ _ _ => trivial
  · trivial

/-- The shot in an action, if there is one, is of a session whose shots are counted. -/
def Action.counted (counts : Nat → Prop) : Action → Prop
  | .packet sessionId _ _ (.requestWeaponFire _) => counts sessionId
  | _ => True

theorem counted_any (action : Action) : action.counted fun _ => True := by
  unfold Action.counted
  split <;> trivial

/-- Every action moves the kits by steps. -/
theorem next_steps {before after : RoomHost} {action : Action} (sound : before.Sound)
    (permitted : before.permits env allowed action) (counted : action.counted counts)
    (step : next env before action = some after)
    : Kit.Steps allowed counts before.room.kit after.room.kit := by
  cases action with
  | packet sessionId header clientAddr pkt =>
      cases step
      unfold handleClientPacket
      split
      · exact .refl
      · next session found =>
          dsimp only
          split
          · exact .refl
          · next new =>
              have heard : Moves (fun _ _ => true) before
                  (before.receive env sessionId header).1 := .quiet rfl
              refine dispatch_steps (heard.sound sound) found clientAddr
                (fun request same => ?_) fun request same => ?_
              · subst same
                exact permitted (by simpa using new) session found
              · subst same
                exact counted
  | recallTick index =>
      simp only [next] at step
      split at step
      · cases step
      · split at step
        · cases step
        · cases step
          exact Kit.Steps.of_eq (recallTick_kit _)
  | processLeaves =>
      obtain rfl := Option.some.inj step
      exact processLeaves_steps sound
  | update =>
      cases step
      exact Kit.Steps.of_eq (update_kit before)
  | updateNpcStates =>
      cases step
      exact Kit.Steps.of_eq (updateNpcStates_kit before)
  | bindClientIp sessionId addr =>
      cases step
      exact Kit.Steps.of_eq (GameRoom.kit_modifySession_same fun _ => rfl)
  | checkRetransmits sessionId =>
      simp only [next] at step
      split at step <;> cases step <;> exact .refl

end RoomHost

end ExtractionServer.Room
