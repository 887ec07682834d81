import ExtractionServer.Room.Armament
import ExtractionServer.Room.KitSteps

/-! A player object mirrors the inventory of its session: the weapons in the weapon slots, the
shield of the armor slot, and a hand that is empty only when there is nothing to hold.
-/

namespace ExtractionServer.Room

open Transport

-----------------------------------------------------------------------------------------
-- Gear that mirrors an inventory
-----------------------------------------------------------------------------------------

namespace Gear

/-- The hand is empty only when there is no weapon. -/
def Armed (gear : Gear) : Prop :=
  gear.currentWeaponId = 0 → gear.primaryWeaponId = 0 ∧ gear.secondaryWeaponId = 0

structure Mirrors (gear : Gear) (inventory : PlayerInventory) : Prop where
  primaryWeaponId : gear.primaryWeaponId = inventory.primaryWeaponSlot.item.blueprintId
  secondaryWeaponId : gear.secondaryWeaponId = inventory.secondaryWeaponSlot.item.blueprintId
  shield : (gear.maxShield, gear.damageReductionRate, gear.shieldRegenPerSec)
    = armorShield inventory.armorSlot.item.blueprintId
  armed : gear.Armed

variable {gear : Gear} {inventory before after : PlayerInventory}

/-- `SetWeapons` moves the hand off a slot that it finds empty, if the other one is not. -/
theorem armed_rearmed (gear : Gear) (inventory : PlayerInventory)
    : (gear.rearmed inventory).Armed := by
  unfold Armed
  cases hand : gear.isUsingPrimary <;>
    by_cases primary : inventory.primaryWeaponSlot.item.blueprintId = 0 <;>
      by_cases secondary : inventory.secondaryWeaponSlot.item.blueprintId = 0 <;>
        simp [currentWeaponId, rearmed, hand, primary, secondary]

theorem Armed.armored (armed : gear.Armed) (inventory : PlayerInventory)
    : (gear.armored inventory).Armed := armed

theorem mirrors_issued (inventory : PlayerInventory) : (issued inventory).Mirrors inventory where
  primaryWeaponId := rfl
  secondaryWeaponId := rfl
  shield := rfl
  armed := (armed_rearmed bare inventory).armored inventory

/-- Equipment of the same items is mirrored by the same gear. -/
theorem Mirrors.of_same (h : gear.Mirrors before)
    (primary : after.primaryWeaponSlot = before.primaryWeaponSlot)
    (secondary : after.secondaryWeaponSlot = before.secondaryWeaponSlot)
    (armor : after.armorSlot = before.armorSlot)
    : gear.Mirrors after := by
  obtain ⟨primaryWeaponId, secondaryWeaponId, shield, armed⟩ := h
  refine ⟨?_, ?_, ?_, armed⟩
  · rw [primary, primaryWeaponId]
  · rw [secondary, secondaryWeaponId]
  · rw [armor, shield]

theorem Mirrors.rearmed (h : gear.Mirrors before) (armor : after.armorSlot = before.armorSlot)
    : (gear.rearmed after).Mirrors after where
  primaryWeaponId := rfl
  secondaryWeaponId := rfl
  shield := by
    rw [armor]
    exact h.shield
  armed := armed_rearmed gear after

theorem Mirrors.armored (h : gear.Mirrors before)
    (primary : after.primaryWeaponSlot = before.primaryWeaponSlot)
    (secondary : after.secondaryWeaponSlot = before.secondaryWeaponSlot)
    : (gear.armored after).Mirrors after where
  primaryWeaponId := by
    rw [primary]
    exact h.primaryWeaponId
  secondaryWeaponId := by
    rw [secondary]
    exact h.secondaryWeaponId
  shield := rfl
  armed := h.armed.armored after

/-- The hand turns to a weapon only. -/
theorem Mirrors.switched (h : gear.Mirrors inventory) {toPrimary : Bool}
    (armed : gear.weaponId toPrimary ≠ 0)
    : Mirrors { gear with isUsingPrimary := toPrimary } inventory where
  primaryWeaponId := h.primaryWeaponId
  secondaryWeaponId := h.secondaryWeaponId
  shield := h.shield
  armed bare := absurd bare armed

end Gear

-----------------------------------------------------------------------------------------
-- Kits that mirror each other
-----------------------------------------------------------------------------------------

namespace Kit

/-- What the equipment of all sessions and their objects obey. -/
structure Mirrored (kit : Kit) : Prop where
  steady : ∀ sessionId pack, kit.packs sessionId = some pack →
    SlotStore.Steady { inventory := pack.inventory }
  owners : ∀ sessionId otherId pack other objectId, kit.packs sessionId = some pack →
    kit.packs otherId = some other → pack.objectId = some objectId →
    other.objectId = some objectId → sessionId = otherId
  mirrors : ∀ sessionId pack objectId gear, kit.packs sessionId = some pack →
    pack.objectId = some objectId → kit.gears objectId = some gear →
    gear.Mirrors pack.inventory

variable {kit after : Kit} {sessionId : Nat} {pack : Pack}

/-- A pack is stored again with another inventory, and the gear of its object follows. -/
theorem Mirrored.setPack (h : kit.Mirrored) (held : kit.packs sessionId = some pack)
    {changed : Pack} (objectId : changed.objectId = pack.objectId)
    (steady : SlotStore.Steady { inventory := changed.inventory })
    (packs : after.packs = (kit.setPack sessionId changed).packs)
    (gears : ∀ objectId, pack.objectId ≠ some objectId →
      after.gears objectId = kit.gears objectId)
    (mirrors : ∀ objectId gear, pack.objectId = some objectId →
      after.gears objectId = some gear → gear.Mirrors changed.inventory)
    : after.Mirrored := by
  have stored {otherId : Nat} {other : Pack} (held' : after.packs otherId = some other)
      : otherId = sessionId ∧ other = changed
        ∨ otherId ≠ sessionId ∧ kit.packs otherId = some other := by
    rw [packs] at held'
    exact packs_setPack_cases _ held'
  have old {otherId : Nat} {other : Pack} (held' : after.packs otherId = some other)
      : ∃ before, kit.packs otherId = some before ∧ before.objectId = other.objectId := by
    rcases stored held' with ⟨rfl, rfl⟩ | ⟨-, there⟩
    · exact ⟨pack, held, objectId.symm⟩
    · exact ⟨other, there, rfl⟩
  constructor
  · intro otherId other held'
    rcases stored held' with ⟨rfl, rfl⟩ | ⟨-, there⟩
    · exact steady
    · exact h.steady otherId other there
  · intro firstId secondId first second current held' heldOther own ownOther
    obtain ⟨before, there, id⟩ := old held'
    obtain ⟨beforeOther, thereOther, idOther⟩ := old heldOther
    exact h.owners firstId secondId before beforeOther current there thereOther (id.trans own)
      (idOther.trans ownOther)
  · intro otherId other current gear held' own shown
    rcases stored held' with ⟨rfl, rfl⟩ | ⟨apart, there⟩
    · exact mirrors current gear (objectId.symm.trans own) shown
    · refine h.mirrors otherId other current gear there own ?_
      rw [← gears current fun same => apart (h.owners otherId sessionId other pack current
        there held own same)]
      exact shown

/-- The pack alone is stored again: its equipment is the same. -/
theorem Mirrored.repack (h : kit.Mirrored) (held : kit.packs sessionId = some pack)
    {changed : Pack} (objectId : changed.objectId = pack.objectId)
    (steady : SlotStore.Steady { inventory := changed.inventory })
    (primary : changed.inventory.primaryWeaponSlot = pack.inventory.primaryWeaponSlot)
    (secondary : changed.inventory.secondaryWeaponSlot = pack.inventory.secondaryWeaponSlot)
    (armor : changed.inventory.armorSlot = pack.inventory.armorSlot)
    : (kit.setPack sessionId changed).Mirrored :=
  h.setPack held objectId steady rfl (fun _ _ => rfl) fun current gear own shown =>
    (h.mirrors sessionId pack current gear held own shown).of_same primary secondary armor

theorem Mirrored.spawn (h : kit.Mirrored) (held : kit.packs sessionId = some pack)
    {objectId : Nat}
    (fresh : ∀ other otherPack, kit.packs other = some otherPack →
      otherPack.objectId ≠ some objectId)
    : ((kit.setGear objectId (.issued pack.inventory)).setPack sessionId
        { pack with objectId := some objectId }).Mirrored := by
  have stored {otherId : Nat} {other : Pack}
      (held' : ((kit.setGear objectId (.issued pack.inventory)).setPack sessionId
        { pack with objectId := some objectId }).packs otherId = some other)
      : otherId = sessionId ∧ other = { pack with objectId := some objectId }
        ∨ kit.packs otherId = some other :=
    (packs_setPack_cases _ held').imp_right And.right
  constructor
  · intro otherId other held'
    rcases stored held' with ⟨-, rfl⟩ | there
    · exact h.steady sessionId pack held
    · exact h.steady otherId other there
  · intro firstId secondId first second current held' heldOther own ownOther
    rcases stored held' with ⟨rfl, rfl⟩ | there <;>
      rcases stored heldOther with ⟨rfl, rfl⟩ | thereOther
    · rfl
    · exact absurd (ownOther.trans own.symm) (fresh secondId second thereOther)
    · exact absurd (own.trans ownOther.symm) (fresh firstId first there)
    · exact h.owners firstId secondId first second current there thereOther own ownOther
  · intro otherId other current gear held' own shown
    rw [gears_setPack] at shown
    rcases stored held' with ⟨-, rfl⟩ | there
    · cases own
      rw [gears_setGear_self] at shown
      cases shown
      exact Gear.mirrors_issued pack.inventory
    · have apart : current ≠ objectId := fun same =>
        fresh otherId other there (same ▸ own)
      rw [gears_setGear_ne _ apart] at shown
      exact h.mirrors otherId other current gear there own shown

theorem refresh_cases (kit : Kit) (objectId : Option Nat) (isArmor : Bool)
    (inventory : PlayerInventory)
    : (∀ current, objectId = some current → kit.gears current = none)
        ∧ kit.refresh objectId isArmor inventory = kit
      ∨ ∃ current gear, objectId = some current ∧ kit.gears current = some gear
        ∧ kit.refresh objectId isArmor inventory
          = kit.setGear current
              (if isArmor then gear.armored inventory else gear.rearmed inventory) := by
  unfold refresh
  cases objectId with
  | none => exact .inl ⟨nofun, rfl⟩
  | some objectId =>
      rw [Option.bind_some]
      cases shown : kit.gears objectId with
      | none =>
          refine .inl ⟨fun current same => ?_, rfl⟩
          cases same
          exact shown
      | some gear => exact .inr ⟨objectId, gear, rfl, shown, rfl⟩

/-- Changed equipment is carried over to the object, if there is one. -/
theorem Mirrored.equip (h : kit.Mirrored) (held : kit.packs sessionId = some pack)
    {isArmor : Bool} {inventory : PlayerInventory}
    (steady : SlotStore.Steady { inventory })
    (weapons : isArmor = true →
      inventory.primaryWeaponSlot = pack.inventory.primaryWeaponSlot
        ∧ inventory.secondaryWeaponSlot = pack.inventory.secondaryWeaponSlot)
    (armor : isArmor = false → inventory.armorSlot = pack.inventory.armorSlot)
    : ((kit.setPack sessionId { pack with inventory }).refresh pack.objectId isArmor
        inventory).Mirrored := by
  have kept : Pack.objectId { pack with inventory } = pack.objectId := rfl
  rcases refresh_cases (kit.setPack sessionId { pack with inventory }) pack.objectId isArmor
    inventory with ⟨hidden, same⟩ | ⟨current, gear, own, shown, same⟩
  · rw [same]
    refine h.setPack held kept steady rfl (fun _ _ => rfl) fun current gear own shown => ?_
    cases (hidden current own).symm.trans shown
  · rw [same]
    have before := h.mirrors sessionId pack current gear held own shown
    refine h.setPack held kept steady rfl (fun other apart => ?_)
      fun other changed ownOther there => ?_
    · refine gears_setGear_ne _ ?_ _
      rintro rfl
      exact apart own
    · cases own.symm.trans ownOther
      cases (gears_setGear_self ..).symm.trans there
      cases isArmor with
      | true => exact before.armored (weapons rfl).1 (weapons rfl).2
      | false => exact before.rearmed (armor rfl)

theorem Mirrored.switch (h : kit.Mirrored) {objectId : Nat} {gear : Gear} {toPrimary : Bool}
    (shown : kit.gears objectId = some gear) (armed : gear.weaponId toPrimary ≠ 0)
    : (kit.setGear objectId { gear with isUsingPrimary := toPrimary }).Mirrored where
  steady := h.steady
  owners := h.owners
  mirrors otherId other current changed held own there := by
    by_cases same : current = objectId
    · subst same
      rw [gears_setGear_self] at there
      cases there
      exact (h.mirrors otherId other current gear held own shown).switched armed
    · rw [gears_setGear_ne _ same] at there
      exact h.mirrors otherId other current changed held own there

theorem Mirrored.detach (h : kit.Mirrored) (held : kit.packs sessionId = some pack)
    {inventory : PlayerInventory}
    (left : inventory = pack.inventory ∨ inventory = pack.inventory.clear)
    (packs : after.packs
      = (kit.setPack sessionId
        { pack with objectId := none, inventory, isDetached := true }).packs)
    (gears : ∀ objectId, after.gears objectId = kit.gears objectId
      ∨ after.gears objectId = none)
    : after.Mirrored := by
  have stored {otherId : Nat} {other : Pack} (held' : after.packs otherId = some other)
      : other = { pack with objectId := none, inventory, isDetached := true }
        ∨ kit.packs otherId = some other := by
    rw [packs] at held'
    exact (packs_setPack_cases _ held').imp And.right And.right
  constructor
  · intro otherId other held'
    rcases stored held' with rfl | there
    · have before := h.steady sessionId pack held
      rcases left with rfl | rfl
      · exact before
      · exact (SlotStore.cleared_rearming { inventory := pack.inventory }).steady
    · exact h.steady otherId other there
  · intro firstId secondId first second current held' heldOther own ownOther
    rcases stored held' with rfl | there
    · cases own
    rcases stored heldOther with rfl | thereOther
    · cases ownOther
    exact h.owners firstId secondId first second current there thereOther own ownOther
  · intro otherId other current gear held' own shown
    rcases stored held' with rfl | there
    · cases own
    rcases gears current with same | gone
    · exact h.mirrors otherId other current gear there own (same ▸ shown)
    · cases gone.symm.trans shown

theorem rearranges_keeps {call : InventoryCall} (rearranges : call.rearranges = true)
    : call.rearms = false ∧ call.rearmors = false := by
  cases call <;> simp_all [InventoryCall.rearranges, InventoryCall.rearms,
    InventoryCall.rearmors]

theorem equipment_keeps {call : InventoryCall} {isArmor : Bool}
    (equipment : call.equipment = some isArmor)
    : (isArmor = true → call.rearms = false) ∧ (isArmor = false → call.rearmors = false) := by
  cases call <;> cases equipment <;> exact ⟨by simp [InventoryCall.rearms],
    by simp [InventoryCall.rearmors]⟩

/-- Every step keeps objects and inventories in accord. -/
theorem Step.mirrored {allowed : Nat → SlotStore → InventoryCall → Prop} {counts : Nat → Prop}
    (step : kit.Step allowed counts after) (h : kit.Mirrored)
    : after.Mirrored := by
  cases step with
  | spawn held fresh => exact h.spawn held fresh
  | @rearrange sessionId pack container call store held rearranges performed =>
      have done := ((h.steady sessionId pack held).beside container).perform performed
      obtain ⟨weapons, armor⟩ := rearranges_keeps rearranges
      exact h.repack held rfl done.steady.alone (done.weapon weapons true)
        (done.weapon weapons false) (done.armor armor)
  | @count sessionId pack held _ fireSequence =>
      have kept : Pack.objectId { pack with fireSequence } = pack.objectId := rfl
      exact h.repack held kept (h.steady _ pack held) rfl rfl rfl
  | @equip sessionId pack container call isArmor store held equipment _ performed =>
      have done := ((h.steady sessionId pack held).beside container).perform performed
      obtain ⟨weapons, armor⟩ := equipment_keeps equipment
      exact h.equip held done.steady.alone
        (fun isArmor => ⟨done.weapon (weapons isArmor) true,
          done.weapon (weapons isArmor) false⟩)
        fun isWeapon => done.armor (armor isWeapon)
  | switch shown armed => exact h.switch shown armed
  | detach held left packs gears => exact h.detach held left packs gears

theorem Steps.mirrored {allowed : Nat → SlotStore → InventoryCall → Prop} {counts : Nat → Prop}
    (steps : kit.Steps allowed counts after) (h : kit.Mirrored)
    : after.Mirrored := by
  induction steps with
  | refl => exact h
  | tail _ step ih => exact step.mirrored ih

end Kit

-----------------------------------------------------------------------------------------
-- Every run
-----------------------------------------------------------------------------------------

namespace RoomHost

open SlotStore (Loadout)

/-- The runs of a room whose players come with loadouts. -/
def loadoutSystem (env : Environment) : Transition.System RoomHost Action :=
  .ofNext
    (fun host => host.Fresh ∧ ∀ sessionId session,
      host.room.playerSessions.lookup sessionId = some session →
        ∃ inventorySlots equipmentSlots, Loadout inventorySlots ∧ Loadout equipmentSlots
          ∧ session.inventory = .ofSlots inventorySlots equipmentSlots)
    (next env)

variable {env : Environment} {host : RoomHost}

theorem sound_of_loadouts (reached : (loadoutSystem env).Reachable host) : host.Sound := by
  induction reached with
  | initial start => exact start.1.sound
  | step _ step ih => exact (next_moves step (spawnMeets_any _ _)).sound ih

/-- Before the first spawn there is nothing to mirror, and loadouts are in order. -/
theorem mirrored_of_loadouts (fresh : host.Fresh)
    (loadouts : ∀ sessionId session, host.room.playerSessions.lookup sessionId = some session →
      ∃ inventorySlots equipmentSlots, Loadout inventorySlots ∧ Loadout equipmentSlots
        ∧ session.inventory = .ofSlots inventorySlots equipmentSlots)
    : host.room.kit.Mirrored := by
  have packed {sessionId : Nat} {pack : Pack}
      (held : host.room.kit.packs sessionId = some pack)
      : ∃ session, host.room.playerSessions.lookup sessionId = some session
        ∧ session.pack = pack := Option.map_eq_some_iff.mp held
  have unspawned {sessionId : Nat} {pack : Pack}
      (held : host.room.kit.packs sessionId = some pack)
      : pack.objectId = none := by
    obtain ⟨session, found, rfl⟩ := packed held
    exact (fresh.sessions sessionId session found).objectId
  constructor
  · intro sessionId pack held
    obtain ⟨session, found, rfl⟩ := packed held
    obtain ⟨inventorySlots, equipmentSlots, slots, equipment, same⟩ :=
      loadouts sessionId session found
    have good := SlotStore.wellFormed_inductive.initial
      { inventory := session.inventory } ⟨_, _, slots, equipment, by rw [same]⟩
    exact good.steady
  · intro sessionId otherId pack other objectId held _ current _
    cases (unspawned held).symm.trans current
  · intro sessionId pack objectId gear held current _
    cases (unspawned held).symm.trans current

/-- The kits are in accord in every reachable state. -/
theorem kit_mirrored (reached : (loadoutSystem env).Reachable host)
    : host.room.kit.Mirrored := by
  induction reached with
  | initial start =>
      exact mirrored_of_loadouts start.1 start.2
  | step reached step ih => exact (next_steps (sound_of_loadouts reached)
      (permits_any _ _) (counted_any _) step).mirrored ih

/-- In every reachable state, for every session whose current id is that of an object, the
object shows the weapons and the armor of the session's inventory, and its hand is empty only
when both weapon slots are.
-/
theorem object_mirrors_inventory (reached : (loadoutSystem env).Reachable host)
    {sessionId objectId : Nat} {session : PlayerSession} {object : PlayerObject}
    (found : host.room.playerSessions.lookup sessionId = some session)
    (current : session.objectId = some objectId)
    (located : host.room.findPlayerObject objectId = some object)
    : object.primaryWeaponId = session.inventory.primaryWeaponSlot.item.blueprintId
      ∧ object.secondaryWeaponId = session.inventory.secondaryWeaponSlot.item.blueprintId
      ∧ (object.combat.maxShield, object.combat.damageReductionRate,
          object.combat.shieldRegenPerSec)
        = armorShield session.inventory.armorSlot.item.blueprintId
      ∧ (object.currentWeaponId = 0 →
        session.inventory.primaryWeaponSlot.isEmpty = true
          ∧ session.inventory.secondaryWeaponSlot.isEmpty = true) := by
  have kits := kit_mirrored reached
  have steady := kits.steady sessionId session.pack (kit_packs found)
  have mirrors := kits.mirrors sessionId session.pack objectId object.gear (kit_packs found)
    current (kit_gears located)
  refine ⟨mirrors.primaryWeaponId, mirrors.secondaryWeaponId, mirrors.shield, fun bare => ?_⟩
  obtain ⟨primary, secondary⟩ := mirrors.armed bare
  exact ⟨steady.weapon true (mirrors.primaryWeaponId.symm.trans primary),
    steady.weapon false (mirrors.secondaryWeaponId.symm.trans secondary)⟩

/-- A room for a player with an AK-47, armor, and another weapon in the inventory. -/
def armory : RoomHost :=
  emptyMap (AList.singleton 1
    (newcomer 1 [{ item := { blueprintId := 2 }, slotIndex := 4, quantity := 1 }]
      [{ item := { blueprintId := 1 }, slotIndex := 0, quantity := 1 },
        { item := { blueprintId := 4 }, slotIndex := 2, quantity := 1 }]))

/-- Enter, spawn, and exchange the primary weapon for the other one. -/
def exchangeWeapons : List Action :=
  [request 1 1 (.channelOpen ""), request 1 2 .requestSpawnMe,
    request 1 3 (.requestEquipItem
      { actionType := 0
        equipmentSlotType := 0
        objectId := PLAYER_OBJECT_ID_SENTINEL
        objectInventoryVersion := 0
        objectSlotIdx := 4
        myInventoryVersion := 0 })]

theorem armory_reaches
    : (loadoutSystem openField).Reachable
        (endOf openField (fun _ _ _ => true) armory exchangeWeapons) := by
  have fresh : armory.Fresh := by
    refine emptyMap_fresh fun session mem => ?_
    obtain rfl := List.mem_singleton.mp mem
    exact ⟨⟨_, _, rfl⟩, rfl, rfl, rfl, rfl, rfl, rfl, rfl⟩
  have loadouts : ∀ sessionId session,
      armory.room.playerSessions.lookup sessionId = some session →
        ∃ inventorySlots equipmentSlots, Loadout inventorySlots ∧ Loadout equipmentSlots
          ∧ session.inventory = .ofSlots inventorySlots equipmentSlots := by
    intro sessionId session found
    obtain rfl := List.mem_singleton.mp (Table.mem_values_iff.mpr ⟨_, found⟩)
    refine ⟨_, _, fun slot mem => ?_, fun slot mem => ?_, rfl⟩
    · obtain rfl := List.mem_singleton.mp mem
      decide
    · rcases List.mem_pair.mp mem with rfl | rfl <;> decide
  have run := Transition.System.Run.of_replay (loadoutSystem openField).initial
    (next openField) (fun _ _ _ => true) exchangeWeapons armory armory (by decide +kernel)
  exact (run.reachable (.initial ⟨fresh, loadouts⟩)).of_restrict

/-- The exchanged weapon is seen on the object. -/
theorem exchanged_weapon_shown
    : ∃ session object,
      (endOf openField (fun _ _ _ => true) armory exchangeWeapons).room.playerSessions.lookup 1
        = some session
      ∧ (endOf openField (fun _ _ _ => true) armory exchangeWeapons).room.findPlayerObject 0
        = some object
      ∧ session.inventory.primaryWeaponSlot.item.blueprintId = 2
      ∧ object.primaryWeaponId = session.inventory.primaryWeaponSlot.item.blueprintId := by
  have reached := armory_reaches
  generalize ready : endOf openField (fun _ _ _ => true) armory exchangeWeapons = host at *
  have here : (host.room.playerSessions.lookup 1).any (fun session =>
      session.objectId == some 0
        && session.inventory.primaryWeaponSlot.item.blueprintId == 2) = true := by
    rw [← ready]
    decide +kernel
  have there : (host.room.findPlayerObject 0).isSome = true := by
    rw [← ready]
    decide +kernel
  obtain ⟨session, found, holds⟩ := (Option.any_eq_true _ _).mp here
  obtain ⟨object, located⟩ := Option.isSome_iff_exists.mp there
  simp only [Bool.and_eq_true, beq_iff_eq] at holds
  exact ⟨session, object, found, located, holds.2,
    (object_mirrors_inventory reached found holds.1 located).1⟩

end RoomHost

end ExtractionServer.Room
