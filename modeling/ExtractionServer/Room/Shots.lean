import ExtractionServer.Library.SerialNumbers
import ExtractionServer.Room.DeathIsFinal
import ExtractionServer.Room.Mirror

/-! Shots: what an accepted one takes and does, that a refused one takes and does nothing, and
the order of the accepted ones.
-/

namespace ExtractionServer.Room

open Transport Transition

-----------------------------------------------------------------------------------------
-- Combat states
-----------------------------------------------------------------------------------------

namespace GameRoom

/-- The combat state of the object that a shot names. -/
def combatState (room : GameRoom) (objectId : Nat) : Option CombatState :=
  match room.findPlayerObject objectId with
  | some player => some player.combat
  | none => (room.findHostileNpc objectId).map (·.combat)

variable {room : GameRoom} {objectId : Nat}

theorem combatState_of_player {player : PlayerObject}
    (located : room.findPlayerObject objectId = some player)
    : room.combatState objectId = some player.combat := by
  simp [combatState, located]

theorem combatState_of_npc (noPlayer : room.findPlayerObject objectId = none) {npc : HostileNPC}
    (located : room.findHostileNpc objectId = some npc)
    : room.combatState objectId = some npc.combat := by
  simp [combatState, noPlayer, located]

@[simp] theorem combatState_modifySession (sessionId : Nat) (f : PlayerSession → PlayerSession)
    (other : Nat)
    : (room.modifySession sessionId f).combatState other = room.combatState other := rfl

theorem combatState_modifyPlayerObject {player : PlayerObject}
    (located : room.findPlayerObject objectId = some player) (f : PlayerObject → PlayerObject)
    (other : Nat)
    : (room.modifyPlayerObject objectId f).combatState other
      = if other = objectId then some (f player).combat else room.combatState other := by
  have found : (room.modifyPlayerObject objectId f).findPlayerObject other
      = if other = objectId then (room.findPlayerObject other).map f
        else room.findPlayerObject other := Table.lookup_adjust objectId other f _
  unfold combatState
  rw [found]
  by_cases same : other = objectId
  · subst same
    simp [located]
  · simp only [if_neg same]
    rfl

theorem findHostileNpc_modifyHostileNpc_eq (f : HostileNPC → HostileNPC) (other : Nat)
    : (room.modifyHostileNpc objectId f).findHostileNpc other
      = if other = objectId then (room.findHostileNpc other).map f
        else room.findHostileNpc other := by
  unfold findHostileNpc modifyHostileNpc
  rw [findNonplayerObject_modifyNonplayerObject]
  split
  · cases room.findNonplayerObject other with
    | none => rfl
    | some object => cases object <;> rfl
  · rfl

theorem findPlayerObject_modifyHostileNpc (f : HostileNPC → HostileNPC) (other : Nat)
    : (room.modifyHostileNpc objectId f).findPlayerObject other
      = room.findPlayerObject other := by
  unfold modifyHostileNpc modifyNonplayerObject
  split <;> rfl

theorem combatState_modifyHostileNpc (noPlayer : room.findPlayerObject objectId = none)
    {npc : HostileNPC} (located : room.findHostileNpc objectId = some npc)
    (f : HostileNPC → HostileNPC) (other : Nat)
    : (room.modifyHostileNpc objectId f).combatState other
      = if other = objectId then some (f npc).combat else room.combatState other := by
  unfold combatState
  rw [findPlayerObject_modifyHostileNpc, findHostileNpc_modifyHostileNpc_eq]
  split
  · next player present =>
      have apart : other ≠ objectId := by
        rintro rfl
        cases noPlayer.symm.trans present
      simp [apart]
  · split
    · next same =>
        subst same
        simp [located]
    · rfl

/-- What is removed from the dynamic objects may be gone; all others stay. -/
theorem combatState_eraseDynamic (room : GameRoom) (objectId other : Nat)
    : ({ room with dynamicObjects := AList.erase objectId room.dynamicObjects }
          : GameRoom).combatState other = room.combatState other
      ∨ other = objectId
        ∧ ({ room with dynamicObjects := AList.erase objectId room.dynamicObjects }
          : GameRoom).combatState other = none := by
  unfold combatState findPlayerObject findHostileNpc findNonplayerObject
  dsimp only
  by_cases same : other = objectId
  · subst same
    cases room.playerObjects.lookup other with
    | some player => exact .inl rfl
    | none =>
        cases room.staticObjects.lookup other with
        | some object => exact .inl rfl
        | none => exact .inr ⟨rfl, by simp⟩
  · rw [AList.lookup_erase_ne same]
    exact .inl rfl

/-- What a shot does to the objects: nothing, or damage to the one that it names, taken once.
A dead NPC is removed.
-/
inductive Struck (before : GameRoom) (shooterObjectId hitObjectId weaponId : Nat)
    (after : GameRoom)
    : Prop
  | missed (same : ∀ objectId, after.combatState objectId = before.combatState objectId)
  | hit {combat : CombatState} {spec : WeaponSpec}
      (target : before.combatState hitObjectId = some combat)
      (alive : combat.isAlive = true)
      (weapon : ItemDataManager.getWeaponSpec weaponId = some spec)
      (struck : after.combatState hitObjectId
          = some (combat.takeDamage spec.baseDamage shooterObjectId)
        ∨ (combat.takeDamage spec.baseDamage shooterObjectId).deathPending = true
          ∧ after.combatState hitObjectId = none)
      (others : ∀ other, other ≠ hitObjectId →
        after.combatState other = before.combatState other)

/-- Only combat states count. -/
theorem Struck.of_same {before same after : GameRoom}
    {shooterObjectId hitObjectId weaponId : Nat}
    (struck : before.Struck shooterObjectId hitObjectId weaponId after)
    (combat : before.combatState = same.combatState)
    : same.Struck shooterObjectId hitObjectId weaponId after := by
  cases struck with
  | missed unharmed => exact .missed fun objectId => (unharmed objectId).trans (congrFun combat _)
  | hit target alive weapon struck others =>
      exact .hit ((congrFun combat _).symm.trans target) alive weapon struck
        fun other apart => (others other apart).trans (congrFun combat _)

end GameRoom

/-- A claim for authority does not touch the combat state. -/
theorem HostileNPC.combat_applyDamageAuthority (npc : HostileNPC) (attackerObjectId : Nat)
    : (npc.applyDamageAuthority attackerObjectId).1.combat = npc.combat := by
  unfold applyDamageAuthority applyAuthorityRequest
  split
  · rfl
  · unfold applyAccepted setAggroInternal
    dsimp only
    split <;> rfl

namespace RoomHost

variable {env : Environment} {host : RoomHost}

/-- A notice about a hit changes sessions only. -/
theorem notifyHit_room (hitObjectId : Nat) (combat : CombatState) (attackerObjectId : Nat)
    : ∃ playerSessions, (host.notifyHit env hitObjectId combat attackerObjectId).room
        = { host.room with playerSessions } := by
  unfold notifyHit
  split
  · exact ⟨_, rfl⟩
  · split
    · exact ⟨_, rfl⟩
    · dsimp only
      split
      · exact ⟨_, send_room ..⟩
      · exact ⟨_, congrArg (GameRoom.modifySession · _ _) (send_room ..)⟩

theorem notifyHit_combatState (hitObjectId : Nat) (combat : CombatState)
    (attackerObjectId objectId : Nat)
    : (host.notifyHit env hitObjectId combat attackerObjectId).room.combatState objectId
      = host.room.combatState objectId := by
  obtain ⟨playerSessions, same⟩ :=
    @notifyHit_room env host hitObjectId combat attackerObjectId
  rw [same]
  rfl

/-- Removing a dead object leaves nothing of it, and leaves the others alone. -/
theorem destroyDeadObject_combatState (objectId other : Nat)
    : (host.destroyDeadObject env objectId).room.combatState other
        = host.room.combatState other
      ∨ other = objectId
        ∧ (host.destroyDeadObject env objectId).room.combatState other = none := by
  unfold destroyDeadObject
  split
  · exact .inl rfl
  · dsimp only
    rw [broadcast_room]
    exact host.room.combatState_eraseDynamic objectId other

/-- The NPC has the combat state that it is given, and may be removed when it is dead. -/
theorem settleNpcHit_combatState {hitObjectId : Nat}
    (noPlayer : host.room.findPlayerObject hitObjectId = none) {npc : HostileNPC}
    (located : host.room.findHostileNpc hitObjectId = some npc) (shooterObjectId : Nat)
    (struck : HostileNPC) (other : Nat)
    : (host.settleNpcHit env shooterObjectId hitObjectId struck).room.combatState other
        = (if other = hitObjectId then some struck.combat else host.room.combatState other)
      ∨ other = hitObjectId ∧ struck.combat.deathPending = true
        ∧ (host.settleNpcHit env shooterObjectId hitObjectId struck).room.combatState other
          = none := by
  have written := GameRoom.combatState_modifyHostileNpc noPlayer located fun _ => struck
  obtain ⟨playerSessions, told⟩ := @notifyHit_room env
    (host.modifyRoom (·.modifyHostileNpc hitObjectId fun _ => struck)) hitObjectId
    struck.combat shooterObjectId
  unfold settleNpcHit
  dsimp only
  generalize (host.modifyRoom (·.modifyHostileNpc hitObjectId fun _ => struck)).notifyHit env
    hitObjectId struck.combat shooterObjectId = notified at *
  have same : notified.room.combatState other
      = if other = hitObjectId then some struck.combat else host.room.combatState other := by
    rw [told]
    exact written other
  split
  · next dead =>
      rw [← same]
      exact (destroyDeadObject_combatState hitObjectId other).imp_right
        fun removed => ⟨removed.1, dead, removed.2⟩
  · have noPlayer : notified.room.findPlayerObject hitObjectId = none := by
      rw [told]
      exact (GameRoom.findPlayerObject_modifyHostileNpc _ hitObjectId).trans noPlayer
    have located : notified.room.findHostileNpc hitObjectId = some struck := by
      rw [told]
      exact GameRoom.findHostileNpc_modifyHostileNpc located _
    have claimed : (notified.room.modifyHostileNpc hitObjectId fun _ =>
          (struck.applyDamageAuthority shooterObjectId).1).combatState other
        = if other = hitObjectId then some struck.combat else host.room.combatState other := by
      rw [GameRoom.combatState_modifyHostileNpc noPlayer located,
        HostileNPC.combat_applyDamageAuthority, same]
      split <;> rfl
    split
    · rw [notifyNpcAuthority_room]
      exact .inl claimed
    · exact .inl claimed

/-- A shot damages at most the object that it names, and that once. -/
theorem applyHit_struck (shooterObjectId hitObjectId weaponId : Nat)
    : host.room.Struck shooterObjectId hitObjectId weaponId
        (host.applyHit env shooterObjectId hitObjectId weaponId).room := by
  unfold applyHit
  split
  · exact .missed fun _ => rfl
  · split
    · next player spec located weapon =>
        split
        · exact .missed fun _ => rfl
        · next alive =>
            refine .hit (GameRoom.combatState_of_player located) (by simpa using alive) weapon
              (.inl ?_) fun other apart => ?_
            · rw [notifyHit_combatState]
              exact (GameRoom.combatState_modifyPlayerObject located _ _).trans (if_pos rfl)
            · rw [notifyHit_combatState]
              exact (GameRoom.combatState_modifyPlayerObject located _ _).trans (if_neg apart)
    · next npc spec noPlayer located weapon =>
        split
        · exact .missed fun _ => rfl
        · next alive =>
            have settled := @settleNpcHit_combatState env host hitObjectId noPlayer npc located
              shooterObjectId
              { npc with combat := npc.combat.takeDamage spec.baseDamage shooterObjectId }
            refine .hit (GameRoom.combatState_of_npc noPlayer located) (by simpa using alive)
              weapon ?_ fun other apart => ?_
            · rcases settled hitObjectId with struck | ⟨-, dead, removed⟩
              · exact .inl (struck.trans (if_pos rfl))
              · exact .inr ⟨dead, removed⟩
            · rcases settled other with same | ⟨here, -⟩
              · exact same.trans (if_neg apart)
              · exact absurd here apart
    · exact .missed fun _ => rfl

-----------------------------------------------------------------------------------------
-- Rounds
-----------------------------------------------------------------------------------------

theorem inventories_of_packs (room : GameRoom) (sessionId : Nat)
    : (room.playerSessions.lookup sessionId).map (·.inventory)
      = (room.kit.packs sessionId).map (·.inventory) := by
  simp [GameRoom.kit, PlayerSession.pack, Function.comp_def]

/-- No session loses anything, and no object is hurt. -/
structure Spares (before after : RoomHost) : Prop where
  inventories : ∀ sessionId,
    (after.room.playerSessions.lookup sessionId).map (·.inventory)
      = (before.room.playerSessions.lookup sessionId).map (·.inventory)
  combat : ∀ objectId, after.room.combatState objectId = before.room.combatState objectId

/-- What an accepted shot takes and does: one round leaves the magazine of the weapon in hand,
nothing else leaves any inventory, and at most the named object is damaged.
-/
structure Shoots (before : RoomHost) (sessionId : Nat) (pkt : C2DRequestWeaponFire)
    (after : RoomHost) (session later : PlayerSession) (objectId : Nat) (object : PlayerObject)
    : Prop where
  found : before.room.playerSessions.lookup sessionId = some session
  current : session.objectId = some objectId
  located : before.room.findPlayerObject objectId = some object
  inHand : object.currentWeaponId = pkt.weaponDbid
  filled : (session.inventory.magazineSlot object.isUsingPrimary).isEmpty = false
  stored : after.room.playerSessions.lookup sessionId = some later
  spent : (later.inventory.magazineSlot object.isUsingPrimary).quantity + 1
    = (session.inventory.magazineSlot object.isUsingPrimary).quantity
  rest : later.inventory.setMagazineSlot object.isUsingPrimary
      (session.inventory.magazineSlot object.isUsingPrimary)
    = session.inventory
  others : ∀ other, other ≠ sessionId →
    (after.room.playerSessions.lookup other).map (·.inventory)
      = (before.room.playerSessions.lookup other).map (·.inventory)
  struck : before.room.Struck objectId pkt.hitObjectId pkt.weaponDbid after.room

variable {sessionId : Nat} {session : PlayerSession} {pkt : C2DRequestWeaponFire}

theorem Spares.refl (host : RoomHost) : Spares host host := ⟨fun _ => rfl, fun _ => rfl⟩

theorem spares_countShot (found : host.room.playerSessions.lookup sessionId = some session)
    (pkt : C2DRequestWeaponFire)
    : Spares host (host.countShot sessionId pkt) where
  inventories other := by
    rw [inventories_of_packs, inventories_of_packs, countShot_kit found]
    by_cases same : other = sessionId
    · subst same
      rw [Kit.packs_setPack_self, kit_packs found]
      rfl
    · rw [Kit.packs_setPack_ne _ same]
  combat _ := rfl

theorem quantity_take_one {slot : Slot} (rounds : 0 < slot.quantity)
    : (slot.take 1).quantity + 1 = slot.quantity := by
  unfold Slot.take
  dsimp only
  split
  · have empty : (Slot.clear { slot with quantity := slot.quantity - 1 }).quantity = 0 := rfl
    omega
  · dsimp only
    omega

theorem setMagazineSlot_back (inventory : PlayerInventory) (isPrimary : Bool) (slot : Slot)
    : (inventory.setMagazineSlot isPrimary slot).setMagazineSlot isPrimary
        (inventory.magazineSlot isPrimary)
      = inventory := by
  cases isPrimary <;> rfl

theorem magazineSlot_setMagazineSlot (inventory : PlayerInventory) (isPrimary : Bool)
    (slot : Slot)
    : (inventory.setMagazineSlot isPrimary slot).magazineSlot isPrimary = slot := by
  cases isPrimary <;> rfl

/-- A round that is spent, and damage that is dealt, are all there is to a shot. -/
theorem fires_of_packs {after : RoomHost} {objectId : Nat} {object : PlayerObject}
    (found : host.room.playerSessions.lookup sessionId = some session)
    (current : session.objectId = some objectId)
    (located : host.room.findPlayerObject objectId = some object)
    (inHand : object.currentWeaponId = pkt.weaponDbid)
    (filled : (session.inventory.magazineSlot object.isUsingPrimary).isEmpty = false)
    (rounds : 0 < (session.inventory.magazineSlot object.isUsingPrimary).quantity)
    (packs : after.room.kit.packs = (host.room.kit.setPack sessionId
      { session.pack with
        fireSequence := pkt.fireSequence + 1
        inventory := session.inventory.setMagazineSlot object.isUsingPrimary
          ((session.inventory.magazineSlot object.isUsingPrimary).take 1) }).packs)
    (struck : host.room.Struck objectId pkt.hitObjectId pkt.weaponDbid after.room)
    : ∃ later, Shoots host sessionId pkt after session later objectId object := by
  have held := (congrFun packs sessionId).trans (Kit.packs_setPack_self ..)
  obtain ⟨later, stored, same⟩ := Option.map_eq_some_iff.mp held
  have inventory : later.inventory = session.inventory.setMagazineSlot object.isUsingPrimary
      ((session.inventory.magazineSlot object.isUsingPrimary).take 1) :=
    congrArg Pack.inventory same
  refine ⟨later, found, current, located, inHand, filled, stored, ?_, ?_,
    fun other apart => ?_, struck⟩
  · rw [inventory, magazineSlot_setMagazineSlot]
    exact quantity_take_one rounds
  · rw [inventory, setMagazineSlot_back]
  · rw [inventories_of_packs, inventories_of_packs, packs, Kit.packs_setPack_ne _ apart]

/-- A shot is refused at no cost, or it is fired. -/
theorem handleC2DRequestWeaponFire_spec
    (found : host.room.playerSessions.lookup sessionId = some session)
    (pkt : C2DRequestWeaponFire)
    : ((host.handleC2DRequestWeaponFire env sessionId session pkt).2 = false →
        Spares host (host.handleC2DRequestWeaponFire env sessionId session pkt).1)
      ∧ ((host.handleC2DRequestWeaponFire env sessionId session pkt).2 = true →
        ∃ later objectId object,
          Shoots host sessionId pkt (host.handleC2DRequestWeaponFire env sessionId session pkt).1
            session later objectId object) := by
  have outcome := host.handleC2DRequestWeaponFire_shot env sessionId session pkt
  generalize host.handleC2DRequestWeaponFire env sessionId session pkt = handled at *
  cases outcome with
  | ignored => exact ⟨fun _ => .refl host, nofun⟩
  | wasted => exact ⟨fun _ => spares_countShot found pkt, nofun⟩
  | @fired objectId object takes current located inHand filled rounds =>
      refine ⟨nofun, fun _ => ?_⟩
      have stored := countShot_found found pkt
      refine (fires_of_packs found current located inHand filled rounds ?_ ?_).imp
        fun later shoots => ⟨objectId, object, shoots⟩
      · rw [broadcastExcept_room, applyHit_kit]
        refine (congrArg Kit.packs (spendRound_kit stored object.isUsingPrimary)).trans ?_
        rw [countShot_kit found]
        exact Function.update_idem ..
      · rw [broadcastExcept_room]
        exact (applyHit_struck objectId pkt.hitObjectId pkt.weaponDbid).of_same rfl

/-- The same for the whole packet handler. -/
theorem handleClientPacket_weaponFire (sessionId : Nat) (header : UDPHeader)
    (clientAddr : SockAddr) (pkt : C2DRequestWeaponFire)
    : ((host.handleClientPacket env sessionId header clientAddr (.requestWeaponFire pkt)).2
          = false →
        Spares host
          (host.handleClientPacket env sessionId header clientAddr (.requestWeaponFire pkt)).1)
      ∧ ((host.handleClientPacket env sessionId header clientAddr (.requestWeaponFire pkt)).2
          = true →
        ∃ session later objectId object,
          Shoots host sessionId pkt
            (host.handleClientPacket env sessionId header clientAddr (.requestWeaponFire pkt)).1
            session later objectId object) := by
  unfold handleClientPacket
  split
  · exact ⟨fun _ => .refl host, nofun⟩
  · next session found =>
      dsimp only
      split
      · exact ⟨fun _ => ⟨fun _ => rfl, fun _ => rfl⟩, nofun⟩
      · have heard : (host.receive env sessionId header).1.room.playerSessions.lookup sessionId
            = some session := found
        obtain ⟨refused, fired⟩ := @handleC2DRequestWeaponFire_spec env _ sessionId session heard
          pkt
        refine ⟨fun no => ?_, fun yes => ?_⟩
        · exact ⟨(refused no).inventories, (refused no).combat⟩
        · obtain ⟨later, objectId, object, shoots⟩ := fired yes
          exact ⟨session, later, objectId, object, shoots.found, shoots.current, shoots.located,
            shoots.inHand, shoots.filled, shoots.stored, shoots.spent, shoots.rest,
            shoots.others, shoots.struck⟩

end RoomHost

-----------------------------------------------------------------------------------------
-- Numbers
-----------------------------------------------------------------------------------------

/-- Where shots are not counted, the expected number stays. -/
theorem Kit.Step.fireSequence {allowed : Nat → SlotStore → InventoryCall → Prop}
    {counts : Nat → Prop} {kit after : Kit} (step : kit.Step allowed counts after)
    {sessionId : Nat} (uncounted : ¬counts sessionId)
    : (after.packs sessionId).map (·.fireSequence)
      = (kit.packs sessionId).map (·.fireSequence) := by
  have put {other : Nat} {pack changed : Pack} (held : kit.packs other = some pack)
      (same : other = sessionId → changed.fireSequence = pack.fireSequence)
      : ((kit.setPack other changed).packs sessionId).map (·.fireSequence)
        = (kit.packs sessionId).map (·.fireSequence) := by
    by_cases own : sessionId = other
    · subst own
      rw [packs_setPack_self, held, Option.map_some, Option.map_some, same rfl]
    · rw [packs_setPack_ne _ own]
  cases step with
  | spawn held _ => exact put held fun _ => rfl
  | rearrange held _ _ => exact put held fun _ => rfl
  | count held counted => exact put held fun same => absurd (same ▸ counted) uncounted
  | equip held _ _ _ =>
      rw [packs_refresh]
      exact put held fun _ => rfl
  | switch => rfl
  | detach held _ packs _ =>
      rw [packs]
      exact put held fun _ => rfl

theorem Kit.Steps.fireSequence {allowed : Nat → SlotStore → InventoryCall → Prop}
    {counts : Nat → Prop} {kit after : Kit} (steps : kit.Steps allowed counts after)
    {sessionId : Nat} (uncounted : ¬counts sessionId)
    : (after.packs sessionId).map (·.fireSequence)
      = (kit.packs sessionId).map (·.fireSequence) := by
  induction steps with
  | refl => rfl
  | tail _ step ih => exact (step.fireSequence uncounted).trans ih

instance (session : PlayerSession) (pkt : C2DRequestWeaponFire)
    : Decidable (RoomHost.TakesShot session pkt) :=
  decidable_of_iff
    (session.isActiveState = true ∧ session.objectId.isSome = true
      ∧ 0 ≤ (pkt.fireSequence - session.fireSequence).toInt)
    ⟨fun takes => ⟨takes.1, takes.2.1, takes.2.2⟩,
      fun takes => ⟨takes.active, takes.spawned, takes.ahead⟩⟩

/-- A room watched for the shots of one session: the number that the session expects next, and
the numbers of the accepted shots. Numbers are those of which the packets carry 32 bits.
-/
structure Gunfire where
  host : RoomHost
  expected : Int
  accepted : List Int

namespace Gunfire

open RoomHost (Action TakesShot loadoutSystem)

/-- The action brings a shot of the session that is counted. -/
def counts (env : Environment) (sessionId : Nat) (host : RoomHost) : Action → Bool
  | .packet sender header _ (.requestWeaponFire pkt) =>
      sender == sessionId && (host.receive env sender header).2
        && (host.room.playerSessions.lookup sender).any fun session =>
          decide (TakesShot session pkt)
  | _ => false

/-- The action brings a shot of the session that the handler accepts. -/
def accepts (env : Environment) (sessionId : Nat) (host : RoomHost) : Action → Bool
  | .packet sender header clientAddr (.requestWeaponFire pkt) =>
      sender == sessionId
        && (host.handleClientPacket env sender header clientAddr (.requestWeaponFire pkt)).2
  | _ => false

/-- An action comes with the number that its shot has, if it brings one. -/
def next (env : Environment) (sessionId : Nat) (gunfire : Gunfire) (action : Action × Int)
    : Option Gunfire :=
  (RoomHost.next env gunfire.host action.1).map fun host =>
    { host
      expected :=
        if counts env sessionId gunfire.host action.1 then action.2 + 1 else gunfire.expected
      accepted :=
        if accepts env sessionId gunfire.host action.1 then gunfire.accepted ++ [action.2]
        else gunfire.accepted }

/-- The number of a shot is the one in its packet, at most half the range from the expected
one.
-/
def near (sessionId : Nat) (gunfire : Gunfire) (action : Action × Int) : Bool :=
  match action.1 with
  | .packet sender _ _ (.requestWeaponFire pkt) =>
      sender != sessionId
        || decide (pkt.fireSequence = BitVec.ofInt 32 action.2
          ∧ action.2 ≤ gunfire.expected + 2 ^ 31 ∧ gunfire.expected ≤ action.2 + 2 ^ 31)
  | _ => true

def Expects (sessionId : Nat) (kit : Kit) (expected : Int) : Prop :=
  ∀ fireSequence ∈ (kit.packs sessionId).map (·.fireSequence),
    fireSequence = BitVec.ofInt 32 expected

/-- The runs of a room whose players come with loadouts, with numbered shots of one session. -/
def gunnery (env : Environment) (sessionId : Nat) : System Gunfire (Action × Int) :=
  (System.ofNext
    (fun gunfire => (loadoutSystem env).initial gunfire.host
      ∧ Expects sessionId gunfire.host.room.kit gunfire.expected ∧ gunfire.accepted = [])
    (next env sessionId)).restrict fun before action _ => near sessionId before action = true

/-- The accepted numbers increase and are all below the expected one. -/
structure Ordered (env : Environment) (sessionId : Nat) (gunfire : Gunfire) : Prop where
  reached : (loadoutSystem env).Reachable gunfire.host
  expects : Expects sessionId gunfire.host.room.kit gunfire.expected
  increasing : gunfire.accepted.Pairwise (· < ·)
  below : ∀ number ∈ gunfire.accepted, number < gunfire.expected

variable {env : Environment} {sessionId : Nat}

/-- Actions without a shot of the session leave its expected number alone. -/
theorem expects_next {before after : RoomHost} {action : Action} {expected : Int}
    (sound : before.Sound) (step : RoomHost.next env before action = some after)
    (other : action.counted (· ≠ sessionId))
    (expects : Expects sessionId before.room.kit expected)
    : Expects sessionId after.room.kit expected := by
  have steps := RoomHost.next_steps sound (RoomHost.permits_any before action) other step
  unfold Expects
  rw [steps.fireSequence (not_not.mpr rfl)]
  exact expects

/-- The number after a shot is expected when its pack says so. -/
theorem expects_setPack {kit : Kit} {pack : Pack} {number : Int}
    (numbered : pack.fireSequence = BitVec.ofInt 32 number + 1)
    : Expects sessionId (kit.setPack sessionId pack) (number + 1) := by
  intro fireSequence mem
  rw [Kit.packs_setPack_self] at mem
  obtain rfl := Option.mem_some.mp mem
  exact numbered.trans (BitVec.ofInt_add (n := 32) number 1).symm

/-- A counted shot is not behind the expected number, and the one after it is expected next. -/
theorem expects_shot {host : RoomHost} (header : UDPHeader) (clientAddr : SockAddr)
    {pkt : C2DRequestWeaponFire} {expected number : Int}
    (expects : Expects sessionId host.room.kit expected)
    (numbered : pkt.fireSequence = BitVec.ofInt 32 number) (near : expected ≤ number + 2 ^ 31)
    : if counts env sessionId host (.packet sessionId header clientAddr (.requestWeaponFire pkt))
      then expected ≤ number
        ∧ Expects sessionId (host.handleClientPacket env sessionId header clientAddr
            (.requestWeaponFire pkt)).1.room.kit (number + 1)
      else (host.handleClientPacket env sessionId header clientAddr
            (.requestWeaponFire pkt)).2 = false
        ∧ Expects sessionId (host.handleClientPacket env sessionId header clientAddr
            (.requestWeaponFire pkt)).1.room.kit expected := by
  unfold counts RoomHost.handleClientPacket
  simp only [BEq.rfl, Bool.true_and]
  cases found : host.room.playerSessions.lookup sessionId with
  | none => simpa using expects
  | some session =>
      cases new : (host.receive env sessionId header).2 with
      | false => exact ⟨rfl, expects⟩
      | true =>
          have outcome := (host.receive env sessionId header).1.handleC2DRequestWeaponFire_shot
            env sessionId session pkt
          simp only [Bool.not_true, Bool.false_eq_true, if_false, Bool.true_and,
            Option.any_some, decide_eq_true_eq, RoomHost.dispatch]
          generalize (host.receive env sessionId header).1.handleC2DRequestWeaponFire env
            sessionId session pkt = handled at *
          have held : Expects sessionId (host.receive env sessionId header).1.room.kit expected :=
            expects
          have ahead (takes : TakesShot session pkt) : expected ≤ number := by
            have register := expects session.fireSequence (by simp [RoomHost.kit_packs found,
              PlayerSession.pack])
            have forward := takes.ahead
            rw [register, numbered] at forward
            exact SerialNumber.le_of_toInt_sub_nonneg (by decide) near forward
          have heard : (host.receive env sessionId header).1.room.playerSessions.lookup sessionId
              = some session := found
          cases outcome with
          | ignored ignores =>
              rw [if_neg ignores]
              exact ⟨rfl, held⟩
          | wasted takes =>
              rw [if_pos takes, RoomHost.countShot_kit heard]
              exact ⟨ahead takes, expects_setPack (congrArg (· + 1) numbered)⟩
          | @fired objectId object takes =>
              have stored := RoomHost.countShot_found heard pkt
              have spent := RoomHost.spendRound_kit stored object.isUsingPrimary
              rw [if_pos takes, RoomHost.broadcastExcept_room, RoomHost.applyHit_kit]
              refine ⟨ahead takes, Eq.mpr (congrArg (Expects sessionId · _) spent) ?_⟩
              exact expects_setPack (congrArg (· + 1) numbered)

theorem Ordered.next {before after : Gunfire} {action : Action × Int}
    (h : before.Ordered env sessionId) (isNear : near sessionId before action = true)
    (step : next env sessionId before action = some after)
    : after.Ordered env sessionId := by
  obtain ⟨host, moved, rfl⟩ := Option.map_eq_some_iff.mp step
  have reached : (loadoutSystem env).Reachable host := .step h.reached moved
  have sound := RoomHost.sound_of_loadouts h.reached
  by_cases own : action.1.counted (· ≠ sessionId)
  · have silent : counts env sessionId before.host action.1 = false
        ∧ accepts env sessionId before.host action.1 = false := by
      unfold counts accepts
      unfold RoomHost.Action.counted at own
      split at own <;> simp_all
    have expects := expects_next sound moved own h.expects
    refine ⟨reached, ?_, ?_, ?_⟩
    all_goals simp only [silent, Bool.false_eq_true, if_false]
    · exact expects
    · exact h.increasing
    · exact h.below
  · obtain ⟨header, clientAddr, pkt, same⟩ : ∃ header clientAddr pkt,
        action.1 = .packet sessionId header clientAddr (.requestWeaponFire pkt) := by
      unfold RoomHost.Action.counted at own
      split at own
      · next sender header clientAddr pkt same => exact ⟨header, clientAddr, pkt, by simp_all⟩
      · exact absurd trivial own
    obtain ⟨numbered, -, behind⟩ : pkt.fireSequence = BitVec.ofInt 32 action.2
        ∧ action.2 ≤ before.expected + 2 ^ 31 ∧ before.expected ≤ action.2 + 2 ^ 31 := by
      simpa [near, same] using isNear
    have shot := @expects_shot env _ _ header clientAddr _ _ _ h.expects numbered behind
    rw [same] at moved ⊢
    obtain rfl := Option.some.inj moved
    cases counted : counts env sessionId before.host
        (.packet sessionId header clientAddr (.requestWeaponFire pkt)) with
    | false =>
        rw [counted] at shot
        have refused : accepts env sessionId before.host
            (.packet sessionId header clientAddr (.requestWeaponFire pkt)) = false := by
          simp only [accepts, BEq.rfl, Bool.true_and]
          exact shot.1
        refine ⟨reached, ?_, ?_, ?_⟩
        all_goals simp only [refused, Bool.false_eq_true, if_false]
        · exact shot.2
        · exact h.increasing
        · exact h.below
    | true =>
        rw [counted] at shot
        have above (number : Int) (mem : number ∈ before.accepted) : number < action.2 :=
          (h.below number mem).trans_le shot.1
        refine ⟨reached, ?_, ?_, ?_⟩
        all_goals simp only [if_true]
        · exact shot.2
        · split
          · refine List.pairwise_append.mpr ⟨h.increasing, List.pairwise_singleton .., ?_⟩
            intro number mem last only
            rw [List.mem_singleton.mp only]
            exact above number mem
          · exact h.increasing
        · intro number mem
          split at mem
          · rcases List.mem_append.mp mem with old | only
            · exact (above number old).trans (Int.lt_succ _)
            · rw [List.mem_singleton.mp only]
              exact Int.lt_succ _
          · exact (above number mem).trans (Int.lt_succ _)

theorem ordered_of_reachable {gunfire : Gunfire}
    (reached : (gunnery env sessionId).Reachable gunfire)
    : gunfire.Ordered env sessionId := by
  induction reached with
  | initial start =>
      obtain ⟨loadouts, expects, none⟩ := start
      refine ⟨.initial loadouts, expects, ?_, ?_⟩
      all_goals rw [none]
      · exact .nil
      · exact fun _ mem => absurd mem List.not_mem_nil
  | step _ step ih => exact ih.next step.2 step.1

/-- The magazine that a shot is fired from is that of the weapon in hand. -/
theorem weapon_of_fires {before after : RoomHost} {pkt : C2DRequestWeaponFire}
    {session later : PlayerSession} {objectId : Nat} {object : PlayerObject}
    (reached : (loadoutSystem env).Reachable before)
    (shoots : before.Shoots sessionId pkt after session later objectId object)
    : (session.inventory.weaponSlot object.isUsingPrimary).item.blueprintId = pkt.weaponDbid
      ∧ pkt.weaponDbid ≠ 0 := by
  have kits := RoomHost.kit_mirrored reached
  have held := RoomHost.kit_packs shoots.found
  have mirrors := kits.mirrors sessionId session.pack objectId object.gear held shoots.current
    (RoomHost.kit_gears shoots.located)
  have weapon : (session.inventory.weaponSlot object.isUsingPrimary).item.blueprintId
      = object.currentWeaponId := by
    unfold PlayerObject.currentWeaponId
    cases object.isUsingPrimary with
    | true => exact mirrors.primaryWeaponId.symm
    | false => exact mirrors.secondaryWeaponId.symm
  rw [← shoots.inHand, ← weapon]
  exact ⟨rfl, (kits.steady sessionId session.pack held).armed _ shoots.filled⟩

/-- The shots of a session, whatever else happens in its room: the accepted ones have
increasing numbers; each takes one round from the magazine of the weapon in hand and damages at
most one object, once; a shot that is not accepted takes none and damages nothing.
-/
theorem shots_accounted {gunfire : Gunfire} (reached : (gunnery env sessionId).Reachable gunfire)
    : gunfire.accepted.Pairwise (· < ·)
      ∧ ∀ header clientAddr pkt after accepted,
        gunfire.host.handleClientPacket env sessionId header clientAddr (.requestWeaponFire pkt)
          = (after, accepted) →
        (accepted = false → gunfire.host.Spares after)
        ∧ (accepted = true → ∃ session later objectId object,
          gunfire.host.Shoots sessionId pkt after session later objectId object
          ∧ (session.inventory.weaponSlot object.isUsingPrimary).item.blueprintId
            = pkt.weaponDbid
          ∧ pkt.weaponDbid ≠ 0) := by
  have ordered := ordered_of_reachable reached
  refine ⟨ordered.increasing, fun header clientAddr pkt after accepted handled => ?_⟩
  obtain ⟨refused, fired⟩ :=
    @RoomHost.handleClientPacket_weaponFire env gunfire.host sessionId header clientAddr pkt
  rw [handled] at refused fired
  refine ⟨refused, fun yes => ?_⟩
  obtain ⟨session, later, objectId, object, shoots⟩ := fired yes
  exact ⟨session, later, objectId, object, shoots, weapon_of_fires ordered.reached shoots⟩

/-- The duel, before anybody has fired. -/
def peace : Gunfire := { host := RoomHost.duel, expected := 0, accepted := [] }

theorem peace_initial
    : (loadoutSystem RoomHost.openField).initial peace.host
      ∧ Expects 1 peace.host.room.kit peace.expected ∧ peace.accepted = [] := by
  refine ⟨⟨RoomHost.duel_fresh, fun sessionId session found => ?_⟩, ?_, rfl⟩
  · have mem := Table.mem_values_iff.mpr ⟨sessionId, found⟩
    rcases List.mem_pair.mp mem with rfl | rfl
    · refine ⟨_, _, fun slot mem => ?_, fun slot mem => ?_, rfl⟩
      all_goals
        obtain rfl := List.mem_singleton.mp mem
        decide
    · exact ⟨[], [], fun _ mem => absurd mem List.not_mem_nil,
        fun _ mem => absurd mem List.not_mem_nil, rfl⟩
  · intro fireSequence mem
    cases mem
    rfl

/-- One shot of a session. -/
def shot (sequence : BitVec 32) (number : Int) : Action × Int :=
  (RoomHost.request 1 sequence (.requestWeaponFire
    { fireSequence := BitVec.ofInt 32 number, weaponDbid := 1, hitObjectId := 1 }), number)

/-- Both players spawn; then the first shoots, repeats an old number, and shoots again. -/
def volley : List (Action × Int) :=
  [(RoomHost.request 1 1 (.channelOpen ""), 0), (RoomHost.request 1 2 .requestSpawnMe, 0),
    (RoomHost.request 2 1 (.channelOpen ""), 0), (RoomHost.request 2 2 .requestSpawnMe, 0),
    shot 3 5, shot 4 3, shot 5 6]

def volleyed : Gunfire :=
  (Transition.replay (next RoomHost.openField 1) (fun before action _ => near 1 before action)
    peace volley).getD peace

theorem volleyed_reachable : (gunnery RoomHost.openField 1).Reachable volleyed := by
  have run := System.Run.of_replay
    (fun gunfire : Gunfire => (loadoutSystem RoomHost.openField).initial gunfire.host
      ∧ Expects 1 gunfire.host.room.kit gunfire.expected ∧ gunfire.accepted = [])
    (next RoomHost.openField 1) (fun before action _ => near 1 before action) volley peace peace
    (by decide +kernel)
  exact run.reachable (.initial peace_initial)

/-- The next shot. -/
def nextShot : C2DRequestWeaponFire :=
  { fireSequence := 7, weaponDbid := 1, hitObjectId := 1 }

def nextHeader : UDPHeader where
  packetId := 0
  sessionId := 1
  rSeqNum := 6
  uSeqNum := 0
  flags := FLAG_RELIABLE

/-- Two of the three shots were accepted, and the next one takes a round. -/
theorem volley_accounted
    : volleyed.accepted = [5, 6] ∧ volleyed.accepted.Pairwise (· < ·)
      ∧ ∃ after session later objectId object,
        volleyed.host.Shoots 1 nextShot after session later objectId object := by
  have reached := volleyed_reachable
  have here : volleyed.accepted = [5, 6] := by decide +kernel
  have fired : (volleyed.host.handleClientPacket RoomHost.openField 1 nextHeader {}
      (.requestWeaponFire nextShot)).2 = true := by decide +kernel
  generalize volleyed = gunfire at *
  obtain ⟨increasing, accounted⟩ := shots_accounted reached
  obtain ⟨session, later, objectId, object, shoots, -⟩ :=
    (accounted nextHeader {} nextShot _ true (Prod.ext rfl fired)).2 rfl
  exact ⟨here, increasing, _, session, later, objectId, object, shoots⟩

end Gunfire

end ExtractionServer.Room
