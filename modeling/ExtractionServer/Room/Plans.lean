import ExtractionServer.Library.Loops
import ExtractionServer.Room.ClientPacketHandler

/-! What the requests that move items have checked when they are accepted: which slots they
name, at which versions, and which operation they perform; and what becomes of a shot.
-/

namespace ExtractionServer.Room

namespace RoomHost

-----------------------------------------------------------------------------------------
-- Resolving slots
-----------------------------------------------------------------------------------------

variable {env : Environment} {room : GameRoom} {session : PlayerSession}

theorem eq_ok_of_map_some {ε α : Type} {x : Except ε α} {candidate : Option α}
    (h : some <$> x = .ok candidate) {value : α} (same : candidate = some value)
    : x = .ok value := by
  cases x with
  | error e => cases h
  | ok reached =>
      cases h
      exact congrArg Except.ok (Option.some.inj same)

theorem resolveContainer_ok {opened : Nat × Container}
    (h : resolveContainer env room session = .ok opened)
    : session.interactingContainerId = some opened.1
      ∧ room.findContainer opened.1 = some opened.2 := by
  unfold resolveContainer at h
  split at h
  · cases h
  · next containerId mine =>
      split at h
      · next box playerObjectId located current =>
          split at h
          · cases h
            exact ⟨mine, located⟩
          · cases h
      · cases h

/-- A slot in the inventory or in the opened container, at the version the request names. -/
theorem resolveSlot_ok {inventory : PlayerInventory} {opened : Option (Nat × Container)}
    {objectId : Nat} {version : BitVec 32} {slotIdx : Nat} {ref : SlotRef}
    (h : resolveSlot inventory opened objectId version slotIdx = .ok (some ref))
    : (objectId = PLAYER_OBJECT_ID_SENTINEL ∧ version = inventory.inventoryVersion
        ∧ ∃ index, ref = .inventory index)
      ∨ (objectId ≠ PLAYER_OBJECT_ID_SENTINEL ∧ ∃ box, opened = some (objectId, box)
        ∧ version = box.containerVersion
        ∧ ∃ index < box.inventorySlots.length, ref = .container index) := by
  unfold resolveSlot at h
  split at h
  · next player =>
      split at h
      · cases h
      · next same =>
          split at h
          · next inRange =>
              cases h
              exact .inl ⟨player, not_not.mp same, _, rfl⟩
          · cases h
  · next other =>
      split at h
      · cases h
      · next containerId box =>
          split at h
          · cases h
          · next same =>
              split at h
              · cases h
              · next current =>
                  split at h
                  · next inRange =>
                      cases h
                      refine .inr ⟨other, box, ?_, not_not.mp current, _, inRange, rfl⟩
                      rw [not_not.mp same]
                  · cases h

-----------------------------------------------------------------------------------------
-- Accepted plans
-----------------------------------------------------------------------------------------

/-- What an accepted container request has checked and done. -/
structure InteractPlan (env : Environment) (room : GameRoom) (session : PlayerSession)
    (pkt : C2DRequestInteractContainerObject) (opened : Option (Nat × Container))
    (store : SlotStore) (startRef endRef : SlotRef) (moved : SlotStore)
    : Prop where
  resolved : ∀ container, opened = some container →
    resolveContainer env room session = .ok container
  needed : opened.isSome → pkt.startObjectId ≠ PLAYER_OBJECT_ID_SENTINEL
    ∨ pkt.endObjectId ≠ PLAYER_OBJECT_ID_SENTINEL
  startSlot : resolveSlot session.inventory opened pkt.startObjectId
    pkt.startObjectInventoryVersion pkt.startObjectSlotIdx = .ok (some startRef)
  endSlot : resolveSlot session.inventory opened pkt.endObjectId
    pkt.endObjectInventoryVersion pkt.endObjectSlotIdx = .ok (some endRef)
  apart : startRef ≠ endRef
  filled : ((slotStore session opened).get startRef).isEmpty = false
  moves : (slotStore session opened).interact pkt.interactType startRef endRef pkt.quantity
    = .ok moved
  result : store
    = if pkt.startObjectId = PLAYER_OBJECT_ID_SENTINEL
        ∨ pkt.endObjectId = PLAYER_OBJECT_ID_SENTINEL then moved.touchInventory
      else moved

/-- Accepted container requests, by the checks of the handler in their order. -/
theorem planInteract_ok {pkt : C2DRequestInteractContainerObject}
    {opened : Option (Nat × Container)} {store : SlotStore}
    (h : planInteract env room session pkt = .ok (opened, store))
    : ∃ startRef endRef moved,
      InteractPlan env room session pkt opened store startRef endRef moved := by
  unfold planInteract at h
  dsimp only at h
  split at h
  · obtain ⟨_, thrown, _⟩ := Except.bind_eq_ok h
    cases thrown
  split at h
  case' isTrue needed =>
    obtain ⟨candidate, container, h⟩ := Except.bind_eq_ok h
    have resolved : (∀ container, candidate = some container →
          resolveContainer env room session = .ok container)
        ∧ (candidate.isSome → pkt.startObjectId ≠ PLAYER_OBJECT_ID_SENTINEL
          ∨ pkt.endObjectId ≠ PLAYER_OBJECT_ID_SENTINEL) :=
      ⟨fun _ same => eq_ok_of_map_some container same, fun _ => needed⟩
  case' isFalse =>
    obtain ⟨candidate, container, h⟩ := Except.bind_eq_ok h
    have resolved : (∀ container, candidate = some container →
          resolveContainer env room session = .ok container)
        ∧ (candidate.isSome → pkt.startObjectId ≠ PLAYER_OBJECT_ID_SENTINEL
          ∨ pkt.endObjectId ≠ PLAYER_OBJECT_ID_SENTINEL) := by
      cases container
      exact ⟨nofun, nofun⟩
  all_goals
    obtain ⟨startSlot, start, h⟩ := Except.bind_eq_ok h
    obtain ⟨endSlot, last, h⟩ := Except.bind_eq_ok h
    rcases startSlot with _ | startRef
    · cases h
    rcases endSlot with _ | endRef
    · cases h
    dsimp only at h
    by_cases apart : startRef = endRef
    · rw [if_pos apart] at h
      obtain ⟨_, thrown, _⟩ := Except.bind_eq_ok h
      cases thrown
    rw [if_neg apart] at h
    by_cases filled : ((slotStore session candidate).get startRef).isEmpty = true
    · rw [if_pos filled] at h
      obtain ⟨_, thrown, _⟩ := Except.bind_eq_ok h
      cases thrown
    rw [if_neg filled] at h
    obtain ⟨moved, moves, h⟩ := Except.bind_eq_ok h
    refine ⟨startRef, endRef, moved, ?_⟩
    by_cases player : pkt.startObjectId = PLAYER_OBJECT_ID_SENTINEL
        ∨ pkt.endObjectId = PLAYER_OBJECT_ID_SENTINEL
    · rw [if_pos player] at h
      cases h
      exact ⟨resolved.1, resolved.2, start, last, apart, by simpa using filled, moves,
        (if_pos player).symm⟩
    · rw [if_neg player] at h
      cases h
      exact ⟨resolved.1, resolved.2, start, last, apart, by simpa using filled, moves,
        (if_neg player).symm⟩

/-- The operation that an equipment request names. -/
def equipMove (pkt : C2DRequestEquipItem) (store : SlotStore) (ref : SlotRef)
    : Except (BitVec 32) (SlotStore × Option SlotIndex) :=
  match pkt.actionType == 0, decide (pkt.equipmentSlotType ≤ 1) with
  | true, true => store.equipWeaponFromSlot ref (pkt.equipmentSlotType == 0)
  | true, false => store.equipArmorFromSlot ref
  | false, true => store.unequipWeaponToSlot ref (pkt.equipmentSlotType == 0)
  | false, false => store.unequipArmorToSlot ref

/-- What an accepted equipment request has checked and done. -/
structure EquipPlan (env : Environment) (room : GameRoom) (session : PlayerSession)
    (pkt : C2DRequestEquipItem) (opened : Option (Nat × Container)) (store : SlotStore)
    (unloadedSlotIdx : Option SlotIndex) (ref : SlotRef)
    : Prop where
  resolved : ∀ container, opened = some container →
    resolveContainer env room session = .ok container
  needed : opened.isSome → pkt.objectId ≠ PLAYER_OBJECT_ID_SENTINEL
  slot : resolveSlot session.inventory opened pkt.objectId pkt.objectInventoryVersion
    pkt.objectSlotIdx = .ok (some ref)
  version : pkt.objectId ≠ PLAYER_OBJECT_ID_SENTINEL →
    pkt.myInventoryVersion = session.inventory.inventoryVersion
  moves : equipMove pkt (slotStore session opened) ref = .ok (store, unloadedSlotIdx)

/-- Accepted equipment requests, by the checks of the handler in their order. -/
theorem planEquip_ok {pkt : C2DRequestEquipItem} {opened : Option (Nat × Container)}
    {store : SlotStore} {unloadedSlotIdx : Option SlotIndex}
    (h : planEquip env room session pkt = .ok (opened, store, unloadedSlotIdx))
    : ∃ ref, EquipPlan env room session pkt opened store unloadedSlotIdx ref := by
  unfold planEquip at h
  dsimp only at h
  split at h
  · obtain ⟨_, thrown, _⟩ := Except.bind_eq_ok h
    cases thrown
  split at h
  · obtain ⟨_, thrown, _⟩ := Except.bind_eq_ok h
    cases thrown
  split at h
  case' isTrue player =>
    obtain ⟨candidate, container, h⟩ := Except.bind_eq_ok h
    have resolved : (∀ container, candidate = some container →
          resolveContainer env room session = .ok container)
        ∧ (candidate.isSome → pkt.objectId ≠ PLAYER_OBJECT_ID_SENTINEL) := by
      cases container
      exact ⟨nofun, nofun⟩
  case' isFalse box =>
    split at h
    case' isTrue =>
      obtain ⟨_, thrown, _⟩ := Except.bind_eq_ok h
      cases thrown
    obtain ⟨candidate, container, h⟩ := Except.bind_eq_ok h
    have resolved : (∀ container, candidate = some container →
          resolveContainer env room session = .ok container)
        ∧ (candidate.isSome → pkt.objectId ≠ PLAYER_OBJECT_ID_SENTINEL) :=
      ⟨fun _ same => eq_ok_of_map_some container same, fun _ => box⟩
  all_goals
    obtain ⟨slot, resolves, h⟩ := Except.bind_eq_ok h
    rcases slot with _ | ref
    · cases h
    dsimp only at h
    refine ⟨ref, ?_⟩
    by_cases stale : pkt.objectId ≠ PLAYER_OBJECT_ID_SENTINEL
        ∧ pkt.myInventoryVersion ≠ session.inventory.inventoryVersion
    · rw [if_pos stale] at h
      obtain ⟨_, thrown, _⟩ := Except.bind_eq_ok h
      cases thrown
    rw [if_neg stale] at h
    have performed : (equipMove pkt (slotStore session candidate) ref >>= fun moved =>
        pure (candidate, moved.1, moved.2)) = .ok (opened, store, unloadedSlotIdx) := by
      revert h
      unfold equipMove
      cases pkt.actionType == 0 <;> cases decide (pkt.equipmentSlotType ≤ 1) <;> exact id
    obtain ⟨⟨result, unloaded⟩, moves, h⟩ := Except.bind_eq_ok performed
    cases h
    exact ⟨resolved.1, resolved.2, resolves,
      fun box => not_not.mp fun other => stale ⟨box, other⟩, moves⟩

-----------------------------------------------------------------------------------------
-- Shots
-----------------------------------------------------------------------------------------

/-- A shot is counted if its player takes part in the game and its number does not go back. -/
structure TakesShot (session : PlayerSession) (pkt : C2DRequestWeaponFire)
    : Prop where
  active : session.isActiveState = true
  spawned : session.objectId.isSome = true
  ahead : 0 ≤ (pkt.fireSequence - session.fireSequence).toInt

/-- The next number is expected. -/
def countShot (host : RoomHost) (sessionId : Nat) (pkt : C2DRequestWeaponFire) : RoomHost :=
  host.modifySession sessionId ({ · with fireSequence := pkt.fireSequence + 1 })

/-- A round leaves the magazine of the weapon in the object's hand. -/
def spendRound (host : RoomHost) (sessionId : Nat) (session : PlayerSession)
    (isUsingPrimary : Bool)
    : RoomHost :=
  host.modifySession sessionId fun stored =>
    { stored with
      inventory :=
        stored.inventory.setMagazineSlot isUsingPrimary
          ((session.inventory.magazineSlot isUsingPrimary).take 1) }

/-- What becomes of a shot: it is ignored, it is only counted, or it is fired. -/
inductive ShotOutcome (env : Environment) (host : RoomHost) (sessionId : Nat)
    (session : PlayerSession) (pkt : C2DRequestWeaponFire)
    : Handled → Prop
  | ignored (ignores : ¬TakesShot session pkt)
    : ShotOutcome env host sessionId session pkt (host, false)
  | wasted (takes : TakesShot session pkt)
    : ShotOutcome env host sessionId session pkt (host.countShot sessionId pkt, false)
  | fired {objectId : Nat} {object : PlayerObject} (takes : TakesShot session pkt)
      (current : session.objectId = some objectId)
      (located : host.room.findPlayerObject objectId = some object)
      (inHand : object.currentWeaponId = pkt.weaponDbid)
      (filled : (session.inventory.magazineSlot object.isUsingPrimary).isEmpty = false)
      (rounds : 0 < (session.inventory.magazineSlot object.isUsingPrimary).quantity)
    : ShotOutcome env host sessionId session pkt
        ((((host.countShot sessionId pkt).spendRound sessionId session
            object.isUsingPrimary).applyHit env objectId pkt.hitObjectId
              pkt.weaponDbid).broadcastExcept env (.broadcastWeaponFire objectId pkt.hitPoint)
                (some sessionId), true)

/-- The handler's branches, in their order. -/
theorem handleC2DRequestWeaponFire_shot (env : Environment) (host : RoomHost) (sessionId : Nat)
    (session : PlayerSession) (pkt : C2DRequestWeaponFire)
    : ShotOutcome env host sessionId session pkt
        (host.handleC2DRequestWeaponFire env sessionId session pkt) := by
  unfold handleC2DRequestWeaponFire
  split
  · next inactive =>
      refine .ignored fun takes => ?_
      simp [takes.active] at inactive
  · next active =>
      split
      · next unspawned =>
          refine .ignored fun takes => ?_
          simpa [unspawned] using takes.spawned
      · next objectId current =>
          split
          · next stale => exact .ignored fun takes => absurd takes.ahead stale.not_ge
          · next ahead =>
              have takes : TakesShot session pkt :=
                ⟨by simpa using active, by simp [current], not_lt.mp ahead⟩
              dsimp only
              split
              · exact .wasted takes
              · next object located =>
                  split
                  · exact .wasted takes
                  · next inHand =>
                      split
                      · exact .wasted takes
                      · next loaded =>
                          rw [not_or] at loaded
                          exact .fired takes current located (not_not.mp inHand)
                            (by simpa using loaded.1) (Int.not_le.mp loaded.2)

end RoomHost

end ExtractionServer.Room
