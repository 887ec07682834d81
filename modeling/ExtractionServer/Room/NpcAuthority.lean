import ExtractionServer.Room.PlainSteps

/-! The authority over NPCs. Its aggro is least exactly when nobody has it, it passes to a
stronger claim or back to nobody, and every change is announced once.
-/

namespace ExtractionServer.Room

open Transport

-----------------------------------------------------------------------------------------
-- One NPC
-----------------------------------------------------------------------------------------

/-- The aggro keeps to its bounds, and is least exactly when nobody has the authority. -/
structure Authority.Governed (authority : Authority) : Prop where
  bounds : authority.minAggro < authority.maxAggro
  least : authority.minAggro ≤ authority.aggro
  most : authority.aggro ≤ authority.maxAggro
  idle : authority.aggro = authority.minAggro ↔ authority.targetId = none

namespace HostileNPC

/-- An NPC as its map places it. -/
structure Placed (objectId : Nat) (npc : HostileNPC) : Prop where
  objectId : npc.base.objectId = objectId
  bounds : npc.minAggro < npc.maxAggro
  aggro : npc.aggro = npc.minAggro
  targetId : npc.targetId = none

theorem Placed.governed {objectId : Nat} {npc : HostileNPC} (h : npc.Placed objectId)
    : npc.authority.Governed where
  bounds := h.bounds
  least := Int.le_of_eq h.aggro.symm
  most := h.aggro.le.trans h.bounds.le
  idle := ⟨fun _ => h.targetId, fun _ => h.aggro⟩

theorem turret_placed (objectId : Nat) (position : Vector3) (yawAngle : BitVec 32)
    : (Turret.create objectId position yawAngle).Placed objectId :=
  ⟨rfl, (by decide : (1 : Int) < 8), rfl, rfl⟩

/-- How an NPC answers a request: it refuses, only its aggro changes, or it changes hands for
a reason.
-/
inductive Answer (npc : HostileNPC) (reason : Option Nat → Prop)
    : HostileNPC × RequestResult → Prop
  | rejected : Answer npc reason (npc, .rejected)
  | aggroChanged (aggro : Int) (governed : { npc with aggro }.authority.Governed)
      : Answer npc reason ({ npc with aggro }, .aggroChanged)
  | authorityChanged (aggro : Int) (targetId : Option Nat)
      (governed : { npc with aggro, targetId }.authority.Governed)
      (changed : targetId ≠ npc.targetId) (because : reason targetId)
      : Answer npc reason ({ npc with aggro, targetId }, .authorityChanged)

variable {npc : HostileNPC}

theorem clampAggro_bounds (bounds : npc.minAggro < npc.maxAggro) (aggro : Int)
    : npc.minAggro ≤ npc.clampAggro aggro ∧ npc.clampAggro aggro ≤ npc.maxAggro := by
  unfold clampAggro
  split
  · exact ⟨Int.le_refl _, bounds.le⟩
  · split
    · exact ⟨bounds.le, Int.le_refl _⟩
    · omega

/-- A claim above the least aggro gives the requester the authority. -/
theorem applyAccepted_answer (governed : npc.authority.Governed)
    {reason : Option Nat → Prop} {requester : Nat} {aggro : Int}
    (above : npc.minAggro < npc.clampAggro aggro)
    (because : npc.targetId ≠ some requester → reason (some requester))
    : npc.Answer reason (npc.applyAccepted aggro requester) := by
  have bounded := clampAggro_bounds governed.bounds aggro
  have moved : ∀ targetId, targetId = some requester →
      ({ npc with aggro := npc.clampAggro aggro, targetId }).authority.Governed := by
    rintro _ rfl
    refine ⟨governed.bounds, bounded.1, bounded.2, fun equal => ?_, fun none => ?_⟩
    · exact absurd equal above.ne'
    · cases none
  unfold applyAccepted setAggroInternal
  simp only [above.ne', reduceCtorEq, or_self, if_false]
  by_cases holder : npc.targetId = some requester
  · simp only [holder, ne_eq, not_true_eq_false, if_false]
    rw [← holder]
    exact .aggroChanged _ (moved _ holder)
  · rw [if_pos (Ne.symm holder)]
    exact .authorityChanged _ _ (moved _ rfl) (Ne.symm holder) (because holder)

/-- A request for authority must exceed the current aggro. -/
theorem applyAuthorityRequest_answer (governed : npc.authority.Governed) (requester : Nat)
    (aggro : Int)
    : npc.Answer (fun target => target = some requester ∧ npc.aggro < npc.clampAggro aggro)
        (npc.applyAuthorityRequest requester aggro) := by
  unfold applyAuthorityRequest
  split
  · exact .rejected
  · next weaker =>
      have stronger := Int.not_le.mp weaker
      have least : npc.minAggro ≤ npc.aggro := governed.least
      exact applyAccepted_answer governed (by omega) fun _ => ⟨rfl, stronger⟩

/-- The holder may change its aggro, and the least aggro hands the NPC back. -/
theorem applyAggroRequest_answer (governed : npc.authority.Governed) (requester : Nat)
    (aggro : Int)
    : npc.Answer (fun target => target = none ∧ npc.targetId = some requester)
        (npc.applyAggroRequest requester aggro) := by
  unfold applyAggroRequest
  by_cases holder : npc.isAuthority requester = true
  · have held : npc.targetId = some requester := eq_of_beq holder
    rw [holder, Bool.not_true, if_neg Bool.false_ne_true]
    by_cases back : npc.clampAggro aggro = npc.minAggro
    · have released : npc.applyAccepted aggro requester
          = ({ npc with aggro := npc.minAggro, targetId := none }, .authorityChanged) := by
        simp [applyAccepted, setAggroInternal, back, held]
      rw [released]
      refine .authorityChanged _ _ ?_ (held ▸ Option.some_ne_none requester).symm ⟨rfl, held⟩
      exact ⟨governed.bounds, Int.le_refl _, governed.bounds.le, fun _ => rfl, fun _ => rfl⟩
    · have bounded := clampAggro_bounds governed.bounds aggro
      exact applyAccepted_answer governed (by omega) fun other => absurd held other
  · rw [if_pos (by simpa using holder)]
    exact .rejected

/-- A released NPC is idle. -/
theorem releaseAuthority_released {holder : Nat} (held : npc.targetId = some holder)
    : npc.releaseAuthority
      = ({ npc with aggro := npc.minAggro, targetId := none }, true) := by
  simp [releaseAuthority, isServerDriven, held, setAggroInternal]

end HostileNPC

-----------------------------------------------------------------------------------------
-- One turn as an NPC sees it
-----------------------------------------------------------------------------------------

namespace RoomHost

/-- The sessions of the room, as datagrams address them. -/
def sessionIds (host : RoomHost) : List (BitVec 16) :=
  host.room.playerSessions.keys.map (BitVec.ofNat 16)

/-- Nobody else gets the authority over an NPC, and nothing is said about it. -/
structure Kept (before after : RoomHost) (objectId : Nat) : Prop where
  authority : ∀ new, after.room.npcAuthority objectId = some new →
    ∃ old, before.room.npcAuthority objectId = some old ∧ new.objectId = old.objectId
      ∧ new.targetId = old.targetId ∧ (old.Governed → new.Governed)
  notices : after.authorityNotices objectId = before.authorityNotices objectId

/-- Not even the aggro of an NPC changes. -/
structure Unmoved (before after : RoomHost) (objectId : Nat) : Prop where
  authority : ∀ authority, after.room.npcAuthority objectId = some authority →
    before.room.npcAuthority objectId = some authority
  notices : after.authorityNotices objectId = before.authorityNotices objectId

/-- One notice of the authority over an NPC went to everybody who may still hear it. -/
structure Told (before after : RoomHost) (objectId : Nat) (targetId : Option Nat)
    (aggro : Int) (audience : List (BitVec 16))
    : Prop where
  members : audience.Sublist before.sessionIds
  hears : after.receivers.Sublist audience
  notices : after.authorityNotices objectId = before.authorityNotices objectId
    ++ audience.map fun sessionId => (sessionId, targetId, aggro)

/-- An NPC changes hands for a reason, and everybody is told. -/
structure HandedOver (reason : Authority → Option Nat → Prop) (before after : RoomHost)
    (objectId : Nat) (old new : Authority)
    : Prop where
  held : before.room.npcAuthority objectId = some old
  holds : ∀ authority, after.room.npcAuthority objectId = some authority → authority = new
  sameId : new.objectId = old.objectId
  governed : old.Governed → new.Governed
  changed : new.targetId ≠ old.targetId
  because : reason old new.targetId
  told : ∃ audience, Told before after objectId new.targetId new.aggro audience

def NpcTurn (reason : Authority → Option Nat → Prop) (before after : RoomHost)
    (objectId : Nat)
    : Prop :=
  Kept before after objectId ∨ ∃ old new, HandedOver reason before after objectId old new

variable {reason : Authority → Option Nat → Prop} {before middle after : RoomHost}
  {objectId : Nat}

theorem Unmoved.kept (h : Unmoved before after objectId) : Kept before after objectId :=
  ⟨fun new held => ⟨new, h.authority new held, rfl, rfl, id⟩, h.notices⟩

theorem NpcQuiet.unmoved (h : NpcQuiet before after) (objectId : Nat)
    : Unmoved before after objectId :=
  ⟨h.npcs objectId, h.notices objectId⟩

namespace NpcTurn

theorem mono {weaker : Authority → Option Nat → Prop}
    (turn : NpcTurn reason before after objectId)
    (weaken : ∀ old target, reason old target → weaker old target)
    : NpcTurn weaker before after objectId := by
  rcases turn with kept | ⟨old, new, handed⟩
  · exact .inl kept
  · exact .inr ⟨old, new, { handed with because := weaken _ _ handed.because }⟩

/-- A quiet start. -/
theorem of_start (start : NpcQuiet before middle)
    (members : middle.room.playerSessions.keys = before.room.playerSessions.keys)
    (turn : NpcTurn reason middle after objectId)
    : NpcTurn reason before after objectId := by
  rcases turn with kept | ⟨old, new, handed⟩
  · refine .inl ⟨fun new held => ?_, kept.notices.trans (start.notices objectId)⟩
    obtain ⟨old, present, same⟩ := kept.authority new held
    exact ⟨old, start.npcs objectId old present, same⟩
  · obtain ⟨audience, told⟩ := handed.told
    have sessionIds : middle.sessionIds = before.sessionIds :=
      congrArg (List.map (BitVec.ofNat 16)) members
    refine .inr ⟨old, new,
      { handed with
        held := start.npcs objectId old handed.held
        told := ⟨audience, sessionIds ▸ told.members, told.hears, ?_⟩ }⟩
    rw [told.notices, start.notices]

/-- A quiet end. -/
theorem of_end (turn : NpcTurn reason before middle objectId)
    (finish : NpcQuiet middle after) (hears : after.receivers.Sublist middle.receivers)
    : NpcTurn reason before after objectId := by
  rcases turn with kept | ⟨old, new, handed⟩
  · exact .inl
      ⟨fun new held => kept.authority new (finish.npcs objectId new held),
        (finish.notices objectId).trans kept.notices⟩
  · obtain ⟨audience, told⟩ := handed.told
    exact .inr ⟨old, new,
      { handed with
        holds := fun authority held => handed.holds _ (finish.npcs objectId authority held)
        told := ⟨audience, told.members, hears.trans told.hears,
          (finish.notices objectId).trans told.notices⟩ }⟩

end NpcTurn

theorem receivers_sublist (host : RoomHost) : host.receivers.Sublist host.sessionIds := by
  unfold receivers sessionIds AList.keys List.keys
  rw [List.map_map]
  exact List.filter_sublist.map _

section Writes

variable {host : RoomHost} {room : GameRoom} {npcId : Nat} {npc : HostileNPC}
  {old : Authority}

/-- The room after a write to one NPC. -/
structure WritesNpc (before after : GameRoom) (npcId : Nat) (npc : HostileNPC) : Prop where
  sessions : after.playerSessions = before.playerSessions
  npcs : ∀ objectId, after.npcAuthority objectId
    = if objectId = npcId then some npc.authority else before.npcAuthority objectId

/-- A write that leaves the holder. -/
theorem WritesNpc.kept (writes : WritesNpc host.room room npcId npc)
    (held : host.room.npcAuthority npcId = some old)
    (named : npc.base.objectId = old.objectId) (same : npc.targetId = old.targetId)
    (governed : old.Governed → npc.authority.Governed) (objectId : Nat)
    : Kept host (host.modifyRoom fun _ => room) objectId := by
  refine ⟨fun new stored => ?_, rfl⟩
  have written : room.npcAuthority objectId = some new := stored
  rw [writes.npcs] at written
  split at written
  · next here =>
      subst here
      cases written
      exact ⟨old, held, named, same, governed⟩
  · exact ⟨new, written, rfl, rfl, id⟩

/-- A write that changes the holder, with its notice. -/
theorem WritesNpc.announced (env : Environment) (writes : WritesNpc host.room room npcId npc)
    (held : host.room.npcAuthority npcId = some old)
    (named : npc.base.objectId = npcId) (sameId : old.objectId = npcId)
    (governed : npc.authority.Governed) (changed : npc.targetId ≠ old.targetId)
    (because : reason old npc.targetId)
    : HandedOver reason host ((host.modifyRoom fun _ => room).notifyNpcAuthority env npc) npcId
        old npc.authority := by
  have afterRoom : ((host.modifyRoom fun _ => room).notifyNpcAuthority env npc).room = room :=
    broadcast_room env _ _
  have notices := notifyNpcAuthority_notices env (host.modifyRoom fun _ => room) npc npcId
  refine ⟨held, fun authority stored => ?_, named.trans sameId.symm, fun _ => governed, changed,
    because, host.receivers, host.receivers_sublist, ?_, ?_⟩
  · rw [afterRoom, writes.npcs, if_pos rfl] at stored
    exact (Option.some.inj stored).symm
  · unfold RoomHost.receivers
    rw [afterRoom, writes.sessions]
  · rw [notices, if_pos named]
    unfold RoomHost.receivers
    rw [← writes.sessions]
    rfl

/-- Other NPCs do not notice. -/
theorem WritesNpc.announced_other (env : Environment)
    (writes : WritesNpc host.room room npcId npc) (named : npc.base.objectId = npcId)
    (other : objectId ≠ npcId)
    : Unmoved host ((host.modifyRoom fun _ => room).notifyNpcAuthority env npc) objectId := by
  have afterRoom : ((host.modifyRoom fun _ => room).notifyNpcAuthority env npc).room = room :=
    broadcast_room env _ _
  refine ⟨fun authority stored => ?_, ?_⟩
  · rwa [afterRoom, writes.npcs, if_neg other] at stored
  · rw [notifyNpcAuthority_notices env (host.modifyRoom fun _ => room) npc objectId,
      if_neg fun same => other (same.symm.trans named)]
    exact List.append_nil _

end Writes

-----------------------------------------------------------------------------------------
-- Claims
-----------------------------------------------------------------------------------------

end RoomHost

/-- An NPC that lookups find. -/
structure GameRoom.HasNpc (room : GameRoom) (npcId : Nat) (npc : HostileNPC) : Prop where
  dynamic : npcId ∉ room.staticObjects
  stored : room.dynamicObjects.lookup npcId = some (.hostileNpc npc)

namespace GameRoom.HasNpc

variable {room : GameRoom} {npcId : Nat} {npc : HostileNPC}

theorem of_find (layout : room.Layout) (found : room.findHostileNpc npcId = some npc)
    : room.HasNpc npcId npc :=
  have present := layout.dynamic_of_findHostileNpc found
  ⟨present.1, present.2⟩

theorem authority (h : room.HasNpc npcId npc)
    : room.npcAuthority npcId = some npc.authority := by
  rw [npcAuthority, h.stored]
  rfl

theorem modifyHostileNpc (h : room.HasNpc npcId npc) (f : HostileNPC → HostileNPC)
    : (room.modifyHostileNpc npcId f).HasNpc npcId (f npc) := by
  unfold GameRoom.modifyHostileNpc modifyNonplayerObject
  rw [if_neg h.dynamic]
  refine ⟨h.dynamic, ?_⟩
  rw [Table.lookup_adjust_self, h.stored]
  rfl

theorem writes (h : room.HasNpc npcId npc) (changed : HostileNPC)
    : RoomHost.WritesNpc room (room.modifyHostileNpc npcId fun _ => changed) npcId changed := by
  refine ⟨room.modifyHostileNpc_playerSessions npcId _, fun objectId => ?_⟩
  split
  · next here =>
      subst here
      exact (h.modifyHostileNpc fun _ => changed).authority
  · next other =>
      unfold GameRoom.modifyHostileNpc modifyNonplayerObject
      rw [if_neg h.dynamic, npcAuthority, Table.lookup_adjust_ne other]
      rfl

end GameRoom.HasNpc

namespace RoomHost

variable {before middle after : RoomHost} {npcId : Nat} {npc : HostileNPC}

/-- A stretch of a step. -/
structure NpcStep (reason : Nat → Authority → Option Nat → Prop) (before after : RoomHost)
    : Prop where
  recorded : before.Recorded → after.Recorded
  turn : ∀ objectId, NpcTurn (reason objectId) before after objectId

theorem NpcQuiet.step (h : NpcQuiet before after)
    (reason : Nat → Authority → Option Nat → Prop)
    : NpcStep reason before after :=
  ⟨h.recorded, fun objectId => .inl (h.unmoved objectId).kept⟩

/-- What a request and a hit do with the answer of the NPC. -/
def acceptAnswer (env : Environment) (host : RoomHost) (npcId : Nat)
    (answer : HostileNPC × HostileNPC.RequestResult)
    : RoomHost :=
  let host := host.modifyRoom (·.modifyHostileNpc npcId fun _ => answer.1)
  if answer.2 = .authorityChanged then host.notifyNpcAuthority env answer.1 else host

theorem acceptAnswer_agenda (env : Environment) (host : RoomHost) (npcId : Nat)
    (answer : HostileNPC × HostileNPC.RequestResult)
    : (host.acceptAnswer env npcId answer).agenda = host.agenda := by
  have written : (host.modifyRoom (·.modifyHostileNpc npcId fun _ => answer.1)).agenda
      = host.agenda :=
    congrArg (Agenda.mk · _ _) (host.room.modifyHostileNpc_term npcId _)
  unfold acceptAnswer
  dsimp only
  split
  · exact (broadcastExcept_agenda env _ _ none).trans written
  · exact written

theorem acceptAnswer_recall (env : Environment) (host : RoomHost) (npcId : Nat)
    (answer : HostileNPC × HostileNPC.RequestResult)
    : RecallQuiet host (host.acceptAnswer env npcId answer) := by
  refine .of_sessions ?_ (recallTimers_of_agenda (host.acceptAnswer_agenda env npcId answer))
  have written := host.room.modifyHostileNpc_playerSessions npcId fun _ => answer.1
  unfold acceptAnswer
  dsimp only
  split
  · exact (congrArg GameRoom.playerSessions (broadcast_room env _ _)).trans written
  · exact written

/-- The answer to a claim is a stretch of a step. -/
theorem acceptAnswer_step (env : Environment) {host : RoomHost}
    (has : host.room.HasNpc npcId npc) (named : npc.base.objectId = npcId)
    {reason : Option Nat → Prop} {answer : HostileNPC × HostileNPC.RequestResult}
    (answered : npc.Answer reason answer)
    : NpcStep (fun objectId _ target => objectId = npcId ∧ reason target) host
        (host.acceptAnswer env npcId answer) := by
  have recorded : host.Recorded → (host.acceptAnswer env npcId answer).Recorded := by
    unfold acceptAnswer
    dsimp only
    split
    · exact broadcastExcept_recorded env (host.modifyRoom _) _ none
    · exact id
  refine ⟨recorded, fun objectId => ?_⟩
  cases answered with
  | rejected =>
      exact .inl ((has.writes npc).kept has.authority rfl rfl id objectId)
  | aggroChanged aggro changed =>
      exact .inl ((has.writes { npc with aggro }).kept has.authority rfl rfl (fun _ => changed)
        objectId)
  | authorityChanged aggro targetId changed moved because =>
      have written := has.writes { npc with aggro, targetId }
      by_cases here : objectId = npcId
      · subst here
        exact .inr ⟨_, _, written.announced env has.authority named named changed moved
          ⟨rfl, because⟩⟩
      · exact .inl (written.announced_other env named here).kept

theorem applyNpcRequest_cases (env : Environment) (host : RoomHost) (session : PlayerSession)
    (npcId : Nat) (apply : HostileNPC → Nat → HostileNPC × HostileNPC.RequestResult)
    : (host.applyNpcRequest env session npcId apply).1 = host
      ∨ ∃ requester npc, session.objectId = some requester
        ∧ host.room.findHostileNpc npcId = some npc
        ∧ (host.applyNpcRequest env session npcId apply).1
          = host.acceptAnswer env npcId (apply npc requester) := by
  unfold applyNpcRequest
  split
  · exact .inl rfl
  · next requester npc resolved =>
      have request : session.objectId = some requester
          ∧ host.room.findHostileNpc npcId = some npc := by
        unfold resolveHostileNpcRequest at resolved
        split at resolved
        · cases resolved
        · split at resolved
          · next current found =>
              cases resolved
              exact ⟨current, found⟩
          · cases resolved
      refine .inr ⟨requester, npc, request.1, request.2, ?_⟩
      unfold acceptAnswer
      generalize apply npc requester = answer
      obtain ⟨changed, result⟩ := answer
      cases result <;> rfl

-----------------------------------------------------------------------------------------
-- Hits
-----------------------------------------------------------------------------------------

theorem notifyHit_plain (env : Environment) (host : RoomHost) (hitObjectId : Nat)
    (combat : CombatState) (attackerObjectId : Nat)
    : Plain host (host.notifyHit env hitObjectId combat attackerObjectId) := by
  unfold notifyHit
  split
  · exact .refl host
  · split
    · exact .refl host
    · dsimp only
      split
      · exact (Plain.refl host).send env _ rfl
      · exact ((Plain.refl host).send env _ rfl).modifySession fun _ => ⟨rfl, id, id⟩

theorem destroyDeadObject_plain (env : Environment) (host : RoomHost) (objectId : Nat)
    : Plain host (host.destroyDeadObject env objectId) := by
  unfold destroyDeadObject
  split
  · exact .refl host
  · refine Plain.broadcast (Plain.modifyRoom (.refl host) ⟨?_, ?_, rfl⟩) env rfl
    · exact GameRoom.Plain.sessions_refl _
    · intro other authority held
      by_cases same : other = objectId
      · subst same
        simp only [GameRoom.npcAuthority, AList.lookup_erase] at held
        cases held
      · simpa only [GameRoom.npcAuthority, AList.lookup_erase_ne same] using held

/-- A notice of a hit leaves the NPCs where they are. -/
theorem notifyHit_hasNpc {env : Environment} {host : RoomHost} {hitObjectId : Nat}
    {combat : CombatState} {attackerObjectId : Nat} (has : host.room.HasNpc npcId npc)
    : (host.notifyHit env hitObjectId combat attackerObjectId).room.HasNpc npcId npc := by
  unfold notifyHit
  split
  · exact has
  · split
    · exact has
    · dsimp only
      split
      · rwa [send_room]
      · have sent : ∀ sessionId message,
            (host.send env sessionId message).room.HasNpc npcId npc := by
          intro sessionId message
          rwa [send_room]
        exact ⟨(sent _ _).dynamic, (sent _ _).stored⟩

/-- A wound kills the NPC, or the shooter claims it. -/
theorem settleNpcHit_cases (env : Environment) {host : RoomHost} {hitObjectId : Nat}
    (has : host.room.HasNpc hitObjectId npc) (damaged : HostileNPC)
    (same : damaged.authority = npc.authority) (shooterObjectId : Nat)
    : Plain host (host.settleNpcHit env shooterObjectId hitObjectId damaged)
      ∨ ∃ middle, Plain host middle ∧ middle.room.HasNpc hitObjectId damaged
        ∧ host.settleNpcHit env shooterObjectId hitObjectId damaged
          = middle.acceptAnswer env hitObjectId
              (damaged.applyDamageAuthority shooterObjectId) := by
  unfold settleNpcHit
  extract_lets wounded
  have written := has.writes damaged
  have struck : Plain host
      (host.modifyRoom (·.modifyHostileNpc hitObjectId fun _ => damaged)) := by
    refine (Plain.refl host).modifyRoom
      (.of_npcs written.sessions (host.room.modifyHostileNpc_term hitObjectId _) fun objectId => ?_)
    rw [written.npcs]
    split
    · next here => rw [here, has.authority, same]
    · rfl
  have told : Plain host wounded := struck.trans (notifyHit_plain env _ _ _ _)
  split
  · exact .inl (told.trans (destroyDeadObject_plain env _ _))
  · exact .inr ⟨wounded, told, notifyHit_hasNpc (has.modifyHostileNpc fun _ => damaged), rfl⟩

/-- A hit is plain, or it ends with the shooter's claim to the NPC. -/
theorem applyHit_cases (env : Environment) (host : RoomHost) (layout : host.room.Layout)
    (shooterObjectId hitObjectId weaponId : Nat)
    : Plain host (host.applyHit env shooterObjectId hitObjectId weaponId)
      ∨ ∃ npc damaged middle, host.room.findHostileNpc hitObjectId = some npc
        ∧ Plain host middle ∧ middle.room.HasNpc hitObjectId damaged
        ∧ damaged.authority = npc.authority
        ∧ host.applyHit env shooterObjectId hitObjectId weaponId
          = middle.acceptAnswer env hitObjectId
              (damaged.applyDamageAuthority shooterObjectId) := by
  unfold applyHit
  split
  · exact .inl (.refl host)
  · split
    · split
      · exact .inl (.refl host)
      · dsimp only
        exact .inl (((Plain.refl host).modifyPlayerObject _ _).trans
          (notifyHit_plain env _ _ _ _))
    · next npc spec _ found _ =>
        split
        · exact .inl (.refl host)
        · rcases settleNpcHit_cases env (.of_find layout found)
            { npc with combat := npc.combat.takeDamage spec.baseDamage shooterObjectId } rfl
            shooterObjectId with plain | ⟨middle, quiet, has, outcome⟩
          · exact .inl plain
          · exact .inr ⟨npc, _, middle, found, quiet, has, rfl, outcome⟩
    · exact .inl (.refl host)

/-- A shot is plain, or it hits an NPC, whose answer is followed by the notice of the shot. -/
theorem handleC2DRequestWeaponFire_cases (env : Environment) (host : RoomHost)
    (layout : host.room.Layout) (sessionId : Nat) (session : PlayerSession)
    (pkt : C2DRequestWeaponFire)
    : Plain host (host.handleC2DRequestWeaponFire env sessionId session pkt).1
      ∨ ∃ requester npc damaged middle, session.objectId = some requester
        ∧ host.room.findHostileNpc pkt.hitObjectId = some npc
        ∧ Plain host middle ∧ middle.room.HasNpc pkt.hitObjectId damaged
        ∧ damaged.authority = npc.authority
        ∧ (host.handleC2DRequestWeaponFire env sessionId session pkt).1
          = (middle.acceptAnswer env pkt.hitObjectId
              (damaged.applyDamageAuthority requester)).broadcastExcept env
                (.broadcastWeaponFire requester pkt.hitPoint) (some sessionId) := by
  have afterCount : Plain host (host.countShot sessionId pkt) :=
    (Plain.refl host).modifySession fun _ => ⟨rfl, id, id⟩
  have outcome := host.handleC2DRequestWeaponFire_shot env sessionId session pkt
  generalize host.handleC2DRequestWeaponFire env sessionId session pkt = handled at *
  cases outcome with
  | ignored => exact .inl (.refl host)
  | wasted => exact .inl afterCount
  | @fired requester object _ current =>
      have afterSpend : Plain host ((host.countShot sessionId pkt).spendRound sessionId session
          object.isUsingPrimary) :=
        afterCount.modifySession fun _ => ⟨rfl, id, id⟩
      generalize spend : (host.countShot sessionId pkt).spendRound sessionId session
        object.isUsingPrimary = spent at *
      have spentLayout : spent.room.Layout := by
        rw [← spend]
        exact ⟨layout.staticContainers, layout.dynamicIds, layout.playerIds⟩
      rcases spent.applyHit_cases env spentLayout requester pkt.hitObjectId pkt.weaponDbid with
        plain | ⟨npc, damaged, middle, found, quiet, has, same, answer⟩
      · exact .inl ((afterSpend.trans plain).broadcastExcept env _ rfl)
      · have present : host.room.findHostileNpc pkt.hitObjectId = some npc := by
          rw [← found, ← spend]
          rfl
        refine .inr ⟨requester, npc, damaged, middle, current, present,
          afterSpend.trans quiet, has, same, ?_⟩
        exact congrArg (fun state : RoomHost => state.broadcastExcept env
          (.broadcastWeaponFire requester pkt.hitPoint) (some sessionId)) answer

end RoomHost

end ExtractionServer.Room
