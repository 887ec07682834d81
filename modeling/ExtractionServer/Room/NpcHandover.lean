import ExtractionServer.Room.NpcLeaves

/-! NPCs in the runs of a room: every change of hands has a cause and one notice.
-/

namespace ExtractionServer.Room

open Transport

namespace RoomHost

variable {before middle after : RoomHost}

-----------------------------------------------------------------------------------------
-- Why an NPC changes hands
-----------------------------------------------------------------------------------------

/-- Why the authority over an NPC passes in a turn: a claim that exceeds the current aggro, a
hit, which claims the greatest aggro, or the holder's own request or leave.
-/
inductive HandoverCause (before after : RoomHost) (objectId : Nat) (old : Authority)
    : Action → Option Nat → Prop
  | claim {sessionId : Nat} {session : PlayerSession} {header : UDPHeader}
      {clientAddr : SockAddr} {aggro : Int} {requester : Nat}
      (found : before.room.playerSessions.lookup sessionId = some session)
      (current : session.objectId = some requester)
      (stronger : old.aggro < max old.minAggro (min aggro old.maxAggro))
      : HandoverCause before after objectId old
          (.packet sessionId header clientAddr (.requestNpcAuthority objectId aggro))
          (some requester)
  | hit {sessionId : Nat} {session : PlayerSession} {header : UDPHeader}
      {clientAddr : SockAddr} {pkt : C2DRequestWeaponFire} {requester : Nat}
      (found : before.room.playerSessions.lookup sessionId = some session)
      (current : session.objectId = some requester)
      (struck : pkt.hitObjectId = objectId)
      (stronger : old.aggro < old.maxAggro)
      : HandoverCause before after objectId old
          (.packet sessionId header clientAddr (.requestWeaponFire pkt)) (some requester)
  | handBack {sessionId : Nat} {session : PlayerSession} {header : UDPHeader}
      {clientAddr : SockAddr} {aggro : Int} {requester : Nat}
      (found : before.room.playerSessions.lookup sessionId = some session)
      (current : session.objectId = some requester)
      (held : old.targetId = some requester)
      : HandoverCause before after objectId old
          (.packet sessionId header clientAddr (.requestNpcAggro objectId aggro)) none
  | leave {holder : Nat} (held : old.targetId = some holder)
      (gone : holder ∉ after.room.playerObjects)
      : HandoverCause before after objectId old .processLeaves none

section Steps

variable {env : Environment}

theorem clampAggro_eq {npc : HostileNPC} (bounds : npc.minAggro < npc.maxAggro) (aggro : Int)
    : npc.clampAggro aggro = max npc.minAggro (min aggro npc.maxAggro) := by
  unfold HostileNPC.clampAggro
  split
  · omega
  · split <;> omega

/-- A stretch between quiet ones. -/
theorem NpcStep.of_start {reason : Nat → Authority → Option Nat → Prop}
    (start : NpcQuiet before middle)
    (members : middle.room.playerSessions.keys = before.room.playerSessions.keys)
    (step : NpcStep reason middle after)
    : NpcStep reason before after :=
  ⟨step.recorded ∘ start.recorded, fun objectId => (step.turn objectId).of_start start members⟩

theorem NpcStep.mono {reason weaker : Nat → Authority → Option Nat → Prop}
    (step : NpcStep reason before after)
    (weaken : ∀ objectId old target, before.room.npcAuthority objectId = some old →
      reason objectId old target → weaker objectId old target)
    : NpcStep weaker before after := by
  refine ⟨step.recorded, fun objectId => ?_⟩
  rcases step.turn objectId with kept | ⟨old, new, handed⟩
  · exact .inl kept
  · have because := weaken objectId old _ handed.held handed.because
    exact .inr ⟨old, new, { handed with because }⟩

/-- A quiet end of a stretch. -/
theorem NpcStep.of_end {reason : Nat → Authority → Option Nat → Prop}
    (step : NpcStep reason before middle) (finish : NpcQuiet middle after)
    (sessions : after.room.playerSessions = middle.room.playerSessions)
    : NpcStep reason before after := by
  refine ⟨finish.recorded ∘ step.recorded, fun objectId => ?_⟩
  refine (step.turn objectId).of_end finish ?_
  unfold receivers
  rw [sessions]

theorem scheduleRecallTick_npcQuiet (host : RoomHost) (sessionId : Nat) (uid : Int)
    (generation : BitVec 32)
    : NpcQuiet host (host.scheduleRecallTick env sessionId uid generation) :=
  .of_room rfl id fun _ => rfl

theorem handleC2DRequestRecall_npcQuiet (host : RoomHost) (sessionId : Nat)
    (session : PlayerSession) (spotIndex : Nat)
    : NpcQuiet host (host.handleC2DRequestRecall env sessionId session spotIndex).1 := by
  unfold handleC2DRequestRecall
  split
  · exact (Calm.refl host).toNpcQuiet
  · split
    · exact (Calm.refl host).toNpcQuiet
    · split
      · exact (Calm.refl host).toNpcQuiet
      · split
        · exact (Calm.refl host).toNpcQuiet
        · dsimp only
          split
          · dsimp only
            refine Calm.toNpcQuiet ?_
            exact (Calm.refl host).send env sessionId rfl
          · dsimp only
            refine NpcQuiet.trans (Calm.toNpcQuiet ?_) (scheduleRecallTick_npcQuiet _ _ _ _)
            refine Calm.modifySession ?_ sessionId _
            exact (Calm.refl host).send env sessionId rfl

theorem cancelRecall_npcQuiet (host : RoomHost) (sessionId : Nat) (session : PlayerSession)
    (spotIndex : Nat) (reason : RecallResultReason)
    : NpcQuiet host (host.cancelRecall env sessionId session spotIndex reason) := by
  have ended := (Calm.refl host).modifySession sessionId PlayerSession.endRecall
  unfold cancelRecall
  dsimp only
  split
  · exact ended.toNpcQuiet
  · exact (ended.send env sessionId rfl).toNpcQuiet

theorem completeRecall_npcQuiet (host : RoomHost) (sessionId spotIndex : Nat)
    : NpcQuiet host (host.completeRecall env sessionId spotIndex) := by
  have ended := (Calm.refl host).modifySession sessionId PlayerSession.endRecall
  exact (ended.send env sessionId rfl).toNpcQuiet.trans
    (markLeaving_calm env _ sessionId .recalled _).toNpcQuiet

theorem recallTick_npcQuiet (host : RoomHost) (timer : RecallTimer)
    : NpcQuiet host (host.recallTick env timer) := by
  have idle := (Calm.refl host).toNpcQuiet
  unfold recallTick
  dsimp only
  split
  · exact idle
  · split
    · exact idle
    · split
      · exact idle
      · split
        · exact cancelRecall_npcQuiet host _ _ _ _
        · split
          · exact cancelRecall_npcQuiet host _ _ _ _
          · split
            · exact cancelRecall_npcQuiet host _ _ _ _
            · split
              · exact cancelRecall_npcQuiet host _ _ _ _
              · split
                · exact cancelRecall_npcQuiet host _ _ _ _
                · have passed := (Calm.refl host).modifySession timer.sessionId
                    PlayerSession.addRecallPass
                  split
                  · exact passed.toNpcQuiet.trans (scheduleRecallTick_npcQuiet _ _ _ _)
                  · exact passed.toNpcQuiet.trans (completeRecall_npcQuiet _ _ _)

/-- A request to an NPC, answered in good order. -/
theorem applyNpcRequest_step (host : RoomHost) (governed : host.NpcsGoverned)
    (layout : host.room.Layout) (session : PlayerSession) (npcId : Nat)
    {apply : HostileNPC → Nat → HostileNPC × HostileNPC.RequestResult}
    {reason : HostileNPC → Nat → Option Nat → Prop}
    (answers : ∀ (npc : HostileNPC) requester, npc.authority.Governed →
      npc.Answer (reason npc requester) (apply npc requester))
    : NpcStep
        (fun objectId old target => objectId = npcId ∧ ∃ npc requester,
          npc.authority = old ∧ session.objectId = some requester
            ∧ old.Governed ∧ reason npc requester target)
        host (host.applyNpcRequest env session npcId apply).1 := by
  rcases host.applyNpcRequest_cases env session npcId apply with
    idle | ⟨requester, npc, current, found, answered⟩
  · rw [idle]
    exact (Calm.refl host).toNpcQuiet.step _
  · have has := GameRoom.HasNpc.of_find layout found
    obtain ⟨named, sound⟩ := governed npcId _ has.authority
    rw [answered]
    refine (acceptAnswer_step env has named (answers npc requester sound)).mono ?_
    rintro objectId old target held ⟨rfl, because⟩
    have same : npc.authority = old := Option.some.inj (has.authority.symm.trans held)
    exact ⟨rfl, npc, requester, same, current, same ▸ sound, because⟩

/-- A shot, after which everybody else is told of it. -/
theorem handleC2DRequestWeaponFire_step (host : RoomHost) (governed : host.NpcsGoverned)
    (layout : host.room.Layout) (sessionId : Nat) (session : PlayerSession)
    (pkt : C2DRequestWeaponFire)
    : NpcStep
        (fun objectId old target => objectId = pkt.hitObjectId ∧ ∃ requester,
          session.objectId = some requester ∧ old.aggro < old.maxAggro
            ∧ target = some requester)
        host (host.handleC2DRequestWeaponFire env sessionId session pkt).1 := by
  rcases host.handleC2DRequestWeaponFire_cases env layout sessionId session pkt with
    plain | ⟨requester, npc, damaged, middle, current, found, quiet, has, same, outcome⟩
  · exact plain.npc.step _
  · rw [outcome]
    have before := (GameRoom.HasNpc.of_find layout found).authority
    obtain ⟨named, sound⟩ := governed pkt.hitObjectId _ before
    rw [← same] at named sound
    have answered := acceptAnswer_step env has named
      (damaged.applyAuthorityRequest_answer sound requester damaged.maxAggro)
    refine NpcStep.of_end (NpcStep.of_start quiet.npc quiet.recalls.sessions.keys
      (answered.mono ?_)) (Plain.broadcastExcept (.refl _) env _ rfl).npc ?_
    · rintro objectId old target held ⟨rfl, rfl, stronger⟩
      have this : damaged.authority = old := Option.some.inj (has.authority.symm.trans held)
      subst this
      refine ⟨rfl, requester, current, stronger.trans_le ?_, rfl⟩
      exact (HostileNPC.clampAggro_bounds sound.bounds damaged.maxAggro).2
    · exact congrArg GameRoom.playerSessions (broadcastExcept_room env _ _ _)

/-- A packet, whatever it says; only four kinds reach recalls, items in hand and NPCs. -/
theorem handleClientPacket_step (orderly : before.Orderly) (sessionId : Nat)
    (header : UDPHeader) (clientAddr : SockAddr) (pkt : C2DPacket)
    : NpcStep
        (fun objectId old =>
          HandoverCause before after objectId old (.packet sessionId header clientAddr pkt))
        before (before.handleClientPacket env sessionId header clientAddr pkt).1 := by
  unfold handleClientPacket
  split
  · exact (Calm.refl before).toNpcQuiet.step _
  · next session found =>
      have received := (receive_plain env before sessionId header).npc
      have governed : (before.receive env sessionId header).1.NpcsGoverned := orderly.governed
      have layout : (before.receive env sessionId header).1.room.Layout := orderly.sound.layout
      dsimp only
      split
      · exact received.step _
      · refine NpcStep.of_start received rfl ?_
        by_cases plain : pkt.isPlain = true
        · exact (dispatch_plain env _ sessionId session clientAddr plain).npc.step _
        · cases pkt with
          | requestRecall spotIndex =>
              exact (handleC2DRequestRecall_npcQuiet _ sessionId session spotIndex).step _
          | requestWeaponFire pkt =>
              refine (handleC2DRequestWeaponFire_step _ governed layout sessionId session
                pkt).mono ?_
              rintro objectId old target _ ⟨rfl, requester, current, stronger, rfl⟩
              exact .hit found current rfl stronger
          | requestNpcAggro npcId aggro =>
              refine (applyNpcRequest_step _ governed layout session npcId
                fun npc requester sound => npc.applyAggroRequest_answer sound requester
                  aggro).mono ?_
              rintro objectId old target _ ⟨rfl, npc, requester, rfl, current, _, rfl, held⟩
              exact .handBack found current held
          | requestNpcAuthority npcId aggro =>
              refine (applyNpcRequest_step _ governed layout session npcId
                fun npc requester sound => npc.applyAuthorityRequest_answer sound requester
                  aggro).mono ?_
              rintro objectId old target _ ⟨rfl, npc, requester, rfl, current, sound, rfl,
                stronger⟩
              rw [clampAggro_eq sound.bounds] at stronger
              exact .claim found current stronger
          | _ => exact absurd rfl plain

/-- Every step but a retransmission is a stretch whose changes have a cause. -/
theorem next_npcStep {action : Action} (orderly : before.Orderly)
    (step : before.next env action = some after)
    (fresh : ∀ sessionId, action ≠ .checkRetransmits sessionId)
    : NpcStep (fun objectId old => HandoverCause before after objectId old action) before
        after := by
  cases action with
  | packet sessionId header clientAddr pkt =>
      cases Option.some.inj step
      exact handleClientPacket_step orderly sessionId header clientAddr pkt
  | recallTick index =>
      simp only [next] at step
      split at step
      · cases step
      · next timer _ =>
          split at step
          · cases step
          · cases Option.some.inj step
            refine NpcQuiet.step (.trans ?_ (recallTick_npcQuiet _ timer)) _
            exact .of_room rfl id fun _ => rfl
  | processLeaves =>
      cases Option.some.inj step
      have pass := processLeaves_pass env before orderly
      refine ⟨pass.recorded, fun objectId => (pass.turn objectId).turn.mono ?_⟩
      rintro old target ⟨holder, ⟨held, rfl⟩, gone⟩
      exact .leave held gone
  | update =>
      cases Option.some.inj step
      exact (update_plain env before).npc.step _
  | updateNpcStates =>
      cases Option.some.inj step
      exact (updateNpcStates_plain env before).npc.step _
  | bindClientIp sessionId addr =>
      cases Option.some.inj step
      exact ((Calm.refl before).modifySession sessionId _).toNpcQuiet.step _
  | checkRetransmits sessionId => exact absurd rfl (fresh sessionId)

end Steps


-----------------------------------------------------------------------------------------
-- Runs
-----------------------------------------------------------------------------------------

/-- A room whose map has just placed NPCs with any bounds of aggro. -/
structure NpcsPlaced (host : RoomHost) : Prop where
  npcs : ∀ objectId object, host.room.dynamicObjects.lookup objectId = some object →
    objectId < host.room.nxtObjectId ∧ ∃ npc, object = .hostileNpc npc ∧ npc.Placed objectId
  fresh : Fresh { host with room := { host.room with dynamicObjects := ∅ } }
  unsent : ∀ sessionId, (host.wire.channels sessionId).pendingReliable.packets = []

def npcRooms (env : Environment) : Transition.System RoomHost Action :=
  .ofNext NpcsPlaced (next env)

/-- The invariant of the runs of a room with NPCs. -/
structure NpcsSound (host : RoomHost) : Prop where
  orderly : host.Orderly
  recorded : host.Recorded
  targets : ∀ npcId authority holder, host.room.npcAuthority npcId = some authority →
    authority.targetId = some holder → holder ∈ host.room.playerObjects

theorem NpcsPlaced.npc {host : RoomHost} (h : host.NpcsPlaced) {npcId : Nat}
    {authority : Authority} (held : host.room.npcAuthority npcId = some authority)
    : ∃ npc : HostileNPC, npc.authority = authority ∧ npc.Placed npcId := by
  obtain ⟨npc, found, same⟩ := Option.map_eq_some_iff.mp held
  obtain ⟨object, stored, cast⟩ := Option.bind_eq_some_iff.mp found
  obtain ⟨_, placed, rfl, sound⟩ := h.npcs npcId object stored
  cases cast
  exact ⟨npc, same, sound⟩

theorem NpcsPlaced.sound {host : RoomHost} (h : host.NpcsPlaced) : host.NpcsSound where
  orderly := by
    have stripped := h.fresh.sound
    have layout : host.room.Layout := by
      refine ⟨stripped.layout.staticContainers, fun objectId mem => ?_,
        stripped.layout.playerIds⟩
      obtain ⟨object, stored⟩ := Table.exists_lookup_of_mem mem
      exact (h.npcs objectId object stored).1
    refine ⟨⟨layout, stripped.currentIds, stripped.owners, stripped.deaths, stripped.leaves,
      stripped.notices⟩, ⟨?_, ?_⟩, ?_⟩
    · intro sessionId session objectId found current
      rw [(h.fresh.sessions sessionId session found).objectId] at current
      cases current
    · intro sessionId session found pending
      rw [(h.fresh.sessions sessionId session found).leaveState] at pending
      cases pending
    · intro npcId authority held
      obtain ⟨npc, rfl, placed⟩ := h.npc held
      exact ⟨placed.objectId, placed.governed⟩
  recorded sessionId packet mem := by
    rw [h.unsent sessionId] at mem
    cases mem
  targets npcId authority holder held target := by
    obtain ⟨npc, rfl, placed⟩ := h.npc held
    cases placed.targetId.symm.trans target

/-- The rooms of the source start so. -/
theorem Fresh.npcsPlaced {host : RoomHost} (h : host.Fresh)
    (unsent : ∀ sessionId, (host.wire.channels sessionId).pendingReliable.packets = [])
    : host.NpcsPlaced where
  npcs objectId object stored := by
    obtain ⟨known, position, yawAngle, rfl⟩ := h.dynamicObjects objectId object stored
    exact ⟨known, _, rfl, HostileNPC.turret_placed objectId position yawAngle⟩
  fresh :=
    { h with
      dynamicObjects := fun objectId object stored => by cases stored }
  unsent := unsent

section Invariant

variable {env : Environment}

/-- Players leave only with the leave pipeline. -/
theorem Acts.players {spawner : GameRoom → PlayerSession → Bool}
    (acts : Acts spawner before after) (sound : before.Sound) (objectId : Nat)
    (mem : objectId ∈ before.room.playerObjects)
    : objectId ∈ after.room.playerObjects := by
  induction acts with
  | refl => exact mem
  | tail acts act ih =>
      have layout := (Moves.sound (Acts.moves acts) sound).layout
      cases act with
      | ordinary actor step active => exact (step.room.objects.mem_iff objectId).mpr ih
      | spawn sessionId session found active meets step =>
          obtain ⟨object, _, objects⟩ := step.objects layout
          rw [objects]
          refine (Table.mem_tryEmplace_iff fun taken => ?_).mpr (.inr ih)
          exact Nat.lt_irrefl _ (layout.playerIds _ taken)
      | recalled sessionId session object now notifyRSeq found staying current alive step =>
          rw [room_eq_of_outcome step]
          exact ih

/-- A retransmission repeats what has been sent, and changes nothing else. -/
theorem retransmits_repeat (recorded : before.Recorded) {sessionId : Nat}
    (step : before.next env (.checkRetransmits sessionId) = some after)
    : after.room = before.room ∧ after.Recorded
      ∧ ∃ repeated, after.wire.sent = before.wire.sent ++ repeated
        ∧ ∀ datagram ∈ repeated, datagram ∈ before.wire.sent := by
  simp only [next] at step
  split at step
  · cases Option.some.inj step
    exact ⟨rfl, recorded, [], (List.append_nil _).symm, fun _ mem => by cases mem⟩
  · cases Option.some.inj step
    refine ⟨rfl, fun otherId packet mem => ?_, _, rfl,
      before.retransmit_repeats recorded sessionId _⟩
    apply List.mem_append_left
    by_cases same : otherId = sessionId
    · subst same
      simp only [Function.update_self] at mem
      obtain ⟨original, stored, rfl⟩ := List.mem_map.mp mem
      have sent := recorded otherId original stored
      split <;> exact sent
    · simp only [Function.update_of_ne same] at mem
      exact recorded otherId packet mem

/-- Every step preserves the invariant. -/
theorem NpcsSound.next {action : Action} (h : before.NpcsSound)
    (step : before.next env action = some after)
    : after.NpcsSound := by
  have meets : before.spawnMeets env (fun _ _ => true) action = true :=
    before.spawnMeets_any action
  have moves := next_moves step meets
  have sound := moves.sound h.orderly.sound
  have attended := moves.attended h.orderly.sound h.orderly.attended
  by_cases repeats : ∃ sessionId, action = .checkRetransmits sessionId
  · obtain ⟨sessionId, rfl⟩ := repeats
    obtain ⟨room, recorded, _⟩ := retransmits_repeat h.recorded step
    refine ⟨⟨sound, attended, ?_⟩, recorded, ?_⟩
    · unfold NpcsGoverned
      rw [room]
      exact h.orderly.governed
    · rw [room]
      exact h.targets
  · have fresh : ∀ sessionId, action ≠ .checkRetransmits sessionId :=
      fun sessionId same => repeats ⟨sessionId, same⟩
    have turns := next_npcStep h.orderly step fresh
    have staying : ∀ npcId authority holder, holder ∈ before.room.playerObjects →
        after.room.npcAuthority npcId = some authority → authority.targetId = some holder →
        holder ∈ after.room.playerObjects := by
      intro npcId authority holder mem held target
      by_cases leaves : action = .processLeaves
      · subst leaves
        cases Option.some.inj step
        by_contra gone
        exact (processLeaves_pass env before h.orderly).untargeted holder mem gone npcId
          authority held target
      · exact (next_acts step meets leaves).players h.orderly.sound holder mem
    refine ⟨⟨sound, attended, fun npcId authority held => ?_⟩, turns.recorded h.recorded,
      fun npcId authority holder held target => ?_⟩
    · rcases turns.turn npcId with kept | ⟨old, new, handed⟩
      · obtain ⟨old, stored, sameId, _, governed⟩ := kept.authority authority held
        obtain ⟨named, ruled⟩ := h.orderly.governed npcId old stored
        exact ⟨sameId.trans named, governed ruled⟩
      · obtain ⟨named, ruled⟩ := h.orderly.governed npcId old handed.held
        rw [handed.holds authority held]
        exact ⟨handed.sameId.trans named, handed.governed ruled⟩
    · refine staying npcId authority holder ?_ held target
      rcases turns.turn npcId with kept | ⟨old, new, handed⟩
      · obtain ⟨old, stored, _, same, _⟩ := kept.authority authority held
        exact h.targets npcId old holder stored (same.symm.trans target)
      · have because := handed.because
        rw [← handed.holds authority held, target] at because
        cases because with
        | claim found current _ => exact h.orderly.attended.present _ _ holder found current
        | hit found current _ _ => exact h.orderly.attended.present _ _ holder found current

theorem npcsSound_of_reachable {host : RoomHost} (reached : (npcRooms env).Reachable host)
    : host.NpcsSound := by
  refine Transition.System.Inductive.reachable ⟨fun _ => NpcsPlaced.sound, ?_⟩ reached
  intro before action after sound step
  exact NpcsSound.next sound step

end Invariant

-----------------------------------------------------------------------------------------
-- The authority over NPCs in every run
-----------------------------------------------------------------------------------------

/-- What a step does to an NPC that is there before and after it. -/
inductive NpcOutcome (before after : RoomHost) (action : Action) (npcId : Nat)
    (old new : Authority)
    : Prop
  | kept (same : new.targetId = old.targetId)
      (silent : after.authorityNotices npcId = before.authorityNotices npcId)
  | passed (changed : new.targetId ≠ old.targetId)
      (because : HandoverCause before after npcId old action new.targetId)
      (told : ∃ audience, Told before after npcId new.targetId new.aggro audience)

/-- In every reachable state every NPC is governed, and its holder is a player object of the
room. In every step the holder changes for one of four causes and with one notice, or nothing
is said about the NPC; a retransmission only repeats what has been sent.
-/
theorem npc_authority (env : Environment) {host : RoomHost}
    (reached : (npcRooms env).Reachable host)
    : (∀ npcId npc, host.room.findHostileNpc npcId = some npc →
        npc.authority.Governed
          ∧ ∀ holder, npc.targetId = some holder → holder ∈ host.room.playerObjects)
      ∧ (∀ action after, host.next env action = some after →
        (∀ sessionId, action ≠ .checkRetransmits sessionId) →
        ∀ npcId npc later, host.room.findHostileNpc npcId = some npc →
          after.room.findHostileNpc npcId = some later →
          NpcOutcome host after action npcId npc.authority later.authority)
      ∧ ∀ sessionId after, host.next env (.checkRetransmits sessionId) = some after →
        after.room = host.room
          ∧ ∃ repeated, after.wire.sent = host.wire.sent ++ repeated
            ∧ ∀ datagram ∈ repeated, datagram ∈ host.wire.sent := by
  have sound := npcsSound_of_reachable reached
  refine ⟨fun npcId npc found => ?_, fun action after step fresh npcId npc later found stays => ?_,
    fun sessionId after step => ?_⟩
  · have held := (GameRoom.HasNpc.of_find sound.orderly.sound.layout found).authority
    exact ⟨(sound.orderly.governed npcId _ held).2, fun holder => sound.targets npcId _ holder held⟩
  · have held := (GameRoom.HasNpc.of_find sound.orderly.sound.layout found).authority
    have layout := (NpcsSound.next sound step).orderly.sound.layout
    have holds := (GameRoom.HasNpc.of_find layout stays).authority
    rcases (next_npcStep sound.orderly step fresh).turn npcId with kept | ⟨old, new, handed⟩
    · obtain ⟨old, stored, _, same, _⟩ := kept.authority _ holds
      rw [Option.some.inj (held.symm.trans stored)]
      exact .kept same kept.notices
    · rw [Option.some.inj (held.symm.trans handed.held), handed.holds _ holds]
      exact .passed handed.changed handed.because handed.told
  · obtain ⟨room, _, repeats⟩ := retransmits_repeat sound.recorded step
    exact ⟨room, repeats⟩

/-- One player and one turret. -/
def turretRoom : RoomHost :=
  { soloRoom with
    room :=
      { soloRoom.room with
        dynamicObjects := Table.tryEmplace 0 (.hostileNpc (Turret.create 0 {} 0)) ∅
        nxtObjectId := 1 } }

theorem turretRoom_placed : turretRoom.NpcsPlaced where
  npcs objectId object stored := by
    rcases Table.lookup_tryEmplace_cases (AList.notMem_empty 0) stored with
      ⟨rfl, rfl⟩ | nothing
    · exact ⟨Nat.zero_lt_one, _, rfl, HostileNPC.turret_placed 0 {} 0⟩
    · cases nothing
  fresh :=
    { soloRoom_fresh with
      dynamicObjects := fun objectId object stored => by cases stored }
  unsent _ := rfl

/-- Enter, spawn, and claim the turret. -/
def claimActions : List Action :=
  [request 1 1 (.channelOpen ""), request 1 2 .requestSpawnMe,
    request 1 3 .notifyLoadingComplete, request 1 4 (.requestNpcAuthority 0 5)]

/-- The claimed turret follows the player's object, which is in the room. -/
theorem turret_claimed
    : ∃ npc, (endOf openField (fun _ _ _ => true) turretRoom
          claimActions).room.findHostileNpc 0 = some npc
      ∧ npc.targetId = some 1 ∧ npc.authority.Governed
      ∧ 1 ∈ (endOf openField (fun _ _ _ => true) turretRoom
        claimActions).room.playerObjects := by
  have run := Transition.System.Run.of_replay NpcsPlaced (next openField) (fun _ _ _ => true)
    claimActions turretRoom turretRoom (by decide +kernel)
  have reached : (npcRooms openField).Reachable
      (endOf openField (fun _ _ _ => true) turretRoom claimActions) :=
    (run.reachable (.initial turretRoom_placed)).of_restrict
  obtain ⟨invariant, _⟩ := npc_authority openField reached
  have here : ((endOf openField (fun _ _ _ => true) turretRoom
      claimActions).room.findHostileNpc 0).any (·.targetId == some 1) = true := by
    decide +kernel
  obtain ⟨npc, found, claimed⟩ := (Option.any_eq_true _ _).mp here
  obtain ⟨governed, present⟩ := invariant 0 npc found
  exact ⟨npc, found, eq_of_beq claimed, governed, present 1 (eq_of_beq claimed)⟩

end RoomHost

end ExtractionServer.Room
