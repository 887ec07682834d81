import ExtractionServer.Room.Correspondence
import ExtractionServer.Room.NpcAuthority

/-! NPCs and leaves: a player who leaves gives its authority back before its object goes, and
no turn of the leave pipeline changes an NPC's holder twice.
-/

namespace ExtractionServer.Room

open Transport

namespace RoomHost

variable {before middle after : RoomHost}

-----------------------------------------------------------------------------------------
-- The players of a room
-----------------------------------------------------------------------------------------

/-- Current objects are in the room, and the dead who wait to be detached watch. -/
structure Attended (host : RoomHost) : Prop where
  present : ∀ sessionId session objectId,
    host.room.playerSessions.lookup sessionId = some session →
      session.objectId = some objectId → objectId ∈ host.room.playerObjects
  spectates : ∀ sessionId session, host.room.playerSessions.lookup sessionId = some session →
    session.leaveState = .pending → session.leaveReason = .dead →
    session.sessionState = .spectating

/-- Writing one session without changing its current object. -/
theorem Attended.writeSession (h : before.Attended) {sessionId : Nat}
    {f : PlayerSession → PlayerSession}
    (step : after.outcome = (before.modifySession sessionId f).outcome)
    (same : ∀ session, (f session).objectId = session.objectId)
    (spectates : ∀ session,
      (session.leaveState = .pending → session.leaveReason = .dead →
        session.sessionState = .spectating) →
      (f session).leaveState = .pending → (f session).leaveReason = .dead →
        (f session).sessionState = .spectating)
    : after.Attended := by
  have written := room_eq_of_outcome step
  constructor
  · intro otherId other objectId found current
    rw [written] at found ⊢
    rcases Table.lookup_adjust_cases found with ⟨rfl, old, stored, rfl⟩ | ⟨_, stored⟩
    · exact h.present otherId old objectId stored (same old ▸ current)
    · exact h.present otherId other objectId stored current
  · intro otherId other found
    rw [written] at found
    rcases Table.lookup_adjust_cases found with ⟨rfl, old, stored, rfl⟩ | ⟨_, stored⟩
    · exact spectates old (h.spectates otherId old stored)
    · exact h.spectates otherId other stored

theorem Attended.markLeaving (h : before.Attended) {sessionId : Nat} {reason : LeaveReason}
    {now : TimePoint} {notifyRSeq : BitVec 32}
    (step : after.outcome
      = (before.modifySession sessionId (·.markLeaving reason now notifyRSeq)).outcome)
    : after.Attended := by
  refine h.writeSession step (fun session => session.markLeaving_objectId _ _ _) ?_
  intro session spectates
  unfold PlayerSession.markLeaving
  split
  · intro _ dead
    cases dead
    rfl
  · exact spectates

variable {spawner : GameRoom → PlayerSession → Bool}

/-- Every move keeps the players of the room. -/
theorem Move.attended (move : Move spawner before after) (sound : before.Sound)
    (h : before.Attended)
    : after.Attended := by
  cases move with
  | act step =>
      cases step with
      | ordinary actor step active =>
          constructor
          · intro sessionId session objectId found current
            obtain ⟨old, stored, goes, _⟩ := step.room.sessions.old_of_new found
            exact (step.room.objects.mem_iff objectId).mpr
              (h.present sessionId old objectId stored (goes.objectId ▸ current))
          · intro sessionId session found pending dead
            obtain ⟨old, stored, goes, _⟩ := step.room.sessions.old_of_new found
            have watching := h.spectates sessionId old stored (goes.leaveState ▸ pending)
              (goes.leaveReason ▸ dead)
            rcases goes.sessionState with same | ⟨early, _⟩
            · exact same.trans watching
            · rw [watching] at early
              rcases early with init | connected
              · cases init
              · cases connected
      | spawn sessionId session found active meets step =>
          obtain ⟨object, _, objects⟩ := step.objects sound.layout
          constructor
          · intro otherId other objectId present current
            rw [step.sessions] at present
            rw [objects]
            have fresh : before.room.nxtObjectId ∉ before.room.playerObjects :=
              fun taken => Nat.lt_irrefl _ (sound.layout.playerIds _ taken)
            refine (Table.mem_tryEmplace_iff fresh).mpr ?_
            rcases Table.lookup_adjust_cases present with ⟨rfl, old, stored, rfl⟩ | ⟨_, stored⟩
            · exact .inl (Option.some.inj current).symm
            · exact .inr (h.present otherId other objectId stored current)
          · intro otherId other present
            rw [step.sessions] at present
            rcases Table.lookup_adjust_cases present with ⟨rfl, old, stored, rfl⟩ | ⟨_, stored⟩
            · exact h.spectates otherId old stored
            · exact h.spectates otherId other stored
      | recalled sessionId session object now notifyRSeq found staying current alive step =>
          exact h.markLeaving step
  | mark sessionId reason now notifyRSeq notRecalled step => exact h.markLeaving step
  | detach sessionId session found pending step =>
      have consistent := sound.leaves sessionId session found
      have step := step (consistent.unreported (by simp [PlayerSession.isDetached, pending]))
      constructor
      · intro otherId other objectId present current
        rw [step.sessions] at present
        rcases Table.lookup_adjust_cases present with ⟨_, _, _, rfl⟩ | ⟨ne, stored⟩
        · cases current
        · have mem := h.present otherId other objectId stored current
          rw [step.objects]
          cases mine : session.objectId with
          | none => exact mem
          | some removed =>
              refine AList.mem_erase.mpr ⟨?_, mem⟩
              rintro rfl
              exact ne (sound.owners otherId sessionId other session _ stored found current mine)
      · intro otherId other present pendingThen
        rw [step.sessions] at present
        rcases Table.lookup_adjust_cases present with ⟨_, _, _, rfl⟩ | ⟨_, stored⟩
        · cases pendingThen
        · exact h.spectates otherId other stored pendingThen
  | finalize sessionId session found detached step =>
      have consistent := sound.leaves sessionId session found
      have reported := consistent.reported.trans
        (show session.isDetached = true by simp [PlayerSession.isDetached, detached])
      refine h.writeSession (step reported) (fun _ => rfl) fun session _ pending => ?_
      cases pending

theorem Moves.attended (moves : Moves spawner before after) (sound : before.Sound)
    (h : before.Attended)
    : after.Attended := by
  induction moves with
  | refl => exact h
  | tail moves move ih => exact move.attended (Moves.sound moves sound) ih

-----------------------------------------------------------------------------------------
-- Turns in which holders leave
-----------------------------------------------------------------------------------------

/-- A turn that changes at most the holder. -/
def LeaveTurn (reason : Option Nat → Option Nat → Prop) (before after : RoomHost)
    (objectId : Nat)
    : Prop :=
  Unmoved before after objectId
    ∨ ∃ old new, HandedOver (fun old target => reason old.targetId target) before after objectId
      old new

/-- A reason that only gives authority back. -/
def GivesBack (reason : Option Nat → Option Nat → Prop) : Prop :=
  ∀ old target, reason old target → old ≠ none ∧ target = none

namespace LeaveTurn

variable {reason : Option Nat → Option Nat → Prop} {objectId : Nat}

theorem mono {weaker : Option Nat → Option Nat → Prop}
    (turn : LeaveTurn reason before after objectId)
    (weaken : ∀ old target, reason old target → weaker old target)
    : LeaveTurn weaker before after objectId := by
  rcases turn with same | ⟨old, new, handed⟩
  · exact .inl same
  · exact .inr ⟨old, new, { handed with because := weaken _ _ handed.because }⟩

/-- Two turns in a row change the holder once: nobody gives back what nobody has. -/
theorem trans (givesBack : GivesBack reason) (first : LeaveTurn reason before middle objectId)
    (second : LeaveTurn reason middle after objectId)
    (members : middle.room.playerSessions.keys = before.room.playerSessions.keys)
    (hears : after.receivers.Sublist middle.receivers)
    : LeaveTurn reason before after objectId := by
  rcases first with same | ⟨old, new, handed⟩
  · rcases second with same' | ⟨old, new, handed⟩
    · exact .inl ⟨fun authority held => same.authority _ (same'.authority _ held),
        same'.notices.trans same.notices⟩
    · obtain ⟨audience, told⟩ := handed.told
      have sessionIds : middle.sessionIds = before.sessionIds :=
        congrArg (List.map (BitVec.ofNat 16)) members
      refine .inr ⟨old, new,
        { handed with
          held := same.authority old handed.held
          told := ⟨audience, sessionIds ▸ told.members, told.hears, ?_⟩ }⟩
      rw [told.notices, same.notices]
  · rcases second with same | ⟨old', new', handed'⟩
    · obtain ⟨audience, told⟩ := handed.told
      exact .inr ⟨old, new,
        { handed with
          holds := fun authority held => handed.holds _ (same.authority authority held)
          told := ⟨audience, told.members, hears.trans told.hears,
            same.notices.trans told.notices⟩ }⟩
    · have idle := (givesBack _ _ handed.because).2
      have busy := (givesBack _ _ handed'.because).1
      rw [handed.holds old' handed'.held] at busy
      exact absurd idle busy

theorem turn (h : LeaveTurn reason before after objectId)
    : NpcTurn (fun old target => reason old.targetId target) before after objectId := by
  rcases h with same | handed
  · exact .inl same.kept
  · exact .inr handed

/-- Who had no authority does not get it. -/
theorem untargeted (givesBack : GivesBack reason)
    (turn : LeaveTurn reason before after objectId) {holder : Nat}
    (without : ∀ authority, before.room.npcAuthority objectId = some authority →
      authority.targetId ≠ some holder)
    (authority : Authority) (held : after.room.npcAuthority objectId = some authority)
    : authority.targetId ≠ some holder := by
  rcases turn with same | ⟨old, new, handed⟩
  · exact without authority (same.authority authority held)
  · rw [handed.holds authority held, (givesBack _ _ handed.because).2]
    exact (Option.some_ne_none holder).symm

end LeaveTurn

/-- NPCs are stored under their own ids, and their aggro is in order. -/
def NpcsGoverned (host : RoomHost) : Prop :=
  ∀ objectId authority, host.room.npcAuthority objectId = some authority →
    authority.objectId = objectId ∧ authority.Governed

-----------------------------------------------------------------------------------------
-- Releases
-----------------------------------------------------------------------------------------

/-- A player's authority is given back. -/
def byHolder (holder : Nat) (old target : Option Nat) : Prop :=
  old = some holder ∧ target = none

theorem byHolder_givesBack (holder : Nat) : GivesBack (byHolder holder) := by
  rintro old target ⟨rfl, idle⟩
  exact ⟨Option.some_ne_none holder, idle⟩

/-- A part of the loop of `ReleaseNpcAuthority`. -/
structure Releases (holder : Nat) (before after : RoomHost) : Prop where
  recorded : before.Recorded → after.Recorded
  turn : ∀ objectId, LeaveTurn (byHolder holder) before after objectId
  sessions : after.room.playerSessions = before.room.playerSessions
  playerObjects : after.room.playerObjects = before.room.playerObjects

namespace Releases

variable {holder : Nat}

theorem refl (host : RoomHost) : Releases holder host host :=
  ⟨id, fun _ => .inl ⟨fun _ => id, rfl⟩, rfl, rfl⟩

theorem trans (first : Releases holder before middle) (second : Releases holder middle after)
    : Releases holder before after where
  recorded := second.recorded ∘ first.recorded
  turn objectId := by
    refine (first.turn objectId).trans (byHolder_givesBack holder) (second.turn objectId) ?_ ?_
    · exact congrArg AList.keys first.sessions
    · unfold receivers
      rw [second.sessions]
  sessions := second.sessions.trans first.sessions
  playerObjects := second.playerObjects.trans first.playerObjects

theorem governed (h : Releases holder before after) (governed : before.NpcsGoverned)
    : after.NpcsGoverned := by
  intro objectId authority held
  rcases h.turn objectId with same | ⟨old, new, handed⟩
  · exact governed objectId authority (same.authority authority held)
  · obtain ⟨named, sound⟩ := governed objectId old handed.held
    rw [handed.holds authority held]
    exact ⟨handed.sameId.trans named, handed.governed sound⟩

/-- A loop over NPCs, by induction on their ids: each keeps what its turn gives it. -/
theorem foldl {step : RoomHost → Nat → RoomHost}
    (turn : ∀ host npcId, host.NpcsGoverned → Releases holder host (step host npcId)
      ∧ ∀ authority, (step host npcId).room.npcAuthority npcId = some authority →
        authority.targetId ≠ some holder)
    (npcIds : List Nat) (host : RoomHost) (governed : host.NpcsGoverned)
    : Releases holder host (npcIds.foldl step host)
      ∧ ∀ npcId ∈ npcIds, ∀ authority,
        (npcIds.foldl step host).room.npcAuthority npcId = some authority →
          authority.targetId ≠ some holder := by
  induction npcIds generalizing host with
  | nil => exact ⟨refl host, fun npcId mem => by cases mem⟩
  | cons npcId rest ih =>
      obtain ⟨released, without⟩ := turn host npcId governed
      obtain ⟨later, others⟩ := ih (step host npcId) (released.governed governed)
      refine ⟨released.trans later, fun otherId mem => ?_⟩
      rcases List.mem_cons.mp mem with rfl | mem
      · exact (later.turn otherId).untargeted (byHolder_givesBack holder) without
      · exact others otherId mem

end Releases

/-- A write to a dynamic NPC. -/
theorem adjustNpc_writes {room : GameRoom} {npcId : Nat} {npc : HostileNPC}
    (stored : (room.dynamicObjects.lookup npcId).bind NonplayerObject.asHostileNpc = some npc)
    (changed : HostileNPC)
    : WritesNpc room
        { room with
          dynamicObjects := room.dynamicObjects.adjust npcId fun _ => .hostileNpc changed }
        npcId changed := by
  refine ⟨rfl, fun objectId => ?_⟩
  unfold GameRoom.npcAuthority
  dsimp only
  rw [Table.lookup_adjust]
  split
  · next here =>
      subst here
      obtain ⟨object, present, _⟩ := Option.bind_eq_some_iff.mp stored
      rw [present]
      rfl
  · rfl

/-- Taking one NPC back from its holder. -/
theorem release_releases (env : Environment) {host : RoomHost} (governed : host.NpcsGoverned)
    {npcId holder : Nat} {npc : HostileNPC}
    (stored : (host.room.dynamicObjects.lookup npcId).bind NonplayerObject.asHostileNpc
      = some npc)
    (holds : npc.targetId = some holder) {released : HostileNPC}
    (idle : released = { npc with aggro := npc.minAggro, targetId := none })
    {after : RoomHost}
    (step : after = (host.modifyRoom fun room =>
        { room with
          dynamicObjects :=
            room.dynamicObjects.adjust npcId fun _ => .hostileNpc released }
      ).notifyNpcAuthority env released)
    : Releases holder host after
      ∧ ∀ authority, after.room.npcAuthority npcId = some authority →
        authority.targetId ≠ some holder := by
  subst idle step
  have held : host.room.npcAuthority npcId = some npc.authority := by
    rw [GameRoom.npcAuthority, stored]
    rfl
  obtain ⟨named, sound⟩ := governed npcId _ held
  have written := adjustNpc_writes stored { npc with aggro := npc.minAggro, targetId := none }
  have idle : ({ npc with aggro := npc.minAggro, targetId := none }
      : HostileNPC).authority.Governed :=
    ⟨sound.bounds, Int.le_refl _, sound.bounds.le, fun _ => rfl, fun _ => rfl⟩
  have changed : none ≠ npc.targetId :=
    fun same => Option.some_ne_none holder (holds.symm.trans same.symm)
  have handed : HandedOver (fun old target => byHolder holder old.targetId target) host _ npcId
      _ _ :=
    written.announced env held named named idle changed ⟨holds, rfl⟩
  refine ⟨⟨?_, fun objectId => ?_, ?_, ?_⟩, fun authority present => ?_⟩
  · exact (host.modifyRoom _).broadcastExcept_recorded env _ none
  · by_cases here : objectId = npcId
    · subst here
      exact .inr ⟨_, _, handed⟩
    · exact .inl (written.announced_other env named here)
  · rw [notifyNpcAuthority_room]
    rfl
  · rw [notifyNpcAuthority_room]
    rfl
  · rw [handed.holds authority present]
    exact (Option.some_ne_none holder).symm

/-- The whole loop: nobody follows the player any more. -/
theorem releaseNpcAuthority_releases (env : Environment) (host : RoomHost)
    (governed : host.NpcsGoverned) (holder : Nat)
    : Releases holder host (host.releaseNpcAuthority env (some holder))
      ∧ ∀ npcId authority,
        (host.releaseNpcAuthority env (some holder)).room.npcAuthority npcId = some authority →
          authority.targetId ≠ some holder := by
  have loop : Releases holder host (host.releaseNpcAuthority env (some holder))
      ∧ ∀ npcId ∈ host.room.dynamicObjects.keys, ∀ authority,
        (host.releaseNpcAuthority env (some holder)).room.npcAuthority npcId = some authority →
          authority.targetId ≠ some holder := by
    refine Releases.foldl (fun host npcId governed => ?_) _ host governed
    split
    · next missing =>
        refine ⟨.refl host, fun authority held => ?_⟩
        rw [GameRoom.npcAuthority, missing] at held
        cases held
    · next npc stored =>
        have held : host.room.npcAuthority npcId = some npc.authority := by
          rw [GameRoom.npcAuthority, stored]
          rfl
        split
        · next other =>
            refine ⟨.refl host, fun authority present holds => ?_⟩
            have same : npc.authority = authority := Option.some.inj (held.symm.trans present)
            subst same
            have mine : npc.isAuthority holder = true := beq_iff_eq.mpr holds
            rw [mine] at other
            cases other
        · next mine =>
            have holds : npc.targetId = some holder := by
              simpa [HostileNPC.isAuthority] using mine
            rw [HostileNPC.releaseAuthority_released holds]
            exact release_releases env governed stored holds rfl rfl
  refine ⟨loop.1, fun npcId authority held => ?_⟩
  refine loop.2 npcId ?_ authority held
  have present : ∃ authority, host.room.npcAuthority npcId = some authority := by
    rcases loop.1.turn npcId with same | ⟨old, new, handed⟩
    · exact ⟨authority, same.authority authority held⟩
    · exact ⟨old, handed.held⟩
  obtain ⟨authority, stored⟩ := present
  obtain ⟨npc, found, _⟩ := Option.map_eq_some_iff.mp stored
  obtain ⟨object, found, _⟩ := Option.bind_eq_some_iff.mp found
  exact AList.mem_keys.mp (Table.mem_of_lookup found)

-----------------------------------------------------------------------------------------
-- Leaves
-----------------------------------------------------------------------------------------

/-- Authority is given back by a player whose object is gone. -/
def byLeaver (after : RoomHost) (old target : Option Nat) : Prop :=
  ∃ holder, byHolder holder old target ∧ holder ∉ after.room.playerObjects

theorem byLeaver_givesBack (after : RoomHost) : GivesBack (byLeaver after) := by
  rintro old target ⟨holder, back, _⟩
  exact byHolder_givesBack holder old target back

/-- A part of the pass that detaches the leaving sessions. -/
structure Leaving (before after : RoomHost) : Prop where
  recorded : before.Recorded → after.Recorded
  turn : ∀ objectId, LeaveTurn (byLeaver after) before after objectId
  sessionIds : after.room.playerSessions.keys = before.room.playerSessions.keys
  hears : after.receivers.Sublist before.receivers
  remain : ∀ objectId, objectId ∈ after.room.playerObjects → objectId ∈ before.room.playerObjects
  /-- NPCs do not follow those who are gone. -/
  untargeted : ∀ holder, holder ∈ before.room.playerObjects →
    holder ∉ after.room.playerObjects →
    ∀ npcId authority, after.room.npcAuthority npcId = some authority →
      authority.targetId ≠ some holder

theorem receivers_modifySession (host : RoomHost) {sessionId : Nat}
    {f : PlayerSession → PlayerSession}
    (fewer : ∀ session, host.room.playerSessions.lookup sessionId = some session →
      (f session).canReceiveBroadcast = true → session.canReceiveBroadcast = true)
    : (host.modifySession sessionId f).receivers.Sublist host.receivers := by
  have narrowed : (host.modifySession sessionId f).receivers
      = (host.room.playerSessions.entries.filter fun entry =>
          (if entry.1 = sessionId then f entry.2 else entry.2).canReceiveBroadcast).map
        fun entry => BitVec.ofNat 16 entry.1 := by
    unfold receivers modifySession modifyRoom GameRoom.modifySession Table.adjust
      Table.mapWithKey
    rw [List.filter_map, List.map_map]
    rfl
  have both : (host.room.playerSessions.entries.filter fun entry =>
        (if entry.1 = sessionId then f entry.2 else entry.2).canReceiveBroadcast)
      = (host.room.playerSessions.entries.filter (·.2.canReceiveBroadcast)).filter fun entry =>
        (if entry.1 = sessionId then f entry.2 else entry.2).canReceiveBroadcast := by
    rw [List.filter_filter]
    apply List.filter_congr
    rintro ⟨otherId, session⟩ mem
    have found := Table.mem_entries_iff.mp mem
    dsimp only
    split
    · next here =>
        subst here
        cases heard : (f session).canReceiveBroadcast with
        | false => rfl
        | true => exact (fewer session found heard).symm
    · exact (Bool.and_self _).symm
  rw [narrowed, both]
  exact List.filter_sublist.map _

namespace Leaving

theorem of_calm (calm : Calm before after) (hears : after.receivers.Sublist before.receivers)
    : Leaving before after where
  recorded := calm.recorded
  turn objectId := .inl (calm.unmoved objectId)
  sessionIds := calm.sessionIds
  hears := hears
  remain _ mem := calm.playerObjects ▸ mem
  untargeted _ mem gone := absurd (calm.playerObjects ▸ mem) gone

theorem refl (host : RoomHost) : Leaving host host :=
  .of_calm (.refl host) (List.Sublist.refl _)

theorem trans (first : Leaving before middle) (second : Leaving middle after)
    : Leaving before after where
  recorded := second.recorded ∘ first.recorded
  turn objectId := by
    refine LeaveTurn.trans (byLeaver_givesBack after) ?_ (second.turn objectId)
      first.sessionIds second.hears
    refine (first.turn objectId).mono ?_
    rintro old target ⟨holder, back, gone⟩
    exact ⟨holder, back, fun mem => gone (second.remain holder mem)⟩
  sessionIds := second.sessionIds.trans first.sessionIds
  hears := second.hears.trans first.hears
  remain objectId mem := first.remain objectId (second.remain objectId mem)
  untargeted holder mem gone npcId := by
    by_cases staying : holder ∈ middle.room.playerObjects
    · exact second.untargeted holder staying gone npcId
    · exact (second.turn npcId).untargeted (byLeaver_givesBack after)
        (first.untargeted holder mem staying npcId)

theorem governed (h : Leaving before after) (governed : before.NpcsGoverned)
    : after.NpcsGoverned := by
  intro objectId authority held
  rcases h.turn objectId with same | ⟨old, new, handed⟩
  · exact governed objectId authority (same.authority authority held)
  · obtain ⟨named, sound⟩ := governed objectId old handed.held
    rw [handed.holds authority held]
    exact ⟨handed.sameId.trans named, handed.governed sound⟩

/-- A last step that writes a session which hears no more than before. -/
theorem modifySession (first : Leaving before middle) {sessionId : Nat}
    {f : PlayerSession → PlayerSession}
    (fewer : ∀ session, middle.room.playerSessions.lookup sessionId = some session →
      (f session).canReceiveBroadcast = true → session.canReceiveBroadcast = true)
    : Leaving before (middle.modifySession sessionId f) :=
  first.trans (.of_calm ((Calm.refl middle).modifySession sessionId f)
    (middle.receivers_modifySession fewer))

/-- A last step that leaves the sessions alone. -/
theorem calm (first : Leaving before middle) (calm : Calm middle after)
    (sessions : after.room.playerSessions = middle.room.playerSessions)
    : Leaving before after := by
  refine first.trans (.of_calm calm ?_)
  unfold receivers
  rw [sessions]

theorem broadcastExcept (first : Leaving before middle) (env : Environment)
    (exceptSessionId : Option Nat) {message : D2CMessage}
    (other : message.isNpcAuthority = false)
    : Leaving before (middle.broadcastExcept env message exceptSessionId) :=
  first.calm ((Calm.refl middle).broadcastExcept env exceptSessionId other)
    (congrArg GameRoom.playerSessions (middle.broadcastExcept_room env message exceptSessionId))

/-- The object of a player whom no NPC follows leaves the room. -/
theorem erase (first : Leaving before middle) {holder : Nat}
    (without : ∀ npcId authority, middle.room.npcAuthority npcId = some authority →
      authority.targetId ≠ some holder)
    : Leaving before (middle.modifyRoom fun room =>
        { room with playerObjects := AList.erase holder room.playerObjects }) := by
  refine first.trans ⟨id, fun objectId => .inl ⟨fun _ => id, rfl⟩, rfl, List.Sublist.refl _,
    fun objectId mem => (AList.mem_erase.mp mem).2, fun other mem gone => ?_⟩
  have same : other = holder := by
    by_contra different
    exact gone (AList.mem_erase.mpr ⟨different, mem⟩)
  exact same ▸ without

/-- A player whose object is gone has given its authority back first. -/
theorem of_releases {holder : Nat} (released : Releases holder before middle)
    (rest : Leaving middle after) (gone : holder ∉ after.room.playerObjects)
    : Leaving before after where
  recorded := rest.recorded ∘ released.recorded
  turn objectId := by
    refine LeaveTurn.trans (byLeaver_givesBack after) ?_ (rest.turn objectId) ?_ rest.hears
    · exact (released.turn objectId).mono fun old target back => ⟨holder, back, gone⟩
    · exact congrArg AList.keys released.sessions
  sessionIds := rest.sessionIds.trans (congrArg AList.keys released.sessions)
  hears := by
    refine rest.hears.trans ?_
    unfold receivers
    rw [released.sessions]
  remain objectId mem := released.playerObjects ▸ rest.remain objectId mem
  untargeted other mem := rest.untargeted other (released.playerObjects ▸ mem)

end Leaving

/-- A new container is no NPC. -/
theorem npcAuthority_of_container {room : GameRoom} {boxId : Nat}
    (fresh : boxId ∉ room.dynamicObjects) {box : Container} {objectId : Nat}
    {authority : Authority}
    (held : GameRoom.npcAuthority
      { room with dynamicObjects := room.dynamicObjects.tryEmplace boxId (.container box) }
      objectId = some authority)
    : room.npcAuthority objectId = some authority := by
  unfold GameRoom.npcAuthority at held ⊢
  by_cases here : objectId = boxId
  · subst here
    dsimp only at held
    rw [Table.lookup_tryEmplace_fresh fresh] at held
    cases held
  · dsimp only at held
    rwa [Table.lookup_tryEmplace_ne here] at held

section Detaching

variable (env : Environment) (host : RoomHost)

theorem spawnPlayerLootContainer_leaving (object : PlayerObject) (inventory : PlayerInventory)
    : Leaving host (host.spawnPlayerLootContainer env object inventory) := by
  have counted : Leaving host host.getNewObjectId.1 :=
    (Leaving.refl host).calm ⟨⟨id, fun _ _ => id, fun _ => rfl⟩, rfl, rfl⟩ rfl
  unfold spawnPlayerLootContainer spawnDynamicObject
  dsimp only
  split
  · exact counted
  · next fresh =>
      refine Leaving.broadcastExcept ?_ env none rfl
      refine counted.calm ⟨⟨id, fun objectId authority held => ?_, fun _ => rfl⟩, rfl, rfl⟩ rfl
      exact npcAuthority_of_container fresh held

theorem notifyLeftOnce_leaving (sessionId : Nat)
    : Leaving host (host.notifyLeftOnce sessionId) := by
  refine .of_calm (notifyLeftOnce_backstage host sessionId).calm ?_
  unfold notifyLeftOnce
  split
  · exact List.Sublist.refl _
  · split
    · exact List.Sublist.refl _
    · exact host.receivers_modifySession fun _ _ => id

theorem finalizeLeave_leaving (sessionId : Nat)
    : Leaving host (host.finalizeLeave sessionId) := by
  have cleared := (host.clearPendingReliableExcept_backstage sessionId 0).calm
  refine Leaving.trans ?_ (notifyLeftOnce_leaving _ sessionId)
  refine Leaving.modifySession (.of_calm cleared (List.Sublist.refl _)) ?_
  intro session _ hears
  cases hears

theorem checkAllLeft_leaving : Leaving host host.checkAllLeft := by
  refine .of_calm (checkAllLeft_backstage host).calm ?_
  unfold checkAllLeft
  split
  · exact List.Sublist.refl _
  · split <;> exact List.Sublist.refl _

theorem releaseInteractingContainer_leaving (sessionId : Nat)
    : Leaving host (host.modifyRoom (·.releaseInteractingContainer sessionId)) := by
  have players := releaseInteractingContainer_players sessionId host.room
  have plain := GameRoom.Plain.releaseInteractingContainer sessionId host.room
  have sessions : (host.modifyRoom (·.releaseInteractingContainer sessionId)).receivers
      = (host.modifySession sessionId ({ · with interactingContainerId := none })).receivers := by
    have written := congrArg Prod.fst players
    dsimp only at written
    unfold receivers modifyRoom
    dsimp only
    rw [written]
    rfl
  refine .of_calm ⟨⟨id, plain.npcs, fun _ => rfl⟩, congrArg Prod.snd players,
    plain.sessions.keys⟩ ?_
  rw [sessions]
  exact host.receivers_modifySession fun _ _ => id

/-- A player's object is withdrawn after its authority has been given back. -/
theorem detachObject_leaving (sessionId objectId : Nat) (object : PlayerObject)
    (inventory : PlayerInventory) (reason : LeaveReason)
    (without : ∀ npcId authority, host.room.npcAuthority npcId = some authority →
      authority.targetId ≠ some objectId)
    : Leaving host (host.detachObject env sessionId objectId object inventory reason)
      ∧ objectId ∉ (host.detachObject env sessionId objectId object inventory
        reason).room.playerObjects := by
  unfold detachObject
  extract_lets spawned killerObjectId looted cleared erased
  have afterLoot : Leaving host looted := by
    unfold looted
    split
    · exact (spawnPlayerLootContainer_leaving env host object inventory).broadcastExcept env
        none rfl
    · exact .refl host
  have afterClear : Leaving host cleared := by
    unfold cleared
    split
    · exact afterLoot.modifySession fun _ _ => id
    · exact afterLoot
  have afterErase : Leaving host erased :=
    afterClear.erase fun npcId authority held =>
      (afterClear.turn npcId).untargeted (byLeaver_givesBack cleared) (without npcId) authority
        held
  refine ⟨afterErase.broadcastExcept env (some sessionId) rfl, ?_⟩
  rw [broadcastExcept_room]
  exact fun mem => (AList.mem_erase.mp mem).1 rfl

/-- The dead go on watching, so a detach lets nobody begin to hear. -/
theorem detachPlayer_leaving (governed : host.NpcsGoverned) (attended : host.Attended)
    {sessionId : Nat} {session : PlayerSession}
    (found : host.room.playerSessions.lookup sessionId = some session)
    (pending : session.leaveState = .pending)
    : Leaving host (host.detachPlayer env sessionId) := by
  unfold detachPlayer
  simp -zeta only [found]
  extract_lets objectId reason stopped freed released withdrawn detached
  have afterStop : Leaving host stopped := by
    refine (Leaving.refl host).modifySession fun session' found' hears => ?_
    have same : session = session' := Option.some.inj (found.symm.trans found')
    subst same
    by_cases dead : session.leaveReason = .dead
    · have watching := attended.spectates sessionId session found pending dead
      simp [PlayerSession.canReceiveBroadcast, PlayerSession.isSpectating, watching]
    · have left : ({ session.endRecall with
          sessionState := if reason = LeaveReason.dead then .spectating else .left }
          : PlayerSession).canReceiveBroadcast = false := by
        have alive : reason ≠ LeaveReason.dead := dead
        rw [if_neg alive]
        rfl
      exact absurd (left.symm.trans hears) Bool.false_ne_true
  have afterFree : Leaving host freed :=
    afterStop.trans (releaseInteractingContainer_leaving stopped sessionId)
  have finish : Leaving withdrawn (detached.notifyLeftOnce sessionId) := by
    refine Leaving.trans ?_ (notifyLeftOnce_leaving _ sessionId)
    exact (Leaving.refl withdrawn).modifySession fun _ _ => id
  have objects : (detached.notifyLeftOnce sessionId).room.playerObjects
      = withdrawn.room.playerObjects :=
    (notifyLeftOnce_backstage detached sessionId).calm.playerObjects
  refine afterFree.trans ?_
  cases current : session.objectId with
  | none =>
      have idle : withdrawn = freed := by
        unfold withdrawn released objectId
        rw [current]
        rfl
      rwa [idle] at finish
  | some holder =>
      obtain ⟨given, without⟩ :=
        releaseNpcAuthority_releases env freed (afterFree.governed governed) holder
      have same : released = freed.releaseNpcAuthority env (some holder) := by
        unfold released objectId
        rw [current]
      rw [← same] at given without
      have withdrawal : Leaving released withdrawn
          ∧ holder ∉ withdrawn.room.playerObjects := by
        unfold withdrawn objectId
        rw [current]
        dsimp only
        split
        · next missing => exact ⟨.refl released, AList.lookup_eq_none.mp missing⟩
        · exact detachObject_leaving env released sessionId holder _ _ _ without
      refine .of_releases given (withdrawal.1.trans finish) ?_
      rw [objects]
      exact withdrawal.2

theorem advanceLeave_leaving (now : TimePoint) (governed : host.NpcsGoverned)
    (attended : host.Attended) (sessionId : Nat)
    : Leaving host (host.advanceLeave env now sessionId) := by
  unfold advanceLeave
  extract_lets detached
  have afterDetach : Leaving host detached := by
    unfold detached
    split
    · exact .refl host
    · next session found =>
        split
        · next pending => exact detachPlayer_leaving env host governed attended found pending
        · exact .refl host
  split
  · exact afterDetach
  · split
    · exact afterDetach.trans (finalizeLeave_leaving detached sessionId)
    · exact afterDetach

/-- What the players of a room know about its leaves at any time. -/
structure Orderly (host : RoomHost) : Prop where
  sound : host.Sound
  attended : host.Attended
  governed : host.NpcsGoverned

/-- The loop over the sessions, by induction on their ids. -/
theorem advanceLeaves_leaving (now : TimePoint) (sessionIds : List Nat)
    (orderly : host.Orderly)
    : Leaving host (sessionIds.foldl (advanceLeave env now) host) := by
  induction sessionIds generalizing host with
  | nil => exact .refl host
  | cons sessionId rest ih =>
      have step := advanceLeave_leaving env host now orderly.governed orderly.attended sessionId
      have moves : Moves (fun _ _ => true) host (host.advanceLeave env now sessionId) :=
        advanceLeave_moves env now host sessionId
      exact step.trans (ih _ ⟨moves.sound orderly.sound,
        moves.attended orderly.sound orderly.attended, step.governed orderly.governed⟩)

/-- What `ProcessLeaves` does to the NPCs. -/
structure LeavesPass (before after : RoomHost) : Prop where
  recorded : before.Recorded → after.Recorded
  turn : ∀ objectId, LeaveTurn (byLeaver after) before after objectId
  untargeted : ∀ holder, holder ∈ before.room.playerObjects →
    holder ∉ after.room.playerObjects →
    ∀ npcId authority, after.room.npcAuthority npcId = some authority →
      authority.targetId ≠ some holder

theorem processLeaves_pass (orderly : host.Orderly)
    : LeavesPass host (host.processLeaves env) := by
  unfold processLeaves
  dsimp -zeta only
  extract_lets marked
  have calm : Calm host marked :=
    ((host.now_backstage env).trans (markLeaves_backstage env _ _)).calm
  have moves : Moves (fun _ _ => true) host marked :=
    (Moves.quiet (host.now_outcome env)).trans (markLeaves_moves _ _)
  have governed : marked.NpcsGoverned :=
    fun objectId authority held => orderly.governed objectId authority (calm.npcs _ _ held)
  have rest := (advanceLeaves_leaving env marked (host.now env).2 marked.room.playerSessions.keys
    ⟨moves.sound orderly.sound, moves.attended orderly.sound orderly.attended, governed⟩).trans
      (checkAllLeft_leaving _)
  refine ⟨rest.recorded ∘ calm.recorded, fun objectId => ?_, fun holder mem => ?_⟩
  · exact LeaveTurn.trans (byLeaver_givesBack _) (.inl (calm.unmoved objectId))
      (rest.turn objectId) calm.sessionIds rest.hears
  · rw [← calm.playerObjects] at mem
    exact rest.untargeted holder mem

end Detaching

end RoomHost

end ExtractionServer.Room
