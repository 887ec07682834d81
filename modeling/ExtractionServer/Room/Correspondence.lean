import ExtractionServer.Room.RoomRuns

/-! Sessions and player objects. They stay in one-to-one correspondence as long as no session
spawns while it has an object; a second spawn leaves the first object without an owner.
-/

namespace ExtractionServer.Room

open Transport

namespace GameRoom

/-- One-to-one correspondence of player objects and the sessions still in the room. -/
structure Corresponds (room : GameRoom) : Prop where
  owned : ∀ objectId, objectId ∈ room.playerObjects → ∃! sessionId, ∃ session,
    room.playerSessions.lookup sessionId = some session
      ∧ session.isDetached = false ∧ session.objectId = some objectId
  present : ∀ sessionId session objectId,
    room.playerSessions.lookup sessionId = some session →
      session.objectId = some objectId → objectId ∈ room.playerObjects

/-- The two existence halves, which every move is checked for. -/
structure Matched (room : GameRoom) : Prop where
  owned : ∀ objectId, objectId ∈ room.playerObjects → ∃ sessionId session,
    room.playerSessions.lookup sessionId = some session ∧ session.objectId = some objectId
  present : ∀ sessionId session objectId,
    room.playerSessions.lookup sessionId = some session →
      session.objectId = some objectId → objectId ∈ room.playerObjects

end GameRoom

namespace RoomHost

/-- In a sound room the owner of an object is unique and still in the room. -/
theorem Sound.corresponds {host : RoomHost} (sound : host.Sound)
    (matched : host.room.Matched)
    : host.room.Corresponds where
  owned objectId mem := by
    obtain ⟨sessionId, session, found, current⟩ := matched.owned objectId mem
    refine ⟨sessionId, ⟨session, found, ?_, current⟩, ?_⟩
    · have consistent := sound.leaves sessionId session found
      rw [← consistent.reported]
      cases reported : session.leftNotified with
      | false => rfl
      | true =>
          rw [consistent.withoutObject reported] at current
          cases current
    · rintro otherId ⟨other, present, _, theirs⟩
      exact sound.owners otherId sessionId other session objectId present found theirs current
  present := matched.present

/-- A session that may spawn. -/
def withoutObject (_ : GameRoom) (session : PlayerSession) : Bool := session.objectId.isNone

variable {before after : RoomHost}

/-- Writing one session without changing its current object keeps the matching. -/
theorem matched_of_writeSession (h : before.room.Matched) {sessionId : Nat}
    {f : PlayerSession → PlayerSession}
    (step : after.outcome = (before.modifySession sessionId f).outcome)
    (same : ∀ session, (f session).objectId = session.objectId)
    : after.room.Matched := by
  rw [room_eq_of_outcome step]
  constructor
  · intro objectId mem
    obtain ⟨otherId, other, found, current⟩ := h.owned objectId mem
    refine ⟨otherId, if otherId = sessionId then f other else other, ?_, ?_⟩
    · simp only [modifySession, modifyRoom, GameRoom.modifySession, Table.lookup_adjust, found]
      split <;> rfl
    · split
      · rw [same, current]
      · exact current
  · intro otherId other objectId found current
    rcases Table.lookup_adjust_cases found with ⟨rfl, old, stored, rfl⟩ | ⟨_, stored⟩
    · exact h.present otherId old objectId stored (same old ▸ current)
    · exact h.present otherId other objectId stored current

/-- A first spawn adds an object together with its owner. -/
theorem Spawned.matched {sessionId : Nat} {session : PlayerSession}
    (step : Spawned sessionId before after) (sound : before.Sound) (h : before.room.Matched)
    (found : before.room.playerSessions.lookup sessionId = some session)
    (first : session.objectId = none)
    : after.room.Matched := by
  obtain ⟨object, _, objects⟩ := step.objects sound.layout
  have fresh : before.room.nxtObjectId ∉ before.room.playerObjects :=
    fun taken => Nat.lt_irrefl _ (sound.layout.playerIds _ taken)
  have enters (objectId : Nat) : objectId ∈ after.room.playerObjects
      ↔ objectId = before.room.nxtObjectId ∨ objectId ∈ before.room.playerObjects := by
    rw [objects, Table.mem_tryEmplace_iff fresh]
  constructor
  · intro objectId mem
    rcases (enters objectId).mp mem with rfl | old
    · refine ⟨sessionId, { session with objectId := some before.room.nxtObjectId }, ?_, rfl⟩
      rw [step.sessions, Table.lookup_adjust_self, found]
      rfl
    · obtain ⟨otherId, other, present, current⟩ := h.owned objectId old
      refine ⟨otherId, other, ?_, current⟩
      rw [step.sessions, Table.lookup_adjust_ne, present]
      rintro rfl
      cases found.symm.trans present
      rw [first] at current
      cases current
  · intro otherId other objectId present current
    rw [step.sessions] at present
    refine (enters objectId).mpr ?_
    rcases Table.lookup_adjust_cases present with ⟨rfl, old, stored, rfl⟩ | ⟨_, stored⟩
    · exact .inl (Option.some.inj current).symm
    · exact .inr (h.present otherId other objectId stored current)

/-- A detach removes an object together with its owner. -/
theorem Detached.matched {sessionId : Nat} {session : PlayerSession}
    (step : Detached sessionId session before after) (sound : before.Sound)
    (h : before.room.Matched)
    (found : before.room.playerSessions.lookup sessionId = some session)
    : after.room.Matched := by
  have remains (objectId : Nat) : objectId ∈ after.room.playerObjects
      ↔ session.objectId ≠ some objectId ∧ objectId ∈ before.room.playerObjects := by
    rw [step.objects]
    cases current : session.objectId with
    | none => simp [GameRoom.objectsWithout]
    | some removed =>
        simp [GameRoom.objectsWithout, eq_comm]
  constructor
  · intro objectId mem
    obtain ⟨ne, old⟩ := (remains objectId).mp mem
    obtain ⟨otherId, other, present, current⟩ := h.owned objectId old
    refine ⟨otherId, other, ?_, current⟩
    rw [step.sessions, Table.lookup_adjust_ne, present]
    rintro rfl
    cases found.symm.trans present
    exact ne current
  · intro otherId other objectId present current
    rw [step.sessions] at present
    rcases Table.lookup_adjust_cases present with ⟨_, _, _, rfl⟩ | ⟨ne, stored⟩
    · cases current
    · refine (remains objectId).mpr ⟨fun mine => ne ?_, ?_⟩
      · exact sound.owners otherId sessionId other session objectId stored found current mine
      · exact h.present otherId other objectId stored current

/-- Moves keep the matching if sessions spawn only without an object. -/
theorem Move.matched (move : Move withoutObject before after) (sound : before.Sound)
    (h : before.room.Matched)
    : after.room.Matched := by
  cases move with
  | act step =>
      cases step with
      | ordinary actor step active =>
          constructor
          · intro objectId mem
            obtain ⟨sessionId, session, found, current⟩ :=
              h.owned objectId ((step.room.objects.mem_iff objectId).mp mem)
            obtain ⟨later, stored, goes, _⟩ := step.room.sessions.new_of_old found
            exact ⟨sessionId, later, stored, goes.objectId.trans current⟩
          · intro sessionId session objectId found current
            obtain ⟨old, stored, goes, _⟩ := step.room.sessions.old_of_new found
            exact (step.room.objects.mem_iff objectId).mpr
              (h.present sessionId old objectId stored (goes.objectId ▸ current))
      | spawn sessionId session found active meets step =>
          exact step.matched sound h found (Option.isNone_iff_eq_none.mp meets)
      | recalled sessionId session object now notifyRSeq found staying current alive step =>
          exact matched_of_writeSession h step fun session =>
            session.markLeaving_objectId .recalled now notifyRSeq
  | mark sessionId reason now notifyRSeq notRecalled step =>
      exact matched_of_writeSession h step fun session =>
        session.markLeaving_objectId reason now notifyRSeq
  | detach sessionId session found pending step =>
      have consistent := sound.leaves sessionId session found
      refine (step ?_).matched sound h found
      exact consistent.unreported (by simp [PlayerSession.isDetached, pending])
  | finalize sessionId session found detached step =>
      have consistent := sound.leaves sessionId session found
      have reported := consistent.reported.trans
        (show session.isDetached = true by simp [PlayerSession.isDetached, detached])
      exact matched_of_writeSession h (step reported) fun _ => rfl

/-- Moves in sequence, by induction. -/
theorem Moves.matched (moves : Moves withoutObject before after) (sound : before.Sound)
    (h : before.room.Matched)
    : after.room.Matched := by
  induction moves with
  | refl => exact h
  | tail moves move ih => exact move.matched (Moves.sound moves sound) ih

theorem Fresh.matched {host : RoomHost} (h : host.Fresh) : host.room.Matched where
  owned objectId mem := by
    rw [h.playerObjects] at mem
    cases mem
  present sessionId session objectId found current := by
    rw [(h.sessions sessionId session found).objectId] at current
    cases current

/-- In every run in which no active session spawns while it has an object, player objects
and sessions correspond in every state.
-/
theorem corresponds_of_reachable (env : Environment) {host : RoomHost}
    (reached : ((roomSystem env).restrict fun before action _ =>
      before.spawnMeets env withoutObject action = true).Reachable host)
    : host.room.Corresponds := by
  have invariant : Transition.System.Inductive
      ((roomSystem env).restrict fun before action _ =>
        before.spawnMeets env withoutObject action = true)
      fun host => host.Sound ∧ host.room.Matched := by
    constructor
    · intro start fresh
      exact ⟨Fresh.sound fresh, Fresh.matched fresh⟩
    · intro before action after ⟨sound, matched⟩ ⟨step, meets⟩
      have moves := next_moves step meets
      exact ⟨Moves.sound moves sound, Moves.matched moves sound matched⟩
  obtain ⟨sound, matched⟩ := invariant.reachable reached
  exact sound.corresponds matched

/-- Enter the room and spawn: the object has its owner. -/
theorem corresponds_after_spawn
    : (endOf openField (fun before action _ => before.spawnMeets openField withoutObject action)
        soloRoom
        [request 1 1 (.channelOpen ""), request 1 2 .requestSpawnMe]).room.Corresponds :=
  corresponds_of_reachable openField
    (reachable_endOf openField
      (fun before action _ => before.spawnMeets openField withoutObject action)
      soloRoom_fresh _ (by decide +kernel))

/-- Enter the room and spawn twice. -/
def spawnTwice : List Action :=
  [request 1 1 (.channelOpen ""), request 1 2 .requestSpawnMe, request 1 3 .requestSpawnMe]

/-- After a second spawn the first object has lost its owner. -/
theorem not_corresponds_after_second_spawn
    : ∃ host, (roomSystem openField).Reachable host ∧ ¬host.room.Corresponds := by
  let host := endOf openField (fun _ _ _ => true) soloRoom spawnTwice
  have reached := reachable_endOf openField (fun _ _ _ => true) soloRoom_fresh spawnTwice
    (by decide +kernel)
  refine ⟨host, reached.of_restrict, fun corresponds => ?_⟩
  have left : 0 ∈ host.room.playerObjects.keys := by decide +kernel
  have unowned : ∀ session ∈ host.room.playerSessions.values, session.objectId ≠ some 0 := by
    decide +kernel
  obtain ⟨_, ⟨session, found, _, current⟩, _⟩ := corresponds.owned 0 left
  exact unowned session (Table.mem_values_iff.mpr ⟨_, found⟩) current

end RoomHost

end ExtractionServer.Room
