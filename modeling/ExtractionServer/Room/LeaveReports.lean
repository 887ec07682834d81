import ExtractionServer.Room.DeathIsFinal

/-! The report of a leave. The reason is decided once, the session is silent from then on, and
the main process hears of it once, with the items of a recalled player as they were.
-/

namespace ExtractionServer.Room

open Transport

namespace RoomHost

variable {env : Environment} {sessionId : Nat} {session : PlayerSession}

/-- The one notice that a detached session leaves, none before. -/
def reportOf (session : PlayerSession) : List D2MNotifyPlayerLeft :=
  if session.isDetached then
    [{ uid := session.uid
       leaveReason := session.leaveReason
       inventorySlots :=
         if session.leaveReason = .recalled then session.inventory.ipcInventorySlots else []
       equipmentSlots :=
         if session.leaveReason = .recalled then session.inventory.ipcEquipmentSlots else [] }]
  else []

/-- In a sound room the notices about a session are its report. -/
theorem Sound.noticesOf_eq {host : RoomHost} (sound : host.Sound)
    (found : host.room.playerSessions.lookup sessionId = some session)
    : host.noticesOf sessionId = reportOf session := by
  rw [sound.notices sessionId session found,
    (sound.leaves sessionId session found).reported, reportOf]
  split
  · rw [PlayerSession.leftNotice]
    by_cases recalled : session.leaveReason = .recalled
    · simp [recalled]
    · simp [recalled]
  · rfl

/-- A session whose leave is decided is silent: its packets change neither the room nor the
notices.
-/
theorem Sound.handleClientPacket_outcome {host : RoomHost} (sound : host.Sound)
    (found : host.room.playerSessions.lookup sessionId = some session)
    (decided : session.leaveReason = .recalled ∨ session.leaveReason = .dead)
    (header : UDPHeader) (clientAddr : SockAddr) (pkt : C2DPacket)
    : (host.handleClientPacket env sessionId header clientAddr pkt).1.outcome
      = host.outcome := by
  have silent := (sound.leaves sessionId session found).silenced (by
    rcases decided with recalled | dead
    · exact .inl recalled
    · exact .inr (.inl dead))
  unfold handleClientPacket
  rw [found]
  dsimp only
  split
  · exact host.receive_outcome env sessionId header
  · refine (dispatch_outcome_of_inactive env _ sessionId session clientAddr pkt silent.1
      fun _ _ => silent.2).trans ?_
    exact host.receive_outcome env sessionId header

/-- The tick that completes a recall moves no items. -/
theorem Sound.recallTick_inventory {host : RoomHost}
    (found : host.room.playerSessions.lookup sessionId = some session) (timer : RecallTimer)
    : ∃ later, (host.recallTick env timer).room.playerSessions.lookup sessionId = some later
      ∧ later.inventory = session.inventory := by
  rcases host.recallTick_cases env timer with step | completed
  · obtain ⟨later, stored, _, frame⟩ := step.room.sessions.new_of_old found
    exact ⟨later, stored, frame nofun⟩
  · obtain ⟨_, _, _, ready, notifyRSeq, _, _, _, _, _, _, step, _, completes⟩ := completed
    obtain ⟨later, stored, _, frame⟩ := step.room.sessions.new_of_old found
    rw [completes]
    have marked : (ready.markLeaving env timer.sessionId .recalled
          notifyRSeq).room.playerSessions.lookup sessionId
        = if sessionId = timer.sessionId then
            some (later.markLeaving .recalled (env.clock ready.wire.reads) notifyRSeq)
          else some later := by
      refine (Table.lookup_adjust timer.sessionId sessionId _ ready.room.playerSessions).trans ?_
      rw [stored]
      rfl
    rw [marked]
    split
    · exact ⟨_, rfl, (later.markLeaving_inventory .recalled _ notifyRSeq).trans (frame nofun)⟩
    · exact ⟨later, rfl, frame nofun⟩

/-- Leaves are decided once, reported once and frozen. From any reachable state and along any
run from it: the notices about a session are its one report as soon as it is detached; if
its reason is recalled or dead, no packet of it changes the room, the reason stays, and so do
the items of a recalled player. The tick that decides a recall moves no items either.
-/
theorem leaves_decided_once (env : Environment) {host last : RoomHost}
    {actions : List Action} {sessionId : Nat} {session : PlayerSession}
    (reached : (roomSystem env).Reachable host)
    (found : host.room.playerSessions.lookup sessionId = some session)
    (run : (roomSystem env).Run host actions last)
    : (∀ timer, ∃ later,
        (host.recallTick env timer).room.playerSessions.lookup sessionId = some later
          ∧ later.inventory = session.inventory)
      ∧ ∃ later, last.room.playerSessions.lookup sessionId = some later
        ∧ last.noticesOf sessionId = reportOf later
        ∧ (session.isDetached = true →
          last.noticesOf sessionId = host.noticesOf sessionId)
        ∧ (session.leaveReason = .recalled ∨ session.leaveReason = .dead →
          later.leaveReason = session.leaveReason
          ∧ (session.leaveReason = .recalled → later.inventory = session.inventory)
          ∧ ∀ header clientAddr pkt,
            (last.handleClientPacket env sessionId header clientAddr pkt).1.outcome
              = last.outcome) := by
  have sound : host.Sound := sound_of_reachable reached
  obtain ⟨keeps, soundLast⟩ := keeps_of_run run sound
  obtain ⟨later, stored, same⟩ := keeps.new_of_old found
  refine ⟨fun timer => Sound.recallTick_inventory found timer, later, stored,
    soundLast.noticesOf_eq stored, fun gone => ?_, fun decided => ?_⟩
  · have reason := same.reason (.inr (.inr gone))
    rw [soundLast.noticesOf_eq stored, sound.noticesOf_eq found, reportOf, reportOf, gone,
      same.detached gone, same.uid, reason]
    by_cases recalled : session.leaveReason = .recalled
    · rw [same.inventory recalled]
    · simp [recalled]
  · have reason : later.leaveReason = session.leaveReason := by
      rcases decided with recalled | dead
      · exact same.reason (.inl recalled)
      · exact same.reason (.inr (.inl dead))
    refine ⟨reason, same.inventory, fun header clientAddr pkt => ?_⟩
    exact soundLast.handleClientPacket_outcome stored (reason ▸ decided) header clientAddr pkt

/-- The open field with a second between any two readings of the clock. -/
def slowField : Environment := { openField with clock := fun reads => reads * 1000000000 }

/-- A player with a stack of ammunition. -/
def carrier : RoomHost :=
  emptyMap (AList.singleton 1
    (newcomer 1 [{ item := { blueprintId := 5 }, slotIndex := 3, quantity := 7 }] []))

theorem carrier_fresh : carrier.Fresh := by
  refine emptyMap_fresh fun session mem => ?_
  obtain rfl := List.mem_singleton.mp mem
  exact ⟨⟨_, _, rfl⟩, rfl, rfl, rfl, rfl, rfl, rfl, rfl⟩

/-- Enter, spawn, and stay in the recall zone for five ticks. -/
def recallActions : List Action :=
  [request 1 1 (.channelOpen ""), request 1 2 .requestSpawnMe,
    request 1 3 .notifyLoadingComplete, request 1 4 (.requestRecall 0)]
  ++ List.replicate 5 (.recallTick 0)

/-- The recalled player is reported with its items. -/
theorem recalled_reported
    : ∃ later, ((endOf slowField (fun _ _ _ => true) carrier recallActions).processLeaves
          slowField).room.playerSessions.lookup 1 = some later
      ∧ ((endOf slowField (fun _ _ _ => true) carrier recallActions).processLeaves
          slowField).noticesOf 1 = reportOf later
      ∧ later.leaveReason = .recalled := by
  have reached := reachable_endOf slowField (fun _ _ _ => true) carrier_fresh recallActions
    (by decide +kernel)
  generalize ready : endOf slowField (fun _ _ _ => true) carrier recallActions = host at *
  have here : (host.room.playerSessions.lookup 1).any (·.leaveReason == .recalled) = true := by
    rw [← ready]
    decide +kernel
  obtain ⟨session, found, recalled⟩ := (Option.any_eq_true _ _).mp here
  have decided : session.leaveReason = .recalled := eq_of_beq recalled
  have run : (roomSystem slowField).Run host [.processLeaves] (host.processLeaves slowField) :=
    .cons rfl (.nil _)
  obtain ⟨_, later, stored, report, _, frozen⟩ :=
    leaves_decided_once slowField reached.of_restrict found run
  exact ⟨later, stored, report, ((frozen (.inl decided)).1).trans decided⟩

end RoomHost

end ExtractionServer.Room
