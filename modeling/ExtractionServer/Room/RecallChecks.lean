import ExtractionServer.Room.LeaveReports
import ExtractionServer.Room.NpcAuthority

/-! Recalls: a session is recalled only by the fifth tick in a row that finds its player well
and inside the zone, and ticks of ended recalls do nothing.
-/

namespace ExtractionServer.Room

open Transport

-----------------------------------------------------------------------------------------
-- What stays of a recall
-----------------------------------------------------------------------------------------

namespace PlayerSession

/-- The session has left the room, and with it any recall has ended. -/
structure Retired (before after : PlayerSession) : Prop where
  idle : after.isRecalling = false
  leftNotified : after.leftNotified = true
  recalled : after.leaveReason = .recalled → before.leaveReason = .recalled

/-- The recall is as before, or ended by the session's leave. -/
def KeepsRecall (before after : PlayerSession) : Prop :=
  before.SameRecall after ∨ before.Retired after

theorem SameRecall.isRecalling {before after : PlayerSession} (h : before.SameRecall after)
    : after.isRecalling = before.isRecalling :=
  congrArg RecallState.isRecalling h.recallState

namespace KeepsRecall

variable {a b c : PlayerSession}

theorem refl (session : PlayerSession) : session.KeepsRecall session :=
  .inl (.refl session)

theorem trans (first : a.KeepsRecall b) (second : b.KeepsRecall c) : a.KeepsRecall c := by
  rcases second with same | gone
  · rcases first with start | left
    · exact .inl (start.trans same)
    · exact .inr ⟨same.isRecalling.trans left.idle, same.leftNotified left.leftNotified,
        left.recalled ∘ same.recalled⟩
  · refine .inr ⟨gone.idle, gone.leftNotified, fun recalled => ?_⟩
    rcases first with start | left
    · exact start.recalled (gone.recalled recalled)
    · exact left.recalled (gone.recalled recalled)

theorem recalled (h : a.KeepsRecall b) (reason : b.leaveReason = .recalled)
    : a.leaveReason = .recalled := by
  rcases h with same | gone
  · exact same.recalled reason
  · exact gone.recalled reason

theorem detachedSession (session : PlayerSession) (room : GameRoom)
    : session.KeepsRecall (room.detachedSession session) :=
  .inr ⟨rfl, rfl, id⟩

end KeepsRecall

end PlayerSession

namespace RoomHost

/-- The pending ticks of a session. -/
def ticksOf (host : RoomHost) (sessionId : Nat) : List RecallTimer :=
  host.wire.recallTimers.filter (·.sessionId == sessionId)

/-- Nothing happens to the recalls but that sessions leave. -/
structure RecallsKept (before after : RoomHost) : Prop where
  sessions : Table.Related (fun _ => PlayerSession.KeepsRecall) before.room.playerSessions
    after.room.playerSessions
  recallTimers : after.wire.recallTimers = before.wire.recallTimers

/-- Nothing happens to the recall of one session but that the session leaves. -/
structure Undisturbed (sessionId : Nat) (before after : RoomHost) : Prop where
  session : ∀ late, after.room.playerSessions.lookup sessionId = some late →
    ∃ early, before.room.playerSessions.lookup sessionId = some early
      ∧ early.KeepsRecall late
  ticks : after.ticksOf sessionId = before.ticksOf sessionId

variable {before middle after : RoomHost}

theorem RecallQuiet.kept (h : RecallQuiet before after) : RecallsKept before after :=
  ⟨h.sessions.mono fun _ _ _ => .inl, h.recallTimers⟩

namespace RecallsKept

theorem trans (first : RecallsKept before middle) (second : RecallsKept middle after)
    : RecallsKept before after where
  sessions :=
    first.sessions.trans (fun _ _ _ _ => PlayerSession.KeepsRecall.trans) second.sessions
  recallTimers := second.recallTimers.trans first.recallTimers

theorem undisturbed (h : RecallsKept before after) (sessionId : Nat)
    : Undisturbed sessionId before after where
  session _ stored := h.sessions.old_of_new stored
  ticks := congrArg (List.filter (fun timer : RecallTimer => timer.sessionId == sessionId))
    h.recallTimers

end RecallsKept

namespace Undisturbed

variable {sessionId otherId : Nat}

theorem trans (first : Undisturbed sessionId before middle)
    (second : Undisturbed sessionId middle after)
    : Undisturbed sessionId before after where
  session late stored := by
    obtain ⟨between, present, finish⟩ := second.session late stored
    obtain ⟨early, found, start⟩ := first.session between present
    exact ⟨early, found, start.trans finish⟩
  ticks := second.ticks.trans first.ticks

/-- A step that leaves the sessions and the timers alone. -/
theorem of_sessions (sessions : after.room.playerSessions = before.room.playerSessions)
    (recallTimers : after.wire.recallTimers = before.wire.recallTimers)
    : Undisturbed sessionId before after :=
  (RecallQuiet.of_sessions sessions recallTimers).kept.undisturbed sessionId

theorem refl (host : RoomHost) : Undisturbed sessionId host host := .of_sessions rfl rfl

/-- A last step that changes another session. -/
theorem modifySession (first : Undisturbed sessionId before middle) (other : otherId ≠ sessionId)
    (f : PlayerSession → PlayerSession)
    : Undisturbed sessionId before (middle.modifySession otherId f) := by
  refine first.trans ⟨fun late stored => ⟨late, ?_, .refl late⟩, rfl⟩
  exact (Table.lookup_adjust_ne other.symm f middle.room.playerSessions).symm.trans stored

/-- A last step that sends a message. -/
theorem send (first : Undisturbed sessionId before middle) (env : Environment)
    (message : D2CMessage)
    : Undisturbed sessionId before (middle.send env otherId message) :=
  first.trans (.of_sessions (congrArg GameRoom.playerSessions (middle.send_room env _ _))
    (recallTimers_of_agenda (middle.send_agenda env otherId message)))

/-- A last step that marks another session. -/
theorem markLeaving (first : Undisturbed sessionId before middle) (env : Environment)
    (other : otherId ≠ sessionId) (reason : LeaveReason) (notifyRSeq : BitVec 32)
    : Undisturbed sessionId before (middle.markLeaving env otherId reason notifyRSeq) := by
  have read : Undisturbed sessionId middle (middle.now env).1 := .of_sessions rfl rfl
  exact (first.trans read).modifySession other _

/-- A last step that schedules a tick of another session. -/
theorem scheduleRecallTick (first : Undisturbed sessionId before middle) (env : Environment)
    (other : otherId ≠ sessionId) (uid : Int) (generation : BitVec 32)
    : Undisturbed sessionId before (middle.scheduleRecallTick env otherId uid generation) := by
  refine first.trans ⟨fun late stored => ⟨late, stored, .refl late⟩, ?_⟩
  refine (List.filter_append _ _).trans ?_
  rw [List.filter_cons_of_neg (by simpa using other)]
  exact List.append_nil _

end Undisturbed

end RoomHost

-----------------------------------------------------------------------------------------
-- Ticks
-----------------------------------------------------------------------------------------

/-- What every tick demands: the session plays and stays, its object is alive and inside the
zone of the spot.
-/
def GameRoom.recallHolds (env : Environment) (room : GameRoom) (session : PlayerSession)
    (spotIndex : Nat)
    : Bool :=
  session.isInplay && !session.isLeaving
    && (room.currentObject session).any fun object =>
      object.combat.isAlive && room.isInRecallZone env spotIndex object.base.position

namespace RoomHost

/-- A tick that the running recall of a session has scheduled, as the session can tell. -/
structure Current (host : RoomHost) (timer : RecallTimer) (session : PlayerSession)
    : Prop where
  found : host.room.playerSessions.lookup timer.sessionId = some session
  isRecalling : session.isRecalling = true
  generation : session.recallGeneration = timer.generation
  uid : session.uid = timer.uid

/-- What a tick can do. -/
inductive Fires (env : Environment) (timer : RecallTimer) (before after : RoomHost) : Prop
  | idle (stale : ∀ session, ¬before.Current timer session) (same : after = before)
  | cancelled {session : PlayerSession} (current : before.Current timer session)
      (fails : before.room.recallHolds env session session.recallSpotIndex = false)
      (stored : after.room.playerSessions.lookup timer.sessionId = some session.endRecall)
      (ticks : after.wire.recallTimers = before.wire.recallTimers)
  | passed {session : PlayerSession} (current : before.Current timer session)
      (holds : before.room.recallHolds env session session.recallSpotIndex = true)
      (few : session.recallPassCount + 1 < PlayerSession.RECALL_REQUIRED_PASS_COUNT)
      (stored : after.room.playerSessions.lookup timer.sessionId = some session.addRecallPass)
      (ticks : after.wire.recallTimers = before.wire.recallTimers
        ++ [{ timer with
          execAt :=
            env.clock before.wire.reads
              + PlayerSession.RECALL_TICK_INTERVAL_MS * 1000000 }])
  | completed {session : PlayerSession} (now : TimePoint) (notifyRSeq : BitVec 32)
      (current : before.Current timer session)
      (holds : before.room.recallHolds env session session.recallSpotIndex = true)
      (enough : ¬session.recallPassCount + 1 < PlayerSession.RECALL_REQUIRED_PASS_COUNT)
      (stored : after.room.playerSessions.lookup timer.sessionId
        = some (session.addRecallPass.endRecall.markLeaving .recalled now notifyRSeq))
      (ticks : after.wire.recallTimers = before.wire.recallTimers)

section Ticks

variable (env : Environment) (host : RoomHost)

theorem lookup_modifySession {sessionId : Nat} {session : PlayerSession}
    (found : host.room.playerSessions.lookup sessionId = some session)
    (f : PlayerSession → PlayerSession)
    : (host.modifySession sessionId f).room.playerSessions.lookup sessionId
      = some (f session) := by
  refine (Table.lookup_adjust_self sessionId f host.room.playerSessions).trans ?_
  rw [found]
  rfl

theorem cancelRecall_cancelled {timer : RecallTimer} {session : PlayerSession}
    (current : host.Current timer session)
    (fails : host.room.recallHolds env session session.recallSpotIndex = false)
    (spotIndex : Nat) (reason : RecallResultReason)
    : Fires env timer host
        (host.cancelRecall env timer.sessionId session spotIndex reason) := by
  have ended := host.lookup_modifySession current.found PlayerSession.endRecall
  unfold cancelRecall
  dsimp only
  split
  · exact .cancelled current fails ended rfl
  · refine .cancelled current fails ?_ (recallTimers_of_agenda (send_agenda env _ _ _))
    rw [send_room]
    exact ended

theorem completeRecall_completed {timer : RecallTimer} {session : PlayerSession}
    (current : host.Current timer session)
    (holds : host.room.recallHolds env session session.recallSpotIndex = true)
    (enough : ¬session.recallPassCount + 1 < PlayerSession.RECALL_REQUIRED_PASS_COUNT)
    (spotIndex : Nat)
    : Fires env timer host
        ((host.modifySession timer.sessionId PlayerSession.addRecallPass).completeRecall env
          timer.sessionId spotIndex) := by
  unfold completeRecall markLeaving
  extract_lets ended sent
  have stored : sent.room.playerSessions.lookup timer.sessionId
      = some session.addRecallPass.endRecall := by
    unfold sent
    rw [send_room]
    exact lookup_modifySession _ (lookup_modifySession _ current.found _) _
  refine .completed (env.clock sent.wire.reads) (sent.lastSentRSeq timer.sessionId) current
    holds enough ?_ (recallTimers_of_agenda (send_agenda env ended _ _))
  exact lookup_modifySession (sent.now env).1 stored _

/-- The checks of a tick in the order of the source. -/
theorem recallTick_fires (timer : RecallTimer)
    : Fires env timer host (host.recallTick env timer) := by
  unfold recallTick
  dsimp only
  split
  · next missing =>
      refine .idle (fun session current => ?_) rfl
      cases missing.symm.trans current.found
  · next session found =>
      have same : ∀ other, host.Current timer other → other = session :=
        fun other current => Option.some.inj (current.found.symm.trans found)
      split
      · next stale =>
          refine .idle (fun other current => ?_) rfl
          obtain rfl := same other current
          simp [current.isRecalling, current.generation] at stale
      · next running =>
          obtain ⟨isRecalling, generation⟩ := not_or.mp running
          split
          · next stranger =>
              refine .idle (fun other current => ?_) rfl
              obtain rfl := same other current
              exact stranger current.uid
          · next uid =>
              have current : host.Current timer session :=
                ⟨found, by simpa using isRecalling, not_not.mp generation, not_not.mp uid⟩
              split
              · next outside =>
                  refine host.cancelRecall_cancelled env current ?_ _ _
                  simp [GameRoom.recallHolds, (Bool.not_eq_true' _).mp outside]
              · next inplay =>
                  split
                  · next leaving =>
                      refine host.cancelRecall_cancelled env current ?_ _ _
                      simp [GameRoom.recallHolds, leaving]
                  · next staying =>
                      split
                      · next missing =>
                          refine host.cancelRecall_cancelled env current ?_ _ _
                          simp [GameRoom.recallHolds, GameRoom.currentObject, missing]
                      · next object located =>
                          split
                          · next dead =>
                              refine host.cancelRecall_cancelled env current ?_ _ _
                              simp [GameRoom.recallHolds, GameRoom.currentObject, located,
                                (Bool.not_eq_true' _).mp dead]
                          · next alive =>
                              split
                              · next outside =>
                                  refine host.cancelRecall_cancelled env current ?_ _ _
                                  simp [GameRoom.recallHolds, GameRoom.currentObject, located,
                                    (Bool.not_eq_true' _).mp outside]
                              · next inside =>
                                  have holds : host.room.recallHolds env session
                                      session.recallSpotIndex = true := by
                                    simp_all [GameRoom.recallHolds, GameRoom.currentObject]
                                  split
                                  · next few =>
                                      exact .passed current holds few
                                        (host.lookup_modifySession found _) rfl
                                  · next enough =>
                                      exact host.completeRecall_completed env current holds
                                        enough _

/-- A tick of another session. -/
theorem recallTick_undisturbed {timer : RecallTimer} {sessionId : Nat}
    (other : timer.sessionId ≠ sessionId)
    : Undisturbed sessionId host (host.recallTick env timer) := by
  have cancelled : ∀ session spotIndex reason, Undisturbed sessionId host
      (host.cancelRecall env timer.sessionId session spotIndex reason) := by
    intro session spotIndex reason
    have ended := (Undisturbed.refl host).modifySession other PlayerSession.endRecall
    unfold cancelRecall
    dsimp only
    split
    · exact ended
    · exact ended.send env _
  unfold recallTick
  dsimp only
  split
  · exact .refl host
  · next session _ =>
    split
    · exact .refl host
    · split
      · exact .refl host
      · split
        · exact cancelled _ _ _
        · split
          · exact cancelled _ _ _
          · split
            · exact cancelled _ _ _
            · split
              · exact cancelled _ _ _
              · split
                · exact cancelled _ _ _
                · have passed := (Undisturbed.refl host).modifySession other
                    PlayerSession.addRecallPass
                  split
                  · exact passed.scheduleRecallTick env other _ _
                  · have ended := passed.modifySession other PlayerSession.endRecall
                    have told : ∀ message, Undisturbed sessionId host
                        (send env (host.modifySession timer.sessionId _ |>.modifySession
                          timer.sessionId _) timer.sessionId message) :=
                      ended.send env
                    exact (told _).markLeaving env other .recalled _

end Ticks

-----------------------------------------------------------------------------------------
-- Requests
-----------------------------------------------------------------------------------------

/-- What an accepted request does: a new recall with its first tick. -/
structure Accepted (env : Environment) (sessionId spotIndex : Nat) (before after : RoomHost)
    : Prop where
  session : ∃ session, before.room.playerSessions.lookup sessionId = some session
    ∧ session.isActiveState = true ∧ session.isRecalling = false
    ∧ after.room.playerSessions.lookup sessionId = some (session.beginRecall spotIndex)
    ∧ after.ticksOf sessionId = before.ticksOf sessionId
      ++ [{ sessionId, uid := session.uid,
            generation := (session.beginRecall spotIndex).recallGeneration,
            execAt :=
              env.clock (after.wire.reads - 1)
                + PlayerSession.RECALL_TICK_INTERVAL_MS * 1000000 }]

section Requests

variable (env : Environment) (host : RoomHost) (sessionId : Nat)

theorem handleC2DRequestRecall_cases {session : PlayerSession}
    (found : host.room.playerSessions.lookup sessionId = some session) (spotIndex : Nat)
    : Undisturbed sessionId host
        (host.handleC2DRequestRecall env sessionId session spotIndex).1
      ∨ Accepted env sessionId spotIndex host
        (host.handleC2DRequestRecall env sessionId session spotIndex).1 := by
  unfold handleC2DRequestRecall
  split
  · exact .inl (.refl host)
  · next active =>
      split
      · exact .inl (.refl host)
      · split
        · exact .inl (.refl host)
        · split
          · exact .inl (.refl host)
          · next idle =>
              extract_lets result answered begun
              have told : Undisturbed sessionId host answered :=
                (Undisturbed.refl host).send env _
              split
              · exact .inl told
              · refine .inr ⟨session, found, by simpa using active, by simpa using idle, ?_, ?_⟩
                · refine lookup_modifySession answered ?_ _
                  unfold answered
                  rw [send_room]
                  exact found
                · refine (List.filter_append _ _).trans ?_
                  rw [List.filter_cons_of_pos (by simp)]
                  exact congrArg (· ++ _) told.ticks

theorem handleC2DRequestRecall_undisturbed {otherId : Nat} (other : otherId ≠ sessionId)
    (session : PlayerSession) (spotIndex : Nat)
    : Undisturbed sessionId host
        (host.handleC2DRequestRecall env otherId session spotIndex).1 := by
  unfold handleC2DRequestRecall
  split
  · exact .refl host
  · split
    · exact .refl host
    · split
      · exact .refl host
      · split
        · exact .refl host
        · dsimp only
          have told : ∀ message, Undisturbed sessionId host (host.send env otherId message) :=
            (Undisturbed.refl host).send env
          split
          · dsimp only
            exact told _
          · dsimp only
            exact ((told _).modifySession other _).scheduleRecallTick env other _ _

end Requests

-----------------------------------------------------------------------------------------
-- Leaves
-----------------------------------------------------------------------------------------

section Leaves

variable (env : Environment) (host : RoomHost) (sessionId : Nat)

theorem advanceLeave_recallsKept (sound : host.Sound) (now : TimePoint)
    : RecallsKept host (host.advanceLeave env now sessionId) := by
  unfold advanceLeave
  extract_lets detached
  have afterDetach : RecallsKept host detached := by
    unfold detached
    split
    · exact (Backstage.refl host).recalls.kept
    · next session found =>
        split
        · next pending =>
            refine ⟨?_, recallTimers_of_agenda (detachPlayer_agenda env host sessionId)⟩
            have unreported : session.leftNotified = false :=
              (sound.leaves sessionId session found).unreported
                (by simp [PlayerSession.isDetached, pending])
            rw [(detachPlayer_detached env found unreported).sessions]
            refine .adjust (fun _ => .refl) fun value stored => ?_
            obtain rfl := Option.some.inj (found.symm.trans stored)
            exact .detachedSession session host.room
        · exact (Backstage.refl host).recalls.kept
  split
  · exact afterDetach
  · split
    · exact afterDetach.trans (finalizeLeave_backstage detached sessionId).recalls.kept
    · exact afterDetach

/-- The loop over the sessions, by induction on their ids. -/
theorem advanceLeaves_recallsKept (sound : host.Sound) (now : TimePoint)
    (sessionIds : List Nat)
    : RecallsKept host (sessionIds.foldl (advanceLeave env now) host) := by
  induction sessionIds generalizing host with
  | nil => exact (Backstage.refl host).recalls.kept
  | cons sessionId rest ih =>
      have moves : Moves (fun _ _ => true) host (host.advanceLeave env now sessionId) :=
        advanceLeave_moves env now host sessionId
      exact (advanceLeave_recallsKept env host sessionId sound now).trans
        (ih _ (moves.sound sound))

theorem processLeaves_recallsKept (sound : host.Sound)
    : RecallsKept host (host.processLeaves env) := by
  unfold processLeaves
  dsimp -zeta only
  extract_lets marked
  have started : Backstage host marked :=
    (host.now_backstage env).trans (markLeaves_backstage env _ _)
  have moves : Moves (fun _ _ => true) host marked :=
    (Moves.quiet (host.now_outcome env)).trans (markLeaves_moves _ _)
  exact (started.recalls.kept.trans
    (advanceLeaves_recallsKept env marked (moves.sound sound) _ _)).trans
      (checkAllLeft_backstage _).recalls.kept

end Leaves

-----------------------------------------------------------------------------------------
-- The observer of a recall
-----------------------------------------------------------------------------------------

/-- What an observer remembers of a recall: the spot of the accepted request, the generation
it began, when, and how many of its ticks in a row have found the player well.
-/
structure RecallCheck where
  spotIndex : Nat
  generation : BitVec 32
  acceptedAt : TimePoint
  passes : Nat

def isRecalling (host : RoomHost) (sessionId : Nat) : Bool :=
  (host.room.playerSessions.lookup sessionId).any (·.isRecalling)

/-- The tick of a session that an action lets run. -/
def tickOf (host : RoomHost) (sessionId : Nat) : Action → Option RecallTimer
  | .recallTick index => host.wire.recallTimers[index]?.filter (·.sessionId == sessionId)
  | _ => none

/-- The spot index of a request that has begun a recall. -/
def acceptedSpot (sessionId : Nat) (before : RoomHost) (action : Action) (after : RoomHost)
    : Option Nat :=
  match action with
  | .packet senderId _ _ (.requestRecall spotIndex) =>
      if senderId = sessionId ∧ !before.isRecalling sessionId ∧ after.isRecalling sessionId
        then some spotIndex
      else none
  | _ => none

/-- The observer sees requests, ticks and the state of the player, and draws its own
conclusions: an accepted request starts a check, a tick of its generation confirms or ends
it.
-/
def observe (env : Environment) (sessionId : Nat) (check : Option RecallCheck)
    (before : RoomHost) (action : Action) (after : RoomHost)
    : Option RecallCheck :=
  match acceptedSpot sessionId before action after, before.tickOf sessionId action with
  | some spotIndex, _ =>
      (after.room.playerSessions.lookup sessionId).map fun session =>
        { spotIndex
          generation := session.recallGeneration
          acceptedAt := env.clock (after.wire.reads - 1)
          passes := 0 }
  | none, some timer =>
      check.bind fun check =>
        if timer.generation ≠ check.generation then some check
        else if (before.room.playerSessions.lookup sessionId).any
            (before.room.recallHolds env · check.spotIndex) then
          some { check with passes := check.passes + 1 }
        else none
  | none, none => check

/-- The runs of a room beside the observer of a session's recalls. -/
def recallSystem (env : Environment) (sessionId : Nat)
    : Transition.System (RoomHost × Option RecallCheck) Action :=
  (roomSystem env).observed none (observe env sessionId)

/-- What the observer knows of a running recall. -/
structure RecallCheck.Matches (check : RecallCheck) (session : PlayerSession)
    (timer : RecallTimer)
    : Prop where
  spotIndex : check.spotIndex = session.recallSpotIndex
  generation : check.generation = session.recallGeneration
  passes : check.passes = session.recallPassCount
  few : check.passes < PlayerSession.RECALL_REQUIRED_PASS_COUNT
  current : timer.generation = session.recallGeneration ∧ timer.uid = session.uid
  onTime : check.acceptedAt
    + (check.passes + 1) * (PlayerSession.RECALL_TICK_INTERVAL_MS * 1000000) ≤ timer.execAt

/-- The invariant of the observed runs: a running recall has one tick and is on record, and
a session without a recall has no tick unless it has left.
-/
structure Watched (sessionId : Nat) (host : RoomHost) (check : Option RecallCheck)
    : Prop where
  few : (host.ticksOf sessionId).length ≤ 1
  idle : ∀ session, host.room.playerSessions.lookup sessionId = some session →
    session.isRecalling = false →
    host.ticksOf sessionId = [] ∨ session.leftNotified = true
  running : ∀ session, host.room.playerSessions.lookup sessionId = some session →
    session.isRecalling = true →
    ∃ seen timer, check = some seen ∧ host.ticksOf sessionId = [timer]
      ∧ seen.Matches session timer

-----------------------------------------------------------------------------------------
-- Steps
-----------------------------------------------------------------------------------------

/-- The state in which the callback of a timer starts. -/
def spent (host : RoomHost) (index : Nat) : RoomHost :=
  { host with
    wire :=
      { host.wire with
        reads := host.wire.reads + 1
        recallTimers := host.wire.recallTimers.eraseIdx index } }

/-- What an action can do to the recall of one session. -/
inductive RecallStep (env : Environment) (sessionId : Nat) (before after : RoomHost)
    : Action → Prop
  | undisturbed {action : Action} (h : Undisturbed sessionId before after)
      (untimed : before.tickOf sessionId action = none)
      : RecallStep env sessionId before after action
  | accepted {header : UDPHeader} {clientAddr : SockAddr} {spotIndex : Nat}
      (h : Accepted env sessionId spotIndex before after)
      : RecallStep env sessionId before after
          (.packet sessionId header clientAddr (.requestRecall spotIndex))
  | ticked {index : Nat} {timer : RecallTimer}
      (pending : before.wire.recallTimers[index]? = some timer)
      (own : timer.sessionId = sessionId) (due : timer.execAt ≤ env.clock before.wire.reads)
      (fires : Fires env timer (before.spent index) after)
      : RecallStep env sessionId before after (.recallTick index)

theorem applyNpcRequest_recalls (env : Environment) (host : RoomHost)
    (session : PlayerSession) (npcId : Nat)
    (apply : HostileNPC → Nat → HostileNPC × HostileNPC.RequestResult)
    : RecallQuiet host (host.applyNpcRequest env session npcId apply).1 := by
  rcases applyNpcRequest_cases env host session npcId apply with same | answered
  · rw [same]
    exact .of_sessions rfl rfl
  · obtain ⟨requester, npc, _, _, outcome⟩ := answered
    rw [outcome]
    exact acceptAnswer_recall env host npcId _

theorem handleC2DRequestWeaponFire_recalls (env : Environment) (host : RoomHost)
    (layout : host.room.Layout) (sessionId : Nat) (session : PlayerSession)
    (pkt : C2DRequestWeaponFire)
    : RecallQuiet host (host.handleC2DRequestWeaponFire env sessionId session pkt).1 := by
  rcases handleC2DRequestWeaponFire_cases env host layout sessionId session pkt with
    plain | ⟨_, _, _, middle, _, _, struck, _, _, outcome⟩
  · exact plain.recalls
  · rw [outcome]
    refine (struck.recalls.trans (acceptAnswer_recall env middle _ _)).trans
      (.of_sessions ?_ (recallTimers_of_agenda (broadcastExcept_agenda env _ _ _)))
    exact congrArg GameRoom.playerSessions (broadcastExcept_room env _ _ _)

/-- The pending ticks without the one that runs. -/
theorem eraseIdx_recallTimers {host : RoomHost} {index : Nat} {timer : RecallTimer}
    (pending : host.wire.recallTimers[index]? = some timer)
    : ∃ front back, host.wire.recallTimers = front ++ timer :: back
      ∧ (host.spent index).wire.recallTimers = front ++ back := by
  obtain ⟨inside, rfl⟩ := List.getElem?_eq_some_iff.mp pending
  refine ⟨host.wire.recallTimers.take index, host.wire.recallTimers.drop (index + 1), ?_,
    List.eraseIdx_eq_take_drop_succ _ _⟩
  rw [List.getElem_cons_drop, List.take_append_drop]

/-- The tick of another session is none of this one's. -/
theorem ticksOf_spent_other {host : RoomHost} {sessionId index : Nat} {timer : RecallTimer}
    (pending : host.wire.recallTimers[index]? = some timer)
    (other : timer.sessionId ≠ sessionId)
    : (host.spent index).ticksOf sessionId = host.ticksOf sessionId := by
  obtain ⟨front, back, whole, rest⟩ := eraseIdx_recallTimers pending
  unfold ticksOf
  rw [whole, rest, List.filter_append, List.filter_append,
    List.filter_cons_of_neg (by simpa using other)]

/-- The only tick of a session leaves none behind. -/
theorem ticksOf_spent_own {host : RoomHost} {sessionId index : Nat} {timer : RecallTimer}
    (pending : host.wire.recallTimers[index]? = some timer)
    (own : timer.sessionId = sessionId) (few : (host.ticksOf sessionId).length ≤ 1)
    : host.ticksOf sessionId = [timer] ∧ (host.spent index).ticksOf sessionId = [] := by
  obtain ⟨front, back, whole, rest⟩ := eraseIdx_recallTimers pending
  unfold ticksOf at few ⊢
  rw [whole, List.filter_append, List.filter_cons_of_pos (by simpa using own)] at few ⊢
  rw [rest, List.filter_append]
  rw [List.length_append, List.length_cons] at few
  have noneBefore : front.filter (·.sessionId == sessionId) = [] :=
    List.eq_nil_of_length_eq_zero (by omega)
  have noneAfter : back.filter (·.sessionId == sessionId) = [] :=
    List.eq_nil_of_length_eq_zero (by omega)
  rw [noneBefore, noneAfter]
  exact ⟨rfl, rfl⟩

section Steps

variable {env : Environment} {sessionId : Nat} {before after : RoomHost}

theorem handleClientPacket_recallStep (sound : before.Sound) (senderId : Nat)
    (header : UDPHeader) (clientAddr : SockAddr) (pkt : C2DPacket)
    : RecallStep env sessionId before
        (before.handleClientPacket env senderId header clientAddr pkt).1
        (.packet senderId header clientAddr pkt) := by
  unfold handleClientPacket
  split
  · exact .undisturbed (.refl before) rfl
  · next session found =>
      have received := (receive_plain env before senderId header).recalls
      dsimp only
      split
      · exact .undisturbed (received.kept.undisturbed sessionId) rfl
      · have quiet : ∀ {last : RoomHost},
            RecallQuiet (before.receive env senderId header).1 last →
            RecallStep env sessionId before last (.packet senderId header clientAddr pkt) :=
          fun rest => .undisturbed ((received.trans rest).kept.undisturbed sessionId) rfl
        by_cases plain : pkt.isPlain = true
        · exact quiet (dispatch_plain env _ senderId session clientAddr plain).recalls
        · cases pkt with
          | requestRecall spotIndex =>
              have start := received.kept.undisturbed sessionId
              by_cases own : senderId = sessionId
              · subst own
                rcases handleC2DRequestRecall_cases env (before.receive env senderId header).1
                  senderId found spotIndex with refused | accepted
                · exact .undisturbed (start.trans refused) rfl
                · exact .accepted ⟨accepted.session⟩
              · exact .undisturbed (start.trans
                  (handleC2DRequestRecall_undisturbed env _ sessionId own session spotIndex)) rfl
          | requestWeaponFire pkt =>
              have layout : (before.receive env senderId header).1.room.Layout := sound.layout
              exact quiet (handleC2DRequestWeaponFire_recalls env _ layout senderId session pkt)
          | requestNpcAggro npcId aggro =>
              exact quiet (applyNpcRequest_recalls env _ session npcId _)
          | requestNpcAuthority npcId aggro =>
              exact quiet (applyNpcRequest_recalls env _ session npcId _)
          | _ => exact absurd rfl plain

theorem next_recallStep {action : Action} (sound : before.Sound)
    (step : before.next env action = some after)
    : RecallStep env sessionId before after action := by
  cases action with
  | packet senderId header clientAddr pkt =>
      cases Option.some.inj step
      exact handleClientPacket_recallStep sound senderId header clientAddr pkt
  | recallTick index =>
      simp only [next] at step
      split at step
      · cases step
      · next timer pending =>
          split at step
          · cases step
          · next due =>
              cases Option.some.inj step
              by_cases own : timer.sessionId = sessionId
              · exact .ticked pending own (not_lt.mp due) (recallTick_fires env _ timer)
              · have erased : Undisturbed sessionId before (before.spent index) :=
                  ⟨fun late stored => ⟨late, stored, .refl late⟩,
                    ticksOf_spent_other pending own⟩
                refine .undisturbed (erased.trans (recallTick_undisturbed env _ own)) ?_
                simp [tickOf, pending, own]
  | processLeaves =>
      cases Option.some.inj step
      exact .undisturbed ((processLeaves_recallsKept env before sound).undisturbed sessionId) rfl
  | update =>
      cases Option.some.inj step
      exact .undisturbed ((update_plain env before).recalls.kept.undisturbed sessionId) rfl
  | updateNpcStates =>
      cases Option.some.inj step
      exact .undisturbed ((updateNpcStates_plain env before).recalls.kept.undisturbed sessionId)
        rfl
  | bindClientIp otherId addr =>
      cases Option.some.inj step
      refine .undisturbed (RecallsKept.undisturbed (RecallQuiet.kept ?_) sessionId) rfl
      refine (Backstage.modifySession (.refl before) ?_).recalls
      exact fun _ => ⟨rfl, id, id⟩
  | checkRetransmits otherId =>
      refine .undisturbed ?_ rfl
      simp only [next] at step
      split at step
      · cases step
        exact .refl _
      · cases step
        exact .of_sessions rfl rfl

end Steps

-----------------------------------------------------------------------------------------
-- The invariant
-----------------------------------------------------------------------------------------

section Observing

variable {env : Environment} {sessionId : Nat} {check : Option RecallCheck}
  {before after : RoomHost}

theorem Undisturbed.isRecalling (h : Undisturbed sessionId before after)
    (recalling : after.isRecalling sessionId = true)
    : before.isRecalling sessionId = true := by
  obtain ⟨late, stored, isRecalling⟩ := (Option.any_eq_true _ _).mp recalling
  obtain ⟨early, found, kept⟩ := h.session late stored
  refine (Option.any_eq_true _ _).mpr ⟨early, found, ?_⟩
  rcases kept with same | gone
  · exact same.isRecalling.symm.trans isRecalling
  · cases gone.idle.symm.trans isRecalling

/-- Where nothing happens to the recall, the observer sees nothing. -/
theorem Undisturbed.observe (h : Undisturbed sessionId before after) {action : Action}
    (untimed : before.tickOf sessionId action = none)
    : observe env sessionId check before action after = check := by
  have refused : acceptedSpot sessionId before action after = none := by
    unfold acceptedSpot
    split
    · refine if_neg ?_
      rintro ⟨_, idle, recalling⟩
      simp [h.isRecalling recalling] at idle
    · rfl
  unfold RoomHost.observe
  rw [refused, untimed]

theorem Undisturbed.watched (h : Undisturbed sessionId before after)
    (watched : Watched sessionId before check)
    : Watched sessionId after check where
  few := h.ticks ▸ watched.few
  idle late stored idle := by
    obtain ⟨early, found, same | gone⟩ := h.session late stored
    · rw [h.ticks]
      exact (watched.idle early found (same.isRecalling.symm.trans idle)).imp id
        same.leftNotified
    · exact .inr gone.leftNotified
  running late stored recalling := by
    obtain ⟨early, found, same | gone⟩ := h.session late stored
    · obtain ⟨seen, timer, known, ticks, agrees⟩ :=
        watched.running early found (same.isRecalling.symm.trans recalling)
      have uid : late.uid = early.uid := congrArg RecallState.uid same.recallState
      have generation : late.recallGeneration = early.recallGeneration :=
        congrArg RecallState.recallGeneration same.recallState
      have passes : late.recallPassCount = early.recallPassCount :=
        congrArg RecallState.recallPassCount same.recallState
      have spotIndex : late.recallSpotIndex = early.recallSpotIndex :=
        congrArg RecallState.recallSpotIndex same.recallState
      exact ⟨seen, timer, known, h.ticks.trans ticks,
        { spotIndex := agrees.spotIndex.trans spotIndex.symm
          generation := agrees.generation.trans generation.symm
          passes := agrees.passes.trans passes.symm
          few := agrees.few
          current :=
            ⟨agrees.current.1.trans generation.symm, agrees.current.2.trans uid.symm⟩
          onTime := agrees.onTime }⟩
    · cases gone.idle.symm.trans recalling

/-- An accepted request finds no tick of the session and starts a check. -/
theorem Accepted.watched {header : UDPHeader} {clientAddr : SockAddr} {spotIndex : Nat}
    (h : Accepted env sessionId spotIndex before after) (sound : before.Sound)
    (watched : Watched sessionId before check)
    : Watched sessionId after
        (observe env sessionId check before
          (.packet sessionId header clientAddr (.requestRecall spotIndex)) after) := by
  obtain ⟨session, found, active, idle, stored, ticks⟩ := h.session
  have unreported : session.leftNotified = false :=
    (sound.leaves sessionId session found).unreported_of_active active
  have none : before.ticksOf sessionId = [] := by
    refine (watched.idle session found idle).resolve_right ?_
    simp [unreported]
  rw [none] at ticks
  have begun : (session.beginRecall spotIndex).isRecalling = true := by
    simp [PlayerSession.beginRecall, idle]
  have accepted : acceptedSpot sessionId before
      (.packet sessionId header clientAddr (.requestRecall spotIndex)) after
      = some spotIndex := by
    refine if_pos ⟨rfl, ?_, ?_⟩
    · simp [RoomHost.isRecalling, found, idle]
    · simp [RoomHost.isRecalling, stored, begun]
  unfold observe
  rw [accepted, stored]
  refine ⟨by rw [ticks]; exact le_rfl, fun late present quiet => ?_, fun late present _ => ?_⟩
  · obtain rfl := Option.some.inj (stored.symm.trans present)
    cases begun.symm.trans quiet
  · obtain rfl := Option.some.inj (stored.symm.trans present)
    refine ⟨_, _, rfl, ticks, ?_, rfl, ?_, ?_, ⟨rfl, ?_⟩, ?_⟩
    · simp [PlayerSession.beginRecall, idle]
    · simp [PlayerSession.beginRecall, idle]
    · exact Nat.zero_lt_succ 4
    · simp [PlayerSession.beginRecall, idle]
    · exact (congrArg _ (Nat.one_mul _)).le

/-- A tick that belongs to the running recall is the one on record. -/
theorem Watched.current {session : PlayerSession} {index : Nat} {timer : RecallTimer}
    (watched : Watched sessionId before check)
    (pending : before.wire.recallTimers[index]? = some timer)
    (own : timer.sessionId = sessionId)
    (found : before.room.playerSessions.lookup sessionId = some session)
    (recalling : session.isRecalling = true)
    : ∃ seen, check = some seen ∧ seen.Matches session timer := by
  obtain ⟨seen, due, known, ticks, agrees⟩ := watched.running session found recalling
  have only := (ticksOf_spent_own pending own watched.few).1
  obtain rfl : due = timer := List.head_eq_of_cons_eq (ticks.symm.trans only)
  exact ⟨seen, known, agrees⟩

/-- What the observer notes when a tick runs. -/
theorem observe_tick {index : Nat} {timer : RecallTimer} {seen : RecallCheck}
    (pending : before.wire.recallTimers[index]? = some timer)
    (own : timer.sessionId = sessionId) {session : PlayerSession}
    (found : before.room.playerSessions.lookup sessionId = some session)
    (generation : timer.generation = seen.generation)
    : observe env sessionId (some seen) before (.recallTick index) after
      = if before.room.recallHolds env session seen.spotIndex then
          some { seen with passes := seen.passes + 1 }
        else none := by
  have due : before.tickOf sessionId (.recallTick index) = some timer := by
    simp [tickOf, pending, own]
  unfold observe
  rw [due]
  simp [acceptedSpot, generation, found]

/-- The next tick is due an interval after the one that schedules it. -/
theorem nextTick_onTime {acceptedAt passes interval execAt now : TimePoint}
    (onTime : acceptedAt + (passes + 1) * interval ≤ execAt) (due : execAt ≤ now)
    : acceptedAt + (passes + 1 + 1) * interval ≤ now + interval := by
  rw [Nat.succ_mul, ← Nat.add_assoc]
  exact Nat.add_le_add_right (onTime.trans due) interval

/-- A tick passes one more check, or it ends the recall. -/
theorem Fires.watched {index : Nat} {timer : RecallTimer} (steady : Monotone env.clock)
    (pending : before.wire.recallTimers[index]? = some timer)
    (own : timer.sessionId = sessionId) (due : timer.execAt ≤ env.clock before.wire.reads)
    (fires : Fires env timer (before.spent index) after)
    (watched : Watched sessionId before check)
    : Watched sessionId after
        (observe env sessionId check before (.recallTick index) after) := by
  have none := (ticksOf_spent_own pending own watched.few).2
  have ended : ∀ {session late : PlayerSession}, (before.spent index).Current timer session →
      after.room.playerSessions.lookup timer.sessionId = some late →
      late.isRecalling = false →
      after.wire.recallTimers = (before.spent index).wire.recallTimers →
      Watched sessionId after
        (RoomHost.observe env sessionId check before (.recallTick index) after) := by
    intro session late current stored idle ticks
    have empty : after.ticksOf sessionId = [] := by
      rw [← none, ticksOf, ticks]
      rfl
    rw [own] at stored
    refine ⟨by simp [empty], fun _ _ _ => .inl empty, fun other present recalling => ?_⟩
    obtain rfl := Option.some.inj (stored.symm.trans present)
    cases idle.symm.trans recalling
  cases fires with
  | idle stale same =>
      subst same
      refine ⟨by simp [none], fun _ _ _ => .inl none, fun session found recalling => ?_⟩
      obtain ⟨seen, known, agrees⟩ := watched.current pending own found recalling
      refine absurd ⟨?_, recalling, agrees.current.1.symm, agrees.current.2.symm⟩
        (stale session)
      rw [own]
      exact found
  | cancelled current fails stored ticks => exact ended current stored rfl ticks
  | @passed session current holds few stored ticks =>
      have found : before.room.playerSessions.lookup sessionId = some session :=
        own ▸ current.found
      obtain ⟨seen, rfl, agrees⟩ := watched.current pending own found current.isRecalling
      have confirmed : before.room.recallHolds env session seen.spotIndex = true := by
        rw [agrees.spotIndex]
        exact holds
      rw [observe_tick pending own found (agrees.current.1.trans agrees.generation.symm),
        if_pos confirmed]
      have next : after.ticksOf sessionId = [{ timer with
          execAt := env.clock (before.wire.reads + 1)
            + PlayerSession.RECALL_TICK_INTERVAL_MS * 1000000 }] := by
        rw [ticksOf, ticks, List.filter_append, List.filter_cons_of_pos (by simpa using own)]
        exact congrArg (· ++ _) none
      rw [own] at stored
      refine ⟨by simp [next], fun late present idle => ?_, fun late present _ => ?_⟩
      · obtain rfl := Option.some.inj (stored.symm.trans present)
        cases current.isRecalling.symm.trans idle
      · obtain rfl := Option.some.inj (stored.symm.trans present)
        refine ⟨_, _, rfl, next,
          { agrees with
            passes := congrArg (· + 1) agrees.passes
            few := (congrArg (· + 1) agrees.passes).trans_lt few
            onTime := ?_ }⟩
        have later : env.clock before.wire.reads ≤ env.clock (before.wire.reads + 1) :=
          steady (Nat.le_succ _)
        exact nextTick_onTime agrees.onTime (due.trans later)
  | completed now notifyRSeq current holds enough stored ticks =>
      refine ended current stored ?_ ticks
      unfold PlayerSession.markLeaving
      split <;> rfl

theorem RecallStep.watched {action : Action} (steady : Monotone env.clock)
    (step : RecallStep env sessionId before after action) (sound : before.Sound)
    (watched : Watched sessionId before check)
    : Watched sessionId after (observe env sessionId check before action after) := by
  cases step with
  | undisturbed h untimed =>
      rw [h.observe untimed]
      exact h.watched watched
  | accepted h => exact h.watched sound watched
  | ticked pending own due fires => exact fires.watched steady pending own due watched

/-- The invariant holds in every observed state, by induction on reachability. -/
theorem watched_of_reachable (steady : Monotone env.clock)
    {state : RoomHost × Option RecallCheck}
    (reached : (recallSystem env sessionId).Reachable state)
    : Watched sessionId state.1 state.2 := by
  induction reached with
  | @initial state begins =>
      obtain ⟨fresh, unseen⟩ := begins
      have none : state.1.ticksOf sessionId = [] := by
        rw [ticksOf, fresh.recallTimers]
        rfl
      refine ⟨by simp [none], fun _ _ _ => .inl none, fun session found recalling => ?_⟩
      cases (fresh.sessions sessionId session found).isRecalling.symm.trans recalling
  | step reached step ih =>
      have sound : RoomHost.Sound _ := sound_of_reachable reached.of_observed
      rw [step.2]
      exact (next_recallStep sound step.1).watched steady sound ih

-----------------------------------------------------------------------------------------
-- Ticks of ended recalls
-----------------------------------------------------------------------------------------

/-- The ticks of a session that are still pending change nothing when they run. -/
def TicksIdle (env : Environment) (sessionId : Nat) (host : RoomHost) : Prop :=
  ∀ index timer after, host.wire.recallTimers[index]? = some timer →
    timer.sessionId = sessionId → host.next env (.recallTick index) = some after →
    after = host.spent index

/-- A tick of no running recall does nothing. -/
theorem Fires.of_stale {timer : RecallTimer} (fires : Fires env timer before after)
    (stale : ∀ session, ¬before.Current timer session)
    : after = before := by
  cases fires with
  | idle _ same => exact same
  | cancelled current => exact absurd current (stale _)
  | passed current => exact absurd current (stale _)
  | completed _ _ current => exact absurd current (stale _)

theorem next_recallTick {index : Nat} {timer : RecallTimer}
    (pending : before.wire.recallTimers[index]? = some timer)
    (step : before.next env (.recallTick index) = some after)
    : timer.execAt ≤ env.clock before.wire.reads
      ∧ after = (before.spent index).recallTick env timer := by
  simp only [next, pending] at step
  split at step
  · cases step
  · next due => exact ⟨not_lt.mp due, (Option.some.inj step).symm⟩

/-- The session has left, so that it never recalls again. -/
structure NeverRecalls (sessionId : Nat) (host : RoomHost) : Prop where
  sound : host.Sound
  gone : ∀ session, host.room.playerSessions.lookup sessionId = some session →
    session.isRecalling = false ∧ session.leftNotified = true

theorem NeverRecalls.next {action : Action} (h : NeverRecalls sessionId before)
    (step : before.next env action = some after)
    : NeverRecalls sessionId after := by
  refine ⟨(next_moves step (before.spawnMeets_any action)).sound h.sound, fun late stored => ?_⟩
  have idle : ∀ {timer : RecallTimer} {index : Nat}, timer.sessionId = sessionId →
      ∀ session, ¬(before.spent index).Current timer session := by
    intro timer index own session current
    have found : before.room.playerSessions.lookup sessionId = some session :=
      own ▸ current.found
    cases (h.gone session found).1.symm.trans current.isRecalling
  have recallStep : RecallStep env sessionId before after action :=
    next_recallStep h.sound step
  cases recallStep with
  | undisturbed undisturbed _ =>
      obtain ⟨early, found, same | gone⟩ := undisturbed.session late stored
      · obtain ⟨quiet, leftNotified⟩ := h.gone early found
        exact ⟨same.isRecalling.trans quiet, same.leftNotified leftNotified⟩
      · exact ⟨gone.idle, gone.leftNotified⟩
  | accepted accepted =>
      obtain ⟨session, found, active, _⟩ := accepted.session
      have unreported := (h.sound.leaves sessionId session found).unreported_of_active active
      cases unreported.symm.trans (h.gone session found).2
  | ticked _ own _ fires =>
      rw [fires.of_stale (idle own)] at stored
      exact h.gone late stored

theorem NeverRecalls.ticksIdle (h : NeverRecalls sessionId before)
    : TicksIdle env sessionId before := by
  intro index timer after pending own step
  refine ((next_recallTick pending step).2).trans ?_
  refine (recallTick_fires env (before.spent index) timer).of_stale fun session current => ?_
  have found : before.room.playerSessions.lookup sessionId = some session :=
    own ▸ current.found
  cases (h.gone session found).1.symm.trans current.isRecalling

-----------------------------------------------------------------------------------------
-- Completed recalls
-----------------------------------------------------------------------------------------

/-- An action is the tick that completes the recall on record: the fifth in a row that finds
the player well, five intervals after the request was accepted.
-/
def IsLastTick (env : Environment) (sessionId : Nat) (host : RoomHost)
    (session : PlayerSession) (check : Option RecallCheck) (action : Action)
    : Prop :=
  ∃ index timer seen, action = .recallTick index
    ∧ host.wire.recallTimers[index]? = some timer ∧ timer.sessionId = sessionId
    ∧ check = some seen ∧ timer.generation = seen.generation
    ∧ seen.passes + 1 = PlayerSession.RECALL_REQUIRED_PASS_COUNT
    ∧ host.room.recallHolds env session seen.spotIndex = true
    ∧ seen.acceptedAt
        + PlayerSession.RECALL_REQUIRED_PASS_COUNT
          * (PlayerSession.RECALL_TICK_INTERVAL_MS * 1000000)
      ≤ env.clock host.wire.reads

/-- Only the last tick of a recall marks the session as recalled. -/
theorem RecallStep.isLastTick {action : Action} {session late : PlayerSession}
    (step : RecallStep env sessionId before after action)
    (watched : Watched sessionId before check)
    (found : before.room.playerSessions.lookup sessionId = some session)
    (stored : after.room.playerSessions.lookup sessionId = some late)
    (recalled : late.leaveReason = .recalled) (newly : session.leaveReason ≠ .recalled)
    : IsLastTick env sessionId before session check action := by
  -- Every other step stores a session with the reason it had before.
  have unchanged : ∀ {other : PlayerSession},
      after.room.playerSessions.lookup sessionId = some other →
      other.leaveReason = session.leaveReason →
      IsLastTick env sessionId before session check action := by
    intro other present same
    obtain rfl := Option.some.inj (stored.symm.trans present)
    exact absurd (same.symm.trans recalled) newly
  cases step with
  | undisturbed h _ =>
      obtain ⟨early, present, kept⟩ := h.session late stored
      obtain rfl := Option.some.inj (found.symm.trans present)
      exact absurd (kept.recalled recalled) newly
  | accepted h =>
      obtain ⟨early, present, _, idle, begun, _⟩ := h.session
      obtain rfl := Option.some.inj (found.symm.trans present)
      exact unchanged begun (by simp [PlayerSession.beginRecall, idle])
  | @ticked index timer pending own due fires =>
      subst own
      have same : ∀ {other : PlayerSession}, (before.spent index).Current timer other →
          other = session :=
        fun current => Option.some.inj (current.found.symm.trans found)
      cases fires with
      | idle _ kept =>
          subst kept
          exact unchanged found rfl
      | cancelled current _ ended =>
          obtain rfl := same current
          exact unchanged ended rfl
      | passed current _ _ passed =>
          obtain rfl := same current
          exact unchanged passed rfl
      | completed now notifyRSeq current holds enough =>
          obtain rfl := same current
          obtain ⟨seen, known, agrees⟩ := watched.current pending rfl found current.isRecalling
          have fifth : seen.passes + 1 = PlayerSession.RECALL_REQUIRED_PASS_COUNT := by
            rw [← agrees.passes] at enough
            exact le_antisymm agrees.few (not_lt.mp enough)
          refine ⟨index, timer, seen, rfl, pending, rfl, known,
            agrees.current.1.trans agrees.generation.symm, fifth, ?_, ?_⟩
          · rw [agrees.spotIndex]
            exact holds
          · rw [← fifth]
            exact agrees.onTime.trans due

/-- Recalls are checked five times. In any run beside an observer of one session, whatever
the order of packets, ticks, updates and leaves: at most one pending tick carries the
current generation; a tick of another generation, or without a running recall, changes
nothing; once a recall has ended before its tick ran, no tick of the session ever changes
anything; and only the last tick of a recall on record marks the session as recalled.
-/
theorem recall_checked (steady : Monotone env.clock) {host : RoomHost}
    (reached : (recallSystem env sessionId).Reachable (host, check))
    {session : PlayerSession}
    (found : host.room.playerSessions.lookup sessionId = some session)
    : ((host.ticksOf sessionId).filter (·.generation == session.recallGeneration)).length ≤ 1
      ∧ (∀ index timer after, host.wire.recallTimers[index]? = some timer →
        timer.sessionId = sessionId →
        session.isRecalling = false ∨ session.recallGeneration ≠ timer.generation →
        host.next env (.recallTick index) = some after → after = host.spent index)
      ∧ (session.isRecalling = false → host.ticksOf sessionId ≠ [] →
        ∀ actions last, (roomSystem env).Run host actions last →
          TicksIdle env sessionId last)
      ∧ ∀ action after late, host.next env action = some after →
        after.room.playerSessions.lookup sessionId = some late →
        late.leaveReason = .recalled → session.leaveReason ≠ .recalled →
        IsLastTick env sessionId host session check action := by
  have watched : Watched sessionId host check := watched_of_reachable steady reached
  have sound : host.Sound := sound_of_reachable reached.of_observed
  refine ⟨(List.length_filter_le _ _).trans watched.few, ?_, ?_, ?_⟩
  · intro index timer after pending own stale step
    subst own
    refine ((next_recallTick pending step).2).trans ?_
    refine (recallTick_fires env (host.spent index) timer).of_stale fun other current => ?_
    obtain rfl := Option.some.inj (current.found.symm.trans found)
    rcases stale with idle | other
    · cases idle.symm.trans current.isRecalling
    · exact other current.generation
  · intro idle left actions last run
    have gone : session.leftNotified = true :=
      (watched.idle session found idle).resolve_left left
    have start : NeverRecalls sessionId host := by
      refine ⟨sound, fun other present => ?_⟩
      obtain rfl := Option.some.inj (found.symm.trans present)
      exact ⟨idle, gone⟩
    exact (run.preserves (fun _ _ _ holds => holds.next) start).ticksIdle
  · intro action after late step stored recalled newly
    exact (next_recallStep sound step).isLastTick watched found stored recalled newly

end Observing

/-- The carrier in the zone, before its fifth tick. -/
def fourTicks : RoomHost := endOf slowField (fun _ _ _ => true) carrier (recallActions.take 8)

theorem slowField_steady : Monotone slowField.clock :=
  fun _ _ le => Nat.mul_le_mul_right 1000000000 le

/-- The next tick is the last. -/
theorem carrier_lastTick
    : ∃ check session, (recallSystem slowField 1).Reachable (fourTicks, check)
      ∧ fourTicks.room.playerSessions.lookup 1 = some session
      ∧ IsLastTick slowField 1 fourTicks session check (.recallTick 0) := by
  have reached : (roomSystem slowField).Reachable fourTicks :=
    (reachable_endOf slowField (fun _ _ _ => true) carrier_fresh (recallActions.take 8)
      (by decide +kernel)).of_restrict
  have observed : ∃ check, (recallSystem slowField 1).Reachable (fourTicks, check) :=
    reached.observed
  obtain ⟨check, watched⟩ := observed
  have staying : (fourTicks.room.playerSessions.lookup 1).any
      (·.leaveReason != .recalled) = true := by
    decide +kernel
  have leaves : ((fourTicks.next slowField (.recallTick 0)).bind
      (·.room.playerSessions.lookup 1)).any (·.leaveReason == .recalled) = true := by
    decide +kernel
  obtain ⟨session, found, newly⟩ := (Option.any_eq_true _ _).mp staying
  obtain ⟨late, stored, recalled⟩ := (Option.any_eq_true _ _).mp leaves
  obtain ⟨after, step, stored⟩ := Option.bind_eq_some_iff.mp stored
  refine ⟨check, session, watched, found, ?_⟩
  exact (recall_checked slowField_steady watched found).2.2.2 (.recallTick 0) after late step
    stored (eq_of_beq recalled) (bne_iff_ne.mp newly)

end RoomHost

end ExtractionServer.Room
