import ExtractionServer.Matchmaking.DediManager
import Mathlib.Data.List.Induction

/-! Accepted groups on their way through an `M2DSession`: each is sent once or waits, and a
group that waits when the socket is bound stays behind.
-/

namespace ExtractionServer.Matchmaking

open Lobby Room

-----------------------------------------------------------------------------------------
-- What one operation does
-----------------------------------------------------------------------------------------

/-- Allocation refuses and changes nothing, or accepts: the packet of the group joins the
waiting ones, and all of them are sent if the session is ready.
-/
theorem M2DSession.allocatePlayers_cases {session after : M2DSession} {hgetall : TicketReads}
    {ticketVec : List MatchTicket} {accepted : Bool}
    (returns : session.allocatePlayers hgetall ticketVec = some (after, accepted))
    : accepted = false ∧ after = session
      ∨ accepted = true
        ∧ session.allocatedPlayers + ticketVec.length ≤ MAX_PLAYER_PER_PROCESS
        ∧ ∃ pkt, groupPacket hgetall ticketVec = some pkt
          ∧ after.allocatedPlayers = session.allocatedPlayers + ticketVec.length
          ∧ after.state = session.state
          ∧ session.sent <+: after.sent
          ∧ (session.state = .ready → after.tempMatchPkts = [])
          ∧ after.sent ++ after.tempMatchPkts
            = session.sent ++ session.tempMatchPkts ++ [pkt] := by
  unfold allocatePlayers at returns
  split at returns
  · next affordable =>
      obtain ⟨pkt, made, result⟩ := Option.map_eq_some_iff.mp returns
      have room : session.allocatedPlayers + ticketVec.length ≤ MAX_PLAYER_PER_PROCESS := by
        have := affordable.1
        unfold getAffordablePlayers at this
        omega
      refine .inr ⟨(Prod.mk.inj result).2.symm, room, pkt, made, ?_⟩
      rw [← (Prod.mk.inj result).1]
      by_cases ready : session.state = .ready
      · simp [ready, flushPendingTickets]
      · simp [ready]
  · cases returns
    exact .inl ⟨rfl, rfl⟩

-----------------------------------------------------------------------------------------
-- Runs of one session
-----------------------------------------------------------------------------------------

/-- What the rest of the main process does with a session. -/
inductive SessionOp where
  | allocatePlayers (hgetall : TicketReads) (ticketVec : List MatchTicket)
  | bindSocket (fd : Int)
  | releasePlayers (count : Int)

/-- A session with the packets of the groups it has accepted, in order. -/
structure SessionRun where
  session : M2DSession
  accepted : List M2DMakeRoomForThisGroup := []
deriving DecidableEq

namespace SessionRun

def apply (run : SessionRun) : SessionOp → Option SessionRun
  | .allocatePlayers hgetall ticketVec =>
      (run.session.allocatePlayers hgetall ticketVec).map fun (session, accepted) =>
        { session
          accepted :=
            if accepted then run.accepted ++ (groupPacket hgetall ticketVec).toList
            else run.accepted }
  | .bindSocket fd => some { run with session := run.session.bindSocket fd }
  | .releasePlayers count => some { run with session := run.session.releasePlayers count }

/-- The run of a fresh session; it ends when the process does. -/
def after (pid : Int) (ops : List SessionOp) : Option SessionRun :=
  ops.foldlM apply { session := { pid } }

/-- Each accepted group is sent or waits, once; in a ready session none waits. -/
structure Settled (run : SessionRun) : Prop where
  once : run.session.sent ++ run.session.tempMatchPkts = run.accepted
  flushed : run.session.state = .ready → run.session.tempMatchPkts = []

/-- Each accepted group is sent or waits, once: one step. -/
theorem apply_once {run next : SessionRun} {op : SessionOp} (step : run.apply op = some next)
    (once : run.session.sent ++ run.session.tempMatchPkts = run.accepted)
    : next.session.sent ++ next.session.tempMatchPkts = next.accepted := by
  cases op with
  | allocatePlayers hgetall ticketVec =>
      obtain ⟨⟨session, accepted⟩, returns, rfl⟩ := Option.map_eq_some_iff.mp step
      rcases M2DSession.allocatePlayers_cases returns with
        ⟨rfl, rfl⟩ | ⟨rfl, _, pkt, made, _, _, _, _, sent⟩
      · exact once
      · simp only [made, if_true, Option.toList_some]
        rw [sent, once]
  | bindSocket fd =>
      cases step
      exact once
  | releasePlayers count =>
      cases step
      exact once

/-- A step keeps a ready session free of waiting groups unless it binds the socket of a
session with waiting groups.
-/
theorem apply_flushed {run next : SessionRun} {op : SessionOp}
    (step : run.apply op = some next)
    (flushed : run.session.state = .ready → run.session.tempMatchPkts = [])
    (bound : ∀ fd, op = .bindSocket fd → run.session.tempMatchPkts = [])
    : next.session.state = .ready → next.session.tempMatchPkts = [] := by
  cases op with
  | allocatePlayers hgetall ticketVec =>
      obtain ⟨⟨session, accepted⟩, returns, rfl⟩ := Option.map_eq_some_iff.mp step
      rcases M2DSession.allocatePlayers_cases returns with
        ⟨_, rfl⟩ | ⟨_, _, pkt, _, _, state, _, empty, _⟩
      · exact flushed
      · exact fun ready => empty (state ▸ ready)
  | bindSocket fd =>
      cases step
      exact fun _ => bound fd rfl
  | releasePlayers count =>
      cases step
      exact flushed

theorem after_concat (pid : Int) (ops : List SessionOp) (op : SessionOp)
    : after pid (ops ++ [op]) = (after pid ops).bind (·.apply op) := by
  simp [after, List.foldlM_append]

/-- In a run each accepted group is sent or waits, once, by induction on the run from its
end.
-/
theorem after_once {pid : Int} {ops : List SessionOp} {run : SessionRun}
    (reached : after pid ops = some run)
    : run.session.sent ++ run.session.tempMatchPkts = run.accepted := by
  induction ops using List.reverseRecOn generalizing run with
  | nil =>
      cases reached
      rfl
  | append_singleton ops op ih =>
      rw [after_concat] at reached
      obtain ⟨before, earlier, step⟩ := Option.bind_eq_some_iff.mp reached
      exact apply_once step (ih earlier)

/-- No group is stranded at any point of a run exactly when the socket is never bound while
groups wait. Witness: the state after the bind in one direction, induction on the run in the
other.
-/
theorem settled_iff (pid : Int) (ops : List SessionOp)
    : (∀ before rest run, ops = before ++ rest → after pid before = some run → run.Settled)
      ↔ ∀ before fd rest run, ops = before ++ .bindSocket fd :: rest →
          after pid before = some run → run.session.tempMatchPkts = [] := by
  constructor
  · intro settled before fd rest run split reached
    refine (settled (before ++ [.bindSocket fd]) rest
      { run with session := run.session.bindSocket fd } (by simp [split]) ?_).flushed rfl
    rw [after_concat, reached]
    rfl
  · intro bound before rest run split reached
    refine ⟨after_once reached, ?_⟩
    induction before using List.reverseRecOn generalizing rest run with
    | nil =>
        cases reached
        exact nofun
    | append_singleton before op ih =>
        rw [after_concat] at reached
        obtain ⟨earlier, found, step⟩ := Option.bind_eq_some_iff.mp reached
        rw [List.append_assoc] at split
        refine apply_flushed step (ih _ earlier split found) fun fd isBind => ?_
        subst isBind
        exact bound before fd rest earlier split found

/-- A solo group whose ticket is there. -/
def soloGroup : List MatchTicket :=
  [{ ticketId := "ticket_a", uId := 1, aggression := 5, mapId := 1, characterType := 0,
     startTime := 0 }]

def soloReads : TicketReads := fun _ =>
  some
    { fields := some
        { uid := 1, userId := "alpha", rating := 1500, aggression := 5,
          loadoutType := .free, mapId := 1, characterType := 0 }
      status := some .inProgress }

/-- A group accepted before the dedicated process connects waits in a ready session. -/
theorem stranded_after_bind
    : ¬∀ before rest run,
        [SessionOp.allocatePlayers soloReads soloGroup, .bindSocket 7] = before ++ rest →
        after 100 before = some run → run.Settled := by
  intro settled
  have last := settled _ [] _ (List.append_nil _).symm (Option.eq_some_of_isSome (by decide))
  exact absurd (last.flushed (by decide)) (by decide)

end SessionRun

end ExtractionServer.Matchmaking
