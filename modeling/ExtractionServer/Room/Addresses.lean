import ExtractionServer.Room.PlainSteps
import ExtractionServer.Room.RoomRuns
import ExtractionServer.Room.SessionLinks

/-! Where retransmissions go: each pending packet keeps the address that its session had when the
packet was made, however the address changes later.
-/

namespace ExtractionServer.Room

open Transport
open Transition (System)

namespace SessionLink

-----------------------------------------------------------------------------------------
-- Waiting datagrams
-----------------------------------------------------------------------------------------

/-- The datagrams that wait for an acknowledgement, with their destinations. -/
def waiting (link : SessionLink) : List (Datagram D2CMessage × SockAddr) :=
  link.channel.pendingReliable.packets.map fun packet => (packet.data, packet.destAddr)

/-- The action builds a new datagram. -/
def Action.builds : Action → Bool
  | .channelOpen _ _ => true
  | .send _ => true
  | _ => false

/-- The action may write the session's address. -/
def Action.writesAddress : Action → Bool
  | .bindClientIp _ => true
  | .channelOpen _ _ => true
  | _ => false

variable {env : Environment} {sessionId : Nat} {link : SessionLink}
    {datagram : Datagram D2CMessage × SockAddr}

theorem waiting_of_subset {channel : Channel D2CMessage} {session : PlayerSession}
    {clock : TimePoint}
    (fewer : channel.pendingReliable.packets ⊆ link.channel.pendingReliable.packets)
    (waits : datagram ∈ ({ session, channel, clock } : SessionLink).waiting)
    : datagram ∈ link.waiting :=
  List.map_subset _ fewer waits

/-- A new scan time is no new datagram. -/
theorem waiting_retransmit (nowMs : BitVec 32)
    : ({ link with channel := (link.channel.retransmit nowMs).1 } : SessionLink).waiting
      = link.waiting := by
  simp only [waiting, Channel.retransmit, PendingReliable.restamp, List.map_map]
  apply List.map_congr_left
  intro packet _
  simp only [Function.comp_apply]
  split <;> rfl

/-- A datagram that waits after a send did so before, or it is the one that was sent. -/
theorem waiting_send {message : D2CMessage}
    (waits : datagram ∈ (link.send env sessionId message).1.waiting)
    : datagram ∈ link.waiting
      ∨ datagram ∈ (link.send env sessionId message).2
        ∧ datagram.2 = link.session.clientAddr := by
  obtain ⟨packet, mem, rfl⟩ := List.mem_map.mp waits
  rcases RoomHost.makeD2CPacketImpl_packets _ _ _ _ _ _ _ _ packet mem with old | new
  · exact .inl (List.mem_map_of_mem old)
  · exact .inr ⟨List.mem_singleton.mpr new, congrArg Prod.snd new⟩

theorem waiting_setPort (clientAddr : SockAddr)
    : (link.setPort clientAddr).waiting = link.waiting := by
  unfold setPort
  split <;> rfl

/-- One step: what waits has waited, or it has just been built, for the session's address. -/
theorem waiting_perform {action : Action}
    (waits : datagram ∈ (link.perform env sessionId action).1.waiting)
    : datagram ∈ link.waiting
      ∨ action.builds = true ∧ datagram ∈ (link.perform env sessionId action).2
        ∧ datagram.2 = (link.perform env sessionId action).1.session.clientAddr := by
  cases action with
  | wait clock => exact .inl waits
  | become session => exact .inl waits
  | bindClientIp addr => exact .inl waits
  | channelOpen clientAddr echo =>
      refine (waiting_send waits).imp (fun old => ?_) fun new => ⟨rfl, new⟩
      rwa [waiting_setPort] at old
  | send message => exact (waiting_send waits).imp_right fun new => ⟨rfl, new⟩
  | receive header => exact .inl (waiting_of_subset (RoomHost.receive_packets _ _ _) waits)
  | clearPendingReliableExcept keepSeq =>
      exact .inl (waiting_of_subset (List.filter_subset_self _) waits)
  | checkRetransmits =>
      simp only [perform] at waits
      split at waits
      · exact .inl waits
      · exact .inl (waiting_retransmit _ ▸ waits)
  | detectDisconnected =>
      simp only [perform] at waits
      split at waits <;> exact .inl waits

/-- Only datagrams that wait are sent again. -/
theorem waiting_of_retransmitted
    (sent : datagram ∈ (link.perform env sessionId .checkRetransmits).2)
    : datagram ∈ link.waiting := by
  simp only [perform] at sent
  split at sent
  · cases sent
  · obtain ⟨packet, candidate, rfl⟩ := List.mem_map.mp sent
    exact List.mem_map_of_mem (List.mem_of_mem_filter candidate)

/-- Only some actions write the address. -/
theorem clientAddr_perform {action : Action} (keeps : action.writesAddress = false)
    : (link.perform env sessionId action).1.session.clientAddr = link.session.clientAddr := by
  cases action with
  | wait clock => rfl
  | become session => rfl
  | bindClientIp addr => cases keeps
  | channelOpen clientAddr echo => cases keeps
  | send message => rfl
  | receive header => rfl
  | clearPendingReliableExcept keepSeq => rfl
  | checkRetransmits =>
      simp only [perform]
      split <;> rfl
  | detectDisconnected =>
      simp only [perform, PlayerSession.markLeaving]
      split
      · split <;> rfl
      · rfl

-----------------------------------------------------------------------------------------
-- Runs
-----------------------------------------------------------------------------------------

/-- A run without writes of the address, by induction on the run. -/
theorem clientAddr_run {start last : SessionLink} {actions : List Action}
    (run : (system env sessionId).Run start actions last)
    (keeps : ∀ action ∈ actions, action.writesAddress = false)
    : last.session.clientAddr = start.session.clientAddr := by
  induction run with
  | nil => rfl
  | cons step _ ih =>
      have here := keeps _ List.mem_cons_self
      have later := ih fun action mem => keeps action (List.mem_cons_of_mem _ mem)
      rw [later, step, clientAddr_perform here]

/-- A step of a run has built a datagram and sent it to the address of the session then. -/
structure Built (env : Environment) (sessionId : Nat) (start last : SessionLink)
    (datagram : Datagram D2CMessage × SockAddr) (earlier : List Action) (action : Action)
    (later : List Action) (before made : SessionLink)
    : Prop where
  builds : action.builds = true
  first : (system env sessionId).Run start earlier before
  step : made = (before.perform env sessionId action).1
  rest : (system env sessionId).Run made later last
  sent : datagram ∈ (before.perform env sessionId action).2
  address : datagram.2 = made.session.clientAddr

/-- What waits at the end of a run has waited at its start or has been built in it, by induction
on the run.
-/
theorem waiting_run {start last : SessionLink} {actions : List Action}
    (run : (system env sessionId).Run start actions last) (waits : datagram ∈ last.waiting)
    : datagram ∈ start.waiting
      ∨ ∃ earlier action later before made, actions = earlier ++ action :: later
        ∧ Built env sessionId start last datagram earlier action later before made := by
  induction run with
  | nil => exact .inl waits
  | @cons start middle last action actions step rest ih =>
      rcases ih waits with early | ⟨earlier, builder, later, before, made, rfl, built⟩
      · refine (waiting_perform (step ▸ early)).imp_right fun ⟨builds, sent, address⟩ => ?_
        exact ⟨[], action, actions, start, middle, rfl,
          { builds
            first := .nil start
            step
            rest
            sent
            address := step ▸ address }⟩
      · exact .inr ⟨action :: earlier, builder, later, before, made, rfl,
          { built with first := .cons step built.first }⟩

/-- Every retransmission repeats a datagram that was sent before, to the address that the session
had when it was built. That is the current address if this has not been written since.
-/
theorem retransmissions_repeat {start last : SessionLink} {actions : List Action}
    (initial : (system env sessionId).initial start)
    (run : (system env sessionId).Run start actions last)
    : ∀ datagram ∈ (last.perform env sessionId .checkRetransmits).2,
      ∃ earlier action later before made, actions = earlier ++ action :: later
        ∧ Built env sessionId start last datagram earlier action later before made
        ∧ ((∀ other ∈ later, other.writesAddress = false) →
          datagram.2 = last.session.clientAddr) := by
  intro datagram sent
  have none : start.waiting = [] := by
    rw [waiting, initial]
    rfl
  obtain ⟨earlier, action, later, before, made, split, built⟩ :=
    (waiting_run run (waiting_of_retransmitted sent)).resolve_left (by simp [none])
  exact ⟨earlier, action, later, before, made, split, built,
    fun keeps => built.address.trans (clientAddr_run built.rest keeps).symm⟩

/-- A link without a channel history. -/
def unopened : SessionLink := { session := RoomHost.newcomer 1 [] [] }

/-- Run a link along a list of actions. -/
def performAll (env : Environment) (sessionId : Nat) (link : SessionLink)
    (actions : List Action)
    : SessionLink :=
  actions.foldl (fun link action => (link.perform env sessionId action).1) link

theorem run_performAll (env : Environment) (sessionId : Nat) (link : SessionLink)
    (actions : List Action)
    : (system env sessionId).Run link actions (link.performAll env sessionId actions) := by
  induction actions generalizing link with
  | nil => exact .nil link
  | cons action rest ih => exact .cons rfl (ih (link.perform env sessionId action).1)

/-- The binding comes first, and the answer to `ChannelOpen` is sent again after 200 ms. -/
def boundFirst : List Action :=
  [.bindClientIp 9, .channelOpen { addr := 9, port := 5000 } "", .wait 200000000]

theorem answer_repeated
    : ((unopened.performAll RoomHost.openField 1 boundFirst).perform RoomHost.openField 1
          .checkRetransmits).2 ≠ []
      ∧ ∀ datagram ∈ ((unopened.performAll RoomHost.openField 1 boundFirst).perform
          RoomHost.openField 1 .checkRetransmits).2,
        ∃ earlier action later before made, boundFirst = earlier ++ action :: later
          ∧ Built RoomHost.openField 1 unopened
            (unopened.performAll RoomHost.openField 1 boundFirst) datagram earlier action later
            before made
          ∧ ((∀ other ∈ later, other.writesAddress = false) →
            datagram.2
              = (unopened.performAll RoomHost.openField 1 boundFirst).session.clientAddr) :=
  ⟨List.cons_ne_nil _ _, retransmissions_repeat rfl (run_performAll _ _ _ _)⟩

/-- The port comes first: the answer to `ChannelOpen` is sent again without the IP that has been
bound in the meantime.
-/
theorem answer_astray
    : ∃ (actions : List Action) (last : SessionLink),
        (system RoomHost.openField 1).initial unopened
        ∧ (system RoomHost.openField 1).Run unopened actions last
        ∧ ∃ datagram ∈ (last.perform RoomHost.openField 1 .checkRetransmits).2,
          datagram.2 = { addr := 0, port := 5000 }
          ∧ last.session.clientAddr = { addr := 9, port := 5000 } :=
  ⟨[.channelOpen { addr := 9, port := 5000 } "", .bindClientIp 9, .wait 200000000], _, rfl,
    run_performAll _ _ _ _, _, List.mem_cons_self, rfl, rfl⟩

end SessionLink

end ExtractionServer.Room
