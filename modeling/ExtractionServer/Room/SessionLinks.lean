import ExtractionServer.Library.Transition
import ExtractionServer.Room.ClientPacketHandler

/-! The link of one session to its client: its address, its channel and the clock, with all that
is done to them while the rest of the room goes its way.
-/

namespace ExtractionServer.Room

open Transport
open Transition (System)

-----------------------------------------------------------------------------------------
-- Links
-----------------------------------------------------------------------------------------

/-- A session with its transport state and the time. -/
structure SessionLink where
  session : PlayerSession
  channel : Channel D2CMessage := {}
  clock : TimePoint := 0

namespace SessionLink

/-- What happens to a link. Handlers and timers change a session in many ways, but not its
address.
-/
inductive Action where
  | wait (clock : TimePoint)
  | become (session : PlayerSession)
  | bindClientIp (addr : BitVec 32)
  | channelOpen (clientAddr : SockAddr) (echo : String)
  | send (message : D2CMessage)
  | receive (header : UDPHeader)
  | clearPendingReliableExcept (keepSeq : BitVec 32)
  | checkRetransmits
  | detectDisconnected

/-- A link after an action, with the datagrams handed to the socket. -/
abbrev Outcome := SessionLink × List (Datagram D2CMessage × SockAddr)

/-- Build a message and hand it to the socket. -/
def send (env : Environment) (sessionId : Nat) (link : SessionLink) (message : D2CMessage)
    : Outcome :=
  let (channel, buf) := link.channel.makeD2CPacketImpl (env.digest link.session.securityKey)
    (BitVec.ofNat 16 sessionId) link.session.clientAddr (nowMs link.clock) message.pktId
    message.isReliable message
  ({ link with channel }, [(buf, link.session.clientAddr)])

/-- The part of `Handle_C2D_ChannelOpen` before its answer. -/
def setPort (clientAddr : SockAddr) (link : SessionLink) : SessionLink :=
  if link.session.sessionState = .init then
    { link with
      session :=
        { link.session with
          clientAddr := { link.session.clientAddr with port := clientAddr.port }
          sessionState := .connected } }
  else link

/-- The verdict of `DetectDisconnectedSessions` on one session. -/
def isDisconnected (link : SessionLink) : Bool :=
  link.session.isInplay && !link.session.isLeaving && link.channel.lastEchoTs != 0
    && nowMs link.clock - link.channel.lastEchoTs ≥ PlayerSession.DISCONNECT_TIMEOUT_MS

theorem isDisconnected_iff (link : SessionLink)
    : link.isDisconnected = true
      ↔ link.session.isInplay = true ∧ link.session.isLeaving = false
        ∧ link.channel.lastEchoTs ≠ 0
        ∧ PlayerSession.DISCONNECT_TIMEOUT_MS
          ≤ nowMs link.clock - link.channel.lastEchoTs := by
  simp [isDisconnected, and_assoc]

def perform (env : Environment) (sessionId : Nat) (link : SessionLink) : Action → Outcome
  | .wait clock => ({ link with clock }, [])
  | .become session =>
      ({ link with session := { session with clientAddr := link.session.clientAddr } }, [])
  | .bindClientIp addr =>
      ({ link with
          session :=
            { link.session with clientAddr := { link.session.clientAddr with addr } } }, [])
  | .channelOpen clientAddr echo =>
      (link.setPort clientAddr).send env sessionId (.responseChannelOpen echo)
  | .send message => link.send env sessionId message
  | .receive header =>
      ({ link with channel := (link.channel.receive header (nowMs link.clock)).1 }, [])
  | .clearPendingReliableExcept keepSeq =>
      ({ link with channel := link.channel.clearPendingReliableExcept keepSeq }, [])
  | .checkRetransmits =>
      if link.session.leaveState = .finalized then (link, [])
      else
        let (channel, bufs) := link.channel.retransmit (nowMs link.clock)
        ({ link with channel }, bufs)
  | .detectDisconnected =>
      if link.isDisconnected then
        ({ link with session := link.session.markLeaving .disconnected link.clock 0 }, [])
      else (link, [])

/-- The links of a session: nothing has been sent at first. -/
def system (env : Environment) (sessionId : Nat) : System SessionLink Action where
  initial link := link.channel = {}
  step before action after := after = (before.perform env sessionId action).1

end SessionLink

-----------------------------------------------------------------------------------------
-- The links in a room
-----------------------------------------------------------------------------------------

namespace RoomHost

/-- The link of a session of the room, when the clock is read next. -/
def link (env : Environment) (host : RoomHost) (sessionId : Nat) : Option SessionLink :=
  (host.room.playerSessions.lookup sessionId).map fun session =>
    { session, channel := host.wire.channels sessionId, clock := env.clock host.wire.reads }

variable {env : Environment} {host : RoomHost} {sessionId : Nat} {link : SessionLink}

theorem lookup_of_link (found : host.link env sessionId = some link)
    : host.room.playerSessions.lookup sessionId = some link.session
      ∧ host.wire.channels sessionId = link.channel ∧ env.clock host.wire.reads = link.clock := by
  obtain ⟨session, here, rfl⟩ := Option.map_eq_some_iff.mp found
  exact ⟨here, rfl, rfl⟩

/-- A send of the room is a send on the link, after which the clock goes on. -/
theorem send_link (found : host.link env sessionId = some link) (message : D2CMessage)
    : (host.send env sessionId message).link env sessionId
        = some { (link.send env sessionId message).1 with
            clock := env.clock (host.wire.reads + 1) }
      ∧ (host.send env sessionId message).wire.sent
        = host.wire.sent ++ (link.send env sessionId message).2 := by
  obtain ⟨here, channel, clock⟩ := lookup_of_link found
  simp only [send, here, RoomHost.link, SessionLink.send, now, Option.map_some,
    Function.update_self, channel, clock, and_self]

theorem modifySession_link (found : host.link env sessionId = some link)
    (f : PlayerSession → PlayerSession)
    : (host.modifySession sessionId f).link env sessionId
      = some { link with session := f link.session } := by
  obtain ⟨here, channel, clock⟩ := lookup_of_link found
  simp only [RoomHost.link, modifySession, modifyRoom, GameRoom.modifySession,
    Table.lookup_adjust_self, here, Option.map_some, channel, clock]

theorem bindClientIp_link (found : host.link env sessionId = some link) (addr : BitVec 32)
    : ∃ after, host.next env (.bindClientIp sessionId addr) = some after
        ∧ after.link env sessionId
          = some (link.perform env sessionId (.bindClientIp addr)).1 :=
  ⟨_, rfl, modifySession_link found _⟩

/-- The handler of `ChannelOpen`, with the port that the datagram came from. -/
theorem handleC2DChannelOpen_link (found : host.link env sessionId = some link)
    (clientAddr : SockAddr) (echo : String)
    : (host.handleC2DChannelOpen env sessionId link.session clientAddr echo).1.link env sessionId
        = some { (link.perform env sessionId (.channelOpen clientAddr echo)).1 with
            clock := env.clock (host.wire.reads + 1) }
      ∧ (host.handleC2DChannelOpen env sessionId link.session clientAddr echo).1.wire.sent
        = host.wire.sent ++ (link.perform env sessionId (.channelOpen clientAddr echo)).2 := by
  simp only [handleC2DChannelOpen, SessionLink.perform, SessionLink.setPort]
  split
  · exact send_link (modifySession_link found _) (.responseChannelOpen echo)
  · exact send_link found (.responseChannelOpen echo)

/-- The header of a datagram is recorded in the channel before its handler is called. -/
theorem receive_link (found : host.link env sessionId = some link) (header : UDPHeader)
    : (host.receive env sessionId header).1.link env sessionId
      = some { (link.perform env sessionId (.receive header)).1 with
          clock := env.clock (host.wire.reads + 1) } := by
  obtain ⟨here, channel, clock⟩ := lookup_of_link found
  simp only [receive, RoomHost.link, modifyChannel, now, here, SessionLink.perform,
    Option.map_some, Function.update_self, channel, clock]

/-- A scan for retransmissions, which reads the clock if the session is not finalized. -/
theorem checkRetransmits_link (found : host.link env sessionId = some link)
    : ∃ after reads, host.next env (.checkRetransmits sessionId) = some after
        ∧ after.link env sessionId
          = some { (link.perform env sessionId .checkRetransmits).1 with
              clock := env.clock reads }
        ∧ after.wire.sent
          = host.wire.sent ++ (link.perform env sessionId .checkRetransmits).2 := by
  obtain ⟨here, channel, clock⟩ := lookup_of_link found
  by_cases finalized : link.session.leaveState = .finalized
  · refine ⟨host, host.wire.reads, ?_, ?_, ?_⟩
    · simp [next, here, finalized]
    · simp only [SessionLink.perform, if_pos finalized, found, clock]
    · simp only [SessionLink.perform, if_pos finalized, List.append_nil]
  · refine ⟨_, host.wire.reads + 1, by simp [next, here, finalized]; rfl, ?_, ?_⟩
    · simp only [SessionLink.perform, if_neg finalized, RoomHost.link, now, here,
        Option.map_some, Function.update_self, channel, clock]
    · simp only [SessionLink.perform, if_neg finalized, now, channel, clock]

/-- One iteration of `DetectDisconnectedSessions`. -/
def detectDisconnected (env : Environment) (now : TimePoint) (host : RoomHost)
    (sessionId : Nat)
    : RoomHost :=
  match host.room.playerSessions.lookup sessionId with
  | none => host
  | some session =>
      let echoTs := (host.wire.channels sessionId).lastEchoTs
      if !session.isInplay || session.isLeaving then host
      else if echoTs = 0 then host
      else if nowMs now - echoTs < PlayerSession.DISCONNECT_TIMEOUT_MS then host
      else host.markLeaving env sessionId .disconnected 0

/-- The verdict on one session leaves the channels and the other sessions. -/
theorem detectDisconnected_frame (env : Environment) (now : TimePoint) (host : RoomHost)
    (sessionId : Nat)
    : (host.detectDisconnected env now sessionId).wire.channels = host.wire.channels
      ∧ ∀ other, other ≠ sessionId →
        (host.detectDisconnected env now sessionId).room.playerSessions.lookup other
          = host.room.playerSessions.lookup other := by
  unfold detectDisconnected
  split
  · exact ⟨rfl, fun _ _ => rfl⟩
  · dsimp only
    split
    · exact ⟨rfl, fun _ _ => rfl⟩
    · split
      · exact ⟨rfl, fun _ _ => rfl⟩
      · split
        · exact ⟨rfl, fun _ _ => rfl⟩
        · exact ⟨rfl, fun other apart => Table.lookup_adjust_ne apart _ _⟩

theorem detectDisconnected_eq (env : Environment) (host : RoomHost) {sessionId : Nat}
    {session : PlayerSession}
    (found : host.room.playerSessions.lookup sessionId = some session) (clock : TimePoint)
    : host.detectDisconnected env clock sessionId
      = if SessionLink.isDisconnected
            { session, channel := host.wire.channels sessionId, clock }
          then host.markLeaving env sessionId .disconnected 0 else host := by
  have verdict := SessionLink.isDisconnected_iff
    { session, channel := host.wire.channels sessionId, clock }
  by_cases lost : SessionLink.isDisconnected
      { session, channel := host.wire.channels sessionId, clock } = true
  · obtain ⟨inplay, staying, heard, late⟩ := verdict.mp lost
    rw [if_pos lost]
    simp only [detectDisconnected, found, inplay, staying, Bool.not_true, Bool.or_self,
      Bool.false_eq_true, if_false, if_neg heard, if_neg (BitVec.not_lt.mpr late)]
  · rw [if_neg lost]
    simp only [detectDisconnected, found]
    split
    · rfl
    · next staying =>
        split
        · rfl
        · next heard =>
            split
            · rfl
            · next late =>
                refine absurd (verdict.mpr ⟨?_, ?_, heard, BitVec.not_lt.mp late⟩) lost
                · simp_all
                · simp_all

/-- The loop judges the session once, with the clock reading at its start. -/
theorem detectDisconnectedSessions_link (found : host.link env sessionId = some link)
    : ∃ markedAt reads, (host.detectDisconnectedSessions env).link env sessionId
        = some { link with
            session :=
              if link.isDisconnected then link.session.markLeaving .disconnected markedAt 0
              else link.session
            clock := env.clock reads } := by
  obtain ⟨here, channel, clock⟩ := lookup_of_link found
  have present : sessionId ∈ host.room.playerSessions.keys :=
    AList.mem_keys.mp (AList.lookup_isSome.mp (by rw [here]; rfl))
  let start : TimePoint := env.clock host.wire.reads
  obtain ⟨turn, before, after⟩ := Table.foldl_own_turn
    (fun (other : Nat) (state : RoomHost) =>
      (state.room.playerSessions.lookup other, state.wire.channels))
    (fun state key other apart => Prod.ext
      ((state.detectDisconnected_frame env start key).2 other apart)
      (state.detectDisconnected_frame env start key).1)
    host.room.playerSessions.keys_nodup present (host.now env).1
  obtain ⟨lookup, channels⟩ := Prod.mk.inj before
  obtain ⟨judged, kept⟩ := Prod.mk.inj after
  have own := lookup.trans here
  have same : turn.wire.channels sessionId = link.channel := (congrFun channels _).trans channel
  have verdict := turn.detectDisconnected_eq env own start
  rw [same, show ({ session := link.session, channel := link.channel, clock := start }
    : SessionLink) = link from congrArg (SessionLink.mk _ _) clock] at verdict
  refine ⟨env.clock turn.wire.reads,
    (host.detectDisconnectedSessions env).wire.reads, ?_⟩
  have session : (host.detectDisconnectedSessions env).room.playerSessions.lookup sessionId
      = some (if link.isDisconnected
          then link.session.markLeaving .disconnected (env.clock turn.wire.reads) 0
          else link.session) := by
    refine judged.trans ?_
    rw [verdict]
    split
    · simp [markLeaving, now, modifyRoom, GameRoom.modifySession, own]
    · exact own
  have heard : (host.detectDisconnectedSessions env).wire.channels sessionId = link.channel := by
    refine (congrFun kept sessionId).trans ?_
    rw [verdict]
    split <;> exact same
  simp only [RoomHost.link, session, heard, Option.map_some]

end RoomHost

end ExtractionServer.Room
