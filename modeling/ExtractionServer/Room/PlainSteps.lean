import ExtractionServer.Room.Effects

/-! What most packets leave alone: the recalls of the sessions with their timers, the
lifetime of the room, and the authority over NPCs with its notices.
-/

namespace ExtractionServer.Room

open Transport

-----------------------------------------------------------------------------------------
-- Recalls and authorities of a room
-----------------------------------------------------------------------------------------

/-- How far a session is with its recall. -/
structure RecallState where
  uid : Int
  isRecalling : Bool
  recallGeneration : BitVec 32
  recallPassCount : Nat
  recallSpotIndex : Nat

def PlayerSession.recallState (session : PlayerSession) : RecallState where
  uid := session.uid
  isRecalling := session.isRecalling
  recallGeneration := session.recallGeneration
  recallPassCount := session.recallPassCount
  recallSpotIndex := session.recallSpotIndex

/-- The recall of a session is as before. -/
structure PlayerSession.SameRecall (before after : PlayerSession) : Prop where
  recallState : after.recallState = before.recallState
  leftNotified : before.leftNotified = true → after.leftNotified = true
  recalled : after.leaveReason = .recalled → before.leaveReason = .recalled

namespace PlayerSession.SameRecall

theorem refl (session : PlayerSession) : session.SameRecall session :=
  ⟨rfl, id, id⟩

theorem trans {a b c : PlayerSession} (first : a.SameRecall b) (second : b.SameRecall c)
    : a.SameRecall c :=
  ⟨second.recallState.trans first.recallState, second.leftNotified ∘ first.leftNotified,
    first.recalled ∘ second.recalled⟩

theorem markLeaving (session : PlayerSession) {reason : LeaveReason}
    (other : reason ≠ .recalled) (now : TimePoint) (notifyRSeq : BitVec 32)
    : session.SameRecall (session.markLeaving reason now notifyRSeq) := by
  unfold PlayerSession.markLeaving
  split
  · exact ⟨rfl, id, fun recalled => absurd recalled other⟩
  · exact refl session

end PlayerSession.SameRecall

/-- How far a room is in its life. -/
structure RoomTerm where
  roomId : Nat
  createdAt : TimePoint
  lifetimeExpired : Bool
  allLeftReported : Bool

def GameRoom.term (room : GameRoom) : RoomTerm where
  roomId := room.roomId
  createdAt := room.createdAt
  lifetimeExpired := room.lifetimeExpired
  allLeftReported := room.allLeftReported

/-- What is to be done about a room: the pending ticks of its recalls, and its end. -/
structure Agenda where
  term : RoomTerm
  pendingDestroyRooms : List Nat
  recallTimers : List RecallTimer

def RoomHost.agenda (host : RoomHost) : Agenda where
  term := host.room.term
  pendingDestroyRooms := host.wire.pendingDestroyRooms
  recallTimers := host.wire.recallTimers

/-- Who has authority over an NPC. -/
structure Authority where
  objectId : Nat
  minAggro : Int
  maxAggro : Int
  aggro : Int
  targetId : Option Nat
deriving DecidableEq, Repr

def HostileNPC.authority (npc : HostileNPC) : Authority where
  objectId := npc.base.objectId
  minAggro := npc.minAggro
  maxAggro := npc.maxAggro
  aggro := npc.aggro
  targetId := npc.targetId

/-- Movement leaves authority alone. -/
theorem HostileNPC.authority_applyMovementInfo (npc : HostileNPC)
    (info : GameObjectMovementInfo)
    : (npc.applyMovementInfo info).authority = npc.authority := by
  unfold applyMovementInfo UnityGameObject.applyMovement
  dsimp only
  split <;> rfl

namespace GameRoom

def npcAuthority (room : GameRoom) (objectId : Nat) : Option Authority :=
  ((room.dynamicObjects.lookup objectId).bind NonplayerObject.asHostileNpc).map
    HostileNPC.authority

/-- A write through the pointer of a lookup that keeps the authority of an NPC. -/
theorem npcAuthority_modifyNonplayerObject {room : GameRoom} {objectId : Nat}
    {f : NonplayerObject → NonplayerObject}
    (same : ∀ object, (f object).asHostileNpc.map HostileNPC.authority
      = object.asHostileNpc.map HostileNPC.authority)
    (other : Nat)
    : (room.modifyNonplayerObject objectId f).npcAuthority other
      = room.npcAuthority other := by
  unfold modifyNonplayerObject
  split
  · rfl
  · unfold npcAuthority
    rw [Table.lookup_adjust]
    split
    · cases room.dynamicObjects.lookup other with
      | none => rfl
      | some object => exact same object
    · rfl

theorem npcAuthority_modifyContainer (room : GameRoom) (objectId other : Nat)
    (f : Container → Container)
    : (room.modifyContainer objectId f).npcAuthority other = room.npcAuthority other := by
  refine npcAuthority_modifyNonplayerObject (fun object => ?_) other
  cases object <;> rfl

theorem modifyContainer_term (room : GameRoom) (objectId : Nat) (f : Container → Container)
    : (room.modifyContainer objectId f).term = room.term := by
  unfold modifyContainer modifyNonplayerObject
  split <;> rfl

theorem modifyHostileNpc_term (room : GameRoom) (objectId : Nat)
    (f : HostileNPC → HostileNPC)
    : (room.modifyHostileNpc objectId f).term = room.term := by
  unfold modifyHostileNpc modifyNonplayerObject
  split <;> rfl

theorem modifyHostileNpc_playerSessions (room : GameRoom) (objectId : Nat)
    (f : HostileNPC → HostileNPC)
    : (room.modifyHostileNpc objectId f).playerSessions = room.playerSessions := by
  unfold modifyHostileNpc modifyNonplayerObject
  split <;> rfl

theorem npcAuthority_modifyHostileNpc {room : GameRoom} {objectId : Nat}
    {f : HostileNPC → HostileNPC} (same : ∀ npc, (f npc).authority = npc.authority)
    (other : Nat)
    : (room.modifyHostileNpc objectId f).npcAuthority other = room.npcAuthority other := by
  refine npcAuthority_modifyNonplayerObject (fun object => ?_) other
  cases object with
  | container box => rfl
  | hostileNpc npc => exact congrArg some (same npc)

/-- Recalls are as before, and so is the authority over every NPC that is left. -/
structure Plain (before after : GameRoom) : Prop where
  sessions : Table.Related (fun _ => PlayerSession.SameRecall) before.playerSessions
    after.playerSessions
  npcs : ∀ objectId authority, after.npcAuthority objectId = some authority →
    before.npcAuthority objectId = some authority
  term : after.term = before.term

namespace Plain

variable {before middle after : GameRoom}

theorem sessions_refl (sessions : Table Nat PlayerSession)
    : Table.Related (fun _ => PlayerSession.SameRecall) sessions sessions :=
  .refl (fun _ => PlayerSession.SameRecall.refl) sessions

theorem refl (room : GameRoom) : Plain room room :=
  ⟨sessions_refl room.playerSessions, fun _ _ => id, rfl⟩

theorem trans (first : Plain before middle) (second : Plain middle after)
    : Plain before after where
  sessions :=
    first.sessions.trans (fun _ _ _ _ => PlayerSession.SameRecall.trans) second.sessions
  npcs objectId authority held :=
    first.npcs objectId authority (second.npcs objectId authority held)
  term := second.term.trans first.term

theorem of_npcs (sessions : after.playerSessions = before.playerSessions)
    (term : after.term = before.term)
    (npcs : ∀ objectId, after.npcAuthority objectId = before.npcAuthority objectId)
    : Plain before after :=
  ⟨sessions ▸ sessions_refl before.playerSessions,
    fun objectId _ held => (npcs objectId).symm.trans held, term⟩

theorem modifySession {sessionId : Nat} {f : PlayerSession → PlayerSession}
    (same : ∀ session, PlayerSession.SameRecall session (f session)) (room : GameRoom)
    : Plain room (room.modifySession sessionId f) :=
  ⟨.adjust (fun _ => PlayerSession.SameRecall.refl) fun session _ => same session,
    fun _ _ => id, rfl⟩

theorem modifyContainer (objectId : Nat) (f : Container → Container) (room : GameRoom)
    : Plain room (room.modifyContainer objectId f) :=
  .of_npcs (room.modifyContainer_playerSessions objectId f) (room.modifyContainer_term objectId f)
    fun other => room.npcAuthority_modifyContainer objectId other f

theorem releaseInteractingContainer (sessionId : Nat) (room : GameRoom)
    : Plain room (room.releaseInteractingContainer sessionId) := by
  have closed : Plain room
      (room.modifySession sessionId ({ · with interactingContainerId := none })) := by
    refine .modifySession ?_ room
    exact fun _ => ⟨rfl, id, id⟩
  unfold GameRoom.releaseInteractingContainer
  split
  · exact refl room
  · dsimp only
    split
    · exact closed
    · split
      · exact closed
      · split
        · exact closed
        · exact closed.trans (modifyContainer _ _ _)

end Plain

end GameRoom

-----------------------------------------------------------------------------------------
-- Notices of authority
-----------------------------------------------------------------------------------------

/-- What a message to a session says about the authority over an NPC: to whom it goes, the
new holder and the aggro.
-/
def noticeOf (objectId : Nat) (sessionId : BitVec 16)
    : D2CMessage → Option (BitVec 16 × Option Nat × Int)
  | .notifyNpcAuthority npcId authorityPlayerId aggro =>
      if npcId = objectId then some (sessionId, authorityPlayerId, aggro) else none
  | _ => none

def D2CMessage.isNpcAuthority : D2CMessage → Bool
  | .notifyNpcAuthority .. => true
  | _ => false

/-- Packets that neither recall nor shoot nor ask for an NPC. -/
def C2DPacket.isPlain : C2DPacket → Bool
  | .requestRecall .. => false
  | .requestWeaponFire .. => false
  | .requestNpcAggro .. => false
  | .requestNpcAuthority .. => false
  | _ => true

namespace RoomHost

/-- The notices about an NPC that have been handed to the socket. -/
def authorityNotices (host : RoomHost) (objectId : Nat)
    : List (BitVec 16 × Option Nat × Int) :=
  host.wire.sent.filterMap fun entry =>
    noticeOf objectId entry.1.header.sessionId entry.1.payload

/-- The sessions that a broadcast reaches, as datagrams address them. -/
def receivers (host : RoomHost) : List (BitVec 16) :=
  (host.room.playerSessions.entries.filter (·.2.canReceiveBroadcast)).map
    fun entry => BitVec.ofNat 16 entry.1

variable (env : Environment) (host : RoomHost)

theorem makeD2CPacketImpl_datagram (channel : Channel D2CMessage)
    (digest : UDPHeader → D2CMessage → BitVec 64) (sessionId : BitVec 16) (address : SockAddr)
    (nowMs : BitVec 32) (pktId : BitVec 16) (reliable : Bool) (message : D2CMessage)
    : (channel.makeD2CPacketImpl digest sessionId address nowMs pktId reliable
          message).2.header.sessionId = sessionId
      ∧ (channel.makeD2CPacketImpl digest sessionId address nowMs pktId reliable
          message).2.payload = message := by
  unfold Channel.makeD2CPacketImpl
  cases reliable <;> exact ⟨rfl, rfl⟩

/-- A message to a session of the room is one datagram. -/
theorem send_notices {sessionId : Nat} (known : sessionId ∈ host.room.playerSessions)
    (message : D2CMessage) (objectId : Nat)
    : (host.send env sessionId message).authorityNotices objectId
      = host.authorityNotices objectId
        ++ (noticeOf objectId (BitVec.ofNat 16 sessionId) message).toList := by
  obtain ⟨session, found⟩ := Table.exists_lookup_of_mem known
  unfold send
  rw [found]
  refine List.filterMap_append.trans (congrArg (host.authorityNotices objectId ++ ·) ?_)
  rw [List.filterMap_cons, List.filterMap_nil]
  dsimp only
  obtain ⟨addressee, payload⟩ := makeD2CPacketImpl_datagram
    ((host.now env).1.wire.channels sessionId) (env.digest session.securityKey)
    (BitVec.ofNat 16 sessionId) session.clientAddr (nowMs (host.now env).2) message.pktId
    message.isReliable message
  rw [addressee, payload]
  cases noticeOf objectId (BitVec.ofNat 16 sessionId) message <;> rfl

theorem noticeOf_plain {message : D2CMessage} (plain : message.isNpcAuthority = false)
    (objectId : Nat) (sessionId : BitVec 16)
    : noticeOf objectId sessionId message = none := by
  cases message <;> first | rfl | cases plain

/-- Other messages are no notices. -/
theorem send_plain {message : D2CMessage} (plain : message.isNpcAuthority = false)
    (sessionId objectId : Nat)
    : (host.send env sessionId message).authorityNotices objectId
      = host.authorityNotices objectId := by
  by_cases known : sessionId ∈ host.room.playerSessions
  · rw [host.send_notices env known, noticeOf_plain plain]
    exact List.append_nil _
  · unfold send
    rw [AList.lookup_eq_none.mpr known]

theorem sendAll_plain {messages : List D2CMessage}
    (plain : ∀ message ∈ messages, message.isNpcAuthority = false) (sessionId objectId : Nat)
    : (host.sendAll env sessionId messages).authorityNotices objectId
      = host.authorityNotices objectId :=
  Table.foldl_view_eq (authorityNotices · objectId)
    (fun state message mem => state.send_plain env (plain message mem) sessionId objectId) host

theorem broadcastExcept_plain {message : D2CMessage} (plain : message.isNpcAuthority = false)
    (exceptSessionId : Option Nat) (objectId : Nat)
    : (host.broadcastExcept env message exceptSessionId).authorityNotices objectId
      = host.authorityNotices objectId := by
  apply Table.foldl_view_eq (authorityNotices · objectId)
  intro state entry _
  split
  · rfl
  · exact state.send_plain env plain entry.1 objectId

/-- The loop of a broadcast, by induction on the sessions. -/
theorem broadcastLoop_notices (message : D2CMessage) (objectId : Nat)
    (entries : List (Σ _ : Nat, PlayerSession)) (state : RoomHost)
    (known : ∀ entry ∈ entries, entry.1 ∈ state.room.playerSessions)
    : (entries.foldl
          (fun host entry =>
            if !entry.2.canReceiveBroadcast || some entry.1 == none then host
            else host.send env entry.1 message)
          state).authorityNotices objectId
      = state.authorityNotices objectId
        ++ (((entries.filter (·.2.canReceiveBroadcast)).map
          fun entry => BitVec.ofNat 16 entry.1).filterMap (noticeOf objectId · message)) := by
  induction entries generalizing state with
  | nil => exact (List.append_nil _).symm
  | cons entry rest ih =>
      have knownRest := fun other mem => known other (List.mem_cons_of_mem entry mem)
      rw [List.foldl_cons, List.filter_cons]
      cases entry.2.canReceiveBroadcast with
      | false => exact ih state knownRest
      | true =>
          refine (ih (state.send env entry.1 message) ?_).trans ?_
          · rwa [send_room]
          · rw [state.send_notices env (known entry List.mem_cons_self), List.append_assoc,
              if_pos rfl, List.map_cons, List.filterMap_cons]
            cases noticeOf objectId (BitVec.ofNat 16 entry.1) message <;> rfl

/-- A broadcast reaches every session that may receive it, once. -/
theorem broadcast_notices (message : D2CMessage) (objectId : Nat)
    : (host.broadcast env message).authorityNotices objectId
      = host.authorityNotices objectId
        ++ host.receivers.filterMap (noticeOf objectId · message) :=
  broadcastLoop_notices env message objectId _ host fun _ mem =>
    AList.mem_keys.mpr (List.mem_map_of_mem mem)

/-- The notice of an NPC's authority goes to every receiver once, and says nothing about any
other NPC.
-/
theorem notifyNpcAuthority_notices (npc : HostileNPC) (objectId : Nat)
    : (host.notifyNpcAuthority env npc).authorityNotices objectId
      = host.authorityNotices objectId
        ++ if npc.base.objectId = objectId
          then host.receivers.map fun receiver => (receiver, npc.targetId, npc.aggro)
          else [] := by
  refine (host.broadcast_notices env _ objectId).trans ?_
  by_cases same : npc.base.objectId = objectId
  · simp only [noticeOf, if_pos same, List.filterMap_eq_map']
  · simp only [noticeOf, if_neg same, List.filterMap_none]

-----------------------------------------------------------------------------------------
-- What is sent again has been sent
-----------------------------------------------------------------------------------------

/-- Every packet that waits for its acknowledgement has been handed to the socket. -/
def Recorded (host : RoomHost) : Prop :=
  ∀ sessionId, ∀ packet ∈ (host.wire.channels sessionId).pendingReliable.packets,
    (packet.data, packet.destAddr) ∈ host.wire.sent

theorem releaseAcked_packets (ackSeqNum : BitVec 32) (left : Nat) (ackBitfield : BitVec 32)
    (pending : PendingReliable D2CMessage)
    : (Channel.releaseAcked ackSeqNum left ackBitfield pending).packets ⊆ pending.packets := by
  induction left generalizing ackBitfield pending with
  | zero => exact List.Subset.refl _
  | succ left ih =>
      unfold Channel.releaseAcked
      dsimp only
      split
      · exact List.Subset.refl _
      · split
        · split
          · exact List.filter_subset_self _
          · exact List.Subset.trans (ih _ _) (List.filter_subset_self _)
        · exact ih _ _

theorem receive_packets (channel : Channel D2CMessage) (header : UDPHeader)
    (nowMs : BitVec 32)
    : (channel.receive header nowMs).1.pendingReliable.packets
      ⊆ channel.pendingReliable.packets := by
  have filtered : (channel.updateRecvState header).1.pendingReliable
      = channel.pendingReliable := by
    unfold Channel.updateRecvState
    split <;> rfl
  have acked : (((channel.updateRecvState header).1.processIncomingAck header.ackRSeqNum
      header.ackBitfield).pendingReliable.packets) ⊆ channel.pendingReliable.packets := by
    rw [← filtered]
    unfold Channel.processIncomingAck
    dsimp only
    split
    · exact List.filter_subset_self _
    · exact List.Subset.trans (releaseAcked_packets _ _ _ _) (List.filter_subset_self _)
  have stamped : ∀ (channel : Channel D2CMessage) (ts : BitVec 32),
      (channel.setLastRecvTimestamp ts).pendingReliable = channel.pendingReliable := by
    intro channel ts
    unfold Channel.setLastRecvTimestamp
    split <;> rfl
  have measured : ∀ (channel : Channel D2CMessage) (echoTs : BitVec 32),
      (channel.updateRtt echoTs nowMs).pendingReliable = channel.pendingReliable := by
    intro channel echoTs
    unfold Channel.updateRtt
    split
    · rfl
    · split <;> rfl
  unfold Channel.receive
  dsimp only
  split
  · rw [filtered]
    exact List.Subset.refl _
  · dsimp only
    split
    · rw [measured]
      split
      · rwa [stamped]
      · exact acked
    · split
      · rwa [stamped]
      · exact acked

/-- A channel that waits for fewer packets. -/
theorem modifyChannel_recorded {sessionId : Nat}
    {f : Channel D2CMessage → Channel D2CMessage}
    (fewer : (f (host.wire.channels sessionId)).pendingReliable.packets
      ⊆ (host.wire.channels sessionId).pendingReliable.packets)
    (h : host.Recorded)
    : (host.modifyChannel sessionId f).Recorded := by
  intro otherId packet mem
  apply h otherId
  by_cases same : otherId = sessionId
  · subst same
    simp only [modifyChannel, Function.update_self] at mem
    exact fewer mem
  · simpa only [modifyChannel, Function.update_of_ne same] using mem

theorem makeD2CPacketImpl_packets (channel : Channel D2CMessage)
    (digest : UDPHeader → D2CMessage → BitVec 64) (sessionId : BitVec 16) (address : SockAddr)
    (nowMs : BitVec 32) (pktId : BitVec 16) (reliable : Bool) (message : D2CMessage)
    (packet : PendingPacket D2CMessage)
    (mem : packet ∈ (channel.makeD2CPacketImpl digest sessionId address nowMs pktId reliable
      message).1.pendingReliable.packets)
    : packet ∈ channel.pendingReliable.packets
      ∨ (packet.data, packet.destAddr) = ((channel.makeD2CPacketImpl digest sessionId address
          nowMs pktId reliable message).2, address) := by
  unfold Channel.makeD2CPacketImpl at mem ⊢
  cases reliable with
  | false => exact .inl mem
  | true =>
      simp only [Channel.registerReliable, PendingReliable.emplace, if_true] at mem
      split at mem
      · exact .inl mem
      · rcases List.mem_cons.mp mem with rfl | old
        · exact .inr rfl
        · exact .inl old

theorem send_recorded (sessionId : Nat) (message : D2CMessage) (h : host.Recorded)
    : (host.send env sessionId message).Recorded := by
  unfold send
  split
  · exact h
  · intro otherId packet mem
    by_cases same : otherId = sessionId
    · subst same
      simp only [Function.update_self] at mem
      rcases makeD2CPacketImpl_packets _ _ _ _ _ _ _ _ packet mem with old | new
      · exact List.mem_append_left _ (h otherId packet old)
      · exact List.mem_append_right _ (List.mem_singleton.mpr new)
    · simp only [Function.update_of_ne same] at mem
      exact List.mem_append_left _ (h otherId packet mem)

theorem sendAll_recorded (sessionId : Nat) (messages : List D2CMessage) (h : host.Recorded)
    : (host.sendAll env sessionId messages).Recorded :=
  List.foldlRecOn messages _ (motive := Recorded) h
    fun state recorded message _ => state.send_recorded env sessionId message recorded

theorem broadcastExcept_recorded (message : D2CMessage) (exceptSessionId : Option Nat)
    (h : host.Recorded)
    : (host.broadcastExcept env message exceptSessionId).Recorded := by
  refine List.foldlRecOn _ _ (motive := Recorded) h fun state recorded entry _ => ?_
  split
  · exact recorded
  · exact state.send_recorded env entry.1 message recorded

/-- A retransmission repeats datagrams that have been sent. -/
theorem retransmit_repeats (h : host.Recorded) (sessionId : Nat) (nowMs : BitVec 32)
    : ∀ datagram ∈ ((host.wire.channels sessionId).retransmit nowMs).2,
        datagram ∈ host.wire.sent := by
  intro datagram mem
  obtain ⟨packet, candidate, rfl⟩ := List.mem_map.mp mem
  exact h sessionId packet (List.mem_of_mem_filter candidate)

-----------------------------------------------------------------------------------------
-- Plain steps
-----------------------------------------------------------------------------------------

/-- The recalls are as before, with their timers. -/
structure RecallQuiet (before after : RoomHost) : Prop where
  sessions : Table.Related (fun _ => PlayerSession.SameRecall) before.room.playerSessions
    after.room.playerSessions
  recallTimers : after.wire.recallTimers = before.wire.recallTimers

/-- The authority over every NPC that is left is as before, and no notice of it goes out. -/
structure NpcQuiet (before after : RoomHost) : Prop where
  recorded : before.Recorded → after.Recorded
  npcs : ∀ objectId authority, after.room.npcAuthority objectId = some authority →
    before.room.npcAuthority objectId = some authority
  notices : ∀ objectId, after.authorityNotices objectId = before.authorityNotices objectId

structure Plain (before after : RoomHost) : Prop where
  recalls : RecallQuiet before after
  npc : NpcQuiet before after
  agenda : after.agenda = before.agenda

namespace RecallQuiet

variable {before middle after : RoomHost}

theorem trans (first : RecallQuiet before middle) (second : RecallQuiet middle after)
    : RecallQuiet before after where
  sessions :=
    first.sessions.trans (fun _ _ _ _ => PlayerSession.SameRecall.trans) second.sessions
  recallTimers := second.recallTimers.trans first.recallTimers

theorem of_sessions (sessions : after.room.playerSessions = before.room.playerSessions)
    (recallTimers : after.wire.recallTimers = before.wire.recallTimers)
    : RecallQuiet before after :=
  ⟨sessions ▸ GameRoom.Plain.sessions_refl before.room.playerSessions, recallTimers⟩

end RecallQuiet

namespace NpcQuiet

variable {before middle after : RoomHost}

theorem trans (first : NpcQuiet before middle) (second : NpcQuiet middle after)
    : NpcQuiet before after where
  recorded := second.recorded ∘ first.recorded
  npcs objectId authority held :=
    first.npcs objectId authority (second.npcs objectId authority held)
  notices objectId := (second.notices objectId).trans (first.notices objectId)

theorem of_room (room : after.room = before.room)
    (recorded : before.Recorded → after.Recorded)
    (notices : ∀ objectId, after.authorityNotices objectId = before.authorityNotices objectId)
    : NpcQuiet before after :=
  ⟨recorded, fun _ _ held => room ▸ held, notices⟩

end NpcQuiet

theorem send_agenda (sessionId : Nat) (message : D2CMessage)
    : (host.send env sessionId message).agenda = host.agenda := by
  unfold send
  split <;> rfl

theorem sendAll_agenda (sessionId : Nat) (messages : List D2CMessage)
    : (host.sendAll env sessionId messages).agenda = host.agenda :=
  Table.foldl_view_eq agenda
    (fun state message _ => state.send_agenda env sessionId message) host

theorem broadcastExcept_agenda (message : D2CMessage) (exceptSessionId : Option Nat)
    : (host.broadcastExcept env message exceptSessionId).agenda = host.agenda := by
  apply Table.foldl_view_eq agenda
  intro state entry _
  split
  · rfl
  · exact state.send_agenda env entry.1 message

theorem recallTimers_of_agenda {before after : RoomHost} (same : after.agenda = before.agenda)
    : after.wire.recallTimers = before.wire.recallTimers :=
  congrArg Agenda.recallTimers same

namespace Plain

variable {before middle after : RoomHost}

theorem trans (first : Plain before middle) (second : Plain middle after)
    : Plain before after :=
  ⟨first.recalls.trans second.recalls, first.npc.trans second.npc,
    second.agenda.trans first.agenda⟩

/-- A step that only sends other messages, reads the clock or touches the channels. -/
theorem of_room (room : after.room = before.room) (agenda : after.agenda = before.agenda)
    (recorded : before.Recorded → after.Recorded)
    (notices : ∀ objectId, after.authorityNotices objectId = before.authorityNotices objectId)
    : Plain before after :=
  ⟨.of_sessions (congrArg GameRoom.playerSessions room) (recallTimers_of_agenda agenda),
    .of_room room recorded notices, agenda⟩

theorem refl (host : RoomHost) : Plain host host := .of_room rfl rfl id fun _ => rfl

/-- A last step that changes the room. -/
theorem modifyRoom (first : Plain before middle) {f : GameRoom → GameRoom}
    (plain : middle.room.Plain (f middle.room))
    : Plain before (middle.modifyRoom f) :=
  first.trans ⟨⟨plain.sessions, rfl⟩, ⟨id, plain.npcs, fun _ => rfl⟩,
    congrArg (Agenda.mk · _ _) plain.term⟩

/-- A last step that changes one session outside its recall. -/
theorem modifySession (first : Plain before middle) {sessionId : Nat}
    {f : PlayerSession → PlayerSession}
    (same : ∀ session, PlayerSession.SameRecall session (f session))
    : Plain before (middle.modifySession sessionId f) :=
  first.modifyRoom (.modifySession same middle.room)

theorem modifyPlayerObject (first : Plain before middle) (objectId : Nat)
    (f : PlayerObject → PlayerObject)
    : Plain before (middle.modifyRoom (·.modifyPlayerObject objectId f)) :=
  first.modifyRoom (.of_npcs rfl rfl fun _ => rfl)

/-- A last step that sends another message. -/
theorem send (first : Plain before middle) (env : Environment) (sessionId : Nat)
    {message : D2CMessage} (other : message.isNpcAuthority = false)
    : Plain before (middle.send env sessionId message) :=
  first.trans (.of_room (middle.send_room env sessionId message)
    (middle.send_agenda env sessionId message)
    (middle.send_recorded env sessionId message)
    fun objectId => middle.send_plain env other sessionId objectId)

/-- A last step that reads the clock. -/
theorem now (first : Plain before middle) (env : Environment)
    : Plain before (middle.now env).1 :=
  first.trans (.of_room rfl rfl id fun _ => rfl)

theorem sendAll (first : Plain before middle) (env : Environment) (sessionId : Nat)
    {messages : List D2CMessage}
    (other : ∀ message ∈ messages, message.isNpcAuthority = false)
    : Plain before (middle.sendAll env sessionId messages) :=
  first.trans (.of_room (room_eq_of_outcome (middle.sendAll_outcome env sessionId messages))
    (middle.sendAll_agenda env sessionId messages)
    (middle.sendAll_recorded env sessionId messages)
    fun objectId => middle.sendAll_plain env other sessionId objectId)

theorem broadcastExcept (first : Plain before middle) (env : Environment)
    (exceptSessionId : Option Nat) {message : D2CMessage}
    (other : message.isNpcAuthority = false)
    : Plain before (middle.broadcastExcept env message exceptSessionId) :=
  first.trans (.of_room (middle.broadcastExcept_room env message exceptSessionId)
    (middle.broadcastExcept_agenda env message exceptSessionId)
    (middle.broadcastExcept_recorded env message exceptSessionId)
    fun objectId => middle.broadcastExcept_plain env other exceptSessionId objectId)

theorem broadcast (first : Plain before middle) (env : Environment) {message : D2CMessage}
    (other : message.isNpcAuthority = false)
    : Plain before (middle.broadcast env message) :=
  first.broadcastExcept env none other

end Plain

-----------------------------------------------------------------------------------------
-- Plain handlers
-----------------------------------------------------------------------------------------

variable (sessionId : Nat) (session : PlayerSession)

theorem handleC2DChannelOpen_plain (clientAddr : SockAddr) (echo : String)
    : Plain host (host.handleC2DChannelOpen env sessionId session clientAddr echo).1 := by
  unfold handleC2DChannelOpen
  dsimp only
  refine Plain.send ?_ env sessionId rfl
  split
  · exact (Plain.refl host).modifySession fun _ => ⟨rfl, id, id⟩
  · exact .refl host

theorem handleC2DHeartBeat_plain
    : Plain host (host.handleC2DHeartBeat env sessionId session).1 := by
  unfold handleC2DHeartBeat
  split
  · exact .refl host
  · dsimp only
    exact (Plain.refl host).send env sessionId rfl

theorem handleC2DRequestBlueprint_plain
    : Plain host (host.handleC2DRequestBlueprint env sessionId session).1 := by
  unfold handleC2DRequestBlueprint
  split
  · exact .refl host
  · dsimp only
    refine (Plain.refl host).sendAll env sessionId fun message mem => ?_
    obtain ⟨chunk, _, rfl⟩ := List.mem_map.mp mem
    rfl

theorem handleC2DRequestSpawnByObjectId_plain (objectId : Int)
    : Plain host (host.handleC2DRequestSpawnByObjectId env sessionId session objectId).1 := by
  unfold handleC2DRequestSpawnByObjectId
  split
  · exact .refl host
  · split
    · exact .refl host
    · split
      · exact .refl host
      · split
        · dsimp only
          exact (Plain.refl host).send env sessionId rfl
        · dsimp only
          exact (Plain.refl host).send env sessionId rfl
        · exact .refl host

theorem handleC2DUpdatePlayerState_plain (state : PlayerState)
    (npcStates : List GameObjectMovementInfo)
    : Plain host (host.handleC2DUpdatePlayerState session state npcStates).1 := by
  unfold handleC2DUpdatePlayerState
  split
  · exact .refl host
  · split
    · next objectId _ _ _ =>
        split
        · exact .refl host
        · split
          · exact .refl host
          · dsimp only
            refine ((Plain.refl host).modifyPlayerObject objectId _).modifyRoom ?_
            refine List.foldlRecOn npcStates _ (motive := GameRoom.Plain _) (.refl _) ?_
            intro room moved npcState _
            refine moved.trans ?_
            split
            · exact .refl room
            · split
              · exact .refl room
              · exact .of_npcs (room.modifyHostileNpc_playerSessions _ _)
                  (room.modifyHostileNpc_term _ _)
                  (room.npcAuthority_modifyHostileNpc
                    fun npc => npc.authority_applyMovementInfo npcState)
    · exact .refl host

theorem handleC2DRequestSpawnPlayerObjects_plain
    : Plain host (host.handleC2DRequestSpawnPlayerObjects env sessionId session).1 := by
  unfold handleC2DRequestSpawnPlayerObjects
  split
  · exact .refl host
  · split
    · exact .refl host
    · dsimp only
      exact (Plain.refl host).send env sessionId rfl

theorem handleC2DNotifyLoadingComplete_plain
    : Plain host (host.handleC2DNotifyLoadingComplete sessionId session).1 := by
  unfold handleC2DNotifyLoadingComplete
  split
  · exact .refl host
  · dsimp only
    exact (Plain.refl host).modifySession fun _ => ⟨rfl, id, id⟩

theorem handleC2DRequestSpawnMe_plain
    : Plain host (host.handleC2DRequestSpawnMe env sessionId session).1 := by
  unfold handleC2DRequestSpawnMe
  split
  · exact .refl host
  · have counted : Plain host (host.setSpawnSpot.1.getNewObjectId).1 :=
      ⟨.of_sessions rfl rfl, ⟨id, fun _ _ => id, fun _ => rfl⟩, rfl⟩
    have spawned : ∀ object, Plain host
        ((host.setSpawnSpot.1.getNewObjectId).1.spawnPlayerObject env object sessionId) := by
      intro object
      unfold spawnPlayerObject
      dsimp only
      split
      · exact counted
      · exact (counted.modifyRoom (.of_npcs rfl rfl fun _ => rfl)).broadcastExcept env _ rfl
    dsimp only
    refine ((Plain.send ?_ env sessionId rfl).send env sessionId rfl).sendAll env sessionId ?_
    · refine Plain.now ?_ env
      exact (spawned _).modifySession fun _ => ⟨rfl, id, id⟩
    · intro message mem
      obtain ⟨chunk, _, rfl⟩ := List.mem_map.mp mem
      rfl

theorem handleC2DRequestOpenContainer_plain (containerId : Nat)
    : Plain host
        (host.handleC2DRequestOpenContainer env sessionId session containerId).1 := by
  unfold handleC2DRequestOpenContainer
  split
  · exact .refl host
  · split
    · split
      · exact .refl host
      · dsimp only
        split
        · exact .refl host
        · dsimp only
          refine Plain.sendAll ((Plain.refl host).modifyRoom ?_) env sessionId ?_
          · refine GameRoom.Plain.trans ?_ (.modifySession ?_ _)
            · refine GameRoom.Plain.trans ?_ (.modifyContainer _ _ _)
              refine GameRoom.Plain.trans ?_ (.releaseInteractingContainer sessionId _)
              split
              · exact .refl host.room
              · refine .modifySession ?_ host.room
                exact fun _ => ⟨rfl, id, id⟩
            · exact fun _ => ⟨rfl, id, id⟩
          · intro message mem
            obtain ⟨info, _, rfl⟩ := Option.map_eq_some_iff.mp (Option.mem_toList.mp mem)
            rfl
    · exact .refl host

theorem handleC2DCloseContainer_plain
    : Plain host (host.handleC2DCloseContainer sessionId session).1 := by
  unfold handleC2DCloseContainer
  split
  · exact .refl host
  · split
    · exact .refl host
    · dsimp only
      exact (Plain.refl host).modifyRoom (.releaseInteractingContainer sessionId host.room)

theorem commitStore_plain (opened : Option (Nat × Container)) (store : SlotStore)
    : Plain host (host.commitStore sessionId opened store) := by
  unfold commitStore
  dsimp only
  split
  · exact (Plain.refl host).modifySession fun _ => ⟨rfl, id, id⟩
  · refine Plain.modifyRoom ?_ (.modifyContainer _ _ _)
    exact (Plain.refl host).modifySession fun _ => ⟨rfl, id, id⟩

theorem handleC2DRequestInteractContainerObject_plain
    (pkt : C2DRequestInteractContainerObject)
    : Plain host
        (host.handleC2DRequestInteractContainerObject env sessionId session pkt).1 := by
  unfold handleC2DRequestInteractContainerObject
  split
  · exact .refl host
  · split
    · dsimp only
      exact (Plain.refl host).send env sessionId rfl
    · dsimp only
      exact (host.commitStore_plain sessionId _ _).send env sessionId rfl

theorem refreshEquipment_plain (objectId : Option Nat) (isArmor : Bool)
    (inventory : PlayerInventory)
    : Plain host (host.refreshEquipment env sessionId objectId isArmor inventory) := by
  unfold refreshEquipment
  split
  · exact .refl host
  · split
    · exact .refl host
    · split
      · exact (Plain.refl host).modifyPlayerObject _ _
      · dsimp only
        exact ((Plain.refl host).modifyPlayerObject _ _).broadcastExcept env _ rfl

theorem handleC2DRequestEquipItem_plain (pkt : C2DRequestEquipItem)
    : Plain host (host.handleC2DRequestEquipItem env sessionId session pkt).1 := by
  unfold handleC2DRequestEquipItem
  split
  · exact .refl host
  · split
    · dsimp only
      exact (Plain.refl host).send env sessionId rfl
    · dsimp only
      exact ((host.commitStore_plain sessionId _ _).trans
        (refreshEquipment_plain env _ sessionId _ _ _)).send env sessionId rfl

theorem handleC2DRequestRecentInventoryInfo_plain (objectId : Nat)
    : Plain host
        (host.handleC2DRequestRecentInventoryInfo env sessionId session objectId).1 := by
  unfold handleC2DRequestRecentInventoryInfo
  split
  · exact .refl host
  · split
    · dsimp only
      exact (Plain.refl host).send env sessionId rfl
    · split
      · exact .refl host
      · split
        · exact .refl host
        · dsimp only
          exact (Plain.refl host).send env sessionId rfl

theorem handleC2DRequestSwitchWeapon_plain (targetSlot : Nat) (version : BitVec 32)
    : Plain host
        (host.handleC2DRequestSwitchWeapon env sessionId session targetSlot version).1 := by
  unfold handleC2DRequestSwitchWeapon
  split
  · exact .refl host
  · split
    · exact .refl host
    · split
      · exact .refl host
      · dsimp only
        split
        · dsimp only
          exact (Plain.refl host).send env sessionId rfl
        · dsimp only
          refine Plain.send (Plain.broadcastExcept ?_ env _ rfl) env sessionId rfl
          exact (Plain.refl host).modifyPlayerObject _ _

theorem handleC2DRequestReload_plain (version : BitVec 32)
    : Plain host (host.handleC2DRequestReload env sessionId session version).1 := by
  unfold handleC2DRequestReload
  split
  · exact .refl host
  · split
    · exact .refl host
    · split
      · exact .refl host
      · dsimp only
        refine Plain.send ?_ env sessionId rfl
        split
        · refine Plain.broadcastExcept ?_ env _ rfl
          exact (Plain.refl host).modifySession fun _ => ⟨rfl, id, id⟩
        · exact (Plain.refl host).modifySession fun _ => ⟨rfl, id, id⟩

theorem handleC2DNotifyReloadSequence_plain (sequenceNum : Nat)
    : Plain host
        (host.handleC2DNotifyReloadSequence env sessionId session sequenceNum).1 := by
  unfold handleC2DNotifyReloadSequence
  split
  · exact .refl host
  · split
    · exact .refl host
    · split
      · exact .refl host
      · split
        · exact .refl host
        · split
          · exact .refl host
          · dsimp only
            exact (Plain.refl host).broadcastExcept env _ rfl

theorem handleC2DReportNpcAttack_plain (pkt : C2DReportNpcAttack)
    : Plain host (host.handleC2DReportNpcAttack env sessionId session pkt).1 := by
  unfold handleC2DReportNpcAttack
  split
  · exact .refl host
  · split
    · exact .refl host
    · split
      · exact .refl host
      · dsimp only
        refine Plain.broadcastExcept ?_ env _ rfl
        split
        · exact .refl host
        · split
          · exact .refl host
          · split
            · exact ((Plain.refl host).modifyPlayerObject _ _).send env sessionId rfl
            · refine Plain.modifySession ?_ fun _ => ⟨rfl, id, id⟩
              exact ((Plain.refl host).modifyPlayerObject _ _).send env sessionId rfl

theorem dispatch_plain (clientAddr : SockAddr) {pkt : C2DPacket} (plain : pkt.isPlain = true)
    : Plain host (host.dispatch env sessionId session clientAddr pkt).1 := by
  cases pkt with
  | channelOpen echo => exact handleC2DChannelOpen_plain env host sessionId session _ _
  | heartBeat => exact handleC2DHeartBeat_plain env host sessionId session
  | requestBlueprint => exact handleC2DRequestBlueprint_plain env host sessionId session
  | requestSpawnMe => exact handleC2DRequestSpawnMe_plain env host sessionId session
  | requestSpawnByObjectId objectId =>
      exact handleC2DRequestSpawnByObjectId_plain env host sessionId session objectId
  | updatePlayerState state npcStates =>
      exact handleC2DUpdatePlayerState_plain host session state npcStates
  | requestSpawnPlayerObjects =>
      exact handleC2DRequestSpawnPlayerObjects_plain env host sessionId session
  | notifyLoadingComplete => exact handleC2DNotifyLoadingComplete_plain host sessionId session
  | requestOpenContainer containerId =>
      exact handleC2DRequestOpenContainer_plain env host sessionId session containerId
  | closeContainer => exact handleC2DCloseContainer_plain host sessionId session
  | requestInteractContainerObject pkt =>
      exact handleC2DRequestInteractContainerObject_plain env host sessionId session pkt
  | requestEquipItem pkt => exact handleC2DRequestEquipItem_plain env host sessionId session pkt
  | requestRecentInventoryInfo objectId =>
      exact handleC2DRequestRecentInventoryInfo_plain env host sessionId session objectId
  | requestSwitchWeapon targetSlot version =>
      exact handleC2DRequestSwitchWeapon_plain env host sessionId session targetSlot version
  | requestWeaponFire pkt => cases plain
  | requestRecall spotIndex => cases plain
  | requestReload version => exact handleC2DRequestReload_plain env host sessionId session version
  | notifyReloadSequence sequenceNum =>
      exact handleC2DNotifyReloadSequence_plain env host sessionId session sequenceNum
  | requestNpcAggro objectId aggro => cases plain
  | requestNpcAuthority objectId aggro => cases plain
  | reportNpcAttack pkt => exact handleC2DReportNpcAttack_plain env host sessionId session pkt

-----------------------------------------------------------------------------------------
-- Plain updates
-----------------------------------------------------------------------------------------

theorem receive_plain (header : UDPHeader)
    : Plain host (host.receive env sessionId header).1 := by
  refine .of_room rfl rfl ((host.now env).1.modifyChannel_recorded ?_) fun _ => rfl
  exact receive_packets _ _ _

theorem update_plain : Plain host (host.update env) := by
  have regenerated : Plain host (host.regenPlayerShields env) := by
    have read : Plain host (host.now env).1 := (Plain.refl host).now env
    unfold regenPlayerShields
    dsimp only
    split
    · exact read.modifyRoom (.of_npcs rfl rfl fun _ => rfl)
    · exact read.modifyRoom (.of_npcs rfl rfl fun _ => rfl)
  unfold update broadcastPlayerStates
  split
  · exact regenerated
  · exact regenerated.broadcast env rfl

theorem updateNpcStates_plain : Plain host (host.updateNpcStates env) := by
  unfold updateNpcStates
  dsimp only
  split
  · exact .refl host
  · exact (Plain.refl host).broadcast env rfl

-----------------------------------------------------------------------------------------
-- Leaves
-----------------------------------------------------------------------------------------

/-- Authority stays as it is, with the players and the members of the room. -/
structure Calm (before after : RoomHost) : Prop extends NpcQuiet before after where
  playerObjects : after.room.playerObjects = before.room.playerObjects
  sessionIds : after.room.playerSessions.keys = before.room.playerSessions.keys

/-- Work on the leaves: neither recalls nor authority are touched. -/
structure Backstage (before after : RoomHost) : Prop where
  recalls : RecallQuiet before after
  calm : Calm before after

namespace Calm

variable {before middle after : RoomHost}

theorem refl (host : RoomHost) : Calm host host :=
  ⟨.of_room rfl id fun _ => rfl, rfl, rfl⟩

theorem trans (first : Calm before middle) (second : Calm middle after)
    : Calm before after :=
  ⟨first.toNpcQuiet.trans second.toNpcQuiet,
    second.playerObjects.trans first.playerObjects,
    second.sessionIds.trans first.sessionIds⟩

/-- A step that leaves the room alone. -/
theorem of_room (room : after.room = before.room)
    (recorded : before.Recorded → after.Recorded)
    (notices : ∀ objectId, after.authorityNotices objectId = before.authorityNotices objectId)
    : Calm before after :=
  ⟨.of_room room recorded notices, congrArg GameRoom.playerObjects room,
    congrArg (fun room : GameRoom => room.playerSessions.keys) room⟩

theorem modifySession (first : Calm before middle) (sessionId : Nat)
    (f : PlayerSession → PlayerSession)
    : Calm before (middle.modifySession sessionId f) :=
  first.trans ⟨⟨id, fun _ _ => id, fun _ => rfl⟩, rfl, Table.keys_adjust _ _ _⟩

theorem send (first : Calm before middle) (env : Environment) (sessionId : Nat)
    {message : D2CMessage} (other : message.isNpcAuthority = false)
    : Calm before (middle.send env sessionId message) :=
  first.trans (.of_room (middle.send_room env sessionId message)
    (middle.send_recorded env sessionId message)
    fun objectId => middle.send_plain env other sessionId objectId)

theorem broadcastExcept (first : Calm before middle) (env : Environment)
    (exceptSessionId : Option Nat) {message : D2CMessage}
    (other : message.isNpcAuthority = false)
    : Calm before (middle.broadcastExcept env message exceptSessionId) :=
  first.trans (.of_room (middle.broadcastExcept_room env message exceptSessionId)
    (middle.broadcastExcept_recorded env message exceptSessionId)
    fun objectId => middle.broadcastExcept_plain env other exceptSessionId objectId)

end Calm

namespace Backstage

variable {before middle after : RoomHost}

theorem trans (first : Backstage before middle) (second : Backstage middle after)
    : Backstage before after :=
  ⟨first.recalls.trans second.recalls, first.calm.trans second.calm⟩

theorem refl (host : RoomHost) : Backstage host host :=
  ⟨.of_sessions rfl rfl, .refl host⟩

/-- A step on the flags of the room, the channels and the reports. -/
theorem of_npcs (sessions : after.room.playerSessions = before.room.playerSessions)
    (playerObjects : after.room.playerObjects = before.room.playerObjects)
    (npcs : ∀ objectId, after.room.npcAuthority objectId = before.room.npcAuthority objectId)
    (recallTimers : after.wire.recallTimers = before.wire.recallTimers)
    (recorded : before.Recorded → after.Recorded)
    (notices : ∀ objectId, after.authorityNotices objectId = before.authorityNotices objectId)
    : Backstage before after :=
  ⟨.of_sessions sessions recallTimers,
    ⟨recorded, fun objectId _ held => (npcs objectId).symm.trans held, notices⟩,
    playerObjects, congrArg AList.keys sessions⟩

/-- A loop whose turns are work on the leaves, by induction on the keys. -/
theorem foldl {κ : Type} {step : RoomHost → κ → RoomHost}
    (turn : ∀ state key, Backstage state (step state key)) (keys : List κ) (host : RoomHost)
    : Backstage host (keys.foldl step host) := by
  induction keys generalizing host with
  | nil => exact .refl host
  | cons key rest ih => exact (turn host key).trans (ih (step host key))

theorem modifySession (first : Backstage before middle) {sessionId : Nat}
    {f : PlayerSession → PlayerSession}
    (same : ∀ session, PlayerSession.SameRecall session (f session))
    : Backstage before (middle.modifySession sessionId f) :=
  ⟨first.recalls.trans ((Plain.refl middle).modifySession same).recalls,
    first.calm.modifySession sessionId f⟩

end Backstage

theorem now_backstage : Backstage host (host.now env).1 :=
  .of_npcs rfl rfl (fun _ => rfl) rfl id fun _ => rfl

theorem clearPendingReliableExcept_backstage (keepSeq : BitVec 32)
    : Backstage host (host.modifyChannel sessionId (·.clearPendingReliableExcept keepSeq)) := by
  refine .of_npcs rfl rfl (fun _ => rfl) rfl (host.modifyChannel_recorded ?_) fun _ => rfl
  exact List.filter_subset_self _

theorem markLeaving_calm (reason : LeaveReason) (notifyRSeq : BitVec 32)
    : Calm host (host.markLeaving env sessionId reason notifyRSeq) :=
  (host.now_backstage env).calm.modifySession sessionId _

theorem markLeaving_backstage {reason : LeaveReason} (other : reason ≠ .recalled)
    (notifyRSeq : BitVec 32)
    : Backstage host (host.markLeaving env sessionId reason notifyRSeq) :=
  (host.now_backstage env).modifySession (.markLeaving · other _ _)

theorem markLeaves_backstage (now : TimePoint) : Backstage host (host.markLeaves env now) := by
  have killed : Backstage host
      (if !host.room.lifetimeExpired
          && elapsedMs host.room.createdAt now ≥ GameRoom.ROOM_LIFETIME_MS then
        (host.modifyRoom ({ · with lifetimeExpired := true })).allKill env
      else host) := by
    have expired : Backstage host (host.modifyRoom ({ · with lifetimeExpired := true })) :=
      .of_npcs rfl rfl (fun _ => rfl) rfl id fun _ => rfl
    split
    · exact expired.trans
        (Backstage.foldl (fun state key => state.markLeaving_backstage env key (by decide) 0) _ _)
    · exact .refl host
  have marked : ∀ state : RoomHost, Backstage state (state.markDead env) := by
    intro state
    refine Backstage.foldl (fun state objectId => ?_) _ state
    split
    · exact .refl state
    · exact state.markLeaving_backstage env _ (by decide) 0
  have detected : ∀ state : RoomHost,
      Backstage state (state.detectDisconnectedSessions env) := by
    intro state
    refine (state.now_backstage env).trans ?_
    unfold detectDisconnectedSessions
    refine Backstage.foldl (fun state key => ?_) _ _
    split
    · exact .refl state
    · dsimp only
      split
      · exact .refl state
      · split
        · exact .refl state
        · split
          · exact .refl state
          · exact state.markLeaving_backstage env key (by decide) 0
  have cleared : ∀ state : RoomHost, Backstage state state.clearPendingOfLeaving := by
    intro state
    refine Backstage.foldl (fun state entry => ?_) _ state
    split
    · exact state.clearPendingReliableExcept_backstage entry.1 _
    · exact .refl state
  exact ((killed.trans (marked _)).trans (detected _)).trans (cleared _)

theorem notifyLeftOnce_backstage : Backstage host (host.notifyLeftOnce sessionId) := by
  unfold notifyLeftOnce
  split
  · exact .refl host
  · split
    · exact .refl host
    · have reported : Backstage host
          (host.modifySession sessionId ({ · with leftNotified := true })) :=
        (Backstage.refl host).modifySession fun _ => ⟨rfl, fun _ => rfl, id⟩
      exact reported.trans (.of_npcs rfl rfl (fun _ => rfl) rfl id fun _ => rfl)

theorem notifyLeftOnce_agenda : (host.notifyLeftOnce sessionId).agenda = host.agenda := by
  unfold notifyLeftOnce
  split
  · rfl
  · split <;> rfl

theorem finalizeLeave_backstage : Backstage host (host.finalizeLeave sessionId) := by
  have cleared := host.clearPendingReliableExcept_backstage sessionId 0
  refine (Backstage.modifySession cleared ?_).trans (notifyLeftOnce_backstage _ sessionId)
  exact fun _ => ⟨rfl, id, id⟩

theorem checkAllLeft_backstage : Backstage host host.checkAllLeft := by
  unfold checkAllLeft
  split
  · exact .refl host
  · split
    · exact .refl host
    · exact .of_npcs rfl rfl (fun _ => rfl) rfl id fun _ => rfl

theorem releaseNpcAuthority_agenda (playerObjectId : Option Nat)
    : (host.releaseNpcAuthority env playerObjectId).agenda = host.agenda := by
  unfold releaseNpcAuthority
  split
  · rfl
  · refine Table.foldl_view_eq agenda ?_ host
    intro state objectId _
    split
    · rfl
    · split
      · rfl
      · dsimp only
        split
        · rfl
        · exact broadcastExcept_agenda env _ _ none

theorem detachObject_agenda (objectId : Nat) (object : PlayerObject)
    (inventory : PlayerInventory) (reason : LeaveReason)
    : (host.detachObject env sessionId objectId object inventory reason).agenda
      = host.agenda := by
  unfold detachObject
  extract_lets spawned killerObjectId looted cleared erased
  have afterLoot : looted.agenda = host.agenda := by
    unfold looted
    split
    · refine (broadcastExcept_agenda env spawned _ none).trans ?_
      unfold spawned spawnPlayerLootContainer spawnDynamicObject
      dsimp only
      split
      · rfl
      · exact broadcastExcept_agenda env _ _ none
    · rfl
  have afterClear : cleared.agenda = looted.agenda := by
    unfold cleared
    split <;> rfl
  exact (broadcastExcept_agenda env erased _ _).trans (afterClear.trans afterLoot)

theorem detachPlayer_agenda : (host.detachPlayer env sessionId).agenda = host.agenda := by
  unfold detachPlayer
  split
  · rfl
  · extract_lets objectId reason stopped freed released withdrawn detached
    have afterFree : freed.agenda = stopped.agenda :=
      congrArg (Agenda.mk · _ _)
        (GameRoom.Plain.releaseInteractingContainer sessionId stopped.room).term
    have afterWithdrawal : withdrawn.agenda = released.agenda := by
      unfold withdrawn
      clear_value objectId
      split
      · rfl
      · split
        · rfl
        · exact detachObject_agenda env released sessionId _ _ _ _
    have afterNotice : (detached.notifyLeftOnce sessionId).agenda = withdrawn.agenda :=
      notifyLeftOnce_agenda detached sessionId
    exact afterNotice.trans (afterWithdrawal.trans
      ((releaseNpcAuthority_agenda env freed objectId).trans afterFree))

end RoomHost

end ExtractionServer.Room
