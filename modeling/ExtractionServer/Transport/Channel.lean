import Mathlib.Algebra.Order.Ring.Nat
import Mathlib.Data.List.Nodup

/-! The transport state that a `PlayerSession` keeps for its client: send and receive
sequences, the receive window, round-trip estimate and unacknowledged reliable packets.
-/

namespace ExtractionServer.Transport

-----------------------------------------------------------------------------------------
-- Datagrams
-----------------------------------------------------------------------------------------

/-- The header that precedes every payload on the UDP socket. -/
structure UDPHeader where
  signature : BitVec 64 := 0
  packetId : BitVec 16
  sessionId : BitVec 16
  rSeqNum : BitVec 32
  uSeqNum : BitVec 16
  flags : BitVec 8
  ackRSeqNum : BitVec 32 := 0
  ackBitfield : BitVec 32 := 0
  timestamp : BitVec 32 := 0
  timestampEcho : BitVec 32 := 0
deriving DecidableEq, Repr

def FLAG_HAS_ACK : BitVec 8 := 0x01#8
def FLAG_RELIABLE : BitVec 8 := 0x02#8

/-- The header asks for acknowledgement of its reliable number. -/
def UDPHeader.isReliable (header : UDPHeader) : Bool :=
  header.flags &&& FLAG_RELIABLE != 0

/-- An IPv4 address and port (`sockaddr_in`). -/
structure SockAddr where
  addr : BitVec 32 := 0
  port : BitVec 16 := 0
deriving DecidableEq, Repr

/-- A header with the message that follows it. -/
structure Datagram (Payload : Type) where
  header : UDPHeader
  payload : Payload
deriving DecidableEq, Repr

variable {Payload : Type}

-----------------------------------------------------------------------------------------
-- Unacknowledged reliable packets
-----------------------------------------------------------------------------------------

/-- A reliable packet kept for retransmission until it is acknowledged. -/
structure PendingPacket (Payload : Type) where
  seqNum : BitVec 32
  data : Datagram Payload
  destAddr : SockAddr
  sentAtMs : BitVec 32
deriving DecidableEq, Repr

/-- The map `_pendingReliable`: at most one packet for each sequence number. -/
structure PendingReliable (Payload : Type) where
  packets : List (PendingPacket Payload) := []
  keysNodup : (packets.map PendingPacket.seqNum).Nodup := by decide
deriving DecidableEq, Repr

namespace PendingReliable

instance : Inhabited (PendingReliable Payload) := ⟨{ packets := [], keysNodup := by simp }⟩

def empty : PendingReliable Payload := default

/-- The sequence numbers that still wait for an acknowledgement. -/
def seqNums (pending : PendingReliable Payload) : List (BitVec 32) :=
  pending.packets.map PendingPacket.seqNum

def isEmpty (pending : PendingReliable Payload) : Bool :=
  pending.packets.isEmpty

def contains (pending : PendingReliable Payload) (seq : BitVec 32) : Bool :=
  pending.packets.any (·.seqNum == seq)

/-- Keep the packets that a predicate on sequence numbers accepts. -/
def keep (pending : PendingReliable Payload) (p : BitVec 32 → Bool)
    : PendingReliable Payload where
  packets := pending.packets.filter fun packet => p packet.seqNum
  keysNodup := pending.keysNodup.sublist (List.filter_sublist.map _)

/-- `releaseBySeq`: drop the packet stored under a sequence number, if there is one. -/
def release (pending : PendingReliable Payload) (seq : BitVec 32)
    : PendingReliable Payload :=
  pending.keep (· != seq)

/-- `unordered_map::emplace`: a number that is already stored keeps its packet. -/
def emplace (pending : PendingReliable Payload) (packet : PendingPacket Payload)
    : PendingReliable Payload :=
  if stored : packet.seqNum ∈ pending.seqNums then pending
  else
    { packets := packet :: pending.packets
      keysNodup := List.nodup_cons.mpr ⟨stored, pending.keysNodup⟩ }

/-- Stamp the send time of every packet, as a retransmission scan does. -/
def restamp (pending : PendingReliable Payload) (due : PendingPacket Payload → Bool)
    (nowMs : BitVec 32)
    : PendingReliable Payload where
  packets :=
    pending.packets.map fun packet =>
      if due packet then { packet with sentAtMs := nowMs } else packet
  keysNodup := by
    have same : ∀ packet : PendingPacket Payload,
        (if due packet then { packet with sentAtMs := nowMs } else packet).seqNum
          = packet.seqNum := by
      intro packet
      split <;> rfl
    simpa only [List.map_map, Function.comp_def, same] using pending.keysNodup

@[simp] theorem seqNums_keep (pending : PendingReliable Payload) (p : BitVec 32 → Bool)
    : (pending.keep p).seqNums = pending.seqNums.filter p := by
  simp only [seqNums, keep, List.filter_map]
  rfl

@[simp] theorem mem_seqNums_release (pending : PendingReliable Payload)
    (seq other : BitVec 32)
    : other ∈ (pending.release seq).seqNums ↔ other ∈ pending.seqNums ∧ other ≠ seq := by
  simp [release]

@[simp] theorem mem_seqNums_emplace (pending : PendingReliable Payload)
    (packet : PendingPacket Payload) (seq : BitVec 32)
    : seq ∈ (pending.emplace packet).seqNums
      ↔ seq = packet.seqNum ∨ seq ∈ pending.seqNums := by
  unfold emplace
  split
  · next stored =>
      constructor
      · exact Or.inr
      · rintro (rfl | h)
        · exact stored
        · exact h
  · simp [seqNums]

@[simp] theorem seqNums_restamp (pending : PendingReliable Payload)
    (due : PendingPacket Payload → Bool) (nowMs : BitVec 32)
    : (pending.restamp due nowMs).seqNums = pending.seqNums := by
  simp only [seqNums, restamp, List.map_map]
  apply List.map_congr_left
  intro packet _
  simp only [Function.comp_apply]
  split <;> rfl

theorem contains_iff (pending : PendingReliable Payload) (seq : BitVec 32)
    : pending.contains seq = true ↔ seq ∈ pending.seqNums := by
  simp [contains, seqNums]

end PendingReliable

-----------------------------------------------------------------------------------------
-- Receive windows
-----------------------------------------------------------------------------------------

/-- The reliable receive window: bit `i` stands for `rRecvHighestSeq - 1 - i`. -/
structure RRecvState where
  rRecvHighestSeq : BitVec 32 := 0
  rRecvBitfield : BitVec 32 := 0
  hasRRecv : Bool := false
deriving DecidableEq, Repr

/-- The unreliable receive filter. -/
structure URecvState where
  uRecvHighestSeq : BitVec 16 := 0
  hasURecv : Bool := false
deriving DecidableEq, Repr

/-- Record a reliable number and say whether it is new. -/
def updateRRecvState (recv : RRecvState) (rSeqNum : BitVec 32) : RRecvState × Bool :=
  if !recv.hasRRecv then
    ({ rRecvHighestSeq := rSeqNum, rRecvBitfield := 0, hasRRecv := true }, true)
  else if rSeqNum > recv.rRecvHighestSeq then
    let diff := rSeqNum - recv.rRecvHighestSeq
    let bitfield :=
      if diff ≥ 32 then 0 else (recv.rRecvBitfield <<< diff) ||| (1#32 <<< (diff - 1))
    ({ recv with rRecvBitfield := bitfield, rRecvHighestSeq := rSeqNum }, true)
  else if rSeqNum = recv.rRecvHighestSeq then (recv, false)
  else
    let diff := recv.rRecvHighestSeq - rSeqNum
    if diff > 32 then (recv, false)
    else
      let bit := 1#32 <<< (diff - 1)
      if recv.rRecvBitfield &&& bit ≠ 0 then (recv, false)
      else ({ recv with rRecvBitfield := recv.rRecvBitfield ||| bit }, true)

/-- Record an unreliable number and say whether it is newer than all before it. The signed
difference makes the comparison survive wrap-around.
-/
def updateURecvState (recv : URecvState) (uSeqNum : BitVec 16) : URecvState × Bool :=
  if !recv.hasURecv then ({ uRecvHighestSeq := uSeqNum, hasURecv := true }, true)
  else if (uSeqNum - recv.uRecvHighestSeq).toInt ≤ 0 then (recv, false)
  else ({ recv with uRecvHighestSeq := uSeqNum }, true)

-----------------------------------------------------------------------------------------
-- The channel of one session
-----------------------------------------------------------------------------------------

/-- The transport fields of a `PlayerSession`. -/
structure Channel (Payload : Type) where
  sendRSeq : BitVec 32 := 0
  sendUSeq : BitVec 16 := 0
  rRecv : RRecvState := {}
  uRecv : URecvState := {}
  rttMs : BitVec 32 := 100
  lastEchoTs : BitVec 32 := 0
  lastRecvTimestamp : BitVec 32 := 0
  pendingReliable : PendingReliable Payload := .empty
deriving DecidableEq, Repr

namespace Channel

/-- `GetAckState`: the acknowledgement that every outgoing header carries. -/
def getAckState (channel : Channel Payload) : BitVec 32 × BitVec 32 :=
  (channel.rRecv.rRecvHighestSeq, channel.rRecv.rRecvBitfield)

def isReliablePending (channel : Channel Payload) (seqNum : BitVec 32) : Bool :=
  channel.pendingReliable.contains seqNum

/-- The loop of `ProcessIncomingAck`, with the number of iterations left. It stops when no
bit remains or when nothing is pending any more.
-/
def releaseAcked (ackSeqNum : BitVec 32)
    : Nat → BitVec 32 → PendingReliable Payload → PendingReliable Payload
  | 0, _, pending => pending
  | left + 1, ackBitfield, pending =>
      if ackBitfield = 0 then pending
      else if ackBitfield &&& 1 ≠ 0 then
        let i := 32 - (left + 1)
        let pending := pending.release (ackSeqNum - BitVec.ofNat 32 (i + 1))
        if pending.isEmpty then pending
        else releaseAcked ackSeqNum left (ackBitfield >>> 1) pending
      else releaseAcked ackSeqNum left (ackBitfield >>> 1) pending

def processIncomingAck (channel : Channel Payload) (ackSeqNum ackBitfield : BitVec 32)
    : Channel Payload :=
  let pending := channel.pendingReliable.release ackSeqNum
  if pending.isEmpty || ackBitfield = 0 then { channel with pendingReliable := pending }
  else
    { channel with pendingReliable := releaseAcked ackSeqNum 32 ackBitfield pending }

def registerReliable (channel : Channel Payload) (seqNum : BitVec 32)
    (buf : Datagram Payload) (dest : SockAddr) (nowMs : BitVec 32)
    : Channel Payload :=
  let packet := { seqNum, data := buf, destAddr := dest, sentAtMs := nowMs }
  { channel with pendingReliable := channel.pendingReliable.emplace packet }

/-- The age at which a pending packet is sent again, between 50 and 1000 ms. -/
def retransmitTimeout (channel : Channel Payload) : BitVec 32 :=
  let scaled := (channel.rttMs * 3) / 2
  let lower := if scaled < 50 then 50 else scaled
  if 1000 < lower then 1000 else lower

def isRetransmitCandidate (channel : Channel Payload) (nowMs : BitVec 32)
    (packet : PendingPacket Payload)
    : Bool :=
  nowMs - packet.sentAtMs ≥ channel.retransmitTimeout

def getRetransmitCandidates (channel : Channel Payload) (nowMs : BitVec 32)
    : List (PendingPacket Payload) :=
  channel.pendingReliable.packets.filter (channel.isRetransmitCandidate nowMs)

/-- One session's share of `CheckRetransmits`: send every candidate again, as it was first
built, and restart its timeout.
-/
def retransmit (channel : Channel Payload) (nowMs : BitVec 32)
    : Channel Payload × List (Datagram Payload × SockAddr) :=
  ({ channel with
      pendingReliable :=
        channel.pendingReliable.restamp (channel.isRetransmitCandidate nowMs) nowMs },
    (channel.getRetransmitCandidates nowMs).map fun packet => (packet.data, packet.destAddr))

/-- Drop every pending packet but one; a number of zero keeps none. -/
def clearPendingReliableExcept (channel : Channel Payload) (keepSeq : BitVec 32)
    : Channel Payload :=
  { channel with
    pendingReliable :=
      channel.pendingReliable.keep fun seq => seq == keepSeq && keepSeq != 0 }

/-- Smooth the round-trip estimate, ignoring echoes that do not advance. -/
def updateRtt (channel : Channel Payload) (echoTs nowMs : BitVec 32) : Channel Payload :=
  if echoTs = 0 then channel
  else if channel.lastEchoTs ≠ 0 ∧ (echoTs - channel.lastEchoTs).toInt ≤ 0 then channel
  else
    let rtt := nowMs - echoTs
    let smoothed := (channel.rttMs * 7 + rtt) / 8
    { channel with
      lastEchoTs := echoTs
      rttMs := if smoothed < 20 then 20 else smoothed }

/-- Remember the client's latest timestamp, ignoring those that do not advance. -/
def setLastRecvTimestamp (channel : Channel Payload) (ts : BitVec 32)
    : Channel Payload :=
  if channel.lastRecvTimestamp ≠ 0 ∧ (ts - channel.lastRecvTimestamp).toInt ≤ 0 then channel
  else { channel with lastRecvTimestamp := ts }

/-- `MakeD2CPacketImpl`: number and sign an outgoing message, and register it when it is
reliable. The signature is the digest that the caller supplies.
-/
def makeD2CPacketImpl (channel : Channel Payload)
    (digest : UDPHeader → Payload → BitVec 64) (sessionId : BitVec 16) (address : SockAddr)
    (nowMs : BitVec 32) (pktId : BitVec 16) (reliable : Bool) (payload : Payload)
    : Channel Payload × Datagram Payload :=
  let channel :=
    if reliable then { channel with sendRSeq := channel.sendRSeq + 1 }
    else { channel with sendUSeq := channel.sendUSeq + 1 }
  let rSeqNum := if reliable then channel.sendRSeq else 0
  let uSeqNum := if reliable then 0 else channel.sendUSeq
  let unsigned : UDPHeader :=
    { packetId := pktId, sessionId, rSeqNum, uSeqNum
      flags := (if reliable then FLAG_RELIABLE else 0) ||| FLAG_HAS_ACK
      ackRSeqNum := channel.getAckState.1
      ackBitfield := channel.getAckState.2
      timestamp := nowMs
      timestampEcho := channel.lastRecvTimestamp }
  let buf : Datagram Payload :=
    { header := { unsigned with signature := digest unsigned payload }, payload }
  if reliable then (channel.registerReliable rSeqNum buf address nowMs, buf)
  else (channel, buf)

/-- The sequence filter of `HandleClientPacket`. -/
def updateRecvState (channel : Channel Payload) (header : UDPHeader)
    : Channel Payload × Bool :=
  if header.isReliable then
    let (rRecv, fresh) := updateRRecvState channel.rRecv header.rSeqNum
    ({ channel with rRecv }, fresh)
  else
    let (uRecv, fresh) := updateURecvState channel.uRecv header.uSeqNum
    ({ channel with uRecv }, fresh)

/-- What `HandleClientPacket` does with an authenticated header; the result says whether the
packet's handler is called.
-/
def receive (channel : Channel Payload) (header : UDPHeader) (nowMs : BitVec 32)
    : Channel Payload × Bool :=
  let (channel, fresh) := channel.updateRecvState header
  if !fresh then (channel, false)
  else
    let channel := channel.processIncomingAck header.ackRSeqNum header.ackBitfield
    let channel :=
      if header.timestamp ≠ 0 then channel.setLastRecvTimestamp header.timestamp else channel
    let channel :=
      if header.timestampEcho ≠ 0 then channel.updateRtt header.timestampEcho nowMs
      else channel
    (channel, true)

end Channel

end ExtractionServer.Transport
