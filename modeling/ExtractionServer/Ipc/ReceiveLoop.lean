import ExtractionServer.Library.Framing
import ExtractionServer.Library.Transition

/-! The receive side of the IPC sockets: the receive buffer, the packet dispatch and the loop
that three sessions run whenever a read completes.
-/

namespace ExtractionServer.Ipc

-----------------------------------------------------------------------------------------
-- Receive buffer
-----------------------------------------------------------------------------------------

/-- `RecvBuffer`: received bytes stand before `readPos`, processed ones before
`processedPos`.
-/
structure RecvBuffer where
  buffer : List UInt8
  readPos : Nat
  processedPos : Nat
  bufferSize : Nat
  capacity : Nat

namespace RecvBuffer

def BUFFER_SIZE : Nat := 32768

def new : RecvBuffer where
  buffer := List.replicate (BUFFER_SIZE * 2) 0
  readPos := 0
  processedPos := 0
  bufferSize := BUFFER_SIZE
  capacity := BUFFER_SIZE * 2

def dataSize (recv : RecvBuffer) : Nat := recv.readPos - recv.processedPos

def freeSize (recv : RecvBuffer) : Nat := recv.capacity - recv.readPos

/-- The kernel writes what it read at `ReadPos()`. -/
def write (recv : RecvBuffer) (bytes : List UInt8) : RecvBuffer :=
  { recv with
    buffer :=
      recv.buffer.take recv.readPos ++ bytes ++ recv.buffer.drop (recv.readPos + bytes.length) }

def onRead (recv : RecvBuffer) (readSize : Nat) : RecvBuffer :=
  { recv with readPos := recv.readPos + readSize }

/-- Processing more than is buffered is refused; the loop ignores the refusal. -/
def onProcess (recv : RecvBuffer) (processedSize : Nat) : RecvBuffer :=
  if processedSize > recv.dataSize then recv
  else { recv with processedPos := recv.processedPos + processedSize }

/-- The bytes from `ProcessedPos()` up to `ReadPos()`. -/
def data (recv : RecvBuffer) : List UInt8 :=
  (recv.buffer.drop recv.processedPos).take recv.dataSize

end RecvBuffer

-----------------------------------------------------------------------------------------
-- Packets
-----------------------------------------------------------------------------------------

/-- The header of an IPC packet: id and total size, both little-endian. -/
structure PacketHeader where
  id : Nat
  size : Nat
deriving DecidableEq, Repr

def PACKET_HEADER_SIZE : Nat := 4

/-- Read a header off the first four bytes. -/
def PacketHeader.read : List UInt8 → Option PacketHeader
  | b0 :: b1 :: b2 :: b3 :: _ =>
      some { id := b0.toNat + 256 * b1.toNat, size := b2.toNat + 256 * b3.toNat }
  | _ => none

/-- The packet ids that `PacketHandler::Init` gives a handler. -/
inductive PacketId where
  | h2mWelcome
  | h2mMatchMake
  | h2mMatchMakeCancel
  | h2m2dBindClientIpToSession
  | d2mInitComplete
  | m2dMakeRoomForThisGroup
  | m2dUpdateEntryToken
  | d2mNotifyPlayerLeft
  | d2mNotifyRoomDestroyed
deriving DecidableEq, Repr

/-- The handler table `GProtoPacketHandler`; every other id has the invalid handler. -/
def PacketId.ofNat? : Nat → Option PacketId
  | 1 => some .h2mWelcome
  | 2 => some .h2mMatchMake
  | 3 => some .h2mMatchMakeCancel
  | 4 => some .h2m2dBindClientIpToSession
  | 100 => some .d2mInitComplete
  | 101 => some .m2dMakeRoomForThisGroup
  | 102 => some .m2dUpdateEntryToken
  | 103 => some .d2mNotifyPlayerLeft
  | 104 => some .d2mNotifyRoomDestroyed
  | _ => none

variable {World : Type}

/-- What the parsers and handlers do with a payload: the process state they leave and whether
they succeed.
-/
abbrev Handlers (World : Type) := PacketId → World → List UInt8 → World × Bool

/-- `PacketHandler::HandlePacket`: dispatch a packet on its id; the invalid handler fails. -/
def handlePacket (handlers : Handlers World) (world : World) (packet : List UInt8)
    : World × Bool :=
  match PacketHeader.read packet with
  | none => (world, false)
  | some header =>
      match PacketId.ofNat? header.id with
      | none => (world, false)
      | some id => handlers id world (packet.drop PACKET_HEADER_SIZE)

-----------------------------------------------------------------------------------------
-- Sessions
-----------------------------------------------------------------------------------------

/-- A session's receive state, with the packets it has handed to the dispatch so far. A read
is registered with the ring for the number of bytes in `armed`.
-/
structure IpcSession (World : Type) where
  recvBuffer : RecvBuffer := .new
  armed : Option Nat := none
  world : World
  calls : List (List UInt8) := []

namespace IpcSession

/-- `Recv`: register a read into the free part of the buffer. -/
def recv (session : IpcSession World) : IpcSession World :=
  { session with armed := some session.recvBuffer.freeSize }

/-- The loop of `OnReadComplete`, with the iterations it may take. A rejected packet ends it
without a new receive. It is undefined when the iterations run out.
-/
def parseLoop (handlers : Handlers World) : Nat → IpcSession World → Option (IpcSession World)
  | 0, _ => none
  | fuel + 1, session =>
      if session.recvBuffer.dataSize < PACKET_HEADER_SIZE then some session.recv
      else
        match PacketHeader.read (session.recvBuffer.buffer.drop session.recvBuffer.processedPos)
          with
        | none => some session.recv
        | some header =>
            if session.recvBuffer.dataSize < header.size then some session.recv
            else
              let packet :=
                (session.recvBuffer.buffer.drop session.recvBuffer.processedPos).take header.size
              let (world, handled) := handlePacket handlers session.world packet
              let session := { session with world, calls := session.calls ++ [packet] }
              if handled then
                parseLoop handlers fuel
                  { session with recvBuffer := session.recvBuffer.onProcess header.size }
              else some session

/-- `OnReadComplete`: a read of nothing registers no further receive. The loop gets one
iteration more than there are bytes, so it runs out only on packets that claim no bytes.
-/
def onReadComplete (handlers : Handlers World) (session : IpcSession World) (readBytes : Nat)
    : Option (IpcSession World) :=
  if 0 < readBytes then
    let session := { session with recvBuffer := session.recvBuffer.onRead readBytes }
    parseLoop handlers (session.recvBuffer.dataSize + 1) session
  else some session

end IpcSession

/-- A session class as the ring drives it: its first receive and its read callback. -/
structure ReceiveLoop (World : Type) where
  start : IpcSession World → IpcSession World
  onReadComplete : IpcSession World → Nat → Option (IpcSession World)

/-- `HttpIPCSession`: the accept callback starts the first receive. -/
def HttpIPCSession (handlers : Handlers World) : ReceiveLoop World where
  start := IpcSession.recv
  onReadComplete := IpcSession.onReadComplete handlers

/-- `M2DSession`: `BindSocket` starts the first receive. -/
def M2DSession (handlers : Handlers World) : ReceiveLoop World where
  start := IpcSession.recv
  onReadComplete := IpcSession.onReadComplete handlers

/-- `D2MSession`: the dedicated process starts the first receive. -/
def D2MSession (handlers : Handlers World) : ReceiveLoop World where
  start := IpcSession.recv
  onReadComplete := IpcSession.onReadComplete handlers

-----------------------------------------------------------------------------------------
-- The kernel's reads
-----------------------------------------------------------------------------------------

/-- The kernel may complete the registered read with these bytes: at least one and at most as
many as were offered, or none when none were.
-/
def IpcSession.Offers (session : IpcSession World) (bytes : List UInt8) : Prop :=
  ∃ offered, session.armed = some offered
    ∧ bytes.length ≤ offered
    ∧ (bytes = [] → offered = 0)

/-- The session when the bytes have been written and its callback is about to run. -/
def IpcSession.filled (session : IpcSession World) (bytes : List UInt8) : IpcSession World :=
  { session with recvBuffer := session.recvBuffer.write bytes, armed := none }

/-- All ways in which the kernel can deliver bytes to a session that starts in a given
process state.
-/
def ReceiveLoop.system (loop : ReceiveLoop World) (world : World)
    : Transition.System (IpcSession World) (List UInt8) where
  initial session := session = loop.start { world }
  step before bytes after :=
    before.Offers bytes ∧ loop.onReadComplete (before.filled bytes) bytes.length = some after

end ExtractionServer.Ipc
