import ExtractionServer.Ipc.StreamDecoding

/-! What the receive loops make of malformed headers: an id behind the end of the handler
table, and a size that does not even cover the header.
-/

namespace ExtractionServer.Ipc

open Framing Transition

variable {World : Type}

-----------------------------------------------------------------------------------------
-- Dispatch
-----------------------------------------------------------------------------------------

/-- `UINT16_MAX`, the number of entries of `GProtoPacketHandler`. -/
def UINT16_MAX : Nat := 65535

/-- `len - sizeof(PacketHeader)`: a difference of unsigned 64-bit numbers, passed as `int`. -/
def payloadLength (size : Nat) : Int :=
  ((BitVec.ofNat 64 size - BitVec.ofNat 64 PACKET_HEADER_SIZE).setWidth 32).toInt

/-- What the parser and the handler of a packet do with a length and the memory behind the
header, which ends where the length says unless this is negative.
-/
abbrev Parsers (World : Type) := PacketId → World → Int → List UInt8 → World × Bool

def payloadBytes (length : Int) (memory : List UInt8) : List UInt8 :=
  if 0 ≤ length then memory.take length.toNat else memory

/-- A packet that was dispatched, with the length that a parser was given. -/
structure Dispatch where
  header : PacketHeader
  payloadLength : Option Int
deriving DecidableEq, Repr

/-- A session with all of its dispatches. -/
structure DecoderSession (World : Type) extends IpcSession World where
  dispatches : List Dispatch := []

/-- How a read callback ends, if it does: it returns, or it has read the handler table behind
its end.
-/
inductive Outcome (World : Type) where
  | returns (session : DecoderSession World)
  | outOfBounds (id : Nat)

namespace DecoderSession

def recv (session : DecoderSession World) : DecoderSession World :=
  { session with armed := some session.recvBuffer.freeSize }

def filled (session : DecoderSession World) (bytes : List UInt8) : DecoderSession World :=
  { session with recvBuffer := session.recvBuffer.write bytes, armed := none }

/-- The memory from `ProcessedPos()` on. -/
def memory (session : DecoderSession World) : List UInt8 :=
  session.recvBuffer.buffer.drop session.recvBuffer.processedPos

/-- Call the parser of a packet. -/
def parse (parsers : Parsers World) (session : DecoderSession World) (id : PacketId)
    (header : PacketHeader)
    : DecoderSession World × Bool :=
  let length := payloadLength header.size
  let (world, handled) :=
    parsers id session.world length
      (payloadBytes length (session.memory.drop PACKET_HEADER_SIZE))
  ({ session with
    world
    calls := session.calls ++ [session.memory.take header.size]
    dispatches := session.dispatches ++ [⟨header, some length⟩] }, handled)

/-- `PacketHandler::HandlePacket`: it is undefined where the id is no index of the table. -/
def handlePacket (parsers : Parsers World) (session : DecoderSession World)
    (header : PacketHeader)
    : Option (DecoderSession World × Bool) :=
  if header.id < UINT16_MAX then
    match PacketId.ofNat? header.id with
    | none =>
        some
          ({ session with
            calls := session.calls ++ [session.memory.take header.size]
            dispatches := session.dispatches ++ [⟨header, none⟩] }, false)
    | some id => some (session.parse parsers id header)
  else none

/-- The loop that three sessions share, with the iterations it may take. -/
def parseLoop (parsers : Parsers World) : Nat → DecoderSession World → Option (Outcome World)
  | 0, _ => none
  | fuel + 1, session =>
      if session.recvBuffer.dataSize < PACKET_HEADER_SIZE then some (.returns session.recv)
      else
        match PacketHeader.read session.memory with
        | none => some (.returns session.recv)
        | some header =>
            if session.recvBuffer.dataSize < header.size then some (.returns session.recv)
            else
              match session.handlePacket parsers header with
              | none => some (.outOfBounds header.id)
              | some (session, handled) =>
                  if handled then
                    parseLoop parsers fuel
                      { session with recvBuffer := session.recvBuffer.onProcess header.size }
                  else some (.returns session)

def onReadComplete (parsers : Parsers World) (fuel : Nat) (session : DecoderSession World)
    (readBytes : Nat)
    : Option (Outcome World) :=
  if 0 < readBytes then
    parseLoop parsers fuel
      { session with recvBuffer := session.recvBuffer.onRead readBytes }
  else some (.returns session)

/-- `M2DTempSession::OnReadComplete`: it parses one packet, whatever its id, and the session is
deleted.
-/
def onTempReadComplete (parsers : Parsers World) (session : DecoderSession World)
    (readBytes : Nat)
    : Outcome World :=
  let session := { session with recvBuffer := session.recvBuffer.onRead readBytes }
  if 0 < readBytes then
    if session.recvBuffer.dataSize < PACKET_HEADER_SIZE then .returns session.recv
    else
      match PacketHeader.read session.memory with
      | none => .returns session.recv
      | some header =>
          if session.recvBuffer.dataSize < header.size then .returns session.recv
          else .returns (session.parse parsers .d2mInitComplete header).1
  else .returns session

end DecoderSession

/-- A session class with its first receive and its read callback, which may take a number of
iterations.
-/
structure Decoder (World : Type) where
  start : DecoderSession World → DecoderSession World
  onReadComplete : Nat → DecoderSession World → Nat → Option (Outcome World)

namespace Decoder

def HttpIPCSession (parsers : Parsers World) : Decoder World where
  start := DecoderSession.recv
  onReadComplete := DecoderSession.onReadComplete parsers

def M2DSession (parsers : Parsers World) : Decoder World where
  start := DecoderSession.recv
  onReadComplete := DecoderSession.onReadComplete parsers

def D2MSession (parsers : Parsers World) : Decoder World where
  start := DecoderSession.recv
  onReadComplete := DecoderSession.onReadComplete parsers

def M2DTempSession (parsers : Parsers World) : Decoder World where
  start := DecoderSession.recv
  onReadComplete _ session readBytes :=
    some (DecoderSession.onTempReadComplete parsers session readBytes)

/-- All ways in which the kernel can deliver bytes to a session whose callbacks return. -/
def system (decoder : Decoder World) (world : World)
    : System (DecoderSession World) (List UInt8) where
  initial session := session = decoder.start { world }
  step before bytes after :=
    before.Offers bytes
      ∧ ∃ fuel, decoder.onReadComplete fuel (before.filled bytes) bytes.length
        = some (.returns after)

end Decoder

-----------------------------------------------------------------------------------------
-- What should hold
-----------------------------------------------------------------------------------------

/-- A dispatch of a packet that covers its header, with the length of its payload. -/
def Dispatch.Sound (dispatch : Dispatch) : Prop :=
  PACKET_HEADER_SIZE ≤ dispatch.header.size
  ∧ ∀ length, dispatch.payloadLength = some length →
    0 ≤ length ∧ length = dispatch.header.size - PACKET_HEADER_SIZE

/-- However a stream arrives, every callback returns and has indexed the table inside its
bounds, packets that claim less than a header are not dispatched, and no parser gets a
negative or wrapped length.
-/
structure Decoder.Survives (decoder : Decoder World) (world : World) (stream : List UInt8)
    : Prop where
  sound
    : ∀ {first chunks last}, (decoder.system world).initial first →
        (decoder.system world).Run first chunks last →
        chunks.flatten <+: stream →
        ∀ dispatch ∈ last.dispatches, dispatch.Sound
  returns
    : ∀ {first chunks last bytes}, (decoder.system world).initial first →
        (decoder.system world).Run first chunks last →
        last.Offers bytes →
        chunks.flatten ++ bytes <+: stream →
        ∃ fuel after, decoder.onReadComplete fuel (last.filled bytes) bytes.length
          = some (.returns after)

/-- What the parser of a whole packet does. -/
def parseFrame (parsers : Parsers World) (world : World) (header : PacketHeader)
    (bytes : List UInt8)
    : World × Bool :=
  match PacketId.ofNat? header.id with
  | none => (world, false)
  | some id =>
      parsers id world (header.size - PACKET_HEADER_SIZE)
        ((bytes.take header.size).drop PACKET_HEADER_SIZE)

/-- Bytes whose packets, up to the first one that its handler rejects, cover their headers and
have ids in the table.
-/
inductive SoundStream (parsers : Parsers World) : World → List UInt8 → Prop
  | waiting {world : World} {bytes : List UInt8} (incomplete : completePacket bytes = none)
      : SoundStream parsers world bytes
  | frame {world : World} {bytes : List UInt8} {header : PacketHeader}
      (read : PacketHeader.read bytes = some header) (complete : header.size ≤ bytes.length)
      (lower : PACKET_HEADER_SIZE ≤ header.size) (known : header.id < UINT16_MAX)
      (next : (parseFrame parsers world header bytes).2 = true →
        SoundStream parsers (parseFrame parsers world header bytes).1
          (bytes.drop header.size))
      : SoundStream parsers world bytes

/-- Bytes whose first packet covers its header. -/
def FirstFrameSound (bytes : List UInt8) : Prop :=
  ∀ header, PacketHeader.read bytes = some header → header.size ≤ bytes.length →
    PACKET_HEADER_SIZE ≤ header.size

-----------------------------------------------------------------------------------------
-- Headers and payloads
-----------------------------------------------------------------------------------------

theorem PacketHeader.size_lt {bytes : List UInt8} {header : PacketHeader}
    (read : PacketHeader.read bytes = some header)
    : header.size < 65536 := by
  match bytes, read with
  | b0 :: b1 :: b2 :: b3 :: rest, rfl =>
      have low := b2.toNat_lt
      have high := b3.toNat_lt
      dsimp only
      omega

theorem PacketHeader.long_of_read {bytes : List UInt8} {header : PacketHeader}
    (read : PacketHeader.read bytes = some header)
    : PACKET_HEADER_SIZE ≤ bytes.length := by
  by_contra short
  rw [PacketHeader.read_short (Nat.lt_of_not_le short)] at read
  cases read

/-- The length wraps around exactly when the packet does not cover its header. -/
theorem payloadLength_eq {size : Nat} (covers : PACKET_HEADER_SIZE ≤ size)
    (small : size < 65536)
    : payloadLength size = (size : Int) - PACKET_HEADER_SIZE := by
  simp only [payloadLength, PACKET_HEADER_SIZE] at covers ⊢
  have bits : BitVec.ofNat 64 size - BitVec.ofNat 64 4 = BitVec.ofNat 64 (size - 4) := by
    apply BitVec.eq_of_toNat_eq
    simp only [BitVec.toNat_sub, BitVec.toNat_ofNat]
    omega
  rw [bits, BitVec.toInt_eq_toNat_cond]
  simp only [BitVec.toNat_setWidth, BitVec.toNat_ofNat]
  rw [Nat.mod_eq_of_lt (a := size - 4) (by omega), Nat.mod_eq_of_lt (by omega),
    if_pos (by omega)]
  omega

theorem completePacket_eq_none {bytes : List UInt8}
    : completePacket bytes = none
      ↔ ∀ header, PacketHeader.read bytes = some header → bytes.length < header.size := by
  unfold completePacket
  cases read : PacketHeader.read bytes with
  | none => simp
  | some header => simp

section RecvBuffer

variable {recv : RecvBuffer}

/-- Bytes that fit behind the ones that were read stand behind those still to process. -/
theorem RecvBuffer.Bounded.arrive (bounded : recv.Bounded) {bytes : List UInt8}
    (fits : bytes.length ≤ recv.freeSize)
    : ((recv.write bytes).onRead bytes.length).Bounded
      ∧ ((recv.write bytes).onRead bytes.length).data = recv.data ++ bytes := by
  have processed := bounded.processed
  have read := bounded.read
  have memory := bounded.memory
  simp only [freeSize] at fits
  have front : (recv.buffer.take recv.readPos).length = recv.readPos := by
    rw [List.length_take]
    omega
  refine ⟨⟨?_, ?_, ?_⟩, ?_⟩
  · simp only [onRead, write]
    omega
  · simp only [onRead, write]
    omega
  · simp only [onRead, write, List.length_append, front, List.length_drop]
    omega
  · have size : recv.readPos + bytes.length - recv.processedPos
        = (recv.buffer.take recv.readPos ++ bytes).length - recv.processedPos := by
      rw [List.length_append, front]
    simp only [data, dataSize, onRead, write, size, ← List.drop_take, List.take_left]
    rw [List.drop_append_of_le_length (by omega), List.drop_take]

theorem RecvBuffer.Bounded.process (bounded : recv.Bounded) {size : Nat}
    (complete : size ≤ recv.dataSize)
    : (recv.onProcess size).Bounded
      ∧ (recv.onProcess size).data = recv.data.drop size := by
  have processed := bounded.processed
  have read := bounded.read
  have memory := bounded.memory
  simp only [onProcess, if_neg (Nat.not_lt.mpr complete)]
  simp only [dataSize] at complete
  refine ⟨⟨?_, read, memory⟩, ?_⟩
  · dsimp only
    omega
  · simp only [data, dataSize, List.drop_take, List.drop_drop]
    congr 1
    omega

theorem RecvBuffer.onProcess_memory (recv : RecvBuffer) (size : Nat)
    : (recv.onProcess size).buffer = recv.buffer
      ∧ (recv.onProcess size).readPos = recv.readPos
      ∧ (recv.onProcess size).capacity = recv.capacity := by
  unfold onProcess
  split <;> exact ⟨rfl, rfl, rfl⟩

end RecvBuffer

namespace DecoderSession

variable {parsers : Parsers World} {session : DecoderSession World}

/-- The memory begins with the data, in which a header is read and a packet found. -/
theorem read_memory (bounded : session.recvBuffer.Bounded)
    (long : PACKET_HEADER_SIZE ≤ session.recvBuffer.dataSize)
    : PacketHeader.read session.memory = PacketHeader.read session.recvBuffer.data := by
  rw [memory, session.recvBuffer.drop_eq_data]
  exact PacketHeader.read_append (by rwa [bounded.length_data]) _

theorem take_memory {size : Nat} (bounded : session.recvBuffer.Bounded)
    (complete : size ≤ session.recvBuffer.dataSize)
    : session.memory.take size = session.recvBuffer.data.take size := by
  rw [memory, session.recvBuffer.drop_eq_data]
  exact List.take_append_of_le_length (by rwa [bounded.length_data])

/-- The parser of a packet that covers its header gets the payload. -/
theorem parse_of_covers {id : PacketId} {header : PacketHeader}
    (bounded : session.recvBuffer.Bounded)
    (complete : header.size ≤ session.recvBuffer.dataSize)
    (covers : PACKET_HEADER_SIZE ≤ header.size) (small : header.size < 65536)
    : session.parse parsers id header
      = ({ session with
          world := (parsers id session.world (header.size - PACKET_HEADER_SIZE)
            ((session.recvBuffer.data.take header.size).drop PACKET_HEADER_SIZE)).1
          calls := session.calls ++ [session.recvBuffer.data.take header.size]
          dispatches := session.dispatches
            ++ [⟨header, some (header.size - PACKET_HEADER_SIZE)⟩] },
        (parsers id session.world (header.size - PACKET_HEADER_SIZE)
          ((session.recvBuffer.data.take header.size).drop PACKET_HEADER_SIZE)).2) := by
  have length := payloadLength_eq covers small
  have nonneg : (0 : Int) ≤ header.size - PACKET_HEADER_SIZE := by omega
  have payload : payloadBytes (header.size - PACKET_HEADER_SIZE)
        (session.memory.drop PACKET_HEADER_SIZE)
      = (session.recvBuffer.data.take header.size).drop PACKET_HEADER_SIZE := by
    rw [payloadBytes, if_pos nonneg, ← take_memory bounded complete, List.drop_take]
    congr 1
    omega
  simp only [parse, length, payload, take_memory bounded complete]

variable (parsers) in
/-- A packet that covers its header and has an id in the table is dispatched as it should
be.
-/
theorem handlePacket_of_covers {header : PacketHeader} (bounded : session.recvBuffer.Bounded)
    (complete : header.size ≤ session.recvBuffer.dataSize)
    (covers : PACKET_HEADER_SIZE ≤ header.size) (small : header.size < 65536)
    (known : header.id < UINT16_MAX)
    : ∃ after, session.handlePacket parsers header
          = some (after,
            (parseFrame parsers session.world header session.recvBuffer.data).2)
        ∧ after.toIpcSession
          = { session.toIpcSession with
              world := (parseFrame parsers session.world header session.recvBuffer.data).1
              calls := session.calls ++ [session.recvBuffer.data.take header.size] }
        ∧ ∃ dispatch : Dispatch,
          after.dispatches = session.dispatches ++ [dispatch] ∧ dispatch.Sound := by
  simp only [handlePacket, if_pos known, parseFrame]
  cases PacketId.ofNat? header.id with
  | none =>
      rw [take_memory bounded complete]
      exact ⟨_, rfl, rfl, _, rfl, covers, fun _ none => by cases none⟩
  | some id =>
      simp only [parse_of_covers bounded complete covers small]
      refine ⟨_, rfl, rfl, _, rfl, covers, fun length same => ?_⟩
      obtain rfl := Option.some.inj same
      exact ⟨by omega, rfl⟩

/-- Every packet that is dispatched has an id in the table, and its header is recorded. -/
theorem of_handlePacket {header : PacketHeader} {after : DecoderSession World}
    {handled : Bool} (dispatched : session.handlePacket parsers header = some (after, handled))
    : header.id < UINT16_MAX
      ∧ after.recvBuffer = session.recvBuffer
      ∧ ∃ dispatch : Dispatch,
        after.dispatches = session.dispatches ++ [dispatch]
        ∧ dispatch.header = header := by
  unfold handlePacket at dispatched
  split at dispatched
  · next known =>
      refine ⟨known, ?_⟩
      split at dispatched
      · cases dispatched
        exact ⟨rfl, _, rfl, rfl⟩
      · cases dispatched
        exact ⟨rfl, _, rfl, rfl⟩
  · cases dispatched

-----------------------------------------------------------------------------------------
-- One iteration
-----------------------------------------------------------------------------------------

/-- The loop waits where no packet is complete. -/
theorem parseLoop_waiting (bounded : session.recvBuffer.Bounded) (fuel : Nat)
    (incomplete : completePacket session.recvBuffer.data = none)
    : parseLoop parsers (fuel + 1) session = some (.returns session.recv) := by
  have size := bounded.length_data
  rw [completePacket_eq_none] at incomplete
  unfold parseLoop
  split
  · rfl
  · next long =>
      rw [read_memory bounded (by omega)]
      cases read : PacketHeader.read session.recvBuffer.data with
      | none => rfl
      | some header =>
          have short := incomplete header read
          simp only [if_pos (size ▸ short)]

variable (parsers) in
/-- The loop dispatches a complete packet, and goes on if its handler accepts it. -/
theorem parseLoop_frame (bounded : session.recvBuffer.Bounded) {header : PacketHeader}
    (read : PacketHeader.read session.recvBuffer.data = some header)
    (complete : header.size ≤ session.recvBuffer.dataSize)
    : (session.handlePacket parsers header = none
        ∧ ∀ fuel, parseLoop parsers (fuel + 1) session = some (.outOfBounds header.id))
      ∨ ∃ after handled, session.handlePacket parsers header = some (after, handled)
        ∧ ∀ fuel, parseLoop parsers (fuel + 1) session
          = if handled then
              parseLoop parsers fuel
                { after with recvBuffer := after.recvBuffer.onProcess header.size }
            else some (.returns after) := by
  have long := PacketHeader.long_of_read read
  rw [bounded.length_data] at long
  simp only [parseLoop, if_neg (Nat.not_lt.mpr long), read_memory bounded long, read,
    if_neg (Nat.not_lt.mpr complete)]
  cases session.handlePacket parsers header with
  | none => exact .inl ⟨rfl, fun _ => rfl⟩
  | some result => exact .inr ⟨result.1, result.2, rfl, fun _ => rfl⟩

/-- More iterations do not change what the loop does, by induction on them. -/
theorem parseLoop_succ {fuel : Nat} {outcome : Outcome World}
    (ends : parseLoop parsers fuel session = some outcome)
    : parseLoop parsers (fuel + 1) session = some outcome := by
  induction fuel generalizing session with
  | zero => cases ends
  | succ fuel ih =>
      unfold parseLoop at ends ⊢
      split
      · next short => rwa [if_pos short] at ends
      · next long =>
          rw [if_neg long] at ends
          split
          · next read => rwa [read] at ends
          · next header read =>
              simp only [read] at ends
              split
              · next short => rwa [if_pos short] at ends
              · next whole =>
                  rw [if_neg whole] at ends
                  cases dispatched : session.handlePacket parsers header with
                  | none => simpa [dispatched] using ends
                  | some result =>
                      obtain ⟨after, handled⟩ := result
                      simp only [dispatched] at ends ⊢
                      cases handled with
                      | true => exact ih ends
                      | false => exact ends

theorem parseLoop_add {fuel : Nat} {outcome : Outcome World}
    (ends : parseLoop parsers fuel session = some outcome) (more : Nat)
    : parseLoop parsers (fuel + more) session = some outcome := by
  induction more with
  | zero => exact ends
  | succ more ih => exact parseLoop_succ ih

/-- The loop has one outcome at most. -/
theorem parseLoop_unique {one two : Nat} {outcome other : Outcome World}
    (first : parseLoop parsers one session = some outcome)
    (second : parseLoop parsers two session = some other)
    : outcome = other := by
  have left := parseLoop_add first two
  have right := parseLoop_add second one
  rw [Nat.add_comm, right] at left
  exact (Option.some.inj left).symm

-----------------------------------------------------------------------------------------
-- The whole loop
-----------------------------------------------------------------------------------------

end DecoderSession

/-- A packet of a sound stream, and the stream behind it. -/
theorem SoundStream.of_frame {parsers : Parsers World} {world : World} {bytes : List UInt8}
    {header : PacketHeader} (sound : SoundStream parsers world bytes)
    (read : PacketHeader.read bytes = some header) (complete : header.size ≤ bytes.length)
    : PACKET_HEADER_SIZE ≤ header.size ∧ header.id < UINT16_MAX
      ∧ ((parseFrame parsers world header bytes).2 = true →
        SoundStream parsers (parseFrame parsers world header bytes).1
          (bytes.drop header.size)) := by
  cases sound with
  | waiting incomplete =>
      have short := completePacket_eq_none.mp incomplete header read
      omega
  | @frame _ _ other readOther _ lower known next =>
      obtain rfl : header = other := Option.some.inj (read.symm.trans readOther)
      exact ⟨lower, known, next⟩

theorem parseFrame_append (parsers : Parsers World) (world : World) {header : PacketHeader}
    {bytes : List UInt8} (complete : header.size ≤ bytes.length) (more : List UInt8)
    : parseFrame parsers world header (bytes ++ more)
      = parseFrame parsers world header bytes := by
  unfold parseFrame
  rw [List.take_append_of_le_length complete]

/-- A part of a sound stream is sound, by induction on its length. -/
theorem SoundStream.of_append {parsers : Parsers World} {world : World}
    {bytes more : List UInt8} (sound : SoundStream parsers world (bytes ++ more))
    : SoundStream parsers world bytes := by
  induction size : bytes.length using Nat.strong_induction_on generalizing world bytes with
  | _ size ih =>
      by_cases incomplete : completePacket bytes = none
      · exact .waiting incomplete
      · obtain ⟨header, read, complete⟩ : ∃ header, PacketHeader.read bytes = some header
            ∧ header.size ≤ bytes.length := by
          simpa [completePacket_eq_none] using incomplete
        have long := PacketHeader.long_of_read read
        obtain ⟨lower, known, next⟩ := sound.of_frame
          ((PacketHeader.read_append long more).trans read) (complete.trans (by simp))
        rw [parseFrame_append parsers world complete,
          List.drop_append_of_le_length complete] at next
        refine .frame read complete lower known fun accepted => ?_
        refine ih (bytes.drop header.size).length ?_ (next accepted) rfl
        simp only [PACKET_HEADER_SIZE] at lower long
        simp only [List.length_drop]
        omega

namespace DecoderSession

variable {parsers : Parsers World} {session before after : DecoderSession World}

/-- What the loop does on a sound stream: it leaves the bytes where they are, dispatches as it
should, and registers a receive only if the rest of the stream is still to be parsed.
-/
structure Processed (parsers : Parsers World) (before after : DecoderSession World) : Prop where
  buffer : after.recvBuffer.buffer = before.recvBuffer.buffer
  readPos : after.recvBuffer.readPos = before.recvBuffer.readPos
  capacity : after.recvBuffer.capacity = before.recvBuffer.capacity
  bounded : after.recvBuffer.Bounded
  sound : ∀ dispatch ∈ after.dispatches, dispatch.Sound
  armed : ∀ offered, after.armed = some offered →
    offered = after.recvBuffer.freeSize
    ∧ ∀ more, SoundStream parsers before.world (before.recvBuffer.data ++ more) →
      SoundStream parsers after.world (after.recvBuffer.data ++ more)

/-- The loop returns on a sound stream, by induction on the stream. -/
theorem parseLoop_of_sound {world : World} {bytes : List UInt8}
    (stream : SoundStream parsers world bytes) (session : DecoderSession World)
    (start : session.world = world) (data : session.recvBuffer.data = bytes)
    (bounded : session.recvBuffer.Bounded) (idle : session.armed = none)
    (sound : ∀ dispatch ∈ session.dispatches, dispatch.Sound)
    : ∃ fuel after, parseLoop parsers fuel session = some (.returns after)
        ∧ Processed parsers session after := by
  induction stream generalizing session with
  | waiting incomplete =>
      subst start data
      refine ⟨1, session.recv, parseLoop_waiting bounded 0 incomplete, ?_⟩
      exact
        { buffer := rfl
          readPos := rfl
          capacity := rfl
          bounded
          sound
          armed := fun offered armed => ⟨(Option.some.inj armed).symm, fun _ more => more⟩ }
  | @frame world bytes header read complete lower known next ih =>
      subst start data
      have size := bounded.length_data
      have small := PacketHeader.size_lt read
      obtain ⟨after, dispatched, kept, dispatch, recorded, good⟩ :=
        handlePacket_of_covers parsers bounded (size ▸ complete) lower small known
      have sameBuffer := congrArg IpcSession.recvBuffer kept
      have sameArmed := congrArg IpcSession.armed kept
      have sameWorld := congrArg IpcSession.world kept
      have soundAfter : ∀ dispatch ∈ after.dispatches, dispatch.Sound := by
        rw [recorded]
        intro other mem
        rcases List.mem_append.mp mem with mem | mem
        · exact sound other mem
        · rwa [List.mem_singleton.mp mem]
      have process := bounded.process (size ▸ complete)
      obtain ⟨other, handled, same, result⟩ :=
        (parseLoop_frame parsers bounded read (size ▸ complete)).resolve_left
          fun none => by simp [dispatched] at none
      obtain ⟨rfl, rfl⟩ := Prod.mk.inj (Option.some.inj (dispatched.symm.trans same))
      cases accepted : (parseFrame parsers session.world header session.recvBuffer.data).2 with
      | false =>
          refine ⟨1, after, by rw [result, accepted]; rfl, ?_⟩
          exact
            { buffer := by rw [sameBuffer]
              readPos := by rw [sameBuffer]
              capacity := by rw [sameBuffer]
              bounded := by rwa [sameBuffer]
              sound := soundAfter
              armed := fun offered armed => by
                rw [sameArmed, idle] at armed
                cases armed }
      | true =>
          rw [← sameBuffer] at process
          have dropped : (after.recvBuffer.onProcess header.size).data
              = session.recvBuffer.data.drop header.size := by
            rw [process.2, sameBuffer]
          have kept := after.recvBuffer.onProcess_memory header.size
          obtain ⟨fuel, last, loops, later⟩ := ih accepted
            { after with recvBuffer := after.recvBuffer.onProcess header.size }
            sameWorld dropped process.1 (sameArmed.trans idle) soundAfter
          refine ⟨fuel + 1, last, by rw [result, accepted]; exact loops, ?_⟩
          exact
            { buffer := by rw [later.buffer, kept.1, sameBuffer]
              readPos := by rw [later.readPos, kept.2.1, sameBuffer]
              capacity := by rw [later.capacity, kept.2.2, sameBuffer]
              bounded := later.bounded
              sound := later.sound
              armed := fun offered armed => by
                obtain ⟨room, waits⟩ := later.armed offered armed
                refine ⟨room, fun more stream => waits more ?_⟩
                have long := PacketHeader.long_of_read read
                have rest := (stream.of_frame ((PacketHeader.read_append long more).trans read)
                  (complete.trans (by simp))).2.2
                rw [parseFrame_append parsers _ complete,
                  List.drop_append_of_le_length complete] at rest
                dsimp only
                rw [sameWorld, dropped]
                exact rest accepted }

/-- Where the loop returns and has dispatched as it should, the bytes were sound, by induction
on the iterations; dispatches are never taken back.
-/
theorem sound_of_parseLoop {fuel : Nat} (bounded : session.recvBuffer.Bounded)
    (returned : parseLoop parsers fuel session = some (.returns after))
    : (∃ new, after.dispatches = session.dispatches ++ new)
      ∧ ((∀ dispatch ∈ after.dispatches, dispatch.Sound) →
        SoundStream parsers session.world session.recvBuffer.data) := by
  induction fuel generalizing session with
  | zero => cases returned
  | succ fuel ih =>
      by_cases incomplete : completePacket session.recvBuffer.data = none
      · rw [parseLoop_waiting bounded fuel incomplete] at returned
        cases returned
        exact ⟨⟨[], (List.append_nil _).symm⟩, fun _ => .waiting incomplete⟩
      · obtain ⟨header, read, complete⟩ : ∃ header,
            PacketHeader.read session.recvBuffer.data = some header
            ∧ header.size ≤ session.recvBuffer.data.length := by
          simpa [completePacket_eq_none] using incomplete
        have size := bounded.length_data
        have whole : header.size ≤ session.recvBuffer.dataSize := size ▸ complete
        rcases parseLoop_frame parsers bounded read whole with
          ⟨_, outOfBounds⟩ | ⟨middle, handled, dispatched, result⟩
        · rw [outOfBounds] at returned
          cases returned
        · obtain ⟨known, sameBuffer, dispatch, recorded, rfl⟩ := of_handlePacket dispatched
          have process := bounded.process whole
          rw [result] at returned
          have later : (∃ new, after.dispatches = middle.dispatches ++ new)
              ∧ (handled = true → (∀ dispatch ∈ after.dispatches, dispatch.Sound) →
                SoundStream parsers middle.world
                  (session.recvBuffer.data.drop dispatch.header.size)) := by
            cases handled with
            | false =>
                cases returned
                exact ⟨⟨[], (List.append_nil _).symm⟩, fun no => by cases no⟩
            | true =>
                rw [← sameBuffer] at process
                obtain ⟨grows, sound⟩ := ih process.1 returned
                refine ⟨grows, fun _ good => ?_⟩
                have stream := sound good
                dsimp only at stream
                rwa [process.2, sameBuffer] at stream
          obtain ⟨⟨new, grows⟩, sound⟩ := later
          rw [recorded, List.append_assoc] at grows
          refine ⟨⟨_, grows⟩, fun good => ?_⟩
          have lower := (good dispatch (by simp [grows])).1
          obtain ⟨other, same, kept, -⟩ := handlePacket_of_covers parsers
            bounded whole lower (PacketHeader.size_lt read) known
          obtain ⟨rfl, rfl⟩ := Prod.mk.inj (Option.some.inj (dispatched.symm.trans same))
          have stream := fun accepted => sound accepted good
          rw [congrArg IpcSession.world kept] at stream
          exact .frame read complete lower known stream

/-- Handlers that call the parsers with the length of the payload. -/
def handlersOf (parsers : Parsers World) : Handlers World :=
  fun id world payload => parsers id world payload.length payload

/-- The dispatch of a packet that covers its header is that of the plain model. -/
theorem parseFrame_eq {header : PacketHeader} {bytes : List UInt8} {world : World}
    (read : PacketHeader.read bytes = some header) (complete : header.size ≤ bytes.length)
    (lower : PACKET_HEADER_SIZE ≤ header.size)
    : Ipc.handlePacket (handlersOf parsers) world (bytes.take header.size)
      = parseFrame parsers world header bytes := by
  have size : (bytes.take header.size).length = header.size := by
    rw [List.length_take]
    omega
  have front : PacketHeader.read (bytes.take header.size) = some header := by
    exact (PacketHeader.read_append (by omega) (bytes.drop header.size)).symm.trans
      (by rw [List.take_append_drop, read])
  have payload : (((bytes.take header.size).drop PACKET_HEADER_SIZE).length : Int)
      = header.size - PACKET_HEADER_SIZE := by
    rw [List.length_drop, size]
    omega
  cases known : PacketId.ofNat? header.id <;>
    simp only [Ipc.handlePacket, front, parseFrame, handlersOf, payload, known]

/-- Where the loop dispatches as it should it is the plain loop, by induction on the
iterations.
-/
theorem toIpcSession_parseLoop {fuel : Nat} (bounded : session.recvBuffer.Bounded)
    (returned : parseLoop parsers fuel session = some (.returns after))
    (good : ∀ dispatch ∈ after.dispatches, dispatch.Sound)
    : IpcSession.parseLoop (handlersOf parsers) fuel session.toIpcSession
      = some after.toIpcSession := by
  induction fuel generalizing session with
  | zero => cases returned
  | succ fuel ih =>
      have size := bounded.length_data
      simp only [parseLoop] at returned
      simp only [IpcSession.parseLoop]
      split at returned
      · next short =>
          rw [if_pos short]
          cases returned
          rfl
      next long =>
      rw [if_neg long]
      have memory := read_memory bounded (Nat.le_of_not_lt long)
      split at returned
      · next unread =>
          rw [show PacketHeader.read
            (session.recvBuffer.buffer.drop session.recvBuffer.processedPos) = none from unread]
          cases returned
          rfl
      next header read =>
      rw [show PacketHeader.read
        (session.recvBuffer.buffer.drop session.recvBuffer.processedPos) = some header from read]
      dsimp only
      split at returned
      · next short =>
          rw [if_pos short]
          cases returned
          rfl
      next whole =>
      rw [if_neg whole]
      have complete := Nat.le_of_not_lt whole
      rw [memory] at read
      cases dispatched : session.handlePacket parsers header with
      | none => simp [dispatched] at returned
      | some result =>
          obtain ⟨middle, handled⟩ := result
          simp only [dispatched] at returned
          obtain ⟨known, sameBuffer, dispatch, recorded, rfl⟩ := of_handlePacket dispatched
          have process := bounded.process complete
          rw [← sameBuffer] at process
          have grows : ∃ new, after.dispatches = middle.dispatches ++ new := by
            split at returned
            · exact (sound_of_parseLoop process.1 returned).1
            · cases returned
              exact ⟨[], (List.append_nil _).symm⟩
          obtain ⟨new, grows⟩ := grows
          have lower := (good dispatch (by simp [grows, recorded])).1
          obtain ⟨other, same, kept, -⟩ := handlePacket_of_covers parsers
            bounded complete lower (PacketHeader.size_lt read) known
          obtain ⟨rfl, rfl⟩ := Prod.mk.inj (Option.some.inj (dispatched.symm.trans same))
          rw [show List.take dispatch.header.size
              (session.recvBuffer.buffer.drop session.recvBuffer.processedPos)
            = session.recvBuffer.data.take dispatch.header.size from
              take_memory bounded complete,
            parseFrame_eq read (complete.trans (Nat.le_of_eq size.symm)) lower]
          split at returned
          · next accepted =>
              rw [if_pos accepted]
              have later := ih process.1 returned
              rw [← later]
              congr 1
              exact congrArg (fun session : IpcSession World => { session with
                recvBuffer := session.recvBuffer.onProcess dispatch.header.size }) kept.symm
          · next rejected =>
              rw [if_neg rejected]
              cases returned
              exact congrArg some kept.symm

-----------------------------------------------------------------------------------------
-- Runs
-----------------------------------------------------------------------------------------

/-- A session after some bytes have arrived: they are all in the buffer, and while a receive
is registered the soundness of what follows is that of the whole stream.
-/
structure Following (parsers : Parsers World) (world : World) (received : List UInt8)
    (session : DecoderSession World)
    : Prop where
  bounded : session.recvBuffer.Bounded
  capacity : session.recvBuffer.capacity = 65536
  readPos : session.recvBuffer.readPos = received.length
  sound : ∀ dispatch ∈ session.dispatches, dispatch.Sound
  armed : ∀ offered, session.armed = some offered →
    offered = session.recvBuffer.freeSize
    ∧ ∀ more, SoundStream parsers world (received ++ more) →
      SoundStream parsers session.world (session.recvBuffer.data ++ more)

theorem Following.start (parsers : Parsers World) (world : World)
    : Following parsers world [] (recv { world }) where
  bounded := ⟨Nat.le_refl 0, Nat.zero_le _, by simp [recv, RecvBuffer.new]⟩
  capacity := rfl
  readPos := rfl
  sound := by simp [recv]
  armed offered armed := ⟨(Option.some.inj armed).symm, fun more stream => stream⟩

variable {world : World} {received bytes : List UInt8}

/-- No more bytes arrive than the buffer holds. -/
theorem Following.length_le (following : Following parsers world received session)
    (offers : session.Offers bytes)
    : (received ++ bytes).length ≤ 65536 := by
  obtain ⟨offered, armed, fits, -⟩ := offers
  obtain ⟨rfl, -⟩ := following.armed offered armed
  have read := following.bounded.read
  have capacity := following.capacity
  have readPos := following.readPos
  simp only [RecvBuffer.freeSize] at fits
  rw [List.length_append]
  omega

/-- One read of a sound stream: its callback returns, with the session in the same order. -/
theorem Following.onReadComplete (following : Following parsers world received session)
    (offers : session.Offers bytes)
    (stream : SoundStream parsers world (received ++ bytes))
    : ∃ fuel after, DecoderSession.onReadComplete parsers fuel (session.filled bytes)
          bytes.length = some (.returns after)
        ∧ Following parsers world (received ++ bytes) after := by
  obtain ⟨offered, armed, fits, -⟩ := offers
  obtain ⟨rfl, follows⟩ := following.armed offered armed
  obtain ⟨bounded, data⟩ := following.bounded.arrive fits
  have readPos := following.readPos
  by_cases none : bytes = []
  · subst none
    exact ⟨0, session.filled [], rfl,
      { bounded
        capacity := following.capacity
        readPos := by rwa [List.append_nil]
        sound := following.sound
        armed := fun _ armed => by cases armed }⟩
  · have positive : 0 < bytes.length := List.length_pos_iff.mpr none
    obtain ⟨fuel, after, loops, processed⟩ := parseLoop_of_sound (follows bytes stream)
      { session.filled bytes with
        recvBuffer := (session.recvBuffer.write bytes).onRead bytes.length }
      rfl data bounded rfl following.sound
    refine ⟨fuel, after, ?_, ?_⟩
    · rw [DecoderSession.onReadComplete, if_pos positive]
      exact loops
    · exact
        { bounded := processed.bounded
          capacity := processed.capacity.trans following.capacity
          readPos := by
            rw [processed.readPos, List.length_append, ← readPos]
            rfl
          sound := processed.sound
          armed := fun offered armed => by
            obtain ⟨room, waits⟩ := processed.armed offered armed
            refine ⟨room, fun more whole => waits more ?_⟩
            dsimp only
            rw [data, List.append_assoc]
            rw [List.append_assoc] at whole
            exact follows _ whole }

theorem onReadComplete_unique {one two readBytes : Nat} {outcome other : Outcome World}
    (first : DecoderSession.onReadComplete parsers one session readBytes = some outcome)
    (second : DecoderSession.onReadComplete parsers two session readBytes = some other)
    : outcome = other := by
  unfold DecoderSession.onReadComplete at first second
  split at first
  · next some =>
      rw [if_pos some] at second
      exact parseLoop_unique first second
  · next none =>
      rw [if_neg none] at second
      exact Option.some.inj (first.symm.trans second)

end DecoderSession

open DecoderSession

variable {parsers : Parsers World} {world : World} {stream : List UInt8}

/-- What can arrive of a stream is a part of its first 64 KiB. -/
theorem SoundStream.of_prefix {bytes : List UInt8}
    (sound : SoundStream parsers world (stream.take 65536)) (isPrefix : bytes <+: stream)
    (room : bytes.length ≤ 65536)
    : SoundStream parsers world bytes := by
  obtain ⟨rest, same⟩ := List.prefix_take_iff.mpr ⟨isPrefix, room⟩
  rw [← same] at sound
  exact sound.of_append

/-- A run keeps the session in order while the stream is sound, by induction on the run. -/
theorem DecoderSession.Following.run {decoder : Decoder World}
    {received : List UInt8} {session last : DecoderSession World} {chunks : List (List UInt8)}
    (callback : decoder.onReadComplete = DecoderSession.onReadComplete parsers)
    (sound : SoundStream parsers world (stream.take 65536))
    (following : Following parsers world received session)
    (run : (decoder.system world).Run session chunks last)
    (isPrefix : received ++ chunks.flatten <+: stream)
    : Following parsers world (received ++ chunks.flatten) last := by
  induction run generalizing received with
  | nil => simpa using following
  | @cons session middle last bytes rest step _ ih =>
      obtain ⟨offers, fuel, returned⟩ := step
      rw [List.flatten_cons, ← List.append_assoc] at isPrefix ⊢
      have arrived := (List.prefix_append _ _).trans isPrefix
      obtain ⟨enough, after, same, next⟩ := following.onReadComplete offers
        (sound.of_prefix arrived (following.length_le offers))
      rw [callback] at returned
      obtain rfl := Outcome.returns.inj (onReadComplete_unique returned same)
      exact ih next isPrefix

/-- The shared loop survives a stream exactly when it is sound as far as it can arrive. In one
direction every run keeps the session in order; in the other the whole stream arrives at once.
-/
theorem Decoder.survives_iff (decoder : Decoder World)
    (start : decoder.start = DecoderSession.recv)
    (callback : decoder.onReadComplete = DecoderSession.onReadComplete parsers)
    : decoder.Survives world stream ↔ SoundStream parsers world (stream.take 65536) := by
  constructor
  · intro survives
    by_cases none : stream.take 65536 = []
    · rw [none]
      exact .waiting rfl
    have room : (stream.take 65536).length ≤ 65536 := List.length_take_le _ _
    have initial : (decoder.system world).initial (recv { world }) := by
      simp only [system, start]
    have offers : (recv { world }).Offers (stream.take 65536) :=
      ⟨_, rfl, room, fun nothing => absurd nothing none⟩
    obtain ⟨fuel, after, returned⟩ := survives.returns initial (.nil _) offers
      (List.take_prefix _ _)
    have good := survives.sound initial (.cons ⟨offers, fuel, returned⟩ (.nil after))
      (by simpa using List.take_prefix _ _)
    obtain ⟨bounded, data⟩ := (Following.start parsers world).bounded.arrive room
    rw [callback, DecoderSession.onReadComplete, if_pos (List.length_pos_iff.mpr none)]
      at returned
    have arrived : SoundStream parsers world
        (((recv { world }).recvBuffer.write (stream.take 65536)).onRead
          (stream.take 65536).length).data := (sound_of_parseLoop bounded returned).2 good
    rwa [data] at arrived
  · intro sound
    have follows {first last : DecoderSession World} {chunks : List (List UInt8)}
        (initial : (decoder.system world).initial first)
        (run : (decoder.system world).Run first chunks last)
        (isPrefix : chunks.flatten <+: stream)
        : Following parsers world chunks.flatten last := by
      obtain rfl : first = recv { world } := by
        simpa only [system, start] using initial
      simpa using (Following.start parsers world).run callback sound run (by simpa using isPrefix)
    exact
      { sound := fun initial run isPrefix => (follows initial run isPrefix).sound
        returns := fun initial run offers isPrefix => by
          have following := follows initial run ((List.prefix_append _ _).trans isPrefix)
          obtain ⟨fuel, after, returned, -⟩ := following.onReadComplete offers
            (sound.of_prefix isPrefix (following.length_le offers))
          exact ⟨fuel, after, callback ▸ returned⟩ }

-----------------------------------------------------------------------------------------
-- The session that waits for a process
-----------------------------------------------------------------------------------------

/-- The session of a new process after some bytes have arrived: it waits for its first packet,
or it has parsed this packet and is deleted.
-/
structure DecoderSession.Expecting (received : List UInt8) (session : DecoderSession World)
    : Prop where
  bounded : session.recvBuffer.Bounded
  capacity : session.recvBuffer.capacity = 65536
  readPos : session.recvBuffer.readPos = received.length
  sound : ∀ dispatch ∈ session.dispatches, dispatch.Sound
  armed : ∀ offered, session.armed = some offered →
    offered = session.recvBuffer.freeSize ∧ session.recvBuffer.data = received

namespace DecoderSession

variable {session : DecoderSession World} {received bytes : List UInt8}

variable (parsers session) in
/-- A read that completes no packet registers the next receive, and one that does parses it. -/
theorem onTempReadComplete_cases {readBytes : Nat} (positive : 0 < readBytes)
    (bounded : (session.recvBuffer.onRead readBytes).Bounded)
    : completePacket (session.recvBuffer.onRead readBytes).data = none
        ∧ onTempReadComplete parsers session readBytes
          = .returns
            (recv { session with recvBuffer := session.recvBuffer.onRead readBytes })
      ∨ ∃ header,
        PacketHeader.read (session.recvBuffer.onRead readBytes).data = some header
        ∧ header.size ≤ (session.recvBuffer.onRead readBytes).data.length
        ∧ onTempReadComplete parsers session readBytes
          = .returns
            (parse parsers { session with recvBuffer := session.recvBuffer.onRead readBytes }
              .d2mInitComplete header).1 := by
  have size := bounded.length_data
  simp only [onTempReadComplete, if_pos positive]
  split
  · next short =>
      refine .inl ⟨completePacket_eq_none.mpr fun header read => ?_, rfl⟩
      have long := PacketHeader.long_of_read read
      omega
  · next long =>
      have header := @read_memory _
        { session with recvBuffer := session.recvBuffer.onRead readBytes } bounded
        (Nat.le_of_not_lt long)
      rw [header]
      dsimp only
      split
      · next read =>
          exact .inl ⟨completePacket_eq_none.mpr (by simp [read]), rfl⟩
      · next header read =>
          split
          · next short =>
              refine .inl ⟨completePacket_eq_none.mpr fun other same => ?_, rfl⟩
              obtain rfl := Option.some.inj (read.symm.trans same)
              omega
          · next whole =>
              exact .inr ⟨header, read, by omega, rfl⟩

theorem FirstFrameSound.of_prefix {stream : List UInt8} (sound : FirstFrameSound stream)
    (isPrefix : bytes <+: stream)
    : FirstFrameSound bytes := by
  obtain ⟨rest, rfl⟩ := isPrefix
  intro header read complete
  have long := PacketHeader.long_of_read read
  exact sound header ((PacketHeader.read_append long rest).trans read)
    (complete.trans (by simp))

variable (parsers) in
/-- One read of a stream whose first packet covers its header. -/
theorem Expecting.onTempReadComplete (expecting : session.Expecting received)
    (offers : session.Offers bytes) (sound : FirstFrameSound (received ++ bytes))
    : ∃ after, DecoderSession.onTempReadComplete parsers (session.filled bytes) bytes.length
          = .returns after
        ∧ after.Expecting (received ++ bytes) := by
  obtain ⟨offered, armed, fits, -⟩ := offers
  obtain ⟨rfl, data⟩ := expecting.armed offered armed
  obtain ⟨bounded, arrived⟩ := expecting.bounded.arrive fits
  rw [data] at arrived
  have readPos : session.recvBuffer.readPos + bytes.length = (received ++ bytes).length := by
    rw [List.length_append, expecting.readPos]
  by_cases none : bytes = []
  · subst none
    exact ⟨session.filled [], rfl,
      { bounded
        capacity := expecting.capacity
        readPos
        sound := expecting.sound
        armed := fun _ armed => by cases armed }⟩
  · rcases onTempReadComplete_cases parsers (session.filled bytes)
      (List.length_pos_iff.mpr none) bounded with ⟨_, result⟩ | ⟨header, read, complete, result⟩
    · exact ⟨_, result,
        { bounded
          capacity := expecting.capacity
          readPos
          sound := expecting.sound
          armed := fun _ armed => ⟨(Option.some.inj armed).symm, arrived⟩ }⟩
    · have lower := sound header (arrived ▸ read) (arrived ▸ complete)
      have whole := complete.trans (Nat.le_of_eq bounded.length_data)
      rw [parse_of_covers bounded whole lower (PacketHeader.size_lt read)] at result
      refine ⟨_, result, ?_⟩
      exact
        { bounded
          capacity := expecting.capacity
          readPos
          sound := fun dispatch mem => by
            rcases List.mem_append.mp mem with mem | mem
            · exact expecting.sound dispatch mem
            · rw [List.mem_singleton.mp mem]
              refine ⟨lower, fun length same => ?_⟩
              obtain rfl := Option.some.inj same
              exact ⟨by omega, rfl⟩
          armed := fun _ armed => by cases armed }

theorem Expecting.start (world : World) : (recv { world }).Expecting [] where
  bounded := ⟨Nat.le_refl 0, Nat.zero_le _, by simp [recv, RecvBuffer.new]⟩
  capacity := rfl
  readPos := rfl
  sound := by simp [recv]
  armed _ armed := ⟨(Option.some.inj armed).symm, rfl⟩

theorem Expecting.length_le (expecting : session.Expecting received)
    (offers : session.Offers bytes)
    : (received ++ bytes).length ≤ 65536 := by
  obtain ⟨offered, armed, fits, -⟩ := offers
  obtain ⟨rfl, -⟩ := expecting.armed offered armed
  have read := expecting.bounded.read
  have capacity := expecting.capacity
  have readPos := expecting.readPos
  simp only [RecvBuffer.freeSize] at fits
  rw [List.length_append]
  omega

/-- A run keeps the session in order, by induction on the run. -/
theorem Expecting.run {last : DecoderSession World} {chunks : List (List UInt8)}
    (sound : FirstFrameSound (stream.take 65536)) (expecting : session.Expecting received)
    (run : ((Decoder.M2DTempSession parsers).system world).Run session chunks last)
    (isPrefix : received ++ chunks.flatten <+: stream)
    : last.Expecting (received ++ chunks.flatten) := by
  induction run generalizing received with
  | nil => simpa using expecting
  | @cons session middle last bytes rest step _ ih =>
      obtain ⟨offers, _, returned⟩ := step
      rw [List.flatten_cons, ← List.append_assoc] at isPrefix ⊢
      have arrived := List.prefix_take_iff.mpr
        ⟨(List.prefix_append _ _).trans isPrefix, expecting.length_le offers⟩
      obtain ⟨after, same, next⟩ := expecting.onTempReadComplete parsers offers
        (FirstFrameSound.of_prefix sound arrived)
      obtain rfl := Outcome.returns.inj ((Option.some.inj returned).symm.trans same)
      exact ih next isPrefix

end DecoderSession

/-- The session that waits for a process survives a stream exactly when the first packet covers
its header, if it can arrive.
-/
theorem Decoder.temp_survives_iff
    : (Decoder.M2DTempSession parsers).Survives world stream
      ↔ FirstFrameSound (stream.take 65536) := by
  constructor
  · intro survives header read complete
    have room : (stream.take 65536).length ≤ 65536 := List.length_take_le _ _
    have long := PacketHeader.long_of_read read
    have positive : 0 < (stream.take 65536).length := lt_of_lt_of_le (by decide) long
    have offers : (recv { world }).Offers (stream.take 65536) :=
      ⟨_, rfl, room, fun nothing => by simp [nothing] at positive⟩
    obtain ⟨fuel, after, returned⟩ := survives.returns rfl (.nil _) offers
      (List.take_prefix _ _)
    have good := survives.sound rfl (.cons ⟨offers, fuel, returned⟩ (.nil after))
      (by simpa using List.take_prefix _ _)
    obtain ⟨bounded, data⟩ := (Expecting.start world).bounded.arrive room
    have parsed := (onTempReadComplete_cases parsers
      ((recv { world }).filled (stream.take 65536)) positive bounded).resolve_left
        fun waits => by
          have incomplete := (congrArg completePacket data).symm.trans waits.1
          have short := completePacket_eq_none.mp incomplete header read
          exact absurd complete (Nat.not_le.mpr short)
    obtain ⟨other, readOther, -, result⟩ := parsed
    have same : other = header :=
      Option.some.inj (readOther.symm.trans ((congrArg PacketHeader.read data).trans read))
    obtain rfl := Outcome.returns.inj ((Option.some.inj returned).symm.trans result)
    rw [← same]
    exact (good ⟨other, _⟩ (List.mem_append_right _ (List.mem_singleton_self _))).1
  · intro sound
    have follows {first last : DecoderSession World} {chunks : List (List UInt8)}
        (initial : ((Decoder.M2DTempSession parsers).system world).initial first)
        (run : ((Decoder.M2DTempSession parsers).system world).Run first chunks last)
        (isPrefix : chunks.flatten <+: stream)
        : last.Expecting chunks.flatten := by
      obtain rfl : first = recv { world } := initial
      simpa using (Expecting.start world).run sound run (by simpa using isPrefix)
    exact
      { sound := fun initial run isPrefix => (follows initial run isPrefix).sound
        returns := fun initial run offers isPrefix => by
          have expecting := follows initial run ((List.prefix_append _ _).trans isPrefix)
          obtain ⟨after, returned, -⟩ := expecting.onTempReadComplete parsers
            offers (FirstFrameSound.of_prefix sound
              (List.prefix_take_iff.mpr ⟨isPrefix, expecting.length_le offers⟩))
          exact ⟨0, after, congrArg some returned⟩ }

/-- The sessions survive a stream exactly when, as far as it can arrive, the packets up to the
first rejected one cover their headers and have ids in the table; for a new process only the
size of its first packet counts.
-/
theorem decoders_survive_iff (parsers : Parsers World) (world : World) (stream : List UInt8)
    : ((Decoder.HttpIPCSession parsers).Survives world stream
        ↔ SoundStream parsers world (stream.take 65536))
      ∧ ((Decoder.M2DSession parsers).Survives world stream
        ↔ SoundStream parsers world (stream.take 65536))
      ∧ ((Decoder.D2MSession parsers).Survives world stream
        ↔ SoundStream parsers world (stream.take 65536))
      ∧ ((Decoder.M2DTempSession parsers).Survives world stream
        ↔ FirstFrameSound (stream.take 65536)) :=
  ⟨Decoder.survives_iff _ rfl rfl, Decoder.survives_iff _ rfl rfl,
    Decoder.survives_iff _ rfl rfl, Decoder.temp_survives_iff⟩

/-- Parsers that accept whatever they are given. -/
def acceptingParsers : Parsers Unit := fun _ _ _ _ => ((), true)

/-- An id behind the end of the table, and a size of zero. -/
theorem decoders_fail
    : ¬(Decoder.HttpIPCSession acceptingParsers).Survives () [255, 255, 4, 0]
      ∧ ¬(Decoder.M2DSession acceptingParsers).Survives () [103, 0, 0, 0]
      ∧ ¬(Decoder.D2MSession acceptingParsers).Survives () [101, 0, 3, 0]
      ∧ ¬(Decoder.M2DTempSession acceptingParsers).Survives () [100, 0, 0, 0] := by
  refine ⟨fun survives => ?_, fun survives => ?_, fun survives => ?_, fun survives => ?_⟩
  · have sound := (Decoder.survives_iff _ rfl rfl).mp survives
    exact absurd (sound.of_frame rfl (by decide)).2.1 (by decide)
  · have sound := (Decoder.survives_iff _ rfl rfl).mp survives
    exact absurd (sound.of_frame rfl (by decide)).1 (by decide)
  · have sound := (Decoder.survives_iff _ rfl rfl).mp survives
    exact absurd (sound.of_frame rfl (by decide)).1 (by decide)
  · have sound := Decoder.temp_survives_iff.mp survives
    exact absurd (sound _ rfl (by decide)) (by decide)

end ExtractionServer.Ipc
