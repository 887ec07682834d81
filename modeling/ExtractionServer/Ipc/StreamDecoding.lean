import ExtractionServer.Ipc.ReceiveLoop

/-! The receive loops against the plain decoder that splits the whole stream. They agree for
every chunking until 64 KiB have arrived, when the buffer has no room left.
-/

namespace ExtractionServer.Ipc

open Framing Transition

variable {World : Type} {handlers : Handlers World}

-----------------------------------------------------------------------------------------
-- IPC packets as a frame format
-----------------------------------------------------------------------------------------

/-- A header is read off the first four bytes, whatever follows them. -/
theorem PacketHeader.read_append {bytes : List UInt8} (long : PACKET_HEADER_SIZE ≤ bytes.length)
    (more : List UInt8)
    : PacketHeader.read (bytes ++ more) = PacketHeader.read bytes := by
  match bytes, long with
  | b0 :: b1 :: b2 :: b3 :: rest, _ => rfl

/-- Fewer than four bytes hold no header. -/
theorem PacketHeader.read_short {bytes : List UInt8} (short : bytes.length < PACKET_HEADER_SIZE)
    : PacketHeader.read bytes = none := by
  match bytes, short with
  | [], _ => rfl
  | [_], _ => rfl
  | [_, _], _ => rfl
  | [_, _, _], _ => rfl
  | _ :: _ :: _ :: _ :: rest, short =>
      simp only [List.length_cons, PACKET_HEADER_SIZE] at short
      omega

/-- The length of the packet at the front of some bytes, as soon as all of it is there. -/
def completePacket (bytes : List UInt8) : Option Nat :=
  match PacketHeader.read bytes with
  | none => none
  | some header => if bytes.length < header.size then none else some header.size

/-- More bytes do not change the packet at the front. -/
theorem completePacket_append {bytes : List UInt8} {size : Nat}
    (complete : completePacket bytes = some size) (more : List UInt8)
    : completePacket (bytes ++ more) = some size := by
  unfold completePacket at complete ⊢
  have long : PACKET_HEADER_SIZE ≤ bytes.length := by
    by_contra short
    rw [PacketHeader.read_short (Nat.lt_of_not_le short)] at complete
    cases complete
  rw [PacketHeader.read_append long]
  cases read : PacketHeader.read bytes with
  | none =>
      rw [read] at complete
      cases complete
  | some header =>
      simp only [read] at complete ⊢
      split at complete
      · cases complete
      · next fits =>
          have still : ¬(bytes ++ more).length < header.size := by
            rw [List.length_append]
            omega
          rw [if_neg still]
          exact complete

/-- Packets say their total size in the header. -/
def packetFormat : Format UInt8 where
  complete := completePacket
  stable complete more := completePacket_append complete more

/-- A well-formed packet: its header names its true length and a registered id. -/
structure WellFormedPacket (packet : List UInt8) : Prop where
  lower : PACKET_HEADER_SIZE ≤ packet.length
  upper : packet.length ≤ 65535
  header
    : ∃ header, PacketHeader.read packet = some header
        ∧ header.size = packet.length
        ∧ (PacketId.ofNat? header.id).isSome = true

/-- A part of a well-formed packet with at least four bytes has the packet's own header. -/
theorem WellFormedPacket.read_part {packet part : List UInt8} (h : WellFormedPacket packet)
    (isPart : part <+: packet) (long : PACKET_HEADER_SIZE ≤ part.length)
    : ∃ header, PacketHeader.read part = some header ∧ header.size = packet.length := by
  obtain ⟨header, read, size, _⟩ := h.header
  obtain ⟨rest, rfl⟩ := isPart
  exact ⟨header, by rw [← read, PacketHeader.read_append long], size⟩

/-- Well-formed packets are frames of the packet format. -/
theorem WellFormedPacket.frame {packet : List UInt8} (h : WellFormedPacket packet)
    : packetFormat.Frame packet := by
  refine ⟨?_, ?_, ?_⟩
  · rintro rfl
    simpa [PACKET_HEADER_SIZE] using h.lower
  · obtain ⟨header, read, size, _⟩ := h.header
    simp [packetFormat, completePacket, read, size]
  · intro part isPart proper
    simp only [packetFormat, completePacket]
    by_cases long : PACKET_HEADER_SIZE ≤ part.length
    · obtain ⟨header, read, size⟩ := h.read_part isPart long
      have shorter : part.length < packet.length := by
        rcases Nat.lt_or_eq_of_le isPart.length_le with less | equal
        · exact less
        · exact absurd (isPart.eq_of_length equal) proper
      simp only [read, size, shorter, if_true]
    · rw [PacketHeader.read_short (Nat.lt_of_not_le long)]

/-- The process state after a list of packets has been dispatched. -/
def worldAfter (handlers : Handlers World) (world : World) (packets : List (List UInt8))
    : World :=
  packets.foldl (fun world packet => (handlePacket handlers world packet).1) world

/-- Every packet's handler succeeds when the packets are dispatched in this order. -/
def HandledInOrder (handlers : Handlers World) : World → List (List UInt8) → Prop
  | _, [] => True
  | world, packet :: rest =>
      (handlePacket handlers world packet).2 = true
      ∧ HandledInOrder handlers (handlePacket handlers world packet).1 rest

/-- Success in order splits at any point, by induction on the first part. -/
theorem handledInOrder_append {world : World} {left right : List (List UInt8)}
    : HandledInOrder handlers world (left ++ right)
      ↔ HandledInOrder handlers world left
        ∧ HandledInOrder handlers (worldAfter handlers world left) right := by
  induction left generalizing world with
  | nil => simp [HandledInOrder, worldAfter]
  | cons packet rest ih => simp [HandledInOrder, worldAfter, ih, and_assoc]

/-- What succeeds in order succeeds up to any point. -/
theorem HandledInOrder.of_prefix {world : World} {whole packets : List (List UInt8)}
    (handled : HandledInOrder handlers world packets) (isPrefix : whole <+: packets)
    : HandledInOrder handlers world whole := by
  obtain ⟨rest, rfl⟩ := isPrefix
  exact (handledInOrder_append.mp handled).1

/-- Success in order means that no packet is rejected after those before it, by induction on
the packets.
-/
theorem handledInOrder_iff {world : World} {packets : List (List UInt8)}
    : HandledInOrder handlers world packets
      ↔ ∀ done packet rest, packets = done ++ packet :: rest →
          (handlePacket handlers (worldAfter handlers world done) packet).2 = true := by
  constructor
  · rintro handled done packet rest rfl
    exact (handledInOrder_append.mp handled).2.1
  · intro each
    induction packets generalizing world with
    | nil => trivial
    | cons first others ih =>
        refine ⟨each [] first others rfl, ih fun done packet rest same => ?_⟩
        exact each (first :: done) packet rest (by rw [same, List.cons_append])

/-- Where some packet is rejected there is a first one. -/
theorem exists_rejected {world : World} {packets : List (List UInt8)}
    (fails : ¬HandledInOrder handlers world packets)
    : ∃ done packet rest, packets = done ++ packet :: rest
        ∧ HandledInOrder handlers world done
        ∧ (handlePacket handlers (worldAfter handlers world done) packet).2 = false := by
  induction packets generalizing world with
  | nil => exact absurd trivial fails
  | cons first others ih =>
      cases result : (handlePacket handlers world first).2 with
      | false => exact ⟨[], first, others, rfl, trivial, result⟩
      | true =>
          obtain ⟨done, packet, rest, rfl, handled, rejected⟩ :=
            ih fun handled => fails ⟨result, handled⟩
          exact ⟨first :: done, packet, rest, rfl, ⟨result, handled⟩, rejected⟩

-----------------------------------------------------------------------------------------
-- One run of the loop
-----------------------------------------------------------------------------------------

/-- The buffer's positions lie in its memory. -/
structure RecvBuffer.Bounded (recv : RecvBuffer) : Prop where
  processed : recv.processedPos ≤ recv.readPos
  read : recv.readPos ≤ recv.capacity
  memory : recv.buffer.length = recv.capacity

/-- The buffered bytes are as many as the positions say. -/
theorem RecvBuffer.Bounded.length_data {recv : RecvBuffer} (h : recv.Bounded)
    : recv.data.length = recv.dataSize := by
  have := h.processed
  have := h.read
  have := h.memory
  simp only [data, dataSize, List.length_take, List.length_drop]
  omega

/-- The memory behind `ProcessedPos()` begins with the buffered bytes. -/
theorem RecvBuffer.drop_eq_data (recv : RecvBuffer)
    : recv.buffer.drop recv.processedPos
      = recv.data ++ (recv.buffer.drop recv.processedPos).drop recv.dataSize :=
  (List.take_append_drop _ _).symm

/-- The session when the loop has dispatched some packets and stopped at the bytes behind
them.
-/
def IpcSession.advanced (handlers : Handlers World) (session : IpcSession World)
    (packets : List (List UInt8)) : IpcSession World :=
  { session with
    recvBuffer :=
      { session.recvBuffer with
        processedPos := session.recvBuffer.processedPos + packets.flatten.length }
    world := worldAfter handlers session.world packets
    calls := session.calls ++ packets }

/-- Advancing twice is advancing over all packets. -/
theorem IpcSession.advanced_cons (session : IpcSession World) (packet : List UInt8)
    (others : List (List UInt8))
    : (session.advanced handlers [packet]).advanced handlers others
      = session.advanced handlers (packet :: others) := by
  simp [advanced, worldAfter, Nat.add_assoc]

/-- One iteration on a whole packet: it is dispatched, and the loop goes on behind it if its
handler succeeds.
-/
theorem IpcSession.parseLoop_packet (handlers : Handlers World)
    (session : IpcSession World) (fuel : Nat) {packet more : List UInt8}
    (bounded : session.recvBuffer.Bounded)
    (correct : WellFormedPacket packet) (data : session.recvBuffer.data = packet ++ more)
    : parseLoop handlers (fuel + 1) session
        = (if (handlePacket handlers session.world packet).2 then
            parseLoop handlers fuel (session.advanced handlers [packet])
          else
            some
              { session with
                world := (handlePacket handlers session.world packet).1
                calls := session.calls ++ [packet] })
      ∧ (session.advanced handlers [packet]).recvBuffer.Bounded
      ∧ (session.advanced handlers [packet]).recvBuffer.data = more := by
  obtain ⟨header, read, whole, _⟩ := correct.header
  have lower := correct.lower
  have size := bounded.length_data
  rw [data] at size
  simp only [List.length_append] at size
  have front : session.recvBuffer.buffer.drop session.recvBuffer.processedPos
      = packet ++ (more
        ++ (session.recvBuffer.buffer.drop session.recvBuffer.processedPos).drop
          session.recvBuffer.dataSize) := by
    conv_lhs => rw [session.recvBuffer.drop_eq_data, data]
    simp
  have cut : (session.recvBuffer.buffer.drop session.recvBuffer.processedPos).take
      packet.length = packet := by
    rw [front, List.take_left]
  have processed : session.recvBuffer.onProcess packet.length
      = { session.recvBuffer with
          processedPos := session.recvBuffer.processedPos + packet.length } := by
    rw [RecvBuffer.onProcess, if_neg (by omega)]
  have dataSize : session.recvBuffer.readPos
        - (session.recvBuffer.processedPos + packet.length)
      = session.recvBuffer.dataSize - packet.length := by
    simp only [RecvBuffer.dataSize]
    omega
  refine ⟨?_, ?_, ?_⟩
  · simp only [parseLoop]
    rw [if_neg (by omega), front, PacketHeader.read_append lower, read]
    simp only [whole]
    rw [if_neg (by omega), ← front, cut, processed]
    simp [advanced, worldAfter]
  · have := bounded.processed
    refine ⟨?_, bounded.read, bounded.memory⟩
    simp only [RecvBuffer.dataSize] at size
    simp only [advanced, List.flatten_cons, List.flatten_nil, List.append_nil]
    omega
  · simp only [advanced, RecvBuffer.data, RecvBuffer.dataSize, List.flatten_cons,
      List.flatten_nil, List.append_nil, dataSize]
    rw [← List.drop_drop, front, List.drop_left, List.take_append_of_le_length (by omega),
      List.take_of_length_le (by omega)]

/-- The loop dispatches the whole packets in the buffer and registers the next receive, by
induction on these packets.
-/
theorem IpcSession.parseLoop_received (session : IpcSession World) (fuel : Nat)
    {frames done : List (List UInt8)} {part : List UInt8}
    (bounded : session.recvBuffer.Bounded)
    (wellFormed : ∀ packet ∈ frames, WellFormedPacket packet)
    (handled : HandledInOrder handlers session.world done)
    (received : Received frames done part)
    (data : session.recvBuffer.data = done.flatten ++ part) (enough : done.length < fuel)
    : parseLoop handlers fuel session = some (session.advanced handlers done).recv := by
  induction done generalizing frames fuel session with
  | nil =>
      obtain ⟨fuel, rfl⟩ : ∃ less, fuel = less + 1 := ⟨fuel - 1, by omega⟩
      have still : session.advanced handlers [] = session := by
        simp [advanced, worldAfter]
      have size := bounded.length_data
      simp only [List.flatten_nil, List.nil_append] at data
      rw [still]
      simp only [parseLoop]
      split
      · rfl
      · next long =>
          rw [data] at size
          cases frames with
          | nil =>
              rw [received.last rfl] at size
              simp only [List.length_nil, PACKET_HEADER_SIZE] at size long
              omega
          | cons frame rest =>
              obtain ⟨isPart, proper⟩ := received.next frame rest rfl
              obtain ⟨header, read, whole⟩ :=
                (wellFormed frame (by simp)).read_part isPart (by omega)
              have shorter : part.length < frame.length := by
                rcases Nat.lt_or_eq_of_le isPart.length_le with less | equal
                · exact less
                · exact absurd (isPart.eq_of_length equal) proper
              rw [session.recvBuffer.drop_eq_data, data,
                PacketHeader.read_append (by omega), read]
              simp only
              rw [if_pos (by omega)]
  | cons packet others ih =>
      obtain ⟨fuel, rfl⟩ : ∃ less, fuel = less + 1 := ⟨fuel - 1, by omega⟩
      obtain ⟨tail, rfl⟩ := received.isPrefix
      rw [List.flatten_cons, List.append_assoc] at data
      obtain ⟨iteration, keeps, rest⟩ :=
        parseLoop_packet handlers session fuel bounded
          (wellFormed packet (by simp)) data
      have shorter : Received (others ++ tail) others part := by
        refine ⟨List.prefix_append _ _, ?_, ?_⟩
        · intro frame more same
          exact received.next frame more (by simp [same])
        · intro same
          exact received.last (by simp [← same])
      rw [iteration, if_pos handled.1, ih (session.advanced handlers [packet]) fuel keeps
        (fun other mem => wellFormed other (by simp [List.mem_append.mp mem]))
        handled.2 shorter rest (by simpa using enough), advanced_cons]

/-- A rejected packet ends the loop without a receive, by induction on the packets before
it.
-/
theorem IpcSession.parseLoop_rejected (session : IpcSession World) (fuel : Nat)
    {done : List (List UInt8)} {packet : List UInt8} (more : List UInt8)
    (bounded : session.recvBuffer.Bounded)
    (wellFormed : ∀ other ∈ done ++ [packet], WellFormedPacket other)
    (handled : HandledInOrder handlers session.world done)
    (rejected : (handlePacket handlers (worldAfter handlers session.world done) packet).2
      = false)
    (data : session.recvBuffer.data = done.flatten ++ (packet ++ more))
    (enough : done.length < fuel)
    : ∃ after, parseLoop handlers fuel session = some after
        ∧ after.armed = session.armed := by
  induction done generalizing fuel session with
  | nil =>
      obtain ⟨fuel, rfl⟩ : ∃ less, fuel = less + 1 := ⟨fuel - 1, by omega⟩
      obtain ⟨iteration, _, _⟩ :=
        parseLoop_packet handlers session fuel bounded
          (wellFormed packet (by simp)) data
      have refused : (handlePacket handlers session.world packet).2 ≠ true := by
        simpa [worldAfter] using rejected
      rw [iteration, if_neg refused]
      exact ⟨_, rfl, rfl⟩
  | cons first others ih =>
      obtain ⟨fuel, rfl⟩ : ∃ less, fuel = less + 1 := ⟨fuel - 1, by omega⟩
      rw [List.flatten_cons, List.append_assoc] at data
      obtain ⟨iteration, keeps, rest⟩ :=
        parseLoop_packet handlers session fuel bounded
          (wellFormed first (by simp)) data
      rw [iteration, if_pos handled.1]
      exact ih (session.advanced handlers [first]) fuel keeps
        (fun other mem => wellFormed other (List.mem_cons_of_mem _ mem)) handled.2 rejected
        rest (by simpa using enough)

-----------------------------------------------------------------------------------------
-- Runs of deliveries
-----------------------------------------------------------------------------------------

/-- The session when a prefix of the stream has arrived: its whole packets were dispatched in
order, the rest is buffered and a receive is registered for all the room that is left.
-/
structure IpcSession.Progress (handlers : Handlers World) (world : World)
    (frames done : List (List UInt8)) (part : List UInt8) (session : IpcSession World)
    : Prop where
  received : Received frames done part
  stored : session.recvBuffer.buffer.take session.recvBuffer.readPos = done.flatten ++ part
  processedPos : session.recvBuffer.processedPos = done.flatten.length
  bounded : session.recvBuffer.Bounded
  capacity : session.recvBuffer.capacity = 65536
  calls : session.calls = done
  world : session.world = worldAfter handlers world done
  armed : session.armed = some session.recvBuffer.freeSize

/-- The read position counts the bytes that have arrived. -/
theorem IpcSession.Progress.readPos {world : World} {frames done : List (List UInt8)}
    {part : List UInt8} {session : IpcSession World}
    (progress : session.Progress handlers world frames done part)
    : session.recvBuffer.readPos = (done.flatten ++ part).length := by
  have := progress.bounded.read
  have := progress.bounded.memory
  rw [← progress.stored, List.length_take]
  omega

/-- A fresh session has registered a receive for 64 KiB. -/
theorem IpcSession.Progress.fresh (handlers : Handlers World) (world : World)
    {frames : List (List UInt8)}
    (nonempty : ∀ frame ∈ frames, frame ≠ [])
    : (recv { world }).Progress handlers world frames [] [] := by
  refine
    { received := ⟨List.nil_prefix, ?_, fun _ => rfl⟩
      stored := rfl
      processedPos := rfl
      bounded := ⟨Nat.le_refl 0, Nat.zero_le _, by simp [recv, RecvBuffer.new]⟩
      capacity := rfl
      calls := rfl
      world := rfl
      armed := rfl }
  rintro frame rest rfl
  exact ⟨List.nil_prefix, (nonempty frame (by simp)).symm⟩

/-- What a completed read leaves in the buffer: the part that was there and the new bytes. -/
theorem IpcSession.Progress.filled {world : World} {frames done : List (List UInt8)}
    {part bytes : List UInt8} {session : IpcSession World}
    (progress : session.Progress handlers world frames done part)
    (offers : session.Offers bytes)
    : (session.recvBuffer.write bytes).buffer.take
          (session.recvBuffer.readPos + bytes.length)
        = done.flatten ++ part ++ bytes
      ∧ ((session.recvBuffer.write bytes).onRead bytes.length).Bounded
      ∧ ((session.recvBuffer.write bytes).onRead bytes.length).data = part ++ bytes := by
  obtain ⟨offered, armed, fits, _⟩ := offers
  rw [progress.armed] at armed
  obtain rfl := Option.some.inj armed
  have processed := progress.bounded.processed
  have read := progress.bounded.read
  have memory := progress.bounded.memory
  simp only [RecvBuffer.freeSize] at fits
  have storedAfter : (session.recvBuffer.write bytes).buffer.take
        (session.recvBuffer.readPos + bytes.length)
      = done.flatten ++ part ++ bytes := by
    have front : (session.recvBuffer.buffer.take session.recvBuffer.readPos ++ bytes).length
        = session.recvBuffer.readPos + bytes.length := by
      simp only [List.length_append, List.length_take]
      omega
    rw [RecvBuffer.write, ← front, List.take_left, progress.stored]
  refine ⟨storedAfter, ⟨?_, ?_, ?_⟩, ?_⟩
  · simp only [RecvBuffer.onRead, RecvBuffer.write]
    omega
  · simp only [RecvBuffer.onRead, RecvBuffer.write]
    omega
  · simp only [RecvBuffer.onRead, RecvBuffer.write, List.length_append, List.length_take,
      List.length_drop]
    omega
  · simp only [RecvBuffer.data, RecvBuffer.dataSize, RecvBuffer.onRead]
    rw [show (session.recvBuffer.write bytes).readPos = session.recvBuffer.readPos from rfl,
      show (session.recvBuffer.write bytes).processedPos
        = session.recvBuffer.processedPos from rfl,
      ← List.drop_take, storedAfter, progress.processedPos, List.append_assoc,
      List.drop_left]

/-- One completed read of at least one byte dispatches the packets it completes. -/
theorem IpcSession.Progress.deliver {world : World} {frames done : List (List UInt8)}
    {part bytes : List UInt8} {session : IpcSession World}
    (progress : session.Progress handlers world frames done part)
    (wellFormed : ∀ packet ∈ frames, WellFormedPacket packet)
    (handled : ∀ whole, whole <+: frames →
      whole.flatten <+: done.flatten ++ part ++ bytes → HandledInOrder handlers world whole)
    (offers : session.Offers bytes) (nonempty : bytes ≠ [])
    (isPrefix : done.flatten ++ part ++ bytes <+: frames.flatten)
    : ∃ after new later,
        onReadComplete handlers (session.filled bytes) bytes.length = some after
        ∧ part ++ bytes = new.flatten ++ later
        ∧ after.Progress handlers world frames (done ++ new) later := by
  obtain ⟨storedAfter, boundedAfter, data⟩ := progress.filled offers
  obtain ⟨rest, new, later, rfl, split, next, whole⟩ := progress.received.extend isPrefix
  have positive : 0 < bytes.length := List.length_pos_iff.mpr nonempty
  rw [split] at data
  have total : done.flatten ++ part ++ bytes = (done ++ new).flatten ++ later := by
    rw [List.append_assoc, split]
    simp
  have handledNew := (handledInOrder_append.mp
    (handled (done ++ new) whole.isPrefix (total ▸ List.prefix_append _ _))).2
  obtain ⟨others, rfl⟩ := next.isPrefix
  have wellFormedRest : ∀ packet ∈ new ++ others, WellFormedPacket packet :=
    fun packet mem => wellFormed packet (List.mem_append_right _ mem)
  have count : new.length
      ≤ ((session.recvBuffer.write bytes).onRead bytes.length).dataSize := by
    rw [← boundedAfter.length_data, data, List.length_append]
    refine Nat.le_trans (length_le_flatten fun packet mem => ?_) (Nat.le_add_right _ _)
    exact (wellFormedRest packet (List.mem_append_left _ mem)).frame.nonempty
  let read' : IpcSession World :=
    { session.filled bytes with
      recvBuffer := (session.recvBuffer.write bytes).onRead bytes.length }
  have loop : onReadComplete handlers (session.filled bytes) bytes.length
      = some (read'.advanced handlers new).recv := by
    rw [onReadComplete, if_pos positive]
    refine parseLoop_received read' _ boundedAfter wellFormedRest ?_ next data
      (Nat.lt_succ_of_le count)
    simpa only [read', IpcSession.filled, progress.world] using handledNew
  refine ⟨_, new, later, loop, split, ?_⟩
  refine
    { received := whole
      stored := ?_
      processedPos := ?_
      bounded := ⟨?_, boundedAfter.read, boundedAfter.memory⟩
      capacity := progress.capacity
      calls := ?_
      world := ?_
      armed := rfl }
  · rw [← total]
    exact storedAfter
  · simp [recv, advanced, read', RecvBuffer.onRead, RecvBuffer.write, progress.processedPos]
  · have := boundedAfter.length_data
    rw [data, List.length_append] at this
    simp only [recv, advanced, read', RecvBuffer.dataSize] at this ⊢
    have := boundedAfter.processed
    omega
  · simp [recv, advanced, read', IpcSession.filled, progress.calls]
  · simp only [recv, advanced, read', IpcSession.filled, progress.world, worldAfter,
      List.foldl_append]

/-- What the loop has dispatched and what it still buffers is the plain split of all bytes
that have arrived, however they were cut.
-/
theorem IpcSession.Progress.split {world : World} {frames done : List (List UInt8)}
    {part : List UInt8} {session : IpcSession World}
    (progress : session.Progress handlers world frames done part)
    (wellFormed : ∀ packet ∈ frames, WellFormedPacket packet) {fuel : Nat}
    (enough : done.length ≤ fuel)
    : packetFormat.split fuel (done.flatten ++ part) = (session.calls, part) := by
  rw [progress.calls]
  exact Format.split_received (fun packet mem => (wellFormed packet mem).frame) rfl
    progress.received enough

/-- While the stream is shorter than the buffer a receive is always registered for at least
one byte.
-/
theorem IpcSession.Progress.accepting {world : World} {frames done : List (List UInt8)}
    {part : List UInt8} {session : IpcSession World}
    (progress : session.Progress handlers world frames done part)
    (room : done.flatten.length + part.length < 65536)
    : ∃ offered, session.armed = some offered ∧ 0 < offered := by
  refine ⟨_, progress.armed, ?_⟩
  have := progress.readPos
  rw [List.length_append] at this
  simp only [RecvBuffer.freeSize, progress.capacity]
  omega

/-- Every chunking of a prefix that leaves room in the buffer is decoded, by induction on the
run of reads.
-/
theorem IpcSession.Progress.run {loop : ReceiveLoop World} {world : World}
    (callback : loop.onReadComplete = IpcSession.onReadComplete handlers)
    {frames done : List (List UInt8)} {part : List UInt8} {chunks : List (List UInt8)}
    {session last : IpcSession World}
    (progress : session.Progress handlers world frames done part)
    (wellFormed : ∀ packet ∈ frames, WellFormedPacket packet)
    (handled : HandledInOrder handlers world frames)
    (run : (loop.system world).Run session chunks last)
    (isPrefix : done.flatten ++ part ++ chunks.flatten <+: frames.flatten)
    (room : frames.flatten.length < 65536)
    : ∃ done' part',
        done'.flatten ++ part' = done.flatten ++ part ++ chunks.flatten
        ∧ last.Progress handlers world frames done' part' := by
  induction run generalizing done part with
  | nil => exact ⟨done, part, by simp, progress⟩
  | @cons session middle last bytes rest step _ ih =>
      obtain ⟨offers, completed⟩ := step
      rw [callback] at completed
      rw [List.flatten_cons, ← List.append_assoc] at isPrefix
      have arrived := (List.prefix_append _ _).trans isPrefix
      have nonempty : bytes ≠ [] := by
        rintro rfl
        have short := arrived.length_le
        simp only [List.append_nil, List.length_append] at short
        obtain ⟨offered, armed, positive⟩ := progress.accepting (by omega)
        obtain ⟨offered', armed', _, none⟩ := offers
        rw [armed] at armed'
        cases armed'
        exact absurd (none rfl) (Nat.ne_of_gt positive)
      obtain ⟨after, new, later, result, split, next⟩ :=
        progress.deliver wellFormed (fun _ part _ => handled.of_prefix part) offers nonempty
          arrived
      rw [result] at completed
      cases completed
      have total : done.flatten ++ part ++ bytes = (done ++ new).flatten ++ later := by
        rw [List.append_assoc, split]
        simp
      rw [total] at isPrefix
      obtain ⟨done', part', same, finished⟩ := ih next isPrefix
      refine ⟨done', part', ?_, finished⟩
      rw [same, ← total, List.flatten_cons, List.append_assoc]

-----------------------------------------------------------------------------------------
-- Exactly when the loops decode a stream
-----------------------------------------------------------------------------------------

/-- For every way the kernel splits the stream: a receive for at least one byte stays
registered, every callback returns, and when all bytes have arrived the handlers have been
called with exactly the packets sent, in order.
-/
structure ReceiveLoop.Decodes (loop : ReceiveLoop World) (world : World)
    (packets : List (List UInt8)) : Prop where
  accepting
    : ∀ {first chunks last}, (loop.system world).initial first →
        (loop.system world).Run first chunks last →
        chunks.flatten <+: packets.flatten →
        ∃ offered, last.armed = some offered ∧ 0 < offered
  returns
    : ∀ {first chunks last bytes}, (loop.system world).initial first →
        (loop.system world).Run first chunks last →
        last.Offers bytes →
        chunks.flatten ++ bytes <+: packets.flatten →
        ∃ after, loop.onReadComplete (last.filled bytes) bytes.length = some after
  complete
    : ∀ {first chunks last}, (loop.system world).initial first →
        (loop.system world).Run first chunks last →
        chunks.flatten = packets.flatten →
        last.calls = packets

/-- The loop decodes a stream of accepted packets exactly when the stream is shorter than the
receive buffer. Witness: progress in one direction, one read of 64 KiB in the other.
-/
theorem IpcSession.decodes_iff (handlers : Handlers World) (world : World)
    {packets : List (List UInt8)}
    (wellFormed : ∀ packet ∈ packets, WellFormedPacket packet)
    (handled : HandledInOrder handlers world packets)
    : (ReceiveLoop.mk recv (onReadComplete handlers)).Decodes world packets
      ↔ packets.flatten.length < 65536 := by
  have start := Progress.fresh handlers world
    fun packet mem => (wellFormed packet mem).frame.nonempty
  constructor
  · intro decodes
    by_contra full
    have taken : (packets.flatten.take 65536).length = 65536 := by
      rw [List.length_take]
      omega
    have offers : (recv ({ world } : IpcSession World)).Offers (packets.flatten.take 65536) :=
      ⟨_, rfl, by rw [taken]; exact Nat.le_refl _, fun none => by simp [none] at taken⟩
    obtain ⟨after, new, later, result, split, progress⟩ :=
      start.deliver wellFormed (fun _ part _ => handled.of_prefix part) offers
        (fun none => by simp [none] at taken) (List.take_prefix _ _)
    obtain ⟨offered, armed, positive⟩ := decodes.accepting rfl
      (.cons ⟨offers, result⟩ (.nil after)) (by simpa using List.take_prefix _ _)
    rw [progress.armed] at armed
    cases armed
    have filled := progress.readPos
    rw [List.flatten_append, List.flatten_nil, List.nil_append, ← split, List.nil_append,
      taken] at filled
    simp [RecvBuffer.freeSize, progress.capacity, filled] at positive
  · intro room
    have progress {first last : IpcSession World} {chunks : List (List UInt8)}
        (initial : ((ReceiveLoop.mk recv (onReadComplete handlers)).system world).initial first)
        (run : ((ReceiveLoop.mk recv (onReadComplete handlers)).system world).Run
          first chunks last)
        (isPrefix : chunks.flatten <+: packets.flatten)
        : ∃ done part, done.flatten ++ part = chunks.flatten
            ∧ last.Progress handlers world packets done part := by
      cases initial
      simpa using start.run rfl wellFormed handled run (by simpa using isPrefix) room
    refine ⟨?_, ?_, ?_⟩
    · intro first chunks last initial run isPrefix
      obtain ⟨done, part, same, reached⟩ := progress initial run isPrefix
      refine reached.accepting ?_
      have := isPrefix.length_le
      rw [← same, List.length_append] at this
      omega
    · intro first chunks last bytes initial run offers isPrefix
      obtain ⟨done, part, same, reached⟩ :=
        progress initial run ((List.prefix_append _ _).trans isPrefix)
      by_cases none : bytes = []
      · subst none
        exact ⟨_, rfl⟩
      · obtain ⟨after, _, _, result, _⟩ :=
          reached.deliver wellFormed (fun _ part _ => handled.of_prefix part) offers none
            (by rwa [same])
        exact ⟨after, result⟩
    · intro first chunks last initial run all
      obtain ⟨done, part, same, reached⟩ :=
        progress initial run (all ▸ List.prefix_refl _)
      have plain := reached.split wellFormed (Nat.le_add_right done.length packets.length)
      rw [same, all, Format.split_stream (fun packet mem => (wellFormed packet mem).frame) rfl
        (Nat.le_add_left _ _)] at plain
      exact (Prod.mk.inj plain).1.symm

/-- A session that reads a rejected packet together with all packets before it registers no
further receive.
-/
theorem IpcSession.onReadComplete_rejected {world : World} {done : List (List UInt8)}
    {packet : List UInt8} (wellFormed : ∀ other ∈ done ++ [packet], WellFormedPacket other)
    (handled : HandledInOrder handlers world done)
    (rejected : (handlePacket handlers (worldAfter handlers world done) packet).2 = false)
    (offers : (recv ({ world } : IpcSession World)).Offers (done ++ [packet]).flatten)
    : ∃ after,
        onReadComplete handlers ((recv { world }).filled (done ++ [packet]).flatten)
          (done ++ [packet]).flatten.length = some after
        ∧ after.armed = none := by
  have nonempty : ∀ frame ∈ done ++ [packet], frame ≠ [] :=
    fun frame mem => (wellFormed frame mem).frame.nonempty
  have start := Progress.fresh handlers world nonempty
  obtain ⟨_, bounded, data⟩ := start.filled offers
  have count := length_le_flatten nonempty
  have positive : 0 < (done ++ [packet]).flatten.length := by
    rw [List.length_append, List.length_singleton] at count
    omega
  have size := bounded.length_data
  rw [data, List.nil_append] at size
  rw [onReadComplete, if_pos positive]
  refine parseLoop_rejected _ _ [] bounded wellFormed handled rejected ?_ ?_
  · refine data.trans ?_
    simp
  · rw [List.length_append, List.length_singleton] at count
    refine Nat.lt_succ_of_le (Nat.le_of_succ_le (count.trans (Nat.le_of_eq size)))

/-- The loop decodes a stream exactly when every packet is accepted in its turn and the
stream is shorter than the receive buffer. Witness: the read that ends with the first
rejected packet, or fills the buffer before it.
-/
theorem IpcSession.decodes_iff_handled (handlers : Handlers World) (world : World)
    {packets : List (List UInt8)}
    (wellFormed : ∀ packet ∈ packets, WellFormedPacket packet)
    : (ReceiveLoop.mk recv (onReadComplete handlers)).Decodes world packets
      ↔ HandledInOrder handlers world packets ∧ packets.flatten.length < 65536 := by
  constructor
  · intro decodes
    suffices handled : HandledInOrder handlers world packets from
      ⟨handled, (decodes_iff handlers world wellFormed handled).mp decodes⟩
    by_contra fails
    obtain ⟨done, packet, rest, rfl, handled, rejected⟩ := exists_rejected fails
    have stream : (done ++ [packet]).flatten <+: (done ++ packet :: rest).flatten := by
      simp
    have accepting {bytes : List UInt8} {after : IpcSession World}
        (offers : (recv ({ world } : IpcSession World)).Offers bytes)
        (isPrefix : bytes <+: (done ++ [packet]).flatten)
        (result : onReadComplete handlers ((recv { world }).filled bytes) bytes.length
          = some after)
        : ∃ offered, after.armed = some offered ∧ 0 < offered :=
      decodes.accepting rfl (.cons ⟨offers, result⟩ (.nil after))
        (by simpa using isPrefix.trans stream)
    have known : ∀ other ∈ done ++ [packet], WellFormedPacket other := fun other mem =>
      wellFormed other (by simp at mem ⊢; tauto)
    have nonempty : ∀ frame ∈ done ++ [packet], frame ≠ [] :=
      fun frame mem => (known frame mem).frame.nonempty
    by_cases fits : (done ++ [packet]).flatten.length ≤ 65536
    · have offers : (recv ({ world } : IpcSession World)).Offers
          (done ++ [packet]).flatten := by
        refine ⟨_, rfl, fits, fun empty => ?_⟩
        exact absurd (List.flatten_eq_nil_iff.mp empty packet (by simp))
          (nonempty packet (by simp))
      obtain ⟨after, result, unarmed⟩ :=
        onReadComplete_rejected known handled rejected offers
      obtain ⟨offered, armed, _⟩ := accepting offers (List.prefix_refl _) result
      rw [unarmed] at armed
      cases armed
    · have taken : ((done ++ [packet]).flatten.take 65536).length = 65536 := by
        rw [List.length_take]
        omega
      have something : (done ++ [packet]).flatten.take 65536 ≠ [] := by
        intro nothing
        rw [nothing] at taken
        cases taken
      have offers : (recv ({ world } : IpcSession World)).Offers
          ((done ++ [packet]).flatten.take 65536) :=
        ⟨_, rfl, Nat.le_of_eq taken, fun nothing => absurd nothing something⟩
      have before : ∀ whole, whole <+: done ++ [packet] →
          whole.flatten <+: (done ++ [packet]).flatten.take 65536 →
          HandledInOrder handlers world whole := by
        intro whole isPrefix arrived
        rcases List.prefix_concat_iff.mp isPrefix with rfl | earlier
        · have := arrived.length_le
          omega
        · exact handled.of_prefix earlier
      obtain ⟨after, new, later, result, split, progress⟩ :=
        (Progress.fresh handlers world nonempty).deliver known before offers something
          (List.take_prefix _ _)
      obtain ⟨offered, armed, positive⟩ := accepting offers (List.take_prefix _ _) result
      rw [progress.armed] at armed
      cases armed
      have filled := progress.readPos
      rw [List.flatten_append, List.flatten_nil, List.nil_append, ← split, List.nil_append,
        taken] at filled
      simp [RecvBuffer.freeSize, progress.capacity, filled] at positive
  · rintro ⟨handled, room⟩
    exact (decodes_iff handlers world wellFormed handled).mpr room

/-- Each of the three receive loops decodes a stream of accepted packets, whatever its
chunking, exactly when the stream is shorter than the receive buffer, which is never cleaned.
-/
theorem receiveLoops_decode_iff (handlers : Handlers World) (world : World)
    (packets : List (List UInt8))
    (wellFormed : ∀ packet ∈ packets, WellFormedPacket packet)
    (handled : HandledInOrder handlers world packets)
    : ((HttpIPCSession handlers).Decodes world packets ↔ packets.flatten.length < 65536)
      ∧ ((M2DSession handlers).Decodes world packets ↔ packets.flatten.length < 65536)
      ∧ ((D2MSession handlers).Decodes world packets ↔ packets.flatten.length < 65536) := by
  have loop := IpcSession.decodes_iff handlers world wellFormed handled
  exact ⟨loop, loop, loop⟩

/-- Handlers that always succeed. -/
def acceptingHandlers : Handlers Unit := fun _ _ _ => ((), true)

/-- An `H2M_WELCOME` packet without payload. -/
def welcomePacket : List UInt8 := [1, 0, 4, 0]

theorem welcomePacket_wellFormed : WellFormedPacket welcomePacket :=
  ⟨by decide, by decide, { id := 1, size := 4 }, rfl, rfl, rfl⟩

/-- Accepting handlers accept every sequence of welcome packets, by induction on its length. -/
theorem welcomePackets_handled (count : Nat)
    : HandledInOrder acceptingHandlers () (List.replicate count welcomePacket) := by
  induction count with
  | zero => trivial
  | succ count ih => exact ⟨rfl, ih⟩

theorem welcomePackets_wellFormed (count : Nat)
    : ∀ packet ∈ List.replicate count welcomePacket, WellFormedPacket packet := by
  intro packet mem
  rw [List.eq_of_mem_replicate mem]
  exact welcomePacket_wellFormed

/-- Welcome packets have four bytes each, by induction on their number. -/
theorem welcomePackets_length (count : Nat)
    : (List.replicate count welcomePacket).flatten.length = 4 * count := by
  induction count with
  | zero => rfl
  | succ count ih =>
      rw [List.replicate_succ, List.flatten_cons, List.length_append, ih]
      simp only [welcomePacket, List.length_cons, List.length_nil]
      omega

/-- Three packets are decoded. -/
theorem receiveLoops_decode_three
    : (HttpIPCSession acceptingHandlers).Decodes () (List.replicate 3 welcomePacket) :=
  ((receiveLoops_decode_iff acceptingHandlers () (List.replicate 3 welcomePacket)
    (welcomePackets_wellFormed 3) (welcomePackets_handled 3)).1).mpr (by decide)

/-- After 16384 packets of four bytes no loop accepts another byte. -/
theorem receiveLoops_stop
    : ¬(HttpIPCSession acceptingHandlers).Decodes () (List.replicate 16384 welcomePacket)
      ∧ ¬(M2DSession acceptingHandlers).Decodes () (List.replicate 16384 welcomePacket)
      ∧ ¬(D2MSession acceptingHandlers).Decodes () (List.replicate 16384 welcomePacket) := by
  have stops : ¬(ReceiveLoop.mk IpcSession.recv
      (IpcSession.onReadComplete acceptingHandlers)).Decodes ()
        (List.replicate 16384 welcomePacket) := by
    rw [IpcSession.decodes_iff acceptingHandlers () (welcomePackets_wellFormed 16384)
      (welcomePackets_handled 16384), welcomePackets_length]
    omega
  exact ⟨stops, stops, stops⟩

end ExtractionServer.Ipc
