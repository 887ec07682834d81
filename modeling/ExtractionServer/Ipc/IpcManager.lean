import ExtractionServer.Ipc.StreamDecoding

/-! The HTTP server's end of the IPC socket. Its buffer grows with every chunk, so its loop has
no limit of its own, but a header that announces less than a header empties the buffer.
-/

namespace ExtractionServer.Ipc

open Framing

-----------------------------------------------------------------------------------------
-- Packets on both sides
-----------------------------------------------------------------------------------------

/-- `writeUInt16LE`, which throws if the value is out of range. -/
def writeUInt16LE (value : Nat) : Option (List UInt8) :=
  if value ≤ 65535 then some [UInt8.ofNat value, UInt8.ofNat (value / 256)] else none

/-- `makePacket` of the HTTP server. -/
def makePacket (pktId : Nat) (payload : List UInt8) : Option (List UInt8) :=
  match writeUInt16LE pktId, writeUInt16LE (4 + payload.length) with
  | some id, some totalSize => some (id ++ totalSize ++ payload)
  | _, _ => none

/-- `PacketHandler::MakeSendBuffer`, with the serialized message. A message whose packet is too
long for 16 bits is cut off or overruns the buffer; that is left undefined.
-/
def makeSendBuffer (pktId : UInt16) (message : List UInt8) : Option (List UInt8) :=
  let packetSize := message.length + PACKET_HEADER_SIZE
  if packetSize ≤ 65535 then
    some
      ([UInt8.ofNat pktId.toNat, UInt8.ofNat (pktId.toNat / 256), UInt8.ofNat packetSize,
        UInt8.ofNat (packetSize / 256)] ++ message)
  else none

/-- The two sides build the same packets. -/
theorem makePacket_toNat (pktId : UInt16) (payload : List UInt8)
    : makePacket pktId.toNat payload = makeSendBuffer pktId payload := by
  have id := pktId.toNat_lt
  simp only [makePacket, writeUInt16LE, makeSendBuffer, PACKET_HEADER_SIZE,
    if_pos (show pktId.toNat ≤ 65535 by omega), Nat.add_comm payload.length 4]
  by_cases fits : 4 + payload.length ≤ 65535
  · simp only [if_pos fits]
    rfl
  · simp only [if_neg fits]

-----------------------------------------------------------------------------------------
-- The receive loop
-----------------------------------------------------------------------------------------

/-- `receiveBuffer`, and the calls of `handleIncomingPacket` so far. That function catches all
that is thrown in it.
-/
structure IpcManager where
  receiveBuffer : List UInt8 := []
  handled : List (Nat × List UInt8) := []
deriving DecidableEq

namespace IpcManager

theorem length_of_read {bytes : List UInt8} {header : PacketHeader}
    (read : PacketHeader.read bytes = some header)
    : 4 ≤ bytes.length := by
  by_contra short
  have missing := PacketHeader.read_short (Nat.lt_of_not_le short)
  rw [missing] at read
  cases read

/-- The `while` loop of the `data` event. -/
def drain (ipc : IpcManager) : IpcManager :=
  match _found : PacketHeader.read ipc.receiveBuffer with
  | none => ipc
  | some header =>
      if header.size < 4 then { ipc with receiveBuffer := [] }
      else if ipc.receiveBuffer.length < header.size then ipc
      else
        drain
          { receiveBuffer := ipc.receiveBuffer.drop header.size
            handled :=
              ipc.handled ++ [(header.id, (ipc.receiveBuffer.take header.size).drop 4)] }
termination_by ipc.receiveBuffer.length
decreasing_by
  have := length_of_read _found
  simp only [List.length_drop]
  omega

/-- The `data` event. -/
def onData (ipc : IpcManager) (data : List UInt8) : IpcManager :=
  { ipc with receiveBuffer := ipc.receiveBuffer ++ data }.drain

/-- The chunks of a connection, one after another. -/
def receive (chunks : List (List UInt8)) : IpcManager :=
  chunks.foldl onData {}

-----------------------------------------------------------------------------------------
-- One event
-----------------------------------------------------------------------------------------

/-- The length of the packet at the front, once all of it is there. -/
def complete (bytes : List UInt8) : Option Nat :=
  match PacketHeader.read bytes with
  | none => none
  | some header =>
      if header.size < 4 ∨ bytes.length < header.size then none else some header.size

theorem complete_eq_some {bytes : List UInt8} {size : Nat}
    (found : complete bytes = some size)
    : ∃ header, PacketHeader.read bytes = some header ∧ header.size = size ∧ 4 ≤ size
        ∧ size ≤ bytes.length := by
  unfold complete at found
  split at found
  · cases found
  · next header read =>
      split at found
      · cases found
      · next whole =>
          cases found
          exact ⟨header, read, rfl, by omega, by omega⟩

/-- The packets of the HTTP server's loop as a frame format. -/
def incoming : Format UInt8 where
  complete := complete
  stable := by
    intro bytes size found more
    obtain ⟨header, read, rfl, covers, within⟩ := complete_eq_some found
    have longer : bytes.length ≤ (bytes ++ more).length := by
      rw [List.length_append]
      omega
    simp only [complete, PacketHeader.read_append (length_of_read read), read]
    rw [if_neg (by omega)]

theorem incoming_tight : incoming.Tight where
  positive found := by
    obtain ⟨-, -, -, covers, -⟩ := complete_eq_some found
    omega
  within found := by
    obtain ⟨-, -, -, -, within⟩ := complete_eq_some found
    exact within

/-- The header at the front announces less than a header. -/
def Malformed (bytes : List UInt8) : Prop :=
  ∃ header, PacketHeader.read bytes = some header ∧ header.size < 4

instance (bytes : List UInt8) : Decidable (Malformed bytes) :=
  decidable_of_iff ((PacketHeader.read bytes).any (·.size < 4) = true) (by
    simp [Malformed, Option.any_eq_true])

/-- The id and the payload of a packet. -/
def unpack (packet : List UInt8) : Option (Nat × List UInt8) :=
  (PacketHeader.read packet).map fun header => (header.id, packet.drop 4)

/-- A buffer with a malformed header waits for no packet. -/
theorem Malformed.complete {bytes : List UInt8} (h : Malformed bytes)
    : incoming.complete bytes = none := by
  obtain ⟨header, read, short⟩ := h
  simp [incoming, IpcManager.complete, read, short]

theorem Malformed.append {bytes : List UInt8} (h : Malformed bytes) (more : List UInt8)
    : Malformed (bytes ++ more) := by
  obtain ⟨header, read, short⟩ := h
  exact ⟨header, (PacketHeader.read_append (length_of_read read) more).trans read, short⟩

theorem decode_of_waiting {bytes : List UInt8} (waiting : incoming.complete bytes = none)
    : incoming.decode bytes = ([], bytes) :=
  Format.split_none waiting _

/-- The loop decodes what is in the buffer, by induction on its iterations. -/
theorem drain_eq (ipc : IpcManager)
    : ipc.drain
      = { receiveBuffer :=
            if Malformed (incoming.decode ipc.receiveBuffer).2 then []
            else (incoming.decode ipc.receiveBuffer).2
          handled :=
            ipc.handled ++ (incoming.decode ipc.receiveBuffer).1.filterMap unpack } := by
  induction ipc using drain.induct with
  | case1 ipc missing =>
      have waiting : incoming.complete ipc.receiveBuffer = none := by
        simp only [incoming, complete, missing]
      have fine : ¬Malformed ipc.receiveBuffer := by
        simp [Malformed, missing]
      rw [drain, decode_of_waiting waiting, if_neg fine]
      split
      · simp
      · next read => rw [missing] at read; cases read
  | case2 ipc header found short =>
      have malformed : Malformed ipc.receiveBuffer := ⟨header, found, short⟩
      rw [drain, decode_of_waiting malformed.complete, if_pos malformed]
      split
      · next read => rw [found] at read; cases read
      · next read =>
          rw [found] at read
          cases read
          simp [short]
  | case3 ipc header found covers part =>
      have waiting : incoming.complete ipc.receiveBuffer = none := by
        simp [incoming, complete, found, part]
      have fine : ¬Malformed ipc.receiveBuffer := by
        rintro ⟨other, read, short⟩
        rw [found] at read
        cases read
        exact covers short
      rw [drain, decode_of_waiting waiting, if_neg fine]
      split
      · next read => rw [found] at read; cases read
      · next read =>
          rw [found] at read
          cases read
          simp [covers, part]
  | case4 ipc header found covers whole ih =>
      have ready : incoming.complete ipc.receiveBuffer = some header.size := by
        simp [incoming, complete, found, covers, whole]
      have front : unpack (ipc.receiveBuffer.take header.size)
          = some (header.id, (ipc.receiveBuffer.take header.size).drop 4) := by
        have long : 4 ≤ (ipc.receiveBuffer.take header.size).length := by
          rw [List.length_take]
          omega
        have read := PacketHeader.read_append long (ipc.receiveBuffer.drop header.size)
        rw [List.take_append_drop, found] at read
        rw [unpack, ← read]
        rfl
      rw [drain, incoming_tight.decode_some ready]
      split
      · next read => rw [found] at read; cases read
      · next read =>
          rw [found] at read
          cases read
          rw [if_neg covers, if_neg whole, ih, List.filterMap_cons, front]
          simp

/-- Earlier packets play no part in an event. -/
theorem onData_handled (ipc : IpcManager) (data : List UInt8)
    : ipc.onData data
      = { ({ receiveBuffer := ipc.receiveBuffer } : IpcManager).onData data with
          handled :=
            ipc.handled
              ++ (({ receiveBuffer := ipc.receiveBuffer } : IpcManager).onData data).handled
        } := by
  simp only [onData, drain_eq, List.nil_append]

-----------------------------------------------------------------------------------------
-- Whole connections
-----------------------------------------------------------------------------------------

theorem foldl_handled (chunks : List (List UInt8)) (ipc : IpcManager)
    : chunks.foldl onData ipc
      = { chunks.foldl onData ({ receiveBuffer := ipc.receiveBuffer } : IpcManager) with
          handled :=
            ipc.handled
              ++ (chunks.foldl onData
                ({ receiveBuffer := ipc.receiveBuffer } : IpcManager)).handled } := by
  induction chunks generalizing ipc with
  | nil => simp
  | cons chunk rest ih =>
      rw [List.foldl_cons, List.foldl_cons, ih, onData_handled, ih (onData _ chunk)]
      simp only [List.append_assoc]

theorem receive_concat (chunks : List (List UInt8)) (chunk : List UInt8)
    : receive (chunks ++ [chunk]) = (receive chunks).onData chunk := by
  rw [receive, List.foldl_append]
  rfl

/-- Without malformed headers the loop decodes the whole stream, by induction on the chunks. -/
theorem receive_eq {chunks : List (List UInt8)}
    (fine : ¬Malformed (incoming.decode chunks.flatten).2)
    : receive chunks
      = { receiveBuffer := (incoming.decode chunks.flatten).2
          handled := (incoming.decode chunks.flatten).1.filterMap unpack } := by
  induction chunks using List.reverseRecOn with
  | nil => rfl
  | append_singleton chunks chunk ih =>
      rw [List.flatten_append, List.flatten_singleton] at fine ⊢
      rw [incoming_tight.decode_append] at fine ⊢
      have earlier : ¬Malformed (incoming.decode chunks.flatten).2 := by
        intro malformed
        refine fine ?_
        rw [decode_of_waiting (malformed.append chunk).complete]
        exact malformed.append chunk
      rw [receive_concat, ih earlier, onData, drain_eq, if_neg fine, List.filterMap_append]

/-- A malformed header costs what the buffer holds when it is found; the next chunk starts
anew.
-/
theorem receive_malformed {before after : List (List UInt8)} {chunk : List UInt8}
    (fine : ¬Malformed (incoming.decode before.flatten).2)
    (malformed : Malformed (incoming.decode (before.flatten ++ chunk)).2)
    : receive (before ++ chunk :: after)
      = { receive after with
          handled :=
            (incoming.decode (before.flatten ++ chunk)).1.filterMap unpack
              ++ (receive after).handled } := by
  rw [incoming_tight.decode_append] at malformed ⊢
  have emptied : (receive before).onData chunk
      = { receiveBuffer := []
          handled :=
            (incoming.decode before.flatten).1.filterMap unpack
              ++ (incoming.decode
                ((incoming.decode before.flatten).2 ++ chunk)).1.filterMap unpack } := by
    rw [receive_eq fine, onData, drain_eq, if_pos malformed]
  rw [receive, List.foldl_append, List.foldl_cons]
  show after.foldl onData ((receive before).onData chunk) = _
  rw [emptied, foldl_handled, List.filterMap_append]
  rfl

-----------------------------------------------------------------------------------------
-- Streams of packets
-----------------------------------------------------------------------------------------

theorem makeSendBuffer_read {pktId : UInt16} {message packet : List UInt8}
    (built : makeSendBuffer pktId message = some packet)
    : PacketHeader.read packet = some { id := pktId.toNat, size := packet.length }
      ∧ 4 ≤ packet.length ∧ packet.drop 4 = message := by
  unfold makeSendBuffer at built
  dsimp only at built
  split at built
  · next fits =>
      cases built
      have id := pktId.toNat_lt
      simp only [PACKET_HEADER_SIZE] at fits ⊢
      refine ⟨?_, by simp, rfl⟩
      simp only [List.cons_append, List.nil_append, PacketHeader.read, UInt8.toNat_ofNat',
        List.length_cons]
      congr 2 <;> omega
  · cases built

theorem makeSendBuffer_unpack {pktId : UInt16} {message packet : List UInt8}
    (built : makeSendBuffer pktId message = some packet)
    : unpack packet = some (pktId.toNat, message) := by
  obtain ⟨read, -, payload⟩ := makeSendBuffer_read built
  rw [unpack, read, payload]
  rfl

/-- What has arrived of a packet announces the whole packet. -/
theorem makeSendBuffer_part {pktId : UInt16} {message packet part : List UInt8}
    (built : makeSendBuffer pktId message = some packet) (isPart : part <+: packet)
    {header : PacketHeader} (read : PacketHeader.read part = some header)
    : header.size = packet.length := by
  obtain ⟨rest, rfl⟩ := isPart
  have whole := (makeSendBuffer_read built).1
  rw [PacketHeader.read_append (length_of_read read), read] at whole
  rw [Option.some.inj whole]

theorem makeSendBuffer_frame {pktId : UInt16} {message packet : List UInt8}
    (built : makeSendBuffer pktId message = some packet)
    : incoming.Frame packet := by
  obtain ⟨read, long, -⟩ := makeSendBuffer_read built
  refine ⟨?_, ?_, fun part isPart proper => ?_⟩
  · rintro rfl
    simp at long
  · simp [incoming, complete, read, long]
  · simp only [incoming, complete]
    split
    · rfl
    · next header found =>
        have size := makeSendBuffer_part built isPart found
        have shorter : part.length < packet.length := by
          rcases Nat.lt_or_eq_of_le isPart.length_le with less | equal
          · exact less
          · exact absurd (isPart.eq_of_length equal) proper
        rw [if_pos (by omega)]

theorem filterMap_unpack {packets : List (UInt16 × List UInt8)} {frames : List (List UInt8)}
    (built : packets.map (fun packet => makeSendBuffer packet.1 packet.2) = frames.map some)
    : frames.filterMap unpack = packets.map fun packet => (packet.1.toNat, packet.2) := by
  induction packets generalizing frames with
  | nil =>
      cases frames with
      | nil => rfl
      | cons frame rest => cases built
  | cons packet others ih =>
      cases frames with
      | nil => cases built
      | cons frame rest =>
          obtain ⟨first, later⟩ := List.cons.inj built
          rw [List.filterMap_cons, makeSendBuffer_unpack first, List.map_cons, ih later]

/-- What arrives of a stream of packets is decoded, however it is cut. -/
theorem receive_prefix {packets : List (UInt16 × List UInt8)} {frames : List (List UInt8)}
    (built : packets.map (fun packet => makeSendBuffer packet.1 packet.2) = frames.map some)
    {chunks : List (List UInt8)} (arrived : chunks.flatten <+: frames.flatten)
    : ∃ count, (receive chunks).handled
          = (packets.take count).map (fun packet => (packet.1.toNat, packet.2))
        ∧ (frames.take count).flatten ++ (receive chunks).receiveBuffer = chunks.flatten
        ∧ (∀ frame ∈ frames[count]?, (receive chunks).receiveBuffer.length < frame.length)
        ∧ (frames.length ≤ count → (receive chunks).receiveBuffer = []) := by
  have each {frame : List UInt8} (mem : frame ∈ frames)
      : ∃ packet : UInt16 × List UInt8, makeSendBuffer packet.1 packet.2 = some frame := by
    have image : some frame ∈ frames.map some := List.mem_map.mpr ⟨frame, mem, rfl⟩
    rw [← built] at image
    obtain ⟨packet, -, same⟩ := List.mem_map.mp image
    exact ⟨packet, same⟩
  have wellFormed : ∀ frame ∈ frames, incoming.Frame frame := by
    intro frame mem
    obtain ⟨packet, same⟩ := each mem
    exact makeSendBuffer_frame same
  obtain ⟨done, part, same, received⟩ := received_of_prefix arrived
  have whole : done.flatten.length ≤ (done.flatten ++ part).length := by
    rw [List.length_append]
    omega
  have enough : done.length ≤ (done.flatten ++ part).length := by
    refine (length_le_flatten fun frame mem => ?_).trans whole
    exact (wellFormed frame (received.isPrefix.subset mem)).nonempty
  have decoded : incoming.decode chunks.flatten = (done, part) := by
    rw [same]
    exact Format.split_received wellFormed rfl received enough
  have partly {frame : List UInt8} (found : frames[done.length]? = some frame)
      : part <+: frame ∧ part ≠ frame := by
    obtain ⟨rest, rfl⟩ := received.isPrefix
    rw [List.getElem?_append_right le_rfl, Nat.sub_self] at found
    obtain ⟨others, rfl⟩ : ∃ others, rest = frame :: others := by
      cases rest with
      | nil => cases found
      | cons first others => exact ⟨others, by rw [Option.some.inj found]⟩
    exact received.next frame others rfl
  have fine : ¬Malformed (incoming.decode chunks.flatten).2 := by
    rw [decoded]
    rintro ⟨header, read, short⟩
    cases found : frames[done.length]? with
    | none =>
        have all := received.isPrefix.eq_of_length_le (List.getElem?_eq_none_iff.mp found)
        rw [received.last all] at read
        cases read
    | some frame =>
        obtain ⟨packet, made⟩ := each (List.mem_of_getElem? found)
        have size := makeSendBuffer_part made (partly found).1 read
        have long := (makeSendBuffer_read made).2.1
        omega
  have taken : frames.take done.length = done :=
    (List.prefix_iff_eq_take.mp received.isPrefix).symm
  refine ⟨done.length, ?_, ?_, fun frame found => ?_, fun all => ?_⟩
  · rw [receive_eq fine, decoded]
    refine filterMap_unpack ?_
    rw [List.map_take, built, ← List.map_take, taken]
  · rw [receive_eq fine, decoded, taken, same]
  · rw [receive_eq fine, decoded]
    obtain ⟨isPart, proper⟩ := partly found
    rcases Nat.lt_or_eq_of_le isPart.length_le with less | equal
    · exact less
    · exact absurd (isPart.eq_of_length equal) proper
  · rw [receive_eq fine, decoded]
    exact received.last (received.isPrefix.eq_of_length_le all)

/-- The loop of the HTTP server for every way to cut a stream: packets come out as they were
sent, two cuts of bytes without malformed headers make no difference, and a malformed header
costs what the buffer holds when it is found.
-/
theorem receive_decodes (chunks : List (List UInt8))
    : (∀ (packets : List (UInt16 × List UInt8)) (frames : List (List UInt8)),
        packets.map (fun packet => makeSendBuffer packet.1 packet.2) = frames.map some →
        chunks.flatten <+: frames.flatten →
        ∃ count, (receive chunks).handled
            = (packets.take count).map (fun packet => (packet.1.toNat, packet.2))
          ∧ (frames.take count).flatten ++ (receive chunks).receiveBuffer = chunks.flatten
          ∧ (∀ frame ∈ frames[count]?,
            (receive chunks).receiveBuffer.length < frame.length)
          ∧ (frames.length ≤ count → (receive chunks).receiveBuffer = []))
      ∧ (¬Malformed (incoming.decode chunks.flatten).2 →
        ∀ others : List (List UInt8), others.flatten = chunks.flatten →
          receive others = receive chunks)
      ∧ ∀ before chunk after, chunks = before ++ chunk :: after →
        ¬Malformed (incoming.decode before.flatten).2 →
        Malformed (incoming.decode (before.flatten ++ chunk)).2 →
        receive chunks
          = { receive after with
              handled :=
                (incoming.decode (before.flatten ++ chunk)).1.filterMap unpack
                  ++ (receive after).handled } := by
  refine ⟨fun packets frames built arrived => receive_prefix built arrived, ?_, ?_⟩
  · intro fine others same
    rw [receive_eq fine, receive_eq (same ▸ fine), same]
  · rintro before chunk after rfl fine malformed
    exact receive_malformed fine malformed

/-- Two welcomes in three chunks, the second cut inside its header. -/
def cutWelcomes : List (List UInt8) :=
  [[0, 0, 6, 0, 8], [1, 0, 0, 6], [0, 8, 2]]

theorem receive_decodes_two
    : (receive cutWelcomes).handled = [(0, [8, 1]), (0, [8, 2])]
      ∧ (receive ([[7, 0, 3, 0, 9]] ++ cutWelcomes)).handled = [(0, [8, 1]), (0, [8, 2])] := by
  have whole := (receive_decodes cutWelcomes).2.1 (by decide +kernel) [cutWelcomes.flatten]
    (by simp)
  have after := (receive_decodes ([[7, 0, 3, 0, 9]] ++ cutWelcomes)).2.2 [] [7, 0, 3, 0, 9]
    cutWelcomes rfl (by decide +kernel) (by decide +kernel)
  have decoded : (receive cutWelcomes).handled = [(0, [8, 1]), (0, [8, 2])] := by
    rw [← whole]
    decide +kernel
  refine ⟨decoded, ?_⟩
  rw [after, decoded]
  decide +kernel

end IpcManager

end ExtractionServer.Ipc
