import ExtractionServer.Library.Table
import ExtractionServer.Library.Transition

/-! The memory that outgoing packets are built in: chunks from which buffers are cut one behind
the other, and the pool of the buffer objects. What has been closed is not written again before
it is released.
-/

namespace ExtractionServer.Transport

open Transition (System)

-----------------------------------------------------------------------------------------
-- Chunks and buffers
-----------------------------------------------------------------------------------------

def SEND_BUFFER_CHUNK_SIZE : Nat := 65536

/-- `SendBufferChunk`; its memory by index. -/
structure SendBufferChunk where
  buffer : Nat → UInt8 := fun _ => 0
  isOpen : Bool := false
  usedSize : Nat := 0

namespace SendBufferChunk

def freeSize (chunk : SendBufferChunk) : Nat := SEND_BUFFER_CHUNK_SIZE - chunk.usedSize

/-- Bytes stored at an index. -/
def write (chunk : SendBufferChunk) (index : Nat) (bytes : List UInt8) : SendBufferChunk :=
  { chunk with
    buffer := fun i =>
      if i < index then chunk.buffer i else (bytes[i - index]?).getD (chunk.buffer i) }

/-- `Close`, unless it throws. -/
def close (chunk : SendBufferChunk) (allocSize : Nat) : SendBufferChunk :=
  { chunk with isOpen := false, usedSize := chunk.usedSize + allocSize }

end SendBufferChunk

/-- `SendBuffer`: the number of its chunk, and an index into it. -/
structure SendBuffer where
  chunkRef : Nat
  index : Nat
  allocSize : Nat
  writeSize : Nat := 0
deriving DecidableEq, Repr

/-- All chunks, the one of the ring, the buffer objects by address, and the addresses in
`ObjectPool<SendBuffer>`, last one first. `operator new` has returned the addresses below
`allocated`.
-/
structure SendBuffers where
  chunks : List SendBufferChunk := []
  sendBufferChunkRef : Option Nat := none
  live : Table Nat SendBuffer := ∅
  pool : List Nat := []
  allocated : Nat := 0

/-- How `OpenSendBuffer` ends. -/
inductive Opened where
  | throws
  | nullptr
  | buffer (address : Nat)
deriving DecidableEq, Repr

namespace SendBuffers

/-- `ObjectPool<SendBuffer>::Acquire`. -/
def acquire (ring : SendBuffers) : SendBuffers × Nat :=
  match ring.pool with
  | [] => ({ ring with allocated := ring.allocated + 1 }, ring.allocated)
  | address :: pool => ({ ring with pool }, address)

/-- `ObjectPool<SendBuffer>::Release`. -/
def release (ring : SendBuffers) (address : Nat) : SendBuffers :=
  { ring with live := ring.live.erase address, pool := address :: ring.pool }

def modifyChunk (ring : SendBuffers) (ref : Nat) (f : SendBufferChunk → SendBufferChunk)
    : SendBuffers :=
  { ring with chunks := ring.chunks.modify ref f }

/-- `SendBufferChunk::Open`. -/
def openIn (ring : SendBuffers) (ref : Nat) (chunk : SendBufferChunk) (allocSize : Nat)
    : SendBuffers × Opened :=
  if allocSize > chunk.freeSize then (ring, .nullptr)
  else
    let (ring, address) := (ring.modifyChunk ref ({ · with isOpen := true })).acquire
    ({ ring with
        live :=
          ring.live.insert address { chunkRef := ref, index := chunk.usedSize, allocSize } },
      .buffer address)

/-- The chunk of the ring, with its number. -/
def current (ring : SendBuffers) : Option (Nat × SendBufferChunk) :=
  ring.sendBufferChunkRef.bind fun ref => (ring.chunks[ref]?).map fun chunk => (ref, chunk)

/-- A new chunk for the ring, if there is none with enough room. -/
def ensureRoom (ring : SendBuffers) (allocSize : Nat) : SendBuffers :=
  if ring.current.any (fun chunk => allocSize ≤ chunk.2.freeSize) then ring
  else
    { ring with
      chunks := ring.chunks ++ [{}]
      sendBufferChunkRef := some ring.chunks.length }

/-- `IoUringWrapper::OpenSendBuffer`. -/
def openSendBuffer (ring : SendBuffers) (allocSize : Nat) : SendBuffers × Opened :=
  if allocSize > SEND_BUFFER_CHUNK_SIZE then (ring, .throws)
  else
    let ring := ring.ensureRoom allocSize
    match ring.current with
    | none => (ring, .throws)
    | some (ref, chunk) =>
        if chunk.isOpen then (ring, .throws) else ring.openIn ref chunk allocSize

/-- Bytes written through `Buffer()`. -/
def write (ring : SendBuffers) (address offset : Nat) (bytes : List UInt8) : SendBuffers :=
  match ring.live.lookup address with
  | none => ring
  | some buffer => ring.modifyChunk buffer.chunkRef (·.write (buffer.index + offset) bytes)

/-- `SendBuffer::Close`, and whether it returns. -/
def close (ring : SendBuffers) (address writeSize : Nat) : SendBuffers × Bool :=
  match ring.live.lookup address with
  | none => (ring, false)
  | some buffer =>
      if writeSize > buffer.allocSize then (ring, false)
      else
        let ring := { ring with live := ring.live.adjust address ({ · with writeSize }) }
        if (ring.chunks[buffer.chunkRef]?).any (·.isOpen) then
          (ring.modifyChunk buffer.chunkRef (·.close writeSize), true)
        else (ring, false)

/-- What the kernel sends of a buffer. -/
def contents (ring : SendBuffers) (buffer : SendBuffer) : List UInt8 :=
  match ring.chunks[buffer.chunkRef]? with
  | none => []
  | some chunk => (List.range buffer.writeSize).map fun i => chunk.buffer (buffer.index + i)

end SendBuffers

-----------------------------------------------------------------------------------------
-- Packets under construction
-----------------------------------------------------------------------------------------

/-- The ring with the buffers that are being written. -/
structure Sending extends SendBuffers where
  writing : List Nat := []

namespace Sending

inductive Action where
  | openBuffer (allocSize : Nat)
  | write (address offset : Nat) (bytes : List UInt8)
  | close (address writeSize : Nat)
  | release (address : Nat)
deriving DecidableEq

/-- Whoever has opened a buffer writes inside of it and closes it once; it is released after
that.
-/
def next (state : Sending) : Action → Option Sending
  | .openBuffer allocSize =>
      match state.openSendBuffer allocSize with
      | (ring, .buffer address) =>
          some { toSendBuffers := ring, writing := address :: state.writing }
      | (ring, _) => some { state with toSendBuffers := ring }
  | .write address offset bytes =>
      match state.live.lookup address with
      | none => none
      | some buffer =>
          if address ∈ state.writing ∧ offset + bytes.length ≤ buffer.allocSize then
            some { state with toSendBuffers := state.toSendBuffers.write address offset bytes }
          else none
  | .close address writeSize =>
      if address ∈ state.writing then
        match state.toSendBuffers.close address writeSize with
        | (ring, true) =>
            some { toSendBuffers := ring, writing := state.writing.filter (· ≠ address) }
        | (ring, false) => some { state with toSendBuffers := ring }
      else none
  | .release address =>
      if address ∈ state.live ∧ address ∉ state.writing then
        some { state with toSendBuffers := state.toSendBuffers.release address }
      else none

def system : System Sending Action :=
  System.ofNext (· = {}) next

-----------------------------------------------------------------------------------------
-- Where the buffers lie
-----------------------------------------------------------------------------------------

/-- The bytes that a buffer keeps for itself: all it was opened with, or what it was closed with.
-/
def extent (state : Sending) (address : Nat) (buffer : SendBuffer) : Nat :=
  if address ∈ state.writing then buffer.allocSize else buffer.writeSize

/-- A buffer in its chunk: it lies inside, behind the used part while it is written, and in it
after that.
-/
structure Placed (isWritten : Prop) (buffer : SendBuffer) (chunk : SendBufferChunk) : Prop where
  inside : buffer.index + buffer.allocSize ≤ SEND_BUFFER_CHUNK_SIZE
  written : isWritten → chunk.isOpen = true ∧ buffer.index = chunk.usedSize
  closed : ¬isWritten → buffer.index + buffer.writeSize ≤ chunk.usedSize

structure Layout (state : Sending) : Prop where
  placed : ∀ address buffer, state.live.lookup address = some buffer →
    ∃ chunk, state.chunks[buffer.chunkRef]? = some chunk
      ∧ Placed (address ∈ state.writing) buffer chunk
  apart : ∀ address other buffer second, address ≠ other →
    state.live.lookup address = some buffer → state.live.lookup other = some second →
    buffer.chunkRef = second.chunkRef →
    buffer.index + state.extent address buffer ≤ second.index
      ∨ second.index + state.extent other second ≤ buffer.index
  single : ∀ address ∈ state.writing, ∀ other ∈ state.writing, ∀ buffer second,
    state.live.lookup address = some buffer → state.live.lookup other = some second →
    buffer.chunkRef = second.chunkRef → address = other
  used : ∀ (ref : Nat) chunk, state.chunks[ref]? = some chunk →
    chunk.usedSize ≤ SEND_BUFFER_CHUNK_SIZE
  writer : ∀ (ref : Nat) chunk, state.chunks[ref]? = some chunk → chunk.isOpen = true →
    ∃ address ∈ state.writing, ∃ buffer, state.live.lookup address = some buffer
      ∧ buffer.chunkRef = ref
  known : ∀ address ∈ state.writing, address ∈ state.live
  pool : ∀ address ∈ state.pool, address ∉ state.live ∧ address < state.allocated
  once : state.pool.Nodup
  below : ∀ address ∈ state.live, address < state.allocated
  ref : ∀ ref, state.sendBufferChunkRef = some ref → ref < state.chunks.length

variable {state : Sending}

theorem layout_new : Layout {} where
  placed address buffer found := by cases found
  apart address other buffer second ne found := by cases found
  single address mem := by cases mem
  used ref chunk found := by cases found
  writer ref chunk found := by cases found
  known address mem := by cases mem
  pool address mem := by cases mem
  once := List.nodup_nil
  below address mem := by cases AList.lookup_isSome.mpr mem
  ref ref found := by cases found

theorem current_found {ring : SendBuffers} {ref : Nat} {chunk : SendBufferChunk}
    (current : ring.current = some (ref, chunk))
    : ring.chunks[ref]? = some chunk := by
  obtain ⟨stored, -, same⟩ := Option.bind_eq_some_iff.mp current
  obtain ⟨_, present, pair⟩ := Option.map_eq_some_iff.mp same
  cases pair
  exact present

/-- The ring has a chunk with enough room. -/
theorem Layout.ensureRoom (h : state.Layout) {allocSize : Nat}
    (fits : allocSize ≤ SEND_BUFFER_CHUNK_SIZE)
    : Layout { state with toSendBuffers := state.toSendBuffers.ensureRoom allocSize }
      ∧ ∃ ref chunk, (state.toSendBuffers.ensureRoom allocSize).current = some (ref, chunk)
        ∧ allocSize ≤ chunk.freeSize
        ∧ (state.toSendBuffers.ensureRoom allocSize).chunks[ref]? = some chunk := by
  unfold SendBuffers.ensureRoom
  split
  · next room =>
      obtain ⟨⟨ref, chunk⟩, found, enough⟩ := (Option.any_eq_true _ _).mp room
      exact ⟨h, ref, chunk, found, of_decide_eq_true enough, current_found found⟩
  · have old {ref : Nat} {chunk : SendBufferChunk} (found : state.chunks[ref]? = some chunk)
        : (state.chunks ++ [({} : SendBufferChunk)])[ref]? = some chunk := by
      rw [List.getElem?_append_left (List.getElem?_eq_some_iff.mp found).1]
      exact found
    have last : (state.chunks ++ [({} : SendBufferChunk)])[state.chunks.length]? = some {} :=
      List.getElem?_concat_length
    have new {ref : Nat} {chunk : SendBufferChunk}
        (found : (state.chunks ++ [({} : SendBufferChunk)])[ref]? = some chunk)
        : state.chunks[ref]? = some chunk ∨ chunk = {} := by
      rcases Nat.lt_or_ge ref state.chunks.length with before | behind
      · rw [List.getElem?_append_left before] at found
        exact .inl found
      · rw [List.getElem?_append_right behind] at found
        exact .inr (by simpa using List.mem_of_getElem? found)
    refine ⟨⟨fun address buffer found => ?_, h.apart, h.single, fun ref chunk found => ?_,
      fun ref chunk found isOpen => ?_, h.known, h.pool, h.once, h.below,
      fun ref same => ?_⟩, state.chunks.length, {}, ?_, fits, last⟩
    · obtain ⟨chunk, present, placed⟩ := h.placed address buffer found
      exact ⟨chunk, old present, placed.inside, placed.written, placed.closed⟩
    · rcases new found with before | rfl
      · exact h.used ref chunk before
      · exact Nat.zero_le _
    · rcases new found with before | rfl
      · exact h.writer ref chunk before isOpen
      · cases isOpen
    · cases same
      simp
    · simp only [SendBuffers.current, Option.bind_some, last, Option.map_some]

/-- The address of a new buffer is that of no other one. -/
theorem acquire_spec {ring : SendBuffers}
    (pool : ∀ address ∈ ring.pool, address ∉ ring.live ∧ address < ring.allocated)
    (once : ring.pool.Nodup) (below : ∀ address ∈ ring.live, address < ring.allocated)
    : ring.acquire.2 ∉ ring.live ∧ ring.acquire.2 < ring.acquire.1.allocated
      ∧ ring.allocated ≤ ring.acquire.1.allocated
      ∧ (∀ address ∈ ring.acquire.1.pool, address ∈ ring.pool ∧ address ≠ ring.acquire.2)
      ∧ ring.acquire.1.pool.Nodup := by
  unfold SendBuffers.acquire
  split
  · next empty =>
      refine ⟨fun mem => ?_, Nat.lt_succ_self _, Nat.le_succ _, fun address mem => ?_, once⟩
      · exact absurd (below _ mem) (Nat.lt_irrefl _)
      · exact ⟨mem, Nat.ne_of_lt (pool address mem).2⟩
  · next address rest same =>
      have front : address ∈ ring.pool := by simp [same]
      rw [same] at once
      obtain ⟨fresh, rest⟩ := List.nodup_cons.mp once
      refine ⟨(pool address front).1, (pool address front).2, le_rfl, fun other mem => ?_, rest⟩
      refine ⟨by simp [same, mem], ?_⟩
      rintro rfl
      exact fresh mem

theorem acquire_frame (ring : SendBuffers)
    : ring.acquire.1.chunks = ring.chunks ∧ ring.acquire.1.live = ring.live
      ∧ ring.acquire.1.sendBufferChunkRef = ring.sendBufferChunkRef := by
  unfold SendBuffers.acquire
  split
  · exact ⟨rfl, rfl, rfl⟩
  · exact ⟨rfl, rfl, rfl⟩

theorem getElem?_modify_cases {chunks : List SendBufferChunk} {ref other : Nat}
    {f : SendBufferChunk → SendBufferChunk} {chunk : SendBufferChunk}
    (found : (chunks.modify ref f)[other]? = some chunk)
    : (other = ref ∧ ∃ old, chunks[ref]? = some old ∧ chunk = f old)
      ∨ other ≠ ref ∧ chunks[other]? = some chunk := by
  rw [List.getElem?_modify] at found
  by_cases same : ref = other
  · subst same
    obtain ⟨old, present, rfl⟩ := Option.map_eq_some_iff.mp found
    exact .inl ⟨rfl, old, present, by simp⟩
  · obtain ⟨old, present, rfl⟩ := Option.map_eq_some_iff.mp found
    exact .inr ⟨Ne.symm same, by simpa [same] using present⟩

/-- A buffer is cut off behind the used part of a chunk that nobody writes. -/
theorem Layout.openIn (h : state.Layout) {ref allocSize : Nat} {chunk : SendBufferChunk}
    (found : state.chunks[ref]? = some chunk) (free : chunk.isOpen = false)
    (room : allocSize ≤ chunk.freeSize)
    : ∃ ring address, state.toSendBuffers.openIn ref chunk allocSize = (ring, .buffer address)
      ∧ address ∉ state.live
      ∧ Layout { toSendBuffers := ring, writing := address :: state.writing }
      ∧ ring.chunks = state.chunks.modify ref ({ · with isOpen := true })
      ∧ ring.live = state.live.insert address
        { chunkRef := ref, index := chunk.usedSize, allocSize } := by
  let opening : SendBuffers := state.toSendBuffers.modifyChunk ref ({ · with isOpen := true })
  let address := opening.acquire.2
  let buffer : SendBuffer := { chunkRef := ref, index := chunk.usedSize, allocSize }
  let ring : SendBuffers :=
    { opening.acquire.1 with live := opening.acquire.1.live.insert address buffer }
  obtain ⟨fresh, within, more, pool, once⟩ :=
    @acquire_spec opening h.pool h.once h.below
  obtain ⟨sameChunks, sameLive, sameRef⟩ := acquire_frame opening
  have chunks : ring.chunks = state.chunks.modify ref ({ · with isOpen := true }) := sameChunks
  have live : ring.live = state.live.insert address buffer :=
    congrArg (AList.insert address buffer) sameLive
  have used := h.used ref chunk found
  have idle : ∀ other ∈ state.writing, ∀ second, state.live.lookup other = some second →
      second.chunkRef ≠ ref := by
    rintro other mem second present rfl
    obtain ⟨stored, here, placed⟩ := h.placed other second present
    rw [here] at found
    cases found
    rw [(placed.written mem).1] at free
    cases free
  have opened : ring.chunks[ref]? = some { chunk with isOpen := true } := by
    rw [chunks, List.getElem?_modify, found]
    simp
  have cases {other : Nat} {second : SendBuffer}
      (present : ring.live.lookup other = some second)
      : other = address ∧ second = buffer
        ∨ other ≠ address ∧ state.live.lookup other = some second := by
    rw [live] at present
    exact Table.lookup_insert_cases present
  have behind {other : Nat} {second : SendBuffer} (ne : other ≠ address)
      (old : state.live.lookup other = some second) (same : second.chunkRef = ref)
      : second.index
          + extent { toSendBuffers := ring, writing := address :: state.writing } other second
        ≤ chunk.usedSize := by
    have idle : other ∉ state.writing := fun mem => idle other mem second old same
    obtain ⟨stored, here, placed⟩ := h.placed other second old
    rw [same, found] at here
    cases here
    rw [extent, if_neg (by simp [ne, idle])]
    exact placed.closed idle
  have kept {other : Nat} (ne : other ≠ address) (second : SendBuffer)
      : extent { toSendBuffers := ring, writing := address :: state.writing } other second
        = state.extent other second := by
    simp [extent, ne]
  refine ⟨ring, address, ?_, fresh, ?_, chunks, live⟩
  · rw [SendBuffers.openIn, if_neg (Nat.not_lt_of_le room)]
  refine ⟨fun other second present => ?_, fun first other second third ne present beside same => ?_,
    fun first mem other known second third present beside same => ?_,
    fun place stored here => ?_, fun place stored here isOpen => ?_, fun other mem => ?_,
    fun other mem => ?_, once, fun other mem => ?_, fun place same => ?_⟩
  · rcases cases present with ⟨rfl, rfl⟩ | ⟨ne, old⟩
    · refine ⟨_, opened, ?_, fun _ => ⟨rfl, rfl⟩, fun absent => absurd List.mem_cons_self absent⟩
      simp only [buffer, SendBufferChunk.freeSize] at room ⊢
      omega
    · obtain ⟨stored, here, placed⟩ := h.placed other second old
      have member : other ∈ address :: state.writing ↔ other ∈ state.writing := by
        simp [ne]
      by_cases same : second.chunkRef = ref
      · rw [same, found] at here
        cases here
        refine ⟨_, same ▸ opened, placed.inside, fun mem => ?_, fun absent => ?_⟩
        · exact absurd same (idle other (member.mp mem) second old)
        · exact placed.closed fun mem => absent (member.mpr mem)
      · refine ⟨stored, ?_, placed.inside, fun mem => placed.written (member.mp mem),
          fun absent => placed.closed fun mem => absent (member.mpr mem)⟩
        show ring.chunks[second.chunkRef]? = some stored
        simp [chunks, Ne.symm same, here]
  · rcases cases present with ⟨rfl, rfl⟩ | ⟨fne, old⟩
    · rcases cases beside with ⟨rfl, rfl⟩ | ⟨one, before⟩
      · exact absurd rfl ne
      · exact .inr (behind one before same.symm)
    · rcases cases beside with ⟨rfl, rfl⟩ | ⟨one, before⟩
      · exact .inl (behind fne old same)
      · rw [kept fne, kept one]
        exact h.apart first other second third ne old before same
  · rcases cases present with ⟨rfl, rfl⟩ | ⟨fne, old⟩
    · rcases cases beside with ⟨rfl, rfl⟩ | ⟨one, before⟩
      · rfl
      · exact absurd same.symm
          (idle other ((List.mem_cons.mp known).resolve_left one) third before)
    · rcases cases beside with ⟨rfl, rfl⟩ | ⟨one, before⟩
      · exact absurd same (idle first ((List.mem_cons.mp mem).resolve_left fne) second old)
      · exact h.single first ((List.mem_cons.mp mem).resolve_left fne) other
          ((List.mem_cons.mp known).resolve_left one) second third old before same
  · have here : (state.chunks.modify ref ({ · with isOpen := true }))[place]? = some stored :=
      chunks ▸ here
    rcases getElem?_modify_cases here with ⟨rfl, old, present, rfl⟩ | ⟨-, old⟩
    · exact h.used _ old present
    · exact h.used place stored old
  · have here : (state.chunks.modify ref ({ · with isOpen := true }))[place]? = some stored :=
      chunks ▸ here
    rcases getElem?_modify_cases here with ⟨rfl, -⟩ | ⟨-, old⟩
    · exact ⟨address, List.mem_cons_self, buffer, by rw [live, AList.lookup_insert], rfl⟩
    · obtain ⟨other, mem, second, present, same⟩ := h.writer place stored old isOpen
      have ne : other ≠ address := by
        rintro rfl
        exact fresh (h.known _ mem)
      refine ⟨other, List.mem_cons_of_mem _ mem, second, ?_, same⟩
      rw [live, AList.lookup_insert_ne ne]
      exact present
  · show other ∈ ring.live
    rw [live, AList.mem_insert]
    rcases List.mem_cons.mp mem with same | old
    · exact .inl same
    · exact .inr (h.known other old)
  · obtain ⟨old, ne⟩ := pool other mem
    obtain ⟨unused, low⟩ := h.pool other old
    refine ⟨?_, low.trans_le more⟩
    show other ∉ ring.live
    rw [live, AList.mem_insert]
    rintro (same | old)
    · exact ne same
    · exact unused old
  · have mem : other ∈ ring.live := mem
    rw [live, AList.mem_insert] at mem
    rcases mem with rfl | old
    · exact within
    · exact (h.below other old).trans_le more
  · have low := h.ref place (sameRef ▸ same)
    show place < ring.chunks.length
    rw [chunks, List.length_modify]
    exact low

/-- A chunk gets other bytes. -/
theorem Layout.modifyChunk (h : state.Layout) {ref : Nat}
    {f : SendBufferChunk → SendBufferChunk}
    (same : ∀ chunk, (f chunk).isOpen = chunk.isOpen ∧ (f chunk).usedSize = chunk.usedSize)
    : Layout { state with toSendBuffers := state.toSendBuffers.modifyChunk ref f } := by
  have old {place : Nat} {chunk : SendBufferChunk}
      (found : (state.chunks.modify ref f)[place]? = some chunk)
      : ∃ stored, state.chunks[place]? = some stored ∧ chunk.isOpen = stored.isOpen
        ∧ chunk.usedSize = stored.usedSize := by
    rcases getElem?_modify_cases found with ⟨rfl, stored, present, rfl⟩ | ⟨-, present⟩
    · exact ⟨stored, present, same stored⟩
    · exact ⟨chunk, present, rfl, rfl⟩
  refine ⟨fun address buffer found => ?_, h.apart, h.single, fun place chunk found => ?_,
    fun place chunk found isOpen => ?_, h.known, h.pool, h.once, h.below, fun place found => ?_⟩
  · obtain ⟨chunk, present, placed⟩ := h.placed address buffer found
    by_cases here : ref = buffer.chunkRef
    · refine ⟨f chunk, ?_, placed.inside, fun mem => ?_, fun absent => ?_⟩
      · show (state.chunks.modify ref f)[buffer.chunkRef]? = some (f chunk)
        simp [here, present]
      · rw [(same chunk).1, (same chunk).2]
        exact placed.written mem
      · rw [(same chunk).2]
        exact placed.closed absent
    · refine ⟨chunk, ?_, placed⟩
      show (state.chunks.modify ref f)[buffer.chunkRef]? = some chunk
      simp [here, present]
  · obtain ⟨stored, present, -, used⟩ := old found
    rw [used]
    exact h.used place stored present
  · obtain ⟨stored, present, still, -⟩ := old found
    exact h.writer place stored present (still ▸ isOpen)
  · show place < (state.chunks.modify ref f).length
    rw [List.length_modify]
    exact h.ref place found

/-- The state when a buffer in a chunk has been closed. -/
def closed (state : Sending) (address writeSize chunkRef : Nat) : Sending where
  chunks := state.chunks.modify chunkRef (·.close writeSize)
  sendBufferChunkRef := state.sendBufferChunkRef
  live := state.live.adjust address ({ · with writeSize })
  pool := state.pool
  allocated := state.allocated
  writing := state.writing.filter (· ≠ address)

/-- `Close` of a buffer that is being written returns unless it is given too much. -/
theorem Layout.close_eq (h : state.Layout) {address writeSize : Nat} {buffer : SendBuffer}
    (found : state.live.lookup address = some buffer) (written : address ∈ state.writing)
    : state.toSendBuffers.close address writeSize
      = if writeSize > buffer.allocSize then (state.toSendBuffers, false)
        else ((state.closed address writeSize buffer.chunkRef).toSendBuffers, true) := by
  obtain ⟨chunk, present, placed⟩ := h.placed address buffer found
  have isOpen : (state.chunks[buffer.chunkRef]?).any (·.isOpen) = true := by
    rw [present]
    exact (placed.written written).1
  simp only [SendBuffers.close, found, isOpen]
  split
  · rfl
  · rfl

theorem Layout.close (h : state.Layout) {address writeSize : Nat} {buffer : SendBuffer}
    (found : state.live.lookup address = some buffer) (written : address ∈ state.writing)
    (fits : writeSize ≤ buffer.allocSize)
    : Layout (state.closed address writeSize buffer.chunkRef) := by
  obtain ⟨chunk, present, placed⟩ := h.placed address buffer found
  obtain ⟨isOpen, atEnd⟩ := placed.written written
  have inside := placed.inside
  have old {other : Nat} {second : SendBuffer}
      (stored : (state.live.adjust address ({ · with writeSize })).lookup other = some second)
      : other = address ∧ second = { buffer with writeSize }
        ∨ other ≠ address ∧ state.live.lookup other = some second := by
    rcases Table.lookup_adjust_cases stored with ⟨same, before, here, changed⟩ | ⟨ne, here⟩
    · rw [found] at here
      cases here
      exact .inl ⟨same, changed⟩
    · exact .inr ⟨ne, here⟩
  have still {other : Nat} (ne : other ≠ address)
      : other ∈ state.writing.filter (· ≠ address) ↔ other ∈ state.writing := by
    simp [ne]
  have gone : address ∉ state.writing.filter (· ≠ address) := by simp
  have alone {other : Nat} {second : SendBuffer} (ne : other ≠ address)
      (before : state.live.lookup other = some second)
      (same : buffer.chunkRef = second.chunkRef)
      : other ∉ state.writing := fun mem =>
    ne (h.single address written other mem buffer second found before same).symm
  have closed : (state.chunks.modify buffer.chunkRef (·.close writeSize))[buffer.chunkRef]?
      = some (chunk.close writeSize) := by
    simp [present]
  refine ⟨fun other second stored => ?_, fun one other second third ne stored beside same => ?_,
    fun one mem other known second third stored beside same => ?_,
    fun place third here => ?_, fun place third here isOpen => ?_, fun other mem => ?_,
    fun other mem => ?_, h.once, fun other mem => ?_, fun place same => ?_⟩
  · rcases old stored with ⟨rfl, rfl⟩ | ⟨ne, before⟩
    · refine ⟨_, closed, inside, fun mem => absurd mem gone, fun _ => ?_⟩
      show buffer.index + writeSize ≤ chunk.usedSize + writeSize
      omega
    · obtain ⟨third, here, position⟩ := h.placed other second before
      by_cases same : buffer.chunkRef = second.chunkRef
      · rw [← same, present] at here
        cases here
        have idle := alone ne before same
        have here : (state.chunks.modify buffer.chunkRef (·.close writeSize))[second.chunkRef]?
            = some (chunk.close writeSize) := same ▸ closed
        refine ⟨_, here, position.inside, fun mem => absurd ((still ne).mp mem) idle,
          fun _ => (position.closed idle).trans ?_⟩
        show chunk.usedSize ≤ chunk.usedSize + writeSize
        omega
      · refine ⟨third, ?_, position.inside, fun mem => position.written ((still ne).mp mem),
          fun absent => position.closed fun mem => absent ((still ne).mpr mem)⟩
        show (state.chunks.modify buffer.chunkRef _)[second.chunkRef]? = some third
        simp [same, here]
  · have kept {other : Nat} (ne : other ≠ address) (second : SendBuffer)
        : (state.closed address writeSize buffer.chunkRef).extent other second
          = state.extent other second := by
      simp only [extent, Sending.closed, still ne]
    have whole : state.extent address buffer = buffer.allocSize := if_pos written
    have reduced : (state.closed address writeSize buffer.chunkRef).extent address
        { buffer with writeSize } = writeSize := if_neg gone
    rcases old stored with ⟨rfl, rfl⟩ | ⟨first, before⟩
    · rcases old beside with ⟨rfl, rfl⟩ | ⟨other', earlier⟩
      · exact absurd rfl ne
      · have apart := h.apart one other buffer third ne found earlier same
        rw [whole] at apart
        rw [kept other', reduced]
        show buffer.index + writeSize ≤ third.index ∨ _
        exact apart.imp_left (by omega)
    · rcases old beside with ⟨rfl, rfl⟩ | ⟨other', earlier⟩
      · have apart := h.apart one other second buffer ne before found same
        rw [whole] at apart
        rw [kept first, reduced]
        show _ ∨ buffer.index + writeSize ≤ second.index
        exact apart.imp_right (by omega)
      · rw [kept first, kept other']
        exact h.apart one other second third ne before earlier same
  · obtain ⟨oneIn, oneNe⟩ := List.mem_filter.mp mem
    obtain ⟨otherIn, otherNe⟩ := List.mem_filter.mp known
    have oneNe : one ≠ address := of_decide_eq_true oneNe
    have otherNe : other ≠ address := of_decide_eq_true otherNe
    exact h.single one oneIn other otherIn second third
      ((old stored).resolve_left fun same => oneNe same.1).2
      ((old beside).resolve_left fun same => otherNe same.1).2 same
  · rcases getElem?_modify_cases here with ⟨rfl, before, stored, rfl⟩ | ⟨-, stored⟩
    · rw [present] at stored
      cases stored
      show chunk.usedSize + writeSize ≤ SEND_BUFFER_CHUNK_SIZE
      omega
    · exact h.used place third stored
  · rcases getElem?_modify_cases here with ⟨rfl, before, stored, rfl⟩ | ⟨ne, stored⟩
    · cases isOpen
    · obtain ⟨other, mem, second, before, same⟩ := h.writer place third stored isOpen
      have differs : other ≠ address := by
        rintro rfl
        rw [found] at before
        cases before
        exact ne same.symm
      exact ⟨other, (still differs).mpr mem, second,
        (Table.lookup_adjust_ne differs _ _).trans before, same⟩
  · show other ∈ state.live.adjust address _
    rw [Table.mem_adjust]
    exact h.known other (List.mem_filter.mp mem).1
  · refine ⟨?_, (h.pool other mem).2⟩
    show other ∉ state.live.adjust address _
    rw [Table.mem_adjust]
    exact (h.pool other mem).1
  · refine h.below other ?_
    rw [← Table.mem_adjust]
    exact mem
  · show place < (state.chunks.modify buffer.chunkRef _).length
    rw [List.length_modify]
    exact h.ref place same

theorem Layout.release (h : state.Layout) {address : Nat} (live : address ∈ state.live)
    (closed : address ∉ state.writing)
    : Layout { state with toSendBuffers := state.toSendBuffers.release address } := by
  have old {other : Nat} {buffer : SendBuffer}
      (found : (state.live.erase address).lookup other = some buffer)
      : other ≠ address ∧ state.live.lookup other = some buffer :=
    Table.lookup_erase_cases found
  refine ⟨fun other buffer found => ?_, fun one other buffer second ne found present same => ?_,
    fun one mem other known buffer second found present same => ?_, h.used,
    fun place chunk here isOpen => ?_, fun other mem => ?_, fun other mem => ?_, ?_,
    fun other mem => ?_, h.ref⟩
  · exact h.placed other buffer (old found).2
  · exact h.apart one other buffer second ne (old found).2 (old present).2 same
  · exact h.single one mem other known buffer second (old found).2 (old present).2 same
  · obtain ⟨other, mem, buffer, found, same⟩ := h.writer place chunk here isOpen
    have ne : other ≠ address := by
      rintro rfl
      exact closed mem
    exact ⟨other, mem, buffer, (AList.lookup_erase_ne ne).trans found, same⟩
  · have ne : other ≠ address := by
      rintro rfl
      exact closed mem
    exact (AList.mem_erase).mpr ⟨ne, h.known other mem⟩
  · rcases List.mem_cons.mp mem with rfl | pooled
    · exact ⟨fun mem => (AList.mem_erase.mp mem).1 rfl, h.below _ live⟩
    · exact ⟨fun mem => (h.pool other pooled).1 (AList.mem_erase.mp mem).2,
        (h.pool other pooled).2⟩
  · exact List.nodup_cons.mpr ⟨fun mem => (h.pool address mem).1 live, h.once⟩
  · exact h.below other (AList.mem_erase.mp mem).2

-----------------------------------------------------------------------------------------
-- What happens to a closed buffer
-----------------------------------------------------------------------------------------

/-- A buffer that is closed and not released yet. -/
def Settled (state : Sending) (address : Nat) (buffer : SendBuffer) : Prop :=
  state.live.lookup address = some buffer ∧ address ∉ state.writing

variable {before after : Sending} {action : Action}

/-- The contents of a buffer are read off its own chunk. -/
theorem contents_congr {ring other : SendBuffers} {buffer : SendBuffer}
    {chunk changed : SendBufferChunk} (found : ring.chunks[buffer.chunkRef]? = some chunk)
    (present : other.chunks[buffer.chunkRef]? = some changed)
    (same : ∀ i, i < buffer.writeSize →
      changed.buffer (buffer.index + i) = chunk.buffer (buffer.index + i))
    : other.contents buffer = ring.contents buffer := by
  simp only [SendBuffers.contents, found, present]
  exact List.map_congr_left fun i mem => same i (List.mem_range.mp mem)

theorem contents_modifyChunk {ring : SendBuffers} {buffer : SendBuffer}
    {chunk : SendBufferChunk} (found : ring.chunks[buffer.chunkRef]? = some chunk) {ref : Nat}
    {f : SendBufferChunk → SendBufferChunk}
    (same : ref = buffer.chunkRef → ∀ i, i < buffer.writeSize →
      (f chunk).buffer (buffer.index + i) = chunk.buffer (buffer.index + i))
    : (ring.modifyChunk ref f).contents buffer = ring.contents buffer := by
  by_cases own : ref = buffer.chunkRef
  · refine contents_congr found ?_ (same own)
    simp [SendBuffers.modifyChunk, own, found]
  · refine contents_congr found ?_ fun _ _ => rfl
    simp [SendBuffers.modifyChunk, own, found]

theorem ensureRoom_frame (ring : SendBuffers) (allocSize : Nat)
    : (ring.ensureRoom allocSize).live = ring.live
      ∧ ∀ (ref : Nat) chunk, ring.chunks[ref]? = some chunk →
        (ring.ensureRoom allocSize).chunks[ref]? = some chunk := by
  unfold SendBuffers.ensureRoom
  split
  · exact ⟨rfl, fun _ _ found => found⟩
  · refine ⟨rfl, fun ref chunk found => ?_⟩
    show (ring.chunks ++ [({} : SendBufferChunk)])[ref]? = some chunk
    rw [List.getElem?_append_left (List.getElem?_eq_some_iff.mp found).1]
    exact found

/-- A new chunk is empty, and the one before had no room. -/
theorem ensureRoom_cases (ring : SendBuffers) (allocSize : Nat)
    : ring.ensureRoom allocSize = ring
      ∨ (ring.ensureRoom allocSize).current = some (ring.chunks.length, {})
        ∧ ∀ ref chunk, ring.current = some (ref, chunk) → ¬allocSize ≤ chunk.freeSize := by
  unfold SendBuffers.ensureRoom
  split
  · exact .inl rfl
  · next full =>
      refine .inr ⟨?_, fun ref chunk current room => full ?_⟩
      · have last : (ring.chunks ++ [({} : SendBufferChunk)])[ring.chunks.length]? = some {} :=
          List.getElem?_concat_length
        simp only [SendBuffers.current, Option.bind_some, last, Option.map_some]
      · rw [current]
        exact decide_eq_true room

/-- `OpenSendBuffer` throws when it is asked for more than a chunk, or while the chunk of the
ring has room and is being written. Else it returns a buffer and leaves the others alone.
-/
theorem Layout.openSendBuffer (h : state.Layout) (allocSize : Nat)
    : (state.toSendBuffers.openSendBuffer allocSize = (state.toSendBuffers, .throws)
        ∧ (SEND_BUFFER_CHUNK_SIZE < allocSize
          ∨ ∃ ref chunk, state.toSendBuffers.current = some (ref, chunk)
            ∧ allocSize ≤ chunk.freeSize ∧ chunk.isOpen = true))
      ∨ ∃ ring address,
        state.toSendBuffers.openSendBuffer allocSize = (ring, .buffer address)
        ∧ allocSize ≤ SEND_BUFFER_CHUNK_SIZE
        ∧ (∀ ref chunk, state.toSendBuffers.current = some (ref, chunk) →
          allocSize ≤ chunk.freeSize → chunk.isOpen = false)
        ∧ address ∉ state.live
        ∧ Layout { toSendBuffers := ring, writing := address :: state.writing }
        ∧ (∃ buffer, ring.live.lookup address = some buffer ∧ buffer.allocSize = allocSize)
        ∧ ∀ other buffer, state.live.lookup other = some buffer →
          ring.live.lookup other = some buffer
            ∧ ring.contents buffer = state.contents buffer := by
  by_cases large : allocSize > SEND_BUFFER_CHUNK_SIZE
  · exact .inl ⟨by rw [SendBuffers.openSendBuffer, if_pos large], .inl large⟩
  have fits := Nat.le_of_not_lt large
  obtain ⟨layout, ref, chunk, current, room, found⟩ := h.ensureRoom fits
  by_cases isOpen : chunk.isOpen = true
  · have same : state.toSendBuffers.ensureRoom allocSize = state.toSendBuffers := by
      refine (ensureRoom_cases state.toSendBuffers allocSize).resolve_right fun fresh => ?_
      rw [fresh.1] at current
      cases current
      cases isOpen
    refine .inl ⟨?_, .inr ⟨ref, chunk, same ▸ current, room, isOpen⟩⟩
    simp only [SendBuffers.openSendBuffer, if_neg large, current, isOpen, if_true]
    rw [same]
  · have free : chunk.isOpen = false := by simpa using isOpen
    obtain ⟨ring, address, opened, fresh, layout, chunks, live⟩ := layout.openIn found free room
    obtain ⟨sameLive, kept⟩ := ensureRoom_frame state.toSendBuffers allocSize
    have fresh : address ∉ state.live := sameLive ▸ fresh
    refine .inr ⟨ring, address, ?_, fits, fun place stored here enough => ?_, fresh, layout,
      ⟨_, by rw [live, AList.lookup_insert], rfl⟩, fun other buffer present => ⟨?_, ?_⟩⟩
    · simp only [SendBuffers.openSendBuffer, if_neg large, current, free]
      exact opened
    · rcases ensureRoom_cases state.toSendBuffers allocSize with same | ⟨-, full⟩
      · rw [same, here] at current
        cases current
        exact free
      · exact absurd enough (full place stored here)
    · have ne : other ≠ address := by
        rintro rfl
        exact fresh (Table.mem_of_lookup present)
      rw [live, AList.lookup_insert_ne ne]
      exact sameLive ▸ present
    · obtain ⟨stored, here, -⟩ := h.placed other buffer present
      have still := kept _ _ here
      have cut : ring.contents buffer
          = ((state.toSendBuffers.ensureRoom allocSize).modifyChunk ref
            ({ · with isOpen := true })).contents buffer := by
        simp only [SendBuffers.contents, chunks, SendBuffers.modifyChunk]
      rw [cut, contents_modifyChunk still fun _ _ _ => rfl]
      exact contents_congr here still fun _ _ => rfl

/-- What an action keeps: the layout, and every closed buffer with its contents. -/
structure Keeps (before : Sending) (action : Action) (after : Sending) : Prop where
  layout : after.Layout
  settled : ∀ address buffer, before.Settled address buffer → action ≠ .release address →
    after.Settled address buffer ∧ after.contents buffer = before.contents buffer

theorem Layout.keeps_openBuffer (h : before.Layout) {allocSize : Nat}
    (step : before.next (.openBuffer allocSize) = some after)
    : before.Keeps (.openBuffer allocSize) after := by
  rcases h.openSendBuffer allocSize with ⟨threw, -⟩ | ⟨ring, address, opened, -, -, fresh,
    layout, -, others⟩
  · simp only [Sending.next, threw, Option.some.injEq] at step
    subst step
    exact ⟨h, fun _ _ settled _ => ⟨settled, rfl⟩⟩
  · simp only [Sending.next, opened, Option.some.injEq] at step
    subst step
    refine ⟨layout, fun other buffer settled _ => ?_⟩
    obtain ⟨found, closed⟩ := settled
    obtain ⟨still, same⟩ := others other buffer found
    refine ⟨⟨still, fun mem => ?_⟩, same⟩
    rcases List.mem_cons.mp mem with rfl | written
    · exact fresh (Table.mem_of_lookup found)
    · exact closed written

/-- What is written lies in the part of a buffer that is being written. -/
theorem Layout.keeps_write (h : before.Layout) {address offset : Nat} {bytes : List UInt8}
    (step : before.next (.write address offset bytes) = some after)
    : before.Keeps (.write address offset bytes) after := by
  cases found : before.live.lookup address with
  | none => simp [Sending.next, found] at step
  | some buffer =>
      simp only [Sending.next, found] at step
      split at step
      · next inside =>
          obtain ⟨written, within⟩ := inside
          have same : after
              = { before with
                  toSendBuffers :=
                    before.toSendBuffers.modifyChunk buffer.chunkRef
                      (·.write (buffer.index + offset) bytes) } := by
            rw [← Option.some.inj step]
            simp only [SendBuffers.write, found]
          subst same
          refine ⟨h.modifyChunk fun _ => ⟨rfl, rfl⟩, fun other second settled _ => ?_⟩
          obtain ⟨present, closed⟩ := settled
          refine ⟨⟨present, closed⟩, ?_⟩
          obtain ⟨chunk, here, -⟩ := h.placed other second present
          refine contents_modifyChunk here fun own i low => ?_
          have ne : address ≠ other := by
            rintro rfl
            exact closed written
          have apart := h.apart address other buffer second ne found present own
          rw [extent, if_pos written, extent, if_neg closed] at apart
          simp only [SendBufferChunk.write]
          split
          · rfl
          · next behind =>
              rw [List.getElem?_eq_none (by omega)]
              rfl
      · cases step

theorem Layout.keeps_close (h : before.Layout) {address writeSize : Nat}
    (step : before.next (.close address writeSize) = some after)
    : before.Keeps (.close address writeSize) after := by
  simp only [Sending.next] at step
  split at step
  · next written =>
      obtain ⟨buffer, found⟩ := Table.exists_lookup_of_mem (h.known address written)
      rw [h.close_eq found written] at step
      by_cases large : writeSize > buffer.allocSize
      · simp only [if_pos large, Option.some.injEq] at step
        subst step
        exact ⟨h, fun _ _ settled _ => ⟨settled, rfl⟩⟩
      · simp only [if_neg large, Option.some.injEq] at step
        have same : after = before.closed address writeSize buffer.chunkRef := step.symm
        subst same
        refine ⟨h.close found written (Nat.le_of_not_lt large), fun other second settled _ => ?_⟩
        obtain ⟨present, closed⟩ := settled
        have ne : other ≠ address := by
          rintro rfl
          exact closed written
        refine ⟨⟨(Table.lookup_adjust_ne ne _ _).trans present, fun mem => ?_⟩, ?_⟩
        · exact closed (List.mem_filter.mp mem).1
        · obtain ⟨chunk, here, -⟩ := h.placed other second present
          exact contents_modifyChunk here fun _ _ _ => rfl
  · cases step

theorem Layout.keeps_release (h : before.Layout) {address : Nat}
    (step : before.next (.release address) = some after)
    : before.Keeps (.release address) after := by
  simp only [Sending.next] at step
  split at step
  · next idle =>
      cases step
      refine ⟨h.release idle.1 idle.2, fun other second settled differs => ?_⟩
      obtain ⟨present, closed⟩ := settled
      have ne : other ≠ address := by
        rintro rfl
        exact differs rfl
      exact ⟨⟨(AList.lookup_erase_ne ne).trans present, closed⟩, rfl⟩
  · cases step

theorem Layout.keeps (h : before.Layout) (step : before.next action = some after)
    : before.Keeps action after := by
  cases action with
  | openBuffer allocSize => exact h.keeps_openBuffer step
  | write address offset bytes => exact h.keeps_write step
  | close address writeSize => exact h.keeps_close step
  | release address => exact h.keeps_release step

/-- A closed buffer keeps its contents along a run without its release, by induction on the run.
-/
theorem settled_of_run {actions : List Action} {address : Nat} {buffer : SendBuffer}
    (run : system.Run before actions after) (h : before.Layout)
    (settled : before.Settled address buffer) (kept : .release address ∉ actions)
    : after.Settled address buffer ∧ after.contents buffer = before.contents buffer := by
  induction run with
  | nil => exact ⟨settled, rfl⟩
  | cons step _ ih =>
      have keeps := h.keeps step
      obtain ⟨still, same⟩ := keeps.settled address buffer settled fun released =>
        kept (released ▸ List.mem_cons_self)
      obtain ⟨last, finally_⟩ := ih keeps.layout still fun mem => kept (List.mem_cons_of_mem _ mem)
      exact ⟨last, finally_.trans same⟩

theorem layout_of_reachable (reached : system.Reachable state) : state.Layout := by
  have kept : system.Inductive Layout :=
    { initial := by
        rintro state rfl
        exact layout_new
      step := fun _ _ _ h step => (h.keeps step).layout }
  exact kept.reachable reached

/-- A packet is built in one go: what is sent are the bytes that were written. -/
theorem Layout.build (h : state.Layout) {bytes : List UInt8} {ring : SendBuffers}
    {address : Nat}
    (opened : state.toSendBuffers.openSendBuffer bytes.length = (ring, .buffer address))
    : ∃ last buffer,
        system.Run state
          [.openBuffer bytes.length, .write address 0 bytes, .close address bytes.length] last
        ∧ last.Settled address buffer ∧ last.contents buffer = bytes := by
  rcases h.openSendBuffer bytes.length with ⟨threw, -⟩ | ⟨_, _, same, -, -, -, layout,
    ⟨buffer, found, size⟩, -⟩
  · rw [opened] at threw
    cases congrArg Prod.snd threw
  rw [opened] at same
  cases same
  let first : Sending := { toSendBuffers := ring, writing := address :: state.writing }
  let second : Sending :=
    { first with
      toSendBuffers := first.toSendBuffers.modifyChunk buffer.chunkRef (·.write buffer.index bytes)
    }
  let last := second.closed address bytes.length buffer.chunkRef
  have written : address ∈ first.writing := List.mem_cons_self
  have fits : bytes.length ≤ buffer.allocSize := size.ge
  obtain ⟨chunk, here, -⟩ := layout.placed address buffer found
  have changed : second.Layout := layout.modifyChunk fun _ => ⟨rfl, rfl⟩
  have openStep : state.next (.openBuffer bytes.length) = some first := by
    simp only [Sending.next, opened]
    rfl
  have writeStep : first.next (.write address 0 bytes) = some second := by
    have inside : address ∈ first.writing ∧ 0 + bytes.length ≤ buffer.allocSize :=
      ⟨written, by omega⟩
    simp only [Sending.next, found, first]
    rw [if_pos inside]
    simp only [SendBuffers.write, found]
    rfl
  have closeStep : second.next (.close address bytes.length) = some last := by
    have closes := @Layout.close_eq second changed address bytes.length buffer found written
    rw [if_neg (Nat.not_lt_of_le fits)] at closes
    simp only [Sending.next]
    rw [if_pos written, closes]
    rfl
  refine ⟨last, { buffer with writeSize := bytes.length },
    .cons openStep (.cons writeStep (.cons closeStep (.nil _))), ⟨?_, ?_⟩, ?_⟩
  · show (ring.live.adjust address _).lookup address = _
    rw [Table.lookup_adjust_self, found]
    rfl
  · simp [last, Sending.closed]
  · have stored : last.chunks[buffer.chunkRef]?
        = some ((chunk.write buffer.index bytes).close bytes.length) := by
      have here : ring.chunks[buffer.chunkRef]? = some chunk := here
      simp [last, Sending.closed, second, first, SendBuffers.modifyChunk, here]
    simp only [SendBuffers.contents, stored]
    refine List.ext_getElem (by simp) fun i low high => ?_
    simp [SendBufferChunk.write, SendBufferChunk.close, high]

/-- The buffers of the ring, in every order of opening, writing, closing and releasing: they lie
inside their chunks and apart from each other, `OpenSendBuffer` throws only for more than a chunk
or while the chunk is written, never returns null and never a buffer in use, and what was closed
is sent as it was written.
-/
theorem buffers_intact (reached : system.Reachable state)
    : (∀ address buffer, state.live.lookup address = some buffer →
        buffer.chunkRef < state.chunks.length
          ∧ buffer.index + buffer.allocSize ≤ SEND_BUFFER_CHUNK_SIZE)
      ∧ (∀ address other buffer second, address ≠ other →
        state.live.lookup address = some buffer → state.live.lookup other = some second →
        buffer.chunkRef = second.chunkRef →
        buffer.index + state.extent address buffer ≤ second.index
          ∨ second.index + state.extent other second ≤ buffer.index)
      ∧ (∀ allocSize,
        ((state.toSendBuffers.openSendBuffer allocSize).2 = .throws
          ↔ SEND_BUFFER_CHUNK_SIZE < allocSize
            ∨ ∃ ref chunk, state.toSendBuffers.current = some (ref, chunk)
              ∧ allocSize ≤ chunk.freeSize
              ∧ ∃ address ∈ state.writing, ∃ buffer,
                state.live.lookup address = some buffer ∧ buffer.chunkRef = ref)
        ∧ (state.toSendBuffers.openSendBuffer allocSize).2 ≠ .nullptr
        ∧ ∀ address, (state.toSendBuffers.openSendBuffer allocSize).2 = .buffer address →
          address ∉ state.live)
      ∧ ∀ bytes ring address,
        state.toSendBuffers.openSendBuffer bytes.length = (ring, .buffer address) →
        ∃ built buffer,
          system.Run state
            [.openBuffer bytes.length, .write address 0 bytes, .close address bytes.length] built
          ∧ ∀ actions last, system.Run built actions last → .release address ∉ actions →
            last.Settled address buffer ∧ last.contents buffer = bytes := by
  have h := layout_of_reachable reached
  refine ⟨fun address buffer found => ?_, h.apart, fun allocSize => ?_,
    fun bytes ring address opened => ?_⟩
  · obtain ⟨chunk, here, placed⟩ := h.placed address buffer found
    exact ⟨(List.getElem?_eq_some_iff.mp here).1, placed.inside⟩
  · have writer (ref : Nat) (chunk : SendBufferChunk)
        (current : state.toSendBuffers.current = some (ref, chunk))
        : chunk.isOpen = true ↔ ∃ address ∈ state.writing, ∃ buffer,
          state.live.lookup address = some buffer ∧ buffer.chunkRef = ref := by
      have here := current_found current
      constructor
      · exact h.writer ref chunk here
      · rintro ⟨address, mem, buffer, found, rfl⟩
        obtain ⟨stored, same, placed⟩ := h.placed address buffer found
        rw [here] at same
        cases same
        exact (placed.written mem).1
    rcases h.openSendBuffer allocSize with ⟨threw, cause⟩ | ⟨ring, address, opened, fits, free,
      fresh, -⟩
    · rw [threw]
      refine ⟨⟨fun _ => cause.imp_right ?_, fun _ => rfl⟩, (fun same => by cases same),
        (fun _ same => by cases same)⟩
      rintro ⟨ref, chunk, current, room, isOpen⟩
      exact ⟨ref, chunk, current, room, (writer ref chunk current).mp isOpen⟩
    · rw [opened]
      refine ⟨⟨(fun same => by cases same), ?_⟩, (fun same => by cases same), ?_⟩
      · rintro (large | ⟨ref, chunk, current, room, busy⟩)
        · exact absurd fits (Nat.not_le_of_lt large)
        · have isOpen := (writer ref chunk current).mpr busy
          rw [free ref chunk current room] at isOpen
          cases isOpen
      · intro other same
        cases same
        exact fresh
  · obtain ⟨built, buffer, run, settled, same⟩ := h.build opened
    refine ⟨built, buffer, run, fun actions last later kept => ?_⟩
    obtain ⟨still, contents⟩ := settled_of_run later (layout_of_reachable (run.reachable reached))
      settled kept
    exact ⟨still, contents.trans same⟩

/-- The ring with an empty buffer of two bytes, and one that is being written. -/
def oneOpen : Sending where
  chunks := [{ isOpen := true, usedSize := 2 }]
  sendBufferChunkRef := some 0
  live :=
    (AList.singleton 0 { chunkRef := 0, index := 0, allocSize := 2, writeSize := 2 }).insert 1
      { chunkRef := 0, index := 2, allocSize := 2 }
  allocated := 2
  writing := [1]

theorem oneOpen_reachable : system.Reachable oneOpen := by
  have first : system.Reachable _ := System.Reachable.step (.initial rfl)
    (show Sending.next {} (.openBuffer 2) = some _ from rfl)
  have second : system.Reachable _ := first.step
    (show Sending.next _ (.close 0 2) = some _ from rfl)
  exact second.step (show Sending.next _ (.openBuffer 2) = some oneOpen from rfl)

/-- A packet of two bytes is sent as it was written. While the chunk is written there is no
second buffer in it, but one in a new chunk if this one has no room.
-/
theorem buffers_intact_two
    : (∃ built buffer,
        system.Run {} [.openBuffer 2, .write 0 0 [1, 2], .close 0 2] built
        ∧ built.contents buffer = [1, 2])
      ∧ (oneOpen.toSendBuffers.openSendBuffer 1).2 = .throws
      ∧ (oneOpen.toSendBuffers.openSendBuffer 65537).2 = .throws
      ∧ (oneOpen.toSendBuffers.openSendBuffer 65536).2 ≠ .throws := by
  have first := (buffers_intact (System.Reachable.initial rfl : system.Reachable {})).2.2.2
    [1, 2] _ 0 rfl
  have throws := fun allocSize =>
    ((buffers_intact oneOpen_reachable).2.2.1 allocSize).1
  obtain ⟨built, buffer, run, kept⟩ := first
  refine ⟨⟨built, buffer, run, (kept [] built (.nil _) List.not_mem_nil).2⟩, ?_, ?_, ?_⟩
  · exact (throws 1).mpr (.inr ⟨0, _, rfl, by decide, 1, by decide, _, rfl, rfl⟩)
  · exact (throws 65537).mpr (.inl (by decide))
  · decide +kernel

end Sending

end ExtractionServer.Transport
