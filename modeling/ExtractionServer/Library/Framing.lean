import Mathlib.Algebra.Order.Ring.Nat
import Mathlib.Data.List.Infix

/-! Byte streams cut into frames whose length can be read off a buffered prefix. Greedy
splitting of what has arrived gives the frames sent, wherever the stream is cut.
-/

namespace Framing

universe u

variable {Byte : Type u}

/-- A frame format says how long the first frame is once all of it is buffered. More bytes
behind the first frame do not change the answer.
-/
structure Format (Byte : Type u) where
  complete : List Byte → Option Nat
  stable : ∀ {bytes size}, complete bytes = some size → ∀ more,
    complete (bytes ++ more) = some size

variable {format : Format Byte}

/-- A frame of the format: it is complete exactly when its last byte has arrived. -/
structure Format.Frame (format : Format Byte) (frame : List Byte) : Prop where
  nonempty : frame ≠ []
  whole : format.complete frame = some frame.length
  early : ∀ part, part <+: frame → part ≠ frame → format.complete part = none

/-- Cut complete frames off the front while there is fuel, and keep the rest. -/
def Format.split (format : Format Byte) : Nat → List Byte → List (List Byte) × List Byte
  | 0, bytes => ([], bytes)
  | fuel + 1, bytes =>
      match format.complete bytes with
      | none => ([], bytes)
      | some size =>
          let (frames, rest) := format.split fuel (bytes.drop size)
          (bytes.take size :: frames, rest)

/-- The bytes of a partly received stream: whole frames and then a part of the next one. -/
structure Received (frames : List (List Byte)) (done : List (List Byte))
    (part : List Byte) : Prop where
  isPrefix : done <+: frames
  next : ∀ frame rest, frames = done ++ frame :: rest → part <+: frame ∧ part ≠ frame
  last : done = frames → part = []

/-- Every prefix of a stream of nonempty frames is whole frames and a part of the next, by
induction on the frames.
-/
theorem received_of_prefix {frames : List (List Byte)} {bytes : List Byte}
    (h : bytes <+: frames.flatten)
    : ∃ done part, bytes = done.flatten ++ part ∧ Received frames done part := by
  induction frames generalizing bytes with
  | nil =>
      obtain rfl : bytes = [] := by simpa using h
      exact ⟨[], [], rfl, List.prefix_refl _, by simp, fun _ => rfl⟩
  | cons frame rest ih =>
      by_cases whole : frame <+: bytes
      · obtain ⟨later, rfl⟩ := whole
        have tail : later <+: rest.flatten := by
          simpa only [List.flatten_cons, List.prefix_append_right_inj] using h
        obtain ⟨done, part, rfl, received⟩ := ih tail
        refine ⟨frame :: done, part, by simp, ?_, ?_, ?_⟩
        · exact List.cons_prefix_cons.mpr ⟨rfl, received.isPrefix⟩
        · intro next others same
          exact received.next next others (List.cons.inj same).2
        · intro same
          exact received.last (List.cons.inj same).2
      · have part : bytes <+: frame := by
          rcases List.prefix_or_prefix_of_prefix h
              (show frame <+: (frame :: rest).flatten by simp) with part | whole'
          · exact part
          · exact absurd whole' whole
        refine ⟨[], bytes, rfl, List.nil_prefix, ?_, by simp⟩
        intro next others same
        obtain rfl : frame = next := (List.cons.inj same).1
        exact ⟨part, fun equal => whole (equal ▸ List.prefix_refl _)⟩

/-- More bytes complete some of the frames still to come and leave a part of the one after
them.
-/
theorem Received.extend {frames done : List (List Byte)} {part more : List Byte}
    (received : Received frames done part)
    (h : done.flatten ++ part ++ more <+: frames.flatten)
    : ∃ rest new later,
        frames = done ++ rest
        ∧ part ++ more = new.flatten ++ later
        ∧ Received rest new later
        ∧ Received frames (done ++ new) later := by
  obtain ⟨rest, rfl⟩ := received.isPrefix
  have tail : part ++ more <+: rest.flatten := by
    simpa only [List.append_assoc, List.flatten_append, List.prefix_append_right_inj] using h
  obtain ⟨new, later, same, next⟩ := received_of_prefix tail
  refine ⟨rest, new, later, rfl, same, next, ?_, ?_, ?_⟩
  · exact (List.prefix_append_right_inj done).mpr next.isPrefix
  · intro frame others split
    rw [List.append_assoc] at split
    exact next.next frame others (List.append_cancel_left split)
  · intro split
    exact next.last (List.append_cancel_left split)

/-- A frame at the front is cut off and the rest is split further. -/
theorem Format.split_frame {frame : List Byte} (h : format.Frame frame) (fuel : Nat)
    (rest : List Byte)
    : format.split (fuel + 1) (frame ++ rest)
      = (frame :: (format.split fuel rest).1, (format.split fuel rest).2) := by
  simp [split, format.stable h.whole rest]

/-- A part of a frame is kept. -/
theorem Format.split_part {frame part : List Byte} (h : format.Frame frame)
    (isPart : part <+: frame) (proper : part ≠ frame) (fuel : Nat)
    : format.split fuel part = ([], part) := by
  cases fuel with
  | zero => rfl
  | succ fuel => simp [split, h.early part isPart proper]

/-- Splitting whole frames and a part of the next gives them back, by induction on the whole
frames.
-/
theorem Format.split_received {frames done : List (List Byte)} {part : List Byte}
    (wellFormed : ∀ frame ∈ frames, format.Frame frame)
    (empty : format.complete [] = none) (received : Received frames done part) {fuel : Nat}
    (enough : done.length ≤ fuel)
    : format.split fuel (done.flatten ++ part) = (done, part) := by
  induction done generalizing frames fuel with
  | nil =>
      cases frames with
      | nil =>
          obtain rfl := received.last rfl
          cases fuel <;> simp [split, empty]
      | cons frame rest =>
          obtain ⟨isPart, proper⟩ := received.next frame rest rfl
          exact split_part (wellFormed frame (by simp)) isPart proper fuel
  | cons first others ih =>
      obtain ⟨tail, rfl⟩ := received.isPrefix
      obtain ⟨fuel, rfl⟩ : ∃ less, fuel = less + 1 := by
        cases fuel with
        | zero => simp at enough
        | succ less => exact ⟨less, rfl⟩
      have shorter : Received (others ++ tail) others part := by
        refine ⟨List.prefix_append _ _, ?_, ?_⟩
        · intro frame rest same
          exact received.next frame rest (by simp [same])
        · intro same
          exact received.last (by simp [← same])
      rw [List.flatten_cons, List.append_assoc,
        split_frame (wellFormed first (by simp)) fuel,
        ih (fun frame mem => wellFormed frame (by simp [List.mem_append.mp mem])) shorter
          (by simpa using enough)]

/-- The whole stream splits into the frames sent. -/
theorem Format.split_stream {frames : List (List Byte)}
    (wellFormed : ∀ frame ∈ frames, format.Frame frame)
    (empty : format.complete [] = none) {fuel : Nat} (enough : frames.length ≤ fuel)
    : format.split fuel frames.flatten = (frames, []) := by
  have whole : Received frames frames [] :=
    ⟨List.prefix_refl _, fun frame rest same => by simp at same, fun _ => rfl⟩
  simpa using split_received wellFormed empty whole enough

/-- A stream of nonempty frames has at least as many bytes as frames. -/
theorem length_le_flatten {frames : List (List Byte)} (nonempty : ∀ frame ∈ frames, frame ≠ [])
    : frames.length ≤ frames.flatten.length := by
  induction frames with
  | nil => simp
  | cons frame rest ih =>
      have positive : 0 < frame.length :=
        List.length_pos_iff.mpr (nonempty frame List.mem_cons_self)
      have := ih fun other mem => nonempty other (List.mem_cons_of_mem _ mem)
      simp only [List.length_cons, List.flatten_cons, List.length_append]
      omega

-----------------------------------------------------------------------------------------
-- Arbitrary bytes
-----------------------------------------------------------------------------------------

/-- What is cut off has a byte at least and is all there. -/
structure Format.Tight (format : Format Byte) : Prop where
  positive : ∀ {bytes size}, format.complete bytes = some size → 0 < size
  within : ∀ {bytes size}, format.complete bytes = some size → size ≤ bytes.length

/-- All complete frames off the front, and the rest. -/
def Format.decode (format : Format Byte) (bytes : List Byte) : List (List Byte) × List Byte :=
  format.split bytes.length bytes

theorem Format.split_none {bytes : List Byte} (waiting : format.complete bytes = none)
    (fuel : Nat)
    : format.split fuel bytes = ([], bytes) := by
  cases fuel with
  | zero => rfl
  | succ fuel => simp [split, waiting]

/-- There is no need for more fuel than bytes, by induction on the fuel. -/
theorem Format.Tight.split_eq_decode (tight : format.Tight) {fuel : Nat} {bytes : List Byte}
    (enough : bytes.length ≤ fuel)
    : format.split fuel bytes = format.decode bytes := by
  induction fuel using Nat.strong_induction_on generalizing bytes with
  | _ fuel ih =>
      cases found : format.complete bytes with
      | none => rw [decode, split_none found, split_none found]
      | some size =>
          have positive := tight.positive found
          have within := tight.within found
          have drop : (bytes.drop size).length < bytes.length := by
            rw [List.length_drop]
            omega
          obtain ⟨less, rfl⟩ : ∃ less, fuel = less + 1 := ⟨fuel - 1, by omega⟩
          obtain ⟨shorter, same⟩ : ∃ shorter, bytes.length = shorter + 1 :=
            ⟨bytes.length - 1, by omega⟩
          have first : format.split less (bytes.drop size) = _ := ih less (by omega) (by omega)
          have second : format.split shorter (bytes.drop size) = _ :=
            ih shorter (by omega) (by omega)
          simp only [decode, same, split, found, first, second]

/-- A frame at the front, and what is behind it. -/
theorem Format.Tight.decode_some (tight : format.Tight) {bytes : List Byte} {size : Nat}
    (found : format.complete bytes = some size)
    : format.decode bytes
      = (bytes.take size :: (format.decode (bytes.drop size)).1,
          (format.decode (bytes.drop size)).2) := by
  have positive := tight.positive found
  have within := tight.within found
  obtain ⟨less, same⟩ : ∃ less, bytes.length = less + 1 := ⟨bytes.length - 1, by omega⟩
  have rest : format.split less (bytes.drop size) = format.decode (bytes.drop size) :=
    tight.split_eq_decode (by rw [List.length_drop]; omega)
  rw [decode, same]
  simp only [split, found, rest]

/-- Bytes that arrive later are decoded behind the rest, by induction on the number of bytes. -/
theorem Format.Tight.decode_append (tight : format.Tight) (bytes more : List Byte)
    : format.decode (bytes ++ more)
      = ((format.decode bytes).1 ++ (format.decode ((format.decode bytes).2 ++ more)).1,
          (format.decode ((format.decode bytes).2 ++ more)).2) := by
  induction same : bytes.length using Nat.strong_induction_on generalizing bytes with
  | _ length ih =>
      cases found : format.complete bytes with
      | none => simp [decode, split_none found]
      | some size =>
          have positive := tight.positive found
          have within := tight.within found
          have later := ih (bytes.drop size).length (by rw [List.length_drop]; omega)
            (bytes.drop size) rfl
          rw [tight.decode_some found, tight.decode_some (format.stable found more),
            List.drop_append_of_le_length within, List.take_append_of_le_length within, later]
          rfl

end Framing
