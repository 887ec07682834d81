import ExtractionServer.Library.WireFormat
import ExtractionServer.Room.GameRoom
import Mathlib.Data.Fintype.Card

/-! The lists of objects that a client loads from are cut into packets that fit a datagram. -/

namespace ExtractionServer.Room

open WireFormat

-----------------------------------------------------------------------------------------
-- Packets with objects
-----------------------------------------------------------------------------------------

def UDP_HEADER_SIZE : Nat := 35

/-- `SAFE_PAYLOAD_LIMIT`: the header and ten more bytes are left of a datagram. -/
def SAFE_PAYLOAD_LIMIT : Nat := 1024 - 45

/-- `D2CResponseBlueprintStaticObjects` and `D2CResponseSpawnMeDynamicObjects`, which have the
same fields.
-/
structure ObjectListPacket where
  index : BitVec 32 := 0
  isLast : Bool := false
  ingameObjects : List UnityGameObjectInfo := []
deriving DecidableEq, Repr

/-- `ByteSizeLong`, from the sizes of the objects. -/
def ObjectListPacket.byteSizeLong (byteSize : UnityGameObjectInfo → Nat)
    (packet : ObjectListPacket)
    : Nat :=
  uint32FieldSize 1 packet.index.toNat + boolFieldSize 2 packet.isLast
    + (packet.ingameObjects.map fun object => messageFieldSize 3 (byteSize object)).sum

/-- The variables of the loop. -/
structure ObjectPacking where
  outVec : List ObjectListPacket := []
  current : ObjectListPacket := {}
  currentPayloadSize : Nat := 0
  index : BitVec 32 := 0
deriving DecidableEq, Repr

namespace ObjectPacking

/-- Close the current packet. -/
def flush (packing : ObjectPacking) : ObjectPacking where
  outVec :=
    packing.outVec ++ [{ packing.current with index := packing.index, isLast := false }]
  current := {}
  currentPayloadSize := 0
  index := packing.index + 1

/-- One iteration: null pointers are skipped, and a packet closes before an object that
would exceed the limit.
-/
def visit (byteSize : UnityGameObjectInfo → Nat) (packing : ObjectPacking)
    : Option UnityGameObject → ObjectPacking
  | none => packing
  | some object =>
      let pbObj := object.serialize
      let itemSize := byteSize pbObj + 5
      let packing :=
        if packing.currentPayloadSize + itemSize > SAFE_PAYLOAD_LIMIT then packing.flush
        else packing
      { packing with
        current :=
          { packing.current with ingameObjects := packing.current.ingameObjects ++ [pbObj] }
        currentPayloadSize := packing.currentPayloadSize + itemSize }

/-- The packets after the loop: the last one is what is left, or an empty one if there is
nothing else.
-/
def finish (packing : ObjectPacking) : List ObjectListPacket :=
  if packing.currentPayloadSize > 0 then
    packing.outVec ++ [{ packing.current with index := packing.index, isLast := true }]
  else if packing.outVec.isEmpty then [{ packing.current with index := 0, isLast := true }]
  else packing.outVec

end ObjectPacking

/-- What `FillStaticObjects` and `FillDynamicObjects` do with the pointers of a map, in the
order in which the map is iterated.
-/
def fillObjects (byteSize : UnityGameObjectInfo → Nat) (objects : List (Option UnityGameObject))
    : List ObjectListPacket :=
  if objects.isEmpty then [{ index := 0, isLast := true }]
  else (objects.foldl (ObjectPacking.visit byteSize) {}).finish

/-- The two maps of a room from object ids to pointers. -/
structure ObjectMaps where
  staticObjects : Table (BitVec 32) (Option UnityGameObject)
  dynamicObjects : Table (BitVec 32) (Option UnityGameObject)

def ObjectMaps.fillStaticObjects (byteSize : UnityGameObjectInfo → Nat) (maps : ObjectMaps)
    : List ObjectListPacket :=
  fillObjects byteSize maps.staticObjects.values

def ObjectMaps.fillDynamicObjects (byteSize : UnityGameObjectInfo → Nat) (maps : ObjectMaps)
    : List ObjectListPacket :=
  fillObjects byteSize maps.dynamicObjects.values

-----------------------------------------------------------------------------------------
-- The loop
-----------------------------------------------------------------------------------------

/-- The serialized objects of a list of pointers. -/
def serializeObjects (objects : List (Option UnityGameObject)) : List UnityGameObjectInfo :=
  objects.filterMap fun object => object.map UnityGameObject.serialize

/-- What the loop counts for a list of objects. -/
def payloadSize (byteSize : UnityGameObjectInfo → Nat) (objects : List UnityGameObjectInfo)
    : Nat :=
  (objects.map fun object => byteSize object + 5).sum

/-- Every object leaves room for its own tag and length. -/
def Small (byteSize : UnityGameObjectInfo → Nat) (objects : List UnityGameObjectInfo) : Prop :=
  ∀ object ∈ objects, byteSize object + 5 ≤ SAFE_PAYLOAD_LIMIT

theorem payloadSize_eq_zero {byteSize : UnityGameObjectInfo → Nat}
    {objects : List UnityGameObjectInfo}
    : payloadSize byteSize objects = 0 ↔ objects = [] := by
  cases objects <;> simp [payloadSize]

theorem payloadSize_concat {byteSize : UnityGameObjectInfo → Nat}
    {objects : List UnityGameObjectInfo} {object : UnityGameObjectInfo}
    : payloadSize byteSize (objects ++ [object])
      = payloadSize byteSize objects + (byteSize object + 5) := by
  simp [payloadSize]

namespace ObjectPacking

variable {byteSize : UnityGameObjectInfo → Nat} {packing : ObjectPacking}
  {done : List UnityGameObjectInfo}

/-- What holds between two iterations, when some objects are done: they stand in order in the
closed packets and the current one, the closed packets have at least one object each and are
numbered, and no packet exceeds the limit.
-/
structure Packs (byteSize : UnityGameObjectInfo → Nat) (done : List UnityGameObjectInfo)
    (packing : ObjectPacking)
    : Prop where
  objects : packing.outVec.flatMap (·.ingameObjects) ++ packing.current.ingameObjects = done
  numbered : ∀ k packet, packing.outVec[k]? = some packet →
    packet.index = BitVec.ofNat 32 k ∧ packet.isLast = false
  index : packing.index = BitVec.ofNat 32 packing.outVec.length
  filled : ∀ packet ∈ packing.outVec, packet.ingameObjects ≠ []
  limit : ∀ packet ∈ packing.outVec,
    payloadSize byteSize packet.ingameObjects ≤ SAFE_PAYLOAD_LIMIT
  size : packing.currentPayloadSize = payloadSize byteSize packing.current.ingameObjects
  currentLimit : packing.currentPayloadSize ≤ SAFE_PAYLOAD_LIMIT
  pending : packing.outVec ≠ [] → packing.current.ingameObjects ≠ []
  count : packing.outVec.length + packing.current.ingameObjects.length ≤ done.length

theorem Packs.initial : Packs byteSize [] {} where
  objects := rfl
  numbered := by simp
  index := rfl
  filled := by simp
  limit := by simp
  size := rfl
  currentLimit := Nat.zero_le _
  pending := by simp
  count := Nat.zero_le _

/-- The packets one after the other have the numbers from zero on. -/
theorem numbered_concat {packets : List ObjectListPacket} (last : ObjectListPacket)
    {packet : ObjectListPacket} {isLast : Bool} {k : Nat}
    (numbered : ∀ k packet, packets[k]? = some packet →
      packet.index = BitVec.ofNat 32 k ∧ packet.isLast = false)
    (index : last.index = BitVec.ofNat 32 packets.length) (flag : last.isLast = isLast)
    (found : (packets ++ [last])[k]? = some packet)
    : packet.index = BitVec.ofNat 32 k
      ∧ packet.isLast = (isLast && decide (k = packets.length)) := by
  by_cases earlier : k < packets.length
  · rw [List.getElem?_append_left earlier] at found
    obtain ⟨same, notLast⟩ := numbered k packet found
    exact ⟨same, by simp [notLast, Nat.ne_of_lt earlier]⟩
  · rw [List.getElem?_append_right (Nat.le_of_not_lt earlier)] at found
    have here : k - packets.length = 0 := by
      by_contra later
      simp [List.getElem?_eq_none (l := [last]) (i := k - packets.length) (by simp; omega)]
        at found
    obtain rfl : last = packet := by simpa [here] using found
    obtain rfl : k = packets.length := by omega
    exact ⟨index, by simp [flag]⟩

/-- A packet closes only when it has an object. -/
theorem Packs.flush (packs : Packs byteSize done packing)
    (pending : packing.current.ingameObjects ≠ [])
    : packing.flush.outVec.flatMap (·.ingameObjects) = done
      ∧ (∀ k packet, packing.flush.outVec[k]? = some packet →
        packet.index = BitVec.ofNat 32 k ∧ packet.isLast = false)
      ∧ packing.flush.index = BitVec.ofNat 32 packing.flush.outVec.length
      ∧ (∀ packet ∈ packing.flush.outVec, packet.ingameObjects ≠ []
        ∧ payloadSize byteSize packet.ingameObjects ≤ SAFE_PAYLOAD_LIMIT)
      ∧ packing.flush.outVec.length ≤ done.length := by
  have limit := packs.currentLimit
  have count := packs.count
  have some := List.length_pos_iff.mpr pending
  refine ⟨?_, fun k packet found => ?_, ?_, fun packet mem => ?_, ?_⟩
  · simp [ObjectPacking.flush, ← packs.objects]
  · simpa using numbered_concat _ packs.numbered packs.index rfl found
  · simp [ObjectPacking.flush, packs.index, BitVec.ofNat_add]
  · rcases List.mem_append.mp mem with mem | mem
    · exact ⟨packs.filled packet mem, packs.limit packet mem⟩
    · rw [List.mem_singleton.mp mem]
      exact ⟨pending, packs.size ▸ limit⟩
  · simp only [ObjectPacking.flush, List.length_append, List.length_singleton]
    omega

/-- One iteration packs one more object. -/
theorem Packs.visit (packs : Packs byteSize done packing) {object : UnityGameObject}
    (small : byteSize object.serialize + 5 ≤ SAFE_PAYLOAD_LIMIT)
    : Packs byteSize (done ++ [object.serialize]) (packing.visit byteSize (some object)) := by
  simp only [ObjectPacking.visit]
  split
  · next full =>
      have pending : packing.current.ingameObjects ≠ [] := fun none => by
        have size := packs.size
        rw [none, payloadSize_eq_zero.mpr rfl] at size
        omega
      obtain ⟨objects, numbered, index, closed, count⟩ := packs.flush pending
      exact
        { objects := by
            rw [← objects]
            simp [ObjectPacking.flush]
          numbered
          index
          filled := fun packet mem => (closed packet mem).1
          limit := fun packet mem => (closed packet mem).2
          size := by simp [ObjectPacking.flush, payloadSize]
          currentLimit := by simpa [ObjectPacking.flush] using small
          pending := by simp [ObjectPacking.flush]
          count := by simpa [ObjectPacking.flush] using count }
  · next fits =>
      have count := packs.count
      exact
        { objects := by simp [← packs.objects]
          numbered := packs.numbered
          index := packs.index
          filled := packs.filled
          limit := packs.limit
          size := by simp [payloadSize_concat, packs.size]
          currentLimit := by dsimp only; omega
          pending := by simp
          count := by simp; omega }

/-- The whole loop, by induction on the pointers. -/
theorem Packs.foldl (packs : Packs byteSize done packing)
    {objects : List (Option UnityGameObject)}
    (small : Small byteSize (serializeObjects objects))
    : Packs byteSize (done ++ serializeObjects objects)
        (objects.foldl (ObjectPacking.visit byteSize) packing) := by
  induction objects generalizing done packing with
  | nil => simpa [serializeObjects] using packs
  | cons pointer rest ih =>
      cases pointer with
      | none => exact ih packs small
      | some object =>
          have both : serializeObjects (some object :: rest)
              = object.serialize :: serializeObjects rest := rfl
          rw [both] at small ⊢
          have next := ih (packs.visit (small _ List.mem_cons_self)) fun other mem =>
            small other (List.mem_cons_of_mem _ mem)
          simpa using next

end ObjectPacking

-----------------------------------------------------------------------------------------
-- The packets
-----------------------------------------------------------------------------------------

/-- Packets that bring a list of objects to a client: they are numbered, the last one says so,
no object is lost or doubled, none is sent in vain, and each one fits a datagram.
-/
structure Brings (byteSize : UnityGameObjectInfo → Nat) (objects : List UnityGameObjectInfo)
    (packets : List ObjectListPacket)
    : Prop where
  nonempty : packets ≠ []
  index : ∀ (k : Nat) (packet : ObjectListPacket), packets[k]? = some packet →
    packet.index.toNat = k
  isLast : ∀ (k : Nat) (packet : ObjectListPacket), packets[k]? = some packet →
    (packet.isLast = true ↔ k + 1 = packets.length)
  objects : packets.flatMap (·.ingameObjects) = objects
  filled : packets.length ≠ 1 → ∀ packet ∈ packets, packet.ingameObjects ≠ []
  fits : ∀ packet ∈ packets, UDP_HEADER_SIZE + packet.byteSizeLong byteSize ≤ 1024

variable {byteSize : UnityGameObjectInfo → Nat}

/-- What the loop counts is not less than what the objects take, by induction on them. -/
theorem sum_messageFieldSize_le {objects : List UnityGameObjectInfo}
    (small : Small byteSize objects)
    : (objects.map fun object => messageFieldSize 3 (byteSize object)).sum
      ≤ payloadSize byteSize objects := by
  refine List.sum_le_sum fun object mem => ?_
  have limit := small object mem
  simp only [SAFE_PAYLOAD_LIMIT] at limit
  have size : messageFieldSize 3 (byteSize object) ≤ byteSize object + 3 :=
    messageFieldSize_le (by decide) (by omega)
  omega

/-- The margin holds the index and the flag. -/
theorem fits_of_payload {packet : ObjectListPacket}
    (small : Small byteSize packet.ingameObjects)
    (limit : payloadSize byteSize packet.ingameObjects ≤ SAFE_PAYLOAD_LIMIT)
    : UDP_HEADER_SIZE + packet.byteSizeLong byteSize ≤ 1024 := by
  have objects := sum_messageFieldSize_le small
  have index : uint32FieldSize 1 packet.index.toNat ≤ 6 :=
    uint32FieldSize_le (by decide) packet.index.isLt
  have flag : boolFieldSize 2 packet.isLast ≤ 2 := boolFieldSize_le (by decide) _
  simp only [ObjectListPacket.byteSizeLong, UDP_HEADER_SIZE]
  simp only [SAFE_PAYLOAD_LIMIT] at limit
  omega

/-- A sole packet without objects. -/
theorem brings_nothing : Brings byteSize [] [{ index := 0, isLast := true }] where
  nonempty := by simp
  index k packet found := by
    obtain ⟨rfl, rfl⟩ : k = 0 ∧ packet = { index := 0, isLast := true } := by
      cases k <;> simp_all
    rfl
  isLast k packet found := by
    obtain ⟨rfl, rfl⟩ : k = 0 ∧ packet = { index := 0, isLast := true } := by
      cases k <;> simp_all
    simp
  objects := rfl
  filled other := absurd rfl other
  fits packet mem := by
    rw [List.mem_singleton.mp mem]
    exact fits_of_payload (by simp [Small]) (Nat.zero_le _)

/-- The packets after the loop, of which there are no more than objects. -/
theorem ObjectPacking.Packs.finish {packing : ObjectPacking}
    {done : List UnityGameObjectInfo} (packs : packing.Packs byteSize done)
    (small : Small byteSize done) (few : done.length ≤ 2 ^ 32)
    : Brings byteSize done packing.finish := by
  have size := packs.size
  have count := packs.count
  by_cases none : packing.current.ingameObjects = []
  · have noPackets : packing.outVec = [] := by
      by_contra some
      exact packs.pending some none
    have objects := packs.objects
    rw [none, payloadSize_eq_zero.mpr rfl] at size
    rw [noPackets, none] at objects
    obtain rfl : [] = done := objects
    simp only [ObjectPacking.finish, size, noPackets, none, List.isEmpty_nil, if_true,
      gt_iff_lt, Nat.lt_irrefl, if_false]
    exact brings_nothing
  · have some : packing.currentPayloadSize > 0 :=
      Nat.pos_of_ne_zero fun zero => none (payloadSize_eq_zero.mp (size.symm.trans zero))
    have objects := packs.objects
    have pending := List.length_pos_iff.mpr none
    rw [ObjectPacking.finish, if_pos some]
    have numbered (k : Nat) (packet : ObjectListPacket) (found) :=
      numbered_concat { packing.current with index := packing.index, isLast := true }
        packs.numbered packs.index rfl (found : _[k]? = Option.some packet)
    refine
      { nonempty := by simp
        index := fun k packet found => ?_
        isLast := fun k packet found => ?_
        objects := by simp [← objects]
        filled := fun _ packet mem => ?_
        fits := fun packet mem => ?_ }
    · have inside := (List.getElem?_eq_some_iff.mp found).1
      rw [List.length_append, List.length_singleton] at inside
      rw [(numbered k packet found).1, BitVec.toNat_ofNat, Nat.mod_eq_of_lt (by omega)]
    · simp [(numbered k packet found).2]
    · rcases List.mem_append.mp mem with mem | mem
      · exact packs.filled packet mem
      · rw [List.mem_singleton.mp mem]
        exact none
    · have part : packet.ingameObjects ⊆ done ∧
          payloadSize byteSize packet.ingameObjects ≤ SAFE_PAYLOAD_LIMIT := by
        rw [← objects]
        rcases List.mem_append.mp mem with mem | mem
        · exact ⟨fun object here => List.mem_append_left _
            (List.mem_flatMap.mpr ⟨packet, mem, here⟩), packs.limit packet mem⟩
        · rw [List.mem_singleton.mp mem]
          exact ⟨List.subset_append_right _ _, size ▸ packs.currentLimit⟩
      exact fits_of_payload (fun object here => small object (part.1 here)) part.2

/-- A list of pointers, of which there are no more than ids, is brought to a client. -/
theorem fillObjects_brings {objects : List (Option UnityGameObject)}
    (small : Small byteSize (serializeObjects objects)) (few : objects.length ≤ 2 ^ 32)
    : Brings byteSize (serializeObjects objects) (fillObjects byteSize objects) := by
  unfold fillObjects
  split
  · next none =>
      rw [List.isEmpty_iff.mp none]
      exact brings_nothing
  · exact (ObjectPacking.Packs.initial.foldl small).finish small
      ((List.length_filterMap_le _ _).trans few)

/-- No map has more entries than there are ids. -/
theorem values_length_le (objects : Table (BitVec 32) (Option UnityGameObject))
    : objects.values.length ≤ 2 ^ 32 := by
  have ids : (objects.keys.map BitVec.toFin).Nodup :=
    objects.keys_nodup.map fun _ _ => BitVec.eq_of_toFin_eq
  simpa [AList.keys, List.keys, Table.values] using List.Nodup.length_le_card ids

-----------------------------------------------------------------------------------------
-- The lists of a room
-----------------------------------------------------------------------------------------

/-- What a packet says. -/
def ObjectListPacket.content (packet : ObjectListPacket)
    : Nat × Bool × List UnityGameObjectInfo :=
  (packet.index.toNat, packet.isLast, packet.ingameObjects)

/-- The loop without null pointers gives the packets of a room, by induction on the objects. -/
theorem foldl_finish_content (env : Environment) {packing : ObjectPacking}
    {objects : List UnityGameObject}
    (index : packing.index = BitVec.ofNat 32 packing.outVec.length)
    (few : packing.outVec.length + objects.length < 2 ^ 32)
    : (((objects.map some).foldl (ObjectPacking.visit env.byteSize) packing).finish).map
        ObjectListPacket.content
      = packing.outVec.map ObjectListPacket.content
        ++ GameRoom.fillChunks env (objects.map UnityGameObject.serialize)
          packing.outVec.length packing.current.ingameObjects.reverse
          packing.currentPayloadSize := by
  induction objects generalizing packing with
  | nil =>
      have same : packing.index.toNat = packing.outVec.length := by
        rw [index, BitVec.toNat_ofNat, Nat.mod_eq_of_lt (by simpa using few)]
      by_cases some : packing.currentPayloadSize > 0
      · simp [ObjectPacking.finish, GameRoom.fillChunks, some, ObjectListPacket.content, same]
      · by_cases none : packing.outVec = []
        · simp [ObjectPacking.finish, GameRoom.fillChunks, some, none,
            ObjectListPacket.content]
        · simp [ObjectPacking.finish, GameRoom.fillChunks, some, none]
  | cons object rest ih =>
      rw [List.length_cons] at few
      have same : packing.index.toNat = packing.outVec.length := by
        rw [index, BitVec.toNat_ofNat, Nat.mod_eq_of_lt (by omega)]
      simp only [List.map_cons, List.foldl_cons, ObjectPacking.visit, GameRoom.fillChunks]
      by_cases full : packing.currentPayloadSize + (env.byteSize object.serialize + 5)
          > SAFE_PAYLOAD_LIMIT
      · rw [if_pos full, if_pos (by simpa [SAFE_PAYLOAD_LIMIT] using full), ih]
        · simp [ObjectPacking.flush, ObjectListPacket.content, same]
        · simp [ObjectPacking.flush, index, BitVec.ofNat_add]
        · simp only [ObjectPacking.flush, List.length_append, List.length_singleton]
          omega
      · rw [if_neg full, if_neg (by simpa [SAFE_PAYLOAD_LIMIT] using full), ih]
        · simp
        · exact index
        · dsimp only
          omega

/-- The packets that a room sends for its static objects and for its dynamic ones. -/
theorem fillObjects_content (env : Environment) {objects : Table Nat NonplayerObject}
    (few : objects.values.length < 2 ^ 32)
    : (fillObjects env.byteSize (objects.values.map fun object => some object.base)).map
        ObjectListPacket.content
      = GameRoom.fillChunks env (GameRoom.serializedObjects objects) 0 [] 0 := by
  have serialized : GameRoom.serializedObjects objects
      = (objects.values.map NonplayerObject.base).map UnityGameObject.serialize := by
    simp [GameRoom.serializedObjects]
  have pointers : (objects.values.map fun object => some object.base)
      = (objects.values.map NonplayerObject.base).map some := by
    simp
  rw [serialized, pointers]
  unfold fillObjects
  split
  · next none =>
      rw [List.isEmpty_iff, List.map_eq_nil_iff] at none
      rw [none]
      rfl
  · exact foldl_finish_content env rfl (by simpa using few)

/-- A room answers a request for its blueprint with the packets of its static objects. -/
theorem fillStaticObjects_eq (env : Environment) (room : GameRoom)
    (few : room.staticObjects.values.length < 2 ^ 32)
    : room.fillStaticObjects env
      = (fillObjects env.byteSize
          (room.staticObjects.values.map fun object => some object.base)).map
        fun packet => .responseBlueprintStaticObjects packet.index.toNat packet.isLast
          packet.ingameObjects := by
  rw [GameRoom.fillStaticObjects, ← fillObjects_content env few, List.map_map]
  rfl

theorem fillDynamicObjects_eq (env : Environment) (room : GameRoom)
    (few : room.dynamicObjects.values.length < 2 ^ 32)
    : room.fillDynamicObjects env
      = (fillObjects env.byteSize
          (room.dynamicObjects.values.map fun object => some object.base)).map
        fun packet => .responseSpawnMeDynamicObjects packet.index.toNat packet.isLast
          packet.ingameObjects := by
  rw [GameRoom.fillDynamicObjects, ← fillObjects_content env few, List.map_map]
  rfl

/-- Both lists of objects are brought to the client, whatever the objects, as long as each of
them fits a packet.
-/
theorem object_lists_brought (byteSize : UnityGameObjectInfo → Nat) (maps : ObjectMaps)
    : (Small byteSize (serializeObjects maps.staticObjects.values) →
        Brings byteSize (serializeObjects maps.staticObjects.values)
          (maps.fillStaticObjects byteSize))
      ∧ (Small byteSize (serializeObjects maps.dynamicObjects.values) →
        Brings byteSize (serializeObjects maps.dynamicObjects.values)
          (maps.fillDynamicObjects byteSize)) :=
  ⟨fun small => fillObjects_brings small (values_length_le _),
    fun small => fillObjects_brings small (values_length_le _)⟩

def bus (objectId : Nat) : UnityGameObject := { objectId, objectType := .tenerifeBus }

/-- Two buses with a null pointer between them. -/
def twoBuses : ObjectMaps where
  staticObjects :=
    ((Table.tryEmplace 9 (some (bus 9)) ∅).tryEmplace 8 none).tryEmplace 7 (some (bus 7))
  dynamicObjects := ∅

/-- Buses of 970 bytes need a packet each. -/
theorem object_lists_brought_twoBuses
    : (twoBuses.fillStaticObjects fun _ => 970).length = 2
      ∧ Brings (fun _ => 970) (serializeObjects twoBuses.staticObjects.values)
        (twoBuses.fillStaticObjects fun _ => 970)
      ∧ Brings (fun _ => 970) [] (twoBuses.fillDynamicObjects fun _ => 970) := by
  have small (objects : List UnityGameObjectInfo) : Small (fun _ => 970) objects :=
    fun _ _ => by simp [SAFE_PAYLOAD_LIMIT]
  obtain ⟨static, dynamic⟩ := object_lists_brought (fun _ => 970) twoBuses
  exact ⟨by decide, static (small _), dynamic (small _)⟩

end ExtractionServer.Room
