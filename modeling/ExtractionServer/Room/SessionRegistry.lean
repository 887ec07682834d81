import ExtractionServer.Room.DediServerService

/-! The session ids of a dedicated process: live sessions and free ids never overlap, so
every room is registered with as many sessions as its group has players.
-/

namespace ExtractionServer.Room

namespace DediServerService

/-- The ids of the sessions in all rooms. -/
def liveIds (service : DediServerService) : List Nat :=
  (service.gameRooms.values.map fun host => host.room.playerSessions.keys).flatten

/-- Free ids, the ids of a room in the making and live ids are all different, and each has
its place among the players.
-/
structure Registered (service : DediServerService) (entering : List Nat) : Prop where
  nodup : (service.freePlayerIds ++ (entering ++ service.liveIds)).Nodup
  bound : ∀ id ∈ service.freePlayerIds ++ (entering ++ service.liveIds),
    id < service.players.length

/-- The process starts with fifty free ids. -/
theorem registered_new : Registered {} [] where
  nodup := by decide
  bound := by decide

/-- Rearranging ids keeps the registry in order. -/
theorem Registered.perm {before after : DediServerService} {entering later : List Nat}
    (h : before.Registered entering)
    (ids : (after.freePlayerIds ++ (later ++ after.liveIds)).Perm
      (before.freePlayerIds ++ (entering ++ before.liveIds)))
    (players : after.players.length = before.players.length)
    : after.Registered later where
  nodup := ids.nodup_iff.mpr h.nodup
  bound id mem := players ▸ h.bound id (ids.mem_iff.mp mem)

/-- A session id is taken from the free ones, or it is new. -/
theorem getFreeSessionId_registered {service : DediServerService} {entering : List Nat}
    (h : service.Registered entering)
    : service.getFreeSessionId.1.Registered (service.getFreeSessionId.2 :: entering) := by
  unfold getFreeSessionId
  split
  · next id rest free =>
      refine h.perm ?_ rfl
      rw [free]
      exact List.perm_middle
  · next free =>
      have fresh : service.players.length ∉ entering ++ service.liveIds := fun mem =>
        absurd (h.bound _ (List.mem_append_right _ mem)) (Nat.lt_irrefl _)
      constructor
      · have others := h.nodup
        simp only [free, List.nil_append] at others ⊢
        exact List.nodup_cons.mpr ⟨fresh, others⟩
      · intro id mem
        simp only [free, List.nil_append, List.cons_append, List.mem_cons] at mem
        rw [List.length_append, List.length_singleton]
        rcases mem with rfl | mem
        · exact Nat.lt_succ_self _
        · exact (h.bound id (List.mem_append_right _ mem)).trans (Nat.lt_succ_self _)

theorem getFreeSessionId_frame (service : DediServerService)
    : service.getFreeSessionId.1.gameRooms = service.gameRooms
      ∧ service.getFreeSessionId.1.toMain = service.toMain
      ∧ service.getFreeSessionId.1.pendingDestroyRooms = service.pendingDestroyRooms
      ∧ service.getFreeSessionId.1.roomId = service.roomId := by
  unfold getFreeSessionId
  split <;> exact ⟨rfl, rfl, rfl, rfl⟩

-----------------------------------------------------------------------------------------
-- Making a room
-----------------------------------------------------------------------------------------

/-- The loop that fills a room: the registry is in order, the room holds one session for each
player admitted so far, and the other rooms are as they were.
-/
structure Admission.Filled (before : DediServerService) (count : Nat) (loop : Admission)
    : Prop where
  registered : loop.service.Registered loop.room.playerSessions.keys
  count : loop.room.playerSessions.keys.length = count
  fresh : ({ room := loop.room } : RoomHost).Fresh
  gameRooms : loop.service.gameRooms = before.gameRooms
  toMain : loop.service.toMain = before.toMain
  pendingDestroyRooms : loop.service.pendingDestroyRooms = before.pendingDestroyRooms
  roomId : loop.service.roomId = before.roomId

/-- A session as the room registers it. -/
theorem newSession_fresh (info : PlayerInfo) (securityKey : BitVec 32)
    : (newSession info securityKey).Fresh :=
  ⟨⟨_, _, rfl⟩, rfl, rfl, rfl, rfl, rfl, rfl, rfl⟩

/-- One more player. -/
theorem Admission.Filled.admitPlayer {before : DediServerService} {count roomId : Nat}
    {loop next : Admission} (h : loop.Filled before count) {info : PlayerInfo} {draw : Draw}
    (step : loop.admitPlayer roomId info draw = some next)
    : next.Filled before (count + 1) := by
  obtain ⟨token, _, rfl⟩ := Option.map_eq_some_iff.mp step
  have taken := getFreeSessionId_registered h.registered
  obtain ⟨rooms, messages, pending, counter⟩ := getFreeSessionId_frame loop.service
  generalize loop.service.getFreeSessionId = got at taken rooms messages pending counter
  obtain ⟨service, sessionId⟩ := got
  have unused : sessionId ∉ loop.room.playerSessions := by
    intro mem
    have nodup := (List.nodup_append.mp taken.nodup).2.1
    have apart := (List.nodup_cons.mp nodup).1
    exact apart (List.mem_append_left _ (AList.mem_keys.mp mem))
  have keys : (loop.room.playerSessions.tryEmplace sessionId
        (newSession info draw.securityKey)).keys
      = sessionId :: loop.room.playerSessions.keys := by
    rw [Table.tryEmplace, if_neg unused, AList.keys_insert,
      List.erase_of_not_mem fun mem => unused (AList.mem_keys.mpr mem)]
  refine ⟨?_, ?_, ?_, ?_, ?_, ?_, ?_⟩
  · refine taken.perm ?_ ?_
    · simp only [keys, liveIds]
      exact .refl _
    · exact List.length_set
  · simp only [keys, List.length_cons, h.count]
  · refine { h.fresh with sessions := fun otherId session found => ?_ }
    rcases Table.lookup_tryEmplace_cases unused found with ⟨_, rfl⟩ | old
    · exact newSession_fresh info draw.securityKey
    · exact h.fresh.sessions otherId session old
  · exact rooms.trans h.gameRooms
  · exact messages.trans h.toMain
  · exact pending.trans h.pendingDestroyRooms
  · exact counter.trans h.roomId

/-- The whole loop, by induction on the players. -/
theorem Admission.Filled.admitAll {before : DediServerService} {count roomId : Nat}
    {loop last : Admission} {infos : List PlayerInfo} {draws : List Draw}
    (h : loop.Filled before count) (step : loop.admitAll roomId infos draws = some last)
    : last.Filled before (count + infos.length) := by
  induction infos generalizing loop draws count with
  | nil =>
      cases step
      exact h
  | cons info infos ih =>
      cases draws with
      | nil => cases step
      | cons draw draws =>
          simp only [Admission.admitAll] at step
          split at step
          · cases step
          · next next admitted =>
              have rest := ih (h.admitPlayer admitted) step
              rwa [Nat.add_assoc, Nat.add_comm 1] at rest

/-- The effect of `MakeRoomForThisGroup` for a known map: a new room with one session for
each player of the packet.
-/
structure Made (pkt : M2DMakeRoomForThisGroup) (before after : DediServerService) : Prop where
  room : ∃ host : RoomHost, host.Fresh
    ∧ host.room.playerSessions.keys.length = pkt.playerInfos.length
    ∧ after.gameRooms = before.gameRooms.tryEmplace (before.roomId + 1) host
  toMain : ∃ entries, after.toMain = before.toMain ++ [.updateEntryToken entries]
  roomId : after.roomId = before.roomId + 1
  pendingDestroyRooms : after.pendingDestroyRooms = before.pendingDestroyRooms
  registered : before.roomId + 1 ∉ before.gameRooms → after.Registered []

/-- The loop starts with an empty room. -/
theorem Admission.Filled.start {before : DediServerService}
    (registered : before.Registered []) {room : GameRoom}
    (fresh : ({ room } : RoomHost).Fresh) (nobody : room.playerSessions = ∅) (roomId : Nat)
    : Admission.Filled { before with roomId } 0 { service := { before with roomId }, room } := by
  refine ⟨?_, ?_, fresh, rfl, rfl, rfl, rfl⟩
  · rw [nobody]
    exact ⟨registered.nodup, registered.bound⟩
  · rw [nobody]
    rfl

/-- A room is made for the map of the packet, or the map is unknown and only the counter
moves.
-/
theorem makeRoomForThisGroup_cases {maps : MapRooms} {before after : DediServerService}
    {draws : List Draw} {pkt : M2DMakeRoomForThisGroup} {handled : Bool}
    (step : before.makeRoomForThisGroup maps draws pkt = some (after, handled))
    : (pkt.mapId ≠ MAP_TUTORIAL ∧ pkt.mapId ≠ MAP_TENERIFE)
        ∧ after = { before with roomId := before.roomId + 1 }
      ∨ ∃ (room : GameRoom) (loop : Admission),
        (room = maps.testGameRoom (before.roomId + 1)
          ∨ room = maps.tenerifeGameRoom (before.roomId + 1))
        ∧ Admission.admitAll (before.roomId + 1)
            { service := { before with roomId := before.roomId + 1 }, room }
            pkt.playerInfos draws = some loop
        ∧ handled = true
        ∧ after = { loop.service with
            gameRooms := loop.service.gameRooms.tryEmplace (before.roomId + 1)
              { room := loop.room }
            toMain := loop.service.toMain ++ [.updateEntryToken loop.entries] } := by
  simp only [makeRoomForThisGroup] at step
  by_cases tutorial : pkt.mapId = MAP_TUTORIAL
  · simp only [if_pos tutorial] at step
    obtain ⟨loop, admitted, made⟩ := Option.map_eq_some_iff.mp step
    obtain ⟨rfl, rfl⟩ := Prod.mk.inj made
    exact .inr ⟨_, loop, .inl rfl, admitted, rfl, rfl⟩
  · by_cases tenerife : pkt.mapId = MAP_TENERIFE
    · simp only [if_neg tutorial, if_pos tenerife] at step
      obtain ⟨loop, admitted, made⟩ := Option.map_eq_some_iff.mp step
      obtain ⟨rfl, rfl⟩ := Prod.mk.inj made
      exact .inr ⟨_, loop, .inr rfl, admitted, rfl, rfl⟩
    · simp only [if_neg tutorial, if_neg tenerife, Option.some.injEq, Prod.mk.injEq] at step
      exact .inl ⟨⟨tutorial, tenerife⟩, step.1.symm⟩

/-- Both maps place their objects and register nobody. -/
theorem fresh_of_map {maps : MapRooms} {roomId : Nat} {room : GameRoom}
    (map : room = maps.testGameRoom roomId ∨ room = maps.tenerifeGameRoom roomId)
    : ({ room } : RoomHost).Fresh ∧ room.playerSessions = ∅ := by
  rcases map with rfl | rfl
  · exact maps.testGameRoom_fresh roomId
  · exact maps.tenerifeGameRoom_fresh roomId

theorem makeRoomForThisGroup_made {maps : MapRooms} {before after : DediServerService}
    {draws : List Draw} {pkt : M2DMakeRoomForThisGroup} {handled : Bool}
    (registered : before.Registered [])
    (known : pkt.mapId = MAP_TUTORIAL ∨ pkt.mapId = MAP_TENERIFE)
    (step : before.makeRoomForThisGroup maps draws pkt = some (after, handled))
    : handled = true ∧ Made pkt before after := by
  rcases makeRoomForThisGroup_cases step with
    ⟨unknown, _⟩ | ⟨room, loop, map, admitted, rfl, rfl⟩
  · exact absurd known (not_or.mpr unknown)
  · obtain ⟨fresh, nobody⟩ := fresh_of_map map
    have last := (Admission.Filled.start registered fresh nobody _).admitAll admitted
    rw [Nat.zero_add] at last
    refine ⟨rfl, ⟨_, last.fresh, last.count, ?_⟩, ⟨loop.entries, ?_⟩, last.roomId,
      last.pendingDestroyRooms, fun unused => ?_⟩
    · simp only [last.gameRooms]
    · simp only [last.toMain]
    · refine last.registered.perm (.of_eq ?_) rfl
      simp only [liveIds, List.nil_append, last.gameRooms]
      rw [Table.values_tryEmplace_fresh unused]
      rfl

-----------------------------------------------------------------------------------------
-- Rooms at work and their end
-----------------------------------------------------------------------------------------

/-- Whatever happens in a room, it keeps its sessions. -/
theorem inRoom_cases {env : Environment} {before after : DediServerService} {roomId : Nat}
    {action : RoomHost.Action} (step : before.inRoom env roomId action = some after)
    (sound : ∀ host, before.gameRooms.lookup roomId = some host → host.Sound)
    : ∃ host later : RoomHost, before.gameRooms.lookup roomId = some host
        ∧ later.Sound
        ∧ later.room.playerSessions.keys = host.room.playerSessions.keys
        ∧ after.gameRooms = before.gameRooms.adjust roomId (fun _ => later)
        ∧ after.toMain = before.toMain
        ∧ after.roomId = before.roomId
        ∧ (before.Registered [] → after.Registered []) := by
  unfold inRoom at step
  split at step
  · cases step
  · next host found =>
      obtain ⟨later, moved, rfl⟩ := Option.map_eq_some_iff.mp step
      have moves := RoomHost.next_moves moved (host.spawnMeets_any action)
      have keys := (moves.keeps (sound host found)).keys
      have kept := moves.sound (sound host found)
      refine ⟨host, { later with wire := { later.wire with pendingDestroyRooms := [] } },
        found, ⟨kept.layout, kept.currentIds, kept.owners, kept.deaths, kept.leaves,
        kept.notices⟩, keys, rfl, rfl, rfl, fun registered => ?_⟩
      refine registered.perm (.of_eq ?_) rfl
      simp only [liveIds]
      rw [Table.map_adjust_of_same]
      intro stored present
      cases found.symm.trans present
      exact keys

theorem foldl_releaseSession (sessionIds : List Nat) (service : DediServerService)
    : (sessionIds.foldl releaseSession service).freePlayerIds
        = service.freePlayerIds ++ sessionIds
      ∧ (sessionIds.foldl releaseSession service).players.length = service.players.length
      ∧ (sessionIds.foldl releaseSession service).gameRooms = service.gameRooms
      ∧ (sessionIds.foldl releaseSession service).toMain = service.toMain
      ∧ (sessionIds.foldl releaseSession service).roomId = service.roomId := by
  induction sessionIds generalizing service with
  | nil => simp
  | cons sessionId rest ih =>
      obtain ⟨free, players, rooms, messages, counter⟩ := ih (service.releaseSession sessionId)
      refine ⟨?_, ?_, rooms, messages, counter⟩
      · rw [List.foldl_cons, free]
        simp [releaseSession]
      · rw [List.foldl_cons, players]
        simp [releaseSession]

/-- The end of a room: it is reported with the number of its sessions, whose ids are free
again.
-/
theorem destroyRoom_cases (service : DediServerService) (roomId : Nat)
    : service.gameRooms.lookup roomId = none ∧ service.destroyRoom roomId = service
      ∨ ∃ host, service.gameRooms.lookup roomId = some host
        ∧ (service.destroyRoom roomId).gameRooms = service.gameRooms.erase roomId
        ∧ (service.destroyRoom roomId).toMain = service.toMain
            ++ [.notifyRoomDestroyed roomId host.room.playerSessions.keys.length]
        ∧ (service.destroyRoom roomId).roomId = service.roomId
        ∧ (service.Registered [] → (service.destroyRoom roomId).Registered []) := by
  unfold destroyRoom
  cases found : service.gameRooms.lookup roomId with
  | none => exact .inl ⟨rfl, rfl⟩
  | some host =>
      obtain ⟨free, players, rooms, messages, counter⟩ :=
        foldl_releaseSession host.room.playerSessions.keys
          { service with
            toMain := service.toMain ++
              [.notifyRoomDestroyed roomId host.room.playerSessions.keys.length] }
      refine .inr ⟨host, rfl, ?_, messages, counter, fun registered => ?_⟩
      · simp only [rooms]
      · refine registered.perm ?_ players
        simp only [free, liveIds, rooms, List.nil_append]
        rw [List.append_assoc]
        refine List.Perm.append_left _ ?_
        exact ((Table.values_perm_erase found).map
          fun host : RoomHost => host.room.playerSessions.keys).flatten.symm

end DediServerService

end ExtractionServer.Room
