import ExtractionServer.Room.RoomLifetime
import ExtractionServer.Room.SessionRegistry

/-! The registry of a dedicated process over whole runs: rooms are made, tokens bound and rooms
destroyed in any order, and every session keeps its id, its place and its token to itself
until its one release.
-/

namespace ExtractionServer.Room

open Transition (System)

/-- The two maps with the number that a room has from its constructor. -/
structure NumberedMaps extends MapRooms where
  testGameRoom_roomId (roomId : Nat) : (testGameRoom roomId).roomId = roomId
  tenerifeGameRoom_roomId (roomId : Nat) : (tenerifeGameRoom roomId).roomId = roomId

theorem NumberedMaps.roomId_of_map (maps : NumberedMaps) {roomId : Nat} {room : GameRoom}
    (map : room = maps.testGameRoom roomId ∨ room = maps.tenerifeGameRoom roomId)
    : room.roomId = roomId := by
  rcases map with rfl | rfl
  · exact maps.testGameRoom_roomId roomId
  · exact maps.tenerifeGameRoom_roomId roomId

namespace RoomHost

/-- `SetIp`, with what `inet_pton` reads from the text; a text that is no address changes
nothing.
-/
def setIp (host : RoomHost) (sessionId : Nat) : Option (BitVec 32) → RoomHost
  | none => host
  | some addr =>
      host.modifySession sessionId fun session =>
        { session with clientAddr := { session.clientAddr with addr } }

/-- The sessions of a room, each known by the number of the room and its id. -/
def handles (host : RoomHost) : List (Nat × Nat) :=
  host.room.playerSessions.keys.map fun sessionId => (host.room.roomId, sessionId)

end RoomHost

/-- A session that goes back to the pool, and how far its leave has come by then. -/
structure Release where
  roomId : Nat
  sessionId : Nat
  leaveState : LeaveState
deriving DecidableEq, Repr

def Release.handle (release : Release) : Nat × Nat := (release.roomId, release.sessionId)

namespace DediServerService

-----------------------------------------------------------------------------------------
-- Tokens and releases
-----------------------------------------------------------------------------------------

/-- `Handle_H2M2D_BCITSpkt`: the session that the token belongs to takes the address, and the
token is used up.
-/
def bindClientIp (service : DediServerService) (token : String) (addr : Option (BitVec 32))
    : DediServerService × Bool :=
  match service.tokenToPlayerSession.lookup token with
  | none => (service, false)
  | some sessionId =>
      ({ service with
          gameRooms :=
            match service.players[sessionId]? with
            | some (some roomId) =>
                service.gameRooms.adjust roomId fun host => host.setIp sessionId addr
            | _ => service.gameRooms
          tokenToPlayerSession := service.tokenToPlayerSession.erase token }, true)

/-- The sessions that `DestroyRoom` releases. -/
def releasedWith (service : DediServerService) (roomId : Nat) : List Release :=
  match service.gameRooms.lookup roomId with
  | none => []
  | some host =>
      host.room.playerSessions.entries.map fun entry =>
        { roomId := host.room.roomId, sessionId := entry.1, leaveState := entry.2.leaveState }

/-- The sessions that the loop of `DestroyPendingRooms` releases. -/
def releasedWithAll : DediServerService → List Nat → List Release
  | _, [] => []
  | service, roomId :: rest =>
      service.releasedWith roomId ++ (service.destroyRoom roomId).releasedWithAll rest

-----------------------------------------------------------------------------------------
-- Runs
-----------------------------------------------------------------------------------------

/-- One turn of the process. -/
inductive Action where
  | makeRoomForThisGroup (draws : List Draw) (pkt : M2DMakeRoomForThisGroup)
  | bindClientIp (token : String) (addr : Option (BitVec 32))
  | inRoom (roomId : Nat) (action : RoomHost.Action)
  | destroyPendingRooms

def next (maps : MapRooms) (env : Environment) (service : DediServerService)
    : Action → Option DediServerService
  | .makeRoomForThisGroup draws pkt =>
      (service.makeRoomForThisGroup maps draws pkt).map Prod.fst
  | .bindClientIp token addr => some (service.bindClientIp token addr).1
  | .inRoom roomId action => service.inRoom env roomId action
  | .destroyPendingRooms => some service.destroyPendingRooms

/-- What an observer notes: the sessions that were created and those that were released. -/
structure Record where
  created : List (Nat × Nat) := []
  released : List Release := []

/-- The sessions in the room with a number, if there is one. -/
def handlesIn (service : DediServerService) (roomId : Nat) : List (Nat × Nat) :=
  match service.gameRooms.lookup roomId with
  | none => []
  | some host => host.handles

def Record.observe (record : Record) (before : DediServerService) (action : Action)
    (after : DediServerService)
    : Record :=
  match action with
  | .makeRoomForThisGroup _ _ =>
      { record with created := record.created ++ after.handlesIn after.roomId }
  | .bindClientIp _ _ => record
  | .inRoom _ _ => record
  | .destroyPendingRooms =>
      { record with
        released := record.released ++ before.releasedWithAll before.pendingDestroyRooms }

/-- The runs of a fresh process, observed. -/
def watchedSystem (maps : MapRooms) (env : Environment)
    : System (DediServerService × Record) Action :=
  (System.ofNext (· = {}) (next maps env)).observed {} Record.observe

-----------------------------------------------------------------------------------------
-- Live sessions
-----------------------------------------------------------------------------------------

/-- The sessions of all rooms. -/
def liveSessions (service : DediServerService) : List (Nat × Nat) :=
  (service.gameRooms.values.map RoomHost.handles).flatten

/-- The room with the number holds a session with the id. -/
def HasSession (service : DediServerService) (roomId id : Nat) : Prop :=
  ∃ host, service.gameRooms.lookup roomId = some host ∧ id ∈ host.room.playerSessions

variable {service before after : DediServerService} {roomId : Nat}

theorem mem_liveIds_iff {id : Nat}
    : id ∈ service.liveIds ↔ ∃ roomId, service.HasSession roomId id := by
  simp only [liveIds, List.mem_flatten, List.mem_map, Table.mem_values_iff, HasSession]
  constructor
  · rintro ⟨_, ⟨host, ⟨roomId, found⟩, rfl⟩, mem⟩
    exact ⟨roomId, host, found, AList.mem_keys.mpr mem⟩
  · rintro ⟨roomId, host, found, mem⟩
    exact ⟨_, ⟨host, ⟨roomId, found⟩, rfl⟩, AList.mem_keys.mp mem⟩

/-- A new room adds its sessions. -/
theorem hasSession_tryEmplace {host : RoomHost} {other id : Nat}
    (unused : roomId ∉ before.gameRooms)
    (rooms : after.gameRooms = before.gameRooms.tryEmplace roomId host)
    : after.HasSession other id
      ↔ before.HasSession other id ∨ other = roomId ∧ id ∈ host.room.playerSessions := by
  simp only [HasSession, rooms]
  constructor
  · rintro ⟨stored, found, mem⟩
    rcases Table.lookup_tryEmplace_cases unused found with ⟨rfl, rfl⟩ | old
    · exact .inr ⟨rfl, mem⟩
    · exact .inl ⟨stored, old, mem⟩
  · rintro (⟨stored, old, mem⟩ | ⟨rfl, mem⟩)
    · have ne : other ≠ roomId := by
        rintro rfl
        exact unused (Table.mem_of_lookup old)
      exact ⟨stored, (Table.lookup_tryEmplace_ne ne _ _).trans old, mem⟩
    · exact ⟨host, Table.lookup_tryEmplace_fresh unused host, mem⟩

/-- A room that keeps its sessions changes nothing about who is live. -/
theorem hasSession_adjust {f : RoomHost → RoomHost} {other id : Nat}
    (rooms : after.gameRooms = before.gameRooms.adjust roomId f)
    (keys : ∀ host, before.gameRooms.lookup roomId = some host →
      (f host).room.playerSessions.keys = host.room.playerSessions.keys)
    : after.HasSession other id ↔ before.HasSession other id := by
  have kept : ∀ host, before.gameRooms.lookup roomId = some host →
      (id ∈ (f host).room.playerSessions ↔ id ∈ host.room.playerSessions) := by
    intro host found
    rw [AList.mem_keys, AList.mem_keys, keys host found]
  simp only [HasSession, rooms]
  constructor
  · rintro ⟨stored, found, mem⟩
    rcases Table.lookup_adjust_cases found with ⟨rfl, host, old, rfl⟩ | ⟨_, old⟩
    · exact ⟨host, old, (kept host old).mp mem⟩
    · exact ⟨stored, old, mem⟩
  · rintro ⟨stored, old, mem⟩
    rw [Table.lookup_adjust]
    split
    · next same =>
        subst same
        exact ⟨f stored, by rw [old]; rfl, (kept stored old).mpr mem⟩
    · exact ⟨stored, old, mem⟩

/-- The end of a room takes its sessions away. -/
theorem hasSession_erase {other id : Nat}
    (rooms : after.gameRooms = before.gameRooms.erase roomId)
    : after.HasSession other id ↔ other ≠ roomId ∧ before.HasSession other id := by
  simp only [HasSession, rooms]
  constructor
  · rintro ⟨stored, found, mem⟩
    obtain ⟨ne, old⟩ := Table.lookup_erase_cases found
    exact ⟨ne, stored, old, mem⟩
  · rintro ⟨ne, stored, found, mem⟩
    exact ⟨stored, (AList.lookup_erase_ne ne).trans found, mem⟩

/-- A new room's sessions come first among the live ones. -/
theorem liveSessions_tryEmplace {host : RoomHost} (unused : roomId ∉ before.gameRooms)
    (rooms : after.gameRooms = before.gameRooms.tryEmplace roomId host)
    : after.liveSessions = host.handles ++ before.liveSessions := by
  simp only [liveSessions, rooms, Table.values_tryEmplace_fresh unused, List.map_cons,
    List.flatten_cons]

/-- The sessions of a destroyed room are the live ones that go. -/
theorem liveSessions_erase {host : RoomHost}
    (found : before.gameRooms.lookup roomId = some host)
    (rooms : after.gameRooms = before.gameRooms.erase roomId)
    : before.liveSessions.Perm (host.handles ++ after.liveSessions) := by
  simp only [liveSessions, rooms]
  exact ((Table.values_perm_erase found).map RoomHost.handles).flatten

theorem liveSessions_adjust {f : RoomHost → RoomHost}
    (rooms : after.gameRooms = before.gameRooms.adjust roomId f)
    (same : ∀ host, before.gameRooms.lookup roomId = some host →
      (f host).handles = host.handles)
    : after.liveSessions = before.liveSessions := by
  simp only [liveSessions, rooms]
  rw [Table.map_adjust_of_same _ same]

end DediServerService

-----------------------------------------------------------------------------------------
-- Rooms of the process
-----------------------------------------------------------------------------------------

namespace RoomHost

/-- What the process relies on in each of its rooms: it is filed under its number, and it has
asked for its destruction only if every leave is finished.
-/
structure Filed (roomId : Nat) (host : RoomHost) : Prop where
  sound : host.Sound
  roomId : host.room.roomId = roomId
  quiet : host.wire.pendingDestroyRooms = []
  finished : host.room.allLeftReported = true → host.Finished

/-- The process takes over what a room has reserved for destruction. -/
def collected (host : RoomHost) : RoomHost :=
  { host with wire := { host.wire with pendingDestroyRooms := [] } }

theorem Sound.collected {host : RoomHost} (h : host.Sound) : host.collected.Sound :=
  ⟨h.layout, h.currentIds, h.owners, h.deaths, h.leaves, h.notices⟩

/-- What a turn of a room leaves behind. -/
structure Turned (roomId : Nat) (before after : RoomHost) : Prop where
  filed : after.collected.Filed roomId
  keys : after.room.playerSessions.keys = before.room.playerSessions.keys
  finished : before.Finished → after.Finished
  requests : ∀ requested ∈ after.wire.pendingDestroyRooms,
    requested = roomId ∧ after.Finished

/-- A room stays filed whatever happens in it, and what it reserves for destruction is itself,
with every leave finished. Only the leave pipeline reserves, and its rounds say when.
-/
theorem Filed.next {env : Environment} {roomId : Nat} {before after : RoomHost}
    {action : Action} (h : before.Filed roomId) (step : before.next env action = some after)
    : Turned roomId before after := by
  have moves := next_moves step (before.spawnMeets_any action)
  have keys := (moves.keeps h.sound).keys
  have finished : before.Finished → after.Finished := moves.finished h.sound
  have sound := (moves.sound h.sound).collected
  by_cases leaves : action = .processLeaves
  · subst leaves
    have round : Round env before after := Option.some.inj step ▸ before.processLeaves_round
    have number : after.room.roomId = roomId := round.roomId.trans h.roomId
    rcases round.reports with ⟨same, destroys, _⟩ | ⟨_, _, done, destroys⟩
    · rw [h.quiet] at destroys
      refine ⟨⟨sound, number, rfl, fun reported => ?_⟩, keys, finished, ?_⟩
      · exact finished (h.finished (same.symm.trans reported))
      · simp [destroys]
    · rw [h.quiet, h.roomId] at destroys
      refine ⟨⟨sound, number, rfl, fun _ => done⟩, keys, finished, ?_⟩
      simp [destroys, done]
  · have lease := next_lease h.sound step leaves
    have term : after.room.term = before.room.term := congrArg Prod.fst lease
    have destroys : after.wire.pendingDestroyRooms = [] :=
      (congrArg Prod.snd lease).trans h.quiet
    have reported : after.room.allLeftReported = before.room.allLeftReported :=
      congrArg RoomTerm.allLeftReported term
    refine ⟨⟨sound, ?_, rfl, fun again => ?_⟩, keys, finished, ?_⟩
    · exact (congrArg RoomTerm.roomId term).trans h.roomId
    · exact finished (h.finished (reported.symm.trans again))
    · simp [destroys]

theorem Fresh.filed {host : RoomHost} {roomId : Nat} (h : host.Fresh)
    (number : host.room.roomId = roomId) (quiet : host.wire.pendingDestroyRooms = [])
    : host.Filed roomId :=
  ⟨h.sound, number, quiet, fun reported => by cases h.allLeftReported.symm.trans reported⟩

theorem collected_of_quiet {host : RoomHost} (quiet : host.wire.pendingDestroyRooms = [])
    : host.collected = host := by
  simp only [collected, ← quiet]

/-- The address of a session is no concern of the process. -/
theorem Filed.setIp {roomId : Nat} {host : RoomHost} (h : host.Filed roomId)
    (sessionId : Nat) (addr : Option (BitVec 32))
    : Turned roomId host (host.setIp sessionId addr) := by
  cases addr with
  | none =>
      refine ⟨?_, rfl, id, ?_⟩
      · exact (collected_of_quiet h.quiet).symm ▸ h
      · simp [RoomHost.setIp, h.quiet]
  | some addr => exact @Filed.next openField roomId host _ (.bindClientIp sessionId addr) h rfl

theorem handles_of_keys {before after : RoomHost}
    (number : after.room.roomId = before.room.roomId)
    (keys : after.room.playerSessions.keys = before.room.playerSessions.keys)
    : after.handles = before.handles := by
  simp only [handles, number, keys]

end RoomHost

-----------------------------------------------------------------------------------------
-- Making a room
-----------------------------------------------------------------------------------------

namespace DediServerService

/-- The registers of the process agree about who is live. -/
structure Kept (service : DediServerService) : Prop where
  registered : service.Registered []
  numbers : ∀ roomId ∈ service.gameRooms, roomId ≤ service.roomId
  players : ∀ roomId id, service.players[id]? = some (some roomId)
    ↔ service.HasSession roomId id
  tokens : ∀ token id, service.tokenToPlayerSession.lookup token = some id →
    service.entryTokens.lookup id = some token
  entryTokens : ∀ id, id ∈ service.entryTokens ↔ id ∈ service.liveIds
  rooms : ∀ roomId host, service.gameRooms.lookup roomId = some host → host.Filed roomId
  pending : ∀ roomId ∈ service.pendingDestroyRooms, roomId ≤ service.roomId
    ∧ ∀ host, service.gameRooms.lookup roomId = some host → host.Finished

theorem kept_new : Kept {} where
  registered := registered_new
  numbers _ mem := by cases mem
  players roomId id := by
    constructor
    · intro found
      have mem := List.mem_of_getElem? found
      cases List.eq_of_mem_replicate mem
    · rintro ⟨_, found, _⟩
      cases found
  tokens _ _ found := by cases found
  entryTokens id := by
    constructor
    · intro mem
      cases mem
    · intro mem
      cases mem
  rooms _ _ found := by cases found
  pending _ mem := by cases mem

/-- Taking an id, also a new one, gives no player away and touches no token. -/
theorem getFreeSessionId_players (service : DediServerService) (id roomId : Nat)
    : service.getFreeSessionId.1.players[id]? = some (some roomId)
      ↔ service.players[id]? = some (some roomId) := by
  unfold getFreeSessionId
  split
  · exact .rfl
  · simp only [List.getElem?_append, List.getElem?_singleton]
    split
    · exact .rfl
    · next beyond =>
        rw [List.getElem?_eq_none (Nat.le_of_not_lt beyond)]
        split <;> simp

theorem getFreeSessionId_tokens (service : DediServerService)
    : service.getFreeSessionId.1.entryTokens = service.entryTokens
      ∧ service.getFreeSessionId.1.tokenToPlayerSession = service.tokenToPlayerSession := by
  unfold getFreeSessionId
  split <;> exact ⟨rfl, rfl⟩

/-- The registers in the loop that fills a room: they know the live sessions and those that
the new room holds so far.
-/
structure Admission.Entered (before : DediServerService) (roomId : Nat) (loop : Admission)
    : Prop where
  players : ∀ other id, loop.service.players[id]? = some (some other)
    ↔ before.HasSession other id ∨ other = roomId ∧ id ∈ loop.room.playerSessions
  tokens : ∀ token id, loop.service.tokenToPlayerSession.lookup token = some id →
    loop.service.entryTokens.lookup id = some token
  entryTokens : ∀ id, id ∈ loop.service.entryTokens
    ↔ id ∈ before.liveIds ∨ id ∈ loop.room.playerSessions
  roomId : loop.room.roomId = roomId

/-- One more player is entered in all registers, under an id that nobody has. -/
theorem Admission.Entered.admitPlayer {before : DediServerService} {count roomId : Nat}
    {loop next : Admission} (h : loop.Entered before roomId) (filled : loop.Filled before count)
    {info : PlayerInfo} {draw : Draw} (step : loop.admitPlayer roomId info draw = some next)
    : next.Entered before roomId := by
  obtain ⟨token, _, rfl⟩ := Option.map_eq_some_iff.mp step
  have taken := getFreeSessionId_registered filled.registered
  have players := fun id other => getFreeSessionId_players loop.service id other
  obtain ⟨entryTokens, tokens⟩ := getFreeSessionId_tokens loop.service
  have rooms := (getFreeSessionId_frame loop.service).1.trans filled.gameRooms
  generalize loop.service.getFreeSessionId = got at taken players entryTokens tokens rooms
  obtain ⟨service, sessionId⟩ := got
  dsimp only at players entryTokens tokens rooms
  have live : service.liveIds = before.liveIds := by simp only [liveIds, rooms]
  have apart := (List.nodup_cons.mp (List.nodup_append.mp taken.nodup).2.1).1
  have unused : sessionId ∉ loop.room.playerSessions := fun mem =>
    apart (List.mem_append_left _ (AList.mem_keys.mp mem))
  have dead : sessionId ∉ before.liveIds := fun mem =>
    apart (List.mem_append_right _ (live ▸ mem))
  have place : sessionId < service.players.length :=
    taken.bound sessionId (List.mem_append_right _ List.mem_cons_self)
  have known : sessionId ∉ loop.service.entryTokens := fun mem =>
    ((h.entryTokens sessionId).mp mem).elim dead unused
  refine ⟨fun other id => ?_, fun code id found => ?_, fun id => ?_, h.roomId⟩
  · rw [List.getElem?_set, Table.mem_tryEmplace_iff unused]
    by_cases same : sessionId = id
    · subst same
      simp only [if_pos place, true_or, and_true, if_true, Option.some.injEq]
      constructor
      · exact fun here => .inr here.symm
      · rintro (live | here)
        · exact absurd (mem_liveIds_iff.mpr ⟨other, live⟩) dead
        · exact here.symm
    · rw [if_neg same, players id other, h.players other id]
      simp only [Ne.symm same, false_or]
  · simp only [tokens] at found
    simp only [entryTokens]
    by_cases same : code = token
    · subst same
      rw [AList.lookup_insert] at found
      obtain rfl := Option.some.inj found
      exact AList.lookup_insert _
    · rw [AList.lookup_insert_ne same] at found
      have old := h.tokens code id found
      have ne : id ≠ sessionId := by
        rintro rfl
        exact known (Table.mem_of_lookup old)
      exact (AList.lookup_insert_ne ne).trans old
  · simp only [entryTokens, AList.mem_insert, Table.mem_tryEmplace_iff unused,
      h.entryTokens id]
    tauto

/-- The whole loop, by induction on the players. -/
theorem Admission.Entered.admitAll {before : DediServerService} {count roomId : Nat}
    {loop last : Admission} {infos : List PlayerInfo} {draws : List Draw}
    (h : loop.Entered before roomId) (filled : loop.Filled before count)
    (step : loop.admitAll roomId infos draws = some last)
    : last.Entered before roomId := by
  induction infos generalizing loop draws count with
  | nil =>
      cases step
      exact h
  | cons info infos ih =>
      cases draws with
      | nil => cases step
      | cons draw draws =>
          simp only [Admission.admitAll] at step
          split at step
          · cases step
          · next next admitted =>
              exact ih (h.admitPlayer filled admitted) (filled.admitPlayer admitted) step

section Steps

variable {before after : DediServerService} {roomId : Nat}

/-- The room of the next number does not exist yet. -/
theorem Kept.unused (h : before.Kept) : before.roomId + 1 ∉ before.gameRooms := fun mem =>
  absurd (h.numbers _ mem) (Nat.not_succ_le_self _)

/-- Making a room keeps the registers in agreement and adds its sessions to the live ones. -/
theorem Kept.makeRoom {maps : NumberedMaps} (h : before.Kept) {draws : List Draw}
    {pkt : M2DMakeRoomForThisGroup} {handled : Bool}
    (step : before.makeRoomForThisGroup maps.toMapRooms draws pkt = some (after, handled))
    : after.Kept ∧ after.roomId = before.roomId + 1
      ∧ after.liveSessions = after.handlesIn after.roomId ++ before.liveSessions := by
  rcases makeRoomForThisGroup_cases step with ⟨_, rfl⟩ | ⟨room, loop, map, admitted, _, made⟩
  · have missing : before.gameRooms.lookup (before.roomId + 1) = none :=
      AList.lookup_eq_none.mpr h.unused
    refine ⟨⟨⟨h.registered.nodup, h.registered.bound⟩, ?_, h.players, h.tokens, h.entryTokens,
      h.rooms, ?_⟩, rfl, ?_⟩
    · exact fun other mem => (h.numbers other mem).trans (Nat.le_succ _)
    · exact fun other mem => ⟨(h.pending other mem).1.trans (Nat.le_succ _),
        (h.pending other mem).2⟩
    · simp only [handlesIn, missing, List.nil_append]
      rfl
  · obtain ⟨fresh, nobody⟩ := fresh_of_map map
    have start := Admission.Filled.start h.registered fresh nobody (before.roomId + 1)
    have begun : Admission.Entered { before with roomId := before.roomId + 1 }
        (before.roomId + 1)
        { service := { before with roomId := before.roomId + 1 }, room } := by
      refine ⟨fun other id => ?_, h.tokens, fun id => ?_, maps.roomId_of_map map⟩
      · simp only [nobody, AList.notMem_empty, and_false, or_false]
        exact h.players other id
      · simp only [nobody, AList.notMem_empty, or_false]
        exact h.entryTokens id
    have filled := start.admitAll admitted
    have entered := begun.admitAll start admitted
    have placed : after.gameRooms
        = before.gameRooms.tryEmplace (before.roomId + 1) { room := loop.room } := by
      simp only [made, filled.gameRooms]
    have counter : after.roomId = before.roomId + 1 := by simp only [made, filled.roomId]
    have pending : after.pendingDestroyRooms = before.pendingDestroyRooms := by
      simp only [made, filled.pendingDestroyRooms]
    have here : after.gameRooms.lookup after.roomId = some { room := loop.room } := by
      rw [placed, counter]
      exact Table.lookup_tryEmplace_fresh h.unused _
    have sessions (other id : Nat) : after.HasSession other id
        ↔ before.HasSession other id
          ∨ other = before.roomId + 1 ∧ id ∈ loop.room.playerSessions :=
      hasSession_tryEmplace h.unused placed
    refine ⟨⟨?_, fun other mem => ?_, fun other id => ?_, ?_, fun id => ?_,
      fun other host found => ?_, fun other mem => ?_⟩, counter, ?_⟩
    · refine filled.registered.perm (.of_eq ?_) (by simp only [made])
      simp only [made, liveIds, List.nil_append, filled.gameRooms]
      rw [Table.values_tryEmplace_fresh h.unused]
      rfl
    · rw [placed] at mem
      rw [counter]
      rcases Table.mem_tryEmplace mem with rfl | old
      · exact Nat.le_refl _
      · exact (h.numbers other old).trans (Nat.le_succ _)
    · rw [sessions, made]
      exact entered.players other id
    · rw [made]
      exact entered.tokens
    · rw [mem_liveIds_iff, made]
      refine (entered.entryTokens id).trans ?_
      rw [← made]
      simp only [sessions, mem_liveIds_iff, exists_or, exists_eq_left]
      rfl
    · rw [placed] at found
      rcases Table.lookup_tryEmplace_cases h.unused found with ⟨rfl, rfl⟩ | old
      · exact filled.fresh.filed entered.roomId rfl
      · exact h.rooms other host old
    · rw [pending] at mem
      obtain ⟨bound, done⟩ := h.pending other mem
      refine ⟨(bound.trans (Nat.le_succ _)).trans_eq counter.symm, fun host found => ?_⟩
      rw [placed, Table.lookup_tryEmplace_ne (Nat.lt_succ_of_le bound).ne] at found
      exact done host found
    · rw [liveSessions_tryEmplace h.unused placed, handlesIn, here]

/-- A turn of one room, in which tokens may be used up, keeps the registers in agreement and
everybody live.
-/
theorem Kept.turn (h : before.Kept) {host later : RoomHost}
    (found : before.gameRooms.lookup roomId = some host) (turned : host.Turned roomId later)
    (rooms : after.gameRooms = before.gameRooms.adjust roomId fun _ => later.collected)
    (same : after.roomId = before.roomId ∧ after.players = before.players
      ∧ after.entryTokens = before.entryTokens ∧ after.freePlayerIds = before.freePlayerIds)
    (fewer : ∀ token id, after.tokenToPlayerSession.lookup token = some id →
      before.tokenToPlayerSession.lookup token = some id)
    (pending : after.pendingDestroyRooms
      = before.pendingDestroyRooms ++ later.wire.pendingDestroyRooms)
    : after.Kept ∧ after.roomId = before.roomId
      ∧ after.liveSessions = before.liveSessions := by
  obtain ⟨counter, players, entryTokens, free⟩ := same
  have kept : ∀ stored, before.gameRooms.lookup roomId = some stored →
      later.collected.room.playerSessions.keys = stored.room.playerSessions.keys := by
    intro stored present
    obtain rfl := Option.some.inj (found.symm.trans present)
    exact turned.keys
  have sessions (other id : Nat) : after.HasSession other id ↔ before.HasSession other id :=
    hasSession_adjust rooms kept
  have live : after.liveIds = before.liveIds := by
    simp only [liveIds, rooms]
    exact congrArg List.flatten (Table.map_adjust_of_same _ kept)
  refine ⟨⟨?_, fun other mem => ?_, fun other id => ?_, fun token id known => ?_, fun id => ?_,
    fun other stored present => ?_, fun other mem => ?_⟩, counter, ?_⟩
  · exact h.registered.perm (.of_eq (by rw [free, live])) (by rw [players])
  · rw [rooms, Table.mem_adjust] at mem
    exact (h.numbers other mem).trans_eq counter.symm
  · rw [players, sessions]
    exact h.players other id
  · rw [entryTokens]
    exact h.tokens token id (fewer token id known)
  · rw [entryTokens, live]
    exact h.entryTokens id
  · rw [rooms] at present
    rcases Table.lookup_adjust_cases present with ⟨rfl, _, _, rfl⟩ | ⟨_, old⟩
    · exact turned.filed
    · exact h.rooms other stored old
  · rw [counter]
    have finished : (∀ host, before.gameRooms.lookup other = some host → host.Finished)
        ∨ other = roomId ∧ later.Finished → ∀ host,
        after.gameRooms.lookup other = some host → host.Finished := by
      rintro done stored present
      rw [rooms] at present
      rcases Table.lookup_adjust_cases present with ⟨rfl, _, _, rfl⟩ | ⟨ne, old⟩
      · rcases done with done | ⟨_, done⟩
        · exact turned.finished (done host found)
        · exact done
      · rcases done with done | ⟨same, _⟩
        · exact done stored old
        · exact absurd same ne
    rw [pending] at mem
    rcases List.mem_append.mp mem with old | new
    · exact ⟨(h.pending other old).1, finished (.inl (h.pending other old).2)⟩
    · obtain ⟨rfl, done⟩ := turned.requests other new
      exact ⟨h.numbers other (Table.mem_of_lookup found), finished (.inr ⟨rfl, done⟩)⟩
  · refine liveSessions_adjust rooms fun stored present => ?_
    refine RoomHost.handles_of_keys ?_ (kept stored present)
    obtain rfl := Option.some.inj (found.symm.trans present)
    exact turned.filed.roomId.trans (h.rooms roomId host found).roomId.symm

/-- Whatever happens in a room keeps the registers in agreement. -/
theorem Kept.inRoom {env : Environment} {action : RoomHost.Action} (h : before.Kept)
    (step : before.inRoom env roomId action = some after)
    : after.Kept ∧ after.roomId = before.roomId
      ∧ after.liveSessions = before.liveSessions := by
  simp only [DediServerService.inRoom] at step
  cases found : before.gameRooms.lookup roomId with
  | none =>
      rw [found] at step
      cases step
  | some host =>
      rw [found] at step
      obtain ⟨later, moved, rfl⟩ := Option.map_eq_some_iff.mp step
      exact h.turn found ((h.rooms roomId host found).next moved) rfl ⟨rfl, rfl, rfl, rfl⟩
        (fun _ _ => id) rfl

/-- A token binds the session that it was made for, which is live, and is used up. -/
theorem Kept.bindClientIp (h : before.Kept) (token : String) (addr : Option (BitVec 32))
    : (before.bindClientIp token addr).1.Kept
      ∧ (before.bindClientIp token addr).1.roomId = before.roomId
      ∧ (before.bindClientIp token addr).1.liveSessions = before.liveSessions := by
  cases known : before.tokenToPlayerSession.lookup token with
  | none =>
      have idle : (before.bindClientIp token addr).1 = before := by
        simp only [DediServerService.bindClientIp, known]
      rw [idle]
      exact ⟨h, rfl, rfl⟩
  | some sessionId =>
      have entered : sessionId ∈ before.entryTokens :=
        Table.mem_of_lookup (h.tokens token sessionId known)
      obtain ⟨roomId, live⟩ := mem_liveIds_iff.mp ((h.entryTokens sessionId).mp entered)
      have place := (h.players roomId sessionId).mpr live
      obtain ⟨host, found, _⟩ := live
      have filed := h.rooms roomId host found
      have turned := filed.setIp sessionId addr
      have quiet : (host.setIp sessionId addr).wire.pendingDestroyRooms = [] := by
        cases addr <;> exact filed.quiet
      refine h.turn found turned ?_ ?_ (fun code id kept => ?_) ?_
      · simp only [DediServerService.bindClientIp, known, place]
        apply Table.adjust_congr
        intro stored present
        obtain rfl := Option.some.inj (found.symm.trans present)
        exact (RoomHost.collected_of_quiet quiet).symm
      · simp only [DediServerService.bindClientIp, known, and_self]
      · simp only [DediServerService.bindClientIp, known] at kept
        by_cases same : code = token
        · rw [same, AList.lookup_erase] at kept
          cases kept
        · rwa [AList.lookup_erase_ne same] at kept
      · simp only [DediServerService.bindClientIp, known, quiet, List.append_nil]

-----------------------------------------------------------------------------------------
-- The end of rooms
-----------------------------------------------------------------------------------------

/-- What returning some sessions does to the registers. -/
structure Returned (ids : List Nat) (before after : DediServerService) : Prop where
  players : ∀ roomId id, after.players[id]? = some (some roomId)
    ↔ id ∉ ids ∧ before.players[id]? = some (some roomId)
  tokens : (∀ token id, before.tokenToPlayerSession.lookup token = some id →
      before.entryTokens.lookup id = some token) →
    ∀ token id, after.tokenToPlayerSession.lookup token = some id →
      after.entryTokens.lookup id = some token
  entryTokens : ∀ id, id ∈ after.entryTokens ↔ id ∉ ids ∧ id ∈ before.entryTokens
  pending : after.pendingDestroyRooms = before.pendingDestroyRooms

/-- One session is returned, and its token goes with it. -/
theorem releaseSession_returned (service : DediServerService) (sessionId : Nat)
    : Returned [sessionId] service (service.releaseSession sessionId) := by
  refine ⟨fun roomId id => ?_, fun agree token id known => ?_, fun id => ?_, rfl⟩
  · simp only [releaseSession, List.getElem?_set, List.mem_singleton]
    by_cases same : sessionId = id
    · subst same
      simp only [if_true, not_true, false_and, iff_false]
      split <;> simp
    · simp only [if_neg same, Ne.symm same, not_false_iff, true_and]
  · have old : service.tokenToPlayerSession.lookup token = some id
        ∧ service.entryTokens.lookup sessionId ≠ some token := by
      simp only [releaseSession] at known
      cases own : service.entryTokens.lookup sessionId with
      | none =>
          rw [own] at known
          exact ⟨known, by simp⟩
      | some code =>
          rw [own] at known
          by_cases same : token = code
          · rw [same, AList.lookup_erase] at known
            cases known
          · rw [AList.lookup_erase_ne same] at known
            exact ⟨known, fun mine => same (Option.some.inj mine).symm⟩
    have entered := agree token id old.1
    have ne : id ≠ sessionId := by
      rintro rfl
      exact old.2 entered
    exact (AList.lookup_erase_ne ne).trans entered
  · simp only [releaseSession, AList.mem_erase, List.mem_singleton, ne_eq]

theorem Returned.trans {first second : List Nat} {middle : DediServerService}
    (h : Returned first before middle) (later : Returned second middle after)
    : Returned (first ++ second) before after := by
  refine ⟨fun roomId id => ?_, fun agree => later.tokens (h.tokens agree), fun id => ?_,
    later.pending.trans h.pending⟩
  · rw [later.players, h.players, List.mem_append]
    tauto
  · rw [later.entryTokens, h.entryTokens, List.mem_append]
    tauto

/-- All sessions of a room are returned, by induction on the sessions. -/
theorem foldl_releaseSession_returned (ids : List Nat) (service : DediServerService)
    : Returned ids service (ids.foldl releaseSession service) := by
  induction ids generalizing service with
  | nil => exact ⟨by simp, id, by simp, rfl⟩
  | cons id rest ih => exact (releaseSession_returned service id).trans (ih _)

/-- A destroyed room returns its sessions. -/
theorem destroyRoom_returned {host : RoomHost}
    (found : before.gameRooms.lookup roomId = some host)
    : Returned host.room.playerSessions.keys before (before.destroyRoom roomId) := by
  have returned := foldl_releaseSession_returned host.room.playerSessions.keys
    { before with
      toMain := before.toMain ++
        [.notifyRoomDestroyed roomId host.room.playerSessions.keys.length] }
  simp only [DediServerService.destroyRoom, found]
  exact ⟨returned.players, returned.tokens, returned.entryTokens, returned.pending⟩

/-- What destroying rooms does: the registers agree, and the sessions that are no longer live
have been released, every leave finished.
-/
structure Emptied (before after : DediServerService) (released : List Release) : Prop where
  kept : after.Kept
  roomId : after.roomId = before.roomId
  pending : after.pendingDestroyRooms = before.pendingDestroyRooms
  balance : before.liveSessions.Perm (released.map Release.handle ++ after.liveSessions)
  finalized : ∀ release ∈ released, release.leaveState = .finalized

theorem releasedWith_handles {host : RoomHost}
    (found : before.gameRooms.lookup roomId = some host)
    : (before.releasedWith roomId).map Release.handle = host.handles := by
  simp only [releasedWith, found, List.map_map, RoomHost.handles, AList.keys, List.keys]
  exact List.map_congr_left fun _ _ => rfl

theorem releasedWith_finalized {host : RoomHost}
    (found : before.gameRooms.lookup roomId = some host) (finished : host.Finished)
    : ∀ release ∈ before.releasedWith roomId, release.leaveState = .finalized := by
  intro release mem
  simp only [releasedWith, found] at mem
  obtain ⟨⟨sessionId, session⟩, stored, rfl⟩ := List.mem_map.mp mem
  exact beq_iff_eq.mp (finished sessionId session (Table.mem_entries_iff.mp stored))

/-- A room that has asked for it is destroyed, and its sessions are released. -/
theorem Kept.destroyRoom (h : before.Kept) (asked : roomId ∈ before.pendingDestroyRooms)
    : Emptied before (before.destroyRoom roomId) (before.releasedWith roomId) := by
  rcases destroyRoom_cases before roomId with
    ⟨missing, idle⟩ | ⟨host, found, rooms, _, counter, registered⟩
  · have nobody : before.releasedWith roomId = [] := by simp only [releasedWith, missing]
    rw [idle, nobody]
    exact ⟨h, rfl, rfl, .refl _, by simp⟩
  · have returned := destroyRoom_returned found
    have sessions (other id : Nat) : (before.destroyRoom roomId).HasSession other id
        ↔ other ≠ roomId ∧ before.HasSession other id := hasSession_erase rooms
    -- No other room has a session with the id of one of the returned sessions.
    have own {other id : Nat} (live : before.HasSession other id)
        : id ∈ host.room.playerSessions.keys ↔ other = roomId := by
      constructor
      · intro mem
        have mine : before.HasSession roomId id := ⟨host, found, AList.mem_keys.mpr mem⟩
        have place := ((h.players other id).mpr live).symm.trans
          ((h.players roomId id).mpr mine)
        exact Option.some.inj (Option.some.inj place)
      · rintro rfl
        obtain ⟨stored, present, mem⟩ := live
        obtain rfl := Option.some.inj (found.symm.trans present)
        exact AList.mem_keys.mp mem
    refine ⟨⟨registered h.registered, fun other mem => ?_, fun other id => ?_,
      returned.tokens h.tokens, fun id => ?_, fun other stored present => ?_,
      fun other mem => ?_⟩, counter, returned.pending, ?_, ?_⟩
    · rw [rooms, AList.mem_erase] at mem
      exact (h.numbers other mem.2).trans_eq counter.symm
    · rw [returned.players, sessions, h.players]
      exact and_congr_left fun live => not_congr (own live)
    · rw [returned.entryTokens, h.entryTokens, mem_liveIds_iff, mem_liveIds_iff]
      simp only [sessions]
      constructor
      · rintro ⟨apart, other, live⟩
        exact ⟨other, fun same => apart ((own live).mpr same), live⟩
      · rintro ⟨other, ne, live⟩
        exact ⟨fun mem => ne ((own live).mp mem), other, live⟩
    · have old := (Table.lookup_erase_cases (rooms ▸ present)).2
      exact h.rooms other stored old
    · rw [returned.pending] at mem
      rw [counter]
      refine ⟨(h.pending other mem).1, fun stored present => ?_⟩
      exact (h.pending other mem).2 stored (Table.lookup_erase_cases (rooms ▸ present)).2
    · rw [releasedWith_handles found]
      exact liveSessions_erase found rooms
    · exact releasedWith_finalized found ((h.pending roomId asked).2 host found)

/-- All rooms that have asked for it are destroyed, by induction on the list. -/
theorem Kept.destroyAll (h : before.Kept) {asking : List Nat}
    (asked : asking ⊆ before.pendingDestroyRooms)
    : Emptied before (asking.foldl DediServerService.destroyRoom before)
        (before.releasedWithAll asking) := by
  induction asking generalizing before with
  | nil => exact ⟨h, rfl, rfl, .refl _, by simp [releasedWithAll]⟩
  | cons roomId rest ih =>
      obtain ⟨first, others⟩ := List.cons_subset.mp asked
      have one := h.destroyRoom first
      have all := ih one.kept (one.pending.symm ▸ others)
      refine ⟨all.kept, all.roomId.trans one.roomId, all.pending.trans one.pending, ?_, ?_⟩
      · rw [releasedWithAll, List.map_append, List.append_assoc]
        exact one.balance.trans (all.balance.append_left _)
      · intro release mem
        rcases List.mem_append.mp mem with here | later
        · exact one.finalized release here
        · exact all.finalized release later

theorem Kept.destroyPendingRooms (h : before.Kept)
    : before.destroyPendingRooms.Kept
      ∧ before.destroyPendingRooms.roomId = before.roomId
      ∧ before.liveSessions.Perm
        ((before.releasedWithAll before.pendingDestroyRooms).map Release.handle
          ++ before.destroyPendingRooms.liveSessions)
      ∧ ∀ release ∈ before.releasedWithAll before.pendingDestroyRooms,
        release.leaveState = .finalized := by
  obtain ⟨kept, counter, _, balance, finalized⟩ := h.destroyAll (List.Subset.refl _)
  refine ⟨⟨⟨kept.registered.nodup, kept.registered.bound⟩, kept.numbers, kept.players,
    kept.tokens, kept.entryTokens, kept.rooms, ?_⟩, counter, balance, finalized⟩
  intro other mem
  cases mem

end Steps

-----------------------------------------------------------------------------------------
-- Whole runs
-----------------------------------------------------------------------------------------

/-- The observer's record fits the process: every session was created once, and it is either
live or it was released, once and with its leave finished.
-/
structure Record.Fits (record : Record) (service : DediServerService) : Prop where
  numbers : ∀ handle ∈ record.created, handle.1 ≤ service.roomId
  once : record.created.Nodup
  balance : record.created.Perm
    (record.released.map Release.handle ++ service.liveSessions)
  finalized : ∀ release ∈ record.released, release.leaveState = .finalized

theorem Record.fits_new : Record.Fits {} {} :=
  ⟨by simp, .nil, .refl _, by simp⟩

/-- Where nobody comes or goes there is nothing to note. -/
theorem Record.Fits.steady {record : Record} {before after : DediServerService}
    (h : record.Fits before) (counter : after.roomId = before.roomId)
    (live : after.liveSessions = before.liveSessions)
    : record.Fits after :=
  ⟨counter.symm ▸ h.numbers, h.once, live.symm ▸ h.balance, h.finalized⟩

/-- The sessions of a room are different, and all bear its number. -/
theorem Kept.handlesIn {service : DediServerService} (h : service.Kept) (roomId : Nat)
    : (service.handlesIn roomId).Nodup ∧ ∀ handle ∈ service.handlesIn roomId,
      handle.1 = roomId := by
  unfold DediServerService.handlesIn
  cases found : service.gameRooms.lookup roomId with
  | none => exact ⟨.nil, by simp⟩
  | some host =>
      constructor
      · exact (AList.keys_nodup _).map fun _ _ same => (Prod.mk.inj same).2
      · intro handle mem
        obtain ⟨sessionId, _, rfl⟩ := List.mem_map.mp mem
        exact (h.rooms roomId host found).roomId

/-- Every turn of the process keeps the registers in agreement and the record fitting. -/
theorem kept_of_step {maps : NumberedMaps} {env : Environment}
    {before after : DediServerService} {action : Action} {record : Record}
    (h : before.Kept) (fits : record.Fits before)
    (step : before.next maps.toMapRooms env action = some after)
    : after.Kept ∧ (record.observe before action after).Fits after := by
  cases action with
  | makeRoomForThisGroup draws pkt =>
      obtain ⟨⟨_, handled⟩, made, rfl⟩ := Option.map_eq_some_iff.mp step
      obtain ⟨kept, counter, live⟩ := h.makeRoom made
      obtain ⟨different, number⟩ := kept.handlesIn _
      refine ⟨kept, ⟨fun handle mem => ?_, ?_, ?_, fits.finalized⟩⟩
      · rw [counter]
        rcases List.mem_append.mp mem with old | new
        · exact (fits.numbers handle old).trans (Nat.le_succ _)
        · exact ((number handle new).trans counter).le
      · refine List.nodup_append.mpr ⟨fits.once, different, ?_⟩
        rintro handle old _ new rfl
        have early := fits.numbers handle old
        rw [number handle new, counter] at early
        exact absurd early (Nat.not_succ_le_self _)
      · rw [live]
        refine (fits.balance.append_right _).trans ?_
        rw [List.append_assoc]
        exact List.perm_append_comm.append_left _
  | bindClientIp token addr =>
      cases step
      obtain ⟨kept, counter, live⟩ := h.bindClientIp token addr
      exact ⟨kept, fits.steady counter live⟩
  | inRoom roomId action =>
      obtain ⟨kept, counter, live⟩ := h.inRoom step
      exact ⟨kept, fits.steady counter live⟩
  | destroyPendingRooms =>
      cases step
      obtain ⟨kept, counter, balance, finalized⟩ := h.destroyPendingRooms
      refine ⟨kept, ⟨?_, fits.once, ?_, fun release mem => ?_⟩⟩
      · rw [counter]
        exact fits.numbers
      · simp only [Record.observe, List.map_append, List.append_assoc]
        exact fits.balance.trans (balance.append_left _)
      · rcases List.mem_append.mp mem with old | new
        · exact fits.finalized release old
        · exact finalized release new

/-- The registry of the sessions keeps its integrity. In every state that a process reaches,
live sessions have different ids; a place among the players is taken exactly by the live
session with its id, in its room; free ids are different and nobody's; a token belongs to a
live session with that entry token; and every session that was ever created is either live or
was released, once, with its leave finished.
-/
theorem registry_of_reachable {maps : NumberedMaps} {env : Environment}
    {service : DediServerService} {record : Record}
    (reached : (watchedSystem maps.toMapRooms env).Reachable (service, record))
    : service.liveIds.Nodup
      ∧ (∀ roomId id, service.players[id]? = some (some roomId)
        ↔ ∃ host session, service.gameRooms.lookup roomId = some host
          ∧ host.room.roomId = roomId
          ∧ host.room.playerSessions.lookup id = some session)
      ∧ service.freePlayerIds.Nodup
      ∧ (∀ id ∈ service.freePlayerIds, id ∉ service.liveIds)
      ∧ (∀ token id, service.tokenToPlayerSession.lookup token = some id →
        id ∈ service.liveIds ∧ service.entryTokens.lookup id = some token)
      ∧ record.created.Nodup
      ∧ record.created.Perm (record.released.map Release.handle ++ service.liveSessions)
      ∧ ∀ release ∈ record.released, release.leaveState = .finalized := by
  have invariant : (watchedSystem maps.toMapRooms env).Inductive
      fun watched => watched.1.Kept ∧ watched.2.Fits watched.1 := by
    constructor
    · rintro ⟨first, noted⟩ ⟨rfl, rfl⟩
      exact ⟨kept_new, Record.fits_new⟩
    · rintro ⟨before, noted⟩ action ⟨after, later⟩ ⟨kept, fits⟩ ⟨step, observed⟩
      obtain rfl : later = noted.observe before action after := observed
      exact kept_of_step kept fits step
  obtain ⟨h, fits⟩ := invariant.reachable reached
  have ids := h.registered.nodup
  rw [List.nil_append] at ids
  obtain ⟨free, live, apart⟩ := List.nodup_append.mp ids
  refine ⟨live, fun roomId id => ?_, free, fun id mem alive => apart id mem id alive rfl,
    fun token id known => ?_, fits.once, fits.balance, fits.finalized⟩
  · rw [h.players]
    constructor
    · rintro ⟨host, found, mem⟩
      obtain ⟨session, stored⟩ := Table.exists_lookup_of_mem mem
      exact ⟨host, session, found, (h.rooms roomId host found).roomId, stored⟩
    · rintro ⟨host, session, found, _, stored⟩
      exact ⟨host, found, Table.mem_of_lookup stored⟩
  · have entered := h.tokens token id known
    exact ⟨(h.entryTokens id).mp (Table.mem_of_lookup entered), entered⟩

/-- The other map without its objects. -/
def bareGameRoom (roomId : Nat) : GameRoom where
  roomId := roomId
  mapId := 1
  playerSessions := ∅
  spawnSpots := [{}]

theorem bareGameRoom_fresh (roomId : Nat)
    : ({ room := bareGameRoom roomId } : RoomHost).Fresh
      ∧ (bareGameRoom roomId).playerSessions = ∅ := by
  have fresh : (RoomHost.emptyMap ∅).Fresh :=
    RoomHost.emptyMap_fresh fun session mem => absurd mem List.not_mem_nil
  exact ⟨⟨fresh.sessions, rfl, fresh.staticObjects, fresh.dynamicObjects, rfl, rfl, rfl, rfl⟩,
    rfl⟩

/-- The tutorial map as it is; the other map without its objects. -/
def tutorialMaps : NumberedMaps where
  testGameRoom := testGameRoom
  tenerifeGameRoom := bareGameRoom
  testGameRoom_fresh := testGameRoom_fresh
  tenerifeGameRoom_fresh := bareGameRoom_fresh
  testGameRoom_roomId _ := rfl
  tenerifeGameRoom_roomId _ := rfl

/-- The open field with an hour between two readings of the clock. -/
def slowField : Environment :=
  { RoomHost.openField with clock := fun reads => reads * 3600000 * 1000000 }

/-- A group of one player for the tutorial map. -/
def soloGroup (uid : Int) : M2DMakeRoomForThisGroup where
  mapId := MAP_TUTORIAL
  playerInfos :=
    [{ ticketId := "ticket", uid, userId := "player", rating := 0, inventoryItems := [],
       equipmentItems := [], characterType := 0 }]

/-- A player binds the token, stays until the room is over and is released, and another takes
the next free id.
-/
def turnover : List Action :=
  [.makeRoomForThisGroup [{ tokens := ["token_a"], securityKey := 1 }] (soloGroup 1),
    .bindClientIp "token_a" (some 9), .inRoom 1 .processLeaves, .inRoom 1 .processLeaves,
    .destroyPendingRooms,
    .makeRoomForThisGroup [{ tokens := ["token_a"], securityKey := 2 }] (soloGroup 2)]

def afterTurnover : DediServerService :=
  (Transition.replay (next tutorialMaps.toMapRooms slowField) (fun _ _ _ => true) {}
    turnover).getD {}

/-- After the run the second player's session is live, and every other one was released. -/
theorem registry_afterTurnover
    : ∃ record : Record,
      (watchedSystem tutorialMaps.toMapRooms slowField).Reachable (afterTurnover, record)
      ∧ record.created.Nodup
      ∧ record.created.Perm (record.released.map Release.handle ++ [(2, 1)])
      ∧ ∀ release ∈ record.released, release.leaveState = .finalized := by
  have run := Transition.System.Run.of_replay (· = ({} : DediServerService))
    (next tutorialMaps.toMapRooms slowField) (fun _ _ _ => true) turnover {} {}
    (by decide +kernel)
  have reached : (System.ofNext (· = {}) (next tutorialMaps.toMapRooms slowField)).Reachable
      afterTurnover :=
    (run.reachable (.initial rfl)).of_restrict
  obtain ⟨record, watched⟩ : ∃ record,
      (watchedSystem tutorialMaps.toMapRooms slowField).Reachable (afterTurnover, record) :=
    reached.observed
  have live : afterTurnover.liveSessions = [(2, 1)] := by decide +kernel
  obtain ⟨_, _, _, _, _, once, balance, finalized⟩ :=
    @registry_of_reachable tutorialMaps slowField afterTurnover record watched
  exact ⟨record, watched, once, live ▸ balance, finalized⟩

end DediServerService

end ExtractionServer.Room
