import ExtractionServer.Room.RegistryRuns

/-! The entry tokens of a dedicated process: a token that is registered leads to a session of
the account that it was issued for, whatever happens to rooms and sessions.
-/

namespace ExtractionServer.Room

namespace DediServerService

/-- The account of the live session with an id. -/
def accountOf (service : DediServerService) (id : Nat) : Option Int :=
  match service.players[id]? with
  | some (some roomId) =>
      (service.gameRooms.lookup roomId).bind fun host =>
        (host.room.playerSessions.lookup id).map (·.uid)
  | _ => none

/-- The address of the live session with an id. -/
def clientAddrOf (service : DediServerService) (id : Nat) : Option Transport.SockAddr :=
  match service.players[id]? with
  | some (some roomId) =>
      (service.gameRooms.lookup roomId).bind fun host =>
        (host.room.playerSessions.lookup id).map (·.clientAddr)
  | _ => none

variable {before middle after : DediServerService}

theorem Kept.accountOf_eq (h : before.Kept) {roomId id : Nat} {host : RoomHost}
    {session : PlayerSession} (found : before.gameRooms.lookup roomId = some host)
    (present : host.room.playerSessions.lookup id = some session)
    : before.accountOf id = some session.uid := by
  have place := (h.players roomId id).mpr ⟨host, found, Table.mem_of_lookup present⟩
  simp only [accountOf, place, found, Option.bind_some, present, Option.map_some]

/-- A registered token leads to a session in a room. -/
theorem Kept.live_of_token (h : before.Kept) {token : String} {id : Nat}
    (known : before.tokenToPlayerSession.lookup token = some id)
    : ∃ roomId host session, before.gameRooms.lookup roomId = some host
      ∧ host.room.playerSessions.lookup id = some session := by
  have entered := Table.mem_of_lookup (h.tokens token id known)
  obtain ⟨roomId, host, found, mem⟩ := mem_liveIds_iff.mp ((h.entryTokens id).mp entered)
  obtain ⟨session, present⟩ := Table.exists_lookup_of_mem mem
  exact ⟨roomId, host, session, found, present⟩

/-- An address that is accepted under a token is set on the session that the token leads to. -/
theorem Kept.clientAddr_bindClientIp (h : before.Kept) {token : String} {id : Nat}
    (known : before.tokenToPlayerSession.lookup token = some id) (addr : BitVec 32)
    : ((before.bindClientIp token (some addr)).1.clientAddrOf id).map (·.addr)
      = some addr := by
  obtain ⟨roomId, host, session, found, present⟩ := h.live_of_token known
  have place := (h.players roomId id).mpr ⟨host, found, Table.mem_of_lookup present⟩
  simp only [DediServerService.bindClientIp, known, clientAddrOf, place,
    Table.lookup_adjust_self, found, Option.map_some, Option.bind_some, RoomHost.setIp,
    RoomHost.modifySession, RoomHost.modifyRoom, GameRoom.modifySession, present]

-----------------------------------------------------------------------------------------
-- Rooms and tokens that stay
-----------------------------------------------------------------------------------------

/-- The same players, with their accounts. -/
def SamePlayers (before after : Table Nat PlayerSession) : Prop :=
  Table.Related (fun _ session later => later.uid = session.uid) before after

theorem SamePlayers.refl (sessions : Table Nat PlayerSession)
    : SamePlayers sessions sessions := by
  apply Table.Related.refl
  exact fun _ _ => rfl

theorem setIp_samePlayers (host : RoomHost) (sessionId : Nat) (addr : Option (BitVec 32))
    : SamePlayers host.room.playerSessions (host.setIp sessionId addr).room.playerSessions := by
  cases addr with
  | none => exact .refl _
  | some addr =>
      simp only [RoomHost.setIp, RoomHost.modifySession, RoomHost.modifyRoom,
        GameRoom.modifySession]
      apply Table.Related.adjust
      · exact fun _ _ => rfl
      · exact fun _ _ => rfl

/-- Rooms and tokens may go; a room that stays keeps its players. -/
structure Narrowed (before after : DediServerService) : Prop where
  tokens : ∀ token id, after.tokenToPlayerSession.lookup token = some id →
    before.tokenToPlayerSession.lookup token = some id
  rooms : ∀ roomId host, after.gameRooms.lookup roomId = some host →
    ∃ old, before.gameRooms.lookup roomId = some old
      ∧ SamePlayers old.room.playerSessions host.room.playerSessions

namespace Narrowed

theorem refl (service : DediServerService) : Narrowed service service where
  tokens _ _ known := known
  rooms _ host found := ⟨host, found, .refl _⟩

theorem trans (first : Narrowed before middle) (second : Narrowed middle after)
    : Narrowed before after where
  tokens token id known := first.tokens token id (second.tokens token id known)
  rooms roomId host found := by
    obtain ⟨between, here, same⟩ := second.rooms roomId host found
    obtain ⟨old, there, again⟩ := first.rooms roomId between here
    exact ⟨old, there, again.trans (fun _ _ _ _ one two => two.trans one) same⟩

/-- A token that stays goes on leading to the same account. -/
theorem account (h : Narrowed before after) (kept : before.Kept) (still : after.Kept)
    {token : String} {id : Nat}
    (known : after.tokenToPlayerSession.lookup token = some id)
    : before.tokenToPlayerSession.lookup token = some id
      ∧ before.accountOf id = after.accountOf id := by
  obtain ⟨roomId, host, session, found, present⟩ := still.live_of_token known
  obtain ⟨old, there, same⟩ := h.rooms roomId host found
  obtain ⟨earlier, was, uid⟩ := same.old_of_new present
  refine ⟨h.tokens token id known, ?_⟩
  rw [kept.accountOf_eq there was, still.accountOf_eq found present, uid]

end Narrowed

theorem inRoom_narrowed {env : Environment} {roomId : Nat} {action : RoomHost.Action}
    (kept : before.Kept) (step : before.inRoom env roomId action = some after)
    : Narrowed before after := by
  unfold inRoom at step
  split at step
  · cases step
  · next host found =>
      obtain ⟨later, moved, rfl⟩ := Option.map_eq_some_iff.mp step
      have moves := RoomHost.next_moves moved (host.spawnMeets_any action)
      have keeps := moves.keeps (kept.rooms roomId host found).sound
      refine ⟨fun _ _ known => known, fun other stored present => ?_⟩
      rcases Table.lookup_adjust_cases present with ⟨rfl, old, there, rfl⟩ | ⟨-, there⟩
      · exact ⟨host, found, keeps.mono fun _ _ _ same => same.uid⟩
      · exact ⟨stored, there, .refl _⟩

theorem bindClientIp_narrowed (service : DediServerService) (token : String)
    (addr : Option (BitVec 32))
    : Narrowed service (service.bindClientIp token addr).1 := by
  unfold bindClientIp
  split
  · exact .refl service
  · next sessionId known =>
      refine ⟨fun code id found => (Table.lookup_erase_cases found).2, ?_⟩
      intro roomId host found
      dsimp only at found
      split at found
      · rcases Table.lookup_adjust_cases found with ⟨rfl, old, there, rfl⟩ | ⟨-, there⟩
        · exact ⟨old, there, setIp_samePlayers old sessionId addr⟩
        · exact ⟨host, there, .refl _⟩
      · exact ⟨host, found, .refl _⟩

/-- Returned sessions take their tokens with them, by induction on the sessions. -/
theorem foldl_releaseSession_tokens (ids : List Nat) (service : DediServerService)
    {token : String} {id : Nat}
    (known : (ids.foldl releaseSession service).tokenToPlayerSession.lookup token = some id)
    : service.tokenToPlayerSession.lookup token = some id := by
  induction ids generalizing service with
  | nil => exact known
  | cons first rest ih =>
      have once := ih (service.releaseSession first) known
      simp only [releaseSession] at once
      split at once
      · exact once
      · exact (Table.lookup_erase_cases once).2

theorem destroyRoom_narrowed (service : DediServerService) (roomId : Nat)
    : Narrowed service (service.destroyRoom roomId) := by
  rcases destroyRoom_cases service roomId with ⟨-, same⟩ | ⟨host, found, rooms, -⟩
  · rw [same]
    exact .refl service
  · refine ⟨fun token id known => ?_, fun other stored present => ?_⟩
    · simp only [destroyRoom, found] at known
      exact foldl_releaseSession_tokens host.room.playerSessions.keys
        { service with
          toMain := service.toMain ++
            [.notifyRoomDestroyed roomId host.room.playerSessions.keys.length] } known
    · rw [rooms] at present
      exact ⟨stored, (Table.lookup_erase_cases present).2, .refl _⟩

/-- All rooms that have asked for it, by induction on the list. -/
theorem foldl_destroyRoom_narrowed (asking : List Nat) (service : DediServerService)
    : Narrowed service (asking.foldl destroyRoom service) := by
  induction asking generalizing service with
  | nil => exact .refl service
  | cons roomId rest ih => exact (destroyRoom_narrowed service roomId).trans (ih _)

theorem destroyPendingRooms_narrowed (service : DediServerService)
    : Narrowed service service.destroyPendingRooms :=
  have all := foldl_destroyRoom_narrowed service.pendingDestroyRooms service
  ⟨all.tokens, all.rooms⟩

-----------------------------------------------------------------------------------------
-- Messages about tokens
-----------------------------------------------------------------------------------------

/-- The tokens that the process has reported to the main process. -/
def reported (service : DediServerService) : List EntryToken :=
  service.toMain.flatMap fun
    | .updateEntryToken players => players
    | .notifyRoomDestroyed _ _ => []

theorem bindClientIp_toMain (service : DediServerService) (token : String)
    (addr : Option (BitVec 32))
    : (service.bindClientIp token addr).1.toMain = service.toMain := by
  unfold bindClientIp
  split <;> rfl

theorem inRoom_toMain {env : Environment} {roomId : Nat} {action : RoomHost.Action}
    (step : before.inRoom env roomId action = some after)
    : after.toMain = before.toMain := by
  unfold inRoom at step
  split at step
  · cases step
  · obtain ⟨later, -, rfl⟩ := Option.map_eq_some_iff.mp step
    rfl

/-- The end of a room reports no token. -/
theorem destroyRoom_reported (service : DediServerService) (roomId : Nat)
    : (service.destroyRoom roomId).reported = service.reported := by
  rcases destroyRoom_cases service roomId with ⟨-, same⟩ | ⟨host, -, -, messages, -⟩
  · rw [same]
  · simp only [reported, messages, List.flatMap_append, List.flatMap_singleton,
      List.append_nil]

theorem destroyPendingRooms_reported (service : DediServerService)
    : service.destroyPendingRooms.reported = service.reported := by
  have all (asking : List Nat) (first : DediServerService)
      : (asking.foldl destroyRoom first).reported = first.reported := by
    induction asking generalizing first with
    | nil => rfl
    | cons roomId rest ih => exact (ih _).trans (destroyRoom_reported first roomId)
  exact all service.pendingDestroyRooms service

-----------------------------------------------------------------------------------------
-- Issuing tokens
-----------------------------------------------------------------------------------------

/-- A token in the loop that fills a room is an old one, or it leads to the session of one of
the players admitted so far, to whom an entry gives it.
-/
structure Admission.Issued (before : DediServerService) (infos : List PlayerInfo)
    (loop : Admission)
    : Prop where
  tickets : List.Forall₂ (fun info entry => entry.ticketId = info.ticketId) infos loop.entries
  tokens : ∀ token id, loop.service.tokenToPlayerSession.lookup token = some id →
    before.tokenToPlayerSession.lookup token = some id
      ∨ ∃ player ∈ infos.zip loop.entries, ∃ session,
        player.2.entryToken = token ∧ player.2.sessionId = id
        ∧ loop.room.playerSessions.lookup id = some session
        ∧ session.uid = player.1.uid

/-- One more player. -/
theorem Admission.Issued.admitPlayer {count roomId : Nat} {loop next : Admission}
    {infos : List PlayerInfo} (h : loop.Issued before infos)
    (filled : loop.Filled before count) {info : PlayerInfo} {draw : Draw}
    (step : loop.admitPlayer roomId info draw = some next)
    : next.Issued before (infos ++ [info]) := by
  have more := filled.admitPlayer step
  obtain ⟨token, -, rfl⟩ := Option.map_eq_some_iff.mp step
  obtain ⟨-, tokens⟩ := getFreeSessionId_tokens loop.service
  have taken := getFreeSessionId_registered filled.registered
  generalize loop.service.getFreeSessionId = got at tokens taken
  obtain ⟨service, sessionId⟩ := got
  dsimp only at tokens
  have unused : sessionId ∉ loop.room.playerSessions := fun mem =>
    (List.nodup_cons.mp (List.nodup_append.mp taken.nodup).2.1).1
      (List.mem_append_left _ (AList.mem_keys.mp mem))
  refine ⟨List.rel_append h.tickets (.cons rfl .nil), fun code id found => ?_⟩
  dsimp only at found ⊢
  rw [tokens] at found
  rw [List.zip_append h.tickets.length_eq]
  rcases Table.lookup_insert_cases found with ⟨rfl, rfl⟩ | ⟨-, old⟩
  · exact .inr ⟨_, List.mem_append_right _ List.mem_cons_self, _, rfl, rfl,
      Table.lookup_tryEmplace_fresh unused _, rfl⟩
  · refine (h.tokens code id old).imp_right ?_
    rintro ⟨player, mem, session, isToken, isSession, present, uid⟩
    have apart : id ≠ sessionId := by
      rintro rfl
      exact unused (Table.mem_of_lookup present)
    exact ⟨player, List.mem_append_left _ mem, session, isToken, isSession,
      (Table.lookup_tryEmplace_ne apart _ _).trans present, uid⟩

/-- The whole loop, by induction on the players. -/
theorem Admission.Issued.admitAll {count roomId : Nat} {loop last : Admission}
    {done infos : List PlayerInfo} {draws : List Draw} (h : loop.Issued before done)
    (filled : loop.Filled before count)
    (step : loop.admitAll roomId infos draws = some last)
    : last.Issued before (done ++ infos) := by
  induction infos generalizing loop draws count done with
  | nil =>
      cases step
      rwa [List.append_nil]
  | cons info infos ih =>
      cases draws with
      | nil => cases step
      | cons draw draws =>
          simp only [Admission.admitAll] at step
          split at step
          · cases step
          · next next admitted =>
              have rest := ih (h.admitPlayer filled admitted) (filled.admitPlayer admitted)
                step
              rwa [List.append_assoc] at rest

/-- What making a room for a group issues. The entries are reported, each of them for a player
with the player's ticket. A registered token is an old one and leads to the same account, or it
is that of an entry and leads to the player's account.
-/
structure Issues (infos : List PlayerInfo) (entries : List EntryToken)
    (before after : DediServerService)
    : Prop where
  reported : after.reported = before.reported ++ entries
  players : ∀ entry ∈ entries, ∃ info, (info, entry) ∈ infos.zip entries
  tickets : ∀ player ∈ infos.zip entries, player.2.ticketId = player.1.ticketId
  tokens : ∀ token id, after.tokenToPlayerSession.lookup token = some id →
    (before.tokenToPlayerSession.lookup token = some id
        ∧ before.accountOf id = after.accountOf id)
      ∨ ∃ player ∈ infos.zip entries, player.2.entryToken = token ∧ player.2.sessionId = id
        ∧ after.accountOf id = some player.1.uid

/-- Entries that match players one by one are all entries for a player. -/
theorem exists_player {R : PlayerInfo → EntryToken → Prop} {infos : List PlayerInfo}
    {entries : List EntryToken} (all : List.Forall₂ R infos entries) {entry : EntryToken}
    (mem : entry ∈ entries)
    : ∃ info, (info, entry) ∈ infos.zip entries := by
  obtain ⟨i, here⟩ := List.mem_iff_getElem?.mp mem
  obtain ⟨bound, -⟩ := List.getElem?_eq_some_iff.mp here
  have place : i < infos.length := all.length_eq ▸ bound
  refine ⟨infos[i], List.mem_iff_getElem?.mpr ⟨i, ?_⟩⟩
  rw [List.getElem?_zip_eq_some]
  exact ⟨List.getElem?_eq_getElem place, here⟩

theorem Kept.makeRoom_issues {maps : NumberedMaps} (h : before.Kept) {draws : List Draw}
    {pkt : M2DMakeRoomForThisGroup} {handled : Bool}
    (step : before.makeRoomForThisGroup maps.toMapRooms draws pkt = some (after, handled))
    : ∃ entries, Issues pkt.playerInfos entries before after := by
  have still := (h.makeRoom step).1
  rcases makeRoomForThisGroup_cases step with ⟨-, rfl⟩ | ⟨room, loop, map, admitted, -, made⟩
  · refine ⟨[], (List.append_nil _).symm, fun entry mem => ?_, fun player mem => ?_,
      fun _ _ known => .inl ⟨known, rfl⟩⟩
    · cases mem
    · rw [List.zip_nil_right] at mem
      cases mem
  · obtain ⟨fresh, nobody⟩ := fresh_of_map map
    have start := Admission.Filled.start h.registered fresh nobody (before.roomId + 1)
    have begun : Admission.Issued { before with roomId := before.roomId + 1 } []
        { service := { before with roomId := before.roomId + 1 }, room } :=
      ⟨.nil, fun _ _ known => .inl known⟩
    have filled := start.admitAll admitted
    have issued := begun.admitAll start admitted
    rw [List.nil_append] at issued
    have rooms : after.gameRooms
        = before.gameRooms.tryEmplace (before.roomId + 1) { room := loop.room } := by
      simp only [made, filled.gameRooms]
    refine ⟨loop.entries, ?_, fun _ mem => exists_player issued.tickets mem,
      fun player mem => (List.forall₂_iff_zip.mp issued.tickets).2 mem,
      fun token id known => ?_⟩
    · simp only [reported, made, filled.toMain, List.flatMap_append, List.flatMap_singleton]
    · have registered : loop.service.tokenToPlayerSession.lookup token = some id := by
        rwa [made] at known
      refine (issued.tokens token id registered).imp (fun old => ⟨old, ?_⟩) ?_
      · obtain ⟨roomId, host, session, found, present⟩ := h.live_of_token old
        have ne : roomId ≠ before.roomId + 1 := by
          rintro rfl
          exact h.unused (Table.mem_of_lookup found)
        have stays : after.gameRooms.lookup roomId = some host := by
          rw [rooms, Table.lookup_tryEmplace_ne ne]
          exact found
        rw [h.accountOf_eq found present, still.accountOf_eq stays present]
      · rintro ⟨player, mem, session, isToken, isSession, present, uid⟩
        have here : after.gameRooms.lookup (before.roomId + 1)
            = some { room := loop.room } := by
          rw [rooms]
          exact Table.lookup_tryEmplace_fresh h.unused _
        exact ⟨player, mem, isToken, isSession, uid ▸ still.accountOf_eq here present⟩

end DediServerService

end ExtractionServer.Room
