import ExtractionServer.Matchmaking.StrandedGroups
import ExtractionServer.Room.SessionRegistry
import Mathlib.Algebra.Order.BigOperators.Group.List

/-! The capacity of a dedicated process: what the main process adds when it accepts a group
and subtracts when the room is reported destroyed.
-/

namespace ExtractionServer.Matchmaking

open Lobby Room

-----------------------------------------------------------------------------------------
-- The two processes and their pipe
-----------------------------------------------------------------------------------------

/-- A dedicated process and the main process's session for it. Each side has handled a prefix
of what the other has sent. Rooms are numbered in the order in which groups are accepted, and
`outstanding` holds the size of every accepted group whose room is not reported destroyed yet,
by that number.
-/
structure DediLink where
  main : M2DSession
  dedi : DediServerService := {}
  delivered : Nat := 0
  handled : Nat := 0
  outstanding : Table Nat Nat := ∅

namespace DediLink

/-- The packets of all accepted groups. -/
def packets (link : DediLink) : List M2DMakeRoomForThisGroup :=
  link.main.sent ++ link.main.tempMatchPkts

/-- The messages that the main process has not handled yet. -/
def unhandled (link : DediLink) : List D2MMessage := link.dedi.toMain.drop link.handled

/-- One turn of either process. -/
inductive Action where
  | allocatePlayers (hgetall : TicketReads) (ticketVec : List MatchTicket)
  | bindSocket (fd : Int)
  | makeRoomForThisGroup (draws : List Draw)
  | inRoom (roomId : Nat) (action : RoomHost.Action)
  | destroyPendingRooms
  | handleMessage

/-- A matchmaker only holds tickets of an existing map. -/
def KnownMaps (ticketVec : List MatchTicket) : Bool :=
  ticketVec.all fun ticket => ticket.mapId == MAP_TUTORIAL || ticket.mapId == MAP_TENERIFE

/-- `Handle_D2M_NotifyRoomDestroyed`, for the message that comes next. -/
def handleMessage (link : DediLink) : D2MMessage → DediLink
  | .updateEntryToken _ => { link with handled := link.handled + 1 }
  | .notifyRoomDestroyed roomId playerCount =>
      { link with
        main := link.main.releasePlayers playerCount
        handled := link.handled + 1
        outstanding := link.outstanding.erase roomId }

def next (maps : MapRooms) (env : Environment) (link : DediLink) : Action → Option DediLink
  | .allocatePlayers hgetall ticketVec =>
      if KnownMaps ticketVec then
        (link.main.allocatePlayers hgetall ticketVec).map fun (main, accepted) =>
          { link with
            main
            outstanding :=
              if accepted then
                link.outstanding.tryEmplace (link.packets.length + 1) ticketVec.length
              else link.outstanding }
      else none
  | .bindSocket fd => some { link with main := link.main.bindSocket fd }
  | .makeRoomForThisGroup draws =>
      match link.main.sent[link.delivered]? with
      | none => none
      | some pkt =>
          (link.dedi.makeRoomForThisGroup maps draws pkt).map fun (dedi, _) =>
            { link with dedi, delivered := link.delivered + 1 }
  | .inRoom roomId action =>
      (link.dedi.inRoom env roomId action).map fun dedi => { link with dedi }
  | .destroyPendingRooms => some { link with dedi := link.dedi.destroyPendingRooms }
  | .handleMessage =>
      match link.dedi.toMain[link.handled]? with
      | none => none
      | some message => some (link.handleMessage message)

/-- The runs of a fresh session with a fresh process. -/
def system (maps : MapRooms) (env : Environment) : Transition.System DediLink Action :=
  .ofNext (fun link => ∃ pid, link = { main := { pid } }) (next maps env)

/-- No ticket of a group is gone when the packet of the group is made. -/
def ticketsPresent : Action → Bool
  | .allocatePlayers hgetall ticketVec =>
      ticketVec.all fun ticket => (hgetall ticket.ticketId).isSome
  | _ => true

-----------------------------------------------------------------------------------------
-- The account
-----------------------------------------------------------------------------------------

/-- The number of a room that a message reports destroyed. -/
def destroyedRoom : D2MMessage → Option Nat
  | .updateEntryToken _ => none
  | .notifyRoomDestroyed roomId _ => some roomId

/-- The sum of the sizes of all accepted groups whose room is not reported destroyed. -/
def outstandingPlayers (link : DediLink) : Int :=
  link.outstanding.total fun (_ size : Nat) => (size : Int)

/-- Wherever a group is on its way, from the waiting packets over its room to the report, the
number that stands there is the one that was added for it.
-/
structure Accounted (link : DediLink) : Prop where
  allocated : link.main.allocatedPlayers = link.outstandingPlayers
  capacity : link.main.allocatedPlayers ≤ MAX_PLAYER_PER_PROCESS
  numbers : ∀ number ∈ link.outstanding, number ≤ link.packets.length
  counter : link.dedi.roomId = link.delivered
  delivered : link.delivered ≤ link.main.sent.length
  waiting : ∀ index pkt, link.delivered ≤ index → link.packets[index]? = some pkt →
    (pkt.mapId = MAP_TUTORIAL ∨ pkt.mapId = MAP_TENERIFE)
      ∧ link.outstanding.lookup (index + 1) = some pkt.playerInfos.length
  rooms : ∀ roomId host, link.dedi.gameRooms.lookup roomId = some host →
    host.Sound ∧ roomId ≤ link.delivered
      ∧ link.outstanding.lookup roomId = some host.room.playerSessions.keys.length
  reports : ∀ roomId count, .notifyRoomDestroyed roomId count ∈ link.unhandled →
    roomId ∉ link.dedi.gameRooms ∧ roomId ≤ link.delivered
      ∧ link.outstanding.lookup roomId = some count
  reportedOnce : (link.unhandled.filterMap destroyedRoom).Nodup
  registered : link.dedi.Registered []

theorem accounted_new (pid : Int) : Accounted { main := { pid } } where
  allocated := rfl
  capacity := show (0 : Int) ≤ 50 by decide
  numbers _ mem := by cases mem
  counter := rfl
  delivered := Nat.le_refl 0
  waiting _ _ _ found := by cases found
  rooms _ _ found := by cases found
  reports _ _ mem := by cases mem
  reportedOnce := .nil
  registered := DediServerService.registered_new

-----------------------------------------------------------------------------------------
-- Accepting groups
-----------------------------------------------------------------------------------------

/-- When no ticket is gone the packet has one player for each ticket, by induction on the
group.
-/
theorem length_makePlayerInfos {hgetall : TicketReads} {group : List MatchTicket}
    {infos : List PlayerInfo} (made : makePlayerInfos hgetall group = some infos)
    (present : ∀ ticket ∈ group, (hgetall ticket.ticketId).isSome = true)
    : infos.length = group.length := by
  induction group generalizing infos with
  | nil =>
      cases made
      rfl
  | cons ticket group ih =>
      obtain ⟨hash, found⟩ := Option.isSome_iff_exists.mp (present ticket List.mem_cons_self)
      simp only [makePlayerInfos, found] at made
      split at made
      · next fields rest _ others =>
          cases made
          rw [List.length_cons, List.length_cons,
            ih others fun ticket mem => present ticket (List.mem_cons_of_mem _ mem)]
      · cases made

/-- The packet of a group whose tickets are there. -/
theorem groupPacket_spec {hgetall : TicketReads} {group : List MatchTicket}
    {pkt : M2DMakeRoomForThisGroup} (made : groupPacket hgetall group = some pkt)
    (known : KnownMaps group = true)
    (present : ∀ ticket ∈ group, (hgetall ticket.ticketId).isSome = true)
    : (pkt.mapId = MAP_TUTORIAL ∨ pkt.mapId = MAP_TENERIFE)
      ∧ pkt.playerInfos.length = group.length := by
  cases group with
  | nil => cases made
  | cons first rest =>
      obtain ⟨infos, players, rfl⟩ := Option.map_eq_some_iff.mp made
      refine ⟨?_, length_makePlayerInfos players present⟩
      have map := List.all_eq_true.mp known first List.mem_cons_self
      simpa using map

/-- Accepting or refusing a group keeps the account. -/
theorem Accounted.allocatePlayers {link : DediLink} (h : link.Accounted) {main : M2DSession}
    {hgetall : TicketReads} {ticketVec : List MatchTicket} {accepted : Bool}
    (returns : link.main.allocatePlayers hgetall ticketVec = some (main, accepted))
    (known : KnownMaps ticketVec = true)
    (present : ∀ ticket ∈ ticketVec, (hgetall ticket.ticketId).isSome = true)
    : Accounted
        { link with
          main
          outstanding :=
            if accepted then
              link.outstanding.tryEmplace (link.packets.length + 1) ticketVec.length
            else link.outstanding } := by
  rcases M2DSession.allocatePlayers_cases returns with
    ⟨rfl, rfl⟩ | ⟨rfl, room, pkt, made, allocated, _, sent, _, packets⟩
  · exact ⟨h.allocated, h.capacity, h.numbers, h.counter, h.delivered, h.waiting, h.rooms,
      h.reports, h.reportedOnce, h.registered⟩
  · obtain ⟨map, size⟩ := groupPacket_spec made known present
    have fresh : link.packets.length + 1 ∉ link.outstanding := fun mem =>
      absurd (h.numbers _ mem) (Nat.not_succ_le_self _)
    have all : main.sent ++ main.tempMatchPkts = link.packets ++ [pkt] := packets
    have older {number : Nat} {value : Nat}
        (found : link.outstanding.lookup number = some value)
        : (link.outstanding.tryEmplace (link.packets.length + 1) ticketVec.length).lookup
            number = some value := by
      have ne : number ≠ link.packets.length + 1 := by
        rintro rfl
        exact fresh (Table.mem_of_lookup found)
      rw [Table.lookup_tryEmplace_ne ne, found]
    refine ⟨?_, ?_, ?_, h.counter, ?_, ?_, ?_, ?_, h.reportedOnce, h.registered⟩
    · simp only [outstandingPlayers, if_true]
      rw [Table.total_tryEmplace_fresh fresh, allocated, h.allocated, outstandingPlayers]
      exact Int.add_comm _ _
    · rw [allocated]
      exact room
    · intro number mem
      change number ≤ (main.sent ++ main.tempMatchPkts).length
      rw [all, List.length_append, List.length_singleton]
      rcases Table.mem_tryEmplace mem with rfl | old
      · exact Nat.le_refl _
      · exact (h.numbers number old).trans (Nat.le_succ _)
    · exact h.delivered.trans sent.length_le
    · intro index other late found
      have found : (main.sent ++ main.tempMatchPkts)[index]? = some other := found
      rw [all] at found
      by_cases last : index < link.packets.length
      · rw [List.getElem?_append_left last] at found
        obtain ⟨otherMap, stored⟩ := h.waiting index other late found
        exact ⟨otherMap, older stored⟩
      · have position : index = link.packets.length := by
          have := (List.getElem?_eq_some_iff.mp found).1
          rw [List.length_append, List.length_singleton] at this
          omega
        subst position
        rw [List.getElem?_append_right (Nat.le_refl _)] at found
        simp only [Nat.sub_self, List.getElem?_cons_zero, Option.some.injEq] at found
        subst found
        refine ⟨map, ?_⟩
        simp only [if_true]
        rw [Table.lookup_tryEmplace_fresh fresh, size]
    · intro roomId host found
      obtain ⟨sound, bound, stored⟩ := h.rooms roomId host found
      exact ⟨sound, bound, older stored⟩
    · intro roomId count mem
      obtain ⟨gone, bound, stored⟩ := h.reports roomId count mem
      exact ⟨gone, bound, older stored⟩

-----------------------------------------------------------------------------------------
-- Rooms
-----------------------------------------------------------------------------------------

/-- Making the room of the next group keeps the account. -/
theorem Accounted.makeRoom {maps : MapRooms} {link : DediLink} (h : link.Accounted)
    {pkt : M2DMakeRoomForThisGroup} (arrives : link.main.sent[link.delivered]? = some pkt)
    {dedi : DediServerService} {draws : List Draw} {handled : Bool}
    (step : link.dedi.makeRoomForThisGroup maps draws pkt = some (dedi, handled))
    : Accounted { link with dedi, delivered := link.delivered + 1 } := by
  have here := (List.getElem?_eq_some_iff.mp arrives).1
  have stored : link.packets[link.delivered]? = some pkt := by
    rw [packets, List.getElem?_append_left here]
    exact arrives
  obtain ⟨map, size⟩ := h.waiting link.delivered pkt (Nat.le_refl _) stored
  obtain ⟨_, made⟩ :=
    DediServerService.makeRoomForThisGroup_made h.registered map step
  obtain ⟨host, fresh, players, rooms⟩ := made.room
  obtain ⟨entries, messages⟩ := made.toMain
  have unused : link.delivered + 1 ∉ link.dedi.gameRooms := by
    intro mem
    obtain ⟨host, found⟩ := Table.exists_lookup_of_mem mem
    exact absurd (h.rooms _ host found).2.1 (Nat.not_succ_le_self _)
  rw [h.counter] at rooms
  have known {message : D2MMessage} (mem : message ∈ dedi.toMain.drop link.handled)
      : message ∈ link.unhandled ∨ message = .updateEntryToken entries := by
    rw [messages] at mem
    rcases List.mem_append.mp (List.mem_of_mem_drop mem) with old | new
    · rw [List.drop_append] at mem
      rcases List.mem_append.mp mem with old | new
      · exact .inl old
      · exact .inr (List.mem_singleton.mp (List.mem_of_mem_drop new))
    · exact .inr (List.mem_singleton.mp new)
  refine ⟨h.allocated, h.capacity, h.numbers, ?_, here, ?_, ?_, ?_, ?_, ?_⟩
  · rw [made.roomId, h.counter]
  · exact fun index other late found => h.waiting index other (Nat.le_of_succ_le late) found
  · intro roomId other found
    simp only [rooms] at found
    rcases Table.lookup_tryEmplace_cases unused found with ⟨rfl, rfl⟩ | old
    · exact ⟨fresh.sound, Nat.le_refl _, by rw [players]; exact size⟩
    · obtain ⟨sound, bound, count⟩ := h.rooms roomId other old
      exact ⟨sound, bound.trans (Nat.le_succ _), count⟩
  · intro roomId count mem
    rcases known mem with old | new
    · obtain ⟨gone, bound, stored⟩ := h.reports roomId count old
      refine ⟨fun present => ?_, bound.trans (Nat.le_succ _), stored⟩
      simp only [rooms] at present
      rcases Table.mem_tryEmplace present with rfl | there
      · exact absurd bound (Nat.not_succ_le_self _)
      · exact gone there
    · cases new
  · simp only [unhandled, messages, List.drop_append, List.filterMap_append]
    have quiet : (List.drop (link.handled - link.dedi.toMain.length)
        [D2MMessage.updateEntryToken entries]).filterMap destroyedRoom = [] := by
      rw [List.filterMap_eq_nil_iff]
      intro message mem
      rw [List.mem_singleton.mp (List.mem_of_mem_drop mem)]
      rfl
    rw [quiet, List.append_nil]
    exact h.reportedOnce
  · exact made.registered (h.counter ▸ unused)

/-- What happens in a room keeps the account. -/
theorem Accounted.inRoom {env : Environment} {link : DediLink} (h : link.Accounted)
    {dedi : DediServerService} {roomId : Nat} {action : RoomHost.Action}
    (step : link.dedi.inRoom env roomId action = some dedi)
    : Accounted { link with dedi } := by
  obtain ⟨host, later, found, sound, keys, rooms, messages, counter, registered⟩ :=
    DediServerService.inRoom_cases step fun host found => (h.rooms roomId host found).1
  have same : unhandled { link with dedi } = link.unhandled := by
    simp only [unhandled, messages]
  refine ⟨h.allocated, h.capacity, h.numbers, counter.trans h.counter, h.delivered, h.waiting,
    ?_, ?_, ?_, registered h.registered⟩
  · intro otherId other present
    simp only [rooms] at present
    rcases Table.lookup_adjust_cases present with ⟨rfl, _, _, rfl⟩ | ⟨_, old⟩
    · obtain ⟨_, bound, count⟩ := h.rooms otherId host found
      exact ⟨sound, bound, keys ▸ count⟩
    · exact h.rooms otherId other old
  · intro otherId count mem
    rw [same] at mem
    obtain ⟨gone, bound, stored⟩ := h.reports otherId count mem
    refine ⟨?_, bound, stored⟩
    simp only [rooms, Table.mem_adjust]
    exact gone
  · rw [same]
    exact h.reportedOnce

/-- The end of a room keeps the account: its report says what was added for it. -/
theorem Accounted.destroyRoom {link : DediLink} (h : link.Accounted) (roomId : Nat)
    : Accounted { link with dedi := link.dedi.destroyRoom roomId } := by
  rcases link.dedi.destroyRoom_cases roomId with
    ⟨_, same⟩ | ⟨host, found, rooms, messages, counter, registered⟩
  · rw [same]
    exact h
  · obtain ⟨sound, bound, count⟩ := h.rooms roomId host found
    have reported : unhandled { link with dedi := link.dedi.destroyRoom roomId }
        = link.unhandled ++ [D2MMessage.notifyRoomDestroyed roomId
            host.room.playerSessions.keys.length].drop
              (link.handled - link.dedi.toMain.length) := by
      simp only [unhandled, messages, List.drop_append]
    refine ⟨h.allocated, h.capacity, h.numbers, counter.trans h.counter, h.delivered,
      h.waiting, ?_, ?_, ?_, registered h.registered⟩
    · intro otherId other present
      simp only [rooms] at present
      by_cases same : otherId = roomId
      · subst same
        rw [AList.lookup_erase] at present
        cases present
      · rw [AList.lookup_erase_ne same] at present
        exact h.rooms otherId other present
    · intro otherId number mem
      rw [reported] at mem
      simp only [rooms, AList.mem_erase]
      rcases List.mem_append.mp mem with old | new
      · obtain ⟨gone, older, stored⟩ := h.reports otherId number old
        exact ⟨fun present => gone present.2, older, stored⟩
      · cases List.mem_singleton.mp (List.mem_of_mem_drop new)
        exact ⟨fun present => present.1 rfl, bound, count⟩
    · rw [reported, List.filterMap_append]
      have alone : (link.unhandled.filterMap destroyedRoom ++ [roomId]).Nodup := by
        refine List.nodup_append.mpr ⟨h.reportedOnce, List.nodup_singleton _, ?_⟩
        rintro otherId mem _ last rfl
        obtain ⟨message, old, names⟩ := List.mem_filterMap.mp mem
        cases message with
        | updateEntryToken _ => cases names
        | notifyRoomDestroyed otherId number =>
            cases names
            cases List.mem_singleton.mp last
            exact (h.reports roomId number old).1 (Table.mem_of_lookup found)
      refine alone.sublist (List.Sublist.append_left ?_ _)
      exact (List.drop_sublist _ _).filterMap destroyedRoom

/-- So does the end of all rooms on the list. -/
theorem Accounted.destroyPendingRooms {link : DediLink} (h : link.Accounted)
    : Accounted { link with dedi := link.dedi.destroyPendingRooms } := by
  have all : ∀ roomIds : List Nat, ∀ link : DediLink, link.Accounted →
      Accounted { link with
        dedi := roomIds.foldl DediServerService.destroyRoom link.dedi } := by
    intro roomIds
    induction roomIds with
    | nil => exact fun _ h => h
    | cons roomId rest ih => exact fun _ h => ih _ (h.destroyRoom roomId)
  have destroyed := all link.dedi.pendingDestroyRooms link h
  exact ⟨destroyed.allocated, destroyed.capacity, destroyed.numbers, destroyed.counter,
    destroyed.delivered, destroyed.waiting, destroyed.rooms, destroyed.reports,
    destroyed.reportedOnce, ⟨destroyed.registered.nodup, destroyed.registered.bound⟩⟩

-----------------------------------------------------------------------------------------
-- Reports
-----------------------------------------------------------------------------------------

theorem outstandingPlayers_nonneg (link : DediLink) : 0 ≤ link.outstandingPlayers := by
  refine List.sum_nonneg fun size mem => ?_
  obtain ⟨entry, _, rfl⟩ := List.mem_map.mp mem
  exact Int.natCast_nonneg entry.2

/-- When a room is reported, the rest of the account stays without its size. -/
theorem Accounted.reported {link : DediLink} (h : link.Accounted) {roomId count : Nat}
    (next : .notifyRoomDestroyed roomId count ∈ link.unhandled)
    : link.main.allocatedPlayers - count
      = outstandingPlayers
          { link with outstanding := AList.erase roomId link.outstanding } := by
  obtain ⟨_, _, stored⟩ := h.reports roomId count next
  simp only [outstandingPlayers]
  rw [Table.total_erase stored, h.allocated, outstandingPlayers]

/-- Handling a report never has to cut off a negative count. -/
theorem Accounted.releasePlayers {link : DediLink} (h : link.Accounted) {roomId count : Nat}
    (next : .notifyRoomDestroyed roomId count ∈ link.unhandled)
    : (link.main.releasePlayers count).allocatedPlayers
      = link.main.allocatedPlayers - count := by
  have rest := outstandingPlayers_nonneg
    { link with outstanding := AList.erase roomId link.outstanding }
  have nonneg : ¬link.main.allocatedPlayers - count < 0 := by
    rw [h.reported next]
    exact Int.not_lt.mpr rest
  simp only [M2DSession.releasePlayers, if_neg nonneg]

/-- Handling the next message keeps the account. -/
theorem Accounted.handleMessage {link : DediLink} (h : link.Accounted) {message : D2MMessage}
    (arrives : link.dedi.toMain[link.handled]? = some message)
    : (link.handleMessage message).Accounted := by
  have split : link.unhandled = message :: link.dedi.toMain.drop (link.handled + 1) := by
    rw [unhandled, List.drop_eq_getElem?_toList_append, arrives]
    rfl
  have later {other : D2MMessage} (mem : other ∈ link.dedi.toMain.drop (link.handled + 1))
      : other ∈ link.unhandled := split ▸ List.mem_cons_of_mem _ mem
  have once := h.reportedOnce
  rw [split] at once
  cases message with
  | updateEntryToken entries =>
      exact ⟨h.allocated, h.capacity, h.numbers, h.counter, h.delivered, h.waiting, h.rooms,
        fun roomId count mem => h.reports roomId count (later mem), once, h.registered⟩
  | notifyRoomDestroyed roomId count =>
      have first : .notifyRoomDestroyed roomId count ∈ link.unhandled :=
        split ▸ List.mem_cons_self
      obtain ⟨gone, bound, stored⟩ := h.reports roomId count first
      have other {number : Nat} (ne : number ≠ roomId)
          : (AList.erase roomId link.outstanding).lookup number
            = link.outstanding.lookup number := AList.lookup_erase_ne ne
      obtain ⟨apart, once⟩ := List.nodup_cons.mp once
      refine ⟨?_, ?_, ?_, h.counter, h.delivered, ?_, ?_, ?_, once, h.registered⟩
      · exact (h.releasePlayers first).trans (h.reported first)
      · change (link.main.releasePlayers count).allocatedPlayers ≤ MAX_PLAYER_PER_PROCESS
        rw [h.releasePlayers first]
        exact (Int.sub_le_self _ (Int.natCast_nonneg count)).trans h.capacity
      · exact fun number mem => h.numbers number (AList.mem_erase.mp mem).2
      · intro index pkt late found
        obtain ⟨map, size⟩ := h.waiting index pkt late found
        refine ⟨map, (other ?_).trans size⟩
        have : link.delivered ≤ index := late
        omega
      · intro otherId host found
        obtain ⟨sound, below, size⟩ := h.rooms otherId host found
        refine ⟨sound, below, (other ?_).trans size⟩
        rintro rfl
        exact gone (Table.mem_of_lookup found)
      · intro otherId number mem
        obtain ⟨absent, below, size⟩ := h.reports otherId number (later mem)
        refine ⟨absent, below, (other ?_).trans size⟩
        rintro rfl
        exact apart (List.mem_filterMap.mpr ⟨_, mem, rfl⟩)

-----------------------------------------------------------------------------------------
-- Runs
-----------------------------------------------------------------------------------------

/-- Every step that finds the tickets it asks for keeps the account. -/
theorem Accounted.next {maps : MapRooms} {env : Environment} {link after : DediLink}
    {action : Action} (h : link.Accounted) (step : link.next maps env action = some after)
    (present : ticketsPresent action = true)
    : after.Accounted := by
  cases action with
  | allocatePlayers hgetall ticketVec =>
      simp only [DediLink.next] at step
      split at step
      · next known =>
          obtain ⟨⟨main, accepted⟩, returns, rfl⟩ := Option.map_eq_some_iff.mp step
          exact h.allocatePlayers returns known (List.all_eq_true.mp present)
      · cases step
  | bindSocket fd =>
      cases step
      exact ⟨h.allocated, h.capacity, h.numbers, h.counter, h.delivered, h.waiting, h.rooms,
        h.reports, h.reportedOnce, h.registered⟩
  | makeRoomForThisGroup draws =>
      simp only [DediLink.next] at step
      split at step
      · cases step
      · next pkt arrives =>
          obtain ⟨⟨dedi, handled⟩, made, rfl⟩ := Option.map_eq_some_iff.mp step
          exact h.makeRoom arrives made
  | inRoom roomId action =>
      obtain ⟨dedi, moved, rfl⟩ := Option.map_eq_some_iff.mp step
      exact h.inRoom moved
  | destroyPendingRooms =>
      cases step
      exact h.destroyPendingRooms
  | handleMessage =>
      simp only [DediLink.next] at step
      split at step
      · cases step
      · next message arrives =>
          cases step
          exact h.handleMessage arrives

theorem accounted_of_reachable {maps : MapRooms} {env : Environment} {link : DediLink}
    (reached : ((system maps env).restrict fun _ action _ => ticketsPresent action = true)
      |>.Reachable link)
    : link.Accounted := by
  have invariant : ((system maps env).restrict
      fun _ action _ => ticketsPresent action = true).Inductive Accounted := by
    constructor
    · rintro _ ⟨pid, rfl⟩
      exact accounted_new pid
    · exact fun _ _ _ h step => h.next step.1 step.2
  exact invariant.reachable reached

/-- While no ticket is gone when its group's packet is made, capacity does not leak: the
allocated players are those of the outstanding groups, between 0 and 50, no report makes the
count negative, and it is 0 when every room is gone.
-/
theorem capacity_of_reachable {maps : MapRooms} {env : Environment} {link : DediLink}
    (reached : ((system maps env).restrict fun _ action _ => ticketsPresent action = true)
      |>.Reachable link)
    : link.main.allocatedPlayers = link.outstandingPlayers
      ∧ 0 ≤ link.main.allocatedPlayers
      ∧ link.main.allocatedPlayers ≤ MAX_PLAYER_PER_PROCESS
      ∧ (∀ roomId count,
          link.dedi.toMain[link.handled]? = some (.notifyRoomDestroyed roomId count) →
          0 ≤ link.main.allocatedPlayers - count)
      ∧ (link.outstanding = ∅ → link.main.allocatedPlayers = 0) := by
  have h := accounted_of_reachable reached
  refine ⟨h.allocated, ?_, h.capacity, fun roomId count arrives => ?_, fun none => ?_⟩
  · rw [h.allocated]
    exact outstandingPlayers_nonneg link
  · have mem : .notifyRoomDestroyed roomId count ∈ link.unhandled := by
      rw [unhandled, List.drop_eq_getElem?_toList_append, arrives]
      exact List.mem_cons_self
    rw [h.reported mem]
    exact outstandingPlayers_nonneg
      { link with outstanding := AList.erase roomId link.outstanding }
  · rw [h.allocated, outstandingPlayers, none]
    rfl

/-- The tutorial map as it is; the other map without its objects. -/
def tutorialRooms : MapRooms where
  testGameRoom := testGameRoom
  tenerifeGameRoom roomId := { (RoomHost.emptyMap ∅).room with roomId }
  testGameRoom_fresh := testGameRoom_fresh
  tenerifeGameRoom_fresh roomId := by
    have fresh := @RoomHost.emptyMap_fresh ∅ fun session mem => by cases mem
    exact ⟨{ fresh with }, rfl⟩

/-- One player for the tutorial map. -/
def tutorialGroup : List MatchTicket :=
  [{ ticketId := "ticket_a", uId := 1, aggression := 5, mapId := 0, characterType := 0,
     startTime := 0 }]

/-- A session binds its socket and accepts a group, and the room of the group is made. -/
def untilRoom (hgetall : TicketReads) : List Action :=
  [.bindSocket 7, .allocatePlayers hgetall tutorialGroup,
    .makeRoomForThisGroup [{ tokens := ["token_a"], securityKey := 9 }]]

/-- The state after some actions of a fresh session. -/
def linkAfter (guard : Action → Bool) (actions : List Action) : DediLink :=
  (Transition.replay (next tutorialRooms RoomHost.openField) (fun _ action _ => guard action)
    { main := { pid := 100 } } actions).getD { main := { pid := 100 } }

theorem reachable_linkAfter (guard : Action → Bool) (actions : List Action)
    (succeeds : (Transition.replay (next tutorialRooms RoomHost.openField)
      (fun _ action _ => guard action) { main := { pid := 100 } } actions).isSome = true)
    : ((system tutorialRooms RoomHost.openField).restrict
        fun _ action _ => guard action = true).Reachable (linkAfter guard actions) :=
  (Transition.System.Run.of_replay _ _ _ actions _ _ succeeds).reachable
    (.initial ⟨100, rfl⟩)

/-- With the ticket there the room of the group is counted. -/
theorem capacity_with_ticket
    : (linkAfter ticketsPresent (untilRoom SessionRun.soloReads)).main.allocatedPlayers
      = (linkAfter ticketsPresent (untilRoom SessionRun.soloReads)).outstandingPlayers :=
  (capacity_of_reachable (reachable_linkAfter ticketsPresent _ (by decide +kernel))).1

/-- A ticket expires before the packet of its group is made: its room holds nobody, its
report subtracts nothing, and the place stays taken when every room is gone.
-/
theorem leak_after_expiry
    : ∃ link, (system tutorialRooms RoomHost.openField).Reachable link
      ∧ link.outstanding = ∅ ∧ link.dedi.gameRooms = ∅
      ∧ link.main.allocatedPlayers = 1 ∧ link.outstandingPlayers = 0 := by
  let actions := untilRoom (fun _ => none) ++
    [.inRoom 1 .processLeaves, .destroyPendingRooms, .handleMessage, .handleMessage]
  have reached := reachable_linkAfter (fun _ => true) actions (by decide +kernel)
  have reported : (linkAfter (fun _ => true) actions).outstanding.entries.isEmpty = true := by
    decide +kernel
  have rooms : (linkAfter (fun _ => true) actions).dedi.gameRooms.entries.isEmpty = true := by
    decide +kernel
  exact ⟨_, reached.of_restrict, AList.ext (List.isEmpty_iff.mp reported),
    AList.ext (List.isEmpty_iff.mp rooms), by decide +kernel, by decide +kernel⟩

end DediLink

end ExtractionServer.Matchmaking
