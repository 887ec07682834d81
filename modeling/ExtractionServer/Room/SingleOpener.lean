import ExtractionServer.Library.Occupancy
import ExtractionServer.Room.RoomRuns
import ExtractionServer.Room.Turns

/-! A container is open for one player at a time. The room keeps the two sides of every
occupation in agreement as long as no session spawns while it has a container open.
-/

namespace ExtractionServer.Room

namespace GameRoom

-----------------------------------------------------------------------------------------
-- The occupations of a room
-----------------------------------------------------------------------------------------

/-- Sessions, the player objects they control, and the containers they have open. -/
def occupancy (room : GameRoom) : Occupancy Nat Nat Nat where
  body sessionId := (room.playerSessions.lookup sessionId).bind (·.objectId)
  opened sessionId := (room.playerSessions.lookup sessionId).bind (·.interactingContainerId)
  holder containerId := (room.findContainer containerId).bind (·.interactingPlayerId)

/-- Occupations are stored on both sides: an open container is held by the player object of
the session that has it open, and the object of a session holds one container at most.
-/
structure SingleOpener (room : GameRoom) : Prop where
  held : ∀ sessionId session containerId,
    room.playerSessions.lookup sessionId = some session →
      session.interactingContainerId = some containerId →
      ∃ box objectId, room.findContainer containerId = some box
        ∧ session.objectId = some objectId ∧ box.interactingPlayerId = some objectId
  exclusive : ∀ sessionId otherId session other containerId,
    room.playerSessions.lookup sessionId = some session →
      room.playerSessions.lookup otherId = some other →
      session.interactingContainerId = some containerId →
      other.interactingContainerId = some containerId → sessionId = otherId
  single : ∀ sessionId session objectId containerId otherId box other,
    room.playerSessions.lookup sessionId = some session →
      session.objectId = some objectId →
      room.findContainer containerId = some box → room.findContainer otherId = some other →
      box.interactingPlayerId = some objectId → other.interactingPlayerId = some objectId →
      containerId = otherId

/-- Agreement of the two sides, with current objects that the room has created. -/
structure Occupied (room : GameRoom) : Prop where
  layout : room.Layout
  created : ∀ sessionId objectId, room.occupancy.body sessionId = some objectId →
    objectId < room.nxtObjectId
  agrees : room.occupancy.Agrees

theorem Occupied.singleOpener {room : GameRoom} (h : room.Occupied) : room.SingleOpener where
  held sessionId session containerId found opened := by
    obtain ⟨objectId, current, holder⟩ := h.agrees.held
      (show room.occupancy.opened sessionId = some containerId by
        simp [occupancy, found, opened])
    obtain ⟨box, located, holder⟩ := Option.bind_eq_some_iff.mp holder
    exact ⟨box, objectId, located, by simpa [occupancy, found] using current, holder⟩
  exclusive sessionId otherId session other containerId found foundOther mine theirs :=
    h.agrees.exclusive
      (show room.occupancy.opened sessionId = some containerId by
        simp [occupancy, found, mine])
      (by simp [occupancy, foundOther, theirs])
  single _ _ objectId containerId otherId box other _ _ located locatedOther mine theirs :=
    h.agrees.single
      (show room.occupancy.holder containerId = some objectId by
        simp [occupancy, located, mine])
      (by simp [occupancy, locatedOther, theirs])

section Writes

variable (room : GameRoom) (sessionId : Nat)

/-- What a view sees of a session table in which one session was written. -/
theorem bind_lookup_modifySession {β : Type} (view : PlayerSession → Option β)
    (f : PlayerSession → PlayerSession) (otherId : Nat)
    : ((room.modifySession sessionId f).playerSessions.lookup otherId).bind view
      = (room.playerSessions.lookup otherId).bind
        (if otherId = sessionId then view ∘ f else view) := by
  rw [modifySession, Table.lookup_adjust]
  split
  · rw [Option.bind_map]
  · rfl

/-- Writing a session is seen by the occupations only through its object and what it has
open.
-/
theorem occupancy_modifySession {f : PlayerSession → PlayerSession}
    (objectId : ∀ session, (f session).objectId = session.objectId)
    (opened : ∀ session,
      (f session).interactingContainerId = session.interactingContainerId)
    : (room.modifySession sessionId f).occupancy = room.occupancy := by
  have same {view : PlayerSession → Option Nat} (keeps : ∀ session, view (f session) = view session)
      (otherId : Nat)
      : ((room.modifySession sessionId f).playerSessions.lookup otherId).bind view
        = (room.playerSessions.lookup otherId).bind view := by
    rw [bind_lookup_modifySession, show view ∘ f = view from funext keeps, ite_self]
  unfold occupancy
  congr 1
  · exact funext (same objectId)
  · exact funext (same opened)

/-- Setting what a session has open is an update, unless nobody has the session. -/
theorem occupancy_setOpened (containerId : Option Nat)
    (known : containerId = none ∨ (room.playerSessions.lookup sessionId).isSome)
    : (room.modifySession sessionId
          ({ · with interactingContainerId := containerId })).occupancy
      = { room.occupancy with
          opened := Function.update room.occupancy.opened sessionId containerId } := by
  unfold occupancy
  congr 1
  · funext otherId
    rw [bind_lookup_modifySession]
    exact congrArg _ (ite_self _)
  · funext otherId
    rw [bind_lookup_modifySession, Function.update_apply]
    split
    · next same =>
        subst same
        rcases known with rfl | known
        · cases room.playerSessions.lookup otherId <;> rfl
        · obtain ⟨session, found⟩ := Option.isSome_iff_exists.mp known
          rw [found]
          rfl
    · rfl

/-- Setting the object of a session is an update, unless nobody has the session. -/
theorem occupancy_setObject {f : PlayerSession → PlayerSession} (objectId : Option Nat)
    (current : ∀ session, (f session).objectId = objectId)
    (opened : ∀ session,
      (f session).interactingContainerId = session.interactingContainerId)
    (known : objectId = none ∨ (room.playerSessions.lookup sessionId).isSome)
    : (room.modifySession sessionId f).occupancy
      = room.occupancy.embody sessionId objectId := by
  unfold occupancy Occupancy.embody
  congr 1
  · funext otherId
    rw [bind_lookup_modifySession, Function.update_apply]
    split
    · next same =>
        subst same
        cases found : room.playerSessions.lookup otherId with
        | none =>
            rcases known with rfl | known
            · rfl
            · simp [found] at known
        | some session => exact current session
    · rfl
  · funext otherId
    rw [bind_lookup_modifySession]
    split
    · exact congrArg _ (funext opened)
    · rfl

/-- Writing a container is seen through its holder only. -/
theorem occupancy_modifyContainer_of_same (containerId : Nat) {f : Container → Container}
    (same : ∀ box, (f box).interactingPlayerId = box.interactingPlayerId)
    : (room.modifyContainer containerId f).occupancy = room.occupancy := by
  unfold occupancy
  rw [modifyContainer_playerSessions]
  congr 1
  funext otherId
  rw [findContainer_modifyContainer]
  split
  · rw [Option.bind_map]
    exact congrArg _ (funext same)
  · rfl

/-- Setting the holder of a container that the room has is an update. -/
theorem occupancy_modifyContainer {containerId : Nat} {box : Container}
    (located : room.findContainer containerId = some box) (playerObjectId : Option Nat)
    : (room.modifyContainer containerId
          ({ · with interactingPlayerId := playerObjectId })).occupancy
      = { room.occupancy with
          holder := Function.update room.occupancy.holder containerId playerObjectId } := by
  unfold occupancy
  rw [modifyContainer_playerSessions]
  congr 1
  funext otherId
  rw [findContainer_modifyContainer, Function.update_apply]
  split
  · next same =>
      subst same
      rw [located]
      rfl
  · rfl

theorem occupancy_releaseInteractingContainer
    : (room.releaseInteractingContainer sessionId).occupancy
      = room.occupancy.release sessionId := by
  unfold releaseInteractingContainer Occupancy.release Occupancy.releasedHolder
  cases found : room.playerSessions.lookup sessionId with
  | none =>
      have closed : room.occupancy.opened sessionId = none := by simp [occupancy, found]
      have same : Function.update room.occupancy.opened sessionId none
          = room.occupancy.opened :=
        Function.update_eq_iff.mpr ⟨closed.symm, fun _ _ => rfl⟩
      rw [closed, same]
  | some session =>
      have opened : room.occupancy.opened sessionId = session.interactingContainerId := by
        simp [occupancy, found]
      have body : room.occupancy.body sessionId = session.objectId := by
        simp [occupancy, found]
      dsimp only
      rw [opened, body]
      cases session.interactingContainerId with
      | none => exact room.occupancy_setOpened sessionId none (.inl rfl)
      | some containerId =>
          dsimp only [findContainer_modifySession]
          cases located : room.findContainer containerId with
          | none =>
              have free : room.occupancy.holder containerId = none := by
                simp [occupancy, located]
              have same : Function.update room.occupancy.holder containerId none
                  = room.occupancy.holder :=
                Function.update_eq_iff.mpr ⟨free.symm, fun _ _ => rfl⟩
              rw [same, ite_self]
              exact room.occupancy_setOpened sessionId none (.inl rfl)
          | some box =>
              have holder : room.occupancy.holder containerId = box.interactingPlayerId := by
                simp [occupancy, located]
              dsimp only
              rw [holder, ite_not]
              split
              · rw [occupancy_modifyContainer
                    (room.modifySession sessionId ({ · with interactingContainerId := none }))
                    located,
                  occupancy_setOpened _ _ none (.inl rfl)]
              · exact room.occupancy_setOpened sessionId none (.inl rfl)

/-- Releasing neither removes sessions nor containers. -/
theorem isSome_findContainer_release (containerId : Nat)
    : ((room.releaseInteractingContainer sessionId).findContainer containerId).isSome
      = (room.findContainer containerId).isSome := by
  unfold releaseInteractingContainer
  split
  · rfl
  · dsimp only
    repeat' split
    all_goals
      simp only [findContainer_modifySession, findContainer_modifyContainer]
    split <;> simp

theorem isSome_lookup_release (otherId : Nat)
    : ((room.releaseInteractingContainer sessionId).playerSessions.lookup otherId).isSome
      = (room.playerSessions.lookup otherId).isSome := by
  have sessions : (room.releaseInteractingContainer sessionId).playerSessions
      = room.playerSessions.adjust sessionId ({ · with interactingContainerId := none }) :=
    congrArg Prod.fst (RoomHost.releaseInteractingContainer_players sessionId room)
  rw [sessions, Table.lookup_adjust]
  split <;> simp

/-- The session that a lookup by object finds controls that object. -/
theorem body_of_findSessionByObjectId {objectId : Nat}
    (found : room.findSessionByObjectId objectId = some sessionId)
    : room.occupancy.body sessionId = some objectId := by
  obtain ⟨entry, first, rfl⟩ := Option.map_eq_some_iff.mp found
  have current := List.find?_some first
  have stored : room.playerSessions.lookup entry.1 = some entry.2 :=
    Table.mem_entries_iff.mp (List.mem_of_find?_eq_some first)
  simp only [occupancy, stored, Option.bind_some]
  exact eq_of_beq current

/-- Whoever controls an object, a lookup by that object finds a session. -/
theorem exists_findSessionByObjectId {objectId : Nat}
    (current : room.occupancy.body sessionId = some objectId)
    : ∃ otherId, room.findSessionByObjectId objectId = some otherId := by
  obtain ⟨session, found, current⟩ := Option.bind_eq_some_iff.mp current
  apply Option.isSome_iff_exists.mp
  rw [findSessionByObjectId, Option.isSome_map, List.find?_isSome]
  exact ⟨⟨sessionId, session⟩, Table.mem_entries_iff.mpr found, by simp [current]⟩

/-- An accepted open request takes the container for the requester. -/
theorem occupancy_openContainer {session : PlayerSession} {box : Container}
    {containerId : Nat} (playerObjectId : Nat)
    (found : room.playerSessions.lookup sessionId = some session)
    (located : room.findContainer containerId = some box)
    : (room.openContainer sessionId containerId playerObjectId box).occupancy
      = room.occupancy.acquire sessionId playerObjectId containerId
        ((box.otherHolder playerObjectId).bind room.findSessionByObjectId) := by
  unfold openContainer
  generalize (box.otherHolder playerObjectId).bind room.findSessionByObjectId = out
  extract_lets evicted
  have occupied : evicted.occupancy
      = { room.occupancy with
          opened :=
            out.elim room.occupancy.opened fun other =>
              Function.update room.occupancy.opened other none } := by
    unfold evicted
    cases out with
    | none => rfl
    | some other => exact room.occupancy_setOpened other none (.inl rfl)
  have present : (evicted.playerSessions.lookup sessionId).isSome
      ∧ (evicted.findContainer containerId).isSome := by
    unfold evicted
    cases out with
    | none => simp [found, located]
    | some other =>
        refine ⟨?_, by simp [located]⟩
        dsimp only
        rw [modifySession, Table.lookup_adjust]
        split <;> simp [found]
  obtain ⟨inside, known⟩ := present
  rw [← isSome_lookup_release evicted sessionId] at inside
  rw [← isSome_findContainer_release evicted sessionId] at known
  obtain ⟨taken, known⟩ := Option.isSome_iff_exists.mp known
  rw [occupancy_setOpened, occupancy_modifyContainer _ known,
    occupancy_releaseInteractingContainer, occupied]
  · cases out <;> rfl
  · refine .inr ?_
    rw [modifyContainer_playerSessions]
    exact inside

end Writes

end GameRoom

namespace RoomHost

-----------------------------------------------------------------------------------------
-- Turns keep the two sides in agreement
-----------------------------------------------------------------------------------------

open GameRoom

/-- A session that may spawn. -/
def withoutContainer (_ : GameRoom) (session : PlayerSession) : Bool :=
  session.interactingContainerId.isNone

variable {env : Environment} {spawner : GameRoom → PlayerSession → Bool}
  {before after : RoomHost}

/-- A turn that the occupations do not see. -/
theorem occupied_of_same (h : before.room.Occupied) (layout : after.room.Layout)
    (same : after.room.occupancy = before.room.occupancy)
    (grows : before.room.nxtObjectId ≤ after.room.nxtObjectId)
    : after.room.Occupied where
  layout := layout
  created sessionId objectId current :=
    (h.created sessionId objectId (same ▸ current)).trans_le grows
  agrees := same ▸ h.agrees

theorem commitStore_occupancy (host : RoomHost) (sessionId : Nat)
    (opened : Option (Nat × Container)) (store : SlotStore)
    : (host.commitStore sessionId opened store).room.occupancy = host.room.occupancy := by
  have stored : (host.modifySession sessionId
        ({ · with inventory := store.inventory })).room.occupancy = host.room.occupancy :=
    host.room.occupancy_modifySession sessionId (fun _ => rfl) (fun _ => rfl)
  unfold commitStore
  dsimp only
  split
  · exact stored
  · refine Eq.trans ?_ stored
    apply occupancy_modifyContainer_of_same
    exact fun _ => rfl

/-- Requests that move items open and close nothing. -/
theorem Deal.occupancy (step : Deal env before after)
    : after.room.occupancy = before.room.occupancy := by
  cases step with
  | interact sessionId session pkt opened store found plan room =>
      rw [room]
      exact before.commitStore_occupancy sessionId opened store
  | equip sessionId session pkt opened store unloadedSlotIdx found plan room =>
      rw [room]
      exact before.commitStore_occupancy sessionId opened store
  | reload sessionId session isUsingPrimary version found room =>
      rw [room]
      exact before.room.occupancy_modifySession sessionId (fun _ => rfl) (fun _ => rfl)
  | shot sessionId session isUsingPrimary found loaded positive room =>
      rw [room]
      exact before.room.occupancy_modifySession sessionId (fun _ => rfl) (fun _ => rfl)

theorem Deal.nxtObjectId (step : Deal env before after)
    : after.room.nxtObjectId = before.room.nxtObjectId := by
  cases step with
  | interact sessionId session pkt opened store found plan room =>
      rw [room]
      exact (commitStore_ordinary before sessionId opened store).room.nxtObjectId
  | equip sessionId session pkt opened store unloadedSlotIdx found plan room =>
      rw [room]
      exact (commitStore_ordinary before sessionId opened store).room.nxtObjectId
  | reload sessionId session isUsingPrimary version found room => exact room ▸ rfl
  | shot sessionId session isUsingPrimary found loaded positive room => exact room ▸ rfl

/-- A session with nothing open may take a new object. -/
theorem Spawned.occupied {sessionId : Nat} {session : PlayerSession}
    (step : Spawned sessionId before after) (h : before.room.Occupied)
    (found : before.room.playerSessions.lookup sessionId = some session)
    (closed : session.interactingContainerId = none)
    : after.room.Occupied := by
  have same : after.room.occupancy
      = before.room.occupancy.embody sessionId (some before.room.nxtObjectId) := by
    rw [← before.room.occupancy_setObject sessionId
      (f := ({ · with objectId := some before.room.nxtObjectId }))
      (some before.room.nxtObjectId) (fun _ => rfl) (fun _ => rfl) (.inr (by simp [found]))]
    unfold GameRoom.occupancy findContainer findNonplayerObject
    rw [step.sessions, step.staticObjects, step.dynamicObjects]
    rfl
  refine ⟨step.layout h.layout, ?_, ?_⟩
  · intro otherId objectId current
    rw [same, Occupancy.embody_body] at current
    rw [step.nxtObjectId]
    split at current
    · cases current
      exact Nat.lt_succ_self _
    · exact (h.created otherId objectId current).trans (Nat.lt_succ_self _)
  · rw [same]
    refine h.agrees.embody ?_ ?_
    · simp [GameRoom.occupancy, found, closed]
    · rintro otherId value fresh current
      cases fresh
      exact Nat.lt_irrefl _ (h.created otherId _ current)

/-- A request to open a container takes it from a holder out of reach, if any. -/
theorem openContainer_occupied {room : GameRoom} (h : room.Occupied) {sessionId : Nat}
    {session : PlayerSession} {box : Container} {containerId playerObjectId : Nat}
    (found : room.playerSessions.lookup sessionId = some session)
    (located : room.findContainer containerId = some box)
    (current : session.objectId = some playerObjectId)
    : (room.openContainer sessionId containerId playerObjectId box).Occupied := by
  have step := openContainer_ordinary room sessionId containerId playerObjectId box
  have same := room.occupancy_openContainer sessionId playerObjectId found located
  have body : room.occupancy.body sessionId = some playerObjectId := by
    simp [GameRoom.occupancy, found, current]
  have holder : room.occupancy.holder containerId = box.interactingPlayerId := by
    simp [GameRoom.occupancy, located]
  refine ⟨step.layout h.layout, ?_, ?_⟩
  · intro otherId objectId theirs
    rw [same] at theirs
    rw [step.nxtObjectId]
    exact h.created otherId objectId theirs
  · rw [same]
    refine h.agrees.acquire body containerId ?_ ?_
    · intro other out
      obtain ⟨former, holds, lookup⟩ := Option.bind_eq_some_iff.mp out
      obtain ⟨holds, ne⟩ := Option.filter_eq_some_iff.mp holds
      have theirs := room.body_of_findSessionByObjectId other lookup
      refine ⟨?_, by rw [theirs, holder, holds]⟩
      rintro rfl
      cases body.symm.trans theirs
      simp at ne
    · intro other theirs isSome ne
      obtain ⟨former, theirBody⟩ := Option.isSome_iff_exists.mp isSome
      have holds : box.interactingPlayerId = some former := by
        rw [← holder, ← theirs, theirBody]
      have others : former ≠ playerObjectId := by
        rintro rfl
        exact ne (h.agrees.distinct theirBody body)
      obtain ⟨evicted, lookup⟩ := room.exists_findSessionByObjectId other theirBody
      have same := h.agrees.distinct theirBody (room.body_of_findSessionByObjectId evicted lookup)
      subst same
      simp [Container.otherHolder, holds, Option.filter, others, lookup]

/-- Loot appears closed, so nobody holds it. -/
theorem occupancy_loot {room : GameRoom} (layout : room.Layout) {box : Container}
    (closed : box.interactingPlayerId = none)
    : GameRoom.occupancy
        { room with
          nxtObjectId := room.nxtObjectId + 1
          dynamicObjects :=
            room.dynamicObjects.tryEmplace room.nxtObjectId (.container box) }
      = room.occupancy := by
  unfold GameRoom.occupancy
  congr 1
  funext containerId
  unfold findContainer findNonplayerObject
  dsimp only
  have fresh : room.nxtObjectId ∉ room.dynamicObjects :=
    fun taken => Nat.lt_irrefl _ (layout.dynamicIds _ taken)
  cases room.staticObjects.lookup containerId with
  | some object => rfl
  | none =>
      by_cases same : containerId = room.nxtObjectId
      · subst same
        rw [Table.lookup_tryEmplace_fresh fresh, AList.lookup_eq_none.mpr fresh]
        exact closed
      · rw [Table.lookup_tryEmplace_ne same]

theorem Effect.occupied (step : Effect env withoutContainer before after)
    (h : before.room.Occupied)
    : after.room.Occupied := by
  have layout := step.layout h.layout
  cases step.change with
  | quiet room => exact room ▸ h
  | scene room =>
      refine occupied_of_same h layout ?_ (Nat.le_of_eq room.ordinary.nxtObjectId.symm)
      unfold GameRoom.occupancy
      rw [room.sessions]
      congr 1
      funext containerId
      rw [room.containers h.layout]
  | touch sessionId f keeps room =>
      refine occupied_of_same h layout ?_ (Nat.le_of_eq (room ▸ rfl))
      rw [room]
      exact before.room.occupancy_modifySession sessionId (fun session => (keeps session).objectId)
        (fun session => (keeps session).interactingContainerId)
  | notice sessionId seq pending room =>
      refine occupied_of_same h layout ?_ (Nat.le_of_eq (room ▸ rfl))
      rw [room]
      exact before.room.occupancy_modifySession sessionId (fun _ => rfl) (fun _ => rfl)
  | spawn sessionId session found active meets step =>
      exact step.occupied h found (Option.isNone_iff_eq_none.mp meets)
  | openContainer sessionId containerId playerObjectId session box found located current room =>
      rw [room]
      exact openContainer_occupied h found located current
  | closeContainer sessionId room =>
      have same : after.room.occupancy = before.room.occupancy.release sessionId := by
        rw [room]
        exact before.room.occupancy_releaseInteractingContainer sessionId
      have step : GameRoom.Ordinary none before.room after.room :=
        room ▸ .releaseInteractingContainer sessionId before.room
      refine ⟨layout, fun otherId objectId current => ?_, same ▸ h.agrees.release sessionId⟩
      rw [step.nxtObjectId]
      rw [same] at current
      exact h.created otherId objectId current

/-- Giving up an object when nothing is open. -/
theorem occupied_detach {room : GameRoom} (h : room.Occupied) {sessionId : Nat}
    (closed : ∀ session, room.playerSessions.lookup sessionId = some session →
      session.interactingContainerId = none)
    : (room.modifySession sessionId
        ({ · with objectId := none, leaveState := .detached })).Occupied := by
  have same : (room.modifySession sessionId
        ({ · with objectId := none, leaveState := .detached })).occupancy
      = room.occupancy.embody sessionId none :=
    room.occupancy_setObject sessionId none (fun _ => rfl) (fun _ => rfl) (.inl rfl)
  refine ⟨⟨h.layout.staticContainers, h.layout.dynamicIds, h.layout.playerIds⟩, ?_, ?_⟩
  · intro otherId objectId current
    rw [same, Occupancy.embody_body] at current
    split at current
    · cases current
    · exact h.created otherId objectId current
  · rw [same]
    refine h.agrees.embody ?_ nofun
    cases found : room.playerSessions.lookup sessionId with
    | none => simp [GameRoom.occupancy, found]
    | some session => simp [GameRoom.occupancy, found, closed session found]

theorem Turn.occupied (turn : Turn env withoutContainer before after)
    (h : before.room.Occupied)
    : after.room.Occupied := by
  have layout := turn.layout h.layout
  have written {sessionId : Nat} {f : PlayerSession → PlayerSession}
      (room : after.room = before.room.modifySession sessionId f)
      (objectId : ∀ session, (f session).objectId = session.objectId)
      (opened : ∀ session,
        (f session).interactingContainerId = session.interactingContainerId)
      : after.room.Occupied := by
    refine occupied_of_same h layout ?_ (Nat.le_of_eq (room ▸ rfl))
    rw [room]
    exact before.room.occupancy_modifySession sessionId objectId opened
  cases turn with
  | effect step => exact step.occupied h
  | quiet room => exact room ▸ h
  | mark sessionId reason now notifyRSeq room =>
      refine written room (fun session => session.markLeaving_objectId reason now notifyRSeq) ?_
      intro session
      unfold PlayerSession.markLeaving
      split <;> rfl
  | loot box closed room =>
      refine occupied_of_same h layout ?_ (room ▸ Nat.le_succ _)
      rw [room]
      exact occupancy_loot h.layout closed
  | clear sessionId room => exact written room (fun _ => rfl) (fun _ => rfl)
  | erase objectId room =>
      exact occupied_of_same h layout (room ▸ rfl) (Nat.le_of_eq (room ▸ rfl))
  | detach sessionId closed room =>
      rw [room]
      exact occupied_detach h closed
  | finalize sessionId room => exact written room (fun _ => rfl) (fun _ => rfl)

/-- In a fresh room nobody holds anything. -/
theorem Fresh.occupied {host : RoomHost} (h : host.Fresh) : host.room.Occupied := by
  have bodies (sessionId : Nat) : host.room.occupancy.body sessionId = none := by
    cases found : host.room.playerSessions.lookup sessionId with
    | none => simp [GameRoom.occupancy, found]
    | some session =>
        simp [GameRoom.occupancy, found, (h.sessions sessionId session found).objectId]
  have opened (sessionId : Nat) : host.room.occupancy.opened sessionId = none := by
    cases found : host.room.playerSessions.lookup sessionId with
    | none => simp [GameRoom.occupancy, found]
    | some session =>
        simp [GameRoom.occupancy, found,
          (h.sessions sessionId session found).interactingContainerId]
  have holders (containerId : Nat) : host.room.occupancy.holder containerId = none := by
    simp only [GameRoom.occupancy, findContainer, findNonplayerObject]
    cases static : host.room.staticObjects.lookup containerId with
    | some object =>
        obtain ⟨box, rfl, free⟩ := h.staticObjects containerId object static
        exact free
    | none =>
        cases dynamic : host.room.dynamicObjects.lookup containerId with
        | none => rfl
        | some object =>
            obtain ⟨_, _, _, rfl⟩ := h.dynamicObjects containerId object dynamic
            rfl
  refine ⟨(Fresh.sound h).layout, ?_, ?_, ?_, ?_⟩
  · intro sessionId objectId current
    cases (bodies sessionId).symm.trans current
  · intro actor other body current
    cases (bodies actor).symm.trans current
  · intro actor resource mine
    cases (opened actor).symm.trans mine
  · intro resource body holder
    cases (holders resource).symm.trans holder

/-- In every run in which no active session spawns while it has a container open, every
container is open for one session at most, on both sides, in every state.
-/
theorem singleOpener_of_reachable (env : Environment) {host : RoomHost}
    (reached : ((roomSystem env).restrict fun before action _ =>
      before.spawnMeets env withoutContainer action = true).Reachable host)
    : host.room.SingleOpener := by
  have invariant : Transition.System.Inductive
      ((roomSystem env).restrict fun before action _ =>
        before.spawnMeets env withoutContainer action = true)
      fun host => host.room.Occupied := by
    refine ⟨fun _ => Fresh.occupied, ?_⟩
    intro before action after occupied ⟨step, meets⟩
    refine preserves_of_next (P := fun host => host.room.Occupied) ?_ ?_ step meets occupied
    · exact fun _ _ holds turn => turn.occupied holds
    · intro before after holds deal
      exact occupied_of_same holds (deal.layout holds.layout) deal.occupancy
        (Nat.le_of_eq deal.nxtObjectId.symm)
  exact (invariant.reachable reached).singleOpener

/-- A map where only what is in one place is within reach. -/
def narrowField : Environment :=
  { openField with isWithinInteractRange := fun here there => here == there }

/-- Two players, one box, and two places to spawn. -/
def boxRoom : RoomHost where
  room :=
    { roomId := 1
      mapId := 1
      playerSessions := (AList.singleton 1 (newcomer 1 [] [])).insert 2 (newcomer 2 [] [])
      staticObjects :=
        AList.singleton 0 (.container (.ofVolume { objectId := 0, objectType := .testItemBox } 2))
      spawnSpots := [{}, { x := 1 }]
      nxtObjectId := 1 }

theorem boxRoom_fresh : boxRoom.Fresh where
  sessions sessionId session found := by
    have mem : session ∈ boxRoom.room.playerSessions.values :=
      Table.mem_values_iff.mpr ⟨_, found⟩
    have values : boxRoom.room.playerSessions.values
        = [newcomer 2 [] [], newcomer 1 [] []] := rfl
    rw [values, List.mem_pair] at mem
    rcases mem with rfl | rfl
    all_goals exact ⟨⟨[], [], rfl⟩, rfl, rfl, rfl, rfl, rfl, rfl, rfl⟩
  playerObjects := rfl
  staticObjects objectId object found := by
    have mem : object ∈ boxRoom.room.staticObjects.values :=
      Table.mem_values_iff.mpr ⟨_, found⟩
    obtain rfl := List.mem_singleton.mp mem
    exact ⟨_, rfl, rfl⟩
  dynamicObjects objectId object found := by cases found
  lifetimeExpired := rfl
  allLeftReported := rfl
  leftNotices := rfl
  recallTimers := rfl

/-- The first player spawns at the box and opens it. -/
def openBox : List Action :=
  [request 1 1 (.channelOpen ""), request 1 2 .requestSpawnMe,
    request 1 3 (.requestOpenContainer 0)]

/-- The box that has been opened is open for one player. -/
theorem singleOpener_after_open
    : (endOf narrowField
        (fun before action _ => before.spawnMeets narrowField withoutContainer action)
        boxRoom openBox).room.SingleOpener :=
  singleOpener_of_reachable narrowField
    (reachable_endOf narrowField
      (fun before action _ => before.spawnMeets narrowField withoutContainer action)
      boxRoom_fresh _ (by decide +kernel))

/-- The first player walks away from the box and spawns again without closing it; then the
second player spawns at the box and opens it.
-/
def openBoxTwice : List Action :=
  openBox ++
    [request 1 4 (.updatePlayerState
        { movementInfo := some { objectId := 1, transform := { position := some { x := 1 } } } }
        []),
      request 1 5 .requestSpawnMe, request 2 1 (.channelOpen ""), request 2 2 .requestSpawnMe,
      request 2 3 (.requestOpenContainer 0)]

/-- Nobody finds the former holder any more, so two sessions have the box open. -/
theorem opened_twice_after_second_spawn
    : ∃ host, (roomSystem narrowField).Reachable host ∧ ¬host.room.SingleOpener := by
  let host := endOf narrowField (fun _ _ _ => true) boxRoom openBoxTwice
  have reached := reachable_endOf narrowField (fun _ _ _ => true) boxRoom_fresh openBoxTwice
    (by decide +kernel)
  refine ⟨host, reached.of_restrict, fun single => ?_⟩
  have opened (sessionId : Nat)
      (open' : (host.room.playerSessions.lookup sessionId).any
        (·.interactingContainerId == some 0) = true)
      : ∃ session, host.room.playerSessions.lookup sessionId = some session
        ∧ session.interactingContainerId = some 0 := by
    obtain ⟨session, found, mine⟩ := (Option.any_eq_true _ _).mp open'
    exact ⟨session, found, eq_of_beq mine⟩
  obtain ⟨first, found, mine⟩ := opened 1 (by decide +kernel)
  obtain ⟨second, foundOther, theirs⟩ := opened 2 (by decide +kernel)
  exact absurd (single.exclusive 1 2 first second 0 found foundOther mine theirs) nofun

end RoomHost

end ExtractionServer.Room
