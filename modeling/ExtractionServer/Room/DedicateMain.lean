import ExtractionServer.Library.Cadence
import ExtractionServer.Room.RegistryRuns

/-! The main loop of the dedicated process. Every turn calls all of the periodic work, which
throttles itself and takes the rooms and the sessions in phases.
-/

namespace ExtractionServer.Room

open Cadence Transport
open Transition (System)

/-- What the completion queue can hold. -/
inductive CQTask where
  | recv (roomId sessionId : Nat) (header : UDPHeader) (clientAddr : SockAddr)
      (pkt : C2DPacket)
  | makeRoomForThisGroup (draws : List Draw) (pkt : M2DMakeRoomForThisGroup)
  | bindClientIp (token : String) (addr : Option (BitVec 32))

def CQTask.action : CQTask → DediServerService.Action
  | .recv roomId sessionId header clientAddr pkt =>
      .inRoom roomId (.packet sessionId header clientAddr pkt)
  | .makeRoomForThisGroup draws pkt => .makeRoomForThisGroup draws pkt
  | .bindClientIp token addr => .bindClientIp token addr

/-- A call of periodic work that was at work: its turn, the process at its start, and what it
did.
-/
structure Round extends Turn where
  service : DediServerService
  actions : List DediServerService.Action

/-- The round does some work in a room. -/
def Round.Does (round : Round) (roomId : Nat) (work : RoomHost.Action) : Prop :=
  .inRoom roomId work ∈ round.actions

/-- The process with the variables of its periodic work, and a history of that. -/
structure DedicateMain where
  service : DediServerService := {}
  reads : Nat
  retransmitPhase : Nat := 0
  lastRetransmitTime : TimePoint
  updatePhase : Nat := 0
  lastRoomUpdateTime : TimePoint
  lastRoomDestroyTime : TimePoint
  retransmits : List Round := []
  updates : List Round := []

namespace DedicateMain

/-- The milliseconds since a time, as `duration_cast` counts them. -/
def elapsedMs (since now : TimePoint) : Nat := (now - since) / 1000000

-----------------------------------------------------------------------------------------
-- The turns of the loop
-----------------------------------------------------------------------------------------

/-- Things that happen one after another; what is not possible is left out. -/
def perform (maps : MapRooms) (env : Environment) (service : DediServerService)
    (actions : List DediServerService.Action)
    : DediServerService :=
  actions.foldl (fun service action => (service.next maps env action).getD service) service

/-- The sessions of one phase: every other place among the players. -/
def scanned (service : DediServerService) (phase : Nat) : List DediServerService.Action :=
  ((List.range service.players.length).filter (· % 2 = phase)).filterMap fun i =>
    match service.players[i]? with
    | some (some roomId) => some (.inRoom roomId (.checkRetransmits i))
    | _ => none

/-- `CheckRetransmits`. -/
def checkRetransmits (maps : MapRooms) (env : Environment) (main : DedicateMain)
    : DedicateMain :=
  let now := env.clock main.reads
  let main := { main with reads := main.reads + 1 }
  if elapsedMs main.lastRetransmitTime now < 50 then main
  else
    let phase := main.retransmitPhase
    let actions := scanned main.service phase
    { main with
      service := perform maps env main.service actions
      lastRetransmitTime := now
      retransmitPhase := phase ^^^ 1
      retransmits :=
        main.retransmits ++ [{ now, phase, service := main.service, actions }] }

/-- What one room does in a phase. -/
def roomActions (phase roomId : Nat) : List DediServerService.Action :=
  (if roomId % 4 = phase then [.inRoom roomId .processLeaves, .inRoom roomId .update] else [])
    ++ if roomId % 4 = (phase + 2) % 4 then [.inRoom roomId .updateNpcStates] else []

/-- `UpdateGameRooms`. -/
def updateGameRooms (maps : MapRooms) (env : Environment) (main : DedicateMain)
    : DedicateMain :=
  let now := env.clock main.reads
  let main := { main with reads := main.reads + 1 }
  if elapsedMs main.lastRoomUpdateTime now < 25 then main
  else
    let phase := main.updatePhase
    let actions := main.service.gameRooms.keys.flatMap (roomActions phase)
    { main with
      service := perform maps env main.service actions
      lastRoomUpdateTime := now
      updatePhase := (phase + 1) % 4
      updates := main.updates ++ [{ now, phase, service := main.service, actions }] }

/-- `DestroyPendingRooms`. -/
def destroyPendingRooms (main : DedicateMain) (env : Environment) : DedicateMain :=
  let now := env.clock main.reads
  let main := { main with reads := main.reads + 1 }
  if elapsedMs main.lastRoomDestroyTime now < 1000 then main
  else
    { main with
      service := main.service.destroyPendingRooms
      lastRoomDestroyTime := now }

/-- One turn of the loop: what the completion queue holds, the periodic work, and the timers
that run.
-/
def turn (maps : MapRooms) (env : Environment) (main : DedicateMain) (tasks : List CQTask)
    (ticks : List (Nat × Nat))
    : DedicateMain :=
  let main := { main with service := perform maps env main.service (tasks.map CQTask.action) }
  let main := main.checkRetransmits maps env
  let main := main.updateGameRooms maps env
  let main := main.destroyPendingRooms env
  { main with
    service :=
      perform maps env main.service
        (ticks.map fun tick => .inRoom tick.1 (.recallTick tick.2)) }

/-- The process after its constructor. -/
def start (env : Environment) : DedicateMain where
  reads := 3
  lastRetransmitTime := env.clock 0
  lastRoomUpdateTime := env.clock 1
  lastRoomDestroyTime := env.clock 2

def system (maps : MapRooms) (env : Environment)
    : System DedicateMain (List CQTask × List (Nat × Nat)) where
  initial main := main = start env
  step before work after := after = before.turn maps env work.1 work.2

-----------------------------------------------------------------------------------------
-- What a round does
-----------------------------------------------------------------------------------------

theorem mem_scanned_iff {service : DediServerService} {phase roomId id : Nat}
    : .inRoom roomId (.checkRetransmits id) ∈ scanned service phase
      ↔ service.players[id]? = some (some roomId) ∧ id % 2 = phase := by
  simp only [scanned, List.mem_filterMap, List.mem_filter, List.mem_range, decide_eq_true_eq]
  constructor
  · rintro ⟨i, ⟨-, residue⟩, same⟩
    split at same
    · next found =>
        cases same
        exact ⟨found, residue⟩
    · cases same
  · rintro ⟨found, residue⟩
    refine ⟨id, ⟨(List.getElem?_eq_some_iff.mp found).1, residue⟩, ?_⟩
    rw [found]

theorem update_mem_iff {rooms : List Nat} {phase roomId : Nat}
    : .inRoom roomId .update ∈ rooms.flatMap (roomActions phase)
      ↔ roomId ∈ rooms ∧ roomId % 4 = phase := by
  simp only [List.mem_flatMap, roomActions, List.mem_append]
  constructor
  · rintro ⟨other, mem, own | npcs⟩
    · split at own
      · next residue =>
          have same : roomId = other := by simpa using own
          rw [same]
          exact ⟨mem, residue⟩
      · cases own
    · split at npcs
      · simp at npcs
      · cases npcs
  · rintro ⟨mem, residue⟩
    exact ⟨roomId, mem, .inl (by simp [residue])⟩

theorem updateNpcStates_mem_iff {rooms : List Nat} {phase roomId : Nat}
    : .inRoom roomId .updateNpcStates ∈ rooms.flatMap (roomActions phase)
      ↔ roomId ∈ rooms ∧ roomId % 4 = (phase + 2) % 4 := by
  simp only [List.mem_flatMap, roomActions, List.mem_append]
  constructor
  · rintro ⟨other, mem, own | npcs⟩
    · split at own
      · simp at own
      · cases own
    · split at npcs
      · next residue =>
          have same : roomId = other := by simpa using npcs
          rw [same]
          exact ⟨mem, residue⟩
      · cases npcs
  · rintro ⟨mem, residue⟩
    exact ⟨roomId, mem, .inr (by simp [residue])⟩

-----------------------------------------------------------------------------------------
-- What every turn keeps
-----------------------------------------------------------------------------------------

theorem le_of_elapsed {since now ms : Nat} (positive : 0 < ms)
    (elapsed : ¬ elapsedMs since now < ms)
    : since + ms * 1000000 ≤ now := by
  unfold elapsedMs at elapsed
  omega

/-- The rounds of one kind of work lie in its circle, and its variables are those after the last
round.
-/
structure Timely (interval period : Nat) (rounds : List Round) (phase : Nat) (last : TimePoint)
    : Prop where
  paced : Paced interval period (rounds.map Round.toTurn)
  phase : phase = rounds.length % period
  last : ∀ round, rounds.getLast? = some round → round.now = last

theorem timely_nil (interval period : Nat) (last : TimePoint)
    : Timely interval period [] 0 last where
  paced := paced_nil interval period
  phase := (Nat.zero_mod period).symm
  last _ found := by cases found

/-- A round that starts an interval after the last one. -/
theorem Timely.concat {interval period phase : Nat} {rounds : List Round} {last : TimePoint}
    (h : Timely interval period rounds phase last) {round : Round}
    (now : last + interval ≤ round.now) (same : round.phase = phase)
    : Timely interval period (rounds ++ [round]) ((phase + 1) % period) round.now := by
  refine ⟨?_, ?_, fun other found => ?_⟩
  · rw [List.map_append, List.map_singleton]
    refine h.paced.concat ?_ fun turn found => ?_
    · rw [List.length_map, ← h.phase]
      exact same
    · rw [List.getLast?_map] at found
      obtain ⟨earlier, final, rfl⟩ := Option.map_eq_some_iff.mp found
      rw [h.last earlier final]
      exact now
  · rw [h.phase, List.length_append, List.length_singleton, Nat.mod_add_mod]
  · rw [List.getLast?_concat] at found
    rw [Option.some.inj found]

/-- The process is one that the single steps reach, and the periodic work is on time. -/
structure InOrder (maps : MapRooms) (env : Environment) (main : DedicateMain) : Prop where
  reached : (System.ofNext (· = ({} : DediServerService))
    (DediServerService.next maps env)).Reachable main.service
  retransmits : Timely (50 * 1000000) 2 main.retransmits main.retransmitPhase
    main.lastRetransmitTime
  updates : Timely (25 * 1000000) 4 main.updates main.updatePhase main.lastRoomUpdateTime
  scans : ∀ round ∈ main.retransmits, round.actions = scanned round.service round.phase
    ∧ (System.ofNext (· = ({} : DediServerService))
      (DediServerService.next maps env)).Reachable round.service
  rooms : ∀ round ∈ main.updates,
    round.actions = round.service.gameRooms.keys.flatMap (roomActions round.phase)

section Steps

variable {maps : MapRooms} {env : Environment} {main : DedicateMain}

/-- What is performed is a run of single steps, by induction on the actions. -/
theorem reachable_perform {service : DediServerService}
    (reached : (System.ofNext (· = ({} : DediServerService))
      (DediServerService.next maps env)).Reachable service)
    (actions : List DediServerService.Action)
    : (System.ofNext (· = ({} : DediServerService))
        (DediServerService.next maps env)).Reachable (perform maps env service actions) := by
  induction actions generalizing service with
  | nil => exact reached
  | cons action rest ih =>
      have after : (System.ofNext (· = ({} : DediServerService))
          (DediServerService.next maps env)).Reachable
            ((service.next maps env action).getD service) := by
        cases step : service.next maps env action with
        | none => exact reached
        | some after => exact reached.step step
      exact ih after

theorem InOrder.perform (h : InOrder maps env main) (actions : List DediServerService.Action)
    : InOrder maps env { main with service := perform maps env main.service actions } :=
  ⟨reachable_perform h.reached actions, h.retransmits, h.updates, h.scans, h.rooms⟩

theorem InOrder.checkRetransmits (h : InOrder maps env main)
    : InOrder maps env (main.checkRetransmits maps env) := by
  unfold DedicateMain.checkRetransmits
  dsimp only
  split
  · exact ⟨h.reached, h.retransmits, h.updates, h.scans, h.rooms⟩
  · next elapsed =>
      have toggled : main.retransmitPhase ^^^ 1 = (main.retransmitPhase + 1) % 2 := by
        have phase := h.retransmits.phase
        rcases (show main.retransmitPhase = 0 ∨ main.retransmitPhase = 1 by omega)
          with zero | one
        · rw [zero]
          rfl
        · rw [one]
          rfl
      refine ⟨reachable_perform h.reached _, ?_, h.updates, fun round mem => ?_, h.rooms⟩
      · rw [toggled]
        exact h.retransmits.concat (le_of_elapsed (by decide) elapsed) rfl
      · rcases List.mem_append.mp mem with old | new
        · exact h.scans round old
        · rw [List.mem_singleton.mp new]
          exact ⟨rfl, h.reached⟩

theorem InOrder.updateGameRooms (h : InOrder maps env main)
    : InOrder maps env (main.updateGameRooms maps env) := by
  unfold DedicateMain.updateGameRooms
  dsimp only
  split
  · exact ⟨h.reached, h.retransmits, h.updates, h.scans, h.rooms⟩
  · next elapsed =>
      refine ⟨reachable_perform h.reached _, h.retransmits, ?_, h.scans, fun round mem => ?_⟩
      · exact h.updates.concat (le_of_elapsed (by decide) elapsed) rfl
      · rcases List.mem_append.mp mem with old | new
        · exact h.rooms round old
        · rw [List.mem_singleton.mp new]

theorem InOrder.destroyPendingRooms (h : InOrder maps env main)
    : InOrder maps env (main.destroyPendingRooms env) := by
  unfold DedicateMain.destroyPendingRooms
  dsimp only
  split
  · exact ⟨h.reached, h.retransmits, h.updates, h.scans, h.rooms⟩
  · have destroyed : main.service.next maps env .destroyPendingRooms
        = some main.service.destroyPendingRooms := rfl
    exact ⟨h.reached.step destroyed, h.retransmits, h.updates, h.scans, h.rooms⟩

/-- One turn of the loop, part after part. -/
theorem InOrder.turn (h : InOrder maps env main) (tasks : List CQTask)
    (ticks : List (Nat × Nat))
    : InOrder maps env (main.turn maps env tasks ticks) :=
  ((((h.perform _).checkRetransmits).updateGameRooms).destroyPendingRooms).perform _

theorem system_inOrder (maps : MapRooms) (env : Environment)
    : (system maps env).Inductive (InOrder maps env) where
  initial := by
    rintro main rfl
    refine ⟨.initial rfl, timely_nil _ _ _, timely_nil _ _ _, fun round mem => ?_,
      fun round mem => ?_⟩
    · cases mem
    · cases mem
  step := by
    rintro before work after h rfl
    exact h.turn work.1 work.2

/-- Turns one after another, by induction on them. -/
theorem reachable_turns (reached : (system maps env).Reachable main)
    (works : List (List CQTask × List (Nat × Nat)))
    : (system maps env).Reachable
        (works.foldl (fun main work => main.turn maps env work.1 work.2) main) := by
  induction works generalizing main with
  | nil => exact reached
  | cons work rest ih => exact ih (reached.step (rfl : _ = main.turn maps env work.1 work.2))

-----------------------------------------------------------------------------------------
-- The pace of rooms and sessions
-----------------------------------------------------------------------------------------

variable {interval period phase : Nat} {rounds : List Round} {last : TimePoint}

/-- Rounds of two phases lie the way around the circle apart. -/
theorem Timely.apart (h : Timely interval period rounds phase last) {i j : Nat}
    {first second : Round} (earlier : rounds[i]? = some first)
    (later : rounds[j]? = some second) (order : i < j) {steps : Nat} (short : steps ≤ period)
    (phases : second.phase = (first.phase + steps) % period)
    : first.now + steps * interval ≤ second.now := by
  refine h.paced.apart ?_ ?_ order short phases
  · rw [List.getElem?_map, earlier]
    rfl
  · rw [List.getElem?_map, later]
    rfl

theorem Timely.phase_lt (h : Timely interval period rounds phase last) (positive : 0 < period)
    {i : Nat} {round : Round} (found : rounds[i]? = some round)
    : round.phase < period := by
  have residue := h.paced.phase i round.toTurn (by rw [List.getElem?_map, found]; rfl)
  rw [residue]
  exact Nat.mod_lt _ positive

/-- One round of each phase in every circle. -/
theorem Timely.once (h : Timely interval period rounds phase last) {i : Nat}
    (whole : i + period ≤ rounds.length) {other : Nat} (known : other < period)
    : ∃ k round, i ≤ k ∧ k < i + period ∧ rounds[k]? = some round ∧ round.phase = other := by
  obtain ⟨k, turn, low, high, found, same, -⟩ :=
    h.paced.once (whole.trans_eq (List.length_map _).symm) known
  rw [List.getElem?_map] at found
  obtain ⟨round, present, rfl⟩ := Option.map_eq_some_iff.mp found
  exact ⟨k, round, low, high, present, same⟩

theorem InOrder.updates_iff (h : InOrder maps env main) {i : Nat} {round : Round}
    (found : main.updates[i]? = some round) (roomId : Nat)
    : (round.Does roomId .update
        ↔ roomId ∈ round.service.gameRooms ∧ round.phase = roomId % 4)
      ∧ (round.Does roomId .updateNpcStates
        ↔ roomId ∈ round.service.gameRooms ∧ round.phase = (roomId + 2) % 4) := by
  have phase := h.updates.phase_lt (by decide) found
  rw [Round.Does, Round.Does, h.rooms round (List.mem_of_getElem? found), update_mem_iff,
    updateNpcStates_mem_iff, AList.mem_keys]
  constructor
  · exact and_congr_right fun _ => eq_comm
  · exact and_congr_right fun _ => by omega

/-- Every room is updated in one of any four rounds, a hundred milliseconds apart at least, and so
are its NPCs, in another round and at least fifty milliseconds from the players.
-/
theorem rooms_in_turn (reached : (system maps env).Reachable main)
    : (∀ (i j : Nat) (first second : Round) (roomId : Nat), i < j →
        main.updates[i]? = some first → main.updates[j]? = some second →
        (first.Does roomId .update → second.Does roomId .update →
          first.now + 100 * 1000000 ≤ second.now)
        ∧ (first.Does roomId .updateNpcStates → second.Does roomId .updateNpcStates →
          first.now + 100 * 1000000 ≤ second.now)
        ∧ (first.Does roomId .update → second.Does roomId .updateNpcStates →
          first.now + 50 * 1000000 ≤ second.now)
        ∧ (first.Does roomId .updateNpcStates → second.Does roomId .update →
          first.now + 50 * 1000000 ≤ second.now))
      ∧ (∀ round ∈ main.updates, ∀ roomId, round.Does roomId .update →
        ¬ round.Does roomId .updateNpcStates)
      ∧ ∀ i roomId, i + 4 ≤ main.updates.length →
        (∀ (k : Nat) (round : Round), i ≤ k → k < i + 4 → main.updates[k]? = some round →
          roomId ∈ round.service.gameRooms) →
        (∃ (k : Nat) (round : Round), i ≤ k ∧ k < i + 4 ∧ main.updates[k]? = some round
          ∧ round.Does roomId .update)
        ∧ ∃ (k : Nat) (round : Round), i ≤ k ∧ k < i + 4 ∧ main.updates[k]? = some round
          ∧ round.Does roomId .updateNpcStates := by
  have h := (system_inOrder maps env).reachable reached
  refine ⟨?_, ?_, ?_⟩
  · intro i j first second roomId order earlier later
    obtain ⟨players, npcs⟩ := h.updates_iff earlier roomId
    obtain ⟨playersLater, npcsLater⟩ := h.updates_iff later roomId
    rw [players, npcs, playersLater, npcsLater]
    refine ⟨?_, ?_, ?_, ?_⟩
    · rintro ⟨-, start⟩ ⟨-, finish⟩
      have apart := h.updates.apart earlier later order (le_refl 4) (by omega)
      omega
    · rintro ⟨-, start⟩ ⟨-, finish⟩
      have apart := h.updates.apart earlier later order (le_refl 4) (by omega)
      omega
    · rintro ⟨-, start⟩ ⟨-, finish⟩
      have apart := h.updates.apart earlier later order (show 2 ≤ 4 by decide) (by omega)
      omega
    · rintro ⟨-, start⟩ ⟨-, finish⟩
      have apart := h.updates.apart earlier later order (show 2 ≤ 4 by decide) (by omega)
      omega
  · intro round mem roomId players npcs
    obtain ⟨i, found⟩ := List.mem_iff_getElem?.mp mem
    obtain ⟨playersIff, npcsIff⟩ := h.updates_iff found roomId
    have own := (playersIff.mp players).2
    have other := (npcsIff.mp npcs).2
    omega
  · intro i roomId whole alive
    obtain ⟨k, round, low, high, found, phase⟩ :=
      h.updates.once whole (show roomId % 4 < 4 by omega)
    obtain ⟨k', round', low', high', found', phase'⟩ :=
      h.updates.once whole (show (roomId + 2) % 4 < 4 by omega)
    exact ⟨⟨k, round, low, high, found,
        (h.updates_iff found roomId).1.mpr ⟨alive k round low high found, phase⟩⟩,
      ⟨k', round', low', high', found',
        (h.updates_iff found' roomId).2.mpr ⟨alive k' round' low' high' found', phase'⟩⟩⟩

section SteadyTurns

/-- Sixty milliseconds between two readings of the clock. -/
def steadyField : Environment :=
  { RoomHost.openField with clock := fun reads => reads * 60 * 1000000 }

/-- The loop makes a room for one player and turns six times more. -/
def sevenTurns : DedicateMain :=
  [([CQTask.makeRoomForThisGroup [{ tokens := ["token_a"], securityKey := 1 }]
      (DediServerService.soloGroup 1)], []), ([], []), ([], []), ([], []), ([], []), ([], []),
    ([], [])].foldl
    (fun main work =>
      main.turn DediServerService.tutorialMaps.toMapRooms steadyField work.1 work.2)
    (start steadyField)

theorem sevenTurns_reachable
    : (system DediServerService.tutorialMaps.toMapRooms steadyField).Reachable sevenTurns :=
  reachable_turns (.initial rfl) _

end SteadyTurns

/-- The room of the player is updated in one of the four rounds after the first. -/
theorem rooms_in_turn_seven
    : ∃ (k : Nat) (round : Round), 1 ≤ k ∧ k < 5 ∧ sevenTurns.updates[k]? = some round
      ∧ round.Does 1 .update := by
  have rounds : 1 + 4 ≤ sevenTurns.updates.length := by decide +kernel
  have stays : sevenTurns.updates.all
      (fun round => (round.service.gameRooms.lookup 1).isSome) = true := by
    decide +kernel
  refine ((rooms_in_turn sevenTurns_reachable).2.2 1 1 rounds ?_).1
  intro k round _ _ found
  rw [← AList.lookup_isSome]
  exact List.all_eq_true.mp stays round (List.mem_of_getElem? found)

/-- The registers agree in every process that single steps reach. -/
theorem kept_of_reachable {maps : NumberedMaps} {service : DediServerService}
    (reached : (System.ofNext (· = ({} : DediServerService))
      (DediServerService.next maps.toMapRooms env)).Reachable service)
    : service.Kept := by
  have kept : (System.ofNext (· = ({} : DediServerService))
      (DediServerService.next maps.toMapRooms env)).Inductive
        fun service => ∃ record : DediServerService.Record, service.Kept ∧ record.Fits service :=
    { initial := by
        rintro service rfl
        exact ⟨{}, DediServerService.kept_new, DediServerService.Record.fits_new⟩
      step := by
        rintro before action after ⟨record, kept, fits⟩ step
        exact ⟨_, DediServerService.kept_of_step kept fits step⟩ }
  obtain ⟨-, kept, -⟩ := kept.reachable reached
  exact kept

/-- Every live session is scanned in one of any two rounds and not in the other, and its scans
are a hundred milliseconds apart at least.
-/
theorem sessions_in_turn {maps : NumberedMaps}
    (reached : (system maps.toMapRooms env).Reachable main)
    : (∀ (i j : Nat) (first second : Round) (roomId other id : Nat), i < j →
        main.retransmits[i]? = some first → main.retransmits[j]? = some second →
        first.Does roomId (.checkRetransmits id) → second.Does other (.checkRetransmits id) →
        first.now + 100 * 1000000 ≤ second.now)
      ∧ ∀ (i : Nat) (first second : Round) (roomId id : Nat),
        main.retransmits[i]? = some first → main.retransmits[i + 1]? = some second →
        first.service.HasSession roomId id → second.service.HasSession roomId id →
        (first.Does roomId (.checkRetransmits id)
          ↔ ¬ second.Does roomId (.checkRetransmits id)) := by
  have h := (system_inOrder maps.toMapRooms env).reachable reached
  have scans {i : Nat} {round : Round} (found : main.retransmits[i]? = some round)
      (roomId id : Nat)
      : round.Does roomId (.checkRetransmits id)
        ↔ round.service.HasSession roomId id ∧ round.phase = id % 2 := by
    obtain ⟨actions, started⟩ := h.scans round (List.mem_of_getElem? found)
    rw [Round.Does, actions, mem_scanned_iff, (kept_of_reachable started).players]
    exact and_congr_right fun _ => eq_comm
  constructor
  · intro i j first second roomId other id order earlier later start finish
    have phase := ((scans earlier roomId id).mp start).2
    have phaseLater := ((scans later other id).mp finish).2
    have apart := h.retransmits.apart earlier later order (le_refl 2) (by omega)
    omega
  · intro i first second roomId id earlier later alive stays
    have even := h.retransmits.paced.phase i first.toTurn
      (by rw [List.getElem?_map, earlier]; rfl)
    have odd := h.retransmits.paced.phase (i + 1) second.toTurn
      (by rw [List.getElem?_map, later]; rfl)
    rw [scans earlier, scans later, and_iff_right alive, and_iff_right stays]
    omega

end Steps

/-- The player's session is scanned in one of the first two rounds and not in the other. -/
theorem sessions_in_turn_seven
    : ∃ first second : Round, sevenTurns.retransmits[0]? = some first
      ∧ sevenTurns.retransmits[1]? = some second
      ∧ (first.Does 1 (.checkRetransmits 0) ↔ ¬ second.Does 1 (.checkRetransmits 0)) := by
  have stays : sevenTurns.retransmits.all (fun round =>
      (round.service.gameRooms.lookup 1).any
        fun host => (host.room.playerSessions.lookup 0).isSome) = true := by
    decide +kernel
  have live {i : Nat} {round : Round} (found : sevenTurns.retransmits[i]? = some round)
      : round.service.HasSession 1 0 := by
    have here := List.all_eq_true.mp stays round (List.mem_of_getElem? found)
    obtain ⟨host, present, session⟩ := Option.any_eq_true _ _ |>.mp here
    exact ⟨host, present, AList.lookup_isSome.mp session⟩
  have two : 1 < sevenTurns.retransmits.length := by decide +kernel
  obtain ⟨first, earlier⟩ : ∃ first, sevenTurns.retransmits[0]? = some first :=
    ⟨_, List.getElem?_eq_getElem (Nat.zero_lt_of_lt two)⟩
  obtain ⟨second, later⟩ : ∃ second, sevenTurns.retransmits[1]? = some second :=
    ⟨_, List.getElem?_eq_getElem two⟩
  have turns := (@sessions_in_turn steadyField sevenTurns DediServerService.tutorialMaps
    sevenTurns_reachable).2 0 first second 1 0 earlier later (live earlier) (live later)
  exact ⟨first, second, earlier, later, turns⟩

end DedicateMain

end ExtractionServer.Room
