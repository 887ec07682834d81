import ExtractionServer.Matchmaking.TokenProvenance

/-! What entry tokens are good for, as long as no token is drawn twice: a token leads the account
that has it to the session that it was issued for, and it admits once.
-/

namespace ExtractionServer.Matchmaking

open Lobby Room Transition

namespace EntryState

variable {state before after : EntryState} {maps : NumberedMaps} {env : Environment}
  {serverIp : String}

theorem tokensDiffer_of_reachable
    (reached : (drawnSystem maps.toMapRooms env serverIp).Reachable state)
    : state.TokensDiffer := by
  cases reached with
  | initial start =>
      rw [start]
      exact List.nodup_nil
  | step _ step => exact step.2

-----------------------------------------------------------------------------------------
-- Tokens are used up
-----------------------------------------------------------------------------------------

/-- A process still admits a session under a token. -/
def Holds (state : EntryState) (pid : Int) (token : String) : Prop :=
  ∃ process, state.processes.lookup pid = some process
    ∧ token ∈ process.service.tokenToPlayerSession

theorem holds_insert {process : DedicatedProcess} {pid other : Int} {token : String}
    {processes : Table Int DedicatedProcess}
    (stored : after.processes = processes.insert pid process)
    (h : after.Holds other token)
    : other = pid ∧ token ∈ process.service.tokenToPlayerSession
      ∨ other ≠ pid ∧ ∃ process, processes.lookup other = some process
        ∧ token ∈ process.service.tokenToPlayerSession := by
  obtain ⟨found, present, known⟩ := h
  rw [stored] at present
  rcases Table.lookup_insert_cases present with ⟨rfl, rfl⟩ | ⟨ne, was⟩
  · exact .inl ⟨rfl, known⟩
  · exact .inr ⟨ne, found, was, known⟩

/-- What a step does to the tokens that the processes hold, and to the bindings. -/
inductive TokenStep (before after : EntryState) : Prop
  | issue (new : List Issue) (issues : after.issues = before.issues ++ new)
      (bound : after.bound = before.bound)
      (tokens : ∀ pid token, after.Holds pid token →
        before.Holds pid token ∨ ∃ issue ∈ new, issue.entry.entryToken = token)
  | bind (binding : Binding) (held : before.Holds binding.pid binding.token)
      (bound : after.bound = before.bound ++ [binding]) (sets : binding.Sets)
      (tokens : ∀ pid token, after.Holds pid token →
        before.Holds pid token ∧ (pid = binding.pid → token ≠ binding.token))

theorem TokenStep.of_same (processes : after.processes = before.processes)
    (issues : after.issues = before.issues) (bound : after.bound = before.bound)
    : TokenStep before after := by
  refine .issue [] (issues.trans (List.append_nil _).symm) bound fun pid token h => .inl ?_
  rwa [Holds, processes] at h

/-- One process is replaced by one that holds no other tokens. -/
theorem TokenStep.of_insert {pid : Int} {process : DedicatedProcess}
    (stored : after.processes = before.processes.insert pid process)
    (issues : after.issues = before.issues) (bound : after.bound = before.bound)
    (tokens : ∀ token ∈ process.service.tokenToPlayerSession, before.Holds pid token)
    : TokenStep before after := by
  refine .issue [] (issues.trans (List.append_nil _).symm) bound fun other token h => .inl ?_
  rcases holds_insert stored h with ⟨rfl, known⟩ | ⟨-, was⟩
  · exact tokens token known
  · exact was

/-- A turn of one process that narrows its registers. -/
theorem TokenStep.of_turn (h : before.Orderly) {pid : Int}
    {f : DediServerService → Option DediServerService} (step : before.turn pid f = some after)
    (narrows : ∀ service later, service.Kept → f service = some later →
      service.Narrowed later)
    : TokenStep before after := by
  unfold turn at step
  split at step
  · cases step
  · next process found =>
      obtain ⟨service, moved, rfl⟩ := Option.map_eq_some_iff.mp step
      have narrowed := narrows process.service service (h.processes pid process found) moved
      refine .of_insert rfl rfl rfl fun token mem => ?_
      obtain ⟨id, known⟩ := Table.exists_lookup_of_mem mem
      exact ⟨process, found, Table.mem_of_lookup (narrowed.tokens token id known)⟩

theorem TokenStep.of_makeRoom (h : before.Orderly) {pid : Int} {draws : List Draw}
    {process : DedicatedProcess} {pkt : M2DMakeRoomForThisGroup}
    (found : before.processes.lookup pid = some process)
    (step : before.makeRoom maps.toMapRooms pid draws process pkt = some after)
    : TokenStep before after := by
  obtain ⟨⟨service, handled⟩, made, rfl⟩ := Option.map_eq_some_iff.mp step
  obtain ⟨entries, issued⟩ := (h.processes pid process found).makeRoom_issues made
  refine .issue _ rfl rfl fun other token holds => ?_
  rcases holds_insert rfl holds with ⟨rfl, mem⟩ | ⟨-, was⟩
  · obtain ⟨id, known⟩ := Table.exists_lookup_of_mem mem
    rcases issued.tokens token id known with ⟨old, -⟩ | ⟨player, listed, isToken, -⟩
    · exact .inl ⟨process, found, Table.mem_of_lookup old⟩
    · refine .inr ⟨_, List.mem_map.mpr ⟨player, ?_, rfl⟩, isToken⟩
      rwa [issued.reported, List.drop_left]
  · exact .inl was

theorem TokenStep.of_bind (h : before.Orderly) {pid : Int} {process : DedicatedProcess}
    (found : before.processes.lookup pid = some process) (token : String)
    (addr : Option (BitVec 32)) (rest : List (String × Option (BitVec 32)))
    : TokenStep before (before.bind pid process token addr rest) := by
  have narrowed := process.service.bindClientIp_narrowed token addr
  cases known : process.service.tokenToPlayerSession.lookup token with
  | none =>
      refine .of_insert rfl rfl (by simp only [EntryState.bind, known]) fun code mem => ?_
      obtain ⟨id, stays⟩ := Table.exists_lookup_of_mem mem
      exact ⟨process, found, Table.mem_of_lookup (narrowed.tokens code id stays)⟩
  | some sessionId =>
      let binding : Binding :=
        { pid, token, addr, sessionId
          account := process.service.accountOf sessionId
          clientAddr := (process.service.bindClientIp token addr).1.clientAddrOf sessionId }
      have sets : binding.Sets := by
        intro own same
        have given : addr = some own := same
        subst given
        exact (h.processes pid process found).clientAddr_bindClientIp known own
      refine .bind binding ⟨process, found, Table.mem_of_lookup known⟩
        (by simp only [EntryState.bind, known, binding]) sets fun other code holds => ?_
      rcases holds_insert rfl holds with ⟨rfl, mem⟩ | ⟨ne, was⟩
      · obtain ⟨id, stays⟩ := Table.exists_lookup_of_mem mem
        refine ⟨⟨process, found, Table.mem_of_lookup (narrowed.tokens code id stays)⟩,
          fun _ same => ?_⟩
        simp only [DediServerService.bindClientIp, known] at stays
        exact (Table.lookup_erase_cases stays).1 same
      · exact ⟨was, fun same => absurd same ne⟩

/-- Every step is one of the two. -/
theorem TokenStep.of_next (h : before.Orderly) {action : Action}
    (step : before.next maps.toMapRooms env serverIp action = some after)
    : TokenStep before after := by
  cases action with
  | life action =>
      simp only [next] at step
      split at step
      · cases step
      · obtain ⟨life, -, rfl⟩ := Option.map_eq_some_iff.mp step
        exact .of_same rfl rfl rfl
  | spawnSingleServer pid port =>
      simp only [next] at step
      split at step <;> cases step
      exact .of_insert rfl rfl rfl fun token mem => by cases mem
  | readTicket ticketId =>
      cases step
      exact .of_same rfl rfl rfl
  | distributePlayerGroup fork =>
      simp only [next] at step
      split at step
      · cases step
      · split at step
        · cases step
        · obtain ⟨⟨manager, accepted⟩, -, moved⟩ := Option.bind_eq_some_iff.mp step
          obtain ⟨life, -, rfl⟩ := Option.map_eq_some_iff.mp moved
          cases fork with
          | none => exact .of_same rfl rfl rfl
          | some started =>
              by_cases spawned : started.1 ∈ manager.dediSessions
              · exact .of_insert (if_pos spawned) rfl rfl fun token mem => by cases mem
              · exact .of_same (if_neg spawned) rfl rfl
  | onAcceptDedi fd =>
      cases step
      exact .of_same rfl rfl rfl
  | finalizeConnection pid fd =>
      cases step
      exact .of_same rfl rfl rfl
  | makeRoomForThisGroup pid draws =>
      simp only [next] at step
      split at step
      · next found _ =>
          split at step
          · cases step
          · exact .of_makeRoom h found step
      · cases step
  | bindClientIp pid =>
      simp only [next] at step
      split at step
      · cases step
      · next found =>
          split at step
          · cases step
          · cases step
            exact .of_bind h found _ _ _
  | inRoom pid roomId action =>
      refine .of_turn h (f := (·.inRoom env roomId action)) step fun _ _ kept => ?_
      exact DediServerService.inRoom_narrowed kept
  | destroyPendingRooms pid =>
      refine .of_turn h (f := fun service => some service.destroyPendingRooms) step
        fun service _ _ moved => ?_
      cases moved
      exact service.destroyPendingRooms_narrowed
  | handleMessage pid =>
      simp only [next] at step
      split at step
      · next process session found _ =>
          obtain ⟨message, -, rfl⟩ := Option.map_eq_some_iff.mp step
          have holds : ∀ token ∈ process.service.tokenToPlayerSession,
              before.Holds pid token :=
            fun token mem => ⟨process, found, mem⟩
          cases message with
          | updateEntryToken entries => exact .of_insert rfl rfl rfl holds
          | notifyRoomDestroyed roomId playerCount => exact .of_insert rfl rfl rfl holds
      · cases step
  | startExecute =>
      simp only [next] at step
      split at step <;> cases step
      exact .of_same rfl rfl rfl
  | readLoadoutType =>
      simp only [next] at step
      split at step
      · split at step <;> cases step
        exact .of_same rfl rfl rfl
      · cases step
  | readUid =>
      simp only [next] at step
      split at step
      · split at step <;> cases step
        exact .of_same rfl rfl rfl
      · cases step
  | runCommand =>
      simp only [next] at step
      split at step
      · split at step <;> cases step
        exact .of_same rfl rfl rfl
      · cases step
  | endExecute =>
      cases step
      exact .of_same rfl rfl rfl
  | matchStatus ticketId uid =>
      obtain ⟨life, -, rfl⟩ := Option.map_eq_some_iff.mp step
      exact .of_same rfl rfl rfl
  | matchConnect roomToken addr =>
      simp only [next] at step
      split at step <;> cases step <;> exact .of_same rfl rfl rfl
  | bindClientIpToSession =>
      simp only [next] at step
      split at step
      · cases step
      · obtain ⟨life, -, rfl⟩ := Option.map_eq_some_iff.mp step
        refine .issue [] (List.append_nil _).symm rfl fun other token holds => .inl ?_
        obtain ⟨process, found, mem⟩ := holds
        dsimp only at found
        split at found
        · exact ⟨process, found, mem⟩
        · rcases Table.lookup_adjust_cases found with ⟨rfl, old, was, rfl⟩ | ⟨-, was⟩
          · exact ⟨old, was, mem⟩
          · exact ⟨process, was, mem⟩
  | bindFails =>
      cases step
      exact .of_same rfl rfl rfl

/-- No token has admitted twice, and none that has admitted still does. -/
structure Spent (state : EntryState) : Prop where
  once : (state.bound.map (·.token)).Nodup
  gone : ∀ binding ∈ state.bound, ∀ pid, ¬ state.Holds pid binding.token

theorem Holds.asserts {pid : Int} {token : String} (h : state.Holds pid token)
    : ∃ sessionId account, Asserts state (.session pid token sessionId account) := by
  obtain ⟨process, found, mem⟩ := h
  obtain ⟨sessionId, known⟩ := Table.exists_lookup_of_mem mem
  exact ⟨sessionId, _, .session found known⟩

/-- Two processes do not hold one token. -/
theorem Holds.pid_eq {pid other : Int} {token : String} (traced : provenance.Traced state)
    (distinct : state.TokensDiffer) (one : state.Holds pid token)
    (two : state.Holds other token)
    : pid = other := by
  obtain ⟨sessionId, account, said⟩ := one.asserts
  obtain ⟨_, _, said'⟩ := two.asserts
  obtain ⟨issue, noted, isPid, isToken, -⟩ := traced _ said
  have backed := traced.backs_of_key distinct noted said' fun _ h => h.2.1.trans isToken.symm
  exact isPid.symm.trans backed.1

/-- A token that is registered is a new one, and one that has admitted goes. -/
theorem Spent.next (h : before.Spent) (traced : provenance.Traced before)
    (distinct : before.TokensDiffer) (differ : after.TokensDiffer)
    (step : TokenStep before after)
    : after.Spent := by
  cases step with
  | issue new issues bound tokens =>
      refine ⟨bound ▸ h.once, fun binding mem pid holds => ?_⟩
      rw [bound] at mem
      rcases tokens pid binding.token holds with held | ⟨issue, listed, isToken⟩
      · exact h.gone binding mem pid held
      · obtain ⟨old, noted, -, oldToken, -⟩ := traced _ (.bound mem)
        rw [TokensDiffer, issues, List.map_append] at differ
        exact (List.nodup_append.mp differ).2.2 _ (List.mem_map_of_mem noted) _
          (List.mem_map_of_mem listed) (oldToken.trans isToken.symm)
  | bind binding held bound sets tokens =>
      refine ⟨?_, fun other mem pid holds => ?_⟩
      · rw [bound, List.map_append, List.map_singleton, ← List.concat_eq_append]
        refine h.once.concat fun mem => ?_
        obtain ⟨other, earlier, same⟩ := List.mem_map.mp mem
        exact h.gone other earlier binding.pid (same ▸ held)
      · obtain ⟨was, apart⟩ := tokens pid other.token holds
        rw [bound] at mem
        rcases List.mem_append.mp mem with earlier | last
        · exact h.gone other earlier pid was
        · cases List.mem_singleton.mp last
          exact apart (was.pid_eq traced distinct held) rfl

-----------------------------------------------------------------------------------------
-- What tokens are good for
-----------------------------------------------------------------------------------------

/-- An entry token admits at most once, even under a run that repeats requests. -/
theorem token_admits_once
    (reached : (drawnSystem maps.toMapRooms env serverIp).Reachable state)
    : (state.bound.map (·.token)).Nodup := by
  suffices spent : state.Spent from spent.once
  induction reached with
  | initial start =>
      rw [start]
      exact ⟨List.nodup_nil, fun _ mem => by cases mem⟩
  | step reached step ih =>
      have before := reached.of_restrict
      exact ih.next (traced before) (tokensDiffer_of_reachable reached) step.2
        (.of_next ((orderly_inductive maps env serverIp).reachable before) step.1)

-----------------------------------------------------------------------------------------
-- Two players
-----------------------------------------------------------------------------------------

/-- The ticket is the first one that waits. -/
def waitsAlone (state : EntryState) (ptr : TicketPtr) : Bool :=
  match state.life.server.stage with
  | .idle =>
      (state.life.server.matchmakers 0).ticketsToAdd == [ptr]
        && (state.life.server.matchmakers 0).timeSortedTicketVector.isEmpty
  | _ => false

/-- A minute after that, the groups of the tutorial are searched. -/
def startAlone (state : EntryState) (ptr : TicketPtr) : EntryState :=
  let server := state.life.server
  let mm := server.matchmakers 0
  let queue : MatchMaker :=
    { mm with
      ticketsToAdd := []
      bucket := mm.pushBucket mm.bucket ptr
      timeSortedTicketVector := [ptr] }
  let mm := queue.findMatchGroup fun _ => 61000000000
  let server := { server.setMatchMaker 0 mm with stage := .groups 0 mm.matchedGroups }
  { state with life := { state.life with server } }

theorem next_startAlone {ptr : TicketPtr} (alone : state.waitsAlone ptr = true)
    : state.next maps.toMapRooms env serverIp
        (.life (.matchmaking (.startMatchMake 0 fun _ => 61000000000)))
      = some (state.startAlone ptr) := by
  unfold waitsAlone at alone
  split at alone
  · next idle =>
      rw [Bool.and_eq_true, beq_iff_eq, List.isEmpty_iff] at alone
      simp [EntryState.next, ownCommand, LifeState.next, MatchState.next, idle, startAlone,
        MatchMaker.addNewMatchTickets, alone.1, alone.2, List.nil_merge]
  · cases alone

/-- The tutorial alone, with every token drawn once. -/
def tutorialSystem : System EntryState Action :=
  drawnSystem DediServerService.tutorialMaps.toMapRooms RoomHost.openField "10.0.0.1"

/-- The state after some actions. -/
def afterActions (state : EntryState) (actions : List Action) : EntryState :=
  (replay (next DediServerService.tutorialMaps.toMapRooms RoomHost.openField "10.0.0.1")
    (fun _ _ after => decide after.TokensDiffer) state actions).getD {}

theorem reachable_afterActions {actions : List Action}
    (reached : tutorialSystem.Reachable state)
    (succeeds : (replay
      (next DediServerService.tutorialMaps.toMapRooms RoomHost.openField "10.0.0.1")
      (fun _ _ after => decide after.TokensDiffer) state actions).isSome = true)
    : tutorialSystem.Reachable (state.afterActions actions) := by
  have run := System.Run.of_replay (· = ({} : EntryState)) _ _ actions state {} succeeds
  exact run.preserves (fun _ _ _ before step =>
    .step before ⟨step.1, of_decide_eq_true step.2⟩) reached

/-- `/match/start` for the tutorial. -/
def joined (ptr : TicketPtr) (ticketId : String) (uid : Int) : List Action :=
  [.life (.setLock ticketId
      { uid, userId := "", rating := 1500, aggression := 5, loadoutType := .free, mapId := 0,
        characterType := 0 }),
    .life (.hSetTicket ticketId),
    .life (.matchmaking (.addSingleMatchTicket 0 ptr
      { ticketId, uId := uid, aggression := 5, mapId := 0, characterType := 0,
        startTime := 0 }))]

/-- The group of one ticket goes to a process. -/
def handedOut (ticketId : String) (fork : Option (Int × Int)) : List Action :=
  [.life (.matchmaking (.verifyAndSetMatchStatus true true)), .readTicket ticketId,
    .distributePlayerGroup fork, .life (.matchmaking (.releaseAndDeleteTickets true))]

/-- The process makes a room for one player, and its token gets into Redis. -/
def roomMade (draw : Draw) : List Action :=
  [.makeRoomForThisGroup 100 [draw], .handleMessage 100, .startExecute, .readLoadoutType,
    .readUid, .runCommand, .runCommand, .runCommand, .runCommand, .endExecute]

/-- The player asks for the token and connects twice. -/
def connected (ticketId token : String) (uid : Int) (addr : BitVec 32) : List Action :=
  [.matchStatus ticketId uid, .matchConnect token (some addr),
    .matchConnect token (some addr), .bindClientIpToSession, .bindFails,
    .bindClientIpToSession, .life .readTokenTicket, .life .deleteToken, .bindClientIp 100,
    .bindClientIp 100]

def firstJoined : EntryState :=
  afterActions {} (joined 0 "ticket_a" 1)

/-- The process of the first group gets the packet with that of the second group. -/
def secondJoined : EntryState :=
  (firstJoined.startAlone 0).afterActions
    (handedOut "ticket_a" (some (100, 5000)) ++ [.onAcceptDedi 7, .finalizeConnection 100 7]
      ++ joined 1 "ticket_b" 2)

def twoAdmitted : EntryState :=
  (secondJoined.startAlone 1).afterActions
    (handedOut "ticket_b" none ++ roomMade { tokens := ["token_a"], securityKey := 77 }
      ++ roomMade { tokens := ["token_b"], securityKey := 78 }
      ++ connected "ticket_b" "token_b" 2 9 ++ connected "ticket_a" "token_a" 1 10)

theorem reachable_twoAdmitted : tutorialSystem.Reachable twoAdmitted := by
  have start {ptr : TicketPtr} {state : EntryState} (reached : tutorialSystem.Reachable state)
      (alone : state.waitsAlone ptr = true)
      : tutorialSystem.Reachable (state.startAlone ptr) := by
    have differ : state.TokensDiffer := tokensDiffer_of_reachable reached
    exact .step reached ⟨next_startAlone alone, differ⟩
  have first : tutorialSystem.Reachable firstJoined :=
    reachable_afterActions (.initial rfl) (by decide +kernel)
  have second : tutorialSystem.Reachable secondJoined :=
    reachable_afterActions (start first (by decide +kernel)) (by decide +kernel)
  exact reachable_afterActions (start second (by decide +kernel)) (by decide +kernel)

/-- Each player has connected twice. -/
theorem twoAdmitted_once
    : twoAdmitted.answered.map (·.1) = ["token_b", "token_b", "token_a", "token_a"]
      ∧ (twoAdmitted.bound.map (·.token)).Nodup :=
  ⟨by decide +kernel, token_admits_once reachable_twoAdmitted⟩

end EntryState

end ExtractionServer.Matchmaking
