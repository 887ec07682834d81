import ExtractionServer.Library.BinaryHeap
import ExtractionServer.Library.Transition
import ExtractionServer.Room.RecallChecks

/-! `TimerExecuter`: timers in a heap, and the loop that runs those that are due. Callbacks may
add further timers while the loop runs.
-/

namespace ExtractionServer.Room

open BinaryHeap Transition

universe u v

/-- `TimerEntry`. -/
structure TimerEntry (Callback : Type u) where
  execAt : TimePoint
  callback : Callback

/-- `TimerExecuter`; its vector is a heap at all times. -/
structure TimerExecuter (Callback : Type u) where
  heap : Array (TimerEntry Callback)
  ordered : IsHeap TimerEntry.execAt heap

/-- The world of the callbacks: its clock, and what a callback does to it, with the entries
that its calls of `Add` make. The clock is a `steady_clock`.
-/
structure Callbacks (World : Type v) (Callback : Type u) where
  time : World → TimePoint
  now : World → World
  call : Callback → World → World × List (TimerEntry Callback)
  time_now (world : World) : time world ≤ time (now world)
  time_call (callback : Callback) (world : World) : time world ≤ time (call callback world).1
  execAt_call (callback : Callback) (world : World)
    : ∀ entry ∈ (call callback world).2, time world ≤ entry.execAt

/-- Callbacks add timers with a delay. -/
def Callbacks.Delayed {World : Type v} {Callback : Type u} (calls : Callbacks World Callback)
    : Prop :=
  ∀ callback world, ∀ entry ∈ (calls.call callback world).2, calls.time world < entry.execAt

/-- One callback that has been run: its entry, the clock reading of the `Tick` that ran it, and
that of the `Tick` before.
-/
structure Execution (Callback : Type u) where
  entry : TimerEntry Callback
  previous : TimePoint
  now : TimePoint

namespace TimerExecuter

variable {World : Type v} {Callback : Type u}

def empty : TimerExecuter Callback := ⟨#[], isHeap_empty⟩

/-- `push_back` and `push_heap`. -/
def push (timers : TimerExecuter Callback) (entry : TimerEntry Callback)
    : TimerExecuter Callback :=
  ⟨pushHeap TimerEntry.execAt (timers.heap.push entry), timers.ordered.pushHeap entry⟩

theorem isHeap_pop (timers : TimerExecuter Callback)
    : IsHeap TimerEntry.execAt (popHeap TimerEntry.execAt timers.heap).pop := by
  cases first : timers.heap[0]? with
  | none =>
      have empty : timers.heap = #[] := by
        simpa using first
      rw [empty]
      simp [popHeap, isHeap_empty]
  | some front =>
      obtain ⟨rest, same, ordered, -⟩ := timers.ordered.popHeap first
      rwa [same, Array.pop_push]

/-- `pop_heap` and `pop_back`. -/
def pop (timers : TimerExecuter Callback) : TimerExecuter Callback :=
  ⟨(popHeap TimerEntry.execAt timers.heap).pop, timers.isHeap_pop⟩

/-- The entries that wait, in any order. -/
def entries (timers : TimerExecuter Callback) : List (TimerEntry Callback) :=
  timers.heap.toList

/-- The executer in its world, with the last reading of the loop and a history: all entries
that were made, and all that were run.
-/
structure Process (World : Type v) (Callback : Type u) where
  world : World
  timers : TimerExecuter Callback
  lastTick : TimePoint := 0
  added : List (TimerEntry Callback) := []
  executed : List (Execution Callback) := []

namespace Process

variable (calls : Callbacks World Callback)

def push (process : Process World Callback) (entry : TimerEntry Callback)
    : Process World Callback :=
  { process with
    timers := process.timers.push entry
    added := process.added ++ [entry] }

/-- `Add`. -/
def add (process : Process World Callback) (delayMs : Nat) (callback : Callback)
    : Process World Callback :=
  { process with world := calls.now process.world }.push
    { execAt := calls.time process.world + delayMs * 1000000, callback }

/-- Take the front entry and call it. -/
def execute (process : Process World Callback) (now : TimePoint) (entry : TimerEntry Callback)
    : Process World Callback :=
  let (world, added) := calls.call entry.callback process.world
  added.foldl push
    { process with
      world
      timers := process.timers.pop
      executed :=
        process.executed ++ [{ entry, previous := process.lastTick, now }] }

/-- The loop of `Tick`, with fuel, as callbacks may add entries that are due at once. -/
def loop (now : TimePoint)
    : Nat → Process World Callback → Bool → Option (Process World Callback × Bool)
  | 0, _, _ => none
  | fuel + 1, process, didExecute =>
      match process.timers.heap[0]? with
      | none => some (process, didExecute)
      | some entry =>
          if entry.execAt ≤ now then loop now fuel (process.execute calls now entry) true
          else some (process, didExecute)

/-- `Tick`. -/
def tick (fuel : Nat) (process : Process World Callback)
    : Option (Process World Callback × Bool) :=
  let now := calls.time process.world
  (loop calls now fuel { process with world := calls.now process.world } false).map
    fun (process, didExecute) => ({ process with lastTick := now }, didExecute)

end Process

-----------------------------------------------------------------------------------------
-- The heap as a bag
-----------------------------------------------------------------------------------------

theorem entries_push (timers : TimerExecuter Callback) (entry : TimerEntry Callback)
    : (timers.push entry).entries.Perm (entry :: timers.entries) :=
  pushHeap_perm timers.heap entry

theorem entries_pop {timers : TimerExecuter Callback} {front : TimerEntry Callback}
    (first : timers.heap[0]? = some front)
    : (front :: timers.pop.entries).Perm timers.entries := by
  obtain ⟨rest, same, -, permuted⟩ := timers.ordered.popHeap first
  show (front :: (popHeap TimerEntry.execAt timers.heap).pop.toList).Perm timers.entries
  rw [same, Array.pop_push]
  exact permuted

theorem front_le {timers : TimerExecuter Callback} {front : TimerEntry Callback}
    (first : timers.heap[0]? = some front)
    : ∀ entry ∈ timers.entries, front.execAt ≤ entry.execAt :=
  fun _ mem => timers.ordered.le_of_mem first mem

theorem entries_of_front_none {timers : TimerExecuter Callback}
    (first : timers.heap[0]? = none)
    : timers.entries = [] := by
  have empty : timers.heap = #[] := by simpa using first
  rw [entries, empty]

namespace Process

variable {calls : Callbacks World Callback} {before after process : Process World Callback}
  {now : TimePoint}

-----------------------------------------------------------------------------------------
-- What every state keeps
-----------------------------------------------------------------------------------------

/-- The history is complete and in the order of time, and no callback has run early or late.
-/
structure InOrder (calls : Callbacks World Callback) (process : Process World Callback)
    : Prop where
  conserved : process.added.Perm
    (process.executed.map Execution.entry ++ process.timers.entries)
  sorted : (process.executed.map (·.entry.execAt)).Pairwise (· ≤ ·)
  window : ∀ execution ∈ process.executed,
    execution.previous ≤ execution.entry.execAt ∧ execution.entry.execAt ≤ execution.now
  behind : ∀ execution ∈ process.executed, ∀ entry ∈ process.timers.entries,
    execution.entry.execAt ≤ entry.execAt
  passed : ∀ execution ∈ process.executed, execution.now ≤ calls.time process.world
  waits : ∀ entry ∈ process.timers.entries, process.lastTick ≤ entry.execAt
  lastTick : process.lastTick ≤ calls.time process.world

/-- The world goes on by itself. -/
theorem InOrder.world (h : InOrder calls process) {world : World}
    (later : calls.time process.world ≤ calls.time world)
    : InOrder calls { process with world } :=
  ⟨h.conserved, h.sorted, h.window, h.behind,
    fun execution mem => (h.passed execution mem).trans later, h.waits,
    h.lastTick.trans later⟩

/-- An entry is due no earlier than any `Tick` before it. -/
theorem InOrder.push (h : InOrder calls process) {entry : TimerEntry Callback}
    (passed : ∀ execution ∈ process.executed, execution.now ≤ now)
    (last : process.lastTick ≤ now) (ahead : now ≤ entry.execAt)
    : InOrder calls (process.push entry) := by
  have bag := process.timers.entries_push entry
  have held {other : TimerEntry Callback} (mem : other ∈ (process.push entry).timers.entries)
      : other = entry ∨ other ∈ process.timers.entries := List.mem_cons.mp (bag.mem_iff.mp mem)
  refine ⟨?_, h.sorted, h.window, fun execution ran other mem => ?_, h.passed,
    fun other mem => ?_, h.lastTick⟩
  · have moved := h.conserved.append_right [entry]
    rw [List.append_assoc] at moved
    exact moved.trans (((List.perm_append_singleton entry _).trans bag.symm).append_left _)
  · rcases held mem with rfl | old
    · exact ((h.window execution ran).2.trans (passed execution ran)).trans ahead
    · exact h.behind execution ran other old
  · rcases held mem with rfl | old
    · exact last.trans ahead
    · exact h.waits other old

/-- What pushes leave alone, by induction on the entries. -/
theorem foldl_push (entries : List (TimerEntry Callback)) (process : Process World Callback)
    : (entries.foldl Process.push process).executed = process.executed
      ∧ (entries.foldl Process.push process).world = process.world
      ∧ (entries.foldl Process.push process).lastTick = process.lastTick
      ∧ (entries.foldl Process.push process).added = process.added ++ entries
      ∧ (entries.foldl Process.push process).timers.entries.Perm
        (entries ++ process.timers.entries) := by
  induction entries generalizing process with
  | nil => exact ⟨rfl, rfl, rfl, (List.append_nil _).symm, .refl _⟩
  | cons entry rest ih =>
      obtain ⟨executed, world, lastTick, added, bag⟩ := ih (process.push entry)
      refine ⟨executed, world, lastTick, added.trans (List.append_cons ..).symm,
        bag.trans ?_⟩
      exact ((process.timers.entries_push entry).append_left rest).trans List.perm_middle

/-- The entries that a callback has made, one after another. -/
theorem InOrder.foldl_push {entries : List (TimerEntry Callback)} (h : InOrder calls process)
    (passed : ∀ execution ∈ process.executed, execution.now ≤ now)
    (last : process.lastTick ≤ now) (ahead : ∀ entry ∈ entries, now ≤ entry.execAt)
    : InOrder calls (entries.foldl Process.push process) := by
  induction entries generalizing process with
  | nil => exact h
  | cons entry rest ih =>
      exact ih (h.push passed last (ahead entry List.mem_cons_self)) passed last
        fun other mem => ahead other (List.mem_cons_of_mem _ mem)

/-- A due entry at the front is the next to run. -/
theorem InOrder.execute (h : InOrder calls process) {entry : TimerEntry Callback}
    (first : process.timers.heap[0]? = some entry) (due : entry.execAt ≤ now)
    (early : ∀ execution ∈ process.executed, execution.now ≤ now)
    (present : now ≤ calls.time process.world)
    : InOrder calls (process.execute calls now entry)
      ∧ (∀ execution ∈ (process.execute calls now entry).executed, execution.now ≤ now)
      ∧ now ≤ calls.time (process.execute calls now entry).world := by
  have bag := entries_pop first
  have least := front_le first
  have mem : entry ∈ process.timers.entries := bag.mem_iff.mp List.mem_cons_self
  have later := calls.time_call entry.callback process.world
  let popped : Process World Callback :=
    { process with
      world := (calls.call entry.callback process.world).1
      timers := process.timers.pop
      executed := process.executed ++ [{ entry, previous := process.lastTick, now }] }
  have ran {execution : Execution Callback} (mem : execution ∈ popped.executed)
      : execution ∈ process.executed
        ∨ execution = { entry, previous := process.lastTick, now } := by
    rcases List.mem_append.mp mem with old | new
    · exact .inl old
    · exact .inr (List.mem_singleton.mp new)
  have kept {other : TimerEntry Callback} (held : other ∈ process.timers.pop.entries)
      : other ∈ process.timers.entries := bag.mem_iff.mp (List.mem_cons_of_mem _ held)
  have order : InOrder calls popped := by
    refine ⟨?_, ?_, fun execution done => ?_, fun execution done other held => ?_,
      fun execution done => ?_, fun other held => h.waits other (kept held),
      h.lastTick.trans later⟩
    · refine h.conserved.trans ?_
      show List.Perm _ ((process.executed ++ [_]).map Execution.entry ++ _)
      rw [List.map_append, List.append_assoc]
      exact bag.symm.append_left _
    · show ((process.executed ++ [_]).map _).Pairwise _
      rw [List.map_append]
      refine List.pairwise_append.mpr ⟨h.sorted, List.pairwise_singleton _ _, ?_⟩
      intro earlier old execAt new
      obtain ⟨execution, done, rfl⟩ := List.mem_map.mp old
      rw [List.mem_singleton.mp new]
      exact h.behind execution done entry mem
    · rcases ran done with old | rfl
      · exact h.window execution old
      · exact ⟨h.waits entry mem, due⟩
    · rcases ran done with old | rfl
      · exact h.behind execution old other (kept held)
      · exact least other (kept held)
    · rcases ran done with old | rfl
      · exact (h.passed execution old).trans later
      · exact present.trans later
  have past : ∀ execution ∈ popped.executed, execution.now ≤ now := by
    intro execution done
    rcases ran done with old | rfl
    · exact early execution old
    · exact le_rfl
  obtain ⟨executed, world, -⟩ := Process.foldl_push
    (calls.call entry.callback process.world).2 popped
  refine ⟨order.foldl_push past ((h.waits entry mem).trans due) fun other made => ?_,
    executed ▸ past, ?_⟩
  · exact present.trans (calls.execAt_call entry.callback process.world other made)
  · rw [show (process.execute calls now entry).world = popped.world from world]
    exact present.trans later

/-- The loop of `Tick` ends when no entry is due, by induction on its fuel. -/
theorem InOrder.loop {fuel : Nat} {didExecute flag : Bool} (h : InOrder calls before)
    (early : ∀ execution ∈ before.executed, execution.now ≤ now)
    (present : now ≤ calls.time before.world)
    (ends : loop calls now fuel before didExecute = some (after, flag))
    : InOrder calls after ∧ (∀ execution ∈ after.executed, execution.now ≤ now)
      ∧ now ≤ calls.time after.world
      ∧ ∀ entry ∈ after.timers.entries, now < entry.execAt := by
  induction fuel generalizing before didExecute with
  | zero => cases ends
  | succ fuel ih =>
      rw [Process.loop] at ends
      split at ends
      · next first =>
          cases ends
          refine ⟨h, early, present, fun entry mem => ?_⟩
          rw [entries_of_front_none first] at mem
          exact absurd mem List.not_mem_nil
      · next entry first =>
          split at ends
          · next due =>
              obtain ⟨order, past, later⟩ := h.execute first due early present
              exact ih order past later ends
          · next waits =>
              cases ends
              refine ⟨h, early, present, fun other mem => ?_⟩
              exact (Nat.lt_of_not_le waits).trans_le (front_le first other mem)

theorem InOrder.tick {fuel : Nat} {flag : Bool} (h : InOrder calls before)
    (ends : before.tick calls fuel = some (after, flag))
    : InOrder calls after := by
  obtain ⟨⟨done, flag⟩, looped, same⟩ := Option.map_eq_some_iff.mp ends
  cases same
  have later := calls.time_now before.world
  obtain ⟨order, past, present, none⟩ := (h.world later).loop h.passed later looped
  exact ⟨order.conserved, order.sorted, order.window, order.behind, order.passed,
    fun entry mem => (none entry mem).le, present⟩

-----------------------------------------------------------------------------------------
-- Runs
-----------------------------------------------------------------------------------------

/-- What happens to the executer: calls of `Add` and `Tick`, and the world goes on. -/
inductive Action (World : Type v) (Callback : Type u) where
  | add (delayMs : Nat) (callback : Callback)
  | tick (fuel : Nat)
  | world (world : World)

def next (calls : Callbacks World Callback) (process : Process World Callback)
    : Action World Callback → Option (Process World Callback)
  | .add delayMs callback => some (process.add calls delayMs callback)
  | .tick fuel => (process.tick calls fuel).map Prod.fst
  | .world world =>
      if calls.time process.world ≤ calls.time world then some { process with world } else none

/-- The runs of a new executer. -/
def system (calls : Callbacks World Callback) : System (Process World Callback)
    (Action World Callback) :=
  .ofNext (fun process => ∃ world, process = { world, timers := .empty }) (next calls)

theorem InOrder.next {action : Action World Callback} (h : InOrder calls before)
    (step : before.next calls action = some after)
    : InOrder calls after := by
  cases action with
  | add delayMs callback =>
      cases step
      have later := calls.time_now before.world
      exact (h.world later).push h.passed h.lastTick (Nat.le_add_right _ _)
  | tick fuel =>
      obtain ⟨⟨done, flag⟩, ends, same⟩ := Option.map_eq_some_iff.mp step
      cases same
      exact h.tick ends
  | world world =>
      simp only [Process.next] at step
      split at step
      · next later =>
          cases step
          exact h.world later
      · cases step

theorem system_inOrder (calls : Callbacks World Callback)
    : (system calls).Inductive (InOrder calls) where
  initial := by
    rintro process ⟨world, rfl⟩
    have none : TimerExecuter.empty.entries = ([] : List (TimerEntry Callback)) := rfl
    refine ⟨?_, List.Pairwise.nil, ?_, ?_, ?_, ?_, Nat.zero_le _⟩
    · rw [none]
      exact .nil
    · exact fun execution mem => absurd mem List.not_mem_nil
    · exact fun execution mem => absurd mem List.not_mem_nil
    · exact fun execution mem => absurd mem List.not_mem_nil
    · exact fun entry mem => absurd mem List.not_mem_nil
  step _ _ _ h step := h.next step

/-- Every callback runs exactly once, in the order of the times at which they are due: not before
its time, and in the first `Tick` that reads the clock at that time or after it. What waits was
not due at the last `Tick`. All this whatever callbacks and others add meanwhile.
-/
theorem callbacks_in_due_order {calls : Callbacks World Callback}
    {process : Process World Callback} (reached : (system calls).Reachable process)
    : process.added.Perm (process.executed.map Execution.entry ++ process.timers.entries)
      ∧ (process.executed.map (·.entry.execAt)).Pairwise (· ≤ ·)
      ∧ (∀ execution ∈ process.executed,
        execution.previous ≤ execution.entry.execAt ∧ execution.entry.execAt ≤ execution.now)
      ∧ ∀ entry ∈ process.timers.entries, process.lastTick ≤ entry.execAt := by
  have h := (system_inOrder calls).reachable reached
  exact ⟨h.conserved, h.sorted, h.window, h.waits⟩

-----------------------------------------------------------------------------------------
-- Every Tick ends
-----------------------------------------------------------------------------------------

/-- The entries that are due, and those that are not. -/
def due (process : Process World Callback) (now : TimePoint) : List (TimerEntry Callback) :=
  process.timers.entries.filter (·.execAt ≤ now)

def waiting (process : Process World Callback) (now : TimePoint)
    : List (TimerEntry Callback) :=
  process.timers.entries.filter fun entry => !decide (entry.execAt ≤ now)

/-- What the callbacks of some entries do to the world one after another, and the entries that
their calls of `Add` make.
-/
def callAll (calls : Callbacks World Callback) (world : World)
    : List (TimerEntry Callback) → World × List (TimerEntry Callback)
  | [] => (world, [])
  | entry :: rest =>
      let (next, made) := calls.call entry.callback world
      let (last, later) := callAll calls next rest
      (last, made ++ later)

/-- A `Tick` that has read the clock has run some entries. -/
structure Runs (calls : Callbacks World Callback) (now : TimePoint)
    (new : List (TimerEntry Callback)) (before after : Process World Callback)
    : Prop where
  executed : after.executed = before.executed
    ++ new.map fun entry => { entry, previous := before.lastTick, now }
  lastTick : after.lastTick = before.lastTick
  world : after.world = (callAll calls before.world new).1
  added : after.added = before.added ++ (callAll calls before.world new).2
  entries : (new ++ after.timers.entries).Perm
    (before.timers.entries ++ (callAll calls before.world new).2)

theorem Runs.none (process : Process World Callback) : Runs calls now [] process process where
  executed := (List.append_nil _).symm
  lastTick := rfl
  world := rfl
  added := (List.append_nil _).symm
  entries := by rw [callAll, List.append_nil, List.nil_append]

/-- The front entry runs first. -/
theorem Runs.cons {entry : TimerEntry Callback} {new : List (TimerEntry Callback)}
    (first : process.timers.heap[0]? = some entry)
    (rest : Runs calls now new (process.execute calls now entry) after)
    : Runs calls now (entry :: new) process after := by
  let popped : Process World Callback :=
    { process with
      world := (calls.call entry.callback process.world).1
      timers := process.timers.pop
      executed := process.executed ++ [{ entry, previous := process.lastTick, now }] }
  obtain ⟨executed, world, lastTick, added, bag⟩ := Process.foldl_push
    (calls.call entry.callback process.world).2 popped
  obtain ⟨ran, last, end_, adds, left⟩ := rest
  rw [show (process.execute calls now entry).executed = _ from executed,
    show (process.execute calls now entry).lastTick = _ from lastTick] at ran
  rw [show (process.execute calls now entry).world = _ from world] at end_ adds left
  rw [show (process.execute calls now entry).added = _ from added] at adds
  refine ⟨?_, last.trans lastTick, end_, ?_, ?_⟩
  · rw [ran, List.map_cons, List.append_assoc]
    rfl
  · rw [adds, List.append_assoc]
    rfl
  · have front : (entry :: (process.execute calls now entry).timers.entries).Perm
        ((calls.call entry.callback process.world).2 ++ process.timers.entries) :=
      ((bag.cons entry).trans List.perm_middle.symm).trans ((entries_pop first).append_left _)
    have all := (left.cons entry).trans (front.append_right _)
    refine all.trans ?_
    rw [callAll]
    dsimp only
    rw [← List.append_assoc]
    exact List.perm_append_comm.append_right _

theorem due_execute {entry : TimerEntry Callback} (delayed : calls.Delayed)
    (first : process.timers.heap[0]? = some entry) (dueNow : entry.execAt ≤ now)
    (present : now ≤ calls.time process.world)
    : (entry :: (process.execute calls now entry).due now).Perm (process.due now)
      ∧ now ≤ calls.time (process.execute calls now entry).world := by
  let popped : Process World Callback :=
    { process with
      world := (calls.call entry.callback process.world).1
      timers := process.timers.pop
      executed := process.executed ++ [{ entry, previous := process.lastTick, now }] }
  obtain ⟨-, world, -, -, bag⟩ := Process.foldl_push
    (calls.call entry.callback process.world).2 popped
  constructor
  · have later : (calls.call entry.callback process.world).2.filter (·.execAt ≤ now) = [] := by
      refine List.filter_eq_nil_iff.mpr fun other made => ?_
      have ahead := delayed entry.callback process.world other made
      rw [decide_eq_true_eq]
      exact not_le.mpr (present.trans_lt ahead)
    have others := bag.filter (·.execAt ≤ now)
    rw [List.filter_append, later, List.nil_append] at others
    have front := (entries_pop first).filter (·.execAt ≤ now)
    simp only [List.filter_cons, dueNow, decide_true, if_true] at front
    exact (others.cons entry).trans front
  · rw [show (process.execute calls now entry).world = popped.world from world]
    exact present.trans (calls.time_call entry.callback process.world)

/-- The loop runs what is due and nothing else, by induction on its fuel. -/
theorem loop_runs_due (delayed : calls.Delayed) {fuel : Nat} (didExecute : Bool)
    (present : now ≤ calls.time process.world) (enough : (process.due now).length < fuel)
    : ∃ after new, process.loop calls now fuel didExecute
        = some (after, didExecute || !new.isEmpty)
      ∧ new.Perm (process.due now) ∧ Runs calls now new process after := by
  induction fuel generalizing process didExecute with
  | zero => exact absurd enough (Nat.not_lt_zero _)
  | succ fuel ih =>
      rw [loop]
      cases first : process.timers.heap[0]? with
      | none =>
          refine ⟨process, [], by simp, ?_, .none process⟩
          rw [due, entries_of_front_none first]
          exact .nil
      | some entry =>
          by_cases dueNow : entry.execAt ≤ now
          · obtain ⟨fewer, later⟩ := due_execute delayed first dueNow present
            have shorter : ((process.execute calls now entry).due now).length < fuel := by
              have lengths := fewer.length_eq
              rw [List.length_cons] at lengths
              omega
            obtain ⟨after, new, ends, ran, runs⟩ := ih true later shorter
            refine ⟨after, entry :: new, ?_, (ran.cons entry).trans fewer, runs.cons first⟩
            dsimp only
            rw [if_pos dueNow, ends]
            simp
          · refine ⟨process, [], by simp [dueNow], ?_, .none process⟩
            have none : process.due now = [] := by
              refine List.filter_eq_nil_iff.mpr fun other mem => ?_
              rw [decide_eq_true_eq]
              exact not_le.mpr ((Nat.lt_of_not_le dueNow).trans_le (front_le first other mem))
            rw [none]

/-- `Tick` ends if callbacks add their timers with a delay. It has then run exactly what was
due, one callback after another, and says whether that was anything; what was not due still
waits, with what the callbacks have added.
-/
theorem tick_runs_due (delayed : calls.Delayed) (process : Process World Callback) {fuel : Nat}
    (enough : process.timers.heap.size < fuel)
    : ∃ after new, process.tick calls fuel = some (after, !new.isEmpty)
      ∧ new.Perm (process.due (calls.time process.world))
      ∧ after.executed = process.executed ++ new.map (fun entry =>
        { entry, previous := process.lastTick, now := calls.time process.world })
      ∧ after.timers.entries.Perm (process.waiting (calls.time process.world)
        ++ (callAll calls (calls.now process.world) new).2)
      ∧ after.added = process.added ++ (callAll calls (calls.now process.world) new).2
      ∧ after.world = (callAll calls (calls.now process.world) new).1
      ∧ after.lastTick = calls.time process.world := by
  let started : Process World Callback := { process with world := calls.now process.world }
  have few : (started.due (calls.time process.world)).length < fuel :=
    (List.length_filter_le _ _).trans_lt enough
  obtain ⟨after, new, ends, ran, runs⟩ :=
    loop_runs_due delayed false (calls.time_now process.world) few
  refine ⟨{ after with lastTick := calls.time process.world }, new, ?_, ran, runs.executed, ?_,
    runs.added, runs.world, rfl⟩
  · rw [tick]
    dsimp only
    rw [ends]
    rfl
  · have split := (List.filter_append_perm
      (fun entry : TimerEntry Callback => decide (entry.execAt ≤ calls.time process.world))
      process.timers.entries).symm
    have parts := (split.trans (ran.symm.append_right _)).append_right
      (callAll calls (calls.now process.world) new).2
    rw [List.append_assoc] at parts
    exact (List.perm_append_left_iff new).mp (runs.entries.trans parts)

end Process

end TimerExecuter

-----------------------------------------------------------------------------------------
-- Recall ticks
-----------------------------------------------------------------------------------------

namespace RoomHost

variable (env : Environment)

theorem recallTick_sends (host : RoomHost) (timer : RecallTimer)
    : Sends host (host.recallTick env timer) := by
  have cancelled (sessionId : Nat) (session : PlayerSession) (spotIndex : Nat)
      (reason : RecallResultReason)
      : Sends host (host.cancelRecall env sessionId session spotIndex reason) := by
    unfold cancelRecall
    dsimp only
    split
    · exact host.modifyRoom_sends _
    · exact (host.modifyRoom_sends _).trans (send_sends env _ _ _)
  have completed (reached : RoomHost) (sessionId spotIndex : Nat)
      : Sends reached (reached.completeRecall env sessionId spotIndex) :=
    ((reached.modifyRoom_sends _).trans (send_sends env _ _ _)).trans
      ⟨Nat.le_succ _, fun _ _ => id⟩
  unfold recallTick
  dsimp only
  repeat' split
  · exact .refl host
  · exact .refl host
  · exact .refl host
  · exact cancelled ..
  · exact cancelled ..
  · exact cancelled ..
  · exact cancelled ..
  · exact cancelled ..
  · exact (host.modifyRoom_sends _).trans (scheduleRecallTick_sends env _ _ _ _)
  · exact .trans (host.modifyRoom_sends _) (completed _ _ _)

/-- `RecallTick` as a callback; the ticks that it schedules go to the executer. -/
def recallCall (timer : RecallTimer) (host : RoomHost)
    : RoomHost × List (TimerEntry RecallTimer) :=
  let after :=
    RoomHost.recallTick env { host with wire := { host.wire with recallTimers := [] } } timer
  ({ after with wire := { after.wire with recallTimers := [] } },
    after.wire.recallTimers.map fun next => { execAt := next.execAt, callback := next })

theorem recallCall_reads (timer : RecallTimer) (host : RoomHost)
    : host.wire.reads ≤ (recallCall env timer host).1.wire.reads :=
  (recallTick_sends env { host with wire := { host.wire with recallTimers := [] } } timer).reads

/-- The next tick comes an interval later. -/
theorem recallCall_delayed (timer : RecallTimer) (host : RoomHost)
    : ∀ entry ∈ (recallCall env timer host).2,
        env.clock host.wire.reads + PlayerSession.RECALL_TICK_INTERVAL_MS * 1000000
          = entry.execAt := by
  let drained : RoomHost := { host with wire := { host.wire with recallTimers := [] } }
  intro entry mem
  obtain ⟨next, scheduled, rfl⟩ := List.mem_map.mp mem
  have none (same : (drained.recallTick env timer).wire.recallTimers
      = drained.wire.recallTimers) : False := by
    rw [show (drained.recallTick env timer).wire.recallTimers = [] from same] at scheduled
    cases scheduled
  cases recallTick_fires env drained timer with
  | idle stale same => exact absurd (congrArg (·.wire.recallTimers) same) none
  | cancelled current fails stored ticks => exact absurd ticks none
  | completed now notifyRSeq current holds enough stored ticks => exact absurd ticks none
  | passed current holds few stored ticks =>
      rw [show (drained.recallTick env timer).wire.recallTimers = [_] from ticks] at scheduled
      rw [List.mem_singleton.mp scheduled]

theorem recallCall_execAt (timer : RecallTimer) (host : RoomHost)
    : ∀ entry ∈ (recallCall env timer host).2, env.clock host.wire.reads ≤ entry.execAt :=
  fun entry mem => (recallCall_delayed env timer host entry mem) ▸ Nat.le_add_right _ _

variable {env}

/-- The ticks of the recalls in a room. -/
def recallCalls (monotone : Monotone env.clock) : Callbacks RoomHost RecallTimer where
  time host := env.clock host.wire.reads
  now host := (host.now env).1
  call := recallCall env
  time_now host := monotone (Nat.le_succ host.wire.reads)
  time_call timer host := monotone (recallCall_reads env timer host)
  execAt_call := recallCall_execAt env

theorem recallCalls_delayed (monotone : Monotone env.clock)
    : (recallCalls monotone).Delayed := fun timer host entry mem =>
  (recallCall_delayed env timer host entry mem) ▸ Nat.lt_add_of_pos_right (by decide)

theorem openField_monotone : Monotone openField.clock :=
  fun _ _ le => Nat.mul_le_mul_right 1000000 le

/-- A tick of a recall that nobody has begun. -/
def strayTick (sessionId : Nat) : RecallTimer :=
  { sessionId, uid := 0, generation := 1, execAt := 0 }

end RoomHost

namespace TimerExecuter.Process

open RoomHost

/-- Two timers, of which the second one is due first. -/
def armed : Process RoomHost RecallTimer :=
  let calls := recallCalls openField_monotone
  let idle : Process RoomHost RecallTimer := { world := duel, timers := .empty }
  (idle.add calls 5 (strayTick 1)).add calls 2 (strayTick 2)

/-- The clock shows seven milliseconds. -/
def waited : Process RoomHost RecallTimer :=
  { armed with world := { armed.world with wire := { armed.world.wire with reads := 7 } } }

def rung : Process RoomHost RecallTimer :=
  ((waited.tick (recallCalls openField_monotone) 3).map Prod.fst).getD waited

theorem rung_reachable : (system (recallCalls openField_monotone)).Reachable rung := by
  let idle : Process RoomHost RecallTimer := { world := duel, timers := .empty }
  have start : (system (recallCalls openField_monotone)).Reachable idle := .initial ⟨duel, rfl⟩
  have first := start.step (show idle.next _ (.add 5 (strayTick 1)) = some _ from rfl)
  have second : (system (recallCalls openField_monotone)).Reachable armed :=
    first.step (show next _ _ (.add 2 (strayTick 2)) = some _ from rfl)
  have later : (recallCalls openField_monotone).time armed.world
      ≤ (recallCalls openField_monotone).time waited.world := by decide +kernel
  have goes : next (recallCalls openField_monotone) armed (.world waited.world) = some waited := by
    rw [next, if_pos later]
    rfl
  have third := second.step goes
  obtain ⟨after, new, ends, -⟩ :=
    tick_runs_due (recallCalls_delayed openField_monotone) waited
      (show waited.timers.heap.size < 3 by decide +kernel)
  have same : rung = after := by rw [rung, ends, Option.map_some, Option.getD_some]
  refine third.step (show next _ _ (.tick 3) = some rung from ?_)
  rw [next, ends, same, Option.map_some]

theorem callbacks_in_due_order_two
    : rung.executed.map (·.entry.callback.sessionId) = [2, 1]
      ∧ (rung.executed.map (·.entry.execAt)).Pairwise (· ≤ ·) :=
  ⟨by decide +kernel, (callbacks_in_due_order rung_reachable).2.1⟩

/-- The clock shows four milliseconds. -/
def early : Process RoomHost RecallTimer :=
  { armed with world := { armed.world with wire := { armed.world.wire with reads := 4 } } }

/-- The second timer runs and the first one still waits. -/
theorem tick_runs_due_two
    : ∃ after, ∃ new : List (TimerEntry RecallTimer),
        early.tick (recallCalls openField_monotone) 3 = some (after, !new.isEmpty)
        ∧ new.map (·.callback.sessionId) = [2]
        ∧ after.timers.entries.map (·.callback.sessionId) = [1] := by
  obtain ⟨after, new, ends, ran, -, left, -⟩ :=
    tick_runs_due (recallCalls_delayed openField_monotone) early
      (show early.timers.heap.size < 3 by decide +kernel)
  obtain ⟨entry, only⟩ : ∃ entry,
      early.due ((recallCalls openField_monotone).time early.world) = [entry] :=
    List.length_eq_one_iff.mp (by decide +kernel)
  have same : new = early.due ((recallCalls openField_monotone).time early.world) := by
    rw [only] at ran ⊢
    exact List.perm_singleton.mp ran
  subst same
  refine ⟨after, _, ends, by decide +kernel, List.perm_singleton.mp ?_⟩
  refine (left.map (·.callback.sessionId)).trans (List.Perm.of_eq ?_)
  decide +kernel

end TimerExecuter.Process

end ExtractionServer.Room
