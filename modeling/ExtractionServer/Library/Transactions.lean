import Mathlib.Data.List.Basic

/-! Transactions over a connection whose calls can fail in any way, and the rule for a body
that is tried again after a failure.
-/

namespace Transactions

universe u

-----------------------------------------------------------------------------------------
-- Calls
-----------------------------------------------------------------------------------------

/-- How a call ends. -/
inductive Fate where
  | answered
  /-- It throws and has done nothing. -/
  | refused
  /-- It throws and has been carried out. -/
  | unheard
  /-- It throws and the connection is gone, and with it the open transaction. -/
  | lost
deriving DecidableEq, Repr

inductive Call (S : Type u) where
  | setAutoCommit (on : Bool)
  | statement (effect : S → Option S)
  | commit
  | rollback

/-- A connection as the server sees it: the committed data, and the data in the open
transaction. The calls are counted.
-/
structure Session (S : Type u) where
  committed : S
  view : Option S := none
  autoCommit : Bool := true
  calls : Nat := 0

variable {S : Type u}

namespace Session

/-- What the next statement works on. -/
def visible (session : Session S) : S :=
  session.view.getD session.committed

/-- The connection is new. -/
def dropped (session : Session S) : Session S :=
  { session with view := none, autoCommit := true }

/-- What a call does, unless the data refuse the statement. The switch to autocommit commits
the open transaction.
-/
def carryOut (session : Session S) : Call S → Option (Session S)
  | .setAutoCommit true =>
      some { session with committed := session.visible, view := none, autoCommit := true }
  | .setAutoCommit false => some { session with autoCommit := false }
  | .statement effect =>
      (effect session.visible).map fun data =>
        if session.autoCommit then { session with committed := data }
        else { session with view := some data }
  | .commit => some { session with committed := session.visible, view := none }
  | .rollback => some { session with view := none }

/-- One call, and whether it returns. -/
def perform (fates : Nat → Call S → Fate) (session : Session S) (call : Call S)
    : Session S × Bool :=
  let counted := { session with calls := session.calls + 1 }
  match fates session.calls call, counted.carryOut call with
  | .answered, some after => (after, true)
  | .unheard, some after => (after, false)
  | .lost, _ => (counted.dropped, false)
  | _, _ => (counted, false)

/-- Calls in a row, up to the first that throws. -/
def run (fates : Nat → Call S → Fate) (session : Session S) : List (Call S) → Session S × Bool
  | [] => (session, true)
  | call :: rest =>
      match session.perform fates call with
      | (after, true) => after.run fates rest
      | (after, false) => (after, false)

end Session

/-- Statements between the two switches of autocommit. -/
def transaction (statements : List (S → Option S)) : List (Call S) :=
  .setAutoCommit false :: statements.map .statement ++ [.commit, .setAutoCommit true]

/-- Try a transaction; when a call throws, roll back and switch autocommit on again. -/
def attempt (fates : Nat → Call S → Fate) (statements : List (S → Option S))
    (session : Session S)
    : Session S × Bool :=
  match session.run fates (transaction statements) with
  | (after, true) => (after, true)
  | (after, false) => ((after.run fates [.rollback, .setAutoCommit true]).1, false)

-----------------------------------------------------------------------------------------
-- Rules
-----------------------------------------------------------------------------------------

/-- What a call can leave behind, and whether it returns. -/
inductive Outcome (session : Session S) (call : Call S) : Session S × Bool → Prop
  | done {after : Session S} (returns : Bool) (carriedOut : session.carryOut call = some after)
      : Outcome session call (after, returns)
  | refused : Outcome session call (session, false)
  | lost : Outcome session call (session.dropped, false)

/-- Nothing has been committed, and the open transaction, if there is one, meets a condition.
-/
structure Untouched (P : S → Prop) (before after : Session S) : Prop where
  committed : after.committed = before.committed
  view : ∀ data, after.view = some data → P data

/-- A body of statements leads from the data to a result. -/
def execute (statements : List (S → Option S)) (data : S) : Option S :=
  statements.foldlM (fun data effect => effect data) data

variable {fates : Nat → Call S → Fate} {session : Session S}

namespace Session

def count (session : Session S) : Session S :=
  { session with calls := session.calls + 1 }

theorem perform_outcome (fates : Nat → Call S → Fate) (session : Session S) (call : Call S)
    : Outcome session.count call (session.perform fates call) := by
  unfold perform
  dsimp only
  split
  · next carriedOut => exact .done true carriedOut
  · next carriedOut => exact .done false carriedOut
  · exact .lost
  · exact .refused

/-- A run of calls in two parts, by induction on the first part. -/
theorem run_append (fates : Nat → Call S → Fate) (session : Session S)
    (first second : List (Call S))
    : session.run fates (first ++ second)
      = if (session.run fates first).2 then (session.run fates first).1.run fates second
        else session.run fates first := by
  induction first generalizing session with
  | nil => rfl
  | cons call rest ih =>
      rw [List.cons_append, run, run]
      rcases session.perform fates call with ⟨after, _ | _⟩
      · rfl
      · exact ih after

theorem run_cons (fates : Nat → Call S → Fate) (session : Session S) (call : Call S)
    (rest : List (Call S))
    : session.run fates (call :: rest)
      = if (session.perform fates call).2 then (session.perform fates call).1.run fates rest
        else session.perform fates call := by
  rw [run]
  rcases session.perform fates call with ⟨after, _ | _⟩ <;> rfl

theorem carryOut_statement (session : Session S) (manual : session.autoCommit = false)
    (effect : S → Option S)
    : session.carryOut (.statement effect)
      = (effect session.visible).map fun data => { session with view := some data } := by
  rw [carryOut, manual]
  rfl

theorem view_of_visible {P : S → Prop} (holds : P session.visible) {data : S}
    (pending : session.view = some data)
    : P data := by
  rwa [visible, pending, Option.getD_some] at holds

end Session

namespace Untouched

variable {P : S → Prop} {before middle after : Session S}

theorem trans (first : Untouched P before middle) (second : Untouched P middle after)
    : Untouched P before after :=
  ⟨second.committed.trans first.committed, second.view⟩

/-- What the next statement works on meets the condition if the committed data do. -/
theorem visible (h : Untouched P before after) (holds : P before.committed)
    : P after.visible := by
  rw [Session.visible]
  cases pending : after.view with
  | none => exact h.committed ▸ holds
  | some data => exact h.view data pending

/-- No transaction is open. -/
theorem settled (h : Untouched (fun _ => False) before after) : after.view = none :=
  Option.eq_none_iff_forall_ne_some.mpr h.view

theorem of_settled (committed : after.committed = before.committed)
    (settled : after.view = none)
    : Untouched P before after := by
  refine ⟨committed, fun data pending => ?_⟩
  rw [settled] at pending
  cases pending

end Untouched

/-- Statements in a transaction commit nothing. If all of them return, the transaction holds
their result. By induction on the statements.
-/
theorem run_statements (fates : Nat → Call S → Fate) {P : S → Prop}
    {statements : List (S → Option S)}
    (closed : ∀ effect ∈ statements, ∀ data result, P data → effect data = some result →
      P result)
    {session : Session S} (manual : session.autoCommit = false) (holds : P session.visible)
    : Untouched P session (session.run fates (statements.map .statement)).1
      ∧ ((session.run fates (statements.map .statement)).2 = true →
        execute statements session.visible
          = some (session.run fates (statements.map .statement)).1.visible) := by
  induction statements generalizing session with
  | nil => exact ⟨⟨rfl, fun data => Session.view_of_visible holds⟩, fun _ => rfl⟩
  | cons effect rest ih =>
      have outcome := session.perform_outcome fates (.statement effect)
      rw [List.map_cons, Session.run_cons]
      generalize session.perform fates (.statement effect) = performed at outcome
      cases outcome with
      | @done after returns carriedOut =>
          rw [session.count.carryOut_statement manual] at carriedOut
          obtain ⟨data, result, rfl⟩ := Option.map_eq_some_iff.mp carriedOut
          have worked : P data := closed effect List.mem_cons_self _ _ holds result
          have untouched : Untouched P session { session.count with view := some data } :=
            ⟨rfl, fun other same => Option.some.inj same ▸ worked⟩
          cases returns with
          | false => exact ⟨untouched, fun absurd => by cases absurd⟩
          | true =>
              rw [if_pos rfl]
              obtain ⟨later, all⟩ := ih
                (fun effect mem => closed effect (List.mem_cons_of_mem _ mem))
                (show ({ session.count with view := some data } : Session S).autoCommit = false
                  from manual) worked
              refine ⟨untouched.trans later, fun returned => ?_⟩
              rw [execute, List.foldlM_cons]
              exact (congrArg (· >>= _) result).trans (all returned)
      | refused =>
          exact ⟨⟨rfl, fun data => Session.view_of_visible holds⟩, fun absurd => by cases absurd⟩
      | lost =>
          exact ⟨⟨rfl, fun data absurd => by cases absurd⟩, fun absurd => by cases absurd⟩

/-- The calls that end a transaction. -/
def Call.Closing (call : Call S) : Prop :=
  call = .commit ∨ call = .rollback ∨ call = .setAutoCommit true

theorem perform_closing (fates : Nat → Call S → Fate) {call : Call S}
    (closing : call.Closing) {session : Session S} (settled : session.view = none)
    : Untouched (fun _ => False) session (session.perform fates call).1 := by
  have visible : session.visible = session.committed := by
    rw [Session.visible, settled, Option.getD_none]
  have outcome := session.perform_outcome fates call
  generalize session.perform fates call = performed at outcome
  cases outcome with
  | done returns carriedOut =>
      rcases closing with rfl | rfl | rfl <;> cases carriedOut
      · exact .of_settled visible rfl
      · exact .of_settled rfl rfl
      · exact .of_settled visible rfl
  | refused => exact .of_settled rfl settled
  | lost => exact .of_settled rfl rfl

/-- The end of a transaction changes nothing where none is open, by induction on the calls. -/
theorem run_closing (fates : Nat → Call S → Fate) (calls : List (Call S))
    (closing : ∀ call ∈ calls, call.Closing)
    {session : Session S} (settled : session.view = none)
    : Untouched (fun _ => False) session (session.run fates calls).1 := by
  induction calls generalizing session with
  | nil => exact .of_settled rfl settled
  | cons call rest ih =>
      have first := perform_closing fates (closing call List.mem_cons_self) settled
      rw [Session.run_cons]
      split
      · exact first.trans
          (ih (fun other mem => closing other (List.mem_cons_of_mem _ mem)) first.settled)
      · exact first

/-- A rollback and the switch after it commit nothing. -/
theorem run_recovery (fates : Nat → Call S → Fate) {P : S → Prop} {session : Session S}
    (view : ∀ data, session.view = some data → P data)
    : Untouched P session (session.run fates [.rollback, .setAutoCommit true]).1 := by
  have outcome := session.perform_outcome fates .rollback
  rw [Session.run_cons]
  generalize session.perform fates .rollback = performed at outcome
  cases outcome with
  | @done after returns carriedOut =>
      cases carriedOut
      cases returns with
      | false => exact ⟨rfl, fun data absurd => by cases absurd⟩
      | true =>
          have later := run_closing fates [.setAutoCommit true]
            (fun call mem => .inr (.inr (List.mem_singleton.mp mem)))
            (show ({ session.count with view := none } : Session S).view = none from rfl)
          exact ⟨later.committed, fun data pending => (later.view data pending).elim⟩
  | refused => exact ⟨rfl, view⟩
  | lost => exact ⟨rfl, fun data absurd => by cases absurd⟩

/-- A commit and the switch after it commit the open transaction or nothing. -/
theorem run_commit (fates : Nat → Call S → Fate) {P : S → Prop} {session : Session S}
    (holds : P session.visible)
    : Untouched P session (session.run fates [.commit, .setAutoCommit true]).1
        ∧ (session.run fates [.commit, .setAutoCommit true]).2 = false
      ∨ (session.run fates [.commit, .setAutoCommit true]).1.committed = session.visible
        ∧ (session.run fates [.commit, .setAutoCommit true]).1.view = none := by
  have outcome := session.perform_outcome fates .commit
  rw [Session.run_cons]
  generalize session.perform fates .commit = performed at outcome
  cases outcome with
  | @done after returns carriedOut =>
      cases carriedOut
      cases returns with
      | false => exact .inr ⟨rfl, rfl⟩
      | true =>
          have later := run_closing fates [.setAutoCommit true]
            (fun call mem => .inr (.inr (List.mem_singleton.mp mem)))
            (show ({ session.count with committed := session.count.visible, view := none }
              : Session S).view = none from rfl)
          exact .inr ⟨later.committed, later.settled⟩
  | refused => exact .inl ⟨⟨rfl, fun data => Session.view_of_visible holds⟩, rfl⟩
  | lost => exact .inl ⟨⟨rfl, fun data absurd => by cases absurd⟩, rfl⟩

/-- A transaction commits the result of its statements or nothing. It returns only if it has
committed.
-/
theorem run_transaction (fates : Nat → Call S → Fate) {P : S → Prop}
    {statements : List (S → Option S)}
    (closed : ∀ effect ∈ statements, ∀ data result, P data → effect data = some result →
      P result)
    {session : Session S} (committed : P session.committed)
    (view : ∀ data, session.view = some data → P data)
    : Untouched P session (session.run fates (transaction statements)).1
        ∧ (session.run fates (transaction statements)).2 = false
      ∨ execute statements session.visible
          = some (session.run fates (transaction statements)).1.committed
        ∧ (session.run fates (transaction statements)).1.view = none := by
  have holds : P session.visible := Untouched.visible ⟨rfl, view⟩ committed
  have outcome := session.perform_outcome fates (.setAutoCommit false)
  rw [transaction, List.cons_append, Session.run_cons]
  generalize session.perform fates (.setAutoCommit false) = performed at outcome
  cases outcome with
  | @done after returns carriedOut =>
      cases carriedOut
      cases returns with
      | false => exact .inl ⟨⟨rfl, view⟩, rfl⟩
      | true =>
          rw [if_pos rfl, Session.run_append]
          obtain ⟨untouched, all⟩ := run_statements fates closed
            (show ({ session.count with autoCommit := false } : Session S).autoCommit = false
              from rfl) holds
          split
          · next returned =>
              rcases run_commit fates (untouched.visible committed) with
                ⟨again, threw⟩ | ⟨done, settled⟩
              · exact .inl ⟨⟨again.committed.trans untouched.committed, again.view⟩, threw⟩
              · exact .inr ⟨(all returned).trans (congrArg some done.symm), settled⟩
          · next threw =>
              exact .inl ⟨⟨untouched.committed, untouched.view⟩, eq_false_of_ne_true threw⟩
  | refused => exact .inl ⟨⟨rfl, view⟩, rfl⟩
  | lost => exact .inl ⟨⟨rfl, fun data absurd => by cases absurd⟩, rfl⟩

/-- An attempt commits the result of its statements or nothing, and leaves an open transaction
only if the rollback has thrown.
-/
theorem attempt_cases (fates : Nat → Call S → Fate) {P : S → Prop}
    {statements : List (S → Option S)}
    (closed : ∀ effect ∈ statements, ∀ data result, P data → effect data = some result →
      P result)
    {session : Session S} (committed : P session.committed)
    (view : ∀ data, session.view = some data → P data)
    : Untouched P session (attempt fates statements session).1
        ∧ (attempt fates statements session).2 = false
      ∨ execute statements session.visible
          = some (attempt fates statements session).1.committed
        ∧ (attempt fates statements session).1.view = none := by
  have body := run_transaction fates closed committed view
  unfold attempt
  generalize session.run fates (transaction statements) = performed at body ⊢
  rcases performed with ⟨after, _ | _⟩
  · rcases body with ⟨untouched, _⟩ | ⟨done, settled⟩
    · exact .inl ⟨untouched.trans (run_recovery fates untouched.view), rfl⟩
    · have recovered := run_closing fates [.rollback, .setAutoCommit true] ?_ settled
      · exact .inr ⟨done.trans (congrArg some recovered.committed.symm), recovered.settled⟩
      · intro call mem
        rcases List.mem_pair.mp mem with rfl | rfl
        · exact .inr (.inl rfl)
        · exact .inr (.inr rfl)
  · exact body

/-- A rollback that does not throw without effect leaves no open transaction, whether the
switch after it returns or not.
-/
theorem run_recovery_settled (effective : ∀ calls, fates calls .rollback ≠ .refused)
    (session : Session S)
    : (session.run fates [.rollback, .setAutoCommit true]).1.view = none := by
  have rolledBack : (session.perform fates .rollback).1.view = none := by
    unfold Session.perform
    cases fate : fates session.calls .rollback with
    | answered => rfl
    | refused => exact absurd fate (effective session.calls)
    | unheard => rfl
    | lost => rfl
  rw [Session.run_cons]
  split
  · exact (run_closing fates [.setAutoCommit true]
      (fun call mem => .inr (.inr (List.mem_singleton.mp mem))) rolledBack).settled
  · exact rolledBack

/-- Then an attempt leaves no open transaction either. -/
theorem attempt_settled (effective : ∀ calls, fates calls .rollback ≠ .refused)
    (statements : List (S → Option S)) (session : Session S)
    : (attempt fates statements session).1.view = none := by
  have body : Untouched (fun _ => True) session (session.run fates (transaction statements)).1
        ∧ (session.run fates (transaction statements)).2 = false
      ∨ execute statements session.visible = _ ∧ _ :=
    run_transaction fates (fun _ _ _ _ _ _ => trivial) trivial fun _ _ => trivial
  unfold attempt
  generalize session.run fates (transaction statements) = performed at body ⊢
  rcases performed with ⟨after, _ | _⟩
  · exact run_recovery_settled effective after
  · rcases body with ⟨_, threw⟩ | ⟨_, settled⟩
    · cases threw
    · exact settled

end Transactions
