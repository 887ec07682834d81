import ExtractionServer.Matchmaking.MatchCommit
import ExtractionServer.Matchmaking.QueueHistory

/-! The flags of queued tickets during a cycle. Only a matched ticket is found invalid, and
such a ticket counts as matched, so the `DEL` at the end of a cycle has no key.
-/

namespace ExtractionServer.Matchmaking

namespace MatchMaker

-----------------------------------------------------------------------------------------
-- One queue
-----------------------------------------------------------------------------------------

/-- Invalid tickets are matched. The tickets that the cycle still has before it are matched
and valid, and it has each of them once.
-/
structure Flagged (mm : MatchMaker) (ahead : TicketVector) : Prop where
  invalid : ∀ ptr, mm.isInvalid ptr = true → mm.isMatched ptr = true
  nodup : ahead.Nodup
  ahead : ∀ ptr ∈ ahead, mm.isMatched ptr = true ∧ mm.isInvalid ptr = false

namespace Flagged

variable {mm : MatchMaker} {ptr : TicketPtr} {ahead rest : TicketVector}

theorem new (mapId : Int) (maxAggression : Nat)
    : (MatchMaker.new mapId maxAggression).Flagged [] where
  invalid ptr invalid := by cases invalid
  nodup := List.nodup_nil
  ahead ptr mem := absurd mem List.not_mem_nil

theorem sublist (h : mm.Flagged ahead) (fewer : rest.Sublist ahead) : mm.Flagged rest :=
  ⟨h.invalid, fewer.nodup h.nodup, fun ptr mem => h.ahead ptr (fewer.subset mem)⟩

/-- The flags are those of the tickets, whatever the queue. -/
theorem of_tickets (h : mm.Flagged ahead) {after : MatchMaker}
    (same : after.tickets = mm.tickets)
    : after.Flagged ahead := by
  have matched : after.isMatched = mm.isMatched := by
    funext ptr
    rw [MatchMaker.isMatched, MatchMaker.isMatched, same]
  have invalid : after.isInvalid = mm.isInvalid := by
    funext ptr
    rw [MatchMaker.isInvalid, MatchMaker.isInvalid, same]
  refine ⟨?_, h.nodup, ?_⟩
  · rw [matched, invalid]
    exact h.invalid
  · rw [matched, invalid]
    exact h.ahead

/-- A new ticket with fresh flags. -/
theorem addSingleMatchTicket (h : mm.Flagged []) {ticket : MatchTicket}
    (valid : ticket.isValid = true)
    : (mm.addSingleMatchTicket ptr ticket).Flagged [] := by
  refine ⟨fun other invalid => ?_, List.nodup_nil, fun _ mem => absurd mem List.not_mem_nil⟩
  by_cases same : other = ptr
  · subst same
    rw [MatchMaker.isInvalid, MatchMaker.addSingleMatchTicket, AList.lookup_insert,
      Option.any_some, valid] at invalid
    cases invalid
  · have before := h.invalid other
    rw [MatchMaker.isInvalid, MatchMaker.addSingleMatchTicket,
      AList.lookup_insert_ne same] at invalid
    rw [MatchMaker.isMatched, MatchMaker.addSingleMatchTicket, AList.lookup_insert_ne same]
    exact before invalid

/-- The next ticket waits again. It was valid, so no invalid ticket loses its match. -/
theorem setMatched_false (h : mm.Flagged (ptr :: rest))
    : (mm.setMatched ptr false).Flagged rest := by
  obtain ⟨apart, nodup⟩ := List.nodup_cons.mp h.nodup
  have own := (h.ahead ptr List.mem_cons_self).2
  refine ⟨fun other invalid => ?_, nodup, fun other mem => ?_⟩
  · rw [isInvalid_setMatched] at invalid
    have ne : other ≠ ptr := fun same => by simp [same, own] at invalid
    rw [isMatched_setMatched_ne mm ne]
    exact h.invalid other invalid
  · have ne : other ≠ ptr := fun same => apart (same ▸ mem)
    rw [isInvalid_setMatched, isMatched_setMatched_ne mm ne]
    exact h.ahead other (List.mem_cons_of_mem _ mem)

theorem isMatched_setInvalid (mm : MatchMaker) (ptr other : TicketPtr)
    : (mm.setInvalid ptr).isMatched other = mm.isMatched other := by
  by_cases same : other = ptr
  · subst same
    cases found : mm.tickets.lookup other <;>
      simp [MatchMaker.isMatched, MatchMaker.setInvalid, found]
  · simp [MatchMaker.isMatched, MatchMaker.setInvalid, Table.lookup_adjust_ne same]

theorem isInvalid_setInvalid_ne (mm : MatchMaker) {ptr other : TicketPtr}
    (ne : other ≠ ptr)
    : (mm.setInvalid ptr).isInvalid other = mm.isInvalid other := by
  simp [MatchMaker.isInvalid, MatchMaker.setInvalid, Table.lookup_adjust_ne ne]

/-- The next ticket is found invalid. It is matched. -/
theorem setInvalid (h : mm.Flagged (ptr :: rest)) : (mm.setInvalid ptr).Flagged rest := by
  obtain ⟨apart, nodup⟩ := List.nodup_cons.mp h.nodup
  refine ⟨fun other invalid => ?_, nodup, fun other mem => ?_⟩
  · rw [isMatched_setInvalid]
    by_cases same : other = ptr
    · rw [same]
      exact (h.ahead ptr List.mem_cons_self).1
    · rw [isInvalid_setInvalid_ne mm same] at invalid
      exact h.invalid other invalid
  · have ne : other ≠ ptr := fun same => apart (same ▸ mem)
    rw [isMatched_setInvalid, isInvalid_setInvalid_ne mm ne]
    exact h.ahead other (List.mem_cons_of_mem _ mem)

/-- The keys for the `DEL` are those of invalid tickets that are not matched. -/
theorem no_keysToDelete (h : mm.Flagged ahead) : mm.releaseAndDeleteTickets.2 = [] := by
  refine List.map_eq_nil_iff.mpr (List.filter_eq_nil_iff.mpr fun ptr _ both => ?_)
  rw [shouldRemove_eq, Bool.and_eq_true, Bool.not_eq_true', Bool.or_eq_true] at both
  obtain ⟨free, marked⟩ := both
  have matched := marked.elim id (h.invalid ptr)
  exact Bool.false_ne_true (free.symm.trans matched)

/-- The clean-up leaves tickets as they were, or takes them away. -/
theorem releaseAndDeleteTickets (h : mm.Flagged ahead)
    : mm.releaseAndDeleteTickets.1.Flagged [] := by
  refine ⟨fun ptr invalid => ?_, List.nodup_nil, fun _ mem => absurd mem List.not_mem_nil⟩
  by_cases released : ptr ∈ mm.timeSortedTicketVector.filter mm.shouldRemove
  · have gone : mm.releaseAndDeleteTickets.1.tickets.lookup ptr = none :=
      AList.lookup_eq_none.mpr fun mem => (mem_of_mem_foldl_erase mem).2 released
    rw [MatchMaker.isInvalid, gone] at invalid
    cases invalid
  · have kept : mm.releaseAndDeleteTickets.1.tickets.lookup ptr = mm.tickets.lookup ptr :=
      lookup_foldl_erase released mm.tickets
    rw [MatchMaker.isInvalid, kept] at invalid
    rw [MatchMaker.isMatched, kept]
    exact h.invalid ptr invalid

/-- A search that has marked the members of its groups finds one more group. Its members were
not matched, so they are in no other group, and valid.
-/
theorem accept (h : mm.Flagged mm.matchedGroups.flatten) (wellFormed : mm.WellFormed)
    {pivot : TicketPtr} (queued : pivot ∈ mm.timeSortedTicketVector)
    (unmatched : mm.isMatched pivot = false) (diff : Nat)
    : (mm.accept (mm.gatherGroup pivot diff)).Flagged
        (mm.accept (mm.gatherGroup pivot diff)).matchedGroups.flatten := by
  have free : ∀ ptr ∈ mm.gatherGroup pivot diff, mm.isMatched ptr = false := by
    intro ptr mem
    rw [gatherGroup_eq_take] at mem
    have ofBucket : ∀ i, ptr ∈ mm.unmatchedAt i → mm.isMatched ptr = false :=
      fun i mem => by simpa using (List.mem_filter.mp mem).2
    rcases mem_candidates.mp (List.mem_of_mem_take mem) with
      rfl | ⟨_, mem⟩ | ⟨_, ⟨_, mem⟩ | ⟨_, mem⟩⟩
    · exact unmatched
    · exact ofBucket _ mem
    · exact ofBucket _ mem
    · exact ofBucket _ mem
  obtain ⟨nodup, members⟩ := wellFormed.gatherGroup queued diff
  have progress := Progress.accept mm (mm.gatherGroup pivot diff)
  generalize mm.gatherGroup pivot diff = group at free nodup members progress
  have flatten : (mm.accept group).matchedGroups.flatten
      = mm.matchedGroups.flatten ++ group := by
    rw [MatchMaker.accept, List.flatten_append, List.flatten_singleton]
  rw [flatten]
  refine ⟨fun ptr invalid => ?_, h.nodup.append nodup fun ptr earlier mem => ?_,
    fun ptr mem => ?_⟩
  · rw [progress.isInvalid] at invalid
    exact progress.isMatched ptr (h.invalid ptr invalid)
  · exact Bool.false_ne_true ((free ptr mem).symm.trans (h.ahead ptr earlier).1)
  · rw [progress.isInvalid]
    rcases List.mem_append.mp mem with earlier | mem
    · exact ⟨progress.isMatched ptr (h.ahead ptr earlier).1, (h.ahead ptr earlier).2⟩
    · have known := wellFormed.known ptr (List.mem_append_left _ (members ptr mem))
      refine ⟨(isMatched_setMatched_foldl group mm known).mpr (.inr mem), ?_⟩
      refine Bool.eq_false_of_not_eq_true fun invalid => ?_
      exact Bool.false_ne_true ((free ptr mem).symm.trans (h.invalid ptr invalid))

/-- The whole search, by induction on the pivots. -/
theorem findMatchGroup (h : mm.Flagged []) (wellFormed : mm.WellFormed)
    (clock : Nat → TimePoint)
    : (mm.findMatchGroup clock).Flagged (mm.findMatchGroup clock).matchedGroups.flatten := by
  have start : MatchMaker.Flagged { mm with matchedGroups := [] } [] := h.of_tickets rfl
  refine (List.foldlRecOn mm.timeSortedTicketVector (Search.visit clock)
    (motive := fun search => SameQueue mm search.mm
      ∧ search.mm.Flagged search.mm.matchedGroups.flatten) ?_ ?_).2
  · exact ⟨⟨fun _ => .rfl, rfl, rfl, rfl, rfl, rfl⟩, start⟩
  · rintro search ⟨same, flagged⟩ pivot queued
    rcases visit_cases clock search pivot with unchanged | ⟨unmatched, diff, _, accepted⟩
    · rw [unchanged]
      exact ⟨same, flagged⟩
    · rw [accepted]
      exact ⟨same.trans (Progress.accept search.mm _).toSameQueue,
        flagged.accept (same.wellFormed wellFormed) (same.queue ▸ queued) unmatched diff⟩

end Flagged

end MatchMaker

-----------------------------------------------------------------------------------------
-- The queues of all maps
-----------------------------------------------------------------------------------------

/-- The tickets of the groups that the cycle has before it. -/
def Stage.ahead : Stage → TicketVector
  | .idle => []
  | .groups _ pending => pending.flatten
  | .distribute _ group pending | .rollback _ group pending | .reread _ group pending =>
      group ++ pending.flatten

namespace MatchState

/-- The flags of all queues. -/
structure Flags (state : MatchState) : Prop where
  all : ∀ mapId, (state.matchmakers mapId).Flagged []
  ahead : (state.matchmakers state.stage.mapId).Flagged state.stage.ahead

/-- A new ticket has the flags that its object is made with. -/
def sendsFresh : Action → Bool
  | .addSingleMatchTicket _ _ ticket => !ticket.isMatched && ticket.isValid
  | _ => true

variable {state after : MatchState}

theorem Flags.of_idle (all : ∀ mapId, (state.matchmakers mapId).Flagged [])
    (idle : state.stage = .idle)
    : state.Flags :=
  ⟨all, by
    rw [idle]
    exact all 0⟩

/-- The cycle goes on with a part of what it had before it. -/
theorem Flags.of_stage (h : state.Flags) (matchmakers : after.matchmakers = state.matchmakers)
    (mapId : after.stage.mapId = state.stage.mapId)
    (fewer : after.stage.ahead.Sublist state.stage.ahead)
    : after.Flags := by
  refine ⟨?_, ?_⟩
  · rw [matchmakers]
    exact h.all
  · rw [matchmakers, mapId]
    exact h.ahead.sublist fewer

/-- The queue at the cycle's map changes. -/
theorem Flags.setMatchMaker (h : state.Flags) {mapId : Nat} {mm : MatchMaker}
    (matchmakers : after.matchmakers = (state.setMatchMaker mapId mm).matchmakers)
    (stage : after.stage.mapId = mapId) (flagged : mm.Flagged after.stage.ahead)
    : after.Flags := by
  refine ⟨fun other => ?_, ?_⟩
  · rw [matchmakers]
    by_cases same : other = mapId
    · subst same
      rw [setMatchMaker_self]
      exact flagged.sublist (List.nil_sublist _)
    · rw [setMatchMaker_ne state same]
      exact h.all other
  · rw [matchmakers, stage, setMatchMaker_self]
    exact flagged

/-- Every step. -/
theorem Flags.next (h : state.Flags) (sound : state.Sound) {action : Action}
    (step : state.next action = some after) (fresh : sendsFresh action = true)
    : after.Flags := by
  have kept : ∀ {other : MatchState}, other.matchmakers = state.matchmakers →
      other.stage = state.stage → other.Flags := by
    intro other matchmakers stage
    exact h.of_stage matchmakers (congrArg _ stage) (by rw [stage])
  cases action with
  | addSingleMatchTicket mapId ptr ticket =>
      simp only [MatchState.next] at step
      split at step
      · next idle =>
          split at step
          · cases step
            have valid : ticket.isValid = true := (Bool.and_eq_true_iff.mp fresh).2
            refine .of_idle (fun other => ?_) idle
            by_cases same : other = mapId
            · subst same
              rw [setMatchMaker_self]
              exact (h.all other).addSingleMatchTicket valid
            · rw [setMatchMaker_ne state same]
              exact h.all other
          · cases step
      · cases step
  | startMatchMake mapId clock =>
      simp only [MatchState.next] at step
      split at step
      · cases step
        refine h.setMatchMaker rfl rfl ?_
        have wellFormed := (sound.wellFormed mapId).addNewMatchTickets
        refine MatchMaker.Flagged.findMatchGroup ((h.all mapId).of_tickets ?_) wellFormed clock
        unfold MatchMaker.addNewMatchTickets
        split <;> rfl
      · cases step
  | verifyAndSetMatchStatus runs answered =>
      simp only [MatchState.next] at step
      split at step
      · next mapId group pending stage =>
          cases step
          have ahead := h.ahead
          rw [stage] at ahead
          by_cases valid : (verifyAndSetMatchStatus state.redis (state.keys mapId group) runs
              answered).2 = true
          · simp only [if_pos valid]
            exact ⟨h.all, ahead⟩
          · simp only [if_neg valid]
            exact ⟨h.all, ahead⟩
      · cases step
  | distributePlayerGroup manager hgetall fork =>
      simp only [MatchState.next] at step
      split at step
      · next mapId group pending stage =>
          obtain ⟨⟨_, accepted⟩, _, result⟩ := Option.map_eq_some_iff.mp step
          cases accepted with
          | true =>
              cases result
              refine h.of_stage rfl (by rw [stage]; rfl) ?_
              rw [stage]
              exact List.sublist_append_right group pending.flatten
          | false =>
              cases result
              exact h.of_stage rfl (by rw [stage]; rfl) (by rw [stage]; exact .refl _)
      · cases step
  | setWaiting =>
      simp only [MatchState.next] at step
      split at step
      · next stage =>
          cases step
          have ahead := h.ahead
          rw [stage] at ahead
          exact h.setMatchMaker rfl rfl ahead.setMatched_false
      · cases step
  | readStatus =>
      simp only [MatchState.next] at step
      split at step
      · next stage =>
          cases step
          have ahead := h.ahead
          rw [stage] at ahead
          refine h.setMatchMaker rfl rfl ?_
          dsimp only
          split
          · exact ahead.setMatched_false
          · exact ahead.setInvalid
      · cases step
  | nextGroup =>
      simp only [MatchState.next] at step
      split at step
      · next stage =>
          cases step
          exact h.of_stage rfl (by rw [stage]; rfl) (by rw [stage]; exact .refl _)
      · next stage =>
          cases step
          exact h.of_stage rfl (by rw [stage]; rfl) (by rw [stage]; exact .refl _)
      · cases step
  | releaseAndDeleteTickets deletes =>
      simp only [MatchState.next] at step
      split at step
      · next mapId stage =>
          cases step
          refine .of_idle (fun other => ?_) rfl
          dsimp only
          by_cases same : other = mapId
          · subst same
            rw [setMatchMaker_self]
            exact (h.all other).releaseAndDeleteTickets
          · rw [setMatchMaker_ne state same]
            exact h.all other
      · cases step
  | matchCancel ticketId reqUid =>
      cases step
      exact kept rfl rfl
  | loginTakeover newSessKey session =>
      cases step
      exact kept rfl rfl
  | expire ticketId =>
      simp only [MatchState.next] at step
      split at step
      · cases step
        exact kept rfl rfl
      · cases step
  | setInGame ticketId =>
      cases step
      exact kept rfl rfl
  | setSuccess ticketId token =>
      cases step
      exact kept rfl rfl

end MatchState

end ExtractionServer.Matchmaking
