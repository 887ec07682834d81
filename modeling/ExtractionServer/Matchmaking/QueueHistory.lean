import ExtractionServer.Library.Transition
import ExtractionServer.Matchmaking.MatchSearch

/-! The queue over any number of cycles, whatever Redis and the dedicated servers answer. The
order of time lasts, the buckets mirror the queue, and each ticket leaves it once.
-/

namespace ExtractionServer.Matchmaking

open Transition

-----------------------------------------------------------------------------------------
-- The cycle
-----------------------------------------------------------------------------------------

/-- The answers about one group: whether `VerifyAndSetMatchStatus` and then
`DistributePlayerGroup` succeed, and which tickets the re-reads find waiting.
-/
structure GroupOutcome where
  isMatchValid : Bool
  distributed : Bool
  waiting : TicketPtr → Bool

namespace MatchMaker

/-- One iteration of `StartMatchMakeInternal`. -/
def settleGroup (mm : MatchMaker) (outcome : GroupOutcome) (group : TicketVector)
    : MatchMaker :=
  if outcome.isMatchValid then
    if outcome.distributed then mm else group.foldl (·.setMatched · false) mm
  else
    group.foldl (fun mm ptr =>
      if outcome.waiting ptr then mm.setMatched ptr false else mm.setInvalid ptr) mm

def startMatchMakeInternal (mm : MatchMaker) (outcomes : TicketVector → GroupOutcome)
    : MatchMaker :=
  mm.matchedGroups.foldl (fun mm group => mm.settleGroup (outcomes group) group) mm

/-- The cycle up to the clean-up. -/
def matchAndSettle (mm : MatchMaker) (clock : Nat → TimePoint)
    (outcomes : TicketVector → GroupOutcome)
    : MatchMaker :=
  (mm.addNewMatchTickets.findMatchGroup clock).startMatchMakeInternal outcomes

def startMatchMake (mm : MatchMaker) (clock : Nat → TimePoint)
    (outcomes : TicketVector → GroupOutcome)
    : MatchMaker × List String :=
  (mm.matchAndSettle clock outcomes).releaseAndDeleteTickets

end MatchMaker

-----------------------------------------------------------------------------------------
-- Histories
-----------------------------------------------------------------------------------------

/-- A matchmaker with the objects that it has been given and those that it has released. -/
structure QueueState where
  mm : MatchMaker
  added : TicketVector := []
  released : TicketVector := []

inductive QueueAction where
  | addSingleMatchTicket (ptr : TicketPtr) (ticket : MatchTicket)
  | startMatchMake (clock : Nat → TimePoint) (outcomes : TicketVector → GroupOutcome)

namespace QueueState

/-- One call. A new ticket is in an unused object, has fresh flags and an aggression in range,
and starts no earlier than the tickets that wait.
-/
def next (state : QueueState) : QueueAction → Option QueueState
  | .addSingleMatchTicket ptr ticket =>
      let mm := state.mm
      if ptr ∉ mm.tickets ∧ ticket.isMatched = false ∧ ticket.isValid = true
          ∧ ticket.aggression ≤ mm.maxAggression
          ∧ ∀ other ∈ mm.timeSortedTicketVector ++ mm.ticketsToAdd,
            mm.startTime other ≤ ticket.startTime
      then
        some
          { state with
            mm := mm.addSingleMatchTicket ptr ticket
            added := state.added ++ [ptr] }
      else none
  | .startMatchMake clock outcomes =>
      let settled := state.mm.matchAndSettle clock outcomes
      some
        { state with
          mm := (state.mm.startMatchMake clock outcomes).1
          released :=
            state.released ++ settled.timeSortedTicketVector.filter settled.shouldRemove }

end QueueState

def queueSystem (mapId : Int) (maxAggression : Nat) : System QueueState QueueAction :=
  .ofNext (· = { mm := .new mapId maxAggression }) QueueState.next

-----------------------------------------------------------------------------------------
-- Lines
-----------------------------------------------------------------------------------------

namespace MatchMaker

/-- The queue and behind it the new tickets stand in the order of time, none of them marked,
and the buckets mirror the queue.
-/
structure Lined (mm : MatchMaker) : Prop where
  nodup : (mm.timeSortedTicketVector ++ mm.ticketsToAdd).Nodup
  known : ∀ ptr ∈ mm.timeSortedTicketVector ++ mm.ticketsToAdd, ptr ∈ mm.tickets
  sorted : (mm.timeSortedTicketVector ++ mm.ticketsToAdd).Pairwise
    (mm.startTime · ≤ mm.startTime ·)
  range : ∀ ptr ∈ mm.timeSortedTicketVector ++ mm.ticketsToAdd,
    mm.aggression ptr ≤ mm.maxAggression
  unmarked : ∀ ptr ∈ mm.timeSortedTicketVector ++ mm.ticketsToAdd, mm.shouldRemove ptr = false
  size : mm.bucket.length = mm.maxAggression + 1
  bucket : ∀ i, mm.bucket.getD i [] = mm.timeSortedTicketVector.filter (mm.aggression · = i)

theorem Lined.mirrored {mm : MatchMaker} (h : mm.Lined) : mm.Mirrored where
  nodup := h.nodup.of_append_left
  known ptr mem := h.known ptr (List.mem_append_left _ mem)
  sorted := (List.pairwise_append.mp h.sorted).1
  range ptr mem := h.range ptr (List.mem_append_left _ mem)
  size := h.size
  bucket := h.bucket

theorem shouldRemove_eq (mm : MatchMaker) (ptr : TicketPtr)
    : mm.shouldRemove ptr = (mm.isMatched ptr || mm.isInvalid ptr) := by
  unfold shouldRemove MatchMaker.isMatched isInvalid
  cases mm.tickets.lookup ptr <;> rfl

theorem Lined.new (mapId : Int) (maxAggression : Nat)
    : (MatchMaker.new mapId maxAggression).Lined := by
  refine ⟨List.nodup_nil, fun ptr mem => absurd mem List.not_mem_nil, .nil,
    fun ptr mem => absurd mem List.not_mem_nil, fun ptr mem => absurd mem List.not_mem_nil,
    List.length_replicate, fun i => ?_⟩
  simp only [MatchMaker.new, List.getD_eq_getElem?_getD, List.getElem?_replicate]
  split <;> rfl

/-- A new ticket comes last. -/
theorem Lined.addSingleMatchTicket {mm : MatchMaker} (h : mm.Lined) {ptr : TicketPtr}
    {ticket : MatchTicket} (fresh : ptr ∉ mm.tickets) (unmatched : ticket.isMatched = false)
    (valid : ticket.isValid = true) (range : ticket.aggression ≤ mm.maxAggression)
    (last : ∀ other ∈ mm.timeSortedTicketVector ++ mm.ticketsToAdd,
      mm.startTime other ≤ ticket.startTime)
    : (mm.addSingleMatchTicket ptr ticket).Lined := by
  have line : (mm.addSingleMatchTicket ptr ticket).timeSortedTicketVector
      ++ (mm.addSingleMatchTicket ptr ticket).ticketsToAdd
      = mm.timeSortedTicketVector ++ mm.ticketsToAdd ++ [ptr] :=
    (List.append_assoc _ _ _).symm
  have self : (mm.addSingleMatchTicket ptr ticket).tickets.lookup ptr = some ticket :=
    AList.lookup_insert _
  have others : ∀ other ∈ mm.timeSortedTicketVector ++ mm.ticketsToAdd,
      (mm.addSingleMatchTicket ptr ticket).tickets.lookup other = mm.tickets.lookup other :=
    fun other mem => AList.lookup_insert_ne fun same => fresh (same ▸ h.known other mem)
  have split : ∀ {P : TicketPtr → Prop},
      (∀ other ∈ mm.timeSortedTicketVector ++ mm.ticketsToAdd, P other) → P ptr →
      ∀ other ∈ mm.timeSortedTicketVector ++ mm.ticketsToAdd ++ [ptr], P other := by
    intro P old new other mem
    rcases List.mem_append.mp mem with mem | mem
    · exact old other mem
    · rw [List.mem_singleton.mp mem]
      exact new
  constructor
  · rw [line]
    exact h.nodup.append (List.nodup_singleton ptr)
      (List.disjoint_singleton.mpr fun mem => fresh (h.known ptr mem))
  · rw [line]
    exact split (fun other mem => (AList.mem_insert _).mpr (.inr (h.known other mem)))
      ((AList.mem_insert _).mpr (.inl rfl))
  · rw [line, List.pairwise_append]
    refine ⟨h.sorted.imp_of_mem fun first second le => ?_, List.pairwise_singleton _ _,
      fun other mem new isNew => ?_⟩
    · rwa [startTime, startTime, others _ first, others _ second]
    · rw [List.mem_singleton.mp isNew, startTime, startTime, others other mem, self]
      exact last other mem
  · rw [line]
    refine split (fun other mem => ?_) ?_
    · rw [MatchMaker.aggression, others other mem]
      exact h.range other mem
    · rw [MatchMaker.aggression, self]
      exact range
  · rw [line]
    refine split (fun other mem => ?_) ?_
    · rw [MatchMaker.shouldRemove, others other mem]
      exact h.unmarked other mem
    · rw [MatchMaker.shouldRemove, self, Option.any_some, unmatched, valid]
      rfl
  · exact h.size
  · intro i
    refine (h.bucket i).trans (List.filter_congr fun other mem => ?_)
    rw [MatchMaker.aggression, MatchMaker.aggression,
      others other (List.mem_append_left _ mem)]

/-- A bucket gets a ticket at its end. -/
theorem getD_pushBucket {mm : MatchMaker} {bucket : List TicketVector} {ptr : TicketPtr}
    (inside : mm.aggression ptr < bucket.length) (i : Nat)
    : (mm.pushBucket bucket ptr).getD i []
      = bucket.getD i [] ++ [ptr].filter (mm.aggression · = i) := by
  unfold pushBucket
  simp only [List.getD_eq_getElem?_getD]
  by_cases own : mm.aggression ptr = i
  · subst own
    simp [inside]
  · simp [List.getElem?_modify_ne _ _ own, own]

/-- The buckets get the new tickets in their order, by induction on the new tickets. -/
theorem getD_foldl_pushBucket {mm : MatchMaker} {ptrs : TicketVector}
    {bucket : List TicketVector} (inside : ∀ ptr ∈ ptrs, mm.aggression ptr < bucket.length)
    (i : Nat)
    : (ptrs.foldl mm.pushBucket bucket).getD i []
        = bucket.getD i [] ++ ptrs.filter (mm.aggression · = i)
      ∧ (ptrs.foldl mm.pushBucket bucket).length = bucket.length := by
  induction ptrs generalizing bucket with
  | nil => simp
  | cons ptr rest ih =>
      have size : (mm.pushBucket bucket ptr).length = bucket.length := List.length_modify _ _ _
      have insideRest : ∀ other ∈ rest,
          mm.aggression other < (mm.pushBucket bucket ptr).length := by
        intro other mem
        rw [size]
        exact inside other (List.mem_cons_of_mem _ mem)
      obtain ⟨content, length⟩ := ih insideRest
      refine ⟨?_, length.trans size⟩
      rw [List.foldl_cons, content, getD_pushBucket (inside ptr List.mem_cons_self),
        List.append_assoc, ← List.filter_append, List.singleton_append]

/-- The new tickets are in order behind the queue, so sorting and merging append them. -/
theorem Lined.addNewMatchTickets {mm : MatchMaker} (h : mm.Lined)
    : mm.addNewMatchTickets.Lined
      ∧ mm.addNewMatchTickets.timeSortedTicketVector
        = mm.timeSortedTicketVector ++ mm.ticketsToAdd
      ∧ mm.addNewMatchTickets.ticketsToAdd = [] := by
  obtain ⟨_, newSorted, apart⟩ := List.pairwise_append.mp h.sorted
  have sort : mm.ticketsToAdd.mergeSort mm.startsNoLater = mm.ticketsToAdd :=
    List.mergeSort_of_pairwise (newSorted.imp fun le => decide_eq_true le)
  have merge : List.merge mm.timeSortedTicketVector mm.ticketsToAdd mm.startsNoLater
      = mm.timeSortedTicketVector ++ mm.ticketsToAdd :=
    List.merge_of_le fun first second old new => decide_eq_true (apart first old second new)
  have inside : ∀ ptr ∈ mm.ticketsToAdd, mm.aggression ptr < mm.bucket.length := by
    intro ptr mem
    rw [h.size]
    exact Nat.lt_succ_of_le (h.range ptr (List.mem_append_right _ mem))
  unfold MatchMaker.addNewMatchTickets
  split
  · next none =>
      have none := List.isEmpty_iff.mp none
      exact ⟨h, by rw [none, List.append_nil], none⟩
  · rw [sort]
    dsimp only
    rw [merge]
    refine ⟨⟨?_, ?_, ?_, ?_, ?_, ?_, fun i => ?_⟩, rfl, rfl⟩
    · rw [List.append_nil]
      exact h.nodup
    · rw [List.append_nil]
      exact h.known
    · rw [List.append_nil]
      exact h.sorted
    · rw [List.append_nil]
      exact h.range
    · rw [List.append_nil]
      exact h.unmarked
    · exact (getD_foldl_pushBucket inside 0).2.trans h.size
    · rw [(getD_foldl_pushBucket inside i).1, h.bucket, List.filter_append]
      rfl

-----------------------------------------------------------------------------------------
-- The search marks the members of its groups
-----------------------------------------------------------------------------------------

/-- A visit changes nothing, or it accepts a group around an unmatched pivot. -/
theorem visit_cases (clock : Nat → TimePoint) (search : Search) (pivot : TicketPtr)
    : (search.visit clock pivot).mm = search.mm
      ∨ search.mm.isMatched pivot = false
        ∧ ∃ diff ≤ 1, (search.visit clock pivot).mm
          = search.mm.accept (search.mm.gatherGroup pivot diff) := by
  unfold Search.visit
  split
  · exact .inl rfl
  · next ticket found =>
      split
      · exact .inl rfl
      · next unmatched =>
          split
          · exact .inl rfl
          · dsimp only
            split
            · have near := (matchTerms_bounds (ticket.waitTimeSeconds (clock search.reads))).1
              refine .inr ⟨?_, _, near, ?_⟩
              · rw [MatchMaker.isMatched, found]
                exact Bool.eq_false_iff.mpr unmatched
              · rw [SameQueue.matchedGroups_setMatched_foldl]
                rfl
            · exact .inl rfl

/-- At any times, the search marks the members of its groups. -/
theorem Mirrored.marked_findMatchGroup {mm : MatchMaker} (h : mm.Mirrored)
    (fresh : ∀ ptr ∈ mm.timeSortedTicketVector, mm.isMatched ptr = false)
    (clock : Nat → TimePoint)
    : Progress mm (mm.findMatchGroup clock) ∧ Marked mm (mm.findMatchGroup clock) := by
  refine List.foldlRecOn mm.timeSortedTicketVector (Search.visit clock)
    (motive := fun search => Progress mm search.mm ∧ Marked mm search.mm) ?_ ?_
  · exact ⟨.forgetGroups mm, .none fresh⟩
  · rintro search ⟨progress, marked⟩ pivot queued
    rcases visit_cases clock search pivot with same | ⟨unmatched, diff, near, accepted⟩
    · rw [same]
      exact ⟨progress, marked⟩
    · rw [accepted]
      exact ⟨progress.trans (.accept _ _), marked.accept h progress queued unmatched near⟩

end MatchMaker

-----------------------------------------------------------------------------------------
-- The answers decide who leaves
-----------------------------------------------------------------------------------------

/-- What an answer does to the flags of a member. -/
def GroupOutcome.settle (outcome : GroupOutcome) (ptr : TicketPtr) (ticket : MatchTicket)
    : MatchTicket :=
  if outcome.isMatchValid then
    if outcome.distributed then ticket else { ticket with isMatched := false }
  else if outcome.waiting ptr then { ticket with isMatched := false }
  else { ticket with isValid := false }

/-- The group of a ticket has been allocated, or its commit has failed and the ticket is not
waiting.
-/
def GroupOutcome.Drops (outcome : GroupOutcome) (ptr : TicketPtr) : Prop :=
  outcome.isMatchValid = true ∧ outcome.distributed = true
  ∨ outcome.isMatchValid = false ∧ outcome.waiting ptr = false

namespace MatchMaker

/-- Changing members one by one changes each of them once, by induction on the group. -/
theorem lookup_foldl_adjust {f : MatchMaker → TicketPtr → MatchMaker}
    {g : TicketPtr → MatchTicket → MatchTicket}
    (adjusts : ∀ mm ptr, (f mm ptr).tickets = mm.tickets.adjust ptr (g ptr))
    {group : TicketVector} (nodup : group.Nodup) (mm : MatchMaker) (ptr : TicketPtr)
    : (group.foldl f mm).tickets.lookup ptr
      = if ptr ∈ group then (mm.tickets.lookup ptr).map (g ptr)
        else mm.tickets.lookup ptr := by
  induction group generalizing mm with
  | nil => rfl
  | cons head rest ih =>
      obtain ⟨first, nodup⟩ := List.nodup_cons.mp nodup
      rw [List.foldl_cons, ih nodup, adjusts]
      by_cases same : ptr = head
      · subst same
        rw [if_neg first, if_pos List.mem_cons_self, Table.lookup_adjust_self]
      · rw [Table.lookup_adjust_ne same]
        simp only [List.mem_cons, same, false_or]

theorem lookup_settleGroup (outcome : GroupOutcome) {group : TicketVector}
    (nodup : group.Nodup) (mm : MatchMaker) (ptr : TicketPtr)
    : (mm.settleGroup outcome group).tickets.lookup ptr
      = if ptr ∈ group then (mm.tickets.lookup ptr).map (outcome.settle ptr)
        else mm.tickets.lookup ptr := by
  unfold settleGroup
  by_cases valid : outcome.isMatchValid = true
  · rw [if_pos valid]
    by_cases distributed : outcome.distributed = true
    · have kept : outcome.settle ptr = id := by
        funext ticket
        rw [GroupOutcome.settle, if_pos valid, if_pos distributed]
        rfl
      rw [if_pos distributed, kept, Option.map_id, id, ite_self]
    · rw [if_neg distributed]
      refine lookup_foldl_adjust (g := outcome.settle) (fun mm ptr => ?_) nodup mm ptr
      have settles : outcome.settle ptr = ({ · with isMatched := false }) := by
        funext ticket
        rw [GroupOutcome.settle, if_pos valid, if_neg distributed]
      rw [settles]
      rfl
  · rw [if_neg valid]
    refine lookup_foldl_adjust (g := outcome.settle) (fun mm ptr => ?_) nodup mm ptr
    by_cases waiting : outcome.waiting ptr = true
    · have settles : outcome.settle ptr = ({ · with isMatched := false }) := by
        funext ticket
        rw [GroupOutcome.settle, if_neg valid, if_pos waiting]
      rw [if_pos waiting, settles]
      rfl
    · have settles : outcome.settle ptr = ({ · with isValid := false }) := by
        funext ticket
        rw [GroupOutcome.settle, if_neg valid, if_neg waiting]
      rw [if_neg waiting, settles]
      rfl

/-- Settling groups without common tickets settles each ticket with its own group, by
induction on the groups.
-/
theorem lookup_settleGroups (outcomes : TicketVector → GroupOutcome)
    {groups : List TicketVector} (disjoint : groups.flatten.Nodup) (mm : MatchMaker)
    (ptr : TicketPtr)
    : (ptr ∉ groups.flatten →
        (groups.foldl (fun mm group => mm.settleGroup (outcomes group) group) mm).tickets.lookup
          ptr = mm.tickets.lookup ptr)
      ∧ ∀ group ∈ groups, ptr ∈ group →
        (groups.foldl (fun mm group => mm.settleGroup (outcomes group) group) mm).tickets.lookup
          ptr = (mm.tickets.lookup ptr).map ((outcomes group).settle ptr) := by
  induction groups generalizing mm with
  | nil => exact ⟨fun _ => rfl, fun group mem => absurd mem List.not_mem_nil⟩
  | cons head rest ih =>
      rw [List.flatten_cons] at disjoint ⊢
      have own := lookup_settleGroup (outcomes head) disjoint.of_append_left mm ptr
      obtain ⟨outside, inside⟩ := ih disjoint.of_append_right
        (mm.settleGroup (outcomes head) head)
      have apart := List.disjoint_of_nodup_append disjoint
      refine ⟨fun other => ?_, fun group mem member => ?_⟩
      · rw [List.mem_append, not_or] at other
        rw [List.foldl_cons, outside other.2, own, if_neg other.1]
      · rw [List.foldl_cons]
        rcases List.mem_cons.mp mem with rfl | mem
        · rw [outside (apart member), own, if_pos member]
        · have elsewhere : ptr ∉ head :=
            fun here => apart here (List.mem_flatten.mpr ⟨group, mem, member⟩)
          rw [inside group mem member, own, if_neg elsewhere]

theorem SameOrder.settleGroup (mm : MatchMaker) (outcome : GroupOutcome)
    (group : TicketVector)
    : SameOrder mm (mm.settleGroup outcome group) := by
  unfold MatchMaker.settleGroup
  split
  · split
    · exact .refl mm
    · exact Loops.foldl_related .refl .trans (fun mm ptr _ => .setMatched mm ptr false) mm
  · refine Loops.foldl_related .refl .trans (fun mm ptr _ => ?_) mm
    split
    · exact .setMatched mm ptr false
    · exact .setInvalid mm ptr

theorem SameOrder.startMatchMakeInternal (mm : MatchMaker)
    (outcomes : TicketVector → GroupOutcome)
    : SameOrder mm (mm.startMatchMakeInternal outcomes) :=
  Loops.foldl_related .refl .trans
    (fun mm group _ => .settleGroup mm (outcomes group) group) mm

/-- A marked ticket is removed exactly when the answers drop it. -/
theorem removed_settle_iff (outcome : GroupOutcome) (ptr : TicketPtr) {ticket : MatchTicket}
    (matched : ticket.isMatched = true) (valid : ticket.isValid = true)
    : ((outcome.settle ptr ticket).isMatched || !(outcome.settle ptr ticket).isValid) = true
      ↔ outcome.Drops ptr := by
  unfold GroupOutcome.settle GroupOutcome.Drops
  cases outcome.isMatchValid <;> cases outcome.distributed <;> cases outcome.waiting ptr <;>
    simp [matched, valid]

/-- The cycle keeps the line, and marks for removal those whom the answers drop. -/
theorem Lined.matchAndSettle {mm : MatchMaker} (h : mm.Lined) (clock : Nat → TimePoint)
    (outcomes : TicketVector → GroupOutcome)
    : SameOrder mm.addNewMatchTickets (mm.matchAndSettle clock outcomes)
      ∧ ∀ ptr ∈ mm.addNewMatchTickets.timeSortedTicketVector,
          (mm.matchAndSettle clock outcomes).shouldRemove ptr = true
          ↔ ∃ group ∈ (mm.addNewMatchTickets.findMatchGroup clock).matchedGroups,
              ptr ∈ group ∧ (outcomes group).Drops ptr := by
  obtain ⟨lined, _, _⟩ := h.addNewMatchTickets
  have unmarked : ∀ ptr ∈ mm.addNewMatchTickets.timeSortedTicketVector,
      mm.addNewMatchTickets.isMatched ptr = false
      ∧ mm.addNewMatchTickets.isInvalid ptr = false := by
    intro ptr mem
    have kept := lined.unmarked ptr (List.mem_append_left _ mem)
    rwa [shouldRemove_eq, Bool.or_eq_false_iff] at kept
  obtain ⟨progress, marked⟩ := lined.mirrored.marked_findMatchGroup
    (fun ptr mem => (unmarked ptr mem).1) clock
  refine ⟨progress.toSameOrder.trans (.startMatchMakeInternal _ outcomes), fun ptr mem => ?_⟩
  obtain ⟨outside, inside⟩ := lookup_settleGroups outcomes marked.disjoint
    (mm.addNewMatchTickets.findMatchGroup clock) ptr
  have valid : (mm.addNewMatchTickets.findMatchGroup clock).isInvalid ptr = false := by
    rw [progress.isInvalid]
    exact (unmarked ptr mem).2
  by_cases grouped : ptr ∈ (mm.addNewMatchTickets.findMatchGroup clock).matchedGroups.flatten
  · have matched := (marked.marked ptr mem).mpr grouped
    have known := (progress.mem ptr).mpr (lined.known ptr (List.mem_append_left _ mem))
    obtain ⟨ticket, found⟩ := Table.exists_lookup_of_mem known
    rw [MatchMaker.isMatched, found, Option.any_some] at matched
    rw [MatchMaker.isInvalid, found, Option.any_some, Bool.not_eq_false'] at valid
    have settled : ∀ group ∈ (mm.addNewMatchTickets.findMatchGroup clock).matchedGroups,
        ptr ∈ group → ((mm.matchAndSettle clock outcomes).shouldRemove ptr = true
          ↔ (outcomes group).Drops ptr) := by
      intro group isGroup member
      rw [shouldRemove, MatchMaker.matchAndSettle, startMatchMakeInternal,
        inside group isGroup member, found]
      exact removed_settle_iff (outcomes group) ptr matched valid
    constructor
    · intro removed
      obtain ⟨group, isGroup, member⟩ := List.mem_flatten.mp grouped
      exact ⟨group, isGroup, member, (settled group isGroup member).mp removed⟩
    · rintro ⟨group, isGroup, member, drops⟩
      exact (settled group isGroup member).mpr drops
  · have free : (mm.addNewMatchTickets.findMatchGroup clock).isMatched ptr = false :=
      Bool.eq_false_iff.mpr fun matched => grouped ((marked.marked ptr mem).mp matched)
    have kept : (mm.matchAndSettle clock outcomes).shouldRemove ptr = false := by
      have same : (mm.matchAndSettle clock outcomes).shouldRemove ptr
          = (mm.addNewMatchTickets.findMatchGroup clock).shouldRemove ptr := by
        rw [shouldRemove, MatchMaker.matchAndSettle, startMatchMakeInternal, outside grouped]
        rfl
      rw [same, shouldRemove_eq, free, valid]
      rfl
    rw [kept]
    refine ⟨fun removed => absurd removed Bool.false_ne_true, ?_⟩
    rintro ⟨group, isGroup, member, _⟩
    exact absurd (List.mem_flatten.mpr ⟨group, isGroup, member⟩) grouped

/-- The clean-up leaves the tickets that are not marked, in their order. -/
theorem Mirrored.lined_releaseAndDeleteTickets {mm : MatchMaker} (h : mm.Mirrored)
    (none : mm.ticketsToAdd = [])
    : mm.releaseAndDeleteTickets.1.Lined := by
  have line : mm.releaseAndDeleteTickets.1.timeSortedTicketVector
      ++ mm.releaseAndDeleteTickets.1.ticketsToAdd
      = mm.timeSortedTicketVector.filter (!mm.shouldRemove ·) := by
    rw [← List.append_nil (mm.timeSortedTicketVector.filter _), ← none]
    rfl
  have kept : ∀ ptr ∈ mm.timeSortedTicketVector.filter (!mm.shouldRemove ·),
      mm.releaseAndDeleteTickets.1.tickets.lookup ptr = mm.tickets.lookup ptr := by
    intro ptr mem
    refine lookup_foldl_erase (fun removed => ?_) mm.tickets
    have stays := (List.mem_filter.mp mem).2
    rw [(List.mem_filter.mp removed).2] at stays
    cases stays
  have inBucket : ∀ i, mm.releaseAndDeleteTickets.1.bucket.getD i []
      = (mm.bucket.getD i []).filter (!mm.shouldRemove ·) := by
    intro i
    simp only [releaseAndDeleteTickets, List.getD_eq_getElem?_getD, List.getElem?_map]
    cases mm.bucket[i]? <;> rfl
  constructor
  · rw [line]
    exact h.nodup.filter _
  · rw [line]
    intro ptr mem
    obtain ⟨ticket, found⟩ :=
      Table.exists_lookup_of_mem (h.known ptr (List.mem_of_mem_filter mem))
    exact Table.mem_of_lookup ((kept ptr mem).trans found)
  · rw [line]
    refine (h.sorted.filter _).imp_of_mem fun first second le => ?_
    rwa [startTime, startTime, kept _ first, kept _ second]
  · rw [line]
    intro ptr mem
    rw [MatchMaker.aggression, kept ptr mem]
    exact h.range ptr (List.mem_of_mem_filter mem)
  · rw [line]
    intro ptr mem
    rw [MatchMaker.shouldRemove, kept ptr mem]
    exact (Bool.not_eq_true' _).mp (List.mem_filter.mp mem).2
  · exact (List.length_map _).trans h.size
  · intro i
    rw [inBucket, h.bucket, List.filter_filter]
    have here : mm.releaseAndDeleteTickets.1.timeSortedTicketVector
        = mm.timeSortedTicketVector.filter (!mm.shouldRemove ·) := rfl
    rw [here, List.filter_filter]
    refine List.filter_congr fun ptr mem => ?_
    rw [Bool.and_comm]
    by_cases removed : mm.shouldRemove ptr = true
    · rw [removed, Bool.not_true, Bool.and_false, Bool.and_false]
    · have stays : ptr ∈ mm.timeSortedTicketVector.filter (!mm.shouldRemove ·) :=
        List.mem_filter.mpr ⟨mem, by simpa using removed⟩
      rw [MatchMaker.aggression, MatchMaker.aggression, kept ptr stays]

end MatchMaker

-----------------------------------------------------------------------------------------
-- Every run
-----------------------------------------------------------------------------------------

namespace QueueState

/-- The line stands, and what has been added is released or in line, each object as often as
it was added.
-/
structure Coherent (state : QueueState) : Prop where
  lined : state.mm.Lined
  conserved : state.added.Perm
    (state.released ++ (state.mm.timeSortedTicketVector ++ state.mm.ticketsToAdd))

/-- What a cycle does: who stays keeps its place before and behind the others, and who is
released was in a group whose answers drop it.
-/
structure Cycle (clock : Nat → TimePoint) (outcomes : TicketVector → GroupOutcome)
    (state after : QueueState)
    : Prop where
  order : after.mm.timeSortedTicketVector.Sublist
    (state.mm.timeSortedTicketVector ++ state.mm.ticketsToAdd)
  merged : after.mm.ticketsToAdd = []
  released : ∃ newly, after.released = state.released ++ newly
    ∧ ∀ ptr ∈ newly,
      ∃ group ∈ (state.mm.addNewMatchTickets.findMatchGroup clock).matchedGroups,
        ptr ∈ group ∧ (outcomes group).Drops ptr

/-- One cycle. -/
theorem Coherent.startMatchMake {state after : QueueState} (h : state.Coherent)
    {clock : Nat → TimePoint} {outcomes : TicketVector → GroupOutcome}
    (step : state.next (.startMatchMake clock outcomes) = some after)
    : after.Coherent ∧ Cycle clock outcomes state after := by
  cases step
  obtain ⟨lined, queue, none⟩ := h.lined.addNewMatchTickets
  obtain ⟨same, removed⟩ := h.lined.matchAndSettle clock outcomes
  have settled := lined.mirrored.of_sameOrder same
  have none := same.toAdd.trans none
  have queue := same.queue.trans queue
  have rest : (state.mm.startMatchMake clock outcomes).1.timeSortedTicketVector
      = (state.mm.timeSortedTicketVector ++ state.mm.ticketsToAdd).filter
        (!(state.mm.matchAndSettle clock outcomes).shouldRemove ·) := by
    rw [← queue]
    rfl
  have merged : (state.mm.startMatchMake clock outcomes).1.ticketsToAdd = [] := none
  refine ⟨⟨settled.lined_releaseAndDeleteTickets none, ?_⟩, ?_, merged, _, rfl, ?_⟩
  · dsimp only
    rw [merged, rest, queue, List.append_nil, List.append_assoc]
    exact h.conserved.trans ((List.filter_append_perm _ _).symm.append_left _)
  · dsimp only
    rw [rest]
    exact List.filter_sublist
  · intro ptr mem
    obtain ⟨mem, drops⟩ := List.mem_filter.mp mem
    rw [same.queue] at mem
    exact (removed ptr mem).mp drops

/-- One step. -/
theorem Coherent.next {state after : QueueState} (h : state.Coherent) {action : QueueAction}
    (step : state.next action = some after)
    : after.Coherent := by
  cases action with
  | addSingleMatchTicket ptr ticket =>
      simp only [QueueState.next] at step
      split at step
      · next allowed =>
          obtain ⟨fresh, unmatched, valid, range, last⟩ := allowed
          cases step
          refine ⟨h.lined.addSingleMatchTicket fresh unmatched valid range last, ?_⟩
          dsimp only [MatchMaker.addSingleMatchTicket]
          rw [← List.append_assoc, ← List.append_assoc]
          refine List.Perm.append_right [ptr] ?_
          rw [List.append_assoc]
          exact h.conserved
      · cases step
  | startMatchMake clock outcomes => exact (h.startMatchMake step).1

/-- However many tickets and cycles a matchmaker has seen, its queue is in order and mirrored,
nobody in it is marked, and each ticket that was added waits or has been released once; and
the next cycle keeps the order and releases only whom the answers drop.
-/
theorem queue_coherent {mapId : Int} {maxAggression : Nat} {state : QueueState}
    (reached : (queueSystem mapId maxAggression).Reachable state)
    : state.Coherent
      ∧ ∀ clock outcomes after, state.next (.startMatchMake clock outcomes) = some after →
          Cycle clock outcomes state after := by
  have coherent : (queueSystem mapId maxAggression).Inductive Coherent := by
    refine ⟨?_, fun before action after h step => h.next step⟩
    rintro state rfl
    exact ⟨.new mapId maxAggression, .rfl⟩
  have h := coherent.reachable reached
  exact ⟨h, fun clock outcomes after step => (h.startMatchMake step).2⟩

/-- A ticket that starts at zero. -/
def earlyTicket (ticketId : String) (uId : Int) (aggression : Nat) : MatchTicket where
  ticketId
  uId
  aggression
  mapId := 1
  characterType := 0
  startTime := 0

/-- Two tickets of one aggression and one far from them. -/
def threeTickets : QueueState where
  mm :=
    (((MatchMaker.new 1 10).addSingleMatchTicket 1 (earlyTicket "ticket_a" 1 5)
      ).addSingleMatchTicket 2 (earlyTicket "ticket_b" 2 5)
      ).addSingleMatchTicket 3 (earlyTicket "ticket_c" 3 9)
  added := [1, 2, 3]

/-- The first group cannot be committed as its second ticket has been cancelled; the other one
goes to a process.
-/
def mixedOutcomes (group : TicketVector) : GroupOutcome where
  isMatchValid := group = [3]
  distributed := true
  waiting ptr := ptr = 1

/-- The cancelled ticket and the one that is allocated have left, and the first one waits. -/
theorem threeTickets_coherent
    : ∃ after, threeTickets.next (.startMatchMake (fun _ => 61000000000) mixedOutcomes)
        = some after
      ∧ after.Coherent
      ∧ after.mm.timeSortedTicketVector = [1] ∧ after.released = [2, 3] := by
  have reached : (queueSystem 1 10).Reachable threeTickets := by
    have run := System.Run.of_replay (· = { mm := .new 1 10 }) QueueState.next
      (fun _ _ _ => true)
      [.addSingleMatchTicket 1 (earlyTicket "ticket_a" 1 5),
        .addSingleMatchTicket 2 (earlyTicket "ticket_b" 2 5),
        .addSingleMatchTicket 3 (earlyTicket "ticket_c" 3 9)]
      { mm := .new 1 10 } { mm := .new 1 10 } (by decide)
    exact run.of_restrict.reachable (.initial rfl)
  have joined : threeTickets.mm.addNewMatchTickets
      = { threeTickets.mm with
          ticketsToAdd := []
          bucket := [1, 2, 3].foldl threeTickets.mm.pushBucket threeTickets.mm.bucket
          timeSortedTicketVector := [1, 2, 3] } := by
    have sorted : [1, 2, 3].mergeSort threeTickets.mm.startsNoLater = [1, 2, 3] :=
      List.mergeSort_of_pairwise (by decide)
    have added : threeTickets.mm.ticketsToAdd = [1, 2, 3] := rfl
    have queued : threeTickets.mm.timeSortedTicketVector = [] := rfl
    simp only [MatchMaker.addNewMatchTickets, added, sorted, queued, List.nil_merge]
    rfl
  have step : (queueSystem 1 10).step threeTickets
      (.startMatchMake (fun _ => 61000000000) mixedOutcomes) _ := rfl
  refine ⟨_, step, (queue_coherent (reached.step step)).1, ?_, ?_⟩
  · dsimp only [MatchMaker.startMatchMake, MatchMaker.matchAndSettle]
    rw [joined]
    decide +kernel
  · dsimp only [MatchMaker.matchAndSettle]
    rw [joined]
    decide +kernel

end QueueState

end ExtractionServer.Matchmaking
