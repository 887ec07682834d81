import ExtractionServer.Library.Loops
import ExtractionServer.Matchmaking.MatchQueue

/-! What the search for groups finds at one fixed time: sound groups, as many as possible, and
the same ones that trying every pivot would find.
-/

namespace ExtractionServer.Matchmaking

namespace MatchMaker

-----------------------------------------------------------------------------------------
-- The terms of a pivot
-----------------------------------------------------------------------------------------

/-- The wait time of a queued ticket. -/
def waitTimeSeconds (mm : MatchMaker) (now : TimePoint) (ptr : TicketPtr) : Int :=
  ((now : Int) - mm.startTime ptr).tdiv 1000000000

def allowedDiff (mm : MatchMaker) (now : TimePoint) (ptr : TicketPtr) : Nat :=
  (matchTerms (mm.waitTimeSeconds now ptr)).1

def targetMinPlayers (mm : MatchMaker) (now : TimePoint) (ptr : TicketPtr) : Nat :=
  (matchTerms (mm.waitTimeSeconds now ptr)).2

/-- Aggressions that differ by `diff` at most. -/
def Within (diff a b : Nat) : Prop := a ≤ b + diff ∧ b ≤ a + diff

instance (diff a b : Nat) : Decidable (Within diff a b) := inferInstanceAs (Decidable (_ ∧ _))

/-- The unmatched tickets of the queue within a difference from a ticket. -/
def unmatchedWithin (mm : MatchMaker) (ptr : TicketPtr) (diff : Nat) : TicketVector :=
  mm.timeSortedTicketVector.filter fun other =>
    !mm.isMatched other && decide (Within diff (mm.aggression other) (mm.aggression ptr))

theorem mem_unmatchedWithin {mm : MatchMaker} {ptr other : TicketPtr} {diff : Nat}
    : other ∈ mm.unmatchedWithin ptr diff
      ↔ other ∈ mm.timeSortedTicketVector ∧ mm.isMatched other = false
        ∧ Within diff (mm.aggression other) (mm.aggression ptr) := by
  simp only [unmatchedWithin, List.mem_filter, Bool.and_eq_true, Bool.not_eq_true',
    decide_eq_true_eq]

theorem matchTerms_bounds (waitTime : Int)
    : (matchTerms waitTime).1 ≤ 1 ∧ 1 ≤ (matchTerms waitTime).2
      ∧ (matchTerms waitTime).2 ≤ 4 := by
  unfold matchTerms
  split_ifs <;> decide

/-- Who has waited longer may look farther and needs fewer players. -/
theorem matchTerms_mono {shorter longer : Int} (le : shorter ≤ longer)
    : (matchTerms shorter).1 ≤ (matchTerms longer).1
      ∧ (matchTerms longer).2 ≤ (matchTerms shorter).2 := by
  unfold matchTerms
  split_ifs <;> first | decide | omega

theorem waitTimeSeconds_mono {mm : MatchMaker} (now : TimePoint) {first second : TicketPtr}
    (le : mm.startTime first ≤ mm.startTime second)
    : mm.waitTimeSeconds now second ≤ mm.waitTimeSeconds now first := by
  refine Int.tdiv_le_tdiv (by decide) ?_
  have := Int.ofNat_le.mpr le
  omega

-----------------------------------------------------------------------------------------
-- Queues and their mirrors
-----------------------------------------------------------------------------------------

/-- A queue in the order of time, which the buckets mirror. -/
structure Mirrored (mm : MatchMaker) : Prop where
  nodup : mm.timeSortedTicketVector.Nodup
  known : ∀ ptr ∈ mm.timeSortedTicketVector, ptr ∈ mm.tickets
  sorted : mm.timeSortedTicketVector.Pairwise (mm.startTime · ≤ mm.startTime ·)
  range : ∀ ptr ∈ mm.timeSortedTicketVector, mm.aggression ptr ≤ mm.maxAggression
  size : mm.bucket.length = mm.maxAggression + 1
  bucket : ∀ i, mm.bucket.getD i [] = mm.timeSortedTicketVector.filter (mm.aggression · = i)

theorem Mirrored.toBucketed {mm : MatchMaker} (h : mm.Mirrored) : mm.Bucketed where
  nodup i := by
    rw [h.bucket]
    exact h.nodup.filter _
  aggression i ptr mem := by
    rw [h.bucket] at mem
    exact of_decide_eq_true (List.mem_filter.mp mem).2

theorem Mirrored.mem_unmatchedAt {mm : MatchMaker} (h : mm.Mirrored) {i : Nat}
    {ptr : TicketPtr}
    : ptr ∈ mm.unmatchedAt i
      ↔ ptr ∈ mm.timeSortedTicketVector ∧ mm.aggression ptr = i
        ∧ mm.isMatched ptr = false := by
  unfold unmatchedAt
  rw [h.bucket]
  simp only [List.mem_filter, decide_eq_true_eq, Bool.not_eq_true', and_assoc]

theorem Mirrored.nodup_unmatchedWithin {mm : MatchMaker} (h : mm.Mirrored) (ptr : TicketPtr)
    (diff : Nat)
    : (mm.unmatchedWithin ptr diff).Nodup :=
  h.nodup.filter _

/-- The candidates of an unmatched pivot are the unmatched tickets within its difference. -/
theorem Mirrored.perm_candidates {mm : MatchMaker} (h : mm.Mirrored) {pivot : TicketPtr}
    (queued : pivot ∈ mm.timeSortedTicketVector) (unmatched : mm.isMatched pivot = false)
    {diff : Nat} (near : diff ≤ 1)
    : (mm.candidates pivot diff).Perm (mm.unmatchedWithin pivot diff) := by
  refine (List.perm_ext_iff_of_nodup (h.toBucketed.nodup_candidates pivot diff)
    (h.nodup_unmatchedWithin pivot diff)).mpr fun ptr => ?_
  rw [mem_candidates, mem_unmatchedWithin]
  simp only [h.mem_unmatchedAt, Within]
  constructor
  · rintro (rfl | ⟨_, mem, level, free⟩ | ⟨wide, ⟨_, mem, level, free⟩ | ⟨low, mem, level, free⟩⟩)
    · exact ⟨queued, unmatched, by omega, by omega⟩
    · exact ⟨mem, free, by omega, by omega⟩
    · exact ⟨mem, free, by omega, by omega⟩
    · exact ⟨mem, free, by omega, by omega⟩
  · rintro ⟨mem, free, upper, lower⟩
    have range := h.range ptr mem
    by_cases same : ptr = pivot
    · exact .inl same
    · rcases Nat.lt_trichotomy (mm.aggression ptr) (mm.aggression pivot) with below | own | above
      · exact .inr (.inr ⟨by omega, .inr ⟨by omega, mem, by omega, free⟩⟩)
      · exact .inr (.inl ⟨same, mem, own, free⟩)
      · exact .inr (.inr ⟨by omega, .inl ⟨by omega, mem, by omega, free⟩⟩)

/-- A group takes everyone within the difference, up to four. -/
theorem Mirrored.length_gatherGroup {mm : MatchMaker} (h : mm.Mirrored) {pivot : TicketPtr}
    (queued : pivot ∈ mm.timeSortedTicketVector) (unmatched : mm.isMatched pivot = false)
    {diff : Nat} (near : diff ≤ 1)
    : (mm.gatherGroup pivot diff).length = min 4 (mm.unmatchedWithin pivot diff).length := by
  rw [gatherGroup_eq_take, List.length_take,
    (h.perm_candidates queued unmatched near).length_eq]

/-- The members of a group. -/
theorem Mirrored.mem_gatherGroup {mm : MatchMaker} (h : mm.Mirrored) {pivot : TicketPtr}
    (queued : pivot ∈ mm.timeSortedTicketVector) (unmatched : mm.isMatched pivot = false)
    {diff : Nat} (near : diff ≤ 1) {ptr : TicketPtr} (mem : ptr ∈ mm.gatherGroup pivot diff)
    : ptr ∈ mm.timeSortedTicketVector ∧ mm.isMatched ptr = false
      ∧ Within diff (mm.aggression ptr) (mm.aggression pivot) := by
  rw [gatherGroup_eq_take] at mem
  exact mem_unmatchedWithin.mp
    ((h.perm_candidates queued unmatched near).mem_iff.mp (List.mem_of_mem_take mem))

/-- A group starts with its pivot. -/
theorem exists_gatherGroup_eq_cons (mm : MatchMaker) (pivot : TicketPtr) (diff : Nat)
    : ∃ rest, mm.gatherGroup pivot diff = pivot :: rest := by
  rw [gatherGroup_eq_take]
  unfold candidates
  dsimp only
  split
  · exact ⟨_, rfl⟩
  · exact ⟨_, rfl⟩

-----------------------------------------------------------------------------------------
-- Marks accumulate
-----------------------------------------------------------------------------------------

/-- The same queue in the same order. -/
structure SameOrder (before after : MatchMaker) : Prop extends SameQueue before after where
  maxAggression : after.maxAggression = before.maxAggression
  startTime : after.startTime = before.startTime

/-- The flag `isValid` of a ticket is down. -/
def isInvalid (mm : MatchMaker) (ptr : TicketPtr) : Bool :=
  (mm.tickets.lookup ptr).any (!·.isValid)

/-- The same queue, with at least the same tickets matched. -/
structure Progress (before after : MatchMaker) : Prop extends SameOrder before after where
  isInvalid : after.isInvalid = before.isInvalid
  isMatched : ∀ ptr, before.isMatched ptr = true → after.isMatched ptr = true

namespace SameOrder

theorem refl (mm : MatchMaker) : SameOrder mm mm := ⟨.refl mm, rfl, rfl⟩

theorem trans {before middle after : MatchMaker}
    (first : SameOrder before middle) (second : SameOrder middle after)
    : SameOrder before after :=
  ⟨first.toSameQueue.trans second.toSameQueue,
    second.maxAggression.trans first.maxAggression, second.startTime.trans first.startTime⟩

/-- A change of the flags of one ticket. -/
theorem of_adjust (mm : MatchMaker) (ptr : TicketPtr) {f : MatchTicket → MatchTicket}
    (ticketId : ∀ ticket, (f ticket).ticketId = ticket.ticketId)
    (aggression : ∀ ticket, (f ticket).aggression = ticket.aggression)
    (startTime : ∀ ticket, (f ticket).startTime = ticket.startTime)
    : SameOrder mm { mm with tickets := mm.tickets.adjust ptr f } := by
  refine ⟨.of_adjust mm ptr ticketId aggression, rfl, ?_⟩
  funext other
  by_cases same : other = ptr
  · subst same
    cases found : mm.tickets.lookup other <;> simp [MatchMaker.startTime, found, startTime]
  · simp [MatchMaker.startTime, Table.lookup_adjust_ne same]

theorem setMatched (mm : MatchMaker) (ptr : TicketPtr) (isMatched : Bool)
    : SameOrder mm (mm.setMatched ptr isMatched) :=
  .of_adjust mm ptr (fun _ => rfl) (fun _ => rfl) fun _ => rfl

theorem setInvalid (mm : MatchMaker) (ptr : TicketPtr) : SameOrder mm (mm.setInvalid ptr) :=
  .of_adjust mm ptr (fun _ => rfl) (fun _ => rfl) fun _ => rfl

end SameOrder

namespace Progress

theorem refl (mm : MatchMaker) : Progress mm mm := ⟨.refl mm, rfl, fun _ => id⟩

theorem trans {before middle after : MatchMaker}
    (first : Progress before middle) (second : Progress middle after)
    : Progress before after :=
  ⟨first.toSameOrder.trans second.toSameOrder, second.isInvalid.trans first.isInvalid,
    fun ptr matched => second.isMatched ptr (first.isMatched ptr matched)⟩

end Progress

theorem isMatched_setMatched_self {mm : MatchMaker} {ptr : TicketPtr}
    (known : ptr ∈ mm.tickets) (isMatched : Bool)
    : (mm.setMatched ptr isMatched).isMatched ptr = isMatched := by
  obtain ⟨ticket, found⟩ := Table.exists_lookup_of_mem known
  simp [MatchMaker.isMatched, setMatched, found]

theorem isMatched_setMatched_ne (mm : MatchMaker) {ptr other : TicketPtr} (ne : other ≠ ptr)
    (isMatched : Bool)
    : (mm.setMatched ptr isMatched).isMatched other = mm.isMatched other := by
  simp [MatchMaker.isMatched, setMatched, Table.lookup_adjust_ne ne]

theorem isInvalid_setMatched (mm : MatchMaker) (ptr : TicketPtr) (isMatched : Bool)
    : (mm.setMatched ptr isMatched).isInvalid = mm.isInvalid := by
  funext other
  by_cases same : other = ptr
  · subst same
    cases found : mm.tickets.lookup other <;> simp [isInvalid, setMatched, found]
  · simp [isInvalid, setMatched, Table.lookup_adjust_ne same]

theorem Progress.setMatched (mm : MatchMaker) (ptr : TicketPtr)
    : Progress mm (mm.setMatched ptr true) := by
  refine ⟨.setMatched mm ptr true, isInvalid_setMatched mm ptr true, fun other matched => ?_⟩
  by_cases same : other = ptr
  · subst same
    refine isMatched_setMatched_self ?_ true
    by_contra unknown
    rw [MatchMaker.isMatched, AList.lookup_eq_none.mpr unknown] at matched
    cases matched
  · rwa [isMatched_setMatched_ne mm same]

theorem Progress.setMatched_foldl (group : TicketVector) (mm : MatchMaker)
    : Progress mm (group.foldl (·.setMatched · true) mm) :=
  Loops.foldl_related .refl .trans (fun mm ptr _ => .setMatched mm ptr) mm

/-- Marking a group marks its members and nobody else, by induction on the group. -/
theorem isMatched_setMatched_foldl (group : TicketVector) (mm : MatchMaker) {ptr : TicketPtr}
    (known : ptr ∈ mm.tickets)
    : (group.foldl (·.setMatched · true) mm).isMatched ptr = true
      ↔ mm.isMatched ptr = true ∨ ptr ∈ group := by
  induction group generalizing mm with
  | nil => simp
  | cons head rest ih =>
      rw [List.foldl_cons, ih _ (((SameQueue.setMatched mm head true).mem ptr).mpr known),
        List.mem_cons]
      by_cases same : ptr = head
      · subst same
        simp [isMatched_setMatched_self known]
      · simp [isMatched_setMatched_ne mm same, same]

theorem Mirrored.of_sameOrder {before after : MatchMaker} (h : before.Mirrored)
    (same : SameOrder before after)
    : after.Mirrored where
  nodup := by
    rw [same.queue]
    exact h.nodup
  known ptr mem := by
    rw [same.queue] at mem
    exact (same.mem ptr).mpr (h.known ptr mem)
  sorted := by
    rw [same.queue, same.startTime]
    exact h.sorted
  range := by
    rw [same.queue, same.aggression, same.maxAggression]
    exact h.range
  size := by
    rw [same.bucket, same.maxAggression]
    exact h.size
  bucket := by
    rw [same.queue, same.aggression, same.bucket]
    exact h.bucket

namespace Progress

variable {before after : MatchMaker} (progress : Progress before after)
include progress

theorem waitTimeSeconds : after.waitTimeSeconds = before.waitTimeSeconds := by
  funext now ptr
  rw [MatchMaker.waitTimeSeconds, MatchMaker.waitTimeSeconds, progress.startTime]

theorem allowedDiff : after.allowedDiff = before.allowedDiff := by
  funext now ptr
  rw [MatchMaker.allowedDiff, MatchMaker.allowedDiff, progress.waitTimeSeconds]

theorem targetMinPlayers : after.targetMinPlayers = before.targetMinPlayers := by
  funext now ptr
  rw [MatchMaker.targetMinPlayers, MatchMaker.targetMinPlayers, progress.waitTimeSeconds]

/-- A ticket has fewer and fewer unmatched others around it. -/
theorem unmatchedWithin_le (ptr : TicketPtr) (diff : Nat)
    : (after.unmatchedWithin ptr diff).length ≤ (before.unmatchedWithin ptr diff).length := by
  unfold MatchMaker.unmatchedWithin
  rw [progress.queue, progress.aggression]
  refine (List.monotone_filter_right _ fun other near => ?_).length_le
  rw [Bool.and_eq_true, Bool.not_eq_true'] at near ⊢
  refine ⟨Bool.eq_false_iff.mpr fun matched => ?_, near.2⟩
  exact Bool.false_ne_true (near.1.symm.trans (progress.isMatched other matched))

end Progress

-----------------------------------------------------------------------------------------
-- The search without its memory
-----------------------------------------------------------------------------------------

/-- One iteration of the search without `_pivotMemorizationFlags`. -/
def tryPivot (now : TimePoint) (mm : MatchMaker) (pivot : TicketPtr) : MatchMaker :=
  match mm.tickets.lookup pivot with
  | none => mm
  | some ticket =>
      if ticket.isMatched then mm
      else
        let (allowedDiff, targetMinPlayers) := matchTerms (ticket.waitTimeSeconds now)
        let matchedGroup := mm.gatherGroup pivot allowedDiff
        if targetMinPlayers ≤ matchedGroup.length then
          let mm := matchedGroup.foldl (·.setMatched · true) mm
          { mm with matchedGroups := mm.matchedGroups ++ [matchedGroup] }
        else mm

/-- `FindMatchGroup` with every unmatched ticket as a pivot. -/
def findMatchGroupOfAllPivots (mm : MatchMaker) (now : TimePoint) : MatchMaker :=
  mm.timeSortedTicketVector.foldl (tryPivot now) { mm with matchedGroups := [] }

/-- Too few unmatched tickets are near a ticket, itself included. -/
def Hopeless (mm : MatchMaker) (now : TimePoint) (ptr : TicketPtr) : Prop :=
  (mm.unmatchedWithin ptr (mm.allowedDiff now ptr)).length < mm.targetMinPlayers now ptr

/-- The group of a pivot is marked and kept. -/
def accept (mm : MatchMaker) (group : TicketVector) : MatchMaker :=
  { group.foldl (·.setMatched · true) mm with
    matchedGroups := mm.matchedGroups ++ [group] }

/-- What a pivot can do, given its ticket. -/
theorem tryPivot_eq {mm : MatchMaker} (now : TimePoint) {pivot : TicketPtr}
    {ticket : MatchTicket} (found : mm.tickets.lookup pivot = some ticket)
    : mm.tryPivot now pivot
      = if mm.isMatched pivot then mm
        else if mm.targetMinPlayers now pivot
            ≤ (mm.gatherGroup pivot (mm.allowedDiff now pivot)).length then
          mm.accept (mm.gatherGroup pivot (mm.allowedDiff now pivot))
        else mm := by
  have wait : ticket.waitTimeSeconds now = mm.waitTimeSeconds now pivot := by
    rw [waitTimeSeconds, startTime, found]
    rfl
  have flag : mm.isMatched pivot = ticket.isMatched := by
    rw [MatchMaker.isMatched, found]
    rfl
  unfold tryPivot
  rw [found, flag]
  dsimp only
  rw [wait, SameQueue.matchedGroups_setMatched_foldl]
  rfl

/-- The groups of the last search are dropped. -/
theorem Progress.forgetGroups (mm : MatchMaker)
    : Progress mm { mm with matchedGroups := [] } :=
  ⟨⟨⟨fun _ => .rfl, rfl, rfl, rfl, rfl, rfl⟩, rfl, rfl⟩, rfl, fun _ => id⟩

theorem Progress.accept (mm : MatchMaker) (group : TicketVector)
    : Progress mm (mm.accept group) := by
  have marked := Progress.setMatched_foldl group mm
  exact ⟨⟨⟨marked.mem, marked.ticketId, marked.aggression, marked.queue, marked.toAdd,
    marked.bucket⟩, marked.maxAggression, marked.startTime⟩, marked.isInvalid,
    marked.isMatched⟩

theorem Progress.tryPivot (now : TimePoint) (mm : MatchMaker) (pivot : TicketPtr)
    : Progress mm (mm.tryPivot now pivot) := by
  cases found : mm.tickets.lookup pivot with
  | none =>
      unfold MatchMaker.tryPivot
      rw [found]
      exact .refl mm
  | some ticket =>
      rw [tryPivot_eq now found]
      split
      · exact .refl mm
      · split
        · exact .accept mm _
        · exact .refl mm

/-- A pivot that is too lonely gets no group. -/
theorem Mirrored.hopeless_iff {mm : MatchMaker} (h : mm.Mirrored) (now : TimePoint)
    {pivot : TicketPtr} (queued : pivot ∈ mm.timeSortedTicketVector)
    (unmatched : mm.isMatched pivot = false)
    : mm.Hopeless now pivot
      ↔ ¬mm.targetMinPlayers now pivot
          ≤ (mm.gatherGroup pivot (mm.allowedDiff now pivot)).length := by
  have few := (matchTerms_bounds (mm.waitTimeSeconds now pivot)).2.2
  have near : mm.allowedDiff now pivot ≤ 1 := (matchTerms_bounds _).1
  rw [h.length_gatherGroup queued unmatched near]
  unfold Hopeless targetMinPlayers
  omega

/-- Loneliness lasts, and it is worse for later tickets of the same aggression. -/
theorem Hopeless.later {before after : MatchMaker} {now : TimePoint} {first second : TicketPtr}
    (h : before.Hopeless now first) (progress : Progress before after)
    (level : before.aggression second = before.aggression first)
    (le : before.startTime first ≤ before.startTime second)
    : after.Hopeless now second := by
  obtain ⟨narrower, more⟩ := matchTerms_mono (waitTimeSeconds_mono now le)
  have fewer : (before.unmatchedWithin second (before.allowedDiff now second)).length
      ≤ (before.unmatchedWithin first (before.allowedDiff now first)).length := by
    refine (List.monotone_filter_right _ fun other near => ?_).length_le
    rw [Bool.and_eq_true, decide_eq_true_eq] at near ⊢
    obtain ⟨free, upper, lower⟩ := near
    rw [level] at upper lower
    have narrower : before.allowedDiff now second ≤ before.allowedDiff now first := narrower
    exact ⟨free, by omega, by omega⟩
  unfold Hopeless
  rw [progress.allowedDiff, progress.targetMinPlayers]
  calc (after.unmatchedWithin second (before.allowedDiff now second)).length
      ≤ (before.unmatchedWithin second (before.allowedDiff now second)).length :=
        progress.unmatchedWithin_le second _
    _ ≤ (before.unmatchedWithin first (before.allowedDiff now first)).length := fewer
    _ < before.targetMinPlayers now first := h
    _ ≤ before.targetMinPlayers now second := more

/-- The search may skip a pivot when its flag is set: the queue is in order, and the pivot is
matched or too lonely.
-/
structure Skippable (now : TimePoint) (search : Search) (pivot : TicketPtr) : Prop where
  mirrored : search.mm.Mirrored
  queued : pivot ∈ search.mm.timeSortedTicketVector
  flags : search.pivotMemorizationFlags.length = search.mm.maxAggression + 1
  hopeless : search.pivotMemorizationFlags.getD (search.mm.aggression pivot) false = true →
    search.mm.isMatched pivot = true ∨ search.mm.Hopeless now pivot

/-- A visit with the ticket of its pivot. -/
theorem visit_eq {search : Search} (now : TimePoint) {pivot : TicketPtr}
    {ticket : MatchTicket} (found : search.mm.tickets.lookup pivot = some ticket)
    : search.visit (fun _ => now) pivot
      = if search.mm.isMatched pivot then search
        else if search.pivotMemorizationFlags.getD (search.mm.aggression pivot) false then search
        else if search.mm.targetMinPlayers now pivot
            ≤ (search.mm.gatherGroup pivot (search.mm.allowedDiff now pivot)).length then
          { search with
            mm := search.mm.accept
              (search.mm.gatherGroup pivot (search.mm.allowedDiff now pivot))
            reads := search.reads + 1 }
        else
          { search with
            pivotMemorizationFlags :=
              search.pivotMemorizationFlags.set (search.mm.aggression pivot) true
            reads := search.reads + 1 } := by
  have wait : ticket.waitTimeSeconds now = search.mm.waitTimeSeconds now pivot := by
    rw [waitTimeSeconds, startTime, found]
    rfl
  have flag : search.mm.isMatched pivot = ticket.isMatched := by
    rw [MatchMaker.isMatched, found]
    rfl
  have level : search.mm.aggression pivot = ticket.aggression := by
    rw [MatchMaker.aggression, found]
    rfl
  unfold Search.visit
  rw [found, flag, level]
  dsimp only
  rw [wait, SameQueue.matchedGroups_setMatched_foldl]
  rfl

/-- A visit does what trying the pivot does. -/
theorem Skippable.mm_visit {now : TimePoint} {search : Search} {pivot : TicketPtr}
    (h : Skippable now search pivot)
    : (search.visit (fun _ => now) pivot).mm = search.mm.tryPivot now pivot := by
  obtain ⟨ticket, found⟩ := Table.exists_lookup_of_mem (h.mirrored.known pivot h.queued)
  rw [visit_eq now found, tryPivot_eq now found]
  split
  · rfl
  · next unmatched =>
      have unmatched := Bool.eq_false_iff.mpr unmatched
      split
      · next skipped =>
          have lonely := (h.hopeless skipped).resolve_left (Bool.eq_false_iff.mp unmatched)
          rw [if_neg ((h.mirrored.hopeless_iff now h.queued unmatched).mp lonely)]
      · split <;> rfl

/-- A visit leaves later pivots skippable. Only a failure sets a flag, and the later pivots of
its aggression fail too.
-/
theorem Skippable.visit {now : TimePoint} {search : Search} {pivot next : TicketPtr}
    (later : search.mm.startTime pivot ≤ search.mm.startTime next)
    (h : Skippable now search pivot) (hn : Skippable now search next)
    : Skippable now (search.visit (fun _ => now) pivot) next := by
  obtain ⟨ticket, found⟩ := Table.exists_lookup_of_mem (h.mirrored.known pivot h.queued)
  rw [visit_eq now found]
  split
  · exact hn
  · next unmatched =>
      have unmatched := Bool.eq_false_iff.mpr unmatched
      split
      · exact hn
      · split
        · have progress := Progress.accept search.mm
            (search.mm.gatherGroup pivot (search.mm.allowedDiff now pivot))
          refine ⟨h.mirrored.of_sameOrder progress.toSameOrder, ?_, ?_, fun set => ?_⟩
          · dsimp only
            rw [progress.queue]
            exact hn.queued
          · dsimp only
            rw [progress.maxAggression]
            exact hn.flags
          · dsimp only at set
            rw [progress.aggression] at set
            rcases hn.hopeless set with matched | lonely
            · exact .inl (progress.isMatched next matched)
            · exact .inr (lonely.later progress rfl le_rfl)
        · next failed =>
            refine ⟨hn.mirrored, hn.queued, ?_, fun set => ?_⟩
            · rw [List.length_set]
              exact hn.flags
            · dsimp only at set ⊢
              by_cases level : search.mm.aggression next = search.mm.aggression pivot
              · have lonely := (h.mirrored.hopeless_iff now h.queued unmatched).mpr failed
                exact .inr (lonely.later (.refl _) level later)
              · rw [List.getD_eq_getElem?_getD, List.getElem?_set_ne (Ne.symm level),
                  ← List.getD_eq_getElem?_getD] at set
                exact hn.hopeless set

/-- The search finds what trying every pivot finds. -/
theorem Mirrored.findMatchGroup_eq {mm : MatchMaker} (h : mm.Mirrored) (now : TimePoint)
    : mm.findMatchGroup (fun _ => now) = mm.findMatchGroupOfAllPivots now := by
  refine Loops.foldl_follows (mm.startTime · ≤ mm.startTime ·)
    (fun search pivot => search.mm.startTime = mm.startTime ∧ Skippable now search pivot)
    (fun search pivot safe => safe.2.mm_visit)
    (fun search pivot next later safe safeNext => ⟨?_, ?_⟩) h.sorted _ fun pivot mem => ⟨rfl, ?_⟩
  · rw [safe.2.mm_visit, (Progress.tryPivot now search.mm pivot).startTime]
    exact safe.1
  · refine safe.2.visit ?_ safeNext.2
    rw [safe.1]
    exact later
  · refine ⟨⟨h.nodup, h.known, h.sorted, h.range, h.size, h.bucket⟩, mem, by simp, fun set => ?_⟩
    rw [List.getD_eq_getElem?_getD, List.getElem?_replicate] at set
    split at set <;> cases set

/-- Memory changes neither the groups, nor their order, nor any mark. -/
theorem pivotMemorization_changes_nothing {mm : MatchMaker} (h : mm.Mirrored)
    (now : TimePoint)
    : (mm.findMatchGroup fun _ => now).matchedGroups
        = (mm.findMatchGroupOfAllPivots now).matchedGroups
      ∧ ∀ ptr, (mm.findMatchGroup fun _ => now).isMatched ptr
        = (mm.findMatchGroupOfAllPivots now).isMatched ptr := by
  rw [h.findMatchGroup_eq now]
  exact ⟨rfl, fun _ => rfl⟩

/-- A queue of two tickets with neighbouring aggressions. -/
def pairQueue : MatchMaker where
  mapId := 1
  maxAggression := 1
  tickets :=
    ((∅ : Table TicketPtr MatchTicket).insert 1
      { ticketId := "ticket_a", uId := 1, aggression := 0, mapId := 1, characterType := 0,
        startTime := 0 }).insert 2
      { ticketId := "ticket_b", uId := 2, aggression := 1, mapId := 1, characterType := 0,
        startTime := 30000000000 }
  timeSortedTicketVector := [1, 2]
  bucket := [[1], [2]]

theorem pairQueue_mirrored : pairQueue.Mirrored := by
  have range : ∀ ptr ∈ pairQueue.timeSortedTicketVector, pairQueue.aggression ptr ≤ 1 := by
    decide
  refine ⟨by decide, by decide, by decide, range, rfl, fun i => ?_⟩
  rcases i with _ | _ | i
  · rfl
  · rfl
  · refine (List.filter_eq_nil_iff.mpr fun ptr mem level => ?_).symm
    have := range ptr mem
    have := of_decide_eq_true level
    omega

/-- After a minute both searches take the two together. -/
theorem pairQueue_without_memory
    : (pairQueue.findMatchGroupOfAllPivots 60000000000).matchedGroups = [[1, 2]]
      ∧ (pairQueue.findMatchGroup fun _ => 60000000000).matchedGroups
        = (pairQueue.findMatchGroupOfAllPivots 60000000000).matchedGroups :=
  ⟨by decide +kernel,
    (pivotMemorization_changes_nothing pairQueue_mirrored 60000000000).1⟩

-----------------------------------------------------------------------------------------
-- The groups
-----------------------------------------------------------------------------------------

/-- A group that meets the terms of its first member. -/
def MeetsTerms (mm : MatchMaker) (now : TimePoint) (group : TicketVector) : Prop :=
  ∃ pivot rest, group = pivot :: rest
    ∧ mm.targetMinPlayers now pivot ≤ group.length ∧ group.length ≤ 4
    ∧ ∀ ptr ∈ group, ptr ∈ mm.timeSortedTicketVector
      ∧ Within (mm.allowedDiff now pivot) (mm.aggression ptr) (mm.aggression pivot)

/-- The groups share no ticket, and their tickets are the matched ones of the queue. -/
structure Marked (before after : MatchMaker) : Prop where
  disjoint : after.matchedGroups.flatten.Nodup
  queued : ∀ ptr ∈ after.matchedGroups.flatten, ptr ∈ before.timeSortedTicketVector
  marked : ∀ ptr ∈ before.timeSortedTicketVector,
    after.isMatched ptr = true ↔ ptr ∈ after.matchedGroups.flatten

/-- The groups also meet their terms. -/
structure Grouped (now : TimePoint) (before after : MatchMaker) : Prop
    extends Marked before after where
  meetsTerms : ∀ group ∈ after.matchedGroups, before.MeetsTerms now group

/-- Before the search there are no groups. -/
theorem Marked.none {mm : MatchMaker}
    (fresh : ∀ ptr ∈ mm.timeSortedTicketVector, mm.isMatched ptr = false)
    : Marked mm { mm with matchedGroups := [] } := by
  refine ⟨List.nodup_nil, fun ptr mem => absurd mem List.not_mem_nil, fun ptr mem => ?_⟩
  have unmatched : MatchMaker.isMatched { mm with matchedGroups := [] } ptr = false :=
    fresh ptr mem
  simp [unmatched]

/-- One more group. Its members were not matched, so they are in no other group. -/
theorem Marked.accept {before mm : MatchMaker} (h : before.Mirrored)
    (progress : Progress before mm) (marked : Marked before mm) {pivot : TicketPtr}
    (queued : pivot ∈ before.timeSortedTicketVector) (unmatched : mm.isMatched pivot = false)
    {diff : Nat} (near : diff ≤ 1)
    : Marked before (mm.accept (mm.gatherGroup pivot diff)) := by
  have mirrored := h.of_sameOrder progress.toSameOrder
  have members : ∀ ptr ∈ mm.gatherGroup pivot diff,
      ptr ∈ before.timeSortedTicketVector ∧ mm.isMatched ptr = false := by
    intro ptr mem
    rw [← progress.queue]
    obtain ⟨inQueue, free, _⟩ :=
      mirrored.mem_gatherGroup (progress.queue ▸ queued) unmatched near mem
    exact ⟨inQueue, free⟩
  have nodup : (mm.gatherGroup pivot diff).Nodup := by
    rw [gatherGroup_eq_take]
    exact (List.take_sublist _ _).nodup (mirrored.toBucketed.nodup_candidates _ _)
  generalize mm.gatherGroup pivot diff = group at members nodup
  have flatten : (mm.accept group).matchedGroups.flatten
      = mm.matchedGroups.flatten ++ group := by
    rw [MatchMaker.accept, List.flatten_append, List.flatten_singleton]
  refine ⟨?_, fun ptr mem => ?_, fun ptr inQueue => ?_⟩
  · rw [flatten]
    refine marked.disjoint.append nodup fun ptr earlier mem => ?_
    obtain ⟨inQueue, free⟩ := members ptr mem
    exact Bool.false_ne_true (free.symm.trans ((marked.marked ptr inQueue).mpr earlier))
  · rw [flatten] at mem
    rcases List.mem_append.mp mem with earlier | mem
    · exact marked.queued ptr earlier
    · exact (members ptr mem).1
  · rw [flatten, List.mem_append, ← marked.marked ptr inQueue]
    exact isMatched_setMatched_foldl group mm
      ((progress.mem ptr).mpr (h.known ptr inQueue))

/-- One more pivot. -/
theorem Grouped.tryPivot {now : TimePoint} {before mm : MatchMaker} (h : before.Mirrored)
    (progress : Progress before mm) (grouped : Grouped now before mm) {pivot : TicketPtr}
    (queued : pivot ∈ before.timeSortedTicketVector)
    : Grouped now before (mm.tryPivot now pivot) := by
  have mirrored := h.of_sameOrder progress.toSameOrder
  have queued' : pivot ∈ mm.timeSortedTicketVector := progress.queue ▸ queued
  obtain ⟨ticket, found⟩ := Table.exists_lookup_of_mem (mirrored.known pivot queued')
  rw [tryPivot_eq now found]
  split
  · exact grouped
  · next unmatched =>
      have unmatched := Bool.eq_false_iff.mpr unmatched
      split
      · next enough =>
          have near : mm.allowedDiff now pivot ≤ 1 := (matchTerms_bounds _).1
          refine ⟨grouped.toMarked.accept h progress queued unmatched near, fun other mem => ?_⟩
          rcases List.mem_append.mp mem with mem | mem
          · exact grouped.meetsTerms other mem
          · obtain ⟨rest, starts⟩ :=
              mm.exists_gatherGroup_eq_cons pivot (mm.allowedDiff now pivot)
            rw [progress.targetMinPlayers] at enough
            rw [List.mem_singleton.mp mem]
            refine ⟨pivot, rest, starts, enough, ?_, fun ptr mem => ?_⟩
            · rw [gatherGroup_eq_take]
              exact List.length_take_le 4 _
            · obtain ⟨inQueue, _, within⟩ :=
                mirrored.mem_gatherGroup queued' unmatched near mem
              rw [progress.queue] at inQueue
              rw [progress.allowedDiff, progress.aggression] at within
              exact ⟨inQueue, within⟩
      · exact grouped

/-- An unmatched pivot that is not too lonely is matched when it is tried. -/
theorem Mirrored.isMatched_tryPivot {mm : MatchMaker} (h : mm.Mirrored) (now : TimePoint)
    {pivot : TicketPtr} (queued : pivot ∈ mm.timeSortedTicketVector)
    (left : (mm.tryPivot now pivot).isMatched pivot = false)
    : mm.Hopeless now pivot := by
  obtain ⟨ticket, found⟩ := Table.exists_lookup_of_mem (h.known pivot queued)
  rw [tryPivot_eq now found] at left
  split at left
  · next matched => exact absurd (matched.symm.trans left) (by decide)
  · next unmatched =>
      split at left
      · obtain ⟨rest, starts⟩ :=
          mm.exists_gatherGroup_eq_cons pivot (mm.allowedDiff now pivot)
        have matched : (mm.accept (mm.gatherGroup pivot (mm.allowedDiff now pivot))).isMatched
            pivot = true := by
          refine (isMatched_setMatched_foldl _ mm (h.known pivot queued)).mpr (.inr ?_)
          rw [starts]
          exact List.mem_cons_self
        exact absurd (matched.symm.trans left) (by decide)
      · next failed =>
          exact (h.hopeless_iff now queued (Bool.eq_false_iff.mpr unmatched)).mpr failed

/-- At one fixed time, the search over a queue without matched tickets forms sound groups, and
around every ticket that it leaves there are fewer unmatched tickets than the ticket needs. So
who has waited a minute is matched.
-/
theorem findMatchGroup_maximal {mm : MatchMaker} (h : mm.Mirrored)
    (fresh : ∀ ptr ∈ mm.timeSortedTicketVector, mm.isMatched ptr = false) (now : TimePoint)
    : Grouped now mm (mm.findMatchGroup fun _ => now)
      ∧ (∀ ptr ∈ mm.timeSortedTicketVector,
          (mm.findMatchGroup fun _ => now).isMatched ptr = false →
          ((mm.findMatchGroup fun _ => now).unmatchedWithin ptr
            (mm.allowedDiff now ptr)).length < mm.targetMinPlayers now ptr)
      ∧ ∀ ptr ∈ mm.timeSortedTicketVector, 60 ≤ mm.waitTimeSeconds now ptr →
          (mm.findMatchGroup fun _ => now).isMatched ptr = true := by
  have start : Progress mm { mm with matchedGroups := [] } :=
    .forgetGroups mm
  have progress : Progress mm (mm.findMatchGroupOfAllPivots now) :=
    start.trans (Loops.foldl_related .refl .trans (fun mm ptr _ => .tryPivot now mm ptr) _)
  have grouped : Progress mm (mm.findMatchGroupOfAllPivots now)
      ∧ Grouped now mm (mm.findMatchGroupOfAllPivots now) := by
    refine List.foldlRecOn mm.timeSortedTicketVector (tryPivot now)
      (motive := fun after => Progress mm after ∧ Grouped now mm after) ⟨start, ?_⟩ ?_
    · exact ⟨.none fresh, fun group mem => absurd mem List.not_mem_nil⟩
    · rintro after ⟨progress, grouped⟩ pivot queued
      exact ⟨progress.trans (.tryPivot now after pivot), grouped.tryPivot h progress queued⟩
  have lonely : ∀ ptr ∈ mm.timeSortedTicketVector,
      (mm.findMatchGroupOfAllPivots now).isMatched ptr = false →
      ((mm.findMatchGroupOfAllPivots now).unmatchedWithin ptr
        (mm.allowedDiff now ptr)).length < mm.targetMinPlayers now ptr := by
    intro ptr queued left
    obtain ⟨visited, before, after⟩ := Loops.exists_visit .refl .trans
      (fun mm ptr _ => Progress.tryPivot now mm ptr) queued { mm with matchedGroups := [] }
    have since := start.trans before
    have stuck : visited.Hopeless now ptr := by
      refine (h.of_sameOrder since.toSameOrder).isMatched_tryPivot now (since.queue ▸ queued) ?_
      refine Bool.eq_false_iff.mpr fun matched => ?_
      exact Bool.false_ne_true (left.symm.trans (after.isMatched ptr matched))
    have last := stuck.later ((Progress.tryPivot now visited ptr).trans after) rfl le_rfl
    rw [Hopeless] at last
    rwa [← progress.allowedDiff, ← progress.targetMinPlayers]
  rw [h.findMatchGroup_eq now]
  refine ⟨grouped.2, lonely, fun ptr queued patient => ?_⟩
  by_contra left
  have left := Bool.eq_false_iff.mpr left
  have few := lonely ptr queued left
  have alone : mm.targetMinPlayers now ptr = 1 := by
    rw [targetMinPlayers, matchTerms, if_pos patient]
  have itself : ptr ∈ (mm.findMatchGroupOfAllPivots now).unmatchedWithin ptr
      (mm.allowedDiff now ptr) := by
    refine mem_unmatchedWithin.mpr ⟨?_, left, by omega, by omega⟩
    rw [progress.queue]
    exact queued
  have := List.length_pos_of_mem itself
  omega

/-- The first of the two has waited a minute. -/
theorem pairQueue_matched
    : (pairQueue.findMatchGroup fun _ => 60000000000).isMatched 1 = true :=
  (findMatchGroup_maximal pairQueue_mirrored (by decide +kernel) 60000000000).2.2 1
    (by decide +kernel) (by decide +kernel)

end MatchMaker

end ExtractionServer.Matchmaking
