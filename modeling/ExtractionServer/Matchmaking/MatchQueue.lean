import ExtractionServer.Matchmaking.MatchMaker

/-! The queue of a matchmaker holds each ticket once, so no group that the search finds has a
ticket twice.
-/

namespace ExtractionServer.Matchmaking

namespace MatchMaker

-----------------------------------------------------------------------------------------
-- Well-formed queues
-----------------------------------------------------------------------------------------

/-- Tickets have keys of their own, and each is queued once, in the bucket of its
aggression.
-/
structure WellFormed (mm : MatchMaker) : Prop where
  keys : ∀ p ∈ mm.tickets, ∀ q ∈ mm.tickets, mm.ticketId p = mm.ticketId q → p = q
  queued : (mm.timeSortedTicketVector ++ mm.ticketsToAdd).Nodup
  known : ∀ ptr ∈ mm.timeSortedTicketVector ++ mm.ticketsToAdd, ptr ∈ mm.tickets
  bucket : ∀ i, (mm.bucket.getD i []).Nodup
  bucketed : ∀ i, ∀ ptr ∈ mm.bucket.getD i [],
    ptr ∈ mm.timeSortedTicketVector ∧ mm.aggression ptr = i

/-- The same queue with the same tickets, up to their flags. -/
structure SameQueue (before after : MatchMaker) : Prop where
  mem : ∀ ptr, ptr ∈ after.tickets ↔ ptr ∈ before.tickets
  ticketId : after.ticketId = before.ticketId
  aggression : after.aggression = before.aggression
  queue : after.timeSortedTicketVector = before.timeSortedTicketVector
  toAdd : after.ticketsToAdd = before.ticketsToAdd
  bucket : after.bucket = before.bucket

namespace SameQueue

theorem refl (mm : MatchMaker) : SameQueue mm mm := ⟨fun _ => .rfl, rfl, rfl, rfl, rfl, rfl⟩

theorem trans {before middle after : MatchMaker}
    (first : SameQueue before middle) (second : SameQueue middle after)
    : SameQueue before after where
  mem ptr := (second.mem ptr).trans (first.mem ptr)
  ticketId := second.ticketId.trans first.ticketId
  aggression := second.aggression.trans first.aggression
  queue := second.queue.trans first.queue
  toAdd := second.toAdd.trans first.toAdd
  bucket := second.bucket.trans first.bucket

/-- A change of the flags of one ticket. -/
theorem of_adjust (mm : MatchMaker) (ptr : TicketPtr) {f : MatchTicket → MatchTicket}
    (ticketId : ∀ ticket, (f ticket).ticketId = ticket.ticketId)
    (aggression : ∀ ticket, (f ticket).aggression = ticket.aggression)
    : SameQueue mm { mm with tickets := mm.tickets.adjust ptr f } where
  mem other := Table.mem_adjust ptr other f mm.tickets
  ticketId := by
    funext other
    by_cases same : other = ptr
    · subst same
      cases found : mm.tickets.lookup other <;> simp [MatchMaker.ticketId, found, ticketId]
    · simp [MatchMaker.ticketId, Table.lookup_adjust_ne same]
  aggression := by
    funext other
    by_cases same : other = ptr
    · subst same
      cases found : mm.tickets.lookup other <;> simp [MatchMaker.aggression, found, aggression]
    · simp [MatchMaker.aggression, Table.lookup_adjust_ne same]
  queue := rfl
  toAdd := rfl
  bucket := rfl

theorem setMatched (mm : MatchMaker) (ptr : TicketPtr) (isMatched : Bool)
    : SameQueue mm (mm.setMatched ptr isMatched) :=
  of_adjust mm ptr (fun _ => rfl) fun _ => rfl

theorem setInvalid (mm : MatchMaker) (ptr : TicketPtr) : SameQueue mm (mm.setInvalid ptr) :=
  of_adjust mm ptr (fun _ => rfl) fun _ => rfl

/-- Marking a whole group, by induction on the group. -/
theorem setMatched_foldl (group : TicketVector) (mm : MatchMaker)
    : SameQueue mm (group.foldl (·.setMatched · true) mm) := by
  induction group generalizing mm with
  | nil => exact refl mm
  | cons ptr rest ih => exact (setMatched mm ptr true).trans (ih _)

/-- Marking a group leaves the groups found so far, by induction on the group. -/
theorem matchedGroups_setMatched_foldl (group : TicketVector) (mm : MatchMaker)
    : (group.foldl (·.setMatched · true) mm).matchedGroups = mm.matchedGroups := by
  induction group generalizing mm with
  | nil => rfl
  | cons ptr rest ih => exact ih _

theorem wellFormed {before after : MatchMaker} (same : SameQueue before after)
    (h : before.WellFormed)
    : after.WellFormed where
  keys p known q known' := by
    rw [same.ticketId]
    exact h.keys p ((same.mem p).mp known) q ((same.mem q).mp known')
  queued := by
    rw [same.queue, same.toAdd]
    exact h.queued
  known ptr mem := by
    rw [same.queue, same.toAdd] at mem
    exact (same.mem ptr).mpr (h.known ptr mem)
  bucket i := by
    rw [same.bucket]
    exact h.bucket i
  bucketed i ptr mem := by
    rw [same.queue, same.aggression]
    exact h.bucketed i ptr (same.bucket ▸ mem)

end SameQueue

theorem WellFormed.new (mapId : Int) (maxAggression : Nat)
    : (MatchMaker.new mapId maxAggression).WellFormed := by
  have empty : ∀ i, (MatchMaker.new mapId maxAggression).bucket.getD i [] = [] := by
    intro i
    simp only [MatchMaker.new, List.getD_eq_getElem?_getD, List.getElem?_replicate]
    split <;> rfl
  constructor
  · exact fun p known => absurd known (AList.notMem_empty p)
  · exact List.nodup_nil
  · exact fun ptr mem => absurd mem List.not_mem_nil
  · intro i
    rw [empty]
    exact List.nodup_nil
  · intro i ptr mem
    rw [empty] at mem
    exact absurd mem List.not_mem_nil

-----------------------------------------------------------------------------------------
-- Tickets join the queue
-----------------------------------------------------------------------------------------

/-- A new ticket with a key of its own. -/
theorem WellFormed.addSingleMatchTicket {mm : MatchMaker} (h : mm.WellFormed)
    {ptr : TicketPtr} {ticket : MatchTicket} (fresh : ptr ∉ mm.tickets)
    (ownKey : ∀ other ∈ mm.tickets, mm.ticketId other ≠ ticket.ticketId)
    : (mm.addSingleMatchTicket ptr ticket).WellFormed := by
  have others : ∀ other ∈ mm.tickets,
      (mm.tickets.insert ptr ticket).lookup other = mm.tickets.lookup other :=
    fun other known => AList.lookup_insert_ne fun same => fresh (same ▸ known)
  have keyOf : ∀ other ∈ mm.tickets,
      (mm.addSingleMatchTicket ptr ticket).ticketId other = mm.ticketId other := by
    intro other known
    simp [MatchMaker.ticketId, MatchMaker.addSingleMatchTicket, others other known]
  have keyOfNew : (mm.addSingleMatchTicket ptr ticket).ticketId ptr = ticket.ticketId := by
    simp [MatchMaker.ticketId, MatchMaker.addSingleMatchTicket]
  have notQueued : ptr ∉ mm.timeSortedTicketVector ++ mm.ticketsToAdd :=
    fun mem => fresh (h.known ptr mem)
  constructor
  · intro p memP q memQ same
    rcases (AList.mem_insert _).mp memP with isNew | oldP
    · rcases (AList.mem_insert _).mp memQ with isNew' | oldQ
      · exact isNew.trans isNew'.symm
      · rw [isNew, keyOfNew, keyOf q oldQ] at same
        exact absurd same.symm (ownKey q oldQ)
    · rcases (AList.mem_insert _).mp memQ with isNew | oldQ
      · rw [isNew, keyOfNew, keyOf p oldP] at same
        exact absurd same (ownKey p oldP)
      · rw [keyOf p oldP, keyOf q oldQ] at same
        exact h.keys p oldP q oldQ same
  · rw [show (mm.addSingleMatchTicket ptr ticket).timeSortedTicketVector
        ++ (mm.addSingleMatchTicket ptr ticket).ticketsToAdd
        = mm.timeSortedTicketVector ++ mm.ticketsToAdd ++ [ptr] from
      (List.append_assoc _ _ _).symm]
    exact h.queued.append (List.nodup_singleton ptr)
      (List.disjoint_singleton.mpr notQueued)
  · intro other mem
    refine (AList.mem_insert _).mpr ?_
    rcases List.mem_append.mp mem with mem | mem
    · exact .inr (h.known other (List.mem_append_left _ mem))
    · rcases List.mem_append.mp mem with mem | mem
      · exact .inr (h.known other (List.mem_append_right _ mem))
      · exact .inl (List.mem_singleton.mp mem)
  · exact h.bucket
  · intro i other mem
    obtain ⟨queued, level⟩ := h.bucketed i other mem
    refine ⟨queued, ?_⟩
    rw [← level]
    simp [MatchMaker.aggression, MatchMaker.addSingleMatchTicket,
      others other (h.known other (List.mem_append_left _ queued))]

/-- What a bucket gets from one ticket. -/
theorem pushBucket_sublist (mm : MatchMaker) (bucket : List TicketVector) (ptr : TicketPtr)
    (i : Nat)
    : ((mm.pushBucket bucket ptr).getD i []).Sublist
        (bucket.getD i [] ++ [ptr].filter (mm.aggression · = i)) := by
  unfold pushBucket
  simp only [List.getD_eq_getElem?_getD]
  by_cases own : mm.aggression ptr = i
  · subst own
    cases inside : bucket[mm.aggression ptr]? <;> simp [inside]
  · simp [List.getElem?_modify_ne _ _ own, own]

/-- The buckets get tickets of their aggression only, by induction on the new tickets. -/
theorem foldl_pushBucket_sublist (mm : MatchMaker) (ptrs : TicketVector)
    (bucket : List TicketVector) (i : Nat)
    : ((ptrs.foldl mm.pushBucket bucket).getD i []).Sublist
        (bucket.getD i [] ++ ptrs.filter (mm.aggression · = i)) := by
  induction ptrs generalizing bucket with
  | nil => simp
  | cons ptr rest ih =>
      refine (ih (mm.pushBucket bucket ptr)).trans ?_
      rw [← List.singleton_append (l := rest), List.filter_append, ← List.append_assoc]
      exact (mm.pushBucket_sublist bucket ptr i).append (.refl _)

theorem WellFormed.addNewMatchTickets {mm : MatchMaker} (h : mm.WellFormed)
    : mm.addNewMatchTickets.WellFormed := by
  unfold MatchMaker.addNewMatchTickets
  split
  · exact h
  · have sorted := List.mergeSort_perm mm.ticketsToAdd mm.startsNoLater
    have merged : (List.merge mm.timeSortedTicketVector
        (mm.ticketsToAdd.mergeSort mm.startsNoLater) mm.startsNoLater).Perm
          (mm.timeSortedTicketVector ++ mm.ticketsToAdd) :=
      (List.merge_perm_append _).trans (sorted.append_left _)
    have apart := List.disjoint_of_nodup_append h.queued
    have inBucket : ∀ i ptr, ptr ∈ ((mm.ticketsToAdd.mergeSort mm.startsNoLater).foldl
          mm.pushBucket mm.bucket).getD i [] →
        ptr ∈ mm.bucket.getD i [] ∨ ptr ∈ mm.ticketsToAdd ∧ mm.aggression ptr = i := by
      intro i ptr mem
      rcases List.mem_append.mp
        ((mm.foldl_pushBucket_sublist _ mm.bucket i).subset mem) with old | new
      · exact .inl old
      · obtain ⟨added, level⟩ := List.mem_filter.mp new
        exact .inr ⟨sorted.mem_iff.mp added, of_decide_eq_true level⟩
    constructor
    · exact h.keys
    · exact (List.append_nil _).symm ▸ merged.nodup_iff.mpr h.queued
    · intro ptr mem
      rw [List.append_nil] at mem
      exact h.known ptr (merged.mem_iff.mp mem)
    · intro i
      refine (mm.foldl_pushBucket_sublist _ mm.bucket i).nodup
        ((h.bucket i).append ((List.nodup_mergeSort.mpr h.queued.of_append_right).filter _) ?_)
      intro ptr old new
      exact apart (h.bucketed i ptr old).1
        (sorted.mem_iff.mp (List.mem_of_mem_filter new))
    · intro i ptr mem
      rcases inBucket i ptr mem with old | ⟨added, level⟩
      · obtain ⟨queued, level⟩ := h.bucketed i ptr old
        exact ⟨merged.mem_iff.mpr (List.mem_append_left _ queued), level⟩
      · exact ⟨merged.mem_iff.mpr (List.mem_append_right _ added), level⟩

-----------------------------------------------------------------------------------------
-- Tickets leave the queue
-----------------------------------------------------------------------------------------

/-- Erasing tickets one by one keeps the others, by induction on the tickets. -/
theorem lookup_foldl_erase {ptrs : TicketVector} {ptr : TicketPtr} (other : ptr ∉ ptrs)
    (tickets : Table TicketPtr MatchTicket)
    : (ptrs.foldl (fun tickets ptr => tickets.erase ptr) tickets).lookup ptr
      = tickets.lookup ptr := by
  induction ptrs generalizing tickets with
  | nil => rfl
  | cons head rest ih =>
      rw [List.mem_cons, not_or] at other
      exact (ih other.2 _).trans (AList.lookup_erase_ne other.1)

/-- Erased tickets are gone, by induction on the tickets. -/
theorem mem_of_mem_foldl_erase {ptrs : TicketVector} {ptr : TicketPtr}
    {tickets : Table TicketPtr MatchTicket}
    (mem : ptr ∈ ptrs.foldl (fun tickets ptr => tickets.erase ptr) tickets)
    : ptr ∈ tickets ∧ ptr ∉ ptrs := by
  induction ptrs generalizing tickets with
  | nil => exact ⟨mem, List.not_mem_nil⟩
  | cons head rest ih =>
      obtain ⟨remains, other⟩ := ih mem
      obtain ⟨ne, known⟩ := AList.mem_erase.mp remains
      refine ⟨known, fun mem => ?_⟩
      rcases List.mem_cons.mp mem with same | mem
      · exact ne same
      · exact other mem

theorem WellFormed.releaseAndDeleteTickets {mm : MatchMaker} (h : mm.WellFormed)
    : mm.releaseAndDeleteTickets.1.WellFormed := by
  have kept : ∀ ptr, ptr ∉ mm.timeSortedTicketVector.filter mm.shouldRemove →
      mm.releaseAndDeleteTickets.1.tickets.lookup ptr = mm.tickets.lookup ptr :=
    fun ptr other => lookup_foldl_erase other mm.tickets
  have stays : ∀ ptr, ptr ∈ mm.releaseAndDeleteTickets.1.tickets →
      ptr ∈ mm.tickets ∧ mm.releaseAndDeleteTickets.1.ticketId ptr = mm.ticketId ptr := by
    intro ptr mem
    obtain ⟨known, other⟩ := mem_of_mem_foldl_erase mem
    exact ⟨known, by simp only [MatchMaker.ticketId, kept ptr other]⟩
  have inQueue : ∀ ptr ∈ mm.timeSortedTicketVector, mm.shouldRemove ptr = false →
      ptr ∉ mm.timeSortedTicketVector.filter mm.shouldRemove := by
    intro ptr _ stays mem
    exact Bool.false_ne_true (stays.symm.trans (List.mem_filter.mp mem).2)
  have inBucket : ∀ i, mm.releaseAndDeleteTickets.1.bucket.getD i []
      = (mm.bucket.getD i []).filter (!mm.shouldRemove ·) := by
    intro i
    simp only [MatchMaker.releaseAndDeleteTickets, List.getD_eq_getElem?_getD,
      List.getElem?_map]
    cases mm.bucket[i]? <;> rfl
  constructor
  · intro p known q known' same
    obtain ⟨known, keyOfP⟩ := stays p known
    obtain ⟨known', keyOfQ⟩ := stays q known'
    rw [keyOfP, keyOfQ] at same
    exact h.keys p known q known' same
  · exact (List.filter_sublist.append (.refl _)).nodup h.queued
  · intro ptr mem
    have other : ptr ∉ mm.timeSortedTicketVector.filter mm.shouldRemove
        ∧ ptr ∈ mm.tickets := by
      rcases List.mem_append.mp mem with mem | mem
      · obtain ⟨queued, stays⟩ := List.mem_filter.mp mem
        exact ⟨inQueue ptr queued (by simpa using stays),
          h.known ptr (List.mem_append_left _ queued)⟩
      · refine ⟨fun removed => ?_, h.known ptr (List.mem_append_right _ mem)⟩
        exact List.disjoint_of_nodup_append h.queued (List.mem_of_mem_filter removed) mem
    obtain ⟨ticket, found⟩ := Table.exists_lookup_of_mem other.2
    exact Table.mem_of_lookup ((kept ptr other.1).trans found)
  · intro i
    rw [inBucket]
    exact (h.bucket i).filter _
  · intro i ptr mem
    rw [inBucket] at mem
    obtain ⟨mem, stays⟩ := List.mem_filter.mp mem
    obtain ⟨queued, level⟩ := h.bucketed i ptr mem
    refine ⟨List.mem_filter.mpr ⟨queued, stays⟩, ?_⟩
    rw [← level]
    simp only [MatchMaker.aggression, kept ptr (inQueue ptr queued (by simpa using stays))]

-----------------------------------------------------------------------------------------
-- The search
-----------------------------------------------------------------------------------------

/-- Prefixes of a length are appended to in the length. -/
theorem take_take_append {α : Type*} (n : Nat) (first second : List α)
    : (first.take n ++ second).take n = (first ++ second).take n := by
  rcases Nat.le_total n first.length with long | short
  · rw [List.take_append_of_le_length (by rw [List.length_take]; omega),
      List.take_append_of_le_length long, List.take_take, Nat.min_self]
  · rw [List.take_of_length_le short]

/-- A loop over a bucket appends candidates that it does not skip until there are four, by
induction on the bucket.
-/
theorem collect_eq_take (skip : TicketPtr → Bool) (group bucketVec : TicketVector)
    (few : group.length ≤ 4)
    : collect skip group bucketVec = (group ++ bucketVec.filter (!skip ·)).take 4 := by
  induction bucketVec generalizing group with
  | nil =>
      rw [List.filter_nil, List.append_nil, List.take_of_length_le few]
      rfl
  | cons candidate rest ih =>
      unfold collect
      split
      · next four =>
          rw [List.take_append_of_le_length four.ge, List.take_of_length_le few]
      · next fewer =>
          split
          · next skipped =>
              rw [ih group few, List.filter_cons_of_neg (by simp [skipped])]
          · next taken =>
              have room : (group ++ [candidate]).length ≤ 4 := by
                rw [List.length_append, List.length_singleton]
                omega
              rw [ih _ room, List.filter_cons_of_pos (by simpa using taken),
                List.append_assoc, List.singleton_append]

/-- A loop that may not be entered. -/
theorem collect_if_eq_take (skip : TicketPtr → Bool) (group bucketVec : TicketVector)
    (few : group.length ≤ 4) (inside : Prop) [Decidable inside]
    : (if group.length < 4 ∧ inside then collect skip group bucketVec else group)
      = (group ++ if inside then bucketVec.filter (!skip ·) else []).take 4 := by
  by_cases inside : inside
  · rw [if_pos inside]
    by_cases room : group.length < 4
    · rw [if_pos ⟨room, inside⟩, collect_eq_take skip group bucketVec few]
    · rw [if_neg fun h => room h.1, List.take_append_of_le_length (not_lt.mp room),
        List.take_of_length_le few]
  · rw [if_neg inside, if_neg fun h => inside h.2, List.append_nil,
      List.take_of_length_le few]

/-- The tickets of an aggression that are not matched. -/
def unmatchedAt (mm : MatchMaker) (aggression : Nat) : TicketVector :=
  (mm.bucket.getD aggression []).filter (!mm.isMatched ·)

/-- Whom a pivot would take if a group had no bound. -/
def candidates (mm : MatchMaker) (pivot : TicketPtr) (allowedDiff : Nat) : TicketVector :=
  let pivotAggr := mm.aggression pivot
  let own := pivot :: (mm.unmatchedAt pivotAggr).filter (· ≠ pivot)
  if allowedDiff = 0 then own
  else
    own ++ (if pivotAggr + 1 ≤ mm.maxAggression then mm.unmatchedAt (pivotAggr + 1) else [])
      ++ if 0 < pivotAggr then mm.unmatchedAt (pivotAggr - 1) else []

/-- A group is the first four candidates. -/
theorem gatherGroup_eq_take (mm : MatchMaker) (pivot : TicketPtr) (allowedDiff : Nat)
    : mm.gatherGroup pivot allowedDiff = (mm.candidates pivot allowedDiff).take 4 := by
  have own : collect (fun candidate => candidate == pivot || mm.isMatched candidate) [pivot]
      (mm.bucket.getD (mm.aggression pivot) [])
      = (pivot :: (mm.unmatchedAt (mm.aggression pivot)).filter (· ≠ pivot)).take 4 := by
    have alone : [pivot].length ≤ 4 := Nat.le_add_left 1 3
    rw [collect_eq_take _ _ _ alone, unmatchedAt, List.filter_filter,
      List.singleton_append]
    simp only [Bool.not_or, decide_not, beq_eq_decide]
  unfold gatherGroup candidates
  dsimp only
  rw [own]
  generalize pivot :: (mm.unmatchedAt (mm.aggression pivot)).filter (· ≠ pivot) = first
  by_cases narrow : allowedDiff = 0
  · rw [if_pos (.inl narrow), if_pos narrow]
  · rw [if_neg narrow, collect_if_eq_take _ _ _ (List.length_take_le 4 _),
      collect_if_eq_take _ _ _ (List.length_take_le 4 _), take_take_append,
      List.append_assoc, take_take_append, ← List.append_assoc]
    split
    · next full =>
        have long : 4 ≤ first.length := by
          have := full.resolve_left narrow
          rw [List.length_take] at this
          omega
        rw [List.append_assoc, List.take_append_of_le_length long]
    · rfl

/-- The tickets of a candidate list: the pivot, and unmatched others of the buckets that the
pivot may search.
-/
theorem mem_candidates {mm : MatchMaker} {pivot : TicketPtr} {allowedDiff : Nat}
    {ptr : TicketPtr}
    : ptr ∈ mm.candidates pivot allowedDiff
      ↔ ptr = pivot
        ∨ ptr ≠ pivot ∧ ptr ∈ mm.unmatchedAt (mm.aggression pivot)
        ∨ allowedDiff ≠ 0
          ∧ (mm.aggression pivot + 1 ≤ mm.maxAggression
              ∧ ptr ∈ mm.unmatchedAt (mm.aggression pivot + 1)
            ∨ 0 < mm.aggression pivot
              ∧ ptr ∈ mm.unmatchedAt (mm.aggression pivot - 1)) := by
  unfold candidates
  dsimp only
  by_cases narrow : allowedDiff = 0
  · simp [narrow, and_comm]
  · rw [if_neg narrow]
    simp only [List.mem_append, List.mem_cons, List.mem_filter, decide_eq_true_eq,
      List.mem_ite_nil_right, ne_eq, narrow, not_false_eq_true, true_and]
    tauto

/-- Buckets without repetition, whose tickets have their aggression. -/
structure Bucketed (mm : MatchMaker) : Prop where
  nodup : ∀ i, (mm.bucket.getD i []).Nodup
  aggression : ∀ i, ∀ ptr ∈ mm.bucket.getD i [], mm.aggression ptr = i

theorem Bucketed.unmatchedAt {mm : MatchMaker} (h : mm.Bucketed) {i : Nat} {ptr : TicketPtr}
    (mem : ptr ∈ mm.unmatchedAt i)
    : mm.aggression ptr = i :=
  h.aggression i ptr (List.mem_of_mem_filter mem)

theorem Bucketed.nodup_unmatchedAt {mm : MatchMaker} (h : mm.Bucketed) (i : Nat)
    : (mm.unmatchedAt i).Nodup :=
  (h.nodup i).filter _

/-- No candidate comes twice: the three buckets have different aggressions. -/
theorem Bucketed.nodup_candidates {mm : MatchMaker} (h : mm.Bucketed) (pivot : TicketPtr)
    (allowedDiff : Nat)
    : (mm.candidates pivot allowedDiff).Nodup := by
  have own : (pivot :: (mm.unmatchedAt (mm.aggression pivot)).filter (· ≠ pivot)).Nodup :=
    List.nodup_cons.mpr ⟨fun mem => of_decide_eq_true (List.mem_filter.mp mem).2 rfl,
      (h.nodup_unmatchedAt _).filter _⟩
  have ownLevel : ∀ ptr ∈ pivot :: (mm.unmatchedAt (mm.aggression pivot)).filter (· ≠ pivot),
      mm.aggression ptr = mm.aggression pivot := by
    intro ptr mem
    rcases List.mem_cons.mp mem with rfl | mem
    · rfl
    · exact h.unmatchedAt (List.mem_of_mem_filter mem)
  unfold candidates
  dsimp only
  split
  · exact own
  · refine List.Nodup.append (List.Nodup.append own ?_ ?_) ?_ ?_
    · split
      · exact h.nodup_unmatchedAt _
      · exact List.nodup_nil
    · intro ptr low high
      have := ownLevel ptr low
      have := h.unmatchedAt (List.mem_ite_nil_right.mp high).2
      omega
    · split
      · exact h.nodup_unmatchedAt _
      · exact List.nodup_nil
    · intro ptr others low
      obtain ⟨positive, low⟩ := List.mem_ite_nil_right.mp low
      have := h.unmatchedAt low
      rcases List.mem_append.mp others with mem | mem
      · have := ownLevel ptr mem
        omega
      · have := h.unmatchedAt (List.mem_ite_nil_right.mp mem).2
        omega

theorem WellFormed.toBucketed {mm : MatchMaker} (h : mm.WellFormed) : mm.Bucketed :=
  ⟨h.bucket, fun i ptr mem => (h.bucketed i ptr mem).2⟩

/-- A group has no ticket twice, and its tickets are queued. -/
theorem WellFormed.gatherGroup {mm : MatchMaker} (h : mm.WellFormed) {pivot : TicketPtr}
    (queued : pivot ∈ mm.timeSortedTicketVector) (allowedDiff : Nat)
    : (mm.gatherGroup pivot allowedDiff).Nodup
      ∧ ∀ ptr ∈ mm.gatherGroup pivot allowedDiff, ptr ∈ mm.timeSortedTicketVector := by
  rw [gatherGroup_eq_take]
  refine ⟨(List.take_sublist _ _).nodup (h.toBucketed.nodup_candidates pivot allowedDiff),
    fun ptr mem => ?_⟩
  have inBucket : ∀ i, ptr ∈ mm.unmatchedAt i → ptr ∈ mm.timeSortedTicketVector :=
    fun i mem => (h.bucketed i ptr (List.mem_of_mem_filter mem)).1
  rcases mem_candidates.mp (List.mem_of_mem_take mem) with
    rfl | ⟨_, mem⟩ | ⟨_, ⟨_, mem⟩ | ⟨_, mem⟩⟩
  · exact queued
  · exact inBucket _ mem
  · exact inBucket _ mem
  · exact inBucket _ mem

/-- The keys of queued tickets without repetition have no repetition. -/
theorem WellFormed.keys_nodup {mm : MatchMaker} (h : mm.WellFormed) {group : TicketVector}
    (nodup : group.Nodup) (queued : ∀ ptr ∈ group, ptr ∈ mm.timeSortedTicketVector)
    : (group.map mm.ticketId).Nodup := by
  have known : ∀ ptr ∈ group, ptr ∈ mm.tickets :=
    fun ptr mem => h.known ptr (List.mem_append_left _ (queued ptr mem))
  exact nodup.map_on fun p memP q memQ => h.keys p (known p memP) q (known q memQ)

/-- A visit keeps the queue, and a group that it adds has no key twice. -/
theorem visit_spec {mm : MatchMaker} (h : mm.WellFormed) (clock : Nat → TimePoint)
    {search : Search} {pivot : TicketPtr} (queued : pivot ∈ mm.timeSortedTicketVector)
    (same : SameQueue mm search.mm)
    (groups : ∀ group ∈ search.mm.matchedGroups, (group.map mm.ticketId).Nodup)
    : SameQueue mm (search.visit clock pivot).mm
      ∧ ∀ group ∈ (search.visit clock pivot).mm.matchedGroups,
          (group.map mm.ticketId).Nodup := by
  unfold Search.visit
  split
  · exact ⟨same, groups⟩
  · split
    · exact ⟨same, groups⟩
    · split
      · exact ⟨same, groups⟩
      · next ticket _ _ _ =>
          dsimp only
          have wellFormed := same.wellFormed h
          obtain ⟨nodup, members⟩ := wellFormed.gatherGroup (same.queue ▸ queued)
            (matchTerms (ticket.waitTimeSeconds (clock search.reads))).1
          have keys := wellFormed.keys_nodup nodup members
          rw [same.ticketId] at keys
          split
          · have marked := same.trans (SameQueue.setMatched_foldl
              (search.mm.gatherGroup pivot
                (matchTerms (ticket.waitTimeSeconds (clock search.reads))).1) search.mm)
            refine ⟨⟨marked.mem, marked.ticketId, marked.aggression, marked.queue,
              marked.toAdd, marked.bucket⟩, ?_⟩
            intro group mem
            rcases List.mem_append.mp mem with mem | mem
            · refine groups group ?_
              rwa [SameQueue.matchedGroups_setMatched_foldl] at mem
            · rw [List.mem_singleton.mp mem]
              exact keys
          · exact ⟨same, groups⟩

/-- The search keeps the queue, and no group has a key twice, by induction on the pivots. -/
theorem findMatchGroup_spec {mm : MatchMaker} (h : mm.WellFormed) (clock : Nat → TimePoint)
    : SameQueue mm (mm.findMatchGroup clock)
      ∧ ∀ group ∈ (mm.findMatchGroup clock).matchedGroups,
          (group.map mm.ticketId).Nodup := by
  have visits : ∀ (pivots : TicketVector) (search : Search),
      (∀ pivot ∈ pivots, pivot ∈ mm.timeSortedTicketVector) → SameQueue mm search.mm →
      (∀ group ∈ search.mm.matchedGroups, (group.map mm.ticketId).Nodup) →
        SameQueue mm (pivots.foldl (Search.visit clock) search).mm
        ∧ ∀ group ∈ (pivots.foldl (Search.visit clock) search).mm.matchedGroups,
            (group.map mm.ticketId).Nodup := by
    intro pivots
    induction pivots with
    | nil => exact fun search _ same groups => ⟨same, groups⟩
    | cons pivot rest ih =>
        intro search queued same groups
        obtain ⟨same, groups⟩ := visit_spec h clock (queued pivot List.mem_cons_self) same groups
        exact ih _ (fun next mem => queued next (List.mem_cons_of_mem _ mem)) same groups
  exact visits _ _ (fun _ => id) ⟨fun _ => .rfl, rfl, rfl, rfl, rfl, rfl⟩
    fun group mem => absurd mem List.not_mem_nil

end MatchMaker

end ExtractionServer.Matchmaking
