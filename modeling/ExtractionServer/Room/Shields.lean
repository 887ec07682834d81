import Mathlib.Algebra.Order.BigOperators.Group.List
import ExtractionServer.Library.Metering
import ExtractionServer.Room.GameRoom

/-! Shields: how hits wear them down and pass through them to the hit points, and how they
regenerate between hits.
-/

namespace ExtractionServer.Room

namespace CombatState

-----------------------------------------------------------------------------------------
-- One hit
-----------------------------------------------------------------------------------------

/-- The damage that passes through a shield that survives the hit. -/
def reducedDamage (rate damage : Int) : Int := (mulInt32 damage (10000 - rate)).tdiv 10000

/-- The damage that reaches the hit points behind a shield. -/
def passingDamage (rate shield damage : Int) : Int :=
  if shield ≤ damage then damage - shield else reducedDamage rate damage

/-- The product of a hit fits into 32 bits, as its overflow is undefined. The differences of a
hit fit anyway, since neither hit points nor shields fall below zero.
-/
def ProductFits (rate damage : Int) : Prop := damage * (10000 - rate) < 2147483648

instance (rate damage : Int) : Decidable (ProductFits rate damage) :=
  inferInstanceAs (Decidable (_ < _))

theorem reducedDamage_eq {rate damage : Int} (reduces : rate ≤ 10000) (nonneg : 0 ≤ damage)
    (fits : ProductFits rate damage)
    : reducedDamage rate damage = damage * (10000 - rate) / 10000 := by
  have product : 0 ≤ damage * (10000 - rate) := Int.mul_nonneg nonneg (by omega)
  have read : mulInt32 damage (10000 - rate) = damage * (10000 - rate) := by
    unfold ProductFits at fits
    exact Int.bmod_eq_of_le (by omega) (by omega)
  rw [reducedDamage, read, Int.tdiv_eq_ediv_of_nonneg product]

theorem reducedDamage_nonneg {rate damage : Int} (reduces : rate ≤ 10000)
    (nonneg : 0 ≤ damage) (fits : ProductFits rate damage)
    : 0 ≤ reducedDamage rate damage := by
  rw [reducedDamage_eq reduces nonneg fits]
  exact Int.ediv_nonneg (Int.mul_nonneg nonneg (by omega)) (by omega)

theorem ProductFits.weaker {rate weaker stronger : Int} (reduces : rate ≤ 10000)
    (le : weaker ≤ stronger) (fits : ProductFits rate stronger)
    : ProductFits rate weaker :=
  (Int.mul_le_mul_of_nonneg_right le (by omega)).trans_lt fits

theorem reducedDamage_mono {rate weaker stronger : Int} (reduces : rate ≤ 10000)
    (nonneg : 0 ≤ weaker) (le : weaker ≤ stronger) (fits : ProductFits rate stronger)
    : reducedDamage rate weaker ≤ reducedDamage rate stronger := by
  rw [reducedDamage_eq reduces nonneg (fits.weaker reduces le),
    reducedDamage_eq reduces (nonneg.trans le) fits]
  exact Int.ediv_le_ediv (by omega) (Int.mul_le_mul_of_nonneg_right le (by omega))

/-- A hit wears the shield down, and what the shield lets through is taken from the hit
points; neither falls below zero.
-/
theorem takeDamage_eq (combat : CombatState) (damage : Int) (attackerObjectId : Nat)
    : combat.takeDamage damage attackerObjectId
      = { combat with
          currentHp := max 0 (combat.currentHp
            - passingDamage combat.damageReductionRate combat.currentShield damage)
          deathPending := combat.deathPending || decide (combat.currentHp
            ≤ passingDamage combat.damageReductionRate combat.currentShield damage)
          lastAttackerId := some attackerObjectId
          currentShield := max 0 (combat.currentShield - damage) } := by
  have hitPoints : (if combat.currentShield - damage ≤ 0 then
        combat.currentHp - -(combat.currentShield - damage)
      else combat.currentHp - reducedDamage combat.damageReductionRate damage)
      = combat.currentHp
        - passingDamage combat.damageReductionRate combat.currentShield damage := by
    unfold passingDamage
    split <;> split <;> omega
  have shield : (if combat.currentShield - damage ≤ 0 then 0
      else combat.currentShield - damage) = max 0 (combat.currentShield - damage) := by
    split <;> omega
  unfold reducedDamage at hitPoints
  simp only [takeDamage, hitPoints, shield]
  by_cases dead : combat.currentHp
      - passingDamage combat.damageReductionRate combat.currentShield damage ≤ 0
  · rw [if_pos dead, decide_eq_true (by omega), Bool.or_true, Int.max_eq_left dead]
  · rw [if_neg dead, decide_eq_false (by omega), Bool.or_false,
      Int.max_eq_right (Int.not_le.mp dead).le]

-----------------------------------------------------------------------------------------
-- Lists of hits
-----------------------------------------------------------------------------------------

/-- Hits in turn, each with its damage and its attacker. -/
def takeHits (combat : CombatState) (hits : List (Int × Nat)) : CombatState :=
  hits.foldl (fun combat hit => combat.takeDamage hit.1 hit.2) combat

/-- The products of the hits that the shields left by those before them survive all fit. -/
def HitsFit (combat : CombatState) : List (Int × Nat) → Prop
  | [] => True
  | hit :: rest =>
      (hit.1 < combat.currentShield → ProductFits combat.damageReductionRate hit.1)
      ∧ (combat.takeDamage hit.1 hit.2).HitsFit rest

/-- The same for the damages, with the shield that is left after all of them in turn. -/
def ProductsFit (rate : Int) : Int → List Int → Prop
  | _, [] => True
  | shield, damage :: rest =>
      (damage < shield → ProductFits rate damage) ∧ ProductsFit rate (shield - damage) rest

/-- The damage that passes through a shield in the hits that it survives. -/
def reducedThrough (rate : Int) : Int → List Int → Int
  | _, [] => 0
  | shield, damage :: rest =>
      (if damage < shield then reducedDamage rate damage else 0)
        + reducedThrough rate (shield - damage) rest

/-- The damage that passes through a shield of `high` in the hits that it survives and that
one of `low` does not.
-/
def reducedBetween (rate : Int) : Int → Int → List Int → Int
  | _, _, [] => 0
  | low, high, damage :: rest =>
      (if low ≤ damage ∧ damage < high then reducedDamage rate damage else 0)
        + reducedBetween rate (low - damage) (high - damage) rest

/-- The damage of a list of hits that reaches the hit points behind a shield: what passes
while it lasts, and all that exceeds it.
-/
def totalPassing (rate shield : Int) (damages : List Int) : Int :=
  reducedThrough rate shield damages + max 0 (damages.sum - shield)

/-- A higher shield lets pass what the lower one does, and more while it alone lasts. -/
theorem reducedThrough_eq (rate : Int) {low high : Int} (le : low ≤ high)
    (damages : List Int)
    : reducedThrough rate high damages
      = reducedThrough rate low damages + reducedBetween rate low high damages := by
  induction damages generalizing low high with
  | nil => rfl
  | cons damage rest ih =>
      simp only [reducedThrough, reducedBetween]
      rw [ih (show low - damage ≤ high - damage by omega)]
      by_cases below : damage < low
      · rw [if_pos below, if_pos (by omega), if_neg (by omega)]
        omega
      · by_cases under : damage < high
        · rw [if_neg below, if_pos under, if_pos (by omega)]
          omega
        · rw [if_neg below, if_neg under, if_neg (by omega)]
          omega

theorem reducedThrough_of_nonpos (rate : Int) {shield : Int} (down : shield ≤ 0)
    {damages : List Int} (nonneg : ∀ damage ∈ damages, 0 ≤ damage)
    : reducedThrough rate shield damages = 0 := by
  induction damages generalizing shield with
  | nil => rfl
  | cons damage rest ih =>
      obtain ⟨here, later⟩ := List.forall_mem_cons.mp nonneg
      simp only [reducedThrough]
      rw [if_neg (by omega), ih (by omega) later, Int.zero_add]

/-- A lower shield survives fewer hits. -/
theorem ProductsFit.lower {rate low high : Int} (le : low ≤ high) {damages : List Int}
    (fits : ProductsFit rate high damages)
    : ProductsFit rate low damages := by
  induction damages generalizing low high with
  | nil => trivial
  | cons damage rest ih =>
      obtain ⟨here, later⟩ := fits
      exact ⟨fun survives => here (survives.trans_le le), ih (by omega) later⟩

theorem productsFit_of_nonpos (rate : Int) {shield : Int} (down : shield ≤ 0)
    {damages : List Int} (nonneg : ∀ damage ∈ damages, 0 ≤ damage)
    : ProductsFit rate shield damages := by
  induction damages generalizing shield with
  | nil => trivial
  | cons damage rest ih =>
      obtain ⟨here, later⟩ := List.forall_mem_cons.mp nonneg
      exact ⟨fun survives => by omega, ih (by omega) later⟩

/-- A shield below zero survives as few hits as none. -/
theorem productsFit_max_iff (rate shield : Int) {damages : List Int}
    (nonneg : ∀ damage ∈ damages, 0 ≤ damage)
    : ProductsFit rate (max 0 shield) damages ↔ ProductsFit rate shield damages := by
  rcases Int.le_total 0 shield with up | down
  · rw [Int.max_eq_right up]
  · rw [Int.max_eq_left down]
    exact iff_of_true (productsFit_of_nonpos rate (Int.le_refl 0) nonneg)
      (productsFit_of_nonpos rate down nonneg)

theorem reducedThrough_nonneg {rate shield : Int} (reduces : rate ≤ 10000)
    {damages : List Int} (nonneg : ∀ damage ∈ damages, 0 ≤ damage)
    (fits : ProductsFit rate shield damages)
    : 0 ≤ reducedThrough rate shield damages := by
  induction damages generalizing shield with
  | nil => exact Int.le_refl 0
  | cons damage rest ih =>
      obtain ⟨here, later⟩ := List.forall_mem_cons.mp nonneg
      have behind := ih later fits.2
      simp only [reducedThrough]
      split
      · next survives =>
          have passed := reducedDamage_nonneg reduces here (fits.1 survives)
          omega
      · omega

/-- One hit takes its share, and the rest meets what is left of the shield. -/
theorem totalPassing_cons (rate shield damage : Int) {rest : List Int}
    (later : ∀ damage ∈ rest, 0 ≤ damage)
    : totalPassing rate shield (damage :: rest)
      = passingDamage rate shield damage
        + totalPassing rate (max 0 (shield - damage)) rest := by
  have sum : 0 ≤ rest.sum := List.sum_nonneg later
  simp only [totalPassing, passingDamage, reducedThrough, List.sum_cons]
  by_cases broken : shield ≤ damage
  · have left : max 0 (shield - damage) = 0 := by omega
    rw [if_neg (by omega), if_pos broken, left,
      reducedThrough_of_nonpos rate (by omega) later,
      reducedThrough_of_nonpos rate (Int.le_refl 0) later]
    omega
  · have left : max 0 (shield - damage) = shield - damage := by omega
    rw [if_pos (by omega), if_neg broken, left]
    omega

theorem totalPassing_nonneg {rate shield : Int} (reduces : rate ≤ 10000)
    {damages : List Int} (nonneg : ∀ damage ∈ damages, 0 ≤ damage)
    (fits : ProductsFit rate shield damages)
    : 0 ≤ totalPassing rate shield damages := by
  have through := reducedThrough_nonneg reduces nonneg fits
  unfold totalPassing
  omega

theorem takeHits_cons (combat : CombatState) (hit : Int × Nat) (rest : List (Int × Nat))
    : combat.takeHits (hit :: rest) = (combat.takeDamage hit.1 hit.2).takeHits rest := rfl

/-- The hit points and the shield after a hit. -/
theorem takeDamage_fields (combat : CombatState) (damage : Int) (attackerObjectId : Nat)
    : (combat.takeDamage damage attackerObjectId).currentHp
        = max 0 (combat.currentHp
          - passingDamage combat.damageReductionRate combat.currentShield damage)
      ∧ (combat.takeDamage damage attackerObjectId).currentShield
        = max 0 (combat.currentShield - damage)
      ∧ (combat.takeDamage damage attackerObjectId).damageReductionRate
        = combat.damageReductionRate := by
  rw [takeDamage_eq]
  exact ⟨rfl, rfl, rfl⟩

/-- The products of hits on an object are those of their damages, by induction on the hits. -/
theorem hitsFit_iff (combat : CombatState) {hits : List (Int × Nat)}
    (nonneg : ∀ damage ∈ hits.map Prod.fst, 0 ≤ damage)
    : combat.HitsFit hits
      ↔ ProductsFit combat.damageReductionRate combat.currentShield (hits.map Prod.fst) := by
  induction hits generalizing combat with
  | nil => exact Iff.rfl
  | cons hit rest ih =>
      obtain ⟨_, shield, rate⟩ := combat.takeDamage_fields hit.1 hit.2
      obtain ⟨_, later⟩ := List.forall_mem_cons.mp nonneg
      rw [HitsFit, ih (combat.takeDamage hit.1 hit.2) later, shield, rate,
        productsFit_max_iff _ _ later]
      exact Iff.rfl

/-- What the hits after the first one leave is what all of them leave. -/
private theorem takeHits_cons_currentHp {combat : CombatState}
    (reduces : combat.damageReductionRate ≤ 10000) {hit : Int × Nat}
    {rest : List (Int × Nat)} (later : ∀ damage ∈ rest.map Prod.fst, 0 ≤ damage)
    (fits : ProductsFit combat.damageReductionRate (combat.currentShield - hit.1)
      (rest.map Prod.fst))
    (next : ((combat.takeDamage hit.1 hit.2).takeHits rest).currentHp
      = max 0 ((combat.takeDamage hit.1 hit.2).currentHp
        - totalPassing (combat.takeDamage hit.1 hit.2).damageReductionRate
          (combat.takeDamage hit.1 hit.2).currentShield (rest.map Prod.fst)))
    : (combat.takeHits (hit :: rest)).currentHp
      = max 0 (combat.currentHp
        - totalPassing combat.damageReductionRate combat.currentShield
          ((hit :: rest).map Prod.fst)) := by
  obtain ⟨hp, shield, rate⟩ := combat.takeDamage_fields hit.1 hit.2
  have behind := totalPassing_nonneg reduces later
    ((productsFit_max_iff _ _ later).mpr fits)
  rw [takeHits_cons, next, hp, shield, rate, List.map_cons, totalPassing_cons _ _ _ later]
  omega

/-- The hit points of a shielded object after a list of hits, by induction on the list. -/
private theorem takeHits_currentHp_of_nonneg {combat : CombatState}
    (reduces : combat.damageReductionRate ≤ 10000) (alive : 0 ≤ combat.currentHp)
    (shielded : 0 ≤ combat.currentShield) {hits : List (Int × Nat)}
    (nonneg : ∀ damage ∈ hits.map Prod.fst, 0 ≤ damage)
    (fits : ProductsFit combat.damageReductionRate combat.currentShield
      (hits.map Prod.fst))
    : (combat.takeHits hits).currentHp
      = max 0 (combat.currentHp
        - totalPassing combat.damageReductionRate combat.currentShield
          (hits.map Prod.fst)) := by
  induction hits generalizing combat with
  | nil =>
      simp only [takeHits, List.foldl_nil, List.map_nil, totalPassing, reducedThrough,
        List.sum_nil]
      omega
  | cons hit rest ih =>
      obtain ⟨hp, shield, rate⟩ := combat.takeDamage_fields hit.1 hit.2
      obtain ⟨_, later⟩ := List.forall_mem_cons.mp nonneg
      apply takeHits_cons_currentHp reduces later fits.2
      apply ih
      · rwa [rate]
      · rw [hp]
        exact Int.le_max_left ..
      · rw [shield]
        exact Int.le_max_left ..
      · exact later
      · rw [rate, shield]
        exact (productsFit_max_iff _ _ later).mpr fits.2

/-- The hit points left after one or more hits. The first hit leaves neither hit points nor
shield below zero, whatever they were before.
-/
theorem takeHits_currentHp {combat : CombatState}
    (reduces : combat.damageReductionRate ≤ 10000) {hits : List (Int × Nat)}
    (some : hits ≠ []) (nonneg : ∀ damage ∈ hits.map Prod.fst, 0 ≤ damage)
    (fits : ProductsFit combat.damageReductionRate combat.currentShield
      (hits.map Prod.fst))
    : (combat.takeHits hits).currentHp
      = max 0 (combat.currentHp
        - totalPassing combat.damageReductionRate combat.currentShield
          (hits.map Prod.fst)) := by
  cases hits with
  | nil => exact absurd rfl some
  | cons hit rest =>
      obtain ⟨hp, shield, rate⟩ := combat.takeDamage_fields hit.1 hit.2
      obtain ⟨_, later⟩ := List.forall_mem_cons.mp nonneg
      apply takeHits_cons_currentHp reduces later fits.2
      apply takeHits_currentHp_of_nonneg
      · rwa [rate]
      · rw [hp]
        exact Int.le_max_left ..
      · rw [shield]
        exact Int.le_max_left ..
      · exact later
      · rw [rate, shield]
        exact (productsFit_max_iff _ _ later).mpr fits.2

-----------------------------------------------------------------------------------------
-- Higher shields and stronger hits
-----------------------------------------------------------------------------------------

def withShield (combat : CombatState) (shield : Int) : CombatState :=
  { combat with currentShield := shield }

/-- The hits that only the higher of two shields survives let less damage through it than
they wear it down, or the hits are lethal behind the lower one anyway.
-/
def SpareShieldPays (combat : CombatState) (low high : Int) (damages : List Int) : Prop :=
  damages = []
  ∨ reducedBetween combat.damageReductionRate low high damages
      ≤ min damages.sum high - min damages.sum low
  ∨ combat.currentHp ≤ totalPassing combat.damageReductionRate low damages

/-- The shield survives the weaker hit, which passes more of its damage than is left of the
stronger hit behind the broken shield, and the stronger hit is not lethal.
-/
def BreakingSpares (combat : CombatState) (weaker stronger : Int) : Prop :=
  weaker < combat.currentShield ∧ combat.currentShield ≤ stronger
  ∧ stronger - combat.currentShield < reducedDamage combat.damageReductionRate weaker
  ∧ stronger - combat.currentShield < combat.currentHp

/-- The exact condition under which a list of hits overflows neither behind a lower shield nor
behind a higher one, and the higher one leaves at least the hit points of the lower one; and
the same for a weaker and a stronger hit, of which the stronger one leaves no more.
-/
theorem hitPoints_ordered_iff (combat : CombatState)
    (reduces : combat.damageReductionRate ≤ 10000)
    : (∀ low high hits, low ≤ high → (∀ hit ∈ hits, 0 ≤ hit.1) →
        ((combat.withShield low).HitsFit hits ∧ (combat.withShield high).HitsFit hits
            ∧ ((combat.withShield low).takeHits hits).currentHp
              ≤ ((combat.withShield high).takeHits hits).currentHp
          ↔ ProductsFit combat.damageReductionRate high (hits.map Prod.fst)
            ∧ combat.SpareShieldPays low high (hits.map Prod.fst)))
      ∧ ∀ weaker stronger attackerObjectId, 0 ≤ weaker → weaker ≤ stronger →
        (combat.HitsFit [(weaker, attackerObjectId)]
            ∧ combat.HitsFit [(stronger, attackerObjectId)]
            ∧ (combat.takeDamage stronger attackerObjectId).currentHp
              ≤ (combat.takeDamage weaker attackerObjectId).currentHp
          ↔ (weaker < combat.currentShield →
              ProductFits combat.damageReductionRate weaker)
            ∧ (stronger < combat.currentShield →
              ProductFits combat.damageReductionRate stronger)
            ∧ ¬combat.BreakingSpares weaker stronger) := by
  refine ⟨fun low high hits le nonneg => ?_, fun weaker stronger attackerObjectId pos le => ?_⟩
  · have damages : ∀ damage ∈ hits.map Prod.fst, 0 ≤ damage := List.forall_mem_map.mpr nonneg
    have ordered (fits : ProductsFit combat.damageReductionRate high (hits.map Prod.fst))
        : ((combat.withShield low).takeHits hits).currentHp
            ≤ ((combat.withShield high).takeHits hits).currentHp
          ↔ combat.SpareShieldPays low high (hits.map Prod.fst) := by
      by_cases none : hits = []
      · subst none
        exact ⟨fun _ => .inl rfl, fun _ => Int.le_refl _⟩
      · have lower := fits.lower le
        have spare := reducedThrough_eq combat.damageReductionRate le (hits.map Prod.fst)
        have passing := totalPassing_nonneg reduces damages lower
        have below := @takeHits_currentHp (combat.withShield low) reduces hits none damages lower
        have above := @takeHits_currentHp (combat.withShield high) reduces hits none damages fits
        rw [below, above]
        simp only [withShield, SpareShieldPays, List.map_eq_nil_iff, none, false_or]
        unfold totalPassing at passing ⊢
        omega
    rw [hitsFit_iff _ damages, hitsFit_iff _ damages]
    constructor
    · rintro ⟨-, fits, more⟩
      exact ⟨fits, (ordered fits).mp more⟩
    · rintro ⟨fits, pays⟩
      exact ⟨fits.lower le, fits, (ordered fits).mpr pays⟩
  · simp only [HitsFit, and_true]
    refine and_congr_right fun fitsWeaker => and_congr_right fun fitsStronger => ?_
    rw [(combat.takeDamage_fields weaker _).1, (combat.takeDamage_fields stronger _).1]
    unfold passingDamage BreakingSpares
    by_cases survives : stronger < combat.currentShield
    · have mono := reducedDamage_mono reduces pos le (fitsStronger survives)
      rw [if_neg (by omega), if_neg (by omega)]
      omega
    · split <;> split <;> omega

/-- An object with half of its damage absorbed while its shield lasts. -/
def shielded (shield : Int) : CombatState :=
  { CombatState.ofMaxHp 20000 with
    maxShield := 10000, currentShield := shield, damageReductionRate := 5000 }

theorem shielded_ordered
    : (((shielded 0).withShield 0).takeHits [(4800, 7)]).currentHp
        ≤ (((shielded 0).withShield 4800).takeHits [(4800, 7)]).currentHp
      ∧ ((shielded 9000).takeDamage 4800 7).currentHp
        ≤ ((shielded 9000).takeDamage 4000 7).currentHp := by
  constructor
  · refine (((hitPoints_ordered_iff (shielded 0) (by decide)).1 0 4800 [(4800, 7)]
      (by decide) (by simp)).mpr ?_).2.2
    exact ⟨⟨fun _ => by decide, trivial⟩, .inr (.inl (by decide))⟩
  · refine (((hitPoints_ordered_iff (shielded 9000) (by decide)).2 4000 4800 7
      (by decide) (by decide)).mpr ?_).2.2
    refine ⟨fun _ => by decide, fun _ => by decide, ?_⟩
    rintro ⟨_, broken, _⟩
    exact absurd broken (by decide)

/-- A rifle shot breaks a shield of 48.00 without harm, but one of 48.01 survives it at the
price of half its damage; and the shield of 48.00 survives a weaker shot at such a price.
-/
theorem sturdier_shield_hurts
    : ((shielded 4801).takeHits [(4800, 7)]).currentHp
        < ((shielded 4800).takeHits [(4800, 7)]).currentHp
      ∧ ((shielded 4800).takeDamage 4799 7).currentHp
        < ((shielded 4800).takeDamage 4800 7).currentHp := by
  decide

-----------------------------------------------------------------------------------------
-- Regeneration
-----------------------------------------------------------------------------------------

open Metering

/-- Ticks of regeneration in turn, each with its length in milliseconds. -/
def regenShields (combat : CombatState) (ticks : List Nat) : CombatState :=
  ticks.foldl (fun combat (elapsedMs : Nat) => combat.regenShield elapsedMs) combat

/-- One tick of a living object with a shield to regenerate: the whole points that have
accrued are paid out up to the maximum.
-/
theorem regenShield_eq {combat : CombatState} (alive : combat.isAlive = true)
    (rate : 0 < combat.shieldRegenPerSec) (room : combat.currentShield < combat.maxShield)
    {elapsedMs : Int}
    (accrued : 0 ≤ combat.shieldRegenAccum + combat.shieldRegenPerSec * elapsedMs)
    : combat.regenShield elapsedMs
      = { combat with
          currentShield := min combat.maxShield (combat.currentShield
            + (combat.shieldRegenAccum + combat.shieldRegenPerSec * elapsedMs) / 1000)
          shieldRegenAccum :=
            (combat.shieldRegenAccum + combat.shieldRegenPerSec * elapsedMs) % 1000 } := by
  unfold regenShield
  rw [if_neg (by simp [alive]; omega)]
  dsimp only
  generalize combat.shieldRegenAccum + combat.shieldRegenPerSec * elapsedMs = accum at *
  rw [Int.tdiv_eq_ediv_of_nonneg accrued]
  have split := Int.mul_ediv_add_emod accum 1000
  split
  · next none =>
      have zero : accum / 1000 = 0 := by omega
      have whole : accum % 1000 = accum := by omega
      rw [zero, whole, Int.add_zero, Int.min_eq_right room.le]
  · have rest : accum - accum / 1000 * 1000 = accum % 1000 := by omega
    simp only [chargeShield, rest]
    split <;> congr 1 <;> omega

/-- Without anything to regenerate a tick only drops what has accrued. -/
theorem regenShield_of_full {combat : CombatState}
    (full : combat.maxShield ≤ combat.currentShield) (elapsedMs : Int)
    : combat.regenShield elapsedMs = { combat with shieldRegenAccum := 0 } := by
  unfold regenShield
  rw [if_pos (.inr (.inl full))]

/-- What regenerates an object from its start on, apart from its shield. -/
structure SameBody (start combat : CombatState) : Prop where
  currentHp : combat.currentHp = start.currentHp
  maxShield : combat.maxShield = start.maxShield
  shieldRegenPerSec : combat.shieldRegenPerSec = start.shieldRegenPerSec

/-- The shield follows a meter that pays its points, until it reaches the maximum. -/
structure Metered (start : CombatState) (total : Int) (combat : CombatState) : Prop where
  body : SameBody start combat
  accum : 0 ≤ combat.shieldRegenAccum ∧ combat.shieldRegenAccum < 1000
  meter : ∃ meter : Meter, meter.Accounts 1000 total
    ∧ combat.currentShield = min start.maxShield (start.currentShield + meter.paid)
    ∧ (combat.currentShield < start.maxShield → combat.shieldRegenAccum = meter.carried)

namespace Metered

variable {start combat : CombatState} {total : Int}

theorem fresh (le : start.currentShield ≤ start.maxShield)
    (none : start.shieldRegenAccum = 0)
    : Metered start 0 start where
  body := ⟨rfl, rfl, rfl⟩
  accum := by omega
  meter := ⟨{}, .start (by decide), by dsimp only; omega, fun _ => none⟩

/-- One tick, below the maximum or at it. -/
theorem regenShield (h : Metered start total combat) (alive : start.isAlive = true)
    (rate : 0 < start.shieldRegenPerSec) (elapsedMs : Nat)
    : Metered start (total + start.shieldRegenPerSec * elapsedMs)
        (combat.regenShield elapsedMs) := by
  obtain ⟨body, accum, meter, accounts, shield, carried⟩ := h
  have points : 0 ≤ start.shieldRegenPerSec * elapsedMs :=
    Int.mul_nonneg rate.le (Int.natCast_nonneg _)
  have paid := accounts.le_paid points
  by_cases room : combat.currentShield < start.maxShield
  · have living : combat.isAlive = true := by
      simpa only [isAlive, body.currentHp] using alive
    rw [regenShield_eq living (by rwa [body.shieldRegenPerSec]) (by rwa [body.maxShield])
      (by rw [body.shieldRegenPerSec]; omega)]
    refine ⟨⟨body.currentHp, body.maxShield, body.shieldRegenPerSec⟩, ?_,
      meter.add 1000 _, accounts.add _, ?_, fun _ => ?_⟩
    · dsimp only
      omega
    · simp only [Meter.add, body.maxShield, body.shieldRegenPerSec, carried room]
      omega
    · simp only [Meter.add, body.shieldRegenPerSec, carried room]
  · rw [regenShield_of_full (by rw [body.maxShield]; omega)]
    refine ⟨⟨body.currentHp, body.maxShield, body.shieldRegenPerSec⟩, by simp,
      meter.add 1000 _, accounts.add _, ?_, fun below => absurd below room⟩
    dsimp only
    omega

/-- A list of ticks, by induction on it. -/
theorem regenShields (h : Metered start total combat) (alive : start.isAlive = true)
    (rate : 0 < start.shieldRegenPerSec) (ticks : List Nat)
    : Metered start (total + start.shieldRegenPerSec * ticks.sum)
        (combat.regenShields ticks) := by
  induction ticks generalizing combat total with
  | nil =>
      rw [List.sum_nil, Int.natCast_zero, Int.mul_zero, Int.add_zero]
      exact h
  | cons elapsedMs rest ih =>
      have later := ih (h.regenShield alive rate elapsedMs)
      rw [List.sum_cons, Int.natCast_add, Int.mul_add, ← Int.add_assoc]
      exact later

end Metered

theorem regenShields_of_full {combat : CombatState}
    (full : combat.maxShield ≤ combat.currentShield) (none : combat.shieldRegenAccum = 0)
    (ticks : List Nat)
    : (combat.regenShields ticks).currentShield = combat.currentShield
      ∧ (combat.regenShields ticks).shieldRegenAccum = 0 := by
  induction ticks with
  | nil => exact ⟨rfl, none⟩
  | cons elapsedMs rest ih =>
      have same : combat.regenShield elapsedMs = combat := by
        rw [regenShield_of_full full, ← none]
      rw [← same] at ih
      simpa only [regenShields, List.foldl_cons, same] using ih

/-- Ticks as a room's updates make them. -/
def Short (ticks : List Nat) : Prop :=
  ∀ elapsedMs ∈ ticks, elapsedMs ≤ GameRoom.MAX_REGEN_STEP_MS.toNat

/-- What changes a shield in the course of a raid. -/
inductive ShieldChange where
  | tick (elapsedMs : Nat)
  | hit (damage : Int) (attackerObjectId : Nat)
  | armor (maxShield damageReductionRate regenPerSec : Int)
  | charge (amount : Int)
deriving DecidableEq, Repr

def ShieldChange.Legal : ShieldChange → Prop
  | .hit damage _ => 0 ≤ damage
  | .armor maxShield _ _ => 0 ≤ maxShield
  | .tick _ | .charge _ => True

def undergo (combat : CombatState) : ShieldChange → CombatState
  | .tick elapsedMs => combat.regenShield elapsedMs
  | .hit damage attackerObjectId => combat.takeDamage damage attackerObjectId
  | .armor maxShield damageReductionRate regenPerSec =>
      combat.setShield maxShield damageReductionRate regenPerSec
  | .charge amount => combat.chargeShield amount

def undergoAll (combat : CombatState) (changes : List ShieldChange) : CombatState :=
  changes.foldl undergo combat

/-- A shield is at most its maximum. -/
structure WithinMaximum (combat : CombatState) : Prop where
  maxShield : 0 ≤ combat.maxShield
  currentShield : combat.currentShield ≤ combat.maxShield

namespace WithinMaximum

variable {combat : CombatState}

theorem chargeShield (h : combat.WithinMaximum) (amount : Int)
    : (combat.chargeShield amount).WithinMaximum := by
  refine ⟨h.maxShield, ?_⟩
  simp only [CombatState.chargeShield]
  split <;> omega

theorem regenShield (h : combat.WithinMaximum) (elapsedMs : Int)
    : (combat.regenShield elapsedMs).WithinMaximum := by
  simp only [CombatState.regenShield]
  split
  · exact ⟨h.maxShield, h.currentShield⟩
  · split
    · exact ⟨h.maxShield, h.currentShield⟩
    · apply chargeShield
      exact ⟨h.maxShield, h.currentShield⟩

theorem takeDamage (h : combat.WithinMaximum) {damage : Int} (nonneg : 0 ≤ damage)
    (attackerObjectId : Nat)
    : (combat.takeDamage damage attackerObjectId).WithinMaximum := by
  rw [takeDamage_eq]
  have le := h.currentShield
  exact ⟨h.maxShield, Int.max_le.mpr ⟨h.maxShield, by dsimp only; omega⟩⟩

theorem undergo (h : combat.WithinMaximum) {change : ShieldChange} (legal : change.Legal)
    : (combat.undergo change).WithinMaximum := by
  cases change with
  | tick elapsedMs => exact h.regenShield elapsedMs
  | hit damage attackerObjectId => exact h.takeDamage legal attackerObjectId
  | armor maxShield rate regen => exact ⟨legal, legal⟩
  | charge amount => exact h.chargeShield amount

theorem undergoAll (h : combat.WithinMaximum) (changes : List ShieldChange)
    (legal : ∀ change ∈ changes, change.Legal)
    : (combat.undergoAll changes).WithinMaximum := by
  induction changes generalizing combat with
  | nil => exact h
  | cons change rest ih =>
      obtain ⟨here, later⟩ := List.forall_mem_cons.mp legal
      exact ih (h.undergo here) later

end WithinMaximum

/-- A living object whose shield has just been set gains the floor of all that has accrued,
however the time is split into ticks; the accumulator stays within 32 bits, and nothing that
happens in between lifts the shield above its maximum.
-/
theorem regeneration_telescopes {combat : CombatState} (alive : combat.isAlive = true)
    (rate : 0 < combat.shieldRegenPerSec)
    (fits : combat.shieldRegenPerSec * 1000 + 1000 < 2147483648)
    (none : combat.shieldRegenAccum = 0)
    : (∀ ticks : List Nat, Short ticks →
        (combat.regenShields ticks).currentShield < combat.maxShield →
        (combat.regenShields ticks).currentShield - combat.currentShield
          = combat.shieldRegenPerSec * ticks.sum / 1000)
      ∧ (∀ first second : List Nat, Short first → Short second → first.sum = second.sum →
        (combat.regenShields first).currentShield
          = (combat.regenShields second).currentShield)
      ∧ (∀ (ticks : List Nat) (elapsedMs : Nat), Short (ticks ++ [elapsedMs]) →
        0 ≤ (combat.regenShields ticks).shieldRegenAccum
        ∧ (combat.regenShields ticks).shieldRegenAccum
            + combat.shieldRegenPerSec * elapsedMs < 2147483648)
      ∧ (combat.WithinMaximum →
        ∀ changes : List ShieldChange, (∀ change ∈ changes, change.Legal) →
        (combat.undergoAll changes).currentShield
          ≤ (combat.undergoAll changes).maxShield) := by
  have meters : combat.currentShield ≤ combat.maxShield → ∀ ticks : List Nat,
      Metered combat (combat.shieldRegenPerSec * ticks.sum) (combat.regenShields ticks) := by
    intro le ticks
    have metered := (Metered.fresh le none).regenShields alive rate ticks
    rwa [Int.zero_add] at metered
  refine ⟨fun ticks _ below => ?_, fun first second _ _ same => ?_,
    fun ticks elapsedMs short => ?_, fun within changes legal => ?_⟩
  · by_cases le : combat.currentShield ≤ combat.maxShield
    · obtain ⟨_, _, meter, accounts, shield, _⟩ := meters le ticks
      have paid := accounts.paid_eq
      omega
    · have stays := (regenShields_of_full (by omega) none ticks).1
      omega
  · by_cases le : combat.currentShield ≤ combat.maxShield
    · obtain ⟨_, _, meter, accounts, shield, _⟩ := meters le first
      obtain ⟨_, _, other, alike, again, _⟩ := meters le second
      rw [shield, again, accounts.paid_eq, alike.paid_eq, same]
    · rw [(regenShields_of_full (by omega) none first).1,
        (regenShields_of_full (by omega) none second).1]
  · have accum : 0 ≤ (combat.regenShields ticks).shieldRegenAccum
        ∧ (combat.regenShields ticks).shieldRegenAccum < 1000 := by
      by_cases le : combat.currentShield ≤ combat.maxShield
      · exact (meters le ticks).accum
      · have none := (regenShields_of_full (by omega) none ticks).2
        omega
    have step : (elapsedMs : Int) ≤ 1000 :=
      Int.ofNat_le.mpr (short elapsedMs (by simp))
    have points := Int.mul_le_mul_of_nonneg_left step rate.le
    exact ⟨accum.1, by omega⟩
  · exact (within.undergoAll changes legal).currentShield

/-- A player who has just put on a light vest. -/
def vested : CombatState := (CombatState.ofMaxHp 20000).setShield 10000 5000 800

theorem vested_regenerates
    : (vested.regenShields [333, 1000, 1]).currentShield - vested.currentShield = 1067
      ∧ (vested.regenShields [333, 1000, 1]).currentShield
        = (vested.regenShields [1000, 334]).currentShield
      ∧ (vested.undergoAll [.tick 1000, .hit 700 7, .armor 0 0 0, .tick 50]).currentShield
        ≤ (vested.undergoAll [.tick 1000, .hit 700 7, .armor 0 0 0, .tick 50]).maxShield := by
  obtain ⟨gains, splits, _, bounded⟩ := regeneration_telescopes
    (show vested.isAlive = true by decide) (by decide) (by decide) rfl
  refine ⟨?_, ?_, ?_⟩
  · exact gains [333, 1000, 1] (by unfold Short; decide) (by decide)
  · exact splits _ _ (by unfold Short; decide) (by unfold Short; decide) rfl
  · exact bounded ⟨by decide, by decide⟩ _ (by simp [ShieldChange.Legal])

end CombatState

/-- New armor sets the shield anew. -/
theorem PlayerObject.setArmor_combat (object : PlayerObject) (armorId : Nat)
    : ∃ maxShield rate regen, 0 ≤ maxShield
      ∧ (object.setArmor armorId).combat = object.combat.setShield maxShield rate regen := by
  unfold setArmor
  split
  · next spec found =>
      refine ⟨spec.maxShieldPoint, _, _, ?_, rfl⟩
      unfold ItemDataManager.getArmorSpec at found
      split at found <;> cases found <;> decide
  · exact ⟨0, 0, 0, Int.le_refl 0, rfl⟩

/-- An update of the room is one short tick for all players, after the first update, which
only starts the clock.
-/
theorem RoomHost.regenPlayerShields_tick (env : Environment) (host : RoomHost)
    : (host.regenPlayerShields env).room.playerObjects = host.room.playerObjects
      ∨ ∃ elapsedMs : Nat, CombatState.Short [elapsedMs]
        ∧ ∀ objectId, (host.regenPlayerShields env).room.playerObjects.lookup objectId
          = (host.room.playerObjects.lookup objectId).map fun object =>
            { object with combat := object.combat.regenShields [elapsedMs] } := by
  unfold regenPlayerShields
  dsimp only
  split
  · exact .inl rfl
  · refine .inr ⟨_, ?_, fun objectId => Table.lookup_mapWithKey _ _ objectId⟩
    simp only [CombatState.Short, List.forall_mem_singleton]
    split
    · exact Nat.le_refl _
    · next within => exact BitVec.le_def.mp (BitVec.not_lt.mp within)

end ExtractionServer.Room
