import ApexEdge.Pos.CheckedPricing
import ApexEdge.Proofs.ExactPromos

/-! Where a promotion leaves the range of the integers. The units that its conditions count, a
product for each eligible line, its percentage, the parts in proportion, and what is left for the
last line decide it; nothing else in a promotion can. -/

namespace ApexEdge.Proofs.PromoArithmetic
open Library Payment Domain Contracts Pos Promotions
open Library.Checked (Exact)
open Library.Handout (served)
open Proofs.PromoShares

section Numbers

theorem u64_exact (result : Nat) : Exact (CheckedPricing.u64 result) (wrap64 result) (result ≤ u64Max) :=
  (Checked.below_exact _ result).congr (by unfold u64Max; omega) fun _ => rfl

theorem sum64_exact (terms : List Nat) :
    Exact (CheckedPricing.sum64 terms) (wrap64 terms.sum) (terms.sum ≤ u64Max) := by
  refine (Checked.sum_exact (by decide) terms).congr (by unfold u64Max; omega) fun _ => ?_
  rw [Nat.zero_add]
  rfl

theorem sum32_exact (terms : List Nat) :
    Exact (CheckedPricing.sum32 terms) (wrap32 terms.sum) (terms.sum ≤ u32Max) := by
  refine (Checked.sum_exact (by decide) terms).congr (by unfold u32Max; omega) fun _ => ?_
  rw [Nat.zero_add]
  rfl

end Numbers

section Conditions
variable (lines : List CartLineItem) (categoryByItem : Uuid → Uuid)

/-- The units of the lines that count. -/
def unitsOf (counts : CartLineItem → Bool) : Nat := ((lines.filter counts).map CartLineItem.quantity).sum

/-- The units that a condition counts. -/
def counted (condition : PromoCondition) : Nat :=
  match condition with
  | .minBasketAmount _ => 0
  | .itemInBasket itemId _ => unitsOf lines (·.itemId = itemId)
  | .categoryInBasket categoryId _ => unitsOf lines fun line => categoryByItem line.itemId = categoryId

/-- The units counted by each condition up to the first that is not met. -/
def ConditionsFit (subtotalCents : Nat) (conditions : List PromoCondition) : Prop :=
  match conditions with
  | [] => True
  | condition :: conditions => counted lines categoryByItem condition ≤ u32Max ∧
      (conditionMet lines subtotalCents categoryByItem condition → ConditionsFit subtotalCents conditions)

variable {lines categoryByItem} {subtotalCents : Nat} {conditions : List PromoCondition}

theorem quantityOf_exact (counts : CartLineItem → Bool) :
    Exact (CheckedPricing.quantityOf lines counts) (quantityOf counts lines) (unitsOf lines counts ≤ u32Max) :=
  sum32_exact _

theorem conditionMet_exact (condition : PromoCondition) :
    Exact (CheckedPricing.conditionMet lines categoryByItem subtotalCents condition)
      (conditionMet lines subtotalCents categoryByItem condition)
      (counted lines categoryByItem condition ≤ u32Max) := by
  cases condition with
  | minBasketAmount amountCents => exact (Exact.pure _).congr (by simp [counted]) fun _ => rfl
  | itemInBasket itemId minQuantity => exact (quantityOf_exact _).map _
  | categoryInBasket categoryId minQuantity => exact (quantityOf_exact _).map _

theorem conditionsMet_exact : Exact (CheckedPricing.conditionsMet lines categoryByItem subtotalCents conditions)
    (conditionsMet lines subtotalCents conditions categoryByItem)
    (ConditionsFit lines categoryByItem subtotalCents conditions) := by
  induction conditions with
  | nil => exact (Exact.pure true).congr Iff.rfl fun _ => rfl
  | cons condition conditions ih =>
    refine (conditionMet_exact condition).bind fun _ => ?_
    have step : conditionsMet lines subtotalCents (condition :: conditions) categoryByItem =
        (conditionMet lines subtotalCents categoryByItem condition &&
          conditionsMet lines subtotalCents conditions categoryByItem) := List.all_cons
    rw [step]
    cases conditionMet lines subtotalCents categoryByItem condition with
    | false => exact (Exact.pure false).congr (by simp) fun _ => rfl
    | true => exact ih.congr (by simp) fun _ => rfl

theorem counted_of_fit (fit : ConditionsFit lines categoryByItem subtotalCents conditions)
    (met : conditionsMet lines subtotalCents conditions categoryByItem = true) :
    ∀ condition ∈ conditions, counted lines categoryByItem condition ≤ u32Max := by
  induction conditions with
  | nil => simp
  | cons condition conditions ih =>
    have each := List.all_eq_true.mp met
    refine List.forall_mem_cons.mpr ⟨fit.1, ih (fit.2 (each condition List.mem_cons_self)) ?_⟩
    exact List.all_eq_true.mpr fun other member => each other (List.mem_cons_of_mem condition member)

/-- The units that repeat a cap have been counted by the condition that asks for them. -/
theorem counted_of_target {target : Target} {triggerUnits : Nat}
    (asked : conditions.findSome? target.minQuantity = some triggerUnits) :
    ∃ condition ∈ conditions,
      counted lines categoryByItem condition = unitsOf lines (target.matches categoryByItem) := by
  obtain ⟨condition, member, asks⟩ := List.exists_of_findSome?_eq_some asked
  refine ⟨condition, member, ?_⟩
  cases target <;> cases condition <;> simp only [Target.minQuantity] at asks
  all_goals first
    | cases asks
    | (split at asks
       next same => subst same; rfl
       next => cases asks)

theorem repeatGroups_exact {target : Target}
    (counts : ∀ condition ∈ conditions, counted lines categoryByItem condition ≤ u32Max) :
    Exact (CheckedPricing.repeatGroups lines categoryByItem target (conditions.findSome? target.minQuantity))
      (match conditions.findSome? target.minQuantity with
        | none => 1
        | some triggerUnits => if triggerUnits = 0 then 1
          else max (quantityOf (target.matches categoryByItem) lines / triggerUnits) 1) True := by
  cases asked : conditions.findSome? target.minQuantity with
  | none => exact Exact.pure 1
  | some triggerUnits =>
    obtain ⟨condition, member, same⟩ := @counted_of_target lines categoryByItem _ _ _ asked
    exact ((quantityOf_exact _).map _).congr (iff_true_intro (same ▸ counts condition member)) fun _ => rfl

theorem effectiveMaxUnits_exact {actions : List PromoAction}
    (counts : ∀ condition ∈ conditions, counted lines categoryByItem condition ≤ u32Max) :
    Exact (CheckedPricing.effectiveMaxUnits lines categoryByItem actions conditions)
      (effectiveMaxUnits lines actions conditions categoryByItem) True := by
  unfold CheckedPricing.effectiveMaxUnits effectiveMaxUnits
  cases actions.findSome? Target.ofAction with
  | none => exact Exact.pure none
  | some aimed =>
    obtain ⟨target, actionMaxQuantity⟩ := aimed
    dsimp only [bind, Option.bind]
    cases actionMaxQuantity.or (conditions.findSome? target.minQuantity) with
    | none => exact Exact.pure none
    | some baseMaxUnits => exact (repeatGroups_exact counts).map _

end Conditions

section Lines
variable {lines : List CartLineItem} {categoryByItem : Uuid → Uuid} {amounts : LineAmounts} {promo : Promotion}

/-- What a line still costs is no more than it did, and as long as anything is left of it, its
discount is what it costs less. -/
def Bounded (lines : List CartLineItem) (amounts : LineAmounts) : Prop :=
  ∀ line ∈ lines, amounts.totals line.lineId ≤ line.lineTotalCents ∧
    (amounts.totals line.lineId ≠ 0 → amounts.discounts line.lineId + amounts.totals line.lineId ≤ line.lineTotalCents)

theorem capUnits_totals {totals : Uuid → Nat} {remaining : Nat} :
    ∀ part ∈ capUnits totals remaining lines, totals (partId part) ≠ 0 := by
  induction lines generalizing remaining with
  | nil => simp [capUnits]
  | cons line lines ih =>
    intro part member
    unfold capUnits at member
    split at member
    · exact ih part member
    next costs =>
      rcases List.mem_cons.mp member with rfl | later
      · exact costs
      · split at later
        · cases later
        · exact ih part later

/-- No more units are given out than there are. -/
theorem capUnits_sum_le {totals : Uuid → Nat} {remaining : Nat} :
    ((capUnits totals remaining lines).map Prod.snd).sum ≤ remaining := by
  induction lines generalizing remaining with
  | nil => exact Nat.zero_le _
  | cons line lines ih =>
    unfold capUnits
    split
    · exact ih
    · have given : min line.quantity remaining ≤ remaining := Nat.min_le_right _ _
      rw [List.map_cons, List.sum_cons]
      split
      · exact given
      · have later := @ih (remaining - min line.quantity remaining)
        omega

theorem effectiveMaxUnits_le {actions : List PromoAction} {conditions : List PromoCondition} :
    (effectiveMaxUnits lines actions conditions categoryByItem).getD u32Max ≤ u32Max := by
  cases limited : effectiveMaxUnits lines actions conditions categoryByItem with
  | none => exact Nat.le_refl _
  | some maxUnits =>
    simp only [effectiveMaxUnits, bind, Option.bind_eq_some_iff] at limited
    obtain ⟨_, _, _, _, limited⟩ := limited
    exact (Option.some.inj limited) ▸ Nat.min_le_right _ _

theorem eligibleUnit_qty {totals : Uuid → Nat} {part : CartLineItem × Nat} {unit : Nat × Nat}
    (eligible : eligibleUnit totals part = some unit) : unit.2 = part.2 := by
  unfold eligibleUnit at eligible
  split at eligible <;> cases eligible
  rfl

theorem sum_filterMap_le {capped : List (CartLineItem × Nat)} {totals : Uuid → Nat} :
    ((capped.filterMap (eligibleUnit totals)).map Prod.snd).sum ≤ (capped.map Prod.snd).sum := by
  induction capped with
  | nil => exact Nat.le_refl _
  | cons part capped ih =>
    rw [List.filterMap_cons, List.map_cons, List.sum_cons]
    split
    · omega
    next unit eligible =>
      rw [List.map_cons, List.sum_cons, eligibleUnit_qty eligible]
      omega

/-- A new unit price takes no more off a line than it still costs. -/
theorem overrideDiscount_le {totals : Uuid → Nat} {priceCents : Nat} {part : CartLineItem × Nat}
    (units : part.2 ≤ part.1.quantity) : overrideDiscount totals priceCents part ≤ totals (partId part) := by
  cases eligible : eligibleUnit totals part with
  | none => simp [overrideDiscount, eligible]
  | some unit =>
    obtain ⟨currentUnit, qty⟩ := unit
    simp only [overrideDiscount, eligible]
    split
    · exact Nat.zero_le _
    · unfold eligibleUnit at eligible
      split at eligible
      · cases eligible
      next whole =>
        obtain ⟨rfl, rfl⟩ := Prod.mk.inj (Option.some.inj eligible)
        have some : 0 < part.1.quantity := by omega
        have scaled : totals part.1.lineId * part.2 ≤ totals part.1.lineId * part.1.quantity :=
          Nat.mul_le_mul_left _ units
        calc saturatingMul (saturatingMul (totals part.1.lineId) part.2 / part.1.quantity / part.2 - priceCents) part.2
            ≤ (saturatingMul (totals part.1.lineId) part.2 / part.1.quantity / part.2) * part.2 :=
              (Nat.min_le_left _ _).trans (Nat.mul_le_mul_right _ (Nat.sub_le _ _))
          _ ≤ saturatingMul (totals part.1.lineId) part.2 / part.1.quantity := Nat.div_mul_le_self _ _
          _ ≤ totals part.1.lineId * part.1.quantity / part.1.quantity :=
              Nat.div_le_div_right ((Nat.min_le_left _ _).trans scaled)
          _ = totals (partId part) := Nat.mul_div_cancel _ some

theorem capped_units {totals : Uuid → Nat} : ∀ part ∈ cappedOf lines categoryByItem totals promo,
    part.2 ≤ part.1.quantity := PromoAllocation.capUnits_le

/-- Whatever a promotion is allocated to costs no more than all lines do. -/
theorem capped_sum_le (bounded : Bounded lines amounts) {value : CartLineItem × Nat → Nat}
    (within : ∀ part ∈ cappedOf lines categoryByItem amounts.totals promo, value part ≤ amounts.totals (partId part)) :
    ((cappedOf lines categoryByItem amounts.totals promo).map value).sum ≤
      (lines.map CartLineItem.lineTotalCents).sum := by
  obtain ⟨sorted, same, part_of⟩ := @capped_sublist lines categoryByItem amounts.totals promo
  have eligible : (eligibleLines lines categoryByItem promo).Sublist lines := List.filter_sublist
  calc ((cappedOf lines categoryByItem amounts.totals promo).map value).sum
      ≤ ((cappedOf lines categoryByItem amounts.totals promo).map fun part => part.1.lineTotalCents).sum :=
        List.sum_le_sum fun part member => (within part member).trans (bounded part.1 (capped_lines member)).1
    _ = (((cappedOf lines categoryByItem amounts.totals promo).map Prod.fst).map CartLineItem.lineTotalCents).sum := by
        rw [List.map_map]
        rfl
    _ ≤ (sorted.map CartLineItem.lineTotalCents).sum := (part_of.map _).sum_le_sum fun _ _ => Nat.zero_le _
    _ = ((eligibleLines lines categoryByItem promo).map CartLineItem.lineTotalCents).sum := (same.map _).sum_eq
    _ ≤ (lines.map CartLineItem.lineTotalCents).sum := (eligible.map _).sum_le_sum fun _ _ => Nat.zero_le _

end Lines

section Discounts
variable {lines : List CartLineItem} {categoryByItem : Uuid → Uuid} {amounts : LineAmounts} {promo : Promotion}
  {totals : Uuid → Nat} {capped : List (CartLineItem × Nat)}

theorem eligibleCents_exact {part : CartLineItem × Nat} (units : part.2 ≤ part.1.quantity) :
    Exact (CheckedPricing.eligibleCents totals part) (eligibleCents totals part)
      (totals (partId part) * part.2 ≤ u64Max) := by
  unfold CheckedPricing.eligibleCents eligibleCents
  split
  next none =>
    have free : part.2 = 0 := by omega
    exact (Exact.pure 0).congr (by simp [free]) fun _ => rfl
  next => exact (u64_exact _).map _

theorem eligibleTotal_exact (units : ∀ part ∈ capped, part.2 ≤ part.1.quantity)
    (fits : (capped.map (eligibleCents totals)).sum ≤ u64Max) :
    Exact (CheckedPricing.eligibleTotal totals capped) (wrap64 (capped.map (eligibleCents totals)).sum)
      (∀ part ∈ capped, totals (partId part) * part.2 ≤ u64Max) := by
  have each := Checked.mapM_exact fun part member => @eligibleCents_exact totals part (units part member)
  exact (each.bind fun _ => sum64_exact _).congr (and_iff_left fits) fun _ => rfl

theorem bundleDiscount_exact {buyQuantity getQuantity : Nat} (given : (capped.map Prod.snd).sum ≤ u32Max) :
    Exact (CheckedPricing.bundleDiscount totals capped buyQuantity getQuantity)
      (bundleDiscount totals capped buyQuantity getQuantity) True := by
  have fits := (@sum_filterMap_le capped totals).trans given
  unfold CheckedPricing.bundleDiscount bundleDiscount
  dsimp only
  split
  next empty => exact (Exact.pure 0).congr Iff.rfl fun _ => (if_pos (by tauto)).symm
  next whole =>
    refine ((sum32_exact _).map _).congr (iff_true_intro fits) fun _ => ?_
    split
    next few => exact (if_pos (Or.inr (Or.inr few))).symm
    next enough => exact (if_neg (by tauto)).symm

/-- What a percentage is taken of. -/
def PercentFits (promoType : PromotionType) (applicableTotal : Nat) : Prop :=
  match promoType with
  | .percentageOff percentBps => applicableTotal * percentBps ≤ u64Max
  | _ => True

/-- What a promotion takes off lines of which this much is eligible. -/
def typeDiscount (totals : Uuid → Nat) (promoType : PromotionType) (capped : List (CartLineItem × Nat))
    (applicableTotal : Nat) : Nat :=
  match promoType with
  | .percentageOff percentBps => wrap64 (applicableTotal * percentBps) / 10000
  | .fixedAmountOff amountCents => min amountCents applicableTotal
  | .buyXGetY buyQuantity getQuantity => min (bundleDiscount totals capped buyQuantity getQuantity) applicableTotal
  | .priceOverride priceCents => min (wrap64 (capped.map (overrideDiscount totals priceCents)).sum) applicableTotal

theorem typeDiscount_exact {promoType : PromotionType} {applicableTotal : Nat}
    (given : (capped.map Prod.snd).sum ≤ u32Max)
    (overrides : ∀ priceCents, (capped.map (overrideDiscount totals priceCents)).sum ≤ u64Max) :
    Exact (CheckedPricing.typeDiscount totals promoType capped applicableTotal)
      (typeDiscount totals promoType capped applicableTotal) (PercentFits promoType applicableTotal) := by
  cases promoType with
  | percentageOff percentBps => exact (u64_exact _).map _
  | fixedAmountOff amountCents => exact Exact.pure _
  | buyXGetY buyQuantity getQuantity => exact (bundleDiscount_exact given).map _
  | priceOverride priceCents =>
    exact ((sum64_exact _).map _).congr (iff_true_intro (overrides priceCents)) fun _ => rfl

theorem percentFits_zero (promoType : PromotionType) : PercentFits promoType 0 := by
  cases promoType <;> simp [PercentFits]

/-- Each eligible part of a line is in range before it is divided. -/
def UnitsFit (lines : List CartLineItem) (categoryByItem : Uuid → Uuid) (totals : Uuid → Nat) (promo : Promotion) :
    Prop :=
  ∀ part ∈ cappedOf lines categoryByItem totals promo, totals (partId part) * part.2 ≤ u64Max

variable (counts : ∀ condition ∈ promo.conditions, counted lines categoryByItem condition ≤ u32Max)
  (bounded : Bounded lines amounts) (priced : (lines.map CartLineItem.lineTotalCents).sum ≤ u64Max)

include bounded priced in
theorem cappedTotal_exact :
    Exact (CheckedPricing.eligibleTotal amounts.totals (cappedOf lines categoryByItem amounts.totals promo))
      (eligibleOf lines categoryByItem amounts.totals promo) (UnitsFit lines categoryByItem amounts.totals promo) := by
  refine eligibleTotal_exact capped_units ?_
  exact (capped_sum_le bounded fun part member =>
    PromoAllocation.eligibleCents_le (capped_units part member)).trans priced

include counts bounded priced in
theorem computePromoDiscount_exact :
    Exact (CheckedPricing.computePromoDiscount promo.promoType lines amounts.totals promo.actions promo.conditions
        categoryByItem)
      (discountOf lines categoryByItem amounts.totals promo)
      (UnitsFit lines categoryByItem amounts.totals promo ∧
        PercentFits promo.promoType (eligibleOf lines categoryByItem amounts.totals promo)) := by
  have overrides (priceCents : Nat) : ((cappedOf lines categoryByItem amounts.totals promo).map
      (overrideDiscount amounts.totals priceCents)).sum ≤ u64Max :=
    (capped_sum_le bounded fun part member => overrideDiscount_le (capped_units part member)).trans priced
  have given : ((cappedOf lines categoryByItem amounts.totals promo).map Prod.snd).sum ≤ u32Max :=
    capUnits_sum_le.trans effectiveMaxUnits_le
  have typed : Exact (if eligibleOf lines categoryByItem amounts.totals promo = 0 then some 0
        else CheckedPricing.typeDiscount amounts.totals promo.promoType
          (cappedOf lines categoryByItem amounts.totals promo) (eligibleOf lines categoryByItem amounts.totals promo))
      (discountOf lines categoryByItem amounts.totals promo)
      (PercentFits promo.promoType (eligibleOf lines categoryByItem amounts.totals promo)) := by
    by_cases worthless : eligibleOf lines categoryByItem amounts.totals promo = 0
    · rw [if_pos worthless, discountOf_worthless worthless, worthless]
      exact (Exact.pure 0).congr (iff_of_true trivial (percentFits_zero _)) fun _ => rfl
    · rw [if_neg worthless]
      exact (typeDiscount_exact given overrides).congr Iff.rfl fun _ => (if_neg worthless).symm
  exact Exact.congr (Exact.bind (effectiveMaxUnits_exact counts) fun _ =>
    Exact.bind (cappedTotal_exact bounded priced) fun _ => typed) (and_iff_right trivial) fun _ => rfl

end Discounts

section Allocation
variable {lines : List CartLineItem} {categoryByItem : Uuid → Uuid} {amounts : LineAmounts} {promo : Promotion}
  {totals : Uuid → Nat} {capped : List (CartLineItem × Nat)} {totalDiscount eligibleTotal remaining : Nat}

theorem discount_exact (lineId : Uuid) (cents : Nat) :
    Exact (CheckedPricing.discount amounts lineId cents) (amounts.discount lineId cents)
      (amounts.discounts lineId + cents ≤ u64Max) := by
  refine ((u64_exact _).map _).congr Iff.rfl fun _ => ?_
  unfold LineAmounts.discount
  congr
  funext id
  split
  next same => rw [same]
  next => rfl

/-- The parts of all lines but the last are in range before they are divided. -/
def PartsFit (totals : Uuid → Nat) (totalDiscount : Nat) (capped : List (CartLineItem × Nat)) : Prop :=
  ∀ part ∈ capped.dropLast, totalDiscount * eligibleCents totals part ≤ u64Max

/-- What a line is given of a discount is in range together with what it was given before. -/
def SharesFit (amounts : LineAmounts) (totalDiscount eligibleTotal remaining : Nat)
    (capped : List (CartLineItem × Nat)) : Prop :=
  ∀ part share, (part, share) ∈ capped.zip (shares amounts.totals totalDiscount eligibleTotal remaining capped) →
    amounts.discounts (partId part) + share ≤ u64Max

theorem lineShare_exact {eligible : Nat} {isLast : Bool} :
    Exact (CheckedPricing.lineShare totalDiscount eligibleTotal remaining eligible isLast)
      (if isLast then if eligible = 0 then 0 else remaining
        else min (min (wrap64 (totalDiscount * eligible) / eligibleTotal) eligible) remaining)
      (isLast = false → totalDiscount * eligible ≤ u64Max) := by
  unfold CheckedPricing.lineShare
  by_cases worthless : eligible = 0
  · rw [if_pos worthless]
    exact (Exact.pure 0).congr (by simp [worthless]) fun _ => by simp [worthless]
  · rw [if_neg worthless]
    cases isLast with
    | true => exact (Exact.pure remaining).congr (by simp) fun _ => by simp [worthless]
    | false =>
      refine ((u64_exact _).map _).congr (by simp) fun _ => ?_
      exact min_right_comm _ _ _

theorem partsFit_cons {first : CartLineItem × Nat} {rest : List (CartLineItem × Nat)} :
    PartsFit totals totalDiscount (first :: rest) ↔
      (rest.isEmpty = false → totalDiscount * eligibleCents totals first ≤ u64Max) ∧
        PartsFit totals totalDiscount rest := by
  cases rest with
  | nil => simp [PartsFit]
  | cons second rest => simp [PartsFit, List.dropLast_cons_of_ne_nil]

theorem sharesFit_cons {first : CartLineItem × Nat} {rest : List (CartLineItem × Nat)} {share : Nat}
    (taken : shares amounts.totals totalDiscount eligibleTotal remaining (first :: rest) =
      share :: shares amounts.totals totalDiscount eligibleTotal (remaining - share) rest)
    (apart : ∀ part ∈ rest, partId part ≠ partId first) :
    SharesFit amounts totalDiscount eligibleTotal remaining (first :: rest) ↔
      amounts.discounts (partId first) + share ≤ u64Max ∧
        SharesFit (amounts.discount (partId first) share) totalDiscount eligibleTotal (remaining - share) rest := by
  have same : ∀ part ∈ rest,
      amounts.totals (partId part) = (amounts.discount (partId first) share).totals (partId part) :=
    fun part member => (discount_other amounts share (apart part member)).1.symm
  unfold SharesFit
  rw [taken, ← shares_congr same]
  constructor
  · intro fit
    refine ⟨fit first share List.mem_cons_self, fun part given member => ?_⟩
    rw [(discount_other amounts share (apart part (List.of_mem_zip member).1)).2]
    exact fit part given (List.mem_cons_of_mem _ member)
  · rintro ⟨here, later⟩ part given member
    rcases List.mem_cons.mp member with own | member
    · obtain ⟨rfl, rfl⟩ := Prod.mk.inj own
      exact here
    · rw [← (discount_other amounts share (apart part (List.of_mem_zip member).1)).2]
      exact later part given member

theorem partsFit_congr {others : Uuid → Nat} (same : ∀ part ∈ capped, totals (partId part) = others (partId part)) :
    PartsFit totals totalDiscount capped ↔ PartsFit others totalDiscount capped := by
  unfold PartsFit
  refine forall₂_congr fun part member => ?_
  have equal : totals part.1.lineId = others part.1.lineId := same part (List.mem_of_mem_dropLast member)
  rw [eligibleCents, eligibleCents, equal]

/-- One line after another: its eligible part, its share, and what it is discounted by. -/
theorem allocate_exact (distinct : (capped.map partId).Nodup) (units : ∀ part ∈ capped, part.2 ≤ part.1.quantity)
    (fits : ∀ part ∈ capped, amounts.totals (partId part) * part.2 ≤ u64Max) :
    Exact (CheckedPricing.allocate totalDiscount eligibleTotal remaining capped amounts)
      (allocate totalDiscount eligibleTotal remaining capped amounts)
      (PartsFit amounts.totals totalDiscount capped ∧
        SharesFit amounts totalDiscount eligibleTotal remaining capped) := by
  induction capped generalizing remaining amounts with
  | nil =>
    refine (Exact.pure amounts).congr (iff_of_true trivial ⟨?_, ?_⟩) fun _ => rfl
    · simp [PartsFit]
    · simp [SharesFit]
  | cons first rest ih =>
    obtain ⟨absent, distinct⟩ := List.nodup_cons.mp distinct
    obtain ⟨here, later⟩ := List.forall_mem_cons.mp fits
    obtain ⟨own, others⟩ := List.forall_mem_cons.mp units
    have apart : ∀ part ∈ rest, partId part ≠ partId first := fun part listed same =>
      absent (same ▸ List.mem_map_of_mem listed)
    obtain ⟨share, taken, step⟩ := @allocate_cons totalDiscount eligibleTotal remaining amounts first rest
    have same : ∀ part ∈ rest,
        (amounts.discount (partId first) share).totals (partId part) = amounts.totals (partId part) :=
      fun part member => (discount_other amounts share (apart part member)).1
    have onward := @ih (amounts.discount (partId first) share) (remaining - share) distinct others
      fun part member => same part member ▸ later part member
    rw [step, partsFit_cons, sharesFit_cons taken apart]
    refine Exact.congr (Exact.bind (eligibleCents_exact own) fun _ =>
      Exact.bind (lineShare_exact.congr Iff.rfl fun _ => (List.cons.inj taken).1) fun _ =>
        Exact.bind (discount_exact (partId first) share) fun _ => onward) ?_ fun _ => rfl
    rw [partsFit_congr same]
    tauto

/-- What the lines before the last leave for it. -/
def remainder (totals : Uuid → Nat) (totalDiscount eligibleTotal : Nat) (capped : List (CartLineItem × Nat)) : Nat :=
  totalDiscount - (capped.dropLast.map (want totals totalDiscount eligibleTotal)).sum

/-- The last line, if it is given what remains, stays in range with it. -/
def LastFits (amounts : LineAmounts) (totalDiscount eligibleTotal : Nat) (capped : List (CartLineItem × Nat)) : Prop :=
  ∀ last ∈ capped.getLast?, eligibleCents amounts.totals last ≠ 0 →
    amounts.discounts (partId last) + remainder amounts.totals totalDiscount eligibleTotal capped ≤ u64Max

/-- Only what is left for the last line may be more than it costs. -/
theorem sharesFit_iff (units : ∀ part ∈ capped, part.2 ≤ part.1.quantity)
    (bounded : ∀ part ∈ capped, amounts.discounts (partId part) + amounts.totals (partId part) ≤ u64Max) :
    SharesFit amounts totalDiscount eligibleTotal totalDiscount capped ↔
      LastFits amounts totalDiscount eligibleTotal capped := by
  rcases List.eq_nil_or_concat capped with rfl | ⟨front, last, rfl⟩
  · simp [SharesFit, LastFits]
  · have fronts : ∀ part share, (part, share) ∈ front.zip (served totalDiscount
        (front.map (want amounts.totals totalDiscount eligibleTotal))) →
          amounts.discounts (partId part) + share ≤ u64Max := by
      intro part share member
      have listed : part ∈ front.concat last := by simp [(List.of_mem_zip member).1]
      have own : want amounts.totals totalDiscount eligibleTotal part ≤ amounts.totals (partId part) :=
        (Nat.min_le_right _ _).trans (PromoAllocation.eligibleCents_le (units part listed))
      have given : share ≤ want amounts.totals totalDiscount eligibleTotal part := Handout.served_le member
      have fits := bounded part listed
      omega
    have lasts := bounded last (by simp)
    unfold SharesFit LastFits remainder
    rw [List.concat_eq_append, shares_concat, List.dropLast_concat, List.getLast?_concat, List.zip_append (by simp)]
    simp only [List.mem_append, List.zip_cons_cons, List.zip_nil_right, List.mem_singleton, Option.mem_def,
      Option.some_inj]
    constructor
    · rintro fit _ rfl counts
      have own := fit last _ (Or.inr rfl)
      rwa [if_neg counts] at own
    · rintro fit part share (before | here)
      · exact fronts part share before
      · obtain ⟨rfl, rfl⟩ := Prod.mk.inj here
        split
        · omega
        next counts => exact fit part rfl counts

end Allocation

section Promos
variable (lines : List CartLineItem) (categoryByItem : Uuid → Uuid) (subtotalCents : Nat) (now : Timestamp)

/-- A promotion that is granted stays in range: the eligible parts, its percentage, the parts in
proportion, and what is left for the last line. -/
structure GrantFits (amounts : LineAmounts) (promo : Promotion) : Prop where
  units : UnitsFit lines categoryByItem amounts.totals promo
  percent : PercentFits promo.promoType (eligibleOf lines categoryByItem amounts.totals promo)
  parts : PartsFit amounts.totals (discountOf lines categoryByItem amounts.totals promo)
    (cappedOf lines categoryByItem amounts.totals promo)
  last : LastFits amounts (discountOf lines categoryByItem amounts.totals promo)
    (eligibleOf lines categoryByItem amounts.totals promo) (cappedOf lines categoryByItem amounts.totals promo)

def PromoFits (progress : LineAmounts × List Uuid) (promo : Promotion) : Prop :=
  isOpen now promo → ConditionsFit lines categoryByItem subtotalCents promo.conditions ∧
    (conditionsMet lines subtotalCents promo.conditions categoryByItem →
      GrantFits lines categoryByItem progress.1 promo)

/-- The amounts after a promotion has been allocated. -/
def allocated (amounts : LineAmounts) (promo : Promotion) : LineAmounts :=
  if eligibleOf lines categoryByItem amounts.totals promo = 0 then amounts
  else allocate (discountOf lines categoryByItem amounts.totals promo)
    (eligibleOf lines categoryByItem amounts.totals promo) (discountOf lines categoryByItem amounts.totals promo)
    (cappedOf lines categoryByItem amounts.totals promo) amounts

variable {lines categoryByItem subtotalCents now} {amounts : LineAmounts} {progress : LineAmounts × List Uuid}
  {promo : Promotion}

theorem lineTotal_le {line : CartLineItem} (member : line ∈ lines) :
    line.lineTotalCents ≤ (lines.map CartLineItem.lineTotalCents).sum :=
  List.single_le_sum (fun _ _ => Nat.zero_le _) _ (List.mem_map_of_mem member)

theorem bounded_capped (bounded : Bounded lines amounts) :
    ∀ part ∈ cappedOf lines categoryByItem amounts.totals promo,
      amounts.discounts (partId part) + amounts.totals (partId part) ≤ (lines.map CartLineItem.lineTotalCents).sum := by
  intro part member
  have listed := capped_lines member
  exact ((bounded part.1 listed).2 (capUnits_totals part member)).trans (lineTotal_le listed)

variable (distinct : (lines.map CartLineItem.lineId).Nodup) (bounded : Bounded lines amounts)
  (priced : (lines.map CartLineItem.lineTotalCents).sum ≤ u64Max)
  (counts : ∀ condition ∈ promo.conditions, counted lines categoryByItem condition ≤ u32Max)

include distinct bounded priced counts in
theorem allocateDiscountToLines_exact (units : UnitsFit lines categoryByItem amounts.totals promo) :
    Exact (CheckedPricing.allocateDiscountToLines promo.actions lines amounts
        (discountOf lines categoryByItem amounts.totals promo) promo.conditions categoryByItem)
      (allocated lines categoryByItem amounts promo)
      (PartsFit amounts.totals (discountOf lines categoryByItem amounts.totals promo)
          (cappedOf lines categoryByItem amounts.totals promo) ∧
        LastFits amounts (discountOf lines categoryByItem amounts.totals promo)
          (eligibleOf lines categoryByItem amounts.totals promo) (cappedOf lines categoryByItem amounts.totals promo)) := by
  have inRange := fun part member =>
    (@bounded_capped lines categoryByItem amounts promo bounded part member).trans priced
  rw [← sharesFit_iff capped_units inRange]
  have shared : Exact (if eligibleOf lines categoryByItem amounts.totals promo = 0 then some amounts
        else CheckedPricing.allocate (discountOf lines categoryByItem amounts.totals promo)
          (eligibleOf lines categoryByItem amounts.totals promo) (discountOf lines categoryByItem amounts.totals promo)
          (cappedOf lines categoryByItem amounts.totals promo) amounts)
      (allocated lines categoryByItem amounts promo)
      (PartsFit amounts.totals (discountOf lines categoryByItem amounts.totals promo)
          (cappedOf lines categoryByItem amounts.totals promo) ∧
        SharesFit amounts (discountOf lines categoryByItem amounts.totals promo)
          (eligibleOf lines categoryByItem amounts.totals promo) (discountOf lines categoryByItem amounts.totals promo)
          (cappedOf lines categoryByItem amounts.totals promo)) := by
    unfold allocated
    by_cases worthless : eligibleOf lines categoryByItem amounts.totals promo = 0
    · rw [if_pos worthless, if_pos worthless, discountOf_worthless worthless]
      refine (Exact.pure amounts).congr (iff_of_true trivial ⟨fun part _ => by simp, ?_⟩) fun _ => rfl
      intro part share member
      have none := share_le (List.of_mem_zip member).2
      have fits := inRange part (List.of_mem_zip member).1
      omega
    · rw [if_neg worthless, if_neg worthless]
      exact allocate_exact (capped_distinct distinct) capped_units units
  exact Exact.congr (Exact.bind (effectiveMaxUnits_exact counts) fun _ =>
    Exact.bind (cappedTotal_exact bounded priced) fun _ => shared) (by tauto) fun _ => rfl

include distinct bounded priced counts in
theorem grantPromo_exact (applied : applies lines categoryByItem subtotalCents now promo = true)
    (same : progress.1 = amounts) :
    Exact (CheckedPricing.grantPromo lines categoryByItem progress promo)
      (applyPromo lines categoryByItem subtotalCents now progress promo)
      (GrantFits lines categoryByItem amounts promo) := by
  subst same
  rw [applyPromo_applied applied]
  have computed := computePromoDiscount_exact counts bounded priced
  refine Exact.congr (computed.bind fun fits =>
    (allocateDiscountToLines_exact distinct bounded priced counts fits.1).map _) ?_ fun _ => rfl
  constructor
  · intro ⟨⟨units, percent⟩, parts, last⟩
    exact ⟨units, percent, parts, last⟩
  · intro ⟨units, percent, parts, last⟩
    exact ⟨⟨units, percent⟩, parts, last⟩

include distinct priced in
theorem applyPromo_exact (progress : LineAmounts × List Uuid) (promo : Promotion) (bounded : Bounded lines progress.1) :
    Exact (CheckedPricing.applyPromo lines categoryByItem subtotalCents now progress promo)
      (applyPromo lines categoryByItem subtotalCents now progress promo)
      (PromoFits lines categoryByItem subtotalCents now progress promo) := by
  unfold CheckedPricing.applyPromo
  by_cases opened : isOpen now promo = true
  · rw [if_pos opened]
    have granted : ConditionsFit lines categoryByItem subtotalCents promo.conditions →
        Exact (if conditionsMet lines subtotalCents promo.conditions categoryByItem
            then CheckedPricing.grantPromo lines categoryByItem progress promo else some progress)
          (applyPromo lines categoryByItem subtotalCents now progress promo)
          (conditionsMet lines subtotalCents promo.conditions categoryByItem →
            GrantFits lines categoryByItem progress.1 promo) := by
      intro fit
      cases met : conditionsMet lines subtotalCents promo.conditions categoryByItem with
      | false =>
        have passed : applies lines categoryByItem subtotalCents now promo = false := by simp [applies, met]
        exact (Exact.pure progress).congr (by simp) fun _ => (applyPromo_passed passed).symm
      | true =>
        have applied : applies lines categoryByItem subtotalCents now promo = true := by simp [applies, opened, met]
        have counts := counted_of_fit fit met
        exact (grantPromo_exact distinct bounded priced counts applied rfl).congr (by simp) fun _ => rfl
    exact Exact.congr (conditionsMet_exact.bind granted) (by simp [PromoFits, opened]) fun _ => rfl
  · rw [if_neg opened]
    have passed : applies lines categoryByItem subtotalCents now promo = false := by simp [applies, opened]
    exact (Exact.pure progress).congr (by simp [PromoFits, opened]) fun _ => (applyPromo_passed passed).symm

include distinct priced in
/-- A step keeps the lines bounded, even if a discount is not in range. -/
theorem bounded_step (progress : LineAmounts × List Uuid) (promo : Promotion) (bounded : Bounded lines progress.1) :
    Bounded lines (applyPromo lines categoryByItem subtotalCents now progress promo).1 := by
  intro line member
  obtain ⟨within, costs⟩ := bounded line member
  have inRange := (lineTotal_le member).trans priced
  by_cases reached : applies lines categoryByItem subtotalCents now promo = true ∧
      line.lineId ∈ (cappedOf lines categoryByItem progress.1.totals promo).map partId
  · obtain ⟨applied, listed⟩ := reached
    obtain ⟨part, capped, same⟩ := List.mem_map.mp listed
    obtain ⟨share, given⟩ := ExactPromos.capped_zip capped
    have left := capUnits_totals part capped
    rw [same] at left
    have together := costs left
    have fits : progress.1.discounts (partId part) ≤ u64Max := by
      rw [same]
      omega
    obtain ⟨total, discounted⟩ := applyPromo_share distinct applied fits given
    rw [same] at total discounted
    rw [total, discounted]
    refine ⟨(Nat.sub_le _ _).trans within, fun left => ?_⟩
    rw [wrap64_of_fits (by omega)]
    omega
  · have kept := @applyPromo_unreached _ _ subtotalCents now _ _ _ fun applied listed => reached ⟨applied, listed⟩
    rw [kept.1, kept.2]
    exact ⟨within, costs⟩

include distinct in
theorem bounded_ofLines : Bounded lines (LineAmounts.ofLines lines) := by
  intro line member
  rw [ofLines_totals distinct member]
  exact ⟨Nat.le_refl _, fun _ => (Nat.zero_add _).le⟩

include distinct priced in
theorem applyPromos_exact (promos : List Promotion) :
    Exact (CheckedPricing.applyPromosWithAttribution lines categoryByItem subtotalCents now promos)
      (applyPromosWithAttribution lines categoryByItem promos subtotalCents now)
      (Sequence.Meets (applyPromo lines categoryByItem subtotalCents now)
        (PromoFits lines categoryByItem subtotalCents now) (LineAmounts.ofLines lines, []) (byPriority promos)) :=
  (Checked.foldlM_exact (fun progress promo => applyPromo_exact distinct priced progress promo)
    (fun progress promo => bounded_step distinct priced progress promo) (byPriority promos)
    (bounded_ofLines distinct)).map _

end Promos

/-! A basket of less than 2^32 cents and units, and percentages up to the whole: each product is of
two numbers of 32 bits. -/

section Small
variable {lines : List CartLineItem} {categoryByItem : Uuid → Uuid} {subtotalCents : Nat} {now : Timestamp}
  {progress : LineAmounts × List Uuid} {amounts : LineAmounts} {promo : Promotion}

def Small (lines : List CartLineItem) : Prop :=
  (lines.map CartLineItem.lineTotalCents).sum ≤ u32Max ∧ (lines.map CartLineItem.quantity).sum ≤ u32Max

/-- A promotion takes off no more than what it is taken of. -/
def Proper (promo : Promotion) : Prop :=
  match promo.promoType with
  | .percentageOff percentBps => percentBps ≤ 10000
  | _ => True

theorem product_fits {first second : Nat} (one : first ≤ u32Max) (other : second ≤ u32Max) : first * second ≤ u64Max :=
  (Nat.mul_le_mul one other).trans (by decide)

theorem counted_le (condition : PromoCondition) :
    counted lines categoryByItem condition ≤ (lines.map CartLineItem.quantity).sum := by
  have part_of (counts : CartLineItem → Bool) : unitsOf lines counts ≤ (lines.map CartLineItem.quantity).sum :=
    (List.filter_sublist.map _).sum_le_sum fun _ _ => Nat.zero_le _
  cases condition with
  | minBasketAmount amountCents => exact Nat.zero_le _
  | itemInBasket itemId minQuantity => exact part_of _
  | categoryInBasket categoryId minQuantity => exact part_of _

theorem conditionsFit_of_small (small : Small lines) (conditions : List PromoCondition) :
    ConditionsFit lines categoryByItem subtotalCents conditions := by
  induction conditions with
  | nil => trivial
  | cons condition conditions ih => exact ⟨(counted_le condition).trans small.2, fun _ => ih⟩

theorem eligibleOf_le (bounded : Bounded lines amounts) :
    eligibleOf lines categoryByItem amounts.totals promo ≤ (lines.map CartLineItem.lineTotalCents).sum :=
  (wrap64_le _).trans (capped_sum_le bounded fun part member =>
    PromoAllocation.eligibleCents_le (capped_units part member))

theorem discountOf_le (proper : Proper promo) :
    discountOf lines categoryByItem amounts.totals promo ≤ eligibleOf lines categoryByItem amounts.totals promo := by
  by_cases worthless : eligibleOf lines categoryByItem amounts.totals promo = 0
  · rw [discountOf_worthless worthless]
    exact Nat.zero_le _
  · have typed : discountOf lines categoryByItem amounts.totals promo = typeDiscount amounts.totals promo.promoType
        (cappedOf lines categoryByItem amounts.totals promo) (eligibleOf lines categoryByItem amounts.totals promo) :=
      if_neg worthless
    rw [typed]
    unfold Proper at proper
    cases kind : promo.promoType with
    | percentageOff percentBps =>
      rw [kind] at proper
      refine Nat.div_le_of_le_mul ((wrap64_le _).trans ?_)
      rw [Nat.mul_comm]
      exact Nat.mul_le_mul_right _ proper
    | fixedAmountOff amountCents => exact Nat.min_le_right _ _
    | buyXGetY buyQuantity getQuantity => exact Nat.min_le_right _ _
    | priceOverride priceCents => exact Nat.min_le_right _ _

theorem grantFits_of_small (small : Small lines) (proper : Proper promo) (bounded : Bounded lines amounts) :
    GrantFits lines categoryByItem amounts promo := by
  have eligible := (@eligibleOf_le lines categoryByItem amounts promo bounded).trans small.1
  have discounted := (@discountOf_le lines categoryByItem amounts promo proper).trans eligible
  have total : ∀ part ∈ cappedOf lines categoryByItem amounts.totals promo,
      amounts.discounts (partId part) + amounts.totals (partId part) ≤ u32Max :=
    fun part member => (bounded_capped bounded part member).trans small.1
  have some : ∀ part ∈ cappedOf lines categoryByItem amounts.totals promo, part.2 ≤ u32Max := by
    intro part member
    have listed : part.1.quantity ∈ lines.map CartLineItem.quantity := List.mem_map_of_mem (capped_lines member)
    have quantity := List.single_le_sum (fun _ _ => Nat.zero_le _) _ listed
    exact (capped_units part member).trans (quantity.trans small.2)
  constructor
  · intro part member
    exact product_fits ((Nat.le_add_left _ _).trans (total part member)) (some part member)
  · unfold PercentFits
    unfold Proper at proper
    cases kind : promo.promoType with
    | percentageOff percentBps =>
      rw [kind] at proper
      exact product_fits eligible (proper.trans (by decide))
    | fixedAmountOff _ | buyXGetY _ _ | priceOverride _ => trivial
  · intro part member
    have listed := List.mem_of_mem_dropLast member
    have part_of := @PromoAllocation.eligibleCents_le amounts part (capped_units part listed)
    exact product_fits discounted (part_of.trans ((Nat.le_add_left _ _).trans (total part listed)))
  · intro last member _
    have fits := total last (List.mem_of_getLast? member)
    have left : remainder amounts.totals (discountOf lines categoryByItem amounts.totals promo)
        (eligibleOf lines categoryByItem amounts.totals promo) (cappedOf lines categoryByItem amounts.totals promo) ≤
          u32Max := (Nat.sub_le _ _).trans discounted
    have wide : u32Max + u32Max ≤ u64Max := by decide
    omega

/-- No promotion on a small basket leaves the range, whatever came before it. -/
theorem promosFit_of_small (distinct : (lines.map CartLineItem.lineId).Nodup) (small : Small lines)
    {promos : List Promotion} (proper : ∀ promo ∈ promos, Proper promo) :
    Sequence.Meets (applyPromo lines categoryByItem subtotalCents now)
      (PromoFits lines categoryByItem subtotalCents now) (LineAmounts.ofLines lines, []) promos := by
  have priced : (lines.map CartLineItem.lineTotalCents).sum ≤ u64Max := small.1.trans (by decide)
  refine @Sequence.meets_of_kept _ _ _ _ _ (fun progress => Bounded lines progress.1)
    (fun progress promo => bounded_step distinct priced progress promo) _ ?_ (bounded_ofLines distinct)
  intro progress bounded promo member _
  exact ⟨conditionsFit_of_small small _, fun _ => grantFits_of_small small (proper promo member) bounded⟩

end Small

end ApexEdge.Proofs.PromoArithmetic
