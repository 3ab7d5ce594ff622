import ApexEdge.Proofs.PromoShares

/-! A promotion that gives units away for units that are bought gives away the cheapest
ones: what it takes off in all is what these cost, however it is spread over the lines. -/

namespace ApexEdge.Proofs.CheapestUnits
open Library Payment Domain Promotions Handout PromoShares

/-- The prices of the units a promotion is for, one by one. -/
def eligibleUnits (lines : List CartLineItem) (categoryByItem : Uuid → Uuid) (promo : Promotion) : List Nat :=
  singles ((eligibleLines lines categoryByItem promo).map fun line => (line.unitPriceCents, line.quantity))

/-- Lines of at least one unit that cost something, priced by the unit. -/
structure PricedByUnit (lines : List CartLineItem) : Prop where
  distinct : (lines.map CartLineItem.lineId).Nodup
  quantities : ∀ line ∈ lines, 1 ≤ line.quantity
  totals : ∀ line ∈ lines, line.lineTotalCents = line.unitPriceCents * line.quantity
  costs : ∀ line ∈ lines, line.lineTotalCents ≠ 0

/-- Nothing that is added up or multiplied overflows. -/
structure Fits (lines : List CartLineItem) (categoryByItem : Uuid → Uuid) (promo : Promotion)
    (buyQuantity getQuantity : Nat) : Prop where
  bundle : buyQuantity + getQuantity ≤ u32Max
  units : ((eligibleLines lines categoryByItem promo).map CartLineItem.quantity).sum ≤ u32Max
  cents : ((eligibleLines lines categoryByItem promo).map CartLineItem.lineTotalCents).sum ≤ u64Max
  products : ∀ line ∈ eligibleLines lines categoryByItem promo, line.lineTotalCents * line.quantity ≤ u64Max

section Lemmas
variable {lines : List CartLineItem} {totals : Uuid → Nat} {remaining count : Nat} {groups : List (Nat × Nat)}

/-- Where there are units enough, every line gets all of its own. -/
theorem capUnits_all (some : ∀ line ∈ lines, totals line.lineId ≠ 0) (quantities : ∀ line ∈ lines, 1 ≤ line.quantity)
    (enough : (lines.map CartLineItem.quantity).sum ≤ remaining) :
    capUnits totals remaining lines = lines.map fun line => (line, line.quantity) := by
  induction lines generalizing remaining with
  | nil => rfl
  | cons line lines ih =>
    rw [List.map_cons, List.sum_cons] at enough
    obtain ⟨costs, later⟩ := List.forall_mem_cons.mp some
    obtain ⟨_, quantities⟩ := List.forall_mem_cons.mp quantities
    rw [capUnits, if_neg costs, List.map_cons, Nat.min_eq_left (by omega)]
    dsimp only
    split
    next exhausted =>
      cases lines with
      | nil => rfl
      | cons second lines =>
        have one := quantities second (by simp)
        rw [List.map_cons, List.sum_cons] at enough
        omega
    next => rw [ih later quantities (by omega)]

theorem takeFree_eq (fits : (singles groups).sum ≤ u64Max) : takeFree count groups = costOf count groups := by
  induction groups generalizing count with
  | nil => rfl
  | cons group groups ih =>
    have all := @costOf_le count (group :: groups)
    rw [singles_cons, List.sum_append, List.sum_replicate_nat] at fits all
    have later := @ih (count - min group.2 count) (by omega)
    rw [takeFree]
    split
    next exhausted =>
      subst exhausted
      rw [costOf_eq]
      rfl
    next =>
      rw [costOf] at all ⊢
      dsimp only
      rw [later, saturatingMul, saturatingAdd, Nat.min_eq_left (by omega), Nat.min_eq_left (by omega)]

theorem singles_sum : (singles groups).sum = (groups.map fun group => group.1 * group.2).sum := by
  induction groups with
  | nil => rfl
  | cons group groups ih =>
    rw [singles_cons, List.sum_append, List.sum_replicate_nat, ih, List.map_cons, List.sum_cons, Nat.mul_comm]

end Lemmas

variable {lines : List CartLineItem} {categoryByItem : Uuid → Uuid} {subtotalCents : Nat} {now : Timestamp}
  {promo : Promotion} {buyQuantity getQuantity : Nat}

/-- The lines a promotion is for, in the order of their ids. -/
def ordered (lines : List CartLineItem) (categoryByItem : Uuid → Uuid) (promo : Promotion) : List CartLineItem :=
  (eligibleLines lines categoryByItem promo).insertionSort fun first second => rank first.lineId ≤ rank second.lineId

theorem ordered_perm : (ordered lines categoryByItem promo).Perm (eligibleLines lines categoryByItem promo) :=
  List.perm_insertionSort _ _

theorem ordered_lines {line : CartLineItem} (member : line ∈ ordered lines categoryByItem promo) : line ∈ lines :=
  (List.mem_filter.mp (ordered_perm.mem_iff.mp member)).1

/-- Without a cap all units of all lines count. -/
theorem capped_all (priced : PricedByUnit lines)
    (uncapped : effectiveMaxUnits lines promo.actions promo.conditions categoryByItem = none)
    (units : ((eligibleLines lines categoryByItem promo).map CartLineItem.quantity).sum ≤ u32Max) :
    cappedOf lines categoryByItem (LineAmounts.ofLines lines).totals promo =
      (ordered lines categoryByItem promo).map fun line => (line, line.quantity) := by
  unfold cappedOf applicableLinesWithCap
  rw [uncapped]
  refine capUnits_all (fun line member => ?_) (fun line member => ?_) ?_
  · have listed := ordered_lines member
    rw [ofLines_totals priced.distinct listed]
    exact priced.costs line listed
  · exact priced.quantities line (ordered_lines member)
  · exact ((ordered_perm.map CartLineItem.quantity).sum_eq).trans_le units

theorem whole_line (priced : PricedByUnit lines) (fits : Fits lines categoryByItem promo buyQuantity getQuantity)
    {line : CartLineItem} (eligible : line ∈ eligibleLines lines categoryByItem promo) :
    eligibleCents (LineAmounts.ofLines lines).totals (line, line.quantity) = line.lineTotalCents ∧
      eligibleUnit (LineAmounts.ofLines lines).totals (line, line.quantity) =
        some (line.unitPriceCents, line.quantity) := by
  have member : line ∈ lines := (List.mem_filter.mp eligible).1
  have one := priced.quantities line member
  have costs := priced.costs line member
  have product := fits.products line eligible
  have some : line.quantity ≠ 0 := by omega
  constructor
  · rw [eligibleCents, if_neg some, ofLines_totals priced.distinct member, wrap64_of_fits product,
      Nat.mul_div_cancel _ one]
  · rw [eligibleUnit, if_neg (by simp [ofLines_totals priced.distinct member, some, costs]),
      ofLines_totals priced.distinct member, saturatingMul, Nat.min_eq_left product, Nat.mul_div_cancel _ one,
      priced.totals line member, Nat.mul_div_cancel _ one]

/-- The last line gets what remains, so that nothing is lost where every line counts. -/
theorem shares_sum {totals : Uuid → Nat} {totalDiscount eligibleTotal : Nat} {capped : List (CartLineItem × Nat)}
    (counts : ∀ part ∈ capped, eligibleCents totals part ≠ 0) (none : capped = [] → totalDiscount = 0) :
    (shares totals totalDiscount eligibleTotal totalDiscount capped).sum = totalDiscount := by
  rcases List.eq_nil_or_concat capped with rfl | ⟨front, last, rfl⟩
  · simp [shares, none rfl]
  · rw [List.concat_eq_append] at counts ⊢
    rw [shares_concat, if_neg (counts last (by simp)), List.sum_append, served_sum, List.sum_singleton]
    omega

theorem eligibleOf_eq (priced : PricedByUnit lines)
    (uncapped : effectiveMaxUnits lines promo.actions promo.conditions categoryByItem = none)
    (fits : Fits lines categoryByItem promo buyQuantity getQuantity) :
    eligibleOf lines categoryByItem (LineAmounts.ofLines lines).totals promo =
      (eligibleUnits lines categoryByItem promo).sum := by
  have each : ∀ line ∈ ordered lines categoryByItem promo,
      eligibleCents (LineAmounts.ofLines lines).totals (line, line.quantity) = line.lineTotalCents :=
    fun line member => (whole_line priced fits (ordered_perm.mem_iff.mp member)).1
  have totals : ∀ line ∈ eligibleLines lines categoryByItem promo,
      line.unitPriceCents * line.quantity = line.lineTotalCents :=
    fun line member => (priced.totals line (List.mem_filter.mp member).1).symm
  rw [eligibleOf, capped_all priced uncapped fits.units, List.map_map]
  have whole : ((ordered lines categoryByItem promo).map
      (eligibleCents (LineAmounts.ofLines lines).totals ∘ fun line => (line, line.quantity))).sum =
        ((eligibleLines lines categoryByItem promo).map CartLineItem.lineTotalCents).sum :=
    (congrArg List.sum (List.map_congr_left each)).trans (ordered_perm.map _).sum_eq
  rw [whole, wrap64_of_fits fits.cents, eligibleUnits, singles_sum, List.map_map]
  exact congrArg List.sum (List.map_congr_left totals).symm

theorem bundleDiscount_eq (priced : PricedByUnit lines)
    (uncapped : effectiveMaxUnits lines promo.actions promo.conditions categoryByItem = none)
    (fits : Fits lines categoryByItem promo buyQuantity getQuantity) (gives : 1 ≤ getQuantity) :
    bundleDiscount (LineAmounts.ofLines lines).totals
        (cappedOf lines categoryByItem (LineAmounts.ofLines lines).totals promo) buyQuantity getQuantity =
      (cheapest (((eligibleLines lines categoryByItem promo).map CartLineItem.quantity).sum /
        (buyQuantity + getQuantity) * getQuantity) (eligibleUnits lines categoryByItem promo)).sum := by
  have units : (cappedOf lines categoryByItem (LineAmounts.ofLines lines).totals promo).filterMap
      (eligibleUnit (LineAmounts.ofLines lines).totals) =
        (ordered lines categoryByItem promo).map fun line => (line.unitPriceCents, line.quantity) := by
    rw [capped_all priced uncapped fits.units, List.filterMap_map, ← List.filterMap_eq_map]
    exact List.filterMap_congr fun line member => (whole_line priced fits (ordered_perm.mem_iff.mp member)).2
  have counted : (((ordered lines categoryByItem promo).map fun line => (line.unitPriceCents, line.quantity)).map
      Prod.snd).sum = ((eligibleLines lines categoryByItem promo).map CartLineItem.quantity).sum := by
    rw [List.map_map]
    exact (ordered_perm.map _).sum_eq
  have same : (singles ((ordered lines categoryByItem promo).map fun line =>
      (line.unitPriceCents, line.quantity))).Perm (eligibleUnits lines categoryByItem promo) :=
    singles_perm (ordered_perm.map _)
  have small := fits.units
  have cents : (eligibleUnits lines categoryByItem promo).sum ≤ u64Max := by
    rw [← eligibleOf_eq priced uncapped fits]
    exact Nat.le_sub_one_of_lt (Nat.mod_lt _ (by decide))
  have fitting := fits.bundle
  unfold bundleDiscount
  dsimp only
  rw [units, counted]
  generalize ((eligibleLines lines categoryByItem promo).map CartLineItem.quantity).sum = total at small ⊢
  have wrapped : wrap32 total = total := Nat.mod_eq_of_lt (by unfold u32Max at small; omega)
  have free : total / (buyQuantity + getQuantity) * getQuantity ≤ total :=
    (Nat.mul_le_mul_left _ (Nat.le_add_left _ _)).trans (Nat.div_mul_le_self _ _)
  rw [wrapped, Nat.min_eq_left fitting]
  split
  next short =>
    rw [Nat.div_eq_of_lt (by omega), Nat.zero_mul]
    simp [cheapest]
  next =>
    have sorted := List.perm_insertionSort (fun first second : Nat × Nat => first.1 ≤ second.1)
      ((ordered lines categoryByItem promo).map fun line => (line.unitPriceCents, line.quantity))
    rw [Nat.min_eq_left (free.trans small),
      takeFree_eq (((singles_perm sorted).trans same).sum_eq.trans_le cents), costOf_sorted, cheapest_perm same]

/-- What a bundle promotion takes off is what the cheapest of the units cost. -/
theorem discountOf_eq (priced : PricedByUnit lines)
    (uncapped : effectiveMaxUnits lines promo.actions promo.conditions categoryByItem = none)
    (fits : Fits lines categoryByItem promo buyQuantity getQuantity) (gives : 1 ≤ getQuantity)
    (kind : promo.promoType = .buyXGetY buyQuantity getQuantity) :
    discountOf lines categoryByItem (LineAmounts.ofLines lines).totals promo =
      (cheapest (((eligibleLines lines categoryByItem promo).map CartLineItem.quantity).sum /
        (buyQuantity + getQuantity) * getQuantity) (eligibleUnits lines categoryByItem promo)).sum := by
  have least : (cheapest (((eligibleLines lines categoryByItem promo).map CartLineItem.quantity).sum /
      (buyQuantity + getQuantity) * getQuantity) (eligibleUnits lines categoryByItem promo)).sum ≤
        eligibleOf lines categoryByItem (LineAmounts.ofLines lines).totals promo := by
    rw [eligibleOf_eq priced uncapped fits]
    exact cheapest_le
  have bundle := bundleDiscount_eq priced uncapped fits gives
  unfold eligibleOf cappedOf at least
  unfold cappedOf at bundle
  unfold discountOf computePromoDiscount
  rw [kind]
  dsimp only
  split
  next none =>
    rw [none] at least
    exact (Nat.le_zero.mp least).symm
  next => rw [bundle, Nat.min_eq_left least]

/-- Buying some units and getting others takes exactly the cheapest units' price off the basket,
and nothing off lines that the promotion is not for. -/
theorem cheapest_units_are_free (priced : PricedByUnit lines)
    (uncapped : effectiveMaxUnits lines promo.actions promo.conditions categoryByItem = none)
    (fits : Fits lines categoryByItem promo buyQuantity getQuantity) (gives : 1 ≤ getQuantity)
    (kind : promo.promoType = .buyXGetY buyQuantity getQuantity)
    (applied : applies lines categoryByItem subtotalCents now promo = true) :
    ((applyPromosWithAttribution lines categoryByItem [promo] subtotalCents now).1.map
        LinePriceResult.discountCents).sum =
      (cheapest (((eligibleLines lines categoryByItem promo).map CartLineItem.quantity).sum /
        (buyQuantity + getQuantity) * getQuantity) (eligibleUnits lines categoryByItem promo)).sum ∧
    ∀ result ∈ (applyPromosWithAttribution lines categoryByItem [promo] subtotalCents now).1,
      result.lineId ∉ (eligibleLines lines categoryByItem promo).map CartLineItem.lineId → result.discountCents = 0 := by
  constructor
  · have sum := @discountAlone_sum _ _ subtotalCents _ _ priced.distinct applied
    rw [results_alone, List.map_map, ← discountOf_eq priced uncapped fits gives kind]
    refine sum.trans ?_
    refine shares_sum (fun part member => ?_) fun none => discountOf_worthless (by simp [eligibleOf, none, wrap64])
    have listed := member
    rw [capped_all priced uncapped fits.units] at listed
    obtain ⟨line, inside, rfl⟩ := List.mem_map.mp listed
    rw [(whole_line priced fits (ordered_perm.mem_iff.mp inside)).1]
    exact priced.costs line (ordered_lines inside)
  · intro result member ineligible
    rw [results_alone] at member
    obtain ⟨line, listed, rfl⟩ := List.mem_map.mp member
    exact discountAlone_ineligible priced.distinct listed fun eligible => ineligible (List.mem_map_of_mem eligible)

/-- Three units at five dollars and one at two: of four units two are free, one of each price. -/
theorem two_of_four_units_are_free :
    ((applyPromosWithAttribution [lineOf 1 3 500, lineOf 2 1 200] (fun _ => .nil) [offer (.buyXGetY 1 1)] 1700 1).1.map
      LinePriceResult.discountCents).sum = 700 :=
  (cheapest_units_are_free ⟨by decide, by decide, by decide, by decide⟩ (by decide)
    ⟨by decide, by decide, by decide, by decide⟩ (by decide) rfl (by decide)).1.trans (by decide)

end ApexEdge.Proofs.CheapestUnits
