import ApexEdge.Proofs.PromoShares

/-! Promotions see a basket, not a list of lines: neither the order of the lines nor the one
in which promotions are listed makes a difference to what anybody is given. -/

namespace ApexEdge.Proofs.PromoOrder
open Library Payment Domain Promotions PromoShares

section Lines
variable {lines others : List CartLineItem} {categoryByItem : Uuid → Uuid} {subtotalCents : Nat} {now : Timestamp}
  {promo : Promotion}

theorem quantityOf_perm (same : lines.Perm others) (counts : CartLineItem → Bool) :
    quantityOf counts lines = quantityOf counts others := by
  rw [quantityOf, quantityOf, ((same.filter counts).map CartLineItem.quantity).sum_eq]

theorem conditionsMet_perm (same : lines.Perm others) (conditions : List PromoCondition) :
    conditionsMet lines subtotalCents conditions categoryByItem =
      conditionsMet others subtotalCents conditions categoryByItem := by
  refine congrArg conditions.all (funext fun condition => ?_)
  cases condition <;> simp only [conditionMet, quantityOf_perm same]

theorem effectiveMaxUnits_perm (same : lines.Perm others) (actions : List PromoAction)
    (conditions : List PromoCondition) :
    effectiveMaxUnits lines actions conditions categoryByItem =
      effectiveMaxUnits others actions conditions categoryByItem := by
  simp only [effectiveMaxUnits, quantityOf_perm same]

/-- Lines are allocated to in the order of their ids. -/
theorem applicable_perm (same : lines.Perm others) (distinct : (lines.map CartLineItem.lineId).Nodup)
    (totals : Uuid → Nat) (actions : List PromoAction) (maxUnits : Option Nat) :
    applicableLinesWithCap lines totals actions maxUnits categoryByItem =
      applicableLinesWithCap others totals actions maxUnits categoryByItem := by
  have total : Std.Total fun first second : CartLineItem => rank first.lineId ≤ rank second.lineId :=
    ⟨fun first second => Nat.le_total _ _⟩
  have transitive : IsTrans CartLineItem fun first second => rank first.lineId ≤ rank second.lineId :=
    ⟨fun _ _ _ => Nat.le_trans⟩
  refine congrArg (capUnits totals _) (Table.insertionSort_perm (same.filter _) ?_)
  intro first listed second other below above
  have ids : first.lineId = second.lineId := rank_injective (Nat.le_antisymm below above)
  exact List.inj_on_of_nodup_map distinct (List.mem_filter.mp listed).1 (List.mem_filter.mp other).1 ids

theorem ofLines_perm (same : lines.Perm others) (distinct : (lines.map CartLineItem.lineId).Nodup) :
    LineAmounts.ofLines lines = LineAmounts.ofLines others := by
  have also : (others.map CartLineItem.lineId).Nodup := (same.map _).nodup_iff.mp distinct
  have totals (id : Uuid) : (LineAmounts.ofLines lines).totals id = (LineAmounts.ofLines others).totals id := by
    by_cases listed : id ∈ lines.map CartLineItem.lineId
    · obtain ⟨line, member, rfl⟩ := List.mem_map.mp listed
      rw [ofLines_totals distinct member, ofLines_totals also (same.mem_iff.mp member)]
    · rw [ofLines_absent listed, ofLines_absent fun present => listed ((same.map _).mem_iff.mpr present)]
  exact congrArg (LineAmounts.mk fun _ => 0) (funext totals)

theorem applyPromo_perm (same : lines.Perm others) (distinct : (lines.map CartLineItem.lineId).Nodup) :
    applyPromo lines categoryByItem subtotalCents now = applyPromo others categoryByItem subtotalCents now := by
  funext progress promo
  have held : applies lines categoryByItem subtotalCents now promo = applies others categoryByItem subtotalCents now promo := by
    simp only [applies, conditionsMet_perm same]
  have capped (totals : Uuid → Nat) :
      cappedOf lines categoryByItem totals promo = cappedOf others categoryByItem totals promo := by
    simp only [cappedOf, effectiveMaxUnits_perm same, applicable_perm same distinct]
  have eligible (totals : Uuid → Nat) :
      eligibleOf lines categoryByItem totals promo = eligibleOf others categoryByItem totals promo := by
    rw [eligibleOf, capped, eligibleOf]
  have discount (totals : Uuid → Nat) :
      discountOf lines categoryByItem totals promo = discountOf others categoryByItem totals promo := by
    simp only [discountOf, computePromoDiscount, effectiveMaxUnits_perm same, applicable_perm same distinct]
  cases applied : applies lines categoryByItem subtotalCents now promo with
  | false => rw [applyPromo_passed applied, applyPromo_passed (held.symm.trans applied)]
  | true =>
    rw [applyPromo_applied applied, applyPromo_applied (held.symm.trans applied)]
    rw [eligible, discount, capped]

end Lines

theorem byPriority_perm {promos others : List Promotion} (same : promos.Perm others)
    (distinct : (promos.map Promotion.priority).Nodup) : byPriority promos = byPriority others := by
  have total : Std.Total fun first second : Promotion => second.priority ≤ first.priority :=
    ⟨fun first second => Nat.le_total _ _⟩
  have transitive : IsTrans Promotion fun first second => second.priority ≤ first.priority :=
    ⟨fun _ _ _ below above => Nat.le_trans above below⟩
  refine Table.insertionSort_perm same fun first listed second other below above => ?_
  exact List.inj_on_of_nodup_map distinct listed other (Nat.le_antisymm above below)

/-- Every line keeps its discount, and the promotions that are noted stay the same and in their order. -/
theorem order_is_irrelevant {cart permuted : Cart} {promos others : List Promotion} (categoryByItem : Uuid → Uuid)
    (now : Timestamp) (distinct : (cart.lines.map CartLineItem.lineId).Nodup)
    (priorities : (promos.map Promotion.priority).Nodup) (lines : cart.lines.Perm permuted.lines)
    (offers : promos.Perm others) :
    (applyPromosWithAttribution cart.lines categoryByItem promos cart.subtotalCents now).1.Perm
        (applyPromosWithAttribution permuted.lines categoryByItem others permuted.subtotalCents now).1 ∧
      (applyPromosWithAttribution cart.lines categoryByItem promos cart.subtotalCents now).2 =
        (applyPromosWithAttribution permuted.lines categoryByItem others permuted.subtotalCents now).2 := by
  have subtotal : cart.subtotalCents = permuted.subtotalCents := (lines.map CartLineItem.lineTotalCents).sum_eq
  unfold applyPromosWithAttribution
  rw [subtotal, byPriority_perm offers priorities, applyPromo_perm lines distinct, ofLines_perm lines distinct]
  exact ⟨lines.map _, rfl⟩

def basketOf (lines : List CartLineItem) : Cart := { Cart.new 1 2 3 0 with lines := lines }

/-- Two lines under two promotions, and the same the other way round. -/
theorem two_lines_either_way :
    (applyPromosWithAttribution [lineOf 1 1 1000, lineOf 2 3 500] (fun _ => .nil)
        [offer (.percentageOff 1000), { offer (.fixedAmountOff 100) with priority := 2 }] 2500 1).2 =
      (applyPromosWithAttribution [lineOf 2 3 500, lineOf 1 1 1000] (fun _ => .nil)
        [{ offer (.fixedAmountOff 100) with priority := 2 }, offer (.percentageOff 1000)] 2500 1).2 :=
  (@order_is_irrelevant (basketOf [lineOf 1 1 1000, lineOf 2 3 500]) (basketOf [lineOf 2 3 500, lineOf 1 1 1000]) _ _
    (fun _ => .nil) 1 (by decide) (by decide) (List.Perm.swap ..) (List.Perm.swap ..)).2

end ApexEdge.Proofs.PromoOrder
