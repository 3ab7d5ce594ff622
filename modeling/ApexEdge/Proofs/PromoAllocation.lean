import ApexEdge.Library.Sequence
import ApexEdge.Library.Table
import ApexEdge.Domain.Promotions

/-! Allocation moves what a promotion takes off from a line's total to its discount,
as long as the last line can bear what rounding has left over for it. -/

namespace ApexEdge.Proofs.PromoAllocation
open Library Payment Domain Promotions

/-- No line is discounted by more than it costs. -/
def Conserved (lines : List CartLineItem) (amounts : LineAmounts) : Prop :=
  ∀ line ∈ lines, amounts.discounts line.lineId + amounts.totals line.lineId ≤ line.lineTotalCents

/-- The last line, which takes what remains, can bear it. -/
def lastBears (totalDiscount eligibleTotal remaining : Nat) (capped : List (CartLineItem × Nat))
    (amounts : LineAmounts) : Bool :=
  match capped with
  | [] => true
  | first :: rest =>
    let eligible := eligibleCents amounts.totals first
    if rest.isEmpty then eligible = 0 ∨ remaining ≤ amounts.totals first.1.lineId
    else
      let discount :=
        if eligible = 0 then 0 else min (min (wrap64 (totalDiscount * eligible) / eligibleTotal) remaining) eligible
      lastBears totalDiscount eligibleTotal (remaining - discount) rest (amounts.discount first.1.lineId discount)

/-- Whatever a promotion takes off, its last line can bear its part. -/
def Bears (lines : List CartLineItem) (categoryByItem : Uuid → Uuid) (subtotalCents : Nat) (now : Timestamp)
    (progress : LineAmounts × List Uuid) (promo : Promotion) : Prop :=
  let amounts := progress.1
  let capped := applicableLinesWithCap lines amounts.totals promo.actions
    (effectiveMaxUnits lines promo.actions promo.conditions categoryByItem) categoryByItem
  let discount := computePromoDiscount promo.promoType lines amounts.totals promo.actions promo.conditions categoryByItem
  isOpen now promo ∧ conditionsMet lines subtotalCents promo.conditions categoryByItem →
    lastBears discount (wrap64 (capped.map (eligibleCents amounts.totals)).sum) discount capped amounts

instance (lines : List CartLineItem) (categoryByItem : Uuid → Uuid) (subtotalCents : Nat) (now : Timestamp)
    (progress : LineAmounts × List Uuid) (promo : Promotion) :
    Decidable (Bears lines categoryByItem subtotalCents now progress promo) :=
  inferInstanceAs (Decidable (_ → _))

section Allocate
variable {lines : List CartLineItem} {amounts : LineAmounts}

theorem eligibleCents_le {capped : CartLineItem × Nat} (units : capped.2 ≤ capped.1.quantity) :
    eligibleCents amounts.totals capped ≤ amounts.totals capped.1.lineId := by
  unfold eligibleCents
  split
  · exact Nat.zero_le _
  next some =>
    have whole : amounts.totals capped.1.lineId * capped.2 ≤ amounts.totals capped.1.lineId * capped.1.quantity :=
      Nat.mul_le_mul_left _ units
    calc wrap64 (amounts.totals capped.1.lineId * capped.2) / capped.1.quantity
        ≤ amounts.totals capped.1.lineId * capped.1.quantity / capped.1.quantity :=
          Nat.div_le_div_right ((wrap64_le _).trans whole)
      _ = amounts.totals capped.1.lineId := Nat.mul_div_cancel _ (Nat.pos_of_ne_zero some)

/-- What a line still costs can be taken off it. -/
theorem conserved_discount {lineId : Uuid} {cents : Nat} (conserved : Conserved lines amounts)
    (priced : ∀ line ∈ lines, line.lineTotalCents ≤ u64Max) (bears : cents ≤ amounts.totals lineId) :
    Conserved lines (amounts.discount lineId cents) := by
  intro line member
  have before := conserved line member
  have fits := priced line member
  unfold LineAmounts.discount
  by_cases same : line.lineId = lineId
  · subst same
    simp only [if_true]
    rw [wrap64_of_fits (by omega)]
    omega
  · simpa only [if_neg same] using before

theorem conserved_allocate {totalDiscount eligibleTotal remaining : Nat} {capped : List (CartLineItem × Nat)}
    (conserved : Conserved lines amounts) (priced : ∀ line ∈ lines, line.lineTotalCents ≤ u64Max)
    (units : ∀ part ∈ capped, part.2 ≤ part.1.quantity)
    (bears : lastBears totalDiscount eligibleTotal remaining capped amounts) :
    Conserved lines (allocate totalDiscount eligibleTotal remaining capped amounts) := by
  induction capped generalizing remaining amounts with
  | nil => exact conserved
  | cons first rest ih =>
    have eligible := @eligibleCents_le amounts first (units first (by simp))
    have later := fun part member => units part (List.mem_cons_of_mem first member)
    unfold lastBears at bears
    unfold allocate
    dsimp only at bears ⊢
    cases rest with
    | nil =>
      simp only [List.isEmpty_nil, if_true] at bears ⊢
      apply ih
      · apply conserved_discount conserved priced
        split
        · exact Nat.zero_le _
        · exact (of_decide_eq_true bears).resolve_left ‹_›
      · exact later
      · rfl
    | cons second rest =>
      simp only [List.isEmpty_cons, Bool.false_eq_true, if_false] at bears ⊢
      apply ih
      · apply conserved_discount conserved priced
        split
        · exact Nat.zero_le _
        · exact (Nat.min_le_right _ _).trans eligible
      · exact later
      · exact bears

theorem capUnits_le {totals : Uuid → Nat} {remaining : Nat} :
    ∀ part ∈ capUnits totals remaining lines, part.2 ≤ part.1.quantity := by
  induction lines generalizing remaining with
  | nil => simp [capUnits]
  | cons line lines ih =>
    intro part member
    unfold capUnits at member
    split at member
    · exact ih part member
    · rcases List.mem_cons.mp member with rfl | later
      · exact Nat.min_le_left _ _
      · split at later
        · cases later
        · exact ih part later

end Allocate

section Promos
variable {lines : List CartLineItem} {categoryByItem : Uuid → Uuid} {subtotalCents : Nat} {now : Timestamp}

theorem conserved_promo (priced : ∀ line ∈ lines, line.lineTotalCents ≤ u64Max) (progress : LineAmounts × List Uuid)
    (promo : Promotion) (conserved : Conserved lines progress.1)
    (bears : Bears lines categoryByItem subtotalCents now progress promo) :
    Conserved lines (applyPromo lines categoryByItem subtotalCents now progress promo).1 := by
  unfold applyPromo
  dsimp only
  split
  next applies =>
    unfold allocateDiscountToLines
    dsimp only
    split
    · exact conserved
    · exact conserved_allocate conserved priced capUnits_le (bears applies)
  next => exact conserved

theorem conserved_ofLines (distinct : (lines.map CartLineItem.lineId).Nodup) :
    Conserved lines (LineAmounts.ofLines lines) := by
  intro line member
  have reversed : (lines.reverse.map CartLineItem.lineId).Nodup := by
    rw [List.map_reverse]
    exact List.nodup_reverse.mpr distinct
  have found := Table.find?_of_unique reversed (List.mem_reverse.mpr member)
  simp [LineAmounts.ofLines, found]

/-- Promotions one after another keep every line's discount within its total. -/
theorem conserved_promos {promos : List Promotion} (distinct : (lines.map CartLineItem.lineId).Nodup)
    (priced : ∀ line ∈ lines, line.lineTotalCents ≤ u64Max)
    (bears : Sequence.Meets (applyPromo lines categoryByItem subtotalCents now)
      (Bears lines categoryByItem subtotalCents now) (LineAmounts.ofLines lines, []) promos) :
    Conserved lines (promos.foldl (applyPromo lines categoryByItem subtotalCents now) (LineAmounts.ofLines lines, [])).1 :=
  Sequence.keeps (conserved_promo priced) (conserved_ofLines distinct) bears

end Promos
end ApexEdge.Proofs.PromoAllocation
