import ApexEdge.Proofs.PromoShares

/-! A price override saves on each line what the line costs above the override. All savings
are added up and spread over the lines in proportion to what these cost, which gives each
line its own saving only where the two proportions agree. -/

namespace ApexEdge.Proofs.PriceOverrides
open Library Payment Domain Promotions Handout PromoShares

/-- What a line costs above the override price. -/
def saved (priceCents : Nat) (line : CartLineItem) : Nat := line.lineTotalCents - priceCents * line.quantity

/-- Each line is sold for the override price, or its own if that is lower; others keep theirs. -/
def SoldAtOverride (lines : List CartLineItem) (categoryByItem : Uuid → Uuid) (subtotalCents : Nat) (now : Timestamp)
    (promo : Promotion) (priceCents : Nat) : Prop :=
  ∀ line ∈ lines, ∀ result ∈ (applyPromosWithAttribution lines categoryByItem [promo] subtotalCents now).1,
    result.lineId = line.lineId →
      (result.lineTotalCents : Int) - result.discountCents =
        if line ∈ eligibleLines lines categoryByItem promo then min line.lineTotalCents (priceCents * line.quantity)
        else line.lineTotalCents

/-- The line is priced by the unit, and all its units count. -/
def WholeUnits (part : CartLineItem × Nat) : Prop :=
  part.2 = part.1.quantity ∧ part.1.quantity ∣ part.1.lineTotalCents ∧
    part.1.lineTotalCents * part.1.quantity ≤ u64Max

instance (part : CartLineItem × Nat) : Decidable (WholeUnits part) := inferInstanceAs (Decidable (_ ∧ _ ∧ _))

def savings (priceCents : Nat) (capped : List (CartLineItem × Nat)) : Nat :=
  (capped.map fun part => saved priceCents part.1).sum

/-- Each line's saving is its proportional part of all savings, unless the later lines save
nothing; the last line takes what remains. -/
def spreads (totals : Uuid → Nat) (priceCents saving eligibleTotal : Nat) (capped : List (CartLineItem × Nat)) : Bool :=
  match capped with
  | [] => true
  | part :: rest =>
    (if rest.isEmpty then eligibleCents totals part = 0 → saved priceCents part.1 = 0
      else min (want totals saving eligibleTotal part) (savings priceCents (part :: rest)) = saved priceCents part.1) ∧
    spreads totals priceCents saving eligibleTotal rest

/-- The savings are proportional to what the lines cost. -/
structure Proportional (lines : List CartLineItem) (categoryByItem : Uuid → Uuid) (promo : Promotion)
    (capped : List (CartLineItem × Nat)) (priceCents eligibleTotal : Nat) : Prop where
  /-- Lines beyond the largest number of units are at the override already. -/
  counted : ∀ line ∈ eligibleLines lines categoryByItem promo, line ∉ capped.map Prod.fst → saved priceCents line = 0
  units : ∀ part ∈ capped, saved priceCents part.1 = 0 ∨ WholeUnits part
  worth : savings priceCents capped ≤ eligibleTotal
  spread : spreads (LineAmounts.ofLines lines).totals priceCents (savings priceCents capped) eligibleTotal capped

section Part
variable {totals : Uuid → Nat} {priceCents : Nat} {part : CartLineItem × Nat}

/-- The price of one counted unit, where there is any. -/
def unitOf (totals : Uuid → Nat) (part : CartLineItem × Nat) : Nat :=
  saturatingMul (totals (partId part)) part.2 / part.1.quantity / part.2

theorem overrideDiscount_eq : overrideDiscount totals priceCents part =
    if part.2 = 0 ∨ part.1.quantity = 0 ∨ totals (partId part) = 0 then 0
    else saturatingMul (unitOf totals part - priceCents) part.2 := by
  unfold overrideDiscount eligibleUnit unitOf partId
  by_cases none : part.2 = 0 ∨ part.1.quantity = 0 ∨ totals part.1.lineId = 0
  · rw [if_pos none, if_pos none]
  · rw [if_neg none, if_neg none]
    dsimp only
    split
    next cheap => rw [Nat.sub_eq_zero_of_le cheap, saturatingMul, Nat.zero_mul, Nat.zero_min]
    next => rfl

/-- Units are rounded down, so that they never come to more than the line. -/
theorem unitOf_mul_le (some : part.2 ≠ 0) : unitOf totals part * part.1.quantity ≤ totals (partId part) := by
  have counted : unitOf totals part * (part.1.quantity * part.2) ≤ totals (partId part) * part.2 := by
    rw [unitOf, Nat.div_div_eq_div_mul]
    exact (Nat.div_mul_le_self _ _).trans (Nat.min_le_left _ _)
  rw [← Nat.mul_assoc] at counted
  exact Nat.le_of_mul_le_mul_right counted (Nat.pos_of_ne_zero some)

theorem unit_saving_le (price : totals (partId part) = part.1.lineTotalCents) (some : part.2 ≠ 0) :
    (unitOf totals part - priceCents) * part.1.quantity ≤ saved priceCents part.1 := by
  rw [Nat.sub_mul, saved, ← price]
  exact Nat.sub_le_sub_right (unitOf_mul_le some) _

/-- Counted by the unit, a line saves no more than it costs above the override. -/
theorem overrideDiscount_le (price : totals (partId part) = part.1.lineTotalCents) (units : part.2 ≤ part.1.quantity) :
    overrideDiscount totals priceCents part ≤ saved priceCents part.1 := by
  rw [overrideDiscount_eq]
  split
  · exact Nat.zero_le _
  next some =>
    calc saturatingMul (unitOf totals part - priceCents) part.2
        ≤ (unitOf totals part - priceCents) * part.2 := Nat.min_le_left _ _
      _ ≤ (unitOf totals part - priceCents) * part.1.quantity := Nat.mul_le_mul_left _ units
      _ ≤ saved priceCents part.1 := unit_saving_le price fun none => some (Or.inl none)

theorem unitOf_whole (price : totals (partId part) = part.1.lineTotalCents) (some : part.1.quantity ≠ 0)
    (whole : WholeUnits part) : unitOf totals part * part.1.quantity = part.1.lineTotalCents := by
  obtain ⟨all, priced, fits⟩ := whole
  rw [unitOf, all, price, saturatingMul, Nat.min_eq_left fits, Nat.mul_div_cancel _ (Nat.pos_of_ne_zero some),
    Nat.div_mul_cancel priced]

/-- It saves all of that when it is priced by the unit. -/
theorem overrideDiscount_eq_iff (price : totals (partId part) = part.1.lineTotalCents)
    (units : part.2 ≤ part.1.quantity) (fits : part.1.lineTotalCents ≤ u64Max) :
    overrideDiscount totals priceCents part = saved priceCents part.1 ↔
      saved priceCents part.1 = 0 ∨ WholeUnits part := by
  constructor
  · intro equal
    by_cases dear : saved priceCents part.1 = 0
    · exact Or.inl dear
    · right
      rw [overrideDiscount_eq] at equal
      split at equal
      · exact absurd equal.symm dear
      next off =>
        simp only [not_or] at off
        obtain ⟨counts, some, _⟩ := off
        have least : (unitOf totals part - priceCents) * part.2 ≤ (unitOf totals part - priceCents) * part.1.quantity :=
          Nat.mul_le_mul_left _ units
        have most := @unit_saving_le totals priceCents part price counts
        have reached : saved priceCents part.1 ≤ (unitOf totals part - priceCents) * part.2 :=
          equal.symm.le.trans (Nat.min_le_left _ _)
        have positive : 0 < unitOf totals part - priceCents := by
          refine Nat.pos_of_ne_zero fun none => dear ?_
          rw [none, Nat.zero_mul] at reached
          omega
        have all : part.2 = part.1.quantity := Nat.eq_of_mul_eq_mul_left positive (by omega)
        have exact : unitOf totals part * part.1.quantity = part.1.lineTotalCents := by
          have bound := @unitOf_mul_le totals part counts
          have gap : (unitOf totals part - priceCents) * part.1.quantity = saved priceCents part.1 := by omega
          rw [Nat.sub_mul, saved] at gap
          rw [saved] at dear
          omega
        refine ⟨all, Dvd.intro_left _ exact, ?_⟩
        have limited : unitOf totals part * (part.1.quantity * part.2) ≤ u64Max := by
          rw [unitOf, Nat.div_div_eq_div_mul]
          exact (Nat.div_mul_le_self _ _).trans (Nat.min_le_right _ _)
        rwa [← Nat.mul_assoc, exact, all] at limited
  · rintro (cheap | whole)
    · have bound := @overrideDiscount_le totals priceCents part price units
      omega
    · rw [overrideDiscount_eq]
      split
      next off =>
        have free : part.1.quantity = 0 ∨ part.1.lineTotalCents = 0 := by
          rw [price, whole.1] at off
          tauto
        have nothing : part.1.lineTotalCents = 0 := by
          rcases free with none | none
          · exact Nat.eq_zero_of_zero_dvd (none ▸ whole.2.1)
          · exact none
        rw [saved, nothing, Nat.zero_sub]
      next off =>
        simp only [not_or] at off
        have exact := unitOf_whole price off.2.1 whole
        have small : (unitOf totals part - priceCents) * part.1.quantity ≤ part.1.lineTotalCents :=
          (unit_saving_le price off.1).trans (Nat.sub_le _ _)
        rw [whole.1, saturatingMul, Nat.min_eq_left (small.trans fits), Nat.sub_mul, exact, saved]

end Part

section Shares
variable {totals : Uuid → Nat} {priceCents saving eligibleTotal : Nat} {capped : List (CartLineItem × Nat)}

/-- All savings are shared out as each line's own when they spread over the lines. -/
theorem shares_eq_iff : shares totals saving eligibleTotal (savings priceCents capped) capped =
      capped.map (fun part => saved priceCents part.1) ↔
    spreads totals priceCents saving eligibleTotal capped = true := by
  induction capped with
  | nil => simp [shares, spreads]
  | cons part rest ih =>
    have all : savings priceCents (part :: rest) = saved priceCents part.1 + savings priceCents rest := by
      rw [savings, List.map_cons, List.sum_cons]
      rfl
    rw [shares, spreads, decide_eq_true_eq, List.map_cons, List.cons.injEq]
    cases rest with
    | nil =>
      have alone : savings priceCents [part] = saved priceCents part.1 := by simp [savings]
      rw [alone]
      simp only [List.isEmpty_nil, if_true, shares, List.map_nil, spreads, and_true]
      split
      next none => exact ⟨fun same _ => same.symm, fun nothing => (nothing none).symm⟩
      next some => exact iff_of_true rfl fun none => absurd none some
    | cons second rest =>
      simp only [List.isEmpty_cons, Bool.false_eq_true, if_false]
      refine and_congr_right fun own => ?_
      rw [own, all, Nat.add_sub_cancel_left]
      exact ih

theorem overrides_le (price : ∀ part ∈ capped, totals (partId part) = part.1.lineTotalCents)
    (units : ∀ part ∈ capped, part.2 ≤ part.1.quantity) :
    min (wrap64 (capped.map (overrideDiscount totals priceCents)).sum) eligibleTotal ≤ savings priceCents capped :=
  (Nat.min_le_left _ _).trans ((wrap64_le _).trans
    (List.sum_le_sum fun part member => overrideDiscount_le (price part member) (units part member)))

/-- What is taken off in all is what all lines save, when each is priced by the unit. -/
theorem overrides_eq_iff (price : ∀ part ∈ capped, totals (partId part) = part.1.lineTotalCents)
    (units : ∀ part ∈ capped, part.2 ≤ part.1.quantity) (fits : ∀ part ∈ capped, part.1.lineTotalCents ≤ u64Max)
    (small : eligibleTotal ≤ u64Max) :
    min (wrap64 (capped.map (overrideDiscount totals priceCents)).sum) eligibleTotal = savings priceCents capped ↔
      (∀ part ∈ capped, saved priceCents part.1 = 0 ∨ WholeUnits part) ∧ savings priceCents capped ≤ eligibleTotal := by
  have each := fun part member => @overrideDiscount_le totals priceCents part (price part member) (units part member)
  constructor
  · intro equal
    have worth : savings priceCents capped ≤ eligibleTotal := equal.symm.le.trans (Nat.min_le_right _ _)
    refine ⟨fun part member => ?_, worth⟩
    have sums : savings priceCents capped ≤ (capped.map (overrideDiscount totals priceCents)).sum :=
      equal.symm.le.trans ((Nat.min_le_left _ _).trans (wrap64_le _))
    refine (overrideDiscount_eq_iff (price part member) (units part member) (fits part member)).mp ?_
    exact Table.eq_of_sum_le each sums part member
  · intro ⟨whole, worth⟩
    have same : capped.map (overrideDiscount totals priceCents) = capped.map fun part => saved priceCents part.1 :=
      List.map_congr_left fun part member =>
        (overrideDiscount_eq_iff (price part member) (units part member) (fits part member)).mpr (whole part member)
    show min (wrap64 (capped.map (overrideDiscount totals priceCents)).sum) eligibleTotal = _
    rw [same, ← savings, wrap64_of_fits (worth.trans small), Nat.min_eq_left worth]

end Shares

section Alone
variable {lines : List CartLineItem} {categoryByItem : Uuid → Uuid} {subtotalCents : Nat} {now : Timestamp}
  {promo : Promotion} {priceCents : Nat}

/-- What a price override takes off in all. -/
theorem discountOf_override (kind : promo.promoType = .priceOverride priceCents) {totals : Uuid → Nat} :
    discountOf lines categoryByItem totals promo =
      min (wrap64 ((cappedOf lines categoryByItem totals promo).map (overrideDiscount totals priceCents)).sum)
        (eligibleOf lines categoryByItem totals promo) := by
  by_cases worthless : eligibleOf lines categoryByItem totals promo = 0
  · rw [discountOf_worthless worthless, worthless, Nat.min_zero]
  · unfold eligibleOf cappedOf at worthless ⊢
    unfold discountOf computePromoDiscount
    rw [kind]
    exact if_neg worthless

/-- The lines are sold at the override when each of them is discounted by its saving. -/
theorem sold_iff (distinct : (lines.map CartLineItem.lineId).Nodup) :
    SoldAtOverride lines categoryByItem subtotalCents now promo priceCents ↔
      ∀ line ∈ eligibleLines lines categoryByItem promo,
        discountAlone lines categoryByItem subtotalCents now promo line = saved priceCents line := by
  have target (line : CartLineItem) (discount : Nat) : (line.lineTotalCents : Int) - discount =
      min line.lineTotalCents (priceCents * line.quantity) ↔ discount = saved priceCents line := by
    unfold saved
    omega
  unfold SoldAtOverride
  rw [results_alone]
  constructor
  · intro sold line eligible
    have member : line ∈ lines := (List.mem_filter.mp eligible).1
    have own := sold line member _ (List.mem_map_of_mem member) rfl
    rw [if_pos eligible] at own
    exact (target line _).mp own
  · intro each line member result listed same
    obtain ⟨source, inside, rfl⟩ := List.mem_map.mp listed
    obtain rfl := List.inj_on_of_nodup_map distinct inside member same
    split
    next eligible => exact (target source _).mpr (each source eligible)
    next ineligible =>
      rw [show (resultAlone lines categoryByItem subtotalCents now promo source).discountCents = 0 from
        discountAlone_ineligible distinct inside ineligible]
      exact Int.sub_zero _

/-- Every line is sold at the override exactly when the savings are proportional to what the lines cost. -/
theorem sold_at_override_iff (distinct : (lines.map CartLineItem.lineId).Nodup)
    (priced : ∀ line ∈ lines, line.lineTotalCents ≤ u64Max)
    (applied : applies lines categoryByItem subtotalCents now promo = true)
    (kind : promo.promoType = .priceOverride priceCents) :
    SoldAtOverride lines categoryByItem subtotalCents now promo priceCents ↔
      Proportional lines categoryByItem promo
        (cappedOf lines categoryByItem (LineAmounts.ofLines lines).totals promo) priceCents
        (eligibleOf lines categoryByItem (LineAmounts.ofLines lines).totals promo) := by
  have price : ∀ part ∈ cappedOf lines categoryByItem (LineAmounts.ofLines lines).totals promo,
      (LineAmounts.ofLines lines).totals (partId part) = part.1.lineTotalCents :=
    fun part member => ofLines_totals distinct (capped_lines member)
  have units : ∀ part ∈ cappedOf lines categoryByItem (LineAmounts.ofLines lines).totals promo,
      part.2 ≤ part.1.quantity := PromoAllocation.capUnits_le
  have fits : ∀ part ∈ cappedOf lines categoryByItem (LineAmounts.ofLines lines).totals promo,
      part.1.lineTotalCents ≤ u64Max := fun part member => priced part.1 (capped_lines member)
  have small : eligibleOf lines categoryByItem (LineAmounts.ofLines lines).totals promo ≤ u64Max :=
    Nat.le_sub_one_of_lt (Nat.mod_lt _ (by decide))
  have whole := @overrides_eq_iff _ priceCents _ _ price units fits small
  have bound := @overrides_le _ priceCents (eligibleOf lines categoryByItem (LineAmounts.ofLines lines).totals promo) _
    price units
  rw [← discountOf_override kind] at whole bound
  rw [sold_iff distinct]
  constructor
  · intro each
    have shared : sharesOf lines categoryByItem (LineAmounts.ofLines lines).totals promo =
        (cappedOf lines categoryByItem (LineAmounts.ofLines lines).totals promo).map
          fun part => saved priceCents part.1 := by
      refine (map_of_zip (by simp [sharesOf]) fun part share given => ?_).symm
      rw [← each part.1 (capped_subset (List.of_mem_zip given).1)]
      exact discountAlone_share distinct applied given
    have reached : savings priceCents (cappedOf lines categoryByItem (LineAmounts.ofLines lines).totals promo) ≤
        discountOf lines categoryByItem (LineAmounts.ofLines lines).totals promo := by
      rw [savings, ← shared]
      exact shares_sum_le
    have all := Nat.le_antisymm bound reached
    obtain ⟨unitwise, worth⟩ := whole.mp all
    refine ⟨fun line eligible outside => ?_, unitwise, worth, ?_⟩
    · rw [← each line eligible]
      refine discountAlone_other fun listed => outside ?_
      obtain ⟨part, capped, rfl⟩ := capped_of_id distinct (List.mem_filter.mp eligible).1 listed
      exact List.mem_map_of_mem capped
    · rw [sharesOf, all] at shared
      exact shares_eq_iff.mp shared
  · rintro ⟨counted, unitwise, worth, spread⟩ line eligible
    have all := whole.mpr ⟨unitwise, worth⟩
    have shared : sharesOf lines categoryByItem (LineAmounts.ofLines lines).totals promo =
        (cappedOf lines categoryByItem (LineAmounts.ofLines lines).totals promo).map
          fun part => saved priceCents part.1 := by
      rw [sharesOf, all]
      exact shares_eq_iff.mpr spread
    by_cases listed : line ∈ (cappedOf lines categoryByItem (LineAmounts.ofLines lines).totals promo).map Prod.fst
    · obtain ⟨part, capped, rfl⟩ := List.mem_map.mp listed
      refine discountAlone_share distinct applied ?_
      rw [shared]
      exact mem_zip_map (fun part => saved priceCents part.1) capped
    · rw [counted line eligible listed]
      refine discountAlone_other fun reached => listed ?_
      obtain ⟨part, capped, rfl⟩ := capped_of_id distinct (List.mem_filter.mp eligible).1 reached
      exact List.mem_map_of_mem capped

end Alone

/-- Two lines above the override in one proportion. -/
theorem equal_lines_are_overridden :
    SoldAtOverride [lineOf 1 1 1000, lineOf 2 2 1000] (fun _ => .nil) 3000 1 (offer (.priceOverride 700)) 700 :=
  (sold_at_override_iff (by decide) (by decide) (by decide) rfl).mpr
    ⟨by decide, by decide, by decide, by decide⟩

/-- A line that is cheaper than the override gets part of what the other line saves. -/
theorem cheap_line_is_discounted :
    ((List.map CartLineItem.lineId [lineOf 1 1 1000, lineOf 2 1 500]).Nodup ∧
      applies [lineOf 1 1 1000, lineOf 2 1 500] (fun _ => .nil) 1500 1 (offer (.priceOverride 700)) = true ∧
      effectiveMaxUnits [lineOf 1 1 1000, lineOf 2 1 500] (offer (.priceOverride 700)).actions
        (offer (.priceOverride 700)).conditions (fun _ => .nil) = none) ∧
    ¬ SoldAtOverride [lineOf 1 1 1000, lineOf 2 1 500] (fun _ => .nil) 1500 1 (offer (.priceOverride 700)) 700 := by
  refine ⟨by decide, fun sold => ?_⟩
  exact absurd ((sold_iff (by decide)).mp sold (lineOf 2 1 500) (by decide)) (by decide)

end ApexEdge.Proofs.PriceOverrides
