import ApexEdge.Library.Handout
import ApexEdge.Library.Totals
import ApexEdge.Proofs.PromoAllocation

/-! What one promotion takes off each of the lines it is allocated to. The lines are
served in the order of their ids, and the last of them gets what remains. -/

namespace ApexEdge.Proofs.PromoShares
open Library Payment Domain Promotions Handout PromoAllocation

def partId (part : CartLineItem × Nat) : Uuid := part.1.lineId

/-- A line's part in proportion, rounded down. -/
def want (totals : Uuid → Nat) (totalDiscount eligibleTotal : Nat) (part : CartLineItem × Nat) : Nat :=
  min (wrap64 (totalDiscount * eligibleCents totals part) / eligibleTotal) (eligibleCents totals part)

/-- What each line is given, in the order of allocation. -/
def shares (totals : Uuid → Nat) (totalDiscount eligibleTotal remaining : Nat) (capped : List (CartLineItem × Nat)) :
    List Nat :=
  match capped with
  | [] => []
  | first :: rest =>
    let share :=
      if rest.isEmpty then if eligibleCents totals first = 0 then 0 else remaining
      else min (want totals totalDiscount eligibleTotal first) remaining
    share :: shares totals totalDiscount eligibleTotal (remaining - share) rest

/-- What a step has put on a line's discount. -/
def received (before after : LineAmounts) (id : Uuid) : Nat :=
  wrap64 (after.discounts id + 2 ^ 64 - before.discounts id)

section Shares
variable {totals others : Uuid → Nat} {totalDiscount eligibleTotal remaining : Nat}
  {capped : List (CartLineItem × Nat)} {amounts : LineAmounts}

theorem shares_congr (same : ∀ part ∈ capped, totals (partId part) = others (partId part)) :
    shares totals totalDiscount eligibleTotal remaining capped =
      shares others totalDiscount eligibleTotal remaining capped := by
  induction capped generalizing remaining with
  | nil => rfl
  | cons first rest ih =>
    have here : eligibleCents totals first = eligibleCents others first := by
      have equal : totals first.1.lineId = others first.1.lineId := same first (by simp)
      simp only [eligibleCents, equal]
    have later := fun remaining => @ih remaining fun part member => same part (List.mem_cons_of_mem first member)
    simp only [shares, want, here, later]

@[simp] theorem shares_length : (shares totals totalDiscount eligibleTotal remaining capped).length = capped.length := by
  induction capped generalizing remaining with
  | nil => rfl
  | cons first rest ih => simp [shares, ih]

/-- All lines but the last are served what they want; the last one gets what is left then. -/
theorem shares_concat {last : CartLineItem × Nat} {front : List (CartLineItem × Nat)} :
    shares totals totalDiscount eligibleTotal remaining (front ++ [last]) =
      served remaining (front.map (want totals totalDiscount eligibleTotal)) ++
        [if eligibleCents totals last = 0 then 0
          else remaining - (front.map (want totals totalDiscount eligibleTotal)).sum] := by
  induction front generalizing remaining with
  | nil => simp [shares, served]
  | cons first front ih =>
    have left (wanted sum : Nat) : remaining - min wanted remaining - sum = remaining - (wanted + sum) := by omega
    simp only [List.cons_append, shares, List.map_cons, served, List.sum_cons]
    rw [if_neg (by simp), ih, left]

theorem shares_sum_le : (shares totals totalDiscount eligibleTotal remaining capped).sum ≤ remaining := by
  rcases List.eq_nil_or_concat capped with rfl | ⟨front, last, rfl⟩
  · exact Nat.zero_le _
  · rw [List.concat_eq_append, shares_concat, List.sum_append, served_sum, List.sum_singleton]
    split <;> omega

theorem share_le {share : Nat} (member : share ∈ shares totals totalDiscount eligibleTotal remaining capped) :
    share ≤ remaining := by
  induction capped generalizing remaining with
  | nil => cases member
  | cons first rest ih =>
    rcases List.mem_cons.mp member with rfl | later
    · split
      · split <;> omega
      · exact Nat.min_le_right _ _
    · exact (ih later).trans (Nat.sub_le _ _)

theorem allocate_cons {first : CartLineItem × Nat} {rest : List (CartLineItem × Nat)} :
    ∃ share, shares amounts.totals totalDiscount eligibleTotal remaining (first :: rest) =
        share :: shares amounts.totals totalDiscount eligibleTotal (remaining - share) rest ∧
      allocate totalDiscount eligibleTotal remaining (first :: rest) amounts =
        allocate totalDiscount eligibleTotal (remaining - share) rest (amounts.discount (partId first) share) := by
  refine ⟨_, rfl, ?_⟩
  rw [allocate]
  have same : (if eligibleCents amounts.totals first = 0 then 0
      else if rest.isEmpty then remaining
      else min (min (wrap64 (totalDiscount * eligibleCents amounts.totals first) / eligibleTotal) remaining)
        (eligibleCents amounts.totals first)) =
      if rest.isEmpty then if eligibleCents amounts.totals first = 0 then 0 else remaining
      else min (want amounts.totals totalDiscount eligibleTotal first) remaining := by
    unfold want
    generalize wrap64 (totalDiscount * eligibleCents amounts.totals first) / eligibleTotal = quota
    split <;> split <;> omega
  rw [same]
  rfl

theorem discount_other (amounts : LineAmounts) (cents : Nat) {id wanted : Uuid} (other : wanted ≠ id) :
    (amounts.discount id cents).totals wanted = amounts.totals wanted ∧
      (amounts.discount id cents).discounts wanted = amounts.discounts wanted := by
  simp [LineAmounts.discount, other]

theorem allocate_other {id : Uuid} (other : id ∉ capped.map partId) :
    (allocate totalDiscount eligibleTotal remaining capped amounts).totals id = amounts.totals id ∧
      (allocate totalDiscount eligibleTotal remaining capped amounts).discounts id = amounts.discounts id := by
  induction capped generalizing remaining amounts with
  | nil => exact ⟨rfl, rfl⟩
  | cons first rest ih =>
    rw [List.map_cons, List.mem_cons, not_or] at other
    obtain ⟨share, _, step⟩ := @allocate_cons totalDiscount eligibleTotal remaining amounts first rest
    obtain ⟨totals, discounts⟩ := @ih (remaining - share) (amounts.discount (partId first) share) other.2
    have kept := discount_other amounts share other.1
    rw [step]
    exact ⟨totals.trans kept.1, discounts.trans kept.2⟩

/-- Each line of a promotion is discounted by its own share. -/
theorem allocate_share (distinct : (capped.map partId).Nodup) {part : CartLineItem × Nat} {share : Nat}
    (member : (part, share) ∈ capped.zip (shares amounts.totals totalDiscount eligibleTotal remaining capped)) :
    (allocate totalDiscount eligibleTotal remaining capped amounts).totals (partId part) =
        amounts.totals (partId part) - share ∧
      (allocate totalDiscount eligibleTotal remaining capped amounts).discounts (partId part) =
        wrap64 (amounts.discounts (partId part) + share) := by
  induction capped generalizing remaining amounts with
  | nil => cases member
  | cons first rest ih =>
    obtain ⟨absent, distinct⟩ := List.nodup_cons.mp distinct
    obtain ⟨own, taken, step⟩ := @allocate_cons totalDiscount eligibleTotal remaining amounts first rest
    have apart : ∀ other ∈ rest, partId other ≠ partId first := fun other listed same =>
      absent (same ▸ List.mem_map_of_mem listed)
    rw [taken, List.zip_cons_cons, List.mem_cons] at member
    rw [step]
    rcases member with here | later
    · obtain ⟨rfl, rfl⟩ := Prod.mk.inj here
      obtain ⟨totals, discounts⟩ := @allocate_other totalDiscount eligibleTotal (remaining - share) rest
        (amounts.discount (partId part) share) (partId part) absent
      rw [totals, discounts]
      simp [LineAmounts.discount]
    · have kept := discount_other amounts own (apart part (List.of_mem_zip later).1)
      have same : ∀ other ∈ rest,
          amounts.totals (partId other) = (amounts.discount (partId first) own).totals (partId other) :=
        fun other listed => (discount_other amounts own (apart other listed)).1.symm
      rw [shares_congr same] at later
      rw [← kept.1, ← kept.2]
      exact ih distinct later

end Shares

section Reached
variable {lines : List CartLineItem} {categoryByItem : Uuid → Uuid} {totals : Uuid → Nat} {promo : Promotion}

/-- The lines a promotion is allocated to, with the units of each that count. -/
def cappedOf (lines : List CartLineItem) (categoryByItem : Uuid → Uuid) (totals : Uuid → Nat) (promo : Promotion) :
    List (CartLineItem × Nat) :=
  applicableLinesWithCap lines totals promo.actions
    (effectiveMaxUnits lines promo.actions promo.conditions categoryByItem) categoryByItem

def eligibleOf (lines : List CartLineItem) (categoryByItem : Uuid → Uuid) (totals : Uuid → Nat) (promo : Promotion) :
    Nat :=
  wrap64 ((cappedOf lines categoryByItem totals promo).map (eligibleCents totals)).sum

/-- What a promotion is to take off in all. -/
def discountOf (lines : List CartLineItem) (categoryByItem : Uuid → Uuid) (totals : Uuid → Nat) (promo : Promotion) :
    Nat :=
  computePromoDiscount promo.promoType lines totals promo.actions promo.conditions categoryByItem

def sharesOf (lines : List CartLineItem) (categoryByItem : Uuid → Uuid) (totals : Uuid → Nat) (promo : Promotion) :
    List Nat :=
  let discount := discountOf lines categoryByItem totals promo
  shares totals discount (eligibleOf lines categoryByItem totals promo) discount
    (cappedOf lines categoryByItem totals promo)

def eligibleLines (lines : List CartLineItem) (categoryByItem : Uuid → Uuid) (promo : Promotion) : List CartLineItem :=
  lines.filter (actionAppliesToLine · promo.actions categoryByItem)

theorem capUnits_sublist {remaining : Nat} : ((capUnits totals remaining lines).map Prod.fst).Sublist lines := by
  induction lines generalizing remaining with
  | nil => exact List.Sublist.refl []
  | cons line lines ih =>
    unfold capUnits
    split
    · exact ih.cons line
    · refine List.Sublist.cons_cons line ?_
      split
      · exact List.nil_sublist _
      · exact ih

theorem capped_sublist : ∃ sorted : List CartLineItem, sorted.Perm (eligibleLines lines categoryByItem promo) ∧
    ((cappedOf lines categoryByItem totals promo).map Prod.fst).Sublist sorted :=
  ⟨_, List.perm_insertionSort _ _, capUnits_sublist⟩

theorem capped_subset {part : CartLineItem × Nat} (member : part ∈ cappedOf lines categoryByItem totals promo) :
    part.1 ∈ eligibleLines lines categoryByItem promo := by
  obtain ⟨sorted, same, part_of⟩ := @capped_sublist lines categoryByItem totals promo
  exact same.mem_iff.mp (part_of.subset (List.mem_map_of_mem member))

theorem capped_lines {part : CartLineItem × Nat} (member : part ∈ cappedOf lines categoryByItem totals promo) :
    part.1 ∈ lines := (List.mem_filter.mp (capped_subset member)).1

theorem capped_distinct (distinct : (lines.map CartLineItem.lineId).Nodup) :
    ((cappedOf lines categoryByItem totals promo).map partId).Nodup := by
  obtain ⟨sorted, same, part_of⟩ := @capped_sublist lines categoryByItem totals promo
  have eligible : ((eligibleLines lines categoryByItem promo).map CartLineItem.lineId).Nodup :=
    distinct.sublist (List.filter_sublist.map _)
  have ordered := ((same.map CartLineItem.lineId).nodup_iff).mpr eligible
  have ids : (cappedOf lines categoryByItem totals promo).map partId =
      ((cappedOf lines categoryByItem totals promo).map Prod.fst).map CartLineItem.lineId := by
    rw [List.map_map]
    rfl
  rw [ids]
  exact ordered.sublist (part_of.map _)

/-- What lands on the lines a promotion is for lands on those it is allocated to. -/
theorem sum_eligible (distinct : (lines.map CartLineItem.lineId).Nodup) {value : Uuid → Nat}
    (elsewhere : ∀ id, id ∉ (cappedOf lines categoryByItem totals promo).map partId → value id = 0) :
    ((eligibleLines lines categoryByItem promo).map fun line => value line.lineId).sum =
      ((cappedOf lines categoryByItem totals promo).map fun part => value (partId part)).sum := by
  obtain ⟨sorted, same, part_of⟩ := @capped_sublist lines categoryByItem totals promo
  have eligible : ((eligibleLines lines categoryByItem promo).map CartLineItem.lineId).Nodup :=
    distinct.sublist (List.filter_sublist.map _)
  have ordered := ((same.map CartLineItem.lineId).nodup_iff).mpr eligible
  have ids := Table.sum_part part_of ordered fun line _ other => elsewhere line.lineId fun listed => by
    rw [List.map_map] at other
    exact other listed
  rw [← (same.map _).sum_eq, ids, List.map_map]
  rfl

theorem discountOf_worthless (worthless : eligibleOf lines categoryByItem totals promo = 0) :
    discountOf lines categoryByItem totals promo = 0 := by
  unfold eligibleOf cappedOf at worthless
  unfold discountOf computePromoDiscount
  simp only [worthless, if_true]

theorem discountOf_fits : discountOf lines categoryByItem totals promo ≤ u64Max := by
  have wrapped (n : Nat) : wrap64 n ≤ u64Max := by
    unfold wrap64 u64Max
    omega
  unfold discountOf computePromoDiscount
  dsimp only
  split
  · exact Nat.zero_le _
  · cases promo.promoType with
    | percentageOff _ => exact (Nat.div_le_self _ _).trans (wrapped _)
    | fixedAmountOff _ => exact (Nat.min_le_right _ _).trans (wrapped _)
    | buyXGetY _ _ => exact (Nat.min_le_right _ _).trans (wrapped _)
    | priceOverride _ => exact (Nat.min_le_right _ _).trans (wrapped _)

end Reached

section Step
variable {lines : List CartLineItem} {categoryByItem : Uuid → Uuid} {subtotalCents : Nat} {now : Timestamp}
  {progress : LineAmounts × List Uuid} {promo : Promotion}

/-- The promotion is open, and what it asks of the basket is there. -/
def applies (lines : List CartLineItem) (categoryByItem : Uuid → Uuid) (subtotalCents : Nat) (now : Timestamp)
    (promo : Promotion) : Bool :=
  isOpen now promo ∧ conditionsMet lines subtotalCents promo.conditions categoryByItem

/-- Each line costs what it did, less its discount. -/
def Balanced (lines : List CartLineItem) (amounts : LineAmounts) : Prop :=
  ∀ line ∈ lines, amounts.discounts line.lineId + amounts.totals line.lineId = line.lineTotalCents

theorem applyPromo_passed (passed : applies lines categoryByItem subtotalCents now promo = false) :
    applyPromo lines categoryByItem subtotalCents now progress promo = progress := by
  obtain ⟨amounts, noted⟩ := progress
  exact if_neg (of_decide_eq_false passed)

theorem applyPromo_applied (applied : applies lines categoryByItem subtotalCents now promo = true) :
    applyPromo lines categoryByItem subtotalCents now progress promo =
      (if eligibleOf lines categoryByItem progress.1.totals promo = 0 then progress.1
        else allocate (discountOf lines categoryByItem progress.1.totals promo)
          (eligibleOf lines categoryByItem progress.1.totals promo)
          (discountOf lines categoryByItem progress.1.totals promo)
          (cappedOf lines categoryByItem progress.1.totals promo) progress.1,
        if 0 < discountOf lines categoryByItem progress.1.totals promo then progress.2 ++ [promo.id] else progress.2) := by
  obtain ⟨amounts, noted⟩ := progress
  exact if_pos (of_decide_eq_true applied)

theorem applyPromo_other {id : Uuid} (other : id ∉ (cappedOf lines categoryByItem progress.1.totals promo).map partId) :
    (applyPromo lines categoryByItem subtotalCents now progress promo).1.totals id = progress.1.totals id ∧
      (applyPromo lines categoryByItem subtotalCents now progress promo).1.discounts id = progress.1.discounts id := by
  cases applied : applies lines categoryByItem subtotalCents now promo with
  | false =>
    rw [applyPromo_passed applied]
    exact ⟨rfl, rfl⟩
  | true =>
    rw [applyPromo_applied applied]
    dsimp only
    split
    · exact ⟨rfl, rfl⟩
    · exact allocate_other other

/-- A promotion that does not apply, or not to a line, leaves the line as it is. -/
theorem applyPromo_unreached {id : Uuid}
    (off : applies lines categoryByItem subtotalCents now promo = true →
      id ∉ (cappedOf lines categoryByItem progress.1.totals promo).map partId) :
    (applyPromo lines categoryByItem subtotalCents now progress promo).1.totals id = progress.1.totals id ∧
      (applyPromo lines categoryByItem subtotalCents now progress promo).1.discounts id = progress.1.discounts id := by
  cases applied : applies lines categoryByItem subtotalCents now promo with
  | false =>
    rw [applyPromo_passed applied]
    exact ⟨rfl, rfl⟩
  | true => exact applyPromo_other (off applied)

/-- Each line that is reached is discounted by its own share, also where there is nothing to share. -/
theorem applyPromo_share (distinct : (lines.map CartLineItem.lineId).Nodup)
    (applied : applies lines categoryByItem subtotalCents now promo = true)
    {part : CartLineItem × Nat} {share : Nat} (fits : progress.1.discounts (partId part) ≤ u64Max)
    (member : (part, share) ∈ (cappedOf lines categoryByItem progress.1.totals promo).zip
      (sharesOf lines categoryByItem progress.1.totals promo)) :
    (applyPromo lines categoryByItem subtotalCents now progress promo).1.totals (partId part) =
        progress.1.totals (partId part) - share ∧
      (applyPromo lines categoryByItem subtotalCents now progress promo).1.discounts (partId part) =
        wrap64 (progress.1.discounts (partId part) + share) := by
  rw [applyPromo_applied applied]
  dsimp only
  split
  next worthless =>
    have none : share = 0 := by
      have bound := share_le (List.of_mem_zip member).2
      rw [discountOf_worthless worthless] at bound
      omega
    rw [none, Nat.sub_zero, Nat.add_zero, wrap64_of_fits fits]
    exact ⟨rfl, rfl⟩
  next => exact allocate_share (capped_distinct distinct) member

theorem received_share (distinct : (lines.map CartLineItem.lineId).Nodup)
    (applied : applies lines categoryByItem subtotalCents now promo = true)
    {part : CartLineItem × Nat} {share : Nat} (fits : progress.1.discounts (partId part) ≤ u64Max)
    (member : (part, share) ∈ (cappedOf lines categoryByItem progress.1.totals promo).zip
      (sharesOf lines categoryByItem progress.1.totals promo)) :
    received progress.1 (applyPromo lines categoryByItem subtotalCents now progress promo).1 (partId part) = share := by
  have small : share ≤ u64Max := (share_le (List.of_mem_zip member).2).trans discountOf_fits
  unfold received
  rw [(applyPromo_share distinct applied fits member).2]
  unfold wrap64
  unfold u64Max at fits small
  omega

theorem received_unreached {id : Uuid}
    (off : applies lines categoryByItem subtotalCents now promo = true →
      id ∉ (cappedOf lines categoryByItem progress.1.totals promo).map partId) :
    received progress.1 (applyPromo lines categoryByItem subtotalCents now progress promo).1 id = 0 := by
  unfold received
  rw [(applyPromo_unreached off).2]
  unfold wrap64
  omega

end Step

section Alone
variable {lines : List CartLineItem} {categoryByItem : Uuid → Uuid} {subtotalCents : Nat} {now : Timestamp}
  {promo : Promotion}

theorem ofLines_totals (distinct : (lines.map CartLineItem.lineId).Nodup) {line : CartLineItem} (member : line ∈ lines) :
    (LineAmounts.ofLines lines).totals line.lineId = line.lineTotalCents := by
  have reversed : (lines.reverse.map CartLineItem.lineId).Nodup := by
    rw [List.map_reverse]
    exact List.nodup_reverse.mpr distinct
  have found := Table.find?_of_unique reversed (List.mem_reverse.mpr member)
  simp [LineAmounts.ofLines, found]

theorem ofLines_absent {id : Uuid} (absent : id ∉ lines.map CartLineItem.lineId) :
    (LineAmounts.ofLines lines).totals id = 0 := by
  have none : lines.reverse.find? (·.lineId = id) = none := by
    rw [List.find?_eq_none]
    intro line member same
    exact absent (List.mem_map.mpr ⟨line, List.mem_reverse.mp member, of_decide_eq_true same⟩)
  simp [LineAmounts.ofLines, none]

/-- A line's discount under a promotion that is alone. -/
def discountAlone (lines : List CartLineItem) (categoryByItem : Uuid → Uuid) (subtotalCents : Nat) (now : Timestamp)
    (promo : Promotion) (line : CartLineItem) : Nat :=
  (applyPromo lines categoryByItem subtotalCents now (LineAmounts.ofLines lines, []) promo).1.discounts line.lineId

def resultAlone (lines : List CartLineItem) (categoryByItem : Uuid → Uuid) (subtotalCents : Nat) (now : Timestamp)
    (promo : Promotion) (line : CartLineItem) : LinePriceResult :=
  { lineId := line.lineId, unitPriceCents := line.unitPriceCents, lineTotalCents := line.lineTotalCents
    discountCents := discountAlone lines categoryByItem subtotalCents now promo line, taxCents := line.taxCents
    taxInclusive := line.taxInclusive }

theorem results_alone : (applyPromosWithAttribution lines categoryByItem [promo] subtotalCents now).1 =
    lines.map (resultAlone lines categoryByItem subtotalCents now promo) := by
  simp only [applyPromosWithAttribution, byPriority, List.insertionSort_cons, List.insertionSort_nil,
    List.orderedInsert_nil, List.foldl_cons, List.foldl_nil]
  rfl

/-- A promotion that is alone discounts each line it reaches by its share. -/
theorem discountAlone_share (distinct : (lines.map CartLineItem.lineId).Nodup)
    (applied : applies lines categoryByItem subtotalCents now promo = true) {part : CartLineItem × Nat} {share : Nat}
    (member : (part, share) ∈ (cappedOf lines categoryByItem (LineAmounts.ofLines lines).totals promo).zip
      (sharesOf lines categoryByItem (LineAmounts.ofLines lines).totals promo)) :
    discountAlone lines categoryByItem subtotalCents now promo part.1 = share := by
  have small : share ≤ u64Max := (share_le (List.of_mem_zip member).2).trans discountOf_fits
  have amounts := @applyPromo_share _ _ subtotalCents now (LineAmounts.ofLines lines, []) _ distinct applied _ _
    (Nat.zero_le _) member
  refine amounts.2.trans ?_
  show wrap64 (0 + share) = share
  rw [Nat.zero_add, wrap64_of_fits small]

theorem discountAlone_other {line : CartLineItem}
    (other : line.lineId ∉ (cappedOf lines categoryByItem (LineAmounts.ofLines lines).totals promo).map partId) :
    discountAlone lines categoryByItem subtotalCents now promo line = 0 :=
  (@applyPromo_other _ _ subtotalCents now (LineAmounts.ofLines lines, []) _ _ other).2

theorem capped_of_id (distinct : (lines.map CartLineItem.lineId).Nodup) {totals : Uuid → Nat} {line : CartLineItem}
    (member : line ∈ lines) (listed : line.lineId ∈ (cappedOf lines categoryByItem totals promo).map partId) :
    ∃ part ∈ cappedOf lines categoryByItem totals promo, part.1 = line := by
  obtain ⟨part, capped, same⟩ := List.mem_map.mp listed
  exact ⟨part, capped, List.inj_on_of_nodup_map distinct (capped_lines capped) member same⟩

/-- Lines that a promotion is not for keep their price. -/
theorem discountAlone_ineligible (distinct : (lines.map CartLineItem.lineId).Nodup) {line : CartLineItem}
    (member : line ∈ lines) (ineligible : line ∉ eligibleLines lines categoryByItem promo) :
    discountAlone lines categoryByItem subtotalCents now promo line = 0 := by
  refine discountAlone_other fun listed => ineligible ?_
  obtain ⟨part, capped, rfl⟩ := capped_of_id distinct member listed
  exact capped_subset capped

theorem discountAlone_sum (distinct : (lines.map CartLineItem.lineId).Nodup)
    (applied : applies lines categoryByItem subtotalCents now promo = true) :
    (lines.map (discountAlone lines categoryByItem subtotalCents now promo)).sum =
      (sharesOf lines categoryByItem (LineAmounts.ofLines lines).totals promo).sum := by
  have eligible := @sum_eligible lines categoryByItem (LineAmounts.ofLines lines).totals promo distinct
    (fun id => (applyPromo lines categoryByItem subtotalCents now (LineAmounts.ofLines lines, []) promo).1.discounts id)
    fun id other => (@applyPromo_other _ _ subtotalCents now (LineAmounts.ofLines lines, []) _ _ other).2
  have part_of : (eligibleLines lines categoryByItem promo).Sublist lines := List.filter_sublist
  have whole := Table.sum_part part_of distinct fun line member other =>
    @discountAlone_ineligible _ categoryByItem subtotalCents now promo distinct line member
      fun eligible => other (List.mem_map_of_mem eligible)
  refine whole.trans (eligible.trans (congrArg List.sum ?_))
  exact map_of_zip (by simp [sharesOf]) fun part share given => discountAlone_share distinct applied given

end Alone

/-- A line of an item of its own, priced by the unit. -/
def lineOf (id quantity unitPriceCents : Nat) : CartLineItem :=
  { lineId := .random id, itemId := .random (100 + id), sku := "SKU", name := "Item", quantity := quantity
    modifierOptionIds := [], notes := none, unitPriceCents := unitPriceCents
    lineTotalCents := unitPriceCents * quantity, discountCents := 0, taxCents := 0, taxInclusive := false }

/-- A promotion on the whole basket. -/
def offer (promoType : PromotionType) : Promotion :=
  { id := 50, code := none, promoType := promoType, priority := 1, validFrom := 0, validUntil := none
    conditions := [], actions := [.applyToBasket] }

end ApexEdge.Proofs.PromoShares
