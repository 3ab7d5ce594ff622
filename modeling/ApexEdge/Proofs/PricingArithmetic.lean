import ApexEdge.Proofs.CartPricing
import ApexEdge.Proofs.PromoArithmetic

/-! Where the pricing of a cart leaves the range of its integers. The line totals together, the
promotions, and a product for each tax and each manual discount decide it; nothing else can. -/

namespace ApexEdge.Proofs.PricingArithmetic
open Library Payment Domain Contracts Pos Promotions
open Library.Checked (Exact)
open Proofs.PromoArithmetic Proofs.CartPricing

section Taxes
variable {tables : PriceTables} {rules : List TaxRule}

/-- What is multiplied for the tax on an amount is in range. -/
def TaxFits (rules : List TaxRule) (taxCategoryId : Uuid) (amountCents : Nat) : Prop :=
  ∀ rule ∈ rules.find? (·.taxCategoryId = taxCategoryId),
    amountCents * (if rule.inclusive then 10000 else rule.rateBps) ≤ u64Max

def LineTaxFits (tables : PriceTables) (line : CartLineItem) : Prop :=
  TaxFits tables.rules (tables.categoryByItem line.itemId) (lineNet line)

/-- The price without an inclusive tax is no more than the price. -/
theorem applyTax_exact {amountCents rateBps : Nat} {inclusive : Bool} (rated : rateBps ≤ u32Max) :
    Exact (CheckedPricing.applyTax amountCents rateBps inclusive) (applyTax amountCents rateBps inclusive)
      (amountCents * (if inclusive then 10000 else rateBps) ≤ u64Max) := by
  unfold CheckedPricing.applyTax applyTax
  cases inclusive with
  | false => exact (u64_exact _).map _
  | true =>
    have divisor : 10000 + rateBps ≤ u64Max := by
      unfold u32Max at rated
      unfold u64Max
      omega
    have without : wrap64 (amountCents * 10000) / wrap64 (10000 + rateBps) ≤ amountCents := by
      rw [wrap64_of_fits divisor]
      refine Nat.div_le_of_le_mul ((wrap64_le _).trans ?_)
      rw [Nat.mul_comm]
      exact Nat.mul_le_mul_right _ (Nat.le_add_right _ _)
    refine Exact.congr (Exact.bind (u64_exact _) fun _ => Exact.bind (u64_exact _) fun _ => Checked.sub_exact _ _)
      ?_ fun _ => ?_
    · simp [divisor, without]
    · rw [wrap64_of_fits divisor]
      rfl

theorem taxForLine_exact {lineAmountCents : Nat} {taxCategoryId : Uuid}
    (rated : ∀ rule ∈ rules, rule.rateBps ≤ u32Max) :
    Exact (CheckedPricing.taxForLine lineAmountCents taxCategoryId rules)
      (taxForLine lineAmountCents taxCategoryId rules)
      (TaxFits rules taxCategoryId lineAmountCents) := by
  unfold CheckedPricing.taxForLine taxForLine TaxFits
  cases found : rules.find? (·.taxCategoryId = taxCategoryId) with
  | none => exact (Exact.pure _).congr (by simp) fun _ => rfl
  | some rule =>
    have known := rated rule (List.mem_of_find?_eq_some found)
    exact ((applyTax_exact known).map _).congr (by simp) fun _ => rfl

/-- The tax is taken of results whose lines are known. -/
theorem taxResults_exact {results : List LinePriceResult} {cartLines : List CartLineItem}
    (rated : ∀ rule ∈ tables.rules, rule.rateBps ≤ u32Max)
    (known : ∀ result ∈ results, ∃ line, cartLines.find? (·.lineId = result.lineId) = some line) :
    Exact (CheckedPricing.applyTaxToPricingResults results cartLines tables)
      (applyTaxToPricingResults results cartLines tables)
      (∀ result ∈ results, ∀ line ∈ cartLines.find? (·.lineId = result.lineId),
        TaxFits tables.rules (tables.categoryByItem line.itemId) (result.lineTotalCents - result.discountCents)) := by
  induction results with
  | nil => exact (Exact.pure _).congr (by simp) fun _ => rfl
  | cons result results ih =>
    obtain ⟨⟨line, found⟩, others⟩ := List.forall_mem_cons.mp known
    rw [List.forall_mem_cons]
    unfold CheckedPricing.applyTaxToPricingResults
    simp only [found]
    refine Exact.congr (Exact.bind (taxForLine_exact rated) fun _ => (ih others).map _) (by simp) fun _ => ?_
    unfold applyTaxToPricingResults
    rw [List.mapM_cons, taxResult]
    simp only [found]
    cases results.mapM (taxResult cartLines tables) <;> rfl

theorem taxLine_exact {line : CartLineItem} (rated : ∀ rule ∈ tables.rules, rule.rateBps ≤ u32Max) :
    Exact (CheckedPricing.taxLine tables line) (taxLine tables line) (LineTaxFits tables line) :=
  (taxForLine_exact rated).map _

theorem taxFits_mono {taxCategoryId : Uuid} {amountCents less : Nat} (fits : TaxFits rules taxCategoryId amountCents)
    (fewer : less ≤ amountCents) : TaxFits rules taxCategoryId less := fun rule found =>
  (Nat.mul_le_mul_right _ fewer).trans (fits rule found)

/-- A line that is discounted further is taxed on no more than before. -/
theorem lineTaxFits_addDiscount (cents : Nat) (line : CartLineItem) (fits : LineTaxFits tables line)
    (inRange : line.lineTotalCents ≤ u64Max) : LineTaxFits tables (addDiscount cents line) := by
  refine taxFits_mono fits ?_
  simp only [addDiscount, lineNet, saturatingAdd]
  omega

end Taxes

section Manual
variable {lines : List CartLineItem} {tables : PriceTables} {cart : Cart}

/-- A manual discount on the cart stays in range: what the lines still cost together, and the
parts of all lines but the last before they are divided. -/
def SpreadFits (lines : List CartLineItem) (discount : ManualDiscountInfo) : Prop :=
  discount.amountCents ≠ 0 → discount.lineId = none → (lines.map lineNet).sum ≤ u64Max ∧
    ∀ line ∈ lines.dropLast, discount.amountCents * lineNet line ≤ u64Max

theorem lineNets_le (lines : List CartLineItem) :
    (lines.map lineNet).sum ≤ (lines.map CartLineItem.lineTotalCents).sum :=
  List.sum_le_sum fun _ _ => Nat.sub_le _ _

theorem spreadDiscount_exact {amountCents totalNet remaining : Nat} :
    Exact (CheckedPricing.spreadDiscount amountCents totalNet remaining lines)
      (spreadDiscount amountCents totalNet remaining lines)
      (∀ line ∈ lines.dropLast, amountCents * lineNet line ≤ u64Max) := by
  induction lines generalizing remaining with
  | nil => exact (Exact.pure []).congr (by simp) fun _ => rfl
  | cons line lines ih =>
    have share : Exact (if lines.isEmpty then some remaining
          else (CheckedPricing.u64 (amountCents * lineNet line)).map fun scaled => min (scaled / totalNet) remaining)
        (if lines.isEmpty then remaining else min (wrap64 (amountCents * lineNet line) / totalNet) remaining)
        (lines.isEmpty = false → amountCents * lineNet line ≤ u64Max) := by
      cases lines.isEmpty with
      | true => exact (Exact.pure remaining).congr (by simp) fun _ => rfl
      | false => exact ((u64_exact _).map _).congr (by simp) fun _ => rfl
    refine Exact.congr (Exact.bind share fun _ => ih.map _) ?_ fun _ => rfl
    cases lines with
    | nil => simp
    | cons second lines => simp [List.dropLast_cons_of_ne_nil]

theorem applyManualDiscount_exact (lines : List CartLineItem) (discount : ManualDiscountInfo) :
    Exact (CheckedPricing.applyManualDiscount lines discount) (applyManualDiscount lines discount)
      (SpreadFits lines discount) := by
  unfold CheckedPricing.applyManualDiscount applyManualDiscount SpreadFits
  by_cases nothing : discount.amountCents = 0
  · rw [if_pos nothing, if_pos nothing]
    exact (Exact.pure lines).congr (by simp [nothing]) fun _ => rfl
  · rw [if_neg nothing, if_neg nothing]
    cases discount.lineId with
    | some lineId => exact (Exact.pure _).congr (by simp) fun _ => rfl
    | none =>
      have spread : (lines.map lineNet).sum ≤ u64Max → Exact (if basketNet lines = 0 then some lines
            else CheckedPricing.spreadDiscount discount.amountCents (basketNet lines) discount.amountCents lines)
          (if basketNet lines = 0 then lines
            else spreadDiscount discount.amountCents (basketNet lines) discount.amountCents lines)
          (∀ line ∈ lines.dropLast, discount.amountCents * lineNet line ≤ u64Max) := by
        intro fits
        by_cases free : basketNet lines = 0
        · rw [if_pos free, if_pos free]
          refine (Exact.pure lines).congr (iff_of_true trivial fun line member => ?_) fun _ => rfl
          rw [basketNet, wrap64_of_fits fits, List.sum_eq_zero_iff_forall_eq_nat] at free
          have none := free _ (List.mem_map_of_mem (f := lineNet) (List.mem_of_mem_dropLast member))
          rw [none]
          exact Nat.zero_le _
        · rw [if_neg free, if_neg free]
          exact spreadDiscount_exact
      exact Exact.congr (Exact.bind (sum64_exact _) spread) (by simp [nothing]) fun _ => rfl

/-- What stays in range when the manual discounts are put on the lines as they are. -/
def ManualFits (tables : PriceTables) (cart : Cart) : Prop :=
  cart.manualDiscounts ≠ [] →
    Sequence.Meets applyManualDiscount SpreadFits cart.lines cart.manualDiscounts ∧
      ∀ line ∈ cart.manualDiscounts.foldl applyManualDiscount cart.lines, LineTaxFits tables line

theorem manual_exact (rated : ∀ rule ∈ tables.rules, rule.rateBps ≤ u32Max) :
    Exact (CheckedPricing.applyManualDiscountsToLines tables cart) (applyManualDiscountsToLines tables cart)
      (ManualFits tables cart) := by
  unfold CheckedPricing.applyManualDiscountsToLines applyManualDiscountsToLines ManualFits
  by_cases none : cart.manualDiscounts = []
  · rw [if_pos (by simp [none]), if_pos (by simp [none])]
    exact (Exact.pure cart).congr (by simp [none]) fun _ => rfl
  · have some : ¬cart.manualDiscounts.isEmpty = true := by simpa using none
    rw [if_neg some, if_neg some]
    have spread : Exact (cart.manualDiscounts.foldlM CheckedPricing.applyManualDiscount cart.lines)
        (cart.manualDiscounts.foldl applyManualDiscount cart.lines)
        (Sequence.Meets applyManualDiscount SpreadFits cart.lines cart.manualDiscounts) :=
      Checked.foldlM_exact (fun lines discount (_ : True) => applyManualDiscount_exact lines discount)
        (fun _ _ _ => trivial) cart.manualDiscounts trivial
    refine Exact.congr (Exact.bind spread fun _ =>
      Exact.bind (Checked.mapM_exact fun line _ => taxLine_exact rated) fun _ => Exact.pure _) ?_ fun _ => rfl
    simp [none]

end Manual

section Pipeline
variable {tables : PriceTables} {cart : Cart}

/-- What pricing a cart has to stay in range: the line totals together, each promotion in the state
that those before it have left, the tax on each line after promotions, and each manual discount. -/
structure InRange (tables : PriceTables) (cart : Cart) : Prop where
  subtotal : cart.subtotalCents ≤ u64Max
  promos : Sequence.Meets (applyPromo cart.lines tables.categoryByItem cart.subtotalCents tables.now)
    (PromoFits cart.lines tables.categoryByItem cart.subtotalCents tables.now) (LineAmounts.ofLines cart.lines, [])
    (byPriority (promosToApply tables.promos cart.appliedPromoIds))
  taxes : ∀ line ∈ (promoPriced tables cart).lines, LineTaxFits tables line
  manual : Sequence.Meets applyManualDiscount SpreadFits (promoPriced tables cart).lines cart.manualDiscounts

/-- A line's result before it is taxed. -/
def untaxedResult (tables : PriceTables) (cart : Cart) (line : CartLineItem) : LinePriceResult :=
  { lineId := line.lineId, unitPriceCents := line.unitPriceCents, lineTotalCents := line.lineTotalCents
    discountCents := (promoOutcome tables cart).1.discounts line.lineId, taxCents := line.taxCents
    taxInclusive := line.taxInclusive }

theorem subtotal_exact : Exact (CheckedPricing.sum64 (cart.lines.map CartLineItem.lineTotalCents)) cart.subtotalCents
    (cart.subtotalCents ≤ u64Max) :=
  (sum64_exact _).congr Iff.rfl fun fits => wrap64_of_fits fits

theorem promoPriced_taxes (distinct : (cart.lines.map CartLineItem.lineId).Nodup) :
    (∀ result ∈ cart.lines.map (untaxedResult tables cart), ∀ line ∈ cart.lines.find? (·.lineId = result.lineId),
        TaxFits tables.rules (tables.categoryByItem line.itemId) (result.lineTotalCents - result.discountCents)) ↔
      ∀ line ∈ (promoPriced tables cart).lines, LineTaxFits tables line := by
  rw [promoPriced_lines distinct, List.forall_mem_map, List.forall_mem_map]
  refine forall₂_congr fun line member => ?_
  have own : cart.lines.find? (·.lineId = (untaxedResult tables cart line).lineId) = some line :=
    Table.find?_of_unique distinct member
  rw [own]
  simp only [Option.mem_def, Option.some_inj, forall_eq']
  rfl

theorem taxed_exact (distinct : (cart.lines.map CartLineItem.lineId).Nodup)
    (rated : ∀ rule ∈ tables.rules, rule.rateBps ≤ u32Max) :
    Exact (CheckedPricing.applyTaxToPricingResults (cart.lines.map (untaxedResult tables cart)) cart.lines tables)
      (.ok (cart.lines.map (taxedResult tables cart)))
      (∀ line ∈ (promoPriced tables cart).lines, LineTaxFits tables line) := by
  refine (taxResults_exact rated ?_).congr (promoPriced_taxes distinct) fun _ => applyTax_ok
  rw [List.forall_mem_map]
  intro line member
  exact ⟨line, Table.find?_of_unique distinct member⟩

/-- Prices that are in range stay so when discounts are added: a line costs no more than before. -/
theorem taxes_of_priced (priced : ∀ line ∈ cart.lines, line.lineTotalCents ≤ u64Max)
    (taxes : ∀ line ∈ cart.lines, LineTaxFits tables line) (discounts : List ManualDiscountInfo) :
    ∀ line ∈ discounts.foldl applyManualDiscount cart.lines, LineTaxFits tables line := by
  have kept : ∀ line ∈ discounts.foldl applyManualDiscount cart.lines,
      LineTaxFits tables line ∧ line.lineTotalCents ≤ u64Max := by
    apply forall_applyManualDiscounts
    · intro cents line ⟨fits, inRange⟩
      exact ⟨lineTaxFits_addDiscount cents line fits inRange, inRange⟩
    · exact fun line member => ⟨taxes line member, priced line member⟩
  exact fun line member => (kept line member).1

/-- What the lines cost together after all discounts is no more than the subtotal. -/
theorem nets_le (distinct : (cart.lines.map CartLineItem.lineId).Nodup) :
    ((applyManualDiscountsToLines tables (promoPriced tables cart)).lines.map lineNet).sum ≤ cart.subtotalCents := by
  have same : (applyManualDiscountsToLines tables (promoPriced tables cart)).lines.map bare = cart.lines.map bare := by
    rw [← repriced_lines, repriced_bare distinct]
  have totals := map_of_bare CartLineItem.lineTotalCents (fun _ => rfl) same
  unfold Cart.subtotalCents
  rw [← totals]
  exact lineNets_le _

theorem coupons_exact (fits : (cart.lines.map lineNet).sum ≤ u64Max) :
    Exact (CheckedPricing.applyCouponDiscounts tables cart) (applyCouponDiscounts tables cart) True := by
  unfold CheckedPricing.applyCouponDiscounts
  by_cases none : cart.appliedCoupons = []
  · rw [if_pos (by simp [none])]
    refine (Exact.pure cart).congr Iff.rfl fun _ => ?_
    rw [applyCouponDiscounts, none, priceCoupons, ← none]
  · rw [if_neg (by simpa using none)]
    exact ((sum64_exact _).map _).congr (iff_true_intro fits) fun _ => rfl

theorem priced_of_subtotal (distinct : (cart.lines.map CartLineItem.lineId).Nodup)
    (fits : cart.subtotalCents ≤ u64Max) :
    ∀ line ∈ (promoPriced tables cart).lines, line.lineTotalCents ≤ u64Max := by
  rw [promoPriced_lines distinct, List.forall_mem_map]
  intro line member
  exact (lineTotal_le member).trans fits

/-- The discounts on the cart are what the pipeline looks at last. -/
theorem settled_exact : Exact
    (let discounted := fullyPriced tables cart
      if (cart.lines.map (taxedResult tables cart)).any (0 < ·.discountCents) ∨ !discounted.manualDiscounts.isEmpty ∨
        discounted.appliedCoupons.any (0 < ·.discountCents) then
        some (Except.ok (discounted.setDiscounted tables.now))
      else some (.ok discounted))
    (runPricingPipeline tables cart) True := by
  have any : (cart.lines.map (taxedResult tables cart)).any (0 < ·.discountCents) =
      cart.lines.any (fun line => 0 < (promoOutcome tables cart).1.discounts line.lineId) := by
    rw [List.any_map]
    rfl
  rw [runPricingPipeline_eq]
  dsimp only
  rw [any, ← apply_ite some, ← apply_ite Except.ok]
  exact Exact.pure _

theorem runPricingPipeline_exact (distinct : (cart.lines.map CartLineItem.lineId).Nodup)
    (rated : ∀ rule ∈ tables.rules, rule.rateBps ≤ u32Max) :
    Exact (CheckedPricing.runPricingPipeline tables cart) (runPricingPipeline tables cart) (InRange tables cart) := by
  have promos (fits : cart.subtotalCents ≤ u64Max) :
      Exact (CheckedPricing.applyPromosWithAttribution cart.lines tables.categoryByItem cart.subtotalCents tables.now
          (promosToApply tables.promos cart.appliedPromoIds))
        (cart.lines.map (untaxedResult tables cart), (promoOutcome tables cart).2) _ :=
    applyPromos_exact distinct fits _
  refine Exact.congr (Exact.bind subtotal_exact fun fits => Exact.bind (promos fits) fun _ =>
    Exact.bind (taxed_exact distinct rated) fun _ => Exact.bind (manual_exact rated) fun _ =>
      Exact.bind (coupons_exact ((nets_le distinct).trans fits)) fun _ => settled_exact) ?_ fun _ => rfl
  constructor
  · intro ⟨subtotal, promos, taxes, manual, _, _⟩
    refine ⟨subtotal, promos, taxes, ?_⟩
    by_cases none : cart.manualDiscounts = []
    · rw [none]
      trivial
    · exact (manual none).1
  · intro fits
    refine ⟨fits.subtotal, fits.promos, fits.taxes, fun _ => ⟨fits.manual, ?_⟩, trivial, trivial⟩
    exact taxes_of_priced (priced_of_subtotal distinct fits.subtotal) fits.taxes _

/-- Both passes that price a cart, the whole one and the one that only adds the manual discounts,
run without leaving the range of an integer when their steps are in range, and only then. -/
theorem pricing_in_range_iff (distinct : (cart.lines.map CartLineItem.lineId).Nodup)
    (rated : ∀ rule ∈ tables.rules, rule.rateBps ≤ u32Max) :
    ((CheckedPricing.runPricingPipeline tables cart).isSome ↔ InRange tables cart) ∧
      ((CheckedPricing.applyManualDiscountsToLines tables cart).isSome ↔ ManualFits tables cart) :=
  ⟨(runPricingPipeline_exact distinct rated).isSome, (manual_exact rated).isSome⟩

/-- A cart of one new line. -/
def sold (quantity unitPriceCents : Nat) : Cart :=
  (Cart.new 1 2 3 0).addLineItem
    { lineId := 4, itemId := 5, sku := "SKU", name := "Item", quantity := quantity, unitPriceCents := unitPriceCents
      modifierOptionIds := [], notes := none } 0

def vatTables : PriceTables :=
  { rules := [⟨.nil, 1000, true⟩], promos := [], itemToTaxCategory := [], now := 0 }

theorem sold_in_range : InRange vatTables (sold 2 1100) ∧ ManualFits vatTables (sold 2 1100) :=
  have iff := @pricing_in_range_iff vatTables (sold 2 1100) (by decide) (by decide)
  ⟨iff.1.mp (by decide), iff.2.mp (by decide)⟩

/-- The product for the inclusive tax leaves the range at a price that a line can be sold for. -/
theorem override_leaves_range : (sold 1 (2 ^ 63)).lines.map CartLineItem.lineTotalCents = [2 ^ 63] ∧
    CheckedPricing.runPricingPipeline vatTables (sold 1 (2 ^ 63)) = none ∧
    applyTax (2 ^ 63) 1000 true = 2 ^ 63 := by
  decide

end Pipeline

section Small
variable {tables : PriceTables} {cart : Cart}

theorem mem_of_applied {promos : List Promotion} {promoIds : List Uuid} {promo : Promotion}
    (applied : promo ∈ byPriority (promosToApply promos promoIds)) : promo ∈ promos := by
  rcases List.mem_append.mp ((List.perm_insertionSort _ _).mem_iff.mp applied) with automatic | requested
  · exact (List.mem_filter.mp automatic).1
  · exact (List.mem_filter.mp requested).1

theorem taxFits_of_small {rules : List TaxRule} {taxCategoryId : Uuid} {amountCents : Nat}
    (rated : ∀ rule ∈ rules, rule.rateBps ≤ u32Max) (small : amountCents ≤ u32Max) :
    TaxFits rules taxCategoryId amountCents := by
  intro rule found
  refine product_fits small ?_
  split
  · decide
  · exact rated rule (List.mem_of_find?_eq_some found)

theorem spreadFits_of_small {lines : List CartLineItem} {discount : ManualDiscountInfo}
    (small : (lines.map CartLineItem.lineTotalCents).sum ≤ u32Max) (amount : discount.amountCents ≤ u32Max) :
    SpreadFits lines discount := by
  have nets := (lineNets_le lines).trans small
  refine fun _ _ => ⟨nets.trans (by decide), fun line member => product_fits amount ?_⟩
  have listed : lineNet line ∈ lines.map lineNet := List.mem_map_of_mem (List.mem_of_mem_dropLast member)
  exact (List.single_le_sum (fun _ _ => Nat.zero_le _) _ listed).trans nets

/-- The checked pass never ends early on small baskets: less than 2^32 cents and units, manual
discounts of less than 2^32 cents, and percentages up to the whole. -/
theorem small_baskets_priced (distinct : (cart.lines.map CartLineItem.lineId).Nodup)
    (rated : ∀ rule ∈ tables.rules, rule.rateBps ≤ u32Max) (small : Small cart.lines)
    (proper : ∀ promo ∈ tables.promos, Proper promo)
    (manual : ∀ discount ∈ cart.manualDiscounts, discount.amountCents ≤ u32Max) :
    CheckedPricing.runPricingPipeline tables cart = some (runPricingPipeline tables cart) := by
  refine (runPricingPipeline_exact distinct rated _).mpr ⟨?_, rfl⟩
  have totals : ((promoPriced tables cart).lines.map CartLineItem.lineTotalCents).sum ≤ u32Max := by
    rw [promoPriced_lines distinct, List.map_map]
    exact small.1
  constructor
  · exact small.1.trans (by decide)
  · exact promosFit_of_small distinct small fun promo applied => proper promo (mem_of_applied applied)
  · intro line member
    exact taxFits_of_small rated ((Nat.sub_le _ _).trans ((lineTotal_le member).trans totals))
  · refine @Sequence.meets_of_kept _ _ _ _ _
      (fun lines => (lines.map CartLineItem.lineTotalCents).sum ≤ u32Max) ?_ _ ?_ totals
    · intro lines discount before
      rwa [map_of_bare CartLineItem.lineTotalCents (fun _ => rfl) (applyManualDiscount_bare discount)]
    · exact fun lines before discount member => spreadFits_of_small before (manual discount member)

def saleTables : PriceTables := { vatTables with promos := [⟨.nil, none, .percentageOff 1000, 1, 0, none, [], []⟩] }

theorem discounted_sale_priced :
    CheckedPricing.runPricingPipeline saleTables (sold 2 1100) = some (runPricingPipeline saleTables (sold 2 1100)) :=
  small_baskets_priced (by decide) (by decide) ⟨by decide, by decide⟩
    (List.forall_mem_singleton.mpr (show 1000 ≤ 10000 by decide)) nofun

end Small
end ApexEdge.Proofs.PricingArithmetic
