import ApexEdge.Proofs.CartStates
import ApexEdge.Proofs.PromoAllocation

/-! The money on a cart. Discounts stay within what the lines cost as long as a
promotion's last line can bear its part and no coupon is left on a basket that is
discounted again or emptied. -/

namespace ApexEdge.Proofs.CartMoney
open Library Payment Domain Storage Contracts Pos
open Promotions CartPricing CartStore PromoAllocation

/-- Tax that is added to the price of a line. -/
def exclusiveTax (line : CartLineItem) : Nat := if line.taxInclusive then 0 else line.taxCents

def couponCents (cart : Cart) : Nat := (cart.appliedCoupons.map AppliedCouponRecord.discountCents).sum

def netCents (lines : List CartLineItem) : Nat := (lines.map lineNet).sum

structure MoneyFits (cart : Cart) : Prop where
  distinct : (cart.lines.map CartLineItem.lineId).Nodup
  covered : ∀ line ∈ cart.lines, line.discountCents ≤ line.lineTotalCents
  coupons : couponCents cart ≤ netCents cart.lines
  fits : (cart.lines.map fun line => line.lineTotalCents + exclusiveTax line).sum ≤ u64Max

/-- The most tax that a line can get on top of its price. -/
def taxCeiling (tables : PriceTables) (line : CartLineItem) : Nat :=
  match tables.rules.find? (·.taxCategoryId = tables.categoryByItem line.itemId) with
  | none => 0
  | some rule => if rule.inclusive then 0 else line.lineTotalCents * rule.rateBps / 10000

/-- All prices and taxes of a cart together are a 64-bit amount. -/
def AmountsFit (tables : PriceTables) (cart : Cart) : Prop :=
  (cart.lines.map fun line => line.lineTotalCents + taxCeiling tables line).sum ≤ u64Max

/-- In pricing the cart, the last line of every promotion can bear its part. -/
def PromosBear (tables : PriceTables) (cart : Cart) : Prop :=
  Sequence.Meets (applyPromo cart.lines tables.categoryByItem cart.subtotalCents tables.now)
    (Bears cart.lines tables.categoryByItem cart.subtotalCents tables.now) (LineAmounts.ofLines cart.lines, [])
    (byPriority (promosToApply tables.promos cart.appliedPromoIds))

instance (tables : PriceTables) (cart : Cart) : Decidable (AmountsFit tables cart) :=
  inferInstanceAs (Decidable (_ ≤ _))

instance (tables : PriceTables) (cart : Cart) : Decidable (PromosBear tables cart) :=
  inferInstanceAs (Decidable (Sequence.Meets ..))

/-- What an edit has to meet: a fresh id for a new line, promotions that can be borne,
amounts that fit, and no coupon on a cart that is being emptied. -/
def EditBears (cart : Cart) (wanted : CartEdit) (tables : PriceTables) : Prop :=
  freshLine cart wanted ∧ ∀ edited ∈ (wanted.apply tables.now cart).toOption,
    if wanted.reprices edited then PromosBear tables edited ∧ AmountsFit tables edited else couponCents cart = 0

/-- What a manual discount has to meet: the basket, less all manual discounts noted
with this one, still covers the coupons. -/
def DiscountBears (cart : Cart) (p : ApplyManualDiscountPayload) (tables : PriceTables) : Prop :=
  AmountsFit tables cart ∧ ∀ amountCents ∈ (manualDiscountAmount p cart).toOption, couponCents cart = 0 ∨
    couponCents cart + (cart.manualDiscounts.map ManualDiscountInfo.amountCents).sum + amountCents ≤ netCents cart.lines

def Payable (cart : Cart) (wanted : CartChange) : Prop :=
  match wanted with
  | .edit wanted tables => EditBears cart wanted tables
  | .applyManualDiscount p tables => DiscountBears cart p tables
  | _ => True

instance (cart : Cart) (wanted : CartEdit) (tables : PriceTables) : Decidable (EditBears cart wanted tables) :=
  inferInstanceAs (Decidable (_ ∧ _))

instance (cart : Cart) (p : ApplyManualDiscountPayload) (tables : PriceTables) :
    Decidable (DiscountBears cart p tables) := inferInstanceAs (Decidable (_ ∧ _))

instance (cart : Cart) (wanted : CartChange) : Decidable (Payable cart wanted) := by
  induction wanted using CartChange.casesOn <;> dsimp only [Payable] <;> infer_instance

section Lines
variable {lines others : List CartLineItem} {tables : PriceTables}

theorem le_of_amounts {line : CartLineItem} {extra : CartLineItem → Nat} (member : line ∈ lines)
    (fits : (lines.map fun line => line.lineTotalCents + extra line).sum ≤ u64Max) :
    line.lineTotalCents + extra line ≤ u64Max :=
  (List.single_le_sum (fun _ _ => Nat.zero_le _) _ (List.mem_map_of_mem member)).trans fits

/-- A discount that is at most the net price keeps a line within its total. -/
theorem addDiscount_covered {line : CartLineItem} (cents : Nat)
    (covered : line.discountCents ≤ line.lineTotalCents) :
    (addDiscount cents line).discountCents ≤ (addDiscount cents line).lineTotalCents := by
  have bound : saturatingAdd line.discountCents (min cents (lineNet line)) ≤
      line.discountCents + min cents (lineNet line) := Nat.min_le_left _ _
  have net : min cents (lineNet line) ≤ line.lineTotalCents - line.discountCents := Nat.min_le_right _ _
  show saturatingAdd line.discountCents (min cents (lineNet line)) ≤ line.lineTotalCents
  omega

theorem addDiscount_net (cents : Nat) (line : CartLineItem) :
    lineNet line ≤ lineNet (addDiscount cents line) + min cents (lineNet line) := by
  have bound : saturatingAdd line.discountCents (min cents (lineNet line)) ≤
      line.discountCents + min cents (lineNet line) := Nat.min_le_left _ _
  have net : lineNet (addDiscount cents line) =
      line.lineTotalCents - saturatingAdd line.discountCents (min cents (lineNet line)) := rfl
  have old : lineNet line = line.lineTotalCents - line.discountCents := rfl
  omega

theorem discountLine_net (lineId : Uuid) (cents : Nat) (lines : List CartLineItem) :
    netCents lines ≤ netCents (discountLine lineId cents lines) + cents := by
  induction lines with
  | nil => exact Nat.zero_le _
  | cons first lines ih =>
    have here := addDiscount_net cents first
    simp only [discountLine, netCents, List.map_cons, List.sum_cons] at ih ⊢
    split
    · simp only [List.map_cons, List.sum_cons]
      omega
    · simp only [List.map_cons, List.sum_cons]
      omega

/-- Spreading takes no more off the basket than it has to give out. -/
theorem spreadDiscount_net (cents totalNet remaining : Nat) (lines : List CartLineItem) :
    netCents lines ≤ netCents (spreadDiscount cents totalNet remaining lines) + remaining := by
  induction lines generalizing remaining with
  | nil => exact Nat.zero_le _
  | cons first lines ih =>
    simp only [spreadDiscount, netCents, List.map_cons, List.sum_cons] at ih ⊢
    generalize shared : (if lines.isEmpty then remaining
      else min (wrap64 (cents * lineNet first) / totalNet) remaining) = share
    have given : share ≤ remaining := by
      rw [← shared]
      split
      · exact Nat.le_refl _
      · exact Nat.min_le_right _ _
    have here := addDiscount_net share first
    have rest := ih (remaining - min share (lineNet first))
    omega

theorem applyManualDiscounts_net (discounts : List ManualDiscountInfo) (lines : List CartLineItem) :
    netCents lines ≤ netCents (discounts.foldl applyManualDiscount lines) +
      (discounts.map ManualDiscountInfo.amountCents).sum := by
  induction discounts generalizing lines with
  | nil => exact Nat.le_add_right _ _
  | cons discount discounts ih =>
    have here : netCents lines ≤ netCents (applyManualDiscount lines discount) + discount.amountCents := by
      unfold applyManualDiscount
      split
      · exact Nat.le_add_right _ _
      · split
        · exact discountLine_net _ _ _
        · split
          · exact Nat.le_add_right _ _
          · exact spreadDiscount_net _ _ _ _
    have rest := ih (applyManualDiscount lines discount)
    simp only [List.foldl_cons, List.map_cons, List.sum_cons]
    omega

theorem taxLine_ceiling (tables : PriceTables) (line : CartLineItem) :
    exclusiveTax (taxLine tables line) ≤ taxCeiling tables line := by
  unfold exclusiveTax taxLine taxForLine taxCeiling
  dsimp only
  split
  next rule found =>
    simp only [found]
    by_cases inclusive : rule.inclusive
    · simp [inclusive]
    · simp only [inclusive, applyTax, Bool.false_eq_true, if_false]
      exact Nat.div_le_div_right ((wrap64_le _).trans (Nat.mul_le_mul_right _ (Nat.sub_le _ _)))
  next missing => simp [missing]

/-- Lines taxed by the tables stay below the ceiling of the bare lines they come from. -/
theorem taxed_fits (same : lines.map bare = others.map bare)
    (amounts : (others.map fun line => line.lineTotalCents + taxCeiling tables line).sum ≤ u64Max) :
    ((lines.map (taxLine tables)).map fun line => line.lineTotalCents + exclusiveTax line).sum ≤ u64Max := by
  have ceiling : (lines.map fun line => line.lineTotalCents + taxCeiling tables line) =
      others.map fun line => line.lineTotalCents + taxCeiling tables line :=
    map_of_bare _ (fun _ => rfl) same
  refine le_trans ?_ (ceiling ▸ amounts)
  rw [List.map_map]
  exact List.sum_le_sum fun line _ => Nat.add_le_add_left (taxLine_ceiling tables line) _

end Lines

section Repriced
variable {tables : PriceTables} {cart : Cart}

/-- The lines after promotions and manual discounts, before the last tax. -/
theorem manual_lines (cart : Cart) (tables : PriceTables) (taxed : ∃ lines : List CartLineItem, cart.lines = lines.map (taxLine tables)) :
    ∃ lines : List CartLineItem, (applyManualDiscountsToLines tables cart).lines = lines.map (taxLine tables) := by
  unfold applyManualDiscountsToLines
  split
  · exact taxed
  · exact ⟨_, rfl⟩

theorem manual_covered (covered : ∀ line ∈ cart.lines, line.discountCents ≤ line.lineTotalCents) :
    ∀ line ∈ (applyManualDiscountsToLines tables cart).lines, line.discountCents ≤ line.lineTotalCents :=
  forall_applyManual (fun _ _ here => addDiscount_covered _ here) (fun _ here => here) covered

theorem promoPriced_covered (distinct : (cart.lines.map CartLineItem.lineId).Nodup) (bears : PromosBear tables cart)
    (fits : AmountsFit tables cart) :
    ∀ line ∈ (promoPriced tables cart).lines, line.discountCents ≤ line.lineTotalCents := by
  have priced : ∀ line ∈ cart.lines, line.lineTotalCents ≤ u64Max := fun line member =>
    (Nat.le_add_right _ _).trans (le_of_amounts member fits)
  have conserved := conserved_promos distinct priced bears
  rw [promoPriced_lines distinct]
  intro line member
  obtain ⟨old, present, rfl⟩ := List.mem_map.mp member
  exact (Nat.le_add_right _ _).trans (conserved old present)

/-- Pricing a cart from its lines makes its money fit. -/
theorem fits_repriced (distinct : (cart.lines.map CartLineItem.lineId).Nodup) (bears : PromosBear tables cart)
    (fits : AmountsFit tables cart) : MoneyFits (repriced tables cart) := by
  have bareLines := @repriced_bare tables cart distinct
  have ids : (repriced tables cart).lines.map CartLineItem.lineId = cart.lines.map CartLineItem.lineId :=
    map_of_bare _ (fun _ => rfl) bareLines
  refine { distinct := ids ▸ distinct, covered := ?_, coupons := ?_, fits := ?_ }
  · rw [repriced_lines]
    exact manual_covered (promoPriced_covered distinct bears fits)
  · have coupons := priceCoupons_le tables (basketNet (applyManualDiscountsToLines tables (promoPriced tables cart)).lines)
      (applyManualDiscountsToLines tables (promoPriced tables cart)).appliedCoupons
    have same : couponCents (repriced tables cart) = couponCents (fullyPriced tables cart) := by
      unfold repriced
      split <;> rfl
    rw [same, repriced_lines]
    exact coupons.trans (wrap64_le _)
  · have promoTaxed : ∃ lines : List CartLineItem, (promoPriced tables cart).lines = lines.map (taxLine tables) := by
      refine ⟨cart.lines.map fun line =>
        { line with discountCents := (promoOutcome tables cart).1.discounts line.lineId }, ?_⟩
      rw [promoPriced_lines distinct, List.map_map]
      rfl
    obtain ⟨lines, taxed⟩ := manual_lines (promoPriced tables cart) tables promoTaxed
    rw [repriced_lines, taxed]
    rw [repriced_lines, taxed, List.map_map] at bareLines
    exact taxed_fits bareLines fits

end Repriced

section Changes
variable {cart changed : Cart}

theorem fits_edit {wanted : CartEdit} {tables : PriceTables} (fits : MoneyFits cart)
    (bears : EditBears cart wanted tables) (done : editCart wanted tables cart = .ok changed) : MoneyFits changed := by
  obtain ⟨edited, _, did, rfl⟩ := editCart_ok done
  have borne := bears.2 edited (by simp [did, Except.toOption])
  split
  next reprices =>
    rw [if_pos reprices] at borne
    exact fits_repriced (distinct_edit fits.distinct bears.1 did) borne.1 borne.2
  next skips =>
    rw [if_neg skips] at borne
    cases wanted with
    | removeLineItem lineId =>
      obtain ⟨position, rfl⟩ := removeLine_ok did
      have empty : cart.lines.eraseIdx position = [] := by
        apply List.isEmpty_iff.mp
        simpa only [CartEdit.reprices, Bool.not_eq_true, Bool.not_eq_false'] using skips
      have free : couponCents { cart with
        lines := cart.lines.eraseIdx position, updatedAt := tables.now
        state := Cart.stateOfLines (cart.lines.eraseIdx position) } = 0 := borne
      constructor
      · simp [empty]
      · simp [empty]
      · exact free ▸ Nat.zero_le _
      · simp [empty]
    | addLineItem | updateLineItem | applyCoupon | removeCoupon | applyPromo | removePromo => exact absurd rfl skips

/-- Discounts on top of discounted lines still leave enough for the coupons. -/
theorem fits_discount {p : ApplyManualDiscountPayload} {tables : PriceTables} (fits : MoneyFits cart)
    (bears : DiscountBears cart p tables) (done : discountCart p tables cart = .ok changed) : MoneyFits changed := by
  obtain ⟨noted, added, rfl⟩ := discountCart_ok done
  obtain ⟨amountCents, _, amount, _, rfl⟩ := addManualDiscount_ok added
  have borne := bears.2 amountCents (by simp [amount, Except.toOption])
  generalize reason : ({ reason := Hub.trim p.reason, amountCents := amountCents
                         lineId := if p.kind.isItem then p.lineId else none } : ManualDiscountInfo) = discount
  have cents : discount.amountCents = amountCents := by rw [← reason]
  have lines : (applyManualDiscountsToLines tables
      { cart with manualDiscounts := cart.manualDiscounts ++ [discount] }).lines =
        ((cart.manualDiscounts ++ [discount]).foldl applyManualDiscount cart.lines).map (taxLine tables) := by
    unfold applyManualDiscountsToLines
    rw [if_neg (by simp)]
  have bareLines : ((cart.manualDiscounts ++ [discount]).foldl applyManualDiscount cart.lines).map bare =
      cart.lines.map bare := applyManualDiscounts_bare _
  have left := applyManualDiscounts_net (cart.manualDiscounts ++ [discount]) cart.lines
  have coupons : couponCents ((applyManualDiscountsToLines tables
      { cart with manualDiscounts := cart.manualDiscounts ++ [discount] }).setDiscounted tables.now) =
        couponCents cart := by
    rw [applyManual_frame]
    rfl
  refine { distinct := ?_, covered := ?_, coupons := ?_, fits := ?_ }
  · show ((applyManualDiscountsToLines tables _).lines.map CartLineItem.lineId).Nodup
    rw [map_of_bare CartLineItem.lineId (fun _ => rfl) applyManual_bare]
    exact fits.distinct
  · exact manual_covered fits.covered
  · have net : netCents ((applyManualDiscountsToLines tables
        { cart with manualDiscounts := cart.manualDiscounts ++ [discount] }).setDiscounted tables.now).lines =
          netCents ((cart.manualDiscounts ++ [discount]).foldl applyManualDiscount cart.lines) := by
      show netCents (applyManualDiscountsToLines tables _).lines = _
      rw [lines, netCents, List.map_map]
      rfl
    rw [coupons, net]
    simp only [List.map_append, List.map_cons, List.map_nil, List.sum_append, List.sum_cons, List.sum_nil] at left
    rcases borne with free | borne <;> omega
  · show ((applyManualDiscountsToLines tables _).lines.map _).sum ≤ u64Max
    rw [lines]
    exact taxed_fits bareLines bears.1

/-- A change that leaves lines and coupons alone leaves the money alone. -/
theorem fits_same (fits : MoneyFits cart) (lines : changed.lines = cart.lines)
    (coupons : changed.appliedCoupons = cart.appliedCoupons) : MoneyFits changed := by
  refine { distinct := ?_, covered := ?_, coupons := ?_, fits := ?_ }
  · exact lines ▸ fits.distinct
  · exact lines ▸ fits.covered
  · rw [couponCents, coupons, lines]
    exact fits.coupons
  · exact lines ▸ fits.fits

theorem fits_empty (lines : changed.lines = []) (coupons : changed.appliedCoupons = []) : MoneyFits changed := by
  constructor <;> simp [lines, coupons, couponCents]

end Changes

theorem fits_change (cart : Cart) (wanted : CartChange) (changed : Cart) (fits : MoneyFits cart)
    (payable : Payable cart wanted) (did : wanted.apply cart = .ok changed) : MoneyFits changed := by
  cases wanted with
  | setCustomer customerId now =>
    cases did
    exact fits_same fits rfl rfl
  | edit wanted tables => exact fits_edit fits payable did
  | applyManualDiscount p tables => exact fits_discount fits payable did
  | setTendering now =>
    simp only [CartChange.apply, startTendering] at did
    split at did <;> cases did
    exact fits_same fits rfl rfl
  | addPayment input now =>
    simp only [CartChange.apply, Cart.addPayment] at did
    split at did <;> cases did
    next added =>
      split at added <;> cases added
      split <;> exact fits_same fits rfl rfl
  | voidCart now =>
    simp only [CartChange.apply] at did
    split at did <;> cases did
    exact fits_empty rfl rfl
  | finalizeOrder orderId now =>
    simp only [CartChange.apply] at did
    split at did <;> cases did
    exact fits_same fits rfl rfl

/-- The discounts stay within the prices, and the total is what prices, discounts and
added taxes make it, with nothing clamped. -/
structure MoneyIdentity (cart : Cart) : Prop where
  discount : cart.discountCents ≤ cart.subtotalCents
  lines : ∀ line ∈ cart.lines, line.discountCents ≤ line.lineTotalCents
  total : cart.totalCents = cart.subtotalCents - cart.discountCents + (cart.lines.map exclusiveTax).sum
  unclamped : couponCents cart ≤ (cart.lines.map CartLineItem.grossCents).sum

section Identity
variable {lines : List CartLineItem}

theorem net_and_discounts (covered : ∀ line ∈ lines, line.discountCents ≤ line.lineTotalCents) :
    netCents lines + (lines.map CartLineItem.discountCents).sum = (lines.map CartLineItem.lineTotalCents).sum := by
  induction lines with
  | nil => rfl
  | cons line lines ih =>
    obtain ⟨here, later⟩ := List.forall_mem_cons.mp covered
    have rest := ih later
    simp only [netCents, List.map_cons, List.sum_cons, lineNet] at rest ⊢
    omega

/-- The gross price of a line that fits: its net price and the tax on top. -/
theorem gross_of_fits {line : CartLineItem} (fits : line.lineTotalCents + exclusiveTax line ≤ u64Max) :
    line.grossCents = lineNet line + exclusiveTax line := by
  unfold CartLineItem.grossCents exclusiveTax lineNet saturatingAdd
  unfold exclusiveTax at fits
  by_cases inclusive : line.taxInclusive
  · simp [inclusive]
  · simp only [inclusive, Bool.false_eq_true, if_false] at fits ⊢
    omega

theorem gross_sum (fits : (lines.map fun line => line.lineTotalCents + exclusiveTax line).sum ≤ u64Max) :
    (lines.map CartLineItem.grossCents).sum = netCents lines + (lines.map exclusiveTax).sum := by
  rw [netCents, ← List.sum_map_add]
  congr 1
  exact List.map_congr_left fun line member => gross_of_fits (le_of_amounts member fits)

theorem MoneyFits.identity {cart : Cart} (fits : MoneyFits cart) : MoneyIdentity cart := by
  have net := net_and_discounts fits.covered
  have gross := gross_sum fits.fits
  have coupons := fits.coupons
  have discount : cart.discountCents = (cart.lines.map CartLineItem.discountCents).sum + couponCents cart := rfl
  have subtotal : cart.subtotalCents = (cart.lines.map CartLineItem.lineTotalCents).sum := rfl
  have total : cart.totalCents = (cart.lines.map CartLineItem.grossCents).sum - couponCents cart := rfl
  refine { discount := ?_, lines := fits.covered, total := ?_, unclamped := ?_ } <;> omega

end Identity

/-- In every run whose changes are payable, the money of every cart adds up. -/
theorem money_adds_up {commands : List CartCommand}
    (payable : Sequence.Meets applyCommand (OnChanges Payable) CartTables.empty commands) :
    ∀ id cart, Carts.load id (runCommands commands).carts = some cart → MoneyIdentity cart := by
  intro id cart loaded
  have every := everyCart_run (fun _ _ _ _ => fits_empty rfl rfl) fits_change payable
  exact (every.stored id cart loaded).2.identity

section Runs
open CartStates

/-- Ten dollars off with a code, by coupon. -/
def tenCoupon : CouponDefinition :=
  { id := .random 50, code := "TEN", promoId := .random 40, maxRedemptionsTotal := none
    maxRedemptionsPerCustomer := none, validFrom := 0, validUntil := none }

def useCoupon : CartEdit := .applyCoupon "TEN" tenCoupon [tenOff]

/-- A fifteen-dollar line, five dollars off, the coupon, and payment. -/
def couponSale : List CartCommand :=
  [openCart, edit (offering [tenOff]) (.addLineItem (line 7 1500 1)),
    takeOff .fixedItem 500 (some (.random 7)) (offering [tenOff]), edit (offering [tenOff]) useCoupon, tender]

theorem coupon_covers_discounted_line :
    ∃ cart, Carts.load (.random 1) (runCommands couponSale).carts = some cart ∧ MoneyIdentity cart := by
  obtain ⟨cart, loaded⟩ : ∃ cart, Carts.load (.random 1) (runCommands couponSale).carts = some cart :=
    Option.isSome_iff_exists.mp (by decide +kernel)
  exact ⟨cart, loaded, money_adds_up (by decide +kernel) _ cart loaded⟩

/-- Five dollars off a ten-dollar line that a coupon already pays for. -/
def discountAfterCoupon : List CartCommand :=
  [openCart, edit (offering [tenOff]) (.addLineItem (line 7 1000 1)), edit (offering [tenOff]) useCoupon,
    takeOff .fixedItem 500 (some (.random 7)) (offering [tenOff])]

/-- The only line goes, the coupon stays. -/
def emptiedWithCoupon : List CartCommand :=
  [openCart, edit (offering [tenOff]) (.addLineItem (line 7 1000 1)), edit (offering [tenOff]) useCoupon,
    edit (offering [tenOff]) (.removeLineItem (.random 7))]

/-- 99% off everything, on three lines of one cent. -/
def pennyLines : List CartCommand :=
  let sale := offering [{ tenOff with code := none, promoType := .percentageOff 9900 }]
  [openCart, edit sale (.addLineItem (line 7 1 1)), edit sale (.addLineItem (line 8 1 1)),
    edit sale (.addLineItem (line 9 1 1))]

/-- A coupon is kept on a basket that has shrunk, and the last line of a promotion takes
more than it costs. -/
theorem discounts_outgrow_prices :
    (¬∀ id cart, Carts.load id (runCommands discountAfterCoupon).carts = some cart → MoneyIdentity cart) ∧
      (¬∀ id cart, Carts.load id (runCommands emptiedWithCoupon).carts = some cart → MoneyIdentity cart) ∧
      ¬∀ id cart, Carts.load id (runCommands pennyLines).carts = some cart → MoneyIdentity cart := by
  refine ⟨?_, ?_, ?_⟩ <;> intro all
  · have exceeds : ∃ cart ∈ Carts.load (.random 1) (runCommands discountAfterCoupon).carts,
        cart.subtotalCents < cart.discountCents := by decide +kernel
    obtain ⟨cart, loaded, exceeds⟩ := exceeds
    exact absurd (all _ cart loaded).discount (Nat.not_le.mpr exceeds)
  · have exceeds : ∃ cart ∈ Carts.load (.random 1) (runCommands emptiedWithCoupon).carts,
        cart.subtotalCents < cart.discountCents := by decide +kernel
    obtain ⟨cart, loaded, exceeds⟩ := exceeds
    exact absurd (all _ cart loaded).discount (Nat.not_le.mpr exceeds)
  · have exceeds : ∃ cart ∈ Carts.load (.random 1) (runCommands pennyLines).carts,
        ∃ line ∈ cart.lines, line.lineTotalCents < line.discountCents := by decide +kernel
    obtain ⟨cart, loaded, line, member, exceeds⟩ := exceeds
    exact absurd ((all _ cart loaded).lines line member) (Nat.not_le.mpr exceeds)

end Runs
end ApexEdge.Proofs.CartMoney
