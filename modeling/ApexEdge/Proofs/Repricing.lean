import ApexEdge.Proofs.DiscountShortcut
import ApexEdge.Proofs.PromoRequests
import ApexEdge.Proofs.PromoShares

/-! Pricing a priced cart changes nothing. Discounts and taxes are computed anew from the
prices, and the requests that a pricing forgets are those that had no part in it. -/

namespace ApexEdge.Proofs.Repricing
open Library Payment Domain Pos Promotions
open CartPricing PromoRequests PromoShares DiscountShortcut

section Idle
variable {lines : List CartLineItem} {categoryByItem : Uuid → Uuid} {subtotalCents : Nat} {now : Timestamp}
  {progress : LineAmounts × List Uuid} {promo : Promotion} {promos : List Promotion}

theorem discount_nothing {amounts : LineAmounts} (fits : ∀ id, amounts.discounts id ≤ u64Max) (lineId : Uuid) :
    amounts.discount lineId 0 = amounts := by
  have discounts : (amounts.discount lineId 0).discounts = amounts.discounts := by
    funext id
    simp only [LineAmounts.discount, Nat.add_zero, wrap64_of_fits (fits id), ite_self]
  have totals : (amounts.discount lineId 0).totals = amounts.totals := by
    funext id
    simp only [LineAmounts.discount, Nat.sub_zero, ite_self]
  cases amounts
  exact congr (congrArg LineAmounts.mk discounts) totals

/-- Nothing is allocated of nothing. -/
theorem allocate_nothing {eligibleTotal : Nat} {capped : List (CartLineItem × Nat)} {amounts : LineAmounts}
    (fits : ∀ id, amounts.discounts id ≤ u64Max) : allocate 0 eligibleTotal 0 capped amounts = amounts := by
  induction capped with
  | nil => rfl
  | cons first rest ih =>
    obtain ⟨share, given, step⟩ := @allocate_cons 0 eligibleTotal 0 amounts first rest
    have none : share = 0 := Nat.le_zero.mp (share_le (given ▸ List.mem_cons_self))
    rw [step, none, discount_nothing fits]
    exact ih

/-- A promotion that is not noted has done nothing. -/
theorem applyPromo_idle (fits : ∀ id, progress.1.discounts id ≤ u64Max)
    (absent : promo.id ∉ (applyPromo lines categoryByItem subtotalCents now progress promo).2) :
    applyPromo lines categoryByItem subtotalCents now progress promo = progress := by
  cases applied : applies lines categoryByItem subtotalCents now promo with
  | false => exact applyPromo_passed applied
  | true =>
    rw [applyPromo_applied applied] at absent ⊢
    have nothing : discountOf lines categoryByItem progress.1.totals promo = 0 := by
      by_contra some
      exact absent (by simp [Nat.pos_of_ne_zero some])
    rw [nothing, allocate_nothing fits, if_neg (Nat.lt_irrefl 0), ite_self]

/-- Leaving out promotions that are not noted in the end leaves the outcome. -/
theorem foldl_noted {keep : Promotion → Bool} (fits : ∀ id, progress.1.discounts id ≤ u64Max)
    (noted : ∀ promo ∈ promos, keep promo = false →
      promo.id ∉ (promos.foldl (applyPromo lines categoryByItem subtotalCents now) progress).2) :
    (promos.filter keep).foldl (applyPromo lines categoryByItem subtotalCents now) progress =
      promos.foldl (applyPromo lines categoryByItem subtotalCents now) progress := by
  induction promos generalizing progress with
  | nil => rfl
  | cons promo promos ih =>
    obtain ⟨here, later⟩ := List.forall_mem_cons.mp noted
    have fitting := applyPromo_fits lines categoryByItem subtotalCents now progress promo fits
    cases kept : keep promo with
    | true =>
      rw [List.filter_cons_of_pos kept]
      exact ih fitting later
    | false =>
      have idle := @applyPromo_idle _ categoryByItem subtotalCents now _ promo fits fun listed => by
        refine here kept ?_
        rw [List.foldl_cons]
        exact granted_kept listed
      rw [List.filter_cons_of_neg (by simp [kept])]
      rw [List.foldl_cons, idle] at later ⊢
      exact ih fits later

end Idle

section Outcome
variable {tables : PriceTables} {cart : Cart}

/-- The promotions that are considered again: automatic ones and those noted. -/
def stays (tables : PriceTables) (granted : List Uuid) (promo : Promotion) : Bool :=
  promo.id ∈ granted ∨ promo.id ∈ (tables.promos.filter (·.code.isNone)).map Promotion.id

theorem considered_again {granted : List Uuid} (requested : List Uuid)
    (considered : ∀ id ∈ granted, id ∈ (promosToApply tables.promos requested).map Promotion.id) :
    promosToApply tables.promos granted = (promosToApply tables.promos requested).filter (stays tables granted) := by
  unfold promosToApply
  dsimp only
  rw [List.filter_append]
  congr 1
  · refine (List.filter_eq_self.mpr fun promo member => ?_).symm
    exact decide_eq_true (Or.inr (List.mem_map_of_mem member))
  · rw [List.filter_filter]
    refine List.filter_congr fun promo member => ?_
    simp only [stays, Bool.decide_and, Bool.decide_or]
    by_cases automatic : promo.id ∈ (tables.promos.filter (·.code.isNone)).map Promotion.id
    · simp [automatic]
    · by_cases again : promo.id ∈ granted
      · have asked : promo.id ∈ requested := by
          obtain ⟨other, listed, same⟩ := List.mem_map.mp (considered promo.id again)
          rcases List.mem_append.mp listed with free | wanted
          · exact absurd (same ▸ List.mem_map_of_mem free) automatic
          · have held := of_decide_eq_true (List.mem_filter.mp wanted).2
            exact same ▸ held.1
        simp [automatic, again, asked]
      · simp [automatic, again]

/-- The promotions that one pricing notes bring about what all that were requested did. -/
theorem promoOutcome_again (tables : PriceTables) (cart : Cart) :
    promoOutcome tables { cart with appliedPromoIds := (promoOutcome tables cart).2 } = promoOutcome tables cart := by
  have considered : ∀ id ∈ (promoOutcome tables cart).2,
      id ∈ (promosToApply tables.promos cart.appliedPromoIds).map Promotion.id := by
    intro id granted
    rcases granted_subset granted with none | listed
    · cases none
    · obtain ⟨promo, member, same⟩ := List.mem_map.mp listed
      exact same ▸ List.mem_map_of_mem ((List.mem_insertionSort _).mp member)
  have total : Std.Total fun first second : Promotion => second.priority ≤ first.priority :=
    ⟨fun first second => Nat.le_total _ _⟩
  have transitive : IsTrans Promotion fun first second => second.priority ≤ first.priority :=
    ⟨fun _ _ _ below above => Nat.le_trans above below⟩
  have sorted : byPriority (promosToApply tables.promos (promoOutcome tables cart).2) =
      (byPriority (promosToApply tables.promos cart.appliedPromoIds)).filter
        (stays tables (promoOutcome tables cart).2) := by
    rw [considered_again cart.appliedPromoIds considered]
    exact (Table.insertionSort_filter _ _ _).symm
  show (byPriority (promosToApply tables.promos (promoOutcome tables cart).2)).foldl
    (applyPromo cart.lines tables.categoryByItem cart.subtotalCents tables.now)
    (LineAmounts.ofLines cart.lines, []) = _
  rw [sorted]
  refine foldl_noted (fun _ => Nat.zero_le _) fun promo _ gone listed => ?_
  exact of_decide_eq_false gone (Or.inl listed)

theorem repriced_granted (tables : PriceTables) (cart : Cart) :
    (repriced tables cart).appliedPromoIds = (promoOutcome tables cart).2 ∧
      (repriced tables cart).manualDiscounts = cart.manualDiscounts ∧
      (repriced tables cart).appliedCoupons =
        priceCoupons tables (basketNet (repriced tables cart).lines) cart.appliedCoupons := by
  rw [repriced_lines]
  unfold repriced fullyPriced applyCouponDiscounts
  rw [applyManual_frame]
  split <;> exact ⟨rfl, rfl, rfl⟩

/-- A priced cart has the outcome it was priced with. -/
theorem promoOutcome_repriced (distinct : (cart.lines.map CartLineItem.lineId).Nodup) :
    promoOutcome tables (repriced tables cart) = promoOutcome tables cart := by
  have bared := @repriced_bare tables cart distinct
  have granted := (repriced_granted tables cart).1
  rw [← promoOutcome_bare, ← promoOutcome_again tables cart,
    ← promoOutcome_bare tables { cart with appliedPromoIds := (promoOutcome tables cart).2 }]
  unfold promoOutcome Cart.subtotalCents
  simp only [bared]
  rw [granted]
  rfl

/-- What all pricing makes of a cart, spelled out. -/
theorem fullyPriced_eq (tables : PriceTables) (cart : Cart) :
    fullyPriced tables cart =
      { cart with
        lines := (repriced tables cart).lines
        appliedPromoIds := (promoOutcome tables cart).2
        appliedCoupons := priceCoupons tables (basketNet (repriced tables cart).lines) cart.appliedCoupons
        state := Cart.stateOfLines (promoPriced tables cart).lines
        updatedAt := tables.now } := by
  rw [repriced_lines]
  unfold fullyPriced applyCouponDiscounts
  rw [applyManual_frame]
  rfl

theorem priceCoupon_again (tables : PriceTables) (net : Nat) (coupon : AppliedCouponRecord) :
    priceCoupon tables net (priceCoupon tables net coupon) = priceCoupon tables net coupon := by
  unfold priceCoupon
  cases found : tables.promos.find? fun promo => promo.code.any (eqIgnoreAsciiCase · coupon.code) with
  | none => simp only [found]
  | some promo =>
    dsimp only
    by_cases opens : isOpen tables.now promo = true
    · simp only [if_pos opens, found]
    · simp only [if_neg opens, found]

theorem priceCoupons_again (tables : PriceTables) (net : Nat) (coupons : List AppliedCouponRecord) :
    priceCoupons tables net (priceCoupons tables net coupons) = priceCoupons tables net coupons := by
  induction coupons generalizing net with
  | nil => rfl
  | cons coupon coupons ih => rw [priceCoupons, priceCoupons, priceCoupon_again, ih]

end Outcome

section Again
variable {tables : PriceTables} {cart : Cart}

theorem promoPriced_again (distinct : (cart.lines.map CartLineItem.lineId).Nodup) :
    (promoPriced tables (repriced tables cart)).lines = (promoPriced tables cart).lines := by
  have bared := @repriced_bare tables cart distinct
  have ids : (repriced tables cart).lines.map CartLineItem.lineId = cart.lines.map CartLineItem.lineId :=
    map_of_bare _ (fun _ => rfl) bared
  rw [promoPriced_bare (ids ▸ distinct), promoPriced_bare distinct, promoOutcome_bare, promoOutcome_bare,
    promoOutcome_repriced distinct, bared]

theorem repriced_lines_again (distinct : (cart.lines.map CartLineItem.lineId).Nodup) :
    (repriced tables (repriced tables cart)).lines = (repriced tables cart).lines := by
  rw [repriced_lines, repriced_lines]
  exact applyManual_lines (promoPriced_again distinct) (repriced_granted tables cart).2.1

theorem fullyPriced_again (distinct : (cart.lines.map CartLineItem.lineId).Nodup) :
    fullyPriced tables (repriced tables cart) = fullyPriced tables cart := by
  have coupons : priceCoupons tables (basketNet (repriced tables cart).lines) (repriced tables cart).appliedCoupons =
      priceCoupons tables (basketNet (repriced tables cart).lines) cart.appliedCoupons := by
    rw [(repriced_granted tables cart).2.2, priceCoupons_again]
  have frame := @repriced_frame tables cart
  rw [fullyPriced_eq, repriced_lines_again distinct, promoOutcome_repriced distinct, promoPriced_again distinct, coupons,
    fullyPriced_eq tables cart]
  obtain ⟨lines, coupons, granted, state, updatedAt, same⟩ := frame
  rw [same]

theorem repriced_again (distinct : (cart.lines.map CartLineItem.lineId).Nodup) :
    repriced tables (repriced tables cart) = repriced tables cart := by
  have ids : (repriced tables cart).lines.map CartLineItem.lineId = cart.lines.map CartLineItem.lineId :=
    map_of_bare _ (fun _ => rfl) (repriced_bare distinct)
  have discounted : Discounted tables (repriced tables cart) ↔ Discounted tables cart := by
    have any (lines : List CartLineItem) (discounts : Uuid → Nat) :
        lines.any (fun line => 0 < discounts line.lineId) = (lines.map CartLineItem.lineId).any (0 < discounts ·) := by
      rw [List.any_map]
      rfl
    unfold Discounted
    rw [promoOutcome_repriced distinct, fullyPriced_again distinct, any, ids, ← any]
  rw [repriced, fullyPriced_again distinct]
  conv => rhs; rw [repriced]
  by_cases given : Discounted tables cart
  · rw [if_pos given, if_pos (discounted.mpr given)]
  · rw [if_neg given, if_neg (discounted.not.mpr given)]

/-- Running the pipeline on what it has priced gives the same cart. -/
theorem pricing_is_idempotent (tables : PriceTables) {cart : Cart}
    (distinct : (cart.lines.map CartLineItem.lineId).Nodup) :
    ∃ once, runPricingPipeline tables cart = .ok once ∧ runPricingPipeline tables once = .ok once := by
  refine ⟨repriced tables cart, runPricingPipeline_eq tables cart, ?_⟩
  rw [runPricingPipeline_eq, repriced_again distinct]

/-- A line under a promotion of 10% and with a dollar off. -/
def discountedCart : Cart :=
  { Cart.new 1 2 3 0 with lines := [lineOf 1 1 1000], manualDiscounts := [⟨"damaged", 100, none⟩] }

theorem priced_cart_stays : ∃ once,
    runPricingPipeline ⟨[], [offer (.percentageOff 1000)], [], 1⟩ discountedCart = .ok once ∧
      runPricingPipeline ⟨[], [offer (.percentageOff 1000)], [], 1⟩ once = .ok once :=
  pricing_is_idempotent _ (by decide)

end Again
end ApexEdge.Proofs.Repricing
