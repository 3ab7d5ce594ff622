import ApexEdge.Proofs.CartStates

/-! The manual-discount shortcut against pricing the whole cart again. The shortcut
takes every noted discount off the lines as they are, so the two agree where pricing
is up to date, earlier discounts have nothing left to take, and no coupon counts. -/

namespace ApexEdge.Proofs.DiscountShortcut
open Library Payment Domain Storage Contracts Pos
open Promotions CartPricing CartStore

/-- What a cart shows of its prices. -/
structure Prices where
  lines : List CartLineItem
  coupons : List AppliedCouponRecord
  state : CartStateKind
  subtotalCents : Nat
  discountCents : Nat
  taxCents : Nat
  totalCents : Nat
  deriving DecidableEq

def Prices.ofCart (cart : Cart) : Prices :=
  { lines := cart.lines, coupons := cart.appliedCoupons, state := cart.state
    subtotalCents := cart.subtotalCents, discountCents := cart.discountCents
    taxCents := cart.taxCents, totalCents := cart.totalCents }

/-- The stored cart has the prices of the repriced one. -/
def Agrees (cart : Cart) (p : ApplyManualDiscountPayload) (tables : PriceTables) : Prop :=
  ∀ stored ∈ (discountCart p tables cart).toOption, ∀ noted ∈ (addManualDiscount p cart).toOption,
    ∃ priced ∈ (runPricingPipeline tables noted).toOption, Prices.ofCart stored = Prices.ofCart priced

/-- An earlier discount with nothing left to take: its line is gone or free already. -/
def Spent (cart : Cart) (discount : ManualDiscountInfo) : Prop :=
  discount.amountCents = 0 ∨
    match discount.lineId with
    | some lineId => ∀ line ∈ cart.lines.find? (·.lineId = lineId), lineNet line = 0
    | none => basketNet cart.lines = 0

/-- A coupon that counts for nothing, before and after. -/
def Worthless (tables : PriceTables) (coupon : AppliedCouponRecord) : Prop :=
  coupon.discountCents = 0 ∧
    ∀ promo ∈ tables.promos.find? fun promo => promo.code.any (eqIgnoreAsciiCase · coupon.code),
      isOpen tables.now promo = false

structure UpToDate (cart : Cart) (tables : PriceTables) : Prop where
  priced : (repriced tables cart).lines = cart.lines
  spent : ∀ discount ∈ cart.manualDiscounts, Spent cart discount
  coupons : ∀ coupon ∈ cart.appliedCoupons, Worthless tables coupon

instance (cart : Cart) (discount : ManualDiscountInfo) : Decidable (Spent cart discount) := by
  unfold Spent
  split <;> infer_instance

instance (tables : PriceTables) (coupon : AppliedCouponRecord) : Decidable (Worthless tables coupon) :=
  inferInstanceAs (Decidable (_ ∧ _))

/-- A line as it is before tax. -/
def untaxed (line : CartLineItem) : CartLineItem := { line with taxCents := 0, taxInclusive := false }

section Lines
variable {lines : List CartLineItem} {tables : PriceTables}

theorem discountLine_untaxed (lineId : Uuid) (cents : Nat) :
    (discountLine lineId cents lines).map untaxed = discountLine lineId cents (lines.map untaxed) := by
  induction lines with
  | nil => rfl
  | cons line lines ih =>
    by_cases same : line.lineId = lineId
    · simp [discountLine, same, untaxed, addDiscount, lineNet]
    · simpa [discountLine, same, untaxed] using ih

theorem spreadDiscount_untaxed (cents totalNet remaining : Nat) :
    (spreadDiscount cents totalNet remaining lines).map untaxed =
      spreadDiscount cents totalNet remaining (lines.map untaxed) := by
  induction lines generalizing remaining with
  | nil => rfl
  | cons line lines ih =>
    have net : lineNet (untaxed line) = lineNet line := rfl
    have alone : (lines.map untaxed).isEmpty = lines.isEmpty := by cases lines <;> rfl
    simp only [spreadDiscount, List.map_cons, ih, net, alone]
    rfl

theorem applyManualDiscount_untaxed (discount : ManualDiscountInfo) :
    (applyManualDiscount lines discount).map untaxed = applyManualDiscount (lines.map untaxed) discount := by
  have net : basketNet (lines.map untaxed) = basketNet lines := by
    unfold basketNet
    rw [List.map_map]
    rfl
  unfold applyManualDiscount
  rw [net]
  split
  · rfl
  · split
    · exact discountLine_untaxed _ _
    · split
      · rfl
      · exact spreadDiscount_untaxed _ _ _

/-- Discounts do not look at taxes: only the last tax counts. -/
theorem tax_after_discount (discount : ManualDiscountInfo) :
    (applyManualDiscount (lines.map (taxLine tables)) discount).map (taxLine tables) =
      (applyManualDiscount lines discount).map (taxLine tables) := by
  have last (items : List CartLineItem) : items.map (taxLine tables) = (items.map untaxed).map (taxLine tables) := by
    rw [List.map_map]
    rfl
  have before : (lines.map (taxLine tables)).map untaxed = lines.map untaxed := by
    rw [List.map_map]
    rfl
  rw [last, applyManualDiscount_untaxed, before, ← applyManualDiscount_untaxed, ← last]

/-- Taking more off a line that is free changes nothing. -/
theorem addDiscount_free {cents : Nat} {line : CartLineItem} (free : lineNet line = 0)
    (fits : line.discountCents ≤ u64Max) : addDiscount cents line = line := by
  simp [addDiscount, free, saturatingAdd, Nat.min_eq_left fits]

theorem discountLine_free {lineId : Uuid} {cents : Nat} (fits : ∀ line ∈ lines, line.discountCents ≤ u64Max)
    (free : ∀ line ∈ lines.find? (·.lineId = lineId), lineNet line = 0) : discountLine lineId cents lines = lines := by
  induction lines with
  | nil => rfl
  | cons line lines ih =>
    obtain ⟨here, later⟩ := List.forall_mem_cons.mp fits
    by_cases same : line.lineId = lineId
    · have net := free line (by simp [same])
      simp [discountLine, same, addDiscount_free net here]
    · simp only [discountLine, if_neg same]
      rw [ih later]
      intro other found
      exact free other (by simpa [same] using found)

/-- Earlier discounts that are spent leave the lines alone. -/
theorem spent_foldl {cart : Cart} {discounts : List ManualDiscountInfo}
    (fits : ∀ line ∈ cart.lines, line.discountCents ≤ u64Max) (spent : ∀ discount ∈ discounts, Spent cart discount) :
    discounts.foldl applyManualDiscount cart.lines = cart.lines := by
  induction discounts with
  | nil => rfl
  | cons discount discounts ih =>
    obtain ⟨here, later⟩ := List.forall_mem_cons.mp spent
    have same : applyManualDiscount cart.lines discount = cart.lines := by
      unfold applyManualDiscount
      split
      · rfl
      next some =>
        have left := here.resolve_left some
        split
        next lineId named =>
          rw [named] at left
          exact discountLine_free fits left
        next unnamed =>
          rw [unnamed] at left
          exact if_pos left
    rw [List.foldl_cons, same]
    exact ih later

theorem worthless_same {net : Nat} {coupons : List AppliedCouponRecord}
    (worthless : ∀ coupon ∈ coupons, Worthless tables coupon) : priceCoupons tables net coupons = coupons := by
  induction coupons generalizing net with
  | nil => rfl
  | cons coupon coupons ih =>
    obtain ⟨⟨none, closed⟩, later⟩ := List.forall_mem_cons.mp worthless
    have same : priceCoupon tables net coupon = coupon := by
      unfold priceCoupon
      split
      · cases coupon
        cases none
        rfl
      next promo found =>
        rw [closed promo found]
        cases coupon
        cases none
        rfl
    rw [priceCoupons, same, ih later]

end Lines

/-- Every discount is a 64-bit amount. -/
def DiscountsFit (cart : Cart) : Prop := ∀ line ∈ cart.lines, line.discountCents ≤ u64Max

section Reachable
variable {tables : PriceTables} {cart changed : Cart}

theorem wrap64_fits (n : Nat) : wrap64 n ≤ u64Max := by
  have bound : n % 2 ^ 64 < 2 ^ 64 := Nat.mod_lt _ (by omega)
  simp only [wrap64, u64Max]
  omega

theorem allocate_fits {totalDiscount eligibleTotal remaining : Nat} {capped : List (CartLineItem × Nat)}
    {amounts : LineAmounts} (fits : ∀ id, amounts.discounts id ≤ u64Max) (id : Uuid) :
    (allocate totalDiscount eligibleTotal remaining capped amounts).discounts id ≤ u64Max := by
  induction capped generalizing remaining amounts with
  | nil => exact fits id
  | cons first rest ih =>
    apply ih
    intro id
    simp only [LineAmounts.discount]
    split
    · exact wrap64_fits _
    · exact fits id

theorem applyPromo_fits (lines : List CartLineItem) (categoryByItem : Uuid → Uuid) (subtotalCents : Nat)
    (now : Timestamp) (progress : LineAmounts × List Uuid) (promo : Promotion)
    (fits : ∀ id, progress.1.discounts id ≤ u64Max) (id : Uuid) :
    (applyPromo lines categoryByItem subtotalCents now progress promo).1.discounts id ≤ u64Max := by
  unfold applyPromo
  dsimp only
  split
  · unfold allocateDiscountToLines
    dsimp only
    split
    · exact fits id
    · exact allocate_fits fits id
  · exact fits id

theorem promoOutcome_fits (tables : PriceTables) (cart : Cart) (id : Uuid) :
    (promoOutcome tables cart).1.discounts id ≤ u64Max := by
  have kept (progress : LineAmounts × List Uuid) (promo : Promotion) (fits : ∀ id, progress.1.discounts id ≤ u64Max)
      (_ : True) := applyPromo_fits cart.lines tables.categoryByItem cart.subtotalCents tables.now progress promo fits
  exact Sequence.keeps kept (fun _ => Nat.zero_le _) (Sequence.meets_of_forall fun _ _ => trivial) id

theorem applyManual_fits (fits : DiscountsFit cart) : DiscountsFit (applyManualDiscountsToLines tables cart) :=
  @forall_applyManual tables cart (fun line => line.discountCents ≤ u64Max) (fun _ _ _ => Nat.min_le_right _ _)
    (fun _ here => here) fits

theorem repriced_fits (fits : DiscountsFit cart) : DiscountsFit (repriced tables cart) := by
  unfold DiscountsFit
  rw [repriced_lines]
  apply applyManual_fits
  apply forall_applyResults _ fits
  intro line result priced
  obtain ⟨old, _, rfl⟩ := List.mem_map.mp priced
  exact promoOutcome_fits tables cart old.lineId

theorem setQuantity_fits {lineId : Uuid} {quantity : Nat} {notes : Option String} {lines changed : List CartLineItem}
    (fits : ∀ line ∈ lines, line.discountCents ≤ u64Max)
    (found : setQuantity lineId quantity notes lines = some changed) :
    ∀ line ∈ changed, line.discountCents ≤ u64Max := by
  induction lines generalizing changed with
  | nil => cases found
  | cons first lines ih =>
    obtain ⟨here, later⟩ := List.forall_mem_cons.mp fits
    simp only [setQuantity] at found
    split at found
    · cases found
      exact List.forall_mem_cons.mpr ⟨here, later⟩
    · obtain ⟨rest, changed, rfl⟩ := Option.map_eq_some_iff.mp found
      exact List.forall_mem_cons.mpr ⟨here, ih later changed⟩

theorem fits_same (same : changed.lines = cart.lines) (fits : DiscountsFit cart) : DiscountsFit changed :=
  fun line member => fits line (same ▸ member)

theorem edited_fits {wanted : CartEdit} {now : Timestamp} (fits : DiscountsFit cart)
    (did : wanted.apply now cart = .ok changed) : DiscountsFit changed := by
  cases wanted with
  | addLineItem input =>
    cases did
    intro line member
    rcases List.mem_append.mp member with old | new
    · exact fits line old
    · cases List.mem_singleton.mp new
      exact Nat.zero_le _
  | updateLineItem lineId quantity notes =>
    simp only [CartEdit.apply, updateLine] at did
    split at did <;> cases did
    next found => exact setQuantity_fits fits found
  | removeLineItem lineId =>
    obtain ⟨position, rfl⟩ := removeLine_ok did
    exact fun line member => fits line (List.eraseIdx_subset member)
  | applyCoupon code coupon promos => exact fits_same (keepsLines_frame rfl did).1 fits
  | removeCoupon couponId => exact fits_same (keepsLines_frame rfl did).1 fits
  | applyPromo promoId promos => exact fits_same (keepsLines_frame rfl did).1 fits
  | removePromo promoId => exact fits_same (keepsLines_frame rfl did).1 fits

theorem fits_change (cart : Cart) (wanted : CartChange) (changed : Cart) (fits : DiscountsFit cart)
    (_ : True) (did : wanted.apply cart = .ok changed) : DiscountsFit changed := by
  cases wanted with
  | setCustomer customerId now =>
    cases did
    exact fits
  | edit wanted tables =>
    obtain ⟨edited, _, applied, rfl⟩ := editCart_ok did
    split
    · exact repriced_fits (edited_fits fits applied)
    · exact edited_fits fits applied
  | applyManualDiscount p tables =>
    obtain ⟨noted, added, rfl⟩ := discountCart_ok did
    obtain ⟨amountCents, _, _, _, rfl⟩ := addManualDiscount_ok added
    exact applyManual_fits fits
  | setTendering now =>
    simp only [CartChange.apply, startTendering] at did
    split at did <;> cases did
    exact fits
  | addPayment input now =>
    simp only [CartChange.apply, Cart.addPayment] at did
    split at did <;> cases did
    next added =>
      split at added <;> cases added
      split <;> exact fits
  | voidCart now =>
    simp only [CartChange.apply] at did
    split at did <;> cases did
    intro _ member
    cases member
  | finalizeOrder orderId now =>
    simp only [CartChange.apply] at did
    split at did <;> cases did
    exact fits

end Reachable

section Agreement
variable {tables : PriceTables} {cart : Cart}

theorem discountsFit_reachable {commands : List CartCommand} {id : Uuid}
    (loaded : Carts.load id (runCommands commands).carts = some cart) : DiscountsFit cart := by
  have meets : Sequence.Meets applyCommand (OnChanges fun _ _ => True) CartTables.empty commands :=
    Sequence.meets_of_forall (onChanges_of_forall fun _ _ => trivial)
  have every := everyCart_run (fun _ _ _ _ _ member => (nomatch member)) fits_change meets
  exact (every.stored id cart loaded).2

/-- Noting a discount does not change what the promotions give. -/
theorem promoPriced_noted (discounts : List ManualDiscountInfo) :
    (promoPriced tables { cart with manualDiscounts := discounts }).lines = (promoPriced tables cart).lines := rfl

/-- Both ways take the new discount off the same lines. -/
theorem lines_agree {discount : ManualDiscountInfo} (fits : DiscountsFit cart) (upToDate : UpToDate cart tables) :
    (applyManualDiscountsToLines tables
        { cart with manualDiscounts := cart.manualDiscounts ++ [discount] }).lines =
      (repriced tables { cart with manualDiscounts := cart.manualDiscounts ++ [discount] }).lines := by
  have applied (noted : Cart) (discounts : noted.manualDiscounts = cart.manualDiscounts ++ [discount]) :
      (applyManualDiscountsToLines tables noted).lines =
        (applyManualDiscount (cart.manualDiscounts.foldl applyManualDiscount noted.lines) discount).map
          (taxLine tables) := by
    unfold applyManualDiscountsToLines
    rw [discounts, if_neg (by simp), List.foldl_append]
    rfl
  have again : (repriced tables { cart with manualDiscounts := cart.manualDiscounts ++ [discount] }).lines =
      (applyManualDiscount (cart.manualDiscounts.foldl applyManualDiscount (promoPriced tables cart).lines)
        discount).map (taxLine tables) := by
    rw [repriced_lines, applied _ rfl, promoPriced_noted]
  have priced := upToDate.priced
  rw [repriced_lines] at priced
  rw [applied _ rfl, spent_foldl fits upToDate.spent, again]
  unfold applyManualDiscountsToLines at priced
  split at priced
  next none =>
    have none : cart.manualDiscounts = [] := by simpa [promoPriced, Cart.applyPricing] using none
    rw [none, List.foldl_nil, priced]
  next =>
    rw [← priced]
    exact tax_after_discount discount

theorem prices_eq {first second : Cart} (lines : first.lines = second.lines)
    (coupons : first.appliedCoupons = second.appliedCoupons) (state : first.state = second.state) :
    Prices.ofCart first = Prices.ofCart second := by
  simp only [Prices.ofCart, Cart.subtotalCents, Cart.discountCents, Cart.taxCents, Cart.totalCents, lines, coupons, state]

/-- Where pricing is up to date, earlier discounts are spent and coupons are worthless,
the shortcut prices a reachable cart as the pipeline does. -/
theorem shortcut_agrees {commands : List CartCommand} {id : Uuid}
    (loaded : Carts.load id (runCommands commands).carts = some cart) (upToDate : UpToDate cart tables)
    (p : ApplyManualDiscountPayload) : Agrees cart p tables := by
  intro stored done noted added
  obtain ⟨noted', same, rfl⟩ := discountCart_ok (ok_of_mem_toOption done)
  have added := ok_of_mem_toOption added
  cases same.symm.trans added
  obtain ⟨amountCents, _, _, _, rfl⟩ := addManualDiscount_ok added
  refine ⟨_, congrArg Except.toOption (runPricingPipeline_eq tables _), ?_⟩
  have discounted (noted : Cart) (some : noted.manualDiscounts ≠ []) :
      repriced tables noted = (fullyPriced tables noted).setDiscounted tables.now := by
    apply if_pos
    right
    left
    rw [fullyPriced, applyManual_frame]
    simpa [applyCouponDiscounts, promoPriced, Cart.applyPricing] using some
  apply prices_eq
  · exact lines_agree (discountsFit_reachable loaded) upToDate
  · rw [discounted _ (by simp), applyManual_frame]
    show cart.appliedCoupons = priceCoupons tables _ (applyManualDiscountsToLines tables (promoPriced tables _)).appliedCoupons
    rw [applyManual_frame]
    exact (worthless_same upToDate.coupons).symm
  · rw [discounted _ (by simp)]
    rfl

end Agreement

section Runs
open CartStates

/-- One dollar off a line. -/
def dollarOff : ApplyManualDiscountPayload := ⟨.random 1, "damaged", .fixedItem, 100, some (.random 7)⟩

def oneLine : List CartCommand := [openCart, edit (offering [tenOff]) (.addLineItem (line 7 1000 1))]

/-- The first discount of a cart. -/
theorem first_discount_agrees :
    ∃ cart, Carts.load (.random 1) (runCommands oneLine).carts = some cart ∧
      Agrees cart dollarOff (offering [tenOff]) := by
  have upToDate : ∃ cart ∈ Carts.load (.random 1) (runCommands oneLine).carts,
      (repriced (offering [tenOff]) cart).lines = cart.lines ∧ cart.manualDiscounts = [] ∧
        cart.appliedCoupons = [] := by decide +kernel
  obtain ⟨cart, loaded, priced, first, none⟩ := upToDate
  refine ⟨cart, loaded, shortcut_agrees loaded ?_ dollarOff⟩
  exact { priced := priced, spent := by simp [first], coupons := by simp [none] }

/-- The same dollar off twice is taken off three times, where repricing takes it off twice. -/
theorem second_discount_is_tripled : ¬∀ cart ∈ Carts.load (.random 1)
    (runCommands [openCart, edit (offering [tenOff]) (.addLineItem (line 7 1000 1)),
      .changeCart (.random 1) (.applyManualDiscount dollarOff (offering [tenOff]))]).carts,
    Agrees cart dollarOff (offering [tenOff]) := by
  intro all
  have tripled : ∃ cart ∈ Carts.load (.random 1)
      (runCommands [openCart, edit (offering [tenOff]) (.addLineItem (line 7 1000 1)),
        .changeCart (.random 1) (.applyManualDiscount dollarOff (offering [tenOff]))]).carts,
      ∃ stored ∈ (discountCart dollarOff (offering [tenOff]) cart).toOption,
        ∃ noted ∈ (addManualDiscount dollarOff cart).toOption,
          ∀ priced ∈ (runPricingPipeline (offering [tenOff]) noted).toOption,
            stored.discountCents = 300 ∧ priced.discountCents = 200 := by decide +kernel
  obtain ⟨cart, loaded, stored, done, noted, added, differ⟩ := tripled
  obtain ⟨priced, again, same⟩ := all cart loaded stored done noted added
  obtain ⟨three, two⟩ := differ priced again
  have same : stored.discountCents = priced.discountCents := congrArg Prices.discountCents same
  omega

end Runs
end ApexEdge.Proofs.DiscountShortcut
