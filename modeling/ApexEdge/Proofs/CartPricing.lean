import ApexEdge.Pos.CartEdits

/-! What the pricing pipeline makes of a cart: it always succeeds, keeps the lines
as they are but for their discounts and taxes, and settles the state. -/

namespace ApexEdge.Proofs.CartPricing
open Library Payment Domain Contracts Pos Promotions

/-- The discounts that the promotions give a cart, and the promotions that gave one. -/
def promoOutcome (tables : PriceTables) (cart : Cart) : LineAmounts × List Uuid :=
  (byPriority (promosToApply tables.promos cart.appliedPromoIds)).foldl
    (applyPromo cart.lines tables.categoryByItem cart.subtotalCents tables.now) (LineAmounts.ofLines cart.lines, [])

/-- A line's result, taxed by the first line with its id. -/
def taxedResult (tables : PriceTables) (cart : Cart) (line : CartLineItem) : LinePriceResult :=
  let discountCents := (promoOutcome tables cart).1.discounts line.lineId
  let item := ((cart.lines.find? (·.lineId = line.lineId)).getD line).itemId
  let tax := taxForLine (line.lineTotalCents - discountCents) (tables.categoryByItem item) tables.rules
  { lineId := line.lineId, unitPriceCents := line.unitPriceCents, lineTotalCents := line.lineTotalCents
    discountCents := discountCents, taxCents := tax.taxCents, taxInclusive := tax.inclusive }

/-- The cart after promotions and tax. -/
def promoPriced (tables : PriceTables) (cart : Cart) : Cart :=
  { cart with appliedPromoIds := (promoOutcome tables cart).2 }.applyPricing
    (cart.lines.map (taxedResult tables cart)) tables.now

/-- The cart after manual discounts and coupons too. -/
def fullyPriced (tables : PriceTables) (cart : Cart) : Cart :=
  applyCouponDiscounts tables (applyManualDiscountsToLines tables (promoPriced tables cart))

/-- Some discount is on the cart. -/
def Discounted (tables : PriceTables) (cart : Cart) : Prop :=
  cart.lines.any (fun line => 0 < (promoOutcome tables cart).1.discounts line.lineId) ∨
    !(fullyPriced tables cart).manualDiscounts.isEmpty ∨
    (fullyPriced tables cart).appliedCoupons.any (0 < ·.discountCents)

instance (tables : PriceTables) (cart : Cart) : Decidable (Discounted tables cart) :=
  inferInstanceAs (Decidable (_ ∨ _))

def repriced (tables : PriceTables) (cart : Cart) : Cart :=
  if Discounted tables cart then (fullyPriced tables cart).setDiscounted tables.now
  else fullyPriced tables cart

section Pipeline
variable {tables : PriceTables} {cart : Cart}

private theorem mapM_ok {α β γ ε : Type} {f : β → Except ε γ} {h : α → β} {g : α → γ} {items : List α}
    (each : ∀ item ∈ items, f (h item) = .ok (g item)) : (items.map h).mapM f = .ok (items.map g) := by
  induction items with
  | nil => rfl
  | cons item items ih =>
    have first := each item (by simp)
    have rest := ih fun later member => each later (by simp [member])
    simp only [List.map_cons, List.mapM_cons, first, rest]
    rfl

theorem applyTax_ok : applyTaxToPricingResults
    (applyPromosWithAttribution cart.lines tables.categoryByItem
      (promosToApply tables.promos cart.appliedPromoIds) cart.subtotalCents tables.now).1 cart.lines tables =
      .ok (cart.lines.map (taxedResult tables cart)) := by
  apply mapM_ok
  intro line member
  have known : (cart.lines.find? (·.lineId = line.lineId)).isSome := by
    rw [List.find?_isSome]
    exact ⟨line, member, by simp⟩
  obtain ⟨first, found⟩ := Option.isSome_iff_exists.mp known
  simp only [taxResult, taxedResult, found]
  rfl

theorem runPricingPipeline_eq (tables : PriceTables) (cart : Cart) :
    runPricingPipeline tables cart = .ok (repriced tables cart) := by
  have taxed := @applyTax_ok tables cart
  have any : (cart.lines.map (taxedResult tables cart)).any (0 < ·.discountCents) =
      cart.lines.any (fun line => 0 < (promoOutcome tables cart).1.discounts line.lineId) := by
    rw [List.any_map]
    rfl
  unfold runPricingPipeline
  simp only [taxed, bind, Except.bind, pure, Except.pure]
  rw [any]
  exact (apply_ite Except.ok _ _ _).symm

end Pipeline

section Lines
variable {lines : List CartLineItem}

theorem applyResult_length (result : LinePriceResult) : (Cart.applyResult lines result).length = lines.length := by
  induction lines with
  | nil => rfl
  | cons line lines ih =>
    simp only [Cart.applyResult]
    split
    · rfl
    · simp [ih]

theorem applyResults_length (results : List LinePriceResult) :
    (results.foldl Cart.applyResult lines).length = lines.length := by
  induction results generalizing lines with
  | nil => rfl
  | cons result results ih => exact ih.trans (applyResult_length result)

/-- A line with the prices of a result. -/
def priceLine (line : CartLineItem) (result : LinePriceResult) : CartLineItem :=
  { line with
    unitPriceCents := result.unitPriceCents, lineTotalCents := result.lineTotalCents
    discountCents := result.discountCents, taxCents := result.taxCents, taxInclusive := result.taxInclusive }

theorem applyResults_skip {line : CartLineItem} {results : List LinePriceResult}
    (others : ∀ result ∈ results, line.lineId ≠ result.lineId) :
    results.foldl Cart.applyResult (line :: lines) = line :: results.foldl Cart.applyResult lines := by
  induction results generalizing lines with
  | nil => rfl
  | cons result results ih =>
    have other := others result (by simp)
    simp only [List.foldl_cons, Cart.applyResult, if_neg other]
    exact ih fun later member => others later (by simp [member])

/-- With distinct ids, every line gets its own result. -/
theorem applyResults_map (price : CartLineItem → LinePriceResult) (own : ∀ line, (price line).lineId = line.lineId)
    (distinct : (lines.map CartLineItem.lineId).Nodup) :
    (lines.map price).foldl Cart.applyResult lines = lines.map fun line => priceLine line (price line) := by
  induction lines with
  | nil => rfl
  | cons line lines ih =>
    obtain ⟨fresh, distinct⟩ := List.nodup_cons.mp distinct
    simp only [List.map_cons, List.foldl_cons, Cart.applyResult, own, if_true]
    rw [applyResults_skip]
    · rw [ih distinct]
      rfl
    · intro result member same
      obtain ⟨other, present, priced⟩ := List.mem_map.mp member
      have clash : other.lineId = line.lineId := (own other).symm.trans (priced ▸ same.symm)
      exact fresh (clash ▸ List.mem_map_of_mem present)

/-- What a line is, but for its discount and its tax. -/
def bare (line : CartLineItem) : CartLineItem :=
  { line with discountCents := 0, taxCents := 0, taxInclusive := false }

/-- Lists with the same bare lines agree on whatever the bare lines tell. -/
theorem map_of_bare {β : Type} {others : List CartLineItem} (f : CartLineItem → β)
    (tells : ∀ line, f (bare line) = f line)
    (same : lines.map bare = others.map bare) : lines.map f = others.map f := by
  have through (items : List CartLineItem) : (items.map bare).map f = items.map f := by
    rw [List.map_map]
    exact List.map_congr_left fun line _ => tells line
  rw [← through lines, same, through others]

theorem discountLine_bare (lineId : Uuid) (cents : Nat) :
    (discountLine lineId cents lines).map bare = lines.map bare := by
  induction lines with
  | nil => rfl
  | cons line lines ih =>
    simp only [discountLine]
    split
    · rfl
    · rw [List.map_cons, ih, List.map_cons]

theorem spreadDiscount_bare (cents totalNet remaining : Nat) :
    (spreadDiscount cents totalNet remaining lines).map bare = lines.map bare := by
  induction lines generalizing remaining with
  | nil => rfl
  | cons line lines ih =>
    simp only [spreadDiscount, List.map_cons, ih]
    rfl

theorem applyManualDiscount_bare (discount : ManualDiscountInfo) :
    (applyManualDiscount lines discount).map bare = lines.map bare := by
  unfold applyManualDiscount
  split
  · rfl
  · split
    · exact discountLine_bare _ _
    · split
      · rfl
      · exact spreadDiscount_bare _ _ _

theorem applyManualDiscounts_bare (discounts : List ManualDiscountInfo) :
    (discounts.foldl applyManualDiscount lines).map bare = lines.map bare := by
  induction discounts generalizing lines with
  | nil => rfl
  | cons discount discounts ih => exact ih.trans (applyManualDiscount_bare discount)

section Every
variable {Holds : CartLineItem → Prop}

theorem forall_discountLine {lineId : Uuid} {cents : Nat} (kept : ∀ cents line, Holds line → Holds (addDiscount cents line))
    (all : ∀ line ∈ lines, Holds line) : ∀ line ∈ discountLine lineId cents lines, Holds line := by
  induction lines with
  | nil => exact all
  | cons first lines ih =>
    obtain ⟨here, later⟩ := List.forall_mem_cons.mp all
    simp only [discountLine]
    split
    · exact List.forall_mem_cons.mpr ⟨kept _ _ here, later⟩
    · exact List.forall_mem_cons.mpr ⟨here, ih later⟩

theorem forall_spreadDiscount {cents totalNet remaining : Nat}
    (kept : ∀ cents line, Holds line → Holds (addDiscount cents line)) (all : ∀ line ∈ lines, Holds line) :
    ∀ line ∈ spreadDiscount cents totalNet remaining lines, Holds line := by
  induction lines generalizing remaining with
  | nil => exact all
  | cons first lines ih =>
    obtain ⟨here, later⟩ := List.forall_mem_cons.mp all
    exact List.forall_mem_cons.mpr ⟨kept _ _ here, ih later⟩

/-- What every discount of a line keeps holds of all lines after the manual discounts. -/
theorem forall_applyManualDiscounts {discounts : List ManualDiscountInfo}
    (kept : ∀ cents line, Holds line → Holds (addDiscount cents line)) (all : ∀ line ∈ lines, Holds line) :
    ∀ line ∈ discounts.foldl applyManualDiscount lines, Holds line := by
  induction discounts generalizing lines with
  | nil => exact all
  | cons discount discounts ih =>
    apply ih
    unfold applyManualDiscount
    split
    · exact all
    · split
      · exact forall_discountLine kept all
      · split
        · exact all
        · exact forall_spreadDiscount kept all

theorem forall_applyResults {results : List LinePriceResult}
    (priced : ∀ line, ∀ result ∈ results, Holds (priceLine line result)) (all : ∀ line ∈ lines, Holds line) :
    ∀ line ∈ results.foldl Cart.applyResult lines, Holds line := by
  induction results generalizing lines with
  | nil => exact all
  | cons result results ih =>
    apply ih fun line later member => priced line later (List.mem_cons_of_mem _ member)
    have own := fun line => priced line result (by simp)
    induction lines with
    | nil => exact all
    | cons first lines ih =>
      obtain ⟨here, later⟩ := List.forall_mem_cons.mp all
      simp only [Cart.applyResult]
      split
      · exact List.forall_mem_cons.mpr ⟨own first, later⟩
      · exact List.forall_mem_cons.mpr ⟨here, ih later⟩

end Every

theorem priceCoupon_le (tables : PriceTables) (net : Nat) (coupon : AppliedCouponRecord) :
    (priceCoupon tables net coupon).discountCents ≤ net := by
  unfold priceCoupon
  split
  · exact Nat.zero_le _
  · split
    · exact Nat.min_le_right _ _
    · exact Nat.zero_le _

/-- Coupons take no more than the basket is worth. -/
theorem priceCoupons_le (tables : PriceTables) (net : Nat) (coupons : List AppliedCouponRecord) :
    ((priceCoupons tables net coupons).map AppliedCouponRecord.discountCents).sum ≤ net := by
  induction coupons generalizing net with
  | nil => exact Nat.zero_le _
  | cons coupon coupons ih =>
    have first := priceCoupon_le tables net coupon
    have rest := ih (net - (priceCoupon tables net coupon).discountCents)
    simp only [priceCoupons, List.map_cons, List.sum_cons]
    omega

end Lines

section Repriced
variable {tables : PriceTables} {cart : Cart}

theorem applyManual_frame (tables : PriceTables) (cart : Cart) :
    applyManualDiscountsToLines tables cart =
      { cart with lines := (applyManualDiscountsToLines tables cart).lines } := by
  unfold applyManualDiscountsToLines
  split <;> rfl

theorem applyManual_bare : (applyManualDiscountsToLines tables cart).lines.map bare = cart.lines.map bare := by
  unfold applyManualDiscountsToLines
  split
  · rfl
  · rw [List.map_map]
    exact applyManualDiscounts_bare _

theorem forall_applyManual {Holds : CartLineItem → Prop} (kept : ∀ cents line, Holds line → Holds (addDiscount cents line))
    (taxed : ∀ line, Holds line → Holds (taxLine tables line)) (all : ∀ line ∈ cart.lines, Holds line) :
    ∀ line ∈ (applyManualDiscountsToLines tables cart).lines, Holds line := by
  unfold applyManualDiscountsToLines
  split
  · exact all
  · intro line member
    obtain ⟨untaxed, present, rfl⟩ := List.mem_map.mp member
    exact taxed untaxed (forall_applyManualDiscounts kept all untaxed present)

theorem applyManual_length : (applyManualDiscountsToLines tables cart).lines.length = cart.lines.length := by
  simpa using congrArg List.length (@applyManual_bare tables cart)

/-- Pricing touches lines, coupons, the promotions granted, the state and the time. -/
theorem repriced_frame : ∃ lines coupons granted state updatedAt,
    repriced tables cart = { cart with
      lines := lines, appliedCoupons := coupons, appliedPromoIds := granted, state := state
      updatedAt := updatedAt } := by
  unfold repriced fullyPriced applyCouponDiscounts
  rw [applyManual_frame]
  split <;> exact ⟨_, _, _, _, _, rfl⟩

theorem repriced_length : (repriced tables cart).lines.length = cart.lines.length := by
  have same : (fullyPriced tables cart).lines.length = cart.lines.length := by
    show (applyManualDiscountsToLines tables (promoPriced tables cart)).lines.length = cart.lines.length
    rw [applyManual_length]
    exact applyResults_length _
  unfold repriced
  split <;> exact same

/-- With distinct ids, promotions change the discounts and the taxes of the lines. -/
theorem promoPriced_lines (distinct : (cart.lines.map CartLineItem.lineId).Nodup) :
    (promoPriced tables cart).lines = cart.lines.map fun line =>
      taxLine tables { line with discountCents := (promoOutcome tables cart).1.discounts line.lineId } := by
  refine (applyResults_map (taxedResult tables cart) (fun _ => rfl) distinct).trans ?_
  apply List.map_congr_left
  intro line member
  have own : (cart.lines.find? (·.lineId = line.lineId)).getD line = line := by
    rw [Table.find?_of_unique distinct member]
    rfl
  simp only [priceLine, taxedResult, own, taxLine, lineNet]

theorem repriced_lines : (repriced tables cart).lines =
    (applyManualDiscountsToLines tables (promoPriced tables cart)).lines := by
  unfold repriced
  split <;> rfl

theorem repriced_bare (distinct : (cart.lines.map CartLineItem.lineId).Nodup) :
    (repriced tables cart).lines.map bare = cart.lines.map bare := by
  rw [repriced_lines, applyManual_bare, promoPriced_lines distinct, List.map_map]
  rfl

theorem repriced_lines_eq_nil : (repriced tables cart).lines = [] ↔ cart.lines = [] := by
  rw [← List.length_eq_zero_iff, repriced_length, List.length_eq_zero_iff]

/-- A cart with something on it is not open after pricing. -/
theorem repriced_state_of_lines (some : cart.lines ≠ []) :
    (repriced tables cart).state = .itemized ∨ (repriced tables cart).state = .discounted := by
  unfold repriced
  split
  · exact .inr rfl
  · left
    have kept : (fullyPriced tables cart).state = (promoPriced tables cart).state := by
      show (applyManualDiscountsToLines tables (promoPriced tables cart)).state = _
      rw [applyManual_frame]
    have more : ((cart.lines.map (taxedResult tables cart)).foldl Cart.applyResult cart.lines) ≠ [] := by
      rw [← List.length_pos_iff, applyResults_length]
      exact List.length_pos_iff.mpr some
    rw [kept]
    simp only [promoPriced, Cart.applyPricing, Cart.stateOfLines, List.isEmpty_iff, if_neg more]

/-- A cart with nothing on it is open after pricing, if no manual discount is left over. -/
theorem repriced_state_of_empty (empty : cart.lines = []) (none : cart.manualDiscounts = []) :
    (repriced tables cart).state = .open := by
  have priced : (promoPriced tables cart).lines = [] := by
    rw [← List.length_eq_zero_iff, promoPriced, Cart.applyPricing, applyResults_length, empty]
    rfl
  have manual : applyManualDiscountsToLines tables (promoPriced tables cart) = promoPriced tables cart := by
    unfold applyManualDiscountsToLines
    rw [if_pos]
    simp [promoPriced, Cart.applyPricing, none]
  have coupons : ((fullyPriced tables cart).appliedCoupons.map AppliedCouponRecord.discountCents).sum ≤ 0 := by
    have bounded := priceCoupons_le tables (basketNet (promoPriced tables cart).lines) (promoPriced tables cart).appliedCoupons
    simp only [fullyPriced, applyCouponDiscounts, manual]
    simpa [priced, basketNet, wrap64] using bounded
  have undiscounted : ¬Discounted tables cart := by
    have free : ∀ coupon ∈ (fullyPriced tables cart).appliedCoupons, coupon.discountCents = 0 := by
      intro coupon member
      exact List.sum_eq_zero_iff_forall_eq_nat.mp (Nat.le_zero.mp coupons) _ (List.mem_map_of_mem member)
    have kept : (fullyPriced tables cart).manualDiscounts = [] := by
      rw [fullyPriced, manual]
      exact none
    simpa [Discounted, empty, kept] using free
  rw [repriced, if_neg undiscounted, fullyPriced, manual]
  simp [applyCouponDiscounts, promoPriced, Cart.applyPricing, Cart.stateOfLines, empty]

end Repriced

theorem ok_of_mem_toOption {ε α : Type} {result : Except ε α} {value : α} (member : value ∈ result.toOption) :
    result = .ok value := by
  cases result with
  | error error => cases member
  | ok found => exact congrArg Except.ok (Option.some.inj member)

section Changes
variable {cart changed : Cart} {tables : PriceTables}

theorem ensureEditable_ok (allowed : ensureEditable cart = .ok ()) :
    cart.state = .open ∨ cart.state = .itemized ∨ cart.state = .discounted := by
  unfold ensureEditable Cart.ensureCanEdit at allowed
  cases state : cart.state <;> simp [state] at allowed ⊢

/-- An edit of an editable cart, and the pricing of it. -/
theorem editCart_ok {wanted : CartEdit} (done : editCart wanted tables cart = .ok changed) :
    ∃ edited, ensureEditable cart = .ok () ∧ wanted.apply tables.now cart = .ok edited ∧
      changed = if wanted.reprices edited then repriced tables edited else edited := by
  unfold editCart at done
  cases editable : ensureEditable cart with
  | error errors => simp [editable, bind, Except.bind] at done
  | ok _ =>
    cases applied : wanted.apply tables.now cart with
    | error errors => simp [editable, applied, bind, Except.bind] at done
    | ok edited =>
      simp only [editable, applied, bind, Except.bind, runPricingPipeline_eq, pure, Except.pure] at done
      refine ⟨edited, rfl, rfl, ?_⟩
      split at done <;> cases done
      · rw [if_pos ‹_›]
      · rw [if_neg ‹_›]

theorem removeLine_ok {lineId : Uuid} {now : Timestamp} (removed : removeLine lineId now cart = .ok changed) :
    ∃ position, changed = { cart with
      lines := cart.lines.eraseIdx position, updatedAt := now
      state := Cart.stateOfLines (cart.lines.eraseIdx position) } := by
  unfold removeLine at removed
  split at removed <;> cases removed
  next found =>
    unfold Cart.removeLineItem at found
    simp only [bind, Except.bind] at found
    split at found
    · cases found
    · split at found <;> cases found
      exact ⟨_, rfl⟩

/-- A manual discount that is accepted comes off something. -/
theorem addManualDiscount_ok {p : ApplyManualDiscountPayload} {noted : Cart} (added : addManualDiscount p cart = .ok noted) :
    ∃ amountCents, ensureEditable cart = .ok () ∧ manualDiscountAmount p cart = .ok amountCents ∧
      amountCents ≠ 0 ∧ noted = { cart with
        manualDiscounts := cart.manualDiscounts ++
          [{ reason := Hub.trim p.reason, amountCents := amountCents
             lineId := if p.kind.isItem then p.lineId else none }] } := by
  unfold addManualDiscount at added
  cases editable : ensureEditable cart with
  | error errors => simp [editable, bind, Except.bind] at added
  | ok _ =>
    simp only [editable, bind, Except.bind, pure, Except.pure] at added
    split at added
    · cases added
    · cases amount : manualDiscountAmount p cart with
      | error errors => simp [amount] at added
      | ok amountCents =>
        simp only [amount] at added
        split at added
        · cases added
        · cases added
          exact ⟨amountCents, rfl, rfl, ‹_›, rfl⟩

theorem discountCart_ok {p : ApplyManualDiscountPayload} (done : discountCart p tables cart = .ok changed) :
    ∃ noted, addManualDiscount p cart = .ok noted ∧
      changed = (applyManualDiscountsToLines tables noted).setDiscounted tables.now := by
  unfold discountCart at done
  cases added : addManualDiscount p cart with
  | error errors => simp [added, bind, Except.bind] at done
  | ok noted =>
    simp only [added, bind, Except.bind, pure, Except.pure, Except.ok.injEq] at done
    exact ⟨noted, rfl, done.symm⟩

end Changes

/-- Coupon and promotion commands reprice a cart whatever is on it. -/
def keepsLines (wanted : CartEdit) : Bool :=
  match wanted with
  | .applyCoupon .. | .removeCoupon _ | .applyPromo .. | .removePromo _ => true
  | .addLineItem _ | .updateLineItem .. | .removeLineItem _ => false

/-- A new line has an id of its own. -/
def freshLine (cart : Cart) (wanted : CartEdit) : Bool :=
  match wanted with
  | .addLineItem input => cart.lines.all (·.lineId ≠ input.lineId)
  | _ => true

section Edits
variable {cart edited : Cart} {wanted : CartEdit}

theorem setQuantity_length {lineId : Uuid} {quantity : Nat} {notes : Option String} {lines changed : List CartLineItem}
    (found : setQuantity lineId quantity notes lines = some changed) : changed.length = lines.length ∧ lines ≠ [] := by
  induction lines generalizing changed with
  | nil => cases found
  | cons line lines ih =>
    refine ⟨?_, List.cons_ne_nil _ _⟩
    simp only [setQuantity] at found
    split at found
    · cases found
      rfl
    · obtain ⟨rest, later, rfl⟩ := Option.map_eq_some_iff.mp found
      simp [(ih later).1]

/-- The commands that price without editing lines leave lines and manual discounts alone. -/
theorem keepsLines_frame {now : Timestamp} (keeps : keepsLines wanted) (did : wanted.apply now cart = .ok edited) :
    edited.lines = cart.lines ∧ edited.manualDiscounts = cart.manualDiscounts := by
  cases wanted with
  | addLineItem | updateLineItem | removeLineItem => cases keeps
  | applyCoupon code coupon promos =>
    simp only [CartEdit.apply, addCoupon] at did
    split at did
    · cases did
    · split at did
      · cases did
      · split at did
        · cases did
        · split at did <;> cases did <;> exact ⟨rfl, rfl⟩
  | removeCoupon couponId =>
    simp only [CartEdit.apply, dropCoupon] at did
    split at did <;> cases did
    exact ⟨rfl, rfl⟩
  | applyPromo promoId promos =>
    simp only [CartEdit.apply, requestPromo] at did
    split at did
    · split at did <;> cases did <;> exact ⟨rfl, rfl⟩
    · cases did
  | removePromo promoId =>
    simp only [CartEdit.apply, dropPromo] at did
    split at did <;> cases did
    exact ⟨rfl, rfl⟩

theorem setQuantity_ids {lineId : Uuid} {quantity : Nat} {notes : Option String} {lines changed : List CartLineItem}
    (found : setQuantity lineId quantity notes lines = some changed) :
    changed.map CartLineItem.lineId = lines.map CartLineItem.lineId := by
  induction lines generalizing changed with
  | nil => cases found
  | cons line lines ih =>
    simp only [setQuantity] at found
    split at found
    · cases found
      rfl
    · obtain ⟨rest, later, rfl⟩ := Option.map_eq_some_iff.mp found
      rw [List.map_cons, ih later, List.map_cons]

/-- No edit gives two lines the same id. -/
theorem distinct_edit {wanted : CartEdit} {now : Timestamp}
    (distinct : (cart.lines.map CartLineItem.lineId).Nodup) (fresh : freshLine cart wanted)
    (did : wanted.apply now cart = .ok edited) : (edited.lines.map CartLineItem.lineId).Nodup := by
  cases wanted with
  | addLineItem input =>
    cases did
    simp only [freshLine, List.all_eq_true, decide_eq_true_eq] at fresh
    simpa [Cart.addLineItem, List.nodup_append, distinct] using fresh
  | updateLineItem lineId quantity notes =>
    simp only [CartEdit.apply, updateLine] at did
    split at did <;> cases did
    next found => exact setQuantity_ids found ▸ distinct
  | removeLineItem lineId =>
    obtain ⟨position, rfl⟩ := removeLine_ok did
    exact distinct.sublist ((List.eraseIdx_sublist ..).map _)
  | applyCoupon code coupon promos => exact (keepsLines_frame rfl did).1 ▸ distinct
  | removeCoupon couponId => exact (keepsLines_frame rfl did).1 ▸ distinct
  | applyPromo promoId promos => exact (keepsLines_frame rfl did).1 ▸ distinct
  | removePromo promoId => exact (keepsLines_frame rfl did).1 ▸ distinct

/-- Edits touch lines, coupons, the promotions asked for, the state and the time. -/
theorem edited_frame {now : Timestamp} (did : wanted.apply now cart = .ok edited) :
    ∃ lines coupons promoIds state updatedAt,
      edited = { cart with
        lines := lines, appliedCoupons := coupons, appliedPromoIds := promoIds, state := state
        updatedAt := updatedAt } := by
  cases wanted with
  | addLineItem input =>
    cases did
    exact ⟨_, _, _, _, _, rfl⟩
  | updateLineItem lineId quantity notes =>
    simp only [CartEdit.apply, updateLine] at did
    split at did <;> cases did
    exact ⟨_, _, _, _, _, rfl⟩
  | removeLineItem lineId =>
    obtain ⟨position, rfl⟩ := removeLine_ok did
    exact ⟨_, _, _, _, _, rfl⟩
  | applyCoupon code coupon promos =>
    simp only [CartEdit.apply, addCoupon] at did
    split at did
    · cases did
    · split at did
      · cases did
      · split at did
        · cases did
        · split at did <;> cases did <;> exact ⟨_, _, _, _, _, rfl⟩
  | removeCoupon couponId =>
    simp only [CartEdit.apply, dropCoupon] at did
    split at did <;> cases did
    exact ⟨_, _, _, _, _, rfl⟩
  | applyPromo promoId promos =>
    simp only [CartEdit.apply, requestPromo] at did
    split at did
    · split at did <;> cases did <;> exact ⟨_, _, _, _, _, rfl⟩
    · cases did
  | removePromo promoId =>
    simp only [CartEdit.apply, dropPromo] at did
    split at did <;> cases did
    exact ⟨_, _, _, _, _, rfl⟩

/-- An edit and the pricing after it keep who and what the cart is for. -/
theorem editCart_frame {tables : PriceTables} {changed : Cart} (done : editCart wanted tables cart = .ok changed) :
    ∃ lines coupons promoIds state updatedAt,
      changed = { cart with
        lines := lines, appliedCoupons := coupons, appliedPromoIds := promoIds, state := state
        updatedAt := updatedAt } := by
  obtain ⟨edited, _, did, rfl⟩ := editCart_ok done
  obtain ⟨_, _, _, _, _, rfl⟩ := edited_frame did
  split
  · obtain ⟨_, _, _, _, _, frame⟩ := @repriced_frame tables { cart with
      lines := _, appliedCoupons := _, appliedPromoIds := _, state := _, updatedAt := _ }
    exact ⟨_, _, _, _, _, frame⟩
  · exact ⟨_, _, _, _, _, rfl⟩

end Edits
end ApexEdge.Proofs.CartPricing
