import ApexEdge.Proofs.CartStates

/-! What holds of every cart, whatever its ids are: a tax that is contained in a price is at
most the price, and a paid cart is tendered its total. -/

namespace ApexEdge.Proofs.PaidCarts
open Library Payment Domain Storage Contracts Pos
open CartPricing CartStore

def TaxWithin (line : CartLineItem) : Prop := line.taxInclusive = true → line.taxCents ≤ lineNet line

structure Sellable (cart : Cart) : Prop where
  within : ∀ line ∈ cart.lines, TaxWithin line
  tendered : cart.state = .paid → cart.totalCents ≤ cart.tenderedCents

section Lines
variable {tables : PriceTables} {lines : List CartLineItem}

theorem taxForLine_within (amount : Nat) (category : Uuid) (rules : List TaxRule)
    (inclusive : (taxForLine amount category rules).inclusive = true) :
    (taxForLine amount category rules).taxCents ≤ amount := by
  rw [taxForLine] at inclusive ⊢
  split at inclusive
  · dsimp only at inclusive ⊢
    rw [applyTax, if_pos inclusive]
    exact Nat.sub_le _ _
  · exact nomatch inclusive

theorem taxLine_within (line : CartLineItem) : TaxWithin (taxLine tables line) := taxForLine_within _ _ _

theorem priceLine_within (cart : Cart) (line : CartLineItem) {result : LinePriceResult}
    (member : result ∈ cart.lines.map (taxedResult tables cart)) : TaxWithin (priceLine line result) := by
  obtain ⟨priced, -, rfl⟩ := List.mem_map.mp member
  exact taxForLine_within _ _ _

/-- The first line with an id is left out, as its price is about to be set. -/
def OthersWithin (lineId : Uuid) (lines : List CartLineItem) : Prop :=
  match lines with
  | [] => True
  | line :: lines =>
    if line.lineId = lineId then ∀ other ∈ lines, TaxWithin other else TaxWithin line ∧ OthersWithin lineId lines

theorem setQuantity_others {lineId : Uuid} {quantity : Nat} {notes : Option String} {changed : List CartLineItem}
    (found : setQuantity lineId quantity notes lines = some changed) (within : ∀ line ∈ lines, TaxWithin line) :
    OthersWithin lineId changed ∧ lineId ∈ changed.map CartLineItem.lineId := by
  induction lines generalizing changed with
  | nil => exact nomatch found
  | cons line lines ih =>
    obtain ⟨here, later⟩ := List.forall_mem_cons.mp within
    rw [setQuantity] at found
    split at found
    next own =>
      cases found
      rw [OthersWithin, if_pos own]
      exact ⟨later, own ▸ List.mem_cons_self⟩
    next other =>
      obtain ⟨rest, changed_rest, rfl⟩ := Option.map_eq_some_iff.mp found
      obtain ⟨others, member⟩ := ih changed_rest later
      rw [OthersWithin, if_neg other]
      exact ⟨⟨here, others⟩, List.mem_cons_of_mem _ member⟩

theorem applyResult_others {lineId : Uuid} {result : LinePriceResult} (priced : ∀ line, TaxWithin (priceLine line result))
    (others : OthersWithin lineId lines) :
    if result.lineId = lineId then ∀ line ∈ Cart.applyResult lines result, TaxWithin line
    else OthersWithin lineId (Cart.applyResult lines result) := by
  induction lines with
  | nil => split <;> simp [Cart.applyResult, OthersWithin]
  | cons line lines ih =>
    rw [OthersWithin] at others
    rw [Cart.applyResult]
    by_cases target : line.lineId = result.lineId
    · rw [if_pos target]
      by_cases own : result.lineId = lineId
      · rw [if_pos (target.trans own)] at others
        rw [if_pos own]
        exact List.forall_mem_cons.mpr ⟨priced line, others⟩
      · rw [if_neg (target ▸ own)] at others
        rw [if_neg own, OthersWithin, if_neg (target ▸ own)]
        exact ⟨priced line, others.2⟩
    · rw [if_neg target]
      by_cases own : line.lineId = lineId
      · have apart : result.lineId ≠ lineId := fun same => target (own.trans same.symm)
        rw [if_pos own] at others
        rw [if_neg apart, OthersWithin, if_pos own]
        exact @forall_applyResults lines TaxWithin [result]
          (fun line _ member => List.mem_singleton.mp member ▸ priced line) others
      · rw [if_neg own] at others
        have rest := ih others.2
        split at rest
        next same =>
          rw [if_pos same]
          exact List.forall_mem_cons.mpr ⟨others.1, rest⟩
        next apart =>
          rw [if_neg apart, OthersWithin, if_neg own]
          exact ⟨others.1, rest⟩

theorem applyResults_within {lineId : Uuid} {results : List LinePriceResult}
    (priced : ∀ line, ∀ result ∈ results, TaxWithin (priceLine line result)) (others : OthersWithin lineId lines)
    (among : lineId ∈ results.map LinePriceResult.lineId) :
    ∀ line ∈ results.foldl Cart.applyResult lines, TaxWithin line := by
  induction results generalizing lines with
  | nil => exact nomatch among
  | cons result results ih =>
    have first := applyResult_others (fun line => priced line result List.mem_cons_self) others
    have later := fun line other member => priced line other (List.mem_cons_of_mem result member)
    rw [List.foldl_cons]
    split at first
    · exact forall_applyResults later first
    next apart => exact ih later first ((List.mem_cons.mp among).resolve_left (Ne.symm apart))

/-- Pricing sets the tax of every line whose price it sets, and manual discounts tax all lines again. -/
theorem manual_within {cart : Cart} (within : ∀ line ∈ cart.lines, TaxWithin line) :
    ∀ line ∈ (applyManualDiscountsToLines tables cart).lines, TaxWithin line := by
  rw [applyManualDiscountsToLines]
  split
  · exact within
  · intro line member
    obtain ⟨untaxed, -, rfl⟩ := List.mem_map.mp member
    exact taxLine_within untaxed

theorem repriced_within {cart : Cart} (priced : ∀ line ∈ (promoPriced tables cart).lines, TaxWithin line) :
    ∀ line ∈ (repriced tables cart).lines, TaxWithin line := by
  rw [repriced_lines]
  exact manual_within priced

theorem repriced_unpaid (tables : PriceTables) (cart : Cart) : (repriced tables cart).state ≠ .paid := by
  rw [repriced]
  split
  · intro paid
    cases paid
  · show (applyManualDiscountsToLines tables (promoPriced tables cart)).state ≠ .paid
    rw [applyManual_frame, promoPriced, Cart.applyPricing]
    show Cart.stateOfLines _ ≠ .paid
    rw [Cart.stateOfLines]
    split <;> simp

end Lines

section Changes
variable {cart changed : Cart} {tables : PriceTables}

theorem sellable_edit {wanted : CartEdit} (sellable : Sellable cart) (done : editCart wanted tables cart = .ok changed) :
    Sellable changed := by
  obtain ⟨edited, editable, did, rfl⟩ := editCart_ok done
  -- every edit but one leaves taxes and prices alone, or adds a line without tax
  have priced (within : ∀ line ∈ edited.lines, TaxWithin line) : Sellable (repriced tables edited) :=
    ⟨repriced_within (forall_applyResults (fun line _ member => priceLine_within edited line member) within),
      fun paid => absurd paid (repriced_unpaid tables edited)⟩
  cases wanted with
  | addLineItem input =>
    cases did
    refine priced fun line member => ?_
    rcases List.mem_append.mp member with old | new
    · exact sellable.within line old
    · rw [List.mem_singleton.mp new]
      intro inclusive
      cases inclusive
  | updateLineItem lineId quantity notes =>
    simp only [CartEdit.apply, updateLine] at did
    split at did
    · cases did
    next lines found =>
      cases did
      obtain ⟨others, present⟩ := setQuantity_others found sellable.within
      refine ⟨repriced_within (applyResults_within (fun line _ member => priceLine_within _ line member) others ?_),
        fun paid => absurd paid (repriced_unpaid tables _)⟩
      rw [List.map_map]
      exact present
  | removeLineItem lineId =>
    obtain ⟨position, rfl⟩ := removeLine_ok did
    have within : ∀ line ∈ cart.lines.eraseIdx position, TaxWithin line :=
      fun line member => sellable.within line (List.mem_of_mem_eraseIdx member)
    split
    · exact priced within
    · refine ⟨within, fun paid => ?_⟩
      change Cart.stateOfLines _ = _ at paid
      rw [Cart.stateOfLines] at paid
      split at paid <;> cases paid
  | applyCoupon | removeCoupon | applyPromo | removePromo =>
    exact priced ((keepsLines_frame rfl did).1 ▸ sellable.within)

theorem sellable_change (cart : Cart) (wanted : CartChange) (changed : Cart) (sellable : Sellable cart) (_ : True)
    (did : wanted.apply cart = .ok changed) : Sellable changed := by
  cases wanted with
  | setCustomer customerId now =>
    cases did
    exact ⟨sellable.within, sellable.tendered⟩
  | edit wanted tables => exact sellable_edit sellable did
  | applyManualDiscount p tables =>
    obtain ⟨noted, added, rfl⟩ := discountCart_ok did
    obtain ⟨amountCents, -, -, -, rfl⟩ := addManualDiscount_ok added
    refine ⟨manual_within sellable.within, ?_⟩
    intro paid
    cases paid
  | setTendering now =>
    simp only [CartChange.apply, startTendering] at did
    split at did <;> cases did
    refine ⟨sellable.within, ?_⟩
    intro paid
    cases paid
  | addPayment input now =>
    simp only [CartChange.apply, Cart.addPayment] at did
    split at did <;> cases did
    next added =>
      split at added <;> cases added
      next tendering =>
        refine ⟨?_, fun paid => ?_⟩
        · split <;> exact sellable.within
        · split at paid
          next enough =>
            rw [if_pos enough]
            exact enough
          next short =>
            -- a cart that was paid before has been tendered enough
            have before := sellable.tendered paid
            refine absurd (before.trans ?_) short
            simp [Cart.tenderedCents]
  | voidCart now =>
    simp only [CartChange.apply] at did
    split at did <;> cases did
    refine ⟨?_, ?_⟩
    · intro _ member
      cases member
    · intro paid
      cases paid
  | finalizeOrder orderId now =>
    simp only [CartChange.apply] at did
    split at did <;> cases did
    refine ⟨sellable.within, ?_⟩
    intro paid
    cases paid

end Changes

/-- Every cart that any run of cart commands stores. -/
theorem every_cart_sellable (commands : List CartCommand) {id : Uuid} {cart : Cart}
    (loaded : Carts.load id (runCommands commands).carts = some cart) : Sellable cart := by
  have fresh : ∀ cartId storeId registerId now, Sellable (Cart.new cartId storeId registerId now) := by
    intro cartId storeId registerId now
    refine ⟨?_, ?_⟩
    · intro _ member
      cases member
    · intro paid
      cases paid
  have meets : Sequence.Meets applyCommand (OnChanges fun _ _ => True) CartTables.empty commands :=
    Sequence.meets_of_forall (onChanges_of_forall fun _ _ => trivial)
  exact ((everyCart_run fresh sellable_change meets).stored id cart loaded).2

/-- A paid cart makes an order. -/
theorem Sellable.toOrder {cart : Cart} (sellable : Sellable cart) (paid : cart.state = .paid) (orderId : Uuid) :
    ∃ order, cart.toOrder orderId = .ok order ∧ order.lines = cart.toOrderLines ∧ order.payments = cart.payments ∧
      order.totalCents = cart.totalCents ∧
      order.appliedCoupons = cart.appliedCoupons.map fun coupon => (coupon.couponId, coupon.code, coupon.discountCents) := by
  have allowed : cart.ensureCanFinalize = .ok () := by
    rw [Cart.ensureCanFinalize, if_neg (not_not.mpr paid), if_neg (Nat.not_lt.mpr (sellable.tendered paid))]
  rw [Cart.toOrder, allowed]
  exact ⟨_, rfl, rfl, rfl, rfl, rfl⟩

end ApexEdge.Proofs.PaidCarts
