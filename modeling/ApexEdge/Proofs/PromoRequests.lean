import ApexEdge.Proofs.CartStates

/-! Promotions look at lines without their discounts. Promotions that were asked for, and
those a cart records. Pricing overwrites the
record with what it granted, so a request lives on as long as every pricing grants it. -/

namespace ApexEdge.Proofs.PromoRequests
open Library Payment Domain Contracts Pos Promotions CartPricing

def barePart (part : CartLineItem × Nat) : CartLineItem × Nat := (bare part.1, part.2)

section Engine
variable {lines : List CartLineItem} {categoryByItem : Uuid → Uuid} {totals : Uuid → Nat}

theorem quantityOf_bare {counts : CartLineItem → Bool} (blind : ∀ line, counts (bare line) = counts line) :
    quantityOf counts (lines.map bare) = quantityOf counts lines := by
  unfold quantityOf
  rw [List.filter_map, List.map_map]
  congr 3
  exact List.filter_congr fun line _ => blind line

theorem conditionsMet_bare (subtotalCents : Nat) (conditions : List PromoCondition) :
    conditionsMet (lines.map bare) subtotalCents conditions categoryByItem =
      conditionsMet lines subtotalCents conditions categoryByItem := by
  unfold conditionsMet
  congr 1
  funext condition
  cases condition with
  | minBasketAmount amountCents => rfl
  | itemInBasket itemId minQuantity =>
    simp only [conditionMet]
    rw [quantityOf_bare fun _ => rfl]
  | categoryInBasket categoryId minQuantity =>
    simp only [conditionMet]
    rw [quantityOf_bare fun _ => rfl]

theorem effectiveMaxUnits_bare (actions : List PromoAction) (conditions : List PromoCondition) :
    effectiveMaxUnits (lines.map bare) actions conditions categoryByItem =
      effectiveMaxUnits lines actions conditions categoryByItem := by
  have blind (target : Target) : quantityOf (target.matches categoryByItem) (lines.map bare) =
      quantityOf (target.matches categoryByItem) lines := quantityOf_bare fun _ => by cases target <;> rfl
  unfold effectiveMaxUnits
  simp only [blind]

theorem capUnits_bare (remaining : Nat) :
    capUnits totals remaining (lines.map bare) = (capUnits totals remaining lines).map barePart := by
  induction lines generalizing remaining with
  | nil => rfl
  | cons line lines ih =>
    have id : (bare line).lineId = line.lineId := rfl
    have quantity : (bare line).quantity = line.quantity := rfl
    simp only [capUnits, List.map_cons, id, quantity, ih]
    split
    · rfl
    · split <;> rfl

theorem applicableLinesWithCap_bare (actions : List PromoAction) (maxUnits : Option Nat) :
    applicableLinesWithCap (lines.map bare) totals actions maxUnits categoryByItem =
      (applicableLinesWithCap lines totals actions maxUnits categoryByItem).map barePart := by
  have applies : (lines.map bare).filter (actionAppliesToLine · actions categoryByItem) =
      (lines.filter (actionAppliesToLine · actions categoryByItem)).map bare := by
    rw [List.filter_map]
    congr 1
  have sorted (items : List CartLineItem) :
      (items.map bare).insertionSort (fun first second => rank first.lineId ≤ rank second.lineId) =
        (items.insertionSort fun first second => rank first.lineId ≤ rank second.lineId).map bare :=
    (List.map_insertionSort _ _ bare items fun _ _ _ _ => Iff.rfl).symm
  unfold applicableLinesWithCap
  rw [applies, sorted, capUnits_bare]

theorem computePromoDiscount_bare (promoType : PromotionType) (actions : List PromoAction)
    (conditions : List PromoCondition) :
    computePromoDiscount promoType (lines.map bare) totals actions conditions categoryByItem =
      computePromoDiscount promoType lines totals actions conditions categoryByItem := by
  have eligible (capped : List (CartLineItem × Nat)) :
      (capped.map barePart).map (eligibleCents totals) = capped.map (eligibleCents totals) := by
    rw [List.map_map]
    rfl
  have override (priceCents : Nat) (capped : List (CartLineItem × Nat)) :
      (capped.map barePart).map (overrideDiscount totals priceCents) = capped.map (overrideDiscount totals priceCents) := by
    rw [List.map_map]
    rfl
  have units (capped : List (CartLineItem × Nat)) (buyQuantity getQuantity : Nat) :
      bundleDiscount totals (capped.map barePart) buyQuantity getQuantity =
        bundleDiscount totals capped buyQuantity getQuantity := by
    unfold bundleDiscount
    rw [List.filterMap_map]
    rfl
  simp only [computePromoDiscount, effectiveMaxUnits_bare, applicableLinesWithCap_bare, eligible, override, units]

theorem allocate_bare (totalDiscount eligibleTotal remaining : Nat) (capped : List (CartLineItem × Nat))
    (amounts : LineAmounts) :
    allocate totalDiscount eligibleTotal remaining (capped.map barePart) amounts =
      allocate totalDiscount eligibleTotal remaining capped amounts := by
  induction capped generalizing remaining amounts with
  | nil => rfl
  | cons first rest ih =>
    have eligible : eligibleCents amounts.totals (barePart first) = eligibleCents amounts.totals first := rfl
    have last : (rest.map barePart).isEmpty = rest.isEmpty := by cases rest <;> rfl
    simp only [List.map_cons, allocate, eligible, last]
    exact ih _ _

theorem applyPromo_bare (subtotalCents : Nat) (now : Timestamp) (progress : LineAmounts × List Uuid) (promo : Promotion) :
    applyPromo (lines.map bare) categoryByItem subtotalCents now progress promo =
      applyPromo lines categoryByItem subtotalCents now progress promo := by
  have eligible (totals : Uuid → Nat) (capped : List (CartLineItem × Nat)) :
      (capped.map barePart).map (eligibleCents totals) = capped.map (eligibleCents totals) := by
    rw [List.map_map]
    rfl
  simp only [applyPromo, conditionsMet_bare, computePromoDiscount_bare, allocateDiscountToLines,
    effectiveMaxUnits_bare, applicableLinesWithCap_bare, allocate_bare, eligible]

theorem ofLines_bare : LineAmounts.ofLines (lines.map bare) = LineAmounts.ofLines lines := by
  unfold LineAmounts.ofLines
  congr 1
  funext id
  rw [← List.map_reverse, List.find?_map, Option.map_map]
  rfl

end Engine

section Cart
variable {cart other : Cart} {tables : PriceTables}

theorem promoOutcome_bare (tables : PriceTables) (cart : Cart) :
    promoOutcome tables { cart with lines := cart.lines.map bare } = promoOutcome tables cart := by
  have subtotal : Cart.subtotalCents { cart with lines := cart.lines.map bare } = cart.subtotalCents := by
    unfold Cart.subtotalCents
    rw [List.map_map]
    rfl
  unfold promoOutcome
  simp only [subtotal, ofLines_bare]
  congr 1
  funext progress promo
  exact applyPromo_bare _ _ _ _

theorem applyManual_lines (lines : cart.lines = other.lines) (discounts : cart.manualDiscounts = other.manualDiscounts) :
    (applyManualDiscountsToLines tables cart).lines = (applyManualDiscountsToLines tables other).lines := by
  unfold applyManualDiscountsToLines
  rw [discounts, lines]
  split
  · exact lines
  · rfl

/-- The promotions' part of pricing, told from the bare lines. -/
theorem promoPriced_bare (distinct : (cart.lines.map CartLineItem.lineId).Nodup) :
    (promoPriced tables cart).lines = (cart.lines.map bare).map fun line =>
      taxLine tables { line with
        discountCents :=
          (promoOutcome tables { cart with lines := cart.lines.map bare }).1.discounts line.lineId } := by
  rw [promoPriced_lines distinct, promoOutcome_bare, List.map_map]
  rfl

/-- The lines of a priced cart depend on its bare lines, on the promotions it is
priced with and on its manual discounts. -/
theorem repriced_lines_eq (distinct : (cart.lines.map CartLineItem.lineId).Nodup)
    (same : cart.lines.map bare = other.lines.map bare) (discounts : cart.manualDiscounts = other.manualDiscounts)
    (promos : promosToApply tables.promos cart.appliedPromoIds = promosToApply tables.promos other.appliedPromoIds) :
    (repriced tables cart).lines = (repriced tables other).lines := by
  have ids : cart.lines.map CartLineItem.lineId = other.lines.map CartLineItem.lineId :=
    map_of_bare _ (fun _ => rfl) same
  have outcome : promoOutcome tables { cart with lines := cart.lines.map bare } =
      promoOutcome tables { other with lines := other.lines.map bare } := by
    unfold promoOutcome Cart.subtotalCents
    simp only [same, promos]
  rw [repriced_lines, repriced_lines]
  have noted : (promoPriced tables cart).manualDiscounts = (promoPriced tables other).manualDiscounts := discounts
  apply applyManual_lines _ noted
  rw [promoPriced_bare distinct, promoPriced_bare (ids ▸ distinct), outcome, same]

end Cart

inductive PromoCommand where
  | applyPromo (promoId : Uuid)
  | removePromo (promoId : Uuid)
  | addLineItem (input : AddLineItemInput)
  | updateLineItem (lineId : Uuid) (quantity : Nat) (notes : Option String)
  | removeLineItem (lineId : Uuid)

namespace PromoCommand

def edit (command : PromoCommand) (promos : List Promotion) : CartEdit :=
  match command with
  | .applyPromo promoId => .applyPromo promoId promos
  | .removePromo promoId => .removePromo promoId
  | .addLineItem input => .addLineItem input
  | .updateLineItem lineId quantity notes => .updateLineItem lineId quantity notes
  | .removeLineItem lineId => .removeLineItem lineId

/-- What is asked for once the command is acknowledged. -/
def requests (command : PromoCommand) (requested : List Uuid) : List Uuid :=
  match command with
  | .applyPromo promoId => if promoId ∈ requested then requested else requested ++ [promoId]
  | .removePromo promoId => requested.filter (· ≠ promoId)
  | .addLineItem _ | .updateLineItem .. | .removeLineItem _ => requested

end PromoCommand

/-- A command and the time it is executed at. -/
structure Timed where
  command : PromoCommand
  now : Timestamp

/-- A cart, and the promotions that were asked for and not taken back. -/
structure Asked where
  cart : Cart
  requested : List Uuid

/-- The requests that a cart starts out with are those on its record. -/
def Asked.ofCart (tables : PriceTables) (cart : Cart) : Asked :=
  { cart := cart, requested := cart.appliedPromoIds.filter fun id => tables.promos.any (·.id = id) }

def tablesAt (tables : PriceTables) (timed : Timed) : PriceTables := { tables with now := timed.now }

/-- The cart as edited, before it is priced. -/
def Asked.edited (asked : Asked) (tables : PriceTables) (timed : Timed) : Except (List PosError) Cart :=
  (timed.command.edit tables.promos).apply timed.now asked.cart

def acknowledged (tables : PriceTables) (asked : Asked) (timed : Timed) : Except (List PosError) Cart :=
  editCart (timed.command.edit tables.promos) (tablesAt tables timed) asked.cart

def ask (tables : PriceTables) (asked : Asked) (timed : Timed) : Asked :=
  match acknowledged tables asked timed with
  | .ok cart => { cart := cart, requested := timed.command.requests asked.requested }
  | .error _ => asked

/-- Every requested promotion is among those the next pricing considers. -/
def Considers (tables : PriceTables) (asked : Asked) (timed : Timed) : Prop :=
  ∀ edited ∈ (asked.edited tables timed).toOption, ∀ id ∈ timed.command.requests asked.requested,
    id ∈ (promosToApply tables.promos edited.appliedPromoIds).map Promotion.id

/-- A requested promotion earns a discount when its turn comes. -/
def Earns (tables : PriceTables) (cart : Cart) (requested : List Uuid) (progress : LineAmounts × List Uuid)
    (promo : Promotion) : Prop :=
  promo.code.isSome ∧ promo.id ∈ requested →
    isOpen tables.now promo ∧
      conditionsMet cart.lines cart.subtotalCents promo.conditions tables.categoryByItem ∧
      0 < computePromoDiscount promo.promoType cart.lines progress.1.totals promo.actions promo.conditions
        tables.categoryByItem

def AllEarn (tables : PriceTables) (cart : Cart) (requested : List Uuid) : Prop :=
  Sequence.Meets (applyPromo cart.lines tables.categoryByItem cart.subtotalCents tables.now)
    (Earns tables cart requested) (LineAmounts.ofLines cart.lines, []) (byPriority (promosToApply tables.promos requested))

/-- No promotion opens or closes, and a new line has a fresh id. -/
structure Undisturbed (tables : PriceTables) (asked : Asked) (timed : Timed) : Prop where
  windows : ∀ promo ∈ tables.promos, isOpen timed.now promo = isOpen tables.now promo
  fresh : freshLine asked.cart (timed.command.edit tables.promos)

/-- And the pricing grants all that is asked for. -/
structure Granting (tables : PriceTables) (asked : Asked) (timed : Timed) : Prop
    extends Undisturbed tables asked timed where
  grants : ∀ edited ∈ (asked.edited tables timed).toOption, (timed.command.edit tables.promos).reprices edited →
    AllEarn (tablesAt tables timed) edited (timed.command.requests asked.requested)

instance (tables : PriceTables) (cart : Cart) (requested : List Uuid) (progress : LineAmounts × List Uuid)
    (promo : Promotion) : Decidable (Earns tables cart requested progress promo) := inferInstanceAs (Decidable (_ → _))

instance (tables : PriceTables) (cart : Cart) (requested : List Uuid) : Decidable (AllEarn tables cart requested) :=
  inferInstanceAs (Decidable (Sequence.Meets ..))

instance (tables : PriceTables) (asked : Asked) (timed : Timed) : Decidable (Considers tables asked timed) :=
  inferInstanceAs (Decidable (∀ edited ∈ _, _))

instance (tables : PriceTables) (asked : Asked) (timed : Timed) : Decidable (Undisturbed tables asked timed) :=
  decidable_of_iff (_ ∧ _) ⟨fun ⟨windows, fresh⟩ => ⟨windows, fresh⟩, fun ⟨windows, fresh⟩ => ⟨windows, fresh⟩⟩

instance (tables : PriceTables) (asked : Asked) (timed : Timed) : Decidable (Granting tables asked timed) :=
  decidable_of_iff (_ ∧ _) ⟨fun ⟨quiet, grants⟩ => ⟨quiet, grants⟩, fun ⟨quiet, grants⟩ => ⟨quiet, grants⟩⟩

/-- The promotions without a code are considered whether or not they are asked for. -/
def automaticIds (promos : List Promotion) : List Uuid := (promos.filter (·.code.isNone)).map Promotion.id

/-- What is asked for exists, and is what the cart records. -/
structure Recorded (tables : PriceTables) (requested applied : List Uuid) : Prop where
  known : ∀ id ∈ requested, ∃ promo ∈ tables.promos, promo.id = id
  recorded : ∀ promo ∈ tables.promos, promo.id ∉ automaticIds tables.promos →
    (promo.id ∈ applied ↔ promo.id ∈ requested)

section Requests
variable {tables : PriceTables} {requested applied : List Uuid}

theorem mem_requests (command : PromoCommand) (id : Uuid) (same : id ∈ applied ↔ id ∈ requested) :
    id ∈ command.requests applied ↔ id ∈ command.requests requested := by
  have added (ids : List Uuid) (promoId : Uuid) :
      id ∈ (if promoId ∈ ids then ids else ids ++ [promoId]) ↔ id ∈ ids ∨ id = promoId := by
    split
    next present =>
      refine ⟨.inl, ?_⟩
      rintro (member | rfl)
      · exact member
      · exact present
    next => simp
  cases command with
  | applyPromo promoId =>
    simp only [PromoCommand.requests]
    rw [added, added, same]
  | removePromo promoId => simp [PromoCommand.requests, same]
  | addLineItem | updateLineItem | removeLineItem => exact same

/-- An edit records what it asks for. -/
theorem edited_requests {command : PromoCommand} {now : Timestamp} {cart edited : Cart}
    (did : (command.edit tables.promos).apply now cart = .ok edited) :
    edited.appliedPromoIds = command.requests cart.appliedPromoIds ∧ edited.manualDiscounts = cart.manualDiscounts := by
  cases command with
  | applyPromo promoId =>
    simp only [PromoCommand.edit, CartEdit.apply, requestPromo] at did
    simp only [PromoCommand.requests]
    split at did
    · split at did <;> cases did
      · rw [if_pos ‹_›]
        exact ⟨rfl, rfl⟩
      · rw [if_neg ‹_›]
        exact ⟨rfl, rfl⟩
    · cases did
  | removePromo promoId =>
    simp only [PromoCommand.edit, CartEdit.apply, dropPromo] at did
    split at did <;> cases did
    exact ⟨rfl, rfl⟩
  | addLineItem input =>
    cases did
    exact ⟨rfl, rfl⟩
  | updateLineItem lineId quantity notes =>
    simp only [PromoCommand.edit, CartEdit.apply, updateLine] at did
    split at did <;> cases did
    exact ⟨rfl, rfl⟩
  | removeLineItem lineId =>
    obtain ⟨position, rfl⟩ := removeLine_ok did
    exact ⟨rfl, rfl⟩

theorem Recorded.requests {command : PromoCommand} {now : Timestamp} {cart edited : Cart}
    (recorded : Recorded tables requested cart.appliedPromoIds)
    (did : (command.edit tables.promos).apply now cart = .ok edited) :
    Recorded tables (command.requests requested) edited.appliedPromoIds := by
  rw [(edited_requests did).1]
  constructor
  · intro id member
    cases command with
    | applyPromo promoId =>
      simp only [PromoCommand.edit, CartEdit.apply, requestPromo] at did
      split at did
      next exists' =>
        obtain ⟨promo, present, same⟩ := List.any_eq_true.mp exists'
        simp only [PromoCommand.requests] at member
        split at member
        · exact recorded.known id member
        · rcases List.mem_append.mp member with old | new
          · exact recorded.known id old
          · exact ⟨promo, present, (of_decide_eq_true same).trans (List.mem_singleton.mp new).symm⟩
      next => cases did
    | removePromo promoId => exact recorded.known id (List.mem_of_mem_filter member)
    | addLineItem | updateLineItem | removeLineItem => exact recorded.known id member
  · intro promo member requestable
    exact mem_requests command promo.id (recorded.recorded promo member requestable)

/-- What is considered depends on the requests that count. -/
theorem Recorded.considered (recorded : Recorded tables requested applied) :
    promosToApply tables.promos applied = promosToApply tables.promos requested := by
  unfold promosToApply
  dsimp only
  congr 1
  apply List.filter_congr
  intro promo member
  by_cases automatic : promo.id ∈ automaticIds tables.promos
  · have auto : promo.id ∈ (tables.promos.filter fun promo => promo.code.isNone).map Promotion.id := automatic
    simp only [auto, not_true_eq_false, and_false]
  · simp only [recorded.recorded promo member automatic]

theorem Recorded.considers (recorded : Recorded tables requested applied) {id : Uuid} (asked : id ∈ requested) :
    id ∈ (promosToApply tables.promos applied).map Promotion.id := by
  obtain ⟨promo, member, rfl⟩ := recorded.known id asked
  rw [recorded.considered]
  unfold promosToApply
  dsimp only
  rw [List.map_append, List.mem_append]
  by_cases automatic : promo.id ∈ automaticIds tables.promos
  · exact .inl automatic
  · right
    apply List.mem_map_of_mem
    exact List.mem_filter.mpr ⟨member, decide_eq_true ⟨asked, automatic⟩⟩

end Requests

section Granted
variable {tables : PriceTables} {cart : Cart} {requested : List Uuid}

/-- A promotion adds at most its own id to those that were granted. -/
theorem applyPromo_granted (lines : List CartLineItem) (categoryByItem : Uuid → Uuid) (subtotalCents : Nat)
    (now : Timestamp) (progress : LineAmounts × List Uuid) (promo : Promotion) :
    (applyPromo lines categoryByItem subtotalCents now progress promo).2 = progress.2 ∨
      (applyPromo lines categoryByItem subtotalCents now progress promo).2 = progress.2 ++ [promo.id] := by
  unfold applyPromo
  dsimp only
  split
  · split
    · exact .inr rfl
    · exact .inl rfl
  · exact .inl rfl

theorem granted_subset {lines : List CartLineItem} {categoryByItem : Uuid → Uuid} {subtotalCents : Nat}
    {now : Timestamp} {progress : LineAmounts × List Uuid} {promos : List Promotion} {id : Uuid}
    (granted : id ∈ (promos.foldl (applyPromo lines categoryByItem subtotalCents now) progress).2) :
    id ∈ progress.2 ∨ id ∈ promos.map Promotion.id := by
  induction promos generalizing progress with
  | nil => exact .inl granted
  | cons promo promos ih =>
    rw [List.map_cons, List.mem_cons]
    rcases ih granted with before | later
    · rcases applyPromo_granted lines categoryByItem subtotalCents now progress promo with same | more
      · exact .inl (same ▸ before)
      · rw [more] at before
        rcases List.mem_append.mp before with old | new
        · exact .inl old
        · exact .inr (.inl (List.mem_singleton.mp new))
    · exact .inr (.inr later)

theorem granted_kept {lines : List CartLineItem} {categoryByItem : Uuid → Uuid} {subtotalCents : Nat}
    {now : Timestamp} {progress : LineAmounts × List Uuid} {promos : List Promotion} {id : Uuid}
    (before : id ∈ progress.2) : id ∈ (promos.foldl (applyPromo lines categoryByItem subtotalCents now) progress).2 := by
  induction promos generalizing progress with
  | nil => exact before
  | cons promo promos ih =>
    apply ih
    rcases applyPromo_granted lines categoryByItem subtotalCents now progress promo with same | more
    · exact same ▸ before
    · exact more ▸ List.mem_append_left _ before

/-- A requested promotion that earns a discount at its turn is granted. -/
theorem granted_of_earns {progress : LineAmounts × List Uuid} {promos : List Promotion} {promo : Promotion}
    (earns : Sequence.Meets (applyPromo cart.lines tables.categoryByItem cart.subtotalCents tables.now)
      (Earns tables cart requested) progress promos)
    (member : promo ∈ promos) (coded : promo.code.isSome) (asked : promo.id ∈ requested) :
    promo.id ∈ (promos.foldl (applyPromo cart.lines tables.categoryByItem cart.subtotalCents tables.now) progress).2 := by
  induction promos generalizing progress with
  | nil => cases member
  | cons first promos ih =>
    obtain ⟨here, later⟩ := earns
    rcases List.mem_cons.mp member with rfl | rest
    · obtain ⟨opens, met, positive⟩ := here ⟨coded, asked⟩
      rw [List.foldl_cons]
      apply granted_kept
      unfold applyPromo
      dsimp only
      rw [if_pos ⟨opens, met⟩, if_pos positive]
      exact List.mem_append_right _ (List.mem_singleton_self _)
    · exact ih later rest

/-- After a pricing that grants all that is asked for, the record is the requests again. -/
theorem recorded_repriced {applied : List Uuid} (cart : Cart) (applies : cart.appliedPromoIds = applied)
    (recorded : Recorded tables requested applied) (earns : AllEarn tables cart requested) :
    Recorded tables requested (repriced tables cart).appliedPromoIds := by
  have record : (repriced tables cart).appliedPromoIds = (promoOutcome tables cart).2 := by
    unfold repriced fullyPriced applyCouponDiscounts
    rw [applyManual_frame]
    split <;> rfl
  rw [record]
  refine { known := recorded.known, recorded := ?_ }
  intro promo member requestable
  unfold promoOutcome
  rw [applies, recorded.considered]
  constructor
  · intro granted
    rcases granted_subset granted with none | considered
    · cases none
    · obtain ⟨other, present, same⟩ := List.mem_map.mp considered
      have present : other ∈ promosToApply tables.promos requested := by
        simpa only [byPriority, List.mem_insertionSort] using present
      unfold promosToApply at present
      rcases List.mem_append.mp present with automatic | requestedToo
      · exact absurd (same ▸ List.mem_map_of_mem automatic) requestable
      · have asked := (List.mem_filter.mp requestedToo).2
        simp only [decide_eq_true_eq] at asked
        exact same ▸ asked.1
  · intro asked
    have coded : promo.code.isSome := by
      by_contra automatic
      apply requestable
      apply List.mem_map_of_mem
      exact List.mem_filter.mpr ⟨member, by simpa using automatic⟩
    apply granted_of_earns earns _ coded asked
    simp only [byPriority, List.mem_insertionSort]
    unfold promosToApply
    dsimp only
    apply List.mem_append_right
    exact List.mem_filter.mpr ⟨member, decide_eq_true ⟨asked, requestable⟩⟩

/-- The time of pricing counts only through the promotions it finds open. -/
theorem repriced_at {timed : Timed} (windows : ∀ promo ∈ tables.promos, isOpen timed.now promo = isOpen tables.now promo) :
    (repriced (tablesAt tables timed) cart).lines = (repriced tables cart).lines := by
  have outcome : promoOutcome (tablesAt tables timed) cart = promoOutcome tables cart := by
    unfold promoOutcome
    apply List.foldl_ext
    intro progress promo considered
    have present : promo ∈ tables.promos := by
      have present : promo ∈ promosToApply tables.promos cart.appliedPromoIds :=
        (List.mem_insertionSort _).mp considered
      unfold promosToApply at present
      rcases List.mem_append.mp present with automatic | asked
      · exact List.mem_of_mem_filter automatic
      · exact List.mem_of_mem_filter asked
    have same : isOpen (tablesAt tables timed).now promo = isOpen tables.now promo := windows promo present
    unfold applyPromo
    rw [same]
    rfl
  rw [repriced_lines, repriced_lines]
  have lines : (promoPriced (tablesAt tables timed) cart).lines = (promoPriced tables cart).lines := by
    have results : taxedResult (tablesAt tables timed) cart = taxedResult tables cart := by
      funext line
      unfold taxedResult
      rw [outcome]
      rfl
    unfold promoPriced Cart.applyPricing
    rw [results]
  have manual (first second : Cart) (lines : first.lines = second.lines)
      (discounts : first.manualDiscounts = second.manualDiscounts) :
      (applyManualDiscountsToLines (tablesAt tables timed) first).lines =
        (applyManualDiscountsToLines tables second).lines := by
    unfold applyManualDiscountsToLines
    rw [discounts, lines]
    split
    · exact lines
    · rfl
  exact manual _ _ lines rfl

end Granted

/-- What every run of the commands keeps. -/
structure Kept (tables : PriceTables) (start : Cart) (asked : Asked) : Prop where
  distinct : (asked.cart.lines.map CartLineItem.lineId).Nodup
  discounts : asked.cart.manualDiscounts = start.manualDiscounts
  recorded : Recorded tables asked.requested asked.cart.appliedPromoIds

section Run
variable {tables : PriceTables} {start : Cart} {asked : Asked} {timed : Timed}

theorem kept_start (distinct : (start.lines.map CartLineItem.lineId).Nodup) :
    Kept tables start (Asked.ofCart tables start) := by
  refine { distinct := distinct, discounts := rfl, recorded := { known := ?_, recorded := ?_ } }
  · intro id member
    obtain ⟨promo, present, same⟩ := List.any_eq_true.mp (List.mem_filter.mp member).2
    exact ⟨promo, present, of_decide_eq_true same⟩
  · intro promo member _
    have known : tables.promos.any (·.id = promo.id) := List.any_eq_true.mpr ⟨promo, member, by simp⟩
    exact ⟨fun applied => List.mem_filter.mpr ⟨applied, known⟩, fun requested => (List.mem_filter.mp requested).1⟩

theorem Kept.edited {edited : Cart} (kept : Kept tables start asked) (undisturbed : Undisturbed tables asked timed)
    (did : asked.edited tables timed = .ok edited) :
    Kept tables start ⟨edited, timed.command.requests asked.requested⟩ :=
  { distinct := distinct_edit kept.distinct undisturbed.fresh did
    discounts := (edited_requests did).2.trans kept.discounts
    recorded := kept.recorded.requests did }

/-- An acknowledged command leaves the edited cart, priced if there is anything to price. -/
theorem acknowledged_ok {cart : Cart} (done : acknowledged tables asked timed = .ok cart) :
    ∃ edited, asked.edited tables timed = .ok edited ∧
      ((timed.command.edit tables.promos).reprices edited ∧ cart = repriced (tablesAt tables timed) edited ∨
        (timed.command.edit tables.promos).reprices edited = false ∧ cart = edited ∧ edited.lines = []) := by
  obtain ⟨edited, _, did, same⟩ := editCart_ok done
  refine ⟨edited, did, ?_⟩
  split at same
  next reprices => exact .inl ⟨reprices, same⟩
  next skips =>
    right
    refine ⟨by simpa using skips, same, ?_⟩
    cases called : timed.command with
    | removeLineItem lineId =>
      simp only [called, PromoCommand.edit, CartEdit.reprices, Bool.not_eq_true, Bool.not_eq_false'] at skips
      exact List.isEmpty_iff.mp skips
    | applyPromo | removePromo | addLineItem | updateLineItem =>
      simp [called, PromoCommand.edit, CartEdit.reprices] at skips

theorem kept_ask (tables : PriceTables) (start : Cart) (asked : Asked) (timed : Timed)
    (kept : Kept tables start asked) (granting : Granting tables asked timed) :
    Kept tables start (ask tables asked timed) := by
  unfold ask
  split
  next cart done =>
    obtain ⟨edited, did, priced⟩ := acknowledged_ok done
    have edits := kept.edited granting.toUndisturbed did
    rcases priced with ⟨reprices, rfl⟩ | ⟨_, rfl, _⟩
    · have earns := granting.grants edited (by simp [did, Except.toOption]) reprices
      have ids : (repriced (tablesAt tables timed) edited).lines.map CartLineItem.lineId =
          edited.lines.map CartLineItem.lineId := map_of_bare _ (fun _ => rfl) (repriced_bare edits.distinct)
      have recorded : Recorded (tablesAt tables timed) (timed.command.requests asked.requested)
          edited.appliedPromoIds := ⟨edits.recorded.known, edits.recorded.recorded⟩
      have again := recorded_repriced edited rfl recorded earns
      refine { distinct := ids ▸ edits.distinct, discounts := ?_, recorded := ⟨again.known, again.recorded⟩ }
      obtain ⟨_, _, _, _, _, frame⟩ := repriced_frame 
      rw [frame]
      exact edits.discounts
    · exact edits
  next => exact kept

theorem kept_run {commands : List Timed} (distinct : (start.lines.map CartLineItem.lineId).Nodup)
    (granting : Sequence.Meets (ask tables) (Granting tables) (Asked.ofCart tables start) commands) :
    Kept tables start (Sequence.run (ask tables) (Asked.ofCart tables start) commands) :=
  Sequence.keeps (kept_ask tables start) (kept_start distinct) granting

/-- Acknowledged carts with the same bare lines and the same requests have the same lines. -/
theorem lines_of_requests {other : Asked} {later : Timed} {cart last : Cart} (kept : Kept tables start asked)
    (keptOther : Kept tables start other) (undisturbed : Undisturbed tables asked timed)
    (undisturbedOther : Undisturbed tables other later) (done : acknowledged tables asked timed = .ok cart)
    (doneOther : acknowledged tables other later = .ok last) (same : cart.lines.map bare = last.lines.map bare)
    (requests : ∀ id, id ∈ timed.command.requests asked.requested ↔ id ∈ later.command.requests other.requested) :
    cart.lines = last.lines := by
  obtain ⟨edited, did, priced⟩ := acknowledged_ok done
  obtain ⟨editedOther, didOther, pricedOther⟩ := acknowledged_ok doneOther
  have edits := kept.edited undisturbed did
  have editsOther := keptOther.edited undisturbedOther didOther
  rcases priced with ⟨_, rfl⟩ | ⟨_, rfl, empty⟩
  · rcases pricedOther with ⟨_, rfl⟩ | ⟨_, rfl, empty⟩
    · rw [repriced_at undisturbed.windows, repriced_at undisturbedOther.windows]
      rw [repriced_bare edits.distinct, repriced_bare editsOther.distinct] at same
      apply repriced_lines_eq edits.distinct same (edits.discounts.trans editsOther.discounts.symm)
      have considered : promosToApply tables.promos (timed.command.requests asked.requested) =
          promosToApply tables.promos (later.command.requests other.requested) := by
        unfold promosToApply
        simp only [requests]
      exact edits.recorded.considered.trans (considered.trans editsOther.recorded.considered.symm)
    · rw [empty] at same ⊢
      simpa using same
  · rw [empty] at same ⊢
    simpa using same.symm

end Run

/-- While every pricing grants what is asked for, requested promotions are considered
by the next pricing, whatever the edits; and runs that come to the same bare lines and
the same requests price the lines alike. -/
theorem requests_stay (tables : PriceTables) {start : Cart} (distinct : (start.lines.map CartLineItem.lineId).Nodup)
    {first second : List Timed} {last other : Timed}
    (granting : Sequence.Meets (ask tables) (Granting tables) (Asked.ofCart tables start) first)
    (grantingSecond : Sequence.Meets (ask tables) (Granting tables) (Asked.ofCart tables start) second)
    (undisturbed : Undisturbed tables (Sequence.run (ask tables) (Asked.ofCart tables start) first) last)
    (undisturbedOther : Undisturbed tables (Sequence.run (ask tables) (Asked.ofCart tables start) second) other) :
    Considers tables (Sequence.run (ask tables) (Asked.ofCart tables start) first) last ∧
      ∀ cart ∈ (acknowledged tables (Sequence.run (ask tables) (Asked.ofCart tables start) first) last).toOption,
      ∀ cart' ∈ (acknowledged tables (Sequence.run (ask tables) (Asked.ofCart tables start) second) other).toOption,
        cart.lines.map bare = cart'.lines.map bare →
        (∀ id, id ∈ last.command.requests (Sequence.run (ask tables) (Asked.ofCart tables start) first).requested ↔
          id ∈ other.command.requests (Sequence.run (ask tables) (Asked.ofCart tables start) second).requested) →
        cart.lines = cart'.lines := by
  have kept := kept_run distinct granting
  have keptSecond := kept_run distinct grantingSecond
  constructor
  · intro edited did id asked
    exact (kept.edited undisturbed (ok_of_mem_toOption did)).recorded.considers asked
  · intro cart done cart' done'
    exact lines_of_requests kept keptSecond undisturbed undisturbedOther (ok_of_mem_toOption done)
      (ok_of_mem_toOption done')

section Runs
open CartStates

def emptyCart : Cart := Cart.new (.random 1) .nil .nil 0

/-- Half off the item for whoever asks for it and takes two. -/
def pairOff : Promotion :=
  { id := .random 41, code := some "PAIR", promoType := .percentageOff 5000, priority := 1, validFrom := 0
    validUntil := none, conditions := [.itemInBasket (.random 107) 2], actions := [.applyToItem (.random 107) none] }

/-- The promotion asked for before the last edit, or after it: the same line either way. -/
theorem pair_in_either_order :
    Considers (offering [pairOff]) (Sequence.run (ask (offering [pairOff])) (Asked.ofCart (offering [pairOff]) emptyCart)
        [⟨.addLineItem (line 7 1000 2), 1⟩, ⟨.applyPromo (.random 41), 2⟩]) ⟨.updateLineItem (.random 7) 4 none, 3⟩ ∧
      ∀ cart ∈ (acknowledged (offering [pairOff])
          (Sequence.run (ask (offering [pairOff])) (Asked.ofCart (offering [pairOff]) emptyCart)
            [⟨.addLineItem (line 7 1000 2), 1⟩, ⟨.applyPromo (.random 41), 2⟩])
          ⟨.updateLineItem (.random 7) 4 none, 3⟩).toOption,
      ∀ cart' ∈ (acknowledged (offering [pairOff])
          (Sequence.run (ask (offering [pairOff])) (Asked.ofCart (offering [pairOff]) emptyCart)
            [⟨.addLineItem (line 7 1000 4), 1⟩])
          ⟨.applyPromo (.random 41), 2⟩).toOption,
        cart.lines.map bare = cart'.lines.map bare →
        (∀ id, id ∈ (PromoCommand.updateLineItem (.random 7) 4 none).requests
              (Sequence.run (ask (offering [pairOff])) (Asked.ofCart (offering [pairOff]) emptyCart)
                [⟨.addLineItem (line 7 1000 2), 1⟩, ⟨.applyPromo (.random 41), 2⟩]).requested ↔
            id ∈ (PromoCommand.applyPromo (.random 41)).requests
              (Sequence.run (ask (offering [pairOff])) (Asked.ofCart (offering [pairOff]) emptyCart)
                [⟨.addLineItem (line 7 1000 4), 1⟩]).requested) →
          cart.lines = cart'.lines :=
  requests_stay (offering [pairOff]) (by decide) (by decide +kernel) (by decide +kernel) (by decide +kernel)
    (by decide +kernel)

/-- One of the two goes and comes back. -/
def oneGoesAndComesBack : List Timed :=
  [⟨.addLineItem (line 7 1000 2), 1⟩, ⟨.applyPromo (.random 41), 2⟩, ⟨.updateLineItem (.random 7) 1 none, 3⟩]

/-- A moment below the condition and the request is forgotten: the same line with the
same request costs the full price, where asking for the promotion last gives half off. -/
theorem request_is_forgotten :
    ¬Considers (offering [pairOff])
        (Sequence.run (ask (offering [pairOff])) (Asked.ofCart (offering [pairOff]) emptyCart) oneGoesAndComesBack)
        ⟨.updateLineItem (.random 7) 2 none, 4⟩ ∧
      ∃ cart ∈ (acknowledged (offering [pairOff])
          (Sequence.run (ask (offering [pairOff])) (Asked.ofCart (offering [pairOff]) emptyCart) oneGoesAndComesBack)
          ⟨.updateLineItem (.random 7) 2 none, 4⟩).toOption,
      ∃ cart' ∈ (acknowledged (offering [pairOff])
          (Sequence.run (ask (offering [pairOff])) (Asked.ofCart (offering [pairOff]) emptyCart)
            [⟨.addLineItem (line 7 1000 2), 1⟩]) ⟨.applyPromo (.random 41), 2⟩).toOption,
        cart.lines.map bare = cart'.lines.map bare ∧
          (PromoCommand.updateLineItem (.random 7) 2 none).requests
              (Sequence.run (ask (offering [pairOff])) (Asked.ofCart (offering [pairOff]) emptyCart)
                oneGoesAndComesBack).requested =
            (PromoCommand.applyPromo (.random 41)).requests
              (Sequence.run (ask (offering [pairOff])) (Asked.ofCart (offering [pairOff]) emptyCart)
                [⟨.addLineItem (line 7 1000 2), 1⟩]).requested ∧
          cart.lines ≠ cart'.lines := by
  decide +kernel

end Runs

end ApexEdge.Proofs.PromoRequests
