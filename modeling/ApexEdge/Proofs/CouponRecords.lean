import ApexEdge.Library.Totals
import ApexEdge.Proofs.FinishedCarts

/-! A coupon counts once, on a cart and against its limit. A record is known by the code
of its promotion, so that each coupon's promotion must have the coupon's own code; and
how often a coupon was redeemed is not counted. -/

namespace ApexEdge.Proofs.CouponRecords
open Library Payment Domain Storage Contracts Pos
open CartPricing CartStore CouponStore

/-! What is claimed. -/

/-- What one coupon takes off a cart. -/
def couponShare (cart : Cart) (sources : List CouponDefinition) (coupon : CouponDefinition) : Nat :=
  (((sources.zip cart.appliedCoupons).find? (·.1.id = coupon.id)).map (·.2.discountCents)).getD 0

/-- Each coupon has one record on the cart at most, and counts once in its discount. -/
structure CountedOnce (definitions : List CouponDefinition) (cart : Cart) (sources : List CouponDefinition) : Prop where
  records : sources.length = cart.appliedCoupons.length
  once : (sources.map CouponDefinition.id).Nodup
  discount : cart.discountCents =
    (cart.lines.map CartLineItem.discountCents).sum + (definitions.map (couponShare cart sources)).sum

def redeemed (store : CouponStore) (couponId : Uuid) : Nat :=
  (store.redemptions.flatMap Prod.snd).countP (·.id = couponId)

structure CouponsHold (definitions : List CouponDefinition) (store : CouponStore) : Prop where
  counted : ∀ id cart, Carts.load id store.db.carts = some cart → CountedOnce definitions cart (store.sources id)
  limited : ∀ coupon ∈ definitions, ∀ limit ∈ coupon.maxRedemptionsTotal, redeemed store coupon.id ≤ limit

/-! When it holds. -/

/-- The cart has the coupon and can still be finalized with it. -/
def has (store : CouponStore) (couponId id : Uuid) : Bool :=
  (Carts.load id store.db.carts).any (·.state ≠ .finalized) && (store.sources id).any (·.id = couponId)

def holders (store : CouponStore) (couponId : Uuid) : Finset Uuid :=
  (store.db.carts.map CartRow.id).toFinset.filter fun id => has store couponId id

/-- The promotion of the coupon has the code that was entered. -/
def OwnCode (definitions : List CouponDefinition) (toUppercase : String → String) (command : CouponCommand) : Prop :=
  match command with
  | .applyCoupon _ entered promos _ =>
    ∀ coupon ∈ getCouponDefinitionByCode (couponCode toUppercase entered) definitions,
      ∀ promo ∈ promos.find? (·.id = coupon.promoId), ∀ promoCode ∈ promo.code,
        eqIgnoreAsciiCase promoCode (couponCode toUppercase entered) = true
  | .other _ => True

/-- The coupons that a command may put on a cart. -/
def puts (definitions : List CouponDefinition) (toUppercase : String → String) (store : CouponStore)
    (command : CouponCommand) : List (Uuid × CouponDefinition) :=
  match command with
  | .applyCoupon cartId entered _ tables =>
    ((getCouponDefinitionByCode (couponCode toUppercase entered) definitions).toList.filter fun coupon =>
      (coupon.refusal 0 (some 0) tables.now).isNone).map (cartId, ·)
  | .other ⟨.recallCart parkedCartId registerId now, _⟩ =>
    match (ParkedCarts.claim parkedCartId registerId now store.db.parked).1 with
    | .claimed cart _ => (store.parkedSources parkedCartId).map (cart.id, ·)
    | _ => []
  | .other _ => []

/-- A coupon with a limit is put on a further cart only while the redemptions, and the
carts that may yet redeem it, are fewer. -/
def WithinLimit (definitions : List CouponDefinition) (toUppercase : String → String) (store : CouponStore)
    (command : CouponCommand) : Prop :=
  ∀ put ∈ puts definitions toUppercase store command, ∀ limit ∈ put.2.maxRedemptionsTotal,
    put.1 ∈ holders store put.2.id ∨ redeemed store put.2.id + (holders store put.2.id).card < limit

def Allowed (definitions : List CouponDefinition) (toUppercase : String → String) (store : CouponStore)
    (command : CouponCommand) : Prop :=
  OwnCode definitions toUppercase command ∧ WithinLimit definitions toUppercase store command

instance (definitions : List CouponDefinition) (toUppercase : String → String) (command : CouponCommand) :
    Decidable (OwnCode definitions toUppercase command) := by
  unfold OwnCode
  split <;> infer_instance

instance (definitions : List CouponDefinition) (toUppercase : String → String) (store : CouponStore)
    (command : CouponCommand) : Decidable (WithinLimit definitions toUppercase store command) :=
  inferInstanceAs (Decidable (∀ put ∈ puts definitions toUppercase store command, _))

instance (definitions : List CouponDefinition) (toUppercase : String → String) (store : CouponStore)
    (command : CouponCommand) : Decidable (Allowed definitions toUppercase store command) :=
  inferInstanceAs (Decidable (_ ∧ _))

/-! One cart and its coupons. -/

/-- The records have the codes of the definitions they come from, all different. -/
structure Tracked (definitions : List CouponDefinition) (cart : Cart) (sources : List CouponDefinition) : Prop where
  codes : cart.appliedCoupons.map (asciiLower ·.code) = sources.map (asciiLower ·.code)
  distinct : (sources.map (asciiLower ·.code)).Nodup
  defined : ∀ coupon ∈ sources, coupon ∈ definitions

section Tracked
variable {definitions : List CouponDefinition} {cart changed edited : Cart} {sources : List CouponDefinition}
  {tables : PriceTables} {wanted : CartChange}

theorem Tracked.none (none : cart.appliedCoupons = []) : Tracked definitions cart [] :=
  ⟨by rw [none]; rfl, by simp, by simp⟩

theorem Tracked.ids (tracked : Tracked definitions cart sources) (keyed : (definitions.map CouponDefinition.id).Nodup) :
    (sources.map CouponDefinition.id).Nodup := by
  refine (List.Nodup.of_map _ tracked.distinct).map_on ?_
  intro coupon mine other yours same
  exact List.inj_on_of_nodup_map keyed (tracked.defined coupon mine) (tracked.defined other yours) same

/-- A cart with the same codes on it. -/
theorem Tracked.same (tracked : Tracked definitions cart sources)
    (codes : changed.appliedCoupons.map (asciiLower ·.code) = cart.appliedCoupons.map (asciiLower ·.code)) :
    Tracked definitions changed sources :=
  ⟨codes.trans tracked.codes, tracked.distinct, tracked.defined⟩

theorem priceCoupons_codes (tables : PriceTables) (net : Nat) (coupons : List AppliedCouponRecord) :
    (priceCoupons tables net coupons).map (asciiLower ·.code) = coupons.map (asciiLower ·.code) := by
  induction coupons generalizing net with
  | nil => rfl
  | cons coupon coupons ih =>
    have same : (priceCoupon tables net coupon).code = coupon.code := by
      unfold priceCoupon
      split
      · rfl
      · split <;> rfl
    simp only [priceCoupons, List.map_cons, same, ih]

/-- Pricing changes what the coupons take off and their ids, but not their codes. -/
theorem repriced_codes : (repriced tables cart).appliedCoupons.map (asciiLower ·.code) =
    cart.appliedCoupons.map (asciiLower ·.code) := by
  have priced : (fullyPriced tables cart).appliedCoupons.map (asciiLower ·.code) =
      cart.appliedCoupons.map (asciiLower ·.code) := by
    unfold fullyPriced applyCouponDiscounts
    rw [applyManual_frame]
    exact priceCoupons_codes tables _ cart.appliedCoupons
  unfold repriced
  split <;> exact priced

theorem Tracked.repriced (tracked : Tracked definitions cart sources) :
    Tracked definitions (CartPricing.repriced tables cart) sources := tracked.same repriced_codes

/-- The coupons that are not removed, and their sources. -/
theorem Tracked.kept (tracked : Tracked definitions cart sources) (keep : AppliedCouponRecord → Bool)
    (coupons : edited.appliedCoupons = cart.appliedCoupons.filter keep) :
    Tracked definitions edited (((cart.appliedCoupons.zip sources).filter fun pair => keep pair.1).map Prod.snd) := by
  have sub : (((cart.appliedCoupons.zip sources).filter fun pair => keep pair.1).map Prod.snd).Sublist sources := by
    refine (List.filter_sublist.map Prod.snd).trans ?_
    rw [List.map_snd_zip (by simpa using (congrArg List.length tracked.codes).ge)]
  refine ⟨?_, tracked.distinct.sublist (sub.map _), fun coupon member => tracked.defined coupon (sub.subset member)⟩
  rw [coupons]
  have codes := tracked.codes
  generalize cart.appliedCoupons = records at codes
  clear tracked sub coupons
  induction records generalizing sources with
  | nil => rfl
  | cons record records ih =>
    cases sources with
    | nil => cases codes
    | cons source sources =>
      obtain ⟨own, rest⟩ := List.cons.inj codes
      cases stays : keep record with
      | true => simpa [stays, own] using ih rest
      | false => simpa [stays] using ih rest

theorem Tracked.afterEdit {edit : CartEdit} {now : Timestamp} (tracked : Tracked definitions cart sources)
    (did : edit.apply now cart = .ok edited) (plain : ∀ code coupon promos, edit ≠ .applyCoupon code coupon promos) :
    Tracked definitions edited (left (.edit edit tables) cart sources) := by
  cases edit with
  | applyCoupon code coupon promos => exact absurd rfl (plain code coupon promos)
  | removeCoupon couponId =>
    simp only [CartEdit.apply, dropCoupon] at did
    split at did
    · cases did
    · refine tracked.kept (·.couponId ≠ couponId) ?_
      rw [← Except.ok.inj did]
  | addLineItem input =>
    cases did
    exact tracked.same rfl
  | updateLineItem lineId quantity notes =>
    simp only [CartEdit.apply, updateLine] at did
    split at did <;> cases did
    exact tracked.same rfl
  | removeLineItem lineId =>
    obtain ⟨position, rfl⟩ := removeLine_ok did
    exact tracked.same rfl
  | applyPromo promoId promos =>
    simp only [CartEdit.apply, requestPromo] at did
    split at did
    · split at did <;> cases did <;> exact tracked.same rfl
    · cases did
  | removePromo promoId =>
    simp only [CartEdit.apply, dropPromo] at did
    split at did <;> cases did
    exact tracked.same rfl

/-- A change that is not an ApplyCoupon leaves some of the coupons on the cart. -/
theorem Tracked.change (tracked : Tracked definitions cart sources) (did : wanted.apply cart = .ok changed)
    (plain : ∀ code coupon promos tables, wanted ≠ .edit (.applyCoupon code coupon promos) tables) :
    Tracked definitions changed (left wanted cart sources) := by
  cases wanted with
  | setCustomer customerId now =>
    cases did
    exact tracked.same rfl
  | edit edit tables =>
    obtain ⟨edited, _, applied, rfl⟩ := editCart_ok did
    have after : Tracked definitions edited (left (.edit edit tables) cart sources) := tracked.afterEdit applied fun code coupon promos same =>
      plain code coupon promos tables (congrArg (CartChange.edit · tables) same)
    split
    · exact after.repriced
    · exact after
  | applyManualDiscount p tables =>
    obtain ⟨noted, added, rfl⟩ := discountCart_ok did
    obtain ⟨_, _, _, _, rfl⟩ := addManualDiscount_ok added
    refine tracked.same ?_
    rw [applyManual_frame]
    rfl
  | setTendering now =>
    simp only [CartChange.apply, startTendering] at did
    split at did <;> cases did
    exact tracked.same rfl
  | addPayment input now =>
    simp only [CartChange.apply, Cart.addPayment] at did
    split at did <;> cases did
    next added =>
      split at added <;> cases added
      split <;> exact tracked.same rfl
  | voidCart now =>
    simp only [CartChange.apply] at did
    split at did <;> cases did
    exact .none rfl
  | finalizeOrder orderId now =>
    simp only [CartChange.apply] at did
    split at did <;> cases did
    exact tracked.same rfl

/-- An ApplyCoupon that succeeds has found a coupon that is not refused, with a
promotion that has a code. -/
theorem applyCoupon_ok {toUppercase : String → String} {entered : String} {promos : List Promotion}
    (did : applyCoupon definitions toUppercase entered promos tables cart = .ok changed) :
    ∃ coupon promo promoCode, getCouponDefinitionByCode (couponCode toUppercase entered) definitions = some coupon ∧
      promos.find? (·.id = coupon.promoId) = some promo ∧ promo.code = some promoCode ∧
      ensureEditable cart = .ok () ∧ coupon.refusal 0 (some 0) tables.now = none ∧
      changed = CartPricing.repriced tables
        (if cart.appliedCoupons.any (eqIgnoreAsciiCase ·.code (couponCode toUppercase entered)) then cart
        else { cart with appliedCoupons := cart.appliedCoupons ++ [⟨coupon.id, promoCode, 0⟩] }) := by
  unfold applyCoupon at did
  cases editable : ensureEditable cart with
  | error errors => simp [editable, bind, Except.bind] at did
  | ok _ =>
    simp only [editable, bind, Except.bind] at did
    split at did
    · cases did
    · cases found : getCouponDefinitionByCode (couponCode toUppercase entered) definitions with
      | none => simp [found] at did
      | some coupon =>
        simp only [found] at did
        obtain ⟨edited, _, applied, rfl⟩ := editCart_ok did
        simp only [CartEdit.apply, addCoupon] at applied
        cases linked : promos.find? (·.id = coupon.promoId) with
        | none => simp [linked] at applied
        | some promo =>
          simp only [linked, CouponDefinition.checkEligibility] at applied
          cases refused : coupon.refusal 0 (some 0) tables.now with
          | some reason => simp [refused] at applied
          | none =>
            cases coded : promo.code with
            | none => simp [refused, coded] at applied
            | some promoCode =>
              simp only [refused, coded, Option.isNone_none, Bool.not_true, Bool.false_eq_true, if_false] at applied
              refine ⟨coupon, promo, promoCode, rfl, linked, coded, rfl, refused, ?_⟩
              have priced : (CartEdit.applyCoupon (couponCode toUppercase entered) coupon promos).reprices edited = true := rfl
              rw [if_pos priced]
              split at applied
              next there =>
                rw [if_pos there]
                exact congrArg _ (Except.ok.inj applied).symm
              next absent =>
                rw [if_neg absent]
                exact congrArg _ (Except.ok.inj applied).symm

theorem Tracked.applied {toUppercase : String → String} {cartId : Uuid} {entered : String} {promos : List Promotion}
    (tracked : Tracked definitions cart sources)
    (own : OwnCode definitions toUppercase (.applyCoupon cartId entered promos tables))
    (did : applyCoupon definitions toUppercase entered promos tables cart = .ok changed) :
    Tracked definitions changed (if changed.appliedCoupons.length = cart.appliedCoupons.length then sources
      else sources ++ (getCouponDefinitionByCode (couponCode toUppercase entered) definitions).toList) := by
  obtain ⟨coupon, promo, promoCode, found, linked, coded, _, _, rfl⟩ := applyCoupon_ok did
  have same := own coupon found promo linked promoCode coded
  generalize couponCode toUppercase entered = code at *
  have length (cart : Cart) : (CartPricing.repriced tables cart).appliedCoupons.length = cart.appliedCoupons.length := by
    simpa using congrArg List.length (@repriced_codes cart tables)
  rw [length]
  by_cases there : cart.appliedCoupons.any (eqIgnoreAsciiCase ·.code code) = true
  · rw [if_pos there, if_pos rfl]
    exact tracked.repriced
  · have own : eqIgnoreAsciiCase coupon.code code = true := by
      have chosen := found
      unfold getCouponDefinitionByCode at chosen
      simpa using List.find?_some chosen
    rw [if_neg there, if_neg (by simp), found]
    simp only [eqIgnoreAsciiCase, decide_eq_true_eq] at own same there
    refine Tracked.repriced ⟨?_, ?_, ?_⟩
    · simp [tracked.codes, same, own]
    · rw [List.map_append, List.nodup_append]
      refine ⟨tracked.distinct, by simp, ?_⟩
      intro mine member other listed clash
      rw [← tracked.codes] at member
      obtain ⟨record, present, rfl⟩ := List.mem_map.mp member
      simp only [Option.toList_some, List.map_cons, List.map_nil, List.mem_singleton] at listed
      exact there (List.any_eq_true.mpr ⟨record, present, decide_eq_true (clash.trans (listed.trans own))⟩)
    · intro source member
      rcases List.mem_append.mp member with old | new
      · exact tracked.defined source old
      · simp only [Option.toList_some, List.mem_singleton] at new
        exact new ▸ List.mem_of_find?_eq_some found

/-- The records of a tracked cart are told apart by the definitions they come from, so
that the cart's discount is the sum of what each definition takes off. -/
theorem Tracked.countedOnce (tracked : Tracked definitions cart sources)
    (keyed : (definitions.map CouponDefinition.id).Nodup) : CountedOnce definitions cart sources := by
  have length : sources.length = cart.appliedCoupons.length := by
    simpa using (congrArg List.length tracked.codes).symm
  refine ⟨length, tracked.ids keyed, ?_⟩
  let rows := sources.zip cart.appliedCoupons
  have unique : (rows.map (·.1.id)).Nodup := by
    have firsts : rows.map Prod.fst = sources := List.map_fst_zip length.le
    have ids := tracked.ids keyed
    rw [← firsts, List.map_map] at ids
    exact ids
  have known : ∀ row ∈ rows, row.1.id ∈ definitions.map CouponDefinition.id := fun row member =>
    List.mem_map_of_mem (tracked.defined row.1 (List.of_mem_zip member).1)
  have shares := Table.sum_by_key keyed known (·.2.discountCents)
  rw [List.map_map] at shares
  have each : definitions.map (couponShare cart sources) =
      definitions.map ((fun id => ((rows.filter (·.1.id = id)).map (·.2.discountCents)).sum) ∘ CouponDefinition.id) :=
    List.map_congr_left fun coupon _ => (Table.sum_filter_key unique coupon.id _).symm
  have records : rows.map (·.2.discountCents) = cart.appliedCoupons.map AppliedCouponRecord.discountCents := by
    have seconds : rows.map Prod.snd = cart.appliedCoupons := List.map_snd_zip length.ge
    rw [← seconds, List.map_map]
    rfl
  rw [each, shares, records]
  rfl

end Tracked

/-! The store. -/

/-- Every cart is tracked, parked or not, and no coupon can go over its limit by the
carts that have it. -/
structure Sound (definitions : List CouponDefinition) (store : CouponStore) : Prop where
  stored : ∀ id cart, Carts.load id store.db.carts = some cart → cart.id = id ∧ Tracked definitions cart (store.sources id)
  parked : ∀ row ∈ store.db.parked, Tracked definitions row.cartData (store.parkedSources row.id)
  limited : ∀ coupon ∈ definitions, ∀ limit ∈ coupon.maxRedemptionsTotal,
    redeemed store coupon.id + (holders store coupon.id).card ≤ limit

section Store
variable {definitions : List CouponDefinition} {toUppercase : String → String} {store : CouponStore} {cart : Cart}
  {sources : List CouponDefinition} {couponId id : Uuid}

theorem mem_holders : id ∈ holders store couponId ↔ has store couponId id = true := by
  unfold holders
  rw [Finset.mem_filter, List.mem_toFinset]
  refine and_iff_right_of_imp fun held => ?_
  obtain ⟨active, _⟩ := Bool.and_eq_true_iff.mp held
  unfold Carts.load at active
  cases found : store.db.carts.find? (·.id = id) with
  | none => simp [found] at active
  | some row =>
    have own : row.id = id := by simpa using List.find?_some found
    exact own ▸ List.mem_map_of_mem (List.mem_of_find?_eq_some found)

/-- A cart with these coupons can still be finalized with this one. -/
def holds (cart : Cart) (sources : List CouponDefinition) (couponId : Uuid) : Bool :=
  cart.state ≠ .finalized && sources.any (·.id = couponId)

theorem holders_put : holders (store.put cart sources) couponId =
    if holds cart sources couponId then insert cart.id (holders store couponId)
    else (holders store couponId).erase cart.id := by
  ext id
  have now : has (store.put cart sources) couponId id =
      if id = cart.id then holds cart sources couponId else has store couponId id := by
    unfold has put CartTables.save
    dsimp only
    rw [Carts.load_save]
    by_cases own : id = cart.id
    · subst own
      simp [holds]
    · simp [own]
  rw [mem_holders, now]
  cases held : holds cart sources couponId <;> by_cases own : id = cart.id <;> simp [own, mem_holders]

theorem Sound.has_iff (sound : Sound definitions store) (loaded : Carts.load id store.db.carts = some cart) :
    cart.id ∈ holders store couponId ↔ holds cart (store.sources id) couponId = true := by
  rw [(sound.stored id cart loaded).1, mem_holders, has, loaded, holds]
  simp

/-- Putting a cart is sound when the coupons that come to it have room below their limits. -/
theorem Sound.put (sound : Sound definitions store) (tracked : Tracked definitions cart sources)
    (room : ∀ coupon ∈ definitions, ∀ limit ∈ coupon.maxRedemptionsTotal, holds cart sources coupon.id = true →
      cart.id ∈ holders store coupon.id ∨ redeemed store coupon.id + (holders store coupon.id).card < limit) :
    Sound definitions (store.put cart sources) where
  stored id loaded found := by
    unfold CouponStore.put CartTables.save at found
    rw [Carts.load_save] at found
    by_cases own : id = cart.id
    · rw [if_pos own] at found
      cases found
      refine ⟨own.symm, ?_⟩
      rw [own]
      simpa [CouponStore.put] using tracked
    · rw [if_neg own] at found
      simpa [CouponStore.put, own] using sound.stored id loaded found
  parked := sound.parked
  limited coupon defined limit limits := by
    have before := sound.limited coupon defined limit limits
    rw [holders_put]
    show redeemed store coupon.id + _ ≤ limit
    by_cases held : holds cart sources coupon.id = true
    · rw [if_pos held]
      rcases room coupon defined limit limits held with already | free
      · rw [Finset.insert_eq_of_mem already]
        exact before
      · have more := Finset.card_insert_le cart.id (holders store coupon.id)
        omega
    · rw [if_neg held]
      have less := Finset.card_le_card (Finset.erase_subset cart.id (holders store coupon.id))
      omega

/-- A change keeps a finalized cart finalized, and puts no coupon on the cart. -/
theorem holds_change {wanted : CartChange} {changed : Cart} (did : wanted.apply cart = .ok changed)
    (held : holds changed (left wanted cart sources) couponId = true) : holds cart sources couponId = true := by
  unfold holds at held ⊢
  rw [Bool.and_eq_true_iff] at held ⊢
  constructor
  · refine decide_eq_true fun finalized => ?_
    exact of_decide_eq_true held.1 ((FinishedCarts.change_finished (.inl finalized) did).state.trans finalized)
  · obtain ⟨coupon, member, own⟩ := List.any_eq_true.mp held.2
    refine List.any_eq_true.mpr ⟨coupon, ?_, own⟩
    unfold left at member
    split at member
    · obtain ⟨pair, listed, rfl⟩ := List.mem_map.mp member
      exact (List.of_mem_zip (List.mem_filter.mp listed).1).2
    · cases member
    · exact member

/-- Finalizing a cart turns its coupons into redemptions. -/
theorem Sound.finalize (sound : Sound definitions store) (keyed : (definitions.map CouponDefinition.id).Nodup)
    {orderId : Uuid} {now : Timestamp} {changed : Cart} (loaded : Carts.load id store.db.carts = some cart)
    (did : (CartChange.finalizeOrder orderId now).apply cart = .ok changed) :
    Sound definitions { store.put changed (store.sources id) with
      redemptions := store.redemptions ++ [(orderId, store.sources id)] } := by
  obtain ⟨own, tracked⟩ := sound.stored id cart loaded
  have same : changed.id = cart.id := FinishedCarts.change_id did
  have states : cart.state = .paid ∧ changed.state = .finalized := by
    simp only [CartChange.apply] at did
    split at did <;> cases did
    next built => exact ⟨(Cart.toOrder_paid built).1, rfl⟩
  have plain := sound.put (tracked.change did fun _ _ _ _ => CartChange.noConfusion) fun coupon _ _ _ held => by
    simp [holds, states.2] at held
  refine { stored := plain.stored, parked := plain.parked, limited := ?_ }
  intro coupon defined limit limits
  have before := sound.limited coupon defined limit limits
  have after : holders (store.put changed (store.sources id)) coupon.id = (holders store coupon.id).erase cart.id := by
    rw [holders_put, if_neg (by simp [holds, states.2]), same]
  have more : redeemed { store.put changed (store.sources id) with
      redemptions := store.redemptions ++ [(orderId, store.sources id)] } coupon.id =
      redeemed store coupon.id + (store.sources id).countP (·.id = coupon.id) := by
    unfold redeemed
    simp
  have once : (store.sources id).countP (·.id = coupon.id) ≤ 1 := by
    have count := List.nodup_iff_count_le_one.mp (tracked.ids keyed) coupon.id
    rw [List.count, List.countP_map] at count
    refine le_trans (le_of_eq (List.countP_congr fun other _ => ?_)) count
    simp
  rw [more]
  show _ + (holders (store.put changed (store.sources id)) coupon.id).card ≤ limit
  rw [after]
  by_cases held : holds cart (store.sources id) coupon.id = true
  · rw [Finset.card_erase_of_mem ((sound.has_iff loaded).mpr held)]
    have some : 0 < (holders store coupon.id).card := Finset.card_pos.mpr ⟨_, (sound.has_iff loaded).mpr held⟩
    omega
  · have none : (store.sources id).countP (·.id = coupon.id) = 0 := by
      refine List.countP_eq_zero.mpr fun other member listed => held ?_
      simp only [holds, states.1, Bool.and_eq_true]
      exact ⟨by decide, List.any_eq_true.mpr ⟨other, member, listed⟩⟩
    have less := Finset.card_le_card (Finset.erase_subset cart.id (holders store coupon.id))
    omega

/-- An ApplyCoupon adds one coupon at most, which has room. -/
theorem Sound.apply (sound : Sound definitions store) (keyed : (definitions.map CouponDefinition.id).Nodup)
    {cartId : Uuid} {entered : String} {promos : List Promotion} {tables : PriceTables} {changed : Cart}
    (allowed : Allowed definitions toUppercase store (.applyCoupon cartId entered promos tables))
    (loaded : Carts.load cartId store.db.carts = some cart)
    (did : applyCoupon definitions toUppercase entered promos tables cart = .ok changed) :
    Sound definitions (store.put changed (if changed.appliedCoupons.length = cart.appliedCoupons.length
      then store.sources cartId
      else store.sources cartId ++ (getCouponDefinitionByCode (couponCode toUppercase entered) definitions).toList)) := by
  obtain ⟨own, tracked⟩ := sound.stored cartId cart loaded
  refine sound.put (tracked.applied allowed.1 did) fun coupon defined limit limits held => ?_
  obtain ⟨found, promo, promoCode, known, _, _, editable, accepted, priced⟩ := applyCoupon_ok did
  have same : changed.id = cart.id := by
    obtain ⟨_, _, _, _, _, frame⟩ := @repriced_frame tables
      (if cart.appliedCoupons.any (eqIgnoreAsciiCase ·.code (couponCode toUppercase entered)) then cart
        else { cart with appliedCoupons := cart.appliedCoupons ++ [⟨found.id, promoCode, 0⟩] })
    rw [priced, frame]
    dsimp only
    split <;> rfl
  have active : cart.state ≠ .finalized := by
    rcases ensureEditable_ok editable with state | state | state <;> simp [state]
  -- the coupon was on the cart, or is the one that was found
  obtain ⟨source, member, listed⟩ := List.any_eq_true.mp (Bool.and_eq_true_iff.mp held).2
  rw [known] at member
  have either : source ∈ store.sources cartId ∨ source = found := by
    split at member
    · exact .inl member
    · simpa using member
  rw [same]
  rcases either with old | rfl
  · left
    rw [sound.has_iff loaded, holds, Bool.and_eq_true_iff]
    exact ⟨decide_eq_true active, List.any_eq_true.mpr ⟨source, old, listed⟩⟩
  · obtain rfl : source = coupon := List.inj_on_of_nodup_map keyed (List.mem_of_find?_eq_some known) defined
      (of_decide_eq_true listed)
    have room := allowed.2 (cartId, source) (by simp [puts, known, accepted]) limit limits
    rw [own]
    exact room

theorem claim_found {parkedCartId registerId register : Uuid} {now : Timestamp} {rows : List ParkedCartRow}
    (claimed : (ParkedCarts.claim parkedCartId registerId now rows).1 = .claimed cart register) :
    ∃ row ∈ rows, row.id = parkedCartId ∧ row.cartData = cart := by
  unfold ParkedCarts.claim at claimed
  dsimp only at claimed
  cases found : rows.find? (·.id = parkedCartId) with
  | none =>
    rw [found] at claimed
    split at claimed <;> cases claimed
  | some row =>
    rw [found] at claimed
    refine ⟨row, List.mem_of_find?_eq_some found, by simpa using List.find?_some found, ?_⟩
    split at claimed <;> cases claimed
    rfl

theorem claim_kept {parkedCartId registerId : Uuid} {now : Timestamp} {rows : List ParkedCartRow} {row : ParkedCartRow}
    (member : row ∈ (ParkedCarts.claim parkedCartId registerId now rows).2) :
    ∃ old ∈ rows, row.id = old.id ∧ row.cartData = old.cartData := by
  unfold ParkedCarts.claim at member
  dsimp only at member
  split at member
  · obtain ⟨old, present, rfl⟩ := List.mem_map.mp member
    exact ⟨old, present, Table.Update.row_column _ ParkedCartRow.id (fun _ => rfl) old,
      Table.Update.row_column _ ParkedCartRow.cartData (fun _ => rfl) old⟩
  · exact ⟨row, member, rfl, rfl⟩

/-- Claiming leaves the snapshots as they are. -/
theorem Sound.claimed (sound : Sound definitions store) (parkedCartId registerId : Uuid) (now : Timestamp) :
    Sound definitions { store with
      db := { store.db with parked := (ParkedCarts.claim parkedCartId registerId now store.db.parked).2 } } where
  stored := sound.stored
  parked row member := by
    obtain ⟨old, present, id, same⟩ := claim_kept member
    have tracked := sound.parked old present
    rw [← id, ← same] at tracked
    exact tracked
  limited := sound.limited

theorem Sound.park (sound : Sound definitions store) {parkedCartId storeId registerId : Uuid} {note : Option String}
    {now : Timestamp} {rows : List ParkedCartRow} (loaded : Carts.load id store.db.carts = some cart)
    (parked : ParkedCarts.park (ParkedCarts.newRow parkedCartId storeId registerId note cart now) store.db.parked = .ok rows) :
    Sound definitions { store with
      db := { store.db with parked := rows }
      parkedSources := Function.update store.parkedSources parkedCartId (store.sources id) } where
  stored := sound.stored
  parked row member := by
    unfold ParkedCarts.park at parked
    split at parked
    · cases parked
    next fresh =>
      cases parked
      rcases List.mem_append.mp member with old | new
      · have other : row.id ≠ parkedCartId := fun same =>
          fresh (List.any_eq_true.mpr ⟨row, old, decide_eq_true same⟩)
        simpa [other] using sound.parked row old
      · cases List.mem_singleton.mp new
        simpa [ParkedCarts.newRow] using (sound.stored id cart loaded).2
  limited := sound.limited

theorem Sound.other (sound : Sound definitions store) (keyed : (definitions.map CouponDefinition.id).Nodup)
    {command : CartCommand} (plain : command.appliesCoupon = false)
    (within : WithinLimit definitions toUppercase store (.other ⟨command, plain⟩)) :
    Sound definitions (store.applyOther command) := by
  cases command with
  | createCart cartId storeId registerId now =>
    exact sound.put (.none rfl) fun _ _ _ _ held => by simp [holds] at held
  | changeCart cartId wanted =>
    simp only [applyOther]
    cases loaded : Carts.load cartId store.db.carts with
    | none => exact sound
    | some cart =>
      dsimp only
      cases did : wanted.apply cart with
      | error errors => exact sound
      | ok changed =>
        have none : ∀ code coupon promos tables, wanted ≠ .edit (.applyCoupon code coupon promos) tables := by
          rintro code coupon promos tables rfl
          cases plain
        have kept := sound.put ((sound.stored cartId cart loaded).2.change did none) fun coupon _ _ _ held => by
          rw [FinishedCarts.change_id did]
          exact .inl ((sound.has_iff loaded).mpr (holds_change did held))
        cases wanted with
        | finalizeOrder orderId now => exact sound.finalize keyed loaded did
        | _ =>
          simp only [redeems, List.append_nil]
          exact kept
  | parkCart cartId parkedCartId storeId registerId note now =>
    simp only [applyOther, CartCommand.execute, parkCart]
    cases loaded : Carts.load cartId store.db.carts with
    | none => exact sound
    | some cart =>
      dsimp only
      cases parked : ParkedCarts.park (ParkedCarts.newRow parkedCartId storeId registerId note cart now) store.db.parked with
      | error error => exact sound
      | ok rows => exact sound.park loaded parked
  | recallCart parkedCartId registerId now =>
    have after := sound.claimed parkedCartId registerId now
    simp only [applyOther]
    cases claim : ParkedCarts.claim parkedCartId registerId now store.db.parked with
    | mk outcome rows =>
      rw [claim] at after
      cases outcome with
      | claimed snapshot register =>
        obtain ⟨row, present, own, same⟩ := claim_found (congrArg Prod.fst claim)
        have tracked := sound.parked row present
        rw [own, same] at tracked
        refine after.put tracked fun coupon defined limit limits held => ?_
        obtain ⟨source, member, listed⟩ := List.any_eq_true.mp (Bool.and_eq_true_iff.mp held).2
        obtain rfl : source = coupon := List.inj_on_of_nodup_map keyed (tracked.defined source member) defined
          (of_decide_eq_true listed)
        exact within (snapshot.id, source) (by simp [puts, claim, member]) limit limits
      | alreadyClaimed => exact after
      | notFound => exact after

theorem Sound.step (sound : Sound definitions store) (keyed : (definitions.map CouponDefinition.id).Nodup)
    (command : CouponCommand) (allowed : Allowed definitions toUppercase store command) :
    Sound definitions (store.apply definitions toUppercase command) := by
  cases command with
  | applyCoupon cartId entered promos tables =>
    simp only [CouponStore.apply]
    cases loaded : Carts.load cartId store.db.carts with
    | none => exact sound
    | some cart =>
      dsimp only
      cases did : applyCoupon definitions toUppercase entered promos tables cart with
      | error errors => exact sound
      | ok changed => exact sound.apply keyed allowed loaded did
  | other command => exact sound.other keyed command.property allowed.2

end Store

/-- In every run in which each coupon's promotion has the coupon's own code, and limited
coupons are put on no more carts than may redeem them, each cart has one record of a coupon
at most, counts it once, and no limit is exceeded. -/
theorem coupons_count_once (definitions : List CouponDefinition) (keyed : (definitions.map CouponDefinition.id).Nodup)
    (toUppercase : String → String) (commands : List CouponCommand)
    (meets : Sequence.Meets (CouponStore.apply definitions toUppercase) (Allowed definitions toUppercase)
      .empty commands) :
    CouponsHold definitions (Sequence.run (CouponStore.apply definitions toUppercase) .empty commands) := by
  have begins : Sound definitions .empty :=
    ⟨fun _ _ loaded => (nomatch loaded), fun _ member => (nomatch member), fun _ _ _ _ => Nat.zero_le _⟩
  have steps (store : CouponStore) (command : CouponCommand) (sound : Sound definitions store)
      (allowed : Allowed definitions toUppercase store command) :
      Sound definitions (store.apply definitions toUppercase command) := sound.step keyed command allowed
  have sound := Sequence.keeps steps begins meets
  refine ⟨fun id cart loaded => (sound.stored id cart loaded).2.countedOnce keyed, ?_⟩
  intro coupon defined limit limits
  exact (Nat.le_add_right _ _).trans (sound.limited coupon defined limit limits)

section Samples
open CartStates

def asciiUpper (text : String) : String := String.ofList (text.toList.map Char.toUpper)

/-- A coupon for ten dollars off that may be redeemed once. -/
def onceOff (promo : Promotion) : CouponDefinition :=
  { id := .random 50, code := "TEN", promoId := promo.id, maxRedemptionsTotal := some 1
    maxRedemptionsPerCustomer := none, validFrom := 0, validUntil := none }

def onCart (cartId : Nat) (wanted : CartChange) (plain : (CartCommand.changeCart (.random cartId) wanted).appliesCoupon = false) :
    CouponCommand :=
  .other ⟨.changeCart (.random cartId) wanted, plain⟩

/-- A fifteen-dollar line. -/
def started (cartId : Nat) (promo : Promotion) : List CouponCommand :=
  [.other ⟨.createCart (.random cartId) .nil .nil 0, rfl⟩,
    onCart cartId (.edit (.addLineItem (line 7 1500 1)) (offering [promo])) rfl]

def enter (cartId : Nat) (text : String) (promo : Promotion) : CouponCommand :=
  .applyCoupon (.random cartId) text [promo] (offering [promo])

def sold (cartId : Nat) : List CouponCommand :=
  [onCart cartId (.setTendering 0) rfl,
    onCart cartId (.addPayment ⟨.random 90, 1500, 0, some "cash", none, none, none⟩ 0) rfl,
    onCart cartId (.finalizeOrder (.random (100 + cartId)) 0) rfl]

/-- The code is entered twice, in two spellings, and the cart is sold. -/
def enteredTwice (promo : Promotion) : List CouponCommand :=
  started 1 promo ++ [enter 1 " ten" promo, enter 1 "TEN " promo] ++ sold 1

theorem coupon_counts_once :
    let store := Sequence.run (CouponStore.apply [onceOff tenOff] asciiUpper) .empty (enteredTwice tenOff)
    redeemed store (.random 50) = 1 ∧ CouponsHold [onceOff tenOff] store :=
  ⟨by decide +kernel, coupons_count_once [onceOff tenOff] (by decide) asciiUpper (enteredTwice tenOff) (by decide +kernel)⟩

/-- The coupon's promotion has another code. -/
def summerOff : Promotion := { tenOff with code := some "SUMMER" }

/-- Two carts take the coupon before either is sold. -/
def onTwoCarts : List CouponCommand :=
  started 1 tenOff ++ [enter 1 "ten" tenOff] ++ started 2 tenOff ++ [enter 2 "ten" tenOff] ++ sold 1 ++ sold 2

theorem coupon_counts_twice :
    (¬∀ commands, CouponsHold [onceOff summerOff]
      (Sequence.run (CouponStore.apply [onceOff summerOff] asciiUpper) .empty commands)) ∧
    ¬∀ commands, CouponsHold [onceOff tenOff]
      (Sequence.run (CouponStore.apply [onceOff tenOff] asciiUpper) .empty commands) := by
  refine ⟨?_, ?_⟩ <;> intro all
  · obtain ⟨cart, loaded⟩ : ∃ cart, Carts.load (.random 1) (Sequence.run (CouponStore.apply [onceOff summerOff] asciiUpper)
        .empty (enteredTwice summerOff)).db.carts = some cart := Option.isSome_iff_exists.mp (by decide +kernel)
    have records : ¬(((Sequence.run (CouponStore.apply [onceOff summerOff] asciiUpper) .empty
        (enteredTwice summerOff)).sources (.random 1)).map CouponDefinition.id).Nodup := by decide +kernel
    exact records ((all (enteredTwice summerOff)).counted _ cart loaded).once
  · have beyond : redeemed (Sequence.run (CouponStore.apply [onceOff tenOff] asciiUpper) .empty onTwoCarts) (.random 50) = 2 := by
      decide +kernel
    have limited := (all onTwoCarts).limited (onceOff tenOff) (by simp) 1 rfl
    exact absurd limited (by rw [show (onceOff tenOff).id = .random 50 from rfl, beyond]; decide)

end Samples
end ApexEdge.Proofs.CouponRecords
