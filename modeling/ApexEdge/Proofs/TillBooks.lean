import ApexEdge.Hub.Till
import ApexEdge.Library.Totals
import ApexEdge.Proofs.Attempts
import ApexEdge.Proofs.StoredValue

/-! What has been debited from gift cards and loyalty accounts, against the payments
that carts record for it. A debit is in hand from the statement that takes it to the
statement that saves the cart; whatever ends in between loses it. -/

namespace ApexEdge.Proofs.TillBooks
open Library Payment Domain Storage Contracts Hub
open Protocol StoredValue

/-- Paid with a gift card or with points. -/
def isStoredValue (payment : PaymentRecord) : Bool :=
  payment.provider = some "gift_card" ∨ payment.provider = some "loyalty"

/-- The stored-value payments of a cart, unless it has been voided. -/
def storedValue (cart : Cart) : List PaymentRecord :=
  if cart.state = .voided then [] else cart.payments.filter isStoredValue

def cents (payments : List PaymentRecord) : Int := (payments.map fun payment => (payment.amountCents : Int)).sum

/-- The stored-value payments that are recorded on carts. -/
def recordedCents (carts : List CartRow) : Int := (carts.map fun row => cents (storedValue row.data)).sum

/-- The value of what has been debited; a point is worth what it is redeemed for. -/
def debitedValue {Remote : Type} (rates : LoyaltyRates) (world : TillWorld Remote) : Int :=
  world.debitedCents + rates.centsPerRedeemedPoint * world.debitedPoints

def inHand (request : TillRequest) : Int := cents request.debit.toList

/-! The conduct of the programs: what they have in hand after each reply. -/

section Conduct
variable (rates : LoyaltyRates)

/-- Nothing is debited while a debit is in hand. -/
def Proper (request : TillRequest) : Prop :=
  match request.call with
  | .hub _ => True
  | _ => request.debit = none

def Goes (debit : Option PaymentRecord) (call : TillCall) : call.Reply → Option PaymentRecord → Prop :=
  match call with
  | .redeemGiftCard _ amountCents => fun
    | .ok (.redeemed, _), next => ∃ payment, next = some payment ∧ payment.amountCents = amountCents
    | _, next => next = none
  | .redeemLoyaltyPoints _ points => fun
    | .ok (.redeemed, _), next => ∃ payment, next = some payment ∧
      payment.amountCents = loyaltyRedeemValueCents rates points
    | _, next => next = none
  | .hub (.saveCart _) => fun _ next => next = none
  | .hub _ => fun _ next => next = debit

/-- A program ends only where it might have gone on with nothing in hand. -/
def conduct : Protocol TillRequest TillRequest.Reply :=
  { follows := fun request reply next => Proper next ∧ Goes rates request.debit request.call reply next.debit
    rests := fun may => ∃ next, may next ∧ next.debit = none }

def Opens (request : TillRequest) : Prop := Proper request ∧ request.debit = none

/-- The program may go on with this in hand. -/
def Lets (may : TillRequest → Prop) (debit : Option PaymentRecord) : Prop :=
  ∀ request, Proper request → request.debit = debit → may request

variable {rates} {may : TillRequest → Prop}

theorem Lets.rests (lets : Lets may none) : ∃ next, may next ∧ next.debit = none :=
  ⟨⟨Frame.ofKey none, none, .hub .clock⟩, lets _ trivial rfl, rfl⟩

/-- A program of the hub has nothing in hand. -/
theorem atTill_keeps {α : Type} (program : Command α) (lets : Lets may none) :
    (conduct rates).Keeps may (fun may _ => Lets may none) (atTill program) := by
  induction program generalizing may with
  | pure value => exact lets
  | request request next ih =>
    obtain ⟨frame, call⟩ := request
    refine ⟨lets _ trivial rfl, fun reply => ih reply fun later proper nothing => ⟨proper, ?_⟩⟩
    cases call <;> exact nothing

private theorem keeps_reply {ε : Type} {frame : Frame} {debit : Option PaymentRecord} {call : TillCall}
    {post : (TillRequest → Prop) → Except ε call.Reply → Prop} (lets : Lets may debit)
    (proper : Proper ⟨frame, debit, call⟩)
    (rest : ∀ may reply, (∀ next, Goes rates debit call reply next → Lets may next) → post may (.ok reply)) :
    (conduct rates).Keeps may post (tillReply frame debit call : TillAction ε call.Reply) :=
  ⟨lets _ proper rfl, fun reply => rest _ reply fun _ goes _ proper same => ⟨proper, same ▸ goes⟩⟩

private theorem recordDebit_keeps {app : AppState} {envelope : TillEnvelope} {cart : Cart} {payment : PaymentRecord}
    (payable : cart.state = .tendering ∨ cart.state = .paid) (lets : Lets may (some payment)) :
    (conduct rates).Keeps may (fun may _ => Lets may none) (recordDebit app envelope cart payment) := by
  apply keeps_andThen
  refine keeps_reply lets trivial ?_
  intro may now lets
  have lets := lets (some payment) rfl
  dsimp only
  cases added : cart.addPayment payment now with
  | error error =>
    rcases payable with state | state <;> simp [Cart.addPayment, state] at added
  | ok paid =>
    apply keeps_andThen
    apply keeps_orThrow
    refine keeps_reply lets trivial ?_
    intro may saved lets
    cases saved with
    | error error => exact lets none rfl
    | ok done => exact atTill_keeps _ (lets none rfl)

private theorem loadPayableCart_keeps {envelope : TillEnvelope} {cartId : Uuid} (lets : Lets may none) :
    (conduct rates).Keeps may
      (fun may result => Lets may none ∧ ∀ cart, result = .ok cart → cart.state = .tendering ∨ cart.state = .paid)
      (loadPayableCart envelope cartId) := by
  apply keeps_andThen
  apply (atTill_keeps _ lets).mono
  intro may loaded lets
  rcases loaded with errors | cart
  · exact ⟨lets, fun _ impossible => by cases impossible⟩
  · dsimp only
    split
    · exact ⟨lets, fun _ impossible => by cases impossible⟩
    next payable =>
      refine ⟨lets, ?_⟩
      rintro _ ⟨⟩
      by_contra other
      exact payable (not_or.mp other)

private theorem redeemGiftCard_keeps {app : AppState} {envelope : TillEnvelope} {p : RedeemGiftCardPayload}
    (lets : Lets may none) :
    (conduct rates).Keeps may (fun may _ => Lets may none) (redeemGiftCard app envelope p) := by
  apply keeps_andThen
  apply (loadPayableCart_keeps lets).mono
  rintro may (errors | cart) ⟨lets, payable⟩
  · exact lets
  · apply keeps_andThen
    refine keeps_reply lets rfl ?_
    intro may reply lets
    rcases reply with error | ⟨outcome, record⟩
    · exact lets none rfl
    · cases outcome with
      | redeemed => exact recordDebit_keeps (payable cart rfl) (lets _ ⟨giftCardPayment p, rfl, rfl⟩)
      | notFound | notActive | insufficientBalance | invalidAmount => exact lets none rfl

private theorem redeemLoyaltyPoints_keeps {app : AppState} {envelope : TillEnvelope} {p : RedeemLoyaltyPointsPayload}
    (lets : Lets may none) :
    (conduct rates).Keeps may (fun may _ => Lets may none) (redeemLoyaltyPoints app rates envelope p) := by
  apply keeps_andThen
  apply (loadPayableCart_keeps lets).mono
  rintro may (errors | cart) ⟨lets, payable⟩
  · exact lets
  · apply keeps_andThen
    refine keeps_reply lets rfl ?_
    intro may reply lets
    rcases reply with error | ⟨outcome, record⟩
    · exact lets none rfl
    · cases outcome with
      | redeemed => exact recordDebit_keeps (payable cart rfl) (lets _ ⟨loyaltyPayment rates p, rfl, rfl⟩)
      | notFound | insufficientPoints | invalidAmount => exact lets none rfl

private theorem handleRedemption_keeps {app : AppState} {envelope : TillEnvelope} {boundRegister : Option Uuid}
    {redeem : TillAction (List PosError) Payload}
    (keeps : ∀ may, Lets may none → (conduct rates).Keeps may (fun may _ => Lets may none) redeem)
    (lets : Lets may none) :
    (conduct rates).Keeps may (fun may _ => Lets may none) (handleRedemption app envelope boundRegister redeem) := by
  unfold handleRedemption
  dsimp only
  split
  · exact lets
  · split
    · exact lets
    · split
      · exact lets
      · refine ⟨lets _ trivial rfl, fun stored => ?_⟩
        have executes (may : TillRequest → Prop) (lets : Lets may none) :
            (conduct rates).Keeps may (fun may _ => Lets may none) (Program.bind redeem (redeemed envelope)) := by
          apply Keeps.bind
          apply (keeps may lets).mono
          intro may result lets
          cases result with
          | ok payload => exact atTill_keeps _ lets
          | error errors => exact lets
        have lets : Lets ((conduct rates).follows ⟨Frame.ofKey (some envelope.idempotencyKey), none,
            .hub (.getResponse envelope.idempotencyKey)⟩ stored) none := fun _ proper nothing => ⟨proper, nothing⟩
        rcases stored with error | none | replayed
        · exact executes _ lets
        · exact executes _ lets
        · exact lets

theorem till_keeps (app : AppState) (task : TillTask) :
    (conduct rates).Keeps Opens (fun may _ => (conduct rates).rests may) (task.program app rates) := by
  have lets : Lets Opens none := fun _ proper nothing => ⟨proper, nothing⟩
  have ends {program : TillProgram PosResponse}
      (keeps : (conduct rates).Keeps Opens (fun may _ => Lets may none) program) :
      (conduct rates).Keeps Opens (fun may _ => (conduct rates).rests may) program :=
    keeps.mono fun _ _ lets => lets.rests
  unfold TillTask.program
  dsimp only
  split
  · exact ends (handleRedemption_keeps (fun _ => redeemGiftCard_keeps) lets)
  · exact ends (handleRedemption_keeps (fun _ => redeemLoyaltyPoints_keeps) lets)
  · exact ends (atTill_keeps _ lets)
  · exact ends (atTill_keeps _ lets)

end Conduct

section Careful
variable {Remote Answer : Type}

def accountTables (world : TillWorld Remote) : Tables := ⟨world.giftCards, world.loyaltyAccounts⟩

/-- If the row cannot be read back, nothing has been taken from it either. -/
def ReadsBack {Row : Type} (choice : TillChoice Answer) (update : Table.Update Row) (rows : List Row) : Prop :=
  choice.readBack = none ∨ rows.any update.selects = false

/-- A save succeeds or has nothing in hand, and it finds the stored-value payments that
the command has read: none of another command, and none at all under a void. -/
def Saves (choice : TillChoice Answer) (debit : Option PaymentRecord) (cart : Cart) (carts : List CartRow) : Prop :=
  match choice.hub.storageFailure with
  | some _ => debit = none
  | none => storedValue cart = ((Carts.load cart.id carts).map storedValue).getD [] ++ debit.toList

/-- No debit is lost between its statement and the save of its payment, no save loses a
payment, and the amounts fit their columns. -/
def Careful (rates : LoyaltyRates) (world : TillWorld Remote) (request : TillRequest) (choice : TillChoice Answer) :
    Prop :=
  match request.call with
  | .redeemGiftCard code cents =>
    cents < 2 ^ 64 ∧ Fits (.redeem code (.ofNat cents)) (accountTables world) ∧
      ReadsBack choice (GiftCards.redeemUpdate code cents choice.hub.now) world.giftCards
  | .redeemLoyaltyPoints customerId points =>
    points < 2 ^ 64 ∧ points * rates.centsPerRedeemedPoint < 2 ^ 64 ∧
      Fits (.redeemPoints customerId (.ofNat points)) (accountTables world) ∧
      ReadsBack choice (Loyalty.redeemUpdate customerId points choice.hub.now) world.loyaltyAccounts
  | .hub (.service (.earnLoyaltyPoints customerId spendCents)) =>
    spendCents / rates.centsPerPoint < 2 ^ 64 ∧
      Fits (.earn customerId (.ofNat (spendCents / rates.centsPerPoint))) (accountTables world)
  | .hub (.saveCart cart) => Saves choice request.debit cart world.hub.db.carts
  | .hub _ => True

instance (operation : Operation) (tables : Tables) : Decidable (Fits operation tables) := by
  unfold Fits
  split <;> infer_instance

instance {Row : Type} (choice : TillChoice Answer) (update : Table.Update Row) (rows : List Row) :
    Decidable (ReadsBack choice update rows) := by
  unfold ReadsBack
  cases choice.readBack with
  | none => exact isTrue (.inl rfl)
  | some error => exact decidable_of_iff (rows.any update.selects = false) (by simp)

instance (choice : TillChoice Answer) (debit : Option PaymentRecord) (cart : Cart) (carts : List CartRow) :
    Decidable (Saves choice debit cart carts) := by
  unfold Saves
  split <;> infer_instance

instance (rates : LoyaltyRates) (world : TillWorld Remote) (request : TillRequest) (choice : TillChoice Answer) :
    Decidable (Careful rates world request choice) := by
  unfold Careful
  split <;> infer_instance

/-- Every step is careful, and no program is dropped with a debit in hand. -/
def careful (rates : LoyaltyRates) : Condition TillRequest (TillWorld Remote) (TillChoice Answer) :=
  { step := fun world _ request choice => Careful rates world request choice
    drop := fun _ _ request => request.debit = none }

instance (rates : LoyaltyRates) (world : TillWorld Remote) (others : List TillRequest) (request : TillRequest)
    (choice : TillChoice Answer) : Decidable ((careful rates).step world others request choice) :=
  inferInstanceAs (Decidable (Careful ..))

instance (rates : LoyaltyRates) (world : TillWorld Remote) (others : List TillRequest) (request : TillRequest) :
    Decidable ((careful rates : Condition _ _ (TillChoice Answer)).drop world others request) :=
  inferInstanceAs (Decidable (_ = _))

end Careful

section Amounts

theorem cents_append (first second : List PaymentRecord) : cents (first ++ second) = cents first + cents second := by
  simp [cents]

/-- Saving a cart changes what is recorded by what the cart has more than the stored one. -/
theorem recordedCents_save {cart : Cart} {carts : List CartRow} (ids : (carts.map CartRow.id).Nodup) :
    recordedCents (Carts.save cart carts) =
      recordedCents carts + cents (storedValue cart) -
        cents (((Carts.load cart.id carts).map storedValue).getD []) := by
  unfold recordedCents Carts.save Carts.load
  rw [Table.sum_upsert ids]
  cases carts.find? (·.id = cart.id) with
  | none => simp [cents]
  | some row =>
    simp only [Option.map_some, Option.getD_some]
    omega

theorem save_ids {cart : Cart} {carts : List CartRow} (ids : (carts.map CartRow.id).Nodup) :
    ((Carts.save cart carts).map CartRow.id).Nodup := by
  let fresh : CartRow := ⟨cart.id, cart.storeId, cart.registerId, cart.state, cart⟩
  show ((Table.upsert (·.id = fresh.id) (fun row => { row with state := cart.state, data := cart }) fresh carts).map
    CartRow.id).Nodup
  exact Table.unique_upsert (fun _ own => own) ids

theorem redeemValue_exact {rates : LoyaltyRates} {points : Nat} (fits : points * rates.centsPerRedeemedPoint < 2 ^ 64) :
    (loyaltyRedeemValueCents rates points : Int) = rates.centsPerRedeemedPoint * points := by
  have exact : loyaltyRedeemValueCents rates points = points * rates.centsPerRedeemedPoint := by
    unfold loyaltyRedeemValueCents saturatingMul u64Max
    omega
  rw [exact]
  push_cast
  exact Int.mul_comm ..

end Amounts

section Accounts
variable {Answer Row Outcome Record : Type} [DecidableEq Outcome] {done : Outcome} {choice : TillChoice Answer}

/-- A redemption is refused and changes nothing, or is the statement itself. -/
theorem thenRead_cases {amount : Nat} {update : Table.Update Row} {rows : List Row}
    {get : List Row → Except PoolError (Option Record)} {invalidAmount notFound : Outcome} {refused : Record → Outcome}
    (readsBack : ReadsBack choice update rows) {answer : Except PoolError (Outcome × Option Record) × List Row}
    (answered : thenRead choice amount rows (guardedUpdate amount update get invalidAmount done notFound refused) =
      answer) :
    acknowledges done answer.1 = false ∧ answer.2 = rows ∨
      answer = guardedUpdate amount update get invalidAmount done notFound refused rows := by
  subst answered
  unfold thenRead
  split
  · exact .inr rfl
  next positive =>
    split
    · exact .inl ⟨rfl, rfl⟩
    next failed =>
      rcases readsBack with reads | unselected
      · simp [reads] at failed
      · refine .inl ⟨rfl, ?_⟩
        simp [guardedUpdate, positive, unselected]
    · exact .inr rfl

end Accounts

section Debits
variable {Remote Answer : Type} {choice : TillChoice Answer} {world : TillWorld Remote}

theorem toNat_ofNat {amount : Nat} (bounded : amount < 2 ^ 64) : (UInt64.ofNat amount).toNat = amount := by
  rw [UInt64.toNat_ofNat', Nat.mod_eq_of_lt bounded]

/-- A gift card redemption takes the amount if and only if it is acknowledged. -/
theorem redeemed_card (kept : WellKept (accountTables world)) {code : String} {amount : Nat}
    (bounded : amount < 2 ^ 64) (fits : Fits (.redeem code (.ofNat amount)) (accountTables world))
    (readsBack : ReadsBack choice (GiftCards.redeemUpdate code amount choice.hub.now) world.giftCards)
    {answer : Except PoolError (RedeemOutcome × Option GiftCardRecord) × List GiftCardRow}
    (answered : thenRead choice amount world.giftCards (GiftCards.redeem code amount choice.hub.now) = answer) :
    WellKept { accountTables world with giftCards := answer.2 } ∧
      cardBalance code world.giftCards - cardBalance code answer.2 =
        if acknowledges .redeemed answer.1 then (amount : Int) else 0 := by
  rcases thenRead_cases readsBack answered with ⟨refused, same⟩ | ran
  · rw [refused, same]
    exact ⟨kept, Int.sub_self _⟩
  · have number := toNat_ofNat bounded
    have run : (Operation.redeem code (.ofNat amount)).run choice.hub.now (accountTables world) =
        (acknowledges .redeemed answer.1, { accountTables world with giftCards := answer.2 }) := by
      rw [ran]
      simp only [Operation.run, number]
      rfl
    obtain ⟨keptAfter, exact⟩ := exact_of_fits choice.hub.now kept fits
    have moved := exact.moves (.giftCard code)
    simp only [run] at keptAfter moved
    refine ⟨keptAfter, ?_⟩
    simp only [Operation.entry, Option.map_some, Option.getD_some, recorded, number, if_true] at moved
    have before : cardBalance code world.giftCards = (Account.giftCard code).balance (accountTables world) := rfl
    have after : cardBalance code answer.2 =
        (Account.giftCard code).balance { accountTables world with giftCards := answer.2 } := rfl
    rw [before, after, moved]
    split <;> omega

/-- A redemption of points takes them if and only if it is acknowledged. -/
theorem redeemed_points (kept : WellKept (accountTables world)) {customerId : Uuid} {points : Nat}
    (bounded : points < 2 ^ 64) (fits : Fits (.redeemPoints customerId (.ofNat points)) (accountTables world))
    (readsBack : ReadsBack choice (Loyalty.redeemUpdate customerId points choice.hub.now) world.loyaltyAccounts)
    {answer : Except PoolError (RedeemPointsOutcome × Option LoyaltyAccountRecord) × List LoyaltyAccountRow}
    (answered : thenRead choice points world.loyaltyAccounts (Loyalty.redeem customerId points choice.hub.now) =
      answer) :
    WellKept { accountTables world with loyaltyAccounts := answer.2 } ∧
      pointsBalance customerId world.loyaltyAccounts - pointsBalance customerId answer.2 =
        if acknowledges .redeemed answer.1 then (points : Int) else 0 := by
  rcases thenRead_cases readsBack answered with ⟨refused, same⟩ | ran
  · rw [refused, same]
    exact ⟨kept, Int.sub_self _⟩
  · have number := toNat_ofNat bounded
    have run : (Operation.redeemPoints customerId (.ofNat points)).run choice.hub.now (accountTables world) =
        (acknowledges .redeemed answer.1, { accountTables world with loyaltyAccounts := answer.2 }) := by
      rw [ran]
      simp only [Operation.run, number]
      rfl
    obtain ⟨keptAfter, exact⟩ := exact_of_fits choice.hub.now kept fits
    have moved := exact.moves (.loyalty customerId)
    simp only [run] at keptAfter moved
    refine ⟨keptAfter, ?_⟩
    simp only [Operation.entry, Option.map_some, Option.getD_some, recorded, number, if_true] at moved
    have before : pointsBalance customerId world.loyaltyAccounts =
        (Account.loyalty customerId).balance (accountTables world) := rfl
    have after : pointsBalance customerId answer.2 =
        (Account.loyalty customerId).balance { accountTables world with loyaltyAccounts := answer.2 } := rfl
    rw [before, after, moved]
    split <;> omega

theorem earned_points (kept : WellKept (accountTables world)) {rates : LoyaltyRates} {customerId : Uuid}
    {spendCents : Nat} (now : Timestamp) (bounded : spendCents / rates.centsPerPoint < 2 ^ 64)
    (fits : Fits (.earn customerId (.ofNat (spendCents / rates.centsPerPoint))) (accountTables world)) :
    WellKept { accountTables world with
      loyaltyAccounts := earnPointsFor rates customerId spendCents now world.loyaltyAccounts } := by
  unfold earnPointsFor
  dsimp only
  split
  · exact kept
  · have earned := (exact_of_fits now kept fits).1
    simp only [Operation.run, toNat_ofNat bounded] at earned
    exact earned

end Debits

section Books
variable {Remote Answer : Type} {rates : LoyaltyRates} {choice : TillChoice Answer} {world : TillWorld Remote}

/-- What a reply leaves in hand. -/
theorem inHand_card {code : String} {amount : Nat}
    {reply : Except PoolError (RedeemOutcome × Option GiftCardRecord)} {next : TillRequest}
    (goes : Goes rates none (.redeemGiftCard code amount) reply next.debit) :
    inHand next = if acknowledges .redeemed reply then (amount : Int) else 0 := by
  unfold inHand
  rcases reply with error | ⟨outcome, record⟩
  · rw [show next.debit = none from goes]
    rfl
  · cases outcome with
    | redeemed =>
      obtain ⟨payment, debit, same⟩ := goes
      rw [debit]
      simp [cents, same, acknowledges]
    | notFound | notActive | insufficientBalance | invalidAmount =>
      rw [show next.debit = none from goes]
      rfl

theorem inHand_points {customerId : Uuid} {points : Nat}
    {reply : Except PoolError (RedeemPointsOutcome × Option LoyaltyAccountRecord)} {next : TillRequest}
    (goes : Goes rates none (.redeemLoyaltyPoints customerId points) reply next.debit) :
    inHand next = if acknowledges .redeemed reply then (loyaltyRedeemValueCents rates points : Int) else 0 := by
  unfold inHand
  rcases reply with error | ⟨outcome, record⟩
  · rw [show next.debit = none from goes]
    rfl
  · cases outcome with
    | redeemed =>
      obtain ⟨payment, debit, same⟩ := goes
      rw [debit]
      simp [cents, same, acknowledges]
    | notFound | insufficientPoints | invalidAmount =>
      rw [show next.debit = none from goes]
      rfl

structure WellBooked (world : TillWorld Remote) : Prop where
  ids : (world.hub.db.carts.map CartRow.id).Nodup
  accounts : WellKept (accountTables world)

/-- How far the books are from even. -/
def gap (rates : LoyaltyRates) (world : TillWorld Remote) : Int :=
  debitedValue rates world - recordedCents world.hub.db.carts

/-- A save changes the carts unless it fails. -/
theorem perform_save (providers : Providers Remote Answer) (choice : Choice Answer) (world : World Remote)
    (frame : Frame) (cart : Cart) :
    (perform providers choice world ⟨frame, .saveCart cart⟩).2.db.carts =
      if choice.storageFailure.isSome then world.db.carts else Carts.save cart world.db.carts := by
  cases failing : choice.storageFailure <;> simp [perform, update, transact, failing]

/-- What a careful save records is what it had in hand. -/
theorem saves_booked {debit : Option PaymentRecord} {cart : Cart} {carts : List CartRow}
    (ids : (carts.map CartRow.id).Nodup) (saves : Saves choice debit cart carts) :
    let after := if choice.hub.storageFailure.isSome then carts else Carts.save cart carts
    (after.map CartRow.id).Nodup ∧ recordedCents after = recordedCents carts + cents debit.toList := by
  unfold Saves at saves
  cases failing : choice.hub.storageFailure with
  | some error =>
    simp only [failing] at saves
    rw [saves]
    exact ⟨ids, (Int.add_zero _).symm⟩
  | none =>
    simp only [failing] at saves
    refine ⟨save_ids ids, ?_⟩
    simp only [Option.isSome_none, Bool.false_eq_true, if_false]
    rw [recordedCents_save ids, saves, cents_append]
    omega

/-- What a step leaves in hand, the books are off by. -/
def Booked (rates : LoyaltyRates) (request : TillRequest) (before after : TillWorld Remote) (reply : request.Reply) :
    Prop :=
  WellBooked after ∧ ∀ next, (conduct rates).follows request reply next →
    gap rates after - inHand next = gap rates before - inHand request

/-- A call of the hub that saves no cart. -/
theorem unsaved_booked (providers : Providers Remote Answer) {frame : Frame} {debit : Option PaymentRecord}
    {call : Call} (booked : WellBooked world) (unsaved : ∀ cart, call ≠ .saveCart cart) :
    Booked rates ⟨frame, debit, .hub call⟩ world
      { world with hub := (perform providers choice.hub world.hub ⟨frame, call⟩).2 }
      (perform providers choice.hub world.hub ⟨frame, call⟩).1 := by
  have same : (perform providers choice.hub world.hub ⟨frame, call⟩).2.db.carts = world.hub.db.carts := by
    rcases StepEffects.perform_carts providers choice.hub world.hub ⟨frame, call⟩ with same | ⟨cart, saves, _⟩
    · exact same
    · exact absurd saves (unsaved cart)
  refine ⟨⟨same ▸ booked.ids, booked.accounts⟩, ?_⟩
  rintro next ⟨_, goes⟩
  have keeps : next.debit = debit := by
    cases call with
    | saveCart cart => exact absurd rfl (unsaved cart)
    | _ => exact goes
  simp only [gap, debitedValue, inHand, keeps, same]

/-- A careful step keeps the tables, and changes the gap by what it takes in hand. -/
theorem step_booked (providers : Providers Remote Answer) {request : TillRequest} (booked : WellBooked world)
    (proper : Proper request) (careful : Careful rates world request choice) :
    Booked rates request world (performAtTill rates providers choice world request).2
      (performAtTill rates providers choice world request).1 := by
  obtain ⟨frame, debit, call⟩ := request
  cases call with
  | redeemGiftCard code amount =>
    obtain rfl : debit = none := proper
    obtain ⟨bounded, fits, readsBack⟩ := careful
    simp only [performAtTill]
    generalize answered : thenRead choice amount world.giftCards (GiftCards.redeem code amount choice.hub.now) = answer
    obtain ⟨accounts, taken⟩ := redeemed_card booked.accounts bounded fits readsBack answered
    refine ⟨⟨booked.ids, accounts⟩, ?_⟩
    rintro next ⟨_, goes⟩
    have hand : inHand next = _ := inHand_card goes
    rw [hand, ← taken]
    simp only [gap, debitedValue, inHand, Option.toList_none, cents, List.map_nil, List.sum_nil]
    omega
  | redeemLoyaltyPoints customerId points =>
    obtain rfl : debit = none := proper
    obtain ⟨bounded, exact, fits, readsBack⟩ := careful
    simp only [performAtTill]
    generalize answered :
      thenRead choice points world.loyaltyAccounts (Loyalty.redeem customerId points choice.hub.now) = answer
    obtain ⟨accounts, taken⟩ := redeemed_points booked.accounts bounded fits readsBack answered
    refine ⟨⟨booked.ids, accounts⟩, ?_⟩
    rintro next ⟨_, goes⟩
    have hand : inHand next = rates.centsPerRedeemedPoint *
        (pointsBalance customerId world.loyaltyAccounts - pointsBalance customerId answer.2) := by
      rw [taken, inHand_points goes, redeemValue_exact exact]
      split <;> simp
    rw [hand]
    simp only [gap, debitedValue, inHand, Option.toList_none, cents, List.map_nil, List.sum_nil, Int.mul_add]
    omega
  | hub call =>
    cases call with
    | saveCart cart =>
      obtain ⟨ids, recorded⟩ := saves_booked booked.ids careful
      rw [← perform_save providers choice.hub world.hub frame cart] at ids recorded
      refine ⟨⟨ids, booked.accounts⟩, ?_⟩
      rintro next ⟨_, goes⟩
      have nothing : next.debit = none := goes
      simp only [performAtTill, gap, debitedValue, inHand, nothing, recorded, Option.toList_none]
      simp only [cents, List.map_nil, List.sum_nil]
      omega
    | service call =>
      cases call with
      | earnLoyaltyPoints customerId spendCents =>
        obtain ⟨bounded, fits⟩ := careful
        have earned := earned_points booked.accounts choice.hub.now bounded fits
        simp only [performAtTill]
        cases choice.hub.storageFailure with
        | some error =>
          refine ⟨booked, ?_⟩
          rintro next ⟨_, goes⟩
          simp only [inHand, show next.debit = debit from goes]
        | none =>
          refine ⟨⟨booked.ids, earned⟩, ?_⟩
          rintro next ⟨_, goes⟩
          simp only [gap, debitedValue, inHand, show next.debit = debit from goes]
      | _ => exact unsaved_booked providers booked fun _ same => by cases same
    | _ => exact unsaved_booked providers booked fun _ same => by cases same

/-- The books are off by what is in hand. -/
structure Balance (rates : LoyaltyRates) (world : TillWorld Remote) (pending : Multiset TillRequest) : Prop where
  booked : WellBooked world
  proper : ∀ request ∈ pending, Proper request
  even : gap rates world = (pending.map inHand).sum

theorem balance_cons {request : TillRequest} {pending : Multiset TillRequest} (booked : WellBooked world)
    (proper : Proper request) (others : ∀ other ∈ pending, Proper other)
    (even : gap rates world = inHand request + (pending.map inHand).sum) : Balance rates world (request ::ₘ pending) := by
  refine ⟨booked, ?_, by rw [Multiset.map_cons, Multiset.sum_cons, even]⟩
  intro other member
  rcases Multiset.mem_cons.mp member with rfl | old
  · exact proper
  · exact others other old

theorem Balance.split {request : TillRequest} {pending : Multiset TillRequest}
    (balance : Balance rates world (request ::ₘ pending)) :
    Proper request ∧ (∀ other ∈ pending, Proper other) ∧
      gap rates world = inHand request + (pending.map inHand).sum := by
  refine ⟨balance.proper _ (Multiset.mem_cons_self _ _),
    fun other member => balance.proper other (Multiset.mem_cons_of_mem member), ?_⟩
  rw [balance.even, Multiset.map_cons, Multiset.sum_cons]

/-- Every careful step keeps the balance. -/
theorem balance_invariant (app : AppState) (providers : Providers Remote Answer) :
    Invariant (till app rates providers) (conduct rates) (careful rates) (fun _ => Opens) (Balance rates) where
  keeps := till_keeps app
  started world others task request _ opens balance := by
    refine balance_cons balance.booked opens.1 balance.proper ?_
    rw [balance.even, inHand, opens.2]
    exact (Int.zero_add _).symm
  continued choice world others request next meets balance follows := by
    obtain ⟨proper, rest, even⟩ := balance.split
    obtain ⟨booked, moved⟩ := step_booked providers balance.booked proper meets
    have gap := moved next follows
    exact balance_cons booked follows.1 rest (by simp only [till]; omega)
  finished choice world others request meets balance rests := by
    obtain ⟨proper, rest, even⟩ := balance.split
    obtain ⟨booked, moved⟩ := step_booked providers balance.booked proper meets
    obtain ⟨next, follows, nothing⟩ := rests
    have gap := moved next follows
    have zero : inHand next = 0 := by simp [inHand, nothing, cents]
    exact ⟨booked, rest, by simp only [till]; omega⟩
  dropped world others request nothing balance := by
    obtain ⟨_, rest, even⟩ := balance.split
    have zero : inHand request = 0 := by simp [inHand, show request.debit = none from nothing, cents]
    exact ⟨balance.booked, rest, by omega⟩

end Books

/-- Cart ids, card codes and customers are unique, the balances fit their columns, and the
books are even. -/
structure Opening {Remote : Type} (rates : LoyaltyRates) (world : TillWorld Remote) : Prop where
  ids : (world.hub.db.carts.map CartRow.id).Nodup
  accounts : WellKept (accountTables world)
  even : debitedValue rates world = recordedCents world.hub.db.carts

/-- In every careful run, what has been debited is recorded on carts that have not been
voided, but for what redemptions in flight have in hand. -/
theorem stored_value_conserved {Remote Answer : Type} (app : AppState) (rates : LoyaltyRates)
    (providers : Providers Remote Answer) (world : TillWorld Remote) (opening : Opening rates world)
    (events : List (Event (TillChoice Answer) TillTask))
    (meets : (careful rates).RunMeets (till app rates providers) (Pool.quiet world) events) :
    let pool := (till app rates providers).run (Pool.quiet world) events
    debitedValue rates pool.world = recordedCents pool.world.hub.db.carts + (pool.pending.map inHand).sum := by
  intro pool
  have balance : Balance rates pool.world pool.pending := by
    refine (balance_invariant app providers).reached ⟨⟨opening.ids, opening.accounts⟩, by simp, ?_⟩ meets
    simp [gap, opening.even]
  have even := balance.even
  rw [Multiset.map_coe, Multiset.sum_coe, gap] at even
  omega

section Runs
open Attempts

/-- A gift card of 50.00, and the basket. -/
def counter : TillWorld RemotePayments :=
  { hub := Attempts.opening
    giftCards := [⟨40, 1, "GIFT", .integer 5000, "EUR", .active, 0⟩]
    loyaltyAccounts := [], debitedCents := 0, debitedPoints := 0 }

def rates : LoyaltyRates := ⟨100, 1⟩

def serve (key : Uuid) (payload : TillCommand) : Event (TillChoice ProviderAnswer) TillTask :=
  .start ⟨none, { version := .v1_0_0, idempotencyKey := key, storeId := 1, registerId := 2, payload := payload }⟩

def redeem (key : Uuid) (cents : Nat) : Event (TillChoice ProviderAnswer) TillTask :=
  serve key (.redeemGiftCard ⟨10, 20, "GIFT", cents⟩)

/-- Answer the first program `count` times. -/
def answers (count freshId : Nat) : List (Event (TillChoice ProviderAnswer) TillTask) :=
  (List.range count).map fun step => .step 0 ⟨choice step (freshId + step) approves, none⟩

private theorem counter_opening : Opening rates counter where
  ids := by decide
  accounts :=
    { codes := by decide
      customers := by decide
      cards := by
        intro row member
        rw [List.mem_singleton.mp member]
        exact ⟨⟨5000, rfl, by decide, by decide⟩, fun issued => by cases issued⟩
      accounts := by simp [accountTables, counter] }
  even := by decide

/-- A gift card pays for the basket, which is then finalized. -/
theorem gift_card_sale_conserved :
    let pool := (till shop rates contractual).run (Pool.quiet counter)
      (redeem 100 1000 :: answers 8 500 ++ serve 101 (.finalizeOrder ⟨10⟩) :: answers 30 600)
    pool.world.debitedCents = 1000 ∧ pool.world.hub.db.orders ≠ [] ∧
      debitedValue rates pool.world = recordedCents pool.world.hub.db.carts + (pool.pending.map inHand).sum :=
  ⟨by decide +kernel, by decide +kernel,
    stored_value_conserved shop rates contractual counter counter_opening _ (by decide +kernel)⟩

/-- The cart is voided after the gift card has been debited for it: nothing is credited
back. -/
theorem voided_gift_card_payment_is_gone :
    ¬∀ (app : AppState) (rates : LoyaltyRates) (world : TillWorld RemotePayments)
      (events : List (Event (TillChoice ProviderAnswer) TillTask)), Opening rates world →
      let pool := (till app rates contractual).run (Pool.quiet world) events
      pool.threads.length = 0 → debitedValue rates pool.world = recordedCents pool.world.hub.db.carts := by
  intro all
  have even := all shop rates counter
    (redeem 100 500 :: answers 8 500 ++ serve 101 (.voidCart ⟨10⟩) :: answers 30 600) counter_opening
    (by decide +kernel)
  exact absurd even (by decide +kernel)

end Runs
end ApexEdge.Proofs.TillBooks
