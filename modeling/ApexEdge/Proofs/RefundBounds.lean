import ApexEdge.Proofs.Attempts
import ApexEdge.Proofs.Refunding

/-! What is requested back from a provider against what was paid with it. A refund goes
to the order's first payment of the provider, and is bounded by what is left of its own
return. -/

namespace ApexEdge.Proofs.RefundBounds
open Library Payment Domain Storage Contracts Hub
open Refunding

/-- What has been requested against a provider payment over all returns of an order; a
repeated request is the same request. -/
def requestedCents (orderId : Uuid) (provider paymentId : String) {Remote : Type} (world : DeskWorld Remote) : Nat :=
  let requests := (world.requested.filter fun refund =>
    originalOrder refund.command.refund.returnId world.hub.db = some orderId ∧ refund.provider = provider ∧
      refund.request.providerPaymentId = paymentId).map RequestedRefund.request
  (requests.dedup.map RefundRequest.amountCents).sum

/-- The amount of a provider payment on an order. -/
def paidCents (provider paymentId : String) (order : NewOrderLedgerEntry) : Nat :=
  ((order.payments.find? fun payment =>
    payment.provider = some provider ∧ payment.providerPaymentId = some paymentId).map
      NewOrderPaymentEntry.amountCents).getD 0

/-- The amount of the payment that refunds to a provider go back to. -/
def refundableCents (provider : String) (order : NewOrderLedgerEntry) : Nat :=
  ((order.payments.find? fun payment =>
    payment.provider = some provider ∧ payment.providerPaymentId.isSome).map NewOrderPaymentEntry.amountCents).getD 0

/-- A reservation of a return of the order, to be refunded to the provider. -/
def reservesFor (orderId : Uuid) (provider : String) (db : Db) (intent : RefundIntentRow) : Bool :=
  originalOrder intent.returnId db = some orderId ∧ intent.tenderType = provider

/-- What is reserved for a provider over all returns of an order. -/
def reservedCents (orderId : Uuid) (provider : String) (db : Db) : Nat :=
  ((db.returns.refundIntents.filter (reservesFor orderId provider db)).map RefundIntentRow.amountCents).sum

/-- A reservation that is made stays, with those before it, within the payment that the
refund goes back to. -/
def WithinPayment (db : Db) (refund : RefundRow) : Prop :=
  Returns.reserve refund db.returns = db.returns ∨
    ∀ orderId ∈ originalOrder refund.returnId db, ∀ order ∈ orderOf orderId db,
      reservedCents orderId refund.tenderType db + refund.amountCents ≤ refundableCents refund.tenderType order

def withinPayments (app : AppState) {Remote Answer : Type} : Condition DeskRequest (DeskWorld Remote) (Choice Answer) :=
  { step := fun world _ request choice =>
      match request.op.call with
      | .reserveRefund refund =>
        choice.storageFailure = none → movesMoney app refund.tenderType → WithinPayment world.hub.db refund
      | _ => True
    drop := fun _ _ _ => True }

instance (db : Db) (refund : RefundRow) : Decidable (WithinPayment db refund) := inferInstanceAs (Decidable (_ ∨ _))

instance (app : AppState) {Remote Answer : Type} (world : DeskWorld Remote) (others : List DeskRequest)
    (request : DeskRequest) (choice : Choice Answer) :
    Decidable ((withinPayments app).step world others request choice) := by
  unfold withinPayments
  dsimp only
  split <;> infer_instance

instance (app : AppState) {Remote Answer : Type} (world : DeskWorld Remote) (others : List DeskRequest)
    (request : DeskRequest) : Decidable ((withinPayments app : Condition _ _ (Choice Answer)).drop world others request) :=
  inferInstanceAs (Decidable True)

/-- A refund stands on its reservation, and a refund command does nothing else to the
orders and the returns. -/
def grants {Remote : Type} (app : AppState) (world : DeskWorld Remote) (request : DeskRequest) : Prop :=
  match request.op.call with
  | .refund provider refund => Stands app world.hub.db ⟨request.tag, provider, refund⟩
  | call => isDeskCall call = true

/-- What is reserved of a payment is within it. -/
def Within (app : AppState) (db : Db) : Prop :=
  ∀ orderId provider, ∀ order ∈ orderOf orderId db, movesMoney app provider = true →
    reservedCents orderId provider db ≤ refundableCents provider order

/-- What has been requested stands on reservations, which stay within their payments. -/
structure Bounded {Remote : Type} (app : AppState) (world : DeskWorld Remote) : Prop where
  within : Within app world.hub.db
  stands : ∀ refund ∈ world.requested, Stands app world.hub.db refund

def refunds {Remote Answer : Type} (app : AppState) (providers : Providers Remote Answer) :
    Rules DeskRequest (Tagged.Reply Request.Reply) (DeskWorld Remote) (Choice Answer) :=
  { perform := performAtDesk providers
    condition := withinPayments app
    invariant := Bounded app
    interference := fun before after => Grows before.hub.db after.hub.db
    grants := grants app }

theorem refunds_host {Remote Answer : Type} (app : AppState) (providers : Providers Remote Answer)
    (command : RefundCommand) : Hosts ((refunds app providers).at command) providers DeskWorld.hub app command where
  performs _ _ _ := ⟨rfl, rfl⟩
  stays grows := grows
  serves {_ _ call} served _ := by
    show grants app _ _
    cases call <;> first | exact served | cases served
  refunds stands := stands

theorem program_granted {Remote Answer : Type} (app : AppState) (providers : Providers Remote Answer)
    (command : RefundCommand) (world : DeskWorld Remote) :
    (refunds app providers).Safe (fun _ _ => True) world (command.program app) := by
  have hosts := refunds_host app providers command
  apply Rules.safe_tagged
  exact handlePosCommand_safe (fun _ => refundTender_safe hosts) (fun _ _ _ => hosts.serves rfl trivial)
    fun _ _ _ _ => hosts.serves rfl trivial

section Bounds
variable {db after : Db} {orderId : Uuid} {provider : String}

theorem reservedCents_grown (grows : Grows db after) {more : List RefundIntentRow}
    (added : after.returns.refundIntents = db.returns.refundIntents ++ more) :
    reservedCents orderId provider after = reservedCents orderId provider db +
      ((more.filter (reservesFor orderId provider db)).map RefundIntentRow.amountCents).sum := by
  have same : reservesFor orderId provider after = reservesFor orderId provider db := by
    funext intent
    simp only [reservesFor, grows.returns]
  simp [reservedCents, same, added]

variable {Remote Answer : Type} {app : AppState} {providers : Providers Remote Answer} {choice : Choice Answer}
  {world : DeskWorld Remote} {request : DeskRequest}

theorem not_order {request : DeskRequest} (granted : grants app world request) (entry : NewOrderLedgerEntry)
    (outboxId : Uuid) : request.op.call ≠ .insertOrderLedgerEntryWithOutbox entry outboxId := by
  intro called
  simp [grants, called, isDeskCall] at granted

theorem within_after (within : Within app world.hub.db) (granted : grants app world request) {others : List DeskRequest}
    (meets : (withinPayments app).step world others request choice) :
    Within app (perform providers choice world.hub request.op).2.db := by
  have grows : Grows world.hub.db (perform providers choice world.hub request.op).2.db :=
    perform_grows (not_order granted)
  intro orderId provider order stored moves
  have before : orderOf orderId world.hub.db = some order := by
    rw [Refunding.orderOf, ← grows.orders]
    exact stored
  have bound := within orderId provider order before moves
  rcases perform_reservations providers choice world.hub request.op with same | ⟨refund, called, works, made, _, added⟩
  · rw [reservedCents_grown grows (same.trans (List.append_nil _).symm)]
    simpa using bound
  · rw [reservedCents_grown grows added]
    by_cases counts : originalOrder refund.returnId world.hub.db = some orderId ∧ refund.tenderType = provider
    · obtain ⟨original, rfl⟩ := counts
      simp only [withinPayments, called] at meets
      rcases meets works moves with same | fits
      · exact absurd same made
      · simpa [reservesFor, original] using fits orderId original order before
    · simpa [reservesFor, counts] using bound

end Bounds
section Bounds
variable {Remote Answer : Type} {app : AppState} {world : DeskWorld Remote} {orderId : Uuid} {order : NewOrderLedgerEntry}
  {provider paymentId : String}

theorem asked_granted {request : DeskRequest} {refund : RequestedRefund} (granted : grants app world request)
    (member : refund ∈ asked request) : Stands app world.hub.db refund := by
  obtain ⟨command, frame, call⟩ := request
  unfold asked at member
  split at member
  next provider wanted called =>
    obtain rfl := List.mem_singleton.mp member
    cases called
    exact granted
  next => cases member

theorem refunds_assured (providers : Providers Remote Answer) : (refunds app providers).Assured where
  refl world := .refl world.hub.db
  trans := Grows.trans
  step choice world others request bounded granted meets := by
    have grows : Grows world.hub.db (perform providers choice world.hub request.op).2.db :=
      perform_grows (not_order granted)
    refine ⟨⟨within_after bounded.within granted meets, ?_⟩, grows⟩
    intro refund member
    rcases List.mem_append.mp member with old | new
    · exact (bounded.stands refund old).grow grows
    · exact (asked_granted granted new).grow grows

/-- The payment that a refund goes back to is the order's payment of that id. -/
theorem refundableCents_eq (payment : refundablePayment provider order = some paymentId) :
    refundableCents provider order = paidCents provider paymentId order := by
  unfold refundablePayment at payment
  unfold refundableCents paidCents
  congr 2
  generalize order.payments = payments at payment ⊢
  induction payments with
  | nil => cases payment
  | cons first rest ih =>
    by_cases own : first.provider = some provider
    · cases id : first.providerPaymentId with
      | none =>
        have later := ih (by simpa [own, id] using payment)
        simpa [own, id] using later
      | some found =>
        obtain rfl : found = paymentId := by simpa [own, id] using payment
        simp [own, id]
    · have later := ih (by simpa [own] using payment)
      simpa [own] using later

/-- The request that is made for a reservation. -/
def requestFor (paymentId : String) (intent : RefundIntentRow) : RefundRequest :=
  let envelopeKey := match intent.id with
    | .named key _ _ => key
    | .random _ => .nil
  refundRequest envelopeKey intent.id paymentId intent.amountCents

/-- Different requests stand on different reservations. -/
theorem requested_le_reserved (bounded : Bounded app world) :
    requestedCents orderId provider paymentId world ≤ reservedCents orderId provider world.hub.db := by
  unfold requestedCents reservedCents
  dsimp only
  generalize listed : (world.requested.filter fun refund =>
    originalOrder refund.command.refund.returnId world.hub.db = some orderId ∧ refund.provider = provider ∧
      refund.request.providerPaymentId = paymentId).map RequestedRefund.request = requests
  let intents := world.hub.db.returns.refundIntents.filter (reservesFor orderId provider world.hub.db)
  have covered : requests.dedup ⊆ intents.map (requestFor paymentId) := by
    intro request member
    rw [List.mem_dedup, ← listed] at member
    obtain ⟨refund, selected, rfl⟩ := List.mem_map.mp member
    obtain ⟨present, own⟩ := List.mem_filter.mp selected
    obtain ⟨mine, rfl, rfl⟩ := of_decide_eq_true own
    obtain ⟨_, _, intent, sanctioned⟩ := bounded.stands refund present
    refine List.mem_map.mpr ⟨intent, List.mem_filter.mpr ⟨sanctioned.reserved, ?_⟩, ?_⟩
    · exact decide_eq_true ⟨by rw [sanctioned.own]; exact mine, sanctioned.tender⟩
    · rw [sanctioned.request, requestFor, sanctioned.id]
      rfl
  obtain ⟨between, same, within⟩ := List.subperm_of_subset (List.nodup_dedup requests) covered
  calc (requests.dedup.map RefundRequest.amountCents).sum
      = (between.map RefundRequest.amountCents).sum := (same.map _).sum_nat.symm
    _ ≤ ((intents.map (requestFor paymentId)).map RefundRequest.amountCents).sum := (within.map _).sum_le_sum (by simp)
    _ = (intents.map RefundIntentRow.amountCents).sum := by rw [List.map_map]; rfl

/-- Only the payment that refunds go back to is asked for anything. -/
theorem requested_le_paid (bounded : Bounded app world) (stored : orderOf orderId world.hub.db = some order) :
    requestedCents orderId provider paymentId world ≤ paidCents provider paymentId order := by
  by_cases none : (world.requested.filter fun refund =>
      originalOrder refund.command.refund.returnId world.hub.db = some orderId ∧ refund.provider = provider ∧
        refund.request.providerPaymentId = paymentId) = []
  · simp only [requestedCents, none, List.map_nil, List.dedup_nil, List.sum_nil]
    exact Nat.zero_le _
  · obtain ⟨refund, selected⟩ := List.exists_mem_of_ne_nil _ none
    obtain ⟨present, own⟩ := List.mem_filter.mp selected
    obtain ⟨mine, rfl, rfl⟩ := of_decide_eq_true own
    obtain ⟨id, found, _, sanctioned⟩ := bounded.stands refund present
    obtain rfl : id = orderId := Option.some.inj (sanctioned.original.symm.trans mine)
    obtain rfl : found = order := Option.some.inj (sanctioned.stored.symm.trans stored)
    calc requestedCents id refund.provider refund.request.providerPaymentId world
        ≤ reservedCents id refund.provider world.hub.db := requested_le_reserved bounded
      _ ≤ refundableCents refund.provider found := bounded.within id refund.provider found stored sanctioned.moves
      _ = paidCents refund.provider refund.request.providerPaymentId found := refundableCents_eq sanctioned.payment

end Bounds

/-- Nothing has been requested yet, and what is reserved of a payment is within it. -/
structure Opening {Remote : Type} (app : AppState) (world : DeskWorld Remote) : Prop where
  within : Within app world.hub.db
  requested : world.requested = []

/-- In every run in which reservations stay within the payment that they go back to, no
more is requested against a payment than was paid with it, over all returns of an order. -/
theorem refunds_within_payment {Remote Answer : Type} (app : AppState) (providers : Providers Remote Answer)
    (world : DeskWorld Remote) (opening : Opening app world) (events : List (Event (Choice Answer) RefundCommand))
    (meets : (withinPayments app).RunMeets (refundDesk app providers) (Pool.quiet world) events) :
    let after := ((refundDesk app providers).run (Pool.quiet world) events).world
    ∀ orderId, ∀ order ∈ orderOf orderId after.hub.db, ∀ provider paymentId,
      requestedCents orderId provider paymentId after ≤ paidCents provider paymentId order := by
  intro after orderId order stored provider paymentId
  have begins : Bounded app world := ⟨opening.within, by simp [opening.requested]⟩
  have bounded : Bounded app after :=
    Rules.reached (refunds_assured providers) rfl begins (fun command _ => program_granted app providers command) meets
  exact requested_le_paid bounded stored

section Runs
open Attempts

def paidWith (provider paymentId : Option String) (cents : Nat) : NewOrderPaymentEntry :=
  { tenderId := .random 20, tenderType := provider.getD "cash", amountCents := cents, tipAmountCents := 0
    externalReference := none, provider := provider, providerPaymentId := paymentId, entryMethod := none }

/-- A sale of 100.00, and an open return of all of it. -/
def returned (cardCents : Nat) : DeskWorld RemotePayments :=
  { hub :=
      { db :=
          { responses := [], carts := [], paymentIntents := [], outbox := []
            orders := [{ orderId := .random 50, cartId := .random 10, storeId := .random 1, registerId := .random 2
                         shiftId := none, subtotalCents := 10000, discountCents := 0, taxCents := 0
                         totalCents := 10000, submissionId := none, lines := []
                         payments := [paidWith (some "card") (some "pay_1") cardCents,
                           paidWith none none (10000 - cardCents)]
                         fiscal := ⟨none, none, none, none, none, false⟩ }]
            returns := { returns := [⟨.random 60, .random 1, .random 2, none, some (.random 50), none, .items, 10000, 0,
                           0, none⟩], returnLines := [], refunds := [], refundIntents := [] } }
        remote := .empty }
    requested := [] }

def refundToCard (key cents : Nat) : Event (Choice ProviderAnswer) RefundCommand :=
  .start
    { boundRegister := none
      envelope := { version := .v1_0_0, idempotencyKey := .random key, storeId := .random 1, registerId := .random 2
                    payload := .refundTender ⟨.random 60, "card", cents, none⟩ }
      refund := ⟨.random 60, "card", cents, none⟩ }

def answers (count : Nat) : List (Event (Choice ProviderAnswer) RefundCommand) :=
  (List.range count).map fun step => .step 0 (choice step (500 + step) approves)

private theorem returned_opening (cardCents : Nat) : Opening shop (returned cardCents) where
  within _ _ _ _ _ := Nat.zero_le _
  requested := rfl

/-- The card paid for all of it, and is refunded in two parts. -/
theorem refunds_in_two_parts :
    let after := ((refundDesk shop contractual).run (Pool.quiet (returned 10000))
      (refundToCard 100 4000 :: answers 14 ++ refundToCard 101 6000 :: answers 14)).world
    requestedCents (.random 50) "card" "pay_1" after = 10000 ∧
      ∀ orderId, ∀ order ∈ orderOf orderId after.hub.db, ∀ provider paymentId,
        requestedCents orderId provider paymentId after ≤ paidCents provider paymentId order :=
  ⟨by decide +kernel, refunds_within_payment shop contractual _ (returned_opening 10000) _ (by decide +kernel)⟩

/-- A tenth was paid by card, the rest in cash; all of it is refunded to the card. -/
theorem cash_is_refunded_to_the_card :
    ¬∀ (app : AppState) (world : DeskWorld RemotePayments) (events : List (Event (Choice ProviderAnswer) RefundCommand)),
      Opening app world →
      let after := ((refundDesk app contractual).run (Pool.quiet world) events).world
      ∀ orderId, ∀ order ∈ orderOf orderId after.hub.db, ∀ provider paymentId,
        requestedCents orderId provider paymentId after ≤ paidCents provider paymentId order := by
  intro all
  have bound := all shop (returned 1000) (refundToCard 100 10000 :: answers 14) (returned_opening 1000) (.random 50)
  have exceeds : ∃ order ∈ orderOf (.random 50) ((refundDesk shop contractual).run (Pool.quiet (returned 1000))
      (refundToCard 100 10000 :: answers 14)).world.hub.db,
      paidCents "card" "pay_1" order < requestedCents (.random 50) "card" "pay_1"
        ((refundDesk shop contractual).run (Pool.quiet (returned 1000))
          (refundToCard 100 10000 :: answers 14)).world := by decide +kernel
  obtain ⟨order, stored, exceeds⟩ := exceeds
  exact absurd (bound order stored "card" "pay_1") (Nat.not_le.mpr exceeds)

end Runs
end ApexEdge.Proofs.RefundBounds
