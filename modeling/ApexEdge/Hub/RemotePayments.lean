import ApexEdge.Hub.Step

/-! Providers that keep their contract: at most one payment for an idempotency
key, no id given out twice, and a confirmed void releases the money. Whether a
call succeeds, and how it fails, is left open. -/

namespace ApexEdge.Hub
open Library Payment

inductive Funds where
  /-- Authorized or captured, and not given back. -/
  | held
  /-- Never taken, expired, or given back with nobody told. -/
  | free
  /-- Given back, and the void was confirmed. -/
  | voided
  deriving DecidableEq, Repr

/-- Asking for the money again never takes it a second time. -/
def Funds.asked (funds : Funds) (holds : Bool) : Funds := if funds = .free ∧ holds then .held else funds

def Funds.released (funds : Funds) (holds : Bool) : Funds := if funds = .held ∧ !holds then .free else funds

structure RemotePayment where
  provider : String
  /-- The idempotency key of the authorization that created the payment. -/
  key : Uuid
  id : String
  funds : Funds
  deriving DecidableEq, Repr

structure RemotePayments where
  all : List RemotePayment
  keys : (all.map fun payment => (payment.provider, payment.key)).Nodup
  ids : (all.map fun payment => (payment.provider, payment.id)).Nodup

/-- How a call fails. Only an indeterminate result can name the payment. -/
inductive ProviderFailure where
  | invalidAmount
  | notConfigured
  | paymentNotFound
  | timeout
  | transport (message : String)
  | indeterminate (named : Bool) (message : String)
  deriving DecidableEq, Repr

def ProviderFailure.error (failure : ProviderFailure) (provider : String) (id : Option String) :
    PaymentProviderError :=
  match failure with
  | .invalidAmount => .invalidAmount
  | .notConfigured => .notConfigured provider
  | .paymentNotFound => .paymentNotFound ""
  | .timeout => .timeout provider
  | .transport message => .transport provider message
  | .indeterminate named message => .indeterminate provider (if named then id else none) message

structure ProviderAnswer where
  /-- The id of the payment that an authorization creates, if it gets that far. -/
  creates : Option String
  /-- The provider holds the funds when the call is over. -/
  holds : Bool
  failure : Option ProviderFailure
  outcome : AuthorizationOutcome
  cents : Nat
  tipCents : Nat
  receipt : PaymentProviderReceipt
  refundId : String
  deriving DecidableEq, Repr

namespace RemotePayments

def empty : RemotePayments := ⟨[], List.nodup_nil, List.nodup_nil⟩

def created (provider : String) (key : Uuid) (payments : RemotePayments) : Option RemotePayment :=
  payments.all.find? fun payment => payment.provider = provider ∧ payment.key = key

def named (provider : String) (id : String) (payments : RemotePayments) : Option RemotePayment :=
  payments.all.find? fun payment => payment.provider = provider ∧ payment.id = id

/-- Change where the funds are, never what identifies a payment. -/
def change (selects : RemotePayment → Bool) (funds : Funds → Funds) (payments : RemotePayments) :
    RemotePayments :=
  let update : Table.Update RemotePayment :=
    { selects := selects, set := fun payment => { payment with funds := funds payment.funds } }
  { all := update.run payments.all
    keys := by
      rw [Table.Update.run, List.map_map]
      convert payments.keys using 2
      funext payment
      exact update.row_column (fun payment => (payment.provider, payment.key)) (fun _ => rfl) payment
    ids := by
      rw [Table.Update.run, List.map_map]
      convert payments.ids using 2
      funext payment
      exact update.row_column (fun payment => (payment.provider, payment.id)) (fun _ => rfl) payment }

def Unused (payment : RemotePayment) (payments : RemotePayments) : Prop :=
  ∀ old ∈ payments.all, old.provider = payment.provider → old.key ≠ payment.key ∧ old.id ≠ payment.id

instance (payment : RemotePayment) (payments : RemotePayments) : Decidable (payments.Unused payment) :=
  inferInstanceAs (Decidable (∀ old ∈ payments.all, _))

def create (payment : RemotePayment) (payments : RemotePayments) : RemotePayments :=
  if unused : payments.Unused payment then
    { all := payment :: payments.all
      keys := by
        rw [List.map_cons, List.nodup_cons]
        refine ⟨?_, payments.keys⟩
        intro member
        obtain ⟨old, present, same⟩ := List.mem_map.mp member
        exact (unused old present (congrArg Prod.fst same)).1 (congrArg Prod.snd same)
      ids := by
        rw [List.map_cons, List.nodup_cons]
        refine ⟨?_, payments.ids⟩
        intro member
        obtain ⟨old, present, same⟩ := List.mem_map.mp member
        exact (unused old present (congrArg Prod.fst same)).2 (congrArg Prod.snd same) }
  else payments

/-- A new key may create a payment; a known one comes back to its payment. -/
def attempt (answer : ProviderAnswer) (provider : String) (key : Uuid) (payments : RemotePayments) :
    RemotePayments :=
  match payments.created provider key, answer.creates with
  | some _, _ =>
    payments.change (fun payment => payment.provider = provider ∧ payment.key = key) (·.asked answer.holds)
  | none, some id =>
    payments.create { provider := provider, key := key, id := id, funds := if answer.holds then .held else .free }
  | none, none => payments

def authorize (answer : ProviderAnswer) (payments : RemotePayments) (provider : String)
    (request : AuthorizeRequest) : Except PaymentProviderError PaymentAuthorization × RemotePayments :=
  let after := payments.attempt answer provider request.idempotencyKey
  let payment := after.created provider request.idempotencyKey
  match answer.failure, payment with
  | some failure, _ => (.error (failure.error provider (payment.map RemotePayment.id)), after)
  | none, none => (.error (.transport provider "no payment was created"), after)
  | none, some payment =>
    (.ok { provider := provider, providerPaymentId := payment.id, approvedCents := answer.cents
           tipAmountCents := answer.tipCents, outcome := answer.outcome, receipt := some answer.receipt }, after)

/-- Only money that is held can be captured. -/
def capture (answer : ProviderAnswer) (payments : RemotePayments) (provider : String)
    (request : CaptureRequest) : Except PaymentProviderError PaymentCapture × RemotePayments :=
  match payments.named provider request.providerPaymentId, answer.failure with
  | none, _ => (.error (.paymentNotFound request.providerPaymentId), payments)
  | some _, some failure => (.error (failure.error provider (some request.providerPaymentId)), payments)
  | some payment, none =>
    if payment.funds = .held then
      (.ok { provider := provider, providerPaymentId := payment.id, capturedCents := answer.cents
             receipt := answer.receipt }, payments)
    else (.error (.paymentNotFound request.providerPaymentId), payments)

/-- A void whose answer is lost may have released the money all the same. -/
def void (answer : ProviderAnswer) (payments : RemotePayments) (provider : String) (request : VoidRequest) :
    Except PaymentProviderError Unit × RemotePayments :=
  let selects (payment : RemotePayment) : Bool :=
    payment.provider = provider ∧ payment.id = request.providerPaymentId
  match payments.named provider request.providerPaymentId, answer.failure with
  | none, _ => (.error (.paymentNotFound request.providerPaymentId), payments)
  | some _, some failure =>
    (.error (failure.error provider (some request.providerPaymentId)),
      payments.change selects (·.released answer.holds))
  | some _, none => (.ok (), payments.change selects fun _ => .voided)

def refund (answer : ProviderAnswer) (payments : RemotePayments) (provider : String)
    (request : RefundRequest) : Except PaymentProviderError PaymentRefund × RemotePayments :=
  match payments.named provider request.providerPaymentId, answer.failure with
  | none, _ => (.error (.paymentNotFound request.providerPaymentId), payments)
  | some _, some failure => (.error (failure.error provider (some request.providerPaymentId)), payments)
  | some _, none =>
    (.ok { provider := provider, providerRefundId := answer.refundId, refundedCents := request.amountCents
           receipt := answer.receipt }, payments)

end RemotePayments

/-- The providers of a hub, as their contract describes them. -/
def contractual : Providers RemotePayments ProviderAnswer :=
  { authorize := RemotePayments.authorize, capture := RemotePayments.capture
    void := RemotePayments.void, refund := RemotePayments.refund }

end ApexEdge.Hub
