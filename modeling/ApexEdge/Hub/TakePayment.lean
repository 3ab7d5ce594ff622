import ApexEdge.Hub.Step

/-! Taking the money for one tender. Manual tenders pass straight through;
provider-backed ones authorize, then capture, and leave a durable intent. A background
sweep voids money taken for a sale which never completed. -/

namespace ApexEdge.Hub
open Library Payment Domain Storage Contracts

/-- Provider code of a tender that the hub did not process itself. -/
def manualProvider : String := "manual"

structure AppState where
  storeId : Uuid
  /-- Codes of the configured payment providers. -/
  providers : List String
  currency : String
  deriving DecidableEq

inductive ProviderChoice where
  | manualTender
  | provider (code : String)
  | unknown (code : String)
  deriving DecidableEq

def AppState.resolve (app : AppState) (code : Option String) : ProviderChoice :=
  match code with
  | none => .manualTender
  | some code =>
    if code = manualProvider then .manualTender
    else if code ∈ app.providers then .provider code
    else .unknown code

theorem AppState.resolve_provider {app : AppState} {requested : Option String} {code : String}
    (resolved : app.resolve requested = .provider code) :
    requested = some code ∧ code ≠ manualProvider := by
  unfold resolve at resolved
  cases requested with
  | none => cases resolved
  | some wanted =>
    dsimp only at resolved
    split at resolved
    next => cases resolved
    next processed =>
      split at resolved
      next => cases resolved; exact ⟨rfl, processed⟩
      next => cases resolved

def providerIdempotencyKey (envelopeKey tenderId : Uuid) (operation : String) : Uuid :=
  .named envelopeKey tenderId operation

/-- Everything the payment path needs to identify one tender attempt. -/
structure TakePaymentContext where
  idempotencyKey : Uuid
  storeId : Uuid
  registerId : Uuid
  cartId : Uuid
  tenderId : Uuid
  amountCents : Nat
  tipAmountCents : Nat
  requestedProvider : Option String

/-- A tender the store actually holds, ready to be recorded on the cart. -/
structure CapturedTender where
  /-- `none` for manual tenders, which contact no provider. -/
  intentId : Option Uuid
  provider : Option String
  providerPaymentId : Option String
  entryMethod : Option PaymentEntryMethod
  amountCents : Nat
  tipAmountCents : Nat

/-- What a provider-backed tender says of its intent. -/
def CapturedTender.ofIntent (tender : CapturedTender) (tenderId : Uuid) : Option IntentTender := do
  let intent ← tender.intentId
  let provider ← tender.provider
  return ⟨intent, provider, tenderId, tender.providerPaymentId⟩

structure PaymentFailure where
  code : String
  message : String

def TakePaymentContext.newPaymentIntent (ctx : TakePaymentContext) (provider : String) : NewPaymentIntent :=
  { storeId := ctx.storeId, registerId := ctx.registerId, cartId := ctx.cartId, tenderId := ctx.tenderId
    idempotencyKey := ctx.idempotencyKey, provider := provider, amountCents := ctx.amountCents
    tipAmountCents := ctx.tipAmountCents }

def TakePaymentContext.authorizeRequest (ctx : TakePaymentContext) (currency : String) : AuthorizeRequest :=
  { idempotencyKey := providerIdempotencyKey ctx.idempotencyKey ctx.tenderId "authorize"
    cartId := ctx.cartId, storeId := ctx.storeId, registerId := ctx.registerId
    amountCents := ctx.amountCents, tipAmountCents := ctx.tipAmountCents, currency := currency }

/-- Record a new authorization, or return the existing one when the command was retried. -/
def insertPaymentIntent (frame : Frame) (input : NewPaymentIntent) : Action PoolError PaymentIntentRow := do
  let existing ← (reply frame
    (.findPaymentIntent input.idempotencyKey input.provider input.tenderId)).orThrow id
  match existing with
  | some row => return row
  | none =>
    let id ← reply frame .newId
    (reply frame (.insertPaymentIntent id input)).orThrow fun error => error

def resumedTender (intent : PaymentIntentRow) : CapturedTender :=
  { intentId := some intent.id, provider := some intent.provider
    providerPaymentId := intent.providerPaymentId, entryMethod := none
    amountCents := intent.approvedCents, tipAmountCents := intent.tipAmountCents }

def manualTender (ctx : TakePaymentContext) : CapturedTender :=
  { intentId := none, provider := ctx.requestedProvider, providerPaymentId := none, entryMethod := none
    amountCents := ctx.amountCents, tipAmountCents := ctx.tipAmountCents }

/-- What happens once the provider approved: capture, and write the capture down. -/
def captureApproved (frame : Frame) (ctx : TakePaymentContext) (provider : String) (paying : IntentTender)
    (authorization : PaymentAuthorization) : Action PaymentFailure CapturedTender := do
  let approved := { paying with paymentId := some authorization.providerPaymentId }
  let captured ← reply { frame with paying := some approved } (.capture provider
    { idempotencyKey := providerIdempotencyKey ctx.idempotencyKey ctx.tenderId "capture"
      providerPaymentId := authorization.providerPaymentId
      amountCents := authorization.approvedCents })
  match captured with
  | .error error =>
    if error.requiresReversalCheck then
      let _ ← reply { frame with paying := some approved } (.flagPaymentIntentForReversal paying.intent
        (some authorization.providerPaymentId) error.toString)
      throw ⟨"PAYMENT_INDETERMINATE",
        "The capture did not confirm and is being reconciled: " ++ error.toString⟩
    else
      -- Never captured, so nothing is owed back; it will expire at the provider.
      let _ ← reply { frame with paying := some approved } (.markPaymentIntentFailed paying.intent error.toString)
      throw ⟨"PAYMENT_FAILED", error.toString⟩
  | .ok capture =>
    let taken := { paying with provider := capture.provider, paymentId := some capture.providerPaymentId }
    -- A failing write is only logged: the money is taken either way.
    let _ ← reply { frame with paying := some taken } (.markPaymentIntentCaptured paying.intent
      capture.providerPaymentId capture.capturedCents)
    return {
      intentId := some paying.intent, provider := some capture.provider
      providerPaymentId := some capture.providerPaymentId, entryMethod := capture.receipt.entryMethod
      amountCents := capture.capturedCents, tipAmountCents := authorization.tipAmountCents }

def authorizeIntent (app : AppState) (frame : Frame) (ctx : TakePaymentContext) (provider : String)
    (intent : PaymentIntentRow) : Action PaymentFailure CapturedTender := do
  let paying : IntentTender :=
    { intent := intent.id, provider := provider, tenderId := ctx.tenderId, paymentId := none }
  let frame' := { frame with paying := some paying }
  match ← reply frame' (.authorize provider (ctx.authorizeRequest app.currency)) with
  | .error error =>
    if error.requiresReversalCheck then
      let _ ← reply frame' (.flagPaymentIntentForReversal intent.id error.indeterminatePaymentId error.toString)
      throw ⟨"PAYMENT_INDETERMINATE",
        "The terminal did not confirm the payment and it is being reconciled: " ++ error.toString⟩
    else
      let _ ← reply frame' (.markPaymentIntentFailed intent.id error.toString)
      throw ⟨"PAYMENT_FAILED", error.toString⟩
  | .ok authorization =>
    if authorization.isApproved then captureApproved frame ctx provider paying authorization
    else
      let (code, message) := authorization.declinedReason.getD ("declined", "The payment was declined.")
      let _ ← reply frame' (.markPaymentIntentDeclined intent.id code)
      throw ⟨"PAYMENT_DECLINED", message⟩

/-- Obtain funds for one tender. -/
def takePayment (app : AppState) (frame : Frame) (ctx : TakePaymentContext) :
    Action PaymentFailure CapturedTender := do
  match app.resolve ctx.requestedProvider with
  | .manualTender => return manualTender ctx
  | .unknown code =>
    throw ⟨"PAYMENT_PROVIDER_UNKNOWN", "Payment provider '" ++ code ++ "' is not configured on this hub"⟩
  | .provider provider =>
    let intent ← (insertPaymentIntent frame (ctx.newPaymentIntent provider)).mapError fun error =>
      ⟨"PAYMENT_LEDGER_UNAVAILABLE", "Could not record the payment attempt: " ++ error.toString⟩
    -- A retried command finds its intent captured and is answered from the ledger.
    if intent.state = .captured ∨ intent.state = .settled then return resumedTender intent
    else authorizeIntent app frame ctx provider intent

structure ReversalSweepPolicy where
  staleCaptureAfter : Nat
  batch : Nat
  deriving DecidableEq, Repr

def sweepFrame (owed : List PaymentIntentRow) : Frame := { Frame.ofKey none with owed := owed }

def voidRequest (intent : PaymentIntentRow) (providerPaymentId : String) : VoidRequest :=
  { idempotencyKey := intent.id, providerPaymentId := providerPaymentId
    reason := some "sale did not complete" }

def recordReversalFailure (frame : Frame) (intent : PaymentIntentRow) (error : String) :
    Action PoolError Unit :=
  (reply frame (.recordPaymentIntentReversalFailure intent.id error)).orThrow fun error => error

/-- Give back what is owed, one intent after the other. A provider's refusal keeps
the intent queued, a storage error ends the sweep. -/
def reverseOwed (app : AppState) (owed : List PaymentIntentRow) (reversed : Nat) : Action PoolError Nat :=
  match owed with
  | [] => return reversed
  | intent :: rest => do
    let frame := sweepFrame (intent :: rest)
    match intent.providerPaymentId with
    | none =>
      -- Nothing to give back is assumed, so the row is closed rather than retried forever.
      (reply frame (.markPaymentIntentReversed intent.id)).orThrow fun error => error
      reverseOwed app rest reversed
    | some providerPaymentId =>
      match app.resolve (some intent.provider) with
      | .provider provider =>
        match ← reply frame (.void provider (voidRequest intent providerPaymentId)) with
        | .ok () =>
          (reply { frame with voided := true } (.markPaymentIntentReversed intent.id)).orThrow fun error => error
          reverseOwed app rest (reversed + 1)
        | .error error =>
          recordReversalFailure frame intent error.toString
          reverseOwed app rest reversed
      | .manualTender | .unknown _ =>
        recordReversalFailure frame intent
          ("provider " ++ intent.provider ++ " is not configured on this hub")
        reverseOwed app rest reversed

def runPaymentReversalSweep (app : AppState) (policy : ReversalSweepPolicy) : Action PoolError Nat := do
  (reply (sweepFrame []) (.flagStaleCapturedPaymentIntents policy.staleCaptureAfter)).orThrow fun error => error
  let owed ← (reply (sweepFrame []) (.fetchPaymentIntentsAwaitingReversal policy.batch)).orThrow
    fun error => error
  let reversed ← reverseOwed app owed 0
  -- What is still owed is only counted.
  let _ ← (reply (sweepFrame []) (.fetchPaymentIntentsAwaitingReversal 65535)).orThrow fun error => error
  return reversed

end ApexEdge.Hub
