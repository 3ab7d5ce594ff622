import ApexEdge.Library.Program
import ApexEdge.Payment.Provider

/-! The server-driven Stripe Terminal adapter: create a manual-capture payment
intent, hand it to the reader, poll the reader's action until it resolves, and
confirm. Every HTTP exchange is one request of the program. -/

namespace ApexEdge.Payment.StripeTerminal
open Library

/-- A decoded JSON value. Only unsigned integers answer `asU64`. -/
inductive Json where
  | null
  | bool (value : Bool)
  | unsigned (value : Nat)
  | number (text : String)
  | string (value : String)
  | array (items : List Json)
  | object (fields : List (String × Json))

namespace Json

def get (json : Json) (key : String) : Option Json :=
  match json with
  | .object fields => fields.lookup key
  | _ => none

def asStr (json : Json) : Option String :=
  match json with
  | .string value => some value
  | _ => none

def asU64 (json : Json) : Option Nat :=
  match json with
  | .unsigned value => some value
  | _ => none

end Json

/-- A failure of the HTTP client, while sending or while reading the body. -/
structure ClientError where
  isTimeout : Bool
  message : String
  deriving DecidableEq

structure StatusCode where
  code : Nat
  reason : String
  deriving DecidableEq

namespace StatusCode

def isSuccess (status : StatusCode) : Bool := 200 ≤ status.code && status.code < 300

def isNotFound (status : StatusCode) : Bool := status.code == 404

def toString (status : StatusCode) : String := s!"{status.code} " ++ status.reason

end StatusCode

/-- A body as text, and what a JSON reader makes of it. -/
structure Body where
  text : String
  json : Except String Json

inductive HttpAnswer where
  | failed (error : ClientError)
  | response (status : StatusCode) (body : Except ClientError Body)

inductive HttpRequest where
  | post (path : String) (idempotencyKey : Uuid) (form : List (String × String))
  | get (path : String)
  deriving DecidableEq

/-- A call of the adapter: HTTP requests until a value or an error. -/
abbrev Call := Fallible HttpRequest (fun _ => HttpAnswer) PaymentProviderError

def providerCode : String := "stripe_terminal"

structure Config where
  readerId : String

def transportError (error : ClientError) : PaymentProviderError :=
  if error.isTimeout then
    .indeterminate providerCode none ("request timed out: " ++ error.message)
  else .transport providerCode error.message

def parse (status : StatusCode) (body : Except ClientError Body) : Except PaymentProviderError Json :=
  match body with
  | .error error => .error (transportError error)
  | .ok body =>
    if status.isNotFound then .error (.paymentNotFound "")
    else if !status.isSuccess then
      .error (.indeterminate providerCode none
        ("stripe returned " ++ status.toString ++ ": " ++ body.text))
    else
      match body.json with
      | .ok json => .ok json
      | .error error => .error (.indeterminate providerCode none ("unreadable stripe response: " ++ error))

/-- What the shared request helpers make of one exchange. -/
def decode (answer : HttpAnswer) : Except PaymentProviderError Json :=
  match answer with
  | .failed error => .error (transportError error)
  | .response status body => parse status body

def postForm (path : String) (idempotencyKey : Uuid) (form : List (String × String)) : Call Json := do
  let answer ← Fallible.ask (.post path idempotencyKey form)
  .ofExcept (decode answer)

def get (path : String) : Call Json := do
  let answer ← Fallible.ask (.get path)
  .ofExcept (decode answer)

inductive ReaderAction where
  | succeeded
  | failed (code message : String)
  deriving DecidableEq

/-- The part of a reader's state the poll looks at. `none` while unresolved. -/
def readerAction (reader : Json) : Option ReaderAction :=
  let action := reader.get "action"
  let status := ((action.bind (·.get "status")).bind Json.asStr).getD "in_progress"
  if status = "succeeded" then some .succeeded
  else if status = "failed" then
    some (.failed
      (((action.bind (·.get "failure_code")).bind Json.asStr).getD "reader_action_failed")
      (((action.bind (·.get "failure_message")).bind Json.asStr).getD
        "The reader could not complete the payment."))
  else none

def readerPath (config : Config) : String := "/v1/terminal/readers/" ++ config.readerId

/-- Poll the reader until its action resolves. `patience` is the number of
unresolved polls that still fall before the deadline. -/
def awaitReaderAction (config : Config) (paymentIntentId : String) (patience : Nat) :
    Call ReaderAction := do
  let reader ← get (readerPath config)
  match readerAction reader with
  | some action => return action
  | none =>
    match patience with
    | 0 =>
      throw (.indeterminate providerCode (some paymentIntentId)
        "reader action did not resolve before the deadline")
    | patience + 1 => awaitReaderAction config paymentIntentId patience

def entryMethod (readMethod : String) : PaymentEntryMethod :=
  if readMethod = "contactless_emv" ∨ readMethod = "contactless_magstripe_mode" then .contactless
  else if readMethod = "magnetic_stripe_track2" ∨ readMethod = "magnetic_stripe_fallback" then .swipe
  else .dip

def receiptFromIntent (intent : Json) (providerPaymentId : String) : PaymentProviderReceipt :=
  let cardPresent := ((intent.get "latest_charge").bind (·.get "payment_method_details")).bind
    (·.get "card_present")
  let receipt := cardPresent.bind (·.get "receipt")
  { provider := providerCode
    providerPaymentId := providerPaymentId
    entryMethod := (((cardPresent.bind (·.get "read_method")).bind Json.asStr).map entryMethod).or
      (some .contactless)
    last4 := (cardPresent.bind (·.get "last4")).bind Json.asStr
    aid := (receipt.bind (·.get "dedicated_file_name")).bind Json.asStr
    authorizationCode := (receipt.bind (·.get "authorization_code")).bind Json.asStr }

def intentsPath : String := "/v1/payment_intents"

def intentPath (id : String) : String := "/v1/payment_intents/" ++ id

def processPath (config : Config) : String := readerPath config ++ "/process_payment_intent"

def confirmPath (id : String) : String := intentPath id ++ "?expand[]=latest_charge"

def createForm (request : AuthorizeRequest) : List (String × String) :=
  [("amount", toString request.amountCents),
   ("currency", request.currency.toLower),
   ("payment_method_types[]", "card_present"),
   -- Manual capture keeps the window between card and order short and reversible.
   ("capture_method", "manual"),
   ("metadata[cart_id]", request.cartId.toString),
   ("metadata[store_id]", request.storeId.toString),
   ("metadata[register_id]", request.registerId.toString),
   ("metadata[tip_cents]", toString request.tipAmountCents)]

/-- The id of the payment intent in a create answer. -/
def intentId (intent : Json) : Except PaymentProviderError String :=
  match (intent.get "id").bind Json.asStr with
  | some id => .ok id
  | none => .error (.indeterminate providerCode none "stripe did not return a payment intent id")

/-- The amount of the confirmed intent decides what was approved. -/
def approval (request : AuthorizeRequest) (paymentIntentId : String) (confirmed : Json) :
    PaymentAuthorization :=
  let approvedCents := ((confirmed.get "amount").bind Json.asU64).getD request.amountCents
  { provider := providerCode
    providerPaymentId := paymentIntentId
    approvedCents := approvedCents
    tipAmountCents := request.tipAmountCents
    outcome := if approvedCents < request.amountCents then .partiallyApproved request.amountCents
      else .approved
    receipt := some (receiptFromIntent confirmed paymentIntentId) }

def decline (paymentIntentId code message : String) : PaymentAuthorization :=
  { provider := providerCode
    providerPaymentId := paymentIntentId
    approvedCents := 0
    tipAmountCents := 0
    outcome := .declined code message
    receipt := none }

def authorize (config : Config) (patience : Nat) (request : AuthorizeRequest) :
    Call PaymentAuthorization := do
  .ofExcept (validateAmount request.amountCents)
  let intent ← postForm intentsPath request.idempotencyKey (createForm request)
  let paymentIntentId ← .ofExcept (intentId intent)
  let _ ← postForm (processPath config) request.idempotencyKey [("payment_intent", paymentIntentId)]
  match ← awaitReaderAction config paymentIntentId patience with
  | .failed code message => return decline paymentIntentId code message
  | .succeeded =>
    let confirmed ← get (confirmPath paymentIntentId)
    return approval request paymentIntentId confirmed

def capture (request : CaptureRequest) : Call PaymentCapture := do
  .ofExcept (validateAmount request.amountCents)
  let captured ← postForm (intentPath request.providerPaymentId ++ "/capture") request.idempotencyKey
    [("amount_to_capture", toString request.amountCents)]
  return {
    provider := providerCode
    providerPaymentId := request.providerPaymentId
    capturedCents := ((captured.get "amount_received").bind Json.asU64).getD request.amountCents
    receipt := receiptFromIntent captured request.providerPaymentId }

def status (json : Json) : Option String := (json.get "status").bind Json.asStr

/-- A pending refund is looked up once more before it is judged. -/
def settledRefund (refund : Json) : Call Json :=
  if status refund = some "pending" then
    match (refund.get "id").bind Json.asStr with
    | some id => get ("/v1/refunds/" ++ id)
    | none => return refund
  else return refund

def reversalForm (request : VoidRequest) : List (String × String) :=
  match request.reason with
  | some reason => [("metadata[reversal_reason]", reason)]
  | none => []

def cancellable (status : Option String) : Bool :=
  status == some "requires_capture" || status == some "requires_payment_method" ||
    status == some "requires_confirmation" || status == some "requires_action"

def void (request : VoidRequest) : Call Unit := do
  let intent ← get (intentPath request.providerPaymentId)
  if status intent = some "canceled" then return ()
  else if status intent = some "succeeded" then
    -- No amount means the full remaining capture.
    let refund ← postForm "/v1/refunds" request.idempotencyKey
      (reversalForm request ++ [("payment_intent", request.providerPaymentId)])
    let refund ← settledRefund refund
    if status refund = some "succeeded" then return ()
    else
      throw (.indeterminate providerCode (some request.providerPaymentId)
        "capture reversal refund is not confirmed")
  else if cancellable (status intent) then
    let _ ← postForm (intentPath request.providerPaymentId ++ "/cancel") request.idempotencyKey
      (reversalForm request)
    return ()
  else
    throw (.indeterminate providerCode (some request.providerPaymentId)
      "payment state is not yet reversible")

def refundForm (request : RefundRequest) : List (String × String) :=
  [("payment_intent", request.providerPaymentId), ("amount", toString request.amountCents)] ++
  match request.reason with
  | some reason => [("metadata[reason]", reason)]
  | none => []

def refund (request : RefundRequest) : Call PaymentRefund := do
  .ofExcept (validateAmount request.amountCents)
  let refund ← postForm "/v1/refunds" request.idempotencyKey (refundForm request)
  let refund ← settledRefund refund
  if status refund ≠ some "succeeded" then
    throw (.indeterminate providerCode (some request.providerPaymentId) "refund is not confirmed")
  else
    match (refund.get "id").bind Json.asStr with
    | none =>
      throw (.indeterminate providerCode (some request.providerPaymentId)
        "stripe did not return a refund id")
    | some providerRefundId =>
      return {
        provider := providerCode
        providerRefundId := providerRefundId
        refundedCents := ((refund.get "amount").bind Json.asU64).getD request.amountCents
        receipt := receiptFromIntent refund request.providerPaymentId }

end ApexEdge.Payment.StripeTerminal
