import ApexEdge.Outbox.Dispatcher

/-! Headquarters, as the tools of the repository have it: orders are stored by submission, and
one that arrives again is left as it was. Then the hub and headquarters together, with what
becomes of every request between them. Counters and the pages of the list are left out. -/

namespace ApexEdge.Outbox
open Library Payment Domain Storage Payment.StripeTerminal

structure HqPayment where
  amountCents : UInt64
  externalReference : Option String
  deriving DecidableEq

structure HqOrderPayload where
  orderId : Uuid
  /-- The lines by their ids. -/
  lines : List Uuid
  discountCents : UInt64
  taxCents : UInt64
  totalCents : UInt64
  payments : List HqPayment
  deriving DecidableEq

structure HqOrderSubmissionEnvelope where
  submissionId : Uuid
  storeId : Uuid
  registerId : Uuid
  sequenceNumber : UInt64
  order : HqOrderPayload
  submittedAt : Timestamp
  deriving DecidableEq

namespace Headquarters

/-- A row of `received_orders`. -/
structure ReceivedOrder where
  submissionId : Uuid
  orderId : Uuid
  storeId : Uuid
  registerId : Uuid
  sequenceNumber : Int
  totalCents : Int
  discountCents : Int
  taxCents : Int
  lineCount : Int
  paymentSummary : String
  submittedAt : Timestamp
  receivedAt : Timestamp
  payloadJson : String
  deriving DecidableEq

structure StoredOrderDetail where
  submissionId : Uuid
  orderId : Uuid
  storeId : Uuid
  registerId : Uuid
  sequenceNumber : UInt64
  totalCents : UInt64
  discountCents : UInt64
  taxCents : UInt64
  lineCount : UInt64
  paymentSummary : String
  submittedAt : Timestamp
  receivedAt : Timestamp
  payloadJson : String
  deriving DecidableEq

def formatMoneyCents (value : UInt64) : String :=
  let cents := value.toNat % 100
  "$" ++ toString (value.toNat / 100) ++ "." ++ (if cents < 10 then "0" else "") ++ toString cents

def paymentSummary (payments : List HqPayment) : String :=
  ", ".intercalate (payments.map fun p =>
    p.externalReference.getD "payment" ++ " " ++ formatMoneyCents p.amountCents)

/-- The unsigned number that has the same 64 bits. -/
def asU64 (n : Int) : UInt64 := UInt64.ofNat (n % 2 ^ 64).toNat

section Storage
variable (serialize : HqOrderSubmissionEnvelope → String)

def rowOf (envelope : HqOrderSubmissionEnvelope) (receivedAt : Timestamp) : ReceivedOrder where
  submissionId := envelope.submissionId
  orderId := envelope.order.orderId
  storeId := envelope.storeId
  registerId := envelope.registerId
  sequenceNumber := asI64 envelope.sequenceNumber.toNat
  totalCents := asI64 envelope.order.totalCents.toNat
  discountCents := asI64 envelope.order.discountCents.toNat
  taxCents := asI64 envelope.order.taxCents.toNat
  lineCount := asI64 envelope.order.lines.length
  paymentSummary := paymentSummary envelope.order.payments
  submittedAt := envelope.submittedAt
  receivedAt := receivedAt
  payloadJson := serialize envelope

/-- Whether a row was inserted; ON CONFLICT(submission_id) DO NOTHING. -/
def insertOrder (envelope : HqOrderSubmissionEnvelope) (receivedAt : Timestamp) (received : List ReceivedOrder) :
    Bool × List ReceivedOrder :=
  if received.any (·.submissionId = envelope.submissionId) then (false, received)
  else (true, received ++ [rowOf serialize envelope receivedAt])

def getOrder (submissionId : Uuid) (received : List ReceivedOrder) : Option StoredOrderDetail :=
  (received.find? (·.submissionId = submissionId)).map fun row =>
    { submissionId := row.submissionId
      orderId := row.orderId
      storeId := row.storeId
      registerId := row.registerId
      sequenceNumber := asU64 row.sequenceNumber
      totalCents := asU64 row.totalCents
      discountCents := asU64 row.discountCents
      taxCents := asU64 row.taxCents
      lineCount := asU64 row.lineCount
      paymentSummary := row.paymentSummary
      submittedAt := row.submittedAt
      receivedAt := row.receivedAt
      payloadJson := row.payloadJson }

/-- The circumstances of one request: the time, what is said of a body that is no order, and
what the storage says where it fails. -/
structure Reception where
  now : Timestamp
  unreadable : String
  fault : Option String

variable (read : Json → Option HqOrderSubmissionEnvelope)

/-- Whether the order was there already makes no difference to the answer. -/
def postOrder (reception : Reception) (body : Json) (received : List ReceivedOrder) :
    SendResult × List ReceivedOrder :=
  match read body with
  | none => (.answered ⟨422, "Unprocessable Entity"⟩ reception.unreadable none, received)
  | some envelope =>
    match reception.fault with
    | some error => (.answered ⟨500, "Internal Server Error"⟩ error none, received)
    | none =>
      (.answered ⟨200, "OK"⟩ "" (some ⟨true, []⟩), (insertOrder serialize envelope reception.now received).2)

/-- What becomes of a request on the way there and back. -/
inductive Wire where
  | unreachable (error : String)
  /-- No answer came back, whether or not the request was handled. -/
  | lost (handled : Bool) (error : String)
  /-- The status came back, and perhaps the body of the answer. -/
  | answered (readable : Bool)

structure Exchange where
  wire : Wire
  reception : Reception

def Exchange.run (exchange : Exchange) (body : Json) (received : List ReceivedOrder) :
    SendResult × List ReceivedOrder :=
  let (answer, after) := postOrder serialize read exchange.reception body received
  match exchange.wire with
  | .unreachable error => (.unreachable error, received)
  | .lost handled error => (.failed error, if handled then after else received)
  | .answered true => (answer, after)
  | .answered false =>
    match answer with
    | .answered status text _ => (.answered status text none, after)
    | other => (other, after)

end Storage

/-- How texts are read and written on both sides, and where headquarters is. -/
structure Link where
  parse : String → Option Json
  env : String → Option String
  policy : DispatcherPolicy
  serialize : HqOrderSubmissionEnvelope → String
  read : Json → Option HqOrderSubmissionEnvelope
  address : String

/-- A hub and its headquarters; what the hub has on record as delivered there is kept beside. -/
structure Enterprise where
  room : OutboxRoom
  received : List ReceivedOrder
  acknowledged : List Uuid

def opened (destinations : List DestinationRow) : Enterprise := ⟨.opened destinations, [], []⟩

section Steps
variable (link : Link)

def sends (step : OutboxStep) : Bool :=
  match step with
  | .dispatch _ | .lose true => true
  | _ => false

/-- What a step of the hub sends to headquarters. -/
def requestOf (room : OutboxRoom) (step : OutboxStep) : Option Json :=
  match room.phase with
  | .attempting (delivery :: _) =>
    if sends step ∧ hasEndpoint delivery.destination ∧ delivery.destination.endpoint = some link.address then
      match signingSecret link.env delivery.destination.config with
      | .missing _ => none
      | _ => link.parse delivery.submission.payload
    else none
  | _ => none

/-- The hub is answered what headquarters answers; other destinations answer as they like. -/
def answeredBy (answer : SendResult) (step : OutboxStep) : OutboxStep :=
  match step with
  | .dispatch cycle => .dispatch { cycle with answer := fun _ => answer }
  | other => other

/-- What a step has put on record as delivered at the address of headquarters. -/
def recorded (room after : OutboxRoom) : List Uuid :=
  match room.phase with
  | .attempting (delivery :: _) =>
    if delivery.destination.endpoint = some link.address ∧ after.store.accepted ≠ room.store.accepted then
      [delivery.submission.id]
    else []
  | _ => []

def apply (enterprise : Enterprise) (step : OutboxStep × Exchange) : Enterprise :=
  let (step, received) :=
    match requestOf link enterprise.room step.1 with
    | none => (step.1, enterprise.received)
    | some body =>
      let (answer, received) := step.2.run link.serialize link.read body enterprise.received
      (answeredBy answer step.1, received)
  let room := enterprise.room.apply link.parse link.env link.policy step
  { room, received, acknowledged := enterprise.acknowledged ++ recorded link enterprise.room room }

end Steps

end Headquarters
end ApexEdge.Outbox
