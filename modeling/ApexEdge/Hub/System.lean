import ApexEdge.Hub.PosHandler
import ApexEdge.Library.Interference
import ApexEdge.Storage.InventoryLedger

/-! Refunding a tender of a return: reserve the amount, ask the provider of the
original payment, record the refund. -/

namespace ApexEdge.Hub
open Library Payment Domain Storage Contracts

def returnLoadFailed (error : PoolError) : List PosError := posError "RETURN_LOAD_FAILED" error.toString

def loadSnapshot (frame : Frame) (id : Uuid) : Action (List PosError) ReturnSnapshot := do
  match ← (reply frame (.fetchReturn id)).orThrow returnLoadFailed with
  | none => throw (posError "RETURN_NOT_FOUND" "return not found")
  | some row =>
    let lines ← (reply frame (.listReturnLines id)).orThrow returnLoadFailed
    let refunds ← (reply frame (.listRefunds id)).orThrow returnLoadFailed
    return { row := row, lines := lines, refunds := refunds }

structure RefundFailure where
  code : String
  message : String

/-- The drawer is the source of truth for cash, so there is no remote balance to move. -/
def cashProvider : String := "cash"

/-- The payment that a refund to `provider` goes back to: the order's first one
of that provider that has an id. -/
def refundablePayment (provider : String) (order : NewOrderLedgerEntry) : Option String :=
  (order.payments.filter (·.provider = some provider)).findSome? NewOrderPaymentEntry.providerPaymentId

def refundRequest (envelopeKey refundId : Uuid) (providerPaymentId : String) (amountCents : Nat) :
    RefundRequest :=
  { idempotencyKey := providerIdempotencyKey envelopeKey refundId "refund"
    providerPaymentId := providerPaymentId, amountCents := amountCents, reason := some "customer return" }

/-- Return funds to the original payment instrument, when the tender type names a
configured payment provider. -/
def refundThroughProvider (app : AppState) (frame : Frame) (originalOrderId : Option Uuid)
    (tenderType : String) (amountCents : Nat) (envelopeKey refundId : Uuid) :
    Action RefundFailure (Option String) := do
  match app.resolve (some tenderType) with
  | .manualTender | .unknown _ => return none
  | .provider provider =>
    if provider = cashProvider then return none
    else
      match originalOrderId with
      | none => throw ⟨"REFUND_ORIGINAL_ORDER_REQUIRED",
          "Refunding to " ++ tenderType ++ " needs the original order so the payment can be found"⟩
      | some orderId =>
        let found ← (reply frame (.fetchOrderLedgerEntry orderId)).orThrow fun error =>
          ⟨"REFUND_ORDER_LOOKUP_FAILED", error.toString⟩
        match found with
        | none => throw ⟨"REFUND_ORIGINAL_ORDER_NOT_FOUND",
            "Original order " ++ orderId.toString ++ " is not on this hub"⟩
        | some order =>
          match refundablePayment provider order with
          | none => throw ⟨"REFUND_PROVIDER_PAYMENT_NOT_FOUND",
              "Order " ++ orderId.toString ++ " has no " ++ provider ++ " payment to refund against"⟩
          | some providerPaymentId =>
            match ← reply frame (.refund provider
                (refundRequest envelopeKey refundId providerPaymentId amountCents)) with
            | .ok refund => return some refund.providerRefundId
            | .error error => throw ⟨"REFUND_PROVIDER_FAILED", error.toString⟩

/-- Reserve value before any external refund; whether it is recorded already. -/
def prepareRefund (frame : Frame) (refund : RefundRow) : Action PoolError Bool := do
  (reply frame (.reserveRefund refund)).orThrow fun error => error
  match ← (reply frame (.refundReservation refund.id)).orThrow fun error => error with
  | none => throw Returns.refundRejected
  | some reserved =>
    if reserved.returnId = refund.returnId ∧ reserved.tenderType = refund.tenderType ∧
        reserved.amountCents = refund.amountCents then
      (reply frame (.refundRecorded refund.id)).orThrow fun error => error
    else throw Returns.refundRejected

def refundRow (envelope : PosRequestEnvelope) (p : RefundTenderPayload) : RefundRow :=
  { id := providerIdempotencyKey envelope.idempotencyKey p.returnId "refund_identity"
    returnId := p.returnId, tenderType := p.tenderType, amountCents := p.amountCents
    externalReference := p.externalReference }

/-- Pay the refund back and record it, unless an earlier attempt has done so. -/
def completeRefund (app : AppState) (envelope : PosRequestEnvelope) (p : RefundTenderPayload)
    (originalOrderId : Option Uuid) (recorded : Bool) : Action (List PosError) Unit := do
  let frame := Frame.ofKey (some envelope.idempotencyKey)
  let row := refundRow envelope p
  if recorded then return ()
  else
    let reference ← (refundThroughProvider app frame originalOrderId p.tenderType p.amountCents
      envelope.idempotencyKey row.id).mapError fun failure => posError failure.code failure.message
    (reply frame (.completeRefund { row with externalReference := reference.or p.externalReference })).orThrow
      fun error => posError "REFUND_INSERT_FAILED" error.toString

def refundTender (app : AppState) (envelope : PosRequestEnvelope) (p : RefundTenderPayload) :
    Action (List PosError) Payload := do
  let frame := Frame.ofKey (some envelope.idempotencyKey)
  let snapshot ← loadSnapshot frame p.returnId
  if snapshot.row.storeId ≠ envelope.storeId then
    throw (posError "STORE_MISMATCH" "return belongs to another store")
  else
    let recorded ← (prepareRefund frame (refundRow envelope p)).mapError fun error =>
      posError "REFUND_REJECTED" error.toString
    completeRefund app envelope p snapshot.row.originalOrderId recorded
    let snapshot ← loadSnapshot frame p.returnId
    return .returned snapshot

end ApexEdge.Hub

/-! The hub: commands and reversal sweeps over one store. Commands that share an
idempotency key wait for each other; nothing else does. -/

namespace ApexEdge.Hub
open Library Payment Domain Storage Contracts

abbrev Command (α : Type) := Program Request Request.Reply α

def executeCommand (app : AppState) (envelope : PosRequestEnvelope) : Action (List PosError) Payload :=
  match envelope.payload with
  | .addPayment p => addPayment app envelope p
  | .finalizeOrder p => finalizeOrder app envelope p
  | .voidCart p => voidCart app envelope p
  | .refundTender p => refundTender app envelope p

def storeMismatch : PosError := ⟨"STORE_MISMATCH", "store_id does not match this hub", some "store_id"⟩

def executePosCommand (app : AppState) (envelope : PosRequestEnvelope) : Command PosResponse :=
  if envelope.storeId ≠ app.storeId then return .rejected envelope.idempotencyKey [storeMismatch]
  else Program.bind (executeCommand app envelope) fun
    | .ok payload => return .accepted envelope.idempotencyKey payload
    | .error errors => return .rejected envelope.idempotencyKey errors

/-- Only a success is stored, and only after the command has run. -/
def storeResponse (frame : Frame) (response : PosResponse) : Command PosResponse :=
  if response.success then do
    let _ ← Program.ask (⟨frame, .setResponse response.idempotencyKey response⟩ : Request)
    return response
  else return response

/-- Answer a command from the stored response, or execute it and store what it answered. -/
def executeOnce (app : AppState) (envelope : PosRequestEnvelope) : Command PosResponse := do
  let frame := Frame.ofKey (some envelope.idempotencyKey)
  match ← Program.ask (⟨frame, .getResponse envelope.idempotencyKey⟩ : Request) with
  | .ok (some replayed) => return replayed
  | _ => executePosCommand app envelope >>= storeResponse frame

/-- A paired device speaks for its own register only. -/
def handlePosCommand (app : AppState) (boundRegister : Option Uuid) (envelope : PosRequestEnvelope) :
    Command PosResponse :=
  let refuse (error : PosError) : Command PosResponse := return .rejected envelope.idempotencyKey [error]
  if envelope.storeId ≠ app.storeId then refuse storeMismatch
  else if boundRegister.any (· ≠ envelope.registerId) then
    refuse ⟨"REGISTER_MISMATCH", "register_id does not match the paired device", some "register_id"⟩
  else if envelope.version ≠ .v1_0_0 then
    refuse ⟨"UNSUPPORTED_VERSION", "Unsupported contract version", none⟩
  else executeOnce app envelope

inductive Task where
  | command (boundRegister : Option Uuid) (envelope : PosRequestEnvelope)
  | sweep (policy : ReversalSweepPolicy)

inductive Outcome where
  | answered (response : PosResponse)
  | swept (result : Except PoolError Nat)

def Task.program (app : AppState) (task : Task) : Command Outcome :=
  match task with
  | .command boundRegister envelope => do return .answered (← handlePosCommand app boundRegister envelope)
  | .sweep policy => Program.bind (runPaymentReversalSweep app policy) fun result => return .swept result

/-- The command locks: one executor per idempotency key. -/
def claims (others : List Request) (task : Task) : Bool :=
  match task with
  | .command _ envelope => others.all (·.frame.key ≠ some envelope.idempotencyKey)
  | .sweep _ => true

variable {Remote Answer : Type}

abbrev System (Remote Answer : Type) :=
  Machine Request Request.Reply Outcome (World Remote) (Choice Answer) Task

def system (app : AppState) (providers : Providers Remote Answer) : System Remote Answer :=
  { perform := perform providers, program := Task.program app, admits := claims }

end ApexEdge.Hub

/-! The hub behind desks of one kind. Tenders of returns are refunded with a record of what has
been requested from the providers for which command; sales are finalized over the inventory
ledger of the store, which also takes back what a voided cart had reserved. -/

namespace ApexEdge.Hub
open Library Payment Domain Storage Contracts

/-- A RefundTender request as a device sends it; any device, any key. -/
structure RefundCommand where
  boundRegister : Option Uuid
  envelope : PosRequestEnvelope
  refund : RefundTenderPayload
  deriving DecidableEq

def RefundCommand.posEnvelope (command : RefundCommand) : PosRequestEnvelope :=
  { command.envelope with payload := .refundTender command.refund }

structure RequestedRefund where
  command : RefundCommand
  provider : String
  request : RefundRequest
  deriving DecidableEq

structure DeskWorld (Remote : Type) where
  hub : World Remote
  /-- For the record only: no command reads it. -/
  requested : List RequestedRefund

abbrev DeskRequest := Tagged RefundCommand Request

abbrev DeskRequest.Reply (request : DeskRequest) : Type := Tagged.Reply Request.Reply request

variable {Remote Answer : Type}

/-- The refund that a request asks a provider for. -/
def asked (request : DeskRequest) : List RequestedRefund :=
  match request.op.call with
  | .refund provider refund => [⟨request.tag, provider, refund⟩]
  | _ => []

def performAtDesk (providers : Providers Remote Answer) (choice : Choice Answer) (world : DeskWorld Remote)
    (request : DeskRequest) : request.Reply × DeskWorld Remote :=
  let answered := perform providers choice world.hub request.op
  (answered.1, { hub := answered.2, requested := world.requested ++ asked request })

def RefundCommand.program (app : AppState) (command : RefundCommand) :
    Program DeskRequest (Tagged.Reply Request.Reply) PosResponse :=
  (handlePosCommand app command.boundRegister command.posEnvelope).tagged command

/-- Registers that do nothing but refund tenders. -/
def refundDesk (app : AppState) (providers : Providers Remote Answer) :
    Machine DeskRequest (Tagged.Reply Request.Reply) PosResponse (DeskWorld Remote) (Choice Answer) RefundCommand :=
  { perform := performAtDesk providers
    program := RefundCommand.program app
    admits := fun others command => claims (others.map Tagged.op) (.command command.boundRegister command.posEnvelope) }

/-! ### Sales over the ledger -/

structure StockedWorld (Remote : Type) where
  hub : World Remote
  inventory : InventoryTables

/-- A transaction on the inventory ledger; the units it returns are not used. -/
def moveStock (choice : Choice Answer) (world : StockedWorld Remote)
    (operation : Timestamp → InventoryTables → Int × InventoryTables) :
    Except PoolError Unit × StockedWorld Remote :=
  match choice.storageFailure with
  | some error => (.error error, world)
  | none => (.ok (), { world with inventory := (operation choice.now world.inventory).2 })

def performStocked (providers : Providers Remote Answer) (choice : Choice Answer) (world : StockedWorld Remote)
    (request : Request) : request.Reply × StockedWorld Remote :=
  match request with
  | ⟨_, .service (.commitCartSale storeId cartId)⟩ =>
    moveStock choice world (InventoryLedger.commitCartSale storeId cartId)
  | ⟨_, .service (.releaseCartReservations storeId cartId)⟩ =>
    moveStock choice world (InventoryLedger.releaseCartReservations storeId cartId)
  | request =>
    let answered := perform providers choice world.hub request
    (answered.1, { world with hub := answered.2 })

/-- A FinalizeOrder request as a device sends it; any device, any key. -/
structure FinalizeRequest where
  boundRegister : Option Uuid
  envelope : PosRequestEnvelope
  order : FinalizeOrderPayload

def FinalizeRequest.task (request : FinalizeRequest) : Task :=
  .command request.boundRegister { request.envelope with payload := .finalizeOrder request.order }

/-- Registers that do nothing but finalize. -/
def checkout (app : AppState) (providers : Providers Remote Answer) :
    Machine Request Request.Reply Outcome (StockedWorld Remote) (Choice Answer) FinalizeRequest :=
  { perform := performStocked providers
    program := fun request => request.task.program app
    admits := fun others request => claims others request.task }

end ApexEdge.Hub
