import ApexEdge.Hub.FiscalTransactions
import ApexEdge.Hub.ReturnCounter
import ApexEdge.Storage.FiscalQueue

/-! The signer, its queue, and all that works with them: orders and returns that are
finalized, sweeps that sign later what could not be signed at once, and the other commands
on returns. Payments, outbox rows, stock, audit records and metrics are left out. -/

namespace ApexEdge.Hub
open Library Payment Domain Storage Contracts Fiscal

structure FiscalSettings where
  providerCode : String
  offlinePolicy : OfflinePolicy
  currency : String

/-- How a transaction is put into the queue and read back from it. -/
structure FiscalCodec where
  toJson : FiscalTransaction → Except String String
  fromJson : String → Except String FiscalTransaction

inductive FiscalOutcome where
  | signed (signature : FiscalSignature)
  | queued
  deriving DecidableEq, Repr

inductive FiscalCall where
  | newId
  | clock
  | loadCart (cartId : Uuid)
  | fetchOpenShift (storeId registerId : Uuid)
  | readSaleTables (storeId : Uuid)
  | readRefundTables (storeId : Uuid)
  | loadSnapshot (returnId : Uuid)
  | sign (transaction : FiscalTransaction)
  | fetchFiscalQueueForSubject (subject : FiscalSubject)
  | insertFiscalSigning (entry : NewFiscalQueueEntry)
  | insertOrderLedgerEntryWithOutbox (entry : NewOrderLedgerEntry)
  | applyFiscalReceipt (subject : FiscalSubject) (update : FiscalReceiptUpdate)
  | finalizeReturnRowWithOutbox (returnId : Uuid)
  | insertReturn (new : NewReturn)
  | updateReturn (id : Uuid) (state : ReturnState) (totalCents taxCents refundedCents : Nat)

@[reducible] def FiscalCall.Reply : FiscalCall → Type
  | .newId => Uuid
  | .clock => Timestamp
  | .loadCart _ => Option Cart
  | .fetchOpenShift .. => Option Uuid
  | .readSaleTables _ => SaleTables
  | .readRefundTables _ => RefundTables
  | .loadSnapshot _ => Except (List PosError) ReturnSnapshot
  | .sign _ => Except FiscalError FiscalSignature
  | .fetchFiscalQueueForSubject _ => Except PoolError (Option FiscalQueueRow)
  | _ => Except PoolError Unit

inductive SweepCall where
  | sign (transaction : FiscalTransaction)
  | applyFiscalReceipt (update : FiscalReceiptUpdate)
  | markFiscalSigned (update : FiscalReceiptUpdate)
  | scheduleFiscalRetry (delaySeconds : Nat) (lastError : String)
  | markFiscalDeadLetter (lastError : String)

@[reducible] def SweepCall.Reply : SweepCall → Type
  | .sign _ => Except FiscalError FiscalSignature
  | _ => Except PoolError Unit

/-- The variables of a command that are live across a request. -/
structure FiscalFrame where
  /-- The order or the return that is being finalized. -/
  subject : Option FiscalSubject
  /-- Its transaction is in the queue, and that is not written on it yet. -/
  queued : Bool
  deriving DecidableEq, Repr

inductive FiscalRequest where
  | command (frame : FiscalFrame) (call : FiscalCall)
  | fetchDueFiscalSignings (limit : Nat)
  /-- A statement of a sweep on the entry in work, and the entries that are still to come. -/
  | sweep (row : FiscalQueueRow) (rest : List FiscalQueueRow) (call : SweepCall)

@[reducible] def FiscalRequest.Reply : FiscalRequest → Type
  | .command _ call => call.Reply
  | .fetchDueFiscalSignings _ => Except PoolError (List FiscalQueueRow)
  | .sweep _ _ call => call.Reply

abbrev FiscalAction (ε α : Type) := Fallible FiscalRequest FiscalRequest.Reply ε α

namespace FiscalFrame

def idle : FiscalFrame := ⟨none, false⟩

def finalizing (subject : FiscalSubject) : FiscalFrame := ⟨some subject, false⟩

/-- What the outcome leaves to be written. -/
def afterwards (subject : FiscalSubject) (outcome : FiscalOutcome) : FiscalFrame := ⟨some subject, outcome = .queued⟩

end FiscalFrame

def fiscalReply {ε : Type} (frame : FiscalFrame) (call : FiscalCall) : FiscalAction ε call.Reply :=
  Fallible.ask (FiscalRequest.command frame call)

def sweepReply {ε : Type} (row : FiscalQueueRow) (rest : List FiscalQueueRow) (call : SweepCall) :
    FiscalAction ε call.Reply :=
  Fallible.ask (FiscalRequest.sweep row rest call)

/-- A subject that is queued already keeps its entry, whatever has become of that. -/
def enqueueFiscalSigning (entry : NewFiscalQueueEntry) : FiscalAction PoolError FiscalQueueRow := do
  let frame := FiscalFrame.finalizing entry.subject
  match ← (fiscalReply frame (.fetchFiscalQueueForSubject entry.subject)).orThrow id with
  | some existing => return existing
  | none =>
    (fiscalReply frame (.insertFiscalSigning entry)).orThrow id
    match ← (fiscalReply { frame with queued := true } (.fetchFiscalQueueForSubject entry.subject)).orThrow id with
    | some row => return row
    | none => throw (.other "fiscal queue insert vanished")

def FiscalSignature.update (signature : FiscalSignature) : FiscalReceiptUpdate :=
  { provider := signature.provider, fiscalId := signature.fiscalId, signature := signature.signature
    qrPayload := signature.qrPayload, signedAt := some signature.signedAt, pending := false }

def fieldsFromOutcome (providerCode : String) (outcome : FiscalOutcome) : FiscalPersistFields :=
  match outcome with
  | .signed signature =>
    { provider := some signature.provider, fiscalId := signature.fiscalId, signature := signature.signature
      qrPayload := signature.qrPayload, signedAt := some signature.signedAt, pending := false }
  | .queued =>
    { provider := some providerCode, fiscalId := none, signature := none, qrPayload := none, signedAt := none
      pending := true }

def receiptUpdate (providerCode : String) (fields : FiscalPersistFields) : FiscalReceiptUpdate :=
  { provider := fields.provider.getD providerCode, fiscalId := fields.fiscalId, signature := fields.signature
    qrPayload := fields.qrPayload, signedAt := fields.signedAt, pending := fields.pending }

def backoffDelaySeconds (attempts : Nat) : Nat := min (15 * 2 ^ min attempts 6) 3600

section Programs
variable (settings : FiscalSettings) (codec : FiscalCodec)

/-- Sign now, or queue when the signer is down and the jurisdiction allows it. -/
def signOrQueue (subject : FiscalSubject) (transaction : FiscalTransaction) : FiscalAction FiscalError FiscalOutcome := do
  match ← fiscalReply (.finalizing subject) (.sign transaction) with
  | .ok signature => return .signed signature
  | .error error =>
    if error.isTransient ∧ settings.offlinePolicy = .signLater then
      match codec.toJson transaction with
      | .error reason => throw (.invalidTransaction reason)
      | .ok payloadJson =>
        let _ ← (enqueueFiscalSigning ⟨subject, settings.providerCode, payloadJson⟩).mapError fun error =>
          .rejected settings.providerCode "queue_write_failed" error.toString
        return .queued
    else throw error

def finalizeOrderFiscally (header : CommandHeader) (p : FinalizeOrderPayload) : FiscalAction (List PosError) Uuid := do
  match ← fiscalReply .idle (.loadCart p.cartId) with
  | none => throw cartNotFound
  | some cart =>
    let orderId ← fiscalReply .idle .newId
    match cart.toOrder orderId with
    | .error _ => throw (posError "FINALIZE_FAILED" "Cart must be paid and tendered >= total")
    | .ok order =>
      let subject : FiscalSubject := ⟨.order, orderId⟩
      let shiftId ← fiscalReply (.finalizing subject) (.fetchOpenShift header.storeId header.registerId)
      let tables ← fiscalReply (.finalizing subject) (.readSaleTables header.storeId)
      let transaction := saleTransaction tables order header.storeId header.registerId shiftId settings.currency
      let outcome ← (signOrQueue settings codec subject transaction).mapError fun error =>
        posError "FISCAL_SIGNING_FAILED" error.toString
      let fiscal := fieldsFromOutcome settings.providerCode outcome
      let submissionId ← fiscalReply (.afterwards subject outcome) .newId
      let entry := ledgerEntry (header.pos (.finalizeOrder p)) order shiftId submissionId fiscal
      (fiscalReply (.afterwards subject outcome) (.insertOrderLedgerEntryWithOutbox entry)).orThrow fun error =>
        posError "ORDER_LEDGER_FAILED" error.toString
      return orderId

def finalizeReturnFiscally (returnId : Uuid) : FiscalAction (List PosError) Uuid := do
  let snapshot ← (fiscalReply .idle (.loadSnapshot returnId)).orThrow id
  let subject : FiscalSubject := ⟨.returned, snapshot.row.id⟩
  match snapshot.finalize with
  | .error message => throw (posError "RETURN_NOT_READY" message)
  | .ok finalized =>
    let tables ← fiscalReply (.finalizing subject) (.readRefundTables finalized.row.storeId)
    let now ← fiscalReply (.finalizing subject) .clock
    let outcome ← (signOrQueue settings codec subject
      (refundTransaction tables finalized now settings.currency)).mapError fun error =>
        fiscalSigningFailed error.toString
    let update := receiptUpdate settings.providerCode (fieldsFromOutcome settings.providerCode outcome)
    (fiscalReply (.afterwards subject outcome) (.applyFiscalReceipt subject update)).orThrow fun error =>
      fiscalSigningFailed error.toString
    (fiscalReply (.finalizing subject) (.finalizeReturnRowWithOutbox returnId)).orThrow fun error =>
      posError "RETURN_FINALIZE_FAILED" error.toString
    return returnId

/-- Outages are scheduled for another attempt; what is rejected for good is a dead letter. -/
def signRows (signed : Nat) (rows : List FiscalQueueRow) : FiscalAction PoolError Nat :=
  match rows with
  | [] => return signed
  | row :: rest =>
    match codec.fromJson row.payloadJson with
    | .error reason => do
      (sweepReply row rest (.markFiscalDeadLetter s!"payload unreadable: {reason}")).orThrow id
      signRows signed rest
    | .ok transaction => do
      match ← sweepReply row rest (.sign transaction) with
      | .ok signature =>
        let update := FiscalSignature.update signature
        (sweepReply row rest (.applyFiscalReceipt update)).orThrow id
        (sweepReply row rest (.markFiscalSigned update)).orThrow id
        signRows (signed + 1) rest
      | .error error =>
        if error.isTransient then
          (sweepReply row rest (.scheduleFiscalRetry (backoffDelaySeconds row.attempts) error.toString)).orThrow id
        else (sweepReply row rest (.markFiscalDeadLetter error.toString)).orThrow id
        signRows signed rest

def runFiscalSigningSweep : FiscalAction PoolError Nat := do
  let due ← (Fallible.ask (FiscalRequest.fetchDueFiscalSignings 20)).orThrow id
  signRows codec 0 due

inductive FiscalTask where
  | finalizeOrder (header : CommandHeader) (payload : FinalizeOrderPayload)
  | finalizeReturn (returnId : Uuid)
  | sweep
  | startReturn (new : NewReturn)
  | changeReturn (id : Uuid) (state : ReturnState) (totalCents taxCents refundedCents : Nat)

def FiscalTask.program (task : FiscalTask) : Program FiscalRequest FiscalRequest.Reply Unit :=
  match task with
  | .finalizeOrder header payload => Program.bind (finalizeOrderFiscally settings codec header payload) fun _ => .pure ()
  | .finalizeReturn returnId => Program.bind (finalizeReturnFiscally settings codec returnId) fun _ => .pure ()
  | .sweep => Program.bind (runFiscalSigningSweep codec) fun _ => .pure ()
  | .startReturn new => Program.bind (Program.ask (FiscalRequest.command .idle (.insertReturn new))) fun _ => .pure ()
  | .changeReturn id state totalCents taxCents refundedCents =>
    Program.bind (Program.ask (FiscalRequest.command .idle (.updateReturn id state totalCents taxCents refundedCents)))
      fun _ => .pure ()

end Programs

/-- The receipt that an entry was marked signed for is kept for the record only. -/
structure FiscalWorld where
  tables : FiscalTables
  receipts : List (Uuid × FiscalReceiptUpdate)
  deriving DecidableEq, Repr

/-- What a request cannot foresee: the signer, the time, fresh ids, what other tables hold,
and failures of the store. -/
structure FiscalChoice where
  answer : Except FiscalError FiscalSignature
  now : Timestamp
  freshId : Uuid
  cart : Option Cart
  shiftId : Option Uuid
  saleTables : SaleTables
  refundTables : RefundTables
  lines : List ReturnLineRow
  refunds : List RefundRow
  storageFailure : Option PoolError

namespace FiscalWorld

def opened : FiscalWorld := ⟨⟨[], [], []⟩, []⟩

/-- A failing statement leaves everything as it was. -/
def write (choice : FiscalChoice) (world : FiscalWorld) (statement : FiscalTables → Except PoolError FiscalTables) :
    Except PoolError Unit × FiscalWorld :=
  match choice.storageFailure with
  | some error => (.error error, world)
  | none =>
    match statement world.tables with
    | .error error => (.error error, world)
    | .ok tables => (.ok (), { world with tables := tables })

def read {α : Type} (choice : FiscalChoice) (world : FiscalWorld) (query : FiscalTables → α) : Except PoolError α :=
  match choice.storageFailure with
  | some error => .error error
  | none => .ok (query world.tables)

def snapshot (choice : FiscalChoice) (world : FiscalWorld) (returnId : Uuid) :
    Except (List PosError) ReturnSnapshot :=
  match world.read choice fun tables => tables.returns.find? (·.row.id = returnId) with
  | .error error => .error (returnLoadFailed error)
  | .ok none => .error (posError "RETURN_NOT_FOUND" "return not found")
  | .ok (some found) => .ok { row := found.row, lines := choice.lines, refunds := choice.refunds }

def performCommand (choice : FiscalChoice) (world : FiscalWorld) (call : FiscalCall) : call.Reply × FiscalWorld :=
  match call with
  | .newId => (choice.freshId, world)
  | .clock => (choice.now, world)
  | .loadCart _ => (choice.cart, world)
  | .fetchOpenShift .. => (choice.shiftId, world)
  | .readSaleTables _ => (choice.saleTables, world)
  | .readRefundTables _ => (choice.refundTables, world)
  | .loadSnapshot returnId => (world.snapshot choice returnId, world)
  | .sign _ => (choice.answer, world)
  | .fetchFiscalQueueForSubject subject => (world.read choice (FiscalQueue.fetchForSubject subject), world)
  | .insertFiscalSigning entry => world.write choice (FiscalQueue.insert choice.freshId choice.now entry)
  | .insertOrderLedgerEntryWithOutbox entry => world.write choice (FiscalQueue.writeOrder entry)
  | .applyFiscalReceipt subject update =>
    world.write choice fun tables => .ok (FiscalQueue.applyReceipt subject update tables)
  | .finalizeReturnRowWithOutbox returnId =>
    world.write choice fun tables => .ok (FiscalQueue.finalizeReturnRow returnId tables)
  | .insertReturn new => world.write choice (FiscalQueue.insertReturn new)
  | .updateReturn id state totalCents taxCents refundedCents =>
    world.write choice fun tables => .ok (FiscalQueue.updateReturn id state totalCents taxCents refundedCents tables)

def mark (choice : FiscalChoice) (world : FiscalWorld) (id : Uuid) (update : FiscalReceiptUpdate) :
    Except PoolError Unit × FiscalWorld :=
  match choice.storageFailure with
  | some error => (.error error, world)
  | none => (.ok (), ⟨FiscalQueue.markSigned id world.tables, world.receipts ++ [(id, update)]⟩)

def performSweep (choice : FiscalChoice) (world : FiscalWorld) (row : FiscalQueueRow) (call : SweepCall) :
    call.Reply × FiscalWorld :=
  match call with
  | .sign _ => (choice.answer, world)
  | .applyFiscalReceipt update =>
    world.write choice fun tables => .ok (FiscalQueue.applyReceipt row.subject update tables)
  | .markFiscalSigned update => world.mark choice row.id update
  | .scheduleFiscalRetry delaySeconds lastError =>
    world.write choice fun tables => .ok (FiscalQueue.scheduleRetry row.id delaySeconds lastError choice.now tables)
  | .markFiscalDeadLetter lastError =>
    world.write choice fun tables => .ok (FiscalQueue.markDeadLetter row.id lastError tables)

def perform (choice : FiscalChoice) (world : FiscalWorld) (request : FiscalRequest) :
    request.Reply × FiscalWorld :=
  match request with
  | .command _ call => world.performCommand choice call
  | .fetchDueFiscalSignings limit => (world.read choice (FiscalQueue.fetchDue limit choice.now), world)
  | .sweep row _ call => world.performSweep choice row call

end FiscalWorld

/-- Any number of all of them, side by side. -/
def fiscalRoom (settings : FiscalSettings) (codec : FiscalCodec) :
    Machine FiscalRequest FiscalRequest.Reply Unit FiscalWorld FiscalChoice FiscalTask :=
  { perform := FiscalWorld.perform, program := FiscalTask.program settings codec, admits := fun _ _ => true }

end ApexEdge.Hub
