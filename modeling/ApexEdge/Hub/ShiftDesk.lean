import ApexEdge.Hub.ReturnCounter
import ApexEdge.Storage.Shifts

/-! The till: shifts are opened and closed, and cash is paid in and out of the drawer,
while sales and returns go on. Audit records, broadcasts and documents are left out. -/

namespace ApexEdge.Hub
open Library Payment Domain Storage Contracts

structure OpenTillPayload where
  registerId : Option Uuid
  associateId : Option String
  openingFloatCents : Nat
  deriving DecidableEq, Repr

/-- PaidIn and PaidOut. -/
structure CashMovementPayload where
  shiftId : Uuid
  amountCents : Nat
  reason : String
  approvalId : Option Uuid
  deriving DecidableEq, Repr

structure NoSalePayload where
  shiftId : Uuid
  reason : String
  deriving DecidableEq, Repr

structure CashCountPayload where
  shiftId : Uuid
  countedCents : Nat
  denominations : List (String × Nat)
  deriving DecidableEq, Repr

structure CloseTillPayload where
  shiftId : Uuid
  countedCents : Nat
  approvalId : Option Uuid
  deriving DecidableEq, Repr

inductive ShiftCommand where
  | openTill (payload : OpenTillPayload)
  | paidIn (payload : CashMovementPayload)
  | paidOut (payload : CashMovementPayload)
  | noSale (payload : NoSalePayload)
  | cashCount (payload : CashCountPayload)
  | getXReport (shiftId : Uuid)
  | closeTill (payload : CloseTillPayload)
  deriving DecidableEq, Repr

/-- What the rows of a shift come to. -/
structure TillFigures where
  movements : List CashMovement
  cashSalesCents : Nat
  cashRefundsCents : Nat
  deriving DecidableEq, Repr

/-- A shift and its figures, as they were read. -/
structure TillReading where
  shift : ShiftRow
  figures : TillFigures
  deriving DecidableEq, Repr

def TillReading.expectedCents (reading : TillReading) : Int :=
  expectedCashCents reading.shift.openingFloatCents reading.figures.cashSalesCents reading.figures.cashRefundsCents
    reading.figures.movements

/-- The Z-report that headquarters gets. -/
structure HqShiftPayload where
  shiftId : Uuid
  associateId : Option String
  openedAt : Timestamp
  closedAt : Option Timestamp
  openingFloatCents : Nat
  expectedCents : Int
  countedCents : Int
  varianceCents : Int
  cashSalesCents : Nat
  cashRefundsCents : Nat
  movements : List CashMovement
  deriving DecidableEq, Repr

structure ShiftSubmission where
  id : Uuid
  payload : HqShiftPayload
  deriving DecidableEq, Repr

/-- What a till command answers with. -/
inductive TillPayload where
  | alreadyOpen (shiftId : Uuid)
  | opened (shiftId registerId : Uuid) (openingFloatCents : Nat)
  | moved (shiftId movementId : Uuid) (kind : CashMovementKind) (amountCents : Nat)
  | counted (payload : CashCountPayload) (reading : TillReading) (expectedCents varianceCents : Int)
  | report (reading : TillReading) (expectedCents : Int)
  | closed (reading : TillReading) (countedCents : Nat) (written : ShiftClosing)
  deriving DecidableEq, Repr

inductive ShiftCall where
  | fetchOpenShift (storeId registerId : Uuid)
  | fetchShift (id : Uuid)
  | openShift (new : NewShift)
  | insertShiftMovement (new : NewShiftMovement)
  | listShiftMovements (shiftId : Uuid)
  | cashSalesCentsForShift (shiftId : Uuid)
  | cashRefundsCentsForShift (shiftId : Uuid)
  | closeShiftWithOutbox (id : Uuid) (written : ShiftClosing) (outboxId : Uuid) (payload : HqShiftPayload)
  deriving DecidableEq

@[reducible] def ShiftCall.Reply : ShiftCall → Type
  | .fetchOpenShift .. | .fetchShift _ => Except PoolError (Option ShiftRow)
  | .listShiftMovements _ => Except PoolError (List ShiftMovementRow)
  | .cashSalesCentsForShift _ | .cashRefundsCentsForShift _ => Except PoolError Nat
  | _ => Except PoolError Unit

inductive ShiftRequest where
  | counter (request : CounterRequest)
  /-- A statement of the till, with what the shift was read as when it is being closed. -/
  | till (key : Uuid) (closing : Option TillReading) (call : ShiftCall)
  deriving DecidableEq

def ShiftRequest.key (request : ShiftRequest) : Option Uuid :=
  match request with
  | .counter request => request.frame.key
  | .till key .. => some key

@[reducible] def ShiftRequest.Reply : ShiftRequest → Type
  | .counter request => request.Reply
  | .till _ _ call => call.Reply

/-- A refusal may name the shift that is open. -/
structure TillRefusal where
  errors : List PosError
  payload : Option TillPayload

def tillError (code message : String) : TillRefusal := ⟨posError code message, none⟩

abbrev ShiftProgram (α : Type) := Program ShiftRequest ShiftRequest.Reply α

abbrev ShiftAction (α : Type) := Fallible ShiftRequest ShiftRequest.Reply TillRefusal α

def cashMovementApprovalThresholdCents : Nat := 10_000

section Commands
variable (header : CommandHeader)

def shiftReply (call : ShiftCall) : ShiftAction call.Reply :=
  Fallible.ask (ShiftRequest.till header.idempotencyKey none call)

def deskReply (call : CounterCall) : ShiftAction call.Reply :=
  Fallible.ask (ShiftRequest.counter ⟨counterFrame header, none, [], call⟩)

def approvalGranted (id : Uuid) : ShiftAction Bool := do
  match ← deskReply header (.fetchApproval id) with
  | .ok (some .granted) => return true
  | _ => return false

/-- Above the threshold a granted approval is needed. -/
def ensureWithin (amount : Nat) (approvalId : Option Uuid) (message : String) : ShiftAction Unit :=
  if amount ≤ cashMovementApprovalThresholdCents then return ()
  else
    match approvalId with
    | none => throw (tillError "APPROVAL_REQUIRED" message)
    | some id => do if ← approvalGranted header id then return () else throw (tillError "APPROVAL_REQUIRED" message)

/-- An open shift is named, so that a register that was restarted can go on with it. -/
def refuseOpenShift (registerId : Uuid) : ShiftAction Unit := do
  match ← shiftReply header (.fetchOpenShift header.storeId registerId) with
  | .ok (some shift) =>
    throw ⟨posError "SHIFT_ALREADY_OPEN" "a shift is already open for this register", some (.alreadyOpen shift.id)⟩
  | _ => return ()

def openTill (p : OpenTillPayload) : ShiftAction TillPayload := do
  let registerId := p.registerId.getD header.registerId
  refuseOpenShift header registerId
  let id ← deskReply header (.hub .newId)
  let new : NewShift := ⟨id, header.storeId, registerId, p.associateId, p.openingFloatCents⟩
  (shiftReply header (.openShift new)).orThrow fun error => tillError "SHIFT_OPEN_FAILED" error.toString
  return .opened id registerId p.openingFloatCents

/-- Whether the shift is open, or exists, is not looked at. -/
def recordCashMovement (shiftId : Uuid) (kind : CashMovementKind) (amountCents : Nat) (reason : Option String)
    (approvalId : Option Uuid) : ShiftAction TillPayload := do
  ensureWithin header amountCents approvalId
    ("cash movement " ++ toString amountCents ++ " over threshold requires supervisor approval")
  let movementId ← deskReply header (.hub .newId)
  (shiftReply header (.insertShiftMovement ⟨movementId, shiftId, kind, amountCents, reason, approvalId⟩)).orThrow
    fun error => tillError "CASH_MOVEMENT_FAILED" error.toString
  return .moved shiftId movementId kind amountCents

def paidIn (p : CashMovementPayload) : ShiftAction TillPayload :=
  recordCashMovement header p.shiftId .paidIn p.amountCents (some p.reason) p.approvalId

def paidOut (p : CashMovementPayload) : ShiftAction TillPayload :=
  recordCashMovement header p.shiftId .paidOut p.amountCents (some p.reason) p.approvalId

def noSale (p : NoSalePayload) : ShiftAction TillPayload :=
  recordCashMovement header p.shiftId .noSale 0 (some p.reason) none

/-- A read that fails counts as nothing. -/
def movementsAndExpected (shiftId : Uuid) : ShiftAction TillFigures := do
  let movements ← shiftReply header (.listShiftMovements shiftId)
  let cashSales ← shiftReply header (.cashSalesCentsForShift shiftId)
  let cashRefunds ← shiftReply header (.cashRefundsCentsForShift shiftId)
  return ⟨(movements.toOption.getD []).map ShiftMovementRow.movement, cashSales.toOption.getD 0,
    cashRefunds.toOption.getD 0⟩

def loadShift (id : Uuid) : ShiftAction ShiftRow := do
  match ← shiftReply header (.fetchShift id) with
  | .ok (some shift) => return shift
  | .ok none => throw (tillError "SHIFT_NOT_FOUND" "shift not found")
  | .error error => throw (tillError "SHIFT_LOAD_FAILED" error.toString)

def cashCount (p : CashCountPayload) : ShiftAction TillPayload := do
  let shift ← loadShift header p.shiftId
  let reading : TillReading := ⟨shift, ← movementsAndExpected header shift.id⟩
  return .counted p reading reading.expectedCents (varianceCents (asI64 p.countedCents) reading.expectedCents)

def getXReport (shiftId : Uuid) : ShiftAction TillPayload := do
  let shift ← loadShift header shiftId
  let reading : TillReading := ⟨shift, ← movementsAndExpected header shift.id⟩
  return .report reading reading.expectedCents

def hqPayload (reading : TillReading) (now : Timestamp) (written : ShiftClosing) : HqShiftPayload :=
  { shiftId := reading.shift.id, associateId := reading.shift.associateId, openedAt := reading.shift.openedAt
    closedAt := some now, openingFloatCents := reading.shift.openingFloatCents
    expectedCents := written.expectedCents, countedCents := written.countedCents
    varianceCents := written.varianceCents, cashSalesCents := reading.figures.cashSalesCents
    cashRefundsCents := reading.figures.cashRefundsCents, movements := reading.figures.movements }

/-- What is written when a shift is closed on a count. -/
def TillReading.written (reading : TillReading) (countedCents : Nat) : ShiftClosing :=
  { countedCents := asI64 countedCents, expectedCents := reading.expectedCents
    varianceCents := varianceCents (asI64 countedCents) reading.expectedCents }

/-- Close the shift, and queue its report for headquarters with it. -/
def closeReading (reading : TillReading) (p : CloseTillPayload) : ShiftAction TillPayload := do
  let written := reading.written p.countedCents
  ensureWithin header written.varianceCents.natAbs p.approvalId
    ("variance " ++ toString written.varianceCents ++ " cents requires supervisor approval")
  let now ← deskReply header (.hub .clock)
  let submissionId ← deskReply header (.hub .newId)
  let ask (call : ShiftCall) : ShiftAction call.Reply :=
    Fallible.ask (ShiftRequest.till header.idempotencyKey (some reading) call)
  let report := hqPayload reading now written
  (ask (.closeShiftWithOutbox reading.shift.id written submissionId report)).orThrow fun error =>
    tillError "SHIFT_CLOSE_FAILED" error.toString
  return .closed reading p.countedCents written

def closeTill (p : CloseTillPayload) : ShiftAction TillPayload := do
  let shift ← loadShift header p.shiftId
  if shift.state ≠ .open then throw (tillError "SHIFT_NOT_OPEN" "shift already closed")
  else do
    let figures ← movementsAndExpected header shift.id
    closeReading header ⟨shift, figures⟩ p

def executeShiftCommand (command : ShiftCommand) : ShiftAction TillPayload :=
  match command with
  | .openTill p => openTill header p
  | .paidIn p => paidIn header p
  | .paidOut p => paidOut header p
  | .noSale p => noSale header p
  | .cashCount p => cashCount header p
  | .getXReport shiftId => getXReport header shiftId
  | .closeTill p => closeTill header p

end Commands

structure ShiftTask where
  boundRegister : Option Uuid
  header : CommandHeader
  command : ShiftCommand
  deriving DecidableEq, Repr

/-- The figures of a till command are shown beside its response. -/
structure DeskAnswer where
  response : PosResponse
  shown : Option TillPayload

/-- A program of the return counter. -/
def atShiftDesk {α : Type} (program : CounterProgram α) : ShiftProgram α :=
  program.embed ShiftRequest.counter fun _ reply => reply

/-- Only a success is stored, and only after the command has run. -/
def storeShiftResponse (header : CommandHeader) (shown : TillPayload) : ShiftProgram DeskAnswer := do
  let response : PosResponse :=
    { version := .v1_0_0, success := true, idempotencyKey := header.idempotencyKey, payload := none, errors := [] }
  let _ ← Program.ask (ShiftRequest.counter
    (.ofHub ⟨counterFrame header, .setResponse header.idempotencyKey response⟩))
  return ⟨response, some shown⟩

def ShiftTask.program (app : AppState) (task : ShiftTask) : ShiftProgram DeskAnswer :=
  let key := task.header.idempotencyKey
  let refuse (error : PosError) : ShiftProgram DeskAnswer := return ⟨.rejected key [error], none⟩
  if task.header.storeId ≠ app.storeId then refuse storeMismatch
  else if task.boundRegister.any (· ≠ task.header.registerId) then
    refuse ⟨"REGISTER_MISMATCH", "register_id does not match the paired device", some "register_id"⟩
  else if task.header.version ≠ .v1_0_0 then
    refuse ⟨"UNSUPPORTED_VERSION", "Unsupported contract version", none⟩
  else do
    match ← Program.ask (ShiftRequest.counter (.ofHub ⟨counterFrame task.header, .getResponse key⟩)) with
    | .ok (some replayed) => return ⟨replayed, none⟩
    | _ =>
      Program.bind (executeShiftCommand task.header task.command) fun
        | .ok shown => storeShiftResponse task.header shown
        | .error refusal => return ⟨.rejected key refusal.errors, refusal.payload⟩

/-- What the till does with the outcome of a command it has executed. -/
def ShiftTask.answered (task : ShiftTask) (result : Except TillRefusal TillPayload) : ShiftProgram DeskAnswer :=
  match result with
  | .ok shown => storeShiftResponse task.header shown
  | .error refusal => return ⟨.rejected task.header.idempotencyKey refusal.errors, refusal.payload⟩

theorem ShiftTask.program_cases (app : AppState) (task : ShiftTask) :
    (∃ error, task.program app = return ⟨.rejected task.header.idempotencyKey [error], none⟩) ∨
      task.header.storeId = app.storeId ∧ ∃ next,
        task.program app = Program.request (.counter (.ofHub ⟨counterFrame task.header, .getResponse task.header.idempotencyKey⟩)) next ∧
          ∀ stored, (∃ replayed, next stored = return ⟨replayed, none⟩) ∨
            next stored = Program.bind (executeShiftCommand task.header task.command) task.answered := by
  unfold ShiftTask.program
  dsimp only
  split
  · exact .inl ⟨_, rfl⟩
  next store =>
    split
    · exact .inl ⟨_, rfl⟩
    · split
      · exact .inl ⟨_, rfl⟩
      · refine .inr ⟨not_not.mp store, _, rfl, fun stored => ?_⟩
        rcases stored with error | none | replayed
        · exact .inr rfl
        · exact .inr rfl
        · exact .inl ⟨_, rfl⟩

inductive DeskTask where
  | pos (boundRegister : Option Uuid) (envelope : PosRequestEnvelope)
  | returns (task : ReturnTask)
  | till (task : ShiftTask)
  deriving DecidableEq

def DeskTask.key (task : DeskTask) : Uuid :=
  match task with
  | .pos _ envelope => envelope.idempotencyKey
  | .returns task => task.header.idempotencyKey
  | .till task => task.header.idempotencyKey

def DeskTask.program (app : AppState) (task : DeskTask) : ShiftProgram DeskAnswer :=
  match task with
  | .pos boundRegister envelope => do
    return ⟨← atShiftDesk (atCounter (handlePosCommand app boundRegister envelope)), none⟩
  | .returns task => do return ⟨← atShiftDesk (task.program app), none⟩
  | .till task => task.program app

structure ShiftWorld (Remote : Type) where
  counter : CounterWorld Remote
  shifts : ShiftTables
  reports : List ShiftSubmission

section Perform
variable {Remote Answer : Type}

/-- Which shift is open at a register is read from the shifts. -/
def openShiftReply (failure : Option PoolError) (tables : ShiftTables) (wanted : Service) (other : wanted.Reply) :
    wanted.Reply :=
  match wanted, other with
  | .fetchOpenShift storeId registerId, _ =>
    match failure with
    | some error => .error error
    | none => .ok ((Shifts.fetchOpen storeId registerId tables).map ShiftRow.id)
  | _, other => other

def CounterChoice.knowing (choice : CounterChoice Answer) (tables : ShiftTables) : CounterChoice Answer :=
  { choice with
    hub := { choice.hub with
      service := fun wanted => openShiftReply choice.hub.storageFailure tables wanted (choice.hub.service wanted) } }

def transactShifts (choice : CounterChoice Answer) (world : ShiftWorld Remote)
    (write : ShiftTables → Except PoolError ShiftTables) : Except PoolError Unit × ShiftWorld Remote :=
  match choice.hub.storageFailure with
  | some error => (.error error, world)
  | none =>
    match write world.shifts with
    | .error error => (.error error, world)
    | .ok tables => (.ok (), { world with shifts := tables })

def queryShifts {β : Type} (choice : CounterChoice Answer) (world : ShiftWorld Remote)
    (read : ShiftWorld Remote → Except PoolError β) : Except PoolError β × ShiftWorld Remote :=
  match choice.hub.storageFailure with
  | some error => (.error error, world)
  | none => (read world, world)

def outboxHas (world : ShiftWorld Remote) (id : Uuid) : Bool :=
  world.counter.hub.db.outbox.any (·.id = id) ∨ world.counter.submissions.any (·.id = id) ∨
    world.reports.any (·.id = id)

def closeWithOutbox (choice : CounterChoice Answer) (world : ShiftWorld Remote) (id : Uuid) (written : ShiftClosing)
    (outboxId : Uuid) (payload : HqShiftPayload) : Except PoolError Unit × ShiftWorld Remote :=
  match choice.hub.storageFailure with
  | some error => (.error error, world)
  | none =>
    if outboxHas world outboxId then (.error (.connection "UNIQUE constraint failed: outbox.id"), world)
    else
      (.ok (), { world with
        shifts := Shifts.close id written choice.hub.now world.shifts
        reports := world.reports ++ [⟨outboxId, payload⟩] })

def performAtShiftDesk (rank : Uuid → Nat) (providers : Providers Remote Answer) (choice : CounterChoice Answer)
    (world : ShiftWorld Remote) (request : ShiftRequest) : request.Reply × ShiftWorld Remote :=
  match request with
  | .counter request =>
    let answered := performAtCounter rank providers (choice.knowing world.shifts) world.counter request
    (answered.1, { world with counter := answered.2 })
  | .till _ _ call =>
    match call with
    | .fetchOpenShift storeId registerId =>
      queryShifts choice world fun world => .ok (Shifts.fetchOpen storeId registerId world.shifts)
    | .fetchShift id => queryShifts choice world fun world => .ok (Shifts.fetch id world.shifts)
    | .openShift new => transactShifts choice world (Shifts.openShift new choice.hub.now)
    | .insertShiftMovement new => transactShifts choice world (Shifts.insertMovement new choice.hub.now)
    | .listShiftMovements shiftId =>
      queryShifts choice world fun world => .ok (Shifts.listMovements shiftId world.shifts)
    | .cashSalesCentsForShift shiftId =>
      queryShifts choice world fun world => Orders.cashSalesCentsForShift shiftId world.counter.hub.db.orders
    | .cashRefundsCentsForShift shiftId =>
      queryShifts choice world fun world => Returns.cashRefundsCentsForShift shiftId world.counter.hub.db.returns
    | .closeShiftWithOutbox id written outboxId payload =>
      closeWithOutbox choice world id written outboxId payload

/-- One executor per idempotency key. -/
def shiftClaims (others : List ShiftRequest) (task : DeskTask) : Bool := others.all (·.key ≠ some task.key)

def shiftDesk (app : AppState) (rank : Uuid → Nat) (providers : Providers Remote Answer) :
    Machine ShiftRequest ShiftRequest.Reply DeskAnswer (ShiftWorld Remote) (CounterChoice Answer) DeskTask :=
  { perform := performAtShiftDesk rank providers, program := DeskTask.program app, admits := shiftClaims }

end Perform
end ApexEdge.Hub
