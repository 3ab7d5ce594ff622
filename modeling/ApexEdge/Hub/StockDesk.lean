import ApexEdge.Hub.ShiftDesk
import ApexEdge.Hub.StockRoom
import ApexEdge.Sync.SyncRun

/-! The till and the stock commands beside it, with all that is queued for headquarters:
orders, returns, shifts, and movements of stock. Broadcasts are left out. -/

namespace ApexEdge.Hub
open Library Payment Domain Storage Contracts

/-- A queued "stock.movement" event. -/
structure MovementSubmission where
  id : Uuid
  movement : StockMovementRow
  deriving DecidableEq, Repr

inductive MovementCall where
  | insertStockMovement (input : StockMovementInput)
  | insertOutbox (id : Uuid) (movement : StockMovementRow)
  | applyLocalDelta (storeId itemId : Uuid) (delta : Int)
  deriving DecidableEq

@[reducible] def MovementCall.Reply : MovementCall → Type
  | .insertStockMovement _ => Except PoolError StockMovementRow
  | _ => Except PoolError Unit

inductive StockDeskRequest where
  | desk (request : ShiftRequest)
  | stock (key : Uuid) (call : MovementCall)
  deriving DecidableEq

def StockDeskRequest.key (request : StockDeskRequest) : Option Uuid :=
  match request with
  | .desk request => request.key
  | .stock key _ => some key

@[reducible] def StockDeskRequest.Reply : StockDeskRequest → Type
  | .desk request => request.Reply
  | .stock _ call => call.Reply

abbrev StockDeskProgram (α : Type) := Program StockDeskRequest StockDeskRequest.Reply α

abbrev StockDeskAction (α : Type) := Fallible StockDeskRequest StockDeskRequest.Reply (List PosError) α

/-- A program of the till. -/
def atStockDesk {α : Type} (program : ShiftProgram α) : StockDeskProgram α :=
  program.embed StockDeskRequest.desk fun _ reply => reply

section Commands
variable (header : CommandHeader)

def movementReply (call : MovementCall) : StockDeskAction call.Reply :=
  Fallible.ask (StockDeskRequest.stock header.idempotencyKey call)

/-- ReceiveStock, TransferStock and AdjustStock. The movement is written, then queued and
applied; whether it could be queued and applied is not looked at. -/
def recordStockMovement (p : StockMovementPayload) : StockDeskAction StockMovementRow :=
  if p.quantityDelta = 0 ∨ p.reason.toList.all Sync.isWhitespace then
    throw (posError "INVALID_STOCK_MOVEMENT" "Stock movement requires a non-zero quantity and reason")
  else do
    let input : StockMovementInput := ⟨header.storeId, header.registerId, p.itemId, p.quantityDelta⟩
    let movement ← (movementReply header (.insertStockMovement input)).orThrow fun error =>
      posError "STOCK_MOVEMENT_FAILED" error.toString
    let _ ← movementReply header (.insertOutbox movement.id movement)
    let _ ← movementReply header (.applyLocalDelta header.storeId p.itemId p.quantityDelta)
    return movement

end Commands

structure MovementTask where
  boundRegister : Option Uuid
  header : CommandHeader
  payload : StockMovementPayload
  deriving DecidableEq, Repr

/-- The movement of a stock command is shown in its response. -/
structure MovementAnswer where
  response : PosResponse
  movement : Option StockMovementRow

/-- Only a success is stored, and only after the command has run. -/
def storeMovementResponse (header : CommandHeader) (movement : StockMovementRow) : StockDeskProgram MovementAnswer := do
  let response : PosResponse :=
    { version := .v1_0_0, success := true, idempotencyKey := header.idempotencyKey, payload := none, errors := [] }
  let _ ← Program.ask (StockDeskRequest.desk (.counter
    (.ofHub ⟨counterFrame header, .setResponse header.idempotencyKey response⟩)))
  return ⟨response, some movement⟩

def MovementTask.program (app : AppState) (task : MovementTask) : StockDeskProgram MovementAnswer :=
  let key := task.header.idempotencyKey
  let refuse (error : PosError) : StockDeskProgram MovementAnswer := return ⟨.rejected key [error], none⟩
  if task.header.storeId ≠ app.storeId then refuse storeMismatch
  else if task.boundRegister.any (· ≠ task.header.registerId) then
    refuse ⟨"REGISTER_MISMATCH", "register_id does not match the paired device", some "register_id"⟩
  else if task.header.version ≠ .v1_0_0 then
    refuse ⟨"UNSUPPORTED_VERSION", "Unsupported contract version", none⟩
  else do
    match ← Program.ask (StockDeskRequest.desk (.counter (.ofHub ⟨counterFrame task.header, .getResponse key⟩))) with
    | .ok (some replayed) => return ⟨replayed, none⟩
    | _ =>
      Program.bind (recordStockMovement task.header task.payload) fun
        | .ok movement => storeMovementResponse task.header movement
        | .error errors => return ⟨.rejected key errors, none⟩

/-- What the desk does with the outcome of a movement it has executed. -/
def MovementTask.answered (task : MovementTask) (result : Except (List PosError) StockMovementRow) :
    StockDeskProgram MovementAnswer :=
  match result with
  | .ok movement => storeMovementResponse task.header movement
  | .error errors => return ⟨.rejected task.header.idempotencyKey errors, none⟩

theorem MovementTask.program_cases (app : AppState) (task : MovementTask) :
    (∃ error, task.program app = return ⟨.rejected task.header.idempotencyKey [error], none⟩) ∨
      task.header.storeId = app.storeId ∧ ∃ next,
        task.program app = Program.request (.desk (.counter (.ofHub ⟨counterFrame task.header, .getResponse task.header.idempotencyKey⟩))) next ∧
          ∀ stored, (∃ replayed, next stored = return ⟨replayed, none⟩) ∨
            next stored = Program.bind (recordStockMovement task.header task.payload) task.answered := by
  unfold MovementTask.program
  dsimp only
  split
  · exact .inl ⟨_, rfl⟩
  next store =>
    split
    · exact .inl ⟨_, rfl⟩
    · split
      · exact .inl ⟨_, rfl⟩
      · refine .inr ⟨not_not.mp store, _, rfl, fun stored => ?_⟩
        rcases stored with error | none | replayed
        · exact .inr rfl
        · exact .inr rfl
        · exact .inl ⟨_, rfl⟩

inductive StockDeskTask where
  | desk (task : DeskTask)
  | stock (task : MovementTask)
  deriving DecidableEq

def StockDeskTask.key (task : StockDeskTask) : Uuid :=
  match task with
  | .desk task => task.key
  | .stock task => task.header.idempotencyKey

def StockDeskTask.program (app : AppState) (task : StockDeskTask) : StockDeskProgram (DeskAnswer ⊕ MovementAnswer) :=
  match task with
  | .desk task => do return .inl (← atStockDesk (task.program app))
  | .stock task => do return .inr (← task.program app)

/-- The till, and the movements of stock that are queued. The movements themselves are in
the ledger of stock. -/
structure StockDeskWorld (Remote : Type) where
  desk : ShiftWorld Remote
  moved : List MovementSubmission

/-- The submission that a statement queues, in the transaction of what it reports. -/
def ShiftRequest.queued (request : ShiftRequest) : Option Uuid :=
  match request with
  | .counter request =>
    match request.call with
    | .hub (.insertOrderLedgerEntryWithOutbox _ outboxId) => some outboxId
    | .finalizeReturnRowWithOutbox _ submissionId => some submissionId
    | _ => none
  | .till _ _ (.closeShiftWithOutbox _ _ outboxId _) => some outboxId
  | .till .. => none

section Perform
variable {Remote Answer : Type}

def outboxHolds (world : StockDeskWorld Remote) (id : Uuid) : Bool :=
  outboxHas world.desk id ∨ world.moved.any (·.id = id)

def outboxTaken : PoolError := .connection "UNIQUE constraint failed: outbox.id"

/-- All that is queued shares one key, so that a transaction fails on the submission of any
other. -/
def CounterChoice.meeting (choice : CounterChoice Answer) (world : StockDeskWorld Remote) (request : ShiftRequest) :
    CounterChoice Answer :=
  if request.queued.any (outboxHolds world) then
    { choice with hub := { choice.hub with storageFailure := choice.hub.storageFailure.or (some outboxTaken) } }
  else choice

def StockDeskWorld.withInventory (world : StockDeskWorld Remote) (tables : InventoryTables) : StockDeskWorld Remote :=
  { world with desk := { world.desk with counter := { world.desk.counter with inventory := tables } } }

/-- The row of a movement that is written now. -/
def newMovement (choice : CounterChoice Answer) (input : StockMovementInput) : StockMovementRow :=
  { id := .random choice.hub.freshId, storeId := input.storeId, registerId := input.registerId, itemId := input.itemId
    quantityDelta := input.quantityDelta, createdAt := choice.hub.now }

def performMovement (choice : CounterChoice Answer) (world : StockDeskWorld Remote) (call : MovementCall) :
    call.Reply × StockDeskWorld Remote :=
  match call with
  | .insertStockMovement input =>
    match choice.hub.storageFailure with
    | some error => (.error error, world)
    | none =>
      let movement := newMovement choice input
      match InventoryLedger.insertStockMovement movement world.desk.counter.inventory with
      | (.error error, _) => (.error error, world)
      | (.ok (), tables) => (.ok movement, world.withInventory tables)
  | .insertOutbox id movement =>
    match choice.hub.storageFailure with
    | some error => (.error error, world)
    | none =>
      if outboxHolds world id then (.error outboxTaken, world)
      else (.ok (), { world with moved := world.moved ++ [⟨id, movement⟩] })
  | .applyLocalDelta storeId itemId delta =>
    match choice.hub.storageFailure with
    | some error => (.error error, world)
    | none =>
      (.ok (), world.withInventory
        (InventoryLedger.applyLocalDelta storeId itemId delta choice.hub.now world.desk.counter.inventory).2)

def performAtStockDesk (rank : Uuid → Nat) (providers : Providers Remote Answer) (choice : CounterChoice Answer)
    (world : StockDeskWorld Remote) (request : StockDeskRequest) : request.Reply × StockDeskWorld Remote :=
  match request with
  | .desk request =>
    let answered := performAtShiftDesk rank providers (choice.meeting world request) world.desk request
    (answered.1, { world with desk := answered.2 })
  | .stock _ call => performMovement choice world call

/-- One executor per idempotency key. -/
def stockDeskClaims (others : List StockDeskRequest) (task : StockDeskTask) : Bool := others.all (·.key ≠ some task.key)

def stockDesk (app : AppState) (rank : Uuid → Nat) (providers : Providers Remote Answer) :
    Machine StockDeskRequest StockDeskRequest.Reply (DeskAnswer ⊕ MovementAnswer) (StockDeskWorld Remote)
      (CounterChoice Answer) StockDeskTask :=
  { perform := performAtStockDesk rank providers, program := StockDeskTask.program app, admits := stockDeskClaims }

end Perform
end ApexEdge.Hub
