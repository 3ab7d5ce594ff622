import ApexEdge.Domain.Returns
import ApexEdge.Hub.CommandStore

/-! The return counter: returns are started, filled with lines, refunded, and finalized
or voided. Audit records and broadcasts are left out. -/

namespace ApexEdge.Hub
open Library Payment Domain Storage Contracts

structure StartReturnPayload where
  returnId : Option Uuid
  originalOrderId : Option Uuid
  reasonCode : Option String
  approvalId : Option Uuid
  shiftId : Option Uuid
  deriving DecidableEq, Repr

structure ReturnLineItemPayload where
  returnId : Uuid
  sku : String
  name : Option String
  quantity : Nat
  unitPriceCents : Nat
  taxCents : Nat
  taxInclusive : Bool
  originalLineId : Option Uuid
  deriving DecidableEq, Repr

inductive ReturnCommand where
  | startReturn (payload : StartReturnPayload)
  | returnLineItem (payload : ReturnLineItemPayload)
  | refundTender (payload : RefundTenderPayload)
  | finalizeReturn (returnId : Uuid)
  | voidReturn (returnId : Uuid)
  deriving DecidableEq, Repr

structure ReturnTask where
  boundRegister : Option Uuid
  header : CommandHeader
  command : ReturnCommand
  deriving DecidableEq, Repr

inductive ApprovalState where
  | pending | granted | denied | expired
  deriving DecidableEq, Repr

def ApprovalState.debug (state : ApprovalState) : String :=
  match state with
  | .pending => "Pending"
  | .granted => "Granted"
  | .denied => "Denied"
  | .expired => "Expired"

/-- A queued submission names the return it carries. -/
structure ReturnSubmission where
  id : Uuid
  returnId : Uuid
  deriving DecidableEq, Repr

/-- A line of a return, whose units go back on the shelf. -/
structure Restock where
  returnId : Uuid
  lineId : Uuid
  deriving DecidableEq, Repr

inductive CounterCall where
  | hub (call : Call)
  | fetchApproval (id : Uuid)
  | insertReturn (new : NewReturn)
  | addReceiptedReturnLine (input : ReturnLineRow)
  | insertReturnLine (line : ReturnLineRow)
  | updateReturnTotals (id : Uuid) (totalCents taxCents refundedCents : Nat) (state : ReturnState)
  | signOrQueueReturn (snapshot : ReturnSnapshot)
  | applyReturnFiscalReceipt (id : Uuid) (fiscal : FiscalPersistFields)
  | finalizeReturnRowWithOutbox (id submissionId : Uuid)
  | getCatalogItemBySku (storeId : Uuid) (sku : String)
  | applyLocalDelta (storeId itemId : Uuid) (delta : Int)
  | voidReturnRow (id : Uuid)
  deriving DecidableEq

@[reducible] def CounterCall.Reply : CounterCall → Type
  | .hub call => call.Reply
  | .fetchApproval _ => Except PoolError (Option ApprovalState)
  | .signOrQueueReturn _ => Except String FiscalPersistFields
  | .getCatalogItemBySku .. => Except PoolError (Option Uuid)
  | _ => Except PoolError Unit

structure CounterRequest where
  frame : Frame
  /-- The header that a blind line is added to, as it was read, and the line. -/
  adding : Option (ReturnRow × ReturnLineRow)
  /-- What a finalized return still has to put back, the line in work first. -/
  restocks : List Restock
  call : CounterCall
  deriving DecidableEq

@[reducible] def CounterRequest.Reply (request : CounterRequest) : Type := request.call.Reply

abbrev CounterProgram (α : Type) := Program CounterRequest CounterRequest.Reply α

abbrev CounterAction (ε α : Type) := Fallible CounterRequest CounterRequest.Reply ε α

def CounterRequest.ofHub (request : Request) : CounterRequest :=
  { frame := request.frame, adding := none, restocks := [], call := .hub request.call }

/-- A program of the hub. -/
def atCounter {α : Type} (program : Command α) : CounterProgram α :=
  program.embed CounterRequest.ofHub fun _ reply => reply

def counterReply {ε : Type} (frame : Frame) (call : CounterCall) : CounterAction ε call.Reply :=
  Fallible.ask (⟨frame, none, [], call⟩ : CounterRequest)

section Commands
variable (app : AppState) (header : CommandHeader)

def counterFrame : Frame := Frame.ofKey (some header.idempotencyKey)

def loadReturn (id : Uuid) : CounterAction (List PosError) ReturnSnapshot :=
  atCounter (loadSnapshot (counterFrame header) id)

/-- A return without an order needs a supervisor's approval. -/
def ensureApproved (p : StartReturnPayload) : CounterAction (List PosError) Unit :=
  match p.originalOrderId, p.approvalId with
  | some _, _ => return ()
  | none, none => throw (posError "APPROVAL_REQUIRED" "blind return requires supervisor approval")
  | none, some approvalId => do
    match ← counterReply (counterFrame header) (.fetchApproval approvalId) with
    | .ok (some .granted) => return ()
    | .ok (some state) => throw (posError "APPROVAL_NOT_GRANTED" ("approval is " ++ state.debug))
    | .ok none => throw (posError "APPROVAL_NOT_FOUND" "approval missing")
    | .error error => throw (posError "APPROVAL_LOOKUP_FAILED" error.toString)

def newReturn (returnId : Uuid) (p : StartReturnPayload) : NewReturn :=
  { id := returnId, storeId := header.storeId, registerId := header.registerId, shiftId := p.shiftId
    originalOrderId := p.originalOrderId, reasonCode := p.reasonCode, approvalId := p.approvalId }

/-- The wanted id, or a fresh one. -/
def chooseReturnId (wanted : Option Uuid) : CounterAction (List PosError) Uuid :=
  match wanted with
  | some id => return id
  | none => counterReply (counterFrame header) (.hub .newId)

def startReturn (p : StartReturnPayload) : CounterAction (List PosError) Payload := do
  ensureApproved header p
  let returnId ← chooseReturnId header p.returnId
  (counterReply (counterFrame header) (.insertReturn (newReturn header returnId p))).orThrow fun error =>
    posError "RETURN_INSERT_FAILED" error.toString
  return .returned (← loadReturn header returnId)

/-- What is asked of the ledger for a line with a receipt; the ledger prices it. -/
def receiptInput (lineId : Uuid) (p : ReturnLineItemPayload) : ReturnLineRow :=
  { id := lineId, returnId := p.returnId, originalLineId := p.originalLineId, sku := p.sku, name := ""
    quantity := p.quantity, unitPriceCents := 0, lineTotalCents := 0, taxCents := 0, taxInclusive := false }

def blindLine (lineId : Uuid) (p : ReturnLineItemPayload) : ReturnLineRow :=
  { id := lineId, returnId := p.returnId, originalLineId := p.originalLineId, sku := p.sku
    name := p.name.getD p.sku, quantity := p.quantity, unitPriceCents := p.unitPriceCents
    lineTotalCents := saturatingMul p.unitPriceCents p.quantity, taxCents := p.taxCents
    taxInclusive := p.taxInclusive }

def returnReceiptedLine (p : ReturnLineItemPayload) : CounterAction (List PosError) Payload := do
  let lineId ← counterReply (counterFrame header) (.hub .newId)
  (counterReply (counterFrame header) (.addReceiptedReturnLine (receiptInput lineId p))).orThrow fun error =>
    posError "RETURN_LINE_REJECTED" error.toString
  return .returned (← loadReturn header p.returnId)

/-- Write the line, and then the header as the snapshot has it with the line. -/
def returnBlindLine (snapshot : ReturnSnapshot) (p : ReturnLineItemPayload) :
    CounterAction (List PosError) Payload := do
  let lineId ← counterReply (counterFrame header) (.hub .newId)
  let line := blindLine lineId p
  match snapshot.addLine line with
  | .error message => throw (posError "RETURN_LINE_REJECTED" message)
  | .ok extended =>
    let ask (call : CounterCall) : CounterAction (List PosError) call.Reply :=
      Fallible.ask (⟨counterFrame header, some (snapshot.row, line), [], call⟩ : CounterRequest)
    (ask (.insertReturnLine line)).orThrow fun error => posError "RETURN_LINE_INSERT_FAILED" error.toString
    (ask (.updateReturnTotals p.returnId extended.row.totalCents extended.row.taxCents extended.row.refundedCents
      extended.row.state)).orThrow fun error => posError "RETURN_UPDATE_FAILED" error.toString
    return .returned extended

def returnLineItem (p : ReturnLineItemPayload) : CounterAction (List PosError) Payload := do
  let snapshot ← loadReturn header p.returnId
  if snapshot.row.storeId ≠ header.storeId then
    throw (posError "STORE_MISMATCH" "return belongs to another store")
  else if snapshot.row.originalOrderId.isSome then returnReceiptedLine header p
  else returnBlindLine header snapshot p

/-- Lines carry a SKU only; one that is not found stays off the shelf. -/
def restockLines (storeId returnId : Uuid) (lines : List ReturnLineRow) : CounterAction (List PosError) Unit :=
  match lines with
  | [] => return ()
  | line :: rest => do
    let restocks := (line :: rest).map fun line => Restock.mk returnId line.id
    let found ← Fallible.ask (⟨counterFrame header, none, restocks, .getCatalogItemBySku storeId line.sku⟩ : CounterRequest)
    match found with
    | .ok (some itemId) => do
      let _ ← Fallible.ask
        (⟨counterFrame header, none, restocks, .applyLocalDelta storeId itemId line.quantity⟩ : CounterRequest)
      restockLines storeId returnId rest
    | _ => restockLines storeId returnId rest

def fiscalSigningFailed (message : String) : List PosError := posError "FISCAL_SIGNING_FAILED" message

def finalizeReturn (returnId : Uuid) : CounterAction (List PosError) Payload := do
  let frame := counterFrame header
  let snapshot ← loadReturn header returnId
  match snapshot.finalize with
  | .error message => throw (posError "RETURN_NOT_READY" message)
  | .ok finalized =>
    let fiscal ← (counterReply frame (.signOrQueueReturn finalized)).orThrow fiscalSigningFailed
    (counterReply frame (.applyReturnFiscalReceipt returnId fiscal)).orThrow fun error =>
      fiscalSigningFailed error.toString
    let submissionId ← counterReply frame (.hub .newId)
    (counterReply frame (.finalizeReturnRowWithOutbox returnId submissionId)).orThrow fun error =>
      posError "RETURN_FINALIZE_FAILED" error.toString
    restockLines header header.storeId returnId finalized.lines
    return .returned finalized

def voidReturn (returnId : Uuid) : CounterAction (List PosError) Payload := do
  let snapshot ← loadReturn header returnId
  match snapshot.void with
  | .error message => throw (posError "RETURN_VOID_REJECTED" message)
  | .ok voided =>
    (counterReply (counterFrame header) (.voidReturnRow returnId)).orThrow fun error =>
      posError "RETURN_VOID_FAILED" error.toString
    return .returned voided

/-- The envelope that the hub's own commands come in. -/
def CommandHeader.pos (payload : PosCommand) : PosRequestEnvelope :=
  { version := header.version, idempotencyKey := header.idempotencyKey, storeId := header.storeId
    registerId := header.registerId, payload := payload }

def executeReturnCommand (command : ReturnCommand) : CounterAction (List PosError) Payload :=
  match command with
  | .startReturn p => startReturn header p
  | .returnLineItem p => returnLineItem header p
  | .refundTender p => atCounter (refundTender app (header.pos (.refundTender p)) p)
  | .finalizeReturn returnId => finalizeReturn header returnId
  | .voidReturn returnId => voidReturn header returnId

end Commands

/-- A command on a return is checked, answered from the stored response or executed, and
its success stored, as every command is. -/
def ReturnTask.program (app : AppState) (task : ReturnTask) : CounterProgram PosResponse :=
  let key := task.header.idempotencyKey
  let refuse (error : PosError) : CounterProgram PosResponse := return .rejected key [error]
  if task.header.storeId ≠ app.storeId then refuse storeMismatch
  else if task.boundRegister.any (· ≠ task.header.registerId) then
    refuse ⟨"REGISTER_MISMATCH", "register_id does not match the paired device", some "register_id"⟩
  else if task.header.version ≠ .v1_0_0 then
    refuse ⟨"UNSUPPORTED_VERSION", "Unsupported contract version", none⟩
  else do
    match ← Program.ask (CounterRequest.ofHub ⟨counterFrame task.header, .getResponse key⟩) with
    | .ok (some replayed) => return replayed
    | _ =>
      Program.bind (executeReturnCommand app task.header task.command) fun
        | .ok payload => atCounter (storeResponse (counterFrame task.header) (.accepted key payload))
        | .error errors => return .rejected key errors

/-- What the counter does with the outcome of a command it has executed. -/
def ReturnTask.answered (task : ReturnTask) (result : Except (List PosError) Payload) : CounterProgram PosResponse :=
  match result with
  | .ok payload => atCounter (storeResponse (counterFrame task.header) (.accepted task.header.idempotencyKey payload))
  | .error errors => return .rejected task.header.idempotencyKey errors

/-- A command on a return is refused, or it looks for a stored response and replays or executes. -/
theorem ReturnTask.program_cases (app : AppState) (task : ReturnTask) :
    (∃ error, task.program app = return .rejected task.header.idempotencyKey [error]) ∨
      task.header.storeId = app.storeId ∧ ∃ next,
        task.program app = Program.request (.ofHub ⟨counterFrame task.header, .getResponse task.header.idempotencyKey⟩) next ∧
          ∀ stored, (∃ replayed, next stored = return replayed) ∨
            next stored = Program.bind (executeReturnCommand app task.header task.command) task.answered := by
  unfold ReturnTask.program
  dsimp only
  split
  · exact .inl ⟨_, rfl⟩
  next store =>
    split
    · exact .inl ⟨_, rfl⟩
    · split
      · exact .inl ⟨_, rfl⟩
      · refine .inr ⟨not_not.mp store, _, rfl, fun stored => ?_⟩
        rcases stored with error | none | replayed
        · exact .inr rfl
        · exact .inr rfl
        · exact .inl ⟨_, rfl⟩

/-- The hub, its ledger of stock, and the return submissions of its outbox. Which lines
have been put back and which returns voided is kept for the record only: no command
reads it. -/
structure CounterWorld (Remote : Type) where
  hub : World Remote
  inventory : InventoryTables
  submissions : List ReturnSubmission
  restocked : List Restock
  voided : List Uuid

/-- Approvals, the signer and the catalog answer as they may. -/
structure CounterChoice (Answer : Type) where
  hub : Choice Answer
  approval : Except PoolError (Option ApprovalState)
  fiscal : Except String FiscalPersistFields
  item : Except PoolError (Option Uuid)

section Perform
variable {Remote Answer : Type}

def CounterWorld.withReturns (world : CounterWorld Remote) (returns : ReturnTables) : CounterWorld Remote :=
  { world with hub := { world.hub with db := { world.hub.db with returns := returns } } }

/-- A transaction on the tables of returns. A failing one leaves them as they were. -/
def transactReturns (choice : CounterChoice Answer) (world : CounterWorld Remote)
    (write : ReturnTables → Except PoolError ReturnTables) : Except PoolError Unit × CounterWorld Remote :=
  match choice.hub.storageFailure with
  | some error => (.error error, world)
  | none =>
    match write world.hub.db.returns with
    | .error error => (.error error, world)
    | .ok returns => (.ok (), world.withReturns returns)

/-- Finalize the return and queue it for headquarters, in one transaction. -/
def finalizeWithOutbox (choice : CounterChoice Answer) (world : CounterWorld Remote) (id submissionId : Uuid) :
    Except PoolError Unit × CounterWorld Remote :=
  match choice.hub.storageFailure with
  | some error => (.error error, world)
  | none =>
    if world.hub.db.outbox.any (·.id = submissionId) ∨ world.submissions.any (·.id = submissionId) then
      (.error (.connection "UNIQUE constraint failed: outbox.id"), world)
    else
      (.ok (), { world.withReturns (Returns.finalizeRow id world.hub.db.returns) with
        submissions := world.submissions ++ [⟨submissionId, id⟩] })

def voidRow (choice : CounterChoice Answer) (world : CounterWorld Remote) (id : Uuid) :
    Except PoolError Unit × CounterWorld Remote :=
  match transactReturns choice world (Returns.voidRow id) with
  | (.ok (), after) => (.ok (), { after with voided := after.voided ++ [id] })
  | failed => failed

/-- Put one line's units back. -/
def putBack (choice : CounterChoice Answer) (world : CounterWorld Remote) (restocks : List Restock)
    (storeId itemId : Uuid) (delta : Int) : Except PoolError Unit × CounterWorld Remote :=
  match choice.hub.storageFailure with
  | some error => (.error error, world)
  | none =>
    (.ok (), { world with
      inventory := (InventoryLedger.applyLocalDelta storeId itemId delta choice.hub.now world.inventory).2
      restocked := world.restocked ++ restocks.take 1 })

def performAtCounter (rank : Uuid → Nat) (providers : Providers Remote Answer) (choice : CounterChoice Answer)
    (world : CounterWorld Remote) (request : CounterRequest) : request.Reply × CounterWorld Remote :=
  match request with
  | ⟨frame, _, _, .hub call⟩ =>
    let answered := perform providers choice.hub world.hub ⟨frame, call⟩
    (answered.1, { world with hub := answered.2 })
  | ⟨_, _, _, .fetchApproval _⟩ => (choice.approval, world)
  | ⟨_, _, _, .insertReturn new⟩ => transactReturns choice world (Returns.insert new)
  | ⟨_, _, _, .addReceiptedReturnLine input⟩ =>
    transactReturns choice world (Returns.addReceiptedLine rank world.hub.db.orders input)
  | ⟨_, _, _, .insertReturnLine line⟩ => transactReturns choice world (Returns.insertLine line)
  | ⟨_, _, _, .updateReturnTotals id totalCents taxCents refundedCents state⟩ =>
    transactReturns choice world fun tables =>
      .ok (Returns.updateTotals id totalCents taxCents refundedCents state tables)
  | ⟨_, _, _, .signOrQueueReturn _⟩ => (choice.fiscal, world)
  | ⟨_, _, _, .applyReturnFiscalReceipt ..⟩ =>
    (match choice.hub.storageFailure with | some error => .error error | none => .ok (), world)
  | ⟨_, _, _, .finalizeReturnRowWithOutbox id submissionId⟩ => finalizeWithOutbox choice world id submissionId
  | ⟨_, _, _, .getCatalogItemBySku ..⟩ => (choice.item, world)
  | ⟨_, _, restocks, .applyLocalDelta storeId itemId delta⟩ => putBack choice world restocks storeId itemId delta
  | ⟨_, _, _, .voidReturnRow id⟩ => voidRow choice world id

/-- One executor per idempotency key. -/
def counterClaims (others : List CounterRequest) (task : ReturnTask) : Bool :=
  others.all (·.frame.key ≠ some task.header.idempotencyKey)

def returnCounter (app : AppState) (rank : Uuid → Nat) (providers : Providers Remote Answer) :
    Machine CounterRequest CounterRequest.Reply PosResponse (CounterWorld Remote) (CounterChoice Answer) ReturnTask :=
  { perform := performAtCounter rank providers, program := ReturnTask.program app, admits := counterClaims }

end Perform
end ApexEdge.Hub
