import ApexEdge.Hub.PosHandler
import ApexEdge.Storage.InventoryLedger

/-! Everything that moves stock, one transaction at a time: stock commands, restocks of
returns, reconciliations with headquarters, and the carts that hold and buy. What is
queued for headquarters, audit records and broadcasts are left out. -/

namespace ApexEdge.Hub
open Library Payment Domain Storage Contracts

structure StockMovementPayload where
  itemId : Uuid
  quantityDelta : Int
  reason : String
  deriving DecidableEq, Repr

structure StockMovementInput where
  storeId : Uuid
  registerId : Uuid
  itemId : Uuid
  quantityDelta : Int
  deriving DecidableEq, Repr

/-- A line of a finalized return. -/
structure RestockLine where
  sku : String
  quantity : Nat
  deriving DecidableEq, Repr

/-- What takes a single transaction; carts come to no more than these. -/
inductive LedgerCall where
  | seedInventoryFromCatalog (storeId : Uuid)
  | ensureInventoryState (storeId itemId : Uuid) (baselineQty : Int)
  | tryReserve (input : ReserveInput)
  | releaseLineReservation (storeId lineId : Uuid)
  | releaseCartReservations (storeId cartId : Uuid)
  | commitCartSale (storeId cartId : Uuid)
  | expireStaleReservations
  deriving DecidableEq, Repr

inductive StockCall where
  | ledger (call : LedgerCall)
  | insertStockMovement (input : StockMovementInput)
  | applyLocalDelta (storeId itemId : Uuid) (delta : Int)
  | getCatalogItemBySku (storeId : Uuid) (sku : String)
  | getInventoryState (storeId itemId : Uuid)
  | rebaseBaseline (storeId itemId : Uuid) (newBaselineQty : Int) (reflectedThrough : Timestamp)
  deriving DecidableEq, Repr

@[reducible] def StockCall.Reply : StockCall → Type
  | .insertStockMovement _ => Except PoolError StockMovementRow
  | .getCatalogItemBySku .. => Except PoolError (Option Uuid)
  | .getInventoryState .. => Except PoolError (Option InventoryStateRow)
  | _ => Except PoolError Unit

structure StockRequest where
  /-- The movement of a stock command that has been written and is still to be applied. -/
  movement : Option StockMovementRow
  call : StockCall
  deriving DecidableEq, Repr

@[reducible] def StockRequest.Reply (request : StockRequest) : Type := request.call.Reply

inductive StockOutcome where
  | done
  | moved (movement : StockMovementRow)
  | rejected (errors : List PosError)
  | reconciled (summary : ReconcileSummary)
  | failed (error : PoolError)
  deriving DecidableEq, Repr

abbrev StockProgram (α : Type) := Program StockRequest StockRequest.Reply α

abbrev StockAction (α : Type) := Fallible StockRequest StockRequest.Reply PoolError α

/-- ReceiveStock, TransferStock and AdjustStock. The movement is written first; whether it
can be applied as well is not looked at. -/
def stockMovement (storeId registerId : Uuid) (p : StockMovementPayload) : StockProgram StockOutcome :=
  if p.quantityDelta = 0 ∨ p.reason.toList.all Char.isWhitespace then
    return .rejected (posError "INVALID_STOCK_MOVEMENT" "Stock movement requires a non-zero quantity and reason")
  else do
    let input : StockMovementInput := ⟨storeId, registerId, p.itemId, p.quantityDelta⟩
    match ← Program.ask (⟨none, .insertStockMovement input⟩ : StockRequest) with
    | .error error => return .rejected (posError "STOCK_MOVEMENT_FAILED" error.toString)
    | .ok movement =>
      let _ ← Program.ask (⟨some movement, .applyLocalDelta storeId p.itemId p.quantityDelta⟩ : StockRequest)
      return .moved movement

/-- Returned units go back on the shelf. No movement is written for them. -/
def restock (storeId : Uuid) (lines : List RestockLine) : StockProgram StockOutcome :=
  match lines with
  | [] => return .done
  | line :: rest => do
    match ← Program.ask (⟨none, .getCatalogItemBySku storeId line.sku⟩ : StockRequest) with
    | .ok (some itemId) => do
      let _ ← Program.ask (⟨none, .applyLocalDelta storeId itemId line.quantity⟩ : StockRequest)
      restock storeId rest
    | _ => restock storeId rest

def stockReply (call : StockCall) : StockAction call.Reply := Fallible.ask (⟨none, call⟩ : StockRequest)

/-- What a level reflects is told by the last baseline, and is everything on first sight. -/
def reconcileLevels (storeId : Uuid) (summary : ReconcileSummary) (levels : List InventoryLevel) :
    StockAction ReconcileSummary :=
  match levels with
  | [] => return summary
  | level :: rest => do
    let previous ← (stockReply (.getInventoryState storeId level.itemId)).orThrow id
    let reflectedThrough := (previous.map (·.baselineAsOf)).getD 0
    (stockReply (.rebaseBaseline storeId level.itemId level.availableQty reflectedThrough)).orThrow id
    let after ← (stockReply (.getInventoryState storeId level.itemId)).orThrow id
    let drift := if after.any (·.uncommitted < 0) then summary.drift + 1 else summary.drift
    reconcileLevels storeId ⟨summary.items + 1, drift⟩ rest

def reconcile (storeId : Uuid) (levels : List InventoryLevel) : StockProgram StockOutcome :=
  Program.bind (reconcileLevels storeId ⟨0, 0⟩ levels) fun
    | .ok summary => return .reconciled summary
    | .error error => return .failed error

inductive StockTask where
  | ledger (call : LedgerCall)
  | stockMovement (storeId registerId : Uuid) (payload : StockMovementPayload)
  | restock (storeId : Uuid) (lines : List RestockLine)
  | reconcile (storeId : Uuid) (levels : List InventoryLevel)
  deriving DecidableEq, Repr

def StockTask.program (task : StockTask) : StockProgram StockOutcome :=
  match task with
  | .ledger call => do
    match ← Program.ask (⟨none, .ledger call⟩ : StockRequest) with
    | .ok () => return .done
    | .error error => return .failed error
  | .stockMovement storeId registerId payload => Hub.stockMovement storeId registerId payload
  | .restock storeId lines => Hub.restock storeId lines
  | .reconcile storeId levels => Hub.reconcile storeId levels

inductive StockFact where
  /-- The delta of a stock command. -/
  | moved (delta : Int)
  /-- The delta of a restock. -/
  | restocked (delta : Int)
  | sold (qty : Int)
  | rebased
  deriving DecidableEq, Repr

structure StockEntry where
  storeId : Uuid
  itemId : Uuid
  fact : StockFact
  deriving DecidableEq, Repr

/-- The ledger, and what has taken effect on its items, newest first; that is kept for the
record only. -/
structure StockWorld where
  tables : InventoryTables
  journal : List StockEntry
  deriving DecidableEq, Repr

/-- The time, the fresh id and the catalog that a transaction meets. -/
structure StockChoice where
  now : Timestamp
  freshId : Uuid
  catalog : List CatalogStock
  item : Except PoolError (Option Uuid)
  storageFailure : Option PoolError

/-- The active reservations of a cart are sold. -/
def soldEntries (storeId cartId : Uuid) (tables : InventoryTables) : List StockEntry :=
  (tables.reservations.filter fun row => row.state = .active ∧ InventoryLedger.ofCart storeId cartId row).map
    fun row => ⟨row.storeId, row.itemId, .sold row.qty⟩

def performLedger (choice : StockChoice) (world : StockWorld) (call : LedgerCall) :
    Except PoolError Unit × StockWorld :=
  let write (tables : InventoryTables) : StockWorld := { world with tables := tables }
  match call with
  | .seedInventoryFromCatalog storeId =>
    let seeded := InventoryLedger.seedFromCatalog storeId choice.catalog choice.now world.tables
    (seeded.1.map fun _ => (), write seeded.2)
  | .ensureInventoryState storeId itemId baselineQty =>
    (.ok (), write (InventoryLedger.ensureInventoryState storeId itemId baselineQty choice.now world.tables).2)
  | .tryReserve input =>
    let tried := InventoryLedger.tryReserve choice.freshId input choice.now world.tables
    (tried.1.map fun _ => (), write tried.2)
  | .releaseLineReservation storeId lineId =>
    (.ok (), write (InventoryLedger.releaseLineReservation storeId lineId choice.now world.tables).2)
  | .releaseCartReservations storeId cartId =>
    (.ok (), write (InventoryLedger.releaseCartReservations storeId cartId choice.now world.tables).2)
  | .commitCartSale storeId cartId =>
    (.ok (), { tables := (InventoryLedger.commitCartSale storeId cartId choice.now world.tables).2
               journal := soldEntries storeId cartId world.tables ++ world.journal })
  | .expireStaleReservations => (.ok (), write (InventoryLedger.expireStaleReservations choice.now world.tables).2)

/-- Of an untracked item there is nothing that a delta could take effect on. -/
def deltaEntries (movement : Option StockMovementRow) (storeId itemId : Uuid) (delta : Int) (tables : InventoryTables) :
    List StockEntry :=
  if tables.inventoryState.any (InventoryLedger.ofItem storeId itemId) then
    [⟨storeId, itemId, if movement.isSome then .moved delta else .restocked delta⟩]
  else []

def writtenMovement (choice : StockChoice) (input : StockMovementInput) : StockMovementRow :=
  { id := choice.freshId, storeId := input.storeId, registerId := input.registerId, itemId := input.itemId
    quantityDelta := input.quantityDelta, createdAt := choice.now }

/-- A failing transaction leaves everything as it was. -/
def performStock (choice : StockChoice) (world : StockWorld) (request : StockRequest) : request.Reply × StockWorld :=
  match request with
  | ⟨_, .ledger call⟩ =>
    match choice.storageFailure with
    | some error => (.error error, world)
    | none => performLedger choice world call
  | ⟨_, .insertStockMovement input⟩ =>
    match choice.storageFailure with
    | some error => (.error error, world)
    | none =>
      let movement := writtenMovement choice input
      match InventoryLedger.insertStockMovement movement world.tables with
      | (.error error, _) => (.error error, world)
      | (.ok (), tables) => (.ok movement, { world with tables := tables })
  | ⟨movement, .applyLocalDelta storeId itemId delta⟩ =>
    match choice.storageFailure with
    | some error => (.error error, world)
    | none =>
      (.ok (), { tables := (InventoryLedger.applyLocalDelta storeId itemId delta choice.now world.tables).2
                 journal := deltaEntries movement storeId itemId delta world.tables ++ world.journal })
  | ⟨_, .getCatalogItemBySku ..⟩ => (choice.item, world)
  | ⟨_, .getInventoryState storeId itemId⟩ =>
    match choice.storageFailure with
    | some error => (.error error, world)
    | none => (.ok (InventoryLedger.getInventoryState storeId itemId world.tables), world)
  | ⟨_, .rebaseBaseline storeId itemId newBaselineQty reflectedThrough⟩ =>
    match choice.storageFailure with
    | some error => (.error error, world)
    | none =>
      (.ok (), { tables := InventoryLedger.rebaseBaseline storeId itemId newBaselineQty reflectedThrough choice.now
                  world.tables
                 journal := ⟨storeId, itemId, .rebased⟩ :: world.journal })

/-- Any number of all of them, side by side. -/
def stockRoom : Machine StockRequest StockRequest.Reply StockOutcome StockWorld StockChoice StockTask :=
  { perform := performStock, program := StockTask.program, admits := fun _ _ => true }

end ApexEdge.Hub
