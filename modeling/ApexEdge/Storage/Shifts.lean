import ApexEdge.Domain.Shifts
import ApexEdge.Storage.ReturnLines

/-! Shifts, their cash movements, and the cash that the ledger and the refunds have for a
shift. One shift is open per register. -/

namespace ApexEdge.Storage
open Payment Domain Library

inductive ShiftState where
  | open | closed
  deriving DecidableEq, Repr

structure ShiftRow where
  id : Uuid
  storeId : Uuid
  registerId : Uuid
  associateId : Option String
  state : ShiftState
  openingFloatCents : Nat
  closingCountedCents : Option Int
  expectedCents : Option Int
  varianceCents : Option Int
  openedAt : Timestamp
  closedAt : Option Timestamp
  deriving DecidableEq, Repr

structure NewShift where
  id : Uuid
  storeId : Uuid
  registerId : Uuid
  associateId : Option String
  openingFloatCents : Nat
  deriving DecidableEq, Repr

structure ShiftMovementRow where
  id : Uuid
  shiftId : Uuid
  kind : CashMovementKind
  amountCents : Nat
  reason : Option String
  approvalId : Option Uuid
  createdAt : Timestamp
  deriving DecidableEq, Repr

structure NewShiftMovement where
  id : Uuid
  shiftId : Uuid
  kind : CashMovementKind
  amountCents : Nat
  reason : Option String
  approvalId : Option Uuid
  deriving DecidableEq, Repr

structure ShiftTables where
  shifts : List ShiftRow
  movements : List ShiftMovementRow
  deriving DecidableEq, Repr

/-- What a closing writes besides the time. -/
structure ShiftClosing where
  countedCents : Int
  expectedCents : Int
  varianceCents : Int
  deriving DecidableEq, Repr

/-- Amounts are read back from signed columns. -/
def NewShift.row (new : NewShift) (now : Timestamp) : ShiftRow :=
  { id := new.id, storeId := new.storeId, registerId := new.registerId, associateId := new.associateId
    state := .open, openingFloatCents := Returns.stored new.openingFloatCents, closingCountedCents := none
    expectedCents := none, varianceCents := none, openedAt := now, closedAt := none }

def NewShiftMovement.row (new : NewShiftMovement) (now : Timestamp) : ShiftMovementRow :=
  { id := new.id, shiftId := new.shiftId, kind := new.kind, amountCents := Returns.stored new.amountCents
    reason := new.reason, approvalId := new.approvalId, createdAt := now }

def ShiftMovementRow.movement (row : ShiftMovementRow) : CashMovement :=
  { id := row.id, kind := row.kind, amountCents := row.amountCents, reason := row.reason, approvalId := row.approvalId }

namespace Shifts

def isOpenAt (storeId registerId : Uuid) (row : ShiftRow) : Bool :=
  row.storeId = storeId ∧ row.registerId = registerId ∧ row.state = .open

def openShift (new : NewShift) (now : Timestamp) (tables : ShiftTables) : Except PoolError ShiftTables :=
  if tables.shifts.any (·.id = new.id) then .error (.connection "UNIQUE constraint failed: shifts.id")
  else if tables.shifts.any (isOpenAt new.storeId new.registerId) then
    .error (.connection "UNIQUE constraint failed: shifts.store_id, shifts.register_id")
  else .ok { tables with shifts := tables.shifts ++ [new.row now] }

def fetchOpen (storeId registerId : Uuid) (tables : ShiftTables) : Option ShiftRow :=
  tables.shifts.find? (isOpenAt storeId registerId)

def fetch (id : Uuid) (tables : ShiftTables) : Option ShiftRow := tables.shifts.find? (·.id = id)

def closing (id : Uuid) (written : ShiftClosing) (now : Timestamp) : Table.Update ShiftRow :=
  { selects := (·.id = id)
    set := fun row =>
      { row with
        state := .closed, closingCountedCents := some written.countedCents
        expectedCents := some written.expectedCents, varianceCents := some written.varianceCents
        closedAt := some now } }

/-- Whatever the state was. -/
def close (id : Uuid) (written : ShiftClosing) (now : Timestamp) (tables : ShiftTables) : ShiftTables :=
  { tables with shifts := (closing id written now).run tables.shifts }

def insertMovement (new : NewShiftMovement) (now : Timestamp) (tables : ShiftTables) : Except PoolError ShiftTables :=
  if tables.movements.any (·.id = new.id) then
    .error (.connection "UNIQUE constraint failed: shift_movements.id")
  else .ok { tables with movements := tables.movements ++ [new.row now] }

def listMovements (shiftId : Uuid) (tables : ShiftTables) : List ShiftMovementRow :=
  Table.orderedBy ShiftMovementRow.createdAt (tables.movements.filter (·.shiftId = shiftId))

end Shifts

def isCash (tenderType : String) : Bool := tenderType.toLower = "cash"

namespace Orders

def cashPayments (shiftId : Uuid) (orders : List NewOrderLedgerEntry) : List NewOrderPaymentEntry :=
  (orders.filter (·.shiftId = some shiftId)).flatMap fun order => order.payments.filter (isCash ·.tenderType)

def cashSalesCentsForShift (shiftId : Uuid) (orders : List NewOrderLedgerEntry) : Except PoolError Nat :=
  (Returns.sumColumn ((cashPayments shiftId orders).map fun payment => asI64 payment.amountCents)).map Int.toNat

end Orders

namespace Returns

/-- Refunds count once their return is finalized. -/
def isFinalizedOn (shiftId returnId : Uuid) (tables : ReturnTables) : Bool :=
  tables.returns.any fun row => row.id = returnId ∧ row.shiftId = some shiftId ∧ row.state = .finalized

def cashRefunds (shiftId : Uuid) (tables : ReturnTables) : List RefundRow :=
  tables.refunds.filter fun refund => isCash refund.tenderType ∧ isFinalizedOn shiftId refund.returnId tables

def cashRefundsCentsForShift (shiftId : Uuid) (tables : ReturnTables) : Except PoolError Nat :=
  (sumColumn ((cashRefunds shiftId tables).map fun refund => asI64 refund.amountCents)).map Int.toNat

end Returns
end ApexEdge.Storage
