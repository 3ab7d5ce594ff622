import ApexEdge.Library.SignedWord
import ApexEdge.Storage.Returns

/-! Lines of returns. A line against a receipt is priced from the order ledger: what all
its units together have cost, less what earlier returns took. A line without a receipt
is taken as it comes. -/

namespace ApexEdge.Storage
open Payment Domain Library

structure NewReturn where
  id : Uuid
  storeId : Uuid
  registerId : Uuid
  shiftId : Option Uuid
  originalOrderId : Option Uuid
  reasonCode : Option String
  approvalId : Option Uuid
  deriving DecidableEq, Repr

def NewReturn.row (new : NewReturn) : ReturnRow :=
  { id := new.id, storeId := new.storeId, registerId := new.registerId, shiftId := new.shiftId
    originalOrderId := new.originalOrderId, reasonCode := new.reasonCode, state := .open, totalCents := 0
    taxCents := 0, refundedCents := 0, approvalId := new.approvalId }

namespace Returns

def insert (new : NewReturn) (tables : ReturnTables) : Except PoolError ReturnTables :=
  if tables.returns.any (·.id = new.id) then .error (.connection "UNIQUE constraint failed: returns.id")
  else .ok { tables with returns := tables.returns ++ [new.row] }

def insertLine (line : ReturnLineRow) (tables : ReturnTables) : Except PoolError ReturnTables :=
  if tables.returnLines.any (·.id = line.id) then .error (.connection "UNIQUE constraint failed: return_lines.id")
  else .ok { tables with returnLines := tables.returnLines ++ [line] }

/-- An amount as it is read back from a signed column. -/
def stored (cents : Nat) : Nat := (asI64 cents).toNat

theorem stored_of_small {cents : Nat} (small : cents < 2 ^ 63) : stored cents = cents := by
  rw [stored, asI64_of_small small, Int.toNat_natCast]

/-- Write the whole header. -/
def updateTotals (id : Uuid) (totalCents taxCents refundedCents : Nat) (state : ReturnState)
    (tables : ReturnTables) : ReturnTables :=
  let update : Table.Update ReturnRow :=
    { selects := (·.id = id)
      set := fun row =>
        { row with
          totalCents := stored totalCents, taxCents := stored taxCents, refundedCents := stored refundedCents
          state := state } }
  { tables with returns := update.run tables.returns }

/-- Whatever the state was. -/
def finalizeRow (id : Uuid) (tables : ReturnTables) : ReturnTables :=
  let update : Table.Update ReturnRow :=
    { selects := (·.id = id), set := fun row => { row with state := .finalized } }
  { tables with returns := update.run tables.returns }

/-- Nothing has been refunded on the return, and no refund of it is under way. -/
def isUnrefunded (tables : ReturnTables) (row : ReturnRow) : Bool :=
  row.refundedCents = 0 ∧ !tables.refundIntents.any (·.returnId = row.id)

def voidRow (id : Uuid) (tables : ReturnTables) : Except PoolError ReturnTables :=
  let update : Table.Update ReturnRow :=
    { selects := fun row => row.id = id ∧ isUnrefunded tables row
      set := fun row => { row with state := .voided } }
  if (tables.returns.filter update.selects).length = 1 then
    .ok { tables with returns := update.run tables.returns }
  else .error (.other "a refunded or refund-pending return cannot be voided")

/-- A voided return gives its units back, unless something was refunded on it. -/
def isActive (tables : ReturnTables) (row : ReturnRow) : Bool := row.state ≠ .voided ∨ !isUnrefunded tables row

def activeReturn (tables : ReturnTables) (id : Uuid) : Bool :=
  tables.returns.any fun row => row.id = id ∧ isActive tables row

/-- The lines of active returns that were taken back of an order line. -/
def activeLines (lineId : Uuid) (tables : ReturnTables) : List ReturnLineRow :=
  tables.returnLines.filter fun line => line.originalLineId = some lineId ∧ activeReturn tables line.returnId

def integerOverflow : PoolError := .connection "integer overflow"

def sumColumn (terms : List Int) : Except PoolError Int :=
  match sumI64 terms with
  | some sum => .ok sum
  | none => .error integerOverflow

/-- What returns have taken of an order line so far. -/
structure Taken where
  quantity : Int
  paidCents : Int
  taxCents : Int
  deriving DecidableEq, Repr

def taken (lineId : Uuid) (tables : ReturnTables) : Except PoolError Taken := do
  let lines := activeLines lineId tables
  let quantity ← sumColumn (lines.map fun line => asI64 line.quantity)
  let paidCents ← sumColumn (lines.map fun line => asI64 line.lineTotalCents)
  let taxCents ← sumColumn (lines.map fun line => asI64 line.taxCents)
  return ⟨quantity, paidCents, taxCents⟩

/-- What a line costs after its own discount, as the ledger's columns have it. -/
def netOf (line : NewOrderLineEntry) : Int := asI64 line.lineTotalCents - asI64 line.discountCents

variable (rank : Uuid → Nat)

/-- The net of the order's lines before this one. Ids are ordered by their text, of which
only the rank is known. -/
def netBefore (order : NewOrderLedgerEntry) (line : NewOrderLineEntry) : List Int :=
  (order.lines.filter fun other => rank other.lineId < rank line.lineId).map netOf

/-- A line's part of what the basket was discounted by. -/
def basketShare (extra before base net : Int) : Int :=
  wrapI64 (proportion extra (wrapI64 (before + base)) net - proportion extra before net)

/-- What has been paid for all units of an order line, before exclusive tax. -/
def paidFor (order : NewOrderLedgerEntry) (line : NewOrderLineEntry) : Except PoolError Int := do
  let net ← sumColumn (order.lines.map netOf)
  let discounts ← sumColumn (order.lines.map fun other => asI64 other.discountCents)
  let before ← sumColumn (netBefore rank order line)
  let base := max (saturateI64 (netOf line)) 0
  let extra := min (max (saturateI64 (asI64 order.discountCents - discounts)) 0) (max net 0)
  return max (saturateI64 (base - basketShare extra before base net)) 0

/-- The return can take lines, and the one order line that is meant. -/
def original (orders : List NewOrderLedgerEntry) (input : ReturnLineRow) (tables : ReturnTables) :
    Except PoolError (NewOrderLedgerEntry × NewOrderLineEntry) :=
  let returns := tables.returns.filter (·.id = input.returnId)
  let candidates := returns.flatMap fun row =>
    (orders.filter fun order => row.originalOrderId = some order.orderId ∧ order.storeId = row.storeId).flatMap
      fun order => (order.lines.filter fun line =>
        input.originalLineId = some line.lineId ∨ input.originalLineId = none ∧ line.sku = input.sku).map (order, ·)
  if (returns.filter fun row => row.state = .open ∨ row.state = .items).length ≠ 1 then
    .error (.other "return cannot accept items")
  else
    match candidates with
    | [(order, line)] =>
      if line.sku = input.sku then .ok (order, line) else .error (.other "SKU does not match original line")
    | _ => .error (.other "original order line is missing or ambiguous")

/-- The units are left, counting what is taken already; how many are taken then. -/
def nextQuantity (line : NewOrderLineEntry) (taken : Taken) (quantity : Nat) : Except PoolError Int :=
  let next := taken.quantity + quantity
  if ¬ FitsI64 next then .error (.other "quantity overflow")
  else if asI64 line.quantity ≤ 0 ∨ taken.quantity < 0 ∨ asI64 line.quantity < next then
    .error (.other "quantity exceeds original purchase less previous returns")
  else .ok next

/-- What `next` units have cost together, less what was given back for them already. -/
def award (line : NewOrderLineEntry) (paid next : Int) (taken : Taken) : Except PoolError (Nat × Nat) :=
  let amount := wrapI64 (proportion paid next (asI64 line.quantity) - taken.paidCents)
  let tax := wrapI64 (proportion (asI64 line.taxCents) next (asI64 line.quantity) - taken.taxCents)
  if amount < 0 ∨ tax < 0 then .error (.other "original return values require reconciliation")
  else .ok (amount.toNat, tax.toNat)

/-- Bring the header up to date with the lines of the return. -/
def refreshHeader (returnId : Uuid) (tables : ReturnTables) : Except PoolError ReturnTables := do
  let lines := lines returnId tables
  let total ← sumColumn (lines.map fun line =>
    asI64 line.lineTotalCents + if line.taxInclusive then 0 else asI64 line.taxCents)
  let tax ← sumColumn (lines.map fun line => asI64 line.taxCents)
  let update : Table.Update ReturnRow :=
    { selects := (·.id = returnId)
      set := fun row => { row with totalCents := total.toNat, taxCents := tax.toNat, state := .items } }
  return { tables with returns := update.run tables.returns }

def receiptedLine (input : ReturnLineRow) (line : NewOrderLineEntry) (amount tax : Nat) : ReturnLineRow :=
  { input with
    originalLineId := some line.lineId, name := line.name, unitPriceCents := amount / input.quantity
    lineTotalCents := amount, taxCents := tax, taxInclusive := line.taxInclusive }

/-- Take units of an order line back, in one transaction. -/
def addReceiptedLine (orders : List NewOrderLedgerEntry) (input : ReturnLineRow) (tables : ReturnTables) :
    Except PoolError ReturnTables :=
  if input.quantity = 0 then .error (.other "quantity must be positive")
  else do
    let (order, line) ← original orders input tables
    let before ← taken line.lineId tables
    let next ← nextQuantity line before input.quantity
    let paid ← paidFor rank order line
    let (amount, tax) ← award line paid next before
    insertLine (receiptedLine input line amount tax) tables >>= refreshHeader input.returnId

end Returns
end ApexEdge.Storage
