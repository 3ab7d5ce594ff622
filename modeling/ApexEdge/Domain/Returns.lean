import ApexEdge.Contracts.Pos
import ApexEdge.Domain.Pricing
import ApexEdge.Storage.ReturnLines

/-! What a return allows in which state, and its totals as lines are added. -/

namespace ApexEdge.Storage
open Domain

def ReturnState.debug (state : ReturnState) : String :=
  match state with
  | .open => "Open"
  | .items => "Items"
  | .tendered => "Tendered"
  | .paid => "Paid"
  | .finalized => "Finalized"
  | .voided => "Voided"

def ReturnState.invalid (state : ReturnState) : String :=
  "return is not in a state that allows this transition: " ++ state.debug

/-- What the customer is owed back for a line, tax included. -/
def ReturnLineRow.grossCents (line : ReturnLineRow) : Nat :=
  if line.taxInclusive then line.lineTotalCents else saturatingAdd line.lineTotalCents line.taxCents

namespace ReturnRow

/-- The header with one more line in its totals. -/
def withLine (row : ReturnRow) (line : ReturnLineRow) : ReturnRow :=
  { row with
    totalCents := saturatingAdd row.totalCents line.grossCents, taxCents := saturatingAdd row.taxCents line.taxCents
    state := .items }

/-- A return is refunded in full, or there is nothing to refund. -/
def canFinalize (row : ReturnRow) : Bool := row.state = .paid ∨ row.state = .items ∧ row.totalCents = 0

end ReturnRow
end ApexEdge.Storage

namespace ApexEdge.Contracts.ReturnSnapshot
open Payment Domain Storage

/-- A blind return has no original sale that would limit the quantity. -/
def addLine (snapshot : ReturnSnapshot) (line : ReturnLineRow) : Except String ReturnSnapshot :=
  if snapshot.row.state = .open ∨ snapshot.row.state = .items then
    .ok { snapshot with row := snapshot.row.withLine line, lines := snapshot.lines ++ [line] }
  else .error snapshot.row.state.invalid

/-- The units of a line of the receipt that have been taken back, as a 32-bit sum. -/
def already (snapshot : ReturnSnapshot) (originalLineId : Option Uuid) : Nat :=
  wrap32 ((snapshot.lines.filter (·.originalLineId = originalLineId)).map ReturnLineRow.quantity).sum

/-- Add a line, of which the receipt may allow only so many units. -/
def addLineWithin (snapshot : ReturnSnapshot) (line : ReturnLineRow) (maxAllowed : Option Nat) :
    Except String ReturnSnapshot :=
  if snapshot.row.state = .open ∨ snapshot.row.state = .items then
    match maxAllowed with
    | none => snapshot.addLine line
    | some max =>
      let requested := wrap32 (snapshot.already line.originalLineId + line.quantity)
      if max < requested then .error s!"line quantity {requested} exceeds returnable quantity {max}"
      else snapshot.addLine line
  else .error snapshot.row.state.invalid

/-- Apply a refund tender, which pays the return when it meets the total. -/
def applyRefund (snapshot : ReturnSnapshot) (refund : RefundRow) : Except String ReturnSnapshot :=
  if snapshot.row.state = .items ∨ snapshot.row.state = .tendered then
    let newRefunded := saturatingAdd snapshot.row.refundedCents refund.amountCents
    if snapshot.row.totalCents < newRefunded then
      .error s!"refund tender {refund.amountCents} cents exceeds return total"
    else
      .ok
        { snapshot with
          row := { snapshot.row with
            refundedCents := newRefunded, state := if snapshot.row.totalCents ≤ newRefunded then .paid else .tendered }
          refunds := snapshot.refunds ++ [refund] }
  else .error snapshot.row.state.invalid

def finalize (snapshot : ReturnSnapshot) : Except String ReturnSnapshot :=
  if snapshot.row.canFinalize then .ok { snapshot with row := { snapshot.row with state := .finalized } }
  else .error snapshot.row.state.invalid

def void (snapshot : ReturnSnapshot) : Except String ReturnSnapshot :=
  if snapshot.row.state = .finalized then .error snapshot.row.state.invalid
  else .ok { snapshot with row := { snapshot.row with state := .voided } }

end ApexEdge.Contracts.ReturnSnapshot
