import ApexEdge.Hub.ReturnCounter

/-! Supervisor approvals. A row is requested, and then granted, denied or expired; two of
the statements that decide look at the state of the row, and the third does not. -/

namespace ApexEdge.Storage
open Payment Domain Library Hub

structure ApprovalRecord where
  id : Uuid
  storeId : Uuid
  registerId : Option Uuid
  action : String
  requestedBy : Option String
  contextJson : String
  state : ApprovalState
  approverId : Option String
  decisionReason : Option String
  createdAt : Timestamp
  decidedAt : Option Timestamp
  expiresAt : Timestamp
  deriving DecidableEq, Repr

structure NewApproval where
  storeId : Uuid
  registerId : Option Uuid
  action : String
  requestedBy : Option String
  contextJson : String
  ttlSeconds : Int
  deriving DecidableEq, Repr

/-- An approval is open for ten seconds at least. -/
def NewApproval.record (new : NewApproval) (id : Uuid) (now : Timestamp) : ApprovalRecord :=
  { id := id, storeId := new.storeId, registerId := new.registerId, action := new.action
    requestedBy := new.requestedBy, contextJson := new.contextJson, state := .pending, approverId := none
    decisionReason := none, createdAt := now, decidedAt := none, expiresAt := now + (max new.ttlSeconds 10).toNat }

namespace Approvals

def insert (id : Uuid) (new : NewApproval) (now : Timestamp) (approvals : List ApprovalRecord) :
    Except PoolError (List ApprovalRecord) :=
  if approvals.any (·.id = id) then .error (.connection "UNIQUE constraint failed: approvals.id")
  else .ok (approvals ++ [new.record id now])

def fetch (id : Uuid) (approvals : List ApprovalRecord) : Option ApprovalRecord := approvals.find? (·.id = id)

/-- Whatever the state was. -/
def expire (id : Uuid) (now : Timestamp) : Table.Update ApprovalRecord :=
  { selects := (·.id = id), set := fun row => { row with state := .expired, decidedAt := some now } }

def decide (state : ApprovalState) (id : Uuid) (approverId reason : Option String) (now : Timestamp) :
    Table.Update ApprovalRecord :=
  { selects := fun row => row.id = id ∧ row.state = .pending
    set := fun row =>
      { row with state := state, approverId := approverId, decisionReason := reason, decidedAt := some now } }

def grant : Uuid → Option String → Option String → Timestamp → Table.Update ApprovalRecord := decide .granted

def deny : Uuid → Option String → Option String → Timestamp → Table.Update ApprovalRecord := decide .denied

def expirePending (now : Timestamp) : Table.Update ApprovalRecord :=
  { selects := fun row => row.state = .pending ∧ row.expiresAt < now
    set := fun row => { row with state := .expired, decidedAt := some now } }

end Approvals

/-- The columns that say what was asked for. No statement sets them. -/
structure ApprovalRecord.SameRequest (row later : ApprovalRecord) : Prop where
  id : later.id = row.id
  storeId : later.storeId = row.storeId
  action : later.action = row.action
  requestedBy : later.requestedBy = row.requestedBy
  expiresAt : later.expiresAt = row.expiresAt

theorem ApprovalRecord.SameRequest.refl (row : ApprovalRecord) : row.SameRequest row := ⟨rfl, rfl, rfl, rfl, rfl⟩

end ApexEdge.Storage
