import ApexEdge.Storage.ReturnLines

/-! The queue of transactions that are to be signed later, and the fiscal columns of the
orders and returns that they belong to. -/

namespace ApexEdge.Storage
open Payment Domain Library

inductive FiscalQueueStatus where
  | pending | signed | deadLetter
  deriving DecidableEq, Repr

inductive FiscalSubjectKind where
  | order | returned
  deriving DecidableEq, Repr

/-- The order or the return that an entry is about. -/
structure FiscalSubject where
  kind : FiscalSubjectKind
  id : Uuid
  deriving DecidableEq, Repr

structure NewFiscalQueueEntry where
  subject : FiscalSubject
  provider : String
  payloadJson : String
  deriving DecidableEq, Repr

structure FiscalQueueRow where
  id : Uuid
  subject : FiscalSubject
  provider : String
  payloadJson : String
  status : FiscalQueueStatus
  attempts : Nat
  nextAttemptAt : Timestamp
  lastError : Option String
  deriving DecidableEq, Repr

structure FiscalReceiptUpdate where
  provider : String
  fiscalId : Option String
  signature : Option String
  qrPayload : Option String
  signedAt : Option Timestamp
  pending : Bool
  deriving DecidableEq, Repr

def FiscalReceiptUpdate.fields (update : FiscalReceiptUpdate) : FiscalPersistFields :=
  { provider := some update.provider, fiscalId := update.fiscalId, signature := update.signature
    qrPayload := update.qrPayload, signedAt := update.signedAt, pending := update.pending }

/-- The columns of a return that has not been signed. -/
def FiscalPersistFields.blank : FiscalPersistFields := ⟨none, none, none, none, none, false⟩

/-- The header of a return, with its fiscal columns. -/
structure FiscalReturn where
  row : ReturnRow
  fiscal : FiscalPersistFields
  deriving DecidableEq, Repr

structure FiscalTables where
  queue : List FiscalQueueRow
  orders : List NewOrderLedgerEntry
  returns : List FiscalReturn
  deriving DecidableEq, Repr

namespace FiscalQueue

def fetchForSubject (subject : FiscalSubject) (tables : FiscalTables) : Option FiscalQueueRow :=
  tables.queue.find? (·.subject = subject)

/-- There is one entry for a subject. -/
def insert (id : Uuid) (now : Timestamp) (entry : NewFiscalQueueEntry) (tables : FiscalTables) :
    Except PoolError FiscalTables :=
  if tables.queue.any (·.id = id) then .error (.connection "UNIQUE constraint failed: fiscal_signing_queue.id")
  else if tables.queue.any (·.subject = entry.subject) then
    .error (.connection
      "UNIQUE constraint failed: fiscal_signing_queue.subject_kind, fiscal_signing_queue.subject_id")
  else
    .ok { tables with queue := tables.queue ++
      [{ id := id, subject := entry.subject, provider := entry.provider, payloadJson := entry.payloadJson
         status := .pending, attempts := 0, nextAttemptAt := now, lastError := none }] }

def fetchDue (limit : Nat) (now : Timestamp) (tables : FiscalTables) : List FiscalQueueRow :=
  (Table.orderedBy FiscalQueueRow.nextAttemptAt
    (tables.queue.filter fun row => row.status = .pending ∧ row.nextAttemptAt ≤ now)).take limit

/-- A statement on one entry, whatever its status is. -/
def updateEntry (id : Uuid) (set : FiscalQueueRow → FiscalQueueRow) (tables : FiscalTables) : FiscalTables :=
  { tables with queue := (Table.Update.mk (·.id = id) set).run tables.queue }

def scheduleRetry (id : Uuid) (delaySeconds : Nat) (lastError : String) (now : Timestamp) : FiscalTables → FiscalTables :=
  updateEntry id fun row =>
    { row with
      status := .pending, attempts := row.attempts + 1, nextAttemptAt := now + max delaySeconds 1
      lastError := some lastError }

def markSigned (id : Uuid) : FiscalTables → FiscalTables :=
  updateEntry id fun row => { row with status := .signed, lastError := none }

def markDeadLetter (id : Uuid) (lastError : String) : FiscalTables → FiscalTables :=
  updateEntry id fun row =>
    { row with status := .deadLetter, attempts := row.attempts + 1, lastError := some lastError }

def applyOrderReceipt (orderId : Uuid) (update : FiscalReceiptUpdate) (tables : FiscalTables) : FiscalTables :=
  { tables with orders :=
      (Table.Update.mk (·.orderId = orderId) fun order => { order with fiscal := update.fields }).run tables.orders }

def applyReturnReceipt (returnId : Uuid) (update : FiscalReceiptUpdate) (tables : FiscalTables) : FiscalTables :=
  { tables with returns :=
      (Table.Update.mk (·.row.id = returnId) fun row => { row with fiscal := update.fields }).run tables.returns }

def applyReceipt (subject : FiscalSubject) (update : FiscalReceiptUpdate) : FiscalTables → FiscalTables :=
  match subject.kind with
  | .order => applyOrderReceipt subject.id update
  | .returned => applyReturnReceipt subject.id update

def writeOrder (entry : NewOrderLedgerEntry) (tables : FiscalTables) : Except PoolError FiscalTables :=
  (Orders.write entry tables.orders).map fun orders => { tables with orders := orders }

def insertReturn (new : NewReturn) (tables : FiscalTables) : Except PoolError FiscalTables :=
  if tables.returns.any (·.row.id = new.id) then .error (.connection "UNIQUE constraint failed: returns.id")
  else .ok { tables with returns := tables.returns ++ [⟨new.row, .blank⟩] }

/-- The statements on returns that leave the fiscal columns alone. -/
def updateReturn (id : Uuid) (state : ReturnState) (totalCents taxCents refundedCents : Nat)
    (tables : FiscalTables) : FiscalTables :=
  { tables with returns :=
      (Table.Update.mk (·.row.id = id) fun row =>
        { row with row := { row.row with
            state := state, totalCents := totalCents, taxCents := taxCents
            refundedCents := refundedCents } }).run tables.returns }

def finalizeReturnRow (id : Uuid) (tables : FiscalTables) : FiscalTables :=
  { tables with returns :=
      (Table.Update.mk (·.row.id = id) fun row =>
        { row with row := { row.row with state := .finalized } }).run tables.returns }

/-- The fiscal columns that are stored under a subject, if it is there. -/
def fiscalOf (tables : FiscalTables) (subject : FiscalSubject) : Option FiscalPersistFields :=
  match subject.kind with
  | .order => (tables.orders.find? (·.orderId = subject.id)).map (·.fiscal)
  | .returned => (tables.returns.find? (·.row.id = subject.id)).map (·.fiscal)

section Columns
variable {tables after : FiscalTables}

theorem fiscalOf_order (id : Uuid) (tables : FiscalTables) :
    fiscalOf tables ⟨.order, id⟩ = (tables.orders.find? (·.orderId = id)).map (·.fiscal) := rfl

theorem fiscalOf_returned (id : Uuid) (tables : FiscalTables) :
    fiscalOf tables ⟨.returned, id⟩ = (tables.returns.find? (·.row.id = id)).map (·.fiscal) := rfl

/-- A statement on the header of a return leaves the fiscal columns alone. -/
theorem fiscalOf_header (id : Uuid) (set : ReturnRow → ReturnRow) (unset : ∀ row, (set row).id = row.id)
    (tables : FiscalTables) :
    fiscalOf { tables with returns :=
      (Table.Update.mk (·.row.id = id) fun row => { row with row := set row.row }).run tables.returns } =
        fiscalOf tables := by
  funext subject
  obtain ⟨kind, wanted⟩ := subject
  cases kind with
  | order => rfl
  | returned =>
    rw [fiscalOf_returned, fiscalOf_returned,
      Table.find?_where (fun row : FiscalReturn => row.row.id) _ id wanted fun row own => (unset row.row).trans own]
    split
    · rename_i same
      rw [same, Option.map_map]
      rfl
    · rfl

theorem fiscalOf_updateReturn (id : Uuid) (state : ReturnState) (totalCents taxCents refundedCents : Nat) :
    fiscalOf (updateReturn id state totalCents taxCents refundedCents tables) = fiscalOf tables :=
  fiscalOf_header id
    (fun row => { row with
      state := state, totalCents := totalCents, taxCents := taxCents, refundedCents := refundedCents })
    (fun _ => rfl) tables

theorem fiscalOf_finalizeReturnRow (id : Uuid) : fiscalOf (finalizeReturnRow id tables) = fiscalOf tables :=
  fiscalOf_header id (fun row => { row with state := .finalized }) (fun _ => rfl) tables

/-- A receipt goes to its subject, where that is there. -/
theorem fiscalOf_applyReceipt (subject : FiscalSubject) (update : FiscalReceiptUpdate) :
    fiscalOf (applyReceipt subject update tables) =
      Function.update (fiscalOf tables) subject ((fiscalOf tables subject).map fun _ => update.fields) := by
  obtain ⟨kind, id⟩ := subject
  funext other
  obtain ⟨otherKind, wanted⟩ := other
  rw [Function.update_apply]
  cases kind <;> cases otherKind
  case order.returned => rfl
  case returned.order => rfl
  case order.order =>
    show (((Table.Update.mk (·.orderId = id) _).run tables.orders).find? (·.orderId = wanted)).map (·.fiscal) = _
    rw [Table.find?_where NewOrderLedgerEntry.orderId (fun order => { order with fiscal := update.fields }) id
      wanted fun _ own => own, fiscalOf_order, fiscalOf_order]
    by_cases same : wanted = id <;> simp [same, Function.comp_def]
  case returned.returned =>
    show (((Table.Update.mk (·.row.id = id) _).run tables.returns).find? (·.row.id = wanted)).map (·.fiscal) = _
    rw [Table.find?_where (fun row : FiscalReturn => row.row.id) (fun row => { row with fiscal := update.fields })
      id wanted fun _ own => own, fiscalOf_returned, fiscalOf_returned]
    by_cases same : wanted = id <;> simp [same, Function.comp_def]

theorem fiscalOf_writeOrder {entry : NewOrderLedgerEntry} (written : writeOrder entry tables = .ok after) :
    fiscalOf after = Function.update (fiscalOf tables) ⟨.order, entry.orderId⟩ (some entry.fiscal) ∧
      after.queue = tables.queue := by
  unfold writeOrder Orders.write at written
  split at written
  · cases written
  · obtain rfl := Except.ok.inj written
    refine ⟨funext fun subject => ?_, rfl⟩
    obtain ⟨kind, wanted⟩ := subject
    rw [Function.update_apply]
    cases kind with
    | returned => rfl
    | order =>
      rw [fiscalOf_order, fiscalOf_order]
      dsimp only
      rw [Table.find?_upsert NewOrderLedgerEntry.orderId (Orders.overwrite · entry) entry fun _ _ => rfl]
      by_cases same : wanted = entry.orderId
      · rw [if_pos same, if_pos (by rw [same])]
        cases tables.orders.find? (·.orderId = entry.orderId) with
        | none => rfl
        | some old => rfl
      · rw [if_neg same, if_neg (by simpa using same)]

theorem fiscalOf_insertReturn {new : NewReturn} (inserted : insertReturn new tables = .ok after) :
    fiscalOf after = Function.update (fiscalOf tables) ⟨.returned, new.id⟩ (some .blank) ∧
      fiscalOf tables ⟨.returned, new.id⟩ = none ∧ after.queue = tables.queue := by
  unfold insertReturn at inserted
  split at inserted
  · cases inserted
  · rename_i absent
    obtain rfl := Except.ok.inj inserted
    have none : tables.returns.find? (·.row.id = new.id) = none := by simpa using absent
    refine ⟨funext fun subject => ?_, by rw [fiscalOf_returned, none]; rfl, rfl⟩
    obtain ⟨kind, wanted⟩ := subject
    rw [Function.update_apply]
    cases kind with
    | order => rfl
    | returned =>
      rw [fiscalOf_returned, fiscalOf_returned]
      dsimp only
      rw [List.find?_append]
      by_cases same : wanted = new.id
      · rw [if_pos (by rw [same]), same, none]
        simp [NewReturn.row]
      · have other : new.row.id ≠ wanted := fun clash => same clash.symm
        rw [if_neg (by simpa using same)]
        simp [other]

end Columns
end FiscalQueue
end ApexEdge.Storage
