import ApexEdge.Payment.StripeTerminal
import ApexEdge.Storage.Orders

/-! Delivery state of queued submissions, one row for each destination that is owed one.
Destinations are kept in the order of their codes. -/

namespace ApexEdge.Storage
open Payment Domain Library Payment.StripeTerminal

/-- Where a delivery stands; a submission has the same states as a summary. -/
inductive DeliveryState where
  | pending | delivered | deadLetter
  deriving DecidableEq, Repr

structure OutboxSubmission where
  id : Uuid
  payload : String
  status : DeliveryState
  createdAt : Timestamp
  errorMessage : Option String
  deriving DecidableEq, Repr

structure DestinationRow where
  id : Uuid
  code : String
  kind : String
  endpoint : Option String
  enabled : Bool
  config : Json

/-- One row for a submission and a destination. -/
structure DeliveryAttemptRow where
  outboxId : Uuid
  destinationId : Uuid
  state : DeliveryState
  attempts : Nat
  unreachableAttempts : Nat
  lastError : Option String
  nextAttemptAt : Option Timestamp
  deriving DecidableEq, Repr

/-- A delivery with everything that is needed to attempt it. -/
structure DueDelivery where
  attempt : DeliveryAttemptRow
  submission : OutboxSubmission
  destination : DestinationRow

structure OutboxTables where
  submissions : List OutboxSubmission
  destinations : List DestinationRow
  attempts : List DeliveryAttemptRow

namespace Deliveries

def insertOutbox (id : Uuid) (payload : String) (now : Timestamp) (tables : OutboxTables) :
    Except PoolError OutboxTables :=
  if tables.submissions.any (·.id = id) then .error (.connection "UNIQUE constraint failed: outbox.id")
  else .ok { tables with submissions := tables.submissions ++ [⟨id, payload, .pending, now, none⟩] }

def listEnabledDestinations (tables : OutboxTables) : List DestinationRow := tables.destinations.filter (·.enabled)

/-- The oldest submissions that are not finished. -/
def pendingSubmissions (limit : Nat) (tables : OutboxTables) : List OutboxSubmission :=
  (Table.orderedBy OutboxSubmission.createdAt (tables.submissions.filter (·.status = .pending))).take limit

/-- A destination is owed a submission once. -/
def ensureDelivery (outboxId destinationId : Uuid) (tables : OutboxTables) : OutboxTables :=
  if tables.attempts.any fun row => row.outboxId = outboxId ∧ row.destinationId = destinationId then tables
  else { tables with attempts := tables.attempts ++ [⟨outboxId, destinationId, .pending, 0, 0, none, none⟩] }

def isDue (now : Timestamp) (attempt : DeliveryAttemptRow) : Bool :=
  attempt.state = .pending ∧ attempt.nextAttemptAt.all (· ≤ now)

/-- An attempt with its submission and its destination, which has to be enabled. -/
def join (tables : OutboxTables) (attempt : DeliveryAttemptRow) : Option DueDelivery := do
  let submission ← tables.submissions.find? (·.id = attempt.outboxId)
  let destination ← (listEnabledDestinations tables).find? (·.id = attempt.destinationId)
  return ⟨attempt, submission, destination⟩

/-- Deliveries to attempt now, oldest submission first. -/
def fetchDueDeliveries (limit : Nat) (now : Timestamp) (tables : OutboxTables) : List DueDelivery :=
  (Table.orderedBy (·.submission.createdAt) ((tables.attempts.filter (isDue now)).filterMap (join tables))).take limit

def updateAttempt (attempt : DeliveryAttemptRow) (set : DeliveryAttemptRow → DeliveryAttemptRow)
    (tables : OutboxTables) : OutboxTables :=
  let update : Table.Update DeliveryAttemptRow :=
    { selects := fun row => row.outboxId = attempt.outboxId ∧ row.destinationId = attempt.destinationId, set := set }
  { tables with attempts := update.run tables.attempts }

def markDelivered (attempt : DeliveryAttemptRow) : OutboxTables → OutboxTables :=
  updateAttempt attempt fun row =>
    { row with state := .delivered, attempts := row.attempts + 1, nextAttemptAt := none, lastError := none }

def scheduleRetry (attempt : DeliveryAttemptRow) (next : Timestamp) (error : String) : OutboxTables → OutboxTables :=
  updateAttempt attempt fun row =>
    { row with attempts := row.attempts + 1, nextAttemptAt := some next, lastError := some error }

/-- A try that did not reach the destination leaves the attempts alone. -/
def scheduleUnreachableRetry (attempt : DeliveryAttemptRow) (next : Timestamp) (error : String) :
    OutboxTables → OutboxTables :=
  updateAttempt attempt fun row =>
    { row with unreachableAttempts := row.unreachableAttempts + 1, nextAttemptAt := some next, lastError := some error }

def markDeadLetter (attempt : DeliveryAttemptRow) (reason : String) : OutboxTables → OutboxTables :=
  updateAttempt attempt fun row =>
    { row with state := .deadLetter, attempts := row.attempts + 1, nextAttemptAt := none, lastError := some reason }

def attemptsOf (tables : OutboxTables) (id : Uuid) : List DeliveryAttemptRow := tables.attempts.filter (·.outboxId = id)

/-- A pending submission that somebody was owed, and nobody is owed any more. -/
def isFinished (tables : OutboxTables) (submission : OutboxSubmission) : Bool :=
  submission.status = .pending ∧ attemptsOf tables submission.id ≠ [] ∧
    (attemptsOf tables submission.id).all (·.state ≠ .pending)

/-- Half-delivered is a failure that an operator has to see. -/
def summarized (tables : OutboxTables) (submission : OutboxSubmission) : OutboxSubmission :=
  let dead := ((attemptsOf tables submission.id).filter (·.state = .deadLetter)).length
  if 0 < dead then
    { submission with status := .deadLetter, errorMessage := some (toString dead ++ " destination(s) gave up") }
  else { submission with status := .delivered }

def settleFinishedSubmissions (limit : Nat) (tables : OutboxTables) : OutboxTables :=
  let candidates := ((tables.submissions.filter (isFinished tables)).take limit).map OutboxSubmission.id
  let update : Table.Update OutboxSubmission := { selects := (·.id ∈ candidates), set := summarized tables }
  { tables with submissions := update.run tables.submissions }

/-- What a settle finds: the submissions to settle, each with the number of its dead letters. -/
def finishedSubmissions (limit : Nat) (tables : OutboxTables) : List (Uuid × Nat) :=
  ((tables.submissions.filter (isFinished tables)).take limit).map fun submission =>
    (submission.id, ((attemptsOf tables submission.id).filter (·.state = .deadLetter)).length)

/-- What a settle writes for one of them, whatever its status is by then. -/
def settleSubmission (id : Uuid) (dead : Nat) (tables : OutboxTables) : OutboxTables :=
  let update : Table.Update OutboxSubmission :=
    { selects := (·.id = id)
      set := fun submission =>
        if 0 < dead then
          { submission with status := .deadLetter, errorMessage := some (toString dead ++ " destination(s) gave up") }
        else { submission with status := .delivered } }
  { tables with submissions := update.run tables.submissions }

/-- The first statement of an operator's retry, and whether there was a dead letter. -/
def retryDeadLetter (outboxId destinationId : Uuid) (tables : OutboxTables) : Bool × OutboxTables :=
  let update : Table.Update DeliveryAttemptRow :=
    { selects := fun row => row.outboxId = outboxId ∧ row.destinationId = destinationId ∧ row.state = .deadLetter
      set := fun row => { row with state := .pending, attempts := 0, unreachableAttempts := 0, nextAttemptAt := none } }
  (tables.attempts.any update.selects, { tables with attempts := update.run tables.attempts })

/-- The second statement: the submission is owed again. -/
def requeueSubmission (id : Uuid) (tables : OutboxTables) : OutboxTables :=
  let update : Table.Update OutboxSubmission :=
    { selects := (·.id = id), set := fun submission => { submission with status := .pending, errorMessage := none } }
  { tables with submissions := update.run tables.submissions }

/-- Deliveries that are owed already stay owed. -/
def disableDestination (code : String) (tables : OutboxTables) : OutboxTables :=
  let update : Table.Update DestinationRow :=
    { selects := (·.code = code), set := fun destination => { destination with enabled := false } }
  { tables with destinations := update.run tables.destinations }

structure NewDestination where
  code : String
  kind : String
  endpoint : Option String
  config : Json

/-- A known code is updated and enabled, so that its deliveries keep their destination. -/
def upsertDestination (id : Uuid) (destination : NewDestination) (tables : OutboxTables) : OutboxTables :=
  if tables.destinations.any (·.code = destination.code) then
    let update : Table.Update DestinationRow :=
      { selects := (·.code = destination.code)
        set := fun row =>
          { row with
            kind := destination.kind
            endpoint := destination.endpoint
            config := destination.config
            enabled := true } }
    { tables with destinations := update.run tables.destinations }
  else if tables.destinations.any (·.id = id) then tables
  else
    let row : DestinationRow := ⟨id, destination.code, destination.kind, destination.endpoint, true, destination.config⟩
    let before := tables.destinations.takeWhile (·.code < row.code)
    { tables with destinations := before ++ row :: tables.destinations.dropWhile (·.code < row.code) }

end Deliveries
end ApexEdge.Storage
