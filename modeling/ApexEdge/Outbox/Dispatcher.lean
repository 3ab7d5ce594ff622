import ApexEdge.Storage.OutboxDestinations

/-! The dispatcher: every cycle owes the oldest submissions to the destinations that want
them, and attempts the oldest deliveries that are due. Metrics and the signature itself
are left out. Then all that happens to the outbox at once: the cycle statement by statement,
operators who queue dead letters again, and destinations that are registered and turned
off. There is one dispatcher. -/

namespace ApexEdge.Outbox
open Library Payment Domain Storage Payment.StripeTerminal

structure DispatcherPolicy where
  batchSize : Nat
  maxAttempts : Nat
  baseBackoffSeconds : Nat
  deriving DecidableEq, Repr

def DispatcherPolicy.backoffDelaySeconds (policy : DispatcherPolicy) (attempts : Nat) : Nat :=
  policy.baseBackoffSeconds * 2 ^ min attempts 6

def asArray (json : Json) : Option (List Json) :=
  match json with
  | .array items => some items
  | _ => none

/-- Derived from the payload, so that submissions of any age are classified alike. -/
def payloadKind (payload : Json) : String :=
  match (payload.get "event_type").bind Json.asStr with
  | some eventType => if eventType = "stock.movement" then "stock.movement" else "unknown"
  | none =>
    if (payload.get "order").isSome then "order"
    else if (payload.get "ret").isSome then "return"
    else if (payload.get "shift").isSome then "shift"
    else "unknown"

/-- An absent or empty filter means everything. -/
def wants (destination : DestinationRow) (kind : String) : Bool :=
  match (destination.config.get "payload_kinds").bind asArray with
  | some (first :: rest) => ((first :: rest).filterMap Json.asStr).any (· = kind)
  | _ => true

structure HqOrderSubmissionResponse where
  accepted : Bool
  /-- Code and message of each. -/
  errors : List (String × String)
  deriving DecidableEq, Repr

/-- What becomes of a request to a destination. -/
inductive SendResult where
  | answered (status : StatusCode) (text : String) (body : Option HqOrderSubmissionResponse)
  | unreachable (error : String)
  /-- A timeout, or another failure after the connection was made. -/
  | failed (error : String)
  deriving DecidableEq

/-- Only headquarters speaks the submission response; other destinations that answered
have taken it, and so has one whose answer cannot be read. -/
def rejectionReason (destinationKind : String) (body : Option HqOrderSubmissionResponse) : Option String :=
  if destinationKind = "peppol" ∨ destinationKind = "webhook" then none
  else
    match body with
    | none => none
    | some response =>
      if response.accepted then none
      else if response.errors = [] then some "rejected without a reason"
      else some ("; ".intercalate (response.errors.map fun error => error.1 ++ ": " ++ error.2))

inductive SigningSecret where
  | none
  | missing (name : String)
  | present (secret : String)

/-- Destinations name the environment variable that holds their secret. -/
def signingSecret (env : String → Option String) (config : Json) : SigningSecret :=
  match (config.get "signing_secret_env").bind Json.asStr with
  | .none => .none
  | .some name =>
    match env name with
    | .some secret => if secret = "" then .missing name else .present secret
    | .none => .missing name

def hasEndpoint (destination : DestinationRow) : Bool :=
  destination.endpoint.any fun endpoint => endpoint.toList.any (!·.isWhitespace)

inductive DispatcherError where
  | json

/-- The dispatcher's tables, and which deliveries have been accepted: destination and submission. -/
structure OutboxStore where
  tables : OutboxTables
  accepted : List (Uuid × Uuid)

/-- What a cycle meets: the time, the time at each retry, and what is answered. -/
structure Cycle where
  now : Timestamp
  clock : DueDelivery → Timestamp
  answer : DueDelivery → SendResult

section Dispatch
variable (parse : String → Option Json) (env : String → Option String) (policy : DispatcherPolicy)

def kindOf (submission : OutboxSubmission) : String := payloadKind ((parse submission.payload).getD .null)

/-- Owe one submission to every destination that wants it. -/
def owe (destinations : List DestinationRow) (tables : OutboxTables) (submission : OutboxSubmission) : OutboxTables :=
  (destinations.filter (wants · (kindOf parse submission))).foldl
    (fun tables destination => Deliveries.ensureDelivery submission.id destination.id tables) tables

def fanOut (tables : OutboxTables) : OutboxTables :=
  (Deliveries.pendingSubmissions policy.batchSize tables).foldl
    (owe parse (Deliveries.listEnabledDestinations tables)) tables

def OutboxStore.write (store : OutboxStore) (write : OutboxTables → OutboxTables) : OutboxStore :=
  { store with tables := write store.tables }

/-- This attempt has just happened as well. -/
def retryOrGiveUp (cycle : Cycle) (delivery : DueDelivery) (error : String) (store : OutboxStore) : OutboxStore :=
  if policy.maxAttempts ≤ delivery.attempt.attempts + 1 then
    store.write (Deliveries.markDeadLetter delivery.attempt error)
  else
    let next := cycle.clock delivery + policy.backoffDelaySeconds delivery.attempt.attempts
    store.write (Deliveries.scheduleRetry delivery.attempt next error)

/-- What is done with the answer of a destination. -/
def settleAnswer (cycle : Cycle) (delivery : DueDelivery) (store : OutboxStore) : OutboxStore :=
  match cycle.answer delivery with
  | .answered status text body =>
    if status.isSuccess then
      match rejectionReason delivery.destination.kind body with
      | none =>
        { store.write (Deliveries.markDelivered delivery.attempt) with
          accepted := store.accepted ++ [(delivery.destination.id, delivery.submission.id)] }
      | some reason => retryOrGiveUp policy cycle delivery reason store
    else retryOrGiveUp policy cycle delivery (status.toString ++ ": " ++ text) store
  | .unreachable error =>
    let next := cycle.clock delivery + policy.backoffDelaySeconds delivery.attempt.unreachableAttempts
    store.write (Deliveries.scheduleUnreachableRetry delivery.attempt next error)
  | .failed error => retryOrGiveUp policy cycle delivery error store

/-- A payload that does not parse is an error of the whole cycle. -/
def attemptDelivery (cycle : Cycle) (delivery : DueDelivery) (store : OutboxStore) :
    Except DispatcherError OutboxStore :=
  if hasEndpoint delivery.destination then
    match parse delivery.submission.payload with
    | none => .error .json
    | some _ =>
      match signingSecret env delivery.destination.config with
      | .missing name =>
        .ok (retryOrGiveUp policy cycle delivery ("signing secret env var " ++ name ++ " is not set") store)
      | _ => .ok (settleAnswer policy cycle delivery store)
  else .ok (store.write (Deliveries.markDeadLetter delivery.attempt "destination has no endpoint configured"))

/-- Attempt deliveries until one of them fails the cycle; whether all were attempted. -/
def attemptAll (cycle : Cycle) (deliveries : List DueDelivery) (store : OutboxStore) : Bool × OutboxStore :=
  match deliveries with
  | [] => (true, store)
  | delivery :: rest =>
    match attemptDelivery parse env policy cycle delivery store with
    | .error _ => (false, store)
    | .ok after => attemptAll cycle rest after

def runOnce (cycle : Cycle) (store : OutboxStore) : OutboxStore :=
  let owed := store.write (fanOut parse policy)
  let due := Deliveries.fetchDueDeliveries policy.batchSize cycle.now owed.tables
  match attemptAll parse env policy cycle due owed with
  | (true, after) => after.write (Deliveries.settleFinishedSubmissions policy.batchSize)
  | (false, after) => after

/-- Submissions are queued while the dispatcher runs. -/
inductive OutboxEvent where
  | queue (id : Uuid) (payload : String) (now : Timestamp)
  | cycle (cycle : Cycle)

def applyEvent (store : OutboxStore) (event : OutboxEvent) : OutboxStore :=
  match event with
  | .queue id payload now =>
    match Deliveries.insertOutbox id payload now store.tables with
    | .error _ => store
    | .ok tables => { store with tables := tables }
  | .cycle cycle => runOnce parse env policy cycle store

end Dispatch

/-- What came of one try. -/
inductive Outcome where
  | delivered
  /-- The destination was reached and did not take it, or did not answer in time. -/
  | refused
  /-- Nothing was sent, since the secret to sign it with is missing. -/
  | unsigned
  | unreachable
  | noEndpoint
  /-- It was sent, and the hub stopped before it wrote down the answer. -/
  | unrecorded
  deriving DecidableEq, Repr

/-- The history of a delivery, which is kept for the record only. -/
inductive LogEntry where
  | tried (delivery : Uuid × Uuid) (outcome : Outcome)
  | requeued (delivery : Uuid × Uuid)
  deriving DecidableEq, Repr

/-- Where the dispatcher's cycle has come to. -/
inductive CyclePhase where
  /-- Between cycles; how many submissions the last one settled, if it came to its end. -/
  | idle (settled : Option Nat)
  | listed (destinations : List DestinationRow)
  | owing (owed : List (Uuid × Uuid))
  | attempting (rest : List DueDelivery)
  | settling (found : Nat) (rest : List (Uuid × Nat))

structure OutboxRoom where
  store : OutboxStore
  phase : CyclePhase
  /-- Who the last cycle has found to want what. -/
  wanted : List (Uuid × Uuid)
  /-- Submissions whose retry has taken its first statement. -/
  requeues : List Uuid
  log : List LogEntry

inductive OutboxStep where
  | queue (id : Uuid) (payload : String) (now : Timestamp)
  | dispatch (cycle : Cycle)
  /-- The cycle ends in an error of the store or with the hub, perhaps after a request. -/
  | lose (sent : Bool)
  | register (id : Uuid) (destination : Deliveries.NewDestination)
  | disable (code : String)
  | retry (outboxId destinationId : Uuid)
  | requeue (index : Nat)
  | abandon (index : Nat)

def deliveryOf (delivery : DueDelivery) : Uuid × Uuid := (delivery.attempt.outboxId, delivery.attempt.destinationId)

namespace OutboxRoom
variable (parse : String → Option Json) (env : String → Option String) (policy : DispatcherPolicy)

def opened (destinations : List DestinationRow) : OutboxRoom := ⟨⟨⟨[], destinations, []⟩, []⟩, .idle none, [], [], []⟩

def write (room : OutboxRoom) (write : OutboxTables → OutboxTables) : OutboxRoom :=
  { room with store := room.store.write write }

/-- Who is owed what, as the cycle finds it. -/
def owed (destinations : List DestinationRow) (submissions : List OutboxSubmission) : List (Uuid × Uuid) :=
  submissions.flatMap fun submission =>
    (destinations.filter (wants · (kindOf parse submission))).map fun destination => (submission.id, destination.id)

def outcomeOf (cycle : Cycle) (delivery : DueDelivery) : Outcome :=
  if hasEndpoint delivery.destination then
    match signingSecret env delivery.destination.config with
    | .missing _ => .unsigned
    | _ =>
      match cycle.answer delivery with
      | .answered status _ body =>
        if status.isSuccess ∧ rejectionReason delivery.destination.kind body = none then .delivered else .refused
      | .unreachable _ => .unreachable
      | .failed _ => .refused
  else .noEndpoint

/-- The next statement of the dispatcher. -/
def dispatch (cycle : Cycle) (room : OutboxRoom) : OutboxRoom :=
  match room.phase with
  | .idle _ => { room with phase := .listed (Deliveries.listEnabledDestinations room.store.tables) }
  | .listed destinations =>
    let pending := Deliveries.pendingSubmissions policy.batchSize room.store.tables
    { room with phase := .owing (owed parse destinations pending), wanted := owed parse destinations pending }
  | .owing [] =>
    { room with phase := .attempting (Deliveries.fetchDueDeliveries policy.batchSize cycle.now room.store.tables) }
  | .owing ((outboxId, destinationId) :: rest) =>
    { room.write (Deliveries.ensureDelivery outboxId destinationId) with phase := .owing rest }
  | .attempting [] =>
    let found := Deliveries.finishedSubmissions policy.batchSize room.store.tables
    { room with phase := .settling found.length found }
  | .attempting (delivery :: rest) =>
    match attemptDelivery parse env policy cycle delivery room.store with
    | .error _ => { room with phase := .idle none, wanted := [] }
    | .ok store =>
      { room with
        store
        phase := .attempting rest
        log := room.log ++ [.tried (deliveryOf delivery) (outcomeOf env cycle delivery)] }
  | .settling found [] => { room with phase := .idle (some found) }
  | .settling found ((id, dead) :: rest) =>
    { room.write (Deliveries.settleSubmission id dead) with phase := .settling found rest }

def lose (sent : Bool) (room : OutboxRoom) : OutboxRoom :=
  let log :=
    match room.phase with
    | .attempting (delivery :: _) =>
      if sent ∧ hasEndpoint delivery.destination then [LogEntry.tried (deliveryOf delivery) .unrecorded] else []
    | _ => []
  { room with phase := .idle none, wanted := [], log := room.log ++ log }

def retry (outboxId destinationId : Uuid) (room : OutboxRoom) : OutboxRoom :=
  let (requeued, tables) := Deliveries.retryDeadLetter outboxId destinationId room.store.tables
  if requeued then
    { room with
      store := { room.store with tables }
      requeues := room.requeues ++ [outboxId]
      log := room.log ++ [.requeued (outboxId, destinationId)] }
  else room

def apply (room : OutboxRoom) : OutboxStep → OutboxRoom
  | .queue id payload now =>
    match Deliveries.insertOutbox id payload now room.store.tables with
    | .error _ => room
    | .ok tables => { room with store := { room.store with tables } }
  | .dispatch cycle => dispatch parse env policy cycle room
  | .lose sent => lose sent room
  | .register id destination => room.write (Deliveries.upsertDestination id destination)
  | .disable code => room.write (Deliveries.disableDestination code)
  | .retry outboxId destinationId => retry outboxId destinationId room
  | .requeue index =>
    match room.requeues[index]? with
    | none => room
    | some id => { room.write (Deliveries.requeueSubmission id) with requeues := room.requeues.eraseIdx index }
  | .abandon index => { room with requeues := room.requeues.eraseIdx index }

end OutboxRoom

end ApexEdge.Outbox
