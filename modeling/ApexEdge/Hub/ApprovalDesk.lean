import ApexEdge.Hub.ShiftDesk
import ApexEdge.Library.Memory
import ApexEdge.Storage.Approvals

/-! Approvals are requested and decided while the commands of the desk go on, some of which
look one up. Broadcasts are left out, and so is the clock of a metric. Who may approve is
answered by tables that are left out as well. -/

namespace ApexEdge.Hub
open Library Payment Domain Storage Contracts

structure AuthPrincipal where
  sessionId : Uuid
  associateId : String
  deviceId : Uuid
  storeId : Uuid
  registerId : Option Uuid
  deriving DecidableEq, Repr

structure RequestApprovalPayload where
  storeId : Uuid
  registerId : Option Uuid
  action : String
  context : String
  requestedBy : Option String
  ttlSeconds : Option Int
  deriving DecidableEq, Repr

/-- GrantApprovalPayload and DenyApprovalPayload. -/
structure DecideApprovalPayload where
  approvalId : Uuid
  approverId : Option String
  reason : Option String
  deriving DecidableEq, Repr

structure ApprovalResponse where
  approvalId : Uuid
  action : String
  state : ApprovalState
  requestedBy : Option String
  approverId : Option String
  decisionReason : Option String
  createdAt : Timestamp
  decidedAt : Option Timestamp
  expiresAt : Timestamp
  deriving DecidableEq, Repr

inductive ApprovalRefusal where
  | badRequest | unauthorized | forbidden | notFound | internalServerError
  deriving DecidableEq, Repr

namespace ApprovalDesk

inductive ApprovalCall where
  | clock
  | newId
  | insertApproval (id : Uuid) (new : NewApproval) (now : Timestamp)
  | fetchApproval (id : Uuid)
  | expireApproval (id : Uuid) (now : Timestamp)
  | grantPending (id : Uuid) (approverId reason : Option String) (now : Timestamp)
  | denyPending (id : Uuid) (approverId reason : Option String) (now : Timestamp)
  | expirePending (now : Timestamp)
  /-- Whether the principal's token or roles let it decide. -/
  | permitted (principal : AuthPrincipal)
  deriving DecidableEq

@[reducible] def ApprovalCall.Reply : ApprovalCall → Type
  | .clock => Timestamp
  | .newId => Uuid
  | .fetchApproval _ => Except PoolError (Option ApprovalRecord)
  | .permitted _ => Except PoolError Bool
  | _ => Except PoolError Unit

/-- A statement of a command of the desk, or of a handler of approvals. -/
inductive DeskCall where
  | command (request : ShiftRequest)
  | approval (call : ApprovalCall)
  deriving DecidableEq

@[reducible] def DeskCall.Reply : DeskCall → Type
  | .command request => request.Reply
  | .approval call => call.Reply

abbrev ApprovalAction (ε α : Type) := Fallible DeskCall DeskCall.Reply ε α

def ask {ε : Type} (call : ApprovalCall) : ApprovalAction ε call.Reply := Fallible.ask (DeskCall.approval call)

/-! ### Storage -/

def fetchApproval (id : Uuid) : ApprovalAction PoolError (Option ApprovalRecord) :=
  (ask (.fetchApproval id)).orThrow fun error => error

def requestApproval (new : NewApproval) : ApprovalAction PoolError ApprovalRecord := do
  let id ← ask .newId
  let now ← ask .clock
  (ask (.insertApproval id new now)).orThrow fun error => error
  match ← fetchApproval id with
  | some record => return record
  | none => throw (.other "inserted approval not found")

/-- The time is taken first. -/
def grantApproval (id : Uuid) (approverId reason : Option String) : ApprovalAction PoolError ApprovalRecord := do
  let now ← ask .clock
  match ← fetchApproval id with
  | none => throw (.other "approval not found")
  | some existing =>
    if existing.state ≠ .pending then return existing
    else if existing.expiresAt < now then do
      (ask (.expireApproval id now)).orThrow fun error => error
      return (← fetchApproval id).getD existing
    else do
      (ask (.grantPending id approverId reason now)).orThrow fun error => error
      return (← fetchApproval id).getD existing

def denyApproval (id : Uuid) (approverId reason : Option String) : ApprovalAction PoolError ApprovalRecord := do
  let now ← ask .clock
  (ask (.denyPending id approverId reason now)).orThrow fun error => error
  match ← fetchApproval id with
  | some record => return record
  | none => throw (.other "approval not found")

def expirePendingApprovals : ApprovalAction PoolError Unit := do
  let now ← ask .clock
  (ask (.expirePending now)).orThrow fun error => error

/-! ### Handlers -/

def toResponse (record : ApprovalRecord) : ApprovalResponse :=
  { approvalId := record.id, action := record.action, state := record.state, requestedBy := record.requestedBy
    approverId := record.approverId, decisionReason := record.decisionReason, createdAt := record.createdAt
    decidedAt := record.decidedAt, expiresAt := record.expiresAt }

section Handlers
variable (app : AppState) (principal : Option AuthPrincipal)

def defaultTtlSeconds : Int := 300

def createApproval (payload : RequestApprovalPayload) : ApprovalAction ApprovalRefusal ApprovalResponse :=
  match principal with
  | none => throw .unauthorized
  | some actor =>
    if actor.storeId ≠ app.storeId ∨ payload.storeId ≠ app.storeId ∨
        actor.registerId.any fun id => payload.registerId ≠ some id then throw .forbidden
    else do
      let new : NewApproval := ⟨payload.storeId, payload.registerId, payload.action, some actor.associateId,
        payload.context, payload.ttlSeconds.getD defaultTtlSeconds⟩
      let record ← (requestApproval new).mapError fun _ => ApprovalRefusal.internalServerError
      return toResponse record

def loadApproval (id : Uuid) : ApprovalAction ApprovalRefusal ApprovalRecord := do
  match ← ask (.fetchApproval id) with
  | .ok (some record) => return record
  | .ok none => throw .notFound
  | .error _ => throw .internalServerError

def decisionActor (approval : ApprovalRecord) : ApprovalAction ApprovalRefusal String :=
  match principal with
  | none => throw .unauthorized
  | some principal =>
    if principal.storeId ≠ app.storeId ∨ approval.storeId ≠ app.storeId then throw .forbidden
    else do
      match ← ask (.permitted principal) with
      | .error _ => throw .internalServerError
      | .ok permitted =>
        if permitted = false ∨ approval.requestedBy = some principal.associateId then throw .forbidden
        else return principal.associateId

/-- The approver is whoever is signed in, whatever the payload says. -/
def decisionHandler (transition : Uuid → Option String → Option String → ApprovalAction PoolError ApprovalRecord)
    (id : Uuid) (payload : DecideApprovalPayload) : ApprovalAction ApprovalRefusal ApprovalResponse := do
  let existing ← loadApproval id
  if payload.approvalId ≠ id then throw .badRequest
  else do
    let actor ← decisionActor app principal existing
    let record ← (transition id (some actor) payload.reason).mapError fun _ => ApprovalRefusal.internalServerError
    return toResponse record

def grantApprovalHandler : Uuid → DecideApprovalPayload → ApprovalAction ApprovalRefusal ApprovalResponse :=
  decisionHandler app principal grantApproval

def denyApprovalHandler : Uuid → DecideApprovalPayload → ApprovalAction ApprovalRefusal ApprovalResponse :=
  decisionHandler app principal denyApproval

def getApprovalHandler (id : Uuid) : ApprovalAction ApprovalRefusal ApprovalResponse := do
  return toResponse (← loadApproval id)

end Handlers

/-! ### Supervised commands -/

/-- What a command may do with an approval only. -/
inductive SupervisedAction where
  | blindReturn | paidIn | paidOut | closeTill
  deriving DecidableEq, Repr

def movementAction (kind : CashMovementKind) : Option SupervisedAction :=
  match kind with
  | .paidIn => some .paidIn
  | .paidOut => some .paidOut
  | .noSale => none

/-- The action that a statement carries out, if it is a supervised one. -/
def supervised (request : ShiftRequest) : Option SupervisedAction :=
  match request with
  | .counter ⟨_, _, _, .insertReturn new⟩ => if new.originalOrderId.isNone then some .blindReturn else none
  | .till _ _ (.insertShiftMovement new) =>
    if new.amountCents ≤ cashMovementApprovalThresholdCents then none else movementAction new.kind
  | .till _ _ (.closeShiftWithOutbox _ written _ _) =>
    if written.varianceCents.natAbs ≤ cashMovementApprovalThresholdCents then none else some .closeTill
  | _ => none

/-- The supervised action that a command is there for. -/
def supervisedBy (task : DeskTask) : Option SupervisedAction :=
  match task with
  | .pos .. => none
  | .returns task =>
    match task.command with
    | .startReturn _ => some .blindReturn
    | _ => none
  | .till task =>
    match task.command with
    | .paidIn _ => some .paidIn
    | .paidOut _ => some .paidOut
    | .closeTill _ => some .closeTill
    | _ => none

def storeOf (task : DeskTask) : Uuid :=
  match task with
  | .pos _ envelope => envelope.storeId
  | .returns task => task.header.storeId
  | .till task => task.header.storeId

def stored {α : Type} (reply : Except PoolError α) : Bool :=
  match reply with
  | .ok _ => true
  | .error _ => false

/-- The supervised action that has been carried out. -/
def carriedOut (request : ShiftRequest) (reply : request.Reply) : Option SupervisedAction :=
  match request, reply with
  | .counter ⟨frame, adding, restocks, .insertReturn new⟩, reply =>
    if stored reply then supervised (.counter ⟨frame, adding, restocks, .insertReturn new⟩) else none
  | .till key closing (.insertShiftMovement new), reply =>
    if stored reply then supervised (.till key closing (.insertShiftMovement new)) else none
  | .till key closing (.closeShiftWithOutbox id written outboxId payload), reply =>
    if stored reply then supervised (.till key closing (.closeShiftWithOutbox id written outboxId payload)) else none
  | _, _ => none

/-- The approval that a command looks up. -/
def sought (request : ShiftRequest) : Option Uuid :=
  match request with
  | .counter ⟨_, _, _, .fetchApproval id⟩ => some id
  | _ => none

def isGranted (reply : Except PoolError (Option ApprovalState)) : Bool :=
  match reply with
  | .ok (some .granted) => true
  | _ => false

/-- The approval that a command has been shown as granted. -/
def shown (request : ShiftRequest) (reply : request.Reply) : Option Uuid :=
  match request, reply with
  | .counter ⟨_, _, _, .fetchApproval id⟩, reply => if isGranted reply then some id else none
  | _, _ => none

/-- What a program has learnt. No program reads it. -/
structure Memory where
  /-- The command, where it executes one. -/
  command : Option DeskTask
  /-- The approval that it was shown as granted, until an action has been carried out. -/
  granted : Option Uuid
  /-- The approvals that it has read, under the ids that it read them by. -/
  reads : List (Uuid × ApprovalRecord)

def learn (memory : Memory) (call : DeskCall) (reply : call.Reply) : Memory :=
  match call, reply with
  | .command request, reply =>
    match shown request reply with
    | some id => { memory with granted := some id }
    | none => if (carriedOut request reply).isSome then { memory with granted := none } else memory
  | .approval (.fetchApproval id), .ok (some record) => { memory with reads := memory.reads ++ [(id, record)] }
  | _, _ => memory

abbrev ApprovalDeskRequest := Memory × DeskCall

@[reducible] def ApprovalDeskRequest.Reply (request : ApprovalDeskRequest) : Type := request.2.Reply

/-- What the desk is asked for. -/
inductive ApprovalTask where
  | command (task : DeskTask)
  | create (principal : Option AuthPrincipal) (payload : RequestApprovalPayload)
  | grant (principal : Option AuthPrincipal) (id : Uuid) (payload : DecideApprovalPayload)
  | deny (principal : Option AuthPrincipal) (id : Uuid) (payload : DecideApprovalPayload)
  | poll (id : Uuid)
  | expire

inductive ApprovalOutcome where
  | command (answer : DeskAnswer)
  | approval (answer : Except ApprovalRefusal ApprovalResponse)
  | swept (answer : Except PoolError Unit)

def ApprovalTask.handler (app : AppState) (task : ApprovalTask) : Program DeskCall DeskCall.Reply ApprovalOutcome :=
  match task with
  | .command task => do
    return .command (← (task.program app).embed DeskCall.command fun _ reply => reply)
  | .create principal payload => Program.bind (createApproval app principal payload) fun answer => .pure (.approval answer)
  | .grant principal id payload =>
    Program.bind (grantApprovalHandler app principal id payload) fun answer => .pure (.approval answer)
  | .deny principal id payload =>
    Program.bind (denyApprovalHandler app principal id payload) fun answer => .pure (.approval answer)
  | .poll id => Program.bind (getApprovalHandler id) fun answer => .pure (.approval answer)
  | .expire => Program.bind expirePendingApprovals fun answer => .pure (.swept answer)

def ApprovalTask.memory (task : ApprovalTask) : Memory :=
  match task with
  | .command task => ⟨some task, none, []⟩
  | _ => ⟨none, none, []⟩

def ApprovalTask.program (app : AppState) (task : ApprovalTask) : Program ApprovalDeskRequest ApprovalDeskRequest.Reply ApprovalOutcome :=
  (task.handler app).remembering learn task.memory

/-! ### The desk -/

/-- A supervised action that was carried out. -/
structure Use where
  command : Option DeskTask
  action : SupervisedAction
  approval : Option Uuid

/-- What was carried out, what was ever granted, and when the last statement ran, is kept
for the record only. -/
structure ApprovalWorld (Remote : Type) where
  desk : ShiftWorld Remote
  approvals : List ApprovalRecord
  uses : List Use
  granted : List Uuid
  clock : Timestamp

structure ApprovalChoice (Answer : Type) where
  desk : CounterChoice Answer
  permitted : Except PoolError Bool

section Perform
variable {Remote Answer : Type}

def approvalState (choice : CounterChoice Answer) (approvals : List ApprovalRecord) (id : Uuid) :
    Except PoolError (Option ApprovalState) :=
  match choice.hub.storageFailure with
  | some error => .error error
  | none => .ok ((Approvals.fetch id approvals).map ApprovalRecord.state)

/-- A command's look-up is answered from the approvals. -/
def consulting (choice : CounterChoice Answer) (approvals : List ApprovalRecord) (request : ShiftRequest) :
    CounterChoice Answer :=
  match sought request with
  | none => choice
  | some id => { choice with approval := approvalState choice approvals id }

def performCommand (rank : Uuid → Nat) (providers : Providers Remote Answer) (choice : ApprovalChoice Answer)
    (world : ApprovalWorld Remote) (memory : Memory) (request : ShiftRequest) :
    request.Reply × ApprovalWorld Remote :=
  let answered := performAtShiftDesk rank providers (consulting choice.desk world.approvals request) world.desk request
  let used := (carriedOut request answered.1).toList.map fun action => Use.mk memory.command action memory.granted
  (answered.1, { world with desk := answered.2, uses := world.uses ++ used })

def writeApprovals (choice : ApprovalChoice Answer) (world : ApprovalWorld Remote)
    (write : List ApprovalRecord → Except PoolError (List ApprovalRecord)) :
    Except PoolError Unit × ApprovalWorld Remote :=
  match choice.desk.hub.storageFailure with
  | some error => (.error error, world)
  | none =>
    match write world.approvals with
    | .error error => (.error error, world)
    | .ok approvals => (.ok (), { world with approvals := approvals })

/-- The ids that an UPDATE of approvals is about to grant. -/
def granting (choice : ApprovalChoice Answer) (approvals : List ApprovalRecord) (id : Uuid) : List Uuid :=
  match choice.desk.hub.storageFailure with
  | some _ => []
  | none => (approvals.filter fun row => row.id = id ∧ row.state = .pending).map ApprovalRecord.id

def performApproval (choice : ApprovalChoice Answer) (world : ApprovalWorld Remote) (call : ApprovalCall) :
    call.Reply × ApprovalWorld Remote :=
  match call with
  | .clock => (choice.desk.hub.now, world)
  | .newId => (.random choice.desk.hub.freshId, world)
  | .insertApproval id new now => writeApprovals choice world (Approvals.insert id new now)
  | .fetchApproval id =>
    match choice.desk.hub.storageFailure with
    | some error => (.error error, world)
    | none => (.ok (Approvals.fetch id world.approvals), world)
  | .expireApproval id now => writeApprovals choice world fun rows => .ok ((Approvals.expire id now).run rows)
  | .grantPending id approverId reason now =>
    writeApprovals choice { world with granted := world.granted ++ granting choice world.approvals id }
      fun rows => .ok ((Approvals.grant id approverId reason now).run rows)
  | .denyPending id approverId reason now =>
    writeApprovals choice world fun rows => .ok ((Approvals.deny id approverId reason now).run rows)
  | .expirePending now => writeApprovals choice world fun rows => .ok ((Approvals.expirePending now).run rows)
  | .permitted _ => (choice.permitted, world)

def performDesk (rank : Uuid → Nat) (providers : Providers Remote Answer) (choice : ApprovalChoice Answer)
    (world : ApprovalWorld Remote) (request : ApprovalDeskRequest) : request.Reply × ApprovalWorld Remote :=
  let timed := { world with clock := choice.desk.hub.now }
  match request with
  | (memory, .command request) => performCommand rank providers choice timed memory request
  | (_, .approval call) => performApproval choice timed call

def commands (requests : List ApprovalDeskRequest) : List ShiftRequest :=
  requests.filterMap fun
    | (_, .command request) => some request
    | (_, .approval _) => none

/-- One executor per idempotency key. -/
def claims (others : List ApprovalDeskRequest) (task : ApprovalTask) : Bool :=
  match task with
  | .command task => shiftClaims (commands others) task
  | _ => true

def desk (app : AppState) (rank : Uuid → Nat) (providers : Providers Remote Answer) :
    Machine ApprovalDeskRequest ApprovalDeskRequest.Reply ApprovalOutcome (ApprovalWorld Remote) (ApprovalChoice Answer) ApprovalTask :=
  { perform := performDesk rank providers, program := ApprovalTask.program app, admits := claims }

end Perform
end ApprovalDesk
end ApexEdge.Hub
