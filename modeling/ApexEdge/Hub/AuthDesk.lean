import ApexEdge.Hub.ApprovalDesk
import ApexEdge.Storage.Auth

/-! Devices are paired with a code, and associates sign in on them, refresh their sessions and
sign out. The identities that a sign-in caches, audit records and metrics are left out; hashing
and signing are parameters. -/

namespace ApexEdge.Hub
open Library Payment Domain Storage Contracts

structure AuthSettings where
  enabled : Bool
  accessTtlSeconds : Nat
  refreshTtlSeconds : Nat
  pairingCodeTtlSeconds : Nat
  pairingMaxAttempts : Int
  deriving DecidableEq, Repr

/-- The claims of a session's token. A session id that is no UUID is refused as a token that
does not verify is. -/
structure SessionClaims where
  sub : String
  sid : Uuid
  did : Uuid
  storeId : Uuid
  typ : String
  exp : Timestamp
  iat : Timestamp
  deriving DecidableEq, Repr

structure ExternalClaims where
  sub : String
  storeId : Uuid
  name : Option String
  email : Option String
  deriving DecidableEq, Repr

/-- What authentication knows of the hub. Its own tokens verify by their signature alone; when
they expire is looked at afterwards. -/
structure AuthApp where
  storeId : Uuid
  registerId : Uuid
  auth : AuthSettings
  hashSecret : String → String
  sign : SessionClaims → String
  verify : String → Option SessionClaims

structure AuthCreatePairingCodeRequest where
  storeId : Uuid
  createdBy : String
  deriving DecidableEq, Repr

structure AuthDevicePairRequest where
  pairingCode : String
  storeId : Uuid
  deviceName : String
  platform : Option String
  registerId : Option Uuid
  deriving DecidableEq, Repr

structure AuthSessionExchangeRequest where
  externalToken : String
  deviceId : Uuid
  deviceSecret : String
  deriving DecidableEq, Repr

inductive AuthRefusal where
  | badRequest | unauthorized | forbidden | internalServerError | serviceUnavailable
  deriving DecidableEq, Repr

inductive AuthAnswer where
  | pairingCode (id : Uuid) (code : String) (expiresAt : Timestamp)
  | paired (deviceId : Uuid) (deviceSecret : String) (registerId : Uuid)
  | session (accessToken refreshToken : String) (expiresAt refreshExpiresAt : Timestamp)
  | revoked
  deriving DecidableEq, Repr

namespace AuthDesk

inductive AuthCall where
  | clock
  | newId
  /-- Digits of a fresh code. -/
  | newCode
  /-- Whether a peer on the machine or a token with the scope is asking. -/
  | mayMintPairingCode
  /-- The claims of a token of the identity provider, if it verifies now. -/
  | verifyExternal (externalToken : String)
  | createDevicePairingCode (id : Uuid) (new : NewPairingCode)
  | getPairingCodeByHash (codeHash : String)
  | incrementPairingCodeAttempts (id : Uuid)
  | consumePairingCode (id deviceId : Uuid)
  | createTrustedDevice (new : NewTrustedDevice)
  | getTrustedDevice (id : Uuid)
  | createAuthSession (new : NewAuthSession)
  | getAuthSession (sessionId : Uuid)
  | revokeAuthSession (sessionId : Uuid)
  deriving DecidableEq

@[reducible] def AuthCall.Reply : AuthCall → Type
  | .clock => Timestamp
  | .newId => Uuid
  | .newCode => String
  | .mayMintPairingCode => Bool
  | .verifyExternal _ => Option ExternalClaims
  | .getPairingCodeByHash _ => Except PoolError (Option DevicePairingCodeRow)
  | .getTrustedDevice _ => Except PoolError (Option TrustedDeviceRow)
  | .getAuthSession _ => Except PoolError (Option AuthSessionRow)
  | _ => Except PoolError Unit

abbrev AuthAction (α : Type) := Fallible AuthCall AuthCall.Reply AuthRefusal α

def ask (call : AuthCall) : AuthAction call.Reply := Fallible.ask call

/-- A statement whose failure is an internal error. -/
def query {α : Type} (action : AuthAction (Except PoolError α)) : AuthAction α :=
  action.orThrow fun _ => .internalServerError

section Handlers
variable (app : AuthApp)

def createPairingCode (req : AuthCreatePairingCodeRequest) : AuthAction AuthAnswer :=
  if app.auth.enabled = false then throw .serviceUnavailable
  else do
    if (← ask .mayMintPairingCode) = false then throw .forbidden
    else if req.storeId ≠ app.storeId then throw .badRequest
    else do
      let code ← ask .newCode
      let now ← ask .clock
      let expiresAt := now + app.auth.pairingCodeTtlSeconds
      let id ← ask .newId
      query (ask (.createDevicePairingCode id
        ⟨req.storeId, app.hashSecret code, req.createdBy, expiresAt, app.auth.pairingMaxAttempts⟩))
      return .pairingCode id code expiresAt

def AuthDevicePairRequest.mismatches (req : AuthDevicePairRequest) (pairing : DevicePairingCodeRow) : Bool :=
  pairing.storeId ≠ req.storeId ∨ req.storeId ≠ app.storeId

/-- The device is inserted first, and the code consumed after it. -/
def enrolDevice (req : AuthDevicePairRequest) (pairing : DevicePairingCodeRow) : AuthAction AuthAnswer := do
  let deviceId ← ask .newId
  let first ← ask .newId
  let second ← ask .newId
  let deviceSecret := "dev-" ++ first.toString ++ "-" ++ second.toString
  let registerId := req.registerId.getD app.registerId
  query (ask (.createTrustedDevice
    ⟨deviceId, req.storeId, registerId, req.deviceName, req.platform, app.hashSecret deviceSecret⟩))
  query (ask (.consumePairingCode pairing.id deviceId))
  return .paired deviceId deviceSecret registerId

def pairDevice (req : AuthDevicePairRequest) : AuthAction AuthAnswer :=
  if app.auth.enabled = false then throw .serviceUnavailable
  else do
    match ← query (ask (.getPairingCodeByHash (app.hashSecret req.pairingCode))) with
    | none => throw .badRequest
    | some pairing =>
      if AuthDevicePairRequest.mismatches app req pairing then throw .badRequest
      else do
        let now ← ask .clock
        if pairing.consumedAt.isSome ∨ pairing.expiresAt < now ∨ pairing.maxAttempts ≤ pairing.attempts then do
          let _ ← ask (.incrementPairingCodeAttempts pairing.id)
          throw .badRequest
        else enrolDevice app req pairing

/-- Tokens carry their own times. -/
def issueTokens (sessionId : Uuid) (associateId : String) (deviceId storeId : Uuid) : AuthAction AuthAnswer := do
  let now ← ask .clock
  let accessExp := now + app.auth.accessTtlSeconds
  let refreshExp := now + app.auth.refreshTtlSeconds
  return .session (app.sign ⟨associateId, sessionId, deviceId, storeId, "access", accessExp, now⟩)
    (app.sign ⟨associateId, sessionId, deviceId, storeId, "refresh", refreshExp, now⟩) accessExp refreshExp

def issueSession (associateId : String) (storeId deviceId : Uuid) : AuthAction AuthAnswer := do
  let sessionId ← ask .newId
  let now ← ask .clock
  query (ask (.createAuthSession ⟨sessionId, associateId, storeId, deviceId, now + app.auth.accessTtlSeconds,
    now + app.auth.refreshTtlSeconds⟩))
  issueTokens app sessionId associateId deviceId storeId

def exchangeSession (req : AuthSessionExchangeRequest) : AuthAction AuthAnswer :=
  if app.auth.enabled = false then throw .serviceUnavailable
  else do
    match ← ask (.verifyExternal req.externalToken) with
    | none => throw .unauthorized
    | some external =>
      if external.storeId ≠ app.storeId then throw .unauthorized
      else do
        match ← query (ask (.getTrustedDevice req.deviceId)) with
        | none => throw .unauthorized
        | some device =>
          if device.storeId ≠ external.storeId ∨ device.secretHash ≠ app.hashSecret req.deviceSecret ∨
              device.status ≠ "active" ∨ device.revokedAt.isSome then throw .unauthorized
          else issueSession app external.sub external.storeId req.deviceId

/-- The leeway that the token library gives. -/
def leewaySeconds : Nat := 60

def decode (token : String) : AuthAction SessionClaims := do
  let now ← ask .clock
  match app.verify token with
  | none => throw .unauthorized
  | some claims => if claims.exp + leewaySeconds < now then throw .unauthorized else return claims

def refreshSession (refreshToken : String) : AuthAction AuthAnswer :=
  if app.auth.enabled = false then throw .serviceUnavailable
  else do
    let claims ← decode app refreshToken
    if claims.typ ≠ "refresh" then throw .unauthorized
    else do
      match ← query (ask (.getAuthSession claims.sid)) with
      | none => throw .unauthorized
      | some session => do
        let now ← ask .clock
        if session.revokedAt.isSome ∨ session.refreshExp < now then throw .unauthorized
        else do
          query (ask (.revokeAuthSession claims.sid))
          issueSession app session.associateId session.storeId session.deviceId

/-- The sessions' part of the middleware; an API token has no session. -/
def authenticate (accessToken : String) : AuthAction AuthPrincipal := do
  let claims ← decode app accessToken
  if claims.typ ≠ "access" then throw .unauthorized
  else do
    match ← ask (.getAuthSession claims.sid) with
    | .ok (some session) => do
      let now ← ask .clock
      if session.revokedAt.isSome ∨ session.accessExp < now then throw .unauthorized
      else do
        match ← ask (.getTrustedDevice session.deviceId) with
        | .ok (some device) =>
          if device.revokedAt.isSome ∨ device.status ≠ "active" then throw .unauthorized
          else if claims.storeId ≠ app.storeId ∨ session.storeId ≠ app.storeId then throw .unauthorized
          else return ⟨claims.sid, session.associateId, session.deviceId, session.storeId, device.registerId⟩
        | _ => throw .unauthorized
    | _ => throw .unauthorized

/-- Without authentication there is no principal, which the handler cannot do without. -/
def revokeSession (accessToken : String) : AuthAction AuthAnswer :=
  if app.auth.enabled = false then throw .internalServerError
  else do
    let principal ← authenticate app accessToken
    query (ask (.revokeAuthSession principal.sessionId))
    return .revoked

end Handlers

inductive AuthTask where
  | mint (req : AuthCreatePairingCodeRequest)
  | pair (req : AuthDevicePairRequest)
  | exchange (req : AuthSessionExchangeRequest)
  | refresh (refreshToken : String)
  | revoke (accessToken : String)
  deriving DecidableEq, Repr

def AuthTask.handler (app : AuthApp) (task : AuthTask) : AuthAction AuthAnswer :=
  match task with
  | .mint req => createPairingCode app req
  | .pair req => pairDevice app req
  | .exchange req => exchangeSession app req
  | .refresh refreshToken => refreshSession app refreshToken
  | .revoke accessToken => revokeSession app accessToken

/-- What a handler has learnt. No handler reads it. -/
structure AuthMemory where
  task : AuthTask
  /-- The code as it was read. -/
  pairing : Option DevicePairingCodeRow
  /-- The code and the device that was inserted for it, until the code is consumed or that fails. -/
  enrolling : Option (Uuid × Uuid)
  /-- The session that it has found. -/
  session : Option Uuid
  /-- The session that was revoked for its successor, until there is one. -/
  rotating : Option Uuid

def AuthTask.memory (task : AuthTask) : AuthMemory := ⟨task, none, none, none, none⟩

def AuthTask.isRefresh (task : AuthTask) : Bool :=
  match task with
  | .refresh _ => true
  | _ => false

def learn (memory : AuthMemory) (call : AuthCall) (reply : call.Reply) : AuthMemory :=
  match call, reply with
  | .getPairingCodeByHash _, .ok (some row) => { memory with pairing := some row }
  | .createTrustedDevice new, .ok _ => { memory with enrolling := memory.pairing.map fun row => (row.id, new.id) }
  | .consumePairingCode _ _, _ => { memory with enrolling := none }
  | .getAuthSession sessionId, .ok (some _) => { memory with session := some sessionId }
  | .revokeAuthSession sessionId, .ok _ =>
    if memory.task.isRefresh then { memory with rotating := some sessionId } else memory
  | .createAuthSession _, .ok _ => { memory with rotating := none }
  | _, _ => memory

abbrev AuthRequest := AuthMemory × AuthCall

@[reducible] def AuthRequest.Reply (request : AuthRequest) : Type := request.2.Reply

def AuthTask.program (app : AuthApp) (task : AuthTask) : Program AuthRequest AuthRequest.Reply (Except AuthRefusal AuthAnswer) :=
  Program.remembering learn task.memory (task.handler app)

/-! ### The desk -/

/-- A device that was created for a code: when, and after how many failed uses of the code. -/
structure Enrolment where
  code : Uuid
  device : Uuid
  enrolledAt : Timestamp
  failed : Nat
  deriving DecidableEq, Repr

/-- A session that was created, the sign-in that it descends from, and the session and the
refresh token that it was issued for. -/
structure Issue where
  session : Uuid
  root : Uuid
  parent : Option Uuid
  accepted : Option String
  deriving DecidableEq, Repr

/-- Beside the tables, for the record only: the devices created, the failed uses of each code,
the sessions issued, and the sign-ins whose current session was revoked by its associate. -/
structure AuthWorld where
  codes : List DevicePairingCodeRow
  devices : List TrustedDeviceRow
  sessions : List AuthSessionRow
  enrolled : List Enrolment
  failures : List Uuid
  issued : List Issue
  signedOut : List Uuid

def rootOf (issued : List Issue) (session : Uuid) : Option Uuid :=
  (issued.find? (·.session = session)).map Issue.root

/-- The last session that was issued for a sign-in. -/
def currentOf (issued : List Issue) (root : Uuid) : Option Uuid :=
  ((issued.filter (·.root = root)).getLast?).map Issue.session

structure AuthChoice where
  now : Timestamp
  freshId : Nat
  code : String
  permitted : Bool
  external : Option ExternalClaims
  storageFailure : Option PoolError

section Perform
variable (app : AuthApp)

/-- A statement on one table. A failing one leaves it as it was. -/
def execute {Table : Type} (choice : AuthChoice) (table : Table) (write : Table → Except PoolError Table) :
    Except PoolError Unit × Table :=
  match choice.storageFailure with
  | some error => (.error error, table)
  | none =>
    match write table with
    | .error error => (.error error, table)
    | .ok after => (.ok (), after)

def select {Table α : Type} (choice : AuthChoice) (table : Table) (read : Table → α) : Except PoolError α :=
  match choice.storageFailure with
  | some error => .error error
  | none => .ok (read table)

/-- A code that is found and refused for its store has failed. -/
def misused (memory : AuthMemory) (reply : Except PoolError (Option DevicePairingCodeRow)) : List Uuid :=
  match memory.task, reply with
  | .pair req, .ok (some row) => if AuthDevicePairRequest.mismatches app req row then [row.id] else []
  | _, _ => []

def enrolments (choice : AuthChoice) (world : AuthWorld) (memory : AuthMemory) (new : NewTrustedDevice) : List Enrolment :=
  memory.pairing.toList.map fun row => ⟨row.id, new.id, choice.now, world.failures.count row.id⟩

def acceptedToken (task : AuthTask) : Option String :=
  match task with
  | .refresh refreshToken => some refreshToken
  | _ => none

def issue (world : AuthWorld) (memory : AuthMemory) (new : NewAuthSession) : Issue :=
  { session := new.sessionId, root := (memory.rotating.bind (rootOf world.issued)).getD new.sessionId
    parent := memory.rotating, accepted := acceptedToken memory.task }

/-- The sign-in that ends when its associate revokes a session: the session's, where it is the
current one. -/
def signsOut (world : AuthWorld) (memory : AuthMemory) (sessionId : Uuid) : List Uuid :=
  if memory.task.isRefresh then []
  else (rootOf world.issued sessionId).toList.filter fun root => currentOf world.issued root = some sessionId

def performAuth (choice : AuthChoice) (world : AuthWorld) (request : AuthRequest) : request.Reply × AuthWorld :=
  match request with
  | (_, .clock) => (choice.now, world)
  | (_, .newId) => (.random choice.freshId, world)
  | (_, .newCode) => (choice.code, world)
  | (_, .mayMintPairingCode) => (choice.permitted, world)
  | (_, .verifyExternal _) => (choice.external, world)
  | (_, .createDevicePairingCode id new) =>
    let (reply, codes) := execute choice world.codes (Auth.createDevicePairingCode id new)
    (reply, { world with codes := codes })
  | (memory, .getPairingCodeByHash codeHash) =>
    let reply := select choice world.codes (Auth.getPairingCodeByHash codeHash)
    (reply, { world with failures := world.failures ++ misused app memory reply })
  | (_, .incrementPairingCodeAttempts id) =>
    let (reply, codes) := execute choice world.codes fun codes => .ok ((Auth.incrementPairingCodeAttempts id).run codes)
    (reply, { world with codes := codes, failures := world.failures ++ [id] })
  | (_, .consumePairingCode id deviceId) =>
    let (reply, codes) := execute choice world.codes fun codes => .ok ((Auth.consumePairingCode id deviceId choice.now).run codes)
    (reply, { world with codes := codes })
  | (memory, .createTrustedDevice new) =>
    match execute choice world.devices (Auth.createTrustedDevice new choice.now) with
    | (.error error, _) => (.error error, world)
    | (.ok (), devices) =>
      (.ok (), { world with devices := devices, enrolled := world.enrolled ++ enrolments choice world memory new })
  | (_, .getTrustedDevice id) => (select choice world.devices (Auth.getTrustedDevice id), world)
  | (memory, .createAuthSession new) =>
    match execute choice world.sessions (Auth.createAuthSession new) with
    | (.error error, _) => (.error error, world)
    | (.ok (), sessions) => (.ok (), { world with sessions := sessions, issued := world.issued ++ [issue world memory new] })
  | (_, .getAuthSession sessionId) => (select choice world.sessions (Auth.getAuthSession sessionId), world)
  | (memory, .revokeAuthSession sessionId) =>
    match execute choice world.sessions fun sessions => .ok ((Auth.revokeAuthSession sessionId choice.now).run sessions) with
    | (.error error, _) => (.error error, world)
    | (.ok (), sessions) =>
      (.ok (), { world with sessions := sessions, signedOut := world.signedOut ++ signsOut world memory sessionId })

def desk : Machine AuthRequest AuthRequest.Reply (Except AuthRefusal AuthAnswer) AuthWorld AuthChoice AuthTask :=
  { perform := performAuth app, program := AuthTask.program app, admits := fun _ _ => true }

end Perform
end AuthDesk
end ApexEdge.Hub
