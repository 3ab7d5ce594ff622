import ApexEdge.Hub.AuthDesk
import ApexEdge.Library.Sequence

/-! The door of the hub: what the middleware lets in, and the route that makes the tokens of
other systems. What the other tables say is left open, as each statement may find them otherwise. -/

namespace ApexEdge.Hub.FrontDoor
open Library Payment Domain Storage

structure StoredApiToken where
  id : Uuid
  name : String
  scopes : List String
  revoked : Bool
  deriving DecidableEq, Repr

/-! ### Paths and scopes -/

def publicPaths : List String :=
  ["/health", "/ready", "/metrics", "/auth/pairing-codes", "/auth/devices/pair", "/auth/sessions/exchange",
    "/auth/sessions/refresh", "/openapi.json", "/docs"]

def isPublicPath (path : String) : Bool := path ∈ publicPaths

def startsWith (path start : String) : Bool := start.toList.isPrefixOf path.toList

/-- In the order in which they are tried. -/
def scopedPaths : List (String × String) :=
  [("/admin", "admin"), ("/pos", "pos"), ("/catalog", "catalog"), ("/orders", "orders"), ("/customers", "customers"),
    ("/documents", "documents"), ("/approvals", "approvals"), ("/audit", "audit"), ("/sync", "sync"),
    ("/webhooks", "webhooks")]

def requiredScopeForPath (path : String) : Option String :=
  if isPublicPath path then none
  else some (((scopedPaths.find? (startsWith path ·.1)).map Prod.snd).getD "admin")

def tokenScopesAllow (scopes : List String) (required : String) : Bool :=
  scopes.any fun scope => scope = "*" ∨ scope = "admin" ∨ scope = required

/-- By the roles of an associate's claims, where it has any. -/
def associateCanApprove (roles : Option (List String)) : Bool :=
  roles.any (·.any (· ∈ ["manager", "supervisor", "admin"]))

/-! ### The middleware -/

/-- What a bearer's token is decoded to, as a session's or else as an API token's, and what is
found of its session, when each of it is asked for. -/
structure Told where
  claims : Option SessionClaims
  session : Option AuthSessionRow
  device : Option TrustedDeviceRow
  roles : Option (List String)
  apiToken : Option Uuid
  now : Timestamp

/-- What a request is let in for. -/
inductive Pass where
  | unchecked
  | session (told : Told)
  | token (stored : StoredApiToken)

def loadApiToken (tokens : List StoredApiToken) (id : Uuid) : Option StoredApiToken := tokens.find? (·.id = id)

def authenticateApiToken (tokens : List StoredApiToken) (path : String) (id : Option Uuid) : Except AuthRefusal Pass :=
  match id.bind (loadApiToken tokens) with
  | none => .error .unauthorized
  | some stored =>
    if stored.revoked then .error .unauthorized
    else if (requiredScopeForPath path).any (!tokenScopesAllow stored.scopes ·) then .error .forbidden
    else .ok (.token stored)

/-- The checks that all refuse alike are taken together. -/
def authenticateSession (app : AuthApp) (path : String) (told : Told) (claims : SessionClaims) :
    Except AuthRefusal Pass :=
  match told.session, told.device with
  | some session, some device =>
    if claims.typ ≠ "access" ∨ session.revokedAt.isSome ∨ session.accessExp < told.now ∨ device.revokedAt.isSome ∨
        device.status ≠ "active" ∨ claims.storeId ≠ app.storeId ∨ session.storeId ≠ app.storeId then
      .error .unauthorized
    else if startsWith path "/admin" ∧ associateCanApprove told.roles = false then .error .forbidden
    else .ok (.session told)
  | _, _ => .error .unauthorized

def authMiddleware (app : AuthApp) (tokens : List StoredApiToken) (path : String) (bearer : Option Told) :
    Except AuthRefusal Pass :=
  if app.auth.enabled = false ∨ isPublicPath path then .ok .unchecked
  else
    match bearer with
    | none => .error .unauthorized
    | some told =>
      match told.claims with
      | some claims => authenticateSession app path told claims
      | none => authenticateApiToken tokens path told.apiToken

/-! ### Requests -/

/-- The tokens, the requests inside, and for the record what let in the request that made each token. -/
structure Door where
  tokens : List StoredApiToken
  inside : List (String × Pass)
  made : List (Uuid × Pass)

def tokensPath : String := "/admin/api-tokens"

inductive DoorStep where
  | arrives (path : String) (bearer : Option Told)
  /-- A request inside has its token inserted. -/
  | createApiToken (request : Nat) (id : Uuid) (name : String) (scopes : List String)
  /-- By an operator, in the table. -/
  | revokes (id : Uuid)

def Door.apply (app : AuthApp) (door : Door) (step : DoorStep) : Door :=
  match step with
  | .arrives path bearer =>
    match authMiddleware app door.tokens path bearer with
    | .ok pass => { door with inside := door.inside ++ [(path, pass)] }
    | .error _ => door
  | .createApiToken request id name scopes =>
    match door.inside[request]? with
    | none => door
    | some (path, pass) =>
      if path ≠ tokensPath ∨ (loadApiToken door.tokens id).isSome then door
      else
        { tokens := door.tokens ++ [⟨id, name, scopes, false⟩], inside := door.inside.eraseIdx request
          made := door.made ++ [(id, pass)] }
  | .revokes id =>
    { door with tokens := (Table.Update.mk (·.id = id) fun token => { token with revoked := true }).run door.tokens }

def Door.opened (tokens : List StoredApiToken) : Door := ⟨tokens, [], []⟩

end ApexEdge.Hub.FrontDoor
