import ApexEdge.Hub.CommandStore
import ApexEdge.Pos.CartEdits

/-! Carts are parked at one register and recalled at another, while both go on sending
commands. What an edit is told by other tables comes with it; broadcasts are left out. -/

namespace ApexEdge.Hub.Handoff
open Library Payment Domain Storage Contracts Pos

/-- An order is finalized by a command of its own. -/
def finalizes (wanted : CartChange) : Bool :=
  match wanted with
  | .finalizeOrder .. => true
  | _ => false

inductive HandoffCommand where
  | createCart (cartId : Option Uuid)
  | changeCart (cartId : Uuid) (wanted : { wanted : CartChange // finalizes wanted = false })
  | parkCart (cartId : Uuid) (note : Option String)
  | recallCart (parkedCartId : Uuid)

inductive HandoffCall where
  | hub (request : Request)
  | insertParkedCart (id storeId registerId : Uuid) (note : Option String) (cart : Cart) (now : Timestamp)
  | claimParkedCart (id registerId : Uuid) (now : Timestamp)
  | parkedCartExists (id : Uuid)
  | readParkedCart (id : Uuid)

@[reducible] def HandoffCall.Reply : HandoffCall → Type
  | .hub request => request.Reply
  | .insertParkedCart .. => Except PoolError Unit
  -- whether a row was affected, or is there
  | .claimParkedCart .. | .parkedCartExists _ => Except PoolError Bool
  | .readParkedCart _ => Except PoolError ParkedCartRow

/-- A statement, the command and the register that it is for, and whether it puts a recalled
cart back. -/
structure HandoffRequest where
  key : Option Uuid
  registerId : Uuid
  restoring : Bool
  call : HandoffCall

@[reducible] def HandoffRequest.Reply (request : HandoffRequest) : Type := request.call.Reply

abbrev HandoffProgram (α : Type) := Program HandoffRequest HandoffRequest.Reply α

abbrev HandoffAction (ε α : Type) := Fallible HandoffRequest HandoffRequest.Reply ε α

/-- A program of the hub that runs for a register. -/
def atRegister {α : Type} (registerId : Uuid) (program : Command α) : HandoffProgram α :=
  program.embed (fun request => (⟨request.frame.key, registerId, false, .hub request⟩ : HandoffRequest)) fun _ reply => reply

/-- The summary of a cart that was parked is shown beside the response. -/
inductive HandoffPayload where
  | cart (payload : Payload)
  | parked (row : ParkedCartRow)
  deriving DecidableEq, Repr

structure HandoffAnswer where
  response : PosResponse
  shown : Option ParkedCartRow
  deriving DecidableEq, Repr

section Commands
variable (header : CommandHeader)

def handoffFrame : Frame := Frame.ofKey (some header.idempotencyKey)

def parkingReply {ε : Type} (call : HandoffCall) : HandoffAction ε call.Reply :=
  Fallible.ask (⟨some header.idempotencyKey, header.registerId, false, call⟩ : HandoffRequest)

def registerReply {ε : Type} (call : Call) : HandoffAction ε call.Reply :=
  parkingReply header (.hub ⟨handoffFrame header, call⟩)

/-- Put a recalled cart back. -/
def restore {ε : Type} (cart : Cart) : HandoffAction ε (Except PoolError Unit) :=
  Fallible.ask (⟨some header.idempotencyKey, header.registerId, true,
    .hub ⟨handoffFrame header, .saveCart cart⟩⟩ : HandoffRequest)

def showCart (cart : Cart) : HandoffAction (List PosError) HandoffPayload := do
  return .cart (← atRegister header.registerId (buildCartState (handoffFrame header) header.storeId cart))

def createCart (cartId : Option Uuid) : HandoffAction (List PosError) HandoffPayload := do
  let cartId ← match cartId with
    | some cartId => pure cartId
    | none => registerReply header .newId
  let now ← registerReply header .clock
  let cart := Cart.new cartId header.storeId header.registerId now
  (registerReply header (.saveCart cart)).orThrow saveCartFailed
  showCart header cart

def loadForChange (cartId : Uuid) : HandoffAction (List PosError) Cart :=
  atRegister header.registerId (loadCart (handoffFrame header) cartId)

def changeCart (cartId : Uuid) (wanted : CartChange) : HandoffAction (List PosError) HandoffPayload := do
  let cart ← loadForChange header cartId
  match wanted.apply cart with
  | .error errors => throw errors
  | .ok changed =>
    (registerReply header (.saveCart changed)).orThrow saveCartFailed
    showCart header changed

/-- The cart is copied, and stays as it is. -/
def parkCart (cartId : Uuid) (note : Option String) : HandoffAction (List PosError) HandoffPayload := do
  let cart ← loadForChange header cartId
  let id ← registerReply header .newId
  let now ← registerReply header .clock
  (parkingReply header (.insertParkedCart id header.storeId header.registerId note cart now)).orThrow fun error =>
    posError "PARK_CART_FAILED" error.toString
  return .parked (ParkedCarts.newRow id header.storeId header.registerId note cart now)

def claimParkedCart (id : Uuid) : HandoffAction PoolError ClaimOutcome := do
  let now ← registerReply header .clock
  if ← (parkingReply header (.claimParkedCart id header.registerId now)).orThrow fun error => error then
    let row ← (parkingReply header (.readParkedCart id)).orThrow fun error => error
    return .claimed row.cartData row.registerId
  else
    let known ← (parkingReply header (.parkedCartExists id)).orThrow fun error => error
    return if known then .alreadyClaimed else .notFound

/-- The copy is put back, whatever has become of the cart. -/
def recallCart (parkedCartId : Uuid) : HandoffAction (List PosError) HandoffPayload := do
  match ← (claimParkedCart header parkedCartId).mapError fun error => posError "RECALL_FAILED" error.toString with
  | .alreadyClaimed =>
    throw (posError "CART_ALREADY_RECALLED" "Parked cart was already recalled by another register")
  | .notFound => throw (posError "PARKED_CART_NOT_FOUND" "Parked cart not found")
  | .claimed cart _ =>
    (restore header cart).orThrow saveCartFailed
    showCart header cart

def HandoffCommand.execute (command : HandoffCommand) : HandoffAction (List PosError) HandoffPayload :=
  match command with
  | .createCart cartId => Handoff.createCart header cartId
  | .changeCart cartId wanted => Handoff.changeCart header cartId wanted.val
  | .parkCart cartId note => Handoff.parkCart header cartId note
  | .recallCart parkedCartId => Handoff.recallCart header parkedCartId

end Commands

inductive HandoffTask where
  /-- AddPayment, FinalizeOrder, VoidCart and RefundTender. -/
  | pos (boundRegister : Option Uuid) (envelope : PosRequestEnvelope)
  | cart (boundRegister : Option Uuid) (header : CommandHeader) (command : HandoffCommand)

def HandoffTask.key (task : HandoffTask) : Uuid :=
  match task with
  | .pos _ envelope => envelope.idempotencyKey
  | .cart _ header _ => header.idempotencyKey

/-- Only a success is stored, and only after the command has run. -/
def storeHandoff (header : CommandHeader) (payload : HandoffPayload) : HandoffProgram HandoffAnswer :=
  let answer : HandoffAnswer := match payload with
    | .cart payload => ⟨.accepted header.idempotencyKey payload, none⟩
    | .parked row => ⟨⟨.v1_0_0, true, header.idempotencyKey, none, []⟩, some row⟩
  Program.bind (atRegister header.registerId (storeResponse (handoffFrame header) answer.response)) fun _ =>
    return answer

def HandoffCommand.program (app : AppState) (boundRegister : Option Uuid) (header : CommandHeader)
    (command : HandoffCommand) : HandoffProgram HandoffAnswer :=
  let key := header.idempotencyKey
  let refuse (error : PosError) : HandoffProgram HandoffAnswer := return ⟨.rejected key [error], none⟩
  if header.storeId ≠ app.storeId then refuse storeMismatch
  else if boundRegister.any (· ≠ header.registerId) then
    refuse ⟨"REGISTER_MISMATCH", "register_id does not match the paired device", some "register_id"⟩
  else if header.version ≠ .v1_0_0 then
    refuse ⟨"UNSUPPORTED_VERSION", "Unsupported contract version", none⟩
  else do
    match ← Program.ask (⟨some key, header.registerId, false,
      .hub ⟨handoffFrame header, .getResponse key⟩⟩ : HandoffRequest) with
    | .ok (some replayed) => return ⟨replayed, none⟩
    | _ =>
      Program.bind (command.execute header) fun
        | .ok payload => storeHandoff header payload
        | .error errors => return ⟨.rejected key errors, none⟩

def HandoffTask.program (app : AppState) (task : HandoffTask) : HandoffProgram HandoffAnswer :=
  match task with
  | .pos boundRegister envelope => do
    return ⟨← atRegister envelope.registerId (handlePosCommand app boundRegister envelope), none⟩
  | .cart boundRegister header command => command.program app boundRegister header

/-! ### The registers over one store -/

/-- Beside the store, for the record only: which register has which cart in progress, from
when it saves the cart until it parks it; who has recalled what; the carts that were put back
although they had been changed since they were parked; and those of them that were sold again. -/
structure HandoffWorld (Remote : Type) where
  hub : World Remote
  parked : List ParkedCartRow
  inProgress : List (Uuid × Uuid)
  recalls : List (Uuid × Uuid)
  outdated : List Uuid
  soldAgain : List Uuid

section Perform
variable {Remote Answer : Type}

/-- The cart was changed since it was parked, and is put back over that. -/
def outdates (carts : List CartRow) (restoring : Bool) (cart : Cart) : List Uuid :=
  if restoring ∧ Carts.load cart.id carts ≠ some cart then [cart.id] else []

def sellsAgain (world : HandoffWorld Remote) (cartId : Uuid) : List Uuid :=
  if cartId ∈ world.outdated ∧ world.hub.db.orders.any (·.cartId = cartId) then [cartId] else []

/-- What a statement of the hub means for the record. -/
def record (world : HandoffWorld Remote) (registerId : Uuid) (restoring : Bool) (request : Request)
    (reply : request.Reply) : HandoffWorld Remote :=
  match request, reply with
  | ⟨_, .saveCart cart⟩, .ok _ => { world with
      inProgress := world.inProgress ++ [(registerId, cart.id)]
      outdated := world.outdated ++ outdates world.hub.db.carts restoring cart }
  | ⟨_, .insertOrderLedgerEntryWithOutbox entry _⟩, .ok _ =>
    { world with soldAgain := world.soldAgain ++ sellsAgain world entry.cartId }
  | _, _ => world

def readParked {β : Type} (choice : Choice Answer) (world : HandoffWorld Remote)
    (read : List ParkedCartRow → Except PoolError β) : Except PoolError β × HandoffWorld Remote :=
  match choice.storageFailure with
  | some error => (.error error, world)
  | none => (read world.parked, world)

def performHandoff (providers : Providers Remote Answer) (choice : Choice Answer) (world : HandoffWorld Remote)
    (request : HandoffRequest) : request.Reply × HandoffWorld Remote :=
  match request with
  | ⟨_, registerId, restoring, .hub request⟩ =>
    let answered := perform providers choice world.hub request
    (answered.1, { record world registerId restoring request answered.1 with hub := answered.2 })
  | ⟨_, _, _, .insertParkedCart id storeId registerId note cart now⟩ =>
    match choice.storageFailure with
    | some error => (.error error, world)
    | none =>
      match ParkedCarts.park (ParkedCarts.newRow id storeId registerId note cart now) world.parked with
      | .error error => (.error error, world)
      | .ok rows => (.ok (), { world with
          parked := rows, inProgress := world.inProgress.filter (· ≠ (registerId, cart.id)) })
  | ⟨_, _, _, .claimParkedCart id registerId now⟩ =>
    match choice.storageFailure with
    | some error => (.error error, world)
    | none =>
      if world.parked.any (ParkedCarts.markRecalled id registerId now).selects then
        (.ok true, { world with
          parked := (ParkedCarts.markRecalled id registerId now).run world.parked
          recalls := world.recalls ++ [(id, registerId)] })
      else (.ok false, world)
  | ⟨_, _, _, .parkedCartExists id⟩ => readParked choice world fun rows => .ok (rows.any (·.id = id))
  | ⟨_, _, _, .readParkedCart id⟩ =>
    readParked choice world fun rows =>
      match rows.find? (·.id = id) with
      | some row => .ok row
      | none => .error (.connection "no rows returned by a query that expected to return at least one row")

/-- One executor per idempotency key. -/
def handoffClaims (others : List HandoffRequest) (task : HandoffTask) : Bool := others.all (·.key ≠ some task.key)

def registers (app : AppState) (providers : Providers Remote Answer) :
    Machine HandoffRequest HandoffRequest.Reply HandoffAnswer (HandoffWorld Remote) (Choice Answer) HandoffTask :=
  { perform := performHandoff providers, program := HandoffTask.program app, admits := handoffClaims }

end Perform
end ApexEdge.Hub.Handoff
