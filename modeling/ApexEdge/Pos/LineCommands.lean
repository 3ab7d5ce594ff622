import ApexEdge.Pos.CartEdits
import ApexEdge.Storage.InventoryLedger

/-! The commands on the lines of a cart. Each holds or releases stock, prices the cart and
saves it, with one call after the other; every call may fail, and then does nothing.
Broadcasts and the answer that shows the cart are left out. -/

namespace ApexEdge.Pos
open Library Payment Domain Storage Contracts Hub

structure RemoveLineItemPayload where
  cartId : Uuid
  lineId : Uuid
  deriving DecidableEq, Repr

inductive LineCommand where
  | addLineItem (payload : AddLineItemPayload)
  | updateLineItem (payload : UpdateLineItemPayload)
  | removeLineItem (payload : RemoveLineItemPayload)
  deriving DecidableEq, Repr

def LineCommand.cartId (command : LineCommand) : Uuid :=
  match command with
  | .addLineItem p => p.cartId
  | .updateLineItem p => p.cartId
  | .removeLineItem p => p.cartId

/-- What headquarters has sent for each store. -/
structure SyncedTables where
  items : Uuid → Uuid → Option CatalogItem
  priceBook : Uuid → List PriceBookEntry
  taxRules : Uuid → List TaxRule
  promotions : Uuid → List Promotion

structure LineTables where
  carts : List CartRow
  inventory : InventoryTables
  synced : SyncedTables

inductive LineCall where
  | loadCart (cartId : Uuid)
  | getCatalogItem (storeId itemId : Uuid)
  | ensureInventoryState (storeId itemId : Uuid) (baselineQty : Int)
  | tryReserve (input : ReserveInput)
  | releaseLineReservation (storeId lineId : Uuid)
  | listPriceBookEntries (storeId : Uuid)
  | listTaxRules (storeId : Uuid)
  | listPromotions (storeId : Uuid)
  | saveCart (cart : Cart)

/-- What a call returns when it does not fail. -/
@[reducible] def LineCall.Value : LineCall → Type
  | .loadCart _ => Option Cart
  | .getCatalogItem .. => Option CatalogItem
  | .ensureInventoryState .. => Bool
  | .tryReserve _ => ReserveOutcome
  | .releaseLineReservation .. => Int
  | .listPriceBookEntries _ => List PriceBookEntry
  | .listTaxRules _ => List TaxRule
  | .listPromotions _ => List Promotion
  | .saveCart _ => Unit

/-- The places of the commands where a call is made, each at most once by one command. -/
inductive LineStep where
  | loadCart | getCatalogItem | ensureInventoryState | tryReserve | listPriceBookEntries
  | listTaxRules | listPromotions | saveCart | releaseLineReservation
  /-- The reservation of what a line held before. -/
  | restoreReservation
  /-- The item of a line, for its tax category. -/
  | taxCategory (lineId : Uuid)
  deriving DecidableEq, Repr

structure LineRequest where
  step : LineStep
  call : LineCall

@[reducible] def LineRequest.Reply (request : LineRequest) : Type := Except PoolError request.call.Value

abbrev LineAction (α : Type) := Fallible LineRequest LineRequest.Reply (List PosError) α

def lineReply (step : LineStep) (call : LineCall) : LineAction (Except PoolError call.Value) :=
  Fallible.ask (⟨step, call⟩ : LineRequest)

/-- New ids and times of a command. -/
structure LineStamps where
  lineId : Uuid
  heldUntil : Timestamp
  restoredUntil : Timestamp
  now : Timestamp
  deriving DecidableEq, Repr

def ledgerFailed (error : PoolError) : List PosError := posError "INVENTORY_LEDGER_FAILED" error.toString

def outOfStock : List PosError := posError "OUT_OF_STOCK" "Item is out of stock"

def insufficientStock (quantity : Nat) (available : Int) : List PosError :=
  if available ≤ 0 then outOfStock
  else posError "INSUFFICIENT_STOCK"
    ("Requested quantity " ++ toString quantity ++ " exceeds available stock (" ++ toString available ++ ")")

/-- A cart that cannot be read is reported as missing. -/
def loadEditable (cartId : Uuid) : LineAction Cart := do
  match ← lineReply .loadCart (.loadCart cartId) with
  | .ok (some cart) => do
    Fallible.ofExcept (ensureEditable cart)
    return cart
  | _ => throw cartNotFound

/-- Tax categories by item, the last line's first; an item that cannot be read has none. -/
def readTaxCategories (storeId : Uuid) (lines : List CartLineItem) (known : List (Uuid × Uuid)) :
    LineAction (List (Uuid × Uuid)) :=
  match lines with
  | [] => return known
  | line :: lines => do
    match ← lineReply (.taxCategory line.lineId) (.getCatalogItem storeId line.itemId) with
    | .ok (some item) => readTaxCategories storeId lines ((line.itemId, item.taxCategoryId) :: known)
    | _ => readTaxCategories storeId lines known

section Commands
variable (storeId registerId : Uuid) (stamps : LineStamps)

/-- run_pricing_pipeline with its reads. -/
def priceCart (cart : Cart) : LineAction Cart := do
  let rules ← (lineReply .listTaxRules (.listTaxRules storeId)).orThrow fun error =>
    posError "TAX_RULES" error.toString
  let promos ← (lineReply .listPromotions (.listPromotions storeId)).orThrow fun error =>
    posError "PROMOTIONS" error.toString
  let categories ← readTaxCategories storeId cart.lines []
  Fallible.ofExcept (runPricingPipeline ⟨rules, promos, categories, stamps.now⟩ cart)

def saveLines (cart : Cart) : LineAction Unit := (lineReply .saveCart (.saveCart cart)).orThrow saveCartFailed

def priceAndSave (cart : Cart) : LineAction Cart := do
  let priced ← priceCart storeId stamps cart
  saveLines priced
  return priced

def holdFor (cartId lineId itemId : Uuid) (quantity : Nat) (expiresAt : Timestamp) : ReserveInput :=
  { storeId := storeId, registerId := registerId, cartId := cartId, lineId := lineId, itemId := itemId
    qty := quantity, expiresAt := some expiresAt }

/-- An item with a synced baseline is tracked from it. -/
def trackItem (itemId : Uuid) (item : CatalogItem) : LineAction Unit :=
  match item.availableQty with
  | none => return ()
  | some baseline => do
    let _ ← (lineReply .ensureInventoryState (.ensureInventoryState storeId itemId baseline)).orThrow ledgerFailed
    return ()

/-- Hold stock for a new line. -/
def holdStock (p : AddLineItemPayload) : LineAction Unit := do
  match ← lineReply .tryReserve
      (.tryReserve (holdFor storeId registerId p.cartId stamps.lineId p.itemId p.quantity stamps.heldUntil)) with
  | .ok .reserved | .ok .untracked => return ()
  | .ok (.insufficient available) => throw (insufficientStock p.quantity available)
  | .error error => throw (ledgerFailed error)

/-- A price book that cannot be read leaves the stock held; pricing and saving release it
when they fail. -/
def addHeldLine (p : AddLineItemPayload) (item : CatalogItem) (cart : Cart) : LineAction Cart := do
  let entries ← (lineReply .listPriceBookEntries (.listPriceBookEntries storeId)).orThrow fun error =>
    posError "PRICE_BOOK" error.toString
  let edited := cart.addLineItem (newLine p item stamps.lineId entries) stamps.now
  tryCatch (priceAndSave storeId stamps edited) fun errors => do
    let _ ← lineReply .releaseLineReservation (.releaseLineReservation storeId stamps.lineId)
    throw errors

/-- Inactive items are never sellable. -/
def addLineItem (p : AddLineItemPayload) : LineAction Cart := do
  let cart ← loadEditable p.cartId
  match ← lineReply .getCatalogItem (.getCatalogItem storeId p.itemId) with
  | .ok (some item) => do
    if !item.isActive then throw outOfStock
    trackItem storeId p.itemId item
    holdStock storeId registerId stamps p
    addHeldLine storeId stamps p item cart
  | _ => throw (posError "ITEM_NOT_FOUND" "Catalog item not found")

/-- Release the current hold, then take one of the new quantity; if there is not enough for
that, restore the prior one. -/
def holdAgain (p : UpdateLineItemPayload) (line : CartLineItem) : LineAction Unit := do
  let _ ← (lineReply .releaseLineReservation (.releaseLineReservation storeId p.lineId)).orThrow ledgerFailed
  match ← lineReply .tryReserve
      (.tryReserve (holdFor storeId registerId p.cartId p.lineId line.itemId p.quantity stamps.heldUntil)) with
  | .ok .reserved | .ok .untracked => return ()
  | .ok (.insufficient available) => do
    let _ ← lineReply .restoreReservation
      (.tryReserve (holdFor storeId registerId p.cartId p.lineId line.itemId line.quantity stamps.restoredUntil))
    throw (insufficientStock p.quantity available)
  | .error error => throw (ledgerFailed error)

def updateLineItem (p : UpdateLineItemPayload) : LineAction Cart := do
  let cart ← loadEditable p.cartId
  if p.quantity = 0 then
    throw (posFieldError "INVALID_QUANTITY" "Quantity must be greater than zero" "quantity")
  match cart.lines.find? (·.lineId = p.lineId) with
  | none => throw lineNotFound
  | some line => do
    if p.quantity ≠ line.quantity then holdAgain storeId registerId stamps p line
    let edited ← Fallible.ofExcept (updateLine p.lineId p.quantity p.notes cart)
    priceAndSave storeId stamps edited

/-- A cart that has no lines left is not priced. -/
def saveRemoved (removed : Cart) : LineAction Cart :=
  if removed.lines.isEmpty then do
    saveLines removed
    return removed
  else priceAndSave storeId stamps removed

/-- The hold of a removed line is released once the cart is saved. -/
def removeLineItem (p : RemoveLineItemPayload) : LineAction Cart := do
  let cart ← loadEditable p.cartId
  let removed ← Fallible.ofExcept (removeLine p.lineId stamps.now cart)
  let saved ← saveRemoved storeId stamps removed
  let _ ← lineReply .releaseLineReservation (.releaseLineReservation storeId p.lineId)
  return saved

def LineCommand.program (command : LineCommand) : LineAction Cart :=
  match command with
  | .addLineItem p => Pos.addLineItem storeId registerId stamps p
  | .updateLineItem p => Pos.updateLineItem storeId registerId stamps p
  | .removeLineItem p => Pos.removeLineItem storeId stamps p

end Commands

/-- What befalls a step: it may fail; a row it inserts has a new id. -/
structure Moment where
  failure : Option PoolError
  id : Uuid
  now : Timestamp
  deriving DecidableEq, Repr

/-- A call that does not fail. -/
def LineCall.perform (id : Uuid) (now : Timestamp) (tables : LineTables) (call : LineCall) :
    Except PoolError call.Value × LineTables :=
  match call with
  | .loadCart cartId => (.ok (Carts.load cartId tables.carts), tables)
  | .getCatalogItem storeId itemId => (.ok (tables.synced.items storeId itemId), tables)
  | .ensureInventoryState storeId itemId baselineQty =>
    let (created, inventory) := InventoryLedger.ensureInventoryState storeId itemId baselineQty now tables.inventory
    (.ok created, { tables with inventory := inventory })
  | .tryReserve input =>
    let (outcome, inventory) := InventoryLedger.tryReserve id input now tables.inventory
    (outcome, { tables with inventory := inventory })
  | .releaseLineReservation storeId lineId =>
    let (units, inventory) := InventoryLedger.releaseLineReservation storeId lineId now tables.inventory
    (.ok units, { tables with inventory := inventory })
  | .listPriceBookEntries storeId => (.ok (tables.synced.priceBook storeId), tables)
  | .listTaxRules storeId => (.ok (tables.synced.taxRules storeId), tables)
  | .listPromotions storeId => (.ok (tables.synced.promotions storeId), tables)
  | .saveCart cart => (.ok (), { tables with carts := Carts.save cart tables.carts })

def answerLine (moments : LineStep → Moment) (tables : LineTables) (request : LineRequest) :
    request.Reply × LineTables :=
  match (moments request.step).failure with
  | some error => (.error error, tables)
  | none => request.call.perform (moments request.step).id (moments request.step).now tables

def LineCommand.run (storeId registerId : Uuid) (stamps : LineStamps) (moments : LineStep → Moment)
    (command : LineCommand) (tables : LineTables) : Except (List PosError) Cart × LineTables :=
  Fallible.run (answerLine moments) (command.program storeId registerId stamps) tables

end ApexEdge.Pos
