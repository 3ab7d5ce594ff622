import ApexEdge.Hub.EventStream
import ApexEdge.Hub.StockRoom
import ApexEdge.Pos.StoreStream

/-! The stock of one store and its broadcasts: the commands that move stock, each up to its
broadcast, what moves stock without one, snapshots, and the clients that load them and listen
to the stream. Of the rest of a command only whether it succeeds is kept, and of a snapshot
the parked carts are left out. -/

namespace ApexEdge.Hub.StockStream
open Library Library.Replica Payment Domain Storage Pos EventStream

/-- A line of a cart that is to be held. -/
structure StockHold where
  registerId : Uuid
  cartId : Uuid
  lineId : Uuid
  itemId : Uuid
  qty : Int
  expiresAt : Option Timestamp
  deriving DecidableEq, Repr

def StockHold.input (hold : StockHold) (storeId : Uuid) : ReserveInput :=
  ⟨storeId, hold.registerId, hold.cartId, hold.lineId, hold.itemId, hold.qty, hold.expiresAt⟩

inductive StockWrite where
  | ensureInventoryState (itemId : Uuid) (baselineQty : Int)
  | tryReserve (hold : StockHold)
  | releaseLineReservation (lineId : Uuid)
  | releaseCartReservations (cartId : Uuid)
  | commitCartSale (cartId : Uuid)
  | insertStockMovement (registerId itemId : Uuid) (quantityDelta : Int)
  | applyLocalDelta (itemId : Uuid) (delta : Int)
  | seedInventoryFromCatalog
  | rebaseBaseline (itemId : Uuid) (newBaselineQty : Int) (reflectedThrough : Timestamp)
  | expireStaleReservations
  deriving DecidableEq, Repr

@[reducible] def StockWrite.Reply : StockWrite → Type
  | .ensureInventoryState .. => Except PoolError Bool
  | .tryReserve _ => Except PoolError ReserveOutcome
  | _ => Except PoolError Unit

/-- The variables of a command that are live across a request: the items that it broadcasts
in the end, and whether it may have changed their stock already. -/
structure StockFrame where
  items : List Uuid
  changed : Bool
  deriving DecidableEq, Repr

/-- What it would be wrong not to broadcast any more. -/
def StockFrame.owed (frame : StockFrame) : List Uuid := if frame.changed then frame.items else []

def StockFrame.silent : StockFrame := ⟨[], false⟩

inductive LiveRequest where
  | write (frame : StockFrame) (call : StockWrite)
  /-- Pricing, saving, and all else that may end the command. -/
  | proceed (frame : StockFrame)
  | getCatalogItemBySku (frame : StockFrame) (sku : String)
  /-- Of a broadcast: the item read now, those still to be read, and what was read. -/
  | getInventoryState (itemId : Uuid) (rest : List Uuid) (read : Entries Uuid Int)
  /-- The event takes its number; then it is remembered and sent. -/
  | number (payload : StreamPayload)
  | send (envelope : StreamEnvelope) (payload : StreamPayload)
  | listAvailableToSell
  | listParkedCarts (stock : Entries Uuid Int)
  | presentRegisters (stock : Entries Uuid Int)
  | currentSeq (stock : Entries Uuid Int) (registers : List Uuid)
  /-- The response comes to the client. -/
  | arrive (client : Nat) (snapshot : StoreSnapshot)
  | subscribe (client : Nat)
  | receive (client : Nat)

@[reducible] def LiveRequest.Reply : LiveRequest → Type
  | .write _ call => call.Reply
  | .proceed _ => Bool
  | .getCatalogItemBySku .. => Except PoolError (Option Uuid)
  | .getInventoryState .. => Except PoolError (Option InventoryStateRow)
  | .number _ => StreamEnvelope
  | .listAvailableToSell => Except PoolError (Entries Uuid Int)
  | .listParkedCarts _ => Except PoolError Unit
  | .presentRegisters _ => List Uuid
  | .currentSeq .. => Nat
  | _ => Unit

abbrev LiveProgram (α : Type) := Program LiveRequest LiveRequest.Reply α

def writeStock (frame : StockFrame) (call : StockWrite) : LiveProgram call.Reply :=
  Program.ask (LiveRequest.write frame call)

def proceed (frame : StockFrame) : LiveProgram Bool := Program.ask (LiveRequest.proceed frame)

/-! ### Broadcasts -/

def publish (payload : StreamPayload) : LiveProgram Unit := do
  let envelope ← Program.ask (LiveRequest.number payload)
  Program.ask (LiveRequest.send envelope payload)

/-- Items without a row are left out; the first failure ends it. -/
def availableToSellForItems (read : Entries Uuid Int) (itemIds : List Uuid) : LiveProgram (Option (Entries Uuid Int)) :=
  match itemIds with
  | [] => return some read
  | itemId :: rest => do
    match ← Program.ask (LiveRequest.getInventoryState itemId rest read) with
    | .error _ => return none
    | .ok none => availableToSellForItems read rest
    | .ok (some row) => availableToSellForItems (put read (itemId, row.availableToSell)) rest

/-- Nothing is published when nothing could be read. -/
def broadcastStockChanged (itemIds : List Uuid) : LiveProgram Unit := do
  match ← availableToSellForItems [] itemIds with
  | none => return ()
  | some [] => return ()
  | some (entry :: read) => publish (.stockChanged (entry :: read))

/-! ### Commands -/

/-- The held line is kept when the price book cannot be read, and released when pricing or
saving fails. -/
def saveAddedLine (hold : StockHold) (frame : StockFrame) : LiveProgram Unit := do
  match ← proceed frame with
  | false => return ()
  | true => do
    match ← proceed frame with
    | false => let _ ← writeStock .silent (.releaseLineReservation hold.lineId)
    | true => do
      match ← proceed frame with
      | false => let _ ← writeStock .silent (.releaseLineReservation hold.lineId)
      | true => broadcastStockChanged frame.items

def reserveAddedLine (hold : StockHold) (created : Bool) : LiveProgram Unit := do
  match ← writeStock ⟨[hold.itemId], created⟩ (.tryReserve hold) with
  | .error _ => return ()
  | .ok (.insufficient _) => return ()
  | .ok .reserved => saveAddedLine hold ⟨[hold.itemId], true⟩
  | .ok .untracked => saveAddedLine hold ⟨[hold.itemId], created⟩

/-- An item with a quantity becomes tracked when it is added for the first time. -/
def addLineItem (hold : StockHold) (baseline : Option Int) : LiveProgram Unit := do
  match baseline with
  | none => reserveAddedLine hold false
  | some qty => do
    match ← writeStock ⟨[hold.itemId], false⟩ (.ensureInventoryState hold.itemId qty) with
    | .error _ => return ()
    | .ok created => reserveAddedLine hold created

/-- Two steps that may each end the command, and then the broadcast. -/
def saveAndBroadcast (frame : StockFrame) : LiveProgram Unit := do
  match ← proceed frame with
  | false => return ()
  | true => do
    match ← proceed frame with
    | false => return ()
    | true => broadcastStockChanged frame.items

/-- The line is released and held anew; when it cannot be, the old hold is restored as far
as possible, and nothing is broadcast. -/
def updateLineItem (hold : StockHold) (oldQty : Int) : LiveProgram Unit := do
  let items := [hold.itemId]
  if hold.qty = oldQty then saveAndBroadcast ⟨items, false⟩
  else do
    match ← writeStock ⟨items, false⟩ (.releaseLineReservation hold.lineId) with
    | .error _ => return ()
    | .ok () => do
      match ← writeStock ⟨items, true⟩ (.tryReserve hold) with
      | .error _ => return ()
      | .ok (.insufficient _) => let _ ← writeStock .silent (.tryReserve { hold with qty := oldQty })
      | .ok _ => saveAndBroadcast ⟨items, true⟩

/-- What follows when the cart is saved; whether the write succeeds is not looked at. -/
def settleStock (itemIds : List Uuid) (call : StockWrite) : LiveProgram Unit := do
  let _ ← writeStock ⟨itemIds, false⟩ call
  broadcastStockChanged itemIds

def voidCart (cartId : Uuid) (voidedItemIds : List Uuid) : LiveProgram Unit :=
  settleStock voidedItemIds (.releaseCartReservations cartId)

def removeLineItem (lineId : Uuid) (removedItemId : Option Uuid) : LiveProgram Unit :=
  settleStock removedItemId.toList (.releaseLineReservation lineId)

/-- ReceiveStock, TransferStock and AdjustStock. -/
def moveStock (registerId itemId : Uuid) (quantityDelta : Int) : LiveProgram Unit := do
  match ← writeStock ⟨[itemId], false⟩ (.insertStockMovement registerId itemId quantityDelta) with
  | .error _ => return ()
  | .ok () => settleStock [itemId] (.applyLocalDelta itemId quantityDelta)

/-- The sale is committed; the document is written and the cart saved before the broadcast. -/
def finalizeOrder (cartId : Uuid) (soldItemIds : List Uuid) : LiveProgram Unit := do
  let _ ← writeStock ⟨soldItemIds, false⟩ (.commitCartSale cartId)
  saveAndBroadcast ⟨soldItemIds, true⟩

def finalizeReturn (restocked : List Uuid) (lines : List RestockLine) : LiveProgram Unit :=
  match lines with
  | [] => broadcastStockChanged restocked
  | line :: rest => do
    match ← Program.ask (LiveRequest.getCatalogItemBySku ⟨restocked, true⟩ line.sku) with
    | .ok (some itemId) => do
      let _ ← writeStock ⟨restocked ++ [itemId], true⟩ (.applyLocalDelta itemId line.quantity)
      finalizeReturn (restocked ++ [itemId]) rest
    | _ => finalizeReturn restocked rest

/-! ### Snapshots and clients -/

/-- The stock is read first, and the number that it goes with last. -/
def posSnapshot : LiveProgram (Option StoreSnapshot) := do
  match ← Program.ask LiveRequest.listAvailableToSell with
  | .error _ => return none
  | .ok stock => do
    match ← Program.ask (LiveRequest.listParkedCarts stock) with
    | .error _ => return none
    | .ok () => do
      let registers ← Program.ask (LiveRequest.presentRegisters stock)
      let seq ← Program.ask (LiveRequest.currentSeq stock registers)
      return some ⟨seq, stock, registers⟩

def loadSnapshot (client : Nat) : LiveProgram Unit := do
  match ← posSnapshot with
  | none => return ()
  | some snapshot => Program.ask (LiveRequest.arrive client snapshot)

inductive LiveTask where
  | addLineItem (hold : StockHold) (baseline : Option Int)
  | updateLineItem (hold : StockHold) (oldQty : Int)
  | removeLineItem (lineId : Uuid) (removedItemId : Option Uuid)
  | voidCart (cartId : Uuid) (voidedItemIds : List Uuid)
  | moveStock (registerId itemId : Uuid) (quantityDelta : Int)
  | finalizeOrder (cartId : Uuid) (soldItemIds : List Uuid)
  | finalizeReturn (lines : List RestockLine)
  /-- What moves stock and broadcasts nothing: seeding, expiry, and reconciliation, level by level. -/
  | quietly (call : StockWrite)
  /-- The other events of the stream. -/
  | registerPresence (present : List Uuid)
  | cartHandoff (notice : HandoffNotice)
  | snapshot
  | loadSnapshot (client : Nat)
  | subscribe (client : Nat)
  | receive (client : Nat)

def LiveTask.program (task : LiveTask) : LiveProgram Unit :=
  match task with
  | .addLineItem hold baseline => StockStream.addLineItem hold baseline
  | .updateLineItem hold oldQty => StockStream.updateLineItem hold oldQty
  | .removeLineItem lineId removedItemId => StockStream.removeLineItem lineId removedItemId
  | .voidCart cartId voidedItemIds => StockStream.voidCart cartId voidedItemIds
  | .moveStock registerId itemId quantityDelta => StockStream.moveStock registerId itemId quantityDelta
  | .finalizeOrder cartId soldItemIds => StockStream.finalizeOrder cartId soldItemIds
  | .finalizeReturn lines => StockStream.finalizeReturn [] lines
  | .quietly call => do let _ ← writeStock .silent call
  | .registerPresence present => publish (.registerPresence present)
  | .cartHandoff notice => publish (.cartHandoff notice)
  | .snapshot => do let _ ← posSnapshot
  | .loadSnapshot client => StockStream.loadSnapshot client
  | .subscribe client => Program.ask (LiveRequest.subscribe client)
  | .receive client => Program.ask (LiveRequest.receive client)

/-! ### The room -/

/-- A client, and the frames that are on the way to it. -/
structure StreamClient where
  isSubscribed : Bool
  frames : List StreamPayload
  state : StoreStreamState
  /-- The items it was told of; kept for the record only. -/
  mentioned : List Uuid
  deriving DecidableEq, Repr

def StreamClient.fresh : StreamClient := ⟨false, [], initialStoreStreamState, []⟩

/-- `issued` and `snapshots` are kept for the record: every event with its number, and every
snapshot that was completed. -/
structure LiveWorld where
  tables : InventoryTables
  channel : StoreChannel
  issued : List (Nat × StreamPayload)
  snapshots : List StoreSnapshot
  clients : List StreamClient

/-- The times, ids, catalog and present registers that a step meets, and what fails. -/
structure LiveChoice where
  now : Timestamp
  freshId : Uuid
  catalog : List CatalogStock
  item : Except PoolError (Option Uuid)
  registers : List Uuid
  proceeds : Bool
  storageFailure : Option PoolError

def noticeOf (payload : StreamPayload) : Notice :=
  let texts (ids : List Uuid) : StripeTerminal.Json := .array (ids.map fun id => .string id.toString)
  match payload with
  | .stockChanged items =>
    ⟨.stockChanged, .object [("items", .array (items.map fun item => .object
      [("item_id", .string item.1.toString), ("available_to_sell", .unsigned item.2.toNat)]))]⟩
  | .registerPresence present => ⟨.registerPresence, .object [("present", texts present)]⟩
  | .cartHandoff notice =>
    ⟨.cartHandoff, .object [("parked_cart_id", .string notice.parkedCartId.toString),
      ("claimed_by_register", .string notice.claimedByRegister.toString),
      ("parked_by_register", .string notice.parkedByRegister.toString)]⟩

def StreamClient.send (payload : StreamPayload) (client : StreamClient) : StreamClient :=
  if client.isSubscribed then { client with frames := client.frames ++ [payload] } else client

def StreamClient.receive (client : StreamClient) : StreamClient :=
  match client.frames with
  | [] => client
  | payload :: frames =>
    { client with
      frames, state := applyStreamEvent client.state payload
      mentioned := client.mentioned ++ payload.stock.map Prod.fst }

def StreamClient.arrive (snapshot : StoreSnapshot) (client : StreamClient) : StreamClient :=
  { client with
    state := applySnapshot client.state snapshot
    mentioned := client.mentioned ++ snapshot.stock.map Prod.fst }

section Room
variable (storeId : Uuid)

/-- The live `available_to_sell` of an item; untracked items have none. -/
def available (tables : InventoryTables) (itemId : Uuid) : Option Int :=
  (InventoryLedger.getInventoryState storeId itemId tables).map InventoryStateRow.availableToSell

def listAvailableToSell (tables : InventoryTables) : Entries Uuid Int :=
  (tables.inventoryState.filter (·.storeId = storeId)).map fun row => (row.itemId, row.availableToSell)

/-- A write that did not fail, and what it is told. -/
def runStockWrite (choice : LiveChoice) (tables : InventoryTables) (call : StockWrite) : call.Reply × InventoryTables :=
  match call with
  | .ensureInventoryState itemId baselineQty =>
    let ensured := InventoryLedger.ensureInventoryState storeId itemId baselineQty choice.now tables
    (.ok ensured.1, ensured.2)
  | .tryReserve hold => InventoryLedger.tryReserve choice.freshId (hold.input storeId) choice.now tables
  | .releaseLineReservation lineId =>
    (.ok (), (InventoryLedger.releaseLineReservation storeId lineId choice.now tables).2)
  | .releaseCartReservations cartId =>
    (.ok (), (InventoryLedger.releaseCartReservations storeId cartId choice.now tables).2)
  | .commitCartSale cartId => (.ok (), (InventoryLedger.commitCartSale storeId cartId choice.now tables).2)
  | .insertStockMovement registerId itemId quantityDelta =>
    InventoryLedger.insertStockMovement ⟨choice.freshId, storeId, registerId, itemId, quantityDelta, choice.now⟩ tables
  | .applyLocalDelta itemId delta =>
    (.ok (), (InventoryLedger.applyLocalDelta storeId itemId delta choice.now tables).2)
  | .seedInventoryFromCatalog =>
    let seeded := InventoryLedger.seedFromCatalog storeId choice.catalog choice.now tables
    (seeded.1.map fun _ => (), seeded.2)
  | .rebaseBaseline itemId newBaselineQty reflectedThrough =>
    (.ok (), InventoryLedger.rebaseBaseline storeId itemId newBaselineQty reflectedThrough choice.now tables)
  | .expireStaleReservations => (.ok (), (InventoryLedger.expireStaleReservations choice.now tables).2)

def StockWrite.failed (error : PoolError) (call : StockWrite) : call.Reply := by
  cases call <;> exact .error error

/-- A failing transaction leaves everything as it was. -/
def performStockWrite (choice : LiveChoice) (tables : InventoryTables) (call : StockWrite) :
    call.Reply × InventoryTables :=
  match choice.storageFailure with
  | some error => (call.failed error, tables)
  | none => runStockWrite storeId choice tables call

def performLive (choice : LiveChoice) (world : LiveWorld) (request : LiveRequest) : request.Reply × LiveWorld :=
  let reads {α : Type} (value : α) : Except PoolError α :=
    match choice.storageFailure with
    | some error => .error error
    | none => .ok value
  match request with
  | .write _ call =>
    let (reply, tables) := performStockWrite storeId choice world.tables call
    (reply, { world with tables })
  | .proceed _ => (choice.proceeds, world)
  | .getCatalogItemBySku .. => (choice.item, world)
  | .getInventoryState itemId _ _ => (reads (InventoryLedger.getInventoryState storeId itemId world.tables), world)
  | .number payload =>
    let (envelope, channel) := world.channel.allocate (noticeOf payload)
    (envelope, { world with channel, issued := world.issued ++ [(envelope.seq, payload)] })
  | .send envelope payload =>
    ((), { world with
      channel := world.channel.remember envelope, clients := world.clients.map (StreamClient.send payload) })
  | .listAvailableToSell => (reads (StockStream.listAvailableToSell storeId world.tables), world)
  | .listParkedCarts _ => (reads (), world)
  | .presentRegisters _ => (choice.registers, world)
  | .currentSeq stock registers =>
    (world.channel.seq,
      { world with snapshots := world.snapshots ++ [⟨world.channel.seq, stock, registers⟩] })
  | .arrive client snapshot => ((), { world with clients := world.clients.modify client (StreamClient.arrive snapshot) })
  | .subscribe client =>
    ((), { world with clients := world.clients.modify client fun client => { client with isSubscribed := true } })
  | .receive client => ((), { world with clients := world.clients.modify client StreamClient.receive })

/-- Any number of all of them, side by side. -/
def stockStream : Machine LiveRequest LiveRequest.Reply Unit LiveWorld LiveChoice LiveTask :=
  { perform := performLive storeId, program := LiveTask.program, admits := fun _ _ => true }

end Room

/-- The hub has just been started. -/
def LiveWorld.opened (storeId : Uuid) (tables : InventoryTables) (clients : Nat) : LiveWorld :=
  ⟨tables, .empty storeId, [], [], List.replicate clients .fresh⟩

/-- A client that loads the snapshot and applies every event with a number above the
snapshot's. -/
def catchUp (snapshot : StoreSnapshot) (issued : List (Nat × StreamPayload)) : StoreStreamState :=
  ((issued.filter (snapshot.seq < ·.1)).map Prod.snd).foldl applyStreamEvent
    (applySnapshot initialStoreStreamState snapshot)

end ApexEdge.Hub.StockStream
