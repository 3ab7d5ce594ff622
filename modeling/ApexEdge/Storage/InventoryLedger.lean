import ApexEdge.Storage.PaymentIntents

/-! The real-time inventory ledger. Headquarters is authoritative for on-hand
stock; reservations of open carts, sales since the last sync, and local stock
movements are layered on top. Items without a row are untracked. Every function
is one transaction; quantities are exact integers. -/

namespace ApexEdge.Storage
open Payment Domain Library

structure InventoryStateRow where
  storeId : Uuid
  itemId : Uuid
  hqBaselineQty : Int
  reservedQty : Int
  soldSinceSyncQty : Int
  localAdjustQty : Int
  baselineAsOf : Timestamp
  updatedAt : Timestamp
  deriving DecidableEq, Repr

namespace InventoryStateRow

/-- Units that nobody holds and nobody bought; negative after a rebase that came too late. -/
def uncommitted (row : InventoryStateRow) : Int :=
  row.hqBaselineQty + row.localAdjustQty - row.reservedQty - row.soldSinceSyncQty

def availableToSell (row : InventoryStateRow) : Int := max row.uncommitted 0

end InventoryStateRow

inductive ReservationState where
  | active | released | committed | expired
  deriving DecidableEq, Repr

structure ReservationRow where
  id : Uuid
  storeId : Uuid
  registerId : Uuid
  cartId : Uuid
  lineId : Uuid
  itemId : Uuid
  qty : Int
  state : ReservationState
  expiresAt : Option Timestamp
  updatedAt : Timestamp
  deriving DecidableEq, Repr

structure StockMovementRow where
  id : Uuid
  storeId : Uuid
  registerId : Uuid
  itemId : Uuid
  quantityDelta : Int
  createdAt : Timestamp
  deriving DecidableEq, Repr

structure InventoryTables where
  inventoryState : List InventoryStateRow
  reservations : List ReservationRow
  movements : List StockMovementRow
  deriving DecidableEq, Repr

/-- What the ledger reads of a catalog item. -/
structure CatalogStock where
  storeId : Uuid
  id : Uuid
  availableQty : Option Int
  deriving DecidableEq, Repr

structure InventoryLevel where
  itemId : Uuid
  availableQty : Int
  deriving DecidableEq, Repr

structure ReconcileSummary where
  items : Nat
  /-- Items where local activity exceeded the fresh baseline. -/
  drift : Nat
  deriving DecidableEq, Repr

inductive ReserveOutcome where
  | reserved
  | untracked
  | insufficient (available : Int)
  deriving DecidableEq, Repr

structure ReserveInput where
  storeId : Uuid
  registerId : Uuid
  cartId : Uuid
  lineId : Uuid
  itemId : Uuid
  qty : Int
  expiresAt : Option Timestamp
  deriving DecidableEq, Repr

namespace InventoryLedger

/-- The key of a ledger row. -/
def ofItem (storeId itemId : Uuid) (row : InventoryStateRow) : Bool := row.storeId = storeId ∧ row.itemId = itemId

def getInventoryState (storeId itemId : Uuid) (tables : InventoryTables) : Option InventoryStateRow :=
  tables.inventoryState.find? (ofItem storeId itemId)

/-- The row of an item that has just become tracked. -/
def newStateRow (storeId itemId : Uuid) (baselineQty : Int) (now : Timestamp) : InventoryStateRow :=
  { storeId := storeId, itemId := itemId, hqBaselineQty := baselineQty, reservedQty := 0, soldSinceSyncQty := 0
    localAdjustQty := 0, baselineAsOf := now, updatedAt := now }

/-- Track the items of the catalog that have a quantity and are not tracked yet. -/
def seedFromCatalog (storeId : Uuid) (catalog : List CatalogStock) (now : Timestamp)
    (tables : InventoryTables) : Except PoolError Nat × InventoryTables :=
  let untracked := catalog.filterMap fun item =>
    if item.storeId = storeId ∧ !tables.inventoryState.any (ofItem storeId item.id) then
      item.availableQty.map fun qty => newStateRow item.storeId item.id qty now
    else none
  if (untracked.map InventoryStateRow.itemId).Nodup then
    (.ok untracked.length, { tables with inventoryState := tables.inventoryState ++ untracked })
  else (.error (.connection "UNIQUE constraint failed: inventory_state.store_id, inventory_state.item_id"), tables)

/-- INSERT OR IGNORE: track the item if it is not tracked yet. -/
def ensureInventoryState (storeId itemId : Uuid) (baselineQty : Int) (now : Timestamp)
    (tables : InventoryTables) : Bool × InventoryTables :=
  if tables.inventoryState.any (ofItem storeId itemId) then (false, tables)
  else (true, { tables with inventoryState :=
    tables.inventoryState ++ [newStateRow storeId itemId baselineQty now] })

/-- The guard of the UPDATE is what keeps two registers from both taking the last unit. -/
def reserveUpdate (input : ReserveInput) (now : Timestamp) : Table.Update InventoryStateRow :=
  { selects := fun row => ofItem input.storeId input.itemId row ∧ input.qty ≤ row.uncommitted
    set := fun row => { row with reservedQty := row.reservedQty + input.qty, updatedAt := now } }

def newReservation (id : Uuid) (input : ReserveInput) (now : Timestamp) : ReservationRow :=
  { id := id, storeId := input.storeId, registerId := input.registerId, cartId := input.cartId
    lineId := input.lineId, itemId := input.itemId, qty := input.qty, state := .active
    expiresAt := input.expiresAt, updatedAt := now }

def tryReserve (id : Uuid) (input : ReserveInput) (now : Timestamp) (tables : InventoryTables) :
    Except PoolError ReserveOutcome × InventoryTables :=
  if input.qty ≤ 0 then (.ok (.insufficient 0), tables)
  else
    match getInventoryState input.storeId input.itemId tables with
    | none => (.ok .untracked, tables)
    | some row =>
      let update := reserveUpdate input now
      if tables.inventoryState.any update.selects then
        if tables.reservations.any (·.id = id) then
          (.error (.connection "UNIQUE constraint failed: stock_reservations.id"), tables)
        else
          (.ok .reserved, { tables with
            inventoryState := update.run tables.inventoryState
            reservations := tables.reservations ++ [newReservation id input now] })
      else (.ok (.insufficient row.availableToSell), tables)

/-- MAX(0, reserved_qty - qty) -/
def lessHeld (reservedQty qty : Int) : Int := max 0 (reservedQty - qty)

/-- Take the units of one closed reservation off its ledger row, as sold units or not. -/
def closeUpdate (less : Int → Int → Int) (sells : Bool) (now : Timestamp) (reservation : ReservationRow) :
    Table.Update InventoryStateRow :=
  { selects := ofItem reservation.storeId reservation.itemId
    set := fun row =>
      { row with
        reservedQty := less row.reservedQty reservation.qty
        soldSinceSyncQty := if sells then row.soldSinceSyncQty + reservation.qty else row.soldSinceSyncQty
        updatedAt := now } }

/-- Close the selected active reservations: take each off the ledger, then mark
them all. The number of units is returned. -/
def closeReservations (less : Int → Int → Int) (selects : ReservationRow → Bool) (closed : ReservationState)
    (now : Timestamp) (tables : InventoryTables) : Int × InventoryTables :=
  let rows := tables.reservations.filter fun row => row.state = .active ∧ selects row
  let marking : Table.Update ReservationRow :=
    { selects := fun row => row.state = .active ∧ selects row
      set := fun row => { row with state := closed, updatedAt := now } }
  ((rows.map ReservationRow.qty).sum, { tables with
    inventoryState := rows.foldl
      (fun state row => (closeUpdate less (closed = .committed) now row).run state) tables.inventoryState
    reservations := marking.run tables.reservations })

def ofLine (storeId lineId : Uuid) (row : ReservationRow) : Bool := row.storeId = storeId ∧ row.lineId = lineId

def ofCart (storeId cartId : Uuid) (row : ReservationRow) : Bool := row.storeId = storeId ∧ row.cartId = cartId

/-- A reservation without an expiry never goes stale. -/
def isStale (now : Timestamp) (row : ReservationRow) : Bool := row.expiresAt.any (· ≤ now)

def releaseLineReservation (storeId lineId : Uuid) : Timestamp → InventoryTables → Int × InventoryTables :=
  closeReservations lessHeld (ofLine storeId lineId) .released

def releaseCartReservations (storeId cartId : Uuid) : Timestamp → InventoryTables → Int × InventoryTables :=
  closeReservations lessHeld (ofCart storeId cartId) .released

/-- Whatever the cart still holds is sold. -/
def commitCartSale (storeId cartId : Uuid) : Timestamp → InventoryTables → Int × InventoryTables :=
  closeReservations lessHeld (ofCart storeId cartId) .committed

def expireStaleReservations (now : Timestamp) : InventoryTables → Int × InventoryTables :=
  closeReservations lessHeld (isStale now) .expired now

/-- No-op for an untracked item. -/
def applyLocalDelta (storeId itemId : Uuid) (delta : Int) (now : Timestamp) (tables : InventoryTables) :
    Option Int × InventoryTables :=
  let update : Table.Update InventoryStateRow :=
    { selects := ofItem storeId itemId
      set := fun row => { row with localAdjustQty := row.localAdjustQty + delta, updatedAt := now } }
  if tables.inventoryState.any (ofItem storeId itemId) then
    let after := { tables with inventoryState := update.run tables.inventoryState }
    ((getInventoryState storeId itemId after).map InventoryStateRow.availableToSell, after)
  else (none, tables)

def insertStockMovement (movement : StockMovementRow) (tables : InventoryTables) :
    Except PoolError Unit × InventoryTables :=
  if tables.movements.any (·.id = movement.id) then
    (.error (.connection "UNIQUE constraint failed: stock_movements.id"), tables)
  else (.ok (), { tables with movements := tables.movements ++ [movement] })

/-- Rebase on a fresh count: active reservations are kept, and only the sales and
movements that the count does not reflect yet stay in the local counters. -/
def rebaseBaseline (storeId itemId : Uuid) (newBaselineQty : Int) (reflectedThrough now : Timestamp)
    (tables : InventoryTables) : InventoryTables :=
  let unreflectedSold := ((tables.reservations.filter fun row =>
    row.storeId = storeId ∧ row.itemId = itemId ∧ row.state = .committed ∧ reflectedThrough < row.updatedAt).map
      ReservationRow.qty).sum
  let unreflectedAdjust := ((tables.movements.filter fun row =>
    row.storeId = storeId ∧ row.itemId = itemId ∧ reflectedThrough < row.createdAt).map
      StockMovementRow.quantityDelta).sum
  let rebased (row : InventoryStateRow) : InventoryStateRow :=
    { row with
      hqBaselineQty := newBaselineQty, soldSinceSyncQty := unreflectedSold
      localAdjustQty := unreflectedAdjust, baselineAsOf := now, updatedAt := now }
  { tables with
    inventoryState := Table.upsert (ofItem storeId itemId) rebased
      (rebased (newStateRow storeId itemId newBaselineQty now)) tables.inventoryState }

/-- One level of a reconciliation; what it reflects is told by the last baseline. -/
def reconcileLevel (storeId : Uuid) (now : Timestamp) (progress : ReconcileSummary × InventoryTables)
    (level : InventoryLevel) : ReconcileSummary × InventoryTables :=
  let (summary, tables) := progress
  let reflectedThrough := ((getInventoryState storeId level.itemId tables).map (·.baselineAsOf)).getD 0
  let after := rebaseBaseline storeId level.itemId level.availableQty reflectedThrough now tables
  let drifts := (getInventoryState storeId level.itemId after).any (·.uncommitted < 0)
  ({ items := summary.items + 1, drift := if drifts then summary.drift + 1 else summary.drift }, after)

def reconcileInventoryLevels (storeId : Uuid) (levels : List InventoryLevel) (now : Timestamp)
    (tables : InventoryTables) : ReconcileSummary × InventoryTables :=
  levels.foldl (reconcileLevel storeId now) (⟨0, 0⟩, tables)

end InventoryLedger
end ApexEdge.Storage
