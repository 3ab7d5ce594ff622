import ApexEdge.Domain.Pricing
import ApexEdge.Library.Overwrites
import ApexEdge.Library.Replica
import ApexEdge.Storage.InventoryLedger

/-! The tables that are filled from headquarters. The catalog and the price book are
replaced in one transaction; inventory levels rebase the ledger; of everything else one
row is written at a time. Numbers are stored in columns of another sign and read back by
the opposite cast, so they are kept as they came. -/

namespace ApexEdge.Sync
open Payment Domain Storage Library Overwrites

structure CatalogItem where
  id : Uuid
  sku : String
  name : String
  description : Option String
  categoryId : Uuid
  taxCategoryId : Uuid
  isActive : Bool
  /-- The whole item as JSON; what else it says is read from there. -/
  rawProductJson : Option String
  deriving DecidableEq, Repr

/-- The columns of an item that inventory levels set. -/
structure StockColumns where
  availableQty : Option Int
  isAvailable : Option Bool
  imageUrls : List String
  deriving DecidableEq, Repr

/-- An item that no level was received for. -/
def StockColumns.unset : StockColumns := ⟨none, none, []⟩

structure Category where
  id : Uuid
  name : String
  deriving DecidableEq, Repr

structure SyncedPrice where
  entry : PriceBookEntry
  currency : String
  deriving DecidableEq, Repr

structure SyncedTaxRule where
  id : Uuid
  name : String
  rule : TaxRule
  deriving DecidableEq, Repr

/-- A promotion is stored as JSON. -/
structure SyncedPromotion where
  id : Uuid
  data : String
  deriving DecidableEq, Repr

structure Customer where
  id : Uuid
  code : String
  name : String
  email : Option String
  deriving DecidableEq, Repr

structure SyncedCoupon where
  coupon : CouponDefinition
  version : Nat
  deriving DecidableEq, Repr

inductive DocumentType where
  | customerReceipt | giftReceipt | merchantCopy | kitchenChit | invoice | endOfDayReport
  deriving DecidableEq, Repr

structure PrintTemplateConfig where
  id : Uuid
  documentType : DocumentType
  templateBody : String
  version : Nat
  deriving DecidableEq, Repr

/-- How much of an item there is at the store. -/
structure SyncedLevel where
  level : InventoryLevel
  isAvailable : Bool
  imageUrls : List String
  deriving DecidableEq, Repr

def SyncedLevel.columns (synced : SyncedLevel) : StockColumns :=
  ⟨some synced.level.availableQty, some synced.isAvailable, synced.imageUrls⟩

/-- A row of a store. -/
structure StoreRow (Columns : Type) where
  storeId : Uuid
  columns : Columns
  deriving DecidableEq, Repr

structure CatalogRow where
  storeId : Uuid
  item : CatalogItem
  stock : StockColumns
  deriving DecidableEq, Repr

/-- What headquarters has an endpoint for; names that the hub does not know are let through. -/
inductive SyncEntity where
  | catalog | categories | priceBook | taxRules | promotions | customers | inventory | coupons | printTemplates
  | other (name : String)
  deriving DecidableEq, Repr

inductive FetchError where
  | http
  | decode (context : String)
  deriving DecidableEq, Repr

inductive IngestError where
  | storage (error : PoolError)
  | invalidPayload
  deriving DecidableEq, Repr

inductive RunSyncError where
  | fetch (error : FetchError)
  | ingest (error : IngestError)
  deriving DecidableEq, Repr

/-- The latest run, as the status page shows it. -/
inductive SyncRunState where
  | running
  | success
  | failed (error : RunSyncError)
  deriving DecidableEq, Repr

structure SyncTables where
  catalogItems : List CatalogRow
  categories : List (StoreRow Category)
  priceBookEntries : List (StoreRow SyncedPrice)
  taxRules : List (StoreRow SyncedTaxRule)
  promotions : List (StoreRow SyncedPromotion)
  customers : List (StoreRow Customer)
  couponDefinitions : List (StoreRow SyncedCoupon)
  printTemplates : List (StoreRow PrintTemplateConfig)
  inventory : InventoryTables
  checkpoints : Replica.Entries SyncEntity Int
  latestRun : Option SyncRunState
  deriving DecidableEq, Repr

/-- UNIQUE(store_id, code) -/
def sameCustomer (row old : StoreRow Customer) : Bool :=
  row.columns.id = old.columns.id ∨ row.storeId = old.storeId ∧ row.columns.code = old.columns.code

/-- UNIQUE(store_id, code) -/
def sameCoupon (row old : StoreRow SyncedCoupon) : Bool :=
  row.columns.coupon.id = old.columns.coupon.id ∨
    row.storeId = old.storeId ∧ row.columns.coupon.code = old.columns.coupon.code

/-- One template of a store for each kind of document. -/
def sameTemplate (row old : StoreRow PrintTemplateConfig) : Bool :=
  row.storeId = old.storeId ∧ row.columns.documentType = old.columns.documentType

namespace SyncTables
variable (storeId : Uuid) (tables : SyncTables)

def insertPromotion (promo : SyncedPromotion) : SyncTables :=
  { tables with
    promotions := insertOrReplace (·.columns.id = ·.columns.id) tables.promotions ⟨storeId, promo⟩ }

def insertCategory (category : Category) : SyncTables :=
  { tables with
    categories := insertOrReplace (·.columns.id = ·.columns.id) tables.categories ⟨storeId, category⟩ }

def insertTaxRule (rule : SyncedTaxRule) : SyncTables :=
  { tables with taxRules := insertOrReplace (·.columns.id = ·.columns.id) tables.taxRules ⟨storeId, rule⟩ }

def insertCustomer (customer : Customer) : SyncTables :=
  { tables with customers := insertOrReplace sameCustomer tables.customers ⟨storeId, customer⟩ }

def upsertCouponDefinition (coupon : SyncedCoupon) : SyncTables :=
  { tables with couponDefinitions := insertOrReplace sameCoupon tables.couponDefinitions ⟨storeId, coupon⟩ }

/-- ON CONFLICT DO UPDATE: the row stays in its place. -/
def upsertPrintTemplate (template : PrintTemplateConfig) : SyncTables :=
  let row : StoreRow PrintTemplateConfig := ⟨storeId, template⟩
  { tables with printTemplates := Table.upsert (sameTemplate row) (fun _ => row) row tables.printTemplates }

/-- The inserts of a replacement, which may meet an item of another store or one another. -/
def insertCatalogItems (items : List CatalogItem) (rows : List CatalogRow) : Except PoolError (List CatalogRow) :=
  match items with
  | [] => .ok rows
  | item :: items =>
    if rows.any (·.item.id = item.id) then .error (.connection "UNIQUE constraint failed: catalog_items.id")
    else if rows.any fun row => row.storeId = storeId ∧ row.item.sku = item.sku then
      .error (.connection "UNIQUE constraint failed: catalog_items.store_id, catalog_items.sku")
    else insertCatalogItems items (rows ++ [⟨storeId, item, .unset⟩])

/-- Delete and insert in one transaction. -/
def replaceCatalogItems (items : List CatalogItem) : Except PoolError Unit × SyncTables :=
  match insertCatalogItems storeId items (tables.catalogItems.filter (·.storeId ≠ storeId)) with
  | .error error => (.error error, tables)
  | .ok rows => (.ok (), { tables with catalogItems := rows })

/-- Delete and insert in one transaction; nothing in the table has to be unique. -/
def replacePriceBookEntries (entries : List SyncedPrice) : SyncTables :=
  let others := tables.priceBookEntries.filter (·.storeId ≠ storeId)
  { tables with priceBookEntries := others ++ entries.map (StoreRow.mk storeId) }

/-- Levels of items that are not in the catalog are skipped. -/
def setStock (synced : SyncedLevel) : Table.Update CatalogRow :=
  { selects := fun row => row.item.id = synced.level.itemId ∧ row.storeId = storeId
    set := fun row => { row with stock := synced.columns } }

def replaceInventoryLevels (levels : List SyncedLevel) : SyncTables :=
  let setAll := levels.foldl (fun rows synced => (setStock storeId synced).run rows)
  { tables with catalogItems := setAll tables.catalogItems }

def reconcileInventoryLevels (levels : List SyncedLevel) (now : Timestamp) : SyncTables :=
  let refreshed := replaceInventoryLevels storeId tables levels
  { refreshed with inventory :=
    (InventoryLedger.reconcileInventoryLevels storeId (levels.map SyncedLevel.level) now refreshed.inventory).2 }

def getSyncCheckpoint (entity : SyncEntity) : Option Int := Replica.valueOf tables.checkpoints entity

def setSyncCheckpoint (entity : SyncEntity) (sequence : Int) : SyncTables :=
  { tables with checkpoints := Replica.put tables.checkpoints (entity, sequence) }

def upsertLatestSyncRun (state : SyncRunState) : SyncTables := { tables with latestRun := some state }

end SyncTables
end ApexEdge.Sync
