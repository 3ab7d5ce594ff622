import ApexEdge.Sync.SyncTables

/-! One sync run: each entity is fetched whole as NDJSON, applied, and its checkpoint moved.
The first entity that fails ends the run. What JSON and base64 make of a line or a payload
is a parameter; the lines of a body are not. -/

namespace ApexEdge.Sync
open Payment Domain Storage

abbrev Line := List Char
abbrev Payload := List UInt8

/-- Unicode White_Space -/
def isWhitespace (c : Char) : Bool :=
  let code := c.toNat
  (9 ≤ code ∧ code ≤ 13) ∨ (0x2000 ≤ code ∧ code ≤ 0x200A) ∨
    code ∈ [0x20, 0x85, 0xA0, 0x1680, 0x2028, 0x2029, 0x202F, 0x205F, 0x3000]

def trim (line : Line) : Line := ((line.dropWhile isWhitespace).reverse.dropWhile isWhitespace).reverse

/-- A line ends with a line feed, before which a carriage return may stand. The last line need not end. -/
def lines : List Char → List Line
  | [] => []
  | '\r' :: '\n' :: text => [] :: lines text
  | '\n' :: text => [] :: lines text
  | c :: text =>
    match lines text with
    | [] => [[c]]
    | line :: more => (c :: line) :: more

/-- Readers of JSON and base64. -/
structure Decoders where
  /-- The declared total of the first line. -/
  total : Line → Option Nat
  /-- A JSON string in base64. -/
  payload : Line → Option Payload
  catalogItem : Payload → Option CatalogItem
  category : Payload → Option Category
  priceBook : Payload → Option (List SyncedPrice)
  taxRule : Payload → Option SyncedTaxRule
  promotion : Payload → Option SyncedPromotion
  customer : Payload → Option Customer
  inventoryLevel : Payload → Option SyncedLevel
  coupon : Payload → Option SyncedCoupon
  printTemplate : Payload → Option PrintTemplateConfig

/-- The body of the answer, unless the request failed or was refused. -/
abbrev Reply := Option (List Char)

section Fetch
variable (decoders : Decoders)

/-- Blank lines are passed over. -/
def readPayloads : List Line → Except FetchError (List Payload)
  | [] => .ok []
  | line :: rest =>
    if trim line = [] then readPayloads rest
    else
      match decoders.payload (trim line) with
      | none => .error (.decode "")
      | some payload => (readPayloads rest).map (payload :: ·)

/-- The first line declares how many of the following lines are read. -/
def fetchEntityNdjsonStream : Reply → Except FetchError (List Payload)
  | none => .error .http
  | some text =>
    match lines text with
    | [] => .ok []
    | first :: rest =>
      match decoders.total first with
      | none => .error (.decode "ndjson first line")
      | some total => readPayloads decoders (rest.take total)

end Fetch

/-- Payloads are decoded and written one after another; those before an invalid one stay written. -/
def insertEach {Contract : Type} (decode : Payload → Option Contract) (insert : Contract → SyncTables → SyncTables) :
    List Payload → SyncTables → Except IngestError Unit × SyncTables
  | [], tables => (.ok (), tables)
  | payload :: batch, tables =>
    match decode payload with
    | none => (.error .invalidPayload, tables)
    | some contract => insertEach decode insert batch (insert contract tables)

/-- All payloads are decoded before any is applied. -/
def applyAll {Contract : Type} (decode : Payload → Option Contract)
    (apply : List Contract → SyncTables → Except IngestError Unit × SyncTables) (batch : List Payload)
    (tables : SyncTables) : Except IngestError Unit × SyncTables :=
  match batch.mapM decode with
  | none => (.error .invalidPayload, tables)
  | some contracts => apply contracts tables

section Run
variable (decoders : Decoders) (storeId : Uuid) (now : Timestamp)

def applyEntityBatch : SyncEntity → List Payload → SyncTables → Except IngestError Unit × SyncTables
  | .promotions => insertEach decoders.promotion fun promo tables => tables.insertPromotion storeId promo
  | .catalog =>
    applyAll decoders.catalogItem fun items tables =>
      match tables.replaceCatalogItems storeId items with
      | (.error error, tables) => (.error (.storage error), tables)
      | (.ok (), tables) => (.ok (), tables)
  | .categories => insertEach decoders.category fun category tables => tables.insertCategory storeId category
  | .priceBook =>
    applyAll decoders.priceBook fun books tables => (.ok (), tables.replacePriceBookEntries storeId books.flatten)
  | .taxRules => insertEach decoders.taxRule fun rule tables => tables.insertTaxRule storeId rule
  | .customers => insertEach decoders.customer fun customer tables => tables.insertCustomer storeId customer
  | .inventory =>
    applyAll decoders.inventoryLevel fun levels tables => (.ok (), tables.reconcileInventoryLevels storeId levels now)
  | .printTemplates =>
    insertEach decoders.printTemplate fun template tables => tables.upsertPrintTemplate storeId template
  | .coupons => insertEach decoders.coupon fun coupon tables => tables.upsertCouponDefinition storeId coupon
  | .other _ => fun _ tables => (.ok (), tables)

/-- The checkpoint counts the payloads that were received. -/
def ingestBatch (entity : SyncEntity) (batch : List Payload) (tables : SyncTables) : SyncTables :=
  tables.setSyncCheckpoint entity ((tables.getSyncCheckpoint entity).getD 0 + batch.length)

/-- One entity's turn. An empty batch is not applied. -/
def syncEntity (entity : SyncEntity) (reply : Reply) (tables : SyncTables) : Except RunSyncError Unit × SyncTables :=
  match fetchEntityNdjsonStream decoders reply with
  | .error error => (.error (.fetch error), tables)
  | .ok batch =>
    if batch = [] then (.ok (), tables)
    else
      match applyEntityBatch decoders storeId now entity batch tables with
      | (.error error, tables) => (.error (.ingest error), tables)
      | (.ok (), tables) => (.ok (), ingestBatch entity batch tables)

variable (replies : SyncEntity → Reply)

def runSyncNdjsonInner : List SyncEntity → SyncTables → Except RunSyncError Unit × SyncTables
  | [], tables => (.ok (), tables)
  | entity :: entities, tables =>
    match syncEntity decoders storeId now entity (replies entity) tables with
    | (.error error, tables) => (.error error, tables)
    | (.ok (), tables) => runSyncNdjsonInner entities tables

/-- What is fetched, in this order. No entity is named twice, and stock is synced after
the catalog, whose replacement clears it. -/
structure SyncSourceConfig where
  entities : List SyncEntity
  ordered : entities.Pairwise fun first later => first ≠ later ∧ ¬(first = .inventory ∧ later = .catalog)

def runSyncNdjson (config : SyncSourceConfig) (tables : SyncTables) : Except RunSyncError Unit × SyncTables :=
  match runSyncNdjsonInner decoders storeId now replies config.entities (tables.upsertLatestSyncRun .running) with
  | (.error error, tables) => (.error error, tables.upsertLatestSyncRun (.failed error))
  | (.ok (), tables) => (.ok (), tables.upsertLatestSyncRun .success)

end Run

def defaultSyncEntities : SyncSourceConfig where
  entities := [.catalog, .categories, .priceBook, .taxRules, .promotions, .customers, .inventory, .coupons,
    .printTemplates]
  ordered := by decide

end ApexEdge.Sync
