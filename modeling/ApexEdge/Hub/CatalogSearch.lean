import Mathlib.Data.Char
import Mathlib.Data.List.Lex
import ApexEdge.Library.Paging
import ApexEdge.Sync.SyncRun

/-! The catalog as it is searched: by SKU, or page by page by name. In what order SQLite
lists items of one name is its own choice, made for each query. -/

namespace ApexEdge.Hub.CatalogSearch
open Payment Domain Library.Paging Sync

/-- The catalog table with its keys. -/
structure Catalog where
  rows : List CatalogRow
  ids : (rows.map (·.item.id)).Nodup
  skus : (rows.map fun row => (row.storeId, row.item.sku)).Nodup

/-- LIKE, which takes upper and lower case of ASCII letters for the same. -/
def like (pattern text : List Char) : Bool :=
  match pattern with
  | [] => text.isEmpty
  | '%' :: pattern => text.tails.any (like pattern)
  | '_' :: pattern =>
    match text with
    | [] => false
    | _ :: text => like pattern text
  | char :: pattern =>
    match text with
    | [] => false
    | other :: text => char.toLower = other.toLower && like pattern text

/-- The text to look for, when there is any. -/
def searched (q : Option String) : Option (List Char) := (q.map fun text => Sync.trim text.toList).filter (· ≠ [])

/-- The WHERE clause of a listing. -/
def selects (storeId : Uuid) (categoryId : Option Uuid) (q : Option String) (row : CatalogRow) : Bool :=
  row.storeId = storeId && categoryId.all (row.item.categoryId = ·) &&
    (searched q).all fun text =>
      let pattern := '%' :: text ++ ['%']
      row.item.sku.toList = text || like pattern row.item.name.toList ||
        row.item.description.any fun description => like pattern description.toList

def itemName (row : CatalogRow) : List Char := row.item.name.toList

def matching (catalog : Catalog) (storeId : Uuid) (categoryId : Option Uuid) (q : Option String) : List CatalogRow :=
  catalog.rows.filter (selects storeId categoryId q)

/-- ORDER BY name, with items of one name in any order. -/
abbrev NameOrder : Type := (rows : List CatalogRow) → Arrangement itemName rows

def clamp (low high n : Nat) : Nat := max low (min n high)

/-- The items of a page, and how many there are on all pages. -/
def listCatalogItems (order : NameOrder) (catalog : Catalog) (storeId : Uuid) (categoryId : Option Uuid)
    (q : Option String) (limit offset : Nat) : List CatalogRow × Nat :=
  let rows := matching catalog storeId categoryId q
  (window offset (clamp 1 100 limit) (order rows).listed, rows.length)

def getCatalogItemBySku (catalog : Catalog) (storeId : Uuid) (sku : String) : Option CatalogRow :=
  catalog.rows.find? fun row => row.storeId = storeId && row.item.sku = sku

structure ProductSearchQuery where
  sku : Option String
  q : Option String
  categoryId : Option String
  page : Nat
  perPage : Nat

structure ProductListResponse where
  items : List CatalogRow
  total : Nat
  page : Nat
  perPage : Nat

/-- The offset of a page, as 32-bit numbers multiply. -/
def pageOffset (page perPage : Nat) : Nat := wrap32 ((page - 1) * perPage)

/-- The listing of a search, with its numbers clamped. -/
def listPage (order : NameOrder) (catalog : Catalog) (storeId : Uuid) (categoryId : Option Uuid) (q : Option String)
    (page perPage : Nat) : ProductListResponse :=
  let perPage := clamp 1 100 perPage
  let page := max page 1
  let (items, total) := listCatalogItems order catalog storeId categoryId q perPage (pageOffset page perPage)
  ⟨items, total, page, perPage⟩

/-- A search for a SKU finds at most one item; every other search is a listing. -/
def searchProducts (parseUuid : String → Option Uuid) (order : NameOrder) (catalog : Catalog) (storeId : Uuid)
    (query : ProductSearchQuery) : List CatalogRow ⊕ ProductListResponse :=
  match query.sku.filter (· ≠ "") with
  | some sku => .inl (getCatalogItemBySku catalog storeId sku).toList
  | none =>
    .inr (listPage order catalog storeId (query.categoryId.bind parseUuid) query.q query.page query.perPage)

end ApexEdge.Hub.CatalogSearch
