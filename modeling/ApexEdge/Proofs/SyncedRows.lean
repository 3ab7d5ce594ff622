import ApexEdge.Sync.SyncRun
import Mathlib.Data.List.TakeWhile

/-! What applying a batch leaves in the tables: of the rows it describes the latest ones,
and of the rows before it those it has not replaced. -/

namespace ApexEdge.Proofs.SyncedRows
open Payment Domain Storage Sync Library Overwrites

/-- A row of one of the synced tables, by the columns its entity fills; or what a level says of an item. -/
inductive SyncRow where
  | catalogItem (row : StoreRow CatalogItem)
  | category (row : StoreRow Category)
  | price (row : StoreRow SyncedPrice)
  | taxRule (row : StoreRow SyncedTaxRule)
  | promotion (row : StoreRow SyncedPromotion)
  | customer (row : StoreRow Customer)
  | coupon (row : StoreRow SyncedCoupon)
  | template (row : StoreRow PrintTemplateConfig)
  | stock (row : StoreRow (Uuid × StockColumns))
  | ledger (row : InventoryStateRow)
  | level (synced : SyncedLevel)
  deriving DecidableEq

/-- The row cannot stand beside the older one. -/
def SyncRow.clash : SyncRow → SyncRow → Bool
  | .category row, .category old => row.columns.id = old.columns.id
  | .taxRule row, .taxRule old => row.columns.id = old.columns.id
  | .promotion row, .promotion old => row.columns.id = old.columns.id
  | .customer row, .customer old => sameCustomer row old
  | .coupon row, .coupon old => sameCoupon row old
  | .template row, .template old => sameTemplate row old
  | .level row, .level old => row.level.itemId = old.level.itemId
  | _, _ => false

def SyncRow.storeId : SyncRow → Option Uuid
  | .catalogItem row => row.storeId
  | .category row => row.storeId
  | .price row => row.storeId
  | .taxRule row => row.storeId
  | .promotion row => row.storeId
  | .customer row => row.storeId
  | .coupon row => row.storeId
  | .template row => row.storeId
  | .stock row => row.storeId
  | .ledger row => row.storeId
  | .level _ => none

/-- The columns of the catalog that inventory sets. -/
def stockRow (row : CatalogRow) : SyncRow := .stock ⟨row.storeId, row.item.id, row.stock⟩

/-- An entity's tables. -/
def rows (entity : SyncEntity) (tables : SyncTables) : List SyncRow :=
  match entity with
  | .catalog => tables.catalogItems.map fun row => .catalogItem ⟨row.storeId, row.item⟩
  | .categories => tables.categories.map .category
  | .priceBook => tables.priceBookEntries.map .price
  | .taxRules => tables.taxRules.map .taxRule
  | .promotions => tables.promotions.map .promotion
  | .customers => tables.customers.map .customer
  | .inventory => tables.catalogItems.map stockRow ++ tables.inventory.inventoryState.map .ledger
  | .coupons => tables.couponDefinitions.map .coupon
  | .printTemplates => tables.printTemplates.map .template
  | .other _ => []

/-- One row is written at a time. -/
def rowByRow : SyncEntity → Bool
  | .categories | .taxRules | .promotions | .customers | .coupons | .printTemplates => true
  | .catalog | .priceBook | .inventory | .other _ => false

/-- The items of other stores; their ids are taken. -/
def foreignIds (storeId : Uuid) (tables : SyncTables) : List Uuid :=
  (tables.catalogItems.filter (·.storeId ≠ storeId)).map (·.item.id)

/-- The catalog's ids and SKUs are unique. -/
def Fits (foreign : List Uuid) (items : List CatalogItem) : Prop :=
  items.Pairwise (fun first later => first.id ≠ later.id ∧ first.sku ≠ later.sku) ∧ ∀ item ∈ items, item.id ∉ foreign

section Describes
variable (decoders : Decoders) (storeId : Uuid)

/-- What a payload describes, if it is valid. -/
def describe (entity : SyncEntity) (payload : Payload) : Option (List SyncRow) :=
  match entity with
  | .catalog => (decoders.catalogItem payload).map fun item => [.catalogItem ⟨storeId, item⟩]
  | .categories => (decoders.category payload).map fun category => [.category ⟨storeId, category⟩]
  | .priceBook => (decoders.priceBook payload).map fun entries => entries.map fun entry => .price ⟨storeId, entry⟩
  | .taxRules => (decoders.taxRule payload).map fun rule => [.taxRule ⟨storeId, rule⟩]
  | .promotions => (decoders.promotion payload).map fun promo => [.promotion ⟨storeId, promo⟩]
  | .customers => (decoders.customer payload).map fun customer => [.customer ⟨storeId, customer⟩]
  | .inventory => (decoders.inventoryLevel payload).map fun synced => [.level synced]
  | .coupons => (decoders.coupon payload).map fun coupon => [.coupon ⟨storeId, coupon⟩]
  | .printTemplates => (decoders.printTemplate payload).map fun template => [.template ⟨storeId, template⟩]
  | .other _ => some []

def Valid (entity : SyncEntity) (payload : Payload) : Prop := (describe decoders storeId entity payload).isSome

/-- What a batch describes. -/
def described (entity : SyncEntity) (batch : List Payload) : List SyncRow :=
  batch.flatMap fun payload => (describe decoders storeId entity payload).getD []

/-- The payloads before the first invalid one. -/
def validPart (entity : SyncEntity) (batch : List Payload) : List Payload :=
  batch.takeWhile fun payload => (describe decoders storeId entity payload).isSome

/-- The described rows that no later one replaces. -/
def Fresh (entity : SyncEntity) (batch : List Payload) (row : SyncRow) : Prop :=
  Latest SyncRow.clash (described decoders storeId entity batch) row

/-- What a batch replaces: the catalog and the price book as a whole, elsewhere what clashes. -/
def Gone (entity : SyncEntity) (batch : List Payload) (row : SyncRow) : Prop :=
  match entity with
  | .catalog | .priceBook => batch ≠ [] ∧ row.storeId = some storeId
  | _ => Struck SyncRow.clash (described decoders storeId entity batch) row

/-- All payloads are valid, and a catalog fits in. -/
def Applicable (foreign : List Uuid) (entity : SyncEntity) (batch : List Payload) : Prop :=
  (∀ payload ∈ batch, Valid decoders storeId entity payload) ∧
    (entity = .catalog → Fits foreign (batch.filterMap decoders.catalogItem))

end Describes

section InsertEach
variable {Contract : Type} {decode : Payload → Option Contract} {insert : Contract → SyncTables → SyncTables}

theorem insertEach_ok (batch : List Payload) (tables : SyncTables) :
    (insertEach decode insert batch tables).1 = .ok () ↔ ∀ payload ∈ batch, (decode payload).isSome := by
  induction batch generalizing tables with
  | nil => simp [insertEach]
  | cons payload batch ih =>
    rw [insertEach]
    cases read : decode payload with
    | none => simp [read]
    | some contract => simp [read, ih]

/-- What every insert leaves as it is. -/
theorem insertEach_keeps {View : Type} (view : SyncTables → View)
    (keeps : ∀ contract tables, view (insert contract tables) = view tables) (batch : List Payload)
    (tables : SyncTables) : view (insertEach decode insert batch tables).2 = view tables := by
  induction batch generalizing tables with
  | nil => rfl
  | cons payload batch ih =>
    rw [insertEach]
    cases decode payload with
    | none => rfl
    | some contract => exact (ih _).trans (keeps contract tables)

/-- Inserts that replace what they clash with, up to the first payload that is invalid. -/
theorem wrote_insertEach {row : Contract → SyncRow} {table : SyncTables → List SyncRow}
    (own : ∀ contract, SyncRow.clash (row contract) (row contract) = true)
    (inserted : ∀ contract tables r, r ∈ table (insert contract tables) ↔
      r = row contract ∨ r ∈ table tables ∧ SyncRow.clash (row contract) r = false)
    (batch : List Payload) (tables : SyncTables) :
    let writes := (batch.takeWhile fun payload => ((decode payload).map fun contract => [row contract]).isSome).flatMap
      fun payload => ((decode payload).map fun contract => [row contract]).getD []
    Wrote (Latest SyncRow.clash writes) (Struck SyncRow.clash writes) (table tables)
      (table (insertEach decode insert batch tables).2) := by
  induction batch generalizing tables with
  | nil => exact wrote_nil
  | cons payload batch ih =>
    rw [insertEach]
    cases read : decode payload with
    | none =>
      simp only [List.takeWhile_cons, read, Option.map_none, Option.isSome_none]
      exact wrote_nil
    | some contract =>
      simp only [List.takeWhile_cons, read, Option.map_some, Option.isSome_some, if_true, List.flatMap_cons,
        Option.getD_some, List.cons_append, List.nil_append]
      exact wrote_cons (own contract) (inserted contract tables) (ih (insert contract tables))

end InsertEach

section ApplyAll
variable {Contract : Type} {decode : Payload → Option Contract} {batch : List Payload}

theorem mapM_of_valid (valid : ∀ payload ∈ batch, (decode payload).isSome) :
    batch.mapM decode = some (batch.filterMap decode) := by
  induction batch with
  | nil => rfl
  | cons payload batch ih =>
    obtain ⟨contract, read⟩ := Option.isSome_iff_exists.mp (valid payload List.mem_cons_self)
    rw [List.mapM_cons, ih fun later member => valid later (List.mem_cons_of_mem _ member)]
    simp [read]

theorem mapM_of_invalid (invalid : ¬∀ payload ∈ batch, (decode payload).isSome) : batch.mapM decode = none := by
  induction batch with
  | nil => exact absurd (fun _ member => (List.not_mem_nil member).elim) invalid
  | cons payload batch ih =>
    rw [List.mapM_cons]
    cases read : decode payload with
    | none => rfl
    | some contract =>
      rw [ih fun valid => invalid (by simpa [read] using valid)]
      rfl

/-- Descriptions of one row each. -/
theorem flatMap_single (row : Contract → SyncRow) (batch : List Payload) :
    (batch.flatMap fun payload => ((decode payload).map fun contract => [row contract]).getD []) =
      (batch.filterMap decode).map row := by
  induction batch with
  | nil => rfl
  | cons payload batch ih => cases read : decode payload <;> simp [read, ih]

theorem flatMap_many {Entry : Type} {decode : Payload → Option (List Entry)} (row : Entry → SyncRow)
    (batch : List Payload) :
    (batch.flatMap fun payload => ((decode payload).map fun entries => entries.map row).getD []) =
      (batch.filterMap decode).flatten.map row := by
  induction batch with
  | nil => rfl
  | cons payload batch ih => cases read : decode payload <;> simp [read, ih]

end ApplyAll

section Catalog
variable {storeId : Uuid} {items : List CatalogItem} {before after : List CatalogRow}

/-- The row is in no item's way. -/
def Admits (storeId : Uuid) (row : CatalogRow) (item : CatalogItem) : Prop :=
  row.item.id ≠ item.id ∧ ¬(row.storeId = storeId ∧ row.item.sku = item.sku)

theorem insertCatalogItems_ok (apart : items.Pairwise fun first later => first.id ≠ later.id ∧ first.sku ≠ later.sku)
    (free : ∀ item ∈ items, ∀ row ∈ before, Admits storeId row item) :
    SyncTables.insertCatalogItems storeId items before =
      .ok (before ++ items.map fun item => ⟨storeId, item, .unset⟩) := by
  induction items generalizing before with
  | nil => simp [SyncTables.insertCatalogItems]
  | cons item items ih =>
    rw [List.pairwise_cons] at apart
    have newId : ¬(before.any (·.item.id = item.id)) = true := by
      simpa using fun row member => (free item List.mem_cons_self row member).1
    have newSku : ¬(before.any fun row => row.storeId = storeId ∧ row.item.sku = item.sku) = true := by
      simpa using fun row member own => not_and.mp (free item List.mem_cons_self row member).2 own
    rw [SyncTables.insertCatalogItems, if_neg newId, if_neg newSku, ih apart.2, List.append_assoc]
    · rfl
    · intro later member row present
      rcases List.mem_append.mp present with old | new
      · exact free later (List.mem_cons_of_mem _ member) row old
      · obtain rfl := List.mem_singleton.mp new
        exact ⟨(apart.1 later member).1, fun clash => (apart.1 later member).2 clash.2⟩

theorem insertCatalogItems_fits (inserted : SyncTables.insertCatalogItems storeId items before = .ok after) :
    (items.Pairwise fun first later => first.id ≠ later.id ∧ first.sku ≠ later.sku) ∧
      ∀ item ∈ items, ∀ row ∈ before, Admits storeId row item := by
  induction items generalizing before with
  | nil => exact ⟨List.Pairwise.nil, fun _ member => (List.not_mem_nil member).elim⟩
  | cons item items ih =>
    rw [SyncTables.insertCatalogItems] at inserted
    split at inserted
    · cases inserted
    · rename_i newId
      split at inserted
      · cases inserted
      · rename_i newSku
        obtain ⟨apart, free⟩ := ih inserted
        have own (later : CatalogItem) (member : later ∈ items) : Admits storeId ⟨storeId, item, .unset⟩ later :=
          free later member _ (List.mem_append_right _ (List.mem_singleton.mpr rfl))
        refine ⟨List.pairwise_cons.mpr ⟨fun later member => ⟨(own later member).1, fun clash =>
          (own later member).2 ⟨rfl, clash⟩⟩, apart⟩, fun one member row present => ?_⟩
        rcases List.mem_cons.mp member with rfl | behind
        · have otherIds : ∀ row ∈ before, row.item.id ≠ one.id := by simpa using newId
          have otherSkus : ∀ row ∈ before, row.storeId = storeId → row.item.sku ≠ one.sku := by simpa using newSku
          exact ⟨otherIds row present, fun clash => otherSkus row present clash.1 clash.2⟩
        · exact free one behind row (List.mem_append_left _ present)

/-- A replacement goes through if the items fit in beside those of other stores. -/
theorem replaceCatalogItems_of_fits {tables : SyncTables} (fits : Fits (foreignIds storeId tables) items) :
    tables.replaceCatalogItems storeId items = (.ok (), { tables with
      catalogItems := tables.catalogItems.filter (·.storeId ≠ storeId) ++
        items.map fun item => ⟨storeId, item, .unset⟩ }) := by
  rw [SyncTables.replaceCatalogItems, insertCatalogItems_ok fits.1]
  intro item member row present
  have foreign : row.storeId ≠ storeId := by simpa using (List.mem_filter.mp present).2
  exact ⟨fun clash => fits.2 item member (List.mem_map.mpr ⟨row, present, clash⟩), fun own => foreign own.1⟩

theorem replaceCatalogItems_of_not_fits {tables : SyncTables} (unfit : ¬Fits (foreignIds storeId tables) items) :
    ∃ error, tables.replaceCatalogItems storeId items = (.error error, tables) := by
  unfold SyncTables.replaceCatalogItems
  cases inserted : SyncTables.insertCatalogItems storeId items (tables.catalogItems.filter (·.storeId ≠ storeId)) with
  | error error => exact ⟨error, rfl⟩
  | ok after =>
    obtain ⟨apart, free⟩ := insertCatalogItems_fits inserted
    refine absurd ⟨apart, fun item member taken => ?_⟩ unfit
    obtain ⟨row, present, clash⟩ := List.mem_map.mp taken
    exact (free item member row present).1 clash

end Catalog

section Written

/-- A table's rows, after one of them was written. -/
theorem mem_wrapped {Row : Type} {wrap : Row → SyncRow} {same : Row → Row → Bool} {write : Row}
    {before after : List Row} (kind : ∀ row old, SyncRow.clash (wrap row) (wrap old) = same row old)
    (written : ∀ row, row ∈ after ↔ row = write ∨ row ∈ before ∧ same write row = false) (r : SyncRow) :
    r ∈ after.map wrap ↔ r = wrap write ∨ r ∈ before.map wrap ∧ SyncRow.clash (wrap write) r = false := by
  simp only [List.mem_map, written]
  constructor
  · rintro ⟨row, rfl | ⟨present, apart⟩, rfl⟩
    · exact .inl rfl
    · exact .inr ⟨⟨row, present, rfl⟩, (kind write row).trans apart⟩
  · rintro (rfl | ⟨⟨row, present, rfl⟩, apart⟩)
    · exact ⟨write, .inl rfl, rfl⟩
    · exact ⟨row, .inr ⟨present, (kind write row).symm.trans apart⟩, rfl⟩

theorem mem_inserted {Row : Type} (wrap : Row → SyncRow) (same : Row → Row → Bool)
    (kind : ∀ row old, SyncRow.clash (wrap row) (wrap old) = same row old) (before : List Row) (write : Row)
    (r : SyncRow) : r ∈ (insertOrReplace same before write).map wrap ↔
      r = wrap write ∨ r ∈ before.map wrap ∧ SyncRow.clash (wrap write) r = false :=
  mem_wrapped kind (fun _ => mem_insertOrReplace write) r

end Written

section Apply
variable {decoders : Decoders} {storeId : Uuid} {now : Timestamp} {entity : SyncEntity} {batch : List Payload}

theorem mem_upsertPrintTemplate (template : PrintTemplateConfig) (tables : SyncTables)
    (row : StoreRow PrintTemplateConfig) :
    row ∈ (tables.upsertPrintTemplate storeId template).printTemplates ↔
      row = ⟨storeId, template⟩ ∨ row ∈ tables.printTemplates ∧ sameTemplate ⟨storeId, template⟩ row = false :=
  Table.mem_upsert_iff

/-- A batch that is written row by row is written up to its first invalid payload. -/
theorem wrote_each (each : rowByRow entity = true) (batch : List Payload) (tables : SyncTables) :
    Wrote (Fresh decoders storeId entity (validPart decoders storeId entity batch))
      (Gone decoders storeId entity (validPart decoders storeId entity batch)) (rows entity tables)
      (rows entity (applyEntityBatch decoders storeId now entity batch tables).2) := by
  cases entity with
  | catalog | priceBook | inventory | other => cases each
  | categories =>
    exact wrote_insertEach (fun _ => by simp [SyncRow.clash])
      (fun _ tables => mem_inserted .category _ (fun _ _ => rfl) tables.categories _) batch tables
  | taxRules =>
    exact wrote_insertEach (fun _ => by simp [SyncRow.clash])
      (fun _ tables => mem_inserted .taxRule _ (fun _ _ => rfl) tables.taxRules _) batch tables
  | promotions =>
    exact wrote_insertEach (fun _ => by simp [SyncRow.clash])
      (fun _ tables => mem_inserted .promotion _ (fun _ _ => rfl) tables.promotions _) batch tables
  | customers =>
    exact wrote_insertEach (fun _ => by simp [SyncRow.clash, sameCustomer])
      (fun _ tables => mem_inserted .customer _ (fun _ _ => rfl) tables.customers _) batch tables
  | coupons =>
    exact wrote_insertEach (fun _ => by simp [SyncRow.clash, sameCoupon])
      (fun _ tables => mem_inserted .coupon _ (fun _ _ => rfl) tables.couponDefinitions _) batch tables
  | printTemplates =>
    exact wrote_insertEach (fun _ => by simp [SyncRow.clash, sameTemplate])
      (fun template tables => mem_wrapped (fun _ _ => rfl) (mem_upsertPrintTemplate template tables)) batch tables

theorem isSome_of_valid {Contract : Type} {decode : Payload → Option Contract} {rows : Contract → List SyncRow}
    (valid : ∀ payload ∈ batch, ((decode payload).map rows).isSome) : ∀ payload ∈ batch, (decode payload).isSome :=
  fun payload member => by simpa using valid payload member

/-- What a DELETE of the store's rows leaves. -/
theorem mem_foreign {Row : Type} {wrap : Row → SyncRow} {owner : Row → Uuid} {before : List Row} {r : SyncRow}
    (owned : ∀ row, (wrap row).storeId = some (owner row)) :
    r ∈ (before.filter (owner · ≠ storeId)).map wrap ↔ r ∈ before.map wrap ∧ r.storeId ≠ some storeId := by
  simp only [List.mem_map, List.mem_filter, decide_eq_true_eq]
  constructor
  · rintro ⟨old, ⟨present, foreign⟩, rfl⟩
    exact ⟨⟨old, present, rfl⟩, by simpa [owned] using foreign⟩
  · rintro ⟨⟨old, present, rfl⟩, foreign⟩
    exact ⟨old, ⟨present, by simpa [owned] using foreign⟩, rfl⟩

/-- A replacement of the store's rows by what the batch describes. -/
theorem wrote_replaced {writes before after : List SyncRow} (nonempty : batch ≠ [])
    (own : ∀ row ∈ writes, row.storeId = some storeId) (apart : ∀ first ∈ writes, ∀ later, SyncRow.clash later first = false)
    (replaced : ∀ row, row ∈ after ↔ row ∈ before ∧ row.storeId ≠ some storeId ∨ row ∈ writes) :
    Wrote (Latest SyncRow.clash writes) (fun row => batch ≠ [] ∧ row.storeId = some storeId) before after where
  mem_iff row := by
    have latest : Latest SyncRow.clash writes row ↔ row ∈ writes :=
      ⟨Latest.mem, latest_of_apart (List.pairwise_of_forall_mem_list fun first member later _ => apart first member later)⟩
    rw [replaced, latest, or_comm]
    simp [nonempty]
  replaces row latest := ⟨nonempty, own row (Latest.mem latest)⟩

theorem applied_catalog {tables : SyncTables}
    (valid : ∀ payload ∈ batch, (decoders.catalogItem payload).isSome) (fits : Fits (foreignIds storeId tables)
      (batch.filterMap decoders.catalogItem)) :
    applyEntityBatch decoders storeId now .catalog batch tables = (.ok (), { tables with
      catalogItems := tables.catalogItems.filter (·.storeId ≠ storeId) ++
        (batch.filterMap decoders.catalogItem).map fun item => ⟨storeId, item, .unset⟩ }) := by
  simp only [applyEntityBatch, applyAll, mapM_of_valid valid, replaceCatalogItems_of_fits fits]

theorem applied_priceBook {tables : SyncTables} (valid : ∀ payload ∈ batch, (decoders.priceBook payload).isSome) :
    applyEntityBatch decoders storeId now .priceBook batch tables =
      (.ok (), tables.replacePriceBookEntries storeId (batch.filterMap decoders.priceBook).flatten) := by
  simp only [applyEntityBatch, applyAll, mapM_of_valid valid]

theorem applied_inventory {tables : SyncTables} (valid : ∀ payload ∈ batch, (decoders.inventoryLevel payload).isSome) :
    applyEntityBatch decoders storeId now .inventory batch tables =
      (.ok (), tables.reconcileInventoryLevels storeId (batch.filterMap decoders.inventoryLevel) now) := by
  simp only [applyEntityBatch, applyAll, mapM_of_valid valid]

theorem described_catalog : described decoders storeId .catalog batch =
    (batch.filterMap decoders.catalogItem).map fun item => .catalogItem ⟨storeId, item⟩ := flatMap_single _ batch

theorem described_priceBook : described decoders storeId .priceBook batch =
    (batch.filterMap decoders.priceBook).flatten.map fun entry => .price ⟨storeId, entry⟩ := flatMap_many _ batch

theorem described_inventory : described decoders storeId .inventory batch =
    (batch.filterMap decoders.inventoryLevel).map .level := flatMap_single _ batch

theorem described_other {name : String} : described decoders storeId (.other name) batch = [] := by
  simp [described, describe]

/-- Everything valid is everything. -/
theorem validPart_of_valid (valid : ∀ payload ∈ batch, Valid decoders storeId entity payload) :
    validPart decoders storeId entity batch = batch := by
  simpa [validPart, List.takeWhile_eq_self_iff, Valid] using valid

/-- What became of a batch: it was applied, or it was not applicable and, where it is not
written row by row, left the tables alone. -/
def Settled (applicable : Prop) (entity : SyncEntity) (tables : SyncTables)
    (applied : Except IngestError Unit × SyncTables) : Prop :=
  applicable ∧ applied.1 = .ok () ∨
    ¬applicable ∧ (∃ error, applied.1 = .error error) ∧ (rowByRow entity = false → applied.2 = tables)

theorem settled_insertEach {Contract : Type} {decode : Payload → Option Contract}
    {insert : Contract → SyncTables → SyncTables} {applicable : Prop} (each : rowByRow entity = true)
    (same : applicable ↔ ∀ payload ∈ batch, (decode payload).isSome) (tables : SyncTables) :
    Settled applicable entity tables (insertEach decode insert batch tables) := by
  by_cases valid : applicable
  · exact .inl ⟨valid, (insertEach_ok batch tables).mpr (same.mp valid)⟩
  · refine .inr ⟨valid, ?_, fun whole => by simp [each] at whole⟩
    cases result : (insertEach decode insert batch tables).1 with
    | error error => exact ⟨error, rfl⟩
    | ok => exact absurd (same.mpr ((insertEach_ok batch tables).mp result)) valid

theorem settled_applyAll {Contract : Type} {decode : Payload → Option Contract}
    {apply : List Contract → SyncTables → Except IngestError Unit × SyncTables} {applicable : Prop} {tables : SyncTables}
    (needs : applicable → ∀ payload ∈ batch, (decode payload).isSome)
    (works : (∀ payload ∈ batch, (decode payload).isSome) →
      Settled applicable entity tables (apply (batch.filterMap decode) tables)) :
    Settled applicable entity tables (applyAll decode apply batch tables) := by
  unfold applyAll
  by_cases valid : ∀ payload ∈ batch, (decode payload).isSome
  · rw [mapM_of_valid valid]
    exact works valid
  · rw [mapM_of_invalid valid]
    exact .inr ⟨fun applicable => valid (needs applicable), ⟨_, rfl⟩, fun _ => rfl⟩

theorem settled_apply (batch : List Payload) (tables : SyncTables) :
    Settled (Applicable decoders storeId (foreignIds storeId tables) entity batch) entity tables
      (applyEntityBatch decoders storeId now entity batch tables) := by
  cases entity with
  | categories => exact settled_insertEach rfl (by simp [Applicable, Valid, describe]) tables
  | taxRules => exact settled_insertEach rfl (by simp [Applicable, Valid, describe]) tables
  | promotions => exact settled_insertEach rfl (by simp [Applicable, Valid, describe]) tables
  | customers => exact settled_insertEach rfl (by simp [Applicable, Valid, describe]) tables
  | coupons => exact settled_insertEach rfl (by simp [Applicable, Valid, describe]) tables
  | printTemplates => exact settled_insertEach rfl (by simp [Applicable, Valid, describe]) tables
  | other => exact .inl ⟨⟨fun _ _ => rfl, nofun⟩, rfl⟩
  | priceBook =>
    exact settled_applyAll (fun applicable => isSome_of_valid applicable.1) fun valid =>
      .inl ⟨⟨by simpa [Valid, describe] using valid, nofun⟩, rfl⟩
  | inventory =>
    exact settled_applyAll (fun applicable => isSome_of_valid applicable.1) fun valid =>
      .inl ⟨⟨by simpa [Valid, describe] using valid, nofun⟩, rfl⟩
  | catalog =>
    refine settled_applyAll (fun applicable => isSome_of_valid applicable.1) fun valid => ?_
    by_cases fits : Fits (foreignIds storeId tables) (batch.filterMap decoders.catalogItem)
    · rw [replaceCatalogItems_of_fits fits]
      exact .inl ⟨⟨by simpa [Valid, describe] using valid, fun _ => fits⟩, rfl⟩
    · obtain ⟨error, failed⟩ := replaceCatalogItems_of_not_fits fits
      rw [failed]
      exact .inr ⟨fun applicable => fits (applicable.2 rfl), ⟨_, rfl⟩, fun _ => rfl⟩

/-- A batch that was applied has written what it describes. -/
theorem wrote_applied (notStock : entity ≠ .inventory) (nonempty : batch ≠ []) {tables : SyncTables}
    (applicable : Applicable decoders storeId (foreignIds storeId tables) entity batch) :
    Wrote (Fresh decoders storeId entity batch) (Gone decoders storeId entity batch) (rows entity tables)
      (rows entity (applyEntityBatch decoders storeId now entity batch tables).2) := by
  by_cases each : rowByRow entity = true
  · have written := @wrote_each decoders storeId now entity each batch tables
    rwa [validPart_of_valid applicable.1] at written
  · cases entity with
    | categories | taxRules | promotions | customers | coupons | printTemplates => exact absurd rfl each
    | inventory => exact absurd rfl notStock
    | other name =>
      show Wrote (Latest SyncRow.clash (described decoders storeId (.other name) batch))
        (Struck SyncRow.clash (described decoders storeId (.other name) batch)) [] []
      rw [described_other]
      exact wrote_nil
    | catalog =>
      show Wrote (Latest SyncRow.clash (described decoders storeId .catalog batch)) _ _ _
      rw [applied_catalog (isSome_of_valid applicable.1) (applicable.2 rfl), described_catalog]
      refine wrote_replaced nonempty ?_ ?_ fun row => ?_
      · intro row member
        obtain ⟨item, _, rfl⟩ := List.mem_map.mp member
        rfl
      · intro row member later
        obtain ⟨item, _, rfl⟩ := List.mem_map.mp member
        cases later <;> rfl
      · simp only [rows, List.map_append, List.map_map, List.mem_append]
        exact or_congr (mem_foreign fun _ => rfl) Iff.rfl
    | priceBook =>
      show Wrote (Latest SyncRow.clash (described decoders storeId .priceBook batch)) _ _ _
      rw [applied_priceBook (isSome_of_valid applicable.1), described_priceBook]
      refine wrote_replaced nonempty ?_ ?_ fun row => ?_
      · intro row member
        obtain ⟨entry, _, rfl⟩ := List.mem_map.mp member
        rfl
      · intro row member later
        obtain ⟨entry, _, rfl⟩ := List.mem_map.mp member
        cases later <;> rfl
      · simp only [rows, SyncTables.replacePriceBookEntries, List.map_append, List.map_map, List.mem_append]
        exact or_congr (mem_foreign fun _ => rfl) Iff.rfl

end Apply

section Stock
variable {storeId : Uuid} {now : Timestamp}

/-- The catalog and the ledger show what a level says of its item. -/
def InForce (storeId : Uuid) (synced : SyncedLevel) (held : List SyncRow) : Prop :=
  (∀ columns, .stock ⟨storeId, synced.level.itemId, columns⟩ ∈ held → columns = synced.columns) ∧
    ∃ row, .ledger row ∈ held ∧ InventoryLedger.ofItem storeId synced.level.itemId row = true ∧
      row.hqBaselineQty = synced.level.availableQty

/-- The tables hold what a payload described. -/
def Held (storeId : Uuid) (held : List SyncRow) : SyncRow → Prop
  | .level synced => InForce storeId synced held
  | row => row ∈ held

def SameItem (synced other : SyncedLevel) : Bool := synced.level.itemId = other.level.itemId

/-- What an upsert of a ledger row leaves as the baseline of an item. -/
theorem upserted_baseline {set : InventoryStateRow → InventoryStateRow} {fresh : InventoryStateRow}
    {itemId wanted : Uuid} {wantedQty : Int} {rows : List InventoryStateRow}
    (own : fresh.storeId = storeId ∧ fresh.itemId = itemId)
    (keeps : ∀ row, (set row).storeId = row.storeId ∧ (set row).itemId = row.itemId)
    (told : itemId = wanted → fresh.hqBaselineQty = wantedQty ∧ ∀ row, (set row).hqBaselineQty = wantedQty)
    (held : itemId ≠ wanted → (rows.find? (InventoryLedger.ofItem storeId wanted)).any (·.hqBaselineQty = wantedQty)) :
    ((Table.upsert (InventoryLedger.ofItem storeId itemId) set fresh rows).find?
      (InventoryLedger.ofItem storeId wanted)).any (·.hqBaselineQty = wantedQty) := by
  obtain ⟨rfl, rfl⟩ := own
  have keyed (item : Uuid) : InventoryLedger.ofItem fresh.storeId item =
      fun row => decide ((row.storeId, row.itemId) = (fresh.storeId, item)) := by
    funext row
    simp [InventoryLedger.ofItem]
  simp only [keyed] at held ⊢
  rw [Table.find?_upsert (fun row : InventoryStateRow => (row.storeId, row.itemId)) set fresh
    fun row own => by rw [(keeps row).1, (keeps row).2]; exact own]
  split
  · rename_i same
    have own := told (Prod.mk.inj same).2.symm
    cases rows.find? fun row => decide ((row.storeId, row.itemId) = (fresh.storeId, fresh.itemId)) <;> simp [own]
  · rename_i other
    exact held fun same => other (by rw [same])

theorem rebased_baseline {itemId wanted : Uuid} {qty wantedQty : Int} {reflectedThrough : Timestamp}
    {tables : InventoryTables} (told : itemId = wanted → qty = wantedQty)
    (held : itemId ≠ wanted → (InventoryLedger.getInventoryState storeId wanted tables).any
      (·.hqBaselineQty = wantedQty)) :
    (InventoryLedger.getInventoryState storeId wanted
      (InventoryLedger.rebaseBaseline storeId itemId qty reflectedThrough now tables)).any
      (·.hqBaselineQty = wantedQty) := by
  unfold InventoryLedger.getInventoryState InventoryLedger.rebaseBaseline
  exact upserted_baseline ⟨rfl, rfl⟩ (fun _ => ⟨rfl, rfl⟩) (fun same => ⟨told same, fun _ => told same⟩) held

variable (storeId now) in
theorem reconcileLevel_eq (progress : ReconcileSummary × InventoryTables) (level : InventoryLevel) :
    ∃ reflectedThrough, (InventoryLedger.reconcileLevel storeId now progress level).2 =
      InventoryLedger.rebaseBaseline storeId level.itemId level.availableQty reflectedThrough now progress.2 :=
  ⟨_, rfl⟩

/-- After a reconciliation the catalog shows the last level of every item. -/
theorem stock_in_force {levels : List SyncedLevel} {synced : SyncedLevel} (latest : Latest SameItem levels synced)
    (catalog : List CatalogRow) :
    ∀ row ∈ levels.foldl (fun rows level => (SyncTables.setStock storeId level).run rows) catalog,
      row.item.id = synced.level.itemId → row.storeId = storeId → row.stock = synced.columns := by
  refine Latest.in_force (fun (synced : SyncedLevel) (catalog : List CatalogRow) => ∀ row ∈ catalog,
    row.item.id = synced.level.itemId → row.storeId = storeId → row.stock = synced.columns)
    (fun catalog write => ?_) (fun catalog write other apart held => ?_) latest catalog
  · intro row member own store
    obtain ⟨old, _, rfl⟩ := List.mem_map.mp member
    rcases (SyncTables.setStock storeId write).row_cases old with ⟨_, became⟩ | ⟨kept, became⟩
    · rw [became]
      rfl
    · rw [became] at own store
      simp [SyncTables.setStock, own, store] at kept
  · intro row member own store
    obtain ⟨old, present, rfl⟩ := List.mem_map.mp member
    rcases (SyncTables.setStock storeId write).row_cases old with ⟨selected, became⟩ | ⟨_, became⟩
    · rw [became] at own
      have target : old.item.id = write.level.itemId := by
        simp only [SyncTables.setStock, decide_eq_true_eq] at selected
        exact selected.1
      exact absurd (target.symm.trans own) (by simpa [SameItem] using apart)
    · rw [became] at own store ⊢
      exact held old present own store

/-- After a reconciliation the ledger is based on the last level of every item. -/
theorem ledger_in_force {levels : List SyncedLevel} {synced : SyncedLevel} (latest : Latest SameItem levels synced)
    (tables : InventoryTables) :
    (InventoryLedger.getInventoryState storeId synced.level.itemId
      (InventoryLedger.reconcileInventoryLevels storeId (levels.map SyncedLevel.level) now tables).2).any
      (·.hqBaselineQty = synced.level.availableQty) := by
  rw [InventoryLedger.reconcileInventoryLevels, List.foldl_map]
  refine Latest.in_force (fun (synced : SyncedLevel) (progress : ReconcileSummary × InventoryTables) =>
    (InventoryLedger.getInventoryState storeId synced.level.itemId progress.2).any
      (·.hqBaselineQty = synced.level.availableQty) = true)
    (fun progress write => ?_) (fun progress write other apart held => ?_) latest (⟨0, 0⟩, tables)
  · obtain ⟨reflectedThrough, rebased⟩ := reconcileLevel_eq storeId now progress write.level
    rw [rebased]
    exact rebased_baseline (fun _ => rfl) fun other => absurd rfl other
  · obtain ⟨reflectedThrough, rebased⟩ := reconcileLevel_eq storeId now progress write.level
    rw [rebased]
    exact rebased_baseline (fun same => absurd same (by simpa [SameItem] using apart)) fun _ => held

theorem level_in_force {levels : List SyncedLevel} {synced : SyncedLevel} (latest : Latest SameItem levels synced)
    (tables : SyncTables) :
    InForce storeId synced (rows .inventory (tables.reconcileInventoryLevels storeId levels now)) := by
  constructor
  · intro columns member
    rcases List.mem_append.mp member with stock | ledger
    · obtain ⟨row, present, same⟩ := List.mem_map.mp stock
      obtain ⟨store, own⟩ := StoreRow.mk.inj (SyncRow.stock.inj same)
      obtain ⟨item, shown⟩ := Prod.mk.inj own
      exact shown ▸ stock_in_force latest tables.catalogItems row present item store
    · obtain ⟨row, _, same⟩ := List.mem_map.mp ledger
      cases same
  · have based := @ledger_in_force storeId now levels synced latest tables.inventory
    obtain ⟨row, found, baseline⟩ := (Option.any_eq_true _ _).mp based
    exact ⟨row, List.mem_append_right _ (List.mem_map_of_mem (List.mem_of_find?_eq_some found)),
      List.find?_some found, of_decide_eq_true baseline⟩

theorem latest_of_map {Write : Type} {wrap : Write → SyncRow} {same : Write → Write → Bool}
    (kind : ∀ write other, SyncRow.clash (wrap write) (wrap other) = same write other)
    {writes : List Write} {row : SyncRow} (latest : Latest SyncRow.clash (writes.map wrap) row) :
    ∃ write, row = wrap write ∧ Latest same writes write := by
  induction writes with
  | nil => exact latest.elim
  | cons write writes ih =>
    rcases latest with still | ⟨rfl, unchallenged⟩
    · obtain ⟨found, wrapped, latest⟩ := ih still
      exact ⟨found, wrapped, .inl latest⟩
    · refine ⟨write, rfl, .inr ⟨rfl, fun next member => ?_⟩⟩
      rw [← kind]
      exact unchallenged _ (List.mem_map_of_mem member)

theorem held_of_mem {entity : SyncEntity} {tables : SyncTables} {row : SyncRow} (member : row ∈ rows entity tables) :
    Held storeId (rows entity tables) row := by
  cases row with
  | level => cases entity <;> simp [rows, stockRow] at member
  | _ => exact member

/-- What an applied batch described last is held. -/
theorem held_applied {decoders : Decoders} {entity : SyncEntity} {batch : List Payload} {tables : SyncTables}
    (nonempty : batch ≠ []) (applicable : Applicable decoders storeId (foreignIds storeId tables) entity batch)
    {row : SyncRow} (fresh : Fresh decoders storeId entity batch row) :
    Held storeId (rows entity (applyEntityBatch decoders storeId now entity batch tables).2) row := by
  by_cases stock : entity = .inventory
  · subst stock
    rw [Fresh, described_inventory] at fresh
    obtain ⟨synced, rfl, latest⟩ := latest_of_map (fun _ _ => rfl) fresh
    rw [applied_inventory (isSome_of_valid applicable.1)]
    exact level_in_force latest tables
  · exact held_of_mem (((wrote_applied stock nonempty applicable).mem_iff row).mpr (.inl fresh))

end Stock

section Frames
variable {decoders : Decoders} {storeId : Uuid} {now : Timestamp} {entity other : SyncEntity} {batch : List Payload}
variable {tables : SyncTables}

/-- Levels change nothing in the catalog but the stock columns. -/
theorem setStock_column {Column : Type} (column : CatalogRow → Column)
    (unset : ∀ row (stock : StockColumns), column { row with stock := stock } = column row) (levels : List SyncedLevel)
    (catalog : List CatalogRow) :
    ((levels.foldl (fun rows synced => (SyncTables.setStock storeId synced).run rows) catalog).map column) =
      catalog.map column := by
  induction levels generalizing catalog with
  | nil => rfl
  | cons level levels ih =>
    rw [List.foldl_cons, ih, Table.Update.run, List.map_map]
    exact List.map_congr_left fun row _ =>
      Table.Update.row_column _ column (fun old => unset old level.columns) row

theorem foreignIds_eq : foreignIds storeId tables =
    ((tables.catalogItems.map fun row => (row.storeId, row.item.id)).filter (·.1 ≠ storeId)).map Prod.snd := by
  rw [foreignIds, List.filter_map, List.map_map]
  rfl

variable (decoders storeId now) in
/-- What is not written row by row is applied whole, or not at all. -/
theorem whole_or_none (entity : SyncEntity) (whole : rowByRow entity = false) (batch : List Payload)
    (tables : SyncTables) : Applicable decoders storeId (foreignIds storeId tables) entity batch ∨
      (applyEntityBatch decoders storeId now entity batch tables).2 = tables := by
  rcases @settled_apply decoders storeId now entity batch tables with ⟨applicable, _⟩ | ⟨_, _, same⟩
  · exact .inl applicable
  · exact .inr (same whole)

/-- The tables of the other entities stay, but a new catalog has no stock. -/
theorem apply_rows (apart : entity ≠ other) (uncleared : ¬(entity = .catalog ∧ other = .inventory)) (batch : List Payload)
    (tables : SyncTables) :
    rows other (applyEntityBatch decoders storeId now entity batch tables).2 = rows other tables := by
  cases entity with
  | categories | taxRules | promotions | customers | coupons | printTemplates =>
    exact insertEach_keeps (rows other) (fun _ _ => by cases other <;> first | rfl | exact absurd rfl apart) batch tables
  | other => rfl
  | catalog =>
    rcases whole_or_none decoders storeId now .catalog rfl batch tables with applicable | same
    · rw [applied_catalog (isSome_of_valid applicable.1) (applicable.2 rfl)]
      cases other with
      | catalog => exact absurd rfl apart
      | inventory => exact absurd ⟨rfl, rfl⟩ uncleared
      | _ => rfl
    · rw [same]
  | priceBook =>
    rcases whole_or_none decoders storeId now .priceBook rfl batch tables with applicable | same
    · rw [applied_priceBook (isSome_of_valid applicable.1)]
      cases other with
      | priceBook => exact absurd rfl apart
      | _ => rfl
    · rw [same]
  | inventory =>
    rcases whole_or_none decoders storeId now .inventory rfl batch tables with applicable | same
    · rw [applied_inventory (isSome_of_valid applicable.1)]
      cases other with
      | inventory => exact absurd rfl apart
      | catalog => exact setStock_column _ (fun _ _ => rfl) _ tables.catalogItems
      | _ => rfl
    · rw [same]

/-- No batch touches the items of other stores. -/
theorem apply_foreignIds (batch : List Payload) (tables : SyncTables) :
    foreignIds storeId (applyEntityBatch decoders storeId now entity batch tables).2 = foreignIds storeId tables := by
  cases entity with
  | categories | taxRules | promotions | customers | coupons | printTemplates =>
    exact insertEach_keeps (foreignIds storeId) (fun _ _ => by rfl) batch tables
  | other => rfl
  | catalog =>
    rcases whole_or_none decoders storeId now .catalog rfl batch tables with applicable | same
    · rw [applied_catalog (isSome_of_valid applicable.1) (applicable.2 rfl)]
      simp [foreignIds, List.filter_append, List.filter_map, Function.comp_def]
    · rw [same]
  | priceBook =>
    rcases whole_or_none decoders storeId now .priceBook rfl batch tables with applicable | same
    · rw [applied_priceBook (isSome_of_valid applicable.1)]
      rfl
    · rw [same]
  | inventory =>
    rcases whole_or_none decoders storeId now .inventory rfl batch tables with applicable | same
    · rw [applied_inventory (isSome_of_valid applicable.1), foreignIds_eq, foreignIds_eq]
      have column := @setStock_column storeId _ (fun row => (row.storeId, row.item.id)) (fun _ _ => rfl)
        (batch.filterMap decoders.inventoryLevel) tables.catalogItems
      exact congrArg (fun ids => (ids.filter (·.1 ≠ storeId)).map Prod.snd) column
    · rw [same]

/-- Applying a batch moves no checkpoint. -/
theorem apply_checkpoints (batch : List Payload) (tables : SyncTables) :
    (applyEntityBatch decoders storeId now entity batch tables).2.checkpoints = tables.checkpoints := by
  cases entity with
  | categories | taxRules | promotions | customers | coupons | printTemplates =>
    exact insertEach_keeps SyncTables.checkpoints (fun _ _ => by rfl) batch tables
  | other => rfl
  | catalog =>
    rcases whole_or_none decoders storeId now .catalog rfl batch tables with applicable | same
    · rw [applied_catalog (isSome_of_valid applicable.1) (applicable.2 rfl)]
    · rw [same]
  | priceBook =>
    rcases whole_or_none decoders storeId now .priceBook rfl batch tables with applicable | same
    · rw [applied_priceBook (isSome_of_valid applicable.1)]
      rfl
    · rw [same]
  | inventory =>
    rcases whole_or_none decoders storeId now .inventory rfl batch tables with applicable | same
    · rw [applied_inventory (isSome_of_valid applicable.1)]
      rfl
    · rw [same]

/-- A new item of the catalog has no stock. -/
def Unstocked (decoders : Decoders) (storeId : Uuid) (batch : List Payload) (row : SyncRow) : Prop :=
  row ∈ (batch.filterMap decoders.catalogItem).map fun item => SyncRow.stock ⟨storeId, item.id, .unset⟩

def StockOf (storeId : Uuid) (row : SyncRow) : Prop := ∃ columns, row = .stock ⟨storeId, columns⟩

/-- What a new catalog leaves of the stock. -/
theorem wrote_stock (applicable : Applicable decoders storeId (foreignIds storeId tables) .catalog batch) :
    Wrote (Unstocked decoders storeId batch) (StockOf storeId) (rows .inventory tables)
      (rows .inventory (applyEntityBatch decoders storeId now .catalog batch tables).2) where
  mem_iff row := by
    rw [applied_catalog (isSome_of_valid applicable.1) (applicable.2 rfl)]
    simp only [rows, Unstocked, StockOf, List.map_append, List.map_map, List.mem_append, List.mem_map, List.mem_filter,
      Function.comp_apply, stockRow, decide_eq_true_eq]
    constructor
    · rintro ((⟨old, ⟨present, foreign⟩, rfl⟩ | ⟨item, member, rfl⟩) | ⟨ledger, present, rfl⟩)
      · refine .inr ⟨.inl ⟨old, present, rfl⟩, ?_⟩
        rintro ⟨columns, same⟩
        exact foreign (congrArg StoreRow.storeId (SyncRow.stock.inj same))
      · exact .inl ⟨item, member, rfl⟩
      · refine .inr ⟨.inr ⟨ledger, present, rfl⟩, ?_⟩
        rintro ⟨columns, same⟩
        cases same
    · rintro (⟨item, member, rfl⟩ | ⟨⟨old, present, rfl⟩ | ⟨ledger, present, rfl⟩, foreign⟩)
      · exact .inl (.inr ⟨item, member, rfl⟩)
      · exact .inl (.inl ⟨old, ⟨present, fun own => foreign ⟨_, by rw [own]⟩⟩, rfl⟩)
      · exact .inr ⟨ledger, present, rfl⟩
  replaces row unstocked := by
    obtain ⟨item, _, rfl⟩ := List.mem_map.mp unstocked
    exact ⟨_, rfl⟩

end Frames
end ApexEdge.Proofs.SyncedRows
