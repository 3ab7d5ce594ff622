import ApexEdge.Hub.CatalogSearch

/-! Which pages of the catalog are exact. A page runs over where its offset does not fit 32
bits, and depends on SQLite's choice where items of one name stand on both sides of an end. -/

namespace ApexEdge.Proofs.CatalogPaging
open Payment Domain Library.Paging Sync Hub.CatalogSearch

/-- How many items a page shows. -/
def pageSize (perPage : Nat) : Nat := clamp 1 100 perPage

/-- The rank at which a page starts. -/
def firstRank (page perPage : Nat) : Nat := (max page 1 - 1) * pageSize perPage

section Pages
variable (catalog : Catalog) (storeId : Uuid) (categoryId : Option Uuid) (q : Option String)

/-- A page has the items of its ranks in the order, however SQLite lists them for it. -/
def PageExact (order : Arrangement itemName (matching catalog storeId categoryId q)) (page perPage : Nat) : Prop :=
  ∀ other : NameOrder, (listPage other catalog storeId categoryId q page perPage).items.Perm
    (window (firstRank page perPage) (pageSize perPage) order.listed)

/-- The page's first rank fits 32 bits and no name stands on both sides of one of its ends; or
it does not, and the rank that it wraps to is past the last item as well. -/
def PageWhole (page perPage : Nat) : Prop :=
  let names := keysOf itemName (matching catalog storeId categoryId q)
  let first := firstRank page perPage
  (first < 2 ^ 32 ∧ ¬Splits names first ∧ ¬Splits names (first + pageSize perPage)) ∨
    2 ^ 32 ≤ first ∧ (matching catalog storeId categoryId q).length ≤ first % 2 ^ 32

variable {catalog storeId categoryId q} {page perPage : Nat}

theorem pageSize_pos (perPage : Nat) : 0 < pageSize perPage := by
  unfold pageSize clamp
  omega

theorem pageSize_le (perPage : Nat) : pageSize perPage ≤ 100 := by
  unfold pageSize clamp
  omega

theorem firstRank_succ (page perPage : Nat) : firstRank (page + 1) perPage = page * pageSize perPage := by
  rw [firstRank, Nat.max_eq_left (by omega), Nat.add_sub_cancel]

theorem matching_distinct (catalog : Catalog) : (matching catalog storeId categoryId q).Nodup :=
  (List.Nodup.of_map _ catalog.ids).filter _

theorem listed_items (order : NameOrder) : (listPage order catalog storeId categoryId q page perPage).items =
    window (firstRank page perPage % 2 ^ 32) (pageSize perPage) (order (matching catalog storeId categoryId q)).listed := by
  have clamped : clamp 1 100 (pageSize perPage) = pageSize perPage := by
    unfold pageSize clamp
    omega
  show window _ (clamp 1 100 (pageSize perPage)) _ = _
  rw [clamped]
  rfl

/-- Every arrangement of the items of a listing is one that SQLite may choose. -/
theorem order_chosen {rows : List CatalogRow} (arrangement : Arrangement itemName rows) :
    ∃ order : NameOrder, order rows = arrangement :=
  ⟨Function.update (fun rows => arranged itemName rows) rows arrangement, Function.update_self _ _ _⟩

theorem page_exact_iff (order : Arrangement itemName (matching catalog storeId categoryId q)) :
    PageExact catalog storeId categoryId q order page perPage ↔ PageWhole catalog storeId categoryId q page perPage := by
  have positive := pageSize_pos perPage
  have small := pageSize_le perPage
  have distinct := @matching_distinct storeId categoryId q catalog
  have chosen : PageExact catalog storeId categoryId q order page perPage ↔
      ∀ other : Arrangement itemName (matching catalog storeId categoryId q),
        (window (firstRank page perPage % 2 ^ 32) (pageSize perPage) other.listed).Perm
          (window (firstRank page perPage) (pageSize perPage) order.listed) := by
    refine ⟨fun exact other => ?_, fun always other => ?_⟩
    · obtain ⟨choice, same⟩ := order_chosen other
      rw [← same, ← listed_items]
      exact exact choice
    · rw [listed_items]
      exact always _
  rw [chosen, PageWhole]
  rcases Nat.lt_or_ge (firstRank page perPage) (2 ^ 32) with fits | wraps
  · rw [Nat.mod_eq_of_lt fits, window_perm_iff distinct order positive]
    exact ⟨fun whole => .inl ⟨fits, whole⟩, fun either => either.elim And.right fun beyond => absurd fits (by omega)⟩
  · have behind : firstRank page perPage % 2 ^ 32 + pageSize perPage ≤ firstRank page perPage := by omega
    have count := order.perm.length_eq
    constructor
    · intro always
      have none := window_apart (order.perm.nodup_iff.mpr distinct) positive behind (always order)
      exact .inr ⟨wraps, by omega⟩
    · rintro (⟨fits, -⟩ | ⟨-, beyond⟩)
      · omega
      · intro other
        have others := other.perm.length_eq
        rw [window, window, List.drop_of_length_le (by omega), List.drop_of_length_le (by omega)]

end Pages

/-- For every catalog and filter: a page is exact exactly when it is whole; exact pages that
cover the matching items have each of them once; and an exact page past them is empty. -/
theorem catalog_page_exact_iff (catalog : Catalog) (storeId : Uuid) (categoryId : Option Uuid) (q : Option String)
    (order : Arrangement itemName (matching catalog storeId categoryId q)) (perPage : Nat) :
    (∀ page, PageExact catalog storeId categoryId q order page perPage ↔
      PageWhole catalog storeId categoryId q page perPage) ∧
    (∀ (pages : Nat) (orders : Nat → NameOrder),
      (∀ page < pages, PageExact catalog storeId categoryId q order (page + 1) perPage) →
      (matching catalog storeId categoryId q).length ≤ pages * pageSize perPage →
      ((List.range pages).flatMap fun page =>
        (listPage (orders page) catalog storeId categoryId q (page + 1) perPage).items).Perm
          (matching catalog storeId categoryId q)) ∧
    ∀ page, PageExact catalog storeId categoryId q order page perPage →
      (matching catalog storeId categoryId q).length ≤ firstRank page perPage →
      ∀ other : NameOrder, (listPage other catalog storeId categoryId q page perPage).items = [] := by
  refine ⟨fun page => page_exact_iff order, fun pages orders exact covers => ?_, fun page exact past other => ?_⟩
  · refine walk_perm order (fun page within => ?_) covers
    rw [← firstRank_succ]
    exact exact page within (orders page)
  · have none : window (firstRank page perPage) (pageSize perPage) order.listed = [] := by
      rw [window, List.drop_of_length_le (by rw [order.perm.length_eq]; exact past), List.take_nil]
    have same := exact other
    rw [none] at same
    exact same.eq_nil

section Catalogs

def coffee (id : Nat) (sku : String) : CatalogRow :=
  ⟨.random 9, ⟨.random id, sku, "Coffee", none, .random 8, .random 7, true, none⟩, .unset⟩

def oneCoffee : Catalog := ⟨[coffee 1 "C-1"], by decide, by decide⟩

/-- Two items of one name. -/
def twoCoffees : Catalog := ⟨[coffee 1 "C-1", coffee 2 "C-2"], by decide, by decide⟩

def asInserted : NameOrder := arranged itemName

/-- Items of one name in the order opposite to the table's. -/
def latestFirst : NameOrder := fun rows =>
  let backward := arranged itemName rows.reverse
  ⟨backward.listed, backward.perm.trans (List.reverse_perm rows), backward.sorted⟩

/-- A page far past the end shows the first item again, and of two items of one name both
pages may show the same. -/
theorem pages_repeat_items :
    (listPage asInserted oneCoffee (.random 9) none none 67108865 64).items = [coffee 1 "C-1"] ∧
    (listPage asInserted twoCoffees (.random 9) none none 1 1).items = [coffee 1 "C-1"] ∧
    (listPage latestFirst twoCoffees (.random 9) none none 2 1).items = [coffee 1 "C-1"] := by
  decide +kernel

end Catalogs
end ApexEdge.Proofs.CatalogPaging
