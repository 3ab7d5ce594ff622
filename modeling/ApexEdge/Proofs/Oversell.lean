import ApexEdge.Library.Sequence
import ApexEdge.Library.Totals
import ApexEdge.Proofs.Reservations
import ApexEdge.Proofs.StepEffects

/-! What has been ordered of a tracked item against what there was of it. The guard of
a reservation bounds what is held and sold; that every order is held for is left to
whoever writes it. -/

namespace ApexEdge.Proofs.Oversell
open Library Payment Domain Storage InventoryLedger Reservations Table

structure SaleTables where
  inventory : InventoryTables
  orders : List NewOrderLedgerEntry

/-- A ledger operation, or the order of a finalized sale. Cart edits reach the ledger
through reservations and releases only. -/
inductive SaleStep where
  | stock (operation : Operation)
  | order (entry : NewOrderLedgerEntry)

def SaleStep.run (step : SaleStep) (now : Timestamp) (tables : SaleTables) : SaleTables :=
  match step with
  | .stock operation => { tables with inventory := operation.run now tables.inventory }
  | .order entry =>
    match Orders.write entry tables.orders with
    | .ok orders => { tables with orders := orders }
    | .error _ => tables

def applyStep (tables : SaleTables) (step : SaleStep × Timestamp) : SaleTables := step.1.run step.2 tables

/-- The units of an item on an order. -/
def unitsOn (itemId : Uuid) (order : NewOrderLedgerEntry) : Int :=
  ((order.lines.filter (·.itemId = itemId)).map fun line => (line.quantity : Int)).sum

/-- The units of an item on all orders of the store. -/
def ordered (storeId itemId : Uuid) (orders : List NewOrderLedgerEntry) : Int :=
  total (·.storeId = storeId) (unitsOn itemId) orders

/-- The units of an item on the orders of one cart. -/
def orderedBy (storeId itemId cartId : Uuid) (orders : List NewOrderLedgerEntry) : Int :=
  total (fun order => decide (order.storeId = storeId) && decide (order.cartId = cartId)) (unitsOn itemId) orders

def isCommittedOf (storeId itemId : Uuid) (row : ReservationRow) : Bool :=
  row.state = .committed ∧ row.storeId = storeId ∧ row.itemId = itemId

/-- Units that are held, or were until they were sold. -/
def isBackingOf (storeId itemId : Uuid) (row : ReservationRow) : Bool :=
  (row.state = .active ∨ row.state = .committed) ∧ row.storeId = storeId ∧ row.itemId = itemId

/-- The units of an item that stand behind a cart. -/
def backing (storeId itemId cartId : Uuid) (rows : List ReservationRow) : Int :=
  units (fun row => isBackingOf storeId itemId row && decide (row.cartId = cartId)) rows

/-- The local stock movement of an item by a step. -/
def delta (storeId itemId : Uuid) (step : SaleStep × Timestamp) : Int :=
  match step.1 with
  | .stock (.applyDelta store item delta) => if store = storeId ∧ item = itemId then delta else 0
  | _ => 0

/-- No rebase on a count of headquarters, and no stock movement out of the store. -/
def Ordinary (step : SaleStep × Timestamp) : Prop :=
  match step.1 with
  | .stock (.applyDelta _ _ delta) => 0 ≤ delta
  | .stock (.rebase ..) | .stock (.reconcile ..) => False
  | _ => True

/-- What the selected reservations leave standing behind each cart covers its orders. -/
def LeavesBacking (storeId itemId : Uuid) (selects : ReservationRow → Bool) (tables : SaleTables) : Prop :=
  ∀ row ∈ tables.inventory.reservations,
    orderedBy storeId itemId row.cartId tables.orders ≤
      backing storeId itemId row.cartId (tables.inventory.reservations.filter fun other =>
        !(other.state = .active ∧ selects other))

/-- An order is new, and its units of the item are still behind its cart when it is
written; a release or an expiry takes nothing that an order stands on. -/
def Backed (storeId itemId : Uuid) (tables : SaleTables) (step : SaleStep × Timestamp) : Prop :=
  match step.1 with
  | .order entry =>
    (∀ order ∈ tables.orders, order.orderId ≠ entry.orderId) ∧
      (entry.storeId = storeId →
        orderedBy storeId itemId entry.cartId tables.orders + unitsOn itemId entry ≤
          backing storeId itemId entry.cartId tables.inventory.reservations)
  | .stock (.releaseLine store lineId) => LeavesBacking storeId itemId (ofLine store lineId) tables
  | .stock (.releaseCart store cartId) => LeavesBacking storeId itemId (ofCart store cartId) tables
  | .stock .expire => LeavesBacking storeId itemId (isStale step.2) tables
  | _ => True

instance (step : SaleStep × Timestamp) : Decidable (Ordinary step) := by
  unfold Ordinary
  split <;> infer_instance

instance (storeId itemId : Uuid) (selects : ReservationRow → Bool) (tables : SaleTables) :
    Decidable (LeavesBacking storeId itemId selects tables) := inferInstanceAs (Decidable (∀ _ ∈ _, _))

instance (storeId itemId : Uuid) (tables : SaleTables) (step : SaleStep × Timestamp) :
    Decidable (Backed storeId itemId tables step) := by
  unfold Backed
  split <;> infer_instance

/-- A tracked item: its row, what it is accounted for, and what stands behind the carts. -/
structure Stocked (storeId itemId : Uuid) (tables : SaleTables) (row : InventoryStateRow) : Prop where
  accounted : Accounted tables.inventory
  tracked : row ∈ tables.inventory.inventoryState
  key : itemKey row = (storeId, itemId)
  within : 0 ≤ row.uncommitted
  sold : units (isCommittedOf storeId itemId) tables.inventory.reservations ≤ row.soldSinceSyncQty
  covered : ∀ cartId, orderedBy storeId itemId cartId tables.orders ≤
    backing storeId itemId cartId tables.inventory.reservations

section Bound
variable {storeId itemId : Uuid} {tables : SaleTables} {row : InventoryStateRow}

/-- Cart by cart, what is ordered is covered; so it is all told. -/
theorem ordered_le_backing (stocked : Stocked storeId itemId tables row) :
    ordered storeId itemId tables.orders ≤
      units (isBackingOf storeId itemId) tables.inventory.reservations := by
  let carts : Finset Uuid := (tables.orders.map (·.cartId) ++ tables.inventory.reservations.map (·.cartId)).toFinset
  have orders : ∀ order ∈ tables.orders, order.cartId ∈ carts := fun order member => by
    simp only [carts, List.mem_toFinset, List.mem_append, List.mem_map]
    exact .inl ⟨order, member, rfl⟩
  have reservations : ∀ row ∈ tables.inventory.reservations, row.cartId ∈ carts := fun row member => by
    simp only [carts, List.mem_toFinset, List.mem_append, List.mem_map]
    exact .inr ⟨row, member, rfl⟩
  calc ordered storeId itemId tables.orders
      = ∑ cartId ∈ carts, orderedBy storeId itemId cartId tables.orders := (total_by_key _ orders).symm
    _ ≤ ∑ cartId ∈ carts, backing storeId itemId cartId tables.inventory.reservations :=
        Finset.sum_le_sum fun cartId _ => stocked.covered cartId
    _ = units (isBackingOf storeId itemId) tables.inventory.reservations := total_by_key _ reservations

theorem ordered_le_stock (stocked : Stocked storeId itemId tables row) :
    ordered storeId itemId tables.orders ≤ row.hqBaselineQty + row.localAdjustQty := by
  have covered := ordered_le_backing stocked
  have split : units (isBackingOf storeId itemId) tables.inventory.reservations =
      units (isActiveOf storeId itemId) tables.inventory.reservations +
        units (isCommittedOf storeId itemId) tables.inventory.reservations := by
    apply total_split
    · intro row
      simp only [isActiveOf, isCommittedOf, decide_eq_true_eq]
      rintro ⟨⟨active, _⟩, committed, _⟩
      cases active.symm.trans committed
    · intro row
      simp only [isBackingOf, isActiveOf, isCommittedOf, ← Bool.decide_or, or_and_right]
  have reserved := stocked.accounted.reserved row stocked.tracked
  have key := stocked.key
  simp only [itemKey, Prod.mk.injEq] at key
  rw [key.1, key.2] at reserved
  have within := stocked.within
  have sold := stocked.sold
  simp only [InventoryStateRow.uncommitted] at within
  omega

end Bound
section Steps
variable {storeId itemId : Uuid} {tables : SaleTables} {row : InventoryStateRow}

/-- The item after a step: the same baseline, and the stock movement of the step. -/
def StaysStocked (storeId itemId : Uuid) (row : InventoryStateRow) (moved : Int) (after : SaleTables) : Prop :=
  ∃ next, Stocked storeId itemId after next ∧ next.hqBaselineQty = row.hqBaselineQty ∧
    next.localAdjustQty = row.localAdjustQty + moved

/-- How reservations are marked when they are closed. -/
def closing (selects : ReservationRow → Bool) (closed : ReservationState) (now : Timestamp) : Update ReservationRow :=
  { selects := fun row => row.state = .active ∧ selects row
    set := fun row => { row with state := closed, updatedAt := now } }

/-- The units of closed reservations are committed ones if they were sold. -/
theorem committed_closing (selects : ReservationRow → Bool) (closed : ReservationState) (now : Timestamp)
    (rows : List ReservationRow) :
    units (isCommittedOf storeId itemId) ((closing selects closed now).run rows) =
      units (isCommittedOf storeId itemId) rows +
        if closed = .committed then units (isOf storeId itemId) (rows.filter (closing selects closed now).selects)
        else 0 := by
  induction rows with
  | nil => simp [Update.run]
  | cons row rows ih =>
    rw [Update.run] at ih ⊢
    rcases (closing selects closed now).row_cases row with ⟨selected, became⟩ | ⟨kept, became⟩
    · have active : row.state = .active := (of_decide_eq_true selected).1
      have uncounted : isCommittedOf storeId itemId row = false := by simp [isCommittedOf, active]
      have counted : isCommittedOf storeId itemId ((closing selects closed now).set row) =
          (decide (closed = .committed) && isOf storeId itemId row) := by
        simp only [isCommittedOf, isOf, closing, Bool.decide_and]
      rw [List.map_cons, became, units_cons, units_cons, ih, List.filter_cons_of_pos selected, units_cons, uncounted,
        counted]
      by_cases sells : closed = .committed
      · subst sells
        have amount : ((closing selects .committed now).set row).qty = row.qty := rfl
        simp only [amount, decide_true, Bool.true_and, Bool.false_eq_true, if_true, if_false]
        omega
      · simp [sells]
    · rw [List.map_cons, became, units_cons, units_cons, ih, List.filter_cons_of_neg (by simp [kept])]
      omega

/-- Reservations are closed, and what they leave covers the orders. -/
theorem closed_stocked (stocked : Stocked storeId itemId tables row) (selects : ReservationRow → Bool)
    {closed : ReservationState} (closes : closed ≠ .active) (now : Timestamp)
    (covered : ∀ cartId, orderedBy storeId itemId cartId tables.orders ≤ backing storeId itemId cartId
      (closeReservations lessHeld selects closed now tables.inventory).2.reservations) :
    StaysStocked storeId itemId row 0
      { tables with inventory := (closeReservations lessHeld selects closed now tables.inventory).2 } := by
  have accounted : Accounted (closeReservations lessHeld selects closed now tables.inventory).2 :=
    (closeReservations_accounted stocked.accounted selects closes).1
  let rows := tables.inventory.reservations.filter fun row => row.state = .active ∧ selects row
  obtain ⟨key, baseline, adjust, sold⟩ := closeRow_sold lessHeld (closed = .committed) now rows row
  have own := stocked.key
  simp only [itemKey, Prod.mk.injEq] at own
  rw [own.1, own.2] at sold
  have tracked : closeRow lessHeld (closed = .committed) now rows row ∈
      (closeReservations lessHeld selects closed now tables.inventory).2.inventoryState := by
    simp only [closeReservations, Table.foldl_run]
    exact List.mem_map_of_mem stocked.tracked
  have before := stocked.accounted.reserved row stocked.tracked
  have after := accounted.reserved _ tracked
  have same := key.trans stocked.key
  simp only [itemKey, Prod.mk.injEq] at same
  rw [own.1, own.2] at before
  rw [same.1, same.2] at after
  have taken : units (isActiveOf storeId itemId)
      (closeReservations lessHeld selects closed now tables.inventory).2.reservations =
      units (isActiveOf storeId itemId) tables.inventory.reservations - units (isOf storeId itemId) rows :=
    units_marked (fun _ selected => (of_decide_eq_true selected).1) fun _ => closes
  have nonneg : 0 ≤ units (isOf storeId itemId) rows :=
    units_nonneg _ fun row member => stocked.accounted.positive row (List.mem_filter.mp member).1
  have within := stocked.within
  refine ⟨_, ⟨accounted, tracked, key.trans stocked.key, ?_, ?_, covered⟩, baseline, by rw [adjust]; omega⟩
  · simp only [InventoryStateRow.uncommitted] at within ⊢
    rw [baseline, adjust, sold, after, taken]
    split <;> omega
  · have committed : units (isCommittedOf storeId itemId)
        (closeReservations lessHeld selects closed now tables.inventory).2.reservations =
        units (isCommittedOf storeId itemId) tables.inventory.reservations +
          if closed = .committed then units (isOf storeId itemId) rows else 0 := committed_closing selects closed now _
    have before := stocked.sold
    rw [committed, sold]
    by_cases sells : closed = .committed
    · simp only [sells, decide_true, if_true]
      omega
    · simp only [sells, decide_false, Bool.false_eq_true, if_false]
      omega

/-- A sale turns what is held into what was held. -/
theorem commit_stocked (stocked : Stocked storeId itemId tables row) (selects : ReservationRow → Bool)
    (now : Timestamp) :
    StaysStocked storeId itemId row 0
      { tables with inventory := (closeReservations lessHeld selects .committed now tables.inventory).2 } := by
  refine closed_stocked stocked selects (by decide) now fun cartId => ?_
  have same : backing storeId itemId cartId
      (closeReservations lessHeld selects .committed now tables.inventory).2.reservations =
      backing storeId itemId cartId tables.inventory.reservations := by
    refine @total_run _ _ _ _ (closing selects .committed now) (fun row => ?_) fun row => ?_
    · rcases (closing selects .committed now).row_cases row with ⟨selected, became⟩ | ⟨_, became⟩
      · have active : row.state = .active := (of_decide_eq_true selected).1
        rw [became]
        simp [isBackingOf, closing, active]
      · rw [became]
    · exact (closing selects .committed now).row_column ReservationRow.qty (fun _ => rfl) row
  rw [same]
  exact stocked.covered cartId

/-- Units go back, and the orders still stand on what is left. -/
theorem freed_stocked (stocked : Stocked storeId itemId tables row) (selects : ReservationRow → Bool)
    {closed : ReservationState} (closes : closed = .released ∨ closed = .expired) (now : Timestamp)
    (leaves : LeavesBacking storeId itemId selects tables) :
    StaysStocked storeId itemId row 0
      { tables with inventory := (closeReservations lessHeld selects closed now tables.inventory).2 } := by
  refine closed_stocked stocked selects (by rcases closes with rfl | rfl <;> decide) now fun cartId => ?_
  have left : backing storeId itemId cartId
      (closeReservations lessHeld selects closed now tables.inventory).2.reservations =
      backing storeId itemId cartId (tables.inventory.reservations.filter fun other =>
        !(other.state = .active ∧ selects other)) := by
    refine @total_dropped _ _ _ _ (closing selects closed now) fun row _ => ?_
    rcases closes with rfl | rfl <;> simp [isBackingOf, closing]
  rw [left]
  by_cases known : ∃ row ∈ tables.inventory.reservations, row.cartId = cartId
  · obtain ⟨row, member, rfl⟩ := known
    exact leaves row member
  · -- Nothing stood behind such a cart before.
    have none : ∀ rows : List ReservationRow, (∀ row ∈ rows, row ∈ tables.inventory.reservations) →
        backing storeId itemId cartId rows = 0 := by
      intro rows within
      refine units_none fun row member => ?_
      have other : row.cartId ≠ cartId := fun same => known ⟨row, within row member, same⟩
      simp [other]
    have before := stocked.covered cartId
    rw [none _ fun _ member => member] at before
    rw [none _ fun _ member => (List.mem_filter.mp member).1]
    exact before

theorem stays_stocked (stocked : Stocked storeId itemId tables row) : StaysStocked storeId itemId row 0 tables :=
  ⟨row, stocked, rfl, by omega⟩

/-- Other rows come and go; the row of the item, the reservations and the orders stay. -/
theorem rows_stocked (stocked : Stocked storeId itemId tables row) {after : InventoryTables}
    (accounted : Accounted after) (tracked : row ∈ after.inventoryState)
    (reservations : after.reservations = tables.inventory.reservations) :
    StaysStocked storeId itemId row 0 { tables with inventory := after } :=
  ⟨row, ⟨accounted, tracked, stocked.key, stocked.within, reservations ▸ stocked.sold,
    reservations ▸ stocked.covered⟩, rfl, by omega⟩

theorem seed_stocked (stocked : Stocked storeId itemId tables row) (store : Uuid) (catalog : List CatalogStock)
    (now : Timestamp) :
    StaysStocked storeId itemId row 0
      { tables with inventory := (seedFromCatalog store catalog now tables.inventory).2 } := by
  have accounted : Accounted (seedFromCatalog store catalog now tables.inventory).2 :=
    seed_accounted stocked.accounted store catalog
  unfold seedFromCatalog at accounted ⊢
  dsimp only at accounted ⊢
  split at accounted
  next distinct =>
    rw [if_pos distinct]
    exact rows_stocked stocked accounted (List.mem_append_left _ stocked.tracked) rfl
  next clash =>
    rw [if_neg clash]
    exact stays_stocked stocked

theorem ensure_stocked (stocked : Stocked storeId itemId tables row) (store item : Uuid) (baselineQty : Int)
    (now : Timestamp) :
    StaysStocked storeId itemId row 0
      { tables with inventory := (ensureInventoryState store item baselineQty now tables.inventory).2 } := by
  have accounted : Accounted (ensureInventoryState store item baselineQty now tables.inventory).2 :=
    ensure_accounted stocked.accounted store item baselineQty
  unfold ensureInventoryState at accounted ⊢
  split at accounted
  next known =>
    rw [if_pos known]
    exact stays_stocked stocked
  next untracked =>
    rw [if_neg untracked]
    exact rows_stocked stocked accounted (List.mem_append_left _ stocked.tracked) rfl

/-- The guard of a reservation leaves no item overcommitted. -/
theorem reserve_stocked (stocked : Stocked storeId itemId tables row) (id : Uuid) (input : ReserveInput)
    (now : Timestamp) :
    StaysStocked storeId itemId row 0 { tables with inventory := (tryReserve id input now tables.inventory).2 } := by
  have accounted : Accounted (tryReserve id input now tables.inventory).2 :=
    reserve_accounted stocked.accounted id input
  unfold tryReserve at accounted ⊢
  by_cases nothing : input.qty ≤ 0
  · rw [if_pos nothing]
    exact stays_stocked stocked
  · rw [if_neg nothing] at accounted ⊢
    cases found : getInventoryState input.storeId input.itemId tables.inventory with
    | none => exact stays_stocked stocked
    | some state =>
      simp only [found] at accounted ⊢
      split at accounted
      next available =>
        rw [if_pos available]
        split at accounted
        next clash =>
          rw [if_pos clash]
          exact stays_stocked stocked
        next fresh =>
          rw [if_neg fresh]
          let update := reserveUpdate input now
          refine ⟨update.row row, ⟨accounted, List.mem_map_of_mem stocked.tracked, ?_, ?_, ?_, ?_⟩, ?_, ?_⟩
          · exact (update.row_column itemKey (fun _ => rfl) row).trans stocked.key
          · have within := stocked.within
            rcases update.row_cases row with ⟨selected, became⟩ | ⟨_, became⟩
            · simp only [update, reserveUpdate, decide_eq_true_eq] at selected
              have guard := selected.2
              rw [became]
              simp only [update, reserveUpdate, InventoryStateRow.uncommitted] at guard ⊢
              omega
            · rwa [became]
          · have sold := stocked.sold
            rw [update.row_column InventoryStateRow.soldSinceSyncQty (fun _ => rfl), units_append, units_cons,
              units_nil]
            have held : isCommittedOf storeId itemId (newReservation id input now) = false := by
              simp [isCommittedOf, newReservation]
            rw [held]
            simpa using sold
          · intro cartId
            refine (stocked.covered cartId).trans (total_mono fun other member => ?_)
            rw [List.mem_singleton.mp member]
            exact Int.le_of_lt (Int.not_le.mp nothing)
          · exact update.row_column InventoryStateRow.hqBaselineQty (fun _ => rfl) row
          · rw [update.row_column InventoryStateRow.localAdjustQty (fun _ => rfl)]
            omega
      next unavailable =>
        rw [if_neg unavailable]
        exact stays_stocked stocked

theorem delta_stocked (stocked : Stocked storeId itemId tables row) (store item : Uuid) {moved : Int}
    (incoming : 0 ≤ moved) (now : Timestamp) :
    StaysStocked storeId itemId row (if store = storeId ∧ item = itemId then moved else 0)
      { tables with inventory := (applyLocalDelta store item moved now tables.inventory).2 } := by
  have accounted : Accounted (applyLocalDelta store item moved now tables.inventory).2 :=
    delta_accounted stocked.accounted store item moved
  have key := stocked.key
  simp only [itemKey, Prod.mk.injEq] at key
  have own : ofItem store item row = decide (store = storeId ∧ item = itemId) := by
    simp only [ofItem, key.1, key.2, eq_comm]
  unfold applyLocalDelta at accounted ⊢
  dsimp only at accounted ⊢
  split at accounted
  next known =>
    rw [if_pos known]
    let update : Update InventoryStateRow :=
      { selects := ofItem store item
        set := fun row => { row with localAdjustQty := row.localAdjustQty + moved, updatedAt := now } }
    have adjusted : (update.row row).localAdjustQty =
        row.localAdjustQty + if store = storeId ∧ item = itemId then moved else 0 := by
      by_cases same : store = storeId ∧ item = itemId
      · rw [if_pos same, Update.row_selected (own.trans (decide_eq_true same))]
      · rw [if_neg same, Update.row_kept (own.trans (decide_eq_false same)), Int.add_zero]
    have held := update.row_column InventoryStateRow.reservedQty (fun _ => rfl) row
    have sold := update.row_column InventoryStateRow.soldSinceSyncQty (fun _ => rfl) row
    have baseline := update.row_column InventoryStateRow.hqBaselineQty (fun _ => rfl) row
    have within := stocked.within
    refine ⟨update.row row, ⟨accounted, List.mem_map_of_mem stocked.tracked, ?_, ?_, ?_, stocked.covered⟩,
      baseline, adjusted⟩
    · exact (update.row_column itemKey (fun _ => rfl) row).trans stocked.key
    · simp only [InventoryStateRow.uncommitted] at within ⊢
      rw [held, sold, baseline, adjusted]
      split <;> omega
    · rw [sold]
      exact stocked.sold
  next untracked =>
    have other : ¬(store = storeId ∧ item = itemId) := fun same => untracked <|
      List.any_eq_true.mpr ⟨row, stocked.tracked, own.trans (decide_eq_true same)⟩
    rw [if_neg untracked, if_neg other]
    exact stays_stocked stocked

theorem movement_stocked (stocked : Stocked storeId itemId tables row) (movement : StockMovementRow) :
    StaysStocked storeId itemId row 0
      { tables with inventory := (insertStockMovement movement tables.inventory).2 } := by
  have accounted : Accounted (insertStockMovement movement tables.inventory).2 :=
    movement_accounted stocked.accounted movement
  unfold insertStockMovement at accounted ⊢
  split at accounted
  next known =>
    rw [if_pos known]
    exact stays_stocked stocked
  next fresh =>
    rw [if_neg fresh]
    exact rows_stocked stocked accounted stocked.tracked rfl

/-- An order whose units are behind its cart. -/
theorem order_stocked (stocked : Stocked storeId itemId tables row) {entry : NewOrderLedgerEntry}
    (fresh : ∀ order ∈ tables.orders, order.orderId ≠ entry.orderId)
    (backed : entry.storeId = storeId → orderedBy storeId itemId entry.cartId tables.orders + unitsOn itemId entry ≤
      backing storeId itemId entry.cartId tables.inventory.reservations) (now : Timestamp) :
    StaysStocked storeId itemId row 0 ((SaleStep.order entry).run now tables) := by
  simp only [SaleStep.run]
  cases written : Orders.write entry tables.orders with
  | error error => exact stays_stocked stocked
  | ok orders =>
    dsimp only
    obtain ⟨rfl, _⟩ := Orders.write_fresh fresh written
    refine ⟨row, ⟨stocked.accounted, stocked.tracked, stocked.key, stocked.within, stocked.sold, ?_⟩, rfl, by omega⟩
    intro cartId
    have before := stocked.covered cartId
    unfold orderedBy at before backed ⊢
    rw [total_append, total_cons, total_nil]
    by_cases own : entry.storeId = storeId ∧ entry.cartId = cartId
    · obtain ⟨same, rfl⟩ := own
      have enough := backed same
      simp only [same, decide_true, Bool.and_self, if_true]
      omega
    · have other : (decide (entry.storeId = storeId) && decide (entry.cartId = cartId)) = false := by
        simpa using own
      rw [other]
      simpa using before

/-- Every ordinary step keeps the item stocked if its orders stay backed. -/
theorem step_stocked (stocked : Stocked storeId itemId tables row) {step : SaleStep × Timestamp}
    (ordinary : Ordinary step) (backed : Backed storeId itemId tables step) :
    StaysStocked storeId itemId row (delta storeId itemId step) (applyStep tables step) := by
  obtain ⟨step, now⟩ := step
  cases step with
  | order entry => exact order_stocked stocked backed.1 backed.2 now
  | stock operation =>
    cases operation with
    | seed store catalog => exact seed_stocked stocked store catalog now
    | ensure store item baselineQty => exact ensure_stocked stocked store item baselineQty now
    | reserve id input => exact reserve_stocked stocked id input now
    | releaseLine store lineId => exact freed_stocked stocked _ (.inl rfl) now backed
    | releaseCart store cartId => exact freed_stocked stocked _ (.inl rfl) now backed
    | commit store cartId => exact commit_stocked stocked _ now
    | expire => exact freed_stocked stocked _ (.inr rfl) now backed
    | applyDelta store item moved => exact delta_stocked stocked store item ordinary now
    | movement movement => exact movement_stocked stocked movement
    | rebase => cases ordinary
    | reconcile => cases ordinary

/-- The same over a run, the stock movements added up. -/
theorem run_stocked {steps : List (SaleStep × Timestamp)} (stocked : Stocked storeId itemId tables row)
    (ordinary : ∀ step ∈ steps, Ordinary step)
    (backed : Sequence.Meets applyStep (Backed storeId itemId) tables steps) :
    StaysStocked storeId itemId row (steps.map (delta storeId itemId)).sum (Sequence.run applyStep tables steps) := by
  induction steps generalizing tables row with
  | nil => exact stays_stocked stocked
  | cons step steps ih =>
    obtain ⟨next, kept, baseline, adjust⟩ := step_stocked stocked (ordinary step List.mem_cons_self) backed.1
    obtain ⟨last, end_, same, moved⟩ := ih kept (fun other member => ordinary other (List.mem_cons_of_mem _ member)) backed.2
    refine ⟨last, end_, same.trans baseline, ?_⟩
    rw [moved, adjust, List.map_cons, List.sum_cons]
    omega

end Steps

section Hub
open Hub StepEffects
variable {Remote Answer : Type}

def saleTables (world : StockedWorld Remote) : SaleTables := ⟨world.inventory, world.hub.db.orders⟩

/-- The write of an order, or the end of a cart's holds. -/
def Finishes (step : SaleStep) : Prop :=
  match step with
  | .order _ | .stock (.commit ..) | .stock (.releaseCart ..) => True
  | _ => False

/-- What the requests of finalizations and voids do to stock and orders are such steps. -/
theorem performStocked_steps (providers : Providers Remote Answer) (choice : Choice Answer)
    (world : StockedWorld Remote) (request : Request) :
    saleTables (performStocked providers choice world request).2 = saleTables world ∨
      ∃ step, Finishes step ∧ saleTables (performStocked providers choice world request).2 =
        applyStep (saleTables world) (step, choice.now) := by
  obtain ⟨frame, call⟩ := request
  have moves (operation : Timestamp → InventoryTables → Int × InventoryTables) (step : Operation)
      (finishes : Finishes (.stock step)) (runs : ∀ tables, step.run choice.now tables = (operation choice.now tables).2) :
      saleTables (moveStock choice world operation).2 = saleTables world ∨
        ∃ step, Finishes step ∧ saleTables (moveStock choice world operation).2 = applyStep (saleTables world) (step, choice.now) := by
    unfold moveStock
    cases choice.storageFailure with
    | some error => exact .inl rfl
    | none =>
      refine .inr ⟨.stock step, finishes, ?_⟩
      simp only [applyStep, SaleStep.run, runs]
      rfl
  have orders : saleTables (⟨(perform providers choice world.hub ⟨frame, call⟩).2, world.inventory⟩ :
        StockedWorld Remote) = saleTables world ∨
      ∃ step, Finishes step ∧ saleTables (⟨(perform providers choice world.hub ⟨frame, call⟩).2, world.inventory⟩ :
        StockedWorld Remote) = applyStep (saleTables world) (step, choice.now) := by
    rcases perform_orders providers choice world.hub ⟨frame, call⟩ with same | ⟨entry, outboxId, called, written⟩
    · exact .inl (by simp only [saleTables, same])
    · refine .inr ⟨.order entry, trivial, ?_⟩
      simp only [applyStep, SaleStep.run, saleTables, written]
  cases call
  case service wanted =>
    cases wanted
    case commitCartSale storeId cartId => exact moves _ (.commit storeId cartId) trivial fun _ => rfl
    case releaseCartReservations storeId cartId => exact moves _ (.releaseCart storeId cartId) trivial fun _ => rfl
    all_goals exact orders
  all_goals exact orders

end Hub

/-- A tracked item, whatever has happened before, with no order of it yet. -/
structure Opening (storeId itemId : Uuid) (tables : SaleTables) (row : InventoryStateRow) : Prop where
  accounted : Accounted tables.inventory
  tracked : row ∈ tables.inventory.inventoryState
  key : itemKey row = (storeId, itemId)
  within : 0 ≤ row.uncommitted
  sold : units (isCommittedOf storeId itemId) tables.inventory.reservations ≤ row.soldSinceSyncQty
  orders : ∀ order ∈ tables.orders, unitsOn itemId order = 0

theorem Opening.stocked {storeId itemId : Uuid} {tables : SaleTables} {row : InventoryStateRow}
    (opening : Opening storeId itemId tables row) : Stocked storeId itemId tables row where
  accounted := opening.accounted
  tracked := opening.tracked
  key := opening.key
  within := opening.within
  sold := opening.sold
  covered cartId := by
    have none : orderedBy storeId itemId cartId tables.orders = 0 := by
      unfold orderedBy total
      refine List.sum_eq_zero fun amount member => ?_
      obtain ⟨order, counted, rfl⟩ := List.mem_map.mp member
      exact opening.orders order (List.mem_filter.mp counted).1
    rw [none]
    exact units_nonneg _ opening.accounted.positive

/-- In every ordinary run in which the orders of the item stay backed, no more of it is
ordered than there was and came in. -/
theorem no_oversell {storeId itemId : Uuid} {tables : SaleTables} {row : InventoryStateRow}
    (opening : Opening storeId itemId tables row) {steps : List (SaleStep × Timestamp)}
    (ordinary : ∀ step ∈ steps, Ordinary step)
    (backed : Sequence.Meets applyStep (Backed storeId itemId) tables steps) :
    ordered storeId itemId (Sequence.run applyStep tables steps).orders ≤
      row.hqBaselineQty + row.localAdjustQty + (steps.map (delta storeId itemId)).sum := by
  obtain ⟨last, stocked, baseline, adjust⟩ := run_stocked opening.stocked ordinary backed
  have bound := ordered_le_stock stocked
  omega

section Runs

/-- One unit of an item on the shelf. -/
def lastUnit : InventoryStateRow := newStateRow (.random 1) (.random 12) 1 0

def shelf : SaleTables := { inventory := { inventoryState := [lastUnit], reservations := [], movements := [] }, orders := [] }

/-- Add the item to a cart, the hold ending at a given time. -/
def hold (cart expiresAt : Nat) : SaleStep :=
  .stock (.reserve (.random (30 + cart))
    { storeId := .random 1, registerId := .random (20 + cart), cartId := .random cart, lineId := .random (40 + cart)
      itemId := .random 12, qty := 1, expiresAt := some expiresAt })

def orderOf (cart : Nat) : SaleStep :=
  .order
    { orderId := .random (50 + cart), cartId := .random cart, storeId := .random 1, registerId := .random (20 + cart)
      shiftId := none, subtotalCents := 1000, discountCents := 0, taxCents := 0, totalCents := 1000
      submissionId := none, payments := []
      lines := [{ lineId := .random (40 + cart), itemId := .random 12, sku := "tea", name := "Tea", quantity := 1
                  unitPriceCents := 1000, lineTotalCents := 1000, discountCents := 0, taxCents := 0
                  taxInclusive := true }]
      fiscal := ⟨none, none, none, none, none, false⟩ }

def commit (cart : Nat) : SaleStep := .stock (.commit (.random 1) (.random cart))

private theorem shelf_opening : Opening (.random 1) (.random 12) shelf lastUnit where
  accounted := by constructor <;> simp [shelf, lastUnit, newStateRow]
  tracked := List.mem_singleton.mpr rfl
  key := rfl
  within := by decide
  sold := by decide
  orders := by simp [shelf]

/-- The first cart is finalized in time; the second finds nothing left. -/
theorem held_unit_is_sold_once :
    ordered (.random 1) (.random 12) (Sequence.run applyStep shelf
      [(hold 1 900, 0), (hold 2 900, 5), (orderOf 1, 10), (commit 1, 10), (.stock .expire, 1000)]).orders ≤
        1 + 0 + ([(hold 1 900, 0), (hold 2 900, 5), (orderOf 1, 10), (commit 1, 10), (.stock .expire, 1000)].map
          (delta (.random 1) (.random 12))).sum :=
  no_oversell shelf_opening (by decide) (by decide)

/-- The first cart waits too long: its hold expires, the second cart gets the unit, and
both are finalized. -/
theorem last_unit_is_sold_twice :
    ¬∀ (storeId itemId : Uuid) (tables : SaleTables) (row : InventoryStateRow) (steps : List (SaleStep × Timestamp)),
      Opening storeId itemId tables row → (∀ step ∈ steps, Ordinary step) →
        ordered storeId itemId (Sequence.run applyStep tables steps).orders ≤
          row.hqBaselineQty + row.localAdjustQty + (steps.map (delta storeId itemId)).sum := by
  intro all
  have bound := all _ _ shelf lastUnit
    [(hold 1 900, 0), (.stock .expire, 1000), (hold 2 1900, 1001), (orderOf 2, 1010), (commit 2, 1010),
      (orderOf 1, 1020), (commit 1, 1020)]
    shelf_opening (by decide)
  exact absurd bound (by decide)

end Runs
end ApexEdge.Proofs.Oversell
