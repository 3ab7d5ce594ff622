import ApexEdge.Hub.StockRoom
import ApexEdge.Library.Totals
import ApexEdge.Proofs.Reservations

/-! The two local counters of an item against the record of what took effect on it. Between
rebases they move by every delta and every sale; a rebase counts again what was written
down since the last one, which is the same only for what writes itself down as it takes
effect. -/

namespace ApexEdge.Proofs.StockBooks
open Library Payment Domain Storage Hub InventoryLedger Reservations

section Facts

/-- What took effect on an item, newest first. -/
def factsOf (storeId itemId : Uuid) (journal : List StockEntry) : List StockFact :=
  (journal.filter fun entry => entry.storeId = storeId ∧ entry.itemId = itemId).map StockEntry.fact

/-- What took effect since the last rebase but so many. -/
def since (rebases : Nat) (facts : List StockFact) : List StockFact :=
  match facts with
  | [] => []
  | .rebased :: older =>
    match rebases with
    | 0 => []
    | rebases + 1 => since rebases older
  | fact :: older => fact :: since rebases older

def deltaOf (fact : StockFact) : Int :=
  match fact with
  | .moved delta | .restocked delta => delta
  | _ => 0

def movedOf (fact : StockFact) : Int :=
  match fact with
  | .moved delta => delta
  | _ => 0

def soldOf (fact : StockFact) : Int :=
  match fact with
  | .sold qty => qty
  | _ => 0

def sumOf (value : StockFact → Int) (facts : List StockFact) : Int := (facts.map value).sum

/-- Every tracked item counts the deltas and the sales since its last rebase but one: right
after a rebase those since the one before it, and each further one as it takes effect. -/
def CountsLocally (world : StockWorld) : Prop :=
  ∀ row ∈ world.tables.inventoryState,
    row.localAdjustQty = sumOf deltaOf (since 1 (factsOf row.storeId row.itemId world.journal)) ∧
      row.soldSinceSyncQty = sumOf soldOf (since 1 (factsOf row.storeId row.itemId world.journal))

instance (world : StockWorld) : Decidable (CountsLocally world) := by
  unfold CountsLocally
  infer_instance

variable {value : StockFact → Int} {facts newer : List StockFact} {rebases : Nat}

theorem sumOf_append (newer facts : List StockFact) :
    sumOf value (newer ++ facts) = sumOf value newer + sumOf value facts := by
  simp [sumOf]

theorem since_append (none : .rebased ∉ newer) : since rebases (newer ++ facts) = newer ++ since rebases facts := by
  induction newer with
  | nil => rfl
  | cons fact newer ih =>
    have rest := ih fun member => none (List.mem_cons_of_mem _ member)
    cases fact with
    | rebased => exact absurd List.mem_cons_self none
    | moved delta => exact congrArg _ rest
    | restocked delta => exact congrArg _ rest
    | sold qty => exact congrArg _ rest

theorem factsOf_append (storeId itemId : Uuid) (newer journal : List StockEntry) :
    factsOf storeId itemId (newer ++ journal) = factsOf storeId itemId newer ++ factsOf storeId itemId journal := by
  simp [factsOf]

theorem factsOf_none {storeId itemId : Uuid} {journal : List StockEntry}
    (none : ∀ entry ∈ journal, ¬(entry.storeId = storeId ∧ entry.itemId = itemId)) :
    factsOf storeId itemId journal = [] := by
  unfold factsOf
  rw [List.filter_eq_nil_iff.mpr fun entry member => by simpa using none entry member]
  rfl

end Facts

section Books

/-- A stock command that has written its movement of the item and not applied it yet. -/
def applies (storeId itemId : Uuid) (request : StockRequest) : Bool :=
  match request with
  | ⟨some _, .applyLocalDelta store item _⟩ => store = storeId ∧ item = itemId
  | _ => false

/-- The delta that it still has to apply. -/
def due (storeId itemId : Uuid) (request : StockRequest) : Int :=
  match request with
  | ⟨some _, .applyLocalDelta store item delta⟩ => if store = storeId ∧ item = itemId then delta else 0
  | _ => 0

def owed (pending : Multiset StockRequest) (storeId itemId : Uuid) : Int := (pending.map (due storeId itemId)).sum

def newerMovement (storeId itemId : Uuid) (cutoff : Timestamp) (row : StockMovementRow) : Bool :=
  row.storeId = storeId ∧ row.itemId = itemId ∧ cutoff < row.createdAt

def newerSale (storeId itemId : Uuid) (cutoff : Timestamp) (row : ReservationRow) : Bool :=
  row.storeId = storeId ∧ row.itemId = itemId ∧ row.state = .committed ∧ cutoff < row.updatedAt

/-- What a rebase would count again. -/
def movementsAfter (storeId itemId : Uuid) (cutoff : Timestamp) (rows : List StockMovementRow) : Int :=
  Table.total (newerMovement storeId itemId cutoff) StockMovementRow.quantityDelta rows

def salesAfter (storeId itemId : Uuid) (cutoff : Timestamp) (rows : List ReservationRow) : Int :=
  Table.total (newerSale storeId itemId cutoff) ReservationRow.qty rows

/-- The counters of an item, and what the next rebase would make of them. -/
structure Booked (world : StockWorld) (owing : Uuid → Uuid → Int) (row : InventoryStateRow) : Prop where
  adjusted : row.localAdjustQty = sumOf deltaOf (since 1 (factsOf row.storeId row.itemId world.journal))
  sold : row.soldSinceSyncQty = sumOf soldOf (since 1 (factsOf row.storeId row.itemId world.journal))
  movements : movementsAfter row.storeId row.itemId row.baselineAsOf world.tables.movements =
    sumOf movedOf (since 0 (factsOf row.storeId row.itemId world.journal)) + owing row.storeId row.itemId
  sales : salesAfter row.storeId row.itemId row.baselineAsOf world.tables.reservations =
    sumOf soldOf (since 0 (factsOf row.storeId row.itemId world.journal))

def Tracked (storeId itemId : Uuid) (tables : InventoryTables) : Prop :=
  ∃ row ∈ tables.inventoryState, row.storeId = storeId ∧ row.itemId = itemId

/-- Reservations and records are of tracked items only, and those are booked. -/
structure Books (world : StockWorld) (owing : Uuid → Uuid → Int) : Prop where
  held : ∀ row ∈ world.tables.reservations, Tracked row.storeId row.itemId world.tables
  recorded : ∀ entry ∈ world.journal, Tracked entry.storeId entry.itemId world.tables
  booked : ∀ row ∈ world.tables.inventoryState, Booked world owing row

end Books

section Conditions
variable (world : StockWorld) (others : List StockRequest)

/-- No stock command is between its two writes, and all of the item's movements are old. -/
def Settled (storeId itemId : Uuid) (now : Timestamp) : Prop :=
  (∀ other ∈ others, applies storeId itemId other = false) ∧
    ∀ row ∈ world.tables.movements, row.storeId = storeId → row.itemId = itemId → row.createdAt ≤ now

/-- An item is rebased on its own last baseline, and nothing was restocked since; an
untracked one has no movements. -/
def CanRebase (storeId itemId : Uuid) (reflectedThrough now : Timestamp) : Prop :=
  Settled world others storeId itemId now ∧
    (∀ row ∈ world.tables.reservations, row.storeId = storeId → row.itemId = itemId → row.state = .committed →
      row.updatedAt ≤ now) ∧
    (∀ fact ∈ since 0 (factsOf storeId itemId world.journal), deltaOf fact = movedOf fact) ∧
    (∀ row ∈ world.tables.inventoryState, ofItem storeId itemId row = true → reflectedThrough = row.baselineAsOf) ∧
    (world.tables.inventoryState.any (ofItem storeId itemId) = false →
      ∀ row ∈ world.tables.movements, ¬(row.storeId = storeId ∧ row.itemId = itemId))

/-- The step does not come between the two writes of a stock command, and is stamped later
than what came before it. -/
def stockStep (request : StockRequest) (choice : StockChoice) : Prop :=
  match request.call with
  | .insertStockMovement input => ∀ row ∈ world.tables.inventoryState,
      ofItem input.storeId input.itemId row = true → row.baselineAsOf < choice.now
  | .applyLocalDelta .. => request.movement.isSome = true → choice.storageFailure = none
  | .rebaseBaseline storeId itemId _ reflectedThrough =>
    CanRebase world others storeId itemId reflectedThrough choice.now
  | .ledger (.ensureInventoryState storeId itemId _) =>
    world.tables.inventoryState.any (ofItem storeId itemId) = false → Settled world others storeId itemId choice.now
  | .ledger (.seedInventoryFromCatalog storeId) => ∀ item ∈ choice.catalog,
      world.tables.inventoryState.any (ofItem storeId item.id) = false → Settled world others storeId item.id choice.now
  | .ledger (.commitCartSale storeId cartId) => ∀ held ∈ world.tables.reservations,
      held.state = .active → ofCart storeId cartId held = true → ∀ row ∈ world.tables.inventoryState,
        ofItem held.storeId held.itemId row = true → row.baselineAsOf < choice.now
  | _ => True

/-- No stock command is lost between its two writes, and no rebase falls there. -/
def undisturbed : Condition StockRequest StockWorld StockChoice where
  step := stockStep
  drop := fun _ _ request => request.movement = none

end Conditions

section Rows
variable {world after : StockWorld} {owing other : Uuid → Uuid → Int} {row new : InventoryStateRow}

theorem tracked_iff {storeId itemId : Uuid} {tables : InventoryTables} :
    Tracked storeId itemId tables ↔ tables.inventoryState.any (ofItem storeId itemId) = true := by
  simp [Tracked, ofItem]

/-- The counters follow what has taken effect. -/
theorem booked_more (booked : Booked world owing row) (key : itemKey new = itemKey row) {newer : List StockFact}
    (facts : factsOf row.storeId row.itemId after.journal = newer ++ factsOf row.storeId row.itemId world.journal)
    (none : .rebased ∉ newer) (adjust : new.localAdjustQty = row.localAdjustQty + sumOf deltaOf newer)
    (sold : new.soldSinceSyncQty = row.soldSinceSyncQty + sumOf soldOf newer)
    (baseline : new.baselineAsOf = row.baselineAsOf)
    (movements : movementsAfter row.storeId row.itemId row.baselineAsOf after.tables.movements +
        owing row.storeId row.itemId =
      movementsAfter row.storeId row.itemId row.baselineAsOf world.tables.movements + sumOf movedOf newer +
        other row.storeId row.itemId)
    (sales : salesAfter row.storeId row.itemId row.baselineAsOf after.tables.reservations =
      salesAfter row.storeId row.itemId row.baselineAsOf world.tables.reservations + sumOf soldOf newer) :
    Booked after other new := by
  obtain ⟨adjusted, counted, written, committed⟩ := booked
  simp only [itemKey, Prod.mk.injEq] at key
  constructor
  · rw [key.1, key.2, adjust, facts, since_append none, sumOf_append]
    omega
  · rw [key.1, key.2, sold, facts, since_append none, sumOf_append]
    omega
  · rw [key.1, key.2, baseline, facts, since_append none, sumOf_append]
    omega
  · rw [key.1, key.2, baseline, facts, since_append none, sumOf_append]
    omega

/-- Nothing that the books speak of has changed. -/
theorem booked_same (booked : Booked world owing row) (key : itemKey new = itemKey row)
    (adjust : new.localAdjustQty = row.localAdjustQty) (sold : new.soldSinceSyncQty = row.soldSinceSyncQty)
    (baseline : new.baselineAsOf = row.baselineAsOf) (journal : after.journal = world.journal)
    (movements : after.tables.movements = world.tables.movements)
    (sales : salesAfter row.storeId row.itemId row.baselineAsOf after.tables.reservations =
      salesAfter row.storeId row.itemId row.baselineAsOf world.tables.reservations) : Booked after owing new := by
  have nothing (value : StockFact → Int) : sumOf value [] = 0 := rfl
  refine booked_more booked key (congrArg _ journal) List.not_mem_nil ?_ ?_ baseline ?_ ?_
  · rw [adjust, nothing, Int.add_zero]
  · rw [sold, nothing, Int.add_zero]
  · rw [movements, nothing, Int.add_zero]
  · rw [sales, nothing, Int.add_zero]

/-- An item that the step is not about. -/
theorem booked_apart (booked : Booked world owing row)
    (facts : factsOf row.storeId row.itemId after.journal = factsOf row.storeId row.itemId world.journal)
    (movements : after.tables.movements = world.tables.movements)
    (reservations : after.tables.reservations = world.tables.reservations) : Booked after owing row := by
  obtain ⟨adjusted, sold, written, committed⟩ := booked
  constructor
  · rw [facts]
    exact adjusted
  · rw [facts]
    exact sold
  · rw [facts, movements]
    exact written
  · rw [facts, reservations]
    exact committed

theorem tracked_map {f : InventoryStateRow → InventoryStateRow} {before now : InventoryTables}
    (mapped : now.inventoryState = before.inventoryState.map f) (keyed : ∀ row, itemKey (f row) = itemKey row)
    {storeId itemId : Uuid} (tracked : Tracked storeId itemId before) : Tracked storeId itemId now := by
  obtain ⟨row, member, store, item⟩ := tracked
  have key := keyed row
  simp only [itemKey, Prod.mk.injEq] at key
  refine ⟨f row, mapped ▸ List.mem_map_of_mem member, key.1.trans store, key.2.trans item⟩

/-- A statement that changes rows in place. -/
theorem books_map {f : InventoryStateRow → InventoryStateRow}
    (mapped : after.tables.inventoryState = world.tables.inventoryState.map f)
    (keyed : ∀ row, itemKey (f row) = itemKey row)
    (held : ∀ row ∈ after.tables.reservations, Tracked row.storeId row.itemId world.tables)
    (recorded : ∀ entry ∈ after.journal, Tracked entry.storeId entry.itemId world.tables)
    (booked : ∀ row ∈ world.tables.inventoryState, Booked after other (f row)) : Books after other where
  held row member := tracked_map mapped keyed (held row member)
  recorded entry member := tracked_map mapped keyed (recorded entry member)
  booked row member := by
    rw [mapped] at member
    obtain ⟨old, present, rfl⟩ := List.mem_map.mp member
    exact booked old present

end Rows

section Carts
variable {world : StockWorld} {owing : Uuid → Uuid → Int} {now : Timestamp}

theorem reserve_books (books : Books world owing) (id : Uuid) (input : ReserveInput) :
    Books { world with tables := (tryReserve id input now world.tables).2 } owing := by
  unfold tryReserve
  split
  · exact books
  split
  · exact books
  next row found =>
    dsimp only
    split
    · split
      · exact books
      · have tracked : Tracked input.storeId input.itemId world.tables := by
          refine ⟨row, List.mem_of_find?_eq_some found, ?_⟩
          simpa [ofItem] using List.find?_some found
        refine books_map rfl (fun row => (reserveUpdate input now).row_column itemKey (fun _ => rfl) row) ?_
          books.recorded ?_
        · intro held member
          rcases List.mem_append.mp member with old | new
          · exact books.held held old
          · obtain rfl := List.mem_singleton.mp new
            exact tracked
        · intro row member
          refine booked_same (books.booked row member) ?_ ?_ ?_ ?_ rfl rfl ?_
          · exact (reserveUpdate input now).row_column itemKey (fun _ => rfl) row
          · exact (reserveUpdate input now).row_column InventoryStateRow.localAdjustQty (fun _ => rfl) row
          · exact (reserveUpdate input now).row_column InventoryStateRow.soldSinceSyncQty (fun _ => rfl) row
          · exact (reserveUpdate input now).row_column InventoryStateRow.baselineAsOf (fun _ => rfl) row
          · -- what is reserved is not sold yet
            unfold salesAfter
            rw [Table.total_append, Table.total_cons, Table.total_nil]
            simp [newerSale, newReservation]
    · exact books

theorem closeRow_baseline (less : Int → Int → Int) (sells : Bool) (rows : List ReservationRow)
    (row : InventoryStateRow) :
    (closeRow less sells now rows row).baselineAsOf = row.baselineAsOf := by
  induction rows generalizing row with
  | nil => rfl
  | cons taken rows ih =>
    exact (ih _).trans ((closeUpdate less sells now taken).row_column InventoryStateRow.baselineAsOf (fun _ => rfl) row)

/-- Of the units that are closed now, those that are sold count as newer than any baseline
before now. -/
theorem sales_closed {storeId itemId : Uuid} {cutoff : Timestamp} {marking : Table.Update ReservationRow}
    {closed : ReservationState} (active : ∀ row, marking.selects row = true → row.state = .active)
    (closes : ∀ row, marking.set row = { row with state := closed, updatedAt := now }) (rows : List ReservationRow)
    (late : closed = .committed → ∀ row ∈ rows, marking.selects row = true → isOf storeId itemId row = true →
      cutoff < now) :
    salesAfter storeId itemId cutoff (marking.run rows) = salesAfter storeId itemId cutoff rows +
      if closed = .committed then units (isOf storeId itemId) (rows.filter marking.selects) else 0 := by
  induction rows with
  | nil => simp [salesAfter, Table.Update.run]
  | cons row rows ih =>
    have rest := ih fun sells other member => late sells other (List.mem_cons_of_mem _ member)
    unfold salesAfter Table.Update.run at rest ⊢
    rw [List.map_cons, Table.total_cons, Table.total_cons, rest]
    rcases marking.row_cases row with ⟨selected, became⟩ | ⟨kept, became⟩
    · have before : newerSale storeId itemId cutoff row = false := by simp [newerSale, active row selected]
      rw [became, closes, before, List.filter_cons_of_pos selected, units_cons]
      by_cases sells : closed = .committed
      · have now' : newerSale storeId itemId cutoff { row with state := closed, updatedAt := now } =
            isOf storeId itemId row := by
          cases own : isOf storeId itemId row with
          | true =>
            have newer := late sells row List.mem_cons_self selected own
            simp only [isOf, decide_eq_true_eq] at own
            simp [newerSale, own, sells, newer]
          | false =>
            simp only [isOf, decide_eq_false_iff_not, not_and] at own
            simp only [newerSale, decide_eq_false_iff_not]
            exact fun all => own all.1 all.2.1
        rw [now', if_pos sells, if_pos sells]
        simp only [Bool.false_eq_true, if_false]
        omega
      · have never : newerSale storeId itemId cutoff { row with state := closed, updatedAt := now } = false := by
          simp [newerSale, sells]
        rw [never, if_neg sells, if_neg sells]
        simp
    · rw [became, List.filter_cons_of_neg (by simp [kept])]
      omega

def closedAs (closed : ReservationState) (now : Timestamp) (selects : ReservationRow → Bool) :
    Table.Update ReservationRow :=
  { selects := fun row => row.state = .active ∧ selects row
    set := fun row => { row with state := closed, updatedAt := now } }

theorem close_tables (selects : ReservationRow → Bool) (closed : ReservationState) (tables : InventoryTables) :
    (closeReservations lessHeld selects closed now tables).2 =
      { tables with
        inventoryState := tables.inventoryState.map (closeRow lessHeld (closed = .committed) now
          (tables.reservations.filter (closedAs closed now selects).selects))
        reservations := (closedAs closed now selects).run tables.reservations } := by
  simp only [closeReservations, Table.foldl_run]
  rfl

theorem held_closed (books : Books world owing) (marking : Table.Update ReservationRow)
    (store : ∀ row, (marking.set row).storeId = row.storeId) (item : ∀ row, (marking.set row).itemId = row.itemId) :
    ∀ row ∈ marking.run world.tables.reservations, Tracked row.storeId row.itemId world.tables := by
  intro row member
  obtain ⟨old, present, rfl⟩ := List.mem_map.mp member
  rw [marking.row_column ReservationRow.storeId store, marking.row_column ReservationRow.itemId item]
  exact books.held old present

/-- Reservations that are closed without being sold. -/
theorem close_books (books : Books world owing) (selects : ReservationRow → Bool) {closed : ReservationState}
    (unsold : closed ≠ .committed) :
    Books { world with tables := (closeReservations lessHeld selects closed now world.tables).2 } owing := by
  rw [close_tables]
  refine books_map rfl (fun row => (closeRow_sold lessHeld _ now _ row).1) ?_ books.recorded ?_
  · exact held_closed books _ (fun _ => rfl) (fun _ => rfl)
  · intro row member
    obtain ⟨key, _, adjust, sold⟩ := closeRow_sold lessHeld (closed = .committed) now
      (world.tables.reservations.filter (closedAs closed now selects).selects) row
    refine booked_same (books.booked row member) key adjust ?_ (closeRow_baseline ..) rfl rfl ?_
    · rw [sold, decide_eq_false unsold]
      simp
    · refine (sales_closed (fun row selected => (of_decide_eq_true selected).1) (fun _ => rfl) _ ?_).trans ?_
      · exact fun sells => absurd sells unsold
      · rw [if_neg unsold, Int.add_zero]

theorem sold_facts (storeId itemId : Uuid) (rows : List ReservationRow) :
    factsOf storeId itemId (rows.map fun row => ⟨row.storeId, row.itemId, .sold row.qty⟩) =
      (rows.filter (isOf storeId itemId)).map fun row => .sold row.qty := by
  unfold factsOf
  rw [List.filter_map, List.map_map]
  rfl

theorem sum_sold (rows : List ReservationRow) :
    sumOf soldOf (rows.map fun row => .sold row.qty) = (rows.map ReservationRow.qty).sum := by
  unfold sumOf
  rw [List.map_map]
  rfl

theorem sum_sold_else {value : StockFact → Int} (none : ∀ qty, value (.sold qty) = 0) (rows : List ReservationRow) :
    sumOf value (rows.map fun row => .sold row.qty) = 0 := by
  unfold sumOf
  rw [List.map_map]
  exact List.sum_eq_zero fun amount member => by
    obtain ⟨row, _, rfl⟩ := List.mem_map.mp member
    exact none row.qty

/-- The units of the cart are sold, and counted and written down as sold. -/
theorem commit_books (books : Books world owing) (storeId cartId : Uuid)
    (late : ∀ held ∈ world.tables.reservations, held.state = .active → ofCart storeId cartId held = true →
      ∀ row ∈ world.tables.inventoryState, ofItem held.storeId held.itemId row = true → row.baselineAsOf < now) :
    Books ⟨(commitCartSale storeId cartId now world.tables).2, soldEntries storeId cartId world.tables ++ world.journal⟩
      owing := by
  unfold commitCartSale
  rw [close_tables]
  have active : ∀ row, (closedAs .committed now (ofCart storeId cartId)).selects row = true →
      row.state = .active ∧ ofCart storeId cartId row = true := fun row selected => of_decide_eq_true selected
  refine books_map rfl (fun row => (closeRow_sold lessHeld _ now _ row).1) ?_ ?_ ?_
  · exact held_closed books _ (fun _ => rfl) (fun _ => rfl)
  · intro entry member
    rcases List.mem_append.mp member with new | old
    · obtain ⟨row, present, rfl⟩ := List.mem_map.mp new
      exact books.held row (List.mem_of_mem_filter present)
    · exact books.recorded entry old
  intro row member
  obtain ⟨key, _, adjust, sold⟩ := closeRow_sold lessHeld true now
    (world.tables.reservations.filter (closedAs .committed now (ofCart storeId cartId)).selects) row
  have facts : factsOf row.storeId row.itemId (soldEntries storeId cartId world.tables ++ world.journal) =
      ((world.tables.reservations.filter (closedAs .committed now (ofCart storeId cartId)).selects).filter
        (isOf row.storeId row.itemId)).map (fun row => .sold row.qty) ++
          factsOf row.storeId row.itemId world.journal := by
    rw [factsOf_append, soldEntries, sold_facts]
    rfl
  refine booked_more (books.booked row member) key facts ?_ ?_ ?_ (closeRow_baseline ..) ?_ ?_
  · intro impossible
    obtain ⟨_, _, same⟩ := List.mem_map.mp impossible
    cases same
  · rw [sum_sold_else fun _ => rfl, Int.add_zero]
    exact adjust
  · rw [sum_sold]
    exact sold
  · rw [sum_sold_else fun _ => rfl, Int.add_zero]
  · rw [sum_sold]
    refine (sales_closed (fun row selected => (active row selected).1) (fun _ => rfl) _ ?_).trans ?_
    · intro _ held present selected own
      refine late held present (active held selected).1 (active held selected).2 row member ?_
      simp only [isOf, decide_eq_true_eq] at own
      simp [ofItem, own]
    · rfl

end Carts

section Tracking
variable {world : StockWorld} {owing other : Uuid → Uuid → Int} {now : Timestamp} {storeId itemId : Uuid}

theorem movements_none {cutoff : Timestamp} {rows : List StockMovementRow}
    (old : ∀ row ∈ rows, row.storeId = storeId → row.itemId = itemId → row.createdAt ≤ cutoff) :
    movementsAfter storeId itemId cutoff rows = 0 := by
  have none : rows.filter (newerMovement storeId itemId cutoff) = [] := by
    refine List.filter_eq_nil_iff.mpr fun row member newer => ?_
    obtain ⟨store, item, late⟩ := of_decide_eq_true newer
    exact absurd (old row member store item) (Nat.not_le_of_lt late)
  unfold movementsAfter Table.total
  rw [none]
  rfl

theorem sales_none {cutoff : Timestamp} {rows : List ReservationRow}
    (old : ∀ row ∈ rows, row.storeId = storeId → row.itemId = itemId → row.state = .committed →
      row.updatedAt ≤ cutoff) :
    salesAfter storeId itemId cutoff rows = 0 := by
  have none : rows.filter (newerSale storeId itemId cutoff) = [] := by
    refine List.filter_eq_nil_iff.mpr fun row member newer => ?_
    obtain ⟨store, item, committed, late⟩ := of_decide_eq_true newer
    exact absurd (old row member store item committed) (Nat.not_le_of_lt late)
  unfold salesAfter Table.total
  rw [none]
  rfl

theorem untracked_facts (books : Books world owing)
    (untracked : world.tables.inventoryState.any (ofItem storeId itemId) = false) :
    factsOf storeId itemId world.journal = [] := by
  refine factsOf_none fun entry member same => ?_
  have tracked := tracked_iff.mp (books.recorded entry member)
  rw [same.1, same.2, untracked] at tracked
  cases tracked

theorem untracked_sales (books : Books world owing)
    (untracked : world.tables.inventoryState.any (ofItem storeId itemId) = false)
    (cutoff : Timestamp) : salesAfter storeId itemId cutoff world.tables.reservations = 0 := by
  refine sales_none fun row member store item => ?_
  have tracked := tracked_iff.mp (books.held row member)
  rw [store, item, untracked] at tracked
  cases tracked

/-- Items that become tracked, with nothing on the way to them. -/
theorem append_books (now : Timestamp) (books : Books world owing) {fresh : List InventoryStateRow}
    (starts : ∀ row ∈ fresh, ∃ storeId itemId qty, row = newStateRow storeId itemId qty now ∧
      world.tables.inventoryState.any (ofItem storeId itemId) = false ∧ owing storeId itemId = 0 ∧
      ∀ row ∈ world.tables.movements, row.storeId = storeId → row.itemId = itemId → row.createdAt ≤ now) :
    Books { world with tables := { world.tables with inventoryState := world.tables.inventoryState ++ fresh } }
      owing where
  held row member := by
    obtain ⟨state, present, key⟩ := books.held row member
    exact ⟨state, List.mem_append_left _ present, key⟩
  recorded entry member := by
    obtain ⟨state, present, key⟩ := books.recorded entry member
    exact ⟨state, List.mem_append_left _ present, key⟩
  booked row member := by
    rcases List.mem_append.mp member with old | new
    · exact booked_same (books.booked row old) rfl rfl rfl rfl rfl rfl rfl
    · obtain ⟨storeId, itemId, qty, rfl, untracked, none, old⟩ := starts row new
      have facts : factsOf storeId itemId world.journal = [] := untracked_facts books untracked
      refine ⟨?_, ?_, ?_, ?_⟩ <;> simp only [newStateRow, facts]
      · rfl
      · rfl
      · rw [movements_none old, none]
        rfl
      · exact untracked_sales books untracked _

end Tracking

section Movements
variable {world : StockWorld} {owing : Uuid → Uuid → Int} {now : Timestamp} {storeId itemId : Uuid}

/-- A movement is written down, and owed to its item from now on. -/
theorem insert_books (books : Books world owing) (movement : StockMovementRow)
    (late : ∀ row ∈ world.tables.inventoryState, ofItem movement.storeId movement.itemId row = true →
      row.baselineAsOf < movement.createdAt) :
    Books { world with tables := { world.tables with movements := world.tables.movements ++ [movement] } }
      (fun storeId itemId => (if movement.storeId = storeId ∧ movement.itemId = itemId then movement.quantityDelta
        else 0) + owing storeId itemId) where
  held := books.held
  recorded := books.recorded
  booked row member := by
    have written : movementsAfter row.storeId row.itemId row.baselineAsOf (world.tables.movements ++ [movement]) =
        movementsAfter row.storeId row.itemId row.baselineAsOf world.tables.movements +
          if movement.storeId = row.storeId ∧ movement.itemId = row.itemId then movement.quantityDelta else 0 := by
      unfold movementsAfter
      rw [Table.total_append, Table.total_cons, Table.total_nil, Int.add_zero]
      congr 1
      by_cases own : movement.storeId = row.storeId ∧ movement.itemId = row.itemId
      · have newer := late row member (by simp [ofItem, own])
        simp [newerMovement, own, newer]
      · rw [if_neg own, if_neg]
        exact fun newer => own ⟨(of_decide_eq_true newer).1, (of_decide_eq_true newer).2.1⟩
    have nothing (value : StockFact → Int) : sumOf value [] = 0 := rfl
    refine booked_more (books.booked row member) rfl (List.nil_append _).symm List.not_mem_nil ?_ ?_ rfl ?_ ?_
    · rw [nothing, Int.add_zero]
    · rw [nothing, Int.add_zero]
    · rw [written, nothing]
      omega
    · rw [nothing, Int.add_zero]

/-- The delta of an item takes effect, and is no longer owed if it was. -/
theorem apply_books {movement : Option StockMovementRow} {delta : Int}
    (books : Books world fun store item => due store item ⟨movement, .applyLocalDelta storeId itemId delta⟩ +
      owing store item) :
    Books ⟨(applyLocalDelta storeId itemId delta now world.tables).2,
      deltaEntries movement storeId itemId delta world.tables ++ world.journal⟩ owing := by
  have nothing (value : StockFact → Int) : sumOf value [] = 0 := rfl
  -- another item is owed what it was
  have others {store item : Uuid} (other : ¬(storeId = store ∧ itemId = item)) :
      due store item ⟨movement, .applyLocalDelta storeId itemId delta⟩ = 0 := by
    cases movement with
    | none => rfl
    | some row => exact if_neg other
  unfold applyLocalDelta deltaEntries
  cases tracked : world.tables.inventoryState.any (ofItem storeId itemId) with
  | false =>
    simp only [Bool.false_eq_true, if_false, List.nil_append]
    refine ⟨books.held, books.recorded, fun row member => ?_⟩
    have other : ¬(storeId = row.storeId ∧ itemId = row.itemId) := by
      intro same
      have untracked := List.any_eq_false.mp tracked row member
      simp [ofItem, same] at untracked
    refine booked_more (books.booked row member) rfl (List.nil_append _).symm List.not_mem_nil ?_ ?_ rfl ?_ ?_
    · rw [nothing, Int.add_zero]
    · rw [nothing, Int.add_zero]
    · rw [others other, nothing]
      dsimp only
      omega
    · rw [nothing, Int.add_zero]
  | true =>
    simp only [if_true]
    generalize fact_eq : (if movement.isSome then StockFact.moved delta else .restocked delta) = fact
    have moves : due storeId itemId ⟨movement, .applyLocalDelta storeId itemId delta⟩ = movedOf fact ∧
        deltaOf fact = delta ∧ soldOf fact = 0 ∧ fact ≠ .rebased := by
      cases movement with
      | none =>
        obtain rfl := fact_eq
        exact ⟨rfl, rfl, rfl, StockFact.noConfusion⟩
      | some row =>
        obtain rfl := fact_eq
        exact ⟨if_pos ⟨rfl, rfl⟩, rfl, rfl, StockFact.noConfusion⟩
    let update : Table.Update InventoryStateRow :=
      { selects := ofItem storeId itemId
        set := fun row => { row with localAdjustQty := row.localAdjustQty + delta, updatedAt := now } }
    have keyed : ∀ row, itemKey (update.row row) = itemKey row := update.row_column itemKey fun _ => rfl
    have mapped : update.run world.tables.inventoryState = world.tables.inventoryState.map update.row := rfl
    refine books_map mapped keyed books.held ?_ ?_
    · intro entry member
      rcases List.mem_cons.mp member with rfl | old
      · exact tracked_iff.mpr tracked
      · exact books.recorded entry old
    · intro row member
      have sold : (update.row row).soldSinceSyncQty = row.soldSinceSyncQty :=
        update.row_column InventoryStateRow.soldSinceSyncQty (fun _ => rfl) row
      have baseline : (update.row row).baselineAsOf = row.baselineAsOf :=
        update.row_column InventoryStateRow.baselineAsOf (fun _ => rfl) row
      rcases update.row_cases row with ⟨selected, became⟩ | ⟨kept, became⟩
      · obtain ⟨rfl, rfl⟩ : row.storeId = storeId ∧ row.itemId = itemId := of_decide_eq_true selected
        have single (value : StockFact → Int) : sumOf value [fact] = value fact := Int.add_zero _
        have facts : factsOf row.storeId row.itemId (StockEntry.mk row.storeId row.itemId fact :: world.journal) =
            [fact] ++ factsOf row.storeId row.itemId world.journal := by
          simp [factsOf]
        refine booked_more (books.booked row member) (keyed row) facts ?_ ?_ ?_ baseline ?_ ?_
        · exact fun impossible => moves.2.2.2 (List.mem_singleton.mp impossible).symm
        · rw [became, single, moves.2.1]
        · rw [sold, single, moves.2.2.1, Int.add_zero]
        · rw [single, moves.1]
          dsimp only
          omega
        · rw [single, moves.2.2.1, Int.add_zero]
      · have other : ¬(storeId = row.storeId ∧ itemId = row.itemId) :=
          fun same => of_decide_eq_false kept ⟨same.1.symm, same.2.symm⟩
        have facts : factsOf row.storeId row.itemId (StockEntry.mk storeId itemId fact :: world.journal) =
            [] ++ factsOf row.storeId row.itemId world.journal := by
          simp [factsOf, other]
        refine booked_more (books.booked row member) (keyed row) facts List.not_mem_nil ?_ ?_ baseline ?_ ?_
        · rw [became, nothing, Int.add_zero]
        · rw [sold, nothing, Int.add_zero]
        · rw [others other, nothing]
          dsimp only
          omega
        · rw [nothing, Int.add_zero]

/-- A rebase counts again what has been written down since the last one. -/
theorem rebase_books {others : List StockRequest} {newBaselineQty : Int} {reflectedThrough : Timestamp}
    (books : Books world owing) (can : CanRebase world others storeId itemId reflectedThrough now)
    (none : owing storeId itemId = 0) :
    Books ⟨rebaseBaseline storeId itemId newBaselineQty reflectedThrough now world.tables,
      ⟨storeId, itemId, .rebased⟩ :: world.journal⟩ owing := by
  obtain ⟨settled, sold, plain, current, fresh⟩ := can
  have moved : movementsAfter storeId itemId now world.tables.movements = 0 := movements_none settled.2
  have sales : salesAfter storeId itemId now world.tables.reservations = 0 := sales_none sold
  have own : factsOf storeId itemId (⟨storeId, itemId, .rebased⟩ :: world.journal) =
      .rebased :: factsOf storeId itemId world.journal := by
    simp [factsOf]
  have counted (facts : List StockFact) : since 1 (.rebased :: facts) = since 0 facts := rfl
  have deltas : sumOf deltaOf (since 0 (factsOf storeId itemId world.journal)) =
      sumOf movedOf (since 0 (factsOf storeId itemId world.journal)) := congrArg List.sum (List.map_congr_left plain)
  let rebased (row : InventoryStateRow) : InventoryStateRow :=
    { row with
      hqBaselineQty := newBaselineQty
      soldSinceSyncQty := salesAfter storeId itemId reflectedThrough world.tables.reservations
      localAdjustQty := movementsAfter storeId itemId reflectedThrough world.tables.movements
      baselineAsOf := now, updatedAt := now }
  have rebase : rebaseBaseline storeId itemId newBaselineQty reflectedThrough now world.tables =
      { world.tables with
        inventoryState := Table.upsert (ofItem storeId itemId) rebased
          (rebased (newStateRow storeId itemId newBaselineQty now)) world.tables.inventoryState } := rfl
  -- the other items are not rebased
  have others {row : InventoryStateRow} (other : ofItem storeId itemId row = false) :
      factsOf row.storeId row.itemId (⟨storeId, itemId, .rebased⟩ :: world.journal) =
        factsOf row.storeId row.itemId world.journal := by
    have apart : ¬(storeId = row.storeId ∧ itemId = row.itemId) :=
      fun same => of_decide_eq_false other ⟨same.1.symm, same.2.symm⟩
    simp [factsOf, apart]
  rw [rebase, Table.upsert]
  cases tracked : world.tables.inventoryState.any (ofItem storeId itemId) with
  | true =>
    simp only [if_true]
    let update : Table.Update InventoryStateRow := ⟨ofItem storeId itemId, rebased⟩
    have keyed : ∀ row, itemKey (update.row row) = itemKey row := update.row_column itemKey fun _ => rfl
    have mapped : update.run world.tables.inventoryState = world.tables.inventoryState.map update.row := rfl
    refine books_map mapped keyed books.held ?_ ?_
    · intro entry member
      rcases List.mem_cons.mp member with rfl | old
      · exact tracked_iff.mpr tracked
      · exact books.recorded entry old
    · intro row member
      obtain ⟨_, _, written, committed⟩ := books.booked row member
      rcases update.row_cases row with ⟨selected, became⟩ | ⟨kept, became⟩
      · have baseline : reflectedThrough = row.baselineAsOf := current row member selected
        obtain ⟨rfl, rfl⟩ : row.storeId = storeId ∧ row.itemId = itemId := of_decide_eq_true selected
        rw [became]
        refine ⟨?_, ?_, ?_, ?_⟩ <;> simp only [update, rebased, own, counted]
        · rw [baseline, written, none, deltas, Int.add_zero]
        · rw [baseline, committed]
        · rw [moved, none]
          rfl
        · exact sales
      · rw [became]
        exact booked_apart (books.booked row member) (others kept) rfl rfl
  | false =>
    simp only [Bool.false_eq_true, if_false]
    have facts : factsOf storeId itemId world.journal = [] := untracked_facts books tracked
    have nothing : movementsAfter storeId itemId reflectedThrough world.tables.movements = 0 :=
      movements_none fun row member store item => absurd ⟨store, item⟩ (fresh tracked row member)
    refine ⟨?_, ?_, ?_⟩
    · intro row member
      obtain ⟨state, present, key⟩ := books.held row member
      exact ⟨state, List.mem_append_left _ present, key⟩
    · intro entry member
      rcases List.mem_cons.mp member with rfl | old
      · exact ⟨_, List.mem_append_right _ List.mem_cons_self, rfl, rfl⟩
      · obtain ⟨state, present, key⟩ := books.recorded entry old
        exact ⟨state, List.mem_append_left _ present, key⟩
    · intro row member
      rcases List.mem_append.mp member with old | new
      · have kept : ofItem storeId itemId row = false := by
          simpa using List.any_eq_false.mp tracked row old
        exact booked_apart (books.booked row old) (others kept) rfl rfl
      · obtain rfl := List.mem_singleton.mp new
        refine ⟨?_, ?_, ?_, ?_⟩ <;> simp only [rebased, newStateRow, own, counted, facts]
        · exact nothing
        · exact untracked_sales books tracked _
        · rw [moved, none]
          rfl
        · exact sales

end Movements

section Protocol

/-- What an answered request leaves to be applied. -/
def leaves (storeId itemId : Uuid) (request : StockRequest) (reply : request.Reply) : Int :=
  match request, reply with
  | ⟨_, .insertStockMovement input⟩, reply =>
    match reply with
    | .ok _ => if input.storeId = storeId ∧ input.itemId = itemId then input.quantityDelta else 0
    | .error _ => 0
  | _, _ => 0

def Quiet (request : StockRequest) : Prop := ∀ storeId itemId, due storeId itemId request = 0

/-- A written movement is applied next, and nothing else is. -/
def protocol : Protocol StockRequest StockRequest.Reply where
  follows := fun request reply next => ∀ storeId itemId, due storeId itemId next = leaves storeId itemId request reply
  rests := fun may => ∃ next, may next ∧ Quiet next

theorem rests_quiet {may : StockRequest → Prop} (quiet : ∀ request, Quiet request → may request) : protocol.rests may :=
  ⟨⟨none, .ledger .expireStaleReservations⟩, quiet _ fun _ _ => rfl, fun _ _ => rfl⟩

/-- Only the insertion of a movement leaves something. -/
theorem after_quiet {request : StockRequest} {reply : request.Reply}
    (none : ∀ storeId itemId, leaves storeId itemId request reply = 0) (next : StockRequest) (quiet : Quiet next) :
    protocol.follows request reply next := fun storeId itemId => (quiet storeId itemId).trans (none storeId itemId).symm

theorem movement_keeps (storeId registerId : Uuid) (p : StockMovementPayload) :
    protocol.Keeps Quiet (fun may _ => protocol.rests may) (stockMovement storeId registerId p) := by
  unfold stockMovement
  split
  · exact rests_quiet fun _ quiet => quiet
  · refine ⟨fun _ _ => rfl, fun reply => ?_⟩
    cases reply with
    | error error => exact rests_quiet (after_quiet fun _ _ => rfl)
    | ok movement =>
      refine ⟨fun _ _ => rfl, fun reply => ?_⟩
      exact rests_quiet (after_quiet fun _ _ => rfl)

theorem restock_keeps (storeId : Uuid) (lines : List RestockLine) {may : StockRequest → Prop}
    (quiet : ∀ request, Quiet request → may request) :
    protocol.Keeps may (fun may _ => protocol.rests may) (restock storeId lines) := by
  induction lines generalizing may with
  | nil => exact rests_quiet quiet
  | cons line rest ih =>
    refine ⟨quiet _ fun _ _ => rfl, fun reply => ?_⟩
    match reply with
    | .ok (some itemId) =>
      exact ⟨after_quiet (fun _ _ => rfl) _ fun _ _ => rfl, fun _ => ih (after_quiet fun _ _ => rfl)⟩
    | .ok none => exact ih (after_quiet fun _ _ => rfl)
    | .error error => exact ih (after_quiet fun _ _ => rfl)

theorem levels_keeps (storeId : Uuid) (levels : List InventoryLevel) (summary : ReconcileSummary)
    {may : StockRequest → Prop} (quiet : ∀ request, Quiet request → may request) :
    protocol.Keeps may (fun may _ => ∀ request, Quiet request → may request)
      (reconcileLevels storeId summary levels) := by
  induction levels generalizing may summary with
  | nil => exact quiet
  | cons level rest ih =>
    apply Protocol.keeps_andThen
    apply Protocol.keeps_orThrow
    refine ⟨quiet _ fun _ _ => rfl, fun reply => ?_⟩
    cases reply with
    | error error => exact after_quiet fun _ _ => rfl
    | ok previous =>
      apply Protocol.keeps_andThen
      apply Protocol.keeps_orThrow
      refine ⟨after_quiet (fun _ _ => rfl) _ fun _ _ => rfl, fun reply => ?_⟩
      cases reply with
      | error error => exact after_quiet fun _ _ => rfl
      | ok rebased =>
        apply Protocol.keeps_andThen
        apply Protocol.keeps_orThrow
        refine ⟨after_quiet (fun _ _ => rfl) _ fun _ _ => rfl, fun reply => ?_⟩
        cases reply with
        | error error => exact after_quiet fun _ _ => rfl
        | ok after => exact ih _ (after_quiet fun _ _ => rfl)

theorem task_keeps (task : StockTask) :
    protocol.Keeps Quiet (fun may _ => protocol.rests may) task.program := by
  have quiet : ∀ request, Quiet request → Quiet request := fun _ quiet => quiet
  cases task with
  | ledger call =>
    refine ⟨fun _ _ => rfl, fun reply => ?_⟩
    cases reply with
    | error error => exact rests_quiet (after_quiet fun _ _ => rfl)
    | ok done => exact rests_quiet (after_quiet fun _ _ => rfl)
  | stockMovement storeId registerId payload => exact movement_keeps storeId registerId payload
  | restock storeId lines => exact restock_keeps storeId lines quiet
  | reconcile storeId levels =>
    apply Protocol.Keeps.bind
    apply (levels_keeps storeId levels ⟨0, 0⟩ quiet).mono
    rintro may (error | summary) free
    · exact rests_quiet free
    · exact rests_quiet free

end Protocol

section Runs
variable {world : StockWorld} {others : List StockRequest} {choice : StockChoice} {request : StockRequest}

theorem due_none {storeId itemId : Uuid} (none : applies storeId itemId request = false) :
    due storeId itemId request = 0 := by
  obtain ⟨movement, call⟩ := request
  cases movement with
  | none => rfl
  | some movement =>
    cases call <;> try rfl
    next store item delta => exact if_neg (of_decide_eq_false none)

theorem owed_cons (pending : Multiset StockRequest) :
    owed (request ::ₘ pending) = fun storeId itemId => due storeId itemId request + owed pending storeId itemId := by
  funext storeId itemId
  simp [owed]

theorem owed_none {storeId itemId : Uuid} (none : ∀ other ∈ others, applies storeId itemId other = false) :
    owed others storeId itemId = 0 := by
  unfold owed
  refine Multiset.sum_eq_zero fun amount member => ?_
  obtain ⟨other, present, rfl⟩ := Multiset.mem_map.mp member
  exact due_none (none other present)

theorem ledger_books {movement : Option StockMovementRow} {call : LedgerCall}
    (meets : stockStep world others ⟨movement, .ledger call⟩ choice) (books : Books world (owed others)) :
    Books (performLedger choice world call).2 (owed others) := by
  cases call with
  | seedInventoryFromCatalog storeId =>
    simp only [performLedger, seedFromCatalog]
    split
    · refine append_books choice.now books fun row member => ?_
      obtain ⟨item, present, kept⟩ := List.mem_filterMap.mp member
      split at kept
      next untracked =>
        obtain ⟨rfl, fresh⟩ := untracked
        obtain ⟨qty, _, rfl⟩ := Option.map_eq_some_iff.mp kept
        have free : world.tables.inventoryState.any (ofItem item.storeId item.id) = false := by simpa using fresh
        obtain ⟨none, old⟩ := meets item present free
        exact ⟨_, _, _, rfl, free, owed_none none, old⟩
      next => cases kept
    · exact books
  | ensureInventoryState storeId itemId baselineQty =>
    simp only [performLedger, ensureInventoryState]
    cases tracked : world.tables.inventoryState.any (ofItem storeId itemId) with
    | true => exact books
    | false =>
      refine append_books choice.now books fun row member => ?_
      obtain rfl := List.mem_singleton.mp member
      obtain ⟨none, old⟩ := meets tracked
      exact ⟨_, _, _, rfl, tracked, owed_none none, old⟩
  | tryReserve input => exact reserve_books books choice.freshId input
  | releaseLineReservation storeId lineId => exact close_books books _ ReservationState.noConfusion
  | releaseCartReservations storeId cartId => exact close_books books _ ReservationState.noConfusion
  | commitCartSale storeId cartId => exact commit_books books storeId cartId meets
  | expireStaleReservations => exact close_books books _ ReservationState.noConfusion

/-- What one transaction does to the books, with what it still leaves to be applied. -/
theorem step_books (meets : stockStep world others request choice)
    (books : Books world fun storeId itemId => due storeId itemId request + owed others storeId itemId) :
    Books (performStock choice world request).2 fun storeId itemId =>
      leaves storeId itemId request (performStock choice world request).1 + owed others storeId itemId := by
  obtain ⟨movement, call⟩ := request
  have plain (none : ∀ storeId itemId, due storeId itemId ⟨movement, call⟩ = 0) : Books world (owed others) := by
    simp only [none, Int.zero_add] at books
    exact books
  have settled {after : StockWorld} (books : Books after (owed others)) :
      Books after fun storeId itemId => 0 + owed others storeId itemId := by
    simp only [Int.zero_add]
    exact books
  cases call with
  | ledger call =>
    have books := plain fun _ _ => by cases movement <;> rfl
    unfold performStock
    cases choice.storageFailure with
    | some error => exact settled books
    | none => exact settled (ledger_books meets books)
  | getCatalogItemBySku storeId sku => exact settled (plain fun _ _ => by cases movement <;> rfl)
  | getInventoryState storeId itemId =>
    have books := plain fun _ _ => by cases movement <;> rfl
    unfold performStock
    cases choice.storageFailure with
    | some error => exact settled books
    | none => exact settled books
  | insertStockMovement input =>
    have books := plain fun _ _ => by cases movement <;> rfl
    unfold performStock
    cases choice.storageFailure with
    | some error => exact settled books
    | none =>
      dsimp only
      unfold InventoryLedger.insertStockMovement
      cases world.tables.movements.any (·.id = (writtenMovement choice input).id) with
      | true => exact settled books
      | false => exact insert_books books (writtenMovement choice input) meets
  | applyLocalDelta storeId itemId delta =>
    unfold performStock
    cases failure : choice.storageFailure with
    | some error =>
      cases movement with
      | none => exact settled (plain fun _ _ => rfl)
      | some movement => exact absurd (failure.symm.trans (meets rfl)) (by simp)
    | none => exact settled (apply_books books)
  | rebaseBaseline storeId itemId newBaselineQty reflectedThrough =>
    have books := plain fun _ _ => by cases movement <;> rfl
    unfold performStock
    cases choice.storageFailure with
    | some error => exact settled books
    | none => exact settled (rebase_books books meets (owed_none meets.1.1))

theorem books_kept :
    Invariant stockRoom protocol undisturbed (fun _ => Quiet) fun world pending => Books world (owed pending) where
  keeps := task_keeps
  started world others task op _ quiet books := by
    have same : owed (op ::ₘ others) = owed others := by
      rw [owed_cons]
      funext storeId itemId
      rw [quiet, Int.zero_add]
    rw [same]
    exact books
  continued choice world others op next meets books follows := by
    have same : owed (next ::ₘ others) = fun storeId itemId =>
        leaves storeId itemId op (performStock choice world op).1 + owed others storeId itemId := by
      rw [owed_cons]
      funext storeId itemId
      exact congrArg (· + _) (follows storeId itemId)
    rw [owed_cons] at books
    rw [same]
    exact step_books meets books
  finished choice world others op meets books rests := by
    obtain ⟨next, follows, quiet⟩ := rests
    rw [owed_cons] at books
    have after := step_books meets books
    have none (storeId itemId : Uuid) : leaves storeId itemId op (performStock choice world op).1 = 0 :=
      (follows storeId itemId).symm.trans (quiet storeId itemId)
    simp only [none, Int.zero_add] at after
    exact after
  dropped world others op whole books := by
    have same : owed (op ::ₘ others) = owed others := by
      obtain ⟨movement, call⟩ := op
      obtain rfl : movement = none := whole
      rw [owed_cons]
      funext storeId itemId
      exact Int.zero_add _
    rw [same] at books
    exact books

def emptyStock : StockWorld := ⟨emptyLedger, []⟩

/-- In every run that disturbs no stock command, restocks nothing before a rebase and keeps
its clock, the counters are what took effect. -/
theorem counters_follow_the_record (events : List (Event StockChoice StockTask))
    (meets : undisturbed.RunMeets stockRoom (Pool.quiet emptyStock) events) :
    CountsLocally (stockRoom.run (Pool.quiet emptyStock) events).world := by
  have begins : Books emptyStock (owed 0) := by
    refine ⟨?_, ?_, ?_⟩ <;> exact fun _ impossible => nomatch impossible
  have books := books_kept.reached begins meets
  exact fun row member => ⟨(books.booked row member).adjusted, (books.booked row member).sold⟩

end Runs

section Samples

instance (world : StockWorld) (others : List StockRequest) (request : StockRequest) (choice : StockChoice) :
    Decidable (stockStep world others request choice) := by
  unfold stockStep CanRebase Settled
  split <;> infer_instance

instance (world : StockWorld) (others : List StockRequest) (request : StockRequest) (choice : StockChoice) :
    Decidable (undisturbed.step world others request choice) :=
  inferInstanceAs (Decidable (stockStep world others request choice))

instance (world : StockWorld) (others : List StockRequest) (request : StockRequest) :
    Decidable (undisturbed.drop world others request) := inferInstanceAs (Decidable (request.movement = none))

/-- At a time; the id of what is written then is the time as well, and the sku found is item 7. -/
def choiceAt (now : Nat) : StockChoice := ⟨now, .random now, [], .ok (some 7), none⟩

def stepAt (thread now : Nat) : Event StockChoice StockTask := .step thread (choiceAt now)

def trackItem : List (Event StockChoice StockTask) := [.start (.ledger (.ensureInventoryState 1 7 10)), stepAt 0 10]

def received : StockTask := .stockMovement 1 2 ⟨7, 5, "delivery"⟩

def recount : StockTask := .reconcile 1 [⟨7, 15⟩]

/-- Five are received, two are sold, and headquarters counts twice. -/
def orderlyDay : List (Event StockChoice StockTask) :=
  trackItem ++ [.start received, stepAt 0 11, stepAt 0 12,
    .start (.ledger (.tryReserve ⟨1, 2, 3, 4, 7, 2, none⟩)), stepAt 0 13,
    .start (.ledger (.commitCartSale 1 3)), stepAt 0 14,
    .start recount, stepAt 0 15, stepAt 0 16, stepAt 0 17, .start recount, stepAt 0 18, stepAt 0 19, stepAt 0 20]

theorem orderly_day_counts :
    CountsLocally (stockRoom.run (Pool.quiet emptyStock) orderlyDay).world ∧
      (stockRoom.run (Pool.quiet emptyStock) orderlyDay).world.journal.length = 4 :=
  ⟨counters_follow_the_record orderlyDay (by decide +kernel), by decide +kernel⟩

/-- Two units come back, and headquarters counts. -/
def restockedDay : List (Event StockChoice StockTask) :=
  trackItem ++ [.start (.restock 1 [⟨"SKU-7", 2⟩]), stepAt 0 11, stepAt 0 12, .start recount, stepAt 0 13, stepAt 0 14]

/-- Headquarters counts between the two writes of a stock command. -/
def splitDay : List (Event StockChoice StockTask) :=
  trackItem ++ [.start received, stepAt 0 11, .start recount, stepAt 0 12, stepAt 0 13, stepAt 1 14]

/-- The restock is lost, and the received units are counted twice. -/
theorem restock_lost_and_movement_doubled :
    ¬CountsLocally (stockRoom.run (Pool.quiet emptyStock) restockedDay).world ∧
      ¬CountsLocally (stockRoom.run (Pool.quiet emptyStock) splitDay).world := by
  decide +kernel

end Samples

end ApexEdge.Proofs.StockBooks
