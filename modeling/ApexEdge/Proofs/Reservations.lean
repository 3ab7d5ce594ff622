import ApexEdge.Storage.InventoryLedger

/-! The reserved counter of a tracked item is the sum of its active reservations,
whatever operations have run on the ledger. So the counter covers whatever is
taken off it, and its floor at zero is never reached. -/

namespace ApexEdge.Proofs.Reservations
open Library Payment Domain Storage InventoryLedger

inductive Operation where
  | seed (storeId : Uuid) (catalog : List CatalogStock)
  | ensure (storeId itemId : Uuid) (baselineQty : Int)
  | reserve (id : Uuid) (input : ReserveInput)
  | releaseLine (storeId lineId : Uuid)
  | releaseCart (storeId cartId : Uuid)
  | commit (storeId cartId : Uuid)
  | expire
  | applyDelta (storeId itemId : Uuid) (delta : Int)
  | movement (row : StockMovementRow)
  | rebase (storeId itemId : Uuid) (newBaselineQty : Int) (reflectedThrough : Timestamp)
  | reconcile (storeId : Uuid) (levels : List InventoryLevel)

/-- The ledger operations, and the same ones with another way of taking units off. -/
def Operation.run (operation : Operation) (now : Timestamp) (tables : InventoryTables) : InventoryTables :=
  match operation with
  | .seed storeId catalog => (seedFromCatalog storeId catalog now tables).2
  | .ensure storeId itemId baselineQty => (ensureInventoryState storeId itemId baselineQty now tables).2
  | .reserve id input => (tryReserve id input now tables).2
  | .releaseLine storeId lineId => (releaseLineReservation storeId lineId now tables).2
  | .releaseCart storeId cartId => (releaseCartReservations storeId cartId now tables).2
  | .commit storeId cartId => (commitCartSale storeId cartId now tables).2
  | .expire => (expireStaleReservations now tables).2
  | .applyDelta storeId itemId delta => (applyLocalDelta storeId itemId delta now tables).2
  | .movement row => (insertStockMovement row tables).2
  | .rebase storeId itemId newBaselineQty reflectedThrough =>
    rebaseBaseline storeId itemId newBaselineQty reflectedThrough now tables
  | .reconcile storeId levels => (reconcileInventoryLevels storeId levels now tables).2

/-- Release, commit and expire without their floor at zero. -/
def Operation.runUnclamped (operation : Operation) (now : Timestamp) (tables : InventoryTables) : InventoryTables :=
  match operation with
  | .releaseLine storeId lineId =>
    (closeReservations (· - ·) (ofLine storeId lineId) .released now tables).2
  | .releaseCart storeId cartId =>
    (closeReservations (· - ·) (ofCart storeId cartId) .released now tables).2
  | .commit storeId cartId => (closeReservations (· - ·) (ofCart storeId cartId) .committed now tables).2
  | .expire => (closeReservations (· - ·) (isStale now) .expired now tables).2
  | other => other.run now tables

def emptyLedger : InventoryTables := { inventoryState := [], reservations := [], movements := [] }

def runAll (tables : InventoryTables) (operations : List (Operation × Timestamp)) : InventoryTables :=
  operations.foldl (fun tables step => step.1.run step.2 tables) tables

/-- The units of the reservations that `counts` picks. -/
def units (counts : ReservationRow → Bool) (rows : List ReservationRow) : Int :=
  ((rows.filter counts).map ReservationRow.qty).sum

def isOf (storeId itemId : Uuid) (row : ReservationRow) : Bool := row.storeId = storeId ∧ row.itemId = itemId

def isActiveOf (storeId itemId : Uuid) (row : ReservationRow) : Bool :=
  row.state = .active ∧ row.storeId = storeId ∧ row.itemId = itemId

def itemKey (row : InventoryStateRow) : Uuid × Uuid := (row.storeId, row.itemId)

structure Accounted (tables : InventoryTables) : Prop where
  unique : (tables.inventoryState.map itemKey).Nodup
  reserved : ∀ row ∈ tables.inventoryState,
    row.reservedQty = units (isActiveOf row.storeId row.itemId) tables.reservations
  positive : ∀ row ∈ tables.reservations, 0 < row.qty
  tracked : ∀ row ∈ tables.reservations, row.state = .active →
    ∃ state ∈ tables.inventoryState, ofItem row.storeId row.itemId state = true

section Units
variable {counts : ReservationRow → Bool} {rows : List ReservationRow}

@[simp] theorem units_nil : units counts [] = 0 := rfl

theorem units_cons (row : ReservationRow) :
    units counts (row :: rows) = (if counts row then row.qty else 0) + units counts rows := by
  unfold units
  cases counted : counts row <;> simp [counted]

theorem units_append (first second : List ReservationRow) :
    units counts (first ++ second) = units counts first + units counts second := by
  simp [units]

theorem units_nonneg (counts : ReservationRow → Bool) (positive : ∀ row ∈ rows, 0 < row.qty) : 0 ≤ units counts rows := by
  induction rows with
  | nil => simp
  | cons row rows ih =>
    have rest := ih fun row member => positive row (List.mem_cons_of_mem _ member)
    have this := positive row (List.mem_cons_self ..)
    rw [units_cons]
    split <;> omega

theorem units_none (absent : ∀ row ∈ rows, counts row = false) : units counts rows = 0 := by
  unfold units
  rw [List.filter_eq_nil_iff.mpr fun row member => by simp [absent row member]]
  rfl

/-- Closing reservations takes exactly them off the active units. -/
theorem units_marked {marking : Table.Update ReservationRow} {storeId itemId : Uuid}
    (active : ∀ row, marking.selects row = true → row.state = .active)
    (closes : ∀ row, (marking.set row).state ≠ .active) :
    units (isActiveOf storeId itemId) (marking.run rows) =
      units (isActiveOf storeId itemId) rows -
        units (isOf storeId itemId) (rows.filter marking.selects) := by
  induction rows with
  | nil => rfl
  | cons row rows ih =>
    rcases marking.row_cases row with ⟨selected, became⟩ | ⟨kept, became⟩
    · have closed : isActiveOf storeId itemId (marking.set row) = false := by simp [isActiveOf, closes row]
      have counted : isActiveOf storeId itemId row = isOf storeId itemId row := by
        simp [isActiveOf, isOf, active row selected]
      rw [Table.Update.run, List.map_cons, became, units_cons, units_cons, List.filter_cons_of_pos selected,
        units_cons, closed, counted]
      have rest := ih
      rw [Table.Update.run] at rest
      simp only [Bool.false_eq_true, if_false]
      omega
    · rw [Table.Update.run, List.map_cons, became, units_cons, units_cons,
        List.filter_cons_of_neg (by simp [kept])]
      have rest := ih
      rw [Table.Update.run] at rest
      omega

end Units

section Closing
variable {tables : InventoryTables} {now : Timestamp}

/-- What becomes of one ledger row when reservations are taken off it. -/
def closeRow (less : Int → Int → Int) (sells : Bool) (now : Timestamp) (rows : List ReservationRow)
    (row : InventoryStateRow) : InventoryStateRow :=
  rows.foldl (fun row reservation => (closeUpdate less sells now reservation).row row) row

variable (now) in
/-- As long as the counter covers the units, the floor is not reached. -/
theorem closeRow_covered (sells : Bool) {rows : List ReservationRow} (positive : ∀ row ∈ rows, 0 < row.qty)
    (row : InventoryStateRow) (covered : units (isOf row.storeId row.itemId) rows ≤ row.reservedQty) :
    closeRow lessHeld sells now rows row = closeRow (· - ·) sells now rows row ∧
      (closeRow lessHeld sells now rows row).storeId = row.storeId ∧
      (closeRow lessHeld sells now rows row).itemId = row.itemId ∧
      (closeRow lessHeld sells now rows row).reservedQty =
        row.reservedQty - units (isOf row.storeId row.itemId) rows := by
  induction rows generalizing row with
  | nil => exact ⟨rfl, rfl, rfl, by simp [closeRow]⟩
  | cons taken rows ih =>
    have rest : ∀ row ∈ rows, 0 < row.qty := fun row member => positive row (List.mem_cons_of_mem _ member)
    have others := units_nonneg (isOf row.storeId row.itemId) rest
    have step : ∀ less, closeRow less sells now (taken :: rows) row =
      closeRow less sells now rows ((closeUpdate less sells now taken).row row) := fun _ => rfl
    rw [units_cons] at covered ⊢
    rw [step, step]
    by_cases own : taken.storeId = row.storeId ∧ taken.itemId = row.itemId
    · have counted : isOf row.storeId row.itemId taken = true := by simpa [isOf] using own
      rw [counted, if_pos rfl] at covered ⊢
      have selected : ∀ less, (closeUpdate less sells now taken).row row =
          (closeUpdate less sells now taken).set row := by
        intro less
        exact Table.Update.row_selected (by simp [closeUpdate, ofItem, own])
      have floor : lessHeld row.reservedQty taken.qty = row.reservedQty - taken.qty := by
        unfold lessHeld
        omega
      have same : (closeUpdate lessHeld sells now taken).set row = (closeUpdate (· - ·) sells now taken).set row := by
        simp only [closeUpdate, floor]
      rw [selected, selected, same]
      obtain ⟨plain, store, item, reserved⟩ := ih rest ((closeUpdate (· - ·) sells now taken).set row)
        (by simp only [closeUpdate]; omega)
      refine ⟨plain, store, item, reserved.trans ?_⟩
      simp only [closeUpdate]
      omega
    · have uncounted : isOf row.storeId row.itemId taken = false := by simpa [isOf] using own
      rw [uncounted, if_neg Bool.false_ne_true, Int.zero_add] at covered ⊢
      have kept : ∀ less, (closeUpdate less sells now taken).row row = row := by
        intro less
        refine Table.Update.row_kept ?_
        simp only [closeUpdate, ofItem, decide_eq_false_iff_not]
        exact fun same => own ⟨same.1.symm, same.2.symm⟩
      rw [kept, kept]
      exact ih rest row covered

/-- Closing keeps the ledger accounted for, and its floor is not reached. -/
theorem closeReservations_accounted (accounted : Accounted tables) (selects : ReservationRow → Bool)
    {closed : ReservationState} (closes : closed ≠ .active) :
    Accounted (closeReservations lessHeld selects closed now tables).2 ∧
      (closeReservations lessHeld selects closed now tables).2 =
        (closeReservations (· - ·) selects closed now tables).2 := by
  let marking : Table.Update ReservationRow :=
    { selects := fun row => row.state = .active ∧ selects row
      set := fun row => { row with state := closed, updatedAt := now } }
  let rows := tables.reservations.filter marking.selects
  have active : ∀ row, marking.selects row = true → row.state = .active := fun row selected => by
    simp only [marking, decide_eq_true_eq] at selected
    exact selected.1
  have after : ∀ less, (closeReservations less selects closed now tables).2 =
      { tables with
        inventoryState := tables.inventoryState.map (closeRow less (closed = .committed) now rows)
        reservations := marking.run tables.reservations } := by
    intro less
    simp only [closeReservations, Table.foldl_run]
    rfl
  have positive : ∀ row ∈ rows, 0 < row.qty := fun row member =>
    accounted.positive row (List.mem_filter.mp member).1
  have marked : ∀ storeId itemId, units (isActiveOf storeId itemId) (marking.run tables.reservations) =
      units (isActiveOf storeId itemId) tables.reservations - units (isOf storeId itemId) rows :=
    fun _ _ => units_marked active fun _ => closes
  have remaining : ∀ row ∈ marking.run tables.reservations, 0 < row.qty := by
    intro row member
    obtain ⟨old, present, became⟩ := List.mem_map.mp member
    rw [← became, marking.row_column ReservationRow.qty (fun _ => rfl)]
    exact accounted.positive old present
  have covered : ∀ row ∈ tables.inventoryState, units (isOf row.storeId row.itemId) rows ≤ row.reservedQty := by
    intro row member
    have left := units_nonneg (isActiveOf row.storeId row.itemId) remaining
    rw [marked, ← accounted.reserved row member] at left
    omega
  rw [after, after]
  refine ⟨⟨?_, ?_, remaining, ?_⟩, ?_⟩
  · have keys : (tables.inventoryState.map (closeRow lessHeld (closed = .committed) now rows)).map itemKey =
        tables.inventoryState.map itemKey := by
      rw [List.map_map]
      refine List.map_congr_left fun row member => ?_
      obtain ⟨_, store, item, _⟩ := closeRow_covered now (closed = .committed) positive row (covered row member)
      simp only [Function.comp, itemKey, store, item]
    simp only [keys]
    exact accounted.unique
  · intro row member
    obtain ⟨old, present, became⟩ := List.mem_map.mp member
    obtain ⟨_, store, item, reserved⟩ := closeRow_covered now (closed = .committed) positive old (covered old present)
    rw [← became, store, item, reserved, marked, accounted.reserved old present]
  · intro row member still
    obtain ⟨old, present, became⟩ := List.mem_map.mp member
    rcases marking.row_cases old with ⟨_, same⟩ | ⟨_, same⟩
    · rw [← became, same] at still
      exact absurd still closes
    · rw [← became, same] at still ⊢
      obtain ⟨state, tracked, keyed⟩ := accounted.tracked old present still
      obtain ⟨_, store, item, _⟩ := closeRow_covered now (closed = .committed) positive state (covered state tracked)
      refine ⟨_, List.mem_map_of_mem tracked, ?_⟩
      simpa [ofItem, store, item] using keyed
  · congr 1
    exact List.map_congr_left fun row member =>
      (closeRow_covered now (closed = .committed) positive row (covered row member)).1

/-- Only a sale moves the closed units to the sold ones; the other counters stay. -/
theorem closeRow_sold (less : Int → Int → Int) (sells : Bool) (now : Timestamp) (rows : List ReservationRow)
    (row : InventoryStateRow) :
    itemKey (closeRow less sells now rows row) = itemKey row ∧
      (closeRow less sells now rows row).hqBaselineQty = row.hqBaselineQty ∧
      (closeRow less sells now rows row).localAdjustQty = row.localAdjustQty ∧
      (closeRow less sells now rows row).soldSinceSyncQty =
        row.soldSinceSyncQty + if sells then units (isOf row.storeId row.itemId) rows else 0 := by
  induction rows generalizing row with
  | nil => exact ⟨rfl, rfl, rfl, by simp [closeRow]⟩
  | cons taken rows ih =>
    have step : closeRow less sells now (taken :: rows) row =
        closeRow less sells now rows ((closeUpdate less sells now taken).row row) := rfl
    obtain ⟨key, baseline, adjust, sold⟩ := ih ((closeUpdate less sells now taken).row row)
    rw [step, key, baseline, adjust, sold, units_cons]
    rcases (closeUpdate less sells now taken).row_cases row with ⟨selected, became⟩ | ⟨kept, became⟩
    · have own : isOf row.storeId row.itemId taken = true := by
        simp only [closeUpdate, ofItem, decide_eq_true_eq] at selected
        simp only [isOf, selected, and_self, decide_true]
      rw [became, own]
      refine ⟨rfl, rfl, rfl, ?_⟩
      cases sells
      · simp [closeUpdate]
      · simp only [closeUpdate, if_true]
        omega
    · have other : isOf row.storeId row.itemId taken = false := by
        simp only [closeUpdate, ofItem, decide_eq_false_iff_not] at kept
        simp only [isOf, decide_eq_false_iff_not]
        exact fun same => kept ⟨same.1.symm, same.2.symm⟩
      rw [became, other]
      simp

/-- A sale moves units of an item from the active reservations to the sold ones. -/
theorem commit_moves (selects : ReservationRow → Bool) {row : InventoryStateRow}
    (member : row ∈ (closeReservations lessHeld selects .committed now tables).2.inventoryState) :
    ∃ old ∈ tables.inventoryState, itemKey old = itemKey row ∧
      row.soldSinceSyncQty + units (isActiveOf row.storeId row.itemId)
          (closeReservations lessHeld selects .committed now tables).2.reservations =
        old.soldSinceSyncQty + units (isActiveOf old.storeId old.itemId) tables.reservations := by
  simp only [closeReservations, Table.foldl_run] at member ⊢
  obtain ⟨old, present, became⟩ := List.mem_map.mp member
  obtain ⟨key, _, _, sold⟩ := closeRow_sold lessHeld true now
    (tables.reservations.filter fun row => row.state = .active ∧ selects row) old
  have same : row = closeRow lessHeld true now
      (tables.reservations.filter fun row => row.state = .active ∧ selects row) old := became.symm
  rw [← same] at key sold
  refine ⟨old, present, key.symm, ?_⟩
  simp only [itemKey, Prod.mk.injEq] at key
  rw [key.1, key.2, sold, units_marked]
  · simp only [if_true]
    omega
  · intro row selected
    exact (of_decide_eq_true selected).1
  · exact fun _ => ReservationState.noConfusion

end Closing

section Steps
variable {tables : InventoryTables} {now : Timestamp}

/-- Two ledger rows of one item with the same counter. -/
def SameHeld (row old : InventoryStateRow) : Prop :=
  row.storeId = old.storeId ∧ row.itemId = old.itemId ∧ row.reservedQty = old.reservedQty

/-- Rows that start with nothing reserved, for items that were untracked. -/
def StartsFree (tables : InventoryTables) (row : InventoryStateRow) : Prop :=
  row.reservedQty = 0 ∧ ∀ old ∈ tables.inventoryState, ofItem row.storeId row.itemId old = false

/-- Everything but the counters of tracked items may change while reservations stay. -/
theorem accounted_of_rows (accounted : Accounted tables) {after : InventoryTables}
    (reservations : after.reservations = tables.reservations) (unique : (after.inventoryState.map itemKey).Nodup)
    (old : ∀ row ∈ after.inventoryState, (∃ old ∈ tables.inventoryState, SameHeld row old) ∨ StartsFree tables row)
    (kept : ∀ old ∈ tables.inventoryState, ∃ row ∈ after.inventoryState, SameHeld row old) : Accounted after := by
  refine ⟨unique, ?_, by rw [reservations]; exact accounted.positive, ?_⟩
  · intro row member
    rw [reservations]
    rcases old row member with ⟨old, present, store, item, held⟩ | ⟨free, untracked⟩
    · rw [held, store, item]
      exact accounted.reserved old present
    · rw [free, units_none]
      intro reservation present
      by_contra counted
      have counted : isActiveOf row.storeId row.itemId reservation = true := by simpa using counted
      simp only [isActiveOf, decide_eq_true_eq] at counted
      obtain ⟨state, tracked, keyed⟩ := accounted.tracked reservation present counted.1
      rw [counted.2.1, counted.2.2, untracked state tracked] at keyed
      cases keyed
  · rw [reservations]
    intro row member active
    obtain ⟨state, tracked, keyed⟩ := accounted.tracked row member active
    obtain ⟨after, present, store, item, _⟩ := kept state tracked
    exact ⟨after, present, by simpa [ofItem, store, item] using keyed⟩

theorem accounted_append (accounted : Accounted tables) {fresh : List InventoryStateRow}
    (unique : (fresh.map itemKey).Nodup) (free : ∀ row ∈ fresh, StartsFree tables row) :
    Accounted { tables with inventoryState := tables.inventoryState ++ fresh } := by
  refine accounted_of_rows accounted rfl ?_ ?_ ?_
  · rw [List.map_append, List.nodup_append]
    refine ⟨accounted.unique, unique, ?_⟩
    intro key old other new clash
    obtain ⟨row, member, keyed⟩ := List.mem_map.mp old
    obtain ⟨added, fresh, same⟩ := List.mem_map.mp new
    have untracked := (free added fresh).2 row member
    have equal : itemKey row = itemKey added := keyed.trans (clash.trans same.symm)
    simp only [itemKey, Prod.mk.injEq] at equal
    simp [ofItem, equal.1, equal.2] at untracked
  · intro row member
    rcases List.mem_append.mp member with old | new
    · exact .inl ⟨row, old, rfl, rfl, rfl⟩
    · exact .inr (free row new)
  · intro old present
    exact ⟨old, List.mem_append_left _ present, rfl, rfl, rfl⟩

/-- Statements that set neither the key nor the counter. -/
theorem accounted_run (accounted : Accounted tables) {update : Table.Update InventoryStateRow}
    (unset : ∀ row, SameHeld (update.set row) row) :
    Accounted { tables with inventoryState := update.run tables.inventoryState } := by
  have same : ∀ row, SameHeld (update.row row) row := fun row =>
    ⟨update.row_column _ (fun row => (unset row).1) row, update.row_column _ (fun row => (unset row).2.1) row,
      update.row_column _ (fun row => (unset row).2.2) row⟩
  refine accounted_of_rows accounted rfl ?_ ?_ ?_
  · refine Table.unique_run (fun row => ?_) accounted.unique
    obtain ⟨store, item, _⟩ := unset row
    simp only [itemKey, store, item]
  · intro row member
    obtain ⟨old, present, became⟩ := List.mem_map.mp member
    exact .inl ⟨old, present, became ▸ same old⟩
  · intro old present
    exact ⟨_, List.mem_map_of_mem present, same old⟩

theorem startsFree_new {storeId itemId : Uuid} {row : InventoryStateRow}
    (untracked : tables.inventoryState.any (ofItem storeId itemId) = false)
    (keyed : itemKey row = (storeId, itemId)) (free : row.reservedQty = 0) : StartsFree tables row := by
  refine ⟨free, fun old present => ?_⟩
  simp only [itemKey, Prod.mk.injEq] at keyed
  rw [keyed.1, keyed.2]
  simpa using List.any_eq_false.mp untracked old present

theorem seed_accounted (accounted : Accounted tables) (storeId : Uuid) (catalog : List CatalogStock) :
    Accounted (seedFromCatalog storeId catalog now tables).2 := by
  unfold seedFromCatalog
  dsimp only
  split
  · rename_i distinct
    have made : ∀ row ∈ catalog.filterMap (fun item =>
        if item.storeId = storeId ∧ !tables.inventoryState.any (ofItem storeId item.id) then
          item.availableQty.map fun qty => newStateRow item.storeId item.id qty now
        else none), row.storeId = storeId ∧ StartsFree tables row := by
      intro row member
      obtain ⟨item, _, made⟩ := List.mem_filterMap.mp member
      split at made
      · rename_i wanted
        obtain ⟨qty, _, same⟩ := Option.map_eq_some_iff.mp made
        rw [← same]
        exact ⟨wanted.1, startsFree_new (by simpa using wanted.2) (by rw [← wanted.1]; rfl) rfl⟩
      · cases made
    refine accounted_append accounted ?_ fun row member => (made row member).2
    refine List.Nodup.of_map Prod.snd ?_
    rw [List.map_map]
    exact distinct
  · exact accounted

theorem ensure_accounted (accounted : Accounted tables) (storeId itemId : Uuid) (baselineQty : Int) :
    Accounted (ensureInventoryState storeId itemId baselineQty now tables).2 := by
  unfold ensureInventoryState
  split
  · exact accounted
  · rename_i untracked
    have free : tables.inventoryState.any (ofItem storeId itemId) = false := by simpa using untracked
    refine accounted_append accounted (by simp) ?_
    intro row member
    rw [List.mem_singleton.mp member]
    exact startsFree_new free rfl rfl

/-- A reservation takes its units on the one row of its item. -/
theorem reserve_accounted (accounted : Accounted tables) (id : Uuid) (input : ReserveInput) :
    Accounted (tryReserve id input now tables).2 := by
  unfold tryReserve
  by_cases nothing : input.qty ≤ 0
  · rw [if_pos nothing]
    exact accounted
  · rw [if_neg nothing]
    split
    · exact accounted
    · dsimp only
      split
      · rename_i available
        split
        · exact accounted
        · obtain ⟨row, member, selected⟩ := List.any_eq_true.mp available
          have guarded : ∀ row, (reserveUpdate input now).selects row = true →
              itemKey row = (input.storeId, input.itemId) := by
            intro row selected
            simp only [reserveUpdate, ofItem, Bool.decide_and, Bool.and_eq_true, decide_eq_true_eq] at selected
            simp only [itemKey, selected.1.1, selected.1.2]
          refine ⟨Table.unique_run (fun _ => rfl) accounted.unique, ?_, ?_, ?_⟩
          · intro after present
            obtain ⟨old, present, became⟩ := List.mem_map.mp present
            rw [units_append, units_cons, units_nil]
            rcases (reserveUpdate input now).row_cases old with ⟨selected, same⟩ | ⟨kept, same⟩
            · have keyed := guarded old selected
              simp only [itemKey, Prod.mk.injEq] at keyed
              rw [← became, same]
              simp only [reserveUpdate, newReservation, isActiveOf, keyed, and_self, decide_true, if_true,
                accounted.reserved old present]
              omega
            · -- Any other row has another key.
              have other : itemKey old ≠ (input.storeId, input.itemId) := by
                intro equal
                have one := Table.find?_of_unique accounted.unique present
                have two := Table.find?_of_unique accounted.unique member
                rw [equal] at one
                rw [guarded row selected] at two
                cases one.symm.trans two
                rw [selected] at kept
                cases kept
              have uncounted : isActiveOf old.storeId old.itemId (newReservation id input now) = false := by
                simp only [isActiveOf, newReservation, decide_eq_false_iff_not]
                exact fun equal => other (by simp only [itemKey, equal.2.1, equal.2.2])
              rw [← became, same, uncounted, accounted.reserved old present]
              simp
          · intro reservation present
            rcases List.mem_append.mp present with old | new
            · exact accounted.positive reservation old
            · rw [List.mem_singleton.mp new]
              exact Int.not_le.mp nothing
          · intro reservation present active
            have keys : ∀ state : InventoryStateRow, ∀ storeId itemId,
                ofItem storeId itemId ((reserveUpdate input now).row state) = ofItem storeId itemId state :=
              fun state storeId itemId => (reserveUpdate input now).row_column (ofItem storeId itemId) (fun _ => rfl) state
            rcases List.mem_append.mp present with old | new
            · obtain ⟨state, tracked, keyed⟩ := accounted.tracked reservation old active
              exact ⟨_, List.mem_map_of_mem tracked, (keys state _ _).trans keyed⟩
            · rw [List.mem_singleton.mp new]
              refine ⟨_, List.mem_map_of_mem member, (keys row _ _).trans ?_⟩
              have keyed := guarded row selected
              simp only [itemKey, Prod.mk.injEq] at keyed
              simp [ofItem, newReservation, keyed.1, keyed.2]
      · exact accounted

theorem delta_accounted (accounted : Accounted tables) (storeId itemId : Uuid) (delta : Int) :
    Accounted (applyLocalDelta storeId itemId delta now tables).2 := by
  unfold applyLocalDelta
  split
  · exact accounted_run accounted fun _ => ⟨rfl, rfl, rfl⟩
  · exact accounted

theorem rebase_accounted (accounted : Accounted tables) (storeId itemId : Uuid) (newBaselineQty : Int)
    (reflectedThrough : Timestamp) :
    Accounted (rebaseBaseline storeId itemId newBaselineQty reflectedThrough now tables) := by
  unfold rebaseBaseline Table.upsert
  dsimp only
  split
  · exact accounted_run accounted fun _ => ⟨rfl, rfl, rfl⟩
  · rename_i untracked
    have free : tables.inventoryState.any (ofItem storeId itemId) = false := by simpa using untracked
    refine accounted_append accounted (by simp) ?_
    intro row member
    rw [List.mem_singleton.mp member]
    exact startsFree_new free rfl rfl

theorem reconcile_accounted (accounted : Accounted tables) (storeId : Uuid) (levels : List InventoryLevel) :
    Accounted (reconcileInventoryLevels storeId levels now tables).2 := by
  unfold reconcileInventoryLevels
  generalize (⟨0, 0⟩ : ReconcileSummary) = summary
  induction levels generalizing tables summary with
  | nil => exact accounted
  | cons level levels ih => exact ih (rebase_accounted accounted _ _ _ _) _

theorem movement_accounted (accounted : Accounted tables) (movement : StockMovementRow) :
    Accounted (insertStockMovement movement tables).2 := by
  unfold insertStockMovement
  split
  · exact accounted
  · exact ⟨accounted.unique, accounted.reserved, accounted.positive, accounted.tracked⟩

variable (now) in
/-- One operation keeps the ledger accounted for, and would do the same unclamped. -/
theorem run_accounted (accounted : Accounted tables) (operation : Operation) :
    Accounted (operation.run now tables) ∧ operation.run now tables = operation.runUnclamped now tables := by
  cases operation with
  | seed storeId catalog => exact ⟨seed_accounted accounted _ _, rfl⟩
  | ensure storeId itemId baselineQty => exact ⟨ensure_accounted accounted _ _ _, rfl⟩
  | reserve id input => exact ⟨reserve_accounted accounted _ _, rfl⟩
  | releaseLine storeId lineId => exact closeReservations_accounted accounted _ (by decide)
  | releaseCart storeId cartId => exact closeReservations_accounted accounted _ (by decide)
  | commit storeId cartId => exact closeReservations_accounted accounted _ (by decide)
  | expire => exact closeReservations_accounted accounted _ (by decide)
  | applyDelta storeId itemId delta => exact ⟨delta_accounted accounted _ _ _, rfl⟩
  | movement row => exact ⟨movement_accounted accounted _, rfl⟩
  | rebase storeId itemId newBaselineQty reflectedThrough => exact ⟨rebase_accounted accounted _ _ _ _, rfl⟩
  | reconcile storeId levels => exact ⟨reconcile_accounted accounted _ _, rfl⟩

theorem runAll_accounted (accounted : Accounted tables) (operations : List (Operation × Timestamp)) :
    Accounted (runAll tables operations) := by
  induction operations generalizing tables with
  | nil => exact accounted
  | cons step operations ih => exact ih (run_accounted step.2 accounted step.1).1

end Steps

/-- After any operations, every reserved counter is the sum of the active
reservations of its item, and no operation would do anything else unclamped. -/
theorem reserved_is_sum_of_active (operations : List (Operation × Timestamp)) :
    (∀ row ∈ (runAll emptyLedger operations).inventoryState, row.reservedQty =
      units (isActiveOf row.storeId row.itemId) (runAll emptyLedger operations).reservations) ∧
    ∀ (operation : Operation) (now : Timestamp), operation.run now (runAll emptyLedger operations) =
      operation.runUnclamped now (runAll emptyLedger operations) := by
  have accounted : Accounted (runAll emptyLedger operations) := by
    refine runAll_accounted ?_ operations
    constructor <;> simp [emptyLedger]
  exact ⟨accounted.reserved, fun operation now => (run_accounted now accounted operation).2⟩

end ApexEdge.Proofs.Reservations
