import ApexEdge.Library.Totals
import ApexEdge.Pos.LineCommands
import ApexEdge.Proofs.CartPricing
import ApexEdge.Proofs.Reservations

/-! The ledger by what it holds. Its active reservations tell what is held of each item, and
with the counters of its rows they tell what is free. -/

namespace ApexEdge.Proofs.StockHolds
open Library Payment Domain Storage InventoryLedger Reservations Table

/-- What an active reservation holds, for whom. When it expires is left out. -/
structure Hold where
  storeId : Uuid
  cartId : Uuid
  lineId : Uuid
  itemId : Uuid
  qty : Int
  deriving DecidableEq, Repr

namespace Hold

def ofRow (row : ReservationRow) : Hold := ⟨row.storeId, row.cartId, row.lineId, row.itemId, row.qty⟩

def ofInput (input : ReserveInput) : Hold := ⟨input.storeId, input.cartId, input.lineId, input.itemId, input.qty⟩

def stock (hold : Hold) : Uuid × Uuid := (hold.storeId, hold.itemId)

def onLine (storeId lineId : Uuid) (hold : Hold) : Bool := hold.storeId = storeId ∧ hold.lineId = lineId

end Hold

def held (inventory : InventoryTables) : List Hold :=
  (inventory.reservations.filter (·.state = .active)).map Hold.ofRow

def heldOn (storeId lineId : Uuid) (inventory : InventoryTables) : List Hold :=
  (held inventory).filter (Hold.onLine storeId lineId)

def heldBy (cartId : Uuid) (inventory : InventoryTables) : List Hold := (held inventory).filter (·.cartId = cartId)

def unitsHeld (storeId itemId : Uuid) (holds : List Hold) : Int :=
  total (·.stock = (storeId, itemId)) Hold.qty holds

/-- Nothing is reserved of an item without a row. -/
def reservedQty (storeId itemId : Uuid) (inventory : InventoryTables) : Int :=
  ((getInventoryState storeId itemId inventory).map (·.reservedQty)).getD 0

/-- What can still be held of a tracked item. -/
def freeQty (storeId itemId : Uuid) (inventory : InventoryTables) : Option Int :=
  (getInventoryState storeId itemId inventory).map (·.uncommitted)

def fits (quantity : Int) (free : Option Int) : Bool := 0 < quantity ∧ free.any (quantity ≤ ·)

section Ledger
variable {inventory : InventoryTables} {storeId lineId itemId id : Uuid} {now : Timestamp} {input : ReserveInput}

theorem held_positive (accounted : Accounted inventory) : ∀ hold ∈ held inventory, 0 < hold.qty := by
  intro hold member
  obtain ⟨row, present, rfl⟩ := List.mem_map.mp member
  exact accounted.positive row (List.mem_filter.mp present).1

theorem unitsHeld_eq : unitsHeld storeId itemId (held inventory) =
    units (isActiveOf storeId itemId) inventory.reservations := by
  rw [unitsHeld, held, total_map, total, List.filter_filter]
  refine congrArg (fun rows => (rows.map ReservationRow.qty).sum) (List.filter_congr fun row _ => ?_)
  simp only [Function.comp, Hold.stock, Hold.ofRow, isActiveOf, Prod.mk.injEq, Bool.decide_and, Bool.and_comm]

theorem state_key {row : InventoryStateRow} (found : getInventoryState storeId itemId inventory = some row) :
    row ∈ inventory.inventoryState ∧ row.storeId = storeId ∧ row.itemId = itemId := by
  have key := List.find?_some found
  simp only [ofItem, decide_eq_true_eq] at key
  exact ⟨List.mem_of_find?_eq_some found, key⟩

/-- The reserved quantity of every item is what is held of it. -/
theorem reservedQty_eq (storeId itemId : Uuid) (accounted : Accounted inventory) :
    reservedQty storeId itemId inventory = unitsHeld storeId itemId (held inventory) := by
  rw [unitsHeld_eq, reservedQty]
  cases found : getInventoryState storeId itemId inventory with
  | some row =>
    obtain ⟨member, rfl, rfl⟩ := state_key found
    exact accounted.reserved row member
  | none =>
    refine (units_none fun row member => ?_).symm
    by_contra counted
    have counted : isActiveOf storeId itemId row = true := by simpa using counted
    simp only [isActiveOf, decide_eq_true_eq] at counted
    obtain ⟨state, tracked, keyed⟩ := accounted.tracked row member counted.1
    rw [counted.2.1, counted.2.2] at keyed
    exact List.find?_eq_none.mp found state tracked keyed

/-- A new row starts with its baseline free. -/
theorem free_ensure (baselineQty : Int) :
    freeQty storeId itemId (ensureInventoryState storeId itemId baselineQty now inventory).2 =
      some ((freeQty storeId itemId inventory).getD baselineQty) := by
  unfold ensureInventoryState freeQty getInventoryState
  split
  · rename_i tracked
    obtain ⟨row, found⟩ := Option.isSome_iff_exists.mp (List.find?_isSome.mpr (List.any_eq_true.mp tracked))
    rw [found]
    rfl
  · rename_i untracked
    have none : inventory.inventoryState.find? (ofItem storeId itemId) = none := by
      simpa using untracked
    rw [List.find?_append, none]
    simp [newStateRow, ofItem, InventoryStateRow.uncommitted]

/-- Releasing a line takes its holds away. -/
theorem held_release : held (releaseLineReservation storeId lineId now inventory).2 =
    (held inventory).filter (!Hold.onLine storeId lineId ·) := by
  let marking : Table.Update ReservationRow :=
    { selects := fun row => row.state = .active ∧ ofLine storeId lineId row
      set := fun row => { row with state := .released, updatedAt := now } }
  have dropped : (marking.run inventory.reservations).filter (·.state = .active) =
      (inventory.reservations.filter fun row => !marking.selects row).filter (·.state = .active) :=
    filter_dropped fun row _ => rfl
  show ((marking.run inventory.reservations).filter (·.state = .active)).map Hold.ofRow = _
  rw [dropped, held, List.filter_map, List.filter_filter, List.filter_filter]
  refine congrArg (List.map Hold.ofRow) (List.filter_congr fun row _ => ?_)
  have line : Hold.onLine storeId lineId (Hold.ofRow row) = ofLine storeId lineId row := rfl
  by_cases active : row.state = .active <;> simp [active, marking, line]

theorem release_accounted (storeId lineId : Uuid) (now : Timestamp) (accounted : Accounted inventory) :
    Accounted (releaseLineReservation storeId lineId now inventory).2 :=
  (closeReservations_accounted accounted _ (by decide)).1

/-- What was held of a line becomes free. -/
theorem free_release (accounted : Accounted inventory) :
    freeQty storeId itemId (releaseLineReservation storeId lineId now inventory).2 =
      (freeQty storeId itemId inventory).map (· + unitsHeld storeId itemId (heldOn storeId lineId inventory)) := by
  let rows := inventory.reservations.filter fun row => row.state = .active ∧ ofLine storeId lineId row
  have states : (releaseLineReservation storeId lineId now inventory).2.inventoryState =
      inventory.inventoryState.map (closeRow lessHeld false now rows) := by
    simp only [releaseLineReservation, closeReservations, Table.foldl_run]
    rfl
  have keys : ofItem storeId itemId ∘ closeRow lessHeld false now rows = ofItem storeId itemId := by
    funext row
    have key := (closeRow_sold lessHeld false now rows row).1
    simp only [itemKey, Prod.mk.injEq] at key
    simp only [Function.comp, ofItem, key.1, key.2]
  have found : getInventoryState storeId itemId (releaseLineReservation storeId lineId now inventory).2 =
      (getInventoryState storeId itemId inventory).map (closeRow lessHeld false now rows) := by
    rw [getInventoryState, states, List.find?_map, keys]
    rfl
  have before := reservedQty_eq storeId itemId accounted
  have after := reservedQty_eq storeId itemId (release_accounted storeId lineId now accounted)
  have split := total_perm (·.stock = (storeId, itemId)) Hold.qty
    (List.filter_append_perm (Hold.onLine storeId lineId) (held inventory))
  rw [total_append] at split
  rw [held_release] at after
  unfold reservedQty at before after
  unfold freeQty
  rw [found] at after ⊢
  cases state : getInventoryState storeId itemId inventory with
  | none => rfl
  | some row =>
    obtain ⟨-, baseline, adjust, sold⟩ := closeRow_sold lessHeld false now rows row
    rw [state] at before after
    simp only [Option.map_some, Option.getD_some] at before after ⊢
    simp only [Bool.false_eq_true, if_false, Int.add_zero] at sold
    simp only [unitsHeld, heldOn] at before after ⊢
    refine congrArg some ?_
    simp only [InventoryStateRow.uncommitted, baseline, adjust, sold]
    omega

/-- A reservation takes all it asks for, or nothing. -/
theorem reserve_cases (now : Timestamp) (accounted : Accounted inventory)
    (fresh : ∀ row ∈ inventory.reservations, row.id ≠ id) :
    fits input.qty (freeQty input.storeId input.itemId inventory) = true ∧
        (tryReserve id input now inventory).1 = .ok .reserved ∧
        held (tryReserve id input now inventory).2 = held inventory ++ [Hold.ofInput input] ∨
      fits input.qty (freeQty input.storeId input.itemId inventory) = false ∧
        0 < input.qty ∧ freeQty input.storeId input.itemId inventory = none ∧
        tryReserve id input now inventory = (.ok .untracked, inventory) ∨
      fits input.qty (freeQty input.storeId input.itemId inventory) = false ∧
        ¬(0 < input.qty ∧ freeQty input.storeId input.itemId inventory = none) ∧
        ∃ available, tryReserve id input now inventory = (.ok (.insufficient available), inventory) := by
  unfold tryReserve fits freeQty
  by_cases positive : input.qty ≤ 0
  · refine .inr (.inr ⟨?_, fun tracked => absurd tracked.1 (by omega), 0, by rw [if_pos positive]⟩)
    simp [Int.not_lt.mpr positive]
  · have asked : 0 < input.qty := by omega
    rw [if_neg positive]
    cases state : getInventoryState input.storeId input.itemId inventory with
    | none => exact .inr (.inl ⟨by simp, asked, rfl, rfl⟩)
    | some row =>
      obtain ⟨member, store, item⟩ := state_key state
      have unused : inventory.reservations.any (·.id = id) = false := by
        simpa using fresh
      by_cases enough : input.qty ≤ row.uncommitted
      · have selected : inventory.inventoryState.any (reserveUpdate input now).selects = true :=
          List.any_eq_true.mpr ⟨row, member, by simp [reserveUpdate, ofItem, store, item, enough]⟩
        simp only [selected, unused, if_true, Bool.false_eq_true, if_false]
        refine .inl ⟨by simp [asked, enough], trivial, ?_⟩
        simp [held, newReservation, Hold.ofRow, Hold.ofInput]
      · -- No other row has the item.
        have passed : inventory.inventoryState.any (reserveUpdate input now).selects = false := by
          refine List.any_eq_false.mpr fun other present taken => enough ?_
          simp only [reserveUpdate, ofItem, Bool.decide_and, Bool.and_eq_true, decide_eq_true_eq] at taken
          have first := Table.find?_of_unique accounted.unique member
          have second := Table.find?_of_unique accounted.unique present
          have same : itemKey other = itemKey row := by simp only [itemKey, taken.1.1, taken.1.2, store, item]
          rw [same] at second
          cases first.symm.trans second
          exact taken.2
        simp only [passed, Bool.false_eq_true, if_false]
        exact .inr (.inr ⟨by simp [enough], fun tracked => by simp at tracked, _, rfl⟩)

end Ledger
end ApexEdge.Proofs.StockHolds

/-! What a command on a line leaves behind when it fails. Nothing has happened before it
touches the ledger; from then on it depends on which call fails, and on what the line held. -/

namespace ApexEdge.Proofs.FailedEdits
open Library Payment Domain Storage Contracts Pos
open Hub InventoryLedger Reservations StockHolds CartPricing

/-- The cart, what is held for it and what is reserved of each item are as before. -/
structure Unchanged (cartId : Uuid) (before after : LineTables) : Prop where
  cart : Carts.load cartId after.carts = Carts.load cartId before.carts
  reservations : (heldBy cartId after.inventory).Perm (heldBy cartId before.inventory)
  reserved : ∀ storeId itemId, reservedQty storeId itemId after.inventory = reservedQty storeId itemId before.inventory

/-- The ledger has come about by its own operations. -/
def Reached (tables : LineTables) : Prop := ∃ operations, tables.inventory = runAll emptyLedger operations

/-- Random ids are not in use. -/
structure NewIds (stamps : LineStamps) (moments : LineStep → Moment) (inventory : InventoryTables) : Prop where
  line : ∀ row ∈ inventory.reservations, row.lineId ≠ stamps.lineId
  rows : ∀ step, ∀ row ∈ inventory.reservations, row.id ≠ (moments step).id

/-- A line's holds have been replaced by others, and no cart has been saved. -/
structure Replaced (storeId lineId : Uuid) (put : List Hold) (before after : LineTables) : Prop where
  carts : after.carts = before.carts
  accounted : Accounted after.inventory
  held : held after.inventory = (held before.inventory).filter (!Hold.onLine storeId lineId ·) ++ put

theorem Reached.accounted {tables : LineTables} (reached : Reached tables) : Accounted tables.inventory := by
  obtain ⟨operations, same⟩ := reached
  rw [same]
  refine runAll_accounted ?_ operations
  constructor <;> simp [emptyLedger]

theorem Unchanged.refl (cartId : Uuid) (tables : LineTables) : Unchanged cartId tables tables :=
  ⟨rfl, .refl _, fun _ _ => rfl⟩

/-- The command is as if it had not been exactly when the line held what it holds now. -/
theorem Replaced.unchanged_iff {storeId lineId : Uuid} {put : List Hold} {before after : LineTables}
    (replaced : Replaced storeId lineId put before after) (cartId : Uuid) (accounted : Accounted before.inventory)
    (mine : ∀ hold ∈ put, hold.cartId = cartId) :
    Unchanged cartId before after ↔ (heldOn storeId lineId before.inventory).Perm put := by
  have same := Table.replaced_iff Hold.stock (Hold.onLine storeId lineId) (fun hold => hold.cartId = cartId)
    (held_positive accounted) (fun hold member => decide_eq_true (mine hold member))
  rw [← replaced.held] at same
  refine Iff.trans ?_ same
  have quantities : (∀ storeId itemId,
      reservedQty storeId itemId after.inventory = reservedQty storeId itemId before.inventory) ↔
      ∀ key, Table.total (·.stock = key) Hold.qty (StockHolds.held after.inventory) =
        Table.total (·.stock = key) Hold.qty (StockHolds.held before.inventory) := by
    simp only [reservedQty_eq _ _ accounted, reservedQty_eq _ _ replaced.accounted, unitsHeld, Prod.forall]
  exact ⟨fun unchanged => ⟨unchanged.reservations, quantities.mp unchanged.reserved⟩,
    fun both => ⟨by rw [replaced.carts], both.1, quantities.mpr both.2⟩⟩

section Runs
variable (moments : LineStep → Moment) {α β : Type}

/-- The program returns an error. -/
def Stops (program : LineAction α) (before after : LineTables) : Prop :=
  ∃ errors, Fallible.run (answerLine moments) program before = (.error errors, after)

def Yields (program : LineAction α) (before : LineTables) (value : α) (after : LineTables) : Prop :=
  Fallible.run (answerLine moments) program before = (.ok value, after)

def passes (step : LineStep) : Bool := (moments step).failure.isNone

variable {moments} {first : LineAction α} {next : α → LineAction β} {before middle after : LineTables}

theorem Stops.bind (stops : Stops moments first before after) : Stops moments (first >>= next) before after := by
  obtain ⟨errors, stopped⟩ := stops
  exact ⟨errors, Fallible.run_bind_error _ errors after stopped⟩

theorem Yields.run {value : α} (yields : Yields moments first before value middle) :
    Fallible.run (answerLine moments) (first >>= next) before = Fallible.run (answerLine moments) (next value) middle :=
  Fallible.run_bind_ok _ value middle yields

theorem Yields.stops {value : α} (yields : Yields moments first before value middle)
    (stops : Stops moments (next value) middle after) : Stops moments (first >>= next) before after := by
  obtain ⟨errors, stopped⟩ := stops
  exact ⟨errors, yields.run.trans stopped⟩

theorem Yields.bind {value : α} {result : β} (yields : Yields moments first before value middle)
    (rest : Yields moments (next value) middle result after) : Yields moments (first >>= next) before result after :=
  yields.run.trans rest

theorem Yields.uncaught {program : LineAction α} {value : α} (yields : Yields moments program before value after)
    (handler : List PosError → LineAction α) : Yields moments (tryCatch program handler) before value after := by
  have run : Fallible.run (answerLine moments) program before = (.ok value, after) := yields
  rw [Yields, Fallible.run_tryCatch, run]

theorem Stops.caught {program : LineAction α} (stops : Stops moments program before middle)
    {handler : List PosError → LineAction α} (handled : ∀ errors, Stops moments (handler errors) middle after) :
    Stops moments (tryCatch program handler) before after := by
  obtain ⟨errors, stopped⟩ := stops
  rw [Stops, Fallible.run_tryCatch, stopped]
  exact handled errors

theorem stops_throw (errors : List PosError) : Stops moments (throw errors : LineAction α) before before :=
  ⟨errors, rfl⟩

variable {step : LineStep} {call : LineCall} {tables : LineTables}

theorem reply_passes (tables : LineTables) (call : LineCall) (passed : passes moments step = true) :
    Yields moments (lineReply step call) tables
    (call.perform (moments step).id (moments step).now tables).1
    (call.perform (moments step).id (moments step).now tables).2 := by
  have quiet : (moments step).failure = none := Option.isNone_iff_eq_none.mp passed
  simp only [Yields, lineReply, Fallible.run_ask, answerLine, quiet]

theorem reply_fails (tables : LineTables) (call : LineCall) (failed : passes moments step = false) :
    ∃ error, Yields moments (lineReply step call) tables (.error error) tables := by
  obtain ⟨error, found⟩ := Option.isSome_iff_exists.mp (by simpa [passes] using failed)
  exact ⟨error, by simp only [Yields, lineReply, Fallible.run_ask, answerLine, found]⟩

theorem reply_stops (failed : passes moments step = false) (wrap : PoolError → List PosError) :
    Stops moments ((lineReply step call).orThrow wrap) tables tables := by
  obtain ⟨error, replied⟩ := reply_fails tables call failed
  exact replied.stops (stops_throw (wrap error))

theorem reply_yields (tables : LineTables) (call : LineCall) (passed : passes moments step = true)
    (wrap : PoolError → List PosError) {value : call.Value}
    (performed : (call.perform (moments step).id (moments step).now tables).1 = .ok value) :
    Yields moments ((lineReply step call).orThrow wrap) tables value
      (call.perform (moments step).id (moments step).now tables).2 := by
  have replied := reply_passes tables call passed
  rw [performed] at replied
  exact replied.bind rfl

end Runs

section Parts
variable (moments : LineStep → Moment) (tables : LineTables)

/-- The cart of a command that gets to edit it. -/
def opened (cartId : Uuid) : Option Cart :=
  if passes moments .loadCart then
    (Carts.load cartId tables.carts).filter fun cart => (ensureEditable cart).toBool
  else none

/-- The item of a command that gets to sell it. -/
def sellable (storeId itemId : Uuid) : Option CatalogItem :=
  if passes moments .getCatalogItem then (tables.synced.items storeId itemId).filter (·.isActive) else none

/-- Whether the reads of the pricing and the saving of the cart all go through. -/
def goesThrough : Bool := passes moments .listTaxRules ∧ passes moments .listPromotions ∧ passes moments .saveCart

variable {moments} {tables} {storeId registerId cartId : Uuid} {stamps : LineStamps} {cart : Cart}

theorem load_opened (found : opened moments tables cartId = some cart) :
    Yields moments (loadEditable cartId) tables cart tables := by
  unfold opened at found
  split at found
  · rename_i passed
    obtain ⟨loaded, editable⟩ := Option.filter_eq_some_iff.mp found
    have replied := reply_passes tables (.loadCart cartId) passed
    simp only [LineCall.perform, loaded] at replied
    refine replied.bind ?_
    cases checked : ensureEditable cart with
    | error errors => simp [checked, Except.toBool] at editable
    | ok => simp only [checked]; rfl
  · cases found

theorem load_closed (missing : opened moments tables cartId = none) :
    Stops moments (loadEditable cartId) tables tables := by
  unfold opened at missing
  split at missing
  · rename_i passed
    have replied := reply_passes tables (.loadCart cartId) passed
    simp only [LineCall.perform] at replied
    cases loaded : Carts.load cartId tables.carts with
    | none =>
      rw [loaded] at replied
      exact replied.stops (stops_throw cartNotFound)
    | some cart =>
      rw [loaded] at replied missing
      cases checked : ensureEditable cart with
      | ok => simp [checked, Except.toBool] at missing
      | error errors => exact replied.stops (by simp only [checked]; exact ⟨errors, rfl⟩)
  · rename_i failed
    obtain ⟨error, replied⟩ := reply_fails tables (.loadCart cartId) (by simpa using failed)
    exact replied.stops (stops_throw cartNotFound)

theorem reads_categories (moments : LineStep → Moment) (tables : LineTables) (storeId : Uuid)
    (lines : List CartLineItem) (known : List (Uuid × Uuid)) :
    ∃ categories, Yields moments (readTaxCategories storeId lines known) tables categories tables := by
  induction lines generalizing known with
  | nil => exact ⟨known, rfl⟩
  | cons line lines ih =>
    cases passed : passes moments (.taxCategory line.lineId) with
    | false =>
      obtain ⟨error, replied⟩ := reply_fails tables (.getCatalogItem storeId line.itemId) passed
      obtain ⟨categories, rest⟩ := ih known
      exact ⟨categories, replied.bind rest⟩
    | true =>
      have replied := reply_passes tables (.getCatalogItem storeId line.itemId) passed
      simp only [LineCall.perform] at replied
      cases found : tables.synced.items storeId line.itemId with
      | none =>
        rw [found] at replied
        obtain ⟨categories, rest⟩ := ih known
        exact ⟨categories, replied.bind rest⟩
      | some item =>
        rw [found] at replied
        obtain ⟨categories, rest⟩ := ih ((line.itemId, item.taxCategoryId) :: known)
        exact ⟨categories, replied.bind rest⟩

theorem prices_yields (tables : LineTables) (storeId : Uuid) (stamps : LineStamps)
    (rules : passes moments .listTaxRules = true) (promos : passes moments .listPromotions = true) (cart : Cart) :
    ∃ priced, Yields moments (priceCart storeId stamps cart) tables priced tables := by
  obtain ⟨categories, read⟩ := reads_categories moments tables storeId cart.lines []
  let read_tables : PriceTables :=
    ⟨tables.synced.taxRules storeId, tables.synced.promotions storeId, categories, stamps.now⟩
  have priced : Yields moments (Fallible.ofExcept (runPricingPipeline read_tables cart)) tables
      (repriced read_tables cart) tables := by
    rw [runPricingPipeline_eq]
    rfl
  exact ⟨_, (reply_yields _ _ rules _ rfl).bind ((reply_yields _ _ promos _ rfl).bind (read.bind priced))⟩

theorem prices_stop (failed : (passes moments .listTaxRules && passes moments .listPromotions) = false) (cart : Cart) :
    Stops moments (priceCart storeId stamps cart) tables tables := by
  cases rules : passes moments .listTaxRules with
  | false => exact (reply_stops rules _).bind
  | true =>
    rw [rules, Bool.true_and] at failed
    exact (reply_yields _ _ rules _ rfl).stops (reply_stops failed _).bind

theorem saves_yields (passed : passes moments .saveCart = true) (cart : Cart) :
    Yields moments (saveLines cart) tables () { tables with carts := Carts.save cart tables.carts } :=
  reply_yields _ _ passed _ rfl

theorem saves_stop (failed : passes moments .saveCart = false) (cart : Cart) :
    Stops moments (saveLines cart) tables tables := reply_stops failed _

theorem goesThrough_yields (tables : LineTables) (storeId : Uuid) (stamps : LineStamps)
    (through : goesThrough moments = true) (cart : Cart) :
    ∃ saved after, Yields moments (priceAndSave storeId stamps cart) tables saved after := by
  simp only [goesThrough, Bool.decide_and, Bool.decide_eq_true, Bool.and_eq_true] at through
  obtain ⟨priced, yields⟩ := prices_yields tables storeId stamps through.1 through.2.1 cart
  exact ⟨priced, _, yields.bind ((saves_yields through.2.2 priced).bind rfl)⟩

/-- Pricing and saving that fail have done nothing. -/
theorem goesThrough_stops (tables : LineTables) (storeId : Uuid) (stamps : LineStamps)
    (failed : goesThrough moments = false) (cart : Cart) :
    Stops moments (priceAndSave storeId stamps cart) tables tables := by
  cases read : passes moments .listTaxRules && passes moments .listPromotions with
  | false => exact (prices_stop read cart).bind
  | true =>
    obtain ⟨rules, promos⟩ := Bool.and_eq_true_iff.mp read
    have unsaved : passes moments .saveCart = false := by simpa [goesThrough, rules, promos] using failed
    obtain ⟨priced, yields⟩ := prices_yields tables storeId stamps rules promos cart
    exact yields.stops (saves_stop unsaved priced).bind

end Parts

section Ledger
variable {moments : LineStep → Moment} {storeId lineId itemId : Uuid} {put : List Hold}
  {before middle tables : LineTables}

/-- Nothing is held yet on a new line. -/
theorem not_onLine (storeId : Uuid) (new : ∀ row ∈ tables.inventory.reservations, row.lineId ≠ lineId) :
    ∀ hold ∈ held tables.inventory, hold.onLine storeId lineId = false := by
  intro hold member
  obtain ⟨row, present, rfl⟩ := List.mem_map.mp member
  have other := new row (List.mem_filter.mp present).1
  simp [Hold.onLine, Hold.ofRow, other]

theorem heldOn_new (storeId : Uuid) (new : ∀ row ∈ tables.inventory.reservations, row.lineId ≠ lineId) :
    heldOn storeId lineId tables.inventory = [] :=
  List.filter_eq_nil_iff.mpr fun hold member => by simp [not_onLine storeId new hold member]

/-- A release takes what the line holds by now. -/
theorem Replaced.release (replaced : Replaced storeId lineId put before middle)
    (all : ∀ hold ∈ put, hold.onLine storeId lineId = true) (passed : passes moments .releaseLineReservation = true) :
    ∃ units after, Yields moments
        (lineReply .releaseLineReservation (.releaseLineReservation storeId lineId)) middle (.ok units) after ∧
      Replaced storeId lineId [] before after := by
  have replied := reply_passes middle (.releaseLineReservation storeId lineId) passed
  refine ⟨_, _, replied, replaced.carts, release_accounted _ _ _ replaced.accounted, ?_⟩
  have none : put.filter (!Hold.onLine storeId lineId ·) = [] :=
    List.filter_eq_nil_iff.mpr fun hold member => by simp [all hold member]
  refine held_release.trans ?_
  rw [replaced.held, List.filter_append, List.filter_filter, none]
  simp only [Bool.and_self]

/-- What a line held becomes free once it is released. -/
theorem releases (storeId lineId itemId : Uuid) (accounted : Accounted tables.inventory)
    (passed : passes moments .releaseLineReservation = true) (wrap : PoolError → List PosError) :
    ∃ units after, Yields moments
        ((lineReply .releaseLineReservation (.releaseLineReservation storeId lineId)).orThrow wrap) tables units after ∧
      Replaced storeId lineId [] tables after ∧
      (freeQty storeId itemId after.inventory = (freeQty storeId itemId tables.inventory).map
        (· + unitsHeld storeId itemId (heldOn storeId lineId tables.inventory))) ∧
      ∀ id, (∀ row ∈ tables.inventory.reservations, row.id ≠ id) →
        ∀ row ∈ after.inventory.reservations, row.id ≠ id := by
  refine ⟨_, _, reply_yields _ _ passed wrap rfl,
    ⟨rfl, release_accounted _ _ _ accounted, held_release.trans (List.append_nil _).symm⟩, free_release accounted, ?_⟩
  intro id fresh row member
  obtain ⟨old, present, rfl⟩ := List.mem_map.mp member
  rw [Table.Update.row_column _ ReservationRow.id fun _ => rfl]
  exact fresh old present

/-- What a reservation does to the ledger is told by what is free. -/
theorem reserves {step : LineStep} (input : ReserveInput) (accounted : Accounted tables.inventory)
    (fresh : ∀ row ∈ tables.inventory.reservations, row.id ≠ (moments step).id) (passed : passes moments step = true) :
    fits input.qty (freeQty input.storeId input.itemId tables.inventory) = true ∧
        (∃ after, Yields moments (lineReply step (.tryReserve input)) tables (.ok .reserved) after ∧
          after.carts = tables.carts ∧ Accounted after.inventory ∧
          held after.inventory = held tables.inventory ++ [Hold.ofInput input]) ∨
      fits input.qty (freeQty input.storeId input.itemId tables.inventory) = false ∧ 0 < input.qty ∧
        freeQty input.storeId input.itemId tables.inventory = none ∧
        Yields moments (lineReply step (.tryReserve input)) tables (.ok .untracked) tables ∨
      fits input.qty (freeQty input.storeId input.itemId tables.inventory) = false ∧
        ¬(0 < input.qty ∧ freeQty input.storeId input.itemId tables.inventory = none) ∧
        ∃ available, Yields moments (lineReply step (.tryReserve input)) tables (.ok (.insufficient available)) tables := by
  have replied := reply_passes tables (.tryReserve input) passed
  simp only [LineCall.perform] at replied
  rcases reserve_cases (moments step).now accounted fresh with
    ⟨enough, outcome, holds⟩ | ⟨short, asked, untracked, same⟩ | ⟨short, tracked, available, same⟩
  · rw [outcome] at replied
    exact .inl ⟨enough, _, replied, rfl, reserve_accounted accounted _ _, holds⟩
  · rw [same] at replied
    exact .inr (.inl ⟨short, asked, untracked, replied⟩)
  · rw [same] at replied
    exact .inr (.inr ⟨short, tracked, available, replied⟩)

end Ledger
section Commands
variable (storeId registerId : Uuid) (stamps : LineStamps) (moments : LineStep → Moment) (tables : LineTables)

/-- What can be held of an item, which is tracked from its baseline if it was not tracked. -/
def offered (itemId : Uuid) (item : CatalogItem) : Option Int :=
  (freeQty storeId itemId tables.inventory).or item.availableQty

/-- Stock that a new line gets held does not stay so when the command fails. -/
def AddHarmless (p : AddLineItemPayload) : Prop :=
  ∀ item, sellable moments tables storeId p.itemId = some item →
    (item.availableQty.isSome = true → passes moments .ensureInventoryState = true) →
    passes moments .tryReserve = true → fits p.quantity (offered storeId tables p.itemId item) = true →
    passes moments .listPriceBookEntries = true ∧
      (goesThrough moments = true ∨ passes moments .releaseLineReservation = true)

/-- Whether an update that has released its line goes on, and what the line holds then. -/
def heldAgain (p : UpdateLineItemPayload) (line : CartLineItem) : Bool × List Hold :=
  let free := (freeQty storeId line.itemId tables.inventory).map
    (· + unitsHeld storeId line.itemId (heldOn storeId p.lineId tables.inventory))
  let hold (quantity : Nat) : Hold := ⟨storeId, p.cartId, p.lineId, line.itemId, quantity⟩
  if !passes moments .tryReserve then (false, [])
  else if fits p.quantity free then (true, [hold p.quantity])
  else if free.isNone then (true, [])
  else if passes moments .restoreReservation && fits line.quantity free then (false, [hold line.quantity])
  else (false, [])

/-- The update goes through, or the line has held before what it holds then. -/
def UpdateHarmless (p : UpdateLineItemPayload) (line : CartLineItem) : Prop :=
  (heldAgain storeId moments tables p line).1 = true ∧ goesThrough moments = true ∨
    heldOn storeId p.lineId tables.inventory = (heldAgain storeId moments tables p line).2

def Harmless (command : LineCommand) : Prop :=
  match command with
  | .addLineItem p => (opened moments tables p.cartId).isSome = true → AddHarmless storeId moments tables p
  | .updateLineItem p => ∀ cart, opened moments tables p.cartId = some cart →
    ∀ line, cart.lines.find? (·.lineId = p.lineId) = some line → 0 < p.quantity → p.quantity ≠ line.quantity →
    passes moments .releaseLineReservation = true → UpdateHarmless storeId moments tables p line
  | .removeLineItem _ => True

/-- If the command returns an error, it has changed nothing. -/
def FailsClean (command : LineCommand) : Prop :=
  ∀ errors after, command.run storeId registerId stamps moments tables = (.error errors, after) →
    Unchanged command.cartId tables after

variable {storeId registerId stamps moments tables}

theorem clean_of_yields {command : LineCommand} {saved : Cart} {after : LineTables}
    (yields : Yields moments (command.program storeId registerId stamps) tables saved after) :
    FailsClean storeId registerId stamps moments tables command := by
  intro errors other failed
  rw [LineCommand.run, yields] at failed
  cases failed

theorem clean_of_stops {command : LineCommand} {after : LineTables}
    (stops : Stops moments (command.program storeId registerId stamps) tables after) :
    FailsClean storeId registerId stamps moments tables command ↔ Unchanged command.cartId tables after := by
  obtain ⟨errors, stopped⟩ := stops
  refine ⟨fun clean => clean errors after stopped, fun unchanged others other failed => ?_⟩
  rw [LineCommand.run, stopped] at failed
  cases failed
  exact unchanged

theorem clean_of_idle {command : LineCommand}
    (stops : Stops moments (command.program storeId registerId stamps) tables tables) :
    FailsClean storeId registerId stamps moments tables command := (clean_of_stops stops).mpr (.refl _ _)

section Adding
variable {p : AddLineItemPayload} {item : CatalogItem} {cart : Cart}

theorem tracks_yields (storeId : Uuid) (p : AddLineItemPayload) (accounted : Accounted tables.inventory)
    (allowed : item.availableQty.isSome = true → passes moments .ensureInventoryState = true) :
    ∃ after, Yields moments (trackItem storeId p.itemId item) tables () after ∧ after.carts = tables.carts ∧
      after.inventory.reservations = tables.inventory.reservations ∧ Accounted after.inventory ∧
      freeQty storeId p.itemId after.inventory = offered storeId tables p.itemId item := by
  unfold trackItem offered
  cases baseline : item.availableQty with
  | none => exact ⟨tables, rfl, rfl, rfl, accounted, (Option.or_none).symm⟩
  | some qty =>
    have passed := allowed (by rw [baseline]; rfl)
    refine ⟨_, (reply_yields _ _ passed _ rfl).bind rfl, rfl, ?_, ensure_accounted accounted _ _ _, ?_⟩
    · simp only [LineCall.perform, ensureInventoryState]
      split <;> rfl
    · refine (free_ensure qty).trans ?_
      cases freeQty storeId p.itemId tables.inventory <;> rfl

theorem tracks_stop (tracked : item.availableQty.isSome = true)
    (failed : passes moments .ensureInventoryState = false) :
    Stops moments (trackItem storeId p.itemId item) tables tables := by
  obtain ⟨qty, baseline⟩ := Option.isSome_iff_exists.mp tracked
  unfold trackItem
  rw [baseline]
  exact (reply_stops failed _).bind

/-- A new line is added, or what it holds stays or is released. -/
theorem adds_held (p : AddLineItemPayload) (item : CatalogItem) (cart : Cart) {put : List Hold}
    {before middle : LineTables} (replaced : Replaced storeId stamps.lineId put before middle)
    (all : ∀ hold ∈ put, hold.onLine storeId stamps.lineId = true) :
    passes moments .listPriceBookEntries = true ∧ goesThrough moments = true ∧
        (∃ saved after, Yields moments (addHeldLine storeId stamps p item cart) middle saved after) ∨
      passes moments .listPriceBookEntries = true ∧ passes moments .releaseLineReservation = true ∧
        (∃ after, Stops moments (addHeldLine storeId stamps p item cart) middle after ∧
          Replaced storeId stamps.lineId [] before after) ∨
      ¬(passes moments .listPriceBookEntries = true ∧
          (goesThrough moments = true ∨ passes moments .releaseLineReservation = true)) ∧
        Stops moments (addHeldLine storeId stamps p item cart) middle middle := by
  cases book : passes moments .listPriceBookEntries with
  | false => exact .inr (.inr ⟨fun safe => Bool.false_ne_true safe.1, (reply_stops book _).bind⟩)
  | true =>
    have read := reply_yields middle (.listPriceBookEntries storeId) book
      (fun error => posError "PRICE_BOOK" error.toString) rfl
    let edited := cart.addLineItem (newLine p item stamps.lineId (middle.synced.priceBook storeId)) stamps.now
    cases through : goesThrough moments with
    | true =>
      obtain ⟨saved, after, priced⟩ := goesThrough_yields middle storeId stamps through edited
      exact .inl ⟨rfl, rfl, saved, after, read.bind (priced.uncaught _)⟩
    | false =>
      have priced := goesThrough_stops middle storeId stamps through edited
      cases passed : passes moments .releaseLineReservation with
      | true =>
        obtain ⟨units, after, released, left⟩ := replaced.release all passed
        exact .inr (.inl ⟨rfl, rfl, after, read.stops (priced.caught fun errors =>
          released.stops (stops_throw errors)), left⟩)
      | false =>
        obtain ⟨error, released⟩ := reply_fails middle (.releaseLineReservation storeId stamps.lineId) passed
        exact .inr (.inr ⟨by simp, read.stops (priced.caught fun errors => released.stops (stops_throw errors))⟩)

theorem adds_unsold (loaded : opened moments tables p.cartId = some cart)
    (unsold : sellable moments tables storeId p.itemId = none) :
    Stops moments (addLineItem storeId registerId stamps p) tables tables := by
  refine (load_opened loaded).stops ?_
  unfold sellable at unsold
  cases passed : passes moments .getCatalogItem with
  | false =>
    obtain ⟨error, replied⟩ := reply_fails tables (.getCatalogItem storeId p.itemId) passed
    exact replied.stops (stops_throw _)
  | true =>
    rw [if_pos passed] at unsold
    have replied := reply_passes tables (.getCatalogItem storeId p.itemId) passed
    simp only [LineCall.perform] at replied
    cases found : tables.synced.items storeId p.itemId with
    | none =>
      rw [found] at replied
      exact replied.stops (stops_throw _)
    | some item =>
      rw [found] at replied unsold
      have inactive : item.isActive = false := by simpa [Option.filter] using unsold
      refine replied.stops ?_
      simp only [inactive]
      exact (stops_throw outOfStock).bind

/-- What is left of the command once its item is found. -/
theorem adds_sold (loaded : opened moments tables p.cartId = some cart)
    (sold : sellable moments tables storeId p.itemId = some item) :
    Fallible.run (answerLine moments) (addLineItem storeId registerId stamps p) tables =
      Fallible.run (answerLine moments) (do
        trackItem storeId p.itemId item
        holdStock storeId registerId stamps p
        addHeldLine storeId stamps p item cart) tables := by
  unfold sellable at sold
  split at sold
  · rename_i passed
    obtain ⟨found, active⟩ := Option.filter_eq_some_iff.mp sold
    have replied := reply_passes tables (.getCatalogItem storeId p.itemId) passed
    simp only [LineCall.perform, found] at replied
    refine (load_opened loaded).run.trans (replied.run.trans ?_)
    simp only [active]
    rfl
  · cases sold

theorem holds_stock (storeId registerId : Uuid) (stamps : LineStamps) (p : AddLineItemPayload)
    (accounted : Accounted tables.inventory)
    (fresh : ∀ row ∈ tables.inventory.reservations, row.id ≠ (moments .tryReserve).id) :
    (passes moments .tryReserve = true ∧ fits p.quantity (freeQty storeId p.itemId tables.inventory) = true) ∧
        (∃ after, Yields moments (holdStock storeId registerId stamps p) tables () after ∧ after.carts = tables.carts ∧
          Accounted after.inventory ∧ held after.inventory =
            held tables.inventory ++ [⟨storeId, p.cartId, stamps.lineId, p.itemId, p.quantity⟩]) ∨
      ¬(passes moments .tryReserve = true ∧ fits p.quantity (freeQty storeId p.itemId tables.inventory) = true) ∧
        (Yields moments (holdStock storeId registerId stamps p) tables () tables ∨
          Stops moments (holdStock storeId registerId stamps p) tables tables) := by
  cases passed : passes moments .tryReserve with
  | false =>
    obtain ⟨error, replied⟩ := reply_fails tables (.tryReserve
      (holdFor storeId registerId p.cartId stamps.lineId p.itemId p.quantity stamps.heldUntil)) passed
    exact .inr ⟨by simp, .inr (replied.stops (stops_throw _))⟩
  | true =>
    rcases reserves (holdFor storeId registerId p.cartId stamps.lineId p.itemId p.quantity stamps.heldUntil)
      accounted fresh passed with ⟨enough, after, replied, carts, kept, holds⟩ | ⟨short, -, -, replied⟩ |
        ⟨short, -, available, replied⟩
    · exact .inl ⟨⟨rfl, enough⟩, after, replied.bind rfl, carts, kept, holds⟩
    · exact .inr ⟨fun both => Bool.false_ne_true (short.symm.trans both.2), .inl (replied.bind rfl)⟩
    · exact .inr ⟨fun both => Bool.false_ne_true (short.symm.trans both.2), .inr (replied.stops (stops_throw _))⟩

/-- The command once its item is tracked; nothing is held yet on its line. -/
theorem adds_tracked (registerId : Uuid) (accounted : Accounted tables.inventory)
    (fresh : NewIds stamps moments tables.inventory)
    (loaded : opened moments tables p.cartId = some cart)
    (sold : sellable moments tables storeId p.itemId = some item)
    (allowed : item.availableQty.isSome = true → passes moments .ensureInventoryState = true) :
    ∃ tracked, Replaced storeId stamps.lineId [] tables tracked ∧
      tracked.inventory.reservations = tables.inventory.reservations ∧
      freeQty storeId p.itemId tracked.inventory = offered storeId tables p.itemId item ∧
      Fallible.run (answerLine moments) (addLineItem storeId registerId stamps p) tables =
        Fallible.run (answerLine moments) (do
          holdStock storeId registerId stamps p
          addHeldLine storeId stamps p item cart) tracked := by
  obtain ⟨tracked, tracks, carts, rows, kept, free⟩ := tracks_yields storeId p accounted allowed
  have all : (held tables.inventory).filter (!Hold.onLine storeId stamps.lineId ·) = held tables.inventory :=
    List.filter_eq_self.mpr fun hold member => by simp [not_onLine storeId fresh.line hold member]
  have start : Replaced storeId stamps.lineId [] tables tracked :=
    ⟨carts, kept, by rw [all, List.append_nil, held, rows]; rfl⟩
  exact ⟨tracked, start, rows, free, (adds_sold loaded sold).trans tracks.run⟩

/-- A failing AddLineItem has changed nothing exactly when it has not held stock, or no longer
holds it. -/
theorem add_clean_iff (accounted : Accounted tables.inventory) (fresh : NewIds stamps moments tables.inventory) :
    FailsClean storeId registerId stamps moments tables (.addLineItem p) ↔
      ((opened moments tables p.cartId).isSome = true → AddHarmless storeId moments tables p) := by
  cases loaded : opened moments tables p.cartId with
  | none => exact iff_of_true (clean_of_idle (load_closed loaded).bind) (by simp)
  | some cart =>
  cases sold : sellable moments tables storeId p.itemId with
  | none => exact iff_of_true (clean_of_idle (adds_unsold loaded sold)) (by simp [AddHarmless, sold])
  | some item =>
  have known : ((some cart).isSome = true → AddHarmless storeId moments tables p) ↔
      ((item.availableQty.isSome = true → passes moments .ensureInventoryState = true) →
        passes moments .tryReserve = true → fits p.quantity (offered storeId tables p.itemId item) = true →
        passes moments .listPriceBookEntries = true ∧
          (goesThrough moments = true ∨ passes moments .releaseLineReservation = true)) := by
    simp [AddHarmless, sold]
  rw [known]
  by_cases allowed : item.availableQty.isSome = true → passes moments .ensureInventoryState = true
  · obtain ⟨tracked, start, rows, free, same⟩ := adds_tracked registerId accounted fresh loaded sold allowed
    have new : heldOn storeId stamps.lineId tables.inventory = [] := heldOn_new storeId fresh.line
    have clean {after : LineTables} (stops : Stops moments (do
        holdStock storeId registerId stamps p
        addHeldLine storeId stamps p item cart) tracked after)
        (left : Replaced storeId stamps.lineId [] tables after) :
        FailsClean storeId registerId stamps moments tables (.addLineItem p) := by
      have ended : Stops moments (addLineItem storeId registerId stamps p) tables after := by rwa [Stops, same]
      exact (clean_of_stops ended).mpr ((left.unchanged_iff p.cartId accounted (by simp)).mpr (new ▸ .refl _))
    rw [← free]
    rcases holds_stock storeId registerId stamps p start.accounted
      (by rw [rows]; exact fresh.rows _) with ⟨⟨passed, enough⟩, after, holds, saved, kept, put⟩ | ⟨idle, ends⟩
    · let hold : Hold := ⟨storeId, p.cartId, stamps.lineId, p.itemId, p.quantity⟩
      have taken : Replaced storeId stamps.lineId [hold] tables after :=
        ⟨saved.trans start.carts, kept, by rw [put, start.held, List.append_nil]⟩
      rcases adds_held p item cart taken (by simp [hold, Hold.onLine]) with
        ⟨book, through, saved, last, yields⟩ | ⟨book, released, last, stops, left⟩ | ⟨harms, stops⟩
      · have done : Yields moments (addLineItem storeId registerId stamps p) tables saved last :=
          same.trans (holds.bind yields)
        exact iff_of_true (clean_of_yields done) fun _ _ _ => ⟨book, .inl through⟩
      · exact iff_of_true (clean (holds.stops stops) left) fun _ _ _ => ⟨book, .inr released⟩
      · -- The stock stays held, and was not held before.
        have ended : Stops moments (addLineItem storeId registerId stamps p) tables after := by
          rw [Stops, same]
          exact holds.stops stops
        refine iff_of_false (fun unchanged => ?_) fun harmless => harms (harmless allowed passed enough)
        have held := (taken.unchanged_iff p.cartId accounted (by simp [hold])).mp
          ((clean_of_stops ended).mp unchanged)
        rw [new] at held
        exact List.cons_ne_nil _ _ (List.nil_perm.mp held)
    · refine iff_of_true ?_ fun _ passed enough => absurd ⟨passed, enough⟩ idle
      rcases ends with holds | stops
      · rcases adds_held p item cart start (by simp) with
          ⟨_, _, saved, last, yields⟩ | ⟨_, _, last, stops, left⟩ | ⟨_, stops⟩
        · exact clean_of_yields (same.trans (holds.bind yields) :
            Yields moments (addLineItem storeId registerId stamps p) tables saved last)
        · exact clean (holds.stops stops) left
        · exact clean (holds.stops stops) start
      · exact clean stops.bind start
  · obtain ⟨tracked, failed⟩ : item.availableQty.isSome = true ∧ passes moments .ensureInventoryState = false := by
      simpa using allowed
    have ended : Stops moments (addLineItem storeId registerId stamps p) tables tables := by
      rw [Stops, adds_sold loaded sold]
      exact (tracks_stop tracked failed).bind
    exact iff_of_true (clean_of_idle ended) fun allowed' => absurd allowed' allowed

end Adding

section Updating
variable {p : UpdateLineItemPayload} {line : CartLineItem} {cart : Cart}

theorem holds_again (registerId : Uuid) (p : UpdateLineItemPayload) (line : CartLineItem)
    (accounted : Accounted tables.inventory) (fresh : NewIds stamps moments tables.inventory)
    (asked : 0 < p.quantity) (released : passes moments .releaseLineReservation = true) :
    ∃ after, Replaced storeId p.lineId (heldAgain storeId moments tables p line).2 tables after ∧
      ((heldAgain storeId moments tables p line).1 = true ∧
          Yields moments (holdAgain storeId registerId stamps p line) tables () after ∨
        (heldAgain storeId moments tables p line).1 = false ∧
          Stops moments (holdAgain storeId registerId stamps p line) tables after) := by
  obtain ⟨units, middle, releases, left, free, ids⟩ :=
    releases storeId p.lineId line.itemId accounted released ledgerFailed
  unfold heldAgain
  rw [← free]
  dsimp only
  cases passed : passes moments .tryReserve with
  | false =>
    obtain ⟨error, replied⟩ := reply_fails middle (.tryReserve
      (holdFor storeId registerId p.cartId p.lineId line.itemId p.quantity stamps.heldUntil)) passed
    exact ⟨middle, left, .inr ⟨rfl, releases.stops (replied.stops (stops_throw _))⟩⟩
  | true =>
    rcases reserves (holdFor storeId registerId p.cartId p.lineId line.itemId p.quantity stamps.heldUntil)
      left.accounted (ids _ (fresh.rows _)) passed with ⟨enough, after, replied, carts, kept, put⟩ |
        ⟨short, -, untracked, replied⟩ | ⟨short, tracked, available, replied⟩
    · simp only [holdFor] at enough
      rw [enough]
      refine ⟨after, ⟨carts.trans left.carts, kept, ?_⟩, .inl ⟨rfl, releases.bind (replied.bind rfl)⟩⟩
      rw [put, left.held, List.append_nil]
      rfl
    · simp only [holdFor] at short untracked
      rw [short, untracked]
      exact ⟨middle, left, .inl ⟨rfl, releases.bind (replied.bind rfl)⟩⟩
    · simp only [holdFor] at short tracked
      have known : (freeQty storeId line.itemId middle.inventory).isNone = false := by
        cases stock : freeQty storeId line.itemId middle.inventory with
        | none => exact absurd ⟨Int.natCast_pos.mpr asked, stock⟩ tracked
        | some units => rfl
      rw [short, known]
      have started {after : LineTables} {reply : Except PoolError ReserveOutcome}
          (restored : Yields moments (lineReply .restoreReservation (.tryReserve
            (holdFor storeId registerId p.cartId p.lineId line.itemId line.quantity stamps.restoredUntil))) middle reply after) :
          Stops moments (holdAgain storeId registerId stamps p line) tables after :=
        releases.stops (replied.stops (restored.stops (stops_throw _)))
      cases restores : passes moments .restoreReservation with
      | false =>
        obtain ⟨error, restored⟩ := reply_fails middle (.tryReserve
          (holdFor storeId registerId p.cartId p.lineId line.itemId line.quantity stamps.restoredUntil)) restores
        exact ⟨middle, left, .inr ⟨rfl, started restored⟩⟩
      | true =>
        rcases reserves (holdFor storeId registerId p.cartId p.lineId line.itemId line.quantity stamps.restoredUntil)
          left.accounted (ids _ (fresh.rows _)) restores with ⟨enough, after, restored, carts, kept, put⟩ |
            ⟨-, -, untracked, -⟩ | ⟨less, -, available, restored⟩
        · simp only [holdFor] at enough
          rw [enough]
          refine ⟨after, ⟨carts.trans left.carts, kept, ?_⟩, .inr ⟨rfl, started restored⟩⟩
          rw [put, left.held, List.append_nil]
          rfl
        · simp only [holdFor] at untracked
          rw [untracked] at known
          cases known
        · simp only [holdFor] at less
          rw [less]
          exact ⟨middle, left, .inr ⟨rfl, started restored⟩⟩

theorem heldAgain_put (storeId : Uuid) (moments : LineStep → Moment) (tables : LineTables) (p : UpdateLineItemPayload)
    (line : CartLineItem) : (heldAgain storeId moments tables p line).2 = [] ∨
    ∃ quantity : Nat, (heldAgain storeId moments tables p line).2 =
      [⟨storeId, p.cartId, p.lineId, line.itemId, quantity⟩] := by
  unfold heldAgain
  dsimp only
  split
  · exact .inl rfl
  · split
    · exact .inr ⟨p.quantity, rfl⟩
    · split
      · exact .inl rfl
      · split
        · exact .inr ⟨line.quantity, rfl⟩
        · exact .inl rfl

theorem updates_found {lines : List CartLineItem} {lineId : Uuid} (quantity : Nat) (notes : Option String)
    (found : (lines.find? (·.lineId = lineId)).isSome = true) :
    (setQuantity lineId quantity notes lines).isSome = true := by
  induction lines with
  | nil => cases found
  | cons line lines ih =>
    rw [setQuantity]
    split
    · rfl
    · rename_i other
      rw [List.find?_cons_of_neg (by simpa using other)] at found
      rw [Option.isSome_map]
      exact ih found

/-- What is left of the command once its line is found. -/
theorem updates_line (storeId registerId : Uuid) (stamps : LineStamps)
    (loaded : opened moments tables p.cartId = some cart) (asked : p.quantity ≠ 0)
    (found : cart.lines.find? (·.lineId = p.lineId) = some line) :
    ∃ edited, Fallible.run (answerLine moments) (updateLineItem storeId registerId stamps p) tables =
      Fallible.run (answerLine moments) (do
        if p.quantity ≠ line.quantity then holdAgain storeId registerId stamps p line
        priceAndSave storeId stamps edited) tables := by
  have known : (setQuantity p.lineId p.quantity p.notes cart.lines).isSome = true :=
    updates_found p.quantity p.notes (by rw [found]; rfl)
  obtain ⟨lines, set⟩ := Option.isSome_iff_exists.mp known
  refine ⟨{ cart with lines := lines }, (load_opened loaded).run.trans ?_⟩
  rw [if_neg asked, found, updateLine, set]
  rfl

/-- A failing UpdateLineItem has changed nothing exactly when it has not released the line's
hold, or the line holds again what it held. -/
theorem update_clean_iff (accounted : Accounted tables.inventory) (fresh : NewIds stamps moments tables.inventory) :
    FailsClean storeId registerId stamps moments tables (.updateLineItem p) ↔
      Harmless storeId moments tables (.updateLineItem p) := by
  cases loaded : opened moments tables p.cartId with
  | none =>
    refine iff_of_true (clean_of_idle (load_closed loaded).bind) fun cart same => ?_
    cases loaded.symm.trans same
  | some cart =>
  by_cases none_asked : p.quantity = 0
  · have ended : Stops moments (updateLineItem storeId registerId stamps p) tables tables := by
      refine (load_opened loaded).stops ?_
      rw [if_pos none_asked]
      exact (stops_throw _).bind
    exact iff_of_true (clean_of_idle ended) fun _ _ _ _ asked => absurd none_asked (by omega)
  cases found : cart.lines.find? (·.lineId = p.lineId) with
  | none =>
    have ended : Stops moments (updateLineItem storeId registerId stamps p) tables tables := by
      refine (load_opened loaded).stops ?_
      rw [if_neg none_asked, found]
      exact stops_throw _
    refine iff_of_true (clean_of_idle ended) fun other same line member => ?_
    cases loaded.symm.trans same
    cases found.symm.trans member
  | some line =>
  have known : Harmless storeId moments tables (.updateLineItem p) ↔
      (p.quantity ≠ line.quantity → passes moments .releaseLineReservation = true →
        UpdateHarmless storeId moments tables p line) := by
    refine ⟨fun harmless => harmless cart loaded line found (by omega), fun harmless other loads line' finds _ => ?_⟩
    cases loaded.symm.trans loads
    cases found.symm.trans finds
    exact harmless
  rw [known]
  obtain ⟨edited, same⟩ := updates_line storeId registerId stamps loaded none_asked found
  by_cases changed : p.quantity ≠ line.quantity
  · rw [if_pos changed] at same
    cases released : passes moments .releaseLineReservation with
    | false =>
      have ended : Stops moments (updateLineItem storeId registerId stamps p) tables tables := by
        rw [Stops, same]
        exact (reply_stops released ledgerFailed).bind.bind
      exact iff_of_true (clean_of_idle ended) (by simp)
    | true =>
      obtain ⟨after, left, ends⟩ := holds_again registerId p line accounted fresh (by omega) released
      have unchanged : Unchanged p.cartId tables after ↔
          heldOn storeId p.lineId tables.inventory = (heldAgain storeId moments tables p line).2 := by
        rcases heldAgain_put storeId moments tables p line with nothing | ⟨quantity, one⟩
        · rw [nothing] at left ⊢
          exact (left.unchanged_iff p.cartId accounted (by simp)).trans List.perm_nil
        · rw [one] at left ⊢
          exact (left.unchanged_iff p.cartId accounted (by simp)).trans List.perm_singleton
      simp only [changed, ne_eq, not_false_eq_true, true_imp_iff, UpdateHarmless]
      rcases ends with ⟨goesOn, holds⟩ | ⟨goesOn, stops⟩
      · cases through : goesThrough moments with
        | true =>
          obtain ⟨saved, last, yields⟩ := goesThrough_yields _ storeId stamps through edited
          have done : Yields moments (updateLineItem storeId registerId stamps p) tables saved last :=
            same.trans (holds.bind yields)
          exact iff_of_true (clean_of_yields done) (.inl ⟨goesOn, rfl⟩)
        | false =>
          have ended : Stops moments (updateLineItem storeId registerId stamps p) tables after := by
            rw [Stops, same]
            exact holds.stops (goesThrough_stops _ storeId stamps through edited)
          exact (clean_of_stops ended).trans (unchanged.trans (by simp))
      · have ended : Stops moments (updateLineItem storeId registerId stamps p) tables after := by
          rw [Stops, same]
          exact stops.bind
        exact (clean_of_stops ended).trans (unchanged.trans (by simp [goesOn]))
  · rw [if_neg changed] at same
    refine iff_of_true ?_ fun other => absurd other changed
    cases through : goesThrough moments with
    | true =>
      obtain ⟨saved, last, yields⟩ := goesThrough_yields _ storeId stamps through edited
      exact clean_of_yields (same.trans yields :
        Yields moments (updateLineItem storeId registerId stamps p) tables saved last)
    | false =>
      have ended : Stops moments (updateLineItem storeId registerId stamps p) tables tables := by
        rw [Stops, same]
        exact goesThrough_stops _ storeId stamps through edited
      exact clean_of_idle ended

end Updating

/-- Everything that can fail in a RemoveLineItem comes before the ledger is touched. -/
theorem remove_clean (p : RemoveLineItemPayload) :
    FailsClean storeId registerId stamps moments tables (.removeLineItem p) := by
  cases loaded : opened moments tables p.cartId with
  | none => exact clean_of_idle (load_closed loaded).bind
  | some cart =>
  cases removes : removeLine p.lineId stamps.now cart with
  | error errors =>
    have fails : Stops moments (Fallible.ofExcept (removeLine p.lineId stamps.now cart)) tables tables := by
      rw [removes]
      exact ⟨errors, rfl⟩
    exact clean_of_idle ((load_opened loaded).stops fails.bind)
  | ok removed =>
    have drops : Yields moments (Fallible.ofExcept (removeLine p.lineId stamps.now cart)) tables removed tables := by
      rw [removes]
      rfl
    have releases (saved : Cart) (middle : LineTables) : ∃ after, Yields moments (do
        let _ ← lineReply .releaseLineReservation (.releaseLineReservation storeId p.lineId)
        return saved) middle saved after := by
      cases passed : passes moments .releaseLineReservation with
      | true =>
        have replied := reply_passes middle (.releaseLineReservation storeId p.lineId) passed
        exact ⟨_, replied.bind rfl⟩
      | false =>
        obtain ⟨error, replied⟩ := reply_fails middle (.releaseLineReservation storeId p.lineId) passed
        exact ⟨_, replied.bind rfl⟩
    have saves : (∃ saved after, Yields moments (saveRemoved storeId stamps removed) tables saved after) ∨
        Stops moments (saveRemoved storeId stamps removed) tables tables := by
      unfold saveRemoved
      split
      · cases passed : passes moments .saveCart with
        | true => exact .inl ⟨removed, _, (saves_yields passed removed).bind rfl⟩
        | false => exact .inr (saves_stop passed removed).bind
      · cases through : goesThrough moments with
        | true => exact .inl (goesThrough_yields _ storeId stamps through removed)
        | false => exact .inr (goesThrough_stops _ storeId stamps through removed)
    rcases saves with ⟨saved, middle, saves⟩ | stops
    · obtain ⟨after, released⟩ := releases saved middle
      exact clean_of_yields ((load_opened loaded).bind (drops.bind (saves.bind released)) :
        Yields moments (removeLineItem storeId stamps p) tables saved after)
    · exact clean_of_idle ((load_opened loaded).stops (drops.stops stops.bind))

end Commands

/-- On a ledger that has come about by its operations, a command on a line that returns an error
has changed nothing exactly when it is harmless. -/
theorem failed_edit_iff {storeId registerId : Uuid} {stamps : LineStamps} {moments : LineStep → Moment}
    {tables : LineTables} (reached : Reached tables) (fresh : NewIds stamps moments tables.inventory)
    (command : LineCommand) :
    FailsClean storeId registerId stamps moments tables command ↔ Harmless storeId moments tables command := by
  have accounted := reached.accounted
  cases command with
  | addLineItem p => exact add_clean_iff accounted fresh
  | updateLineItem p => exact update_clean_iff accounted fresh
  | removeLineItem p => exact iff_of_true (remove_clean p) trivial

/-- A cart in a store whose catalog has one item, with five units of it. -/
def shop : LineTables :=
  { carts := [⟨3, 1, 2, .open, Cart.new 3 1 2 0⟩]
    inventory := emptyLedger
    synced :=
      { items := fun _ itemId => if itemId = 7 then some ⟨7, "", "", 0, true, some 5⟩ else none
        priceBook := fun _ => [], taxRules := fun _ => [], promotions := fun _ => [] } }

def stamps : LineStamps := ⟨4, 0, 0, 0⟩

def failingAt (broken : LineStep → Bool) (step : LineStep) : Moment :=
  ⟨if broken step then some (.other "disk I/O error") else none, 9, 0⟩

def asking (quantity : Nat) : LineCommand := .addLineItem ⟨3, 7, [], quantity, none, none⟩

theorem shop_reached : Reached shop := ⟨[], rfl⟩

theorem shop_fresh (broken : LineStep → Bool) : NewIds stamps (failingAt broken) shop.inventory := by
  constructor <;> simp [shop, emptyLedger]

theorem six_units_refused : FailsClean 1 2 stamps (failingAt fun _ => false) shop (asking 6) := by
  refine (failed_edit_iff shop_reached (shop_fresh _) (asking 6)).mpr fun _ item sold _ _ enough => ?_
  cases Option.some.inj sold
  cases enough

/-- The price book cannot be read, and two units stay reserved for a line that no cart has. -/
theorem units_stay_reserved :
    Reached shop ∧ NewIds stamps (failingAt (· = .listPriceBookEntries)) shop.inventory ∧
      ¬ FailsClean 1 2 stamps (failingAt (· = .listPriceBookEntries)) shop (asking 2) := by
  refine ⟨shop_reached, shop_fresh _, fun clean => ?_⟩
  have unchanged := clean (posError "PRICE_BOOK" "disk I/O error") _ rfl
  have reserved := unchanged.reserved 1 7
  revert reserved
  decide

end ApexEdge.Proofs.FailedEdits
