import ApexEdge.Proofs.FullRefunds

/-! Returns that are refused for their price. A part of a line costs what its units so far
cost together, less what active returns have been given; a return that is voided takes its
units out of the count with its own rounding, and what is left can be more than the price. -/

namespace ApexEdge.Proofs.PricedReturns
open Library Payment Domain Storage Contracts Hub
open Attempts Entitlements FullRefunds ReceiptedReturns WholeOrders

/-- What a line is worth for its first units, with the tax on them. -/
def worthOf (rank : Uuid → Nat) (entry : NewOrderLedgerEntry) (sale : NewOrderLineEntry) (units : Nat) : Int :=
  proportion (paidCents rank entry sale) units sale.quantity

def taxOn (sale : NewOrderLineEntry) (units : Nat) : Int := proportion (asI64 sale.taxCents) units sale.quantity

/-- Active returns of the line have been given no more than it is worth for their units and
so many more. -/
structure PriceLeft (rank : Uuid → Nat) (entry : NewOrderLedgerEntry) (sale : NewOrderLineEntry) (tables : ReturnTables)
    (quantity : Nat) : Prop where
  cents : (centsOf (Returns.activeLines sale.lineId tables) : Int) ≤
    worthOf rank entry sale (quantityOf (Returns.activeLines sale.lineId tables) + quantity)
  tax : (taxOf (Returns.activeLines sale.lineId tables) : Int) ≤
    taxOn sale (quantityOf (Returns.activeLines sale.lineId tables) + quantity)

/-- The line of the return at its price. -/
def pricedLine (rank : Uuid → Nat) (entry : NewOrderLedgerEntry) (sale : NewOrderLineEntry) (tables : ReturnTables)
    (input : ReturnLineRow) : ReturnLineRow :=
  let lines := Returns.activeLines sale.lineId tables
  Returns.receiptedLine input sale (worthOf rank entry sale (quantityOf lines + input.quantity) - centsOf lines).toNat
    (taxOn sale (quantityOf lines + input.quantity) - taxOf lines).toNat

def withPriced (rank : Uuid → Nat) (entry : NewOrderLedgerEntry) (sale : NewOrderLineEntry) (tables : ReturnTables)
    (input : ReturnLineRow) : ReturnTables :=
  { tables with returnLines := tables.returnLines ++ [pricedLine rank entry sale tables input] }

/-- The columns of the order and of the return add up to 64-bit amounts. -/
structure Countable (rank : Uuid → Nat) (entry : NewOrderLedgerEntry) (sale : NewOrderLineEntry) (tables : ReturnTables)
    (input : ReturnLineRow) : Prop where
  order : ∃ paid, Returns.paidFor rank entry sale = .ok paid
  header : ∃ after, Returns.refreshHeader input.returnId (withPriced rank entry sale tables input) = .ok after

section Tables
variable {rank : Uuid → Nat} {orders : List NewOrderLedgerEntry} {entry : NewOrderLedgerEntry} {tables : ReturnTables}
  {sale : NewOrderLineEntry} {input : ReturnLineRow}

/-- The next units are awarded exactly when neither column has been given too much. -/
theorem award_eq {paid : Int} {lines : List ReturnLineRow} {quantity : Nat} (priced : 0 ≤ paid ∧ FitsI64 paid)
    (entitled : Entitled sale paid lines) (typed : sale.quantity < 2 ^ 63) (some : 0 < quantity)
    (left : quantityOf lines + quantity ≤ sale.quantity) :
    let due := proportion paid (quantityOf lines + quantity : Nat) sale.quantity
    let taxDue := taxOn sale (quantityOf lines + quantity)
    Returns.award sale paid (quantityOf lines + quantity : Nat) ⟨quantityOf lines, centsOf lines, taxOf lines⟩ =
      if (centsOf lines : Int) ≤ due ∧ (taxOf lines : Int) ≤ taxDue then
        .ok ((due - centsOf lines).toNat, (taxDue - taxOf lines).toNat)
      else .error (.other "original return values require reconciliation") := by
  have sells : (0 : Int) < sale.quantity := by omega
  have within : ((quantityOf lines + quantity : Nat) : Int) ≤ sale.quantity := by exact_mod_cast left
  have cents := (column_fits priced.2 sells (Int.natCast_nonneg _) within
    ⟨Int.natCast_nonneg _, entitled.cents.trans (Int.le_max_left paid 0)⟩).1
  have tax := (column_fits (asI64_fits sale.taxCents) sells (Int.natCast_nonneg _) within
    ⟨Int.natCast_nonneg _, entitled.tax⟩).1
  unfold Returns.award taxOn
  rw [asI64_of_small typed]
  dsimp only
  rw [wrapI64_of_fits cents, wrapI64_of_fits tax]
  generalize proportion paid (quantityOf lines + quantity : Nat) sale.quantity = due
  generalize proportion (asI64 sale.taxCents) (quantityOf lines + quantity : Nat) sale.quantity = taxDue
  by_cases enough : (centsOf lines : Int) ≤ due ∧ (taxOf lines : Int) ≤ taxDue
  · rw [if_pos enough, if_neg (by omega)]
  · rw [if_neg enough, if_pos (by omega)]

theorem paidCents_of_ok {paid : Int} (priced : Returns.paidFor rank entry sale = .ok paid) :
    paidCents rank entry sale = paid := by
  rw [paidCents, priced, Except.toOption, Option.getD_some]

theorem paidCents_bounds (rank : Uuid → Nat) (entry : NewOrderLedgerEntry) (sale : NewOrderLineEntry) :
    0 ≤ paidCents rank entry sale ∧ FitsI64 (paidCents rank entry sale) := by
  unfold paidCents
  cases priced : Returns.paidFor rank entry sale with
  | error error => exact ⟨le_rfl, show FitsI64 0 by decide⟩
  | ok paid => exact paidFor_bounds priced

/-- Units that are left of a line are taken back exactly when its price is, too. -/
theorem added_iff (orderIds : (orders.map NewOrderLedgerEntry.orderId).Nodup) (stored : entry ∈ orders)
    (sound : Sound rank orders tables) (takes : TakesBack entry tables input sale)
    (accepting : ∀ row ∈ tables.returns, row.id = input.returnId → row.state = .open ∨ row.state = .items)
    (typed : sale.quantity < 2 ^ 63)
    (left : quantityOf (Returns.activeLines sale.lineId tables) + input.quantity ≤ sale.quantity)
    (fresh : ∀ line ∈ tables.returnLines, line.id ≠ input.id) :
    (∃ after, Returns.addReceiptedLine rank orders input tables = .ok after) ↔
      PriceLeft rank entry sale tables input.quantity ∧ Countable rank entry sale tables input := by
  have entitled := sound.entitled (entry, sale) (mem_sales.mpr ⟨stored, takes.listed⟩)
  have bounds := paidCents_bounds rank entry sale
  have found := original_found orderIds stored sound.unique accepting takes
  have counted := taken_eq bounds.2 entitled
  have next : Returns.nextQuantity sale ⟨quantityOf (Returns.activeLines sale.lineId tables),
      centsOf (Returns.activeLines sale.lineId tables), taxOf (Returns.activeLines sale.lineId tables)⟩ input.quantity =
        .ok (quantityOf (Returns.activeLines sale.lineId tables) + input.quantity : Nat) :=
    nextQuantity_works takes.positive typed left
  have awarded := award_eq bounds entitled typed takes.positive left
  have inserted : Returns.insertLine (pricedLine rank entry sale tables input) tables =
      .ok (withPriced rank entry sale tables input) := by
    unfold Returns.insertLine
    rw [if_neg]
    · rfl
    · intro taken
      obtain ⟨line, present, same⟩ := List.any_eq_true.mp taken
      exact fresh line present (of_decide_eq_true same)
  constructor
  · rintro ⟨after, added⟩
    obtain ⟨sale', taken, units, paid, amount, tax, line⟩ := addReceiptedLine_ok added
    obtain rfl := Except.ok.inj (found.symm.trans line.found)
    obtain rfl := Except.ok.inj (counted.symm.trans line.counted)
    obtain rfl := Except.ok.inj (next.symm.trans line.left)
    obtain rfl := paidCents_of_ok line.priced
    have given := awarded.symm.trans line.awarded
    split at given
    next enough =>
      obtain ⟨rfl, rfl⟩ := Prod.mk.inj (Except.ok.inj given)
      obtain ⟨between, written, refreshed⟩ := line.written
      obtain rfl := Except.ok.inj (inserted.symm.trans written)
      exact ⟨⟨enough.1, enough.2⟩, ⟨_, line.priced⟩, after, refreshed⟩
    next => cases given
  · rintro ⟨price, ⟨paid, priced⟩, after, refreshed⟩
    obtain rfl := paidCents_of_ok priced
    exact ⟨after, LineAdded.adds
      { some := Nat.pos_iff_ne_zero.mp takes.positive
        found := found
        counted := counted
        left := next
        priced := priced
        awarded := awarded.trans (if_pos ⟨price.cents, price.tax⟩)
        written := ⟨_, inserted, refreshed⟩ }⟩

/-- A line of which nothing was voided has its price left. -/
theorem priceLeft_of_level (level : Level rank entry sale (Returns.activeLines sale.lineId tables)) {quantity : Nat}
    (typed : sale.taxCents < 2 ^ 63)
    (left : quantityOf (Returns.activeLines sale.lineId tables) + quantity ≤ sale.quantity) :
    PriceLeft rank entry sale tables quantity := by
  have bounds := paidCents_bounds rank entry sale
  have within : ((quantityOf (Returns.activeLines sale.lineId tables) + quantity : Nat) : Int) ≤ sale.quantity := by
    exact_mod_cast left
  refine ⟨?_, ?_⟩
  · rw [level.cents]
    exact proportion_mono bounds.1 bounds.2 (Int.natCast_nonneg _) (by omega) within
  · rw [level.tax, taxOn, asI64_of_small typed]
    exact proportion_mono (Int.natCast_nonneg _) (by unfold FitsI64; omega) (Int.natCast_nonneg _) (by omega) within

end Tables

section Commands
variable {Remote Answer : Type} {app : AppState} {rank : Uuid → Nat} {providers : Providers Remote Answer}
  {choices : Nat → CounterChoice Answer} {world : CounterWorld Remote} {entry : NewOrderLedgerEntry} {n : Nat}

/-- A line that the ledger refuses is answered with the ledger's reason. -/
theorem part_refused (working : Working choices) {tables : ReturnTables} {part : Part} {row : ReturnRow}
    {error : PoolError} (accepted : Accepted app entry tables part)
    (unanswered : world.hub.db.responses.lookup part.header.idempotencyKey = none)
    (found : Returns.fetch part.line.returnId world.hub.db.returns = some row) (home : row.storeId = entry.storeId)
    (receipted : row.originalOrderId.isSome = true)
    (refused : Returns.addReceiptedLine rank world.hub.db.orders
      (receiptInput (.random (choices (n + 4)).hub.freshId) part.line) world.hub.db.returns = .error error) :
    (part.task.program app).run (inTurn rank providers choices) (world, n) =
      (.rejected part.header.idempotencyKey (posError "RETURN_LINE_REJECTED" error.toString), world, n + 6) := by
  have drawn : inTurn rank providers choices (world, n + 4) ⟨counterFrame part.header, none, [], .hub .newId⟩ =
      (.random (choices (n + 4)).hub.freshId, world, n + 5) := rfl
  have failed : inTurn rank providers choices (world, n + 5) ⟨counterFrame part.header, none, [],
      .addReceiptedReturnLine (receiptInput (.random (choices (n + 4)).hub.freshId) part.line)⟩ =
        (.error error, world, n + 6) := by
    simp [inTurn, performAtCounter, transactReturns, working.storage, refused]
  have executed : (executeReturnCommand app part.header (.returnLineItem part.line)).run
      (inTurn rank providers choices) (world, n + 1) =
        (.error (posError "RETURN_LINE_REJECTED" error.toString), world, n + 6) := by
    refine (Fallible.run_bind_ok _ _ _ (loadReturn_runs working found)).trans ?_
    dsimp only
    rw [if_neg (not_not.mpr (home.trans accepted.store.2.symm)), if_pos receipted]
    refine (Program.run_step _ rfl drawn).trans ?_
    exact Program.run_step _ rfl failed
  refine (part_starts working accepted unanswered).trans ?_
  refine (Program.run_bind _ (executeReturnCommand app part.header (.returnLineItem part.line)) _ _).trans ?_
  unfold Fallible.run at executed
  rw [executed]
  rfl

/-- A ReturnLineItem, not answered yet, for units that are left of a line. -/
structure Asks (app : AppState) (entry : NewOrderLedgerEntry) (sale : NewOrderLineEntry) (db : Db) (part : Part) :
    Prop where
  accepted : Accepted app entry db.returns part
  means : part.takes entry = [sale]
  unanswered : db.responses.lookup part.header.idempotencyKey = none
  accepting : ∀ row ∈ db.returns.returns, row.id = part.line.returnId → row.state = .open ∨ row.state = .items
  left : quantityOf (Returns.activeLines sale.lineId db.returns) + part.line.quantity ≤ sale.quantity

/-- The row that the command wants to write, under the id it draws. -/
def wanted (choices : Nat → CounterChoice Answer) (n : Nat) (part : Part) : ReturnLineRow :=
  receiptInput (.random (choices (n + 4)).hub.freshId) part.line

theorem command_iff (working : Working choices) {orders : List NewOrderLedgerEntry} {sale : NewOrderLineEntry} {part : Part}
    (ledger : world.hub.db.orders = orders) (orderIds : (orders.map NewOrderLedgerEntry.orderId).Nodup)
    (stored : entry ∈ orders) (sound : Sound rank orders world.hub.db.returns) (typed : sale.quantity < 2 ^ 63)
    (asks : Asks app entry sale world.hub.db part)
    (fresh : ∀ line ∈ world.hub.db.returns.returnLines, line.id ≠ (wanted choices n part).id) :
    (∃ payload, ((part.task.program app).run (inTurn rank providers choices) (world, n)).1 =
        .accepted part.header.idempotencyKey payload) ↔
      PriceLeft rank entry sale world.hub.db.returns part.line.quantity ∧
        Countable rank entry sale world.hub.db.returns (wanted choices n part) := by
  have accepted := asks.accepted
  obtain ⟨sale', names, sku⟩ := accepted.names
  obtain rfl : sale' = sale := by simpa using names.symm.trans asks.means
  have takes : TakesBack entry world.hub.db.returns (wanted choices n part) sale' :=
    ⟨accepted.positive, accepted.onReturn, names, sku⟩
  obtain ⟨row, found, home, back⟩ := fetch_of_place sound.unique accepted.onReturn
  have receipted : row.originalOrderId.isSome = true := by rw [back]; rfl
  have taken : (∃ after, Returns.addReceiptedLine rank orders (wanted choices n part) world.hub.db.returns = .ok after) ↔
      PriceLeft rank entry sale' world.hub.db.returns part.line.quantity ∧
        Countable rank entry sale' world.hub.db.returns (wanted choices n part) :=
    added_iff orderIds stored sound takes asks.accepting typed asks.left fresh
  rw [← taken]
  subst ledger
  constructor
  · rintro ⟨payload, answered⟩
    cases added : Returns.addReceiptedLine rank world.hub.db.orders (wanted choices n part) world.hub.db.returns with
    | ok after => exact ⟨after, rfl⟩
    | error error =>
      rw [part_refused working accepted asks.unanswered found home receipted added] at answered
      cases answered
  · rintro ⟨after, added⟩
    -- the return is still there once the line is written
    obtain ⟨_, _, _, _, _, _, line⟩ := addReceiptedLine_ok added
    obtain ⟨_, _, _, total, tax, rows⟩ := line.effect sound.unique
    have place : (part.line.returnId, entry.storeId, some entry.orderId) ∈ places after := by
      rw [places_update rows fun _ => ⟨rfl, rfl, rfl⟩]
      exact accepted.onReturn
    have unique : (after.returns.map ReturnRow.id).Nodup := by
      rw [rows]
      exact Table.unique_run (fun _ => rfl) sound.unique
    obtain ⟨row', kept, _⟩ := fetch_of_place unique place
    obtain ⟨payload, _, runs, _⟩ := part_runs working accepted asks.unanswered found home receipted added kept
    exact ⟨payload, congrArg Prod.fst runs⟩

end Commands

/-- In every state that ReturnLineItem and VoidReturn commands lead to, a ReturnLineItem for
units that are left of a line is accepted exactly when active returns have not been given
more than these units and theirs are worth, and the columns can be added up. -/
theorem accepted_iff_price_left {Remote Answer : Type} (app : AppState) (rank : Uuid → Nat)
    (providers : Providers Remote Answer) (world : CounterWorld Remote)
    (opening : Opening world.hub.db.orders world.hub.db.returns)
    (orderIds : (world.hub.db.orders.map NewOrderLedgerEntry.orderId).Nodup)
    (typed : ∀ sale ∈ sales world.hub.db.orders, sale.2.quantity < 2 ^ 32)
    (events : List (Event (CounterChoice Answer)
      { task // AgainstOrders world.hub.db.orders world.hub.db.returns task }))
    (choices : Nat → CounterChoice Answer) (working : Working choices) (n : Nat) :
    let after := (((returnCounter app rank providers).only _).run (Pool.quiet world) events).world
    ∀ entry ∈ world.hub.db.orders, ∀ sale ∈ entry.lines, ∀ part, Asks app entry sale after.hub.db part →
      (∀ line ∈ after.hub.db.returns.returnLines, line.id ≠ (wanted choices n part).id) →
      ((∃ payload, ((part.task.program app).run (inTurn rank providers choices) (after, n)).1 =
          .accepted part.header.idempotencyKey payload) ↔
        PriceLeft rank entry sale after.hub.db.returns part.line.quantity ∧
          Countable rank entry sale after.hub.db.returns (wanted choices n part)) := by
  intro after entry stored sale listed part asks fresh
  have kept : Kept rank world.hub.db.orders world.hub.db.returns after := kept_run app providers opening events
  have small : sale.quantity < 2 ^ 63 := lt_trans (typed (entry, sale) (mem_sales.mpr ⟨stored, listed⟩)) (by norm_num)
  exact command_iff working kept.ledger orderIds stored kept.sound small asks fresh

section Samples

theorem exists_of_isOk {ε α : Type} {result : Except ε α} (works : result.isOk = true) : ∃ value, result = .ok value := by
  cases result with
  | error error => cases works
  | ok value => exact ⟨value, rfl⟩

/-- Three items for 5 cents each, and one cent of tax on all of them. -/
def cheapItems : NewOrderLineEntry :=
  { lineId := 51, itemId := 12, sku := "SKU", name := "Item", quantity := 3, unitPriceCents := 5
    lineTotalCents := 15, discountCents := 0, taxCents := 1, taxInclusive := false }

def cheapSold : NewOrderLedgerEntry :=
  { threeSold with subtotalCents := 15, discountCents := 0, taxCents := 1, totalCents := 16, lines := [cheapItems] }

/-- Four returns of the order have been started. -/
def cheapWorld : CounterWorld RemotePayments :=
  let world := counterWith ⟨[openReturn 60 (some 50), openReturn 61 (some 50), openReturn 62 (some 50),
    openReturn 63 (some 50)], [], [], []⟩
  { world with hub := { world.hub with db := { world.hub.db with orders := [cheapSold] } } }

def cheapCommand (key : Nat) (command : ReturnCommand)
    (against : AgainstOrders cheapWorld.hub.db.orders cheapWorld.hub.db.returns (returnCommand (.random key) command)) :
    List (Event (CounterChoice ProviderAnswer)
      { task // AgainstOrders cheapWorld.hub.db.orders cheapWorld.hub.db.returns task }) :=
  .start ⟨returnCommand (.random key) command, against⟩ :: counterSteps 10 (1000 * key)

/-- Every item is put on a return of its own. The cent of tax falls on the last one. -/
def oneByOne : List (Event (CounterChoice ProviderAnswer)
    { task // AgainstOrders cheapWorld.hub.db.orders cheapWorld.hub.db.returns task }) :=
  cheapCommand 100 (takeBack 60 1) (by decide) ++ cheapCommand 101 (takeBack 61 1) (by decide) ++
    cheapCommand 102 (takeBack 62 1) (by decide)

def firstTwoVoided : List (Event (CounterChoice ProviderAnswer)
    { task // AgainstOrders cheapWorld.hub.db.orders cheapWorld.hub.db.returns task }) :=
  oneByOne ++ cheapCommand 103 (.voidReturn 60) (by decide) ++ cheapCommand 104 (.voidReturn 61) (by decide)

/-- One item is brought back once more. -/
def onceMore : Part :=
  { boundRegister := none
    header := { version := .v1_0_0, idempotencyKey := 105, storeId := 1, registerId := 2 }
    line := ⟨63, "SKU", none, 1, 0, 0, false, some 51⟩ }

/-- Two of three items can still be returned, and one of them is refused: the return that
is left has the cent of tax, and the tax on two items is less than that. -/
theorem item_refused_for_its_tax :
    let after := (((returnCounter shop byBits contractual).only _).run (Pool.quiet cheapWorld) firstTwoVoided).world
    Asks shop cheapSold cheapItems after.hub.db onceMore ∧
      ((onceMore.task.program shop).run (inTurn byBits contractual steady) (after, 0)).1 =
        .rejected 105 (posError "RETURN_LINE_REJECTED"
          (PoolError.other "original return values require reconciliation").toString) := by
  refine ⟨⟨⟨⟨rfl, rfl⟩, rfl, rfl, by decide, by decide +kernel, cheapItems, rfl, rfl⟩, rfl, by decide +kernel,
    by decide +kernel, by decide +kernel⟩, by decide +kernel⟩

/-- The last of the three is voided, and returned once more. -/
def lastVoided : List (Event (CounterChoice ProviderAnswer)
    { task // AgainstOrders cheapWorld.hub.db.orders cheapWorld.hub.db.returns task }) :=
  oneByOne ++ cheapCommand 104 (.voidReturn 62) (by decide)

theorem last_item_taken_again :
    let after := (((returnCounter shop byBits contractual).only _).run (Pool.quiet cheapWorld) lastVoided).world
    ∃ payload, ((onceMore.task.program shop).run (inTurn byBits contractual steady) (after, 0)).1 =
      .accepted 105 payload := by
  exact (accepted_iff_price_left shop byBits contractual cheapWorld ⟨by decide, by decide, by decide, by decide⟩
    (by decide) (by decide) lastVoided steady steady_works 0 cheapSold (List.mem_singleton_self _) cheapItems
    (List.mem_singleton_self _) onceMore
    ⟨⟨⟨rfl, rfl⟩, rfl, rfl, by decide, by decide +kernel, cheapItems, rfl, rfl⟩, rfl, by decide +kernel,
      by decide +kernel, by decide +kernel⟩ (by decide +kernel)).mpr
    ⟨⟨by decide +kernel, by decide +kernel⟩, ⟨15, by decide +kernel⟩, exists_of_isOk (by decide +kernel)⟩

end Samples
end ApexEdge.Proofs.PricedReturns
