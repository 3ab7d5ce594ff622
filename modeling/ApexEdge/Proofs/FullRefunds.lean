import ApexEdge.Proofs.WholeOrders

/-! ReturnLineItem commands that bring an order back whole, executed one after another. -/

namespace ApexEdge.Proofs.FullRefunds
open Library Payment Domain Storage Contracts Hub
open Attempts Entitlements WholeOrders ReceiptedReturns

/-- A ReturnLineItem as it is received. -/
structure Part where
  boundRegister : Option Uuid
  header : CommandHeader
  line : ReturnLineItemPayload

def Part.task (part : Part) : ReturnTask := ⟨part.boundRegister, part.header, .returnLineItem part.line⟩

/-- The lines of an order that the command may mean. -/
def Part.takes (part : Part) (entry : NewOrderLedgerEntry) : List NewOrderLineEntry :=
  meant entry part.line.originalLineId part.line.sku

/-- How many units of a line the commands ask to take back. -/
def askedBack (entry : NewOrderLedgerEntry) (parts : List Part) (sale : NewOrderLineEntry) : Nat :=
  ((parts.filter fun part => part.takes entry = [sale]).map fun part => part.line.quantity).sum

section Serving
variable {Remote Answer : Type} (app : AppState) (rank : Uuid → Nat) (providers : Providers Remote Answer)
  (choices : Nat → CounterChoice Answer)

/-- Requests are answered one after another; the stream says what each of them meets. -/
def inTurn (state : CounterWorld Remote × Nat) (request : CounterRequest) : request.Reply × CounterWorld Remote × Nat :=
  let answered := performAtCounter rank providers (choices state.2) state.1 request
  (answered.1, answered.2, state.2 + 1)

/-- Commands are executed one after another, each to its end. -/
def serve (parts : List Part) (state : CounterWorld Remote × Nat) : CounterWorld Remote × Nat :=
  parts.foldl (fun state part => ((part.task.program app).run (inTurn rank providers choices) state).2) state

end Serving

/-- The hub takes the command, and it puts units of one line of the order on a return of the order. -/
structure Accepted (app : AppState) (entry : NewOrderLedgerEntry) (tables : ReturnTables) (part : Part) : Prop where
  store : part.header.storeId = app.storeId ∧ part.header.storeId = entry.storeId
  register : part.boundRegister.any (· ≠ part.header.registerId) = false
  version : part.header.version = .v1_0_0
  positive : 0 < part.line.quantity
  onReturn : (part.line.returnId, entry.storeId, some entry.orderId) ∈ places tables
  names : ∃ sale, part.takes entry = [sale] ∧ sale.sku = part.line.sku

/-- Storage works, and ids are drawn that are not drawn again. -/
structure Working {Answer : Type} (choices : Nat → CounterChoice Answer) : Prop where
  storage : ∀ n, (choices n).hub.storageFailure = none
  distinct : Function.Injective fun n => (choices n).hub.freshId

section Running
variable {Remote Answer : Type} {app : AppState} {rank : Uuid → Nat} {providers : Providers Remote Answer}
  {choices : Nat → CounterChoice Answer} {world : CounterWorld Remote} {header : CommandHeader} {n : Nat}

/-- With storage working a return is loaded as it is. -/
theorem loadReturn_runs (working : Working choices) {id : Uuid} {row : ReturnRow}
    (found : Returns.fetch id world.hub.db.returns = some row) :
    (loadReturn header id).run (inTurn rank providers choices) (world, n) =
      (.ok ⟨row, Returns.lines id world.hub.db.returns, Returns.refundsOf id world.hub.db.returns⟩, world, n + 3) := by
  have fetched : inTurn rank providers choices (world, n) (.ofHub ⟨counterFrame header, .fetchReturn id⟩) =
      (.ok (some row), world, n + 1) := by
    simp [inTurn, performAtCounter, CounterRequest.ofHub, perform, query, working.storage, found]
  have listed : inTurn rank providers choices (world, n + 1) (.ofHub ⟨counterFrame header, .listReturnLines id⟩) =
      (.ok (Returns.lines id world.hub.db.returns), world, n + 2) := by
    simp [inTurn, performAtCounter, CounterRequest.ofHub, perform, query, working.storage]
  have refunds : inTurn rank providers choices (world, n + 2) (.ofHub ⟨counterFrame header, .listRefunds id⟩) =
      (.ok (Returns.refundsOf id world.hub.db.returns), world, n + 3) := by
    simp [inTurn, performAtCounter, CounterRequest.ofHub, perform, query, working.storage]
  refine (Program.run_step _ rfl fetched).trans ?_
  refine (Program.run_step _ rfl listed).trans ?_
  exact Program.run_step _ rfl refunds

/-- A line is taken back and the return loaded again. -/
theorem returnLineItem_runs (working : Working choices) {p : ReturnLineItemPayload} {row row' : ReturnRow}
    {after : ReturnTables} (found : Returns.fetch p.returnId world.hub.db.returns = some row)
    (home : row.storeId = header.storeId) (receipted : row.originalOrderId.isSome = true)
    (added : Returns.addReceiptedLine rank world.hub.db.orders (receiptInput (.random (choices (n + 3)).hub.freshId) p)
      world.hub.db.returns = .ok after)
    (kept : Returns.fetch p.returnId after = some row') :
    (returnLineItem header p).run (inTurn rank providers choices) (world, n) =
      (.ok (.returned ⟨row', Returns.lines p.returnId after, Returns.refundsOf p.returnId after⟩),
        world.withReturns after, n + 8) := by
  have drawn : inTurn rank providers choices (world, n + 3) ⟨counterFrame header, none, [], .hub .newId⟩ =
      (.random (choices (n + 3)).hub.freshId, world, n + 4) := rfl
  have written : inTurn rank providers choices (world, n + 4) ⟨counterFrame header, none, [],
      .addReceiptedReturnLine (receiptInput (.random (choices (n + 3)).hub.freshId) p)⟩ =
        (.ok (), world.withReturns after, n + 5) := by
    simp [inTurn, performAtCounter, transactReturns, working.storage, added]
  refine (Fallible.run_bind_ok _ _ _ (loadReturn_runs working found)).trans ?_
  dsimp only
  rw [if_neg (not_not.mpr home), if_pos receipted]
  refine (Program.run_step _ rfl drawn).trans ?_
  refine (Program.run_step _ rfl written).trans ?_
  exact Fallible.run_bind_ok _ _ _ (loadReturn_runs working kept)

theorem setResponse_runs (working : Working choices) (key : Uuid) (response : PosResponse) :
    ∃ later, inTurn rank providers choices (world, n) (.ofHub ⟨counterFrame header, .setResponse key response⟩) =
        (.ok (), later, n + 1) ∧
      later.hub.db.returns = world.hub.db.returns ∧ later.hub.db.orders = world.hub.db.orders ∧
        ∀ other ≠ key, later.hub.db.responses.lookup other = world.hub.db.responses.lookup other := by
  refine ⟨{ world with hub := { world.hub with db := { world.hub.db with
    responses := (key, response) :: world.hub.db.responses.filter (·.1 ≠ key) } } }, ?_, rfl, rfl, ?_⟩
  · simp [inTurn, performAtCounter, CounterRequest.ofHub, perform, update, transact, working.storage]
  · exact fun other apart => Table.lookup_replaced _ apart response

/-- A command that is taken, and not answered yet, is executed. -/
theorem part_starts (working : Working choices) {entry : NewOrderLedgerEntry} {tables : ReturnTables} {part : Part}
    (accepted : Accepted app entry tables part)
    (unanswered : world.hub.db.responses.lookup part.header.idempotencyKey = none) :
    (part.task.program app).run (inTurn rank providers choices) (world, n) =
      (Program.bind (executeReturnCommand app part.header (.returnLineItem part.line)) part.task.answered).run
        (inTurn rank providers choices) (world, n + 1) := by
  have asked : inTurn rank providers choices (world, n)
      (.ofHub ⟨counterFrame part.header, .getResponse part.header.idempotencyKey⟩) = (.ok none, world, n + 1) := by
    simp [inTurn, performAtCounter, CounterRequest.ofHub, perform, query, working.storage, unanswered]
  unfold ReturnTask.program Part.task
  dsimp only
  rw [if_neg (not_not.mpr accepted.store.1), if_neg (by rw [accepted.register]; decide),
    if_neg (not_not.mpr accepted.version)]
  exact Program.run_step _ rfl asked

/-- What it answers is stored under its key. -/
theorem part_runs (working : Working choices) {entry : NewOrderLedgerEntry} {tables after : ReturnTables} {part : Part}
    {row row' : ReturnRow} (accepted : Accepted app entry tables part)
    (unanswered : world.hub.db.responses.lookup part.header.idempotencyKey = none)
    (found : Returns.fetch part.line.returnId world.hub.db.returns = some row) (home : row.storeId = entry.storeId)
    (receipted : row.originalOrderId.isSome = true)
    (added : Returns.addReceiptedLine rank world.hub.db.orders
      (receiptInput (.random (choices (n + 4)).hub.freshId) part.line) world.hub.db.returns = .ok after)
    (kept : Returns.fetch part.line.returnId after = some row') :
    ∃ payload later, (part.task.program app).run (inTurn rank providers choices) (world, n) =
        (.accepted part.header.idempotencyKey payload, later, n + 10) ∧
      later.hub.db.returns = after ∧ later.hub.db.orders = world.hub.db.orders ∧
        ∀ key ≠ part.header.idempotencyKey,
          later.hub.db.responses.lookup key = world.hub.db.responses.lookup key := by
  let payload : Payload :=
    .returned ⟨row', Returns.lines part.line.returnId after, Returns.refundsOf part.line.returnId after⟩
  obtain ⟨later, stored, rest⟩ : ∃ later, inTurn rank providers choices (world.withReturns after, n + 9)
      (.ofHub ⟨counterFrame part.header, .setResponse part.header.idempotencyKey
        (.accepted part.header.idempotencyKey payload)⟩) = (.ok (), later, n + 10) ∧ _ :=
    setResponse_runs working _ _
  refine ⟨payload, later, ?_, rest⟩
  refine (part_starts working accepted unanswered).trans ?_
  have executed : (executeReturnCommand app part.header (.returnLineItem part.line)).run
      (inTurn rank providers choices) (world, n + 1) = (.ok payload, world.withReturns after, n + 9) :=
    returnLineItem_runs working found (home.trans accepted.store.2.symm) receipted added kept
  refine (Program.run_bind _ (executeReturnCommand app part.header (.returnLineItem part.line)) _ _).trans ?_
  unfold Fallible.run at executed
  rw [executed]
  exact Program.run_step _ rfl stored

theorem fetch_of_place {tables : ReturnTables} {id storeId : Uuid} {orderId : Option Uuid}
    (unique : (tables.returns.map ReturnRow.id).Nodup) (place : (id, storeId, orderId) ∈ places tables) :
    ∃ row, Returns.fetch id tables = some row ∧ row.storeId = storeId ∧ row.originalOrderId = orderId := by
  obtain ⟨row, present, same⟩ := List.mem_map.mp place
  obtain ⟨rfl, store, order⟩ : row.id = id ∧ row.storeId = storeId ∧ row.originalOrderId = orderId := by simpa using same
  exact ⟨row, Table.find?_of_unique unique present, store, order⟩

end Running

section Runs
variable {Remote Answer : Type} {app : AppState} {rank : Uuid → Nat} {providers : Providers Remote Answer}
  {choices : Nat → CounterChoice Answer} {orders : List NewOrderLedgerEntry} {entry : NewOrderLedgerEntry}
  {tables : ReturnTables} {couponCents : Nat}

/-- The order between two commands: what was taken, and what is still asked, is what was sold. -/
structure Underway (rank : Uuid → Nat) (choices : Nat → CounterChoice Answer) (orders : List NewOrderLedgerEntry)
    (entry : NewOrderLedgerEntry) (tables : ReturnTables) (parts : List Part) (state : CounterWorld Remote × Nat) :
    Prop where
  ledger : state.1.hub.db.orders = orders
  returning : Returning rank orders entry state.1.hub.db.returns
  places : places state.1.hub.db.returns = places tables
  fresh : ∀ line ∈ state.1.hub.db.returns.returnLines, ∀ n, state.2 ≤ n → line.id ≠ .random (choices n).hub.freshId
  unanswered : ∀ part ∈ parts, state.1.hub.db.responses.lookup part.header.idempotencyKey = none
  left : ∀ sale ∈ entry.lines,
    quantityOf (takenOfLine sale state.1.hub.db.returns) + askedBack entry parts sale = sale.quantity

/-- The ledger that an order is returned to: its amounts fit, and ids are keys. -/
structure Recorded (entry : NewOrderLedgerEntry) (orders : List NewOrderLedgerEntry) (couponCents : Nat) : Prop where
  payable : Payable entry couponCents
  keyed : Keyed orders
  orderIds : (orders.map NewOrderLedgerEntry.orderId).Nodup
  stored : entry ∈ orders
  typed : ∀ sale ∈ entry.lines, sale.quantity < 2 ^ 63

theorem askedBack_cons (part : Part) (parts : List Part) (sale : NewOrderLineEntry) : askedBack entry (part :: parts) sale =
    (if part.takes entry = [sale] then part.line.quantity else 0) + askedBack entry parts sale := by
  unfold askedBack
  by_cases takes : part.takes entry = [sale] <;> simp [takes]

/-- One command takes its units back, and the others can follow. -/
theorem underway_step (recorded : Recorded entry orders couponCents) (working : Working choices) {part : Part}
    {parts : List Part} {state : CounterWorld Remote × Nat} (accepted : Accepted app entry tables part)
    (apart : ∀ other ∈ parts, other.header.idempotencyKey ≠ part.header.idempotencyKey)
    (underway : Underway rank choices orders entry tables (part :: parts) state) :
    Underway rank choices orders entry tables parts
      ((part.task.program app).run (inTurn rank providers choices) state).2 := by
  obtain ⟨world, n⟩ := state
  obtain ⟨sale, names, sku⟩ := accepted.names
  let input := receiptInput (.random (choices (n + 4)).hub.freshId) part.line
  have place : (part.line.returnId, entry.storeId, some entry.orderId) ∈ places world.hub.db.returns := by
    rw [underway.places]
    exact accepted.onReturn
  have takes : TakesBack entry world.hub.db.returns input sale := ⟨accepted.positive, place, names, sku⟩
  have listed := takes.listed
  have counted := underway.left sale listed
  rw [askedBack_cons, if_pos names] at counted
  obtain ⟨line, added, returning, id, own, quantity⟩ := takes_back recorded.payable recorded.keyed recorded.orderIds
    recorded.stored underway.returning takes (recorded.typed sale listed) (by show _ + part.line.quantity ≤ _; omega)
    fun line member => underway.fresh line member (n + 4) (Nat.le_add_right n 4)
  have unique := underway.returning.sound.unique
  obtain ⟨row, found, home, back⟩ := fetch_of_place unique place
  obtain ⟨row', kept, _⟩ := fetch_of_place returning.sound.unique (places_withLine ▸ place)
  obtain ⟨_, later, runs, after, ledger, others⟩ : ∃ payload later,
      (part.task.program app).run (inTurn rank providers choices) (world, n) =
        (.accepted part.header.idempotencyKey payload, later, n + 10) ∧ _ :=
    part_runs working accepted (underway.unanswered part List.mem_cons_self) found home (by rw [back]; rfl)
      (underway.ledger ▸ added) kept
  rw [runs]
  refine ⟨ledger.trans underway.ledger, ?_, ?_, ?_, ?_, ?_⟩
  · show Returning rank orders entry later.hub.db.returns
    rw [after]
    exact returning
  · show places later.hub.db.returns = places tables
    rw [after, places_withLine, underway.places]
  · intro other member m later
    dsimp only at member later
    rw [after] at member
    rcases List.mem_append.mp member with old | new
    · exact underway.fresh other old m (by dsimp only; omega)
    · rw [List.mem_singleton.mp new, id]
      intro same
      have drawn : n + 4 = m := working.distinct (Uuid.random.inj same)
      omega
  · intro other member
    dsimp only
    rw [others _ (apart other member)]
    exact underway.unanswered other (List.mem_cons_of_mem part member)
  · intro other member
    have before := underway.left other member
    rw [askedBack_cons, names] at before
    dsimp only
    rw [after, takenOfLine_added rfl, own]
    by_cases same : sale = other
    · subst same
      rw [if_pos rfl, quantityOf_append, quantity]
      rw [if_pos rfl] at before
      show _ + part.line.quantity + _ = _
      omega
    · have off : ¬some sale.lineId = some other.lineId := fun clash =>
        same (List.inj_on_of_nodup_map (ids_nodup recorded.keyed recorded.stored) listed member clash)
      rw [if_neg off, List.append_nil]
      rw [if_neg (by simpa using same)] at before
      omega

theorem underway_serve (recorded : Recorded entry orders couponCents) (working : Working choices) {parts : List Part}
    {state : CounterWorld Remote × Nat} (accepted : ∀ part ∈ parts, Accepted app entry tables part)
    (keys : (parts.map fun part => part.header.idempotencyKey).Nodup)
    (underway : Underway rank choices orders entry tables parts state) :
    Underway rank choices orders entry tables [] (serve app rank providers choices parts state) := by
  induction parts generalizing state with
  | nil => exact underway
  | cons part parts ih =>
    obtain ⟨fresh, keys⟩ := List.nodup_cons.mp keys
    have apart : ∀ other ∈ parts, other.header.idempotencyKey ≠ part.header.idempotencyKey :=
      fun other member same => fresh (List.mem_map.mpr ⟨other, member, same⟩)
    exact ih (fun other member => accepted other (List.mem_cons_of_mem part member)) keys
      (underway_step recorded working (accepted part List.mem_cons_self) apart underway)

end Runs

/-- Discounts stay within what they are taken off, units are what is charged for, and the
amounts fit the ledger's signed columns. -/
structure Covered (cart : Cart) : Prop where
  discounts : ∀ line ∈ cart.lines, line.discountCents ≤ line.lineTotalCents
  coupons : (cart.appliedCoupons.map AppliedCouponRecord.discountCents).sum ≤
    (cart.lines.map fun line => line.lineTotalCents - line.discountCents).sum
  charged : ∀ line ∈ cart.lines, line.quantity = 0 → line.lineTotalCents = 0 ∧ line.taxCents = 0
  quantities : ∀ line ∈ cart.lines, line.quantity < 2 ^ 32
  fits : (cart.lines.map fun line => line.lineTotalCents + line.taxCents).sum < 2 ^ 63

section Orders
variable {cart : Cart} {orderId : Uuid} {order : Order} {envelope : PosRequestEnvelope} {shiftId : Option Uuid}
  {submissionId : Uuid} {fiscal : FiscalPersistFields} {entry : NewOrderLedgerEntry}

/-- A line of a cart, as the ledger has it. -/
def soldLine (line : CartLineItem) : NewOrderLineEntry :=
  { lineId := line.lineId, itemId := line.itemId, sku := line.sku, name := line.name, quantity := line.quantity
    unitPriceCents := line.unitPriceCents, lineTotalCents := line.lineTotalCents, discountCents := line.discountCents
    taxCents := line.taxCents, taxInclusive := line.taxInclusive }

/-- The ledger has the cart's lines and figures. -/
theorem ledger_of_cart (built : cart.toOrder orderId = .ok order)
    (written : entry = ledgerEntry envelope order shiftId submissionId fiscal) :
    entry.lines = cart.lines.map soldLine ∧ entry.discountCents = cart.discountCents ∧
      order.totalCents = cart.totalCents ∧ order.taxCents = cart.taxCents := by
  subst written
  unfold Cart.toOrder at built
  obtain ⟨_, _, built⟩ := bind_eq_ok built
  obtain rfl := Except.ok.inj built
  refine ⟨?_, rfl, rfl, rfl⟩
  simp only [ledgerEntry, Cart.toOrderLines, List.map_map]
  rfl

variable (covered : Covered cart) (lines : entry.lines = cart.lines.map soldLine)
include covered lines

theorem payable_of_cart (discount : entry.discountCents = cart.discountCents) :
    Payable entry (cart.appliedCoupons.map AppliedCouponRecord.discountCents).sum where
  covered sale listed := by
    rw [lines] at listed
    obtain ⟨line, member, rfl⟩ := List.mem_map.mp listed
    exact covered.discounts line member
  coupons := by
    rw [lines, List.map_map]
    exact covered.coupons
  discount := by
    rw [discount, lines, List.map_map]
    rfl
  fits := by
    rw [lines, List.map_map]
    exact covered.fits

/-- What the customer paid is the net, less the coupons, and the tax on top. -/
theorem total_of_cart (discount : entry.discountCents = cart.discountCents) :
    (cart.totalCents : Int) = netCents entry - (cart.appliedCoupons.map AppliedCouponRecord.discountCents).sum +
      ((entry.lines.map exclusiveTaxCents).sum : Nat) := by
  have net := netCents_eq (payable_of_cart covered lines discount)
  have coupons := covered.coupons
  have gross : (cart.lines.map CartLineItem.grossCents).sum =
      (cart.lines.map fun line => line.lineTotalCents - line.discountCents).sum +
        (entry.lines.map exclusiveTaxCents).sum := by
    rw [lines, List.map_map, ← List.sum_map_add]
    refine congrArg List.sum (List.map_congr_left fun line member => ?_)
    have part : line.lineTotalCents + line.taxCents ≤ (cart.lines.map fun line => line.lineTotalCents + line.taxCents).sum :=
      List.single_le_sum (fun _ _ => Nat.zero_le _) _ (List.mem_map.mpr ⟨line, member, rfl⟩)
    have fits := covered.fits
    have small : saturatingAdd (line.lineTotalCents - line.discountCents) line.taxCents =
        line.lineTotalCents - line.discountCents + line.taxCents := by
      unfold saturatingAdd u64Max
      omega
    simp only [CartLineItem.grossCents, exclusiveTaxCents, soldLine, Function.comp_apply, small]
    by_cases inclusive : line.taxInclusive <;> simp [inclusive]
  have same : (entry.lines.map fun line => line.lineTotalCents - line.discountCents).sum =
      (cart.lines.map fun line => line.lineTotalCents - line.discountCents).sum := by
    rw [lines, List.map_map]
    rfl
  unfold Cart.totalCents
  rw [gross, net, same]
  omega

end Orders

/-- The order is in the ledger, returns of it have been started, and nothing is on them yet. -/
structure ReadyToReturn (rank : Uuid → Nat) (entry : NewOrderLedgerEntry) (orders : List NewOrderLedgerEntry)
    (tables : ReturnTables) : Prop where
  opening : Opening orders tables
  orderIds : (orders.map NewOrderLedgerEntry.orderId).Nodup
  stored : entry ∈ orders
  ranks : (entry.lines.map fun line => rank line.lineId).Nodup
  started : ∀ row ∈ returnsOf entry.orderId tables,
    row.state = .open ∧ row.totalCents = 0 ∧ row.taxCents = 0 ∧ Returns.lines row.id tables = []

section Ready
variable {rank : Uuid → Nat} {entry : NewOrderLedgerEntry} {orders : List NewOrderLedgerEntry} {tables : ReturnTables}

theorem untaken (ready : ReadyToReturn rank entry orders tables) {sale : NewOrderLineEntry} (listed : sale ∈ entry.lines) :
    takenOfLine sale tables = [] := by
  refine List.filter_eq_nil_iff.mpr fun line member names => ?_
  have none := ready.opening.unreturned line member
  have names : line.originalLineId = some sale.lineId := of_decide_eq_true names
  exact List.any_eq_false.mp none (entry, sale) (mem_sales.mpr ⟨ready.stored, listed⟩) (decide_eq_true names)

theorem returning_of_ready (ready : ReadyToReturn rank entry orders tables) : Returning rank orders entry tables := by
  refine ⟨sound_opening ready.opening, ?_, ?_, ?_, ?_⟩
  · intro line member
    obtain ⟨present, sale, listed, names⟩ := mem_takenOf.mp member
    have taken : line ∈ takenOfLine sale tables := mem_takenOfLine.mpr ⟨present, names⟩
    rw [untaken ready listed] at taken
    cases taken
  · intro row mine line member
    rw [(ready.started row mine).2.2.2] at member
    cases member
  · intro row mine
    obtain ⟨isOpen, total, tax, lines⟩ := ready.started row mine
    exact ⟨.inl isOpen, by rw [lines]; exact total, by rw [lines]; exact tax⟩
  · intro sale listed
    rw [untaken ready listed]
    exact ⟨Nat.zero_le _, by simp [centsOf, quantityOf], by simp [taxOf, quantityOf], by simp⟩

end Ready

/-- Commands that together take back all units of the order, each command once. -/
structure TakeAllBack (app : AppState) (entry : NewOrderLedgerEntry) (db : Db) (parts : List Part) : Prop where
  accepted : ∀ part ∈ parts, Accepted app entry db.returns part
  keys : (parts.map fun part => part.header.idempotencyKey).Nodup
  unanswered : ∀ part ∈ parts, db.responses.lookup part.header.idempotencyKey = none
  whole : ∀ sale ∈ entry.lines, askedBack entry parts sale = sale.quantity

section Samples

def soldItem (id cents discount tax : Nat) (inclusive : Bool) (sku : String) (quantity : Nat) : CartLineItem :=
  { lineId := .random id, itemId := 12, sku := sku, name := "Item", quantity := quantity, modifierOptionIds := []
    notes := none, unitPriceCents := cents / quantity, lineTotalCents := cents, discountCents := discount
    taxCents := tax, taxInclusive := inclusive }

def paidCart (lines : List CartLineItem) (coupons : List AppliedCouponRecord) (paid : Nat) : Cart :=
  { Cart.new 10 1 2 0 with
    state := .paid, lines := lines, appliedCoupons := coupons
    payments := [⟨30, paid, 0, some "cash", none, none, none⟩] }

/-- Three of one thing, with tax on top, two of another, with tax in the price, and a coupon. -/
def mixedCart : Cart :=
  paidCart [soldItem 51 3000 100 290 false "SKU" 3, soldItem 52 1001 0 91 true "OTHER" 2] [⟨70, "WELCOME", 333⟩] 3858

def orderOf (cart : Cart) : Order := (cart.toOrder 50).toOption.getD ⟨50, 10, 1, 2, [], 0, 0, 0, 0, [], [], [], [], 0⟩

def finalizing : PosRequestEnvelope :=
  { version := .v1_0_0, idempotencyKey := 99, storeId := 1, registerId := 2, payload := .finalizeOrder ⟨10⟩ }

/-- An order of the cart in the ledger, and two returns of it. -/
def worldWith (cart : Cart) : CounterWorld RemotePayments :=
  let world := counterWith ⟨[openReturn 60 (some 50), openReturn 61 (some 50)], [], [], []⟩
  { world with hub := { world.hub with db := { world.hub.db with
    orders := [ledgerEntry finalizing (orderOf cart) none 40 ⟨none, none, none, none, none, false⟩] } } }

def part (key returnId quantity : Nat) (sku : String) : Part :=
  { boundRegister := none
    header := { version := .v1_0_0, idempotencyKey := .random key, storeId := 1, registerId := 2 }
    line := ⟨.random returnId, sku, none, quantity, 0, 0, false, none⟩ }

def steady (n : Nat) : CounterChoice ProviderAnswer := counterChoice n (500 + n)

theorem steady_works : Working steady where
  storage _ := rfl
  distinct first second same := by
    simp only [steady, counterChoice, choice] at same
    omega

def mixedParts : List Part := [part 100 60 2 "SKU", part 101 61 1 "OTHER", part 102 61 1 "SKU", part 103 60 1 "OTHER"]

/-- One item at 2^63 cents, which the ledger's signed columns have as a negative amount. -/
def largeCart : Cart := paidCart [soldItem 51 (2 ^ 63) 0 0 false "SKU" 1] [] (2 ^ 63)

end Samples
end ApexEdge.Proofs.FullRefunds
