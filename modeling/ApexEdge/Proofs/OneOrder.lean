import ApexEdge.Proofs.Checkout
import ApexEdge.Proofs.Reservations
import ApexEdge.Proofs.Attempts

/-! A cart is sold at most once. Every finalization writes the line ids of the cart
under an order id of its own, and the ledger keys its lines by line id across all
orders: the second order fails, and its outbox row with it. -/

namespace ApexEdge.Proofs.OneOrder
open Library Payment Domain Storage Contracts Hub
open Checkout StepEffects Reservations

/-- The orders of a cart. -/
def ordersOf (cartId : Uuid) (db : Db) : List NewOrderLedgerEntry := db.orders.filter (·.cartId = cartId)

/-- The queued submissions of orders of a cart. -/
def submissionsOf (cartId : Uuid) (db : Db) : List OutboxRow :=
  db.outbox.filter fun row => (ordersOf cartId db).any (·.orderId = row.orderId)

/-- A reservation stays as it is, or is committed once. -/
def CommittedOnce (old row : ReservationRow) : Prop :=
  row = old ∨ old.state = .active ∧ ∃ now, row = { old with state := .committed, updatedAt := now }

/-- Units are sold out of active reservations, each unit once. -/
structure SoldOnce (before after : InventoryTables) : Prop where
  reservations : List.Forall₂ CommittedOnce before.reservations after.reservations
  ledger : ∀ row ∈ after.inventoryState, ∃ old ∈ before.inventoryState, itemKey old = itemKey row ∧
    row.soldSinceSyncQty + units (isActiveOf row.storeId row.itemId) after.reservations =
      old.soldSinceSyncQty + units (isActiveOf old.storeId old.itemId) before.reservations

/-- The store before the cart is sold. Carts are stored under their own ids. -/
structure Unsold (cart : Cart) (db : Db) : Prop where
  stored : Carts.load cart.id db.carts = some cart
  named : ∀ id held, Carts.load id db.carts = some held → held.id = id
  lines : cart.lines ≠ []
  orders : ∀ order ∈ db.orders, order.cartId ≠ cart.id

/-- The random id of a new order is not in use. -/
def DrawsFresh (db : Db) (request : Request) : Prop :=
  match request.call with
  | .insertOrderLedgerEntryWithOutbox entry _ =>
    (∀ order ∈ db.orders, order.orderId ≠ entry.orderId) ∧ ∀ row ∈ db.outbox, row.orderId ≠ entry.orderId
  | _ => True

instance (db : Db) (request : Request) : Decidable (DrawsFresh db request) := by
  induction request using Request.casesOn with
  | mk frame call => induction call using Call.casesOn <;> dsimp only [DrawsFresh] <;> infer_instance

section Stock

theorem committedOnce_trans {first second third : ReservationRow} (once : CommittedOnce first second)
    (again : CommittedOnce second third) : CommittedOnce first third := by
  rcases once with rfl | ⟨active, now, rfl⟩
  · exact again
  · rcases again with rfl | ⟨impossible, _⟩
    · exact .inr ⟨active, now, rfl⟩
    · cases impossible

theorem soldOnce_refl (tables : InventoryTables) : SoldOnce tables tables where
  reservations := List.forall₂_same.mpr fun _ _ => .inl rfl
  ledger row member := ⟨row, member, rfl, rfl⟩

theorem soldOnce_trans {first second third : InventoryTables} (once : SoldOnce first second)
    (again : SoldOnce second third) : SoldOnce first third where
  reservations := by
    have chain := once.reservations
    have rest := again.reservations
    generalize first.reservations = rows at chain ⊢
    generalize second.reservations = between at chain rest
    generalize third.reservations = after at rest ⊢
    induction chain generalizing after with
    | nil => exact rest
    | cons first _ ih =>
      cases rest with
      | cons next rest => exact .cons (committedOnce_trans first next) (ih _ rest)
  ledger row member := by
    obtain ⟨between, present, key, sold⟩ := again.ledger row member
    obtain ⟨old, stored, same, before⟩ := once.ledger between present
    exact ⟨old, stored, same.trans key, sold.trans before⟩

theorem commit_soldOnce (storeId cartId : Uuid) (now : Timestamp) (tables : InventoryTables) :
    SoldOnce tables (InventoryLedger.commitCartSale storeId cartId now tables).2 where
  reservations := by
    refine List.forall₂_map_right_iff.mpr (List.forall₂_same.mpr fun row _ => ?_)
    rcases Table.Update.row_cases _ row with ⟨selected, became⟩ | ⟨_, became⟩
    · rw [became]
      exact .inr ⟨(of_decide_eq_true selected).1, now, rfl⟩
    · exact .inl became
  ledger _ member := commit_moves _ member

end Stock

section Ledger
variable {sale : Cart} {db : Db}

/-- What holds of the store in every run: the cart keeps its lines, and it has at
most one order, of these lines, and at most one submission. -/
structure SoldAtMostOnce (sale : Cart) (db : Db) : Prop where
  named : ∀ id held, Carts.load id db.carts = some held → held.id = id
  stored : ∀ held, Carts.load sale.id db.carts = some held → held.lines = sale.lines
  orders : ∀ order ∈ db.orders, order.cartId = sale.id → order.lines = ledgerLines sale
  once : (ordersOf sale.id db).length ≤ 1
  submitted : (submissionsOf sale.id db).length ≤ 1

theorem soldAtMostOnce_opening (unsold : Unsold sale db) : SoldAtMostOnce sale db := by
  have none : ordersOf sale.id db = [] := List.filter_eq_nil_iff.mpr fun order member => by
    simpa using unsold.orders order member
  refine ⟨unsold.named, ?_, ?_, by simp [none], by simp [submissionsOf, none]⟩
  · intro held found
    rw [Option.some.inj (unsold.stored.symm.trans found)]
  · exact fun order member own => absurd own (unsold.orders order member)

/-- A cart with the lines of the sale is saved. -/
theorem soldAtMostOnce_save (sold : SoldAtMostOnce sale db) {cart : Cart}
    (same : cart.id = sale.id → cart.lines = sale.lines) :
    SoldAtMostOnce sale { db with carts := Carts.save cart db.carts } := by
  refine ⟨?_, ?_, sold.orders, sold.once, sold.submitted⟩
  · intro id held found
    rw [Carts.load_save] at found
    split at found
    next own => rw [own, Option.some.inj found]
    next => exact sold.named id held found
  · intro held found
    rw [Carts.load_save] at found
    split at found
    next own => rw [← Option.some.inj found, same own.symm]
    next => exact sold.stored held found

/-- Two orders with the same lines clash. -/
theorem linesClash_same {entry order : NewOrderLedgerEntry} {orders : List NewOrderLedgerEntry}
    (member : order ∈ orders) (same : order.lines = entry.lines) (lines : entry.lines ≠ []) :
    Orders.linesClash entry orders = true := by
  obtain ⟨line, present⟩ := List.exists_mem_of_ne_nil _ lines
  unfold Orders.linesClash
  have clash : orders.any (fun order => order.lines.any fun line => entry.lines.any (·.lineId = line.lineId)) = true :=
    List.any_eq_true.mpr ⟨order, member, List.any_eq_true.mpr
      ⟨line, same ▸ present, List.any_eq_true.mpr ⟨line, present, by simp⟩⟩⟩
  simp [clash]

theorem soldAtMostOnce_write (sold : SoldAtMostOnce sale db) (lines : sale.lines ≠ []) {entry : NewOrderLedgerEntry}
    {outboxId : Uuid} {orders : List NewOrderLedgerEntry} {outbox : List OutboxRow}
    (fresh : (∀ order ∈ db.orders, order.orderId ≠ entry.orderId) ∧ ∀ row ∈ db.outbox, row.orderId ≠ entry.orderId)
    (own : entry.cartId = sale.id → entry.lines = ledgerLines sale)
    (written : Orders.write entry db.orders = .ok orders)
    (queued : Orders.queue ⟨outboxId, entry.orderId⟩ db.outbox = .ok outbox) :
    SoldAtMostOnce sale { db with orders := orders, outbox := outbox } := by
  obtain ⟨rfl, apart⟩ := Orders.write_fresh fresh.1 written
  have appended : outbox = db.outbox ++ [⟨outboxId, entry.orderId⟩] := by
    unfold Orders.queue at queued
    split at queued
    · cases queued
    · exact (Except.ok.inj queued).symm
  subst appended
  have all : ordersOf sale.id { db with orders := db.orders ++ [entry] } =
      ordersOf sale.id db ++ if entry.cartId = sale.id then [entry] else [] := by
    simp only [ordersOf, List.filter_append, List.filter_cons, List.filter_nil, decide_eq_true_eq]
  have submissions : submissionsOf sale.id ⟨db.responses, db.carts, db.paymentIntents, db.orders ++ [entry],
      db.outbox ++ [⟨outboxId, entry.orderId⟩], db.returns⟩ =
      submissionsOf sale.id db ++ if entry.cartId = sale.id then [⟨outboxId, entry.orderId⟩] else [] := by
    -- The rows queued before name other orders than the new one.
    have before : db.outbox.filter (fun row =>
        (ordersOf sale.id db ++ if entry.cartId = sale.id then [entry] else []).any (·.orderId = row.orderId)) =
        submissionsOf sale.id db := by
      refine List.filter_congr fun row member => ?_
      have other : entry.orderId ≠ row.orderId := fun same => fresh.2 row member same.symm
      rw [List.any_append]
      split <;> simp [other]
    have unknown : ∀ order ∈ ordersOf sale.id db, order.orderId ≠ entry.orderId :=
      fun order member => fresh.1 order (List.mem_filter.mp member).1
    show (db.outbox ++ [OutboxRow.mk outboxId entry.orderId]).filter (fun row : OutboxRow =>
      (ordersOf sale.id { db with orders := db.orders ++ [entry] }).any (·.orderId = row.orderId)) = _
    rw [all, List.filter_append, before]
    congr 1
    split
    · simp
    · simpa using unknown
  -- An order of the cart has its lines, and would clash with the new one.
  have first (same : entry.cartId = sale.id) : ordersOf sale.id db = [] := by
    rw [List.eq_nil_iff_forall_not_mem]
    intro order member
    obtain ⟨stored, mine⟩ := List.mem_filter.mp member
    have equal : order.lines = entry.lines :=
      (sold.orders order stored (by simpa using mine)).trans (own same).symm
    have some : entry.lines ≠ [] := by
      rw [own same]
      simpa [ledgerLines, Cart.toOrderLines] using lines
    rw [linesClash_same stored equal some] at apart
    cases apart
  refine ⟨sold.named, sold.stored, ?_, ?_, ?_⟩
  · intro order member same
    rcases List.mem_append.mp member with old | new
    · exact sold.orders order old same
    · rw [List.mem_singleton.mp new] at same ⊢
      exact own same
  · show (ordersOf sale.id { db with orders := db.orders ++ [entry] }).length ≤ 1
    rw [all]
    split
    next same => simp [first same]
    next => simpa using sold.once
  · rw [submissions]
    split
    next same => simp [submissionsOf, first same]
    next => simpa using sold.submitted

end Ledger

section Steps
variable {Remote Answer : Type} {providers : Providers Remote Answer} {choice : Choice Answer}
  {world : StockedWorld Remote} {sale : Cart}

/-- The sale so far, from what stock there was. -/
structure Tables (sale : Cart) (inventory : InventoryTables) (world : StockedWorld Remote) : Prop where
  sold : SoldAtMostOnce sale world.hub.db
  stock : SoldOnce inventory world.inventory

/-- A proper request, whose cart has the lines of the sale if it is the cart sold. -/
structure Standing (sale : Cart) (request : Request) : Prop where
  proper : Proper request
  lines : ∀ cart, request.frame.cart = some cart → cart.id = sale.id → cart.lines = sale.lines

/-- A request that is not for the inventory ledger goes to the hub. -/
theorem performStocked_cases (providers : Providers Remote Answer) (choice : Choice Answer)
    (world : StockedWorld Remote) (request : Request) (proper : Proper request) :
    (performStocked providers choice world request).2.hub.db = world.hub.db ∧
        (∃ storeId cartId, (performStocked providers choice world request).2.inventory =
          (InventoryLedger.commitCartSale storeId cartId choice.now world.inventory).2) ∨
      (performStocked providers choice world request).2.inventory = world.inventory ∧
        DbChange request.call world.hub.db (performStocked providers choice world request).2.hub.db := by
  obtain ⟨frame, call⟩ := request
  by_cases sells : ∃ storeId cartId, call = .service (.commitCartSale storeId cartId)
  · obtain ⟨storeId, cartId, rfl⟩ := sells
    cases failing : choice.storageFailure with
    | some error =>
      simp only [performStocked, moveStock, failing]
      exact .inr ⟨trivial, .same⟩
    | none =>
      simp only [performStocked, moveStock, failing]
      exact .inl ⟨trivial, storeId, cartId, rfl⟩
  · have changed := perform_db providers choice world.hub ⟨frame, call⟩
    cases call
    case service wanted =>
      cases wanted
      case commitCartSale storeId cartId => exact absurd ⟨storeId, cartId, rfl⟩ sells
      case releaseCartReservations => cases proper
      all_goals exact .inr ⟨rfl, changed⟩
    all_goals exact .inr ⟨rfl, changed⟩

theorem tables_after {inventory : InventoryTables} {request : Request} (lines : sale.lines ≠ [])
    (fresh : DrawsFresh world.hub.db request) (tables : Tables sale inventory world)
    (standing : Standing sale request) :
    Tables sale inventory (performStocked providers choice world request).2 := by
  have proper := standing.proper
  rcases performStocked_cases providers choice world request proper with ⟨same, storeId, cartId, moved⟩ | ⟨same, changed⟩
  · refine ⟨same ▸ tables.sold, ?_⟩
    rw [moved]
    exact soldOnce_trans tables.stock (commit_soldOnce ..)
  · refine ⟨?_, same ▸ tables.stock⟩
    obtain ⟨frame, call⟩ := request
    generalize (performStocked providers choice world ⟨frame, call⟩).2.hub.db = db at changed
    cases changed with
    | same => exact tables.sold
    | answered responses => exact ⟨tables.sold.named, tables.sold.stored, tables.sold.orders, tables.sold.once,
        tables.sold.submitted⟩
    | saved cart called =>
      cases called
      exact soldAtMostOnce_save tables.sold (standing.lines cart proper)
    | ledger rows => exact ⟨tables.sold.named, tables.sold.stored, tables.sold.orders, tables.sold.once,
        tables.sold.submitted⟩
    | ordered entry outboxId orders outbox called written queued =>
      cases called
      obtain ⟨cart, held, own, sells⟩ := proper
      refine soldAtMostOnce_write tables.sold lines fresh ?_ written queued
      intro mine
      rw [sells]
      simp only [ledgerLines, Cart.toOrderLines, standing.lines cart held (own.symm.trans mine)]
    | reserved | completed => exact ⟨tables.sold.named, tables.sold.stored, tables.sold.orders, tables.sold.once,
        tables.sold.submitted⟩

/-- A loaded cart has the lines of the sale, if it is the cart sold. -/
theorem standing_next {inventory : InventoryTables} {request next : Request} (tables : Tables sale inventory world)
    (standing : Standing sale request)
    (follows : checkoutConduct.follows request (performStocked providers choice world request).1 next) :
    Standing sale next := by
  obtain ⟨proper, bears⟩ := follows
  refine ⟨proper, ?_⟩
  intro cart held own
  obtain ⟨known, from_, same, lines⟩ := bears cart held
  rw [lines]
  obtain ⟨frame, call⟩ := request
  by_cases loads : ∃ id, call = .loadCart id
  · obtain ⟨id, rfl⟩ := loads
    have found : Carts.load id world.hub.db.carts = some known := by
      simp only [performStocked, perform, query] at from_
      cases failing : choice.storageFailure with
      | some error => simp [knownAfter, failing] at from_
      | none => simpa [knownAfter, failing] using from_
    have named := tables.sold.named id known found
    exact tables.sold.stored known (by rwa [← own, same, named])
  · have before : frame.cart = some known := by
      cases call <;> first | exact from_ | exact absurd ⟨_, rfl⟩ loads
    exact standing.lines known before (same ▸ own)

end Steps

/-- Every order is written under an id that is not in use. -/
def drawsFresh {Remote Answer : Type} : Condition Request (StockedWorld Remote) (Choice Answer) :=
  { step := fun world _ request _ => DrawsFresh world.hub.db request, drop := fun _ _ _ => True }

instance {Remote Answer : Type} (world : StockedWorld Remote) (others : List Request) (request : Request)
    (choice : Choice Answer) : Decidable (drawsFresh.step world others request choice) :=
  inferInstanceAs (Decidable (DrawsFresh ..))

instance {Remote Answer : Type} (world : StockedWorld Remote) (others : List Request) (request : Request) :
    Decidable ((drawsFresh : Condition _ _ (Choice Answer)).drop world others request) :=
  inferInstanceAs (Decidable True)

theorem sale_invariant {Remote Answer : Type} (app : AppState) (providers : Providers Remote Answer) {sale : Cart}
    (lines : sale.lines ≠ []) (inventory : InventoryTables) :
    Invariant (checkout app providers) checkoutConduct drawsFresh (fun _ => Opens)
      (fun world pending => True ∧ Tables sale inventory world ∧ ∀ request ∈ pending, Standing sale request) := by
  have conduct : Invariant (checkout app providers) checkoutConduct drawsFresh (fun _ => Opens)
      (fun (_ : StockedWorld Remote) _ => True) :=
    ⟨checkout_keeps app, fun _ _ _ _ _ _ _ => trivial, fun _ _ _ _ _ _ _ _ => trivial,
      fun _ _ _ _ _ _ _ => trivial, fun _ _ _ _ _ => trivial⟩
  apply conduct.extend
  refine { started := ?_, kept := ?_, continued := ?_ }
  · intro world others task request opens _ _
    refine ⟨opens.1, ?_⟩
    intro cart held
    obtain ⟨_, impossible, _⟩ := opens.2 cart held
    cases impossible
  · intro choice world others request fresh _ tables standing
    exact ⟨tables_after lines fresh tables (standing request (Multiset.mem_cons_self _ _)),
      fun other member => standing other (Multiset.mem_cons_of_mem (Multiset.mem_coe.mpr member))⟩
  · intro choice world others request next _ _ tables standing follows _ _
    exact standing_next tables (standing request (Multiset.mem_cons_self _ _)) follows

section Witness
open Attempts

def paidBasket : Cart :=
  { basket with
    state := .paid
    payments := [{ tenderId := 20, amountCents := 1000, tipAmountCents := 0, externalReference := some "cash"
                   provider := none, providerPaymentId := none, entryMethod := none }] }

/-- One packet of tea, held for the cart. -/
def stocked : StockedWorld RemotePayments :=
  { hub := { opening with db := { opening.db with carts := [⟨10, 1, 2, .paid, paidBasket⟩] } }
    inventory :=
      { inventoryState := [⟨1, 12, 1, 1, 0, 0, 0, 0⟩]
        reservations := [⟨30, 1, 2, 10, 11, 12, 1, .active, none, 0⟩]
        movements := [] } }

def finalizeRequest (key : Uuid) : FinalizeRequest :=
  { boundRegister := none
    envelope := { version := .v1_0_0, idempotencyKey := key, storeId := 1, registerId := 2
                  payload := .finalizeOrder ⟨10⟩ }
    order := ⟨10⟩ }

/-- Two registers finalize the cart, step by step in turn; the one whose order is refused ends first. -/
def inTurn : List (Event (Choice ProviderAnswer) FinalizeRequest) :=
  [.start (finalizeRequest 100), .start (finalizeRequest 101)] ++
    (List.range 40).map fun step => .step (if step < 20 then 1 else 0) (choice step (500 + step) approves)

private theorem stocked_unsold : Unsold paidBasket stocked.hub.db where
  stored := rfl
  named id held found := by
    by_cases own : id = 10
    · subst own
      rw [← Option.some.inj found]
      rfl
    · have none : Carts.load id stocked.hub.db.carts = none := by
        have other : ¬(10 : Uuid) = id := fun same => own same.symm
        simp [Carts.load, stocked, other]
      cases none.symm.trans found
  lines := by decide
  orders := by decide

end Witness

end ApexEdge.Proofs.OneOrder
