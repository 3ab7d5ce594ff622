import ApexEdge.Hub.RemotePayments
import ApexEdge.Hub.System

/-! What one request can do to the payment intent ledger, to the carts, to the
orders and to the providers. Every invariant of the hub is read off from here. -/

namespace ApexEdge.Proofs.StepEffects
open Library Payment Domain Storage Contracts Hub

variable {Remote Answer : Type}

/-- The ledger statement that a call runs. -/
def statement (call : Call) : Option (Timestamp → PaymentIntents.Update) :=
  match call with
  | .markPaymentIntentCaptured id paymentId cents => some (PaymentIntents.markCaptured id paymentId cents)
  | .markPaymentIntentDeclined id code => some (PaymentIntents.markDeclined id code)
  | .markPaymentIntentFailed id error => some (PaymentIntents.markFailed id error)
  | .settlePaymentIntentsForCart storeId cartId orderId =>
    some (PaymentIntents.settleForCart storeId cartId orderId)
  | .flagPaymentIntentsForReversal storeId cartId reason =>
    some (PaymentIntents.flagForCart storeId cartId reason)
  | .flagPaymentIntentForReversal id paymentId reason =>
    some (PaymentIntents.flagForReversal id paymentId reason)
  | .flagStaleCapturedPaymentIntents staleAfter => some (PaymentIntents.flagStaleCaptured staleAfter)
  | .markPaymentIntentReversed id => some (PaymentIntents.markReversed id)
  | .recordPaymentIntentReversalFailure id error => some (PaymentIntents.recordReversalFailure id error)
  | _ => none

/-- What becomes of an intent when a call is answered. -/
def rowAfter (choice : Choice Answer) (call : Call) (row : PaymentIntentRow) : PaymentIntentRow :=
  match choice.storageFailure, statement call with
  | none, some update => (update choice.now).row row
  | _, _ => row

/-- The intent that a call adds to the ledger. -/
def opened (choice : Choice Answer) (world : World Remote) (call : Call) : Option PaymentIntentRow :=
  match choice.storageFailure, call with
  | none, .insertPaymentIntent id input =>
    let row := PaymentIntents.newRow id input choice.now
    if PaymentIntents.clashes row world.db.paymentIntents then none else some row
  | _, _ => none

theorem rowAfter_unchanged {choice : Choice Answer} {call : Call} (quiet : statement call = none) :
    rowAfter choice call = id := by
  funext row
  unfold rowAfter
  rw [quiet]
  split <;> simp_all

theorem rowAfter_failed {choice : Choice Answer} {error : PoolError} (call : Call)
    (failed : choice.storageFailure = some error) : rowAfter choice call = id := by
  funext row
  simp only [rowAfter, failed, id]

theorem rowAfter_statement {choice : Choice Answer} {call : Call} {update : Timestamp → PaymentIntents.Update}
    (works : choice.storageFailure = none) (runs : statement call = some update) :
    rowAfter choice call = (update choice.now).row := by
  funext row
  simp only [rowAfter, works, runs]

/-- Whatever holds of the store before and of what is written, holds afterwards. -/
private theorem transact_keeps {β : Type} {choice : Choice Answer} {world : World Remote}
    {write : Db → Except PoolError (β × Db)} (holds : Db → Prop) (before : holds world.db)
    (written : ∀ value db, write world.db = .ok (value, db) → holds db) :
    holds (transact choice world write).2.db := by
  unfold transact
  split
  · exact before
  · split
    · exact before
    · exact written _ _ ‹_›

private theorem transact_remote {β : Type} (choice : Choice Answer) (world : World Remote)
    (write : Db → Except PoolError (β × Db)) : (transact choice world write).2.remote = world.remote := by
  unfold transact
  split
  · rfl
  · split <;> rfl

private theorem order_written {entry : NewOrderLedgerEntry} {outboxId : Uuid} {before db : Db} {value : Unit}
    (written : (do
      let orders ← Orders.write entry before.orders
      let outbox ← Orders.queue ⟨outboxId, entry.orderId⟩ before.outbox
      return ((), { before with orders := orders, outbox := outbox }) : Except PoolError (Unit × Db)) =
        .ok (value, db)) :
    ∃ orders outbox, Orders.write entry before.orders = .ok orders ∧
      Orders.queue ⟨outboxId, entry.orderId⟩ before.outbox = .ok outbox ∧
      db = { before with orders := orders, outbox := outbox } := by
  cases ordered : Orders.write entry before.orders with
  | error error => simp [ordered, bind, Except.bind] at written
  | ok orders =>
    cases queued : Orders.queue ⟨outboxId, entry.orderId⟩ before.outbox with
    | error error => simp [ordered, queued, bind, Except.bind] at written
    | ok outbox =>
      simp only [ordered, queued, bind, Except.bind, pure, Except.pure, Except.ok.injEq,
        Prod.mk.injEq] at written
      exact ⟨orders, outbox, rfl, rfl, written.2.symm⟩

private theorem perform_statement (providers : Providers Remote Answer) {choice : Choice Answer}
    (world : World Remote) {request : Request} {update : Timestamp → PaymentIntents.Update}
    (runs : statement request.call = some update) :
    (perform providers choice world request).2 = (updateIntents choice world update).2 := by
  obtain ⟨frame, call⟩ := request
  cases call <;> cases runs <;> rfl

/-- What a request can have done to the store, each table apart. -/
inductive DbChange (call : Call) (before : Db) : Db → Prop where
  | same : DbChange call before before
  | answered (responses : List (Uuid × PosResponse)) :
      DbChange call before { before with responses := responses }
  | saved (cart : Cart) : call = .saveCart cart →
      DbChange call before { before with carts := Carts.save cart before.carts }
  | ledger (rows : PaymentIntents.Rows) :
      statement call ≠ none ∨ (∃ id input, call = .insertPaymentIntent id input) →
      DbChange call before { before with paymentIntents := rows }
  | ordered (entry : NewOrderLedgerEntry) (outboxId : Uuid) (orders : List NewOrderLedgerEntry)
      (outbox : List OutboxRow) : call = .insertOrderLedgerEntryWithOutbox entry outboxId →
      Orders.write entry before.orders = .ok orders →
      Orders.queue ⟨outboxId, entry.orderId⟩ before.outbox = .ok outbox →
      DbChange call before { before with orders := orders, outbox := outbox }
  | reserved (refund : RefundRow) : call = .reserveRefund refund →
      DbChange call before { before with returns := Returns.reserve refund before.returns }
  | completed (refund : RefundRow) : call = .completeRefund refund →
      DbChange call before { before with returns := Returns.complete refund before.returns }

theorem perform_db (providers : Providers Remote Answer) (choice : Choice Answer) (world : World Remote)
    (request : Request) :
    DbChange request.call world.db (perform providers choice world request).2.db := by
  obtain ⟨frame, call⟩ := request
  cases runs : statement call with
  | some update =>
    rw [perform_statement providers world runs]
    apply transact_keeps (DbChange call world.db) .same
    intro value db written
    cases written
    exact .ledger _ (.inl (by simp [runs]))
  | none =>
    cases call
    case setResponse =>
      apply transact_keeps (DbChange _ world.db) .same
      intro value db written
      cases written
      exact .answered _
    case saveCart cart =>
      apply transact_keeps (DbChange _ world.db) .same
      intro value db written
      cases written
      exact .saved cart rfl
    case insertPaymentIntent id input =>
      apply transact_keeps (DbChange _ world.db) .same
      intro value db written
      cases inserted : PaymentIntents.insertRow (PaymentIntents.newRow id input choice.now)
          world.db.paymentIntents with
      | error error => simp [inserted, bind, Except.bind] at written
      | ok rows =>
        simp only [inserted, bind, Except.bind, pure, Except.pure, Except.ok.injEq, Prod.mk.injEq] at written
        exact written.2 ▸ .ledger rows (.inr ⟨id, input, rfl⟩)
    case insertOrderLedgerEntryWithOutbox entry outboxId =>
      apply transact_keeps (DbChange _ world.db) .same
      intro value db written
      obtain ⟨orders, outbox, ordered, queued, rfl⟩ := order_written written
      exact .ordered entry outboxId orders outbox rfl ordered queued
    case reserveRefund refund =>
      apply transact_keeps (DbChange _ world.db) .same
      intro value db written
      split at written
      · cases written
      · cases written
        exact .reserved refund rfl
    case completeRefund refund =>
      apply transact_keeps (DbChange _ world.db) .same
      intro value db written
      cases written
      exact .completed refund rfl
    all_goals first
      | (simp only [perform, query_world]; exact .same)
      | exact .same
      | cases runs

private theorem perform_quiet (providers : Providers Remote Answer) (choice : Choice Answer)
    (world : World Remote) {request : Request} (quiet : statement request.call = none)
    (opens : ∀ id input, request.call ≠ .insertPaymentIntent id input) :
    (perform providers choice world request).2.db.paymentIntents = world.db.paymentIntents := by
  have changed := perform_db providers choice world request
  generalize (perform providers choice world request).2.db = db at changed ⊢
  cases changed
  case ledger rows written => exact absurd (written.resolve_left (not_not.mpr quiet)) (by simpa using opens)
  all_goals rfl

private theorem perform_insert (providers : Providers Remote Answer) (choice : Choice Answer)
    (world : World Remote) (frame : Frame) (id : Uuid) (input : NewPaymentIntent) :
    (perform providers choice world ⟨frame, .insertPaymentIntent id input⟩).2.db.paymentIntents =
      world.db.paymentIntents ++ (opened choice world (.insertPaymentIntent id input)).toList := by
  cases failing : choice.storageFailure with
  | some error => simp [perform, transact, opened, failing]
  | none =>
    simp only [perform, transact, opened, failing, PaymentIntents.insertRow]
    cases PaymentIntents.clashes (PaymentIntents.newRow id input choice.now) world.db.paymentIntents
    · rfl
    · exact (List.append_nil _).symm

theorem perform_intents (providers : Providers Remote Answer) (choice : Choice Answer) (world : World Remote)
    (request : Request) :
    (perform providers choice world request).2.db.paymentIntents =
      world.db.paymentIntents.map (rowAfter choice request.call) ++
        (opened choice world request.call).toList := by
  cases runs : statement request.call with
  | some update =>
    have none : opened choice world request.call = none := by
      unfold opened
      split
      next called => rw [called] at runs; cases runs
      next => rfl
    rw [perform_statement providers world runs, none, Option.toList_none, List.append_nil]
    cases failing : choice.storageFailure with
    | some error => simp [updateIntents, Hub.update, transact, failing, rowAfter_failed _ failing]
    | none =>
      rw [rowAfter_statement failing runs]
      simp only [updateIntents, Hub.update, transact, failing, Table.Update.run]
  | none =>
    rw [rowAfter_unchanged runs, List.map_id]
    by_cases opens : ∃ id input, request.call = .insertPaymentIntent id input
    · obtain ⟨id, input, called⟩ := opens
      obtain ⟨frame, call⟩ := request
      cases called
      exact perform_insert providers choice world frame id input
    · have none : opened choice world request.call = none := by
        unfold opened
        split
        next called => exact absurd ⟨_, _, called⟩ opens
        next => rfl
      rw [none, Option.toList_none, List.append_nil]
      exact perform_quiet providers choice world runs fun id input called => opens ⟨id, input, called⟩

theorem mem_perform_intents {providers : Providers Remote Answer} {choice : Choice Answer} {world : World Remote}
    {request : Request} {after : PaymentIntentRow} :
    after ∈ (perform providers choice world request).2.db.paymentIntents ↔
      (∃ row ∈ world.db.paymentIntents, rowAfter choice request.call row = after) ∨
        opened choice world request.call = some after := by
  rw [perform_intents, List.mem_append, List.mem_map, Option.mem_toList]

/-- A row is added by an insert alone, where it clashes with no other. -/
theorem opened_cases {choice : Choice Answer} {world : World Remote} {call : Call} {fresh : PaymentIntentRow}
    (opens : opened choice world call = some fresh) :
    ∃ id input, call = .insertPaymentIntent id input ∧ fresh = PaymentIntents.newRow id input choice.now ∧
      PaymentIntents.clashes fresh world.db.paymentIntents = false := by
  unfold opened at opens
  split at opens
  next id input _ =>
    dsimp only at opens
    split at opens
    next => cases opens
    next free =>
      cases opens
      exact ⟨id, input, rfl, rfl, Bool.eq_false_iff.mpr free⟩
  next => cases opens

/-- A column that no statement sets, and that a new row does not repeat, stays unique. -/
theorem nodup_after {β : Type} {providers : Providers Remote Answer} {choice : Choice Answer} {world : World Remote}
    {request : Request} (column : PaymentIntentRow → β)
    (kept : ∀ row, column (rowAfter choice request.call row) = column row)
    (distinct : (world.db.paymentIntents.map column).Nodup)
    (fresh : ∀ row ∈ world.db.paymentIntents, ∀ new, opened choice world request.call = some new →
      column row ≠ column new) :
    ((perform providers choice world request).2.db.paymentIntents.map column).Nodup := by
  rw [perform_intents, List.map_append, List.map_map]
  have same : column ∘ rowAfter choice request.call = column := funext kept
  rw [same]
  cases opens : opened choice world request.call with
  | none => simpa using distinct
  | some new =>
    rw [Option.toList_some, List.map_singleton, List.nodup_append]
    refine ⟨distinct, List.nodup_singleton _, ?_⟩
    intro first member second added
    obtain ⟨row, present, rfl⟩ := List.mem_map.mp member
    rw [List.mem_singleton.mp added]
    exact fresh row present new opens

theorem perform_carts (providers : Providers Remote Answer) (choice : Choice Answer) (world : World Remote)
    (request : Request) :
    (perform providers choice world request).2.db.carts = world.db.carts ∨
      ∃ cart, request.call = .saveCart cart ∧
        (perform providers choice world request).2.db.carts = Carts.save cart world.db.carts := by
  have changed := perform_db providers choice world request
  generalize (perform providers choice world request).2.db = db at changed ⊢
  cases changed
  case saved cart called => exact .inr ⟨cart, called, rfl⟩
  all_goals exact .inl rfl

theorem perform_orders (providers : Providers Remote Answer) (choice : Choice Answer) (world : World Remote)
    (request : Request) :
    (perform providers choice world request).2.db.orders = world.db.orders ∨
      ∃ entry outboxId, request.call = .insertOrderLedgerEntryWithOutbox entry outboxId ∧
        Orders.write entry world.db.orders = .ok (perform providers choice world request).2.db.orders := by
  have changed := perform_db providers choice world request
  generalize (perform providers choice world request).2.db = db at changed ⊢
  cases changed
  case ordered entry outboxId orders outbox called written _ => exact .inr ⟨entry, outboxId, called, written⟩
  all_goals exact .inl rfl

/-- Only a call of a provider changes what the provider keeps. -/
theorem perform_remote (providers : Providers Remote Answer) (choice : Choice Answer) (world : World Remote)
    (request : Request) :
    (perform providers choice world request).2.remote =
      match request.call with
      | .authorize provider wanted => (providers.authorize choice.answer world.remote provider wanted).2
      | .capture provider wanted => (providers.capture choice.answer world.remote provider wanted).2
      | .void provider wanted => (providers.void choice.answer world.remote provider wanted).2
      | .refund provider wanted => (providers.refund choice.answer world.remote provider wanted).2
      | _ => world.remote := by
  obtain ⟨frame, call⟩ := request
  cases call <;> first | rfl | (simp only [perform, query_world]; done) | exact transact_remote ..

section Replies
variable {providers : Providers Remote Answer} {choice : Choice Answer} {world : World Remote} {frame : Frame}

theorem query_ok {β : Type} {read : Db → β} {value : β}
    (answered : (query choice world read).1 = .ok value) : read world.db = value := by
  unfold query at answered
  split at answered
  · cases answered
  · exact Except.ok.inj answered

theorem found_cart {id : Uuid} {cart : Cart}
    (answered : (perform providers choice world ⟨frame, .loadCart id⟩).1 = .ok (some cart)) :
    ∃ row ∈ world.db.carts, row.data = cart := by
  obtain ⟨row, found, rfl⟩ := Option.map_eq_some_iff.mp (query_ok answered)
  exact ⟨row, List.mem_of_find?_eq_some found, rfl⟩

theorem found_intent {key tenderId : Uuid} {provider : String} {row : PaymentIntentRow}
    (answered : (perform providers choice world ⟨frame, .findPaymentIntent key provider tenderId⟩).1 =
      .ok (some row)) :
    row ∈ world.db.paymentIntents ∧ row.idempotencyKey = key ∧ row.provider = provider ∧
      row.tenderId = tenderId := by
  have found := query_ok answered
  exact ⟨List.mem_of_find?_eq_some found, by simpa using List.find?_some found⟩

/-- The row that an insert answers with is the one it added, its amounts as they were asked for. -/
theorem inserted_intent {id : Uuid} {input : NewPaymentIntent} {row : PaymentIntentRow}
    (answered : (perform providers choice world ⟨frame, .insertPaymentIntent id input⟩).1 = .ok row) :
    let fresh := PaymentIntents.newRow id input choice.now
    opened choice world (.insertPaymentIntent id input) = some fresh ∧
      row = { fresh with amountCents := input.amountCents, tipAmountCents := input.tipAmountCents } := by
  cases failing : choice.storageFailure with
  | some error => simp [perform, transact, failing] at answered
  | none =>
    simp only [perform, transact, failing, PaymentIntents.insertRow, bind, Except.bind, pure, Except.pure] at answered
    simp only [opened, failing]
    cases clash : PaymentIntents.clashes (PaymentIntents.newRow id input choice.now) world.db.paymentIntents with
    | true => simp [clash] at answered
    | false =>
      simp only [clash, Bool.false_eq_true, if_false] at answered
      exact ⟨rfl, (Except.ok.inj answered).symm⟩

/-- A row that was added is answered as it was asked for. -/
theorem insert_answered {id : Uuid} {input : NewPaymentIntent} {fresh : PaymentIntentRow}
    (opens : opened choice world (.insertPaymentIntent id input) = some fresh) :
    (perform providers choice world ⟨frame, .insertPaymentIntent id input⟩).1 =
      .ok { fresh with amountCents := input.amountCents, tipAmountCents := input.tipAmountCents } := by
  cases failing : choice.storageFailure with
  | some error => simp [opened, failing] at opens
  | none =>
    simp only [opened, failing] at opens
    split at opens
    · cases opens
    next free =>
      cases opens
      simp only [perform, transact, failing, PaymentIntents.insertRow, bind, Except.bind, pure, Except.pure]
      rw [if_neg free]

theorem fetched_intents {limit : Nat} {rows : List PaymentIntentRow}
    (answered : (perform providers choice world ⟨frame, .fetchPaymentIntentsAwaitingReversal limit⟩).1 =
      .ok rows) :
    ∀ row ∈ rows, row ∈ world.db.paymentIntents ∧ row.state = .reversalPending := by
  intro row member
  rw [← query_ok answered] at member
  have listed := Table.mem_orderedBy.mp (List.mem_of_mem_take member)
  simpa using List.mem_filter.mp listed

end Replies

/-- The call runs a statement that selects the intent. -/
def Selects (choice : Choice Answer) (call : Call) (row : PaymentIntentRow) : Prop :=
  choice.storageFailure = none ∧ (statement call).any (fun update => (update choice.now).selects row) = true

instance (choice : Choice Answer) (call : Call) (row : PaymentIntentRow) : Decidable (Selects choice call row) :=
  inferInstanceAs (Decidable (_ ∧ _))

/-- What becomes of an intent that a statement selects. -/
inductive Change (call : Call) (row after : PaymentIntentRow) : Prop where
  | retried : after.state = row.state → after.providerPaymentId = row.providerPaymentId →
      after.orderId = row.orderId → Change call row after
  | captured (paymentId : String) (cents : Nat) : call = .markPaymentIntentCaptured row.id paymentId cents →
      after.state = .captured → after.providerPaymentId = some paymentId → after.orderId = row.orderId →
      Change call row after
  | closed : (∃ code, call = .markPaymentIntentDeclined row.id code) ∨
        (∃ error, call = .markPaymentIntentFailed row.id error) →
      after.state = .declined ∨ after.state = .failed → after.providerPaymentId = row.providerPaymentId →
      after.orderId = row.orderId → Change call row after
  | settled (orderId : Uuid) : call = .settlePaymentIntentsForCart row.storeId row.cartId orderId →
      row.state = .captured ∨ row.state = .authorized → after.state = .settled →
      after.providerPaymentId = row.providerPaymentId → after.orderId = some orderId → Change call row after
  | flagged (paymentId : Option String) (reason : String) :
      call = .flagPaymentIntentForReversal row.id paymentId reason → after.state = .reversalPending →
      after.providerPaymentId = paymentId.or row.providerPaymentId → after.orderId = row.orderId →
      Change call row after
  | abandoned : (∃ reason, call = .flagPaymentIntentsForReversal row.storeId row.cartId reason) ∨
        (∃ staleAfter, call = .flagStaleCapturedPaymentIntents staleAfter) →
      row.state = .captured → after.state = .reversalPending →
      after.providerPaymentId = row.providerPaymentId → after.orderId = row.orderId → Change call row after
  | reversed : call = .markPaymentIntentReversed row.id → after.state = .reversed →
      after.providerPaymentId = row.providerPaymentId → after.orderId = row.orderId → Change call row after

theorem rowAfter_cases (choice : Choice Answer) (call : Call) (row : PaymentIntentRow) :
    rowAfter choice call row = row ∨
      Selects choice call row ∧ Change call row (rowAfter choice call row) := by
  cases failing : choice.storageFailure with
  | some error => exact .inl (congrFun (rowAfter_failed call failing) row)
  | none =>
    cases runs : statement call with
    | none => exact .inl (congrFun (rowAfter_unchanged runs) row)
    | some update =>
      rw [rowAfter_statement failing runs]
      rcases (update choice.now).row_cases row with ⟨selected, became⟩ | ⟨_, kept⟩
      · refine .inr ⟨⟨failing, by rw [runs]; exact selected⟩, ?_⟩
        rw [became]
        cases call
        case markPaymentIntentCaptured id paymentId cents =>
          cases runs
          obtain rfl := of_decide_eq_true selected
          exact .captured paymentId cents rfl rfl rfl rfl
        case markPaymentIntentDeclined id code =>
          cases runs
          obtain rfl := of_decide_eq_true selected
          exact .closed (.inl ⟨code, rfl⟩) (.inl rfl) rfl rfl
        case markPaymentIntentFailed id error =>
          cases runs
          obtain rfl := of_decide_eq_true selected
          exact .closed (.inr ⟨error, rfl⟩) (.inr rfl) rfl rfl
        case settlePaymentIntentsForCart storeId cartId orderId =>
          cases runs
          obtain ⟨rfl, rfl, open'⟩ := of_decide_eq_true selected
          exact .settled orderId rfl open' rfl rfl rfl
        case flagPaymentIntentsForReversal storeId cartId reason =>
          cases runs
          obtain ⟨rfl, rfl, taken⟩ := of_decide_eq_true selected
          exact .abandoned (.inl ⟨reason, rfl⟩) taken rfl rfl rfl
        case flagPaymentIntentForReversal id paymentId reason =>
          cases runs
          obtain rfl := of_decide_eq_true selected
          exact .flagged paymentId reason rfl rfl rfl rfl
        case flagStaleCapturedPaymentIntents staleAfter =>
          cases runs
          obtain ⟨taken, _⟩ := of_decide_eq_true selected
          exact .abandoned (.inr ⟨staleAfter, rfl⟩) taken rfl rfl rfl
        case markPaymentIntentReversed id =>
          cases runs
          obtain rfl := of_decide_eq_true selected
          exact .reversed rfl rfl rfl rfl
        case recordPaymentIntentReversalFailure id error =>
          cases runs
          exact .retried rfl rfl rfl
        all_goals cases runs
      · exact .inl kept

/-- The columns that identify an intent; no statement sets them. -/
def identity (row : PaymentIntentRow) : Uuid × Uuid × Uuid × Uuid × Uuid × String :=
  (row.id, row.storeId, row.cartId, row.tenderId, row.idempotencyKey, row.provider)

theorem rowAfter_identity (choice : Choice Answer) (call : Call) (row : PaymentIntentRow) :
    identity (rowAfter choice call row) = identity row := by
  cases failing : choice.storageFailure with
  | some error => rw [rowAfter_failed call failing, id]
  | none =>
    cases runs : statement call with
    | none => rw [rowAfter_unchanged runs, id]
    | some update =>
      rw [rowAfter_statement failing runs]
      apply Table.Update.row_column
      intro old
      cases call <;> cases runs <;> rfl

end ApexEdge.Proofs.StepEffects
