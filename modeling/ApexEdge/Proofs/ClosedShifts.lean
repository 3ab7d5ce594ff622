import ApexEdge.Proofs.DrawerCash
import ApexEdge.Proofs.RefundBooks

/-! Shifts after they are closed. A shift is closed on what was read of it, whatever has
come since, and its rows are not sealed afterwards; as long as nothing comes in between
and nothing in cash comes later, it is reported once and its expected cash stays right. -/

namespace ApexEdge.Proofs.ClosedShifts
open Library Payment Domain Storage Contracts Hub
open ShiftConduct DrawerCash

section World
variable {Remote Answer : Type}

/-- What the reads of a closing find. -/
def standingFigures (world : ShiftWorld Remote) (shiftId : Uuid) : TillFigures :=
  ⟨movements shiftId world.shifts, (Orders.cashSalesCentsForShift shiftId world.counter.hub.db.orders).toOption.getD 0,
    (Returns.cashRefundsCentsForShift shiftId world.counter.hub.db.returns).toOption.getD 0⟩

/-- The expected cash of a shift, from the rows that are attributed to it. -/
def recomputed (world : ShiftWorld Remote) (shift : ShiftRow) : Int :=
  (TillReading.mk shift (standingFigures world shift.id)).expectedCents

def reportedShifts (world : ShiftWorld Remote) : List Uuid := world.reports.map fun report => report.payload.shiftId

/-- No shift is reported twice, and the expected cash of a closed shift is right. -/
structure StaysClosed (world : ShiftWorld Remote) : Prop where
  reported : (reportedShifts world).Nodup
  expected : ∀ shift ∈ world.shifts.shifts, shift.state = .closed → shift.expectedCents = some (recomputed world shift)

/-- Ids are unique, and what is reported is closed. -/
structure Books (world : ShiftWorld Remote) : Prop extends StaysClosed world where
  shifts : (world.shifts.shifts.map ShiftRow.id).Nodup
  returns : (world.counter.hub.db.returns.returns.map ReturnRow.id).Nodup
  closed : ∀ id ∈ reportedShifts world, ∃ shift ∈ world.shifts.shifts, shift.id = id ∧ shift.state = .closed

def hasCash (order : NewOrderLedgerEntry) : Bool := order.payments.any (isCash ·.tenderType)

def hasCashRefund (returnId : Uuid) (tables : ReturnTables) : Bool :=
  tables.refunds.any fun refund => refund.returnId = returnId ∧ isCash refund.tenderType

/-- The statement takes the return out of the finalized ones. -/
def reopens (shiftId returnId : Uuid) (tables : ReturnTables) : Bool :=
  Returns.isFinalizedOn shiftId returnId tables ∧ hasCashRefund returnId tables

/-- The statement is about to change the cash that is counted for the shift: an order or a
movement in cash, or a return with refunds in cash becoming finalized or ceasing to be. -/
def counterTouches (world : CounterWorld Remote) (call : CounterCall) (shiftId : Uuid) : Bool :=
  let tables := world.hub.db.returns
  match call with
  | .hub (.insertOrderLedgerEntryWithOutbox entry _) =>
    entry.shiftId = some shiftId ∧ hasCash entry ∨
      world.hub.db.orders.any fun old => old.orderId = entry.orderId ∧ old.shiftId = some shiftId ∧ hasCash old
  | .hub (.completeRefund refund) =>
    Returns.isFinalizedOn shiftId refund.returnId tables ∧
      (isCash refund.tenderType ∨ hasCashRefund refund.returnId tables)
  | .finalizeReturnRowWithOutbox returnId _ =>
    isReturnOn shiftId returnId tables ∧ !Returns.isFinalizedOn shiftId returnId tables ∧ hasCashRefund returnId tables
  | .updateReturnTotals returnId _ _ _ state =>
    if state = .finalized then isReturnOn shiftId returnId tables ∧ hasCashRefund returnId tables
    else reopens shiftId returnId tables
  | .voidReturnRow returnId =>
    reopens shiftId returnId tables ∧ tables.returns.any fun row => row.id = returnId ∧ Returns.isUnrefunded tables row
  | _ => false

def touches (world : ShiftWorld Remote) (request : ShiftRequest) (shiftId : Uuid) : Bool :=
  match request with
  | .counter request => counterTouches world.counter request.call shiftId
  | .till _ _ (.insertShiftMovement new) => new.shiftId = shiftId ∧ new.kind ≠ .noSale
  | _ => false

/-- What a shift is closed on still stands. -/
def stillRead (world : ShiftWorld Remote) (id : Uuid) (reading : TillReading) : Bool :=
  Shifts.fetch id world.shifts = some reading.shift ∧ standingFigures world id = reading.figures

/-- A shift is closed on what stands, and nothing touches the cash of a closed shift. -/
def leavesClosed : Condition ShiftRequest (ShiftWorld Remote) (CounterChoice Answer) :=
  { step := fun world _ request choice => choice.hub.storageFailure = none →
      match request with
      | .till _ closing (.closeShiftWithOutbox id _ _ _) => closing.all (stillRead world id) = true
      | request => world.shifts.shifts.all (fun shift => shift.state ≠ .closed ∨ !touches world request shift.id) = true
    drop := fun _ _ _ => True }

instance (world : ShiftWorld Remote) (others : List ShiftRequest) (request : ShiftRequest)
    (choice : CounterChoice Answer) : Decidable (leavesClosed.step world others request choice) := by
  unfold leavesClosed
  dsimp only
  split <;> infer_instance

instance (world : ShiftWorld Remote) (others : List ShiftRequest) (request : ShiftRequest) :
    Decidable ((leavesClosed : Condition _ _ (CounterChoice Answer)).drop world others request) :=
  inferInstanceAs (Decidable True)

def closing (rank : Uuid → Nat) (providers : Providers Remote Answer) :
    Rules ShiftRequest ShiftRequest.Reply (ShiftWorld Remote) (CounterChoice Answer) :=
  { perform := performAtShiftDesk rank providers
    condition := leavesClosed
    invariant := Books
    interference := fun _ _ => True
    grants := fun _ => Proper }

end World

section Figures
variable {Remote : Type}

/-- The order in which movements are listed does not matter. -/
theorem recomputed_eq (world : ShiftWorld Remote) (shift : ShiftRow) :
    recomputed world shift =
      wrapI64 (shift.openingFloatCents +
        ((Orders.cashSalesCentsForShift shift.id world.counter.hub.db.orders).toOption.getD 0 : Nat) -
        ((Returns.cashRefundsCentsForShift shift.id world.counter.hub.db.returns).toOption.getD 0 : Nat) +
        ((world.shifts.movements.filter (·.shiftId = shift.id)).map fun row => row.movement.effect).sum) := by
  have sorted : ((movements shift.id world.shifts).map CashMovement.effect).sum =
      ((world.shifts.movements.filter (·.shiftId = shift.id)).map fun row => row.movement.effect).sum := by
    unfold movements Shifts.listMovements
    rw [List.map_map]
    exact ((List.perm_insertionSort _ _).map _).sum_eq
  unfold recomputed TillReading.expectedCents
  rw [expectedCashCents_eq]
  simp only [standingFigures]
  rw [sorted]

/-- The cash of a shift is the same: payments, refunds, and what movements do. -/
structure SameCash (shiftId : Uuid) (before after : ShiftWorld Remote) : Prop where
  payments : Orders.cashPayments shiftId after.counter.hub.db.orders =
    Orders.cashPayments shiftId before.counter.hub.db.orders
  refunds : Returns.cashRefunds shiftId after.counter.hub.db.returns =
    Returns.cashRefunds shiftId before.counter.hub.db.returns
  effects : ((after.shifts.movements.filter (·.shiftId = shiftId)).map fun row => row.movement.effect).sum =
    ((before.shifts.movements.filter (·.shiftId = shiftId)).map fun row => row.movement.effect).sum

theorem SameCash.recomputed {before after : ShiftWorld Remote} {shift : ShiftRow}
    (same : SameCash shift.id before after) : recomputed after shift = recomputed before shift := by
  rw [recomputed_eq, recomputed_eq, same.effects]
  unfold Orders.cashSalesCentsForShift Returns.cashRefundsCentsForShift
  rw [same.payments, same.refunds]

end Figures

section Orders

def cashOf (shiftId : Uuid) (order : NewOrderLedgerEntry) : List NewOrderPaymentEntry :=
  if order.shiftId = some shiftId then order.payments.filter (isCash ·.tenderType) else []

theorem cashPayments_flatMap (shiftId : Uuid) (orders : List NewOrderLedgerEntry) :
    Orders.cashPayments shiftId orders = orders.flatMap (cashOf shiftId) := by
  unfold Orders.cashPayments
  induction orders with
  | nil => rfl
  | cons order orders ih =>
    by_cases own : order.shiftId = some shiftId
    · rw [List.filter_cons_of_pos (by simpa using own), List.flatMap_cons, ih, List.flatMap_cons, cashOf, if_pos own]
    · rw [List.filter_cons_of_neg (by simpa using own), ih, List.flatMap_cons, cashOf, if_neg own, List.nil_append]

theorem cashOf_nil {shiftId : Uuid} {order : NewOrderLedgerEntry}
    (none : ¬(order.shiftId = some shiftId ∧ hasCash order = true)) : cashOf shiftId order = [] := by
  unfold cashOf
  split
  next own =>
    refine List.filter_eq_nil_iff.mpr fun payment member cash => none ⟨own, ?_⟩
    exact List.any_eq_true.mpr ⟨payment, member, cash⟩
  next => rfl

/-- An order without cash for the shift, in place of another one. -/
theorem cashPayments_write {shiftId : Uuid} {entry : NewOrderLedgerEntry} {orders after : List NewOrderLedgerEntry}
    (apart : ¬(entry.shiftId = some shiftId ∧ hasCash entry = true))
    (replaced : ∀ old ∈ orders, old.orderId = entry.orderId → ¬(old.shiftId = some shiftId ∧ hasCash old = true))
    (written : Orders.write entry orders = .ok after) :
    Orders.cashPayments shiftId after = Orders.cashPayments shiftId orders := by
  rw [cashPayments_flatMap, cashPayments_flatMap]
  unfold Orders.write at written
  split at written
  · cases written
  · cases written
    unfold Table.upsert
    split
    · rw [Table.Update.run, List.flatMap_map]
      refine List.flatMap_congr fun old member => ?_
      rcases Table.Update.row_cases ⟨(·.orderId = entry.orderId), (Orders.overwrite · entry)⟩ old with
        ⟨selected, became⟩ | ⟨_, kept⟩
      · rw [became, cashOf_nil (replaced old member (of_decide_eq_true selected))]
        exact cashOf_nil apart
      · rw [kept]
    · rw [List.flatMap_append, List.flatMap_singleton, cashOf_nil apart, List.append_nil]

end Orders

section Returns

/-- Headers may change where no cash was refunded, and elsewhere without effect. -/
theorem cashRefunds_congr {shiftId : Uuid} {before after : ReturnTables} (refunds : after.refunds = before.refunds)
    (same : ∀ returnId, hasCashRefund returnId before = true →
      Returns.isFinalizedOn shiftId returnId after = Returns.isFinalizedOn shiftId returnId before) :
    Returns.cashRefunds shiftId after = Returns.cashRefunds shiftId before := by
  unfold Returns.cashRefunds
  rw [refunds]
  refine List.filter_congr fun refund member => ?_
  by_cases cash : isCash refund.tenderType = true
  · rw [same refund.returnId (List.any_eq_true.mpr ⟨refund, member, decide_eq_true ⟨rfl, cash⟩⟩)]
  · simp [cash]

/-- A statement on the headers of one return. -/
structure Heads (returnId : Uuid) (update : Table.Update ReturnRow) : Prop where
  selects : ∀ row, update.selects row = true → row.id = returnId
  id : ∀ row, (update.set row).id = row.id
  shift : ∀ row, (update.set row).shiftId = row.shiftId

variable {shiftId returnId : Uuid} {update : Table.Update ReturnRow}

theorem Heads.other (heads : Heads returnId update) {tables : ReturnTables} {other : Uuid} (apart : other ≠ returnId) :
    Returns.isFinalizedOn shiftId other { tables with returns := update.run tables.returns } =
      Returns.isFinalizedOn shiftId other tables := by
  unfold Returns.isFinalizedOn Table.Update.run
  rw [List.any_map]
  refine congrArg (List.any tables.returns) (funext fun row => ?_)
  rcases update.row_cases row with ⟨selected, became⟩ | ⟨_, kept⟩
  · have mine := heads.selects row selected
    have before : row.id ≠ other := fun same => apart (same.symm.trans mine)
    have after : (update.set row).id ≠ other := fun same => before ((heads.id row).symm.trans same)
    simp [became, before, after]
  · rw [Function.comp_apply, kept]

/-- No header becomes finalized by being set to another state. -/
theorem unfinalized_run {tables : ReturnTables} {other : Uuid}
    (unfinalized : ∀ row ∈ tables.returns, update.selects row = true → (update.set row).state ≠ .finalized)
    (before : Returns.isFinalizedOn shiftId other tables = false) :
    Returns.isFinalizedOn shiftId other { tables with returns := update.run tables.returns } = false := by
  unfold Returns.isFinalizedOn Table.Update.run at *
  rw [List.any_map]
  refine List.any_eq_false.mpr fun row member finalized => ?_
  rcases update.row_cases row with ⟨selected, became⟩ | ⟨_, kept⟩
  · rw [Function.comp_apply, became] at finalized
    exact unfinalized row member selected (of_decide_eq_true finalized).2.2
  · rw [Function.comp_apply, kept] at finalized
    exact absurd finalized (List.any_eq_false.mp before row member)

/-- Neither before nor after is a return finalized that is not of the shift. -/
theorem Heads.foreign (heads : Heads returnId update) {tables : ReturnTables} {other : Uuid}
    (foreign : isReturnOn shiftId other tables = false) :
    Returns.isFinalizedOn shiftId other { tables with returns := update.run tables.returns } = false ∧
      Returns.isFinalizedOn shiftId other tables = false := by
  have apart := List.any_eq_false.mp foreign
  unfold Returns.isFinalizedOn Table.Update.run
  rw [List.any_map]
  refine ⟨List.any_eq_false.mpr fun row member finalized => ?_, List.any_eq_false.mpr fun row member finalized => ?_⟩
  · obtain ⟨mine, shift, _⟩ := of_decide_eq_true finalized
    rw [update.row_column ReturnRow.id heads.id] at mine
    rw [update.row_column ReturnRow.shiftId heads.shift] at shift
    exact apart row member (decide_eq_true ⟨mine, shift⟩)
  · obtain ⟨mine, shift, _⟩ := of_decide_eq_true finalized
    exact apart row member (decide_eq_true ⟨mine, shift⟩)

variable {tables after : ReturnTables} {id : Uuid}

theorem cashRefunds_totals {totalCents taxCents refundedCents : Nat} {state : ReturnState}
    (apart : (if state = .finalized then decide (isReturnOn shiftId id tables = true ∧ hasCashRefund id tables = true)
      else reopens shiftId id tables) = false) :
    Returns.cashRefunds shiftId (Returns.updateTotals id totalCents taxCents refundedCents state tables) =
      Returns.cashRefunds shiftId tables := by
  have heads : Heads id ⟨(·.id = id), fun row : ReturnRow =>
      { row with totalCents := Returns.stored totalCents, taxCents := Returns.stored taxCents
                 refundedCents := Returns.stored refundedCents, state := state }⟩ :=
    ⟨fun _ selected => of_decide_eq_true selected, fun _ => rfl, fun _ => rfl⟩
  refine cashRefunds_congr rfl fun other cash => ?_
  by_cases own : other = id
  · subst own
    split at apart
    · have foreign : isReturnOn shiftId other tables = false := by simpa [cash] using apart
      obtain ⟨later, before⟩ := heads.foreign foreign
      exact later.trans before.symm
    next unfinalized =>
      have before : Returns.isFinalizedOn shiftId other tables = false := by simpa [reopens, cash] using apart
      rw [before]
      exact unfinalized_run (fun _ _ _ => unfinalized) before
  · exact heads.other own

theorem cashRefunds_finalize
    (apart : ¬(isReturnOn shiftId id tables = true ∧ (!Returns.isFinalizedOn shiftId id tables) = true ∧
      hasCashRefund id tables = true)) :
    Returns.cashRefunds shiftId (Returns.finalizeRow id tables) = Returns.cashRefunds shiftId tables := by
  have heads : Heads id ⟨(·.id = id), fun row : ReturnRow => { row with state := .finalized }⟩ :=
    ⟨fun _ selected => of_decide_eq_true selected, fun _ => rfl, fun _ => rfl⟩
  refine cashRefunds_congr rfl fun other cash => ?_
  by_cases own : other = id
  · subst own
    cases foreign : isReturnOn shiftId other tables with
    | false =>
      obtain ⟨later, before⟩ := heads.foreign foreign
      exact later.trans before.symm
    | true =>
      have before : Returns.isFinalizedOn shiftId other tables = true := by simpa [foreign, cash] using apart
      obtain ⟨row, member, found⟩ := List.any_eq_true.mp before
      rw [before]
      refine List.any_eq_true.mpr ⟨Table.Update.row _ row, List.mem_map_of_mem member, ?_⟩
      rcases Table.Update.row_cases ⟨(·.id = other), fun row : ReturnRow => { row with state := .finalized }⟩ row with
        ⟨_, became⟩ | ⟨_, kept⟩
      · have found := of_decide_eq_true found
        rw [became]
        exact decide_eq_true ⟨found.1, found.2.1, rfl⟩
      · rw [kept]
        exact found
  · exact heads.other own

theorem cashRefunds_void
    (apart : ¬(reopens shiftId id tables = true ∧
      tables.returns.any (fun row => row.id = id ∧ Returns.isUnrefunded tables row) = true))
    (voided : Returns.voidRow id tables = .ok after) :
    Returns.cashRefunds shiftId after = Returns.cashRefunds shiftId tables := by
  have heads : Heads id ⟨fun row => row.id = id ∧ Returns.isUnrefunded tables row, fun row : ReturnRow =>
      { row with state := .voided }⟩ :=
    ⟨fun _ selected => (of_decide_eq_true selected).1, fun _ => rfl, fun _ => rfl⟩
  unfold Returns.voidRow at voided
  dsimp only at voided
  split at voided
  next single =>
    cases voided
    obtain ⟨row, selected⟩ := List.exists_mem_of_length_pos (by rw [single]; decide)
    obtain ⟨stored, mine⟩ := List.mem_filter.mp selected
    have some : tables.returns.any (fun row => row.id = id ∧ Returns.isUnrefunded tables row) = true :=
      List.any_eq_true.mpr ⟨row, stored, mine⟩
    refine cashRefunds_congr rfl fun other cash => ?_
    by_cases own : other = id
    · subst own
      have before : Returns.isFinalizedOn shiftId other tables = false := by
        rw [Bool.eq_false_iff]
        exact fun finalized => apart ⟨decide_eq_true ⟨finalized, cash⟩, some⟩
      rw [before]
      exact unfinalized_run (fun _ _ _ => (nomatch ·)) before
    · exact heads.other own
  next => cases voided

theorem cashRefunds_insert {new : NewReturn} (inserted : Returns.insert new tables = .ok after) :
    Returns.cashRefunds shiftId after = Returns.cashRefunds shiftId tables := by
  unfold Returns.insert at inserted
  split at inserted
  · cases inserted
  · cases inserted
    refine cashRefunds_congr rfl fun other _ => ?_
    simp [Returns.isFinalizedOn, NewReturn.row]

/-- A return that accepts lines is not a finalized one. -/
theorem cashRefunds_receipted {rank : Uuid → Nat} {orders : List NewOrderLedgerEntry} {input : ReturnLineRow}
    (unique : (tables.returns.map ReturnRow.id).Nodup)
    (added : Returns.addReceiptedLine rank orders input tables = .ok after) :
    Returns.cashRefunds shiftId after = Returns.cashRefunds shiftId tables := by
  obtain ⟨sale, taken, next, paid, amount, tax, line⟩ := Entitlements.addReceiptedLine_ok added
  obtain ⟨between, inserted, refreshed⟩ := line.written
  obtain ⟨_, row, stored, own, _, works⟩ := Entitlements.original_ok unique line.found
  have middle := Entitlements.insertLine_ok inserted
  obtain ⟨total, charge, rfl⟩ := Entitlements.refreshHeader_ok refreshed
  subst middle
  have heads : Heads input.returnId ⟨(·.id = input.returnId), fun row : ReturnRow =>
      { row with totalCents := total, taxCents := charge, state := .items }⟩ :=
    ⟨fun _ selected => of_decide_eq_true selected, fun _ => rfl, fun _ => rfl⟩
  refine cashRefunds_congr rfl fun other _ => ?_
  by_cases mine : other = input.returnId
  · have before : Returns.isFinalizedOn shiftId other tables = false := by
      refine List.any_eq_false.mpr fun old present finalized => ?_
      obtain ⟨same, _, state⟩ := of_decide_eq_true finalized
      have one : old = row := List.inj_on_of_nodup_map unique present stored (same.trans (mine.trans own.symm))
      rw [← one, state] at works
      rcases works with is | is <;> cases is
    rw [before]
    exact unfinalized_run (fun _ _ _ => (nomatch ·)) before
  · exact heads.other mine

theorem cashRefunds_complete {refund : RefundRow}
    (apart : ¬(Returns.isFinalizedOn shiftId refund.returnId tables = true ∧
      (isCash refund.tenderType = true ∨ hasCashRefund refund.returnId tables = true))) :
    Returns.cashRefunds shiftId (Returns.complete refund tables) = Returns.cashRefunds shiftId tables := by
  rw [RefundBooks.complete_eq]
  have heads : Heads refund.returnId (RefundBooks.settling refund tables) :=
    ⟨fun _ selected => of_decide_eq_true selected, fun _ => rfl, fun _ => rfl⟩
  have leaves : Returns.isFinalizedOn shiftId refund.returnId tables = false →
      Returns.isFinalizedOn shiftId refund.returnId
        { tables with returns := (RefundBooks.settling refund tables).run tables.returns } = false :=
    unfinalized_run fun row _ _ => by
      show (if _ then ReturnState.paid else ReturnState.tendered) ≠ .finalized
      split <;> exact (nomatch ·)
  -- the header first, then the row that may be added
  have settled : Returns.cashRefunds shiftId
      { tables with returns := (RefundBooks.settling refund tables).run tables.returns } =
        Returns.cashRefunds shiftId tables := by
    refine cashRefunds_congr rfl fun other cash => ?_
    by_cases own : other = refund.returnId
    · subst own
      have before : Returns.isFinalizedOn shiftId refund.returnId tables = false := by
        rw [Bool.eq_false_iff]
        exact fun finalized => apart ⟨finalized, .inr cash⟩
      rw [leaves before, before]
    · exact heads.other own
  rcases RefundBooks.recording_refunds refund tables with same | ⟨_, added⟩
  · rw [← settled]
    unfold Returns.cashRefunds
    dsimp only
    rw [same]
  · have uncounted : ¬(isCash refund.tenderType = true ∧ Returns.isFinalizedOn shiftId refund.returnId
        { tables with returns := (RefundBooks.settling refund tables).run tables.returns } = true) := by
      rintro ⟨cash, finalized⟩
      have before : Returns.isFinalizedOn shiftId refund.returnId tables = false := by
        rw [Bool.eq_false_iff]
        exact fun finalized => apart ⟨finalized, .inl cash⟩
      rw [leaves before] at finalized
      cases finalized
    rw [← settled]
    unfold Returns.cashRefunds
    dsimp only
    rw [added, List.filter_append]
    have none : [refund].filter (fun refund => isCash refund.tenderType ∧ Returns.isFinalizedOn shiftId refund.returnId
        { tables with returns := (RefundBooks.settling refund tables).run tables.returns }) = [] := by
      simpa using uncounted
    exact (congrArg _ none).trans (List.append_nil _)

theorem cashRefunds_reserve (refund : RefundRow) :
    Returns.cashRefunds shiftId (Returns.reserve refund tables) = Returns.cashRefunds shiftId tables := by
  rcases Refunding.reserve_cases refund tables with same | ⟨_, added⟩
  · rw [same]
  · rw [added]
    rfl

end Returns

section Step
variable {Remote Answer : Type} {rank : Uuid → Nat} {providers : Providers Remote Answer}
  {choice : CounterChoice Answer}

theorem perform_failed {error : PoolError} {choice : Choice Answer} (failing : choice.storageFailure = some error)
    (hub : World Remote) (request : Request) : (perform providers choice hub request).2.db = hub.db := by
  obtain ⟨frame, call⟩ := request
  cases call <;> simp only [perform, query, update, updateIntents, transact, failing]

/-- Ids of returns stay unique, and orders and refunds have the same cash for every shift
that is left apart. -/
structure Untouched (apart : Uuid → Prop) (before after : Db) : Prop where
  unique : (after.returns.returns.map ReturnRow.id).Nodup
  payments : ∀ shiftId, apart shiftId →
    Orders.cashPayments shiftId after.orders = Orders.cashPayments shiftId before.orders
  refunds : ∀ shiftId, apart shiftId →
    Returns.cashRefunds shiftId after.returns = Returns.cashRefunds shiftId before.returns

variable {world : CounterWorld Remote}

theorem Untouched.same {apart : Uuid → Prop} {db : Db} (unique : (db.returns.returns.map ReturnRow.id).Nodup) :
    Untouched apart db db := ⟨unique, fun _ _ => rfl, fun _ _ => rfl⟩

/-- What a statement of the counter does not touch. -/
def Apart (choice : CounterChoice Answer) (world : CounterWorld Remote) (call : CounterCall) (shiftId : Uuid) : Prop :=
  choice.hub.storageFailure = none → counterTouches world call shiftId = false

theorem transact_untouched {call : CounterCall} {write : ReturnTables → Except PoolError ReturnTables}
    (unique : (world.hub.db.returns.returns.map ReturnRow.id).Nodup)
    (kept : ∀ after, write world.hub.db.returns = .ok after → (after.returns.map ReturnRow.id).Nodup ∧
      ∀ shiftId, counterTouches world call shiftId = false →
        Returns.cashRefunds shiftId after = Returns.cashRefunds shiftId world.hub.db.returns) :
    Untouched (Apart choice world call) world.hub.db (transactReturns choice world write).2.hub.db := by
  unfold transactReturns
  split
  · exact .same unique
  next works =>
    split
    · exact .same unique
    next after written =>
      obtain ⟨ids, refunds⟩ := kept _ written
      exact ⟨ids, fun _ _ => rfl, fun shiftId apart => refunds shiftId (apart works)⟩

theorem hub_untouched {frame : Frame} {call : Call} (unique : (world.hub.db.returns.returns.map ReturnRow.id).Nodup) :
    Untouched (Apart choice world (.hub call)) world.hub.db
      (perform providers choice.hub world.hub ⟨frame, call⟩).2.db := by
  cases works : choice.hub.storageFailure with
  | some error =>
    rw [perform_failed works]
    exact .same unique
  | none =>
    have changed := StepEffects.perform_db providers choice.hub world.hub ⟨frame, call⟩
    generalize (perform providers choice.hub world.hub ⟨frame, call⟩).2.db = db at changed ⊢
    cases changed
    case ordered entry outboxId orders outbox asked written queued =>
      refine ⟨unique, fun shiftId apart => ?_, fun _ _ => rfl⟩
      have apart := apart works
      dsimp only at asked
      subst asked
      simp only [counterTouches, decide_eq_false_iff_not, not_or, List.any_eq_true, not_exists, not_and] at apart
      refine cashPayments_write (fun both => apart.1 both.1 both.2) ?_ written
      intro old member same both
      exact apart.2 old member (decide_eq_true ⟨same, both⟩)
    case reserved refund asked =>
      refine ⟨?_, fun _ _ => rfl, fun _ _ => cashRefunds_reserve refund⟩
      rcases Refunding.reserve_cases refund world.hub.db.returns with same | ⟨_, added⟩
      · rw [same]
        exact unique
      · rw [added]
        exact unique
    case completed refund asked =>
      refine ⟨?_, fun _ _ => rfl, fun shiftId apart => ?_⟩
      · rw [RefundBooks.complete_eq]
        exact Table.unique_run (fun _ => rfl) unique
      · have apart := apart works
        dsimp only at asked
        subst asked
        exact cashRefunds_complete (by simpa [counterTouches] using apart)
    all_goals exact ⟨unique, fun _ _ => rfl, fun _ _ => rfl⟩

theorem counter_untouched {request : CounterRequest} (unique : (world.hub.db.returns.returns.map ReturnRow.id).Nodup) :
    Untouched (Apart choice world request.call) world.hub.db
      (performAtCounter rank providers choice world request).2.hub.db := by
  obtain ⟨frame, adding, restocks, call⟩ := request
  cases call with
  | hub call => exact hub_untouched unique
  | insertReturn new =>
    refine transact_untouched unique fun after inserted => ⟨?_, fun _ _ => cashRefunds_insert inserted⟩
    unfold Returns.insert at inserted
    split at inserted
    · cases inserted
    next fresh =>
      cases inserted
      have absent : ∀ row ∈ world.hub.db.returns.returns, row.id ≠ new.id := by simpa using fresh
      exact Table.unique_append unique absent
  | addReceiptedReturnLine input =>
    refine transact_untouched unique fun after added => ⟨?_, fun _ _ => cashRefunds_receipted unique added⟩
    obtain ⟨_, _, _, _, _, _, line⟩ := Entitlements.addReceiptedLine_ok added
    obtain ⟨_, _, _, total, charge, written⟩ := line.effect unique
    rw [written]
    exact Table.unique_run (fun _ => rfl) unique
  | insertReturnLine line =>
    refine transact_untouched unique fun after inserted => ?_
    rw [Entitlements.insertLine_ok inserted]
    exact ⟨unique, fun _ _ => rfl⟩
  | updateReturnTotals id totalCents taxCents refundedCents state =>
    refine transact_untouched unique fun after written => ?_
    cases written
    refine ⟨Table.unique_run (fun _ => rfl) unique, fun shiftId apart => cashRefunds_totals ?_⟩
    simpa only [counterTouches] using apart
  | finalizeReturnRowWithOutbox id submissionId =>
    simp only [performAtCounter, finalizeWithOutbox]
    split
    · exact .same unique
    next works =>
      split
      · exact .same unique
      · refine ⟨Table.unique_run (fun _ => rfl) unique, fun _ _ => rfl, fun shiftId apart => cashRefunds_finalize ?_⟩
        simpa [counterTouches] using apart works
  | voidReturnRow id =>
    have kept : Untouched (Apart choice world (.voidReturnRow id)) world.hub.db
        (transactReturns choice world (Returns.voidRow id)).2.hub.db := by
      refine transact_untouched unique fun after voided => ⟨?_, fun shiftId apart => cashRefunds_void ?_ voided⟩
      · unfold Returns.voidRow at voided
        dsimp only at voided
        split at voided
        · cases voided
          exact Table.unique_run (fun _ => rfl) unique
        · cases voided
      · simpa only [counterTouches, decide_eq_false_iff_not] using apart
    simp only [performAtCounter, voidRow]
    generalize transactReturns choice world (Returns.voidRow id) = outcome at kept ⊢
    obtain ⟨answer, after⟩ := outcome
    cases answer <;> exact kept
  | applyLocalDelta storeId itemId delta =>
    simp only [performAtCounter, putBack]
    split <;> exact .same unique
  | _ => exact .same unique

end Step

section Books
variable {Remote Answer : Type} {rank : Uuid → Nat} {providers : Providers Remote Answer}
  {choice : CounterChoice Answer} {world : ShiftWorld Remote}

/-- What was on the books stays so while no cash of a closed shift is touched. -/
theorem books_kept (books : Books world) {after : ShiftWorld Remote} (shifts : after.shifts.shifts = world.shifts.shifts)
    (reports : after.reports = world.reports)
    (returns : (after.counter.hub.db.returns.returns.map ReturnRow.id).Nodup)
    (same : ∀ shift ∈ world.shifts.shifts, shift.state = .closed → SameCash shift.id world after) : Books after := by
  have reported : reportedShifts after = reportedShifts world := by
    unfold reportedShifts
    rw [reports]
  refine ⟨⟨by rw [reported]; exact books.reported, ?_⟩, by rw [shifts]; exact books.shifts, returns, ?_⟩
  · rw [shifts]
    intro shift member closed
    rw [(same shift member closed).recomputed]
    exact books.expected shift member closed
  · rw [shifts, reported]
    exact books.closed

theorem books_open (books : Books world) {new : NewShift} {now : Timestamp} {tables : ShiftTables}
    (opened : Shifts.openShift new now world.shifts = .ok tables) : Books { world with shifts := tables } := by
  unfold Shifts.openShift at opened
  split at opened
  · cases opened
  next fresh =>
    split at opened
    · cases opened
    · cases opened
      have absent : ∀ shift ∈ world.shifts.shifts, shift.id ≠ new.id := by simpa using fresh
      refine ⟨⟨books.reported, ?_⟩, Table.unique_append books.shifts absent, books.returns, ?_⟩
      · intro shift member closed
        rcases List.mem_append.mp member with old | added
        · exact books.expected shift old closed
        · rw [List.mem_singleton.mp added] at closed
          cases closed
      · intro id reported
        obtain ⟨shift, stored, closed⟩ := books.closed id reported
        exact ⟨shift, List.mem_append_left _ stored, closed⟩

theorem insertMovement_shifts {tables after : ShiftTables} {new : NewShiftMovement} {now : Timestamp}
    (inserted : Shifts.insertMovement new now tables = .ok after) : after.shifts = tables.shifts := by
  unfold Shifts.insertMovement at inserted
  split at inserted
  · cases inserted
  · cases inserted
    rfl

theorem sum_movement {tables after : ShiftTables} {new : NewShiftMovement} {now : Timestamp} {shiftId : Uuid}
    (apart : ¬(new.shiftId = shiftId ∧ new.kind ≠ .noSale)) (inserted : Shifts.insertMovement new now tables = .ok after) :
    ((after.movements.filter (·.shiftId = shiftId)).map fun row => row.movement.effect).sum =
      ((tables.movements.filter (·.shiftId = shiftId)).map fun row => row.movement.effect).sum := by
  unfold Shifts.insertMovement at inserted
  split at inserted
  · cases inserted
  · cases inserted
    rw [List.filter_append, List.map_append, List.sum_append]
    by_cases own : new.shiftId = shiftId
    · have silent : new.kind = .noSale := by simpa [own] using apart
      have effect : (new.row now).movement.effect = 0 := by
        simp only [CashMovement.effect, ShiftMovementRow.movement, NewShiftMovement.row, silent,
          CashMovementKind.signedEffect, Int.zero_mul]
      have mine : (new.row now).shiftId = shiftId := own
      rw [List.filter_cons_of_pos (by simpa using mine), List.filter_nil]
      simp [effect]
    · have other : (new.row now).shiftId ≠ shiftId := own
      rw [List.filter_cons_of_neg (by simpa using other), List.filter_nil]
      simp

/-- A shift is closed on what stands, and has not been reported before. -/
theorem books_close (books : Books world) {id outboxId : Uuid} {written : ShiftClosing} {payload : HqShiftPayload}
    {reading : TillReading} {now : Timestamp} (closes : Closes id written payload reading)
    (stands : stillRead world id reading = true) :
    Books { world with
      shifts := Shifts.close id written now world.shifts
      reports := world.reports ++ [⟨outboxId, payload⟩] } := by
  obtain ⟨found, figures⟩ := of_decide_eq_true stands
  have stored : reading.shift ∈ world.shifts.shifts := List.mem_of_find?_eq_some found
  have unreported : id ∉ reportedShifts world := by
    intro reported
    obtain ⟨shift, member, same, closed⟩ := books.closed id reported
    obtain rfl : shift = reading.shift :=
      List.inj_on_of_nodup_map books.shifts member stored (same.trans closes.shift.symm)
    rw [closes.open_then] at closed
    cases closed
  have reports : reportedShifts { world with
      shifts := Shifts.close id written now world.shifts
      reports := world.reports ++ [⟨outboxId, payload⟩] } = reportedShifts world ++ [id] := by
    simp [reportedShifts, closes.reported]
  refine ⟨⟨?_, ?_⟩, Table.unique_run (fun _ => rfl) books.shifts, books.returns, ?_⟩
  · rw [reports]
    simpa [List.nodup_append, books.reported] using fun other member => ne_of_mem_of_not_mem member unreported
  · intro shift member closed
    obtain ⟨old, present, rfl⟩ := List.mem_map.mp member
    -- neither the rows of a shift nor its float change when it is closed
    rcases (Shifts.closing id written now).row_cases old with ⟨selected, became⟩ | ⟨_, kept⟩
    · obtain rfl : old = reading.shift :=
        List.inj_on_of_nodup_map books.shifts present stored ((of_decide_eq_true selected).trans closes.shift.symm)
      have expected : written.expectedCents = recomputed world reading.shift := by
        rw [closes.expected]
        unfold recomputed
        rw [closes.shift, figures]
      rw [became]
      exact congrArg some expected
    · rw [kept] at closed ⊢
      exact books.expected old present closed
  · rw [reports]
    intro other member
    rcases List.mem_append.mp member with before | new
    · obtain ⟨shift, present, same, closed⟩ := books.closed other before
      refine ⟨(Shifts.closing id written now).row shift, List.mem_map_of_mem present, ?_, ?_⟩
      · exact ((Shifts.closing id written now).row_column ShiftRow.id (fun _ => rfl) shift).trans same
      · rcases (Shifts.closing id written now).row_cases shift with ⟨_, became⟩ | ⟨_, kept⟩
        · rw [became]
          rfl
        · rw [kept]
          exact closed
    · obtain rfl := List.mem_singleton.mp new
      refine ⟨(Shifts.closing other written now).row reading.shift, List.mem_map_of_mem stored, ?_⟩
      rw [Table.Update.row_selected (decide_eq_true closes.shift)]
      exact ⟨closes.shift, rfl⟩

theorem closing_assured : (closing rank providers : Rules _ _ _ (CounterChoice Answer)).Assured where
  refl := fun _ => trivial
  trans := fun _ _ => trivial
  step := by
    intro choice world others request books proper meets
    refine ⟨?_, trivial⟩
    have books : Books world := books
    cases request with
    | counter request =>
      have untouched : Untouched (Apart (choice.knowing world.shifts) world.counter request.call) world.counter.hub.db
          (performAtCounter rank providers (choice.knowing world.shifts) world.counter request).2.hub.db :=
        counter_untouched books.returns
      refine books_kept books rfl rfl untouched.unique fun shift member closed => ?_
      have apart : Apart (choice.knowing world.shifts) world.counter request.call shift.id := by
        intro works
        have kept := List.all_eq_true.mp (meets works) shift member
        simpa [touches, closed] using kept
      exact ⟨untouched.payments _ apart, untouched.refunds _ apart, rfl⟩
    | till key reading call =>
      cases call with
      | openShift new =>
        simp only [closing, performAtShiftDesk, transactShifts]
        split
        · exact books
        · split
          · exact books
          next tables opened => exact books_open books opened
      | insertShiftMovement new =>
        simp only [closing, performAtShiftDesk, transactShifts]
        split
        · exact books
        next works =>
          split
          · exact books
          next tables inserted =>
            refine books_kept books ?_ rfl books.returns fun shift member closed => ?_
            · exact insertMovement_shifts inserted
            · have kept := List.all_eq_true.mp (meets works) shift member
              refine ⟨rfl, rfl, sum_movement (fun both => ?_) inserted⟩
              simp [touches, closed, both.1, both.2] at kept
      | closeShiftWithOutbox id written outboxId payload =>
        obtain ⟨read, rfl, closes⟩ := proper
        simp only [closing, performAtShiftDesk, closeWithOutbox]
        split
        · exact books
        next works =>
          split
          · exact books
          · have stands := meets works
            exact books_close books closes (by simpa using stands)
      | _ =>
        simp only [closing, performAtShiftDesk, queryShifts]
        split <;> exact books

/-- In every run in which closings find the shift as they have read it, and nothing touches
the cash of a closed shift, shifts are reported once and their expected cash stays right. -/
theorem closed_shifts_stay_closed (app : AppState) (rank : Uuid → Nat) (providers : Providers Remote Answer)
    (world : ShiftWorld Remote) (books : Books world) (events : List (Event (CounterChoice Answer) DeskTask))
    (meets : leavesClosed.RunMeets (shiftDesk app rank providers) (Pool.quiet world) events) :
    StaysClosed ((shiftDesk app rank providers).run (Pool.quiet world) events).world := by
  have reached : Books ((shiftDesk app rank providers).run (Pool.quiet world) events).world :=
    Rules.reached closing_assured rfl books
      (fun task _ world => Rules.safe_of_asks (fun _ _ proper => proper) (deskTask_asks app task) world) meets
  exact reached.toStaysClosed

end Books

section Samples
open Attempts ReceiptedReturns

/-- A till is opened, a basket sold for cash, and the till closed on its count. -/
def closedDay (counted : Nat) : List (Event (CounterChoice ProviderAnswer) DeskTask) :=
  cashSale 1000 ++ .start (tillCommand 103 (.closeTill ⟨502, counted, none⟩)) :: counterSteps 12 800

/-- A till is closed by two commands at once. -/
def closedTwice : List (Event (CounterChoice ProviderAnswer) DeskTask) :=
  .start (tillCommand 100 (.openTill ⟨none, none, 5000⟩)) :: counterSteps 10 500 ++
    .start (tillCommand 101 (.closeTill ⟨502, 5000, none⟩)) ::
      .start (tillCommand 102 (.closeTill ⟨502, 5000, none⟩)) ::
        (List.range 24).map fun step => .step (step % 2) (counterChoice step (600 + step))

/-- Money is paid in after the till was closed. -/
def paidInLate : List (Event (CounterChoice ProviderAnswer) DeskTask) :=
  closedDay 6000 ++ .start (tillCommand 104 (.paidIn ⟨502, 500, "change", none⟩)) :: counterSteps 8 900

theorem freshTill_books : Books freshTill :=
  ⟨⟨by decide, fun _ impossible => nomatch impossible⟩, by decide, by decide, fun _ impossible => nomatch impossible⟩

theorem day_closed_once :
    let after := ((shiftDesk shop byBits contractual).run (Pool.quiet freshTill) (closedDay 6000)).world
    reportedShifts after = [502] ∧ StaysClosed after := by
  have stays := closed_shifts_stay_closed shop byBits contractual freshTill freshTill_books (closedDay 6000)
    (by decide +kernel)
  have reported : reportedShifts ((shiftDesk shop byBits contractual).run (Pool.quiet freshTill) (closedDay 6000)).world =
      [502] := by decide +kernel
  dsimp only
  generalize ((shiftDesk shop byBits contractual).run (Pool.quiet freshTill) (closedDay 6000)).world = after
    at stays reported ⊢
  exact ⟨reported, stays⟩

/-- Two closings at once report the shift twice, and money paid in later is not in what was
stored with it. -/
theorem closing_seals_nothing :
    (¬∀ (world : ShiftWorld RemotePayments) (events : List (Event (CounterChoice ProviderAnswer) DeskTask)),
      Books world → (reportedShifts ((shiftDesk shop byBits contractual).run (Pool.quiet world) events).world).Nodup) ∧
    ¬∀ (world : ShiftWorld RemotePayments) (events : List (Event (CounterChoice ProviderAnswer) DeskTask)),
      Books world →
        let after := ((shiftDesk shop byBits contractual).run (Pool.quiet world) events).world
        ∀ shift ∈ after.shifts.shifts, shift.state = .closed → shift.expectedCents = some (recomputed after shift) := by
  constructor
  · intro all
    have once := all freshTill closedTwice freshTill_books
    have twice : reportedShifts ((shiftDesk shop byBits contractual).run (Pool.quiet freshTill) closedTwice).world =
        [502, 502] := by decide +kernel
    rw [twice] at once
    exact absurd once (by decide)
  · intro all
    have right := all freshTill paidInLate freshTill_books
    have stored : ((shiftDesk shop byBits contractual).run (Pool.quiet freshTill) paidInLate).world.shifts.shifts =
        [{ openedShift with state := .closed, closingCountedCents := some 6000, expectedCents := some 6000
                            varianceCents := some 0, closedAt := some 7 }] := by decide +kernel
    have now : recomputed ((shiftDesk shop byBits contractual).run (Pool.quiet freshTill) paidInLate).world
        { openedShift with state := .closed, closingCountedCents := some 6000, expectedCents := some 6000
                           varianceCents := some 0, closedAt := some 7 } = 6500 := by decide +kernel
    dsimp only at right
    generalize ((shiftDesk shop byBits contractual).run (Pool.quiet freshTill) paidInLate).world = after
      at right stored now
    have same := right _ (by rw [stored]; exact List.mem_singleton_self _) rfl
    have clash : some (6000 : Int) = some 6500 := same.trans (congrArg some now)
    cases clash

end Samples
end ApexEdge.Proofs.ClosedShifts
