import ApexEdge.Hub.StockDesk
import ApexEdge.Proofs.ClosedShifts

/-! What is reported to headquarters: orders, finalized returns, closed shifts, and movements
of stock. All but the last are queued in the transaction that makes them; a movement is
queued after it is written, and until then it is not reported. -/

namespace ApexEdge.Proofs.Submissions
open Library Payment Domain Storage Contracts Hub

/-- Every fact has one submission, and every submission its fact. -/
structure SubmittedOnce (facts submissions : List Uuid) : Prop where
  once : ∀ id ∈ facts, submissions.count id = 1
  backed : ∀ id ∈ submissions, id ∈ facts

section Lists
variable {facts after submissions : List Uuid} {id : Uuid}

theorem submittedOnce_iff :
    SubmittedOnce facts submissions ↔ submissions.Nodup ∧ ∀ id, id ∈ submissions ↔ id ∈ facts := by
  constructor
  · intro submitted
    refine ⟨List.nodup_iff_count_le_one.mpr fun id => ?_, fun id => ⟨submitted.backed id, fun fact => ?_⟩⟩
    · by_cases queued : id ∈ submissions
      · exact (submitted.once id (submitted.backed id queued)).le
      · rw [List.count_eq_zero_of_not_mem queued]
        exact Nat.zero_le 1
    · exact List.count_pos_iff.mp (by rw [submitted.once id fact]; exact Nat.zero_lt_one)
  · rintro ⟨unique, same⟩
    exact ⟨fun id fact => List.count_eq_one_of_mem unique ((same id).mpr fact), fun id => (same id).mp⟩

/-- What is submitted counts, not how it is stored. -/
theorem SubmittedOnce.congr (submitted : SubmittedOnce facts submissions) (same : ∀ id, id ∈ after ↔ id ∈ facts) :
    SubmittedOnce after submissions :=
  ⟨fun id fact => submitted.once id ((same id).mp fact), fun id queued => (same id).mpr (submitted.backed id queued)⟩

/-- A new fact, and its submission. -/
theorem SubmittedOnce.add (submitted : SubmittedOnce facts submissions) (new : id ∉ facts)
    (grows : ∀ other, other ∈ after ↔ other ∈ facts ∨ other = id) : SubmittedOnce after (submissions ++ [id]) := by
  obtain ⟨unique, same⟩ := submittedOnce_iff.mp submitted
  refine submittedOnce_iff.mpr ⟨?_, fun other => ?_⟩
  · have unqueued : id ∉ submissions := fun queued => new ((same id).mp queued)
    simpa [List.nodup_append, unique] using fun other member => ne_of_mem_of_not_mem member unqueued
  · rw [List.mem_append, List.mem_singleton, same, grows]

end Lists

section World
variable {Remote Answer : Type}

def finalizedReturns (tables : ReturnTables) : List Uuid :=
  (tables.returns.filter (·.state = .finalized)).map ReturnRow.id

def closedShifts (tables : ShiftTables) : List Uuid := (tables.shifts.filter (·.state = .closed)).map ShiftRow.id

def storedMovements (world : StockDeskWorld Remote) : List Uuid :=
  world.desk.counter.inventory.movements.map StockMovementRow.id

def movedStock (world : StockDeskWorld Remote) : List Uuid := world.moved.map fun submission => submission.movement.id

/-- Ids of returns are unique, and orders and returns are submitted once. -/
structure CounterReported (db : Db) (submissions : List ReturnSubmission) : Prop where
  returnIds : (db.returns.returns.map ReturnRow.id).Nodup
  orders : SubmittedOnce (db.orders.map NewOrderLedgerEntry.orderId) (db.outbox.map OutboxRow.orderId)
  returns : SubmittedOnce (finalizedReturns db.returns) (submissions.map ReturnSubmission.returnId)

def ShiftsSubmitted (world : ShiftWorld Remote) : Prop :=
  SubmittedOnce (closedShifts world.shifts) (ClosedShifts.reportedShifts world)

/-- What is queued in the transaction that makes it is submitted once. -/
structure QueuedTogether (world : StockDeskWorld Remote) : Prop where
  orders : SubmittedOnce (world.desk.counter.hub.db.orders.map NewOrderLedgerEntry.orderId)
    (world.desk.counter.hub.db.outbox.map OutboxRow.orderId)
  returns : SubmittedOnce (finalizedReturns world.desk.counter.hub.db.returns)
    (world.desk.counter.submissions.map ReturnSubmission.returnId)
  shifts : ShiftsSubmitted world.desk

def MovementsSubmitted (world : StockDeskWorld Remote) : Prop :=
  SubmittedOnce (storedMovements world) (movedStock world)

/-- Every order, finalized return, closed shift and movement has exactly one submission in
the outbox, and each submission its fact. -/
structure EverySubmitted (world : StockDeskWorld Remote) : Prop extends QueuedTogether world where
  movements : MovementsSubmitted world

/-- All but movements are reported, and ids are the keys that they are. -/
structure Reported (world : StockDeskWorld Remote) : Prop where
  counter : CounterReported world.desk.counter.hub.db world.desk.counter.submissions
  shiftIds : (world.desk.shifts.shifts.map ShiftRow.id).Nodup
  shifts : ShiftsSubmitted world.desk
  movementIds : (storedMovements world).Nodup

def isFinalized (id : Uuid) (tables : ReturnTables) : Bool :=
  tables.returns.any fun row => row.id = id ∧ row.state = .finalized

/-- An order is new, a return is finalized where it is stored and not finalized, and no
finalized return is made anything else. -/
def counterAllows (world : CounterWorld Remote) (call : CounterCall) : Bool :=
  let tables := world.hub.db.returns
  match call with
  | .hub (.insertOrderLedgerEntryWithOutbox entry _) => world.hub.db.orders.all (·.orderId ≠ entry.orderId)
  | .hub (.completeRefund refund) => !isFinalized refund.returnId tables
  | .updateReturnTotals id _ _ _ state =>
    tables.returns.all fun row => row.id ≠ id ∨ (row.state = .finalized ↔ state = .finalized)
  | .finalizeReturnRowWithOutbox id _ => tables.returns.any (·.id = id) ∧ !isFinalized id tables
  | .voidReturnRow id =>
    !isFinalized id tables ∨ tables.returns.all fun row => row.id ≠ id ∨ !Returns.isUnrefunded tables row
  | _ => true

/-- A shift is open when it is closed. -/
def deskAllows (world : ShiftWorld Remote) (request : ShiftRequest) : Bool :=
  match request with
  | .counter request => counterAllows world.counter request.call
  | .till _ _ (.closeShiftWithOutbox id _ _ _) => (Shifts.fetch id world.shifts).any (·.state = .open)
  | .till .. => true

/-- The movement that a stock command has written and is about to queue. -/
def awaited (request : StockDeskRequest) : Option Uuid :=
  match request with
  | .stock _ (.insertOutbox _ movement) => some movement.id
  | _ => none

/-- Statements that succeed find what they write as it was when it was read, and a movement
that has been written is queued: no failure and no crash comes in between. -/
def undisturbed : Condition StockDeskRequest (StockDeskWorld Remote) (CounterChoice Answer) :=
  { step := fun world _ request choice =>
      match request with
      | .desk request => (choice.meeting world request).hub.storageFailure = none → deskAllows world.desk request = true
      | .stock _ (.insertOutbox id _) => choice.hub.storageFailure = none ∧ outboxHolds world id = false
      | .stock .. => True
    drop := fun _ _ request => awaited request = none }

instance (world : StockDeskWorld Remote) (others : List StockDeskRequest) (request : StockDeskRequest)
    (choice : CounterChoice Answer) : Decidable (undisturbed.step world others request choice) := by
  unfold undisturbed
  dsimp only
  split <;> infer_instance

instance (world : StockDeskWorld Remote) (others : List StockDeskRequest) (request : StockDeskRequest) :
    Decidable ((undisturbed : Condition _ _ (CounterChoice Answer)).drop world others request) :=
  inferInstanceAs (Decidable (awaited request = none))

/-- Closings report the shift that they close. -/
def Proper (request : StockDeskRequest) : Prop :=
  match request with
  | .desk request => ShiftConduct.Proper request
  | .stock .. => True

def reporting (rank : Uuid → Nat) (providers : Providers Remote Answer) :
    Rules StockDeskRequest StockDeskRequest.Reply (StockDeskWorld Remote) (CounterChoice Answer) :=
  { perform := performAtStockDesk rank providers
    condition := undisturbed
    invariant := Reported
    interference := fun _ _ => True
    grants := fun _ => Proper }

end World

section Returns
variable {tables after : ReturnTables}

theorem mem_finalizedReturns {id : Uuid} : id ∈ finalizedReturns tables ↔ isFinalized id tables = true := by
  simp only [finalizedReturns, isFinalized, List.mem_map, List.mem_filter, List.any_eq_true, decide_eq_true_eq]
  exact exists_congr fun row => ⟨fun ⟨⟨stored, state⟩, own⟩ => ⟨stored, own, state⟩,
    fun ⟨stored, own, state⟩ => ⟨⟨stored, state⟩, own⟩⟩

/-- Ids stay unique, and the same returns are finalized. -/
structure SameFinal (before after : ReturnTables) : Prop where
  unique : (after.returns.map ReturnRow.id).Nodup
  same : finalizedReturns after = finalizedReturns before

variable (unique : (tables.returns.map ReturnRow.id).Nodup)
include unique

theorem sameFinal_rows (rows : after.returns = tables.returns) : SameFinal tables after := by
  refine ⟨?_, ?_⟩
  · rw [rows]
    exact unique
  · unfold finalizedReturns
    rw [rows]

theorem sameFinal_run {update : Table.Update ReturnRow} (ids : ∀ row, (update.set row).id = row.id)
    (kept : ∀ row ∈ tables.returns, update.selects row = true →
      ((update.set row).state = .finalized ↔ row.state = .finalized))
    (rows : after.returns = update.run tables.returns) : SameFinal tables after := by
  refine ⟨?_, ?_⟩
  · rw [rows]
    exact Table.unique_run ids unique
  · unfold finalizedReturns
    rw [rows]
    exact Table.keys_run ids fun row member selected => decide_eq_decide.mpr (kept row member selected)

theorem sameFinal_insert {new : NewReturn} (inserted : Returns.insert new tables = .ok after) :
    SameFinal tables after := by
  unfold Returns.insert at inserted
  split at inserted
  · cases inserted
  next fresh =>
    cases inserted
    have absent : ∀ row ∈ tables.returns, row.id ≠ new.id := by simpa using fresh
    refine ⟨Table.unique_append unique absent, ?_⟩
    simp [finalizedReturns, NewReturn.row]

/-- A return that accepts lines is not a finalized one. -/
theorem sameFinal_receipted {rank : Uuid → Nat} {orders : List NewOrderLedgerEntry} {input : ReturnLineRow}
    (added : Returns.addReceiptedLine rank orders input tables = .ok after) : SameFinal tables after := by
  obtain ⟨sale, taken, next, paid, amount, tax, line⟩ := Entitlements.addReceiptedLine_ok added
  obtain ⟨_, row, stored, own, _, works⟩ := Entitlements.original_ok unique line.found
  obtain ⟨_, _, _, total, charge, rows⟩ := line.effect unique
  refine sameFinal_run unique (fun _ => rfl) (fun old present selected => ?_) rows
  have one : old = row := List.inj_on_of_nodup_map unique present stored ((of_decide_eq_true selected).trans own.symm)
  rw [one]
  rcases works with state | state <;> simp [state]

theorem sameFinal_totals {id : Uuid} {totalCents taxCents refundedCents : Nat} {state : ReturnState}
    (kept : ∀ row ∈ tables.returns, row.id = id → (row.state = .finalized ↔ state = .finalized)) :
    SameFinal tables (Returns.updateTotals id totalCents taxCents refundedCents state tables) :=
  sameFinal_run unique (fun _ => rfl)
    (fun row member selected => (kept row member (of_decide_eq_true selected)).symm) rfl

theorem sameFinal_void {id : Uuid}
    (kept : ∀ row ∈ tables.returns, row.id = id → Returns.isUnrefunded tables row = true → row.state ≠ .finalized)
    (voided : Returns.voidRow id tables = .ok after) : SameFinal tables after := by
  unfold Returns.voidRow at voided
  dsimp only at voided
  split at voided
  · cases voided
    refine sameFinal_run unique (fun _ => rfl) (fun row member selected => ?_) rfl
    obtain ⟨own, unrefunded⟩ := of_decide_eq_true selected
    simpa using kept row member own unrefunded
  · cases voided

theorem sameFinal_complete {refund : RefundRow} (kept : isFinalized refund.returnId tables = false) :
    SameFinal tables (Returns.complete refund tables) := by
  rw [RefundBooks.complete_eq]
  refine sameFinal_run unique (fun _ => rfl) (fun row member selected => ?_) rfl
  have before : row.state ≠ .finalized := fun state =>
    List.any_eq_false.mp kept row member (decide_eq_true ⟨of_decide_eq_true selected, state⟩)
  simp only [before, iff_false]
  show (if _ then ReturnState.paid else ReturnState.tendered) ≠ .finalized
  split <;> exact (nomatch ·)

theorem sameFinal_reserve (refund : RefundRow) : SameFinal tables (Returns.reserve refund tables) := by
  rcases Refunding.reserve_cases refund tables with same | ⟨_, added⟩
  · exact sameFinal_rows unique (by rw [same])
  · exact sameFinal_rows unique (by rw [added])

end Returns

section Counter
variable {Remote Answer : Type} {rank : Uuid → Nat} {providers : Providers Remote Answer}
  {choice : CounterChoice Answer} {db : Db} {submissions : List ReturnSubmission}

theorem reported_returns (reported : CounterReported db submissions) {tables : ReturnTables}
    (same : SameFinal db.returns tables) : CounterReported { db with returns := tables } submissions :=
  ⟨same.unique, reported.orders, same.same ▸ reported.returns⟩

/-- An order is written together with its submission. -/
theorem reported_order (reported : CounterReported db submissions) {entry : NewOrderLedgerEntry} {outboxId : Uuid}
    {orders : List NewOrderLedgerEntry} {outbox : List OutboxRow}
    (new : db.orders.all (·.orderId ≠ entry.orderId) = true) (written : Orders.write entry db.orders = .ok orders)
    (queued : Orders.queue ⟨outboxId, entry.orderId⟩ db.outbox = .ok outbox) :
    CounterReported { db with orders := orders, outbox := outbox } submissions := by
  have fresh : ∀ order ∈ db.orders, order.orderId ≠ entry.orderId := by simpa using new
  obtain ⟨rfl, _⟩ := Orders.write_fresh fresh written
  unfold Orders.queue at queued
  split at queued
  · cases queued
  · cases queued
    have added : SubmittedOnce ((db.orders ++ [entry]).map NewOrderLedgerEntry.orderId)
        (db.outbox.map OutboxRow.orderId ++ [entry.orderId]) :=
      reported.orders.add (by simpa using fresh) fun other => by simp [eq_comm]
    refine ⟨reported.returnIds, ?_, reported.returns⟩
    simpa only [List.map_append, List.map_cons, List.map_nil] using added

/-- A return is finalized together with its submission. -/
theorem reported_finalize (reported : CounterReported db submissions) {id submissionId : Uuid}
    (stored : db.returns.returns.any (·.id = id) = true) (unfinalized : isFinalized id db.returns = false) :
    CounterReported { db with returns := Returns.finalizeRow id db.returns } (submissions ++ [⟨submissionId, id⟩]) := by
  refine ⟨Table.unique_run (fun _ => rfl) reported.returnIds, reported.orders, ?_⟩
  rw [List.map_append]
  refine reported.returns.add ?_ (Table.mem_keys_run (fun _ => rfl) (fun _ => rfl) ?_)
  · rw [mem_finalizedReturns, unfinalized]
    exact Bool.false_ne_true
  · simpa using stored

variable {world : CounterWorld Remote}

theorem reported_transact (reported : CounterReported world.hub.db submissions)
    {write : ReturnTables → Except PoolError ReturnTables}
    (kept : choice.hub.storageFailure = none → ∀ after, write world.hub.db.returns = .ok after →
      SameFinal world.hub.db.returns after) :
    CounterReported (transactReturns choice world write).2.hub.db submissions := by
  unfold transactReturns
  split
  · exact reported
  next works =>
    split
    · exact reported
    next after written => exact reported_returns reported (kept works after written)

theorem hub_reported (reported : CounterReported world.hub.db submissions) {frame : Frame} {call : Call}
    (allows : choice.hub.storageFailure = none → counterAllows world (.hub call) = true) :
    CounterReported (perform providers choice.hub world.hub ⟨frame, call⟩).2.db submissions := by
  cases works : choice.hub.storageFailure with
  | some error =>
    rw [ClosedShifts.perform_failed works]
    exact reported
  | none =>
    have allowed := allows works
    have changed := StepEffects.perform_db providers choice.hub world.hub ⟨frame, call⟩
    generalize (perform providers choice.hub world.hub ⟨frame, call⟩).2.db = db at changed ⊢
    dsimp only at changed
    cases changed
    case ordered entry outboxId orders outbox asked written queued =>
      subst asked
      exact reported_order reported allowed written queued
    case reserved refund asked => exact reported_returns reported (sameFinal_reserve reported.returnIds refund)
    case completed refund asked =>
      subst asked
      have unfinalized : isFinalized refund.returnId world.hub.db.returns = false := by
        simpa [counterAllows] using allowed
      exact reported_returns reported (sameFinal_complete reported.returnIds unfinalized)
    all_goals exact ⟨reported.returnIds, reported.orders, reported.returns⟩

theorem transact_submissions (write : ReturnTables → Except PoolError ReturnTables) :
    (transactReturns choice world write).2.submissions = world.submissions := by
  unfold transactReturns
  split
  · rfl
  · split <;> rfl

theorem counter_reported (reported : CounterReported world.hub.db world.submissions) {request : CounterRequest}
    (allows : choice.hub.storageFailure = none → counterAllows world request.call = true) :
    CounterReported (performAtCounter rank providers choice world request).2.hub.db
      (performAtCounter rank providers choice world request).2.submissions := by
  obtain ⟨frame, adding, restocks, call⟩ := request
  -- statements on the tables of returns alone
  have transacts {write : ReturnTables → Except PoolError ReturnTables}
      (kept : choice.hub.storageFailure = none → ∀ after, write world.hub.db.returns = .ok after →
        SameFinal world.hub.db.returns after) :
      CounterReported (transactReturns choice world write).2.hub.db
        (transactReturns choice world write).2.submissions := by
    rw [transact_submissions]
    exact reported_transact reported kept
  cases call with
  | hub call => exact hub_reported reported allows
  | insertReturn new => exact transacts fun _ _ => sameFinal_insert reported.returnIds
  | addReceiptedReturnLine input => exact transacts fun _ _ => sameFinal_receipted reported.returnIds
  | insertReturnLine line =>
    refine transacts fun _ after inserted => sameFinal_rows reported.returnIds ?_
    rw [Entitlements.insertLine_ok inserted]
  | updateReturnTotals id totalCents taxCents refundedCents state =>
    refine transacts fun works after written => ?_
    cases written
    refine sameFinal_totals reported.returnIds fun row member own => ?_
    have kept := List.all_eq_true.mp (allows works) row member
    exact (of_decide_eq_true kept).resolve_left (not_not.mpr own)
  | finalizeReturnRowWithOutbox id submissionId =>
    simp only [performAtCounter, finalizeWithOutbox]
    split
    · exact reported
    next works =>
      split
      · exact reported
      · obtain ⟨stored, unfinalized⟩ := of_decide_eq_true (allows works)
        exact reported_finalize reported stored (by simpa using unfinalized)
  | voidReturnRow id =>
    have kept : CounterReported (transactReturns choice world (Returns.voidRow id)).2.hub.db
        (transactReturns choice world (Returns.voidRow id)).2.submissions := by
      refine transacts fun works after voided => sameFinal_void reported.returnIds ?_ voided
      intro row member own unrefunded state
      rcases of_decide_eq_true (allows works) with unfinalized | refused
      · have finalized : isFinalized id world.hub.db.returns = true :=
          List.any_eq_true.mpr ⟨row, member, decide_eq_true ⟨own, state⟩⟩
        simp [finalized] at unfinalized
      · have apart := of_decide_eq_true (List.all_eq_true.mp refused row member)
        simp [own, unrefunded] at apart
    simp only [performAtCounter, voidRow]
    generalize transactReturns choice world (Returns.voidRow id) = outcome at kept ⊢
    obtain ⟨answer, after⟩ := outcome
    cases answer <;> exact kept
  | applyLocalDelta storeId itemId delta =>
    simp only [performAtCounter, putBack]
    split <;> exact reported
  | _ => exact reported

end Counter

section Desk
variable {Remote Answer : Type} {rank : Uuid → Nat} {providers : Providers Remote Answer}
  {choice : CounterChoice Answer} {world : StockDeskWorld Remote}

theorem mem_closedShifts {tables : ShiftTables} {id : Uuid} :
    id ∈ closedShifts tables ↔ ∃ shift ∈ tables.shifts, shift.id = id ∧ shift.state = .closed := by
  simp only [closedShifts, List.mem_map, List.mem_filter, decide_eq_true_eq]
  exact exists_congr fun shift => ⟨fun ⟨⟨stored, state⟩, own⟩ => ⟨stored, own, state⟩,
    fun ⟨stored, own, state⟩ => ⟨⟨stored, state⟩, own⟩⟩

/-- The shifts are as they were. -/
theorem reported_shifts (reported : Reported world) {tables : ShiftTables}
    (same : tables.shifts = world.desk.shifts.shifts) :
    Reported { world with desk := { world.desk with shifts := tables } } := by
  refine ⟨reported.counter, ?_, reported.shifts.congr fun id => ?_, reported.movementIds⟩
  · rw [show tables.shifts = _ from same]
    exact reported.shiftIds
  · rw [mem_closedShifts, mem_closedShifts, same]

theorem reported_open (reported : Reported world) {new : NewShift} {now : Timestamp} {tables : ShiftTables}
    (opened : Shifts.openShift new now world.desk.shifts = .ok tables) :
    Reported { world with desk := { world.desk with shifts := tables } } := by
  unfold Shifts.openShift at opened
  split at opened
  · cases opened
  next fresh =>
    split at opened
    · cases opened
    · cases opened
      have absent : ∀ shift ∈ world.desk.shifts.shifts, shift.id ≠ new.id := by simpa using fresh
      refine ⟨reported.counter, Table.unique_append reported.shiftIds absent, reported.shifts.congr fun id => ?_,
        reported.movementIds⟩
      simp [closedShifts, NewShift.row]

/-- A shift that is open is closed together with its report. -/
theorem reported_close (reported : Reported world) {id outboxId : Uuid} {written : ShiftClosing}
    {payload : HqShiftPayload} {now : Timestamp}
    (works : (Shifts.fetch id world.desk.shifts).any (·.state = .open) = true) (own : payload.shiftId = id) :
    Reported { world with desk := { world.desk with
      shifts := Shifts.close id written now world.desk.shifts
      reports := world.desk.reports ++ [⟨outboxId, payload⟩] } } := by
  obtain ⟨shift, found, state⟩ := (Option.any_eq_true _ _).mp works
  have stored : shift ∈ world.desk.shifts.shifts := List.mem_of_find?_eq_some found
  have mine : shift.id = id := by simpa using List.find?_some found
  refine ⟨reported.counter, Table.unique_run (fun _ => rfl) reported.shiftIds, ?_, reported.movementIds⟩
  have reports : ClosedShifts.reportedShifts { world.desk with
      shifts := Shifts.close id written now world.desk.shifts
      reports := world.desk.reports ++ [⟨outboxId, payload⟩] } = ClosedShifts.reportedShifts world.desk ++ [id] := by
    simp [ClosedShifts.reportedShifts, own]
  unfold ShiftsSubmitted
  rw [reports]
  refine SubmittedOnce.add reported.shifts ?_ (Table.mem_keys_run (fun _ => rfl) (fun _ => rfl) ⟨shift, stored, mine⟩)
  rw [mem_closedShifts]
  rintro ⟨other, present, same, closed⟩
  obtain rfl : other = shift := List.inj_on_of_nodup_map reported.shiftIds present stored (same.trans mine.symm)
  rw [closed] at state
  cases of_decide_eq_true state

/-- No statement of the till writes movements of stock. -/
theorem movements_counter (counter : CounterWorld Remote) (request : CounterRequest) :
    (performAtCounter rank providers choice counter request).2.inventory.movements = counter.inventory.movements := by
  obtain ⟨frame, adding, restocks, call⟩ := request
  have transacts (write : ReturnTables → Except PoolError ReturnTables) :
      (transactReturns choice counter write).2.inventory = counter.inventory := by
    unfold transactReturns
    split
    · rfl
    · split <;> rfl
  cases call with
  | insertReturn | addReceiptedReturnLine | insertReturnLine | updateReturnTotals =>
    exact congrArg InventoryTables.movements (transacts _)
  | finalizeReturnRowWithOutbox id submissionId =>
    simp only [performAtCounter, finalizeWithOutbox]
    split
    · rfl
    · split <;> rfl
  | voidReturnRow id =>
    have kept := transacts (Returns.voidRow id)
    simp only [performAtCounter, voidRow]
    generalize transactReturns choice counter (Returns.voidRow id) = outcome at kept ⊢
    obtain ⟨answer, after⟩ := outcome
    cases answer <;> exact congrArg InventoryTables.movements kept
  | applyLocalDelta storeId itemId delta =>
    simp only [performAtCounter, putBack]
    split
    · rfl
    · simp only [InventoryLedger.applyLocalDelta]
      split <;> rfl
  | _ => rfl

theorem movements_desk (desk : ShiftWorld Remote) (request : ShiftRequest) :
    (performAtShiftDesk rank providers choice desk request).2.counter.inventory.movements =
      desk.counter.inventory.movements := by
  cases request with
  | counter request => exact movements_counter desk.counter request
  | till key closing call =>
    cases call with
    | openShift new =>
      simp only [performAtShiftDesk, transactShifts]
      split
      · rfl
      · split <;> rfl
    | insertShiftMovement new =>
      simp only [performAtShiftDesk, transactShifts]
      split
      · rfl
      · split <;> rfl
    | closeShiftWithOutbox id written outboxId payload =>
      simp only [performAtShiftDesk, closeWithOutbox]
      split
      · rfl
      · split <;> rfl
    | _ =>
      simp only [performAtShiftDesk, queryShifts]
      split <;> rfl

theorem desk_reported (reported : Reported world) {request : ShiftRequest} (proper : ShiftConduct.Proper request)
    (allows : choice.hub.storageFailure = none → deskAllows world.desk request = true) :
    Reported { world with desk := (performAtShiftDesk rank providers choice world.desk request).2 } := by
  cases request with
  | counter request =>
    refine ⟨counter_reported reported.counter allows, reported.shiftIds, reported.shifts, ?_⟩
    show (List.map _ (performAtCounter rank providers (choice.knowing world.desk.shifts) world.desk.counter
      request).2.inventory.movements).Nodup
    rw [movements_counter]
    exact reported.movementIds
  | till key closing call =>
    cases call with
    | openShift new =>
      simp only [performAtShiftDesk, transactShifts]
      split
      · exact reported
      · split
        · exact reported
        next tables opened => exact reported_open reported opened
    | insertShiftMovement new =>
      simp only [performAtShiftDesk, transactShifts]
      split
      · exact reported
      · split
        · exact reported
        next tables inserted => exact reported_shifts reported (ClosedShifts.insertMovement_shifts inserted)
    | closeShiftWithOutbox id written outboxId payload =>
      obtain ⟨_, _, closes⟩ := proper
      simp only [performAtShiftDesk, closeWithOutbox]
      split
      · exact reported
      next works =>
        split
        · exact reported
        · exact reported_close reported (allows works) closes.reported
    | _ =>
      simp only [performAtShiftDesk, queryShifts]
      split <;> exact reported

/-- A movement is stored under a new id. -/
theorem insertStockMovement_cases (movement : StockMovementRow) (tables : InventoryTables) :
    (∃ error, InventoryLedger.insertStockMovement movement tables = (.error error, tables)) ∨
      movement.id ∉ tables.movements.map StockMovementRow.id ∧
        InventoryLedger.insertStockMovement movement tables =
          (.ok (), { tables with movements := tables.movements ++ [movement] }) := by
  unfold InventoryLedger.insertStockMovement
  split
  · exact .inl ⟨_, rfl⟩
  next fresh => exact .inr ⟨by simpa using fresh, rfl⟩

theorem stock_reported (reported : Reported world) (call : MovementCall) :
    Reported (performMovement choice world call).2 := by
  cases call with
  | insertStockMovement input =>
    simp only [performMovement]
    split
    · exact reported
    · rcases insertStockMovement_cases (newMovement choice input) world.desk.counter.inventory with
        ⟨error, failed⟩ | ⟨fresh, written⟩
      · rw [failed]
        exact reported
      · rw [written]
        refine ⟨reported.counter, reported.shiftIds, reported.shifts, Table.unique_append reported.movementIds ?_⟩
        exact fun row member same => fresh (same ▸ List.mem_map_of_mem member)
  | insertOutbox id movement =>
    simp only [performMovement]
    split
    · exact reported
    · split
      · exact reported
      · exact ⟨reported.counter, reported.shiftIds, reported.shifts, reported.movementIds⟩
  | applyLocalDelta storeId itemId delta =>
    simp only [performMovement]
    split
    · exact reported
    · refine ⟨reported.counter, reported.shiftIds, reported.shifts, ?_⟩
      simp only [storedMovements, StockDeskWorld.withInventory, InventoryLedger.applyLocalDelta]
      split <;> exact reported.movementIds

theorem reporting_assured : (reporting rank providers : Rules _ _ _ (CounterChoice Answer)).Assured where
  refl := fun _ => trivial
  trans := fun _ _ => trivial
  step choice world others request reported proper meets := by
    refine ⟨?_, trivial⟩
    have reported : Reported world := reported
    cases request with
    | desk request => exact desk_reported reported proper meets
    | stock key call => exact stock_reported reported call

end Desk

section Conduct
variable {Remote Answer : Type} {may : StockDeskRequest → Prop} {α : Type}

/-- The movement that has to be queued next. -/
def owed (request : StockDeskRequest) (reply : request.Reply) : Option Uuid :=
  match request, reply with
  | .stock _ (.insertStockMovement _), .ok movement => some movement.id
  | _, _ => none

/-- Nothing comes between a movement and its submission, and nothing else is queued. -/
def conduct : Protocol StockDeskRequest StockDeskRequest.Reply :=
  { follows := fun request reply next => awaited next = owed request reply
    rests := fun may => ∃ next, may next ∧ awaited next = none }

/-- No movement is waiting to be queued. -/
def Lets (may : StockDeskRequest → Prop) : Prop := ∀ next, awaited next = none → may next

theorem Lets.rests (lets : Lets may) : conduct.rests may :=
  ⟨.desk (.till 0 none (.fetchShift 0)), lets _ rfl, rfl⟩

theorem desk_goesOn (request : ShiftRequest) (reply : request.Reply) :
    Lets (conduct.follows (.desk request) reply) := fun _ nothing => nothing

theorem atStockDesk_keeps (program : ShiftProgram α) (lets : Lets may) :
    conduct.Keeps may (fun may _ => Lets may) (atStockDesk program) := by
  induction program generalizing may with
  | pure value => exact lets
  | request request next ih => exact ⟨lets _ rfl, fun reply => ih reply (desk_goesOn request reply)⟩

theorem recordStockMovement_keeps (header : CommandHeader) (p : StockMovementPayload) (lets : Lets may) :
    conduct.Keeps may (fun may _ => Lets may) (recordStockMovement header p) := by
  unfold recordStockMovement
  split
  · exact lets
  · refine Protocol.keeps_andThen (Protocol.keeps_orThrow ⟨lets _ rfl, fun inserted => ?_⟩)
    cases inserted with
    | error error => exact fun _ nothing => nothing
    | ok movement =>
      -- queued at once, whatever comes of it
      refine ⟨rfl, fun queued => ⟨rfl, fun applied => ?_⟩⟩
      exact fun _ nothing => nothing

theorem movementTask_keeps (app : AppState) (task : MovementTask) (lets : Lets may) :
    conduct.Keeps may (fun may _ => Lets may) (task.program app) := by
  have executes {may : StockDeskRequest → Prop} (lets : Lets may) : conduct.Keeps may (fun may _ => Lets may)
      (Program.bind (recordStockMovement task.header task.payload) task.answered) := by
    apply Protocol.Keeps.bind
    apply (recordStockMovement_keeps task.header task.payload lets).mono
    rintro may (errors | movement) lets
    · exact lets
    · exact ⟨lets _ rfl, fun _ => desk_goesOn _ _⟩
  obtain ⟨error, refused⟩ | ⟨_, next, runs, goesOn⟩ := task.program_cases app
  · rw [refused]
    exact lets
  · rw [runs]
    refine ⟨lets _ rfl, fun stored => ?_⟩
    have after := desk_goesOn
      (.counter (.ofHub ⟨counterFrame task.header, .getResponse task.header.idempotencyKey⟩)) stored
    obtain ⟨replayed, replays⟩ | went := goesOn stored
    · rw [replays]
      exact after
    · rw [went]
      exact executes after

theorem task_keeps (app : AppState) (task : StockDeskTask) :
    conduct.Keeps (fun next => awaited next = none) (fun may _ => conduct.rests may) (task.program app) := by
  have lets : Lets fun next => awaited next = none := fun _ nothing => nothing
  cases task with
  | desk task =>
    exact Protocol.Keeps.bind ((atStockDesk_keeps (task.program app) lets).mono fun _ _ lets => lets.rests)
  | stock task => exact Protocol.Keeps.bind ((movementTask_keeps app task lets).mono fun _ _ lets => lets.rests)

theorem recordStockMovement_asks (header : CommandHeader) (p : StockMovementPayload) :
    Program.Asks Proper (recordStockMovement header p) := by
  unfold recordStockMovement
  split
  · trivial
  · refine Fallible.asks_andThen (Fallible.asks_orThrow (Fallible.asks_ask trivial)) fun movement => ?_
    refine Fallible.asks_andThen (Fallible.asks_ask trivial) fun queued => ?_
    exact Fallible.asks_andThen (Fallible.asks_ask trivial) fun applied => trivial

theorem movementTask_asks (app : AppState) (task : MovementTask) : (task.program app).Asks Proper := by
  have executes : Program.Asks Proper (Program.bind (recordStockMovement task.header task.payload) task.answered) := by
    refine Program.Asks.bind (recordStockMovement_asks ..) fun result => ?_
    cases result with
    | error errors => trivial
    | ok movement => exact ⟨trivial, fun _ => trivial⟩
  obtain ⟨error, refused⟩ | ⟨_, next, runs, goesOn⟩ := task.program_cases app
  · rw [refused]
    trivial
  · rw [runs]
    refine ⟨trivial, fun stored => ?_⟩
    obtain ⟨replayed, replays⟩ | went := goesOn stored
    · rw [replays]
      trivial
    · rw [went]
      exact executes

theorem task_asks (app : AppState) (task : StockDeskTask) : (task.program app).Asks Proper := by
  cases task with
  | desk task =>
    have asks : (task.program app).Asks fun request => Proper (.desk request) := ShiftConduct.deskTask_asks app task
    exact asks.embed.bind fun _ => trivial
  | stock task => exact (movementTask_asks app task).bind fun _ => trivial

/-- The movements that have been written and are still to be queued. -/
def awaiting (pending : Multiset StockDeskRequest) : Multiset Uuid := pending.filterMap awaited

/-- What is stored has been queued, or is about to be. -/
def Balanced (world : StockDeskWorld Remote) (pending : Multiset StockDeskRequest) : Prop :=
  (movedStock world : Multiset Uuid) + awaiting pending = storedMovements world

theorem awaiting_cons (request : StockDeskRequest) (others : Multiset StockDeskRequest) :
    awaiting (request ::ₘ others) = ((awaited request).toList : Multiset Uuid) + awaiting others := by
  unfold awaiting
  cases waits : awaited request with
  | none => rw [Multiset.filterMap_cons_none _ _ waits]; simp
  | some id => rw [Multiset.filterMap_cons_some _ _ _ waits]; simp

variable {choice : CounterChoice Answer} {world : StockDeskWorld Remote}

/-- One statement: what it leaves to be queued is what it has written beyond what it has queued. -/
theorem balanced_step (rank : Uuid → Nat) (providers : Providers Remote Answer) {others : Multiset StockDeskRequest}
    {request : StockDeskRequest} (meets : undisturbed.step world [] request choice)
    (balanced : Balanced world (request ::ₘ others)) :
    (movedStock (performAtStockDesk rank providers choice world request).2 : Multiset Uuid) +
        (((owed request (performAtStockDesk rank providers choice world request).1).toList : Multiset Uuid) +
          awaiting others) =
      storedMovements (performAtStockDesk rank providers choice world request).2 := by
  unfold Balanced at balanced
  rw [awaiting_cons] at balanced
  cases request with
  | desk request =>
    have same : storedMovements (performAtStockDesk rank providers choice world (.desk request)).2 =
        storedMovements world := by
      simp only [storedMovements, performAtStockDesk, movements_desk]
    rw [same]
    exact balanced
  | stock key call =>
    cases call with
    | insertStockMovement input =>
      simp only [performAtStockDesk, performMovement]
      cases choice.hub.storageFailure with
      | some error => exact balanced
      | none =>
        rcases insertStockMovement_cases (newMovement choice input) world.desk.counter.inventory with
          ⟨error, failed⟩ | ⟨_, written⟩
        · simp only [failed]
          exact balanced
        · simp only [written]
          have stored : storedMovements (world.withInventory { world.desk.counter.inventory with
              movements := world.desk.counter.inventory.movements ++ [newMovement choice input] }) =
                storedMovements world ++ [(newMovement choice input).id] := by
            simp [storedMovements, StockDeskWorld.withInventory]
          have before : (movedStock world : Multiset Uuid) + awaiting others = storedMovements world := by
            simpa [awaited] using balanced
          rw [stored, ← Multiset.coe_add, ← before]
          exact (add_assoc ..).trans (congrArg _ (add_comm ..)) |>.symm
    | insertOutbox id movement =>
      obtain ⟨works, free⟩ := meets
      have moved : movedStock { world with moved := world.moved ++ [⟨id, movement⟩] } =
          movedStock world ++ [movement.id] := by simp [movedStock]
      simp only [performAtStockDesk, performMovement, works, free, Bool.false_eq_true, if_false]
      rw [moved, ← Multiset.coe_add, add_assoc]
      exact (congrArg _ (congrArg _ (zero_add _))).trans balanced
    | applyLocalDelta storeId itemId delta =>
      have same : storedMovements (performAtStockDesk rank providers choice world
          (.stock key (.applyLocalDelta storeId itemId delta))).2 = storedMovements world := by
        simp only [performAtStockDesk, performMovement]
        split
        · rfl
        · simp only [storedMovements, StockDeskWorld.withInventory, InventoryLedger.applyLocalDelta]
          split <;> rfl
      have unqueued : movedStock (performAtStockDesk rank providers choice world
          (.stock key (.applyLocalDelta storeId itemId delta))).2 = movedStock world := by
        simp only [performAtStockDesk, performMovement]
        split <;> rfl
      rw [same, unqueued]
      exact balanced

theorem balanced_pending (app : AppState) (rank : Uuid → Nat) (providers : Providers Remote Answer) :
    (reporting rank providers).Pending (stockDesk app rank providers) conduct (fun _ next => awaited next = none)
      (fun world => Balanced world) where
  keeps := task_keeps app
  started world others task request _ nothing _ _ balanced := by
    unfold Balanced
    rw [awaiting_cons, nothing]
    exact (congrArg _ (zero_add _)).trans balanced
  continued choice world others request next meets _ _ balanced follows _ := by
    have kept := balanced_step rank providers meets balanced
    unfold Balanced
    rw [awaiting_cons, show awaited next = _ from follows]
    exact kept
  finished choice world others request meets _ _ balanced rests := by
    have kept := balanced_step rank providers meets balanced
    obtain ⟨next, follows, nothing⟩ := rests
    have none : owed request (performAtStockDesk rank providers choice world request).1 = .none :=
      (show awaited next = _ from follows).symm.trans nothing
    rw [none] at kept
    exact (congrArg _ (zero_add _)).symm.trans kept
  dropped world others request dropped _ balanced := by
    unfold Balanced at balanced
    rw [awaiting_cons, show awaited request = none from dropped] at balanced
    exact (congrArg _ (zero_add _)).symm.trans balanced

/-- Ids are the keys that they are, and everything is submitted. -/
structure Opening (world : StockDeskWorld Remote) : Prop extends Reported world where
  movements : MovementsSubmitted world

theorem balanced_opening (opening : Opening world) : Balanced world 0 := by
  obtain ⟨unique, same⟩ := submittedOnce_iff.mp opening.movements
  have perm : (movedStock world).Perm (storedMovements world) :=
    (List.perm_ext_iff_of_nodup unique opening.movementIds).mpr same
  exact (add_zero _).trans (Multiset.coe_eq_coe.mpr perm)

/-- What is stored is submitted once when nothing waits to be queued, and not before. -/
theorem movements_submitted_iff (unique : (storedMovements world).Nodup) {pending : Multiset StockDeskRequest}
    (balanced : Balanced world pending) :
    MovementsSubmitted world ↔ ∀ request ∈ pending, awaited request = none := by
  have distinct : ((movedStock world : Multiset Uuid) + awaiting pending).Nodup := by
    rw [balanced]
    exact Multiset.coe_nodup.mpr unique
  obtain ⟨queued, _, apart⟩ := Multiset.nodup_add.mp distinct
  constructor
  · intro submitted request member
    cases waits : awaited request with
    | none => rfl
    | some id =>
      have due : id ∈ awaiting pending := (Multiset.mem_filterMap _ _).mpr ⟨request, member, waits⟩
      have stored : id ∈ storedMovements world := by
        rw [← Multiset.mem_coe, ← balanced]
        exact Multiset.mem_add.mpr (.inr due)
      have already := ((submittedOnce_iff.mp submitted).2 id).mpr stored
      exact absurd due (Multiset.disjoint_left.mp apart (Multiset.mem_coe.mpr already))
  · intro nothing
    have none : awaiting pending = 0 := by
      refine Multiset.eq_zero_of_forall_notMem fun id due => ?_
      obtain ⟨request, member, waits⟩ := (Multiset.mem_filterMap _ _).mp due
      rw [nothing request member] at waits
      cases waits
    have same : (movedStock world : Multiset Uuid) = storedMovements world := by
      unfold Balanced at balanced
      rwa [none, add_zero] at balanced
    refine submittedOnce_iff.mpr ⟨Multiset.coe_nodup.mp queued, fun id => ?_⟩
    rw [← Multiset.mem_coe, same, Multiset.mem_coe]

/-- In every run in which statements find what they write as it was read, and movements are
queued once they are written, everything is submitted exactly once, with the exception of
the movements that are being queued. -/
theorem every_fact_submitted (app : AppState) (rank : Uuid → Nat) (providers : Providers Remote Answer)
    (world : StockDeskWorld Remote) (opening : Opening world)
    (events : List (Event (CounterChoice Answer) StockDeskTask))
    (meets : undisturbed.RunMeets (stockDesk app rank providers) (Pool.quiet world) events) :
    let after := (stockDesk app rank providers).run (Pool.quiet world) events
    QueuedTogether after.world ∧
      (EverySubmitted after.world ↔ ∀ request ∈ after.pending, awaited request = none) := by
  have reached := (balanced_pending app rank providers).reached reporting_assured rfl
    ⟨opening.toReported, balanced_opening opening⟩
    (fun task world => Rules.safe_of_asks (fun _ _ proper => proper) (task_asks app task) world) meets
  dsimp only at reached ⊢
  obtain ⟨reported, balanced⟩ := reached
  have reported : Reported ((stockDesk app rank providers).run (Pool.quiet world) events).world := reported
  have together : QueuedTogether ((stockDesk app rank providers).run (Pool.quiet world) events).world :=
    ⟨reported.counter.orders, reported.counter.returns, reported.shifts⟩
  have iff := movements_submitted_iff reported.movementIds balanced
  exact ⟨together, fun submitted => iff.mp submitted.movements, fun nothing => ⟨together, iff.mpr nothing⟩⟩

end Conduct

section Samples
open Attempts ReceiptedReturns DrawerCash

/-- A return that is refunded in full. -/
def paidReturn : ReturnRow := { openReturn 60 none with state := .paid, totalCents := 1000, refundedCents := 1000 }

/-- A hub with one cart and one return, and nothing to report yet. -/
def freshDesk : StockDeskWorld RemotePayments :=
  { desk := { freshTill with counter := freshTill.counter.withReturns ⟨[paidReturn], [], [], []⟩ }, moved := [] }

def served (events : List (Event (CounterChoice ProviderAnswer) DeskTask)) :
    List (Event (CounterChoice ProviderAnswer) StockDeskTask) :=
  events.map fun event =>
    match event with
    | .start task => .start (.desk task)
    | .step thread choice => .step thread choice
    | .drop thread => .drop thread

def delivery (key : Uuid) : Event (CounterChoice ProviderAnswer) StockDeskTask :=
  .start (.stock ⟨none, shiftHeader key, ⟨30, 12, "delivery"⟩⟩)

def finalizes (key : Uuid) : Event (CounterChoice ProviderAnswer) StockDeskTask :=
  .start (.desk (.returns (returnCommand key (.finalizeReturn 60))))

/-- A day of one sale, one return and one delivery. -/
def wholeDay : List (Event (CounterChoice ProviderAnswer) StockDeskTask) :=
  served (ClosedShifts.closedDay 6000) ++ finalizes 105 :: counterSteps 20 1000 ++ delivery 106 :: counterSteps 8 1100

/-- The hub goes down when the delivery has been written. -/
def lostDelivery : List (Event (CounterChoice ProviderAnswer) StockDeskTask) :=
  delivery 100 :: counterSteps 2 500 ++ [.drop 0]

/-- A return is finalized by two commands at once. -/
def finalizedTwice : List (Event (CounterChoice ProviderAnswer) StockDeskTask) :=
  finalizes 100 :: finalizes 101 :: (List.range 40).map fun step => .step (step % 2) (counterChoice step (500 + step))

private theorem submittedOnce_nil : SubmittedOnce [] [] :=
  ⟨fun _ impossible => (nomatch impossible), fun _ impossible => (nomatch impossible)⟩

theorem freshDesk_opening : Opening freshDesk :=
  ⟨⟨⟨by decide, submittedOnce_nil, submittedOnce_nil⟩, by decide, submittedOnce_nil, by decide⟩, submittedOnce_nil⟩

theorem day_reported :
    let after := ((stockDesk shop byBits contractual).run (Pool.quiet freshDesk) wholeDay).world
    storedMovements after = [.random 1101] ∧ EverySubmitted after := by
  have reported := (every_fact_submitted shop byBits contractual freshDesk freshDesk_opening wholeDay
    (by decide +kernel)).2
  have quiet : ∀ request ∈ ((stockDesk shop byBits contractual).run (Pool.quiet freshDesk) wholeDay).pending,
      awaited request = none := by decide +kernel
  have moved : storedMovements ((stockDesk shop byBits contractual).run (Pool.quiet freshDesk) wholeDay).world =
      [.random 1101] := by decide +kernel
  exact ⟨moved, reported.mpr quiet⟩

/-- A movement that is written before a crash is never reported. A return that is finalized,
or a shift that is closed, by two commands at once is reported twice. -/
theorem facts_lost_and_doubled :
    (¬∀ (world : StockDeskWorld RemotePayments) (events : List (Event (CounterChoice ProviderAnswer) StockDeskTask)),
      Opening world → MovementsSubmitted ((stockDesk shop byBits contractual).run (Pool.quiet world) events).world) ∧
    (¬∀ (world : StockDeskWorld RemotePayments) (events : List (Event (CounterChoice ProviderAnswer) StockDeskTask)),
      Opening world →
        let after := ((stockDesk shop byBits contractual).run (Pool.quiet world) events).world
        SubmittedOnce (finalizedReturns after.desk.counter.hub.db.returns)
          (after.desk.counter.submissions.map ReturnSubmission.returnId)) ∧
    ¬∀ (world : StockDeskWorld RemotePayments) (events : List (Event (CounterChoice ProviderAnswer) StockDeskTask)),
      Opening world → ShiftsSubmitted ((stockDesk shop byBits contractual).run (Pool.quiet world) events).world.desk := by
  refine ⟨fun all => ?_, fun all => ?_, fun all => ?_⟩
  · have submitted := all freshDesk lostDelivery freshDesk_opening
    have stored : storedMovements ((stockDesk shop byBits contractual).run (Pool.quiet freshDesk) lostDelivery).world =
        [.random 501] := by decide +kernel
    have moved : movedStock ((stockDesk shop byBits contractual).run (Pool.quiet freshDesk) lostDelivery).world = [] := by
      decide +kernel
    unfold MovementsSubmitted at submitted
    rw [stored, moved] at submitted
    exact absurd (submitted.once (.random 501) (List.mem_singleton_self _)) (by decide)
  · have submitted := all freshDesk finalizedTwice freshDesk_opening
    have twice : ((stockDesk shop byBits contractual).run (Pool.quiet freshDesk)
        finalizedTwice).world.desk.counter.submissions.map ReturnSubmission.returnId = [60, 60] := by decide +kernel
    dsimp only at submitted
    rw [twice] at submitted
    exact absurd (submittedOnce_iff.mp submitted).1 (by decide)
  · have submitted := all freshDesk (served ClosedShifts.closedTwice) freshDesk_opening
    have twice : ClosedShifts.reportedShifts ((stockDesk shop byBits contractual).run (Pool.quiet freshDesk)
        (served ClosedShifts.closedTwice)).world.desk = [502, 502] := by decide +kernel
    unfold ShiftsSubmitted at submitted
    rw [twice] at submitted
    exact absurd (submittedOnce_iff.mp submitted).1 (by decide)

end Samples
end ApexEdge.Proofs.Submissions
