import ApexEdge.Library.Totals
import ApexEdge.Proofs.ReceiptedReturns
import ApexEdge.Proofs.ShiftConduct

/-! What a till is expected to hold against what its drawer holds. A tender counts in full,
although change was given on it; a cash tender that was not named so does not count; and
neither does a refund before its return is finalized. -/

namespace ApexEdge.Proofs.DrawerCash
open Library Payment Domain Storage Contracts Hub
open ShiftConduct

section Drawer
variable {Remote : Type}

/-- The payment is one in cash: its reference says so, or the cash provider took it. -/
def isCashPayment (payment : NewOrderPaymentEntry) : Bool :=
  paymentTenderType payment.externalReference = "cash" ∨ payment.provider = some cashProvider

def paidCents (counts : NewOrderPaymentEntry → Bool) (order : NewOrderLedgerEntry) : Nat :=
  ((order.payments.filter counts).map NewOrderPaymentEntry.amountCents).sum

/-- What was tendered beyond the total is given back from the cash. -/
def changeGiven (order : NewOrderLedgerEntry) : Nat :=
  min (paidCents (fun _ => true) order - order.totalCents) (paidCents isCashPayment order)

/-- A cash payment that the ledger types otherwise. -/
def isUnnamedCash (payment : NewOrderPaymentEntry) : Bool := isCashPayment payment ∧ !isCash payment.tenderType

def overOrders (amount : NewOrderLedgerEntry → Nat) (shiftId : Uuid) (orders : List NewOrderLedgerEntry) : Nat :=
  ((orders.filter (·.shiftId = some shiftId)).map amount).sum

def isReturnOn (shiftId returnId : Uuid) (tables : ReturnTables) : Bool :=
  tables.returns.any fun row => row.id = returnId ∧ row.shiftId = some shiftId

def refundCents (rows : List RefundRow) : Nat := (rows.map RefundRow.amountCents).sum

/-- Cash that was paid out on returns of the shift. -/
def cashRefunded (shiftId : Uuid) (tables : ReturnTables) : List RefundRow :=
  tables.refunds.filter fun refund => isCash refund.tenderType ∧ isReturnOn shiftId refund.returnId tables

/-- The part of it that is on returns not finalized. -/
def unfinishedRefunds (shiftId : Uuid) (tables : ReturnTables) : List RefundRow :=
  (cashRefunded shiftId tables).filter fun refund => !Returns.isFinalizedOn shiftId refund.returnId tables

def movements (shiftId : Uuid) (tables : ShiftTables) : List CashMovement :=
  (Shifts.listMovements shiftId tables).map ShiftMovementRow.movement

/-- Opening float, cash taken less change, refunds, and what was paid in and out. -/
def drawerCents (world : ShiftWorld Remote) (shift : ShiftRow) : Int :=
  shift.openingFloatCents +
    (overOrders (paidCents isCashPayment) shift.id world.counter.hub.db.orders -
      overOrders changeGiven shift.id world.counter.hub.db.orders) -
    refundCents (cashRefunded shift.id world.counter.hub.db.returns) +
    ((movements shift.id world.shifts).map CashMovement.effect).sum

/-- The figures that the code adds up are within a signed word of 64 bits together. -/
def InRange (world : ShiftWorld Remote) (shift : ShiftRow) : Prop :=
  shift.openingFloatCents + overOrders (paidCents (isCash ·.tenderType)) shift.id world.counter.hub.db.orders +
    refundCents (Returns.cashRefunds shift.id world.counter.hub.db.returns) +
    ((movements shift.id world.shifts).map CashMovement.amountCents).sum < 2 ^ 63

/-- Change was given, or cash refunded on unfinished returns, for as much as cash was taken
that the ledger does not call cash. -/
def Evens (world : ShiftWorld Remote) (shift : ShiftRow) : Prop :=
  overOrders changeGiven shift.id world.counter.hub.db.orders +
      refundCents (unfinishedRefunds shift.id world.counter.hub.db.returns) =
    overOrders (paidCents isUnnamedCash) shift.id world.counter.hub.db.orders

instance (world : ShiftWorld Remote) (shift : ShiftRow) : Decidable (InRange world shift) :=
  inferInstanceAs (Decidable (_ < _))

instance (world : ShiftWorld Remote) (shift : ShiftRow) : Decidable (Evens world shift) :=
  inferInstanceAs (Decidable (_ = _))

end Drawer

section Sums

theorem overOrders_add (first second : NewOrderLedgerEntry → Nat) (shiftId : Uuid) (orders : List NewOrderLedgerEntry) :
    overOrders (fun order => first order + second order) shiftId orders =
      overOrders first shiftId orders + overOrders second shiftId orders := by
  unfold overOrders
  exact List.sum_map_add

theorem overOrders_congr {first second : NewOrderLedgerEntry → Nat} {shiftId : Uuid} {orders : List NewOrderLedgerEntry}
    (same : ∀ order ∈ orders, first order = second order) :
    overOrders first shiftId orders = overOrders second shiftId orders := by
  unfold overOrders
  rw [List.map_congr_left fun order member => same order (List.mem_of_mem_filter member)]

/-- The ledger's tender types are lower case. -/
theorem isCash_paymentTenderType (reference : Option String) :
    isCash (paymentTenderType reference) = decide (paymentTenderType reference = "cash") := by
  unfold paymentTenderType
  split
  · decide +kernel
  · split
    · decide +kernel
    · split
      · decide +kernel
      · split <;> decide +kernel

/-- Cash is what the ledger calls so, and what it does not. -/
theorem paidCents_cash {order : NewOrderLedgerEntry} (typed : ∀ payment ∈ order.payments, Typed payment) :
    paidCents isCashPayment order = paidCents (isCash ·.tenderType) order + paidCents isUnnamedCash order := by
  have named : order.payments.filter (fun payment => isCashPayment payment ∧ isCash payment.tenderType) =
      order.payments.filter (isCash ·.tenderType) := by
    refine List.filter_congr fun payment member => ?_
    rw [typed payment member, isCash_paymentTenderType]
    by_cases cash : paymentTenderType payment.externalReference = "cash" <;> simp [isCashPayment, cash]
  have split := Table.sum_split isCashPayment (isCash ·.tenderType) NewOrderPaymentEntry.amountCents order.payments
  rw [named] at split
  exact split.symm

/-- What is refunded is finalized, or is not yet. -/
theorem refunded_split (shiftId : Uuid) (tables : ReturnTables) :
    refundCents (cashRefunded shiftId tables) =
      refundCents (Returns.cashRefunds shiftId tables) + refundCents (unfinishedRefunds shiftId tables) := by
  have finalized_on {returnId : Uuid} (finalized : Returns.isFinalizedOn shiftId returnId tables = true) :
      isReturnOn shiftId returnId tables = true := by
    obtain ⟨row, member, found⟩ := List.any_eq_true.mp finalized
    have found := of_decide_eq_true found
    exact List.any_eq_true.mpr ⟨row, member, decide_eq_true ⟨found.1, found.2.1⟩⟩
  have counted : Returns.cashRefunds shiftId tables =
      tables.refunds.filter fun refund => (isCash refund.tenderType ∧ isReturnOn shiftId refund.returnId tables) ∧
        Returns.isFinalizedOn shiftId refund.returnId tables := by
    refine List.filter_congr fun refund _ => ?_
    cases finalized : Returns.isFinalizedOn shiftId refund.returnId tables
    · simp
    · simp [finalized_on finalized]
  have split := Table.sum_split
    (fun refund : RefundRow => isCash refund.tenderType ∧ isReturnOn shiftId refund.returnId tables)
    (fun refund => Returns.isFinalizedOn shiftId refund.returnId tables) RefundRow.amountCents tables.refunds
  unfold unfinishedRefunds cashRefunded
  rw [counted, List.filter_filter]
  simpa [refundCents, Bool.and_comm] using split.symm

theorem cashPayments_sum (shiftId : Uuid) (orders : List NewOrderLedgerEntry) :
    ((Orders.cashPayments shiftId orders).map NewOrderPaymentEntry.amountCents).sum =
      overOrders (paidCents (isCash ·.tenderType)) shiftId orders := by
  unfold Orders.cashPayments overOrders
  induction orders.filter (·.shiftId = some shiftId) with
  | nil => rfl
  | cons order orders ih =>
    rw [List.flatMap_cons, List.map_append, List.sum_append, ih, List.map_cons, List.sum_cons]
    rfl

theorem effects_bound (rows : List CashMovement) :
    -((rows.map CashMovement.amountCents).sum : Int) ≤ (rows.map CashMovement.effect).sum ∧
      (rows.map CashMovement.effect).sum ≤ (rows.map CashMovement.amountCents).sum := by
  induction rows with
  | nil => simp
  | cons row rows ih =>
    have own := row.effect_bounds
    simp only [List.map_cons, List.sum_cons, Nat.cast_add] at ih ⊢
    omega

end Sums

section Figures
variable {Remote Answer : Type} {rank : Uuid → Nat} {providers : Providers Remote Answer}

/-- What the rows of a shift come to, when they can be summed up. -/
def figures (world : ShiftWorld Remote) (shiftId : Uuid) : TillFigures :=
  { movements := movements shiftId world.shifts
    cashSalesCents := overOrders (paidCents (isCash ·.tenderType)) shiftId world.counter.hub.db.orders
    cashRefundsCents := refundCents (Returns.cashRefunds shiftId world.counter.hub.db.returns) }

theorem sumColumn_small {Row : Type} {rows : List Row} (amount : Row → Nat) (small : (rows.map amount).sum < 2 ^ 63) :
    (Returns.sumColumn (rows.map fun row => asI64 (amount row))).map Int.toNat = .ok (rows.map amount).sum := by
  rw [Entitlements.sumColumn_eq amount small]
  rfl

/-- In a state that is left alone meanwhile, the program reads the figures of the shift. -/
theorem movementsAndExpected_run {header : CommandHeader} {choice : CounterChoice Answer}
    (works : choice.hub.storageFailure = none) {world : ShiftWorld Remote} {shift : ShiftRow}
    (small : InRange world shift) :
    (movementsAndExpected header shift.id).run (performAtShiftDesk rank providers choice) world =
      (.ok (figures world shift.id), world) := by
  have sales : Orders.cashSalesCentsForShift shift.id world.counter.hub.db.orders =
      .ok (overOrders (paidCents (isCash ·.tenderType)) shift.id world.counter.hub.db.orders) := by
    rw [← cashPayments_sum]
    refine sumColumn_small NewOrderPaymentEntry.amountCents ?_
    rw [cashPayments_sum]
    unfold InRange at small
    omega
  have refunds : Returns.cashRefundsCentsForShift shift.id world.counter.hub.db.returns =
      .ok (refundCents (Returns.cashRefunds shift.id world.counter.hub.db.returns)) := by
    refine sumColumn_small RefundRow.amountCents ?_
    unfold InRange refundCents at small
    omega
  unfold movementsAndExpected
  rw [Fallible.run_bind_ok _ (.ok (Shifts.listMovements shift.id world.shifts)) world]
  rw [Fallible.run_bind_ok _ (.ok (overOrders (paidCents (isCash ·.tenderType)) shift.id world.counter.hub.db.orders)) world]
  rw [Fallible.run_bind_ok _ (.ok (refundCents (Returns.cashRefunds shift.id world.counter.hub.db.returns))) world]
  · rfl
  · simp only [shiftReply, Fallible.run_ask, performAtShiftDesk, queryShifts, works, refunds]
  · simp only [shiftReply, Fallible.run_ask, performAtShiftDesk, queryShifts, works, sales]
  · simp only [shiftReply, Fallible.run_ask, performAtShiftDesk, queryShifts, works]

theorem expectedCents_figures {world : ShiftWorld Remote} {shift : ShiftRow} (small : InRange world shift) :
    (TillReading.mk shift (figures world shift.id)).expectedCents =
      shift.openingFloatCents + overOrders (paidCents (isCash ·.tenderType)) shift.id world.counter.hub.db.orders -
        refundCents (Returns.cashRefunds shift.id world.counter.hub.db.returns) +
        ((movements shift.id world.shifts).map CashMovement.effect).sum := by
  have bounds := effects_bound (movements shift.id world.shifts)
  unfold TillReading.expectedCents
  rw [expectedCashCents_eq]
  refine wrapI64_of_fits ?_
  unfold InRange at small
  simp only [figures]
  generalize ((movements shift.id world.shifts).map CashMovement.effect).sum = effects at bounds ⊢
  unfold FitsI64
  omega

/-- The figures agree with the drawer when what is missing from them evens out. -/
theorem expected_drawer {world : ShiftWorld Remote} {shift : ShiftRow}
    (typed : ∀ order ∈ world.counter.hub.db.orders, ∀ payment ∈ order.payments, Typed payment)
    (small : InRange world shift) :
    (TillReading.mk shift (figures world shift.id)).expectedCents = drawerCents world shift ↔ Evens world shift := by
  have cash : overOrders (paidCents isCashPayment) shift.id world.counter.hub.db.orders =
      overOrders (paidCents (isCash ·.tenderType)) shift.id world.counter.hub.db.orders +
        overOrders (paidCents isUnnamedCash) shift.id world.counter.hub.db.orders := by
    rw [← overOrders_add]
    exact overOrders_congr fun order member => paidCents_cash (typed order member)
  rw [expectedCents_figures small]
  unfold drawerCents Evens
  rw [cash, refunded_split]
  generalize ((movements shift.id world.shifts).map CashMovement.effect).sum = effects
  omega

end Figures

section Run
variable {Remote Answer : Type} {rank : Uuid → Nat} {providers : Providers Remote Answer}

/-- Only one statement of the counter writes orders. -/
theorem orders_after (choice : CounterChoice Answer) (world : CounterWorld Remote) (request : CounterRequest) :
    (performAtCounter rank providers choice world request).2.hub.db.orders = world.hub.db.orders ∨
      ∃ entry outboxId, request.call = .hub (.insertOrderLedgerEntryWithOutbox entry outboxId) ∧
        Orders.write entry world.hub.db.orders =
          .ok (performAtCounter rank providers choice world request).2.hub.db.orders := by
  obtain ⟨frame, adding, restocks, call⟩ := request
  have onReturns (write : ReturnTables → Except PoolError ReturnTables) :
      (transactReturns choice world write).2.hub.db.orders = world.hub.db.orders := by
    unfold transactReturns
    split
    · rfl
    · split <;> rfl
  cases call with
  | hub call =>
    have changed := StepEffects.perform_db providers choice.hub world.hub ⟨frame, call⟩
    simp only [performAtCounter]
    generalize (perform providers choice.hub world.hub ⟨frame, call⟩).2.db = db at changed ⊢
    cases changed
    case ordered entry outboxId orders outbox asked written queued =>
      exact .inr ⟨entry, outboxId, congrArg CounterCall.hub asked, written⟩
    all_goals exact .inl rfl
  | finalizeReturnRowWithOutbox id submissionId =>
    simp only [performAtCounter, finalizeWithOutbox]
    split
    · exact .inl rfl
    · split <;> exact .inl rfl
  | applyLocalDelta storeId itemId delta =>
    simp only [performAtCounter, putBack]
    split <;> exact .inl rfl
  | voidReturnRow id =>
    have same := onReturns (Returns.voidRow id)
    simp only [performAtCounter, voidRow]
    generalize transactReturns choice world (Returns.voidRow id) = outcome at same ⊢
    obtain ⟨answer, after⟩ := outcome
    cases answer <;> exact .inl same
  | insertReturn new => exact .inl (onReturns _)
  | addReceiptedReturnLine input => exact .inl (onReturns _)
  | insertReturnLine line => exact .inl (onReturns _)
  | updateReturnTotals id totalCents taxCents refundedCents state => exact .inl (onReturns _)
  | _ => exact .inl rfl

/-- Every payment in the ledger is typed by its reference. -/
def AllTyped (world : ShiftWorld Remote) : Prop :=
  ∀ order ∈ world.counter.hub.db.orders, ∀ payment ∈ order.payments, Typed payment

def typing (rank : Uuid → Nat) (providers : Providers Remote Answer) :
    Rules ShiftRequest ShiftRequest.Reply (ShiftWorld Remote) (CounterChoice Answer) :=
  { perform := performAtShiftDesk rank providers
    condition := .always
    invariant := AllTyped
    interference := fun _ _ => True
    grants := fun _ => Proper }

theorem typing_assured : (typing rank providers : Rules _ _ _ (CounterChoice Answer)).Assured where
  refl := fun _ => trivial
  trans := fun _ _ => trivial
  step := by
    intro choice world others request typed proper _
    refine ⟨?_, trivial⟩
    cases request with
    | counter request =>
      simp only [typing, performAtShiftDesk, AllTyped]
      rcases orders_after (choice.knowing world.shifts) world.counter request with same | ⟨entry, outboxId, asked, written⟩
      · rw [same]
        exact typed
      · have entered : ∀ payment ∈ entry.payments, Typed payment := by
          have quiet : Quiet request := proper
          simpa only [Quiet, Proper, asked, Orderly] using quiet
        generalize (performAtCounter rank providers (choice.knowing world.shifts) world.counter request).2.hub.db.orders =
          orders at written ⊢
        unfold Orders.write at written
        split at written
        · cases written
        · cases written
          intro order member
          rcases Table.mem_upsert member with rfl | old | ⟨old, present, rfl⟩
          · exact entered
          · exact typed order old
          · exact entered
    | till key closing call =>
      have same : (performAtShiftDesk rank providers choice world (.till key closing call)).2.counter = world.counter := by
        cases call
        case closeShiftWithOutbox id written outboxId payload =>
          simp only [performAtShiftDesk, closeWithOutbox]
          split
          · rfl
          · split <;> rfl
        case openShift new =>
          simp only [performAtShiftDesk, transactShifts]
          split
          · rfl
          · split <;> rfl
        case insertShiftMovement new =>
          simp only [performAtShiftDesk, transactShifts]
          split
          · rfl
          · split <;> rfl
        all_goals
          simp only [performAtShiftDesk, queryShifts]
          split <;> rfl
      simp only [typing, AllTyped, same]
      exact typed

/-- Wherever sales, refunds and movements have led to, the expected cash is what the drawer
holds exactly when what it misses evens out. -/
theorem expected_cash_iff (app : AppState) (rank : Uuid → Nat) (providers : Providers Remote Answer)
    (world : ShiftWorld Remote) (typed : AllTyped world) (events : List (Event (CounterChoice Answer) DeskTask))
    (header : CommandHeader) (choice : CounterChoice Answer) (works : choice.hub.storageFailure = none) :
    let after := ((shiftDesk app rank providers).run (Pool.quiet world) events).world
    ∀ shift ∈ after.shifts.shifts, InRange after shift →
      ∃ figures, (movementsAndExpected header shift.id).run (performAtShiftDesk rank providers choice) after =
          (.ok figures, after) ∧
        ((TillReading.mk shift figures).expectedCents = drawerCents after shift ↔ Evens after shift) := by
  intro after shift _ small
  have reached : AllTyped after :=
    Rules.reached typing_assured rfl typed
      (fun task _ world => Rules.safe_of_asks (fun _ _ proper => proper) (deskTask_asks app task) world)
      (Condition.runMeets_always events)
  exact ⟨figures after shift.id, movementsAndExpected_run works small, expected_drawer reached small⟩

end Run

section Samples
open Attempts ReceiptedReturns

def shiftHeader (key : Uuid) : CommandHeader := ⟨.v1_0_0, key, 1, 2⟩

/-- A hub with one cart, and no shift yet. -/
def freshTill : ShiftWorld RemotePayments :=
  { counter := { counterWith ⟨[], [], [], []⟩ with hub := opening }, shifts := ⟨[], []⟩, reports := [] }

def tillCommand (key : Uuid) (command : ShiftCommand) : DeskTask := .till ⟨none, shiftHeader key, command⟩

def posCommand (key : Uuid) (payload : PosCommand) : DeskTask := .pos none ⟨.v1_0_0, key, 1, 2, payload⟩

def cashTender (cents : Nat) : PosCommand :=
  .addPayment ⟨10, 20, cents, 0, some "cash", none, none, none⟩

/-- A till is opened with 50.00, and a basket of 10.00 paid in cash. -/
def cashSale (cents : Nat) : List (Event (CounterChoice ProviderAnswer) DeskTask) :=
  .start (tillCommand 100 (.openTill ⟨none, none, 5000⟩)) :: counterSteps 10 500 ++
    .start (posCommand 101 (cashTender cents)) :: counterSteps 10 600 ++
    .start (posCommand 102 (.finalizeOrder ⟨10⟩)) :: counterSteps 20 700

def openedShift : ShiftRow := ⟨502, 1, 2, none, .open, 5000, none, none, none, 3, none⟩

theorem exact_cash_expected :
    let after := ((shiftDesk shop byBits contractual).run (Pool.quiet freshTill) (cashSale 1000)).world
    drawerCents after openedShift = 6000 ∧
      ∃ figures, (movementsAndExpected (shiftHeader 103) 502).run
          (performAtShiftDesk byBits contractual (counterChoice 9 900)) after = (.ok figures, after) ∧
        (TillReading.mk openedShift figures).expectedCents = 6000 := by
  have all := expected_cash_iff shop byBits contractual freshTill (fun _ impossible => nomatch impossible)
    (cashSale 1000) (shiftHeader 103) (counterChoice 9 900) rfl
  have stored : openedShift ∈ ((shiftDesk shop byBits contractual).run (Pool.quiet freshTill)
      (cashSale 1000)).world.shifts.shifts := by decide +kernel
  have small : InRange ((shiftDesk shop byBits contractual).run (Pool.quiet freshTill) (cashSale 1000)).world openedShift := by
    decide +kernel
  have evens : Evens ((shiftDesk shop byBits contractual).run (Pool.quiet freshTill) (cashSale 1000)).world openedShift := by
    decide +kernel
  have drawer : drawerCents ((shiftDesk shop byBits contractual).run (Pool.quiet freshTill) (cashSale 1000)).world
      openedShift = 6000 := by decide +kernel
  dsimp only at all ⊢
  generalize ((shiftDesk shop byBits contractual).run (Pool.quiet freshTill) (cashSale 1000)).world = after
    at all stored small evens drawer ⊢
  obtain ⟨figures, read, agrees⟩ := all openedShift stored small
  exact ⟨drawer, figures, read, (agrees.mpr evens).trans drawer⟩

/-- 20.00 tendered for 10.00: the drawer has 10.00 more than before, 20.00 are expected. -/
theorem change_counted_as_cash :
    ¬∀ (world : ShiftWorld RemotePayments) (events : List (Event (CounterChoice ProviderAnswer) DeskTask)),
      AllTyped world →
        let after := ((shiftDesk shop byBits contractual).run (Pool.quiet world) events).world
        ∀ shift ∈ after.shifts.shifts, InRange after shift →
          ∀ figures, (movementsAndExpected (shiftHeader 103) shift.id).run
              (performAtShiftDesk byBits contractual (counterChoice 9 900)) after = (.ok figures, after) →
            (TillReading.mk shift figures).expectedCents = drawerCents after shift := by
  intro all
  have right := all freshTill (cashSale 2000) fun _ impossible => nomatch impossible
  have stored : openedShift ∈ ((shiftDesk shop byBits contractual).run (Pool.quiet freshTill)
      (cashSale 2000)).world.shifts.shifts := by decide +kernel
  have small : InRange ((shiftDesk shop byBits contractual).run (Pool.quiet freshTill) (cashSale 2000)).world openedShift := by
    decide +kernel
  have drawer : drawerCents ((shiftDesk shop byBits contractual).run (Pool.quiet freshTill) (cashSale 2000)).world
      openedShift = 6000 := by decide +kernel
  have expected : (TillReading.mk openedShift (figures ((shiftDesk shop byBits contractual).run (Pool.quiet freshTill)
      (cashSale 2000)).world 502)).expectedCents = 7000 := by decide +kernel
  dsimp only at right
  generalize ((shiftDesk shop byBits contractual).run (Pool.quiet freshTill) (cashSale 2000)).world = after
    at right stored small drawer expected
  have same := right openedShift stored small _ (movementsAndExpected_run rfl small)
  have clash : (7000 : Int) = 6000 := expected.symm.trans (same.trans drawer)
  omega

end Samples
end ApexEdge.Proofs.DrawerCash
