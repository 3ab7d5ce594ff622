import ApexEdge.Hub.ShiftDesk
import ApexEdge.Proofs.Conformance

/-! What the programs of a till ask for: orders whose payments are typed by their references,
and closings that write what was read of an open shift. -/

namespace ApexEdge.Proofs.ShiftConduct
open Library Payment Domain Storage Contracts Hub
open Fallible

/-- A payment's tender type is the one that its reference stands for. -/
def Typed (payment : NewOrderPaymentEntry) : Prop := payment.tenderType = paymentTenderType payment.externalReference

def Orderly (call : Call) : Prop :=
  match call with
  | .insertOrderLedgerEntryWithOutbox entry _ => ∀ payment ∈ entry.payments, Typed payment
  | _ => True

/-- A shift is closed with what was read of it, and was open then. -/
structure Closes (id : Uuid) (written : ShiftClosing) (payload : HqShiftPayload) (reading : TillReading) : Prop where
  shift : reading.shift.id = id
  open_then : reading.shift.state = .open
  expected : written.expectedCents = reading.expectedCents
  reported : payload.shiftId = id

def Proper (request : ShiftRequest) : Prop :=
  match request with
  | .counter request =>
    match request.call with
    | .hub call => Orderly call
    | _ => True
  | .till _ closing call =>
    match call with
    | .closeShiftWithOutbox id written _ payload => ∃ reading, closing = some reading ∧ Closes id written payload reading
    | _ => True

/-- Proper requests that neither look an approval up nor may need one. -/
def Plain (request : ShiftRequest) : Prop :=
  match request with
  | .counter request =>
    match request.call with
    | .hub call => Orderly call
    | .insertReturn _ | .fetchApproval _ => False
    | _ => True
  | .till _ _ call =>
    match call with
    | .insertShiftMovement _ | .closeShiftWithOutbox .. => False
    | _ => True

theorem Plain.proper {request : ShiftRequest} (plain : Plain request) : Proper request := by
  rcases request with ⟨_, _, _, call⟩ | ⟨_, _, call⟩
  · cases call <;> first | exact plain | trivial
  · cases call <;> first | exact plain.elim | trivial

section Counter

/-- Requests of the return counter that insert no order. -/
def Quiet (request : CounterRequest) : Prop := Proper (.counter request)

def PlainHere (request : CounterRequest) : Prop := Plain (.counter request)

theorem PlainHere.quiet {request : CounterRequest} (plain : PlainHere request) : Quiet request := Plain.proper plain

private theorem askCall {ε : Type} {frame : Frame} {call : Call} (orderly : Orderly call) :
    Program.Asks (fun request : Request => Orderly request.call) (reply frame call : Action ε call.Reply) :=
  asks_ask orderly

theorem atCounter_asks {α : Type} {program : Command α}
    (asks : program.Asks fun request : Request => Orderly request.call) : (atCounter program).Asks PlainHere := by
  have plain : program.Asks fun request => PlainHere (.ofHub request) := asks
  exact plain.embed

theorem loadSnapshot_asks (frame : Frame) (id : Uuid) :
    Program.Asks (fun request : Request => Orderly request.call) (loadSnapshot frame id) := by
  refine asks_andThen (asks_orThrow (askCall trivial)) fun found => ?_
  cases found with
  | none => trivial
  | some row =>
    refine asks_andThen (asks_orThrow (askCall trivial)) fun lines => ?_
    exact asks_andThen (asks_orThrow (askCall trivial)) fun _ => trivial

theorem prepareRefund_asks (frame : Frame) (refund : RefundRow) :
    Program.Asks (fun request : Request => Orderly request.call) (prepareRefund frame refund) := by
  refine asks_andThen (asks_orThrow (askCall trivial)) fun _ => ?_
  refine asks_andThen (asks_orThrow (askCall trivial)) fun reserved => ?_
  cases reserved with
  | none => trivial
  | some reserved =>
    dsimp only
    split
    · exact asks_orThrow (askCall trivial)
    · trivial

theorem refundThroughProvider_asks (app : AppState) (frame : Frame) (originalOrderId : Option Uuid) (tenderType : String)
    (amountCents : Nat) (envelopeKey refundId : Uuid) :
    Program.Asks (fun request : Request => Orderly request.call)
      (refundThroughProvider app frame originalOrderId tenderType amountCents envelopeKey refundId) := by
  unfold refundThroughProvider
  cases app.resolve (some tenderType) with
  | manualTender => trivial
  | unknown code => trivial
  | provider provider =>
    dsimp only
    split
    · trivial
    · cases originalOrderId with
      | none => trivial
      | some orderId =>
        refine asks_andThen (asks_orThrow (askCall trivial)) fun found => ?_
        cases found with
        | none => trivial
        | some order =>
          dsimp only
          cases refundablePayment provider order with
          | none => trivial
          | some paymentId => exact asks_andThen (askCall trivial) fun answer => by cases answer <;> trivial

theorem refundTender_asks (app : AppState) (envelope : PosRequestEnvelope) (p : RefundTenderPayload) :
    Program.Asks (fun request : Request => Orderly request.call) (refundTender app envelope p) := by
  refine asks_andThen (loadSnapshot_asks ..) fun snapshot => ?_
  split
  · trivial
  · refine asks_andThen (asks_mapError (prepareRefund_asks ..)) fun recorded => ?_
    refine asks_andThen ?_ fun _ => asks_andThen (loadSnapshot_asks ..) fun _ => trivial
    unfold completeRefund
    dsimp only
    split
    · trivial
    · exact asks_andThen (asks_mapError (refundThroughProvider_asks ..)) fun _ => asks_orThrow (askCall trivial)

variable {header : CommandHeader}

private theorem askCounter {ε : Type} {frame : Frame} {call : CounterCall}
    {allowed : CounterRequest → Prop} (granted : ∀ adding restocks, allowed ⟨frame, adding, restocks, call⟩) :
    Program.Asks allowed (counterReply frame call : CounterAction ε call.Reply) := asks_ask (granted _ _)

theorem loadReturn_asks (id : Uuid) : Program.Asks PlainHere (loadReturn header id) :=
  atCounter_asks (loadSnapshot_asks ..)

theorem startReturn_asks (p : StartReturnPayload) : Program.Asks Quiet (startReturn header p) := by
  refine asks_andThen ?_ fun _ => asks_andThen ?_ fun returnId => ?_
  · unfold ensureApproved
    split
    · trivial
    · trivial
    · refine asks_andThen (askCounter fun _ _ => trivial) fun approval => ?_
      rcases approval with error | none | state
      · trivial
      · trivial
      · cases state <;> trivial
  · unfold chooseReturnId
    cases p.returnId with
    | none => exact askCounter fun _ _ => trivial
    | some id => trivial
  · refine asks_andThen (asks_orThrow (askCounter fun _ _ => trivial)) fun _ => ?_
    exact asks_andThen ((loadReturn_asks _).mono fun _ => PlainHere.quiet) fun _ => trivial

theorem returnLineItem_asks (p : ReturnLineItemPayload) : Program.Asks PlainHere (returnLineItem header p) := by
  refine asks_andThen (loadReturn_asks _) fun snapshot => ?_
  split
  · trivial
  · split
    · refine asks_andThen (askCounter fun _ _ => trivial) fun lineId => ?_
      refine asks_andThen (asks_orThrow (askCounter fun _ _ => trivial)) fun _ => ?_
      exact asks_andThen (loadReturn_asks _) fun _ => trivial
    · refine asks_andThen (askCounter fun _ _ => trivial) fun lineId => ?_
      dsimp only
      cases snapshot.addLine (blindLine lineId p) with
      | error message => trivial
      | ok extended =>
        refine asks_andThen (asks_orThrow (asks_ask trivial)) fun _ => ?_
        exact asks_andThen (asks_orThrow (asks_ask trivial)) fun _ => trivial

theorem restockLines_asks (storeId returnId : Uuid) (lines : List ReturnLineRow) :
    Program.Asks PlainHere (restockLines header storeId returnId lines) := by
  induction lines with
  | nil => trivial
  | cons line rest ih =>
    refine asks_andThen (asks_ask trivial) fun found => ?_
    rcases found with error | none | itemId
    · exact ih
    · exact ih
    · exact asks_andThen (asks_ask trivial) fun _ => ih

theorem finalizeReturn_asks (id : Uuid) : Program.Asks PlainHere (finalizeReturn header id) := by
  refine asks_andThen (loadReturn_asks _) fun snapshot => ?_
  cases snapshot.finalize with
  | error message => trivial
  | ok finalized =>
    refine asks_andThen (asks_orThrow (askCounter fun _ _ => trivial)) fun fiscal => ?_
    refine asks_andThen (asks_orThrow (askCounter fun _ _ => trivial)) fun _ => ?_
    refine asks_andThen (askCounter fun _ _ => trivial) fun submissionId => ?_
    refine asks_andThen (asks_orThrow (askCounter fun _ _ => trivial)) fun _ => ?_
    exact asks_andThen (restockLines_asks ..) fun _ => trivial

theorem voidReturn_asks (id : Uuid) : Program.Asks PlainHere (voidReturn header id) := by
  refine asks_andThen (loadReturn_asks _) fun snapshot => ?_
  cases snapshot.void with
  | error message => trivial
  | ok voided => exact asks_andThen (asks_orThrow (askCounter fun _ _ => trivial)) fun _ => trivial

theorem executeReturnCommand_asks (app : AppState) (command : ReturnCommand) :
    Program.Asks Quiet (executeReturnCommand app header command) := by
  cases command with
  | startReturn p => exact startReturn_asks p
  | returnLineItem p => exact (returnLineItem_asks p).mono fun _ => PlainHere.quiet
  | refundTender p => exact (atCounter_asks (refundTender_asks ..)).mono fun _ => PlainHere.quiet
  | finalizeReturn id => exact (finalizeReturn_asks id).mono fun _ => PlainHere.quiet
  | voidReturn id => exact (voidReturn_asks id).mono fun _ => PlainHere.quiet

theorem returnTask_asks (app : AppState) (task : ReturnTask) : (task.program app).Asks Quiet := by
  have executes : Program.Asks Quiet
      (Program.bind (executeReturnCommand app task.header task.command) task.answered) := by
    refine Program.Asks.bind (executeReturnCommand_asks ..) fun result => ?_
    cases result with
    | error errors => trivial
    | ok payload => exact ⟨trivial, fun _ => trivial⟩
  obtain ⟨error, refused⟩ | ⟨_, next, runs, goesOn⟩ := task.program_cases app
  · rw [refused]
    trivial
  · rw [runs]
    refine ⟨trivial, fun stored => ?_⟩
    obtain ⟨replayed, replays⟩ | went := goesOn stored
    · rw [replays]
      trivial
    · rw [went]
      exact executes

end Counter

section Till
variable {header : CommandHeader}

private theorem askTill {allowed : ShiftRequest → Prop} {call : ShiftCall}
    (granted : ∀ key, allowed (.till key none call)) :
    Program.Asks allowed (shiftReply header call) := asks_ask (granted _)

private theorem askDesk {allowed : ShiftRequest → Prop} {call : CounterCall}
    (granted : allowed (.counter ⟨counterFrame header, none, [], call⟩)) :
    Program.Asks allowed (deskReply header call) := asks_ask granted

theorem ensureWithin_asks (amount : Nat) (approvalId : Option Uuid) (message : String) :
    Program.Asks Proper (ensureWithin header amount approvalId message) := by
  unfold ensureWithin
  split
  · trivial
  · cases approvalId with
    | none => trivial
    | some id =>
      refine asks_andThen ?_ fun granted => ?_
      · refine asks_andThen (askDesk trivial) fun approval => ?_
        rcases approval with error | none | state
        · trivial
        · trivial
        · cases state <;> trivial
      · cases granted <;> trivial

-- No proof below compares amounts with the threshold.
attribute [local irreducible] ensureWithin

theorem movementsAndExpected_asks (shiftId : Uuid) : Program.Asks Plain (movementsAndExpected header shiftId) := by
  refine asks_andThen (askTill fun _ => trivial) fun movements => ?_
  refine asks_andThen (askTill fun _ => trivial) fun cashSales => ?_
  exact asks_andThen (askTill fun _ => trivial) fun cashRefunds => trivial

theorem loadShift_asks (id : Uuid) : Program.Asks Plain (loadShift header id) := by
  refine asks_andThen (askTill fun _ => trivial) fun found => ?_
  rcases found with error | none | shift <;> trivial

theorem openTill_asks (p : OpenTillPayload) : Program.Asks Plain (openTill header p) := by
  refine asks_andThen ?_ fun _ => ?_
  · refine asks_andThen (askTill fun _ => trivial) fun found => ?_
    rcases found with error | none | shift <;> trivial
  · refine asks_andThen (askDesk trivial) fun id => ?_
    exact asks_andThen (asks_orThrow (askTill fun _ => trivial)) fun _ => trivial

theorem recordCashMovement_asks (shiftId : Uuid) (kind : CashMovementKind) (amountCents : Nat) (reason : Option String)
    (approvalId : Option Uuid) :
    Program.Asks Proper (recordCashMovement header shiftId kind amountCents reason approvalId) := by
  refine asks_andThen (ensureWithin_asks ..) fun _ => asks_andThen (askDesk trivial) fun movementId => ?_
  exact asks_andThen (asks_orThrow (askTill fun _ => trivial)) fun _ => trivial

theorem closeReading_asks (reading : TillReading) (p : CloseTillPayload) (open_then : reading.shift.state = .open) :
    Program.Asks Proper (closeReading header reading p) := by
  have expected : (reading.written p.countedCents).expectedCents = reading.expectedCents := rfl
  unfold closeReading
  generalize reading.written p.countedCents = written at expected ⊢
  refine asks_andThen (ensureWithin_asks ..) fun _ => ?_
  refine asks_andThen (askDesk trivial) fun now => asks_andThen (askDesk trivial) fun submissionId => ?_
  refine asks_andThen (asks_orThrow (asks_ask ?_)) fun _ => trivial
  exact ⟨reading, rfl, rfl, open_then, expected, rfl⟩

theorem cashCount_asks (p : CashCountPayload) : Program.Asks Plain (cashCount header p) :=
  asks_andThen (loadShift_asks _) fun _ => asks_andThen (movementsAndExpected_asks ..) fun _ => trivial

theorem getXReport_asks (shiftId : Uuid) : Program.Asks Plain (getXReport header shiftId) :=
  asks_andThen (loadShift_asks _) fun _ => asks_andThen (movementsAndExpected_asks ..) fun _ => trivial

theorem closeTill_asks (p : CloseTillPayload) : Program.Asks Proper (closeTill header p) := by
  refine asks_andThen ((loadShift_asks _).mono fun _ => Plain.proper) fun shift => ?_
  split
  · trivial
  next open_then =>
    refine asks_andThen ((movementsAndExpected_asks _).mono fun _ => Plain.proper) fun figures => ?_
    exact closeReading_asks _ p (not_not.mp open_then)

theorem executeShiftCommand_asks (command : ShiftCommand) :
    Program.Asks Proper (executeShiftCommand header command) := by
  cases command with
  | openTill p => exact (openTill_asks p).mono fun _ => Plain.proper
  | paidIn p => exact recordCashMovement_asks ..
  | paidOut p => exact recordCashMovement_asks ..
  | noSale p => exact recordCashMovement_asks ..
  | cashCount p => exact (cashCount_asks p).mono fun _ => Plain.proper
  | getXReport shiftId => exact (getXReport_asks shiftId).mono fun _ => Plain.proper
  | closeTill p => exact closeTill_asks p

theorem shiftTask_asks (app : AppState) (task : ShiftTask) : (task.program app).Asks Proper := by
  have executes : Program.Asks Proper (Program.bind (executeShiftCommand task.header task.command) task.answered) := by
    refine Program.Asks.bind (executeShiftCommand_asks _) fun result => ?_
    cases result with
    | error refusal => trivial
    | ok shown => exact ⟨trivial, fun _ => trivial⟩
  obtain ⟨error, refused⟩ | ⟨_, next, runs, goesOn⟩ := task.program_cases app
  · rw [refused]
    trivial
  · rw [runs]
    refine ⟨trivial, fun stored => ?_⟩
    obtain ⟨replayed, replays⟩ | went := goesOn stored
    · rw [replays]
      trivial
    · rw [went]
      exact executes

end Till

section Desk

/-- Payments of an order are those of the cart, typed by their references. -/
theorem orderly_of_proper {request : Request} (proper : Conduct.Proper request) : Orderly request.call := by
  obtain ⟨frame, call⟩ := request
  cases call
  case insertOrderLedgerEntryWithOutbox entry outboxId =>
    obtain ⟨_, cart, _, payments⟩ := proper
    intro payment member
    rw [payments] at member
    obtain ⟨recorded, _, rfl⟩ := List.mem_map.mp member
    rfl
  all_goals trivial

theorem handlePosCommand_asks (app : AppState) (boundRegister : Option Uuid) (envelope : PosRequestEnvelope) :
    (handlePosCommand app boundRegister envelope).Asks fun request : Request => Orderly request.call := by
  have asks : ((Task.command boundRegister envelope).program app).Asks fun request : Request => Orderly request.call :=
    (Conformance.conforms app (.command boundRegister envelope)).asks (fun _ may => orderly_of_proper may.1)
      fun _ _ _ follows => orderly_of_proper follows.1
  exact asks.first

private theorem atShiftDesk_asks {α : Type} {program : CounterProgram α} (asks : program.Asks Quiet) :
    (atShiftDesk program).Asks Proper := by
  have proper : program.Asks fun request => Proper (.counter request) := asks
  exact proper.embed

/-- Whatever the programs of the desk ask for is proper. -/
theorem deskTask_asks (app : AppState) (task : DeskTask) : (task.program app).Asks Proper := by
  cases task with
  | pos boundRegister envelope =>
    have plain := atCounter_asks (handlePosCommand_asks app boundRegister envelope)
    exact (atShiftDesk_asks (plain.mono fun _ => PlainHere.quiet)).bind fun _ => trivial
  | returns task => exact (atShiftDesk_asks (returnTask_asks app task)).bind fun _ => trivial
  | till task => exact shiftTask_asks app task

end Desk
end ApexEdge.Proofs.ShiftConduct
