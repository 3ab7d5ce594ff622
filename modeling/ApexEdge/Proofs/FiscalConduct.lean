import ApexEdge.Hub.FiscalRoom
import ApexEdge.Library.Deferred

/-! What commands and sweeps do around the queue of transactions that are to be signed later,
request by request, and the condition under which none of them leaves an entry and its
subject apart. A command queues first and marks afterwards; a sweep stores the receipt first
and marks the entry afterwards. -/

namespace ApexEdge.Proofs.FiscalConduct
open Library Payment Domain Storage Contracts Fiscal Hub
open FiscalQueue Deferred

/-- An entry as a job for its subject, which is done when it is signed. -/
def jobOf (row : FiscalQueueRow) : Job Uuid FiscalSubject := ⟨row.id, row.subject, row.status = .signed⟩

section Conditions
variable (tables : FiscalTables) (others : List FiscalRequest) (request : FiscalRequest)

/-- The subject is there and marked pending. -/
def isPending (subject : FiscalSubject) : Bool := (fiscalOf tables subject).any FiscalPersistFields.pending

/-- A sweep has stored a receipt on the subject, and its entry is not marked yet. -/
def marks (subject : FiscalSubject) : Bool :=
  match request with
  | .sweep row _ (.markFiscalSigned _) => row.subject = subject
  | _ => false

/-- The entry is unsigned for the sake of a request that has still to see to that. -/
def excuses (job : Job Uuid FiscalSubject) : Bool :=
  match request with
  | .command frame _ => frame.queued ∧ frame.subject = some job.record
  | .sweep row _ (.markFiscalSigned _) => job.id = row.id
  | _ => false

/-- It may end here: nothing is left that is unsigned and not pending. -/
def MayStop : Prop :=
  ∀ row ∈ tables.queue, row.status ≠ .signed → excuses request (jobOf row) = true → isPending tables row.subject = true

/-- A subject is marked pending while its entry is unsigned, and stays so; it is given a
signature at once when it has no entry. -/
def MayWrite (subject : FiscalSubject) (pending : Bool) : Prop :=
  if pending then
    (∃ row ∈ tables.queue, row.subject = subject ∧ row.status ≠ .signed) ∧ ∀ other ∈ others, marks other subject = false
  else ∀ row ∈ tables.queue, row.subject ≠ subject

def MayWriteCommand (choice : FiscalChoice) (call : FiscalCall) : Prop :=
  match call with
  | .fetchFiscalQueueForSubject _ => choice.storageFailure.isSome → MayStop tables request
  | .insertOrderLedgerEntryWithOutbox entry =>
    if choice.storageFailure.isNone ∧ (Orders.write entry tables.orders).isOk then
      MayWrite tables others ⟨.order, entry.orderId⟩ entry.fiscal.pending
    else MayStop tables request
  | .applyFiscalReceipt subject update =>
    if choice.storageFailure.isNone then MayWrite tables others subject update.pending else MayStop tables request
  | _ => True

/-- A sweep stores a receipt where the subject is marked pending, and puts off what is unsigned. -/
def MaySweep (choice : FiscalChoice) (row : FiscalQueueRow) (call : SweepCall) : Prop :=
  match call with
  | .sign _ => True
  | .applyFiscalReceipt _ => choice.storageFailure.isNone → isPending tables row.subject = true
  | .markFiscalSigned _ => choice.storageFailure.isSome → MayStop tables request
  | .scheduleFiscalRetry .. | .markFiscalDeadLetter _ =>
    choice.storageFailure.isNone → ∀ entry ∈ tables.queue, entry.id = row.id → entry.status ≠ .signed

end Conditions

def fiscalStep (world : FiscalWorld) (others : List FiscalRequest) (request : FiscalRequest) (choice : FiscalChoice) :
    Prop :=
  match request with
  | .command _ call => MayWriteCommand world.tables others request choice call
  | .fetchDueFiscalSignings _ => True
  | .sweep row _ call => MaySweep world.tables request choice row call

/-- No request ends, and none writes, where that would leave an entry and its subject apart. -/
def inStep : Condition FiscalRequest FiscalWorld FiscalChoice where
  step := fiscalStep
  drop := fun world _ request => MayStop world.tables request

section Decidable
variable (tables : FiscalTables) (others : List FiscalRequest) (request : FiscalRequest)

instance : Decidable (MayStop tables request) := by
  unfold MayStop
  infer_instance

instance (subject : FiscalSubject) (pending : Bool) : Decidable (MayWrite tables others subject pending) := by
  unfold MayWrite
  split <;> infer_instance

instance (choice : FiscalChoice) (call : FiscalCall) :
    Decidable (MayWriteCommand tables others request choice call) := by
  unfold MayWriteCommand
  cases call <;> infer_instance

instance (choice : FiscalChoice) (row : FiscalQueueRow) (call : SweepCall) :
    Decidable (MaySweep tables request choice row call) := by
  unfold MaySweep
  cases call <;> infer_instance

instance (world : FiscalWorld) (choice : FiscalChoice) : Decidable (inStep.step world others request choice) := by
  show Decidable (fiscalStep world others request choice)
  unfold fiscalStep
  cases request <;> infer_instance

instance (world : FiscalWorld) : Decidable (inStep.drop world others request) :=
  inferInstanceAs (Decidable (MayStop world.tables request))

end Decidable

section Protocol

/-- What a command may do at this point of it. -/
def Fits (frame : FiscalFrame) (call : FiscalCall) : Prop :=
  match call with
  | .newId => True
  | .fetchFiscalQueueForSubject subject => frame.subject = some subject
  | .insertFiscalSigning entry => frame.subject = some entry.subject ∧ frame.queued = false
  | .insertOrderLedgerEntryWithOutbox entry =>
    frame.subject = some ⟨.order, entry.orderId⟩ ∧ frame.queued = entry.fiscal.pending
  | .applyFiscalReceipt subject update =>
    frame.subject = some subject ∧ subject.kind = .returned ∧ frame.queued = update.pending
  | _ => frame.queued = false

/-- What the reply tells the command. -/
def goOn (frame : FiscalFrame) (call : FiscalCall) (reply : call.Reply) : FiscalFrame :=
  match call, reply with
  | .newId, id => if frame.subject = none then .finalizing ⟨.order, id⟩ else frame
  | .loadSnapshot _, .ok snapshot => .finalizing ⟨.returned, snapshot.row.id⟩
  | .fetchFiscalQueueForSubject _, .ok (some _) => { frame with queued := true }
  | .insertFiscalSigning _, .ok () => { frame with queued := true }
  | _, _ => { frame with queued := false }

/-- What a sweep may do with an entry before it has stored a receipt. -/
def Begins (call : SweepCall) : Prop :=
  match call with
  | .applyFiscalReceipt update => update.pending = false
  | .markFiscalSigned _ => False
  | _ => True

def follows (request : FiscalRequest) (reply : request.Reply) (next : FiscalRequest) : Prop :=
  match request, reply with
  | .command frame call, reply =>
    ∃ later, next = .command (goOn frame call reply) later ∧ Fits (goOn frame call reply) later
  | .fetchDueFiscalSignings _, .ok rows =>
    ∃ row rest call, next = .sweep row rest call ∧ row :: rest ⊆ rows ∧ Begins call
  | .fetchDueFiscalSignings _, .error _ => False
  | .sweep row rest (.applyFiscalReceipt update), .ok () => next = .sweep row rest (.markFiscalSigned update)
  | .sweep _ _ (.applyFiscalReceipt _), .error _ => False
  | .sweep row rest _, _ =>
    ∃ row' rest' call, next = .sweep row' rest' call ∧ row' :: rest' ⊆ row :: rest ∧ Begins call

/-- A request may be the last one when nothing that might follow would be owed. -/
def conduct : Protocol FiscalRequest FiscalRequest.Reply :=
  { follows := follows, rests := fun may => ∀ next, may next → ∀ job, excuses next job = false }

/-- Every program opens without anything in hand. -/
def Opens (_ : FiscalTask) (request : FiscalRequest) : Prop :=
  match request with
  | .command frame call => frame = .idle ∧ Fits frame call
  | .fetchDueFiscalSignings _ => True
  | .sweep .. => False

open Protocol
variable {may : FiscalRequest → Prop} {subject : FiscalSubject}

/-- The command may go on like this. -/
def Allows (may : FiscalRequest → Prop) (frame : FiscalFrame) : Prop :=
  ∀ call, Fits frame call → may (.command frame call)

theorem allows_follows {frame : FiscalFrame} {call : FiscalCall} {reply : call.Reply} {later : FiscalFrame}
    (next : goOn frame call reply = later) : Allows (follows (.command frame call) reply) later := by
  subst next
  exact fun call fits => ⟨call, rfl, fits⟩

theorem rests_follows {frame : FiscalFrame} {call : FiscalCall} {reply : call.Reply}
    (nothing : (goOn frame call reply).queued = false) : conduct.rests (follows (.command frame call) reply) := by
  rintro _ ⟨later, rfl, _⟩ job
  simp [excuses, nothing]

theorem keeps_enqueue (entry : NewFiscalQueueEntry) (allowed : Allows may (.finalizing entry.subject)) :
    conduct.Keeps may (fun may result =>
      match result with
      | .ok _ => Allows may ⟨some entry.subject, true⟩
      | .error _ => conduct.rests may) (enqueueFiscalSigning entry) := by
  apply keeps_andThen
  apply keeps_orThrow
  refine ⟨allowed _ rfl, ?_⟩
  rintro (error | _ | existing)
  · exact rests_follows rfl
  · apply keeps_andThen
    apply keeps_orThrow
    refine ⟨⟨_, rfl, rfl, rfl⟩, ?_⟩
    rintro (error | _)
    · exact rests_follows rfl
    · apply keeps_andThen
      apply keeps_orThrow
      refine ⟨⟨_, rfl, rfl⟩, ?_⟩
      rintro (error | _ | row)
      · exact rests_follows rfl
      · exact rests_follows rfl
      · exact allows_follows rfl
  · exact allows_follows rfl

variable (settings : FiscalSettings) (codec : FiscalCodec)

/-- What is signed leaves nothing to be owed; what is queued does. -/
theorem keeps_signOrQueue (transaction : FiscalTransaction) (allowed : Allows may (.finalizing subject)) :
    conduct.Keeps may (fun may result =>
      match result with
      | .ok outcome => Allows may (.afterwards subject outcome)
      | .error _ => conduct.rests may) (signOrQueue settings codec subject transaction) := by
  refine keeps_ask (allowed (.sign transaction) rfl) ?_
  rintro (error | signature)
  · dsimp only
    split
    · split
      · exact rests_follows rfl
      · apply keeps_andThen
        apply keeps_mapError
        apply (keeps_enqueue _ (allows_follows rfl)).mono
        rintro may (error | row) kept
        · exact kept
        · exact kept
    · exact rests_follows rfl
  · exact allows_follows rfl

theorem fieldsFromOutcome_pending (providerCode : String) (outcome : FiscalOutcome) :
    (FiscalFrame.afterwards subject outcome).queued = (fieldsFromOutcome providerCode outcome).pending := by
  cases outcome <;> rfl

theorem keeps_finalizeOrder (header : CommandHeader) (p : FinalizeOrderPayload) (allowed : Allows may .idle) :
    conduct.Keeps may (fun may _ => conduct.rests may) (finalizeOrderFiscally settings codec header p) := by
  refine keeps_ask (allowed (.loadCart p.cartId) rfl) ?_
  rintro (_ | cart)
  · exact rests_follows rfl
  · apply keeps_ask ⟨_, rfl, trivial⟩
    intro orderId
    cases ordered : cart.toOrder orderId with
    | error error => exact rests_follows rfl
    | ok order =>
      obtain ⟨own, _⟩ := Cart.toOrder_ok ordered
      apply keeps_ask ⟨_, rfl, rfl⟩
      intro shiftId
      apply keeps_ask ⟨_, rfl, rfl⟩
      intro tables
      apply keeps_andThen
      apply keeps_mapError
      apply (keeps_signOrQueue settings codec _ (allows_follows rfl)).mono
      rintro may (error | outcome) kept
      · exact kept
      · refine keeps_ask (kept .newId trivial) ?_
        intro submissionId
        apply keeps_andThen
        apply keeps_orThrow
        refine ⟨⟨_, rfl, ?_, fieldsFromOutcome_pending _ outcome⟩, ?_⟩
        · show some (⟨.order, orderId⟩ : FiscalSubject) = some ⟨.order, order.orderId⟩
          rw [own]
        · rintro (error | _)
          · exact rests_follows rfl
          · exact rests_follows rfl

theorem keeps_finalizeReturn (returnId : Uuid) (allowed : Allows may .idle) :
    conduct.Keeps may (fun may _ => conduct.rests may) (finalizeReturnFiscally settings codec returnId) := by
  apply keeps_andThen
  apply keeps_orThrow
  refine ⟨allowed _ rfl, ?_⟩
  rintro (error | snapshot)
  · exact rests_follows rfl
  · unfold Fallible.ofExcept Keeps
    dsimp only
    cases snapshot.finalize with
    | error message => exact rests_follows rfl
    | ok finalized =>
      apply keeps_ask ⟨_, rfl, rfl⟩
      intro tables
      apply keeps_ask ⟨_, rfl, rfl⟩
      intro now
      apply keeps_andThen
      apply keeps_mapError
      apply (keeps_signOrQueue settings codec _ (allows_follows rfl)).mono
      rintro may (error | outcome) kept
      · exact kept
      · apply keeps_andThen
        apply keeps_orThrow
        refine ⟨kept _ ⟨rfl, rfl, fieldsFromOutcome_pending _ outcome⟩, ?_⟩
        rintro (error | _)
        · exact rests_follows rfl
        · apply keeps_andThen
          apply keeps_orThrow
          refine ⟨⟨_, rfl, rfl⟩, ?_⟩
          rintro (error | _)
          · exact rests_follows rfl
          · exact rests_follows rfl

/-- A sweep may go on with what is left of its entries, or end. -/
def Sweeps (may : FiscalRequest → Prop) (rows : List FiscalQueueRow) : Prop :=
  conduct.rests may ∧ ∀ row rest call, row :: rest ⊆ rows → Begins call → may (.sweep row rest call)

/-- Whether a request of a sweep stores a receipt, so that the entry has to be marked next. -/
def stores (call : SweepCall) : Bool :=
  match call with
  | .applyFiscalReceipt _ => true
  | _ => false

theorem sweeps_follows {row : FiscalQueueRow} {rest : List FiscalQueueRow} {call : SweepCall} {reply : call.Reply}
    (plain : stores call = false) : Sweeps (follows (.sweep row rest call) reply) (row :: rest) := by
  cases call with
  | applyFiscalReceipt update => cases plain
  | _ =>
    refine ⟨?_, fun row' rest' call' inside begins => ⟨row', rest', call', rfl, inside, begins⟩⟩
    rintro _ ⟨row', rest', call', rfl, _, begins⟩ job
    cases call' <;> first | rfl | exact begins.elim

theorem sweeps_rest {row : FiscalQueueRow} {rest : List FiscalQueueRow} {call : SweepCall} {reply : call.Reply}
    (plain : stores call = false) : Sweeps (follows (.sweep row rest call) reply) rest := by
  obtain ⟨rests, sweeps⟩ := @sweeps_follows row rest call reply plain
  exact ⟨rests, fun _ _ _ inside => sweeps _ _ _ fun _ member => List.mem_cons_of_mem row (inside member)⟩

theorem keeps_signRows (rows : List FiscalQueueRow) (signed : Nat) (sweeps : Sweeps may rows) :
    conduct.Keeps may (fun may _ => conduct.rests may) (signRows codec signed rows) := by
  induction rows generalizing may signed with
  | nil => exact sweeps.1
  | cons row rest ih =>
    have self : row :: rest ⊆ row :: rest := fun _ => id
    have buried (error : String) (reply : Except PoolError Unit) :
        Sweeps (follows (.sweep row rest (.markFiscalDeadLetter error)) reply) rest := sweeps_rest rfl
    have deferred (delay : Nat) (error : String) (reply : Except PoolError Unit) :
        Sweeps (follows (.sweep row rest (.scheduleFiscalRetry delay error)) reply) rest := sweeps_rest rfl
    have marked (update : FiscalReceiptUpdate) (reply : Except PoolError Unit) :
        Sweeps (follows (.sweep row rest (.markFiscalSigned update)) reply) rest := sweeps_rest rfl
    unfold signRows
    split
    · rename_i reason _
      apply keeps_andThen
      apply keeps_orThrow
      refine ⟨sweeps.2 _ _ _ self trivial, ?_⟩
      rintro (error | done)
      · exact (buried s!"payload unreadable: {reason}" (.error error)).1
      · exact ih _ (buried s!"payload unreadable: {reason}" (.ok done))
    · rename_i transaction _
      refine keeps_ask (sweeps.2 _ _ (.sign transaction) self trivial) ?_
      intro reply
      have signedOnce : Sweeps (follows (.sweep row rest (.sign transaction)) reply) (row :: rest) := sweeps_follows rfl
      rcases reply with refusal | signature
      · dsimp only
        split
        · apply keeps_andThen
          apply keeps_orThrow
          refine ⟨signedOnce.2 _ _ _ self trivial, ?_⟩
          rintro (error | done)
          · exact (deferred (backoffDelaySeconds row.attempts) refusal.toString (.error error)).1
          · exact ih _ (deferred (backoffDelaySeconds row.attempts) refusal.toString (.ok done))
        · apply keeps_andThen
          apply keeps_orThrow
          refine ⟨signedOnce.2 _ _ _ self trivial, ?_⟩
          rintro (error | done)
          · exact (buried refusal.toString (.error error)).1
          · exact ih _ (buried refusal.toString (.ok done))
      · apply keeps_andThen
        apply keeps_orThrow
        refine ⟨signedOnce.2 _ _ (.applyFiscalReceipt (FiscalSignature.update signature)) self rfl, ?_⟩
        rintro (error | _)
        · exact fun _ impossible => impossible.elim
        · apply keeps_andThen
          apply keeps_orThrow
          refine ⟨rfl, ?_⟩
          rintro (error | done)
          · exact (marked (FiscalSignature.update signature) (.error error)).1
          · exact ih _ (marked (FiscalSignature.update signature) (.ok done))

theorem keeps_program (task : FiscalTask) :
    conduct.Keeps (Opens task) (fun may _ => conduct.rests may) (task.program settings codec) := by
  have allowed : Allows (Opens task) .idle := fun _ fits => ⟨rfl, fits⟩
  cases task with
  | finalizeOrder header payload => exact (keeps_finalizeOrder settings codec header payload allowed).bind
  | finalizeReturn returnId => exact (keeps_finalizeReturn settings codec returnId allowed).bind
  | startReturn new => exact ⟨⟨rfl, rfl⟩, fun _ => rests_follows (by cases ‹Except PoolError Unit› <;> rfl)⟩
  | changeReturn id state totalCents taxCents refundedCents =>
    exact ⟨⟨rfl, rfl⟩, fun _ => rests_follows (by cases ‹Except PoolError Unit› <;> rfl)⟩
  | sweep =>
    apply Protocol.Keeps.bind
    apply keeps_andThen
    apply keeps_orThrow
    refine ⟨trivial, ?_⟩
    rintro (error | rows)
    · exact fun _ impossible => impossible.elim
    · refine keeps_signRows codec rows 0 ⟨?_, fun _ _ _ inside begins => ⟨_, _, _, rfl, inside, begins⟩⟩
      rintro _ ⟨row, rest, call, rfl, _, begins⟩ job
      cases call <;> first | rfl | exact begins.elim

end Protocol

end ApexEdge.Proofs.FiscalConduct
