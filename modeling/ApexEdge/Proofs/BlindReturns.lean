import ApexEdge.Proofs.ReceiptedReturns
import ApexEdge.Proofs.RefundBooks

/-! A return without a receipt, while lines are added and tenders refunded. A line is
written first and the header after it, from what was read before both; nothing else may
come to the header in between. -/

namespace ApexEdge.Proofs.BlindReturns
open Library Payment Domain Storage Contracts Hub
open CounterRules Protocol

/-- ReturnLineItem and RefundTender commands on one return. -/
def OnReturn (returnId : Uuid) (task : ReturnTask) : Prop :=
  match task.command with
  | .returnLineItem p => p.returnId = returnId
  | .refundTender p => p.returnId = returnId
  | _ => False

def grossCents (returnId : Uuid) (tables : ReturnTables) : Nat :=
  ((Returns.lines returnId tables).map ReturnLineRow.grossCents).sum

def lineTaxCents (returnId : Uuid) (tables : ReturnTables) : Nat :=
  ((Returns.lines returnId tables).map ReturnLineRow.taxCents).sum

/-- How far a return has come. -/
def stage (state : ReturnState) : Nat :=
  match state with
  | .open => 0
  | .items => 1
  | .tendered => 2
  | .paid => 3
  | .finalized | .voided => 4

/-- What is refunded and how far the return has come do not go back. -/
def NeverBack (returnId : Uuid) (before after : ReturnTables) : Prop :=
  ∀ row ∈ Returns.fetch returnId before, ∃ row' ∈ Returns.fetch returnId after,
    row.refundedCents ≤ row'.refundedCents ∧ stage row.state ≤ stage row'.state

/-- The stored totals are those of the stored lines. -/
def TotalsAgree (returnId : Uuid) (tables : ReturnTables) : Prop :=
  ∀ row ∈ Returns.fetch returnId tables,
    row.totalCents = grossCents returnId tables ∧ row.taxCents = lineTaxCents returnId tables

section Condition
variable {Remote Answer : Type}

/-- A header is written as it was read: it is still stored so, the write works, and the
amounts fit their columns. -/
def WrittenAsRead (world : CounterWorld Remote) (choice : CounterChoice Answer) (id : Uuid)
    (adding : ReturnRow × ReturnLineRow) : Prop :=
  choice.hub.storageFailure = none ∧ Returns.fetch id world.hub.db.returns = some adding.1 ∧
    adding.1.totalCents + adding.2.grossCents < 2 ^ 63 ∧ adding.1.taxCents + adding.2.taxCents < 2 ^ 63 ∧
      adding.1.refundedCents < 2 ^ 63

/-- Once a line is written its header is written too, as it was read. -/
def undisturbed : Condition CounterRequest (CounterWorld Remote) (CounterChoice Answer) :=
  { step := fun world _ request choice =>
      match request.call with
      | .updateReturnTotals id .. => ∀ adding ∈ request.adding, WrittenAsRead world choice id adding
      | _ => True
    drop := fun _ _ request =>
      match request.call with
      | .updateReturnTotals .. => False
      | _ => True }

instance (world : CounterWorld Remote) (choice : CounterChoice Answer) (id : Uuid) (adding : ReturnRow × ReturnLineRow) :
    Decidable (WrittenAsRead world choice id adding) := inferInstanceAs (Decidable (_ ∧ _))

instance (world : CounterWorld Remote) (others : List CounterRequest) (request : CounterRequest)
    (choice : CounterChoice Answer) : Decidable (undisturbed.step world others request choice) := by
  induction request using CounterRequest.casesOn with
  | mk frame adding restocks call =>
    induction call using CounterCall.casesOn <;> dsimp only [undisturbed] <;> infer_instance

instance (world : CounterWorld Remote) (others : List CounterRequest) (request : CounterRequest) :
    Decidable ((undisturbed : Condition _ _ (CounterChoice Answer)).drop world others request) := by
  induction request using CounterRequest.casesOn with
  | mk frame adding restocks call =>
    induction call using CounterCall.casesOn <;> dsimp only [undisturbed] <;> infer_instance

end Condition

/-! The books of the return. -/

/-- Some of the lines are not in the header yet: this much, and this much tax. The header
has what is recorded of refunds, and a return that is paid is refunded in full. -/
structure Booked (returnId : Uuid) (cents tax : Nat) (tables : ReturnTables) (row : ReturnRow) : Prop where
  stored : Returns.fetch returnId tables = some row
  blind : row.originalOrderId = none
  total : row.totalCents + cents = grossCents returnId tables
  taxed : row.taxCents + tax = lineTaxCents returnId tables
  refunded : row.refundedCents = Returns.refundedCents returnId tables
  stage : stage row.state ≤ 3
  paid : row.state = .paid → row.totalCents ≤ row.refundedCents

section Books
variable {returnId : Uuid} {cents tax : Nat} {tables : ReturnTables} {row : ReturnRow} {line : ReturnLineRow}

theorem lines_insert (own : line.returnId = returnId) :
    Returns.lines returnId { tables with returnLines := tables.returnLines ++ [line] } = Returns.lines returnId tables ++ [line] := by
  simp [Returns.lines, own]

theorem booked_insertLine (booked : Booked returnId cents tax tables row) (own : line.returnId = returnId) :
    Booked returnId (cents + line.grossCents) (tax + line.taxCents)
      { tables with returnLines := tables.returnLines ++ [line] } row :=
  { booked with
    total := by
      rw [grossCents, lines_insert own, List.map_append, List.sum_append, ← Nat.add_assoc, booked.total]
      simp [grossCents]
    taxed := by
      rw [lineTaxCents, lines_insert own, List.map_append, List.sum_append, ← Nat.add_assoc, booked.taxed]
      simp [lineTaxCents] }

/-- A statement on the return's row finds it again. -/
theorem fetch_update {update : Table.Update ReturnRow} {after : ReturnTables} (ran : after.returns = update.run tables.returns)
    (ids : ∀ row, (update.set row).id = row.id) (stored : Returns.fetch returnId tables = some row) :
    Returns.fetch returnId after = some (update.row row) := by
  unfold Returns.fetch at stored ⊢
  rw [ran, Table.find?_run update (fun row => decide (row.id = returnId)) fun row => by rw [ids], stored]
  rfl

/-- The header is written with the line, and is what it was but for the line. -/
theorem booked_updateTotals (booked : Booked returnId (line.grossCents + cents) (line.taxCents + tax) tables row)
    (total : row.totalCents + line.grossCents < 2 ^ 63) (taxed : row.taxCents + line.taxCents < 2 ^ 63)
    (refunded : row.refundedCents < 2 ^ 63) (accepts : stage row.state ≤ 1) :
    ∃ row', Booked returnId cents tax (Returns.updateTotals returnId (row.withLine line).totalCents
        (row.withLine line).taxCents row.refundedCents .items tables) row' ∧
      row.refundedCents ≤ row'.refundedCents ∧ stage row.state ≤ stage row'.state := by
  have own : row.id = returnId := by simpa using List.find?_some booked.stored
  have sums : (row.withLine line).totalCents = row.totalCents + line.grossCents ∧
      (row.withLine line).taxCents = row.taxCents + line.taxCents := by
    unfold ReturnRow.withLine saturatingAdd u64Max
    dsimp only
    omega
  rw [sums.1, sums.2]
  refine ⟨{ row with totalCents := row.totalCents + line.grossCents, taxCents := row.taxCents + line.taxCents, state := .items },
    ⟨?_, booked.blind, ?_, ?_, booked.refunded, by show 1 ≤ 3; decide, by simp⟩, le_rfl, accepts⟩
  · rw [fetch_update rfl (fun _ => rfl) booked.stored, Table.Update.row_selected (decide_eq_true own)]
    rw [Returns.stored_of_small total, Returns.stored_of_small taxed, Returns.stored_of_small refunded]
  · have before := booked.total
    show row.totalCents + line.grossCents + cents = grossCents returnId tables
    omega
  · have before := booked.taxed
    show row.taxCents + line.taxCents + tax = lineTaxCents returnId tables
    omega

theorem refundedCents_mono {refunds : List RefundRow} {after : ReturnTables} (grown : after.refunds = tables.refunds ++ refunds) :
    Returns.refundedCents returnId tables ≤ Returns.refundedCents returnId after := by
  unfold Returns.refundedCents Returns.refundsOf
  rw [grown, List.filter_append, List.map_append, List.sum_append]
  exact Nat.le_add_right _ _

/-- A refund that is recorded brings the return on, if it is one of the return's. -/
theorem booked_complete (booked : Booked returnId cents tax tables row) (refund : RefundRow) :
    ∃ row', Booked returnId cents tax (Returns.complete refund tables) row' ∧
      row.refundedCents ≤ row'.refundedCents ∧ stage row.state ≤ stage row'.state := by
  have own : row.id = returnId := by simpa using List.find?_some booked.stored
  obtain ⟨_, lines, _⟩ := RefundBooks.recording_kept refund tables
  have more : Returns.refundedCents returnId tables ≤ Returns.refundedCents returnId (RefundBooks.recording refund tables) := by
    rcases RefundBooks.recording_refunds refund tables with same | ⟨_, added⟩
    · rw [same]
    · rw [added]
      exact refundedCents_mono rfl
  have found : Returns.fetch returnId (Returns.complete refund tables) = some ((RefundBooks.settling refund tables).row row) := by
    rw [RefundBooks.complete_eq]
    exact fetch_update rfl (fun _ => rfl) booked.stored
  have kept (counted : ReturnLineRow → Nat) : ((Returns.lines returnId (Returns.complete refund tables)).map counted).sum =
      ((Returns.lines returnId tables).map counted).sum := by
    rw [RefundBooks.complete_eq]
    simp only [Returns.lines, lines]
  have refunded : Returns.refundedCents returnId (Returns.complete refund tables) =
      Returns.refundedCents returnId (RefundBooks.recording refund tables) := by
    rw [RefundBooks.complete_eq]
    rfl
  by_cases mine : row.id = refund.returnId
  · rw [Table.Update.row_selected (decide_eq_true mine)] at found
    have same : refund.returnId = returnId := mine.symm.trans own
    have settled : ((RefundBooks.settling refund tables).set row).refundedCents =
        Returns.refundedCents returnId (RefundBooks.recording refund tables) := by
      rw [← same]
      rfl
    have state : ((RefundBooks.settling refund tables).set row).state =
        if row.totalCents ≤ ((RefundBooks.settling refund tables).set row).refundedCents then .paid else .tendered := rfl
    have grown : row.refundedCents ≤ ((RefundBooks.settling refund tables).set row).refundedCents := by
      rw [settled, booked.refunded]
      exact more
    refine ⟨_, ⟨found, booked.blind, (booked.total).trans (kept _).symm, (booked.taxed).trans (kept _).symm,
      settled.trans refunded.symm, ?_, ?_⟩, grown, ?_⟩
    · rw [state]
      split <;> decide
    · intro paid
      rw [state] at paid
      split at paid
      next all => exact all
      next => cases paid
    · rw [state]
      split
      next => exact booked.stage
      next some =>
        -- a return that was paid still is
        have unpaid : row.state ≠ .paid := fun paid => some ((booked.paid paid).trans grown)
        have before := booked.stage
        generalize row.state = was at unpaid before
        cases was <;> simp_all [stage]
  · rw [Table.Update.row_kept (decide_eq_false mine)] at found
    have other : refund.returnId ≠ returnId := fun same => mine (own.trans same.symm)
    have same : Returns.refundedCents returnId (Returns.complete refund tables) = Returns.refundedCents returnId tables :=
      refunded.trans (RefundBooks.recording_other other)
    exact ⟨row, ⟨found, booked.blind, (booked.total).trans (kept _).symm, (booked.taxed).trans (kept _).symm,
      booked.refunded.trans same.symm, booked.stage, booked.paid⟩, le_rfl, le_rfl⟩

/-- A return without a receipt takes no line of an order. -/
theorem receipt_refused {rank : Uuid → Nat} {orders : List NewOrderLedgerEntry} {input : ReturnLineRow} {after : ReturnTables}
    (unique : (tables.returns.map ReturnRow.id).Nodup) (booked : Booked returnId cents tax tables row)
    (own : input.returnId = returnId) : Returns.addReceiptedLine rank orders input tables ≠ .ok after := by
  intro added
  obtain ⟨_, _, _, _, _, _, line⟩ := Entitlements.addReceiptedLine_ok added
  obtain ⟨_, other, stored, same, receipted, _⟩ := Entitlements.original_ok unique line.found
  have mine : row.id = returnId := by simpa using List.find?_some booked.stored
  obtain rfl : other = row := List.inj_on_of_nodup_map unique stored (List.mem_of_find?_eq_some booked.stored)
    (same.trans (own.trans mine.symm))
  rw [booked.blind] at receipted
  cases receipted

end Books

/-! The conduct of the commands: a line is written with the header that was read, and the
header right after it. -/

section Conduct

/-- A line of the return is added to a header that can take it. -/
def Adds (returnId : Uuid) (request : CounterRequest) (row : ReturnRow) (line : ReturnLineRow) : Prop :=
  request.adding = some (row, line) ∧ stage row.state ≤ 1 ∧ line.returnId = returnId

def Proper (returnId : Uuid) (request : CounterRequest) : Prop :=
  match request.call with
  | .hub _ => True
  | .addReceiptedReturnLine input => input.returnId = returnId
  | .insertReturnLine line => ∃ row, Adds returnId request row line
  | .updateReturnTotals id totalCents taxCents refundedCents state => ∃ row line, Adds returnId request row line ∧
      id = returnId ∧ totalCents = (row.withLine line).totalCents ∧ taxCents = (row.withLine line).taxCents ∧
        refundedCents = row.refundedCents ∧ state = .items
  | _ => False

/-- The line that is written, and whose header still has to be. -/
def unwritten (request : CounterRequest) : Option ReturnLineRow :=
  match request.call with
  | .updateReturnTotals .. => request.adding.map Prod.snd
  | _ => none

/-- The line whose header is due after a reply. -/
def due (call : CounterCall) : call.Reply → Option ReturnLineRow :=
  match call with
  | .insertReturnLine line => fun
    | .ok () => some line
    | .error _ => none
  | _ => fun _ => none

def conduct (returnId : Uuid) : Protocol CounterRequest CounterRequest.Reply :=
  { follows := fun request reply next => Proper returnId next ∧ unwritten next = due request.call reply
    rests := fun may => ∃ next, may next ∧ unwritten next = none }

/-- The program may go on with anything but a header. -/
def Lets (returnId : Uuid) (may : CounterRequest → Prop) : Prop :=
  ∀ request, Proper returnId request → unwritten request = none → may request

variable {returnId : Uuid} {may : CounterRequest → Prop} {header : CommandHeader}

theorem Lets.rests (lets : Lets returnId may) : (conduct returnId).rests may :=
  ⟨.ofHub ⟨Frame.ofKey none, .clock⟩, lets _ trivial rfl, rfl⟩

theorem lets_next : Lets returnId fun next => Proper returnId next ∧ unwritten next = none :=
  fun _ proper none => ⟨proper, none⟩

theorem hub_asks (may : CounterRequest → Prop) (lets : Lets returnId may) (request : Request) : may (.ofHub request) :=
  lets _ trivial rfl

theorem hub_goesOn (request : Request) (reply : request.Reply) :
    Lets returnId ((conduct returnId).follows (.ofHub request) reply) := fun _ proper none => ⟨proper, none⟩

theorem returnReceiptedLine_keeps (p : ReturnLineItemPayload) (own : p.returnId = returnId) (lets : Lets returnId may) :
    (conduct returnId).Keeps may (fun may _ => Lets returnId may) (returnReceiptedLine header p) := by
  apply keeps_andThen
  refine ⟨lets _ trivial rfl, fun lineId => ?_⟩
  apply keeps_andThen
  apply keeps_orThrow
  refine ⟨⟨own, rfl⟩, fun added => ?_⟩
  cases added with
  | error error => exact lets_next
  | ok _ =>
    apply keeps_andThen
    apply (atCounter_keeps hub_asks hub_goesOn _ lets_next).mono
    rintro _ (errors | snapshot) lets <;> exact lets

theorem addLine_ok {snapshot extended : ReturnSnapshot} {line : ReturnLineRow} (added : snapshot.addLine line = .ok extended) :
    stage snapshot.row.state ≤ 1 ∧ extended.row = snapshot.row.withLine line := by
  unfold ReturnSnapshot.addLine at added
  split at added
  next takes =>
    rw [← Except.ok.inj added]
    exact ⟨by rcases takes with is | is <;> rw [is] <;> decide, rfl⟩
  next => cases added

theorem returnBlindLine_keeps (snapshot : ReturnSnapshot) (p : ReturnLineItemPayload) (own : p.returnId = returnId)
    (lets : Lets returnId may) :
    (conduct returnId).Keeps may (fun may _ => Lets returnId may) (returnBlindLine header snapshot p) := by
  refine keeps_ask (lets _ trivial rfl) fun lineId => ?_
  dsimp only
  cases added : snapshot.addLine (blindLine lineId p) with
  | error message => exact lets_next
  | ok extended =>
    obtain ⟨accepts, same⟩ := addLine_ok added
    have adds (call : CounterCall) : Adds returnId ⟨counterFrame header, some (snapshot.row, blindLine lineId p), [], call⟩
        snapshot.row (blindLine lineId p) := ⟨rfl, accepts, own⟩
    apply keeps_andThen
    apply keeps_orThrow
    refine ⟨⟨⟨_, adds _⟩, rfl⟩, fun inserted => ?_⟩
    cases inserted with
    | error error => exact lets_next
    | ok _ =>
      apply keeps_andThen
      apply keeps_orThrow
      refine ⟨⟨⟨_, _, adds _, own, ?_, ?_, ?_, ?_⟩, rfl⟩, fun written => ?_⟩
      any_goals rw [same]
      · rfl
      · rfl
      · cases written <;> exact lets_next

theorem returnLineItem_keeps (p : ReturnLineItemPayload) (own : p.returnId = returnId) (lets : Lets returnId may) :
    (conduct returnId).Keeps may (fun may _ => Lets returnId may) (returnLineItem header p) := by
  apply keeps_andThen
  apply (atCounter_keeps hub_asks hub_goesOn _ lets).mono
  rintro loaded (errors | snapshot) lets
  · exact lets
  · dsimp only
    split
    · exact lets
    · split
      · exact returnReceiptedLine_keeps p own lets
      · exact returnBlindLine_keeps snapshot p own lets

theorem program_keeps (app : AppState) {task : ReturnTask} (on : OnReturn returnId task) (lets : Lets returnId may) :
    (conduct returnId).Keeps may (fun may _ => (conduct returnId).rests may) (task.program app) := by
  refine returnTask_keeps hub_asks hub_goesOn (fun _ lets => lets.rests) (fun may lets => ?_) lets
  unfold OnReturn at on
  unfold executeReturnCommand
  split at on
  next p command =>
    rw [command]
    exact returnLineItem_keeps p on lets
  next p command =>
    rw [command]
    exact atCounter_keeps hub_asks hub_goesOn _ lets
  next => cases on

end Conduct

/-! Together: the header has the lines, but for those whose header is still to be written. -/

section Steps
variable {Remote Answer : Type}

def amountOf (amount : ReturnLineRow → Nat) (line : Option ReturnLineRow) : Nat := (line.map amount).getD 0

def owed (amount : ReturnLineRow → Nat) (pending : Multiset CounterRequest) : Nat :=
  (pending.map fun request => amountOf amount (unwritten request)).sum

theorem owed_cons (amount : ReturnLineRow → Nat) (request : CounterRequest) (others : Multiset CounterRequest) :
    owed amount (request ::ₘ others) = amountOf amount (unwritten request) + owed amount others := by
  simp [owed]

structure InBooks (returnId : Uuid) (world : CounterWorld Remote) (pending : Multiset CounterRequest) : Prop where
  proper : ∀ request ∈ pending, Proper returnId request
  unique : (world.hub.db.returns.returns.map ReturnRow.id).Nodup
  booked : ∃ row, Booked returnId (owed ReturnLineRow.grossCents pending) (owed ReturnLineRow.taxCents pending)
    world.hub.db.returns row

/-- The return has gone on from `row`, and this is still to be written to its header. -/
def GoesOn (returnId : Uuid) (cents tax : Nat) (row : ReturnRow) (after : ReturnTables) : Prop :=
  (after.returns.map ReturnRow.id).Nodup ∧ ∃ row', Booked returnId cents tax after row' ∧
    row.refundedCents ≤ row'.refundedCents ∧ stage row.state ≤ stage row'.state

variable {rank : Uuid → Nat} {providers : Providers Remote Answer} {choice : CounterChoice Answer}
  {world : CounterWorld Remote} {returnId : Uuid} {cents tax : Nat} {row : ReturnRow}

/-- Statements of the hub touch a return by recording refunds only. -/
theorem hub_goes (unique : (world.hub.db.returns.returns.map ReturnRow.id).Nodup)
    (booked : Booked returnId cents tax world.hub.db.returns row) (request : Request) :
    GoesOn returnId cents tax row (perform providers choice.hub world.hub request).2.db.returns := by
  have changed := StepEffects.perform_db providers choice.hub world.hub request
  generalize (perform providers choice.hub world.hub request).2.db = db at changed
  have same : GoesOn returnId cents tax row world.hub.db.returns := ⟨unique, row, booked, le_rfl, le_rfl⟩
  cases changed with
  | same | answered | saved | ledger | ordered => exact same
  | reserved refund =>
    rcases Refunding.reserve_cases refund world.hub.db.returns with kept | ⟨_, added⟩
    · dsimp only
      rw [kept]
      exact same
    · dsimp only
      rw [added]
      exact ⟨unique, row, { booked with }, le_rfl, le_rfl⟩
  | completed refund =>
    refine ⟨?_, booked_complete booked refund⟩
    dsimp only
    rw [RefundBooks.complete_eq]
    exact Table.unique_run (fun _ => rfl) unique

theorem step_goes {request : CounterRequest} {others : List CounterRequest} (meets : undisturbed.step world others request choice)
    (proper : Proper returnId request) (unique : (world.hub.db.returns.returns.map ReturnRow.id).Nodup)
    (booked : Booked returnId (amountOf ReturnLineRow.grossCents (unwritten request) + cents)
      (amountOf ReturnLineRow.taxCents (unwritten request) + tax) world.hub.db.returns row) :
    let answered := performAtCounter rank providers choice world request
    GoesOn returnId (amountOf ReturnLineRow.grossCents (due request.call answered.1) + cents)
      (amountOf ReturnLineRow.taxCents (due request.call answered.1) + tax) row answered.2.hub.db.returns := by
  obtain ⟨frame, adding, restocks, call⟩ := request
  have same : unwritten ⟨frame, adding, restocks, call⟩ = none →
      GoesOn returnId (0 + cents) (0 + tax) row world.hub.db.returns := by
    intro none
    rw [none] at booked
    exact ⟨unique, row, booked, le_rfl, le_rfl⟩
  cases call with
  | hub call => exact hub_goes unique booked ⟨frame, call⟩
  | addReceiptedReturnLine input =>
    simp only [performAtCounter, transactReturns]
    cases choice.hub.storageFailure with
    | some error => exact same rfl
    | none =>
      cases added : Returns.addReceiptedLine rank world.hub.db.orders input world.hub.db.returns with
      | error error => exact same rfl
      | ok after => exact absurd added (receipt_refused unique booked proper)
  | insertReturnLine line =>
    obtain ⟨header, _, _, own⟩ := proper
    simp only [performAtCounter, transactReturns]
    cases choice.hub.storageFailure with
    | some error => exact same rfl
    | none =>
      cases inserted : Returns.insertLine line world.hub.db.returns with
      | error error => exact same rfl
      | ok after =>
        obtain rfl := Entitlements.insertLine_ok inserted
        have grown : Booked returnId (0 + cents + line.grossCents) (0 + tax + line.taxCents) _ row :=
          booked_insertLine booked own
        rw [Nat.zero_add, Nat.zero_add, Nat.add_comm cents, Nat.add_comm tax] at grown
        exact ⟨unique, row, grown, le_rfl, le_rfl⟩
  | updateReturnTotals id totalCents taxCents refundedCents state =>
    obtain ⟨header, line, ⟨added, accepts, own⟩, rfl, rfl, rfl, rfl, rfl⟩ := proper
    obtain rfl : adding = some (header, line) := added
    obtain ⟨works, stored, total, taxed, refunded⟩ := meets (header, line) rfl
    obtain rfl : header = row := Option.some.inj (stored.symm.trans booked.stored)
    obtain ⟨row', after, more, further⟩ := booked_updateTotals booked total taxed refunded accepts
    simp only [performAtCounter, transactReturns, works]
    refine ⟨Table.unique_run (fun _ => rfl) unique, row', ?_, more, further⟩
    rw [← Nat.zero_add cents, ← Nat.zero_add tax] at after
    exact after
  | _ => exact absurd proper id

end Steps

/-- The return has no receipt, and its header agrees with its lines and refunds. -/
structure Opening {Remote : Type} (returnId : Uuid) (world : CounterWorld Remote) : Prop where
  returnIds : (world.hub.db.returns.returns.map ReturnRow.id).Nodup
  booked : ∃ row, Booked returnId 0 0 world.hub.db.returns row

section Runs
variable {Remote Answer : Type} {rank : Uuid → Nat} {providers : Providers Remote Answer} {returnId : Uuid}

theorem inBooks_invariant (app : AppState) :
    Invariant ((returnCounter app rank providers).only (OnReturn returnId)) (conduct returnId)
      (undisturbed : Condition _ _ (CounterChoice Answer)) (fun _ request => Proper returnId request ∧ unwritten request = none)
      (InBooks returnId) where
  keeps task := program_keeps app task.property fun _ proper none => ⟨proper, none⟩
  started world others task request _ opens books := by
    obtain ⟨proper, none⟩ := opens
    obtain ⟨row, booked⟩ := books.booked
    refine ⟨?_, books.unique, row, ?_⟩
    · intro other member
      rcases Multiset.mem_cons.mp member with rfl | old
      · exact proper
      · exact books.proper other old
    · rw [owed_cons, owed_cons, none]
      simpa [amountOf] using booked
  continued choice world others request next meets books follows := by
    obtain ⟨row, booked⟩ := books.booked
    rw [owed_cons, owed_cons] at booked
    obtain ⟨unique, row', after, _⟩ := step_goes meets (books.proper request (Multiset.mem_cons_self _ _)) books.unique booked
    refine ⟨?_, unique, row', ?_⟩
    · intro other member
      rcases Multiset.mem_cons.mp member with rfl | old
      · exact follows.1
      · exact books.proper other (Multiset.mem_cons_of_mem old)
    · rw [owed_cons, owed_cons, follows.2]
      exact after
  finished choice world others request meets books rests := by
    obtain ⟨next, ⟨_, written⟩, none⟩ := rests
    have written : unwritten next = due request.call (performAtCounter rank providers choice world request).1 := written
    obtain ⟨row, booked⟩ := books.booked
    rw [owed_cons, owed_cons] at booked
    obtain ⟨unique, row', after, _⟩ := step_goes meets (books.proper request (Multiset.mem_cons_self _ _)) books.unique booked
    refine ⟨fun other member => books.proper other (Multiset.mem_cons_of_mem member), unique, row', ?_⟩
    rw [← written, none] at after
    simp only [amountOf, Option.map_none, Option.getD_none, Nat.zero_add] at after
    exact after
  dropped world others request meets books := by
    obtain ⟨row, booked⟩ := books.booked
    refine ⟨fun other member => books.proper other (Multiset.mem_cons_of_mem member), books.unique, row, ?_⟩
    have nothing : unwritten request = none := by
      obtain ⟨frame, adding, restocks, call⟩ := request
      cases call <;> first | rfl | exact absurd meets id
    rw [owed_cons, owed_cons, nothing] at booked
    simpa [amountOf] using booked

/-- In every run of ReturnLineItem and RefundTender commands on a return without a receipt
in which every header is written as it was read, the stored totals are those of the lines
whenever nothing is under way, and no step takes a refund or the state back. -/
theorem blind_return_agrees (app : AppState) (rank : Uuid → Nat) (providers : Providers Remote Answer) (returnId : Uuid)
    (world : CounterWorld Remote) (opening : Opening returnId world)
    (events : List (Event (CounterChoice Answer) { task // OnReturn returnId task }))
    (meets : undisturbed.RunMeets ((returnCounter app rank providers).only (OnReturn returnId)) (Pool.quiet world) events) :
    let machine := (returnCounter app rank providers).only (OnReturn returnId)
    let after := machine.run (Pool.quiet world) events
    (after.threads = [] → TotalsAgree returnId after.world.hub.db.returns) ∧
      ∀ event, undisturbed.RunMeets machine (Pool.quiet world) (events ++ [event]) →
        NeverBack returnId after.world.hub.db.returns
          (machine.run (Pool.quiet world) (events ++ [event])).world.hub.db.returns := by
  intro machine after
  have begins : InBooks returnId world 0 := by
    obtain ⟨row, booked⟩ := opening.booked
    exact ⟨by simp, opening.returnIds, row, booked⟩
  have invariant : Invariant ((returnCounter app rank providers).only (OnReturn returnId)) _ _ _ (InBooks returnId) :=
    inBooks_invariant app
  constructor
  · intro quiet row stored
    have books := invariant.reached begins meets
    obtain ⟨own, booked⟩ := books.booked
    obtain rfl : own = row := Option.some.inj (booked.stored.symm.trans stored)
    have none : (after.pending : Multiset CounterRequest) = 0 := by
      rw [Pool.pending, quiet]
      rfl
    rw [none] at booked
    exact ⟨by simpa [owed] using booked.total, by simpa [owed] using booked.taxed⟩
  · intro event more
    let kept (before after : CounterWorld Remote) := NeverBack returnId before.hub.db.returns after.hub.db.returns
    have refl (world : CounterWorld Remote) : kept world world := fun row stored => ⟨row, stored, le_rfl, le_rfl⟩
    refine invariant.every_step refl ?_ begins more
    intro choice world others request meets books row stored
    obtain ⟨own, booked⟩ := books.booked
    obtain rfl : own = row := Option.some.inj (booked.stored.symm.trans stored)
    rw [owed_cons, owed_cons] at booked
    obtain ⟨_, row', after, further⟩ := step_goes meets (books.proper request (Multiset.mem_cons_self _ _)) books.unique booked
    exact ⟨row', after.stored, further⟩

end Runs

section Samples
open Attempts ReceiptedReturns

/-- An open return without a receipt. -/
def noReceipt : CounterWorld RemotePayments := counterWith ⟨[openReturn 60 none], [], [], []⟩

theorem noReceipt_opening : Opening 60 noReceipt :=
  ⟨by decide, openReturn 60 none, ⟨rfl, rfl, rfl, rfl, rfl, by decide, by decide⟩⟩

def bringBack (cents : Nat) : ReturnCommand := .returnLineItem ⟨60, "SKU", some "Item", 1, cents, 10, false, none⟩

def inCash (cents : Nat) : ReturnCommand := .refundTender ⟨60, "cash", cents, none⟩

/-- Two lines are added, one after the other, and their refund is paid in cash. -/
def takenBack : List (Event (CounterChoice ProviderAnswer) { task // OnReturn 60 task }) :=
  .start ⟨returnCommand 100 (bringBack 500), rfl⟩ :: counterSteps 20 500 ++
    .start ⟨returnCommand 101 (bringBack 300), rfl⟩ :: counterSteps 20 600 ++
    .start ⟨returnCommand 102 (inCash 400), rfl⟩ :: counterSteps 20 700

theorem two_lines_refunded :
    let machine := (returnCounter shop byBits contractual).only (OnReturn 60)
    let after := machine.run (Pool.quiet noReceipt) takenBack
    (Returns.lines 60 after.world.hub.db.returns).length = 2 ∧ Returns.refundedCents 60 after.world.hub.db.returns = 400 ∧
      TotalsAgree 60 after.world.hub.db.returns := by
  have agrees := blind_return_agrees shop byBits contractual 60 noReceipt noReceipt_opening takenBack (by decide +kernel)
  have settled : (((returnCounter shop byBits contractual).only (OnReturn 60)).run (Pool.quiet noReceipt) takenBack).threads = [] :=
    List.length_eq_zero_iff.mp (by decide +kernel)
  have added : (Returns.lines 60 (((returnCounter shop byBits contractual).only (OnReturn 60)).run
      (Pool.quiet noReceipt) takenBack).world.hub.db.returns).length = 2 := by decide +kernel
  have refunded : Returns.refundedCents 60 (((returnCounter shop byBits contractual).only (OnReturn 60)).run
      (Pool.quiet noReceipt) takenBack).world.hub.db.returns = 400 := by decide +kernel
  dsimp only at agrees ⊢
  generalize ((returnCounter shop byBits contractual).only (OnReturn 60)).run (Pool.quiet noReceipt) takenBack = after
    at agrees settled added refunded ⊢
  exact ⟨added, refunded, agrees.1 settled⟩

/-- Two lines at once: both handlers read the header of a return without lines. -/
def takenBackAtOnce : List (Event (CounterChoice ProviderAnswer) { task // OnReturn 60 task }) :=
  .start ⟨returnCommand 100 (bringBack 500), rfl⟩ :: .start ⟨returnCommand 101 (bringBack 300), rfl⟩ ::
    (List.range 24).map fun step => .step (step % 2) (counterChoice step (500 + step))

/-- The header as it is stored at the end, beside the sum of the lines. -/
def storedTotal (world : CounterWorld RemotePayments) : Option (Nat × Nat) :=
  (Returns.fetch 60 world.hub.db.returns).map fun row => (row.totalCents, grossCents 60 world.hub.db.returns)

theorem line_missing_from_total :
    ¬∀ (world : CounterWorld RemotePayments) (events : List (Event (CounterChoice ProviderAnswer) { task // OnReturn 60 task })),
      Opening 60 world →
        let after := ((returnCounter shop byBits contractual).only (OnReturn 60)).run (Pool.quiet world) events
        after.threads = [] → TotalsAgree 60 after.world.hub.db.returns := by
  intro all
  have ends := all noReceipt takenBackAtOnce noReceipt_opening
  have settled : (((returnCounter shop byBits contractual).only (OnReturn 60)).run (Pool.quiet noReceipt) takenBackAtOnce).threads = [] :=
    List.length_eq_zero_iff.mp (by decide +kernel)
  have stored : storedTotal (((returnCounter shop byBits contractual).only (OnReturn 60)).run
      (Pool.quiet noReceipt) takenBackAtOnce).world = some (510, 820) := by decide +kernel
  dsimp only at ends
  generalize ((returnCounter shop byBits contractual).only (OnReturn 60)).run (Pool.quiet noReceipt) takenBackAtOnce = after
    at ends settled stored
  obtain ⟨row, found, totals⟩ := Option.map_eq_some_iff.mp stored
  have missing := (ends settled row found).1
  simp only [Prod.mk.injEq] at totals
  omega

end Samples
end ApexEdge.Proofs.BlindReturns
