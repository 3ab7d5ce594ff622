import ApexEdge.Library.Totals
import ApexEdge.Proofs.RefundBounds

/-! The books of a return's refunds. What is promised stays within the return's total;
a refund is recorded on its promise, once, and the return's own figures follow. -/

namespace ApexEdge.Proofs.RefundBooks
open Library Payment Domain Storage Contracts Hub
open Refunding

/-- What refunds of a return have been promised, recorded or not. -/
def promisedCents (returnId : Uuid) (tables : ReturnTables) : Nat :=
  ((tables.refundIntents.filter (·.returnId = returnId)).map RefundIntentRow.amountCents).sum

/-- The row has what is recorded for it, and is paid when that is all of it. -/
def Settled (tables : ReturnTables) (row : ReturnRow) : Prop :=
  row.refundedCents = Returns.refundedCents row.id tables ∧
    (0 < row.totalCents → (row.state = .paid ↔ row.totalCents ≤ row.refundedCents))

/-- Every refund is recorded on its own promise. -/
structure Promises (tables : ReturnTables) : Prop where
  intentIds : (tables.refundIntents.map RefundIntentRow.id).Nodup
  refundIds : (tables.refunds.map RefundRow.id).Nodup
  promised : ∀ refund ∈ tables.refunds, terms refund ∈ tables.refundIntents

structure Booked (tables : ReturnTables) : Prop where
  unique : (tables.returns.map ReturnRow.id).Nodup
  intentIds : (tables.refundIntents.map RefundIntentRow.id).Nodup
  refundIds : (tables.refunds.map RefundRow.id).Nodup
  promised : ∀ refund ∈ tables.refunds, terms refund ∈ tables.refundIntents
  bounded : ∀ row ∈ tables.returns, promisedCents row.id tables ≤ row.totalCents
  settled : ∀ row ∈ tables.returns, Settled tables row

/-- The refunds of a return as they should be. -/
structure InBalance (tables : ReturnTables) (row : ReturnRow) : Prop where
  within : Returns.refundedCents row.id tables + Returns.reservedCents row.id tables ≤ row.totalCents
  recorded : row.refundedCents = Returns.refundedCents row.id tables
  paid : 0 < row.totalCents → (row.state = .paid ↔ row.refundedCents = row.totalCents)

section Books
variable {tables : ReturnTables} {refund : RefundRow}

theorem Booked.promises (booked : Booked tables) : Promises tables :=
  ⟨booked.intentIds, booked.refundIds, booked.promised⟩

/-- Where nothing has been refunded or promised, the books are in order. -/
theorem booked_unrefunded (unique : (tables.returns.map ReturnRow.id).Nodup) (refunds : tables.refunds = [])
    (intents : tables.refundIntents = [])
    (rows : ∀ row ∈ tables.returns, row.refundedCents = 0 ∧ row.state ≠ .paid) : Booked tables where
  unique := unique
  intentIds := by simp [intents]
  refundIds := by simp [refunds]
  promised := by simp [refunds]
  bounded _ _ := by simp [promisedCents, intents]
  settled row stored := by
    obtain ⟨none, unpaid⟩ := rows row stored
    refine ⟨by simp [none, Returns.refundedCents, Returns.refundsOf, refunds], fun some => ?_⟩
    exact ⟨fun paid => absurd paid unpaid, fun all => by omega⟩

/-- The promises whose refund is recorded are the terms of the recorded refunds. -/
theorem recorded_perm (promises : Promises tables) (returnId : Uuid) :
    ((Returns.refundsOf returnId tables).map terms).Perm
      (tables.refundIntents.filter fun intent => intent.returnId = returnId ∧ tables.refunds.any (·.id = intent.id)) := by
  have refunds : ((Returns.refundsOf returnId tables).map terms).Nodup := by
    refine List.Nodup.of_map RefundIntentRow.id ?_
    rw [List.map_map]
    exact promises.refundIds.sublist (List.filter_sublist.map RefundRow.id)
  have intents := (List.Nodup.of_map RefundIntentRow.id promises.intentIds).filter
    fun intent => intent.returnId = returnId ∧ tables.refunds.any (·.id = intent.id)
  refine (List.perm_ext_iff_of_nodup refunds intents).mpr fun intent => ?_
  constructor
  · intro member
    obtain ⟨refund, mine, rfl⟩ := List.mem_map.mp member
    obtain ⟨stored, own⟩ := List.mem_filter.mp mine
    refine List.mem_filter.mpr ⟨promises.promised refund stored, decide_eq_true ⟨of_decide_eq_true own, ?_⟩⟩
    exact List.any_eq_true.mpr ⟨refund, stored, decide_eq_true rfl⟩
  · intro member
    obtain ⟨stored, own⟩ := List.mem_filter.mp member
    obtain ⟨mine, recorded⟩ := of_decide_eq_true own
    obtain ⟨refund, listed, same⟩ := List.any_eq_true.mp recorded
    have is : terms refund = intent :=
      List.inj_on_of_nodup_map promises.intentIds (promises.promised refund listed) stored (of_decide_eq_true same)
    subst is
    exact List.mem_map.mpr ⟨refund, List.mem_filter.mpr ⟨listed, decide_eq_true mine⟩, rfl⟩

/-- What is recorded and what is reserved are together what was promised. -/
theorem promised_split (promises : Promises tables) (returnId : Uuid) :
    Returns.refundedCents returnId tables + Returns.reservedCents returnId tables = promisedCents returnId tables := by
  have recorded : Returns.refundedCents returnId tables = ((tables.refundIntents.filter fun intent =>
      intent.returnId = returnId ∧ tables.refunds.any (·.id = intent.id)).map RefundIntentRow.amountCents).sum := by
    rw [← ((recorded_perm promises returnId).map _).sum_nat, List.map_map]
    rfl
  rw [recorded]
  have split := Table.sum_split (fun intent : RefundIntentRow => decide (intent.returnId = returnId))
    (fun intent => tables.refunds.any (·.id = intent.id)) RefundIntentRow.amountCents tables.refundIntents
  simpa [Returns.reservedCents, Returns.unfinished, promisedCents] using split

theorem inBalance (booked : Booked tables) {row : ReturnRow} (stored : row ∈ tables.returns) : InBalance tables row where
  within := by
    rw [promised_split booked.promises]
    exact booked.bounded row stored
  recorded := (booked.settled row stored).1
  paid some := by
    have bounded := booked.bounded row stored
    obtain ⟨refunded, paid⟩ := booked.settled row stored
    rw [← promised_split booked.promises, ← refunded] at bounded
    exact (paid some).trans ⟨fun all => by omega, fun all => by omega⟩

/-- A reservation that is made is of what is left of its return. -/
theorem reserve_within (refund : RefundRow) (tables : ReturnTables) :
    Returns.reserve refund tables = tables ∨
      (tables.refundIntents.any (·.id = refund.id) = false ∧
        ∃ row ∈ tables.returns, row.id = refund.returnId ∧
          refund.amountCents + Returns.refundedCents row.id tables + Returns.reservedCents row.id tables ≤ row.totalCents) ∧
        Returns.reserve refund tables = { tables with refundIntents := tables.refundIntents ++ [terms refund] } := by
  unfold Returns.reserve
  cases found : Returns.fetch refund.returnId tables with
  | none => exact .inl rfl
  | some row =>
    have own : row.id = refund.returnId := by simpa using List.find?_some found
    dsimp only
    split
    next free =>
      refine .inr ⟨⟨by simpa using free.2.2.2, row, List.mem_of_find?_eq_some found, own, free.2.2.1⟩, ?_⟩
      rw [own]
      rfl
    next => exact .inl rfl

theorem promisedCents_append (returnId : Uuid) :
    promisedCents returnId { tables with refundIntents := tables.refundIntents ++ [terms refund] } =
      promisedCents returnId tables + if refund.returnId = returnId then refund.amountCents else 0 := by
  unfold promisedCents
  rw [List.filter_append, List.map_append, List.sum_append]
  by_cases own : refund.returnId = returnId <;> simp [own, terms]

theorem booked_reserve (booked : Booked tables) (refund : RefundRow) : Booked (Returns.reserve refund tables) := by
  rcases reserve_within refund tables with same | ⟨⟨fresh, row, stored, own, left⟩, added⟩
  · rwa [same]
  · rw [added]
    refine ⟨booked.unique, ?_, booked.refundIds, ?_, ?_, booked.settled⟩
    · have apart : ∀ intent ∈ tables.refundIntents, intent.id ≠ refund.id := by simpa using fresh
      simpa [List.nodup_append, booked.intentIds, terms] using apart
    · exact fun other listed => List.mem_append_left _ (booked.promised other listed)
    · intro other present
      have bound := booked.bounded other present
      rw [promisedCents_append]
      by_cases mine : refund.returnId = other.id
      · obtain rfl := List.inj_on_of_nodup_map booked.unique stored present (own.trans mine)
        have split := promised_split booked.promises row.id
        rw [if_pos mine]
        omega
      · rwa [if_neg mine]

/-- The tables with a refund that is recorded once. -/
def recording (refund : RefundRow) (tables : ReturnTables) : ReturnTables :=
  if Returns.recorded refund.id tables then tables else { tables with refunds := tables.refunds ++ [refund] }

theorem recording_refunds (refund : RefundRow) (tables : ReturnTables) :
    recording refund tables = tables ∨
      (∀ other ∈ tables.refunds, other.id ≠ refund.id) ∧
        recording refund tables = { tables with refunds := tables.refunds ++ [refund] } := by
  unfold recording Returns.recorded
  split
  · exact .inl rfl
  next fresh => exact .inr ⟨by simpa using fresh, rfl⟩

theorem recording_other {returnId : Uuid} (apart : refund.returnId ≠ returnId) :
    Returns.refundedCents returnId (recording refund tables) = Returns.refundedCents returnId tables := by
  rcases recording_refunds refund tables with same | ⟨_, added⟩
  · rw [same]
  · rw [added]
    simp [Returns.refundedCents, Returns.refundsOf, apart]

theorem recording_kept (refund : RefundRow) (tables : ReturnTables) :
    (recording refund tables).returns = tables.returns ∧ (recording refund tables).returnLines = tables.returnLines ∧
      (recording refund tables).refundIntents = tables.refundIntents := by
  unfold recording
  split <;> exact ⟨rfl, rfl, rfl⟩

/-- Bring the return of a refund up to date with what is recorded. -/
def settling (refund : RefundRow) (tables : ReturnTables) : Table.Update ReturnRow :=
  let refunded := Returns.refundedCents refund.returnId (recording refund tables)
  { selects := (·.id = refund.returnId)
    set := fun row =>
      { row with refundedCents := refunded, state := if row.totalCents ≤ refunded then .paid else .tendered } }

theorem complete_eq (refund : RefundRow) (tables : ReturnTables) : Returns.complete refund tables =
    { recording refund tables with returns := (settling refund tables).run tables.returns } := by
  rw [← (recording_kept refund tables).1]
  rfl

/-- Recording a promised refund, and bringing its return up to date. -/
theorem booked_complete (booked : Booked tables) (refund : RefundRow) (promised : terms refund ∈ tables.refundIntents) :
    Booked (Returns.complete refund tables) := by
  obtain ⟨_, _, kept⟩ := recording_kept refund tables
  let update := settling refund tables
  have ids (row : ReturnRow) : (update.row row).id = row.id := update.row_column ReturnRow.id (fun _ => rfl) row
  have totals (row : ReturnRow) : (update.row row).totalCents = row.totalCents :=
    update.row_column ReturnRow.totalCents (fun _ => rfl) row
  rw [complete_eq]
  refine ⟨Table.unique_run (fun _ => rfl) booked.unique, by rw [kept]; exact booked.intentIds, ?_, ?_, ?_, ?_⟩
  · dsimp only
    rcases recording_refunds refund tables with same | ⟨fresh, added⟩
    · rw [same]
      exact booked.refundIds
    · rw [added]
      simpa [List.nodup_append, booked.refundIds] using fresh
  · dsimp only
    rw [kept]
    intro other listed
    rcases recording_refunds refund tables with same | ⟨_, added⟩
    · rw [same] at listed
      exact booked.promised other listed
    · rw [added] at listed
      rcases List.mem_append.mp listed with old | new
      · exact booked.promised other old
      · exact (List.mem_singleton.mp new) ▸ promised
  · intro row present
    obtain ⟨old, stored, rfl⟩ := List.mem_map.mp present
    rw [ids, totals]
    simp only [promisedCents, kept]
    exact booked.bounded old stored
  · intro row present
    obtain ⟨old, stored, rfl⟩ := List.mem_map.mp present
    by_cases mine : old.id = refund.returnId
    · rw [Table.Update.row_selected (decide_eq_true mine)]
      let refunded := Returns.refundedCents refund.returnId (recording refund tables)
      refine ⟨by show refunded = Returns.refundedCents old.id (recording refund tables); rw [mine], fun _ => ?_⟩
      show (if old.totalCents ≤ refunded then ReturnState.paid else .tendered) = .paid ↔ old.totalCents ≤ refunded
      split
      next all => exact ⟨fun _ => all, fun _ => rfl⟩
      next some => exact ⟨(nomatch ·), fun all => absurd all some⟩
    · rw [Table.Update.row_kept (decide_eq_false mine)]
      obtain ⟨recorded, paid⟩ := booked.settled old stored
      exact ⟨recorded.trans (recording_other fun same => mine same.symm).symm, paid⟩

end Books

/-- A refund is recorded on its promise; a refund command does nothing else to the returns. -/
def grants {Remote : Type} (world : DeskWorld Remote) (request : DeskRequest) : Prop :=
  match request.op.call with
  | .refund .. => True
  | call => isDeskCall call = true ∧ Covered world.hub.db call

def books {Remote Answer : Type} (providers : Providers Remote Answer) :
    Rules DeskRequest (Tagged.Reply Request.Reply) (DeskWorld Remote) (Choice Answer) :=
  { perform := performAtDesk providers
    condition := .always
    invariant := fun world => Booked world.hub.db.returns
    interference := fun before after => Grows before.hub.db after.hub.db
    grants := grants }

section Runs
variable {Remote Answer : Type} (app : AppState) (providers : Providers Remote Answer)

theorem books_host (command : RefundCommand) : Hosts ((books providers).at command) providers DeskWorld.hub app command where
  performs _ _ _ := ⟨rfl, rfl⟩
  stays grows := grows
  serves {_ _ call} served covered := by
    show grants _ _
    cases call <;> first | exact ⟨served, covered⟩ | cases served
  refunds _ := trivial

theorem program_granted (command : RefundCommand) (world : DeskWorld Remote) :
    (books providers).Safe (fun _ _ => True) world (command.program app) := by
  have hosts := books_host app providers command
  apply Rules.safe_tagged
  exact handlePosCommand_safe (fun _ => refundTender_safe hosts) (fun _ _ _ => hosts.serves rfl trivial)
    fun _ _ _ _ => hosts.serves rfl trivial

theorem not_order {world : DeskWorld Remote} {request : DeskRequest} (granted : grants world request)
    (entry : NewOrderLedgerEntry) (outboxId : Uuid) : request.op.call ≠ .insertOrderLedgerEntryWithOutbox entry outboxId := by
  intro called
  simp [grants, called, isDeskCall] at granted

theorem books_assured : (books providers : Rules _ _ _ (Choice Answer)).Assured where
  refl world := .refl world.hub.db
  trans := Grows.trans
  step choice world others request booked granted _ := by
    refine ⟨?_, perform_grows (not_order granted)⟩
    show Booked (perform providers choice world.hub request.op).2.db.returns
    have changed := StepEffects.perform_db providers choice world.hub request.op
    generalize (perform providers choice world.hub request.op).2.db = db at changed
    cases changed with
    | same | answered | saved | ledger => exact booked
    | ordered entry outboxId _ _ called => exact absurd called (not_order granted entry outboxId)
    | reserved refund => exact booked_reserve booked refund
    | completed refund called =>
      have granted : grants world request := granted
      unfold grants at granted
      rw [called] at granted
      exact booked_complete booked refund granted.2

end Runs

/-- In every run of refund commands, on whatever returns and under whatever keys, with
retries, failing providers and crashes, what is recorded and reserved of a return stays
within its total, no refund is recorded twice, the return has what is recorded for it, and
one with anything to refund is paid exactly when it is refunded in full. -/
theorem refunds_in_balance {Remote Answer : Type} (app : AppState) (providers : Providers Remote Answer)
    (world : DeskWorld Remote) (booked : Booked world.hub.db.returns) (events : List (Event (Choice Answer) RefundCommand)) :
    let after := ((refundDesk app providers).run (Pool.quiet world) events).world.hub.db.returns
    (after.refunds.map RefundRow.id).Nodup ∧ ∀ row ∈ after.returns, InBalance after row := by
  intro after
  have kept : Booked after :=
    Rules.reached (books_assured providers) rfl booked (fun command _ => program_granted app providers command)
      (Condition.runMeets_always events)
  exact ⟨kept.refundIds, fun row stored => inBalance kept stored⟩

section Samples
open Attempts RefundBounds

def refundInCash (key cents : Nat) : Event (Choice ProviderAnswer) RefundCommand :=
  .start
    { boundRegister := none
      envelope := { version := .v1_0_0, idempotencyKey := .random key, storeId := 1, registerId := 2
                    payload := .refundTender ⟨60, "cash", cents, none⟩ }
      refund := ⟨60, "cash", cents, none⟩ }

/-- Two refunds whose requests take turns, and the first of them once more. -/
def takingTurns : List (Event (Choice ProviderAnswer) RefundCommand) :=
  let turns := (List.range 30).map fun step => .step (step % 2) (choice step (500 + step) approves)
  refundInCash 100 4000 :: refundInCash 101 6000 :: turns ++ refundInCash 100 4000 :: answers 14

theorem return_refunded_in_full :
    let after := ((refundDesk shop contractual).run (Pool.quiet (returned 10000)) takingTurns).world.hub.db.returns
    Returns.refundedCents 60 after = 10000 ∧
      (after.refunds.map RefundRow.id).Nodup ∧ ∀ row ∈ after.returns, InBalance after row :=
  ⟨by decide +kernel,
    refunds_in_balance shop contractual (returned 10000) (booked_unrefunded (by decide) rfl rfl (by decide)) takingTurns⟩

/-- A return of things that cost nothing. -/
def nothingReturned : DeskWorld RemotePayments :=
  { hub :=
      { db :=
          { responses := [], carts := [], paymentIntents := [], orders := [], outbox := []
            returns := ⟨[⟨60, 1, 2, none, some 50, none, .items, 0, 0, 0, none⟩], [], [], []⟩ }
        remote := .empty }
    requested := [] }

/-- There is nothing to refund, every refund is refused, and the return is not paid. -/
theorem free_return_is_not_paid :
    ¬∀ (world : DeskWorld RemotePayments) (events : List (Event (Choice ProviderAnswer) RefundCommand)),
      Booked world.hub.db.returns →
      let after := ((refundDesk shop contractual).run (Pool.quiet world) events).world.hub.db.returns
      ∀ row ∈ after.returns, (row.state = .paid ↔ row.refundedCents = row.totalCents) := by
  intro all
  have same := all nothingReturned (refundInCash 100 1 :: answers 14) (booked_unrefunded (by decide) rfl rfl (by decide))
  revert same
  decide +kernel

end Samples
end ApexEdge.Proofs.RefundBooks
