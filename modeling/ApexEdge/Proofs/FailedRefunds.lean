import ApexEdge.Domain.Returns
import ApexEdge.Proofs.RefundBooks

/-! Refunds that fail. A refund reserves its amount before its payment is looked for, and
nothing takes a reservation back. What a failed refund leaves is known from where it began. -/

namespace ApexEdge.Proofs.FailedRefunds
open Library Payment Domain Storage Contracts Hub
open Refunding RefundBooks

/-- What can still be refunded of a return. -/
def balanceCents (returnId : Uuid) (tables : ReturnTables) : Nat :=
  match Returns.fetch returnId tables with
  | none => 0
  | some row => row.totalCents - (Returns.refundedCents returnId tables + Returns.reservedCents returnId tables)

/-- The refund would be reserved now. -/
def canRefund (refund : RefundRow) (tables : ReturnTables) : Prop :=
  refund.amountCents < 2 ^ 63 ∧ Returns.reserve refund tables ≠ tables

/-- The return would be voided now. -/
def canVoid (returnId : Uuid) (tables : ReturnTables) : Prop :=
  ∃ row, Returns.fetch returnId tables = some row ∧
    (ReturnSnapshot.void ⟨row, Returns.lines returnId tables, Returns.refundsOf returnId tables⟩).isOk ∧
      (Returns.voidRow returnId tables).isOk

/-- A refund that is tried on a return has changed nothing for those that follow. -/
structure SameChances (returnId refundId : Uuid) (before after : ReturnTables) : Prop where
  balance : balanceCents returnId after = balanceCents returnId before
  tender : ∀ other : RefundRow, other.returnId = returnId → other.id ≠ refundId →
    (canRefund other after ↔ canRefund other before)
  void : canVoid returnId after ↔ canVoid returnId before

/-- Refunds and reservations that belong together. One that is not finished is of a return
that still takes refunds. -/
structure Standing (tables : ReturnTables) : Prop where
  unique : (tables.returns.map ReturnRow.id).Nodup
  promises : Promises tables
  positive : ∀ intent ∈ tables.refundIntents, 0 < intent.amountCents
  bounded : ∀ row ∈ tables.returns, promisedCents row.id tables ≤ row.totalCents
  pending : ∀ row ∈ tables.returns, Returns.unfinished row.id tables ≠ [] → row.state = .items ∨ row.state = .tendered

/-- Where nothing is reserved, nothing is pending. -/
theorem standing_unrefunded {tables : ReturnTables} (unique : (tables.returns.map ReturnRow.id).Nodup)
    (refunds : tables.refunds = []) (intents : tables.refundIntents = []) : Standing tables where
  unique := unique
  promises := ⟨by simp [intents], by simp [refunds], by simp [refunds]⟩
  positive := by simp [intents]
  bounded _ _ := by simp [promisedCents, intents]
  pending _ _ some := absurd (by simp [Returns.unfinished, intents]) some

section Tables
variable {tables after : ReturnTables} {refund paid : RefundRow} {row : ReturnRow}

/-- When a refund is reserved, of which return and against what. -/
structure Reservable (refund : RefundRow) (tables : ReturnTables) (row : ReturnRow) : Prop where
  found : Returns.fetch refund.returnId tables = some row
  works : row.state = .items ∨ row.state = .tendered
  positive : 0 < refund.amountCents
  left : refund.amountCents + Returns.refundedCents row.id tables + Returns.reservedCents row.id tables ≤ row.totalCents
  fresh : ∀ intent ∈ tables.refundIntents, intent.id ≠ refund.id

theorem Reservable.own (reservable : Reservable refund tables row) : row ∈ tables.returns ∧ row.id = refund.returnId :=
  ⟨List.mem_of_find?_eq_some reservable.found, by simpa using List.find?_some reservable.found⟩

theorem reserve_cases (refund : RefundRow) (tables : ReturnTables) :
    (Returns.reserve refund tables = tables ∧ ∀ row, ¬Reservable refund tables row) ∨
      ∃ row, Reservable refund tables row ∧
        Returns.reserve refund tables = { tables with refundIntents := tables.refundIntents ++ [terms refund] } := by
  unfold Returns.reserve
  cases found : Returns.fetch refund.returnId tables with
  | none => exact .inl ⟨rfl, fun row reservable => by cases found.symm.trans reservable.found⟩
  | some row =>
    have own : row.id = refund.returnId := by simpa using List.find?_some found
    dsimp only
    split
    next free =>
      refine .inr ⟨row, ⟨found, free.1, free.2.1, free.2.2.1, by simpa using free.2.2.2⟩, ?_⟩
      rw [own]
      rfl
    next kept =>
      refine .inl ⟨rfl, fun other reservable => kept ?_⟩
      obtain rfl := Option.some.inj (found.symm.trans reservable.found)
      exact ⟨reservable.works, reservable.positive, reservable.left, by simpa using reservable.fresh⟩

theorem reserve_ne_iff : Returns.reserve refund tables ≠ tables ↔ ∃ row, Reservable refund tables row := by
  rcases reserve_cases refund tables with ⟨same, none⟩ | ⟨row, reservable, added⟩
  · exact ⟨fun made => absurd same made, fun ⟨row, reservable⟩ => absurd reservable (none row)⟩
  · refine ⟨fun _ => ⟨row, reservable⟩, fun _ same => ?_⟩
    have longer := congrArg (fun tables => tables.refundIntents.length) (added.symm.trans same)
    simp at longer

theorem standing_reserve (standing : Standing tables) (refund : RefundRow) : Standing (Returns.reserve refund tables) := by
  rcases reserve_cases refund tables with ⟨same, _⟩ | ⟨row, reservable, added⟩
  · rwa [same]
  · obtain ⟨stored, own⟩ := reservable.own
    have split := promised_split standing.promises row.id
    have left := reservable.left
    rw [added]
    refine ⟨standing.unique, ⟨?_, standing.promises.refundIds, ?_⟩, ?_, ?_, ?_⟩
    · simpa [List.nodup_append, standing.promises.intentIds, terms] using reservable.fresh
    · exact fun other listed => List.mem_append_left _ (standing.promises.promised other listed)
    · intro intent member
      rcases List.mem_append.mp member with old | new
      · exact standing.positive intent old
      · exact (List.mem_singleton.mp new) ▸ reservable.positive
    · intro other present
      have bound := standing.bounded other present
      rw [promisedCents_append]
      by_cases mine : refund.returnId = other.id
      · obtain rfl := List.inj_on_of_nodup_map standing.unique stored present (own.trans mine)
        rw [if_pos mine]
        omega
      · rwa [if_neg mine]
    · intro other present some
      by_cases mine : refund.returnId = other.id
      · obtain rfl := List.inj_on_of_nodup_map standing.unique stored present (own.trans mine)
        exact reservable.works
      · refine standing.pending other present fun none => some ?_
        have off : ¬(terms refund).returnId = other.id := mine
        unfold Returns.unfinished at none ⊢
        rw [List.filter_append, none, List.nil_append]
        exact List.filter_eq_nil_iff.mpr fun intent member => by
          rw [List.mem_singleton.mp member]
          simp [off]

theorem promises_complete (promises : Promises tables) (promised : terms paid ∈ tables.refundIntents) :
    Promises (Returns.complete paid tables) := by
  obtain ⟨_, _, kept⟩ := recording_kept paid tables
  rw [complete_eq]
  refine ⟨by dsimp only; rw [kept]; exact promises.intentIds, ?_, ?_⟩
  · dsimp only
    rcases recording_refunds paid tables with same | ⟨fresh, added⟩
    · rw [same]
      exact promises.refundIds
    · rw [added]
      simpa [List.nodup_append, promises.refundIds] using fresh
  · dsimp only
    rw [kept]
    intro other listed
    rcases recording_refunds paid tables with same | ⟨_, added⟩
    · exact promises.promised other (same ▸ listed)
    · rw [added] at listed
      rcases List.mem_append.mp listed with old | new
      · exact promises.promised other old
      · exact (List.mem_singleton.mp new) ▸ promised

/-- Recording a refund finishes its reservation and no other. -/
theorem unfinished_complete (returnId : Uuid) :
    ∀ intent ∈ Returns.unfinished returnId (Returns.complete paid tables), intent ∈ Returns.unfinished returnId tables := by
  intro intent member
  obtain ⟨stored, waiting⟩ := List.mem_filter.mp member
  rw [complete_intents] at stored
  obtain ⟨own, unrecorded⟩ := of_decide_eq_true waiting
  refine List.mem_filter.mpr ⟨stored, decide_eq_true ⟨own, ?_⟩⟩
  have none : ∀ refund ∈ (recording paid tables).refunds, refund.id ≠ intent.id := by
    rw [complete_eq] at unrecorded
    simpa using unrecorded
  have less : ∀ refund ∈ tables.refunds, refund ∈ (recording paid tables).refunds := by
    intro refund listed
    rcases recording_refunds paid tables with same | ⟨_, added⟩
    · rwa [same]
    · rw [added]
      exact List.mem_append_left _ listed
  simpa using fun refund listed => none refund (less refund listed)

theorem promisedCents_complete (returnId : Uuid) :
    promisedCents returnId (Returns.complete paid tables) = promisedCents returnId tables := by
  unfold promisedCents
  rw [complete_intents]

theorem complete_row (row : ReturnRow) : ((settling paid tables).row row).id = row.id ∧
    ((settling paid tables).row row).totalCents = row.totalCents :=
  ⟨(settling paid tables).row_column ReturnRow.id (fun _ => rfl) row,
    (settling paid tables).row_column ReturnRow.totalCents (fun _ => rfl) row⟩

/-- A return that is not refunded in full takes more refunds. -/
theorem state_complete (mine : row.id = paid.returnId)
    (left : Returns.refundedCents paid.returnId (Returns.complete paid tables) < row.totalCents) :
    ((settling paid tables).row row).state = .tendered := by
  rw [Table.Update.row_selected (decide_eq_true mine)]
  rw [complete_eq] at left
  exact if_neg (Nat.not_le.mpr left)

/-- A return that is paid in full has no reservations left. -/
theorem unfinished_nil (promises : Promises tables) (positive : ∀ intent ∈ tables.refundIntents, 0 < intent.amountCents)
    {returnId : Uuid} (all : promisedCents returnId tables ≤ Returns.refundedCents returnId tables) :
    Returns.unfinished returnId tables = [] := by
  have split := promised_split promises returnId
  refine List.eq_nil_iff_forall_not_mem.mpr fun intent member => ?_
  have some := positive intent (List.mem_of_mem_filter member)
  have part : intent.amountCents ≤ Returns.reservedCents returnId tables :=
    List.single_le_sum (fun _ _ => Nat.zero_le _) _ (List.mem_map_of_mem member)
  omega

theorem standing_complete (standing : Standing tables) (promised : terms paid ∈ tables.refundIntents) :
    Standing (Returns.complete paid tables) := by
  have promises := promises_complete standing.promises promised
  have positive : ∀ intent ∈ (Returns.complete paid tables).refundIntents, 0 < intent.amountCents := by
    rw [complete_intents]
    exact standing.positive
  have rows : (Returns.complete paid tables).returns = (settling paid tables).run tables.returns := by rw [complete_eq]
  refine ⟨by rw [rows]; exact Table.unique_run (fun _ => rfl) standing.unique, promises, positive, ?_, ?_⟩
  · rw [rows]
    intro row present
    obtain ⟨old, stored, rfl⟩ := List.mem_map.mp present
    rw [(complete_row old).1, (complete_row old).2, promisedCents_complete]
    exact standing.bounded old stored
  · rw [rows]
    intro row present some
    obtain ⟨old, stored, rfl⟩ := List.mem_map.mp present
    rw [(complete_row old).1] at some
    by_cases mine : old.id = paid.returnId
    · refine .inr (state_complete mine ?_)
      by_contra all
      have bound := standing.bounded old stored
      exact some (unfinished_nil promises positive (by rw [promisedCents_complete, mine] at *; omega))
    · rw [Table.Update.row_kept (decide_eq_false mine)]
      refine standing.pending old stored fun none => some ?_
      exact List.eq_nil_iff_forall_not_mem.mpr fun intent member => by
        have old := unfinished_complete old.id intent member
        rw [none] at old
        cases old

theorem fetch_complete (id : Uuid) :
    Returns.fetch id (Returns.complete paid tables) = (Returns.fetch id tables).map (settling paid tables).row := by
  rw [complete_eq]
  exact Table.find?_run (settling paid tables) (fun row => decide (row.id = id)) (fun _ => rfl) tables.returns

/-- The balance is what has not been promised. -/
theorem balanceCents_eq (promises : Promises tables) {returnId : Uuid} (found : Returns.fetch returnId tables = some row) :
    balanceCents returnId tables = row.totalCents - promisedCents returnId tables := by
  unfold balanceCents
  rw [found]
  dsimp only
  rw [promised_split promises]

/-- A return with a reservation, finished or not, is not voided. -/
theorem not_canVoid {returnId : Uuid} {intent : RefundIntentRow} (stored : intent ∈ tables.refundIntents)
    (own : intent.returnId = returnId) : ¬canVoid returnId tables := by
  rintro ⟨_, _, _, works⟩
  have none : (tables.returns.filter fun row => row.id = returnId ∧ Returns.isUnrefunded tables row) = [] := by
    refine List.filter_eq_nil_iff.mpr fun row _ selected => ?_
    obtain ⟨mine, unrefunded⟩ := of_decide_eq_true selected
    have unreserved := (of_decide_eq_true unrefunded).2
    rw [Bool.not_eq_true', List.any_eq_false] at unreserved
    exact unreserved intent stored (decide_eq_true (own.trans mine.symm))
  unfold Returns.voidRow at works
  dsimp only at works
  rw [none, if_neg (by simp)] at works
  cases works

theorem SameChances.refl (returnId refundId : Uuid) (tables : ReturnTables) :
    SameChances returnId refundId tables tables := ⟨rfl, fun _ _ _ => Iff.rfl, Iff.rfl⟩

/-- What a refund command can do to the returns once its reservation has been tried. -/
inductive Moved (refund : RefundRow) (tables : ReturnTables) : ReturnTables → Prop where
  | same : Moved refund tables tables
  | recorded (paid : RefundRow) (own : terms paid = terms refund) (promised : terms refund ∈ tables.refundIntents)
      (fresh : Returns.recorded refund.id tables = false) : Moved refund tables (Returns.complete paid tables)

/-- Others can be refunded on the return as before: what was reserved is recorded now. -/
theorem reservable_complete (standing : Standing tables) (own : terms paid = terms refund)
    (promised : terms refund ∈ tables.refundIntents) (fresh : Returns.recorded refund.id tables = false)
    {other : RefundRow} (mine : other.returnId = refund.returnId) :
    (∃ row, Reservable other (Returns.complete paid tables) row) ↔ ∃ row, Reservable other tables row := by
  have home : paid.returnId = refund.returnId := congrArg RefundIntentRow.returnId own
  have after := promised_split (promises_complete standing.promises (own ▸ promised)) refund.returnId
  have before := promised_split standing.promises refund.returnId
  rw [promisedCents_complete] at after
  have waiting : terms refund ∈ Returns.unfinished refund.returnId tables :=
    List.mem_filter.mpr ⟨promised, decide_eq_true ⟨rfl, (Bool.not_eq_true' _).mpr fresh⟩⟩
  constructor
  · rintro ⟨row', reservable⟩
    have found := reservable.found
    rw [fetch_complete] at found
    obtain ⟨row, present, rfl⟩ := Option.map_eq_some_iff.mp found
    have same : row.id = refund.returnId := by simpa [mine] using List.find?_some present
    have left := reservable.left
    rw [(complete_row row).1, (complete_row row).2, same] at left
    refine ⟨row, present, ?_, reservable.positive, by rw [same]; omega, ?_⟩
    · exact standing.pending row (List.mem_of_find?_eq_some present) (by rw [same]; exact List.ne_nil_of_mem waiting)
    · rw [← complete_intents paid tables]
      exact reservable.fresh
  · rintro ⟨row, reservable⟩
    have same : row.id = refund.returnId := reservable.own.2.trans mine
    have left := reservable.left
    have some := reservable.positive
    rw [same] at left
    refine ⟨(settling paid tables).row row, by rw [fetch_complete, reservable.found, Option.map_some], .inr ?_,
      reservable.positive, ?_, by rw [complete_intents]; exact reservable.fresh⟩
    · -- more is left of the return than has been recorded
      refine state_complete (same.trans home.symm) ?_
      rw [home]
      omega
    · rw [(complete_row row).1, (complete_row row).2, same]
      omega

theorem sameChances_moved (standing : Standing tables) (moved : Moved refund tables after) :
    SameChances refund.returnId refund.id tables after := by
  cases moved with
  | same => exact .refl _ _ _
  | recorded paid own promised fresh =>
    refine ⟨?_, fun other mine _ => ?_, ?_⟩
    · cases found : Returns.fetch refund.returnId tables with
      | none =>
        unfold balanceCents
        rw [fetch_complete, found]
        rfl
      | some row =>
        rw [balanceCents_eq standing.promises found,
          balanceCents_eq (promises_complete standing.promises (own ▸ promised))
            ((fetch_complete refund.returnId).trans (congrArg _ found)),
          (complete_row row).2, promisedCents_complete]
    · unfold canRefund
      rw [reserve_ne_iff, reserve_ne_iff, reservable_complete standing own promised fresh mine]
    · have stays : terms refund ∈ (Returns.complete paid tables).refundIntents := by rwa [complete_intents]
      exact iff_of_false (not_canVoid stays rfl) (not_canVoid promised rfl)

/-- A reservation that was made is missing from the balance. -/
theorem not_sameChances_reserved (standing : Standing tables) (reserved : Returns.reserve refund tables ≠ tables)
    (moved : Moved refund (Returns.reserve refund tables) after) :
    ¬SameChances refund.returnId refund.id tables after := by
  intro same
  rcases reserve_cases refund tables with ⟨kept, _⟩ | ⟨row, reservable, added⟩
  · exact reserved kept
  have standing' := standing_reserve standing refund
  have split := promised_split standing.promises refund.returnId
  have own := reservable.own.2
  have left := reservable.left
  have some := reservable.positive
  have found : Returns.fetch refund.returnId (Returns.reserve refund tables) = .some row := by
    rw [added]
    exact reservable.found
  have more : promisedCents refund.returnId (Returns.reserve refund tables) =
      promisedCents refund.returnId tables + refund.amountCents := by
    rw [added, promisedCents_append, if_pos rfl]
  have smaller : balanceCents refund.returnId (Returns.reserve refund tables) < balanceCents refund.returnId tables := by
    rw [balanceCents_eq standing'.promises found, balanceCents_eq standing.promises reservable.found, more]
    rw [own] at left
    omega
  have kept := (sameChances_moved standing' moved).balance
  have back := same.balance
  omega

end Tables
section Runs
variable {Remote Answer : Type} (app : AppState) (providers : Providers Remote Answer) (choices : Nat → Choice Answer)

/-- Requests are answered one after another; the stream says what each of them meets. -/
def inTurn (state : DeskWorld Remote × Nat) (request : DeskRequest) : request.Reply × DeskWorld Remote × Nat :=
  let answered := performAtDesk providers (choices state.2) state.1 request
  (answered.1, answered.2, state.2 + 1)

/-- The same for the requests of one command. -/
def inTurnOf (command : RefundCommand) (state : DeskWorld Remote × Nat) (request : Request) :
    request.Reply × DeskWorld Remote × Nat := inTurn providers choices state ⟨command, request⟩

/-- Nothing keeps the command from trying its reservation: it is taken, not answered yet,
on a return of the store, and storage works so far. -/
structure Arrives (command : RefundCommand) (world : DeskWorld Remote) (n : Nat) : Prop where
  store : command.envelope.storeId = app.storeId
  register : command.boundRegister.any (· ≠ command.envelope.registerId) = false
  version : command.envelope.version = .v1_0_0
  unanswered : (choices n).storageFailure = none →
    world.hub.db.responses.lookup command.envelope.idempotencyKey = none
  works : ∀ i < 4, (choices (n + 1 + i)).storageFailure = none
  home : ∃ row, Returns.fetch command.refund.returnId world.hub.db.returns = some row ∧
    row.storeId = command.envelope.storeId

/-- The refund that a command asks for, as it is reserved and recorded. -/
def wanted (command : RefundCommand) : RefundRow := refundRow command.posEnvelope command.refund

end Runs

section Programs
variable {Remote Answer : Type} {app : AppState} {providers : Providers Remote Answer} {choices : Nat → Choice Answer}
  {command : RefundCommand} {state : DeskWorld Remote × Nat} {frame : Frame}

/-- What a return is loaded from. -/
def Loads (choices : Nat → Choice Answer) (n : Nat) (id : Uuid) (tables : ReturnTables) (row : ReturnRow) : Prop :=
  (∀ i < 3, (choices (n + i)).storageFailure = none) ∧ Returns.fetch id tables = some row

/-- A read leaves the desk as it is. -/
theorem alone_read {ε : Type} {call : Call} {post : DeskWorld Remote × Nat → Except ε call.Reply → Prop}
    (reads : ∀ choice (world : World Remote), (perform providers choice world ⟨frame, call⟩).2 = world)
    (quiet : asked ⟨command, ⟨frame, call⟩⟩ = [])
    (rest : post (state.1, state.2 + 1) (.ok (perform providers (choices state.2) state.1.hub ⟨frame, call⟩).1)) :
    (Rules.alone (inTurnOf providers choices command)).Safe post state (reply frame call : Action ε call.Reply) := by
  apply Rules.alone_ask
  simp only [inTurnOf, inTurn, performAtDesk, reads, quiet, List.append_nil]
  exact rest

/-- A return is loaded as it is, unless storage fails. -/
theorem loadSnapshot_alone (id : Uuid) :
    (Rules.alone (inTurnOf providers choices command)).Safe
      (fun after result => after.1 = state.1 ∧
        match result with
        | .ok snapshot => after.2 = state.2 + 3 ∧ Loads choices state.2 id state.1.hub.db.returns snapshot.row
        | .error _ => ∀ row, ¬Loads choices state.2 id state.1.hub.db.returns row) state (loadSnapshot frame id) := by
  obtain ⟨world, n⟩ := state
  apply Rules.safe_andThen
  apply Rules.safe_orThrow
  refine alone_read (fun _ _ => query_world ..) rfl ?_
  simp only [perform, query]
  cases first : (choices n).storageFailure with
  | some error => exact ⟨trivial, fun row loads => by simpa [first] using loads.1 0 (by decide)⟩
  | none =>
    cases found : Returns.fetch id world.hub.db.returns with
    | none => exact ⟨rfl, fun row loads => by cases found.symm.trans loads.2⟩
    | some row =>
      apply Rules.safe_andThen
      apply Rules.safe_orThrow
      refine alone_read (fun _ _ => query_world ..) rfl ?_
      simp only [perform, query]
      cases second : (choices (n + 1)).storageFailure with
      | some error => exact ⟨trivial, fun row loads => by simpa [second] using loads.1 1 (by decide)⟩
      | none =>
        apply Rules.safe_andThen
        apply Rules.safe_orThrow
        refine alone_read (fun _ _ => query_world ..) rfl ?_
        simp only [perform, query]
        cases third : (choices (n + 1 + 1)).storageFailure with
        | some error => exact ⟨trivial, fun row loads => by simpa [third] using loads.1 2 (by decide)⟩
        | none =>
          refine ⟨rfl, rfl, fun i small => ?_, found⟩
          obtain rfl | rfl | rfl : i = 0 ∨ i = 1 ∨ i = 2 := by omega
          · exact first
          · exact second
          · exact third

/-- The reservation, as far as storage and the amount's type let it be tried. -/
def tried (choice : Choice Answer) (refund : RefundRow) (tables : ReturnTables) : ReturnTables :=
  if choice.storageFailure = none ∧ refund.amountCents < 2 ^ 63 then Returns.reserve refund tables else tables

theorem reserveRefund_alone {ε : Type} (refund : RefundRow)
    {post : DeskWorld Remote × Nat → Except ε (Except PoolError Unit) → Prop}
    (rest : ∀ after done,
      after.1.hub.db.returns = tried (choices state.2) refund state.1.hub.db.returns → post after (.ok done)) :
    (Rules.alone (inTurnOf providers choices command)).Safe post state
      (reply frame (.reserveRefund refund) : Action ε (Except PoolError Unit)) := by
  refine Rules.alone_ask (rest _ _ ?_)
  simp only [inTurnOf, inTurn, performAtDesk, perform, transact, tried]
  cases (choices state.2).storageFailure with
  | some error => simp
  | none =>
    by_cases large : 2 ^ 63 ≤ refund.amountCents
    · rw [if_pos large, if_neg (by omega)]
    · rw [if_neg large, if_pos ⟨rfl, by omega⟩]

/-- A refund that may be made has its reservation, and it is known whether it is recorded. -/
theorem prepareRefund_alone (refund : RefundRow) :
    (Rules.alone (inTurnOf providers choices command)).Safe
      (fun after result => after.1.hub.db.returns = tried (choices state.2) refund state.1.hub.db.returns ∧
        ∀ recorded, result = .ok recorded → terms refund ∈ after.1.hub.db.returns.refundIntents ∧
          recorded = Returns.recorded refund.id after.1.hub.db.returns) state (prepareRefund frame refund) := by
  apply Rules.safe_andThen
  apply Rules.safe_orThrow
  refine reserveRefund_alone refund fun reserved done moved => ?_
  cases done with
  | error error => exact ⟨moved, fun _ impossible => by cases impossible⟩
  | ok _ =>
    apply Rules.safe_andThen
    apply Rules.safe_orThrow
    refine alone_read (fun _ _ => query_world ..) rfl ?_
    simp only [perform, query]
    cases (choices reserved.2).storageFailure with
    | some error => exact ⟨moved, fun _ impossible => by cases impossible⟩
    | none =>
      cases found : Returns.reservation refund.id reserved.1.hub.db.returns with
      | none => exact ⟨moved, fun _ impossible => by cases impossible⟩
      | some intent =>
        dsimp only
        split
        next same =>
          have own : intent.id = refund.id := by simpa using List.find?_some found
          have listed : terms refund ∈ reserved.1.hub.db.returns.refundIntents := by
            have member := List.mem_of_find?_eq_some found
            obtain ⟨id, returnId, tenderType, amountCents⟩ := intent
            obtain ⟨rfl, rfl, rfl⟩ := same
            obtain rfl := own
            exact member
          apply Rules.safe_orThrow
          refine alone_read (fun _ _ => query_world ..) rfl ?_
          simp only [perform, query]
          cases (choices (reserved.2 + 1)).storageFailure with
          | some error => exact ⟨moved, fun _ impossible => by cases impossible⟩
          | none => exact ⟨moved, fun _ known => ⟨listed, (Except.ok.inj known).symm⟩⟩
        next => exact ⟨moved, fun _ impossible => by cases impossible⟩

/-- No provider touches the books. -/
theorem refundThroughProvider_alone {originalOrderId : Option Uuid} {tenderType : String} {amountCents : Nat}
    {envelopeKey refundId : Uuid} :
    (Rules.alone (inTurnOf providers choices command)).Safe
      (fun after _ => after.1.hub.db.returns = state.1.hub.db.returns) state
      (refundThroughProvider app frame originalOrderId tenderType amountCents envelopeKey refundId) := by
  unfold refundThroughProvider
  cases app.resolve (some tenderType) with
  | manualTender => rfl
  | unknown code => rfl
  | provider provider =>
    dsimp only
    split
    · rfl
    · cases originalOrderId with
      | none => rfl
      | some orderId =>
        apply Rules.safe_andThen
        apply Rules.safe_orThrow
        refine alone_read (fun _ _ => query_world ..) rfl ?_
        simp only [perform, query]
        cases (choices state.2).storageFailure with
        | some error => trivial
        | none =>
          cases state.1.hub.db.orders.find? (·.orderId = orderId) with
          | none => rfl
          | some order =>
            dsimp only
            cases refundablePayment provider order with
            | none => rfl
            | some paymentId =>
              apply Rules.safe_andThen
              apply Rules.alone_ask
              simp only [inTurnOf, inTurn, performAtDesk, perform]
              split <;> rfl

theorem completeRefund_alone {originalOrderId : Option Uuid} {recorded : Bool}
    (promised : terms (wanted command) ∈ state.1.hub.db.returns.refundIntents)
    (known : recorded = Returns.recorded (wanted command).id state.1.hub.db.returns) :
    (Rules.alone (inTurnOf providers choices command)).Safe
      (fun after _ => Moved (wanted command) state.1.hub.db.returns after.1.hub.db.returns) state
      (completeRefund app command.posEnvelope command.refund originalOrderId recorded) := by
  unfold completeRefund
  dsimp only
  split
  · exact .same
  next fresh =>
    rw [known, Bool.not_eq_true] at fresh
    apply Rules.safe_andThen
    apply Rules.safe_mapError
    apply refundThroughProvider_alone.mono
    rintro after (failure | reference) kept
    · show Moved _ _ after.1.hub.db.returns
      rw [kept]
      exact .same
    · apply Rules.safe_orThrow
      apply Rules.alone_ask
      simp only [inTurnOf, inTurn, performAtDesk, perform, update, transact]
      cases (choices after.2).storageFailure with
      | some error =>
        show Moved _ _ after.1.hub.db.returns
        rw [kept]
        exact .same
      | none =>
        show Moved _ _ (Returns.complete _ after.1.hub.db.returns)
        rw [kept]
        exact .recorded _ rfl promised fresh

/-- A refund on a loaded return of the store tries its reservation first, and moves on from there. -/
structure Concluded (choices : Nat → Choice Answer) (command : RefundCommand) (n : Nat) (before after : ReturnTables) :
    Prop where
  home : ∀ row, Loads choices n command.refund.returnId before row → row.storeId = command.envelope.storeId →
    Moved (wanted command) (tried (choices (n + 3)) (wanted command) before) after
  away : (∀ row, Loads choices n command.refund.returnId before row → row.storeId ≠ command.envelope.storeId) →
    after = before

theorem concluded_same {n : Nat} {before : ReturnTables}
    (away : ∀ row, Loads choices n command.refund.returnId before row → row.storeId ≠ command.envelope.storeId) :
    Concluded choices command n before before :=
  ⟨fun row loads home => absurd home (away row loads), fun _ => rfl⟩

theorem refundTender_alone :
    (Rules.alone (inTurnOf providers choices command)).Safe
      (fun after _ => Concluded choices command state.2 state.1.hub.db.returns after.1.hub.db.returns) state
      (refundTender app command.posEnvelope command.refund) := by
  apply Rules.safe_andThen
  apply (loadSnapshot_alone _).mono
  rintro ⟨_, later⟩ (errors | snapshot) ⟨rfl, known⟩
  · exact concluded_same fun row loads => absurd loads (known row)
  · obtain ⟨rfl, loads⟩ := known
    have one (row : ReturnRow) (other : Loads choices state.2 command.refund.returnId state.1.hub.db.returns row) :
        row = snapshot.row := Option.some.inj (other.2.symm.trans loads.2)
    dsimp only
    split
    next apart =>
      refine concluded_same fun row other => ?_
      rw [one row other]
      exact apart
    next home =>
      have concluded {after : ReturnTables}
          (moved : Moved (wanted command) (tried (choices (state.2 + 3)) (wanted command) state.1.hub.db.returns) after) :
          Concluded choices command state.2 state.1.hub.db.returns after :=
        ⟨fun _ _ _ => moved, fun away => absurd (not_not.mp home) (away snapshot.row loads)⟩
      apply Rules.safe_andThen
      apply Rules.safe_mapError
      apply (prepareRefund_alone _).mono
      rintro prepared (error | recorded) ⟨moved, promised⟩
      · exact concluded (by rw [moved]; exact .same)
      · obtain ⟨promised, recorded⟩ := promised _ rfl
        apply Rules.safe_andThen
        apply (completeRefund_alone promised recorded).mono
        intro after result done
        dsimp only at moved
        rw [moved] at done
        cases result with
        | error errors => exact concluded done
        | ok _ =>
          apply Rules.safe_andThen
          apply (loadSnapshot_alone _).mono
          rintro ⟨_, last⟩ (errors | snapshot) ⟨rfl, _⟩
          · exact concluded done
          · exact concluded done

/-- The command makes a new reservation. -/
structure Reserves (app : AppState) (choices : Nat → Choice Answer) (command : RefundCommand) (world : DeskWorld Remote)
    (n : Nat) : Prop where
  arrives : Arrives app choices command world n
  left : canRefund (wanted command) world.hub.db.returns

theorem moved_of_concluded {world : DeskWorld Remote} {n : Nat} {after : ReturnTables}
    (store : command.envelope.storeId = app.storeId)
    (register : command.boundRegister.any (· ≠ command.envelope.registerId) = false)
    (version : command.envelope.version = .v1_0_0)
    (unanswered : (choices n).storageFailure = none →
      world.hub.db.responses.lookup command.envelope.idempotencyKey = none)
    (concluded : Concluded choices command (n + 1) world.hub.db.returns after) :
    (Reserves app choices command world n →
        Moved (wanted command) (Returns.reserve (wanted command) world.hub.db.returns) after) ∧
      (¬Reserves app choices command world n → Moved (wanted command) world.hub.db.returns after) := by
  constructor
  · intro reserves
    obtain ⟨row, found, home⟩ := reserves.arrives.home
    have moved := concluded.home row ⟨fun i small => reserves.arrives.works i (by omega), found⟩ home
    rwa [tried, if_pos ⟨reserves.arrives.works 3 (by decide), reserves.left.1⟩] at moved
  · intro not
    by_cases loaded : ∃ row, Loads choices (n + 1) command.refund.returnId world.hub.db.returns row ∧
        row.storeId = command.envelope.storeId
    · obtain ⟨row, loads, home⟩ := loaded
      have moved := concluded.home row loads home
      unfold tried at moved
      split at moved
      next works =>
        have arrives : Arrives app choices command world n :=
          ⟨store, register, version, unanswered, fun i small => by
            rcases Nat.lt_succ_iff_lt_or_eq.mp small with earlier | rfl
            · exact loads.1 i earlier
            · exact works.1, row, loads.2, home⟩
        have kept : Returns.reserve (wanted command) world.hub.db.returns = world.hub.db.returns :=
          by_contra fun made => not ⟨arrives, works.2, made⟩
        rwa [kept] at moved
      next => exact moved
    · rw [concluded.away fun row loads home => loaded ⟨row, loads, home⟩]
      exact .same

/-- A refund that is executed, and what it answers stored when it has worked. -/
theorem executePosCommand_alone (store : command.envelope.storeId = app.storeId) :
    (Rules.alone (inTurnOf providers choices command)).Safe
      (fun after _ => Concluded choices command state.2 state.1.hub.db.returns after.1.hub.db.returns) state
      (executePosCommand app command.posEnvelope >>= storeResponse frame) := by
  have home : command.posEnvelope.storeId = app.storeId := store
  apply Rules.Safe.bind
  unfold executePosCommand
  rw [if_neg (not_not.mpr home)]
  apply Rules.Safe.bind
  apply refundTender_alone.mono
  rintro after (errors | payload) concluded
  · exact concluded
  · rintro later - rfl
    refine ⟨trivial, fun _ _ _ => ?_⟩
    show Concluded _ _ _ _ (inTurnOf providers choices command later ⟨frame, .setResponse _ _⟩).2.1.hub.db.returns
    simp only [inTurnOf, inTurn, performAtDesk, perform, update, transact]
    cases (choices later.2).storageFailure <;> exact concluded

theorem executeOnce_alone (store : command.envelope.storeId = app.storeId)
    (register : command.boundRegister.any (· ≠ command.envelope.registerId) = false)
    (version : command.envelope.version = .v1_0_0) :
    (Rules.alone (inTurnOf providers choices command)).Safe
      (fun after _ =>
        (Reserves app choices command state.1 state.2 →
          Moved (wanted command) (Returns.reserve (wanted command) state.1.hub.db.returns) after.1.hub.db.returns) ∧
        (¬Reserves app choices command state.1 state.2 →
          Moved (wanted command) state.1.hub.db.returns after.1.hub.db.returns)) state
      (executeOnce app command.posEnvelope) := by
  rintro later - rfl
  refine ⟨trivial, fun _ _ _ => ?_⟩
  have executes (unanswered : (choices later.2).storageFailure = none →
      later.1.hub.db.responses.lookup command.envelope.idempotencyKey = none) :
      (Rules.alone (inTurnOf providers choices command)).Safe
        (fun after _ =>
          (Reserves app choices command later.1 later.2 →
            Moved (wanted command) (Returns.reserve (wanted command) later.1.hub.db.returns) after.1.hub.db.returns) ∧
          (¬Reserves app choices command later.1 later.2 →
            Moved (wanted command) later.1.hub.db.returns after.1.hub.db.returns)) (later.1, later.2 + 1)
        (executePosCommand app command.posEnvelope >>=
          storeResponse (.ofKey (some command.posEnvelope.idempotencyKey))) := by
    apply (executePosCommand_alone store).mono
    intro after _ concluded
    exact moved_of_concluded store register version unanswered concluded
  obtain ⟨stored, answered, known⟩ : ∃ stored, inTurnOf providers choices command later
      ⟨.ofKey (some command.posEnvelope.idempotencyKey), .getResponse command.posEnvelope.idempotencyKey⟩ =
        (stored, later.1, later.2 + 1) ∧
      ((choices later.2).storageFailure = none ∧
          stored = .ok (later.1.hub.db.responses.lookup command.envelope.idempotencyKey) ∨
        ∃ error, (choices later.2).storageFailure = some error ∧ stored = .error error) := by
    refine ⟨(query (choices later.2) later.1.hub fun db => db.responses.lookup command.envelope.idempotencyKey).1, ?_, ?_⟩
    · simp only [inTurnOf, inTurn, performAtDesk, perform, query_world, asked, List.append_nil]
      rfl
    · unfold query
      cases (choices later.2).storageFailure with
      | some error => exact .inr ⟨error, rfl, rfl⟩
      | none => exact .inl ⟨rfl, rfl⟩
  simp only [Rules.alone]
  rw [answered]
  rcases known with ⟨works, rfl⟩ | ⟨error, failing, rfl⟩
  · cases stored : later.1.hub.db.responses.lookup command.envelope.idempotencyKey with
    | none => exact executes fun _ => stored
    | some response =>
      refine ⟨fun reserves => ?_, fun _ => .same⟩
      cases stored.symm.trans (reserves.arrives.unanswered works)
  · exact executes fun none => by cases failing.symm.trans none

/-- What a whole command does to the returns. -/
theorem handlePosCommand_alone :
    (Rules.alone (inTurnOf providers choices command)).Safe
      (fun after _ =>
        (Reserves app choices command state.1 state.2 →
          Moved (wanted command) (Returns.reserve (wanted command) state.1.hub.db.returns) after.1.hub.db.returns) ∧
        (¬Reserves app choices command state.1 state.2 →
          Moved (wanted command) state.1.hub.db.returns after.1.hub.db.returns)) state
      (handlePosCommand app command.boundRegister command.posEnvelope) := by
  unfold handlePosCommand
  dsimp only
  split
  next apart => exact ⟨fun reserves => absurd reserves.arrives.store apart, fun _ => .same⟩
  next store =>
    split
    next other =>
      refine ⟨fun reserves => ?_, fun _ => .same⟩
      have same : command.boundRegister.any (· ≠ command.posEnvelope.registerId) = false := reserves.arrives.register
      rw [same] at other
      cases other
    next register =>
      split
      next old => exact ⟨fun reserves => absurd reserves.arrives.version old, fun _ => .same⟩
      next version =>
        exact executeOnce_alone (not_not.mp store) (Bool.eq_false_of_not_eq_true register) (not_not.mp version)

end Programs

section Desk
variable {Remote Answer : Type} (app : AppState) (providers : Providers Remote Answer)

def standings : Rules DeskRequest (Tagged.Reply Request.Reply) (DeskWorld Remote) (Choice Answer) :=
  { books providers with invariant := fun world => Standing world.hub.db.returns }

theorem standings_safe (command : RefundCommand) (world : DeskWorld Remote) :
    (standings providers).Safe (fun _ _ => True) world (command.program app) := by
  have hosts : Hosts ((standings providers).at command) providers DeskWorld.hub app command :=
    { performs := fun _ _ _ => ⟨rfl, rfl⟩
      stays := fun grows => grows
      serves := (books_host app providers command).serves
      refunds := fun _ => trivial }
  apply Rules.safe_tagged
  exact handlePosCommand_safe (fun _ => refundTender_safe hosts) (fun _ _ _ => hosts.serves rfl trivial)
    fun _ _ _ _ => hosts.serves rfl trivial

theorem standings_assured : (standings providers : Rules _ _ _ (Choice Answer)).Assured where
  refl world := .refl world.hub.db
  trans := Grows.trans
  step choice world others request standing granted _ := by
    refine ⟨?_, perform_grows (not_order granted)⟩
    show Standing (perform providers choice world.hub request.op).2.db.returns
    have changed := StepEffects.perform_db providers choice world.hub request.op
    generalize (perform providers choice world.hub request.op).2.db = db at changed
    cases changed with
    | same | answered | saved | ledger => exact standing
    | ordered entry outboxId _ _ called => exact absurd called (not_order granted entry outboxId)
    | reserved refund => exact standing_reserve standing refund
    | completed refund called =>
      have granted : grants world request := granted
      unfold grants at granted
      rw [called] at granted
      exact standing_complete standing granted.2

/-- After any run of refund commands, one more command that fails or not leaves the balance
of its return, the ways to refund it and the way to void it as they were exactly when it has
made no new reservation, however far it has come and whether or not a provider was asked. -/
theorem untouched_iff_not_reserving {Remote Answer : Type} (app : AppState) (providers : Providers Remote Answer)
    (world : DeskWorld Remote) (standing : Standing world.hub.db.returns)
    (events : List (Event (Choice Answer) RefundCommand)) (choices : Nat → Choice Answer) (n : Nat)
    (command : RefundCommand) :
    let before := ((refundDesk app providers).run (Pool.quiet world) events).world
    let after := ((command.program app).run (inTurn providers choices) (before, n)).2.1
    SameChances command.refund.returnId (wanted command).id before.hub.db.returns after.hub.db.returns ↔
      ¬Reserves app choices command before n := by
  intro before after
  have kept : Standing before.hub.db.returns :=
    Rules.reached (standings_assured providers) rfl standing (fun command _ => standings_safe app providers command)
      (Condition.runMeets_always events)
  have run : (command.program app).run (inTurn providers choices) (before, n) =
      (handlePosCommand app command.boundRegister command.posEnvelope).run (inTurnOf providers choices command)
        (before, n) := Program.run_tagged (inTurn providers choices) command _ _
  have ended : after = ((handlePosCommand app command.boundRegister command.posEnvelope).run
      (inTurnOf providers choices command) (before, n)).2.1 := by rw [← run]
  obtain ⟨reserving, quiet⟩ := Rules.alone_run (handlePosCommand_alone : (Rules.alone
    (inTurnOf providers choices command)).Safe _ (before, n) (handlePosCommand app command.boundRegister _))
  rw [← ended] at reserving quiet
  constructor
  · exact fun same reserves => not_sameChances_reserved kept reserves.left.2 (reserving reserves) same
  · exact fun not => sameChances_moved kept (quiet not)

end Desk

section Samples
open Attempts RefundBounds

/-- A return of things for 100.00 without a receipt. -/
def withoutReceipt : DeskWorld RemotePayments :=
  { hub :=
      { db :=
          { responses := [], carts := [], paymentIntents := [], orders := [], outbox := []
            returns := ⟨[⟨60, 1, 2, none, none, none, .items, 10000, 0, 0, none⟩], [], [], []⟩ }
        remote := .empty }
    requested := [] }

def tenderOf (key : Nat) (tender : String) : RefundCommand :=
  { boundRegister := none
    envelope := { version := .v1_0_0, idempotencyKey := .random key, storeId := 1, registerId := 2
                  payload := .refundTender ⟨60, tender, 10000, none⟩ }
    refund := ⟨60, tender, 10000, none⟩ }

def steady (n : Nat) : Choice ProviderAnswer := choice n (500 + n) approves

/-- No card payment can be found for the return, so no provider is asked; and now it can
neither be refunded in cash nor voided. -/
theorem refused_refund_blocks_the_return :
    let ended := ((tenderOf 100 "card").program shop).run (inTurn contractual steady) (withoutReceipt, 0)
    let before := withoutReceipt.hub.db.returns
    let after := ended.2.1.hub.db.returns
    ended.1 = .rejected (.random 100) (posError "REFUND_ORIGINAL_ORDER_REQUIRED"
        "Refunding to card needs the original order so the payment can be found") ∧
      ended.2.1.requested = [] ∧ balanceCents 60 before = 10000 ∧ balanceCents 60 after = 0 ∧
        Returns.reserve (wanted (tenderOf 101 "cash")) before ≠ before ∧
          Returns.reserve (wanted (tenderOf 101 "cash")) after = after ∧
            (Returns.voidRow 60 before).isOk = true ∧ (Returns.voidRow 60 after).isOk = false := by
  decide +kernel

/-- The same refund, tried again. -/
theorem tried_again_without_effect :
    let before := ((refundDesk shop contractual).run (Pool.quiet withoutReceipt)
      (.start (tenderOf 100 "card") :: answers 14)).world
    let after := (((tenderOf 100 "card").program shop).run (inTurn contractual steady) (before, 0)).2.1
    SameChances 60 (wanted (tenderOf 100 "card")).id before.hub.db.returns after.hub.db.returns :=
  (untouched_iff_not_reserving shop contractual withoutReceipt (standing_unrefunded (by decide) rfl rfl)
    (.start (tenderOf 100 "card") :: answers 14) steady 0 (tenderOf 100 "card")).mpr
    fun reserves => absurd reserves.left.2 (by decide +kernel)

end Samples
end ApexEdge.Proofs.FailedRefunds
