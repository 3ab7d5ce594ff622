import ApexEdge.Library.Sequence
import ApexEdge.Proofs.DeliveryTries

/-! The budget of a delivery, over any history of tries, losses and retries: a row counts the
tries since it was queued that were not stopped on the way, and the last of them decides its
state. -/

namespace ApexEdge.Proofs.DeliveryBudget
open Library Payment Domain Storage Outbox
open Payment.StripeTerminal Proofs.DeliveryTries

/-! ### Histories -/

def LogEntry.delivery : LogEntry → Uuid × Uuid
  | .tried delivery _ => delivery
  | .requeued delivery => delivery

def noted (delivery : Uuid × Uuid) (past : List Outcome) : LogEntry → List Outcome
  | .tried other outcome => if other = delivery then past ++ [outcome] else past
  | .requeued other => if other = delivery then [] else past

/-- What came of a delivery since it was queued, or queued again by an operator. -/
def history (delivery : Uuid × Uuid) (log : List LogEntry) : List Outcome := log.foldl (noted delivery) []

/-- The tries that `attempts` counts. -/
def counts (outcome : Outcome) : Bool := outcome ≠ .unreachable ∧ outcome ≠ .unrecorded

/-- The tries that use up the budget. -/
def spends (outcome : Outcome) : Bool := outcome = .refused ∨ outcome = .unsigned

section History
variable {delivery : Uuid × Uuid} {log : List LogEntry}

theorem history_append (entry : LogEntry) : history delivery (log ++ [entry]) = noted delivery (history delivery log) entry := by
  rw [history, List.foldl_append]
  rfl

theorem history_other {entry : LogEntry} (other : LogEntry.delivery entry ≠ delivery) :
    history delivery (log ++ [entry]) = history delivery log := by
  rw [history_append]
  cases entry <;> exact if_neg other

/-- A delivery without an entry has no history. -/
theorem history_unknown (unknown : ∀ entry ∈ log, LogEntry.delivery entry ≠ delivery) : history delivery log = [] := by
  induction log using List.reverseRecOn with
  | nil => rfl
  | append_singleton log entry ih =>
    rw [history_other (unknown entry (List.mem_append_right _ (List.mem_singleton_self _)))]
    exact ih fun other member => unknown other (List.mem_append_left _ member)

end History

/-- A row against the history of its delivery. -/
structure Accounts (maxAttempts : Nat) (row : DeliveryAttemptRow) (past : List Outcome) : Prop where
  attempts : row.attempts = past.countP counts
  pending : row.state = .pending → ∀ outcome ∈ past, outcome ≠ .delivered ∧ outcome ≠ .noEndpoint
  dead : row.state = .deadLetter → .noEndpoint ∈ past ∨ maxAttempts ≤ past.countP spends

/-- What a try leaves of the state of its row. -/
def leaves (maxAttempts : Nat) (attempts : Nat) (state : DeliveryState) : Outcome → DeliveryState
  | .delivered => .delivered
  | .noEndpoint => .deadLetter
  | .refused | .unsigned => if maxAttempts ≤ attempts + 1 then .deadLetter else state
  | .unreachable | .unrecorded => state

section Tries
variable {parse : String → Option Json} {env : String → Option String} {policy : DispatcherPolicy} {cycle : Cycle}
  {delivery : DueDelivery} {store after : OutboxStore}

/-- A try writes one row: its outcome decides what is counted and what the state becomes. -/
structure Writes (policy : DispatcherPolicy) (delivery : DueDelivery) (outcome : Outcome) (store after : OutboxStore) :
    Prop where
  marks : ∃ set, after.tables = Deliveries.updateAttempt delivery.attempt set store.tables ∧
    ∀ row, key (set row) = key row ∧ (set row).attempts = row.attempts + (if counts outcome then 1 else 0) ∧
      (set row).state = leaves policy.maxAttempts delivery.attempt.attempts row.state outcome
  recorded : outcome ≠ .unrecorded

theorem retry_writes (error : String) {outcome : Outcome} (spent : spends outcome = true) :
    Writes policy delivery outcome store (retryOrGiveUp policy cycle delivery error store) := by
  have which : outcome = .refused ∨ outcome = .unsigned := of_decide_eq_true spent
  rw [retryOrGiveUp]
  split <;> rename_i many
  all_goals
    refine ⟨⟨_, rfl, fun row => ⟨rfl, ?_, ?_⟩⟩, ?_⟩
    · rcases which with rfl | rfl <;> rfl
    · rcases which with rfl | rfl <;> simp [leaves, many]
    · rcases which with rfl | rfl <;> simp

theorem attempt_writes (ran : attemptDelivery parse env policy cycle delivery store = .ok after) :
    Writes policy delivery (OutboxRoom.outcomeOf env cycle delivery) store after := by
  rw [attemptDelivery] at ran
  rw [OutboxRoom.outcomeOf]
  by_cases endpoint : hasEndpoint delivery.destination = true
  · rw [if_pos endpoint] at ran ⊢
    cases parsed : parse delivery.submission.payload with
    | none => simp [parsed] at ran
    | some json =>
      rw [parsed] at ran
      cases secret : signingSecret env delivery.destination.config with
      | missing name =>
        simp only [secret, Except.ok.injEq] at ran ⊢
        exact ran ▸ retry_writes _ rfl
      | none | present =>
        simp only [secret, Except.ok.injEq] at ran ⊢
        rw [← ran, settleAnswer]
        cases cycle.answer delivery with
        | unreachable error => exact ⟨⟨_, rfl, fun _ => ⟨rfl, rfl, rfl⟩⟩, by simp⟩
        | failed error => exact retry_writes _ rfl
        | answered status text body =>
          dsimp only
          by_cases success : status.isSuccess = true
          · rw [if_pos success]
            cases rejected : rejectionReason delivery.destination.kind body with
            | none =>
              rw [if_pos ⟨success, rfl⟩]
              exact ⟨⟨_, rfl, fun _ => ⟨rfl, rfl, rfl⟩⟩, by simp⟩
            | some reason =>
              rw [if_neg (by simp)]
              exact retry_writes _ rfl
          · rw [if_neg success, if_neg (by simp [success])]
            exact retry_writes _ rfl
  · rw [if_neg endpoint] at ran ⊢
    rw [← Except.ok.inj ran]
    exact ⟨⟨_, rfl, fun _ => ⟨rfl, rfl, rfl⟩⟩, by simp⟩

end Tries

/-! ### Every history -/

/-- Once a delivery is on record, nothing more becomes of it. -/
def Unsent (log : List LogEntry) : Prop :=
  ∀ before delivery after, log = before ++ .tried delivery .delivered :: after →
    ∀ entry ∈ after, LogEntry.delivery entry ≠ delivery

/-- The deliveries against all that came of them. -/
structure Books (maxAttempts : Nat) (rows : List DeliveryAttemptRow) (log : List LogEntry) : Prop where
  unique : (rows.map key).Nodup
  accounts : ∀ row ∈ rows, Accounts maxAttempts row (history (key row) log)
  known : ∀ entry ∈ log, LogEntry.delivery entry ∈ rows.map key
  had : ∀ row ∈ rows, .tried (key row) .delivered ∈ log → row.state = .delivered
  unsent : Unsent log

def replaced (row : DeliveryAttemptRow) (rows : List DeliveryAttemptRow) : List DeliveryAttemptRow :=
  rows.map fun other => if key other = key row then row else other

section Books
variable {maxAttempts : Nat} {rows : List DeliveryAttemptRow} {log : List LogEntry}

theorem unsent_append {log : List LogEntry} (unsent : Unsent log) {entry : LogEntry}
    (open_ : .tried (LogEntry.delivery entry) .delivered ∉ log) : Unsent (log ++ [entry]) := by
  intro before delivery after split
  rcases List.eq_nil_or_concat after with rfl | ⟨rest, last, rfl⟩
  · exact fun _ member => nomatch member
  · rw [List.concat_eq_append] at split ⊢
    rw [← List.cons_append, ← List.append_assoc] at split
    obtain ⟨old, same⟩ := List.append_inj' split rfl
    obtain rfl := List.singleton_inj.mp same
    intro other member
    rcases List.mem_append.mp member with early | late
    · exact unsent before delivery rest old other early
    · rw [List.mem_singleton.mp late]
      rintro rfl
      exact open_ (old ▸ List.mem_append_right _ List.mem_cons_self)

theorem replaced_keys (row : DeliveryAttemptRow) : (replaced row rows).map key = rows.map key := by
  rw [replaced, List.map_map]
  refine List.map_congr_left fun other _ => ?_
  rw [Function.comp_apply]
  split
  · exact Eq.symm ‹_›
  · rfl

/-- A statement about one row, where keys are unique. -/
theorem run_one {update : Table.Update DeliveryAttemptRow} {row : DeliveryAttemptRow} (unique : (rows.map key).Nodup)
    (member : row ∈ rows) (keyed : key (update.set row) = key row)
    (selects : ∀ other ∈ rows, update.selects other = true ↔ key other = key row) :
    update.run rows = replaced (update.set row) rows := by
  refine List.map_congr_left fun other there => ?_
  rw [keyed]
  by_cases same : key other = key row
  · obtain rfl : other = row := List.inj_on_of_nodup_map unique there member same
    rw [if_pos rfl, Table.Update.row_selected ((selects other there).mpr rfl)]
  · rw [if_neg same, Table.Update.row_kept (by simpa using mt (selects other there).mp same)]

theorem replaced_self {row : DeliveryAttemptRow} (unique : (rows.map key).Nodup) (member : row ∈ rows) :
    replaced row rows = rows := by
  refine (List.map_congr_left fun other there => ?_).trans (List.map_id _)
  split
  · exact List.inj_on_of_nodup_map unique member there (Eq.symm ‹_›)
  · rfl

/-- One more entry about one delivery, which was not delivered before. -/
theorem Books.enter (books : Books maxAttempts rows log) {row after : DeliveryAttemptRow} {entry : LogEntry}
    (member : row ∈ rows) (undelivered : row.state ≠ .delivered) (keyed : key after = key row)
    (about : LogEntry.delivery entry = key row)
    (accounts : Accounts maxAttempts after (noted (key row) (history (key row) log) entry))
    (had : entry = .tried (key row) .delivered → after.state = .delivered) :
    Books maxAttempts (replaced after rows) (log ++ [entry]) := by
  have fresh : .tried (key row) .delivered ∉ log := fun there => undelivered (books.had row member there)
  refine ⟨?_, ?_, ?_, ?_, unsent_append books.unsent (about ▸ fresh)⟩
  · rw [replaced_keys]
    exact books.unique
  · intro changed there
    obtain ⟨old, present, rfl⟩ := List.mem_map.mp there
    rw [keyed]
    by_cases same : key old = key row
    · rw [if_pos same, keyed, history_append]
      exact accounts
    · rw [if_neg same, history_other (by rw [about]; exact Ne.symm same)]
      exact books.accounts old present
  · intro other there
    rw [replaced_keys]
    rcases List.mem_append.mp there with early | late
    · exact books.known other early
    · rw [List.mem_singleton.mp late, about]
      exact List.mem_map_of_mem member
  · intro changed there told
    obtain ⟨old, present, rfl⟩ := List.mem_map.mp there
    rw [keyed] at told ⊢
    by_cases same : key old = key row
    · rw [if_pos same, keyed] at told
      rw [if_pos same]
      rcases List.mem_append.mp told with early | late
      · exact absurd early fresh
      · exact had (List.mem_singleton.mp late).symm
    · rw [if_neg same] at told ⊢
      rcases List.mem_append.mp told with early | late
      · exact books.had old present early
      · have about_old : LogEntry.delivery entry = key old := by rw [← List.mem_singleton.mp late]; rfl
        exact absurd (about_old.symm.trans about) same

/-- A delivery that is owed for the first time. -/
theorem Books.owe (books : Books maxAttempts rows log) {outboxId destinationId : Uuid}
    (fresh : (outboxId, destinationId) ∉ rows.map key) :
    Books maxAttempts (rows ++ [⟨outboxId, destinationId, .pending, 0, 0, none, none⟩]) log := by
  have unknown : history (outboxId, destinationId) log = [] :=
    history_unknown fun entry member same => fresh (same ▸ books.known entry member)
  refine ⟨?_, ?_, ?_, ?_, books.unsent⟩
  · exact Table.unique_append books.unique fun row member same => fresh (List.mem_map.mpr ⟨row, member, same⟩)
  · intro row member
    rcases List.mem_append.mp member with old | new
    · exact books.accounts row old
    · rw [List.mem_singleton.mp new, key, unknown]
      refine ⟨rfl, ?_, ?_⟩
      · exact fun _ _ member => nomatch member
      · exact fun dead => nomatch dead
  · intro entry member
    rw [List.map_append]
    exact List.mem_append_left _ (books.known entry member)
  · intro row member told
    rcases List.mem_append.mp member with old | new
    · exact books.had row old told
    · rw [List.mem_singleton.mp new] at told
      exact absurd (books.known _ told) fresh

/-- Before anything ends a delivery, what is counted is what uses up the budget. -/
theorem spent_eq {past : List Outcome} (open_ : ∀ outcome ∈ past, outcome ≠ .delivered ∧ outcome ≠ .noEndpoint) :
    past.countP spends = past.countP counts := by
  refine List.countP_congr fun outcome member => ?_
  obtain ⟨undelivered, endpoint⟩ := open_ outcome member
  cases outcome <;> simp_all [spends, counts]

/-- One try of a delivery that is pending. -/
theorem Accounts.try {row after : DeliveryAttemptRow} {past : List Outcome} {outcome : Outcome}
    (accounts : Accounts maxAttempts row past) (pending : row.state = .pending)
    (attempts : after.attempts = row.attempts + if counts outcome then 1 else 0)
    (state : after.state = leaves maxAttempts row.attempts row.state outcome) :
    Accounts maxAttempts after (past ++ [outcome]) := by
  have open_ := accounts.pending pending
  have spent := spent_eq open_
  refine ⟨?_, ?_, ?_⟩
  · rw [attempts, accounts.attempts, List.countP_append, List.countP_singleton]
  · intro still other member
    rcases List.mem_append.mp member with early | late
    · exact open_ other early
    · rw [List.mem_singleton.mp late]
      rw [still] at state
      cases outcome <;> simp_all [leaves]
  · intro dead
    rw [dead, pending] at state
    rw [List.countP_append, List.countP_singleton, spent, ← accounts.attempts]
    cases outcome with
    | noEndpoint => exact .inl (List.mem_append_right _ (List.mem_singleton_self _))
    | refused | unsigned =>
      rw [leaves] at state
      split at state
      · exact .inr (by simpa [spends] using ‹maxAttempts ≤ row.attempts + 1›)
      · exact nomatch state
    | delivered | unreachable | unrecorded => exact nomatch state

end Books

/-- What is fetched and not tried yet. -/
def Waiting (rows : List DeliveryAttemptRow) (phase : CyclePhase) : Prop :=
  ∀ rest, phase = .attempting rest → (rest.map deliveryOf).Nodup ∧
    ∀ delivery ∈ rest, delivery.attempt ∈ rows ∧ delivery.attempt.state = .pending

structure Budget (policy : DispatcherPolicy) (room : OutboxRoom) : Prop where
  books : Books policy.maxAttempts room.store.tables.attempts room.log
  waiting : Waiting room.store.tables.attempts room.phase

theorem key_eq_key {row other : DeliveryAttemptRow} :
    key row = key other ↔ row.outboxId = other.outboxId ∧ row.destinationId = other.destinationId := Prod.ext_iff

theorem deliveryOf_eq (delivery : DueDelivery) : deliveryOf delivery = key delivery.attempt := rfl

section Steps
variable {policy : DispatcherPolicy} {room : OutboxRoom}

theorem opened_budget (destinations : List DestinationRow) : Budget policy (.opened destinations) := by
  refine ⟨⟨.nil, ?_, ?_, ?_, ?_⟩, fun _ phase => nomatch phase⟩
  · exact fun _ member => nomatch member
  · exact fun _ member => nomatch member
  · exact fun _ member => nomatch member
  · intro before delivery after split
    simp [OutboxRoom.opened] at split

theorem Budget.ensure (budget : Budget policy room) (outboxId destinationId : Uuid) :
    Books policy.maxAttempts (Deliveries.ensureDelivery outboxId destinationId room.store.tables).attempts room.log := by
  rw [Deliveries.ensureDelivery]
  split
  · exact budget.books
  next fresh =>
    refine budget.books.owe fun member => ?_
    obtain ⟨row, there, same⟩ := List.mem_map.mp member
    exact fresh (List.any_eq_true.mpr ⟨row, there, decide_eq_true (Prod.ext_iff.mp same)⟩)

/-- What is fetched is waiting, each delivery once. -/
theorem fetched_waiting {tables : OutboxTables} (unique : (tables.attempts.map key).Nodup) (limit : Nat) (now : Timestamp) :
    ((Deliveries.fetchDueDeliveries limit now tables).map deliveryOf).Nodup ∧
      ∀ delivery ∈ Deliveries.fetchDueDeliveries limit now tables,
        delivery.attempt ∈ tables.attempts ∧ delivery.attempt.state = .pending := by
  refine ⟨?_, fun delivery member => (fetched member).2⟩
  have joined : ∀ rows : List DeliveryAttemptRow,
      ((rows.filterMap (Deliveries.join tables)).map deliveryOf).Sublist (rows.map key) := by
    intro rows
    induction rows with
    | nil => exact .slnil
    | cons row rows ih =>
      rw [List.filterMap_cons]
      cases found : Deliveries.join tables row with
      | none => exact ih.cons _
      | some delivery =>
        have same : deliveryOf delivery = key row := congrArg key (join_some found).1
        rw [List.map_cons, List.map_cons, same]
        exact ih.cons_cons _
  have due : (((tables.attempts.filter (Deliveries.isDue now)).filterMap (Deliveries.join tables)).map deliveryOf).Nodup :=
    ((joined _).trans (List.filter_sublist.map key)).nodup unique
  rw [Deliveries.fetchDueDeliveries]
  exact (((List.perm_insertionSort _ _).map deliveryOf).nodup_iff.mpr due).sublist ((List.take_sublist _ _).map deliveryOf)

/-- A try replaces the row of its delivery. -/
theorem Writes.replaces {delivery : DueDelivery} {outcome : Outcome} {store after : OutboxStore}
    (writes : Writes policy delivery outcome store after) (unique : (store.tables.attempts.map key).Nodup)
    (member : delivery.attempt ∈ store.tables.attempts) :
    ∃ row, after.tables = { store.tables with attempts := replaced row store.tables.attempts } ∧
      key row = key delivery.attempt ∧
      row.attempts = delivery.attempt.attempts + (if counts outcome then 1 else 0) ∧
      row.state = leaves policy.maxAttempts delivery.attempt.attempts delivery.attempt.state outcome := by
  obtain ⟨set, became, effect⟩ := writes.marks
  have keyed := (effect delivery.attempt).1
  refine ⟨set delivery.attempt, ?_, effect delivery.attempt⟩
  have rows : (marking delivery.attempt set).run store.tables.attempts =
      replaced (set delivery.attempt) store.tables.attempts := by
    refine run_one unique member keyed fun other _ => ?_
    rw [marking, decide_eq_true_eq, key_eq_key]
  rw [became, ← rows]
  rfl

/-- A try that was written down. -/
theorem Budget.tried (budget : Budget policy room) {delivery : DueDelivery} {rest : List DueDelivery}
    (phase : room.phase = .attempting (delivery :: rest)) {outcome : Outcome} {after : OutboxStore}
    (writes : Writes policy delivery outcome room.store after) :
    Budget policy
      { room with
        store := after
        phase := .attempting rest
        log := room.log ++ [.tried (deliveryOf delivery) outcome] } := by
  obtain ⟨distinct, waits⟩ := budget.waiting _ phase
  obtain ⟨member, pending⟩ := waits delivery List.mem_cons_self
  obtain ⟨row, became, keyed, attempts, state⟩ := writes.replaces budget.books.unique member
  have rows : after.tables.attempts = replaced row room.store.tables.attempts := by rw [became]
  refine ⟨?_, ?_⟩
  · dsimp only
    rw [rows]
    refine budget.books.enter member (by simp [pending]) keyed rfl ?_ ?_
    · rw [noted, if_pos (deliveryOf_eq delivery)]
      exact (budget.books.accounts _ member).try pending attempts state
    · intro same
      rw [state, (LogEntry.tried.inj same).2, leaves]
  · intro others same
    obtain rfl := CyclePhase.attempting.inj same
    obtain ⟨apart, distinct⟩ := List.nodup_cons.mp distinct
    refine ⟨distinct, fun other later => ?_⟩
    obtain ⟨present, waiting⟩ := waits other (List.mem_cons_of_mem _ later)
    refine ⟨?_, waiting⟩
    dsimp only
    rw [rows]
    refine List.mem_map.mpr ⟨other.attempt, present, if_neg ?_⟩
    rw [keyed]
    intro same_key
    exact apart (List.mem_map.mpr ⟨other, later, same_key⟩)

/-- A request whose answer was never written down. -/
theorem Budget.lost (budget : Budget policy room) (sent : Bool) : Budget policy (OutboxRoom.lose sent room) := by
  refine ⟨?_, fun rest same => nomatch same⟩
  rw [OutboxRoom.lose]
  dsimp only
  split
  next delivery rest phase =>
    obtain ⟨member, pending⟩ := (budget.waiting _ phase).2 delivery List.mem_cons_self
    split
    · have past : Accounts policy.maxAttempts delivery.attempt
          (noted (key delivery.attempt) (history (key delivery.attempt) room.log)
            (.tried (deliveryOf delivery) .unrecorded)) := by
        rw [noted, if_pos (deliveryOf_eq delivery)]
        exact (budget.books.accounts _ member).try pending rfl rfl
      have entered := budget.books.enter member (by simp [pending]) rfl rfl past (fun same => nomatch same)
      rwa [replaced_self budget.books.unique member] at entered
    · rw [List.append_nil]
      exact budget.books
  · rw [List.append_nil]
    exact budget.books

/-- The first statement of a retry. -/
def retrying (outboxId destinationId : Uuid) : Table.Update DeliveryAttemptRow where
  selects := fun row => row.outboxId = outboxId ∧ row.destinationId = destinationId ∧ row.state = .deadLetter
  set := fun row => { row with state := .pending, attempts := 0, unreachableAttempts := 0, nextAttemptAt := none }

/-- A retry replaces the row of a dead letter, if there is one. -/
theorem retry_replaces {tables : OutboxTables} (unique : (tables.attempts.map key).Nodup) {outboxId destinationId : Uuid}
    (found : (Deliveries.retryDeadLetter outboxId destinationId tables).1 = true) :
    ∃ row ∈ tables.attempts, key row = (outboxId, destinationId) ∧ row.state = .deadLetter ∧
      (Deliveries.retryDeadLetter outboxId destinationId tables).2 =
        { tables with attempts := replaced ((retrying outboxId destinationId).set row) tables.attempts } := by
  obtain ⟨row, member, selected⟩ := List.any_eq_true.mp found
  obtain ⟨rfl, rfl, dead⟩ := of_decide_eq_true selected
  refine ⟨row, member, rfl, dead, ?_⟩
  have rows : (retrying row.outboxId row.destinationId).run tables.attempts =
      replaced ((retrying row.outboxId row.destinationId).set row) tables.attempts := by
    refine run_one unique member rfl fun other there => ?_
    rw [key_eq_key]
    refine ⟨fun selects => ?_, fun same => decide_eq_true ⟨same.1, same.2, ?_⟩⟩
    · obtain ⟨outbox, destination, -⟩ := of_decide_eq_true selects
      exact ⟨outbox, destination⟩
    · rw [List.inj_on_of_nodup_map unique there member (key_eq_key.mpr same)]
      exact dead
  rw [← rows]
  rfl

/-- An operator queues a dead letter again, with a new budget. -/
theorem Budget.retried (budget : Budget policy room) (outboxId destinationId : Uuid) :
    Budget policy (OutboxRoom.retry outboxId destinationId room) := by
  rw [OutboxRoom.retry]
  dsimp only
  split
  next found =>
    obtain ⟨row, member, keyed, dead, became⟩ := retry_replaces budget.books.unique found
    have about : LogEntry.delivery (.requeued (outboxId, destinationId)) = key row := keyed.symm
    rw [became]
    refine ⟨?_, fun rest phase => ?_⟩
    · refine budget.books.enter member (by simp [dead]) rfl about ?_ (fun same => nomatch same)
      rw [noted, if_pos keyed.symm]
      refine ⟨rfl, ?_, ?_⟩
      · exact fun _ _ member => nomatch member
      · exact fun dead => nomatch dead
    · obtain ⟨distinct, waits⟩ := budget.waiting rest phase
      refine ⟨distinct, fun delivery waiting => ?_⟩
      obtain ⟨present, pending⟩ := waits delivery waiting
      refine ⟨List.mem_map.mpr ⟨delivery.attempt, present, if_neg fun same => ?_⟩, pending⟩
      rw [List.inj_on_of_nodup_map budget.books.unique present member same, dead] at pending
      exact nomatch pending
  · exact budget

variable {parse : String → Option Json} {env : String → Option String}

/-- Steps that leave the deliveries and their histories alone. -/
theorem Budget.beside (budget : Budget policy room) {after : OutboxRoom}
    (rows : after.store.tables.attempts = room.store.tables.attempts) (log : after.log = room.log)
    (waiting : Waiting room.store.tables.attempts after.phase) : Budget policy after :=
  ⟨rows ▸ log ▸ budget.books, rows ▸ waiting⟩

theorem Budget.dispatch (budget : Budget policy room) (cycle : Cycle) :
    Budget policy (OutboxRoom.dispatch parse env policy cycle room) := by
  rw [OutboxRoom.dispatch]
  split
  next => exact budget.beside rfl rfl fun _ same => nomatch same
  next => exact budget.beside rfl rfl fun _ same => nomatch same
  next =>
    refine budget.beside rfl rfl fun rest same => ?_
    obtain rfl := CyclePhase.attempting.inj same
    exact fetched_waiting budget.books.unique policy.batchSize cycle.now
  next outboxId destinationId rest phase => exact ⟨budget.ensure outboxId destinationId, fun _ same => nomatch same⟩
  next => exact budget.beside rfl rfl fun _ same => nomatch same
  next delivery rest phase =>
    split
    next => exact budget.beside rfl rfl fun _ same => nomatch same
    next after ran => exact budget.tried phase (attempt_writes ran)
  next => exact budget.beside rfl rfl fun _ same => nomatch same
  next => exact budget.beside rfl rfl fun _ same => nomatch same

theorem upsert_attempts (id : Uuid) (destination : Deliveries.NewDestination) (tables : OutboxTables) :
    (Deliveries.upsertDestination id destination tables).attempts = tables.attempts := by
  rw [Deliveries.upsertDestination]
  split
  · rfl
  · split <;> rfl

theorem Budget.apply (budget : Budget policy room) (step : OutboxStep) :
    Budget policy (OutboxRoom.apply parse env policy room step) := by
  cases step with
  | queue id payload now =>
    rw [OutboxRoom.apply, Deliveries.insertOutbox]
    split
    · exact budget
    next inserted =>
      split at inserted
      · exact nomatch inserted
      · obtain rfl := Except.ok.inj inserted
        exact budget.beside rfl rfl budget.waiting
  | dispatch cycle => exact budget.dispatch cycle
  | lose sent => exact budget.lost sent
  | register id destination => exact budget.beside (upsert_attempts ..) rfl budget.waiting
  | disable code => exact budget.beside rfl rfl budget.waiting
  | retry outboxId destinationId => exact budget.retried outboxId destinationId
  | requeue index =>
    rw [OutboxRoom.apply]
    split
    · exact budget
    · exact budget.beside rfl rfl budget.waiting
  | abandon index => exact budget.beside rfl rfl budget.waiting

end Steps

/-- In every state that is reached: a dead letter has no endpoint or has used up its budget
since it was queued, the tries that did not get through are not counted, and what is on record
as delivered is not sent again. -/
theorem dead_letter_budget (parse : String → Option Json) (env : String → Option String) (policy : DispatcherPolicy)
    (destinations : List DestinationRow) (steps : List OutboxStep) :
    let room := Sequence.run (OutboxRoom.apply parse env policy) (.opened destinations) steps
    (∀ row ∈ room.store.tables.attempts, row.state = .deadLetter →
      .noEndpoint ∈ history (key row) room.log ∨
        policy.maxAttempts ≤ (history (key row) room.log).countP spends) ∧
    (∀ row ∈ room.store.tables.attempts, row.attempts = (history (key row) room.log).countP counts) ∧
    Unsent room.log := by
  intro room
  have kept : ∀ room step, Budget policy room → True → Budget policy (OutboxRoom.apply parse env policy room step) :=
    fun _ step budget _ => budget.apply step
  have budget : Budget policy room :=
    Sequence.keeps kept (opened_budget destinations) (Sequence.meets_of_forall fun _ _ => trivial)
  exact ⟨fun row member => (budget.books.accounts row member).dead,
    fun row member => (budget.books.accounts row member).attempts, budget.books.unsent⟩

/-- A destination whose secret is in a variable that is not set. -/
def signed : DestinationRow :=
  ⟨1, "ap", "webhook", some "https://ap.example", true, .object [("signing_secret_env", .string "AP_SECRET")]⟩

def quietly : Cycle := ⟨0, fun _ => 0, fun _ => .failed "timed out"⟩

/-- A dead letter of which nothing was ever sent. -/
theorem unsigned_tries_spend :
    let room := Sequence.run (OutboxRoom.apply (fun _ => some .null) (fun _ => none) ⟨10, 1, 5⟩) (.opened [signed])
      [.queue 7 "sale" 0, .dispatch quietly, .dispatch quietly, .dispatch quietly, .dispatch quietly, .dispatch quietly]
    room.store.tables.attempts.map (fun row => (row.state, row.attempts)) = [(.deadLetter, 1)] ∧
      room.log = [.tried (7, 1) .unsigned] := by
  decide +kernel

end ApexEdge.Proofs.DeliveryBudget
