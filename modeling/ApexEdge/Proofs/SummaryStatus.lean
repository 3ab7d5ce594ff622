import ApexEdge.Proofs.DeliveryBudget

/-! The status of a submission against the deliveries that it is owed. The dispatcher writes
the status some statements after it has read the deliveries, and a retry writes in two
statements; where neither is cut in two, what a settle leaves is true until the next cycle. -/

namespace ApexEdge.Proofs.SummaryStatus
open Library Payment Domain Storage Outbox
open Payment.StripeTerminal Proofs.DeliveryTries Proofs.DeliveryBudget

/-- The deliveries of one submission. -/
def rowsOf (rows : List DeliveryAttemptRow) (id : Uuid) : List DeliveryAttemptRow := rows.filter (·.outboxId = id)

/-- A finished submission has the status of its deliveries. -/
structure Consistent (rows : List DeliveryAttemptRow) (submission : OutboxSubmission) : Prop where
  delivered : submission.status = .delivered →
    rowsOf rows submission.id ≠ [] ∧ ∀ row ∈ rowsOf rows submission.id, row.state = .delivered
  dead : submission.status = .deadLetter →
    (∃ row ∈ rowsOf rows submission.id, row.state = .deadLetter) ∧
      ∀ row ∈ rowsOf rows submission.id, row.state ≠ .pending

/-- A pending submission is owed to somebody still, unless it never was. -/
def Owing (rows : List DeliveryAttemptRow) (submission : OutboxSubmission) : Prop :=
  submission.status = .pending → rowsOf rows submission.id ≠ [] →
    ∃ row ∈ rowsOf rows submission.id, row.state = .pending

/-- What the dispatcher knows at each point of its cycle. -/
def Knows (limit : Nat) (tables : OutboxTables) : CyclePhase → Prop
  | .owing owed => ∀ pair ∈ owed, ∃ submission ∈ tables.submissions, submission.id = pair.1 ∧ submission.status = .pending
  | .settling found rest =>
    (∀ entry ∈ rest, rowsOf tables.attempts entry.1 ≠ [] ∧
      (∀ row ∈ rowsOf tables.attempts entry.1, row.state ≠ .pending) ∧
      (0 < entry.2 ↔ ∃ row ∈ rowsOf tables.attempts entry.1, row.state = .deadLetter)) ∧
    (found < limit → ∀ submission ∈ tables.submissions, Owing tables.attempts submission ∨ submission.id ∈ rest.map Prod.fst)
  | .idle (some settled) => settled < limit → ∀ submission ∈ tables.submissions, Owing tables.attempts submission
  | _ => True

structure Summary (policy : DispatcherPolicy) (room : OutboxRoom) : Prop where
  budget : Budget policy room
  unique : (room.store.tables.submissions.map OutboxSubmission.id).Nodup
  queued : ∀ row ∈ room.store.tables.attempts, row.outboxId ∈ room.store.tables.submissions.map OutboxSubmission.id
  consistent : ∀ submission ∈ room.store.tables.submissions, submission.id ∉ room.requeues →
    Consistent room.store.tables.attempts submission
  retried : ∀ id ∈ room.requeues, ∃ row ∈ rowsOf room.store.tables.attempts id, row.state = .pending
  knows : Knows policy.batchSize room.store.tables room.phase

/-- The dispatcher takes no statement between the two of a retry, each retry comes to its
second statement, and none begins between a settle's reading and writing its submission. -/
def Whole (room : OutboxRoom) : OutboxStep → Prop
  | .dispatch _ => room.requeues = []
  | .abandon _ => False
  | .retry outboxId _ =>
    match room.phase with
    | .settling _ rest => outboxId ∉ rest.map Prod.fst
    | _ => True
  | _ => True

section Rows
variable {rows : List DeliveryAttemptRow} {id : Uuid}

theorem rowsOf_append {row : DeliveryAttemptRow} (other : row.outboxId ≠ id) : rowsOf (rows ++ [row]) id = rowsOf rows id := by
  rw [rowsOf, List.filter_append, List.filter_cons_of_neg (by simpa using other), List.filter_nil, List.append_nil]
  rfl

theorem rowsOf_cons (row : DeliveryAttemptRow) :
    rowsOf (row :: rows) id = if row.outboxId = id then row :: rowsOf rows id else rowsOf rows id := by
  simp [rowsOf, List.filter_cons]

theorem rowsOf_replaced {row : DeliveryAttemptRow} (other : row.outboxId ≠ id) :
    rowsOf (replaced row rows) id = rowsOf rows id := by
  induction rows with
  | nil => rfl
  | cons first rows ih =>
    have rest : replaced row (first :: rows) = (if key first = key row then row else first) :: replaced row rows := rfl
    rw [rest, rowsOf_cons, rowsOf_cons, ih]
    by_cases same : key first = key row
    · have first_other : first.outboxId ≠ id := fun own => other ((key_eq_key.mp same).1 ▸ own)
      rw [if_pos same, if_neg other, if_neg first_other]
    · rw [if_neg same]

theorem mem_replaced {row : DeliveryAttemptRow} (member : ∃ old ∈ rows, key old = key row) :
    row ∈ rowsOf (replaced row rows) row.outboxId := by
  obtain ⟨old, there, same⟩ := member
  exact List.mem_filter.mpr ⟨List.mem_map.mpr ⟨old, there, if_pos same⟩, by simp⟩

theorem outboxIds_replaced {row : DeliveryAttemptRow} :
    (replaced row rows).map DeliveryAttemptRow.outboxId = rows.map DeliveryAttemptRow.outboxId := by
  have keys : ((replaced row rows).map key).map Prod.fst = (rows.map key).map Prod.fst := by rw [replaced_keys]
  rwa [List.map_map, List.map_map] at keys

theorem Consistent.of_rows {after : List DeliveryAttemptRow} {submission : OutboxSubmission}
    (consistent : Consistent rows submission) (same : rowsOf after submission.id = rowsOf rows submission.id) :
    Consistent after submission :=
  ⟨same ▸ consistent.delivered, same ▸ consistent.dead⟩

theorem Consistent.of_pending {submission : OutboxSubmission} (pending : submission.status = .pending) :
    Consistent rows submission :=
  ⟨fun delivered => by simp [pending] at delivered, fun dead => by simp [pending] at dead⟩

/-- Who is still owed something has a pending submission. -/
theorem Consistent.pending {submission : OutboxSubmission} (consistent : Consistent rows submission)
    {row : DeliveryAttemptRow} (member : row ∈ rowsOf rows submission.id) (pending : row.state = .pending) :
    submission.status = .pending := by
  cases status : submission.status with
  | pending => rfl
  | delivered =>
    rw [(consistent.delivered status).2 row member] at pending
    exact nomatch pending
  | deadLetter => exact absurd pending ((consistent.dead status).2 row member)

/-- A submission that somebody is owed while it is pending has the status of its deliveries. -/
theorem Consistent.statuses {submission : OutboxSubmission} (consistent : Consistent rows submission)
    (owing : Owing rows submission) (owed : rowsOf rows submission.id ≠ []) :
    (submission.status = .pending ↔ ∃ row ∈ rowsOf rows submission.id, row.state = .pending) ∧
    (submission.status = .delivered ↔ ∀ row ∈ rowsOf rows submission.id, row.state = .delivered) ∧
    (submission.status = .deadLetter ↔
      (∃ row ∈ rowsOf rows submission.id, row.state = .deadLetter) ∧
        ∀ row ∈ rowsOf rows submission.id, row.state ≠ .pending) := by
  obtain ⟨first, there⟩ := List.exists_mem_of_ne_nil _ owed
  refine ⟨⟨fun pending => owing pending owed, fun ⟨row, member, pending⟩ => consistent.pending member pending⟩, ?_, ?_⟩
  · refine ⟨fun delivered => (consistent.delivered delivered).2, fun all => ?_⟩
    cases status : submission.status with
    | delivered => rfl
    | pending =>
      obtain ⟨row, member, pending⟩ := owing status owed
      exact nomatch pending.symm.trans (all row member)
    | deadLetter =>
      obtain ⟨row, member, dead⟩ := (consistent.dead status).1
      exact nomatch dead.symm.trans (all row member)
  · refine ⟨consistent.dead, fun ⟨⟨row, member, dead⟩, unowed⟩ => ?_⟩
    cases status : submission.status with
    | deadLetter => rfl
    | pending =>
      obtain ⟨row, member, pending⟩ := owing status owed
      exact absurd pending (unowed row member)
    | delivered => exact nomatch dead.symm.trans ((consistent.delivered status).2 row member)

end Rows

section Steps
variable {parse : String → Option Json} {env : String → Option String} {policy : DispatcherPolicy} {room : OutboxRoom}

theorem opened_summary (destinations : List DestinationRow) : Summary policy (.opened destinations) := by
  refine ⟨opened_budget destinations, .nil, ?_, ?_, ?_, trivial⟩
  all_goals exact fun _ member => nomatch member

/-- The deliveries of one pending submission change, while no retry is cut in two. -/
theorem Summary.rows_changed (summary : Summary policy room) (whole : room.requeues = []) {id : Uuid}
    {after : OutboxRoom} (budget : Budget policy after)
    (submissions : after.store.tables.submissions = room.store.tables.submissions)
    (requeues : after.requeues = room.requeues)
    (others : ∀ other, other ≠ id → rowsOf after.store.tables.attempts other = rowsOf room.store.tables.attempts other)
    (queued : ∀ row ∈ after.store.tables.attempts,
      row.outboxId ∈ room.store.tables.submissions.map OutboxSubmission.id)
    (pending : ∀ submission ∈ room.store.tables.submissions, submission.id = id → submission.status = .pending)
    (knows : Knows policy.batchSize after.store.tables after.phase) : Summary policy after := by
  refine ⟨budget, submissions ▸ summary.unique, submissions ▸ queued, ?_, ?_, knows⟩
  · rw [submissions, requeues]
    intro submission member unexempt
    by_cases own : submission.id = id
    · exact .of_pending (pending submission member own)
    · exact (summary.consistent submission member unexempt).of_rows (others _ own)
  · rw [requeues, whole]
    exact fun _ member => nomatch member

theorem ensure_rows (outboxId destinationId : Uuid) (tables : OutboxTables) :
    (Deliveries.ensureDelivery outboxId destinationId tables).submissions = tables.submissions ∧
    ((Deliveries.ensureDelivery outboxId destinationId tables).attempts = tables.attempts ∨
      (Deliveries.ensureDelivery outboxId destinationId tables).attempts =
        tables.attempts ++ [⟨outboxId, destinationId, .pending, 0, 0, none, none⟩]) := by
  rw [Deliveries.ensureDelivery]
  split
  · exact ⟨rfl, .inl rfl⟩
  · exact ⟨rfl, .inr rfl⟩

/-- A destination is owed a submission that the cycle has found pending. -/
theorem Summary.owe (summary : Summary policy room) (whole : room.requeues = []) {outboxId destinationId : Uuid}
    {rest : List (Uuid × Uuid)} (phase : room.phase = .owing ((outboxId, destinationId) :: rest)) :
    Summary policy { room.write (Deliveries.ensureDelivery outboxId destinationId) with phase := .owing rest } := by
  have found : ∀ pair ∈ (outboxId, destinationId) :: rest,
      ∃ submission ∈ room.store.tables.submissions, submission.id = pair.1 ∧ submission.status = .pending := by
    have knows := summary.knows
    rwa [phase] at knows
  obtain ⟨same, rows⟩ := ensure_rows outboxId destinationId room.store.tables
  obtain ⟨submission, member, own, pending⟩ := found _ List.mem_cons_self
  have budget : Budget policy
      { room.write (Deliveries.ensureDelivery outboxId destinationId) with phase := .owing rest } :=
    ⟨summary.budget.ensure _ _, fun _ same => nomatch same⟩
  refine @Summary.rows_changed policy room summary whole outboxId _ budget same rfl ?_ ?_ ?_ ?_
  · intro other apart
    show rowsOf (Deliveries.ensureDelivery outboxId destinationId room.store.tables).attempts other = _
    rcases rows with kept | added
    · rw [kept]
    · rw [added]
      exact rowsOf_append (Ne.symm apart)
  · intro row there
    have there : row ∈ (Deliveries.ensureDelivery outboxId destinationId room.store.tables).attempts := there
    rcases rows with kept | added
    · exact summary.queued row (kept ▸ there)
    · rw [added] at there
      rcases List.mem_append.mp there with old | new
      · exact summary.queued row old
      · rw [List.mem_singleton.mp new]
        exact List.mem_map.mpr ⟨submission, member, own⟩
  · intro other there same_id
    rw [List.inj_on_of_nodup_map summary.unique there member (same_id.trans own.symm)]
    exact pending
  · intro pair later
    obtain ⟨other, there, facts⟩ := found pair (List.mem_cons_of_mem _ later)
    exact ⟨other, same ▸ there, facts⟩

/-- Statements that write neither submissions nor deliveries. -/
theorem Summary.beside (summary : Summary policy room) {after : OutboxRoom} (budget : Budget policy after)
    (submissions : after.store.tables.submissions = room.store.tables.submissions)
    (rows : after.store.tables.attempts = room.store.tables.attempts) (requeues : after.requeues = room.requeues)
    (knows : Knows policy.batchSize after.store.tables after.phase) : Summary policy after := by
  refine ⟨budget, submissions ▸ summary.unique, submissions ▸ rows ▸ summary.queued, ?_, ?_, knows⟩
  · rw [submissions, rows, requeues]
    exact summary.consistent
  · rw [rows, requeues]
    exact summary.retried

theorem knows_owed (limit : Nat) (tables : OutboxTables) (destinations : List DestinationRow) :
    Knows limit tables (.owing (OutboxRoom.owed parse destinations (Deliveries.pendingSubmissions limit tables))) := by
  intro pair member
  obtain ⟨submission, found, paired⟩ := List.mem_flatMap.mp member
  obtain ⟨destination, -, rfl⟩ := List.mem_map.mp paired
  have ordered := (List.perm_insertionSort _ _).mem_iff.mp (List.mem_of_mem_take found)
  obtain ⟨there, pending⟩ := List.mem_filter.mp ordered
  exact ⟨submission, there, rfl, of_decide_eq_true pending⟩

theorem isFinished_iff {tables : OutboxTables} {submission : OutboxSubmission} :
    Deliveries.isFinished tables submission = true ↔
      submission.status = .pending ∧ rowsOf tables.attempts submission.id ≠ [] ∧
        ∀ row ∈ rowsOf tables.attempts submission.id, row.state ≠ .pending := by
  rw [Deliveries.isFinished, decide_eq_true_eq, List.all_eq_true]
  refine and_congr_right fun _ => and_congr_right fun _ => ?_
  exact forall₂_congr fun row _ => decide_eq_true_iff

/-- What a settle reads: every finished submission, where there are fewer than it may settle. -/
theorem knows_finished (limit : Nat) (tables : OutboxTables) :
    Knows limit tables
      (.settling (Deliveries.finishedSubmissions limit tables).length (Deliveries.finishedSubmissions limit tables)) := by
  refine ⟨fun entry member => ?_, fun fewer submission there => ?_⟩
  · obtain ⟨submission, found, rfl⟩ := List.mem_map.mp member
    obtain ⟨-, owed, settled⟩ := isFinished_iff.mp (List.mem_filter.mp (List.mem_of_mem_take found)).2
    refine ⟨owed, settled, ?_⟩
    rw [List.length_pos_iff_exists_mem]
    exact exists_congr fun row => List.mem_filter.trans (and_congr_right fun _ => decide_eq_true_iff)
  · have all : (tables.submissions.filter (Deliveries.isFinished tables)).take limit =
        tables.submissions.filter (Deliveries.isFinished tables) := by
      rw [Deliveries.finishedSubmissions, List.length_map, List.length_take] at fewer
      exact List.take_of_length_le (by omega)
    by_cases finished : Deliveries.isFinished tables submission = true
    · refine .inr ?_
      rw [Deliveries.finishedSubmissions, all, List.map_map]
      exact List.mem_map.mpr ⟨submission, List.mem_filter.mpr ⟨there, finished⟩, rfl⟩
    · refine .inl fun pending owed => ?_
      by_contra none
      exact finished (isFinished_iff.mpr ⟨pending, owed, fun row member waits => none ⟨row, member, waits⟩⟩)

/-- A try of a delivery that its submission is still pending for. -/
theorem Summary.tried (summary : Summary policy room) (whole : room.requeues = []) {delivery : DueDelivery}
    {rest : List DueDelivery} (phase : room.phase = .attempting (delivery :: rest)) {outcome : Outcome}
    {after : OutboxStore} (writes : Writes policy delivery outcome room.store after) :
    Summary policy
      { room with
        store := after
        phase := .attempting rest
        log := room.log ++ [.tried (deliveryOf delivery) outcome] } := by
  have budget := summary.budget.tried phase writes
  obtain ⟨member, waits⟩ := (summary.budget.waiting _ phase).2 delivery List.mem_cons_self
  obtain ⟨row, became, keyed, -, -⟩ := writes.replaces summary.budget.books.unique member
  have rows : after.tables.attempts = replaced row room.store.tables.attempts := by rw [became]
  have own : row.outboxId = delivery.attempt.outboxId := (key_eq_key.mp keyed).1
  refine @Summary.rows_changed policy room summary whole row.outboxId _ budget (by dsimp only; rw [became]) rfl ?_ ?_ ?_
    trivial
  · intro other apart
    dsimp only
    rw [rows]
    exact rowsOf_replaced (Ne.symm apart)
  · intro changed there
    dsimp only at there
    rw [rows] at there
    have ids : changed.outboxId ∈ room.store.tables.attempts.map DeliveryAttemptRow.outboxId := by
      rw [← outboxIds_replaced]
      exact List.mem_map_of_mem there
    obtain ⟨old, present, same⟩ := List.mem_map.mp ids
    exact same ▸ summary.queued old present
  · intro submission there same
    have unexempt : submission.id ∉ room.requeues := by
      rw [whole]
      exact List.not_mem_nil
    have of_submission : delivery.attempt ∈ rowsOf room.store.tables.attempts submission.id :=
      List.mem_filter.mpr ⟨member, decide_eq_true (own.symm.trans same.symm)⟩
    exact (summary.consistent submission there unexempt).pending of_submission waits

/-- What a settle writes for one submission. -/
theorem settled_submission {id : Uuid} {dead : Nat} {tables : OutboxTables} {after : OutboxSubmission}
    (member : after ∈ (Deliveries.settleSubmission id dead tables).submissions) :
    ∃ submission ∈ tables.submissions, after.id = submission.id ∧
      (submission.id = id ∧ after.status = (if 0 < dead then .deadLetter else .delivered) ∨
        submission.id ≠ id ∧ after = submission) := by
  obtain ⟨submission, there, rfl⟩ := List.mem_map.mp member
  refine ⟨submission, there, ?_⟩
  by_cases own : submission.id = id
  · rw [Table.Update.row_selected (decide_eq_true own)]
    dsimp only
    split
    · exact ⟨rfl, .inl ⟨own, rfl⟩⟩
    · exact ⟨rfl, .inl ⟨own, rfl⟩⟩
  · rw [Table.Update.row_kept (decide_eq_false own)]
    exact ⟨rfl, .inr ⟨own, rfl⟩⟩

theorem settle_ids (id : Uuid) (dead : Nat) (tables : OutboxTables) :
    (Deliveries.settleSubmission id dead tables).submissions.map OutboxSubmission.id =
      tables.submissions.map OutboxSubmission.id := by
  rw [Deliveries.settleSubmission, Table.Update.run, List.map_map]
  refine List.map_congr_left fun submission _ => Table.Update.row_column _ _ (fun old => ?_) submission
  dsimp only
  split <;> rfl

/-- One submission of a settle gets the status of its deliveries. -/
theorem Summary.settle (summary : Summary policy room) {id : Uuid} {dead found : Nat} {rest : List (Uuid × Nat)}
    (phase : room.phase = .settling found ((id, dead) :: rest)) :
    Summary policy { room.write (Deliveries.settleSubmission id dead) with phase := .settling found rest } := by
  have knows := summary.knows
  rw [phase] at knows
  obtain ⟨entries, complete⟩ := knows
  obtain ⟨owed, none, dead_iff⟩ := entries _ List.mem_cons_self
  have ids := settle_ids id dead room.store.tables
  have budget : Budget policy { room.write (Deliveries.settleSubmission id dead) with phase := .settling found rest } :=
    ⟨summary.budget.books, fun _ same => nomatch same⟩
  refine ⟨budget, ?_, ?_, ?_, summary.retried, ?_, ?_⟩
  · exact ids.symm ▸ summary.unique
  · exact ids.symm ▸ summary.queued
  · intro after member unexempt
    obtain ⟨submission, there, same, ⟨own, status⟩ | ⟨-, rfl⟩⟩ := settled_submission member
    · have id_eq : after.id = id := same.trans own
      refine ⟨fun delivered => ?_, fun dead_letter => ?_⟩
      · rw [id_eq]
        refine ⟨owed, fun row there => ?_⟩
        cases state : row.state with
        | delivered => rfl
        | pending => exact absurd state (none row there)
        | deadLetter =>
          rw [if_pos (dead_iff.mpr ⟨row, there, state⟩), delivered] at status
          exact nomatch status
      · rw [id_eq]
        refine ⟨dead_iff.mp ?_, none⟩
        by_contra alive
        rw [if_neg alive, dead_letter] at status
        exact nomatch status
    · exact summary.consistent after there unexempt
  · exact fun entry later => entries entry (List.mem_cons_of_mem _ later)
  · intro fewer after member
    obtain ⟨submission, there, same, ⟨own, status⟩ | ⟨other, rfl⟩⟩ := settled_submission member
    · refine .inl fun pending => ?_
      rw [pending] at status
      split at status <;> exact nomatch status
    · rcases complete fewer after there with owing | listed
      · exact .inl owing
      · exact .inr ((List.mem_cons.mp listed).resolve_left other)

/-- Every statement of the dispatcher, while no retry is cut in two. -/
theorem Summary.dispatch (summary : Summary policy room) (whole : room.requeues = []) (cycle : Cycle) :
    Summary policy (OutboxRoom.dispatch parse env policy cycle room) := by
  have budget : Budget policy (OutboxRoom.dispatch parse env policy cycle room) := summary.budget.dispatch cycle
  have knows := summary.knows
  rw [OutboxRoom.dispatch] at budget ⊢
  split
  next phase =>
    rw [phase] at budget
    exact summary.beside budget rfl rfl rfl trivial
  next phase =>
    rw [phase] at budget
    exact summary.beside budget rfl rfl rfl (knows_owed policy.batchSize room.store.tables _)
  next phase =>
    rw [phase] at budget
    exact summary.beside budget rfl rfl rfl trivial
  next outboxId destinationId rest phase => exact summary.owe whole phase
  next phase =>
    rw [phase] at budget
    exact summary.beside budget rfl rfl rfl (knows_finished policy.batchSize room.store.tables)
  next delivery rest phase =>
    split
    next error failed =>
      rw [phase] at budget
      dsimp only at budget
      rw [failed] at budget
      exact summary.beside budget rfl rfl rfl trivial
    next after ran => exact summary.tried whole phase (attempt_writes ran)
  next found phase =>
    rw [phase] at budget knows
    refine summary.beside budget rfl rfl rfl fun fewer submission there => ?_
    exact (knows.2 fewer submission there).resolve_right List.not_mem_nil
  next found id dead rest phase => exact summary.settle phase

/-- A submission that nobody is owed yet. -/
theorem Knows.queue {limit : Nat} {tables : OutboxTables} {phase : CyclePhase} (knows : Knows limit tables phase)
    {submission : OutboxSubmission} (unowed : rowsOf tables.attempts submission.id = []) :
    Knows limit { tables with submissions := tables.submissions ++ [submission] } phase := by
  have owing : ∀ Also : OutboxSubmission → Prop,
      (∀ old ∈ tables.submissions, Owing tables.attempts old ∨ Also old) →
      ∀ old ∈ tables.submissions ++ [submission], Owing tables.attempts old ∨ Also old := by
    intro Also each old member
    rcases List.mem_append.mp member with early | late
    · exact each old early
    · rw [List.mem_singleton.mp late]
      exact .inl fun _ owed => absurd unowed owed
  match phase, knows with
  | .owing owed, knows =>
    intro pair member
    obtain ⟨old, there, facts⟩ := knows pair member
    exact ⟨old, List.mem_append_left _ there, facts⟩
  | .settling found rest, ⟨entries, complete⟩ => exact ⟨entries, fun fewer => owing _ (complete fewer)⟩
  | .idle (some settled), knows =>
    intro fewer old member
    exact (owing (fun _ => False) (fun old there => .inl (knows fewer old there)) old member).resolve_right id
  | .idle none, _ | .listed _, _ | .attempting _, _ => trivial

theorem Summary.queue (summary : Summary policy room) (id : Uuid) (payload : String) (now : Timestamp)
    (fresh : room.store.tables.submissions.any (·.id = id) = false) :
    Summary policy
      { room with
        store.tables.submissions := room.store.tables.submissions ++ [⟨id, payload, .pending, now, none⟩] } := by
  have absent : ∀ submission ∈ room.store.tables.submissions, submission.id ≠ id := by
    intro submission there
    simpa using List.any_eq_false.mp fresh submission there
  have unowed : rowsOf room.store.tables.attempts id = [] := by
    refine List.filter_eq_nil_iff.mpr fun row there own => ?_
    obtain ⟨submission, present, same⟩ := List.mem_map.mp (summary.queued row there)
    exact absent submission present (same.trans (of_decide_eq_true own))
  have budget : Budget policy
      { room with
        store.tables.submissions := room.store.tables.submissions ++ [⟨id, payload, .pending, now, none⟩] } :=
    ⟨summary.budget.books, summary.budget.waiting⟩
  refine ⟨budget, Table.unique_append summary.unique absent, ?_, ?_, summary.retried, summary.knows.queue unowed⟩
  · intro row there
    rw [List.map_append]
    exact List.mem_append_left _ (summary.queued row there)
  · intro submission member unexempt
    rcases List.mem_append.mp member with early | late
    · exact summary.consistent submission early unexempt
    · rw [List.mem_singleton.mp late]
      exact .of_pending rfl

/-- A delivery is owed again, while its submission is not being settled. -/
theorem Knows.retry {limit : Nat} {tables : OutboxTables} {phase : CyclePhase} (knows : Knows limit tables phase)
    {row : DeliveryAttemptRow} (member : ∃ old ∈ tables.attempts, key old = key row) (pending : row.state = .pending)
    (apart : ∀ found rest, phase = .settling found rest → row.outboxId ∉ rest.map Prod.fst) :
    Knows limit { tables with attempts := replaced row tables.attempts } phase := by
  have owing : ∀ submission, Owing tables.attempts submission → Owing (replaced row tables.attempts) submission := by
    intro submission owing
    by_cases own : row.outboxId = submission.id
    · exact fun _ _ => ⟨row, own ▸ mem_replaced member, pending⟩
    · rw [Owing, rowsOf_replaced own]
      exact owing
  match phase, knows, apart with
  | .owing owed, knows, _ => exact knows
  | .settling found rest, ⟨entries, complete⟩, apart =>
    refine ⟨fun entry later => ?_, fun fewer submission there => (complete fewer submission there).imp_left (owing _)⟩
    have other : row.outboxId ≠ entry.1 := fun own => apart found rest rfl (own ▸ List.mem_map_of_mem later)
    rw [rowsOf_replaced other]
    exact entries entry later
  | .idle (some settled), knows, _ => exact fun fewer submission there => owing _ (knows fewer submission there)
  | .idle none, _, _ | .listed _, _, _ | .attempting _, _, _ => trivial

/-- The first statement of a retry, from which on its submission is exempt. -/
theorem Summary.retry (summary : Summary policy room) (outboxId destinationId : Uuid)
    (whole : Whole room (.retry outboxId destinationId)) :
    Summary policy (OutboxRoom.retry outboxId destinationId room) := by
  have budget := summary.budget.retried outboxId destinationId
  rw [OutboxRoom.retry] at budget ⊢
  dsimp only at budget ⊢
  split
  next found =>
    rw [if_pos found] at budget
    obtain ⟨row, there, keyed, -, became⟩ := retry_replaces summary.budget.books.unique found
    obtain ⟨rfl, rfl⟩ := Prod.mk.inj keyed
    rw [became] at budget ⊢
    refine ⟨budget, summary.unique, ?_, ?_, ?_, ?_⟩
    · intro changed member
      have ids : changed.outboxId ∈ room.store.tables.attempts.map DeliveryAttemptRow.outboxId := by
        rw [← outboxIds_replaced]
        exact List.mem_map_of_mem member
      obtain ⟨old, present, same⟩ := List.mem_map.mp ids
      exact same ▸ summary.queued old present
    · intro submission member unexempt
      rw [List.mem_append, List.mem_singleton, not_or] at unexempt
      have consistent := summary.consistent submission member unexempt.1
      exact consistent.of_rows (rowsOf_replaced (Ne.symm unexempt.2))
    · intro id member
      by_cases own : row.outboxId = id
      · rw [← own]
        exact ⟨_, mem_replaced ⟨row, there, rfl⟩, rfl⟩
      · have early := (List.mem_append.mp member).resolve_right (mt List.mem_singleton.mp (Ne.symm own))
        have kept := @rowsOf_replaced room.store.tables.attempts id ((retrying row.outboxId row.destinationId).set row) own
        exact kept.symm ▸ summary.retried id early
    · refine summary.knows.retry ⟨row, there, rfl⟩ rfl fun settled rest phase => ?_
      rw [Whole, phase] at whole
      exact whole
  · exact summary

/-- What the second statement of a retry writes. -/
theorem requeued_submission {id : Uuid} {tables : OutboxTables} {after : OutboxSubmission}
    (member : after ∈ (Deliveries.requeueSubmission id tables).submissions) :
    ∃ submission ∈ tables.submissions, after.id = submission.id ∧
      (submission.id = id ∧ after.status = .pending ∨ submission.id ≠ id ∧ after = submission) := by
  obtain ⟨submission, there, rfl⟩ := List.mem_map.mp member
  refine ⟨submission, there, ?_⟩
  by_cases own : submission.id = id
  · rw [Table.Update.row_selected (decide_eq_true own)]
    exact ⟨rfl, .inl ⟨own, rfl⟩⟩
  · rw [Table.Update.row_kept (decide_eq_false own)]
    exact ⟨rfl, .inr ⟨own, rfl⟩⟩

theorem requeue_ids (id : Uuid) (tables : OutboxTables) :
    (Deliveries.requeueSubmission id tables).submissions.map OutboxSubmission.id =
      tables.submissions.map OutboxSubmission.id := by
  rw [Deliveries.requeueSubmission, Table.Update.run, List.map_map]
  exact List.map_congr_left fun submission _ => Table.Update.row_column _ _ (fun _ => rfl) submission

/-- A submission is pending again, which is owed to somebody. -/
theorem Knows.requeue {limit : Nat} {tables : OutboxTables} {phase : CyclePhase} (knows : Knows limit tables phase)
    {id : Uuid} (owed : ∃ row ∈ rowsOf tables.attempts id, row.state = .pending) :
    Knows limit (Deliveries.requeueSubmission id tables) phase := by
  have owing : ∀ Also : Uuid → Prop,
      (∀ old ∈ tables.submissions, Owing tables.attempts old ∨ Also old.id) →
      ∀ after ∈ (Deliveries.requeueSubmission id tables).submissions, Owing tables.attempts after ∨ Also after.id := by
    intro Also each after member
    obtain ⟨old, there, same, ⟨own, -⟩ | ⟨-, rfl⟩⟩ := requeued_submission member
    · exact .inl fun _ _ => (same.trans own).symm ▸ owed
    · exact each after there
  match phase, knows with
  | .owing pairs, knows =>
    intro pair member
    obtain ⟨old, there, same, pending⟩ := knows pair member
    by_cases own : old.id = id
    · exact ⟨{ old with status := .pending, errorMessage := none },
        List.mem_map.mpr ⟨old, there, Table.Update.row_selected (decide_eq_true own)⟩, same, rfl⟩
    · exact ⟨old, List.mem_map.mpr ⟨old, there, Table.Update.row_kept (decide_eq_false own)⟩, same, pending⟩
  | .settling found rest, ⟨entries, complete⟩ => exact ⟨entries, fun fewer => owing (· ∈ rest.map Prod.fst) (complete fewer)⟩
  | .idle (some settled), knows =>
    intro fewer after member
    exact (owing (fun _ => False) (fun old there => .inl (knows fewer old there)) after member).resolve_right not_false
  | .idle none, _ | .listed _, _ | .attempting _, _ => trivial

/-- The second statement of a retry, from which on its submission is not exempt any more. -/
theorem Summary.requeue (summary : Summary policy room) {index : Nat} {id : Uuid} (found : room.requeues[index]? = some id) :
    Summary policy { room.write (Deliveries.requeueSubmission id) with requeues := room.requeues.eraseIdx index } := by
  have ids := requeue_ids id room.store.tables
  have owed := summary.retried id (List.mem_of_getElem? found)
  refine ⟨⟨summary.budget.books, summary.budget.waiting⟩, ?_, ?_, ?_, ?_, summary.knows.requeue owed⟩
  · exact ids.symm ▸ summary.unique
  · exact ids.symm ▸ summary.queued
  · intro after member unexempt
    obtain ⟨submission, there, same, ⟨own, pending⟩ | ⟨other, rfl⟩⟩ := requeued_submission member
    · exact .of_pending pending
    · refine summary.consistent after there fun exempt => ?_
      obtain ⟨position, at_position⟩ := List.mem_iff_getElem?.mp exempt
      have apart : position ≠ index := by
        rintro rfl
        exact other (Option.some.inj (at_position.symm.trans found))
      exact unexempt (List.mem_eraseIdx_iff_getElem?.mpr ⟨position, apart, at_position⟩)
  · exact fun other member => summary.retried other (List.mem_of_mem_eraseIdx member)

theorem upsert_submissions (id : Uuid) (destination : Deliveries.NewDestination) (tables : OutboxTables) :
    (Deliveries.upsertDestination id destination tables).submissions = tables.submissions := by
  rw [Deliveries.upsertDestination]
  split
  · rfl
  · split <;> rfl

/-- What the dispatcher knows is about submissions and deliveries alone. -/
theorem Knows.of_tables {limit : Nat} {tables after : OutboxTables} {phase : CyclePhase} (knows : Knows limit tables phase)
    (submissions : after.submissions = tables.submissions) (rows : after.attempts = tables.attempts) :
    Knows limit after phase := by
  match phase, knows with
  | .owing _, knows =>
    rw [Knows, submissions]
    exact knows
  | .settling _ _, knows =>
    rw [Knows, submissions, rows]
    exact knows
  | .idle (some _), knows =>
    rw [Knows, submissions, rows]
    exact knows
  | .idle none, _ | .listed _, _ | .attempting _, _ => trivial

theorem Summary.apply (summary : Summary policy room) {step : OutboxStep} (whole : Whole room step) :
    Summary policy (OutboxRoom.apply parse env policy room step) := by
  have budget : Budget policy (OutboxRoom.apply parse env policy room step) := summary.budget.apply step
  cases step with
  | queue id payload now =>
    rw [OutboxRoom.apply, Deliveries.insertOutbox]
    cases known : room.store.tables.submissions.any (·.id = id) with
    | true => exact summary
    | false => exact summary.queue id payload now known
  | dispatch cycle => exact summary.dispatch whole cycle
  | lose sent => exact summary.beside budget rfl rfl rfl trivial
  | register id destination =>
    have submissions := upsert_submissions id destination room.store.tables
    have rows := upsert_attempts id destination room.store.tables
    exact summary.beside budget submissions rows rfl (summary.knows.of_tables submissions rows)
  | disable code => exact summary.beside budget rfl rfl rfl (summary.knows.of_tables rfl rfl)
  | retry outboxId destinationId => exact summary.retry outboxId destinationId whole
  | requeue index =>
    rw [OutboxRoom.apply]
    split
    · exact summary
    next id found => exact summary.requeue found
  | abandon index => exact whole.elim

end Steps

/-! ### Who is owed what -/

section Answered
variable {parse : String → Option Json} {env : String → Option String} {policy : DispatcherPolicy} {room : OutboxRoom}

/-- What the cycle has found and not written yet. -/
def unwritten : CyclePhase → List (Uuid × Uuid)
  | .owing rest => rest
  | _ => []

/-- Whoever the cycle has found has a delivery, or will get one next. -/
def Answered (room : OutboxRoom) : Prop :=
  ∀ pair ∈ room.wanted, pair ∈ room.store.tables.attempts.map key ∨ pair ∈ unwritten room.phase

theorem Answered.beside (answered : Answered room) {after : OutboxRoom} (wanted : after.wanted = room.wanted)
    (keys : after.store.tables.attempts.map key = room.store.tables.attempts.map key)
    (phase : unwritten after.phase = unwritten room.phase) : Answered after := by
  rw [Answered, wanted, keys, phase]
  exact answered

theorem ensure_keys (outboxId destinationId : Uuid) (tables : OutboxTables) :
    (outboxId, destinationId) ∈ (Deliveries.ensureDelivery outboxId destinationId tables).attempts.map key ∧
    ∀ pair ∈ tables.attempts.map key, pair ∈ (Deliveries.ensureDelivery outboxId destinationId tables).attempts.map key := by
  rw [Deliveries.ensureDelivery]
  split
  next known =>
    obtain ⟨row, member, same⟩ := List.any_eq_true.mp known
    refine ⟨List.mem_map.mpr ⟨row, member, Prod.ext_iff.mpr (of_decide_eq_true same)⟩, fun _ member => member⟩
  next =>
    rw [List.map_append]
    exact ⟨List.mem_append_right _ (List.mem_singleton_self _), fun _ member => List.mem_append_left _ member⟩

theorem Answered.dispatch (answered : Answered room) (budget : Budget policy room) (cycle : Cycle) :
    Answered (OutboxRoom.dispatch parse env policy cycle room) := by
  rw [OutboxRoom.dispatch]
  split
  next phase => exact answered.beside rfl rfl (by rw [phase]; rfl)
  next phase => exact fun pair member => .inr member
  next phase => exact answered.beside rfl rfl (by rw [phase]; rfl)
  next outboxId destinationId rest phase =>
    obtain ⟨own, kept⟩ := ensure_keys outboxId destinationId room.store.tables
    intro pair member
    rcases answered pair member with written | next_
    · exact .inl (kept pair written)
    · rw [phase] at next_
      rcases List.mem_cons.mp next_ with rfl | later
      · exact .inl own
      · exact .inr later
  next phase => exact answered.beside rfl rfl (by rw [phase]; rfl)
  next delivery rest phase =>
    split
    next =>
      intro _ member
      cases member
    next after ran =>
      obtain ⟨member, -⟩ := (budget.waiting _ phase).2 delivery List.mem_cons_self
      obtain ⟨row, became, -⟩ := (attempt_writes ran).replaces budget.books.unique member
      refine answered.beside rfl ?_ (by rw [phase]; rfl)
      dsimp only
      rw [became, replaced_keys]
  next phase => exact answered.beside rfl rfl (by rw [phase]; rfl)
  next phase => exact answered.beside rfl rfl (by rw [phase]; rfl)

theorem Answered.apply (answered : Answered room) (budget : Budget policy room) (step : OutboxStep) :
    Answered (OutboxRoom.apply parse env policy room step) := by
  cases step with
  | queue id payload now =>
    rw [OutboxRoom.apply, Deliveries.insertOutbox]
    cases room.store.tables.submissions.any (·.id = id) with
    | true => exact answered
    | false => exact answered.beside rfl rfl rfl
  | dispatch cycle => exact answered.dispatch budget cycle
  | lose sent =>
    intro _ member
    cases member
  | register id destination =>
    refine answered.beside rfl (congrArg (List.map key) ?_) rfl
    exact upsert_attempts id destination room.store.tables
  | disable code => exact answered.beside rfl rfl rfl
  | retry outboxId destinationId =>
    rw [OutboxRoom.apply, OutboxRoom.retry]
    dsimp only
    split
    next found =>
      obtain ⟨row, -, -, -, became⟩ := retry_replaces budget.books.unique found
      refine answered.beside rfl ?_ rfl
      rw [became, replaced_keys]
    · exact answered
  | requeue index =>
    rw [OutboxRoom.apply]
    split
    · exact answered
    · exact answered.beside rfl rfl rfl
  | abandon index => exact answered.beside rfl rfl rfl

end Answered

instance (room : OutboxRoom) (step : OutboxStep) : Decidable (Whole room step) := by
  unfold Whole
  cases step with
  | retry => cases room.phase <;> infer_instance
  | _ => infer_instance

/-- In every run that cuts no retry and no settle in two: a finished submission has the status
of its deliveries, and when a cycle ends whoever it found to want a submission has a delivery
of it. Where the cycle settled fewer submissions than it may, the status of every submission
that somebody was ever owed is that of its deliveries. -/
theorem summary_is_truthful (parse : String → Option Json) (env : String → Option String) (policy : DispatcherPolicy)
    (destinations : List DestinationRow) (steps : List OutboxStep)
    (whole : Sequence.Meets (OutboxRoom.apply parse env policy) Whole (.opened destinations) steps) :
    let room := Sequence.run (OutboxRoom.apply parse env policy) (.opened destinations) steps
    let rows := rowsOf room.store.tables.attempts
    ∀ settled, room.phase = .idle (some settled) →
      (∀ pair ∈ room.wanted, ∃ row ∈ rows pair.1, row.destinationId = pair.2) ∧
      ∀ submission ∈ room.store.tables.submissions, submission.id ∉ room.requeues →
        (submission.status = .delivered →
          rows submission.id ≠ [] ∧ ∀ row ∈ rows submission.id, row.state = .delivered) ∧
        (submission.status = .deadLetter →
          (∃ row ∈ rows submission.id, row.state = .deadLetter) ∧ ∀ row ∈ rows submission.id, row.state ≠ .pending) ∧
        (settled < policy.batchSize → rows submission.id ≠ [] →
          (submission.status = .pending ↔ ∃ row ∈ rows submission.id, row.state = .pending) ∧
          (submission.status = .delivered ↔ ∀ row ∈ rows submission.id, row.state = .delivered) ∧
          (submission.status = .deadLetter ↔
            (∃ row ∈ rows submission.id, row.state = .deadLetter) ∧
              ∀ row ∈ rows submission.id, row.state ≠ .pending)) := by
  intro room rows settled phase
  have kept : ∀ room step, (Summary policy room ∧ Answered room) → Whole room step →
      Summary policy (OutboxRoom.apply parse env policy room step) ∧ Answered (OutboxRoom.apply parse env policy room step) :=
    fun _ step both whole => ⟨both.1.apply whole, both.2.apply both.1.budget step⟩
  have start : Summary policy (.opened destinations) ∧ Answered (.opened destinations) :=
    ⟨opened_summary destinations, fun _ member => nomatch member⟩
  obtain ⟨summary, answered⟩ : Summary policy room ∧ Answered room := Sequence.keeps kept start whole
  refine ⟨fun pair member => ?_, fun submission member unexempt => ?_⟩
  · have written := (answered pair member).resolve_right (by rw [phase]; exact List.not_mem_nil)
    obtain ⟨row, there, rfl⟩ := List.mem_map.mp written
    exact ⟨row, List.mem_filter.mpr ⟨there, decide_eq_true rfl⟩, rfl⟩
  · have consistent := summary.consistent submission member unexempt
    refine ⟨consistent.delivered, consistent.dead, fun fewer owed => ?_⟩
    have knows := summary.knows
    rw [phase] at knows
    exact consistent.statuses (knows fewer submission member) owed

/-- A destination that nothing can be sent to. -/
def silent : DestinationRow := ⟨1, "erp", "webhook", none, true, .null⟩

def reached : DestinationRow := ⟨1, "erp", "webhook", some "https://erp.example", true, .null⟩

def accepting : Cycle := ⟨0, fun _ => 0, fun _ => .answered ⟨200, "OK"⟩ "" none⟩

def steward (destinations : List DestinationRow) (steps : List OutboxStep) : OutboxRoom :=
  Sequence.run (OutboxRoom.apply (fun _ => some .null) (fun _ => none) ⟨10, 1, 5⟩) (.opened destinations) steps

/-- A retry between two cycles, the second of which gives up again. -/
def askedAgain : List OutboxStep :=
  .queue 7 "sale" 0 :: List.replicate 8 (.dispatch quietly) ++ [.retry 7 1, .requeue 0] ++
    List.replicate 8 (.dispatch quietly)

theorem asked_again_gives_up :
    (steward [silent] askedAgain).phase = .idle (some 1) ∧
      ∀ submission ∈ (steward [silent] askedAgain).store.tables.submissions, submission.id ∉ (steward [silent] askedAgain).requeues →
        submission.status = .deadLetter →
          ∃ row ∈ rowsOf (steward [silent] askedAgain).store.tables.attempts submission.id, row.state = .deadLetter := by
  have phase : (steward [silent] askedAgain).phase = .idle (some 1) := by rfl
  have whole : Sequence.Meets (OutboxRoom.apply (fun _ => some .null) (fun _ => none) ⟨10, 1, 5⟩) Whole (.opened [silent])
      askedAgain := by decide +kernel
  refine ⟨phase, fun submission member unexempt dead => ?_⟩
  have truthful := summary_is_truthful (fun _ => some .null) (fun _ => none) ⟨10, 1, 5⟩ [silent] askedAgain whole 1 phase
  exact ((truthful.2 submission member unexempt).2.1 dead).1

/-- A submission that nobody wants stays pending; a destination that comes late is not owed
what was settled before; and a submission that is queued again while it is settled is given up
for good with its delivery pending. -/
theorem summary_fails :
    (let room := steward [] (.queue 7 "sale" 0 :: List.replicate 5 (.dispatch accepting))
     room.phase = .idle (some 0) ∧ room.store.tables.submissions.map OutboxSubmission.status = [.pending] ∧
       room.store.tables.destinations.length = 0 ∧ room.store.tables.attempts = []) ∧
    (let room := steward [reached]
       (.queue 7 "sale" 0 :: List.replicate 8 (.dispatch accepting) ++
         [.register 2 ⟨"tax", "webhook", some "https://tax.example", .null⟩] ++ List.replicate 5 (.dispatch accepting))
     room.phase = .idle (some 0) ∧ room.store.tables.submissions.map OutboxSubmission.status = [.delivered] ∧
       room.store.tables.destinations.map (fun row => (row.id, row.enabled, wants row "unknown")) =
         [(1, true, true), (2, true, true)] ∧
       room.store.tables.attempts.map (fun row => (key row, row.state)) = [((7, 1), .delivered)]) ∧
    (let room := steward [silent]
       (.queue 7 "sale" 0 :: List.replicate 6 (.dispatch accepting) ++ [.retry 7 1, .requeue 0] ++
         List.replicate 2 (.dispatch accepting))
     room.phase = .idle (some 1) ∧ room.store.tables.submissions.map OutboxSubmission.status = [.deadLetter] ∧
       room.store.tables.attempts.map (fun row => (key row, row.state)) = [((7, 1), .pending)]) := by
  refine ⟨⟨rfl, ?_, rfl, rfl⟩, ⟨rfl, ?_, ?_, ?_⟩, ⟨rfl, ?_, ?_⟩⟩ <;> decide +kernel

end ApexEdge.Proofs.SummaryStatus
