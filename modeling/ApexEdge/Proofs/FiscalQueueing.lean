import ApexEdge.Proofs.FiscalConduct
import ApexEdge.Proofs.OneOrder

/-! The queue of what is to be signed later, against the orders and returns that it is
about: a subject is to be marked pending exactly as long as it has an unsigned entry, and to
bear the receipt that its entry was signed for. -/

namespace ApexEdge.Proofs.FiscalQueueing
open Library Payment Domain Storage Contracts Fiscal Hub
open FiscalQueue Deferred FiscalConduct

/-- The order or the return is in the store, with these fiscal columns. -/
def Bears (tables : FiscalTables) (subject : FiscalSubject) (fiscal : FiscalPersistFields) : Prop :=
  match subject.kind with
  | .order => ∃ order ∈ tables.orders, order.orderId = subject.id ∧ order.fiscal = fiscal
  | .returned => ∃ row ∈ tables.returns, row.row.id = subject.id ∧ row.fiscal = fiscal

/-- Orders and returns are pending exactly when they have an unsigned entry, bear the receipt
that their entry was signed for, and are there when they have an entry. -/
structure Consistent (world : FiscalWorld) : Prop where
  pending_iff : ∀ subject fiscal, Bears world.tables subject fiscal →
    (fiscal.pending = true ↔ ∃ row ∈ world.tables.queue, row.subject = subject ∧ row.status ≠ .signed)
  signed_stored : ∀ row ∈ world.tables.queue, row.status = .signed →
    (∃ receipt ∈ world.receipts, receipt.1 = row.id) ∧
      ∀ receipt ∈ world.receipts, receipt.1 = row.id → Bears world.tables row.subject receipt.2.fields
  durable : ∀ row ∈ world.tables.queue, ∃ fiscal, Bears world.tables row.subject fiscal

section Invariant

/-- The store as a ledger of work that was put off. -/
def ledgerOf (world : FiscalWorld) : Ledger Uuid FiscalSubject FiscalPersistFields :=
  { mark := fiscalOf world.tables, jobs := world.tables.queue.map jobOf
    results := world.receipts.map fun receipt => (receipt.1, receipt.2.fields) }

def AgreesBut (world : FiscalWorld) (excused : Job Uuid FiscalSubject → Prop) : Prop :=
  Agrees FiscalPersistFields.pending (ledgerOf world) excused

structure Keyed (tables : FiscalTables) : Prop where
  orders : (tables.orders.map NewOrderLedgerEntry.orderId).Nodup
  returns : (tables.returns.map (·.row.id)).Nodup

/-- A sweep knows the entries that it works on. -/
def Known (tables : FiscalTables) (row : FiscalQueueRow) : Prop :=
  ∃ entry ∈ tables.queue, entry.id = row.id ∧ entry.subject = row.subject

/-- A return that is finalized is there, and so is the entry that was queued. -/
def Found (tables : FiscalTables) (frame : FiscalFrame) (subject : FiscalSubject) : Prop :=
  (subject.kind = .returned → (fiscalOf tables subject).isSome = true) ∧
    (frame.queued = true → ∃ entry ∈ tables.queue, entry.subject = subject)

/-- What a request relies on that others must not undo. -/
def Standing (tables : FiscalTables) (request : FiscalRequest) : Prop :=
  match request with
  | .command frame call => Fits frame call ∧ ∀ subject, frame.subject = some subject → Found tables frame subject
  | .fetchDueFiscalSignings _ => True
  | .sweep row rest call =>
    (∀ known ∈ row :: rest, Known tables known) ∧
      match call with
      | .applyFiscalReceipt update => update.pending = false
      | .markFiscalSigned update => update.pending = false ∧ fiscalOf tables row.subject = some update.fields
      | _ => True

/-- Entries and subjects stay. -/
structure Grows (before after : FiscalTables) : Prop where
  entries : ∀ entry ∈ before.queue, ∃ row ∈ after.queue, row.id = entry.id ∧ row.subject = entry.subject
  subjects : ∀ subject, (fiscalOf before subject).isSome = true → (fiscalOf after subject).isSome = true

/-- What a request still has to see to once it has this reply. -/
def owes (request : FiscalRequest) (reply : request.Reply) (job : Job Uuid FiscalSubject) : Prop :=
  match request, reply with
  | .command frame call, reply => (goOn frame call reply).queued = true ∧ (goOn frame call reply).subject = some job.record
  | .sweep row _ (.applyFiscalReceipt _), .ok () => job.id = row.id
  | _, _ => False

/-- What a step makes of the store. -/
structure Advances (world after : FiscalWorld) (others : List FiscalRequest) (owed : Job Uuid FiscalSubject → Prop)
    (excused : Job Uuid FiscalSubject → Prop) : Prop where
  keyed : Keyed after.tables
  agrees : AgreesBut after fun job => owed job ∨ excused job
  grows : Grows world.tables after.tables
  stored : ∀ other ∈ others, ∀ subject, marks other subject = true →
    fiscalOf after.tables subject = fiscalOf world.tables subject

variable {world after : FiscalWorld} {others : List FiscalRequest} {request : FiscalRequest}
  {excused owed : Job Uuid FiscalSubject → Prop}

theorem Grows.refl (tables : FiscalTables) : Grows tables tables :=
  ⟨fun entry member => ⟨entry, member, rfl, rfl⟩, fun _ => id⟩

theorem Known.grow {before after : FiscalTables} (grows : Grows before after) {row : FiscalQueueRow}
    (known : Known before row) : Known after row := by
  obtain ⟨entry, member, id, subject⟩ := known
  obtain ⟨later, present, sameId, sameSubject⟩ := grows.entries entry member
  exact ⟨later, present, sameId.trans id, sameSubject.trans subject⟩

theorem Found.grow {before after : FiscalTables} (grows : Grows before after) {frame : FiscalFrame}
    {subject : FiscalSubject} (found : Found before frame subject) : Found after frame subject := by
  refine ⟨fun returned => grows.subjects subject (found.1 returned), fun queued => ?_⟩
  obtain ⟨entry, member, own⟩ := found.2 queued
  obtain ⟨later, present, _, same⟩ := grows.entries entry member
  exact ⟨later, present, same.trans own⟩

/-- The other requests stand as they did. -/
theorem Advances.standing (advances : Advances world after others owed excused) {other : FiscalRequest}
    (member : other ∈ others) (standing : Standing world.tables other) : Standing after.tables other := by
  cases other with
  | command frame call =>
    exact ⟨standing.1, fun subject own => (standing.2 subject own).grow advances.grows⟩
  | fetchDueFiscalSignings limit => trivial
  | sweep row rest call =>
    refine ⟨fun known inside => (standing.1 known inside).grow advances.grows, ?_⟩
    cases call with
    | markFiscalSigned update =>
      refine ⟨standing.2.1, ?_⟩
      rw [advances.stored _ member row.subject (by simp [marks])]
      exact standing.2.2
    | applyFiscalReceipt update => exact standing.2
    | _ => trivial

theorem Advances.owing {more : Job Uuid FiscalSubject → Prop} (advances : Advances world after others owed excused)
    (implies : ∀ job, owed job → more job) : Advances world after others more excused where
  keyed := advances.keyed
  agrees := advances.agrees.weaken fun job _ _ excuse => .inr (excuse.imp_left (implies job))
  grows := advances.grows
  stored := advances.stored

theorem waits_iff {subject : FiscalSubject} :
    Waits FiscalPersistFields.pending (ledgerOf world) subject ↔ isPending world.tables subject = true := Iff.rfl

theorem mem_jobs {row : FiscalQueueRow} (member : row ∈ world.tables.queue) : jobOf row ∈ (ledgerOf world).jobs :=
  List.mem_map_of_mem member

theorem undone_iff {row : FiscalQueueRow} : (jobOf row).isDone = false ↔ row.status ≠ .signed := by simp [jobOf]

/-- A request that may stop takes nothing with it that was excused. -/
theorem agrees_stopped (stop : MayStop world.tables request)
    (agrees : AgreesBut world fun job => excuses request job = true ∨ excused job) : AgreesBut world excused := by
  refine agrees.weaken fun job member still excuse => ?_
  obtain ⟨row, present, rfl⟩ := List.mem_map.mp member
  exact excuse.imp_left fun own => waits_iff.mpr (stop row present (undone_iff.mp still) own)

/-- A statement that changes nothing. -/
theorem advances_same (keyed : Keyed world.tables) (agrees : AgreesBut world fun job => owed job ∨ excused job) :
    Advances world world others owed excused :=
  ⟨keyed, agrees, .refl _, fun _ _ _ _ => rfl⟩

/-- A statement that gives one subject its columns. -/
theorem advances_marked {tables : FiscalTables} {subject : FiscalSubject} {fiscal : FiscalPersistFields}
    (keyed : Keyed tables) (queue : tables.queue = world.tables.queue)
    (columns : fiscalOf tables = Function.update (fiscalOf world.tables) subject (some fiscal))
    (apart : ∀ other ∈ others, marks other subject = false)
    (agrees : Agrees FiscalPersistFields.pending (marked (ledgerOf world) subject fiscal)
      fun job => owed job ∨ excused job) :
    Advances world { world with tables := tables } others owed excused := by
  refine ⟨keyed, ?_, ⟨?_, ?_⟩, ?_⟩
  · have same : ledgerOf { world with tables := tables } = marked (ledgerOf world) subject fiscal := by
      simp only [ledgerOf, marked, columns, queue]
    rw [AgreesBut, same]
    exact agrees
  · intro entry member
    exact ⟨entry, queue ▸ member, rfl, rfl⟩
  · intro other there
    show (fiscalOf tables other).isSome = true
    rw [columns, Function.update_apply]
    split
    · rfl
    · exact there
  · intro other member marked ownMark
    show fiscalOf tables marked = fiscalOf world.tables marked
    rw [columns, Function.update_of_ne]
    rintro rfl
    rw [apart other member] at ownMark
    cases ownMark

/-- A statement that changes neither the columns nor which entries are signed. -/
theorem advances_kept {tables : FiscalTables} (keyed : Keyed tables)
    (jobs : tables.queue.map jobOf = world.tables.queue.map jobOf) (columns : fiscalOf tables = fiscalOf world.tables)
    (agrees : AgreesBut world fun job => owed job ∨ excused job) :
    Advances world { world with tables := tables } others owed excused := by
  refine ⟨keyed, ?_, ⟨?_, ?_⟩, fun _ _ subject _ => congrFun columns subject⟩
  · have same : ledgerOf { world with tables := tables } = ledgerOf world := by simp only [ledgerOf, columns, jobs]
    rw [AgreesBut, same]
    exact agrees
  · intro entry member
    have there : jobOf entry ∈ tables.queue.map jobOf := jobs ▸ List.mem_map_of_mem member
    obtain ⟨row, present, same⟩ := List.mem_map.mp there
    simp only [jobOf, Job.mk.injEq] at same
    exact ⟨row, present, same.1, same.2.1⟩
  · intro subject there
    show (fiscalOf tables subject).isSome = true
    rw [columns]
    exact there

/-- A statement takes effect or fails; what failed owes nothing any more. -/
theorem advances_write {choice : FiscalChoice} {statement : FiscalTables → Except PoolError FiscalTables}
    (owed : Except PoolError Unit → Job Uuid FiscalSubject → Prop)
    (done : ∀ tables, choice.storageFailure = none → statement world.tables = .ok tables →
      Advances world { world with tables := tables } others (owed (.ok ())) excused)
    (failed : ¬(choice.storageFailure.isNone = true ∧ (statement world.tables).isOk = true) →
      Advances world world others (fun _ => False) excused) :
    Advances world (world.write choice statement).2 others (owed (world.write choice statement).1) excused := by
  unfold FiscalWorld.write
  cases failure : choice.storageFailure with
  | some error => exact (failed (by simp [failure])).owing fun _ => False.elim
  | none =>
    cases stated : statement world.tables with
    | error error => exact (failed (by simp [stated, Except.isOk, Except.toBool])).owing fun _ => False.elim
    | ok tables => exact done tables failure stated

/-- No sweep stands on a subject that cannot bear the receipt of an entry. -/
theorem unmarked (standing : ∀ other ∈ others, Standing world.tables other) {subject : FiscalSubject}
    (bare : ∀ row update, Known world.tables row → row.subject = subject → update.pending = false →
      fiscalOf world.tables subject ≠ some (FiscalReceiptUpdate.fields update)) :
    ∀ other ∈ others, marks other subject = false := by
  intro other member
  cases marked : marks other subject with
  | false => rfl
  | true =>
    have stands := standing other member
    cases other with
    | command frame call => cases marked
    | fetchDueFiscalSignings limit => cases marked
    | sweep row rest call =>
      cases call with
      | markFiscalSigned update =>
        obtain rfl : row.subject = subject := of_decide_eq_true marked
        exact absurd stands.2.2 (bare row update (stands.1 row List.mem_cons_self) rfl stands.2.1)
      | _ => cases marked

/-- A command writes what came of the signing on its subject. -/
theorem agrees_written {frame : FiscalFrame} {call : FiscalCall} {subject : FiscalSubject} {fiscal : FiscalPersistFields}
    (own : frame.subject = some subject) (queued : frame.queued = fiscal.pending)
    (may : MayWrite world.tables others subject fiscal.pending) (standing : ∀ other ∈ others, Standing world.tables other)
    (agrees : AgreesBut world fun job => excuses (.command frame call) job = true ∨ excused job) :
    Agrees FiscalPersistFields.pending (marked (ledgerOf world) subject fiscal) excused ∧
      ∀ other ∈ others, marks other subject = false := by
  unfold MayWrite at may
  cases pending : fiscal.pending with
  | true =>
    rw [if_pos pending] at may
    obtain ⟨⟨row, present, same, unsigned⟩, apart⟩ := may
    refine ⟨?_, apart⟩
    have ours : AgreesBut world fun job => job.record = subject ∨ excused job := by
      refine agrees.weaken fun job _ _ excuse => .inr (excuse.imp_left fun excused => ?_)
      simp only [excuses, own, Bool.decide_and, Bool.and_eq_true, decide_eq_true_eq, Option.some.injEq] at excused
      exact excused.2.symm
    exact ours.wait pending (mem_jobs present) same (undone_iff.mpr unsigned)
  | false =>
    rw [if_neg (by simp [pending])] at may
    refine ⟨?_, unmarked standing ?_⟩
    swap
    · rintro row _ ⟨entry, present, _, same⟩ own _ _
      exact may entry present (same.trans own)
    have absent : ∀ job ∈ (ledgerOf world).jobs, job.record ≠ subject := by
      intro job member
      obtain ⟨row, present, rfl⟩ := List.mem_map.mp member
      exact may row present
    have ours : AgreesBut world excused := by
      refine agrees.weaken fun job member still excuse => .inr (excuse.resolve_left fun excused => ?_)
      simp [excuses, queued, pending] at excused
    refine ours.overwrite pending (fun waiting => ?_) fun job member same => absurd same (absent job member)
    obtain ⟨job, member, same, _⟩ := ours.waiting subject waiting
    exact absent job member same

theorem writable_order_iff {entry : NewOrderLedgerEntry} {tables : FiscalTables} :
    (writeOrder entry tables).isOk = (Orders.write entry tables.orders).isOk := by
  unfold writeOrder
  cases Orders.write entry tables.orders <;> rfl

theorem queue_receipt (subject : FiscalSubject) (update : FiscalReceiptUpdate) {tables : FiscalTables} :
    (applyReceipt subject update tables).queue = tables.queue := by
  obtain ⟨kind, id⟩ := subject
  cases kind <;> rfl

/-- What a request owes before and after a step that tells it nothing new. -/
theorem agrees_passed (agrees : AgreesBut world fun job => excuses request job = true ∨ excused job)
    (passes : ∀ job, excuses request job = true → owed job) : AgreesBut world fun job => owed job ∨ excused job :=
  agrees.weaken fun job _ _ excuse => .inr (excuse.imp_left (passes job))

theorem agrees_further {ledger : Ledger Uuid FiscalSubject FiscalPersistFields}
    (agrees : Agrees FiscalPersistFields.pending ledger excused) :
    Agrees FiscalPersistFields.pending ledger fun job => owed job ∨ excused job :=
  agrees.weaken fun _ _ _ excuse => .inr (.inr excuse)

theorem keyed_orders {entry : NewOrderLedgerEntry} {tables : FiscalTables} (keyed : Keyed world.tables)
    (written : writeOrder entry world.tables = .ok tables) : Keyed tables := by
  unfold writeOrder Orders.write at written
  split at written
  · cases written
  · obtain rfl := Except.ok.inj written
    exact ⟨Table.unique_upsert (fun _ _ => rfl) keyed.orders, keyed.returns⟩

theorem keyed_returns {new : NewReturn} {tables : FiscalTables} (keyed : Keyed world.tables)
    (inserted : insertReturn new world.tables = .ok tables) : Keyed tables := by
  unfold insertReturn at inserted
  split at inserted
  · cases inserted
  · rename_i absent
    obtain rfl := Except.ok.inj inserted
    refine ⟨keyed.orders, Table.unique_append keyed.returns ?_⟩
    simpa [NewReturn.row] using absent

theorem keyed_header (keyed : Keyed world.tables) (id : Uuid) (set : FiscalReturn → FiscalReturn)
    (unset : ∀ row, (set row).row.id = row.row.id) :
    Keyed { world.tables with returns := (Table.Update.mk (·.row.id = id) set).run world.tables.returns } :=
  ⟨keyed.orders, Table.unique_run unset keyed.returns⟩

theorem keyed_receipt (keyed : Keyed world.tables) (subject : FiscalSubject) (update : FiscalReceiptUpdate) :
    Keyed (applyReceipt subject update world.tables) := by
  obtain ⟨kind, id⟩ := subject
  cases kind with
  | order => exact ⟨Table.unique_run (fun _ => rfl) keyed.orders, keyed.returns⟩
  | returned => exact keyed_header keyed id _ fun _ => rfl

/-- An entry for a subject that has none. -/
theorem advances_queued {rowId : Uuid} {now : Timestamp} {entry : NewFiscalQueueEntry} {tables : FiscalTables}
    (keyed : Keyed world.tables) (inserted : FiscalQueue.insert rowId now entry world.tables = .ok tables)
    (agrees : AgreesBut world excused) :
    Advances world { world with tables := tables } others (fun job => job.record = entry.subject) excused := by
  unfold FiscalQueue.insert at inserted
  split at inserted
  · cases inserted
  · split at inserted
    · cases inserted
    · rename_i freshId fresh
      obtain rfl := Except.ok.inj inserted
      refine ⟨⟨keyed.orders, keyed.returns⟩, ?_, ⟨?_, fun _ => id⟩, fun _ _ _ _ => rfl⟩
      · have ids : ∀ job ∈ (ledgerOf world).jobs, job.id ≠ rowId := by
          intro job member
          obtain ⟨row, present, rfl⟩ := List.mem_map.mp member
          exact fun same => freshId (List.any_eq_true.mpr ⟨row, present, decide_eq_true same⟩)
        have records : ∀ job ∈ (ledgerOf world).jobs, job.record ≠ entry.subject := by
          intro job member
          obtain ⟨row, present, rfl⟩ := List.mem_map.mp member
          exact fun same => fresh (List.any_eq_true.mpr ⟨row, present, decide_eq_true same⟩)
        rw [AgreesBut, ledgerOf]
        dsimp only
        rw [List.map_append]
        exact agrees.queue ids records
      · intro row member
        exact ⟨row, List.mem_append_left _ member, rfl, rfl⟩

/-- A command does what it may, and what it is told keeps its hold on what it queued. -/
theorem advances_command (choice : FiscalChoice) {frame : FiscalFrame} {call : FiscalCall} (keyed : Keyed world.tables)
    (agrees : AgreesBut world fun job => excuses (.command frame call) job = true ∨ excused job)
    (stands : Standing world.tables (.command frame call)) (standing : ∀ other ∈ others, Standing world.tables other)
    (meets : MayWriteCommand world.tables others (.command frame call) choice call) :
    Advances world (world.performCommand choice call).2 others
      (owes (.command frame call) (world.performCommand choice call).1) excused := by
  obtain ⟨fits, found⟩ := stands
  -- most commands have queued nothing when they come here
  have idle (nothing : frame.queued = false) : AgreesBut world excused :=
    agrees.weaken fun job _ _ excuse => .inr (excuse.resolve_left (by simp [excuses, nothing]))
  have held (job : Job Uuid FiscalSubject) (excuse : excuses (.command frame call) job = true) :
      frame.queued = true ∧ frame.subject = some job.record := by simpa [excuses] using excuse
  cases call with
  | newId =>
    refine advances_same keyed (agrees_passed agrees fun job excuse => ?_)
    obtain ⟨queued, own⟩ := held job excuse
    have same : goOn frame .newId choice.freshId = frame := if_neg (by simp [own])
    exact ⟨(congrArg FiscalFrame.queued same).trans queued, (congrArg FiscalFrame.subject same).trans own⟩
  | fetchFiscalQueueForSubject subject =>
    show Advances world world others
      (owes (.command frame (.fetchFiscalQueueForSubject subject)) (world.read choice (fetchForSubject subject))) excused
    rw [FiscalWorld.read]
    cases failure : choice.storageFailure with
    | some error =>
      have stop := meets (by rw [failure]; rfl)
      exact advances_same keyed (agrees_further (agrees_stopped stop agrees))
    | none =>
      refine advances_same keyed (agrees_passed agrees fun job excuse => ?_)
      obtain ⟨queued, own⟩ := held job excuse
      obtain rfl : subject = job.record := Option.some.inj (fits.symm.trans own)
      obtain ⟨entry, member, same⟩ := (found _ own).2 queued
      obtain ⟨row, there⟩ := Option.isSome_iff_exists.mp
        (List.find?_isSome (p := fun row : FiscalQueueRow => decide (row.subject = job.record)) |>.mpr
          ⟨entry, member, decide_eq_true same⟩)
      rw [fetchForSubject, there]
      exact ⟨rfl, own⟩
  | insertFiscalSigning entry =>
    refine advances_write (owes (.command frame (.insertFiscalSigning entry))) (fun tables _ inserted => ?_) fun _ => ?_
    · refine (advances_queued keyed inserted (idle fits.2)).owing fun job same => ⟨rfl, ?_⟩
      show frame.subject = some job.record
      rw [same, fits.1]
    · exact advances_same keyed (agrees_further (idle fits.2))
  | insertOrderLedgerEntryWithOutbox entry =>
    refine advances_write (owes (.command frame (.insertOrderLedgerEntryWithOutbox entry)))
      (fun tables failure written => ?_) fun failed => ?_
    · obtain ⟨columns, queue⟩ := fiscalOf_writeOrder written
      rw [MayWriteCommand, if_pos ⟨by rw [failure]; rfl, by rw [← writable_order_iff, written]; rfl⟩] at meets
      obtain ⟨agrees, apart⟩ := agrees_written fits.1 fits.2 meets standing agrees
      exact advances_marked (keyed_orders keyed written) queue columns apart (agrees_further agrees)
    · have fails : ¬(choice.storageFailure.isNone = true ∧ (Orders.write entry world.tables.orders).isOk = true) := by
        rwa [writable_order_iff] at failed
      rw [MayWriteCommand, if_neg fails] at meets
      exact advances_same keyed (agrees_further (agrees_stopped meets agrees))
  | applyFiscalReceipt subject update =>
    obtain ⟨own, returned, queued⟩ := fits
    refine advances_write (owes (.command frame (.applyFiscalReceipt subject update)))
      (fun tables failure written => ?_) fun failed => ?_
    · obtain rfl := Except.ok.inj written
      rw [MayWriteCommand, if_pos (by rw [failure]; rfl)] at meets
      have may : MayWrite world.tables others subject update.fields.pending := meets
      obtain ⟨agrees, apart⟩ := agrees_written own queued may standing agrees
      obtain ⟨fiscal, there⟩ := Option.isSome_iff_exists.mp ((found subject own).1 returned)
      refine advances_marked (keyed_receipt keyed subject update) (queue_receipt subject update) ?_ apart
        (agrees_further agrees)
      rw [fiscalOf_applyReceipt, there, Option.map_some]
    · have fails : ¬choice.storageFailure.isNone = true := fun none => failed ⟨none, rfl⟩
      rw [MayWriteCommand, if_neg fails] at meets
      exact advances_same keyed (agrees_further (agrees_stopped meets agrees))
  | finalizeReturnRowWithOutbox returnId =>
    refine advances_write (owes (.command frame (.finalizeReturnRowWithOutbox returnId)))
      (fun tables _ written => ?_) fun _ => advances_same keyed (agrees_further (idle fits))
    obtain rfl := Except.ok.inj written
    exact advances_kept (keyed_header keyed returnId _ fun _ => rfl) rfl (fiscalOf_finalizeReturnRow returnId)
      (agrees_further (idle fits))
  | updateReturn id state totalCents taxCents refundedCents =>
    refine advances_write (owes (.command frame (.updateReturn id state totalCents taxCents refundedCents)))
      (fun tables _ written => ?_) fun _ => advances_same keyed (agrees_further (idle fits))
    obtain rfl := Except.ok.inj written
    exact advances_kept (keyed_header keyed id _ fun _ => rfl) rfl
      (fiscalOf_updateReturn id state totalCents taxCents refundedCents) (agrees_further (idle fits))
  | insertReturn new =>
    refine advances_write (owes (.command frame (.insertReturn new)))
      (fun tables _ inserted => ?_) fun _ => advances_same keyed (agrees_further (idle fits))
    obtain ⟨columns, absent, queue⟩ := fiscalOf_insertReturn inserted
    have missing : (ledgerOf world).mark ⟨.returned, new.id⟩ = none := absent
    refine advances_marked (keyed_returns keyed inserted) queue columns
      (unmarked standing fun _ _ _ _ _ there => by rw [absent] at there; cases there) (agrees_further ?_)
    refine (idle fits).overwrite rfl (by simp [Waits, missing]) fun job member same => ?_
    cases done : job.isDone with
    | false => rfl
    | true =>
      obtain ⟨fiscal, _, borne⟩ := (idle fits).done_mark member done
      rw [same, missing] at borne
      cases borne
  | _ => exact advances_same keyed (agrees_further (idle fits))

/-- Entries that are put off stay as unsigned as they were. -/
theorem jobs_putOff {id : Uuid} {set : FiscalQueueRow → FiscalQueueRow} (unsigned : ∀ row, (set row).status ≠ .signed)
    (kept : ∀ row, (set row).id = row.id ∧ (set row).subject = row.subject)
    (open_ : ∀ entry ∈ world.tables.queue, entry.id = id → entry.status ≠ .signed) :
    (updateEntry id set world.tables).queue.map jobOf = world.tables.queue.map jobOf := by
  rw [updateEntry]
  dsimp only
  rw [Table.Update.run, List.map_map]
  refine List.map_congr_left fun row member => ?_
  show jobOf (Table.Update.row _ row) = jobOf row
  rcases Table.Update.row_cases (Table.Update.mk (·.id = id) set) row with ⟨selected, same⟩ | ⟨_, same⟩
  · have own := open_ row member (of_decide_eq_true selected)
    rw [same]
    simp [jobOf, kept row, unsigned row, own]
  · rw [same]

/-- Marking an entry closes its job. -/
theorem jobs_marked (id : Uuid) (tables : FiscalTables) :
    (markSigned id tables).queue.map jobOf = (Deferred.close id).run (tables.queue.map jobOf) := by
  rw [markSigned, updateEntry, Table.Update.run, Table.Update.run, List.map_map, List.map_map]
  refine List.map_congr_left fun row _ => ?_
  show jobOf (Table.Update.row _ row) = (Deferred.close id).row (jobOf row)
  by_cases own : row.id = id
  · rw [Table.Update.row_selected (decide_eq_true own), Table.Update.row_selected (decide_eq_true own)]
    rfl
  · rw [Table.Update.row_kept (decide_eq_false own), Table.Update.row_kept (decide_eq_false own)]

/-- A sweep stores a receipt on what waits for it, and marks the entry that it is for. -/
theorem advances_sweep (choice : FiscalChoice) {row : FiscalQueueRow} {rest : List FiscalQueueRow} {call : SweepCall}
    (keyed : Keyed world.tables)
    (agrees : AgreesBut world fun job => excuses (.sweep row rest call) job = true ∨ excused job)
    (stands : Standing world.tables (.sweep row rest call)) (standing : ∀ other ∈ others, Standing world.tables other)
    (meets : MaySweep world.tables (.sweep row rest call) choice row call) :
    Advances world (world.performSweep choice row call).2 others
      (owes (.sweep row rest call) (world.performSweep choice row call).1) excused := by
  obtain ⟨known, stands⟩ := stands
  obtain ⟨entry, member, sameId, sameSubject⟩ := known row List.mem_cons_self
  have nothing (free : ∀ job, excuses (.sweep row rest call) job = false) : AgreesBut world excused :=
    agrees.weaken fun job _ _ excuse => .inr (excuse.resolve_left (by simp [free job]))
  cases call with
  | sign transaction =>
    exact advances_same keyed (agrees_passed agrees fun job excuse => by cases excuse)
  | applyFiscalReceipt update =>
    have plain := nothing fun job => rfl
    refine advances_write (owes (.sweep row rest (.applyFiscalReceipt update)))
      (fun tables failure written => ?_) fun _ => advances_same keyed (agrees_further plain)
    obtain rfl := Except.ok.inj written
    have waiting := meets (by rw [failure]; rfl)
    obtain ⟨fiscal, there⟩ : ∃ fiscal, fiscalOf world.tables row.subject = some fiscal := by
      cases there : fiscalOf world.tables row.subject with
      | none => simp [isPending, there] at waiting
      | some fiscal => exact ⟨fiscal, rfl⟩
    have pending : fiscal.pending = true := by simpa [isPending, there] using waiting
    refine advances_marked (keyed_receipt keyed row.subject update) (queue_receipt row.subject update)
      (by rw [fiscalOf_applyReceipt, there, Option.map_some]) ?_ ?_
    · refine unmarked standing fun _ other _ _ final same => ?_
      obtain rfl := Option.some.inj (there.symm.trans same)
      exact absurd pending (by simpa [FiscalReceiptUpdate.fields] using final)
    · have brought : Agrees FiscalPersistFields.pending (marked (ledgerOf world) row.subject update.fields)
          fun job => job.id = entry.id ∨ excused job := plain.bring stands waiting (mem_jobs member) sameSubject
      refine brought.weaken fun job _ _ excuse => .inr (excuse.imp_left fun same => ?_)
      exact same.trans sameId
  | markFiscalSigned update =>
    obtain ⟨final, borne⟩ := stands
    show Advances world (world.mark choice row.id update).2 others
      (owes (.sweep row rest (.markFiscalSigned update)) (world.mark choice row.id update).1) excused
    unfold FiscalWorld.mark
    cases failure : choice.storageFailure with
    | some error =>
      have stop := meets (by rw [failure]; rfl)
      exact advances_same keyed (agrees_further (agrees_stopped stop agrees))
    | none =>
      have ours : AgreesBut world fun job => job.id = (jobOf entry).id ∨ excused job :=
        agrees.weaken fun job _ _ excuse => .inr (excuse.imp_left fun own => (of_decide_eq_true own).trans sameId.symm)
      have closed := ours.close final (mem_jobs member) ((congrArg (fiscalOf world.tables) sameSubject).trans borne)
      have ledger : ledgerOf ⟨markSigned row.id world.tables, world.receipts ++ [(row.id, update)]⟩ =
          { ledgerOf world with
            jobs := (Deferred.close row.id).run (ledgerOf world).jobs
            results := (ledgerOf world).results ++ [(row.id, update.fields)] } := by
        simp only [ledgerOf, jobs_marked, List.map_append, List.map_cons, List.map_nil]
        rfl
      refine ⟨⟨keyed.orders, keyed.returns⟩, agrees_further ?_, ⟨?_, fun _ => id⟩, fun _ _ _ _ => rfl⟩
      · rw [ledger, ← sameId]
        exact closed
      · intro old present
        refine ⟨_, List.mem_map_of_mem present, ?_, ?_⟩
        · exact Table.Update.row_column _ FiscalQueueRow.id (fun _ => rfl) old
        · exact Table.Update.row_column _ FiscalQueueRow.subject (fun _ => rfl) old
  | scheduleFiscalRetry delaySeconds lastError =>
    have plain := nothing fun job => rfl
    refine advances_write (owes (.sweep row rest (.scheduleFiscalRetry delaySeconds lastError)))
      (fun tables failure written => ?_) fun _ => advances_same keyed (agrees_further plain)
    obtain rfl := Except.ok.inj written
    refine advances_kept ⟨keyed.orders, keyed.returns⟩
      (jobs_putOff (fun _ => by simp) (fun _ => ⟨rfl, rfl⟩) (meets (by rw [failure]; rfl))) rfl (agrees_further plain)
  | markFiscalDeadLetter lastError =>
    have plain := nothing fun job => rfl
    refine advances_write (owes (.sweep row rest (.markFiscalDeadLetter lastError)))
      (fun tables failure written => ?_) fun _ => advances_same keyed (agrees_further plain)
    obtain rfl := Except.ok.inj written
    refine advances_kept ⟨keyed.orders, keyed.returns⟩
      (jobs_putOff (fun _ => by simp) (fun _ => ⟨rfl, rfl⟩) (meets (by rw [failure]; rfl))) rfl (agrees_further plain)

/-- What is owed is what the next request is excused for. -/
theorem owes_next {reply : request.Reply} {next : FiscalRequest} {job : Job Uuid FiscalSubject}
    (goes : follows request reply next) (owed : owes request reply job) : excuses next job = true := by
  cases request with
  | command frame call =>
    obtain ⟨later, rfl, _⟩ := goes
    obtain ⟨queued, own⟩ := owed
    simp [excuses, queued, own]
  | fetchDueFiscalSignings limit => cases reply <;> exact owed.elim
  | sweep row rest call =>
    cases call with
    | applyFiscalReceipt update =>
      rcases reply with error | _
      · exact owed.elim
      · obtain rfl : next = .sweep row rest (.markFiscalSigned update) := goes
        exact decide_eq_true owed
    | _ => exact owed.elim

theorem not_owes_of_rests {reply : request.Reply} {job : Job Uuid FiscalSubject}
    (rests : conduct.rests (follows request reply)) : ¬owes request reply job := by
  intro owed
  cases request with
  | command frame call =>
    have goes : follows (.command frame call) reply (.command (goOn frame call reply) .newId) := ⟨.newId, rfl, trivial⟩
    have last := rests _ goes job
    rw [owes_next goes owed] at last
    cases last
  | fetchDueFiscalSignings limit => cases reply <;> exact owed.elim
  | sweep row rest call =>
    cases call with
    | applyFiscalReceipt update =>
      rcases reply with error | _
      · exact owed.elim
      · have last := rests (.sweep row rest (.markFiscalSigned update)) rfl job
        have same : job.id = row.id := owed
        simp [excuses, same] at last
    | _ => exact owed.elim

theorem fetchDue_known {limit : Nat} {now : Timestamp} {tables : FiscalTables} {row : FiscalQueueRow}
    (due : row ∈ fetchDue limit now tables) : Known tables row := by
  have listed := Table.mem_orderedBy.mp (List.mem_of_mem_take due)
  exact ⟨row, (List.mem_filter.mp listed).1, rfl, rfl⟩

theorem Found.released {before after : FiscalTables} (grows : Grows before after) {frame : FiscalFrame}
    {subject : FiscalSubject} (found : Found before frame subject) :
    Found after { frame with queued := false } subject :=
  ⟨fun returned => grows.subjects subject (found.1 returned), fun impossible => by cases impossible⟩

/-- A return that was loaded is there. -/
theorem snapshot_found {choice : FiscalChoice} {returnId : Uuid} {snapshot : ReturnSnapshot}
    (loaded : world.snapshot choice returnId = .ok snapshot) :
    (fiscalOf world.tables ⟨.returned, snapshot.row.id⟩).isSome = true := by
  unfold FiscalWorld.snapshot FiscalWorld.read at loaded
  cases failure : choice.storageFailure with
  | some error => simp [failure] at loaded
  | none =>
    cases there : world.tables.returns.find? (·.row.id = returnId) with
    | none => simp [failure, there] at loaded
    | some row =>
      simp only [failure, there, Except.ok.injEq] at loaded
      subst loaded
      have own := Table.key_of_found (fun row : FiscalReturn => row.row.id) there
      rw [fiscalOf_returned]
      dsimp only
      rw [own, there]
      rfl

theorem goOn_insert (frame : FiscalFrame) (entry : NewFiscalQueueEntry) (reply : Except PoolError Unit) :
    (goOn frame (.insertFiscalSigning entry) reply).subject = frame.subject := by
  rcases reply with error | _ <;> rfl

theorem insert_found {rowId : Uuid} {now : Timestamp} {entry : NewFiscalQueueEntry} {tables after : FiscalTables}
    (inserted : FiscalQueue.insert rowId now entry tables = .ok after) :
    ∃ row ∈ after.queue, row.subject = entry.subject := by
  unfold FiscalQueue.insert at inserted
  split at inserted
  · cases inserted
  · split at inserted
    · cases inserted
    · obtain rfl := Except.ok.inj inserted
      exact ⟨_, List.mem_append_right _ (List.mem_singleton_self _), rfl⟩

/-- What the reply adds to what a command relies on is there. -/
theorem found_next (choice : FiscalChoice) {frame : FiscalFrame} {call : FiscalCall} {subject : FiscalSubject}
    (stands : Standing world.tables (.command frame call))
    (grows : Grows world.tables (world.performCommand choice call).2.tables)
    (own : (goOn frame call (world.performCommand choice call).1).subject = some subject) :
    Found (world.performCommand choice call).2.tables (goOn frame call (world.performCommand choice call).1) subject := by
  obtain ⟨fits, found⟩ := stands
  cases call with
  | newId =>
    change (if frame.subject = none then FiscalFrame.finalizing ⟨.order, choice.freshId⟩ else frame).subject = _ at own
    show Found world.tables (if frame.subject = none then .finalizing ⟨.order, choice.freshId⟩ else frame) subject
    split
    · rename_i fresh
      rw [if_pos fresh] at own
      obtain rfl := Option.some.inj own
      exact ⟨fun impossible => (by cases impossible), fun impossible => (by cases impossible)⟩
    · rename_i busy
      rw [if_neg busy] at own
      exact found subject own
  | loadSnapshot returnId =>
    change (goOn frame (.loadSnapshot returnId) (world.snapshot choice returnId)).subject = _ at own
    show Found world.tables (goOn frame (.loadSnapshot returnId) (world.snapshot choice returnId)) subject
    cases loaded : world.snapshot choice returnId with
    | error errors =>
      rw [loaded] at own
      exact (found subject own).released (.refl _)
    | ok snapshot =>
      rw [loaded] at own
      obtain rfl := Option.some.inj own
      exact ⟨fun _ => snapshot_found loaded, fun impossible => by cases impossible⟩
  | fetchFiscalQueueForSubject wanted =>
    change (goOn frame (.fetchFiscalQueueForSubject wanted) (world.read choice (fetchForSubject wanted))).subject = _ at own
    show Found world.tables (goOn frame (.fetchFiscalQueueForSubject wanted) (world.read choice (fetchForSubject wanted)))
      subject
    rcases fetched : world.read choice (fetchForSubject wanted) with error | _ | row
    · rw [fetched] at own
      exact (found subject own).released (.refl _)
    · rw [fetched] at own
      exact (found subject own).released (.refl _)
    · rw [fetched] at own
      refine ⟨(found subject own).1, fun _ => ?_⟩
      obtain rfl : wanted = subject := Option.some.inj (fits.symm.trans own)
      unfold FiscalWorld.read at fetched
      split at fetched
      · cases fetched
      · have there := Except.ok.inj fetched
        exact ⟨row, List.mem_of_find?_eq_some there, Table.key_of_found FiscalQueueRow.subject there⟩
  | insertFiscalSigning entry =>
    obtain rfl : entry.subject = subject := by
      rw [goOn_insert] at own
      exact Option.some.inj (fits.1.symm.trans own)
    have there := found _ fits.1
    revert grows
    show Grows world.tables (world.write choice (FiscalQueue.insert choice.freshId choice.now entry)).2.tables →
      Found (world.write choice (FiscalQueue.insert choice.freshId choice.now entry)).2.tables
        (goOn frame (.insertFiscalSigning entry)
          (world.write choice (FiscalQueue.insert choice.freshId choice.now entry)).1) entry.subject
    unfold FiscalWorld.write
    cases choice.storageFailure with
    | some error => exact fun _ => there.released (.refl _)
    | none =>
      cases inserted : FiscalQueue.insert choice.freshId choice.now entry world.tables with
      | error error => exact fun _ => there.released (.refl _)
      | ok tables => exact fun grows => ⟨(there.grow grows).1, fun _ => insert_found inserted⟩
  | _ =>
    refine Found.released grows (found subject ?_)
    exact own

/-- A sweep that has stored a receipt has to mark its entry. -/
theorem standing_stored (choice : FiscalChoice) {row : FiscalQueueRow} {rest : List FiscalQueueRow}
    {update : FiscalReceiptUpdate} {next : FiscalRequest}
    (stands : Standing world.tables (.sweep row rest (.applyFiscalReceipt update)))
    (meets : choice.storageFailure.isNone → isPending world.tables row.subject = true)
    (goes : follows (.sweep row rest (.applyFiscalReceipt update))
      (world.performSweep choice row (.applyFiscalReceipt update)).1 next) :
    Standing (world.performSweep choice row (.applyFiscalReceipt update)).2.tables next := by
  obtain ⟨known, final⟩ := stands
  simp only [FiscalWorld.performSweep, FiscalWorld.write] at goes ⊢
  cases failure : choice.storageFailure with
  | some error =>
    rw [failure] at goes
    exact goes.elim
  | none =>
    rw [failure] at goes
    obtain rfl : next = .sweep row rest (.markFiscalSigned update) := goes
    have waiting := meets (by rw [failure]; rfl)
    have columns : fiscalOf (applyReceipt row.subject update world.tables) row.subject = some update.fields := by
      rw [fiscalOf_applyReceipt, Function.update_self]
      cases there : fiscalOf world.tables row.subject with
      | none => simp [isPending, there] at waiting
      | some fiscal => rfl
    refine ⟨fun entry member => ?_, final, columns⟩
    obtain ⟨old, present, same⟩ := known entry member
    refine ⟨old, ?_, same⟩
    show old ∈ (applyReceipt row.subject update world.tables).queue
    rw [queue_receipt]
    exact present

/-- The next request stands as well. -/
theorem standing_next (choice : FiscalChoice) {next : FiscalRequest} (stands : Standing world.tables request)
    (meets : fiscalStep world others request choice)
    (grows : Grows world.tables (world.perform choice request).2.tables)
    (goes : follows request (world.perform choice request).1 next) :
    Standing (world.perform choice request).2.tables next := by
  cases request with
  | command frame call =>
    obtain ⟨later, rfl, fits⟩ := goes
    exact ⟨fits, fun subject own => found_next choice stands grows own⟩
  | fetchDueFiscalSignings limit =>
    change follows (.fetchDueFiscalSignings limit) (world.read choice (fetchDue limit choice.now)) next at goes
    show Standing world.tables next
    unfold FiscalWorld.read at goes
    cases failure : choice.storageFailure with
    | some error =>
      rw [failure] at goes
      exact goes.elim
    | none =>
      rw [failure] at goes
      obtain ⟨row, rest, call, rfl, inside, begins⟩ := goes
      refine ⟨fun known member => fetchDue_known (inside member), ?_⟩
      cases call <;> first | exact trivial | exact begins | exact begins.elim
  | sweep row rest call =>
    have later {row' : FiscalQueueRow} {rest' : List FiscalQueueRow} {call' : SweepCall}
        (inside : row' :: rest' ⊆ row :: rest) (begins : Begins call') :
        Standing (world.performSweep choice row call).2.tables (.sweep row' rest' call') := by
      refine ⟨fun known member => (stands.1 known (inside member)).grow grows, ?_⟩
      cases call' <;> first | exact trivial | exact begins | exact begins.elim
    cases call with
    | applyFiscalReceipt update =>
      exact standing_stored choice stands meets goes
    | _ =>
      obtain ⟨row', rest', call', rfl, inside, begins⟩ := goes
      exact later inside begins

/-- The store agrees but for what pending requests are about to see to. -/
structure Sound (world : FiscalWorld) (pending : Multiset FiscalRequest) : Prop where
  keyed : Keyed world.tables
  agrees : AgreesBut world fun job => ∃ other ∈ pending, excuses other job = true
  standing : ∀ other ∈ pending, Standing world.tables other

theorem excused_cons {pending : Multiset FiscalRequest} {job : Job Uuid FiscalSubject}
    (excuse : ∃ other ∈ request ::ₘ pending, excuses other job = true) :
    excuses request job = true ∨ ∃ other ∈ pending, excuses other job = true := by
  obtain ⟨other, member, excuses⟩ := excuse
  rcases Multiset.mem_cons.mp member with rfl | rest
  · exact .inl excuses
  · exact .inr ⟨other, rest, excuses⟩

theorem sound_step (choice : FiscalChoice) (sound : Sound world (request ::ₘ (others : Multiset FiscalRequest)))
    (meets : fiscalStep world others request choice) :
    Advances world (world.perform choice request).2 others (owes request (world.perform choice request).1)
      fun job => ∃ other ∈ (others : Multiset FiscalRequest), excuses other job = true := by
  obtain ⟨keyed, agrees, standing⟩ := sound
  have ours := agrees.weaken fun job _ _ excuse => .inr (excused_cons excuse)
  have stands := standing request (Multiset.mem_cons_self ..)
  have rest : ∀ other ∈ others, Standing world.tables other :=
    fun other member => standing other (Multiset.mem_cons_of_mem (Multiset.mem_coe.mpr member))
  cases request with
  | command frame call => exact advances_command choice keyed ours stands rest meets
  | fetchDueFiscalSignings limit =>
    refine advances_same keyed (agrees_further (ours.weaken fun job _ _ excuse => .inr (excuse.resolve_left ?_)))
    simp [excuses]
  | sweep row rest' call => exact advances_sweep choice keyed ours stands rest meets

theorem sound_invariant (settings : FiscalSettings) (codec : FiscalCodec) :
    Invariant (fiscalRoom settings codec) conduct inStep Opens Sound where
  keeps := keeps_program settings codec
  started world others task op _ opens sound := by
    refine ⟨sound.keyed, sound.agrees.weaken fun job _ _ ⟨other, member, excuse⟩ =>
      .inr ⟨other, Multiset.mem_cons_of_mem member, excuse⟩, fun other member => ?_⟩
    rcases Multiset.mem_cons.mp member with rfl | old
    · cases other with
      | command frame call =>
        obtain ⟨rfl, fits⟩ := opens
        exact ⟨fits, fun subject impossible => by cases impossible⟩
      | fetchDueFiscalSignings limit => trivial
      | sweep row rest call => exact opens.elim
    · exact sound.standing other old
  continued choice world others op op' meets sound goes := by
    have advances := sound_step choice sound meets
    refine ⟨advances.keyed, advances.agrees.weaken fun job _ _ excuse => .inr ?_, fun other member => ?_⟩
    · rcases excuse with owed | ⟨other, member, excuse⟩
      · exact ⟨op', Multiset.mem_cons_self .., owes_next goes owed⟩
      · exact ⟨other, Multiset.mem_cons_of_mem member, excuse⟩
    · rcases Multiset.mem_cons.mp member with rfl | old
      · exact standing_next choice (sound.standing op (Multiset.mem_cons_self ..)) meets advances.grows goes
      · exact advances.standing (Multiset.mem_coe.mp old) (sound.standing other (Multiset.mem_cons_of_mem old))
  finished choice world others op meets sound rests := by
    have advances := sound_step choice sound meets
    refine ⟨advances.keyed, advances.agrees.weaken fun job _ _ excuse =>
      .inr (excuse.resolve_left (not_owes_of_rests rests)), fun other old => ?_⟩
    exact advances.standing (Multiset.mem_coe.mp old) (sound.standing other (Multiset.mem_cons_of_mem old))
  dropped world others op meets sound :=
    { keyed := sound.keyed
      agrees := agrees_stopped meets (sound.agrees.weaken fun job _ _ excuse => .inr (excused_cons excuse))
      standing := fun other old => sound.standing other (Multiset.mem_cons_of_mem old) }

theorem sound_opened : Sound .opened 0 :=
  ⟨⟨List.nodup_nil, List.nodup_nil⟩, .empty fun ⟨kind, _⟩ => by cases kind <;> rfl,
    fun _ impossible => absurd impossible (Multiset.notMem_zero _)⟩

end Invariant

section Quiescent
variable {world : FiscalWorld} {subject : FiscalSubject} {fiscal : FiscalPersistFields}

/-- Ids are primary keys. -/
theorem bears_iff (keyed : Keyed world.tables) :
    Bears world.tables subject fiscal ↔ fiscalOf world.tables subject = some fiscal := by
  obtain ⟨kind, id⟩ := subject
  cases kind with
  | order =>
    rw [fiscalOf_order]
    constructor
    · rintro ⟨order, member, rfl, rfl⟩
      rw [Table.find?_of_unique keyed.orders member]
      rfl
    · intro there
      obtain ⟨order, found, rfl⟩ := Option.map_eq_some_iff.mp there
      exact ⟨order, List.mem_of_find?_eq_some found, Table.key_of_found NewOrderLedgerEntry.orderId found, rfl⟩
  | returned =>
    rw [fiscalOf_returned]
    constructor
    · rintro ⟨row, member, rfl, rfl⟩
      have found : world.tables.returns.find? (·.row.id = row.row.id) = some row :=
        Table.find?_of_unique keyed.returns member
      rw [found]
      rfl
    · intro there
      obtain ⟨row, found, rfl⟩ := Option.map_eq_some_iff.mp there
      exact ⟨row, List.mem_of_find?_eq_some found,
        Table.key_of_found (fun row : FiscalReturn => row.row.id) found, rfl⟩

/-- With nothing pending, the queue agrees with the orders and returns. -/
theorem consistent_of_sound (sound : Sound world 0) : Consistent world := by
  have agrees : AgreesBut world fun _ => False :=
    sound.agrees.weaken fun job _ _ ⟨_, impossible, _⟩ => absurd impossible (Multiset.notMem_zero _)
  have bears {subject : FiscalSubject} {fiscal : FiscalPersistFields} :
      Bears world.tables subject fiscal ↔ fiscalOf world.tables subject = some fiscal := bears_iff sound.keyed
  constructor
  · intro subject fiscal there
    rw [bears] at there
    constructor
    · intro pending
      have waiting : Waits FiscalPersistFields.pending (ledgerOf world) subject := by
        rw [waits_iff, isPending, there]
        exact pending
      obtain ⟨job, member, own, still⟩ := agrees.waiting subject waiting
      obtain ⟨row, present, rfl⟩ := List.mem_map.mp member
      exact ⟨row, present, own, undone_iff.mp still⟩
    · rintro ⟨row, present, rfl, unsigned⟩
      have waiting := (agrees.opened _ (mem_jobs present) (undone_iff.mpr unsigned)).resolve_right id
      change isPending world.tables row.subject = true at waiting
      rw [isPending, there] at waiting
      exact waiting
  · intro row present signed
    have done : (jobOf row).isDone = true := decide_eq_true signed
    constructor
    · obtain ⟨mark, known⟩ := agrees.closed _ (mem_jobs present) done
      obtain ⟨receipt, member, same⟩ := List.mem_map.mp known
      exact ⟨receipt, member, congrArg Prod.fst same⟩
    · intro receipt member same
      have known : (receipt.1, receipt.2.fields) ∈ (ledgerOf world).results := List.mem_map_of_mem member
      exact bears.mpr (agrees.done_of_result known (mem_jobs present) same.symm).2
  · intro row present
    by_cases signed : row.status = .signed
    · obtain ⟨fiscal, _, borne⟩ := agrees.done_mark (mem_jobs present) (decide_eq_true signed)
      exact ⟨fiscal, bears.mpr borne⟩
    · have waiting := (agrees.opened _ (mem_jobs present) (undone_iff.mpr signed)).resolve_right id
      change isPending world.tables row.subject = true at waiting
      cases there : fiscalOf world.tables row.subject with
      | none => simp [isPending, there] at waiting
      | some fiscal => exact ⟨fiscal, bears.mpr there⟩

/-- In every run that stays in step, whenever no request is pending the queue agrees with the
orders and returns. -/
theorem queue_consistent (settings : FiscalSettings) (codec : FiscalCodec) (events : List (Event FiscalChoice FiscalTask))
    (meets : inStep.RunMeets (fiscalRoom settings codec) (.quiet .opened) events)
    (quiescent : ((fiscalRoom settings codec).run (.quiet .opened) events).threads = []) :
    Consistent ((fiscalRoom settings codec).run (.quiet .opened) events).world := by
  have sound := (sound_invariant settings codec).reached sound_opened meets
  have nothing : ((fiscalRoom settings codec).run (.quiet .opened) events).pending = [] := by
    rw [Pool.pending, quiescent]
    rfl
  rw [nothing] at sound
  exact consistent_of_sound sound

end Quiescent

section Runs
open OneOrder (paidBasket)

def till : FiscalSettings := ⟨"de-tse", .signLater, "eur"⟩

/-- What the queue holds of the one sale of these runs. -/
def plainCodec : FiscalCodec :=
  { toJson := fun transaction => .ok transaction.transactionId.toString
    fromJson := fun text =>
      match paidBasket.toOrder (.random 9) with
      | .error _ => .error "expected value"
      | .ok order =>
        if text = "9" then .ok (saleTransaction ⟨[], fun _ => none⟩ order 1 2 none "eur") else .error "expected value" }

/-- The signer answers like this, with the sale of a packet of tea at hand. -/
def answering (answer : Except FiscalError FiscalSignature) (freshId : Uuid) : FiscalChoice :=
  { answer := answer, now := 5, freshId := freshId, cart := some paidBasket, shiftId := none
    saleTables := ⟨[], fun _ => none⟩, refundTables := ⟨[], fun _ => none⟩, lines := [], refunds := []
    storageFailure := none }

def outage : FiscalChoice := answering (.error (.unavailable "de-tse" "timeout")) (.random 9)

def signer : FiscalChoice := answering (.ok ⟨"de-tse", some "F-1", some "signature", none, 6⟩) (.random 9)

def lost : FiscalChoice := { signer with storageFailure := some (.connection "disk I/O error") }

def finalizeSale : FiscalTask := .finalizeOrder ⟨.v1_0_0, .random 100, 1, 2⟩ ⟨10⟩

/-- The sale comes to where its transaction is in the queue and the order is not written. -/
def queuedSale : List (Event FiscalChoice FiscalTask) :=
  .start finalizeSale :: List.replicate 8 (.step 0 outage)

def writtenSale : List (Event FiscalChoice FiscalTask) := queuedSale ++ List.replicate 2 (.step 0 outage)

/-- A sweep from its beginning to its end. -/
def sweptOnce : List (Event FiscalChoice FiscalTask) := .start .sweep :: List.replicate 4 (.step 0 signer)

def runFiscally (events : List (Event FiscalChoice FiscalTask)) : Pool FiscalRequest FiscalRequest.Reply Unit FiscalWorld :=
  (fiscalRoom till plainCodec).run (.quiet .opened) events

theorem sale_signed_later :
    ((runFiscally (writtenSale ++ sweptOnce)).world.tables.queue.map (·.status)) = [.signed] ∧
      Consistent (runFiscally (writtenSale ++ sweptOnce)).world :=
  ⟨by decide +kernel, queue_consistent till plainCodec (writtenSale ++ sweptOnce) (by decide +kernel) (by decide +kernel)⟩

/-- The sweep comes between the entry and the order, which is then marked pending for good. -/
def signedTooEarly : List (Event FiscalChoice FiscalTask) := queuedSale ++ sweptOnce ++ List.replicate 2 (.step 0 outage)

/-- The order is not written after all. -/
def neverWritten : List (Event FiscalChoice FiscalTask) := queuedSale ++ [.step 0 outage, .step 0 lost]

/-- The sweep ends between the receipt and the entry. -/
def neverMarked : List (Event FiscalChoice FiscalTask) :=
  writtenSale ++ .start .sweep :: List.replicate 3 (.step 0 signer) ++ [.drop 0]

def saleSubject : FiscalSubject := ⟨.order, .random 9⟩

def signedFields : FiscalPersistFields := ⟨some "de-tse", some "F-1", some "signature", none, some 6, false⟩

instance (tables : FiscalTables) (subject : FiscalSubject) (fiscal : FiscalPersistFields) :
    Decidable (Bears tables subject fiscal) := by
  unfold Bears
  split <;> infer_instance

theorem queue_apart :
    ((runFiscally signedTooEarly).threads = [] ∧ ¬Consistent (runFiscally signedTooEarly).world) ∧
    ((runFiscally neverWritten).threads = [] ∧ ¬Consistent (runFiscally neverWritten).world) ∧
    ((runFiscally neverMarked).threads = [] ∧ ¬Consistent (runFiscally neverMarked).world) := by
  refine ⟨⟨by decide +kernel, fun consistent => ?_⟩, ⟨by decide +kernel, fun consistent => ?_⟩,
    ⟨by decide +kernel, fun consistent => ?_⟩⟩
  · have pending : Bears (runFiscally signedTooEarly).world.tables saleSubject (fieldsFromOutcome "de-tse" .queued) := by
      decide +kernel
    have signed : ¬∃ row ∈ (runFiscally signedTooEarly).world.tables.queue,
        row.subject = saleSubject ∧ row.status ≠ .signed := by decide +kernel
    exact signed ((consistent.pending_iff _ _ pending).mp rfl)
  · obtain ⟨row, member, own⟩ : ∃ row ∈ (runFiscally neverWritten).world.tables.queue, row.subject = saleSubject := by
      decide +kernel
    have empty : (runFiscally neverWritten).world.tables.orders = [] := by decide +kernel
    obtain ⟨fiscal, there⟩ := consistent.durable row member
    rw [own] at there
    obtain ⟨order, impossible, _⟩ := there
    rw [empty] at impossible
    cases impossible
  · have signed : Bears (runFiscally neverMarked).world.tables saleSubject signedFields := by decide +kernel
    have unsigned : ∃ row ∈ (runFiscally neverMarked).world.tables.queue,
        row.subject = saleSubject ∧ row.status ≠ .signed := by decide +kernel
    cases (consistent.pending_iff _ _ signed).mpr unsigned

end Runs
end ApexEdge.Proofs.FiscalQueueing
