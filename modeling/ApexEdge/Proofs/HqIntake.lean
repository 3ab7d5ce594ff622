import ApexEdge.Outbox.Headquarters
import ApexEdge.Proofs.Destinations
import ApexEdge.Proofs.SummaryStatus

/-! Orders reach headquarters once. Answers are lost, hubs stop in the middle of a request and
ask again, and operators queue dead letters again; still every order that is on record as
delivered is held by headquarters, one row for it, as it was queued. -/

namespace ApexEdge.Proofs.HqIntake
open Library Payment Domain Storage Outbox
open Payment.StripeTerminal Outbox.Headquarters Proofs.DeliveryTries

/-- What is queued, by its id. -/
def texts (tables : OutboxTables) : List (Uuid × String) := tables.submissions.map fun row => (row.id, row.payload)

section Numbers

/-- A number that went through a signed column. -/
theorem asU64_asI64 (amount : Nat) : asU64 (asI64 amount) = UInt64.ofNat amount := by
  have same : asI64 amount % 2 ^ 64 = (amount : Int) % 2 ^ 64 := Int.bmod_emod
  rw [asU64, same]
  apply UInt64.toNat_inj.mp
  rw [UInt64.toNat_ofNat', UInt64.toNat_ofNat']
  omega

end Numbers

section Intake
variable {serialize : HqOrderSubmissionEnvelope → String} {read : Json → Option HqOrderSubmissionEnvelope}
  {received : List ReceivedOrder} {envelope : HqOrderSubmissionEnvelope} {now : Timestamp}

def ids (received : List ReceivedOrder) : List Uuid := received.map ReceivedOrder.submissionId

/-- An order is inserted once. -/
theorem insertOrder_cases (serialize : HqOrderSubmissionEnvelope → String) (envelope : HqOrderSubmissionEnvelope)
    (now : Timestamp) (received : List ReceivedOrder) :
    envelope.submissionId ∈ ids received ∧ (insertOrder serialize envelope now received).2 = received ∨
      envelope.submissionId ∉ ids received ∧
        (insertOrder serialize envelope now received).2 = received ++ [rowOf serialize envelope now] := by
  unfold insertOrder
  split
  next there =>
    obtain ⟨row, member, same⟩ := List.any_eq_true.mp there
    exact .inl ⟨of_decide_eq_true same ▸ List.mem_map_of_mem member, rfl⟩
  next absent =>
    refine .inr ⟨fun there => absent ?_, rfl⟩
    obtain ⟨row, member, same⟩ := List.mem_map.mp there
    exact List.any_eq_true.mpr ⟨row, member, decide_eq_true same⟩

theorem inserted (serialize : HqOrderSubmissionEnvelope → String) (envelope : HqOrderSubmissionEnvelope)
    (now : Timestamp) (received : List ReceivedOrder) :
    envelope.submissionId ∈ ids (insertOrder serialize envelope now received).2 := by
  rcases insertOrder_cases serialize envelope now received with ⟨there, same⟩ | ⟨_, added⟩
  · rwa [same]
  · rw [added, ids, List.map_append]
    exact List.mem_append_right _ (List.mem_singleton_self _)

/-- An order that is stored is answered with a success, and nothing else is. -/
theorem postOrder_cases (reception : Reception) (body : Json) {answer : SendResult} {after : List ReceivedOrder}
    (posted : postOrder serialize read reception body received = (answer, after)) :
    after = received ∧ (∀ status text reply, answer = .answered status text reply → status.isSuccess = false) ∨
      ∃ envelope, read body = some envelope ∧ after = (insertOrder serialize envelope reception.now received).2 := by
  unfold postOrder at posted
  split at posted
  · obtain ⟨rfl, rfl⟩ := Prod.mk.inj posted
    exact .inl ⟨rfl, fun _ _ _ same => (SendResult.answered.inj same).1 ▸ rfl⟩
  next envelope found =>
    split at posted <;> obtain ⟨rfl, rfl⟩ := Prod.mk.inj posted
    · exact .inl ⟨rfl, fun _ _ _ same => (SendResult.answered.inj same).1 ▸ rfl⟩
    · exact .inr ⟨envelope, found, rfl⟩

/-- The wire loses what is stored or what is said of it, and changes neither. -/
theorem run_answered (exchange : Exchange) (body : Json) {answer said : SendResult} {after stored : List ReceivedOrder}
    (posted : postOrder serialize read exchange.reception body received = (said, stored))
    (ran : exchange.run serialize read body received = (answer, after)) :
    (after = received ∨ after = stored) ∧ ∀ status text reply, answer = .answered status text reply →
      after = stored ∧ ∃ told, said = .answered status text told := by
  simp only [Exchange.run, posted] at ran
  split at ran
  · obtain ⟨rfl, rfl⟩ := Prod.mk.inj ran
    exact ⟨.inl rfl, nofun⟩
  · obtain ⟨rfl, rfl⟩ := Prod.mk.inj ran
    exact ⟨by split <;> simp, nofun⟩
  · obtain ⟨rfl, rfl⟩ := Prod.mk.inj ran
    exact ⟨.inr rfl, fun _ _ reply same => ⟨rfl, reply, same⟩⟩
  · split at ran <;> obtain ⟨rfl, rfl⟩ := Prod.mk.inj ran
    · refine ⟨.inr rfl, fun _ _ _ same => ?_⟩
      obtain ⟨rfl, rfl, -⟩ := SendResult.answered.inj same
      exact ⟨rfl, _, rfl⟩
    · exact ⟨.inr rfl, fun _ _ reply same => ⟨rfl, reply, same⟩⟩

/-- What a request does at headquarters: a success that comes back is of an order that is held. -/
theorem run_cases (exchange : Exchange) (body : Json) {answer : SendResult} {after : List ReceivedOrder}
    (ran : exchange.run serialize read body received = (answer, after)) :
    (after = received ∨ ∃ envelope, read body = some envelope ∧
      after = (insertOrder serialize envelope exchange.reception.now received).2) ∧
    ∀ status text reply, answer = .answered status text reply → status.isSuccess = true →
      ∃ envelope, read body = some envelope ∧ envelope.submissionId ∈ ids after := by
  obtain ⟨stores, answers⟩ := run_answered exchange body rfl ran
  rcases postOrder_cases exchange.reception body rfl with ⟨kept, fails⟩ | ⟨envelope, found, stored⟩
  · refine ⟨.inl (stores.elim id fun same => same.trans kept), fun status text reply same success => ?_⟩
    obtain ⟨-, told, said⟩ := answers status text reply same
    exact nomatch (fails _ _ _ said).symm.trans success
  · refine ⟨stores.imp_right fun same => ⟨envelope, found, same.trans stored⟩, fun status text reply same _ => ?_⟩
    exact ⟨envelope, found, ((answers status text reply same).1.trans stored) ▸ inserted ..⟩

end Intake

section Enterprise
variable (link : Link)

/-- The order that a queued payload is. -/
def orderOf (payload : String) : Option HqOrderSubmissionEnvelope := (link.parse payload).bind link.read

/-- Orders are queued under their own ids. -/
def Orderly (step : OutboxStep) : Prop :=
  match step with
  | .queue id payload _ => ∀ envelope, orderOf link payload = some envelope → envelope.submissionId = id
  | _ => True

/-- What is still to be sent in this cycle is queued. -/
def Waiting (queued : List (Uuid × String)) (phase : CyclePhase) : Prop :=
  ∀ rest, phase = .attempting rest → ∀ delivery ∈ rest, (delivery.submission.id, delivery.submission.payload) ∈ queued

/-- Hub and headquarters at any time. -/
structure Agreed (enterprise : Enterprise) : Prop where
  numbered : ((texts enterprise.room.store.tables).map Prod.fst).Nodup
  queued : ∀ text ∈ texts enterprise.room.store.tables, ∀ envelope, orderOf link text.2 = some envelope →
    envelope.submissionId = text.1
  once : (ids enterprise.received).Nodup
  sourced : ∀ row ∈ enterprise.received, ∃ text ∈ texts enterprise.room.store.tables, ∃ envelope time,
    orderOf link text.2 = some envelope ∧ row = rowOf link.serialize envelope time
  held : ∀ submission ∈ enterprise.acknowledged, submission ∈ ids enterprise.received
  waiting : Waiting (texts enterprise.room.store.tables) enterprise.room.phase

end Enterprise

section Steps
variable {link : Link} {enterprise : Enterprise} {room : OutboxRoom} {tables : OutboxTables}

/-- Headquarters stores an order that the hub has queued. -/
theorem Agreed.store (agreed : Agreed link enterprise) {body : Json} {payload : String} {id : Uuid}
    {received : List ReceivedOrder} (queued : (id, payload) ∈ texts enterprise.room.store.tables)
    (parsed : link.parse payload = some body)
    (stored : received = enterprise.received ∨ ∃ envelope now, link.read body = some envelope ∧
      received = (insertOrder link.serialize envelope now enterprise.received).2) :
    Agreed link { enterprise with received } := by
  rcases stored with rfl | ⟨envelope, now, found, rfl⟩
  · exact agreed
  have order : orderOf link payload = some envelope := by rw [orderOf, parsed, Option.bind_some, found]
  rcases insertOrder_cases link.serialize envelope now enterprise.received with ⟨_, same⟩ | ⟨absent, added⟩
  · rw [same]
    exact agreed
  · rw [added]
    refine { agreed with once := ?_, sourced := ?_, held := ?_ }
    · show (List.map ReceivedOrder.submissionId (enterprise.received ++ [rowOf link.serialize envelope now])).Nodup
      exact Table.unique_append agreed.once fun row member same => absent (List.mem_map.mpr ⟨row, member, same⟩)
    · intro row member
      rcases List.mem_append.mp member with old | new
      · exact agreed.sourced row old
      · exact ⟨_, queued, envelope, now, order, List.mem_singleton.mp new⟩
    · intro submission had
      show submission ∈ List.map _ _
      rw [List.map_append]
      exact List.mem_append_left _ (agreed.held submission had)

/-- A step that queues nothing. -/
theorem Agreed.beside (agreed : Agreed link enterprise)
    (same : texts room.store.tables = texts enterprise.room.store.tables)
    (waiting : Waiting (texts enterprise.room.store.tables) room.phase) : Agreed link { enterprise with room } where
  numbered := same ▸ agreed.numbered
  queued := same ▸ agreed.queued
  once := agreed.once
  sourced := same ▸ agreed.sourced
  held := agreed.held
  waiting := by
    rw [same]
    exact waiting

theorem waiting_other {queued : List (Uuid × String)} {phase : CyclePhase} (other : ∀ rest, phase ≠ .attempting rest) :
    Waiting queued phase :=
  fun rest same => absurd same (other rest)

theorem updated_texts {update : Table.Update OutboxSubmission}
    (unset : ∀ row, (update.set row).id = row.id ∧ (update.set row).payload = row.payload) :
    texts { tables with submissions := update.run tables.submissions } = texts tables := by
  unfold texts Table.Update.run
  rw [List.map_map]
  refine List.map_congr_left fun row _ => Prod.ext ?_ ?_
  · exact update.row_column OutboxSubmission.id (fun row => (unset row).1) row
  · exact update.row_column OutboxSubmission.payload (fun row => (unset row).2) row

theorem settle_texts (id : Uuid) (dead : Nat) : texts (Deliveries.settleSubmission id dead tables) = texts tables := by
  refine updated_texts fun row => ?_
  dsimp only
  split <;> exact ⟨rfl, rfl⟩

theorem fetched_waiting (limit : Nat) (now : Timestamp) :
    Waiting (texts tables) (.attempting (Deliveries.fetchDueDeliveries limit now tables)) := by
  intro rest same delivery member
  obtain rfl := CyclePhase.attempting.inj same
  obtain ⟨entry, -, -⟩ := fetched member
  exact List.mem_map_of_mem entry.submission

/-- What a try that is accepted takes. -/
theorem attempt_accepts {delivery : DueDelivery} {cycle : Cycle} {store after : OutboxStore}
    (ran : attemptDelivery link.parse link.env link.policy cycle delivery store = .ok after) :
    after.accepted = store.accepted ∨
      hasEndpoint delivery.destination = true ∧
        (∀ name, signingSecret link.env delivery.destination.config ≠ .missing name) ∧
        (link.parse delivery.submission.payload).isSome = true ∧
        ∃ status text body, cycle.answer delivery = .answered status text body ∧ status.isSuccess = true := by
  have retried (error : String) : (retryOrGiveUp link.policy cycle delivery error store).accepted = store.accepted := by
    unfold retryOrGiveUp
    split <;> rfl
  unfold attemptDelivery at ran
  split at ran
  next endpoint =>
    split at ran
    · cases ran
    next parsed =>
      split at ran <;> obtain rfl := Except.ok.inj ran
      · exact .inl (retried _)
      next present =>
        unfold settleAnswer
        split
        next status text body answered =>
          split
          next success =>
            split
            · refine .inr ⟨endpoint, present, ?_, status, text, body, answered, success⟩
              rw [parsed]
              rfl
            · exact .inl (retried _)
          next => exact .inl (retried _)
        · exact .inl rfl
        · exact .inl (retried _)
  · obtain rfl := Except.ok.inj ran
    exact .inl rfl

/-- The next statement of the dispatcher. -/
theorem Agreed.dispatch (agreed : Agreed link enterprise) (cycle : Cycle) :
    Agreed link { enterprise with room := enterprise.room.dispatch link.parse link.env link.policy cycle } := by
  cases phase : enterprise.room.phase with
  | idle | listed =>
    rw [OutboxRoom.dispatch, phase]
    exact agreed.beside rfl (waiting_other (by simp))
  | owing owed =>
    rw [OutboxRoom.dispatch, phase]
    cases owed with
    | nil => exact agreed.beside rfl (fetched_waiting _ _)
    | cons pair rest =>
      have same := (@ensure_same enterprise.room.store.tables pair.1 pair.2).submissions
      exact agreed.beside (congrArg (List.map _) same) (waiting_other (by simp))
  | attempting deliveries =>
    rw [OutboxRoom.dispatch, phase]
    cases deliveries with
    | nil => exact agreed.beside rfl (waiting_other (by simp))
    | cons delivery rest =>
      dsimp only
      cases ran : attemptDelivery link.parse link.env link.policy cycle delivery enterprise.room.store with
      | error _ => exact agreed.beside rfl (waiting_other (by simp))
      | ok store =>
        refine agreed.beside (congrArg (List.map _) (same_tried (attempt_tried ran)).submissions) ?_
        intro others same other member
        obtain rfl := CyclePhase.attempting.inj same
        exact agreed.waiting _ phase other (List.mem_cons_of_mem _ member)
  | settling found rest =>
    rw [OutboxRoom.dispatch, phase]
    cases rest with
    | nil => exact agreed.beside rfl (waiting_other (by simp))
    | cons entry rest =>
      exact agreed.beside (settle_texts entry.1 entry.2) (waiting_other (by simp))

/-- A step of the hub, whatever it records. -/
theorem Agreed.step (agreed : Agreed link enterprise) {step : OutboxStep} (orderly : Orderly link step) :
    Agreed link { enterprise with room := enterprise.room.apply link.parse link.env link.policy step } := by
  cases step with
  | queue id payload now =>
    unfold OutboxRoom.apply Deliveries.insertOutbox
    dsimp only
    split
    · exact agreed
    next after queued =>
      split at queued
      · cases queued
      next fresh =>
        obtain rfl := Except.ok.inj queued
        have absent : ∀ row ∈ enterprise.room.store.tables.submissions, row.id ≠ id := by simpa using fresh
        have more : texts { enterprise.room.store.tables with submissions :=
            enterprise.room.store.tables.submissions ++ [⟨id, payload, .pending, now, none⟩] } =
            texts enterprise.room.store.tables ++ [(id, payload)] := List.map_append
        refine ⟨?_, ?_, agreed.once, ?_, agreed.held, ?_⟩ <;> dsimp only <;> rw [more]
        · refine Table.unique_append agreed.numbered fun text member => ?_
          obtain ⟨row, present, rfl⟩ := List.mem_map.mp member
          exact absent row present
        · intro text member
          rcases List.mem_append.mp member with old | new
          · exact agreed.queued text old
          · obtain rfl := List.mem_singleton.mp new
            exact orderly
        · intro row member
          obtain ⟨text, present, rest⟩ := agreed.sourced row member
          exact ⟨text, List.mem_append_left _ present, rest⟩
        · intro rest phase delivery member
          exact List.mem_append_left _ (agreed.waiting rest phase delivery member)
  | dispatch cycle => exact agreed.dispatch cycle
  | lose sent => exact agreed.beside rfl (waiting_other nofun)
  | register id new =>
    exact agreed.beside (congrArg (List.map _) (SummaryStatus.upsert_submissions id new _)) agreed.waiting
  | disable | abandon => exact agreed.beside rfl agreed.waiting
  | retry outboxId destinationId =>
    unfold OutboxRoom.apply OutboxRoom.retry
    dsimp only
    split
    · exact agreed.beside rfl agreed.waiting
    · exact agreed
  | requeue index =>
    unfold OutboxRoom.apply
    dsimp only
    split
    · exact agreed
    · exact agreed.beside (updated_texts fun _ => ⟨rfl, rfl⟩) agreed.waiting

/-- What the hub sends is queued. -/
theorem requestOf_some (agreed : Agreed link enterprise) {step : OutboxStep} {body : Json}
    (asked : requestOf link enterprise.room step = some body) :
    ∃ delivery rest, enterprise.room.phase = .attempting (delivery :: rest) ∧
      link.parse delivery.submission.payload = some body ∧
      (delivery.submission.id, delivery.submission.payload) ∈ texts enterprise.room.store.tables := by
  unfold requestOf at asked
  split at asked
  next delivery rest phase =>
    refine ⟨delivery, rest, phase, ?_, agreed.waiting _ phase delivery List.mem_cons_self⟩
    split at asked
    · split at asked
      · cases asked
      · exact asked
    · cases asked
  · cases asked

/-- What is recorded as delivered at headquarters was sent there, and answered with a success. -/
theorem recorded_asked {step : OutboxStep} {submission : Uuid}
    (had : submission ∈ recorded link room (room.apply link.parse link.env link.policy step)) :
    ∃ cycle delivery rest, step = .dispatch cycle ∧ room.phase = .attempting (delivery :: rest) ∧
      submission = delivery.submission.id ∧
      (∀ other, requestOf link room (.dispatch other) = link.parse delivery.submission.payload) ∧
      (link.parse delivery.submission.payload).isSome = true ∧
      ∃ status text body, cycle.answer delivery = .answered status text body ∧ status.isSuccess = true := by
  unfold recorded at had
  split at had
  next delivery rest phase =>
    split at had
    next place =>
      obtain ⟨address, more⟩ := place
      obtain rfl := List.mem_singleton.mp had
      cases step with
      | dispatch cycle =>
        rw [OutboxRoom.apply, OutboxRoom.dispatch, phase] at more
        dsimp only at more
        cases ran : attemptDelivery link.parse link.env link.policy cycle delivery room.store with
        | error _ =>
          rw [ran] at more
          exact absurd rfl more
        | ok store =>
          rw [ran] at more
          obtain ⟨endpoint, secret, parsed, success⟩ := (attempt_accepts ran).resolve_left more
          refine ⟨cycle, delivery, rest, rfl, phase, rfl, fun other => ?_, parsed, success⟩
          rw [requestOf, phase]
          dsimp only
          rw [if_pos ⟨rfl, endpoint, address⟩]
          cases found : signingSecret link.env delivery.destination.config with
          | missing name => exact absurd found (secret name)
          | none | present => rfl
      | lose | register | disable | abandon => exact absurd rfl more
      | queue | retry | requeue =>
        simp only [OutboxRoom.apply, OutboxRoom.retry] at more
        split at more <;> exact absurd rfl more
    · cases had
  · cases had

/-- One step of the hub, and of headquarters where the hub asks it. -/
theorem agreed_apply (agreed : Agreed link enterprise) (step : OutboxStep × Exchange) (orderly : Orderly link step.1) :
    Agreed link (Headquarters.apply link enterprise step) ∧
      enterprise.received <+: (Headquarters.apply link enterprise step).received := by
  obtain ⟨step, exchange⟩ := step
  have more {after : Enterprise} (stored : Agreed link after) {later : List Uuid}
      (confirmed : ∀ submission ∈ later, submission ∈ ids after.received) :
      Agreed link { after with acknowledged := after.acknowledged ++ later } :=
    { stored with held := fun submission had => (List.mem_append.mp had).elim (stored.held _) (confirmed _) }
  unfold Headquarters.apply
  dsimp only
  cases asked : requestOf link enterprise.room step with
  | none =>
    refine ⟨more (agreed.step orderly) fun submission had => ?_, List.prefix_refl _⟩
    obtain ⟨cycle, delivery, rest, rfl, -, -, sends, parsed, -⟩ := recorded_asked had
    rw [← sends cycle, asked] at parsed
    cases parsed
  | some body =>
    cases ran : exchange.run link.serialize link.read body enterprise.received with
    | mk answer after =>
      simp only [ran]
      have stored := (run_cases exchange body ran).1
      obtain ⟨delivery, rest, phase, parsed, queued⟩ := requestOf_some agreed asked
      have grown : enterprise.received <+: after := by
        rcases stored with rfl | ⟨envelope, -, rfl⟩
        · exact List.prefix_refl _
        · rcases insertOrder_cases link.serialize envelope exchange.reception.now enterprise.received with
            ⟨_, same⟩ | ⟨_, added⟩
          · rw [same]
          · rw [added]
            exact List.prefix_append _ _
      have held : Agreed link { enterprise with received := after } :=
        agreed.store queued parsed (stored.imp_right fun ⟨envelope, found, same⟩ => ⟨envelope, _, found, same⟩)
      have orderly : Orderly link (answeredBy answer step) := by
        cases step <;> exact orderly
      refine ⟨more (held.step orderly) fun submission had => ?_, grown⟩
      obtain ⟨cycle, other, _, told, place, rfl, -, -, status, text, reply, said, success⟩ := recorded_asked had
      obtain ⟨rfl, -⟩ := List.cons.inj (CyclePhase.attempting.inj (phase.symm.trans place))
      have answered : answer = .answered status text reply := by
        cases step with
        | dispatch other =>
          obtain rfl := OutboxStep.dispatch.inj told
          exact said
        | _ => cases told
      obtain ⟨envelope, order, there⟩ := (run_cases exchange body ran).2 status text reply answered success
      have own : envelope.submissionId = delivery.submission.id :=
        agreed.queued _ queued envelope (by rw [orderOf, parsed, Option.bind_some, order])
      exact own ▸ there

end Steps

section Runs
variable {link : Link} {serialize : HqOrderSubmissionEnvelope → String}

/-- An order as headquarters shows it. -/
def detailOf (serialize : HqOrderSubmissionEnvelope → String) (envelope : HqOrderSubmissionEnvelope)
    (receivedAt : Timestamp) : StoredOrderDetail where
  submissionId := envelope.submissionId
  orderId := envelope.order.orderId
  storeId := envelope.storeId
  registerId := envelope.registerId
  sequenceNumber := envelope.sequenceNumber
  totalCents := envelope.order.totalCents
  discountCents := envelope.order.discountCents
  taxCents := envelope.order.taxCents
  lineCount := UInt64.ofNat envelope.order.lines.length
  paymentSummary := paymentSummary envelope.order.payments
  submittedAt := envelope.submittedAt
  receivedAt := receivedAt
  payloadJson := serialize envelope

/-- A row that is stored once is shown as it was sent. -/
theorem getOrder_stored {received : List ReceivedOrder} (once : (ids received).Nodup)
    {envelope : HqOrderSubmissionEnvelope} {time : Timestamp} (member : rowOf serialize envelope time ∈ received) :
    getOrder envelope.submissionId received = some (detailOf serialize envelope time) := by
  have found : received.find? (·.submissionId = envelope.submissionId) = some (rowOf serialize envelope time) :=
    Table.find?_of_unique once member
  rw [getOrder, found, Option.map_some]
  simp only [rowOf, asU64_asI64, UInt64.ofNat_toNat, detailOf]

theorem opened_agreed (destinations : List DestinationRow) : Agreed link (Headquarters.opened destinations) := by
  refine ⟨.nil, ?_, .nil, ?_, ?_, waiting_other nofun⟩
  all_goals exact nofun

/-- Hub and headquarters after a run: headquarters holds one row for an order, every row is of an
order that was queued, and what is on record as delivered there is shown as it was queued. -/
structure Once (link : Link) (enterprise : Enterprise) : Prop where
  once : (ids enterprise.received).Nodup
  sourced : ∀ row ∈ enterprise.received, ∃ submission ∈ enterprise.room.store.tables.submissions, ∃ envelope time,
    orderOf link submission.payload = some envelope ∧ submission.id = row.submissionId ∧
      row = rowOf link.serialize envelope time
  delivered : ∀ id ∈ enterprise.acknowledged, ∃ submission ∈ enterprise.room.store.tables.submissions,
    submission.id = id ∧ ∃ envelope time, orderOf link submission.payload = some envelope ∧
      getOrder id enterprise.received = some (detailOf link.serialize envelope time)

theorem Agreed.summary {enterprise : Enterprise} (agreed : Agreed link enterprise) : Once link enterprise := by
  have sourced : ∀ row ∈ enterprise.received, ∃ submission ∈ enterprise.room.store.tables.submissions,
      ∃ envelope time, orderOf link submission.payload = some envelope ∧ submission.id = row.submissionId ∧
        row = rowOf link.serialize envelope time := by
    intro row member
    obtain ⟨text, queued, envelope, time, order, rfl⟩ := agreed.sourced row member
    have own := agreed.queued text queued envelope order
    obtain ⟨submission, present, rfl⟩ := List.mem_map.mp queued
    exact ⟨submission, present, envelope, time, order, own.symm, rfl⟩
  refine ⟨agreed.once, sourced, fun id had => ?_⟩
  obtain ⟨row, member, rfl⟩ := List.mem_map.mp (agreed.held id had)
  obtain ⟨submission, present, envelope, time, order, own, rfl⟩ := sourced row member
  exact ⟨submission, present, own, envelope, time, order, getOrder_stored agreed.once member⟩

/-- Orders reach headquarters once, over every run of the hub and every loss on the way, and
headquarters forgets none of them. -/
theorem received_once (destinations : List DestinationRow) {earlier later : List (OutboxStep × Exchange)}
    (orderly : ∀ step ∈ earlier ++ later, Orderly link step.1) {before after : Enterprise}
    (first : Sequence.run (Headquarters.apply link) (Headquarters.opened destinations) earlier = before)
    (last : Sequence.run (Headquarters.apply link) (Headquarters.opened destinations) (earlier ++ later) = after) :
    before.received <+: after.received ∧ Once link after := by
  let orderlyStep (_ : Enterprise) (step : OutboxStep × Exchange) : Prop := Orderly link step.1
  have kept : ∀ enterprise step, Agreed link enterprise → orderlyStep enterprise step →
      Agreed link (Headquarters.apply link enterprise step) :=
    fun _ step agreed orderly => (agreed_apply agreed step orderly).1
  have grows : ∀ enterprise step, (Agreed link enterprise ∧ before.received <+: enterprise.received) →
      orderlyStep enterprise step → Agreed link (Headquarters.apply link enterprise step) ∧
        before.received <+: (Headquarters.apply link enterprise step).received :=
    fun _ step held orderly =>
      have next := agreed_apply held.1 step orderly
      ⟨next.1, held.2.trans next.2⟩
  have meets : Sequence.Meets (Headquarters.apply link) orderlyStep (Headquarters.opened destinations)
      (earlier ++ later) :=
    Sequence.meets_of_splits fun past step future split => orderly step (by
      rw [split]
      exact List.mem_append_right _ List.mem_cons_self)
  obtain ⟨meets, rest⟩ := Sequence.meets_append meets
  have start : Agreed link before := first ▸ Sequence.keeps kept (opened_agreed destinations) meets
  rw [first] at rest
  rw [Sequence.run_append, first] at last
  obtain ⟨agreed, grown⟩ := Sequence.keeps grows ⟨start, List.prefix_refl _⟩ rest
  rw [last] at agreed grown
  exact ⟨grown, agreed.summary⟩

def sampleEnvelope : HqOrderSubmissionEnvelope :=
  ⟨5, 6, 7, 1, ⟨8, [9], 0, 0, 1250, [⟨1250, none⟩]⟩, 5⟩

def sampleLink : Link where
  parse := Destinations.sampleParse
  env := Destinations.noSecrets
  policy := Destinations.batchesOf 2
  serialize _ := Destinations.orderText
  read body := (body.get "order").map fun _ => sampleEnvelope
  address := "http://hq"

def dispatching (wire : Wire) (now : Timestamp) : OutboxStep × Exchange :=
  (.dispatch ⟨now, fun _ => now, fun _ => Destinations.accepted⟩, ⟨wire, ⟨now, "", none⟩⟩)

/-- An order whose first answer is lost. -/
def asking : List (OutboxStep × Exchange) :=
  (.queue 5 Destinations.orderText 5, ⟨.answered true, ⟨5, "", none⟩⟩) ::
    List.replicate 7 (dispatching (.lost true "timeout") 10)

def askingAgain : List (OutboxStep × Exchange) := List.replicate 5 (dispatching (.answered true) 100)

def exchanged (steps : List (OutboxStep × Exchange)) : Enterprise :=
  Sequence.run (Headquarters.apply sampleLink) (Headquarters.opened [Destinations.headquarters]) steps

theorem answer_lost :
    (exchanged asking).acknowledged = [] ∧ (exchanged (asking ++ askingAgain)).acknowledged = [5] ∧
      (exchanged asking).received <+: (exchanged (asking ++ askingAgain)).received ∧
        Once sampleLink (exchanged (asking ++ askingAgain)) := by
  refine ⟨by decide +kernel, by decide +kernel, received_once _ ?_ rfl rfl⟩
  intro step member
  rcases List.mem_append.mp member with early | late
  · rcases List.mem_cons.mp early with rfl | repeated
    · intro envelope order
      obtain rfl : sampleEnvelope = envelope := Option.some.inj order
      rfl
    · rw [List.eq_of_mem_replicate repeated]
      trivial
  · rw [List.eq_of_mem_replicate late]
    trivial

end Runs

end ApexEdge.Proofs.HqIntake
