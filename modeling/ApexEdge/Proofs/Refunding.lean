import ApexEdge.Proofs.StepEffects

/-! What a refund command relies on: its return stays a return of its order, and what it
has reserved stays reserved on its own terms. Whoever grants it as much can host it. -/

namespace ApexEdge.Proofs.Refunding
open Library Payment Domain Storage Contracts Hub

/-- The order that a return goes back to. -/
def originalOrder (returnId : Uuid) (db : Db) : Option Uuid :=
  (Returns.fetch returnId db.returns).bind ReturnRow.originalOrderId

def orderOf (orderId : Uuid) (db : Db) : Option NewOrderLedgerEntry := db.orders.find? (·.orderId = orderId)

/-- The refund is to a provider that moves money, not to the drawer or by hand. -/
def movesMoney (app : AppState) (tenderType : String) : Bool :=
  app.resolve (some tenderType) = .provider tenderType ∧ tenderType ≠ cashProvider

/-- Reservations and orders stay, and a return stays a return of its order. -/
structure Grows (before after : Db) : Prop where
  orders : after.orders = before.orders
  intents : ∀ intent ∈ before.returns.refundIntents, intent ∈ after.returns.refundIntents
  returns : ∀ returnId, originalOrder returnId after = originalOrder returnId before

/-- The reservation that a refund request stands on. -/
structure Sanctioned (app : AppState) (db : Db) (refund : RequestedRefund) (orderId : Uuid)
    (order : NewOrderLedgerEntry) (intent : RefundIntentRow) : Prop where
  original : originalOrder refund.command.refund.returnId db = some orderId
  stored : orderOf orderId db = some order
  moves : movesMoney app refund.provider = true
  payment : refundablePayment refund.provider order = some refund.request.providerPaymentId
  reserved : intent ∈ db.returns.refundIntents
  own : intent.returnId = refund.command.refund.returnId
  tender : intent.tenderType = refund.provider
  id : intent.id = (refundRow refund.command.posEnvelope refund.command.refund).id
  request : refund.request = refundRequest refund.command.envelope.idempotencyKey intent.id
    refund.request.providerPaymentId intent.amountCents

def Stands (app : AppState) (db : Db) (refund : RequestedRefund) : Prop :=
  ∃ orderId order intent, Sanctioned app db refund orderId order intent

section Grows
variable {first second third : Db}

theorem Grows.refl (db : Db) : Grows db db := ⟨rfl, fun _ member => member, fun _ => rfl⟩

theorem Grows.trans (once : Grows first second) (again : Grows second third) : Grows first third where
  orders := again.orders.trans once.orders
  intents intent member := again.intents intent (once.intents intent member)
  returns returnId := (again.returns returnId).trans (once.returns returnId)

theorem Stands.grow {app : AppState} {refund : RequestedRefund} (grows : Grows first second)
    (stands : Stands app first refund) : Stands app second refund := by
  obtain ⟨orderId, order, intent, sanctioned⟩ := stands
  exact ⟨orderId, order, intent,
    { sanctioned with
      original := (grows.returns _).trans sanctioned.original
      stored := by rw [orderOf, grows.orders]; exact sanctioned.stored
      reserved := grows.intents _ sanctioned.reserved }⟩

end Grows

section Steps

theorem reserve_cases (refund : RefundRow) (tables : ReturnTables) :
    Returns.reserve refund tables = tables ∨
      tables.refundIntents.any (·.id = refund.id) = false ∧
        Returns.reserve refund tables =
          { tables with refundIntents := tables.refundIntents ++
              [⟨refund.id, refund.returnId, refund.tenderType, refund.amountCents⟩] } := by
  unfold Returns.reserve
  cases found : Returns.fetch refund.returnId tables with
  | none => exact .inl rfl
  | some row =>
    have own : row.id = refund.returnId := by simpa using List.find?_some found
    dsimp only
    split
    next free => exact .inr ⟨by simpa using free.2.2.2, by rw [own]⟩
    next => exact .inl rfl

theorem complete_rows (refund : RefundRow) (tables : ReturnTables) :
    ∃ update : Table.Update ReturnRow, (Returns.complete refund tables).returns = update.run tables.returns ∧
      ∀ row, (update.set row).id = row.id ∧ (update.set row).originalOrderId = row.originalOrderId := by
  unfold Returns.complete
  split <;> exact ⟨_, rfl, fun _ => ⟨rfl, rfl⟩⟩

/-- Recording a refund changes no return's order. -/
theorem complete_original (refund : RefundRow) (db : Db) (returnId : Uuid) :
    originalOrder returnId { db with returns := Returns.complete refund db.returns } = originalOrder returnId db := by
  obtain ⟨update, rows, kept⟩ := complete_rows refund db.returns
  unfold originalOrder Returns.fetch
  rw [rows, Table.find?_run update (fun row => decide (row.id = returnId)) fun row => by rw [(kept row).1]]
  cases db.returns.returns.find? (·.id = returnId) with
  | none => rfl
  | some row => exact update.row_column ReturnRow.originalOrderId (fun row => (kept row).2) row

theorem complete_intents (refund : RefundRow) (tables : ReturnTables) :
    (Returns.complete refund tables).refundIntents = tables.refundIntents := by
  unfold Returns.complete
  split <;> rfl

variable {Remote Answer : Type} {providers : Providers Remote Answer} {choice : Choice Answer} {world : World Remote}
  {request : Request}

/-- Only the writing of an order can take anything back. -/
theorem perform_grows (orders : ∀ entry outboxId, request.call ≠ .insertOrderLedgerEntryWithOutbox entry outboxId) :
    Grows world.db (perform providers choice world request).2.db := by
  have changed := StepEffects.perform_db providers choice world request
  generalize (perform providers choice world request).2.db = db at changed
  cases changed with
  | same => exact .refl _
  | answered | saved | ledger => exact ⟨rfl, fun _ member => member, fun _ => rfl⟩
  | ordered entry outboxId _ _ called => exact absurd called (orders entry outboxId)
  | reserved refund =>
    rcases reserve_cases refund world.db.returns with same | ⟨_, added⟩
    · rw [same]
      exact .refl _
    · rw [added]
      exact ⟨rfl, fun _ member => List.mem_append_left _ member, fun _ => rfl⟩
  | completed refund =>
    exact ⟨rfl, fun _ member => (complete_intents refund _).symm ▸ member, complete_original refund world.db⟩

/-- Only a working reservation that is made adds to the reservations. -/
theorem perform_reservations (providers : Providers Remote Answer) (choice : Choice Answer) (world : World Remote)
    (request : Request) :
    (perform providers choice world request).2.db.returns.refundIntents = world.db.returns.refundIntents ∨
      ∃ refund, request.call = .reserveRefund refund ∧ choice.storageFailure = none ∧
        Returns.reserve refund world.db.returns ≠ world.db.returns ∧
        world.db.returns.refundIntents.any (·.id = refund.id) = false ∧
        (perform providers choice world request).2.db.returns.refundIntents = world.db.returns.refundIntents ++
          [⟨refund.id, refund.returnId, refund.tenderType, refund.amountCents⟩] := by
  obtain ⟨frame, call⟩ := request
  have changed := StepEffects.perform_db providers choice world ⟨frame, call⟩
  generalize known : (perform providers choice world ⟨frame, call⟩).2.db = db at changed
  cases changed with
  | same | answered | saved | ledger | ordered => exact .inl rfl
  | completed refund => exact .inl (complete_intents refund _)
  | reserved refund called =>
    cases called
    rcases reserve_cases refund world.db.returns with same | ⟨fresh, added⟩
    · exact .inl (by rw [same])
    · have works : choice.storageFailure = none := by
        cases failing : choice.storageFailure with
        | none => rfl
        | some error =>
          simp only [perform, transact, failing, added] at known
          have same := congrArg (fun db => db.returns.refundIntents.length) known
          simp at same
      refine .inr ⟨refund, rfl, works, ?_, fresh, by rw [added]⟩
      intro same
      have same := congrArg (fun tables => tables.refundIntents.length) (added.symm.trans same)
      simp at same

end Steps

/-- The calls of a refund command, but for the refund itself. -/
def isDeskCall (call : Call) : Bool :=
  match call with
  | .getResponse _ | .setResponse .. | .fetchReturn _ | .listReturnLines _ | .listRefunds _ | .reserveRefund _
  | .refundReservation _ | .refundRecorded _ | .completeRefund _ | .fetchOrderLedgerEntry _ => true
  | _ => false

/-- The refund's own terms, as they are reserved. -/
def terms (refund : RefundRow) : RefundIntentRow := ⟨refund.id, refund.returnId, refund.tenderType, refund.amountCents⟩

/-- A refund is recorded on its reservation. -/
def Covered (db : Db) (call : Call) : Prop :=
  match call with
  | .completeRefund refund => terms refund ∈ db.returns.refundIntents
  | _ => True

section Commands
variable {Remote Answer Setting : Type}

/-- Rules over a hub under which a refund command is granted what it asks for. -/
structure Hosts (rules : Rules Request Request.Reply Setting (Choice Answer)) (providers : Providers Remote Answer)
    (hub : Setting → World Remote) (app : AppState) (command : RefundCommand) : Prop where
  performs : ∀ choice world request,
    (rules.perform choice world request).1 = (perform providers choice (hub world) request).1 ∧
      hub (rules.perform choice world request).2 = (perform providers choice (hub world) request).2
  stays : ∀ {before after}, rules.interference before after → Grows (hub before).db (hub after).db
  serves : ∀ {world frame call}, isDeskCall call = true → Covered (hub world).db call → rules.grants world ⟨frame, call⟩
  refunds : ∀ {world frame provider request}, Stands app (hub world).db ⟨command, provider, request⟩ →
    rules.grants world ⟨frame, .refund provider request⟩

variable {rules : Rules Request Request.Reply Setting (Choice Answer)} {providers : Providers Remote Answer}
  {hub : Setting → World Remote} {app : AppState} {command : RefundCommand} {world : Setting} {ε : Type}

theorem Hosts.reply (hosts : Hosts rules providers hub app command) {frame : Frame} {call : Call}
    {post : Setting → Except ε call.Reply → Prop}
    (granted : ∀ later, Grows (hub world).db (hub later).db → rules.grants later ⟨frame, call⟩)
    (rest : ∀ later choice after, Grows (hub world).db (hub later).db →
      hub after = (perform providers choice (hub later) ⟨frame, call⟩).2 →
      post after (.ok (perform providers choice (hub later) ⟨frame, call⟩).1)) :
    rules.Safe post world (Hub.reply frame call : Action ε call.Reply) := by
  intro later _ moved
  refine ⟨granted later (hosts.stays moved), fun _ choice _ => ?_⟩
  obtain ⟨answer, after⟩ := hosts.performs choice later ⟨frame, call⟩
  have kept := rest later choice _ (hosts.stays moved) after
  rw [← answer] at kept
  exact kept

/-- Whatever is answered, what was known stays known. -/
theorem Hosts.ask (hosts : Hosts rules providers hub app command) {frame : Frame} {call : Call}
    {post : Setting → Except ε call.Reply → Prop}
    (orders : ∀ entry outboxId, call ≠ .insertOrderLedgerEntryWithOutbox entry outboxId)
    (granted : ∀ later, Grows (hub world).db (hub later).db → rules.grants later ⟨frame, call⟩)
    (rest : ∀ after answer, Grows (hub world).db (hub after).db → post after (.ok answer)) :
    rules.Safe post world (Hub.reply frame call : Action ε call.Reply) := by
  refine hosts.reply granted fun later choice after grows same => rest after _ ?_
  rw [same]
  exact grows.trans (perform_grows orders)

/-- A read changes nothing; what it answers holds of the store that it leaves. -/
theorem Hosts.read (hosts : Hosts rules providers hub app command) {frame : Frame} {call : Call}
    {post : Setting → Except ε call.Reply → Prop} (serves : isDeskCall call = true ∧ ∀ db, Covered db call)
    (reads : ∀ choice world, (perform providers choice world ⟨frame, call⟩).2 = world)
    (rest : ∀ after choice, Grows (hub world).db (hub after).db →
      post after (.ok (perform providers choice (hub after) ⟨frame, call⟩).1)) :
    rules.Safe post world (Hub.reply frame call : Action ε call.Reply) := by
  refine hosts.reply (fun _ _ => hosts.serves serves.1 (serves.2 _)) fun later choice after grows same => ?_
  rw [reads] at same
  rw [← same] at grows ⊢
  exact rest after choice grows

/-- The return is known to go back to this order. -/
theorem loadSnapshot_safe (hosts : Hosts rules providers hub app command) (frame : Frame) (id : Uuid) :
    rules.Safe (fun after result => Grows (hub world).db (hub after).db ∧
      ∀ snapshot : ReturnSnapshot, result = .ok snapshot →
        originalOrder id (hub after).db = snapshot.row.originalOrderId) world (loadSnapshot frame id) := by
  apply Rules.safe_andThen
  apply Rules.safe_orThrow
  refine hosts.read ⟨rfl, fun _ => trivial⟩ (fun _ _ => query_world ..) fun later choice grows => ?_
  simp only [perform, query]
  cases choice.storageFailure with
  | some error => exact ⟨grows, fun _ impossible => by cases impossible⟩
  | none =>
    cases found : Returns.fetch id (hub later).db.returns with
    | none => exact ⟨grows, fun _ impossible => by cases impossible⟩
    | some row =>
      have original : originalOrder id (hub later).db = row.originalOrderId := by simp [originalOrder, found]
      apply Rules.safe_andThen
      apply Rules.safe_orThrow
      refine hosts.ask (fun _ _ => by simp) (fun _ _ => hosts.serves rfl trivial) fun after lines more => ?_
      cases lines with
      | error error => exact ⟨grows.trans more, fun _ impossible => by cases impossible⟩
      | ok lines =>
        apply Rules.safe_andThen
        apply Rules.safe_orThrow
        refine hosts.ask (fun _ _ => by simp) (fun _ _ => hosts.serves rfl trivial) fun last refunds again => ?_
        cases refunds with
        | error error => exact ⟨grows.trans (more.trans again), fun _ impossible => by cases impossible⟩
        | ok refunds =>
          refine ⟨grows.trans (more.trans again), ?_⟩
          rintro _ ⟨⟩
          rw [again.returns, more.returns, original]

theorem prepareRefund_safe (hosts : Hosts rules providers hub app command) (frame : Frame) (refund : RefundRow) :
    rules.Safe (fun after result => Grows (hub world).db (hub after).db ∧
      ∀ recorded, result = .ok recorded → terms refund ∈ (hub after).db.returns.refundIntents) world
      (prepareRefund frame refund) := by
  apply Rules.safe_andThen
  apply Rules.safe_orThrow
  refine hosts.ask (fun _ _ => by simp) (fun _ _ => hosts.serves rfl trivial) fun after reserved grows => ?_
  cases reserved with
  | error error => exact ⟨grows, fun _ impossible => by cases impossible⟩
  | ok done =>
    apply Rules.safe_andThen
    apply Rules.safe_orThrow
    refine hosts.read ⟨rfl, fun _ => trivial⟩ (fun _ _ => query_world ..) fun later choice more => ?_
    simp only [perform, query]
    cases choice.storageFailure with
    | some error => exact ⟨grows.trans more, fun _ impossible => by cases impossible⟩
    | none =>
      cases found : Returns.reservation refund.id (hub later).db.returns with
      | none => exact ⟨grows.trans more, fun _ impossible => by cases impossible⟩
      | some intent =>
        dsimp only
        split
        next same =>
          have own : intent.id = refund.id := by simpa using List.find?_some found
          have listed : terms refund ∈ (hub later).db.returns.refundIntents := by
            have member := List.mem_of_find?_eq_some found
            obtain ⟨id, returnId, tenderType, amountCents⟩ := intent
            obtain ⟨rfl, rfl, rfl⟩ := same
            obtain rfl := own
            exact member
          apply Rules.safe_orThrow
          refine hosts.ask (fun _ _ => by simp) (fun _ _ => hosts.serves rfl trivial) fun last recorded again => ?_
          cases recorded with
          | error error => exact ⟨grows.trans (more.trans again), fun _ impossible => by cases impossible⟩
          | ok recorded => exact ⟨grows.trans (more.trans again), fun _ _ => again.intents _ listed⟩
        next => exact ⟨grows.trans more, fun _ impossible => by cases impossible⟩

/-- A refund goes to the order of its return, on the terms that are reserved. -/
theorem refundThroughProvider_safe (hosts : Hosts rules providers hub app command) {frame : Frame}
    {originalOrderId : Option Uuid}
    (original : originalOrder command.refund.returnId (hub world).db = originalOrderId)
    (reserved : terms (refundRow command.posEnvelope command.refund) ∈ (hub world).db.returns.refundIntents) :
    rules.Safe (fun after _ => Grows (hub world).db (hub after).db) world
      (refundThroughProvider app frame originalOrderId command.refund.tenderType command.refund.amountCents
        command.envelope.idempotencyKey (refundRow command.posEnvelope command.refund).id) := by
  unfold refundThroughProvider
  cases resolved : app.resolve (some command.refund.tenderType) with
  | manualTender => exact .refl _
  | unknown code => exact .refl _
  | provider provider =>
    obtain ⟨same, _⟩ := AppState.resolve_provider resolved
    obtain rfl := Option.some.inj same
    dsimp only
    split
    · exact .refl _
    next notCash =>
      have moves : movesMoney app command.refund.tenderType = true := decide_eq_true ⟨resolved, notCash⟩
      cases originalOrderId with
      | none => exact .refl _
      | some orderId =>
        apply Rules.safe_andThen
        apply Rules.safe_orThrow
        refine hosts.read ⟨rfl, fun _ => trivial⟩ (fun _ _ => query_world ..) fun later choice grows => ?_
        simp only [perform, query]
        cases choice.storageFailure with
        | some error => exact grows
        | none =>
          cases stored : (hub later).db.orders.find? (·.orderId = orderId) with
          | none => exact grows
          | some order =>
            dsimp only
            cases payment : refundablePayment command.refund.tenderType order with
            | none => exact grows
            | some paymentId =>
              apply Rules.safe_andThen
              refine hosts.ask (fun _ _ => by simp) (fun last more => hosts.refunds ?_) fun after answer more => ?_
              · refine ⟨orderId, order, terms (refundRow command.posEnvelope command.refund), ?_⟩
                exact
                  { original := (more.returns _).trans ((grows.returns _).trans original)
                    stored := by rw [orderOf, more.orders]; exact stored
                    moves := moves, payment := payment
                    reserved := more.intents _ (grows.intents _ reserved)
                    own := rfl, tender := rfl, id := rfl, request := rfl }
              · cases answer <;> exact grows.trans more

theorem completeRefund_safe (hosts : Hosts rules providers hub app command) {originalOrderId : Option Uuid}
    {recorded : Bool}
    (original : originalOrder command.refund.returnId (hub world).db = originalOrderId)
    (reserved : terms (refundRow command.posEnvelope command.refund) ∈ (hub world).db.returns.refundIntents) :
    rules.Safe (fun _ _ => True) world
      (completeRefund app command.posEnvelope command.refund originalOrderId recorded) := by
  unfold completeRefund
  dsimp only
  split
  · trivial
  · apply Rules.safe_andThen
    apply Rules.safe_mapError
    apply (refundThroughProvider_safe hosts original reserved).mono
    rintro after (failure | reference) grows
    · trivial
    · apply Rules.safe_orThrow
      refine hosts.ask (fun _ _ => by simp)
        (fun _ more => hosts.serves rfl (more.intents _ (grows.intents _ reserved))) fun last answer _ => ?_
      cases answer <;> trivial

theorem refundTender_safe (hosts : Hosts rules providers hub app command) :
    rules.Safe (fun _ _ => True) world (refundTender app command.posEnvelope command.refund) := by
  apply Rules.safe_andThen
  apply (loadSnapshot_safe hosts _ _).mono
  rintro loaded (errors | snapshot) ⟨_, known⟩
  · trivial
  · dsimp only
    split
    · trivial
    · apply Rules.safe_andThen
      apply Rules.safe_mapError
      apply (prepareRefund_safe hosts _ _).mono
      rintro prepared (error | recorded) ⟨grows, reserved⟩
      · trivial
      · apply Rules.safe_andThen
        have original : originalOrder command.refund.returnId (hub prepared).db = snapshot.row.originalOrderId :=
          (grows.returns _).trans (known snapshot rfl)
        apply (completeRefund_safe hosts original (reserved recorded rfl)).mono
        rintro after (errors | _) _
        · trivial
        · apply Rules.safe_andThen
          apply (loadSnapshot_safe hosts _ _).mono
          rintro last (errors | snapshot) _ <;> trivial

end Commands

section Requests
variable {Answer Setting : Type} {rules : Rules Request Request.Reply Setting (Choice Answer)} {app : AppState}
  {envelope : PosRequestEnvelope} {world : Setting}

theorem executePosCommand_safe (execute : ∀ world, rules.Safe (fun _ _ => True) world (executeCommand app envelope)) :
    rules.Safe (fun _ _ => True) world (executePosCommand app envelope) := by
  unfold executePosCommand
  split
  · trivial
  · apply Rules.Safe.bind
    apply (execute world).mono
    rintro after (errors | payload) _ <;> trivial

/-- Responses are looked up before a command is executed, and stored after it. -/
theorem executeOnce_safe (execute : ∀ world, rules.Safe (fun _ _ => True) world (executeCommand app envelope))
    (looksUp : ∀ world frame key, rules.grants world ⟨frame, .getResponse key⟩)
    (stores : ∀ world frame key response, rules.grants world ⟨frame, .setResponse key response⟩) :
    rules.Safe (fun _ _ => True) world (executeOnce app envelope) := by
  have executes (later : Setting) : rules.Safe (fun _ _ => True) later
      (executePosCommand app envelope >>= storeResponse (Frame.ofKey (some envelope.idempotencyKey))) := by
    apply Rules.Safe.bind
    apply (executePosCommand_safe execute).mono
    intro after response _
    unfold storeResponse
    split
    · exact fun last _ _ => ⟨stores .., fun _ _ _ => trivial⟩
    · trivial
  intro later _ _
  refine ⟨looksUp .., fun _ choice _ => ?_⟩
  generalize rules.perform choice later _ = answered
  obtain ⟨stored, after⟩ := answered
  rcases stored with error | none | replayed
  · exact executes after
  · exact executes after
  · trivial

theorem handlePosCommand_safe {boundRegister : Option Uuid}
    (execute : ∀ world, rules.Safe (fun _ _ => True) world (executeCommand app envelope))
    (looksUp : ∀ world frame key, rules.grants world ⟨frame, .getResponse key⟩)
    (stores : ∀ world frame key response, rules.grants world ⟨frame, .setResponse key response⟩) :
    rules.Safe (fun _ _ => True) world (handlePosCommand app boundRegister envelope) := by
  unfold handlePosCommand
  dsimp only
  split
  · trivial
  · split
    · trivial
    · split
      · trivial
      · exact executeOnce_safe execute looksUp stores

end Requests
end ApexEdge.Proofs.Refunding
