import ApexEdge.Proofs.Attempts
import ApexEdge.Proofs.Refunding
import ApexEdge.Proofs.StripePosts

/-! What has been posted to Stripe under one Idempotency-Key. An authorization that gets
a payment intent posts it to the reader under the key that it was created with; all
other keys are kept apart by the operation, the command and the intent they are for. -/

namespace ApexEdge.Proofs.ProviderKeys
open Library Payment Domain Storage Contracts Hub
open Refunding StripePosts StripeErrors StepEffects

/-- What an AddPayment command asks to be paid. -/
def payContext (command : PayCommand) : TakePaymentContext :=
  { idempotencyKey := command.envelope.idempotencyKey, storeId := command.envelope.storeId
    registerId := command.envelope.registerId, cartId := command.payment.cartId
    tenderId := command.payment.tenderId, amountCents := command.payment.amountCents
    tipAmountCents := command.payment.tipAmountCents, requestedProvider := command.payment.provider }

def authorizationOf (app : AppState) (command : PayCommand) : AuthorizeRequest :=
  (payContext command).authorizeRequest app.currency

/-- Commands that repeat a key and a tender repeat the terms. -/
def RepeatsTerms (app : AppState) (tasks : PaymentTask → Prop) : Prop :=
  ∀ first second : PayCommand, tasks (.pay first) → tasks (.pay second) →
    first.envelope.idempotencyKey = second.envelope.idempotencyKey →
    first.payment.tenderId = second.payment.tenderId → authorizationOf app first = authorizationOf app second

/-- The void finds its intent on the side of the capture that this earlier POST was for. -/
def SameSide (found : Option String) (earlier : Post) : Prop :=
  (found = some "succeeded" → earlier.path = "/v1/refunds") ∧ (StripeTerminal.cancellable found → earlier.path ≠ "/v1/refunds")

instance (found : Option String) (earlier : Post) : Decidable (SameSide found earlier) :=
  inferInstanceAs (Decidable (_ ∧ _))

/-- No authorization is told of its payment intent, and the voids of one intent that post
find it all captured or all not. -/
def singlePosts : Condition PaymentRequest (World (List Post)) (Choice StripeAnswer) :=
  { step := fun world _ request choice =>
      match request.op.call with
      | .authorize _ wanted => (answeredId wanted choice.answer.http).toBool = false
      | .void _ wanted => ∀ earlier ∈ world.remote, earlier.key = wanted.idempotencyKey →
          SameSide (foundStatus wanted choice.answer.http) earlier
      | _ => True
    drop := fun _ _ _ => True }

instance (world : World (List Post)) (others : List PaymentRequest) (request : PaymentRequest)
    (choice : Choice StripeAnswer) : Decidable (singlePosts.step world others request choice) := by
  unfold singlePosts
  dsimp only
  split <;> infer_instance

instance (world : World (List Post)) (others : List PaymentRequest) (request : PaymentRequest) :
    Decidable (singlePosts.drop world others request) := inferInstanceAs (Decidable True)

/-- An intent keeps the provider's id for its payment. -/
structure Tidy (before after : Db) : Prop extends Grows before after where
  payments : ∀ row ∈ before.paymentIntents, ∃ later ∈ after.paymentIntents,
    later.id = row.id ∧ later.providerPaymentId = row.providerPaymentId

/-- The intent is in the ledger, under this payment id. -/
def Names (id : Uuid) (paymentId : Option String) (db : Db) : Prop :=
  ∃ row ∈ db.paymentIntents, row.id = id ∧ row.providerPaymentId = paymentId

/-- What the commands and sweeps ask for while no authorization is told of its intent. -/
def grants (app : AppState) (tasks : PaymentTask → Prop) (world : World (List Post)) (request : PaymentRequest) : Prop :=
  match request.op.call with
  | .authorize _ wanted => ∃ command, tasks (.pay command) ∧ wanted = authorizationOf app command
  | .void _ wanted => Names wanted.idempotencyKey (some wanted.providerPaymentId) world.db ∧
      wanted.reason = some "sale did not complete"
  | .refund provider wanted => ∃ command, Stands app world.db ⟨command, provider, wanted⟩
  | .insertPaymentIntent id _ => ∃ bits, id = .random bits
  | .flagPaymentIntentForReversal id paymentId _ => ∀ named ∈ paymentId, Names id (some named) world.db
  | .capture .. | .markPaymentIntentCaptured .. | .insertOrderLedgerEntryWithOutbox .. => False
  | _ => True

/-- Where a POST comes from. -/
inductive Justified (app : AppState) (tasks : PaymentTask → Prop) (db : Db) : Post → Prop where
  | created (command : PayCommand) : tasks (.pay command) →
      Justified app tasks db (createPost (authorizationOf app command))
  | voided (row : PaymentIntentRow) (paymentId : String) (found : Option String) (post : Post) :
      row ∈ db.paymentIntents → row.providerPaymentId = some paymentId →
      voidPost (voidRequest row paymentId) found = some post → Justified app tasks db post
  | refunded (refund : RequestedRefund) : Stands app db refund → Justified app tasks db (refundPost refund.request)

/-- What has been posted, and the ids that its keys are made of. -/
structure Sent (app : AppState) (tasks : PaymentTask → Prop) (world : World (List Post)) : Prop where
  ids : (world.db.paymentIntents.map (·.id)).Nodup
  drawn : ∀ row ∈ world.db.paymentIntents, ∃ bits, row.id = .random bits
  reservations : (world.db.returns.refundIntents.map (·.id)).Nodup
  justified : ∀ post ∈ world.remote, Justified app tasks world.db post
  /-- The voids of one intent have posted to one endpoint. -/
  sides : ∀ first ∈ world.remote, ∀ second ∈ world.remote, first.key = second.key →
    (∃ bits, first.key = .random bits) → first.path = second.path

def keys (app : AppState) (config : StripeTerminal.Config) (tasks : PaymentTask → Prop) :
    Rules PaymentRequest (Tagged.Reply Request.Reply) (World (List Post)) (Choice StripeAnswer) :=
  { perform := performPayment config
    condition := singlePosts
    invariant := Sent app tasks
    interference := fun before after => Tidy before.db after.db
    grants := grants app tasks }

section Tidy
variable {first second third : Db}

theorem Tidy.refl (db : Db) : Tidy db db := ⟨.refl db, fun row member => ⟨row, member, rfl, rfl⟩⟩

theorem Tidy.trans (once : Tidy first second) (again : Tidy second third) : Tidy first third where
  toGrows := once.toGrows.trans again.toGrows
  payments row member := by
    obtain ⟨between, present, id, payment⟩ := once.payments row member
    obtain ⟨later, stored, same, kept⟩ := again.payments between present
    exact ⟨later, stored, same.trans id, kept.trans payment⟩

theorem Names.later {id : Uuid} {paymentId : Option String} (tidy : Tidy first second) (names : Names id paymentId first) :
    Names id paymentId second := by
  obtain ⟨row, member, rfl, rfl⟩ := names
  exact tidy.payments row member

theorem Justified.later {app : AppState} {tasks : PaymentTask → Prop} {post : Post} (tidy : Tidy first second)
    (justified : Justified app tasks first post) : Justified app tasks second post := by
  cases justified with
  | created command started => exact .created command started
  | refunded refund stands => exact .refunded refund (stands.grow tidy.toGrows)
  | voided row paymentId found _ member named voids =>
    obtain ⟨later, stored, id, kept⟩ := tidy.payments row member
    refine .voided later paymentId found post stored (kept.trans named) ?_
    rw [show voidRequest later paymentId = voidRequest row paymentId by simp only [voidRequest, id]]
    exact voids

end Tidy

section Keys
variable {app : AppState} {tasks : PaymentTask → Prop} {db : Db}

/-- Voids that find their intent on one side post to one endpoint. -/
theorem voids_together {request : VoidRequest} {found later : Option String} {earlier post : Post}
    (once : voidPost request found = some earlier) (again : voidPost request later = some post)
    (same : SameSide later earlier) : earlier.path = post.path := by
  rcases voidPost_cases again with ⟨settled, rfl⟩ | ⟨held, rfl⟩
  · exact same.1 settled
  · rcases voidPost_cases once with ⟨_, rfl⟩ | ⟨_, rfl⟩
    · exact absurd rfl (same.2 held)
    · rfl

theorem refund_key {refund : RequestedRefund} (stands : Stands app db refund) :
    ∃ intent, refund.request.idempotencyKey = .named refund.command.envelope.idempotencyKey intent "refund" := by
  obtain ⟨_, _, _, sanctioned⟩ := stands
  exact ⟨_, congrArg RefundRequest.idempotencyKey sanctioned.request⟩

/-- Only a void of this intent posts under its id. -/
theorem Justified.voids (ids : (db.paymentIntents.map (·.id)).Nodup) {post : Post} (justified : Justified app tasks db post)
    {row : PaymentIntentRow} (member : row ∈ db.paymentIntents) {paymentId : String}
    (named : row.providerPaymentId = some paymentId) (drawn : ∃ bits, row.id = .random bits) (key : post.key = row.id) :
    ∃ found, voidPost (voidRequest row paymentId) found = some post := by
  obtain ⟨bits, random⟩ := drawn
  rw [random] at key
  cases justified with
  | created command => cases key
  | refunded refund stands =>
    obtain ⟨_, own⟩ := refund_key stands
    cases own.symm.trans key
  | voided other otherId found _ present known posts =>
    have same : other.id = row.id := (voidPost_key posts).symm.trans (key.trans random.symm)
    obtain rfl : other = row := List.inj_on_of_nodup_map ids present member same
    obtain rfl : otherId = paymentId := Option.some.inj (known.symm.trans named)
    exact ⟨found, posts⟩

/-- Refunds that are requested under one key are one refund. -/
theorem refunds_alike (reservations : (db.returns.refundIntents.map (·.id)).Nodup) {first second : RequestedRefund}
    (once : Stands app db first) (again : Stands app db second)
    (key : first.request.idempotencyKey = second.request.idempotencyKey) : first.request = second.request := by
  obtain ⟨orderId, order, intent, one⟩ := once
  obtain ⟨otherId, otherOrder, other, two⟩ := again
  rw [one.request, two.request] at key
  obtain ⟨envelope, sameId, _⟩ := Uuid.named.inj key
  obtain rfl : intent = other := List.inj_on_of_nodup_map reservations one.reserved two.reserved sameId
  have provider : first.provider = second.provider := one.tender.symm.trans two.tender
  have original := two.original
  rw [← two.own, one.own, one.original, Option.some.injEq] at original
  subst original
  obtain rfl : order = otherOrder := Option.some.inj (one.stored.symm.trans two.stored)
  have payment := two.payment
  rw [← provider, one.payment, Option.some.injEq] at payment
  rw [one.request, two.request, envelope, payment]

/-- What has been posted under one key is one request. -/
theorem Sent.unambiguous {world : World (List Post)} (sent : Sent app tasks world) (repeats : RepeatsTerms app tasks)
    {first second : Post} (member : first ∈ world.remote) (again : second ∈ world.remote)
    (key : first.key = second.key) : first.path = second.path ∧ first.form = second.form := by
  suffices same : first = second by simp [same]
  cases sent.justified first member with
  | voided row paymentId found _ stored named posts =>
    have drawn := sent.drawn row stored
    have own : first.key = row.id := voidPost_key posts
    obtain ⟨later, posted⟩ := (sent.justified second again).voids sent.ids stored named drawn (key ▸ own)
    exact voids_alike posts posted (sent.sides first member second again key (own ▸ drawn))
  | created command started =>
    cases sent.justified second again with
    | created other starts =>
      obtain ⟨envelope, tender, _⟩ := Uuid.named.inj key
      rw [repeats command other started starts envelope tender]
    | voided row paymentId found _ stored named posts =>
      obtain ⟨bits, random⟩ := sent.drawn row stored
      cases key.trans ((voidPost_key posts).trans random)
    | refunded refund stands =>
      obtain ⟨intent, own⟩ := refund_key stands
      have operation := (Uuid.named.inj (key.trans own)).2.2
      exact absurd operation (by decide)
  | refunded refund stands =>
    obtain ⟨intent, own⟩ := refund_key stands
    cases sent.justified second again with
    | created other starts =>
      have operation := (Uuid.named.inj (own.symm.trans key)).2.2
      exact absurd operation (by decide)
    | voided row paymentId found _ stored named posts =>
      obtain ⟨bits, random⟩ := sent.drawn row stored
      cases own.symm.trans (key.trans ((voidPost_key posts).trans random))
    | refunded other stand => rw [refunds_alike sent.reservations stands stand key]

end Keys

section Steps
variable {app : AppState} {config : StripeTerminal.Config} {tasks : PaymentTask → Prop} {choice : Choice StripeAnswer}
  {world : World (List Post)} {request : PaymentRequest}

theorem rowAfter_id (choice : Choice StripeAnswer) (call : Call) (row : PaymentIntentRow) :
    (rowAfter choice call row).id = row.id := congrArg Prod.fst (rowAfter_identity choice call row)

theorem tidy_after (granted : grants app tasks world request) (ids : (world.db.paymentIntents.map (·.id)).Nodup) :
    Tidy world.db (perform (stripe config) choice world request.op).2.db where
  toGrows := by
    apply perform_grows
    intro entry outboxId called
    simp [grants, called] at granted
  payments row member := by
    refine ⟨_, mem_perform_intents.mpr (.inl ⟨row, member, rfl⟩), ?_, ?_⟩
    · exact rowAfter_id choice request.op.call row
    · rcases rowAfter_cases choice request.op.call row with same | ⟨_, change⟩
      · rw [same]
      · cases change with
        | captured paymentId cents called => simp [grants, called] at granted
        | flagged paymentId reason called _ became =>
          rw [became]
          cases paymentId with
          | none => rfl
          | some named =>
            simp only [grants, called] at granted
            obtain ⟨other, present, id, known⟩ := granted named rfl
            obtain rfl : other = row := List.inj_on_of_nodup_map ids present member id
            exact known.symm
        | _ => assumption

theorem ids_after (sent : Sent app tasks world) :
    ((perform (stripe config) choice world request.op).2.db.paymentIntents.map (·.id)).Nodup := by
  apply nodup_after _ (rowAfter_id choice request.op.call) sent.ids
  intro row member new opens
  obtain ⟨_, _, _, _, free⟩ := opened_cases opens
  have apart := List.any_eq_false.mp free row member
  simp only [decide_eq_true_eq, not_or] at apart
  exact apart.1

theorem drawn_after (sent : Sent app tasks world) (granted : grants app tasks world request) :
    ∀ row ∈ (perform (stripe config) choice world request.op).2.db.paymentIntents, ∃ bits, row.id = .random bits := by
  intro after member
  rcases mem_perform_intents.mp member with ⟨row, present, rfl⟩ | opens
  · rw [rowAfter_id]
    exact sent.drawn row present
  · obtain ⟨id, input, called, rfl, _⟩ := opened_cases opens
    simp only [grants, called] at granted
    exact granted

theorem reservations_after (sent : Sent app tasks world) :
    ((perform (stripe config) choice world request.op).2.db.returns.refundIntents.map (·.id)).Nodup := by
  rcases perform_reservations (stripe config) choice world request.op with same | ⟨refund, _, _, _, fresh, added⟩
  · rw [same]
    exact sent.reservations
  · rw [added, List.map_append, List.nodup_append]
    refine ⟨sent.reservations, by simp, ?_⟩
    intro id member other last
    obtain ⟨intent, present, rfl⟩ := List.mem_map.mp member
    have apart := List.any_eq_false.mp fresh intent present
    rw [show other = refund.id by simpa using last]
    simpa using apart

/-- An authorization that is not told of its intent ends with an error that names none. -/
theorem authorize_untold (config : StripeTerminal.Config) (world : World (List Post)) (frame : Frame)
    (provider : String) {wanted : AuthorizeRequest}
    (untold : (answeredId wanted choice.answer.http).toBool = false) :
    let answered := perform (stripe config) choice world ⟨frame, .authorize provider wanted⟩
    ∃ error, error.indeterminatePaymentId = none ∧ answered.1 = .error error ∧
      (answered.2.remote = world.remote ∨ answered.2.remote = world.remote ++ [createPost wanted]) := by
  cases told : answeredId wanted choice.answer.http with
  | ok id => simp [told, Except.toBool] at untold
  | error error =>
    obtain ⟨reason, nameless, ended⟩ := authorize_unnamed config world.remote told
    refine ⟨reason, nameless, ?_⟩
    simp only [perform, stripe]
    rcases ended with same | created
    · rw [same]
      exact ⟨rfl, .inl rfl⟩
    · rw [created]
      exact ⟨rfl, .inr rfl⟩

/-- Whatever a granted request posts stands on what it is granted. -/
theorem posts_after (sent : Sent app tasks world) (granted : grants app tasks world request) {others : List PaymentRequest}
    (meets : singlePosts.step world others request choice) :
    (perform (stripe config) choice world request.op).2.remote = world.remote ∨
      ∃ post, (perform (stripe config) choice world request.op).2.remote = world.remote ++ [post] ∧
        Justified app tasks world.db post ∧
        ∀ earlier ∈ world.remote, earlier.key = post.key → (∃ bits, post.key = .random bits) →
          earlier.path = post.path := by
  obtain ⟨tag, frame, call⟩ := request
  cases call
  case authorize provider wanted =>
    obtain ⟨command, started, rfl⟩ := granted
    obtain ⟨_, _, _, same | created⟩ := authorize_untold config world frame provider meets
    · exact .inl same
    · refine .inr ⟨_, created, .created command started, ?_⟩
      rintro _ _ _ ⟨bits, impossible⟩
      cases impossible
  case void provider wanted =>
    simp only [perform, stripe, void_posts]
    cases posts : voidPost wanted (foundStatus wanted choice.answer.http) with
    | none => exact .inl (by simp)
    | some post =>
      obtain ⟨⟨row, member, id, named⟩, reason⟩ := granted
      obtain ⟨key, paymentId, wantedReason⟩ := wanted
      obtain rfl : row.id = key := id
      obtain rfl : wantedReason = some "sale did not complete" := reason
      refine .inr ⟨post, by simp, .voided row paymentId _ post member named posts, ?_⟩
      intro earlier before same _
      have own : earlier.key = row.id := same.trans (voidPost_key posts)
      obtain ⟨found, earlierPosts⟩ :=
        (sent.justified earlier before).voids sent.ids member named (sent.drawn row member) own
      exact voids_together earlierPosts posts (meets earlier before own)
  case refund provider wanted =>
    obtain ⟨command, stands⟩ := granted
    simp only [perform, stripe]
    rcases refund_posts world.remote choice.answer wanted with same | added
    · exact .inl same
    · refine .inr ⟨_, added, .refunded _ stands, ?_⟩
      obtain ⟨_, _, _, sanctioned⟩ := stands
      rintro _ _ _ ⟨bits, impossible⟩
      rw [refundPost, show wanted = _ from sanctioned.request] at impossible
      cases impossible
  all_goals first
    | exact .inl (perform_remote (stripe config) choice world ⟨frame, _⟩)
    | cases granted

theorem sent_after (sent : Sent app tasks world) (granted : grants app tasks world request) {others : List PaymentRequest}
    (meets : singlePosts.step world others request choice) :
    Sent app tasks (perform (stripe config) choice world request.op).2 := by
  have tidy : Tidy world.db (perform (stripe config) choice world request.op).2.db := tidy_after granted sent.ids
  refine ⟨ids_after sent, drawn_after sent granted, reservations_after sent, ?_, ?_⟩ <;>
    rcases posts_after sent granted meets with same | ⟨post, added, justified, side⟩
  · rw [same]
    exact fun post member => (sent.justified post member).later tidy
  · rw [added]
    intro other member
    rcases List.mem_append.mp member with old | new
    · exact (sent.justified other old).later tidy
    · rw [List.mem_singleton.mp new]
      exact justified.later tidy
  · rw [same]
    exact sent.sides
  · rw [added]
    intro first member second again equal drawn
    rcases List.mem_append.mp member with old | new <;> rcases List.mem_append.mp again with old' | new'
    · exact sent.sides first old second old' equal drawn
    · obtain rfl := List.mem_singleton.mp new'
      exact side first old equal (equal ▸ drawn)
    · obtain rfl := List.mem_singleton.mp new
      exact (side second old' equal.symm drawn).symm
    · rw [List.mem_singleton.mp new, List.mem_singleton.mp new']

theorem keys_assured : (keys app config tasks).Assured where
  refl world := .refl world.db
  trans := Tidy.trans
  step _ _ _ _ sent granted meets := ⟨sent_after sent granted meets, tidy_after granted sent.ids⟩

end Steps

section Commands
variable {app : AppState} {config : StripeTerminal.Config} {tasks : PaymentTask → Prop} {tag : PaymentTask}
  {world : World (List Post)} {ε : Type}

theorem keys_reply {frame : Frame} {call : Call} {post : World (List Post) → Except ε call.Reply → Prop}
    (granted : ∀ later : World (List Post), Tidy world.db later.db → grants app tasks later ⟨tag, ⟨frame, call⟩⟩)
    (rest : ∀ (later : World (List Post)) choice, Tidy world.db later.db →
      (∃ others, singlePosts.step later others ⟨tag, ⟨frame, call⟩⟩ choice) →
      Tidy later.db (perform (stripe config) choice later ⟨frame, call⟩).2.db →
      post (perform (stripe config) choice later ⟨frame, call⟩).2
        (.ok (perform (stripe config) choice later ⟨frame, call⟩).1)) :
    ((keys app config tasks).at tag).Safe post world (reply frame call : Action ε call.Reply) :=
  fun later sent tidy => ⟨granted later tidy, fun _ choice meets =>
    rest later choice tidy meets (tidy_after (granted later tidy) sent.ids)⟩

/-- Whatever is answered, what was known stays known. -/
theorem keys_ask {frame : Frame} {call : Call} {post : World (List Post) → Except ε call.Reply → Prop}
    (granted : ∀ later : World (List Post), Tidy world.db later.db → grants app tasks later ⟨tag, ⟨frame, call⟩⟩)
    (rest : ∀ (after : World (List Post)) answer, Tidy world.db after.db → post after (.ok answer)) :
    ((keys app config tasks).at tag).Safe post world (reply frame call : Action ε call.Reply) :=
  keys_reply granted fun _ _ tidy _ more => rest _ _ (tidy.trans more)

/-- An intent that a command has read or opened is in the ledger. -/
theorem insertPaymentIntent_safe (frame : Frame) (input : NewPaymentIntent) :
    ((keys app config tasks).at tag).Safe (fun after result => Tidy world.db after.db ∧
      ∀ intent : PaymentIntentRow, result = .ok intent → Names intent.id intent.providerPaymentId after.db) world
      (insertPaymentIntent frame input) := by
  apply Rules.safe_andThen
  apply Rules.safe_orThrow
  refine keys_reply (fun _ _ => trivial) fun later choice tidy _ more => ?_
  generalize answered : (perform (stripe config) choice later
    ⟨frame, .findPaymentIntent input.idempotencyKey input.provider input.tenderId⟩).1 = found
  rcases found with error | none | row
  · exact ⟨tidy.trans more, fun _ impossible => by cases impossible⟩
  · apply Rules.safe_andThen
    refine keys_reply (fun _ _ => trivial) fun drawing drew again _ unchanged => ?_
    apply Rules.safe_orThrow
    refine keys_reply (fun _ _ => ⟨_, rfl⟩) fun last chosen before _ after => ?_
    generalize inserted : (perform (stripe config) chosen last ⟨frame, .insertPaymentIntent _ input⟩).1 = outcome
    have all := tidy.trans (more.trans (again.trans (unchanged.trans (before.trans after))))
    cases outcome with
    | error error => exact ⟨all, fun _ impossible => by cases impossible⟩
    | ok intent =>
      refine ⟨all, ?_⟩
      rintro _ ⟨⟩
      obtain ⟨opens, same⟩ := inserted_intent inserted
      exact ⟨_, mem_perform_intents.mpr (.inr opens), by rw [same], by rw [same]⟩
  · obtain ⟨member, _⟩ := found_intent answered
    refine ⟨tidy.trans more, ?_⟩
    rintro _ ⟨⟩
    exact more.payments row member

/-- A tender in hand names its intent as the ledger does. -/
def Held (tender : CapturedTender) (db : Db) : Prop :=
  ∀ intent ∈ tender.intentId, ∀ named ∈ tender.providerPaymentId, Names intent (some named) db

theorem Held.later {tender : CapturedTender} {first second : Db} (tidy : Tidy first second)
    (held : Held tender first) : Held tender second :=
  fun intent own named known => (held intent own named known).later tidy

theorem authorizeIntent_safe {frame : Frame} {command : PayCommand} (started : tasks (.pay command)) (provider : String)
    (intent : PaymentIntentRow) :
    ((keys app config tasks).at tag).Safe (fun after result => ∀ tender : CapturedTender, result = .ok tender →
      Held tender after.db) world (authorizeIntent app frame (payContext command) provider intent) := by
  apply Rules.safe_andThen
  refine keys_reply (fun _ _ => ⟨command, started, rfl⟩) fun later choice _ meets _ => ?_
  obtain ⟨_, untold⟩ := meets
  obtain ⟨error, nameless, failed, _⟩ := authorize_untold config later
    { frame with paying := some ⟨intent.id, provider, command.payment.tenderId, none⟩ } provider untold
  simp only [payContext] at failed ⊢
  rw [failed]
  dsimp only
  split
  · apply Rules.safe_andThen
    refine keys_ask (fun _ _ => ?_) fun _ _ _ => fun _ impossible => by cases impossible
    rw [nameless]
    exact fun _ impossible => by cases impossible
  · apply Rules.safe_andThen
    exact keys_ask (fun _ _ => trivial) fun _ _ _ => fun _ impossible => by cases impossible

theorem takePayment_safe {frame : Frame} {command : PayCommand} (started : tasks (.pay command)) :
    ((keys app config tasks).at tag).Safe (fun after result => ∀ tender : CapturedTender, result = .ok tender →
      Held tender after.db) world (takePayment app frame (payContext command)) := by
  unfold takePayment
  cases app.resolve (payContext command).requestedProvider with
  | manualTender =>
    rintro _ ⟨⟩ _ impossible
    cases impossible
  | unknown code => exact fun _ impossible => by cases impossible
  | provider provider =>
    apply Rules.safe_andThen
    apply Rules.safe_mapError
    apply (insertPaymentIntent_safe _ _).mono
    rintro after (error | intent) ⟨_, known⟩
    · exact fun _ impossible => by cases impossible
    · dsimp only
      split
      · rintro _ ⟨⟩ _ ⟨⟩ named listed
        have names := known intent rfl
        rwa [show intent.providerPaymentId = some named from listed] at names
      · exact authorizeIntent_safe started provider intent

theorem flagCapturedTender_safe {frame : Frame} {tender : CapturedTender} {reason : String}
    (held : Held tender world.db) :
    ((keys app config tasks).at tag).Safe (fun _ _ => True) world
      (flagCapturedTenderForReversal frame tender reason) := by
  unfold flagCapturedTenderForReversal
  cases own : tender.intentId with
  | none => trivial
  | some intent =>
    apply Rules.safe_andThen
    refine keys_ask (fun later tidy => ?_) fun _ _ _ => trivial
    exact fun named listed => (held intent own named listed).later tidy

theorem lookupCustomer_safe {frame : Frame} {storeId : Uuid} {cart : Cart} :
    ((keys app config tasks).at tag).Safe (fun _ _ => True) world (lookupCustomer frame storeId cart) := by
  unfold lookupCustomer
  split
  · trivial
  · apply Rules.safe_andThen
    refine keys_ask (fun _ _ => trivial) fun _ answer _ => ?_
    cases answer <;> trivial

theorem lookupPromos_safe {frame : Frame} {storeId : Uuid} {cart : Cart} :
    ((keys app config tasks).at tag).Safe (fun _ _ => True) world (lookupPromos frame storeId cart) := by
  unfold lookupPromos
  split
  · trivial
  · apply Rules.safe_andThen
    exact keys_ask (fun _ _ => trivial) fun _ answer _ => trivial

theorem buildCartState_safe {frame : Frame} {storeId : Uuid} {cart : Cart} :
    ((keys app config tasks).at tag).Safe (fun _ _ => True) world (buildCartState frame storeId cart) := by
  apply Rules.safe_andThen
  apply lookupCustomer_safe.mono
  rintro after (errors | customer) _
  · trivial
  · apply Rules.safe_andThen
    apply lookupPromos_safe.mono
    rintro last (errors | promos) _ <;> trivial

theorem recordPayment_safe {envelope : PosRequestEnvelope} {p : AddPaymentPayload} {cart : Cart} {now : Timestamp}
    {tender : CapturedTender} (held : Held tender world.db) :
    ((keys app config tasks).at tag).Safe (fun _ _ => True) world
      (recordPayment app envelope p cart now tender) := by
  unfold recordPayment
  dsimp only
  split
  · apply Rules.safe_andThen
    apply (flagCapturedTender_safe held).mono
    rintro after (errors | _) _ <;> trivial
  · apply Rules.safe_andThen
    refine keys_ask (fun _ _ => trivial) fun after saved tidy => ?_
    cases saved with
    | error error =>
      apply Rules.safe_andThen
      apply (flagCapturedTender_safe (held.later tidy)).mono
      rintro last (errors | _) _ <;> trivial
    | ok done => exact buildCartState_safe

theorem addPayment_safe {command : PayCommand} (started : tasks (.pay command)) :
    ((keys app config tasks).at tag).Safe (fun _ _ => True) world
      (addPayment app command.posEnvelope command.payment) := by
  apply Rules.safe_andThen
  apply Rules.safe_andThen
  refine keys_ask (fun _ _ => trivial) fun loaded found _ => ?_
  rcases found with error | none | cart
  · trivial
  · trivial
  · apply Rules.safe_andThen
    refine keys_ask (fun _ _ => trivial) fun clocked now _ => ?_
    apply Rules.safe_andThen
    apply Rules.safe_mapError
    apply (takePayment_safe started).mono
    rintro taken (failure | tender) held
    · trivial
    · exact recordPayment_safe (held tender rfl)

theorem recordReversalFailure_safe {frame : Frame} {intent : PaymentIntentRow} {error : String} :
    ((keys app config tasks).at tag).Safe (fun after _ => Tidy world.db after.db) world
      (recordReversalFailure frame intent error) := by
  apply Rules.safe_orThrow
  refine keys_ask (fun _ _ => trivial) fun after answer tidy => ?_
  cases answer <;> exact tidy

/-- The rows that a sweep works on keep their payment ids while it does. -/
theorem reverseOwed_safe {owed : List PaymentIntentRow} {reversed : Nat}
    (known : ∀ row ∈ owed, Names row.id row.providerPaymentId world.db) :
    ((keys app config tasks).at tag).Safe (fun _ _ => True) world (reverseOwed app owed reversed) := by
  induction owed generalizing world reversed with
  | nil => trivial
  | cons intent rest ih =>
    have others {later : World (List Post)} (tidy : Tidy world.db later.db) :
        ∀ row ∈ rest, Names row.id row.providerPaymentId later.db :=
      fun row member => (known row (List.mem_cons_of_mem _ member)).later tidy
    have own := known intent List.mem_cons_self
    unfold reverseOwed
    dsimp only
    split
    · apply Rules.safe_andThen
      apply Rules.safe_orThrow
      refine keys_ask (fun _ _ => trivial) fun after closed tidy => ?_
      cases closed with
      | error error => trivial
      | ok done => exact ih (others tidy)
    next paymentId named =>
      rw [named] at own
      split
      · apply Rules.safe_andThen
        refine keys_ask (fun later tidy => ⟨own.later tidy, rfl⟩) fun after answer tidy => ?_
        cases answer with
        | ok done =>
          apply Rules.safe_andThen
          apply Rules.safe_orThrow
          refine keys_ask (fun _ _ => trivial) fun last closed more => ?_
          cases closed with
          | error error => trivial
          | ok done => exact ih (others (tidy.trans more))
        | error error =>
          apply Rules.safe_andThen
          apply recordReversalFailure_safe.mono
          rintro last (failure | _) more
          · trivial
          · exact ih (others (tidy.trans more))
      · apply Rules.safe_andThen
        apply recordReversalFailure_safe.mono
        rintro after (failure | _) tidy
        · trivial
        · exact ih (others tidy)
      · apply Rules.safe_andThen
        apply recordReversalFailure_safe.mono
        rintro after (failure | _) tidy
        · trivial
        · exact ih (others tidy)

theorem sweep_safe (policy : ReversalSweepPolicy) :
    ((keys app config tasks).at tag).Safe (fun _ _ => True) world (runPaymentReversalSweep app policy) := by
  apply Rules.safe_andThen
  apply Rules.safe_orThrow
  refine keys_ask (fun _ _ => trivial) fun flagged answer _ => ?_
  cases answer with
  | error error => trivial
  | ok done =>
    apply Rules.safe_andThen
    apply Rules.safe_orThrow
    refine keys_reply (fun _ _ => trivial) fun later choice _ _ more => ?_
    generalize fetched : (perform (stripe config) choice later
      ⟨sweepFrame [], .fetchPaymentIntentsAwaitingReversal policy.batch⟩).1 = found
    cases found with
    | error error => trivial
    | ok owed =>
      have known := fetched_intents fetched
      apply Rules.safe_andThen
      apply (reverseOwed_safe fun row member => more.payments row (known row member).1).mono
      rintro after (error | reversed) _
      · trivial
      · apply Rules.safe_andThen
        apply Rules.safe_orThrow
        refine keys_ask (fun _ _ => trivial) fun last counted _ => ?_
        cases counted <;> trivial

theorem keys_host (command : RefundCommand) :
    Hosts ((keys app config tasks).at (.refund command)) (stripe config) id app command where
  performs _ _ _ := ⟨rfl, rfl⟩
  stays tidy := tidy.toGrows
  serves {_ _ call} served _ := by
    show grants app tasks _ _
    cases call <;> trivial
  refunds stands := ⟨command, stands⟩

theorem task_safe {task : PaymentTask} (started : tasks task) (world : World (List Post)) :
    (keys app config tasks).Safe (fun _ _ => True) world ((task.task.program app).tagged task) := by
  apply Rules.safe_tagged
  cases task with
  | pay command =>
    apply Rules.Safe.bind
    apply (handlePosCommand_safe (fun _ => addPayment_safe started) (fun _ _ _ => trivial) fun _ _ _ _ => trivial).mono
    exact fun _ _ _ => trivial
  | refund command =>
    apply Rules.Safe.bind
    apply (handlePosCommand_safe (fun _ => refundTender_safe (keys_host command)) (fun _ _ _ => trivial)
      fun _ _ _ _ => trivial).mono
    exact fun _ _ _ => trivial
  | sweep policy =>
    apply Rules.Safe.bind
    apply (sweep_safe policy).mono
    exact fun _ _ _ => trivial

end Commands

/-- Nothing has been posted yet, and the ledgers keep their ids apart. -/
structure Opening (world : World (List Post)) : Prop where
  ids : (world.db.paymentIntents.map (·.id)).Nodup
  drawn : ∀ row ∈ world.db.paymentIntents, ∃ bits, row.id = .random bits
  reservations : (world.db.returns.refundIntents.map (·.id)).Nodup
  unposted : world.remote = []

/-- One key, one endpoint and one form. -/
def Unambiguous (posts : List Post) : Prop :=
  ∀ first ∈ posts, ∀ second ∈ posts, first.key = second.key → first.path = second.path ∧ first.form = second.form

/-- What the events of a run start. -/
def Started (events : List (Event (Choice StripeAnswer) PaymentTask)) (task : PaymentTask) : Prop :=
  .start task ∈ events

/-- In every run of payments, refunds and sweeps in which no authorization is told of its
payment intent, repeated keys repeat the terms of the payment and the voids of an intent
stay on one side of its capture, whatever is posted under one key is one request. -/
theorem keys_unambiguous (storeId : Uuid) (currency : String) (config : StripeTerminal.Config)
    (world : World (List Post)) (opening : Opening world) (events : List (Event (Choice StripeAnswer) PaymentTask))
    (repeats : RepeatsTerms (stripeShop storeId currency) (Started events))
    (meets : singlePosts.RunMeets (payments (stripeShop storeId currency) config) (Pool.quiet world) events) :
    Unambiguous ((payments (stripeShop storeId currency) config).run (Pool.quiet world) events).world.remote := by
  have begins : Sent (stripeShop storeId currency) (Started events) world := by
    refine ⟨opening.ids, opening.drawn, opening.reservations, ?_, ?_⟩
    · simp [opening.unposted]
    · simp [opening.unposted]
  have assured : (keys (stripeShop storeId currency) config (Started events)).Assured := keys_assured
  have sent := Rules.reached assured rfl begins (fun task starts => task_safe starts) meets
  exact fun first member second again => sent.unambiguous repeats member again

section Runs
open StripeTerminal Attempts

/-- The basket of the shop is being paid, and an earlier card payment is to be given back. -/
def stranded : World (List Post) :=
  { db := { Attempts.opening.db with
      paymentIntents := [
        { id := 30, storeId := 1, registerId := 2, cartId := 9, tenderId := 20, idempotencyKey := 90
          provider := providerCode, providerPaymentId := some "pi_1", amountCents := 1000, tipAmountCents := 0
          approvedCents := 1000, state := .reversalPending, failureCode := none, orderId := none
          reversalAttempts := 0, lastError := none, createdAt := 0, updatedAt := 0 }] }
    remote := [] }

/-- Every intent is read as held, and every POST is answered so. -/
def postsAnswered (answer : HttpAnswer) : StripeAnswer :=
  { http := fun _ request =>
      match request with
      | .post .. => answer
      | .get _ => .response ⟨200, "OK"⟩ (.ok ⟨"", .ok (.object [("status", .string "requires_capture")])⟩)
    patience := 0 }

def lost : StripeAnswer := postsAnswered (.failed ⟨true, "no answer"⟩)

def named : StripeAnswer := postsAnswered (.response ⟨200, "OK"⟩ (.ok ⟨"", .ok (.object [("id", .string "pi_2")])⟩))

def tenEuros : AddPaymentPayload :=
  { cartId := 10, tenderId := 20, amountCents := 1000, tipAmountCents := 0, externalReference := none
    provider := some providerCode, providerPaymentId := none, entryMethod := none }

def cardPayment (key : Uuid) : PayCommand :=
  { boundRegister := none, payment := tenEuros
    envelope := { version := .v1_0_0, idempotencyKey := key, storeId := 1, registerId := 2
                  payload := .addPayment tenEuros } }

def payByCard (key : Uuid) : Event (Choice StripeAnswer) PaymentTask := .start (.pay (cardPayment key))

def giveBack : Event (Choice StripeAnswer) PaymentTask := .start (.sweep ⟨900, 25⟩)

/-- Answer the first program `count` times. -/
def answered (count : Nat) (answer : StripeAnswer) : List (Event (Choice StripeAnswer) PaymentTask) :=
  (List.range count).map fun step =>
    .step 0 { now := step, freshId := 500 + step, storageFailure := none, answer := answer, service := services }

/-- A payment and its retry, and two sweeps; Stripe's answers to all POST requests are lost. -/
def lostAnswers : List (Event (Choice StripeAnswer) PaymentTask) :=
  payByCard 100 :: answered 12 lost ++ payByCard 100 :: answered 12 lost ++
    giveBack :: answered 12 lost ++ giveBack :: answered 12 lost

private theorem stranded_opening : Opening stranded where
  ids := by decide
  drawn row member := by
    rw [List.mem_singleton.mp member]
    exact ⟨30, rfl⟩
  reservations := by decide
  unposted := rfl

private theorem lostAnswers_repeat : RepeatsTerms (stripeShop 1 "EUR") (Started lostAnswers) := by
  have only (command : PayCommand) (starts : Started lostAnswers (.pay command)) : command = cardPayment 100 := by
    simpa [Started, lostAnswers, payByCard, giveBack, answered] using starts
  intro first second starts again _ _
  rw [only first starts, only second again]

theorem retries_repeat_requests :
    let after := ((payments (stripeShop 1 "EUR") ⟨"tmr_1"⟩).run (Pool.quiet stranded) lostAnswers).world
    after.remote.length = 4 ∧ Unambiguous after.remote :=
  ⟨by decide +kernel,
    keys_unambiguous 1 "EUR" ⟨"tmr_1"⟩ stranded stranded_opening lostAnswers lostAnswers_repeat (by decide +kernel)⟩

/-- The intent is handed to the reader under the key that it was created with. -/
theorem authorization_reuses_key :
    ¬∀ (storeId : Uuid) (currency : String) (config : StripeTerminal.Config) (world : World (List Post)),
      Opening world → ∀ events : List (Event (Choice StripeAnswer) PaymentTask),
        Unambiguous ((payments (stripeShop storeId currency) config).run (Pool.quiet world) events).world.remote := by
  intro all
  have one := all 1 "EUR" ⟨"tmr_1"⟩ stranded stranded_opening (payByCard 100 :: answered 12 named)
  have reused : ¬Unambiguous ((payments (stripeShop 1 "EUR") ⟨"tmr_1"⟩).run (Pool.quiet stranded)
      (payByCard 100 :: answered 12 named)).world.remote := by
    unfold Unambiguous
    decide +kernel
  exact reused one

end Runs
end ApexEdge.Proofs.ProviderKeys
