import ApexEdge.Proofs.StepEffects

/-! How the programs of the hub conduct themselves: which requests are proper for
what is live, and what a program goes on with after each reply. Invariants are
proved against this, not against the programs. -/

namespace ApexEdge.Proofs.Conduct
open Library Payment Domain Storage Contracts Hub

/-- No provider of the hub stands behind the payment. -/
def Unbacked (payment : PaymentRecord) : Prop :=
  payment.provider = none ∨ payment.provider = some manualProvider

instance (payment : PaymentRecord) : Decidable (Unbacked payment) := inferInstanceAs (Decidable (_ ∨ _))

def Has (cart : Option Cart) (payment : PaymentRecord) : Prop :=
  ∃ held, cart = some held ∧ payment ∈ held.payments

/-- The cart in the frame lists only what is known, besides unbacked payments. -/
def Lists (known : PaymentRecord → Prop) (frame : Frame) : Prop :=
  ∀ payment, Has frame.cart payment → known payment ∨ Unbacked payment

def Nothing (_ : PaymentRecord) : Prop := False

/-- Nothing is live but a cart. -/
structure Idle (frame : Frame) : Prop where
  paying : frame.paying = none
  taken : frame.taken = none
  owed : frame.owed = []
  voided : frame.voided = false

structure Pays (frame : Frame) (tender : IntentTender) : Prop where
  paying : frame.paying = some tender
  taken : frame.taken = none
  owed : frame.owed = []

structure Holds (frame : Frame) (tender : IntentTender) : Prop where
  paying : frame.paying = none
  taken : frame.taken = some tender
  owed : frame.owed = []

structure Owes (frame : Frame) (intent : PaymentIntentRow) : Prop where
  paying : frame.paying = none
  taken : frame.taken = none
  cart : frame.cart = none
  owed : ∃ rest, frame.owed = intent :: rest

/-- The call agrees with what is live in the frame. -/
def Proper (request : Request) : Prop :=
  match request with
  | ⟨frame, call⟩ =>
    match call with
    | .findPaymentIntent key provider _ => Idle frame ∧ frame.key = some key ∧ provider ≠ manualProvider
    | .insertPaymentIntent _ input =>
      Idle frame ∧ frame.key = some input.idempotencyKey ∧ input.provider ≠ manualProvider
    | .authorize provider wanted =>
      ∃ tender key, Pays frame tender ∧ tender.paymentId = none ∧ tender.provider = provider ∧
        frame.key = some key ∧
        wanted.idempotencyKey = providerIdempotencyKey key tender.tenderId "authorize"
    | .capture provider wanted =>
      ∃ tender, Pays frame tender ∧ tender.paymentId = some wanted.providerPaymentId ∧
        tender.provider = provider
    | .markPaymentIntentCaptured id paymentId _ =>
      ∃ tender, Pays frame tender ∧ tender.intent = id ∧ tender.paymentId = some paymentId
    | .markPaymentIntentDeclined id _ | .markPaymentIntentFailed id _ =>
      ∃ tender, Pays frame tender ∧ tender.intent = id
    | .flagPaymentIntentForReversal id paymentId _ =>
      ∃ tender, tender.intent = id ∧ (tender.paymentId = none ∨ paymentId = tender.paymentId) ∧
        (Pays frame tender ∨ Holds frame tender ∧ paymentId = tender.paymentId)
    | .saveCart cart => frame.cart = some cart ∧ frame.paying = none ∧ frame.owed = []
    | .insertOrderLedgerEntryWithOutbox entry _ =>
      Idle frame ∧ ∃ cart, frame.cart = some cart ∧ entry.payments = cart.payments.map ledgerPayment
    | .settlePaymentIntentsForCart _ cartId _ =>
      Idle frame ∧ ∃ cart, frame.cart = some cart ∧ cart.id = cartId
    | .void provider wanted =>
      ∃ intent, Owes frame intent ∧ intent.provider = provider ∧
        intent.providerPaymentId = some wanted.providerPaymentId
    | .markPaymentIntentReversed id =>
      ∃ intent, Owes frame intent ∧ intent.id = id ∧
        (intent.providerPaymentId = none ∨ frame.voided = true)
    | .recordPaymentIntentReversalFailure id _ => ∃ intent, Owes frame intent ∧ intent.id = id
    | _ => Idle frame

/-- The cart's record of a provider-backed tender. -/
def Records (tender : IntentTender) (payment : PaymentRecord) : Prop :=
  payment.provider = some tender.provider ∧
    ∀ paymentId, tender.paymentId = some paymentId → payment.providerPaymentId = some paymentId

def GoesOn (frame : Frame) (next : Request) : Prop := Idle next.frame ∧ Lists (Has frame.cart) next.frame

def InHand (frame : Frame) (tender : IntentTender) (next : Request) : Prop :=
  Holds next.frame tender ∧
    Lists (fun payment => Has frame.cart payment ∨ Records tender payment) next.frame

/-- An intent that is captured or settled is answered from the ledger, any other is authorized. -/
def Chosen (frame : Frame) (provider : String) (tenderId : Uuid) (row : PaymentIntentRow) (next : Request) :
    Prop :=
  if row.state = .captured ∨ row.state = .settled then
    InHand frame ⟨row.id, row.provider, tenderId, row.providerPaymentId⟩ next
  else Pays next.frame ⟨row.id, provider, tenderId, none⟩ ∧ next.frame.cart = frame.cart ∧
    ∃ wanted, next.call = .authorize provider wanted

/-- What may come after a provider's error: the intent is flagged or failed. -/
def GivesUp (tender : IntentTender) (known : Option String) (error : PaymentProviderError) (next : Request) :
    Prop :=
  Pays next.frame tender ∧
    if error.requiresReversalCheck then
      ∃ reason, next.call = .flagPaymentIntentForReversal tender.intent known reason
    else ∃ message, next.call = .markPaymentIntentFailed tender.intent message

def Leads (frame : Frame) (call : Call) : call.Reply → Request → Prop :=
  match call with
  | .loadCart _ => fun
    | .ok (some cart), next => Idle next.frame ∧ Lists (· ∈ cart.payments) next.frame
    | _, next => GoesOn frame next
  | .findPaymentIntent _ provider tenderId => fun
    | .ok (some row), next => Chosen frame provider tenderId row next
    | _, next => GoesOn frame next
  | .insertPaymentIntent _ input => fun
    | .ok row, next => Chosen frame input.provider input.tenderId row next
    | _, next => GoesOn frame next
  | .authorize .. => fun
    | .error error, next => next.frame.cart = frame.cart ∧
      ∀ tender, Pays frame tender → GivesUp tender error.indeterminatePaymentId error next
    | .ok authorization, next => next.frame.cart = frame.cart ∧ ∀ tender, Pays frame tender →
      if authorization.isApproved then
        Pays next.frame { tender with paymentId := some authorization.providerPaymentId } ∧
          ∃ provider wanted, next.call = .capture provider wanted
      else Pays next.frame tender ∧ ∃ code, next.call = .markPaymentIntentDeclined tender.intent code
  | .capture .. => fun
    | .error error, next => next.frame.cart = frame.cart ∧
      ∀ tender, Pays frame tender → GivesUp tender tender.paymentId error next
    | .ok capture, next => next.frame.cart = frame.cart ∧ ∀ tender, Pays frame tender →
      Pays next.frame { tender with provider := capture.provider
                                    paymentId := some capture.providerPaymentId } ∧
        ∃ cents, next.call =
          .markPaymentIntentCaptured tender.intent capture.providerPaymentId cents
  | .markPaymentIntentCaptured .. => fun _ next => ∀ tender, Pays frame tender → InHand frame tender next
  | .saveCart _ => fun
    | .error _, next => GoesOn frame next ∨
      next.frame.cart = none ∧ ∃ tender, Holds frame tender ∧ Holds next.frame tender
    | .ok _, next => GoesOn frame next
  | .fetchPaymentIntentsAwaitingReversal _ => fun
    | .ok rows, next => (next.frame.owed = rows ∨ next.frame.owed = []) ∧
      Idle { next.frame with owed := [] } ∧ next.frame.cart = none
    | .error _, next => GoesOn frame next
  | .void .. => fun reply next => next.frame = { frame with voided := reply.isOk }
  | .markPaymentIntentReversed _ | .recordPaymentIntentReversalFailure .. => fun _ next =>
    next.frame = { frame with owed := frame.owed.tail, voided := false }
  | _ => fun _ next => GoesOn frame next

/-- A program ends only where it might have gone on without paying for anything. -/
def Rests (may : Request → Prop) : Prop := ∃ next, may next ∧ next.frame.paying = none

def conduct : Protocol Request Request.Reply :=
  { follows := fun request reply next =>
      Proper next ∧ next.frame.key = request.frame.key ∧ Leads request.frame request.call reply next
    rests := Rests }

def key (task : Task) : Option Uuid :=
  match task with
  | .command _ envelope => some envelope.idempotencyKey
  | .sweep _ => none

/-- What a task begins with. -/
def Opens (task : Task) (request : Request) : Prop :=
  Proper request ∧ request.frame.key = key task ∧ Idle request.frame ∧ Lists Nothing request.frame

end ApexEdge.Proofs.Conduct

/-! Every task of the hub keeps to the conduct. -/

namespace ApexEdge.Proofs.Conformance
open Library Payment Domain Storage Contracts Hub
open Conduct Protocol

/-- A program that may go on with nothing but a cart whose payments are `known`. -/
def Lets (may : Request → Prop) (key : Option Uuid) (known : PaymentRecord → Prop) : Prop :=
  ∀ request, Proper request → request.frame.key = key → Idle request.frame → Lists known request.frame →
    may request

theorem resolve_manual {app : AppState} {requested : Option String}
    (resolved : app.resolve requested = .manualTender) : requested = none ∨ requested = some manualProvider := by
  unfold AppState.resolve at resolved
  cases requested with
  | none => exact .inl rfl
  | some code =>
    dsimp only at resolved
    split at resolved
    next manual => exact .inr (congrArg some manual)
    next => split at resolved <;> cases resolved

theorem Lets.mono {may : Request → Prop} {key : Option Uuid} {known less : PaymentRecord → Prop}
    (lets : Lets may key known) (implies : ∀ payment, less payment → known payment) : Lets may key less := by
  intro request proper same idle lists
  apply lets request proper same idle
  intro payment held
  exact (lists payment held).imp_left (implies payment)

theorem Lets.ends {may : Request → Prop} {key : Option Uuid} {known : PaymentRecord → Prop}
    (lets : Lets may key known) : Lets may key Nothing :=
  lets.mono fun _ impossible => impossible.elim

theorem idle_ofKey (key : Option Uuid) : Idle (Frame.ofKey key) := ⟨rfl, rfl, rfl, rfl⟩

theorem idle_withCart (key : Option Uuid) (cart : Cart) : Idle ((Frame.ofKey key).withCart cart) :=
  ⟨rfl, rfl, rfl, rfl⟩

theorem lists_ofKey (known : PaymentRecord → Prop) (key : Option Uuid) : Lists known (Frame.ofKey key) := by
  rintro payment ⟨cart, impossible, _⟩
  cases impossible

theorem lists_withCart {known : PaymentRecord → Prop} {frame : Frame} {cart : Cart}
    (listed : ∀ payment ∈ cart.payments, known payment ∨ Unbacked payment) :
    Lists known (frame.withCart cart) := by
  rintro payment ⟨held, same, member⟩
  cases same
  exact listed payment member

theorem Lets.rests {may : Request → Prop} {key : Option Uuid} {known : PaymentRecord → Prop}
    (lets : Lets may key known) : Rests may :=
  ⟨⟨Frame.ofKey key, .clock⟩, lets _ (idle_ofKey key) rfl (idle_ofKey key) (lists_ofKey known key), rfl⟩

/-- After a call that neither loads a cart nor touches an intent. -/
theorem lets_after {frame : Frame} {call : Call} {reply : call.Reply}
    (quiet : Leads frame call reply = GoesOn frame) :
    Lets (conduct.follows ⟨frame, call⟩ reply) frame.key (Has frame.cart) := by
  intro request proper same idle lists
  refine ⟨proper, same, ?_⟩
  show Leads frame call reply request
  rw [quiet]
  exact ⟨idle, lists⟩

/-- Where every command ends up: it may go on with nothing in hand. -/
def Ends {α : Type} (key : Option Uuid) (may : Request → Prop) (_ : α) : Prop := Lets may key Nothing

section Parts
variable {may : Request → Prop} {key : Option Uuid} {known : PaymentRecord → Prop}

private theorem keeps_reply {ε : Type} {frame : Frame} {call : Call}
    {post : (Request → Prop) → Except ε call.Reply → Prop} (first : may ⟨frame, call⟩)
    (rest : ∀ reply, post (conduct.follows ⟨frame, call⟩ reply) (.ok reply)) :
    conduct.Keeps may post (reply frame call : Action ε call.Reply) := ⟨first, rest⟩

/-- Ask for something without a cart in hand. -/
private theorem keeps_idle {ε : Type} {call : Call} {post : (Request → Prop) → Except ε call.Reply → Prop}
    (lets : Lets may key known) (proper : Proper ⟨Frame.ofKey key, call⟩)
    (quiet : ∀ reply, Leads (Frame.ofKey key) call reply = GoesOn (Frame.ofKey key))
    (rest : ∀ may reply, Lets may key Nothing → post may (.ok reply)) :
    conduct.Keeps may post (reply (Frame.ofKey key) call : Action ε call.Reply) := by
  apply keeps_reply
  · exact lets _ proper rfl (idle_ofKey key) (lists_ofKey known key)
  · intro reply
    exact rest _ reply (lets_after (quiet reply)).ends

/-- Ask for something with a cart in hand. -/
private theorem keeps_cart {ε : Type} {call : Call} {post : (Request → Prop) → Except ε call.Reply → Prop}
    {cart : Cart} (lets : Lets may key known) (listed : ∀ payment ∈ cart.payments, known payment ∨ Unbacked payment)
    (proper : Proper ⟨(Frame.ofKey key).withCart cart, call⟩)
    (quiet : ∀ reply, Leads ((Frame.ofKey key).withCart cart) call reply =
      GoesOn ((Frame.ofKey key).withCart cart))
    (rest : ∀ may reply, Lets may key (· ∈ cart.payments) → post may (.ok reply)) :
    conduct.Keeps may post (reply ((Frame.ofKey key).withCart cart) call : Action ε call.Reply) := by
  apply keeps_reply
  · exact lets _ proper rfl (idle_withCart key cart) (lists_withCart listed)
  · intro reply
    apply rest _ reply
    apply (lets_after (quiet reply)).mono
    exact fun payment member => ⟨cart, rfl, member⟩

private theorem loadCart_keeps {id : Uuid} {post : (Request → Prop) → Except (List PosError) Cart → Prop}
    (lets : Lets may key known)
    (found : ∀ may (cart : Cart), Lets may key (· ∈ cart.payments) → post may (.ok cart))
    (missing : ∀ may, Lets may key Nothing → post may (.error cartNotFound)) :
    conduct.Keeps may post (loadCart (Frame.ofKey key) id) := by
  apply keeps_andThen
  apply keeps_reply
  · exact lets _ (idle_ofKey key) rfl (idle_ofKey key) (lists_ofKey known key)
  · intro reply
    rcases reply with error | none | cart
    · exact missing _ (lets_after rfl).ends
    · exact missing _ (lets_after rfl).ends
    · exact found _ cart fun request proper same idle lists => ⟨proper, same, idle, lists⟩

/-- The customer is looked up with or without a cart in hand. -/
private theorem lookupCustomer_keeps {frame : Frame} {storeId : Uuid} {cart : Cart}
    (lets : Lets may key known)
    (asks : ∀ customerId, conduct.Keeps may (fun may _ => Lets may key known)
      (reply frame (.service (.getCustomer storeId customerId)) : Action (List PosError) _)) :
    conduct.Keeps may (fun may _ => Lets may key known) (lookupCustomer frame storeId cart) := by
  unfold lookupCustomer
  cases cart.customerId with
  | none => exact lets
  | some customerId =>
    apply keeps_andThen
    apply (asks customerId).mono
    intro may result kept
    rcases result with error | ⟨error | customer⟩
    all_goals exact kept

private theorem buildCartState_keeps {storeId : Uuid} {cart : Cart} (lets : Lets may key known) :
    conduct.Keeps may (Ends key) (buildCartState (Frame.ofKey key) storeId cart) := by
  apply keeps_andThen
  have asks (customerId : Uuid) : conduct.Keeps may (fun may _ => Lets may key Nothing)
      (reply (Frame.ofKey key) (.service (.getCustomer storeId customerId)) : Action (List PosError) _) := by
    apply keeps_idle lets
    · exact idle_ofKey key
    · exact fun _ => rfl
    · exact fun _ _ lets => lets
  apply (lookupCustomer_keeps lets.ends asks).mono
  intro may result lets
  cases result with
  | error error => exact lets
  | ok customer =>
    apply keeps_andThen
    unfold lookupPromos
    split
    · exact lets
    · apply keeps_andThen
      apply keeps_idle lets
      · exact idle_ofKey key
      · exact fun _ => rfl
      · exact fun may promotions lets => lets

end Parts

section Payments
variable {may : Request → Prop} {key : Uuid}

/-- A program that must go on with the tender in hand. -/
def LetsHold (may : Request → Prop) (key : Option Uuid) (known : PaymentRecord → Prop) (tender : IntentTender) :
    Prop :=
  ∀ request, Proper request → request.frame.key = key → Holds request.frame tender →
    Lists (fun payment => known payment ∨ Records tender payment) request.frame → may request

/-- The two kinds of tender that taking a payment ends with. -/
inductive Taken (may : Request → Prop) (key : Option Uuid) (cart : Cart) (tenderId : Uuid)
    (tender : CapturedTender) : Prop where
  | manual : tender.intentId = none → tender.provider = none ∨ tender.provider = some manualProvider →
      Lets may key (· ∈ cart.payments) → Taken may key cart tenderId tender
  | backed (intent : IntentTender) : tender.ofIntent tenderId = some intent →
      tender.intentId = some intent.intent → tender.provider = some intent.provider →
      tender.providerPaymentId = intent.paymentId → LetsHold may key (· ∈ cart.payments) intent →
      Taken may key cart tenderId tender

private theorem insertPaymentIntent_keeps {cart : Cart} {input : NewPaymentIntent}
    {post : (Request → Prop) → Except PoolError PaymentIntentRow → Prop}
    (lets : Lets may (some key) (· ∈ cart.payments)) (own : input.idempotencyKey = key)
    (processed : input.provider ≠ manualProvider)
    (chosen : ∀ (may : Request → Prop) row,
      (∀ next, Proper next → next.frame.key = some key →
        Chosen ((Frame.ofKey (some key)).withCart cart) input.provider input.tenderId row next → may next) →
      post may (.ok row))
    (failed : ∀ may error, Lets may (some key) Nothing → post may (.error error)) :
    conduct.Keeps may post (insertPaymentIntent ((Frame.ofKey (some key)).withCart cart) input) := by
  subst own
  have idle := idle_withCart (some input.idempotencyKey) cart
  have listed : ∀ payment ∈ cart.payments, payment ∈ cart.payments ∨ Unbacked payment := fun _ => .inl
  apply keeps_andThen
  apply keeps_orThrow
  apply keeps_reply
  · exact lets _ ⟨idle, rfl, processed⟩ rfl idle (lists_withCart listed)
  · intro reply
    rcases reply with error | none | row
    · exact failed _ error (lets_after rfl).ends
    · apply keeps_andThen
      apply keeps_cart (lets_after rfl)
      · exact fun payment member => .inl ⟨cart, rfl, member⟩
      · exact idle
      · exact fun _ => rfl
      · intro may id lets
        apply keeps_orThrow
        apply keeps_reply
        · exact lets _ ⟨idle, rfl, processed⟩ rfl idle (lists_withCart listed)
        · intro reply
          rcases reply with error | row
          · exact failed _ error (lets_after rfl).ends
          · exact chosen _ row fun next proper same chosen => ⟨proper, same, chosen⟩
    · exact chosen _ row fun next proper same chosen => ⟨proper, same, chosen⟩

private theorem pays_unique {frame : Frame} {tender other : IntentTender} (pays : frame.paying = some tender)
    (also : Pays frame other) : other = tender :=
  Option.some.inj (also.paying.symm.trans pays)

private theorem lists_mono {known more : PaymentRecord → Prop} {frame : Frame} (lists : Lists known frame)
    (implies : ∀ payment, known payment → more payment) : Lists more frame :=
  fun payment held => (lists payment held).imp_left (implies payment)

private theorem captureApproved_keeps {cart : Cart} {ctx : TakePaymentContext} {provider : String}
    {tender : IntentTender} {authorization : PaymentAuthorization}
    {post : (Request → Prop) → Except PaymentFailure CapturedTender → Prop}
    (tenders : tender.tenderId = ctx.tenderId)
    (allowed : ∀ wanted, wanted.providerPaymentId = authorization.providerPaymentId →
      may ⟨{ (Frame.ofKey (some key)).withCart cart with
        paying := some { tender with paymentId := some authorization.providerPaymentId } },
        .capture provider wanted⟩)
    (taken : ∀ may captured, Taken may (some key) cart ctx.tenderId captured → post may (.ok captured))
    (failed : ∀ may error, Lets may (some key) Nothing → post may (.error error)) :
    conduct.Keeps may post
      (captureApproved ((Frame.ofKey (some key)).withCart cart) ctx provider tender authorization) := by
  let approved := { tender with paymentId := some authorization.providerPaymentId }
  apply keeps_andThen
  apply keeps_reply
  · exact allowed _ rfl
  · intro reply
    cases reply with
    | error error =>
      dsimp only
      split
      next asks =>
        apply keeps_andThen
        apply keeps_reply
        · refine ⟨⟨approved, rfl, .inr rfl, .inl ⟨rfl, rfl, rfl⟩⟩, rfl, rfl, ?_⟩
          intro other pays
          obtain rfl := pays_unique rfl pays
          exact ⟨⟨rfl, rfl, rfl⟩, by rw [if_pos asks]; exact ⟨_, rfl⟩⟩
        · intro _
          exact failed _ _ (lets_after rfl).ends
      next clear =>
        apply keeps_andThen
        apply keeps_reply
        · refine ⟨⟨approved, ⟨rfl, rfl, rfl⟩, rfl⟩, rfl, rfl, ?_⟩
          intro other pays
          obtain rfl := pays_unique rfl pays
          exact ⟨⟨rfl, rfl, rfl⟩, by rw [if_neg clear]; exact ⟨_, rfl⟩⟩
        · intro _
          exact failed _ _ (lets_after rfl).ends
    | ok capture =>
      let captured : IntentTender :=
        ⟨tender.intent, capture.provider, tender.tenderId, some capture.providerPaymentId⟩
      apply keeps_andThen
      apply keeps_reply
      · refine ⟨⟨captured, ⟨rfl, rfl, rfl⟩, rfl, rfl⟩, rfl, rfl, ?_⟩
        intro other pays
        obtain rfl := pays_unique rfl pays
        exact ⟨⟨rfl, rfl, rfl⟩, _, rfl⟩
      · intro _
        apply taken
        refine .backed captured (by rw [← tenders]; rfl) rfl rfl rfl ?_
        intro request proper same holds lists
        refine ⟨proper, same, ?_⟩
        intro other pays
        obtain rfl := pays_unique rfl pays
        exact ⟨holds, lists_mono lists fun payment listed => listed.imp_left fun member => ⟨cart, rfl, member⟩⟩

private theorem authorizeIntent_keeps {app : AppState} {cart : Cart} {ctx : TakePaymentContext}
    {provider : String} {intent : PaymentIntentRow}
    {post : (Request → Prop) → Except PaymentFailure CapturedTender → Prop}
    (own : ctx.idempotencyKey = key)
    (allowed : ∀ wanted,
      wanted.idempotencyKey = providerIdempotencyKey key ctx.tenderId "authorize" →
      may ⟨{ (Frame.ofKey (some key)).withCart cart with
        paying := some ⟨intent.id, provider, ctx.tenderId, none⟩ }, .authorize provider wanted⟩)
    (taken : ∀ may captured, Taken may (some key) cart ctx.tenderId captured → post may (.ok captured))
    (failed : ∀ may error, Lets may (some key) Nothing → post may (.error error)) :
    conduct.Keeps may post
      (authorizeIntent app ((Frame.ofKey (some key)).withCart cart) ctx provider intent) := by
  subst own
  apply keeps_andThen
  apply keeps_reply
  · exact allowed _ rfl
  · intro reply
    cases reply with
    | error error =>
      dsimp only
      split
      next asks =>
        apply keeps_andThen
        apply keeps_reply
        · refine ⟨⟨_, rfl, .inl rfl, .inl ⟨rfl, rfl, rfl⟩⟩, rfl, rfl, ?_⟩
          intro other pays
          obtain rfl := pays_unique rfl pays
          exact ⟨⟨rfl, rfl, rfl⟩, by rw [if_pos asks]; exact ⟨_, rfl⟩⟩
        · intro _
          exact failed _ _ (lets_after rfl).ends
      next clear =>
        apply keeps_andThen
        apply keeps_reply
        · refine ⟨⟨_, ⟨rfl, rfl, rfl⟩, rfl⟩, rfl, rfl, ?_⟩
          intro other pays
          obtain rfl := pays_unique rfl pays
          exact ⟨⟨rfl, rfl, rfl⟩, by rw [if_neg clear]; exact ⟨_, rfl⟩⟩
        · intro _
          exact failed _ _ (lets_after rfl).ends
    | ok authorization =>
      dsimp only
      split
      next approved =>
        apply captureApproved_keeps rfl ?_ taken failed
        intro wanted same
        refine ⟨⟨_, ⟨rfl, rfl, rfl⟩, congrArg some same.symm, rfl⟩, rfl, rfl, ?_⟩
        intro other pays
        obtain rfl := pays_unique rfl pays
        rw [if_pos approved]
        exact ⟨⟨rfl, rfl, rfl⟩, _, _, rfl⟩
      next declined =>
        apply keeps_andThen
        apply keeps_reply
        · refine ⟨⟨_, ⟨rfl, rfl, rfl⟩, rfl⟩, rfl, rfl, ?_⟩
          intro other pays
          obtain rfl := pays_unique rfl pays
          rw [if_neg declined]
          exact ⟨⟨rfl, rfl, rfl⟩, _, rfl⟩
        · intro _
          exact failed _ _ (lets_after rfl).ends

private theorem takePayment_keeps {app : AppState} {cart : Cart} {ctx : TakePaymentContext}
    {post : (Request → Prop) → Except PaymentFailure CapturedTender → Prop}
    (lets : Lets may (some key) (· ∈ cart.payments)) (own : ctx.idempotencyKey = key)
    (taken : ∀ may captured, Taken may (some key) cart ctx.tenderId captured → post may (.ok captured))
    (failed : ∀ may error, Lets may (some key) Nothing → post may (.error error)) :
    conduct.Keeps may post (takePayment app ((Frame.ofKey (some key)).withCart cart) ctx) := by
  unfold takePayment
  cases resolved : app.resolve ctx.requestedProvider with
  | manualTender =>
    apply taken
    refine .manual rfl ?_ lets
    exact resolve_manual resolved
  | unknown code => exact failed _ _ lets.ends
  | provider provider =>
    have processed := (AppState.resolve_provider resolved).2
    apply keeps_andThen
    apply keeps_mapError
    apply insertPaymentIntent_keeps lets own processed
    · intro may intent chosen
      dsimp only
      split
      next known =>
        apply taken
        refine .backed ⟨intent.id, intent.provider, ctx.tenderId, intent.providerPaymentId⟩ rfl rfl rfl rfl ?_
        intro request proper same holds lists
        apply chosen request proper same
        unfold Chosen
        rw [if_pos known]
        exact ⟨holds, lists_mono lists fun payment listed => listed.imp_left fun member => ⟨cart, rfl, member⟩⟩
      next unknown =>
        apply authorizeIntent_keeps own ?_ taken failed
        intro wanted same
        apply chosen
        · exact ⟨_, key, ⟨rfl, rfl, rfl⟩, rfl, rfl, rfl, same⟩
        · rfl
        · unfold Chosen
          rw [if_neg unknown]
          exact ⟨⟨rfl, rfl, rfl⟩, rfl, _, rfl⟩
    · intro may error lets
      exact failed _ _ lets

/-- A tender that cannot be recorded is flagged, and the command fails. -/
private theorem flagCapturedTender_keeps {frame : Frame} {tender : CapturedTender} {intent : IntentTender}
    {reason : String} {errors : List PosError} {α : Type}
    (id : tender.intentId = some intent.intent) (paymentId : tender.providerPaymentId = intent.paymentId)
    (holds : Holds frame intent) (same : frame.key = some key)
    (allowed : ∀ call, Proper ⟨frame, call⟩ → may ⟨frame, call⟩) :
    conduct.Keeps may (Ends (some key))
      (flagCapturedTenderForReversal frame tender reason >>= fun _ => throw errors : Action (List PosError) α) := by
  unfold flagCapturedTenderForReversal
  rw [id]
  apply keeps_andThen
  apply keeps_andThen
  apply keeps_reply
  · exact allowed _ ⟨intent, rfl, .inr paymentId, .inr ⟨holds, paymentId⟩⟩
  · intro _
    exact same ▸ (lets_after rfl).ends

private theorem flagManualTender_keeps {frame : Frame} {tender : CapturedTender} {reason : String}
    {errors : List PosError} {α : Type} (none : tender.intentId = none) (lets : Lets may (some key) Nothing) :
    conduct.Keeps may (Ends (some key))
      (flagCapturedTenderForReversal frame tender reason >>= fun _ => throw errors : Action (List PosError) α) := by
  unfold flagCapturedTenderForReversal
  rw [none]
  exact lets

private theorem recordPayment_keeps {app : AppState} {envelope : PosRequestEnvelope} {p : AddPaymentPayload}
    {cart : Cart} {now : Timestamp} {tender : CapturedTender} (own : envelope.idempotencyKey = key)
    (taken : Taken may (some key) cart p.tenderId tender) :
    conduct.Keeps may (Ends (some key)) (recordPayment app envelope p cart now tender) := by
  subst own
  unfold recordPayment
  cases added : cart.addPayment (paymentRecord p tender) now with
  | error error =>
    cases taken with
    | manual none _ lets => exact flagManualTender_keeps none lets.ends
    | backed intent held id provider paymentId lets =>
      have holds : Holds { Frame.ofKey (some envelope.idempotencyKey) with taken := tender.ofIntent p.tenderId }
        intent := ⟨rfl, held, rfl⟩
      apply flagCapturedTender_keeps id paymentId holds rfl
      intro call proper
      exact lets _ proper rfl holds (lists_ofKey _ (some envelope.idempotencyKey))
  | ok paid =>
    obtain ⟨_, listed⟩ := Cart.addPayment_ok added
    apply keeps_andThen
    cases taken with
    | manual none unbacked lets =>
      have nobody : tender.ofIntent p.tenderId = Option.none := by rw [CapturedTender.ofIntent, none]; rfl
      rw [nobody]
      apply keeps_reply
      · refine lets _ ⟨rfl, rfl, rfl⟩ rfl ⟨rfl, rfl, rfl, rfl⟩ ?_
        apply lists_withCart
        intro payment member
        rw [listed, List.mem_append, List.mem_singleton] at member
        rcases member with known | rfl
        · exact .inl known
        · exact .inr unbacked
      · intro reply
        cases reply with
        | error error =>
          apply flagManualTender_keeps none
          intro request proper same idle lists
          exact ⟨proper, same, .inl ⟨idle, lists_mono lists fun _ impossible => impossible.elim⟩⟩
        | ok _ => exact buildCartState_keeps (lets_after rfl)
    | backed intent held id provider paymentId lets =>
      rw [held]
      apply keeps_reply
      · refine lets _ ⟨rfl, rfl, rfl⟩ rfl ⟨rfl, rfl, rfl⟩ ?_
        apply lists_withCart
        intro payment member
        rw [listed, List.mem_append, List.mem_singleton] at member
        rcases member with known | rfl
        · exact .inl (.inl known)
        · refine .inl (.inr ⟨provider, ?_⟩)
          intro known same
          simp only [paymentRecord, paymentId, same, Option.some_or]
      · intro reply
        cases reply with
        | error error =>
          apply flagCapturedTender_keeps id paymentId ⟨rfl, rfl, rfl⟩ rfl
          intro call proper
          exact ⟨proper, rfl, .inr ⟨rfl, intent, ⟨rfl, rfl, rfl⟩, ⟨rfl, rfl, rfl⟩⟩⟩
        | ok _ => exact buildCartState_keeps (lets_after rfl)

private theorem addPayment_keeps {app : AppState} {envelope : PosRequestEnvelope} {p : AddPaymentPayload}
    (lets : Lets may (some envelope.idempotencyKey) Nothing) :
    conduct.Keeps may (Ends (some envelope.idempotencyKey)) (addPayment app envelope p) := by
  apply keeps_andThen
  apply loadCart_keeps lets
  · intro may cart lets
    apply keeps_andThen
    apply keeps_cart lets
    · exact fun _ => .inl
    · exact idle_withCart _ cart
    · exact fun _ => rfl
    · intro may now lets
      apply keeps_andThen
      apply keeps_mapError
      apply takePayment_keeps lets rfl
      · intro may tender taken
        exact recordPayment_keeps rfl taken
      · exact fun may error lets => lets
  · exact fun may lets => lets

private theorem voidCart_keeps {app : AppState} {envelope : PosRequestEnvelope} {p : VoidCartPayload}
    (lets : Lets may (some envelope.idempotencyKey) Nothing) :
    conduct.Keeps may (Ends (some envelope.idempotencyKey)) (voidCart app envelope p) := by
  apply keeps_andThen
  apply loadCart_keeps lets
  · intro may cart lets
    dsimp only
    split
    next => exact lets.ends
    next =>
      apply keeps_andThen
      apply keeps_cart lets
      · exact fun _ => .inl
      · exact idle_withCart _ cart
      · exact fun _ => rfl
      · intro may now lets
        apply keeps_andThen
        apply keeps_orThrow
        apply keeps_reply
        · refine lets _ ⟨rfl, rfl, rfl⟩ rfl (idle_withCart _ _) ?_
          exact lists_withCart fun payment impossible => by cases impossible
        · intro saved
          rcases saved with error | _
          · intro request proper same idle lists
            exact ⟨proper, same, .inl ⟨idle, lists_mono lists fun _ impossible => impossible.elim⟩⟩
          · apply keeps_andThen
            apply keeps_idle (lets_after rfl)
            · exact idle_ofKey _
            · exact fun _ => rfl
            · intro may released lets
              exact buildCartState_keeps lets
  · exact fun may lets => lets

private theorem generateReceipt_keeps {app : AppState} {cart : Cart} {order : Order}
    (lets : Lets may (some key) (· ∈ cart.payments)) :
    conduct.Keeps may (fun may _ => Lets may (some key) (· ∈ cart.payments))
      (generateReceipt app ((Frame.ofKey (some key)).withCart cart) cart order) := by
  have listed : ∀ payment ∈ cart.payments, payment ∈ cart.payments ∨ Unbacked payment := fun _ => .inl
  apply keeps_andThen
  refine keeps_cart lets listed (idle_withCart _ cart) (fun _ => rfl) ?_
  intro may docId lets
  apply keeps_andThen
  have asks (customerId : Uuid) : conduct.Keeps may (fun may _ => Lets may (some key) (· ∈ cart.payments))
      (reply ((Frame.ofKey (some key)).withCart cart) (.service (.getCustomer app.storeId customerId)) :
        Action (List PosError) _) := by
    apply keeps_cart lets listed
    · exact idle_withCart _ cart
    · exact fun _ => rfl
    · exact fun _ _ lets => lets
  apply (lookupCustomer_keeps lets asks).mono
  intro may result lets
  cases result with
  | error error => exact lets
  | ok customer =>
    apply keeps_andThen
    refine keeps_cart lets listed (idle_withCart _ cart) (fun _ => rfl) ?_
    intro may template lets
    apply keeps_andThen
    apply keeps_orThrow
    refine keeps_cart lets listed (idle_withCart _ cart) (fun _ => rfl) ?_
    intro may generated lets
    rcases generated with error | _
    · exact lets
    · exact lets

private theorem earnPoints_keeps {cart : Cart} {order : Order} (lets : Lets may (some key) (· ∈ cart.payments)) :
    conduct.Keeps may (fun may _ => Lets may (some key) (· ∈ cart.payments))
      (earnPoints ((Frame.ofKey (some key)).withCart cart) cart order) := by
  unfold earnPoints
  cases cart.customerId with
  | none => exact lets
  | some customerId =>
    dsimp only
    split
    · exact lets
    · apply keeps_andThen
      refine keeps_cart lets (fun _ => .inl) (idle_withCart _ cart) (fun _ => rfl) ?_
      exact fun may earned lets => lets

private theorem completeOrder_keeps {app : AppState} {envelope : PosRequestEnvelope} {cart : Cart} {order : Order}
    {tookCash : Bool} (lets : Lets may (some envelope.idempotencyKey) (· ∈ cart.payments)) :
    conduct.Keeps may (Ends (some envelope.idempotencyKey)) (completeOrder app envelope cart order tookCash) := by
  have idle := idle_withCart (some envelope.idempotencyKey) cart
  have listed : ∀ payment ∈ cart.payments, payment ∈ cart.payments ∨ Unbacked payment := fun _ => .inl
  apply keeps_andThen
  refine keeps_cart lets listed ⟨idle, cart, rfl, rfl⟩ (fun _ => rfl) ?_
  intro may settled lets
  apply keeps_andThen
  apply (earnPoints_keeps lets).mono
  intro may earned lets
  rcases earned with error | _
  · exact lets.ends
  apply keeps_andThen
  refine keeps_cart lets listed idle (fun _ => rfl) ?_
  intro may committed lets
  apply keeps_andThen
  apply (generateReceipt_keeps lets).mono
  intro may generated lets
  rcases generated with error | docId
  · exact lets.ends
  apply keeps_andThen
  refine keeps_cart lets listed idle (fun _ => rfl) ?_
  intro may now lets
  apply keeps_andThen
  apply keeps_orThrow
  apply keeps_reply
  · refine lets _ ⟨rfl, rfl, rfl⟩ rfl (idle_withCart _ _) ?_
    exact lists_withCart listed
  · intro saved
    rcases saved with error | _
    · intro request proper same idle lists
      exact ⟨proper, same, .inl ⟨idle, lists_mono lists fun _ impossible => impossible.elim⟩⟩
    · apply keeps_andThen
      refine keeps_idle (lets_after rfl) (idle_ofKey _) (fun _ => rfl) ?_
      exact fun may printed lets => lets

private theorem finalizeOrder_keeps {app : AppState} {envelope : PosRequestEnvelope} {p : FinalizeOrderPayload}
    (lets : Lets may (some envelope.idempotencyKey) Nothing) :
    conduct.Keeps may (Ends (some envelope.idempotencyKey)) (finalizeOrder app envelope p) := by
  apply keeps_andThen
  apply loadCart_keeps lets
  · intro may cart lets
    have idle := idle_withCart (some envelope.idempotencyKey) cart
    have listed : ∀ payment ∈ cart.payments, payment ∈ cart.payments ∨ Unbacked payment := fun _ => .inl
    apply keeps_andThen
    refine keeps_cart lets listed idle (fun _ => rfl) ?_
    intro may orderId lets
    dsimp only
    cases built : cart.toOrder orderId with
    | error error => exact lets.ends
    | ok order =>
      obtain ⟨_, _, paid⟩ := Cart.toOrder_ok built
      apply keeps_andThen
      refine keeps_cart lets listed idle (fun _ => rfl) ?_
      intro may shift lets
      apply keeps_andThen
      refine keeps_cart lets listed idle (fun _ => rfl) ?_
      intro may signed lets
      cases signed with
      | error error =>
        apply keeps_andThen
        refine keeps_idle lets (idle_ofKey _) (fun _ => rfl) ?_
        exact fun may flagged lets => lets
      | ok fiscal =>
        apply keeps_andThen
        refine keeps_cart lets listed idle (fun _ => rfl) ?_
        intro may submissionId lets
        apply keeps_andThen
        refine keeps_cart lets listed ⟨idle, cart, rfl, congrArg (List.map ledgerPayment) paid⟩ (fun _ => rfl) ?_
        intro may written lets
        cases written with
        | error error =>
          apply keeps_andThen
          refine keeps_idle lets (idle_ofKey _) (fun _ => rfl) ?_
          exact fun may flagged lets => lets
        | ok _ => exact completeOrder_keeps lets
  · exact fun may lets => lets

end Payments

section Refunds
variable {may : Request → Prop} {key : Option Uuid}

private theorem loadSnapshot_keeps {id : Uuid} (lets : Lets may key Nothing) :
    conduct.Keeps may (Ends key) (loadSnapshot (Frame.ofKey key) id) := by
  apply keeps_andThen
  apply keeps_orThrow
  refine keeps_idle lets (idle_ofKey key) (fun _ => rfl) ?_
  intro may found lets
  rcases found with error | none | row
  · exact lets
  · exact lets
  · apply keeps_andThen
    apply keeps_orThrow
    refine keeps_idle lets (idle_ofKey key) (fun _ => rfl) ?_
    intro may lines lets
    rcases lines with error | lines
    · exact lets
    · apply keeps_andThen
      apply keeps_orThrow
      refine keeps_idle lets (idle_ofKey key) (fun _ => rfl) ?_
      intro may refunds lets
      rcases refunds with error | refunds
      · exact lets
      · exact lets

private theorem prepareRefund_keeps {refund : RefundRow} (lets : Lets may key Nothing) :
    conduct.Keeps may (Ends key) (prepareRefund (Frame.ofKey key) refund) := by
  apply keeps_andThen
  apply keeps_orThrow
  refine keeps_idle lets (idle_ofKey key) (fun _ => rfl) ?_
  intro may reserved lets
  rcases reserved with error | _
  · exact lets
  · apply keeps_andThen
    apply keeps_orThrow
    refine keeps_idle lets (idle_ofKey key) (fun _ => rfl) ?_
    intro may reservation lets
    rcases reservation with error | none | reservation
    · exact lets
    · exact lets
    · dsimp only
      split
      · apply keeps_orThrow
        refine keeps_idle lets (idle_ofKey key) (fun _ => rfl) ?_
        intro may recorded lets
        rcases recorded with error | recorded
        · exact lets
        · exact lets
      · exact lets

private theorem refundThroughProvider_keeps {app : AppState} {originalOrderId : Option Uuid} {tenderType : String}
    {amountCents : Nat} {envelopeKey refundId : Uuid} (lets : Lets may key Nothing) :
    conduct.Keeps may (Ends key) (refundThroughProvider app (Frame.ofKey key) originalOrderId tenderType
      amountCents envelopeKey refundId) := by
  unfold refundThroughProvider
  cases app.resolve (some tenderType) with
  | manualTender => exact lets
  | unknown code => exact lets
  | provider provider =>
    dsimp only
    split
    · exact lets
    · cases originalOrderId with
      | none => exact lets
      | some orderId =>
        apply keeps_andThen
        apply keeps_orThrow
        refine keeps_idle lets (idle_ofKey key) (fun _ => rfl) ?_
        intro may found lets
        rcases found with error | none | order
        · exact lets
        · exact lets
        · dsimp only
          cases refundablePayment provider order with
          | none => exact lets
          | some paymentId =>
            apply keeps_andThen
            refine keeps_idle lets (idle_ofKey key) (fun _ => rfl) ?_
            intro may refunded lets
            cases refunded with
            | error error => exact lets
            | ok refund => exact lets

private theorem completeRefund_keeps {app : AppState} {envelope : PosRequestEnvelope} {p : RefundTenderPayload}
    {originalOrderId : Option Uuid} {recorded : Bool}
    (lets : Lets may (some envelope.idempotencyKey) Nothing) :
    conduct.Keeps may (Ends (some envelope.idempotencyKey))
      (completeRefund app envelope p originalOrderId recorded) := by
  unfold completeRefund
  dsimp only
  split
  · exact lets
  · apply keeps_andThen
    apply keeps_mapError
    apply (refundThroughProvider_keeps lets).mono
    intro may paid lets
    rcases paid with failure | reference
    · exact lets
    · apply keeps_orThrow
      refine keeps_idle lets (idle_ofKey _) (fun _ => rfl) ?_
      intro may recorded lets
      rcases recorded with error | _
      · exact lets
      · exact lets

private theorem refundTender_keeps {app : AppState} {envelope : PosRequestEnvelope} {p : RefundTenderPayload}
    (lets : Lets may (some envelope.idempotencyKey) Nothing) :
    conduct.Keeps may (Ends (some envelope.idempotencyKey)) (refundTender app envelope p) := by
  apply keeps_andThen
  apply (loadSnapshot_keeps lets).mono
  intro may loaded lets
  rcases loaded with errors | snapshot
  · exact lets
  · dsimp only
    split
    · exact lets
    · apply keeps_andThen
      apply keeps_mapError
      apply (prepareRefund_keeps lets).mono
      intro may prepared lets
      rcases prepared with error | recorded
      · exact lets
      · apply keeps_andThen
        apply (completeRefund_keeps lets).mono
        intro may completed lets
        rcases completed with errors | _
        · exact lets
        · apply keeps_andThen
          apply (loadSnapshot_keeps lets).mono
          intro may loaded lets
          rcases loaded with errors | snapshot
          · exact lets
          · exact lets

end Refunds

section Sweeps
variable {may : Request → Prop}

/-- A sweep that still has `owed` to work off. -/
def LetsSweep (may : Request → Prop) (owed : List PaymentIntentRow) : Prop :=
  ∀ call, Proper ⟨sweepFrame owed, call⟩ → may ⟨sweepFrame owed, call⟩

def Swept (may : Request → Prop) (result : Except PoolError Nat) : Prop :=
  match result with
  | .ok _ => LetsSweep may []
  | .error _ => Rests may

private theorem owes_first (intent : PaymentIntentRow) (rest : List PaymentIntentRow) :
    Owes (sweepFrame (intent :: rest)) intent := ⟨rfl, rfl, rfl, rest, rfl⟩

theorem LetsSweep.rests {owed : List PaymentIntentRow} (lets : LetsSweep may owed) : Rests may := by
  cases owed with
  | nil => exact ⟨_, lets .clock (idle_ofKey none), rfl⟩
  | cons intent rest =>
    exact ⟨_, lets (.recordPaymentIntentReversalFailure intent.id "") ⟨intent, owes_first intent rest, rfl⟩, rfl⟩

private theorem recordReversalFailure_keeps {intent : PaymentIntentRow} {rest : List PaymentIntentRow}
    {error : String} {next : Action PoolError Nat}
    (allowed : ∀ call, Proper ⟨sweepFrame (intent :: rest), call⟩ → may ⟨sweepFrame (intent :: rest), call⟩)
    (goesOn : ∀ may, LetsSweep may rest → conduct.Keeps may Swept next) :
    conduct.Keeps may Swept
      (recordReversalFailure (sweepFrame (intent :: rest)) intent error >>= fun _ => next : Action PoolError Nat) := by
  apply keeps_andThen
  apply keeps_orThrow
  apply keeps_reply
  · exact allowed _ ⟨intent, owes_first intent rest, rfl⟩
  · intro recorded
    have lets : LetsSweep (conduct.follows ⟨sweepFrame (intent :: rest),
        .recordPaymentIntentReversalFailure intent.id error⟩ recorded) rest := fun call proper => ⟨proper, rfl, rfl⟩
    rcases recorded with error | _
    · exact lets.rests
    · exact goesOn _ lets

private theorem reverseOwed_keeps {app : AppState} {owed : List PaymentIntentRow} {reversed : Nat}
    (lets : LetsSweep may owed) : conduct.Keeps may Swept (reverseOwed app owed reversed) := by
  induction owed generalizing may reversed with
  | nil => exact lets
  | cons intent rest ih =>
    unfold reverseOwed
    cases known : intent.providerPaymentId with
    | none =>
      apply keeps_andThen
      apply keeps_orThrow
      apply keeps_reply
      · exact lets _ ⟨intent, owes_first intent rest, rfl, .inl known⟩
      · intro marked
        have lets : LetsSweep (conduct.follows ⟨sweepFrame (intent :: rest),
            .markPaymentIntentReversed intent.id⟩ marked) rest := fun call proper => ⟨proper, rfl, rfl⟩
        rcases marked with error | _
        · exact lets.rests
        · exact ih lets
    | some paymentId =>
      cases resolved : app.resolve (some intent.provider) with
      | manualTender => exact recordReversalFailure_keeps lets fun may lets => ih lets
      | unknown code => exact recordReversalFailure_keeps lets fun may lets => ih lets
      | provider provider =>
        have same := Option.some.inj (AppState.resolve_provider resolved).1
        apply keeps_andThen
        apply keeps_reply
        · exact lets _ ⟨intent, owes_first intent rest, same, known⟩
        · intro voided
          cases voided with
          | error error =>
            apply recordReversalFailure_keeps
            · exact fun call proper => ⟨proper, rfl, rfl⟩
            · exact fun may lets => ih lets
          | ok _ =>
            apply keeps_andThen
            apply keeps_orThrow
            apply keeps_reply
            · exact ⟨⟨intent, ⟨rfl, rfl, rfl, rest, rfl⟩, rfl, .inr rfl⟩, rfl, rfl⟩
            · intro marked
              have lets : LetsSweep (conduct.follows ⟨{ sweepFrame (intent :: rest) with voided := true },
                  .markPaymentIntentReversed intent.id⟩ marked) rest := fun call proper => ⟨proper, rfl, rfl⟩
              rcases marked with error | _
              · exact lets.rests
              · exact ih lets

private theorem sweep_keeps {app : AppState} {policy : ReversalSweepPolicy} :
    conduct.Keeps (Opens (.sweep policy)) (fun may _ => Rests may) (runPaymentReversalSweep app policy) := by
  have idle : Idle (sweepFrame []) := idle_ofKey none
  apply keeps_andThen
  apply keeps_orThrow
  apply keeps_reply
  · exact ⟨idle, rfl, idle, lists_ofKey _ none⟩
  · intro flagged
    rcases flagged with error | _
    · exact (lets_after rfl).rests
    · apply keeps_andThen
      apply keeps_orThrow
      apply keeps_reply
      · exact ⟨idle, rfl, idle, lists_ofKey _ none⟩
      · intro fetched
        rcases fetched with error | owed
        · exact (lets_after rfl).rests
        · apply keeps_andThen
          have lets : LetsSweep (conduct.follows ⟨sweepFrame [],
              .fetchPaymentIntentsAwaitingReversal policy.batch⟩ (.ok owed)) owed :=
            fun call proper => ⟨proper, rfl, .inl rfl, idle, rfl⟩
          apply (reverseOwed_keeps lets).mono
          intro may result swept
          rcases result with error | reversed
          · exact swept
          · apply keeps_andThen
            apply keeps_orThrow
            apply keeps_reply
            · exact swept _ idle
            · intro counted
              have lets : LetsSweep (conduct.follows ⟨sweepFrame [],
                  .fetchPaymentIntentsAwaitingReversal 65535⟩ counted) [] := by
                intro call proper
                rcases counted with error | counted
                · exact ⟨proper, rfl, idle, lists_ofKey _ none⟩
                · exact ⟨proper, rfl, .inr rfl, idle, rfl⟩
              rcases counted with error | counted
              · exact lets.rests
              · exact lets.rests

end Sweeps

section Tasks
variable {may : Request → Prop}

private theorem executeCommand_keeps {app : AppState} {envelope : PosRequestEnvelope}
    (lets : Lets may (some envelope.idempotencyKey) Nothing) :
    conduct.Keeps may (Ends (some envelope.idempotencyKey)) (executeCommand app envelope) := by
  unfold executeCommand
  cases envelope.payload with
  | addPayment p => exact addPayment_keeps lets
  | finalizeOrder p => exact finalizeOrder_keeps lets
  | voidCart p => exact voidCart_keeps lets
  | refundTender p => exact refundTender_keeps lets

private theorem executePosCommand_keeps {app : AppState} {envelope : PosRequestEnvelope}
    (lets : Lets may (some envelope.idempotencyKey) Nothing) :
    conduct.Keeps may (Ends (some envelope.idempotencyKey)) (executePosCommand app envelope) := by
  unfold executePosCommand
  split
  · exact lets
  · apply Keeps.bind
    apply (executeCommand_keeps lets).mono
    intro may result lets
    cases result with
    | error errors => exact lets
    | ok payload => exact lets

private theorem executeOnce_keeps {app : AppState} {envelope : PosRequestEnvelope}
    (lets : Lets may (some envelope.idempotencyKey) Nothing) :
    conduct.Keeps may (fun may _ => Rests may) (executeOnce app envelope) := by
  have idle := idle_ofKey (some envelope.idempotencyKey)
  refine ⟨lets _ idle rfl idle (lists_ofKey _ _), ?_⟩
  intro stored
  have executes (may : Request → Prop) (lets : Lets may (some envelope.idempotencyKey) Nothing) :
      conduct.Keeps may (fun may _ => Rests may)
        (executePosCommand app envelope >>= storeResponse (Frame.ofKey (some envelope.idempotencyKey))) := by
    apply Keeps.bind
    apply (executePosCommand_keeps lets).mono
    intro may response lets
    unfold storeResponse
    split
    · exact ⟨lets _ idle rfl idle (lists_ofKey _ _), fun _ => (lets_after rfl).rests⟩
    · exact lets.rests
  rcases stored with error | none | replayed
  · exact executes _ (lets_after rfl).ends
  · exact executes _ (lets_after rfl).ends
  · exact (lets_after rfl).rests

/-- Every task of the hub keeps to the conduct. -/
theorem conforms (app : AppState) (task : Task) :
    conduct.Keeps (Opens task) (fun may _ => Rests may) (task.program app) := by
  cases task with
  | sweep policy =>
    apply Keeps.bind
    exact sweep_keeps.mono fun _ _ rests => rests
  | command boundRegister envelope =>
    have lets : Lets (Opens (.command boundRegister envelope)) (some envelope.idempotencyKey) Nothing :=
      fun request proper same idle lists => ⟨proper, same, idle, lists⟩
    apply Keeps.bind
    unfold handlePosCommand
    dsimp only
    split
    · exact lets.rests
    · split
      · exact lets.rests
      · split
        · exact lets.rests
        · exact (executeOnce_keeps lets).mono fun _ _ rests => rests

end Tasks

end ApexEdge.Proofs.Conformance
