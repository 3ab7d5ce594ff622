import ApexEdge.Proofs.Ledger

/-! Where the live variables of a request come from: the request before it, or the reply
that was given to that one. And runs in which no retried command takes up an intent that
is owed back: in them an intent that money is being taken for is untouched by everyone
else, and what a sweep works on stays owed until it is reversed. -/

namespace ApexEdge.Proofs.Attempts
open Library Payment Domain Storage Contracts Hub
open Conduct StepEffects Ledger

/-- How a command came to pay for an intent. -/
inductive PayingFrom (choice : Choice ProviderAnswer) (world : HubWorld) (request : Request)
    (tender : IntentTender) : Prop where
  | asking (before : IntentTender) : Pays request.frame before → before.intent = tender.intent →
      (∃ provider wanted, request.call = .authorize provider wanted) ∨
        (∃ provider wanted, request.call = .capture provider wanted) → PayingFrom choice world request tender
  | resumed (key : Uuid) (provider : String) (tenderId : Uuid) (row : PaymentIntentRow) :
      request.call = .findPaymentIntent key provider tenderId →
      PaymentIntents.findByKey key provider tenderId world.db.paymentIntents = some row →
      row.id = tender.intent → row.state ≠ .captured → row.state ≠ .settled →
      PayingFrom choice world request tender
  | started (id : Uuid) (input : NewPaymentIntent) : request.call = .insertPaymentIntent id input →
      opened choice world request.call = some (PaymentIntents.newRow id input choice.now) →
      id = tender.intent → PayingFrom choice world request tender

/-- How a command came to have a tender in hand. -/
inductive TakenFrom (world : HubWorld) (request : Request) (tender : IntentTender) : Prop where
  | kept (cart : Cart) : request.call = .saveCart cart → Holds request.frame tender →
      TakenFrom world request tender
  | captured (paymentId : String) (cents : Nat) :
      request.call = .markPaymentIntentCaptured tender.intent paymentId cents → Pays request.frame tender →
      TakenFrom world request tender
  | resumed (key : Uuid) (provider : String) (tenderId : Uuid) (row : PaymentIntentRow) :
      request.call = .findPaymentIntent key provider tenderId →
      PaymentIntents.findByKey key provider tenderId world.db.paymentIntents = some row →
      row.state = .captured ∨ row.state = .settled →
      tender = ⟨row.id, row.provider, tenderId, row.providerPaymentId⟩ → TakenFrom world request tender

/-- How a sweep came to its frame. -/
structure SweptFrom (choice : Choice ProviderAnswer) (world : HubWorld) (request next : Request) : Prop where
  paying : next.frame.paying = none
  taken : next.frame.taken = none
  cart : next.frame.cart = none
  owed : ∀ old ∈ next.frame.owed, old ∈ request.frame.owed ∨
    old ∈ world.db.paymentIntents ∧ old.state = .reversalPending
  voided : next.frame.voided = true → next.frame.owed = request.frame.owed ∧
    ∃ provider wanted, request.call = .void provider wanted ∧
      (contractual.void choice.answer world.remote provider wanted).1 = .ok ()

/-- The shapes that a request can have after the reply to the one before it. -/
inductive Succeeds (choice : Choice ProviderAnswer) (world : HubWorld) (request next : Request) : Prop where
  | idle : Idle next.frame →
      (∀ payment, Conduct.Has next.frame.cart payment → Conduct.Has request.frame.cart payment ∨
        Unbacked payment ∨ ∃ row ∈ world.db.carts, payment ∈ row.data.payments) →
      Succeeds choice world request next
  | pays (tender : IntentTender) : Pays next.frame tender → next.frame.cart = request.frame.cart →
      PayingFrom choice world request tender → Succeeds choice world request next
  | holds (tender : IntentTender) : Holds next.frame tender → TakenFrom world request tender →
      (∀ payment, Conduct.Has next.frame.cart payment → Conduct.Has request.frame.cart payment ∨
        Unbacked payment ∨ Records tender payment ∧ ∀ cart, request.call ≠ .saveCart cart) →
      Succeeds choice world request next
  | sweeps : SweptFrom choice world request next → Succeeds choice world request next

section Succession
variable {choice : Choice ProviderAnswer} {world : HubWorld} {request next : Request}

private theorem succeeds_idle (goesOn : GoesOn request.frame next) : Succeeds choice world request next :=
  .idle goesOn.1 fun payment held => (goesOn.2 payment held).imp_right .inl

private theorem succeeds_chosen {provider : String} {tenderId : Uuid} {row : PaymentIntentRow}
    (chosen : Chosen request.frame provider tenderId row next) (unsaved : ∀ cart, request.call ≠ .saveCart cart)
    (taken : row.state = .captured ∨ row.state = .settled →
      TakenFrom world request ⟨row.id, row.provider, tenderId, row.providerPaymentId⟩)
    (paying : row.state ≠ .captured → row.state ≠ .settled →
      PayingFrom choice world request ⟨row.id, provider, tenderId, none⟩) :
    Succeeds choice world request next := by
  unfold Chosen at chosen
  split at chosen
  next known =>
    refine .holds _ chosen.1 (taken known) ?_
    intro payment held
    rcases chosen.2 payment held with (known | records) | unbacked
    · exact .inl known
    · exact .inr (.inr ⟨records, unsaved⟩)
    · exact .inr (.inl unbacked)
  next unknown =>
    rw [not_or] at unknown
    exact .pays _ chosen.1 chosen.2.1 (paying unknown.1 unknown.2)

private theorem succeeds_asking {before after : IntentTender} (pays : Pays request.frame before)
    (nextPays : Pays next.frame after) (same : before.intent = after.intent)
    (cart : next.frame.cart = request.frame.cart)
    (asks : (∃ provider wanted, request.call = .authorize provider wanted) ∨
      ∃ provider wanted, request.call = .capture provider wanted) : Succeeds choice world request next :=
  .pays after nextPays cart (.asking before pays same asks)

private theorem succeeds_worked {intent : PaymentIntentRow} (owes : Owes request.frame intent)
    (same : next.frame = { request.frame with owed := request.frame.owed.tail, voided := false }) :
    Succeeds choice world request next := by
  refine .sweeps { paying := ?_, taken := ?_, cart := ?_, owed := ?_, voided := ?_ }
  · rw [same]; exact owes.paying
  · rw [same]; exact owes.taken
  · rw [same]; exact owes.cart
  · intro old member
    rw [same] at member
    exact .inl (List.mem_of_mem_tail member)
  · intro voided
    rw [same] at voided
    cases voided

theorem succeeds (proper : Proper request)
    (follows : conduct.follows request (perform contractual choice world request).1 next) :
    Succeeds choice world request next := by
  have leads := follows.2.2
  clear follows
  obtain ⟨frame, call⟩ := request
  cases call
  case authorize provider wanted =>
    obtain ⟨before, _, pays, _⟩ := proper
    generalize (perform contractual choice world ⟨frame, .authorize provider wanted⟩).1 = reply at leads
    cases reply with
    | error error =>
      exact succeeds_asking pays (leads.2 before pays).1 rfl leads.1 (.inl ⟨provider, wanted, rfl⟩)
    | ok authorization =>
      have given := leads.2 before pays
      split at given
      · exact succeeds_asking pays given.1 rfl leads.1 (.inl ⟨provider, wanted, rfl⟩)
      · exact succeeds_asking pays given.1 rfl leads.1 (.inl ⟨provider, wanted, rfl⟩)
  case capture provider wanted =>
    obtain ⟨before, pays, _⟩ := proper
    generalize (perform contractual choice world ⟨frame, .capture provider wanted⟩).1 = reply at leads
    cases reply with
    | error error =>
      exact succeeds_asking pays (leads.2 before pays).1 rfl leads.1 (.inr ⟨provider, wanted, rfl⟩)
    | ok captured =>
      exact succeeds_asking pays (leads.2 before pays).1 rfl leads.1 (.inr ⟨provider, wanted, rfl⟩)
  case findPaymentIntent key provider tenderId =>
    generalize answered : (perform contractual choice world
      ⟨frame, .findPaymentIntent key provider tenderId⟩).1 = reply at leads
    rcases reply with error | none | row
    · exact succeeds_idle leads
    · exact succeeds_idle leads
    · apply succeeds_chosen leads (fun _ impossible => by cases impossible)
      · exact fun known => .resumed key provider tenderId row rfl (query_ok answered) known rfl
      · exact fun uncaptured unsettled =>
          .resumed key provider tenderId row rfl (query_ok answered) rfl uncaptured unsettled
  case insertPaymentIntent id input =>
    generalize answered : (perform contractual choice world ⟨frame, .insertPaymentIntent id input⟩).1 = reply
      at leads
    rcases reply with error | row
    · exact succeeds_idle leads
    · obtain ⟨opens, rfl⟩ := inserted_intent answered
      apply succeeds_chosen leads (fun _ impossible => by cases impossible)
      · intro known
        rcases known with state | state <;> cases state
      · exact fun _ _ => .started id input rfl opens rfl
  case markPaymentIntentCaptured id paymentId cents =>
    obtain ⟨before, pays, same, _⟩ := proper
    have inHand := leads before pays
    refine .holds before inHand.1 (.captured paymentId cents (by rw [same]) pays) ?_
    intro payment held
    rcases inHand.2 payment held with (known | records) | unbacked
    · exact .inl known
    · exact .inr (.inr ⟨records, fun _ impossible => by cases impossible⟩)
    · exact .inr (.inl unbacked)
  case loadCart id =>
    generalize answered : (perform contractual choice world ⟨frame, .loadCart id⟩).1 = reply at leads
    rcases reply with error | none | cart
    · exact succeeds_idle leads
    · exact succeeds_idle leads
    · obtain ⟨row, member, rfl⟩ := found_cart answered
      refine .idle leads.1 ?_
      intro payment held
      rcases leads.2 payment held with known | unbacked
      · exact .inr (.inr ⟨row, member, known⟩)
      · exact .inr (.inl unbacked)
  case saveCart cart =>
    generalize (perform contractual choice world ⟨frame, .saveCart cart⟩).1 = reply at leads
    rcases reply with error | _
    · rcases leads with leads | ⟨none, tender, holds, nextHolds⟩
      · exact succeeds_idle leads
      · refine .holds tender nextHolds (.kept cart rfl holds) ?_
        rintro payment ⟨held, impossible, _⟩
        cases none.symm.trans impossible
    · exact succeeds_idle leads
  case fetchPaymentIntentsAwaitingReversal limit =>
    generalize answered : (perform contractual choice world
      ⟨frame, .fetchPaymentIntentsAwaitingReversal limit⟩).1 = reply at leads
    rcases reply with error | rows
    · exact succeeds_idle leads
    · obtain ⟨owed, idle, cart⟩ := leads
      refine .sweeps { paying := idle.paying, taken := idle.taken, cart := cart, owed := ?_, voided := ?_ }
      · intro old member
        rcases owed with same | same
        · rw [same] at member
          exact .inr (fetched_intents answered old member)
        · rw [same] at member
          cases member
      · intro voided
        cases idle.voided.symm.trans voided
  case void provider wanted =>
    obtain ⟨intent, owes, _⟩ := proper
    have same : next.frame = { frame with voided := (perform contractual choice world
      ⟨frame, .void provider wanted⟩).1.isOk } := leads
    refine .sweeps { paying := ?_, taken := ?_, cart := ?_, owed := ?_, voided := ?_ }
    · rw [same]; exact owes.paying
    · rw [same]; exact owes.taken
    · rw [same]; exact owes.cart
    · intro old member
      rw [same] at member
      exact .inl member
    · intro voided
      rw [same] at voided ⊢
      refine ⟨rfl, provider, wanted, rfl, ?_⟩
      generalize answered : (perform contractual choice world ⟨frame, .void provider wanted⟩).1 = reply at voided
      rcases reply with error | _
      · cases voided
      · exact answered
  case markPaymentIntentReversed id =>
    obtain ⟨intent, owes, _⟩ := proper
    exact succeeds_worked owes leads
  case recordPaymentIntentReversalFailure id error =>
    obtain ⟨intent, owes, _⟩ := proper
    exact succeeds_worked owes leads
  all_goals exact succeeds_idle leads

end Succession

/-! ### Attempts -/

/-- Owed back to the customer, or given back already. -/
def Owed (row : PaymentIntentRow) : Prop := row.state = .reversalPending ∨ row.state = .reversed

instance (row : PaymentIntentRow) : Decidable (Owed row) := inferInstanceAs (Decidable (_ ∨ _))

/-- The intent that a retried command finds has the property. -/
def Finds (property : PaymentIntentRow → Prop) (world : HubWorld) (request : Request) : Prop :=
  match request.call with
  | .findPaymentIntent key provider tenderId =>
    ∀ row ∈ PaymentIntents.findByKey key provider tenderId world.db.paymentIntents, property row
  | _ => True

instance (property : PaymentIntentRow → Prop) [DecidablePred property] (world : HubWorld) (request : Request) :
    Decidable (Finds property world request) := by
  unfold Finds
  split <;> infer_instance

/-- A retried command does not find its intent owed back. -/
def RevivesNothing (world : HubWorld) (request : Request) : Prop := Finds (¬Owed ·) world request

theorem Finds.found {property : PaymentIntentRow → Prop} {world : HubWorld} {request : Request}
    (finds : Finds property world request) {key tenderId : Uuid} {provider : String} {row : PaymentIntentRow}
    (called : request.call = .findPaymentIntent key provider tenderId)
    (found : PaymentIntents.findByKey key provider tenderId world.db.paymentIntents = some row) : property row := by
  unfold Finds at finds
  rw [called] at finds
  exact finds row found

def revivesNothing : Condition Request HubWorld (Choice ProviderAnswer) :=
  { step := fun world _ request _ => RevivesNothing world request, drop := fun _ _ _ => True }

/-- An attempt that has not been captured knows no payment id. -/
def Untold (world : HubWorld) : Prop :=
  ∀ row ∈ world.db.paymentIntents, row.state ≠ .captured → row.state ≠ .settled → ¬Owed row →
    row.providerPaymentId = none

/-- Nobody but the command that pays has moved the intent, except for settling it. -/
def Underway (row : PaymentIntentRow) : Prop :=
  row.state ≠ .captured ∧ ¬Owed row ∧ row.providerPaymentId = none

structure Works (world : HubWorld) (request : Request) : Prop where
  paying : ∀ tender, request.frame.paying = some tender →
    ∀ row ∈ world.db.paymentIntents, row.id = tender.intent → Underway row
  owed : ∀ old ∈ request.frame.owed, ∀ row ∈ world.db.paymentIntents, row.id = old.id → Owed row

section Step
variable {choice : Choice ProviderAnswer} {world : HubWorld} {request : Request} {row : PaymentIntentRow}

/-- Only the command that pays for an intent, or holds its tender, touches it by its id. -/
theorem own_of_paying (sound : Sound world) (standing : Standing world request)
    (member : row ∈ world.db.paymentIntents) {tender : IntentTender}
    (live : request.frame.paying = some tender ∨ request.frame.taken = some tender)
    (same : tender.intent = row.id) : request.frame.key = some row.idempotencyKey := by
  have stands : Stands world request.frame.key tender :=
    live.elim (standing.paying tender) (standing.taken tender)
  obtain ⟨other, present, id, own, _⟩ := stands
  obtain rfl := sound.same_row member present (id.trans same)
  exact own

/-- Only the command that pays for an intent sends an authorization under its key. -/
theorem authorizes_paying {provider : String} {wanted : AuthorizeRequest} (sound : Sound world)
    (standing : Standing world request) (member : row ∈ world.db.paymentIntents)
    (called : request.call = .authorize provider wanted) (own : row.provider = provider)
    (key : authorizeKey row = wanted.idempotencyKey) :
    ∃ tender, Pays request.frame tender ∧ tender.intent = row.id := by
  have proper := standing.proper
  obtain ⟨frame, call⟩ := request
  cases called
  obtain ⟨tender, opener, pays, _, provider', keyed, wantedKey⟩ := proper
  obtain ⟨other, present, id, otherKey, otherProvider, otherTender, _⟩ := standing.paying tender pays.paying
  cases keyed.symm.trans otherKey
  rw [wantedKey] at key
  unfold authorizeKey providerIdempotencyKey at key
  injection key with sameKey sameTender
  have same : row = other := by
    apply List.inj_on_of_nodup_map sound.attempts member present
    rw [attempt, attempt, sameKey, sameTender, otherTender, own, otherProvider, provider']
  exact ⟨tender, pays, by rw [same, id]⟩

theorem closes_paying (proper : Proper request)
    (called : (∃ code, request.call = .markPaymentIntentDeclined row.id code) ∨
      ∃ error, request.call = .markPaymentIntentFailed row.id error) :
    ∃ tender, Pays request.frame tender ∧ tender.intent = row.id := by
  obtain ⟨frame, call⟩ := request
  rcases called with ⟨code, called⟩ | ⟨error, called⟩
  · cases called
    exact proper
  · cases called
    exact proper

theorem captures_paying {paymentId : String} {cents : Nat} (proper : Proper request)
    (called : request.call = .markPaymentIntentCaptured row.id paymentId cents) :
    ∃ tender, Pays request.frame tender ∧ tender.intent = row.id ∧ tender.paymentId = some paymentId := by
  obtain ⟨frame, call⟩ := request
  cases called
  exact proper

theorem flags_live {paymentId : Option String} {reason : String} (proper : Proper request)
    (called : request.call = .flagPaymentIntentForReversal row.id paymentId reason) :
    ∃ tender, tender.intent = row.id ∧ (tender.paymentId = none ∨ paymentId = tender.paymentId) ∧
      (Pays request.frame tender ∨ Holds request.frame tender ∧ paymentId = tender.paymentId) := by
  obtain ⟨frame, call⟩ := request
  cases called
  exact proper

theorem reverses_owed (proper : Proper request) (called : request.call = .markPaymentIntentReversed row.id) :
    ∃ intent, Owes request.frame intent ∧ intent.id = row.id ∧
      (intent.providerPaymentId = none ∨ request.frame.voided = true) := by
  obtain ⟨frame, call⟩ := request
  cases called
  exact proper

/-- What is owed stays owed, or is given back. -/
theorem owed_after (standing : Standing world request) (works : Works world request)
    (member : row ∈ world.db.paymentIntents) (owed : Owed row) : Owed (rowAfter choice request.call row) := by
  rcases rowAfter_cases choice request.call row with same | ⟨_, change⟩
  · rwa [same]
  · cases change with
    | retried state _ _ => unfold Owed; rwa [state]
    | captured paymentId cents called _ _ _ =>
      obtain ⟨tender, pays, same, _⟩ := captures_paying standing.proper called
      exact absurd owed (works.paying tender pays.paying row member same.symm).2.1
    | closed called _ _ _ =>
      obtain ⟨tender, pays, same⟩ := closes_paying standing.proper called
      exact absurd owed (works.paying tender pays.paying row member same.symm).2.1
    | settled _ _ taken _ _ _ => rcases owed with state | state <;> simp [state] at taken
    | flagged _ _ _ state _ _ => exact .inl state
    | abandoned _ taken _ _ _ => rcases owed with state | state <;> simp [state] at taken
    | reversed _ state _ _ => exact .inr state

/-- How an intent came to be owed back, or given back. -/
theorem owed_by (owed : Owed (rowAfter choice request.call row)) :
    Owed row ∧ (rowAfter choice request.call row).providerPaymentId = row.providerPaymentId ∨
      (∃ paymentId reason, request.call = .flagPaymentIntentForReversal row.id paymentId reason ∧
        (rowAfter choice request.call row).providerPaymentId = paymentId.or row.providerPaymentId) ∨
      row.state = .captured ∨ request.call = .markPaymentIntentReversed row.id := by
  rcases rowAfter_cases choice request.call row with same | ⟨_, change⟩
  · rw [same] at owed ⊢
    exact .inl ⟨owed, rfl⟩
  · cases change with
    | retried state same _ =>
      unfold Owed at owed
      rw [state] at owed
      exact .inl ⟨owed, same⟩
    | captured _ _ _ state _ _ => rcases owed with owed | owed <;> cases state.symm.trans owed
    | closed _ state _ _ =>
      rcases state with state | state <;> rcases owed with owed | owed <;> cases state.symm.trans owed
    | settled _ _ _ state _ _ => rcases owed with owed | owed <;> cases state.symm.trans owed
    | flagged paymentId reason called _ same _ => exact .inr (.inl ⟨paymentId, reason, called, same⟩)
    | abandoned _ taken _ _ _ => exact .inr (.inr (.inl taken))
    | reversed called _ _ _ => exact .inr (.inr (.inr called))

/-- A request that runs no statement leaves a row as it was. -/
theorem row_unmoved (quiet : statement request.call = none) (sound : Sound world) {after old : PaymentIntentRow}
    (member : after ∈ (perform contractual choice world request).2.db.paymentIntents)
    (present : old ∈ world.db.paymentIntents) (same : after.id = old.id) : after = old := by
  rcases mem_perform_intents.mp member with ⟨row, there, rfl⟩ | opens
  · rw [rowAfter_unchanged quiet, id] at same ⊢
    exact sound.same_row present there same
  · obtain ⟨_, _, _, _, apart⟩ := opened_new opens
    exact absurd same.symm (apart old present).1

/-- Another command leaves an intent underway as it is, except for settling it. -/
theorem underway_after {key : Uuid} (sound : Sound world) (standing : Standing world request)
    (works : Works world request) (member : row ∈ world.db.paymentIntents) (own : row.idempotencyKey = key)
    (other : request.frame.key ≠ some key) (underway : Underway row) :
    Underway (rowAfter choice request.call row) := by
  have apart {tender : IntentTender}
      (live : request.frame.paying = some tender ∨ request.frame.taken = some tender)
      (same : tender.intent = row.id) : False :=
    other (own ▸ own_of_paying sound standing member live same)
  rcases rowAfter_cases choice request.call row with same | ⟨_, change⟩
  · rwa [same]
  · cases change with
    | retried state paymentId _ => unfold Underway Owed; rwa [state, paymentId]
    | captured paymentId cents called _ _ _ =>
      obtain ⟨tender, pays, same, _⟩ := captures_paying standing.proper called
      exact (apart (.inl pays.paying) same).elim
    | closed called _ _ _ =>
      obtain ⟨tender, pays, same⟩ := closes_paying standing.proper called
      exact (apart (.inl pays.paying) same).elim
    | settled _ _ _ state paymentId _ =>
      unfold Underway Owed
      rw [state, paymentId]
      exact ⟨by simp, by simp, underway.2.2⟩
    | flagged _ _ called _ _ _ =>
      obtain ⟨tender, same, _, pays | ⟨holds, _⟩⟩ := flags_live standing.proper called
      · exact (apart (.inl pays.paying) same).elim
      · exact (apart (.inr holds.taken) same).elim
    | abandoned _ taken _ _ _ => exact absurd taken underway.1
    | reversed called _ _ _ =>
      obtain ⟨intent, owes, same, _⟩ := reverses_owed standing.proper called
      obtain ⟨rest, first⟩ := owes.owed
      exact absurd (works.owed intent (first ▸ List.mem_cons_self) row member same.symm) underway.2.1

theorem untold_after (standing : Standing world request) (works : Works world request) (untold : Untold world) :
    Untold (perform contractual choice world request).2 := by
  intro after member uncaptured unsettled unowed
  rcases mem_perform_intents.mp member with ⟨row, present, rfl⟩ | opens
  · rcases rowAfter_cases choice request.call row with same | ⟨_, change⟩
    · rw [same] at uncaptured unsettled unowed ⊢
      exact untold row present uncaptured unsettled unowed
    · cases change with
      | retried state paymentId _ =>
        unfold Owed at unowed
        rw [state] at uncaptured unsettled unowed
        exact paymentId.trans (untold row present uncaptured unsettled unowed)
      | closed called _ paymentId _ =>
        obtain ⟨tender, pays, same⟩ := closes_paying standing.proper called
        exact paymentId.trans (works.paying tender pays.paying row present same.symm).2.2
      | captured _ _ _ state _ _ => exact absurd state uncaptured
      | settled _ _ _ state _ _ => exact absurd state unsettled
      | flagged _ _ _ state _ _ => exact absurd (.inl state) unowed
      | abandoned _ _ state _ _ => exact absurd (.inl state) unowed
      | reversed _ state _ _ => exact absurd (.inr state) unowed
  · obtain ⟨id, input, _, rfl, _⟩ := opened_new opens
    rfl

/-- The rows with the identity of one that was there before come from it. -/
theorem row_from (sound : Sound world) {after old : PaymentIntentRow}
    (member : after ∈ (perform contractual choice world request).2.db.paymentIntents)
    (present : old ∈ world.db.paymentIntents) (same : after.id = old.id) :
    after = rowAfter choice request.call old := by
  rcases mem_perform_intents.mp member with ⟨row, there, rfl⟩ | opens
  · rw [identity_id (rowAfter_identity choice request.call row)] at same
    rw [sound.same_row present there same]
  · obtain ⟨_, _, _, _, apart⟩ := opened_new opens
    exact absurd same.symm (apart old present).1

theorem works_other {other : Request} {others : Multiset Request} (distinct : Distinct (request ::ₘ others))
    (member : other ∈ others) (sound : Sound world) (standing : ∀ waiting ∈ request ::ₘ others, Standing world waiting)
    (works : ∀ waiting ∈ request ::ₘ others, Works world waiting) :
    Works (perform contractual choice world request).2 other := by
  have own := standing request (Multiset.mem_cons_self _ _)
  have waits := standing other (Multiset.mem_cons_of_mem member)
  have ownWorks := works request (Multiset.mem_cons_self _ _)
  have otherWorks := works other (Multiset.mem_cons_of_mem member)
  constructor
  · intro tender paying after present same
    obtain ⟨row, old, id, keyed, _⟩ := waits.paying tender paying
    obtain rfl := row_from sound present old (same.trans id.symm)
    apply underway_after sound own ownWorks old rfl
    · intro clash
      exact distinct.apart clash member keyed
    · exact otherWorks.paying tender paying row old id
  · intro listed owed after present same
    obtain ⟨row, old, continues⟩ := waits.owed listed owed
    have id := identity_id continues.1
    obtain rfl := row_from sound present old (same.trans id.symm)
    exact owed_after own ownWorks old (otherWorks.owed listed owed row old id)

theorem works_next {next : Request} (sound : Sound world) (standing : Standing world request)
    (works : Works world request) (untold : Untold world) (fresh : RevivesNothing world request)
    (follows : conduct.follows request (perform contractual choice world request).1 next) :
    Works (perform contractual choice world request).2 next := by
  have nobody {frame : Frame} (none' : frame.owed = []) : ∀ old ∈ frame.owed, ∀ row ∈
      (perform contractual choice world request).2.db.paymentIntents, row.id = old.id → Owed row := by
    intro old member
    rw [none'] at member
    cases member
  cases succeeds standing.proper follows with
  | idle idle _ => exact ⟨fun tender paying => absurd (idle.paying.symm.trans paying) (by simp), nobody idle.owed⟩
  | holds tender holds _ _ =>
    exact ⟨fun tender paying => absurd (holds.paying.symm.trans paying) (by simp), nobody holds.owed⟩
  | pays tender pays _ paying =>
    refine ⟨?_, nobody pays.owed⟩
    intro other live after member same
    cases Option.some.inj (pays.paying.symm.trans live)
    cases paying with
    | asking before waits intent asks =>
      have quiet : statement request.call = none := by
        rcases asks with ⟨_, _, called⟩ | ⟨_, _, called⟩ <;> rw [called] <;> rfl
      obtain ⟨row, old, id, _⟩ := standing.paying before waits.paying
      rw [row_unmoved quiet sound member old (same.trans (intent.symm.trans id.symm))]
      exact works.paying before waits.paying row old id
    | resumed key provider tenderId row called found id uncaptured unsettled =>
      have present : row ∈ world.db.paymentIntents := List.mem_of_find?_eq_some found
      have quiet : statement request.call = none := by rw [called]; rfl
      rw [row_unmoved quiet sound member present (same.trans id.symm)]
      have unowed := Finds.found fresh called found
      exact ⟨uncaptured, unowed, untold row present uncaptured unsettled unowed⟩
    | started id input called opens new =>
      rw [(sound_after choice sound standing).same_row (opened_present opens) member (same.trans new.symm)]
      exact ⟨by simp [PaymentIntents.newRow], by simp [Owed, PaymentIntents.newRow], rfl⟩
  | sweeps swept =>
    refine ⟨fun tender paying => absurd (swept.paying.symm.trans paying) (by simp), ?_⟩
    intro old member after present same
    rcases swept.owed old member with kept | ⟨listed, state⟩
    · obtain ⟨row, there, continues⟩ := standing.owed old kept
      have id := identity_id continues.1
      rw [row_from sound present there (same.trans id.symm)]
      exact owed_after standing works there (works.owed old kept row there id)
    · rw [row_from sound present listed same]
      exact owed_after standing works listed (.inl state)

end Step

theorem attempts_apart (app : AppState) :
    Invariant (hub app) conduct revivesNothing Opens fun world pending =>
      Base world pending ∧ Untold world ∧ ∀ request ∈ pending, Works world request := by
  apply ((ledger_sound app).under (fun _ _ _ _ _ => trivial) fun _ _ _ _ => trivial).extend
  refine { started := ?_, kept := ?_, continued := ?_ }
  · intro world others task request opens base _
    obtain ⟨_, _, idle, _⟩ := opens
    constructor
    · intro tender paying
      cases idle.paying.symm.trans paying
    · intro old member
      rw [idle.owed] at member
      cases member
  · intro choice world others request _ base untold works
    obtain ⟨distinct, sound, standing⟩ := base
    have own := standing request (Multiset.mem_cons_self _ _)
    refine ⟨untold_after own (works request (Multiset.mem_cons_self _ _)) untold, ?_⟩
    intro other member
    exact works_other distinct (Multiset.mem_coe.mpr member) sound standing works
  · intro choice world others request next fresh base untold works follows _ _
    obtain ⟨distinct, sound, standing⟩ := base
    exact works_next sound (standing request (Multiset.mem_cons_self _ _))
      (works request (Multiset.mem_cons_self _ _)) untold fresh follows

/-! A small shop with one cart, for runs that go wrong. -/

section Shop

def shop : AppState := { storeId := 1, providers := ["card"], currency := "EUR" }

def basket : Cart :=
  { Cart.new 10 1 2 0 with
    state := .tendering
    lines := [{ lineId := 11, itemId := 12, sku := "tea", name := "Tea", quantity := 1, modifierOptionIds := []
                notes := none, unitPriceCents := 1000, lineTotalCents := 1000, discountCents := 0, taxCents := 0
                taxInclusive := true }] }

def opening : HubWorld :=
  { db := { responses := [], carts := [⟨10, 1, 2, .tendering, basket⟩], paymentIntents := [], orders := []
            outbox := [], returns := ⟨[], [], [], []⟩ }
    remote := .empty }

def command (key : Uuid) (payload : PosCommand) : Event (Choice ProviderAnswer) Hub.Task :=
  .start (.command none
    { version := .v1_0_0, idempotencyKey := key, storeId := 1, registerId := 2, payload := payload })

def pay (key : Uuid) : Event (Choice ProviderAnswer) Hub.Task :=
  command key (.addPayment
    { cartId := 10, tenderId := 20, amountCents := 1000, tipAmountCents := 0, externalReference := none
      provider := some "card", providerPaymentId := none, entryMethod := none })

def finalize (key : Uuid) : Event (Choice ProviderAnswer) Hub.Task := command key (.finalizeOrder ⟨10⟩)

def sweep : Event (Choice ProviderAnswer) Hub.Task := .start (.sweep ⟨900, 25⟩)

def services (wanted : Service) : wanted.Reply :=
  match wanted with
  | .fetchOpenShift .. => .ok none
  | .signOrQueue .. =>
    .ok { provider := none, fiscalId := none, signature := none, qrPayload := none, signedAt := none, pending := false }
  | .earnLoyaltyPoints .. => .ok ()
  | .commitCartSale .. => .ok ()
  | .releaseCartReservations .. => .ok ()
  | .getCustomer .. => .ok none
  | .listPromotions .. => .ok []
  | .getPrintTemplate .. => .ok none
  | .generateDocument .. => .ok ()
  | .printReceipt .. => none

def approves : ProviderAnswer :=
  { creates := some "pay_1", holds := true, failure := none, outcome := .approved, cents := 1000, tipCents := 0
    receipt := ⟨"card", "pay_1", none, none, none, none⟩, refundId := "re_1" }

def choice (now freshId : Nat) (answer : ProviderAnswer) : Choice ProviderAnswer :=
  { now := now, freshId := freshId, storageFailure := none, answer := answer, service := services }

/-- Answer the first program `count` times. -/
def steps (count now freshId : Nat) : List (Event (Choice ProviderAnswer) Hub.Task) :=
  (List.range count).map fun step => .step 0 (choice now (freshId + step) approves)

end Shop

end ApexEdge.Proofs.Attempts
