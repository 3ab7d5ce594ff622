import ApexEdge.Proofs.StripeErrors

/-! When an approval is backed by the payment intent of the very call. A reader
is shared and keeps the action of another sale, and a card may authorize less
than the intent asks for; the adapter looks at neither. -/

namespace ApexEdge.Proofs.StripeApproval
open Library Payment Payment.StripeTerminal StripeErrors

/-- A payment intent as Stripe holds it. -/
structure IntentState where
  status : String
  amount : Nat
  amountCapturable : Nat

/-- What a reader last did, and for which payment intent. -/
structure ActionState where
  paymentIntent : String
  result : Option ReaderAction

/-- Stripe at each moment of one call: the reader, which other registers drive
too, every payment intent, and truthful answers to reading them. -/
structure Stripe (config : Config) where
  answers : Answers
  action : Nat → Option ActionState
  intent : Nat → String → IntentState
  readerTold : ∀ sent reader, polled config answers sent = .ok reader →
    readerAction reader = (action sent).bind ActionState.result
  intentTold : ∀ sent id json, confirmed answers id sent = .ok json →
    status json = some (intent sent id).status ∧
    (json.get "amount").bind Json.asU64 = some (intent sent id).amount ∧
    (json.get "amount_capturable").bind Json.asU64 = some (intent sent id).amountCapturable

def IntentState.CapturableFor (state : IntentState) (cents : Nat) : Prop :=
  state.status = "requires_capture" ∧ cents ≤ state.amountCapturable

variable {config : Config}

/-- An approval of `a` cents comes with this call's own intent, authorized and
capturable for `a` cents at the call's last request. -/
def ApprovalReal (stripe : Stripe config) (patience : Nat) (request : AuthorizeRequest) : Prop :=
  ∀ authorization sent, outcome config patience request stripe.answers = (.ok authorization, sent) →
    authorization.isApproved → ∃ id, answeredId request stripe.answers = .ok id ∧
      (stripe.intent (sent - 1) id).CapturableFor authorization.approvedCents

/-- The reader stays readable and unresolved up to request `sent`, and then shows a success. -/
def SucceedsAt (stripe : Stripe config) (patience sent : Nat) : Prop :=
  2 ≤ sent ∧ sent ≤ patience + 2 ∧
  (∀ earlier, 2 ≤ earlier → earlier < sent →
    (∃ reader, polled config stripe.answers earlier = .ok reader) ∧
      (stripe.action earlier).bind ActionState.result = none) ∧
  (∃ reader, polled config stripe.answers sent = .ok reader) ∧
    (stripe.action sent).bind ActionState.result = some .succeeded

/-- The card is on the call's own intent, for all of it, by the time a success
shown by the reader is followed up. -/
def AuthorizedInFull (stripe : Stripe config) (patience : Nat) (request : AuthorizeRequest) : Prop :=
  ∀ id sent, answeredId request stripe.answers = .ok id →
    (∃ reader, processed config request stripe.answers id = .ok reader) →
    SucceedsAt stripe patience sent →
    (∃ json, confirmed stripe.answers id (sent + 1) = .ok json) →
    (stripe.intent (sent + 1) id).CapturableFor (stripe.intent (sent + 1) id).amount

section Polling
variable (stripe : Stripe config) {id : String}

theorem awaitReaderAction_succeeds {patience start sent : Nat} (from_ : start ≤ sent)
    (within : sent ≤ patience + start)
    (unresolved : ∀ earlier, start ≤ earlier → earlier < sent →
      (∃ reader, polled config stripe.answers earlier = .ok reader) ∧
        (stripe.action earlier).bind ActionState.result = none)
    (readable : ∃ reader, polled config stripe.answers sent = .ok reader)
    (success : (stripe.action sent).bind ActionState.result = some .succeeded) :
    (awaitReaderAction config id patience).run (reply stripe.answers) start =
      (.ok .succeeded, sent + 1) := by
  by_cases here : start = sent
  · subst here
    obtain ⟨reader, heard⟩ := readable
    exact awaitReaderAction_resolved heard ((stripe.readerTold _ _ heard).trans success)
  · obtain ⟨⟨reader, heard⟩, idle⟩ := unresolved start (Nat.le_refl _) (by omega)
    rw [awaitReaderAction_unresolved heard ((stripe.readerTold _ _ heard).trans idle)]
    cases patience with
    | zero => omega
    | succ patience =>
      exact awaitReaderAction_succeeds (by omega) (by omega)
        (fun earlier after before => unresolved earlier (by omega) before) readable success

/-- The poll ends in a success only by way of a first resolved poll that shows one. -/
theorem awaitReaderAction_succeeded {patience start after : Nat}
    (ended : (awaitReaderAction config id patience).run (reply stripe.answers) start =
      (.ok .succeeded, after)) :
    ∃ sent, after = sent + 1 ∧ start ≤ sent ∧ sent ≤ patience + start ∧
      (∀ earlier, start ≤ earlier → earlier < sent →
        (∃ reader, polled config stripe.answers earlier = .ok reader) ∧
          (stripe.action earlier).bind ActionState.result = none) ∧
      (∃ reader, polled config stripe.answers sent = .ok reader) ∧
        (stripe.action sent).bind ActionState.result = some .succeeded := by
  cases heard : polled config stripe.answers start with
  | error error =>
    rw [awaitReaderAction_unreadable heard] at ended
    cases ended
  | ok reader =>
    have told := stripe.readerTold _ _ heard
    cases resolved : readerAction reader with
    | some action =>
      rw [awaitReaderAction_resolved heard resolved] at ended
      cases ended
      refine ⟨start, rfl, Nat.le_refl _, by omega, ?_, ⟨reader, heard⟩, told.symm.trans resolved⟩
      intro earlier after before
      omega
    | none =>
      rw [awaitReaderAction_unresolved heard resolved] at ended
      cases patience with
      | zero => cases ended
      | succ patience =>
        obtain ⟨sent, last, later, within, unresolved, readable, success⟩ :=
          awaitReaderAction_succeeded ended
        refine ⟨sent, last, by omega, by omega, ?_, readable, success⟩
        intro earlier from_ before
        by_cases here : earlier = start
        · subst here
          exact ⟨⟨reader, heard⟩, told.symm.trans resolved⟩
        · exact unresolved earlier (by omega) before

end Polling

theorem approval_isApproved (request : AuthorizeRequest) (id : String) (json : Json) :
    (approval request id json).isApproved = true := by
  unfold approval PaymentAuthorization.isApproved
  by_cases partly : ((json.get "amount").bind Json.asU64).getD request.amountCents < request.amountCents <;>
    simp [partly]

theorem approval_approvedCents (stripe : Stripe config) {request : AuthorizeRequest} {id : String}
    {sent : Nat} {json : Json} (told : confirmed stripe.answers id sent = .ok json) :
    (approval request id json).approvedCents = (stripe.intent sent id).amount := by
  obtain ⟨-, amount, -⟩ := stripe.intentTold sent id json told
  simp [approval, amount]

/-- Every approval goes through a success of the reader and a reading of the own intent. -/
theorem approved_only_after_success (stripe : Stripe config) {patience : Nat} {request : AuthorizeRequest}
    {authorization : PaymentAuthorization} {sent : Nat}
    (ran : outcome config patience request stripe.answers = (.ok authorization, sent))
    (approved : authorization.isApproved) :
    ∃ id success json, answeredId request stripe.answers = .ok id ∧
      (∃ reader, processed config request stripe.answers id = .ok reader) ∧
      SucceedsAt stripe patience success ∧ sent = success + 2 ∧
      confirmed stripe.answers id (success + 1) = .ok json ∧
      authorization = approval request id json := by
  by_cases amount : request.amountCents = 0
  · rw [outcome_of_no_amount amount] at ran
    cases ran
  cases named : answeredId request stripe.answers with
  | error error =>
    rw [outcome_of_unnamed amount named] at ran
    cases ran
  | ok id =>
    rw [outcome_of_named amount named] at ran
    cases accepted : processed config request stripe.answers id with
    | error error =>
      rw [continued_of_unprocessed accepted] at ran
      cases ran
    | ok reader =>
      rcases ended : (awaitReaderAction config id patience).run (reply stripe.answers) 2 with ⟨result, after⟩
      cases result with
      | error error =>
        rw [continued_of_poll_error accepted ended] at ran
        cases ran
      | ok action =>
        cases action with
        | failed code message =>
          rw [continued_of_failed accepted ended] at ran
          cases ran
          cases approved
        | succeeded =>
          rw [continued_of_succeeded accepted ended] at ran
          obtain ⟨success, rfl, from_, within, unresolved, readable, shown⟩ :=
            awaitReaderAction_succeeded stripe ended
          cases told : confirmed stripe.answers id (success + 1) with
          | error error =>
            rw [told] at ran
            cases ran
          | ok json =>
            rw [told] at ran
            cases ran
            exact ⟨id, success, json, rfl, ⟨reader, accepted⟩,
              ⟨from_, within, unresolved, readable, shown⟩, rfl, told, rfl⟩

theorem outcome_of_success (stripe : Stripe config) {patience : Nat} {request : AuthorizeRequest}
    {id : String} {success : Nat} {reader json : Json} (named : answeredId request stripe.answers = .ok id)
    (accepted : processed config request stripe.answers id = .ok reader)
    (shown : SucceedsAt stripe patience success)
    (told : confirmed stripe.answers id (success + 1) = .ok json) (amount : request.amountCents ≠ 0) :
    outcome config patience request stripe.answers = (.ok (approval request id json), success + 2) := by
  obtain ⟨from_, within, unresolved, readable, success'⟩ := shown
  rw [outcome_of_named amount named, continued_of_succeeded accepted
    (awaitReaderAction_succeeds stripe from_ within unresolved readable success'), told]

/-- Approvals are real exactly when a card has been put on the call's own intent
in full whenever the reader shows a success. -/
theorem approvalReal_iff (stripe : Stripe config) (patience : Nat) (request : AuthorizeRequest) :
    ApprovalReal stripe patience request ↔
      request.amountCents = 0 ∨ AuthorizedInFull stripe patience request := by
  by_cases amount : request.amountCents = 0
  · simp [ApprovalReal, outcome_of_no_amount amount, amount]
  constructor
  · intro real
    refine .inr fun id success named ⟨reader, accepted⟩ shown ⟨json, told⟩ => ?_
    obtain ⟨own, same, capturable⟩ := real _ _ (outcome_of_success stripe named accepted shown told amount)
      (approval_isApproved request id json)
    cases named.symm.trans same
    rwa [approval_approvedCents stripe told] at capturable
  · rintro (nothing | authorized) authorization sent ran approved
    · exact absurd nothing amount
    · obtain ⟨id, success, json, named, accepted, shown, rfl, told, rfl⟩ :=
        approved_only_after_success stripe ran approved
      refine ⟨id, named, ?_⟩
      rw [approval_approvedCents stripe told]
      exact authorized id success named accepted shown ⟨json, told⟩

/-- A reader that nobody else drives, and a card that never authorizes less than
it was asked for, are enough. -/
theorem authorizedInFull_of_own_action (stripe : Stripe config) (patience : Nat) (request : AuthorizeRequest)
    (own : ∀ sent action, stripe.action sent = some action →
      answeredId request stripe.answers = .ok action.paymentIntent)
    (settled : ∀ sent action, stripe.action sent = some action → action.result = some .succeeded →
      (stripe.intent (sent + 1) action.paymentIntent).CapturableFor
        (stripe.intent (sent + 1) action.paymentIntent).amount) :
    AuthorizedInFull stripe patience request := by
  rintro id sent named - ⟨-, -, -, -, shown⟩ -
  cases taken : stripe.action sent with
  | none => simp [taken] at shown
  | some action =>
    rw [taken] at shown
    cases named.symm.trans (own sent action taken)
    exact settled sent action taken shown

private def answering (json : Json) : HttpAnswer := .response ⟨200, "OK"⟩ (.ok ⟨"", .ok json⟩)

private theorem confirmPath_ne_readerPath (id readerId : String) :
    confirmPath id ≠ readerPath ⟨readerId⟩ := by
  intro same
  have letters := congrArg String.toList same
  unfold confirmPath intentPath readerPath at letters
  rw [String.toList_append, String.toList_append, String.toList_append,
    show "/v1/payment_intents/".toList = '/' :: 'v' :: '1' :: '/' :: 'p' :: "ayment_intents/".toList by decide,
    show "/v1/terminal/readers/".toList = '/' :: 'v' :: '1' :: '/' :: 't' :: "erminal/readers/".toList by decide]
    at letters
  simp only [List.cons_append, List.cons.injEq, true_and] at letters
  exact absurd letters.1 (by decide)

private theorem decode_answering (json : Json) : decode (answering json) = .ok json := rfl

private def otherSale : Json :=
  .object [("action", .object [("status", .string "succeeded"),
    ("process_payment_intent", .object [("payment_intent", .string "pi_1")])])]

private def unpresented : Json :=
  .object [("status", .string "requires_payment_method"), ("amount", .unsigned 1000),
    ("amount_capturable", .unsigned 0)]

/-- Another register's sale pi_1 has taken over the reader and succeeded; no card
was ever presented for pi_2. -/
def overriddenReader : Stripe ⟨"tmr_1"⟩ where
  answers _
    | .post path _ _ =>
      if path = intentsPath then answering (.object [("id", .string "pi_2")]) else answering (.object [])
    | .get path => if path = readerPath ⟨"tmr_1"⟩ then answering otherSale else answering unpresented
  action _ := some ⟨"pi_1", some .succeeded⟩
  intent _ _ := ⟨"requires_payment_method", 1000, 0⟩
  readerTold sent reader heard := by
    have same : reader = otherSale := by
      simp only [polled, if_pos, decode_answering, Except.ok.injEq] at heard
      exact heard.symm
    rw [same]
    decide +kernel
  intentTold sent id json heard := by
    have same : json = unpresented := by
      simp only [confirmed, if_neg (confirmPath_ne_readerPath id "tmr_1"), decode_answering,
        Except.ok.injEq] at heard
      exact heard.symm
    rw [same]
    decide +kernel

theorem overriddenReader_approval_not_real : ¬ApprovalReal overriddenReader 10 tenEuros := by
  intro real
  have named : answeredId tenEuros overriddenReader.answers = .ok "pi_2" := by
    simp only [answeredId, overriddenReader, if_pos, decode_answering]
    rfl
  have accepted : ∃ reader, processed ⟨"tmr_1"⟩ tenEuros overriddenReader.answers "pi_2" = .ok reader := by
    simp only [processed, overriddenReader]
    split <;> exact ⟨_, decode_answering _⟩
  have shown : SucceedsAt overriddenReader 10 2 := by
    refine ⟨Nat.le_refl _, by omega, by omega, ⟨otherSale, ?_⟩, rfl⟩
    simp only [polled, overriddenReader, if_pos, decode_answering]
  have told : confirmed overriddenReader.answers "pi_2" 3 = .ok unpresented := by
    simp only [confirmed, overriddenReader, if_neg (confirmPath_ne_readerPath "pi_2" "tmr_1"),
      decode_answering]
  obtain ⟨reader, accepted⟩ := accepted
  obtain ⟨id, -, status, -⟩ := real _ _
    (outcome_of_success _ named accepted shown told (by decide)) (approval_isApproved _ _ _)
  exact absurd status (show "requires_payment_method" ≠ "requires_capture" by decide)

end ApexEdge.Proofs.StripeApproval
