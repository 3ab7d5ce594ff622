import ApexEdge.Payment.StripeTerminal

/-! One call of the adapter against any answers, and which failures of an authorization name
the payment intent they leave behind. The answers are a function of the request and of how
many requests the call has made, so every sequence of statuses, bodies, failures and
timeouts is one of them. The shared request helpers cannot know how far the flow has come,
so every unreadable answer after the create loses the id. -/

namespace ApexEdge.Proofs.StripeErrors
open Library Payment Payment.StripeTerminal

/-- The answer to a call's request, after `sent` earlier ones. -/
abbrev Answers := Nat → HttpRequest → HttpAnswer

def reply (answers : Answers) (sent : Nat) (request : HttpRequest) : HttpAnswer × Nat :=
  (answers sent request, sent + 1)

/-- The payment intent id that the answer to the create request tells. -/
def answeredId (request : AuthorizeRequest) (answers : Answers) : Except PaymentProviderError String :=
  match decode (answers 0 (.post intentsPath request.idempotencyKey (createForm request))) with
  | .ok intent => intentId intent
  | .error error => .error error

def processed (config : Config) (request : AuthorizeRequest) (answers : Answers) (id : String) :
    Except PaymentProviderError Json :=
  decode (answers 1 (.post (processPath config) request.idempotencyKey [("payment_intent", id)]))

def polled (config : Config) (answers : Answers) (sent : Nat) : Except PaymentProviderError Json :=
  decode (answers sent (.get (readerPath config)))

def confirmed (answers : Answers) (id : String) (sent : Nat) : Except PaymentProviderError Json :=
  decode (answers sent (.get (confirmPath id)))

def outcome (config : Config) (patience : Nat) (request : AuthorizeRequest) (answers : Answers) :
    Except PaymentProviderError PaymentAuthorization × Nat :=
  (authorize config patience request).run (reply answers) 0

variable {config : Config} {patience : Nat} {request : AuthorizeRequest} {answers : Answers}

@[simp] theorem get_run (path : String) (sent : Nat) :
    (StripeTerminal.get path).run (reply answers) sent = (decode (answers sent (.get path)), sent + 1) := by
  unfold StripeTerminal.get
  rw [Fallible.run_bind_ok _ _ _ (Fallible.run_ask _ _ _)]
  rfl

@[simp] theorem postForm_run (path : String) (key : Uuid) (form : List (String × String)) (sent : Nat) :
    (postForm path key form).run (reply answers) sent =
      (decode (answers sent (.post path key form)), sent + 1) := by
  unfold postForm
  rw [Fallible.run_bind_ok _ _ _ (Fallible.run_ask _ _ _)]
  rfl

section Polling
variable {id : String} {sent : Nat} {reader : Json}

theorem awaitReaderAction_unreadable {error : PaymentProviderError}
    (heard : polled config answers sent = .error error) :
    (awaitReaderAction config id patience).run (reply answers) sent = (.error error, sent + 1) := by
  unfold awaitReaderAction
  exact Fallible.run_bind_error _ _ _ (by simpa [polled] using heard)

theorem awaitReaderAction_resolved {action : ReaderAction}
    (heard : polled config answers sent = .ok reader) (resolved : readerAction reader = some action) :
    (awaitReaderAction config id patience).run (reply answers) sent = (.ok action, sent + 1) := by
  unfold awaitReaderAction
  rw [Fallible.run_bind_ok _ reader (sent + 1) (by simpa [polled] using heard)]
  simp [resolved]

theorem awaitReaderAction_unresolved
    (heard : polled config answers sent = .ok reader) (unresolved : readerAction reader = none) :
    (awaitReaderAction config id patience).run (reply answers) sent =
      match patience with
      | 0 => (.error (.indeterminate providerCode (some id)
          "reader action did not resolve before the deadline"), sent + 1)
      | patience + 1 => (awaitReaderAction config id patience).run (reply answers) (sent + 1) := by
  rw [awaitReaderAction.eq_def,
    Fallible.run_bind_ok _ reader (sent + 1) (by simpa [polled] using heard)]
  cases patience <;> simp [unresolved]

end Polling

section Outcome

theorem outcome_of_no_amount (nothing : request.amountCents = 0) :
    outcome config patience request answers = (.error .invalidAmount, 0) := by
  unfold outcome authorize
  exact Fallible.run_bind_error _ _ _ (by simp [validateAmount, nothing])

theorem outcome_of_unnamed {error : PaymentProviderError} (amount : request.amountCents ≠ 0)
    (unnamed : answeredId request answers = .error error) :
    outcome config patience request answers = (.error error, 1) := by
  unfold outcome authorize
  rw [Fallible.run_bind_ok _ () 0 (by simp [validateAmount, amount])]
  unfold answeredId at unnamed
  cases heard : decode (answers 0 (.post intentsPath request.idempotencyKey (createForm request))) with
  | error reason =>
    simp only [heard, Except.error.injEq] at unnamed
    subst unnamed
    exact Fallible.run_bind_error _ _ _ (by simp [heard])
  | ok intent =>
    simp only [heard] at unnamed
    rw [Fallible.run_bind_ok _ intent 1 (by simp [heard])]
    exact Fallible.run_bind_error _ _ _ (by simp [unnamed])

/-- What the call does once its create was answered with an id. -/
def continued (config : Config) (patience : Nat) (request : AuthorizeRequest) (id : String) :
    Call PaymentAuthorization := do
  let _ ← postForm (processPath config) request.idempotencyKey [("payment_intent", id)]
  match ← awaitReaderAction config id patience with
  | .failed code message => return decline id code message
  | .succeeded =>
    let confirmed ← StripeTerminal.get (confirmPath id)
    return approval request id confirmed

theorem outcome_of_named {id : String} (amount : request.amountCents ≠ 0)
    (named : answeredId request answers = .ok id) :
    outcome config patience request answers =
      (continued config patience request id).run (reply answers) 1 := by
  unfold answeredId at named
  cases heard : decode (answers 0 (.post intentsPath request.idempotencyKey (createForm request))) with
  | error reason => simp [heard] at named
  | ok intent =>
    simp only [heard] at named
    unfold outcome authorize
    rw [Fallible.run_bind_ok _ () 0 (by simp [validateAmount, amount]),
      Fallible.run_bind_ok _ intent 1 (by simp [heard]),
      Fallible.run_bind_ok _ id 1 (by simp [named])]
    rfl

theorem continued_of_unprocessed {id : String} {error : PaymentProviderError}
    (refused : processed config request answers id = .error error) :
    (continued config patience request id).run (reply answers) 1 = (.error error, 2) := by
  unfold continued
  exact Fallible.run_bind_error _ _ _ (by simpa [processed] using refused)

theorem continued_of_poll_error {id : String} {reader : Json} {error : PaymentProviderError} {after : Nat}
    (accepted : processed config request answers id = .ok reader)
    (ended : (awaitReaderAction config id patience).run (reply answers) 2 = (.error error, after)) :
    (continued config patience request id).run (reply answers) 1 = (.error error, after) := by
  unfold continued
  rw [Fallible.run_bind_ok _ reader 2 (by simpa [processed] using accepted)]
  exact Fallible.run_bind_error _ _ _ ended

theorem continued_of_failed {id code message : String} {reader : Json} {after : Nat}
    (accepted : processed config request answers id = .ok reader)
    (ended : (awaitReaderAction config id patience).run (reply answers) 2 =
      (.ok (.failed code message), after)) :
    (continued config patience request id).run (reply answers) 1 =
      (.ok (decline id code message), after) := by
  unfold continued
  rw [Fallible.run_bind_ok _ reader 2 (by simpa [processed] using accepted),
    Fallible.run_bind_ok _ _ _ ended]
  rfl

theorem continued_of_succeeded {id : String} {reader : Json} {after : Nat}
    (accepted : processed config request answers id = .ok reader)
    (ended : (awaitReaderAction config id patience).run (reply answers) 2 = (.ok .succeeded, after)) :
    (continued config patience request id).run (reply answers) 1 =
      match confirmed answers id after with
      | .ok intent => (.ok (approval request id intent), after + 1)
      | .error error => (.error error, after + 1) := by
  unfold continued
  rw [Fallible.run_bind_ok _ reader 2 (by simpa [processed] using accepted),
    Fallible.run_bind_ok _ _ _ ended]
  unfold confirmed
  cases heard : decode (answers after (.get (confirmPath id))) with
  | ok intent => exact Fallible.run_bind_ok _ _ _ (by simp [heard])
  | error error => exact Fallible.run_bind_error _ _ _ (by simp [heard])

end Outcome

/-- A sale of ten euros, for the failing runs below. -/
def tenEuros : AuthorizeRequest :=
  { idempotencyKey := 1, cartId := 2, storeId := 3, registerId := 4, amountCents := 1000,
    tipAmountCents := 0, currency := "EUR" }

/-! ### Errors -/

/-- Any answers to the requests of one call, and the payment intent that its
create request left at Stripe, also when the answer to it was lost. -/
structure Exchanges (request : AuthorizeRequest) where
  answers : Answers
  created : Option String
  truthful : ∀ id, answeredId request answers = .ok id → created = some id

/-- What a call left at Stripe: nothing when it sent nothing. -/
def createdBy {request : AuthorizeRequest} (exchanges : Exchanges request) (sent : Nat) : Option String :=
  if sent = 0 then none else exchanges.created

/-- An error without a reversal check means that nothing was created, and an
error after the creation carries the id. -/
def ClassifiedSoundly (config : Config) (patience : Nat) (request : AuthorizeRequest)
    (exchanges : Exchanges request) : Prop :=
  ∀ error sent, outcome config patience request exchanges.answers = (.error error, sent) →
    (error.requiresReversalCheck = false → createdBy exchanges sent = none) ∧
    ∀ id, createdBy exchanges sent = some id → error.indeterminatePaymentId = some id

/-- From request `sent` on, the reader can be read until it resolves or time is
up, and after a success the payment intent can be read as well. -/
def ReadUntilResolved (config : Config) (answers : Answers) (id : String) (patience sent : Nat) : Prop :=
  match polled config answers sent with
  | .error _ => False
  | .ok reader =>
    match readerAction reader with
    | some (.failed _ _) => True
    | some .succeeded => ∃ intent, confirmed answers id (sent + 1) = .ok intent
    | none =>
      match patience with
      | 0 => True
      | patience + 1 => ReadUntilResolved config answers id patience (sent + 1)

/-- The answers that an authorization must get to name its payment in every error. -/
def Answered (config : Config) (patience : Nat) (request : AuthorizeRequest) (answers : Answers) : Prop :=
  ∃ id, answeredId request answers = .ok id ∧
    (∃ reader, processed config request answers id = .ok reader) ∧
    ReadUntilResolved config answers id patience 2

theorem decode_error_unnamed {answer : HttpAnswer} {error : PaymentProviderError}
    (failed : decode answer = .error error) : error.indeterminatePaymentId = none := by
  have transported (failure : ClientError) : (transportError failure).indeterminatePaymentId = none := by
    unfold transportError
    split <;> rfl
  cases answer with
  | failed failure =>
    cases failed
    exact transported failure
  | response status body =>
    cases body with
    | error failure =>
      cases failed
      exact transported failure
    | ok body =>
      simp only [decode, parse] at failed
      split at failed
      · cases failed; rfl
      · split at failed
        · cases failed; rfl
        · cases parsed : body.json with
          | ok json => simp [parsed] at failed
          | error reason =>
            simp only [parsed, Except.error.injEq] at failed
            cases failed
            rfl

theorem answeredId_error_unnamed {request : AuthorizeRequest} {answers : Answers}
    {error : PaymentProviderError} (failed : answeredId request answers = .error error) :
    error.indeterminatePaymentId = none := by
  unfold answeredId at failed
  split at failed
  · unfold intentId at failed
    split at failed
    · cases failed
    · cases failed; rfl
  · cases failed
    exact decode_error_unnamed ‹_›

section Outcome
variable {config : Config} {patience : Nat} {request : AuthorizeRequest} {answers : Answers} {id : String}

theorem not_readUntilResolved {sent : Nat} {error : PaymentProviderError}
    (heard : polled config answers sent = .error error) :
    ¬ReadUntilResolved config answers id patience sent := by
  rw [ReadUntilResolved.eq_def]
  simp [heard]

theorem readUntilResolved_iff {sent : Nat} {reader : Json} (heard : polled config answers sent = .ok reader) :
    ReadUntilResolved config answers id patience sent ↔
      match readerAction reader with
      | some (.failed _ _) => True
      | some .succeeded => ∃ intent, confirmed answers id (sent + 1) = .ok intent
      | none =>
        match patience with
        | 0 => True
        | patience + 1 => ReadUntilResolved config answers id patience (sent + 1) := by
  rw [ReadUntilResolved.eq_def]
  simp [heard]

/-- How the poll ends, read against the answers from request `sent` on. -/
def PollEnds (config : Config) (answers : Answers) (id : String) (patience sent : Nat)
    (result : Except PaymentProviderError ReaderAction) (after : Nat) : Prop :=
  match result with
  | .error error =>
    (ReadUntilResolved config answers id patience sent ∧ error.indeterminatePaymentId = some id) ∨
      (¬ReadUntilResolved config answers id patience sent ∧ error.indeterminatePaymentId = none)
  | .ok (.failed _ _) => ReadUntilResolved config answers id patience sent
  | .ok .succeeded =>
    ReadUntilResolved config answers id patience sent ↔ ∃ intent, confirmed answers id after = .ok intent

theorem awaitReaderAction_ends (config : Config) (answers : Answers) (id : String) (patience sent : Nat) :
    ∃ result after, (awaitReaderAction config id patience).run (reply answers) sent = (result, after) ∧
      sent < after ∧ PollEnds config answers id patience sent result after := by
  cases heard : polled config answers sent with
  | error error =>
    exact ⟨_, _, awaitReaderAction_unreadable heard, by omega,
      .inr ⟨not_readUntilResolved heard, decode_error_unnamed heard⟩⟩
  | ok reader =>
    cases resolved : readerAction reader with
    | some action =>
      refine ⟨_, _, awaitReaderAction_resolved heard resolved, by omega, ?_⟩
      cases action <;> simp [PollEnds, readUntilResolved_iff heard, resolved]
    | none =>
      rw [awaitReaderAction_unresolved heard resolved]
      cases patience with
      | zero =>
        refine ⟨_, _, rfl, by omega, .inl ⟨?_, rfl⟩⟩
        simp [readUntilResolved_iff heard, resolved]
      | succ patience =>
        obtain ⟨result, after, ran, later, ends⟩ :=
          awaitReaderAction_ends config answers id patience (sent + 1)
        refine ⟨result, after, ran, by omega, ?_⟩
        have same : ReadUntilResolved config answers id (patience + 1) sent ↔
            ReadUntilResolved config answers id patience (sent + 1) := by
          simp [readUntilResolved_iff heard, resolved]
        unfold PollEnds
        rw [same]
        exact ends

/-- Once the create has been answered with an id, an error names it exactly when
the remaining answers could be read. -/
theorem continued_ends (config : Config) (patience : Nat) (named : answeredId request answers = .ok id) :
    ∃ result after, (continued config patience request id).run (reply answers) 1 = (result, after) ∧
      0 < after ∧
      match result with
      | .error error =>
        (Answered config patience request answers ∧ error.indeterminatePaymentId = some id) ∨
          (¬Answered config patience request answers ∧ error.indeterminatePaymentId = none)
      | .ok _ => Answered config patience request answers := by
  have answered : Answered config patience request answers ↔
      (∃ reader, processed config request answers id = .ok reader) ∧
        ReadUntilResolved config answers id patience 2 := by
    simp [Answered, named]
  rw [answered]
  cases accepted : processed config request answers id with
  | error error =>
    exact ⟨_, _, continued_of_unprocessed accepted, by omega, .inr ⟨by simp, decode_error_unnamed accepted⟩⟩
  | ok reader =>
    obtain ⟨result, after, ran, later, ends⟩ := awaitReaderAction_ends config answers id patience 2
    cases result with
    | error error =>
      exact ⟨_, _, continued_of_poll_error accepted ran, by omega, by simpa [PollEnds] using ends⟩
    | ok action =>
      cases action with
      | failed code message =>
        exact ⟨_, _, continued_of_failed accepted ran, by omega, by simpa [PollEnds] using ends⟩
      | succeeded =>
        rw [continued_of_succeeded accepted ran]
        cases heard : confirmed answers id after with
        | error error =>
          refine ⟨_, _, rfl, by omega, .inr ⟨?_, decode_error_unnamed heard⟩⟩
          simpa [PollEnds, heard] using ends
        | ok intent =>
          refine ⟨_, _, rfl, by omega, ?_⟩
          simpa [PollEnds, heard] using ends

end Outcome

/-- Classification is sound exactly when nothing was asked for, nothing was
created, or every answer after the create can be read. -/
theorem classifiedSoundly_iff (config : Config) (patience : Nat) (request : AuthorizeRequest)
    (exchanges : Exchanges request) :
    ClassifiedSoundly config patience request exchanges ↔
      request.amountCents = 0 ∨ exchanges.created = none ∨
        Answered config patience request exchanges.answers := by
  by_cases amount : request.amountCents = 0
  · simp [ClassifiedSoundly, outcome_of_no_amount amount, createdBy, amount]
  · cases named : answeredId request exchanges.answers with
    | error error =>
      have unanswered : ¬Answered config patience request exchanges.answers := by
        simp [Answered, named]
      have unnamed := answeredId_error_unnamed named
      cases created : exchanges.created <;>
        simp [ClassifiedSoundly, outcome_of_unnamed amount named, createdBy, amount, unanswered, unnamed,
          created]
    | ok id =>
      have created := exchanges.truthful id named
      obtain ⟨result, after, ran, sent, ends⟩ :=
        continued_ends config patience named
      have holds : createdBy exchanges after = some id := by
        simp [createdBy, created, Nat.ne_of_gt sent]
      cases result with
      | ok authorization =>
        simp [ClassifiedSoundly, outcome_of_named amount named, ran,
          show Answered config patience request exchanges.answers from ends]
      | error error =>
        rcases ends with ⟨answered, carried⟩ | ⟨unanswered, lost⟩
        · simp [ClassifiedSoundly, outcome_of_named amount named, ran, holds, answered, carried,
            PaymentProviderError.requiresReversalCheck_of_named carried]
        · simp [ClassifiedSoundly, outcome_of_named amount named, ran, holds, unanswered, lost, created,
            amount]

/-- The create succeeds, but Stripe does not know the configured reader. -/
def unknownReader : Exchanges tenEuros where
  answers
    | 0, _ => .response ⟨200, "OK"⟩ (.ok ⟨"", .ok (.object [("id", .string "pi_1")])⟩)
    | _, _ => .response ⟨404, "Not Found"⟩ (.ok ⟨"", .ok .null⟩)
  created := some "pi_1"
  truthful _ named := congrArg Except.toOption named

theorem unknownReader_misclassified : ¬ClassifiedSoundly ⟨"tmr_1"⟩ 10 tenEuros unknownReader := by
  intro sound
  obtain ⟨clean, -⟩ := sound (.paymentNotFound "") 2 rfl
  have created : createdBy unknownReader 2 = some "pi_1" := rfl
  cases created.symm.trans (clean rfl)

end ApexEdge.Proofs.StripeErrors
