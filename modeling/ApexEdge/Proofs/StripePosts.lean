import ApexEdge.Hub.StripeHub
import ApexEdge.Proofs.StripeErrors

/-! What each call of the adapter posts. An authorization posts twice under one key as
soon as its payment intent is named; a void posts where the intent's status tells it to. -/

namespace ApexEdge.Proofs.StripePosts
open Library Payment Payment.StripeTerminal Hub
open StripeErrors

def createPost (request : AuthorizeRequest) : Post :=
  ⟨intentsPath, request.idempotencyKey, createForm request⟩

def reversalPost (request : VoidRequest) : Post :=
  ⟨"/v1/refunds", request.idempotencyKey, reversalForm request ++ [("payment_intent", request.providerPaymentId)]⟩

def cancelPost (request : VoidRequest) : Post :=
  ⟨intentPath request.providerPaymentId ++ "/cancel", request.idempotencyKey, reversalForm request⟩

/-- What a void posts for an intent that it finds in a status. -/
def voidPost (request : VoidRequest) (found : Option String) : Option Post :=
  if found = some "canceled" then none
  else if found = some "succeeded" then some (reversalPost request)
  else if cancellable found then some (cancelPost request)
  else none

def refundPost (request : RefundRequest) : Post :=
  ⟨"/v1/refunds", request.idempotencyKey, refundForm request⟩

/-- The status that a void finds its intent in. -/
def foundStatus (request : VoidRequest) (answers : Answers) : Option String :=
  match decode (answers 0 (.get (intentPath request.providerPaymentId))) with
  | .ok intent => status intent
  | .error _ => none

theorem voidPost_cases {request : VoidRequest} {found : Option String} {post : Post}
    (posts : voidPost request found = some post) :
    found = some "succeeded" ∧ post = reversalPost request ∨ cancellable found ∧ post = cancelPost request := by
  unfold voidPost at posts
  split at posts
  · cases posts
  · split at posts
    next settled => exact .inl ⟨settled, (Option.some.inj posts).symm⟩
    · split at posts
      next uncaptured => exact .inr ⟨uncaptured, (Option.some.inj posts).symm⟩
      · cases posts

theorem cancelPath_ne (paymentId : String) : intentPath paymentId ++ "/cancel" ≠ "/v1/refunds" := by
  intro same
  have letters := congrArg String.toList same
  unfold intentPath at letters
  rw [String.toList_append, String.toList_append,
    show "/v1/payment_intents/".toList = '/' :: 'v' :: '1' :: '/' :: 'p' :: "ayment_intents/".toList by decide,
    show "/v1/refunds".toList = '/' :: 'v' :: '1' :: '/' :: 'r' :: "efunds".toList by decide] at letters
  simp only [List.cons_append, List.cons.injEq, true_and] at letters
  exact absurd letters.1 (by decide)

/-- Two voids of one payment that post to one endpoint post the same. -/
theorem voids_alike {request : VoidRequest} {found later : Option String} {first second : Post}
    (once : voidPost request found = some first) (again : voidPost request later = some second)
    (path : first.path = second.path) : first = second := by
  rcases voidPost_cases once with ⟨_, rfl⟩ | ⟨_, rfl⟩ <;> rcases voidPost_cases again with ⟨_, rfl⟩ | ⟨_, rfl⟩
  · rfl
  · exact absurd path.symm (cancelPath_ne _)
  · exact absurd path (cancelPath_ne _)
  · rfl

theorem voidPost_key {request : VoidRequest} {found : Option String} {post : Post}
    (posts : voidPost request found = some post) : post.key = request.idempotencyKey := by
  rcases voidPost_cases posts with ⟨_, rfl⟩ | ⟨_, rfl⟩ <;> rfl

variable {answers : Answers} {sent : Nat} {posts : List Post}

@[simp] theorem get_exchange (path : String) :
    (StripeTerminal.get path).run (exchange answers) (sent, posts) =
      (decode (answers sent (.get path)), sent + 1, posts) := by
  unfold StripeTerminal.get
  rw [Fallible.run_bind_ok _ _ _ (Fallible.run_ask _ _ _)]
  simp [exchange, posted]

@[simp] theorem postForm_exchange (path : String) (key : Uuid) (form : List (String × String)) :
    (postForm path key form).run (exchange answers) (sent, posts) =
      (decode (answers sent (.post path key form)), sent + 1, posts ++ [⟨path, key, form⟩]) := by
  unfold postForm
  rw [Fallible.run_bind_ok _ _ _ (Fallible.run_ask _ _ _)]
  rfl

/-- An authorization whose intent is not named ends there, naming nothing. -/
theorem authorize_unnamed (config : Config) (posts : List Post) {answer : StripeAnswer} {request : AuthorizeRequest}
    {error : PaymentProviderError} (unnamed : answeredId request answer.http = .error error) :
    ∃ reason, reason.indeterminatePaymentId = none ∧
      (callStripe answer posts (authorize config answer.patience request) = (.error reason, posts) ∨
        callStripe answer posts (authorize config answer.patience request) =
          (.error reason, posts ++ [createPost request])) := by
  unfold callStripe authorize
  by_cases nothing : request.amountCents = 0
  · refine ⟨.invalidAmount, rfl, .inl ?_⟩
    rw [Fallible.run_bind_error _ .invalidAmount (0, posts) (by simp [validateAmount, nothing])]
  · refine ⟨error, answeredId_error_unnamed unnamed, .inr ?_⟩
    rw [Fallible.run_bind_ok _ () (0, posts) (by simp [validateAmount, nothing])]
    unfold answeredId at unnamed
    cases heard : decode (answer.http 0 (.post intentsPath request.idempotencyKey (createForm request))) with
    | error reason =>
      simp only [heard, Except.error.injEq] at unnamed
      subst unnamed
      rw [Fallible.run_bind_error _ reason (1, posts ++ [createPost request]) (by simp [heard, createPost])]
    | ok intent =>
      simp only [heard] at unnamed
      rw [Fallible.run_bind_ok _ intent (1, posts ++ [createPost request]) (by simp [heard, createPost]),
        Fallible.run_bind_error _ error (1, posts ++ [createPost request]) (by simp [unnamed])]

section Silent
variable {α β : Type}

/-- The rest of the call posts nothing. -/
def Silent (answers : Answers) (call : StripeTerminal.Call α) : Prop :=
  ∀ sent posts, (call.run (exchange answers) (sent, posts)).2.2 = posts

theorem silent_pure (result : Except PaymentProviderError α) : Silent answers (Fallible.ofExcept result) :=
  fun _ _ => rfl

theorem Silent.bind {first : StripeTerminal.Call α} {next : α → StripeTerminal.Call β} (silent : Silent answers first)
    (rest : ∀ value, Silent answers (next value)) : Silent answers (first >>= next) := by
  intro sent posts
  have quiet := silent sent posts
  cases ran : first.run (exchange answers) (sent, posts) with
  | mk result after =>
    obtain ⟨more, kept⟩ := after
    rw [ran] at quiet
    obtain rfl : kept = posts := quiet
    cases result with
    | ok value =>
      rw [Fallible.run_bind_ok _ value (more, kept) ran]
      exact rest value more kept
    | error error => rw [Fallible.run_bind_error _ error (more, kept) ran]

theorem silent_get (path : String) : Silent answers (StripeTerminal.get path) := fun _ _ => by simp

/-- Looking a refund up again posts nothing. -/
theorem silent_settled (refund : Json) : Silent answers (settledRefund refund) := by
  unfold settledRefund
  split
  · split
    · exact silent_get _
    · exact silent_pure _
  · exact silent_pure _

/-- One POST, and silence. -/
theorem posts_once {path : String} {key : Uuid} {form : List (String × String)} {next : Json → StripeTerminal.Call α}
    (rest : ∀ json, Silent answers (next json)) :
    ((postForm path key form >>= next : StripeTerminal.Call α).run (exchange answers) (sent, posts)).2.2 =
      posts ++ [⟨path, key, form⟩] := by
  cases heard : decode (answers sent (.post path key form)) with
  | error error => rw [Fallible.run_bind_error _ error (sent + 1, posts ++ [⟨path, key, form⟩]) (by simp [heard])]
  | ok json =>
    rw [Fallible.run_bind_ok _ json (sent + 1, posts ++ [⟨path, key, form⟩]) (by simp [heard])]
    exact rest json _ _

end Silent

theorem void_posts (answer : StripeAnswer) (request : VoidRequest) :
    (callStripe answer posts (StripeTerminal.void request)).2 =
      posts ++ (voidPost request (foundStatus request answer.http)).toList := by
  unfold callStripe StripeTerminal.void foundStatus
  cases heard : decode (answer.http 0 (.get (intentPath request.providerPaymentId))) with
  | error error =>
    rw [Fallible.run_bind_error _ error (1, posts) (by simp [heard])]
    simp [voidPost, cancellable]
  | ok intent =>
    rw [Fallible.run_bind_ok _ intent (1, posts) (by simp [heard])]
    dsimp only
    unfold voidPost
    split
    · exact (List.append_nil _).symm
    · split
      · refine posts_once fun refund => (silent_settled refund).bind fun settled => ?_
        split <;> exact silent_pure _
      · split
        · exact posts_once fun _ => silent_pure _
        · exact (List.append_nil _).symm

theorem refund_posts (posts : List Post) (answer : StripeAnswer) (request : RefundRequest) :
    (callStripe answer posts (StripeTerminal.refund request)).2 = posts ∨
      (callStripe answer posts (StripeTerminal.refund request)).2 = posts ++ [refundPost request] := by
  unfold callStripe StripeTerminal.refund
  by_cases nothing : request.amountCents = 0
  · left
    rw [Fallible.run_bind_error _ .invalidAmount (0, posts) (by simp [validateAmount, nothing])]
  · right
    rw [Fallible.run_bind_ok _ () (0, posts) (by simp [validateAmount, nothing])]
    refine posts_once fun refund => (silent_settled refund).bind fun settled => ?_
    split
    · exact silent_pure _
    · split <;> exact silent_pure _

end ApexEdge.Proofs.StripePosts
