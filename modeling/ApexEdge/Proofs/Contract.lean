import ApexEdge.Hub.RemotePayments

/-! What a hub can rely on: payments are never forgotten or renamed, and every
answer that names a payment names the one its key created. -/

namespace ApexEdge.Hub
open Library Payment

/-- What can become of funds that nobody asks for. -/
inductive Funds.LetsGo : Funds → Funds → Prop where
  | same (funds : Funds) : LetsGo funds funds
  | freed : LetsGo .held .free
  | voided (funds : Funds) : LetsGo funds .voided

theorem Funds.letsGo_released (funds : Funds) (holds : Bool) : LetsGo funds (funds.released holds) := by
  unfold released
  split
  next gone => exact gone.1 ▸ .freed
  next => exact .same funds

namespace RemotePayments

/-- The payment that a key created at a provider has the id. -/
def Issued (payments : RemotePayments) (provider : String) (key : Uuid) (id : String) : Prop :=
  ∃ payment ∈ payments.all, payment.provider = provider ∧ payment.key = key ∧ payment.id = id

instance (payments : RemotePayments) (provider : String) (key : Uuid) (id : String) :
    Decidable (payments.Issued provider key id) := inferInstanceAs (Decidable (∃ payment ∈ payments.all, _))

/-- The funds of the payment that a key created at a provider are in such a state. -/
def Has (state : Funds → Prop) (payments : RemotePayments) (provider : String) (key : Uuid) : Prop :=
  ∃ payment ∈ payments.all, payment.provider = provider ∧ payment.key = key ∧ state payment.funds

instance (state : Funds → Prop) [DecidablePred state] (payments : RemotePayments) (provider : String) (key : Uuid) :
    Decidable (payments.Has state provider key) := inferInstanceAs (Decidable (∃ payment ∈ payments.all, _))

def Grows (before after : RemotePayments) : Prop :=
  ∀ provider key id, before.Issued provider key id → after.Issued provider key id

private theorem same_of_nodup {α : Type} {column : RemotePayment → α} {all : List RemotePayment}
    (distinct : (all.map column).Nodup) {first second : RemotePayment} (one : first ∈ all) (two : second ∈ all)
    (same : column first = column second) : first = second :=
  List.inj_on_of_nodup_map distinct one two same

theorem Issued.same_id {payments : RemotePayments} {provider : String} {key : Uuid} {id other : String}
    (first : payments.Issued provider key id) (second : payments.Issued provider key other) : id = other := by
  obtain ⟨one, member, rfl, rfl, rfl⟩ := first
  obtain ⟨two, also, provider, key, rfl⟩ := second
  rw [same_of_nodup payments.keys member also (Prod.ext provider.symm key.symm)]

theorem Issued.same_key {payments : RemotePayments} {provider : String} {key other : Uuid} {id : String}
    (first : payments.Issued provider key id) (second : payments.Issued provider other id) : key = other := by
  obtain ⟨one, member, rfl, rfl, rfl⟩ := first
  obtain ⟨two, also, provider, rfl, id⟩ := second
  rw [same_of_nodup payments.ids member also (Prod.ext provider.symm id.symm)]

/-- The funds of a payment are in one state. -/
theorem Has.and {payments : RemotePayments} {state other : Funds → Prop} {provider : String} {key : Uuid}
    (first : payments.Has state provider key) (second : payments.Has other provider key) :
    ∃ funds, state funds ∧ other funds := by
  obtain ⟨one, member, rfl, rfl, has⟩ := first
  obtain ⟨two, also, provider, key, hasToo⟩ := second
  obtain rfl := same_of_nodup payments.keys member also (Prod.ext provider.symm key.symm)
  exact ⟨one.funds, has, hasToo⟩

theorem created_eq_some {payments : RemotePayments} {provider : String} {key : Uuid} {payment : RemotePayment} :
    payments.created provider key = some payment ↔
      payment ∈ payments.all ∧ payment.provider = provider ∧ payment.key = key := by
  constructor
  · intro found
    exact ⟨List.mem_of_find?_eq_some found, by simpa using List.find?_some found⟩
  · rintro ⟨member, rfl, rfl⟩
    cases found : payments.created payment.provider payment.key with
    | none =>
      have missing := List.find?_eq_none.mp found payment member
      simp at missing
    | some other =>
      have also := List.mem_of_find?_eq_some found
      have same : other.provider = payment.provider ∧ other.key = payment.key := by
        simpa using List.find?_some found
      rw [same_of_nodup payments.keys member also (Prod.ext same.1.symm same.2.symm)]

theorem named_eq_some {payments : RemotePayments} {provider id : String} {payment : RemotePayment}
    (found : payments.named provider id = some payment) :
    payment ∈ payments.all ∧ payment.provider = provider ∧ payment.id = id :=
  ⟨List.mem_of_find?_eq_some found, by simpa using List.find?_some found⟩

/-- A changed payment is one that was there, with the same names. -/
theorem mem_change {selects : RemotePayment → Bool} {funds : Funds → Funds} {payments : RemotePayments}
    {after : RemotePayment} :
    after ∈ (payments.change selects funds).all ↔
      ∃ before ∈ payments.all,
        after = if selects before then { before with funds := funds before.funds } else before := by
  unfold change Table.Update.run Table.Update.row
  simp only [List.mem_map]
  constructor
  · rintro ⟨before, member, same⟩
    exact ⟨before, member, same.symm⟩
  · rintro ⟨before, member, same⟩
    exact ⟨before, member, same.symm⟩

theorem change_grows (selects : RemotePayment → Bool) (funds : Funds → Funds) (payments : RemotePayments) :
    payments.Grows (payments.change selects funds) := by
  rintro provider key id ⟨payment, member, rfl, rfl, rfl⟩
  refine ⟨_, mem_change.mpr ⟨payment, member, rfl⟩, ?_⟩
  split
  · exact ⟨rfl, rfl, rfl⟩
  · exact ⟨rfl, rfl, rfl⟩

theorem Has.change {payments : RemotePayments} {state : Funds → Prop} {provider : String} {key : Uuid}
    {selects : RemotePayment → Bool} {funds : Funds → Funds} (has : payments.Has state provider key)
    (stays : ∀ old, state old → state (funds old)) : (payments.change selects funds).Has state provider key := by
  obtain ⟨payment, member, rfl, rfl, holds⟩ := has
  refine ⟨_, mem_change.mpr ⟨payment, member, rfl⟩, ?_⟩
  split
  · exact ⟨rfl, rfl, stays _ holds⟩
  · exact ⟨rfl, rfl, holds⟩

theorem Has.create {payments : RemotePayments} {state : Funds → Prop} {provider : String} {key : Uuid}
    (has : payments.Has state provider key) (payment : RemotePayment) :
    (payments.create payment).Has state provider key := by
  obtain ⟨old, member, holds⟩ := has
  refine ⟨old, ?_, holds⟩
  unfold RemotePayments.create
  split
  · exact List.mem_cons_of_mem _ member
  · exact member

theorem mem_create {payments : RemotePayments} {payment other : RemotePayment}
    (member : other ∈ (payments.create payment).all) : other = payment ∨ other ∈ payments.all := by
  unfold create at member
  split at member
  · exact List.mem_cons.mp member
  · exact .inr member

theorem create_grows (payment : RemotePayment) (payments : RemotePayments) :
    payments.Grows (payments.create payment) := by
  rintro provider key id ⟨old, member, names⟩
  refine ⟨old, ?_, names⟩
  unfold create
  split
  · exact List.mem_cons_of_mem _ member
  · exact member

theorem attempt_grows (answer : ProviderAnswer) (provider : String) (key : Uuid) (payments : RemotePayments) :
    payments.Grows (payments.attempt answer provider key) := by
  unfold attempt
  split
  · exact change_grows _ _ _
  · exact create_grows _ _
  · exact fun _ _ _ issued => issued

/-- An authorization touches no payment but that of its own key. -/
theorem attempt_other {answer : ProviderAnswer} {provider : String} {key : Uuid} {payments : RemotePayments}
    {payment : RemotePayment} (member : payment ∈ (payments.attempt answer provider key).all) :
    payment ∈ payments.all ∨ payment.provider = provider ∧ payment.key = key := by
  unfold attempt at member
  split at member
  · obtain ⟨before, old, rfl⟩ := mem_change.mp member
    split
    next selected =>
      exact .inr (of_decide_eq_true selected)
    next => exact .inl old
  · rcases mem_create member with rfl | old
    · exact .inr ⟨rfl, rfl⟩
    · exact .inl old
  · exact .inl member

section Calls
variable {answer : ProviderAnswer} {payments : RemotePayments} {provider : String}

theorem authorize_after (answer : ProviderAnswer) (payments : RemotePayments) (provider : String)
    (request : AuthorizeRequest) :
    (authorize answer payments provider request).2 = payments.attempt answer provider request.idempotencyKey := by
  unfold authorize
  dsimp only
  split <;> rfl

theorem authorize_ok {request : AuthorizeRequest} {authorization : PaymentAuthorization}
    (approved : (authorize answer payments provider request).1 = .ok authorization) :
    authorization.provider = provider ∧
      (authorize answer payments provider request).2.Issued provider request.idempotencyKey
        authorization.providerPaymentId := by
  rw [authorize_after]
  unfold authorize at approved
  dsimp only at approved
  split at approved
  · cases approved
  · cases approved
  next payment _ found =>
    cases approved
    obtain ⟨member, rfl, same⟩ := created_eq_some.mp found
    exact ⟨rfl, payment, member, rfl, same, rfl⟩

/-- An error that names a payment names the one that the key created. -/
theorem authorize_named {request : AuthorizeRequest} {error : PaymentProviderError} {id : String}
    (failed : (authorize answer payments provider request).1 = .error error)
    (named : error.indeterminatePaymentId = some id) :
    (authorize answer payments provider request).2.Issued provider request.idempotencyKey id := by
  rw [authorize_after]
  unfold authorize at failed
  dsimp only at failed
  split at failed
  next failure _ =>
    cases failed
    cases failure with
    | indeterminate tells message =>
      cases tells with
      | false => cases named
      | true =>
        obtain ⟨payment, found, rfl⟩ := Option.map_eq_some_iff.mp named
        obtain ⟨member, provider, key⟩ := created_eq_some.mp found
        exact ⟨payment, member, provider, key, rfl⟩
    | _ => cases named
  · cases failed
    cases named
  · cases failed

theorem capture_after (answer : ProviderAnswer) (payments : RemotePayments) (provider : String)
    (request : CaptureRequest) : (capture answer payments provider request).2 = payments := by
  unfold capture
  split
  · rfl
  · rfl
  · split <;> rfl

theorem capture_ok {request : CaptureRequest} {captured : PaymentCapture}
    (taken : (capture answer payments provider request).1 = .ok captured) :
    captured.provider = provider ∧ captured.providerPaymentId = request.providerPaymentId := by
  unfold capture at taken
  split at taken
  · cases taken
  · cases taken
  next payment found _ =>
    split at taken
    · cases taken
      exact ⟨rfl, (named_eq_some found).2.2⟩
    · cases taken

theorem refund_after (answer : ProviderAnswer) (payments : RemotePayments) (provider : String)
    (request : RefundRequest) : (refund answer payments provider request).2 = payments := by
  unfold refund
  split <;> rfl

theorem void_grows (answer : ProviderAnswer) (payments : RemotePayments) (provider : String)
    (request : VoidRequest) : payments.Grows (void answer payments provider request).2 := by
  unfold void
  split
  · exact fun _ _ _ issued => issued
  · exact change_grows _ _ _
  · exact change_grows _ _ _

theorem void_only_lets_go {request : VoidRequest} {after : RemotePayment}
    (member : after ∈ (void answer payments provider request).2.all) :
    ∃ before ∈ payments.all, before.provider = after.provider ∧ before.key = after.key ∧
      Funds.LetsGo before.funds after.funds := by
  unfold void at member
  split at member
  · exact ⟨after, member, rfl, rfl, .same _⟩
  · obtain ⟨before, old, rfl⟩ := mem_change.mp member
    refine ⟨before, old, ?_⟩
    split
    · exact ⟨rfl, rfl, Funds.letsGo_released _ _⟩
    · exact ⟨rfl, rfl, .same _⟩
  · obtain ⟨before, old, rfl⟩ := mem_change.mp member
    refine ⟨before, old, ?_⟩
    split
    · exact ⟨rfl, rfl, .voided _⟩
    · exact ⟨rfl, rfl, .same _⟩

/-- A confirmed void is one of the payment that it names. -/
theorem void_ok {request : VoidRequest} {key : Uuid}
    (confirmed : (void answer payments provider request).1 = .ok ())
    (issued : payments.Issued provider key request.providerPaymentId) :
    (void answer payments provider request).2.Has (· = .voided) provider key := by
  obtain ⟨payment, member, rfl, rfl, named⟩ := issued
  unfold void at confirmed ⊢
  split at confirmed
  · cases confirmed
  · cases confirmed
  · refine ⟨_, mem_change.mpr ⟨payment, member, rfl⟩, ?_⟩
    rw [if_pos (by simp [named])]
    exact ⟨rfl, rfl, rfl⟩

theorem voided_stays_void (answer : ProviderAnswer) (request : VoidRequest) {other : String} {key : Uuid}
    (voided : payments.Has (· = .voided) other key) :
    (void answer payments provider request).2.Has (· = .voided) other key := by
  unfold void
  split
  · exact voided
  · exact voided.change fun funds gone => by rw [gone]; rfl
  · exact voided.change fun _ _ => rfl

theorem voided_stays_attempt {other : String} {key tried : Uuid} (voided : payments.Has (· = .voided) other key) :
    (payments.attempt answer provider tried).Has (· = .voided) other key := by
  unfold attempt
  split
  · exact voided.change fun funds gone => by rw [gone]; rfl
  · exact voided.create _
  · exact voided

end Calls
end RemotePayments
end ApexEdge.Hub
