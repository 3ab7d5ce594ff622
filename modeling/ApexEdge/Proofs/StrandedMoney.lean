import ApexEdge.Proofs.DurableSales
import ApexEdge.Proofs.Reversals

/-! Where the customers' money is. Whatever a provider holds is on an order, on a
live cart, or in a state that the sweep selects, once no command is paying for it. -/

namespace ApexEdge.Proofs.StrandedMoney
open Library Payment Domain Storage Contracts Hub
open Conduct StepEffects Ledger Attempts Reversals
open DurableSales (Backs)

/-- The provider holds money for the intent. -/
def MoneyHeld (world : HubWorld) (row : PaymentIntentRow) : Prop := HasFunds (· = .held) world row

instance (world : HubWorld) (row : PaymentIntentRow) : Decidable (MoneyHeld world row) :=
  inferInstanceAs (Decidable (HasFunds ..))

/-- The order has a payment for the intent. -/
def ListsPayment (world : HubWorld) (orderId : Uuid) (row : PaymentIntentRow) : Prop :=
  ∃ order ∈ world.db.orders, order.orderId = orderId ∧ ∃ payment ∈ order.payments, Backs world row payment

instance (world : HubWorld) (orderId : Uuid) (row : PaymentIntentRow) : Decidable (ListsPayment world orderId row) :=
  inferInstanceAs (Decidable (∃ order ∈ world.db.orders, _))

/-- The intent's own order counts its payment. -/
def Counted (world : HubWorld) (row : PaymentIntentRow) : Prop :=
  ∃ orderId ∈ row.orderId, ListsPayment world orderId row

instance (world : HubWorld) (row : PaymentIntentRow) : Decidable (Counted world row) :=
  inferInstanceAs (Decidable (∃ orderId ∈ row.orderId, _))

/-- A cart that can still be finalized or voided lists the intent's payment. -/
def Attached (world : HubWorld) (row : PaymentIntentRow) : Prop :=
  ∃ cart ∈ world.db.carts, cart.data.state ≠ .finalized ∧ cart.data.state ≠ .voided ∧
    ∃ payment ∈ cart.data.payments, payment.provider = some row.provider ∧
      ∃ paymentId ∈ payment.providerPaymentId, Issued world.remote row paymentId

instance (world : HubWorld) (row : PaymentIntentRow) : Decidable (Attached world row) :=
  inferInstanceAs (Decidable (∃ cart ∈ world.db.carts, _))

/-- The sweep gives the money back, at once or when the capture is stale. -/
def Sweepable (row : PaymentIntentRow) : Prop :=
  row.state = .reversalPending ∨ row.state = .captured ∧ row.orderId = none

instance (row : PaymentIntentRow) : Decidable (Sweepable row) := inferInstanceAs (Decidable (_ ∨ _))

def Safe (world : HubWorld) (row : PaymentIntentRow) : Prop :=
  Sweepable row ∨ row.state = .settled ∧ Counted world row

instance (world : HubWorld) (row : PaymentIntentRow) : Decidable (Safe world row) :=
  inferInstanceAs (Decidable (_ ∨ _))

/-- Some command is taking the money at this moment. -/
def BeingPaid (pending : List Request) (row : PaymentIntentRow) : Prop :=
  ∃ request ∈ pending, ∃ tender ∈ request.frame.paying, tender.intent = row.id

instance (pending : List Request) (row : PaymentIntentRow) : Decidable (BeingPaid pending row) :=
  inferInstanceAs (Decidable (∃ request ∈ pending, _))

/-- All money is accounted for, and nothing is settled but by the order that counts it. -/
def NothingStranded (world : HubWorld) (pending : List Request) : Prop :=
  ∀ row ∈ world.db.paymentIntents,
    (MoneyHeld world row → (row.state = .settled ∧ Counted world row) ∨ Attached world row ∨ Sweepable row ∨
      BeingPaid pending row) ∧
    (row.state = .settled → Counted world row)

instance (world : HubWorld) (pending : List Request) : Decidable (NothingStranded world pending) :=
  inferInstanceAs (Decidable (∀ row ∈ world.db.paymentIntents, _))

/-- What a step must not do to money that the provider holds: close its intent, fail
to write it down, settle it without its order; nor may an intent be taken up again
that is owed back and was settled once. -/
def Accounts (world : HubWorld) (request : Request) (choice : Choice ProviderAnswer) : Prop :=
  match request.call with
  | .findPaymentIntent key provider tenderId =>
    ∀ row ∈ PaymentIntents.findByKey key provider tenderId world.db.paymentIntents, Owed row → row.orderId = none
  | .markPaymentIntentDeclined id _ | .markPaymentIntentFailed id _ =>
    ∀ row ∈ world.db.paymentIntents, row.id = id → ¬MoneyHeld world row
  | .markPaymentIntentCaptured id _ _ | .flagPaymentIntentForReversal id _ _ =>
    ∀ row ∈ world.db.paymentIntents, row.id = id → MoneyHeld world row →
      choice.storageFailure = none ∨ Safe world row
  | .settlePaymentIntentsForCart _ _ orderId =>
    ∀ row ∈ world.db.paymentIntents, Selects choice request.call row →
      row.state = .captured ∧ ListsPayment world orderId row
  | .insertOrderLedgerEntryWithOutbox entry _ => ∀ order ∈ world.db.orders, order.orderId ≠ entry.orderId
  | _ => True

instance (world : HubWorld) (request : Request) (choice : Choice ProviderAnswer) :
    Decidable (Accounts world request choice) := by
  induction request using Request.casesOn with
  | mk frame call => induction call using Call.casesOn <;> dsimp only [Accounts] <;> infer_instance

/-- No command stops between the provider's taking the money and its being written down. -/
def Abandons (world : HubWorld) (request : Request) : Prop :=
  ∃ tender ∈ request.frame.paying, ∃ row ∈ world.db.paymentIntents, row.id = tender.intent ∧
    MoneyHeld world row ∧ ¬Safe world row

instance (world : HubWorld) (request : Request) : Decidable (Abandons world request) :=
  inferInstanceAs (Decidable (∃ tender ∈ request.frame.paying, _))

def keepsAccounts : Condition Request HubWorld (Choice ProviderAnswer) :=
  { step := fun world _ request choice => NamesOwed (· = .held) world request ∧ Accounts world request choice
    drop := fun world _ request => ¬Abandons world request }

instance (world : HubWorld) (others : List Request) (request : Request) (choice : Choice ProviderAnswer) :
    Decidable (keepsAccounts.step world others request choice) := inferInstanceAs (Decidable (_ ∧ _))

instance (world : HubWorld) (others : List Request) (request : Request) :
    Decidable (keepsAccounts.drop world others request) := inferInstanceAs (Decidable (¬_))

/-- Only what is settled, or owed back after that, names an order, and it is one that counts it. -/
structure Claimed (world : HubWorld) : Prop where
  settled : ∀ row ∈ world.db.paymentIntents, row.state = .settled → Counted world row
  named : ∀ row ∈ world.db.paymentIntents, row.orderId ≠ none → row.state = .settled ∨ Owed row

/-- An intent that is being paid for is on no order, and nobody has captured it. -/
def PaysUnclaimed (world : HubWorld) (request : Request) : Prop :=
  ∀ tender, request.frame.paying = some tender → ∀ row ∈ world.db.paymentIntents, row.id = tender.intent →
    row.orderId = none ∧ row.state ≠ .captured ∧ row.state ≠ .settled

theorem held_outstanding : Outstanding (· = .held) := ⟨by decide, fun _ => rfl⟩

section Step
variable {choice : Choice ProviderAnswer} {world : HubWorld} {request : Request} {row : PaymentIntentRow}

private theorem orders_kept (accounts : Accounts world request choice) {order : NewOrderLedgerEntry}
    (member : order ∈ world.db.orders) : order ∈ (perform contractual choice world request).2.db.orders := by
  rcases perform_orders contractual choice world request with same | ⟨entry, outboxId, called, written⟩
  · rw [same]
    exact member
  · unfold Accounts at accounts
    rw [called] at accounts
    unfold Orders.write at written
    split at written
    · cases written
    · rw [← Except.ok.inj written]
      exact Table.mem_upsert_of_unselected member (by simpa using accounts order member)

private theorem listsPayment_after (accounts : Accounts world request choice) {orderId : Uuid}
    {after : PaymentIntentRow} (same : identity after = identity row) (lists : ListsPayment world orderId row) :
    ListsPayment (perform contractual choice world request).2 orderId after := by
  obtain ⟨order, member, named, payment, present, own, paymentId, known, issued⟩ := lists
  refine ⟨order, orders_kept accounts member, named, payment, present, ?_, paymentId, known, ?_⟩
  · rw [identity_provider same, own]
  · exact (issued_of_identity same).mpr (perform_remote_grows _ _ _ issued)

private theorem counted_after (accounts : Accounts world request choice)
    (kept : (rowAfter choice request.call row).orderId = row.orderId) (counted : Counted world row) :
    Counted (perform contractual choice world request).2 (rowAfter choice request.call row) := by
  obtain ⟨orderId, own, lists⟩ := counted
  exact ⟨orderId, by rw [kept]; exact own, listsPayment_after accounts (rowAfter_identity choice request.call row) lists⟩

/-- The intent of a capture or of a refusal is one that is being paid for. -/
private theorem unclaimed_paid (unclaimed : PaysUnclaimed world request)
    (member : row ∈ world.db.paymentIntents) {tender : IntentTender} (pays : Pays request.frame tender)
    (same : tender.intent = row.id) : row.orderId = none ∧ row.state ≠ .captured ∧ row.state ≠ .settled :=
  unclaimed tender pays.paying row member same.symm

/-- Settling goes to captured intents, with the order that counts them. -/
private theorem settles_counted (accounts : Accounts world request choice)
    (member : row ∈ world.db.paymentIntents) (selected : Selects choice request.call row) {orderId : Uuid}
    (called : request.call = .settlePaymentIntentsForCart row.storeId row.cartId orderId) :
    row.state = .captured ∧ ListsPayment world orderId row := by
  unfold Accounts at accounts
  rw [called] at accounts selected
  exact accounts row member selected

theorem claimed_after (standing : Standing world request) (unclaimed : PaysUnclaimed world request)
    (accounts : Accounts world request choice) (claimed : Claimed world) :
    Claimed (perform contractual choice world request).2 where
  settled := by
    intro after member settled
    rcases mem_perform_intents.mp member with ⟨row, present, rfl⟩ | opens
    · rcases rowAfter_cases choice request.call row with same | ⟨selected, change⟩
      · exact counted_after accounts (by rw [same]) (claimed.settled row present (same ▸ settled))
      · cases change with
        | retried state _ own =>
          exact counted_after accounts own (claimed.settled row present (state.symm.trans settled))
        | settled orderId called _ _ _ own =>
          refine ⟨orderId, own, ?_⟩
          exact listsPayment_after accounts (rowAfter_identity choice request.call row)
            (settles_counted accounts present selected called).2
        | captured _ _ _ state _ _ => cases state.symm.trans settled
        | closed _ state _ _ => rcases state with state | state <;> cases state.symm.trans settled
        | flagged _ _ _ state _ _ => cases state.symm.trans settled
        | abandoned _ _ state _ _ => cases state.symm.trans settled
        | reversed _ state _ _ => cases state.symm.trans settled
    · obtain ⟨id, input, _, rfl, _⟩ := opened_new opens
      cases settled
  named := by
    intro after member named
    rcases mem_perform_intents.mp member with ⟨row, present, rfl⟩ | opens
    · rcases rowAfter_cases choice request.call row with same | ⟨selected, change⟩
      · rw [same] at named ⊢
        exact claimed.named row present named
      · cases change with
        | retried state _ own =>
          unfold Owed
          rw [state]
          exact claimed.named row present (own ▸ named)
        | captured _ _ called _ _ own =>
          obtain ⟨tender, pays, same, _⟩ := captures_paying standing.proper called
          exact absurd (own.trans (unclaimed_paid unclaimed present pays same).1) named
        | closed called _ _ own =>
          obtain ⟨tender, pays, same⟩ := closes_paying standing.proper called
          exact absurd (own.trans (unclaimed_paid unclaimed present pays same).1) named
        | settled _ _ _ state _ _ => exact .inl state
        | flagged _ _ _ state _ _ => exact .inr (.inl state)
        | abandoned _ _ state _ _ => exact .inr (.inl state)
        | reversed _ state _ _ => exact .inr (.inr state)
    · obtain ⟨id, input, _, rfl, _⟩ := opened_new opens
      exact absurd rfl named

theorem unclaimed_other {other : Request} {others : Multiset Request} (distinct : Distinct (request ::ₘ others))
    (member : other ∈ others) (sound : Sound world) (standing : Standing world request)
    (otherStanding : Standing world other) (accounts : Accounts world request choice)
    (unclaimed : PaysUnclaimed world other) : PaysUnclaimed (perform contractual choice world request).2 other := by
  intro tender paying after present same
  obtain ⟨row, old, id, keyed, _⟩ := otherStanding.paying tender paying
  obtain rfl := row_from sound present old (same.trans id.symm)
  have free := unclaimed tender paying row old id
  have apart {live : IntentTender}
      (works : request.frame.paying = some live ∨ request.frame.taken = some live)
      (same : live.intent = row.id) : False :=
    distinct.apart (own_of_paying sound standing old works same) member keyed
  rcases rowAfter_cases choice request.call row with same | ⟨selected, change⟩
  · rwa [same]
  · cases change with
    | retried state _ own => rwa [state, own]
    | captured _ _ called _ _ _ =>
      obtain ⟨live, pays, same, _⟩ := captures_paying standing.proper called
      exact (apart (.inl pays.paying) same).elim
    | closed called _ _ _ =>
      obtain ⟨live, pays, same⟩ := closes_paying standing.proper called
      exact (apart (.inl pays.paying) same).elim
    | settled _ called _ _ _ _ => exact absurd (settles_counted accounts old selected called).1 free.2.1
    | flagged _ _ called _ _ _ =>
      obtain ⟨live, same, _, pays | ⟨holds, _⟩⟩ := flags_live standing.proper called
      · exact (apart (.inl pays.paying) same).elim
      · exact (apart (.inr holds.taken) same).elim
    | abandoned _ taken _ _ _ => exact absurd taken free.2.1
    | reversed _ state _ own => exact ⟨own.trans free.1, by simp [state], by simp [state]⟩

theorem unclaimed_next {next : Request} (sound : Sound world) (standing : Standing world request)
    (claimed : Claimed world) (accounts : Accounts world request choice) (unclaimed : PaysUnclaimed world request)
    (follows : conduct.follows request (perform contractual choice world request).1 next) :
    PaysUnclaimed (perform contractual choice world request).2 next := by
  intro tender paying after present same
  cases succeeds standing.proper follows with
  | idle idle _ => cases idle.paying.symm.trans paying
  | holds _ holds _ _ => cases holds.paying.symm.trans paying
  | sweeps swept => cases swept.paying.symm.trans paying
  | pays _ pays _ begun =>
    cases Option.some.inj (pays.paying.symm.trans paying)
    cases begun with
    | asking before waits intent asks =>
      have quiet : statement request.call = none := by
        rcases asks with ⟨_, _, called⟩ | ⟨_, _, called⟩ <;> rw [called] <;> rfl
      obtain ⟨row, old, id, _⟩ := standing.paying before waits.paying
      obtain rfl := row_unmoved quiet sound present old (same.trans (intent.symm.trans id.symm))
      exact unclaimed before waits.paying after old id
    | resumed key provider tenderId row called looked id uncaptured unsettled =>
      have old : row ∈ world.db.paymentIntents := List.mem_of_find?_eq_some looked
      obtain rfl := row_unmoved (by rw [called]; rfl) sound present old (same.trans id.symm)
      refine ⟨?_, uncaptured, unsettled⟩
      by_contra named
      unfold Accounts at accounts
      rw [called] at accounts
      exact named (accounts after looked ((claimed.named after old named).resolve_left unsettled))
    | started id input called opens new =>
      rw [(sound_after choice sound standing).same_row (opened_present opens) present (same.trans new.symm)]
      exact ⟨rfl, by simp [PaymentIntents.newRow], by simp [PaymentIntents.newRow]⟩

/-- What can be pending while an intent is being paid for. -/
inductive PayingCall (call : Call) (intent : Uuid) : Prop where
  | asks : (∃ provider wanted, call = .authorize provider wanted) ∨ (∃ provider wanted, call = .capture provider wanted) →
      PayingCall call intent
  | captured (paymentId : String) (cents : Nat) : call = .markPaymentIntentCaptured intent paymentId cents →
      PayingCall call intent
  | closes : (∃ code, call = .markPaymentIntentDeclined intent code) ∨
      (∃ error, call = .markPaymentIntentFailed intent error) → PayingCall call intent
  | flags (paymentId : Option String) (reason : String) :
      call = .flagPaymentIntentForReversal intent paymentId reason → PayingCall call intent

private theorem payingCall_of_proper {tender : IntentTender} (proper : Proper request)
    (paying : request.frame.paying = some tender) : PayingCall request.call tender.intent := by
  have only {other : IntentTender} (pays : Pays request.frame other) : other = tender :=
    Option.some.inj (pays.paying.symm.trans paying)
  obtain ⟨frame, call⟩ := request
  cases call
  case authorize provider wanted => exact .asks (.inl ⟨provider, wanted, rfl⟩)
  case capture provider wanted => exact .asks (.inr ⟨provider, wanted, rfl⟩)
  case markPaymentIntentCaptured id paymentId cents =>
    obtain ⟨other, pays, rfl, _⟩ := proper
    exact only pays ▸ .captured paymentId cents rfl
  case markPaymentIntentDeclined id code =>
    obtain ⟨other, pays, rfl⟩ := proper
    exact only pays ▸ .closes (.inl ⟨code, rfl⟩)
  case markPaymentIntentFailed id error =>
    obtain ⟨other, pays, rfl⟩ := proper
    exact only pays ▸ .closes (.inr ⟨error, rfl⟩)
  case flagPaymentIntentForReversal id paymentId reason =>
    obtain ⟨other, rfl, _, pays | ⟨holds, _⟩⟩ := proper
    · exact only pays ▸ .flags paymentId reason rfl
    · cases holds.paying.symm.trans paying
  case saveCart cart => cases proper.2.1.symm.trans paying
  case void provider wanted =>
    obtain ⟨intent, owes, _⟩ := proper
    cases owes.paying.symm.trans paying
  case markPaymentIntentReversed id =>
    obtain ⟨intent, owes, _⟩ := proper
    cases owes.paying.symm.trans paying
  case recordPaymentIntentReversalFailure id error =>
    obtain ⟨intent, owes, _⟩ := proper
    cases owes.paying.symm.trans paying
  all_goals
    first
      | cases proper.1.paying.symm.trans paying
      | cases proper.paying.symm.trans paying

/-- The command goes on with paying for the intent. -/
inductive GoesOnPaying (choice : Choice ProviderAnswer) (world : HubWorld) (request : Request) (intent : Uuid) :
    Prop where
  | asks (tender : IntentTender) : Pays request.frame tender → tender.intent = intent →
      (∃ provider wanted, request.call = .authorize provider wanted) ∨
        (∃ provider wanted, request.call = .capture provider wanted) → GoesOnPaying choice world request intent
  | opens (fresh : PaymentIntentRow) : opened choice world request.call = some fresh → fresh.id = intent →
      GoesOnPaying choice world request intent

theorem goesOnPaying_next {next : Request} {intent : Uuid} (goesOn : GoesOnPaying choice world request intent)
    (follows : conduct.follows request (perform contractual choice world request).1 next) :
    ∃ tender ∈ next.frame.paying, tender.intent = intent := by
  have leads := follows.2.2
  clear follows
  obtain ⟨frame, call⟩ := request
  cases goesOn with
  | asks tender pays same asks =>
    have found {other : IntentTender} (nextPays : Pays next.frame other) (kept : other.intent = tender.intent) :
        ∃ tender ∈ next.frame.paying, tender.intent = intent := ⟨other, nextPays.paying, kept.trans same⟩
    rcases asks with ⟨provider, wanted, called⟩ | ⟨provider, wanted, called⟩
    · cases called
      generalize (perform contractual choice world ⟨frame, .authorize provider wanted⟩).1 = reply at leads
      cases reply with
      | error error => exact found (leads.2 tender pays).1 rfl
      | ok authorization =>
        have given := leads.2 tender pays
        split at given
        · exact found given.1 rfl
        · exact found given.1 rfl
    · cases called
      generalize (perform contractual choice world ⟨frame, .capture provider wanted⟩).1 = reply at leads
      cases reply with
      | error error => exact found (leads.2 tender pays).1 rfl
      | ok captured => exact found (leads.2 tender pays).1 rfl
  | opens fresh opens same =>
    obtain ⟨id, input, called, rfl, _⟩ := opened_new opens
    cases called
    rw [insert_answered opens] at leads
    exact ⟨_, leads.1.paying, same⟩

theorem goesOnPaying_unfinished {intent : Uuid} (goesOn : GoesOnPaying choice world request intent) :
    ¬conduct.rests (conduct.follows request (perform contractual choice world request).1) := by
  rintro ⟨next, follows, idle⟩
  obtain ⟨tender, paying, _⟩ := goesOnPaying_next goesOn follows
  cases idle.symm.trans paying

/-- Money that is safe stays safe. -/
private theorem safe_after (sound : Sound world) (standing : Standing world request)
    (closed : Closed (· = .held) world) (tends : Tends world request) (accounts : Accounts world request choice)
    (unclaimed : PaysUnclaimed world request) (member : row ∈ world.db.paymentIntents)
    (held : MoneyHeld world row) (safe : Safe world row) :
    Safe (perform contractual choice world request).2 (rowAfter choice request.call row) := by
  rcases rowAfter_cases choice request.call row with same | ⟨selected, change⟩
  · rcases safe with sweepable | ⟨settled, counted⟩
    · exact .inl (by rwa [same])
    · exact .inr ⟨by rwa [same], counted_after accounts (by rw [same]) counted⟩
  · cases change with
    | retried state _ own =>
      rcases safe with sweepable | ⟨settled, counted⟩
      · exact .inl (by unfold Sweepable; rwa [state, own])
      · exact .inr ⟨state.trans settled, counted_after accounts own counted⟩
    | captured _ _ called state _ own =>
      obtain ⟨tender, pays, same, _⟩ := captures_paying standing.proper called
      exact .inl (.inr ⟨state, own.trans (unclaimed_paid unclaimed member pays same).1⟩)
    | closed called _ _ _ =>
      have gone : ¬MoneyHeld world row := by
        unfold Accounts at accounts
        rcases called with ⟨code, called⟩ | ⟨error, called⟩
        · rw [called] at accounts
          exact accounts row member rfl
        · rw [called] at accounts
          exact accounts row member rfl
      exact absurd held gone
    | settled orderId called _ state _ own =>
      refine .inr ⟨state, orderId, own, ?_⟩
      exact listsPayment_after accounts (rowAfter_identity choice request.call row)
        (settles_counted accounts member selected called).2
    | flagged _ _ _ state _ _ => exact .inl (.inl state)
    | abandoned _ _ state _ _ => exact .inl (.inl state)
    | reversed called _ _ _ =>
      rcases closes_owed sound standing tends member called with ⟨owed, none⟩ | ⟨_, voided⟩
      · exact absurd held (closed.unnamed row member owed none)
      · exact absurd held (not_outstanding_of_voided held_outstanding voided)

/-- Money that the request itself was paying is written down by it, or it goes on. -/
private theorem own_after (sound : Sound world) (standing : Standing world request)
    (closed : Closed (· = .held) world) (tends : Tends world request) (accounts : Accounts world request choice)
    (unclaimed : PaysUnclaimed world request) (member : row ∈ world.db.paymentIntents)
    (held : MoneyHeld world row) {tender : IntentTender} (paying : request.frame.paying = some tender)
    (same : tender.intent = row.id) :
    Safe (perform contractual choice world request).2 (rowAfter choice request.call row) ∨
      GoesOnPaying choice world request row.id := by
  have calls := payingCall_of_proper standing.proper paying
  rw [same] at calls
  have safe := safe_after sound standing closed tends accounts unclaimed member held
  cases calls with
  | asks asks =>
    have proper := standing.proper
    refine .inr (.asks tender ?_ same asks)
    obtain ⟨frame, call⟩ := request
    rcases asks with ⟨provider, wanted, called⟩ | ⟨provider, wanted, called⟩
    · cases called
      obtain ⟨other, key, pays, _⟩ := proper
      exact Option.some.inj (pays.paying.symm.trans paying) ▸ pays
    · cases called
      obtain ⟨other, pays, _⟩ := proper
      exact Option.some.inj (pays.paying.symm.trans paying) ▸ pays
  | captured paymentId cents called =>
    have written := accounts
    unfold Accounts at written
    rw [called] at written
    rcases written row member rfl held with works | already
    · rw [called, rowAfter_statement works rfl, Table.Update.row_selected (decide_eq_true rfl)]
      obtain ⟨unnamed, _⟩ := unclaimed tender paying row member same.symm
      exact .inl (.inl (.inr ⟨rfl, unnamed⟩))
    · exact .inl (safe already)
  | closes called =>
    unfold Accounts at accounts
    rcases called with ⟨code, called⟩ | ⟨error, called⟩
    · rw [called] at accounts
      exact absurd held (accounts row member rfl)
    · rw [called] at accounts
      exact absurd held (accounts row member rfl)
  | flags paymentId reason called =>
    have written := accounts
    unfold Accounts at written
    rw [called] at written
    rcases written row member rfl held with works | already
    · rw [called, rowAfter_statement works rfl, Table.Update.row_selected (decide_eq_true rfl)]
      exact .inl (.inl (.inl rfl))
    · exact .inl (safe already)

/-- Some command pays for the intent. -/
def Paid (pending : Multiset Request) (row : PaymentIntentRow) : Prop :=
  ∃ request ∈ pending, ∃ tender ∈ request.frame.paying, tender.intent = row.id

def MoneySafe (world : HubWorld) (pending : Multiset Request) : Prop :=
  ∀ row ∈ world.db.paymentIntents, MoneyHeld world row → Safe world row ∨ Paid pending row

theorem money_after {others : Multiset Request} (sound : Sound world) (standing : Standing world request)
    (closed : Closed (· = .held) world) (tends : Tends world request) (accounts : Accounts world request choice)
    (unclaimed : PaysUnclaimed world request) (safe : MoneySafe world (request ::ₘ others))
    {after : PaymentIntentRow}
    (member : after ∈ (perform contractual choice world request).2.db.paymentIntents)
    (held : MoneyHeld (perform contractual choice world request).2 after) :
    Safe (perform contractual choice world request).2 after ∨ Paid others after ∨
      GoesOnPaying choice world request after.id := by
  rcases mem_perform_intents.mp member with ⟨row, present, rfl⟩ | opens
  · have identical := rowAfter_identity choice request.call row
    rw [identity_id identical]
    rcases outstanding_before held_outstanding ((hasFunds_identity identical).mp held) with
      before | ⟨provider, wanted, called, own, key⟩
    · rcases safe row present before with already | ⟨payer, waits, tender, paying, same⟩
      · exact .inl (safe_after sound standing closed tends accounts unclaimed present before already)
      · rcases Multiset.mem_cons.mp waits with rfl | other
        · exact (own_after sound standing closed tends accounts unclaimed present before paying same).imp_right .inr
        · exact .inr (.inl ⟨payer, other, tender, paying, by rw [same, identity_id identical]⟩)
    · obtain ⟨tender, pays, same⟩ := authorizes_paying sound standing present called own key
      exact .inr (.inr (.asks tender pays same (.inl ⟨provider, wanted, called⟩)))
  · exact .inr (.inr (.opens after opens rfl))

end Step

/-- The invariants that the money rests on. -/
def Grounds (world : HubWorld) (pending : Multiset Request) : Prop :=
  (Base world pending ∧ Closed (· = .held) world ∧ ∀ request ∈ pending, Tends world request) ∧
    Claimed world ∧ ∀ request ∈ pending, PaysUnclaimed world request

theorem grounds_kept (app : AppState) : Invariant (hub app) conduct keepsAccounts Opens Grounds := by
  have names (world : HubWorld) (others : List Request) (request : Request) (choice : Choice ProviderAnswer)
      (meets : keepsAccounts.step world others request choice) :
      (namesOwed (· = .held)).step world others request choice := meets.1
  apply ((reversals_tracked app held_outstanding).under names fun _ _ _ _ => trivial).extend
  refine { started := ?_, kept := ?_, continued := ?_ }
  · intro world others task request opens _ _ tender paying
    cases opens.2.2.1.paying.symm.trans paying
  · intro choice world others request meets base claimed unclaimed
    obtain ⟨⟨distinct, sound, standing⟩, _, _⟩ := base
    have own := standing request (Multiset.mem_cons_self _ _)
    refine ⟨claimed_after own (unclaimed request (Multiset.mem_cons_self _ _)) meets.2 claimed, ?_⟩
    intro other member
    have waits : other ∈ request ::ₘ (others : Multiset Request) :=
      Multiset.mem_cons_of_mem (Multiset.mem_coe.mpr member)
    exact unclaimed_other distinct (Multiset.mem_coe.mpr member) sound own (standing other waits) meets.2
      (unclaimed other waits)
  · intro choice world others request next meets base claimed unclaimed follows _ _
    obtain ⟨⟨_, sound, standing⟩, _, _⟩ := base
    exact unclaimed_next sound (standing request (Multiset.mem_cons_self _ _)) claimed meets.2
      (unclaimed request (Multiset.mem_cons_self _ _)) follows

theorem money_safe (app : AppState) :
    Invariant (hub app) conduct keepsAccounts Opens fun world pending =>
      Grounds world pending ∧ MoneySafe world pending where
  keeps := (grounds_kept app).keeps
  started world others task request admitted opens held := by
    obtain ⟨grounds, safe⟩ := held
    refine ⟨(grounds_kept app).started world others task request admitted opens grounds, ?_⟩
    intro row member money
    rcases safe row member money with already | ⟨payer, waits, paying⟩
    · exact .inl already
    · exact .inr ⟨payer, Multiset.mem_cons_of_mem waits, paying⟩
  continued choice world others request next meets held follows := by
    obtain ⟨grounds, safe⟩ := held
    refine ⟨(grounds_kept app).continued choice world others request next meets grounds follows, ?_⟩
    obtain ⟨⟨⟨_, sound, standing⟩, closed, tends⟩, _, unclaimed⟩ := grounds
    intro row member money
    have self := Multiset.mem_cons_self request (others : Multiset Request)
    rcases money_after sound (standing request self) closed (tends request self) meets.2 (unclaimed request self)
      safe member money with already | ⟨payer, waits, paying⟩ | goesOn
    · exact .inl already
    · exact .inr ⟨payer, Multiset.mem_cons_of_mem waits, paying⟩
    · exact .inr ⟨next, Multiset.mem_cons_self _ _, goesOnPaying_next goesOn follows⟩
  finished choice world others request meets held rests := by
    obtain ⟨grounds, safe⟩ := held
    refine ⟨(grounds_kept app).finished choice world others request meets grounds rests, ?_⟩
    obtain ⟨⟨⟨_, sound, standing⟩, closed, tends⟩, _, unclaimed⟩ := grounds
    intro row member money
    have self := Multiset.mem_cons_self request (others : Multiset Request)
    rcases money_after sound (standing request self) closed (tends request self) meets.2 (unclaimed request self)
      safe member money with already | paid | goesOn
    · exact .inl already
    · exact .inr paid
    · exact absurd rests (goesOnPaying_unfinished goesOn)
  dropped world others request unabandoned held := by
    obtain ⟨grounds, safe⟩ := held
    refine ⟨(grounds_kept app).dropped world others request unabandoned grounds, ?_⟩
    intro row member money
    rcases safe row member money with already | ⟨payer, waits, tender, paying, same⟩
    · exact .inl already
    · rcases Multiset.mem_cons.mp waits with rfl | other
      · refine .inl ?_
        by_contra unsafe'
        exact unabandoned ⟨tender, paying, row, member, same.symm, money, unsafe'⟩
      · exact .inr ⟨payer, other, tender, paying, same⟩

/-- In every run in which nothing that the provider holds is closed, lost or settled
past its order, and no command stops before writing its payment down, no money is
stranded. -/
theorem no_money_is_stranded (app : AppState) {world : HubWorld} (empty : world.db.paymentIntents = [])
    {events : List (Event (Choice ProviderAnswer) Hub.Task)}
    (keeps : keepsAccounts.RunMeets (hub app) (Pool.quiet world) events) :
    NothingStranded ((hub app).run (Pool.quiet world) events).world
      ((hub app).run (Pool.quiet world) events).pending := by
  have claimed : Claimed world := by
    constructor
    all_goals
      intro row member
      rw [empty] at member
      cases member
  have nothing : MoneySafe world 0 := by
    intro row member
    rw [empty] at member
    cases member
  obtain ⟨⟨_, claimed, _⟩, safe⟩ := (money_safe app).reached
    ⟨⟨⟨base_opening empty, closed_opening empty, by simp⟩, claimed, by simp⟩, nothing⟩ keeps
  intro row member
  refine ⟨?_, claimed.settled row member⟩
  intro money
  rcases safe row member money with (sweepable | counted) | ⟨request, waits, paying⟩
  · exact .inr (.inr (.inl sweepable))
  · exact .inl counted
  · exact .inr (.inr (.inr ⟨request, Multiset.mem_coe.mp waits, paying⟩))

/-- A second payment is captured while the order is finalized from the cart as it was before. -/
def settledUnlisted : List (Event (Choice ProviderAnswer) Hub.Task) :=
  pay 100 :: steps 11 5 1000 ++
    [command 102 (.addPayment
      { cartId := 10, tenderId := 21, amountCents := 1000, tipAmountCents := 0, externalReference := none
        provider := some "card", providerPaymentId := none, entryMethod := none })] ++
    (List.range 8).map (fun step => .step 0 (choice 6 (1100 + step) { approves with creates := some "pay_2" })) ++
    finalize 101 :: steps 9 10 2000

/-- A sale that is settled. -/
theorem settled_money_is_counted :
    NothingStranded ((hub shop).run (Pool.quiet opening) (pay 100 :: steps 11 5 1000 ++ finalize 101 :: steps 16 10 2000)).world
      ((hub shop).run (Pool.quiet opening) (pay 100 :: steps 11 5 1000 ++ finalize 101 :: steps 16 10 2000)).pending :=
  no_money_is_stranded shop rfl (by decide +kernel)

/-- The hub stops after the provider captured the money and before it is written
down; and a second payment of the cart is settled by an order that does not list it. -/
theorem money_is_stranded :
    ¬NothingStranded ((hub shop).run (Pool.quiet opening) (pay 100 :: steps 8 5 1000 ++ [.drop 0])).world
        ((hub shop).run (Pool.quiet opening) (pay 100 :: steps 8 5 1000 ++ [.drop 0])).pending ∧
      ¬NothingStranded ((hub shop).run (Pool.quiet opening) settledUnlisted).world
        ((hub shop).run (Pool.quiet opening) settledUnlisted).pending := by
  decide +kernel

end ApexEdge.Proofs.StrandedMoney
