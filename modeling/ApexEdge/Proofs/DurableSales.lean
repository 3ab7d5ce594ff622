import ApexEdge.Proofs.Attempts

/-! A sale on the order ledger and the money behind it. The order is written before
its intents are settled, and three statements flag intents without looking at the
orders; where they stay out of each other's way the money stays with the sale. -/

namespace ApexEdge.Proofs.DurableSales
open Library Payment Domain Storage Contracts Hub
open Conduct StepEffects Ledger Attempts

/-- The payment was created at the provider for the intent. -/
def Backs (world : HubWorld) (row : PaymentIntentRow) (payment : NewOrderPaymentEntry) : Prop :=
  payment.provider = some row.provider ∧
    ∃ paymentId ∈ payment.providerPaymentId, Issued world.remote row paymentId

instance (world : HubWorld) (row : PaymentIntentRow) (payment : NewOrderPaymentEntry) :
    Decidable (Backs world row payment) := inferInstanceAs (Decidable (_ ∧ _))

/-- The money is with the store. -/
def Kept (row : PaymentIntentRow) : Prop := row.state = .captured ∨ row.state = .settled

instance (row : PaymentIntentRow) : Decidable (Kept row) := inferInstanceAs (Decidable (_ ∨ _))

/-- The intent behind every payment of every order is captured or settled. -/
def SalesBacked (world : HubWorld) : Prop :=
  ∀ order ∈ world.db.orders, ∀ payment ∈ order.payments, ∀ row ∈ world.db.paymentIntents,
    Backs world row payment → Kept row

instance (world : HubWorld) : Decidable (SalesBacked world) :=
  inferInstanceAs (Decidable (∀ order ∈ world.db.orders, _))

def OnOrder (world : HubWorld) (row : PaymentIntentRow) : Prop :=
  ∃ order ∈ world.db.orders, ∃ payment ∈ order.payments, Backs world row payment

instance (world : HubWorld) (row : PaymentIntentRow) : Decidable (OnOrder world row) :=
  inferInstanceAs (Decidable (∃ order ∈ world.db.orders, _))

/-- What a step must not do to a sale: take up an intent that is owed back, lose the
record of a capture, write an order with money that is owed back, flag an intent
that an order has. -/
def Respects (world : HubWorld) (request : Request) (choice : Choice ProviderAnswer) : Prop :=
  match request.call with
  | .findPaymentIntent key provider tenderId =>
    ∀ row ∈ PaymentIntents.findByKey key provider tenderId world.db.paymentIntents,
      ¬Owed row ∧ (row.state = .settled → row.providerPaymentId ≠ none)
  | .markPaymentIntentCaptured .. => choice.storageFailure = none
  | .insertOrderLedgerEntryWithOutbox entry _ =>
    ∀ payment ∈ entry.payments, ∀ row ∈ world.db.paymentIntents, Backs world row payment → ¬Owed row
  | .flagPaymentIntentsForReversal .. | .flagPaymentIntentForReversal .. | .flagStaleCapturedPaymentIntents _ =>
    ∀ row ∈ world.db.paymentIntents, Selects choice request.call row → ¬OnOrder world row
  | _ => True

instance (world : HubWorld) (request : Request) (choice : Choice ProviderAnswer) :
    Decidable (Respects world request choice) := by
  induction request using Request.casesOn with
  | mk frame call => induction call using Call.casesOn <;> dsimp only [Respects] <;> infer_instance

def respectsSales : Condition Request HubWorld (Choice ProviderAnswer) :=
  { step := fun world _ request choice => Respects world request choice, drop := fun _ _ _ => True }

instance (world : HubWorld) (others : List Request) (request : Request) (choice : Choice ProviderAnswer) :
    Decidable (respectsSales.step world others request choice) := inferInstanceAs (Decidable (Respects ..))

instance (world : HubWorld) (others : List Request) (request : Request) :
    Decidable (respectsSales.drop world others request) := inferInstanceAs (Decidable True)

/-- A payment of no provider, or of an intent in a good standing that knows its id. -/
def Covered (good : PaymentIntentRow → Prop) (world : HubWorld) (provider paymentId : Option String) : Prop :=
  provider = none ∨ provider = some manualProvider ∨
    ∃ row ∈ world.db.paymentIntents, provider = some row.provider ∧ row.providerPaymentId ≠ none ∧
      paymentId = row.providerPaymentId ∧ good row

/-- Every order has its money, every cart had it. -/
structure Listed (world : HubWorld) : Prop where
  carts : ∀ row ∈ world.db.carts, ∀ payment ∈ row.data.payments,
    Covered (fun row => Kept row ∨ Owed row) world payment.provider payment.providerPaymentId
  orders : ∀ order ∈ world.db.orders, ∀ payment ∈ order.payments,
    Covered Kept world payment.provider payment.providerPaymentId

def Carries (world : HubWorld) (request : Request) : Prop :=
  ∀ payment, Conduct.Has request.frame.cart payment →
    Covered (fun row => Kept row ∨ Owed row) world payment.provider payment.providerPaymentId

section Step
variable {choice : Choice ProviderAnswer} {world : HubWorld} {request : Request}

theorem covered_after {good : PaymentIntentRow → Prop} {provider paymentId : Option String}
    (sound : Sound world) (standing : Standing world request)
    (kept : ∀ row ∈ world.db.paymentIntents, row.providerPaymentId ≠ none → good row →
      provider = some row.provider → paymentId = row.providerPaymentId →
      good (rowAfter choice request.call row))
    (covered : Covered good world provider paymentId) :
    Covered good (perform contractual choice world request).2 provider paymentId := by
  rcases covered with none | manual | ⟨row, member, own, told, same, held⟩
  · exact .inl none
  · exact .inr (.inl manual)
  · have continues := continues_after choice sound standing member
    obtain ⟨id, known⟩ := Option.ne_none_iff_exists'.mp told
    refine .inr (.inr ⟨_, mem_perform_intents.mpr (.inl ⟨row, member, rfl⟩), ?_, ?_, ?_, ?_⟩)
    · rw [identity_provider continues.1, own]
    · rw [continues.2 id known]
      exact Option.some_ne_none id
    · rw [continues.2 id known, same, known]
    · exact kept row member told held own same

/-- A payment that was taken stays taken, or becomes owed. -/
theorem kept_or_owed_after (standing : Standing world request) (works : Works world request)
    {row : PaymentIntentRow} (member : row ∈ world.db.paymentIntents) (told : row.providerPaymentId ≠ none)
    (held : Kept row ∨ Owed row) :
    Kept (rowAfter choice request.call row) ∨ Owed (rowAfter choice request.call row) := by
  rcases rowAfter_cases choice request.call row with same | ⟨_, change⟩
  · rwa [same]
  · cases change with
    | retried state _ _ => unfold Kept Owed; rwa [state]
    | captured _ _ _ state _ _ => exact .inl (.inl state)
    | closed called _ _ _ =>
      obtain ⟨tender, pays, same⟩ := closes_paying standing.proper called
      exact absurd (works.paying tender pays.paying row member same.symm).2.2 told
    | settled _ _ _ state _ _ => exact .inl (.inr state)
    | flagged _ _ _ state _ _ => exact .inr (.inl state)
    | abandoned _ _ state _ _ => exact .inr (.inl state)
    | reversed _ state _ _ => exact .inr (.inr state)

/-- The money of an order stays where it is. -/
theorem kept_after (standing : Standing world request) (works : Works world request)
    (respects : Respects world request choice) {row : PaymentIntentRow} (member : row ∈ world.db.paymentIntents)
    (told : row.providerPaymentId ≠ none) (onOrder : OnOrder world row) (held : Kept row) :
    Kept (rowAfter choice request.call row) := by
  rcases rowAfter_cases choice request.call row with same | ⟨selected, change⟩
  · rwa [same]
  · cases change with
    | retried state _ _ => unfold Kept; rwa [state]
    | captured _ _ _ state _ _ => exact .inl state
    | closed called _ _ _ =>
      obtain ⟨tender, pays, same⟩ := closes_paying standing.proper called
      exact absurd (works.paying tender pays.paying row member same.symm).2.2 told
    | settled _ _ _ state _ _ => exact .inr state
    | flagged _ _ called _ _ _ =>
      unfold Respects at respects
      rw [called] at respects selected
      exact absurd onOrder (respects row member selected)
    | abandoned called _ _ _ _ =>
      unfold Respects at respects
      rcases called with ⟨reason, called⟩ | ⟨staleAfter, called⟩
      · rw [called] at respects selected
        exact absurd onOrder (respects row member selected)
      · rw [called] at respects selected
        exact absurd onOrder (respects row member selected)
    | reversed called _ _ _ =>
      obtain ⟨intent, owes, same, _⟩ := reverses_owed standing.proper called
      obtain ⟨rest, first⟩ := owes.owed
      have owed := works.owed intent (first ▸ List.mem_cons_self) row member same.symm
      rcases held with state | state <;> rcases owed with owed | owed <;> cases state.symm.trans owed

theorem taken_after {provider paymentId : Option String} (sound : Sound world) (standing : Standing world request)
    (works : Works world request)
    (covered : Covered (fun row => Kept row ∨ Owed row) world provider paymentId) :
    Covered (fun row => Kept row ∨ Owed row) (perform contractual choice world request).2 provider paymentId :=
  covered_after sound standing
    (fun _ member told held _ _ => kept_or_owed_after standing works member told held) covered

/-- The orders after a request: those of before, and one written from the cart in its frame. -/
theorem mem_orders_after {order : NewOrderLedgerEntry}
    (member : order ∈ (perform contractual choice world request).2.db.orders) :
    order ∈ world.db.orders ∨ ∃ entry outboxId, request.call = .insertOrderLedgerEntryWithOutbox entry outboxId ∧
      order.payments = entry.payments := by
  rcases perform_orders contractual choice world request with same | ⟨entry, outboxId, called, written⟩
  · exact .inl (same ▸ member)
  · unfold Orders.write at written
    split at written
    · cases written
    · rw [← Except.ok.inj written] at member
      rcases Table.mem_upsert member with rfl | old | ⟨old, _, rfl⟩
      · exact .inr ⟨order, outboxId, called, rfl⟩
      · exact .inl old
      · exact .inr ⟨entry, outboxId, called, rfl⟩

theorem mem_carts_after {row : CartRow} (member : row ∈ (perform contractual choice world request).2.db.carts) :
    row ∈ world.db.carts ∨ ∃ cart, request.call = .saveCart cart ∧ row.data = cart := by
  rcases perform_carts contractual choice world request with same | ⟨cart, called, saved⟩
  · exact .inl (same ▸ member)
  · rw [saved] at member
    rcases Table.mem_upsert member with rfl | old | ⟨old, _, rfl⟩
    · exact .inr ⟨cart, called, rfl⟩
    · exact .inl old
    · exact .inr ⟨cart, called, rfl⟩

private theorem backs_of_told {row : PaymentIntentRow} {payment : NewOrderPaymentEntry} (sound : Sound world)
    (member : row ∈ world.db.paymentIntents) (told : row.providerPaymentId ≠ none)
    (own : payment.provider = some row.provider) (same : payment.providerPaymentId = row.providerPaymentId) :
    Backs world row payment := by
  obtain ⟨id, known⟩ := Option.ne_none_iff_exists'.mp told
  exact ⟨own, id, same.trans known, sound.issued row member id known⟩

/-- An order is written with the money of the cart it is written from, none of it owed back. -/
private theorem written_covered {order : NewOrderLedgerEntry} {entry : NewOrderLedgerEntry} {outboxId : Uuid}
    (sound : Sound world) (standing : Standing world request) (carries : Carries world request)
    (respects : Respects world request choice)
    (called : request.call = .insertOrderLedgerEntryWithOutbox entry outboxId)
    (same : order.payments = entry.payments) {payment : NewOrderPaymentEntry} (present : payment ∈ order.payments) :
    Covered Kept world payment.provider payment.providerPaymentId := by
  have proper := standing.proper
  unfold Respects at respects
  obtain ⟨frame, call⟩ := request
  cases called
  obtain ⟨_, cart, held, payments⟩ := proper
  rw [same] at present
  have clear := respects payment present
  rw [payments] at present
  obtain ⟨paid, paidFor, rfl⟩ := List.mem_map.mp present
  rcases carries paid ⟨cart, held, paidFor⟩ with none | manual | ⟨row, member, own, told, id, kept | owed⟩
  · exact .inl none
  · exact .inr (.inl manual)
  · exact .inr (.inr ⟨row, member, own, told, id, kept⟩)
  · exact absurd owed (clear row member (backs_of_told sound member told own id))

theorem listed_after (sound : Sound world) (standing : Standing world request) (works : Works world request)
    (carries : Carries world request) (respects : Respects world request choice) (listed : Listed world) :
    Listed (perform contractual choice world request).2 where
  carts row member payment present := by
    rcases mem_carts_after member with old | ⟨cart, called, same⟩
    · exact taken_after sound standing works (listed.carts row old payment present)
    · apply taken_after sound standing works
      have proper := standing.proper
      obtain ⟨frame, call⟩ := request
      cases called
      exact carries payment ⟨cart, proper.1, same ▸ present⟩
  orders order member payment present := by
    rcases mem_orders_after member with old | ⟨entry, outboxId, called, same⟩
    · apply covered_after sound standing _ (listed.orders order old payment present)
      intro row stored told held own same
      have backs := backs_of_told sound stored told own same
      exact kept_after standing works respects stored told ⟨order, old, payment, present, backs⟩ held
    · apply covered_after sound standing _ (written_covered sound standing carries respects called same present)
      intro row _ _ held _ _
      rwa [rowAfter_unchanged (by rw [called]; rfl)]

/-- The payments of the next cart are known, or that of a tender whose intent is captured or settled. -/
theorem carries_next {next : Request} (sound : Sound world) (standing : Standing world request)
    (works : Works world request) (carries : Carries world request) (respects : Respects world request choice)
    (listed : Listed world)
    (follows : conduct.follows request (perform contractual choice world request).1 next) :
    Carries (perform contractual choice world request).2 next := by
  intro payment held
  have known (before : Conduct.Has request.frame.cart payment) :
      Covered (fun row => Kept row ∨ Owed row) (perform contractual choice world request).2
        payment.provider payment.providerPaymentId := taken_after sound standing works (carries payment before)
  have free (unbacked : Unbacked payment) :
      Covered (fun row => Kept row ∨ Owed row) (perform contractual choice world request).2
        payment.provider payment.providerPaymentId := unbacked.elim .inl fun manual => .inr (.inl manual)
  cases succeeds standing.proper follows with
  | idle _ lists =>
    rcases lists payment held with before | unbacked | ⟨row, member, present⟩
    · exact known before
    · exact free unbacked
    · exact taken_after sound standing works (listed.carts row member payment present)
  | pays _ _ cart _ => exact known (cart ▸ held)
  | sweeps swept =>
    obtain ⟨cart, impossible, _⟩ := held
    cases swept.cart.symm.trans impossible
  | holds tender _ taken lists =>
    rcases lists payment held with before | unbacked | ⟨⟨own, told⟩, unsaved⟩
    · exact known before
    · exact free unbacked
    · cases taken with
      | kept cart called _ => exact absurd called (unsaved cart)
      | resumed key provider tenderId row called found taken same =>
        subst same
        have member : row ∈ world.db.paymentIntents := List.mem_of_find?_eq_some found
        unfold Respects at respects
        rw [called] at respects
        have named : row.providerPaymentId ≠ none :=
          taken.elim (sound.captured row member) (respects row found).2
        obtain ⟨id, known⟩ := Option.ne_none_iff_exists'.mp named
        apply taken_after sound standing works
        exact .inr (.inr ⟨row, member, own, named, (told id known).trans known.symm, .inl taken⟩)
      | captured paymentId cents called pays =>
        obtain ⟨row, member, id, _, provider, _, _⟩ := standing.paying tender pays.paying
        have written : choice.storageFailure = none := by
          unfold Respects at respects
          rwa [called] at respects
        have proper := standing.proper
        obtain ⟨frame, call⟩ := request
        cases called
        obtain ⟨other, also, _, tells⟩ := proper
        cases Option.some.inj (also.paying.symm.trans pays.paying)
        have became : rowAfter choice (.markPaymentIntentCaptured tender.intent paymentId cents) row =
            { row with state := .captured, providerPaymentId := some paymentId
                       approvedCents := centsColumn cents, updatedAt := choice.now } := by
          rw [rowAfter_statement written rfl]
          exact Table.Update.row_selected (decide_eq_true id)
        refine .inr (.inr ⟨_, mem_perform_intents.mpr (.inl ⟨row, member, rfl⟩), ?_⟩)
        rw [became]
        exact ⟨provider ▸ own, Option.some_ne_none _, told paymentId tells, .inl (.inl rfl)⟩

end Step

/-- Nothing has been paid for and nothing is on the ledger. -/
structure Opening (world : HubWorld) : Prop where
  intents : world.db.paymentIntents = []
  orders : world.db.orders = []
  carts : ∀ row ∈ world.db.carts, ∀ payment ∈ row.data.payments, Unbacked payment

theorem sales_listed (app : AppState) :
    Invariant (hub app) conduct respectsSales Opens fun world pending =>
      (Base world pending ∧ Untold world ∧ ∀ request ∈ pending, Works world request) ∧
        Listed world ∧ ∀ request ∈ pending, Carries world request := by
  have fresh (world : HubWorld) (others : List Request) (request : Request) (choice : Choice ProviderAnswer)
      (respects : respectsSales.step world others request choice) :
      revivesNothing.step world others request choice := by
    have respects' : Respects world request choice := respects
    unfold Respects at respects'
    show Finds _ world request
    unfold Finds
    split
    next called =>
      rw [called] at respects'
      exact fun row found => (respects' row found).1
    next => trivial
  apply ((attempts_apart app).under fresh fun _ _ _ _ => trivial).extend
  refine { started := ?_, kept := ?_, continued := ?_ }
  · intro world others task request opens _ _ payment held
    rcases opens.2.2.2 payment held with impossible | none | manual
    · cases impossible
    · exact .inl none
    · exact .inr (.inl manual)
  · intro choice world others request respects base listed carries
    obtain ⟨⟨_, sound, standing⟩, _, works⟩ := base
    have own := standing request (Multiset.mem_cons_self _ _)
    have ownWorks := works request (Multiset.mem_cons_self _ _)
    refine ⟨listed_after sound own ownWorks (carries request (Multiset.mem_cons_self _ _)) respects listed, ?_⟩
    intro other member payment held
    exact taken_after sound own ownWorks
      (carries other (Multiset.mem_cons_of_mem (Multiset.mem_coe.mpr member)) payment held)
  · intro choice world others request next respects base listed carries follows _ _
    obtain ⟨⟨_, sound, standing⟩, _, works⟩ := base
    exact carries_next sound (standing request (Multiset.mem_cons_self _ _))
      (works request (Multiset.mem_cons_self _ _)) (carries request (Multiset.mem_cons_self _ _)) respects listed
      follows

/-- In every run whose steps respect the sales, an order's money is captured or settled. -/
theorem sales_keep_their_money (app : AppState) {world : HubWorld} (opening : Opening world)
    {events : List (Event (Choice ProviderAnswer) Task)}
    (respects : respectsSales.RunMeets (hub app) (Pool.quiet world) events) :
    SalesBacked ((hub app).run (Pool.quiet world) events).world := by
  have begins : Untold world := by
    intro row member
    rw [opening.intents] at member
    cases member
  have listed : Listed world := by
    refine ⟨?_, ?_⟩
    · intro row member payment present
      rcases opening.carts row member payment present with none | manual
      · exact .inl none
      · exact .inr (.inl manual)
    · intro order member
      rw [opening.orders] at member
      cases member
  obtain ⟨⟨⟨_, sound, _⟩, _, _⟩, listed, _⟩ := (sales_listed app).reached
    ⟨⟨base_opening opening.intents, begins, by simp⟩, listed, by simp⟩ respects
  intro order member payment present row stored backs
  obtain ⟨own, id, told, issued⟩ := backs
  rcases listed.orders order member payment present with none | manual | ⟨other, also, provider, named, same, kept⟩
  · cases none.symm.trans own
  · exact absurd (Option.some.inj (own.symm.trans manual)) (sound.processed row stored)
  · have sameProvider := Option.some.inj (provider.symm.trans own)
    have otherIssued := sound.issued other also id (same.symm.trans told)
    exact sound.same_payment stored also sameProvider issued otherIssued ▸ kept

/-- A card payment and the finalization that follows it at once. -/
def promptSale : List (Event (Choice ProviderAnswer) Hub.Task) :=
  pay 100 :: steps 11 5 1000 ++ finalize 101 :: steps 16 10 2000

private theorem opening_opens : Opening opening := ⟨rfl, rfl, by decide⟩

theorem prompt_sale_keeps_its_money :
    ((hub shop).run (Pool.quiet opening) promptSale).world.db.orders ≠ [] ∧
      SalesBacked ((hub shop).run (Pool.quiet opening) promptSale).world :=
  ⟨by decide +kernel, sales_keep_their_money shop opening_opens (by decide +kernel)⟩

/-- The same with a sweep in between, which voids the payment of the paid cart. -/
def lateSale : List (Event (Choice ProviderAnswer) Hub.Task) :=
  pay 100 :: steps 11 5 1000 ++ sweep :: steps 5 2000 2000 ++ finalize 101 :: steps 16 2100 3000

theorem late_sale_without_money :
    Opening opening ∧ ¬SalesBacked ((hub shop).run (Pool.quiet opening) lateSale).world :=
  ⟨opening_opens, by decide +kernel⟩

end ApexEdge.Proofs.DurableSales
