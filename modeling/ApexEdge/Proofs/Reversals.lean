import ApexEdge.Proofs.Attempts

/-! What the sweep closes. An intent that is owed back and knows its payment is
closed by a confirmed void; one that knows none is closed as it stands, which is
right where no payment is outstanding for it. -/

namespace ApexEdge.Proofs.Reversals
open Library Payment Domain Storage Contracts Hub
open Conduct StepEffects Ledger Attempts

/-- The funds of the intent's payment, if it has one, are in such a state. -/
def HasFunds (state : Funds → Prop) (world : HubWorld) (row : PaymentIntentRow) : Prop :=
  world.remote.Has state row.provider (authorizeKey row)

instance (state : Funds → Prop) [DecidablePred state] (world : HubWorld) (row : PaymentIntentRow) :
    Decidable (HasFunds state world row) := inferInstanceAs (Decidable (world.remote.Has ..))

/-- What may count as outstanding: nothing that a void has confirmed, and letting go never adds to it. -/
structure Outstanding (outstanding : Funds → Prop) : Prop where
  voided : ¬outstanding .voided
  freed : outstanding .free → outstanding .held

theorem Outstanding.letsGo {outstanding : Funds → Prop} (counts : Outstanding outstanding) {before after : Funds}
    (letsGo : Funds.LetsGo before after) (still : outstanding after) : outstanding before := by
  cases letsGo with
  | same => exact still
  | freed => exact counts.freed still
  | voided => exact absurd still counts.voided

/-- No intent is put down as owed back under no id while a payment is outstanding
for it, and none is taken up again like that. -/
def NamesOwed (outstanding : Funds → Prop) (world : HubWorld) (request : Request) : Prop :=
  match request.call with
  | .findPaymentIntent key provider tenderId =>
    ∀ row ∈ PaymentIntents.findByKey key provider tenderId world.db.paymentIntents,
      Owed row → row.providerPaymentId ≠ none
  | .flagPaymentIntentForReversal id none _ =>
    ∀ row ∈ world.db.paymentIntents, row.id = id → row.providerPaymentId = none → ¬HasFunds outstanding world row
  | _ => True

instance (outstanding : Funds → Prop) [DecidablePred outstanding] (world : HubWorld) (request : Request) :
    Decidable (NamesOwed outstanding world request) := by
  induction request using Request.casesOn with
  | mk frame call =>
    induction call using Call.casesOn with
    | flagPaymentIntentForReversal id named reason =>
      induction named using Option.casesOn <;> dsimp only [NamesOwed] <;> infer_instance
    | _ => dsimp only [NamesOwed]; infer_instance

def namesOwed (outstanding : Funds → Prop) : Condition Request HubWorld (Choice ProviderAnswer) :=
  { step := fun world _ request _ => NamesOwed outstanding world request, drop := fun _ _ _ => True }

structure Closed (outstanding : Funds → Prop) (world : HubWorld) : Prop where
  unnamed : ∀ row ∈ world.db.paymentIntents, Owed row → row.providerPaymentId = none →
    ¬HasFunds outstanding world row
  named : ∀ row ∈ world.db.paymentIntents, row.state = .reversed → row.providerPaymentId ≠ none →
    HasFunds (· = .voided) world row

/-- Commands leave alone what a sweep may close under no id, and a void that was
confirmed stands behind the intent that is closed next. -/
structure Tends (world : HubWorld) (request : Request) : Prop where
  live : ∀ tender, request.frame.paying = some tender ∨ request.frame.taken = some tender →
    ∀ row ∈ world.db.paymentIntents, row.id = tender.intent → row.providerPaymentId = none → ¬Owed row
  owed : ∀ old ∈ request.frame.owed, old.providerPaymentId = none →
    ∀ row ∈ world.db.paymentIntents, row.id = old.id → Owed row ∧ row.providerPaymentId = none
  voided : request.frame.voided = true → ∀ old rest, request.frame.owed = old :: rest →
    old.providerPaymentId ≠ none ∧ HasFunds (· = .voided) world old

section Step
variable {outstanding : Funds → Prop} {choice : Choice ProviderAnswer} {world : HubWorld} {request : Request}
  {row : PaymentIntentRow}

theorem hasFunds_identity {state : Funds → Prop} {after : PaymentIntentRow} (same : identity after = identity row) :
    HasFunds state world after ↔ HasFunds state world row := by
  simp only [identity, Prod.mk.injEq] at same
  simp only [HasFunds, authorizeKey, same]

/-- Only an authorization under its key can make a payment outstanding. -/
theorem outstanding_before (counts : Outstanding outstanding)
    (has : HasFunds outstanding (perform contractual choice world request).2 row) :
    HasFunds outstanding world row ∨ ∃ provider wanted, request.call = .authorize provider wanted ∧
      row.provider = provider ∧ authorizeKey row = wanted.idempotencyKey := by
  unfold HasFunds at has
  rw [perform_remote] at has
  split at has
  next provider wanted called =>
    obtain ⟨payment, member, own, key, still⟩ := has
    rw [show (contractual.authorize choice.answer world.remote provider wanted).2 = _ from
      RemotePayments.authorize_after ..] at member
    rcases RemotePayments.attempt_other member with old | ⟨provider', key'⟩
    · exact .inl ⟨payment, old, own, key, still⟩
    · exact .inr ⟨provider, wanted, called, own.symm.trans provider', key.symm.trans key'⟩
  next provider wanted _ =>
    rw [show (contractual.capture choice.answer world.remote provider wanted).2 = _ from
      RemotePayments.capture_after ..] at has
    exact .inl has
  next provider wanted _ =>
    obtain ⟨payment, member, own, key, still⟩ := has
    obtain ⟨before, old, provider', key', letsGo⟩ := RemotePayments.void_only_lets_go member
    exact .inl ⟨before, old, provider'.trans own, key'.trans key, counts.letsGo letsGo still⟩
  next provider wanted _ =>
    rw [show (contractual.refund choice.answer world.remote provider wanted).2 = _ from
      RemotePayments.refund_after ..] at has
    exact .inl has
  next => exact .inl has

/-- A confirmed void is never taken back. -/
theorem voided_after (voided : HasFunds (· = .voided) world row) :
    HasFunds (· = .voided) (perform contractual choice world request).2 row := by
  unfold HasFunds
  rw [perform_remote]
  split
  next provider wanted _ =>
    rw [show (contractual.authorize choice.answer world.remote provider wanted).2 = _ from
      RemotePayments.authorize_after ..]
    exact RemotePayments.voided_stays_attempt voided
  next provider wanted _ =>
    rw [show (contractual.capture choice.answer world.remote provider wanted).2 = _ from
      RemotePayments.capture_after ..]
    exact voided
  next provider wanted _ => exact RemotePayments.voided_stays_void _ _ voided
  next provider wanted _ =>
    rw [show (contractual.refund choice.answer world.remote provider wanted).2 = _ from
      RemotePayments.refund_after ..]
    exact voided
  next => exact voided

theorem not_outstanding_of_voided (counts : Outstanding outstanding) (voided : HasFunds (· = .voided) world row) :
    ¬HasFunds outstanding world row := by
  intro has
  obtain ⟨funds, rfl, still⟩ := voided.and has
  exact counts.voided still

/-- An intent that knows no payment now knew none before. -/
theorem unnamed_before (sound : Sound world) (standing : Standing world request)
    (member : row ∈ world.db.paymentIntents) (unnamed : (rowAfter choice request.call row).providerPaymentId = none) :
    row.providerPaymentId = none := by
  cases known : row.providerPaymentId with
  | none => rfl
  | some paymentId =>
    rw [(continues_after choice sound standing member).2 paymentId known] at unnamed
    cases unnamed

/-- What a sweep closes: an intent owed back that knows no payment, or one whose void was confirmed. -/
theorem closes_owed (sound : Sound world) (standing : Standing world request) (tends : Tends world request)
    (member : row ∈ world.db.paymentIntents) (called : request.call = .markPaymentIntentReversed row.id) :
    Owed row ∧ row.providerPaymentId = none ∨
      row.providerPaymentId ≠ none ∧ HasFunds (· = .voided) world row := by
  obtain ⟨intent, owes, same, closes⟩ := reverses_owed standing.proper called
  obtain ⟨rest, first⟩ := owes.owed
  have listed : intent ∈ request.frame.owed := first ▸ List.mem_cons_self
  rcases closes with none | voided
  · exact .inl (tends.owed intent listed none row member same.symm)
  · obtain ⟨named, gone⟩ := tends.voided voided intent rest first
    obtain ⟨paymentId, known⟩ := Option.ne_none_iff_exists'.mp named
    obtain ⟨stored, present, identical, more⟩ := standing.owed intent listed
    obtain rfl := sound.same_row member present ((identity_id identical).trans same)
    refine .inr ⟨?_, (hasFunds_identity identical).mpr gone⟩
    rw [more paymentId known]
    exact Option.some_ne_none paymentId

theorem closed_after (counts : Outstanding outstanding) (sound : Sound world) (standing : Standing world request)
    (tends : Tends world request) (names : NamesOwed outstanding world request) (closed : Closed outstanding world) :
    Closed outstanding (perform contractual choice world request).2 where
  unnamed := by
    intro after member owed unnamed has
    rcases mem_perform_intents.mp member with ⟨row, present, rfl⟩ | opens
    · have none := unnamed_before sound standing present unnamed
      rw [hasFunds_identity (rowAfter_identity choice request.call row)] at has
      rcases outstanding_before counts has with before | ⟨provider, wanted, called, own, key⟩
      · rcases owed_by owed with ⟨owed, _⟩ | ⟨paymentId, reason, called, named⟩ | taken | called
        · exact closed.unnamed row present owed none before
        · rw [none, Option.or_none] at named
          obtain rfl := named.symm.trans unnamed
          unfold NamesOwed at names
          rw [called] at names
          exact names row present rfl none before
        · exact sound.captured row present taken none
        · rcases closes_owed sound standing tends present called with ⟨owed, _⟩ | ⟨named, _⟩
          · exact closed.unnamed row present owed none before
          · exact named none
      · obtain ⟨tender, pays, same⟩ := authorizes_paying sound standing present called own key
        rw [rowAfter_unchanged (by rw [called]; rfl)] at owed
        exact tends.live tender (.inl pays.paying) row present same.symm none owed
    · obtain ⟨id, input, _, rfl, _⟩ := opened_new opens
      rcases owed with owed | owed <;> cases owed
  named := by
    intro after member reversed named
    rcases mem_perform_intents.mp member with ⟨row, present, rfl⟩ | opens
    · rw [hasFunds_identity (rowAfter_identity choice request.call row)]
      apply voided_after
      rcases rowAfter_cases choice request.call row with same | ⟨_, change⟩
      · rw [same] at reversed named
        exact closed.named row present reversed named
      · cases change with
        | retried state same _ => exact closed.named row present (state.symm.trans reversed) (same ▸ named)
        | captured _ _ _ state _ _ => cases state.symm.trans reversed
        | closed _ state _ _ => rcases state with state | state <;> cases state.symm.trans reversed
        | settled _ _ _ state _ _ => cases state.symm.trans reversed
        | flagged _ _ _ state _ _ => cases state.symm.trans reversed
        | abandoned _ _ state _ _ => cases state.symm.trans reversed
        | reversed called _ same _ =>
          rcases closes_owed sound standing tends present called with ⟨_, none⟩ | ⟨_, voided⟩
          · exact absurd (same.trans none) named
          · exact voided
    · obtain ⟨id, input, _, rfl, _⟩ := opened_new opens
      cases reversed

/-- An intent that is owed back under no id stays so. -/
theorem owed_unnamed_after (standing : Standing world request) (tends : Tends world request)
    (member : row ∈ world.db.paymentIntents) (owed : Owed row) (none : row.providerPaymentId = none) :
    Owed (rowAfter choice request.call row) ∧ (rowAfter choice request.call row).providerPaymentId = Option.none := by
  have untouched {tender : IntentTender}
      (live : request.frame.paying = some tender ∨ request.frame.taken = some tender)
      (same : tender.intent = row.id) : False := tends.live tender live row member same.symm none owed
  rcases rowAfter_cases choice request.call row with same | ⟨_, change⟩
  · rw [same]
    exact ⟨owed, none⟩
  · cases change with
    | retried state same _ =>
      unfold Owed
      rw [state, same]
      exact ⟨owed, none⟩
    | captured _ _ called _ _ _ =>
      obtain ⟨tender, pays, same, _⟩ := captures_paying standing.proper called
      exact (untouched (.inl pays.paying) same).elim
    | closed called _ _ _ =>
      obtain ⟨tender, pays, same⟩ := closes_paying standing.proper called
      exact (untouched (.inl pays.paying) same).elim
    | settled _ _ taken _ _ _ => rcases owed with owed | owed <;> simp [owed] at taken
    | flagged _ _ called _ _ _ =>
      obtain ⟨tender, same, _, pays | ⟨holds, _⟩⟩ := flags_live standing.proper called
      · exact (untouched (.inl pays.paying) same).elim
      · exact (untouched (.inr holds.taken) same).elim
    | abandoned _ taken _ _ _ => rcases owed with owed | owed <;> cases owed.symm.trans taken
    | reversed _ state same _ => exact ⟨.inr state, same.trans none⟩

/-- Nobody else makes an intent owed back under no id. -/
theorem unowed_after {key : Uuid} (sound : Sound world) (standing : Standing world request)
    (tends : Tends world request) (member : row ∈ world.db.paymentIntents) (own : row.idempotencyKey = key)
    (other : request.frame.key ≠ some key) (none : row.providerPaymentId = none) (unowed : ¬Owed row) :
    ¬Owed (rowAfter choice request.call row) := by
  have apart {tender : IntentTender}
      (live : request.frame.paying = some tender ∨ request.frame.taken = some tender)
      (same : tender.intent = row.id) : False :=
    other (own ▸ own_of_paying sound standing member live same)
  intro owed
  rcases owed_by owed with ⟨owed, _⟩ | ⟨paymentId, reason, called, _⟩ | taken | called
  · exact unowed owed
  · obtain ⟨tender, same, _, pays | ⟨holds, _⟩⟩ := flags_live standing.proper called
    · exact apart (.inl pays.paying) same
    · exact apart (.inr holds.taken) same
  · exact sound.captured row member taken none
  · rcases closes_owed sound standing tends member called with ⟨owed, _⟩ | ⟨named, _⟩
    · exact unowed owed
    · exact named none

theorem tends_other {other : Request} {others : Multiset Request} (distinct : Distinct (request ::ₘ others))
    (member : other ∈ others) (sound : Sound world) (standing : Standing world request)
    (otherStanding : Standing world other) (tends : Tends world request) (otherTends : Tends world other) :
    Tends (perform contractual choice world request).2 other where
  live := by
    intro tender live after present same none
    have stands : Stands world other.frame.key tender :=
      live.elim (otherStanding.paying tender) (otherStanding.taken tender)
    obtain ⟨row, old, id, keyed, _⟩ := stands
    obtain rfl := row_from sound present old (same.trans id.symm)
    have before := unnamed_before sound standing old none
    apply unowed_after sound standing tends old rfl _ before (otherTends.live tender live row old id before)
    intro clash
    exact distinct.apart clash member keyed
  owed := by
    intro listed owed none after present same
    obtain ⟨row, old, continues⟩ := otherStanding.owed listed owed
    have id := identity_id continues.1
    obtain rfl := row_from sound present old (same.trans id.symm)
    obtain ⟨still, unnamed⟩ := otherTends.owed listed owed none row old id
    exact owed_unnamed_after standing tends old still unnamed
  voided := by
    intro voided listed rest first
    obtain ⟨named, gone⟩ := otherTends.voided voided listed rest first
    exact ⟨named, voided_after gone⟩

/-- What a command has in hand after capturing it is not owed back under no id. -/
private theorem unowed_captured {paymentId : String} {cents : Nat} {id : Uuid} {tender : IntentTender}
    (sound : Sound world) (tends : Tends world request) (pays : Pays request.frame tender)
    (member : row ∈ world.db.paymentIntents) (same : row.id = tender.intent)
    (called : request.call = .markPaymentIntentCaptured id paymentId cents) (none : row.providerPaymentId = none) : ¬Owed (rowAfter choice request.call row) := by
  intro owed
  rcases owed_by owed with ⟨owed, _⟩ | ⟨paymentId, reason, flags, _⟩ | taken | marks
  · exact tends.live tender (.inl pays.paying) row member same none owed
  · cases called.symm.trans flags
  · exact sound.captured row member taken none
  · cases called.symm.trans marks

theorem tends_next {next : Request} (sound : Sound world) (standing : Standing world request)
    (tends : Tends world request) (names : NamesOwed outstanding world request)
    (follows : conduct.follows request (perform contractual choice world request).1 next) :
    Tends (perform contractual choice world request).2 next := by
  have found {key tenderId : Uuid} {provider : String} {row : PaymentIntentRow}
      (called : request.call = .findPaymentIntent key provider tenderId)
      (found : PaymentIntents.findByKey key provider tenderId world.db.paymentIntents = some row)
      (unnamed : row.providerPaymentId = none) : ¬Owed row := by
    unfold NamesOwed at names
    rw [called] at names
    exact fun owed => names row found owed unnamed
  have alive (tender : IntentTender) (only : ∀ other, next.frame.paying = some other ∨ next.frame.taken = some other →
        other = tender) (owed : next.frame.owed = [])
      (unowed : ∀ row ∈ (perform contractual choice world request).2.db.paymentIntents, row.id = tender.intent →
        row.providerPaymentId = none → ¬Owed row) :
      Tends (perform contractual choice world request).2 next := by
    refine ⟨fun other live => only other live ▸ unowed, ?_, ?_⟩
    · intro old member
      rw [owed] at member
      cases member
    · intro _ old rest first
      cases owed.symm.trans first
  cases succeeds standing.proper follows with
  | idle idle _ =>
    refine ⟨?_, ?_, ?_⟩
    · rintro tender (paying | taken)
      · cases idle.paying.symm.trans paying
      · cases idle.taken.symm.trans taken
    · intro old member
      rw [idle.owed] at member
      cases member
    · intro voided
      cases idle.voided.symm.trans voided
  | pays tender pays _ paying =>
    apply alive tender _ pays.owed
    · intro after member same unnamed
      cases paying with
      | asking before waits intent asks =>
        have quiet : statement request.call = none := by
          rcases asks with ⟨_, _, called⟩ | ⟨_, _, called⟩ <;> rw [called] <;> rfl
        obtain ⟨row, old, id, _⟩ := standing.paying before waits.paying
        obtain rfl := row_unmoved quiet sound member old (same.trans (intent.symm.trans id.symm))
        exact tends.live before (.inl waits.paying) after old id unnamed
      | resumed key provider tenderId row called looked id _ _ =>
        have present : row ∈ world.db.paymentIntents := List.mem_of_find?_eq_some looked
        obtain rfl := row_unmoved (by rw [called]; rfl) sound member present (same.trans id.symm)
        exact found called looked unnamed
      | started id input called opens new =>
        rw [(sound_after choice sound standing).same_row (opened_present opens) member (same.trans new.symm)]
        simp [Owed, PaymentIntents.newRow]
    · rintro other (live | taken)
      · exact Option.some.inj (live.symm.trans pays.paying)
      · cases pays.taken.symm.trans taken
  | holds tender holds taken _ =>
    apply alive tender _ holds.owed
    · intro after member same unnamed
      cases taken with
      | kept cart called before =>
        obtain ⟨row, old, id, _⟩ := standing.taken tender before.taken
        obtain rfl := row_unmoved (by rw [called]; rfl) sound member old (same.trans id.symm)
        exact tends.live tender (.inr before.taken) after old id unnamed
      | captured paymentId cents called pays =>
        obtain ⟨row, old, id, _⟩ := standing.paying tender pays.paying
        obtain rfl := row_from sound member old (same.trans id.symm)
        exact unowed_captured sound tends pays old id called (unnamed_before sound standing old unnamed)
      | resumed key provider tenderId row called looked known tells =>
        subst tells
        have present : row ∈ world.db.paymentIntents := List.mem_of_find?_eq_some looked
        obtain rfl := row_unmoved (by rw [called]; rfl) sound member present same
        exact found called looked unnamed
    · rintro other (paying | live)
      · cases holds.paying.symm.trans paying
      · exact Option.some.inj (live.symm.trans holds.taken)
  | sweeps swept =>
    refine ⟨?_, ?_, ?_⟩
    · rintro tender (paying | taken)
      · cases swept.paying.symm.trans paying
      · cases swept.taken.symm.trans taken
    · intro old member unnamed after present same
      rcases swept.owed old member with kept | ⟨listed, state⟩
      · obtain ⟨row, there, continues⟩ := standing.owed old kept
        have id := identity_id continues.1
        obtain rfl := row_from sound present there (same.trans id.symm)
        obtain ⟨owed, none⟩ := tends.owed old kept unnamed row there id
        exact owed_unnamed_after standing tends there owed none
      · obtain rfl := row_from sound present listed same
        exact owed_unnamed_after standing tends listed (.inl state) unnamed
    · intro voided old rest first
      obtain ⟨before, provider, wanted, called, confirmed⟩ := swept.voided voided
      have proper := standing.proper
      obtain ⟨frame, call⟩ := request
      cases called
      obtain ⟨intent, owes, own, known⟩ := proper
      obtain ⟨others, listed⟩ := owes.owed
      obtain ⟨rfl, _⟩ := List.cons.inj (listed.symm.trans (before.symm.trans first))
      have stored := standing.owed intent (by rw [listed]; exact List.mem_cons_self)
      obtain ⟨row, present, same, more⟩ := stored
      have issued := (issued_of_identity same).mp (sound.issued row present _ (more _ known))
      subst own
      exact ⟨by rw [known]; exact Option.some_ne_none _, RemotePayments.void_ok confirmed issued⟩

end Step

theorem reversals_tracked (app : AppState) {outstanding : Funds → Prop} (counts : Outstanding outstanding) :
    Invariant (hub app) conduct (namesOwed outstanding) Opens fun world pending =>
      Base world pending ∧ Closed outstanding world ∧ ∀ request ∈ pending, Tends world request := by
  apply ((ledger_sound app).under (fun _ _ _ _ _ => trivial) fun _ _ _ _ => trivial).extend
  refine { started := ?_, kept := ?_, continued := ?_ }
  · intro world others task request opens base _
    obtain ⟨_, _, idle, _⟩ := opens
    refine ⟨?_, ?_, ?_⟩
    · rintro tender (paying | taken)
      · cases idle.paying.symm.trans paying
      · cases idle.taken.symm.trans taken
    · intro old member
      rw [idle.owed] at member
      cases member
    · intro voided
      cases idle.voided.symm.trans voided
  · intro choice world others request names base closed tends
    obtain ⟨distinct, sound, standing⟩ := base
    have own := standing request (Multiset.mem_cons_self _ _)
    have ownTends := tends request (Multiset.mem_cons_self _ _)
    refine ⟨closed_after counts sound own ownTends names closed, ?_⟩
    intro other member
    have waits : other ∈ request ::ₘ (others : Multiset Request) :=
      Multiset.mem_cons_of_mem (Multiset.mem_coe.mpr member)
    exact tends_other distinct (Multiset.mem_coe.mpr member) sound own (standing other waits) ownTends
      (tends other waits)
  · intro choice world others request next names base _ tends follows _ _
    obtain ⟨distinct, sound, standing⟩ := base
    exact tends_next sound (standing request (Multiset.mem_cons_self _ _))
      (tends request (Multiset.mem_cons_self _ _)) names follows

/-- An intent is reversed only when every payment created for it was voided, and the void confirmed. -/
def ReversalsConfirmed (world : HubWorld) : Prop :=
  ∀ row ∈ world.db.paymentIntents, row.state = .reversed → ¬HasFunds (· ≠ .voided) world row

instance (world : HubWorld) : Decidable (ReversalsConfirmed world) :=
  inferInstanceAs (Decidable (∀ row ∈ world.db.paymentIntents, _))

def namesPayments : Condition Request HubWorld (Choice ProviderAnswer) := namesOwed (· ≠ .voided)

instance (world : HubWorld) (others : List Request) (request : Request) (choice : Choice ProviderAnswer) :
    Decidable (namesPayments.step world others request choice) := inferInstanceAs (Decidable (NamesOwed ..))

instance (world : HubWorld) (others : List Request) (request : Request) :
    Decidable (namesPayments.drop world others request) := inferInstanceAs (Decidable True)

theorem unvoided_outstanding : Outstanding (· ≠ .voided) := ⟨fun unvoided => unvoided rfl, fun _ => by decide⟩

theorem closed_opening {outstanding : Funds → Prop} {world : HubWorld} (empty : world.db.paymentIntents = []) :
    Closed outstanding world := by
  constructor
  all_goals
    intro row member
    rw [empty] at member
    cases member

/-- In every run in which no intent is put down as owed back without the id of its
payment, the sweep reverses only what the provider has confirmed. -/
theorem reversals_are_confirmed (app : AppState) {world : HubWorld} (empty : world.db.paymentIntents = [])
    {events : List (Event (Choice ProviderAnswer) Hub.Task)}
    (names : namesPayments.RunMeets (hub app) (Pool.quiet world) events) :
    ReversalsConfirmed ((hub app).run (Pool.quiet world) events).world := by
  obtain ⟨_, closed, _⟩ := (reversals_tracked app unvoided_outstanding).reached
    ⟨base_opening empty, closed_opening empty, by simp⟩ names
  intro row member reversed
  cases known : row.providerPaymentId with
  | none => exact closed.unnamed row member (.inr reversed) known
  | some paymentId =>
    apply not_outstanding_of_voided unvoided_outstanding
    exact closed.named row member reversed (by rw [known]; exact Option.some_ne_none _)

/-- A captured payment that no sale claims: the sweep flags it, voids it and closes it. -/
theorem stale_capture_is_confirmed :
    ReversalsConfirmed ((hub shop).run (Pool.quiet opening)
      (pay 100 :: steps 10 5 1000 ++ .drop 0 :: sweep :: steps 5 2000 2000)).world :=
  reversals_are_confirmed shop rfl (by decide +kernel)

/-- The answer to an authorization is lost with the id of the payment it created;
the sweep closes the intent, and the money stays with the provider. -/
theorem lost_payment_is_closed :
    ¬ReversalsConfirmed ((hub shop).run (Pool.quiet opening)
      (pay 100 :: steps 6 5 1000 ++
        .step 0 (choice 6 1010 { approves with failure := some (.transport "connection reset") }) ::
        steps 1 7 1020 ++ sweep :: steps 4 2000 2000)).world := by
  decide +kernel

end ApexEdge.Proofs.Reversals
