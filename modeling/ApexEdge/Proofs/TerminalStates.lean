import ApexEdge.Proofs.Attempts

/-! Settled and reversed as the last states of an intent. The statements that move
an intent by its id do not look at its state, so it is left to their callers. -/

namespace ApexEdge.Proofs.TerminalStates
open Library Payment Domain Storage Contracts Hub
open Conduct StepEffects Ledger Attempts

def Final (row : PaymentIntentRow) : Prop := row.state = .settled ∨ row.state = .reversed

instance (row : PaymentIntentRow) : Decidable (Final row) := inferInstanceAs (Decidable (_ ∨ _))

/-- No final intent changes its state. -/
def FinalStays (before after : HubWorld) : Prop :=
  ∀ row ∈ before.db.paymentIntents, Final row →
    ∃ later ∈ after.db.paymentIntents, later.id = row.id ∧ later.state = row.state

instance (before after : HubWorld) : Decidable (FinalStays before after) :=
  inferInstanceAs (Decidable (∀ row ∈ before.db.paymentIntents, _))

/-- No authorization is asked for with the key of an intent that is owed back. -/
def AuthorizesUnowed (world : HubWorld) (request : Request) : Prop :=
  match request.call with
  | .authorize provider wanted =>
    ∀ row ∈ world.db.paymentIntents, row.provider = provider → authorizeKey row = wanted.idempotencyKey → ¬Owed row
  | _ => True

instance (world : HubWorld) (request : Request) : Decidable (AuthorizesUnowed world request) := by
  induction request using Request.casesOn with
  | mk frame call => induction call using Call.casesOn <;> dsimp only [AuthorizesUnowed] <;> infer_instance

/-- What a step must not do: flag a final intent, settle one that a command is paying
for, take up one that is owed back. -/
def Spares (world : HubWorld) (others : List Request) (request : Request) (choice : Choice ProviderAnswer) : Prop :=
  match request.call with
  | .findPaymentIntent .. => RevivesNothing world request
  | .flagPaymentIntentForReversal .. =>
    ∀ row ∈ world.db.paymentIntents, Selects choice request.call row → ¬Final row
  | .settlePaymentIntentsForCart .. =>
    ∀ row ∈ world.db.paymentIntents, Selects choice request.call row →
      ∀ other ∈ others, ∀ tender ∈ other.frame.paying, tender.intent ≠ row.id
  | _ => True

instance (world : HubWorld) (others : List Request) (request : Request) (choice : Choice ProviderAnswer) :
    Decidable (Spares world others request choice) := by
  induction request using Request.casesOn with
  | mk frame call => induction call using Call.casesOn <;> dsimp only [Spares, RevivesNothing] <;> infer_instance

def sparesFinal : Condition Request HubWorld (Choice ProviderAnswer) := { step := Spares, drop := fun _ _ _ => True }

instance (world : HubWorld) (others : List Request) (request : Request) (choice : Choice ProviderAnswer) :
    Decidable (sparesFinal.step world others request choice) := inferInstanceAs (Decidable (Spares ..))

instance (world : HubWorld) (others : List Request) (request : Request) :
    Decidable (sparesFinal.drop world others request) := inferInstanceAs (Decidable True)

/-- The intent that the request pays for is not settled. -/
def PaysUnsettled (world : HubWorld) (request : Request) : Prop :=
  ∀ tender, request.frame.paying = some tender →
    ∀ row ∈ world.db.paymentIntents, row.id = tender.intent → row.state ≠ .settled

section Step
variable {choice : Choice ProviderAnswer} {world : HubWorld} {request : Request} {others : List Request}

/-- Only settling makes an intent settled. -/
theorem settled_by {row : PaymentIntentRow} (state : (rowAfter choice request.call row).state = .settled) :
    row.state = .settled ∨ Selects choice request.call row ∧
      request.call = .settlePaymentIntentsForCart row.storeId row.cartId
        ((rowAfter choice request.call row).orderId.getD .nil) := by
  rcases rowAfter_cases choice request.call row with same | ⟨selected, change⟩
  · exact .inl (same ▸ state)
  · cases change with
    | retried kept _ _ => exact .inl (kept.symm.trans state)
    | settled orderId called _ _ _ same => exact .inr ⟨selected, by rw [same]; exact called⟩
    | captured _ _ _ became _ _ => cases became.symm.trans state
    | closed _ became _ _ => rcases became with became | became <;> cases became.symm.trans state
    | flagged _ _ _ became _ _ => cases became.symm.trans state
    | abandoned _ _ became _ _ => cases became.symm.trans state
    | reversed _ became _ _ => cases became.symm.trans state

theorem unsettled_other {other : Request} (member : other ∈ others) (sound : Sound world)
    (standing : Standing world other) (spares : Spares world others request choice)
    (unsettled : PaysUnsettled world other) : PaysUnsettled (perform contractual choice world request).2 other := by
  intro tender paying after present same state
  obtain ⟨row, old, id, _⟩ := standing.paying tender paying
  obtain rfl := row_from sound present old (same.trans id.symm)
  rcases settled_by state with before | ⟨selected, called⟩
  · exact unsettled tender paying row old id before
  · unfold Spares at spares
    rw [called] at spares selected
    exact spares row old selected other member tender paying id.symm

theorem unsettled_next {next : Request} (sound : Sound world) (standing : Standing world request)
    (unsettled : PaysUnsettled world request)
    (follows : conduct.follows request (perform contractual choice world request).1 next) :
    PaysUnsettled (perform contractual choice world request).2 next := by
  intro tender paying after present same state
  cases succeeds standing.proper follows with
  | idle idle _ => cases idle.paying.symm.trans paying
  | holds _ holds _ _ => cases holds.paying.symm.trans paying
  | sweeps swept => cases swept.paying.symm.trans paying
  | pays _ pays _ begun =>
    cases Option.some.inj (pays.paying.symm.trans paying)
    cases begun with
    | asking before waits intent asks =>
      have quiet : statement request.call = none := by
        rcases asks with ⟨_, _, called⟩ | ⟨_, _, called⟩ <;> rw [called] <;> rfl
      obtain ⟨row, old, id, _⟩ := standing.paying before waits.paying
      obtain rfl := row_from sound present old (same.trans (intent.symm.trans id.symm))
      rw [rowAfter_unchanged quiet] at state
      exact unsettled before waits.paying row old id state
    | resumed key provider tenderId row called found id _ unsettled =>
      have old : row ∈ world.db.paymentIntents := List.mem_of_find?_eq_some found
      obtain rfl := row_from sound present old (same.trans id.symm)
      rw [rowAfter_unchanged (by rw [called]; rfl)] at state
      exact unsettled state
    | started id input called opens new =>
      obtain rfl := (sound_after choice sound standing).same_row (opened_present opens) present (same.trans new.symm)
      cases state

theorem final_after (standing : Standing world request) (works : Works world request)
    (unsettled : PaysUnsettled world request) (spares : Spares world others request choice) :
    FinalStays world (perform contractual choice world request).2 := by
  intro row member final
  refine ⟨_, mem_perform_intents.mpr (.inl ⟨row, member, rfl⟩),
    identity_id (rowAfter_identity choice request.call row), ?_⟩
  have notPaid {tender : IntentTender} (pays : Pays request.frame tender) (same : tender.intent = row.id) : False := by
    have underway := works.paying tender pays.paying row member same.symm
    rcases final with state | state
    · exact unsettled tender pays.paying row member same.symm state
    · exact underway.2.1 (.inr state)
  rcases rowAfter_cases choice request.call row with same | ⟨selected, change⟩
  · rw [same]
  · cases change with
    | retried kept _ _ => exact kept
    | captured _ _ called _ _ _ =>
      obtain ⟨tender, pays, same, _⟩ := captures_paying standing.proper called
      exact (notPaid pays same).elim
    | closed called _ _ _ =>
      obtain ⟨tender, pays, same⟩ := closes_paying standing.proper called
      exact (notPaid pays same).elim
    | settled _ _ open' _ _ _ => rcases final with state | state <;> simp [state] at open'
    | flagged _ _ called _ _ _ =>
      unfold Spares at spares
      rw [called] at spares selected
      exact absurd final (spares row member selected)
    | abandoned _ taken _ _ _ => rcases final with state | state <;> cases state.symm.trans taken
    | reversed called became _ _ =>
      obtain ⟨intent, owes, same, _⟩ := reverses_owed standing.proper called
      obtain ⟨rest, first⟩ := owes.owed
      have owed := works.owed intent (first ▸ List.mem_cons_self) row member same.symm
      rcases final with state | state
      · rcases owed with owed | owed <;> cases state.symm.trans owed
      · exact became.trans state.symm

theorem authorizes_unowed (sound : Sound world) (standing : Standing world request) (works : Works world request) :
    AuthorizesUnowed world request := by
  unfold AuthorizesUnowed
  split
  next provider wanted called =>
    intro row member own key
    obtain ⟨tender, pays, same⟩ := authorizes_paying sound standing member called own key
    exact (works.paying tender pays.paying row member same.symm).2.1
  next => trivial

end Step

theorem unsettled_payers (app : AppState) :
    Invariant (hub app) conduct sparesFinal Opens fun world pending =>
      (Base world pending ∧ Untold world ∧ ∀ request ∈ pending, Works world request) ∧
        True ∧ ∀ request ∈ pending, PaysUnsettled world request := by
  have fresh (world : HubWorld) (others : List Request) (request : Request) (choice : Choice ProviderAnswer)
      (spares : sparesFinal.step world others request choice) :
      revivesNothing.step world others request choice := by
    have spares' : Spares world others request choice := spares
    show Finds _ world request
    unfold Finds
    split
    next called =>
      unfold Spares at spares'
      rw [called] at spares'
      exact fun row found => Finds.found spares' called found
    next => trivial
  apply ((attempts_apart app).under fresh fun _ _ _ _ => trivial).extend
  refine { started := ?_, kept := ?_, continued := ?_ }
  · intro world others task request opens _ _ tender paying
    cases opens.2.2.1.paying.symm.trans paying
  · intro choice world others request spares base _ unsettled
    obtain ⟨⟨_, sound, standing⟩, _, _⟩ := base
    refine ⟨trivial, ?_⟩
    intro other member
    have waits : other ∈ request ::ₘ (others : Multiset Request) :=
      Multiset.mem_cons_of_mem (Multiset.mem_coe.mpr member)
    exact unsettled_other member sound (standing other waits) spares (unsettled other waits)
  · intro choice world others request next _ base _ unsettled follows _ _
    obtain ⟨⟨_, sound, standing⟩, _, _⟩ := base
    exact unsettled_next sound (standing request (Multiset.mem_cons_self _ _))
      (unsettled request (Multiset.mem_cons_self _ _)) follows

private theorem untold_opening {world : HubWorld} (empty : world.db.paymentIntents = []) : Untold world := by
  intro row member
  rw [empty] at member
  cases member

/-- In every run whose steps spare the final intents, no step moves one, and no
authorization is pending for an intent that is owed back. -/
theorem final_states_are_last (app : AppState) {world : HubWorld} (empty : world.db.paymentIntents = [])
    {events : List (Event (Choice ProviderAnswer) Hub.Task)} {event : Event (Choice ProviderAnswer) Hub.Task}
    (spares : sparesFinal.RunMeets (hub app) (Pool.quiet world) (events ++ [event])) :
    FinalStays ((hub app).run (Pool.quiet world) events).world
        ((hub app).run (Pool.quiet world) (events ++ [event])).world ∧
      ∀ request ∈ ((hub app).run (Pool.quiet world) events).pending,
        AuthorizesUnowed ((hub app).run (Pool.quiet world) events).world request := by
  have begins := untold_opening empty
  constructor
  · apply (unsettled_payers app).every_step _ _ ⟨⟨base_opening empty, begins, by simp⟩, trivial, by simp⟩ spares
    · intro world row member _
      exact ⟨row, member, rfl, rfl⟩
    · intro choice world others request spares held
      obtain ⟨⟨⟨_, _, standing⟩, _, works⟩, _, unsettled⟩ := held
      exact final_after (standing request (Multiset.mem_cons_self _ _)) (works request (Multiset.mem_cons_self _ _))
        (unsettled request (Multiset.mem_cons_self _ _)) spares
  · intro request member
    obtain ⟨⟨⟨_, sound, standing⟩, _, works⟩, _, _⟩ := (unsettled_payers app).reached
      ⟨⟨base_opening empty, begins, by simp⟩, trivial, by simp⟩ (Condition.runMeets_append spares).1
    exact authorizes_unowed sound (standing request (Multiset.mem_coe.mpr member))
      (works request (Multiset.mem_coe.mpr member))

/-- A sale that is settled, and the order's document after it. -/
theorem settled_sale_stays :
    FinalStays ((hub shop).run (Pool.quiet opening) (pay 100 :: steps 11 5 1000 ++ finalize 101 :: steps 8 10 2000)).world
        ((hub shop).run (Pool.quiet opening)
          ((pay 100 :: steps 11 5 1000 ++ finalize 101 :: steps 8 10 2000) ++ [.step 0 (choice 20 2100 approves)])).world ∧
      ∀ request ∈ ((hub shop).run (Pool.quiet opening)
          (pay 100 :: steps 11 5 1000 ++ finalize 101 :: steps 8 10 2000)).pending,
        AuthorizesUnowed ((hub shop).run (Pool.quiet opening)
          (pay 100 :: steps 11 5 1000 ++ finalize 101 :: steps 8 10 2000)).world request :=
  final_states_are_last shop rfl (by decide +kernel)

/-- The hub stops before the answer to a payment is stored; the order is finalized;
then the payment is asked for again. -/
def replayAfterSale : List (Event (Choice ProviderAnswer) Hub.Task) :=
  pay 100 :: steps 10 5 1000 ++ .drop 0 :: finalize 101 :: steps 16 10 2000 ++ pay 100 :: steps 4 20 3000

/-- The answer to an authorization is lost, the intent is flagged, the command is retried. -/
def replayAfterLoss : List (Event (Choice ProviderAnswer) Hub.Task) :=
  pay 100 :: steps 6 5 1000 ++
    .step 0 (choice 6 1010 { approves with failure := some (.transport "connection reset") }) ::
    steps 1 7 1020 ++ pay 100 :: steps 4 20 3000

/-- The replay flags the settled intent; another is authorized anew while it is owed back. -/
theorem replays_break_final_states :
    ¬FinalStays ((hub shop).run (Pool.quiet opening) replayAfterSale).world
        ((hub shop).run (Pool.quiet opening) (replayAfterSale ++ [.step 0 (choice 30 3010 approves)])).world ∧
      ¬∀ request ∈ ((hub shop).run (Pool.quiet opening) replayAfterLoss).pending,
        AuthorizesUnowed ((hub shop).run (Pool.quiet opening) replayAfterLoss).world request := by
  decide +kernel

end ApexEdge.Proofs.TerminalStates
