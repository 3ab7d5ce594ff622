import ApexEdge.Proofs.Conformance
import ApexEdge.Proofs.Contract

/-! What holds of the payment intent ledger in every run, whatever fails and in
whatever order: intents are told apart, their payment ids are the provider's own,
and a command only ever works on intents of its own key. -/

namespace ApexEdge.Proofs.Ledger
open Library Payment Domain Storage Contracts Hub
open Conduct StepEffects

abbrev HubWorld := World RemotePayments

abbrev hub (app : AppState) : System RemotePayments ProviderAnswer := system app contractual

/-- One executor per idempotency key. -/
def Distinct (pending : Multiset Request) : Prop :=
  ∀ key, pending.countP (fun request => request.frame.key = some key) ≤ 1

theorem Distinct.apart {request other : Request} {others : Multiset Request} {key : Uuid}
    (distinct : Distinct (request ::ₘ others)) (own : request.frame.key = some key) (member : other ∈ others) :
    other.frame.key ≠ some key := by
  intro same
  have counted := distinct key
  rw [Multiset.countP_cons, if_pos own] at counted
  have found : 0 < others.countP fun request => request.frame.key = some key :=
    Multiset.countP_pos.mpr ⟨other, member, same⟩
  omega

theorem distinct_keys (app : AppState) :
    Invariant (hub app) conduct Condition.always Opens fun _ pending => Distinct pending where
  keeps := Conformance.conforms app
  started world others task request admitted opens distinct := by
    intro wanted
    by_cases own : request.frame.key = some wanted
    · rw [Multiset.countP_cons, if_pos own]
      have free : (others : Multiset Request).countP (fun request => request.frame.key = some wanted) = 0 := by
        rw [Multiset.countP_eq_zero]
        intro other member same
        cases task with
        | sweep policy => cases own.symm.trans opens.2.1
        | command boundRegister envelope =>
          have apart := List.all_eq_true.mp admitted other (Multiset.mem_coe.mp member)
          rw [same, ← own, opens.2.1] at apart
          simp [key] at apart
      omega
    · rw [Multiset.countP_cons, if_neg own, Nat.add_zero]
      exact distinct wanted
  continued choice world others request next _ distinct follows := by
    intro wanted
    have counted := distinct wanted
    rw [Multiset.countP_cons] at counted ⊢
    rwa [follows.2.1]
  finished choice world others request _ distinct _ := by
    intro wanted
    exact (Multiset.countP_le_of_le _ (Multiset.le_cons_self _ _)).trans (distinct wanted)
  dropped world others request _ distinct := by
    intro wanted
    exact (Multiset.countP_le_of_le _ (Multiset.le_cons_self _ _)).trans (distinct wanted)

/-- The key of the authorizations that an intent stands for. -/
def authorizeKey (row : PaymentIntentRow) : Uuid :=
  providerIdempotencyKey row.idempotencyKey row.tenderId "authorize"

def attempt (row : PaymentIntentRow) : Uuid × String × Uuid := (row.idempotencyKey, row.provider, row.tenderId)

def Issued (remote : RemotePayments) (row : PaymentIntentRow) (paymentId : String) : Prop :=
  remote.Issued row.provider (authorizeKey row) paymentId

instance (remote : RemotePayments) (row : PaymentIntentRow) (paymentId : String) :
    Decidable (Issued remote row paymentId) := inferInstanceAs (Decidable (remote.Issued ..))

structure Sound (world : HubWorld) : Prop where
  ids : (world.db.paymentIntents.map PaymentIntentRow.id).Nodup
  attempts : (world.db.paymentIntents.map attempt).Nodup
  processed : ∀ row ∈ world.db.paymentIntents, row.provider ≠ manualProvider
  issued : ∀ row ∈ world.db.paymentIntents, ∀ paymentId, row.providerPaymentId = some paymentId →
    Issued world.remote row paymentId
  captured : ∀ row ∈ world.db.paymentIntents, row.state = .captured → row.providerPaymentId ≠ none

/-- The same intent, which knows at least as much of its payment. -/
def Continues (row after : PaymentIntentRow) : Prop :=
  identity after = identity row ∧
    ∀ paymentId, row.providerPaymentId = some paymentId → after.providerPaymentId = some paymentId

/-- The tender is that of an intent which the key has opened. -/
def Stands (world : HubWorld) (key : Option Uuid) (tender : IntentTender) : Prop :=
  ∃ row ∈ world.db.paymentIntents, row.id = tender.intent ∧ key = some row.idempotencyKey ∧
    row.provider = tender.provider ∧ row.tenderId = tender.tenderId ∧
    ∀ paymentId, tender.paymentId = some paymentId → Issued world.remote row paymentId

structure Standing (world : HubWorld) (request : Request) : Prop where
  proper : Proper request
  paying : ∀ tender, request.frame.paying = some tender → Stands world request.frame.key tender
  taken : ∀ tender, request.frame.taken = some tender → Stands world request.frame.key tender
  flagged : ∀ id paymentId reason, request.call = .flagPaymentIntentForReversal id (some paymentId) reason →
    ∃ row ∈ world.db.paymentIntents, row.id = id ∧ Issued world.remote row paymentId
  owed : ∀ old ∈ request.frame.owed, ∃ row ∈ world.db.paymentIntents, Continues old row

section Identity
variable {row after : PaymentIntentRow}

theorem identity_id (same : identity after = identity row) : after.id = row.id := congrArg Prod.fst same

theorem identity_attempt (same : identity after = identity row) : attempt after = attempt row := by
  simp only [identity, Prod.mk.injEq] at same
  simp only [attempt, same]

theorem identity_provider (same : identity after = identity row) : after.provider = row.provider := by
  simp only [identity, Prod.mk.injEq] at same
  exact same.2.2.2.2.2

theorem issued_of_identity {remote : RemotePayments} {paymentId : String} (same : identity after = identity row) :
    Issued remote after paymentId ↔ Issued remote row paymentId := by
  simp only [identity, Prod.mk.injEq] at same
  simp only [Issued, authorizeKey, same]

theorem Continues.trans {last : PaymentIntentRow} (first : Continues row after) (second : Continues after last) :
    Continues row last :=
  ⟨second.1.trans first.1, fun paymentId known => second.2 paymentId (first.2 paymentId known)⟩

theorem Sound.same_row {world : HubWorld} (sound : Sound world) (one : row ∈ world.db.paymentIntents)
    (other : after ∈ world.db.paymentIntents) (same : after.id = row.id) : after = row :=
  List.inj_on_of_nodup_map sound.ids other one same

/-- No two intents have one payment. -/
theorem Sound.same_payment {world : HubWorld} (sound : Sound world) (one : row ∈ world.db.paymentIntents)
    (other : after ∈ world.db.paymentIntents) (provider : after.provider = row.provider) {paymentId : String}
    (first : Issued world.remote row paymentId) (second : Issued world.remote after paymentId) : after = row := by
  unfold Issued at second
  rw [provider] at second
  have keys := second.same_key first
  unfold authorizeKey providerIdempotencyKey at keys
  injection keys with key tenderId
  apply List.inj_on_of_nodup_map sound.attempts other one
  rw [attempt, attempt, key, tenderId, provider]

end Identity

/-- Nothing on the ledger or at a provider is forgotten. -/
structure Grows (before after : HubWorld) : Prop where
  rows : ∀ row ∈ before.db.paymentIntents, ∃ later ∈ after.db.paymentIntents, Continues row later
  remote : before.remote.Grows after.remote

theorem Stands.grow {before after : HubWorld} {key : Option Uuid} {tender : IntentTender}
    (stands : Stands before key tender) (grows : Grows before after) : Stands after key tender := by
  obtain ⟨row, member, id, own, provider, tenderId, issued⟩ := stands
  obtain ⟨later, present, same, _⟩ := grows.rows row member
  have names := same
  simp only [identity, Prod.mk.injEq] at names
  obtain ⟨sameId, _, _, sameTender, sameKey, sameProvider⟩ := names
  refine ⟨later, present, sameId.trans id, sameKey ▸ own, sameProvider.trans provider,
    sameTender.trans tenderId, ?_⟩
  intro paymentId known
  exact (issued_of_identity same).mpr (grows.remote _ _ _ (issued paymentId known))

theorem Standing.grow {before after : HubWorld} {request : Request} (standing : Standing before request)
    (grows : Grows before after) : Standing after request where
  proper := standing.proper
  paying tender paying := (standing.paying tender paying).grow grows
  taken tender taken := (standing.taken tender taken).grow grows
  flagged id paymentId reason called := by
    obtain ⟨row, member, same, issued⟩ := standing.flagged id paymentId reason called
    obtain ⟨later, present, continues, _⟩ := grows.rows row member
    exact ⟨later, present, (identity_id continues).trans same,
      (issued_of_identity continues).mpr (grows.remote _ _ _ issued)⟩
  owed old member := by
    obtain ⟨row, present, continues⟩ := standing.owed old member
    obtain ⟨later, kept, further⟩ := grows.rows row present
    exact ⟨later, kept, continues.trans further⟩

section Step
variable {app : AppState} {choice : Choice ProviderAnswer} {world : HubWorld} {request : Request}

theorem perform_remote_grows :
    world.remote.Grows (perform contractual choice world request).2.remote := by
  rw [perform_remote]
  split
  next provider wanted _ =>
    exact RemotePayments.authorize_after choice.answer world.remote provider wanted ▸
      RemotePayments.attempt_grows _ _ _ _
  next provider wanted _ =>
    exact (RemotePayments.capture_after choice.answer world.remote provider wanted).symm ▸ fun _ _ _ issued => issued
  next provider wanted _ => exact RemotePayments.void_grows _ _ _ _
  next provider wanted _ =>
    exact (RemotePayments.refund_after choice.answer world.remote provider wanted).symm ▸ fun _ _ _ issued => issued
  next => exact fun _ _ _ issued => issued

/-- What a request writes into an intent as its payment id is the provider's own. -/
theorem issued_after (sound : Sound world) (standing : Standing world request) {row : PaymentIntentRow}
    (member : row ∈ world.db.paymentIntents) {paymentId : String}
    (known : (rowAfter choice request.call row).providerPaymentId = some paymentId) :
    Issued world.remote row paymentId := by
  rcases rowAfter_cases choice request.call row with same | ⟨_, change⟩
  · exact sound.issued row member paymentId (same ▸ known)
  · have kept (same : (rowAfter choice request.call row).providerPaymentId = row.providerPaymentId) :
        Issued world.remote row paymentId := sound.issued row member paymentId (same.symm.trans known)
    cases change with
    | retried _ same _ => exact kept same
    | closed _ _ same _ => exact kept same
    | settled _ _ _ _ same _ => exact kept same
    | abandoned _ _ _ same _ => exact kept same
    | reversed _ _ same _ => exact kept same
    | captured told cents called _ same _ =>
      have proper := standing.proper
      obtain ⟨frame, call⟩ := request
      cases called
      obtain ⟨tender, pays, intent, tells⟩ := proper
      obtain ⟨other, present, id, _, _, _, issued⟩ := standing.paying tender pays.paying
      obtain rfl := sound.same_row present member (id.trans intent).symm
      cases Option.some.inj (same.symm.trans known)
      exact issued _ tells
    | flagged told reason called _ same _ =>
      rw [known] at same
      cases told with
      | none => exact sound.issued row member paymentId same.symm
      | some told =>
        cases Option.some.inj same
        obtain ⟨other, present, id, issued⟩ := standing.flagged _ _ _ called
        obtain rfl := sound.same_row present member id.symm
        exact issued

theorem continues_after (choice : Choice ProviderAnswer) (sound : Sound world) (standing : Standing world request) {row : PaymentIntentRow}
    (member : row ∈ world.db.paymentIntents) : Continues row (rowAfter choice request.call row) := by
  refine ⟨rowAfter_identity choice request.call row, ?_⟩
  intro paymentId known
  have old := sound.issued row member paymentId known
  cases later : (rowAfter choice request.call row).providerPaymentId with
  | some told => rw [(issued_after sound standing member later).same_id old]
  | none =>
    rcases rowAfter_cases choice request.call row with same | ⟨_, change⟩
    · rw [same, known] at later
      cases later
    · cases change with
      | flagged told reason _ _ same _ =>
        rw [same, known] at later
        cases told <;> cases later
      | _ => simp_all

theorem grows_after (choice : Choice ProviderAnswer) (sound : Sound world) (standing : Standing world request) :
    Grows world (perform contractual choice world request).2 where
  rows row member := ⟨_, mem_perform_intents.mpr (.inl ⟨row, member, rfl⟩), continues_after choice sound standing member⟩
  remote := perform_remote_grows

theorem opened_new {fresh : PaymentIntentRow} (opens : opened choice world request.call = some fresh) :
    ∃ id input, request.call = .insertPaymentIntent id input ∧
      fresh = PaymentIntents.newRow id input choice.now ∧
      ∀ row ∈ world.db.paymentIntents, row.id ≠ fresh.id ∧ attempt row ≠ attempt fresh := by
  obtain ⟨id, input, called, rfl, free⟩ := opened_cases opens
  refine ⟨id, input, called, rfl, ?_⟩
  intro row member
  have apart := List.any_eq_false.mp free row member
  simp only [decide_eq_true_eq, not_or] at apart
  refine ⟨apart.1, ?_⟩
  intro same
  simp only [attempt, Prod.mk.injEq] at same
  exact apart.2 same

theorem opened_present {fresh : PaymentIntentRow} (opens : opened choice world request.call = some fresh) :
    fresh ∈ (perform contractual choice world request).2.db.paymentIntents := mem_perform_intents.mpr (.inr opens)

theorem sound_after (choice : Choice ProviderAnswer) (sound : Sound world) (standing : Standing world request) :
    Sound (perform contractual choice world request).2 where
  ids := by
    apply nodup_after _ (fun row => identity_id (rowAfter_identity choice request.call row)) sound.ids
    intro row member new opens
    obtain ⟨_, _, _, _, apart⟩ := opened_new opens
    exact (apart row member).1
  attempts := by
    apply nodup_after _ (fun row => identity_attempt (rowAfter_identity choice request.call row)) sound.attempts
    intro row member new opens
    obtain ⟨_, _, _, _, apart⟩ := opened_new opens
    exact (apart row member).2
  processed := by
    intro after member
    rcases mem_perform_intents.mp member with ⟨row, present, rfl⟩ | opens
    · rw [identity_provider (rowAfter_identity choice request.call row)]
      exact sound.processed row present
    · obtain ⟨id, input, called, rfl, _⟩ := opened_new opens
      have proper := standing.proper
      obtain ⟨frame, call⟩ := request
      cases called
      exact proper.2.2
  issued := by
    intro after member paymentId known
    rcases mem_perform_intents.mp member with ⟨row, present, rfl⟩ | opens
    · rw [issued_of_identity (rowAfter_identity choice request.call row)]
      exact perform_remote_grows _ _ _ (issued_after sound standing present known)
    · obtain ⟨id, input, _, rfl, _⟩ := opened_new opens
      cases known
  captured := by
    intro after member taken
    rcases mem_perform_intents.mp member with ⟨row, present, rfl⟩ | opens
    · rcases rowAfter_cases choice request.call row with same | ⟨_, change⟩
      · rw [same] at taken ⊢
        exact sound.captured row present taken
      · cases change with
        | retried state same _ => exact same ▸ sound.captured row present (state.symm.trans taken)
        | captured _ _ _ _ same _ => simp [same]
        | closed _ state _ _ => rcases state with state | state <;> cases state.symm.trans taken
        | settled _ _ _ state _ _ => cases state.symm.trans taken
        | flagged _ _ _ state _ _ => cases state.symm.trans taken
        | abandoned _ _ state _ _ => cases state.symm.trans taken
        | reversed _ state _ _ => cases state.symm.trans taken
    · obtain ⟨id, input, _, rfl, _⟩ := opened_new opens
      cases taken

end Step

section Shapes
variable {world : HubWorld} {request : Request}

theorem standing_idle (proper : Proper request) (idle : Idle request.frame) : Standing world request where
  proper := proper
  paying tender paying := by cases idle.paying.symm.trans paying
  taken tender taken := by cases idle.taken.symm.trans taken
  flagged id paymentId reason called := by
    obtain ⟨frame, call⟩ := request
    cases called
    obtain ⟨tender, _, _, pays | ⟨holds, _⟩⟩ := proper
    · cases idle.paying.symm.trans pays.paying
    · cases idle.taken.symm.trans holds.taken
  owed old member := by
    rw [idle.owed] at member
    cases member

theorem standing_pays {tender : IntentTender} (proper : Proper request) (pays : Pays request.frame tender)
    (stands : Stands world request.frame.key tender)
    (flagged : ∀ id paymentId reason,
      request.call = .flagPaymentIntentForReversal id (some paymentId) reason →
      ∃ row ∈ world.db.paymentIntents, row.id = id ∧ Issued world.remote row paymentId) :
    Standing world request where
  proper := proper
  paying other paying := by
    cases Option.some.inj (paying.symm.trans pays.paying)
    exact stands
  taken other taken := by cases pays.taken.symm.trans taken
  flagged := flagged
  owed old member := by
    rw [pays.owed] at member
    cases member

theorem standing_holds {tender : IntentTender} (proper : Proper request) (holds : Holds request.frame tender)
    (stands : Stands world request.frame.key tender) : Standing world request where
  proper := proper
  paying other paying := by cases holds.paying.symm.trans paying
  taken other taken := by
    cases Option.some.inj (taken.symm.trans holds.taken)
    exact stands
  flagged id paymentId reason called := by
    obtain ⟨row, member, same, _, _, _, issued⟩ := stands
    obtain ⟨frame, call⟩ := request
    cases called
    obtain ⟨other, intent, _, pays | ⟨also, told⟩⟩ := proper
    · cases holds.paying.symm.trans pays.paying
    · cases Option.some.inj (also.taken.symm.trans holds.taken)
      exact ⟨row, member, same.trans intent, issued _ told.symm⟩
  owed old member := by
    rw [holds.owed] at member
    cases member

theorem standing_sweeps (proper : Proper request) (paying : request.frame.paying = none)
    (taken : request.frame.taken = none)
    (owed : ∀ old ∈ request.frame.owed, ∃ row ∈ world.db.paymentIntents, Continues old row) :
    Standing world request where
  proper := proper
  paying tender pays := by cases paying.symm.trans pays
  taken tender holds := by cases taken.symm.trans holds
  flagged id paymentId reason called := by
    obtain ⟨frame, call⟩ := request
    cases called
    obtain ⟨tender, _, _, pays | ⟨holds, _⟩⟩ := proper
    · cases paying.symm.trans pays.paying
    · cases taken.symm.trans holds.taken
  owed := owed

end Shapes

section Next
variable {choice : Choice ProviderAnswer} {world : HubWorld} {frame : Frame} {next : Request}

/-- Whichever way the intent at hand is taken up, it is one of the command's own. -/
theorem standing_chosen {after : HubWorld} {key tenderId : Uuid} {provider : String} {row stored : PaymentIntentRow}
    (own : frame.key = some key) (member : stored ∈ after.db.paymentIntents) (same : identity row = identity stored)
    (names : attempt row = (key, provider, tenderId)) (proper : Proper next) (keyed : next.frame.key = frame.key)
    (issued : ∀ paymentId, row.providerPaymentId = some paymentId → Issued after.remote row paymentId)
    (chosen : Chosen frame provider tenderId row next) : Standing after next := by
  have columns := same
  simp only [identity, Prod.mk.injEq] at columns
  obtain ⟨sameId, _, _, sameTender, sameKey, sameProvider⟩ := columns
  simp only [attempt, Prod.mk.injEq] at names
  obtain ⟨rowKey, rowProvider, rowTender⟩ := names
  have stands (paymentId : Option String) (provider' : String) (called : provider' = row.provider)
      (issued : ∀ id, paymentId = some id → Issued after.remote row id) :
      Stands after next.frame.key ⟨row.id, provider', tenderId, paymentId⟩ := by
    refine ⟨stored, member, sameId.symm, ?_, ?_, ?_, ?_⟩
    · rw [keyed, own, ← rowKey, sameKey]
    · rw [called, sameProvider]
    · rw [← sameTender, rowTender]
    · intro id known
      exact (issued_of_identity same).mp (issued id known)
  unfold Chosen at chosen
  split at chosen
  · exact standing_holds proper chosen.1 (stands row.providerPaymentId row.provider rfl issued)
  · obtain ⟨pays, _, wanted, called⟩ := chosen
    apply standing_pays proper pays (stands none provider rowProvider.symm fun _ impossible => by cases impossible)
    intro id paymentId reason flagged
    cases called.symm.trans flagged

/-- After a provider's error the intent is flagged under an id that is the provider's own, or failed. -/
theorem standing_givesUp {after : HubWorld} {tender : IntentTender} {known : Option String}
    {error : PaymentProviderError} (proper : Proper next) (stands : Stands after next.frame.key tender)
    (issued : ∀ row ∈ after.db.paymentIntents, row.id = tender.intent → ∀ paymentId, known = some paymentId →
      Issued after.remote row paymentId)
    (givesUp : GivesUp tender known error next) : Standing after next := by
  obtain ⟨pays, call⟩ := givesUp
  apply standing_pays proper pays stands
  intro id paymentId reason flagged
  obtain ⟨row, member, same, _⟩ := stands
  split at call
  · obtain ⟨_, called⟩ := call
    cases called.symm.trans flagged
    exact ⟨row, member, same, issued row member same _ rfl⟩
  · obtain ⟨_, called⟩ := call
    cases called.symm.trans flagged

private theorem next_authorize {provider : String} {wanted : AuthorizeRequest}
    (sound : Sound world) (standing : Standing world ⟨frame, .authorize provider wanted⟩)
    (follows : conduct.follows ⟨frame, .authorize provider wanted⟩
      (perform contractual choice world ⟨frame, .authorize provider wanted⟩).1 next) :
    Standing (perform contractual choice world ⟨frame, .authorize provider wanted⟩).2 next := by
  obtain ⟨proper, keyed, leads⟩ := follows
  obtain ⟨tender, key, pays, _, own, keyed', wantedKey⟩ := standing.proper
  have stands := (standing.paying tender pays.paying).grow (grows_after choice sound standing)
  have issues (row : PaymentIntentRow)
      (member : row ∈ (perform contractual choice world ⟨frame, .authorize provider wanted⟩).2.db.paymentIntents)
      (same : row.id = tender.intent) (paymentId : String)
      (told : (contractual.authorize choice.answer world.remote provider wanted).2.Issued provider
        wanted.idempotencyKey paymentId) :
      Issued (perform contractual choice world ⟨frame, .authorize provider wanted⟩).2.remote row paymentId := by
    obtain ⟨other, present, id, otherKey, otherProvider, otherTender, _⟩ := stands
    obtain rfl := (sound_after choice sound standing).same_row member present (id.trans same.symm)
    cases keyed'.symm.trans otherKey
    unfold Issued authorizeKey
    rwa [otherProvider, otherTender, own, ← wantedKey]
  generalize answered : (perform contractual choice world ⟨frame, .authorize provider wanted⟩).1 = reply at leads
  cases reply with
  | error error =>
    apply standing_givesUp proper (keyed ▸ stands) _ (leads.2 tender pays)
    intro row member same paymentId known
    exact issues row member same paymentId (RemotePayments.authorize_named answered known)
  | ok authorization =>
    have given := leads.2 tender pays
    split at given
    · obtain ⟨nextPays, provider', wanted', called⟩ := given
      apply standing_pays proper nextPays
      · obtain ⟨row, member, same, names⟩ := stands
        refine ⟨row, member, same, keyed ▸ names.1, names.2.1, names.2.2.1, ?_⟩
        intro paymentId told
        cases told
        exact issues row member same _ (RemotePayments.authorize_ok answered).2
      · intro id paymentId reason flagged
        cases called.symm.trans flagged
    · obtain ⟨nextPays, code, called⟩ := given
      apply standing_pays proper nextPays (keyed ▸ stands)
      intro id paymentId reason flagged
      cases called.symm.trans flagged

private theorem next_capture {provider : String} {wanted : CaptureRequest}
    (sound : Sound world) (standing : Standing world ⟨frame, .capture provider wanted⟩)
    (follows : conduct.follows ⟨frame, .capture provider wanted⟩
      (perform contractual choice world ⟨frame, .capture provider wanted⟩).1 next) :
    Standing (perform contractual choice world ⟨frame, .capture provider wanted⟩).2 next := by
  obtain ⟨proper, keyed, leads⟩ := follows
  obtain ⟨tender, pays, told, own⟩ := standing.proper
  have stands := (standing.paying tender pays.paying).grow (grows_after choice sound standing)
  generalize answered : (perform contractual choice world ⟨frame, .capture provider wanted⟩).1 = reply at leads
  cases reply with
  | error error =>
    apply standing_givesUp proper (keyed ▸ stands) _ (leads.2 tender pays)
    intro row member same paymentId known
    obtain ⟨other, present, id, _, _, _, issued⟩ := stands
    obtain rfl := (sound_after choice sound standing).same_row member present (id.trans same.symm)
    exact issued paymentId known
  | ok captured =>
    obtain ⟨nextPays, cents, called⟩ := leads.2 tender pays
    obtain ⟨sameProvider, sameId⟩ := RemotePayments.capture_ok answered
    have unchanged : ({ tender with provider := captured.provider, paymentId := some captured.providerPaymentId } :
        IntentTender) = tender := by rw [sameProvider, sameId, ← own, ← told]
    rw [unchanged] at nextPays
    apply standing_pays proper nextPays (keyed ▸ stands)
    intro id paymentId reason flagged
    cases called.symm.trans flagged

theorem standing_next {request : Request} (sound : Sound world) (standing : Standing world request)
    (follows : conduct.follows request (perform contractual choice world request).1 next) :
    Standing (perform contractual choice world request).2 next := by
  have grows := grows_after choice sound standing
  have soundAfter := sound_after choice sound standing
  obtain ⟨frame, call⟩ := request
  cases call
  case authorize provider wanted => exact next_authorize sound standing follows
  case capture provider wanted => exact next_capture sound standing follows
  case findPaymentIntent key provider tenderId =>
    obtain ⟨proper, keyed, leads⟩ := follows
    generalize answered : (perform contractual choice world
      ⟨frame, .findPaymentIntent key provider tenderId⟩).1 = reply at leads
    rcases reply with error | none | row
    · exact standing_idle proper leads.1
    · exact standing_idle proper leads.1
    · obtain ⟨member, rowKey, rowProvider, rowTender⟩ := found_intent answered
      obtain ⟨later, present, same, more⟩ := grows.rows row member
      apply standing_chosen standing.proper.2.1 present same.symm _ proper keyed _ leads
      · rw [attempt, rowKey, rowProvider, rowTender]
      · intro paymentId known
        exact (issued_of_identity same).mp (soundAfter.issued later present paymentId (more paymentId known))
  case insertPaymentIntent id input =>
    obtain ⟨proper, keyed, leads⟩ := follows
    generalize answered : (perform contractual choice world ⟨frame, .insertPaymentIntent id input⟩).1 = reply
      at leads
    rcases reply with error | row
    · exact standing_idle proper leads.1
    · obtain ⟨opens, rfl⟩ := inserted_intent answered
      have member : PaymentIntents.newRow id input choice.now ∈ (perform contractual choice world
          ⟨frame, .insertPaymentIntent id input⟩).2.db.paymentIntents := opened_present opens
      apply standing_chosen standing.proper.2.1 member rfl rfl proper keyed _ leads
      intro paymentId known
      cases known
  case markPaymentIntentCaptured id paymentId cents =>
    obtain ⟨proper, keyed, leads⟩ := follows
    obtain ⟨tender, pays, _⟩ := standing.proper
    have stands := (standing.paying tender pays.paying).grow grows
    exact standing_holds proper (leads tender pays).1 (keyed ▸ stands)
  case saveCart cart =>
    obtain ⟨proper, keyed, leads⟩ := follows
    generalize (perform contractual choice world ⟨frame, .saveCart cart⟩).1 = reply at leads
    rcases reply with error | _
    · rcases leads with leads | ⟨_, tender, holds, nextHolds⟩
      · exact standing_idle proper leads.1
      · have stands := (standing.taken tender holds.taken).grow grows
        exact standing_holds proper nextHolds (keyed ▸ stands)
    · exact standing_idle proper leads.1
  case fetchPaymentIntentsAwaitingReversal limit =>
    obtain ⟨proper, keyed, leads⟩ := follows
    generalize answered : (perform contractual choice world
      ⟨frame, .fetchPaymentIntentsAwaitingReversal limit⟩).1 = reply at leads
    rcases reply with error | rows
    · exact standing_idle proper leads.1
    · obtain ⟨owed, idle, _⟩ := leads
      apply standing_sweeps proper idle.paying idle.taken
      intro old member
      rcases owed with same | same
      · rw [same] at member
        exact grows.rows old (fetched_intents answered old member).1
      · rw [same] at member
        cases member
  case void provider wanted =>
    obtain ⟨proper, keyed, leads⟩ := follows
    obtain ⟨intent, owes, _⟩ := standing.proper
    have same : next.frame = { frame with voided := _ } := leads
    apply standing_sweeps proper
    · rw [same]; exact owes.paying
    · rw [same]; exact owes.taken
    · intro old member
      rw [same] at member
      exact (standing.grow grows).owed old member
  case markPaymentIntentReversed id =>
    obtain ⟨proper, keyed, leads⟩ := follows
    obtain ⟨intent, owes, _⟩ := standing.proper
    have same : next.frame = { frame with owed := frame.owed.tail, voided := false } := leads
    apply standing_sweeps proper
    · rw [same]; exact owes.paying
    · rw [same]; exact owes.taken
    · intro old member
      rw [same] at member
      exact (standing.grow grows).owed old (List.mem_of_mem_tail member)
  case recordPaymentIntentReversalFailure id error =>
    obtain ⟨proper, keyed, leads⟩ := follows
    obtain ⟨intent, owes, _⟩ := standing.proper
    have same : next.frame = { frame with owed := frame.owed.tail, voided := false } := leads
    apply standing_sweeps proper
    · rw [same]; exact owes.paying
    · rw [same]; exact owes.taken
    · intro old member
      rw [same] at member
      exact (standing.grow grows).owed old (List.mem_of_mem_tail member)
  case loadCart id =>
    obtain ⟨proper, keyed, leads⟩ := follows
    generalize (perform contractual choice world ⟨frame, .loadCart id⟩).1 = reply at leads
    rcases reply with error | none | cart
    · exact standing_idle proper leads.1
    · exact standing_idle proper leads.1
    · exact standing_idle proper leads.1
  all_goals exact standing_idle follows.1 follows.2.2.1

end Next

/-- The facts about the ledger that hold in every run. -/
def Base (world : HubWorld) (pending : Multiset Request) : Prop :=
  Distinct pending ∧ Sound world ∧ ∀ request ∈ pending, Standing world request

theorem ledger_sound (app : AppState) : Invariant (hub app) conduct Condition.always Opens Base := by
  apply (distinct_keys app).extend
  refine { started := ?_, kept := ?_, continued := ?_ }
  · intro world others task request opens _ _
    exact standing_idle opens.1 opens.2.2.1
  · intro choice world others request _ _ sound standing
    have own := standing request (Multiset.mem_cons_self _ _)
    refine ⟨sound_after choice sound own, ?_⟩
    intro other member
    have waits := standing other (Multiset.mem_cons_of_mem (Multiset.mem_coe.mpr member))
    exact waits.grow (grows_after choice sound own)
  · intro choice world others request next _ _ sound standing follows _ _
    exact standing_next sound (standing request (Multiset.mem_cons_self _ _)) follows

theorem base_opening {world : HubWorld} (empty : world.db.paymentIntents = []) : Base world 0 := by
  refine ⟨fun key => by simp, ?_, by simp⟩
  constructor <;> rw [empty]
  · exact List.nodup_nil
  · exact List.nodup_nil
  all_goals intro row member; cases member

end ApexEdge.Proofs.Ledger
