import ApexEdge.Outbox.Dispatcher

/-! What one try does to the outbox, as a destination that accepts everything sees it: its own
deliveries are handed over, and nothing else that is tried touches them. -/

namespace ApexEdge.Proofs.DeliveryTries
open Library Payment Domain Storage Outbox
open Payment.StripeTerminal

section Outbox
variable (parse : String → Option Json) (env : String → Option String) (policy : DispatcherPolicy)
  (target : DestinationRow)

/-- A delivery does not end the cycle. -/
def passes (delivery : DueDelivery) : Bool :=
  !hasEndpoint delivery.destination || (parse delivery.submission.payload).isSome

def ownIds (deliveries : List DueDelivery) : List Uuid :=
  (deliveries.filter (·.destination.id = target.id)).map (·.submission.id)

/-- The destination can be sent to. -/
structure Sendable : Prop where
  enabled : target.enabled = true
  endpoint : hasEndpoint target = true
  secret : ∀ name, signingSecret env target.config ≠ .missing name

/-- It accepts whatever it is sent in the cycle. -/
def Accepts (cycle : Cycle) : Prop :=
  ∀ delivery, delivery.destination = target → ∃ status text body, cycle.answer delivery = .answered status text body ∧
    status.isSuccess = true ∧ rejectionReason target.kind body = none

def key (row : DeliveryAttemptRow) : Uuid × Uuid := (row.outboxId, row.destinationId)

/-- Ids are unique; what the destination is owed it wants and has not had, and what it has
had is on record. -/
structure Sound (accepted : List (Uuid × Uuid)) (tables : OutboxTables) : Prop where
  known : target ∈ tables.destinations
  destinations : (tables.destinations.map DestinationRow.id).Nodup
  submissions : (tables.submissions.map OutboxSubmission.id).Nodup
  wanted : ∀ row ∈ tables.attempts, row.destinationId = target.id →
    ∃ submission ∈ tables.submissions, submission.id = row.outboxId ∧ wants target (kindOf parse submission) = true
  owed : ∀ row ∈ tables.attempts, row.destinationId = target.id → row.state = .pending →
    (target.id, row.outboxId) ∉ accepted
  recorded : ∀ id, (target.id, id) ∈ accepted → (id, target.id) ∈ tables.attempts.map key

end Outbox

section FanOut
variable {parse : String → Option Json} {policy : DispatcherPolicy} {target : DestinationRow}
  {accepted : List (Uuid × Uuid)} {tables : OutboxTables}

/-- What fanning out leaves alone. -/
structure Same (before after : OutboxTables) : Prop where
  submissions : after.submissions = before.submissions
  destinations : after.destinations = before.destinations

theorem ensure_same (outboxId destinationId : Uuid) :
    Same tables (Deliveries.ensureDelivery outboxId destinationId tables) := by
  unfold Deliveries.ensureDelivery
  split <;> exact ⟨rfl, rfl⟩

/-- Owing a submission to a destination that wants it. -/
theorem sound_ensure (sound : Sound parse target accepted tables) {submission : OutboxSubmission}
    {destination : DestinationRow} (queued : submission ∈ tables.submissions)
    (listed : destination ∈ tables.destinations)
    (wanted : wants destination (kindOf parse submission) = true) :
    Sound parse target accepted (Deliveries.ensureDelivery submission.id destination.id tables) := by
  unfold Deliveries.ensureDelivery
  split
  · exact sound
  next fresh =>
    have absent : ∀ row ∈ tables.attempts, key row ≠ (submission.id, destination.id) := by
      intro row member same
      exact fresh (List.any_eq_true.mpr ⟨row, member, decide_eq_true ⟨congrArg Prod.fst same, congrArg Prod.snd same⟩⟩)
    refine { sound with wanted := ?_, owed := ?_, recorded := ?_ }
    · intro row member own
      rcases List.mem_append.mp member with old | new
      · exact sound.wanted row old own
      · obtain rfl := List.mem_singleton.mp new
        obtain rfl : destination = target := List.inj_on_of_nodup_map sound.destinations listed sound.known own
        exact ⟨submission, queued, rfl, wanted⟩
    · intro row member own pending had
      rcases List.mem_append.mp member with old | new
      · exact sound.owed row old own pending had
      · obtain rfl := List.mem_singleton.mp new
        obtain ⟨other, there, same⟩ := List.mem_map.mp (sound.recorded _ had)
        have own : destination.id = target.id := own
        exact absent other there (same.trans (by rw [own]))
    · intro id had
      rw [List.map_append]
      exact List.mem_append_left _ (sound.recorded id had)

theorem same_trans {first second third : OutboxTables} (one : Same first second) (two : Same second third) :
    Same first third :=
  ⟨two.submissions.trans one.submissions, two.destinations.trans one.destinations⟩

theorem sound_owe (sound : Sound parse target accepted tables) {submission : OutboxSubmission}
    {destinations : List DestinationRow} (queued : submission ∈ tables.submissions)
    (listed : ∀ destination ∈ destinations, destination ∈ tables.destinations) :
    Sound parse target accepted (owe parse destinations tables submission) ∧
      Same tables (owe parse destinations tables submission) := by
  unfold owe
  have all : ∀ destination ∈ destinations.filter (wants · (kindOf parse submission)),
      destination ∈ tables.destinations ∧ wants destination (kindOf parse submission) = true := by
    intro destination member
    obtain ⟨present, wanted⟩ := List.mem_filter.mp member
    exact ⟨listed destination present, wanted⟩
  generalize destinations.filter (wants · (kindOf parse submission)) = wanting at all ⊢
  induction wanting generalizing tables with
  | nil => exact ⟨sound, rfl, rfl⟩
  | cons destination rest ih =>
    obtain ⟨present, wanted⟩ := all destination List.mem_cons_self
    have same : Same tables (Deliveries.ensureDelivery submission.id destination.id tables) := ensure_same ..
    obtain ⟨kept, after⟩ := ih (sound_ensure sound queued present wanted)
      (by rw [same.submissions]; exact queued) (by rw [same.destinations]; exact listed)
      (by rw [same.destinations]; exact fun other member => all other (List.mem_cons_of_mem _ member))
    exact ⟨kept, same_trans same after⟩

theorem sound_fanOut (sound : Sound parse target accepted tables) :
    Sound parse target accepted (fanOut parse policy tables) ∧ Same tables (fanOut parse policy tables) := by
  unfold fanOut
  have queued : ∀ submission ∈ Deliveries.pendingSubmissions policy.batchSize tables, submission ∈ tables.submissions :=
    fun submission member => List.mem_of_mem_filter (Table.mem_orderedBy.mp (List.mem_of_mem_take member))
  have listed : ∀ destination ∈ Deliveries.listEnabledDestinations tables, destination ∈ tables.destinations :=
    fun destination member => List.mem_of_mem_filter member
  generalize Deliveries.listEnabledDestinations tables = destinations at listed ⊢
  generalize Deliveries.pendingSubmissions policy.batchSize tables = pending at queued ⊢
  induction pending generalizing tables with
  | nil => exact ⟨sound, rfl, rfl⟩
  | cons submission rest ih =>
    obtain ⟨kept, same⟩ := sound_owe sound (queued submission List.mem_cons_self) listed
    obtain ⟨later, after⟩ := ih kept
      (by rw [same.destinations]; exact listed)
      (by rw [same.submissions]; exact fun other member => queued other (List.mem_cons_of_mem _ member))
    exact ⟨later, same_trans same after⟩

end FanOut

section Due
variable {tables : OutboxTables} {limit : Nat} {now : Timestamp}

/-- A delivery of the tables: one submission, owed to one destination. -/
structure Listed (tables : OutboxTables) (delivery : DueDelivery) : Prop where
  attempt : key delivery.attempt ∈ tables.attempts.map key
  submission : delivery.submission ∈ tables.submissions
  destination : delivery.destination ∈ tables.destinations
  keyed : key delivery.attempt = (delivery.submission.id, delivery.destination.id)

theorem join_some {attempt : DeliveryAttemptRow} {delivery : DueDelivery}
    (joined : Deliveries.join tables attempt = some delivery) :
    delivery.attempt = attempt ∧ delivery.submission ∈ tables.submissions ∧
      delivery.destination ∈ tables.destinations ∧ key attempt = (delivery.submission.id, delivery.destination.id) := by
  obtain ⟨submission, found, joined⟩ := Option.bind_eq_some_iff.mp joined
  obtain ⟨destination, enabled, joined⟩ := Option.bind_eq_some_iff.mp joined
  obtain rfl := Option.some.inj joined
  have outbox : submission.id = attempt.outboxId := by simpa using List.find?_some found
  have own : destination.id = attempt.destinationId := by simpa using List.find?_some enabled
  exact ⟨rfl, List.mem_of_find?_eq_some found, List.mem_of_mem_filter (List.mem_of_find?_eq_some enabled),
    Prod.ext outbox.symm own.symm⟩

theorem fetched {delivery : DueDelivery} (member : delivery ∈ Deliveries.fetchDueDeliveries limit now tables) :
    Listed tables delivery ∧ delivery.attempt ∈ tables.attempts ∧ delivery.attempt.state = .pending := by
  obtain ⟨attempt, due, joined⟩ := List.mem_filterMap.mp (Table.mem_orderedBy.mp (List.mem_of_mem_take member))
  obtain ⟨present, due⟩ := List.mem_filter.mp due
  obtain ⟨rfl, queued, listed, keyed⟩ := join_some joined
  exact ⟨⟨List.mem_map_of_mem present, queued, listed, keyed⟩, present, (of_decide_eq_true due).1⟩

end Due

section Attempts
variable {parse : String → Option Json} {env : String → Option String} {policy : DispatcherPolicy}
  {target : DestinationRow} {cycle : Cycle} {delivery : DueDelivery} {store after : OutboxStore}

/-- A statement about one attempt. -/
def marking (attempt : DeliveryAttemptRow) (set : DeliveryAttemptRow → DeliveryAttemptRow) :
    Table.Update DeliveryAttemptRow :=
  { selects := fun row => row.outboxId = attempt.outboxId ∧ row.destinationId = attempt.destinationId, set := set }

theorem marked_keys {tables : OutboxTables} {attempt : DeliveryAttemptRow}
    {set : DeliveryAttemptRow → DeliveryAttemptRow} (unset : ∀ row, key (set row) = key row) :
    (Deliveries.updateAttempt attempt set tables).attempts.map key = tables.attempts.map key := by
  have same : ∀ row, key ((marking attempt set).row row) = key row := (marking attempt set).row_column key unset
  exact List.map_map.trans (List.map_congr_left fun row _ => same row)

theorem mem_marked {tables : OutboxTables} {attempt row : DeliveryAttemptRow}
    {set : DeliveryAttemptRow → DeliveryAttemptRow}
    (member : row ∈ (Deliveries.updateAttempt attempt set tables).attempts) :
    ∃ old ∈ tables.attempts, (marking attempt set).row old = row := List.mem_map.mp member

/-- What a try leaves: the state of this delivery alone, and perhaps the word of its destination. -/
structure Tried (delivery : DueDelivery) (store after : OutboxStore) : Prop where
  marked : ∃ set, after.tables = Deliveries.updateAttempt delivery.attempt set store.tables ∧
    ∀ row, key (set row) = key row
  accepted : after.accepted = store.accepted ∨
    after.accepted = store.accepted ++ [(delivery.destination.id, delivery.submission.id)]

theorem retry_tried (error : String) : Tried delivery store (retryOrGiveUp policy cycle delivery error store) := by
  unfold retryOrGiveUp
  split <;> exact ⟨⟨_, rfl, fun _ => rfl⟩, .inl rfl⟩

theorem answer_tried : Tried delivery store (settleAnswer policy cycle delivery store) := by
  unfold settleAnswer
  split
  · split
    · split
      · exact ⟨⟨_, rfl, fun _ => rfl⟩, .inr rfl⟩
      · exact retry_tried _
    · exact retry_tried _
  · exact ⟨⟨_, rfl, fun _ => rfl⟩, .inl rfl⟩
  · exact retry_tried _

theorem attempt_tried (ran : attemptDelivery parse env policy cycle delivery store = .ok after) :
    Tried delivery store after := by
  unfold attemptDelivery at ran
  split at ran
  · split at ran
    · cases ran
    · split at ran <;> obtain rfl := Except.ok.inj ran
      · exact retry_tried _
      · exact answer_tried
  · obtain rfl := Except.ok.inj ran
    exact ⟨⟨_, rfl, fun _ => rfl⟩, .inl rfl⟩

/-- The cycle goes on past a delivery that does not end it, and only past one. -/
theorem attempt_passes : (∃ after, attemptDelivery parse env policy cycle delivery store = .ok after) ↔
    passes parse delivery = true := by
  unfold attemptDelivery passes
  cases hasEndpoint delivery.destination with
  | false => simp
  | true =>
    cases parse delivery.submission.payload with
    | none => simp
    | some json =>
      simp only [if_true, Bool.not_true, Option.isSome_some, Bool.or_true, iff_true]
      split <;> exact ⟨_, rfl⟩

/-- A destination that can be sent to and accepts is sent the delivery. -/
theorem attempt_accepted (sendable : Sendable env target) (accepts : Accepts target cycle)
    (own : delivery.destination = target) (ran : attemptDelivery parse env policy cycle delivery store = .ok after) :
    after.tables = Deliveries.markDelivered delivery.attempt store.tables ∧
      after.accepted = store.accepted ++ [(target.id, delivery.submission.id)] := by
  obtain ⟨status, text, body, answered, success, taken⟩ := accepts delivery own
  unfold attemptDelivery at ran
  rw [own, if_pos sendable.endpoint] at ran
  split at ran
  · cases ran
  · split at ran
    next missing => exact absurd missing (sendable.secret _)
    · obtain rfl := Except.ok.inj ran
      simp only [settleAnswer, answered, success, own, taken, if_true]
      exact ⟨rfl, trivial⟩

end Attempts

section Tries
variable {parse : String → Option Json} {env : String → Option String} {policy : DispatcherPolicy}
  {target : DestinationRow} {cycle : Cycle} {delivery : DueDelivery} {store after : OutboxStore}
  {tables : OutboxTables} {before now : List (Uuid × Uuid)}

theorem sound_marked {attempt : DeliveryAttemptRow} {set : DeliveryAttemptRow → DeliveryAttemptRow}
    (sound : Sound parse target before tables) (unset : ∀ row, key (set row) = key row)
    (owed : ∀ row ∈ tables.attempts, row.destinationId = target.id → ((marking attempt set).row row).state = .pending →
      (target.id, row.outboxId) ∉ now)
    (recorded : ∀ id, (target.id, id) ∈ now → (id, target.id) ∈ tables.attempts.map key) :
    Sound parse target now (Deliveries.updateAttempt attempt set tables) := by
  have same : ∀ row, key ((marking attempt set).row row) = key row := (marking attempt set).row_column key unset
  refine { sound with wanted := ?_, owed := ?_, recorded := ?_ }
  · rintro _ member own
    obtain ⟨row, present, rfl⟩ := mem_marked member
    have outbox : ((marking attempt set).row row).outboxId = row.outboxId := congrArg Prod.fst (same row)
    rw [outbox]
    exact sound.wanted row present ((congrArg Prod.snd (same row)).symm.trans own)
  · rintro _ member own pending
    obtain ⟨row, present, rfl⟩ := mem_marked member
    have outbox : ((marking attempt set).row row).outboxId = row.outboxId := congrArg Prod.fst (same row)
    rw [outbox]
    exact owed row present ((congrArg Prod.snd (same row)).symm.trans own) pending
  · rw [marked_keys unset]
    exact recorded

/-- Trying another destination's delivery. -/
theorem sound_other (sound : Sound parse target store.accepted store.tables) (listed : Listed store.tables delivery)
    (other : delivery.destination.id ≠ target.id) (tried : Tried delivery store after) :
    Sound parse target after.accepted after.tables ∧
      ∀ id, (target.id, id) ∈ after.accepted ↔ (target.id, id) ∈ store.accepted := by
  have known (id : Uuid) : (target.id, id) ∈ after.accepted ↔ (target.id, id) ∈ store.accepted := by
    rcases tried.accepted with same | more
    · rw [same]
    · have apart : (target.id, id) ≠ (delivery.destination.id, delivery.submission.id) :=
        fun same => other (congrArg Prod.fst same).symm
      rw [more, List.mem_append, List.mem_singleton, or_iff_left apart]
  obtain ⟨set, marked, unset⟩ := tried.marked
  refine ⟨?_, known⟩
  rw [marked]
  refine sound_marked sound unset ?_ fun id had => sound.recorded id ((known id).mp had)
  intro row member own pending had
  have unselected : (marking delivery.attempt set).selects row = false := by
    refine decide_eq_false fun selected => other ?_
    exact (congrArg Prod.snd listed.keyed).symm.trans (selected.2.symm.trans own)
  rw [Table.Update.row_kept unselected] at pending
  exact sound.owed row member own pending ((known _).mp had)

/-- Delivering to the destination. -/
theorem sound_delivered (sound : Sound parse target store.accepted store.tables) (listed : Listed store.tables delivery)
    (own : delivery.destination = target)
    (delivered : after.tables = Deliveries.markDelivered delivery.attempt store.tables)
    (accepted : after.accepted = store.accepted ++ [(target.id, delivery.submission.id)]) :
    Sound parse target after.accepted after.tables ∧
      ∀ id, (target.id, id) ∈ after.accepted ↔ (target.id, id) ∈ store.accepted ∨ id = delivery.submission.id := by
  have known (id : Uuid) :
      (target.id, id) ∈ after.accepted ↔ (target.id, id) ∈ store.accepted ∨ id = delivery.submission.id := by
    rw [accepted, List.mem_append, List.mem_singleton, Prod.mk_inj, eq_self, true_and]
  refine ⟨?_, known⟩
  rw [delivered]
  refine sound_marked sound (fun _ => rfl) ?_ ?_
  · intro row member owned pending had
    rcases Table.Update.row_cases (marking delivery.attempt _) row with ⟨_, set⟩ | ⟨unselected, kept⟩
    · rw [set] at pending
      cases pending
    · rw [kept] at pending
      refine ((known _).mp had).elim (sound.owed row member owned pending) fun same => ?_
      refine of_decide_eq_false unselected ⟨same.trans (congrArg Prod.fst listed.keyed).symm, ?_⟩
      rw [owned, ← own]
      exact (congrArg Prod.snd listed.keyed).symm
  · intro id had
    refine ((known id).mp had).elim (sound.recorded id) fun same => ?_
    rw [same, ← own, ← listed.keyed]
    exact listed.attempt

theorem listed_tried {other : DueDelivery} (listed : Listed store.tables other) (tried : Tried delivery store after) :
    Listed after.tables other := by
  obtain ⟨set, marked, unset⟩ := tried.marked
  refine { listed with attempt := ?_, submission := ?_, destination := ?_ }
  · rw [marked, marked_keys unset]
    exact listed.attempt
  · rw [marked]
    exact listed.submission
  · rw [marked]
    exact listed.destination

theorem same_tried (tried : Tried delivery store after) : Same store.tables after.tables := by
  obtain ⟨set, marked, _⟩ := tried.marked
  rw [marked]
  exact ⟨rfl, rfl⟩

/-- One try, whoever is tried. -/
theorem sound_tried (sendable : Sendable env target) (accepts : Accepts target cycle)
    (sound : Sound parse target store.accepted store.tables) (listed : Listed store.tables delivery)
    (ran : attemptDelivery parse env policy cycle delivery store = .ok after) :
    Sound parse target after.accepted after.tables ∧
      ∀ id, (target.id, id) ∈ after.accepted ↔ (target.id, id) ∈ store.accepted ∨ id ∈ ownIds target [delivery] := by
  by_cases own : delivery.destination.id = target.id
  · have same : delivery.destination = target :=
      List.inj_on_of_nodup_map sound.destinations listed.destination sound.known own
    obtain ⟨delivered, accepted⟩ := attempt_accepted sendable accepts same ran
    simpa [ownIds, own] using sound_delivered sound listed same delivered accepted
  · simpa [ownIds, own] using sound_other sound listed own (attempt_tried ran)

/-- A cycle's tries, until one of them ends it. -/
theorem sound_attemptAll (sendable : Sendable env target) (accepts : Accepts target cycle)
    {deliveries : List DueDelivery} (sound : Sound parse target store.accepted store.tables)
    (listed : ∀ delivery ∈ deliveries, Listed store.tables delivery)
    (tried : (attemptAll parse env policy cycle deliveries store).2 = after) :
    Sound parse target after.accepted after.tables ∧ Same store.tables after.tables ∧
      ∀ id, (target.id, id) ∈ after.accepted ↔
        (target.id, id) ∈ store.accepted ∨ id ∈ ownIds target (deliveries.takeWhile (passes parse)) := by
  induction deliveries generalizing store with
  | nil =>
    obtain rfl : store = after := tried
    exact ⟨sound, ⟨rfl, rfl⟩, fun id => by simp [ownIds]⟩
  | cons delivery rest ih =>
    unfold attemptAll at tried
    cases ran : attemptDelivery parse env policy cycle delivery store with
    | error _ =>
      have ends : ¬ passes parse delivery = true := by
        intro goesOn
        obtain ⟨_, passed⟩ : ∃ after, attemptDelivery parse env policy cycle delivery store = .ok after :=
          attempt_passes.mpr goesOn
        exact nomatch ran.symm.trans passed
      simp only [ran] at tried
      obtain rfl := tried
      rw [List.takeWhile_cons_of_neg ends]
      exact ⟨sound, ⟨rfl, rfl⟩, fun id => by simp [ownIds]⟩
    | ok middle =>
      simp only [ran] at tried
      have step := attempt_tried ran
      obtain ⟨kept, one⟩ := sound_tried sendable accepts sound (listed delivery List.mem_cons_self) ran
      obtain ⟨last, same, others⟩ := ih kept
        (fun other member => listed_tried (listed other (List.mem_cons_of_mem _ member)) step) tried
      refine ⟨last, same_trans (same_tried step) same, fun id => ?_⟩
      rw [others, one, List.takeWhile_cons_of_pos (attempt_passes.mp ⟨middle, ran⟩), or_assoc]
      have split : ownIds target (delivery :: rest.takeWhile (passes parse)) =
          ownIds target [delivery] ++ ownIds target (rest.takeWhile (passes parse)) := by
        unfold ownIds
        rw [← List.map_append, ← List.filter_append, List.singleton_append]
      rw [split, List.mem_append]

end Tries

end ApexEdge.Proofs.DeliveryTries
