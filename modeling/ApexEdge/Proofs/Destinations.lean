import Mathlib.Data.List.TakeWhile
import ApexEdge.Library.Sequence
import ApexEdge.Proofs.DeliveryTries

/-! What a destination that accepts everything has received. Destinations share the oldest
pending submissions and the oldest due deliveries; where a destination's own deliveries are
not crowded out of them, it receives what it would receive on its own. -/

namespace ApexEdge.Proofs.Destinations
open Library Payment Domain Storage Outbox
open Payment.StripeTerminal Proofs.DeliveryTries

/-- A destination's own part of the outbox: the submissions that it wants and that can be
sent, with their age, and which of them it has received. -/
structure Account where
  rows : List (Uuid × Timestamp)
  got : Finset Uuid
  deriving DecidableEq

namespace Account

/-- What the destination has not received, oldest first. -/
def missing (account : Account) : List Uuid :=
  (Table.orderedBy Prod.snd (account.rows.filter (·.1 ∉ account.got))).map Prod.fst

inductive Step where
  | queued (id : Uuid) (now : Timestamp)
  | cycled
  deriving DecidableEq

/-- Every cycle brings the oldest batch. -/
def apply (batch : Nat) (account : Account) (step : Step) : Account :=
  match step with
  | .queued id now => { account with rows := account.rows ++ [(id, now)] }
  | .cycled => { account with got := account.got ∪ (account.missing.take batch).toFinset }

end Account

section Outbox
variable (parse : String → Option Json) (env : String → Option String) (policy : DispatcherPolicy)
  (target : DestinationRow)

def isOwn (payload : String) : Bool := (parse payload).any fun json => wants target (payloadKind json)

def received (store : OutboxStore) : Finset Uuid :=
  ((store.accepted.filter (·.1 = target.id)).map Prod.snd).toFinset

def ownRows (submissions : List OutboxSubmission) : List (Uuid × Timestamp) :=
  (submissions.filter (isOwn parse target ·.payload)).map fun row => (row.id, row.createdAt)

def account (store : OutboxStore) : Account :=
  { rows := ownRows parse target store.tables.submissions
    got := received target store }

/-- The events that concern the destination. -/
def ownStep (event : OutboxEvent) : Option Account.Step :=
  match event with
  | .queue id payload now => if isOwn parse target payload then some (.queued id now) else none
  | .cycle _ => some .cycled

def ownSteps (events : List OutboxEvent) : List Account.Step := events.filterMap (ownStep parse target)

/-- The deliveries that a cycle comes to. -/
def reached (cycle : Cycle) (tables : OutboxTables) : List DueDelivery :=
  (Deliveries.fetchDueDeliveries policy.batchSize cycle.now (fanOut parse policy tables)).takeWhile (passes parse)

def reachedIds (cycle : Cycle) (tables : OutboxTables) : List Uuid :=
  ownIds target (reached parse policy cycle tables)

/-- The destination's oldest missing submissions get into the cycle: they are among the
oldest pending ones and the oldest due ones, and nothing before them ends the cycle. A
submission is queued under a new id. -/
def uncrowded (store : OutboxStore) (event : OutboxEvent) : Prop :=
  match event with
  | .queue id _ _ => ∀ row ∈ store.tables.submissions, row.id ≠ id
  | .cycle cycle => ∀ id ∈ ((account parse target store).missing.take policy.batchSize),
      id ∈ reachedIds parse policy target cycle store.tables

instance (store : OutboxStore) (event : OutboxEvent) : Decidable (uncrowded parse policy target store event) := by
  unfold uncrowded
  split <;> infer_instance

end Outbox

section Cycles
variable {parse : String → Option Json} {env : String → Option String} {policy : DispatcherPolicy}
  {target : DestinationRow} {cycle : Cycle} {store : OutboxStore} {tables : OutboxTables}
  {accepted : List (Uuid × Uuid)}

/-- A summary changes nothing that a destination looks at. -/
theorem summarized_same (submission : OutboxSubmission) :
    (Deliveries.summarized tables submission).id = submission.id ∧
      (Deliveries.summarized tables submission).payload = submission.payload ∧
      (Deliveries.summarized tables submission).createdAt = submission.createdAt := by
  simp only [Deliveries.summarized]
  split <;> exact ⟨rfl, rfl, rfl⟩

theorem settled_sound (sound : Sound parse target accepted tables) (limit : Nat) :
    Sound parse target accepted (Deliveries.settleFinishedSubmissions limit tables) := by
  refine { sound with submissions := ?_, wanted := ?_ }
  · exact Table.unique_run (fun row => (summarized_same row).1) sound.submissions
  · intro row member own
    obtain ⟨submission, present, same, wanted⟩ := sound.wanted row member own
    refine ⟨_, List.mem_map_of_mem present, ?_, ?_⟩
    · rw [Table.Update.row_column _ OutboxSubmission.id fun row => (summarized_same row).1, same]
    · unfold kindOf
      rwa [Table.Update.row_column _ OutboxSubmission.payload fun row => (summarized_same row).2.1]

theorem updated_rows {update : Table.Update OutboxSubmission} (submissions : List OutboxSubmission)
    (id : ∀ row, (update.set row).id = row.id) (payload : ∀ row, (update.set row).payload = row.payload)
    (createdAt : ∀ row, (update.set row).createdAt = row.createdAt) :
    ownRows parse target (update.run submissions) = ownRows parse target submissions := by
  have own : (isOwn parse target ·.payload) ∘ update.row = (isOwn parse target ·.payload) :=
    funext fun row => congrArg (isOwn parse target) (update.row_column OutboxSubmission.payload payload row)
  unfold ownRows Table.Update.run
  rw [List.filter_map, List.map_map, own]
  refine List.map_congr_left fun row _ => Prod.ext ?_ ?_
  · exact update.row_column OutboxSubmission.id id row
  · exact update.row_column OutboxSubmission.createdAt createdAt row

theorem mem_received {id : Uuid} : id ∈ received target store ↔ (target.id, id) ∈ store.accepted := by
  simp [received]

theorem missing_unique {account : Account} (unique : (account.rows.map Prod.fst).Nodup) : account.missing.Nodup := by
  unfold Account.missing
  have left : ((account.rows.filter (·.1 ∉ account.got)).map Prod.fst).Nodup :=
    unique.sublist (List.filter_sublist.map Prod.fst)
  exact ((List.perm_insertionSort _ _).map Prod.fst).nodup_iff.mpr left

theorem mem_missing {account : Account} {id : Uuid} :
    id ∈ account.missing ↔ id ∈ account.rows.map Prod.fst ∧ id ∉ account.got := by
  unfold Account.missing
  constructor
  · intro member
    obtain ⟨row, present, rfl⟩ := List.mem_map.mp member
    obtain ⟨present, lacking⟩ := List.mem_filter.mp (Table.mem_orderedBy.mp present)
    exact ⟨List.mem_map_of_mem present, of_decide_eq_true lacking⟩
  · rintro ⟨present, lacking⟩
    obtain ⟨row, queued, rfl⟩ := List.mem_map.mp present
    exact List.mem_map_of_mem (Table.mem_orderedBy.mpr (List.mem_filter.mpr ⟨queued, decide_eq_true lacking⟩))

/-- At most a batch of what is missing, the oldest batch among it: that batch. -/
theorem taken_eq {missing taken : List Uuid} {limit : Nat} (unique : missing.Nodup) (few : taken.length ≤ limit)
    (inside : ∀ id ∈ taken, id ∈ missing) (oldest : ∀ id ∈ missing.take limit, id ∈ taken) :
    taken.toFinset = (missing.take limit).toFinset := by
  have covered : (missing.take limit).toFinset ⊆ taken.toFinset :=
    fun id member => List.mem_toFinset.mpr (oldest id (List.mem_toFinset.mp member))
  by_cases short : missing.length ≤ limit
  · refine Finset.Subset.antisymm (fun id member => ?_) covered
    rw [List.take_of_length_le short]
    exact List.mem_toFinset.mpr (inside id (List.mem_toFinset.mp member))
  · refine (Finset.eq_of_subset_of_card_le covered ?_).symm
    have full : (missing.take limit).toFinset.card = limit := by
      rw [List.toFinset_card_of_nodup (unique.sublist (List.take_sublist _ _)), List.length_take]
      omega
    rw [full]
    exact (List.toFinset_card_le taken).trans few

/-- What a cycle brings the destination it was missing. -/
theorem reached_missing (sound : Sound parse target store.accepted store.tables) (sendable : Sendable env target)
    {id : Uuid} (member : id ∈ reachedIds parse policy target cycle store.tables) :
    id ∈ (account parse target store).missing := by
  obtain ⟨owing, same⟩ : Sound parse target store.accepted (fanOut parse policy store.tables) ∧ _ := sound_fanOut sound
  obtain ⟨delivery, taken, rfl⟩ := List.mem_map.mp member
  obtain ⟨taken, own⟩ := List.mem_filter.mp taken
  obtain ⟨listed, present, pending⟩ := fetched (List.takeWhile_subset _ taken)
  have own : delivery.destination = target :=
    List.inj_on_of_nodup_map owing.destinations listed.destination owing.known (of_decide_eq_true own)
  have outbox : delivery.attempt.outboxId = delivery.submission.id := congrArg Prod.fst listed.keyed
  have destined : delivery.attempt.destinationId = target.id :=
    (congrArg Prod.snd listed.keyed).trans (congrArg DestinationRow.id own)
  obtain ⟨submission, queued, numbered, wanted⟩ := owing.wanted _ present destined
  obtain rfl := List.inj_on_of_nodup_map owing.submissions queued listed.submission (numbered.trans outbox)
  have parses : (parse delivery.submission.payload).isSome = true := by
    simpa [passes, own, sendable.endpoint] using List.mem_takeWhile_imp taken
  obtain ⟨json, parsed⟩ := Option.isSome_iff_exists.mp parses
  have isOwn : isOwn parse target delivery.submission.payload = true := by
    simpa [isOwn, kindOf, parsed] using wanted
  rw [same.submissions] at queued
  refine mem_missing.mpr ⟨?_, ?_⟩
  · exact List.mem_map.mpr ⟨_, List.mem_map_of_mem (List.mem_filter.mpr ⟨queued, isOwn⟩), rfl⟩
  · intro had
    exact owing.owed _ present destined pending (outbox ▸ mem_received.mp had)

theorem rows_unique (sound : Sound parse target store.accepted store.tables) :
    ((account parse target store).rows.map Prod.fst).Nodup := by
  refine List.Nodup.sublist ?_ sound.submissions
  have rows : (account parse target store).rows.map Prod.fst =
      (store.tables.submissions.filter (isOwn parse target ·.payload)).map OutboxSubmission.id := List.map_map
  rw [rows]
  exact List.filter_sublist.map _

theorem reached_few : (reachedIds parse policy target cycle store.tables).length ≤ policy.batchSize := by
  unfold reachedIds ownIds reached
  rw [List.length_map]
  exact (List.filter_sublist.trans (List.takeWhile_sublist _)).length_le.trans (List.length_take_le _ _)

/-- Summaries are settled unless the cycle was ended early. -/
theorem runOnce_cases (parse : String → Option Json) (env : String → Option String) (policy : DispatcherPolicy)
    (cycle : Cycle) (store : OutboxStore) : ∃ tried, (attemptAll parse env policy cycle
      (Deliveries.fetchDueDeliveries policy.batchSize cycle.now (fanOut parse policy store.tables))
      (store.write (fanOut parse policy))).2 = tried ∧
    (runOnce parse env policy cycle store = tried ∨
      runOnce parse env policy cycle store = tried.write (Deliveries.settleFinishedSubmissions policy.batchSize)) := by
  refine ⟨_, rfl, ?_⟩
  simp only [runOnce]
  split
  next after ran =>
    have last : after = _ := (congrArg Prod.snd ran).symm
    exact .inr (congrArg (OutboxStore.write · _) last)
  next after ran => exact .inl (congrArg Prod.snd ran).symm

/-- The cycle brings the destination the oldest batch of what it was missing. -/
theorem cycle_account (sendable : Sendable env target) (accepts : Accepts target cycle)
    (sound : Sound parse target store.accepted store.tables)
    (roomy : uncrowded parse policy target store (.cycle cycle))
    {after : OutboxStore} (ran : runOnce parse env policy cycle store = after) :
    Sound parse target after.accepted after.tables ∧
      account parse target after = (account parse target store).apply policy.batchSize .cycled := by
  obtain ⟨owing, same⟩ : Sound parse target (store.write (fanOut parse policy)).accepted
      (store.write (fanOut parse policy)).tables ∧ _ := sound_fanOut sound
  obtain ⟨tried, attempted, ends⟩ := runOnce_cases parse env policy cycle store
  obtain ⟨kept, left, known⟩ :=
    sound_attemptAll sendable accepts owing (fun delivery member => (fetched member).1) attempted
  have rows : ownRows parse target tried.tables.submissions = ownRows parse target store.tables.submissions :=
    congrArg _ (left.submissions.trans same.submissions)
  have batch : (reachedIds parse policy target cycle store.tables).toFinset =
      ((account parse target store).missing.take policy.batchSize).toFinset :=
    taken_eq (missing_unique (rows_unique sound)) reached_few (fun id => reached_missing sound sendable) roomy
  have got : received target tried = received target store ∪
      ((account parse target store).missing.take policy.batchSize).toFinset := by
    ext id
    rw [← batch, Finset.mem_union, List.mem_toFinset, mem_received, mem_received]
    exact known id
  rw [ran] at ends
  rcases ends with rfl | rfl
  · exact ⟨kept, congrArg₂ Account.mk rows got⟩
  · refine ⟨settled_sound kept _, congrArg₂ Account.mk (Eq.trans ?_ rows) got⟩
    refine updated_rows _ ?_ ?_ ?_
    · exact fun row => (summarized_same row).1
    · exact fun row => (summarized_same row).2.1
    · exact fun row => (summarized_same row).2.2

theorem queue_account {id : Uuid} {payload : String} {now : Timestamp}
    (sound : Sound parse target store.accepted store.tables)
    (fresh : uncrowded parse policy target store (.queue id payload now)) {after : OutboxStore}
    (ran : applyEvent parse env policy store (.queue id payload now) = after) :
    Sound parse target after.accepted after.tables ∧
      account parse target after = (ownSteps parse target [.queue id payload now]).foldl
        (Account.apply policy.batchSize) (account parse target store) := by
  have absent : store.tables.submissions.any (·.id = id) = false :=
    List.any_eq_false.mpr fun row member => by simpa using fresh row member
  have queued : after = { store with tables :=
      { store.tables with submissions := store.tables.submissions ++ [⟨id, payload, .pending, now, none⟩] } } := by
    rw [← ran]
    simp only [applyEvent, Deliveries.insertOutbox, absent, Bool.false_eq_true, if_false]
  rw [queued]
  refine ⟨{ sound with submissions := Table.unique_append sound.submissions fresh, wanted := ?_ }, ?_⟩
  · intro row member own
    obtain ⟨submission, present, wanted⟩ := sound.wanted row member own
    exact ⟨submission, List.mem_append_left _ present, wanted⟩
  · unfold ownSteps ownStep account ownRows
    rw [List.filter_append, List.map_append]
    cases own : isOwn parse target payload with
    | true =>
      simp only [own, if_true, List.filterMap_cons, List.filterMap_nil, List.filter_cons, List.filter_nil]
      rfl
    | false =>
      simp only [own, Bool.false_eq_true, if_false, List.filterMap_cons, List.filterMap_nil, List.filter_cons,
        List.filter_nil, List.map_nil, List.append_nil]
      rfl

end Cycles

section Runs
variable {parse : String → Option Json} {env : String → Option String} {policy : DispatcherPolicy}
  {target : DestinationRow} {store : OutboxStore} {events : List OutboxEvent}

/-- The run of a destination that accepts everything, from a sound outbox. -/
theorem run_account (sendable : Sendable env target) (accepts : ∀ cycle, .cycle cycle ∈ events → Accepts target cycle)
    (sound : Sound parse target store.accepted store.tables)
    (roomy : Sequence.Meets (applyEvent parse env policy) (uncrowded parse policy target) store events) :
    account parse target (Sequence.run (applyEvent parse env policy) store events) =
      Sequence.run (Account.apply policy.batchSize) (account parse target store) (ownSteps parse target events) := by
  induction events generalizing store with
  | nil => rfl
  | cons event events ih =>
    have step : Sound parse target (applyEvent parse env policy store event).accepted
          (applyEvent parse env policy store event).tables ∧
        account parse target (applyEvent parse env policy store event) =
          (ownSteps parse target [event]).foldl (Account.apply policy.batchSize) (account parse target store) := by
      cases event with
      | queue id payload now => exact queue_account sound roomy.1 rfl
      | cycle cycle => exact cycle_account sendable (accepts cycle List.mem_cons_self) sound roomy.1 rfl
    have split : ownSteps parse target (event :: events) =
        ownSteps parse target [event] ++ ownSteps parse target events := by
      unfold ownSteps
      rw [← List.filterMap_append, List.singleton_append]
    rw [Sequence.run_cons, ih (fun cycle member => accepts cycle (List.mem_cons_of_mem _ member)) step.1 roomy.2,
      step.2, split, Sequence.run_append]
    rfl

/-- Two runs that are the same for a destination that accepts everything: it has received
the same, whatever the others answer and whatever else is queued. -/
def Isolated (parse : String → Option Json) (env : String → Option String) (policy : DispatcherPolicy)
    (target : DestinationRow) (first second : OutboxStore) (one two : List OutboxEvent) : Prop :=
  Sendable env target → (∀ cycle, .cycle cycle ∈ one ++ two → Accepts target cycle) →
    Sound parse target first.accepted first.tables → Sound parse target second.accepted second.tables →
    account parse target first = account parse target second → ownSteps parse target one = ownSteps parse target two →
      received target (Sequence.run (applyEvent parse env policy) first one) =
        received target (Sequence.run (applyEvent parse env policy) second two)

theorem isolated_while_uncrowded {first second : OutboxStore} {one two : List OutboxEvent}
    (roomyFirst : Sequence.Meets (applyEvent parse env policy) (uncrowded parse policy target) first one)
    (roomySecond : Sequence.Meets (applyEvent parse env policy) (uncrowded parse policy target) second two) :
    Isolated parse env policy target first second one two := by
  intro sendable accepts soundFirst soundSecond start steps
  have ranFirst := run_account sendable (fun cycle member => accepts cycle (List.mem_append_left _ member))
    soundFirst roomyFirst
  have ranSecond := run_account sendable (fun cycle member => accepts cycle (List.mem_append_right _ member))
    soundSecond roomySecond
  have same : account parse target (Sequence.run (applyEvent parse env policy) first one) =
      account parse target (Sequence.run (applyEvent parse env policy) second two) := by
    rw [ranFirst, ranSecond, start, steps]
  exact congrArg Account.got same

/-- An outbox that no cycle has seen. -/
theorem sound_untouched {submissions : List OutboxSubmission} {destinations : List DestinationRow}
    (known : target ∈ destinations) (coded : (destinations.map DestinationRow.id).Nodup)
    (numbered : (submissions.map OutboxSubmission.id).Nodup) :
    Sound parse target [] ⟨submissions, destinations, []⟩ where
  known := known
  destinations := coded
  submissions := numbered
  wanted := fun _ impossible => nomatch impossible
  owed := fun _ impossible => nomatch impossible
  recorded := fun _ impossible => nomatch impossible

end Runs

section Samples

def orderText : String := "\x7b\"order\":\x7b\x7d\x7d"
def noticeText : String := "\x7b\"event_type\":\"notice\"\x7d"

def sampleParse (text : String) : Option Json :=
  if text = orderText then some (.object [("order", .object [])])
  else if text = noticeText then some (.object [("event_type", .string "notice")])
  else none

def noSecrets (_ : String) : Option String := none

def ordersOnly : Json := .object [("payload_kinds", .array [.string "order"])]

def headquarters : DestinationRow := ⟨1, "hq", "hq", some "http://hq", true, ordersOnly⟩
def webhook (config : Json) : DestinationRow := ⟨2, "web", "webhook", some "http://web", true, config⟩

def batchesOf (size : Nat) : DispatcherPolicy := ⟨size, 5, 30⟩

def accepted : SendResult := .answered ⟨200, "OK"⟩ "" (some ⟨true, []⟩)

/-- A cycle in which the webhook answers so, and headquarters accepts. -/
def answering (answer : SendResult) (now : Timestamp) : OutboxEvent :=
  .cycle ⟨now, fun _ => now, fun delivery => if delivery.destination.id = headquarters.id then accepted else answer⟩

def cycles (answers : List (SendResult × Timestamp)) : List OutboxEvent :=
  answers.map fun (answer, now) => answering answer now

def unavailable : SendResult := .answered ⟨503, "Service Unavailable"⟩ "" none

def submission (number : Nat) (payload : String) : OutboxSubmission := ⟨.random number, payload, .pending, number, none⟩

def outbox (config : Json) (submissions : List OutboxSubmission) : OutboxStore :=
  ⟨⟨submissions, [headquarters, webhook config], []⟩, []⟩

theorem headquarters_sendable : Sendable noSecrets headquarters where
  enabled := rfl
  endpoint := by decide +kernel
  secret := fun _ impossible => nomatch impossible

theorem headquarters_accepts {answer : SendResult} {now : Timestamp} {cycle : Cycle}
    (same : .cycle cycle = answering answer now) : Accepts headquarters cycle := by
  obtain rfl := OutboxEvent.cycle.inj same
  intro delivery own
  refine ⟨⟨200, "OK"⟩, "", some ⟨true, []⟩, ?_, by decide, by decide⟩
  simp only [own, if_true]
  rfl

theorem outbox_sound (config : Json) {submissions : List OutboxSubmission}
    (numbered : (submissions.map OutboxSubmission.id).Nodup) :
    Sound sampleParse headquarters (outbox config submissions).accepted (outbox config submissions).tables := by
  refine sound_untouched List.mem_cons_self ?_ numbered
  show ([1, 2] : List Uuid).Nodup
  decide

theorem cycles_accept (one two : List (SendResult × Timestamp)) :
    ∀ cycle, .cycle cycle ∈ cycles one ++ cycles two → Accepts headquarters cycle := by
  intro cycle member
  have made : .cycle cycle ∈ cycles (one ++ two) := by
    rw [cycles, List.map_append]
    exact member
  obtain ⟨_, _, same⟩ := List.mem_map.mp made
  exact headquarters_accepts same.symm

/-- The webhook answers or not; another order arrives meanwhile. -/
theorem both_orders_received :
    received headquarters (Sequence.run (applyEvent sampleParse noSecrets (batchesOf 2))
        (outbox ordersOnly [submission 5 orderText])
        [answering accepted 10, .queue 6 orderText 15, answering accepted 20]) =
      received headquarters (Sequence.run (applyEvent sampleParse noSecrets (batchesOf 2))
        (outbox ordersOnly [submission 5 orderText])
        [answering unavailable 10, .queue 6 orderText 15, answering unavailable 20]) := by
  have sound : Sound sampleParse headquarters [] (outbox ordersOnly [submission 5 orderText]).tables :=
    outbox_sound _ (by decide)
  refine isolated_while_uncrowded ?_ ?_ headquarters_sendable ?_ sound sound rfl ?_
  · decide +kernel
  · decide +kernel
  · intro cycle member
    simp only [List.cons_append, List.nil_append, List.mem_cons, List.not_mem_nil, reduceCtorEq, false_or,
      or_false] at member
    rcases member with same | same | same | same <;> exact headquarters_accepts same
  · decide +kernel

/-- With a batch of one: a webhook that refuses the first order, a notice that nobody wants
and a payload that does not parse each keep an order from headquarters. -/
theorem crowded_out :
    ¬Isolated sampleParse noSecrets (batchesOf 1) headquarters
        (outbox ordersOnly [submission 5 orderText, submission 6 orderText])
        (outbox ordersOnly [submission 5 orderText, submission 6 orderText])
        (cycles [(accepted, 10), (accepted, 20), (accepted, 30)])
        (cycles [(unavailable, 10), (unavailable, 20), (unavailable, 30)]) ∧
      ¬Isolated sampleParse noSecrets (batchesOf 1) headquarters
        (outbox ordersOnly [submission 4 noticeText, submission 5 orderText])
        (outbox ordersOnly [submission 5 orderText]) (cycles [(accepted, 10)]) (cycles [(accepted, 10)]) ∧
      ¬Isolated sampleParse noSecrets (batchesOf 1) headquarters
        (outbox (.object []) [submission 4 "not json", submission 5 orderText])
        (outbox (.object []) [submission 5 orderText]) (cycles [(accepted, 10)]) (cycles [(accepted, 10)]) := by
  refine ⟨fun isolated => ?_, fun isolated => ?_, fun isolated => ?_⟩
  all_goals
    have same := isolated headquarters_sendable (cycles_accept _ _) (outbox_sound _ (by decide))
      (outbox_sound _ (by decide)) (by decide +kernel) (by decide +kernel)
    revert same
    decide +kernel

end Samples

end ApexEdge.Proofs.Destinations
