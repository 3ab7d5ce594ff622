import Mathlib.Data.List.Basic
import ApexEdge.Hub.EventStream

/-! The two endpoints of the event stream compared. The server-sent stream filters its own
replay away, tells of losses that the WebSocket is silent about, and is subscribed before the
client's presence is published; where none of this happens the endpoints agree. -/

namespace ApexEdge.Proofs.StreamEndpoints
open Payment Payment.StripeTerminal Hub.EventStream

/-- No event is published while the receiver is as far behind as it can be. -/
def KeepsUp (unread : Nat) : List Activity → Prop
  | [] => True
  | .publish _ :: rest => unread < channelCapacity ∧ KeepsUp (unread + 1) rest
  | .poll :: rest => KeepsUp (unread - 1) rest

section Receptions
variable {receiver : Receiver} {channel : StoreChannel} {activities : List Activity}

theorem recv_event {receiver : Receiver} (current : receiver.missed = 0) {envelope : StreamEnvelope}
    {queue : List StreamEnvelope} (unread : receiver.queue = envelope :: queue) :
    receiver.recv = some (.event envelope, { receiver with queue }) := by
  rw [Receiver.recv, if_pos current, unread]

theorem recv_nothing {receiver : Receiver} (current : receiver.missed = 0) (unread : receiver.queue = []) :
    receiver.recv = none := by
  rw [Receiver.recv, if_pos current, unread]

theorem recv_lagged {receiver : Receiver} (behind : receiver.missed ≠ 0) :
    receiver.recv = some (.lagged receiver.missed, { receiver with missed := 0 }) := by
  rw [Receiver.recv, if_neg behind]

theorem offer_room {receiver : Receiver} (room : receiver.queue.length < channelCapacity) (envelope : StreamEnvelope) :
    receiver.offer envelope = { receiver with queue := receiver.queue ++ [envelope] } := by
  rw [Receiver.offer, if_pos room]

theorem receptions_publish (notice : Notice) :
    receptions receiver channel (.publish notice :: activities) =
      receptions (receiver.offer (channel.publish notice).1) (channel.publish notice).2 activities := rfl

/-- A loss is reported sooner or later. -/
theorem loss_reported (behind : receiver.missed ≠ 0) :
    ∃ missed, .lagged missed ∈ receptions receiver channel activities := by
  induction activities generalizing receiver channel with
  | nil => exact ⟨receiver.missed, by simp [receptions, Receiver.drain, behind]⟩
  | cons activity rest ih =>
    cases activity with
    | publish notice =>
      refine ih ?_
      rw [Receiver.offer]
      split
      · exact behind
      · exact Nat.succ_ne_zero _
    | poll =>
      rw [receptions, recv_lagged behind]
      exact ⟨receiver.missed, List.mem_cons_self⟩

/-- A receiver reports a loss exactly when it does not keep up. -/
theorem lagged_iff (current : receiver.missed = 0) :
    (∃ missed, .lagged missed ∈ receptions receiver channel activities) ↔
      ¬ KeepsUp receiver.queue.length activities := by
  induction activities generalizing receiver channel with
  | nil => simp [receptions, Receiver.drain, current, KeepsUp]
  | cons activity rest ih =>
    cases activity with
    | publish notice =>
      rw [receptions_publish, KeepsUp]
      by_cases room : receiver.queue.length < channelCapacity
      · have kept := @ih { receiver with queue := receiver.queue ++ [(channel.publish notice).1] }
          (channel.publish notice).2 current
        rw [offer_room room, kept, List.length_append, List.length_singleton]
        simp only [room, true_and]
      · have behind : (receiver.offer (channel.publish notice).1).missed ≠ 0 := by
          rw [Receiver.offer, if_neg room]
          exact Nat.succ_ne_zero _
        simp only [room, false_and, not_false_eq_true, iff_true]
        exact loss_reported behind
    | poll =>
      rw [receptions, KeepsUp]
      cases unread : receiver.queue with
      | nil =>
        have kept := @ih receiver channel current
        rw [unread] at kept
        simpa only [recv_nothing current unread, List.length_nil, Nat.zero_sub] using kept
      | cons envelope queue =>
        have kept := @ih { receiver with queue } channel current
        simpa only [recv_event current unread, List.mem_cons, reduceCtorEq, false_or, List.length_cons,
          Nat.add_one_sub_one] using kept

theorem offer_above {bound : Nat} {receiver : Receiver} (unread : ∀ envelope ∈ receiver.queue, bound < envelope.seq)
    {newest : StreamEnvelope} (above : bound < newest.seq) :
    ∀ envelope ∈ (receiver.offer newest).queue, bound < envelope.seq := by
  intro envelope member
  rw [Receiver.offer] at member
  split at member
  · rcases List.mem_append.mp member with old | last
    · exact unread envelope old
    · exact List.mem_singleton.mp last ▸ above
  · rcases List.mem_append.mp member with old | last
    · exact unread envelope (List.mem_of_mem_tail old)
    · exact List.mem_singleton.mp last ▸ above

theorem offers_above {bound : Nat} {envelopes : List StreamEnvelope} {receiver : Receiver}
    (unread : ∀ envelope ∈ receiver.queue, bound < envelope.seq) (above : ∀ envelope ∈ envelopes, bound < envelope.seq) :
    ∀ envelope ∈ (envelopes.foldl Receiver.offer receiver).queue, bound < envelope.seq := by
  induction envelopes generalizing receiver with
  | nil => exact unread
  | cons first rest ih =>
    exact ih (offer_above unread (above first List.mem_cons_self))
      fun other member => above other (List.mem_cons_of_mem _ member)

/-- Everything that is received was unread at first or is published later. -/
theorem received_above {bound : Nat} (unread : ∀ envelope ∈ receiver.queue, bound < envelope.seq)
    (published : bound ≤ channel.seq) {envelope : StreamEnvelope}
    (received : .event envelope ∈ receptions receiver channel activities) : bound < envelope.seq := by
  induction activities generalizing receiver channel with
  | nil =>
    refine unread envelope ?_
    simp only [receptions, Receiver.drain] at received
    split at received <;> simpa using received
  | cons activity rest ih =>
    cases activity with
    | publish notice =>
      exact ih (offer_above unread (Nat.lt_succ_of_le published)) (Nat.le_succ_of_le published) received
    | poll =>
      rw [receptions] at received
      by_cases behind : receiver.missed = 0
      · cases queued : receiver.queue with
        | nil =>
          simp only [recv_nothing behind queued] at received
          exact ih unread published received
        | cons first queue =>
          simp only [recv_event behind queued, List.mem_cons, Received.event.injEq] at received
          rcases received with rfl | later
          · exact unread _ (queued ▸ List.mem_cons_self)
          · exact ih (fun other member => unread other (queued ▸ List.mem_cons_of_mem _ member)) published later
      · simp only [recv_lagged behind, List.mem_cons, reduceCtorEq, false_or] at received
        exact @ih { receiver with missed := 0 } channel unread published received

/-- An unread event comes first, unless a loss is reported before it. -/
theorem first_received {envelope : StreamEnvelope}
    (first : receiver.missed ≠ 0 ∨ receiver.queue.head? = some envelope) :
    ∃ received rest, receptions receiver channel activities = received :: rest ∧
      (received = .event envelope ∨ ∃ missed, received = .lagged missed) := by
  induction activities generalizing receiver channel with
  | nil =>
    by_cases behind : receiver.missed = 0
    · obtain ⟨queue, unread⟩ := List.head?_eq_some_iff.mp (first.resolve_left (not_not.mpr behind))
      exact ⟨.event envelope, queue.map .event, by simp [receptions, Receiver.drain, behind, unread], .inl rfl⟩
    · exact ⟨.lagged receiver.missed, receiver.queue.map .event, by simp [receptions, Receiver.drain, behind],
        .inr ⟨_, rfl⟩⟩
  | cons activity rest ih =>
    cases activity with
    | publish notice =>
      refine ih ?_
      rw [Receiver.offer]
      split
      · refine first.imp_right fun unread => ?_
        rw [List.head?_append, unread, Option.some_or]
      · exact .inl (Nat.succ_ne_zero _)
    | poll =>
      rw [receptions]
      by_cases behind : receiver.missed = 0
      · obtain ⟨queue, unread⟩ := List.head?_eq_some_iff.mp (first.resolve_left (not_not.mpr behind))
        rw [recv_event behind unread]
        exact ⟨_, _, rfl, .inl rfl⟩
      · rw [recv_lagged behind]
        exact ⟨_, _, rfl, .inr ⟨_, rfl⟩⟩

end Receptions

theorem receptions_publishAll (receiver : Receiver) (channel : StoreChannel) (notices : List Notice)
    (later : List Activity) :
    receptions receiver channel (notices.map .publish ++ later) =
      receptions ((channel.publishAll notices).1.foldl Receiver.offer receiver) (channel.publishAll notices).2 later := by
  induction notices generalizing receiver channel with
  | nil => rfl
  | cons notice notices ih => exact ih _ _

theorem publishAll_seq (channel : StoreChannel) (notices : List Notice) :
    (channel.publishAll notices).2.seq = channel.seq + notices.length := by
  induction notices generalizing channel with
  | nil => rfl
  | cons notice notices ih =>
    have rest := ih (channel.publish notice).2
    have next : (channel.publish notice).2.seq = channel.seq + 1 := rfl
    rw [next] at rest
    rw [StoreChannel.publishAll, rest, List.length_cons]
    omega

theorem publishAll_storeId (channel : StoreChannel) (notices : List Notice) :
    (channel.publishAll notices).2.storeId = channel.storeId := by
  induction notices generalizing channel with
  | nil => rfl
  | cons notice notices ih => exact ih (channel.publish notice).2

/-! ### What is forwarded -/

theorem isNews_zero (envelope : StreamEnvelope) : isNews 0 envelope = true := by
  simp only [isNews, decide_eq_true_eq]
  omega

theorem mem_forward {sentThrough : Nat} {received : List Received} {envelope : StreamEnvelope}
    (member : envelope ∈ forward sentThrough received) : .event envelope ∈ received := by
  induction received with
  | nil => exact nomatch member
  | cons first rest ih =>
    cases first with
    | lagged missed => exact nomatch member
    | event other =>
      rw [forward] at member
      split at member
      · rcases List.mem_cons.mp member with rfl | later
        · exact List.mem_cons_self
        · exact List.mem_cons_of_mem _ (ih later)
      · exact List.mem_cons_of_mem _ (ih member)

/-- Without a loss, and with nothing replayed, both endpoints pass everything on. -/
theorem forward_all (storeId : Uuid) {received : List Received} (kept : ∀ missed, .lagged missed ∉ received) :
    forward 0 received = received.map (Received.envelope storeId) := by
  induction received with
  | nil => rfl
  | cons first rest ih =>
    cases first with
    | lagged missed => exact absurd List.mem_cons_self (kept missed)
    | event envelope =>
      have later : ∀ missed, .lagged missed ∉ rest := fun missed member => kept missed (List.mem_cons_of_mem _ member)
      rw [forward, if_pos (isNews_zero envelope), ih later, List.map_cons, Received.envelope]

theorem filter_isNews_zero (envelopes : List StreamEnvelope) : envelopes.filter (isNews 0) = envelopes :=
  List.filter_eq_self.mpr fun envelope _ => isNews_zero envelope

/-! ### The replay -/

/-- The last event that is kept is the last one that was published. -/
def EndsCurrent (channel : StoreChannel) : Prop :=
  ∀ last, channel.history.getLast? = some last → last.seq = channel.seq

theorem publish_endsCurrent (channel : StoreChannel) (notice : Notice) : EndsCurrent (channel.publish notice).2 := by
  intro last same
  have newest : (channel.publish notice).2.history.getLast? = some (channel.publish notice).1 := by
    simp only [StoreChannel.publish, StoreChannel.remember, List.getLast?_append, List.getLast?_singleton,
      Option.some_or]
  rw [newest, Option.some.injEq] at same
  exact same ▸ rfl

theorem publishAll_endsCurrent {channel : StoreChannel} (ends : EndsCurrent channel) (notices : List Notice) :
    EndsCurrent (channel.publishAll notices).2 := by
  induction notices generalizing channel with
  | nil => exact ends
  | cons notice notices ih => exact ih (publish_endsCurrent channel notice)

/-- The envelopes that answer a `since` value, the signal among them. -/
def answer (channel : StoreChannel) (since : Option Nat) : List StreamEnvelope :=
  let (replay, resnapshot) := (since.map (buildReplay channel)).getD ([], none)
  replay ++ resnapshot.toList

theorem answer_current {channel : StoreChannel} {since : Nat} (current : channel.seq ≤ since) :
    answer channel (some since) = [] := by
  simp [answer, buildReplay, StoreChannel.eventsSince, current]

/-- A client that is behind is answered, with events or with the signal. -/
theorem answer_behind {channel : StoreChannel} (ends : EndsCurrent channel) {since : Nat} (behind : since < channel.seq) :
    answer channel (some since) ≠ [] ∧ ∀ envelope ∈ answer channel (some since), 0 < envelope.seq := by
  have old : ¬ channel.seq ≤ since := Nat.not_le_of_lt behind
  have signal : 0 < channel.resnapshot.seq := Nat.zero_lt_of_lt behind
  simp only [answer, buildReplay, StoreChannel.eventsSince, retainedSince, Option.map_some, Option.getD_some, if_neg old]
  cases kept : channel.history.head? with
  | none => simpa using signal
  | some earliest =>
    dsimp only
    by_cases retained : earliest.seq ≤ since + 1
    · rw [if_pos retained]
      have present : channel.history ≠ [] := fun none => by simp [none] at kept
      have newest := ends _ (List.getLast?_eq_getLast_of_ne_nil present)
      have last : channel.history.getLast present ∈ channel.history.filter (since < ·.seq) :=
        List.mem_filter.mpr ⟨List.getLast_mem present, by simpa [newest] using behind⟩
      simp only [Option.toList_none, List.append_nil]
      refine ⟨List.ne_nil_of_mem last, fun envelope member => ?_⟩
      have later : since < envelope.seq := by simpa using (List.mem_filter.mp member).2
      exact Nat.zero_lt_of_lt later
    · rw [if_neg retained]
      simpa using signal

def sentThrough (envelopes : List StreamEnvelope) : Nat := (envelopes.map (·.seq)).foldl max 0

theorem le_sentThrough {envelopes : List StreamEnvelope} {envelope : StreamEnvelope} (member : envelope ∈ envelopes) :
    envelope.seq ≤ sentThrough envelopes := by
  have bound : ∀ (numbers : List Nat) (start : Nat), start ≤ numbers.foldl max start ∧
      ∀ number ∈ numbers, number ≤ numbers.foldl max start := by
    intro numbers
    induction numbers with
    | nil => exact fun start => ⟨Nat.le_refl _, fun _ member => nomatch member⟩
    | cons first rest ih =>
      intro start
      obtain ⟨least, others⟩ := ih (max start first)
      refine ⟨Nat.le_trans (Nat.le_max_left _ _) least, fun number member => ?_⟩
      rcases List.mem_cons.mp member with rfl | later
      · exact Nat.le_trans (Nat.le_max_right _ _) least
      · exact others number later
  exact (bound _ 0).2 _ (List.mem_map_of_mem member)

/-! ### The comparison -/

/-- Nothing in which the endpoints differ: the register was present before, the client is
current when the history is read, and its receiver keeps up. -/
structure Undisturbed (hub : StreamHub) (query : StreamQuery) (between : List Notice) (later : List Activity) :
    Prop where
  present : ∀ registerId, query.registerId = some registerId → hub.isPresent registerId = true
  current : ∀ since, query.since = some since → hub.channel.seq + between.length ≤ since
  keepsUp : KeepsUp 0 (between.map .publish ++ later)

section Entering
variable {hub : StreamHub} {registerId : Uuid}

theorem connectRegister_channel : (hub.connectRegister registerId).channel = hub.channel := by
  rw [StreamHub.connectRegister]
  split <;> rfl

theorem enter_present (present : hub.isPresent registerId = true) :
    hub.enter (some registerId) = ([], hub.connectRegister registerId) := by
  rw [StreamHub.enter, if_pos present]

/-- A register that is new is announced with the next number. -/
theorem enter_new (absent : hub.isPresent registerId = false) :
    ∃ notice, (hub.enter (some registerId)).1 = [(hub.channel.publish notice).1] ∧
      (hub.enter (some registerId)).2.channel = (hub.channel.publish notice).2 := by
  refine ⟨(hub.connectRegister registerId).connectedNotice registerId, ?_⟩
  simp only [StreamHub.enter, absent, Bool.false_eq_true, if_false, connectRegister_channel, and_self]

theorem enter_storeId (registerId : Option Uuid) : (hub.enter registerId).2.channel.storeId = hub.channel.storeId := by
  cases registerId with
  | none => rfl
  | some registerId =>
    cases present : hub.isPresent registerId with
    | true => rw [enter_present present, connectRegister_channel]
    | false =>
      obtain ⟨notice, -, channel⟩ := enter_new present
      rw [channel]
      rfl

end Entering

section Comparison
variable {hub : StreamHub} {query : StreamQuery} {between : List Notice} {later : List Activity}

/-- What the client of a query is answered when the history is read. -/
def answered (hub : StreamHub) (query : StreamQuery) (between : List Notice) : List StreamEnvelope :=
  answer ((hub.enter query.registerId).2.channel.publishAll between).2 query.since

/-- What a receiver hears that was sent some events before the client's other steps. -/
def heard (hub : StreamHub) (query : StreamQuery) (between : List Notice) (later : List Activity)
    (before : List StreamEnvelope) : List Received :=
  receptions (before.foldl .offer .fresh) (hub.enter query.registerId).2.channel (between.map .publish ++ later)

/-- What the WebSocket sends after its hello. -/
theorem posStreamWs_tail :
    (posStreamWs hub query between later).tail =
      answered hub query between ++
        forward (sentThrough (answered hub query between)) (heard hub query between later []) := by
  rw [heard, receptions_publishAll]
  simp only [posStreamWs, answered, answer, sentThrough, List.cons_append, List.tail_cons, List.append_assoc,
    List.foldl_nil]

theorem posStreamSse_eq :
    posStreamSse hub query between later =
      (answered hub query between ++
        (heard hub query between later (hub.enter query.registerId).1).map
          (Received.envelope hub.channel.storeId)).filter (isNews (sentThrough (answered hub query between))) := by
  have store : ((hub.enter query.registerId).2.channel.publishAll between).2.storeId = hub.channel.storeId := by
    rw [publishAll_storeId, enter_storeId]
  rw [heard, receptions_publishAll, ← store]
  simp only [posStreamSse, answered, answer, sentThrough, List.foldl_append]

theorem heard_above (before : List StreamEnvelope) {bound : Nat} (unread : ∀ envelope ∈ before, bound < envelope.seq)
    (published : bound ≤ (hub.enter query.registerId).2.channel.seq) {envelope : StreamEnvelope}
    (received : .event envelope ∈ heard hub query between later before) : bound < envelope.seq := by
  exact received_above (offers_above (by simp [Receiver.fresh]) unread) published received

theorem enter_endsCurrent (ends : EndsCurrent hub.channel) (registerId : Option Uuid) :
    EndsCurrent (hub.enter registerId).2.channel := by
  cases registerId with
  | none => exact ends
  | some registerId =>
    cases present : hub.isPresent registerId with
    | true => rwa [enter_present present, connectRegister_channel]
    | false =>
      obtain ⟨notice, -, channel⟩ := enter_new present
      exact channel ▸ publish_endsCurrent _ notice

variable (query between) in
theorem answered_cases (ends : EndsCurrent hub.channel) :
    (answered hub query between = [] ∧
      ∀ since, query.since = some since → (hub.enter query.registerId).2.channel.seq + between.length ≤ since) ∨
    (answered hub query between ≠ [] ∧ (∀ envelope ∈ answered hub query between, 0 < envelope.seq) ∧
      ∃ since, query.since = some since ∧ since < (hub.enter query.registerId).2.channel.seq + between.length) := by
  rw [answered]
  cases query.since with
  | none => exact .inl ⟨rfl, fun _ none => nomatch none⟩
  | some since =>
    rw [← publishAll_seq]
    rcases Nat.lt_or_ge since ((hub.enter query.registerId).2.channel.publishAll between).2.seq with behind | current
    · obtain ⟨some_sent, numbered⟩ := answer_behind (publishAll_endsCurrent (enter_endsCurrent ends _) between) behind
      exact .inr ⟨some_sent, numbered, since, rfl, behind⟩
    · exact .inl ⟨answer_current current, fun other same => Option.some.inj same ▸ current⟩

/-- An answer that is not empty is sent by the WebSocket only. -/
theorem answered_differ (behind : answered hub query between ≠ [])
    (numbered : ∀ envelope ∈ answered hub query between, 0 < envelope.seq) :
    (posStreamWs hub query between later).tail ≠ posStreamSse hub query between later := by
  intro same
  obtain ⟨first, rest, begins⟩ := List.exists_cons_of_ne_nil behind
  have member : first ∈ answered hub query between := begins ▸ List.mem_cons_self
  have sent : first ∈ posStreamSse hub query between later := by
    rw [← same, posStreamWs_tail]
    exact List.mem_append_left _ member
  rw [posStreamSse_eq, List.mem_filter, isNews, decide_eq_true_eq] at sent
  have covered := le_sentThrough member
  have positive := numbered first member
  omega

/-- The register of the query is announced when it connects. -/
def Announced (hub : StreamHub) (query : StreamQuery) : Prop :=
  ∃ registerId, query.registerId = some registerId ∧ hub.isPresent registerId = false

theorem unannounced (known : ¬ Announced hub query) :
    (hub.enter query.registerId).1 = [] ∧ (hub.enter query.registerId).2.channel = hub.channel := by
  cases register : query.registerId with
  | none => exact ⟨rfl, rfl⟩
  | some registerId =>
    have present : hub.isPresent registerId = true := by
      by_contra absent
      exact known ⟨registerId, register, by simpa using absent⟩
    rw [enter_present present]
    exact ⟨rfl, connectRegister_channel⟩

/-- The client of a server-sent stream hears its own announcement, or of a loss; the WebSocket
sends neither. -/
theorem announced_differ (announced : Announced hub query) (current : answered hub query between = []) :
    (posStreamWs hub query between later).tail ≠ posStreamSse hub query between later := by
  obtain ⟨registerId, register, absent⟩ := announced
  obtain ⟨notice, entered, channel⟩ := enter_new absent
  rw [← register] at entered channel
  intro same
  rw [posStreamWs_tail, posStreamSse_eq, current, entered] at same
  simp only [List.nil_append, sentThrough, List.map_nil, List.foldl_nil, filter_isNews_zero] at same
  have unread : (Receiver.fresh.offer (hub.channel.publish notice).1).queue.head? =
      some (hub.channel.publish notice).1 := rfl
  obtain ⟨received, rest, hears, first⟩ : ∃ received rest,
      heard hub query between later [(hub.channel.publish notice).1] = received :: rest ∧
        (received = .event (hub.channel.publish notice).1 ∨ ∃ missed, received = .lagged missed) :=
    first_received (.inr unread)
  rw [hears, List.map_cons] at same
  have sent : .event (received.envelope hub.channel.storeId) ∈ heard hub query between later [] :=
    mem_forward (same ▸ List.mem_cons_self)
  have above : hub.channel.seq + 1 < (received.envelope hub.channel.storeId).seq :=
    heard_above [] (fun _ member => nomatch member) (by rw [channel]; exact Nat.le_refl _) sent
  rcases first with rfl | ⟨missed, rfl⟩
  · exact absurd above (Nat.lt_irrefl _)
  · exact absurd above (Nat.not_lt_zero _)

/-- A loss is told of in the server-sent stream only. -/
theorem lagged_differ (known : ¬ Announced hub query) (current : answered hub query between = [])
    {missed : Nat} (lost : .lagged missed ∈ heard hub query between later []) :
    (posStreamWs hub query between later).tail ≠ posStreamSse hub query between later := by
  intro same
  rw [posStreamWs_tail, posStreamSse_eq, current, (unannounced known).1] at same
  simp only [List.nil_append, sentThrough, List.map_nil, List.foldl_nil, filter_isNews_zero] at same
  have told : lagNotice hub.channel.storeId ∈ forward 0 (heard hub query between later []) :=
    same ▸ List.mem_map.mpr ⟨_, lost, rfl⟩
  exact absurd (heard_above [] (fun _ member => nomatch member) (Nat.zero_le _) (mem_forward told)) (Nat.not_lt_zero _)

/-- Exactly when nothing in which the endpoints differ happens do they send the same. -/
theorem agree_iff (ends : EndsCurrent hub.channel) :
    (posStreamWs hub query between later).tail = posStreamSse hub query between later ↔
      Undisturbed hub query between later := by
  by_cases announced : Announced hub query
  · have disturbed : ¬ Undisturbed hub query between later := by
      obtain ⟨registerId, register, absent⟩ := announced
      exact fun undisturbed => Bool.false_ne_true (absent.symm.trans (undisturbed.present registerId register))
    refine iff_of_false ?_ disturbed
    rcases answered_cases query between ends with ⟨current, -⟩ | ⟨behind, numbered, -⟩
    · exact announced_differ announced current
    · exact answered_differ behind numbered
  · obtain ⟨entered, channel⟩ := unannounced announced
    rcases answered_cases query between ends with ⟨current, ahead⟩ | ⟨behind, numbered, since, asked, old⟩
    · have keeps : (∃ missed, .lagged missed ∈ heard hub query between later []) ↔
          ¬ KeepsUp 0 (between.map .publish ++ later) := lagged_iff rfl
      by_cases lost : ∃ missed, .lagged missed ∈ heard hub query between later []
      · obtain ⟨missed, member⟩ := lost
        exact iff_of_false (lagged_differ announced current member)
          fun undisturbed => keeps.mp ⟨missed, member⟩ undisturbed.keepsUp
      · refine iff_of_true ?_ ⟨fun registerId register => ?_, channel ▸ ahead, not_not.mp (lost ∘ keeps.mpr)⟩
        · rw [posStreamWs_tail, posStreamSse_eq, current, entered]
          simp only [List.nil_append, sentThrough, List.map_nil, List.foldl_nil, filter_isNews_zero]
          exact forward_all _ (not_exists.mp lost)
        · by_contra absent
          exact announced ⟨registerId, register, by simpa using absent⟩
    · refine iff_of_false (answered_differ behind numbered) fun undisturbed => ?_
      exact absurd (undisturbed.current since asked) (Nat.not_le_of_lt (channel ▸ old))

end Comparison

/-- The hub of a store after whatever was published there. -/
def hubAfter (storeId : Uuid) (earlier : List Notice) (presence : List (Uuid × Nat)) : StreamHub :=
  ⟨((StoreChannel.empty storeId).publishAll earlier).2, presence⟩

theorem streams_agree_iff (storeId : Uuid) (earlier : List Notice) (presence : List (Uuid × Nat)) (query : StreamQuery)
    (between : List Notice) (later : List Activity) :
    (posStreamWs (hubAfter storeId earlier presence) query between later).tail =
        posStreamSse (hubAfter storeId earlier presence) query between later ↔
      Undisturbed (hubAfter storeId earlier presence) query between later :=
  agree_iff (publishAll_endsCurrent (by simp [EndsCurrent, StoreChannel.empty]) earlier)

def sale : Notice := ⟨.cartUpdated, .null⟩

/-- A client that has seen one of two events is sent the other one by the WebSocket only. -/
theorem replay_left_out :
    let hub := hubAfter .nil [sale, sale] []
    (posStreamWs hub ⟨none, some 1⟩ [] []).map (·.seq) = [2, 2] ∧
      (posStreamWs hub ⟨none, some 1⟩ [] []).tail.map (·.kind) = ["cart_updated"] ∧
      posStreamSse hub ⟨none, some 1⟩ [] [] = [] :=
  ⟨by decide, by decide, rfl⟩

end ApexEdge.Proofs.StreamEndpoints
