import ApexEdge.Hub.EventStream
import Mathlib.Data.List.Basic

/-! What a WebSocket client is sent while publishers do not overtake each other: the events in
the history and those that were broadcast are then the first ones of all that were numbered,
and the replay and the forwarded events join without a gap. -/

namespace ApexEdge.Proofs.StreamDelivery
open Library Payment Hub.EventStream

/-! ### Numbered events -/

/-- Events that carry the numbers after `start`, in order. -/
def Numbered (start : Nat) : List StreamEnvelope → Prop
  | [] => True
  | envelope :: rest => envelope.seq = start + 1 ∧ Numbered (start + 1) rest

section Numbered
variable {start since : Nat} {events : List StreamEnvelope}

theorem numbered_append {later : List StreamEnvelope} :
    Numbered start (events ++ later) ↔ Numbered start events ∧ Numbered (start + events.length) later := by
  induction events generalizing start with
  | nil => simp [Numbered]
  | cons envelope events ih =>
    have shift : start + 1 + events.length = start + (envelope :: events).length := by
      rw [List.length_cons]
      omega
    rw [List.cons_append, Numbered, ih, Numbered, and_assoc, shift]

theorem Numbered.take (numbered : Numbered start events) (count : Nat) : Numbered start (events.take count) :=
  (numbered_append.mp ((List.take_append_drop count events).symm ▸ numbered)).1

theorem Numbered.drop (numbered : Numbered start events) {count : Nat} (within : count ≤ events.length) :
    Numbered (start + count) (events.drop count) := by
  have rest := (numbered_append.mp ((List.take_append_drop count events).symm ▸ numbered)).2
  rwa [List.length_take_of_le within] at rest

/-- The events above a number are those after as many. -/
theorem Numbered.above (numbered : Numbered start events) :
    events.filter (since < ·.seq) = events.drop (since - start) := by
  induction events generalizing start with
  | nil => simp
  | cons envelope events ih =>
    rw [List.filter_cons, ih numbered.2, numbered.1]
    by_cases later : since < start + 1
    · have none : since - start = 0 := by omega
      have still : since - (start + 1) = 0 := by omega
      simp [later, none, still]
    · have more : since - start = since - (start + 1) + 1 := by omega
      simp [later, more]

theorem Numbered.getElem (numbered : Numbered start events) {index : Nat} {envelope : StreamEnvelope}
    (there : events[index]? = some envelope) : envelope.seq = start + index + 1 := by
  induction events generalizing start index with
  | nil => simp at there
  | cons first events ih =>
    cases index with
    | zero =>
      rw [List.getElem?_cons_zero, Option.some.injEq] at there
      exact there ▸ numbered.1
    | succ index =>
      rw [List.getElem?_cons_succ] at there
      have later := ih numbered.2 there
      omega

theorem Numbered.le (numbered : Numbered start events) {envelope : StreamEnvelope} (member : envelope ∈ events) :
    envelope.seq ≤ start + events.length := by
  obtain ⟨index, there⟩ := List.getElem?_of_mem member
  have within := (List.getElem?_eq_some_iff.mp there).1
  have number := numbered.getElem there
  omega

theorem Numbered.increasing (numbered : Numbered start events) : events.Pairwise (·.seq < ·.seq) := by
  refine List.pairwise_iff_getElem.mpr fun first second before after less => ?_
  rw [numbered.getElem (List.getElem?_eq_getElem before), numbered.getElem (List.getElem?_eq_getElem after)]
  omega

theorem take_succ_drop {index : Nat} {envelope : StreamEnvelope} (there : events[index]? = some envelope) :
    (events.take (index + 1)).drop since =
      (events.take index).drop since ++ if since ≤ index then [envelope] else [] := by
  have within : index < events.length := (List.getElem?_eq_some_iff.mp there).1
  rw [List.take_add_one, there, Option.toList_some, List.drop_append, List.length_take_of_le (Nat.le_of_lt within)]
  by_cases early : since ≤ index
  · simp [early]
  · obtain ⟨more, beyond⟩ : ∃ more, since - index = more + 1 := ⟨since - index - 1, by omega⟩
    simp [early, beyond]

/-- The first of the events that were not read yet. -/
theorem unread_cons {sent heard : Nat} {envelope : StreamEnvelope} {queue : List StreamEnvelope}
    (unread : (events.take sent).drop heard = envelope :: queue) :
    heard < sent ∧ events[heard]? = some envelope ∧ queue = (events.take sent).drop (heard + 1) := by
  have first : (events.take sent)[heard]? = some envelope := by
    rw [← List.head?_drop, unread, List.head?_cons]
  rw [List.getElem?_take] at first
  split at first
  · refine ⟨‹_›, first, ?_⟩
    rw [← List.tail_drop, unread, List.tail_cons]
  · exact nomatch first

end Numbered

/-! ### What a connection was sent -/

/-- A connection that forwards: of the events above `since`, it has sent those that it has
heard and those that the replay has covered. -/
structure Caught (issued : List StreamEnvelope) (since heard : Nat) (connection : Connection) : Prop where
  sent : connection.events.filter (since < ·.seq) = (issued.take (max heard connection.sentThrough)).drop since
  increasing : connection.events.Pairwise (·.seq < ·.seq)
  within : ∀ envelope ∈ connection.events, envelope.seq ≤ max heard connection.sentThrough
  known : connection.sentThrough ≤ issued.length

def AtPhase (issued : List StreamEnvelope) (pushed since heard : Nat) (connection : Connection) : Prop :=
  match connection.phase with
  | .greeting => connection.events = [] ∧ connection.sentThrough = 0
  | .asking asked | .reading asked => asked = since ∧ connection.events = [] ∧ connection.sentThrough = 0
  | .signalling => connection.events = []
  | .replaying rest =>
    ∃ through, heard ≤ through ∧ through ≤ pushed ∧ connection.events ++ rest = (issued.take through).drop since ∧
      ((connection.events = [] ∧ connection.sentThrough = 0) ∨
        (connection.events ≠ [] ∧ connection.sentThrough = since + connection.events.length))
  | .live => Caught issued since heard connection
  | .ended => False

/-- What holds of a client that is there and was not told to fetch a snapshot. -/
structure Served (issued : List StreamEnvelope) (pushed sent since : Nat) (connection : Connection) : Prop where
  current : connection.receiver.missed = 0
  reads : ∃ heard, heard ≤ sent ∧ connection.receiver.queue = (issued.take sent).drop heard ∧
    AtPhase issued pushed since heard connection

section Advance
variable {channel : StoreChannel} {connection : Connection} {issued : List StreamEnvelope} {pushed sent since : Nat}

theorem advance_since : (connection.advance channel).since = connection.since := by
  rw [Connection.advance]
  repeat' split
  all_goals rfl

theorem advance_isOpen : (connection.advance channel).isOpen = connection.isOpen := by
  rw [Connection.advance]
  repeat' split
  all_goals rfl

/-- A client that is there is told as soon as its handler comes to it. -/
theorem advance_signal (there : connection.isOpen = true) (untold : (connection.advance channel).signal = none) :
    connection.signal = none ∧ connection.phase ≠ .signalling := by
  rw [Connection.advance] at untold
  repeat' split at untold
  all_goals simp_all

/-- What the history holds: the last of the events that were put there. -/
def Kept (channel : StoreChannel) (issued : List StreamEnvelope) (pushed : Nat) : Prop :=
  channel.history = (issued.take pushed).drop (pushed - historyCapacity)

/-- The history answers with all the events above `since` that were put there, or not at all. -/
theorem retained_eq (since : Nat) (numbered : Numbered 0 issued) (within : pushed ≤ issued.length)
    (kept : Kept channel issued pushed) :
    retainedSince channel.history since = .replay ((issued.take pushed).drop since) ∨
      retainedSince channel.history since = .resnapshotRequired := by
  rw [Kept] at kept
  generalize historyCapacity = capacity at kept
  have tail : Numbered (0 + (pushed - capacity)) channel.history := by
    rw [kept]
    exact (numbered.take pushed).drop (by rw [List.length_take_of_le within]; omega)
  rw [retainedSince]
  cases first : channel.history.head? with
  | none => exact .inr rfl
  | some earliest =>
    dsimp only
    split
    · rename_i retained
      rw [List.head?_eq_getElem?] at first
      rw [tail.getElem first] at retained
      rw [tail.above, kept, List.drop_drop]
      have joined : pushed - capacity + (since - (0 + (pushed - capacity))) = since := by omega
      exact .inl (by rw [joined])
    · exact .inr rfl

/-- One event more is heard. -/
theorem Caught.hear {heard : Nat} (caught : Caught issued since heard connection) (receiver : Receiver)
    {envelope : StreamEnvelope} (there : issued[heard]? = some envelope) (next : envelope.seq = heard + 1) :
    Caught issued since (heard + 1)
      (if isNews connection.sentThrough envelope then
        { connection with receiver, events := connection.events ++ [envelope] }
      else { connection with receiver }) := by
  have counts : isNews connection.sentThrough envelope = true ↔ connection.sentThrough ≤ heard := by
    rw [isNews, decide_eq_true_eq, next]
    omega
  split
  · rename_i news
    have covered := counts.mp news
    have now : max heard connection.sentThrough = heard := Nat.max_eq_left covered
    have after : max (heard + 1) connection.sentThrough = heard + 1 := Nat.max_eq_left (Nat.le_succ_of_le covered)
    refine ⟨?_, ?_, ?_, caught.known⟩
    · dsimp only
      rw [List.filter_append, caught.sent, now, after, take_succ_drop there]
      congr 1
      by_cases above : since ≤ heard
      · have kept : since < envelope.seq := by omega
        simp [above, kept]
      · have dropped : ¬ since < envelope.seq := by omega
        simp [above, dropped]
    · refine List.pairwise_append.mpr ⟨caught.increasing, List.pairwise_singleton _ _, ?_⟩
      intro before member last same
      have small := caught.within before member
      rw [List.mem_singleton.mp same]
      omega
    · intro other member
      dsimp only at member ⊢
      rcases List.mem_append.mp member with old | last
      · have small := caught.within other old
        omega
      · rw [List.mem_singleton.mp last]
        omega
  · rename_i old
    have covered : ¬ connection.sentThrough ≤ heard := fun less => old (counts.mpr less)
    have same : max (heard + 1) connection.sentThrough = max heard connection.sentThrough := by omega
    refine ⟨?_, caught.increasing, ?_, caught.known⟩
    · dsimp only
      rw [same]
      exact caught.sent
    · intro other member
      dsimp only
      rw [same]
      exact caught.within other member

/-- The replay is over. -/
theorem Caught.replayed {heard through : Nat} (numbered : Numbered 0 issued) (within : through ≤ issued.length)
    (reached : heard ≤ through) (events : connection.events = (issued.take through).drop since)
    (counts : (connection.events = [] ∧ connection.sentThrough = 0) ∨
      (connection.events ≠ [] ∧ connection.sentThrough = since + connection.events.length)) :
    Caught issued since heard connection := by
  have length : connection.events.length = through - since := by
    rw [events, List.length_drop, List.length_take_of_le within]
  rcases counts with ⟨none, zero⟩ | ⟨some_sent, covered⟩
  · have early : through ≤ since := by
      rw [none, List.length_nil] at length
      omega
    have nothing : (issued.take (max heard connection.sentThrough)).drop since = [] := by
      refine List.drop_eq_nil_of_le ?_
      rw [List.length_take, zero]
      omega
    exact ⟨by rw [none, nothing, List.filter_nil], by simp [none], by simp [none], by simp [zero]⟩
  · have sent : connection.sentThrough = through := by
      have positive := List.length_pos_iff.mpr some_sent
      omega
    have above : connection.events = (issued.take through).filter (since < ·.seq) := by
      rw [events, (numbered.take through).above, Nat.sub_zero]
    rw [← sent] at reached within
    refine ⟨?_, ?_, ?_, within⟩
    · rw [Nat.max_eq_right reached, sent, ← events]
      refine List.filter_eq_self.mpr fun envelope member => ?_
      rw [above] at member
      exact (List.mem_filter.mp member).2
    · exact (numbered.take through).increasing.sublist (above ▸ List.filter_sublist)
    · intro envelope member
      rw [above] at member
      have small := (numbered.take through).le (List.mem_filter.mp member).1
      rw [List.length_take] at small
      omega

/-- The next event of the replay has the next number. -/
theorem replay_number {through : Nat} (numbered : Numbered 0 issued) {envelope : StreamEnvelope}
    {rest : List StreamEnvelope} (joined : connection.events ++ envelope :: rest = (issued.take through).drop since) :
    envelope.seq = since + connection.events.length + 1 := by
  have length := congrArg List.length joined
  simp only [List.length_append, List.length_cons, List.length_drop] at length
  have tail := (numbered.take through).drop (show since ≤ (issued.take through).length by omega)
  have there : ((issued.take through).drop since)[connection.events.length]? = some envelope := by
    rw [← joined, List.getElem?_append_right (Nat.le_refl _), Nat.sub_self, List.getElem?_cons_zero]
  have number := tail.getElem there
  omega

/-- Whatever its handler does next, the client stays served, or is told. -/
theorem Served.advance (numbered : Numbered 0 issued) (counted : channel.seq = issued.length)
    (bounds : sent ≤ pushed) (within : pushed ≤ issued.length) (kept : Kept channel issued pushed)
    (there : connection.isOpen = true) (asked : connection.since = some since)
    (untold : (connection.advance channel).signal = none) (served : Served issued pushed sent since connection) :
    Served issued pushed sent since (connection.advance channel) := by
  obtain ⟨current, heard, below, queued, stands⟩ := served
  rw [AtPhase] at stands
  have unsignalled := (advance_signal there untold).2
  rw [Connection.advance]
  cases phase : connection.phase with
  | greeting =>
    rw [phase] at stands
    simp only [there, asked, if_true]
    exact ⟨current, heard, below, queued, rfl, stands⟩
  | asking other =>
    rw [phase] at stands
    obtain ⟨rfl, none, zero⟩ := stands
    refine ⟨current, heard, below, queued, ?_⟩
    dsimp only
    split
    · rename_i ahead
      have nothing : (issued.take (max heard connection.sentThrough)).drop other = [] := by
        refine List.drop_eq_nil_of_le ?_
        rw [List.length_take]
        omega
      exact ⟨by simp only [none, List.filter_nil, nothing], by simp [none], by simp [none], by simp [zero]⟩
    · exact ⟨rfl, none, zero⟩
  | reading other =>
    rw [phase] at stands
    obtain ⟨rfl, none, zero⟩ := stands
    rcases retained_eq other numbered within kept with replayed | lost
    · dsimp only
      rw [replayed]
      exact ⟨current, heard, below, queued, pushed, Nat.le_trans below bounds, Nat.le_refl _, by simp [none],
        .inl ⟨none, zero⟩⟩
    · dsimp only
      rw [lost]
      exact ⟨current, heard, below, queued, none⟩
  | signalling => exact absurd phase unsignalled
  | replaying rest =>
    rw [phase] at stands
    obtain ⟨through, reached, covered, joined, counts⟩ := stands
    cases rest with
    | nil =>
      rw [List.append_nil] at joined
      exact ⟨current, heard, below, queued,
        Caught.replayed numbered (Nat.le_trans covered within) reached joined counts⟩
    | cons envelope rest =>
      have number := replay_number numbered joined
      simp only [there, if_true]
      refine ⟨current, heard, below, queued, through, reached, covered, ?_, .inr ⟨by simp, ?_⟩⟩
      · rw [List.append_assoc, List.singleton_append]
        exact joined
      · rw [List.length_append, List.length_singleton, number]
        rcases counts with ⟨none, zero⟩ | ⟨-, sum⟩
        · rw [none, zero, List.length_nil]
          dsimp only
          omega
        · dsimp only
          omega
  | live =>
    rw [phase] at stands
    cases unread : connection.receiver.queue with
    | nil =>
      have idle : connection.receiver.recv = none := by rw [Receiver.recv, if_pos current, unread]
      simp only [idle]
      exact ⟨current, heard, below, queued, by rw [AtPhase, phase]; exact stands⟩
    | cons envelope queue =>
      have takes : connection.receiver.recv = some (.event envelope, { connection.receiver with queue }) := by
        rw [Receiver.recv, if_pos current, unread]
      obtain ⟨early, there', rest⟩ := unread_cons (queued ▸ unread)
      have number : envelope.seq = heard + 1 := by
        have counted := numbered.getElem there'
        omega
      have hears := stands.hear { connection.receiver with queue } there' number
      dsimp only
      rw [takes]
      dsimp only
      by_cases news : isNews connection.sentThrough envelope = true
      · rw [if_pos news, phase] at hears
        rw [if_pos news, if_pos there]
        exact ⟨current, heard + 1, early, rest, hears⟩
      · rw [if_neg news, phase] at hears
        rw [if_neg news]
        exact ⟨current, heard + 1, early, rest, hears⟩
  | ended =>
    rw [phase] at stands
    exact stands.elim

end Advance

/-! ### Runs in which no publisher overtakes another -/

/-- The first `pushed` of the numbered events are in the history, the first `sent` of them were
sent to the receivers, and the publishers of the others are in order. -/
structure Stands (room : StreamRoom) (pushed sent : Nat) : Prop where
  numbered : Numbered 0 room.issued
  counted : room.channel.seq = room.issued.length
  bounds : sent ≤ pushed
  within : pushed ≤ room.issued.length
  kept : Kept room.channel room.issued pushed
  publishing : room.publishing =
    ((room.issued.take pushed).drop sent).map .remembered ++ (room.issued.drop pushed).map .numbered
  served : ∀ connection ∈ room.connections, connection.isOpen = true → connection.signal = none →
    ∀ since, connection.since = some since → Served room.issued pushed sent since connection

/-- A publisher reaches the history only after those with lower numbers and the receivers only
as the first one, and then finds room at every client that is there and was not told to fetch
a snapshot. -/
def InTurn (room : StreamRoom) : StreamStep → Prop
  | .publisher index =>
    match room.publishing[index]? with
    | none => True
    | some (.numbered _) => ∀ earlier ∈ room.publishing.take index, earlier.isRemembered = true
    | some (.remembered _) =>
      index = 0 ∧ ∀ connection ∈ room.connections, connection.isOpen = true → connection.signal = none →
        connection.receiver.queue.length < channelCapacity
  | _ => True

section Steps
variable {room : StreamRoom} {pushed sent : Nat}

theorem opened_stands (storeId : Uuid) : Stands (.opened storeId) 0 0 :=
  ⟨trivial, rfl, Nat.le_refl _, Nat.le_refl _, rfl, rfl, fun _ member => nomatch member⟩

/-- What is sent to a client depends on the numbered events only as far as they were pushed. -/
theorem Served.issue {issued : List StreamEnvelope} {since : Nat} {connection : Connection} (bounds : sent ≤ pushed)
    (within : pushed ≤ issued.length) (served : Served issued pushed sent since connection) (later : List StreamEnvelope) :
    Served (issued ++ later) pushed sent since connection := by
  obtain ⟨current, heard, below, queued, stands⟩ := served
  have same : ∀ count ≤ issued.length, (issued ++ later).take count = issued.take count :=
    fun count few => List.take_append_of_le_length few
  refine ⟨current, heard, below, by rw [same sent (Nat.le_trans bounds within), queued], ?_⟩
  rw [AtPhase] at stands ⊢
  split <;> rename_i phase <;> rw [phase] at stands
  · exact stands
  · exact stands
  · exact stands
  · exact stands
  · obtain ⟨through, reached, covered, joined, counts⟩ := stands
    exact ⟨through, reached, covered, by rw [same through (Nat.le_trans covered within), joined], counts⟩
  · have few : max heard connection.sentThrough ≤ issued.length :=
      Nat.max_le.mpr ⟨by omega, stands.known⟩
    exact ⟨by rw [same _ few, stands.sent], stands.increasing, stands.within,
      by rw [List.length_append]; exact Nat.le_add_right_of_le stands.known⟩
  · exact stands

theorem Served.push {issued : List StreamEnvelope} {since : Nat} {connection : Connection}
    (served : Served issued pushed sent since connection) : Served issued (pushed + 1) sent since connection := by
  obtain ⟨current, heard, below, queued, stands⟩ := served
  refine ⟨current, heard, below, queued, ?_⟩
  rw [AtPhase] at stands ⊢
  split <;> rename_i phase <;> rw [phase] at stands
  case h_5 =>
    obtain ⟨through, reached, covered, rest⟩ := stands
    exact ⟨through, reached, Nat.le_succ_of_le covered, rest⟩
  all_goals exact stands

/-- Nothing of this is about the receiver. -/
theorem AtPhase.receiver {issued : List StreamEnvelope} {since heard : Nat} {connection : Connection}
    (stands : AtPhase issued pushed since heard connection) (receiver : Receiver) :
    AtPhase issued pushed since heard { connection with receiver } := by
  rw [AtPhase] at stands ⊢
  dsimp only
  split <;> rename_i phase <;> rw [phase] at stands
  case h_6 => exact ⟨stands.sent, stands.increasing, stands.within, stands.known⟩
  all_goals exact stands

theorem Served.send {issued : List StreamEnvelope} {since : Nat} {connection : Connection} {envelope : StreamEnvelope}
    (next : issued[sent]? = some envelope) (room : connection.receiver.queue.length < channelCapacity)
    (served : Served issued pushed sent since connection) :
    Served issued pushed (sent + 1) since { connection with receiver := connection.receiver.offer envelope } := by
  obtain ⟨current, heard, below, queued, stands⟩ := served
  refine ⟨?_, heard, Nat.le_succ_of_le below, ?_, stands.receiver _⟩
  · rw [Receiver.offer, if_pos room]
    exact current
  · rw [Receiver.offer, if_pos room, take_succ_drop next, if_pos below]
    exact congrArg (· ++ [envelope]) queued

theorem subscribed_served (issued : List StreamEnvelope) (since : Nat) :
    Served issued pushed sent since (.subscribed (some since)) := by
  refine ⟨rfl, sent, Nat.le_refl _, ?_, rfl, rfl⟩
  rw [List.drop_eq_nil_of_le (by rw [List.length_take]; omega)]
  rfl

/-- The publisher that moves in its turn is the first that has not reached the history, or the
first of all. -/
theorem Stands.publisher {index : Nat} {publisher : Publishing} (stands : Stands room pushed sent)
    (there : room.publishing[index]? = some publisher) (turn : InTurn room (.publisher index)) :
    (∃ envelope, publisher = .numbered envelope ∧ room.issued[pushed]? = some envelope ∧ index = pushed - sent) ∨
    (∃ envelope, publisher = .remembered envelope ∧ room.issued[sent]? = some envelope ∧ sent < pushed ∧ index = 0) := by
  have order := stands.publishing
  generalize shown : ((room.issued.take pushed).drop sent).map Publishing.remembered = first at order
  have length : first.length = pushed - sent := by
    rw [← shown, List.length_map, List.length_drop, List.length_take_of_le stands.within]
  rw [InTurn, there] at turn
  rw [order] at there
  rcases Nat.lt_or_ge index first.length with early | late
  · rw [List.getElem?_append_left early, ← shown, List.getElem?_map, Option.map_eq_some_iff] at there
    obtain ⟨envelope, found, rfl⟩ := there
    obtain ⟨rfl, -⟩ := turn
    rw [List.getElem?_drop, Nat.add_zero, List.getElem?_take_of_lt (by omega)] at found
    exact .inr ⟨envelope, rfl, found, by omega, rfl⟩
  · rw [List.getElem?_append_right late, List.getElem?_map, Option.map_eq_some_iff] at there
    obtain ⟨envelope, found, rfl⟩ := there
    have only : index = first.length := by
      by_contra other
      have inside := (List.getElem?_eq_some_iff.mp found).1
      have overtaken : (room.publishing.take index)[first.length]? =
          some (.numbered ((room.issued.drop pushed)[0])) := by
        rw [List.getElem?_take_of_lt (by omega), order, List.getElem?_append_right (Nat.le_refl _), Nat.sub_self,
          List.getElem?_map, List.getElem?_eq_getElem (by omega)]
        rfl
      exact Bool.false_ne_true (turn _ (List.mem_of_getElem? overtaken))
    subst only
    rw [Nat.sub_self, List.getElem?_drop, Nat.add_zero] at found
    exact .inl ⟨envelope, rfl, found, length⟩

theorem Kept.remember {channel : StoreChannel} {issued : List StreamEnvelope} {envelope : StreamEnvelope}
    (kept : Kept channel issued pushed) (next : issued[pushed]? = some envelope) :
    Kept (channel.remember envelope) issued (pushed + 1) := by
  have within : pushed < issued.length := (List.getElem?_eq_some_iff.mp next).1
  have length : channel.history.length = pushed - (pushed - historyCapacity) := by
    rw [kept, List.length_drop, List.length_take_of_le (Nat.le_of_lt within)]
  rw [Kept] at kept ⊢
  rw [StoreChannel.remember, take_succ_drop next]
  have positive : 0 < historyCapacity := by decide
  generalize historyCapacity = capacity at kept length positive ⊢
  dsimp only
  rw [length]
  by_cases full : pushed - (pushed - capacity) = capacity
  · have later : pushed + 1 - capacity = pushed - capacity + 1 := by omega
    rw [if_pos full, kept, List.tail_drop, later, if_pos (by omega)]
  · have none : pushed - capacity = 0 := by omega
    have still : pushed + 1 - capacity = 0 := by omega
    rw [if_neg full, kept, none, still, if_pos (Nat.zero_le _)]

theorem mem_modify {α : Type} {items : List α} {index : Nat} {change : α → α} {item : α}
    (member : item ∈ items.modify index change) : item ∈ items ∨ ∃ before ∈ items, item = change before := by
  obtain ⟨place, found⟩ := List.getElem?_of_mem member
  rw [List.getElem?_modify] at found
  split at found
  · obtain ⟨before, there, rfl⟩ := Option.map_eq_some_iff.mp found
    exact .inr ⟨before, List.mem_of_getElem? there, rfl⟩
  · exact .inl (List.mem_of_getElem? (by simpa using found))

/-- Numbering an event. -/
theorem Stands.publish (stands : Stands room pushed sent) (notice : Notice) :
    Stands (room.apply (.publish notice)) pushed sent := by
  have take : ∀ later, (room.issued ++ later).take pushed = room.issued.take pushed :=
    fun later => List.take_append_of_le_length stands.within
  refine ⟨?_, ?_, stands.bounds, ?_, ?_, ?_, ?_⟩
  · refine numbered_append.mpr ⟨stands.numbered, ?_, trivial⟩
    rw [Nat.zero_add, ← stands.counted]
  · simp only [StreamRoom.apply, StoreChannel.allocate, List.length_append, List.length_singleton, stands.counted]
  · rw [StreamRoom.apply, List.length_append]
    exact Nat.le_add_right_of_le stands.within
  · simp only [StreamRoom.apply, StoreChannel.allocate, Kept, take]
    exact stands.kept
  · simp only [StreamRoom.apply, take, List.drop_append_of_le_length stands.within, List.map_append, List.map_cons,
      List.map_nil, stands.publishing, List.append_assoc]
  · intro connection member there untold since asked
    exact (stands.served connection member there untold since asked).issue stands.bounds stands.within _

/-- Putting an event into the history. -/
theorem Stands.remember {envelope : StreamEnvelope} (stands : Stands room pushed sent)
    (next : room.issued[pushed]? = some envelope)
    (there : room.publishing[pushed - sent]? = some (.numbered envelope)) :
    Stands (room.apply (.publisher (pushed - sent))) (pushed + 1) sent := by
  have within : pushed < room.issued.length := (List.getElem?_eq_some_iff.mp next).1
  have became : room.apply (.publisher (pushed - sent)) =
      { room with
        channel := room.channel.remember envelope
        publishing := room.publishing.set (pushed - sent) (.remembered envelope) } := by
    rw [StreamRoom.apply, there]
  rw [became]
  refine ⟨stands.numbered, stands.counted, Nat.le_succ_of_le stands.bounds, within, stands.kept.remember next, ?_, ?_⟩
  · have length : (((room.issued.take pushed).drop sent).map Publishing.remembered).length = pushed - sent := by
      rw [List.length_map, List.length_drop, List.length_take_of_le stands.within]
    dsimp only
    rw [stands.publishing, List.set_append_right _ _ (Nat.le_of_eq length), length, Nat.sub_self,
      List.drop_eq_getElem_cons within, List.map_cons, List.set_cons_zero, take_succ_drop next,
      if_pos stands.bounds, List.map_append, List.append_assoc]
    rfl
  · intro connection member open_ untold since asked
    exact (stands.served connection member open_ untold since asked).push

/-- Sending an event to the receivers. -/
theorem Stands.send {envelope : StreamEnvelope} (stands : Stands room pushed sent)
    (next : room.issued[sent]? = some envelope) (early : sent < pushed)
    (there : room.publishing[0]? = some (.remembered envelope))
    (roomy : ∀ connection ∈ room.connections, connection.isOpen = true → connection.signal = none →
      connection.receiver.queue.length < channelCapacity) :
    Stands (room.apply (.publisher 0)) pushed (sent + 1) := by
  have became : room.apply (.publisher 0) =
      { room with
        publishing := room.publishing.eraseIdx 0
        connections := room.connections.map fun connection =>
          { connection with receiver := connection.receiver.offer envelope } } := by
    rw [StreamRoom.apply, there]
  have within : sent < (room.issued.take pushed).length := by
    rw [List.length_take_of_le stands.within]
    exact early
  rw [became]
  refine ⟨stands.numbered, stands.counted, early, stands.within, stands.kept, ?_, ?_⟩
  · dsimp only
    rw [stands.publishing, List.drop_eq_getElem_cons within]
    rfl
  · intro connection member there untold since asked
    obtain ⟨before, old, rfl⟩ := List.mem_map.mp member
    exact (stands.served before old there untold since asked).send next (roomy before old there untold)

/-- Whatever happens next, in its turn. -/
theorem Stands.apply {step : StreamStep} (stands : Stands room pushed sent) (turn : InTurn room step) :
    ∃ pushed sent, Stands (room.apply step) pushed sent := by
  cases step with
  | publish notice => exact ⟨pushed, sent, stands.publish notice⟩
  | publisher index =>
    cases there : room.publishing[index]? with
    | none =>
      have same : room.apply (.publisher index) = room := by rw [StreamRoom.apply, there]
      exact ⟨pushed, sent, by rwa [same]⟩
    | some publisher =>
      rcases stands.publisher there turn with ⟨envelope, rfl, next, rfl⟩ | ⟨envelope, rfl, next, early, rfl⟩
      · exact ⟨pushed + 1, sent, stands.remember next there⟩
      · rw [InTurn, there] at turn
        exact ⟨pushed, sent + 1, stands.send next early there turn.2⟩
  | connect since =>
    refine ⟨pushed, sent, stands.numbered, stands.counted, stands.bounds, stands.within, stands.kept,
      stands.publishing, ?_⟩
    intro connection member there untold asked same
    rcases List.mem_append.mp member with old | new
    · exact stands.served connection old there untold asked same
    · rw [List.mem_singleton.mp new] at same ⊢
      exact (show since = some asked from same) ▸ subscribed_served room.issued asked
  | client index =>
    refine ⟨pushed, sent, stands.numbered, stands.counted, stands.bounds, stands.within, stands.kept,
      stands.publishing, ?_⟩
    intro connection member there untold since asked
    rcases mem_modify member with old | ⟨before, old, rfl⟩
    · exact stands.served connection old there untold since asked
    · rw [advance_isOpen] at there
      rw [advance_since] at asked
      exact (stands.served before old there (advance_signal there untold).1 since asked).advance stands.numbered
        stands.counted stands.bounds stands.within stands.kept there asked untold
  | disconnect index =>
    refine ⟨pushed, sent, stands.numbered, stands.counted, stands.bounds, stands.within, stands.kept,
      stands.publishing, ?_⟩
    intro connection member there untold since asked
    rcases mem_modify member with old | ⟨before, old, rfl⟩
    · exact stands.served connection old there untold since asked
    · exact nomatch there
  | restart => exact ⟨0, 0, opened_stands _⟩

def InOrder (room : StreamRoom) : Prop := ∃ pushed sent, Stands room pushed sent

theorem InOrder.apply {step : StreamStep} (ordered : InOrder room) (turn : InTurn room step) :
    InOrder (room.apply step) := by
  obtain ⟨pushed, sent, stands⟩ := ordered
  exact stands.apply turn

end Steps

/-- No publisher is under way, and the handler of the connection has nothing to do. -/
def Settled (room : StreamRoom) (connection : Connection) : Prop :=
  room.publishing = [] ∧ connection.isIdle = true

/-- The events above `since`, in the order of their numbers and each once; when all is
settled, all of them. -/
structure Delivered (room : StreamRoom) (since : Nat) (connection : Connection) : Prop where
  increasing : connection.events.Pairwise (·.seq < ·.seq)
  complete : Settled room connection →
    connection.events.filter (since < ·.seq) = room.issued.filter (since < ·.seq)

theorem Served.delivered {room : StreamRoom} {pushed sent since : Nat} {connection : Connection}
    (stands : Stands room pushed sent) (served : Served room.issued pushed sent since connection) :
    Delivered room since connection := by
  obtain ⟨current, heard, below, queued, phased⟩ := served
  rw [AtPhase] at phased
  cases phase : connection.phase with
  | ended =>
    rw [phase] at phased
    exact phased.elim
  | live =>
    rw [phase] at phased
    refine ⟨phased.increasing, fun ⟨quiet, idle⟩ => ?_⟩
    have unread : connection.receiver.queue = [] := by
      rw [Connection.isIdle, phase] at idle
      dsimp only at idle
      rw [Receiver.recv, if_pos current] at idle
      split at idle
      · assumption
      · exact nomatch idle
    have sent_all : sent = room.issued.length := by
      have none := congrArg List.length (quiet ▸ stands.publishing)
      simp only [List.length_nil, List.length_append, List.length_map, List.length_drop,
        List.length_take_of_le stands.within] at none
      have bounds := stands.bounds
      have within := stands.within
      omega
    have heard_all : sent ≤ heard := by
      have none := congrArg List.length (queued.symm.trans unread)
      rw [List.length_drop, List.length_take, List.length_nil] at none
      omega
    rw [phased.sent, List.take_of_length_le (by omega), stands.numbered.above, Nat.sub_zero]
  | replaying rest =>
    rw [phase] at phased
    obtain ⟨through, -, -, joined, -⟩ := phased
    refine ⟨?_, fun ⟨_, idle⟩ => by simp [Connection.isIdle, phase] at idle⟩
    have whole : (connection.events ++ rest).Pairwise (·.seq < ·.seq) := by
      rw [joined]
      exact (stands.numbered.take through).increasing.sublist (List.drop_sublist _ _)
    exact (List.pairwise_append.mp whole).1
  | greeting | asking | reading | signalling =>
    rw [phase] at phased
    refine ⟨?_, fun ⟨_, idle⟩ => by simp [Connection.isIdle, phase] at idle⟩
    simp [phased]

/-- In every run in which publishers do not overtake each other and no client's receiver is
full when an event is sent to it, a client that is there is told to fetch a snapshot or is
sent each event above its `since` value once and in order. -/
theorem every_event_delivered (storeId : Uuid) (steps : List StreamStep)
    (turns : Sequence.Meets StreamRoom.apply InTurn (.opened storeId) steps) :
    ∀ connection ∈ (Sequence.run StreamRoom.apply (.opened storeId) steps).connections, connection.isOpen = true →
      ∀ since, connection.since = some since → connection.signal.isSome = true ∨
        Delivered (Sequence.run StreamRoom.apply (.opened storeId) steps) since connection := by
  intro connection member there since asked
  have ordered : InOrder (Sequence.run StreamRoom.apply (.opened storeId) steps) :=
    Sequence.keeps (fun _ _ => InOrder.apply) ⟨0, 0, opened_stands storeId⟩ turns
  obtain ⟨pushed, sent, stands⟩ := ordered
  cases signal : connection.signal with
  | some told => exact .inl rfl
  | none => exact .inr ((stands.served connection member there signal since asked).delivered stands)

/-! ### Handlers come to rest -/

/-- After some steps the handler has nothing to do, when nothing more is sent to its receiver. -/
def Settles (channel : StoreChannel) (connection : Connection) : Prop :=
  ∃ count, ((Connection.advance channel)^[count] connection).isIdle = true

section Settling
variable {channel : StoreChannel} {connection : Connection}

theorem settles_next (next : Settles channel (connection.advance channel)) : Settles channel connection :=
  next.elim fun count idle => ⟨count + 1, idle⟩

theorem settles_ended (phase : connection.phase = .ended) : Settles channel connection :=
  ⟨0, by rw [Function.iterate_zero_apply, Connection.isIdle, phase]⟩

theorem settles_live (phase : connection.phase = .live) : Settles channel connection := by
  generalize unread : connection.receiver.queue = queue
  induction queue generalizing connection with
  | nil =>
    by_cases current : connection.receiver.missed = 0
    · exact ⟨0, by simp [Connection.isIdle, phase, Receiver.recv, current, unread]⟩
    · exact settles_next (settles_ended (by simp [Connection.advance, phase, Receiver.recv, current]))
  | cons envelope queue ih =>
    refine settles_next ?_
    by_cases current : connection.receiver.missed = 0
    · rw [Connection.advance, phase]
      simp only [Receiver.recv, current, unread, if_true]
      split
      · split
        · exact ih rfl rfl
        · exact settles_ended rfl
      · exact ih rfl rfl
    · exact settles_ended (by simp [Connection.advance, phase, Receiver.recv, current])

theorem settles_replaying {rest : List StreamEnvelope} (phase : connection.phase = .replaying rest) :
    Settles channel connection := by
  induction rest generalizing connection with
  | nil => exact settles_next (settles_live (by simp [Connection.advance, phase]))
  | cons envelope rest ih =>
    refine settles_next ?_
    by_cases there : connection.isOpen = true
    · exact ih (by simp [Connection.advance, phase, there])
    · exact settles_ended (by simp [Connection.advance, phase, there])

theorem settles_signalling (phase : connection.phase = .signalling) : Settles channel connection :=
  settles_next (settles_live (by simp [Connection.advance, phase]))

theorem settles_reading {since : Nat} (phase : connection.phase = .reading since) : Settles channel connection := by
  refine settles_next ?_
  cases kept : retainedSince channel.history since with
  | replay events => exact settles_replaying (by simp only [Connection.advance, phase, kept]; rfl)
  | resnapshotRequired => exact settles_signalling (by simp only [Connection.advance, phase, kept])

theorem settles_asking {since : Nat} (phase : connection.phase = .asking since) : Settles channel connection := by
  refine settles_next ?_
  by_cases current : channel.seq ≤ since
  · exact settles_live (by simp only [Connection.advance, phase, if_pos current])
  · exact settles_reading (by simp only [Connection.advance, phase, if_neg current]; rfl)

theorem handler_settles (channel : StoreChannel) (connection : Connection) : Settles channel connection := by
  cases phase : connection.phase with
  | greeting =>
    refine settles_next ?_
    by_cases there : connection.isOpen = true
    · cases asked : connection.since with
      | none => exact settles_live (by simp [Connection.advance, phase, there, asked])
      | some since => exact settles_asking (by simp only [Connection.advance, phase, there, asked, if_true]; rfl)
    · exact settles_ended (by simp [Connection.advance, phase, there])
  | asking since => exact settles_asking phase
  | reading since => exact settles_reading phase
  | signalling => exact settles_signalling phase
  | replaying rest => exact settles_replaying phase
  | live => exact settles_live phase
  | ended => exact settles_ended phase

end Settling

/-! ### Runs -/

instance (room : StreamRoom) : (step : StreamStep) → Decidable (InTurn room step)
  | .publisher index => by
    unfold InTurn
    dsimp only
    split <;> infer_instance
  | .publish _ | .connect _ | .client _ | .disconnect _ | .restart => isTrue trivial

def priced : Notice := ⟨.priceChanged, .null⟩

/-- Two publishers take turns while a client that has seen the first event connects. -/
def orderly : List StreamStep :=
  [.publish priced, .publisher 0, .publisher 0, .publish priced, .publish priced, .connect (some 1), .publisher 0,
    .client 0, .client 0, .publisher 0, .client 0, .publisher 0, .client 0, .client 0, .publisher 0, .client 0, .client 0]

theorem orderly_delivered :
    ∃ connection, (Sequence.run StreamRoom.apply (.opened .nil) orderly).connections[0]? = some connection ∧
      Delivered (Sequence.run StreamRoom.apply (.opened .nil) orderly) 1 connection := by
  obtain ⟨connection, first, isOpen, since, unsignalled⟩ :
      ∃ connection, (Sequence.run StreamRoom.apply (.opened .nil) orderly).connections[0]? = some connection ∧
        connection.isOpen = true ∧ connection.since = some 1 ∧ connection.signal.isSome = false :=
    ⟨_, rfl, rfl, rfl, rfl⟩
  have delivered := every_event_delivered .nil orderly (by decide) connection (List.mem_of_getElem? first) isOpen 1 since
  exact ⟨connection, first, delivered.resolve_left (by simp [unsignalled])⟩

/-- The publisher of the third event overtakes that of the second one, and the client is sent
the third from the history: the second is at no time above what it was sent. -/
def overtaking : List StreamStep :=
  [.publish priced, .publisher 0, .publisher 0, .publish priced, .publish priced, .publisher 1, .connect (some 1),
    .client 0, .client 0, .client 0, .client 0, .client 0, .publisher 0, .publisher 0, .publisher 0, .client 0, .client 0]

theorem second_event_lost :
    let room := Sequence.run StreamRoom.apply (.opened .nil) overtaking
    room.issued.map (·.seq) = [1, 2, 3] ∧ room.publishing.length = 0 ∧
      room.connections.map (fun connection => (connection.since, connection.isOpen, connection.isIdle)) =
        [(some 1, true, true)] ∧
      room.connections.map (fun connection => (connection.signal.isSome, connection.events.map (·.seq))) =
        [(false, [3])] := by
  decide

end ApexEdge.Proofs.StreamDelivery
