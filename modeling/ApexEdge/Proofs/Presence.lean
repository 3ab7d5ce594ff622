import ApexEdge.Hub.PresenceRoom
import Mathlib.Data.Finset.Insert

/-! The counters count open connections, and the latest presence event lists the registers
that have one, as long as no event carries an older list than what is to be the latest. -/

namespace ApexEdge.Proofs.Presence
open Library Library.Replica Payment Hub.Presence PresenceRoom

/-- What a connection has ahead of it: to read who is present, and to publish it. -/
def announcer (connection : PresenceConnection) : Announcer Unit (Finset Uuid) :=
  match connection.phase with
  | .entering | .leaving => ⟨[()], []⟩
  | .entered present | .left present => ⟨[], [((), present)]⟩
  | .listening | .closed => .idle

def announcers (connections : List PresenceConnection) : Multiset (Announcer Unit (Finset Uuid)) :=
  (connections.map announcer : List _)

/-- Who is present now. -/
def source (room : PresenceRoom) : Unit → Option (Finset Uuid) := fun _ => some (presentRegisters room.counts)

/-- Another connection will still read who is present, or publish what is so now. -/
def InHand (room : PresenceRoom) (index : Nat) : Prop :=
  Covered (announcers (room.connections.eraseIdx index)) (source room) ()

instance (room : PresenceRoom) (index : Nat) : Decidable (InHand room index) := inferInstanceAs (Decidable (Covered ..))

/-- No counter overflows, and a list that is published is what is so now, unless another
connection will publish. -/
def inOrder (room : PresenceRoom) (step : PresenceStep) : Prop :=
  match step with
  | .connect registerId => (valueOf room.counts registerId).getD 0 + 1 < 2 ^ 32
  | .advance index =>
    match room.connections[index]? with
    | some ⟨_, .entered present⟩ | some ⟨_, .left present⟩ =>
      present = presentRegisters room.counts ∨ InHand room index
    | _ => True
  | _ => True

instance (room : PresenceRoom) (step : PresenceStep) : Decidable (inOrder room step) := by
  unfold inOrder
  split
  · infer_instance
  · split <;> infer_instance
  · infer_instance

/-- The list of the latest event. -/
def latest (issued : List PresenceEvent) : Finset Uuid := (issued.getLast?.map PresenceEvent.present).getD ∅

structure Announced (room : PresenceRoom) : Prop where
  counted : ∀ registerId, (valueOf room.counts registerId).getD 0 = openConnections room registerId
  positive : ∀ registerId, valueOf room.counts registerId ≠ some 0
  numbered : ∀ event ∈ room.issued, event.seq ≤ room.seq
  ordered : room.issued.Pairwise (·.seq < ·.seq)
  tracks : Tracks (fun _ => True) [((), latest room.issued)] (source room) (announcers room.connections)

section Counts
variable {counts : PresenceCounts} {registerId : Uuid}

theorem mem_present : registerId ∈ presentRegisters counts ↔ valueOf counts registerId ≠ none := by
  rw [presentRegisters, List.mem_toFinset, valueOf, Ne, Option.map_eq_none_iff, List.find?_eq_none]
  simp [List.mem_map]

/-- Registers that count are those that have a connection. -/
theorem present_iff {room : PresenceRoom} (announced : Announced room) :
    registerId ∈ presentRegisters room.counts ↔ 1 ≤ openConnections room registerId := by
  rw [mem_present, ← announced.counted]
  have positive := announced.positive registerId
  cases found : valueOf room.counts registerId with
  | none => simp
  | some count =>
    rw [found] at positive
    have some : count ≠ 0 := fun zero => positive (congrArg Option.some zero)
    simp
    omega

theorem connect_eq (fits : (valueOf counts registerId).getD 0 + 1 < 2 ^ 32) :
    connectRegister counts registerId = (decide ((valueOf counts registerId).getD 0 = 0),
      put counts (registerId, (valueOf counts registerId).getD 0 + 1)) := by
  unfold connectRegister
  rw [Nat.mod_eq_of_lt fits]
  simp

/-- A register that counts already stays among those present. -/
theorem present_put {count : Nat} (there : valueOf counts registerId ≠ none) :
    presentRegisters (put counts (registerId, count)) = presentRegisters counts := by
  ext other
  rw [mem_present, mem_present, valueOf_put]
  split
  · rename_i same
    rw [same]
    exact ⟨fun _ => there, fun _ => Option.some_ne_none _⟩
  · rfl

end Counts

section Connections
variable {room : PresenceRoom} {index : Nat} {connection : PresenceConnection} {phase : PresencePhase}

/-- The announcers with one connection taken out. -/
def others (room : PresenceRoom) (index : Nat) : Multiset (Announcer Unit (Finset Uuid)) :=
  announcers (room.connections.eraseIdx index)

theorem announcers_taken (found : room.connections[index]? = some connection) :
    announcers room.connections = announcer connection ::ₘ others room index := by
  obtain ⟨inside, rfl⟩ := List.getElem?_eq_some_iff.mp found
  exact Multiset.coe_eq_coe.mpr ((List.getElem_cons_eraseIdx_perm inside).map announcer).symm

theorem announcers_set (found : room.connections[index]? = some connection) (later : PresenceConnection) :
    announcers (room.connections.set index later) = announcer later ::ₘ others room index := by
  obtain ⟨inside, rfl⟩ := List.getElem?_eq_some_iff.mp found
  exact Multiset.coe_eq_coe.mpr ((List.set_perm_cons_eraseIdx inside later).map announcer)

theorem announcers_append (connections : List PresenceConnection) (later : PresenceConnection) :
    announcers (connections ++ [later]) = announcer later ::ₘ announcers connections :=
  Multiset.coe_eq_coe.mpr ((List.perm_append_singleton later connections).map announcer)

/-- Whether a connection counts for a register. -/
def counts (registerId : Uuid) (connection : PresenceConnection) : Bool :=
  connection.isOpen ∧ connection.registerId = registerId

theorem open_append (later : PresenceConnection) (registerId : Uuid) :
    (room.connections ++ [later]).countP (counts registerId) =
      openConnections room registerId + if counts registerId later then 1 else 0 := by
  rw [List.countP_append, List.countP_singleton]
  rfl

theorem open_set (found : room.connections[index]? = some connection) (later : PresenceConnection) (registerId : Uuid) :
    (room.connections.set index later).countP (counts registerId) =
      openConnections room registerId - (if counts registerId connection then 1 else 0) +
        if counts registerId later then 1 else 0 := by
  obtain ⟨inside, rfl⟩ := List.getElem?_eq_some_iff.mp found
  exact List.countP_set inside

theorem open_pos (found : room.connections[index]? = some connection) (isOpen : connection.isOpen = true) :
    1 ≤ openConnections room connection.registerId :=
  List.countP_pos_iff.mpr ⟨connection, List.mem_of_getElem? found, by simp [isOpen]⟩

end Connections

section Steps
variable {room : PresenceRoom} {index : Nat} {registerId : Uuid}

/-- Who is present changes only with a connection that will read it. -/
theorem tracks_counted {latest : Entries Unit (Finset Uuid)} {before after : PresenceRoom}
    {rest : Multiset (Announcer Unit (Finset Uuid))} {later : Announcer Unit (Finset Uuid)}
    (tracks : Tracks (fun _ => True) latest (source before) (.idle ::ₘ rest))
    (reads : presentRegisters after.counts ≠ presentRegisters before.counts → () ∈ later.due) :
    Tracks (fun _ => True) latest (source after) (later ::ₘ rest) := by
  refine tracks.change (fun key impossible => (nomatch impossible)) fun key moved => ?_
  rcases moved with moved | covers
  · exact .inl (covered_cons.mpr (.inl (.inl (reads fun same => moved (congrArg some same)))))
  · exact absurd covers Announcer.idle_covers

theorem announced_connect (announced : Announced room) (fits : (valueOf room.counts registerId).getD 0 + 1 < 2 ^ 32) :
    Announced (room.apply (.connect registerId)) := by
  show Announced { room with
    counts := (connectRegister room.counts registerId).2
    connections := room.connections ++
      [PresenceConnection.mk registerId
        (if (connectRegister room.counts registerId).1 then .entering else .listening)] }
  rw [connect_eq fits]
  dsimp only
  generalize phased : (if decide ((valueOf room.counts registerId).getD 0 = 0) then PresencePhase.entering else .listening)
    = phase
  have isOpen : PresenceConnection.isOpen ⟨registerId, phase⟩ = true := by
    rw [← phased]
    split <;> rfl
  constructor
  · intro id
    rw [PresenceRoom.openConnections]
    show (valueOf (put room.counts (registerId, _)) id).getD 0 =
      (room.connections ++ [PresenceConnection.mk registerId phase]).countP (counts id)
    rw [open_append, valueOf_put, ← announced.counted]
    by_cases same : id = registerId
    · simp [same, counts, isOpen]
    · simp [same, counts, Ne.symm same]
  · intro id
    show valueOf (put room.counts (registerId, _)) id ≠ some 0
    rw [valueOf_put]
    split
    · simp
    · exact announced.positive id
  · exact announced.numbered
  · exact announced.ordered
  · show Tracks _ _ _ (announcers (room.connections ++ [⟨registerId, phase⟩]))
    rw [announcers_append]
    refine tracks_counted announced.tracks.subscribe fun changed => ?_
    have first : (valueOf room.counts registerId).getD 0 = 0 := by
      by_contra known
      refine changed (present_put fun none => known ?_)
      rw [none]
      rfl
    rw [← phased, first]
    exact List.mem_singleton_self ()

/-- Counted out: the counter goes down by one, and the last one out will read who is present. -/
theorem announced_out {later : PresenceCounts} {phase : PresencePhase} (announced : Announced room)
    (found : room.connections[index]? = some ⟨registerId, .listening⟩)
    (shut : PresenceConnection.isOpen ⟨registerId, phase⟩ = false)
    (down : ∀ id, (valueOf later id).getD 0 = (valueOf room.counts id).getD 0 - if id = registerId then 1 else 0)
    (positive : ∀ id, valueOf later id ≠ some 0)
    (reads : presentRegisters later ≠ presentRegisters room.counts → () ∈ (announcer ⟨registerId, phase⟩).due) :
    Announced ({ room with counts := later }.setPhase index registerId phase) := by
  refine ⟨fun id => ?_, positive, announced.numbered, announced.ordered, ?_⟩
  · show (valueOf later id).getD 0 = (room.connections.set index ⟨registerId, phase⟩).countP (counts id)
    rw [open_set found, down, announced.counted]
    by_cases same : id = registerId
    · have listens : PresenceConnection.isOpen ⟨registerId, .listening⟩ = true := rfl
      simp [counts, shut, same, listens]
    · simp [counts, same, Ne.symm same]
  · have tracks := announced.tracks
    rw [announcers_taken found] at tracks
    show Tracks _ _ _ (announcers (room.connections.set index ⟨registerId, phase⟩))
    rw [announcers_set found]
    exact tracks_counted tracks reads

theorem announced_disconnect (announced : Announced room)
    (found : room.connections[index]? = some ⟨registerId, .listening⟩) :
    Announced (room.apply (.disconnect index)) := by
  have applied : room.apply (.disconnect index) =
      { room with counts := (disconnectRegister room.counts registerId).2 }.setPhase index registerId
        (if (disconnectRegister room.counts registerId).1 then .leaving else .closed) := by
    simp only [PresenceRoom.apply, found]
  rw [applied]
  have pos := open_pos found rfl
  rw [← announced.counted] at pos
  dsimp only at pos
  cases valued : valueOf room.counts registerId with
  | none =>
    rw [valued] at pos
    cases pos
  | some count =>
    by_cases last : count - 1 = 0
    · have removed : disconnectRegister room.counts registerId = (true, remove room.counts registerId) := by
        simp [disconnectRegister, valued, last]
      rw [removed]
      refine announced_out announced found rfl (fun id => ?_) (fun id => ?_) fun _ => List.mem_singleton_self ()
      · rw [valueOf_remove]
        by_cases same : id = registerId
        · simp [same, valued, last]
        · simp [same]
      · rw [valueOf_remove]
        split
        · simp
        · exact announced.positive id
    · have less : disconnectRegister room.counts registerId = (false, put room.counts (registerId, count - 1)) := by
        simp [disconnectRegister, valued, last]
      rw [less]
      refine announced_out announced found rfl (fun id => ?_) (fun id => ?_) fun changed => ?_
      · rw [valueOf_put]
        by_cases same : id = registerId
        · simp [same, valued]
        · simp [same]
      · rw [valueOf_put]
        split
        · simpa using last
        · exact announced.positive id
      · exact absurd (present_put (by rw [valued]; exact Option.some_ne_none count)) changed

/-- A step of a guard changes no counter. -/
theorem open_setPhase {phase later : PresencePhase} (found : room.connections[index]? = some ⟨registerId, phase⟩)
    (same : PresenceConnection.isOpen ⟨registerId, later⟩ = PresenceConnection.isOpen ⟨registerId, phase⟩) (id : Uuid) :
    (room.connections.set index ⟨registerId, later⟩).countP (counts id) = openConnections room id := by
  rw [open_set found]
  have alike : counts id ⟨registerId, later⟩ = counts id ⟨registerId, phase⟩ := by simp only [counts, same]
  rw [alike]
  split
  · rename_i own
    have pos : 1 ≤ openConnections room id := List.countP_pos_iff.mpr ⟨_, List.mem_of_getElem? found, own⟩
    omega
  · rfl

/-- A connection has read who is present. -/
theorem announced_read {phase later : PresencePhase} (announced : Announced room)
    (found : room.connections[index]? = some ⟨registerId, phase⟩)
    (reads : announcer ⟨registerId, later⟩ = ⟨[], [((), presentRegisters room.counts)]⟩)
    (same : PresenceConnection.isOpen ⟨registerId, later⟩ = PresenceConnection.isOpen ⟨registerId, phase⟩) :
    Announced (room.setPhase index registerId later) := by
  refine ⟨fun id => ?_, announced.positive, announced.numbered, announced.ordered, ?_⟩
  · exact (announced.counted id).trans (open_setPhase found same id).symm
  · have tracks := announced.tracks
    rw [announcers_taken found] at tracks
    show Tracks _ _ _ (announcers (room.connections.set index ⟨registerId, later⟩))
    rw [announcers_set found, reads]
    exact tracks.hand_over fun _ _ => .inr ⟨Option.some_ne_none _, rfl⟩

/-- A connection publishes who it has read to be present. -/
theorem announced_publish {phase later : PresencePhase} {present : Finset Uuid} (isConnect : Bool)
    (announced : Announced room) (found : room.connections[index]? = some ⟨registerId, phase⟩)
    (holds : announcer ⟨registerId, phase⟩ = ⟨[], [((), present)]⟩) (done : announcer ⟨registerId, later⟩ = .idle)
    (same : PresenceConnection.isOpen ⟨registerId, later⟩ = PresenceConnection.isOpen ⟨registerId, phase⟩)
    (fresh : present = presentRegisters room.counts ∨ InHand room index) :
    Announced ((room.publish isConnect registerId present).setPhase index registerId later) := by
  have later_than : ∀ event ∈ room.issued, event.seq < room.seq + 1 :=
    fun event member => Nat.lt_succ_of_le (announced.numbered event member)
  refine ⟨fun id => ?_, announced.positive, fun event member => ?_, ?_, ?_⟩
  · exact (announced.counted id).trans (open_setPhase found same id).symm
  · rcases List.mem_append.mp member with old | new
    · exact Nat.le_of_lt (later_than event old)
    · rw [List.mem_singleton.mp new]
      exact Nat.le_refl _
  · refine List.pairwise_append.mpr ⟨announced.ordered, List.pairwise_singleton _ _, fun event old new added => ?_⟩
    rw [List.mem_singleton.mp added]
    exact later_than event old
  · have tracks := announced.tracks
    rw [announcers_taken found, holds] at tracks
    have announces : Tracks (fun _ => True) [((), present)] (source room) (others room index) := by
      refine tracks.announce rfl (fun _ => .inl) fun key value said => ?_
      have told : present = value := Option.some.inj said
      rcases fresh with current | inHand
      · exact .inl (by rw [← told, current]; rfl)
      · exact .inr ⟨Option.some_ne_none _, inHand⟩
    have last : latest ((room.publish isConnect registerId present).setPhase index registerId later).issued = present := by
      show latest (room.issued ++ [_]) = present
      rw [latest, List.getLast?_concat]
      rfl
    rw [last]
    show Tracks _ _ _ (announcers (room.connections.set index ⟨registerId, later⟩))
    rw [announcers_set found, done]
    exact announces.subscribe

theorem announced_step (announced : Announced room) (step : PresenceStep) (meets : inOrder room step) :
    Announced (room.apply step) := by
  cases step with
  | connect registerId => exact announced_connect announced meets
  | disconnect index =>
    cases found : room.connections[index]? with
    | none =>
      simp only [PresenceRoom.apply, found]
      exact announced
    | some connection =>
      obtain ⟨registerId, phase⟩ := connection
      cases phase with
      | listening => exact announced_disconnect announced found
      | _ =>
        simp only [PresenceRoom.apply, found]
        exact announced
  | advance index =>
    unfold inOrder at meets
    cases found : room.connections[index]? with
    | none =>
      simp only [PresenceRoom.apply, found]
      exact announced
    | some connection =>
      obtain ⟨registerId, phase⟩ := connection
      simp only [found] at meets
      simp only [PresenceRoom.apply, found]
      cases phase with
      | entering => exact announced_read announced found rfl rfl
      | entered present => exact announced_publish true announced found rfl rfl rfl meets
      | leaving => exact announced_read announced found rfl rfl
      | left present => exact announced_publish false announced found rfl rfl rfl meets
      | listening => exact announced
      | closed => exact announced
  | publishOther =>
    exact ⟨announced.counted, announced.positive,
      fun event member => Nat.le_succ_of_le (announced.numbered event member), announced.ordered, announced.tracks⟩

end Steps

/-- Numbers go up, so the highest is the last. -/
theorem last_of_highest {issued : List PresenceEvent} {event : PresenceEvent} (ordered : issued.Pairwise (·.seq < ·.seq))
    (member : event ∈ issued) (highest : ∀ other ∈ issued, other.seq ≤ event.seq) : issued.getLast? = some event := by
  rcases List.eq_nil_or_concat issued with rfl | ⟨earlier, last, rfl⟩
  · cases member
  · rw [List.concat_eq_append] at member highest ordered ⊢
    rw [List.getLast?_concat]
    rcases List.mem_append.mp member with old | new
    · have below := (List.pairwise_append.mp ordered).2.2 event old last (List.mem_singleton_self _)
      exact absurd (highest last (List.mem_append_right _ (List.mem_singleton_self _))) (Nat.not_le.mpr below)
    · rw [List.mem_singleton.mp new]

theorem announced_opened : Announced PresenceRoom.opened where
  counted _ := rfl
  positive _ impossible := by cases impossible
  numbered _ impossible := by cases impossible
  ordered := .nil
  tracks := ⟨fun _ _ => .inl rfl, fun _ impossible => (nomatch impossible)⟩

/-- The counters are the open connections; and once no step is in progress the event with the
highest number lists the registers that have one. -/
structure WellAnnounced (room : PresenceRoom) : Prop where
  counted : ∀ registerId, (valueOf room.counts registerId).getD 0 = openConnections room registerId
  silent : (∀ connection ∈ room.connections, connection.isIdle = true) → room.issued = [] →
    ∀ registerId, openConnections room registerId = 0
  listed : (∀ connection ∈ room.connections, connection.isIdle = true) →
    ∀ event ∈ room.issued, (∀ other ∈ room.issued, other.seq ≤ event.seq) →
      ∀ registerId, registerId ∈ event.present ↔ 1 ≤ openConnections room registerId

/-- Between steps the latest list is the current one. -/
theorem latest_current {room : PresenceRoom} (announced : Announced room)
    (idle : ∀ connection ∈ room.connections, connection.isIdle = true) :
    latest room.issued = presentRegisters room.counts := by
  have bare : ¬Covered (announcers room.connections) (source room) () := by
    rintro ⟨_, member, covers⟩
    obtain ⟨connection, present, rfl⟩ := List.mem_map.mp (Multiset.mem_coe.mp member)
    have rests : announcer connection = .idle := by
      have phase := idle connection present
      simp only [PresenceConnection.isIdle, decide_eq_true_eq] at phase
      unfold announcer
      rcases phase with phase | phase <;> rw [phase]
    rw [rests] at covers
    exact Announcer.idle_covers covers
  exact Option.some.inj (announced.tracks.uncovered trivial bare)

/-- In every run whose steps are in order, connections are counted and announced well. -/
theorem presence_announced (steps : List PresenceStep) (meets : Sequence.Meets PresenceRoom.apply inOrder .opened steps) :
    WellAnnounced (Sequence.run PresenceRoom.apply .opened steps) := by
  have kept (room : PresenceRoom) (step : PresenceStep) (announced : Announced room) (meets : inOrder room step) :
      Announced (room.apply step) := announced_step announced step meets
  have announced := Sequence.keeps kept announced_opened meets
  refine ⟨announced.counted, fun idle unissued registerId => ?_, fun idle event member highest registerId => ?_⟩
  · by_contra some
    have present := (present_iff announced).mpr (Nat.one_le_iff_ne_zero.mpr some)
    rw [← latest_current announced idle, unissued] at present
    cases present
  · rw [← present_iff announced, ← latest_current announced idle, latest,
      last_of_highest announced.ordered member highest]
    rfl

section Samples

/-- Register 2 connects and leaves, while register 1 is connected; each publishes what it has read. -/
def oneAfterTheOther : List PresenceStep :=
  [.connect 1, .advance 0, .advance 0, .connect 2, .connect 2, .advance 1, .publishOther, .advance 1, .disconnect 1,
    .disconnect 2, .advance 2, .advance 2]

theorem one_after_the_other_announced :
    WellAnnounced (Sequence.run PresenceRoom.apply .opened oneAfterTheOther) ∧
      (Sequence.run PresenceRoom.apply .opened oneAfterTheOther).issued.map PresenceEvent.present = [{1}, {1, 2}, {1}] :=
  ⟨presence_announced oneAfterTheOther (by decide +kernel), by decide +kernel⟩

/-- Register 1 reads who is present, then register 2 connects and publishes, and then register 1 does. -/
def overtaken : List PresenceStep := [.connect 1, .advance 0, .connect 2, .advance 1, .advance 1, .advance 0]

/-- No step is in progress, and the latest event lists register 1 alone. -/
theorem overtaken_list_is_latest :
    (∀ connection ∈ (Sequence.run PresenceRoom.apply .opened overtaken).connections, connection.isIdle = true) ∧
      (Sequence.run PresenceRoom.apply .opened overtaken).issued.map (fun event => (event.seq, event.present)) =
        [(1, {1, 2}), (2, {1})] ∧
      openConnections (Sequence.run PresenceRoom.apply .opened overtaken) 2 = 1 := by
  decide +kernel

end Samples
end ApexEdge.Proofs.Presence
