import ApexEdge.Proofs.StockBroadcasts

/-! A snapshot and the events above its number. The stock is read before the number is, and
a command writes the stock before its event is numbered, so a client catches up as long as
no value is told that is old by then, unless the item is still to be announced. -/

namespace ApexEdge.Proofs.SnapshotStock
open Library Library.Replica Payment Storage Pos Hub
open Hub.StockStream Proofs.StockBroadcasts

/-- What commands change they announce. What an event carries is current when it takes its
number, and what a snapshot has read is current when it reads the number: of both, except
for items that another command will still announce. -/
def inOrder (storeId : Uuid) : Condition LiveRequest LiveWorld LiveChoice where
  step world others request choice :=
    match request with
    | .number payload =>
      IsFresh storeId .numbers world.tables others (payload.stock.map Prod.fst) (patch [] payload.stock)
    | .currentSeq stock _ =>
      IsFresh storeId .numbers world.tables others (stock.map Prod.fst ++ itemsOf world.tables) (patch [] stock)
    | request => KeepsWord storeId .numbers world others request choice
  drop := MayDrop storeId .numbers

/-- A client of any snapshot has caught up, but for what is still to be announced. -/
structure CaughtUp (storeId : Uuid) (world : LiveWorld) (pending : Multiset Standing) : Prop where
  numbered : ∀ event ∈ world.issued, event.1 ≤ world.channel.seq
  genuine : ∀ standing ∈ pending, Genuine storeId world.tables standing
  earlier : ∀ snapshot ∈ world.snapshots, snapshot.seq ≤ world.channel.seq
  copies : ∀ snapshot ∈ world.snapshots, Tracks (fun _ => True) (catchUp snapshot world.issued).availability
    (available storeId world.tables) (announcers pending)

section Views
variable {snapshot : StoreSnapshot} {issued : List (Nat × StreamPayload)}

/-- Nothing has been issued above the number. -/
theorem catchUp_fresh (numbered : ∀ event ∈ issued, event.1 ≤ snapshot.seq) :
    (catchUp snapshot issued).availability = patch [] snapshot.stock := by
  have none : issued.filter (snapshot.seq < ·.1) = [] := by
    refine List.filter_eq_nil_iff.mpr fun event member above => ?_
    exact absurd (of_decide_eq_true above) (Nat.not_lt.mpr (numbered event member))
  rw [catchUp, none]
  rfl

/-- A later event patches what the client has. -/
theorem catchUp_issued {event : Nat × StreamPayload} (later : snapshot.seq < event.1) :
    (catchUp snapshot (issued ++ [event])).availability =
      patch (catchUp snapshot issued).availability event.2.stock := by
  have one : [event].filter (snapshot.seq < ·.1) = [event] :=
    List.filter_eq_self.mpr fun other member => by
      obtain rfl := List.mem_singleton.mp member
      exact decide_eq_true later
  rw [catchUp, List.filter_append, one, List.map_append, List.foldl_append]
  exact availability_applyStreamEvent _ _

end Views

section Steps
variable {storeId : Uuid} {world : LiveWorld} {others : List LiveRequest} {request : LiveRequest} {choice : LiveChoice}

/-- A step that neither numbers an event nor completes a snapshot. -/
theorem caughtUp_plain {after : LiveWorld} {left : Standing}
    (holds : CaughtUp storeId world (standing .numbers request ::ₘ standings .numbers others))
    (keeps : KeepsWord storeId .numbers world others request choice)
    (performed : (performLive storeId choice world request).2 = after)
    (leaves : afterwards .numbers request (performLive storeId choice world request).1 = left)
    (issued : after.issued = world.issued) (snapshots : after.snapshots = world.snapshots)
    (seq : after.channel.seq = world.channel.seq) : CaughtUp storeId after (left ::ₘ standings .numbers others) := by
  subst performed leaves
  constructor
  · rw [issued, seq]
    exact holds.numbered
  · exact genuine_after holds.genuine
  · rw [snapshots, seq]
    exact holds.earlier
  · rw [snapshots, issued]
    exact fun snapshot member => tracks_step (holds.copies snapshot member) keeps

/-- An event takes its number. -/
theorem caughtUp_number {payload : StreamPayload}
    (holds : CaughtUp storeId world (standing .numbers (.number payload) ::ₘ standings .numbers others))
    (fresh : IsFresh storeId .numbers world.tables others (payload.stock.map Prod.fst) (patch [] payload.stock)) :
    CaughtUp storeId (performLive storeId choice world (.number payload)).2
      (.idle ::ₘ standings .numbers others) := by
  have genuine := holds.genuine _ (Multiset.mem_cons_self _ _)
  have later : ∀ event ∈ world.issued ++ [(world.channel.seq + 1, payload)], event.1 ≤ world.channel.seq + 1 := by
    intro event member
    rcases List.mem_append.mp member with old | new
    · exact Nat.le_succ_of_le (holds.numbered event old)
    · rw [List.mem_singleton.mp new]
  constructor
  · exact later
  · intro other member
    rcases Multiset.mem_cons.mp member with rfl | present
    · exact genuine_idle
    · exact holds.genuine other (Multiset.mem_cons_of_mem present)
  · exact fun snapshot member => Nat.le_succ_of_le (holds.earlier snapshot member)
  · intro snapshot member
    show Tracks _ (catchUp snapshot (world.issued ++ [(world.channel.seq + 1, payload)])).availability _ _
    rw [catchUp_issued (Nat.lt_succ_of_le (holds.earlier snapshot member))]
    exact tracks_opened (tracks_announced (holds.copies snapshot member) (fun _ => .inl) genuine.1 fresh)

/-- A snapshot reads its number. -/
theorem caughtUp_snapshot {stock : Entries Uuid Int} {registers : List Uuid}
    (holds : CaughtUp storeId world (standing .numbers (.currentSeq stock registers) ::ₘ standings .numbers others))
    (fresh : IsFresh storeId .numbers world.tables others (stock.map Prod.fst ++ itemsOf world.tables)
      (patch [] stock)) :
    CaughtUp storeId (performLive storeId choice world (.currentSeq stock registers)).2
      (.building stock ::ₘ standings .numbers others) := by
  have genuine := (holds.genuine _ (Multiset.mem_cons_self _ _)).2
  refine ⟨holds.numbered, holds.genuine, ?_, ?_⟩
  · intro snapshot member
    rcases List.mem_append.mp member with old | new
    · exact holds.earlier snapshot old
    · rw [List.mem_singleton.mp new]
      exact Nat.le_refl _
  · intro snapshot member
    rcases List.mem_append.mp member with old | new
    · exact holds.copies snapshot old
    · obtain rfl := List.mem_singleton.mp new
      show Tracks _ (catchUp _ world.issued).availability _ _
      rw [catchUp_fresh holds.numbered]
      refine ⟨fun itemId _ => ?_, fun itemId untracked => genuine.untold untracked⟩
      by_cases untracked : available storeId world.tables itemId = none
      · exact .inl ((genuine.untold untracked).trans untracked.symm)
      · refine (fresh itemId (List.mem_append_right _ (mem_itemsOf untracked))).imp_right fun inHand => ?_
        unfold announcers
        rw [Multiset.map_cons]
        exact covered_cons.mpr (.inr inHand)

theorem keeping : Keeping storeId .numbers (inOrder storeId) (CaughtUp storeId) where
  opened holds opens := ⟨holds.numbered, genuine_opened holds.genuine opens, holds.earlier,
    fun snapshot member => tracks_opened (holds.copies snapshot member)⟩
  passed holds within := ⟨holds.numbered, genuine_passed holds.genuine within, holds.earlier,
    fun snapshot member => tracks_passed (holds.copies snapshot member) within⟩
  closed holds idle := ⟨holds.numbered, fun other member => holds.genuine other (Multiset.mem_cons_of_mem member),
    holds.earlier, fun snapshot member => tracks_closed (holds.copies snapshot member) idle⟩
  dropped may holds := ⟨holds.numbered, fun other member => holds.genuine other (Multiset.mem_cons_of_mem member),
    holds.earlier, fun snapshot member => tracks_dropped (holds.copies snapshot member) may⟩
  stepped {world others request choice} meets holds := by
    cases request with
    | number payload => exact caughtUp_number holds meets
    | currentSeq stock registers => exact caughtUp_snapshot holds meets
    | _ => exact caughtUp_plain holds meets rfl rfl rfl rfl rfl

end Steps

/-- In every run whose steps are in order, a client that loads any snapshot of the run and
applies the events above its number has what the server has, for every item that no command
in flight is still to announce. -/
theorem snapshot_and_events_complete (storeId : Uuid) (tables : InventoryTables) (clients : Nat)
    (events : List (Event LiveChoice LiveTask))
    (meets : (inOrder storeId).RunMeets (stockStream storeId) (Pool.quiet (.opened storeId tables clients)) events) :
    let pool := (stockStream storeId).run (Pool.quiet (.opened storeId tables clients)) events
    ∀ snapshot ∈ pool.world.snapshots, ∀ itemId, ¬InHand storeId .numbers pool.world.tables pool.pending itemId →
      valueOf (catchUp snapshot pool.world.issued).availability itemId = available storeId pool.world.tables itemId := by
  intro pool snapshot member itemId bare
  have begins : CaughtUp storeId (.opened storeId tables clients) 0 := by
    constructor <;> exact fun _ impossible => nomatch impossible
  have reached := keeping.invariant.reached begins meets
  exact (reached.copies snapshot member).uncovered trivial bare

section Samples

/-- Ten units of item 7 in store 1. -/
def shelf : InventoryTables :=
  { inventoryState := [InventoryLedger.newStateRow 1 7 10 0], reservations := [], movements := [] }

def live (clients : Nat) (events : List (Event LiveChoice LiveTask)) : Pool LiveRequest LiveRequest.Reply Unit LiveWorld :=
  (stockStream 1).run (Pool.quiet (.opened 1 shelf clients)) events

/-- Nothing fails. -/
def next (thread : Nat) : Event LiveChoice LiveTask := .step thread ⟨100, 9, [], .ok none, [], true, none⟩

/-- Five units are received. -/
def delivery : LiveTask := .moveStock 2 7 5

instance (world : LiveWorld) (others : List LiveRequest) (request : LiveRequest) (choice : LiveChoice) :
    Decidable ((inOrder 1).step world others request choice) := by
  unfold inOrder
  cases request <;> infer_instance

instance (world : LiveWorld) (others : List LiveRequest) (request : LiveRequest) :
    Decidable ((inOrder 1).drop world others request) :=
  inferInstanceAs (Decidable (MayDrop ..))

/-- The snapshot reads the stock before the delivery and its number before the event's. -/
def overtakenSnapshot : List (Event LiveChoice LiveTask) :=
  [.start delivery, next 0, .start .snapshot, next 0, next 1, next 1, next 0, next 0, next 0, next 0, next 0]

theorem overtaken_snapshot_catches_up :
    (∀ snapshot ∈ (live 0 overtakenSnapshot).world.snapshots, ∀ itemId,
      ¬InHand 1 .numbers (live 0 overtakenSnapshot).world.tables (live 0 overtakenSnapshot).pending itemId →
      valueOf (catchUp snapshot (live 0 overtakenSnapshot).world.issued).availability itemId =
        available 1 (live 0 overtakenSnapshot).world.tables itemId) ∧
      (live 0 overtakenSnapshot).threads = [] ∧ (live 0 overtakenSnapshot).world.snapshots.length = 1 ∧
      available 1 (live 0 overtakenSnapshot).world.tables 7 = some 15 :=
  ⟨snapshot_and_events_complete 1 shelf 0 overtakenSnapshot (by decide +kernel), by decide +kernel, by decide +kernel,
    by decide +kernel⟩

/-- The event is numbered after the snapshot has read the stock and before it reads the number. -/
def lateSnapshot : List (Event LiveChoice LiveTask) :=
  [.start .snapshot, next 0, .start delivery, next 0, next 0, next 0, next 0, next 0, next 0, next 0, next 0]

/-- The delivery is in neither: nothing is in flight, and the client still has ten units. -/
theorem late_snapshot_misses_the_delivery :
    (live 0 lateSnapshot).threads = [] ∧
      (live 0 lateSnapshot).world.snapshots.map (fun snapshot =>
        valueOf (catchUp snapshot (live 0 lateSnapshot).world.issued).availability 7) = [some 10] ∧
      available 1 (live 0 lateSnapshot).world.tables 7 = some 15 := by
  decide +kernel

end Samples
end ApexEdge.Proofs.SnapshotStock
