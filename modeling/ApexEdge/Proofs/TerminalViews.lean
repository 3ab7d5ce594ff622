import ApexEdge.Proofs.StockBroadcasts

/-! What the clients of the stream show. Frames patch the availability in the order they were
sent in, and a snapshot replaces it whenever it arrives, so a client is right in the end as
long as every snapshot that arrives is still right, but for what is on the way to it. -/

namespace ApexEdge.Proofs.TerminalViews
open Library Library.Replica Payment Storage Pos Hub
open Hub.StockStream Proofs.StockBroadcasts

/-- What the frames on the way to the client tell. -/
def onTheWay (client : StreamClient) : Entries Uuid Int := client.frames.flatMap StreamPayload.stock

/-- The availability of the client once it has received them all. -/
def landed (client : StreamClient) : Entries Uuid Int := patch client.state.availability (onTheWay client)

/-- The items the client is told of. -/
def toldOf (client : StreamClient) : List Uuid := client.mentioned ++ (onTheWay client).map Prod.fst

/-- What commands change they announce, and what an event carries is current when it is
sent. When a snapshot arrives, and when the client begins to listen, what it then shows is
current for all that it is told of: each time except for items that are on the way to it or
that a command in flight will still announce. -/
def inSight (storeId : Uuid) : Condition LiveRequest LiveWorld LiveChoice where
  step world others request choice :=
    match request with
    | .send _ payload =>
      IsFresh storeId .frames world.tables others (payload.stock.map Prod.fst) (patch [] payload.stock)
    | .arrive client snapshot => ∀ viewer ∈ world.clients[client]?, viewer.isSubscribed = true →
      IsFresh storeId .frames world.tables others (toldOf (viewer.arrive snapshot)) (landed (viewer.arrive snapshot))
    | .subscribe client => ∀ viewer ∈ world.clients[client]?, viewer.isSubscribed = false →
      IsFresh storeId .frames world.tables others (toldOf viewer) (landed viewer)
    | request => KeepsWord storeId .frames world others request choice
  drop := MayDrop storeId .frames

/-- One client: it shows only what is tracked, and what it will show is right. -/
structure InSight (storeId : Uuid) (tables : InventoryTables) (pending : Multiset Standing) (client : StreamClient) :
    Prop where
  shown : ∀ itemId, available storeId tables itemId = none → valueOf (landed client) itemId = none
  quiet : client.isSubscribed = false → client.frames = []
  right : client.isSubscribed = true →
    Tracks (· ∈ toldOf client) (landed client) (available storeId tables) (announcers pending)

structure AllInSight (storeId : Uuid) (world : LiveWorld) (pending : Multiset Standing) : Prop where
  genuine : ∀ standing ∈ pending, Genuine storeId world.tables standing
  clients : ∀ client ∈ world.clients, InSight storeId world.tables pending client

section Clients
variable {storeId : Uuid} {world : LiveWorld} {others : List LiveRequest} {request : LiveRequest} {choice : LiveChoice}
  {client : StreamClient} {pending : Multiset Standing}

theorem mem_modify {clients : List StreamClient} {index : Nat} {set : StreamClient → StreamClient}
    (member : client ∈ clients.modify index set) :
    client ∈ clients ∨ ∃ before, clients[index]? = some before ∧ client = set before := by
  obtain ⟨place, found⟩ := List.mem_iff_getElem?.mp member
  rw [List.getElem?_modify] at found
  split at found
  · rename_i same
    obtain ⟨before, there, rfl⟩ := Option.map_eq_some_iff.mp found
    exact .inr ⟨before, same ▸ there, rfl⟩
  · exact .inl (List.mem_iff_getElem?.mpr ⟨place, by simpa using found⟩)

/-- Receiving a frame changes nothing of what the client will show. -/
theorem landed_receive (client : StreamClient) : landed client.receive = landed client := by
  obtain ⟨isSubscribed, frames, state, mentioned⟩ := client
  cases frames with
  | nil => rfl
  | cons payload frames =>
    show patch (applyStreamEvent state payload).availability (frames.flatMap StreamPayload.stock) =
      patch state.availability ((payload :: frames).flatMap StreamPayload.stock)
    rw [availability_applyStreamEvent, List.flatMap_cons, patch_append]

theorem toldOf_receive (client : StreamClient) : toldOf client.receive = toldOf client := by
  obtain ⟨isSubscribed, frames, state, mentioned⟩ := client
  cases frames with
  | nil => rfl
  | cons payload frames =>
    show (mentioned ++ payload.stock.map Prod.fst) ++ (frames.flatMap StreamPayload.stock).map Prod.fst =
      mentioned ++ ((payload :: frames).flatMap StreamPayload.stock).map Prod.fst
    rw [List.flatMap_cons, List.map_append, List.append_assoc]

theorem subscribed_receive (client : StreamClient) : client.receive.isSubscribed = client.isSubscribed := by
  unfold StreamClient.receive
  split <;> rfl

theorem inSight_receive (held : InSight storeId world.tables pending client) :
    InSight storeId world.tables pending client.receive where
  shown := by
    rw [landed_receive]
    exact held.shown
  quiet offline := by
    rw [subscribed_receive] at offline
    have none := held.quiet offline
    unfold StreamClient.receive
    rw [none]
    exact none
  right online := by
    rw [subscribed_receive] at online
    rw [landed_receive, toldOf_receive]
    exact held.right online

/-- Of an untracked item nothing is on the way. -/
theorem landed_untracked {state : StoreStreamState} {itemId : Uuid} (client : StreamClient)
    (nothing : valueOf (landed client) itemId = none) (hidden : valueOf state.availability itemId = none) :
    valueOf (patch state.availability (onTheWay client)) itemId = none := by
  rw [landed, valueOf_patch, Option.or_eq_none_iff] at nothing
  rw [valueOf_patch, nothing.1, hidden]
  rfl

/-- What shows a fresh value of all that it is told of, and nothing that is untracked, is right. -/
theorem tracks_of_fresh (shown : ∀ itemId, available storeId world.tables itemId = none →
      valueOf (landed client) itemId = none)
    (fresh : IsFresh storeId .frames world.tables others (toldOf client) (landed client)) (owed : Standing) :
    Tracks (· ∈ toldOf client) (landed client) (available storeId world.tables)
      (announcers (owed ::ₘ standings .frames others)) := by
  refine ⟨fun itemId told => (fresh itemId told).imp_right fun inHand => ?_, shown⟩
  unfold announcers
  rw [Multiset.map_cons]
  exact covered_cons.mpr (.inr inHand)

theorem inSight_arrive {snapshot : StoreSnapshot} {owed : Standing}
    (held : InSight storeId world.tables (owed ::ₘ standings .frames others) client)
    (genuine : TrackedOnly storeId world.tables snapshot.stock)
    (fresh : client.isSubscribed = true → IsFresh storeId .frames world.tables others
      (toldOf (client.arrive snapshot)) (landed (client.arrive snapshot))) :
    InSight storeId world.tables (owed ::ₘ standings .frames others) (client.arrive snapshot) := by
  have shown (itemId : Uuid) (untracked : available storeId world.tables itemId = none) :
      valueOf (landed (client.arrive snapshot)) itemId = none :=
    @landed_untracked (applySnapshot client.state snapshot) itemId client (held.shown itemId untracked)
      (genuine.untold untracked)
  exact ⟨shown, held.quiet, fun online => tracks_of_fresh shown (fresh online) owed⟩

theorem inSight_subscribe {owed : Standing}
    (held : InSight storeId world.tables (owed ::ₘ standings .frames others) client)
    (fresh : client.isSubscribed = false → IsFresh storeId .frames world.tables others (toldOf client) (landed client)) :
    InSight storeId world.tables (owed ::ₘ standings .frames others) { client with isSubscribed := true } := by
  refine ⟨held.shown, fun impossible => (nomatch impossible), fun _ => ?_⟩
  cases online : client.isSubscribed with
  | true => exact held.right online
  | false => exact tracks_of_fresh held.shown (fresh online) owed

/-- An event is sent to a client. -/
theorem inSight_send {payload : StreamPayload}
    (held : InSight storeId world.tables (.reading [] payload.stock ::ₘ standings .frames others) client)
    (genuine : TrackedOnly storeId world.tables payload.stock)
    (fresh : IsFresh storeId .frames world.tables others (payload.stock.map Prod.fst) (patch [] payload.stock)) :
    InSight storeId world.tables (.idle ::ₘ standings .frames others) (client.send payload) := by
  unfold StreamClient.send
  cases online : client.isSubscribed with
  | false =>
    rw [if_neg Bool.false_ne_true]
    exact ⟨held.shown, held.quiet, fun impossible => (nomatch online.symm.trans impossible)⟩
  | true =>
    rw [if_pos rfl]
    have way : onTheWay { client with frames := client.frames ++ [payload] } = onTheWay client ++ payload.stock := by
      simp only [onTheWay, List.flatMap_append, List.flatMap_singleton]
    have lands : landed { client with frames := client.frames ++ [payload] } = patch (landed client) payload.stock := by
      rw [landed, way, patch_append]
      rfl
    have tracks : Tracks (· ∈ toldOf { client with frames := client.frames ++ [payload] })
        (patch (landed client) payload.stock) (available storeId world.tables)
        (announcers (standings .frames others)) := by
      refine tracks_announced (held.right online) (fun itemId told => ?_) genuine fresh
      rw [toldOf, way, List.map_append, ← List.append_assoc, List.mem_append] at told
      exact told
    rw [← lands] at tracks
    exact ⟨tracks.known, fun impossible => (nomatch impossible), fun _ => tracks_opened tracks⟩

/-- A step that changes no client, and keeps the word of its command. -/
theorem inSight_plain (held : InSight storeId world.tables (standing .frames request ::ₘ standings .frames others) client)
    (keeps : KeepsWord storeId .frames world others request choice) :
    InSight storeId (performLive storeId choice world request).2.tables
      (afterwards .frames request (performLive storeId choice world request).1 ::ₘ standings .frames others) client where
  shown itemId untracked := by
    refine held.shown itemId ?_
    by_contra tracked
    exact available_ne_none.mpr (live_tracked choice world request (available_ne_none.mp tracked)) untracked
  quiet := held.quiet
  right online := tracks_step (held.right online) keeps

/-- The standings change while the clients and the stock stay. -/
theorem inSight_standings {later : Multiset Standing} (held : InSight storeId world.tables pending client)
    (hands : ∀ {wanted view}, Tracks wanted view (available storeId world.tables) (announcers pending) →
      Tracks wanted view (available storeId world.tables) (announcers later)) :
    InSight storeId world.tables later client :=
  ⟨held.shown, held.quiet, fun online => hands (held.right online)⟩

theorem allInSight_step (meets : (inSight storeId).step world others request choice)
    (holds : AllInSight storeId world (standing .frames request ::ₘ standings .frames others)) :
    AllInSight storeId (performLive storeId choice world request).2
      (afterwards .frames request (performLive storeId choice world request).1 ::ₘ standings .frames others) := by
  refine ⟨genuine_after holds.genuine, fun client member => ?_⟩
  have own := holds.genuine _ (Multiset.mem_cons_self _ _)
  cases request with
  | send envelope payload =>
    obtain ⟨before, present, rfl⟩ := List.mem_map.mp member
    exact inSight_send (holds.clients before present) own.1 meets
  | arrive index snapshot =>
    rcases mem_modify member with present | ⟨before, found, rfl⟩
    · exact inSight_standings (holds.clients client present) id
    · exact inSight_arrive (inSight_standings (holds.clients before (List.mem_of_getElem? found)) id) own.2
        (meets before found)
  | subscribe index =>
    rcases mem_modify member with present | ⟨before, found, rfl⟩
    · exact holds.clients client present
    · exact inSight_subscribe (holds.clients before (List.mem_of_getElem? found)) (meets before found)
  | receive index =>
    rcases mem_modify member with present | ⟨before, found, rfl⟩
    · exact holds.clients client present
    · exact inSight_receive (holds.clients before (List.mem_of_getElem? found))
  | _ => exact inSight_plain (holds.clients client member) meets

theorem keeping : Keeping storeId .frames (inSight storeId) (AllInSight storeId) where
  opened holds opens := ⟨genuine_opened holds.genuine opens,
    fun client member => inSight_standings (holds.clients client member) tracks_opened⟩
  passed holds within := ⟨genuine_passed holds.genuine within, fun client member =>
    inSight_standings (holds.clients client member) fun tracks => tracks_passed tracks within⟩
  closed holds idle := ⟨fun other member => holds.genuine other (Multiset.mem_cons_of_mem member),
    fun client member => inSight_standings (holds.clients client member) fun tracks => tracks_closed tracks idle⟩
  dropped may holds := ⟨fun other member => holds.genuine other (Multiset.mem_cons_of_mem member),
    fun client member => inSight_standings (holds.clients client member) fun tracks => tracks_dropped tracks may⟩
  stepped := allInSight_step

end Clients

/-- In every run whose steps are in sight, a client that listens and has received all that
was sent to it shows what the server has, for every item it was told of that no command in
flight is still to announce. -/
theorem views_converge (storeId : Uuid) (tables : InventoryTables) (clients : Nat)
    (events : List (Event LiveChoice LiveTask))
    (meets : (inSight storeId).RunMeets (stockStream storeId) (Pool.quiet (.opened storeId tables clients)) events) :
    let pool := (stockStream storeId).run (Pool.quiet (.opened storeId tables clients)) events
    ∀ client ∈ pool.world.clients, client.isSubscribed = true → client.frames = [] → ∀ itemId ∈ client.mentioned,
      ¬InHand storeId .frames pool.world.tables pool.pending itemId →
        valueOf client.state.availability itemId = available storeId pool.world.tables itemId := by
  intro pool client member online arrived itemId told bare
  have begins : AllInSight storeId (.opened storeId tables clients) 0 := by
    refine ⟨fun _ impossible => (nomatch impossible), fun client member => ?_⟩
    obtain rfl := List.eq_of_mem_replicate member
    exact ⟨fun _ _ => rfl, fun _ => rfl, fun impossible => (nomatch impossible)⟩
  have reached := keeping.invariant.reached begins meets
  have tracks := (reached.clients client member).right online
  have all : landed client = client.state.availability := by
    unfold landed onTheWay
    rw [arrived]
    rfl
  rw [← all]
  exact tracks.uncovered (List.mem_append_left _ told) bare

section Samples

/-- Ten units of item 7 in store 1, and one client. -/
def opening : Pool LiveRequest LiveRequest.Reply Unit LiveWorld :=
  Pool.quiet (.opened 1 { inventoryState := [InventoryLedger.newStateRow 1 7 10 0], reservations := [], movements := [] } 1)

/-- Nothing fails. -/
def next (thread : Nat) : Event LiveChoice LiveTask := .step thread ⟨100, 9, [], .ok none, [], true, none⟩

instance (world : LiveWorld) (others : List LiveRequest) (request : LiveRequest) (choice : LiveChoice) :
    Decidable ((inSight 1).step world others request choice) := by
  induction request using LiveRequest.casesOn <;> dsimp only [inSight] <;> infer_instance

instance (world : LiveWorld) (others : List LiveRequest) (request : LiveRequest) :
    Decidable ((inSight 1).drop world others request) :=
  inferInstanceAs (Decidable (MayDrop ..))

/-- The client listens, its snapshot has been built, and then five units are received. -/
def loadThenDelivery : List (Event LiveChoice LiveTask) :=
  [.start (.subscribe 0), next 0, .start (.loadSnapshot 0), next 0, next 0, next 0, next 0,
    .start (.moveStock 2 7 5), next 0, next 0, next 0, next 0, next 0]

/-- The response comes while the event is still on the way. -/
def responseFirst : List (Event LiveChoice LiveTask) := loadThenDelivery ++ [next 0, .start (.receive 0), next 0]

/-- The event is received first, and then the response. -/
def eventFirst : List (Event LiveChoice LiveTask) := loadThenDelivery ++ [.start (.receive 0), next 0, next 0]

theorem response_first_converges :
    (∀ client ∈ ((stockStream 1).run opening responseFirst).world.clients, client.isSubscribed = true →
      client.frames = [] → ∀ itemId ∈ client.mentioned,
      ¬InHand 1 .frames ((stockStream 1).run opening responseFirst).world.tables
        ((stockStream 1).run opening responseFirst).pending itemId →
      valueOf client.state.availability itemId =
        available 1 ((stockStream 1).run opening responseFirst).world.tables itemId) ∧
      ((stockStream 1).run opening responseFirst).threads = [] ∧
      available 1 ((stockStream 1).run opening responseFirst).world.tables 7 = some 15 :=
  ⟨views_converge 1 _ 1 responseFirst (by decide +kernel), by decide +kernel, by decide +kernel⟩

/-- Everything is delivered, and the client shows ten units where the server has fifteen. -/
theorem event_first_stays_stale :
    ((stockStream 1).run opening eventFirst).threads = [] ∧
      ((stockStream 1).run opening eventFirst).world.clients.map (fun client =>
        (client.isSubscribed, client.frames, valueOf client.state.availability 7)) = [(true, [], some 10)] ∧
      available 1 ((stockStream 1).run opening eventFirst).world.tables 7 = some 15 := by
  decide +kernel

end Samples
end ApexEdge.Proofs.TerminalViews
