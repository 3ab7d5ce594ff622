import ApexEdge.Hub.StockStream
import ApexEdge.Proofs.StockBooks

/-! Who still has to announce what: each pending request stands for the items that its
command will read for a broadcast and for what it has read already. An event counts as
announced from its number on, or from when it is sent. -/

namespace ApexEdge.Proofs.StockBroadcasts
open Library Library.Replica Payment Domain Storage Pos
open Hub Hub.StockStream Proofs.StockBooks Proofs.Reservations InventoryLedger

/-- When an event counts as announced: for those who go by the numbers, or by the frames. -/
inductive Log where
  | numbers | frames
  deriving DecidableEq

/-- What a request announces later, and what a snapshot that is being built has read. -/
structure Standing where
  announcer : Announcer Uuid Int
  seen : Entries Uuid Int

namespace Standing

def idle : Standing := ⟨.idle, []⟩

def owing (items : List Uuid) : Standing := ⟨⟨items, []⟩, []⟩

def reading (rest : List Uuid) (read : Entries Uuid Int) : Standing := ⟨⟨rest, read⟩, []⟩

def building (stock : Entries Uuid Int) : Standing := ⟨.idle, stock⟩

/-- The second sees to all that the first has to. -/
def Within (first second : Standing) : Prop :=
  first.announcer.due ⊆ second.announcer.due ∧ first.announcer.read = second.announcer.read ∧ first.seen = second.seen

theorem within_self (standing : Standing) : standing.Within standing := ⟨fun _ => id, rfl, rfl⟩

end Standing

section Standings
variable (log : Log)

def standing (request : LiveRequest) : Standing :=
  match request with
  | .write frame _ | .proceed frame | .getCatalogItemBySku frame _ => .owing frame.owed
  | .getInventoryState itemId rest read => .reading (itemId :: rest) read
  | .number payload => .reading [] payload.stock
  | .send _ payload =>
    match log with
    | .numbers => .idle
    | .frames => .reading [] payload.stock
  | .listParkedCarts stock | .presentRegisters stock | .currentSeq stock _ => .building stock
  | .arrive _ snapshot => .building snapshot.stock
  | .listAvailableToSell | .subscribe _ | .receive _ => .idle

/-- Whether the write may have changed what can be sold. -/
def changes (call : StockWrite) (reply : call.Reply) : Bool :=
  match call, reply with
  | .ensureInventoryState .., .ok created => created
  | .tryReserve _, .ok outcome => outcome = .reserved
  | .insertStockMovement .., _ => false
  | .ensureInventoryState .., .error _ | .tryReserve _, .error _ => false
  | .releaseLineReservation _, reply | .releaseCartReservations _, reply | .commitCartSale _, reply
  | .applyLocalDelta .., reply | .seedInventoryFromCatalog, reply | .rebaseBaseline .., reply
  | .expireStaleReservations, reply => reply.isOk

/-- A hold that could not be taken ends the command. -/
def refuses (call : StockWrite) (reply : call.Reply) : Bool :=
  match call, reply with
  | .tryReserve _, .error _ => true
  | .tryReserve _, .ok (.insufficient _) => true
  | _, _ => false

/-- The items that the command has to announce once it has the reply to a write. -/
def owedAfter (frame : StockFrame) (call : StockWrite) (reply : call.Reply) : List Uuid :=
  if refuses call reply then [] else StockFrame.owed { frame with changed := frame.changed || changes call reply }

/-- What the reply leaves to be announced. -/
def afterwards (request : LiveRequest) (reply : request.Reply) : Standing :=
  match request, reply with
  | .write frame call, reply => .owing (owedAfter frame call reply)
  | .proceed frame, proceeds => .owing (if proceeds then frame.owed else [])
  | .getCatalogItemBySku frame _, _ => .owing frame.owed
  | .getInventoryState .., .error _ => .idle
  | .getInventoryState _ rest read, .ok none => .reading rest read
  | .getInventoryState itemId rest read, .ok (some row) => .reading rest (put read (itemId, row.availableToSell))
  | .number payload, _ =>
    match log with
    | .numbers => .idle
    | .frames => .reading [] payload.stock
  | .listAvailableToSell, .ok stock => .building stock
  | .listAvailableToSell, .error _ => .idle
  | .listParkedCarts stock, _ => .building stock
  | .presentRegisters stock, _ => .building stock
  | .currentSeq stock _, _ => .building stock
  | .send .., _ | .arrive .., _ | .subscribe _, _ | .receive _, _ => .idle

def follows (request : LiveRequest) (reply : request.Reply) (next : LiveRequest) : Prop :=
  (afterwards log request reply).Within (standing log next)

/-- A command may end when it has nothing to announce. -/
def conduct : Protocol LiveRequest LiveRequest.Reply :=
  { follows := follows log, rests := fun may => ∃ next, may next ∧ (standing log next).announcer = .idle }

/-- Every program opens with nothing that was read. -/
def Opens (_ : LiveTask) (request : LiveRequest) : Prop := Standing.idle.Within (standing log request)

end Standings

section Conduct
open Protocol
variable {log : Log} {may : LiveRequest → Prop}

/-- The program may go on as long as it sees to this. -/
def Allows (log : Log) (may : LiveRequest → Prop) (owed : Standing) : Prop :=
  ∀ next, owed.Within (standing log next) → may next

theorem allows_follows {request : LiveRequest} {reply : request.Reply} :
    Allows log (follows log request reply) (afterwards log request reply) := fun _ within => within

theorem rests_of_building {stock : Entries Uuid Int} (allows : Allows log may (.building stock)) :
    (conduct log).rests may :=
  ⟨.listParkedCarts stock, allows _ (Standing.within_self _), rfl⟩

theorem rests_of_idle (allows : Allows log may .idle) : (conduct log).rests may := rests_of_building allows

theorem rests_of_owing (allows : Allows log may (.owing [])) : (conduct log).rests may := rests_of_idle allows

theorem keeps_publish (payload : StreamPayload) (allows : Allows log may (.reading [] payload.stock)) :
    (conduct log).Keeps may (fun may _ => (conduct log).rests may) (publish payload) := by
  refine ⟨allows _ (Standing.within_self _), fun envelope => ⟨?_, fun _ => ?_⟩⟩
  · show (afterwards log (.number payload) envelope).Within (standing log (.send envelope payload))
    cases log <;> exact Standing.within_self _
  · exact rests_of_idle allows_follows

/-- Reading goes on item by item, and ends with all that was read, or with nothing. -/
theorem keeps_reading (itemIds : List Uuid) (read : Entries Uuid Int) (allows : Allows log may (.reading itemIds read)) :
    (conduct log).Keeps may (fun may result =>
      match result with
      | some all => Allows log may (.reading [] all)
      | none => Allows log may .idle) (availableToSellForItems read itemIds) := by
  induction itemIds generalizing may read with
  | nil => exact allows
  | cons itemId rest ih =>
    refine ⟨allows _ (Standing.within_self _), fun reply => ?_⟩
    match reply with
    | .error error => exact @allows_follows log (.getInventoryState itemId rest read) (.error error)
    | .ok none => exact ih _ allows_follows
    | .ok (some row) => exact ih _ allows_follows

theorem keeps_broadcast (itemIds : List Uuid) (allows : Allows log may (.owing itemIds)) :
    (conduct log).Keeps may (fun may _ => (conduct log).rests may) (broadcastStockChanged itemIds) := by
  apply Keeps.bind
  apply (keeps_reading itemIds [] allows).mono
  rintro may (_ | _ | ⟨entry, read⟩) kept
  · exact rests_of_idle kept
  · exact rests_of_owing kept
  · exact keeps_publish _ kept

/-- What is owed is among what will be broadcast. -/
theorem allows_items {frame : StockFrame} (allows : Allows log may (.owing frame.owed)) :
    Allows log may (.owing frame.items) := by
  refine fun next within => allows next ⟨fun item owed => within.1 ?_, within.2⟩
  unfold StockFrame.owed at owed
  split at owed
  · exact owed
  · cases owed

theorem keeps_save (frame : StockFrame) (allows : Allows log may (.owing frame.owed)) :
    (conduct log).Keeps may (fun may _ => (conduct log).rests may) (saveAndBroadcast frame) := by
  refine ⟨allows _ (Standing.within_self _), fun priced => ?_⟩
  cases priced with
  | false => exact rests_of_owing allows_follows
  | true =>
    refine ⟨Standing.within_self _, fun saved => ?_⟩
    cases saved with
    | false => exact rests_of_owing allows_follows
    | true => exact keeps_broadcast _ (allows_items allows_follows)

theorem keeps_silent (call : StockWrite) (allows : Allows log may (.owing [])) :
    (conduct log).Keeps may (fun may _ => (conduct log).rests may)
      (do let _ ← writeStock .silent call : LiveProgram Unit) := by
  refine ⟨allows _ (Standing.within_self _), fun reply => ?_⟩
  have nothing : owedAfter .silent call reply = [] := by
    unfold owedAfter StockFrame.owed StockFrame.silent
    split
    · rfl
    · split <;> rfl
  refine rests_of_owing ?_
  have follows := @allows_follows log (.write .silent call) reply
  rw [show afterwards log (.write .silent call) reply = .owing (owedAfter .silent call reply) from rfl, nothing]
    at follows
  exact follows

theorem keeps_settle (itemIds : List Uuid) (call : StockWrite) (allows : Allows log may (.owing [])) :
    (conduct log).Keeps may (fun may _ => (conduct log).rests may) (settleStock itemIds call) := by
  refine ⟨allows _ (Standing.within_self _), fun reply => keeps_broadcast _ ?_⟩
  refine fun next within => ⟨fun item owed => within.1 ?_, within.2⟩
  change item ∈ owedAfter ⟨itemIds, false⟩ call reply at owed
  unfold owedAfter StockFrame.owed at owed
  split at owed
  · cases owed
  · split at owed
    · exact owed
    · cases owed

theorem keeps_saveAdded (hold : StockHold) (frame : StockFrame) (allows : Allows log may (.owing frame.owed)) :
    (conduct log).Keeps may (fun may _ => (conduct log).rests may) (saveAddedLine hold frame) := by
  refine ⟨allows _ (Standing.within_self _), fun priced => ?_⟩
  cases priced with
  | false => exact rests_of_owing allows_follows
  | true =>
    refine ⟨Standing.within_self _, fun totalled => ?_⟩
    cases totalled with
    | false => exact keeps_silent _ allows_follows
    | true =>
      refine ⟨Standing.within_self _, fun saved => ?_⟩
      cases saved with
      | false => exact keeps_silent _ allows_follows
      | true => exact keeps_broadcast _ (allows_items allows_follows)

theorem keeps_reserve (hold : StockHold) (created : Bool)
    (allows : Allows log may (.owing (StockFrame.owed ⟨[hold.itemId], created⟩))) :
    (conduct log).Keeps may (fun may _ => (conduct log).rests may) (reserveAddedLine hold created) := by
  refine ⟨allows _ (Standing.within_self _), fun reply => ?_⟩
  have goesOn : Allows log (follows log (.write ⟨[hold.itemId], created⟩ (.tryReserve hold)) reply)
      (.owing (owedAfter ⟨[hold.itemId], created⟩ (.tryReserve hold) reply)) := allows_follows
  match reply with
  | .error _ => exact rests_of_owing goesOn
  | .ok (.insufficient _) => exact rests_of_owing goesOn
  | .ok .reserved =>
    simp only [owedAfter, refuses, changes, Bool.or_true, decide_true] at goesOn
    exact keeps_saveAdded hold _ goesOn
  | .ok .untracked =>
    simp only [owedAfter, refuses, changes, reduceCtorEq, decide_false, Bool.or_false] at goesOn
    exact keeps_saveAdded hold _ goesOn

theorem keeps_addLineItem (hold : StockHold) (baseline : Option Int) (allows : Allows log may (.owing [])) :
    (conduct log).Keeps may (fun may _ => (conduct log).rests may) (addLineItem hold baseline) := by
  cases baseline with
  | none => exact keeps_reserve hold false allows
  | some qty =>
    refine ⟨allows _ (Standing.within_self _), fun reply => ?_⟩
    match reply with
    | .error error => exact rests_of_owing (@allows_follows log (.write ⟨_, _⟩ (.ensureInventoryState _ _)) (.error error))
    | .ok created =>
      exact keeps_reserve hold created (@allows_follows log (.write ⟨_, _⟩ (.ensureInventoryState _ _)) (.ok created))

theorem keeps_updateLineItem (hold : StockHold) (oldQty : Int) (allows : Allows log may (.owing [])) :
    (conduct log).Keeps may (fun may _ => (conduct log).rests may) (StockStream.updateLineItem hold oldQty) := by
  unfold StockStream.updateLineItem
  dsimp only
  split
  · exact keeps_save ⟨_, false⟩ allows
  · refine ⟨allows _ (Standing.within_self _), fun released => ?_⟩
    match released with
    | .error error =>
      exact rests_of_owing (@allows_follows log (.write ⟨_, _⟩ (.releaseLineReservation _)) (.error error))
    | .ok () =>
      refine ⟨Standing.within_self _, fun held => ?_⟩
      have goesOn : Allows log (follows log (.write ⟨[hold.itemId], true⟩ (.tryReserve hold)) held)
          (.owing (owedAfter ⟨[hold.itemId], true⟩ (.tryReserve hold) held)) := allows_follows
      match held with
      | .error _ => exact rests_of_owing goesOn
      | .ok (.insufficient _) => exact keeps_silent _ goesOn
      | .ok .reserved => exact keeps_save ⟨_, true⟩ goesOn
      | .ok .untracked => exact keeps_save ⟨_, true⟩ goesOn

theorem keeps_moveStock (registerId itemId : Uuid) (quantityDelta : Int) (allows : Allows log may (.owing [])) :
    (conduct log).Keeps may (fun may _ => (conduct log).rests may) (moveStock registerId itemId quantityDelta) := by
  refine ⟨allows _ (Standing.within_self _), fun reply => ?_⟩
  match reply with
  | .error error =>
    exact rests_of_owing (@allows_follows log (.write ⟨_, _⟩ (.insertStockMovement _ _ _)) (.error error))
  | .ok () =>
    exact keeps_settle _ _ (@allows_follows log (.write ⟨_, _⟩ (.insertStockMovement _ _ _)) (.ok ()))

theorem keeps_finalizeOrder (cartId : Uuid) (soldItemIds : List Uuid) (allows : Allows log may (.owing [])) :
    (conduct log).Keeps may (fun may _ => (conduct log).rests may) (finalizeOrder cartId soldItemIds) := by
  refine ⟨allows _ (Standing.within_self _), fun reply => keeps_save ⟨_, true⟩ ?_⟩
  match reply with
  | .error error => exact fun next within => ⟨fun _ owed => (nomatch owed), within.2⟩
  | .ok () => exact @allows_follows log (.write ⟨_, _⟩ (.commitCartSale _)) (.ok ())

theorem keeps_finalizeReturn (lines : List RestockLine) (restocked : List Uuid)
    (allows : Allows log may (.owing restocked)) :
    (conduct log).Keeps may (fun may _ => (conduct log).rests may) (finalizeReturn restocked lines) := by
  induction lines generalizing may restocked with
  | nil => exact keeps_broadcast _ allows
  | cons line rest ih =>
    refine ⟨allows _ (Standing.within_self _), fun reply => ?_⟩
    have goesOn : Allows log (follows log (.getCatalogItemBySku ⟨restocked, true⟩ line.sku) reply)
        (.owing restocked) := allows_follows
    match reply with
    | .error _ => exact ih _ goesOn
    | .ok none => exact ih _ goesOn
    | .ok (some itemId) =>
      refine ⟨⟨fun item owed => List.mem_append_left _ owed, rfl, rfl⟩, fun applied => ih _ ?_⟩
      exact @allows_follows log (.write ⟨restocked ++ [itemId], true⟩ (.applyLocalDelta itemId line.quantity)) applied

theorem keeps_posSnapshot (allows : Allows log may .idle) :
    (conduct log).Keeps may (fun may result =>
      match result with
      | some snapshot => Allows log may (.building snapshot.stock)
      | none => (conduct log).rests may) posSnapshot := by
  refine ⟨allows _ (Standing.within_self _), fun stock => ?_⟩
  match stock with
  | .error error => exact rests_of_idle (@allows_follows log .listAvailableToSell (.error error))
  | .ok stock =>
    refine ⟨Standing.within_self _, fun parked => ?_⟩
    match parked with
    | .error error => exact rests_of_building (@allows_follows log (.listParkedCarts stock) (.error error))
    | .ok () =>
      refine ⟨Standing.within_self _, fun registers => ⟨Standing.within_self _, fun seq => ?_⟩⟩
      exact @allows_follows log (.currentSeq stock registers) seq

theorem keeps_task (task : LiveTask) :
    (conduct log).Keeps (Opens log task) (fun may _ => (conduct log).rests may) task.program := by
  have allows : Allows log (Opens log task) .idle := fun _ within => within
  cases task with
  | addLineItem hold baseline => exact keeps_addLineItem hold baseline allows
  | updateLineItem hold oldQty => exact keeps_updateLineItem hold oldQty allows
  | removeLineItem lineId removedItemId => exact keeps_settle _ _ allows
  | voidCart cartId voidedItemIds => exact keeps_settle _ _ allows
  | moveStock registerId itemId quantityDelta => exact keeps_moveStock registerId itemId quantityDelta allows
  | finalizeOrder cartId soldItemIds => exact keeps_finalizeOrder cartId soldItemIds allows
  | finalizeReturn lines => exact keeps_finalizeReturn lines [] allows
  | quietly call => exact keeps_silent call allows
  | registerPresence present => exact keeps_publish _ allows
  | cartHandoff notice => exact keeps_publish _ allows
  | snapshot =>
    apply Keeps.bind
    apply (keeps_posSnapshot allows).mono
    rintro may (_ | snapshot) kept
    · exact kept
    · exact rests_of_building kept
  | loadSnapshot client =>
    apply Keeps.bind
    apply (keeps_posSnapshot allows).mono
    rintro may (_ | snapshot) kept
    · exact kept
    · exact ⟨kept _ (Standing.within_self _), fun _ => rests_of_idle allows_follows⟩
  | subscribe client => exact ⟨allows _ (Standing.within_self _), fun _ => rests_of_idle allows_follows⟩
  | receive client => exact ⟨allows _ (Standing.within_self _), fun _ => rests_of_idle allows_follows⟩

end Conduct

section Tracking
variable {storeId itemId : Uuid} {tables after : InventoryTables}

theorem available_ne_none : available storeId tables itemId ≠ none ↔ Tracked storeId itemId tables := by
  rw [tracked_iff, available, Ne, Option.map_eq_none_iff, ← Ne, Option.ne_none_iff_isSome, List.any_eq_true]
  exact List.find?_isSome

theorem tracked_more (tracked : Tracked storeId itemId tables) (more : tables.inventoryState ⊆ after.inventoryState) :
    Tracked storeId itemId after := by
  obtain ⟨row, member, key⟩ := tracked
  exact ⟨row, more member, key⟩

theorem close_tracked (tracked : Tracked storeId itemId tables) (selects : ReservationRow → Bool)
    (closed : ReservationState) (now : Timestamp) :
    Tracked storeId itemId (closeReservations lessHeld selects closed now tables).2 := by
  rw [close_tables]
  exact tracked_map rfl (fun row => (closeRow_sold lessHeld _ now _ row).1) tracked

theorem reserve_tracked (tracked : Tracked storeId itemId tables) (id : Uuid) (input : ReserveInput) (now : Timestamp) :
    Tracked storeId itemId (tryReserve id input now tables).2 := by
  unfold tryReserve
  split
  · exact tracked
  split
  · exact tracked
  dsimp only
  split
  · split
    · exact tracked
    · exact tracked_map rfl (fun row => (reserveUpdate input now).row_column itemKey (fun _ => rfl) row) tracked
  · exact tracked

/-- A tracked item stays tracked. -/
theorem write_tracked (choice : LiveChoice) (call : StockWrite) (tracked : Tracked storeId itemId tables) :
    Tracked storeId itemId (performStockWrite storeId choice tables call).2 := by
  unfold performStockWrite
  cases choice.storageFailure with
  | some error => exact tracked
  | none =>
    cases call with
    | ensureInventoryState item baselineQty =>
      show Tracked storeId itemId (ensureInventoryState storeId item baselineQty choice.now tables).2
      unfold ensureInventoryState
      split
      · exact tracked
      · exact tracked_more tracked (List.subset_append_left _ _)
    | tryReserve hold => exact reserve_tracked tracked _ _ _
    | releaseLineReservation lineId => exact close_tracked tracked _ _ _
    | releaseCartReservations cartId => exact close_tracked tracked _ _ _
    | commitCartSale cartId => exact close_tracked tracked _ _ _
    | expireStaleReservations => exact close_tracked tracked _ _ _
    | insertStockMovement registerId item quantityDelta =>
      show Tracked storeId itemId (insertStockMovement _ tables).2
      unfold insertStockMovement
      split
      · exact tracked
      · exact tracked_more tracked (List.Subset.refl _)
    | applyLocalDelta item delta =>
      show Tracked storeId itemId (applyLocalDelta storeId item delta choice.now tables).2
      unfold applyLocalDelta
      dsimp only
      split
      · exact tracked_map rfl (fun row => Table.Update.row_column _ itemKey (fun _ => rfl) row) tracked
      · exact tracked
    | seedInventoryFromCatalog =>
      show Tracked storeId itemId (seedFromCatalog storeId choice.catalog choice.now tables).2
      unfold seedFromCatalog
      dsimp only
      split
      · exact tracked_more tracked (List.subset_append_left _ _)
      · exact tracked
    | rebaseBaseline item newBaselineQty reflectedThrough =>
      show Tracked storeId itemId (rebaseBaseline storeId item newBaselineQty reflectedThrough choice.now tables)
      unfold rebaseBaseline Table.upsert
      dsimp only
      split
      · exact tracked_map rfl (fun row => Table.Update.row_column _ itemKey (fun _ => rfl) row) tracked
      · exact tracked_more tracked (List.subset_append_left _ _)

theorem live_tracked (choice : LiveChoice) (world : LiveWorld) (request : LiveRequest)
    (tracked : Tracked storeId itemId world.tables) :
    Tracked storeId itemId (performLive storeId choice world request).2.tables := by
  cases request with
  | write frame call => exact write_tracked choice call tracked
  | _ => exact tracked

end Tracking

section Genuine
variable (storeId : Uuid)

/-- Only tracked items are told of. -/
def TrackedOnly (tables : InventoryTables) (entries : Entries Uuid Int) : Prop :=
  ∀ entry ∈ entries, Tracked storeId entry.1 tables

/-- What was read was read of tracked items. -/
def Genuine (tables : InventoryTables) (standing : Standing) : Prop :=
  TrackedOnly storeId tables standing.announcer.read ∧ TrackedOnly storeId tables standing.seen

variable {storeId} {log : Log} {tables : InventoryTables}

theorem trackedOnly_nil : TrackedOnly storeId tables [] := fun _ member => (nomatch member)

theorem genuine_idle : Genuine storeId tables .idle := ⟨trackedOnly_nil, trackedOnly_nil⟩

theorem TrackedOnly.mono {after : InventoryTables} {entries : Entries Uuid Int}
    (genuine : TrackedOnly storeId tables entries)
    (stays : ∀ itemId, Tracked storeId itemId tables → Tracked storeId itemId after) :
    TrackedOnly storeId after entries :=
  fun entry member => stays _ (genuine entry member)

theorem TrackedOnly.put {entries : Entries Uuid Int} (genuine : TrackedOnly storeId tables entries)
    {entry : Uuid × Int} (tracked : Tracked storeId entry.1 tables) : TrackedOnly storeId tables (put entries entry) := by
  intro told member
  rcases Table.mem_upsert member with rfl | old | ⟨_, _, rfl⟩
  · exact tracked
  · exact genuine told old
  · exact tracked

theorem trackedOnly_list : TrackedOnly storeId tables (listAvailableToSell storeId tables) := by
  intro entry member
  obtain ⟨row, held, rfl⟩ := List.mem_map.mp member
  obtain ⟨present, store⟩ := List.mem_filter.mp held
  exact ⟨row, present, of_decide_eq_true store, rfl⟩

/-- Of an untracked item nothing is told. -/
theorem TrackedOnly.untold {entries : Entries Uuid Int} (genuine : TrackedOnly storeId tables entries) {itemId : Uuid}
    (untracked : available storeId tables itemId = none) : valueOf (patch [] entries) itemId = none := by
  by_contra told
  obtain ⟨value, said⟩ := Option.ne_none_iff_exists'.mp told
  exact available_ne_none.mpr (genuine _ (mem_of_valueOf_patch said)) untracked

theorem genuine_step (choice : LiveChoice) (world : LiveWorld) (request : LiveRequest)
    (genuine : Genuine storeId world.tables (standing log request)) :
    Genuine storeId (performLive storeId choice world request).2.tables
      (afterwards log request (performLive storeId choice world request).1) := by
  cases request with
  | write frame call => exact genuine_idle
  | proceed frame => exact genuine_idle
  | getCatalogItemBySku frame sku => exact genuine_idle
  | getInventoryState itemId rest read =>
    unfold performLive
    dsimp only
    cases choice.storageFailure with
    | some error => exact genuine_idle
    | none =>
      dsimp only
      cases found : getInventoryState storeId itemId world.tables with
      | none => exact genuine
      | some row =>
        have tracked : Tracked storeId itemId world.tables := by
          refine ⟨row, List.mem_of_find?_eq_some found, ?_⟩
          simpa [ofItem] using List.find?_some found
        exact ⟨genuine.1.put tracked, trackedOnly_nil⟩
  | number payload =>
    cases log with
    | numbers => exact genuine_idle
    | frames => exact genuine
  | send envelope payload => exact genuine_idle
  | listAvailableToSell =>
    unfold performLive
    dsimp only
    cases choice.storageFailure with
    | some error => exact genuine_idle
    | none => exact ⟨trackedOnly_nil, trackedOnly_list⟩
  | listParkedCarts stock => exact genuine
  | presentRegisters stock => exact genuine
  | currentSeq stock registers => exact genuine
  | arrive client snapshot => exact genuine_idle
  | subscribe client => exact genuine_idle
  | receive client => exact genuine_idle

end Genuine
section Words
variable (storeId : Uuid) (log : Log)

def announcers (standings : Multiset Standing) : Multiset (Announcer Uuid Int) := standings.map Standing.announcer

def standings (requests : List LiveRequest) : Multiset Standing := (requests : Multiset LiveRequest).map (standing log)

/-- Another command in flight will announce the item as it is. -/
def InHand (tables : InventoryTables) (others : List LiveRequest) (itemId : Uuid) : Prop :=
  Covered (announcers (standings log others)) (available storeId tables) itemId

instance (tables : InventoryTables) (others : List LiveRequest) (itemId : Uuid) :
    Decidable (InHand storeId log tables others itemId) :=
  inferInstanceAs (Decidable (Covered ..))

def itemsOf (tables : InventoryTables) : List Uuid := tables.inventoryState.map InventoryStateRow.itemId

/-- The items that a request may have to announce. -/
def subjects (request : LiveRequest) : List Uuid :=
  (standing log request).announcer.due ++ (standing log request).announcer.read.map Prod.fst

/-- What the step changes, and what was to be announced as it is, will be announced: by what
follows, or by another command. -/
def KeepsWord (world : LiveWorld) (others : List LiveRequest) (request : LiveRequest) (choice : LiveChoice) : Prop :=
  let answered := performLive storeId choice world request
  let after := available storeId answered.2.tables
  ∀ itemId ∈ subjects log request ++ itemsOf world.tables ++ itemsOf answered.2.tables,
    after itemId ≠ available storeId world.tables itemId ∨
      (standing log request).announcer.Covers (available storeId world.tables) itemId →
    (afterwards log request answered.1).announcer.Covers after itemId ∨
      InHand storeId log answered.2.tables others itemId ∨ after itemId = none

/-- Every value that is told is what can be sold now, or another command will announce the item. -/
def IsFresh (tables : InventoryTables) (others : List LiveRequest) (items : List Uuid) (told : Entries Uuid Int) : Prop :=
  ∀ itemId ∈ items, valueOf told itemId = available storeId tables itemId ∨ InHand storeId log tables others itemId

/-- A request that is given up leaves nothing to be announced that no other will announce. -/
def MayDrop (world : LiveWorld) (others : List LiveRequest) (request : LiveRequest) : Prop :=
  ∀ itemId ∈ subjects log request,
    (standing log request).announcer.Covers (available storeId world.tables) itemId →
      InHand storeId log world.tables others itemId

instance (world : LiveWorld) (others : List LiveRequest) (request : LiveRequest) (choice : LiveChoice) :
    Decidable (KeepsWord storeId log world others request choice) := by
  unfold KeepsWord
  infer_instance

instance (tables : InventoryTables) (others : List LiveRequest) (items : List Uuid) (told : Entries Uuid Int) :
    Decidable (IsFresh storeId log tables others items told) := by
  unfold IsFresh
  infer_instance

instance (world : LiveWorld) (others : List LiveRequest) (request : LiveRequest) :
    Decidable (MayDrop storeId log world others request) := by
  unfold MayDrop
  infer_instance

variable {storeId log} {world : LiveWorld} {others : List LiveRequest} {request : LiveRequest} {choice : LiveChoice}
  {itemId : Uuid}

theorem mem_subjects (covers : (standing log request).announcer.Covers (available storeId world.tables) itemId) :
    itemId ∈ subjects log request := by
  rcases covers with due | ⟨told, _⟩
  · exact List.mem_append_left _ due
  · obtain ⟨value, said⟩ := Option.ne_none_iff_exists'.mp told
    exact List.mem_append_right _ (List.mem_map_of_mem (mem_of_valueOf_patch said))

theorem mem_itemsOf {tables : InventoryTables} (tracked : available storeId tables itemId ≠ none) :
    itemId ∈ itemsOf tables := by
  obtain ⟨row, member, _, rfl⟩ := available_ne_none.mp tracked
  exact List.mem_map_of_mem member

/-- A command that keeps its word leaves every copy as right as it was. -/
theorem tracks_step {wanted : Uuid → Prop} {view : Entries Uuid Int}
    (tracks : Tracks wanted view (available storeId world.tables)
      (announcers (standing log request ::ₘ standings log others)))
    (keeps : KeepsWord storeId log world others request choice) :
    Tracks wanted view (available storeId (performLive storeId choice world request).2.tables)
      (announcers (afterwards log request (performLive storeId choice world request).1 ::ₘ standings log others)) := by
  unfold announcers at tracks ⊢
  rw [Multiset.map_cons] at tracks ⊢
  refine tracks.change ?_ ?_
  · intro item gone
    by_contra tracked
    exact available_ne_none.mpr (live_tracked choice world request (available_ne_none.mp tracked)) gone
  · intro item moved
    have listed : item ∈ subjects log request ++ itemsOf world.tables ++
        itemsOf (performLive storeId choice world request).2.tables := by
      rcases moved with moved | covers
      · by_cases there : available storeId world.tables item = none
        · rw [there] at moved
          exact List.mem_append_right _ (mem_itemsOf moved)
        · exact List.mem_append_left _ (List.mem_append_right _ (mem_itemsOf there))
      · exact List.mem_append_left _ (List.mem_append_left _ (mem_subjects covers))
    rcases keeps item listed moved with own | other | gone
    · exact .inl (covered_cons.mpr (.inl own))
    · exact .inl (covered_cons.mpr (.inr other))
    · exact .inr gone

/-- What a statement about the room and its standings needs, so that every run whose steps meet
the condition keeps it. -/
structure Keeping (storeId : Uuid) (log : Log) (condition : Condition LiveRequest LiveWorld LiveChoice)
    (holds : LiveWorld → Multiset Standing → Prop) : Prop where
  opened : ∀ {world pending next}, holds world pending → Standing.idle.Within next → holds world (next ::ₘ pending)
  passed : ∀ {world pending owed next}, holds world (owed ::ₘ pending) → Standing.Within owed next →
    holds world (next ::ₘ pending)
  closed : ∀ {world pending owed}, holds world (owed ::ₘ pending) → owed.announcer = .idle → holds world pending
  stepped : ∀ {world others request choice}, condition.step world others request choice →
    holds world (standing log request ::ₘ standings log others) →
    holds (performLive storeId choice world request).2
      (afterwards log request (performLive storeId choice world request).1 ::ₘ standings log others)
  dropped : ∀ {world others request}, condition.drop world others request →
    holds world (standing log request ::ₘ standings log others) → holds world (standings log others)

theorem Keeping.invariant {condition : Condition LiveRequest LiveWorld LiveChoice}
    {holds : LiveWorld → Multiset Standing → Prop} (keeping : Keeping storeId log condition holds) :
    Invariant (stockStream storeId) (conduct log) condition (Opens log)
      fun world pending => holds world (pending.map (standing log)) where
  keeps := keeps_task
  started world others task op _ opens held := by
    rw [Multiset.map_cons]
    exact keeping.opened held opens
  continued choice world others op next meets held follows := by
    rw [Multiset.map_cons] at held ⊢
    exact keeping.passed (keeping.stepped meets held) follows
  finished choice world others op meets held rests := by
    rw [Multiset.map_cons] at held
    obtain ⟨next, follows, idle⟩ := rests
    exact keeping.closed (keeping.passed (keeping.stepped meets held) follows) idle
  dropped world others op may held := by
    rw [Multiset.map_cons] at held
    exact keeping.dropped may held

/-- The part about the announcers: how the standings of commands come and go. -/
theorem tracks_passed {wanted : Uuid → Prop} {view : Entries Uuid Int} {source : Uuid → Option Int}
    {pending : Multiset Standing} {owed next : Standing}
    (tracks : Tracks wanted view source (announcers (owed ::ₘ pending))) (within : owed.Within next) :
    Tracks wanted view source (announcers (next ::ₘ pending)) := by
  unfold announcers at tracks ⊢
  rw [Multiset.map_cons] at tracks ⊢
  refine tracks.hand_over fun key covers => ?_
  obtain ⟨due, read, _⟩ := within
  rcases covers with still | told
  · exact .inl (due still)
  · exact .inr (read ▸ told)

theorem tracks_closed {wanted : Uuid → Prop} {view : Entries Uuid Int} {source : Uuid → Option Int}
    {pending : Multiset Standing} {owed : Standing}
    (tracks : Tracks wanted view source (announcers (owed ::ₘ pending))) (idle : owed.announcer = .idle) :
    Tracks wanted view source (announcers pending) := by
  unfold announcers at tracks ⊢
  rw [Multiset.map_cons, idle] at tracks
  exact tracks.dismiss fun key covers => absurd covers Announcer.idle_covers

theorem tracks_opened {wanted : Uuid → Prop} {view : Entries Uuid Int} {source : Uuid → Option Int}
    {pending : Multiset Standing} {next : Standing} (tracks : Tracks wanted view source (announcers pending)) :
    Tracks wanted view source (announcers (next ::ₘ pending)) := by
  unfold announcers at tracks ⊢
  rw [Multiset.map_cons]
  exact tracks.subscribe

theorem tracks_dropped {wanted : Uuid → Prop} {view : Entries Uuid Int}
    (tracks : Tracks wanted view (available storeId world.tables)
      (announcers (standing log request ::ₘ standings log others)))
    (may : MayDrop storeId log world others request) :
    Tracks wanted view (available storeId world.tables) (announcers (standings log others)) := by
  unfold announcers at tracks
  rw [Multiset.map_cons] at tracks
  exact tracks.dismiss fun item covers => may item (mem_subjects covers) covers

/-- A copy is patched with what the announcer has read, each value being fresh. -/
theorem tracks_announced {wanted more : Uuid → Prop} {view told : Entries Uuid Int}
    (tracks : Tracks wanted view (available storeId world.tables)
      (announcers (.reading [] told ::ₘ standings log others)))
    (wants : ∀ itemId, more itemId → wanted itemId ∨ itemId ∈ told.map Prod.fst)
    (genuine : TrackedOnly storeId world.tables told)
    (fresh : IsFresh storeId log world.tables others (told.map Prod.fst) (patch [] told)) :
    Tracks more (patch view told) (available storeId world.tables) (announcers (standings log others)) := by
  unfold announcers at tracks
  rw [Multiset.map_cons] at tracks
  refine tracks.announce rfl (fun item more => (wants item more).imp_right valueOf_patch_told) fun item value said => ?_
  have member := mem_of_valueOf_patch said
  rcases fresh item (List.mem_map_of_mem member) with current | other
  · exact .inl (current.symm.trans said)
  · exact .inr ⟨available_ne_none.mpr (genuine _ member), other⟩

theorem genuine_opened {tables : InventoryTables} {pending : Multiset Standing} {next : Standing}
    (genuine : ∀ other ∈ pending, Genuine storeId tables other) (opens : Standing.idle.Within next) :
    ∀ other ∈ next ::ₘ pending, Genuine storeId tables other := by
  intro other member
  rcases Multiset.mem_cons.mp member with rfl | present
  · exact ⟨opens.2.1 ▸ trackedOnly_nil, opens.2.2 ▸ trackedOnly_nil⟩
  · exact genuine other present

theorem genuine_passed {tables : InventoryTables} {pending : Multiset Standing} {owed next : Standing}
    (genuine : ∀ other ∈ owed ::ₘ pending, Genuine storeId tables other) (within : owed.Within next) :
    ∀ other ∈ next ::ₘ pending, Genuine storeId tables other := by
  intro other member
  rcases Multiset.mem_cons.mp member with rfl | present
  · obtain ⟨read, seen⟩ := genuine _ (Multiset.mem_cons_self _ _)
    exact ⟨within.2.1 ▸ read, within.2.2 ▸ seen⟩
  · exact genuine other (Multiset.mem_cons_of_mem present)

/-- What is true of the standings themselves is kept by every step. -/
theorem genuine_after {pending : Multiset Standing}
    (genuine : ∀ other ∈ standing log request ::ₘ pending, Genuine storeId world.tables other) :
    ∀ other ∈ afterwards log request (performLive storeId choice world request).1 ::ₘ pending,
      Genuine storeId (performLive storeId choice world request).2.tables other := by
  intro other member
  rcases Multiset.mem_cons.mp member with rfl | present
  · exact genuine_step choice world request (genuine _ (Multiset.mem_cons_self _ _))
  · obtain ⟨read, seen⟩ := genuine other (Multiset.mem_cons_of_mem present)
    have stays (itemId : Uuid) : Tracked storeId itemId world.tables →
      Tracked storeId itemId (performLive storeId choice world request).2.tables := live_tracked choice world request
    exact ⟨read.mono stays, seen.mono stays⟩

end Words
end ApexEdge.Proofs.StockBroadcasts
