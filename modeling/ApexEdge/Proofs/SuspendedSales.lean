import ApexEdge.Hub.Handoff
import ApexEdge.Proofs.Attempts
import ApexEdge.Proofs.CartStates

/-! A parked sale changes hands. Its entry is claimed once; but the cart stays in place for
everybody, and the copy of it is put back whatever has become of the cart. -/

namespace ApexEdge.Proofs.SuspendedSales
open Library Payment Domain Storage Contracts Hub Pos
open Handoff

/-- Each entry was recalled once. No sale is in progress at the register that has parked it and
at another one that has recalled it, and none was sold again after an outdated copy was put back. -/
structure Exclusive {Remote : Type} (world : HandoffWorld Remote) : Prop where
  once : (world.recalls.map Prod.fst).Nodup
  apart : ∀ row ∈ world.parked, ∀ other ∈ row.recalledByRegisterId, other ≠ row.registerId →
    ¬((row.registerId, row.cartId) ∈ world.inProgress ∧ (other, row.cartId) ∈ world.inProgress)
  sold : world.soldAgain = []

def lastParked (parked : List ParkedCartRow) (cartId : Uuid) : Option ParkedCartRow :=
  (parked.filter (·.cartId = cartId)).getLast?

/-- The cart was never parked, or the register has recalled it since. -/
def Holds (parked : List ParkedCartRow) (registerId cartId : Uuid) : Prop :=
  ∀ row ∈ lastParked parked cartId, row.recalledByRegisterId = some registerId

instance (parked : List ParkedCartRow) (registerId cartId : Uuid) : Decidable (Holds parked registerId cartId) :=
  inferInstanceAs (Decidable (∀ row ∈ lastParked parked cartId, row.recalledByRegisterId = some registerId))

section Steps
variable {Remote Answer : Type}

/-- A cart that was parked is saved and parked by the register only that has recalled it, and a
copy is put back while it still is what the cart is. -/
def inTurn : Condition HandoffRequest (HandoffWorld Remote) (Choice Answer) where
  step world _ request choice :=
    match request.call with
    | .hub ⟨_, .saveCart cart⟩ => choice.storageFailure = none →
      Holds world.parked request.registerId cart.id ∧
        (request.restoring → Carts.load cart.id world.hub.db.carts = some cart)
    | .insertParkedCart _ _ registerId _ cart _ => choice.storageFailure = none → Holds world.parked registerId cart.id
    | _ => True
  drop _ _ _ := True

instance (world : HandoffWorld Remote) (others : List HandoffRequest) (request : HandoffRequest)
    (choice : Choice Answer) : Decidable (inTurn.step world others request choice) := by
  unfold inTurn
  dsimp only
  split <;> infer_instance

instance (world : HandoffWorld Remote) (others : List HandoffRequest) (request : HandoffRequest) :
    Decidable ((inTurn : Condition _ _ (Choice Answer)).drop world others request) := isTrue trivial

/-- What a statement does to parked carts, and for the record. -/
inductive Handled (choice : Choice Answer) (world after : HandoffWorld Remote) (request : HandoffRequest) : Prop where
  | kept (parked : after.parked = world.parked) (inProgress : after.inProgress = world.inProgress)
      (recalls : after.recalls = world.recalls) (outdated : after.outdated = world.outdated)
      (soldAgain : after.soldAgain = world.soldAgain)
  | saved (frame : Frame) (cart : Cart) (asked : request.call = .hub ⟨frame, .saveCart cart⟩)
      (works : choice.storageFailure = none) (parked : after.parked = world.parked)
      (inProgress : after.inProgress = world.inProgress ++ [(request.registerId, cart.id)])
      (recalls : after.recalls = world.recalls)
      (outdated : after.outdated = world.outdated ++ outdates world.hub.db.carts request.restoring cart)
      (soldAgain : after.soldAgain = world.soldAgain)
  | sold (cartId : Uuid) (parked : after.parked = world.parked) (inProgress : after.inProgress = world.inProgress)
      (recalls : after.recalls = world.recalls) (outdated : after.outdated = world.outdated)
      (soldAgain : after.soldAgain = world.soldAgain ++ sellsAgain world cartId)
  | parks (id storeId registerId : Uuid) (note : Option String) (cart : Cart) (now : Timestamp)
      (asked : request.call = .insertParkedCart id storeId registerId note cart now)
      (works : choice.storageFailure = none) (unused : id ∉ world.parked.map ParkedCartRow.id)
      (parked : after.parked = world.parked ++ [ParkedCarts.newRow id storeId registerId note cart now])
      (inProgress : after.inProgress = world.inProgress.filter (· ≠ (registerId, cart.id)))
      (recalls : after.recalls = world.recalls) (outdated : after.outdated = world.outdated)
      (soldAgain : after.soldAgain = world.soldAgain)
  | claims (id registerId : Uuid) (now : Timestamp)
      (found : world.parked.any (ParkedCarts.markRecalled id registerId now).selects)
      (parked : after.parked = (ParkedCarts.markRecalled id registerId now).run world.parked)
      (inProgress : after.inProgress = world.inProgress) (recalls : after.recalls = world.recalls ++ [(id, registerId)])
      (outdated : after.outdated = world.outdated) (soldAgain : after.soldAgain = world.soldAgain)

theorem park_ok {row : ParkedCartRow} {rows after : List ParkedCartRow} (parked : ParkedCarts.park row rows = .ok after) :
    row.id ∉ rows.map ParkedCartRow.id ∧ after = rows ++ [row] := by
  unfold ParkedCarts.park at parked
  split at parked
  · cases parked
  next unused =>
    refine ⟨fun member => unused ?_, (Except.ok.inj parked).symm⟩
    obtain ⟨other, present, same⟩ := List.mem_map.mp member
    exact List.any_eq_true.mpr ⟨other, present, by simpa using same⟩

theorem handled (providers : Providers Remote Answer) (choice : Choice Answer) (world : HandoffWorld Remote)
    (request : HandoffRequest) : Handled choice world (performHandoff providers choice world request).2 request := by
  obtain ⟨key, registerId, restoring, call⟩ := request
  cases call with
  | hub request =>
    obtain ⟨frame, call⟩ := request
    cases call
    case saveCart cart =>
      simp only [performHandoff, perform, update, transact]
      cases works : choice.storageFailure with
      | some error => exact .kept rfl rfl rfl rfl rfl
      | none => exact .saved frame cart rfl works rfl rfl rfl rfl rfl
    case insertOrderLedgerEntryWithOutbox entry outboxId =>
      generalize answer : perform providers choice world.hub ⟨frame, .insertOrderLedgerEntryWithOutbox entry outboxId⟩ = answered
      obtain ⟨reply, hub⟩ := answered
      simp only [performHandoff, answer]
      rcases reply with error | done
      · exact .kept rfl rfl rfl rfl rfl
      · exact .sold entry.cartId rfl rfl rfl rfl rfl
    all_goals exact .kept rfl rfl rfl rfl rfl
  | insertParkedCart id storeId registerId note cart now =>
    simp only [performHandoff]
    cases works : choice.storageFailure with
    | some error => exact .kept rfl rfl rfl rfl rfl
    | none =>
      dsimp only
      cases inserted : ParkedCarts.park (ParkedCarts.newRow id storeId registerId note cart now) world.parked with
      | error error => exact .kept rfl rfl rfl rfl rfl
      | ok rows =>
        obtain ⟨unused, added⟩ := park_ok inserted
        exact .parks id storeId registerId note cart now rfl works unused added rfl rfl rfl rfl
  | claimParkedCart id registerId now =>
    simp only [performHandoff]
    cases choice.storageFailure with
    | some error => exact .kept rfl rfl rfl rfl rfl
    | none =>
      dsimp only
      split
      next found => exact .claims id registerId now found rfl rfl rfl rfl rfl
      next => exact .kept rfl rfl rfl rfl rfl
  | parkedCartExists id =>
    simp only [performHandoff, readParked]
    cases choice.storageFailure <;> exact .kept rfl rfl rfl rfl rfl
  | readParkedCart id =>
    simp only [performHandoff, readParked]
    cases choice.storageFailure <;> exact .kept rfl rfl rfl rfl rfl

/-! ### The last entry of a cart -/

section Last
variable {parked : List ParkedCartRow} {cartId : Uuid}

theorem lastParked_mem {row : ParkedCartRow} (last : lastParked parked cartId = some row) :
    row ∈ parked ∧ row.cartId = cartId := by
  have member := List.mem_of_getLast? last
  exact ⟨List.mem_of_mem_filter member, of_decide_eq_true (List.mem_filter.mp member).2⟩

theorem never_parked (none : lastParked parked cartId = none) : ∀ row ∈ parked, row.cartId ≠ cartId := by
  intro row member same
  have empty := List.getLast?_eq_none_iff.mp none
  have listed : row ∈ parked.filter (·.cartId = cartId) := List.mem_filter.mpr ⟨member, by simpa using same⟩
  rw [empty] at listed
  cases listed

theorem lastParked_own (row : ParkedCartRow) : lastParked (parked ++ [row]) row.cartId = some row := by
  simp [lastParked, List.filter_append]

theorem lastParked_other {row : ParkedCartRow} (other : row.cartId ≠ cartId) :
    lastParked (parked ++ [row]) cartId = lastParked parked cartId := by
  simp [lastParked, List.filter_append, other]

theorem lastParked_run (update : Table.Update ParkedCartRow) (unset : ∀ row, (update.set row).cartId = row.cartId) :
    lastParked (update.run parked) cartId = (lastParked parked cartId).map update.row := by
  have same (row : ParkedCartRow) : (update.row row).cartId = row.cartId :=
    update.row_column ParkedCartRow.cartId unset row
  unfold lastParked Table.Update.run
  rw [List.filter_map, List.getLast?_map]
  simp only [Function.comp_def, same]

end Last

/-- Entries are recalled once, and stay recalled. -/
structure Claimed (world : HandoffWorld Remote) : Prop where
  ids : (world.parked.map ParkedCartRow.id).Nodup
  once : (world.recalls.map Prod.fst).Nodup
  recalled : ∀ taking ∈ world.recalls, ∃ row ∈ world.parked, row.id = taking.1 ∧ row.recalledAt ≠ none

/-- Who has which cart in progress: whoever has recalled its last entry, and those who have
neither parked nor recalled it. Only last entries wait to be recalled. -/
structure Kept (world : HandoffWorld Remote) : Prop where
  claimed : Claimed world
  blank : ∀ row ∈ world.parked, row.recalledAt = none → row.recalledByRegisterId = none
  waiting : ∀ row ∈ world.parked, row.recalledAt = none → lastParked world.parked row.cartId = some row
  holders : ∀ held ∈ world.inProgress,
    (∃ row, lastParked world.parked held.2 = some row ∧ row.recalledByRegisterId = some held.1) ∨
      ∀ row ∈ world.parked, row.cartId = held.2 → row.registerId ≠ held.1 ∧ row.recalledByRegisterId ≠ some held.1
  current : world.outdated = []
  sold : world.soldAgain = []

section Keeping
variable {choice : Choice Answer} {world after : HandoffWorld Remote}

theorem Kept.exclusive (kept : Kept world) : Exclusive world where
  once := kept.claimed.once
  sold := kept.sold
  apart row member other recalled differs := by
    rintro ⟨here, there⟩
    -- both would have recalled the last entry
    rcases kept.holders _ here with ⟨last, found, own⟩ | apart
    · rcases kept.holders _ there with ⟨last', found', own'⟩ | apart
      · cases found.symm.trans found'
        exact differs (Option.some.inj (own'.symm.trans own))
      · exact (apart row member rfl).2 recalled
    · exact (apart row member rfl).1 rfl

/-- What a claim makes of a row. -/
theorem claimed_row (id registerId : Uuid) (now : Timestamp) (row : ParkedCartRow) :
    (row.id = id ∧ row.recalledAt = none ∧ (ParkedCarts.markRecalled id registerId now).row row =
        { row with recalledAt := some now, recalledByRegisterId := some registerId }) ∨
      (ParkedCarts.markRecalled id registerId now).row row = row := by
  rcases (ParkedCarts.markRecalled id registerId now).row_cases row with ⟨selected, set⟩ | ⟨_, same⟩
  · obtain ⟨named, waits⟩ := of_decide_eq_true selected
    exact .inl ⟨named, waits, set⟩
  · exact .inr same

/-- Whatever is done, an entry is recalled once. -/
theorem Claimed.handled {request : HandoffRequest} (kept : Claimed world) (step : Handled choice world after request) :
    Claimed after := by
  obtain ⟨ids, once, recalled⟩ := kept
  cases step with
  | kept parked _ recalls | saved _ _ _ _ parked _ recalls | sold _ parked _ recalls =>
    exact ⟨parked ▸ ids, recalls ▸ once, by rw [parked, recalls]; exact recalled⟩
  | parks id _ _ _ _ _ _ _ unused parked _ recalls =>
    refine ⟨?_, recalls ▸ once, ?_⟩
    · rw [parked, List.map_append]
      refine List.nodup_append.mpr ⟨ids, List.nodup_singleton _, ?_⟩
      rintro taken member other fresh rfl
      cases List.mem_singleton.mp fresh
      exact unused member
    · rw [recalls, parked]
      intro taking member
      obtain ⟨row, present, facts⟩ := recalled taking member
      exact ⟨row, List.mem_append_left _ present, facts⟩
  | claims id registerId now found parked _ recalls =>
    have named (row : ParkedCartRow) : ((ParkedCarts.markRecalled id registerId now).row row).id = row.id :=
      (ParkedCarts.markRecalled id registerId now).row_column ParkedCartRow.id (fun _ => rfl) row
    obtain ⟨entry, present, selected⟩ := List.any_eq_true.mp found
    obtain ⟨own, waits⟩ : entry.id = id ∧ entry.recalledAt = none := of_decide_eq_true selected
    constructor
    · rw [parked]
      simpa only [Table.Update.run, List.map_map, Function.comp_def, named] using ids
    · rw [recalls, List.map_append]
      refine List.nodup_append.mpr ⟨once, List.nodup_singleton _, ?_⟩
      rintro taken member other fresh rfl
      cases List.mem_singleton.mp fresh
      obtain ⟨taking, before, same⟩ := List.mem_map.mp member
      obtain ⟨row, listed, known, done⟩ := recalled taking before
      have equal : row = entry := List.inj_on_of_nodup_map ids listed present (known.trans (same.trans own.symm))
      exact done (equal ▸ waits)
    · rw [recalls, parked]
      intro taking member
      rcases List.mem_append.mp member with before | new
      · obtain ⟨row, listed, known, done⟩ := recalled taking before
        refine ⟨_, List.mem_map_of_mem listed, (named row).trans known, ?_⟩
        rcases claimed_row id registerId now row with ⟨_, none, _⟩ | same
        · exact absurd none done
        · rwa [same]
      · cases List.mem_singleton.mp new
        refine ⟨_, List.mem_map_of_mem present, (named entry).trans own, ?_⟩
        rw [Table.Update.row_selected selected]
        exact fun impossible => nomatch impossible

theorem Kept.saved (kept : Kept world) (claimed : Claimed after) {registerId cartId : Uuid}
    (holds : Holds world.parked registerId cartId) (parked : after.parked = world.parked)
    (inProgress : after.inProgress = world.inProgress ++ [(registerId, cartId)])
    (outdated : after.outdated = world.outdated)
    (soldAgain : after.soldAgain = world.soldAgain) : Kept after where
  claimed := claimed
  blank := parked ▸ kept.blank
  waiting := parked ▸ kept.waiting
  holders := by
    rw [inProgress, parked]
    intro held member
    rcases List.mem_append.mp member with old | new
    · exact kept.holders held old
    · cases List.mem_singleton.mp new
      cases last : lastParked world.parked cartId with
      | none => exact .inr fun row present same => absurd same (never_parked last row present)
      | some row => exact .inl ⟨row, rfl, holds row last⟩
  current := outdated ▸ kept.current
  sold := soldAgain ▸ kept.sold

theorem Kept.parks (kept : Kept world) (claimed : Claimed after) {id storeId registerId : Uuid} {note : Option String} {cart : Cart} {now : Timestamp}
    (holds : Holds world.parked registerId cart.id)
    (parked : after.parked = world.parked ++ [ParkedCarts.newRow id storeId registerId note cart now])
    (inProgress : after.inProgress = world.inProgress.filter (· ≠ (registerId, cart.id)))
    (outdated : after.outdated = world.outdated) (soldAgain : after.soldAgain = world.soldAgain) : Kept after where
  claimed := claimed
  blank := by
    rw [parked]
    intro row member waits
    rcases List.mem_append.mp member with old | new
    · exact kept.blank row old waits
    · cases List.mem_singleton.mp new
      rfl
  waiting := by
    rw [parked]
    intro row member waits
    rcases List.mem_append.mp member with old | new
    · have last := kept.waiting row old waits
      by_cases same : cart.id = row.cartId
      · -- who parks the cart has recalled its last entry
        have recalled := holds row (same ▸ last)
        cases (kept.blank row old waits).symm.trans recalled
      · rw [lastParked_other same]
        exact last
    · cases List.mem_singleton.mp new
      exact lastParked_own _
  holders := by
    rw [parked, inProgress]
    rintro ⟨register, held⟩ member
    obtain ⟨old, other⟩ := List.mem_filter.mp member
    have other : (register, held) ≠ (registerId, cart.id) := of_decide_eq_true other
    by_cases same : cart.id = held
    · subst same
      right
      have parker : registerId ≠ register := fun equal => other (by rw [equal])
      have before : ∀ row ∈ world.parked, row.cartId = cart.id →
          row.registerId ≠ register ∧ row.recalledByRegisterId ≠ some register := by
        rcases kept.holders _ old with ⟨row, last, recalled⟩ | apart
        · exact absurd (Option.some.inj ((holds row last).symm.trans recalled)) parker
        · exact apart
      intro row member cartId
      rcases List.mem_append.mp member with listed | new
      · exact before row listed cartId
      · cases List.mem_singleton.mp new
        exact ⟨parker, fun impossible => nomatch impossible⟩
    · rcases kept.holders _ old with ⟨row, last, recalled⟩ | apart
      · exact .inl ⟨row, (lastParked_other same).trans last, recalled⟩
      · right
        intro row member cartId
        rcases List.mem_append.mp member with listed | new
        · exact apart row listed cartId
        · cases List.mem_singleton.mp new
          exact absurd cartId same
  current := outdated ▸ kept.current
  sold := soldAgain ▸ kept.sold

theorem Kept.claimed_holders (kept : Kept world) (id registerId : Uuid) (now : Timestamp) {held : Uuid × Uuid}
    (member : held ∈ world.inProgress) :
    (∃ row, lastParked ((ParkedCarts.markRecalled id registerId now).run world.parked) held.2 = some row ∧
        row.recalledByRegisterId = some held.1) ∨
      ∀ row ∈ (ParkedCarts.markRecalled id registerId now).run world.parked, row.cartId = held.2 →
        row.registerId ≠ held.1 ∧ row.recalledByRegisterId ≠ some held.1 := by
  rw [lastParked_run _ fun _ => rfl]
  rcases kept.holders held member with ⟨row, last, recalled⟩ | apart
  · left
    refine ⟨row, ?_, recalled⟩
    rw [last]
    rcases claimed_row id registerId now row with ⟨_, waits, _⟩ | same
    · cases (kept.blank row (lastParked_mem last).1 waits).symm.trans recalled
    · exact congrArg some same
  · by_cases own : ∃ row ∈ world.parked, row.cartId = held.2 ∧ row.id = id ∧ row.recalledAt = none ∧ registerId = held.1
    · -- who has the cart in progress recalls it
      obtain ⟨row, present, cartId, named, waits, same⟩ := own
      left
      refine ⟨_, congrArg (Option.map _) (cartId ▸ kept.waiting row present waits), ?_⟩
      rw [Table.Update.row_selected (decide_eq_true ⟨named, waits⟩)]
      exact congrArg some same
    · right
      intro row member cartId
      obtain ⟨old, present, rfl⟩ := List.mem_map.mp member
      rcases claimed_row id registerId now old with ⟨named, waits, set⟩ | same
      · rw [set] at cartId ⊢
        exact ⟨(apart old present cartId).1,
          fun recalled => own ⟨old, present, cartId, named, waits, Option.some.inj recalled⟩⟩
      · rw [same] at cartId ⊢
        exact apart old present cartId

theorem Kept.claims (kept : Kept world) (claimed : Claimed after) {id registerId : Uuid} {now : Timestamp}
    (parked : after.parked = (ParkedCarts.markRecalled id registerId now).run world.parked)
    (inProgress : after.inProgress = world.inProgress) (outdated : after.outdated = world.outdated)
    (soldAgain : after.soldAgain = world.soldAgain) : Kept after := by
  constructor
  · exact claimed
  · rw [parked]
    intro row member waiting
    obtain ⟨old, listed, rfl⟩ := List.mem_map.mp member
    rcases claimed_row id registerId now old with ⟨_, _, set⟩ | same
    · rw [set] at waiting
      cases waiting
    · rw [same] at waiting ⊢
      exact kept.blank old listed waiting
  · rw [parked]
    intro row member waiting
    obtain ⟨old, listed, rfl⟩ := List.mem_map.mp member
    rcases claimed_row id registerId now old with ⟨_, _, set⟩ | same
    · rw [set] at waiting
      cases waiting
    · rw [same] at waiting ⊢
      rw [lastParked_run _ fun _ => rfl, kept.waiting old listed waiting]
      exact congrArg some same
  · rw [parked, inProgress]
    exact fun held member => kept.claimed_holders id registerId now member
  · exact outdated ▸ kept.current
  · exact soldAgain ▸ kept.sold

theorem Kept.handled {request : HandoffRequest} {others : List HandoffRequest} (kept : Kept world)
    (meets : inTurn.step world others request choice) (step : Handled choice world after request) : Kept after := by
  have claimed := kept.claimed.handled step
  cases step with
  | kept parked inProgress recalls outdated soldAgain =>
    obtain ⟨_, blank, waiting, holders, current, sold⟩ := kept
    exact ⟨claimed, parked ▸ blank, parked ▸ waiting, by rw [parked, inProgress]; exact holders, outdated ▸ current,
      soldAgain ▸ sold⟩
  | saved frame cart asked works parked inProgress recalls outdated soldAgain =>
    obtain ⟨key, registerId, restoring, call⟩ := request
    cases asked
    obtain ⟨holds, same⟩ := meets works
    have nothing : outdates world.hub.db.carts restoring cart = [] := if_neg fun ⟨puts, differs⟩ => differs (same puts)
    exact kept.saved claimed holds parked inProgress (by rw [outdated, nothing, List.append_nil]) soldAgain
  | sold cartId parked inProgress recalls outdated soldAgain =>
    have nothing : sellsAgain world cartId = [] := by
      refine if_neg fun ⟨member, _⟩ => ?_
      rw [kept.current] at member
      cases member
    obtain ⟨_, blank, waiting, holders, current, sold⟩ := kept
    exact ⟨claimed, parked ▸ blank, parked ▸ waiting, by rw [parked, inProgress]; exact holders, outdated ▸ current,
      by rw [soldAgain, nothing, sold]; rfl⟩
  | parks id storeId registerId note cart now asked works _ parked inProgress _ outdated soldAgain =>
    obtain ⟨key, register, restoring, call⟩ := request
    cases asked
    exact kept.parks claimed (meets works) parked inProgress outdated soldAgain
  | claims id registerId now _ parked inProgress _ outdated soldAgain =>
    exact kept.claims claimed parked inProgress outdated soldAgain

end Keeping

/-- In every run an entry is recalled once. Where besides parked carts are saved and parked by the
register only that has recalled them, and put back as they still are, a suspended sale is at one
register at a time. -/
theorem handoff_is_exclusive (app : AppState) (providers : Providers Remote Answer) {world : HandoffWorld Remote}
    (events : List (Event (Choice Answer) HandoffTask)) (kept : Kept world) :
    (((registers app providers).run (Pool.quiet world) events).world.recalls.map Prod.fst).Nodup ∧
      (inTurn.RunMeets (registers app providers) (Pool.quiet world) events →
        Exclusive ((registers app providers).run (Pool.quiet world) events).world) := by
  constructor
  · have keeps : Invariant (registers app providers) .free .always (fun _ _ => True) fun world _ => Claimed world :=
      .of_world fun choice world others request _ kept => kept.handled (handled providers choice world request)
    exact (keeps.reached kept.claimed (Condition.runMeets_always events)).once
  · intro meets
    have keeps : Invariant (registers app providers) .free inTurn (fun _ _ => True) fun world _ => Kept world :=
      .of_world fun choice world others request meets kept => kept.handled meets (handled providers choice world request)
    exact (keeps.reached kept meets).exclusive

end Steps

section Samples
open Attempts CartStates

def noSales : HandoffWorld RemotePayments :=
  { hub := { opening with db := { opening.db with carts := [] } }
    parked := [], inProgress := [], recalls := [], outdated := [], soldAgain := [] }

def twenty (freshId : Nat) : List (Event (Choice ProviderAnswer) HandoffTask) :=
  (List.range 20).map fun step => .step 0 (choice 0 (freshId + step) approves)

/-- A command on the sale, from start to end; its key is the base of its fresh ids. -/
def command (registerId : Uuid) (key : Nat) (command : HandoffCommand) : List (Event (Choice ProviderAnswer) HandoffTask) :=
  .start (.cart none ⟨.v1_0_0, .random key, 1, registerId⟩ command) :: twenty key

def adds (registerId : Uuid) (key lineId : Nat) : List (Event (Choice ProviderAnswer) HandoffTask) :=
  command registerId key (.changeCart 10 ⟨.edit (.addLineItem (line lineId 1000 1)) (offering []), rfl⟩)

/-- The first register starts a sale and parks it, as the entry 302. -/
def parkedSale : List (Event (Choice ProviderAnswer) HandoffTask) :=
  command 2 100 (.createCart (some 10)) ++ adds 2 200 11 ++ command 2 300 (.parkCart 10 none)

def recalledBy (registerId : Uuid) (key : Nat) : List (Event (Choice ProviderAnswer) HandoffTask) :=
  command registerId key (.recallCart 302)

def soldAt (registerId : Uuid) (key : Nat) : List (Event (Choice ProviderAnswer) HandoffTask) :=
  command registerId key (.changeCart 10 ⟨.setTendering 0, rfl⟩) ++
    command registerId (key + 100) (.changeCart 10 ⟨.addPayment ⟨20, 1000, 0, some "cash", none, none, none⟩ 0, rfl⟩) ++
    .start (.pos none ⟨.v1_0_0, .random (key + 200), 1, registerId, .finalizeOrder ⟨10⟩⟩) :: twenty (key + 200)

def handedOver : List (Event (Choice ProviderAnswer) HandoffTask) := parkedSale ++ recalledBy 3 400 ++ soldAt 3 500

/-- The first register goes on with the sale that the second one has recalled. -/
def goneOn : List (Event (Choice ProviderAnswer) HandoffTask) := parkedSale ++ recalledBy 3 400 ++ adds 2 500 13

/-- The first register sells something else on the parked cart. -/
def soldTwice : List (Event (Choice ProviderAnswer) HandoffTask) :=
  parkedSale ++ command 2 400 (.changeCart 10 ⟨.edit (.removeLineItem 11) (offering []), rfl⟩) ++ adds 2 500 13 ++
    soldAt 2 600 ++ recalledBy 3 900 ++ soldAt 3 1000

theorem noSales_kept : Kept noSales := by
  refine ⟨⟨?_, ?_, ?_⟩, ?_, ?_, ?_, ?_, ?_⟩ <;> simp [noSales]

theorem sale_is_handed_over :
    let after := ((registers shop contractual).run (Pool.quiet noSales) handedOver).world
    (after.recalls = [(302, 3)] ∧ after.hub.db.orders.map NewOrderLedgerEntry.cartId = [10]) ∧
      (after.recalls.map Prod.fst).Nodup ∧ Exclusive after := by
  have law := handoff_is_exclusive shop contractual handedOver noSales_kept
  exact ⟨by decide +kernel, law.1, law.2 (by decide +kernel)⟩

/-- The first register goes on with a sale that the second one has, and a sale is sold at both. -/
theorem sale_is_at_two_registers :
    (¬∀ (world : HandoffWorld RemotePayments) (events : List (Event (Choice ProviderAnswer) HandoffTask)), Kept world →
      let after := ((registers shop contractual).run (Pool.quiet world) events).world
      ∀ row ∈ after.parked, ∀ other ∈ row.recalledByRegisterId, other ≠ row.registerId →
        ¬((row.registerId, row.cartId) ∈ after.inProgress ∧ (other, row.cartId) ∈ after.inProgress)) ∧
    ¬∀ (world : HandoffWorld RemotePayments) (events : List (Event (Choice ProviderAnswer) HandoffTask)), Kept world →
      ((registers shop contractual).run (Pool.quiet world) events).world.soldAgain = [] := by
  constructor
  · intro all
    have apart := all noSales goneOn noSales_kept
    revert apart
    decide +kernel
  · intro all
    have sold := all noSales soldTwice noSales_kept
    revert sold
    decide +kernel

end Samples
end ApexEdge.Proofs.SuspendedSales
