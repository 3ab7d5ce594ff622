import ApexEdge.Proofs.ReceiptedReturns

/-! Finalizing and voiding returns. The state of a return is checked when the return is
loaded and not when it is written; as long as nobody comes in between, a return is
finalized once and its units are put back once. -/

namespace ApexEdge.Proofs.FinalReturns
open Library Payment Domain Storage Contracts Hub
open CounterRules Protocol

/-- FinalizeReturn and VoidReturn commands. -/
def ClosesReturn (task : ReturnTask) : Prop :=
  match task.command with
  | .finalizeReturn _ | .voidReturn _ => True
  | _ => False

section World
variable {Remote Answer : Type}

def finalizedReturns (world : CounterWorld Remote) : List Uuid := world.submissions.map ReturnSubmission.returnId

/-- No return is submitted twice, no line put back twice, and no voided return submitted. -/
structure FinalizedOnce (world : CounterWorld Remote) : Prop where
  submitted : (finalizedReturns world).Nodup
  restocked : world.restocked.Nodup
  apart : ∀ id ∈ world.voided, id ∉ finalizedReturns world

/-- What a handler has found when it loaded the return still holds when it writes it: a
return that is finalized can be, and one that is voided is not finalized. -/
def stillStands : Condition CounterRequest (CounterWorld Remote) (CounterChoice Answer) :=
  { step := fun world _ request choice =>
      match request.call with
      | .finalizeReturnRowWithOutbox id _ => choice.hub.storageFailure = none →
        (Returns.fetch id world.hub.db.returns).any ReturnRow.canFinalize = true
      | .voidReturnRow id => choice.hub.storageFailure = none →
        (Returns.fetch id world.hub.db.returns).all (·.state ≠ .finalized) = true
      | _ => True
    drop := fun _ _ _ => True }

instance (world : CounterWorld Remote) (others : List CounterRequest) (request : CounterRequest)
    (choice : CounterChoice Answer) : Decidable (stillStands.step world others request choice) := by
  induction request using CounterRequest.casesOn with
  | mk frame adding restocks call =>
    induction call using CounterCall.casesOn <;> dsimp only [stillStands] <;> infer_instance

instance (world : CounterWorld Remote) (others : List CounterRequest) (request : CounterRequest) :
    Decidable ((stillStands : Condition _ _ (CounterChoice Answer)).drop world others request) :=
  inferInstanceAs (Decidable True)

/-- Lines stay as they were, and a return is as it was closed. -/
structure Kept (tables : ReturnTables) (world : CounterWorld Remote) : Prop where
  lines : world.hub.db.returns.returnLines = tables.returnLines
  unique : (world.hub.db.returns.returns.map ReturnRow.id).Nodup
  finalized : ∀ row ∈ world.hub.db.returns.returns, row.id ∈ finalizedReturns world → row.state = .finalized
  voided : ∀ row ∈ world.hub.db.returns.returns, row.id ∈ world.voided → row.state = .voided
  submitted : (finalizedReturns world).Nodup
  apart : ∀ id ∈ world.voided, id ∉ finalizedReturns world

/-- Statements that close a return, and no others. -/
def closes (call : CounterCall) : Prop :=
  match call with
  | .hub call => isBystander call = true
  | .fetchApproval _ | .insertReturn _ | .addReceiptedReturnLine _ | .insertReturnLine _ | .updateReturnTotals .. => False
  | _ => True

/-- No program has a line to put back twice. -/
def grants (request : CounterRequest) : Prop := closes request.call ∧ request.restocks.Nodup

def closing (rank : Uuid → Nat) (providers : Providers Remote Answer) (tables : ReturnTables) :
    Rules CounterRequest CounterRequest.Reply (CounterWorld Remote) (CounterChoice Answer) :=
  { perform := performAtCounter rank providers
    condition := stillStands
    invariant := Kept tables
    interference := fun _ _ => True
    grants := fun _ => grants }

end World

section Steps
variable {Remote Answer : Type} {rank : Uuid → Nat} {providers : Providers Remote Answer} {tables : ReturnTables}
  {choice : CounterChoice Answer} {world : CounterWorld Remote}

/-- A return that is found to be in no closing state has not been closed. -/
theorem fetched {id : Uuid} {row : ReturnRow} (found : Returns.fetch id world.hub.db.returns = some row) :
    row ∈ world.hub.db.returns.returns ∧ row.id = id :=
  ⟨List.mem_of_find?_eq_some found, by simpa using List.find?_some found⟩

/-- A return that can be finalized has neither been finalized nor voided. -/
theorem unclosed (kept : Kept tables world) {id : Uuid} {row : ReturnRow}
    (found : Returns.fetch id world.hub.db.returns = some row) (ready : row.canFinalize = true) :
    id ∉ finalizedReturns world ∧ id ∉ world.voided := by
  obtain ⟨stored, rfl⟩ := fetched found
  have state : row.state = .paid ∨ row.state = .items := by
    have either := of_decide_eq_true ready
    exact either.imp_right And.left
  constructor
  · intro closed
    rw [kept.finalized row stored closed] at state
    rcases state with is | is <;> cases is
  · intro closed
    rw [kept.voided row stored closed] at state
    rcases state with is | is <;> cases is

theorem kept_finalize {id submissionId : Uuid} (kept : Kept tables world) {row : ReturnRow}
    (found : Returns.fetch id world.hub.db.returns = some row) (ready : row.canFinalize = true) :
    Kept tables { world.withReturns (Returns.finalizeRow id world.hub.db.returns) with
      submissions := world.submissions ++ [⟨submissionId, id⟩] } := by
  obtain ⟨unsubmitted, unvoided⟩ := unclosed kept found ready
  have submitted : finalizedReturns { world.withReturns (Returns.finalizeRow id world.hub.db.returns) with
      submissions := world.submissions ++ [⟨submissionId, id⟩] } = finalizedReturns world ++ [id] := by
    simp [finalizedReturns]
  refine ⟨kept.lines, Table.unique_run (fun _ => rfl) kept.unique, ?_, ?_, ?_, ?_⟩
  · intro other present closed
    obtain ⟨old, stored, rfl⟩ := List.mem_map.mp present
    rw [submitted, Table.Update.row_column _ ReturnRow.id fun _ => rfl] at closed
    by_cases mine : old.id = id
    · rw [Table.Update.row_selected (decide_eq_true mine)]
    · rw [Table.Update.row_kept (decide_eq_false mine)]
      have before : old.id ∈ finalizedReturns world := by simpa [mine] using closed
      exact kept.finalized old stored before
  · intro other present closed
    obtain ⟨old, stored, rfl⟩ := List.mem_map.mp present
    have closed : (Table.Update.row _ old).id ∈ world.voided := closed
    rw [Table.Update.row_column _ ReturnRow.id fun _ => rfl] at closed
    have other : old.id ≠ id := fun same => unvoided (same ▸ closed)
    rw [Table.Update.row_kept (decide_eq_false other)]
    exact kept.voided old stored closed
  · rw [submitted]
    simpa [List.nodup_append, kept.submitted] using fun other member => ne_of_mem_of_not_mem member unsubmitted
  · intro other voided
    rw [submitted, List.mem_append, List.mem_singleton, not_or]
    exact ⟨kept.apart other voided, fun same => unvoided (same ▸ voided)⟩

theorem kept_void {id : Uuid} {after : ReturnTables} (kept : Kept tables world)
    (standing : (Returns.fetch id world.hub.db.returns).all (·.state ≠ .finalized) = true)
    (voided : Returns.voidRow id world.hub.db.returns = .ok after) :
    Kept tables { world.withReturns after with voided := world.voided ++ [id] } := by
  unfold Returns.voidRow at voided
  dsimp only at voided
  split at voided
  next single =>
    obtain rfl := Except.ok.inj voided
    -- the one row that is voided is the return's
    obtain ⟨row, selected⟩ := List.exists_mem_of_length_pos (by rw [single]; decide)
    obtain ⟨stored, mine⟩ := List.mem_filter.mp selected
    have own : row.id = id := (of_decide_eq_true mine).1
    have found : Returns.fetch id world.hub.db.returns = some row := by
      rw [← own]
      exact Table.find?_of_unique kept.unique stored
    have unsubmitted : id ∉ finalizedReturns world := by
      intro closed
      rw [found] at standing
      have state := kept.finalized row stored (own ▸ closed)
      simp [state] at standing
    refine ⟨kept.lines, Table.unique_run (fun _ => rfl) kept.unique, ?_, ?_, kept.submitted, ?_⟩
    · intro other present closed
      obtain ⟨old, stored, rfl⟩ := List.mem_map.mp present
      have closed : (Table.Update.row _ old).id ∈ finalizedReturns world := closed
      rw [Table.Update.row_column _ ReturnRow.id fun _ => rfl] at closed
      have apart : old.id ≠ id := fun same => unsubmitted (same ▸ closed)
      rw [Table.Update.row_kept (decide_eq_false fun both => apart both.1)]
      exact kept.finalized old stored closed
    · intro other present closed
      obtain ⟨old, member, rfl⟩ := List.mem_map.mp present
      have closed : (Table.Update.row _ old).id ∈ world.voided ++ [id] := closed
      rw [Table.Update.row_column _ ReturnRow.id fun _ => rfl] at closed
      by_cases same : old.id = id
      · obtain rfl : old = row := List.inj_on_of_nodup_map kept.unique member stored (same.trans own.symm)
        rw [Table.Update.row_selected mine]
      · rw [Table.Update.row_kept (decide_eq_false fun both => same both.1)]
        have before : old.id ∈ world.voided := by simpa [same] using closed
        exact kept.voided old member before
    · intro other member
      rcases List.mem_append.mp member with old | new
      · exact kept.apart other old
      · exact (List.mem_singleton.mp new) ▸ unsubmitted
  next => cases voided

theorem closing_step {others : List CounterRequest} {request : CounterRequest} (kept : Kept tables world)
    (granted : grants request) (meets : stillStands.step world others request choice) :
    Kept tables (performAtCounter rank providers choice world request).2 := by
  obtain ⟨frame, adding, restocks, call⟩ := request
  cases call with
  | hub call =>
    obtain ⟨_, returns⟩ := bystander_db providers frame granted.1 world.hub choice.hub
    have same : (performAtCounter rank providers choice world ⟨frame, adding, restocks, .hub call⟩).2.hub.db.returns =
      world.hub.db.returns := returns
    exact ⟨by rw [same]; exact kept.lines, by rw [same]; exact kept.unique, by rw [same]; exact kept.finalized,
      by rw [same]; exact kept.voided, kept.submitted, kept.apart⟩
  | finalizeReturnRowWithOutbox id submissionId =>
    simp only [performAtCounter, finalizeWithOutbox]
    cases works : choice.hub.storageFailure with
    | some error => exact kept
    | none =>
      dsimp only
      split
      · exact kept
      · have ready := meets works
        cases found : Returns.fetch id world.hub.db.returns with
        | none =>
          rw [found] at ready
          cases ready
        | some row =>
          rw [found] at ready
          exact kept_finalize kept found ready
  | voidReturnRow id =>
    simp only [performAtCounter, voidRow, transactReturns]
    cases works : choice.hub.storageFailure with
    | some error => exact kept
    | none =>
      cases written : Returns.voidRow id world.hub.db.returns with
      | error error => exact kept
      | ok after => exact kept_void kept (meets works) written
  | applyLocalDelta storeId itemId delta =>
    simp only [performAtCounter, putBack]
    split <;> exact ⟨kept.lines, kept.unique, kept.finalized, kept.voided, kept.submitted, kept.apart⟩
  | signOrQueueReturn | applyReturnFiscalReceipt | getCatalogItemBySku => exact kept
  | fetchApproval | insertReturn | addReceiptedReturnLine | insertReturnLine | updateReturnTotals => exact absurd granted.1 id

theorem closing_assured : (closing rank providers tables : Rules _ _ _ (CounterChoice Answer)).Assured where
  refl _ := trivial
  trans _ _ := trivial
  step _ _ _ _ kept granted meets := ⟨closing_step kept granted meets, trivial⟩

end Steps

/-! What is granted: a return's lines are told apart by their ids, so none is listed twice. -/

section Programs
variable {Remote Answer : Type} {rank : Uuid → Nat} {providers : Providers Remote Answer} {tables : ReturnTables}
  {world : CounterWorld Remote} {header : CommandHeader}

theorem ask_safe {ε : Type} {request : CounterRequest} {post : CounterWorld Remote → Except ε request.Reply → Prop}
    (granted : grants request) (rest : ∀ after answer, post after (.ok answer)) :
    (closing rank providers tables : Rules _ _ _ (CounterChoice Answer)).Safe post world
      (Fallible.ask request : CounterAction ε request.Reply) :=
  fun _ _ _ => ⟨granted, fun _ _ _ => rest _ _⟩

theorem reads_granted {frame : Frame} {call : Call} (reads : isReturnRead call = true) : grants (.ofHub ⟨frame, call⟩) :=
  ⟨isBystander_of_read reads, List.nodup_nil⟩

theorem restockLines_safe (storeId returnId : Uuid) {lines : List ReturnLineRow}
    (distinct : (lines.map ReturnLineRow.id).Nodup) :
    (closing rank providers tables : Rules _ _ _ (CounterChoice Answer)).Safe (fun _ _ => True) world
      (restockLines header storeId returnId lines) := by
  induction lines generalizing world with
  | nil => trivial
  | cons line rest ih =>
    have restocks : ((line :: rest).map fun line => Restock.mk returnId line.id).Nodup := by
      refine List.Nodup.of_map Restock.lineId ?_
      rwa [List.map_map]
    have later := (List.nodup_cons.mp distinct).2
    apply Rules.safe_andThen
    refine ask_safe ⟨trivial, restocks⟩ fun _ found => ?_
    rcases found with error | none | itemId
    · exact ih later
    · exact ih later
    · apply Rules.safe_andThen
      exact ask_safe ⟨trivial, restocks⟩ fun _ _ => ih later

theorem loaded_distinct {id : Uuid} {snapshot : ReturnSnapshot} (lineIds : (tables.returnLines.map ReturnLineRow.id).Nodup)
    (loaded : Loaded (Kept tables : CounterWorld Remote → Prop) id snapshot) : (snapshot.lines.map ReturnLineRow.id).Nodup := by
  obtain ⟨past, kept, same⟩ := loaded.lines
  rw [← same]
  unfold Returns.lines
  rw [kept.lines]
  exact lineIds.sublist (List.filter_sublist.map ReturnLineRow.id)

theorem finalizeReturn_safe (lineIds : (tables.returnLines.map ReturnLineRow.id).Nodup) (id : Uuid) :
    (closing rank providers tables : Rules _ _ _ (CounterChoice Answer)).Safe (fun _ _ => True) world
      (finalizeReturn header id) := by
  apply Rules.safe_andThen
  apply (loadReturn_reads rfl (fun _ _ => reads_granted) id).mono
  rintro _ (errors | snapshot) loaded
  · trivial
  · have distinct := loaded_distinct lineIds (loaded snapshot rfl)
    dsimp only
    cases done : snapshot.finalize with
    | error message => trivial
    | ok finalized =>
      have same : finalized.lines = snapshot.lines := by
        unfold ReturnSnapshot.finalize at done
        split at done
        · rw [← Except.ok.inj done]
        · cases done
      apply Rules.safe_andThen
      apply Rules.safe_orThrow
      refine ask_safe ⟨trivial, List.nodup_nil⟩ fun _ signed => ?_
      cases signed with
      | error message => trivial
      | ok fiscal =>
        apply Rules.safe_andThen
        apply Rules.safe_orThrow
        refine ask_safe ⟨trivial, List.nodup_nil⟩ fun _ applied => ?_
        cases applied with
        | error error => trivial
        | ok _ =>
          apply Rules.safe_andThen
          refine ask_safe ⟨rfl, List.nodup_nil⟩ fun _ submissionId => ?_
          apply Rules.safe_andThen
          apply Rules.safe_orThrow
          refine ask_safe ⟨trivial, List.nodup_nil⟩ fun _ written => ?_
          cases written with
          | error error => trivial
          | ok _ =>
            apply Rules.safe_andThen
            apply (restockLines_safe header.storeId id (same ▸ distinct)).mono
            rintro _ (errors | _) _ <;> trivial

theorem voidReturn_safe (id : Uuid) :
    (closing rank providers tables : Rules _ _ _ (CounterChoice Answer)).Safe (fun _ _ => True) world
      (voidReturn header id) := by
  apply Rules.safe_andThen
  apply (loadReturn_reads rfl (fun _ _ => reads_granted) id).mono
  rintro _ (errors | snapshot) _
  · trivial
  · dsimp only
    cases snapshot.void with
    | error message => trivial
    | ok voided =>
      apply Rules.safe_andThen
      apply Rules.safe_orThrow
      refine ask_safe ⟨trivial, List.nodup_nil⟩ fun _ done => ?_
      cases done <;> trivial

theorem program_safe (app : AppState) {task : ReturnTask} (lineIds : (tables.returnLines.map ReturnLineRow.id).Nodup)
    (closes : ClosesReturn task) :
    (closing rank providers tables : Rules _ _ _ (CounterChoice Answer)).Safe (fun _ _ => True) world
      (task.program app) := by
  refine returnTask_safe (fun _ => ?_) (fun _ _ => ⟨rfl, List.nodup_nil⟩) fun _ _ _ => ⟨rfl, List.nodup_nil⟩
  unfold ClosesReturn at closes
  unfold executeReturnCommand
  split at closes
  next id command =>
    rw [command]
    exact finalizeReturn_safe lineIds id
  next id command =>
    rw [command]
    exact voidReturn_safe id
  next => cases closes

end Programs

/-! What is still to be put back: nothing before a return is finalized, then its lines,
one after another. -/

section Conduct

def Goes (restocks : List Restock) (call : CounterCall) : call.Reply → List Restock → Prop :=
  match call with
  | .finalizeReturnRowWithOutbox id _ => fun
    | .ok (), next => ∀ restock ∈ next, restock.returnId = id
    | .error _, next => next = []
  | .getCatalogItemBySku .. => fun
    | .ok (some _), next => next = restocks
    | _, next => next = restocks.tail
  | .applyLocalDelta .. => fun _ next => next = restocks.tail
  | _ => fun _ next => next = []

def conduct : Protocol CounterRequest CounterRequest.Reply :=
  { follows := fun request reply next => Goes request.restocks request.call reply next.restocks
    rests := fun may => ∃ next, may next ∧ grants next }

/-- The program may go on with this still to be put back. -/
def Lets (may : CounterRequest → Prop) (restocks : List Restock) : Prop := ∀ request, request.restocks = restocks → may request

variable {may : CounterRequest → Prop} {header : CommandHeader}

theorem Lets.rests (lets : Lets may []) : conduct.rests may :=
  ⟨.ofHub ⟨Frame.ofKey none, .clock⟩, lets _ rfl, rfl, List.nodup_nil⟩

theorem hub_asks (may : CounterRequest → Prop) (lets : Lets may []) (request : Request) : may (.ofHub request) :=
  lets _ rfl

theorem hub_goesOn (request : Request) (reply : request.Reply) : Lets (conduct.follows (.ofHub request) reply) [] :=
  fun _ none => none

theorem restockLines_keeps (storeId returnId : Uuid) (lines : List ReturnLineRow)
    (lets : Lets may (lines.map fun line => Restock.mk returnId line.id)) :
    conduct.Keeps may (fun may _ => Lets may []) (restockLines header storeId returnId lines) := by
  induction lines generalizing may with
  | nil => exact lets
  | cons line rest ih =>
    refine keeps_ask (lets _ rfl) fun found => ?_
    rcases found with error | none | itemId
    · exact ih fun _ same => same
    · exact ih fun _ same => same
    · exact keeps_ask rfl fun _ => ih fun _ same => same

theorem finalizeReturn_keeps (id : Uuid) (lets : Lets may []) :
    conduct.Keeps may (fun may _ => Lets may []) (finalizeReturn header id) := by
  apply keeps_andThen
  apply (atCounter_keeps hub_asks hub_goesOn _ lets).mono
  rintro loaded (errors | snapshot) lets
  · exact lets
  · dsimp only
    cases snapshot.finalize with
    | error message => exact lets
    | ok finalized =>
      apply keeps_andThen
      apply keeps_orThrow
      refine ⟨lets _ rfl, fun signed => ?_⟩
      cases signed with
      | error message => exact fun _ same => same
      | ok fiscal =>
        apply keeps_andThen
        apply keeps_orThrow
        refine ⟨rfl, fun applied => ?_⟩
        cases applied with
        | error error => exact fun _ same => same
        | ok _ =>
          apply keeps_andThen
          refine ⟨rfl, fun submissionId => ?_⟩
          apply keeps_andThen
          apply keeps_orThrow
          refine ⟨rfl, fun written => ?_⟩
          cases written with
          | error error => exact fun _ same => same
          | ok _ =>
            apply keeps_andThen
            apply (restockLines_keeps header.storeId id finalized.lines ?_).mono
            · rintro _ (errors | _) lets <;> exact lets
            · intro request same restock member
              rw [same] at member
              obtain ⟨line, _, rfl⟩ := List.mem_map.mp member
              rfl

theorem voidReturn_keeps (id : Uuid) (lets : Lets may []) :
    conduct.Keeps may (fun may _ => Lets may []) (voidReturn header id) := by
  apply keeps_andThen
  apply (atCounter_keeps hub_asks hub_goesOn _ lets).mono
  rintro loaded (errors | snapshot) lets
  · exact lets
  · dsimp only
    cases snapshot.void with
    | error message => exact lets
    | ok voided =>
      apply keeps_andThen
      apply keeps_orThrow
      refine ⟨lets _ rfl, fun done => ?_⟩
      cases done <;> exact fun _ same => same

theorem program_keeps (app : AppState) {task : ReturnTask} (closes : ClosesReturn task) (lets : Lets may []) :
    conduct.Keeps may (fun may _ => conduct.rests may) (task.program app) := by
  refine returnTask_keeps hub_asks hub_goesOn (fun _ lets => lets.rests) (fun may lets => ?_) lets
  unfold ClosesReturn at closes
  unfold executeReturnCommand
  split at closes
  next id command =>
    rw [command]
    exact finalizeReturn_keeps id lets
  next id command =>
    rw [command]
    exact voidReturn_keeps id lets
  next => cases closes

end Conduct

/-! Together: what has been put back and what still has to be are different lines, of
returns that have been submitted. -/

section Runs
variable {Remote Answer : Type}

def toPutBack (pending : Multiset CounterRequest) : Multiset Restock :=
  pending.bind fun request => (request.restocks : Multiset Restock)

structure Owed (world : CounterWorld Remote) (pending : Multiset CounterRequest) : Prop where
  once : ((world.restocked : Multiset Restock) + toPutBack pending).Nodup
  submitted : ∀ restock ∈ (world.restocked : Multiset Restock) + toPutBack pending,
    restock.returnId ∈ finalizedReturns world

/-- Nothing is owed that was not owed before. -/
theorem owed_of_le {world after : CounterWorld Remote} {pending later : Multiset CounterRequest} (owed : Owed world pending)
    (less : (after.restocked : Multiset Restock) + toPutBack later ≤ (world.restocked : Multiset Restock) + toPutBack pending)
    (same : after.submissions = world.submissions) : Owed after later where
  once := Multiset.nodup_of_le less owed.once
  submitted restock member := by
    unfold finalizedReturns
    rw [same]
    exact owed.submitted restock (Multiset.mem_of_le less member)

variable {rank : Uuid → Nat} {providers : Providers Remote Answer} {choice : CounterChoice Answer}
  {world : CounterWorld Remote} {request : CounterRequest}

theorem toPutBack_cons (request : CounterRequest) (others : Multiset CounterRequest) :
    toPutBack (request ::ₘ others) = (request.restocks : Multiset Restock) + toPutBack others := Multiset.cons_bind ..

/-- A program that goes on with no more than it had. -/
theorem owed_rest {next : CounterRequest} {others : Multiset CounterRequest} {after : CounterWorld Remote}
    (owed : Owed world (request ::ₘ others)) (less : (next.restocks : Multiset Restock) ≤ request.restocks)
    (submissions : after.submissions = world.submissions) (restocked : after.restocked = world.restocked) :
    Owed after (next ::ₘ others) := by
  refine owed_of_le owed ?_ submissions
  rw [restocked, toPutBack_cons, toPutBack_cons]
  exact add_le_add_right (add_le_add_left less _) _

theorem owed_dropped {others : Multiset CounterRequest} (owed : Owed world (request ::ₘ others)) : Owed world others := by
  refine owed_of_le owed ?_ rfl
  rw [toPutBack_cons]
  exact add_le_add_right (Multiset.le_add_left _ _) _

theorem tail_le (restocks : List Restock) : (restocks.tail : Multiset Restock) ≤ restocks :=
  Multiset.coe_le.mpr (List.tail_sublist restocks).subperm

/-- A return that has just been submitted owes its lines, which nobody else does. -/
theorem owed_finalized {next : CounterRequest} {others : Multiset CounterRequest} {after : CounterWorld Remote} {id : Uuid}
    (unsubmitted : id ∉ finalizedReturns world) (owed : Owed world others) (distinct : next.restocks.Nodup)
    (own : ∀ restock ∈ next.restocks, restock.returnId = id) (restocked : after.restocked = world.restocked)
    (submissions : finalizedReturns after = finalizedReturns world ++ [id]) : Owed after (next ::ₘ others) := by
  have apart : ∀ restock ∈ next.restocks, restock ∉ (world.restocked : Multiset Restock) + toPutBack others := by
    intro restock mine theirs
    exact unsubmitted (own restock mine ▸ owed.submitted restock theirs)
  have split : (after.restocked : Multiset Restock) + toPutBack (next ::ₘ others) =
      (next.restocks : Multiset Restock) + ((world.restocked : Multiset Restock) + toPutBack others) := by
    rw [restocked, toPutBack_cons]
    exact add_left_comm _ _ _
  constructor
  · rw [split]
    exact Multiset.nodup_add.mpr ⟨Multiset.coe_nodup.mpr distinct, owed.once, Multiset.disjoint_left.mpr fun mine => apart _ mine⟩
  · rw [split, submissions]
    intro restock member
    rcases Multiset.mem_add.mp member with mine | theirs
    · exact List.mem_append_right _ (List.mem_singleton.mpr (own restock mine))
    · exact List.mem_append_left _ (owed.submitted restock theirs)

/-- A line that is put back is owed no longer. -/
theorem owed_putBack {next : CounterRequest} {others : Multiset CounterRequest} {after : CounterWorld Remote}
    (owed : Owed world (request ::ₘ others)) (rest : next.restocks = request.restocks.tail)
    (restocked : after.restocked = world.restocked ++ request.restocks.take 1)
    (submissions : after.submissions = world.submissions) : Owed after (next ::ₘ others) := by
  refine owed_of_le owed (le_of_eq ?_) submissions
  have parts : request.restocks.take 1 ++ request.restocks.tail = request.restocks := by
    cases request.restocks <;> rfl
  rw [restocked, toPutBack_cons, toPutBack_cons, rest, ← Multiset.coe_add, add_assoc, ← add_assoc (request.restocks.take 1 : Multiset Restock),
    Multiset.coe_add, parts]

theorem owed_continued {tables : ReturnTables} {others : List CounterRequest} {next : CounterRequest}
    (meets : stillStands.step world others request choice) (kept : Kept tables world)
    (owed : Owed world (request ::ₘ (others : Multiset CounterRequest)))
    (follows : conduct.follows request (performAtCounter rank providers choice world request).1 next)
    (closing : closes request.call) (granted : grants next) :
    Owed (performAtCounter rank providers choice world request).2 (next ::ₘ (others : Multiset CounterRequest)) := by
  obtain ⟨frame, adding, restocks, call⟩ := request
  have nothing (none : next.restocks = []) : (next.restocks : Multiset Restock) ≤ restocks := by
    rw [none]
    exact Multiset.zero_le _
  cases call with
  | finalizeReturnRowWithOutbox id submissionId =>
    simp only [performAtCounter, finalizeWithOutbox] at follows ⊢
    cases works : choice.hub.storageFailure with
    | some error =>
      rw [works] at follows
      exact owed_rest owed (nothing follows) rfl rfl
    | none =>
      rw [works] at follows
      dsimp only at follows ⊢
      split at follows
      next clash =>
        rw [if_pos clash]
        exact owed_rest owed (nothing follows) rfl rfl
      next fresh =>
        rw [if_neg fresh]
        have ready := meets works
        cases found : Returns.fetch id world.hub.db.returns with
        | none =>
          rw [found] at ready
          cases ready
        | some row =>
          rw [found] at ready
          exact owed_finalized (unclosed kept found ready).1 (owed_dropped owed) granted.2 follows rfl
            (by simp [finalizedReturns])
  | applyLocalDelta storeId itemId delta =>
    simp only [performAtCounter, putBack] at follows ⊢
    have follows : next.restocks = restocks.tail := follows
    cases choice.hub.storageFailure with
    | some error => exact owed_rest owed (follows ▸ tail_le restocks) rfl rfl
    | none => exact owed_putBack owed follows rfl rfl
  | getCatalogItemBySku storeId sku =>
    simp only [performAtCounter] at follows ⊢
    refine owed_rest owed ?_ rfl rfl
    have follows : Goes restocks (.getCatalogItemBySku storeId sku) choice.item next.restocks := follows
    generalize choice.item = item at follows
    rcases item with error | none | itemId
    · have rest : next.restocks = restocks.tail := follows
      exact rest ▸ tail_le restocks
    · have rest : next.restocks = restocks.tail := follows
      exact rest ▸ tail_le restocks
    · have same : next.restocks = restocks := follows
      exact le_of_eq (congrArg _ same)
  | hub call => exact owed_rest owed (nothing follows) rfl rfl
  | signOrQueueReturn | applyReturnFiscalReceipt => exact owed_rest owed (nothing follows) rfl rfl
  | voidReturnRow id =>
    simp only [performAtCounter, voidRow, transactReturns] at follows ⊢
    have rest := nothing follows
    cases choice.hub.storageFailure with
    | some error => exact owed_rest owed rest rfl rfl
    | none => cases Returns.voidRow id world.hub.db.returns <;> exact owed_rest owed rest rfl rfl
  | fetchApproval | insertReturn | addReceiptedReturnLine | insertReturnLine | updateReturnTotals => exact absurd closing id

end Runs

/-- Lines and returns are keyed by their ids, and nothing has been closed yet. -/
structure Opening {Remote : Type} (world : CounterWorld Remote) : Prop where
  returnIds : (world.hub.db.returns.returns.map ReturnRow.id).Nodup
  lineIds : (world.hub.db.returns.returnLines.map ReturnLineRow.id).Nodup
  unsubmitted : world.submissions = []
  untouched : world.restocked = [] ∧ world.voided = []

section Run
variable {Remote Answer : Type} {rank : Uuid → Nat} {providers : Providers Remote Answer} {tables : ReturnTables}

theorem owed_pending (app : AppState) :
    (closing rank providers tables : Rules _ _ _ (CounterChoice Answer)).Pending
      ((returnCounter app rank providers).only ClosesReturn) conduct (fun _ request => request.restocks = []) Owed where
  keeps task := program_keeps app task.property fun _ nothing => nothing
  started world others task request _ nothing _ _ owed := by
    refine owed_of_le owed (le_of_eq ?_) rfl
    rw [toPutBack_cons, nothing]
    exact congrArg _ (zero_add _)
  continued choice world others request next meets kept granted owed follows after :=
    owed_continued meets kept owed follows granted.1 after
  finished choice world others request meets kept granted owed rests := by
    obtain ⟨next, follows, after⟩ := rests
    exact owed_dropped (owed_continued meets kept owed follows granted.1 after)
  dropped world others request _ _ owed := owed_dropped owed

/-- In every run of FinalizeReturn and VoidReturn commands, with any keys, interleavings,
failures and crashes, in which a return that is written is still what its handler has
found, no return is submitted twice, put back twice, or both finalized and voided. -/
theorem finalized_once (app : AppState) (rank : Uuid → Nat) (providers : Providers Remote Answer)
    (world : CounterWorld Remote) (opening : Opening world)
    (events : List (Event (CounterChoice Answer) { task // ClosesReturn task }))
    (meets : stillStands.RunMeets ((returnCounter app rank providers).only ClosesReturn) (Pool.quiet world) events) :
    FinalizedOnce (((returnCounter app rank providers).only ClosesReturn).run (Pool.quiet world) events).world := by
  have closed : finalizedReturns world = [] := by simp [finalizedReturns, opening.unsubmitted]
  obtain ⟨restocked, voided⟩ := opening.untouched
  have kept : Kept world.hub.db.returns world :=
    { lines := rfl
      unique := opening.returnIds
      finalized := by simp [closed]
      voided := by simp [voided]
      submitted := by simp [closed]
      apart := by simp [voided] }
  have owed : Owed world 0 := ⟨by simp [restocked, toPutBack], by simp [restocked, toPutBack]⟩
  obtain ⟨after, still⟩ := (owed_pending app).reached closing_assured rfl ⟨kept, owed⟩
    (fun task _ => program_safe app opening.lineIds task.property) meets
  have restockedOnce := Multiset.nodup_of_le (Multiset.le_add_right _ _) still.once
  exact ⟨after.submitted, Multiset.coe_nodup.mp restockedOnce, after.apart⟩

end Run

section Samples
open Attempts ReceiptedReturns

def returnedItem (id : Nat) : ReturnLineRow := ⟨.random id, 60, none, "SKU", "Item", 1, 500, 500, 0, true⟩

/-- A return of two items that is refunded in full, and one with nothing to refund. -/
def refundedReturn : CounterWorld RemotePayments :=
  counterWith ⟨[{ openReturn 60 none with state := .paid, totalCents := 1000, refundedCents := 1000 },
    { openReturn 61 none with state := .items }], [returnedItem 80, returnedItem 81], [], []⟩

theorem refundedReturn_opening : Opening refundedReturn := ⟨by decide, by decide, rfl, rfl, rfl⟩

/-- Each is finalized under one key, and then again and voided under others. -/
def oneAfterAnother : List (Event (CounterChoice ProviderAnswer) { task // ClosesReturn task }) :=
  .start ⟨returnCommand 100 (.finalizeReturn 60), trivial⟩ :: counterSteps 20 500 ++
    .start ⟨returnCommand 101 (.finalizeReturn 60), trivial⟩ :: counterSteps 20 600 ++
    .start ⟨returnCommand 102 (.finalizeReturn 61), trivial⟩ :: counterSteps 20 700 ++
    .start ⟨returnCommand 103 (.voidReturn 61), trivial⟩ :: counterSteps 20 800

theorem two_returns_finalized :
    let after := (((returnCounter shop byBits contractual).only ClosesReturn).run
      (Pool.quiet refundedReturn) oneAfterAnother).world
    after.restocked.length = 2 ∧ finalizedReturns after = [60, 61] ∧ FinalizedOnce after :=
  ⟨by decide +kernel, by decide +kernel,
    finalized_once shop byBits contractual refundedReturn refundedReturn_opening oneAfterAnother (by decide +kernel)⟩

/-- Two commands under different keys that take turns: both find the return paid. -/
def atOnce : List (Event (CounterChoice ProviderAnswer) { task // ClosesReturn task }) :=
  .start ⟨returnCommand 100 (.finalizeReturn 60), trivial⟩ ::
    .start ⟨returnCommand 101 (.finalizeReturn 60), trivial⟩ ::
    (List.range 40).map fun step => .step (step % 2) (counterChoice step (500 + step))

theorem return_submitted_twice :
    ¬∀ (world : CounterWorld RemotePayments) (events : List (Event (CounterChoice ProviderAnswer) { task // ClosesReturn task })),
      Opening world →
        FinalizedOnce (((returnCounter shop byBits contractual).only ClosesReturn).run (Pool.quiet world) events).world := by
  intro all
  have twice : ¬(finalizedReturns (((returnCounter shop byBits contractual).only ClosesReturn).run
      (Pool.quiet refundedReturn) atOnce).world).Nodup := by decide +kernel
  exact twice (all refundedReturn atOnce refundedReturn_opening).submitted

end Samples
end ApexEdge.Proofs.FinalReturns
