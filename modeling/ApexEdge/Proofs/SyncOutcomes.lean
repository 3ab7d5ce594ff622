import ApexEdge.Proofs.SyncedRows

/-! What a sync run makes of the bodies it receives. -/

namespace ApexEdge.Proofs.SyncOutcomes
open Payment Domain Storage Sync Library Overwrites SyncedRows

/-- Lines that are not blank. -/
def payloadLines (lines : List Line) : List Line := (lines.map trim).filter (· ≠ [])

theorem payloadLines_append (first later : List Line) :
    payloadLines (first ++ later) = payloadLines first ++ payloadLines later := by simp [payloadLines]

section Bodies
variable (decoders : Decoders)

/-- The declared total, and the lines after the declaration. -/
def announced (reply : Reply) : Option (Nat × List Line) :=
  reply.bind fun text =>
    match lines text with
    | [] => none
    | first :: rest => (decoders.total first).map fun total => (total, rest)

/-- There is a body, and what is read of it decodes. -/
def Legible (reply : Reply) : Prop :=
  match reply with
  | none => False
  | some text =>
    match lines text with
    | [] => True
    | first :: rest => ∃ total, decoders.total first = some total ∧
        ∀ line ∈ payloadLines (rest.take total), (decoders.payload line).isSome

/-- The payloads among the lines that the declared total covers. -/
def received (reply : Reply) : List Payload :=
  match announced decoders reply with
  | none => []
  | some (total, rest) => (payloadLines (rest.take total)).filterMap decoders.payload

/-- All payloads of the body. -/
def sent (reply : Reply) : List Payload :=
  match announced decoders reply with
  | none => []
  | some (_, rest) => (payloadLines rest).filterMap decoders.payload

variable {decoders}

theorem readPayloads_of_legible {lines : List Line} (legible : ∀ line ∈ payloadLines lines, (decoders.payload line).isSome) :
    readPayloads decoders lines = .ok ((payloadLines lines).filterMap decoders.payload) := by
  induction lines with
  | nil => rfl
  | cons line rest ih =>
    rw [readPayloads]
    by_cases blank : trim line = []
    · have skipped : payloadLines (line :: rest) = payloadLines rest := by simp [payloadLines, blank]
      rw [skipped] at legible ⊢
      rw [if_pos blank, ih legible]
    · have kept : payloadLines (line :: rest) = trim line :: payloadLines rest := by simp [payloadLines, blank]
      rw [kept] at legible ⊢
      obtain ⟨payload, read⟩ := Option.isSome_iff_exists.mp (legible _ List.mem_cons_self)
      rw [if_neg blank, ih fun later member => legible later (List.mem_cons_of_mem _ member),
        List.filterMap_cons_some read, read]
      rfl

theorem readPayloads_of_illegible {lines : List Line}
    (illegible : ¬∀ line ∈ payloadLines lines, (decoders.payload line).isSome) :
    ∃ error, readPayloads decoders lines = .error error := by
  induction lines with
  | nil => exact absurd (fun _ member => (List.not_mem_nil member).elim) illegible
  | cons line rest ih =>
    rw [readPayloads]
    by_cases blank : trim line = []
    · have skipped : payloadLines (line :: rest) = payloadLines rest := by simp [payloadLines, blank]
      rw [skipped] at illegible
      rw [if_pos blank]
      exact ih illegible
    · have kept : payloadLines (line :: rest) = trim line :: payloadLines rest := by simp [payloadLines, blank]
      rw [kept] at illegible
      rw [if_neg blank]
      cases read : decoders.payload (trim line) with
      | none => exact ⟨_, rfl⟩
      | some payload =>
        obtain ⟨error, failed⟩ := ih fun legible => illegible (by simpa [read] using legible)
        rw [failed]
        exact ⟨error, rfl⟩

theorem fetch_of_legible {reply : Reply} (legible : Legible decoders reply) :
    fetchEntityNdjsonStream decoders reply = .ok (received decoders reply) := by
  cases reply with
  | none => exact legible.elim
  | some text =>
    simp only [Legible] at legible
    simp only [fetchEntityNdjsonStream, received, announced, Option.bind_some]
    cases split : lines text with
    | nil => rfl
    | cons first rest =>
      simp only [split] at legible
      obtain ⟨total, declared, readable⟩ := legible
      simp only [declared, Option.map_some, readPayloads_of_legible readable]

theorem fetch_of_illegible {reply : Reply} (illegible : ¬Legible decoders reply) :
    ∃ error, fetchEntityNdjsonStream decoders reply = .error error := by
  cases reply with
  | none => exact ⟨_, rfl⟩
  | some text =>
    simp only [Legible] at illegible
    simp only [fetchEntityNdjsonStream]
    cases split : lines text with
    | nil => simp [split] at illegible
    | cons first rest =>
      simp only [split] at illegible
      cases declared : decoders.total first with
      | none =>
        simp only [declared]
        exact ⟨_, rfl⟩
      | some total =>
        simp only [declared]
        exact readPayloads_of_illegible fun readable => illegible ⟨total, declared, readable⟩

end Bodies

section Turns
variable (decoders : Decoders) (storeId : Uuid) (now : Timestamp)

/-- The run gets past the entity. -/
def Passes (foreign : List Uuid) (entity : SyncEntity) (reply : Reply) : Prop :=
  Legible decoders reply ∧ Applicable decoders storeId foreign entity (received decoders reply)

/-- What one turn does. -/
inductive Turn (entity : SyncEntity) (reply : Reply) (tables : SyncTables) :
    Except RunSyncError Unit × SyncTables → Prop where
  | illegible (illegible : ¬Legible decoders reply) (error : RunSyncError) : Turn entity reply tables (.error error, tables)
  | empty (legible : Legible decoders reply) (empty : received decoders reply = []) :
    Turn entity reply tables (.ok (), tables)
  | inapplicable (legible : Legible decoders reply)
    (inapplicable : ¬Applicable decoders storeId (foreignIds storeId tables) entity (received decoders reply))
    (error : RunSyncError) : Turn entity reply tables
      (.error error, (applyEntityBatch decoders storeId now entity (received decoders reply) tables).2)
  | applied (passes : Passes decoders storeId (foreignIds storeId tables) entity reply)
    (nonempty : received decoders reply ≠ []) : Turn entity reply tables
      (.ok (), ingestBatch entity (received decoders reply)
        (applyEntityBatch decoders storeId now entity (received decoders reply) tables).2)

theorem turn (entity : SyncEntity) (reply : Reply) (tables : SyncTables) :
    Turn decoders storeId now entity reply tables (syncEntity decoders storeId now entity reply tables) := by
  by_cases legible : Legible decoders reply
  · rw [syncEntity, fetch_of_legible legible]
    by_cases empty : received decoders reply = []
    · simp only [if_pos empty]
      exact .empty legible empty
    · simp only [if_neg empty]
      cases applied : applyEntityBatch decoders storeId now entity (received decoders reply) tables with
      | mk result after =>
        have settled := @settled_apply decoders storeId now entity (received decoders reply) tables
        rw [applied] at settled
        have same : after = (applyEntityBatch decoders storeId now entity (received decoders reply) tables).2 := by
          rw [applied]
        rcases settled with ⟨applicable, succeeded⟩ | ⟨inapplicable, ⟨error, failed⟩, _⟩
        · obtain rfl : result = .ok () := succeeded
          rw [same]
          exact .applied ⟨legible, applicable⟩ empty
        · obtain rfl : result = .error error := failed
          rw [same]
          exact .inapplicable legible inapplicable _
  · obtain ⟨error, failed⟩ := fetch_of_illegible legible
    rw [syncEntity, failed]
    exact .illegible legible _

variable {decoders storeId now} {entity other : SyncEntity} {reply : Reply} {tables : SyncTables}
variable {after : Except RunSyncError Unit × SyncTables}

theorem rows_ingestBatch (batch : List Payload) : rows other (ingestBatch entity batch tables) = rows other tables := by
  cases other <;> rfl

theorem checkpoint_ingestBatch (apart : entity ≠ other) (batch : List Payload) :
    (ingestBatch entity batch tables).getSyncCheckpoint other = tables.getSyncCheckpoint other := by
  rw [ingestBatch, SyncTables.setSyncCheckpoint, SyncTables.getSyncCheckpoint, Replica.valueOf_put,
    if_neg (Ne.symm apart)]
  rfl

theorem checkpoint_ingested (batch : List Payload) : (ingestBatch entity batch tables).getSyncCheckpoint entity =
    some ((tables.getSyncCheckpoint entity).getD 0 + batch.length) := by
  rw [ingestBatch, SyncTables.setSyncCheckpoint, SyncTables.getSyncCheckpoint, Replica.valueOf_put, if_pos rfl]

theorem checkpoint_apply (batch : List Payload) :
    (applyEntityBatch decoders storeId now entity batch tables).2.getSyncCheckpoint other =
      tables.getSyncCheckpoint other := by
  rw [SyncTables.getSyncCheckpoint, apply_checkpoints]
  rfl

/-- A turn succeeds if the run gets past the entity. -/
theorem Turn.ok_iff (turned : Turn decoders storeId now entity reply tables after) :
    after.1 = .ok () ↔ Passes decoders storeId (foreignIds storeId tables) entity reply := by
  cases turned with
  | illegible illegible => simp [Passes, illegible]
  | empty legible empty => simp [Passes, legible, empty, Applicable, Fits]
  | inapplicable legible inapplicable => simp [Passes, inapplicable]
  | applied passes => simp [passes]

/-- A turn leaves the tables of the other entities, but for the stock of a new catalog. -/
theorem Turn.rows_other (turned : Turn decoders storeId now entity reply tables after) (apart : entity ≠ other)
    (uncleared : ¬(entity = .catalog ∧ other = .inventory)) : rows other after.2 = rows other tables := by
  cases turned with
  | illegible | empty => rfl
  | inapplicable => exact apply_rows apart uncleared _ _
  | applied => exact (rows_ingestBatch _).trans (apply_rows apart uncleared _ _)

theorem Turn.checkpoint_other (turned : Turn decoders storeId now entity reply tables after) (apart : entity ≠ other) :
    after.2.getSyncCheckpoint other = tables.getSyncCheckpoint other := by
  cases turned with
  | illegible | empty => rfl
  | inapplicable => exact checkpoint_apply _
  | applied => exact (checkpoint_ingestBatch apart _).trans (checkpoint_apply _)

theorem Turn.foreignIds_eq (turned : Turn decoders storeId now entity reply tables after) :
    foreignIds storeId after.2 = foreignIds storeId tables := by
  cases turned with
  | illegible | empty => rfl
  | inapplicable => exact apply_foreignIds _ _
  | applied => exact apply_foreignIds _ _

end Turns

section Runs
variable (decoders : Decoders) (storeId : Uuid) (replies : SyncEntity → Reply) (before : SyncTables) in
/-- The run gets past these entities. -/
def GetsPast (entities : List SyncEntity) : Prop :=
  ∀ entity ∈ entities, Passes decoders storeId (foreignIds storeId before) entity (replies entity)

variable {decoders : Decoders} {storeId : Uuid} {now : Timestamp} {replies : SyncEntity → Reply}

theorem run_cons (entity : SyncEntity) (entities : List SyncEntity) (tables : SyncTables) :
    runSyncNdjsonInner decoders storeId now replies (entity :: entities) tables =
      match syncEntity decoders storeId now entity (replies entity) tables with
      | (.error error, tables) => (.error error, tables)
      | (.ok (), tables) => runSyncNdjsonInner decoders storeId now replies entities tables := rfl

theorem run_append (front back : List SyncEntity) (tables : SyncTables) :
    runSyncNdjsonInner decoders storeId now replies (front ++ back) tables =
      match runSyncNdjsonInner decoders storeId now replies front tables with
      | (.error error, tables) => (.error error, tables)
      | (.ok (), tables) => runSyncNdjsonInner decoders storeId now replies back tables := by
  induction front generalizing tables with
  | nil => rfl
  | cons entity front ih =>
    rw [List.cons_append, run_cons, run_cons]
    rcases syncEntity decoders storeId now entity (replies entity) tables with ⟨error | done, after⟩
    · rfl
    · exact ih after

theorem run_foreignIds (entities : List SyncEntity) (tables : SyncTables) :
    foreignIds storeId (runSyncNdjsonInner decoders storeId now replies entities tables).2 =
      foreignIds storeId tables := by
  induction entities generalizing tables with
  | nil => rfl
  | cons entity entities ih =>
    have turned := turn decoders storeId now entity (replies entity) tables
    rw [run_cons]
    rcases ended : syncEntity decoders storeId now entity (replies entity) tables with ⟨error | done, after⟩
    · rw [ended] at turned
      exact turned.foreignIds_eq
    · rw [ended] at turned
      exact (ih after).trans turned.foreignIds_eq

/-- A run succeeds if it gets past every entity. -/
theorem run_ok_iff (entities : List SyncEntity) (tables : SyncTables) :
    (runSyncNdjsonInner decoders storeId now replies entities tables).1 = .ok () ↔
      ∀ entity ∈ entities, Passes decoders storeId (foreignIds storeId tables) entity (replies entity) := by
  induction entities generalizing tables with
  | nil => simp [runSyncNdjsonInner]
  | cons entity entities ih =>
    have turned := turn decoders storeId now entity (replies entity) tables
    rw [run_cons, List.forall_mem_cons, ← turned.ok_iff]
    rcases ended : syncEntity decoders storeId now entity (replies entity) tables with ⟨error | done, after⟩
    · simp
    · rw [ended] at turned
      simp [ih, turned.foreignIds_eq]

/-- A run leaves the tables and the checkpoint of an entity that it does not name, but for the
stock of a new catalog. -/
theorem run_untouched {entity : SyncEntity} (entities : List SyncEntity) (unnamed : entity ∉ entities)
    (uncleared : entity = .inventory → .catalog ∉ entities) (tables : SyncTables) :
    rows entity (runSyncNdjsonInner decoders storeId now replies entities tables).2 = rows entity tables := by
  induction entities generalizing tables with
  | nil => rfl
  | cons first entities ih =>
    have turned := turn decoders storeId now first (replies first) tables
    have apart : first ≠ entity := fun same => unnamed (same ▸ List.mem_cons_self)
    have clear : ¬(first = .catalog ∧ entity = .inventory) := fun ⟨new, stock⟩ =>
      uncleared stock (new ▸ List.mem_cons_self)
    rw [run_cons]
    rcases ended : syncEntity decoders storeId now first (replies first) tables with ⟨error | done, after⟩
    · rw [ended] at turned
      exact turned.rows_other apart clear
    · rw [ended] at turned
      refine (ih (fun member => unnamed (List.mem_cons_of_mem _ member))
        (fun stock member => uncleared stock (List.mem_cons_of_mem _ member)) after).trans ?_
      exact turned.rows_other apart clear

theorem run_checkpoint {entity : SyncEntity} (entities : List SyncEntity) (unnamed : entity ∉ entities)
    (tables : SyncTables) :
    (runSyncNdjsonInner decoders storeId now replies entities tables).2.getSyncCheckpoint entity =
      tables.getSyncCheckpoint entity := by
  induction entities generalizing tables with
  | nil => rfl
  | cons first entities ih =>
    have turned := turn decoders storeId now first (replies first) tables
    have apart : first ≠ entity := fun same => unnamed (same ▸ List.mem_cons_self)
    rw [run_cons]
    rcases ended : syncEntity decoders storeId now first (replies first) tables with ⟨error | done, after⟩
    · rw [ended] at turned
      exact turned.checkpoint_other apart
    · rw [ended] at turned
      exact (ih (fun member => unnamed (List.mem_cons_of_mem _ member)) after).trans (turned.checkpoint_other apart)

/-- The entities before the first time one is named. -/
def upTo (entity : SyncEntity) (entities : List SyncEntity) : List SyncEntity := entities.takeWhile (· ≠ entity)

theorem split_at {entity : SyncEntity} {entities : List SyncEntity} (named : entity ∈ entities) :
    ∃ back, entities = upTo entity entities ++ entity :: back := by
  induction entities with
  | nil => cases named
  | cons first entities ih =>
    by_cases same : first = entity
    · exact ⟨entities, by simp [upTo, same]⟩
    · obtain ⟨back, split⟩ := ih ((List.mem_cons.mp named).resolve_left (Ne.symm same))
      refine ⟨back, ?_⟩
      rw [upTo, List.takeWhile_cons_of_pos (by simpa using same), List.cons_append]
      exact congrArg _ split

theorem unnamed_upTo (entity : SyncEntity) (entities : List SyncEntity) : entity ∉ upTo entity entities := fun member => by
  simpa using List.mem_takeWhile_imp member

theorem upTo_subset {entity other : SyncEntity} {entities : List SyncEntity} (member : other ∈ upTo entity entities) :
    other ∈ entities := List.takeWhile_subset _ member

variable {before : SyncTables} {entity : SyncEntity} {config : SyncSourceConfig}

/-- What a run leaves of an entity's tables, as one of its entities has left them. The entity is
not named after that one, nor, for the stock, the catalog. -/
theorem run_at {entities back : List SyncEntity} {other : SyncEntity}
    (split : entities = upTo entity entities ++ entity :: back) (unnamed : other ∉ back)
    (uncleared : other = .inventory → .catalog ∉ back) :
    (¬GetsPast decoders storeId replies before (upTo entity entities) ∧
      (runSyncNdjsonInner decoders storeId now replies entities before).2 =
        (runSyncNdjsonInner decoders storeId now replies (upTo entity entities) before).2) ∨
    (GetsPast decoders storeId replies before (upTo entity entities) ∧
      ∃ result, Turn decoders storeId now entity (replies entity)
          (runSyncNdjsonInner decoders storeId now replies (upTo entity entities) before).2 result ∧
        rows other (runSyncNdjsonInner decoders storeId now replies entities before).2 = rows other result.2 ∧
        (runSyncNdjsonInner decoders storeId now replies entities before).2.getSyncCheckpoint other =
          result.2.getSyncCheckpoint other) := by
  have whole : runSyncNdjsonInner decoders storeId now replies entities before =
      runSyncNdjsonInner decoders storeId now replies (upTo entity entities ++ entity :: back) before := by
    rw [← split]
  rw [whole, run_append]
  have front := @run_ok_iff decoders storeId now replies (upTo entity entities) before
  rcases ended : runSyncNdjsonInner decoders storeId now replies (upTo entity entities) before
    with ⟨error | done, reached⟩ <;> rw [ended] at front
  · exact .inl ⟨fun past => (nomatch front.mpr past), rfl⟩
  · refine .inr ⟨front.mp rfl, _, turn decoders storeId now entity (replies entity) reached, ?_⟩
    simp only [run_cons]
    rcases syncEntity decoders storeId now entity (replies entity) reached with ⟨error | done, after⟩
    · exact ⟨rfl, rfl⟩
    · exact ⟨run_untouched back unnamed uncleared after, run_checkpoint back unnamed after⟩

theorem entities_once (config : SyncSourceConfig) : config.entities.Nodup :=
  config.ordered.imp fun order => order.1

/-- What follows an entity in a run: not the entity itself, nor after the stock a catalog. -/
theorem config_split (named : entity ∈ config.entities) :
    ∃ back, config.entities = upTo entity config.entities ++ entity :: back ∧ entity ∉ back ∧
      (entity = .inventory → .catalog ∉ back) := by
  obtain ⟨back, split⟩ := split_at named
  have ordered := config.ordered
  rw [split, List.pairwise_append, List.pairwise_cons] at ordered
  exact ⟨back, split, fun again => (ordered.2.1.1 entity again).1 rfl,
    fun stock catalog => (ordered.2.1.1 .catalog catalog).2 ⟨stock, rfl⟩⟩

theorem rows_marked (state : SyncRunState) (tables : SyncTables) :
    rows entity (tables.upsertLatestSyncRun state) = rows entity tables := by cases entity <;> rfl

end Runs

/-- The readers, on bodies without payloads that declare a total. -/
def declaring (line : Line) (total : Nat) : Decoders where
  total first := if first = line then some total else none
  payload _ := none
  catalogItem _ := none
  category _ := none
  priceBook _ := none
  taxRule _ := none
  promotion _ := none
  customer _ := none
  inventoryLevel _ := none
  coupon _ := none
  printTemplate _ := none

/-- A hub that has not synced anything. -/
def newHub : SyncTables :=
  { catalogItems := [], categories := [], priceBookEntries := [], taxRules := [], promotions := [], customers := []
    couponDefinitions := [], printTemplates := [], inventory := ⟨[], [], []⟩, checkpoints := [], latestRun := none }

end ApexEdge.Proofs.SyncOutcomes

/-! Do two hubs of a store agree after they have synced the same snapshot? They agree on what
the snapshot replaces. Only the catalog and the price book are replaced as a whole, and only
by a snapshot that has something in it; whatever else was withdrawn stays. -/

namespace ApexEdge.Proofs.SyncConvergence
open Payment Domain Storage Sync Library Overwrites
open SyncedRows SyncOutcomes

/-- What headquarters decides alone; stock is shared with the store. -/
def masterData : List SyncEntity :=
  [.catalog, .categories, .priceBook, .taxRules, .customers, .promotions, .coupons, .printTemplates]

section Statement
variable (decoders : Decoders) (storeId : Uuid) (config : SyncSourceConfig) (replies : SyncEntity → Reply)

/-- The two hubs have the same rows of the store. -/
def Agree (hub other : SyncTables) : Prop :=
  ∀ entity ∈ masterData, ∀ row, row.storeId = some storeId → (row ∈ rows entity hub ↔ row ∈ rows entity other)

/-- The payloads of the snapshot. -/
def snapshot (entity : SyncEntity) : List Payload :=
  if entity ∈ config.entities then received decoders (replies entity) else []

/-- The two hubs have the same rows of the store among those that the snapshot does not replace. -/
def AgreeOnTheRest (hub other : SyncTables) : Prop :=
  ∀ entity ∈ masterData, ∀ row, row.storeId = some storeId →
    ¬Gone decoders storeId entity (snapshot decoders config replies entity) row →
      (row ∈ rows entity hub ↔ row ∈ rows entity other)

end Statement

section Runs
variable {decoders : Decoders} {storeId : Uuid} {now : Timestamp} {config : SyncSourceConfig}
variable {replies : SyncEntity → Reply} {before : SyncTables} {entity : SyncEntity}

theorem wrote_none (notStock : entity ≠ .inventory) (tables : SyncTables) :
    Wrote (Fresh decoders storeId entity []) (Gone decoders storeId entity []) (rows entity tables)
      (rows entity tables) := by
  cases entity with
  | inventory => exact absurd rfl notStock
  | catalog | priceBook =>
    exact ⟨fun row => by simp [Fresh, described, Latest, Gone], fun _ fresh => fresh.elim⟩
  | _ => exact wrote_nil

/-- What a turn that succeeds writes. -/
theorem wrote_turn {result : Except RunSyncError Unit × SyncTables} (notStock : entity ≠ .inventory)
    (turned : Turn decoders storeId now entity (replies entity) before result) (succeeded : result.1 = .ok ()) :
    Wrote (Fresh decoders storeId entity (received decoders (replies entity)))
      (Gone decoders storeId entity (received decoders (replies entity))) (rows entity before) (rows entity result.2) := by
  cases turned with
  | illegible | inapplicable => cases succeeded
  | empty _ empty =>
    rw [empty]
    exact wrote_none notStock before
  | applied passes nonempty =>
    rw [rows_ingestBatch]
    exact wrote_applied notStock nonempty passes.2

/-- What a run that succeeds writes to the tables of an entity. -/
theorem wrote_run (notStock : entity ≠ .inventory)
    (succeeded : (runSyncNdjsonInner decoders storeId now replies config.entities before).1 = .ok ()) :
    Wrote (Fresh decoders storeId entity (snapshot decoders config replies entity))
      (Gone decoders storeId entity (snapshot decoders config replies entity)) (rows entity before)
      (rows entity (runSyncNdjsonInner decoders storeId now replies config.entities before).2) := by
  by_cases named : entity ∈ config.entities
  · rw [snapshot, if_pos named]
    have past := (run_ok_iff config.entities before).mp succeeded
    obtain ⟨back, split, unnamed, uncleared⟩ := config_split named
    rcases @run_at decoders storeId now replies before entity config.entities back entity split unnamed uncleared
      with ⟨stopped, _⟩ | ⟨_, result, turned, same, _⟩
    · exact absurd (fun other member => past other (upTo_subset member)) stopped
    · have passes := past entity named
      rw [← @run_foreignIds decoders storeId now replies (upTo entity config.entities) before] at passes
      have written := wrote_turn notStock turned (turned.ok_iff.mpr passes)
      rw [@run_untouched decoders storeId now replies entity _ (unnamed_upTo entity config.entities)
        (fun stock => absurd stock notStock) before] at written
      rwa [same]
  · rw [snapshot, if_neg named, run_untouched config.entities named fun stock => absurd stock notStock]
    exact wrote_none notStock before

theorem wrote_sync (notStock : entity ≠ .inventory)
    (succeeded : (runSyncNdjson decoders storeId now replies config before).1 = .ok ()) :
    Wrote (Fresh decoders storeId entity (snapshot decoders config replies entity))
      (Gone decoders storeId entity (snapshot decoders config replies entity)) (rows entity before)
      (rows entity (runSyncNdjson decoders storeId now replies config before).2) := by
  unfold runSyncNdjson at succeeded ⊢
  rcases ended : runSyncNdjsonInner decoders storeId now replies config.entities (before.upsertLatestSyncRun .running)
    with ⟨error | done, reached⟩ <;> rw [ended] at succeeded
  · cases succeeded
  · have written := @wrote_run decoders storeId now config replies (before.upsertLatestSyncRun .running) entity notStock
      (by rw [ended])
    rw [ended, rows_marked] at written
    rw [rows_marked]
    exact written

/-- Two hubs of a store agree after they have synced the same snapshot exactly where they agreed
before on what it does not replace. -/
theorem hubs_agree_iff (decoders : Decoders) (storeId : Uuid) (config : SyncSourceConfig) (replies : SyncEntity → Reply)
    (hub other : SyncTables) (now later : Timestamp)
    (synced : (runSyncNdjson decoders storeId now replies config hub).1 = .ok ())
    (otherSynced : (runSyncNdjson decoders storeId later replies config other).1 = .ok ()) :
    Agree storeId (runSyncNdjson decoders storeId now replies config hub).2
        (runSyncNdjson decoders storeId later replies config other).2 ↔
      AgreeOnTheRest decoders storeId config replies hub other := by
  refine forall₂_congr fun entity member => ?_
  have notStock : entity ≠ .inventory := by
    rintro rfl
    simp [masterData] at member
  exact (wrote_sync notStock synced).agree_iff (wrote_sync notStock otherSynced) _

/-- The readers of an empty snapshot. -/
def noneDeclared : Decoders := declaring "\x7b\"total\":0\x7d".toList 0

/-- Headquarters has nothing left of anything. -/
def nothingLeft : Reply := some "\x7b\"total\":0\x7d\n".toList

/-- A hub that has synced a tax rule once. -/
def oldHub : SyncTables := { newHub with taxRules := [⟨1, 7, "VAT", 3, 1900, true⟩] }

theorem hubs_agree_on_nothing_left :
    Agree 1 (runSyncNdjson noneDeclared 1 0 (fun _ => nothingLeft) defaultSyncEntities oldHub).2
        (runSyncNdjson noneDeclared 1 0 (fun _ => nothingLeft) defaultSyncEntities newHub).2 ↔
      AgreeOnTheRest noneDeclared 1 defaultSyncEntities (fun _ => nothingLeft) oldHub newHub :=
  hubs_agree_iff noneDeclared 1 defaultSyncEntities (fun _ => nothingLeft) oldHub newHub 0 0 (by decide) (by decide)

/-- The rule was withdrawn; the hub that has synced it before keeps it after a successful run. -/
theorem withdrawn_rule_stays :
    (runSyncNdjson noneDeclared 1 0 (fun _ => nothingLeft) defaultSyncEntities oldHub).1 = .ok () ∧
    (runSyncNdjson noneDeclared 1 0 (fun _ => nothingLeft) defaultSyncEntities newHub).1 = .ok () ∧
    ¬Agree 1 (runSyncNdjson noneDeclared 1 0 (fun _ => nothingLeft) defaultSyncEntities oldHub).2
      (runSyncNdjson noneDeclared 1 0 (fun _ => nothingLeft) defaultSyncEntities newHub).2 := by
  refine ⟨by decide, by decide, fun agree => ?_⟩
  have kept := (agree .taxRules (by decide) (.taxRule ⟨1, 7, "VAT", 3, 1900, true⟩) rfl).mp (by decide)
  revert kept
  decide

end Runs
end ApexEdge.Proofs.SyncConvergence
