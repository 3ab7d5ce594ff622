import ApexEdge.Proofs.SyncOutcomes

/-! Is the sync of an entity all or nothing? It is where the body is whole and gets applied, or
where the run fails and what it wrote says nothing new. A body that is cut off at a line is
applied as far as it goes, and reported as a success. -/

namespace ApexEdge.Proofs.SyncAtomicity
open Payment Domain Storage Sync Library Overwrites
open SyncedRows SyncOutcomes

section Property
variable (decoders : Decoders) (storeId : Uuid)

/-- Exactly the declared number of payload lines, all of them valid. -/
def Complete (entity : SyncEntity) (reply : Reply) (total : Nat) : Prop :=
  ∃ rest, announced decoders reply = some (total, rest) ∧ (payloadLines rest).length = total ∧
    ∀ line ∈ payloadLines rest, ∃ payload, decoders.payload line = some payload ∧ Valid decoders storeId entity payload

def SameRows (entity : SyncEntity) (before after : SyncTables) : Prop :=
  ∀ row, row ∈ rows entity after ↔ row ∈ rows entity before

def ReportedFailed (after : Except RunSyncError Unit × SyncTables) : Prop :=
  ∃ error, after.1 = .error error ∧ after.2.latestRun = some (.failed error)

/-- The body was complete, the tables hold what it describes and the checkpoint counts it; or
tables and checkpoint are as before and the run is reported failed. -/
def AllOrNothing (entity : SyncEntity) (reply : Reply) (before : SyncTables)
    (after : Except RunSyncError Unit × SyncTables) : Prop :=
  (∃ total, Complete decoders storeId entity reply total ∧
    (∀ row, Fresh decoders storeId entity (sent decoders reply) row → Held storeId (rows entity after.2) row) ∧
    (after.2.getSyncCheckpoint entity).getD 0 = (before.getSyncCheckpoint entity).getD 0 + total) ∨
  SameRows entity before after.2 ∧ after.2.getSyncCheckpoint entity = before.getSyncCheckpoint entity ∧
    ReportedFailed after

/-- Nothing is declared and nothing sent. -/
def SaysNothing (reply : Reply) : Prop :=
  ∃ rest, announced decoders reply = some (0, rest) ∧ payloadLines rest = []

/-- As many payload lines as declared, and no blank line before the last of them. -/
def Whole (reply : Reply) : Prop :=
  ∃ total rest, announced decoders reply = some (total, rest) ∧ (payloadLines rest).length = total ∧
    payloadLines (rest.take total) = payloadLines rest

variable (config : SyncSourceConfig) (replies : SyncEntity → Reply) (before : SyncTables)

/-- The run reaches the entity, and its payloads can be applied. -/
def PutInPlace (entities : List SyncEntity) (entity : SyncEntity) : Prop :=
  entity ∈ entities ∧ GetsPast decoders storeId replies before (upTo entity entities) ∧
    Passes decoders storeId (foreignIds storeId before) entity (replies entity) ∧ received decoders (replies entity) ≠ []

/-- What the failed run wrote to the entity's tables says what they said: the payloads before an
invalid one, and for the stock the items of a new catalog. -/
def SaysNothingNew (entity : SyncEntity) : Prop :=
  (rowByRow entity = true → GetsPast decoders storeId replies before (upTo entity config.entities) →
    Legible decoders (replies entity) →
      Restates (Fresh decoders storeId entity (validPart decoders storeId entity (received decoders (replies entity))))
        (Gone decoders storeId entity (validPart decoders storeId entity (received decoders (replies entity))))
        (rows entity before)) ∧
  (entity = .inventory →
    PutInPlace decoders storeId replies before (upTo entity config.entities) .catalog →
      Restates (Unstocked decoders storeId (received decoders (replies .catalog))) (StockOf storeId)
        (rows .inventory before))

/-- When the sync of an entity is all or nothing. -/
def Atomic (entity : SyncEntity) : Prop :=
  SaysNothing decoders (replies entity) ∨
  PutInPlace decoders storeId replies before config.entities entity ∧ Whole decoders (replies entity) ∨
  ¬PutInPlace decoders storeId replies before config.entities entity ∧
    ¬GetsPast decoders storeId replies before config.entities ∧
    SaysNothingNew decoders storeId config replies before entity

end Property

section Bodies
variable {decoders : Decoders} {storeId : Uuid} {entity : SyncEntity} {reply : Reply} {total : Nat} {rest : List Line}

theorem received_saysNothing (nothing : SaysNothing decoders reply) : received decoders reply = [] := by
  obtain ⟨rest, declared, _⟩ := nothing
  simp [received, declared, payloadLines]

theorem sent_saysNothing (nothing : SaysNothing decoders reply) : sent decoders reply = [] := by
  obtain ⟨rest, declared, blank⟩ := nothing
  simp [sent, declared, blank]

theorem complete_of_saysNothing (nothing : SaysNothing decoders reply) : Complete decoders storeId entity reply 0 := by
  obtain ⟨rest, declared, blank⟩ := nothing
  exact ⟨rest, declared, by rw [blank]; rfl, by rw [blank]; exact fun _ member => (List.not_mem_nil member).elim⟩

theorem saysNothing_of_complete (complete : Complete decoders storeId entity reply 0) : SaysNothing decoders reply := by
  obtain ⟨rest, declared, count, _⟩ := complete
  exact ⟨rest, declared, List.length_eq_zero_iff.mp count⟩

/-- What is read of a whole body is all of it. -/
theorem received_whole (whole : Whole decoders reply) : received decoders reply = sent decoders reply := by
  obtain ⟨total, rest, declared, _, all⟩ := whole
  simp [received, sent, declared, all]

theorem readable (legible : Legible decoders reply) (declared : announced decoders reply = some (total, rest)) :
    ∀ line ∈ payloadLines (rest.take total), (decoders.payload line).isSome := by
  cases reply with
  | none => cases declared
  | some text =>
    simp only [announced, Option.bind_some] at declared
    simp only [Legible] at legible
    cases split : lines text with
    | nil => simp [split] at declared
    | cons first others =>
      simp only [split] at declared legible
      obtain ⟨own, same, readable⟩ := legible
      rw [same, Option.map_some] at declared
      obtain ⟨rfl, rfl⟩ := Prod.mk.inj (Option.some.inj declared)
      exact readable

theorem length_filterMap {lines : List Line} (readable : ∀ line ∈ lines, (decoders.payload line).isSome) :
    (lines.filterMap decoders.payload).length = lines.length := by
  induction lines with
  | nil => rfl
  | cons line lines ih =>
    obtain ⟨payload, read⟩ := Option.isSome_iff_exists.mp (readable line List.mem_cons_self)
    rw [List.filterMap_cons_some read, List.length_cons, List.length_cons,
      ih fun later member => readable later (List.mem_cons_of_mem _ member)]

theorem length_received (legible : Legible decoders reply) (declared : announced decoders reply = some (total, rest)) :
    (received decoders reply).length = (payloadLines (rest.take total)).length := by
  have all := length_filterMap (readable legible declared)
  simpa [received, declared] using all

/-- All payload lines stand among the lines that were read, if these are as many. -/
theorem all_read (count : (payloadLines rest).length = total) (read : (payloadLines (rest.take total)).length = total) :
    payloadLines (rest.take total) = payloadLines rest := by
  have split : payloadLines rest = payloadLines (rest.take total) ++ payloadLines (rest.drop total) := by
    rw [← payloadLines_append, List.take_append_drop]
  have none : payloadLines (rest.drop total) = [] := by
    rw [split, List.length_append] at count
    exact List.length_eq_zero_iff.mp (by omega)
  rw [split, none, List.append_nil]

/-- The payloads of a whole body, one for each of its lines. -/
theorem complete_of_whole (legible : Legible decoders reply)
    (valid : ∀ payload ∈ received decoders reply, Valid decoders storeId entity payload) (whole : Whole decoders reply) :
    Complete decoders storeId entity reply (received decoders reply).length := by
  obtain ⟨total, rest, declared, count, all⟩ := whole
  have length := length_received legible declared
  rw [all] at length
  refine ⟨rest, ?_, length.symm, fun line member => ?_⟩
  · rw [length, count]
    exact declared
  · rw [← all] at member
    obtain ⟨payload, read⟩ := Option.isSome_iff_exists.mp (readable legible declared line member)
    refine ⟨payload, read, valid payload ?_⟩
    rw [received, declared]
    exact List.mem_filterMap.mpr ⟨line, member, read⟩

theorem whole_of_complete (legible : Legible decoders reply)
    (complete : Complete decoders storeId entity reply (received decoders reply).length) : Whole decoders reply := by
  obtain ⟨rest, declared, count, _⟩ := complete
  exact ⟨_, rest, declared, count, all_read count (length_received legible declared).symm⟩

end Bodies

section Outcome
variable {decoders : Decoders} {storeId : Uuid} {now : Timestamp} {replies : SyncEntity → Reply}
variable {config : SyncSourceConfig} {before : SyncTables} {entity : SyncEntity}
variable {after : Except RunSyncError Unit × SyncTables}

/-- Where the checkpoint has not moved, only a body that says nothing was dealt with. -/
theorem unmoved (same : after.2.getSyncCheckpoint entity = before.getSyncCheckpoint entity) {reply : Reply} :
    AllOrNothing decoders storeId entity reply before after ↔
      SaysNothing decoders reply ∨ SameRows entity before after.2 ∧ ReportedFailed after := by
  constructor
  · rintro (⟨total, complete, _, moved⟩ | ⟨rows, _, failed⟩)
    · obtain rfl : total = 0 := by
        rw [same] at moved
        omega
      exact .inl (saysNothing_of_complete complete)
    · exact .inr ⟨rows, failed⟩
  · rintro (nothing | ⟨rows, failed⟩)
    · refine .inl ⟨0, complete_of_saysNothing nothing, fun row fresh => ?_, by simp [same]⟩
      rw [Fresh, sent_saysNothing nothing] at fresh
      exact fresh.elim
    · exact .inr ⟨rows, same, failed⟩

/-- The stock, after a run that does not name it: as before, unless a new catalog has cleared it. -/
theorem stock_iff {entities : List SyncEntity} (once : entities.Nodup) (unnamed : .inventory ∉ entities) :
    SameRows .inventory before (runSyncNdjsonInner decoders storeId now replies entities before).2 ↔
      (PutInPlace decoders storeId replies before entities .catalog →
        Restates (Unstocked decoders storeId (received decoders (replies .catalog))) (StockOf storeId)
          (rows .inventory before)) := by
  have unchanged {restated : Prop} {after : SyncTables} (same : rows .inventory after = rows .inventory before)
      (unput : ¬PutInPlace decoders storeId replies before entities .catalog) :
      SameRows .inventory before after ↔ (PutInPlace decoders storeId replies before entities .catalog → restated) :=
    ⟨fun _ put => absurd put unput, fun _ row => by rw [same]⟩
  by_cases named : .catalog ∈ entities
  · obtain ⟨back, split⟩ := split_at named
    have partUnnamed : .inventory ∉ upTo .catalog entities := fun member =>
      unnamed (upTo_subset member)
    have kept := @run_untouched decoders storeId now replies .inventory _ partUnnamed
      (fun _ => unnamed_upTo .catalog entities) before
    have foreign := @run_foreignIds decoders storeId now replies (upTo .catalog entities) before
    have behind : .inventory ∉ back := fun member =>
      unnamed (split ▸ List.mem_append_right _ (List.mem_cons_of_mem _ member))
    have onceBack : .catalog ∉ back := by
      rw [split] at once
      exact (List.nodup_cons.mp (List.nodup_append.mp once).2.1).1
    rcases @run_at decoders storeId now replies before .catalog entities back .inventory split behind fun _ => onceBack
      with ⟨stopped, same⟩ | ⟨past, result, turned, same, _⟩
    · exact unchanged (by rw [same, kept]) fun put => stopped put.2.1
    · cases turned with
      | illegible illegible => exact unchanged (same.trans kept) fun put => illegible put.2.2.1.1
      | empty _ empty => exact unchanged (same.trans kept) fun put => put.2.2.2 empty
      | inapplicable _ inapplicable =>
        rcases whole_or_none decoders storeId now .catalog rfl (received decoders (replies .catalog))
          (runSyncNdjsonInner decoders storeId now replies (upTo .catalog entities) before).2 with applicable | none
        · exact absurd applicable inapplicable
        · rw [foreign] at inapplicable
          exact unchanged (same.trans ((congrArg _ none).trans kept)) fun put => inapplicable put.2.2.1.2
      | applied passes nonempty =>
        have written := @wrote_stock decoders storeId now _ _ passes.2
        rw [kept] at written
        rw [SameRows, same, rows_ingestBatch, written.same_iff]
        rw [foreign] at passes
        exact ⟨fun restated _ => restated, fun cleared => cleared ⟨named, past, passes, nonempty⟩⟩
  · have kept := @run_untouched decoders storeId now replies .inventory entities unnamed (fun _ => named) before
    exact unchanged kept fun put => named put.1

/-- Tables that the entity's own turn has left as they were. -/
theorem untouched_iff {tables : SyncTables}
    (same : rows entity tables = rows entity
      (runSyncNdjsonInner decoders storeId now replies (upTo entity config.entities) before).2)
    (each : rowByRow entity = true → GetsPast decoders storeId replies before (upTo entity config.entities) →
      Legible decoders (replies entity) →
        Restates (Fresh decoders storeId entity (validPart decoders storeId entity (received decoders (replies entity))))
          (Gone decoders storeId entity (validPart decoders storeId entity (received decoders (replies entity))))
          (rows entity before)) :
    SameRows entity before tables ↔ SaysNothingNew decoders storeId config replies before entity := by
  by_cases stock : entity = .inventory
  · subst stock
    have cleared := @stock_iff decoders storeId now replies before (upTo .inventory config.entities)
      ((entities_once config).sublist (List.takeWhile_sublist _)) (unnamed_upTo _ _)
    rw [SameRows, same]
    exact cleared.trans ⟨fun restated => ⟨each, fun _ => restated⟩, fun new => new.2 rfl⟩
  · have kept := @run_untouched decoders storeId now replies entity _ (unnamed_upTo entity config.entities)
      (fun own => absurd own stock) before
    exact ⟨fun _ => ⟨each, fun own => absurd own stock⟩, fun _ row => by rw [same, kept]⟩

/-- A batch without payloads restates nothing. -/
theorem restates_nothing (each : rowByRow entity = true) :
    Restates (Fresh decoders storeId entity []) (Gone decoders storeId entity []) (rows entity before) := by
  intro row
  cases entity with
  | catalog | priceBook | inventory | other => cases each
  | _ => exact ⟨fun fresh => fresh.elim, fun ⟨_, _, member, _⟩ => (List.not_mem_nil member).elim⟩

/-- An entity whose payloads were not applied keeps its checkpoint, and its tables if what was
written to them says nothing new. -/
theorem unplaced (named : entity ∈ config.entities)
    (unput : ¬PutInPlace decoders storeId replies before config.entities entity) :
    (runSyncNdjsonInner decoders storeId now replies config.entities before).2.getSyncCheckpoint entity =
        before.getSyncCheckpoint entity ∧
      (SameRows entity before (runSyncNdjsonInner decoders storeId now replies config.entities before).2 ↔
        SaysNothingNew decoders storeId config replies before entity) := by
  obtain ⟨back, split, unnamed, uncleared⟩ := config_split named
  have frontCheckpoint := @run_checkpoint decoders storeId now replies entity _ (unnamed_upTo entity config.entities) before
  have frontForeign := @run_foreignIds decoders storeId now replies (upTo entity config.entities) before
  rcases @run_at decoders storeId now replies before entity config.entities back entity split unnamed uncleared
    with ⟨stopped, same⟩ | ⟨past, result, turned, sameRows, sameCheckpoint⟩
  · rw [same]
    exact ⟨frontCheckpoint, untouched_iff rfl fun _ past => absurd past stopped⟩
  · rw [sameCheckpoint, SameRows, sameRows]
    cases turned with
    | illegible illegible => exact ⟨frontCheckpoint, untouched_iff rfl fun _ _ legible => absurd legible illegible⟩
    | empty _ empty =>
      refine ⟨frontCheckpoint, untouched_iff rfl fun each _ _ => ?_⟩
      rw [empty]
      exact restates_nothing each
    | applied passes nonempty =>
      rw [frontForeign] at passes
      exact absurd ⟨named, past, passes, nonempty⟩ unput
    | inapplicable legible inapplicable =>
      refine ⟨(checkpoint_apply _).trans frontCheckpoint, ?_⟩
      by_cases each : rowByRow entity = true
      · have notStock : entity ≠ .inventory := fun stock => by simp [stock, rowByRow] at each
        have kept := @run_untouched decoders storeId now replies entity _ (unnamed_upTo entity config.entities)
          (fun own => absurd own notStock) before
        have written := @wrote_each decoders storeId now entity each (received decoders (replies entity))
          (runSyncNdjsonInner decoders storeId now replies (upTo entity config.entities) before).2
        rw [kept] at written
        exact written.same_iff.trans ⟨fun restated => ⟨fun _ _ _ => restated, fun own => absurd own notStock⟩,
          fun new => new.1 each past legible⟩
      · rcases whole_or_none decoders storeId now entity (Bool.eq_false_iff.mpr each) (received decoders (replies entity))
          (runSyncNdjsonInner decoders storeId now replies (upTo entity config.entities) before).2 with applicable | none
        · exact absurd applicable inapplicable
        · exact untouched_iff (congrArg _ none) fun own => absurd own each

/-- An entity whose payloads were applied holds what they describe, and its checkpoint counts them. -/
theorem placed (put : PutInPlace decoders storeId replies before config.entities entity) :
    (∀ row, Fresh decoders storeId entity (received decoders (replies entity)) row →
        Held storeId (rows entity (runSyncNdjsonInner decoders storeId now replies config.entities before).2) row) ∧
      (runSyncNdjsonInner decoders storeId now replies config.entities before).2.getSyncCheckpoint entity =
        some ((before.getSyncCheckpoint entity).getD 0 + (received decoders (replies entity)).length) := by
  obtain ⟨named, past, passes, nonempty⟩ := put
  obtain ⟨back, split, unnamed, uncleared⟩ := config_split named
  have frontCheckpoint := @run_checkpoint decoders storeId now replies entity _ (unnamed_upTo entity config.entities) before
  have frontForeign := @run_foreignIds decoders storeId now replies (upTo entity config.entities) before
  rcases @run_at decoders storeId now replies before entity config.entities back entity split unnamed uncleared
    with ⟨stopped, _⟩ | ⟨_, result, turned, sameRows, sameCheckpoint⟩
  · exact absurd past stopped
  · rw [sameRows, sameCheckpoint]
    cases turned with
    | illegible illegible => exact absurd passes.1 illegible
    | empty _ empty => exact absurd empty nonempty
    | inapplicable _ inapplicable =>
      rw [frontForeign] at inapplicable
      exact absurd passes.2 inapplicable
    | applied applied =>
      constructor
      · intro row fresh
        rw [rows_ingestBatch]
        exact held_applied nonempty applied.2 fresh
      · rw [checkpoint_ingested, checkpoint_apply, frontCheckpoint]

end Outcome

section Reported
variable {decoders : Decoders} {storeId : Uuid} {now : Timestamp} {replies : SyncEntity → Reply}
variable {config : SyncSourceConfig} {before : SyncTables} {entity : SyncEntity}

/-- A run as it is reported. -/
theorem run_reported :
    rows entity (runSyncNdjson decoders storeId now replies config before).2 = rows entity
      (runSyncNdjsonInner decoders storeId now replies config.entities (before.upsertLatestSyncRun .running)).2 ∧
    (runSyncNdjson decoders storeId now replies config before).2.getSyncCheckpoint entity =
      (runSyncNdjsonInner decoders storeId now replies config.entities
        (before.upsertLatestSyncRun .running)).2.getSyncCheckpoint entity ∧
    (ReportedFailed (runSyncNdjson decoders storeId now replies config before) ↔
      ¬GetsPast decoders storeId replies before config.entities) := by
  have succeeds := @run_ok_iff decoders storeId now replies config.entities (before.upsertLatestSyncRun .running)
  unfold runSyncNdjson
  rcases ended : runSyncNdjsonInner decoders storeId now replies config.entities (before.upsertLatestSyncRun .running)
    with ⟨error | done, reached⟩ <;> rw [ended] at succeeds
  · exact ⟨rows_marked _ reached, rfl, fun _ past => (nomatch succeeds.mpr past), fun _ => ⟨error, rfl, rfl⟩⟩
  · exact ⟨rows_marked _ reached, rfl, fun ⟨_, failed, _⟩ => (nomatch failed), fun stopped => absurd (succeeds.mp rfl) stopped⟩

/-- The sync of an entity is all or nothing exactly where the body says nothing, or is whole and
is put in place, or is not put in place, the run fails, and what it wrote says nothing new. -/
theorem all_or_nothing_iff (decoders : Decoders) (storeId : Uuid) (now : Timestamp) (config : SyncSourceConfig)
    (replies : SyncEntity → Reply) (before : SyncTables) (entity : SyncEntity) (named : entity ∈ config.entities) :
    AllOrNothing decoders storeId entity (replies entity) before
        (runSyncNdjson decoders storeId now replies config before) ↔
      Atomic decoders storeId config replies before entity := by
  obtain ⟨sameRows, sameCheckpoint, failed⟩ := @run_reported decoders storeId now replies config before entity
  by_cases put : PutInPlace decoders storeId replies before config.entities entity
  · obtain ⟨held, counted⟩ := @placed decoders storeId now replies config (before.upsertLatestSyncRun .running) entity put
    rw [← sameRows] at held
    rw [← sameCheckpoint] at counted
    have nonempty : received decoders (replies entity) ≠ [] := put.2.2.2
    obtain ⟨legible, valid, _⟩ := put.2.2.1
    constructor
    · rintro (⟨total, complete, _, moved⟩ | ⟨_, unmoved, _⟩)
      · have count : total = (received decoders (replies entity)).length := by
          rw [counted, Option.getD_some] at moved
          have same : ((before.upsertLatestSyncRun .running).getSyncCheckpoint entity).getD 0 =
            (before.getSyncCheckpoint entity).getD 0 := rfl
          omega
        exact .inr (.inl ⟨put, whole_of_complete legible (count ▸ complete)⟩)
      · refine absurd (List.length_eq_zero_iff.mp ?_) nonempty
        have same := counted.symm.trans unmoved
        have started : (before.upsertLatestSyncRun .running).getSyncCheckpoint entity =
          before.getSyncCheckpoint entity := rfl
        rw [started] at same
        have count := congrArg (Option.getD · 0) same
        simp only [Option.getD_some] at count
        omega
    · rintro (nothing | ⟨_, whole⟩ | ⟨unput, _⟩)
      · exact absurd (received_saysNothing nothing) nonempty
      · refine .inl ⟨_, complete_of_whole legible valid whole, fun row fresh => ?_, ?_⟩
        · rw [← received_whole whole] at fresh
          exact held row fresh
        · rw [counted]
          rfl
      · exact absurd put unput
  · obtain ⟨unmovedInner, rowsInner⟩ := @unplaced decoders storeId now replies config
      (before.upsertLatestSyncRun .running) entity named put
    have same : SameRows entity before (runSyncNdjson decoders storeId now replies config before).2 ↔
        SaysNothingNew decoders storeId config replies before entity := by
      simp only [SameRows, SaysNothingNew, rows_marked] at rowsInner
      simp only [SameRows, sameRows]
      exact rowsInner
    have kept : (runSyncNdjson decoders storeId now replies config before).2.getSyncCheckpoint entity =
      before.getSyncCheckpoint entity := sameCheckpoint.trans unmovedInner
    rw [unmoved kept, same, failed, Atomic]
    simp only [put, false_and, not_false_eq_true, true_and, false_or]
    exact or_congr_right and_comm

end Reported

section CutOff

/-- The readers of a body that declares one payload. -/
def oneDeclared : Decoders := declaring "\x7b\"total\":1\x7d".toList 1

/-- A body that is cut off after its first line. -/
def cutOff : Reply := some "\x7b\"total\":1\x7d\n".toList

theorem announced_cutOff : announced oneDeclared cutOff = some (1, []) := by decide

theorem all_or_nothing_at_cutOff :
    AllOrNothing oneDeclared 1 .catalog cutOff newHub
        (runSyncNdjson oneDeclared 1 0 (fun _ => cutOff) defaultSyncEntities newHub) ↔
      Atomic oneDeclared 1 defaultSyncEntities (fun _ => cutOff) newHub .catalog :=
  all_or_nothing_iff oneDeclared 1 0 defaultSyncEntities (fun _ => cutOff) newHub .catalog (by decide)

/-- Every body is cut off before its payload, and the run is a success. -/
theorem cut_off_is_neither : ¬AllOrNothing oneDeclared 1 .catalog cutOff newHub
    (runSyncNdjson oneDeclared 1 0 (fun _ => cutOff) defaultSyncEntities newHub) := by
  rintro (⟨total, ⟨rest, declared, count, _⟩, _⟩ | ⟨_, _, error, failed, _⟩)
  · rw [announced_cutOff] at declared
    obtain ⟨rfl, rfl⟩ := Prod.mk.inj (Option.some.inj declared)
    cases count
  · have succeeded : (runSyncNdjson oneDeclared 1 0 (fun _ => cutOff) defaultSyncEntities newHub).1 = .ok () := by
      decide
    rw [succeeded] at failed
    cases failed

end CutOff
end ApexEdge.Proofs.SyncAtomicity
