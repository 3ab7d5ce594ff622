import ApexEdge.Library.Table

/-! Work that is put off: records with a mark that tells whether they still wait for it, and
a queue of jobs, each for one record, that bring the record a final mark when they are done. -/

namespace ApexEdge.Library.Deferred

structure Job (Id Record : Type) where
  id : Id
  record : Record
  isDone : Bool

/-- The marks of the records that exist, the jobs, and the marks that jobs were done with. -/
structure Ledger (Id Record Mark : Type) where
  mark : Record → Option Mark
  jobs : List (Job Id Record)
  results : List (Id × Mark)

variable {Id Record Mark : Type}

/-- The statement that closes a job. -/
def close [DecidableEq Id] (id : Id) : Table.Update (Job Id Record) :=
  { selects := (·.id = id), set := fun job => { job with isDone := true } }

/-- The record exists and waits. -/
def Waits (waits : Mark → Bool) (ledger : Ledger Id Record Mark) (record : Record) : Prop :=
  (ledger.mark record).any waits = true

section Marks
variable [DecidableEq Record] {ledger : Ledger Id Record Mark} {record : Record} {mark : Mark}

/-- The ledger after one record is given a mark. -/
def marked (ledger : Ledger Id Record Mark) (record : Record) (mark : Mark) : Ledger Id Record Mark :=
  { ledger with mark := Function.update ledger.mark record (some mark) }

theorem marked_self : (marked ledger record mark).mark record = some mark := Function.update_self ..

theorem marked_other {other : Record} (apart : other ≠ record) :
    (marked ledger record mark).mark other = ledger.mark other := Function.update_of_ne apart ..

theorem waits_self {waits : Mark → Bool} : Waits waits (marked ledger record mark) record ↔ waits mark = true := by
  rw [Waits, marked_self, Option.any_some]

theorem waits_other {waits : Mark → Bool} {other : Record} (apart : other ≠ record) :
    Waits waits (marked ledger record mark) other ↔ Waits waits ledger other := by
  rw [Waits, Waits, marked_other apart]

end Marks

/-- Records wait exactly as long as they have an open job, but for jobs that are excused,
and bear the mark that their job was done with. -/
structure Agrees (waits : Mark → Bool) (ledger : Ledger Id Record Mark) (excused : Job Id Record → Prop) : Prop where
  ids : (ledger.jobs.map Job.id).Nodup
  records : (ledger.jobs.map Job.record).Nodup
  waiting : ∀ record, Waits waits ledger record → ∃ job ∈ ledger.jobs, job.record = record ∧ job.isDone = false
  opened : ∀ job ∈ ledger.jobs, job.isDone = false → Waits waits ledger job.record ∨ excused job
  closed : ∀ job ∈ ledger.jobs, job.isDone = true → ∃ mark, (job.id, mark) ∈ ledger.results
  resulted : ∀ result ∈ ledger.results, waits result.2 = false ∧ ∃ job ∈ ledger.jobs,
    job.id = result.1 ∧ job.isDone = true ∧ ledger.mark job.record = some result.2

namespace Agrees
variable {waits : Mark → Bool} {ledger : Ledger Id Record Mark} {excused others : Job Id Record → Prop}
  {record : Record} {mark : Mark} {job : Job Id Record}

/-- Nothing is there yet. -/
theorem empty {mark : Record → Option Mark} (bare : ∀ record, mark record = none) :
    Agrees waits ⟨mark, [], []⟩ excused where
  ids := List.nodup_nil
  records := List.nodup_nil
  waiting record waiting := by
    change (mark record).any waits = true at waiting
    rw [bare] at waiting
    cases waiting
  opened _ impossible := by cases impossible
  closed _ impossible := by cases impossible
  resulted _ impossible := by cases impossible

theorem weaken (agrees : Agrees waits ledger excused)
    (more : ∀ job ∈ ledger.jobs, job.isDone = false → excused job → Waits waits ledger job.record ∨ others job) :
    Agrees waits ledger others where
  ids := agrees.ids
  records := agrees.records
  waiting := agrees.waiting
  opened job member still := (agrees.opened job member still).elim .inl (more job member still)
  closed := agrees.closed
  resulted := agrees.resulted

theorem same_record {first second : Job Id Record} (agrees : Agrees waits ledger excused) (here : first ∈ ledger.jobs)
    (there : second ∈ ledger.jobs) (same : first.record = second.record) : first = second :=
  List.inj_on_of_nodup_map agrees.records here there same

theorem same_id {first second : Job Id Record} (agrees : Agrees waits ledger excused) (here : first ∈ ledger.jobs)
    (there : second ∈ ledger.jobs) (same : first.id = second.id) : first = second :=
  List.inj_on_of_nodup_map agrees.ids here there same

/-- A done job has its record bear the mark of a result. -/
theorem done_mark (agrees : Agrees waits ledger excused) (member : job ∈ ledger.jobs) (done : job.isDone = true) :
    ∃ mark, waits mark = false ∧ ledger.mark job.record = some mark := by
  obtain ⟨mark, known⟩ := agrees.closed job member done
  obtain ⟨final, other, present, same, _, marked⟩ := agrees.resulted _ known
  rw [agrees.same_id present member same] at marked
  exact ⟨mark, final, marked⟩

theorem done_of_result {result : Id × Mark} (agrees : Agrees waits ledger excused) (known : result ∈ ledger.results)
    (member : job ∈ ledger.jobs) (same : job.id = result.1) :
    job.isDone = true ∧ ledger.mark job.record = some result.2 := by
  obtain ⟨_, other, present, keyed, done, marked⟩ := agrees.resulted _ known
  rw [agrees.same_id present member (keyed.trans same.symm)] at done marked
  exact ⟨done, marked⟩

/-- A job is queued for a record that has none; until the record waits it is excused. -/
theorem queue (agrees : Agrees waits ledger excused) {id : Id} (freshId : ∀ job ∈ ledger.jobs, job.id ≠ id)
    (fresh : ∀ job ∈ ledger.jobs, job.record ≠ record) :
    Agrees waits { ledger with jobs := ledger.jobs ++ [⟨id, record, false⟩] }
      fun job => job.record = record ∨ excused job where
  ids := Table.unique_append agrees.ids freshId
  records := Table.unique_append agrees.records fresh
  waiting other waits := by
    obtain ⟨job, member, own, still⟩ := agrees.waiting other waits
    exact ⟨job, List.mem_append_left _ member, own, still⟩
  opened job member still := by
    rcases List.mem_append.mp member with old | new
    · exact (agrees.opened job old still).imp_right .inr
    · obtain rfl := List.mem_singleton.mp new
      exact .inr (.inl rfl)
  closed job member done := by
    rcases List.mem_append.mp member with old | new
    · exact agrees.closed job old done
    · obtain rfl := List.mem_singleton.mp new
      cases done
  resulted result known := by
    obtain ⟨final, job, member, rest⟩ := agrees.resulted result known
    exact ⟨final, job, List.mem_append_left _ member, rest⟩

section Writing
variable [DecidableEq Record]

/-- Results stay borne when no done job is for the record. -/
theorem resulted_marked (agrees : Agrees waits ledger excused)
    (unfinished : ∀ job ∈ ledger.jobs, job.record = record → job.isDone = false) :
    ∀ result ∈ ledger.results, waits result.2 = false ∧ ∃ job ∈ ledger.jobs,
      job.id = result.1 ∧ job.isDone = true ∧ (marked ledger record mark).mark job.record = some result.2 := by
  intro result known
  obtain ⟨final, job, member, own, done, borne⟩ := agrees.resulted result known
  have apart : job.record ≠ record := by
    intro same
    rw [unfinished job member same] at done
    cases done
  exact ⟨final, job, member, own, done, (marked_other apart).trans borne⟩

/-- A record that has an open job is made to wait. -/
theorem wait (agrees : Agrees waits ledger fun job => job.record = record ∨ excused job) (wait : waits mark = true)
    (member : job ∈ ledger.jobs) (own : job.record = record) (still : job.isDone = false) :
    Agrees waits (marked ledger record mark) excused where
  ids := agrees.ids
  records := agrees.records
  waiting other waiting := by
    by_cases same : other = record
    · exact ⟨job, member, own.trans same.symm, still⟩
    · exact agrees.waiting other ((waits_other same).mp waiting)
  opened other present unfinished := by
    by_cases same : other.record = record
    · rw [same]
      exact .inl (waits_self.mpr wait)
    · rcases agrees.opened other present unfinished with waiting | clash | excuse
      · exact .inl ((waits_other same).mpr waiting)
      · exact absurd clash same
      · exact .inr excuse
  closed := agrees.closed
  resulted := agrees.resulted_marked fun other present same => by
    rw [agrees.same_record present member (same.trans own.symm)]
    exact still

/-- A record that waits for nothing, and has no job done, is given a final mark. -/
theorem overwrite (agrees : Agrees waits ledger excused) (final : waits mark = false)
    (idle : ¬Waits waits ledger record) (unfinished : ∀ job ∈ ledger.jobs, job.record = record → job.isDone = false) :
    Agrees waits (marked ledger record mark) excused where
  ids := agrees.ids
  records := agrees.records
  waiting other waiting := by
    by_cases same : other = record
    · rw [same, waits_self, final] at waiting
      cases waiting
    · exact agrees.waiting other ((waits_other same).mp waiting)
  opened other present still := by
    rcases agrees.opened other present still with waiting | excuse
    · by_cases same : other.record = record
      · exact absurd (same ▸ waiting) idle
      · exact .inl ((waits_other same).mpr waiting)
    · exact .inr excuse
  closed := agrees.closed
  resulted := agrees.resulted_marked unfinished

/-- A waiting record is brought its final mark; its job is excused until it is closed. -/
theorem bring (agrees : Agrees waits ledger excused) (final : waits mark = false)
    (waiting : Waits waits ledger record) (member : job ∈ ledger.jobs) (own : job.record = record) :
    Agrees waits (marked ledger record mark) fun other => other.id = job.id ∨ excused other where
  ids := agrees.ids
  records := agrees.records
  waiting other waiting := by
    by_cases same : other = record
    · rw [same, waits_self, final] at waiting
      cases waiting
    · exact agrees.waiting other ((waits_other same).mp waiting)
  opened other present still := by
    by_cases same : other.record = record
    · rw [agrees.same_record present member (same.trans own.symm)]
      exact .inr (.inl rfl)
    · exact (agrees.opened other present still).imp (waits_other same).mpr .inr
  closed := agrees.closed
  resulted := agrees.resulted_marked fun other present same => by
    obtain ⟨opened, there, keyed, still⟩ := agrees.waiting record waiting
    rw [agrees.same_record present there (same.trans keyed.symm)]
    exact still

end Writing

section Closing
variable [DecidableEq Id]

/-- A job is closed whose record bears its mark already. -/
theorem close (agrees : Agrees waits ledger fun other => other.id = job.id ∨ excused other) (final : waits mark = false)
    (member : job ∈ ledger.jobs) (borne : ledger.mark job.record = some mark) :
    Agrees waits
      { ledger with jobs := (Deferred.close job.id).run ledger.jobs, results := ledger.results ++ [(job.id, mark)] }
      excused := by
  have kept (other : Job Id Record) (apart : other.id ≠ job.id) : (Deferred.close job.id).row other = other :=
    Table.Update.row_kept (by simpa [Deferred.close] using apart)
  have own (other : Job Id Record) (same : other.id = job.id) :
      (Deferred.close job.id).row other = { other with isDone := true } :=
    Table.Update.row_selected (by simpa [Deferred.close] using same)
  have keepsId (other : Job Id Record) : ((Deferred.close job.id).row other).id = other.id :=
    Table.Update.row_column _ Job.id (fun _ => rfl) other
  have keepsRecord (other : Job Id Record) : ((Deferred.close job.id).row other).record = other.record :=
    Table.Update.row_column _ Job.record (fun _ => rfl) other
  constructor
  · exact Table.unique_run (fun _ => rfl) agrees.ids
  · exact Table.unique_run (fun _ => rfl) agrees.records
  · intro record waiting
    obtain ⟨other, present, keyed, still⟩ := agrees.waiting record waiting
    have apart : other.id ≠ job.id := by
      intro same
      rw [← keyed, agrees.same_id present member same, Waits, borne, Option.any_some, final] at waiting
      cases waiting
    exact ⟨other, List.mem_map.mpr ⟨other, present, kept other apart⟩, keyed, still⟩
  · intro changed after still
    obtain ⟨other, present, rfl⟩ := List.mem_map.mp after
    by_cases same : other.id = job.id
    · rw [own other same] at still
      cases still
    · rw [kept other same] at still ⊢
      rcases agrees.opened other present still with waiting | clash | excuse
      · exact .inl waiting
      · exact absurd clash same
      · exact .inr excuse
  · intro changed after done
    obtain ⟨other, present, rfl⟩ := List.mem_map.mp after
    rw [keepsId]
    by_cases same : other.id = job.id
    · exact ⟨mark, List.mem_append_right _ (by rw [same]; exact List.mem_singleton_self _)⟩
    · rw [kept other same] at done
      obtain ⟨mark, known⟩ := agrees.closed other present done
      exact ⟨mark, List.mem_append_left _ known⟩
  · intro result known
    rcases List.mem_append.mp known with old | new
    · obtain ⟨settled, other, present, keyed, done, bears⟩ := agrees.resulted result old
      refine ⟨settled, _, List.mem_map_of_mem present, (keepsId other).trans keyed, ?_, ?_⟩
      · by_cases same : other.id = job.id
        · rw [own other same]
        · rw [kept other same]
          exact done
      · show ledger.mark ((Deferred.close job.id).row other).record = _
        rw [keepsRecord]
        exact bears
    · obtain rfl := List.mem_singleton.mp new
      refine ⟨final, _, List.mem_map_of_mem member, keepsId job, ?_, ?_⟩
      · rw [own job rfl]
      · show ledger.mark ((Deferred.close job.id).row job).record = _
        rw [keepsRecord]
        exact borne

end Closing
end Agrees
end ApexEdge.Library.Deferred
