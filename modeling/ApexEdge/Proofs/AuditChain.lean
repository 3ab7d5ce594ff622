import ApexEdge.Storage.AuditLog

/-! What the verifier can and cannot tell from the rows of the audit log. The rows that were
recorded are a chain of hashes, and a row that verifies under a key was hashed under that key. -/

namespace ApexEdge.Proofs.AuditChain
open Library Library.HashChain Payment Storage Storage.Audit

abbrev Chained := Linked AuditRow.prevHash AuditRow.hash

/-- The row is the one that the call appends at its place. -/
def Wrote (hmac : Hmac) (call : Recording) (row : AuditRow) : Prop := row = call.row hmac row.id row.prevHash

def committed (calls : List Recording) : List Recording := calls.filter (·.failure.isNone)

section Recording
variable {hmac : Hmac}

theorem digest_ne_empty (secret : List UInt8) (text : String) : hmac.digest secret text ≠ "" := by
  intro none
  have long := hmac.digest_length secret text
  simp [none] at long

theorem wrote_row (call : Recording) (id : Int) (prevHash : String) : Wrote hmac call (call.row hmac id prevHash) := rfl

theorem Wrote.hash_eq {call : Recording} {row : AuditRow} (wrote : Wrote hmac call row) :
    row.hash = row.recomputed hmac (currentKey call.slot).secret := by
  rw [wrote]
  rfl

theorem Wrote.hash_ne_empty {call : Recording} {row : AuditRow} (wrote : Wrote hmac call row) : row.hash ≠ "" :=
  wrote.hash_eq ▸ digest_ne_empty _ _

theorem Wrote.hubKeyId_eq {call : Recording} {row : AuditRow} (wrote : Wrote hmac call row) :
    row.hubKeyId = (currentKey call.slot).hubKeyId := by
  rw [wrote]
  rfl

theorem isLegacy_eq_false {row : AuditRow} (hashed : row.hash ≠ "") : row.isLegacy = false := by
  simp [AuditRow.isLegacy, hashed]

variable (hmac) in
/-- One call appends its row after the last one, or leaves the log alone. -/
theorem record_rows (log : AuditLog) (call : Recording) :
    ∃ appended, (record hmac log call).2.rows = log.rows ++ appended ∧ Chained (lastHash log.rows) appended ∧
      List.Forall₂ (Wrote hmac) (committed [call]) appended := by
  cases failed : call.failure with
  | some error => exact ⟨[], by simp [record, failed], trivial, by simp [committed, failed]⟩
  | none =>
    refine ⟨[call.row hmac (log.sequence + 1) (lastHash log.rows)], by simp [record, failed, AuditLog.append],
      ⟨rfl, trivial⟩, ?_⟩
    simpa [committed, failed] using wrote_row call (log.sequence + 1) (lastHash log.rows)

variable (hmac) in
/-- The rows that some calls append continue the chain, one row for each call that commits. -/
theorem recordAll_rows (log : AuditLog) (calls : List Recording) :
    ∃ appended, (recordAll hmac log calls).rows = log.rows ++ appended ∧ Chained (lastHash log.rows) appended ∧
      List.Forall₂ (Wrote hmac) (committed calls) appended := by
  induction calls generalizing log with
  | nil => exact ⟨[], by simp [recordAll], trivial, .nil⟩
  | cons call calls ih =>
    obtain ⟨first, became, linked, wrote⟩ := record_rows hmac log call
    obtain ⟨rest, ends, continued, wrote_rest⟩ := ih (record hmac log call).2
    refine ⟨first ++ rest, ?_, ?_, ?_⟩
    · rw [recordAll, List.foldl_cons, ← List.append_assoc, ← became]
      exact ends
    · refine (linked_append _ _ _ _ _).mpr ⟨linked, ?_⟩
      rwa [became, lastHash, tip_append] at continued
    · have split : committed (call :: calls) = committed [call] ++ committed calls :=
        List.filter_append [call] calls
      exact split ▸ List.rel_append wrote wrote_rest

end Recording

/-! ### The untouched log -/

section Untouched
variable {hmac : Hmac} {key : AuditKey}

theorem verify_legacy {legacy : List AuditRow} (old : ∀ row ∈ legacy, row.isLegacy = true) (checked : Nat)
    (expectedPrev : String) (rows : List AuditRow) :
    verifyRows hmac key checked expectedPrev (legacy ++ rows) = verifyRows hmac key checked expectedPrev rows := by
  induction legacy with
  | nil => rfl
  | cons row legacy ih =>
    rw [List.cons_append, verifyRows, if_pos (old row List.mem_cons_self)]
    exact ih fun other member => old other (List.mem_cons_of_mem _ member)

theorem lastHash_legacy {legacy : List AuditRow} (old : ∀ row ∈ legacy, row.isLegacy = true) : lastHash legacy = "" := by
  rw [lastHash, tip]
  cases last : legacy.getLast? with
  | none => rfl
  | some row =>
    have empty := old row (List.mem_of_getLast? last)
    simp only [AuditRow.isLegacy, decide_eq_true_eq] at empty
    exact empty.1

/-- Rows that calls wrote in a chain pass: under the key they are hashed again with the same
result, under another key they are let through. -/
theorem verify_written {calls : List Recording} {rows : List AuditRow} (wrote : List.Forall₂ (Wrote hmac) calls rows)
    (same : ∀ call ∈ calls, (currentKey call.slot).hubKeyId = key.hubKeyId → currentKey call.slot = key)
    {expectedPrev : String} (linked : Chained expectedPrev rows) (checked : Nat) :
    verifyRows hmac key checked expectedPrev rows = ⟨true, checked + rows.length, none, none⟩ := by
  induction wrote generalizing expectedPrev checked with
  | nil => rfl
  | @cons call row calls rows written _ ih =>
    have rest := ih (fun other member => same other (List.mem_cons_of_mem _ member)) linked.2 (checked + 1)
    have count : checked + 1 + rows.length = checked + (row :: rows).length := by
      rw [List.length_cons]
      omega
    rw [count] at rest
    rw [verifyRows, isLegacy_eq_false written.hash_ne_empty, if_neg (by simp), if_neg (not_not.mpr linked.1)]
    by_cases mine : row.hubKeyId = key.hubKeyId
    · have signed := same call List.mem_cons_self (written.hubKeyId_eq ▸ mine)
      have again : row.recomputed hmac key.secret = row.hash := signed ▸ written.hash_eq.symm
      rw [if_neg (not_not.mpr mine), if_neg (not_not.mpr again), rest]
    · rw [if_pos mine, rest]

end Untouched

/-! ### A day under two keys -/

/-- The digests of HMAC-SHA256 for the texts of the day, with the secrets they were made with. -/
def dayDigests : List ((List UInt8 × String) × String) :=
  [((firstSecret, "|shift_opened||float 100|2026-01-05T08:00:00+00:00|store-7"), opened),
   ((firstSecret, opened ++ "|shift_closed||counted 140|2026-01-05T20:00:00+00:00|store-7"),
    "c2ea74c6e585cc604b643fd7f4a27b858e51caf736ac2610e4b2d966f942790b"),
   ((secondSecret, opened ++ "|shift_closed||counted 140|2026-01-05T20:00:00+00:00|store-8"),
    "f4e176caa6bf9da91a796ddabb3f0febd412757cb4d11b7a86d3dcc38a261d59"),
   ((firstSecret, "|shift_opened||float 50|2026-01-05T08:00:00+00:00|store-7"),
    "3264551c6be3b5ad4260ecd723213bf54be13363b81bea6bf5122de4dfc91f32"),
   ((firstSecret, "|shift_opened||float 50|2026-01-05T08:00:00+00:00|store-8"),
    "e23219ee2d8d1bc5e3bceebc98da7abc6ce43b4cd80ccf62ba3440a126c2cd04"),
   ((firstSecret, "|shift_closed||counted 90|2026-01-05T20:00:00+00:00|"),
    "e7cb6cdb6e9aebc7c5eec3cd303f640b3c90759aa2c204d7ba7d34517073c03e")]
where
  firstSecret := "first".toUTF8.data.toList
  secondSecret := "second".toUTF8.data.toList
  opened := "199c6d3054cbe3d572fbea1b5aa66e46b3e436c0b103d35e62ddef0b25a1e602"

theorem dayDigests_hex : ∀ entry ∈ dayDigests,
    entry.2.length = 64 ∧ ∀ digit ∈ entry.2.toList, digit ∈ "0123456789abcdef".toList := by
  have checked : (dayDigests.all fun entry =>
      entry.2.length = 64 && entry.2.toList.all ("0123456789abcdef".toList.contains ·)) = true := by decide +kernel
  intro entry member
  simpa using List.all_eq_true.mp checked entry member

/-- The digests of the day; no other text is hashed on it. -/
def dayHmac : Hmac where
  digest secret text := ((dayDigests.find? (·.1 = (secret, text))).map (·.2)).getD (String.ofList (.replicate 64 '0'))
  digest_length secret text := by
    cases found : dayDigests.find? (·.1 = (secret, text)) with
    | none => rw [Option.map_none, Option.getD_none, String.length_ofList, List.length_replicate]
    | some entry => exact (dayDigests_hex entry (List.mem_of_find?_eq_some found)).1
  digest_hex secret text := by
    cases found : dayDigests.find? (·.1 = (secret, text)) with
    | none =>
      intro digit member
      have zero : digit = '0' := by simpa using member
      exact zero ▸ by decide
    | some entry => exact (dayDigests_hex entry (List.mem_of_find?_eq_some found)).2

def firstKey : AuditKey := ⟨"store-7", "first".toUTF8.data.toList⟩
def secondKey : AuditKey := ⟨"store-8", "second".toUTF8.data.toList⟩

def opening (key : AuditKey) : Recording :=
  ⟨some key, "shift_opened", none, "float 100", "2026-01-05T08:00:00+00:00", none⟩

def closing (key : AuditKey) : Recording :=
  ⟨some key, "shift_closed", none, "counted 140", "2026-01-05T20:00:00+00:00", none⟩

/-- A log with one row from before the chain. -/
def oldLog : AuditLog where
  rows := [⟨1, "order_finalized", none, none, "2025-12-30T12:00:00+00:00", "", "", ""⟩]
  sequence := 1
  ordered := List.pairwise_singleton _ _
  numbered := by simp

/-- Whatever calls follow whatever legacy rows, the log verifies under every key that agrees
with theirs, and each row that a call appended is counted. -/
theorem untouched_log_verifies (hmac : Hmac) (slot : Option AuditKey) (legacy : AuditLog)
    (old : ∀ row ∈ legacy.rows, row.isLegacy = true) (calls : List Recording)
    (distinct : ∀ call ∈ calls, (currentKey call.slot).hubKeyId = (currentKey slot).hubKeyId →
      currentKey call.slot = currentKey slot) :
    verifyChain hmac slot (recordAll hmac legacy calls) = ⟨true, (committed calls).length, none, none⟩ := by
  obtain ⟨appended, became, linked, wrote⟩ := recordAll_rows hmac legacy calls
  rw [lastHash_legacy old] at linked
  rw [verifyChain, became, verify_legacy old, wrote.length_eq, ← Nat.zero_add appended.length]
  exact verify_written wrote (fun call member => distinct call (List.mem_filter.mp member).1) linked 0

theorem rotated_day_verifies :
    verifyChain dayHmac (some secondKey) (recordAll dayHmac oldLog [opening firstKey, closing secondKey]) =
      ⟨true, 2, none, none⟩ :=
  untouched_log_verifies dayHmac (some secondKey) oldLog (by decide) [opening firstKey, closing secondKey]
    (by decide +kernel)

/-- The row of the first key is counted under the second. -/
theorem rotated_row_counted :
    ((verifyChain dayHmac (some secondKey) (recordAll dayHmac oldLog [opening firstKey, closing secondKey])).checked,
      ([opening firstKey, closing secondKey].filter fun call => currentKey call.slot = secondKey).length) = (2, 1) := by
  decide +kernel

end ApexEdge.Proofs.AuditChain

/-! Tampering with the audit log. A row that verifies under a key repeats a recorded text, and
the recorded hashes are all different, so rows that verify are the beginning of what was
recorded. -/

namespace ApexEdge.Proofs.AuditTampering
open Library Library.HashChain Payment Storage Storage.Audit
open Proofs.AuditChain

/-! ### The covered text -/

def AuditRow.fields (row : AuditRow) : List String :=
  [row.prevHash, row.eventType, row.entityId.getD "", row.payload.getD "", row.createdAt, row.hubKeyId]

def AuditRow.text (row : AuditRow) : String :=
  hashedText row.prevHash row.eventType row.entityId (row.payload.getD "") row.createdAt row.hubKeyId

def Clear (field : String) : Prop := '|' ∉ field.toList

/-- No field contains the separator. -/
def Plain (row : AuditRow) : Prop := ∀ field ∈ AuditRow.fields row, Clear field

section Covered
variable {hmac : Hmac}

theorem text_eq (row : AuditRow) :
    (AuditRow.text row).toList = ['|'].intercalate ((AuditRow.fields row).map String.toList) := by
  simp [AuditRow.text, hashedText, AuditRow.fields, List.intercalate]

/-- The text begins with the hash of the row before. -/
theorem text_starts {row : AuditRow} (clear : Clear row.prevHash) :
    (AuditRow.text row).toList.takeWhile (· ≠ '|') = row.prevHash.toList := by
  have stays : ∀ letter ∈ row.prevHash.toList, decide (letter ≠ '|') = true := by
    intro letter member
    rw [decide_eq_true_eq]
    rintro rfl
    exact clear member
  simp only [AuditRow.text, hashedText, String.toList_append, List.append_assoc]
  rw [List.takeWhile_append_of_pos stays]
  simp

theorem digest_clear (secret : List UInt8) (text : String) : Clear (hmac.digest secret text) := fun separated =>
  absurd (hmac.digest_hex secret text _ separated) (by decide)

theorem empty_clear : Clear "" := by simp [Clear]

theorem prevHash_of_text {row copy : AuditRow} (same : AuditRow.text row = AuditRow.text copy)
    (clear : Clear row.prevHash) (clear_copy : Clear copy.prevHash) : row.prevHash = copy.prevHash := by
  rw [← String.toList_inj, ← text_starts clear, ← text_starts clear_copy, same]

theorem count_text (row : AuditRow) :
    (AuditRow.text row).toList.count '|' = 5 + ((AuditRow.fields row).map fun field => field.toList.count '|').sum := by
  simp [AuditRow.text, hashedText, AuditRow.fields, List.count_append]
  omega

theorem plain_iff (row : AuditRow) : Plain row ↔ (AuditRow.text row).toList.count '|' = 5 := by
  rw [count_text]
  simp [Plain, Clear, AuditRow.fields, List.count_eq_zero]

/-- Without a separator in a field, the text fixes every field. -/
theorem fields_of_text {row copy : AuditRow} (plain : Plain row) (same : AuditRow.text row = AuditRow.text copy) :
    AuditRow.fields row = AuditRow.fields copy := by
  have plain_copy : Plain copy := (plain_iff copy).mpr (same ▸ (plain_iff row).mp plain)
  have parts {row : AuditRow} (plain : Plain row) :
      (AuditRow.text row).toList.splitOn '|' = (AuditRow.fields row).map String.toList := by
    rw [text_eq]
    refine List.splitOn_intercalate _ ?_ (by simp [AuditRow.fields])
    intro chars member
    obtain ⟨field, there, rfl⟩ := List.mem_map.mp member
    exact plain field there
  have equal : (AuditRow.fields row).map String.toList = (AuditRow.fields copy).map String.toList := by
    rw [← parts plain, ← parts plain_copy, same]
  exact List.map_injective_iff.mpr (fun _ _ => String.toList_inj.mp) equal

end Covered

/-! ### Tampering -/

/-- Different texts among the recorded ones have different hashes. -/
def CollisionFree (recorded : List AuditRow) : Prop :=
  ∀ first ∈ recorded, ∀ second ∈ recorded, first.hash = second.hash → AuditRow.text first = AuditRow.text second

/-- Whoever writes rows without the key has no hash under it but the recorded ones. -/
def Unforged (hmac : Hmac) (key : AuditKey) (recorded rows : List AuditRow) : Prop :=
  ∀ row ∈ rows, row.recomputed hmac key.secret = row.hash →
    ∃ original ∈ recorded, AuditRow.text original = AuditRow.text row ∧ original.hash = row.hash

/-- The verifier hashes the row again: it carries the key's id, and is not shaped like a row
from before the chain. -/
def Checked (key : AuditKey) (row : AuditRow) : Prop := row.isLegacy = false ∧ row.hubKeyId = key.hubKeyId

structure Copies (row copy : AuditRow) : Prop where
  hash : row.hash = copy.hash
  prevHash : row.prevHash = copy.prevHash
  text : AuditRow.text row = AuditRow.text copy
  fields : Plain row → AuditRow.fields row = AuditRow.fields copy

/-- A row without its place in the table. -/
def contents (row : AuditRow) : AuditRow := { row with id := 0 }

/-- A change that the hash covers. -/
def Altered (row altered : AuditRow) : Prop :=
  row.hash ≠ altered.hash ∨ AuditRow.text row ≠ AuditRow.text altered ∨
    (Plain row ∧ AuditRow.fields row ≠ AuditRow.fields altered)

/-- The four ways to tamper with a log whose rows are still read under the key. -/
inductive Tampering (key : AuditKey) : List AuditRow → List AuditRow → Prop
  | change (before : List AuditRow) (row altered : AuditRow) (after : List AuditRow)
      (differs : Altered row altered) (checked : Checked key altered) :
      Tampering key (before ++ row :: after) (before ++ altered :: after)
  | removal (before : List AuditRow) (row : AuditRow) (after : List AuditRow) (inner : after ≠ []) :
      Tampering key (before ++ row :: after) (before ++ after)
  | insertion (before : List AuditRow) (row : AuditRow) (after : List AuditRow) (checked : Checked key row) :
      Tampering key (before ++ after) (before ++ row :: after)
  | reordering (rows moved : List AuditRow) (same : rows.Perm moved) (differs : rows ≠ moved) :
      Tampering key rows moved

section Tampering
variable {hmac : Hmac} {key : AuditKey} {recorded rows : List AuditRow}

/-- What is known of rows that were recorded on an empty table. -/
structure Recorded (hmac : Hmac) (rows : List AuditRow) : Prop where
  chained : Chained "" rows
  written : ∀ row ∈ rows, ∃ call, Wrote hmac call row

theorem recordAll_recorded (calls : List Recording) : Recorded hmac (recordAll hmac .empty calls).rows := by
  obtain ⟨appended, became, linked, wrote⟩ := recordAll_rows hmac .empty calls
  rw [became]
  refine ⟨linked, fun row member => ?_⟩
  obtain ⟨position, present, rfl⟩ := List.getElem_of_mem member
  have place : position < (committed calls).length := wrote.length_eq ▸ present
  exact ⟨(committed calls)[position], List.forall₂_iff_get.mp wrote |>.2 position place present⟩

theorem Recorded.hash_clear (known : Recorded hmac recorded) {row : AuditRow} (member : row ∈ recorded) :
    Clear row.hash := by
  obtain ⟨call, wrote⟩ := known.written row member
  exact wrote.hash_eq ▸ digest_clear _ _

theorem Recorded.hash_ne_empty (known : Recorded hmac recorded) {row : AuditRow} (member : row ∈ recorded) :
    row.hash ≠ "" :=
  (known.written row member).elim fun _ wrote => wrote.hash_ne_empty

/-- Each row of a chain repeats a hash of the chain, or the start. -/
theorem chained_clear {start : String} (linked : Chained start rows) (clear : Clear start)
    (hashes : ∀ row ∈ rows, Clear row.hash) : ∀ row ∈ rows, Clear row.prevHash := by
  induction rows generalizing start with
  | nil => simp
  | cons first rows ih =>
    intro row member
    rcases List.mem_cons.mp member with rfl | later
    · exact linked.1 ▸ clear
    · exact ih linked.2 (hashes first List.mem_cons_self)
        (fun other member => hashes other (List.mem_cons_of_mem _ member)) row later

/-- The recorded hashes are all different: a hash fixes the text, which begins with the hash
of the row before. -/
theorem Recorded.marks_nodup (known : Recorded hmac recorded) (distinct : CollisionFree recorded) :
    (marks AuditRow.hash "" recorded).Nodup := by
  have clear := chained_clear known.chained empty_clear fun _ member => known.hash_clear member
  exact known.chained.marks_nodup (fun _ member => known.hash_ne_empty member) fun first one second two same =>
    prevHash_of_text (distinct first one second two same) (clear first one) (clear second two)

theorem verified_linked {checked : Nat} {expectedPrev : String} (hashed : ∀ row ∈ rows, row.isLegacy = false)
    (verified : (verifyRows hmac key checked expectedPrev rows).ok = true) :
    Chained expectedPrev rows ∧
      ∀ row ∈ rows, row.hubKeyId = key.hubKeyId → row.recomputed hmac key.secret = row.hash := by
  induction rows generalizing checked expectedPrev with
  | nil => exact ⟨trivial, by simp⟩
  | cons row rows ih =>
    have later : ∀ other ∈ rows, other.isLegacy = false := fun other member => hashed other (List.mem_cons_of_mem _ member)
    rw [verifyRows, hashed row List.mem_cons_self, if_neg (by simp)] at verified
    by_cases follows : row.prevHash = expectedPrev
    · rw [if_neg (not_not.mpr follows)] at verified
      by_cases mine : row.hubKeyId = key.hubKeyId
      · rw [if_neg (not_not.mpr mine)] at verified
        by_cases again : row.recomputed hmac key.secret = row.hash
        · rw [if_neg (not_not.mpr again)] at verified
          obtain ⟨linked, rest⟩ := ih later verified
          exact ⟨⟨follows, linked⟩, List.forall_mem_cons.mpr ⟨fun _ => again, rest⟩⟩
        · rw [if_pos again] at verified
          exact absurd verified Bool.false_ne_true
      · rw [if_pos mine] at verified
        obtain ⟨linked, rest⟩ := ih later verified
        exact ⟨⟨follows, linked⟩, List.forall_mem_cons.mpr ⟨fun same => absurd same mine, rest⟩⟩
    · rw [if_pos follows] at verified
      exact absurd verified Bool.false_ne_true

theorem original_of_contents {row : AuditRow} (member : contents row ∈ recorded.map contents) :
    ∃ original ∈ recorded, AuditRow.text original = AuditRow.text row ∧ original.hash = row.hash := by
  obtain ⟨original, there, same⟩ := List.mem_map.mp member
  have text : AuditRow.text (contents original) = AuditRow.text (contents row) := by rw [same]
  have hash : (contents original).hash = (contents row).hash := by rw [same]
  exact ⟨original, there, text, hash⟩

/-- Rows that are untouched or read under the key, in whatever number and order, verify only
when they are the first rows of the recorded log. -/
theorem verified_is_a_beginning (known : Recorded hmac recorded) (distinct : CollisionFree recorded)
    (unforged : Unforged hmac key recorded rows)
    (touched : ∀ row ∈ rows, contents row ∈ recorded.map contents ∨ Checked key row)
    (verified : (verifyRows hmac key 0 "" rows).ok = true) :
    ∃ kept, kept <+: recorded ∧ List.Forall₂ Copies kept rows := by
  have hashed : ∀ row ∈ rows, row.isLegacy = false := by
    intro row member
    rcases touched row member with untouched | checked
    · obtain ⟨original, there, -, same⟩ := original_of_contents untouched
      exact isLegacy_eq_false (same ▸ known.hash_ne_empty there)
    · exact checked.1
  obtain ⟨linked, again⟩ := verified_linked hashed verified
  have originals : ∀ row ∈ rows, ∃ original ∈ recorded,
      AuditRow.text original = AuditRow.text row ∧ original.hash = row.hash := by
    intro row member
    rcases touched row member with untouched | checked
    · exact original_of_contents untouched
    · exact unforged row member (again row member checked.2)
  have clear := chained_clear known.chained empty_clear fun _ member => known.hash_clear member
  have clear_rows : ∀ row ∈ rows, Clear row.prevHash := chained_clear linked empty_clear fun row member => by
    obtain ⟨original, there, -, same⟩ := originals row member
    exact same ▸ known.hash_clear there
  have copied : ∀ row ∈ rows, ∃ original ∈ [] ++ recorded, Copies original row := by
    intro row member
    obtain ⟨original, there, text, hash⟩ := originals row member
    exact ⟨original, there, hash, prevHash_of_text text (clear original there) (clear_rows row member), text,
      fun plain => fields_of_text plain text⟩
  have chained : Chained "" ([] ++ recorded) := known.chained
  exact chained.copies_follow (known.marks_nodup distinct) (fun _ _ copies => ⟨copies.prevHash, copies.hash⟩) linked
    copied

theorem copies_hashes {kept : List AuditRow} (copies : List.Forall₂ Copies kept rows) :
    kept.map AuditRow.hash = rows.map AuditRow.hash := by
  induction copies with
  | nil => rfl
  | cons copy _ ih => rw [List.map_cons, List.map_cons, copy.hash, ih]

/-- Tampering leaves no beginning of the recorded rows. -/
theorem Tampering.not_beginning (tampers : Tampering key recorded rows) (unique : (recorded.map AuditRow.hash).Nodup)
    {kept : List AuditRow} (first : kept <+: recorded) : ¬ List.Forall₂ Copies kept rows := by
  intro copies
  have same_length := copies.length_eq
  cases tampers with
  | change before row altered after differs checked =>
    obtain rfl := first.eq_of_length (by simpa using same_length)
    have copy : Copies row altered := by
      have matched := (List.forall₂_iff_get.mp copies).2 before.length (by simp) (by simp)
      simpa using matched
    rcases differs with hash | text | ⟨plain, fields⟩
    · exact hash copy.hash
    · exact text copy.text
    · exact fields (copy.fields plain)
  | removal before row after inner =>
    obtain ⟨next, rest, rfl⟩ := List.exists_cons_of_ne_nil inner
    have hashes := first.map AuditRow.hash
    rw [copies_hashes copies, List.map_append, List.map_append, List.prefix_append_right_inj, List.map_cons,
      List.map_cons, List.cons_prefix_cons] at hashes
    simp only [List.map_append, List.map_cons, List.nodup_append, List.nodup_cons, List.mem_cons] at unique
    exact unique.2.1.1 (.inl hashes.1.symm)
  | insertion before row after checked =>
    have short := first.length_le
    simp only [List.length_append, List.length_cons] at same_length short
    omega
  | reordering recorded rows same differs =>
    obtain rfl := first.eq_of_length (same_length.trans same.length_eq.symm)
    refine differs (List.ext_getElem same_length fun position there here => ?_)
    have copy := (List.forall₂_iff_get.mp copies).2 position there here
    exact List.inj_on_of_nodup_map unique (List.getElem_mem there) (same.mem_iff.mpr (List.getElem_mem here)) copy.hash

theorem Tampering.touched (tampers : Tampering key recorded rows) : ∀ row ∈ rows, row ∈ recorded ∨ Checked key row := by
  intro row member
  cases tampers with
  | change before original altered after differs checked =>
    rcases List.mem_append.mp member with early | late
    · exact .inl (List.mem_append_left _ early)
    · rcases List.mem_cons.mp late with rfl | later
      · exact .inr checked
      · exact .inl (List.mem_append_right _ (List.mem_cons_of_mem _ later))
  | removal before original after inner =>
    rcases List.mem_append.mp member with early | late
    · exact .inl (List.mem_append_left _ early)
    · exact .inl (List.mem_append_right _ (List.mem_cons_of_mem _ late))
  | insertion before inserted after checked =>
    rcases List.mem_append.mp member with early | late
    · exact .inl (List.mem_append_left _ early)
    · rcases List.mem_cons.mp late with rfl | later
      · exact .inr checked
      · exact .inl (List.mem_append_right _ later)
  | reordering _ _ same _ => exact .inl (same.mem_iff.mpr member)

theorem Copies.contents {row copy : AuditRow} (copies : Copies row copy) :
    Copies (AuditTampering.contents row) (AuditTampering.contents copy) :=
  ⟨copies.hash, copies.prevHash, copies.text, copies.fields⟩

end Tampering

/-! ### A day that was tampered with -/

instance (recorded : List AuditRow) : Decidable (CollisionFree recorded) :=
  inferInstanceAs (Decidable (∀ first ∈ recorded, ∀ second ∈ recorded, _ → _))

instance (hmac : Hmac) (key : AuditKey) (recorded rows : List AuditRow) : Decidable (Unforged hmac key recorded rows) :=
  inferInstanceAs (Decidable (∀ row ∈ rows, _ → ∃ original ∈ recorded, _ ∧ _))

/-- An update statement on the table; ids stay. -/
def update (edit : AuditRow → AuditRow) (keeps : ∀ row, (edit row).id = row.id) (log : AuditLog) : AuditLog where
  rows := log.rows.map edit
  sequence := log.sequence
  ordered := List.pairwise_map.mpr (by simpa only [keeps] using log.ordered)
  numbered := List.forall_mem_map.mpr (by simpa only [keeps] using log.numbered)

/-- Write other contents into one row. -/
def edit (id : Int) (set : AuditRow → AuditRow) (row : AuditRow) : AuditRow :=
  if row.id = id then { set row with id } else row

theorem edit_id (id : Int) (set : AuditRow → AuditRow) (row : AuditRow) : (edit id set row).id = row.id := by
  rw [edit]
  split
  · exact Eq.symm ‹_›
  · rfl

def day : List Recording := [opening firstKey, closing firstKey]

def dayLog : AuditLog := recordAll dayHmac .empty day

/-- Another float. -/
def reopened (row : AuditRow) : AuditRow := { row with payload := some "float 50" }

/-- Another float, under the id of another key. -/
def rekeyed (row : AuditRow) : AuditRow := { reopened row with hubKeyId := "store-8" }

/-- Another count, in the shape of a row from before the chain. -/
def blanked (row : AuditRow) : AuditRow :=
  { row with payload := some "counted 90", prevHash := "", hash := "", hubKeyId := "" }

end ApexEdge.Proofs.AuditTampering
