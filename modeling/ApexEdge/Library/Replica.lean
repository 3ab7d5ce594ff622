import ApexEdge.Library.Table
import Mathlib.Data.List.Induction
import Mathlib.Data.Multiset.AddSub

/-! Copies of a keyed source that are kept up to date by announcements. An announcer reads
entries of the source and publishes them later, and every copy is patched with what is
published. A copy agrees with the source, but for keys that an announcer still covers. -/

namespace ApexEdge.Library.Replica

abbrev Entries (Key Value : Type) := List (Key × Value)

variable {Key Value : Type} [DecidableEq Key]

/-- What is under a key. -/
def valueOf (entries : Entries Key Value) (key : Key) : Option Value :=
  (entries.find? (·.1 = key)).map Prod.snd

def put (entries : Entries Key Value) (entry : Key × Value) : Entries Key Value :=
  Table.upsert (·.1 = entry.1) (fun _ => entry) entry entries

def remove (entries : Entries Key Value) (key : Key) : Entries Key Value := entries.filter (·.1 ≠ key)

/-- Later entries replace earlier ones. -/
def patch (view entries : Entries Key Value) : Entries Key Value := entries.foldl put view

section Entries
variable {view entries : Entries Key Value} {key : Key} {value : Value}

theorem valueOf_put (entry : Key × Value) :
    valueOf (put entries entry) key = if key = entry.1 then some entry.2 else valueOf entries key := by
  rw [valueOf, put, Table.find?_upsert Prod.fst _ entry (fun _ _ => rfl)]
  split
  · cases entries.find? (·.1 = entry.1) <;> rfl
  · rfl

theorem valueOf_remove (removed : Key) :
    valueOf (remove entries removed) key = if key = removed then none else valueOf entries key := by
  unfold valueOf remove
  induction entries with
  | nil => simp
  | cons entry entries ih =>
    by_cases gone : entry.1 = removed
    · rw [List.filter_cons_of_neg (by simpa using gone), ih]
      split
      · rfl
      · rename_i other
        rw [List.find?_cons_of_neg (by simpa [gone] using fun same => other same.symm)]
    · rw [List.filter_cons_of_pos (by simpa using gone)]
      by_cases own : entry.1 = key
      · rw [List.find?_cons_of_pos (by simpa using own), List.find?_cons_of_pos (by simpa using own),
          if_neg (own ▸ gone)]
      · rw [List.find?_cons_of_neg (by simpa using own), List.find?_cons_of_neg (by simpa using own), ih]

@[simp] theorem patch_nil : patch view [] = view := rfl

theorem patch_append (later : Entries Key Value) : patch view (entries ++ later) = patch (patch view entries) later :=
  List.foldl_append

/-- What the entries say of a key, or else what the copy had. -/
theorem valueOf_patch : valueOf (patch view entries) key = (valueOf (patch [] entries) key).or (valueOf view key) := by
  induction entries using List.reverseRecOn with
  | nil => rfl
  | append_singleton entries entry ih =>
    have one (before : Entries Key Value) : patch before (entries ++ [entry]) = put (patch before entries) entry :=
      List.foldl_append
    rw [one, one, valueOf_put, valueOf_put]
    split
    · rfl
    · exact ih

theorem valueOf_patch_some (said : valueOf (patch [] entries) key = some value) :
    valueOf (patch view entries) key = some value := by
  rw [valueOf_patch, said, Option.some_or]

theorem valueOf_patch_none (silent : valueOf (patch [] entries) key = none) :
    valueOf (patch view entries) key = valueOf view key := by
  rw [valueOf_patch, silent, Option.none_or]

theorem mem_of_valueOf_patch (said : valueOf (patch [] entries) key = some value) : (key, value) ∈ entries := by
  induction entries using List.reverseRecOn with
  | nil => cases said
  | append_singleton entries entry ih =>
    have last : patch [] (entries ++ [entry]) = put (patch [] entries) entry := List.foldl_append
    rw [last, valueOf_put] at said
    split at said
    · rename_i same
      obtain rfl := Option.some.inj said
      exact List.mem_append_right _ (List.mem_singleton.mpr (Prod.ext same rfl))
    · exact List.mem_append_left _ (ih said)

theorem valueOf_patch_told (told : key ∈ entries.map Prod.fst) : valueOf (patch [] entries) key ≠ none := by
  induction entries using List.reverseRecOn with
  | nil => cases told
  | append_singleton entries entry ih =>
    have last : patch [] (entries ++ [entry]) = put (patch [] entries) entry := List.foldl_append
    rw [last, valueOf_put]
    split
    · exact Option.some_ne_none _
    · rename_i other
      rw [List.map_append, List.mem_append] at told
      exact ih (told.resolve_right fun own => other (List.mem_singleton.mp own))

end Entries

/-- What one announcer has ahead of it: keys to read, and entries to publish. -/
structure Announcer (Key Value : Type) where
  due : List Key
  read : Entries Key Value
  deriving DecidableEq

namespace Announcer

def idle : Announcer Key Value := ⟨[], []⟩

/-- The key is still to be read, or what was read is what the source has. -/
def Covers (announcer : Announcer Key Value) (source : Key → Option Value) (key : Key) : Prop :=
  key ∈ announcer.due ∨ (valueOf (patch [] announcer.read) key ≠ none ∧
    valueOf (patch [] announcer.read) key = source key)

instance [DecidableEq Value] (announcer : Announcer Key Value) (source : Key → Option Value) (key : Key) :
    Decidable (announcer.Covers source key) :=
  inferInstanceAs (Decidable (_ ∨ _))

theorem idle_covers {source : Key → Option Value} {key : Key} :
    ¬(idle : Announcer Key Value).Covers source key := by
  rintro (due | ⟨said, _⟩)
  · cases due
  · exact said rfl

theorem Covers.congr {announcer : Announcer Key Value} {source later : Key → Option Value} {key : Key}
    (covers : announcer.Covers source key) (same : later key = source key) : announcer.Covers later key :=
  covers.imp_right fun ⟨said, current⟩ => ⟨said, current.trans same.symm⟩

end Announcer

def Covered (announcers : Multiset (Announcer Key Value)) (source : Key → Option Value) (key : Key) : Prop :=
  ∃ announcer ∈ announcers, announcer.Covers source key

instance [DecidableEq Value] (announcers : Multiset (Announcer Key Value)) (source : Key → Option Value) (key : Key) :
    Decidable (Covered announcers source key) :=
  Multiset.decidableExistsMultiset

section Covered
variable {announcers : Multiset (Announcer Key Value)} {announcer : Announcer Key Value}
  {source later : Key → Option Value} {key : Key}

theorem covered_cons : Covered (announcer ::ₘ announcers) source key ↔
    announcer.Covers source key ∨ Covered announcers source key := by
  simp only [Covered, Multiset.mem_cons, exists_eq_or_imp]

theorem Covered.congr (covered : Covered announcers source key) (same : later key = source key) :
    Covered announcers later key := by
  obtain ⟨announcer, member, covers⟩ := covered
  exact ⟨announcer, member, covers.congr same⟩

end Covered

/-- For the keys that are wanted the copy has what the source has, or an announcer will see
to it. No copy is ahead of the source. -/
structure Tracks (wanted : Key → Prop) (view : Entries Key Value) (source : Key → Option Value)
    (announcers : Multiset (Announcer Key Value)) : Prop where
  agrees : ∀ key, wanted key → valueOf view key = source key ∨ Covered announcers source key
  known : ∀ key, source key = none → valueOf view key = none

namespace Tracks
variable {wanted : Key → Prop} {view : Entries Key Value} {source later : Key → Option Value}
  {announcers : Multiset (Announcer Key Value)} {before after : Announcer Key Value}

/-- Nothing is lost with an announcer that covers nothing on its own. -/
theorem dismiss (tracks : Tracks wanted view source (before ::ₘ announcers))
    (spare : ∀ key, before.Covers source key → Covered announcers source key) :
    Tracks wanted view source announcers where
  agrees key wants := (tracks.agrees key wants).imp_right fun covered =>
    (covered_cons.mp covered).elim (spare key) id
  known := tracks.known

/-- An announcer is replaced by one that covers as much. -/
theorem hand_over (tracks : Tracks wanted view source (before ::ₘ announcers))
    (covers : ∀ key, before.Covers source key → after.Covers source key) :
    Tracks wanted view source (after ::ₘ announcers) where
  agrees key wants := (tracks.agrees key wants).imp_right fun covered =>
    covered_cons.mpr ((covered_cons.mp covered).imp_left (covers key))
  known := tracks.known

theorem subscribe (tracks : Tracks wanted view source announcers) :
    Tracks wanted view source (after ::ₘ announcers) where
  agrees key wants := (tracks.agrees key wants).imp_right fun covered => covered_cons.mpr (.inr covered)
  known := tracks.known

/-- The source changes while an announcer takes a step: what has changed, and what the
announcer was to see to, is covered afterwards. Keys do not go away. -/
theorem change (tracks : Tracks wanted view source (before ::ₘ announcers))
    (stays : ∀ key, later key = none → source key = none)
    (covers : ∀ key, later key ≠ source key ∨ before.Covers source key →
      Covered (after ::ₘ announcers) later key ∨ later key = none) :
    Tracks wanted view later (after ::ₘ announcers) where
  agrees key wants := by
    by_cases covered : later key ≠ source key ∨ before.Covers source key
    · rcases covers key covered with still | gone
      · exact .inr still
      · exact .inl ((tracks.known key (stays key gone)).trans gone.symm)
    · obtain ⟨same, other⟩ := not_or.mp covered
      have same := not_not.mp same
      rcases tracks.agrees key wants with agree | held
      · exact .inl (agree.trans same.symm)
      · rcases covered_cons.mp held with own | others
        · exact absurd own other
        · exact .inr (covered_cons.mpr (.inr (others.congr same)))
  known key gone := tracks.known key (stays key gone)

/-- The copy is patched with what an announcer has read: each entry is what the source has,
or the key is covered by another. More keys may be wanted then, of those that were told. -/
theorem announce {more : Key → Prop} (tracks : Tracks wanted view source (before ::ₘ announcers))
    (drained : before.due = []) (told : ∀ key, more key → wanted key ∨ valueOf (patch [] before.read) key ≠ none)
    (fresh : ∀ key value, valueOf (patch [] before.read) key = some value →
      source key = some value ∨ source key ≠ none ∧ Covered announcers source key) :
    Tracks more (patch view before.read) source announcers where
  agrees key wants := by
    cases said : valueOf (patch [] before.read) key with
    | some value =>
      rw [valueOf_patch_some said]
      exact (fresh key value said).imp Eq.symm And.right
    | none =>
      rw [valueOf_patch_none said]
      have wants := (told key wants).resolve_right (not_not.mpr said)
      refine (tracks.agrees key wants).imp_right fun covered => ?_
      rcases covered_cons.mp covered with (due | ⟨tells, _⟩) | others
      · rw [drained] at due
        cases due
      · exact absurd said tells
      · exact others
  known key gone := by
    cases said : valueOf (patch [] before.read) key with
    | some value =>
      rcases fresh key value said with current | ⟨there, _⟩
      · rw [gone] at current
        cases current
      · exact absurd gone there
    | none =>
      rw [valueOf_patch_none said]
      exact tracks.known key gone

/-- When nothing covers a key, the copy has what the source has. -/
theorem uncovered (tracks : Tracks wanted view source announcers) {key : Key} (wants : wanted key)
    (bare : ¬Covered announcers source key) : valueOf view key = source key :=
  (tracks.agrees key wants).resolve_right bare

end Tracks
end ApexEdge.Library.Replica
