import Mathlib.Data.List.Basic
import Mathlib.Data.List.TakeWhile

/-! A limit on how much is admitted within a time. The moments of what was admitted are kept
in a queue, from whose front those are taken that are a whole window old. -/

namespace ApexEdge.Library.SlidingWindow

/-- What is left in the queue of the last window. -/
def trim (window now : Nat) (queue : List Nat) : List Nat := queue.dropWhile fun moment => window ≤ now - moment

/-- The moments less than a window ago. -/
def recent (window now : Nat) (history : List Nat) : List Nat := history.filter fun moment => now - moment < window

/-- The queue has all of the history but what is a window old by the clock. -/
structure Tracks (window clock : Nat) (history queue : List Nat) : Prop where
  expired : ∃ removed, history = removed ++ queue ∧ ∀ moment ∈ removed, moment + window ≤ clock
  ordered : history.Pairwise (· ≤ ·)
  past : ∀ moment ∈ history, moment ≤ clock

/-- Everything was admitted when less than the limit had been in its last window. -/
inductive Admitted (window limit : Nat) : List Nat → Prop where
  | none : Admitted window limit []
  | next {history : List Nat} {now : Nat} : Admitted window limit history → (∀ moment ∈ history, moment ≤ now) →
      (recent window now history).length < limit → Admitted window limit (history ++ [now])

variable {window clock now limit : Nat} {history queue : List Nat}

theorem Tracks.nothing : Tracks window clock [] [] :=
  ⟨⟨[], rfl, fun _ impossible => (nomatch impossible)⟩, .nil, fun _ impossible => (nomatch impossible)⟩

theorem Tracks.later (tracks : Tracks window clock history queue) (later : clock ≤ now) :
    Tracks window now history queue := by
  obtain ⟨removed, whole, old⟩ := tracks.expired
  exact ⟨⟨removed, whole, fun moment gone => (old moment gone).trans later⟩, tracks.ordered,
    fun moment member => (tracks.past moment member).trans later⟩

/-- In order, what is old comes first. -/
theorem trim_eq_recent_of_ordered (ordered : queue.Pairwise (· ≤ ·)) : trim window now queue = recent window now queue := by
  induction queue with
  | nil => rfl
  | cons first rest ih =>
    obtain ⟨least, ordered⟩ := List.pairwise_cons.mp ordered
    unfold trim recent
    by_cases old : window ≤ now - first
    · rw [List.dropWhile_cons_of_pos (by simpa using old), List.filter_cons_of_neg (by simpa using old)]
      exact ih ordered
    · have all : ∀ moment ∈ first :: rest, decide (now - moment < window) = true := by
        intro moment member
        rcases List.mem_cons.mp member with rfl | later
        · simpa using old
        · have after := least moment later
          exact decide_eq_true (by omega)
      rw [List.dropWhile_cons_of_neg (by simpa using old), List.filter_eq_self.mpr all]

/-- What is left in the queue is what was admitted in the last window. -/
theorem Tracks.trim_eq (tracks : Tracks window clock history queue) (later : clock ≤ now) :
    trim window now queue = recent window now history := by
  obtain ⟨removed, rfl, old⟩ := tracks.expired
  have gone : recent window now removed = [] := by
    refine List.filter_eq_nil_iff.mpr fun moment member fresh => ?_
    have aged := old moment member
    have young := of_decide_eq_true fresh
    omega
  rw [trim_eq_recent_of_ordered (List.pairwise_append.mp tracks.ordered).2.1]
  unfold recent at gone ⊢
  rw [List.filter_append, gone, List.nil_append]

theorem Tracks.trim (tracks : Tracks window clock history queue) (later : clock ≤ now) :
    Tracks window now history (trim window now queue) := by
  obtain ⟨removed, whole, old⟩ := (tracks.later later).expired
  refine ⟨⟨removed ++ queue.takeWhile fun moment => window ≤ now - moment, ?_, ?_⟩, tracks.ordered,
    (tracks.later later).past⟩
  · rw [List.append_assoc, SlidingWindow.trim, List.takeWhile_append_dropWhile, whole]
  · intro moment member
    rcases List.mem_append.mp member with gone | aged
    · exact old moment gone
    · have reached : window ≤ now - moment := by simpa using List.mem_takeWhile_imp aged
      have past : moment ≤ now := (tracks.later later).past moment (by
        rw [whole]
        exact List.mem_append_right _ (List.takeWhile_subset _ aged))
      omega

/-- Something is admitted now. -/
theorem Tracks.push (tracks : Tracks window now history queue) : Tracks window now (history ++ [now]) (queue ++ [now]) := by
  obtain ⟨removed, rfl, old⟩ := tracks.expired
  refine ⟨⟨removed, List.append_assoc .., old⟩, ?_, ?_⟩
  · refine List.pairwise_append.mpr ⟨tracks.ordered, List.pairwise_singleton .., fun moment member last newest => ?_⟩
    rw [List.mem_singleton.mp newest]
    exact tracks.past moment member
  · intro moment member
    rcases List.mem_append.mp member with before | newest
    · exact tracks.past moment before
    · exact (List.mem_singleton.mp newest).le

/-- No window, wherever it starts, has more than the limit. -/
theorem Admitted.within (admitted : Admitted window limit history) (start : Nat) :
    (history.filter fun moment => start ≤ moment ∧ moment < start + window).length ≤ limit := by
  induction admitted with
  | none => exact Nat.zero_le limit
  | @next history now _ past few ih =>
    rw [List.filter_append, List.length_append]
    by_cases inside : start ≤ now ∧ now < start + window
    · -- whatever is in this window is recent when the last one is admitted
      have fewer : (history.filter fun moment => start ≤ moment ∧ moment < start + window).length ≤
          (recent window now history).length := by
        refine (List.monotone_filter_right history fun moment contained => ?_).length_le
        have bounds := of_decide_eq_true contained
        exact decide_eq_true (by omega)
      rw [List.filter_cons_of_pos (by simpa using inside)]
      exact Nat.le_trans (Nat.add_le_add_right fewer _) (Nat.succ_le_of_lt few)
    · rw [List.filter_cons_of_neg (by simpa using inside)]
      exact ih

end ApexEdge.Library.SlidingWindow
