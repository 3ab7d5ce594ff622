import Mathlib.Algebra.BigOperators.Ring.List
import Mathlib.Algebra.Order.BigOperators.Group.List
import Mathlib.Algebra.Order.Ring.Nat
import Mathlib.Data.List.Sort

/-! Things handed out in order: everyone gets what it wants as long as something remains.
Priced things that are handed out from the cheapest on cost what the cheapest of them cost.
An amount is spread over parties in proportion to what each of them has, rounded down; the
last party bears what remains, and nobody more than it has, so that something may be left. -/

namespace ApexEdge.Library.Handout

/-- What each gets, served one after the other. -/
def served (remaining : Nat) (wants : List Nat) : List Nat :=
  match wants with
  | [] => []
  | want :: wants => min want remaining :: served (remaining - min want remaining) wants

section Parties
variable {Party Share : Type} {parties : List Party} {given : List Share}

theorem zip_of_mem (everyone : parties.length ≤ given.length) {party : Party} (member : party ∈ parties) :
    ∃ share, (party, share) ∈ parties.zip given := by
  rw [← List.map_fst_zip everyone] at member
  obtain ⟨⟨_, share⟩, listed, rfl⟩ := List.mem_map.mp member
  exact ⟨share, listed⟩

theorem mem_zip_map (value : Party → Share) {party : Party} (member : party ∈ parties) :
    (party, value party) ∈ parties.zip (parties.map value) := by
  have pairs : (parties.map id).zip (parties.map value) = parties.map fun party => (party, value party) := List.zip_map'
  rw [List.map_id] at pairs
  rw [pairs]
  exact List.mem_map_of_mem member

theorem map_of_zip {value : Party → Share} (everyone : parties.length = given.length)
    (each : ∀ party share, (party, share) ∈ parties.zip given → value party = share) : parties.map value = given :=
  calc parties.map value
      = ((parties.zip given).map Prod.fst).map value := by rw [List.map_fst_zip everyone.le]
    _ = (parties.zip given).map Prod.snd := by
      rw [List.map_map]
      exact List.map_congr_left fun pair member => each pair.1 pair.2 member
    _ = given := List.map_snd_zip everyone.ge

end Parties

/-- The things in groups of one price, each thing with its price. -/
def singles (groups : List (Nat × Nat)) : List Nat := groups.flatMap fun group => List.replicate group.2 group.1

/-- What the first things of the groups cost. -/
def costOf (count : Nat) (groups : List (Nat × Nat)) : Nat :=
  match groups with
  | [] => 0
  | group :: groups => group.1 * min group.2 count + costOf (count - min group.2 count) groups

def cheapest (count : Nat) (prices : List Nat) : List Nat := (prices.insertionSort (· ≤ ·)).take count

section Lemmas
variable {remaining count : Nat} {wants : List Nat} {groups : List (Nat × Nat)}

@[simp] theorem served_length : (served remaining wants).length = wants.length := by
  induction wants generalizing remaining with
  | nil => rfl
  | cons want wants ih => rw [served, List.length_cons, List.length_cons, ih]

theorem served_sum : (served remaining wants).sum = min remaining wants.sum := by
  induction wants generalizing remaining with
  | nil => simp [served]
  | cons want wants ih =>
    rw [served, List.sum_cons, List.sum_cons, ih]
    omega

/-- Nobody gets more than it wants. -/
theorem served_le {Party : Type} {wanted : Party → Nat} {parties : List Party} {party : Party} {share : Nat}
    (member : (party, share) ∈ parties.zip (served remaining (parties.map wanted))) : share ≤ wanted party := by
  induction parties generalizing remaining with
  | nil => cases member
  | cons first parties ih =>
    rw [List.map_cons, served, List.zip_cons_cons, List.mem_cons] at member
    rcases member with here | later
    · obtain ⟨rfl, rfl⟩ := Prod.mk.inj here
      exact Nat.min_le_left _ _
    · exact ih later

theorem singles_cons (group : Nat × Nat) :
    singles (group :: groups) = List.replicate group.2 group.1 ++ singles groups := List.flatMap_cons

theorem costOf_eq : costOf count groups = ((singles groups).take count).sum := by
  induction groups generalizing count with
  | nil => simp [costOf, singles]
  | cons group groups ih =>
    have left : count - min group.2 count = count - group.2 := by omega
    rw [costOf, ih, singles_cons, List.take_append, List.sum_append, List.take_replicate, List.length_replicate,
      List.sum_replicate_nat, left, Nat.min_comm group.2, Nat.mul_comm]

theorem costOf_le : costOf count groups ≤ (singles groups).sum := by
  rw [costOf_eq]
  exact (List.take_sublist count _).sum_le_sum fun _ _ => Nat.zero_le _

/-- Groups in order of price have their things in order of price. -/
theorem singles_sorted (sorted : groups.Pairwise fun first second => first.1 ≤ second.1) :
    (singles groups).Pairwise (· ≤ ·) := by
  induction groups with
  | nil => exact List.Pairwise.nil
  | cons group groups ih =>
    obtain ⟨least, sorted⟩ := List.pairwise_cons.mp sorted
    rw [singles_cons]
    refine List.pairwise_append.mpr ⟨?_, ih sorted, ?_⟩
    · exact List.pairwise_replicate.mpr (Or.inr (Nat.le_refl _))
    · intro price member later other
      obtain ⟨next, listed, priced⟩ := List.mem_flatMap.mp other
      rw [(List.mem_replicate.mp member).2, (List.mem_replicate.mp priced).2]
      exact least next listed

theorem singles_perm {others : List (Nat × Nat)} (same : groups.Perm others) : (singles groups).Perm (singles others) :=
  same.flatMap_right _

/-- However the groups are ordered among equals, the first things of them are the cheapest. -/
theorem costOf_sorted : costOf count (groups.insertionSort fun first second => first.1 ≤ second.1) =
    (cheapest count (singles groups)).sum := by
  have total : Std.Total fun first second : Nat × Nat => first.1 ≤ second.1 :=
    ⟨fun first second => Nat.le_total first.1 second.1⟩
  have transitive : IsTrans (Nat × Nat) fun first second => first.1 ≤ second.1 := ⟨fun _ _ _ => Nat.le_trans⟩
  have sorted := singles_sorted
    (List.pairwise_insertionSort (fun first second : Nat × Nat => first.1 ≤ second.1) groups)
  have same := singles_perm (List.perm_insertionSort (fun first second : Nat × Nat => first.1 ≤ second.1) groups)
  have equal : singles (groups.insertionSort fun first second => first.1 ≤ second.1) =
      (singles groups).insertionSort (· ≤ ·) :=
    (same.trans (List.perm_insertionSort (· ≤ ·) _).symm).eq_of_pairwise' sorted (List.pairwise_insertionSort (· ≤ ·) _)
  rw [costOf_eq, equal, cheapest]

theorem cheapest_le {prices : List Nat} : (cheapest count prices).sum ≤ prices.sum := by
  rw [← (List.perm_insertionSort (· ≤ ·) prices).sum_eq]
  exact (List.take_sublist count _).sum_le_sum fun _ _ => Nat.zero_le _

theorem cheapest_perm {prices others : List Nat} (same : prices.Perm others) :
    cheapest count prices = cheapest count others := by
  have sorted : prices.insertionSort (· ≤ ·) = others.insertionSort (· ≤ ·) :=
    ((List.perm_insertionSort (· ≤ ·) prices).trans (same.trans (List.perm_insertionSort (· ≤ ·) others).symm)).eq_of_pairwise'
      (List.pairwise_insertionSort (· ≤ ·) prices) (List.pairwise_insertionSort (· ≤ ·) others)
  rw [cheapest, sorted, cheapest]

end Lemmas

end ApexEdge.Library.Handout

namespace ApexEdge.Library.Apportion

/-- The share of one party. The product is cut off at a limit, as saturating arithmetic does. -/
def quota (limit amount whole part : Nat) : Nat := min (amount * part) limit / whole

/-- What the parties bear together, one after the other, as long as something remains. -/
def borne (limit amount whole remaining : Nat) (parts : List Nat) : Nat :=
  match parts with
  | [] => 0
  | part :: parts =>
    let wanted := if parts.isEmpty then remaining else quota limit amount whole part
    let share := min (min wanted part) remaining
    share + borne limit amount whole (remaining - share) parts

/-- The shares of all but the last, and all that the last one has. -/
def reach (limit amount whole : Nat) (parts : List Nat) : Nat :=
  (parts.dropLast.map (quota limit amount whole)).sum + parts.getLastD 0

/-- The parties have the amount, and the last of them can bear what rounding leaves. -/
def Bears (limit amount : Nat) (parts : List Nat) : Prop :=
  amount ≤ parts.sum ∧ amount ≤ reach limit amount parts.sum parts

instance (limit amount : Nat) (parts : List Nat) : Decidable (Bears limit amount parts) :=
  inferInstanceAs (Decidable (_ ∧ _))

section Lemmas
variable {limit amount whole remaining : Nat} {parts : List Nat}

theorem borne_le_sum : borne limit amount whole remaining parts ≤ parts.sum := by
  induction parts generalizing remaining with
  | nil => exact Nat.le_refl 0
  | cons part parts ih =>
    rw [borne, List.sum_cons]
    refine Nat.add_le_add ?_ ih
    exact (Nat.min_le_left _ _).trans (Nat.min_le_right _ _)

theorem borne_zero : borne limit amount whole 0 parts = 0 := by
  induction parts with
  | nil => rfl
  | cons part parts ih =>
    rw [borne, Nat.min_zero, Nat.zero_sub, ih]

theorem quota_le_part (affordable : amount ≤ whole) (part : Nat) : quota limit amount whole part ≤ part := by
  rcases Nat.eq_zero_or_pos whole with rfl | positive
  · rw [quota, Nat.div_zero]
    exact Nat.zero_le part
  · refine (Nat.div_le_div_right (Nat.min_le_left _ _)).trans ?_
    refine Nat.div_le_of_le_mul ?_
    exact Nat.mul_le_mul_right part affordable

/-- Rounded down, the shares of some parties come to no more than the amount. -/
theorem quotas_le (within : parts.sum ≤ whole) : (parts.map (quota limit amount whole)).sum ≤ amount := by
  rcases Nat.eq_zero_or_pos whole with rfl | positive
  · have none : parts.map (quota limit amount 0) = parts.map fun _ => 0 :=
      List.map_congr_left fun part _ => by rw [quota, Nat.div_zero]
    rw [none]
    simp
  · refine Nat.le_of_mul_le_mul_left ?_ positive
    have each : ∀ part ∈ parts, whole * quota limit amount whole part ≤ amount * part := fun part _ =>
      (Nat.mul_div_le _ _).trans (Nat.min_le_left _ _)
    calc whole * (parts.map (quota limit amount whole)).sum
        = (parts.map fun part => whole * quota limit amount whole part).sum := (List.sum_map_mul_left ..).symm
      _ ≤ (parts.map fun part => amount * part).sum := List.sum_le_sum each
      _ = amount * parts.sum := by rw [List.sum_map_mul_left, List.map_id']
      _ ≤ whole * amount := by
        rw [Nat.mul_comm whole]
        exact Nat.mul_le_mul_left amount within

theorem reach_cons {part second : Nat} : reach limit amount whole (part :: second :: parts) =
    quota limit amount whole part + reach limit amount whole (second :: parts) := by
  rw [reach, List.dropLast_cons_of_ne_nil (List.cons_ne_nil _ _), List.map_cons, List.sum_cons, reach, Nat.add_assoc]
  rfl

/-- While what remains covers the shares to come, each party but the last bears its share. -/
theorem borne_eq (affordable : amount ≤ whole)
    (covers : (parts.dropLast.map (quota limit amount whole)).sum ≤ remaining) :
    borne limit amount whole remaining parts = min remaining (reach limit amount whole parts) := by
  induction parts generalizing remaining with
  | nil => simp [borne, reach]
  | cons part parts ih =>
    cases parts with
    | nil =>
      rw [borne]
      simp [borne, reach, Nat.min_comm]
    | cons second parts =>
      rw [List.dropLast_cons_of_ne_nil (List.cons_ne_nil _ _), List.map_cons, List.sum_cons] at covers
      have share : min (min (quota limit amount whole part) part) remaining = quota limit amount whole part := by
        rw [Nat.min_eq_left (quota_le_part affordable part)]
        exact Nat.min_eq_left (by omega)
      rw [borne, if_neg (by simp), share, ih (by omega), reach_cons]
      omega

/-- Nothing is left exactly when the last party can bear what rounding leaves. -/
theorem borne_eq_iff : borne limit amount parts.sum amount parts = amount ↔ Bears limit amount parts := by
  by_cases affordable : amount ≤ parts.sum
  · have part_of : parts.dropLast.sum ≤ parts.sum := (List.dropLast_sublist parts).sum_le_sum fun _ _ => Nat.zero_le _
    rw [borne_eq affordable (quotas_le part_of), Bears, min_eq_left_iff]
    exact ⟨fun reaches => ⟨affordable, reaches⟩, And.right⟩
  · refine iff_of_false (fun all => affordable ?_) fun bears => affordable bears.1
    exact all.symm.le.trans borne_le_sum

/-- Nobody bears anything when there is nothing to bear, or every share rounds to nothing. -/
theorem borne_eq_zero_iff :
    borne limit amount whole remaining parts = 0 ↔ remaining = 0 ∨ reach limit amount whole parts = 0 := by
  induction parts generalizing remaining with
  | nil => simp [borne, reach]
  | cons part parts ih =>
    cases parts with
    | nil =>
      rw [borne, borne, if_pos List.isEmpty_nil]
      simp only [reach, List.dropLast_singleton, List.map_nil, List.sum_nil, List.getLastD_cons, List.getLastD_nil]
      omega
    | cons second parts =>
      have worthless : part = 0 → quota limit amount whole part = 0 := by
        rintro rfl
        rw [quota, Nat.mul_zero, Nat.zero_min, Nat.zero_div]
      rw [borne, if_neg (by simp), Nat.add_eq_zero_iff, ih, reach_cons]
      omega

end Lemmas

end ApexEdge.Library.Apportion
