import ApexEdge.Library.SqlNumber

/-! Signed 64-bit arithmetic: operations that wrap, operations that saturate, and sums
that fail instead. A proportion is computed in twice the width and rounds toward zero. -/

namespace ApexEdge.Library

/-- The signed number that has the same lowest 64 bits. -/
def wrapI64 (n : Int) : Int := n.bmod (2 ^ 64)

def saturateI64 (n : Int) : Int := max (-2 ^ 63) (min n (2 ^ 63 - 1))

/-- A sum whose additions wrap shows the last wrap only. -/
def wrappingSum (terms : List Int) : Int := wrapI64 terms.sum

/-- A sum whose additions saturate. -/
def saturatingSum (start : Int) (terms : List Int) : Int :=
  terms.foldl (fun total term => saturateI64 (total + term)) start

/-- Adding up with saturation and adding up with wrapping come to the same. -/
def Steady (terms : List Int) : Prop := saturatingSum 0 terms = wrappingSum terms

/-- A sum that leaves the signed range on the way is no sum. -/
def sumI64 (terms : List Int) : Option Int :=
  terms.foldlM (fun total term => if FitsI64 term ∧ FitsI64 (total + term) then some (total + term) else none) 0

def proportion (total qty denom : Int) : Int :=
  if denom ≤ 0 then 0 else wrapI64 ((total * qty).tdiv denom)

section Lemmas

theorem wrapI64_of_fits {n : Int} (fits : FitsI64 n) : wrapI64 n = n := by
  unfold wrapI64
  rw [Int.bmod_eq_of_le] <;> unfold FitsI64 at fits <;> omega

theorem wrapI64_fits (n : Int) : FitsI64 (wrapI64 n) := by
  unfold wrapI64 FitsI64
  have low : _ ≤ n.bmod (2 ^ 64) := Int.le_bmod (by norm_num)
  have high : n.bmod (2 ^ 64) < _ := Int.bmod_lt (by norm_num)
  omega

/-- What has wrapped before wraps to the same. -/
theorem wrapI64_add (n more : Int) : wrapI64 (wrapI64 n + more) = wrapI64 (n + more) := Int.bmod_add_bmod

theorem saturateI64_of_fits {n : Int} (fits : FitsI64 n) : saturateI64 n = n := by
  unfold saturateI64 FitsI64 at *
  omega

theorem wrappingSum_of_fits {terms : List Int} (fits : FitsI64 terms.sum) : wrappingSum terms = terms.sum :=
  wrapI64_of_fits fits

theorem sum_of_debts {terms : List Int} (debts : ∀ term ∈ terms, term ≤ 0) : terms.sum ≤ 0 := by
  induction terms with
  | nil => exact le_refl 0
  | cons term terms ih =>
    obtain ⟨first, others⟩ := List.forall_mem_cons.mp debts
    have rest := ih others
    rw [List.sum_cons]
    omega

/-- Debts that together fit add up without saturation. -/
theorem saturatingSum_of_debts {start : Int} {terms : List Int} (debts : ∀ term ∈ terms, term ≤ 0) (below : start ≤ 0)
    (fits : -2 ^ 63 ≤ start + terms.sum) : saturatingSum start terms = start + terms.sum := by
  induction terms generalizing start with
  | nil => simp [saturatingSum]
  | cons term terms ih =>
    obtain ⟨first, others⟩ := List.forall_mem_cons.mp debts
    have rest := sum_of_debts others
    rw [List.sum_cons] at fits ⊢
    have kept : saturateI64 (start + term) = start + term := saturateI64_of_fits ⟨by omega, by omega⟩
    have added := @ih (start + term) others (by omega) (by omega)
    rw [saturatingSum, List.foldl_cons, kept, ← saturatingSum, added]
    omega

theorem steady_of_debts {terms : List Int} (debts : ∀ term ∈ terms, term ≤ 0) (fits : -2 ^ 63 ≤ terms.sum) :
    Steady terms := by
  have rest := sum_of_debts debts
  rw [Steady, saturatingSum_of_debts debts (le_refl 0) (by omega), wrappingSum_of_fits ⟨fits, by omega⟩, Int.zero_add]

/-- Gains that together fit add up without saturation. -/
theorem saturatingSum_of_gains {start : Int} {terms : List Int} (gains : ∀ term ∈ terms, 0 ≤ term) (above : 0 ≤ start)
    (fits : start + terms.sum < 2 ^ 63) : saturatingSum start terms = start + terms.sum := by
  induction terms generalizing start with
  | nil => simp [saturatingSum]
  | cons term terms ih =>
    obtain ⟨first, others⟩ := List.forall_mem_cons.mp gains
    have rest := List.sum_nonneg others
    rw [List.sum_cons] at fits ⊢
    have kept : saturateI64 (start + term) = start + term := saturateI64_of_fits ⟨by omega, by omega⟩
    have added := @ih (start + term) others (by omega) (by omega)
    rw [saturatingSum, List.foldl_cons, kept, ← saturatingSum, added]
    omega

theorem asI64_fits (amount : Nat) : FitsI64 (asI64 amount) := wrapI64_fits amount

theorem asI64_le (amount : Nat) : asI64 amount ≤ amount := by
  rcases Nat.lt_or_ge amount (2 ^ 63) with small | large
  · rw [asI64_of_small small]
  · have top := (asI64_fits amount).2
    omega

private theorem foldlM_small (terms : List Int) (start : Int) (positive : ∀ term ∈ terms, 0 ≤ term) (above : 0 ≤ start)
    (small : start + terms.sum < 2 ^ 63) :
    terms.foldlM
      (fun total term => if FitsI64 term ∧ FitsI64 (total + term) then some (total + term) else none) start =
      some (start + terms.sum) := by
  induction terms generalizing start with
  | nil => simp
  | cons term terms ih =>
    have first := positive term List.mem_cons_self
    have rest := List.sum_nonneg fun other member => positive other (List.mem_cons_of_mem term member)
    rw [List.sum_cons] at small ⊢
    have fits : FitsI64 term ∧ FitsI64 (start + term) := by unfold FitsI64; omega
    rw [List.foldlM_cons, if_pos fits]
    refine (ih (start + term) (fun other member => positive other (List.mem_cons_of_mem term member))
      (by omega) (by omega)).trans ?_
    rw [Int.add_assoc]

/-- Amounts that together fit have a sum. -/
theorem sumI64_of_small {terms : List Int} (positive : ∀ term ∈ terms, 0 ≤ term) (small : terms.sum < 2 ^ 63) :
    sumI64 terms = some terms.sum := by
  have summed := foldlM_small terms 0 positive (by omega) (by omega)
  rwa [Int.zero_add] at summed

section Proportion
variable {total qty denom : Int}

theorem proportion_fits (total qty denom : Int) : FitsI64 (proportion total qty denom) := by
  unfold proportion
  split
  · decide
  · exact wrapI64_fits _

/-- Nothing of an amount is nothing. -/
@[simp] theorem proportion_zero (total denom : Int) : proportion total 0 denom = 0 := by
  unfold proportion
  split
  · rfl
  · rw [Int.mul_zero, Int.zero_tdiv]
    exact wrapI64_of_fits (by decide)

theorem proportion_eq (positive : 0 < denom) (fits : FitsI64 total) (start : 0 ≤ qty) (within : qty ≤ denom) :
    proportion total qty denom = (total * qty).tdiv denom := by
  unfold proportion
  rw [if_neg (by omega), wrapI64_of_fits]
  have bound : ((total * qty).tdiv denom).natAbs ≤ total.natAbs := by
    rw [Int.natAbs_tdiv, Int.natAbs_mul]
    apply Nat.div_le_of_le_mul
    rw [Nat.mul_comm]
    exact Nat.mul_le_mul_right _ (by omega)
  by_cases large : 0 ≤ total
  · have sign : 0 ≤ (total * qty).tdiv denom := Int.tdiv_nonneg (Int.mul_nonneg large start) positive.le
    unfold FitsI64 at *
    omega
  · have sign : 0 ≤ (-total * qty).tdiv denom := Int.tdiv_nonneg (Int.mul_nonneg (by omega) start) positive.le
    rw [Int.neg_mul, Int.neg_tdiv] at sign
    unfold FitsI64 at *
    omega

/-- A part of an amount lies between nothing and the amount. -/
theorem proportion_bounds (nonneg : 0 ≤ total) (fits : FitsI64 total) (positive : 0 < denom) (start : 0 ≤ qty)
    (within : qty ≤ denom) : 0 ≤ proportion total qty denom ∧ proportion total qty denom ≤ total := by
  rw [proportion_eq positive fits start within, Int.tdiv_eq_ediv_of_nonneg (Int.mul_nonneg nonneg start)]
  refine ⟨Int.ediv_nonneg (Int.mul_nonneg nonneg start) positive.le, ?_⟩
  exact Int.ediv_le_of_le_mul positive (Int.mul_le_mul_of_nonneg_left within nonneg)

theorem proportion_nonpos (negative : total ≤ 0) (fits : FitsI64 total) (positive : 0 < denom) (start : 0 ≤ qty)
    (within : qty ≤ denom) : proportion total qty denom ≤ 0 := by
  have sign : 0 ≤ (-total * qty).tdiv denom := Int.tdiv_nonneg (Int.mul_nonneg (by omega) start) positive.le
  rw [Int.neg_mul, Int.neg_tdiv] at sign
  rw [proportion_eq positive fits start within]
  omega

theorem proportion_mono {more : Int} (nonneg : 0 ≤ total) (fits : FitsI64 total) (start : 0 ≤ qty) (later : qty ≤ more)
    (within : more ≤ denom) : proportion total qty denom ≤ proportion total more denom := by
  by_cases positive : 0 < denom
  · rw [proportion_eq positive fits start (by omega), proportion_eq positive fits (by omega) within,
      Int.tdiv_eq_ediv_of_nonneg (Int.mul_nonneg nonneg start),
      Int.tdiv_eq_ediv_of_nonneg (Int.mul_nonneg nonneg (by omega))]
    exact Int.ediv_le_ediv positive (Int.mul_le_mul_of_nonneg_left later nonneg)
  · unfold proportion
    rw [if_pos (by omega), if_pos (by omega)]

/-- A part of the whole takes no more of an amount than the part is, when the amount is
at most the whole. -/
theorem proportion_step {part : Int} (nonneg : 0 ≤ total) (fits : FitsI64 denom) (covered : total ≤ denom)
    (start : 0 ≤ qty) (gains : 0 ≤ part) (within : qty + part ≤ denom) :
    proportion total (qty + part) denom ≤ proportion total qty denom + part := by
  by_cases positive : 0 < denom
  · have small : FitsI64 total := by unfold FitsI64 at *; omega
    rw [proportion_eq positive small start (by omega), proportion_eq positive small (by omega) within,
      Int.tdiv_eq_ediv_of_nonneg (Int.mul_nonneg nonneg start),
      Int.tdiv_eq_ediv_of_nonneg (Int.mul_nonneg nonneg (by omega)), ← Int.add_mul_ediv_right _ _ (by omega)]
    refine Int.ediv_le_ediv positive ?_
    rw [Int.mul_add, Int.mul_comm part]
    exact Int.add_le_add_left (Int.mul_le_mul_of_nonneg_right covered gains) _
  · unfold proportion
    rw [if_pos (by omega), if_pos (by omega)]
    omega

theorem proportion_whole (positive : 0 < denom) (fits : FitsI64 total) : proportion total denom denom = total := by
  rw [proportion_eq positive fits positive.le le_rfl, Int.mul_tdiv_cancel _ (by omega)]

end Proportion
end Lemmas
end ApexEdge.Library
