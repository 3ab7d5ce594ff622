import ApexEdge.Library.Handout
import ApexEdge.Proofs.CartMoney
import ApexEdge.Proofs.DiscountShortcut

/-! A discount on the whole cart is spread over its lines in proportion to their nets. All of
it is taken as long as the last line can bear what rounding has left for it. -/

namespace ApexEdge.Proofs.CartDiscounts
open Library Payment Domain Pos Handout DiscountShortcut
open CartMoney (netCents)

def cartDiscount (reason : String) (amountCents : Nat) : ManualDiscountInfo := ⟨reason, amountCents, none⟩

/-- The basket loses the amount, or all it is worth; no line goes below zero, and no free line is touched. -/
structure TakenExactly (reason : String) (amountCents : Nat) (lines : List CartLineItem) : Prop where
  exact : netCents (applyManualDiscount lines (cartDiscount reason amountCents)) + min amountCents (netCents lines) =
    netCents lines
  within : ∀ line after, (line, after) ∈ lines.zip (applyManualDiscount lines (cartDiscount reason amountCents)) →
    line.discountCents ≤ line.lineTotalCents → after.discountCents ≤ after.lineTotalCents
  untouched : ∀ line after, (line, after) ∈ lines.zip (applyManualDiscount lines (cartDiscount reason amountCents)) →
    lineNet line = 0 → after = line

/-- Each line's part in proportion, rounded down; the last line can bear all of its net. -/
def bearable (amountCents totalNet : Nat) (lines : List CartLineItem) : List Nat :=
  match lines with
  | [] => []
  | line :: lines =>
    (if lines.isEmpty then lineNet line else min (wrap64 (amountCents * lineNet line) / totalNet) (lineNet line)) ::
      bearable amountCents totalNet lines

/-- What the lines bear in all; the basket's worth is added up in 64 bits. -/
def reach (amountCents : Nat) (lines : List CartLineItem) : Nat :=
  if basketNet lines = 0 then 0 else (bearable amountCents (basketNet lines) lines).sum

section Spread
variable {lines : List CartLineItem} {amountCents totalNet remaining : Nat}

theorem lineNet_addDiscount {line : CartLineItem} (cents : Nat) (priced : line.lineTotalCents ≤ u64Max) :
    lineNet (addDiscount cents line) = lineNet line - min cents (lineNet line) := by
  show line.lineTotalCents - min (line.discountCents + min cents (lineNet line)) u64Max = _
  unfold lineNet
  omega

/-- The lines are served what they can bear, one after the other. -/
theorem spreadDiscount_net (priced : ∀ line ∈ lines, line.lineTotalCents ≤ u64Max) :
    netCents (spreadDiscount amountCents totalNet remaining lines) +
      (served remaining (bearable amountCents totalNet lines)).sum = netCents lines := by
  induction lines generalizing remaining with
  | nil => rfl
  | cons line lines ih =>
    obtain ⟨here, later⟩ := List.forall_mem_cons.mp priced
    have share : min (if lines.isEmpty then remaining
        else min (wrap64 (amountCents * lineNet line) / totalNet) remaining) (lineNet line) =
      min (if lines.isEmpty then lineNet line
        else min (wrap64 (amountCents * lineNet line) / totalNet) (lineNet line)) remaining := by
      generalize wrap64 (amountCents * lineNet line) / totalNet = quota
      split <;> omega
    simp only [spreadDiscount, bearable, served, netCents, List.map_cons, List.sum_cons] at ih ⊢
    rw [lineNet_addDiscount _ here, share]
    have rest := @ih (remaining - min (if lines.isEmpty then lineNet line
      else min (wrap64 (amountCents * lineNet line) / totalNet) (lineNet line)) remaining) later
    have bound : min (if lines.isEmpty then lineNet line
        else min (wrap64 (amountCents * lineNet line) / totalNet) (lineNet line)) remaining ≤ lineNet line := by
      rw [← share]
      exact Nat.min_le_right _ _
    omega

theorem spreadDiscount_zip {line after : CartLineItem}
    (member : (line, after) ∈ lines.zip (spreadDiscount amountCents totalNet remaining lines)) :
    ∃ cents, after = addDiscount cents line := by
  induction lines generalizing remaining with
  | nil => cases member
  | cons first lines ih =>
    rw [spreadDiscount, List.zip_cons_cons, List.mem_cons] at member
    rcases member with here | later
    · obtain ⟨rfl, rfl⟩ := Prod.mk.inj here
      exact ⟨_, rfl⟩
    · exact ih later

theorem bearable_le : (bearable amountCents totalNet lines).sum ≤ netCents lines := by
  induction lines with
  | nil => exact Nat.zero_le _
  | cons line lines ih =>
    have here : (if lines.isEmpty then lineNet line
        else min (wrap64 (amountCents * lineNet line) / totalNet) (lineNet line)) ≤ lineNet line := by
      split
      · exact Nat.le_refl _
      · exact Nat.min_le_right _ _
    exact Nat.add_le_add here ih

end Spread

section Applied
variable {lines : List CartLineItem} {amountCents : Nat} {reason : String}

theorem applyCart_zip {line after : CartLineItem}
    (member : (line, after) ∈ lines.zip (applyManualDiscount lines (cartDiscount reason amountCents))) :
    after = line ∨ ∃ cents, after = addDiscount cents line := by
  have same (listed : (line, after) ∈ lines.zip lines) : after = line := by
    obtain ⟨position, _, found⟩ := List.mem_iff_getElem.mp listed
    rw [List.getElem_zip] at found
    obtain ⟨rfl, rfl⟩ := Prod.mk.inj found
    rfl
  unfold applyManualDiscount at member
  split at member
  · exact Or.inl (same member)
  · dsimp only [cartDiscount] at member
    split at member
    · exact Or.inl (same member)
    · exact Or.inr (spreadDiscount_zip member)

/-- The basket loses what its lines reach, up to the amount. -/
theorem applyCart_net (priced : ∀ line ∈ lines, line.lineTotalCents ≤ u64Max) :
    netCents (applyManualDiscount lines (cartDiscount reason amountCents)) + min amountCents (reach amountCents lines) =
      netCents lines := by
  unfold applyManualDiscount reach
  split
  next nothing =>
    have zero : amountCents = 0 := nothing
    rw [zero, Nat.zero_min, Nat.add_zero]
  next =>
    dsimp only [cartDiscount]
    split
    · rw [Nat.min_zero, Nat.add_zero]
    · rw [← served_sum]
      exact spreadDiscount_net priced

/-- A cart discount is taken in full exactly when the lines can bear it as it is rounded. -/
theorem takenExactly_iff (priced : ∀ line ∈ lines, line.lineTotalCents ≤ u64Max)
    (fits : ∀ line ∈ lines, line.discountCents ≤ u64Max) :
    TakenExactly reason amountCents lines ↔ min amountCents (netCents lines) ≤ reach amountCents lines := by
  have net := @applyCart_net _ amountCents reason priced
  have most : reach amountCents lines ≤ netCents lines := by
    unfold reach
    split
    · exact Nat.zero_le _
    · exact bearable_le
  constructor
  · intro taken
    have exact := taken.exact
    omega
  · intro reaches
    refine ⟨by omega, fun line after member covered => ?_, fun line after member free => ?_⟩
    · rcases applyCart_zip member with rfl | ⟨cents, rfl⟩
      · exact covered
      · exact CartMoney.addDiscount_covered cents covered
    · rcases applyCart_zip member with rfl | ⟨cents, rfl⟩
      · rfl
      · exact addDiscount_free free (fits line (List.of_mem_zip member).1)

end Applied

def pricedLine (id cents : Nat) : CartLineItem :=
  { lineId := .random id, itemId := 9, sku := "SKU", name := "Item", quantity := 1, modifierOptionIds := []
    notes := none, unitPriceCents := cents, lineTotalCents := cents, discountCents := 0, taxCents := 0
    taxInclusive := false }

/-- Three dollars off lines of ten dollars and five. -/
theorem three_dollars_are_taken : TakenExactly "damaged" 300 [pricedLine 1 1000, pricedLine 2 500] :=
  (takenExactly_iff (by decide) (by decide)).mpr (by decide)

/-- Two cents off three lines of one cent: only the last line is discounted, by one cent. -/
theorem one_cent_of_two_is_taken : ¬ TakenExactly "damaged" 2 [pricedLine 1 1, pricedLine 2 1, pricedLine 3 1] := by
  intro taken
  exact absurd taken.exact (by decide)

end ApexEdge.Proofs.CartDiscounts
