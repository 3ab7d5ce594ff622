import ApexEdge.Domain.Returns
import ApexEdge.Proofs.FiscalEvidence

/-! When the fiscal transaction of a return is valid. A return that is worth nothing can be
finalized without a refund, but there is no refund of nothing that a signer would take. -/

namespace ApexEdge.Proofs.RefundEvidence
open Library Payment Domain Storage Contracts Hub Fiscal
open FiscalEvidence

/-! ### Amounts owed -/

/-- An amount as it stands in a refund. -/
def owed (cents : Nat) : Int := wrapI64 (-asI64 cents)

def owedTax (line : ReturnLineRow) : Int := owed line.taxCents

def owedNet (line : ReturnLineRow) : Int := Hub.netOf (owed line.lineTotalCents) (owedTax line) line.taxInclusive

def owedGross (line : ReturnLineRow) : Int := saturateI64 (owedNet line + owedTax line)

/-- What makes evidence of a return: an admissible currency and admissible lines, whose amounts
add up without running over, to a total above nothing that has been refunded. -/
structure Evident (tables : RefundTables) (currency : String) (snapshot : ReturnSnapshot) : Prop where
  currency : isIsoCurrency currency.toUpper = true
  lines : snapshot.lines ≠ []
  quantities : ∀ line ∈ snapshot.lines, 0 < line.quantity
  rates : ∀ line ∈ snapshot.lines, (taxInfoForSku tables line.sku).1 ≤ 10000
  nets : Steady (snapshot.lines.map owedNet)
  taxes : Steady (snapshot.lines.map owedTax)
  grosses : Steady (snapshot.lines.map owedGross)
  returned : wrappingSum (snapshot.lines.map owedGross) = -snapshot.row.totalCents
  refunded : wrappingSum (snapshot.refunds.map fun refund => owed refund.amountCents) = -snapshot.row.totalCents
  worth : 0 < snapshot.row.totalCents

section Validation
variable {tables : RefundTables} {snapshot : ReturnSnapshot} {now : Timestamp} {currency : String}

theorem refundLine_tax (line : ReturnLineRow) : (refundLine tables line).taxCents = owedTax line := by
  rw [refundLine, owedTax, owed]

theorem refundLine_net (line : ReturnLineRow) : (refundLine tables line).netCents = owedNet line := by
  rw [refundLine, owedNet, owedTax, owed, owed]

theorem refundLine_gross (line : ReturnLineRow) : (refundLine tables line).grossCents = owedGross line := by
  rw [owedGross, ← refundLine_net, ← refundLine_tax, refundLine]

theorem refundLine_quantity (line : ReturnLineRow) : (refundLine tables line).quantity = line.quantity := by
  rw [refundLine]

theorem refundLine_rate (line : ReturnLineRow) :
    (refundLine tables line).taxRateBps = (taxInfoForSku tables line.sku).1 := by
  rw [refundLine]

/-- The lines of a refund carry what is owed for them. -/
theorem refund_lines (tables : RefundTables) (lines : List ReturnLineRow) :
    (lines.map (refundLine tables)).map FiscalLine.netCents = lines.map owedNet ∧
      (lines.map (refundLine tables)).map FiscalLine.taxCents = lines.map owedTax ∧
      (lines.map (refundLine tables)).map FiscalLine.grossCents = lines.map owedGross := by
  simp only [List.map_map, Function.comp_def, refundLine_net, refundLine_tax, refundLine_gross, and_self]

theorem refund_tenders (refunds : List RefundRow) :
    (refunds.map refundedTender).map FiscalTender.amountCents = refunds.map fun refund => owed refund.amountCents := by
  rw [List.map_map]
  refine List.map_congr_left fun refund _ => ?_
  rw [Function.comp_apply, refundedTender, owed]

theorem refund_checked (tables : RefundTables) (lines : List ReturnLineRow) (totals : LineTotals) :
    FiscalTransaction.checkLines ⟨0, 0, 0⟩ (lines.map (refundLine tables)) = .ok totals ↔
      (∀ line ∈ lines, 0 < line.quantity ∧ (taxInfoForSku tables line.sku).1 ≤ 10000) ∧
        totals = ⟨saturatingSum 0 (lines.map owedNet), saturatingSum 0 (lines.map owedTax),
          saturatingSum 0 (lines.map owedGross)⟩ := by
  have whole : ∀ line ∈ lines.map (refundLine tables),
      line.grossCents = saturateI64 (line.netCents + line.taxCents) := by
    intro line member
    obtain ⟨item, _, rfl⟩ := List.mem_map.mp member
    rw [refundLine_gross, refundLine_net, refundLine_tax, owedGross]
  obtain ⟨nets, taxes, grosses⟩ := refund_lines tables lines
  rw [checkLines_saturating, nets, taxes, grosses, List.forall_mem_map]
  simp only [Admissible, refundLine_quantity, refundLine_rate]
  exact ⟨fun all => ⟨all.1, all.2.2⟩, fun all => ⟨all.1, whole, all.2⟩⟩

/-- What the validator asks of a refund. -/
theorem validate_refund_iff {transaction : FiscalTransaction} (kind : transaction.kind = .refund) :
    transaction.validate = .ok () ↔ transaction.lines ≠ [] ∧ isIsoCurrency transaction.currency = true ∧
      FiscalTransaction.checkLines ⟨0, 0, 0⟩ transaction.lines =
        .ok ⟨transaction.netCents, transaction.taxCents, transaction.grossCents⟩ ∧
      wrappingSum (transaction.tenders.map FiscalTender.amountCents) = transaction.grossCents ∧
      transaction.grossCents < 0 := by
  have checked : transaction.checkKind = .ok () ↔ transaction.grossCents < 0 := by
    rw [FiscalTransaction.checkKind, kind]
    dsimp only
    split
    · exact iff_of_false (by simp) (by omega)
    · exact iff_of_true rfl (by omega)
  rw [validate_iff, checked]

/-- A return has a valid fiscal transaction over its total exactly when it is evident. -/
theorem refund_evidence_iff (tables : RefundTables) (snapshot : ReturnSnapshot) (now : Timestamp) (currency : String) :
    (refundTransaction tables snapshot now currency).validate = .ok () ∧
      (refundTransaction tables snapshot now currency).grossCents = -snapshot.row.totalCents ↔
        Evident tables currency snapshot := by
  obtain ⟨nets, taxes, grosses⟩ := refund_lines tables snapshot.lines
  rw [validate_refund_iff (by rw [refundTransaction])]
  simp only [refundTransaction, refund_checked, refund_tenders, nets, taxes, grosses, LineTotals.mk.injEq, ne_eq,
    List.map_eq_nil_iff]
  constructor
  · rintro ⟨⟨some, iso, ⟨admissible, net, tax, gross⟩, refunded, negative⟩, returned⟩
    exact ⟨iso, some, fun line member => (admissible line member).1, fun line member => (admissible line member).2,
      net.symm, tax.symm, gross.symm, returned, refunded.trans returned, by omega⟩
  · intro evident
    have negative : wrappingSum (snapshot.lines.map owedGross) < 0 := by
      have worth := evident.worth
      rw [evident.returned]
      omega
    have admissible := fun line member => And.intro (evident.quantities line member) (evident.rates line member)
    exact ⟨⟨evident.lines, evident.currency,
      ⟨admissible, evident.nets.symm, evident.taxes.symm, evident.grosses.symm⟩,
      evident.refunded.trans evident.returned.symm, negative⟩, evident.returned⟩

end Validation

/-! ### Returns whose books balance -/

/-- A return as the counter keeps it: the total is what its lines are worth, all of it is
refunded, and the amounts are of a size that money has. -/
structure Balanced (snapshot : ReturnSnapshot) : Prop where
  within : ∀ line ∈ snapshot.lines, line.taxInclusive = true → line.taxCents ≤ line.lineTotalCents
  total : (snapshot.lines.map ReturnLineRow.grossCents).sum = snapshot.row.totalCents
  refunded : (snapshot.refunds.map RefundRow.amountCents).sum = snapshot.row.totalCents
  fits : (snapshot.lines.map fun line => line.lineTotalCents + line.taxCents).sum < 2 ^ 63

section Books
variable {line : ReturnLineRow} {snapshot : ReturnSnapshot}

theorem owed_of_small {cents : Nat} (small : cents < 2 ^ 63) : owed cents = -cents := by
  rw [owed, asI64_of_small small, wrapI64_of_fits ⟨by omega, by omega⟩]

/-- A line owes its gross, part of it as tax. -/
theorem line_owed (within : line.taxInclusive = true → line.taxCents ≤ line.lineTotalCents)
    (fits : line.lineTotalCents + line.taxCents < 2 ^ 63) :
    owedTax line = -line.taxCents ∧ owedNet line = line.taxCents - line.grossCents ∧
      owedGross line = -line.grossCents ∧ line.taxCents ≤ line.grossCents := by
  have tax : owedTax line = -line.taxCents := owed_of_small (by omega)
  have price : owed line.lineTotalCents = -line.lineTotalCents := owed_of_small (by omega)
  have gross : line.grossCents =
      if line.taxInclusive then line.lineTotalCents else line.lineTotalCents + line.taxCents := by
    rw [ReturnLineRow.grossCents, saturatingAdd, Nat.min_eq_left (by dsimp only [u64Max]; omega)]
  have net : owedNet line = line.taxCents - line.grossCents := by
    rw [owedNet, Hub.netOf, price, tax, gross]
    split
    next inclusive =>
      have less := within inclusive
      rw [wrapI64_of_fits ⟨by omega, by omega⟩]
      omega
    next => omega
  have above : line.taxCents ≤ line.grossCents := by
    rw [gross]
    split
    next inclusive => exact within inclusive
    next => omega
  have small : line.grossCents < 2 ^ 63 := by
    rw [gross]
    split <;> omega
  refine ⟨tax, net, ?_, above⟩
  rw [owedGross, net, tax, saturateI64_of_fits ⟨by omega, by omega⟩]
  omega

theorem debts_sum {α : Type} {items : List α} {amount : α → Nat} {debt : α → Int}
    (owes : ∀ item ∈ items, debt item = -amount item) : (items.map debt).sum = -((items.map amount).sum : Nat) := by
  induction items with
  | nil => rfl
  | cons item items ih =>
    obtain ⟨first, others⟩ := List.forall_mem_cons.mp owes
    have rest := ih others
    simp only [List.map_cons, List.sum_cons]
    omega

/-- Debts of a size that money has add up to what is owed. -/
theorem debts_add_up {α : Type} {items : List α} {amount : α → Nat} {debt : α → Int}
    (owes : ∀ item ∈ items, debt item = -amount item) (fits : (items.map amount).sum < 2 ^ 63) :
    Steady (items.map debt) ∧ wrappingSum (items.map debt) = -((items.map amount).sum : Nat) := by
  have sum := debts_sum owes
  refine ⟨steady_of_debts ?_ (by omega), ?_⟩
  · intro term member
    obtain ⟨item, present, rfl⟩ := List.mem_map.mp member
    rw [owes item present]
    omega
  · rw [wrappingSum_of_fits ⟨by omega, by omega⟩, sum]

theorem each_fits (balanced : Balanced snapshot) :
    ∀ line ∈ snapshot.lines, line.lineTotalCents + line.taxCents < 2 ^ 63 := by
  intro line member
  have part := List.single_le_sum (fun _ _ => Nat.zero_le _) _
    (List.mem_map_of_mem (f := fun line => line.lineTotalCents + line.taxCents) member)
  exact Nat.lt_of_le_of_lt part balanced.fits

theorem total_small (balanced : Balanced snapshot) : snapshot.row.totalCents < 2 ^ 63 := by
  rw [← balanced.total]
  refine Nat.lt_of_le_of_lt (List.sum_le_sum fun line member => ?_) balanced.fits
  rw [ReturnLineRow.grossCents, saturatingAdd]
  split <;> omega

/-- Of a return whose books balance there is evidence when it is worth something and its lines
are admissible; the sums are never in the way. -/
theorem balanced_evidence_iff (balanced : Balanced snapshot) (tables : RefundTables) (now : Timestamp)
    (currency : String) :
    (refundTransaction tables snapshot now currency).validate = .ok () ↔
      isIsoCurrency currency.toUpper = true ∧ 0 < snapshot.row.totalCents ∧
        ∀ line ∈ snapshot.lines, 0 < line.quantity ∧ (taxInfoForSku tables line.sku).1 ≤ 10000 := by
  have small := total_small balanced
  have owes := fun line member => line_owed (balanced.within line member) (each_fits balanced line member)
  have below {amount : ReturnLineRow → Nat} (part : ∀ line ∈ snapshot.lines, amount line ≤ line.grossCents) :
      (snapshot.lines.map amount).sum < 2 ^ 63 := by
    refine Nat.lt_of_le_of_lt (List.sum_le_sum part) ?_
    rwa [balanced.total]
  have grosses := debts_add_up (fun line member => (owes line member).2.2.1) (below fun _ _ => le_refl _)
  have taxes := debts_add_up (fun line member => (owes line member).1)
    (below fun line member => (owes line member).2.2.2)
  have net : ∀ line ∈ snapshot.lines, owedNet line = -(line.grossCents - line.taxCents : Nat) := by
    intro line member
    have whole := owes line member
    omega
  have nets := debts_add_up net (below fun _ _ => Nat.sub_le _ _)
  have tenders : ∀ refund ∈ snapshot.refunds, owed refund.amountCents = -refund.amountCents := by
    intro refund member
    have part := List.single_le_sum (fun _ _ => Nat.zero_le _) _
      (List.mem_map_of_mem (f := RefundRow.amountCents) member)
    rw [balanced.refunded] at part
    exact owed_of_small (by omega)
  have refunded := (debts_add_up tenders (by rwa [balanced.refunded])).2
  obtain ⟨netted, taxed, grossed⟩ := refund_lines tables snapshot.lines
  rw [validate_refund_iff (by rw [refundTransaction])]
  simp only [refundTransaction, refund_checked, refund_tenders, netted, taxed, grossed, LineTotals.mk.injEq, ne_eq,
    List.map_eq_nil_iff]
  rw [nets.1, taxes.1, grosses.1, grosses.2, refunded, balanced.total, balanced.refunded]
  constructor
  · rintro ⟨-, iso, ⟨admissible, -⟩, -, worth⟩
    exact ⟨iso, by omega, admissible⟩
  · rintro ⟨iso, worth, admissible⟩
    refine ⟨fun empty => ?_, iso, ⟨admissible, rfl, rfl, rfl⟩, rfl, by omega⟩
    have total := balanced.total
    rw [empty] at total
    exact absurd total (Nat.ne_of_lt worth)

end Books

section Returned

def shopRefunds : RefundTables := ⟨[], fun _ => none⟩

/-- One unit taken back for so much. -/
def takenBack (state : ReturnState) (cents : Nat) (refunds : List RefundRow) : ReturnSnapshot :=
  let started := NewReturn.row ⟨.random 1, .random 2, .random 3, none, some (.random 4), none, none⟩
  { row := { started with
      state := state, totalCents := cents, refundedCents := (refunds.map RefundRow.amountCents).sum }
    lines := [⟨.random 5, .random 1, some (.random 6), "SKU-1", "Widget", 1, cents, cents, 0, false⟩]
    refunds := refunds }

/-- A free unit can be finalized from its lines, and the refund of nothing is refused. -/
theorem free_return_has_no_evidence :
    (takenBack .items 0 []).row.canFinalize = true ∧
      (refundTransaction shopRefunds (takenBack .items 0 []) 0 "usd").validate =
        .error (invalid "a refund must have a negative gross total") := by decide +kernel

theorem paid_return_has_evidence : (refundTransaction shopRefunds
    (takenBack .paid 500 [⟨.random 7, .random 1, "cash", 500, none⟩]) 0 "usd").validate = .ok () :=
  (balanced_evidence_iff ⟨by decide, rfl, rfl, by decide⟩ _ _ _).mpr (by decide +kernel)

end Returned
end ApexEdge.Proofs.RefundEvidence
