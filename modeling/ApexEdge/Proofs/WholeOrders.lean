import ApexEdge.Library.Totals
import ApexEdge.Proofs.ReceiptedReturns

/-! What an order's lines come to, and returning a whole order, in parts and in any order. Every part is accepted, and what
has been given back of a line is always its price for the units taken; so in the end the
returns come to the order's own total and tax. -/

namespace ApexEdge.Proofs.WholeOrders
open Library Payment Domain Storage Contracts Hub
open Entitlements ReceiptedReturns

/-- Tax on top of the price. -/
def exclusiveTaxCents (line : NewOrderLineEntry) : Nat := if line.taxInclusive then 0 else line.taxCents

/-- Discounts stay within what they are taken off, and the amounts fit the ledger's
signed columns. -/
structure Payable (entry : NewOrderLedgerEntry) (couponCents : Nat) : Prop where
  covered : ∀ line ∈ entry.lines, line.discountCents ≤ line.lineTotalCents
  coupons : couponCents ≤ (entry.lines.map fun line => line.lineTotalCents - line.discountCents).sum
  discount : entry.discountCents = (entry.lines.map NewOrderLineEntry.discountCents).sum + couponCents
  fits : (entry.lines.map fun line => line.lineTotalCents + line.taxCents).sum < 2 ^ 63

/-- The net of all lines, and of those before one. -/
def netCents (entry : NewOrderLedgerEntry) : Int := (entry.lines.map Returns.netOf).sum

def netBefore (rank : Uuid → Nat) (entry : NewOrderLedgerEntry) (line : NewOrderLineEntry) : Int :=
  Table.totalBefore (fun line => rank line.lineId) Returns.netOf entry.lines line

section Shares
variable {rank : Uuid → Nat} {entry : NewOrderLedgerEntry} {line : NewOrderLineEntry} {couponCents : Nat}

theorem line_fits (payable : Payable entry couponCents) (listed : line ∈ entry.lines) :
    line.lineTotalCents + line.taxCents < 2 ^ 63 :=
  lt_of_le_of_lt (List.single_le_sum (fun _ _ => Nat.zero_le _) _ (List.mem_map.mpr ⟨line, listed, rfl⟩)) payable.fits

theorem netOf_eq (payable : Payable entry couponCents) (listed : line ∈ entry.lines) :
    Returns.netOf line = (line.lineTotalCents - line.discountCents : Nat) := by
  have fits := line_fits payable listed
  have covered := payable.covered line listed
  unfold Returns.netOf
  rw [asI64_of_small (by omega), asI64_of_small (by omega)]
  omega

theorem netCents_eq (payable : Payable entry couponCents) :
    netCents entry = ((entry.lines.map fun line => line.lineTotalCents - line.discountCents).sum : Nat) := by
  unfold netCents
  rw [List.map_congr_left fun line listed => netOf_eq payable listed]
  generalize entry.lines = lines
  induction lines with
  | nil => rfl
  | cons line lines ih => simp [ih]

theorem netCents_fits (payable : Payable entry couponCents) : netCents entry < 2 ^ 63 := by
  have fits := payable.fits
  have less : (entry.lines.map fun line => line.lineTotalCents - line.discountCents).sum ≤
      (entry.lines.map fun line => line.lineTotalCents + line.taxCents).sum :=
    List.sum_le_sum fun line _ => by omega
  rw [netCents_eq payable]
  exact_mod_cast lt_of_le_of_lt less fits

theorem netOf_nonneg (payable : Payable entry couponCents) : ∀ term ∈ entry.lines.map Returns.netOf, 0 ≤ term := by
  intro term member
  obtain ⟨line, listed, rfl⟩ := List.mem_map.mp member
  rw [netOf_eq payable listed]
  exact Int.natCast_nonneg _

theorem before_bounds (rank : Uuid → Nat) (payable : Payable entry couponCents) (listed : line ∈ entry.lines) :
    0 ≤ netBefore rank entry line ∧ netBefore rank entry line + Returns.netOf line ≤ netCents entry := by
  have nonneg : ∀ line ∈ entry.lines, 0 ≤ Returns.netOf line :=
    fun line listed => netOf_nonneg payable _ (List.mem_map_of_mem listed)
  exact ⟨Table.total_nonneg nonneg, Table.total_add_le nonneg listed (by simp)⟩

/-- The running discount: what falls on so much of the basket. -/
def discountUpTo (entry : NewOrderLedgerEntry) (couponCents : Nat) (net : Int) : Int :=
  proportion couponCents net (netCents entry)

/-- A line's own part of the basket discount. -/
def shareOf (rank : Uuid → Nat) (entry : NewOrderLedgerEntry) (couponCents : Nat) (line : NewOrderLineEntry) : Int :=
  discountUpTo entry couponCents (netBefore rank entry line + Returns.netOf line) -
    discountUpTo entry couponCents (netBefore rank entry line)

theorem share_bounds (rank : Uuid → Nat) (payable : Payable entry couponCents) (listed : line ∈ entry.lines) :
    0 ≤ shareOf rank entry couponCents line ∧ shareOf rank entry couponCents line ≤ Returns.netOf line := by
  obtain ⟨start, within⟩ := before_bounds rank payable listed
  have net := netOf_nonneg payable _ (List.mem_map_of_mem listed)
  have top := netCents_fits payable
  have coupons := payable.coupons
  have whole := netCents_eq payable
  have small : FitsI64 couponCents := by unfold FitsI64; omega
  have low := proportion_mono (Int.natCast_nonneg couponCents) small start (Int.le_add_of_nonneg_right net) within
  have range : FitsI64 (netCents entry) := by unfold FitsI64; omega
  have high := proportion_step (Int.natCast_nonneg couponCents) range (by omega) start net within
  unfold shareOf discountUpTo
  omega

/-- What the basket was discounted by beyond its lines. -/
private theorem extra_eq {total discounts coupons : Nat} {net : Int} (same : total = discounts + coupons)
    (fits : total < 2 ^ 63) (within : coupons ≤ net) :
    min (max (saturateI64 (asI64 total - discounts)) 0) (max net 0) = coupons := by
  rw [asI64_of_small fits, saturateI64_of_fits (by unfold FitsI64; omega)]
  omega

private theorem saturated_eq {amount : Int} (nonneg : 0 ≤ amount) (fits : amount < 2 ^ 63) :
    max (saturateI64 amount) 0 = amount := by
  rw [saturateI64_of_fits (by unfold FitsI64; omega)]
  omega

private theorem basketShare_eq {extra before base net : Int} (start : 0 ≤ before) (nonneg : 0 ≤ base)
    (within : before + base ≤ net) (fits : net < 2 ^ 63)
    (bounds : 0 ≤ proportion extra (before + base) net - proportion extra before net ∧
      proportion extra (before + base) net - proportion extra before net ≤ base) :
    Returns.basketShare extra before base net = proportion extra (before + base) net - proportion extra before net := by
  have range : FitsI64 (before + base) := by unfold FitsI64; omega
  unfold Returns.basketShare
  rw [wrapI64_of_fits range]
  generalize proportion extra (before + base) net - proportion extra before net = share at bounds ⊢
  exact wrapI64_of_fits (by unfold FitsI64; omega)

/-- All units of a line have cost its net, less its share of the basket discount. -/
theorem paidFor_eq (payable : Payable entry couponCents) (listed : line ∈ entry.lines) :
    Returns.paidFor rank entry line = .ok (Returns.netOf line - shareOf rank entry couponCents line) := by
  obtain ⟨start, within⟩ := before_bounds rank payable listed
  obtain ⟨gains, covered⟩ := share_bounds rank payable listed
  have top := netCents_fits payable
  have net := netOf_nonneg payable _ (List.mem_map_of_mem listed)
  have summed : Returns.sumColumn (entry.lines.map Returns.netOf) = .ok (netCents entry) := by
    unfold Returns.sumColumn
    rw [sumI64_of_small (netOf_nonneg payable) top]
    rfl
  have before : Returns.sumColumn (Returns.netBefore rank entry line) = .ok (netBefore rank entry line) := by
    have positive : ∀ term ∈ Returns.netBefore rank entry line, 0 ≤ term := by
      intro term member
      obtain ⟨other, counted, rfl⟩ := List.mem_map.mp member
      exact netOf_nonneg payable _ (List.mem_map_of_mem (List.mem_of_mem_filter counted))
    have small : (Returns.netBefore rank entry line).sum < 2 ^ 63 := by
      show netBefore rank entry line < 2 ^ 63
      omega
    unfold Returns.sumColumn
    rw [sumI64_of_small positive small]
    rfl
  have less : (entry.lines.map NewOrderLineEntry.discountCents).sum ≤
      (entry.lines.map fun line => line.lineTotalCents).sum :=
    List.sum_le_sum fun line listed => payable.covered line listed
  have most : (entry.lines.map fun line => line.lineTotalCents).sum ≤
      (entry.lines.map fun line => line.lineTotalCents + line.taxCents).sum :=
    List.sum_le_sum fun line _ => Nat.le_add_right _ _
  have split : (entry.lines.map NewOrderLineEntry.discountCents).sum +
      (entry.lines.map fun line => line.lineTotalCents - line.discountCents).sum =
        (entry.lines.map fun line => line.lineTotalCents).sum := by
    rw [← List.sum_map_add]
    exact congrArg List.sum (List.map_congr_left fun line listed => by have := payable.covered line listed; omega)
  have fits := payable.fits
  have coupons := payable.coupons
  have discounts : Returns.sumColumn (entry.lines.map fun line => asI64 line.discountCents) =
      .ok ((entry.lines.map NewOrderLineEntry.discountCents).sum : Nat) :=
    sumColumn_eq NewOrderLineEntry.discountCents (by omega)
  have total := payable.discount
  have whole := netCents_eq payable
  unfold Returns.paidFor
  rw [summed, discounts, before]
  simp only [bind, Except.bind, pure, Except.pure]
  rw [extra_eq total (by omega) (by omega), saturated_eq net (by omega), basketShare_eq start net within top ⟨gains, covered⟩]
  have paid : 0 ≤ Returns.netOf line - shareOf rank entry couponCents line := by omega
  have small : Returns.netOf line - shareOf rank entry couponCents line < 2 ^ 63 := by omega
  exact congrArg Except.ok (saturated_eq paid small)

theorem paidCents_eq (payable : Payable entry couponCents) (listed : line ∈ entry.lines) :
    paidCents rank entry line = Returns.netOf line - shareOf rank entry couponCents line := by
  unfold paidCents
  rw [paidFor_eq payable listed, Except.toOption, Option.getD_some]

/-- The shares are the whole basket discount. -/
theorem shares_sum (payable : Payable entry couponCents) (distinct : (entry.lines.map fun line => rank line.lineId).Nodup) :
    (entry.lines.map (shareOf rank entry couponCents)).sum = couponCents := by
  have whole := netCents_eq payable
  have coupons := payable.coupons
  have top := netCents_fits payable
  refine (Table.telescopes distinct (discountUpTo entry couponCents)).trans ?_
  show proportion couponCents (netCents entry) (netCents entry) - proportion couponCents 0 (netCents entry) = couponCents
  by_cases some : 0 < netCents entry
  · have small : FitsI64 couponCents := by unfold FitsI64; omega
    rw [proportion_whole some small, proportion_eq some small le_rfl some.le]
    simp
  · unfold proportion
    rw [if_pos (by omega), if_pos (by omega)]
    omega

/-- What all lines have cost together. -/
theorem paid_sum (payable : Payable entry couponCents) (distinct : (entry.lines.map fun line => rank line.lineId).Nodup) :
    (entry.lines.map (paidCents rank entry)).sum = netCents entry - couponCents := by
  have split : (entry.lines.map (paidCents rank entry)).sum + (entry.lines.map (shareOf rank entry couponCents)).sum =
      netCents entry := by
    rw [← List.sum_map_add]
    refine congrArg List.sum (List.map_congr_left fun line listed => ?_)
    rw [paidCents_eq payable listed, Int.sub_add_cancel]
  rw [shares_sum payable distinct] at split
  rw [← split, Int.add_sub_cancel]

end Shares

/-- What a line of a return gives back, tax included. -/
def givenBack (line : ReturnLineRow) : Nat := line.lineTotalCents + if line.taxInclusive then 0 else line.taxCents

/-- The lines that were taken back of the order's lines. -/
def takenOf (entry : NewOrderLedgerEntry) (tables : ReturnTables) : List ReturnLineRow :=
  tables.returnLines.filter fun line => entry.lines.any fun sale => line.originalLineId = some sale.lineId

def takenOfLine (sale : NewOrderLineEntry) (tables : ReturnTables) : List ReturnLineRow :=
  tables.returnLines.filter fun line => line.originalLineId = some sale.lineId

def returnsOf (orderId : Uuid) (tables : ReturnTables) : List ReturnRow :=
  tables.returns.filter (·.originalOrderId = some orderId)

/-- The header of a return that takes lines agrees with the lines it has. -/
structure HeaderAgrees (tables : ReturnTables) (row : ReturnRow) : Prop where
  accepts : row.state = .open ∨ row.state = .items
  total : row.totalCents = ((Returns.lines row.id tables).map givenBack).sum
  tax : row.taxCents = ((Returns.lines row.id tables).map ReturnLineRow.taxCents).sum

/-- The lines taken of a sale give back exactly their part of its price and tax. -/
structure Level (rank : Uuid → Nat) (entry : NewOrderLedgerEntry) (sale : NewOrderLineEntry)
    (lines : List ReturnLineRow) : Prop where
  quantity : quantityOf lines ≤ sale.quantity
  cents : (centsOf lines : Int) = proportion (paidCents rank entry sale) (quantityOf lines) sale.quantity
  tax : (taxOf lines : Int) = proportion sale.taxCents (quantityOf lines) sale.quantity
  inclusive : ∀ line ∈ lines, line.taxInclusive = sale.taxInclusive

/-- The returns of an order while it is being returned. -/
structure Returning (rank : Uuid → Nat) (orders : List NewOrderLedgerEntry) (entry : NewOrderLedgerEntry)
    (tables : ReturnTables) : Prop where
  sound : Sound rank orders tables
  rooted : ∀ line ∈ takenOf entry tables, ∃ row ∈ returnsOf entry.orderId tables, row.id = line.returnId
  confined : ∀ row ∈ returnsOf entry.orderId tables, ∀ line ∈ Returns.lines row.id tables, line ∈ takenOf entry tables
  headers : ∀ row ∈ returnsOf entry.orderId tables, HeaderAgrees tables row
  level : ∀ sale ∈ entry.lines, Level rank entry sale (takenOfLine sale tables)

section Totals
variable {rank : Uuid → Nat} {orders : List NewOrderLedgerEntry} {entry : NewOrderLedgerEntry} {tables : ReturnTables}
  {couponCents : Nat}

theorem mem_takenOf {line : ReturnLineRow} : line ∈ takenOf entry tables ↔
    line ∈ tables.returnLines ∧ ∃ sale ∈ entry.lines, line.originalLineId = some sale.lineId := by
  simp [takenOf]

theorem mem_takenOfLine {sale : NewOrderLineEntry} {line : ReturnLineRow} : line ∈ takenOfLine sale tables ↔
    line ∈ tables.returnLines ∧ line.originalLineId = some sale.lineId := by
  simp [takenOfLine]

/-- All returns of the order are active. -/
theorem activeLines_eq (returning : Returning rank orders entry tables) {sale : NewOrderLineEntry}
    (listed : sale ∈ entry.lines) : Returns.activeLines sale.lineId tables = takenOfLine sale tables := by
  refine List.filter_congr fun line member => ?_
  rw [Bool.eq_iff_iff]
  simp only [decide_eq_true_eq, and_iff_left_iff_imp]
  intro names
  obtain ⟨row, mine, own⟩ := returning.rooted line (mem_takenOf.mpr ⟨member, sale, listed, names⟩)
  have live : row.state ≠ .voided := by
    rcases (returning.headers row mine).accepts with is | is <;> simp [is]
  exact List.any_eq_true.mpr ⟨row, List.mem_of_mem_filter mine, decide_eq_true ⟨own, decide_eq_true (.inl live)⟩⟩

theorem ids_nodup (keyed : Keyed orders) (stored : entry ∈ orders) :
    (entry.lines.map fun sale => some sale.lineId).Nodup := by
  have all : (entry.lines.map fun sale => sale.lineId).Nodup := by
    refine List.Nodup.sublist ?_ keyed
    have part : (entry.lines.map (entry, ·)).Sublist (sales orders) := by
      unfold sales
      exact List.sublist_flatten_of_mem (List.mem_map.mpr ⟨entry, stored, rfl⟩)
    simpa [Function.comp_def] using part.map fun sale => sale.2.lineId
  have lifted := all.map (Option.some_injective Uuid)
  rwa [List.map_map] at lifted

/-- An amount over what was taken, line of the order by line of the order. -/
theorem sum_takenOf (keyed : Keyed orders) (stored : entry ∈ orders) (amount : ReturnLineRow → Nat) :
    ((takenOf entry tables).map amount).sum =
      (entry.lines.map fun sale => ((takenOfLine sale tables).map amount).sum).sum := by
  have named : ∀ line ∈ takenOf entry tables, line.originalLineId ∈ entry.lines.map fun sale => some sale.lineId := by
    intro line member
    obtain ⟨_, sale, listed, names⟩ := mem_takenOf.mp member
    exact List.mem_map.mpr ⟨sale, listed, names.symm⟩
  rw [← Table.sum_by_key (ids_nodup keyed stored) named, List.map_map]
  refine congrArg List.sum (List.map_congr_left fun sale listed => ?_)
  simp only [Function.comp_apply, takenOf, takenOfLine, List.filter_filter]
  refine congrArg (fun lines => (List.map amount lines).sum) (List.filter_congr fun line _ => ?_)
  rw [Bool.eq_iff_iff]
  simp only [Bool.and_eq_true, decide_eq_true_eq, List.any_eq_true, and_iff_left_iff_imp]
  exact fun names => ⟨sale, listed, names⟩

theorem paidCents_le (rank : Uuid → Nat) (payable : Payable entry couponCents) {sale : NewOrderLineEntry} (listed : sale ∈ entry.lines) :
    paidCents rank entry sale ≤ sale.lineTotalCents := by
  have share := share_bounds rank payable listed
  have net := netOf_eq payable listed
  rw [paidCents_eq payable listed]
  generalize shareOf rank entry couponCents sale = part at share ⊢
  omega

theorem givenBack_split {sale : NewOrderLineEntry} {lines : List ReturnLineRow} (level : Level rank entry sale lines) :
    (lines.map givenBack).sum = centsOf lines + if sale.taxInclusive then 0 else taxOf lines := by
  have inclusive := level.inclusive
  clear level
  induction lines with
  | nil => simp [centsOf, taxOf]
  | cons line lines ih =>
    have rest := ih fun other member => inclusive other (List.mem_cons_of_mem line member)
    have mine := inclusive line List.mem_cons_self
    simp only [centsOf, taxOf, List.map_cons, List.sum_cons, givenBack, mine] at rest ⊢
    rw [rest]
    split <;> omega

theorem sale_small (rank : Uuid → Nat) (payable : Payable entry couponCents) {sale : NewOrderLineEntry} (listed : sale ∈ entry.lines) :
    FitsI64 (paidCents rank entry sale) ∧ FitsI64 sale.taxCents := by
  have fits := line_fits payable listed
  have most := paidCents_le rank payable listed
  have least := paidCents_nonneg rank entry sale
  unfold FitsI64
  omega

theorem part_bounds {total units sold : Int} (nonneg : 0 ≤ total) (fits : FitsI64 total) (start : 0 ≤ units)
    (within : units ≤ sold) : 0 ≤ proportion total units sold ∧ proportion total units sold ≤ total := by
  by_cases some : 0 < sold
  · exact proportion_bounds nonneg fits some start within
  · unfold proportion
    rw [if_pos (by omega)]
    exact ⟨le_rfl, nonneg⟩

/-- What is taken of a line gives back no more than the line's amounts. -/
theorem givenBack_le (payable : Payable entry couponCents) {sale : NewOrderLineEntry} (listed : sale ∈ entry.lines)
    {lines : List ReturnLineRow} (level : Level rank entry sale lines) :
    (lines.map givenBack).sum ≤ sale.lineTotalCents + sale.taxCents := by
  obtain ⟨paid, tax⟩ := sale_small rank payable listed
  have within : (quantityOf lines : Int) ≤ sale.quantity := by exact_mod_cast level.quantity
  have cents := part_bounds (paidCents_nonneg rank entry sale) paid (Int.natCast_nonneg _) within
  have taxes := part_bounds (Int.natCast_nonneg sale.taxCents) tax (Int.natCast_nonneg _) within
  rw [← level.cents] at cents
  rw [← level.tax] at taxes
  have most := paidCents_le rank payable listed
  rw [givenBack_split level]
  split <;> omega

/-- Whatever is returned of the order fits the ledger's columns. -/
theorem takenOf_fits (payable : Payable entry couponCents) (keyed : Keyed orders) (stored : entry ∈ orders)
    (level : ∀ sale ∈ entry.lines, Level rank entry sale (takenOfLine sale tables)) :
    ((takenOf entry tables).map givenBack).sum < 2 ^ 63 := by
  rw [sum_takenOf keyed stored]
  refine lt_of_le_of_lt (List.sum_le_sum fun sale listed => ?_) payable.fits
  exact givenBack_le payable listed (level sale listed)

theorem taxes_fit (payable : Payable entry couponCents) (keyed : Keyed orders) (stored : entry ∈ orders)
    (level : ∀ sale ∈ entry.lines, Level rank entry sale (takenOfLine sale tables)) :
    ((takenOf entry tables).map ReturnLineRow.taxCents).sum < 2 ^ 63 := by
  rw [sum_takenOf keyed stored]
  refine lt_of_le_of_lt (List.sum_le_sum fun sale listed => ?_) payable.fits
  have here := level sale listed
  have within : (quantityOf (takenOfLine sale tables) : Int) ≤ sale.quantity := by exact_mod_cast here.quantity
  have taxes := part_bounds (Int.natCast_nonneg sale.taxCents) (sale_small rank payable listed).2
    (Int.natCast_nonneg _) within
  rw [← here.tax] at taxes
  unfold taxOf at taxes
  omega

end Totals

section Steps
variable {rank : Uuid → Nat} {orders : List NewOrderLedgerEntry} {entry : NewOrderLedgerEntry} {tables after : ReturnTables}
  {couponCents : Nat} {sale : NewOrderLineEntry} {lines : List ReturnLineRow}

/-- The next units of a line cost no less than nothing, so they can be awarded. -/
theorem award_works (payable : Payable entry couponCents) (listed : sale ∈ entry.lines) (level : Level rank entry sale lines)
    {quantity : Nat} (typed : sale.quantity < 2 ^ 63) (left : quantityOf lines + quantity ≤ sale.quantity) :
    ∃ amount tax : Nat,
      Returns.award sale (paidCents rank entry sale) (quantityOf lines + quantity : Nat)
          ⟨quantityOf lines, centsOf lines, taxOf lines⟩ = .ok (amount, tax) ∧
        (centsOf lines : Int) + amount =
          proportion (paidCents rank entry sale) (quantityOf lines + quantity : Nat) sale.quantity ∧
        (taxOf lines : Int) + tax = proportion sale.taxCents (quantityOf lines + quantity : Nat) sale.quantity := by
  obtain ⟨paid, tax⟩ := sale_small rank payable listed
  have fits := line_fits payable listed
  have more : (quantityOf lines : Int) ≤ (quantityOf lines + quantity : Nat) := by omega
  have within : ((quantityOf lines + quantity : Nat) : Int) ≤ sale.quantity := by exact_mod_cast left
  have cents := proportion_mono (paidCents_nonneg rank entry sale) paid (Int.natCast_nonneg _) more within
  have taxes := proportion_mono (Int.natCast_nonneg sale.taxCents) tax (Int.natCast_nonneg _) more within
  have centsTop := part_bounds (paidCents_nonneg rank entry sale) paid (by omega) within
  have taxesTop := part_bounds (Int.natCast_nonneg sale.taxCents) tax (by omega) within
  rw [← level.cents] at cents
  rw [← level.tax] at taxes
  unfold Returns.award
  rw [asI64_of_small typed, asI64_of_small (by omega)]
  dsimp only
  generalize proportion (paidCents rank entry sale) (quantityOf lines + quantity : Nat) sale.quantity = due at cents centsTop ⊢
  generalize proportion sale.taxCents (quantityOf lines + quantity : Nat) sale.quantity = taxDue at taxes taxesTop ⊢
  rw [wrapI64_of_fits (by unfold FitsI64 at *; omega), wrapI64_of_fits (by unfold FitsI64 at *; omega), if_neg (by omega)]
  exact ⟨_, _, rfl, by omega, by omega⟩

/-- The line that a sale is priced into is level with the others. -/
theorem level_append (level : Level rank entry sale lines) {line : ReturnLineRow}
    (left : quantityOf lines + line.quantity ≤ sale.quantity)
    (cents : (centsOf lines : Int) + line.lineTotalCents =
      proportion (paidCents rank entry sale) (quantityOf lines + line.quantity : Nat) sale.quantity)
    (tax : (taxOf lines : Int) + line.taxCents =
      proportion sale.taxCents (quantityOf lines + line.quantity : Nat) sale.quantity)
    (same : line.taxInclusive = sale.taxInclusive) : Level rank entry sale (lines ++ [line]) where
  quantity := by rw [quantityOf_append]; exact left
  cents := by rw [centsOf_append, quantityOf_append, ← cents, Nat.cast_add]
  tax := by rw [taxOf_append, quantityOf_append, ← tax, Nat.cast_add]
  inclusive other member := by
    rcases List.mem_append.mp member with old | new
    · exact level.inclusive other old
    · exact (List.mem_singleton.mp new) ▸ same

/-- Where returns are and what they go back to; no line that is added changes it. -/
def places (tables : ReturnTables) : List (Uuid × Uuid × Option Uuid) :=
  tables.returns.map fun row => (row.id, row.storeId, row.originalOrderId)

/-- The lines of an order that can be meant by a line id, or else by a SKU. -/
def meant (entry : NewOrderLedgerEntry) (originalLineId : Option Uuid) (sku : String) : List NewOrderLineEntry :=
  entry.lines.filter fun line => originalLineId = some line.lineId ∨ originalLineId = none ∧ line.sku = sku

/-- Units of one line of the order are put on a return of the order. -/
structure TakesBack (entry : NewOrderLedgerEntry) (tables : ReturnTables) (input : ReturnLineRow)
    (sale : NewOrderLineEntry) : Prop where
  positive : 0 < input.quantity
  onReturn : (input.returnId, entry.storeId, some entry.orderId) ∈ places tables
  names : meant entry input.originalLineId input.sku = [sale]
  sku : sale.sku = input.sku

theorem TakesBack.listed {input : ReturnLineRow} (takes : TakesBack entry tables input sale) : sale ∈ entry.lines := by
  have member : sale ∈ [sale] := List.mem_singleton_self _
  rw [← takes.names] at member
  exact List.mem_of_mem_filter member

/-- A return that takes lines finds the line that is meant. -/
theorem original_found {input : ReturnLineRow} (orderIds : (orders.map NewOrderLedgerEntry.orderId).Nodup)
    (stored : entry ∈ orders) (unique : (tables.returns.map ReturnRow.id).Nodup)
    (accepting : ∀ row ∈ tables.returns, row.id = input.returnId → row.state = .open ∨ row.state = .items)
    (takes : TakesBack entry tables input sale) : Returns.original orders input tables = .ok (entry, sale) := by
  obtain ⟨row, present, place⟩ := List.mem_map.mp takes.onReturn
  obtain ⟨own, store, back⟩ : row.id = input.returnId ∧ row.storeId = entry.storeId ∧
      row.originalOrderId = some entry.orderId := by simpa using place
  have accepts := accepting row present own
  have one : tables.returns.filter (·.id = input.returnId) = [row] := by
    rw [← own]
    exact Table.filter_key unique present
  have order : orders.filter (fun order => row.originalOrderId = some order.orderId ∧ order.storeId = row.storeId) =
      [entry] := by
    have same : orders.filter (fun order => row.originalOrderId = some order.orderId ∧ order.storeId = row.storeId) =
        (orders.filter (·.orderId = entry.orderId)).filter (·.storeId = row.storeId) := by
      rw [List.filter_filter, back]
      refine List.filter_congr fun order _ => ?_
      rw [Bool.eq_iff_iff]
      simp only [Option.some.injEq, decide_eq_true_eq, Bool.and_eq_true]
      tauto
    rw [same, Table.filter_key orderIds stored]
    simp [store]
  have names := takes.names
  unfold meant at names
  unfold Returns.original
  dsimp only
  rw [one, if_neg (by simp [accepts])]
  simp only [List.flatMap_cons, List.flatMap_nil, List.append_nil, order, names, List.map_cons, List.map_nil,
    takes.sku, if_true]

theorem original_works {input : ReturnLineRow} (orderIds : (orders.map NewOrderLedgerEntry.orderId).Nodup)
    (stored : entry ∈ orders) (returning : Returning rank orders entry tables)
    (takes : TakesBack entry tables input sale) : Returns.original orders input tables = .ok (entry, sale) := by
  refine original_found orderIds stored returning.sound.unique ?_ takes
  intro row present own
  obtain ⟨other, too, place⟩ := List.mem_map.mp takes.onReturn
  obtain ⟨same, _, back⟩ : other.id = input.returnId ∧ other.storeId = entry.storeId ∧
      other.originalOrderId = some entry.orderId := by simpa using place
  obtain rfl := List.inj_on_of_nodup_map returning.sound.unique too present (same.trans own.symm)
  exact (returning.headers other (List.mem_filter.mpr ⟨too, decide_eq_true back⟩)).accepts

theorem terms_sum (lines : List ReturnLineRow) (fits : (lines.map givenBack).sum < 2 ^ 63)
    (taxes : (lines.map ReturnLineRow.taxCents).sum < 2 ^ 63) :
    Returns.sumColumn (lines.map fun line =>
        asI64 line.lineTotalCents + if line.taxInclusive then 0 else asI64 line.taxCents) =
      .ok ((lines.map givenBack).sum : Nat) := by
  have each : ∀ line ∈ lines, (asI64 line.lineTotalCents + if line.taxInclusive then 0 else asI64 line.taxCents) =
      (givenBack line : Nat) := by
    intro line member
    have part : givenBack line ≤ (lines.map givenBack).sum :=
      List.single_le_sum (fun _ _ => Nat.zero_le _) _ (List.mem_map_of_mem member)
    have tax : line.taxCents ≤ (lines.map ReturnLineRow.taxCents).sum :=
      List.single_le_sum (fun _ _ => Nat.zero_le _) _ (List.mem_map_of_mem member)
    have unfolded : givenBack line = line.lineTotalCents + if line.taxInclusive then 0 else line.taxCents := rfl
    rw [asI64_of_small (by omega), asI64_of_small (by omega), unfolded]
    split <;> simp
  rw [List.map_congr_left each]
  have positive : ∀ term ∈ lines.map fun line => (givenBack line : Int), 0 ≤ term := by
    intro term member
    obtain ⟨line, _, rfl⟩ := List.mem_map.mp member
    exact Int.natCast_nonneg _
  have total := Table.cast_sum givenBack lines
  unfold Returns.sumColumn
  rw [sumI64_of_small positive (by rw [total]; exact_mod_cast fits), total]

/-- The header of a return is brought up to date with its lines. -/
theorem refreshHeader_works {returnId : Uuid}
    (fits : ((Returns.lines returnId tables).map givenBack).sum < 2 ^ 63)
    (taxes : ((Returns.lines returnId tables).map ReturnLineRow.taxCents).sum < 2 ^ 63) :
    let update : Table.Update ReturnRow :=
      { selects := (·.id = returnId)
        set := fun row =>
          { row with
            totalCents := ((Returns.lines returnId tables).map givenBack).sum
            taxCents := ((Returns.lines returnId tables).map ReturnLineRow.taxCents).sum
            state := .items } }
    Returns.refreshHeader returnId tables = .ok { tables with returns := update.run tables.returns } := by
  unfold Returns.refreshHeader
  dsimp only
  rw [terms_sum _ fits taxes, sumColumn_eq ReturnLineRow.taxCents taxes]
  rfl

theorem places_update {update : Table.Update ReturnRow} (ran : after.returns = update.run tables.returns)
    (keeps : ∀ row, (update.set row).id = row.id ∧ (update.set row).storeId = row.storeId ∧
      (update.set row).originalOrderId = row.originalOrderId) : places after = places tables := by
  unfold places
  rw [ran, Table.Update.run, List.map_map]
  refine List.map_congr_left fun row _ => ?_
  simp only [Function.comp_apply, update.row_column ReturnRow.id fun row => (keeps row).1,
    update.row_column ReturnRow.storeId fun row => (keeps row).2.1,
    update.row_column ReturnRow.originalOrderId fun row => (keeps row).2.2]

/-- Lines of the order's sales, after one more was taken of a sale. -/
theorem takenOfLine_added {line : ReturnLineRow} (added : after.returnLines = tables.returnLines ++ [line])
    (other : NewOrderLineEntry) : takenOfLine other after =
      takenOfLine other tables ++ if line.originalLineId = some other.lineId then [line] else [] := by
  unfold takenOfLine
  rw [added, List.filter_append]
  simp only [List.filter_cons, List.filter_nil, decide_eq_true_eq]

theorem level_added {line : ReturnLineRow} (keyed : Keyed orders) (stored : entry ∈ orders) (listed : sale ∈ entry.lines)
    (level : ∀ sale ∈ entry.lines, Level rank entry sale (takenOfLine sale tables))
    (added : after.returnLines = tables.returnLines ++ [line]) (own : line.originalLineId = some sale.lineId)
    (mine : Level rank entry sale (takenOfLine sale tables ++ [line])) :
    ∀ other ∈ entry.lines, Level rank entry other (takenOfLine other after) := by
  intro other member
  rw [takenOfLine_added added]
  by_cases same : line.originalLineId = some other.lineId
  · have sold : (entry, sale) ∈ sales orders := mem_sales.mpr ⟨stored, listed⟩
    have too : (entry, other) ∈ sales orders := mem_sales.mpr ⟨stored, member⟩
    obtain rfl := (Prod.mk.inj (sale_unique keyed too sold (Option.some.inj (same.symm.trans own)))).2
    rwa [if_pos same]
  · rw [if_neg same, List.append_nil]
    exact level other member

/-- The lines of a return of the order are among those taken of the order. -/
theorem lines_eq {returnId : Uuid} (confined : ∀ line ∈ Returns.lines returnId tables, line ∈ takenOf entry tables) :
    Returns.lines returnId tables = (takenOf entry tables).filter (·.returnId = returnId) := by
  unfold Returns.lines takenOf
  rw [List.filter_filter]
  refine List.filter_congr fun line member => ?_
  rw [Bool.eq_iff_iff]
  simp only [decide_eq_true_eq, Bool.and_eq_true, iff_self_and]
  intro own
  have taken := confined line (List.mem_filter.mpr ⟨member, decide_eq_true own⟩)
  exact (List.mem_filter.mp taken).2

theorem lines_fit (payable : Payable entry couponCents) (keyed : Keyed orders) (stored : entry ∈ orders)
    (level : ∀ sale ∈ entry.lines, Level rank entry sale (takenOfLine sale tables)) {returnId : Uuid}
    (confined : ∀ line ∈ Returns.lines returnId tables, line ∈ takenOf entry tables) :
    ((Returns.lines returnId tables).map givenBack).sum < 2 ^ 63 ∧
      ((Returns.lines returnId tables).map ReturnLineRow.taxCents).sum < 2 ^ 63 := by
  have less (amount : ReturnLineRow → Nat) : ((Returns.lines returnId tables).map amount).sum ≤
      ((takenOf entry tables).map amount).sum := by
    rw [lines_eq confined]
    exact (List.filter_sublist.map amount).sum_le_sum (by simp)
  exact ⟨lt_of_le_of_lt (less givenBack) (takenOf_fits payable keyed stored level),
    lt_of_le_of_lt (less ReturnLineRow.taxCents) (taxes_fit payable keyed stored level)⟩

theorem nextQuantity_works {units quantity : Nat} {cents tax : Int} (some : 0 < quantity) (typed : sale.quantity < 2 ^ 63)
    (left : units + quantity ≤ sale.quantity) :
    Returns.nextQuantity sale ⟨units, cents, tax⟩ quantity = .ok (units + quantity : Nat) := by
  have fits : FitsI64 ((units : Int) + quantity) := by
    unfold FitsI64
    omega
  unfold Returns.nextQuantity
  dsimp only
  rw [asI64_of_small typed, if_neg (not_not.mpr fits), if_neg (by omega), Nat.cast_add]

theorem taken_works (payable : Payable entry couponCents) (stored : entry ∈ orders) (listed : sale ∈ entry.lines)
    (returning : Returning rank orders entry tables) :
    Returns.taken sale.lineId tables = .ok ⟨quantityOf (takenOfLine sale tables), centsOf (takenOfLine sale tables),
      taxOf (takenOfLine sale tables)⟩ := by
  have entitled := returning.sound.entitled (entry, sale) (mem_sales.mpr ⟨stored, listed⟩)
  rw [taken_eq (sale_small rank payable listed).1 entitled, activeLines_eq returning listed]

/-- The tables with a line and its header: what adding the line comes to. -/
def withLine (line : ReturnLineRow) (tables : ReturnTables) : ReturnTables :=
  let lines := tables.returnLines ++ [line]
  let mine := lines.filter (·.returnId = line.returnId)
  let update : Table.Update ReturnRow :=
    { selects := (·.id = line.returnId)
      set := fun row =>
        { row with
          totalCents := (mine.map givenBack).sum
          taxCents := (mine.map ReturnLineRow.taxCents).sum
          state := .items } }
  { tables with returnLines := lines, returns := update.run tables.returns }

section WithLine
variable {line : ReturnLineRow}

theorem places_withLine : places (withLine line tables) = places tables :=
  places_update rfl fun _ => ⟨rfl, rfl, rfl⟩

theorem mem_returnsOf_withLine {row : ReturnRow} (member : row ∈ returnsOf entry.orderId (withLine line tables)) :
    ∃ old ∈ returnsOf entry.orderId tables, old.id = row.id ∧
      (row.id = line.returnId ∧ row.state = .items ∧
          row.totalCents = ((Returns.lines row.id (withLine line tables)).map givenBack).sum ∧
            row.taxCents = ((Returns.lines row.id (withLine line tables)).map ReturnLineRow.taxCents).sum ∨
        row.id ≠ line.returnId ∧ row = old) := by
  obtain ⟨present, back⟩ := List.mem_filter.mp member
  obtain ⟨old, stored, rfl⟩ := List.mem_map.mp present
  have back := of_decide_eq_true back
  rw [Table.Update.row_column _ ReturnRow.originalOrderId fun _ => rfl] at back
  refine ⟨old, List.mem_filter.mpr ⟨stored, decide_eq_true back⟩, ?_, ?_⟩
  · rw [Table.Update.row_column _ ReturnRow.id fun _ => rfl]
  · rw [Table.Update.row_column _ ReturnRow.id fun _ => rfl]
    by_cases own : old.id = line.returnId
    · rw [Table.Update.row_selected (decide_eq_true own)]
      exact .inl ⟨own, rfl, by rw [own]; rfl, by rw [own]; rfl⟩
    · rw [Table.Update.row_kept (decide_eq_false own)]
      exact .inr ⟨own, rfl⟩

theorem lines_withLine (returnId : Uuid) : Returns.lines returnId (withLine line tables) =
    Returns.lines returnId tables ++ if line.returnId = returnId then [line] else [] := by
  unfold Returns.lines withLine
  rw [List.filter_append]
  simp only [List.filter_cons, List.filter_nil, decide_eq_true_eq]

/-- A line that is taken of the order, at the price its sale is level at. -/
theorem returning_withLine (returning : Returning rank orders entry tables) (sound : Sound rank orders (withLine line tables))
    (listed : sale ∈ entry.lines) (own : line.originalLineId = some sale.lineId)
    (place : (line.returnId, entry.storeId, some entry.orderId) ∈ places tables)
    (level : ∀ sale ∈ entry.lines, Level rank entry sale (takenOfLine sale (withLine line tables))) :
    Returning rank orders entry (withLine line tables) where
  sound := sound
  level := level
  rooted other member := by
    obtain ⟨present, named⟩ := mem_takenOf.mp member
    have root : ∃ row ∈ returnsOf entry.orderId tables, row.id = other.returnId := by
      rcases List.mem_append.mp present with old | new
      · exact returning.rooted other (mem_takenOf.mpr ⟨old, named⟩)
      · obtain rfl := List.mem_singleton.mp new
        obtain ⟨row, stored, same⟩ := List.mem_map.mp place
        obtain ⟨own, _, back⟩ : row.id = other.returnId ∧ row.storeId = entry.storeId ∧
            row.originalOrderId = some entry.orderId := by simpa using same
        exact ⟨row, List.mem_filter.mpr ⟨stored, decide_eq_true back⟩, own⟩
    obtain ⟨row, mine, own⟩ := root
    obtain ⟨stored, back⟩ := List.mem_filter.mp mine
    refine ⟨_, List.mem_filter.mpr ⟨List.mem_map_of_mem stored, ?_⟩, ?_⟩
    · rw [Table.Update.row_column _ ReturnRow.originalOrderId fun _ => rfl]
      exact back
    · rwa [Table.Update.row_column _ ReturnRow.id fun _ => rfl]
  confined row member other present := by
    obtain ⟨old, mine, same, _⟩ := mem_returnsOf_withLine member
    rw [lines_withLine] at present
    rcases List.mem_append.mp present with before | new
    · rw [← same] at before
      obtain ⟨stored, named⟩ := mem_takenOf.mp (returning.confined old mine other before)
      exact mem_takenOf.mpr ⟨List.mem_append_left _ stored, named⟩
    · have is : other = line := by
        split at new
        · exact List.mem_singleton.mp new
        · cases new
      subst is
      exact mem_takenOf.mpr ⟨List.mem_append_right _ (List.mem_singleton_self _), sale, listed, own⟩
  headers row member := by
    obtain ⟨old, mine, same, ⟨_, items, total, tax⟩ | ⟨other, rfl⟩⟩ := mem_returnsOf_withLine member
    · exact ⟨.inr items, total, tax⟩
    · have header := returning.headers row mine
      have lines : Returns.lines row.id (withLine line tables) = Returns.lines row.id tables := by
        rw [lines_withLine, if_neg other.symm, List.append_nil]
      exact ⟨header.accepts, by rw [lines]; exact header.total, by rw [lines]; exact header.tax⟩

end WithLine

/-- Units that are left of a line are taken back, at the price that keeps the line level. -/
theorem takes_back {input : ReturnLineRow} (payable : Payable entry couponCents) (keyed : Keyed orders)
    (orderIds : (orders.map NewOrderLedgerEntry.orderId).Nodup) (stored : entry ∈ orders)
    (returning : Returning rank orders entry tables) (takes : TakesBack entry tables input sale)
    (typed : sale.quantity < 2 ^ 63) (left : quantityOf (takenOfLine sale tables) + input.quantity ≤ sale.quantity)
    (fresh : ∀ line ∈ tables.returnLines, line.id ≠ input.id) :
    ∃ line, Returns.addReceiptedLine rank orders input tables = .ok (withLine line tables) ∧
      Returning rank orders entry (withLine line tables) ∧
        line.id = input.id ∧ line.originalLineId = some sale.lineId ∧ line.quantity = input.quantity := by
  have listed := takes.listed
  obtain ⟨amount, tax, awarded, cents, taxes⟩ := award_works payable listed (returning.level sale listed) typed left
  have priced : Returns.paidFor rank entry sale = .ok (paidCents rank entry sale) := by
    rw [paidFor_eq payable listed, paidCents_eq payable listed]
  obtain ⟨line, made⟩ : ∃ line, line = Returns.receiptedLine input sale amount tax := ⟨_, rfl⟩
  have quantity : line.quantity = input.quantity := by rw [made, Returns.receiptedLine]
  have total : line.lineTotalCents = amount := by rw [made, Returns.receiptedLine]
  have charge : line.taxCents = tax := by rw [made, Returns.receiptedLine]
  have named : line.originalLineId = some sale.lineId := by rw [made, Returns.receiptedLine]
  have back : line.returnId = input.returnId := by rw [made, Returns.receiptedLine]
  have mine : Level rank entry sale (takenOfLine sale tables ++ [line]) := by
    refine level_append (returning.level sale listed) ?_ ?_ ?_ (by rw [made, Returns.receiptedLine])
    · rwa [quantity]
    · rwa [quantity, total]
    · rwa [quantity, charge]
  let between : ReturnTables := { tables with returnLines := tables.returnLines ++ [line] }
  have step : ∀ sale ∈ entry.lines, Level rank entry sale (takenOfLine sale between) :=
    level_added keyed stored listed returning.level rfl named mine
  have level : ∀ sale ∈ entry.lines, Level rank entry sale (takenOfLine sale (withLine line tables)) :=
    level_added keyed stored listed returning.level rfl named mine
  have inserted : Returns.insertLine line tables = .ok between := by
    unfold Returns.insertLine
    rw [if_neg (by simpa [made, Returns.receiptedLine] using fresh)]
  have confined : ∀ other ∈ Returns.lines input.returnId between, other ∈ takenOf entry between := by
    intro other member
    obtain ⟨present, own⟩ := List.mem_filter.mp member
    rcases List.mem_append.mp present with before | new
    · obtain ⟨row, stored, same⟩ := List.mem_map.mp takes.onReturn
      obtain ⟨mine, _, back⟩ : row.id = input.returnId ∧ row.storeId = entry.storeId ∧
          row.originalOrderId = some entry.orderId := by simpa using same
      have here : other ∈ Returns.lines row.id tables := List.mem_filter.mpr ⟨before, by rw [mine]; exact own⟩
      obtain ⟨_, named⟩ := mem_takenOf.mp
        (returning.confined row (List.mem_filter.mpr ⟨stored, decide_eq_true back⟩) other here)
      exact mem_takenOf.mpr ⟨present, named⟩
    · obtain rfl := List.mem_singleton.mp new
      exact mem_takenOf.mpr ⟨present, sale, listed, named⟩
  obtain ⟨fits, small⟩ := lines_fit payable keyed stored step confined
  have refreshed : Returns.refreshHeader input.returnId between = .ok (withLine line tables) := by
    rw [refreshHeader_works fits small, ← back]
    rfl
  have added : Returns.addReceiptedLine rank orders input tables = .ok (withLine line tables) :=
    LineAdded.adds
      { some := Nat.pos_iff_ne_zero.mp takes.positive
        found := original_works orderIds stored returning takes
        counted := taken_works payable stored listed returning
        left := nextQuantity_works takes.positive typed left
        priced := priced
        awarded := awarded
        written := ⟨between, made ▸ inserted, refreshed⟩ }
  have place : (line.returnId, entry.storeId, some entry.orderId) ∈ places tables := by
    rw [back]
    exact takes.onReturn
  have sound := sound_addReceiptedLine keyed returning.sound added
  exact ⟨line, added, returning_withLine returning sound listed named place level,
    by rw [made, Returns.receiptedLine], named, quantity⟩

end Steps

section Sums
variable {rank : Uuid → Nat} {orders : List NewOrderLedgerEntry} {entry : NewOrderLedgerEntry} {tables : ReturnTables}
  {couponCents : Nat}

/-- The headers of the order's returns together have what was taken of its lines. -/
theorem sum_headers (returning : Returning rank orders entry tables) (keyed : Keyed orders) (stored : entry ∈ orders)
    {column : ReturnRow → Nat} {amount : ReturnLineRow → Nat}
    (agrees : ∀ row ∈ returnsOf entry.orderId tables, column row = ((Returns.lines row.id tables).map amount).sum) :
    ((returnsOf entry.orderId tables).map column).sum =
      (entry.lines.map fun sale => ((takenOfLine sale tables).map amount).sum).sum := by
  have distinct : ((returnsOf entry.orderId tables).map ReturnRow.id).Nodup :=
    returning.sound.unique.sublist (List.filter_sublist.map ReturnRow.id)
  have owned : ∀ line ∈ takenOf entry tables, line.returnId ∈ (returnsOf entry.orderId tables).map ReturnRow.id := by
    intro line member
    obtain ⟨row, mine, own⟩ := returning.rooted line member
    exact List.mem_map.mpr ⟨row, mine, own⟩
  rw [← sum_takenOf keyed stored, ← Table.sum_by_key distinct owned, List.map_map]
  refine congrArg List.sum (List.map_congr_left fun row mine => ?_)
  rw [agrees row mine, lines_eq (returning.confined row mine)]
  rfl

/-- When all units are back, the returns come to what the order came to. -/
theorem whole_order (payable : Payable entry couponCents) (keyed : Keyed orders) (stored : entry ∈ orders)
    (distinct : (entry.lines.map fun line => rank line.lineId).Nodup) (returning : Returning rank orders entry tables)
    (priced : ∀ sale ∈ entry.lines, sale.quantity = 0 → sale.lineTotalCents = 0 ∧ sale.taxCents = 0)
    (back : ∀ sale ∈ entry.lines, quantityOf (takenOfLine sale tables) = sale.quantity) :
    (((returnsOf entry.orderId tables).map ReturnRow.totalCents).sum : Int) =
        netCents entry - couponCents + ((entry.lines.map exclusiveTaxCents).sum : Nat) ∧
      ((returnsOf entry.orderId tables).map ReturnRow.taxCents).sum =
        (entry.lines.map NewOrderLineEntry.taxCents).sum := by
  have whole : ∀ sale ∈ entry.lines, (centsOf (takenOfLine sale tables) : Int) = paidCents rank entry sale ∧
      taxOf (takenOfLine sale tables) = sale.taxCents := by
    intro sale listed
    have level := returning.level sale listed
    obtain ⟨paid, tax⟩ := sale_small rank payable listed
    have cents := level.cents
    have taxes := level.tax
    rw [back sale listed] at cents taxes
    by_cases none : sale.quantity = 0
    · -- no units, no price
      obtain ⟨free, untaxed⟩ := priced sale listed none
      have most := paidCents_le rank payable listed
      have least := paidCents_nonneg rank entry sale
      rw [none, proportion, if_pos (by decide)] at cents taxes
      omega
    · have some : (0 : Int) < sale.quantity := by omega
      rw [proportion_whole some paid] at cents
      rw [proportion_whole some tax] at taxes
      exact ⟨cents, Int.ofNat.inj taxes⟩
  constructor
  · rw [sum_headers returning keyed stored fun row mine => (returning.headers row mine).total, ← Table.cast_sum,
      ← paid_sum payable distinct, ← Table.cast_sum, ← List.sum_map_add]
    refine congrArg List.sum (List.map_congr_left fun sale listed => ?_)
    rw [givenBack_split (returning.level sale listed), Nat.cast_add, (whole sale listed).1, (whole sale listed).2]
    rfl
  · rw [sum_headers returning keyed stored fun row mine => (returning.headers row mine).tax]
    exact congrArg List.sum (List.map_congr_left fun sale listed => (whole sale listed).2)

end Sums

end ApexEdge.Proofs.WholeOrders
