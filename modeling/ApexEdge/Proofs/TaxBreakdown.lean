import ApexEdge.Fiscal.Export
import ApexEdge.Proofs.FiscalEvidence

/-! What a transaction that the validator accepts comes to by tax rates. The validator adds
up with saturation, the breakdown and the receipt code with wrapping. -/

namespace ApexEdge.Proofs.TaxBreakdown
open Library Payment Domain Fiscal FiscalEvidence FiscalTransaction

/-- An amount that lines, groups and the header have. -/
structure Column where
  ofLine : FiscalLine → Int
  ofGroup : TaxBreakdownEntry → Int
  ofHeader : FiscalTransaction → Int
  opened : ∀ line, ofGroup (openGroup line) = ofLine line
  added : ∀ group line, ofGroup (addLine group line) = wrapI64 (ofGroup group + ofLine line)

namespace Column

def net : Column :=
  ⟨FiscalLine.netCents, TaxBreakdownEntry.netCents, FiscalTransaction.netCents, fun _ => rfl, fun _ _ => rfl⟩

def tax : Column :=
  ⟨FiscalLine.taxCents, TaxBreakdownEntry.taxCents, FiscalTransaction.taxCents, fun _ => rfl, fun _ _ => rfl⟩

def gross : Column :=
  ⟨FiscalLine.grossCents, TaxBreakdownEntry.grossCents, FiscalTransaction.grossCents, fun _ => rfl, fun _ _ => rfl⟩

/-- What the lines at a rate come to. -/
def atRate (column : Column) (lines : List FiscalLine) (rateBps : Nat) : Int :=
  Table.total (·.taxRateBps = rateBps) column.ofLine lines

end Column

/-! ### Groups -/

section Groups
variable {groups : List TaxBreakdownEntry} {seen : List FiscalLine}

theorem groupLine_rates (groups : List TaxBreakdownEntry) (line : FiscalLine) :
    (groupLine groups line).map TaxBreakdownEntry.rateBps =
      if line.taxRateBps ∈ groups.map TaxBreakdownEntry.rateBps then groups.map TaxBreakdownEntry.rateBps
      else groups.map TaxBreakdownEntry.rateBps ++ [line.taxRateBps] := by
  induction groups with
  | nil => rfl
  | cons group groups ih =>
    rw [groupLine]
    by_cases own : group.rateBps = line.taxRateBps
    · rw [if_pos own, if_pos (by simp [own])]
      rfl
    · rw [if_neg own, List.map_cons, ih]
      rw [List.map_cons]
      by_cases later : line.taxRateBps ∈ groups.map TaxBreakdownEntry.rateBps
      · rw [if_pos later, if_pos (List.mem_cons_of_mem _ later)]
      · rw [if_neg later, if_neg fun listed => (List.mem_cons.mp listed).elim (fun same => own same.symm) later]
        rfl

/-- A group after a line: one of another rate, the line's with the line, or the line's own. -/
theorem mem_groupLine (distinct : (groups.map TaxBreakdownEntry.rateBps).Nodup) {line : FiscalLine} {group : TaxBreakdownEntry}
    (member : group ∈ groupLine groups line) :
    (group ∈ groups ∧ group.rateBps ≠ line.taxRateBps) ∨
      (∃ existing ∈ groups, existing.rateBps = line.taxRateBps ∧ group = addLine existing line) ∨
      line.taxRateBps ∉ groups.map TaxBreakdownEntry.rateBps ∧ group = openGroup line := by
  induction groups with
  | nil => exact .inr (.inr ⟨List.not_mem_nil, List.mem_singleton.mp member⟩)
  | cons first groups ih =>
    obtain ⟨apart, distinct⟩ := List.nodup_cons.mp distinct
    rw [groupLine] at member
    by_cases own : first.rateBps = line.taxRateBps
    · rw [if_pos own] at member
      rcases List.mem_cons.mp member with rfl | later
      · exact .inr (.inl ⟨first, List.mem_cons_self, own, rfl⟩)
      · have listed : group.rateBps ∈ groups.map TaxBreakdownEntry.rateBps := List.mem_map_of_mem later
        exact .inl ⟨List.mem_cons_of_mem first later, fun same => apart (own.trans same.symm ▸ listed)⟩
    · rw [if_neg own] at member
      rcases List.mem_cons.mp member with rfl | later
      · exact .inl ⟨List.mem_cons_self, own⟩
      · rcases ih distinct later with ⟨present, other⟩ | ⟨existing, present, same, added⟩ | ⟨none, opened⟩
        · exact .inl ⟨List.mem_cons_of_mem first present, other⟩
        · exact .inr (.inl ⟨existing, List.mem_cons_of_mem first present, same, added⟩)
        · exact .inr (.inr ⟨fun listed => (List.mem_cons.mp listed).elim (fun same => own same.symm) none, opened⟩)

/-- Groups of what has been seen: one for each of its rates, over the lines at that rate. -/
structure Grouped (seen : List FiscalLine) (groups : List TaxBreakdownEntry) : Prop where
  distinct : (groups.map TaxBreakdownEntry.rateBps).Nodup
  rates : ∀ rateBps, rateBps ∈ groups.map TaxBreakdownEntry.rateBps ↔ ∃ line ∈ seen, line.taxRateBps = rateBps
  amounts : ∀ column : Column, (∀ line ∈ seen, FitsI64 (column.ofLine line)) →
    ∀ group ∈ groups, column.ofGroup group = wrapI64 (column.atRate seen group.rateBps)

theorem atRate_append (column : Column) (line : FiscalLine) (rateBps : Nat) :
    column.atRate (seen ++ [line]) rateBps =
      column.atRate seen rateBps + if line.taxRateBps = rateBps then column.ofLine line else 0 := by
  rw [Column.atRate, Table.total_append, Table.total_cons, Table.total_nil, Int.add_zero]
  simp [Column.atRate]

theorem atRate_unseen (column : Column) {rateBps : Nat} (unseen : ¬∃ line ∈ seen, line.taxRateBps = rateBps) :
    column.atRate seen rateBps = 0 := by
  have none : seen.filter (·.taxRateBps = rateBps) = [] :=
    List.filter_eq_nil_iff.mpr fun line member same => unseen ⟨line, member, of_decide_eq_true same⟩
  rw [Column.atRate, Table.total, none]
  rfl

theorem grouped_step (grouped : Grouped seen groups) (line : FiscalLine) :
    Grouped (seen ++ [line]) (groupLine groups line) := by
  have listed := groupLine_rates groups line
  refine ⟨?_, fun rateBps => ?_, fun column fits group member => ?_⟩
  · rw [listed]
    split
    · exact grouped.distinct
    next fresh =>
      exact List.nodup_append.mpr ⟨grouped.distinct, List.nodup_singleton _, fun rate present other own =>
        fun same => fresh (List.mem_singleton.mp own ▸ same ▸ present)⟩
  · have seen_or : (∃ other ∈ seen ++ [line], other.taxRateBps = rateBps) ↔
        rateBps ∈ groups.map TaxBreakdownEntry.rateBps ∨ line.taxRateBps = rateBps := by
      rw [grouped.rates]
      simp only [List.mem_append, List.mem_singleton, or_and_right, exists_or, exists_eq_left]
    rw [seen_or, listed]
    split
    next known => exact ⟨.inl, fun both => both.elim id fun same => same ▸ known⟩
    next => rw [List.mem_append, List.mem_singleton, eq_comm (a := rateBps)]
  · have fits_seen := fun other present => fits other (List.mem_append_left [line] present)
    rw [atRate_append]
    rcases mem_groupLine grouped.distinct member with ⟨present, other⟩ | ⟨existing, present, own, rfl⟩ | ⟨fresh, rfl⟩
    · rw [if_neg (Ne.symm other), Int.add_zero]
      exact grouped.amounts column fits_seen group present
    · have before := grouped.amounts column fits_seen existing present
      show _ = wrapI64 (column.atRate seen existing.rateBps + if line.taxRateBps = existing.rateBps then _ else 0)
      rw [if_pos own.symm, column.added, before, wrapI64_add]
    · have none := @atRate_unseen seen column line.taxRateBps fun present => fresh ((grouped.rates _).mpr present)
      show _ = wrapI64 (column.atRate seen line.taxRateBps + if line.taxRateBps = line.taxRateBps then _ else 0)
      rw [if_pos rfl, none, Int.zero_add, column.opened,
        wrapI64_of_fits (fits line (List.mem_append_right seen List.mem_cons_self))]

theorem grouped_run (lines : List FiscalLine) : Grouped lines (lines.foldl groupLine []) := by
  induction lines using List.reverseRecOn with
  | nil => exact ⟨List.nodup_nil, by simp, nofun⟩
  | append_singleton lines line ih =>
    rw [List.foldl_append]
    exact grouped_step ih line

theorem Grouped.perm {others : List TaxBreakdownEntry} (grouped : Grouped seen groups) (same : others.Perm groups) :
    Grouped seen others :=
  ⟨((same.map _).nodup_iff).mpr grouped.distinct, fun rateBps => ((same.map _).mem_iff).trans (grouped.rates rateBps),
    fun column fits group member => grouped.amounts column fits group (same.mem_iff.mp member)⟩

theorem taxBreakdown_grouped (transaction : FiscalTransaction) :
    Grouped transaction.lines transaction.taxBreakdown ∧
      (transaction.taxBreakdown.map TaxBreakdownEntry.rateBps).Pairwise (· < ·) := by
  have grouped := (grouped_run transaction.lines).perm (List.perm_insertionSort (·.rateBps ≤ ·.rateBps) _)
  refine ⟨grouped, List.pairwise_map.mpr ?_⟩
  have sorted := List.pairwise_insertionSort (r := fun first second : TaxBreakdownEntry => first.rateBps ≤ second.rateBps)
    (transaction.lines.foldl groupLine [])
  exact (sorted.and (List.pairwise_map.mp grouped.distinct)).imp fun both => lt_of_le_of_ne both.1 both.2

/-- The groups together come to what the lines come to, where each is what its lines come to. -/
theorem Grouped.whole (grouped : Grouped seen groups) {column : Column}
    (each : ∀ group ∈ groups, column.ofGroup group = column.atRate seen group.rateBps) :
    (groups.map column.ofGroup).sum = (seen.map column.ofLine).sum := by
  have by_rate : groups.map column.ofGroup = (groups.map TaxBreakdownEntry.rateBps).map (column.atRate seen) := by
    rw [List.map_map]
    exact List.map_congr_left each
  have listed : ∀ line ∈ seen, line.taxRateBps ∈ (groups.map TaxBreakdownEntry.rateBps).toFinset := fun line member =>
    List.mem_toFinset.mpr ((grouped.rates _).mpr ⟨line, member, rfl⟩)
  have all := @Table.total_by_key _ _ (fun _ => true) column.ofLine seen _ FiscalLine.taxRateBps _ listed
  simp only [Bool.true_and, Table.total, List.filter_true] at all
  rw [by_rate, ← List.sum_toFinset _ grouped.distinct, ← all]
  rfl

end Groups

/-! ### Breakdowns -/

def columns : List Column := [.net, .tax, .gross]

/-- The groups are those of the rates in order, each line is in one of them, and together
they come to the header. -/
structure Partitions (transaction : FiscalTransaction) (groups : List TaxBreakdownEntry) : Prop where
  increasing : (groups.map TaxBreakdownEntry.rateBps).Pairwise (· < ·)
  contributes : ∀ line ∈ transaction.lines, ∃! group, group ∈ groups ∧ group.rateBps = line.taxRateBps
  shares : ∀ column ∈ columns, ∀ group ∈ groups, column.ofGroup group = column.atRate transaction.lines group.rateBps
  header : ∀ column ∈ columns, (groups.map column.ofGroup).sum = column.ofHeader transaction

/-- No rate runs over, and the saturation of the whole loses nothing. -/
structure Contained (transaction : FiscalTransaction) : Prop where
  rates : ∀ column ∈ columns, ∀ rateBps, FitsI64 (column.atRate transaction.lines rateBps)
  whole : ∀ column ∈ columns,
    saturatingSum 0 (transaction.lines.map column.ofLine) = (transaction.lines.map column.ofLine).sum

section Breakdowns
variable {transaction : FiscalTransaction}

/-- The header of a valid transaction is what its lines saturate to. -/
theorem valid_header (valid : transaction.validate = .ok ()) :
    ∀ column ∈ columns, column.ofHeader transaction = saturatingSum 0 (transaction.lines.map column.ofLine) := by
  obtain ⟨-, -, checked, -, -⟩ := (validate_iff transaction).mp valid
  obtain ⟨-, -, totals⟩ := (checkLines_saturating _ _).mp checked
  obtain ⟨net, tax, gross⟩ := LineTotals.mk.inj totals
  simp only [columns, List.forall_mem_cons, List.not_mem_nil, false_imp_iff, implies_true, and_true]
  exact ⟨net, tax, gross⟩

theorem Grouped.contributes {lines : List FiscalLine} {groups : List TaxBreakdownEntry} (grouped : Grouped lines groups) :
    ∀ line ∈ lines, ∃! group, group ∈ groups ∧ group.rateBps = line.taxRateBps := by
  intro line member
  obtain ⟨group, present, own⟩ := List.mem_map.mp ((grouped.rates line.taxRateBps).mpr ⟨line, member, rfl⟩)
  refine ⟨group, ⟨present, own⟩, fun other both => ?_⟩
  exact List.inj_on_of_nodup_map grouped.distinct both.1 present (both.2.trans own.symm)

/-- Amounts from nothing on are contained when together they are. -/
theorem contained_of_gains (gains : ∀ column ∈ columns, ∀ line ∈ transaction.lines, 0 ≤ column.ofLine line)
    (small : ∀ column ∈ columns, (transaction.lines.map column.ofLine).sum < 2 ^ 63) : Contained transaction := by
  refine ⟨fun column listed rateBps => ?_, fun column listed => ?_⟩
  · have worth := gains column listed
    have part : column.atRate transaction.lines rateBps ≤ (transaction.lines.map column.ofLine).sum :=
      (List.filter_sublist.map column.ofLine).sum_le_sum (List.forall_mem_map.mpr worth)
    have start : 0 ≤ column.atRate transaction.lines rateBps := Table.total_nonneg worth
    have whole := small column listed
    exact ⟨by omega, by omega⟩
  · have summed := @saturatingSum_of_gains 0 (transaction.lines.map column.ofLine)
      (List.forall_mem_map.mpr (gains column listed)) (le_refl 0)
    rw [Int.zero_add] at summed
    exact summed (small column listed)

/-- For every transaction that the validator accepts: its breakdown partitions it exactly
when its amounts are contained. -/
theorem breakdown_partitions_iff (typed : ∀ column ∈ columns, ∀ line ∈ transaction.lines, FitsI64 (column.ofLine line))
    (valid : transaction.validate = .ok ()) :
    Partitions transaction transaction.taxBreakdown ↔ Contained transaction := by
  obtain ⟨grouped, increasing⟩ := taxBreakdown_grouped transaction
  have header := valid_header valid
  constructor
  · intro partitions
    refine ⟨fun column listed rateBps => ?_, fun column listed => ?_⟩
    · by_cases sold : ∃ line ∈ transaction.lines, line.taxRateBps = rateBps
      · obtain ⟨group, present, rfl⟩ := List.mem_map.mp ((grouped.rates rateBps).mpr sold)
        have share := partitions.shares column listed group present
        rw [← share, grouped.amounts column (typed column listed) group present]
        exact wrapI64_fits _
      · rw [atRate_unseen column sold]
        decide
    · rw [← header column listed, ← partitions.header column listed]
      exact grouped.whole (partitions.shares column listed)
  · intro contained
    have shares : ∀ column ∈ columns, ∀ group ∈ transaction.taxBreakdown,
        column.ofGroup group = column.atRate transaction.lines group.rateBps := by
      intro column listed group present
      rw [grouped.amounts column (typed column listed) group present, wrapI64_of_fits (contained.rates column listed _)]
    refine ⟨increasing, grouped.contributes, shares, fun column listed => ?_⟩
    rw [grouped.whole (shares column listed), header column listed, contained.whole column listed]

end Breakdowns

/-- A sale of so many lines, paid in cash. -/
def saleOfLines (lines : List FiscalLine) (net tax gross : Int) : FiscalTransaction where
  transactionId := .random 1
  kind := .sale
  referenceTransactionId := none
  cashPoint := ⟨.random 2, .random 3, none, none⟩
  occurredAt := 0
  currency := "EUR"
  lines := lines
  tenders := [⟨.random 4, .cash, gross, 0, none, none⟩]
  netCents := net
  taxCents := tax
  grossCents := gross

def soldLine (net tax : Int) (rateBps : Nat) : FiscalLine :=
  ⟨.random 5, "SKU-1", "Coffee", 1, net + tax, net, tax, net + tax, 0, rateBps, "standard", false⟩

def largestI64 : Int := 2 ^ 63 - 1

/-- The largest amount and a cent more at one rate. -/
def overfullSale : FiscalTransaction :=
  saleOfLines [soldLine largestI64 0 1900, soldLine 1 0 1900] largestI64 0 largestI64

theorem overfull_rate_wraps :
    overfullSale.validate = .ok () ∧ ¬Partitions overfullSale overfullSale.taxBreakdown := by
  refine ⟨by decide +kernel, fun partitions => ?_⟩
  have whole := partitions.header .net List.mem_cons_self
  revert whole
  decide +kernel

/-- Coffee at one rate, cake at another. -/
def coffeeAndCake : FiscalTransaction :=
  saleOfLines [soldLine 300 57 1900, soldLine 200 14 700, soldLine 100 19 1900] 600 90 690

theorem coffee_and_cake_partitioned : Partitions coffeeAndCake coffeeAndCake.taxBreakdown := by
  have contained : Contained coffeeAndCake := contained_of_gains (by decide +kernel) (by decide +kernel)
  exact (breakdown_partitions_iff (by decide +kernel) (by decide +kernel)).mpr contained

/-! ### Receipt codes -/

/-- The rates that a receipt code knows. -/
def listedRates : List Nat := [1900, 1000, 1300, 700, 500, 0]

def balance (transaction : FiscalTransaction) (rateBps : Nat) : Int := Column.gross.atRate transaction.lines rateBps

/-- What the listed rates with more sold than taken back come to. -/
def credits (transaction : FiscalTransaction) : Int :=
  (listedRates.map fun rateBps => max (balance transaction rateBps) 0).sum

/-- What the listed rates with more taken back than sold come to. -/
def debts (transaction : FiscalTransaction) : Int :=
  (listedRates.map fun rateBps => min (balance transaction rateBps) 0).sum

/-- What the lines at other rates come to. -/
def unlisted (transaction : FiscalTransaction) : Int :=
  Table.total (fun line => decide (line.taxRateBps ∉ listedRates)) FiscalLine.grossCents transaction.lines

/-- The amounts of the rates add up to the turnover. -/
def AddsUp (amounts : RksvAmounts) : Prop :=
  amounts.normal + amounts.reduced + amounts.special + amounts.zero = amounts.turnover

/-- The turnover is that of the lines, the amounts are those of their rates, and they add up to it. -/
structure AccountsFor (transaction : FiscalTransaction) : Prop where
  whole : transaction.grossCents = (transaction.lines.map FiscalLine.grossCents).sum
  amounts : rksvAmounts transaction =
    ⟨(balance transaction 1900).natAbs,
      (balance transaction 1000).natAbs + (balance transaction 1300).natAbs + (balance transaction 700).natAbs,
      (balance transaction 500).natAbs, (balance transaction 0).natAbs, transaction.grossCents.natAbs⟩
  sum : AddsUp (rksvAmounts transaction)

/-- No amount of the code runs over. -/
structure Exact (transaction : FiscalTransaction) : Prop where
  whole : saturatingSum 0 (transaction.lines.map FiscalLine.grossCents) =
    (transaction.lines.map FiscalLine.grossCents).sum
  normal : (balance transaction 1900).natAbs < 2 ^ 63
  reduced : (balance transaction 1000).natAbs + (balance transaction 1300).natAbs +
    (balance transaction 700).natAbs < 2 ^ 63
  special : (balance transaction 500).natAbs < 2 ^ 63
  zero : (balance transaction 0).natAbs < 2 ^ 63
  turnover : (transaction.lines.map FiscalLine.grossCents).sum.natAbs < 2 ^ 63

/-- The other rates make up for what the magnitudes count twice; without other rates, either
nothing listed has been sold or nothing taken back. -/
def Covered (transaction : FiscalTransaction) : Prop :=
  unlisted transaction = -2 * debts transaction ∨ unlisted transaction = -2 * credits transaction

section Codes
variable {transaction : FiscalTransaction}

theorem absI64_of_small {n : Int} (small : n.natAbs < 2 ^ 63) : absI64 n = n.natAbs :=
  wrapI64_of_fits ⟨by omega, by omega⟩

theorem absI64_lt (n : Int) : absI64 n < 2 ^ 63 := by
  have fits := (wrapI64_fits n.natAbs).2
  unfold absI64
  omega

theorem absI64_twice {n : Int} (small : n.natAbs < 2 ^ 63) : absI64 (absI64 n) = n.natAbs := by
  rw [absI64_of_small small]
  exact absI64_of_small (by omega)

theorem sumRate_eq {rateBps : Nat} (small : (balance transaction rateBps).natAbs < 2 ^ 63) :
    sumRate transaction rateBps = (balance transaction rateBps).natAbs := by
  show absI64 (wrapI64 (balance transaction rateBps)) = _
  rw [wrapI64_of_fits ⟨by omega, by omega⟩, absI64_of_small small]

theorem exact_amounts (exact : Exact transaction) (whole : transaction.grossCents =
      (transaction.lines.map FiscalLine.grossCents).sum) : rksvAmounts transaction =
    ⟨(balance transaction 1900).natAbs,
      (balance transaction 1000).natAbs + (balance transaction 1300).natAbs + (balance transaction 700).natAbs,
      (balance transaction 500).natAbs, (balance transaction 0).natAbs, transaction.grossCents.natAbs⟩ := by
  obtain ⟨-, normal, reduced, special, zero, turnover⟩ := exact
  have again (n : Nat) (small : n < 2 ^ 63) : absI64 n = n := absI64_of_small (by omega)
  have joined := again _ reduced
  simp only [Int.natCast_add] at joined
  rw [rksvAmounts, sumRate_eq normal, sumRate_eq (by omega), sumRate_eq (by omega), sumRate_eq (by omega),
    sumRate_eq special, sumRate_eq zero, again _ normal, again _ special, again _ zero,
    absI64_twice (by rw [whole]; exact turnover), wrapI64_of_fits ⟨by omega, by omega⟩, joined]

/-- What the lines come to: what the listed rates have sold and taken back, and the rest. -/
theorem grosses_eq (transaction : FiscalTransaction) : (transaction.lines.map FiscalLine.grossCents).sum =
    unlisted transaction + credits transaction + debts transaction := by
  have parts : credits transaction + debts transaction = (listedRates.map (balance transaction)).sum := by
    rw [credits, debts, ← List.sum_map_add]
    exact congrArg List.sum (List.map_congr_left fun rateBps _ => by omega)
  rw [Int.add_assoc, parts]
  exact Table.sum_listed FiscalLine.taxRateBps FiscalLine.grossCents transaction.lines (by decide)

/-- The magnitudes of the listed rates. -/
theorem magnitudes_eq (transaction : FiscalTransaction) :
    ((balance transaction 1900).natAbs + ((balance transaction 1000).natAbs + (balance transaction 1300).natAbs +
      (balance transaction 700).natAbs) + (balance transaction 500).natAbs + (balance transaction 0).natAbs : Int) =
      credits transaction - debts transaction := by
  have added : (listedRates.map fun rateBps => ((balance transaction rateBps).natAbs : Int)).sum + debts transaction =
      credits transaction := by
    rw [debts, credits, ← List.sum_map_add]
    exact congrArg List.sum (List.map_congr_left fun rateBps _ => by omega)
  simp only [listedRates, List.map_cons, List.map_nil, List.sum_cons, List.sum_nil] at added
  omega

theorem credits_nonneg (transaction : FiscalTransaction) : 0 ≤ credits transaction :=
  List.sum_nonneg (List.forall_mem_map.mpr fun _ _ => le_max_right _ _)

theorem debts_nonpos (transaction : FiscalTransaction) : debts transaction ≤ 0 :=
  sum_of_debts (List.forall_mem_map.mpr fun _ _ => min_le_right _ _)

/-- Where the sums do not run over, the amounts add up exactly when the turnover is covered. -/
theorem addsUp_iff (exact : Exact transaction) (whole : transaction.grossCents =
      (transaction.lines.map FiscalLine.grossCents).sum) :
    AddsUp (rksvAmounts transaction) ↔ Covered transaction := by
  have sold := credits_nonneg transaction
  have back := debts_nonpos transaction
  have total := grosses_eq transaction
  have magnitudes := magnitudes_eq transaction
  rw [AddsUp, exact_amounts exact whole, Covered]
  dsimp only
  omega

/-- The amounts of a code are signed 64-bit numbers. -/
theorem exact_of_amounts (accounts : AccountsFor transaction) (header : transaction.grossCents =
      saturatingSum 0 (transaction.lines.map FiscalLine.grossCents)) : Exact transaction := by
  obtain ⟨whole, amounts, -⟩ := accounts
  obtain ⟨normal, reduced, special, zero, turnover⟩ := RksvAmounts.mk.inj amounts
  refine ⟨header.symm.trans whole, ?_, ?_, ?_, ?_, ?_⟩
  · exact Int.ofNat_lt.mp (normal ▸ absI64_lt (sumRate transaction 1900))
  · refine Int.ofNat_lt.mp ?_
    rw [Int.natCast_add, Int.natCast_add, ← reduced]
    exact absI64_lt _
  · exact Int.ofNat_lt.mp (special ▸ absI64_lt (sumRate transaction 500))
  · exact Int.ofNat_lt.mp (zero ▸ absI64_lt (sumRate transaction 0))
  · rw [← whole]
    exact Int.ofNat_lt.mp (turnover ▸ absI64_lt (absI64 transaction.grossCents))

/-- For every transaction that the validator accepts: its receipt code accounts for its
turnover exactly when nothing runs over and the turnover is covered. -/
theorem receipt_code_accounts_iff (valid : transaction.validate = .ok ()) :
    (AccountsFor transaction ↔ Exact transaction ∧ Covered transaction) ∧
      (Exact transaction → (AddsUp (rksvAmounts transaction) ↔ Covered transaction)) := by
  have header := valid_header valid .gross (by simp [columns])
  have within (exact : Exact transaction) : transaction.grossCents =
      (transaction.lines.map FiscalLine.grossCents).sum := header.trans exact.whole
  refine ⟨⟨fun accounts => ?_, fun ⟨exact, covered⟩ => ?_⟩, fun exact => addsUp_iff exact (within exact)⟩
  · have exact := exact_of_amounts accounts header
    exact ⟨exact, (addsUp_iff exact accounts.whole).mp accounts.sum⟩
  · exact ⟨within exact, exact_amounts exact (within exact), (addsUp_iff exact (within exact)).mpr covered⟩

end Codes

/-- One coffee at the normal rate of Austria. -/
def austrianSale : FiscalTransaction := saleOfLines [soldLine 1000 200 2000] 1000 200 1200

/-- A coffee sold and a cake taken back. -/
def exchangedCake : FiscalTransaction :=
  saleOfLines [soldLine 1000 190 1900, soldLine (-200) (-14) 700] 800 176 976

theorem turnover_not_accounted_for :
    (austrianSale.validate = .ok () ∧ ¬AddsUp (rksvAmounts austrianSale)) ∧
      exchangedCake.validate = .ok () ∧ ¬AddsUp (rksvAmounts exchangedCake) := by
  unfold AddsUp
  decide +kernel

theorem coffee_and_cake_accounted_for :
    AccountsFor coffeeAndCake ∧ AddsUp (rksvAmounts coffeeAndCake) := by
  have exact : Exact coffeeAndCake := ⟨by decide +kernel, by decide +kernel, by decide +kernel, by decide +kernel,
    by decide +kernel, by decide +kernel⟩
  have covered : Covered coffeeAndCake := .inl (by decide +kernel)
  obtain ⟨accounts, added⟩ := receipt_code_accounts_iff (show coffeeAndCake.validate = .ok () by decide +kernel)
  exact ⟨accounts.mpr ⟨exact, covered⟩, (added exact).mpr covered⟩

end ApexEdge.Proofs.TaxBreakdown
