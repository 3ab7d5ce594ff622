import ApexEdge.Hub.ReturnCounter

/-! What returns can take of an order line. After every line that is added, what was
given back is the part of the price that falls on the units taken; voiding only gives
units back. -/

namespace ApexEdge.Proofs.Entitlements
open Library Payment Domain Storage Contracts Hub

def quantityOf (lines : List ReturnLineRow) : Nat := (lines.map ReturnLineRow.quantity).sum

def centsOf (lines : List ReturnLineRow) : Nat := (lines.map ReturnLineRow.lineTotalCents).sum

def taxOf (lines : List ReturnLineRow) : Nat := (lines.map ReturnLineRow.taxCents).sum

/-- What lines have taken of an order line, of which all units have cost `paid`. -/
structure Entitled (sold : NewOrderLineEntry) (paid : Int) (lines : List ReturnLineRow) : Prop where
  positive : ∀ line ∈ lines, 0 < line.quantity
  quantity : (quantityOf lines : Int) ≤ max (asI64 sold.quantity) 0
  cents : (centsOf lines : Int) ≤ paid
  tax : (taxOf lines : Int) ≤ max (asI64 sold.taxCents) 0
  whole : 0 < asI64 sold.quantity → quantityOf lines = asI64 sold.quantity →
    centsOf lines = paid ∧ taxOf lines = asI64 sold.taxCents

section Lines
variable {sold : NewOrderLineEntry} {paid : Int} {lines : List ReturnLineRow}

theorem entitled_nil (nonneg : 0 ≤ paid) : Entitled sold paid [] where
  positive := by simp
  quantity := by simp [quantityOf]
  cents := by simpa [centsOf] using nonneg
  tax := by simp [taxOf]
  whole some none := by simp [quantityOf] at none; omega

/-- Lines of a positive quantity that are dropped take units with them. -/
theorem filter_eq_self_of_quantity (positive : ∀ line ∈ lines, 0 < line.quantity) (keeps : ReturnLineRow → Bool)
    (same : quantityOf lines ≤ quantityOf (lines.filter keeps)) : lines.filter keeps = lines := by
  induction lines with
  | nil => rfl
  | cons line lines ih =>
    have first := positive line List.mem_cons_self
    have rest := fun other member => positive other (List.mem_cons_of_mem line member)
    have less : quantityOf (lines.filter keeps) ≤ quantityOf lines :=
      (List.filter_sublist.map ReturnLineRow.quantity).sum_le_sum (by simp)
    cases kept : keeps line with
    | true =>
      rw [List.filter_cons_of_pos kept] at same ⊢
      rw [ih rest (by simpa [quantityOf] using same)]
    | false =>
      rw [List.filter_cons_of_neg (by simp [kept])] at same
      have total : quantityOf (line :: lines) = line.quantity + quantityOf lines := by simp [quantityOf]
      omega

theorem entitled_filter (entitled : Entitled sold paid lines) (keeps : ReturnLineRow → Bool) :
    Entitled sold paid (lines.filter keeps) := by
  have less (amount : ReturnLineRow → Nat) : ((lines.filter keeps).map amount).sum ≤ (lines.map amount).sum :=
    (List.filter_sublist.map amount).sum_le_sum (by simp)
  have quantity : quantityOf (lines.filter keeps) ≤ quantityOf lines := less ReturnLineRow.quantity
  have cents : centsOf (lines.filter keeps) ≤ centsOf lines := less ReturnLineRow.lineTotalCents
  have tax : taxOf (lines.filter keeps) ≤ taxOf lines := less ReturnLineRow.taxCents
  have held := entitled.quantity
  refine ⟨fun line member => entitled.positive line (List.mem_of_mem_filter member), ?_, ?_, ?_, ?_⟩
  · exact (Int.ofNat_le.mpr quantity).trans entitled.quantity
  · exact (Int.ofNat_le.mpr cents).trans entitled.cents
  · exact (Int.ofNat_le.mpr tax).trans entitled.tax
  · intro some all
    have same : lines.filter keeps = lines := filter_eq_self_of_quantity entitled.positive keeps (by omega)
    rw [same] at all ⊢
    exact entitled.whole some all

theorem quantityOf_append (line : ReturnLineRow) : quantityOf (lines ++ [line]) = quantityOf lines + line.quantity := by
  simp [quantityOf]

theorem centsOf_append (line : ReturnLineRow) : centsOf (lines ++ [line]) = centsOf lines + line.lineTotalCents := by
  simp [centsOf]

theorem taxOf_append (line : ReturnLineRow) : taxOf (lines ++ [line]) = taxOf lines + line.taxCents := by
  simp [taxOf]

/-- A column of amounts that together fit is summed as it is. -/
theorem sumColumn_eq {Row : Type} {lines : List Row} (amount : Row → Nat) (small : (lines.map amount).sum < 2 ^ 63) :
    Returns.sumColumn (lines.map fun line => asI64 (amount line)) = .ok ((lines.map amount).sum : Nat) := by
  have each : ∀ line ∈ lines, asI64 (amount line) = amount line := by
    intro line member
    have part : amount line ≤ (lines.map amount).sum :=
      List.single_le_sum (fun _ _ => Nat.zero_le _) _ (List.mem_map_of_mem member)
    exact asI64_of_small (by omega)
  have total : (lines.map fun line => asI64 (amount line)).sum = ((lines.map amount).sum : Nat) := by
    rw [List.map_congr_left each]
    clear small each
    induction lines with
    | nil => rfl
    | cons line lines ih => simp [ih]
  have positive : ∀ term ∈ lines.map fun line => asI64 (amount line), 0 ≤ term := by
    intro term member
    obtain ⟨line, present, rfl⟩ := List.mem_map.mp member
    rw [each line present]
    omega
  unfold Returns.sumColumn
  rw [sumI64_of_small positive (by rw [total]; exact_mod_cast small), total]

theorem taken_eq {lineId : Uuid} {tables : ReturnTables} (fits : FitsI64 paid)
    (entitled : Entitled sold paid (Returns.activeLines lineId tables)) :
    Returns.taken lineId tables = .ok ⟨quantityOf (Returns.activeLines lineId tables),
      centsOf (Returns.activeLines lineId tables), taxOf (Returns.activeLines lineId tables)⟩ := by
  have quantity := entitled.quantity
  have cents := entitled.cents
  have tax := entitled.tax
  have units := asI64_fits sold.quantity
  have taxes := asI64_fits sold.taxCents
  unfold FitsI64 at *
  unfold Returns.taken
  dsimp only
  rw [sumColumn_eq ReturnLineRow.quantity, sumColumn_eq ReturnLineRow.lineTotalCents, sumColumn_eq ReturnLineRow.taxCents]
  · rfl
  · unfold taxOf at tax; omega
  · unfold centsOf at cents; omega
  · unfold quantityOf at quantity; omega

/-- What all units of a line have cost is an amount of the ledger. -/
theorem paidFor_bounds {rank : Uuid → Nat} {order : NewOrderLedgerEntry}
    (priced : Returns.paidFor rank order sold = .ok paid) : 0 ≤ paid ∧ FitsI64 paid := by
  obtain ⟨net, _, priced⟩ := bind_eq_ok priced
  obtain ⟨discounts, _, priced⟩ := bind_eq_ok priced
  obtain ⟨before, _, priced⟩ := bind_eq_ok priced
  obtain rfl := Except.ok.inj priced
  generalize max (saturateI64 (Returns.netOf sold)) 0 - _ = due
  unfold saturateI64 FitsI64
  omega

theorem nextQuantity_ok {before : Returns.Taken} {quantity : Nat} {next : Int}
    (left : Returns.nextQuantity sold before quantity = .ok next) :
    next = before.quantity + quantity ∧ 0 < asI64 sold.quantity ∧ next ≤ asI64 sold.quantity := by
  unfold Returns.nextQuantity at left
  dsimp only at left
  split at left
  · cases left
  · split at left
    · cases left
    · cases left
      omega

theorem award_ok {before : Returns.Taken} {next : Int} {amount tax : Nat}
    (awarded : Returns.award sold paid next before = .ok (amount, tax)) :
    wrapI64 (proportion paid next (asI64 sold.quantity) - before.paidCents) = amount ∧
      wrapI64 (proportion (asI64 sold.taxCents) next (asI64 sold.quantity) - before.taxCents) = tax := by
  unfold Returns.award at awarded
  dsimp only at awarded
  split at awarded
  · cases awarded
  next kept =>
    rw [not_or, not_lt, not_lt] at kept
    obtain ⟨rfl, rfl⟩ := Prod.mk.inj (Except.ok.inj awarded)
    exact ⟨(Int.toNat_of_nonneg kept.1).symm, (Int.toNat_of_nonneg kept.2).symm⟩

/-- The difference of two amounts of one column does not wrap. -/
theorem column_fits {total units next taken : Int} (ledger : FitsI64 total) (sells : 0 < units) (start : 0 ≤ next)
    (within : next ≤ units) (before : 0 ≤ taken ∧ taken ≤ max total 0) :
    FitsI64 (proportion total next units - taken) ∧ proportion total next units ≤ max total 0 := by
  have fits := proportion_fits total next units
  unfold FitsI64 at *
  by_cases charged : 0 ≤ total
  · obtain ⟨low, high⟩ := proportion_bounds charged ledger sells start within
    omega
  · have low := proportion_nonpos (by omega) ledger sells start within
    omega

/-- What is awarded brings one column up to its part for the units taken. An amount that
the ledger has as negative is never given back. -/
theorem column_award {total units next taken given : Int} (ledger : FitsI64 total) (sells : 0 < units)
    (start : 0 ≤ next) (within : next ≤ units) (before : 0 ≤ taken ∧ taken ≤ max total 0)
    (awarded : wrapI64 (proportion total next units - taken) = given) :
    taken + given = proportion total next units ∧ taken + given ≤ max total 0 := by
  have part := column_fits ledger sells start within before
  rw [wrapI64_of_fits part.1] at awarded
  generalize proportion total next units = due at part awarded
  omega

/-- A line that is priced so is an entitlement again: together the lines have then been
given back their part of the price. -/
theorem entitled_award {line : ReturnLineRow} {next : Int} (priced : 0 ≤ paid ∧ FitsI64 paid)
    (entitled : Entitled sold paid lines) (some : 0 < line.quantity)
    (left : Returns.nextQuantity sold ⟨quantityOf lines, centsOf lines, taxOf lines⟩ line.quantity = .ok next)
    (awarded : Returns.award sold paid next ⟨quantityOf lines, centsOf lines, taxOf lines⟩ =
      .ok (line.lineTotalCents, line.taxCents)) : Entitled sold paid (lines ++ [line]) := by
  obtain ⟨nonneg, fits⟩ := priced
  obtain ⟨rfl, sells, within⟩ := nextQuantity_ok left
  obtain ⟨cents, tax⟩ := award_ok awarded
  dsimp only at cents tax within
  have start : (0 : Int) ≤ quantityOf lines + line.quantity :=
    Int.add_nonneg (Int.natCast_nonneg _) (Int.natCast_nonneg _)
  have given := column_award fits sells start within
    ⟨Int.natCast_nonneg _, entitled.cents.trans (Int.le_max_left paid 0)⟩ cents
  have taxed := column_award (asI64_fits sold.taxCents) sells start within
    ⟨Int.natCast_nonneg _, entitled.tax⟩ tax
  refine ⟨?_, ?_, ?_, ?_, ?_⟩
  · intro other member
    rcases List.mem_append.mp member with old | new
    · exact entitled.positive other old
    · exact (List.mem_singleton.mp new) ▸ some
  · rw [quantityOf_append, Nat.cast_add]
    exact within.trans (Int.le_max_left _ _)
  · rw [centsOf_append, Nat.cast_add]
    exact given.2.trans (max_le le_rfl nonneg)
  · rw [taxOf_append, Nat.cast_add]
    exact taxed.2
  · intro _ all
    rw [quantityOf_append, Nat.cast_add] at all
    rw [centsOf_append, taxOf_append, Nat.cast_add, Nat.cast_add, given.1, taxed.1, all]
    exact ⟨proportion_whole sells fits, proportion_whole sells (asI64_fits _)⟩

end Lines
/-- The lines of the ledger, each with its order. -/
def sales (orders : List NewOrderLedgerEntry) : List (NewOrderLedgerEntry × NewOrderLineEntry) :=
  orders.flatMap fun order => order.lines.map (order, ·)

/-- Lines are keyed by their id over all orders. -/
def Keyed (orders : List NewOrderLedgerEntry) : Prop := ((sales orders).map fun sale => sale.2.lineId).Nodup

instance (orders : List NewOrderLedgerEntry) : Decidable (Keyed orders) := inferInstanceAs (Decidable (List.Nodup _))

def namesSale (orders : List NewOrderLedgerEntry) (originalLineId : Option Uuid) : Bool :=
  (sales orders).any fun sale => originalLineId = some sale.2.lineId

/-- What a line has cost; one that cannot be priced cannot be returned. -/
def paidCents (rank : Uuid → Nat) (order : NewOrderLedgerEntry) (line : NewOrderLineEntry) : Int :=
  (Returns.paidFor rank order line).toOption.getD 0

/-- Nothing is taken of any line beyond what it was sold for, and what is taken of the
ledger's lines is taken with a receipt. -/
structure Sound (rank : Uuid → Nat) (orders : List NewOrderLedgerEntry) (tables : ReturnTables) : Prop where
  unique : (tables.returns.map ReturnRow.id).Nodup
  receipted : ∀ line ∈ tables.returnLines, namesSale orders line.originalLineId = true →
    ∃ row ∈ tables.returns, row.id = line.returnId ∧ row.originalOrderId.isSome
  entitled : ∀ sale ∈ sales orders,
    Entitled sale.2 (paidCents rank sale.1 sale.2) (Returns.activeLines sale.2.lineId tables)

section Tables
variable {rank : Uuid → Nat} {orders : List NewOrderLedgerEntry} {tables after : ReturnTables}

theorem mem_sales {sale : NewOrderLedgerEntry × NewOrderLineEntry} :
    sale ∈ sales orders ↔ sale.1 ∈ orders ∧ sale.2 ∈ sale.1.lines := by
  obtain ⟨order, line⟩ := sale
  simp only [sales, List.mem_flatMap, List.mem_map, Prod.mk.injEq]
  constructor
  · rintro ⟨_, stored, _, listed, rfl, rfl⟩
    exact ⟨stored, listed⟩
  · rintro ⟨stored, listed⟩
    exact ⟨order, stored, line, listed, rfl, rfl⟩

/-- One id, one line. -/
theorem sale_unique (keyed : Keyed orders) {sale other : NewOrderLedgerEntry × NewOrderLineEntry}
    (sold : sale ∈ sales orders) (too : other ∈ sales orders) (same : sale.2.lineId = other.2.lineId) : sale = other :=
  List.inj_on_of_nodup_map keyed sold too same

/-- A statement that makes no return active again. -/
theorem activeLines_shrunk (kept : after.returnLines = tables.returnLines) (lineId : Uuid)
    (shrinks : ∀ line ∈ tables.returnLines, line.originalLineId = some lineId →
      Returns.activeReturn after line.returnId = true → Returns.activeReturn tables line.returnId = true) :
    Returns.activeLines lineId after =
      (Returns.activeLines lineId tables).filter fun line => Returns.activeReturn after line.returnId := by
  unfold Returns.activeLines
  rw [List.filter_filter, kept]
  refine List.filter_congr fun line member => ?_
  rw [Bool.eq_iff_iff]
  simp only [decide_eq_true_eq, Bool.and_eq_true]
  constructor
  · rintro ⟨names, active⟩
    exact ⟨active, names, shrinks line member names active⟩
  · rintro ⟨active, names, _⟩
    exact ⟨names, active⟩

theorem sound_shrunk (sound : Sound rank orders tables) (kept : after.returnLines = tables.returnLines)
    (unique : (after.returns.map ReturnRow.id).Nodup)
    (receipts : ∀ row ∈ tables.returns, row.originalOrderId.isSome →
      ∃ row' ∈ after.returns, row'.id = row.id ∧ row'.originalOrderId.isSome)
    (shrinks : ∀ row ∈ tables.returns, row.originalOrderId.isSome →
      Returns.activeReturn after row.id = true → Returns.activeReturn tables row.id = true) :
    Sound rank orders after where
  unique := unique
  receipted line member names := by
    obtain ⟨row, stored, own, receipted⟩ := sound.receipted line (kept ▸ member) names
    obtain ⟨row', stored', same, still⟩ := receipts row stored receipted
    exact ⟨row', stored', same.trans own, still⟩
  entitled sale sold := by
    rw [activeLines_shrunk kept sale.2.lineId]
    · exact entitled_filter (sound.entitled sale sold) _
    · intro line member names active
      have named : namesSale orders line.originalLineId = true :=
        List.any_eq_true.mpr ⟨sale, sold, decide_eq_true names⟩
      obtain ⟨row, stored, own, receipted⟩ := sound.receipted line member named
      rw [← own] at active ⊢
      exact shrinks row stored receipted active

/-- A new line counts with the others when it names the order line. -/
theorem activeLines_added {lineId : Uuid} {line : ReturnLineRow} (added : after.returnLines = tables.returnLines ++ [line])
    (same : ∀ id, Returns.activeReturn after id = Returns.activeReturn tables id) :
    Returns.activeLines lineId after = Returns.activeLines lineId tables ++
      if line.originalLineId = some lineId ∧ Returns.activeReturn tables line.returnId = true then [line] else [] := by
  unfold Returns.activeLines
  rw [added, List.filter_append]
  simp only [same, List.filter_cons, List.filter_nil, decide_eq_true_eq]

theorem insertLine_ok {line : ReturnLineRow} (inserted : Returns.insertLine line tables = .ok after) :
    after = { tables with returnLines := tables.returnLines ++ [line] } := by
  unfold Returns.insertLine at inserted
  split at inserted
  · cases inserted
  · exact (Except.ok.inj inserted).symm

/-- A line that names no sale does not count. -/
theorem sound_insertLine {line : ReturnLineRow} (sound : Sound rank orders tables)
    (foreign : namesSale orders line.originalLineId = false) (inserted : Returns.insertLine line tables = .ok after) :
    Sound rank orders after := by
  have written := insertLine_ok inserted
  have added : after.returnLines = tables.returnLines ++ [line] := by rw [written]
  have same : ∀ id, Returns.activeReturn after id = Returns.activeReturn tables id := by
    rw [written]
    exact fun _ => rfl
  refine ⟨by rw [written]; exact sound.unique, ?_, ?_⟩
  · intro other member names
    rw [added] at member
    have old : other ∈ tables.returnLines := by
      rcases List.mem_append.mp member with old | new
      · exact old
      · obtain rfl := List.mem_singleton.mp new
        rw [foreign] at names
        cases names
    rw [written]
    exact sound.receipted other old names
  · intro sale sold
    have other : line.originalLineId ≠ some sale.2.lineId :=
      fun names => List.any_eq_false.mp foreign sale sold (decide_eq_true names)
    rw [activeLines_added added same, if_neg (by simp [other]), List.append_nil]
    exact sound.entitled sale sold

/-- Which of the other returns are active is untouched by a statement on one of them. -/
theorem activeReturn_other {update : Table.Update ReturnRow} {id other : Uuid}
    (selects : ∀ row : ReturnRow, update.selects row = true → row.id = id)
    (keeps : ∀ row, (update.set row).id = row.id) (apart : other ≠ id) :
    Returns.activeReturn { tables with returns := update.run tables.returns } other =
      Returns.activeReturn tables other := by
  unfold Returns.activeReturn Table.Update.run
  dsimp only
  rw [List.any_map]
  congr 1
  funext row
  rcases update.row_cases row with ⟨selected, same⟩ | ⟨_, same⟩
  · have off : row.id ≠ other := fun clash => apart (clash.symm.trans (selects row selected))
    simp only [Function.comp_apply, same, keeps, off, false_and, decide_false]
  · simp only [Function.comp_apply, same]
    rfl

/-- A statement that leaves ids and receipts alone. -/
theorem sound_update {update : Table.Update ReturnRow} (sound : Sound rank orders tables)
    (ids : ∀ row, (update.set row).id = row.id)
    (receipts : ∀ row, (update.set row).originalOrderId = row.originalOrderId)
    (shrinks : ∀ row ∈ tables.returns, row.originalOrderId.isSome →
      Returns.activeReturn { tables with returns := update.run tables.returns } row.id = true →
        Returns.activeReturn tables row.id = true) :
    Sound rank orders { tables with returns := update.run tables.returns } := by
  refine sound_shrunk sound rfl (Table.unique_run ids sound.unique) ?_ shrinks
  intro row stored receipted
  refine ⟨update.row row, List.mem_map_of_mem stored, update.row_column ReturnRow.id ids row, ?_⟩
  rw [update.row_column ReturnRow.originalOrderId receipts row]
  exact receipted

/-- Writing the header of a blind return. -/
theorem sound_updateTotals {id : Uuid} (totalCents taxCents refundedCents : Nat) (state : ReturnState)
    (sound : Sound rank orders tables) (blind : ∀ row ∈ tables.returns, row.id = id → row.originalOrderId = none) :
    Sound rank orders (Returns.updateTotals id totalCents taxCents refundedCents state tables) := by
  refine sound_update sound (fun _ => rfl) (fun _ => rfl) ?_
  intro row stored receipted active
  have apart : row.id ≠ id := by
    intro same
    rw [blind row stored same] at receipted
    cases receipted
  exact (activeReturn_other (fun _ selected => of_decide_eq_true selected) (fun _ => rfl) apart).symm.trans active

theorem voidRow_ok {id : Uuid} (voided : Returns.voidRow id tables = .ok after) :
    after = { tables with returns :=
      (Table.Update.mk (fun row => row.id = id ∧ Returns.isUnrefunded tables row)
        fun row => { row with state := .voided }).run tables.returns } := by
  unfold Returns.voidRow at voided
  dsimp only at voided
  split at voided
  · exact (Except.ok.inj voided).symm
  · cases voided

theorem sound_voidRow {id : Uuid} (sound : Sound rank orders tables) (voided : Returns.voidRow id tables = .ok after) :
    Sound rank orders after := by
  rw [voidRow_ok voided]
  refine sound_update sound (fun _ => rfl) (fun _ => rfl) ?_
  intro row stored _ active
  unfold Returns.activeReturn Table.Update.run at active
  simp only [List.any_eq_true, List.mem_map, decide_eq_true_eq] at active
  obtain ⟨_, ⟨old, present, rfl⟩, own, active⟩ := active
  refine List.any_eq_true.mpr ⟨old, present, decide_eq_true ⟨?_, ?_⟩⟩
  · rwa [Table.Update.row_column _ ReturnRow.id fun _ => rfl] at own
  · rcases Table.Update.row_cases _ old with ⟨selected, same⟩ | ⟨_, same⟩
    · -- a row that has just been voided is not active
      rw [same] at active
      have unrefunded : Returns.isUnrefunded tables old = true := (of_decide_eq_true selected).2
      have refunded : ¬Returns.isUnrefunded tables old = true := by
        simpa [Returns.isActive, Returns.isUnrefunded, imp_iff_not_or] using active
      exact absurd unrefunded refunded
    · rwa [same] at active

/-- The line found is a sale of the order that the return goes back to. -/
theorem original_ok {input : ReturnLineRow} {sale : NewOrderLedgerEntry × NewOrderLineEntry}
    (unique : (tables.returns.map ReturnRow.id).Nodup) (found : Returns.original orders input tables = .ok sale) :
    sale ∈ sales orders ∧ ∃ row ∈ tables.returns, row.id = input.returnId ∧ row.originalOrderId.isSome ∧
      (row.state = .open ∨ row.state = .items) := by
  unfold Returns.original at found
  dsimp only at found
  split at found
  · cases found
  next accepts =>
    obtain ⟨row, kept⟩ : ∃ row, row ∈ (tables.returns.filter (·.id = input.returnId)).filter
        fun row => row.state = .open ∨ row.state = .items :=
      List.exists_mem_of_length_pos (by omega)
    obtain ⟨present, works⟩ := List.mem_filter.mp kept
    obtain ⟨stored, own⟩ := List.mem_filter.mp present
    split at found
    next order line only =>
      split at found
      · cases found
        have member : (order, line) ∈ [(order, line)] := List.mem_singleton_self _
        rw [← only] at member
        obtain ⟨other, mine, member⟩ := List.mem_flatMap.mp member
        obtain ⟨_, belongs, member⟩ := List.mem_flatMap.mp member
        obtain ⟨_, listed, same⟩ := List.mem_map.mp member
        cases same
        obtain ⟨ordered, goesBack⟩ := List.mem_filter.mp belongs
        obtain ⟨present, too⟩ := List.mem_filter.mp mine
        obtain rfl : other = row := List.inj_on_of_nodup_map unique present stored
          ((of_decide_eq_true too).trans (of_decide_eq_true own).symm)
        refine ⟨mem_sales.mpr ⟨ordered, List.mem_of_mem_filter listed⟩, other, stored, of_decide_eq_true own, ?_,
          of_decide_eq_true works⟩
        rw [(of_decide_eq_true goesBack).1]
        rfl
      · cases found
    next => cases found

theorem refreshHeader_ok {returnId : Uuid} (refreshed : Returns.refreshHeader returnId tables = .ok after) :
    ∃ total tax : Nat, after = { tables with returns :=
      (Table.Update.mk (·.id = returnId) fun row =>
        { row with totalCents := total, taxCents := tax, state := .items }).run tables.returns } := by
  obtain ⟨total, _, refreshed⟩ := bind_eq_ok refreshed
  obtain ⟨tax, _, refreshed⟩ := bind_eq_ok refreshed
  exact ⟨total.toNat, tax.toNat, (Except.ok.inj refreshed).symm⟩

/-- A line is added for what is left of one sale, and the header refreshed. -/
structure LineAdded (rank : Uuid → Nat) (orders : List NewOrderLedgerEntry) (input : ReturnLineRow)
    (before after : ReturnTables) (sale : NewOrderLedgerEntry × NewOrderLineEntry) (taken : Returns.Taken)
    (next paid : Int) (amount tax : Nat) : Prop where
  some : input.quantity ≠ 0
  found : Returns.original orders input before = .ok sale
  counted : Returns.taken sale.2.lineId before = .ok taken
  left : Returns.nextQuantity sale.2 taken input.quantity = .ok next
  priced : Returns.paidFor rank sale.1 sale.2 = .ok paid
  awarded : Returns.award sale.2 paid next taken = .ok (amount, tax)
  written : ∃ between, Returns.insertLine (Returns.receiptedLine input sale.2 amount tax) before = .ok between ∧
    Returns.refreshHeader input.returnId between = .ok after

theorem addReceiptedLine_ok {input : ReturnLineRow}
    (added : Returns.addReceiptedLine rank orders input tables = .ok after) :
    ∃ sale taken next paid amount tax, LineAdded rank orders input tables after sale taken next paid amount tax := by
  unfold Returns.addReceiptedLine at added
  split at added
  · cases added
  next some =>
    obtain ⟨sale, found, added⟩ := bind_eq_ok added
    obtain ⟨taken, counted, added⟩ := bind_eq_ok added
    obtain ⟨next, left, added⟩ := bind_eq_ok added
    obtain ⟨paid, priced, added⟩ := bind_eq_ok added
    obtain ⟨⟨amount, tax⟩, awarded, added⟩ := bind_eq_ok added
    exact ⟨sale, taken, next, paid, amount, tax, some, found, counted, left, priced, awarded, bind_eq_ok added⟩

theorem LineAdded.adds {input : ReturnLineRow} {sale : NewOrderLedgerEntry × NewOrderLineEntry} {taken : Returns.Taken}
    {next paid : Int} {amount tax : Nat}
    (added : LineAdded rank orders input tables after sale taken next paid amount tax) :
    Returns.addReceiptedLine rank orders input tables = .ok after := by
  obtain ⟨between, inserted, refreshed⟩ := added.written
  unfold Returns.addReceiptedLine
  rw [if_neg added.some]
  refine (bind_ok added.found).trans ?_
  refine (bind_ok added.counted).trans ?_
  refine (bind_ok added.left).trans ?_
  refine (bind_ok added.priced).trans ?_
  refine (bind_ok added.awarded).trans ?_
  exact (bind_ok inserted).trans refreshed

/-- Adding a line changes which lines there are and nothing about which returns are active. -/
theorem LineAdded.effect {input : ReturnLineRow} {sale : NewOrderLedgerEntry × NewOrderLineEntry} {taken : Returns.Taken}
    {next paid : Int} {amount tax : Nat} (unique : (tables.returns.map ReturnRow.id).Nodup)
    (added : LineAdded rank orders input tables after sale taken next paid amount tax) :
    after.returnLines = tables.returnLines ++ [Returns.receiptedLine input sale.2 amount tax] ∧
      (∀ id, Returns.activeReturn after id = Returns.activeReturn tables id) ∧
        Returns.activeReturn tables input.returnId = true ∧
          ∃ total tax : Nat, after.returns = (Table.Update.mk (·.id = input.returnId) fun row : ReturnRow =>
            { row with totalCents := total, taxCents := tax, state := .items }).run tables.returns := by
  obtain ⟨between, inserted, refreshed⟩ := added.written
  have middle := insertLine_ok inserted
  obtain ⟨total, charge, rfl⟩ := refreshHeader_ok refreshed
  obtain ⟨_, row, stored, own, _, works⟩ := original_ok unique added.found
  have live : row.state ≠ .voided := by
    rcases works with is | is <;> rw [is] <;> decide
  have active : Returns.activeReturn tables input.returnId = true :=
    List.any_eq_true.mpr ⟨row, stored, decide_eq_true ⟨own, decide_eq_true (.inl live)⟩⟩
  subst middle
  refine ⟨rfl, ?_, active, total, charge, rfl⟩
  intro id
  by_cases mine : id = input.returnId
  · subst mine
    rw [active]
    refine List.any_eq_true.mpr ⟨_, List.mem_map_of_mem stored, decide_eq_true ⟨?_, decide_eq_true (.inl ?_)⟩⟩
    · rwa [Table.Update.row_column _ ReturnRow.id fun _ => rfl]
    · rw [Table.Update.row_selected (decide_eq_true own)]
      simp
  · exact activeReturn_other (fun _ selected => of_decide_eq_true selected) (fun _ => rfl) mine

theorem sound_addReceiptedLine {input : ReturnLineRow} (keyed : Keyed orders) (sound : Sound rank orders tables)
    (added : Returns.addReceiptedLine rank orders input tables = .ok after) : Sound rank orders after := by
  obtain ⟨sale, taken, next, paid, amount, tax, line⟩ := addReceiptedLine_ok added
  obtain ⟨lines, same, active, total, charge, rows⟩ := line.effect sound.unique
  obtain ⟨sold, row, stored, own, receipted, _⟩ := original_ok sound.unique line.found
  refine ⟨by rw [rows]; exact Table.unique_run (fun _ => rfl) sound.unique, ?_, ?_⟩
  · intro other member names
    rw [lines] at member
    have held : ∃ row ∈ tables.returns, row.id = other.returnId ∧ row.originalOrderId.isSome := by
      rcases List.mem_append.mp member with old | new
      · exact sound.receipted other old names
      · obtain rfl := List.mem_singleton.mp new
        exact ⟨row, stored, own, receipted⟩
    obtain ⟨row, stored, own, receipted⟩ := held
    rw [rows]
    refine ⟨_, List.mem_map_of_mem stored, ?_, ?_⟩
    · rwa [Table.Update.row_column _ ReturnRow.id fun _ => rfl]
    · rwa [Table.Update.row_column _ ReturnRow.originalOrderId fun _ => rfl]
  · intro other sold'
    rw [activeLines_added lines same]
    by_cases meant : other = sale
    · subst meant
      have price : paidCents rank other.1 other.2 = paid := by simp [paidCents, line.priced, Except.toOption]
      have entitled := sound.entitled other sold
      rw [price] at entitled ⊢
      have bounds := paidFor_bounds line.priced
      obtain rfl := Except.ok.inj (line.counted.symm.trans (taken_eq bounds.2 entitled))
      rw [if_pos ⟨rfl, active⟩]
      exact entitled_award bounds entitled (Nat.pos_of_ne_zero line.some) line.left line.awarded
    · have names : ¬(Returns.receiptedLine input sale.2 amount tax).originalLineId = some other.2.lineId :=
        fun same => meant (sale_unique keyed sold' sold (Option.some.inj same).symm)
      rw [if_neg (fun both => names both.1), List.append_nil]
      exact sound.entitled other sold'

end Tables
end ApexEdge.Proofs.Entitlements
