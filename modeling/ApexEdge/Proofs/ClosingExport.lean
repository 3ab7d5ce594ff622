import ApexEdge.Proofs.FiscalEvidence

/-! The closing export against what was signed. The ledger keeps neither the coupons nor the
rates of an order: the export leaves the coupons out, and works the rates out from the amounts. -/

namespace ApexEdge.Proofs.ClosingExport
open Library Payment Domain Storage Contracts Pos Hub
open Fiscal Apportion PaidCarts FiscalEvidence
open CartMoney (couponCents)

/-- What the lines under one tax rate come to. -/
def atRate (rate : Nat) (value : FiscalLine → Int) (lines : List FiscalLine) : Int :=
  Table.total (·.taxRateBps = rate) value lines

/-- The same amounts under every tax rate, and the same amounts tendered. -/
structure Agrees (exported signed : FiscalTransaction) : Prop where
  net : ∀ rate, atRate rate FiscalLine.netCents exported.lines = atRate rate FiscalLine.netCents signed.lines
  tax : ∀ rate, atRate rate FiscalLine.taxCents exported.lines = atRate rate FiscalLine.taxCents signed.lines
  gross : ∀ rate, atRate rate FiscalLine.grossCents exported.lines = atRate rate FiscalLine.grossCents signed.lines
  tenders : exported.tenders.map FiscalTender.amountCents = signed.tenders.map FiscalTender.amountCents

/-- No cent of the coupons falls on any line. -/
def Unshared (cart : Cart) : Prop :=
  couponCents cart = 0 ∨ reach i64Max (couponCents cart) (cart.lines.map netCents).sum (cart.lines.map netCents) = 0

instance (cart : Cart) : Decidable (Unshared cart) := inferInstanceAs (Decidable (_ ∨ _))

def workedRate (line : CartLineItem) : Nat := rateOf (netCents line) line.taxCents

def ruleRate (tables : SaleTables) (line : CartLineItem) : Nat := (taxInfoForItem tables line.itemId).1

/-- The lines whose tax is some rate of their net come to the same as the lines with that rate. -/
def SameByRate (tables : SaleTables) (cart : Cart) (value : CartLineItem → Int) : Prop :=
  ∀ rate, Table.total (workedRate · = rate) value cart.lines = Table.total (ruleRate tables · = rate) value cart.lines

/-- When the export of a cart's order agrees with what was signed. -/
structure ExportsAlike (tables : SaleTables) (cart : Cart) : Prop where
  unshared : Unshared cart
  net : SameByRate tables cart (netCents ·)
  tax : SameByRate tables cart (·.taxCents)

section Rates
variable {lines others : List FiscalLine}

/-- What the rates and amounts of a line are told by. -/
def worth (line : FiscalLine) : Nat × Int × Int × Int := (line.taxRateBps, line.netCents, line.taxCents, line.grossCents)

theorem atRate_of_worth (same : lines.map worth = others.map worth) (rate : Nat) :
    atRate rate FiscalLine.netCents lines = atRate rate FiscalLine.netCents others ∧
      atRate rate FiscalLine.taxCents lines = atRate rate FiscalLine.taxCents others ∧
      atRate rate FiscalLine.grossCents lines = atRate rate FiscalLine.grossCents others := by
  have through (value : Nat × Int × Int × Int → Int) : Table.total (·.taxRateBps = rate) (value ∘ worth) lines =
      Table.total (·.taxRateBps = rate) (value ∘ worth) others := by
    have mapped := congrArg (Table.total (fun entry : Nat × Int × Int × Int => decide (entry.1 = rate)) value) same
    rwa [Table.total_map, Table.total_map] at mapped
  exact ⟨through (·.2.1), through (·.2.2.1), through (·.2.2.2)⟩

/-- Amounts that agree under every rate agree in all. -/
theorem sum_of_rates {value : FiscalLine → Int} (same : ∀ rate, atRate rate value lines = atRate rate value others) :
    (lines.map value).sum = (others.map value).sum := by
  let rates : Finset Nat := ((lines ++ others).map FiscalLine.taxRateBps).toFinset
  have whole (rows : List FiscalLine) (part : ∀ line ∈ rows, line ∈ lines ++ others) :
      ∑ rate ∈ rates, atRate rate value rows = (rows.map value).sum := by
    have all : ∀ line ∈ rows, line.taxRateBps ∈ rates :=
      fun line member => List.mem_toFinset.mpr (List.mem_map_of_mem (part line member))
    have split := @Table.total_by_key _ _ (fun _ => true) value rows _ FiscalLine.taxRateBps rates all
    simpa [Table.total, atRate] using split
  rw [← whole lines fun line member => List.mem_append_left _ member,
    ← whole others fun line member => List.mem_append_right _ member]
  exact Finset.sum_congr rfl fun rate _ => same rate

/-- An allocation that takes nothing changes no amount. -/
theorem spread_nothing {amount whole remaining : Nat} (sound : ∀ line ∈ lines, Sound line)
    (fits : ∀ line ∈ lines, line.grossCents < 2 ^ 63) (small : remaining < 2 ^ 63)
    (nothing : borne i64Max amount whole remaining (lines.map FiscalEvidence.netOf) = 0) :
    (spreadBasketDiscount amount whole remaining lines).map worth = lines.map worth := by
  induction lines with
  | nil => rfl
  | cons line lines ih =>
    obtain ⟨here, later⟩ := List.forall_mem_cons.mp sound
    obtain ⟨fits_here, fits_later⟩ := List.forall_mem_cons.mp fits
    simp only [List.map_cons, borne, Nat.add_eq_zero_iff] at nothing
    rw [spreadBasketDiscount, share_eq here, nothing.1]
    obtain ⟨none, rest⟩ := nothing
    rw [none, Nat.sub_zero] at rest
    have same : wrapI64 ((remaining : Int) - (0 : Nat)) = remaining := wrapI64_of_fits ⟨by omega, by omega⟩
    obtain ⟨sound_first, net_first⟩ := takeShare_sound here fits_here (Nat.zero_le (FiscalEvidence.netOf line))
    have net : (takeShare (0 : Nat) line).netCents = line.netCents := by omega
    have tax : (takeShare (0 : Nat) line).taxCents = line.taxCents := rfl
    have rate : (takeShare (0 : Nat) line).taxRateBps = line.taxRateBps := rfl
    have gross : (takeShare (0 : Nat) line).grossCents = line.grossCents := by
      rw [sound_first.gross, net, tax, here.gross]
    have first : worth (takeShare (0 : Nat) line) = worth line := by rw [worth, worth, rate, net, tax, gross]
    rw [same, List.map_cons, List.map_cons, ih later fits_later rest, first]

theorem allocate_nothing {amount : Nat} (sound : ∀ line ∈ lines, Sound line)
    (fits : ∀ line ∈ lines, line.grossCents < 2 ^ 63) (small : amount < 2 ^ 63)
    (whole : (lines.map FiscalEvidence.netOf).sum < 2 ^ 63)
    (nothing : borne i64Max amount (lines.map FiscalEvidence.netOf).sum amount (lines.map FiscalEvidence.netOf) = 0) :
    (allocateBasketDiscount amount lines).map worth = lines.map worth := by
  rw [allocateBasketDiscount, net_wrapped sound whole]
  split
  · rfl
  · exact spread_nothing sound fits small nothing

end Rates

section Tenders
variable {first second : List FiscalTender} {extra gross : Int}

theorem takeFromLast_amounts (same : first.map FiscalTender.amountCents = second.map FiscalTender.amountCents) :
    (takeFromLast extra first).map (·.map FiscalTender.amountCents) =
      (takeFromLast extra second).map (·.map FiscalTender.amountCents) := by
  induction first generalizing second with
  | nil =>
    rw [List.map_nil, List.nil_eq, List.map_eq_nil_iff] at same
    rw [same]
  | cons tender first ih =>
    cases second with
    | nil => exact nomatch same
    | cons other second =>
      obtain ⟨head, rest⟩ := List.cons.inj same
      have later := ih rest
      simp only [takeFromLast]
      cases one : takeFromLast extra first with
      | some taken =>
        rw [one] at later
        obtain ⟨others, two, equal⟩ := Option.map_eq_some_iff.mp later.symm
        rw [two]
        simp only [Option.map_some, List.map_cons, head, equal]
      | none =>
        rw [one] at later
        rw [Option.map_eq_none_iff.mp later.symm]
        dsimp only
        rw [head]
        split
        · simp only [Option.map_some, List.map_cons, rest]
        · rfl

/-- Fitting looks at the amounts alone. -/
theorem fitted_amounts (same : first.map FiscalTender.amountCents = second.map FiscalTender.amountCents) :
    (fitTendersToGross gross first).map FiscalTender.amountCents =
      (fitTendersToGross gross second).map FiscalTender.amountCents := by
  simp only [fitTendersToGross, same]
  split
  · have taken := @takeFromLast_amounts first second
      (wrapI64 (wrappingSum (second.map FiscalTender.amountCents) - gross)) same
    cases one : takeFromLast (wrapI64 (wrappingSum (second.map FiscalTender.amountCents) - gross)) first with
    | none =>
      rw [one] at taken
      rw [Option.map_eq_none_iff.mp taken.symm]
      exact same
    | some fitted =>
      rw [one] at taken
      obtain ⟨others, two, equal⟩ := Option.map_eq_some_iff.mp taken.symm
      rw [two]
      exact equal.symm
  · exact same

end Tenders

/-! ### Orders of the ledger -/

/-- Every amount of a cart is a signed 64-bit amount. -/
structure LedgerSigned (cart : Cart) : Prop where
  amounts : AmountsSigned cart
  discounts : ∀ line ∈ cart.lines, line.discountCents < 2 ^ 63
  coupons : couponCents cart < 2 ^ 63

/-- A line as it is signed before the coupons are spread. -/
def sold (tables : SaleTables) (line : CartLineItem) : FiscalLine := saleLine tables (orderLine line)

/-- A line as the closing exports it. -/
def exported (line : CartLineItem) : FiscalLine := exportLine (fetchedLine (ledgerLine (orderLine line)))

/-- A fiscal line with the amounts of a line of a cart. -/
structure Carries (line : CartLineItem) (fiscal : FiscalLine) : Prop where
  net : fiscal.netCents = netCents line
  tax : fiscal.taxCents = line.taxCents
  gross : fiscal.grossCents = netCents line + line.taxCents

section Lines
variable {tables : SaleTables} {line : CartLineItem}

theorem sold_carries (within : TaxWithin line) (fits : line.lineTotalCents + line.taxCents < 2 ^ 63) :
    Carries line (sold tables line) := by
  have net := @saleLine_net tables line within fits
  have tax_signed : asI64 line.taxCents = line.taxCents := asI64_of_small (by omega)
  have tax := (@saleLine_tax tables (orderLine line)).trans tax_signed
  refine ⟨net, tax, ?_⟩
  rw [sold, (saleLine_sound within fits).1.gross, net, tax]

theorem sold_rate (line : CartLineItem) : (sold tables line).taxRateBps = ruleRate tables line := by
  simp only [sold, saleLine, orderLine, ruleRate]

/-- What is read back and exported are the amounts that were signed before the coupons were spread. -/
theorem exported_carries (within : TaxWithin line) (fits : line.lineTotalCents + line.taxCents < 2 ^ 63)
    (discount : line.discountCents < 2 ^ 63) : Carries line (exported line) ∧ (exported line).taxRateBps = workedRate line := by
  have carries := @sold_carries ⟨[], fun _ => none⟩ line within fits
  have total : Returns.stored line.lineTotalCents = line.lineTotalCents := Returns.stored_of_small (by omega)
  have tax_stored : Returns.stored line.taxCents = line.taxCents := Returns.stored_of_small (by omega)
  have tax_signed : asI64 line.taxCents = line.taxCents := asI64_of_small (by omega)
  have net : (exported line).netCents = netCents line := by
    rw [← carries.net]
    simp only [exported, exportLine, fetchedLine, ledgerLine, sold, orderLine, saleLine, total, tax_stored,
      Returns.stored_of_small discount]
  have tax : (exported line).taxCents = line.taxCents := by
    simp only [exported, exportLine, fetchedLine, ledgerLine, orderLine, tax_stored, tax_signed]
  have gross : (exported line).grossCents = saturateI64 ((exported line).netCents + (exported line).taxCents) := by
    simp only [exported, exportLine]
  have rate : (exported line).taxRateBps = rateOf (exported line).netCents (exported line).taxCents := by
    simp only [exported, exportLine]
  have price : netCents line ≤ line.lineTotalCents := by
    rw [netCents, lineNet]
    omega
  rw [net, tax, saturateI64_of_fits ⟨by omega, by omega⟩] at gross
  refine ⟨⟨net, tax, gross⟩, ?_⟩
  rw [rate, net, tax, workedRate]

end Lines

section Ledger
variable {tables : SaleTables} {cart : Cart} {order : Order}

theorem sold_lines (lines : order.lines = cart.toOrderLines) : order.lines.map (saleLine tables) = cart.lines.map (sold tables) := by
  rw [lines]
  exact List.map_map

theorem exported_lines (lines : order.lines = cart.toOrderLines) :
    ((order.lines.map ledgerLine).map fetchedLine).map exportLine = cart.lines.map exported := by
  rw [lines]
  simp only [Cart.toOrderLines, List.map_map]
  rfl

/-- A sum under a rate, taken over the lines of the cart. -/
theorem atRate_lines {f : CartLineItem → FiscalLine} {rateOfLine : CartLineItem → Nat} (carries : ∀ line ∈ cart.lines, Carries line (f line))
    (rates : ∀ line ∈ cart.lines, (f line).taxRateBps = rateOfLine line) (rate : Nat) :
    atRate rate FiscalLine.netCents (cart.lines.map f) = Table.total (rateOfLine · = rate) (netCents ·) cart.lines ∧
      atRate rate FiscalLine.taxCents (cart.lines.map f) = Table.total (rateOfLine · = rate) (·.taxCents) cart.lines ∧
      atRate rate FiscalLine.grossCents (cart.lines.map f) =
        Table.total (rateOfLine · = rate) (netCents ·) cart.lines +
          Table.total (rateOfLine · = rate) (·.taxCents) cart.lines := by
  have same : ∀ line ∈ cart.lines, decide ((f line).taxRateBps = rate) = decide (rateOfLine line = rate) :=
    fun line member => decide_eq_decide.mpr (by rw [rates line member])
  refine ⟨?_, ?_, ?_⟩
  · rw [atRate, Table.total_map]
    exact Table.total_congr same fun line member => (carries line member).net
  · rw [atRate, Table.total_map]
    exact Table.total_congr same fun line member => (carries line member).tax
  · rw [atRate, Table.total_map, ← Table.total_add]
    exact Table.total_congr same fun line member => (carries line member).gross

theorem exportTender_cents (payment : NewOrderPaymentEntry) : (exportTender payment).amountCents = asI64 payment.amountCents := by
  rw [exportTender]

/-- The amounts tendered are those of the cart's payments, on either side. -/
theorem tendered_amounts (signed : AmountsSigned cart) :
    ((cart.payments.map ledgerPayment).map fetchedPayment |>.map exportTender).map FiscalTender.amountCents =
      (cart.payments.map saleTender).map FiscalTender.amountCents := by
  simp only [List.map_map]
  refine List.map_congr_left fun payment member => ?_
  have part := List.single_le_sum (fun _ _ => Nat.zero_le _) _ (List.mem_map_of_mem (f := PaymentRecord.amountCents) member)
  have small : payment.amountCents < 2 ^ 63 := Nat.lt_of_le_of_lt part signed.tendered
  have fetched : (fetchedPayment (ledgerPayment payment)).amountCents = payment.amountCents := by
    simp only [fetchedPayment, ledgerPayment, Returns.stored_of_small small]
  rw [Function.comp_apply, Function.comp_apply, Function.comp_apply, Function.comp_apply, exportTender_cents, fetched,
    saleTender_cents]

variable (within : ∀ line ∈ cart.lines, TaxWithin line) (signed : LedgerSigned cart)
include within signed

theorem every_sold : ∀ line ∈ cart.lines, Carries line (sold tables line) :=
  fun line member => sold_carries (within line member) (each_signed signed.amounts line member)

theorem every_exported : ∀ line ∈ cart.lines, Carries line (exported line) ∧ (exported line).taxRateBps = workedRate line :=
  fun line member =>
    exported_carries (within line member) (each_signed signed.amounts line member) (signed.discounts line member)

/-- The lines of a cart are fit to have its coupons spread over them. -/
theorem sold_fit : (∀ line ∈ cart.lines.map (sold tables), Sound line) ∧
    (∀ line ∈ cart.lines.map (sold tables), line.grossCents < 2 ^ 63) ∧
    (cart.lines.map (sold tables)).map FiscalEvidence.netOf = cart.lines.map netCents ∧
    ((cart.lines.map (sold tables)).map FiscalEvidence.netOf).sum < 2 ^ 63 := by
  obtain ⟨sound, small, nets, gross⟩ := @sale_lines tables cart within signed.amounts
  have shape : cart.toOrderLines.map (saleLine tables) = cart.lines.map (sold tables) := List.map_map
  rw [shape] at sound small nets gross
  have bound := gross_bound signed.amounts
  have net_total := net_sum sound
  have nonneg := sums_nonneg sound
  have gross_total := gross_sum_eq sound
  exact ⟨sound, small, nets, by omega⟩

/-- Without a cent of the coupons on a line, the lines are signed as they are. -/
theorem unshared_worth (unshared : Unshared cart) :
    (allocateBasketDiscount (couponCents cart) (cart.lines.map (sold tables))).map worth =
      (cart.lines.map (sold tables)).map worth := by
  obtain ⟨sound, small, nets, whole⟩ := @sold_fit tables cart within signed
  refine allocate_nothing sound small signed.coupons whole ?_
  rw [nets]
  exact borne_eq_zero_iff.mpr unshared

/-- Nets that agree in all leave no cent of the coupons to a line. -/
theorem unshared_of_nets (same : ((cart.lines.map exported).map FiscalLine.netCents).sum =
    ((allocateBasketDiscount (couponCents cart) (cart.lines.map (sold tables))).map FiscalLine.netCents).sum) : Unshared cart := by
  obtain ⟨sound, small, nets, whole⟩ := @sold_fit tables cart within signed
  have exported_sum : ((cart.lines.map exported).map FiscalLine.netCents).sum = ((cart.lines.map netCents).sum : Nat) := by
    rw [List.map_map, ← Table.cast_sum]
    exact congrArg List.sum (List.map_congr_left fun line member => (every_exported within signed line member).1.net)
  have spread := (allocate_sound sound small signed.coupons whole).2.1
  rw [exported_sum, spread, net_sum sound, nets] at same
  exact borne_eq_zero_iff.mp (by omega)

theorem agree_iff {exported_ signed_ : FiscalTransaction} (exported_lines : exported_.lines = cart.lines.map exported)
    (signed_lines : signed_.lines = allocateBasketDiscount (couponCents cart) (cart.lines.map (sold tables)))
    (tenders : Unshared cart → exported_.tenders.map FiscalTender.amountCents = signed_.tenders.map FiscalTender.amountCents) :
    Agrees exported_ signed_ ↔ ExportsAlike tables cart := by
  have carried := every_exported within signed
  have exports := atRate_lines (fun line member => (carried line member).1) fun line member => (carried line member).2
  have sales := atRate_lines (@every_sold tables cart within signed) fun line _ => sold_rate line
  constructor
  · intro agrees
    have unshared : Unshared cart := by
      have sums := sum_of_rates agrees.net
      rw [exported_lines, signed_lines] at sums
      exact unshared_of_nets within signed sums
    have same := atRate_of_worth (@unshared_worth tables cart within signed unshared)
    refine ⟨unshared, fun rate => ?_, fun rate => ?_⟩
    · rw [← (exports rate).1, ← (sales rate).1, ← (same rate).1, ← exported_lines, ← signed_lines]
      exact agrees.net rate
    · rw [← (exports rate).2.1, ← (sales rate).2.1, ← (same rate).2.1, ← exported_lines, ← signed_lines]
      exact agrees.tax rate
  · intro alike
    have same := atRate_of_worth (@unshared_worth tables cart within signed alike.unshared)
    refine ⟨fun rate => ?_, fun rate => ?_, fun rate => ?_, tenders alike.unshared⟩
    · rw [exported_lines, signed_lines, (same rate).1, (exports rate).1, (sales rate).1]
      exact alike.net rate
    · rw [exported_lines, signed_lines, (same rate).2.1, (exports rate).2.1, (sales rate).2.1]
      exact alike.tax rate
    · rw [exported_lines, signed_lines, (same rate).2.2, (exports rate).2.2, (sales rate).2.2, alike.net rate, alike.tax rate]

/-- Without coupons on the lines both sides have the same gross, and fit the tenders to it alike. -/
theorem unshared_gross (unshared : Unshared cart) : (cart.lines.map exported).map FiscalLine.grossCents =
    (allocateBasketDiscount (couponCents cart) (cart.lines.map (sold tables))).map FiscalLine.grossCents := by
  have same := congrArg (List.map (·.2.2.2)) (@unshared_worth tables cart within signed unshared)
  rw [List.map_map, List.map_map] at same
  refine Eq.trans ?_ same.symm
  rw [List.map_map, List.map_map]
  refine List.map_congr_left fun line member => ?_
  have sale := (@every_sold tables cart within signed line member).gross
  exact ((every_exported within signed line member).1.gross).trans sale.symm

end Ledger

/-- For the order of every paid cart that any run of cart commands stores: what the closing
exports agrees with what was signed exactly when no cent of a coupon falls on a line, and the
rates worked out from the amounts group them as the rules do. -/
theorem export_agrees_iff (commands : List CartCommand) {id : Uuid} {cart : Cart}
    (loaded : Carts.load id (runCommands commands).carts = some cart) (paid : cart.state = .paid)
    (signed : LedgerSigned cart) (tables : SaleTables) (storeId registerId : Uuid) (shiftId : Option Uuid)
    (currency : String) (orderId submissionId : Uuid) (envelope : PosRequestEnvelope) (fiscal : FiscalPersistFields)
    (finalizedAt : Timestamp) :
    ∃ order, cart.toOrder orderId = .ok order ∧
      (Agrees
        (transactionFromLedger (fetchOrderLedgerEntry (ledgerEntry envelope order shiftId submissionId fiscal)) finalizedAt
          currency)
        (saleTransaction tables order storeId registerId shiftId currency) ↔ ExportsAlike tables cart) := by
  have sellable := every_cart_sellable commands loaded
  obtain ⟨order, built, lines, payments, -, coupons⟩ := sellable.toOrder paid orderId
  refine ⟨order, built, ?_⟩
  have discount : asI64 (order.appliedCoupons.map fun coupon => coupon.2.2).sum = couponCents cart := by
    rw [coupons, List.map_map]
    exact asI64_of_small signed.coupons
  have closing := exported_lines lines
  have sale := @sold_lines tables cart order lines
  refine agree_iff sellable.within signed closing ?_ fun unshared => ?_
  · rw [saleTransaction, discount, sale]
    rfl
  · have gross := @unshared_gross tables cart sellable.within signed unshared
    have amounts := tendered_amounts signed.amounts
    rw [← payments] at amounts
    rw [saleTransaction, discount, sale, transactionFromLedger]
    show (fitTendersToGross (wrappingSum
      ((((order.lines.map ledgerLine).map fetchedLine).map exportLine).map FiscalLine.grossCents)) _).map _ =
        (fitTendersToGross (wrappingSum _) _).map _
    rw [closing, gross]
    exact fitted_amounts amounts

/-- Where every line's rate works out as the rule has it, the rates group the lines alike. -/
theorem sameByRate_of_own {tables : SaleTables} {cart : Cart} {value : CartLineItem → Int}
    (own : ∀ line ∈ cart.lines, workedRate line = ruleRate tables line) : SameByRate tables cart value :=
  fun _ => Table.total_congr (fun line member => decide_eq_decide.mpr (by rw [own line member])) fun _ _ => rfl

section Runs
open CartStates

def vat (rateBps : Nat) : SaleTables := ⟨[⟨⟨.random 60, rateBps, true⟩, "VAT"⟩], fun _ => some (.random 60)⟩

def signedUnder (tables : SaleTables) (order : Order) : FiscalTransaction := saleTransaction tables order .nil .nil none "EUR"

def finalizeRequest : PosRequestEnvelope := ⟨.v1_0_0, .random 1, .nil, .nil, .finalizeOrder ⟨.random 1⟩⟩

def unsigned : FiscalPersistFields := ⟨none, none, none, none, none, false⟩

def closingOf (order : Order) : FiscalTransaction :=
  transactionFromLedger
    (fetchOrderLedgerEntry (ledgerEntry finalizeRequest order none (.random 2) unsigned)) 0 "EUR"

/-- Twelve euros with two euros of tax in them, paid with fifteen. -/
def roundSale : List CartCommand :=
  [openCart, edit (shop 0 [.random 107]) (.addLineItem (line 7 1200 1)), tender, payCash 90 1500]

theorem round_sale_exported :
    ∃ cart order, Carts.load (.random 1) (runCommands roundSale).carts = some cart ∧
      cart.toOrder (.random 9) = .ok order ∧ Agrees (closingOf order) (signedUnder (vat 2000) order) := by
  obtain ⟨cart, loaded, paid, lines, tendered, discounts, coupons, unshared, own⟩ :
      ∃ cart, Carts.load (.random 1) (runCommands roundSale).carts = some cart ∧ cart.state = .paid ∧
        (cart.lines.map fun line => line.lineTotalCents + line.taxCents).sum < 2 ^ 63 ∧ cart.tenderedCents < 2 ^ 63 ∧
        (∀ line ∈ cart.lines, line.discountCents < 2 ^ 63) ∧ couponCents cart < 2 ^ 63 ∧ Unshared cart ∧
        ∀ line ∈ cart.lines, workedRate line = ruleRate (vat 2000) line := ⟨_, rfl, rfl, by decide +kernel⟩
  obtain ⟨order, built, agrees⟩ := export_agrees_iff roundSale loaded paid ⟨⟨lines, tendered⟩, discounts, coupons⟩
    (vat 2000) .nil .nil none "EUR" (.random 9) (.random 2) finalizeRequest unsigned 0
  exact ⟨cart, order, loaded, built, agrees.mpr ⟨unshared, sameByRate_of_own own, sameByRate_of_own own⟩⟩

/-- A line of 9.99 with 19% tax on top. -/
def oddSale : List CartCommand :=
  [openCart,
    edit { shop 0 [.random 107] with rules := [⟨.random 60, 1900, false⟩] } (.addLineItem (line 7 999 1)), tender,
    payCash 90 1188]

/-- The net under a rate and the amounts tendered, as exported and as signed. -/
def compared (tables : SaleTables) (rate : Nat) (commands : List CartCommand) : Option ((Int × Int) × List Int × List Int) := do
  let cart ← Carts.load (.random 1) (runCommands commands).carts
  let order ← (cart.toOrder (.random 9)).toOption
  let exported := closingOf order
  let signed := signedUnder tables order
  return ((atRate rate FiscalLine.netCents exported.lines, atRate rate FiscalLine.netCents signed.lines),
    exported.tenders.map FiscalTender.amountCents, signed.tenders.map FiscalTender.amountCents)

/-- The coupon is missing from the export, in the net and in the tender; and a tax that was
rounded makes another rate of 19%. -/
theorem export_differs :
    compared untaxed 0 evidentSale = some ((1000, 500), [1000], [500]) ∧
      compared (vat 1900) 1900 oddSale = some ((0, 999), [1188], [1188]) ∧
      compared (vat 1900) 1891 oddSale = some ((999, 0), [1188], [1188]) := by
  refine ⟨?_, ?_, ?_⟩ <;> decide +kernel

end Runs
end ApexEdge.Proofs.ClosingExport
