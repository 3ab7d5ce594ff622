import ApexEdge.Hub.FiscalTransactions
import ApexEdge.Library.Handout
import ApexEdge.Library.Totals
import ApexEdge.Proofs.CartMoney
import ApexEdge.Proofs.PaidCarts

/-! When the fiscal transaction of a paid cart is valid: its coupons have to fit the nets of
the lines, and its change one of the tenders. -/

namespace ApexEdge.Proofs.FiscalEvidence
open Library Payment Domain Storage Pos Hub Fiscal
open Apportion CartMoney PaidCarts

/-- The largest signed 64-bit amount. -/
abbrev i64Max : Nat := 2 ^ 63 - 1

theorem saturate_product (amount part : Nat) : saturateI64 ((amount : Int) * part) = (min (amount * part) i64Max : Nat) := by
  rw [saturateI64, ← Int.natCast_mul]
  generalize amount * part = product
  dsimp only [i64Max]
  omega

/-! ### Lines -/

/-- Amounts that make sense on the line of a sale. -/
structure Sound (line : FiscalLine) : Prop where
  net : 0 ≤ line.netCents
  tax : 0 ≤ line.taxCents
  gross : line.grossCents = line.netCents + line.taxCents

def netOf (line : FiscalLine) : Nat := line.netCents.toNat

/-- What a discount leaves of a line as it is. -/
def terms (line : FiscalLine) : Int × Nat × Nat := (line.taxCents, line.quantity, line.taxRateBps)

section Spread
variable {lines : List FiscalLine} {line : FiscalLine} {amount whole remaining : Nat}

theorem Sound.net_eq (sound : Sound line) : line.netCents = netOf line := (Int.toNat_of_nonneg sound.net).symm

theorem takeShare_sound (sound : Sound line) (fits : line.grossCents < 2 ^ 63) {share : Nat} (within : share ≤ netOf line) :
    Sound (takeShare share line) ∧ (takeShare share line).netCents = line.netCents - share := by
  obtain ⟨net, tax, gross⟩ := sound
  have left : share ≤ line.netCents := by
    rw [Sound.net_eq ⟨net, tax, gross⟩]
    exact Int.ofNat_le.mpr within
  have kept : wrapI64 (line.netCents - share) = line.netCents - share := wrapI64_of_fits ⟨by omega, by omega⟩
  have sum : saturateI64 (line.netCents - share + line.taxCents) = line.netCents - share + line.taxCents :=
    saturateI64_of_fits ⟨by omega, by omega⟩
  refine ⟨⟨?_, tax, ?_⟩, kept⟩
  · show 0 ≤ wrapI64 _
    rw [kept]
    omega
  · show saturateI64 (wrapI64 _ + _) = wrapI64 _ + _
    rw [kept, sum]
    rfl

/-- The share that the builder takes, in terms of whole cents. -/
theorem share_eq (sound : Sound line) :
    max (min (min (if lines.isEmpty then (remaining : Int)
      else (saturateI64 (amount * line.netCents)).tdiv whole) line.netCents) remaining) 0 =
      (min (min (if (lines.map netOf).isEmpty then remaining else quota i64Max amount whole (netOf line)) (netOf line))
        remaining : Nat) := by
  have quotas : (saturateI64 (amount * line.netCents)).tdiv whole = (quota i64Max amount whole (netOf line) : Nat) := by
    rw [sound.net_eq, saturate_product, quota]
    exact Int.ofNat_tdiv _ _ |>.symm
  rw [quotas, sound.net_eq, List.isEmpty_map]
  split <;> omega

theorem spread_sound (sound : ∀ line ∈ lines, Sound line) (fits : ∀ line ∈ lines, line.grossCents < 2 ^ 63)
    (small : remaining < 2 ^ 63) :
    (∀ line ∈ spreadBasketDiscount amount whole remaining lines, Sound line) ∧
      ((spreadBasketDiscount amount whole remaining lines).map FiscalLine.netCents).sum =
        (lines.map FiscalLine.netCents).sum - borne i64Max amount whole remaining (lines.map netOf) ∧
      (spreadBasketDiscount amount whole remaining lines).map terms = lines.map terms := by
  induction lines generalizing remaining with
  | nil => exact ⟨sound, rfl, rfl⟩
  | cons line lines ih =>
    obtain ⟨here, later⟩ := List.forall_mem_cons.mp sound
    obtain ⟨fits_here, fits_later⟩ := List.forall_mem_cons.mp fits
    rw [spreadBasketDiscount, share_eq here]
    simp only [List.map_cons, borne, List.sum_cons]
    generalize shared : min (min (if (lines.map netOf).isEmpty then remaining
      else quota i64Max amount whole (netOf line)) (netOf line)) remaining = share
    have within : share ≤ netOf line := by omega
    have left : wrapI64 ((remaining : Int) - share) = (remaining - share : Nat) := by
      rw [wrapI64_of_fits ⟨by omega, by omega⟩]
      omega
    obtain ⟨sound_first, net_first⟩ := takeShare_sound here fits_here within
    obtain ⟨sound_rest, net_rest, terms_rest⟩ := @ih (remaining - share) later fits_later (by omega)
    rw [left]
    refine ⟨List.forall_mem_cons.mpr ⟨sound_first, sound_rest⟩, ?_, ?_⟩
    · rw [net_first, net_rest]
      omega
    · rw [terms_rest]
      rfl

theorem net_sum (sound : ∀ line ∈ lines, Sound line) :
    (lines.map FiscalLine.netCents).sum = ((lines.map netOf).sum : Nat) := by
  rw [← Table.cast_sum]
  exact congrArg List.sum (List.map_congr_left fun line member => (sound line member).net_eq)

theorem net_wrapped (sound : ∀ line ∈ lines, Sound line) (whole : (lines.map netOf).sum < 2 ^ 63) :
    wrappingSum (lines.map FiscalLine.netCents) = ((lines.map netOf).sum : Nat) := by
  rw [wrappingSum, net_sum sound]
  exact wrapI64_of_fits ⟨by omega, by omega⟩

/-- The builder's allocation keeps every line sound and takes off what the lines bear. -/
theorem allocate_sound (sound : ∀ line ∈ lines, Sound line) (fits : ∀ line ∈ lines, line.grossCents < 2 ^ 63)
    (small : amount < 2 ^ 63) (whole : (lines.map netOf).sum < 2 ^ 63) :
    (∀ line ∈ allocateBasketDiscount amount lines, Sound line) ∧
      ((allocateBasketDiscount amount lines).map FiscalLine.netCents).sum =
        (lines.map FiscalLine.netCents).sum - borne i64Max amount (lines.map netOf).sum amount (lines.map netOf) ∧
      (allocateBasketDiscount amount lines).map terms = lines.map terms := by
  rw [allocateBasketDiscount, net_wrapped sound whole]
  split
  next nothing =>
    have none : borne i64Max amount (lines.map netOf).sum amount (lines.map netOf) = 0 := by
      rcases nothing with free | worthless
      · obtain rfl : amount = 0 := by omega
        exact borne_zero
      · exact Nat.le_zero.mp (borne_le_sum.trans (by omega))
    rw [none]
    exact ⟨sound, by omega, rfl⟩
  next => exact spread_sound sound fits small

end Spread

/-! ### Validation -/

/-- What the validator asks of a line beside its amounts. -/
def Admissible (line : FiscalLine) : Prop := 0 < line.quantity ∧ line.taxRateBps ≤ 10000

section Validation
variable {lines : List FiscalLine} {tenders : List FiscalTender}

theorem gross_sum_eq (sound : ∀ line ∈ lines, Sound line) : (lines.map FiscalLine.grossCents).sum =
    (lines.map FiscalLine.netCents).sum + (lines.map FiscalLine.taxCents).sum := by
  rw [← List.sum_map_add]
  exact congrArg List.sum (List.map_congr_left fun line member => (sound line member).gross)

theorem sums_nonneg (sound : ∀ line ∈ lines, Sound line) :
    0 ≤ (lines.map FiscalLine.netCents).sum ∧ 0 ≤ (lines.map FiscalLine.taxCents).sum := by
  refine ⟨List.sum_nonneg fun amount member => ?_, List.sum_nonneg fun amount member => ?_⟩
  all_goals obtain ⟨line, present, rfl⟩ := List.mem_map.mp member
  · exact (sound line present).net
  · exact (sound line present).tax

/-- The lines are checked one by one, and their amounts summed with saturation. -/
theorem checkLines_saturating (start totals : LineTotals) :
    FiscalTransaction.checkLines start lines = .ok totals ↔
      (∀ line ∈ lines, Admissible line) ∧
        (∀ line ∈ lines, line.grossCents = saturateI64 (line.netCents + line.taxCents)) ∧
        totals = ⟨saturatingSum start.netCents (lines.map FiscalLine.netCents),
          saturatingSum start.taxCents (lines.map FiscalLine.taxCents),
          saturatingSum start.grossCents (lines.map FiscalLine.grossCents)⟩ := by
  induction lines generalizing start with
  | nil => simp [FiscalTransaction.checkLines, saturatingSum, eq_comm]
  | cons line lines ih =>
    rw [FiscalTransaction.checkLines, List.forall_mem_cons, List.forall_mem_cons, Admissible]
    by_cases none : line.quantity = 0
    · rw [if_pos none]
      exact iff_of_false (by simp) fun all => absurd all.1.1.1 (by omega)
    rw [if_neg none]
    by_cases high : 10000 < line.taxRateBps
    · rw [if_pos high]
      exact iff_of_false (by simp) fun all => absurd all.1.1.2 (by omega)
    rw [if_neg high]
    by_cases whole : line.grossCents = saturateI64 (line.netCents + line.taxCents)
    swap
    · rw [if_pos whole]
      exact iff_of_false (by simp) fun all => whole all.2.1.1
    rw [if_neg (not_not.mpr whole), ih]
    have admissible : 0 < line.quantity ∧ line.taxRateBps ≤ 10000 := by omega
    exact ⟨fun all => ⟨⟨admissible, all.1⟩, ⟨whole, all.2.1⟩, all.2.2⟩, fun all => ⟨all.1.2, all.2.1.2, all.2.2⟩⟩

theorem checkLines_iff (sound : ∀ line ∈ lines, Sound line) (fits : (lines.map FiscalLine.grossCents).sum < 2 ^ 63)
    (totals : LineTotals) :
    FiscalTransaction.checkLines ⟨0, 0, 0⟩ lines = .ok totals ↔
      (∀ line ∈ lines, Admissible line) ∧
        totals = ⟨(lines.map FiscalLine.netCents).sum, (lines.map FiscalLine.taxCents).sum,
          (lines.map FiscalLine.grossCents).sum⟩ := by
  have gross := gross_sum_eq sound
  obtain ⟨net, tax⟩ := sums_nonneg sound
  have worth : ∀ line ∈ lines, 0 ≤ line.grossCents := by
    intro line member
    obtain ⟨net_line, tax_line, own⟩ := sound line member
    omega
  have whole : ∀ line ∈ lines, line.grossCents = saturateI64 (line.netCents + line.taxCents) := by
    intro line member
    obtain ⟨net_line, tax_line, own⟩ := sound line member
    have part := List.single_le_sum (List.forall_mem_map.mpr worth) _
      (List.mem_map_of_mem (f := FiscalLine.grossCents) member)
    rw [saturateI64_of_fits ⟨by omega, by omega⟩, own]
  have nets := @saturatingSum_of_gains 0 (lines.map FiscalLine.netCents)
    (List.forall_mem_map.mpr fun line member => (sound line member).net) (le_refl 0) (by omega)
  have taxes := @saturatingSum_of_gains 0 (lines.map FiscalLine.taxCents)
    (List.forall_mem_map.mpr fun line member => (sound line member).tax) (le_refl 0) (by omega)
  have grosses := @saturatingSum_of_gains 0 (lines.map FiscalLine.grossCents)
    (List.forall_mem_map.mpr worth) (le_refl 0) (by omega)
  rw [checkLines_saturating, nets, taxes, grosses, Int.zero_add, Int.zero_add, Int.zero_add]
  exact ⟨fun all => ⟨all.1, all.2.2⟩, fun all => ⟨all.1, whole, all.2⟩⟩

/-- What the validator asks of a transaction. -/
theorem validate_iff (transaction : FiscalTransaction) :
    transaction.validate = .ok () ↔ transaction.lines ≠ [] ∧ isIsoCurrency transaction.currency = true ∧
      FiscalTransaction.checkLines ⟨0, 0, 0⟩ transaction.lines =
        .ok ⟨transaction.netCents, transaction.taxCents, transaction.grossCents⟩ ∧
      wrappingSum (transaction.tenders.map FiscalTender.amountCents) = transaction.grossCents ∧
      transaction.checkKind = .ok () := by
  unfold FiscalTransaction.validate
  by_cases empty : transaction.lines = []
  · rw [if_pos (List.isEmpty_iff.mpr empty)]
    exact iff_of_false nofun fun all => all.1 empty
  rw [if_neg (mt List.isEmpty_iff.mp empty)]
  by_cases iso : isIsoCurrency transaction.currency = true
  swap
  · rw [if_pos (by simpa using iso)]
    exact iff_of_false nofun fun all => iso all.2.1
  rw [if_neg (by simpa using iso)]
  cases checked : FiscalTransaction.checkLines ⟨0, 0, 0⟩ transaction.lines with
  | error error => exact iff_of_false nofun fun all => nomatch all.2.2.1
  | ok totals =>
    dsimp only
    by_cases header : (⟨transaction.netCents, transaction.taxCents, transaction.grossCents⟩ : LineTotals) = totals
    swap
    · rw [if_pos header]
      exact iff_of_false nofun fun all => header (Except.ok.inj all.2.2.1).symm
    rw [if_neg (not_not.mpr header)]
    by_cases accounted : wrappingSum (transaction.tenders.map FiscalTender.amountCents) = transaction.grossCents
    swap
    · rw [if_pos accounted]
      exact iff_of_false nofun fun all => accounted all.2.2.2.1
    rw [if_neg (not_not.mpr accounted)]
    exact ⟨fun kind => ⟨empty, iso, congrArg Except.ok header.symm, accounted, kind⟩, fun all => all.2.2.2.2⟩

/-- A sale of sound lines is valid when the lines are admissible and its tenders account for it. -/
theorem saleOf_valid_iff (sound : ∀ line ∈ lines, Sound line) (fits : (lines.map FiscalLine.grossCents).sum < 2 ^ 63)
    (positive : 0 < (lines.map FiscalLine.grossCents).sum) (orderId : Uuid) (cashPoint : CashPoint)
    (occurredAt : Timestamp) (currency : String) :
    (saleOf orderId cashPoint occurredAt currency lines tenders).validate = .ok () ↔
      isIsoCurrency currency.toUpper = true ∧ (∀ line ∈ lines, Admissible line) ∧
        wrappingSum ((fitTendersToGross (lines.map FiscalLine.grossCents).sum tenders).map FiscalTender.amountCents) =
          (lines.map FiscalLine.grossCents).sum := by
  obtain ⟨net, tax⟩ := sums_nonneg sound
  have gross := gross_sum_eq sound
  have some : lines ≠ [] := by
    rintro rfl
    simp at positive
  have sums : wrappingSum (lines.map FiscalLine.netCents) = (lines.map FiscalLine.netCents).sum ∧
      wrappingSum (lines.map FiscalLine.taxCents) = (lines.map FiscalLine.taxCents).sum ∧
      wrappingSum (lines.map FiscalLine.grossCents) = (lines.map FiscalLine.grossCents).sum := by
    refine ⟨wrappingSum_of_fits ⟨by omega, by omega⟩, wrappingSum_of_fits ⟨by omega, by omega⟩,
      wrappingSum_of_fits ⟨by omega, by omega⟩⟩
  have kind : (saleOf orderId cashPoint occurredAt currency lines tenders).checkKind = .ok () := by
    rw [FiscalTransaction.checkKind, saleOf]
    simp only [sums.2.2, if_neg (not_le.mpr positive)]
  rw [validate_iff]
  simp only [kind, and_true]
  simp only [saleOf, sums.1, sums.2.1, sums.2.2, checkLines_iff sound fits, and_true]
  exact ⟨fun all => ⟨all.2.1, all.2.2.1, all.2.2.2⟩, fun all => ⟨some, all.1, all.2.1, all.2.2⟩⟩

end Validation

/-! ### Tenders -/

/-- The change fits into one of the amounts, or there is none. -/
def ChangeFits (total : Nat) (amounts : List Nat) : Prop :=
  amounts.sum = total ∨ total < amounts.sum ∧ ∃ amount ∈ amounts, amounts.sum - total ≤ amount

instance (total : Nat) (amounts : List Nat) : Decidable (ChangeFits total amounts) :=
  inferInstanceAs (Decidable (_ ∨ _))

section Tenders
variable {tenders : List FiscalTender} {extra : Int}

theorem takeFromLast_cases (positive : 0 ≤ extra) (fits : ∀ tender ∈ tenders, tender.amountCents < 2 ^ 63) :
    (takeFromLast extra tenders = none ∧ ∀ tender ∈ tenders, tender.amountCents < extra) ∨
      ∃ taken, takeFromLast extra tenders = some taken ∧
        (taken.map FiscalTender.amountCents).sum = (tenders.map FiscalTender.amountCents).sum - extra ∧
        ∃ tender ∈ tenders, extra ≤ tender.amountCents := by
  induction tenders with
  | nil => exact .inl ⟨rfl, fun _ member => nomatch member⟩
  | cons tender tenders ih =>
    obtain ⟨fits_here, fits_later⟩ := List.forall_mem_cons.mp fits
    rw [takeFromLast]
    rcases ih fits_later with ⟨none, small⟩ | ⟨taken, found, sum, covering, member, covers⟩
    · rw [none]
      dsimp only
      split
      next covers =>
        refine .inr ⟨_, rfl, ?_, tender, List.mem_cons_self, covers⟩
        simp only [List.map_cons, List.sum_cons]
        rw [wrapI64_of_fits ⟨by omega, by omega⟩]
        omega
      next short => exact .inl ⟨rfl, List.forall_mem_cons.mpr ⟨by omega, small⟩⟩
    · rw [found]
      refine .inr ⟨_, rfl, ?_, covering, List.mem_cons_of_mem _ member, covers⟩
      simp only [List.map_cons, List.sum_cons, sum]
      omega

theorem saleTender_cents (payment : PaymentRecord) : (saleTender payment).amountCents = asI64 payment.amountCents := by
  rw [saleTender]

/-- The tenders of a cart account for its total exactly when the change fits. -/
theorem fitted_iff {payments : List PaymentRecord} {total : Nat} (positive : 0 < total) (small : total < 2 ^ 63)
    (fits : (payments.map PaymentRecord.amountCents).sum < 2 ^ 63) :
    wrappingSum ((fitTendersToGross total (payments.map saleTender)).map FiscalTender.amountCents) = total ↔
      ChangeFits total (payments.map PaymentRecord.amountCents) := by
  have each : ∀ payment ∈ payments, payment.amountCents < 2 ^ 63 := by
    intro payment member
    have part := List.single_le_sum (fun _ _ => Nat.zero_le _) _ (List.mem_map_of_mem (f := PaymentRecord.amountCents) member)
    omega
  have amounts : (payments.map saleTender).map FiscalTender.amountCents =
      payments.map fun payment => (payment.amountCents : Int) := by
    rw [List.map_map]
    refine List.map_congr_left fun payment member => ?_
    rw [Function.comp_apply, saleTender_cents, asI64_of_small (each payment member)]
  have sum : ((payments.map saleTender).map FiscalTender.amountCents).sum =
      ((payments.map PaymentRecord.amountCents).sum : Nat) := by
    rw [amounts, Table.cast_sum]
  generalize all : (payments.map PaymentRecord.amountCents).sum = tendered at *
  have wrapped : wrappingSum ((payments.map saleTender).map FiscalTender.amountCents) = tendered := by
    rw [wrappingSum, sum]
    exact wrapI64_of_fits ⟨by omega, by omega⟩
  rw [fitTendersToGross, wrapped]
  split
  next change =>
    have extra : wrapI64 ((tendered : Int) - total) = (tendered - total : Nat) := by
      rw [wrapI64_of_fits ⟨by omega, by omega⟩]
      omega
    have below : ∀ tender ∈ payments.map saleTender, tender.amountCents < 2 ^ 63 := by
      intro tender member
      obtain ⟨payment, -, rfl⟩ := List.mem_map.mp member
      rw [saleTender_cents]
      exact (asI64_fits payment.amountCents).2
    rw [extra]
    rcases takeFromLast_cases (Int.natCast_nonneg (tendered - total)) below with
      ⟨none, short⟩ | ⟨taken, found, rest, tender, member, covers⟩
    · rw [none, Option.getD_none, wrapped]
      refine iff_of_false (by omega) ?_
      rintro (exact_ | ⟨-, amount, paid, covers⟩)
      · omega
      · obtain ⟨payment, present, rfl⟩ := List.mem_map.mp paid
        have less := short _ (List.mem_map_of_mem present)
        rw [saleTender_cents, asI64_of_small (each payment present)] at less
        omega
    · obtain ⟨payment, present, rfl⟩ := List.mem_map.mp member
      rw [saleTender_cents, asI64_of_small (each payment present)] at covers
      rw [sum] at rest
      rw [found, Option.getD_some, wrappingSum_of_fits ⟨by omega, by omega⟩]
      refine iff_of_true (by omega) (.inr ⟨by omega, payment.amountCents, List.mem_map_of_mem present, ?_⟩)
      omega
  next =>
    rw [wrapped, ChangeFits, all]
    omega

end Tenders

/-! ### Carts -/

/-- All prices and taxes of a cart, and all that was tendered, are signed 64-bit amounts. -/
structure AmountsSigned (cart : Cart) : Prop where
  lines : (cart.lines.map fun line => line.lineTotalCents + line.taxCents).sum < 2 ^ 63
  tendered : cart.tenderedCents < 2 ^ 63

/-- The net price of a line: what it costs less a tax that is contained in it. -/
def netCents (line : CartLineItem) : Nat := lineNet line - if line.taxInclusive then line.taxCents else 0

/-- What makes the fiscal transaction of a paid cart valid. -/
structure Evident (tables : SaleTables) (currency : String) (cart : Cart) : Prop where
  currency : isIsoCurrency currency.toUpper = true
  quantities : ∀ line ∈ cart.lines, 0 < line.quantity
  rates : ∀ line ∈ cart.lines, (taxInfoForItem tables line.itemId).1 ≤ 10000
  coupons : Bears i64Max (couponCents cart) (cart.lines.map netCents)
  change : ChangeFits cart.totalCents (cart.payments.map PaymentRecord.amountCents)

def orderLine (line : CartLineItem) : OrderLine :=
  { lineId := line.lineId, itemId := line.itemId, sku := line.sku, name := line.name
    quantity := line.quantity, unitPriceCents := line.unitPriceCents
    lineTotalCents := line.lineTotalCents, discountCents := line.discountCents
    taxCents := line.taxCents, taxInclusive := line.taxInclusive
    modifierOptionIds := line.modifierOptionIds, notes := line.notes }

section Carts
variable {tables : SaleTables} {line : CartLineItem} {cart : Cart}

theorem saleLine_terms (line : OrderLine) :
    terms (saleLine tables line) = (asI64 line.taxCents, line.quantity, (taxInfoForItem tables line.itemId).1) := by
  rw [saleLine, terms]

theorem saleLine_tax (line : OrderLine) : (saleLine tables line).taxCents = asI64 line.taxCents := by
  rw [saleLine]

theorem saleLine_gross (line : OrderLine) : (saleLine tables line).grossCents =
    saturateI64 ((saleLine tables line).netCents + (saleLine tables line).taxCents) := by
  rw [saleLine]

theorem saleLine_net (within : TaxWithin line) (fits : line.lineTotalCents + line.taxCents < 2 ^ 63) :
    (saleLine tables (orderLine line)).netCents = netCents line := by
  have price : line.lineTotalCents - line.discountCents < 2 ^ 63 := by omega
  show Hub.netOf (asI64 (line.lineTotalCents - line.discountCents)) (asI64 line.taxCents) line.taxInclusive = _
  rw [asI64_of_small price, asI64_of_small (by omega), Hub.netOf, netCents, lineNet]
  split
  next inclusive =>
    have less := within inclusive
    rw [lineNet] at less
    rw [wrapI64_of_fits ⟨by omega, by omega⟩]
    omega
  next => rw [Nat.sub_zero]

theorem saleLine_sound (within : TaxWithin line) (fits : line.lineTotalCents + line.taxCents < 2 ^ 63) :
    Sound (saleLine tables (orderLine line)) ∧ netOf (saleLine tables (orderLine line)) = netCents line ∧
      (saleLine tables (orderLine line)).grossCents = line.grossCents := by
  have net : (saleLine tables (orderLine line)).netCents = netCents line := saleLine_net within fits
  have small_tax : asI64 line.taxCents = line.taxCents := asI64_of_small (by omega)
  have tax : (saleLine tables (orderLine line)).taxCents = line.taxCents := (saleLine_tax _).trans small_tax
  have gross := @saleLine_gross tables (orderLine line)
  have whole : netCents line + line.taxCents = line.grossCents := by
    rw [netCents, CartLineItem.grossCents, saturatingAdd, lineNet]
    dsimp only [u64Max]
    split
    next inclusive =>
      have less := within inclusive
      rw [lineNet] at less
      omega
    next => omega
  have small : line.grossCents < 2 ^ 63 := by
    rw [← whole, netCents, lineNet]
    omega
  rw [net, tax, saturateI64_of_fits ⟨by omega, by omega⟩] at gross
  refine ⟨⟨by omega, by omega, by omega⟩, ?_, by omega⟩
  rw [netOf, net, Int.toNat_natCast]

theorem gross_bound (fits : AmountsSigned cart) : (cart.lines.map CartLineItem.grossCents).sum < 2 ^ 63 := by
  refine Nat.lt_of_le_of_lt (List.sum_le_sum fun line _ => ?_) fits.lines
  rw [CartLineItem.grossCents, saturatingAdd]
  split <;> omega

theorem each_signed (fits : AmountsSigned cart) : ∀ line ∈ cart.lines, line.lineTotalCents + line.taxCents < 2 ^ 63 := by
  intro line member
  have part := List.single_le_sum (fun _ _ => Nat.zero_le _) _
    (List.mem_map_of_mem (f := fun line => line.lineTotalCents + line.taxCents) member)
  exact Nat.lt_of_le_of_lt part fits.lines

/-- The lines of a cart before its coupons are spread. -/
theorem sale_lines (within : ∀ line ∈ cart.lines, TaxWithin line) (fits : AmountsSigned cart) :
    (∀ line ∈ cart.toOrderLines.map (saleLine tables), Sound line) ∧
      (∀ line ∈ cart.toOrderLines.map (saleLine tables), line.grossCents < 2 ^ 63) ∧
      (cart.toOrderLines.map (saleLine tables)).map netOf = cart.lines.map netCents ∧
      ((cart.toOrderLines.map (saleLine tables)).map FiscalLine.grossCents).sum =
        ((cart.lines.map CartLineItem.grossCents).sum : Nat) := by
  have line_facts := fun line member => @saleLine_sound tables line (within line member) (each_signed fits line member)
  have shape : cart.toOrderLines.map (saleLine tables) = cart.lines.map fun line => saleLine tables (orderLine line) :=
    List.map_map
  have bound := gross_bound fits
  rw [shape]
  refine ⟨?_, ?_, ?_, ?_⟩
  · intro line member
    obtain ⟨item, present, rfl⟩ := List.mem_map.mp member
    exact (line_facts item present).1
  · intro line member
    obtain ⟨item, present, rfl⟩ := List.mem_map.mp member
    have part := List.single_le_sum (fun _ _ => Nat.zero_le _) _ (List.mem_map_of_mem (f := CartLineItem.grossCents) present)
    rw [(line_facts item present).2.2]
    omega
  · rw [List.map_map]
    exact List.map_congr_left fun line member => (line_facts line member).2.1
  · rw [List.map_map, ← Table.cast_sum]
    exact congrArg List.sum (List.map_congr_left fun line member => (line_facts line member).2.2)

/-- The lines of a cart with its coupons on them: what they come to, less what they bear. -/
theorem allocated (within : ∀ line ∈ cart.lines, TaxWithin line) (fits : AmountsSigned cart)
    (covered : couponCents cart < 2 ^ 63) :
    let sold := allocateBasketDiscount (couponCents cart) (cart.toOrderLines.map (saleLine tables))
    (∀ line ∈ sold, Sound line) ∧
      (sold.map FiscalLine.grossCents).sum =
        ((cart.lines.map CartLineItem.grossCents).sum : Nat) -
          borne i64Max (couponCents cart) (cart.lines.map netCents).sum (couponCents cart) (cart.lines.map netCents) ∧
      sold.map terms = (cart.toOrderLines.map (saleLine tables)).map terms := by
  intro sold
  obtain ⟨sound, small, nets_eq, gross_eq⟩ := @sale_lines tables cart within fits
  have bound := gross_bound fits
  have gross := gross_sum_eq sound
  have nonneg := sums_nonneg sound
  have net_total := net_sum sound
  rw [nets_eq] at net_total
  have whole : ((cart.toOrderLines.map (saleLine tables)).map netOf).sum < 2 ^ 63 := by
    rw [nets_eq]
    omega
  obtain ⟨sold_sound, sold_net, sold_terms⟩ := allocate_sound sound small covered whole
  rw [nets_eq] at sold_net
  refine ⟨sold_sound, ?_, sold_terms⟩
  have taxes : (sold.map FiscalLine.taxCents).sum = ((cart.toOrderLines.map (saleLine tables)).map FiscalLine.taxCents).sum := by
    have same := congrArg (List.map Prod.fst) sold_terms
    rw [List.map_map, List.map_map] at same
    exact congrArg List.sum same
  rw [gross_sum_eq sold_sound, sold_net, taxes]
  omega

/-- The lines that are sold have the quantities and rates of the cart's. -/
theorem admissible_iff {sold : List FiscalLine}
    (same : sold.map terms = (cart.toOrderLines.map (saleLine tables)).map terms) :
    (∀ line ∈ sold, Admissible line) ↔
      (∀ line ∈ cart.lines, 0 < line.quantity) ∧ ∀ line ∈ cart.lines, (taxInfoForItem tables line.itemId).1 ≤ 10000 := by
  have through : (∀ line ∈ sold, Admissible line) ↔ ∀ entry ∈ sold.map terms, 0 < entry.2.1 ∧ entry.2.2 ≤ 10000 := by
    rw [List.forall_mem_map]
    rfl
  rw [through, same, List.forall_mem_map, List.forall_mem_map, ← forall₂_and]
  refine List.forall_mem_map.trans (forall₂_congr fun line _ => ?_)
  rw [saleLine_terms]

end Carts

section Runs
open CartStates

def payCash (id cents : Nat) : CartCommand :=
  .changeCart (.random 1) (.addPayment ⟨.random id, cents, 0, some "cash", none, none, none⟩ 0)

/-- Prices with so much off for a code, and a tax of 20% in the price where it is asked for. -/
def shop (cents : Nat) (taxed : List Uuid) : PriceTables :=
  { rules := [⟨.random 60, 2000, true⟩], promos := [{ tenOff with promoType := .fixedAmountOff cents }]
    itemToTaxCategory := taxed.map fun item => (item, .random 60), now := 0 }

def couponFor (cents : Nat) (taxed : List Uuid) : CartCommand :=
  edit (shop cents taxed) (.applyCoupon "TEN" tenCoupon [{ tenOff with promoType := .fixedAmountOff cents }])

/-- A ten-dollar sale with five dollars off, paid with a note of ten. -/
def evidentSale : List CartCommand :=
  [openCart, edit (shop 500 []) (.addLineItem (line 7 1000 1)), couponFor 500 [], tender, payCash 90 1000]

def untaxed : SaleTables := ⟨[], fun _ => none⟩

def signedSale (order : Order) : FiscalTransaction := saleTransaction untaxed order .nil .nil none "usd"

/-- Two lines of ten dollars, a free one, and a coupon of an odd amount. -/
def freeLastLine : List CartCommand :=
  [openCart, edit (shop 501 []) (.addLineItem (line 7 1000 1)), edit (shop 501 []) (.addLineItem (line 8 1000 1)),
    edit (shop 501 []) (.addLineItem (line 11 0 1)), couponFor 501 [], tender, payCash 90 1499]

/-- A line of twelve dollars with two dollars of tax in it, and eleven dollars off. -/
def couponAboveNet : List CartCommand :=
  [openCart, edit (shop 1100 [.random 107]) (.addLineItem (line 7 1200 1)), couponFor 1100 [.random 107], tender,
    payCash 90 100]

/-- Five dollars, paid three times. -/
def paidThrice : List CartCommand :=
  [openCart, edit (shop 0 []) (.addLineItem (line 7 500 1)), tender, payCash 90 500, payCash 91 500, payCash 92 500]

/-- A line of no units beside one that is sold. -/
def emptyLine : List CartCommand :=
  [openCart, edit (shop 0 []) (.addLineItem (line 7 500 1)), edit (shop 0 []) (.addLineItem (line 8 500 0)), tender,
    payCash 90 500]

/-- What the validator says of the sale, its gross and the order's total. -/
def verdict (commands : List CartCommand) : Option (Option String × Int × Nat) := do
  let cart ← Carts.load (.random 1) (runCommands commands).carts
  let order ← (cart.toOrder (.random 9)).toOption
  let said :=
    match (signedSale order).validate with
    | .error (.invalidTransaction reason) => some reason
    | _ => none
  return (said, (signedSale order).grossCents, order.totalCents)

end Runs
end ApexEdge.Proofs.FiscalEvidence
