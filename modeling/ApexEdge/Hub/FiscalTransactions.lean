import ApexEdge.Domain.Pricing
import ApexEdge.Fiscal.Transaction
import ApexEdge.Hub.PosHandler
import ApexEdge.Storage.ReturnLines

/-! Fiscal transactions: of a paid order the one that is signed when the order is finalized
and the one that the closing of the shift exports from the ledger, and that of a return. -/

namespace ApexEdge.Hub
open Library Payment Domain Storage Contracts Fiscal

/-- A synced tax rule with its name. -/
structure NamedTaxRule extends TaxRule where
  name : String
  deriving DecidableEq, Repr

/-- What the builder reads: the rules of the store, and the category of an item where the
catalog could tell it. -/
structure SaleTables where
  rules : List NamedTaxRule
  taxCategoryId : Uuid → Option Uuid

/-- An item without a known category or rule is untaxed. -/
def taxInfoForItem (tables : SaleTables) (itemId : Uuid) : Nat × String :=
  match tables.taxCategoryId itemId with
  | none => (0, "untaxed")
  | some category =>
    match tables.rules.find? (·.taxCategoryId = category) with
    | some rule => (rule.rateBps, rule.name)
    | none => (0, "untaxed")

def tenderTypeFromLabel (reference provider : Option String) : FiscalTenderType :=
  let label := (trim (reference.getD "")).toLower
  if label = "cash" then .cash
  else if "gift_card".toList.isPrefixOf label.toList then .giftCard
  else if label = "voucher" then .voucher
  else if label = "card" ∨ label = "external" ∨ provider.any (fun name => name ≠ "" ∧ name ≠ "manual") then .card
  else .other

/-- An inclusive price already contains the tax. -/
def netOf (priceCents taxCents : Int) (taxInclusive : Bool) : Int :=
  if taxInclusive then wrapI64 (priceCents - taxCents) else priceCents

/-- The line records how its tax was priced; the rate is that of the rule as it is now. -/
def saleLine (tables : SaleTables) (line : OrderLine) : FiscalLine :=
  let (taxRateBps, taxCategory) := taxInfoForItem tables line.itemId
  let taxCents := asI64 line.taxCents
  let netCents := netOf (asI64 (line.lineTotalCents - line.discountCents)) taxCents line.taxInclusive
  { lineId := line.lineId, sku := line.sku, description := line.name, quantity := line.quantity
    unitPriceCents := asI64 line.unitPriceCents, netCents := netCents, taxCents := taxCents
    grossCents := saturateI64 (netCents + taxCents), discountCents := asI64 line.discountCents
    taxRateBps := taxRateBps, taxCategory := taxCategory, taxInclusive := line.taxInclusive }

def takeShare (share : Int) (line : FiscalLine) : FiscalLine :=
  let netCents := wrapI64 (line.netCents - share)
  { line with
    netCents := netCents
    discountCents := saturateI64 (line.discountCents + share)
    grossCents := saturateI64 (netCents + line.taxCents) }

/-- Each line bears a share in proportion to its net; the last one bears what remains, up to
its net. -/
def spreadBasketDiscount (discount totalNet remaining : Int) (lines : List FiscalLine) : List FiscalLine :=
  match lines with
  | [] => []
  | line :: lines =>
    let quota := if lines.isEmpty then remaining else (saturateI64 (discount * line.netCents)).tdiv totalNet
    let share := max (min (min quota line.netCents) remaining) 0
    takeShare share line :: spreadBasketDiscount discount totalNet (wrapI64 (remaining - share)) lines

def allocateBasketDiscount (discount : Int) (lines : List FiscalLine) : List FiscalLine :=
  let totalNet := wrappingSum (lines.map FiscalLine.netCents)
  if discount ≤ 0 ∨ totalNet ≤ 0 then lines else spreadBasketDiscount discount totalNet discount lines

/-- Take change off the last tender that covers all of it. -/
def takeFromLast (extra : Int) (tenders : List FiscalTender) : Option (List FiscalTender) :=
  match tenders with
  | [] => none
  | tender :: tenders =>
    match takeFromLast extra tenders with
    | some taken => some (tender :: taken)
    | none =>
      if extra ≤ tender.amountCents then
        some ({ tender with amountCents := wrapI64 (tender.amountCents - extra) } :: tenders)
      else none

/-- The sale is fiscalised, not the notes that the customer handed over. -/
def fitTendersToGross (gross : Int) (tenders : List FiscalTender) : List FiscalTender :=
  let sum := wrappingSum (tenders.map FiscalTender.amountCents)
  if 0 < gross ∧ gross < sum then (takeFromLast (wrapI64 (sum - gross)) tenders).getD tenders else tenders

def saleTender (payment : PaymentRecord) : FiscalTender :=
  { tenderId := payment.tenderId
    tenderType := tenderTypeFromLabel payment.externalReference payment.provider
    amountCents := asI64 payment.amountCents, tipCents := asI64 payment.tipAmountCents
    provider := payment.provider, providerReference := payment.providerPaymentId }

/-- Header and tenders of a sale with these lines. -/
def saleOf (orderId : Uuid) (cashPoint : CashPoint) (occurredAt : Timestamp) (currency : String)
    (lines : List FiscalLine) (tenders : List FiscalTender) : FiscalTransaction :=
  let grossCents := wrappingSum (lines.map FiscalLine.grossCents)
  { transactionId := orderId, kind := .sale, referenceTransactionId := none, cashPoint := cashPoint
    occurredAt := occurredAt, currency := currency.toUpper, lines := lines
    tenders := fitTendersToGross grossCents tenders
    netCents := wrappingSum (lines.map FiscalLine.netCents)
    taxCents := wrappingSum (lines.map FiscalLine.taxCents), grossCents := grossCents }

/-- The transaction of a paid order, with its coupons spread over the lines. -/
def saleTransaction (tables : SaleTables) (order : Order) (storeId registerId : Uuid) (shiftId : Option Uuid)
    (currency : String) : FiscalTransaction :=
  let discount := asI64 (order.appliedCoupons.map fun coupon => coupon.2.2).sum
  saleOf order.orderId ⟨storeId, registerId, shiftId, none⟩ order.createdAt currency
    (allocateBasketDiscount discount (order.lines.map (saleLine tables))) (order.payments.map saleTender)

/-! ### The refund -/

/-- What the builder of a refund reads: lines of a return carry a SKU only. -/
structure RefundTables where
  rules : List NamedTaxRule
  taxCategoryId : String → Option Uuid

def taxInfoForSku (tables : RefundTables) (sku : String) : Nat × String :=
  match tables.taxCategoryId sku with
  | none => (0, "untaxed")
  | some category =>
    match tables.rules.find? (·.taxCategoryId = category) with
    | some rule => (rule.rateBps, rule.name)
    | none => (0, "untaxed")

def refundLine (tables : RefundTables) (line : ReturnLineRow) : FiscalLine :=
  let (taxRateBps, taxCategory) := taxInfoForSku tables line.sku
  let taxCents := wrapI64 (-asI64 line.taxCents)
  let netCents := netOf (wrapI64 (-asI64 line.lineTotalCents)) taxCents line.taxInclusive
  { lineId := line.id, sku := line.sku, description := line.name, quantity := line.quantity
    unitPriceCents := asI64 line.unitPriceCents, netCents := netCents, taxCents := taxCents
    grossCents := saturateI64 (netCents + taxCents), discountCents := 0
    taxRateBps := taxRateBps, taxCategory := taxCategory, taxInclusive := line.taxInclusive }

def refundedTender (refund : RefundRow) : FiscalTender :=
  { tenderId := refund.id, tenderType := tenderTypeFromLabel (some refund.tenderType) none
    amountCents := wrapI64 (-asI64 refund.amountCents), tipCents := 0, provider := none, providerReference := none }

/-- Amounts are negative, so that a refund is told from a sale without its kind. -/
def refundTransaction (tables : RefundTables) (snapshot : ReturnSnapshot) (now : Timestamp) (currency : String) :
    FiscalTransaction :=
  let lines := snapshot.lines.map (refundLine tables)
  { transactionId := snapshot.row.id, kind := .refund, referenceTransactionId := snapshot.row.originalOrderId
    cashPoint := ⟨snapshot.row.storeId, snapshot.row.registerId, snapshot.row.shiftId, none⟩
    occurredAt := now, currency := currency.toUpper, lines := lines
    tenders := snapshot.refunds.map refundedTender
    netCents := wrappingSum (lines.map FiscalLine.netCents)
    taxCents := wrappingSum (lines.map FiscalLine.taxCents)
    grossCents := wrappingSum (lines.map FiscalLine.grossCents) }

/-! ### The closing -/

/-- A line of an order as it is read back from the ledger. -/
def fetchedLine (line : NewOrderLineEntry) : NewOrderLineEntry :=
  { line with
    unitPriceCents := Returns.stored line.unitPriceCents
    lineTotalCents := Returns.stored line.lineTotalCents
    discountCents := Returns.stored line.discountCents
    taxCents := Returns.stored line.taxCents }

/-- The type of a tender was trimmed and put in lower case when it was written. -/
def fetchedPayment (payment : NewOrderPaymentEntry) : NewOrderPaymentEntry :=
  { payment with
    tenderType := if trim payment.tenderType = "" then "unknown" else (trim payment.tenderType).toLower
    amountCents := Returns.stored payment.amountCents
    tipAmountCents := Returns.stored payment.tipAmountCents }

/-- Lines and payments are read in the order in which they were written. -/
def fetchOrderLedgerEntry (entry : NewOrderLedgerEntry) : NewOrderLedgerEntry :=
  { entry with lines := entry.lines.map fetchedLine, payments := entry.payments.map fetchedPayment }

/-- The rate that a tax is of a net amount, rounded down to a basis point. -/
def rateOf (netCents taxCents : Int) : Nat :=
  if netCents = 0 then 0 else wrap32 ((saturateI64 (taxCents.natAbs * 10000)).tdiv netCents.natAbs).toNat

/-- The ledger keeps no rates: they are worked out from the amounts. -/
def exportLine (line : NewOrderLineEntry) : FiscalLine :=
  let taxCents := asI64 line.taxCents
  let netCents := netOf (asI64 (line.lineTotalCents - line.discountCents)) taxCents line.taxInclusive
  { lineId := line.lineId, sku := line.sku, description := line.name, quantity := max line.quantity 1
    unitPriceCents := asI64 line.unitPriceCents, netCents := netCents, taxCents := taxCents
    grossCents := saturateI64 (netCents + taxCents), discountCents := asI64 line.discountCents
    taxRateBps := rateOf netCents taxCents, taxCategory := "standard", taxInclusive := line.taxInclusive }

def exportTender (payment : NewOrderPaymentEntry) : FiscalTender :=
  { tenderId := payment.tenderId
    tenderType := tenderTypeFromLabel (some payment.tenderType) payment.provider
    amountCents := asI64 payment.amountCents, tipCents := asI64 payment.tipAmountCents
    provider := payment.provider, providerReference := payment.providerPaymentId }

/-- The transaction that a closing exports for an order of its shift. -/
def transactionFromLedger (order : NewOrderLedgerEntry) (finalizedAt : Timestamp) (currency : String) :
    FiscalTransaction :=
  saleOf order.orderId ⟨order.storeId, order.registerId, order.shiftId, none⟩ finalizedAt currency
    (order.lines.map exportLine) (order.payments.map exportTender)

end ApexEdge.Hub
