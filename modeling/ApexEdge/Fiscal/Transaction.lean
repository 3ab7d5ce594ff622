import Mathlib.Data.List.Sort
import ApexEdge.Domain.Cart
import ApexEdge.Library.SignedWord

/-! The transaction that a fiscal signer is given, and what makes it valid. Amounts are
signed; those of a refund are negative. -/

namespace ApexEdge.Fiscal
open Library Payment Domain

inductive FiscalTransactionKind where
  | sale | refund | void
  deriving DecidableEq, Repr

inductive FiscalTenderType where
  | cash | card | giftCard | voucher | other
  deriving DecidableEq, Repr

structure CashPoint where
  storeId : Uuid
  registerId : Uuid
  shiftId : Option Uuid
  operatorId : Option String
  deriving DecidableEq, Repr

structure FiscalLine where
  lineId : Uuid
  sku : String
  description : String
  quantity : Nat
  unitPriceCents : Int
  netCents : Int
  taxCents : Int
  grossCents : Int
  discountCents : Int
  taxRateBps : Nat
  taxCategory : String
  taxInclusive : Bool
  deriving DecidableEq, Repr

structure FiscalTender where
  tenderId : Uuid
  tenderType : FiscalTenderType
  amountCents : Int
  tipCents : Int
  provider : Option String
  providerReference : Option String
  deriving DecidableEq, Repr

structure FiscalTransaction where
  transactionId : Uuid
  kind : FiscalTransactionKind
  referenceTransactionId : Option Uuid
  cashPoint : CashPoint
  occurredAt : Timestamp
  currency : String
  lines : List FiscalLine
  tenders : List FiscalTender
  netCents : Int
  taxCents : Int
  grossCents : Int
  deriving DecidableEq, Repr

inductive FiscalError where
  | notConfigured (provider : String)
  | invalidTransaction (reason : String)
  | unavailable (provider detail : String)
  | rejected (provider code detail : String)
  deriving DecidableEq, Repr

namespace FiscalError

def toString (error : FiscalError) : String :=
  match error with
  | .notConfigured provider => s!"fiscal provider {provider} is not configured"
  | .invalidTransaction reason => s!"fiscal transaction is invalid: {reason}"
  | .unavailable provider detail => s!"fiscal provider {provider} is unavailable: {detail}"
  | .rejected provider code detail => s!"fiscal provider {provider} rejected the transaction ({code}): {detail}"

/-- Only an outage is worth another attempt. -/
def isTransient (error : FiscalError) : Bool :=
  match error with
  | .unavailable .. => true
  | _ => false

end FiscalError

/-- What a till does while the signer is down. -/
inductive OfflinePolicy where
  | failClosed | signLater
  deriving DecidableEq, Repr

structure TaxBreakdownEntry where
  rateBps : Nat
  taxCategory : String
  netCents : Int
  taxCents : Int
  grossCents : Int
  deriving DecidableEq, Repr

structure FiscalSignature where
  provider : String
  fiscalId : Option String
  signature : Option String
  qrPayload : Option String
  signedAt : Timestamp
  deriving DecidableEq, Repr

def invalid (reason : String) : FiscalError := .invalidTransaction reason

/-- Three letters of ASCII. -/
def isIsoCurrency (code : String) : Bool := code.toList.length = 3 && code.toList.all Char.isAlpha

structure LineTotals where
  netCents : Int
  taxCents : Int
  grossCents : Int
  deriving DecidableEq, Repr

namespace FiscalTransaction

/-- Check the lines one after the other and sum them up. -/
def checkLines (totals : LineTotals) (lines : List FiscalLine) : Except FiscalError LineTotals :=
  match lines with
  | [] => .ok totals
  | line :: lines =>
    if line.quantity = 0 then .error (invalid "a sold line always has a quantity")
    else if 10000 < line.taxRateBps then .error (invalid "tax rate cannot exceed 100 percent")
    else if line.grossCents ≠ saturateI64 (line.netCents + line.taxCents) then
      .error (invalid "line gross must equal net plus tax")
    else
      checkLines
        ⟨saturateI64 (totals.netCents + line.netCents), saturateI64 (totals.taxCents + line.taxCents),
          saturateI64 (totals.grossCents + line.grossCents)⟩ lines

def checkKind (transaction : FiscalTransaction) : Except FiscalError Unit :=
  match transaction.kind with
  | .sale =>
    if transaction.grossCents ≤ 0 then .error (invalid "a sale must have a positive gross total") else .ok ()
  | .refund =>
    if 0 ≤ transaction.grossCents then .error (invalid "a refund must have a negative gross total") else .ok ()
  | .void =>
    if transaction.referenceTransactionId = none then
      .error (invalid "a void must reference the original transaction")
    else .ok ()

def validate (transaction : FiscalTransaction) : Except FiscalError Unit :=
  if transaction.lines.isEmpty then .error (invalid "a fiscal transaction must have at least one line")
  else if !isIsoCurrency transaction.currency then
    .error (invalid "currency must be a three-letter ISO 4217 code")
  else
    match checkLines ⟨0, 0, 0⟩ transaction.lines with
    | .error error => .error error
    | .ok totals =>
      if (⟨transaction.netCents, transaction.taxCents, transaction.grossCents⟩ : LineTotals) ≠ totals then
        .error (invalid "header totals must equal the sum of the lines")
      else if wrappingSum (transaction.tenders.map FiscalTender.amountCents) ≠ transaction.grossCents then
        .error (invalid "the tender breakdown must account for the whole transaction")
      else transaction.checkKind

/-- A group of one line. -/
def openGroup (line : FiscalLine) : TaxBreakdownEntry :=
  ⟨line.taxRateBps, line.taxCategory, line.netCents, line.taxCents, line.grossCents⟩

def addLine (existing : TaxBreakdownEntry) (line : FiscalLine) : TaxBreakdownEntry :=
  { existing with
    netCents := wrapI64 (existing.netCents + line.netCents), taxCents := wrapI64 (existing.taxCents + line.taxCents)
    grossCents := wrapI64 (existing.grossCents + line.grossCents) }

/-- Add a line to the group of its rate, or open one for it. -/
def groupLine (grouped : List TaxBreakdownEntry) (line : FiscalLine) : List TaxBreakdownEntry :=
  match grouped with
  | [] => [openGroup line]
  | existing :: grouped =>
    if existing.rateBps = line.taxRateBps then addLine existing line :: grouped
    else existing :: groupLine grouped line

def taxBreakdown (transaction : FiscalTransaction) : List TaxBreakdownEntry :=
  (transaction.lines.foldl groupLine []).insertionSort (·.rateBps ≤ ·.rateBps)

end FiscalTransaction
end ApexEdge.Fiscal
