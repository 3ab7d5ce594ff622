import ApexEdge.Fiscal.Transaction
import ApexEdge.Sync.SyncRun

/-! What the till writes out of the transactions of a shift: the code on an Austrian receipt,
and the tables of a German cash-point closing. -/

namespace ApexEdge.Fiscal
open Library Payment Domain

/-- How a number of hundredths and a point in time are printed. -/
structure Formats where
  decimal : Int → String
  instant : Timestamp → String

/-! ### Receipt codes -/

/-- The magnitude of the least number wraps. -/
def absI64 (n : Int) : Int := wrapI64 n.natAbs

/-- The amounts of a receipt code, in cents. -/
structure RksvAmounts where
  normal : Int
  reduced : Int
  special : Int
  zero : Int
  turnover : Int
  deriving DecidableEq, Repr

def sumRate (transaction : FiscalTransaction) (rateBps : Nat) : Int :=
  absI64 (wrappingSum ((transaction.lines.filter (·.taxRateBps = rateBps)).map FiscalLine.grossCents))

/-- The amounts as they are printed, each without its sign. -/
def rksvAmounts (transaction : FiscalTransaction) : RksvAmounts where
  normal := absI64 (sumRate transaction 1900)
  reduced := absI64 (wrapI64 (sumRate transaction 1000 + sumRate transaction 1300 + sumRate transaction 700))
  special := absI64 (sumRate transaction 500)
  zero := absI64 (sumRate transaction 0)
  turnover := absI64 (absI64 transaction.grossCents)

def shortId (value : String) : String := String.ofList ((value.toList.filter (· ≠ '-')).take 8)

def rksvPayload (formats : Formats) (transaction : FiscalTransaction) (taxId : String) : String :=
  let register := shortId transaction.cashPoint.registerId.toString
  let receipt := shortId transaction.transactionId.toString
  let instant := formats.instant transaction.occurredAt
  let amounts := rksvAmounts transaction
  let normal := formats.decimal amounts.normal
  let reduced := formats.decimal amounts.reduced
  let special := formats.decimal amounts.special
  let zero := formats.decimal amounts.zero
  let turnover := formats.decimal amounts.turnover
  let trimmed := Sync.trim taxId.toList
  let cert := if trimmed.isEmpty then "UNSET" else String.ofList trimmed
  s!"_R1-AT1_{register}_{receipt}_{instant}_{normal}_{reduced}_{special}_{zero}_{turnover}_{cert}_{receipt}"

/-! ### Tables -/

def csvEscape (value : List Char) : List Char :=
  if ';' ∈ value ∨ '"' ∈ value ∨ '\n' ∈ value ∨ '&' ∈ value then
    '"' :: value.flatMap (fun char => if char = '"' then ['"', '"'] else [char]) ++ ['"']
  else value

def csvRow (fields : List (List Char)) : List Char := [';'].intercalate (fields.map csvEscape) ++ ['\n']

def csvTable (rows : List (List (List Char))) : List Char := rows.flatMap csvRow

structure CashPointClosing where
  registerId : Uuid
  currency : String
  taxId : String
  transactions : List FiscalTransaction

def kindName (kind : FiscalTransactionKind) : String :=
  match kind with
  | .sale => "Umsatz"
  | .refund => "Retoure"
  | .void => "Storno"

def tenderName (tenderType : FiscalTenderType) : String :=
  match tenderType with
  | .cash => "Bar"
  | .card => "Unbar"
  | .giftCard => "Gutschein"
  | .voucher => "Gutschein"
  | .other => "Unbar"

namespace CashPointClosing
variable (formats : Formats) (closing : CashPointClosing)

def kasse : List (List String) :=
  [["KASSE_ID", "STEUERNUMMER", "WAEHRUNG", "BRAND", "MODELL"],
    [closing.registerId.toString, closing.taxId, closing.currency, "ApexEdge", "store-hub"]]

def bonkopf : List (List String) :=
  ["BON_ID", "KASSE_ID", "BON_TYP", "BON_START", "BON_ENDE", "UMS_BRUTTO", "KUNDE_NAME"] ::
    closing.transactions.map fun tx =>
      [tx.transactionId.toString, closing.registerId.toString, kindName tx.kind, formats.instant tx.occurredAt,
        formats.instant tx.occurredAt, formats.decimal tx.grossCents, ""]

def bonpos : List (List String) :=
  ["BON_ID", "POS_ZEILE", "ARTIKELTEXT", "MENGE", "Ums_Netto", "Ums_Brutto"] ::
    closing.transactions.flatMap fun tx =>
      tx.lines.zipIdx.map fun (line, index) =>
        [tx.transactionId.toString, toString (index + 1), line.description, toString line.quantity,
          formats.decimal line.netCents, formats.decimal line.grossCents]

def bonust : List (List String) :=
  ["BON_ID", "UST_SATZ", "UST_PFLICHT", "UST_BETRAG"] ::
    closing.transactions.flatMap fun tx =>
      tx.taxBreakdown.map fun vat =>
        [tx.transactionId.toString, formats.decimal vat.rateBps, formats.decimal vat.netCents,
          formats.decimal vat.taxCents]

def zahlart : List (List String) :=
  ["BON_ID", "ZAHLART", "ZAHL_BETRAG"] ::
    closing.transactions.flatMap fun tx =>
      tx.tenders.map fun tender =>
        [tx.transactionId.toString, tenderName tender.tenderType, formats.decimal tender.amountCents]

/-- The rows of each file of a closing. -/
def tables : List (String × List (List String)) :=
  [("Stamm_Kassen.csv", closing.kasse), ("Bonkopf.csv", closing.bonkopf formats),
    ("Bonpos.csv", closing.bonpos formats), ("Bonpos_USt.csv", closing.bonust formats),
    ("Z_Zahlart.csv", closing.zahlart formats)]

end CashPointClosing

def dsfinvkFiles (formats : Formats) (closing : CashPointClosing) : List (String × List Char) :=
  (closing.tables formats).map fun (name, rows) => (name, csvTable (rows.map (·.map String.toList)))

end ApexEdge.Fiscal
