import Mathlib.Logic.Function.Basic
import Mdkd.Impl.Store

/-!
# The statements on the invoice table

The statements `daemon::store::invoice_metadata` runs on `mdk_invoice_metadata`,
by column: an `INSERT` binds its parameters to the columns it lists, in order,
and leaves the others at their defaults; a `SELECT` gives the values of the
columns it lists, in order, and these are decoded by position. A value that a
column declared `NOT NULL` does not take, or that is not of the type asked for,
is an error.
-/

namespace Mdkd.Sql

open Framework

/-- A value of SQLite. -/
inductive Value where
  | null
  | integer (i : Int64)
  | text (s : String)
  deriving DecidableEq

/-- The columns of `mdk_invoice_metadata`. -/
inductive Column where
  | paymentHash
  | externalId
  | webhookUrl
  | checkoutId
  | description
  | invoice
  | amountSat
  | createdAt
  | expiresAt
  | notifiedExpired
  | paid
  deriving DecidableEq

def Column.all : List Column :=
  [.paymentHash, .externalId, .webhookUrl, .checkoutId, .description, .invoice, .amountSat,
    .createdAt, .expiresAt, .notifiedExpired, .paid]

/-- The columns declared `NOT NULL`. -/
def Column.notNull : Column → Bool
  | .checkoutId | .createdAt | .expiresAt | .notifiedExpired | .paid => true
  | _ => false

/-- The `DEFAULT` of a column. -/
def Column.default : Column → Value
  | .expiresAt | .notifiedExpired | .paid => .integer 0
  | _ => .null

abbrev Row : Type := Column → Value

/-- The table, with its `PRIMARY KEY`. -/
abbrev MetadataTable : Type := Table fun row : Row => row .paymentHash

/-! ## Parameters and values -/

def ofText : Option String → Value
  | some s => .text s
  | none => .null

def ofInteger : Option Int64 → Value
  | some i => .integer i
  | none => .null

/-- `row.get::<_, String>`. -/
def getText : Option Value → Option String
  | some (.text s) => some s
  | _ => none

/-- `row.get::<_, Option<String>>`. -/
def getOptText : Option Value → Option (Option String)
  | some (.text s) => some (some s)
  | some .null => some none
  | _ => none

/-- `row.get::<_, i64>`. -/
def getInteger : Option Value → Option Int64
  | some (.integer i) => some i
  | _ => none

/-- `row.get::<_, Option<i64>>`. -/
def getOptInteger : Option Value → Option (Option Int64)
  | some (.integer i) => some (some i)
  | some .null => some none
  | _ => none

/-! ## Statements -/

/-- The columns of the `INSERT`. -/
def insertColumns : List Column :=
  [.paymentHash, .externalId, .webhookUrl, .checkoutId, .description, .invoice, .amountSat,
    .createdAt, .expiresAt]

/-- The parameters bound to them. -/
def insertParams (metadata : InvoiceMetadata) : List Value :=
  [.text metadata.paymentHash, ofText metadata.externalId, ofText metadata.webhookUrl,
    .text metadata.checkoutId, ofText metadata.description, ofText metadata.invoice,
    ofInteger (metadata.amountSat.map UInt64.toInt64), .integer metadata.createdAt.toInt64,
    .integer metadata.expiresAt.toInt64]

/-- The row an `INSERT` makes, unless a column refuses its value. -/
def insertedRow (columns : List Column) (params : List Value) : Option Row :=
  let row : Row := fun c => ((columns.zip params).lookup c).getD c.default
  if Column.all.all fun c => !c.notNull || row c ≠ .null then some row else none

/-- The columns each of the four queries lists. -/
def selectColumns : List Column :=
  [.paymentHash, .externalId, .webhookUrl, .checkoutId, .description, .invoice, .amountSat,
    .createdAt, .expiresAt]

def select (columns : List Column) (row : Row) : List Value := columns.map row

/-- `InvoiceMetadata::try_from(&Row)`, by position. -/
def tryFrom (values : List Value) : Option InvoiceMetadata := do
  let paymentHash ← getText values[0]?
  let externalId ← getOptText values[1]?
  let webhookUrl ← getOptText values[2]?
  let checkoutId ← getText values[3]?
  let description ← getOptText values[4]?
  let invoice ← getOptText values[5]?
  let amountSat ← getOptInteger values[6]?
  let createdAt ← getInteger values[7]?
  let expiresAt ← getInteger values[8]?
  return { paymentHash := paymentHash
           externalId := externalId
           webhookUrl := webhookUrl
           checkoutId := checkoutId
           description := description
           invoice := invoice
           amountSat := amountSat.map Int64.toUInt64
           createdAt := createdAt.toUInt64
           expiresAt := expiresAt.toUInt64 }

/-- `insert`: `none` where it fails. -/
def insert (t : MetadataTable) (metadata : InvoiceMetadata) : Option MetadataTable :=
  (insertedRow insertColumns (insertParams metadata)).bind t.insert

/-- `get_by_payment_hash`: `none` where it fails. -/
def getByPaymentHash (t : MetadataTable) (paymentHash : String) :
    Option (Option InvoiceMetadata) :=
  match t.find (.text paymentHash) with
  | none => some none
  | some row => (tryFrom (select selectColumns row)).map some

/-- `UPDATE … SET column = value WHERE payment_hash = ?1`. -/
def setAt (t : MetadataTable) (paymentHash : String) (column : Column) (value : Value)
    (h : column ≠ .paymentHash) : MetadataTable :=
  t.updateAt (.text paymentHash) (Function.update · column value) fun _ =>
    Function.update_of_ne h.symm _ _

def markExpiredNotified (t : MetadataTable) (paymentHash : String) : MetadataTable :=
  setAt t paymentHash .notifiedExpired (.integer 1) (by decide)

def markPaid (t : MetadataTable) (paymentHash : String) : MetadataTable :=
  setAt t paymentHash .paid (.integer 1) (by decide)

end Mdkd.Sql
