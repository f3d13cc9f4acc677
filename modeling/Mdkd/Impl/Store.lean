import Mathlib.Data.List.Sort
import Mdkd.Framework.Table

/-!
# The invoice store

`daemon::store::invoice_metadata`: two SQLite tables and the statements run on
them. A row is a record with a field for each column, of the column's type;
`INTEGER` is signed and has 64 bits. `ORDER BY` is a stable sort of the rows in
`rowid` order. Statements that can only fail on input or output are total here:
whether a statement ran at all is an input of its callers.
-/

namespace Mdkd

open Framework

structure OutgoingSendRecord where
  txid : String
  address : String
  amountSat : UInt64
  feeSat : Option UInt64
  createdAt : UInt64
  deriving DecidableEq

structure InvoiceMetadata where
  paymentHash : String
  externalId : Option String
  webhookUrl : Option String
  checkoutId : String
  description : Option String
  invoice : Option String
  amountSat : Option UInt64
  createdAt : UInt64
  expiresAt : UInt64
  deriving DecidableEq

/-- A row of `mdk_invoice_metadata`. -/
structure MetadataRow where
  paymentHash : String
  externalId : Option String
  webhookUrl : Option String
  checkoutId : String
  description : Option String
  invoice : Option String
  amountSat : Option Int64
  createdAt : Int64
  expiresAt : Int64
  notifiedExpired : Int64
  paid : Int64
  deriving DecidableEq

/-- A row of `mdk_outgoing_sends`. -/
structure SendRow where
  txid : String
  address : String
  amountSat : Int64
  feeSat : Option Int64
  createdAt : Int64
  deriving DecidableEq

/-- The two tables, each with its primary key. -/
structure InvoiceMetadataStore where
  invoices : Table MetadataRow.paymentHash
  sends : Table SendRow.txid

/-- `InvoiceMetadata::try_from(&Row)`. -/
def InvoiceMetadata.ofRow (row : MetadataRow) : InvoiceMetadata where
  paymentHash := row.paymentHash
  externalId := row.externalId
  webhookUrl := row.webhookUrl
  checkoutId := row.checkoutId
  description := row.description
  invoice := row.invoice
  amountSat := row.amountSat.map Int64.toUInt64
  createdAt := row.createdAt.toUInt64
  expiresAt := row.expiresAt.toUInt64

namespace InvoiceMetadataStore

/-- An empty database. -/
def empty : InvoiceMetadataStore := ⟨.empty, .empty⟩

/-- The row `insert` writes; the other columns take their defaults. -/
def rowOf (metadata : InvoiceMetadata) : MetadataRow where
  paymentHash := metadata.paymentHash
  externalId := metadata.externalId
  webhookUrl := metadata.webhookUrl
  checkoutId := metadata.checkoutId
  description := metadata.description
  invoice := metadata.invoice
  amountSat := metadata.amountSat.map UInt64.toInt64
  createdAt := metadata.createdAt.toInt64
  expiresAt := metadata.expiresAt.toInt64
  notifiedExpired := 0
  paid := 0

/-- `insert`: `none` where the payment hash is taken. -/
def insert (s : InvoiceMetadataStore) (metadata : InvoiceMetadata) :
    Option InvoiceMetadataStore :=
  (s.invoices.insert (rowOf metadata)).map fun invoices => { s with invoices }

def getByPaymentHash (s : InvoiceMetadataStore) (paymentHash : String) : Option InvoiceMetadata :=
  (s.invoices.find paymentHash).map .ofRow

/-- The `WHERE` of `get_expired_pending`. -/
def expiredPending (now : Int64) (row : MetadataRow) : Bool :=
  0 < row.expiresAt && row.expiresAt ≤ now && row.notifiedExpired = 0 && row.webhookUrl.isSome

def getExpiredPending (s : InvoiceMetadataStore) (now : UInt64) : List InvoiceMetadata :=
  (s.invoices.rows.filter (expiredPending now.toInt64)).map .ofRow

def markExpiredNotified (s : InvoiceMetadataStore) (paymentHash : String) : InvoiceMetadataStore :=
  { s with
    invoices := s.invoices.updateAt paymentHash ({ · with notifiedExpired := 1 }) fun _ => rfl }

def markPaid (s : InvoiceMetadataStore) (paymentHash : String) : InvoiceMetadataStore :=
  { s with invoices := s.invoices.updateAt paymentHash ({ · with paid := 1 }) fun _ => rfl }

/-- `insert_outgoing_send`, an `INSERT OR IGNORE`. -/
def insertOutgoingSend (s : InvoiceMetadataStore) (record : OutgoingSendRecord) :
    InvoiceMetadataStore :=
  let row : SendRow :=
    { txid := record.txid
      address := record.address
      amountSat := record.amountSat.toInt64
      feeSat := record.feeSat.map UInt64.toInt64
      createdAt := record.createdAt.toInt64 }
  { s with sends := (s.sends.insert row).getD s.sends }

/-- The record `list_outgoing_sends` reads from a row. -/
def sendOfRow (row : SendRow) : OutgoingSendRecord where
  txid := row.txid
  address := row.address
  amountSat := row.amountSat.toUInt64
  feeSat := row.feeSat.map Int64.toUInt64
  createdAt := row.createdAt.toUInt64

def listOutgoingSends (s : InvoiceMetadataStore) : List OutgoingSendRecord :=
  (s.sends.rows.insertionSort fun a b => b.createdAt ≤ a.createdAt).map sendOfRow

/-- The `WHERE` of `list`. -/
def listed (fromSecs toSecs : Int64) (all : Bool) (externalId : Option String)
    (row : MetadataRow) : Bool :=
  (all || row.paid = 1) && fromSecs ≤ row.createdAt && row.createdAt ≤ toSecs &&
    (externalId.isNone || row.externalId = externalId)

/-- `list`: newest first, the later row where two were created in the same second. -/
def list (s : InvoiceMetadataStore) (fromSecs toSecs limit offset : UInt64) (all : Bool)
    (externalId : Option String) : List InvoiceMetadata :=
  let rows := s.invoices.rows.filter (listed fromSecs.toInt64 toSecs.toInt64 all externalId)
  let sorted := rows.reverse.insertionSort fun a b => b.createdAt ≤ a.createdAt
  (page limit.toInt64 offset.toInt64 sorted).map .ofRow

end InvoiceMetadataStore

end Mdkd
