import Mdkd.Framework.Relation
import Mdkd.Impl.Sql

/-!
# The database file

`daemon::store::invoice_metadata` on a file: `InvoiceMetadataStore::new` opens
it, declares the tables it lacks and adds the column that tables of earlier
versions lack; the store's statements run on the tables as the file has them. A
`none` is an error. Whether a statement of `new` fails on input or output, or is
not reached before the process dies, is in `Io`.
-/

namespace Mdkd.Sql

open Framework

/-- Values in the order of SQLite: null, then the integers, then the texts. -/
def Value.le : Value → Value → Bool
  | .null, _ => true
  | .integer _, .null => false
  | .integer i, .integer j => i ≤ j
  | .integer _, .text _ => true
  | .text s, .text t => s ≤ t
  | .text _, _ => false

/-- `a <= b` in a `WHERE`. -/
def Value.isLe (a b : Value) : Bool := a ≠ .null && b ≠ .null && a.le b

/-- `a < b` in a `WHERE`. -/
def Value.isLt (a b : Value) : Bool := a ≠ .null && b ≠ .null && !b.le a

/-- `a = b` in a `WHERE`. -/
def Value.isEq (a b : Value) : Bool := a ≠ .null && a = b

/-- The columns of `mdk_outgoing_sends`. -/
inductive SendColumn where
  | txid
  | address
  | amountSat
  | feeSat
  | createdAt
  deriving DecidableEq

def SendColumn.all : List SendColumn := [.txid, .address, .amountSat, .feeSat, .createdAt]

def SendColumn.notNull : SendColumn → Bool
  | .address | .amountSat | .createdAt => true
  | _ => false

/-- What is declared of the columns of `mdk_invoice_metadata`. -/
def invoiceColumns : Declarations Column Value where
  key := .paymentHash
  null := .null
  notNull := Column.notNull
  default := Column.default

def sendColumns : Declarations SendColumn Value where
  key := .txid
  null := .null
  notNull := SendColumn.notNull
  default _ := .null

/-- The tables of the file. -/
structure Database where
  invoices : Option (Relation invoiceColumns)
  sends : Option (Relation sendColumns)

/-- Which statements of `new` run: the file is opened and the first table
declared, the column added, and the second table declared. -/
structure Io where
  create : Bool
  alter : Bool
  createSends : Bool
  deriving DecidableEq

/-- `InvoiceMetadataStore::new`: the file after it, and whether there is a store. -/
def new (io : Io) (db : Database) : Database × Bool :=
  if io.create then
    let created := Relation.create Column.all db.invoices
    -- an error here is not looked at
    let migrated :=
      if io.alter then (created.addColumn .paid (by decide)).getD created else created
    if io.createSends then
      ({ invoices := some migrated, sends := some (Relation.create SendColumn.all db.sends) }, true)
    else ({ db with invoices := some migrated }, false)
  else (db, false)

namespace Database

/-- `insert`. -/
def insert (db : Database) (metadata : InvoiceMetadata) : Option Database := do
  let invoices ← db.invoices
  let invoices ← invoices.insertInto insertColumns (insertParams metadata)
  return { db with invoices := some invoices }

/-- The rows of a query, each decoded. -/
def decoded (rows : Option (List (List Value))) : Option (List InvoiceMetadata) :=
  rows.bind fun rows => rows.mapM tryFrom

/-- A query on the invoices, with the columns its clauses read. -/
def query (db : Database) (reads : List Column) (clauses : List Row → List Row) :
    Option (List InvoiceMetadata) :=
  decoded (db.invoices.bind (·.select selectColumns reads clauses))

/-- `get_by_payment_hash`: the first row of the query, if it has one. -/
def getByPaymentHash (db : Database) (paymentHash : String) : Option (Option InvoiceMetadata) :=
  (db.query [.paymentHash] fun rows =>
    (rows.find? fun row => (row .paymentHash).isEq (.text paymentHash)).toList).map (·.head?)

/-- The `WHERE` of `get_expired_pending`. -/
def expiredPending (now : Int64) (row : Row) : Bool :=
  (Value.integer 0).isLt (row .expiresAt) && (row .expiresAt).isLe (.integer now) &&
    (row .notifiedExpired).isEq (.integer 0) && row .webhookUrl ≠ .null

def getExpiredPending (db : Database) (now : UInt64) : Option (List InvoiceMetadata) :=
  db.query [.expiresAt, .notifiedExpired, .webhookUrl] (·.filter (expiredPending now.toInt64))

/-- `UPDATE mdk_invoice_metadata SET column = value WHERE payment_hash = ?1`. -/
def setAt (db : Database) (paymentHash : String) (column : Column) (value : Value)
    (h : column ≠ .paymentHash) : Option Database := do
  let invoices ← db.invoices
  let invoices ← invoices.updateWhere (.text paymentHash) column value h
  return { db with invoices := some invoices }

theorem notifiedExpired_ne : Column.notifiedExpired ≠ .paymentHash := by decide

theorem paid_ne : Column.paid ≠ .paymentHash := by decide

def markExpiredNotified (db : Database) (paymentHash : String) : Option Database :=
  db.setAt paymentHash .notifiedExpired (.integer 1) notifiedExpired_ne

def markPaid (db : Database) (paymentHash : String) : Option Database :=
  db.setAt paymentHash .paid (.integer 1) paid_ne

/-- The parameters of `insert_outgoing_send`. -/
def sendParams (record : OutgoingSendRecord) : List Value :=
  [.text record.txid, .text record.address, .integer record.amountSat.toInt64,
    ofInteger (record.feeSat.map UInt64.toInt64), .integer record.createdAt.toInt64]

/-- `insert_outgoing_send`. -/
def insertOutgoingSend (db : Database) (record : OutgoingSendRecord) : Option Database := do
  let sends ← db.sends
  let sends ← sends.insertOrIgnore SendColumn.all (sendParams record)
  return { db with sends := some sends }

/-- The record `list_outgoing_sends` reads from a row, by position. -/
def sendFrom (values : List Value) : Option OutgoingSendRecord := do
  let txid ← getText values[0]?
  let address ← getText values[1]?
  let amountSat ← getInteger values[2]?
  let feeSat ← getOptInteger values[3]?
  let createdAt ← getInteger values[4]?
  return { txid := txid
           address := address
           amountSat := amountSat.toUInt64
           feeSat := feeSat.map Int64.toUInt64
           createdAt := createdAt.toUInt64 }

/-- `list_outgoing_sends`. -/
def listOutgoingSends (db : Database) : Option (List OutgoingSendRecord) := do
  let sends ← db.sends
  let rows ← sends.select SendColumn.all [.createdAt] fun rows =>
    rows.insertionSort fun a b => (b .createdAt).le (a .createdAt)
  rows.mapM sendFrom

/-- The `WHERE` of `list`. -/
def listed (fromSecs toSecs : Int64) (all : Bool) (externalId : Option String) (row : Row) : Bool :=
  (all || (row .paid).isEq (.integer 1)) && (Value.integer fromSecs).isLe (row .createdAt) &&
    (row .createdAt).isLe (.integer toSecs) &&
    (ofText externalId = .null || (row .externalId).isEq (ofText externalId))

/-- `list`: one of two queries. -/
def list (db : Database) (fromSecs toSecs limit offset : UInt64) (all : Bool)
    (externalId : Option String) : Option (List InvoiceMetadata) :=
  let reads : List Column := [.createdAt, .externalId]
  db.query (if all then reads else .paid :: reads) fun rows =>
    let rows := rows.filter (listed fromSecs.toInt64 toSecs.toInt64 all externalId)
    let sorted := rows.reverse.insertionSort fun a b => (b .createdAt).le (a .createdAt)
    page limit.toInt64 offset.toInt64 sorted

end Database

end Mdkd.Sql
