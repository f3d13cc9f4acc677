import Mdkd.Impl.Schema
import Mdkd.Proof.Store

/-!
# The store over restarts and versions

A file is opened again and again, by processes that may die in between, and may
come from a version without the `paid` column. `Session` says what its users
see of that: a store that is never closed, of which the statements that name
`paid` fail until an opening has added the column.

* `restarts_faithful`: the statements on the file answer as the session does;
* `restarts_invisible`: where the file has the column, or no table yet, the
  requests served are answered as by one store that is never closed.
-/

namespace Mdkd.Proof.Schema

open Framework Sql

/-! ## Requests -/

/-- A call of the store. -/
inductive Request where
  | insert (metadata : InvoiceMetadata)
  | getByPaymentHash (paymentHash : String)
  | getExpiredPending (now : UInt64)
  | markExpiredNotified (paymentHash : String)
  | markPaid (paymentHash : String)
  | insertOutgoingSend (record : OutgoingSendRecord)
  | listOutgoingSends
  | list (fromSecs toSecs limit offset : UInt64) (all : Bool) (externalId : Option String)
  deriving DecidableEq

inductive Reply where
  | done
  | failed
  | found (metadata : Option InvoiceMetadata)
  | invoices (invoices : List InvoiceMetadata)
  | sends (sends : List OutgoingSendRecord)
  deriving DecidableEq

/-- A call on the file. -/
def query (db : Database) : Request → Database × Reply
  | .insert metadata => (db.insert metadata).elim (db, .failed) (·, .done)
  | .getByPaymentHash paymentHash => (db, (db.getByPaymentHash paymentHash).elim .failed .found)
  | .getExpiredPending now => (db, (db.getExpiredPending now).elim .failed .invoices)
  | .markExpiredNotified paymentHash =>
    (db.markExpiredNotified paymentHash).elim (db, .failed) (·, .done)
  | .markPaid paymentHash => (db.markPaid paymentHash).elim (db, .failed) (·, .done)
  | .insertOutgoingSend record => (db.insertOutgoingSend record).elim (db, .failed) (·, .done)
  | .listOutgoingSends => (db, db.listOutgoingSends.elim .failed .sends)
  | .list fromSecs toSecs limit offset all externalId =>
    (db, (db.list fromSecs toSecs limit offset all externalId).elim .failed .invoices)

/-- A call on the store. -/
def serve (s : InvoiceMetadataStore) : Request → InvoiceMetadataStore × Reply
  | .insert metadata => (s.insert metadata).elim (s, .failed) (·, .done)
  | .getByPaymentHash paymentHash => (s, .found (s.getByPaymentHash paymentHash))
  | .getExpiredPending now => (s, .invoices (s.getExpiredPending now))
  | .markExpiredNotified paymentHash => (s.markExpiredNotified paymentHash, .done)
  | .markPaid paymentHash => (s.markPaid paymentHash, .done)
  | .insertOutgoingSend record => (s.insertOutgoingSend record, .done)
  | .listOutgoingSends => (s, .sends s.listOutgoingSends)
  | .list fromSecs toSecs limit offset all externalId =>
    (s, .invoices (s.list fromSecs toSecs limit offset all externalId))

/-- Whether the statement of a call names the column `paid`. -/
def Request.namesPaid : Request → Bool
  | .markPaid _ => true
  | .list _ _ _ _ all _ => !all
  | _ => false

/-! ## Processes and sessions -/

/-- A process opens the file, or calls the store it has. -/
inductive Call where
  | new (io : Io)
  | request (request : Request)
  deriving DecidableEq

inductive Outcome where
  | opened
  | notOpened
  | noStore
  | reply (reply : Reply)
  deriving DecidableEq

/-- The file, and whether the process at work has opened it. -/
structure Process where
  db : Database
  live : Bool

def exec (p : Process) : Call → Process × Outcome
  | .new io =>
    let after := Sql.new io p.db
    (⟨after.1, after.2⟩, if after.2 then .opened else .notOpened)
  | .request r =>
    if p.live then
      let after := query p.db r
      ({ p with db := after.1 }, .reply after.2)
    else (p, .noStore)

/-- A store that is never closed, whether `paid` is a column of it, and whether
it is open. -/
structure Session where
  store : InvoiceMetadataStore
  paidColumn : Bool
  live : Bool

def execSession (s : Session) : Call → Session × Outcome
  | .new io =>
    let live := io.create && io.createSends
    ({ s with paidColumn := s.paidColumn || (io.create && io.alter), live },
      if live then .opened else .notOpened)
  | .request r =>
    if s.live then
      if r.namesPaid && !s.paidColumn then (s, .reply .failed)
      else
        let after := serve s.store r
        ({ s with store := after.1 }, .reply after.2)
    else (s, .noStore)

/-! ## Rows as values -/

/-- The rows of the invoices as values. -/
def invoiceRows : Encoding invoiceColumns MetadataRow.paymentHash where
  values := Store.values
  embed := .text
  embed_injective := by
    intro a b h
    exact Value.text.inj h
  values_key _ := rfl

def sendValues (row : SendRow) : SendColumn → Value
  | .txid => .text row.txid
  | .address => .text row.address
  | .amountSat => .integer row.amountSat
  | .feeSat => ofInteger row.feeSat
  | .createdAt => .integer row.createdAt

/-- The rows of the outgoing sends as values. -/
def sendRows : Encoding sendColumns SendRow.txid where
  values := sendValues
  embed := .text
  embed_injective := by
    intro a b h
    exact Value.text.inj h
  values_key _ := rfl

/-- A file of this version or an earlier one has the rows of the store. -/
structure Represents (p : Process) (s : Session) : Prop where
  live : p.live = s.live
  invoices : ∀ r, p.db.invoices = some r →
    invoiceRows.Holds r s.store.invoices ∧ ∀ c, c ∈ r.columns ↔ c ≠ .paid ∨ s.paidColumn = true
  noInvoices : p.db.invoices = none → s.store.invoices = .empty ∧ s.paidColumn = true
  unpaid : s.paidColumn = false → ∀ row ∈ s.store.invoices.rows, row.paid = 0
  sends : ∀ r, p.db.sends = some r → sendRows.Holds r s.store.sends ∧ ∀ c, c ∈ r.columns
  noSends : p.db.sends = none → s.store.sends = .empty
  isLive : s.live = true → p.db.invoices ≠ none ∧ p.db.sends ≠ none

/-! ## Queries -/

theorem mapM_eq_some {α β : Type} {f : α → Option β} {g : α → β} {l : List α}
    (h : ∀ x ∈ l, f x = some (g x)) : l.mapM f = some (l.map g) := by
  induction l with
  | nil => rfl
  | cons x l ih =>
    rw [List.forall_mem_cons] at h
    rw [List.mapM_cons, h.1, ih h.2]
    rfl

variable {db : Database} {r : Relation invoiceColumns} {t : Table MetadataRow.paymentHash}
  {columns : List Column}

theorem on_of_mem {c : Column} (h : c ∈ columns) (row : MetadataRow) :
    invoiceRows.on columns row c = Store.values row c := if_pos h

/-- A query answers with the records of the rows its clauses choose. -/
theorem query_eq (hr : db.invoices = some r) (h : invoiceRows.Holds r t) {reads : List Column}
    (clauses : List Row → List Row) (choose : List MetadataRow → List MetadataRow)
    (hknows : r.knows (selectColumns ++ reads))
    (hchoose : clauses (t.rows.map (invoiceRows.on r.columns)) =
      (choose t.rows).map (invoiceRows.on r.columns)) :
    db.query reads clauses = some ((choose t.rows).map .ofRow) := by
  have hselect : (db.invoices.bind (·.select selectColumns reads clauses)) =
      some ((choose t.rows).map fun row => selectColumns.map (Store.values row)) := by
    rw [hr]
    exact h.select hknows hchoose
  rw [Database.query, hselect]
  show ((choose t.rows).map fun row => selectColumns.map (Store.values row)).mapM tryFrom = _
  rw [List.mapM_map]
  exact mapM_eq_some fun row _ => Store.tryFrom_select row

theorem isEq_text (a b : String) : (Value.text a).isEq (.text b) = decide (a = b) := by
  simp [Value.isEq]

theorem isEq_integer (i j : Int64) : (Value.integer i).isEq (.integer j) = decide (i = j) := by
  simp [Value.isEq]

theorem isLe_integer (i j : Int64) : (Value.integer i).isLe (.integer j) = decide (i ≤ j) := by
  simp [Value.isLe, Value.le]

theorem isLt_integer (i j : Int64) : (Value.integer i).isLt (.integer j) = decide (i < j) := by
  have h : decide (j ≤ i) = !decide (i < j) := by
    rw [← decide_not]
    exact decide_eq_decide.2 Int64.not_lt.symm
  simp [Value.isLt, Value.le, h]

theorem expiredPending_on (he : .expiresAt ∈ columns) (hn : .notifiedExpired ∈ columns)
    (hw : .webhookUrl ∈ columns) (now : Int64) (row : MetadataRow) :
    Database.expiredPending now (invoiceRows.on columns row) =
      InvoiceMetadataStore.expiredPending now row := by
  rw [Database.expiredPending, on_of_mem he, on_of_mem hn, on_of_mem hw]
  show ((Value.integer 0).isLt (.integer row.expiresAt) &&
    (Value.integer row.expiresAt).isLe (.integer now) &&
    (Value.integer row.notifiedExpired).isEq (.integer 0) &&
    decide (ofText row.webhookUrl ≠ .null)) = _
  rw [isLt_integer, isLe_integer, isEq_integer, InvoiceMetadataStore.expiredPending]
  cases row.webhookUrl <;> rfl

theorem listed_on {all : Bool} (hc : .createdAt ∈ columns) (he : .externalId ∈ columns)
    (hp : all = true ∨ .paid ∈ columns) (fromSecs toSecs : Int64) (externalId : Option String)
    (row : MetadataRow) :
    Database.listed fromSecs toSecs all externalId (invoiceRows.on columns row) =
      InvoiceMetadataStore.listed fromSecs toSecs all externalId row := by
  have hpaid : (all || (invoiceRows.on columns row .paid).isEq (.integer 1)) =
      (all || decide (row.paid = 1)) := by
    rcases hp with rfl | hp
    · rfl
    · rw [on_of_mem hp]
      exact congrArg (all || ·) (isEq_integer row.paid 1)
  have hid : (decide (ofText externalId = .null) ||
      (ofText row.externalId).isEq (ofText externalId)) =
      (externalId.isNone || decide (row.externalId = externalId)) := by
    cases externalId with
    | none => rfl
    | some id =>
      cases hrow : row.externalId with
      | none => simp [ofText, Value.isEq]
      | some id' => simp [ofText, Value.isEq]
  rw [Database.listed, InvoiceMetadataStore.listed, hpaid, on_of_mem hc, on_of_mem he]
  show (_ && (Value.integer fromSecs).isLe (.integer row.createdAt) &&
    (Value.integer row.createdAt).isLe (.integer toSecs) &&
    (decide (ofText externalId = .null) || (ofText row.externalId).isEq (ofText externalId))) = _
  rw [isLe_integer, isLe_integer, hid]

/-! ## The statements -/

section
variable {p : Process} {s : Session}

theorem Represents.mem (h : Represents p s) (hr : p.db.invoices = some r) {c : Column}
    (hc : c ≠ .paid) : c ∈ r.columns := ((h.invoices r hr).2 c).2 (.inl hc)

theorem Represents.knows (h : Represents p s) (hr : p.db.invoices = some r) {names : List Column}
    (hn : .paid ∉ names ∨ s.paidColumn = true) : r.knows names := by
  refine Relation.knows_iff.2 fun c hc => ((h.invoices r hr).2 c).2 ?_
  rcases hn with hn | hp
  · exact .inl fun e => hn (e ▸ hc)
  · exact .inr hp

theorem getByPaymentHash_eq (h : Represents p s) (hr : p.db.invoices = some r)
    (paymentHash : String) : p.db.getByPaymentHash paymentHash =
      some (s.store.getByPaymentHash paymentHash) := by
  have hfind : (fun row => ((row .paymentHash : Value).isEq (.text paymentHash))) ∘
      invoiceRows.on r.columns = fun row => decide (row.paymentHash = paymentHash) := by
    funext row
    show (invoiceRows.on r.columns row .paymentHash).isEq _ = _
    rw [on_of_mem (h.mem hr (by decide))]
    exact isEq_text row.paymentHash paymentHash
  have hknows : r.knows (selectColumns ++ [.paymentHash]) := h.knows hr (.inl (by decide))
  have hquery := query_eq hr (h.invoices r hr).1
    (fun rows => (rows.find? fun row => (row .paymentHash).isEq (.text paymentHash)).toList)
    (fun rows => (rows.find? fun row => decide (row.paymentHash = paymentHash)).toList)
    hknows (by rw [List.find?_map, hfind, Option.toList_map])
  rw [Database.getByPaymentHash, hquery]
  show some ((((s.store.invoices.find paymentHash).toList).map InvoiceMetadata.ofRow).head?) = _
  rw [InvoiceMetadataStore.getByPaymentHash]
  cases s.store.invoices.find paymentHash <;> rfl

theorem getExpiredPending_eq (h : Represents p s) (hr : p.db.invoices = some r) (now : UInt64) :
    p.db.getExpiredPending now = some (s.store.getExpiredPending now) := by
  have hwhere : Database.expiredPending now.toInt64 ∘ invoiceRows.on r.columns =
      InvoiceMetadataStore.expiredPending now.toInt64 :=
    funext fun row => expiredPending_on (h.mem hr (by decide)) (h.mem hr (by decide))
      (h.mem hr (by decide)) now.toInt64 row
  refine query_eq hr (h.invoices r hr).1 _
    (·.filter (InvoiceMetadataStore.expiredPending now.toInt64)) (h.knows hr (.inl (by decide))) ?_
  rw [List.filter_map, hwhere]

theorem list_eq (h : Represents p s) (hr : p.db.invoices = some r)
    (fromSecs toSecs limit offset : UInt64) {all : Bool} (externalId : Option String)
    (hpaid : all = true ∨ s.paidColumn = true) :
    p.db.list fromSecs toSecs limit offset all externalId =
      some (s.store.list fromSecs toSecs limit offset all externalId) := by
  have hwhere : Database.listed fromSecs.toInt64 toSecs.toInt64 all externalId ∘
      invoiceRows.on r.columns =
        InvoiceMetadataStore.listed fromSecs.toInt64 toSecs.toInt64 all externalId := by
    refine funext fun row => listed_on (h.mem hr (by decide)) (h.mem hr (by decide)) ?_ _ _ _ _
    exact hpaid.imp_right fun hp => ((h.invoices r hr).2 .paid).2 (.inr hp)
  have hsort (rows : List MetadataRow) :
      (rows.map (invoiceRows.on r.columns)).insertionSort
          (fun a b => (b .createdAt).le (a .createdAt)) =
        (rows.insertionSort fun a b => b.createdAt ≤ a.createdAt).map
          (invoiceRows.on r.columns) := by
    refine (List.map_insertionSort _ _ _ rows fun a _ b _ => ?_).symm
    have hmem : Column.createdAt ∈ r.columns := h.mem hr (by decide)
    rw [on_of_mem hmem, on_of_mem hmem]
    show _ ↔ (Value.integer b.createdAt).le (.integer a.createdAt) = true
    rw [Value.le, decide_eq_true_eq]
  refine query_eq hr (h.invoices r hr).1 _
    (fun rows => page limit.toInt64 offset.toInt64
      (((rows.filter (InvoiceMetadataStore.listed fromSecs.toInt64 toSecs.toInt64 all
        externalId)).reverse).insertionSort fun a b => b.createdAt ≤ a.createdAt))
    (h.knows hr (hpaid.imp_left ?_)) ?_
  · rintro rfl
    decide
  · show page _ _ ((List.filter _ _).reverse.insertionSort _) = _
    rw [List.filter_map, hwhere, ← List.map_reverse, hsort, page_map]

/-- An `INSERT` or an `UPDATE` on the invoices. -/
theorem Represents.setInvoices (h : Represents p s) (hr : p.db.invoices = some r)
    {r' : Relation invoiceColumns} {t : Table MetadataRow.paymentHash}
    (hh : invoiceRows.Holds r' t) (hc : r'.columns = r.columns)
    (hu : s.paidColumn = false → ∀ row ∈ t.rows, row.paid = 0) :
    Represents { p with db := { p.db with invoices := some r' } }
      { s with store := { s.store with invoices := t } } where
  live := h.live
  invoices := by
    intro r₁ hr₁
    obtain rfl := Option.some.inj hr₁
    exact ⟨hh, fun c => by rw [hc]; exact (h.invoices r hr).2 c⟩
  noInvoices := by
    intro hnone
    cases hnone
  unpaid := hu
  sends := h.sends
  noSends := h.noSends
  isLive := fun hlive => ⟨Option.some_ne_none _, (h.isLive hlive).2⟩

theorem Represents.setSends (h : Represents p s) {r' : Relation sendColumns}
    {t : Table SendRow.txid} (hh : sendRows.Holds r' t) (hc : ∀ c, c ∈ r'.columns) :
    Represents { p with db := { p.db with sends := some r' } }
      { s with store := { s.store with sends := t } } where
  live := h.live
  invoices := h.invoices
  noInvoices := h.noInvoices
  unpaid := h.unpaid
  sends := by
    intro r₁ hr₁
    obtain rfl := Option.some.inj hr₁
    exact ⟨hh, hc⟩
  noSends := by
    intro hnone
    cases hnone
  isLive := fun hlive => ⟨(h.isLive hlive).1, Option.some_ne_none _⟩

/-- A request has one answer of the file and of the store, and leaves the one
representing the other. -/
def Agrees (p : Process) (s : Session) (request : Request) : Prop :=
  Represents { p with db := (query p.db request).1 }
      { s with store := (serve s.store request).1 } ∧
    (query p.db request).2 = (serve s.store request).2

theorem agrees_insert (h : Represents p s) (hr : p.db.invoices = some r) (m : InvoiceMetadata) :
    Agrees p s (.insert m) := by
  have hvalues : ∀ c ∈ r.columns,
      ((insertColumns.zip (insertParams m)).lookup c).getD (invoiceColumns.default c) =
        invoiceRows.values (InvoiceMetadataStore.rowOf m) c := by
    intro c _
    cases c <;> rfl
  have hnull : ∀ c, invoiceColumns.notNull c →
      invoiceRows.values (InvoiceMetadataStore.rowOf m) c ≠ invoiceColumns.null := by
    intro c hc
    cases c <;> first | exact Value.noConfusion | cases hc
  have hdb : p.db.insert m = (r.insertInto insertColumns (insertParams m)).map fun invoices =>
      { p.db with invoices := some invoices } := by
    rw [Database.insert, hr]
    show (r.insertInto insertColumns (insertParams m)).bind _ = _
    cases r.insertInto insertColumns (insertParams m) <;> rfl
  have hstore : s.store.insert m = (s.store.invoices.insert (InvoiceMetadataStore.rowOf m)).map
      fun invoices => { s.store with invoices } := rfl
  have hboth := (h.invoices r hr).1.insertInto (h.knows hr (.inl (by decide))) hvalues hnull
  rw [Agrees, query, serve, hdb, hstore]
  rcases hboth with ⟨hr', ht⟩ | ⟨r', t', hr', ht, hh, hc⟩
  · rw [hr', ht]
    exact ⟨h, rfl⟩
  · rw [hr', ht]
    refine ⟨h.setInvoices hr hh hc fun hp row hrow => ?_, rfl⟩
    rw [Table.rows_insert ht] at hrow
    rcases List.mem_append.1 hrow with hrow | hrow
    · exact h.unpaid hp row hrow
    · rw [List.mem_singleton.1 hrow]
      rfl

/-- An `UPDATE` that the store makes of a row. -/
theorem agrees_setAt (h : Represents p s) (hr : p.db.invoices = some r) (k : String) {c : Column}
    {v : Value} (hc : c ≠ .paymentHash) (hmem : c ∈ r.columns) (f : MetadataRow → MetadataRow)
    (hf : ∀ row, (f row).paymentHash = row.paymentHash)
    (hv : ∀ row, Store.values (f row) = Function.update (Store.values row) c v)
    (hu : s.paidColumn = false → ∀ row, (f row).paid = row.paid) :
    ∃ db', p.db.setAt k c v hc = some db' ∧
      Represents { p with db := db' }
        { s with store := { s.store with invoices := s.store.invoices.updateAt k f hf } } := by
  obtain ⟨r', hr', hh, hcols⟩ := (h.invoices r hr).1.updateWhere k hc hmem hf hv
  refine ⟨{ p.db with invoices := some r' }, ?_, h.setInvoices hr hh hcols fun hp row hrow => ?_⟩
  · have hup : r.updateWhere (.text k) c v hc = some r' := hr'
    rw [Database.setAt, hr]
    show (r.updateWhere (.text k) c v hc).bind _ = _
    rw [hup]
    rfl
  · obtain ⟨row', hrow', rfl⟩ := List.mem_map.1 hrow
    show (if row'.paymentHash = k then f row' else row').paid = 0
    split
    · rw [hu hp]
      exact h.unpaid hp row' hrow'
    · exact h.unpaid hp row' hrow'

theorem agrees_markExpiredNotified (h : Represents p s) (hr : p.db.invoices = some r)
    (k : String) : Agrees p s (.markExpiredNotified k) := by
  have hmem : .notifiedExpired ∈ r.columns := h.mem hr (by decide)
  obtain ⟨db', hdb, hrep⟩ := agrees_setAt h hr k (by decide) hmem
    ({ · with notifiedExpired := 1 }) (fun _ => rfl) Store.values_notified fun _ _ => rfl
  have hmark : p.db.markExpiredNotified k = some db' := hdb
  rw [Agrees, query, hmark]
  exact ⟨hrep, rfl⟩

theorem agrees_markPaid (h : Represents p s) (hr : p.db.invoices = some r)
    (hp : s.paidColumn = true) (k : String) : Agrees p s (.markPaid k) := by
  have hmem : .paid ∈ r.columns := ((h.invoices r hr).2 .paid).2 (.inr hp)
  obtain ⟨db', hdb, hrep⟩ := agrees_setAt h hr k (by decide) hmem ({ · with paid := 1 })
    (fun _ => rfl) Store.values_paid fun hp' => by rw [hp] at hp'; cases hp'
  have hmark : p.db.markPaid k = some db' := hdb
  rw [Agrees, query, hmark]
  exact ⟨hrep, rfl⟩

/-- Without the column, marking an invoice paid fails, as does listing the paid
ones. -/
theorem failed_of_namesPaid (h : Represents p s) (hr : p.db.invoices = some r)
    (hp : s.paidColumn = false) {request : Request} (hn : request.namesPaid = true) :
    query p.db request = (p.db, .failed) := by
  have hmem : .paid ∉ r.columns := by
    rw [(h.invoices r hr).2]
    rintro (hne | htrue)
    · exact hne rfl
    · rw [hp] at htrue
      cases htrue
  have hknows {names : List Column} (hpaid : .paid ∈ names) : r.knows names = false :=
    Bool.eq_false_iff.2 fun hk => hmem (Relation.knows_iff.1 hk _ hpaid)
  cases request with
  | markPaid k =>
    have hup : r.updateWhere (.text k) .paid (.integer 1) (by decide) = none :=
      if_neg (by rw [hknows List.mem_cons_self]; decide)
    have hmark : p.db.markPaid k = none := by
      rw [Database.markPaid, Database.setAt, hr]
      show (r.updateWhere (.text k) .paid (.integer 1) _).bind _ = none
      rw [hup]
      rfl
    rw [query, hmark]
    rfl
  | list fromSecs toSecs limit offset all externalId =>
    cases all with
    | true => cases hn
    | false =>
      have hlist : p.db.list fromSecs toSecs limit offset false externalId = none := by
        have hk : r.knows (selectColumns ++ [.paid, .createdAt, .externalId]) = false :=
          hknows (by decide)
        rw [Database.list, if_neg (by decide), Database.query, hr, Option.bind_some,
          Relation.select, hk]
        rfl
      rw [query, hlist]
      rfl
  | _ => cases hn

variable {q : Relation sendColumns}

theorem knows_sends (h : Represents p s) (hq : p.db.sends = some q) (names : List SendColumn) :
    q.knows names := Relation.knows_iff.2 fun c _ => (h.sends q hq).2 c

theorem agrees_insertOutgoingSend (h : Represents p s) (hq : p.db.sends = some q)
    (record : OutgoingSendRecord) : Agrees p s (.insertOutgoingSend record) := by
  let row : SendRow :=
    { txid := record.txid
      address := record.address
      amountSat := record.amountSat.toInt64
      feeSat := record.feeSat.map UInt64.toInt64
      createdAt := record.createdAt.toInt64 }
  have hvalues : ∀ c ∈ q.columns,
      ((SendColumn.all.zip (Database.sendParams record)).lookup c).getD (sendColumns.default c) =
        sendRows.values row c := by
    intro c _
    cases c <;> rfl
  have hnull : ∀ c, sendColumns.notNull c → sendRows.values row c ≠ sendColumns.null := by
    intro c hc
    cases c <;> first | exact Value.noConfusion | cases hc
  have hknows := knows_sends h hq SendColumn.all
  have hdb : p.db.insertOutgoingSend record =
      some { p.db with
        sends := some ((q.insertInto SendColumn.all (Database.sendParams record)).getD q) } := by
    rw [Database.insertOutgoingSend, hq]
    show (q.insertOrIgnore SendColumn.all (Database.sendParams record)).bind _ = _
    rw [Relation.insertOrIgnore, if_pos hknows]
    rfl
  have hstore : s.store.insertOutgoingSend record =
      { s.store with sends := (s.store.sends.insert row).getD s.store.sends } := rfl
  have hboth := (h.sends q hq).1.insertInto hknows hvalues hnull
  rw [Agrees, query, serve, hdb, hstore]
  rcases hboth with ⟨hq', ht⟩ | ⟨q', t', hq', ht, hh, hc⟩
  · rw [hq', ht]
    exact ⟨h.setSends (h.sends q hq).1 (h.sends q hq).2, rfl⟩
  · have hall : ∀ c, c ∈ q'.columns := fun c => by rw [hc]; exact (h.sends q hq).2 c
    rw [hq', ht]
    exact ⟨h.setSends hh hall, rfl⟩

/-- A record is decoded from the values of its row. -/
theorem sendFrom_map (row : SendRow) :
    Database.sendFrom (SendColumn.all.map (sendValues row)) =
      some (InvoiceMetadataStore.sendOfRow row) := by
  simp [Database.sendFrom, SendColumn.all, sendValues, getText, getInteger,
    InvoiceMetadataStore.sendOfRow]

theorem listOutgoingSends_eq (h : Represents p s) (hq : p.db.sends = some q) :
    p.db.listOutgoingSends = some s.store.listOutgoingSends := by
  have hsort : (s.store.sends.rows.map (sendRows.on q.columns)).insertionSort
        (fun a b => (b .createdAt).le (a .createdAt)) =
      (s.store.sends.rows.insertionSort fun a b => b.createdAt ≤ a.createdAt).map
        (sendRows.on q.columns) := by
    refine (List.map_insertionSort _ _ _ _ fun a _ b _ => ?_).symm
    have hmem : SendColumn.createdAt ∈ q.columns := (h.sends q hq).2 _
    have hon (row : SendRow) : sendRows.on q.columns row .createdAt = .integer row.createdAt :=
      if_pos hmem
    rw [hon, hon, Value.le, decide_eq_true_eq]
  have hselect := (h.sends q hq).1.select
    (knows_sends h hq (SendColumn.all ++ [.createdAt])) hsort
  rw [Database.listOutgoingSends, hq]
  show (q.select SendColumn.all [.createdAt] _).bind _ = _
  rw [hselect, Option.bind_some, List.mapM_map]
  exact mapM_eq_some fun row _ => sendFrom_map row

/-- A request on an open file. -/
theorem agrees (h : Represents p s) (hlive : s.live = true) (request : Request)
    (hn : request.namesPaid = false ∨ s.paidColumn = true) : Agrees p s request := by
  obtain ⟨hr, hq⟩ := h.isLive hlive
  obtain ⟨r, hr⟩ := Option.ne_none_iff_exists'.1 hr
  obtain ⟨q, hq⟩ := Option.ne_none_iff_exists'.1 hq
  cases request with
  | insert m => exact agrees_insert h hr m
  | getByPaymentHash k => exact ⟨h, by rw [query, getByPaymentHash_eq h hr]; rfl⟩
  | getExpiredPending now => exact ⟨h, by rw [query, getExpiredPending_eq h hr]; rfl⟩
  | markExpiredNotified k => exact agrees_markExpiredNotified h hr k
  | markPaid k =>
    rcases hn with hn | hp
    · cases hn
    · exact agrees_markPaid h hr hp k
  | insertOutgoingSend record => exact agrees_insertOutgoingSend h hq record
  | listOutgoingSends => exact ⟨h, by rw [query, listOutgoingSends_eq h hq]; rfl⟩
  | list fromSecs toSecs limit offset all externalId =>
    have hall : all = true ∨ s.paidColumn = true := by
      rcases hn with hn | hp
      · exact .inl (by simpa [Request.namesPaid] using hn)
      · exact .inr hp
    exact ⟨h, by rw [query, list_eq h hr fromSecs toSecs limit offset externalId hall]; rfl⟩

end

/-! ## Openings -/

/-- The first table after its two statements: it has the rows it had, and the
column `paid` if it had it, was not there, or the column could be added. -/
theorem migrated_spec {p : Process} {s : Session} (h : Represents p s) (alter : Bool) :
    let created := Relation.create Column.all p.db.invoices
    let migrated := if alter then (created.addColumn .paid (by decide)).getD created else created
    invoiceRows.Holds migrated s.store.invoices ∧
      ∀ c, c ∈ migrated.columns ↔ c ≠ .paid ∨ (s.paidColumn || alter) = true := by
  intro created migrated
  have hcreated : invoiceRows.Holds created s.store.invoices ∧
      ∀ c, c ∈ created.columns ↔ c ≠ .paid ∨ s.paidColumn = true := by
    cases hr : p.db.invoices with
    | none =>
      obtain ⟨hempty, hp⟩ := h.noInvoices hr
      have hnew : created = Relation.create Column.all none :=
        congrArg (Relation.create Column.all) hr
      rw [hnew, hempty, hp]
      refine ⟨Encoding.holds_create (by decide), fun c => iff_of_true ?_ (.inr rfl)⟩
      show c ∈ Column.all
      cases c <;> decide
    | some r =>
      have hold : created = r := by
        show (p.db.invoices).getD _ = r
        rw [hr]
        rfl
      rw [hold]
      exact h.invoices r hr
  cases alter with
  | false =>
    rw [Bool.or_false]
    exact hcreated
  | true =>
    show invoiceRows.Holds ((created.addColumn .paid _).getD created) _ ∧
      ∀ c, c ∈ ((created.addColumn .paid _).getD created).columns ↔ _
    rw [Bool.or_true]
    have hne : Column.paid ≠ invoiceColumns.key := by decide
    cases hadd : created.addColumn .paid hne with
    | none =>
      -- the table has the column
      have hmem : Column.paid ∈ created.columns := by
        by_contra hmem
        have hsome : created.addColumn .paid hne ≠ none := by
          rw [Relation.addColumn, if_neg hmem]
          exact Option.some_ne_none _
        exact hsome hadd
      refine ⟨hcreated.1, fun c => iff_of_true ?_ (.inr rfl)⟩
      show c ∈ created.columns
      by_cases hc : c = .paid
      · rw [hc]
        exact hmem
      · exact (hcreated.2 c).2 (.inl hc)
    | some r' =>
      have hdefault : ∀ row ∈ s.store.invoices.rows,
          invoiceRows.values row .paid = invoiceColumns.default .paid := by
        intro row hrow
        have hfalse : s.paidColumn = false := by
          by_contra hp
          rw [Bool.not_eq_false] at hp
          have hmem : Column.paid ∈ created.columns := (hcreated.2 .paid).2 (.inr hp)
          rw [Relation.addColumn, if_pos hmem] at hadd
          cases hadd
        exact congrArg Value.integer (h.unpaid hfalse row hrow)
      obtain ⟨hh, hc⟩ := hcreated.1.addColumn hne hdefault hadd
      refine ⟨hh, fun c => iff_of_true ?_ (.inr rfl)⟩
      show c ∈ r'.columns
      rw [hc, List.mem_append, hcreated.2, List.mem_singleton]
      by_cases hcp : c = .paid
      · exact .inr hcp
      · exact .inl (.inl hcp)

/-- The second table after its statement. -/
theorem created_sends {p : Process} {s : Session} (h : Represents p s) :
    let created := Relation.create SendColumn.all p.db.sends
    sendRows.Holds created s.store.sends ∧ ∀ c, c ∈ created.columns := by
  intro created
  cases hq : p.db.sends with
  | none =>
    have hnew : created = Relation.create SendColumn.all none :=
      congrArg (Relation.create SendColumn.all) hq
    rw [hnew, h.noSends hq]
    refine ⟨Encoding.holds_create (by decide), fun c => ?_⟩
    show c ∈ SendColumn.all
    cases c <;> decide
  | some q =>
    have hold : created = q := by
      show (p.db.sends).getD _ = q
      rw [hq]
      rfl
    rw [hold]
    exact h.sends q hq

theorem represents_new {p : Process} {s : Session} (h : Represents p s) (io : Io) :
    Represents (exec p (.new io)).1 (execSession s (.new io)).1 ∧
      (exec p (.new io)).2 = (execSession s (.new io)).2 := by
  obtain ⟨create, alter, createSends⟩ := io
  cases create with
  | false =>
    have hsame : (s.paidColumn || (false && alter)) = s.paidColumn := by simp
    refine ⟨?_, rfl⟩
    show Represents ⟨p.db, false⟩ { s with paidColumn := _, live := false }
    rw [hsame]
    exact
      { live := rfl
        invoices := h.invoices
        noInvoices := h.noInvoices
        unpaid := h.unpaid
        sends := h.sends
        noSends := h.noSends
        isLive := by
          intro hlive
          cases hlive }
  | true =>
    have hmigrated := migrated_spec h alter
    have hcreated := created_sends h
    have hunpaid : (s.paidColumn || alter) = false →
        ∀ row ∈ s.store.invoices.rows, row.paid = 0 := fun hp =>
      h.unpaid (Bool.or_eq_false_iff.1 hp).1
    cases createSends with
    | false =>
      refine ⟨?_, rfl⟩
      exact
        { live := rfl
          invoices := by
            intro r hr
            obtain rfl := Option.some.inj hr
            exact hmigrated
          noInvoices := by
            intro hnone
            cases hnone
          unpaid := hunpaid
          sends := h.sends
          noSends := h.noSends
          isLive := by
            intro hlive
            cases hlive }
    | true =>
      refine ⟨?_, rfl⟩
      exact
        { live := rfl
          invoices := by
            intro r hr
            obtain rfl := Option.some.inj hr
            exact hmigrated
          noInvoices := by
            intro hnone
            cases hnone
          unpaid := hunpaid
          sends := by
            intro q hq
            obtain rfl := Option.some.inj hq
            exact hcreated
          noSends := by
            intro hnone
            cases hnone
          isLive := fun _ => ⟨Option.some_ne_none _, Option.some_ne_none _⟩ }

/-! ## Runs -/

/-- The statements on the file do what the session does. -/
theorem file_simulates_session : Simulates Represents exec execSession := by
  intro p s call h
  cases call with
  | new io => exact represents_new h io
  | request request =>
    cases hlive : s.live with
    | false =>
      have hfile : exec p (.request request) = (p, .noStore) :=
        if_neg (by rw [h.live, hlive]; decide)
      have hsession : execSession s (.request request) = (s, .noStore) :=
        if_neg (by rw [hlive]; decide)
      rw [next, next, hfile, hsession]
      exact ⟨h, rfl⟩
    | true =>
      have hfile : exec p (.request request) =
          ({ p with db := (query p.db request).1 }, .reply (query p.db request).2) :=
        if_pos (h.live.trans hlive)
      by_cases hn : (request.namesPaid && !s.paidColumn) = true
      · have hsession : execSession s (.request request) = (s, .reply .failed) := by
          rw [execSession, if_pos hlive, if_pos hn]
        obtain ⟨hpaid, hp⟩ := Bool.and_eq_true_iff.1 hn
        rw [Bool.not_eq_true'] at hp
        obtain ⟨r, hr⟩ := Option.ne_none_iff_exists'.1 (h.isLive hlive).1
        rw [next, next, hfile, hsession, failed_of_namesPaid h hr hp hpaid]
        exact ⟨h, rfl⟩
      · have hsession : execSession s (.request request) =
            ({ s with store := (serve s.store request).1 },
              .reply (serve s.store request).2) := by
          rw [execSession, if_pos hlive, if_neg hn]
        have hserved : request.namesPaid = false ∨ s.paidColumn = true := by
          simpa [← Bool.not_eq_true, or_iff_not_imp_left] using hn
        obtain ⟨hrep, hreply⟩ := agrees h hlive request hserved
        rw [next, next, hfile, hsession]
        exact ⟨hrep, congrArg Outcome.reply hreply⟩

/-- A file of the version before `paid`. -/
def oldFile (t : Table MetadataRow.paymentHash) : Database where
  invoices := some
    { columns := selectColumns ++ [.notifiedExpired]
      table :=
        { rows := t.rows.map (invoiceRows.on (selectColumns ++ [.notifiedExpired]))
          nodup := by
            have hkey : (t.rows.map (invoiceRows.on (selectColumns ++ [.notifiedExpired]))).map
                (fun row => row invoiceColumns.key) =
                  (t.rows.map MetadataRow.paymentHash).map Value.text := by
              rw [List.map_map, List.map_map]
              rfl
            rw [hkey]
            exact t.nodup.map invoiceRows.embed_injective } }
  sends := none

/-- It has its rows, none of them paid. -/
theorem represents_oldFile {t : Table MetadataRow.paymentHash} (h : ∀ row ∈ t.rows, row.paid = 0) :
    Represents ⟨oldFile t, false⟩ ⟨⟨t, .empty⟩, false, false⟩ where
  live := rfl
  invoices := by
    intro r hr
    obtain rfl := Option.some.inj hr
    refine ⟨⟨?_, rfl⟩, fun c => ?_⟩
    · show Column.paymentHash ∈ selectColumns ++ [.notifiedExpired]
      decide
    · show c ∈ selectColumns ++ [.notifiedExpired] ↔ c ≠ .paid ∨ false = true
      cases c <;> decide
  noInvoices := by
    intro hnone
    cases hnone
  unpaid := fun _ => h
  sends := by
    intro q hq
    cases hq
  noSends := fun _ => rfl
  isLive := by
    intro hlive
    cases hlive

/-- A file that does not exist yet. -/
theorem represents_fresh : Represents ⟨⟨none, none⟩, false⟩ ⟨.empty, true, false⟩ where
  live := rfl
  invoices := by
    intro r hr
    cases hr
  noInvoices := fun _ => ⟨rfl, rfl⟩
  unpaid := by
    intro hp
    cases hp
  sends := by
    intro q hq
    cases hq
  noSends := fun _ => rfl
  isLive := by
    intro hlive
    cases hlive

/-- Over every sequence of openings, each complete or cut off, and requests, the
file answers as the session. -/
theorem restarts_faithful {p : Process} {s : Session} (h : Represents p s) (calls : List Call) :
    answers exec p calls = answers execSession s calls :=
  file_simulates_session.answers_eq h calls

def oldInvoice : InvoiceMetadata where
  paymentHash := "aa"
  externalId := some "order-7"
  webhookUrl := none
  checkoutId := "chk_1"
  description := some "a book"
  invoice := none
  amountSat := some 1000
  createdAt := 1700000000
  expiresAt := 1700003600

def oldTable : Table MetadataRow.paymentHash :=
  ⟨[InvoiceMetadataStore.rowOf oldInvoice], List.nodup_singleton _⟩

/-- The paid invoices of all time. -/
def listPaid : Request := .list 0 2000000000 10 0 false none

/-- An opening that cannot add the column, one that is cut off, and a full one. -/
def sampleCalls : List Call :=
  [.new ⟨true, false, true⟩, .request listPaid, .request (.getByPaymentHash "aa"),
    .new ⟨true, true, false⟩, .request listPaid, .new ⟨true, true, true⟩, .request listPaid,
    .request (.markPaid "aa"), .new ⟨true, false, true⟩, .request listPaid]

theorem restarts_faithful_sample :
    answers exec ⟨oldFile oldTable, false⟩ sampleCalls =
      [.opened, .reply .failed, .reply (.found (some oldInvoice)), .notOpened, .noStore, .opened,
        .reply (.invoices []), .reply .done, .opened, .reply (.invoices [oldInvoice])] := by
  have hu : ∀ row ∈ oldTable.rows, row.paid = 0 := by decide
  rw [restarts_faithful (represents_oldFile hu) sampleCalls]
  decide +kernel

/-- The requests that find the store open. -/
def served : Bool → List Call → List Request
  | _, [] => []
  | _, .new io :: calls => served (io.create && io.createSends) calls
  | live, .request r :: calls => if live then r :: served live calls else served live calls

def Outcome.reply? : Outcome → Option Reply
  | .reply r => some r
  | _ => none

/-- The column is there, or each opening to come adds it. -/
def Upgraded (s : Session) (calls : List Call) : Prop :=
  s.paidColumn = true ∨ s.live = false ∧ ∀ io, .new io ∈ calls → io.alter = true

theorem Upgraded.next {s : Session} {call : Call} {calls : List Call}
    (h : Upgraded s (call :: calls)) : Upgraded (next execSession s call) calls := by
  cases call with
  | new io =>
    show (s.paidColumn || (io.create && io.alter)) = true ∨
      (io.create && io.createSends) = false ∧ ∀ io', .new io' ∈ calls → io'.alter = true
    rcases h with hp | ⟨-, halter⟩
    · rw [hp]
      exact .inl rfl
    · rw [halter io List.mem_cons_self, Bool.and_true]
      cases io.create with
      | true => exact .inl (Bool.or_true _)
      | false => exact .inr ⟨rfl, fun io' hio => halter io' (List.mem_cons_of_mem _ hio)⟩
  | request r =>
    have hsame : (Framework.next execSession s (.request r)).paidColumn = s.paidColumn ∧
        (Framework.next execSession s (.request r)).live = s.live := by
      rw [Framework.next, execSession]
      repeat' split
      all_goals exact ⟨rfl, rfl⟩
    rw [Upgraded, hsame.1, hsame.2]
    exact h.imp_right fun hold =>
      ⟨hold.1, fun io hio => hold.2 io (List.mem_cons_of_mem _ hio)⟩

theorem replies_session {s : Session} {calls : List Call} (h : Upgraded s calls) :
    (answers execSession s calls).filterMap Outcome.reply? =
      answers serve s.store (served s.live calls) := by
  induction calls generalizing s with
  | nil => rfl
  | cons call calls ih =>
    have hrest := ih h.next
    rw [answers]
    cases call with
    | new io =>
      have hnone : (execSession s (.new io)).2.reply? = none := by
        show (if (io.create && io.createSends) = true then Outcome.opened else .notOpened).reply? = _
        split <;> rfl
      rw [List.filterMap_cons_none hnone, hrest]
      rfl
    | request r =>
      cases hlive : s.live with
      | false =>
        have hsession : execSession s (.request r) = (s, .noStore) :=
          if_neg (by rw [hlive]; decide)
        have hnext : next execSession s (.request r) = s := congrArg Prod.fst hsession
        rw [hnext, hlive] at hrest
        rw [hsession, List.filterMap_cons_none rfl, hnext, hrest]
        rfl
      | true =>
        have hpaid : s.paidColumn = true := by
          rcases h with hp | ⟨hdead, -⟩
          · exact hp
          · rw [hlive] at hdead
            cases hdead
        have hsession : execSession s (.request r) =
            ({ s with store := (serve s.store r).1 }, .reply (serve s.store r).2) := by
          rw [execSession, if_pos hlive, if_neg (by rw [hpaid]; simp)]
        have hnext : next execSession s (.request r) =
            { s with store := (serve s.store r).1 } := congrArg Prod.fst hsession
        rw [hnext] at hrest
        have hreply : (Outcome.reply (serve s.store r).2).reply? = some (serve s.store r).2 := rfl
        rw [hsession, List.filterMap_cons_some hreply, hnext, hrest, hlive]
        rfl

/-- Where the file has the column `paid`, or no opening fails to add it, the
requests are answered as by a store that is never closed. -/
theorem restarts_invisible {p : Process} {s : Session} (h : Represents p s) {calls : List Call}
    (hp : Upgraded s calls) :
    (answers exec p calls).filterMap Outcome.reply? =
      answers serve s.store (served s.live calls) := by
  rw [file_simulates_session.answers_eq h]
  exact replies_session hp

/-- Two processes on a new file, the second started twice. -/
def freshCalls : List Call :=
  [.new ⟨true, true, true⟩, .request (.insert oldInvoice), .request (.markPaid "aa"),
    .new ⟨true, false, false⟩, .request listPaid, .new ⟨true, true, true⟩,
    .request (.insert oldInvoice), .request listPaid]

theorem restarts_invisible_sample :
    (answers exec ⟨⟨none, none⟩, false⟩ freshCalls).filterMap Outcome.reply? =
      [.done, .done, .failed, .invoices [oldInvoice]] := by
  have hp : Upgraded ⟨.empty, true, false⟩ freshCalls := .inl rfl
  rw [restarts_invisible represents_fresh hp]
  decide +kernel

end Mdkd.Proof.Schema
