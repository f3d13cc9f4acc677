import Mdkd.Framework.Refine
import Mdkd.Impl.Sql

/-!
# The invoice store is an append-only map

`Book` says what the invoice table is for: it keeps, under each payment hash,
the record first inserted there and two flags. The statements simulate the
store by row (`sql_simulates_store`), and that simulates the book
(`store_simulates_book`), so over any sequence of requests they answer as it
does; `store_is_map` says what that means for the rows.
-/

namespace Mdkd.Proof.Store

open Framework

/-! ## Requests -/

inductive Request where
  | insert (metadata : InvoiceMetadata)
  | getByPaymentHash (paymentHash : String)
  | markExpiredNotified (paymentHash : String)
  | markPaid (paymentHash : String)
  deriving DecidableEq

inductive Answer where
  | done
  | failed
  | found (metadata : Option InvoiceMetadata)
  deriving DecidableEq

/-- The statements. -/
def execSql (t : Sql.MetadataTable) : Request → Sql.MetadataTable × Answer
  | .insert metadata =>
    match Sql.insert t metadata with
    | some t' => (t', .done)
    | none => (t, .failed)
  | .getByPaymentHash paymentHash =>
    (t, (Sql.getByPaymentHash t paymentHash).elim .failed .found)
  | .markExpiredNotified paymentHash => (Sql.markExpiredNotified t paymentHash, .done)
  | .markPaid paymentHash => (Sql.markPaid t paymentHash, .done)

/-- The store by row. -/
def execStore (s : InvoiceMetadataStore) : Request → InvoiceMetadataStore × Answer
  | .insert metadata =>
    match s.insert metadata with
    | some s' => (s', .done)
    | none => (s, .failed)
  | .getByPaymentHash paymentHash => (s, .found (s.getByPaymentHash paymentHash))
  | .markExpiredNotified paymentHash => (s.markExpiredNotified paymentHash, .done)
  | .markPaid paymentHash => (s.markPaid paymentHash, .done)

/-- What is kept under a payment hash. -/
structure Entry where
  metadata : InvoiceMetadata
  paid : Bool
  notifiedExpired : Bool

/-- The append-only map. -/
abbrev Book : Type := String → Option Entry

def Book.empty : Book := fun _ => none

/-- The map with the entry of a payment hash changed, if it has one. -/
def Book.mark (b : Book) (paymentHash : String) (f : Entry → Entry) : Book :=
  Function.update b paymentHash ((b paymentHash).map f)

def execBook (b : Book) : Request → Book × Answer
  | .insert metadata =>
    match b metadata.paymentHash with
    | none => (Function.update b metadata.paymentHash (some ⟨metadata, false, false⟩), .done)
    | some _ => (b, .failed)
  | .getByPaymentHash paymentHash => (b, .found ((b paymentHash).map (·.metadata)))
  | .markExpiredNotified paymentHash =>
    (b.mark paymentHash ({ · with notifiedExpired := true }), .done)
  | .markPaid paymentHash => (b.mark paymentHash ({ · with paid := true }), .done)

/-! ## Statements and rows -/

/-- The values a row has in the table. -/
def values (row : MetadataRow) : Sql.Row
  | .paymentHash => .text row.paymentHash
  | .externalId => Sql.ofText row.externalId
  | .webhookUrl => Sql.ofText row.webhookUrl
  | .checkoutId => .text row.checkoutId
  | .description => Sql.ofText row.description
  | .invoice => Sql.ofText row.invoice
  | .amountSat => Sql.ofInteger row.amountSat
  | .createdAt => .integer row.createdAt
  | .expiresAt => .integer row.expiresAt
  | .notifiedExpired => .integer row.notifiedExpired
  | .paid => .integer row.paid

/-- The `INSERT` writes the row of a record. -/
theorem insertedRow_eq (m : InvoiceMetadata) :
    Sql.insertedRow Sql.insertColumns (Sql.insertParams m) =
      some (values (InvoiceMetadataStore.rowOf m)) := by
  have h : (fun c => ((Sql.insertColumns.zip (Sql.insertParams m)).lookup c).getD c.default) =
      values (InvoiceMetadataStore.rowOf m) := by
    funext c
    cases c <;> rfl
  simp only [Sql.insertedRow, h]
  rfl

@[simp] theorem getOptText_ofText (o : Option String) :
    Sql.getOptText (some (Sql.ofText o)) = some o := by
  cases o <;> rfl

@[simp] theorem getOptInteger_ofInteger (o : Option Int64) :
    Sql.getOptInteger (some (Sql.ofInteger o)) = some o := by
  cases o <;> rfl

/-- A query decodes the row it selects. -/
theorem tryFrom_select (row : MetadataRow) :
    Sql.tryFrom (Sql.select Sql.selectColumns (values row)) = some (.ofRow row) := by
  simp [Sql.tryFrom, Sql.select, Sql.selectColumns, values, Sql.getText, Sql.getInteger,
    InvoiceMetadata.ofRow]

/-- The table holds the rows of the store. -/
def Holds (t : Sql.MetadataTable) (s : InvoiceMetadataStore) : Prop :=
  t.rows = s.invoices.rows.map values

theorem Holds.find {t : Sql.MetadataTable} {s : InvoiceMetadataStore} (h : Holds t s)
    (k : String) : t.find (.text k) = (s.invoices.find k).map values := by
  rw [Table.find, h, List.find?_map, Table.find]
  congr 2
  funext row
  simp [values]

/-- An `INSERT` fails where the store's does, and otherwise adds the same row. -/
theorem Holds.insert {t : Sql.MetadataTable} {s : InvoiceMetadataStore} (h : Holds t s)
    (m : InvoiceMetadata) :
    (Sql.insert t m = none ∧ s.insert m = none) ∨
      ∃ t' s', Sql.insert t m = some t' ∧ s.insert m = some s' ∧ Holds t' s' := by
  have hiff : t.insert (values (InvoiceMetadataStore.rowOf m)) = none ↔
      s.invoices.insert (InvoiceMetadataStore.rowOf m) = none := by
    rw [Table.insert_eq_none, Table.insert_eq_none]
    show t.find (.text m.paymentHash) ≠ none ↔ s.invoices.find m.paymentHash ≠ none
    rw [h.find, Ne, Option.map_eq_none_iff]
  rw [Sql.insert, insertedRow_eq, Option.bind_some, InvoiceMetadataStore.insert]
  cases hs : s.invoices.insert (InvoiceMetadataStore.rowOf m) with
  | none => exact .inl ⟨hiff.2 hs, rfl⟩
  | some invoices =>
    have hne : t.insert (values (InvoiceMetadataStore.rowOf m)) ≠ none := by
      rw [Ne, hiff, hs]
      exact Option.some_ne_none _
    obtain ⟨t', ht⟩ := Option.ne_none_iff_exists'.1 hne
    refine .inr ⟨t', _, ht, rfl, ?_⟩
    show t'.rows = invoices.rows.map values
    rw [Table.rows_insert ht, Table.rows_insert hs, h, List.map_append, List.map_singleton]

/-- An `UPDATE` changes the rows the store's does. -/
theorem Holds.setAt {t : Sql.MetadataTable} {s : InvoiceMetadataStore} (h : Holds t s)
    (k : String) {column : Sql.Column} {value : Sql.Value} (hc : column ≠ .paymentHash)
    {f : MetadataRow → MetadataRow}
    (hv : ∀ row, values (f row) = Function.update (values row) column value)
    (hf : ∀ row, (f row).paymentHash = row.paymentHash) :
    Holds (Sql.setAt t k column value hc) { s with invoices := s.invoices.updateAt k f hf } := by
  show t.rows.map _ = (s.invoices.rows.map _).map values
  rw [h, List.map_map, List.map_map]
  refine List.map_congr_left fun row _ => ?_
  have hkey : (values row) .paymentHash = .text row.paymentHash := rfl
  by_cases hk : row.paymentHash = k
  · simp [hkey, hk, hv]
  · simp [hkey, hk]

theorem values_notified (row : MetadataRow) :
    values { row with notifiedExpired := 1 } =
      Function.update (values row) .notifiedExpired (.integer 1) := by
  funext c
  cases c <;> rfl

theorem values_paid (row : MetadataRow) :
    values { row with paid := 1 } = Function.update (values row) .paid (.integer 1) := by
  funext c
  cases c <;> rfl

/-- The statements do what the store does. -/
theorem sql_simulates_store : Simulates Holds execSql execStore := by
  intro t s r h
  cases r with
  | insert m =>
    rcases h.insert m with ⟨ht, hs⟩ | ⟨t', s', ht, hs, h'⟩
    · simp only [next, execSql, execStore, ht, hs, and_true]
      exact h
    · simp only [next, execSql, execStore, ht, hs, and_true]
      exact h'
  | getByPaymentHash k =>
    refine ⟨h, ?_⟩
    show (Sql.getByPaymentHash t k).elim Answer.failed Answer.found =
      .found (s.getByPaymentHash k)
    rw [Sql.getByPaymentHash, h.find, InvoiceMetadataStore.getByPaymentHash]
    cases s.invoices.find k with
    | none => rfl
    | some row =>
      simp only [Option.map_some, tryFrom_select]
      rfl
  | markExpiredNotified k => exact ⟨h.setAt k (by decide) values_notified fun _ => rfl, rfl⟩
  | markPaid k => exact ⟨h.setAt k (by decide) values_paid fun _ => rfl, rfl⟩

/-! ## Rows and entries -/

theorem find_markPaid (s : InvoiceMetadataStore) (h k : String) :
    (s.markPaid h).invoices.find k =
      if k = h then (s.invoices.find k).map ({ · with paid := 1 }) else s.invoices.find k :=
  Table.find_updateAt s.invoices h ({ · with paid := 1 }) (fun _ => rfl) k

theorem find_markExpiredNotified (s : InvoiceMetadataStore) (h k : String) :
    (s.markExpiredNotified h).invoices.find k =
      if k = h then (s.invoices.find k).map ({ · with notifiedExpired := 1 })
      else s.invoices.find k :=
  Table.find_updateAt s.invoices h ({ · with notifiedExpired := 1 }) (fun _ => rfl) k

/-- A flag as its column has it. -/
def flag (b : Bool) : Int64 := if b then 1 else 0

/-- The row of an entry. -/
def Entry.toRow (e : Entry) : MetadataRow :=
  { InvoiceMetadataStore.rowOf e.metadata with
    notifiedExpired := flag e.notifiedExpired
    paid := flag e.paid }

/-- A record is read back as it was written: the casts to `i64` and back keep
every value of a `u64`. -/
theorem ofRow_rowOf (m : InvoiceMetadata) :
    InvoiceMetadata.ofRow (InvoiceMetadataStore.rowOf m) = m := by
  obtain ⟨paymentHash, externalId, webhookUrl, checkoutId, description, invoice, amountSat,
    createdAt, expiresAt⟩ := m
  cases amountSat <;> simp [InvoiceMetadata.ofRow, InvoiceMetadataStore.rowOf]

theorem ofRow_toRow (e : Entry) : InvoiceMetadata.ofRow e.toRow = e.metadata :=
  ofRow_rowOf e.metadata

/-- The rows of the store are those of the book's entries. -/
def Keeps (s : InvoiceMetadataStore) (b : Book) : Prop :=
  ∀ h, s.invoices.find h = (b h).map Entry.toRow

/-- An insert fails where the payment hash has an entry, and otherwise makes one. -/
theorem Keeps.insert {s : InvoiceMetadataStore} {b : Book} (h : Keeps s b) (m : InvoiceMetadata) :
    (s.insert m = none ∧ ∃ e, b m.paymentHash = some e) ∨
      ∃ s', s.insert m = some s' ∧ b m.paymentHash = none ∧
        Keeps s' (Function.update b m.paymentHash (some ⟨m, false, false⟩)) := by
  have hk := h m.paymentHash
  rw [InvoiceMetadataStore.insert]
  cases hs : s.invoices.insert (InvoiceMetadataStore.rowOf m) with
  | none =>
    refine .inl ⟨rfl, Option.ne_none_iff_exists'.1 fun hb => ?_⟩
    rw [hb] at hk
    exact Table.insert_eq_none.1 hs hk
  | some invoices =>
    have hnew : b m.paymentHash = none := by
      have hfind : s.invoices.find m.paymentHash = none := Table.find_of_insert hs
      rwa [hk, Option.map_eq_none_iff] at hfind
    refine .inr ⟨_, rfl, hnew, fun k => ?_⟩
    show invoices.find k = _
    rw [Table.find_insert hs, h k]
    show (if k = m.paymentHash then _ else _) = _
    by_cases hkm : k = m.paymentHash
    · rw [if_pos hkm, hkm, Function.update_self]
      rfl
    · rw [if_neg hkm, Function.update_of_ne hkm]

/-- Marking the row of an entry marks the entry. -/
theorem Keeps.mark {s : InvoiceMetadataStore} {b : Book} (h : Keeps s b) (k : String)
    (f : MetadataRow → MetadataRow) (g : Entry → Entry)
    (hf : ∀ row, (f row).paymentHash = row.paymentHash)
    (hg : ∀ e : Entry, f e.toRow = (g e).toRow) :
    Keeps { s with invoices := s.invoices.updateAt k f hf } (b.mark k g) := by
  intro k'
  show (s.invoices.updateAt k f hf).find k' = _
  rw [Table.find_updateAt, h k', Book.mark]
  by_cases hk : k' = k
  · subst hk
    rw [if_pos rfl, Function.update_self, Option.map_map, Option.map_map]
    congr 1
    funext e
    exact hg e
  · rw [if_neg hk, Function.update_of_ne hk]

/-- The store does what the book does. -/
theorem store_simulates_book : Simulates Keeps execStore execBook := by
  intro s b r h
  cases r with
  | insert m =>
    rcases h.insert m with ⟨hs, e, hb⟩ | ⟨s', hs, hb, h'⟩
    · simp only [next, execStore, execBook, hs, hb, and_true]
      exact h
    · simp only [next, execStore, execBook, hs, hb, and_true]
      exact h'
  | getByPaymentHash k =>
    refine ⟨h, ?_⟩
    show Answer.found (s.getByPaymentHash k) = _
    rw [InvoiceMetadataStore.getByPaymentHash, h k, Option.map_map]
    congr 2
    funext e
    exact ofRow_toRow e
  | markExpiredNotified k =>
    exact ⟨h.mark k ({ · with notifiedExpired := 1 }) ({ · with notifiedExpired := true })
      (fun _ => rfl) fun _ => rfl, rfl⟩
  | markPaid k =>
    exact ⟨h.mark k ({ · with paid := 1 }) ({ · with paid := true }) (fun _ => rfl) fun _ => rfl,
      rfl⟩

/-! ## Runs -/

/-- The table after a sequence of requests to an empty database. -/
abbrev tableAfter (rs : List Request) : Sql.MetadataTable := run (next execSql) .empty rs

/-- The book after the same requests. -/
abbrev bookAfter (rs : List Request) : Book := run (next execBook) Book.empty rs

theorem sql_simulates_book : Simulates (Relation.Comp Holds Keeps) execSql execBook :=
  sql_simulates_store.comp store_simulates_book

theorem comp_empty : Relation.Comp Holds Keeps .empty Book.empty :=
  ⟨.empty, rfl, fun _ => rfl⟩

/-- The row of a payment hash is the one of its entry. -/
theorem find_tableAfter (rs : List Request) (h : String) :
    (tableAfter rs).find (.text h) = (bookAfter rs h).map fun e => values e.toRow := by
  obtain ⟨s, ht, hb⟩ := sql_simulates_book.run_rel comp_empty rs
  rw [ht.find, hb, Option.map_map]
  rfl

/-- The record a request brings. -/
def Request.inserted? : Request → Option InvoiceMetadata
  | .insert metadata => some metadata
  | _ => none

/-- The record first inserted under a payment hash. -/
def recorded (rs : List Request) (h : String) : Option InvoiceMetadata :=
  (rs.filterMap Request.inserted?).find? fun m => m.paymentHash = h

theorem recorded_snoc (rs : List Request) (r : Request) (h : String) :
    recorded (rs ++ [r]) h = (recorded rs h).or (recorded [r] h) := by
  rw [recorded, List.filterMap_append, List.find?_append]
  rfl

theorem mark_apply (b : Book) (k : String) (f : Entry → Entry) (h : String) :
    b.mark k f h = if h = k then (b h).map f else b h := by
  unfold Book.mark
  by_cases hk : h = k
  · subst hk
    rw [Function.update_self, if_pos rfl]
  · rw [Function.update_of_ne hk, if_neg hk]

theorem next_insert (b : Book) (m : InvoiceMetadata) (h : String) :
    next execBook b (.insert m) h =
      (b h).or (if m.paymentHash = h then some ⟨m, false, false⟩ else none) := by
  cases hb : b m.paymentHash with
  | none =>
    simp only [next, execBook, hb]
    by_cases hm : m.paymentHash = h
    · subst hm
      simp [hb]
    · rw [Function.update_of_ne fun e => hm e.symm, if_neg hm, Option.or_none]
  | some e =>
    simp only [next, execBook, hb]
    by_cases hm : m.paymentHash = h
    · subst hm
      simp [hb]
    · rw [if_neg hm, Option.or_none]

/-- What a request makes of the entry of a payment hash: marks set its flags,
and an insert adds one where there is none. -/
theorem next_apply (b : Book) (r : Request) (h : String) :
    next execBook b r h =
      ((b h).map fun e =>
        { e with
          paid := e.paid || r = .markPaid h
          notifiedExpired := e.notifiedExpired || r = .markExpiredNotified h }).or
      ((recorded [r] h).map (⟨·, false, false⟩)) := by
  cases r with
  | insert m =>
    rw [next_insert]
    by_cases hm : m.paymentHash = h <;> simp [recorded, Request.inserted?, hm]
  | getByPaymentHash k =>
    show b h = _
    simp [recorded, Request.inserted?]
  | markExpiredNotified k =>
    show b.mark k _ h = _
    rw [mark_apply]
    by_cases hk : h = k
    · simp [recorded, Request.inserted?, hk]
    · simp [recorded, Request.inserted?, hk, eq_comm]
  | markPaid k =>
    show b.mark k _ h = _
    rw [mark_apply]
    by_cases hk : h = k
    · simp [recorded, Request.inserted?, hk]
    · simp [recorded, Request.inserted?, hk, eq_comm]

theorem bookAfter_snoc (rs : List Request) (r : Request) :
    bookAfter (rs ++ [r]) = next execBook (bookAfter rs) r := run_snoc rs r

/-- The records of the book are the first ones inserted. -/
theorem metadata_bookAfter (rs : List Request) (h : String) :
    (bookAfter rs h).map (·.metadata) = recorded rs h := by
  induction rs using List.reverseRecOn with
  | nil => rfl
  | append_singleton rs r ih =>
    rw [recorded_snoc, ← ih, bookAfter_snoc, next_apply]
    cases bookAfter rs h <;> cases recorded [r] h <;> rfl

theorem bookAfter_eq_none {rs : List Request} {h : String} :
    bookAfter rs h = none ↔ recorded rs h = none := by
  rw [← metadata_bookAfter, Option.map_eq_none_iff]

/-! ## The store as a map -/

/-- What a request may change of a row: its own flag, from 0 to 1. -/
def Flips (r : Request) (h : String) (row row' : Sql.Row) : Prop :=
  ∀ c, row' c = row c ∨ row c = .integer 0 ∧ row' c = .integer 1 ∧
    (c = .paid ∧ r = .markPaid h ∨ c = .notifiedExpired ∧ r = .markExpiredNotified h)

/-- After the requests `rs` to an empty database, the table is the map:

* it has answered as the book;
* an insert fails exactly where its payment hash has a record, and then leaves
  the table as it is;
* a query gives the record first inserted under its payment hash;
* no row disappears, and of its values only the flags change, each by its own
  mark of that payment hash, which sets it;
* a row is new only by an insert of its payment hash, with both flags 0. -/
structure IsMap (rs : List Request) : Prop where
  answers : answers execSql .empty rs = answers execBook Book.empty rs
  insert_new : ∀ m, recorded rs m.paymentHash = none →
    (execSql (tableAfter rs) (.insert m)).2 = .done
  insert_taken : ∀ m, recorded rs m.paymentHash ≠ none →
    execSql (tableAfter rs) (.insert m) = (tableAfter rs, .failed)
  get : ∀ h, Sql.getByPaymentHash (tableAfter rs) h = some (recorded rs h)
  kept : ∀ r h row, (tableAfter rs).find (.text h) = some row →
    ∃ row', (tableAfter (rs ++ [r])).find (.text h) = some row' ∧ Flips r h row row' ∧
      (r = .markPaid h → row' .paid = .integer 1) ∧
      (r = .markExpiredNotified h → row' .notifiedExpired = .integer 1)
  fresh : ∀ r h row', (tableAfter rs).find (.text h) = none →
    (tableAfter (rs ++ [r])).find (.text h) = some row' →
    (∃ m, r = .insert m ∧ m.paymentHash = h) ∧ row' .paid = .integer 0 ∧
      row' .notifiedExpired = .integer 0

/-- Marks that are repeated, or made in the other order, leave the same table. -/
def MarksCommute (t : Sql.MetadataTable) : Prop :=
  ∀ h h', Sql.markPaid (Sql.markPaid t h) h = Sql.markPaid t h ∧
    Sql.markExpiredNotified (Sql.markExpiredNotified t h) h = Sql.markExpiredNotified t h ∧
    Sql.markPaid (Sql.markExpiredNotified t h') h = Sql.markExpiredNotified (Sql.markPaid t h) h'

theorem marksCommute (t : Sql.MetadataTable) : MarksCommute t := by
  have hkey : ∀ c : Sql.Column, c ≠ .paymentHash → ∀ row : Sql.Row,
      Function.update row c (.integer 1) .paymentHash = row .paymentHash := fun c hc row =>
    Function.update_of_ne hc.symm _ _
  have hidem : ∀ (c : Sql.Column) (row : Sql.Row),
      Function.update (Function.update row c (.integer 1)) c (.integer 1) =
        Function.update row c (.integer 1) := fun _ _ => Function.update_idem ..
  intro h h'
  refine ⟨Table.updateAt_idem _ _ (hkey .paid (by decide)) (hidem _),
    Table.updateAt_idem _ _ (hkey .notifiedExpired (by decide)) (hidem _),
    Table.updateAt_comm _ _ _ (hkey .paid (by decide)) (hkey .notifiedExpired (by decide)) ?_⟩
  intro row
  exact Function.update_comm (by decide) ..

theorem getByPaymentHash_tableAfter (rs : List Request) (h : String) :
    Sql.getByPaymentHash (tableAfter rs) h = some (recorded rs h) := by
  rw [Sql.getByPaymentHash, find_tableAfter, ← metadata_bookAfter]
  cases bookAfter rs h with
  | none => rfl
  | some e =>
    simp only [Option.map_some, tryFrom_select, ofRow_toRow]

/-- An insert fails exactly where the payment hash has a record. -/
theorem insert_tableAfter (rs : List Request) (m : InvoiceMetadata) :
    Sql.insert (tableAfter rs) m = none ↔ recorded rs m.paymentHash ≠ none := by
  rw [Sql.insert, insertedRow_eq, Option.bind_some, Table.insert_eq_none, Ne, Ne,
    ← bookAfter_eq_none]
  show ¬ (tableAfter rs).find (.text m.paymentHash) = none ↔ _
  rw [find_tableAfter, Option.map_eq_none_iff]

/-- The row of an entry, before and after a request. -/
theorem flips_toRow (e : Entry) (r : Request) (h : String) :
    let e' : Entry :=
      { e with
        paid := e.paid || r = .markPaid h
        notifiedExpired := e.notifiedExpired || r = .markExpiredNotified h }
    Flips r h (values e.toRow) (values e'.toRow) := by
  intro e' c
  cases c with
  | paid =>
    show Sql.Value.integer (flag (e.paid || _)) = .integer (flag e.paid) ∨
      Sql.Value.integer (flag e.paid) = _ ∧ Sql.Value.integer (flag (e.paid || _)) = _ ∧ _
    cases e.paid with
    | true => exact .inl rfl
    | false =>
      by_cases hr : r = .markPaid h
      · exact .inr ⟨rfl, by simp [hr, flag], .inl ⟨rfl, hr⟩⟩
      · exact .inl (by simp [hr])
  | notifiedExpired =>
    show Sql.Value.integer (flag (e.notifiedExpired || _)) = .integer (flag e.notifiedExpired) ∨
      Sql.Value.integer (flag e.notifiedExpired) = _ ∧
        Sql.Value.integer (flag (e.notifiedExpired || _)) = _ ∧ _
    cases e.notifiedExpired with
    | true => exact .inl rfl
    | false =>
      by_cases hr : r = .markExpiredNotified h
      · exact .inr ⟨rfl, by simp [hr, flag], .inr ⟨rfl, hr⟩⟩
      · exact .inl (by simp [hr])
  | _ => exact .inl rfl

theorem tableAfter_kept (rs : List Request) (r : Request) {h : String} {row : Sql.Row}
    (hrow : (tableAfter rs).find (.text h) = some row) :
    ∃ row', (tableAfter (rs ++ [r])).find (.text h) = some row' ∧ Flips r h row row' ∧
      (r = .markPaid h → row' .paid = .integer 1) ∧
      (r = .markExpiredNotified h → row' .notifiedExpired = .integer 1) := by
  rw [find_tableAfter] at hrow
  obtain ⟨e, he, rfl⟩ := Option.map_eq_some_iff.1 hrow
  rw [find_tableAfter, bookAfter_snoc, next_apply, he]
  refine ⟨_, rfl, flips_toRow e r h, fun hr => ?_, fun hr => ?_⟩
  · show Sql.Value.integer (flag (e.paid || r = .markPaid h)) = _
    simp [hr, flag]
  · show Sql.Value.integer (flag (e.notifiedExpired || r = .markExpiredNotified h)) = _
    simp [hr, flag]

theorem tableAfter_fresh (rs : List Request) (r : Request) {h : String} {row : Sql.Row}
    (hnone : (tableAfter rs).find (.text h) = none)
    (hrow : (tableAfter (rs ++ [r])).find (.text h) = some row) :
    (∃ m, r = .insert m ∧ m.paymentHash = h) ∧ row .paid = .integer 0 ∧
      row .notifiedExpired = .integer 0 := by
  rw [find_tableAfter, Option.map_eq_none_iff] at hnone
  rw [find_tableAfter, bookAfter_snoc, next_apply, hnone, Option.map_none, Option.none_or,
    Option.map_map, Option.map_eq_some_iff] at hrow
  obtain ⟨m, hm, rfl⟩ := hrow
  refine ⟨?_, rfl, rfl⟩
  obtain ⟨hmem, hk⟩ : m ∈ [r].filterMap Request.inserted? ∧ m.paymentHash = h :=
    ⟨List.mem_of_find?_eq_some hm, by simpa using List.find?_some hm⟩
  refine ⟨m, ?_, hk⟩
  cases r with
  | insert m' =>
    obtain rfl := List.mem_singleton.1 hmem
    rfl
  | _ => cases hmem

/-- The invoice store is an append-only map from payment hashes to records and
two flags. -/
theorem store_is_map (rs : List Request) : IsMap rs ∧ ∀ t, MarksCommute t where
  left :=
    { answers := sql_simulates_book.answers_eq comp_empty rs
      insert_new := fun m hm => by
        cases hi : Sql.insert (tableAfter rs) m with
        | none => exact absurd hm ((insert_tableAfter rs m).1 hi)
        | some t => simp only [execSql, hi]
      insert_taken := fun m hm => by
        simp only [execSql, (insert_tableAfter rs m).2 hm]
      get := getByPaymentHash_tableAfter rs
      kept := fun r _ _ => tableAfter_kept rs r
      fresh := fun r _ _ => tableAfter_fresh rs r }
  right := marksCommute

end Mdkd.Proof.Store
