import Mdkd.Proof.Preimage

/-!
# Listing incoming payments

`GET /payments/incoming` has SQLite select the rows: the window, the limit and
the offset, 64-bit values without sign in the request, are signed ones in the
query. `Query.selected` is what the request asks for; `selects_iff` says when the
query gives it. `listing_is_lookups` is about the rows it does give: each is
shown as it is when asked for by its payment hash.
-/

namespace Mdkd.Proof.Incoming

open Framework Client Payments

/-! ## What a request asks for -/

/-- A request with its defaults filled in. -/
structure Query where
  fromSecs : UInt64
  toSecs : UInt64
  limit : UInt64
  offset : UInt64
  all : Bool
  externalId : Option String

def queryOf (now : UInt64) (params : ListPaymentsRequest) : Query where
  fromSecs := params.fromSecs.getD 0
  toSecs := params.toSecs.getD now
  limit := params.limit.getD 20
  offset := params.offset.getD 0
  all := params.all.getD false
  externalId := params.externalId

/-- The time a row was created at. -/
def created (row : MetadataRow) : UInt64 := row.createdAt.toUInt64

/-- The newest first, the later of two created in the same second. -/
def newestFirst (rows : List MetadataRow) : List MetadataRow :=
  rows.reverse.insertionSort fun a b => created b ≤ created a

namespace Query

variable (q : Query) (store : InvoiceMetadataStore)

/-- The rows of the external id, if one is given, paid unless all are asked for. -/
def wanted (row : MetadataRow) : Bool :=
  (q.all || row.paid = 1) && (q.externalId.isNone || row.externalId = q.externalId)

/-- Those created in the window. -/
def matching : List MetadataRow :=
  store.invoices.rows.filter fun row =>
    q.wanted row && (q.fromSecs ≤ created row && created row ≤ q.toSecs)

/-- Those created after its start or before its end: where the window ends
before it starts, the rows on either side of it. -/
def aside : List MetadataRow :=
  store.invoices.rows.filter fun row =>
    q.wanted row && (q.fromSecs ≤ created row || created row ≤ q.toSecs)

/-- The rows asked for. -/
def selected : List MetadataRow :=
  ((newestFirst (q.matching store)).drop q.offset.toNat).take q.limit.toNat

/-- The rows the statement's `WHERE` keeps. -/
def kept : List MetadataRow :=
  store.invoices.rows.filter
    (InvoiceMetadataStore.listed q.fromSecs.toInt64 q.toSecs.toInt64 q.all q.externalId)

/-- The payment hashes of those, as the statement orders them. -/
def keptHashes : List String :=
  ((q.kept store).reverse.insertionSort fun a b => b.createdAt ≤ a.createdAt).map
    (·.paymentHash)

/-- The payment hashes of the rows in the window, newest first. -/
def matchingHashes : List String := (newestFirst (q.matching store)).map (·.paymentHash)

theorem length_keptHashes : (q.keptHashes store).length = (q.kept store).length := by
  rw [keptHashes, List.length_map, List.length_insertionSort, List.length_reverse]

theorem length_matchingHashes :
    (q.matchingHashes store).length = (q.matching store).length := by
  rw [matchingHashes, newestFirst, List.length_map, List.length_insertionSort,
    List.length_reverse]

/-- Rows of the table, selected and sorted, have distinct payment hashes. -/
theorem nodup_sorted (p : MetadataRow → Bool) (r : MetadataRow → MetadataRow → Prop)
    [DecidableRel r] :
    (((store.invoices.rows.filter p).reverse.insertionSort r).map (·.paymentHash)).Nodup := by
  have hperm := ((List.perm_insertionSort r _).trans (List.reverse_perm
    (store.invoices.rows.filter p))).map (·.paymentHash)
  exact hperm.nodup_iff.2 (store.invoices.nodup.sublist (List.filter_sublist.map _))

/-- The records the query gives. -/
def records : List InvoiceMetadata :=
  store.list q.fromSecs q.toSecs q.limit q.offset q.all q.externalId

/-- They are a page of the rows kept. -/
theorem map_records : (q.records store).map (·.paymentHash) =
    page q.limit.toInt64 q.offset.toInt64 (q.keptHashes store) := by
  rw [keptHashes, ← page_map]
  show List.map _ (List.map _ _) = _
  rw [List.map_map]
  rfl

/-- The records a query gives are of distinct rows. -/
theorem nodup_records : ((q.records store).map (·.paymentHash)).Nodup := by
  rw [q.map_records]
  exact (nodup_sorted store _ _).sublist (page_sublist _ _ _)

/-! ## The statement -/

/-- The `WHERE`, which compares the times as signed values. -/
theorem listed_eq (row : MetadataRow) :
    InvoiceMetadataStore.listed q.fromSecs.toInt64 q.toSecs.toInt64 q.all q.externalId row =
      (q.wanted row && (q.fromSecs.toInt64 ≤ (created row).toInt64 &&
        (created row).toInt64 ≤ q.toSecs.toInt64)) := by
  have hc : (created row).toInt64 = row.createdAt := Int64.toInt64_toUInt64 _
  rw [hc]
  unfold InvoiceMetadataStore.listed wanted
  cases q.all || decide (row.paid = 1) <;>
    cases q.externalId.isNone || decide (row.externalId = q.externalId) <;> simp

/-- Both ends of the window are below `2⁶³`, or both are not. -/
def OneHalf : Prop := q.fromSecs.toNat < 2 ^ 63 ↔ q.toSecs.toNat < 2 ^ 63

/-- A window in one half is the same as a signed one. -/
theorem kept_of_oneHalf (h : q.OneHalf) : q.kept store = q.matching store := by
  unfold kept matching
  refine List.filter_congr fun row _ => ?_
  rw [q.listed_eq]
  congr 1
  rw [Bool.eq_iff_iff, Bool.and_eq_true, Bool.and_eq_true, decide_eq_true_eq, decide_eq_true_eq,
    decide_eq_true_eq, decide_eq_true_eq, toInt64_le_iff, toInt64_le_iff]
  simp only [UInt64.le_iff_toNat_le]
  unfold OneHalf at h
  omega

/-- A window from the lower half into the upper one is empty as a signed one. -/
theorem kept_of_spread (hf : q.fromSecs.toNat < 2 ^ 63) (ht : 2 ^ 63 ≤ q.toSecs.toNat) :
    q.kept store = [] := by
  unfold kept
  refine List.filter_eq_nil_iff.2 fun row _ => ?_
  rw [q.listed_eq, Bool.and_eq_true, Bool.and_eq_true, decide_eq_true_eq, decide_eq_true_eq,
    toInt64_le_iff, toInt64_le_iff]
  omega

/-- A window from the upper half to the lower one takes what is on either side. -/
theorem kept_of_reversed (ht : q.toSecs.toNat < 2 ^ 63) (hf : 2 ^ 63 ≤ q.fromSecs.toNat) :
    q.kept store = q.aside store := by
  unfold kept aside
  refine List.filter_congr fun row _ => ?_
  rw [q.listed_eq]
  congr 1
  rw [Bool.eq_iff_iff, Bool.and_eq_true, Bool.or_eq_true, decide_eq_true_eq, decide_eq_true_eq,
    decide_eq_true_eq, decide_eq_true_eq, toInt64_le_iff, toInt64_le_iff]
  simp only [UInt64.le_iff_toNat_le]
  omega

/-- No row is in such a window. -/
theorem matching_of_reversed (ht : q.toSecs.toNat < 2 ^ 63) (hf : 2 ^ 63 ≤ q.fromSecs.toNat) :
    q.matching store = [] := by
  unfold matching
  refine List.filter_eq_nil_iff.2 fun row _ => ?_
  rw [Bool.and_eq_true, Bool.and_eq_true, decide_eq_true_eq, decide_eq_true_eq,
    UInt64.le_iff_toNat_le, UInt64.le_iff_toNat_le]
  omega

/-- The rows of a window in one half are ordered as signed values are. -/
theorem keptHashes_of_oneHalf (h : q.OneHalf) : q.keptHashes store = q.matchingHashes store := by
  unfold keptHashes matchingHashes newestFirst
  rw [q.kept_of_oneHalf store h]
  congr 1
  have hin : ∀ row ∈ (q.matching store).reverse,
      ((created row).toNat < 2 ^ 63 ↔ q.toSecs.toNat < 2 ^ 63) := by
    intro row hrow
    have hw := (List.mem_filter.1 (List.mem_reverse.1 hrow)).2
    rw [Bool.and_eq_true, Bool.and_eq_true, decide_eq_true_eq, decide_eq_true_eq,
      UInt64.le_iff_toNat_le, UInt64.le_iff_toNat_le] at hw
    unfold OneHalf at h
    omega
  have hle : ∀ a ∈ (q.matching store).reverse, ∀ b ∈ (q.matching store).reverse,
      b.createdAt ≤ a.createdAt ↔ created b ≤ created a := by
    intro a ha b hb
    have hab := toInt64_le_iff (created b) (created a)
    have hca : (created a).toInt64 = a.createdAt := Int64.toInt64_toUInt64 _
    have hcb : (created b).toInt64 = b.createdAt := Int64.toInt64_toUInt64 _
    rw [hca, hcb] at hab
    have hha := hin a ha
    have hhb := hin b hb
    rw [hab, UInt64.le_iff_toNat_le]
    omega
  have hsort := List.map_insertionSort (fun a b : MetadataRow => b.createdAt ≤ a.createdAt)
    (fun a b : MetadataRow => created b ≤ created a) id _ hle
  rwa [List.map_id, List.map_id] at hsort

end Query

/-! ## The rows selected -/

variable (node : PaymentStore) (store : InvoiceMetadataStore) (now : UInt64)
  (params : ListPaymentsRequest)

/-- The rows shown are the rows asked for. -/
def Selects : Prop :=
  ∃ ps, handleListIncomingPayments node store none now params = .ok ps ∧
    ps.map (·.paymentHash) = ((queryOf now params).selected store).map (·.paymentHash)

/-- The payment hashes shown are a page of those the statement keeps. -/
theorem selects_iff_page :
    Selects node store now params ↔
      page (queryOf now params).limit.toInt64 (queryOf now params).offset.toInt64
          ((queryOf now params).keptHashes store) =
        (((queryOf now params).matchingHashes store).drop (queryOf now params).offset.toNat).take
          (queryOf now params).limit.toNat := by
  have hshown : ∀ ps, handleListIncomingPayments node store none now params = .ok ps →
      ps.map (·.paymentHash) = ((queryOf now params).records store).map (·.paymentHash) := by
    intro ps hps
    obtain rfl := Except.ok.inj hps
    rw [List.map_map]
    rfl
  have hasked : ((queryOf now params).selected store).map (·.paymentHash) =
      (((queryOf now params).matchingHashes store).drop (queryOf now params).offset.toNat).take
        (queryOf now params).limit.toNat := by
    rw [Query.selected, List.map_take, List.map_drop]
    rfl
  rw [← hasked, ← Query.map_records]
  constructor
  · rintro ⟨ps, hps, h⟩
    rw [← hshown ps hps, h]
  · intro h
    exact ⟨_, rfl, (hshown _ rfl).trans h⟩

/-- The requests whose signed query selects what they ask for: no rows are
asked for; or the window is in one half, and offset and limit are below `2⁶³`
or make no difference; or it is not, and there is nothing at the offset that
the one or the other would show. -/
inductive SignSafe (q : Query) (store : InvoiceMetadataStore) : Prop where
  | nothing : q.limit = 0 → SignSafe q store
  | oneHalf : q.OneHalf → (q.offset.toNat < 2 ^ 63 ∨ q.matching store = []) →
      (q.limit.toNat < 2 ^ 63 ∨
        (q.matching store).length ≤ q.offset.toNat + q.limit.toNat) → SignSafe q store
  | spread : q.fromSecs.toNat < 2 ^ 63 → 2 ^ 63 ≤ q.toSecs.toNat →
      (q.matching store).length ≤ q.offset.toNat → SignSafe q store
  | reversed : q.toSecs.toNat < 2 ^ 63 → 2 ^ 63 ≤ q.fromSecs.toNat →
      (q.aside store).length ≤ signedOffset q.offset → SignSafe q store

namespace Query

variable (q : Query)

/-- A window in one half: its page is that of the request, or is not, for the
limit and the offset. -/
theorem page_of_oneHalf (h : q.OneHalf) :
    page q.limit.toInt64 q.offset.toInt64 (q.keptHashes store) =
        ((q.matchingHashes store).drop q.offset.toNat).take q.limit.toNat ↔
      q.limit = 0 ∨ (q.offset.toNat < 2 ^ 63 ∨ q.matching store = []) ∧
        (q.limit.toNat < 2 ^ 63 ∨
          (q.matching store).length ≤ q.offset.toNat + q.limit.toNat) := by
  have hnil : q.matchingHashes store = [] ↔ q.matching store = [] := by
    rw [← List.length_eq_zero_iff, q.length_matchingHashes, List.length_eq_zero_iff]
  have hnodup : (q.matchingHashes store).Nodup := nodup_sorted store _ _
  rw [q.keptHashes_of_oneHalf store h, page_eq_iff hnodup, hnil, q.length_matchingHashes]

/-- A window across the halves shows nothing. -/
theorem page_of_spread (hf : q.fromSecs.toNat < 2 ^ 63) (ht : 2 ^ 63 ≤ q.toSecs.toNat) :
    page q.limit.toInt64 q.offset.toInt64 (q.keptHashes store) =
        ((q.matchingHashes store).drop q.offset.toNat).take q.limit.toNat ↔
      q.limit = 0 ∨ (q.matching store).length ≤ q.offset.toNat := by
  have hkept : q.keptHashes store = [] := by
    rw [← List.length_eq_zero_iff, q.length_keptHashes, q.kept_of_spread store hf ht]
    rfl
  have hpage : page q.limit.toInt64 q.offset.toInt64 (q.keptHashes store) = [] := by
    rw [hkept, page_eq_nil_iff]
    exact .inr (Nat.zero_le _)
  rw [hpage, eq_comm, List.take_eq_nil_iff, List.drop_eq_nil_iff, q.length_matchingHashes,
    eq_zero_iff_toNat]

/-- A reversed window asks for nothing. -/
theorem page_of_reversed (ht : q.toSecs.toNat < 2 ^ 63) (hf : 2 ^ 63 ≤ q.fromSecs.toNat) :
    page q.limit.toInt64 q.offset.toInt64 (q.keptHashes store) =
        ((q.matchingHashes store).drop q.offset.toNat).take q.limit.toNat ↔
      q.limit = 0 ∨ (q.aside store).length ≤ signedOffset q.offset := by
  have hmatching : q.matchingHashes store = [] := by
    rw [← List.length_eq_zero_iff, q.length_matchingHashes, q.matching_of_reversed store ht hf]
    rfl
  rw [hmatching, List.drop_nil, List.take_nil, page_eq_nil_iff, q.length_keptHashes,
    q.kept_of_reversed store ht hf]

end Query

/-- The listing shows the rows asked for exactly where the signs of its query
make no difference. -/
theorem selects_iff (node : PaymentStore) (store : InvoiceMetadataStore) (now : UInt64)
    (params : ListPaymentsRequest) :
    Selects node store now params ↔ SignSafe (queryOf now params) store := by
  rw [selects_iff_page]
  generalize queryOf now params = q
  by_cases h : q.OneHalf
  · rw [q.page_of_oneHalf store h]
    constructor
    · rintro (h0 | ⟨ho, hl⟩)
      · exact .nothing h0
      · exact .oneHalf h ho hl
    · intro hs
      unfold Query.OneHalf at h
      cases hs with
      | nothing h0 => exact .inl h0
      | oneHalf _ ho hl => exact .inr ⟨ho, hl⟩
      | spread hf ht => omega
      | reversed ht hf => omega
  by_cases hf : q.fromSecs.toNat < 2 ^ 63
  · have ht : 2 ^ 63 ≤ q.toSecs.toNat := by unfold Query.OneHalf at h; omega
    rw [q.page_of_spread store hf ht]
    constructor
    · rintro (h0 | hlen)
      · exact .nothing h0
      · exact .spread hf ht hlen
    · intro hs
      cases hs with
      | nothing h0 => exact .inl h0
      | oneHalf h' => exact absurd h' h
      | spread _ _ hlen => exact .inr hlen
      | reversed _ hf' => omega
  · have hf' : 2 ^ 63 ≤ q.fromSecs.toNat := Nat.le_of_not_lt hf
    have ht : q.toSecs.toNat < 2 ^ 63 := by unfold Query.OneHalf at h; omega
    rw [q.page_of_reversed store ht hf']
    constructor
    · rintro (h0 | hlen)
      · exact .nothing h0
      · exact .reversed ht hf' hlen
    · intro hs
      cases hs with
      | nothing h0 => exact .inl h0
      | oneHalf h' => exact absurd h' h
      | spread hf'' => omega
      | reversed _ _ hlen => exact .inr hlen

/-- A request for everything up to the last of all times. -/
def upToMax : ListPaymentsRequest := ⟨none, some 18446744073709551615, none, none, some true, none⟩

/-- Asked for its one row up to the last of all times, the daemon shows none. -/
theorem no_row_up_to_max :
    handleListIncomingPayments Preimage.unpaidNode Preimage.unpaidStore none 1742859160 upToMax =
        .ok [] ∧
      ¬ Selects Preimage.unpaidNode Preimage.unpaidStore 1742859160 upToMax := by
  have hlist : handleListIncomingPayments Preimage.unpaidNode Preimage.unpaidStore none 1742859160
      upToMax = .ok [] := rfl
  refine ⟨hlist, ?_⟩
  rintro ⟨ps, hps, h⟩
  obtain rfl := Except.ok.inj (hlist.symm.trans hps)
  have hrow : ((queryOf 1742859160 upToMax).selected Preimage.unpaidStore).map (·.paymentHash) =
      [Preimage.unpaidRow.paymentHash] := rfl
  rw [hrow] at h
  cases h

/-! ## A listing and its lookups -/

/-- 64 digits in lower case, as payment hashes are displayed. -/
def IsHash (text : String) : Prop :=
  text.toList.length = 64 ∧ ∀ c ∈ text.toList, isLowerHexDigit c = true

/-- A payment hash of the node is displayed so. -/
theorem isHash_displayHash (h : Bytes32) : IsHash (displayHash h) := by
  unfold IsHash displayHash toHex
  rw [String.toList_ofList, length_hexDigits, Vector.length_toList]
  exact ⟨rfl, fun c hc => isLowerHexDigit_of_mem hc⟩

/-- A record listed is shown as a lookup of its payment hash shows it. -/
theorem listed_eq_lookup (q : Query) {m : InvoiceMetadata} (hm : m ∈ q.records store)
    (h : IsHash m.paymentHash) :
    .ok (enrichMetadata now m ((fromHex 32 m.paymentHash).bind fun bytes =>
        (paymentMap node (q.records store)).lookup bytes)) =
      handleGetIncomingPayment node store none now m.paymentHash := by
  obtain ⟨bytes, hb⟩ := exists_fromHex (n := 32) h.2 h.1
  have hlookup : (paymentMap node (q.records store)).lookup bytes = node.payment ⟨bytes⟩ :=
    Preimage.lookup_paymentMap hm hb
  obtain ⟨row, hrow, rfl⟩ := Preimage.mem_list hm
  have hget := Preimage.handleGetIncomingPayment_of_row node now hrow hb
  rw [hb, Option.bind_some, hlookup]
  exact hget.symm

/-- An entry of a listing is shown as a lookup of its payment hash shows it. -/
theorem lookup_of_mem {ps : List IncomingPaymentResponse}
    (hps : handleListIncomingPayments node store none now params = .ok ps)
    {r : IncomingPaymentResponse} (hr : r ∈ ps) (h : IsHash r.paymentHash) :
    handleGetIncomingPayment node store none now r.paymentHash = .ok r := by
  obtain rfl := Except.ok.inj hps
  obtain ⟨m, hm, rfl⟩ := List.mem_map.1 hr
  exact (listed_eq_lookup node store now (queryOf now params) hm h).symm

/-- A listing is the lookups of its rows, in order, each row once. -/
structure IsLookups : Prop where
  lookups : ∃ ps, handleListIncomingPayments node store none now params = .ok ps ∧
    ps.map Except.ok = ((queryOf now params).records store).map fun m =>
      handleGetIncomingPayment node store none now m.paymentHash
  once : (((queryOf now params).records store).map (·.paymentHash)).Nodup

/-- The listing of stored invoices is the same as looking up each of its rows. -/
theorem listing_is_lookups (node : PaymentStore) (store : InvoiceMetadataStore) (now : UInt64)
    (params : ListPaymentsRequest) (h : ∀ row ∈ store.invoices.rows, IsHash row.paymentHash) :
    IsLookups node store now params where
  lookups := by
    refine ⟨_, rfl, ?_⟩
    rw [List.map_map]
    refine List.map_congr_left fun m hm => ?_
    obtain ⟨row, hrow, e⟩ := Preimage.mem_list hm
    exact listed_eq_lookup node store now (queryOf now params) hm (e ▸ h row hrow)
  once := Query.nodup_records _ store

/-- A request for all invoices. -/
def everything : ListPaymentsRequest := ⟨none, none, none, none, some true, none⟩

theorem listing_is_lookups_sample :
    (∀ row ∈ Preimage.unpaidStore.invoices.rows, IsHash row.paymentHash) ∧
      IsLookups Preimage.unpaidNode Preimage.unpaidStore 1742859160 everything := by
  have h : ∀ row ∈ Preimage.unpaidStore.invoices.rows, IsHash row.paymentHash := by
    intro row hrow
    obtain rfl := List.mem_singleton.1 hrow
    exact isHash_displayHash _
  exact ⟨h, listing_is_lookups _ _ _ _ h⟩

end Mdkd.Proof.Incoming
