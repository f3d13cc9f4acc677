import Mdkd.Framework.Trace
import Mdkd.Impl.Onchain
import Mdkd.Proof.Preimage

/-!
# Outgoing payments

The listing merges two sources: the node's outbound payments, and the sends the
daemon stored itself. `entries` are the merged payments before they are shown;
`listing` is what the pages of a query cut. `outgoing_listed` says that a
transaction has one entry however the node's wallet and the table overlap, what
a query selects, and that its pages are the whole of it; `listed_found_iff` says when
asking for a listed payment by its id finds it.
-/

namespace Mdkd.Proof.Outgoing

open Framework Client Payments Onchain

def onchainTxid : PaymentKind → Option Bytes32
  | .onchain txid => some txid
  | _ => none

/-- An outgoing payment: the node's record of one, or a stored send. -/
inductive Entry where
  | payment (p : PaymentDetails)
  | send (s : OutgoingSendRecord)

namespace Entry

def response : Entry → OutgoingPaymentResponse
  | .payment p => paymentToOutgoing p
  | .send s => sendToOutgoing s

/-- The transaction of a payment made on-chain. -/
def txid : Entry → Option String
  | .payment p => (onchainTxid p.kind).map displayTxid
  | .send s => some s.txid

def createdAt : Entry → UInt64
  | .payment p => p.latestUpdateTimestamp
  | .send s => s.createdAt

def failed : Entry → Bool
  | .payment p => p.status = .failed
  | .send _ => false

@[simp] theorem txId_response (e : Entry) : e.response.txId = e.txid := by
  cases e with
  | payment p =>
    show (paymentToOutgoing p).txId = _
    rw [txid, paymentToOutgoing]
    cases p.kind <;> rfl
  | send s => rfl

@[simp] theorem createdAt_response (e : Entry) : e.response.createdAt = e.createdAt := by
  cases e <;> rfl

/-- What the filter of a listing keeps has not failed. -/
theorem shown_response (e : Entry) :
    (e.response.isPaid ∨ e.response.completedAt = none) ↔ e.failed = false := by
  cases e with
  | payment p =>
    show (decide (p.status = .succeeded) = true ∨
      (if p.status ≠ .pending then some p.latestUpdateTimestamp else none) = none) ↔
        decide (p.status = .failed) = false
    cases p.status <;> simp
  | send s => exact iff_of_true (.inr rfl) rfl

end Entry

/-! ## The two sources -/

def outbound (node : PaymentStore) : List PaymentDetails :=
  node.listPaymentsWithFilter fun p => p.direction = .outbound

/-- The node has an outbound record of the transaction. -/
def Known (node : PaymentStore) (txid : String) : Prop :=
  ∃ p ∈ outbound node, (Entry.payment p).txid = some txid

instance (node : PaymentStore) (txid : String) : Decidable (Known node txid) :=
  inferInstanceAs (Decidable (∃ p ∈ outbound node, _))

/-- The daemon has stored a send of the transaction. -/
def Stored (txid : String) (store : InvoiceMetadataStore) : Prop := store.sends.find txid ≠ none

/-- The node has one outbound record of a transaction. -/
def DistinctTxids (node : PaymentStore) : Prop :=
  ∀ p ∈ outbound node, ∀ q ∈ outbound node, ∀ txid,
    onchainTxid p.kind = some txid → onchainTxid q.kind = some txid → p = q

/-- The outgoing payments there are, each once. -/
def entries (node : PaymentStore) (sends : List OutgoingSendRecord) : List Entry :=
  (outbound node).map .payment ++ (sends.filter fun s => ¬ Known node s.txid).map .send

/-- What stands for a transaction: the node's record of it, or else the send
stored under its txid. -/
def StandsFor (node : PaymentStore) (store : InvoiceMetadataStore) (txid : String) :
    Entry → Prop
  | .payment p => p ∈ outbound node ∧ (Entry.payment p).txid = some txid
  | .send s => ¬ Known node txid ∧
      (store.sends.find txid).map InvoiceMetadataStore.sendOfRow = some s

variable {node : PaymentStore} {store : InvoiceMetadataStore} {sends : List OutgoingSendRecord}

theorem mem_outbound {p : PaymentDetails} :
    p ∈ outbound node ↔ p ∈ node.rows ∧ p.direction = .outbound := by
  rw [outbound, PaymentStore.listPaymentsWithFilter, List.mem_filter, decide_eq_true_eq]

/-- What the handler knows of the node's transactions. -/
theorem mem_knownTxids {txid : String} :
    txid ∈ ((outbound node).map paymentToOutgoing).filterMap (·.txId) ↔ Known node txid := by
  rw [List.filterMap_map, List.mem_filterMap]
  refine exists_congr fun p => and_congr_right fun _ => ?_
  rw [← Entry.txId_response]
  rfl

/-- The merged list shows the entries. -/
theorem mergedOutgoing_eq (node : PaymentStore) (sends : List OutgoingSendRecord) :
    mergedOutgoing node sends = (entries node sends).map Entry.response := by
  have hf : (sends.filter fun s =>
      s.txid ∉ ((outbound node).map paymentToOutgoing).filterMap (·.txId)) =
      sends.filter fun s => ¬ Known node s.txid :=
    List.filter_congr fun s _ => decide_eq_decide.2 (not_congr mem_knownTxids)
  show (outbound node).map paymentToOutgoing ++ (sends.filter fun s =>
    s.txid ∉ ((outbound node).map paymentToOutgoing).filterMap (·.txId)).map sendToOutgoing = _
  rw [hf, entries, List.map_append, List.map_map, List.map_map]
  rfl

theorem length_mergedOutgoing_le (node : PaymentStore) (sends : List OutgoingSendRecord) :
    (mergedOutgoing node sends).length ≤ node.rows.length + sends.length := by
  rw [mergedOutgoing_eq, List.length_map, entries, List.length_append, List.length_map,
    List.length_map]
  exact Nat.add_le_add (List.length_filter_le _ _) (List.length_filter_le _ _)

theorem displayTxid_inj {a b : Bytes32} (h : displayTxid a = displayTxid b) : a = b :=
  Vector.reverse_inj.1 (toHex_inj.1 h)

/-- Records of one transaction are one. -/
theorem eq_of_txid (hd : DistinctTxids node) {p q : PaymentDetails} (hp : p ∈ outbound node)
    (hq : q ∈ outbound node) {txid : String} (ep : (Entry.payment p).txid = some txid)
    (eq : (Entry.payment q).txid = some txid) : p = q := by
  obtain ⟨t, ht, rfl⟩ := Option.map_eq_some_iff.1 ep
  obtain ⟨u, hu, e⟩ := Option.map_eq_some_iff.1 eq
  exact hd p hp q hq t ht (displayTxid_inj e ▸ hu)

/-- The node's records are distinct. -/
theorem nodup_outbound (node : PaymentStore) : (outbound node).Nodup :=
  (List.Nodup.of_map _ node.nodup).filter _

/-- No two entries are of one transaction. -/
theorem pairwise_entries (hd : DistinctTxids node) (hs : (sends.map (·.txid)).Nodup) :
    (entries node sends).Pairwise fun a b => ∀ txid, a.txid = some txid → b.txid ≠ some txid := by
  refine List.pairwise_append.2 ⟨?_, ?_, ?_⟩
  · refine List.pairwise_map.2 ((nodup_outbound node).imp_of_mem fun hp hq hne txid ep eq => ?_)
    exact hne (eq_of_txid hd hp hq ep eq)
  · refine List.pairwise_map.2 (List.Pairwise.filter _ ?_)
    refine (List.pairwise_map.1 hs).imp fun hne txid ea eb => hne ?_
    exact Option.some.inj (ea.trans eb.symm)
  · intro a ha b hb txid ea eb
    obtain ⟨p, hp, rfl⟩ := List.mem_map.1 ha
    obtain ⟨s, hs, rfl⟩ := List.mem_map.1 hb
    have hnot := (List.mem_filter.1 hs).2
    rw [decide_eq_true_eq] at hnot
    obtain rfl : s.txid = txid := Option.some.inj eb
    exact hnot ⟨p, hp, ea⟩

/-! ## One entry for a transaction -/

theorem listOutgoingSends_perm (store : InvoiceMetadataStore) :
    store.listOutgoingSends.Perm (store.sends.rows.map InvoiceMetadataStore.sendOfRow) :=
  (List.perm_insertionSort _ _).map _

theorem nodup_listOutgoingSends (store : InvoiceMetadataStore) :
    (store.listOutgoingSends.map (·.txid)).Nodup := by
  refine ((listOutgoingSends_perm store).map _).nodup_iff.2 ?_
  rw [List.map_map]
  exact store.sends.nodup

/-- The sends read are those stored. -/
theorem mem_listOutgoingSends {s : OutgoingSendRecord} :
    s ∈ store.listOutgoingSends ↔
      (store.sends.find s.txid).map InvoiceMetadataStore.sendOfRow = some s := by
  rw [(listOutgoingSends_perm store).mem_iff, List.mem_map, Option.map_eq_some_iff]
  refine exists_congr fun row => ⟨fun h => ?_, fun h => ?_⟩
  · obtain ⟨hr, rfl⟩ := h
    exact ⟨Table.find_eq_some.2 ⟨hr, rfl⟩, rfl⟩
  · exact ⟨(Table.find_eq_some.1 h.1).1, h.2⟩

/-- What stands for a transaction is an entry of it. -/
theorem mem_entries_of_standsFor {txid : String} {e : Entry}
    (h : StandsFor node store txid e) :
    e ∈ entries node store.listOutgoingSends ∧ e.txid = some txid := by
  cases e with
  | payment p => exact ⟨List.mem_append_left _ (List.mem_map_of_mem h.1), h.2⟩
  | send s =>
    obtain ⟨hn, hf⟩ := h
    obtain ⟨row, hr, rfl⟩ := Option.map_eq_some_iff.1 hf
    obtain rfl : row.txid = txid := (Table.find_eq_some.1 hr).2
    refine ⟨List.mem_append_right _ (List.mem_map_of_mem (List.mem_filter.2 ⟨?_, ?_⟩)), rfl⟩
    · exact mem_listOutgoingSends.2 hf
    · exact decide_eq_true hn

/-- A transaction that is known or stored has something that stands for it. -/
theorem exists_standsFor {txid : String} (h : Known node txid ∨ Stored txid store) :
    ∃ e, StandsFor node store txid e := by
  by_cases hk : Known node txid
  · obtain ⟨p, hp, ht⟩ := hk
    exact ⟨.payment p, hp, ht⟩
  · obtain ⟨row, hr⟩ := Option.ne_none_iff_exists'.1 (h.resolve_left hk)
    refine ⟨.send (InvoiceMetadataStore.sendOfRow row), hk, ?_⟩
    rw [hr, Option.map_some]

/-- It has one entry. -/
theorem filter_entries (hd : DistinctTxids node) {txid : String} {e : Entry}
    (h : StandsFor node store txid e) :
    (entries node store.listOutgoingSends).filter (fun e => e.txid = some txid) = [e] := by
  obtain ⟨hm, ht⟩ := mem_entries_of_standsFor h
  exact filter_key (pairwise_entries hd (nodup_listOutgoingSends store)) hm ht

theorem filter_mergedOutgoing (hd : DistinctTxids node) {txid : String} {e : Entry}
    (h : StandsFor node store txid e) :
    (mergedOutgoing node store.listOutgoingSends).filter (fun r => r.txId = some txid) =
      [e.response] := by
  have hc : (fun r : OutgoingPaymentResponse => decide (r.txId = some txid)) ∘ Entry.response =
      fun e => decide (e.txid = some txid) := by
    funext e
    simp only [Function.comp_apply, Entry.txId_response]
  rw [mergedOutgoing_eq, List.filter_map, hc, filter_entries hd h, List.map_singleton]

/-! ## What a query selects -/

/-- The stored sends a query reads. -/
def readSends (store : InvoiceMetadataStore) (sendsOk : Bool) : List OutgoingSendRecord :=
  if sendsOk then store.listOutgoingSends else []

/-- The entries a query selects. -/
def Selected (now : UInt64) (params : ListOutgoingPaymentsRequest) (e : Entry) : Prop :=
  params.fromSecs.getD 0 ≤ e.createdAt ∧ e.createdAt ≤ params.toSecs.getD now ∧
    (params.all = some true ∨ e.failed = false)

instance (now : UInt64) (params : ListOutgoingPaymentsRequest) :
    DecidablePred (Selected now params) :=
  fun _ => inferInstanceAs (Decidable (_ ∧ _))

/-- The order of a listing. -/
def Newer (a b : OutgoingPaymentResponse) : Prop := b.createdAt ≤ a.createdAt

instance : DecidableRel Newer := fun a b => inferInstanceAs (Decidable (b.createdAt ≤ a.createdAt))

instance : Std.Total Newer := ⟨fun a b => UInt64.le_total b.createdAt a.createdAt⟩

instance : IsTrans OutgoingPaymentResponse Newer := ⟨fun _ _ _ h h' => UInt64.le_trans h' h⟩

/-- What a query selects, before its page is cut. -/
def listing (node : PaymentStore) (store : InvoiceMetadataStore) (sendsOk : Bool) (now : UInt64)
    (params : ListOutgoingPaymentsRequest) : List OutgoingPaymentResponse :=
  (((entries node (readSends store sendsOk)).filter (Selected now params)).map
    Entry.response).insertionSort Newer

variable {sendsOk : Bool} {now : UInt64} {params : ListOutgoingPaymentsRequest}

/-- The two filters of the handler select as one. -/
theorem filter_response (es : List Entry) :
    (let inRange := (es.map Entry.response).filter fun p =>
        params.fromSecs.getD 0 ≤ p.createdAt ∧ p.createdAt ≤ params.toSecs.getD now
      if params.all.getD false then inRange
        else inRange.filter fun p => p.isPaid ∨ p.completedAt = none) =
      (es.filter (Selected now params)).map Entry.response := by
  have hall : params.all.getD false = true ↔ params.all = some true := by
    cases params.all <;> simp
  simp only [List.filter_map]
  split
  · rename_i h
    congr 1
    refine List.filter_congr fun e _ => decide_eq_decide.2 ?_
    simp [Selected, hall.1 h]
  · rename_i h
    rw [List.filter_filter]
    congr 1
    refine List.filter_congr fun e _ => ?_
    simp only [Function.comp_apply, Entry.createdAt_response, Entry.shown_response]
    rw [← Bool.decide_and]
    refine decide_eq_decide.2 ?_
    rw [Selected, and_comm, and_assoc, or_iff_right (hall.not.1 h)]

/-- A query answers with a page of what it selects. -/
theorem handleListOutgoingPayments_eq :
    handleListOutgoingPayments node store sendsOk now params =
      ((listing node store sendsOk now params).drop (params.offset.getD 0).toNat).take
        (params.limit.getD 20).toNat := by
  rw [listing, ← filter_response, ← mergedOutgoing_eq]
  rfl

/-- What a query selects stands newest first. -/
theorem pairwise_listing : (listing node store sendsOk now params).Pairwise Newer :=
  List.pairwise_insertionSort Newer _

theorem listing_perm :
    (listing node store sendsOk now params).Perm
      (((entries node (readSends store sendsOk)).filter (Selected now params)).map
        Entry.response) :=
  List.perm_insertionSort Newer _

/-- The pages of `limit` entries are the whole of what a query selects. -/
theorem flatMap_handleListOutgoingPayments {limit : UInt64} {n : ℕ}
    (hk : ∀ k < n, k * limit.toNat < 2 ^ 64)
    (hn : (listing node store sendsOk now params).length ≤ n * limit.toNat) :
    ((List.range n).flatMap fun k => handleListOutgoingPayments node store sendsOk now
      { params with limit := some limit, offset := some (.ofNat (k * limit.toNat)) }) =
      listing node store sendsOk now params := by
  rw [← List.take_of_length_le hn, ← flatMap_pages]
  refine List.flatMap_congr fun k hmem => ?_
  have hlt := hk k (List.mem_range.1 hmem)
  rw [handleListOutgoingPayments_eq]
  show (List.drop (UInt64.ofNat (k * limit.toNat)).toNat _).take limit.toNat = _
  rw [UInt64.toNat_ofNat_of_lt' hlt]
  rfl

/-! ## The hand-over of a send -/

/-- What the daemon writes to the store. -/
inductive Write where
  | insert (metadata : InvoiceMetadata)
  | markExpiredNotified (paymentHash : String)
  | markPaid (paymentHash : String)
  | insertOutgoingSend (record : OutgoingSendRecord)

def write (s : InvoiceMetadataStore) : Write → InvoiceMetadataStore
  | .insert metadata => (s.insert metadata).getD s
  | .markExpiredNotified paymentHash => s.markExpiredNotified paymentHash
  | .markPaid paymentHash => s.markPaid paymentHash
  | .insertOutgoingSend record => s.insertOutgoingSend record

/-- Storing a send, there is one under its txid, and the others are kept. -/
theorem find_insertOutgoingSend (s : InvoiceMetadataStore) (record : OutgoingSendRecord) :
    Stored record.txid (s.insertOutgoingSend record) ∧
      ∀ txid, Stored txid s →
        (s.insertOutgoingSend record).sends.find txid = s.sends.find txid := by
  unfold InvoiceMetadataStore.insertOutgoingSend
  extract_lets row
  show ((s.sends.insert row).getD s.sends).find row.txid ≠ none ∧ ∀ txid, _ →
    ((s.sends.insert row).getD s.sends).find txid = _
  cases hi : s.sends.insert row with
  | none => exact ⟨Table.insert_eq_none.1 hi, fun _ _ => rfl⟩
  | some sends =>
    refine ⟨?_, fun txid hf => ?_⟩
    · rw [Option.getD_some, Table.find_insert hi, if_pos rfl]
      exact Option.some_ne_none _
    · have hne : txid ≠ row.txid := fun e => hf (e ▸ Table.find_of_insert hi)
      rw [Option.getD_some, Table.find_insert hi, if_neg hne]

/-- A stored send stays as it is. -/
theorem find_write {s : InvoiceMetadataStore} (w : Write) {txid : String}
    (h : Stored txid s) : (write s w).sends.find txid = s.sends.find txid := by
  cases w with
  | insert metadata =>
    show ((s.insert metadata).getD s).sends.find txid = _
    rw [InvoiceMetadataStore.insert]
    cases s.invoices.insert (InvoiceMetadataStore.rowOf metadata) <;> rfl
  | markExpiredNotified _ => rfl
  | markPaid _ => rfl
  | insertOutgoingSend record => exact (find_insertOutgoingSend s record).2 txid h

theorem stored_run {s : InvoiceMetadataStore} {txid : String} (h : Stored txid s)
    (ws : List Write) : Stored txid (run write s ws) := by
  refine invariant_run h (fun s w hs => ?_) ws
  rw [Stored, find_write w hs]
  exact hs

/-- A send that succeeds and is stored is in the store under its txid. -/
theorem stored_handleSendToAddress {env : OnchainEnv} {s s' : InvoiceMetadataStore}
    {req : SendToAddressRequest} {txid : String} {calls : List OnchainSend}
    (h : handleSendToAddress env s req = (⟨.ok txid, calls⟩, s')) (hok : env.insertOk = true) :
    Stored txid s' := by
  unfold handleSendToAddress at h
  extract_lets sent at h
  cases hr : sent.result with
  | error e =>
    rw [hr] at h
    cases congrArg (·.1.result) h
  | ok t =>
    rw [hr, hok] at h
    obtain rfl : displayTxid t = txid := Except.ok.inj (congrArg (·.1.result) h)
    have e : s.insertOutgoingSend (sendRecord env req (displayTxid t)) = s' := congrArg (·.2) h
    rw [← e]
    exact (find_insertOutgoingSend s _).1

/-- A query that selects what stands for a transaction has one entry of it. -/
theorem countP_listing (hd : DistinctTxids node) {txid : String} {e : Entry}
    (h : StandsFor node store txid e) (hsel : Selected now params e) :
    (listing node store true now params).countP (fun r => r.txId = some txid) = 1 := by
  have hc : (fun r : OutgoingPaymentResponse => decide (r.txId = some txid)) ∘ Entry.response =
      fun e => decide (e.txid = some txid) := by
    funext e
    simp only [Function.comp_apply, Entry.txId_response]
  rw [listing_perm.countP_eq, List.countP_map, hc, List.countP_eq_length_filter, List.filter_comm]
  show (((entries node store.listOutgoingSends).filter _).filter _).length = 1
  rw [filter_entries hd h, List.filter_singleton, decide_eq_true hsel]
  rfl

/-- Outgoing payments are listed once and in full:

* a transaction that the node knows or the daemon has stored has one entry in
  the merged list, that of what stands for it;
* a query selects, newest first, the entries of its window that have not failed
  (or all), and its pages are the whole of them;
* once a send has succeeded and is stored, whatever is written after it and
  whatever the node's wallet has picked up, a query over all payments whose
  window holds what stands for it selects one entry of it. -/
theorem outgoing_listed (node : PaymentStore) (hd : DistinctTxids node)
    (store : InvoiceMetadataStore) :
    (∀ txid, Known node txid ∨ Stored txid store → ∃ e, StandsFor node store txid e ∧
      (mergedOutgoing node store.listOutgoingSends).filter (fun r => r.txId = some txid) =
        [e.response]) ∧
    (∀ sendsOk now params,
      (listing node store sendsOk now params).Pairwise Newer ∧
      (listing node store sendsOk now params).Perm
        (((entries node (readSends store sendsOk)).filter (Selected now params)).map
          Entry.response) ∧
      ∀ limit : UInt64, 0 < limit → ∀ n, (∀ k < n, k * limit.toNat < 2 ^ 64) →
        (listing node store sendsOk now params).length ≤ n * limit.toNat →
        ((List.range n).flatMap fun k => handleListOutgoingPayments node store sendsOk now
          { params with limit := some limit, offset := some (.ofNat (k * limit.toNat)) }) =
          listing node store sendsOk now params) ∧
    ∀ env s req txid calls, handleSendToAddress env s req = (⟨.ok txid, calls⟩, store) →
      env.insertOk = true → ∀ ws, ∃ e, StandsFor node (run write store ws) txid e ∧
        ∀ now params, params.all = some true → params.fromSecs.getD 0 ≤ e.createdAt →
          e.createdAt ≤ params.toSecs.getD now →
          (listing node (run write store ws) true now params).countP
            (fun r => r.txId = some txid) = 1 := by
  refine ⟨fun txid h => ?_, fun sendsOk now params => ⟨pairwise_listing, listing_perm, ?_⟩, ?_⟩
  · obtain ⟨e, he⟩ := exists_standsFor h
    exact ⟨e, he, filter_mergedOutgoing hd he⟩
  · intro limit _ n hk hn
    exact flatMap_handleListOutgoingPayments hk hn
  · intro env s req txid calls h hok ws
    have hstored := stored_run (stored_handleSendToAddress h hok) ws
    obtain ⟨e, he⟩ := exists_standsFor (.inr hstored)
    refine ⟨e, he, fun now params hall hfrom hto => countP_listing hd he ?_⟩
    exact ⟨hfrom, hto, .inl hall⟩

/-- The node's record of a transaction it sent. -/
def sampleRecord : PaymentDetails where
  id := ⟨.replicate 32 7⟩
  kind := .onchain (.replicate 32 7)
  amountMsat := some 50000000
  feePaidMsat := none
  direction := .outbound
  status := .pending
  latestUpdateTimestamp := 1700000600

/-- A node whose wallet has picked the transaction up. -/
def sampleNode : PaymentStore := ⟨[sampleRecord], List.nodup_singleton _⟩

/-- Surroundings in which the wallet sends the transaction. -/
def sampleOnchainEnv : OnchainEnv where
  parseAddress _ := .ok ⟨[0]⟩
  fromSatPerVb _ := none
  sendToAddress _ := .ok (.replicate 32 7)
  now := 1700000000
  insertOk := true

/-- The store after the transaction was sent. -/
def sampleStore : InvoiceMetadataStore :=
  (handleSendToAddress sampleOnchainEnv .empty ⟨"bc1q", 50000, none⟩).2

/-- The send the wallet has picked up has one entry. -/
theorem outgoing_listed_sample :
    ∃ e, StandsFor sampleNode sampleStore (displayTxid (.replicate 32 7)) e ∧
      (mergedOutgoing sampleNode sampleStore.listOutgoingSends).filter
        (fun r => r.txId = some (displayTxid (.replicate 32 7))) = [e.response] := by
  have hd : DistinctTxids sampleNode := by
    intro p hp q hq txid _ _
    exact (List.mem_singleton.1 hp).trans (List.mem_singleton.1 hq).symm
  exact (outgoing_listed sampleNode hd sampleStore).1 _
    (.inl ⟨sampleRecord, List.mem_singleton_self _, rfl⟩)

/-! ## Asking for a listed payment -/

/-- The request for all outgoing payments there are, on one page. -/
def everything : ListOutgoingPaymentsRequest where
  fromSecs := some 0
  toSecs := some 18446744073709551615
  limit := some 18446744073709551615
  offset := some 0
  all := some true

/-- The listing and the request for one payment agree: a listed payment is
found under its id, and one that is found is listed under that id. -/
structure Agree (node : PaymentStore) (store : InvoiceMetadataStore) : Prop where
  listed_found : ∀ sendsOk now params,
    ∀ r ∈ handleListOutgoingPayments node store sendsOk now params,
      handleGetOutgoingPayment node r.paymentId = .ok r
  found_listed : ∀ id r, handleGetOutgoingPayment node id = .ok r →
    fromHex 32 id = fromHex 32 r.paymentId ∧
      ∀ sendsOk now, r ∈ handleListOutgoingPayments node store sendsOk now everything

/-- Every entry is selected by the request for all. -/
theorem selected_everything (now : UInt64) (e : Entry) : Selected now everything e := by
  have hto : e.createdAt.toNat ≤ (18446744073709551615 : UInt64).toNat := by
    have := e.createdAt.toNat_lt
    have : (18446744073709551615 : UInt64).toNat = 18446744073709551615 := rfl
    omega
  exact ⟨UInt64.zero_le, UInt64.le_iff_toNat_le.2 hto, .inl rfl⟩

/-- The request for all answers with all entries, where a list can hold them. -/
theorem mem_everything (hlen : (mergedOutgoing node store.listOutgoingSends).length < 2 ^ 64)
    {r : OutgoingPaymentResponse} :
    r ∈ handleListOutgoingPayments node store sendsOk now everything ↔
      ∃ e ∈ entries node (readSends store sendsOk), r = e.response := by
  have hl : (listing node store sendsOk now everything).length ≤
      (mergedOutgoing node store.listOutgoingSends).length := by
    rw [listing_perm.length_eq, List.length_map, mergedOutgoing_eq, List.length_map]
    refine (List.length_filter_le _ _).trans ?_
    cases sendsOk with
    | true => exact le_refl _
    | false => simp [entries, readSends]
  have htake : handleListOutgoingPayments node store sendsOk now everything =
      listing node store sendsOk now everything := by
    have hmax : (18446744073709551615 : UInt64).toNat = 18446744073709551615 := rfl
    rw [handleListOutgoingPayments_eq]
    show (List.drop 0 _).take (18446744073709551615 : UInt64).toNat = _
    rw [List.drop_zero, List.take_of_length_le]
    omega
  rw [htake, listing_perm.mem_iff, List.mem_map]
  refine exists_congr fun e => ?_
  rw [List.mem_filter, decide_eq_true (selected_everything now e)]
  simp [eq_comm]

/-- A page is of entries. -/
theorem mem_entries_of_listed {r : OutgoingPaymentResponse}
    (h : r ∈ handleListOutgoingPayments node store sendsOk now params) :
    ∃ e ∈ entries node (readSends store sendsOk), r = e.response := by
  rw [handleListOutgoingPayments_eq] at h
  have hl := listing_perm.mem_iff.1 (List.mem_of_mem_drop (List.mem_of_mem_take h))
  obtain ⟨e, he, rfl⟩ := List.mem_map.1 hl
  exact ⟨e, (List.mem_filter.1 he).1, rfl⟩

/-- A payment shown by itself is one of the node's. -/
theorem known_of_found {id : String} {r : OutgoingPaymentResponse} {txid : String}
    (h : handleGetOutgoingPayment node id = .ok r) (ht : r.txId = some txid) :
    Known node txid := by
  obtain ⟨d, hd, ho, -, rfl⟩ := Preimage.handleGetOutgoingPayment_eq_ok.1 h
  refine ⟨d, mem_outbound.2 ⟨hd, ho⟩, ?_⟩
  rw [← Entry.txId_response]
  exact ht

theorem stored_of_read {s : OutgoingSendRecord} (h : s ∈ readSends store sendsOk) :
    Stored s.txid store := by
  unfold readSends at h
  split at h
  · have hf := mem_listOutgoingSends.1 h
    intro hnone
    rw [hnone] at hf
    cases hf
  · cases h

/-- Listing and asking agree exactly when the node's wallet has picked up every
stored send. -/
theorem listed_found_iff (node : PaymentStore) (store : InvoiceMetadataStore)
    (hlen : (mergedOutgoing node store.listOutgoingSends).length < 2 ^ 64) :
    Agree node store ↔ ∀ txid, Stored txid store → Known node txid := by
  refine ⟨fun h txid hs => ?_, fun h => ⟨fun sendsOk now params r hr => ?_, fun id r hr => ?_⟩⟩
  · obtain ⟨e, he⟩ := exists_standsFor (.inr hs)
    obtain ⟨hm, ht⟩ := mem_entries_of_standsFor he
    have hr : e.response ∈ handleListOutgoingPayments node store true 0 everything :=
      (mem_everything hlen).2 ⟨e, hm, rfl⟩
    rw [← Entry.txId_response] at ht
    exact known_of_found (h.listed_found _ _ _ _ hr) ht
  · obtain ⟨e, he, rfl⟩ := mem_entries_of_listed hr
    rcases List.mem_append.1 he with he | he
    · obtain ⟨p, hp, rfl⟩ := List.mem_map.1 he
      obtain ⟨hp, ho⟩ := mem_outbound.1 hp
      exact Preimage.handleGetOutgoingPayment_eq_ok.2 ⟨p, hp, ho, fromHex_toHex _, rfl⟩
    · obtain ⟨s, hs, rfl⟩ := List.mem_map.1 he
      obtain ⟨hs, hn⟩ := List.mem_filter.1 hs
      exact absurd (h _ (stored_of_read hs)) (of_decide_eq_true hn)
  · obtain ⟨d, hd, ho, hid, rfl⟩ := Preimage.handleGetOutgoingPayment_eq_ok.1 hr
    refine ⟨hid.trans (fromHex_toHex _).symm, fun sendsOk now => ?_⟩
    refine (mem_everything hlen).2 ⟨.payment d, ?_, rfl⟩
    exact List.mem_append_left _ (List.mem_map_of_mem (mem_outbound.2 ⟨hd, ho⟩))

/-- A send the wallet has picked up is listed under the node's id. -/
theorem listed_found_sample : Agree sampleNode sampleStore ↔
    ∀ txid, Stored txid sampleStore → Known sampleNode txid :=
  listed_found_iff sampleNode sampleStore
    ((length_mergedOutgoing_le sampleNode sampleStore.listOutgoingSends).trans_lt (by decide))

/-- Until then it is listed under its txid, and not found under it. -/
theorem stored_send_not_found :
    handleListOutgoingPayments .empty sampleStore true 1700000001 everything =
        [sendToOutgoing ⟨displayTxid (.replicate 32 7), "bc1q", 50000, none, 1700000000⟩] ∧
      handleGetOutgoingPayment .empty (displayTxid (.replicate 32 7)) =
        .error (.notFound ("Payment " ++ displayTxid (.replicate 32 7) ++ " not found")) ∧
      ¬ Agree .empty sampleStore := by
  have hlist : handleListOutgoingPayments .empty sampleStore true 1700000001 everything =
      [sendToOutgoing ⟨displayTxid (.replicate 32 7), "bc1q", 50000, none, 1700000000⟩] := by
    rfl
  have hget : handleGetOutgoingPayment .empty (displayTxid (.replicate 32 7)) =
      .error (.notFound ("Payment " ++ displayTxid (.replicate 32 7) ++ " not found")) := by
    rw [handleGetOutgoingPayment, displayTxid, fromHex_toHex]
    rfl
  refine ⟨hlist, hget, fun h => ?_⟩
  have hr := h.listed_found true 1700000001 everything _ (hlist ▸ List.mem_singleton_self _)
  exact absurd (hget.symm.trans hr) (by simp)

end Mdkd.Proof.Outgoing
