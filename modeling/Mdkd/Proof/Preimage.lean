import Mdkd.Impl.Payments
import Mdkd.Proof.Pay

/-!
# Preimages in responses

The node's record of a payment may hold its preimage before it has succeeded:
the node itself makes the preimage of an invoice it issues. The handlers show
what the record holds. `no_premature_preimage_iff` says when no response shows
the preimage of a payment that has not succeeded.
-/

namespace Mdkd.Proof.Preimage

open Framework Client Payments

/-- The record holds a preimage, and the payment has not succeeded. -/
def Premature (d : PaymentDetails) : Prop := d.kind.storedPreimage ≠ none ∧ d.status ≠ .succeeded

/-- The node's record under the id or hash with this text has succeeded. -/
def Settled (node : PaymentStore) (idText : String) : Prop :=
  ∃ bytes d, fromHex 32 idText = some bytes ∧ node.payment ⟨bytes⟩ = some d ∧
    d.status = .succeeded

/-- A response of the incoming endpoints shows no premature preimage. -/
def CleanIncoming (node : PaymentStore) (r : IncomingPaymentResponse) : Prop :=
  r.preimage ≠ none → Settled node r.paymentHash

/-- A response of the outgoing endpoints shows no premature preimage. -/
def CleanOutgoing (node : PaymentStore) (r : OutgoingPaymentResponse) : Prop :=
  r.preimage ≠ none → Settled node r.paymentId

/-! ## What the responses show -/

/-- Both copies of `extract_preimage` show the preimage held, whatever the kind. -/
theorem extractPreimage_eq (k : PaymentKind) :
    extractPreimage k = k.storedPreimage.map displayHash := by
  cases k <;> rfl

theorem pay_extractPreimage_eq (k : PaymentKind) :
    Pay.extractPreimage k = k.storedPreimage.map displayHash := by
  cases k <;> rfl

theorem preimage_paymentToOutgoing (p : PaymentDetails) :
    (paymentToOutgoing p).preimage = p.kind.storedPreimage.map displayHash := by
  unfold paymentToOutgoing
  cases p.kind <;> rfl

theorem preimage_enrichMetadata (now : UInt64) (m : InvoiceMetadata) (o : Option PaymentDetails) :
    (enrichMetadata now m o).preimage ≠ none ↔ ∃ d, o = some d ∧ d.kind.storedPreimage ≠ none := by
  cases o with
  | none => simp [enrichMetadata]
  | some d => simp [enrichMetadata, extractPreimage_eq]

/-- In the map of a listing, the hash of a row leads to the node's record. -/
theorem lookup_paymentMap {node : PaymentStore} {rows : List InvoiceMetadata}
    {m : InvoiceMetadata} (hm : m ∈ rows) {bytes : Bytes32}
    (hb : fromHex 32 m.paymentHash = some bytes) :
    (paymentMap node rows).lookup bytes = node.payment ⟨bytes⟩ := by
  have hw : bytes ∈ rows.filterMap fun m => fromHex 32 m.paymentHash :=
    List.mem_filterMap.2 ⟨m, hm, hb⟩
  have hn : (((node.listPaymentsWithFilter fun p => p.id.bytes ∈
      rows.filterMap fun m => fromHex 32 m.paymentHash).map
        fun p => (p.id.bytes, p)).map Prod.fst).Nodup := by
    rw [List.map_map]
    have hid : (node.rows.map fun p => p.id.bytes).Nodup := by
      have : (node.rows.map fun p => p.id.bytes) = (node.rows.map PaymentDetails.id).map
          PaymentId.bytes := by rw [List.map_map]; rfl
      rw [this]
      exact node.nodup.map fun a b h => by cases a; cases b; exact congrArg PaymentId.mk h
    exact hid.sublist (List.filter_sublist.map _)
  refine Option.ext fun p => ?_
  show (collect _).lookup bytes = some p ↔ _
  rw [lookup_collect hn, List.mem_map, PaymentStore.payment, Table.find_eq_some]
  simp only [PaymentStore.listPaymentsWithFilter, List.mem_filter, decide_eq_true_eq, Prod.mk.injEq]
  refine ⟨?_, ?_⟩
  · rintro ⟨q, ⟨hq, -⟩, rfl, rfl⟩
    exact ⟨hq, rfl⟩
  · rintro ⟨hp, e⟩
    have hpb : p.id.bytes = bytes := by rw [e]
    exact ⟨p, ⟨hp, hpb ▸ hw⟩, hpb, rfl⟩

/-- An entry of the outgoing listing is of an outbound record, or of a stored
send and without preimage. -/
theorem mem_handleListOutgoingPayments {node : PaymentStore} {store : InvoiceMetadataStore}
    {sendsOk : Bool} {now : UInt64} {params : ListOutgoingPaymentsRequest}
    {r : OutgoingPaymentResponse}
    (h : r ∈ handleListOutgoingPayments node store sendsOk now params) :
    (∃ p ∈ node.rows, p.direction = .outbound ∧ r = paymentToOutgoing p) ∨ r.preimage = none := by
  have hs := List.mem_of_mem_drop (List.mem_of_mem_take h)
  rw [List.mem_insertionSort] at hs
  have hm : r ∈ mergedOutgoing node (if sendsOk then store.listOutgoingSends else []) := by
    split at hs
    · exact (List.mem_filter.1 hs).1
    · exact (List.mem_filter.1 (List.mem_filter.1 hs).1).1
  rcases List.mem_append.1 hm with hm | hm
  · obtain ⟨p, hp, rfl⟩ := List.mem_map.1 hm
    obtain ⟨hp, hd⟩ := List.mem_filter.1 hp
    exact .inl ⟨p, hp, by simpa using hd, rfl⟩
  · obtain ⟨send, -, rfl⟩ := List.mem_map.1 hm
    exact .inr rfl

/-! ## The four `GET` endpoints -/

/-- No response to any request shows a premature preimage. -/
structure GetsClean (node : PaymentStore) (store : InvoiceMetadataStore) : Prop where
  incoming : ∀ queryError now hash r,
    handleGetIncomingPayment node store queryError now hash = .ok r → CleanIncoming node r
  listIncoming : ∀ queryError now params rs,
    handleListIncomingPayments node store queryError now params = .ok rs →
      ∀ r ∈ rs, CleanIncoming node r
  listOutgoing : ∀ sendsOk now params,
    ∀ r ∈ handleListOutgoingPayments node store sendsOk now params, CleanOutgoing node r
  outgoing : ∀ id r, handleGetOutgoingPayment node id = .ok r → CleanOutgoing node r

/-- No record that holds a premature preimage is outbound, or under the hash
of a stored invoice. -/
def NoneShown (node : PaymentStore) (store : InvoiceMetadataStore) : Prop :=
  ∀ d ∈ node.rows, Premature d →
    d.direction ≠ .outbound ∧
      ∀ row ∈ store.invoices.rows, fromHex 32 row.paymentHash ≠ some d.id.bytes

/-- The node finds a record under its own id. -/
theorem payment_of_mem {node : PaymentStore} {d : PaymentDetails} (hd : d ∈ node.rows) :
    node.payment ⟨d.id.bytes⟩ = some d := Table.find_eq_some.2 ⟨hd, rfl⟩

/-- A record under its own id is settled exactly when it has succeeded. -/
theorem settled_iff {node : PaymentStore} {d : PaymentDetails} (hd : d ∈ node.rows)
    {idText : String} (hid : fromHex 32 idText = some d.id.bytes) :
    Settled node idText ↔ d.status = .succeeded := by
  have hn := payment_of_mem hd
  refine ⟨?_, fun h => ⟨_, d, hid, hn, h⟩⟩
  rintro ⟨bytes, d', hb, hd', hs⟩
  rw [hid] at hb
  obtain rfl := Option.some.inj hb
  rw [hn] at hd'
  exact Option.some.inj hd' ▸ hs

/-- The record of an id is one of the store. -/
theorem mem_of_payment {node : PaymentStore} {bytes : Bytes32} {d : PaymentDetails}
    (h : node.payment ⟨bytes⟩ = some d) : d ∈ node.rows ∧ d.id.bytes = bytes := by
  obtain ⟨hd, e⟩ := Table.find_eq_some.1 h
  exact ⟨hd, by rw [e]⟩

theorem getByPaymentHash_eq_some {store : InvoiceMetadataStore} {hash : String}
    {m : InvoiceMetadata} :
    store.getByPaymentHash hash = some m ↔
      ∃ row ∈ store.invoices.rows, row.paymentHash = hash ∧ m = .ofRow row := by
  rw [InvoiceMetadataStore.getByPaymentHash, Option.map_eq_some_iff]
  refine exists_congr fun row => ?_
  rw [Table.find_eq_some, and_assoc, eq_comm (a := InvoiceMetadata.ofRow row)]

/-- What a listing gives is read from rows of the table. -/
theorem mem_list {store : InvoiceMetadataStore} {fromSecs toSecs limit offset : UInt64} {all : Bool}
    {externalId : Option String} {m : InvoiceMetadata}
    (h : m ∈ store.list fromSecs toSecs limit offset all externalId) :
    ∃ row ∈ store.invoices.rows, m = .ofRow row := by
  obtain ⟨row, hrow, rfl⟩ := List.mem_map.1 h
  have hs := (page_sublist _ _ _).subset hrow
  rw [List.mem_insertionSort, List.mem_reverse] at hs
  exact ⟨row, (List.mem_filter.1 hs).1, rfl⟩

/-- What is shown of a stored invoice is clean if none is shown prematurely. -/
theorem clean_enrichMetadata {node : PaymentStore} {store : InvoiceMetadataStore}
    (h : NoneShown node store) {row : MetadataRow} (hrow : row ∈ store.invoices.rows)
    {now : UInt64} {o : Option PaymentDetails}
    (ho : ∀ d, o = some d → ∃ bytes, fromHex 32 row.paymentHash = some bytes ∧
      node.payment ⟨bytes⟩ = some d) :
    CleanIncoming node (enrichMetadata now (.ofRow row) o) := by
  intro hp
  obtain ⟨d, hd, hk⟩ := (preimage_enrichMetadata _ _ _).1 hp
  obtain ⟨bytes, hb, hn⟩ := ho d hd
  obtain ⟨hmem, rfl⟩ := mem_of_payment hn
  refine (settled_iff hmem hb).2 ?_
  by_contra hs
  exact (h d hmem ⟨hk, hs⟩).2 row hrow hb

/-- What is shown of an outbound record is clean if none is shown prematurely. -/
theorem clean_paymentToOutgoing {node : PaymentStore} {store : InvoiceMetadataStore}
    (h : NoneShown node store) {d : PaymentDetails} (hd : d ∈ node.rows)
    (ho : d.direction = .outbound) : CleanOutgoing node (paymentToOutgoing d) := by
  intro hp
  rw [preimage_paymentToOutgoing, ne_eq, Option.map_eq_none_iff] at hp
  refine (settled_iff hd (fromHex_toHex _)).2 ?_
  by_contra hs
  exact (h d hd ⟨hp, hs⟩).1 ho

/-- Asked for an id, the daemon shows the outbound record of it. -/
theorem handleGetOutgoingPayment_eq_ok {node : PaymentStore} {id : String}
    {r : OutgoingPaymentResponse} :
    handleGetOutgoingPayment node id = .ok r ↔
      ∃ d ∈ node.rows, d.direction = .outbound ∧ fromHex 32 id = some d.id.bytes ∧
        r = paymentToOutgoing d := by
  constructor
  · intro hr
    unfold handleGetOutgoingPayment at hr
    split at hr
    · cases hr
    rename_i bytes hb
    split at hr
    · cases hr
    rename_i d hd
    split at hr
    · cases hr
    rename_i ho
    obtain ⟨hmem, rfl⟩ := mem_of_payment hd
    exact ⟨d, hmem, not_ne_iff.1 ho, hb, (Except.ok.inj hr).symm⟩
  · rintro ⟨d, hd, ho, hb, rfl⟩
    simp only [handleGetOutgoingPayment, hb, payment_of_mem hd, ho, ne_eq, not_true_eq_false,
      ↓reduceIte]

/-- Asked for by its payment hash, a stored invoice is shown with the node's
record of it. -/
theorem handleGetIncomingPayment_of_row (node : PaymentStore) {store : InvoiceMetadataStore}
    (now : UInt64) {row : MetadataRow} (hrow : row ∈ store.invoices.rows) {bytes : Bytes32}
    (hb : fromHex 32 row.paymentHash = some bytes) :
    handleGetIncomingPayment node store none now row.paymentHash =
      .ok (enrichMetadata now (.ofRow row) (node.payment ⟨bytes⟩)) := by
  have hm : store.getByPaymentHash row.paymentHash = some (.ofRow row) :=
    getByPaymentHash_eq_some.2 ⟨row, hrow, rfl, rfl⟩
  simp only [handleGetIncomingPayment, hm, hb]

theorem handleGetIncomingPayment_of_mem {node : PaymentStore} {store : InvoiceMetadataStore}
    {d : PaymentDetails} (hd : d ∈ node.rows) {row : MetadataRow}
    (hrow : row ∈ store.invoices.rows) (hb : fromHex 32 row.paymentHash = some d.id.bytes)
    (now : UInt64) :
    handleGetIncomingPayment node store none now row.paymentHash =
      .ok (enrichMetadata now (.ofRow row) (some d)) := by
  rw [handleGetIncomingPayment_of_row node now hrow hb, payment_of_mem hd]

section
variable {node : PaymentStore} {store : InvoiceMetadataStore}

theorem NoneShown.incoming (h : NoneShown node store) {queryError : Option String} {now : UInt64}
    {hash : String} {r : IncomingPaymentResponse}
    (hr : handleGetIncomingPayment node store queryError now hash = .ok r) :
    CleanIncoming node r := by
  unfold handleGetIncomingPayment at hr
  split at hr
  · cases hr
  split at hr
  · cases hr
  rename_i m hm
  obtain ⟨row, hrow, rfl, rfl⟩ := getByPaymentHash_eq_some.1 hm
  split at hr
  · cases hr
  rename_i bytes hb
  obtain rfl := Except.ok.inj hr
  exact clean_enrichMetadata h hrow fun d hd => ⟨bytes, hb, hd⟩

theorem NoneShown.listIncoming (h : NoneShown node store) {queryError : Option String}
    {now : UInt64} {params : ListPaymentsRequest} {rs : List IncomingPaymentResponse}
    (hr : handleListIncomingPayments node store queryError now params = .ok rs)
    {r : IncomingPaymentResponse} (hmem : r ∈ rs) : CleanIncoming node r := by
  unfold handleListIncomingPayments at hr
  split at hr
  · cases hr
  obtain rfl := Except.ok.inj hr
  obtain ⟨m, hm, rfl⟩ := List.mem_map.1 hmem
  obtain ⟨row, hrow, rfl⟩ := mem_list hm
  refine clean_enrichMetadata h hrow fun d hd => ?_
  obtain ⟨bytes, hb, hl⟩ := Option.bind_eq_some_iff.1 hd
  exact ⟨bytes, hb, (lookup_paymentMap hm hb).symm.trans hl⟩

theorem NoneShown.listOutgoing (h : NoneShown node store) {sendsOk : Bool} {now : UInt64}
    {params : ListOutgoingPaymentsRequest} {r : OutgoingPaymentResponse}
    (hr : r ∈ handleListOutgoingPayments node store sendsOk now params) : CleanOutgoing node r := by
  rcases mem_handleListOutgoingPayments hr with ⟨p, hp, ho, rfl⟩ | hn
  · exact clean_paymentToOutgoing h hp ho
  · exact fun hne => absurd hn hne

theorem NoneShown.outgoing (h : NoneShown node store) {id : String} {r : OutgoingPaymentResponse}
    (hr : handleGetOutgoingPayment node id = .ok r) : CleanOutgoing node r := by
  obtain ⟨d, hd, ho, -, rfl⟩ := handleGetOutgoingPayment_eq_ok.1 hr
  exact clean_paymentToOutgoing h hd ho

end

/-- Over all requests, the `GET` endpoints are clean exactly when no record
they can show holds a premature preimage. -/
theorem getsClean_iff (node : PaymentStore) (store : InvoiceMetadataStore) :
    GetsClean node store ↔ NoneShown node store := by
  refine ⟨fun h d hd hp => ⟨fun ho => ?_, fun row hrow hb => ?_⟩, fun h => ?_⟩
  · have hshown : (paymentToOutgoing d).preimage ≠ none := by
      rw [preimage_paymentToOutgoing, ne_eq, Option.map_eq_none_iff]
      exact hp.1
    have hget : handleGetOutgoingPayment node (toHex d.id.bytes) = .ok (paymentToOutgoing d) :=
      handleGetOutgoingPayment_eq_ok.2 ⟨d, hd, ho, fromHex_toHex _, rfl⟩
    have hs := h.outgoing _ _ hget hshown
    exact hp.2 ((settled_iff hd (fromHex_toHex _)).1 hs)
  · have hs := h.incoming _ _ _ _ (handleGetIncomingPayment_of_mem hd hrow hb 0)
      ((preimage_enrichMetadata _ _ _).2 ⟨d, rfl, hp.1⟩)
    exact hp.2 ((settled_iff hd hb).1 hs)
  · exact
      { incoming := fun _ _ _ _ hr => h.incoming hr
        listIncoming := fun _ _ _ _ hr _ hmem => h.listIncoming hr hmem
        listOutgoing := fun _ _ _ _ hr => h.listOutgoing hr
        outgoing := fun _ _ hr => h.outgoing hr }

/-! ## `POST /pay` -/

/-- `POST /pay` sends the payment `id`, and answers from the node's record of
it after `n` outcomes. -/
def AnsweredFrom (env : Pay.PayEnv) (req : Pay.PayRequest) (id : PaymentId) (n : Nat) : Prop :=
  ∃ w m t, Pay.checkRequest req = .ok (w, m) ∧ Pay.resolveTarget env req m = .ok t ∧
    Pay.checkTarget req t = .ok () ∧ (Pay.dispatch env t req).result = .ok id ∧
    n = if w = 0 then 0 else Pay.awaitSettled (toHex id.bytes) env.received

/-- The response of `POST /pay` shows no premature preimage. -/
def CleanPay (env : Pay.PayEnv) (req : Pay.PayRequest) : Prop :=
  ∀ r, (Pay.handlePay env req).result = .ok r → r.preimage ≠ none →
    ∃ id n d, AnsweredFrom env req id n ∧ env.payment n id = some d ∧ d.status = .succeeded

/-- The record `POST /pay` answers from holds no premature preimage. -/
def NoneAnswered (env : Pay.PayEnv) (req : Pay.PayRequest) : Prop :=
  ∀ id n d, AnsweredFrom env req id n → env.payment n id = some d → ¬ Premature d

theorem preimage_buildResponse (id : PaymentId) (o : Option PaymentDetails) (t : Pay.PaymentTarget)
    (s : Pay.PayStatus) :
    (Pay.buildResponse id o t s).preimage ≠ none ↔
      ∃ d, o = some d ∧ d.kind.storedPreimage ≠ none := by
  cases o with
  | none => simp [Pay.buildResponse]
  | some d => simp [Pay.buildResponse, pay_extractPreimage_eq]

/-- What `POST /pay` answers from is determined by the request. -/
theorem AnsweredFrom.unique {env : Pay.PayEnv} {req : Pay.PayRequest} {id id' : PaymentId}
    {n n' : Nat} (h : AnsweredFrom env req id n) (h' : AnsweredFrom env req id' n') :
    id = id' ∧ n = n' := by
  obtain ⟨w, m, t, hc, ht, -, hd, rfl⟩ := h
  obtain ⟨w', m', t', hc', ht', -, hd', rfl⟩ := h'
  obtain ⟨rfl, rfl⟩ := Prod.mk.inj (Except.ok.inj (hc.symm.trans hc'))
  obtain rfl := Except.ok.inj (ht.symm.trans ht')
  obtain rfl := Except.ok.inj (hd.symm.trans hd')
  exact ⟨rfl, rfl⟩

/-- An answer of `POST /pay` is the record it answers from, as a response. -/
theorem handlePay_eq_ok {env : Pay.PayEnv} {req : Pay.PayRequest} {r : Pay.PayResponse}
    (h : (Pay.handlePay env req).result = .ok r) :
    ∃ id n t s, AnsweredFrom env req id n ∧ r = Pay.buildResponse id (env.payment n id) t s := by
  obtain ⟨c, hc, h⟩ := Act.result_bind_eq_ok.1 h
  obtain ⟨t, ht, h⟩ := Act.result_bind_eq_ok.1 h
  obtain ⟨_, hk, h⟩ := Act.result_bind_eq_ok.1 h
  obtain ⟨id, hid, h⟩ := Act.result_bind_eq_ok.1 h
  by_cases hw : c.1 = 0
  · rw [if_pos hw] at h
    exact ⟨id, 0, t, _, ⟨c.1, c.2, t, hc, ht, hk, hid, (if_pos hw).symm⟩, (Except.ok.inj h).symm⟩
  · rw [if_neg hw] at h
    exact ⟨id, _, t, _, ⟨c.1, c.2, t, hc, ht, hk, hid, (if_neg hw).symm⟩, (Except.ok.inj h).symm⟩

theorem handlePay_of_answered {env : Pay.PayEnv} {req : Pay.PayRequest} {id : PaymentId} {n : Nat}
    (h : AnsweredFrom env req id n) :
    ∃ t s, (Pay.handlePay env req).result =
      .ok (Pay.buildResponse id (env.payment n id) t s) := by
  obtain ⟨w, m, t, hc, ht, hk, hd, rfl⟩ := h
  obtain ⟨fallback, he⟩ := Proof.Pay.handlePay_of_fit hc ht hk
  refine ⟨t, fallback id, ?_⟩
  rw [he]
  exact Act.result_bind_eq_ok.2 ⟨id, hd, rfl⟩

/-- `POST /pay` is clean exactly when the record it answers from holds no
premature preimage. -/
theorem cleanPay_iff (env : Pay.PayEnv) (req : Pay.PayRequest) :
    CleanPay env req ↔ NoneAnswered env req := by
  refine ⟨fun h id n d ha hd hp => ?_, fun h r hr hp => ?_⟩
  · obtain ⟨t, s, hr⟩ := handlePay_of_answered ha
    have hshown : (Pay.buildResponse id (env.payment n id) t s).preimage ≠ none :=
      (preimage_buildResponse ..).2 ⟨d, hd, hp.1⟩
    obtain ⟨id', n', d', ha', hd', hs⟩ := h _ hr hshown
    obtain ⟨rfl, rfl⟩ := ha.unique ha'
    obtain rfl := Option.some.inj (hd.symm.trans hd')
    exact hp.2 hs
  · obtain ⟨id, n, t, s, ha, rfl⟩ := handlePay_eq_ok hr
    obtain ⟨d, hd, hk⟩ := (preimage_buildResponse ..).1 hp
    refine ⟨id, n, d, ha, hd, ?_⟩
    by_contra hs
    exact h id n d ha hd ⟨hk, hs⟩

/-- The node's record of an invoice it has issued, and not been paid. -/
def unpaid : PaymentDetails where
  id := ⟨.replicate 32 0x41⟩
  kind := .bolt11 (.replicate 32 0x41) (some (.replicate 32 0x5c))
  amountMsat := some 2100000
  feePaidMsat := none
  direction := .inbound
  status := .pending
  latestUpdateTimestamp := 1742859159

/-- The row stored with that invoice. -/
def unpaidRow : MetadataRow where
  paymentHash := toHex unpaid.id.bytes
  externalId := none
  webhookUrl := none
  checkoutId := "checkout-1"
  description := none
  invoice := none
  amountSat := some 2100
  createdAt := 1742859159
  expiresAt := 1742862759
  notifiedExpired := 0
  paid := 0

def unpaidNode : PaymentStore := ⟨[unpaid], List.nodup_singleton _⟩

def unpaidStore : InvoiceMetadataStore := ⟨⟨[unpaidRow], List.nodup_singleton _⟩, .empty⟩

/-- Asked for the unpaid invoice, the daemon shows its preimage. -/
theorem unpaid_preimage_shown :
    (∃ r, handleGetIncomingPayment unpaidNode unpaidStore none 1742859160
        (toHex unpaid.id.bytes) = .ok r ∧
      r.isPaid = false ∧ r.preimage = some (displayHash (.replicate 32 0x5c))) ∧
      ¬ GetsClean unpaidNode unpaidStore := by
  refine ⟨?_, fun h => ?_⟩
  · have hrow : unpaidRow ∈ unpaidStore.invoices.rows := List.mem_singleton.2 rfl
    have hd : unpaid ∈ unpaidNode.rows := List.mem_singleton.2 rfl
    have hb : fromHex 32 unpaidRow.paymentHash = some unpaid.id.bytes := fromHex_toHex _
    have hget := handleGetIncomingPayment_of_mem hd hrow hb 1742859160
    exact ⟨_, hget, rfl, rfl⟩
  · have hp : Premature unpaid := ⟨nofun, nofun⟩
    have hshown := ((getsClean_iff _ _).1 h unpaid (List.mem_singleton.2 rfl) hp).2 unpaidRow
      (List.mem_singleton.2 rfl)
    exact hshown (fromHex_toHex _)

/-- No response shows the preimage of a payment that has not succeeded:

* over all requests to the `GET` endpoints, exactly when no record that holds
  such a preimage is outbound or under the hash of a stored invoice;
* for a request to `POST /pay`, exactly when the record it answers from does
  not hold one. -/
theorem no_premature_preimage_iff (node : PaymentStore) (store : InvoiceMetadataStore)
    (env : Pay.PayEnv) (req : Pay.PayRequest) :
    (GetsClean node store ↔ NoneShown node store) ∧ (CleanPay env req ↔ NoneAnswered env req) :=
  ⟨getsClean_iff node store, cleanPay_iff env req⟩

end Mdkd.Proof.Preimage
