import Mdkd.Proof.Events
import Mdkd.Proof.Incoming
import Mdkd.Proof.Store

/-!
# A received amount on every surface

The node reports a payment in millisatoshis. The client rounds it down to
satoshis, for the platform and for its own event; the daemon turns the event
back into millisatoshis, for the webhook and the websocket; and `GET` rounds
the node's record down by itself. `reported_iff` says when they all agree.
-/

namespace Mdkd.Proof.Received

open Framework Client Daemon Payments

variable {node : PaymentStore} {s : State} {hash : Bytes32} {m : InvoiceMetadata}
  {d : PaymentDetails} {a : UInt64}

/-- A payment of `a` msat for the stored invoice `m`, which the node has on
record as `d`. -/
structure IsReceived (node : PaymentStore) (s : State) (hash : Bytes32) (m : InvoiceMetadata)
    (d : PaymentDetails) (a : UInt64) : Prop where
  stored : s.store.getByPaymentHash (displayHash hash) = some m
  recorded : node.payment ⟨hash⟩ = some d
  succeeded : d.status = .succeeded
  amount : d.amountMsat = some a

/-- The node's event. -/
def ldkEvent (hash : Bytes32) (a : UInt64) : LdkEvent := .paymentReceived (displayHash hash) a

/-- What the platform is told: one payment, of so many satoshis. -/
def TellsPlatform (reqs : List PaymentReceivedRequest) (hash : Bytes32) (sats : Nat) : Prop :=
  ∃ entry, reqs = [⟨[entry]⟩] ∧ entry.paymentHash = displayHash hash ∧
    entry.amountSats.toNat = sats

/-- What subscribers are told: one message on the websocket and, if the invoice
has a webhook, one delivery to it, of the same JSON, with the amount `a`. -/
def TellsSubscribers (s s' : State) (m : InvoiceMetadata) (a : UInt64) : Prop :=
  ∃ json, s'.messages.map (·.toJson) = s.messages.map (·.toJson) ++ [json] ∧
    (s'.spawned.map fun x => (x.webhookUrl, x.event.toJson)) =
      (s.spawned.map fun x => (x.webhookUrl, x.event.toJson)) ++
        (m.webhookUrl.map (·, json)).toList ∧
    json.lookup "amountMsat" = some (.number a)

/-- What `GET` shows of a payment hash, by itself or in a listing. -/
def Shows (node : PaymentStore) (store : InvoiceMetadataStore) (hash : Bytes32)
    (r : IncomingPaymentResponse) : Prop :=
  ∃ now, handleGetIncomingPayment node store none now (displayHash hash) = .ok r ∨
    ∃ params ps, handleListIncomingPayments node store none now params = .ok ps ∧ r ∈ ps ∧
      r.paymentHash = displayHash hash

/-- What a response says was received: so many satoshis, and what is missing of
the amount asked for as fees. -/
def SaysReceived (r : IncomingPaymentResponse) (sats : Nat) : Prop :=
  r.receivedSat.toNat = sats ∧
    ∀ q, r.requestedSat = some q → sats ≤ q.toNat → r.receivedSat.toNat + r.fees.toNat = q.toNat

/-- The surfaces agree on a payment of `a` msat. -/
structure Agree (node : PaymentStore) (s : State) (hash : Bytes32) (m : InvoiceMetadata)
    (a now : UInt64) (markOk : Bool) : Prop where
  platform : TellsPlatform (handleLdkEvent (ldkEvent hash a)).1 hash (a.toNat / 1000)
  event : ∃ ev, (handleLdkEvent (ldkEvent hash a)).2 = some ev ∧
    TellsSubscribers s (handleEvent now true markOk s ev) m a ∧
    (∃ r, Shows node (handleEvent now true markOk s ev).store hash r) ∧
    ∀ r, Shows node (handleEvent now true markOk s ev).store hash r →
      SaysReceived r (a.toNat / 1000)

/-! ## The amounts -/

theorem toNat_div_1000 (a : UInt64) : (a / 1000).toNat = a.toNat / 1000 := UInt64.toNat_div a 1000

/-- Rounded down to satoshis and back, an amount is the same exactly when it is
of whole satoshis. -/
theorem div_mul_1000_eq_iff (a : UInt64) : a / 1000 * 1000 = a ↔ 1000 ∣ a.toNat := by
  have ha := a.toNat_lt
  have hfit : (a / 1000 * 1000).toNat = a.toNat / 1000 * 1000 := by
    have h1000 : (1000 : UInt64).toNat = 1000 := rfl
    have hmul := (mul_exact_iff (a / 1000) 1000).2 (by rw [toNat_div_1000, h1000]; omega)
    rw [hmul, toNat_div_1000, h1000]
  rw [← UInt64.toNat_inj, hfit]
  omega

/-! ## The surfaces -/

theorem tellsPlatform (hash : Bytes32) (a : UInt64) :
    TellsPlatform (handleLdkEvent (ldkEvent hash a)).1 hash (a.toNat / 1000) :=
  ⟨_, rfl, rfl, toNat_div_1000 a⟩

/-- Marking an invoice paid changes no record. -/
theorem getByPaymentHash_markPaid (store : InvoiceMetadataStore) (h k : String) :
    (store.markPaid h).getByPaymentHash k = store.getByPaymentHash k := by
  unfold InvoiceMetadataStore.getByPaymentHash
  rw [Store.find_markPaid]
  split
  · rw [Option.map_map]
    rfl
  · rfl

/-- The amount in the JSON of an announcement. -/
theorem lookup_amountMsat (now : UInt64) (paymentHash : String) (sats : UInt64)
    (m : InvoiceMetadata) :
    (Events.announcement now paymentHash sats m).toJson.lookup "amountMsat" =
      some (.number (sats * 1000)) := rfl

/-- Subscribers are told the satoshis of the event in millisatoshis. -/
theorem tellsSubscribers_iff (h : s.store.getByPaymentHash (displayHash hash) = some m)
    (a now sats : UInt64) (markOk : Bool) :
    TellsSubscribers s (handleEvent now true markOk s (.paymentReceived (displayHash hash) sats))
      m a ↔ sats * 1000 = a := by
  rw [Events.handleEvent_of_stored h]
  unfold TellsSubscribers Events.announce
  constructor
  · rintro ⟨json, hmessages, -, hlookup⟩
    rw [List.map_append] at hmessages
    have hjson := List.append_cancel_left hmessages
    rw [List.map_singleton, List.cons.injEq] at hjson
    rw [← hjson.1, lookup_amountMsat] at hlookup
    exact JsonValue.number.inj (Option.some.inj hlookup)
  · rintro rfl
    refine ⟨_, List.map_append, ?_, lookup_amountMsat _ _ _ _⟩
    rw [List.map_append]
    cases m.webhookUrl <;> rfl

/-- A stored invoice is shown with the node's record of its payment. -/
theorem shows_iff {store : InvoiceMetadataStore}
    (hm : store.getByPaymentHash (displayHash hash) = some m) (hd : node.payment ⟨hash⟩ = some d)
    {r : IncomingPaymentResponse} :
    Shows node store hash r ↔ ∃ now, r = enrichMetadata now m (some d) := by
  have hget : ∀ now, handleGetIncomingPayment node store none now (displayHash hash) =
      .ok (enrichMetadata now m (some d)) := by
    intro now
    have hb : fromHex 32 (displayHash hash) = some hash := fromHex_toHex hash
    simp only [handleGetIncomingPayment, hm, hb, hd]
  unfold Shows
  refine exists_congr fun now => ?_
  rw [hget now]
  constructor
  · rintro (h | ⟨params, ps, hps, hr, hhash⟩)
    · exact (Except.ok.inj h).symm
    · have hlook := Incoming.lookup_of_mem node store now params hps hr
        (hhash ▸ Incoming.isHash_displayHash hash)
      rw [hhash, hget now] at hlook
      exact (Except.ok.inj hlook).symm
  · rintro rfl
    exact .inl rfl

/-- The response of a payment on record says what was received. -/
theorem saysReceived (hs : d.status = .succeeded) (ha : d.amountMsat = some a) (now : UInt64)
    (m : InvoiceMetadata) : SaysReceived (enrichMetadata now m (some d)) (a.toNat / 1000) := by
  have hreceived : (enrichMetadata now m (some d)).receivedSat = a / 1000 := by
    simp [enrichMetadata, hs, ha]
  have hfees : (enrichMetadata now m (some d)).fees =
      saturatingSub (m.amountSat.getD 0) (a / 1000) := by
    simp [enrichMetadata, hs, ha]
  refine ⟨by rw [hreceived, toNat_div_1000], fun q hq hle => ?_⟩
  have hq' : m.amountSat = some q := hq
  rw [hreceived, hfees, toNat_saturatingSub, toNat_div_1000, hq', Option.getD_some]
  omega

/-- The surfaces agree on a received payment exactly when it is of whole
satoshis: otherwise the webhook and the websocket round it down. -/
theorem reported_iff (h : IsReceived node s hash m d a) (now : UInt64) (markOk : Bool) :
    Agree node s hash m a now markOk ↔ 1000 ∣ a.toNat := by
  have hev : (handleLdkEvent (ldkEvent hash a)).2 =
      some (.paymentReceived (displayHash hash) (a / 1000)) := rfl
  rw [← div_mul_1000_eq_iff]
  constructor
  · rintro ⟨-, ev, he, htell, -⟩
    obtain rfl := Option.some.inj (hev.symm.trans he)
    exact (tellsSubscribers_iff h.stored a now (a / 1000) markOk).1 htell
  · intro ha
    have hstored : (handleEvent now true markOk s
        (.paymentReceived (displayHash hash) (a / 1000))).store.getByPaymentHash
          (displayHash hash) = some m := by
      rw [Events.handleEvent_of_stored h.stored]
      show (if markOk then s.store.markPaid _ else s.store).getByPaymentHash _ = _
      split
      · rw [getByPaymentHash_markPaid, h.stored]
      · exact h.stored
    refine ⟨tellsPlatform hash a, _, hev,
      (tellsSubscribers_iff h.stored a now (a / 1000) markOk).2 ha,
      ⟨_, (shows_iff hstored h.recorded).2 ⟨now, rfl⟩⟩, fun r hr => ?_⟩
    obtain ⟨now', rfl⟩ := (shows_iff hstored h.recorded).1 hr
    exact saysReceived h.succeeded h.amount now' m

/-- The node's record of the sample invoice, paid with `a` msat. -/
def paid (a : UInt64) : PaymentDetails :=
  { Preimage.unpaid with amountMsat := some a, status := .succeeded }

def paidNode (a : UInt64) : PaymentStore := ⟨[paid a], List.nodup_singleton _⟩

/-- A daemon that has stored the invoice, and announced nothing yet. -/
def sampleState : State := ⟨Preimage.unpaidStore, [], []⟩

theorem isReceived_paid (a : UInt64) :
    IsReceived (paidNode a) sampleState Preimage.unpaid.id.bytes (.ofRow Preimage.unpaidRow)
      (paid a) a where
  stored := Preimage.getByPaymentHash_eq_some.2
    ⟨Preimage.unpaidRow, List.mem_singleton.2 rfl, rfl, rfl⟩
  recorded := by
    have hmem : paid a ∈ (paidNode a).rows := List.mem_singleton.2 rfl
    exact Preimage.payment_of_mem hmem
  succeeded := rfl
  amount := rfl

theorem reported_sample :
    Agree (paidNode 2100000) sampleState Preimage.unpaid.id.bytes (.ofRow Preimage.unpaidRow)
      2100000 1742859200 true :=
  (reported_iff (isReceived_paid 2100000) 1742859200 true).2 (by decide)

/-- Paid with 1500 msat, the invoice is announced with 1000. -/
theorem half_satoshi_dropped :
    IsReceived (paidNode 1500) sampleState Preimage.unpaid.id.bytes (.ofRow Preimage.unpaidRow)
        (paid 1500) 1500 ∧
      ((handleEvent 1742859200 true true sampleState
          (.paymentReceived (displayHash Preimage.unpaid.id.bytes) (1500 / 1000))).messages.map
        fun e => e.toJson.lookup "amountMsat") = [some (.number 1000)] ∧
      ¬ Agree (paidNode 1500) sampleState Preimage.unpaid.id.bytes (.ofRow Preimage.unpaidRow)
        1500 1742859200 true := by
  have hr := isReceived_paid 1500
  refine ⟨hr, ?_, ?_⟩
  · rw [Events.handleEvent_of_stored hr.stored]
    rfl
  · rintro ⟨-, ev, he, htell, -⟩
    obtain rfl := Option.some.inj he
    have hsame := (tellsSubscribers_iff hr.stored 1500 1742859200 (1500 / 1000) true).1 htell
    exact absurd hsame (by decide)

end Mdkd.Proof.Received
