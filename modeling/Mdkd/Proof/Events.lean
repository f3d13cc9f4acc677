import Mdkd.Impl.Daemon

/-!
# What the daemon does with an event

`handle_event` announces the payment of a stored invoice, and ignores every
other event. `handleEvent_cases` is the case analysis, once, and
`handleEvent_of_stored` and `handleEvent_of_new` the two cases of a payment.
-/

namespace Mdkd.Proof.Events

open Daemon

/-- What is announced of a payment of the invoice `m`. -/
def announcement (now : UInt64) (paymentHash : String) (sats : UInt64) (m : InvoiceMetadata) :
    WebhookEvent :=
  .paymentReceived paymentHash (sats * 1000) m.externalId now

/-- The daemon that has announced it. -/
def announce (now : UInt64) (markOk : Bool) (s : State) (paymentHash : String) (sats : UInt64)
    (m : InvoiceMetadata) : State where
  store := if markOk then s.store.markPaid paymentHash else s.store
  spawned := s.spawned ++ (m.webhookUrl.map (⟨·, announcement now paymentHash sats m⟩)).toList
  messages := s.messages ++ [announcement now paymentHash sats m]

/-- The payment of a stored invoice is announced. -/
theorem handleEvent_of_stored {s : State} {paymentHash : String} {m : InvoiceMetadata}
    (h : s.store.getByPaymentHash paymentHash = some m) (now sats : UInt64) (markOk : Bool) :
    handleEvent now true markOk s (.paymentReceived paymentHash sats) =
      announce now markOk s paymentHash sats m := by
  simp only [handleEvent, h, not_true_eq_false, ↓reduceIte]
  rfl

/-- The payment of an invoice without a row is ignored. -/
theorem handleEvent_of_new {s : State} {paymentHash : String}
    (h : s.store.getByPaymentHash paymentHash = none) (now sats : UInt64) (markOk : Bool) :
    handleEvent now true markOk s (.paymentReceived paymentHash sats) = s := by
  simp only [handleEvent, h, not_true_eq_false, ↓reduceIte]

/-- An event is ignored, or it is the payment of a stored invoice. -/
theorem handleEvent_cases (now : UInt64) (lookupOk markOk : Bool) (s : State) (ev : MdkEvent) :
    handleEvent now lookupOk markOk s ev = s ∨
      ∃ paymentHash sats m, ev = .paymentReceived paymentHash sats ∧
        s.store.getByPaymentHash paymentHash = some m ∧
        handleEvent now lookupOk markOk s ev = announce now markOk s paymentHash sats m := by
  cases ev with
  | paymentReceived paymentHash sats =>
    cases lookupOk with
    | false => exact .inl rfl
    | true =>
      cases hm : s.store.getByPaymentHash paymentHash with
      | none => exact .inl (handleEvent_of_new hm now sats markOk)
      | some m =>
        exact .inr ⟨paymentHash, sats, m, rfl, hm, handleEvent_of_stored hm now sats markOk⟩
  | _ => exact .inl rfl

/-- What is sent of it is the announcement, on the websocket and to the webhook. -/
theorem eq_announcement_of_mem {now : UInt64} {markOk : Bool} {s : State} {paymentHash : String}
    {sats : UInt64} {m : InvoiceMetadata} {d : Delivery}
    (h : d ∈ (announce now markOk s paymentHash sats m).spawned.drop s.spawned.length) :
    d.event = announcement now paymentHash sats m := by
  rw [announce, List.drop_left, Option.mem_toList, Option.map_eq_some_iff] at h
  obtain ⟨url, -, rfl⟩ := h
  rfl

end Mdkd.Proof.Events
