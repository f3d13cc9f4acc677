import Mdkd.Framework.Trace
import Mdkd.Proof.Events

/-!
# Expiry notifications

The event loop and the expiry monitor share the rows of the invoice table. The
monitor selects by `expires_at`, `notified_expired` and `webhook_url`, and not
by `paid`: `spawned_pollExpired` gives the notifications of one iteration, and
`paid_never_expired_iff` says over which runs none of them is of a paid
invoice.
-/

namespace Mdkd.Proof.Expiry

open Framework Daemon InvoiceMetadataStore

/-- The deliveries a step spawns. -/
def spawnedBy (s : State) (i : Input) : List Delivery :=
  (step s i).spawned.drop s.spawned.length

/-! ## What each step spawns -/

theorem spawned_notifyExpired (now : UInt64) (markOk : String → Bool) (s : State)
    (m : InvoiceMetadata) :
    (notifyExpired now markOk s m).spawned = s.spawned ++ (expiredDelivery now m).toList := by
  unfold notifyExpired
  cases expiredDelivery now m <;> simp

/-- An iteration notifies every invoice its query selects. -/
theorem spawned_foldl_notifyExpired (now : UInt64) (markOk : String → Bool)
    (ms : List InvoiceMetadata) (s : State) :
    (ms.foldl (notifyExpired now markOk) s).spawned =
      s.spawned ++ ms.filterMap (expiredDelivery now) := by
  induction ms generalizing s with
  | nil => simp
  | cons m ms ih =>
    rw [List.foldl_cons, ih, spawned_notifyExpired, List.append_assoc]
    congr 1
    cases h : expiredDelivery now m <;> simp [h]

theorem spawned_pollExpired (now : UInt64) (markOk : String → Bool) (s : State) :
    (pollExpired now true markOk s).spawned =
      s.spawned ++ (s.store.getExpiredPending now).filterMap (expiredDelivery now) := by
  rw [pollExpired, if_neg (by decide), spawned_foldl_notifyExpired]

/-- A delivery of an iteration comes from a row its query selects. -/
theorem mem_spawnedBy_poll {s : State} {now : UInt64} {markOk : String → Bool} {d : Delivery} :
    d ∈ spawnedBy s (.poll now true markOk) ↔
      ∃ row ∈ s.store.invoices.rows, expiredPending now.toInt64 row = true ∧
        expiredDelivery now (.ofRow row) = some d := by
  show d ∈ (pollExpired now true markOk s).spawned.drop _ ↔ _
  rw [spawned_pollExpired, List.drop_left, List.mem_filterMap, getExpiredPending]
  simp only [List.mem_map, List.mem_filter, exists_exists_and_eq_and]
  refine exists_congr fun row => ?_
  rw [and_assoc]

/-- Only an iteration whose query succeeds notifies of an expiry. -/
theorem eq_poll_of_expired {s : State} {i : Input} {d : Delivery} {h : String}
    {ext : Option String} {ts : UInt64} (hd : d ∈ spawnedBy s i)
    (he : d.event = .invoiceExpired h ext ts) : ∃ now markOk, i = .poll now true markOk := by
  cases i with
  | insert m ok => cases ok <;> simp [spawnedBy, step] at hd
  | poll now queryOk markOk =>
    cases queryOk with
    | true => exact ⟨now, markOk, rfl⟩
    | false => simp [spawnedBy, step, pollExpired] at hd
  | event e now lookupOk markOk =>
    exfalso
    rw [spawnedBy, step] at hd
    rcases Events.handleEvent_cases now lookupOk markOk s e with hs | ⟨_, _, m, -, -, hs⟩
    · rw [hs, List.drop_length] at hd
      cases hd
    · rw [hs] at hd
      rw [Events.eq_announcement_of_mem hd] at he
      cases he

/-! ## Paid invoices -/

/-- No expiry notification is spawned for a payment hash whose row is paid. -/
def PaidNeverExpired (s : State) (is : List Input) : Prop :=
  ∀ p ∈ trace step s is, ∀ d ∈ spawnedBy p.1 p.2, ∀ h ext ts, d.event = .invoiceExpired h ext ts →
    ∀ row ∈ p.1.store.invoices.rows, row.paymentHash = h → row.paid ≠ 1

/-- The row is paid, and still due a notification at time `now`: it has a
webhook, it expired, and no notification of it is recorded. -/
def PaidAndDue (now : UInt64) (row : MetadataRow) : Prop :=
  row.paid = 1 ∧ row.webhookUrl ≠ none ∧ 0 < row.expiresAt ∧ row.expiresAt ≤ now.toInt64 ∧
    row.notifiedExpired = 0

theorem expiredPending_iff {now : Int64} {row : MetadataRow} :
    expiredPending now row = true ↔ row.webhookUrl ≠ none ∧ 0 < row.expiresAt ∧
      row.expiresAt ≤ now ∧ row.notifiedExpired = 0 := by
  simp only [expiredPending, Bool.and_eq_true, decide_eq_true_eq, Option.isSome_iff_ne_none]
  tauto

/-- One iteration notifies of no paid invoice exactly when none is due. -/
theorem poll_iff (s : State) (now : UInt64) (markOk : String → Bool) :
    (∀ d ∈ spawnedBy s (.poll now true markOk), ∀ h ext ts, d.event = .invoiceExpired h ext ts →
        ∀ row ∈ s.store.invoices.rows, row.paymentHash = h → row.paid ≠ 1) ↔
      ∀ row ∈ s.store.invoices.rows, ¬ PaidAndDue now row := by
  refine ⟨fun hs row hr hd => ?_, fun hs d hd h ext ts he row hr hk hp => ?_⟩
  · obtain ⟨hp, hw, hx⟩ := hd
    obtain ⟨url, hu⟩ := Option.ne_none_iff_exists'.1 hw
    have hm : (⟨url, .invoiceExpired row.paymentHash row.externalId now⟩ : Delivery) ∈
        spawnedBy s (.poll now true markOk) := by
      refine mem_spawnedBy_poll.2 ⟨row, hr, expiredPending_iff.2 ⟨hw, hx⟩, ?_⟩
      simp only [expiredDelivery, InvoiceMetadata.ofRow, hu, Option.map_some]
    exact hs _ hm _ _ _ rfl row hr rfl hp
  · obtain ⟨row', hr', hx, he'⟩ := mem_spawnedBy_poll.1 hd
    obtain ⟨url, -, rfl⟩ := Option.map_eq_some_iff.1 he'
    obtain ⟨e, -, -⟩ := WebhookEvent.invoiceExpired.inj he
    have hrow : row = row' := Table.eq_of_key_eq hr hr' (hk.trans e.symm)
    obtain ⟨hw, hx⟩ := expiredPending_iff.1 (hrow ▸ hx)
    exact hs row hr ⟨hp, hw, hx⟩

/-- Over a run: no expiry notification is of a paid invoice, exactly when no
iteration whose query succeeds finds a paid invoice due one. -/
theorem paid_never_expired_iff (s : State) (is : List Input) :
    PaidNeverExpired s is ↔
      ∀ p ∈ trace step s is, ∀ now markOk, p.2 = .poll now true markOk →
        ∀ row ∈ p.1.store.invoices.rows, ¬ PaidAndDue now row := by
  refine forall₂_congr fun p _ => ⟨fun hs now markOk hi => ?_, fun hs d hd h ext ts he => ?_⟩
  · rw [hi] at hs
    exact (poll_iff p.1 now markOk).1 hs
  · obtain ⟨now, markOk, hi⟩ := eq_poll_of_expired hd he
    rw [hi] at hd
    exact (poll_iff p.1 now markOk).2 (hs now markOk hi) d hd h ext ts he

/-- An invoice with a webhook is recorded and paid before it expires; the poll
after its expiry announces it as expired. -/
theorem paid_invoice_announced_expired :
    let m : InvoiceMetadata :=
      { paymentHash := "aa"
        externalId := none
        webhookUrl := some "https://shop.example/hook"
        checkoutId := "chk_1"
        description := none
        invoice := none
        amountSat := some 1000
        createdAt := 1700000000
        expiresAt := 1700003600 }
    ¬ PaidNeverExpired .init
      [.insert m true, .event (.paymentReceived "aa" 1000) 1700000100 true true,
        .poll 1700003600 true fun _ => true] := by
  intro m h
  have hp := h _ (mem_trace _ 2 (by decide))
  exact hp ⟨"https://shop.example/hook", .invoiceExpired "aa" none 1700003600⟩ (by decide) _ _ _ rfl
    { InvoiceMetadataStore.rowOf m with paid := 1 } (by decide) rfl rfl

end Mdkd.Proof.Expiry
