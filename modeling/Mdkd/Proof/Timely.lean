import Mdkd.Proof.Discipline
import Mdkd.Proof.Service

/-!
# The daemon at work: expiries in time

When an invoice is announced as expired. The monitor polls every 30 s, so an
invoice that is due is announced by then (`Awaits`), and its delivery ends 66 s
later (`Punctual`): `announced_in_time` puts the two together.
-/

namespace Mdkd.Proof.Service

open Framework Mdkd.Service Delivery InvoiceMetadataStore

variable {env : Dispatcher.Env} {s : System} {row : MetadataRow} {url : String}

/-! ## The monitor's clock -/

/-- The next poll is not late, and at most 30 s away. -/
def Scheduled (s : System) : Prop := s.clock ≤ s.nextPoll ∧ s.nextPoll ≤ s.clock + pollInterval

theorem nextPoll_step (env : Dispatcher.Env) (s : System) (i : Input) :
    (step env s i).nextPoll =
      match i with
      | .poll _ _ => if s.clock < s.nextPoll then s.nextPoll else s.clock + pollInterval
      | _ => s.nextPoll := by
  cases i with
  | recv lookupOk markOk =>
    show (s.recv env lookupOk markOk).nextPoll = s.nextPoll
    unfold System.recv
    cases s.received <;> rfl
  | poll queryOk markOk =>
    show (s.poll env queryOk markOk).nextPoll = _
    unfold System.poll
    split <;> rfl
  | _ => rfl

theorem Scheduled.step {i : Input} (h : Scheduled s) (hi : OnTime s i) :
    Scheduled (step env s i) := by
  obtain ⟨hle, hnear⟩ := h
  rw [Scheduled, nextPoll_step, clock_step]
  cases i with
  | tick nanos =>
    have hn : s.clock + nanos ≤ s.nextPoll := hi.1
    refine ⟨hn, ?_⟩
    show s.nextPoll ≤ s.clock + nanos + pollInterval
    omega
  | poll queryOk markOk =>
    show s.clock ≤ (if s.clock < s.nextPoll then _ else _) ∧
      (if s.clock < s.nextPoll then _ else _) ≤ s.clock + pollInterval
    split
    · exact ⟨hle, hnear⟩
    · exact ⟨Nat.le_add_right _ _, Nat.le_refl _⟩
  | _ => exact ⟨hle, hnear⟩

/-! ## One row -/

/-- The time, in seconds, before the year in which it outgrows 63 bits. -/
theorem toNat_secondsSinceEpoch (h : s.clock < 2 ^ 63 * 10 ^ 9) :
    s.secondsSinceEpoch.toNat = s.clock / 10 ^ 9 := by
  have hlt : s.clock / 10 ^ 9 < 2 ^ 64 := by omega
  exact UInt64.toNat_ofNat_of_lt' hlt

/-- The row is to be announced as expired to `url`. -/
structure IsPending (row : MetadataRow) (url : String) : Prop where
  webhook : row.webhookUrl = some url
  expires : 0 < (InvoiceMetadata.ofRow row).expiresAt
  notified : row.notifiedExpired = 0

/-- The nanosecond in which the row expires. -/
def expiry (row : MetadataRow) : Nat := (InvoiceMetadata.ofRow row).expiresAt.toNat * 10 ^ 9

/-- Its announcement. -/
def Announces (row : MetadataRow) (url : String) (d : Daemon.Delivery) : Prop :=
  d.webhookUrl = url ∧ ∃ timestamp, d.event = .invoiceExpired row.paymentHash row.externalId timestamp ∧
    (InvoiceMetadata.ofRow row).expiresAt ≤ timestamp

/-- The rows that may stand in for `row`: it has been paid, at most. -/
def Same (row row' : MetadataRow) : Prop := ∃ paid, row' = { row with paid }

/-- By `deadline` the row is announced: it is still to be, and the next poll
comes by then, or a delivery of it was spawned by then. -/
def Awaits (row : MetadataRow) (url : String) (deadline : Nat) (s : System) : Prop :=
  (s.nextPoll ≤ deadline ∧
    ∃ row', s.daemon.store.invoices.find row.paymentHash = some row' ∧ Same row row') ∨
  ∃ t ∈ s.tasks, Announces row url t.delivery ∧ t.spawnedAt ≤ deadline

theorem Same.trans_rowChange {row' : MetadataRow} (h : Same row row') {o : Option MetadataRow}
    (hc : Expiry.RowChange (some row') o) : ∃ row'', o = some row'' ∧ Same row row'' := by
  obtain ⟨paid, rfl⟩ := h
  cases hc with
  | same => exact ⟨_, rfl, paid, rfl⟩
  | paid => exact ⟨_, rfl, 1, rfl⟩

/-- A row that is not selected at the poll has not expired. -/
theorem lt_expiry_of_not_due (hp : IsPending row url) {row' : MetadataRow} (hsame : Same row row')
    (hclock : s.clock < 2 ^ 63 * 10 ^ 9)
    (h : ¬ expiredPending s.secondsSinceEpoch.toInt64 row' = true) : s.clock < expiry row := by
  have hnow := toNat_secondsSinceEpoch hclock
  obtain ⟨paid, rfl⟩ := hsame
  by_contra hge
  refine h (Expiry.expiredPending_of (by omega) ?_ hp.expires ?_ hp.notified)
  · show row.webhookUrl ≠ none
    rw [hp.webhook]
    exact Option.some_ne_none url
  · rw [UInt64.le_iff_toNat_le, hnow, Nat.le_div_iff_mul_le (by decide)]
    exact Nat.le_of_not_lt hge

/-- One that is selected has. -/
theorem expiry_le_of_due {row' : MetadataRow} (hsame : Same row row')
    (hclock : s.clock < 2 ^ 63 * 10 ^ 9)
    (h : expiredPending s.secondsSinceEpoch.toInt64 row' = true) : expiry row ≤ s.clock := by
  have hnow := toNat_secondsSinceEpoch hclock
  obtain ⟨paid, rfl⟩ := hsame
  obtain ⟨-, hpos, hle, -⟩ := Expiry.expiredPending_iff.1 h
  have hpos : 0 < row.expiresAt := hpos
  show row.expiresAt.toUInt64.toNat * 10 ^ 9 ≤ s.clock
  have hback : row.expiresAt.toUInt64.toInt64 = row.expiresAt := Int64.toInt64_toUInt64 _
  have hnonneg : row.expiresAt.toUInt64.toNat < 2 ^ 63 := by
    by_contra hge
    have hneg := toInt_toInt64_of_le (Nat.le_of_not_lt hge)
    have hlt := row.expiresAt.toUInt64.toNat_lt
    have h0 : (0 : Int64).toInt = 0 := rfl
    rw [Int64.lt_iff_toInt_lt, h0] at hpos
    rw [hback] at hneg
    omega
  have hle' : row.expiresAt.toUInt64.toInt64 ≤ s.secondsSinceEpoch.toInt64 := hback ▸ hle
  rw [toInt64_le_iff, UInt64.le_iff_toNat_le, hnow] at hle'
  rw [← Nat.le_div_iff_mul_le (by decide)]
  omega

theorem announces_expiredDelivery (hp : IsPending row url) {row' : MetadataRow}
    (hsame : Same row row') (hclock : s.clock < 2 ^ 63 * 10 ^ 9) (hexp : expiry row ≤ s.clock) :
    ∃ d, Daemon.expiredDelivery s.secondsSinceEpoch (.ofRow row') = some d ∧
      Announces row url d := by
  have hnow := toNat_secondsSinceEpoch hclock
  obtain ⟨paid, rfl⟩ := hsame
  refine ⟨⟨url, .invoiceExpired row.paymentHash row.externalId s.secondsSinceEpoch⟩, ?_, rfl,
    s.secondsSinceEpoch, rfl, ?_⟩
  · have hurl : (InvoiceMetadata.ofRow { row with paid }).webhookUrl = some url := hp.webhook
    rw [Daemon.expiredDelivery, hurl]
    rfl
  · rw [UInt64.le_iff_toNat_le, hnow, Nat.le_div_iff_mul_le (by decide)]
    exact hexp

/-! ## Runs -/

/-- A poll reads the store. -/
def QuerySucceeds (i : Input) : Prop :=
  match i with
  | .poll queryOk _ => queryOk = true
  | _ => True

instance (i : Input) : Decidable (QuerySucceeds i) :=
  match i with
  | .poll queryOk _ => instDecidableEqBool queryOk true
  | .tick _ | .loop _ | .recv _ _ | .insert _ _ | .wake _ | .answer _ _ | .connect | .read _ _ =>
    .isTrue trivial

/-- A step that is not late, with a query that does not fail, and a clock that
63 bits hold. -/
def Regular (s : System) (i : Input) : Prop :=
  OnTime s i ∧ QuerySucceeds i ∧ s.clock < 2 ^ 63 * 10 ^ 9

instance (s : System) (i : Input) : Decidable (Regular s i) := by
  unfold Regular
  infer_instance

/-- A task is there after a step, with its delivery. -/
theorem exists_task_step {t : Dispatcher.Task} (h : t ∈ s.tasks) (i : Input) :
    ∃ t' ∈ (step env s i).tasks, t'.delivery = t.delivery ∧ t'.spawnedAt = t.spawnedAt := by
  obtain ⟨n, hn⟩ := List.mem_iff_getElem?.1 h
  have hnext := (taskPool env).getElem?_step i hn
  exact ⟨_, List.mem_of_getElem? hnext, delivery_actTask env s i n t⟩

/-- A step other than a poll that is due changes the row no further. -/
theorem find_step {i : Input} (hi : ∀ now queryOk markOk, daemonInput s i ≠ some (.poll now queryOk markOk))
    {row' : MetadataRow} (hr : s.daemon.store.invoices.find row.paymentHash = some row')
    (hsame : Same row row') :
    ∃ row'', (step env s i).daemon.store.invoices.find row.paymentHash = some row'' ∧
      Same row row'' := by
  rw [daemon_step]
  cases hd : daemonInput s i with
  | none => exact ⟨row', hr, hsame⟩
  | some j =>
    show ∃ row'', (Daemon.step s.daemon j).store.invoices.find row.paymentHash = some row'' ∧ _
    rcases Expiry.step_cases s.daemon j with hpoll | hquiet
    · obtain ⟨now, markOk, rfl⟩ := hpoll
      exact absurd hd (hi now true markOk)
    · have hc := (hquiet row.paymentHash).2
      rw [Expiry.rowAt, hr] at hc
      exact hsame.trans_rowChange hc

/-- A poll that comes when it is due announces the row, or its time is still to
come. -/
theorem awaits_poll {deadline : Nat} (hp : IsPending row url) {row' : MetadataRow}
    (hr : s.daemon.store.invoices.find row.paymentHash = some row') (hsame : Same row row')
    (hdue : s.nextPoll ≤ deadline) (hexp : expiry row + pollInterval ≤ deadline)
    (hs : Scheduled s) (hclock : s.clock < 2 ^ 63 * 10 ^ 9) (hnow : ¬ s.clock < s.nextPoll)
    (markOk : String → Bool) : Awaits row url deadline (step env s (.poll true markOk)) := by
  have hstep : step env s (.poll true markOk) =
      { s.act env (.poll s.secondsSinceEpoch true markOk) with
        nextPoll := s.clock + pollInterval } := if_neg hnow
  rw [hstep]
  by_cases hx : expiredPending s.secondsSinceEpoch.toInt64 row' = true
  · obtain ⟨d, hd, ha⟩ := announces_expiredDelivery hp hsame hclock (expiry_le_of_due hsame hclock hx)
    have hmem : d ∈ Expiry.spawnedBy s.daemon (.poll s.secondsSinceEpoch true markOk) :=
      Expiry.mem_spawnedBy_poll.2 ⟨row', (Table.find_eq_some.1 hr).1, hx, hd⟩
    refine .inr ⟨.spawn s.clock d, ?_, ha, ?_⟩
    · exact List.mem_append_right _ (List.mem_map_of_mem hmem)
    · exact Nat.le_trans hs.1 hdue
  · have hlt := lt_expiry_of_not_due hp hsame hclock hx
    refine .inl ⟨?_, row', ?_, hsame⟩
    · show s.clock + pollInterval ≤ deadline
      omega
    · show Expiry.rowAt row.paymentHash (Daemon.pollExpired s.secondsSinceEpoch true markOk s.daemon)
        = some row'
      have hnot : ¬ Expiry.due s.secondsSinceEpoch row.paymentHash s.daemon = true := by
        rw [Expiry.due, Expiry.rowAt, hr]
        exact hx
      rw [Expiry.find_poll, if_neg fun h => hnot h.1]
      exact hr

theorem awaits_step {deadline : Nat} (h : Awaits row url deadline s) (hp : IsPending row url)
    (hexp : expiry row + pollInterval ≤ deadline) (hs : Scheduled s) {i : Input}
    (hi : Regular s i) : Awaits row url deadline (step env s i) := by
  rcases h with h | h
  · obtain ⟨hdue, row', hr, hsame⟩ := h
    by_cases hpoll : ∃ queryOk markOk, i = .poll queryOk markOk ∧ ¬ s.clock < s.nextPoll
    · obtain ⟨queryOk, markOk, rfl, hnow⟩ := hpoll
      obtain rfl : queryOk = true := hi.2.1
      exact awaits_poll hp hr hsame hdue hexp hs hi.2.2 hnow markOk
    · have hnext : (step env s i).nextPoll = s.nextPoll := by
        rw [nextPoll_step]
        cases i with
        | poll queryOk markOk =>
          have hlt : s.clock < s.nextPoll := by
            by_contra hge
            exact hpoll ⟨queryOk, markOk, rfl, hge⟩
          exact if_pos hlt
        | _ => rfl
      have hquiet : ∀ now queryOk markOk,
          daemonInput s i ≠ some (.poll now queryOk markOk) := by
        intro now queryOk markOk hd
        cases i with
        | poll queryOk' markOk' =>
          have hlt : s.clock < s.nextPoll := by
            by_contra hge
            exact hpoll ⟨queryOk', markOk', rfl, hge⟩
          rw [daemonInput, if_pos hlt] at hd
          cases hd
        | recv lookupOk markOk' =>
          obtain ⟨m, -, hm⟩ := Option.map_eq_some_iff.1 hd
          cases hm
        | _ => cases hd
      refine .inl ⟨hnext ▸ hdue, find_step hquiet hr hsame⟩
  · obtain ⟨t, ht, ha, hspawned⟩ := h
    obtain ⟨t', ht', hdelivery, htime⟩ := @exists_task_step env s t ht i
    exact .inr ⟨t', ht', hdelivery ▸ ha, htime ▸ hspawned⟩

/-- Over a run in which no step is late, no query fails and the clock fits 63
bits: an invoice that is recorded with a webhook, is not announced as expired
yet, and expires, is announced within 30 s of its expiry, or of being recorded
if that is later, not before it expires, and whatever the webhook does, the
delivery has ended 66 s after that. -/
theorem announced_in_time (env : Dispatcher.Env) (clock : Nat) (store : InvoiceMetadataStore)
    (before is : List Input)
    (hb : ∀ p ∈ trace (step env) (.start clock store) before, OnTime p.1 p.2)
    (hr : ∀ p ∈ trace (step env) (run (step env) (.start clock store) before) is, Regular p.1 p.2)
    (hrow : row ∈ (run (step env) (.start clock store) before).daemon.store.invoices.rows)
    (hp : IsPending row url) :
    let s := run (step env) (.start clock store) before
    let s' := run (step env) s is
    let due := max s.clock (expiry row)
    due + 30 * 10 ^ 9 < s'.clock →
      ∃ t ∈ s'.tasks, Announces row url t.delivery ∧ t.spawnedAt ≤ due + 30 * 10 ^ 9 ∧
        (due + 96 * 10 ^ 9 < s'.clock → Ended t) := by
  intro s s' due hlate
  have hpunctual : ∀ t ∈ s.tasks, Punctual s.clock t := by
    refine @invariant_run_of _ _ (step env) _ (fun s => ∀ t ∈ s.tasks, Punctual s.clock t) OnTime
      ?_ (fun s i hs hi => punctual_step hs hi) before hb
    intro t ht
    cases ht
  have hscheduled : Scheduled s := invariant_run_of ⟨Nat.le_add_right _ _, Nat.le_refl _⟩
    (fun s i hs hi => hs.step hi) hb
  have hawaits : Awaits row url (due + 30 * 10 ^ 9) s := by
    refine .inl ⟨?_, row, Table.find_eq_some.2 ⟨hrow, rfl⟩, row.paid, rfl⟩
    have hnear := hscheduled.2
    have hle : s.clock ≤ due := Nat.le_max_left _ _
    have h30 : pollInterval = 30 * 10 ^ 9 := rfl
    omega
  have hexp : expiry row + pollInterval ≤ due + 30 * 10 ^ 9 :=
    Nat.add_le_add_right (Nat.le_max_right _ _) _
  have hend : Awaits row url (due + 30 * 10 ^ 9) s' ∧ Scheduled s' ∧
      ∀ t ∈ s'.tasks, Punctual s'.clock t := by
    refine @invariant_run_of _ _ (step env) s (fun s => Awaits row url (due + 30 * 10 ^ 9) s ∧
      Scheduled s ∧ ∀ t ∈ s.tasks, Punctual s.clock t) Regular ⟨hawaits, hscheduled, hpunctual⟩
      ?_ is hr
    intro u i hu hi
    obtain ⟨ha, hs, ht⟩ := hu
    exact ⟨awaits_step ha hp hexp hs hi, hs.step hi.1, punctual_step ht hi.1⟩
  obtain ⟨ha, hs, ht⟩ := hend
  rcases ha with ha | ha
  · exact absurd (Nat.le_trans hs.1 ha.1) (Nat.not_le_of_lt hlate)
  · obtain ⟨t, hmem, hannounces, hspawned⟩ := ha
    refine ⟨t, hmem, hannounces, hspawned, fun hlater => (ht t hmem).ended ?_⟩
    omega

theorem announced_in_time_sample :
    let s := run (step sampleEnv) sampleStart [.insert sampleInvoice true]
    let s' := run (step sampleEnv) s sampleRun.tail
    ∃ t ∈ s'.tasks, Announces (rowOf sampleInvoice) "https://shop.example/hook" t.delivery ∧
      t.spawnedAt ≤ 1700000050 * 10 ^ 9 ∧ Ended t := by
  intro s s'
  have hp : IsPending (rowOf sampleInvoice) "https://shop.example/hook" := ⟨rfl, by decide, rfl⟩
  obtain ⟨t, ht, ha, hspawned, hended⟩ := announced_in_time sampleEnv (1700000000 * 10 ^ 9) .empty
    [.insert sampleInvoice true] sampleRun.tail (by decide +kernel) (by decide +kernel)
    (by decide +kernel) hp (by decide +kernel)
  exact ⟨t, ht, ha, hspawned, hended (by decide +kernel)⟩

end Mdkd.Proof.Service
