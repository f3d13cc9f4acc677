import Mdkd.Impl.Dispatcher

/-!
# A webhook delivery

What a task of `deliver` has done by the time it is where it is, and what its
requests say.

* `History`, kept by `wake` and `answer`: the attempts that failed, each after
  the delay of the one before, and where the loop is after them;
* `History.sound`: what follows of the requests a task has made;
* `Punctual`, kept by the steps of a task that are not late: how long the rest
  of a delivery may take;
* `readEvent_body`: the body of a request is the text of its event.
-/

namespace Mdkd.Proof.Delivery

open Framework Daemon Dispatcher

variable {env : Env} {now : Nat}

/-! ## Attempts -/

/-- From `start` on, the attempts `as` were made of a request and failed; the
loop goes on at `ready`, with the delays `ds` left. -/
inductive Failed (request : Post) (start : Nat) : List Attempt → Nat → List Nat → Prop where
  | nil : Failed request start [] start retryDelays
  | snoc {as : List Attempt} {ready d : Nat} {ds : List Nat} (a : Attempt)
      (h : Failed request start as ready (d :: ds)) (hpost : a.post = request)
      (hready : ready ≤ a.sentAt) (hsent : a.sentAt ≤ a.answeredAt)
      (hfail : a.reply.isSuccess = false) :
      Failed request start (as ++ [a]) (a.answeredAt + d) ds

/-- What a task has done, at its place in the loop. -/
def History (env : Env) (now : Nat) (t : Task) : Prop :=
  match t.phase with
  | .sleeping wakeAt delays => Failed (post env t.delivery) t.spawnedAt t.attempts wakeAt delays
  | .posting request sentAt delay delays =>
    request = post env t.delivery ∧ sentAt ≤ now ∧ ∃ ready ≤ sentAt,
      Failed (post env t.delivery) t.spawnedAt t.attempts ready (delay :: delays)
  | .delivered =>
    ∃ as a ready delay delays, t.attempts = as ++ [a] ∧ a.post = post env t.delivery ∧
      a.reply.isSuccess = true ∧ ready ≤ a.sentAt ∧
      Failed (post env t.delivery) t.spawnedAt as ready (delay :: delays)
  | .exhausted => ∃ ready, Failed (post env t.delivery) t.spawnedAt t.attempts ready []

theorem history_spawn (env : Env) (now : Nat) (d : Delivery) : History env now (.spawn now d) :=
  Failed.nil

theorem History.mono {t : Task} (h : History env now t) {now' : Nat} (hle : now ≤ now') :
    History env now' t := by
  unfold History at h ⊢
  cases hp : t.phase with
  | posting request sentAt delay delays =>
    rw [hp] at h
    obtain ⟨hr, hs, hf⟩ := h
    exact ⟨hr, Nat.le_trans hs hle, hf⟩
  | _ =>
    rw [hp] at h
    exact h

theorem History.wake {t : Task} (h : History env now t) : History env now (t.wake env now) := by
  cases hp : t.phase with
  | sleeping wakeAt delays =>
    have hf := h
    rw [History, hp] at hf
    by_cases hlt : now < wakeAt
    · simpa only [Task.wake, hp, hlt, ↓reduceIte] using h
    · cases delays with
      | nil =>
        simp only [Task.wake, hp, hlt, ↓reduceIte]
        exact ⟨wakeAt, hf⟩
      | cons delay delays =>
        simp only [Task.wake, hp, hlt, ↓reduceIte]
        exact ⟨rfl, Nat.le_refl now, wakeAt, Nat.le_of_not_lt hlt, hf⟩
  | _ => simpa only [Task.wake, hp] using h

theorem History.answer {t : Task} (h : History env now t) (reply : Reply) :
    History env now (t.answer now reply) := by
  cases hp : t.phase with
  | posting request sentAt delay delays =>
    rw [History, hp] at h
    obtain ⟨hr, hs, ready, hready, hf⟩ := h
    simp only [Task.answer, hp]
    generalize (if sentAt + requestTimeout < now then Reply.error else reply) = outcome
    cases ho : outcome.isSuccess with
    | true => exact ⟨t.attempts, _, ready, delay, delays, rfl, hr, ho, hready, hf⟩
    | false => exact Failed.snoc _ hf hr hready hs ho
  | _ => simpa only [Task.answer, hp] using h

/-! ## What a task has sent -/

/-- The request a task waits for, and when it was sent. -/
def pending (t : Task) : Option (Post × Nat) :=
  match t.phase with
  | .posting request sentAt _ _ => some (request, sentAt)
  | _ => none

/-- When each of the requests of a task was sent. -/
def sentTimes (t : Task) : List Nat :=
  t.attempts.map (·.sentAt) ++ ((pending t).map Prod.snd).toList

theorem posts_eq (t : Task) :
    t.posts = t.attempts.map (·.post) ++ ((pending t).map Prod.fst).toList := by
  unfold Task.posts pending
  cases t.phase <;> rfl

/-- The requests of a task: at most three, all the same, each after the delay
that follows the failure of the one before, and the last of them the first that
succeeds. -/
structure Sound (env : Env) (t : Task) : Prop where
  same : ∀ p ∈ t.posts, p = post env t.delivery
  atMost : t.posts.length ≤ 3
  spaced : ∀ k a b d, t.attempts[k]? = some a → (sentTimes t)[k + 1]? = some b →
    retryDelays[k]? = some d → a.answeredAt + d ≤ b
  last : ∀ k a, t.attempts[k]? = some a → a.reply.isSuccess = true → k + 1 = t.posts.length
  delivered : t.phase = .delivered ↔ ∃ a ∈ t.attempts, a.reply.isSuccess = true
  exhausted : t.phase = .exhausted → t.attempts.length = 3

variable {request : Post} {start ready : Nat} {as : List Attempt} {ds : List Nat}

theorem Failed.drop (h : Failed request start as ready ds) : ds = retryDelays.drop as.length := by
  induction h with
  | nil => rfl
  | @snoc as ready d ds a h _ _ _ _ ih =>
    rw [List.length_append, List.length_singleton, ← List.drop_drop, ← ih]
    rfl

theorem Failed.length (h : Failed request start as ready ds) : as.length + ds.length = 3 := by
  induction h with
  | nil => rfl
  | snoc a h _ _ _ _ ih =>
    rw [List.length_cons] at ih
    rw [List.length_append, List.length_singleton]
    omega

theorem Failed.forall_mem (h : Failed request start as ready ds) :
    ∀ a ∈ as, a.post = request ∧ a.reply.isSuccess = false := by
  induction h with
  | nil =>
    intro a ha
    cases ha
  | snoc a h hpost _ _ hfail ih =>
    intro b hb
    rcases List.mem_append.1 hb with hb | hb
    · exact ih b hb
    · rw [List.mem_singleton.1 hb]
      exact ⟨hpost, hfail⟩

/-- The loop goes on after the delay of the last attempt. -/
theorem Failed.ready_eq (h : Failed request start as ready ds) {k : Nat} {a : Attempt} {d : Nat}
    (ha : as[k]? = some a) (hk : k + 1 = as.length) (hd : retryDelays[k]? = some d) :
    a.answeredAt + d = ready := by
  cases h with
  | nil => cases ha
  | @snoc as r d' ds b h _ _ _ _ =>
    rw [List.length_append, List.length_singleton] at hk
    obtain rfl : k = as.length := by omega
    have hdrop := h.drop
    rw [List.getElem?_append_right (Nat.le_refl _), Nat.sub_self] at ha
    obtain rfl := Option.some.inj ha
    have hhead : (retryDelays.drop as.length).head? = some d := by
      rw [List.head?_drop]
      exact hd
    rw [← hdrop] at hhead
    rw [Option.some.inj hhead]

/-- Each attempt comes after the delay of the one before, and so does one that
comes when the loop is ready. -/
theorem Failed.spaced (h : Failed request start as ready ds) (next : Option Nat)
    (hnext : ∀ b ∈ next, ready ≤ b) {k : Nat} {a : Attempt} {b d : Nat} (ha : as[k]? = some a)
    (hb : (as.map (·.sentAt) ++ next.toList)[k + 1]? = some b) (hd : retryDelays[k]? = some d) :
    a.answeredAt + d ≤ b := by
  induction h generalizing next with
  | nil => cases ha
  | @snoc as r d' ds c h hpost hready hsent hfail ih =>
    by_cases hk : k + 1 < (as ++ [c]).length
    · -- an attempt of those before, or the last of them
      rw [List.getElem?_append_left (by rwa [List.length_map]), List.map_append,
        List.map_singleton] at hb
      rw [List.length_append, List.length_singleton] at hk
      rw [List.getElem?_append_left (by omega)] at ha
      refine ih (some c.sentAt) ?_ ha hb
      intro t ht
      rw [← Option.some.inj ht]
      exact hready
    · have hlt := (List.getElem?_eq_some_iff.1 ha).1
      have hlen : k + 1 = (as ++ [c]).length := by omega
      rw [List.getElem?_append_right (by rw [List.length_map]; omega), List.length_map, hlen,
        Nat.sub_self] at hb
      rw [(Failed.snoc c h hpost hready hsent hfail).ready_eq ha hlen hd]
      cases next with
      | none => cases hb
      | some t =>
        obtain rfl := Option.some.inj hb
        exact hnext t rfl

theorem Failed.not_isSuccess (h : Failed request start as ready ds) :
    ¬ ∃ a ∈ as, a.reply.isSuccess = true := by
  intro hs
  obtain ⟨a, ha, hs⟩ := hs
  rw [(h.forall_mem a ha).2] at hs
  cases hs

variable {t : Task}

/-- A task whose attempts all failed. -/
theorem Failed.sound (h : Failed (post env t.delivery) start t.attempts ready ds)
    (hpending : ∀ q ∈ pending t, q.1 = post env t.delivery ∧ ready ≤ q.2 ∧ ds ≠ [])
    (hdelivered : t.phase ≠ .delivered) (hexhausted : t.phase = .exhausted → ds = []) :
    Sound env t := by
  have hno := h.not_isSuccess
  have hlen := h.length
  refine ⟨?_, ?_, ?_, ?_, iff_of_false hdelivered hno, ?_⟩
  · intro p hp
    rw [posts_eq, List.mem_append, List.mem_map, Option.mem_toList, Option.map_eq_some_iff] at hp
    rcases hp with hp | hp
    · obtain ⟨a, ha, rfl⟩ := hp
      exact (h.forall_mem a ha).1
    · obtain ⟨q, hq, rfl⟩ := hp
      exact (hpending q hq).1
  · rw [posts_eq, List.length_append, List.length_map]
    cases hq : pending t with
    | none =>
      show t.attempts.length + 0 ≤ 3
      omega
    | some q =>
      have hne := List.length_pos_iff.2 (hpending q hq).2.2
      show t.attempts.length + 1 ≤ 3
      omega
  · intro k a b d ha hb hd
    refine h.spaced ((pending t).map Prod.snd) ?_ ha hb hd
    intro b hb
    obtain ⟨q, hq, rfl⟩ := Option.map_eq_some_iff.1 hb
    exact (hpending q hq).2.1
  · intro k a ha hs
    exact absurd ⟨a, List.mem_of_getElem? ha, hs⟩ hno
  · intro hx
    rw [hexhausted hx, List.length_nil] at hlen
    exact hlen

/-- A task whose last attempt succeeded. -/
theorem Failed.sound_of_success {a : Attempt} {delay : Nat}
    (h : Failed (post env t.delivery) start as ready (delay :: ds))
    (hattempts : t.attempts = as ++ [a]) (hpost : a.post = post env t.delivery)
    (hs : a.reply.isSuccess = true) (hready : ready ≤ a.sentAt) (hp : t.phase = .delivered) :
    Sound env t := by
  have hlen := h.length
  rw [List.length_cons] at hlen
  have hpending : pending t = none := by rw [pending, hp]
  have hposts : t.posts = (as ++ [a]).map (·.post) := by
    rw [posts_eq, hpending, hattempts]
    exact List.append_nil _
  have htimes : sentTimes t = as.map (·.sentAt) ++ (some a.sentAt).toList := by
    rw [sentTimes, hpending, hattempts, List.map_append]
    exact List.append_nil _
  have hplen : t.posts.length = as.length + 1 := by
    rw [hposts, List.length_map, List.length_append, List.length_singleton]
  refine ⟨?_, by omega, ?_, ?_, ?_, ?_⟩
  · rw [hposts]
    refine List.forall_mem_map.2 fun b hb => ?_
    rcases List.mem_append.1 hb with hb | hb
    · exact (h.forall_mem b hb).1
    · rw [List.mem_singleton.1 hb]
      exact hpost
  · intro k b c d hb hc hd
    rw [htimes] at hc
    have hlt := (List.getElem?_eq_some_iff.1 hc).1
    rw [List.length_append, List.length_map, Option.toList_some, List.length_singleton] at hlt
    rw [hattempts, List.getElem?_append_left (by omega)] at hb
    refine h.spaced (some a.sentAt) ?_ hb hc hd
    intro e he
    rw [← Option.some.inj he]
    exact hready
  · intro k b hb hsb
    rw [hattempts] at hb
    by_cases hk : k < as.length
    · rw [List.getElem?_append_left hk] at hb
      exact absurd ⟨b, List.mem_of_getElem? hb, hsb⟩ h.not_isSuccess
    · have hlt := (List.getElem?_eq_some_iff.1 hb).1
      rw [List.length_append, List.length_singleton] at hlt
      omega
  · exact iff_of_true hp ⟨a, by rw [hattempts]; simp, hs⟩
  · intro hx
    rw [hp] at hx
    cases hx

/-- What a task's history says of its requests. -/
theorem History.sound (h : History env now t) : Sound env t := by
  cases hp : t.phase with
  | sleeping wakeAt delays =>
    rw [History, hp] at h
    exact h.sound (by simp [pending, hp]) (by simp [hp]) (by simp [hp])
  | posting request sentAt delay delays =>
    rw [History, hp] at h
    obtain ⟨hr, -, ready, hready, hf⟩ := h
    refine hf.sound ?_ (by simp [hp]) (by simp [hp])
    intro q hq
    rw [pending, hp] at hq
    rw [← Option.some.inj hq]
    exact ⟨hr, hready, List.cons_ne_nil delay delays⟩
  | delivered =>
    rw [History, hp] at h
    obtain ⟨as, a, ready, delay, delays, hattempts, hpost, hs, hready, hf⟩ := h
    exact hf.sound_of_success hattempts hpost hs hready hp
  | exhausted =>
    rw [History, hp] at h
    obtain ⟨ready, hf⟩ := h
    exact hf.sound (by simp [pending, hp]) (by simp [hp]) fun _ => rfl

/-! ## Time -/

/-- When the next step of a task is due. -/
def due (t : Task) : Option Nat :=
  match t.phase with
  | .sleeping wakeAt _ => some wakeAt
  | .posting _ sentAt _ _ => some (sentAt + requestTimeout)
  | _ => none

/-- The task has come to its end. -/
def Ended (t : Task) : Prop := t.phase = .delivered ∨ t.phase = .exhausted

/-- The most that attempts with the delays `ds` take. -/
def budget (ds : List Nat) : Nat := (ds.map (requestTimeout + ·)).sum

/-- 66 s. -/
theorem budget_retryDelays : budget retryDelays = 66 * 10 ^ 9 := by decide

/-- The next step of a task is not late, and what is left of it fits in what was
planned when it was spawned. -/
def Punctual (now : Nat) (t : Task) : Prop :=
  match t.phase with
  | .sleeping wakeAt delays => now ≤ wakeAt ∧ wakeAt + budget delays ≤ t.spawnedAt + 66 * 10 ^ 9
  | .posting _ sentAt delay delays =>
    now ≤ sentAt + requestTimeout ∧
      sentAt + budget (delay :: delays) ≤ t.spawnedAt + 66 * 10 ^ 9
  | _ => True

theorem budget_cons (d : Nat) (ds : List Nat) :
    budget (d :: ds) = requestTimeout + d + budget ds := by
  rw [budget, List.map_cons, List.sum_cons]
  rfl

theorem punctual_spawn (now : Nat) (d : Delivery) : Punctual now (.spawn now d) := by
  refine ⟨Nat.le_refl now, ?_⟩
  rw [budget_retryDelays]
  exact Nat.le_refl _

/-- A task that has not ended when it should have is not punctual. -/
theorem Punctual.ended (h : Punctual now t) (hlate : t.spawnedAt + 66 * 10 ^ 9 < now) : Ended t := by
  cases hp : t.phase with
  | sleeping wakeAt delays =>
    rw [Punctual, hp] at h
    obtain ⟨hnow, hb⟩ := h
    omega
  | posting request sentAt delay delays =>
    rw [Punctual, hp] at h
    obtain ⟨hnow, hb⟩ := h
    rw [budget_cons] at hb
    omega
  | delivered => exact .inl hp
  | exhausted => exact .inr hp

/-- Time that passes up to what is due. -/
theorem Punctual.tick (h : Punctual now t) {now' : Nat} (hdue : ∀ d ∈ due t, now' ≤ d) :
    Punctual now' t := by
  cases hp : t.phase with
  | sleeping wakeAt delays =>
    rw [Punctual, hp] at h ⊢
    rw [due, hp] at hdue
    exact ⟨hdue wakeAt rfl, h.2⟩
  | posting request sentAt delay delays =>
    rw [Punctual, hp] at h ⊢
    rw [due, hp] at hdue
    exact ⟨hdue _ rfl, h.2⟩
  | _ => rw [Punctual, hp]; trivial

theorem Punctual.wake (h : Punctual now t) : Punctual now (t.wake env now) := by
  cases hp : t.phase with
  | sleeping wakeAt delays =>
    have hs := h
    rw [Punctual, hp] at hs
    by_cases hlt : now < wakeAt
    · simpa only [Task.wake, hp, hlt, ↓reduceIte] using h
    · -- it is due, so it is that time
      obtain rfl : now = wakeAt := by omega
      cases delays with
      | nil =>
        simp only [Task.wake, hp, Nat.lt_irrefl, ↓reduceIte]
        trivial
      | cons delay delays =>
        simp only [Task.wake, hp, Nat.lt_irrefl, ↓reduceIte]
        exact ⟨Nat.le_add_right _ _, hs.2⟩
  | _ => simpa only [Task.wake, hp] using h

theorem Punctual.answer (h : Punctual now t) (reply : Reply) :
    Punctual now (t.answer now reply) := by
  cases hp : t.phase with
  | posting request sentAt delay delays =>
    rw [Punctual, hp] at h
    obtain ⟨hnow, hb⟩ := h
    rw [budget_cons] at hb
    simp only [Task.answer, hp]
    generalize (if sentAt + requestTimeout < now then Reply.error else reply) = outcome
    cases outcome.isSuccess with
    | true => trivial
    | false =>
      refine ⟨Nat.le_add_right _ _, ?_⟩
      show now + delay + budget delays ≤ t.spawnedAt + 66 * 10 ^ 9
      omega
  | _ => simpa only [Task.answer, hp] using h

/-! ## What a request says -/

/-- A field that is a text. -/
def getString (name : String) (v : Json) : Option String :=
  match v.get name with
  | some (.string s) => some s
  | _ => none

/-- A field that is a text or `null`. -/
def getNullable (name : String) (v : Json) : Option (Option String) :=
  match v.get name with
  | some (.string s) => some (some s)
  | some .null => some none
  | _ => none

/-- A field that is a natural number of 64 bits. -/
def getUInt64 (name : String) (v : Json) : Option UInt64 :=
  match v.get name with
  | some (.number n) => n.toNat?.bind fun k => if k < 2 ^ 64 then some (.ofNat k) else none
  | _ => none

/-- The event a receiver reads in a JSON value. -/
def readEvent (v : Json) : Option WebhookEvent := do
  let event ← getString "event" v
  let paymentHash ← getString "paymentHash" v
  let externalId ← getNullable "externalId" v
  let timestamp ← getUInt64 "timestamp" v
  if event = "payment_received" then
    let amountMsat ← getUInt64 "amountMsat" v
    return .paymentReceived paymentHash amountMsat externalId timestamp
  else if event = "invoice_expired" then return .invoiceExpired paymentHash externalId timestamp
  else none

theorem getUInt64_of_get {name : String} {v : Json} {n : UInt64}
    (h : v.get name = some (.number (.ofNat n.toNat))) : getUInt64 name v = some n := by
  rw [getUInt64, h]
  simp only [Numeral.toNat?_ofNat, Option.bind_some, if_pos n.toNat_lt, UInt64.ofNat_toNat]

theorem getNullable_of_get {name : String} {v : Json} {o : Option String}
    (h : v.get name = some (JsonValue.ofText o).json) : getNullable name v = some o := by
  rw [getNullable, h]
  cases o <;> rfl

theorem getString_of_get {name : String} {v : Json} {s : String}
    (h : v.get name = some (.string s)) : getString name v = some s := by
  rw [getString, h]

/-- An event is read from its JSON object. -/
theorem readEvent_json (event : WebhookEvent) : readEvent event.json = some event := by
  cases event with
  | paymentReceived paymentHash amountMsat externalId timestamp =>
    let v := WebhookEvent.json (.paymentReceived paymentHash amountMsat externalId timestamp)
    have hevent : getString "event" v = some "payment_received" := getString_of_get rfl
    have hhash : getString "paymentHash" v = some paymentHash := getString_of_get rfl
    have hmsat : getUInt64 "amountMsat" v = some amountMsat := getUInt64_of_get rfl
    have hext : getNullable "externalId" v = some externalId := getNullable_of_get rfl
    have htime : getUInt64 "timestamp" v = some timestamp := getUInt64_of_get rfl
    show readEvent v = _
    rw [readEvent, hevent, hhash, hmsat, hext, htime]
    rfl
  | invoiceExpired paymentHash externalId timestamp =>
    let v := WebhookEvent.json (.invoiceExpired paymentHash externalId timestamp)
    have hevent : getString "event" v = some "invoice_expired" := getString_of_get rfl
    have hhash : getString "paymentHash" v = some paymentHash := getString_of_get rfl
    have hext : getNullable "externalId" v = some externalId := getNullable_of_get rfl
    have htime : getUInt64 "timestamp" v = some timestamp := getUInt64_of_get rfl
    show readEvent v = _
    rw [readEvent, hevent, hhash, hext, htime]
    rfl

/-- The event a receiver reads in a text. -/
def readText (text : String) : Option WebhookEvent := (Json.read text).bind readEvent

/-- The event a receiver reads in the body of a request. -/
def readBody (bs : List UInt8) : Option WebhookEvent := (fromUtf8 bs).bind readText

theorem readText_write (hw : IsWriter env.toString) (event : WebhookEvent) :
    readText (env.toString event.json) = some event := by
  rw [readText, hw, Option.bind_some, readEvent_json]

theorem readBody_body (hw : IsWriter env.toString) (event : WebhookEvent) :
    readBody (body env event) = some event := by
  rw [readBody, body, fromUtf8_eq_some.2 rfl, Option.bind_some, readText_write hw]

end Mdkd.Proof.Delivery
