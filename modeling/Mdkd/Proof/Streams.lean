import Mdkd.Framework.Ledger
import Mdkd.Proof.Service

/-!
# The daemon at work: its streams

What the websocket streams get of the messages the daemon sends.

* `stream_gets`: since it connected, in order and each at most once; all of
  them exactly when no step loses one (`Keeps`);
* `text_reaches`: a message reaches a stream that reads on, whatever it missed
  before, unless a channel's worth of messages follow first;
* `notifications_readable`: what the streams and the webhooks get can be read;
* `bystanders`: what a stream or a webhook does concerns no other.
-/

namespace Mdkd.Proof.Service

open Framework Mdkd.Service Mdkd.Websocket Delivery

variable {env : Dispatcher.Env} {s : System} {n : Nat} {c : Stream}

/-! ## One stream -/

/-- What a stream has sent to its socket, and what it is to send. -/
def texts (c : Stream) : List String := c.sent ++ c.rx.unread

theorem foldl_send_of_running (h : c.running = true) (ts : List String) :
    ts.foldl Stream.send c = { c with rx := ts.foldl Receiver.send c.rx } := by
  induction ts generalizing c with
  | nil => rfl
  | cons t ts ih =>
    have hsend : c.send t = { c with rx := c.rx.send t } := if_pos h
    rw [List.foldl_cons, hsend]
    exact @ih { c with rx := c.rx.send t } h

theorem foldl_send_of_ended (h : c.running = false) (ts : List String) :
    ts.foldl Stream.send c = c := by
  induction ts with
  | nil => rfl
  | cons t ts ih =>
    have hsend : c.send t = c := if_neg (by rw [h]; decide)
    rw [List.foldl_cons, hsend, ih]

/-- Texts sent to a stream. -/
theorem texts_sends (c : Stream) (ts : List String) :
    (texts (ts.foldl Stream.send c)).Sublist (texts c ++ ts) ∧
      (texts (ts.foldl Stream.send c) = texts c ++ ts ↔
        if c.running then c.rx.unread.length + ts.length ≤ channelCapacity else ts = []) := by
  cases h : c.running with
  | true =>
    have htexts : texts (ts.foldl Stream.send c) =
        c.sent ++ (ts.foldl Receiver.send c.rx).unread := by
      rw [foldl_send_of_running h]
      rfl
    rw [htexts, texts, List.append_assoc, List.append_cancel_left_eq, if_pos rfl]
    exact ⟨(Receiver.unread_sends_sublist c.rx ts).append_left _,
      Receiver.unread_sends_eq_iff c.rx ts⟩
  | false =>
    rw [foldl_send_of_ended h, if_neg (by decide)]
    exact ⟨List.sublist_append_left _ _, List.self_eq_append_right⟩

theorem turn_of_recv (h : c.running = true) {got : Received String}
    {rx : Receiver String channelCapacity} (hread : c.rx.recv = (got, rx)) (sendOk : Bool) :
    c.turn sendOk = got.message?.elim { c with rx } fun text =>
      if sendOk then { c with rx, sent := c.sent ++ [text] }
      else { c with rx, running := false } := by
  unfold Stream.turn
  rw [if_neg (by rw [h]; decide), hread]
  cases got <;> rfl

/-- A turn of a stream: it loses the text it takes if its socket fails. -/
theorem texts_turn (c : Stream) (sendOk : Bool) :
    (texts (c.turn sendOk)).Sublist (texts c) ∧
      (texts (c.turn sendOk) = texts c ↔
        (c.running = true → sendOk = false → c.rx.recv.1.message? = none)) := by
  have hread := Receiver.received_append_recv c.rx
  cases h : c.running with
  | false =>
    have hturn : c.turn sendOk = c := if_pos (by rw [h]; decide)
    rw [hturn]
    exact ⟨List.Sublist.refl _, iff_of_true rfl fun h => by cases h⟩
  | true =>
    cases hrecv : c.rx.recv with
    | mk got rx =>
    rw [turn_of_recv h hrecv]
    rw [hrecv] at hread
    cases got with
    | message text =>
      have hu : c.rx.unread = text :: rx.unread := hread.symm
      cases sendOk with
      | true =>
        have heq : texts { c with rx, sent := c.sent ++ [text] } = texts c := by
          rw [texts, texts, hu, List.append_assoc, List.singleton_append]
        exact ⟨heq ▸ List.Sublist.refl _, iff_of_true heq fun _ h => by cases h⟩
      | false =>
        have hsub : rx.unread.Sublist c.rx.unread := hu ▸ List.sublist_cons_self _ _
        refine ⟨hsub.append_left _, iff_of_false (fun heq => ?_) fun h => ?_⟩
        · have hlen := congrArg List.length (List.append_cancel_left heq)
          rw [hu, List.length_cons] at hlen
          show False
          have : rx.unread.length = rx.unread.length + 1 := hlen
          omega
        · cases h rfl rfl
    | lagged missed =>
      have hu : rx.unread = c.rx.unread := hread
      have heq : texts { c with rx } = texts c := congrArg (c.sent ++ ·) hu
      exact ⟨heq ▸ List.Sublist.refl _, iff_of_true heq fun _ _ => rfl⟩
    | empty =>
      have hu : rx.unread = c.rx.unread := hread
      have heq : texts { c with rx } = texts c := congrArg (c.sent ++ ·) hu
      exact ⟨heq ▸ List.Sublist.refl _, iff_of_true heq fun _ _ => rfl⟩

/-! ## A stream in a run -/

/-- The texts of the messages a step sends. -/
def textsBy (env : Dispatcher.Env) (s : System) (i : Input) : List String :=
  (sentBy env s i).map (text env)

/-- Only the daemon's own steps send messages. -/
theorem sentBy_read (env : Dispatcher.Env) (s : System) (k : Nat) (sendOk : Bool) :
    sentBy env s (.read k sendOk) = [] := List.drop_length

/-- A step loses no text of a stream that runs: the socket takes a text it is
given, and what the daemon sends finds room. One that has ended is sent nothing. -/
def Keeps (env : Dispatcher.Env) (n : Nat) (s : System) (i : Input) : Prop :=
  ∀ c, s.streams[n]? = some c →
    if c.running then
      (i = .read n false → c.rx.recv.1.message? = none) ∧
        c.rx.unread.length + (sentBy env s i).length ≤ channelCapacity
    else sentBy env s i = []

/-- A stream after a step: of what it had, and of what the step sends. -/
theorem texts_actStream (env : Dispatcher.Env) (s : System) (i : Input) (n : Nat) (c : Stream) :
    (texts (actStream env s i n c)).Sublist (texts c ++ textsBy env s i) ∧
      (texts (actStream env s i n c) = texts c ++ textsBy env s i ↔
        if c.running then
          (i = .read n false → c.rx.recv.1.message? = none) ∧
            c.rx.unread.length + (sentBy env s i).length ≤ channelCapacity
        else sentBy env s i = []) := by
  have hsends := texts_sends c (textsBy env s i)
  rw [textsBy, List.length_map, List.map_eq_nil_iff] at hsends
  cases i with
  | read k sendOk =>
    have hroom := c.rx.bound
    have hturn := texts_turn c sendOk
    rw [textsBy, sentBy_read, List.map_nil, List.append_nil, List.length_nil, Nat.add_zero]
    unfold actStream
    by_cases hk : n = k
    · simp only [hk, ↓reduceIte]
      refine ⟨hturn.1, hturn.2.trans ?_⟩
      cases c.running <;> cases sendOk <;> simp [hroom]
    · simp only [hk, ↓reduceIte]
      refine ⟨List.Sublist.refl _, iff_of_true trivial ?_⟩
      have hne : Input.read k sendOk ≠ .read n false := by
        intro h
        injection h with h
        exact hk h.symm
      split
      · exact ⟨fun h => absurd h hne, hroom⟩
      · trivial
  | _ =>
    refine ⟨hsends.1, hsends.2.trans ?_⟩
    simp

/-- What a stream holds of a run. -/
def held (n : Nat) (s : System) : List String := (s.streams[n]?).elim [] texts

theorem held_of_get (h : s.streams[n]? = some c) : held n s = texts c := by
  rw [held, h]
  rfl

/-- The step lemma of what a stream holds. -/
theorem held_step (h : s.streams[n]? = some c) (i : Input) :
    (held n (step env s i)).Sublist (held n s ++ textsBy env s i) ∧
      (held n (step env s i) = held n s ++ textsBy env s i ↔ Keeps env n s i) := by
  have hnext := (streamPool env).getElem?_step i h
  have hact := texts_actStream env s i n c
  rw [held_of_get hnext, held_of_get h]
  refine ⟨hact.1, hact.2.trans ⟨fun hk c' hc' => ?_, fun hk => hk c h⟩⟩
  obtain rfl := Option.some.inj (h.symm.trans hc')
  exact hk

/-- The messages of a run are those its steps send. -/
theorem messages_run (env : Dispatcher.Env) (s : System) (is : List Input) :
    (run (step env) s is).daemon.messages =
      s.daemon.messages ++ arrivals (step env) (sentBy env) s is := by
  induction is generalizing s with
  | nil => exact (List.append_nil _).symm
  | cons i is ih => rw [run_cons, ih, messages_step, arrivals_cons, List.append_assoc]

theorem arrivals_textsBy (env : Dispatcher.Env) (s : System) (is : List Input) :
    arrivals (step env) (textsBy env) s is =
      (arrivals (step env) (sentBy env) s is).map (text env) := by
  induction is generalizing s with
  | nil => rfl
  | cons i is ih =>
    rw [arrivals_cons, arrivals_cons, List.map_append, ih]
    rfl

/-- The messages sent since the state `s`. -/
def since (s s' : System) : List Daemon.WebhookEvent :=
  s'.daemon.messages.drop s.daemon.messages.length

theorem since_run (env : Dispatcher.Env) (s : System) (is : List Input) :
    since s (run (step env) s is) = arrivals (step env) (sentBy env) s is := by
  rw [since, messages_run, List.drop_left]

/-- There is a stream at this place. -/
def Connected (n : Nat) (s : System) : Prop := ∃ c, s.streams[n]? = some c

theorem Connected.step (h : Connected n s) (i : Input) : Connected n (step env s i) := by
  obtain ⟨c, hc⟩ := h
  exact ⟨_, (streamPool env).getElem?_step i hc⟩

/-- A stream that connects gets the messages sent from then on, in order and
each at most once. It gets all of them, sent on or still to be, exactly when no
step of the run loses one. -/
theorem stream_gets (env : Dispatcher.Env) (s : System) (is : List Input) :
    let s₁ := step env s .connect
    let s' := run (step env) s₁ is
    ∃ c, s'.streams[s.streams.length]? = some c ∧
      (texts c).Sublist ((since s s').map (text env)) ∧
      (texts c = (since s s').map (text env) ↔
        ∀ p ∈ trace (step env) s₁ is, Keeps env s.streams.length p.1 p.2) := by
  intro s₁ s'
  let n := s.streams.length
  have h0 : s₁.streams[n]? = some .subscribe := List.getElem?_concat_length
  have hnil : held n s₁ = [] := held_of_get h0
  have hinv : ∀ (t : System) (i : Input), Connected n t → True → Connected n (step env t i) :=
    fun t i ht _ => ht.step i
  have hsub : ∀ (t : System) (i : Input), Connected n t → True →
      (held n (step env t i)).Sublist (held n t ++ textsBy env t i) := by
    intro t i ht _
    obtain ⟨c, hc⟩ := ht
    exact (held_step hc i).1
  have hkeeps : ∀ (t : System) (i : Input), Connected n t → True →
      (held n (step env t i) = held n t ++ textsBy env t i ↔ Keeps env n t i) := by
    intro t i ht _
    obtain ⟨c, hc⟩ := ht
    exact (held_step hc i).2
  have hall := held_run_sublist ⟨_, h0⟩ hinv hsub (fun p (_ : p ∈ trace (step env) s₁ is) => trivial)
  have hiff := held_run_eq_iff ⟨_, h0⟩ hinv hsub hkeeps
    (fun p (_ : p ∈ trace (step env) s₁ is) => trivial)
  obtain ⟨c, hc⟩ : Connected n s' := invariant_run ⟨_, h0⟩ (fun t i ht => ht.step i) is
  have hsince : since s s' = arrivals (step env) (sentBy env) s₁ is := since_run env s₁ is
  rw [hnil, List.nil_append, arrivals_textsBy, ← hsince, held_of_get hc] at hall hiff
  exact ⟨c, hc, hall, hiff⟩

/-! ## What is sent can be read -/

/-- Every stream has messages of the daemon only. -/
theorem streams_step (h : ∀ c ∈ s.streams, (texts c).Sublist (s.daemon.messages.map (text env)))
    (i : Input) : ∀ c ∈ (step env s i).streams,
      (texts c).Sublist ((step env s i).daemon.messages.map (text env)) := by
  rw [messages_step, List.map_append]
  refine (streamPool env).forall_step h (fun n c _ hc => ?_) fun c hc => ?_
  · exact (texts_actStream env s i n c).1.trans (hc.append_right _)
  · cases i with
    | connect =>
      rw [List.mem_singleton.1 hc]
      exact List.nil_sublist _
    | _ => cases hc

/-- With a JSON writer, all that is sent in a run reads as what it is about:

* every request of a delivery reads as the event of the delivery, with the HMAC
  of the body it comes with and the time of the event in its headers;
* what a stream sends reads as messages of the daemon, in order, each at most
  once. -/
theorem notifications_readable (hw : IsWriter env.toString) (clock : Nat)
    (store : InvoiceMetadataStore) (is : List Input) :
    let s := run (step env) (.start clock store) is
    (∀ t ∈ s.tasks, ∀ p ∈ t.posts, p.url = t.delivery.webhookUrl ∧
      readBody p.body = some t.delivery.event ∧
      p.headers =
        [("Content-Type", "application/json"),
          ("X-MDK-Signature", toHex (env.hmacSha256 env.secret p.body)),
          ("X-MDK-Timestamp", toString t.delivery.event.timestamp.toNat)]) ∧
    ∀ c ∈ s.streams, ∃ es : List Daemon.WebhookEvent,
      es.Sublist s.daemon.messages ∧ c.sent.map readText = es.map some := by
  intro s
  refine ⟨fun t ht p hp => ?_, fun c hc => ?_⟩
  · have hsame := ((delivering_run env clock store is).history t ht).sound.same p hp
    rw [hsame]
    exact ⟨rfl, readBody_body hw t.delivery.event, rfl⟩
  · have hall : ∀ c ∈ s.streams, (texts c).Sublist (s.daemon.messages.map (text env)) := by
      refine @invariant_run _ _ (step env) _ (fun s => ∀ c ∈ s.streams,
        (texts c).Sublist (s.daemon.messages.map (text env))) ?_
        (fun s i hs => streams_step hs i) is
      intro c hc
      cases hc
    have hsent : c.sent.Sublist (s.daemon.messages.map (text env)) :=
      (List.sublist_append_left c.sent c.rx.unread).trans (hall c hc)
    obtain ⟨es, hes, he⟩ := List.sublist_map_iff.1 hsent
    refine ⟨es, hes, ?_⟩
    rw [he, List.map_map]
    exact List.map_congr_left fun e _ => readText_write hw e

/-- The run of `sampleRun` has made three requests, each of which reads as the
event. -/
theorem notifications_readable_sample :
    let s := run (step sampleEnv) sampleStart sampleRun
    (s.tasks.map (·.posts.length)) = [3] ∧
      ∀ t ∈ s.tasks, ∀ p ∈ t.posts, readBody p.body = some t.delivery.event := by
  have hw : IsWriter sampleEnv.toString := isWriter_write
  have h := (@notifications_readable sampleEnv hw (1700000000 * 10 ^ 9) .empty sampleRun).1
  exact ⟨by decide +kernel, fun t ht p hp => (h t ht p hp).2.1⟩

/-! ## A stream that fell behind -/

/-- A read of a stream whose socket takes the text. -/
def isRead (n : Nat) : Input → Bool
  | .read k sendOk => k = n && sendOk
  | _ => false

variable {m : String} {a k : Nat}

theorem waits_sends {r : Receiver String channelCapacity} (h : r.Waits m a k) (ts : List String)
    (hroom : a + ts.length < channelCapacity) :
    (ts.foldl Receiver.send r).Waits m (a + ts.length) k := by
  induction ts generalizing r a with
  | nil => exact h
  | cons t ts ih =>
    rw [List.length_cons] at hroom ⊢
    have hnext := ih (h.send (by omega) t) (by omega)
    rw [List.foldl_cons, show a + (ts.length + 1) = a + 1 + ts.length by omega]
    exact hnext

/-- A step of others leaves the text where it is, or the messages it sends come
after it. -/
theorem waits_act (hrun : c.running = true) (h : c.rx.Waits m a k) {i : Input}
    (hroom : a + (sentBy env s i).length < channelCapacity) (hi : ∀ sendOk, i ≠ .read n sendOk) :
    (actStream env s i n c).running = true ∧
      (actStream env s i n c).rx.Waits m (a + (sentBy env s i).length) k := by
  have hsends : (textsBy env s i).length = (sentBy env s i).length := List.length_map _
  have hact : actStream env s i n c = (textsBy env s i).foldl .send c ∨
      (actStream env s i n c = c ∧ sentBy env s i = []) := by
    cases i with
    | read k sendOk =>
      have hne : n ≠ k := by
        intro e
        exact hi sendOk (e ▸ rfl)
      exact .inr ⟨if_neg hne, sentBy_read env s k sendOk⟩
    | _ => exact .inl rfl
  rcases hact with hact | hact
  · rw [hact, foldl_send_of_running hrun, ← hsends]
    exact ⟨hrun, waits_sends h _ (by omega)⟩
  · rw [hact.1, hact.2]
    exact ⟨hrun, h⟩

/-- A text on the socket stays there. -/
theorem mem_sent_act (h : m ∈ c.sent) (i : Input) : m ∈ (actStream env s i n c).sent := by
  have hsends : ∀ ts : List String, (ts.foldl Stream.send c).sent = c.sent := by
    intro ts
    cases hr : c.running with
    | true => rw [foldl_send_of_running hr]
    | false => rw [foldl_send_of_ended hr]
  cases i with
  | read k sendOk =>
    show m ∈ (if n = k then c.turn sendOk else c).sent
    split
    · unfold Stream.turn
      repeat' split
      all_goals first
        | exact h
        | exact List.mem_append_left _ h
    · exact h
  | _ =>
    show m ∈ (List.foldl Stream.send c _).sent
    rw [hsends]
    exact h

/-- A turn of the stream sends the text, or gets closer to it. -/
theorem waits_turn (hrun : c.running = true) (h : c.rx.Waits m a k) :
    m ∈ (c.turn true).sent ∨
      ∃ j, k = j + 1 ∧ (c.turn true).running = true ∧ (c.turn true).rx.Waits m a j := by
  have hread := h.recv
  cases hrecv : c.rx.recv with
  | mk got rx =>
  rw [turn_of_recv hrun hrecv]
  rw [hrecv] at hread
  rcases hread with hread | hread
  · obtain rfl : got = .message m := hread
    exact .inl (List.mem_append_right _ (List.mem_singleton.2 rfl))
  · obtain ⟨j, hk, hw⟩ := hread
    refine .inr ⟨j, hk, ?_⟩
    cases got <;> exact ⟨hrun, hw⟩

/-- A stream that waits for a text and is read often enough, before too many
others are sent, sends it. -/
theorem mem_sent_run (is : List Input) (hc : s.streams[n]? = some c)
    (h : m ∈ c.sent ∨ ∃ a k, c.running = true ∧ c.rx.Waits m a k ∧
      a + (arrivals (step env) (sentBy env) s is).length < channelCapacity ∧
        k < is.countP (isRead n))
    (hok : .read n false ∉ is) :
    ∃ c', (run (step env) s is).streams[n]? = some c' ∧ m ∈ c'.sent := by
  induction is generalizing s c with
  | nil =>
    rcases h with h | h
    · exact ⟨c, hc, h⟩
    · obtain ⟨a, k, -, -, -, hk⟩ := h
      exact absurd hk (Nat.not_lt_zero k)
  | cons i is ih =>
    rw [List.mem_cons, not_or] at hok
    have hnext : (step env s i).streams[n]? = some (actStream env s i n c) :=
      (streamPool env).getElem?_step i hc
    refine ih hnext ?_ hok.2
    rcases h with h | h
    · exact .inl (mem_sent_act h i)
    · obtain ⟨a, k, hrun, hw, hroom, hk⟩ := h
      rw [arrivals_cons, List.length_append] at hroom
      by_cases hi : i = .read n true
      · have hact : actStream env s i n c = c.turn true := by
          rw [hi]
          exact if_pos rfl
        rw [List.countP_cons_of_pos (by rw [hi]; simp [isRead])] at hk
        rw [hact]
        rcases waits_turn hrun hw with hsent | hsent
        · exact .inl hsent
        · obtain ⟨j, hj, hrun', hw'⟩ := hsent
          exact .inr ⟨a, j, hrun', hw', by omega, by omega⟩
      · have hother : ∀ sendOk, i ≠ .read n sendOk := by
          intro sendOk
          cases sendOk with
          | true => exact hi
          | false => exact fun e => hok.1 e.symm
        have hnot : isRead n i = false := by
          cases i with
          | read l sendOk =>
            by_cases hl : l = n
            · cases sendOk with
              | true => exact absurd (hl ▸ rfl) hi
              | false => simp [isRead]
            · simp [isRead, hl]
          | _ => rfl
        rw [List.countP_cons_of_neg (by rw [hnot]; decide)] at hk
        have hlt : a + (sentBy env s i).length < channelCapacity := by omega
        obtain ⟨hrun', hw'⟩ := waits_act hrun hw hlt hother
        exact .inr ⟨a + (sentBy env s i).length, k, hrun', hw', by omega, hk⟩

/-- At most one message is sent at a time. -/
theorem length_sentBy (env : Dispatcher.Env) (s : System) (i : Input) :
    (sentBy env s i).length ≤ 1 := by
  rw [sentBy, daemon_step]
  cases daemonInput s i with
  | none => simp
  | some j =>
    show ((Daemon.step s.daemon j).messages.drop _).length ≤ 1
    cases j with
    | insert metadata ok => cases ok <;> simp [Daemon.step]
    | poll now queryOk markOk =>
      show ((Daemon.pollExpired now queryOk markOk s.daemon).messages.drop _).length ≤ 1
      rw [messages_pollExpired, List.drop_length]
      exact Nat.zero_le 1
    | event event now lookupOk markOk =>
      show ((Daemon.handleEvent now lookupOk markOk s.daemon event).messages.drop _).length ≤ 1
      rcases Events.handleEvent_cases now lookupOk markOk s.daemon event with h | h
      · rw [h, List.drop_length]
        exact Nat.zero_le 1
      · obtain ⟨paymentHash, sats, m, -, -, h⟩ := h
        rw [h, Events.announce, List.drop_left]
        exact Nat.le_refl 1

/-- A message sent while a stream runs is on its socket, however far the stream
was behind, once it has been read often enough, if no channel's worth of
messages came after it by then and the socket took what it was given. -/
theorem text_reaches {i : Input} {e : Daemon.WebhookEvent} (is : List Input)
    (hc : s.streams[n]? = some c) (hrun : c.running = true) (he : e ∈ sentBy env s i)
    (hfew : (since (step env s i) (run (step env) (step env s i) is)).length < channelCapacity)
    (hok : .read n false ∉ is) (hreads : 2 * channelCapacity ≤ is.countP (isRead n)) :
    ∃ c', (run (step env) (step env s i) is).streams[n]? = some c' ∧ text env e ∈ c'.sent := by
  have hone : sentBy env s i = [e] := by
    have hlen := length_sentBy env s i
    obtain ⟨e', he'⟩ := List.length_eq_one_iff.1
      (Nat.le_antisymm hlen (List.length_pos_of_mem he))
    rw [he', List.mem_singleton] at he
    rw [he', he]
  have hnext : (step env s i).streams[n]? = some (actStream env s i n c) :=
    (streamPool env).getElem?_step i hc
  have hact : actStream env s i n c = { c with rx := c.rx.send (text env e) } := by
    have hsends : actStream env s i n c = (textsBy env s i).foldl .send c := by
      cases i with
      | read k sendOk =>
        rw [sentBy_read] at he
        cases he
      | _ => rfl
    rw [hsends, foldl_send_of_running hrun, textsBy, hone]
    rfl
  rw [since_run] at hfew
  refine mem_sent_run is hnext (.inr ⟨0, 2 * channelCapacity - 1, ?_, ?_, by omega, ?_⟩) hok
  · rw [hact]
    exact hrun
  · rw [hact]
    exact Receiver.waits_send c.rx (text env e) (by decide)
  · have hpos : 0 < channelCapacity := by decide
    omega

/-- A payment that the daemon is about to hear of. -/
def sampleMessage : EventLoop.Message := ⟨none, .paymentReceived "aa" 1000⟩

/-- Its stream has missed something before. -/
def sampleSystem : System where
  clock := 1700000010 * 10 ^ 9
  loop := ⟨[], 0, .waiting, [], some ⟨[sampleMessage], 0, by decide⟩, []⟩
  daemon := ⟨(InvoiceMetadataStore.empty.insert sampleInvoice).getD .empty, [], []⟩
  nextPoll := 1700000030 * 10 ^ 9
  tasks := []
  streams := [⟨⟨["earlier"], 3, by decide⟩, [], true⟩]

theorem text_reaches_sample :
    let is := List.replicate 256 (Input.read 0 true)
    ∃ c, (run (step sampleEnv) (step sampleEnv sampleSystem (.recv true true)) is).streams[0]? =
        some c ∧
      text sampleEnv (.paymentReceived "aa" 1000000 (some "order-7") 1700000010) ∈ c.sent := by
  intro is
  have hquiet : ∀ (k : Nat) (s : System),
      arrivals (step sampleEnv) (sentBy sampleEnv) s (List.replicate k (.read 0 true)) = [] := by
    intro k
    induction k with
    | zero => exact fun _ => rfl
    | succ k ih =>
      intro s
      rw [List.replicate_succ, arrivals_cons, sentBy_read, ih, List.append_nil]
  refine text_reaches is rfl rfl (by decide +kernel) ?_ ?_ ?_
  · rw [since_run, hquiet]
    decide
  · rw [List.mem_replicate]
    rintro ⟨-, h⟩
    cases h
  · rw [List.countP_replicate]
    decide

/-! ## Bystanders -/

/-- The daemon without its delivery tasks and its streams. -/
def bare (s : System) : System := { s with tasks := [], streams := [] }

/-- What they do is nothing to the rest. -/
theorem bare_step (env : Dispatcher.Env) (s : System) (i : Input) :
    bare (step env s i) = bare (step env (bare s) i) := by
  cases i with
  | recv lookupOk markOk =>
    show bare (s.recv env lookupOk markOk) = bare ((bare s).recv env lookupOk markOk)
    unfold System.recv
    have hreceived : (bare s).received = s.received := rfl
    rw [hreceived]
    cases s.received <;> rfl
  | poll queryOk markOk =>
    show bare (s.poll env queryOk markOk) = bare ((bare s).poll env queryOk markOk)
    unfold System.poll
    have hclock : ((bare s).clock < (bare s).nextPoll) = (s.clock < s.nextPoll) := rfl
    simp only [hclock]
    split <;> rfl
  | _ => rfl

theorem daemon_bare (env : Dispatcher.Env) (s : System) (i : Input) :
    (step env s i).daemon = (step env (bare s) i).daemon := by
  show (bare (step env s i)).daemon = (bare (step env (bare s) i)).daemon
  rw [bare_step env s i]

theorem sentBy_bare (env : Dispatcher.Env) (s : System) (i : Input) :
    sentBy env (bare s) i = sentBy env s i := by
  rw [sentBy, sentBy, daemon_bare env s]
  rfl

theorem spawnedBy_bare (env : Dispatcher.Env) (s : System) (i : Input) :
    spawnedBy env (bare s) i = spawnedBy env s i := by
  rw [spawnedBy, spawnedBy, daemon_bare env s]
  rfl

/-- The inputs other than those of delivery tasks and of other streams. -/
def concernsStream (n : Nat) : Input → Bool
  | .read k _ => k = n
  | .wake _ => false
  | .answer _ _ => false
  | _ => true

/-- The inputs other than those of streams and of other delivery tasks. -/
def concernsTask (n : Nat) : Input → Bool
  | .wake k => k = n
  | .answer k _ => k = n
  | .read _ _ => false
  | _ => true

/-- Two states that are the same for one of the tasks of a pool. -/
structure Alike {τ : Type} (tasks : System → List τ) (n : Nat) (s t : System) : Prop where
  rest : bare s = bare t
  length : (tasks s).length = (tasks t).length
  get : (tasks s)[n]? = (tasks t)[n]?

variable {τ : Type} {tasks : System → List τ} {t : System} {i : Input}

/-- A step of both: the task does the same, and the same are born. -/
theorem Alike.both (h : Alike tasks n s t) (pool : Pool (step env) tasks)
    (hact : pool.act s i n = pool.act t i n) (hborn : pool.born s i = pool.born t i) :
    Alike tasks n (step env s i) (step env t i) where
  rest := by rw [bare_step env s, bare_step env t, h.rest]
  length := by rw [pool.length_step, pool.length_step, h.length, hborn]
  get := by rw [pool.getElem?_step_eq, pool.getElem?_step_eq, h.length, h.get, hact, hborn]

/-- A step of one only, in which the task does nothing and none is born. -/
theorem Alike.one (h : Alike tasks n s t) (pool : Pool (step env) tasks)
    (hrest : bare (step env s i) = bare s) (hact : pool.act s i n = id)
    (hborn : pool.born s i = []) : Alike tasks n (step env s i) t where
  rest := hrest.trans h.rest
  length := by
    rw [pool.length_step, hborn, h.length]
    rfl
  get := by
    rw [pool.getElem?_step_eq, hact, hborn, Option.map_id, ← h.get]
    split
    · rfl
    · rw [List.getElem?_nil, List.getElem?_eq_none (by omega)]

/-- Leaving out of a run what other streams and the delivery tasks do changes
nothing for the daemon, or for a stream; and so it is for a delivery task. -/
theorem bystanders (env : Dispatcher.Env) (s : System) (n : Nat) (is : List Input) :
    Alike System.streams n (run (step env) s is)
        (run (step env) s (is.filter (concernsStream n))) ∧
      Alike System.tasks n (run (step env) s is)
        (run (step env) s (is.filter (concernsTask n))) := by
  constructor
  · refine run_filter (fun s t i _ h => ?_) (fun s t i hi h => ?_) ⟨rfl, rfl, rfl⟩ is
    · have hsent : sentBy env s i = sentBy env t i := by
        rw [← sentBy_bare, h.rest, sentBy_bare]
      refine h.both (streamPool env) ?_ rfl
      show actStream env s i n = actStream env t i n
      funext c
      unfold actStream
      rw [hsent]
    · refine h.one (streamPool env) ?_ ?_ ?_
      · cases i <;> first | rfl | cases hi
      · funext c
        show actStream env s i n c = c
        cases i with
        | read k sendOk =>
          have hk : ¬ k = n := of_decide_eq_false hi
          exact if_neg fun e => hk e.symm
        | wake k =>
          have hnone : sentBy env s (.wake k) = [] := List.drop_length
          show ((sentBy env s (.wake k)).map (text env)).foldl Stream.send c = c
          rw [hnone]
          rfl
        | answer k reply =>
          have hnone : sentBy env s (.answer k reply) = [] := List.drop_length
          show ((sentBy env s (.answer k reply)).map (text env)).foldl Stream.send c = c
          rw [hnone]
          rfl
        | _ => cases hi
      · cases i <;> first | rfl | cases hi
  · refine run_filter (fun s t i _ h => ?_) (fun s t i hi h => ?_) ⟨rfl, rfl, rfl⟩ is
    · have hclock : s.clock = t.clock := by
        show (bare s).clock = (bare t).clock
        rw [h.rest]
      have hspawned : spawnedBy env s i = spawnedBy env t i := by
        rw [← spawnedBy_bare, h.rest, spawnedBy_bare]
      refine h.both (taskPool env) ?_ ?_
      · show actTask env s i n = actTask env t i n
        funext d
        unfold actTask
        rw [hclock]
      · show (spawnedBy env s i).map _ = (spawnedBy env t i).map _
        rw [hspawned, hclock]
    · refine h.one (taskPool env) ?_ ?_ ?_
      · cases i <;> first | rfl | cases hi
      · funext d
        show actTask env s i n d = d
        cases i with
        | wake k =>
          have hk : ¬ k = n := of_decide_eq_false hi
          exact if_neg fun e => hk e.symm
        | answer k reply =>
          have hk : ¬ k = n := of_decide_eq_false hi
          exact if_neg fun e => hk e.symm
        | read k sendOk => rfl
        | _ => cases hi
      · show (spawnedBy env s i).map _ = []
        have hnone : spawnedBy env s i = [] := by
          cases i <;> first | exact List.drop_length | cases hi
        rw [hnone]
        rfl

end Mdkd.Proof.Service
