import Mdkd.Impl.Service
import Mdkd.Proof.Delivery
import Mdkd.Proof.Expiry

/-!
# The daemon at work: its tasks

A step of the whole is a step of the store and its notifications, or leaves
these alone (`daemon_step`); what it adds to them goes to the delivery tasks and
to the websocket streams (`taskPool`, `streamPool`). From these, over every run:
`deliveries_sound` on the requests made, and `deliveries_end` on when they end.
-/

namespace Mdkd.Proof.Service

open Framework Mdkd.Service Delivery

variable {env : Dispatcher.Env} {s : System}

/-! ## Steps of the daemon -/

theorem messages_notifyExpired (now : UInt64) (markOk : String → Bool) (s : Daemon.State)
    (m : InvoiceMetadata) : (Daemon.notifyExpired now markOk s m).messages = s.messages := by
  unfold Daemon.notifyExpired
  cases Daemon.expiredDelivery now m <;> rfl

theorem messages_foldl_notifyExpired (now : UInt64) (markOk : String → Bool)
    (ms : List InvoiceMetadata) (s : Daemon.State) :
    (ms.foldl (Daemon.notifyExpired now markOk) s).messages = s.messages := by
  induction ms generalizing s with
  | nil => rfl
  | cons m ms ih => rw [List.foldl_cons, ih, messages_notifyExpired]

/-- The expiry monitor sends no message. -/
theorem messages_pollExpired (now : UInt64) (queryOk : Bool) (markOk : String → Bool)
    (s : Daemon.State) : (Daemon.pollExpired now queryOk markOk s).messages = s.messages := by
  unfold Daemon.pollExpired
  split
  · rfl
  · exact messages_foldl_notifyExpired now markOk _ s

/-- The daemon only adds to its notifications. -/
theorem prefix_step (s : Daemon.State) (i : Daemon.Input) :
    s.messages <+: (Daemon.step s i).messages ∧ s.spawned <+: (Daemon.step s i).spawned := by
  cases i with
  | insert metadata ok => cases ok <;> exact ⟨List.prefix_rfl, List.prefix_rfl⟩
  | poll now queryOk markOk =>
    refine ⟨?_, ?_⟩
    · have hsame := messages_pollExpired now queryOk markOk s
      exact ⟨[], by rw [List.append_nil, ← hsame]; rfl⟩
    · cases queryOk with
      | false => exact List.prefix_rfl
      | true =>
        show s.spawned <+: (Daemon.pollExpired now true markOk s).spawned
        rw [Expiry.spawned_pollExpired]
        exact List.prefix_append _ _
  | event event now lookupOk markOk =>
    show s.messages <+: (Daemon.handleEvent now lookupOk markOk s event).messages ∧
      s.spawned <+: (Daemon.handleEvent now lookupOk markOk s event).spawned
    rcases Events.handleEvent_cases now lookupOk markOk s event with h | h
    · rw [h]
      exact ⟨List.prefix_rfl, List.prefix_rfl⟩
    · obtain ⟨paymentHash, sats, m, -, -, h⟩ := h
      rw [h]
      exact ⟨List.prefix_append _ _, List.prefix_append _ _⟩

/-- What a step has the daemon do. -/
def daemonInput (s : System) : Input → Option Daemon.Input
  | .recv lookupOk markOk =>
    s.received.map fun m => .event m.event s.secondsSinceEpoch lookupOk markOk
  | .insert metadata ok => some (.insert metadata ok)
  | .poll queryOk markOk =>
    if s.clock < s.nextPoll then none else some (.poll s.secondsSinceEpoch queryOk markOk)
  | _ => none

/-- The daemon after a step. -/
theorem daemon_step (env : Dispatcher.Env) (s : System) (i : Input) :
    (step env s i).daemon = (daemonInput s i).elim s.daemon (Daemon.step s.daemon) := by
  cases i with
  | recv lookupOk markOk =>
    show (s.recv env lookupOk markOk).daemon = (s.received.map _).elim _ _
    unfold System.recv
    cases s.received <;> rfl
  | poll queryOk markOk =>
    show (s.poll env queryOk markOk).daemon = (if s.clock < s.nextPoll then _ else _ : Option _).elim _ _
    unfold System.poll
    split <;> rfl
  | _ => rfl

/-- The deliveries a step spawns. -/
def spawnedBy (env : Dispatcher.Env) (s : System) (i : Input) : List Daemon.Delivery :=
  (step env s i).daemon.spawned.drop s.daemon.spawned.length

/-- The messages a step sends to the streams. -/
def sentBy (env : Dispatcher.Env) (s : System) (i : Input) : List Daemon.WebhookEvent :=
  (step env s i).daemon.messages.drop s.daemon.messages.length

theorem daemon_extends (env : Dispatcher.Env) (s : System) (i : Input) :
    s.daemon.messages <+: (step env s i).daemon.messages ∧
      s.daemon.spawned <+: (step env s i).daemon.spawned := by
  rw [daemon_step]
  cases daemonInput s i with
  | none => exact ⟨List.prefix_rfl, List.prefix_rfl⟩
  | some j => exact prefix_step s.daemon j

theorem spawned_step (env : Dispatcher.Env) (s : System) (i : Input) :
    (step env s i).daemon.spawned = s.daemon.spawned ++ spawnedBy env s i := by
  obtain ⟨ds, hds⟩ := (daemon_extends env s i).2
  rw [spawnedBy, ← hds, List.drop_left]

theorem messages_step (env : Dispatcher.Env) (s : System) (i : Input) :
    (step env s i).daemon.messages = s.daemon.messages ++ sentBy env s i := by
  obtain ⟨ms, hms⟩ := (daemon_extends env s i).1
  rw [sentBy, ← hms, List.drop_left]

/-! ## Tasks and streams -/

/-- What a step does to a delivery task. -/
def actTask (env : Dispatcher.Env) (s : System) (i : Input) (n : Nat) (t : Dispatcher.Task) :
    Dispatcher.Task :=
  match i with
  | .wake k => if n = k then t.wake env s.clock else t
  | .answer k reply => if n = k then t.answer s.clock reply else t
  | _ => t

/-- What a step does to a stream. -/
def actStream (env : Dispatcher.Env) (s : System) (i : Input) (n : Nat) (c : Websocket.Stream) :
    Websocket.Stream :=
  match i with
  | .read k sendOk => if n = k then c.turn sendOk else c
  | _ => ((sentBy env s i).map (text env)).foldl .send c

/-- The delivery tasks: those a step starts are of the deliveries it spawns. -/
def taskPool (env : Dispatcher.Env) : Pool (step env) System.tasks where
  act := actTask env
  born s i := (spawnedBy env s i).map (.spawn s.clock)
  tasks_step s i := by
    cases i with
    | wake k =>
      show s.tasks.modify k _ = _ ++ (s.daemon.spawned.drop _).map _
      rw [modify_eq_mapIdx, List.drop_length, List.map_nil, List.append_nil]
      rfl
    | answer k reply =>
      show s.tasks.modify k _ = _ ++ (s.daemon.spawned.drop _).map _
      rw [modify_eq_mapIdx, List.drop_length, List.map_nil, List.append_nil]
      rfl
    | insert metadata ok =>
      show s.tasks ++ _ = s.tasks.mapIdx (fun _ t => t) ++ _
      rw [← eq_mapIdx_id]
      rfl
    | recv lookupOk markOk =>
      show (s.recv env lookupOk markOk).tasks = s.tasks.mapIdx (fun _ t => t) ++
        ((s.recv env lookupOk markOk).daemon.spawned.drop _).map _
      rw [← eq_mapIdx_id]
      unfold System.recv
      cases s.received with
      | none => simp
      | some m => rfl
    | poll queryOk markOk =>
      show (s.poll env queryOk markOk).tasks = s.tasks.mapIdx (fun _ t => t) ++
        ((s.poll env queryOk markOk).daemon.spawned.drop _).map _
      rw [← eq_mapIdx_id]
      unfold System.poll
      split
      · simp
      · rfl
    | _ =>
      show s.tasks = s.tasks.mapIdx (fun _ t => t) ++ (s.daemon.spawned.drop _).map _
      rw [← eq_mapIdx_id, List.drop_length, List.map_nil, List.append_nil]

/-- The websocket streams. -/
def streamPool (env : Dispatcher.Env) : Pool (step env) System.streams where
  act := actStream env
  born _ i :=
    match i with
    | .connect => [.subscribe]
    | _ => []
  tasks_step s i := by
    cases i with
    | read k sendOk =>
      show s.streams.modify k _ = _ ++ []
      rw [modify_eq_mapIdx, List.append_nil]
      rfl
    | connect =>
      show s.streams ++ [.subscribe] = s.streams.mapIdx (fun _ c =>
        ((s.daemon.messages.drop _).map (text env)).foldl .send c) ++ [.subscribe]
      rw [List.drop_length]
      exact congrArg (· ++ _) (eq_mapIdx_id s.streams)
    | insert metadata ok =>
      rw [List.append_nil]
      exact map_eq_mapIdx s.streams _
    | recv lookupOk markOk =>
      show (s.recv env lookupOk markOk).streams = s.streams.mapIdx (fun _ c =>
        (((s.recv env lookupOk markOk).daemon.messages.drop _).map (text env)).foldl .send c) ++ []
      rw [← map_eq_mapIdx, List.append_nil]
      unfold System.recv
      cases s.received with
      | none => simp
      | some m => rfl
    | poll queryOk markOk =>
      show (s.poll env queryOk markOk).streams = s.streams.mapIdx (fun _ c =>
        (((s.poll env queryOk markOk).daemon.messages.drop _).map (text env)).foldl .send c) ++ []
      rw [← map_eq_mapIdx, List.append_nil]
      unfold System.poll
      split
      · simp
      · rfl
    | _ =>
      show s.streams = s.streams.mapIdx (fun _ c =>
        ((s.daemon.messages.drop _).map (text env)).foldl .send c) ++ []
      rw [List.drop_length, List.append_nil]
      exact eq_mapIdx_id s.streams

/-- Time passes in its own steps. -/
theorem clock_step (env : Dispatcher.Env) (s : System) (i : Input) :
    (step env s i).clock =
      match i with
      | .tick nanos => s.clock + nanos
      | _ => s.clock := by
  cases i with
  | recv lookupOk markOk =>
    show (s.recv env lookupOk markOk).clock = s.clock
    unfold System.recv
    cases s.received <;> rfl
  | poll queryOk markOk =>
    show (s.poll env queryOk markOk).clock = s.clock
    unfold System.poll
    split <;> rfl
  | _ => rfl

theorem clock_le_step (env : Dispatcher.Env) (s : System) (i : Input) :
    s.clock ≤ (step env s i).clock := by
  rw [clock_step]
  cases i with
  | tick nanos => exact Nat.le_add_right _ _
  | _ => exact Nat.le_refl _

/-! ## Deliveries -/

theorem delivery_wake (env : Dispatcher.Env) (now : Nat) (t : Dispatcher.Task) :
    (t.wake env now).delivery = t.delivery ∧ (t.wake env now).spawnedAt = t.spawnedAt := by
  unfold Dispatcher.Task.wake
  repeat' split
  all_goals exact ⟨rfl, rfl⟩

theorem delivery_answer (now : Nat) (reply : Dispatcher.Reply) (t : Dispatcher.Task) :
    (t.answer now reply).delivery = t.delivery ∧ (t.answer now reply).spawnedAt = t.spawnedAt := by
  unfold Dispatcher.Task.answer
  split <;> exact ⟨rfl, rfl⟩

/-- A task keeps its delivery. -/
theorem delivery_actTask (env : Dispatcher.Env) (s : System) (i : Input) (n : Nat)
    (t : Dispatcher.Task) : (actTask env s i n t).delivery = t.delivery ∧
      (actTask env s i n t).spawnedAt = t.spawnedAt := by
  unfold actTask
  split
  · split
    · exact delivery_wake env s.clock t
    · exact ⟨rfl, rfl⟩
  · split
    · exact delivery_answer s.clock _ t
    · exact ⟨rfl, rfl⟩
  · exact ⟨rfl, rfl⟩

/-- The tasks are of the deliveries spawned, in order, and each has the history
of one. -/
structure Delivering (env : Dispatcher.Env) (s : System) : Prop where
  delivery : s.tasks.map (·.delivery) = s.daemon.spawned
  history : ∀ t ∈ s.tasks, History env s.clock t

theorem Delivering.step (h : Delivering env s) (i : Input) : Delivering env (step env s i) where
  delivery := by
    have hact : (s.tasks.mapIdx (actTask env s i)).map (·.delivery) = s.tasks.map (·.delivery) := by
      refine List.ext_getElem? fun n => ?_
      rw [List.getElem?_map, List.getElem?_map, List.getElem?_mapIdx]
      cases s.tasks[n]? with
      | none => rfl
      | some t => exact congrArg some (delivery_actTask env s i n t).1
    rw [(taskPool env).tasks_step, List.map_append, spawned_step]
    show (s.tasks.mapIdx (actTask env s i)).map _ ++ ((spawnedBy env s i).map _).map _ = _
    rw [hact, h.delivery, List.map_map]
    exact congrArg (_ ++ ·) (List.map_id _)
  history := by
    refine (taskPool env).forall_step h.history (fun n t _ ht => ?_) fun t ht => ?_
    · have hact : History env s.clock (actTask env s i n t) := by
        unfold actTask
        split
        · split
          · exact ht.wake
          · exact ht
        · split
          · exact ht.answer _
          · exact ht
        · exact ht
      exact hact.mono (clock_le_step env s i)
    · obtain ⟨d, -, rfl⟩ := List.mem_map.1 ht
      exact (history_spawn env s.clock d).mono (clock_le_step env s i)

theorem delivering_start (env : Dispatcher.Env) (clock : Nat) (store : InvoiceMetadataStore) :
    Delivering env (.start clock store) := by
  refine ⟨rfl, fun t ht => ?_⟩
  cases ht

theorem delivering_run (env : Dispatcher.Env) (clock : Nat) (store : InvoiceMetadataStore)
    (is : List Input) : Delivering env (run (step env) (.start clock store) is) :=
  invariant_run (delivering_start env clock store) (fun _ i hs => hs.step i) is

/-- Over every run: each delivery spawned has its task, and what each task has
sent is as a delivery's requests are. -/
theorem deliveries_sound (env : Dispatcher.Env) (clock : Nat) (store : InvoiceMetadataStore)
    (is : List Input) :
    let s := run (step env) (.start clock store) is
    s.tasks.map (·.delivery) = s.daemon.spawned ∧ ∀ t ∈ s.tasks, Sound env t := by
  intro s
  have h : Delivering env s := delivering_run env clock store is
  exact ⟨h.delivery, fun t ht => (h.history t ht).sound⟩

/-! ## Time -/

/-- Time passes no further than to the next poll that is due, and to the next
step that is due of a delivery. -/
def OnTime (s : System) (i : Input) : Prop :=
  match i with
  | .tick nanos =>
    s.clock + nanos ≤ s.nextPoll ∧ ∀ t ∈ s.tasks, ∀ d ∈ due t, s.clock + nanos ≤ d
  | _ => True

instance (s : System) (i : Input) : Decidable (OnTime s i) := by
  unfold OnTime
  cases i <;> infer_instance

theorem punctual_step {i : Input} (h : ∀ t ∈ s.tasks, Punctual s.clock t) (hi : OnTime s i) :
    ∀ t ∈ (step env s i).tasks, Punctual (step env s i).clock t := by
  refine (taskPool env).forall_step h (fun n t hmem ht => ?_) fun t ht => ?_
  · rw [clock_step]
    show Punctual _ (actTask env s i n t)
    cases i with
    | tick nanos => exact ht.tick (hi.2 t hmem)
    | wake k =>
      show Punctual s.clock (if n = k then t.wake env s.clock else t)
      split
      · exact ht.wake
      · exact ht
    | answer k reply =>
      show Punctual s.clock (if n = k then t.answer s.clock reply else t)
      split
      · exact ht.answer reply
      · exact ht
    | _ => exact ht
  · obtain ⟨d, hd, rfl⟩ := List.mem_map.1 ht
    rw [clock_step]
    cases i with
    | tick nanos =>
      rw [spawnedBy, show (step env s (.tick nanos)).daemon = s.daemon from rfl,
        List.drop_length] at hd
      cases hd
    | _ => exact punctual_spawn s.clock d

/-- Where no step is late, a delivery has ended 66 s after it was spawned. -/
theorem deliveries_end (env : Dispatcher.Env) (clock : Nat) (store : InvoiceMetadataStore)
    (is : List Input)
    (h : ∀ p ∈ trace (step env) (.start clock store) is, OnTime p.1 p.2) :
    let s := run (step env) (.start clock store) is
    ∀ t ∈ s.tasks, t.spawnedAt + 66 * 10 ^ 9 < s.clock → Ended t := by
  intro s t ht hlate
  have hstart : ∀ t ∈ (System.start clock store).tasks,
      Punctual (System.start clock store).clock t := fun t ht => by cases ht
  have hp : ∀ t ∈ s.tasks, Punctual s.clock t :=
    @invariant_run_of _ _ (step env) _ (fun s => ∀ t ∈ s.tasks, Punctual s.clock t) OnTime hstart
      (fun s i hs hi => punctual_step hs hi) is h
  exact (hp t ht).ended hlate

/-- An invoice with a webhook that expires 20 s after it was recorded. -/
def sampleInvoice : InvoiceMetadata where
  paymentHash := "aa"
  externalId := some "order-7"
  webhookUrl := some "https://shop.example/hook"
  checkoutId := "chk_1"
  description := none
  invoice := none
  amountSat := some 1000
  createdAt := 1700000000
  expiresAt := 1700000020

def sampleEnv : Dispatcher.Env := ⟨Json.write, fun _ _ => Vector.replicate 32 0, []⟩

def sampleStart : System := .start (1700000000 * 10 ^ 9) .empty

/-- So many seconds pass. -/
def seconds (n : Nat) : Input := .tick (n * 10 ^ 9)

def pollAll : Input := .poll true fun _ => true

/-- The invoice expires, and its webhook answers 500 each time. -/
def sampleRun : List Input :=
  [.insert sampleInvoice true, seconds 30, pollAll, .wake 0, .answer 0 (.status 500), seconds 1,
    .wake 0, .answer 0 (.status 500), seconds 5, .wake 0, .answer 0 (.status 500), seconds 24,
    pollAll, seconds 6, .wake 0, seconds 24, pollAll, seconds 30]

theorem onTime_sampleRun : ∀ p ∈ trace (step sampleEnv) sampleStart sampleRun, OnTime p.1 p.2 := by
  decide +kernel

theorem deliveries_end_sample :
    let s := run (step sampleEnv) sampleStart sampleRun
    s.tasks.length = 1 ∧ ∀ t ∈ s.tasks, Ended t := by
  intro s
  have hlate : ∀ t ∈ s.tasks, t.spawnedAt + 66 * 10 ^ 9 < s.clock := by decide +kernel
  exact ⟨by decide +kernel,
    fun t ht => deliveries_end sampleEnv _ .empty sampleRun onTime_sampleRun t ht (hlate t ht)⟩

end Mdkd.Proof.Service
