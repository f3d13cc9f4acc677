import Mdkd.Framework.Pool
import Mdkd.Impl.Api
import Mdkd.Proof.Auth
import Mdkd.Proof.Checkout
import Mdkd.Proof.Money

/-!
# What the API lets its clients do

A task is let to its handler by the password its request presents (`run_cases`),
and a handler without full access makes no call and writes nothing
(`start_readOnly`). From these, over every run:

* `calls_authorized`: the calls into the node and to the platform are those that
  a request with the full password asks for;
* `unprivileged_harmless`: without the steps of the other requests, the run is
  the same to everyone else.
-/

namespace Mdkd.Proof.Api

open Framework Mdkd.Api Mdkd.Auth Mdkd.Client Mdkd.Invoices Mdkd.Onchain Mdkd.Pay Mdkd.Channels

variable {cfg : Config} {env : Env} {t : Task} {s : State}

/-! ## Handlers -/

theorem prefix_singleton {α : Type} {xs : List α} {a : α} (h : xs <+: [a]) :
    xs = [] ∨ xs = [a] := by
  rcases List.prefix_cons_iff.1 h with rfl | ⟨ys, rfl, hys⟩
  · exact .inl rfl
  · rw [List.prefix_nil.1 hys]
    exact .inr rfl

/-- The calls that a request asks for, of a handler that may be dropped between
two of them. -/
def Asks (env : Env) : Args → List NodeCall → Prop
  | .createInvoice req, cs =>
    ∃ result calls, Checkout.CheckoutOutcome env.invoice req result calls ∧
      cs <+: calls.map .checkout
  | .closeChannel req, cs =>
    cs = [] ∨ ∃ ch ∈ env.channels, fromHex 32 req.channelId = some ch.id ∧
      cs = [.close ⟨ch.userChannelId, ch.counterpartyNodeId⟩]
  | .sendToAddress req, cs =>
    cs = [] ∨ ∃ send : OnchainSend, env.onchain.parseAddress req.address = .ok send.address ∧
      send.amountSats = req.amountSat ∧ cs = [.onchain send]
  | .payInvoice req, cs =>
    cs = [] ∨ ∃ invoice, env.pay.bolt11FromStr (trim req.invoice) = .ok invoice ∧
      (cs = [.send (.bolt11Send invoice)] ∨ ∃ a, req.amountSat = some a ∧
        cs = [.send (.bolt11SendUsingAmount invoice (a * 1000))])
  | .pay req, cs => cs = [] ∨ ∃ send, Pay.OfTarget env.pay req send ∧ cs = [.send send]
  | _, cs => cs = []

/-- A handler that goes on after its calls makes no other. -/
theorem calls_bind_pure {χ χ' ε α β : Type} (f : χ → χ') (x : Act χ ε α) (g : α → β) :
    (x.mapCalls f >>= fun a => pure (g a)).calls = x.calls.map f := by
  show (Act.bind (x.mapCalls f) fun a => Act.lift (.ok (g a))).calls = _
  unfold Act.bind Act.mapCalls
  cases x.result with
  | error e => rfl
  | ok a => exact List.append_nil _

theorem result_bind_pure {χ χ' ε α β : Type} (f : χ → χ') (x : Act χ ε α) (g : α → β) :
    (x.mapCalls f >>= fun a => pure (g a)).result = x.result.map g := by
  show (Act.bind (x.mapCalls f) fun a => Act.lift (.ok (g a))).result = _
  unfold Act.bind Act.mapCalls
  cases x.result <;> rfl

theorem calls_handleCloseChannel (channels : List Channel)
    (closeChannel : ChannelClose → Except NodeError Unit) (req : CloseChannelRequest) :
    (handleCloseChannel channels closeChannel req).Holds fun _ cs =>
      cs = [] ∨ ∃ ch ∈ channels, fromHex 32 req.channelId = some ch.id ∧
        cs = [⟨ch.userChannelId, ch.counterpartyNodeId⟩] := by
  refine Act.holds_lift.2 ⟨fun _ _ => .inl rfl, fun target htarget => ?_⟩
  refine Act.holds_lift.2 ⟨fun _ _ => .inl rfl, fun ch hch => ?_⟩
  have hhex : fromHex 32 req.channelId = some target := by
    revert htarget
    cases fromHex 32 req.channelId with
    | none => exact fun h => by cases h
    | some bytes => exact fun h => congrArg some (Except.ok.inj h)
  have hfind : channels.find? (fun ch => ch.id = target) = some ch := by
    revert hch
    cases channels.find? (fun ch => ch.id = target) with
    | none => exact fun h => by cases h
    | some ch' => exact fun h => congrArg some (Except.ok.inj h)
  have hid : ch.id = target := by simpa using List.find?_some hfind
  exact .inr ⟨ch, List.mem_of_find?_eq_some hfind, by rw [hhex, hid], rfl⟩

theorem calls_sendToAddress (env : OnchainEnv) (req : SendToAddressRequest) :
    (Onchain.sendToAddress env req).Holds fun _ cs =>
      cs = [] ∨ ∃ send : OnchainSend, env.parseAddress req.address = .ok send.address ∧
        send.amountSats = req.amountSat ∧ cs = [send] := by
  refine Act.holds_lift.2 ⟨fun _ _ => .inl rfl, fun address haddress => ?_⟩
  refine Act.holds_lift.2 ⟨fun _ _ => .inl rfl, fun feeRate _ => ?_⟩
  exact .inr ⟨⟨address, req.amountSat, feeRate⟩, mapError_eq_ok.1 haddress, rfl, rfl⟩

theorem calls_handlePayInvoice (env : PayEnv) (req : PayInvoiceRequest) :
    (handlePayInvoice env req).calls = [] ∨ ∃ invoice,
      env.bolt11FromStr (trim req.invoice) = .ok invoice ∧
        ((handlePayInvoice env req).calls = [.bolt11Send invoice] ∨
          ∃ a, req.amountSat = some a ∧
            (handlePayInvoice env req).calls = [.bolt11SendUsingAmount invoice (a * 1000)]) := by
  cases hi : env.bolt11FromStr (trim req.invoice) with
  | error e =>
    have hnone : (handlePayInvoice env req).calls = [] := by
      rw [handlePayInvoice, hi]
      rfl
    exact .inl hnone
  | ok invoice =>
    rw [Money.calls_handlePayInvoice hi]
    unfold chooseSend
    cases req.amountSat with
    | none =>
      cases invoice.amountMilliSatoshis with
      | none => exact .inl rfl
      | some _ => exact .inr ⟨invoice, rfl, .inl rfl⟩
    | some a =>
      cases invoice.amountMilliSatoshis with
      | none => exact .inr ⟨invoice, rfl, .inr ⟨a, rfl, rfl⟩⟩
      | some v =>
        by_cases hv : v ≠ a * 1000
        · simp only [if_pos hv]
          exact .inl rfl
        · simp only [if_neg hv]
          exact .inr ⟨invoice, rfl, .inl rfl⟩

theorem calls_handlePay (env : PayEnv) (req : PayRequest) :
    (handlePay env req).calls = [] ∨
      ∃ send, Pay.OfTarget env req send ∧ (handlePay env req).calls = [send] := by
  have h : Pay.Outcome env req (handlePay env req).result (handlePay env req).calls :=
    Pay.handlePay_holds env req
  revert h
  generalize (handlePay env req).result = result
  generalize (handlePay env req).calls = calls
  intro h
  cases h with
  | unsent e => exact .inl rfl
  | failed hs _ => exact .inr ⟨_, hs, rfl⟩
  | sent hs _ _ => exact .inr ⟨_, hs, rfl⟩

/-- A handler makes the calls its request asks for. -/
theorem start_asks (env : Env) (args : Args) {cs : List NodeCall}
    (h : cs <+: (start env args).calls) : Asks env args cs := by
  cases args with
  | createInvoice req =>
    have hc : (start env (.createInvoice req)).calls =
        (checkoutFor env.invoice req).calls.map .checkout := calls_bind_pure _ _ _
    rw [hc] at h
    exact ⟨_, _, Checkout.checkoutFor_outcome env.invoice req, h⟩
  | closeChannel req =>
    have hc : (start env (.closeChannel req)).calls =
        (handleCloseChannel env.channels env.closeChannel req).calls.map .close :=
      calls_bind_pure _ _ _
    rw [hc] at h
    rcases calls_handleCloseChannel env.channels env.closeChannel req with
      hnil | ⟨ch, hch, hid, hone⟩
    · rw [hnil] at h
      exact .inl (List.prefix_nil.1 h)
    · rw [hone] at h
      exact (prefix_singleton h).imp_right fun hcs => ⟨ch, hch, hid, hcs⟩
  | sendToAddress req =>
    have hc : (start env (.sendToAddress req)).calls =
        (Onchain.sendToAddress env.onchain req).calls.map .onchain := calls_bind_pure _ _ _
    rw [hc] at h
    rcases calls_sendToAddress env.onchain req with hnil | ⟨send, ha, hamount, hone⟩
    · rw [hnil] at h
      exact .inl (List.prefix_nil.1 h)
    · rw [hone] at h
      exact (prefix_singleton h).imp_right fun hcs => ⟨send, ha, hamount, hcs⟩
  | payInvoice req =>
    have hc : (start env (.payInvoice req)).calls =
        (handlePayInvoice env.pay req).calls.map .send := calls_bind_pure _ _ _
    rw [hc] at h
    rcases calls_handlePayInvoice env.pay req with hnil | ⟨invoice, hi, hone | ⟨a, ha, hone⟩⟩
    · rw [hnil] at h
      exact .inl (List.prefix_nil.1 h)
    · rw [hone] at h
      exact (prefix_singleton h).imp_right fun hcs => ⟨invoice, hi, .inl hcs⟩
    · rw [hone] at h
      exact (prefix_singleton h).imp_right fun hcs => ⟨invoice, hi, .inr ⟨a, ha, hcs⟩⟩
  | pay req =>
    have hc : (start env (.pay req)).calls = (handlePay env.pay req).calls.map .send :=
      calls_bind_pure _ _ _
    rw [hc] at h
    rcases calls_handlePay env.pay req with hnil | ⟨send, hs, hone⟩
    · rw [hnil] at h
      exact .inl (List.prefix_nil.1 h)
    · rw [hone] at h
      exact (prefix_singleton h).imp_right fun hcs => ⟨send, hs, hcs⟩
  | _ => exact List.prefix_nil.1 h

/-- What a handler goes on to do. -/
def Leads (env : Env) : Args → Pending → Prop
  | .createInvoice req, p =>
    ∃ result, (checkoutFor env.invoice req).result = .ok result ∧ p = .record req result
  | .closeChannel _, p => p = .reply .closing
  | .sendToAddress req, p => ∃ txid, p = .recordSend req txid
  | .payInvoice _, p => ∃ r, p = .reply (.paidInvoice r)
  | .pay _, p => ∃ r, p = .reply (.paid r)
  | .listIncomingPayments params, p => p = .listIncomingPayments params
  | .getIncomingPayment paymentHash, p => p = .getIncomingPayment paymentHash
  | .listOutgoingPayments params, p => p = .listOutgoingPayments params
  | .getInfo, p => ∃ r, p = .reply (.info r)
  | .getBalance, p => ∃ r, p = .reply (.balance r)
  | .listChannels, p => ∃ rs, p = .reply (.channels rs)
  | .getOutgoingPayment _, p => ∃ r, p = .reply (.outgoing r)
  | .decodeInvoice _, p => ∃ r, p = .reply (.invoice r)
  | .decodeOffer _, p => ∃ r, p = .reply (.offer r)

theorem result_bind_eq_ok {χ α : Type} {f : χ → NodeCall} {x : Act χ AppError α}
    {g : α → Pending} {p : Pending}
    (h : (x.mapCalls f >>= fun a => pure (g a)).result = .ok p) :
    ∃ a, x.result = .ok a ∧ p = g a := by
  rw [result_bind_pure] at h
  cases hx : x.result with
  | error e =>
    rw [hx] at h
    cases h
  | ok a =>
    rw [hx] at h
    exact ⟨a, rfl, (Except.ok.inj h).symm⟩

theorem replied_eq_ok {α : Type} {f : α → Reply} {x : Except AppError α} {p : Pending}
    (h : (replied f x).result = .ok p) : ∃ a, p = .reply (f a) := by
  cases x with
  | error e => cases h
  | ok a => exact ⟨a, (Except.ok.inj h).symm⟩

theorem start_leads {env : Env} {args : Args} {p : Pending} (h : (start env args).result = .ok p) :
    Leads env args p := by
  cases args with
  | createInvoice req => exact result_bind_eq_ok h
  | closeChannel req =>
    obtain ⟨_, -, hp⟩ := result_bind_eq_ok h
    exact hp
  | sendToAddress req =>
    obtain ⟨txid, -, hp⟩ := result_bind_eq_ok h
    exact ⟨txid, hp⟩
  | payInvoice req =>
    obtain ⟨r, -, hp⟩ := result_bind_eq_ok h
    exact ⟨r, hp⟩
  | pay req =>
    obtain ⟨r, -, hp⟩ := result_bind_eq_ok h
    exact ⟨r, hp⟩
  | listIncomingPayments _ | getIncomingPayment _ | listOutgoingPayments _ =>
    exact (Except.ok.inj h).symm
  | _ => exact replied_eq_ok h

/-- Whether what is left to do writes to the store. -/
def writes : Pending → Bool
  | .record _ _ | .recordSend _ _ => true
  | _ => false

/-- A handler of a read-only route makes no call, and goes on to write nothing. -/
theorem start_readOnly (env : Env) {args : Args} (h : args.route ∈ readOnlyRoutes) :
    (start env args).calls = [] ∧ ∀ p, (start env args).result = .ok p → writes p = false := by
  refine ⟨?_, fun p hp => ?_⟩
  · cases args with
    | createInvoice _ | closeChannel _ | sendToAddress _ | payInvoice _ | pay _ =>
      simp [Args.route, readOnlyRoutes] at h
    | _ => rfl
  · have hleads := start_leads hp
    cases args with
    | createInvoice _ | closeChannel _ | sendToAddress _ | payInvoice _ | pay _ =>
      simp [Args.route, readOnlyRoutes] at h
    | listIncomingPayments _ | getIncomingPayment _ | listOutgoingPayments _ =>
      obtain rfl := hleads
      rfl
    | _ =>
      obtain ⟨_, rfl⟩ := hleads
      rfl

theorem finish_of_not_writes (env : Env) (store : InvoiceMetadataStore) {p : Pending}
    (h : writes p = false) : (Mdkd.Api.finish env store p).2 = store := by
  cases p with
  | record _ _ | recordSend _ _ => cases h
  | _ => rfl

/-! ## Tasks -/

/-- The request presents the full password. -/
def isFull (cfg : Config) (r : HttpRequest) : Bool :=
  Auth.levelOf cfg.httpAuth (extractBasicPassword cfg.base64 r.head) = some .full

/-- A request reaches its handler with the full password, or on a read-only
route. -/
theorem layers_cases (cfg : Config) (r : HttpRequest) :
    (∃ refusal, layers cfg r = .refused refusal) ∨
      layers cfg r = .handled r.args ∧ (isFull cfg r = true ∨ r.route ∈ readOnlyRoutes) := by
  have hall : ∀ route, route ∈ readOnlyRoutes ∨ route ∈ fullRoutes := by
    intro route
    cases route <;> decide
  rcases hall r.route with hr | hr
  · have hserve : r.head.route ∈ readOnlyRoutes := hr
    rw [layers, Auth.serve_read hserve]
    cases Auth.levelOf cfg.httpAuth (extractBasicPassword cfg.base64 r.head) with
    | none => exact .inl ⟨_, rfl⟩
    | some level => exact .inr ⟨rfl, .inr hr⟩
  · have hserve : r.head.route ∈ fullRoutes := hr
    rw [layers, Auth.serve_full hserve]
    cases hl : Auth.levelOf cfg.httpAuth (extractBasicPassword cfg.base64 r.head) with
    | none => exact .inl ⟨_, rfl⟩
    | some level =>
      cases level with
      | full => exact .inr ⟨rfl, .inl (decide_eq_true hl)⟩
      | readOnly => exact .inl ⟨_, rfl⟩

theorem run_of_not_arrived (h : t.stage ≠ .arrived) : t.run cfg env = (t, []) := by
  unfold Task.run
  split
  · rename_i ha
    exact absurd ha h
  · rfl

/-- A task is refused, or its handler fails or goes on. -/
theorem run_cases (cfg : Config) (env : Env) (h : t.stage = .arrived) :
    (∃ r, t.run cfg env = ({ t with stage := .answered (.refused r) }, [])) ∨
      ∃ args, t.request.args = .ok args ∧
        (isFull cfg t.request = true ∨ args.route ∈ readOnlyRoutes) ∧
        ((∃ e, (start env args).result = .error e ∧ t.run cfg env =
            ({ t with stage := .answered (.handled (.failed e)) }, (start env args).calls)) ∨
          ∃ p, (start env args).result = .ok p ∧
            t.run cfg env = ({ t with stage := .running p }, (start env args).calls)) := by
  unfold Task.run
  simp only [h]
  rcases layers_cases cfg t.request with ⟨r, hr⟩ | ⟨hr, hlevel⟩
  · rw [hr]
    exact .inl ⟨r, rfl⟩
  · rw [hr]
    cases hargs : t.request.args with
    | error r => exact .inl ⟨r, rfl⟩
    | ok args =>
      have hroute : args.route = t.request.route := t.request.matched args hargs
      refine .inr ⟨args, rfl, hroute ▸ hlevel, ?_⟩
      cases hres : (start env args).result with
      | error e => exact .inl ⟨e, rfl, by simp only [hres]⟩
      | ok p => exact .inr ⟨p, rfl, by simp only [hres]⟩

/-- What a step does to a task, and the calls the task makes in it. -/
def move (cfg : Config) (s : State) (i : Input) (n : Nat) (t : Task) : Task × List NodeCall :=
  match i with
  | .run k env => if n = k then t.run cfg env else (t, [])
  | .cut k env c => if n = k then t.cut cfg env c else (t, [])
  | .finish k env => if n = k then ((t.finish env s.daemon.store).1, []) else (t, [])
  | _ => (t, [])

/-- The tasks: one for each request. -/
def taskPool (cfg : Config) : Pool (step cfg) State.tasks where
  act s i n t := (move cfg s i n t).1
  born _ i :=
    match i with
    | .request r => [⟨r, .arrived⟩]
    | _ => []
  tasks_step s i := by
    have hite {n k : Nat} (x y : Task × List NodeCall) :
        (if n = k then x else y).1 = if n = k then x.1 else y.1 := apply_ite Prod.fst _ x y
    cases i with
    | request r => exact congrArg (· ++ _) (eq_mapIdx_id s.tasks)
    | run k env =>
      show s.tasks.modify k _ = s.tasks.mapIdx _ ++ []
      rw [modify_eq_mapIdx, List.append_nil]
      simp only [move, hite]
    | cut k env c =>
      show s.tasks.modify k _ = s.tasks.mapIdx _ ++ []
      rw [modify_eq_mapIdx, List.append_nil]
      simp only [move, hite]
    | finish k env =>
      show s.tasks.modify k _ = s.tasks.mapIdx _ ++ []
      rw [modify_eq_mapIdx, List.append_nil]
      simp only [move, hite]
    | _ =>
      show s.tasks = s.tasks.mapIdx _ ++ []
      rw [List.append_nil]
      exact eq_mapIdx_id s.tasks

/-- The calls a task has made. -/
def callsOf (s : State) (n : Nat) : List NodeCall :=
  s.calls.filterMap fun e => if e.1 = n then some e.2 else none

theorem filterMap_tagged (k n : Nat) (cs : List NodeCall) :
    (cs.map fun c => (k, c)).filterMap (fun e => if e.1 = n then some e.2 else none) =
      if k = n then cs else [] := by
  rw [List.filterMap_map]
  by_cases h : k = n
  · simp [h]
  · simp [h]

theorem callsOf_step (i : Input) {n : Nat} (h : s.tasks[n]? = some t) :
    callsOf (step cfg s i) n = callsOf s n ++ (move cfg s i n t).2 := by
  have hmade : (s.makes cfg i).filterMap (fun e => if e.1 = n then some e.2 else none) =
      (move cfg s i n t).2 := by
    cases i with
    | run k env =>
      rw [State.makes, filterMap_tagged]
      by_cases hk : k = n
      · rw [if_pos hk, move, if_pos hk.symm, hk, h]
        rfl
      · rw [if_neg hk, move, if_neg (Ne.symm hk)]
    | cut k env c =>
      rw [State.makes, filterMap_tagged]
      by_cases hk : k = n
      · rw [if_pos hk, move, if_pos hk.symm, hk, h]
        rfl
      · rw [if_neg hk, move, if_neg (Ne.symm hk)]
    | finish k env =>
      show [] = (if n = k then ((t.finish env s.daemon.store).1, []) else (t, [])).2
      split <;> rfl
    | _ => rfl
  show (s.calls ++ s.makes cfg i).filterMap _ = _
  rw [List.filterMap_append, hmade]
  rfl

theorem callsOf_step_of_none (i : Input) {n : Nat} (h : s.tasks[n]? = none) :
    callsOf (step cfg s i) n = callsOf s n := by
  have hmade : (s.makes cfg i).filterMap (fun e => if e.1 = n then some e.2 else none) = [] := by
    cases i with
    | run k env | cut k env c =>
      rw [State.makes, filterMap_tagged]
      by_cases hk : k = n
      · rw [if_pos hk, hk, h]
        rfl
      · exact if_neg hk
    | _ => rfl
  show (s.calls ++ s.makes cfg i).filterMap _ = _
  rw [List.filterMap_append, hmade, List.append_nil]
  rfl

/-! ## Calls -/

/-- The handler of a task runs in some surroundings. -/
def Serves (is : List Input) (n : Nat) (env : Env) : Prop :=
  .run n env ∈ is ∨ ∃ k, .cut n env k ∈ is

/-- A task has made no call before its handler runs, and later those that its
request asks for. -/
structure Account (cfg : Config) (serves : Env → Prop) (t : Task) (cs : List NodeCall) : Prop where
  arrived : t.stage = .arrived → cs = []
  asked : cs ≠ [] → isFull cfg t.request = true ∧ ∃ args env, t.request.args = .ok args ∧
    args.route ∈ fullRoutes ∧ serves env ∧ Asks env args cs

/-- The first calls of a handler. -/
theorem asked_of_run {serves : Env → Prop} (ha : t.stage = .arrived) (henv : serves env)
    {cs : List NodeCall} (hcs : cs <+: (t.run cfg env).2) (hne : cs ≠ []) :
    isFull cfg t.request = true ∧ ∃ args env, t.request.args = .ok args ∧
      args.route ∈ fullRoutes ∧ serves env ∧ Asks env args cs := by
  rcases run_cases cfg env ha with ⟨r, hr⟩ | ⟨args, hargs, hlevel, hrun⟩
  · rw [hr] at hcs
    exact absurd (List.prefix_nil.1 hcs) hne
  · have hcalls : (t.run cfg env).2 = (start env args).calls := by
      rcases hrun with ⟨e, -, hr⟩ | ⟨p, -, hr⟩ <;> rw [hr]
    rw [hcalls] at hcs
    have hroute : args.route ∉ readOnlyRoutes := by
      intro hread
      rw [(start_readOnly env hread).1] at hcs
      exact hne (List.prefix_nil.1 hcs)
    have hfull : args.route ∈ fullRoutes := by
      revert hroute
      cases args.route <;> decide
    exact ⟨hlevel.resolve_right hroute, args, env, hargs, hfull, henv, start_asks env args hcs⟩

theorem request_run (cfg : Config) (env : Env) (t : Task) :
    (t.run cfg env).1.request = t.request := by
  by_cases ha : t.stage = .arrived
  · rcases run_cases cfg env ha with ⟨r, hr⟩ | ⟨args, -, -, ⟨e, -, hr⟩ | ⟨p, -, hr⟩⟩ <;> rw [hr]
  · rw [run_of_not_arrived ha]

theorem request_cut (cfg : Config) (env : Env) (k : Nat) (t : Task) :
    (t.cut cfg env k).1.request = t.request := by
  unfold Task.cut
  split <;> rfl

theorem request_finish (env : Env) (store : InvoiceMetadataStore) (t : Task) :
    (t.finish env store).1.request = t.request := by
  unfold Task.finish
  split <;> rfl

/-- A task keeps its request. -/
theorem request_move (cfg : Config) (s : State) (i : Input) (n : Nat) (t : Task) :
    (move cfg s i n t).1.request = t.request := by
  unfold move
  split
  · split
    · exact request_run cfg _ t
    · rfl
  · split
    · exact request_cut cfg _ _ t
    · rfl
  · split
    · exact request_finish _ _ t
    · rfl
  · rfl

theorem stage_run_ne (cfg : Config) (env : Env) (t : Task) :
    (t.run cfg env).1.stage ≠ .arrived := by
  by_cases ha : t.stage = .arrived
  · rcases run_cases cfg env ha with ⟨r, hr⟩ | ⟨args, -, -, ⟨e, -, hr⟩ | ⟨p, -, hr⟩⟩ <;> rw [hr] <;>
      exact Stage.noConfusion
  · rw [run_of_not_arrived ha]
    exact ha

theorem account_move {serves : Env → Prop} {cs : List NodeCall} (h : Account cfg serves t cs)
    (s : State) {i : Input} {n : Nat}
    (hi : ∀ env, (i = .run n env ∨ ∃ k, i = .cut n env k) → serves env) :
    Account cfg serves (move cfg s i n t).1 (cs ++ (move cfg s i n t).2) := by
  have hsame : Account cfg serves t (cs ++ []) := by rwa [List.append_nil]
  cases i with
  | run k env =>
    rw [move]
    split
    · rename_i hk
      by_cases ha : t.stage = .arrived
      · rw [h.arrived ha, List.nil_append]
        refine ⟨fun hstage => absurd hstage (stage_run_ne cfg env t), fun hne => ?_⟩
        rw [request_run]
        exact asked_of_run ha (hi env (.inl (by rw [hk]))) List.prefix_rfl hne
      · rw [run_of_not_arrived ha]
        exact hsame
    · exact hsame
  | cut k env c =>
    rw [move]
    split
    · rename_i hk
      cases ha : t.stage with
      | arrived =>
        have hcut : t.cut cfg env c = ({ t with stage := .dropped }, (t.run cfg env).2.take c) := by
          unfold Task.cut
          rw [ha]
        rw [hcut, h.arrived ha, List.nil_append]
        refine ⟨fun hstage => (by cases hstage), fun hne => ?_⟩
        exact asked_of_run ha (hi env (.inr ⟨c, by rw [hk]⟩)) (List.take_prefix _ _) hne
      | running _ | answered _ | dropped =>
        have hcut : t.cut cfg env c = (t, []) := by
          unfold Task.cut
          rw [ha]
        rw [hcut]
        exact hsame
    · exact hsame
  | finish k env =>
    rw [move]
    split
    · unfold Task.finish
      split
      · refine ⟨fun hstage => (by cases hstage), fun hne => ?_⟩
        rw [List.append_nil] at hne ⊢
        exact h.asked hne
      · exact hsame
    · exact hsame
  | _ => exact hsame

/-- Every task's account is right, and no other task has made a call. -/
def Accounted (cfg : Config) (is : List Input) (s : State) : Prop :=
  ∀ n, (∀ t, s.tasks[n]? = some t → Account cfg (Serves is n) t (callsOf s n)) ∧
    (s.tasks[n]? = none → callsOf s n = [])

theorem accounted_step {is : List Input} (h : Accounted cfg is s) {i : Input} (hi : i ∈ is) :
    Accounted cfg is (step cfg s i) := by
  intro n
  cases hn : s.tasks[n]? with
  | some t =>
    have hafter := (taskPool cfg).getElem?_step i hn
    have hmoved : Account cfg (Serves is n) (move cfg s i n t).1 (callsOf (step cfg s i) n) := by
      rw [callsOf_step i hn]
      refine account_move ((h n).1 t hn) s fun env he => ?_
      rcases he with rfl | ⟨k, rfl⟩
      · exact .inl hi
      · exact .inr ⟨k, hi⟩
    refine ⟨fun t' ht' => ?_, fun hnone => ?_⟩
    · obtain rfl := Option.some.inj (hafter.symm.trans ht')
      exact hmoved
    · rw [hafter] at hnone
      cases hnone
  | none =>
    have hcalls : callsOf (step cfg s i) n = [] := by
      rw [callsOf_step_of_none i hn]
      exact (h n).2 hn
    rw [hcalls]
    exact ⟨fun t _ => ⟨fun _ => rfl, fun hne => absurd rfl hne⟩, fun _ => rfl⟩

theorem accounted_run (cfg : Config) (store : InvoiceMetadataStore) (is : List Input) :
    Accounted cfg is (run (step cfg) (.start store) is) := by
  have hstart : Accounted cfg is (.start store) := fun n =>
    ⟨fun t ht => by simp [State.start] at ht, fun _ => rfl⟩
  exact @invariant_run_of _ _ (Mdkd.Api.step cfg) _ (Accounted cfg is) (fun _ i => i ∈ is) hstart
    (fun s i hs hi => accounted_step hs hi) is fun p hp => input_mem hp

/-- Over every run: a task that has called the node or the platform is of a
request that presents the full password, and its calls are those its request
asks for, in the surroundings its handler ran in. -/
theorem calls_authorized (cfg : Config) (hb : Auth.Lawful cfg.base64) (store : InvoiceMetadataStore)
    (is : List Input) :
    let s := run (step cfg) (.start store) is
    ∀ n, callsOf s n ≠ [] → ∃ t args env, s.tasks[n]? = some t ∧
      (∃ user, Auth.Presents cfg.base64 t.request.head user cfg.httpAuth.fullPassword) ∧
      t.request.args = .ok args ∧ args.route ∈ fullRoutes ∧ Serves is n env ∧
      Asks env args (callsOf s n) := by
  intro s n hne
  obtain ⟨htask, hnone⟩ := accounted_run cfg store is n
  cases hn : s.tasks[n]? with
  | none => exact absurd (hnone hn) hne
  | some t =>
    obtain ⟨hfull, args, env, hargs, hroute, hserves, hasks⟩ := (htask t hn).asked hne
    exact ⟨t, args, env, rfl, (Auth.presents_full_iff hb).2 (of_decide_eq_true hfull), hargs,
      hroute, hserves, hasks⟩

/-- An address that the parser takes for a script. -/
def sampleAddress : String := "bc1qxxxx"

/-- Surroundings in which everything asked for succeeds. -/
def sampleEnv : Env where
  invoice :=
    { checkout :=
        { nodeId := "02aa"
          createCheckout := fun req => .ok ⟨"chk_1", "open", req.amount⟩
          receiveViaJitChannel := fun amountMsat _ _ =>
            .ok ⟨"lnbc1", amountMsat, Vector.replicate 32 7, some 1700003600, some 1⟩
          registerInvoice := fun req => .ok ⟨req.checkoutId, "open", none⟩
          toRfc3339 := fun _ => some "2023-11-14T23:13:20Z" }
      parseJson := .ok
      hexError := id
      now := 1700000000
      insertError := none }
  onchain :=
    { parseAddress := fun s => if s = sampleAddress then .ok ⟨[0, 20]⟩ else .error "invalid"
      fromSatPerVb := fun satPerVb => some ⟨satPerVb * 250⟩
      sendToAddress := fun _ => .ok (Vector.replicate 32 9)
      now := 1700000000
      insertOk := true }
  pay :=
    { parse := fun _ => .error (.other "invalid")
      fromMilliSats := some
      setAmount := fun _ _ => .error "invalid"
      bolt11FromStr := fun _ => .error "invalid"
      offerFromStr := fun _ => .error "invalid"
      send := fun _ => .error .insufficientFunds
      received := []
      payment := fun _ _ => none }
  estimate :=
    { fromMilliSats := some
      setAmount := fun _ _ => .error "invalid"
      bolt11FromStr := fun _ => .error "invalid"
      findRoute := fun _ => .error "no route" }
  spendableOnchainBalanceSats := 100000
  balanceChannels := []
  estimateChannels := []
  lspPubkey := ⟨Vector.replicate 33 2⟩
  maxSendable := .default
  nodeId := "02aa"
  network := .signet
  blockHeight := 800000
  channels := []
  closeChannel := fun _ => .ok ()
  parseInvoice := fun _ => .error "invalid"
  parseOffer := fun _ => .error "invalid"
  node := .empty
  now := 1700000000
  queryError := none
  sendsOk := true

def sampleConfig : Config := ⟨Auth.standard, ⟨"full", "ro"⟩⟩

def sampleHeaders (password : String) : HeaderMap :=
  [(.authorization, utf8 "Basic " ++ Base64.encode (utf8 (":" ++ password)))]

/-- A request with what the extractors of its route give. -/
def sampleRequest (password : String) (args : Args) : HttpRequest where
  route := args.route
  headers := sampleHeaders password
  args := .ok args
  matched := by
    intro a ha
    rw [Except.ok.inj ha]

def sampleSend : Args := .sendToAddress ⟨sampleAddress, 5000, none⟩

/-- The same send asked for with either password. -/
def sampleSends : List Input :=
  [.request (sampleRequest "ro" sampleSend), .request (sampleRequest "full" sampleSend),
    .run 0 sampleEnv, .run 1 sampleEnv, .finish 1 sampleEnv]

theorem calls_authorized_sample :
    let s := run (step sampleConfig) (.start .empty) sampleSends
    callsOf s 0 = [] ∧ callsOf s 1 = [.onchain ⟨⟨[0, 20]⟩, 5000, none⟩] ∧
      ∃ t user, s.tasks[1]? = some t ∧
        Auth.Presents Auth.standard t.request.head user "full" := by
  intro s
  have hne : callsOf s 1 ≠ [] := by decide +kernel
  obtain ⟨t, -, -, ht, ⟨user, hu⟩, -⟩ :=
    calls_authorized sampleConfig Auth.lawful_standard .empty sampleSends 1 hne
  exact ⟨by decide +kernel, by decide +kernel, t, user, ht, hu⟩

/-! ## Clients without the full password -/

/-- A task without the full password has nothing to write. -/
def Harmless (cfg : Config) (t : Task) : Prop :=
  isFull cfg t.request = false → ∀ p, t.stage = .running p → writes p = false

theorem harmless_run (cfg : Config) (env : Env) (ha : t.stage = .arrived)
    (hn : isFull cfg t.request = false) :
    (t.run cfg env).2 = [] ∧ ∀ p, (t.run cfg env).1.stage = .running p → writes p = false := by
  rcases run_cases cfg env ha with ⟨r, hr⟩ | ⟨args, -, hlevel, hrun⟩
  · rw [hr]
    exact ⟨rfl, fun p hp => (by cases hp)⟩
  · have hread : args.route ∈ readOnlyRoutes := hlevel.resolve_left (by rw [hn]; decide)
    obtain ⟨hcalls, hwrites⟩ := start_readOnly env hread
    rcases hrun with ⟨e, -, hr⟩ | ⟨p, hp, hr⟩
    · rw [hr]
      exact ⟨hcalls, fun p hp => (by cases hp)⟩
    · rw [hr]
      refine ⟨hcalls, fun p' hp' => ?_⟩
      obtain rfl := Stage.running.inj hp'
      exact hwrites p hp

theorem harmless_move (h : Harmless cfg t) (s : State) (i : Input) (n : Nat) :
    Harmless cfg (move cfg s i n t).1 := by
  intro hn p hp
  rw [request_move] at hn
  unfold move at hp
  split at hp
  · split at hp
    · by_cases ha : t.stage = .arrived
      · exact (harmless_run cfg _ ha hn).2 p hp
      · rw [run_of_not_arrived ha] at hp
        exact h hn p hp
    · exact h hn p hp
  · split at hp
    · unfold Task.cut at hp
      split at hp
      · cases hp
      · exact h hn p hp
    · exact h hn p hp
  · split at hp
    · unfold Task.finish at hp
      split at hp
      · cases hp
      · exact h hn p hp
    · exact h hn p hp
  · exact h hn p hp

/-- A step of a task without the full password calls nobody and writes nothing. -/
theorem quiet_move {i : Input} {n : Nat} (h : Harmless cfg t) (hn : isFull cfg t.request = false)
    (s : State) : (move cfg s i n t).2 = [] ∧
      ∀ env store, (t.finish env store).2 = store := by
  refine ⟨?_, fun env store => ?_⟩
  · have hrun (env : Env) : (t.run cfg env).2 = [] := by
      by_cases ha : t.stage = .arrived
      · exact (harmless_run cfg env ha hn).1
      · rw [run_of_not_arrived ha]
    unfold move
    split
    · split
      · exact hrun _
      · rfl
    · split
      · unfold Task.cut
        split
        · rw [hrun]
          exact List.take_nil
        · rfl
      · rfl
    · split <;> rfl
    · rfl
  · unfold Task.finish
    split
    · rename_i p hp
      exact finish_of_not_writes env store (h hn p hp)
    · rfl

/-- Whether a step is one of a task without the full password. -/
def privileged (cfg : Config) (s : State) : Input → Bool
  | .run n _ | .cut n _ _ | .finish n _ => s.tasks[n]?.all fun t => isFull cfg t.request
  | _ => true

/-- The tasks of one request, which are the same if it presents the full password. -/
def Alike (cfg : Config) (t t' : Task) : Prop :=
  t'.request = t.request ∧ (isFull cfg t.request = true → t' = t)

/-- Two states are the same but for the tasks without the full password. -/
structure Same (cfg : Config) (s s' : State) : Prop where
  daemon : s.daemon = s'.daemon
  calls : s.calls = s'.calls
  length : s.tasks.length = s'.tasks.length
  tasks : ∀ (n : Nat) (t : Task), s.tasks[n]? = some t →
    ∃ t', s'.tasks[n]? = some t' ∧ Alike cfg t t'
  harmless : ∀ t ∈ s.tasks, Harmless cfg t

section
variable {s' : State} {i : Input}

theorem Same.task_eq (h : Same cfg s s') {n : Nat}
    (hn : (s.tasks[n]?.all fun t => isFull cfg t.request) = true) :
    s'.tasks[n]? = s.tasks[n]? := by
  cases ht : s.tasks[n]? with
  | none =>
    have hlen : s'.tasks.length ≤ n := by
      rw [← h.length]
      exact List.getElem?_eq_none_iff.1 ht
    exact List.getElem?_eq_none_iff.2 hlen
  | some t =>
    rw [ht] at hn
    obtain ⟨t', ht', -, heq⟩ := h.tasks n t ht
    rw [ht', heq hn]

theorem harmless_step (h : ∀ t ∈ s.tasks, Harmless cfg t) (i : Input) :
    ∀ t ∈ (step cfg s i).tasks, Harmless cfg t := by
  refine (taskPool cfg).forall_step h (fun n t _ ht => harmless_move ht s i n) fun t ht => ?_
  cases i with
  | request r =>
    rw [List.mem_singleton.1 ht]
    exact fun _ p hp => (by cases hp)
  | _ => cases ht

/-- A step of others is the same in both. -/
theorem same_step (hp : privileged cfg s i = true) (h : Same cfg s s') :
    Same cfg (step cfg s i) (step cfg s' i) := by
  have hmove (n : Nat) (t : Task) : move cfg s i n t = move cfg s' i n t := by
    unfold move
    rw [h.daemon]
  have hmakes : s.makes cfg i = s'.makes cfg i := by
    cases i with
    | run n env => rw [State.makes, State.makes, h.task_eq hp]
    | cut n env k => rw [State.makes, State.makes, h.task_eq hp]
    | _ => rfl
  have hstore : s.storeAfter i = s'.storeAfter i := by
    cases i with
    | finish n env => rw [State.storeAfter, State.storeAfter, h.task_eq hp, h.daemon]
    | _ => exact congrArg Daemon.State.store h.daemon
  have hborn : (taskPool cfg).born s i = (taskPool cfg).born s' i := by
    cases i <;> rfl
  refine ⟨?_, ?_, ?_, fun n t ht => ?_, harmless_step h.harmless i⟩
  · unfold Mdkd.Api.step
    rw [hstore, h.daemon]
  · show s.calls ++ s.makes cfg i = s'.calls ++ s'.makes cfg i
    rw [h.calls, hmakes]
  · rw [(taskPool cfg).length_step, (taskPool cfg).length_step, h.length, hborn]
  · rw [(taskPool cfg).getElem?_step_eq] at ht ⊢
    rw [← h.length]
    by_cases hn : n < s.tasks.length
    · rw [if_pos hn] at ht ⊢
      obtain ⟨t₀, ht₀, rfl⟩ := Option.map_eq_some_iff.1 ht
      obtain ⟨t₁, ht₁, hreq, heq⟩ := h.tasks n t₀ ht₀
      refine ⟨_, by rw [ht₁]; rfl, ?_, fun hfull => ?_⟩
      · show (move cfg s' i n t₁).1.request = (move cfg s i n t₀).1.request
        rw [request_move, request_move, hreq]
      · have hfull₀ : isFull cfg t₀.request = true := by
          rw [← request_move cfg s i n t₀]
          exact hfull
        show (move cfg s' i n t₁).1 = (move cfg s i n t₀).1
        rw [heq hfull₀, hmove]
    · rw [if_neg hn] at ht ⊢
      rw [← hborn]
      exact ⟨t, ht, rfl, fun _ => rfl⟩

/-- A step of a task without the full password changes nothing else. -/
theorem same_of_unprivileged (hp : privileged cfg s i = false) (h : Same cfg s s') :
    Same cfg (step cfg s i) s' := by
  -- it is a step of one task
  obtain ⟨n, t, ht, hn, hother⟩ : ∃ (n : Nat) (t : Task), s.tasks[n]? = some t ∧
      isFull cfg t.request = false ∧ ((∃ env, i = .run n env) ∨ (∃ env k, i = .cut n env k) ∨
        ∃ env, i = .finish n env) := by
    have hsome {n : Nat} (hall : (s.tasks[n]?.all fun t => isFull cfg t.request) = false) :
        ∃ t, s.tasks[n]? = some t ∧ isFull cfg t.request = false := by
      cases ht : s.tasks[n]? with
      | none =>
        rw [ht] at hall
        cases hall
      | some t =>
        rw [ht] at hall
        exact ⟨t, rfl, hall⟩
    cases i with
    | run n env =>
      obtain ⟨t, ht, hn⟩ := hsome hp
      exact ⟨n, t, ht, hn, .inl ⟨env, rfl⟩⟩
    | cut n env k =>
      obtain ⟨t, ht, hn⟩ := hsome hp
      exact ⟨n, t, ht, hn, .inr (.inl ⟨env, k, rfl⟩)⟩
    | finish n env =>
      obtain ⟨t, ht, hn⟩ := hsome hp
      exact ⟨n, t, ht, hn, .inr (.inr ⟨env, rfl⟩)⟩
    | _ => cases hp
  have hharm : Harmless cfg t := h.harmless t (List.mem_of_getElem? ht)
  obtain ⟨hcalls, hstore⟩ := @quiet_move cfg t i n hharm hn s
  have hmakes : s.makes cfg i = [] := by
    rcases hother with ⟨env, rfl⟩ | ⟨env, k, rfl⟩ | ⟨env, rfl⟩
    · rw [move, if_pos rfl] at hcalls
      rw [State.makes, ht, Option.elim_some, hcalls]
      rfl
    · rw [move, if_pos rfl] at hcalls
      rw [State.makes, ht, Option.elim_some, hcalls]
      rfl
    · rfl
  have hdaemon : (step cfg s i).daemon = s.daemon := by
    rcases hother with ⟨env, rfl⟩ | ⟨env, k, rfl⟩ | ⟨env, rfl⟩
    · rfl
    · rfl
    · show { s.daemon with store := s.storeAfter (.finish n env) } = s.daemon
      rw [State.storeAfter, ht, Option.elim_some, hstore]
  have hborn : (taskPool cfg).born s i = [] := by
    rcases hother with ⟨env, rfl⟩ | ⟨env, k, rfl⟩ | ⟨env, rfl⟩ <;> rfl
  refine ⟨hdaemon.trans h.daemon, ?_, ?_, fun m t₁ hm => ?_, harmless_step h.harmless i⟩
  · show s.calls ++ s.makes cfg i = s'.calls
    rw [hmakes, List.append_nil, h.calls]
  · rw [(taskPool cfg).length_step, hborn, h.length]
    rfl
  · rw [(taskPool cfg).getElem?_step_eq, hborn] at hm
    by_cases hlt : m < s.tasks.length
    · rw [if_pos hlt] at hm
      obtain ⟨t₀, ht₀, rfl⟩ := Option.map_eq_some_iff.1 hm
      obtain ⟨t', ht', hreq, heq⟩ := h.tasks m t₀ ht₀
      refine ⟨t', ht', ?_, fun hfull => ?_⟩
      · show t'.request = (move cfg s i m t₀).1.request
        rw [request_move, hreq]
      · have hfull₀ : isFull cfg t₀.request = true := by
          rw [← request_move cfg s i m t₀]
          exact hfull
        have hne : m ≠ n := by
          rintro rfl
          obtain rfl := Option.some.inj (ht₀.symm.trans ht)
          rw [hn] at hfull₀
          cases hfull₀
        have hstay : move cfg s i m t₀ = (t₀, []) := by
          rcases hother with ⟨env, rfl⟩ | ⟨env, k, rfl⟩ | ⟨env, rfl⟩ <;> exact if_neg hne
        show t' = (move cfg s i m t₀).1
        rw [hstay]
        exact heq hfull₀
    · rw [if_neg hlt] at hm
      cases hm

end

/-- Over every run: without the steps of the tasks without the full password,
the daemon, the calls made and the tasks with it are the same. -/
theorem unprivileged_harmless (cfg : Config) (store : InvoiceMetadataStore) (is : List Input) :
    let s := run (step cfg) (.start store) is
    let s' := run (step cfg) (.start store) (kept (step cfg) (privileged cfg) (.start store) is)
    s.daemon = s'.daemon ∧ s.calls = s'.calls ∧
      ∀ (n : Nat) (t : Task), s.tasks[n]? = some t →
        ∃ t', s'.tasks[n]? = some t' ∧ t'.request = t.request ∧
          (isFull cfg t.request = true → t' = t) := by
  intro s s'
  have hstart : Same cfg (.start store) (.start store) :=
    ⟨rfl, rfl, rfl, fun n t ht => by simp [State.start] at ht, fun t ht => by cases ht⟩
  have h : Same cfg s s' :=
    @run_kept _ _ (step cfg) (Same cfg) (privileged cfg) (fun s t i hp h => same_step hp h)
      (fun s t i hp h => same_of_unprivileged hp h) _ _ hstart is
  exact ⟨h.daemon, h.calls, h.tasks⟩

end Mdkd.Proof.Api
