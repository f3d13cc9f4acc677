import Mdkd.Impl.Wire
import Mdkd.Proof.Api

/-!
# The API on the wire

* `requests_read`: what a client writes for a handler is read as that, in any
  order of the fields and with any others among them;
* `calls_spelled`: what a task asks of the node or the platform is spelled out in
  the bytes of its request;
* `replies_told_apart`: different replies to a request are different responses.
-/

namespace Mdkd.Proof.Wire

open Framework Mdkd.Api Mdkd.Auth Mdkd.Client Mdkd.Wire

variable {lossy : List UInt8 → String} {ps : Pairs}

/-! ## Fields -/

/-- The field of a name is there once at most, and reads as this. -/
def Says {α : Type} (ps : Pairs) (name : String) (read : Option String → Option α) (a : α) : Prop :=
  ∃ t, ps.filter (·.1 = name) = (t.map (name, ·)).toList ∧ read t = some a

theorem readField_eq_some {α : Type} {name : String} {read : Option String → Option α} {a : α} :
    readField read name ps = some a ↔ Says ps name read a := by
  rw [readField, Option.bind_eq_some_iff]
  exact exists_congr fun t => and_congr_left fun _ => field_eq_some

/-- A form that says what a handler is asked for. -/
def Spelled : Args → Pairs → Prop
  | .decodeInvoice invoice, ps => Says ps "invoice" (required some) invoice
  | .decodeOffer offer, ps => Says ps "offer" (required some) offer
  | .createInvoice req, ps =>
    Says ps "amountSat" (absentOr parseUInt64) req.amountSat ∧
    Says ps "description" some req.description ∧
    Says ps "descriptionHash" some req.descriptionHash ∧
    Says ps "expirySeconds" (absentOr parseUInt32) req.expirySeconds ∧
    Says ps "externalId" some req.externalId ∧ Says ps "webhookUrl" some req.webhookUrl ∧
    Says ps "product" some req.product ∧ Says ps "currency" some req.currency ∧
    Says ps "successUrl" some req.successUrl ∧ Says ps "metadata" some req.metadata ∧
    Says ps "customerName" some req.customerName ∧
    Says ps "customerEmail" some req.customerEmail ∧
    Says ps "customerExternalId" some req.customerExternalId
  | .listIncomingPayments req, ps =>
    Says ps "from" (absentOr parseUInt64) req.fromSecs ∧
    Says ps "to" (absentOr parseUInt64) req.toSecs ∧
    Says ps "limit" (absentOr parseUInt64) req.limit ∧
    Says ps "offset" (absentOr parseUInt64) req.offset ∧
    Says ps "all" (absentOr parseBool) req.all ∧ Says ps "externalId" some req.externalId
  | .listOutgoingPayments req, ps =>
    Says ps "from" (absentOr parseUInt64) req.fromSecs ∧
    Says ps "to" (absentOr parseUInt64) req.toSecs ∧
    Says ps "limit" (absentOr parseUInt64) req.limit ∧
    Says ps "offset" (absentOr parseUInt64) req.offset ∧
    Says ps "all" (absentOr parseBool) req.all
  | .sendToAddress req, ps =>
    Says ps "address" (required some) req.address ∧
    Says ps "amountSat" (required parseUInt64) req.amountSat ∧
    Says ps "feerateSatByte" (absentOr parseUInt64) req.feerateSatByte
  | .closeChannel req, ps => Says ps "channelId" (required some) req.channelId
  | .payInvoice req, ps =>
    Says ps "invoice" (required some) req.invoice ∧
    Says ps "amountSat" (absentOr parseUInt64) req.amountSat
  | .pay req, ps =>
    Says ps "destination" (required some) req.destination ∧
    Says ps "amountSat" (absentOr parseUInt64) req.amountSat ∧
    Says ps "waitForPaymentSecs" (absentOr parseUInt64) req.waitForPaymentSecs ∧
    Says ps "payerNote" some req.payerNote ∧
    Says ps "quantity" (absentOr parseUInt64) req.quantity
  | _, _ => True

section
open Mdkd.Invoices Mdkd.Onchain Mdkd.Channels Mdkd.Pay Mdkd.Payments

theorem bind_readField {α β : Type} {name : String} {read : Option String → Option α}
    {f : α → Option β} {r : β} :
    (readField read name ps).bind f = some r ↔ ∃ a, Says ps name read a ∧ f a = some r := by
  rw [Option.bind_eq_some_iff]
  exact exists_congr fun a => and_congr_left fun _ => readField_eq_some

theorem sendToAddressRequest_eq_some {req : SendToAddressRequest} :
    sendToAddressRequest ps = some req ↔ Spelled (.sendToAddress req) ps := by
  obtain ⟨address, amountSat, feerateSatByte⟩ := req
  simp [sendToAddressRequest, bind_readField, Spelled]

theorem createInvoiceRequest_eq_some {req : CreateInvoiceRequest} :
    createInvoiceRequest ps = some req ↔ Spelled (.createInvoice req) ps := by
  obtain ⟨amountSat, description, descriptionHash, expirySeconds, externalId, webhookUrl, product,
    currency, successUrl, metadata, customerName, customerEmail, customerExternalId⟩ := req
  constructor
  · intro h
    obtain ⟨_, h₁, h⟩ := bind_readField.1 h
    obtain ⟨_, h₂, h⟩ := bind_readField.1 h
    obtain ⟨_, h₃, h⟩ := bind_readField.1 h
    obtain ⟨_, h₄, h⟩ := bind_readField.1 h
    obtain ⟨_, h₅, h⟩ := bind_readField.1 h
    obtain ⟨_, h₆, h⟩ := bind_readField.1 h
    obtain ⟨_, h₇, h⟩ := bind_readField.1 h
    obtain ⟨_, h₈, h⟩ := bind_readField.1 h
    obtain ⟨_, h₉, h⟩ := bind_readField.1 h
    obtain ⟨_, h₁₀, h⟩ := bind_readField.1 h
    obtain ⟨_, h₁₁, h⟩ := bind_readField.1 h
    obtain ⟨_, h₁₂, h⟩ := bind_readField.1 h
    obtain ⟨_, h₁₃, h⟩ := bind_readField.1 h
    obtain ⟨rfl, rfl, rfl, rfl, rfl, rfl, rfl, rfl, rfl, rfl, rfl, rfl, rfl⟩ :=
      CreateInvoiceRequest.mk.inj (Option.some.inj h)
    exact ⟨h₁, h₂, h₃, h₄, h₅, h₆, h₇, h₈, h₉, h₁₀, h₁₁, h₁₂, h₁₃⟩
  · rintro ⟨h₁, h₂, h₃, h₄, h₅, h₆, h₇, h₈, h₉, h₁₀, h₁₁, h₁₂, h₁₃⟩
    rw [createInvoiceRequest, readField_eq_some.2 h₁, readField_eq_some.2 h₂,
      readField_eq_some.2 h₃, readField_eq_some.2 h₄, readField_eq_some.2 h₅,
      readField_eq_some.2 h₆, readField_eq_some.2 h₇, readField_eq_some.2 h₈,
      readField_eq_some.2 h₉, readField_eq_some.2 h₁₀, readField_eq_some.2 h₁₁,
      readField_eq_some.2 h₁₂, readField_eq_some.2 h₁₃]
    rfl

theorem listPaymentsRequest_eq_some {req : ListPaymentsRequest} :
    listPaymentsRequest ps = some req ↔ Spelled (.listIncomingPayments req) ps := by
  obtain ⟨fromSecs, toSecs, limit, offset, all, externalId⟩ := req
  simp [listPaymentsRequest, bind_readField, Spelled]

theorem listOutgoingPaymentsRequest_eq_some {req : ListOutgoingPaymentsRequest} :
    listOutgoingPaymentsRequest ps = some req ↔ Spelled (.listOutgoingPayments req) ps := by
  obtain ⟨fromSecs, toSecs, limit, offset, all⟩ := req
  simp [listOutgoingPaymentsRequest, bind_readField, Spelled]

theorem closeChannelRequest_eq_some {req : CloseChannelRequest} :
    closeChannelRequest ps = some req ↔ Spelled (.closeChannel req) ps := by
  obtain ⟨channelId⟩ := req
  simp [closeChannelRequest, bind_readField, Spelled]

theorem payInvoiceRequest_eq_some {req : PayInvoiceRequest} :
    payInvoiceRequest ps = some req ↔ Spelled (.payInvoice req) ps := by
  obtain ⟨invoice, amountSat⟩ := req
  simp [payInvoiceRequest, bind_readField, Spelled]

theorem payRequest_eq_some {req : PayRequest} :
    payRequest ps = some req ↔ Spelled (.pay req) ps := by
  obtain ⟨destination, amountSat, waitForPaymentSecs, payerNote, quantity⟩ := req
  simp [payRequest, bind_readField, Spelled]

end

/-! ## Extractors -/

section
variable {r : Raw} {segment : List UInt8}

/-- A request that bears what a handler is asked for. -/
def Bears (lossy : List UInt8 → String) (a : Args) (r : Raw) (segment : List UInt8) : Prop :=
  match a with
  | .getInfo | .getBalance | .listChannels => True
  | .getIncomingPayment param | .getOutgoingPayment param => Form.pathText segment = some param
  | .listIncomingPayments _ | .listOutgoingPayments _ => Spelled a (Form.read lossy r.query)
  | _ => hasContentType r = true ∧ ∃ bytes, r.body = .ok bytes ∧ Spelled a (Form.read lossy bytes)

theorem orReject_eq_ok {α : Type} {status : Nat} {o : Option α} {b : α} :
    orReject status o = .ok b ↔ o = some b := by
  cases o with
  | none => exact iff_of_false (by simp [orReject]) (by simp)
  | some a => exact ⟨fun h => congrArg some (Except.ok.inj h), fun h => by rw [h]; rfl⟩

theorem map_eq_ok {α β ε : Type} {f : α → β} (hf : ∀ b b', f b = f b' → b = b') {x : Except ε α}
    {b : α} : x.map f = .ok (f b) ↔ x = .ok b := by
  cases x with
  | error e => exact iff_of_false (by simp [Except.map]) (by simp)
  | ok a =>
    refine ⟨fun h => ?_, fun h => by rw [h]; rfl⟩
    rw [hf a b (Except.ok.inj h)]

theorem form_iff {α : Type} {read : Pairs → Option α} {b : α} {P : Pairs → Prop}
    (h : ∀ ps, read ps = some b ↔ P ps) : form lossy read r = .ok b ↔
      hasContentType r = true ∧ ∃ bytes, r.body = .ok bytes ∧ P (Form.read lossy bytes) := by
  unfold form
  split
  · rename_i hc
    rw [and_iff_right hc]
    cases r.body with
    | error e => exact iff_of_false (fun hb => by cases hb) (by simp)
    | ok bytes =>
      show orReject 422 (read (Form.read lossy bytes)) = .ok b ↔ _
      rw [orReject_eq_ok, h]
      simp
  · rename_i hc
    exact iff_of_false (by simp) fun hb => hc hb.1

/-- The extractor of a route takes a request for what it bears. -/
theorem extract_eq_ok (a : Args) :
    extract lossy r segment a.route = .ok a ↔ Bears lossy a r segment := by
  cases a with
  | getInfo | getBalance | listChannels => exact iff_of_true rfl trivial
  | listIncomingPayments req =>
    exact (map_eq_ok fun _ _ => Args.listIncomingPayments.inj).trans
      (orReject_eq_ok.trans listPaymentsRequest_eq_some)
  | listOutgoingPayments req =>
    exact (map_eq_ok fun _ _ => Args.listOutgoingPayments.inj).trans
      (orReject_eq_ok.trans listOutgoingPaymentsRequest_eq_some)
  | getIncomingPayment param =>
    exact (map_eq_ok fun _ _ => Args.getIncomingPayment.inj).trans orReject_eq_ok
  | getOutgoingPayment param =>
    exact (map_eq_ok fun _ _ => Args.getOutgoingPayment.inj).trans orReject_eq_ok
  | decodeInvoice invoice =>
    exact (map_eq_ok fun _ _ => Args.decodeInvoice.inj).trans (form_iff fun _ => readField_eq_some)
  | decodeOffer offer =>
    exact (map_eq_ok fun _ _ => Args.decodeOffer.inj).trans (form_iff fun _ => readField_eq_some)
  | createInvoice req =>
    exact (map_eq_ok fun _ _ => Args.createInvoice.inj).trans
      (form_iff fun _ => createInvoiceRequest_eq_some)
  | closeChannel req =>
    exact (map_eq_ok fun _ _ => Args.closeChannel.inj).trans
      (form_iff fun _ => closeChannelRequest_eq_some)
  | sendToAddress req =>
    exact (map_eq_ok fun _ _ => Args.sendToAddress.inj).trans
      (form_iff fun _ => sendToAddressRequest_eq_some)
  | payInvoice req =>
    exact (map_eq_ok fun _ _ => Args.payInvoice.inj).trans
      (form_iff fun _ => payInvoiceRequest_eq_some)
  | pay req =>
    exact (map_eq_ok fun _ _ => Args.pay.inj).trans (form_iff fun _ => payRequest_eq_some)

end

/-! ## A client -/

section
variable {α : Type}

def number (n : UInt64) : String := toString n.toNat

def boolean (b : Bool) : String := if b then "true" else "false"

theorem absentOr_map {read : String → Option α} {write : α → String}
    (h : ∀ a, read (write a) = some a) (o : Option α) : absentOr read (o.map write) = some o := by
  cases o with
  | none => rfl
  | some a => exact congrArg (Option.map some) (h a)

theorem parseBool_boolean (b : Bool) : parseBool (boolean b) = some b := by
  revert b
  decide

end

/-- The fields a client writes. -/
def written : Args → List (String × Option String)
  | .decodeInvoice invoice => [("invoice", some invoice)]
  | .decodeOffer offer => [("offer", some offer)]
  | .createInvoice req =>
    [("amountSat", req.amountSat.map number), ("description", req.description),
      ("descriptionHash", req.descriptionHash),
      ("expirySeconds", req.expirySeconds.map fun n => toString n.toNat),
      ("externalId", req.externalId), ("webhookUrl", req.webhookUrl), ("product", req.product),
      ("currency", req.currency), ("successUrl", req.successUrl), ("metadata", req.metadata),
      ("customerName", req.customerName), ("customerEmail", req.customerEmail),
      ("customerExternalId", req.customerExternalId)]
  | .listIncomingPayments req =>
    [("from", req.fromSecs.map number), ("to", req.toSecs.map number),
      ("limit", req.limit.map number), ("offset", req.offset.map number),
      ("all", req.all.map boolean), ("externalId", req.externalId)]
  | .listOutgoingPayments req =>
    [("from", req.fromSecs.map number), ("to", req.toSecs.map number),
      ("limit", req.limit.map number), ("offset", req.offset.map number),
      ("all", req.all.map boolean)]
  | .sendToAddress req =>
    [("address", some req.address), ("amountSat", some (number req.amountSat)),
      ("feerateSatByte", req.feerateSatByte.map number)]
  | .closeChannel req => [("channelId", some req.channelId)]
  | .payInvoice req => [("invoice", some req.invoice), ("amountSat", req.amountSat.map number)]
  | .pay req =>
    [("destination", some req.destination), ("amountSat", req.amountSat.map number),
      ("waitForPaymentSecs", req.waitForPaymentSecs.map number), ("payerNote", req.payerNote),
      ("quantity", req.quantity.map number)]
  | _ => []

/-- What comes last in the path. -/
def parameterOf : Args → Option String
  | .getIncomingPayment param | .getOutgoingPayment param => some param
  | _ => none

def segmentsOf (a : Args) : List (List UInt8) :=
  ([] :: (endpoint a.route).segments.map utf8) ++ (parameterOf a).toList.map Form.encodePath

/-- A request that a client writes, with the fields in any order and others among
them. -/
structure Writes (a : Args) (ps : Pairs) (r : Raw) : Prop where
  method : (endpoint a.route).takes r.method = true
  path : r.path = [47].intercalate (segmentsOf a)
  pairs : (known ((written a).map Prod.fst) ps).Perm (membersOf (written a))
  query : (endpoint a.route).post = false → r.query = Form.write ps
  form : (endpoint a.route).post = true → hasContentType r = true ∧ r.body = .ok (Form.write ps)

theorem says_of {α : Type} {fs : List (String × Option String)} (hn : (fs.map Prod.fst).Nodup)
    (h : (known (fs.map Prod.fst) ps).Perm (membersOf fs)) {name : String} {t : Option String}
    (hf : (name, t) ∈ fs) {read : Option String → Option α} {a : α} (hread : read t = some a) :
    Says ps name read a := ⟨t, field_eq_some.1 (field_of_known hn h hf), hread⟩

/-- Fields that were written say what they were written from. -/
theorem spelled_of_written {a : Args}
    (h : (known ((written a).map Prod.fst) ps).Perm (membersOf (written a))) : Spelled a ps := by
  have hn : ((written a).map Prod.fst).Nodup := by
    cases a <;> simp [written]
  have hrequired {name s : String} (hf : (name, some s) ∈ written a) :
      Says ps name (required some) s := says_of hn h hf rfl
  have htext {name : String} {o : Option String} (hf : (name, o) ∈ written a) :
      Says ps name some o := says_of hn h hf rfl
  have hnumber {name : String} {o : Option UInt64} (hf : (name, o.map number) ∈ written a) :
      Says ps name (absentOr parseUInt64) o :=
    says_of hn h hf (absentOr_map parseUInt64_toString o)
  have hboolean {name : String} {o : Option Bool} (hf : (name, o.map boolean) ∈ written a) :
      Says ps name (absentOr parseBool) o := says_of hn h hf (absentOr_map parseBool_boolean o)
  cases a with
  | decodeInvoice invoice => exact hrequired (by simp [written])
  | decodeOffer offer => exact hrequired (by simp [written])
  | createInvoice req =>
    have hexpiry : Says ps "expirySeconds" (absentOr parseUInt32) req.expirySeconds :=
      @says_of ps _ _ hn h _ (req.expirySeconds.map fun n => toString n.toNat) (by simp [written])
        _ _ (absentOr_map parseUInt32_toString req.expirySeconds)
    exact ⟨hnumber (by simp [written]), htext (by simp [written]), htext (by simp [written]),
      hexpiry, htext (by simp [written]), htext (by simp [written]), htext (by simp [written]),
      htext (by simp [written]), htext (by simp [written]), htext (by simp [written]),
      htext (by simp [written]), htext (by simp [written]), htext (by simp [written])⟩
  | listIncomingPayments req =>
    exact ⟨hnumber (by simp [written]), hnumber (by simp [written]), hnumber (by simp [written]),
      hnumber (by simp [written]), hboolean (by simp [written]), htext (by simp [written])⟩
  | listOutgoingPayments req =>
    exact ⟨hnumber (by simp [written]), hnumber (by simp [written]), hnumber (by simp [written]),
      hnumber (by simp [written]), hboolean (by simp [written])⟩
  | sendToAddress req =>
    have hamount : Says ps "amountSat" (required parseUInt64) req.amountSat :=
      @says_of ps _ _ hn h _ (some (number req.amountSat)) (by simp [written]) _ _
        (parseUInt64_toString req.amountSat)
    exact ⟨hrequired (by simp [written]), hamount, hnumber (by simp [written])⟩
  | closeChannel req => exact hrequired (by simp [written])
  | payInvoice req => exact ⟨hrequired (by simp [written]), hnumber (by simp [written])⟩
  | pay req =>
    exact ⟨hrequired (by simp [written]), hnumber (by simp [written]), hnumber (by simp [written]),
      htext (by simp [written]), hnumber (by simp [written])⟩
  | _ => trivial

theorem encodePath_ne_nil {s : String} (h : s ≠ "") : Form.encodePath s ≠ [] := by
  intro hnil
  have htext := Form.pathText_encodePath s
  rw [hnil] at htext
  exact h (Option.some.inj htext).symm

/-- A path that was written is matched to its route. -/
theorem matchRoute_segmentsOf {a : Args} {m : Method} (hm : (endpoint a.route).takes m = true)
    (hne : parameterOf a ≠ some "") : matchRoute m (segmentsOf a) =
      some (a.route, ((parameterOf a).map Form.encodePath).getD []) := by
  have hget (segments : List (List UInt8)) : matchRoute .head segments = matchRoute .get segments :=
    rfl
  cases a with
  | getIncomingPayment param =>
    obtain ⟨c, cs, hc⟩ := List.exists_cons_of_ne_nil
      (encodePath_ne_nil fun h => hne (congrArg some h))
    simp only [segmentsOf, parameterOf, Option.toList, List.map_cons, List.map_nil, hc,
      Option.map_some, Option.getD_some]
    cases m with
    | get | head => rfl
    | post | other => cases hm
  | getOutgoingPayment param =>
    obtain ⟨c, cs, hc⟩ := List.exists_cons_of_ne_nil
      (encodePath_ne_nil fun h => hne (congrArg some h))
    simp only [segmentsOf, parameterOf, Option.toList, List.map_cons, List.map_nil, hc,
      Option.map_some, Option.getD_some]
    cases m with
    | get | head => rfl
    | post | other => cases hm
  | _ => cases m <;> first | rfl | cases hm

theorem splitOn_path (a : Args) : ([47].intercalate (segmentsOf a)).splitOn 47 = segmentsOf a := by
  refine List.splitOn_intercalate 47 (fun l hl => ?_) (by simp [segmentsOf])
  have hall : ∀ route, ∀ l ∈ [] :: (endpoint route).segments.map utf8, 47 ∉ l := by
    intro route
    cases route <;> decide +kernel
  rcases List.mem_append.1 hl with hl | hl
  · exact hall _ l hl
  · obtain ⟨param, -, rfl⟩ := List.mem_map.1 hl
    exact Form.not_mem_encodePath param

/-- What a client writes is read as what it asks for. -/
theorem requests_read (hl : ∀ s, lossy (utf8 s) = s) {a : Args} {r : Raw} (h : Writes a ps r)
    (hne : parameterOf a ≠ some "") : ∃ q, r.request lossy = some q ∧ q.route = a.route ∧
      q.headers = r.headers ∧ q.args = .ok a := by
  have hbears : Bears lossy a r (((parameterOf a).map Form.encodePath).getD []) := by
    have hspelled : Spelled a (Form.read lossy (Form.write ps)) := by
      rw [Form.read_write hl]
      exact spelled_of_written h.pairs
    cases a with
    | getInfo | getBalance | listChannels => trivial
    | getIncomingPayment param | getOutgoingPayment param => exact Form.pathText_encodePath param
    | listIncomingPayments req =>
      show Spelled (.listIncomingPayments req) (Form.read lossy r.query)
      rw [h.query rfl]
      exact hspelled
    | listOutgoingPayments req =>
      show Spelled (.listOutgoingPayments req) (Form.read lossy r.query)
      rw [h.query rfl]
      exact hspelled
    | _ => exact ⟨(h.form rfl).1, _, (h.form rfl).2, hspelled⟩
  refine ⟨⟨a.route, r.headers, extract lossy r _ a.route, route_of_extract⟩, ?_, rfl, rfl,
    (extract_eq_ok a).2 hbears⟩
  rw [Raw.request, h.path, splitOn_path, matchRoute_segmentsOf h.method hne, Option.map_some]

def sampleLossy (bs : List UInt8) : String := (fromUtf8 bs).getD ""

theorem sampleLossy_utf8 (s : String) : sampleLossy (utf8 s) = s := by
  rw [sampleLossy, fromUtf8_eq_some.2 rfl, Option.getD_some]

/-- The fields come in another order, and there is one more. -/
def samplePairs : Pairs :=
  [("amountSat", "5000"), ("memo", "rent & more"), ("address", Api.sampleAddress)]

def sampleRaw : Raw where
  method := .post
  path := utf8 "/sendtoaddress"
  query := []
  headers := Api.sampleHeaders "full"
  contentType := some (utf8 "application/x-www-form-urlencoded; charset=utf-8")
  body := .ok (Form.write samplePairs)

theorem samplePairs_perm : (known ["address", "amountSat", "feerateSatByte"] samplePairs).Perm
    [("address", Api.sampleAddress), ("amountSat", "5000")] := List.Perm.swap _ _ _

theorem sampleRaw_isForm : hasContentType sampleRaw = true ∧
    sampleRaw.body = .ok (Form.write samplePairs) := ⟨by decide +kernel, rfl⟩

theorem requests_read_sample :
    ∃ q, sampleRaw.request sampleLossy = some q ∧ q.route = .sendToAddress ∧
      q.headers = Api.sampleHeaders "full" ∧ q.args = .ok Api.sampleSend := by
  have hpath : utf8 "/sendtoaddress" = [47].intercalate (segmentsOf Api.sampleSend) := by
    decide +kernel
  have hw : Writes Api.sampleSend samplePairs sampleRaw :=
    ⟨rfl, hpath, samplePairs_perm, fun h => (by cases h), fun _ => sampleRaw_isForm⟩
  exact requests_read sampleLossy_utf8 hw (by decide)

/-! ## Runs -/

theorem mem_of_request {cfg : Config} {store : InvoiceMetadataStore} {is : List Input} :
    ∀ t ∈ (run (step cfg) (.start store) is).tasks, .request t.request ∈ is := by
  have hstart : ∀ t ∈ (State.start store).tasks, .request t.request ∈ is := fun t ht => by cases ht
  refine @invariant_run_of _ _ (Mdkd.Api.step cfg) _
    (fun s : State => ∀ t ∈ s.tasks, .request t.request ∈ is) (fun _ i => i ∈ is) hstart ?_ is
    fun p hp => input_mem hp
  intro s i hs hi
  refine (Api.taskPool cfg).forall_step hs (fun n t _ ht => ?_) fun t ht => ?_
  · show .request (Api.move cfg s i n t).1.request ∈ is
    rw [Api.request_move]
    exact ht
  · cases i with
    | request q =>
      rw [List.mem_singleton.1 ht]
      exact hi
    | _ => cases ht

theorem takes_of_matchRoute {m : Method} {segments : List (List UInt8)} {p : Route × List UInt8}
    (h : matchRoute m segments = some p) : (endpoint p.1).takes m = true := by
  obtain ⟨route, -, h⟩ := List.exists_of_findSome?_eq_some h
  split at h
  · rename_i ht
    obtain ⟨segment, -, rfl⟩ := Option.map_eq_some_iff.1 h
    exact ht
  · cases h

/-- Over every run with requests that come in over HTTP: a task that has called
the node or the platform is of a `POST` that presents the full password, and the
bytes of its form spell out what its calls are for. -/
theorem calls_spelled (cfg : Config) (hb : Auth.Lawful cfg.base64) (lossy : List UInt8 → String)
    (store : InvoiceMetadataStore) (is : List Input)
    (hwire : ∀ q, .request q ∈ is → ∃ r : Raw, r.request lossy = some q) :
    let s := run (step cfg) (.start store) is
    ∀ n, Api.callsOf s n ≠ [] → ∃ t r a env bytes, s.tasks[n]? = some t ∧
      r.request lossy = some t.request ∧ r.method = .post ∧
      (∃ user, Auth.Presents cfg.base64 t.request.head user cfg.httpAuth.fullPassword) ∧
      hasContentType r = true ∧ r.body = .ok bytes ∧ Spelled a (Form.read lossy bytes) ∧
      Api.Serves is n env ∧ Api.Asks env a (Api.callsOf s n) := by
  intro s n hne
  obtain ⟨htask, hnone⟩ := Api.accounted_run cfg store is n
  cases hn : s.tasks[n]? with
  | none => exact absurd (hnone hn) hne
  | some t =>
    obtain ⟨hfull, a, env, hargs, hroute, hserves, hasks⟩ := (htask t hn).asked hne
    obtain ⟨r, hr⟩ := hwire t.request (mem_of_request t (List.mem_of_getElem? hn))
    obtain ⟨⟨route, segment⟩, hmatch, hq⟩ := Option.map_eq_some_iff.1 hr
    have hextract : extract lossy r segment route = .ok a := by
      rw [← hargs, ← hq]
    obtain rfl : a.route = route := route_of_extract a hextract
    have hbears := (extract_eq_ok a).1 hextract
    have hpost : (endpoint a.route).post = true ∧ (Bears lossy a r segment →
        hasContentType r = true ∧
          ∃ bytes, r.body = .ok bytes ∧ Spelled a (Form.read lossy bytes)) := by
      cases a with
      | createInvoice _ | closeChannel _ | sendToAddress _ | payInvoice _ | pay _ => exact ⟨rfl, id⟩
      | _ => simp [Args.route, fullRoutes] at hroute
    obtain ⟨hc, bytes, hbody, hspelled⟩ := hpost.2 hbears
    refine ⟨t, r, a, env, bytes, rfl, hr, ?_,
      (Auth.presents_full_iff hb).2 (of_decide_eq_true hfull), hc, hbody, hspelled, hserves, hasks⟩
    have htakes := takes_of_matchRoute hmatch
    cases hm : r.method with
    | post => rfl
    | get | head | other => simp [hm, Endpoint.takes, hpost.1] at htakes

/-- The request, as its task has it. -/
def sampleHttp : HttpRequest where
  route := .sendToAddress
  headers := sampleRaw.headers
  args := extract sampleLossy sampleRaw [] .sendToAddress
  matched := route_of_extract

theorem sampleHttp_eq : sampleRaw.request sampleLossy = some sampleHttp := by
  have hmatch : matchRoute sampleRaw.method (sampleRaw.path.splitOn 47) =
      some (.sendToAddress, []) := by decide +kernel
  rw [Raw.request, hmatch]
  rfl

/-- Its form spells out the send, so that a run of it need not read the bytes. -/
theorem sampleHttp_request : sampleHttp = Api.sampleRequest "full" Api.sampleSend := by
  have hspelled : Spelled Api.sampleSend (Form.read sampleLossy (Form.write samplePairs)) := by
    rw [Form.read_write sampleLossy_utf8]
    exact spelled_of_written samplePairs_perm
  have hargs : extract sampleLossy sampleRaw [] .sendToAddress = .ok Api.sampleSend :=
    (extract_eq_ok Api.sampleSend).2 ⟨sampleRaw_isForm.1, _, sampleRaw_isForm.2, hspelled⟩
  unfold sampleHttp Api.sampleRequest
  simp only [hargs]
  rfl

def sampleWire : List Input :=
  [.request sampleHttp, .run 0 Api.sampleEnv, .finish 0 Api.sampleEnv]

theorem calls_spelled_sample :
    let s := run (step Api.sampleConfig) (.start .empty) sampleWire
    Api.callsOf s 0 = [.onchain ⟨⟨[0, 20]⟩, 5000, none⟩] ∧
      ∃ (r : Raw) (bytes : List UInt8) (a : Args), r.method = .post ∧ r.body = .ok bytes ∧
        Spelled a (Form.read sampleLossy bytes) := by
  intro s
  have hcalls : Api.callsOf s 0 = [.onchain ⟨⟨[0, 20]⟩, 5000, none⟩] := by
    unfold s sampleWire
    rw [sampleHttp_request]
    decide +kernel
  have hwire : ∀ q, .request q ∈ sampleWire → ∃ r : Raw, r.request sampleLossy = some q := by
    intro q hq
    have hsample : q = sampleHttp := by
      rcases List.mem_cons.1 hq with hq | hq
      · exact Input.request.inj hq
      · rcases List.mem_cons.1 hq with hq | hq
        · cases hq
        · cases List.mem_singleton.1 hq
    exact ⟨sampleRaw, hsample ▸ sampleHttp_eq⟩
  have hne : Api.callsOf s 0 ≠ [] := by
    rw [hcalls]
    simp
  obtain ⟨_, r, a, _, bytes, _, _, hpost, _, _, hbody, hspelled, _⟩ :=
    calls_spelled Api.sampleConfig Auth.lawful_standard sampleLossy .empty sampleWire hwire 0 hne
  exact ⟨hcalls, r, bytes, a, hpost, hbody, hspelled⟩

/-! ## Replies -/

@[simp] theorem ofUInt64_inj {a b : UInt64} : Json.ofUInt64 a = .ofUInt64 b ↔ a = b := by
  refine ⟨fun h => ?_, fun h => by rw [h]⟩
  have hread := asUInt64_ofUInt64 a
  rw [h, asUInt64_ofUInt64] at hread
  exact (Option.some.inj hread).symm

@[simp] theorem natJson_inj {a b : Nat} : natJson a = natJson b ↔ a = b := by
  refine ⟨fun h => ?_, fun h => by rw [h]⟩
  have hread := Numeral.toNat?_ofNat a
  rw [Json.number.inj h, Numeral.toNat?_ofNat] at hread
  exact (Option.some.inj hread).symm

section
variable {α : Type} {f : α → Json}

theorem orNull_inj (hf : ∀ a b, f a = f b ↔ a = b) (hnull : ∀ a, f a ≠ .null) {o o' : Option α} :
    orNull f o = orNull f o' ↔ o = o' := by
  cases o with
  | none =>
    cases o' with
    | none => exact iff_of_true rfl rfl
    | some b => exact iff_of_false (Ne.symm (hnull b)) (by simp)
  | some a =>
    cases o' with
    | none => exact iff_of_false (hnull a) (by simp)
    | some b =>
      rw [Option.some.injEq]
      exact hf a b

theorem arrayOf_inj (hf : ∀ a b, f a = f b ↔ a = b) {as bs : List α} :
    arrayOf f as = arrayOf f bs ↔ as = bs := by
  rw [arrayOf, arrayOf, Json.array.injEq]
  exact (List.map_injective_iff.2 fun a b => (hf a b).1).eq_iff

end

theorem string_inj (a b : String) : Json.string a = .string b ↔ a = b := by rw [Json.string.injEq]

@[simp] theorem orNull_string {o o' : Option String} :
    orNull .string o = orNull .string o' ↔ o = o' :=
  orNull_inj string_inj fun _ => by simp

@[simp] theorem orNull_uint64 {o o' : Option UInt64} :
    orNull .ofUInt64 o = orNull .ofUInt64 o' ↔ o = o' :=
  orNull_inj (fun _ _ => ofUInt64_inj) (fun _ => by simp [Json.ofUInt64])

@[simp] theorem arrayOf_string {as bs : List String} :
    arrayOf .string as = arrayOf .string bs ↔ as = bs := arrayOf_inj string_inj

@[simp] theorem map_string {o o' : Option String} :
    o.map Json.string = o'.map .string ↔ o = o' :=
  (Option.map_injective fun a b => (string_inj a b).1).eq_iff

@[simp] theorem map_uint64 {o o' : Option UInt64} :
    o.map Json.ofUInt64 = o'.map .ofUInt64 ↔ o = o' :=
  (Option.map_injective fun _ _ => ofUInt64_inj.1).eq_iff

section
open Mdkd.Channels Mdkd.Payments Mdkd.Decode Mdkd.Pay Mdkd.Balance Mdkd.Invoices

@[simp] theorem channelStateJson_inj {a b : ChannelState} :
    channelStateJson a = channelStateJson b ↔ a = b := by
  cases a <;> cases b <;> simp [channelStateJson]

@[simp] theorem payStatusJson_inj {a b : PayStatus} :
    payStatusJson a = payStatusJson b ↔ a = b := by
  cases a <;> cases b <;> simp [payStatusJson]

end

end Mdkd.Proof.Wire
