import Mdkd.Impl.Websocket
import Mdkd.Proof.Auth

/-!
# The passwords of the websocket

Basic authentication takes any text for a password; the websocket takes the
items of comma-separated lists, trimmed, in headers of visible ASCII.
`granted_iff` says what it grants, and `same_passwords` which of the passwords
of the one the other takes.
-/

namespace Mdkd.Proof.Websocket

open Framework Mdkd.Auth Mdkd.Websocket Proof.Auth

variable {base64 : Base64Engine} {httpAuth : HttpAuth} {p : String}

/-- One of the configured passwords. -/
def Configured (httpAuth : HttpAuth) (p : String) : Prop :=
  p = httpAuth.fullPassword ∨ p = httpAuth.readOnlyPassword

/-- Basic authentication passes a request with the password `p` on. -/
def AcceptedBasic (base64 : Base64Engine) (httpAuth : HttpAuth) (p : String) : Prop :=
  ∃ req, extractBasicPassword base64 req = some p ∧
    authMiddleware base64 httpAuth (fun _ => .handled ()) req = .handled ()

/-- The upgrade is granted. -/
def Granted (httpAuth : HttpAuth) (headers : HeaderMap) : Prop :=
  ∃ protocol, handler httpAuth headers = .ok protocol

/-- A request whose only header of the kind is `p`. -/
def protocolHeader (p : String) : HeaderMap := [(.secWebSocketProtocol, utf8 p)]

/-- The items of a comma-separated list, without white space around them. -/
def items (text : String) : List String := (split ',' text).map trim

/-- Text that `to_str` reads. -/
def Visible (p : String) : Prop := (utf8 p).all isVisible = true

/-- Text that is the only item of itself. -/
def Token (p : String) : Prop := ',' ∉ p.toList ∧ trim p = p

/-! ## Basic authentication -/

/-- It accepts the configured passwords, whatever they are. -/
theorem acceptedBasic_iff (hb : Lawful base64) :
    AcceptedBasic base64 httpAuth p ↔ Configured httpAuth p := by
  have hpass : ∀ req, extractBasicPassword base64 req = some p →
      (authMiddleware base64 httpAuth (fun _ => .handled ()) req = .handled () ↔
        Configured httpAuth p) := by
    intro req hp
    simp only [authMiddleware, hp]
    by_cases hf : p = httpAuth.fullPassword
    · rw [if_pos hf]
      exact iff_of_true rfl (.inl hf)
    · by_cases hr : p = httpAuth.readOnlyPassword
      · rw [if_neg hf, if_pos hr]
        exact iff_of_true rfl (.inr hr)
      · rw [if_neg hf, if_neg hr]
        refine iff_of_false nofun ?_
        rintro (h | h)
        · exact hf h
        · exact hr h
  constructor
  · rintro ⟨req, hp, hreq⟩
    exact (hpass req hp).1 hreq
  · intro hc
    let req : Request :=
      ⟨.getInfo, [(.authorization, utf8 "Basic " ++ base64.encode (utf8 ("" ++ ":" ++ p)))], none⟩
    have hpresents : Presents base64 req "" p := presents_encode hb List.not_mem_nil rfl
    have hp := (extractBasicPassword_eq_some hb).2 ⟨"", hpresents⟩
    exact ⟨req, hp, (hpass req hp).2 hc⟩

/-! ## The websocket -/

/-- An upgrade is granted for a protocol that is a password. -/
theorem granted_iff (headers : HeaderMap) :
    Granted httpAuth headers ↔ ∃ protocol ∈ protocols headers, Configured httpAuth protocol := by
  unfold Granted handler
  cases hfind : (protocols headers).find? fun p =>
      p = httpAuth.fullPassword || p = httpAuth.readOnlyPassword with
  | some protocol =>
    have hmem := List.mem_of_find?_eq_some hfind
    have hconf := List.find?_some hfind
    simp only [Bool.or_eq_true, decide_eq_true_eq] at hconf
    exact iff_of_true ⟨protocol, rfl⟩ ⟨protocol, hmem, hconf⟩
  | none =>
    refine iff_of_false nofun ?_
    rintro ⟨protocol, hmem, hconf⟩
    have hnone := List.find?_eq_none.1 hfind protocol hmem
    simp only [Bool.or_eq_true, decide_eq_true_eq] at hnone
    exact hnone hconf

theorem mem_protocols {headers : HeaderMap} {protocol : String} :
    protocol ∈ protocols headers ↔ ∃ value ∈ headers.getAll .secWebSocketProtocol,
      protocol ∈ items ((toStr value).getD "") := List.mem_flatMap

/-- A password is not empty, so a header that is not text offers none. -/
theorem exists_text_of_granted (hf : httpAuth.fullPassword ≠ "")
    (hr : httpAuth.readOnlyPassword ≠ "") {headers : HeaderMap} (h : Granted httpAuth headers) :
    ∃ value ∈ headers.getAll .secWebSocketProtocol, ∃ text, toStr value = some text ∧
      ∃ item ∈ items text, Configured httpAuth item := by
  obtain ⟨item, hitem, hconf⟩ := (granted_iff headers).1 h
  obtain ⟨value, hvalue, hitem⟩ := mem_protocols.1 hitem
  cases htext : toStr value with
  | some text =>
    rw [htext, Option.getD_some] at hitem
    exact ⟨value, hvalue, text, htext, item, hitem, hconf⟩
  | none =>
    have hempty : items ((none : Option String).getD "") = [""] := by decide
    rw [htext, hempty, List.mem_singleton] at hitem
    rw [hitem] at hconf
    rcases hconf with e | e
    · exact absurd e.symm hf
    · exact absurd e.symm hr

/-- With one header, an item of it has to be a password. -/
theorem granted_protocolHeader_iff (hf : httpAuth.fullPassword ≠ "")
    (hr : httpAuth.readOnlyPassword ≠ "") :
    Granted httpAuth (protocolHeader p) ↔
      Visible p ∧ ∃ item ∈ items p, Configured httpAuth item := by
  have hget : (protocolHeader p).getAll .secWebSocketProtocol = [utf8 p] := rfl
  constructor
  · intro h
    obtain ⟨value, hvalue, text, htext, item, hitem, hconf⟩ := exists_text_of_granted hf hr h
    rw [hget, List.mem_singleton] at hvalue
    obtain ⟨hvisible, htext⟩ := toStr_eq_some.1 htext
    rw [hvalue] at hvisible htext
    rw [← utf8_inj.1 htext] at hitem
    exact ⟨hvisible, item, hitem, hconf⟩
  · rintro ⟨hvisible, item, hitem, hconf⟩
    refine (granted_iff _).2 ⟨item, mem_protocols.2 ⟨utf8 p, ?_, ?_⟩, hconf⟩
    · rw [hget]
      exact List.mem_singleton.2 rfl
    · have htext : toStr (utf8 p) = some p := toStr_eq_some.2 ⟨hvisible, rfl⟩
      rw [htext, Option.getD_some]
      exact hitem

/-- A text is an item of itself exactly when it is a token. -/
theorem mem_items_self : p ∈ items p ↔ Token p := by
  constructor
  · intro h
    obtain ⟨part, hpart, e⟩ := List.mem_map.1 h
    have hcomma : ',' ∉ p.toList := by
      intro hc
      rw [← e] at hc
      exact not_mem_of_mem_split hpart (mem_of_mem_trim hc)
    rw [split_of_not_mem hcomma, List.mem_singleton] at hpart
    exact ⟨hcomma, hpart ▸ e⟩
  · rintro ⟨hcomma, htrim⟩
    rw [items, split_of_not_mem hcomma, List.map_singleton, htrim]
    exact List.mem_singleton.2 rfl

/-- A request with the password in its header is let in. -/
def TakesPasswords (base64 : Base64Engine) (httpAuth : HttpAuth) : Prop :=
  ∀ p, AcceptedBasic base64 httpAuth p → Granted httpAuth (protocolHeader p)

/-- The upgrade is granted only to a request with a header, or an item of one,
that is a password. -/
def GrantsPasswords (httpAuth : HttpAuth) : Prop :=
  ∀ headers, Granted httpAuth headers → ∃ value ∈ headers.getAll .secWebSocketProtocol,
    ∃ text, value = utf8 text ∧
      (Configured httpAuth text ∨ ∃ item ∈ items text, Configured httpAuth item)

/-- The websocket and Basic authentication, for two passwords that are not
empty:

* a password that Basic authentication accepts is accepted by the websocket
  exactly when it is visible ASCII and a token, or a list with the other
  password for an item;
* the websocket accepts nothing but a password, or a list with one. -/
theorem same_passwords (hb : Lawful base64) (httpAuth : HttpAuth)
    (hf : httpAuth.fullPassword ≠ "") (hr : httpAuth.readOnlyPassword ≠ "") :
    (∀ p, AcceptedBasic base64 httpAuth p → (Granted httpAuth (protocolHeader p) ↔
      Visible p ∧ (Token p ∨ ∃ item ∈ items p, item ≠ p ∧ Configured httpAuth item))) ∧
    GrantsPasswords httpAuth := by
  refine ⟨fun p hp => ?_, fun headers h => ?_⟩
  · have hconf := (acceptedBasic_iff hb).1 hp
    rw [granted_protocolHeader_iff hf hr, ← mem_items_self]
    refine and_congr_right fun _ => ?_
    constructor
    · rintro ⟨item, hitem, hc⟩
      by_cases e : item = p
      · exact .inl (e ▸ hitem)
      · exact .inr ⟨item, hitem, e, hc⟩
    · rintro (hitem | ⟨item, hitem, -, hc⟩)
      · exact ⟨p, hitem, hconf⟩
      · exact ⟨item, hitem, hc⟩
  · obtain ⟨value, hvalue, text, htext, item, hitem, hc⟩ := exists_text_of_granted hf hr h
    exact ⟨value, hvalue, text, (toStr_eq_some.1 htext).2, .inr ⟨item, hitem, hc⟩⟩

/-- A token that is visible ASCII is accepted by both. -/
theorem same_passwords_sample :
    AcceptedBasic standard ⟨"full_secret", "readonly_secret"⟩ "full_secret" ∧
      Granted ⟨"full_secret", "readonly_secret"⟩ (protocolHeader "full_secret") := by
  have hp : AcceptedBasic standard ⟨"full_secret", "readonly_secret"⟩ "full_secret" :=
    (acceptedBasic_iff lawful_standard).2 (.inl rfl)
  refine ⟨hp, ?_⟩
  have h := same_passwords lawful_standard ⟨"full_secret", "readonly_secret"⟩ (by decide)
    (by decide)
  have hvisible : Visible "full_secret" := by
    unfold Visible
    decide
  exact (h.1 "full_secret" hp).2 ⟨hvisible, .inl ⟨by decide, by decide⟩⟩

/-- A password with a comma is accepted by Basic authentication only. -/
theorem comma_password_refused : ¬ TakesPasswords standard ⟨"a,b", "readonly_secret"⟩ := by
  intro h
  have hp : AcceptedBasic standard ⟨"a,b", "readonly_secret"⟩ "a,b" :=
    (acceptedBasic_iff lawful_standard).2 (.inl rfl)
  obtain ⟨protocol, hok⟩ := h "a,b" hp
  have hrefused : handler ⟨"a,b", "readonly_secret"⟩ (protocolHeader "a,b") = .error 401 := by
    decide
  rw [hrefused] at hok
  cases hok

end Mdkd.Proof.Websocket
