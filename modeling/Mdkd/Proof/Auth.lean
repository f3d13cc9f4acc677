import Mdkd.Framework.Base64
import Mdkd.Impl.Auth

/-!
# Access control

`Presents` is the header of Basic authentication with a user and a password.
`extractBasicPassword_eq_some` says that the password is all that is read of
it, `serve_read` and `serve_full` what each route answers for the password
read, and `access_exact` puts them together.
-/

namespace Mdkd.Proof.Auth

open Framework Mdkd.Auth

variable {ρ : Type}

/-- What the engine is relied on for: decoding inverts encoding, and only
decodes printable ASCII. -/
structure Lawful (base64 : Base64Engine) : Prop where
  decode_encode : ∀ bs, base64.decode (base64.encode bs) = some bs
  graphic : ∀ cs bs, base64.decode cs = some bs → cs.all Base64.isGraphic = true

/-- The request presents a user and a password. -/
structure Presents (base64 : Base64Engine) (req : Request) (user password : String) : Prop where
  no_colon : ':' ∉ user.toList
  header : ∃ encoded, req.headers.get .authorization = some (utf8 "Basic " ++ encoded) ∧
    base64.decode encoded = some (utf8 (user ++ ":" ++ password))

/-- The standard engine. -/
def standard : Base64Engine := ⟨Base64.encode, Base64.decode⟩

theorem lawful_standard : Lawful standard :=
  ⟨Base64.decode_encode, fun _ _ => Base64.isGraphic_of_decode⟩

/-! ## Reading the password -/

theorem toStr_eq_some {value : List UInt8} {s : String} :
    toStr value = some s ↔ value.all isVisible = true ∧ value = utf8 s := by
  rw [toStr, Option.ite_none_right_eq_some, fromUtf8_eq_some]

theorem isVisible_of_isGraphic {b : UInt8} (h : Base64.isGraphic b = true) :
    isVisible b = true := by
  unfold Base64.isGraphic at h
  unfold isVisible
  grind

/-- A header of printable ASCII after `Basic ` is read as text. -/
theorem toStr_basic {encoded : List UInt8} (h : encoded.all Base64.isGraphic = true) :
    ∃ s, encoded = utf8 s ∧ toStr (utf8 "Basic " ++ encoded) = some ("Basic " ++ s) := by
  have hv : encoded.all isVisible = true :=
    List.all_eq_true.2 fun b hb => isVisible_of_isGraphic (List.all_eq_true.1 h b hb)
  have hascii : ∀ b ∈ encoded, b.toNat < 128 := by
    intro b hb
    have hg := List.all_eq_true.1 h b hb
    simp only [Base64.isGraphic, Bool.decide_and, Bool.and_eq_true, decide_eq_true_eq,
      UInt8.lt_iff_toNat_lt] at hg
    have : (127 : UInt8).toNat = 127 := rfl
    omega
  obtain ⟨s, rfl⟩ := exists_utf8_of_ascii hascii
  refine ⟨s, rfl, toStr_eq_some.2 ⟨?_, (utf8_append _ _).symm⟩⟩
  rw [List.all_append, hv]
  decide

/-- The password read is the one presented. -/
theorem extractBasicPassword_eq_some {base64 : Base64Engine} (hb : Lawful base64) {req : Request}
    {password : String} :
    extractBasicPassword base64 req = some password ↔
      ∃ user, Presents base64 req user password := by
  constructor
  · intro h
    obtain ⟨value, hvalue, h⟩ := Option.bind_eq_some_iff.1 h
    obtain ⟨header, hheader, h⟩ := Option.bind_eq_some_iff.1 h
    obtain ⟨encoded, hencoded, h⟩ := Option.bind_eq_some_iff.1 h
    obtain ⟨decoded, hdecoded, h⟩ := Option.bind_eq_some_iff.1 h
    obtain ⟨credentials, hcredentials, h⟩ := Option.bind_eq_some_iff.1 h
    obtain ⟨⟨user, p⟩, hsplit, h⟩ := Option.bind_eq_some_iff.1 h
    obtain rfl : p = password := Option.some.inj h
    obtain ⟨hc, rfl⟩ := splitOnce_eq_some.1 hsplit
    obtain rfl := stripPrefix_eq_some.1 hencoded
    refine ⟨user, hc, utf8 encoded, ?_, ?_⟩
    · rw [hvalue, (toStr_eq_some.1 hheader).2, utf8_append]
    · rw [hdecoded, fromUtf8_eq_some.1 hcredentials]
      rfl
  · rintro ⟨user, hc, encoded, hvalue, hdecoded⟩
    obtain ⟨s, rfl, hheader⟩ := toStr_basic (hb.graphic _ _ hdecoded)
    have hprefix : stripPrefix "Basic " ("Basic " ++ s) = some s := stripPrefix_eq_some.2 rfl
    have hcredentials : fromUtf8 (utf8 (user ++ ":" ++ password)) = some (user ++ ":" ++ password) :=
      fromUtf8_eq_some.2 rfl
    have hsplit : splitOnce ':' (user ++ ":" ++ password) = some (user, password) :=
      splitOnce_eq_some.2 ⟨hc, rfl⟩
    simp only [extractBasicPassword, hvalue, hheader, hprefix, hdecoded, hcredentials, hsplit,
      Option.bind_eq_bind, Option.bind_some, Option.pure_def]

/-! ## The layers -/

theorem lookup_routes (handlers : Route → Request → ρ) (rs : List Route) (r : Route) :
    (routes handlers rs).lookup r =
      if r ∈ rs then some fun req => .handled (handlers r req) else none := by
  induction rs with
  | nil => rfl
  | cons r' rs ih =>
    show (((r', _) :: routes handlers rs : Router ρ).lookup r) = _
    by_cases h : r = r'
    · rw [h, List.lookup_cons_self, if_pos List.mem_cons_self]
    · rw [List.lookup_cons, beq_eq_false_iff_ne.2 h, ih]
      simp [h]

theorem lookup_layer (router : Router ρ) (middleware : Service ρ → Service ρ) (r : Route) :
    (router.layer middleware).lookup r = (router.lookup r).map middleware := by
  induction router with
  | nil => rfl
  | cons e router ih =>
    show (((e.1, middleware e.2) :: Router.layer router middleware : Router ρ).lookup r) = _
    rw [List.lookup_cons, List.lookup_cons, ih]
    cases r == e.1 <;> rfl

/-- The level a password gives access at. -/
def levelOf (httpAuth : HttpAuth) : Option String → Option AccessLevel
  | some pw =>
    if pw = httpAuth.fullPassword then some .full
    else if pw = httpAuth.readOnlyPassword then some .readOnly
    else none
  | none => none

theorem levelOf_eq_full {httpAuth : HttpAuth} {o : Option String} :
    levelOf httpAuth o = some .full ↔ o = some httpAuth.fullPassword := by
  cases o with
  | none => simp [levelOf]
  | some pw =>
    rw [levelOf, Option.some.injEq]
    split
    · rename_i h
      exact iff_of_true rfl h
    · rename_i h
      refine iff_of_false ?_ h
      split <;> simp

theorem levelOf_eq_readOnly {httpAuth : HttpAuth} {o : Option String} :
    levelOf httpAuth o = some .readOnly ↔
      o = some httpAuth.readOnlyPassword ∧ httpAuth.readOnlyPassword ≠ httpAuth.fullPassword := by
  cases o with
  | none => simp [levelOf]
  | some pw =>
    rw [levelOf, Option.some.injEq]
    by_cases hf : pw = httpAuth.fullPassword
    · rw [if_pos hf]
      refine iff_of_false (by simp) fun h => h.2 (h.1 ▸ hf)
    · rw [if_neg hf]
      by_cases hr : pw = httpAuth.readOnlyPassword
      · rw [if_pos hr]
        exact iff_of_true rfl ⟨hr, hr ▸ hf⟩
      · rw [if_neg hr]
        exact iff_of_false (by simp) fun h => hr h.1

section
variable {base64 : Base64Engine} {httpAuth : HttpAuth} {handlers : Route → Request → ρ}
  {req : Request}

/-- The outer middleware, by the level of the password read. -/
theorem authMiddleware_eq (next : Service ρ) :
    authMiddleware base64 httpAuth next req =
      match levelOf httpAuth (extractBasicPassword base64 req) with
      | some level => next { req with accessLevel := some level }
      | none => .refused unauthorized := by
  unfold authMiddleware levelOf
  cases extractBasicPassword base64 req with
  | none => rfl
  | some pw =>
    by_cases hf : pw = httpAuth.fullPassword
    · simp only [if_pos hf]
    · by_cases hr : pw = httpAuth.readOnlyPassword
      · simp only [if_neg hf, if_pos hr]
      · simp only [if_neg hf, if_neg hr]

/-- A read-only route runs its handler at either level. -/
theorem serve_read (h : req.route ∈ readOnlyRoutes) :
    (router base64 httpAuth handlers).serve req =
      match levelOf httpAuth (extractBasicPassword base64 req) with
      | some level => .handled (handlers req.route { req with accessLevel := some level })
      | none => .refused unauthorized := by
  have hl : (router base64 httpAuth handlers).lookup req.route =
      some (authMiddleware base64 httpAuth fun q => .handled (handlers req.route q)) := by
    rw [router, lookup_layer, List.lookup_append, lookup_routes, if_pos h]
    rfl
  rw [Router.serve, hl]
  exact authMiddleware_eq _

/-- A full-access route runs its handler at the full level only. -/
theorem serve_full (h : req.route ∈ fullRoutes) :
    (router base64 httpAuth handlers).serve req =
      match levelOf httpAuth (extractBasicPassword base64 req) with
      | some .full => .handled (handlers req.route { req with accessLevel := some .full })
      | some .readOnly => .refused forbidden
      | none => .refused unauthorized := by
  have hn : req.route ∉ readOnlyRoutes := by
    have hdis : ∀ r ∈ fullRoutes, r ∉ readOnlyRoutes := by decide
    exact hdis _ h
  have hl : (router base64 httpAuth handlers).lookup req.route =
      some (authMiddleware base64 httpAuth
        (requireFullAccess fun q => .handled (handlers req.route q))) := by
    rw [router, lookup_layer, List.lookup_append, lookup_routes, if_neg hn, Option.none_or,
      lookup_layer, lookup_routes, if_pos h]
    rfl
  rw [Router.serve, hl]
  refine (authMiddleware_eq _).trans ?_
  cases levelOf httpAuth (extractBasicPassword base64 req) with
  | none => rfl
  | some level => cases level <;> rfl

end

/-! ## Who is let in -/

/-- The status of a refusal. -/
def refusedWith : Response ρ → Option Nat
  | .handled _ => none
  | .refused r => some r.status

/-- The handler of the request's route ran. -/
def Ran (handlers : Route → Request → ρ) (req : Request) (response : Response ρ) : Prop :=
  ∃ level, response = .handled (handlers req.route { req with accessLevel := some level })

@[simp] theorem ran_handled (handlers : Route → Request → ρ) (req : Request)
    (level : AccessLevel) :
    Ran handlers req (.handled (handlers req.route { req with accessLevel := some level })) :=
  ⟨level, rfl⟩

@[simp] theorem not_ran_refused (handlers : Route → Request → ρ) (req : Request) (r : Refusal) :
    ¬ Ran handlers req (.refused r) := by
  rintro ⟨level, h⟩
  cases h

/-- The request presents one of the two passwords. -/
def Admitted (base64 : Base64Engine) (httpAuth : HttpAuth) (req : Request) : Prop :=
  ∃ user password, Presents base64 req user password ∧
    (password = httpAuth.fullPassword ∨ password = httpAuth.readOnlyPassword)

section
variable {base64 : Base64Engine} {httpAuth : HttpAuth} {req : Request}

theorem admitted_iff (hb : Lawful base64) :
    Admitted base64 httpAuth req ↔ levelOf httpAuth (extractBasicPassword base64 req) ≠ none := by
  have hlevel : ∀ o, levelOf httpAuth o ≠ none ↔
      o = some httpAuth.fullPassword ∨ o = some httpAuth.readOnlyPassword := by
    intro o
    have hor : levelOf httpAuth o ≠ none ↔
        levelOf httpAuth o = some .full ∨ levelOf httpAuth o = some .readOnly := by
      cases levelOf httpAuth o with
      | none => simp
      | some level => cases level <;> simp
    rw [hor, levelOf_eq_full, levelOf_eq_readOnly]
    by_cases he : httpAuth.readOnlyPassword = httpAuth.fullPassword
    · simp [he]
    · simp [he]
  rw [hlevel, extractBasicPassword_eq_some hb, extractBasicPassword_eq_some hb]
  constructor
  · rintro ⟨user, password, hp, rfl | rfl⟩
    · exact .inl ⟨user, hp⟩
    · exact .inr ⟨user, hp⟩
  · rintro (⟨user, hp⟩ | ⟨user, hp⟩)
    · exact ⟨user, _, hp, .inl rfl⟩
    · exact ⟨user, _, hp, .inr rfl⟩

theorem presents_full_iff (hb : Lawful base64) :
    (∃ user, Presents base64 req user httpAuth.fullPassword) ↔
      levelOf httpAuth (extractBasicPassword base64 req) = some .full := by
  rw [levelOf_eq_full, extractBasicPassword_eq_some hb]

theorem presents_readOnly_iff (hb : Lawful base64) :
    (∃ user, Presents base64 req user httpAuth.readOnlyPassword) ∧
        httpAuth.readOnlyPassword ≠ httpAuth.fullPassword ↔
      levelOf httpAuth (extractBasicPassword base64 req) = some .readOnly := by
  rw [levelOf_eq_readOnly, extractBasicPassword_eq_some hb]

/-- The password of an encoded user and password is read back. -/
theorem presents_encode (hb : Lawful base64) {user password : String} (hc : ':' ∉ user.toList)
    (h : req.headers.get .authorization =
      some (utf8 "Basic " ++ base64.encode (utf8 (user ++ ":" ++ password)))) :
    Presents base64 req user password :=
  ⟨hc, _, h, hb.decode_encode _⟩

/-- What a request is refused with depends on its route and password. -/
theorem refusedWith_congr {handlers : Route → Request → ρ} {req' : Request}
    (hr : req.route = req'.route)
    (hp : extractBasicPassword base64 req = extractBasicPassword base64 req') :
    refusedWith ((router base64 httpAuth handlers).serve req) =
      refusedWith ((router base64 httpAuth handlers).serve req') := by
  have hall : ∀ r, r ∈ readOnlyRoutes ∨ r ∈ fullRoutes := by
    intro r
    cases r <;> decide
  rcases hall req.route with h | h
  · rw [serve_read h, serve_read (hr ▸ h), hp]
    cases levelOf httpAuth (extractBasicPassword base64 req') <;> rfl
  · rw [serve_full h, serve_full (hr ▸ h), hp]
    cases levelOf httpAuth (extractBasicPassword base64 req') with
    | none => rfl
    | some level => cases level <;> rfl

end

/-- Access to the API, for every request and every two passwords:

* a full-access handler runs exactly for the full password; the read-only
  password is refused with 403, and everything else with 401;
* a read-only handler runs exactly for one of the two passwords, and everything
  else is refused with 401;
* the password read of an encoded user and password is that password, so what a
  request is refused with does not depend on the user. -/
theorem access_exact (base64 : Base64Engine) (hb : Lawful base64) (httpAuth : HttpAuth)
    (handlers : Route → Request → ρ) :
    (∀ req, req.route ∈ fullRoutes →
      (Ran handlers req ((router base64 httpAuth handlers).serve req) ↔
        ∃ user, Presents base64 req user httpAuth.fullPassword) ∧
      (refusedWith ((router base64 httpAuth handlers).serve req) = some 403 ↔
        (∃ user, Presents base64 req user httpAuth.readOnlyPassword) ∧
          httpAuth.readOnlyPassword ≠ httpAuth.fullPassword) ∧
      (refusedWith ((router base64 httpAuth handlers).serve req) = some 401 ↔
        ¬ Admitted base64 httpAuth req)) ∧
    (∀ req, req.route ∈ readOnlyRoutes →
      (Ran handlers req ((router base64 httpAuth handlers).serve req) ↔
        Admitted base64 httpAuth req) ∧
      (refusedWith ((router base64 httpAuth handlers).serve req) = some 401 ↔
        ¬ Admitted base64 httpAuth req)) ∧
    (∀ req user password, ':' ∉ user.toList →
      req.headers.get .authorization =
        some (utf8 "Basic " ++ base64.encode (utf8 (user ++ ":" ++ password))) →
      extractBasicPassword base64 req = some password) ∧
    ∀ req req' user user' password, req.route = req'.route →
      Presents base64 req user password → Presents base64 req' user' password →
      refusedWith ((router base64 httpAuth handlers).serve req) =
        refusedWith ((router base64 httpAuth handlers).serve req') := by
  refine ⟨fun req h => ?_, fun req h => ?_, fun req user password hc h => ?_, ?_⟩
  · rw [serve_full h, presents_full_iff hb, presents_readOnly_iff hb, admitted_iff hb]
    cases levelOf httpAuth (extractBasicPassword base64 req) with
    | none => simp [refusedWith, unauthorized]
    | some level => cases level <;> simp [refusedWith, forbidden]
  · rw [serve_read h, admitted_iff hb]
    cases levelOf httpAuth (extractBasicPassword base64 req) with
    | none => simp [refusedWith, unauthorized]
    | some level => simp [refusedWith]
  · exact (extractBasicPassword_eq_some hb).2 ⟨user, presents_encode hb hc h⟩
  · intro req req' user user' password hr hp hp'
    have h := (extractBasicPassword_eq_some hb).2 ⟨user, hp⟩
    have h' := (extractBasicPassword_eq_some hb).2 ⟨user', hp'⟩
    exact refusedWith_congr hr (h.trans h'.symm)

/-- With the standard engine. -/
theorem access_exact_sample :
    extractBasicPassword standard
      ⟨.pay, [(.authorization, utf8 "Basic " ++ Base64.encode (utf8 ("user" ++ ":" ++ "a:b")))],
        none⟩ = some "a:b" :=
  (access_exact standard lawful_standard ⟨"a:b", "ro"⟩ fun _ _ => ()).2.2.1 _ "user" "a:b"
    (by decide) rfl

end Mdkd.Proof.Auth
