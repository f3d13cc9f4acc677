import Mathlib.Logic.Basic

/-!
# Base64

The standard alphabet, with padding: three bytes are written as four
characters, and a shorter rest with one or two `=`. Decoding takes nothing
else. `decode_encode` is the round trip, and `isGraphic_of_decode` says that
what decodes is printable ASCII.
-/

namespace Framework.Base64

/-- The character of `n < 64`. -/
def char (n : Nat) : UInt8 :=
  if n < 26 then .ofNat (n + 65)
  else if n < 52 then .ofNat (n + 71)
  else if n < 62 then .ofNat (n - 4)
  else if n = 62 then 43
  else 47

/-- The value of a character. -/
def value (c : UInt8) : Option Nat :=
  if 65 ≤ c ∧ c ≤ 90 then some (c.toNat - 65)
  else if 97 ≤ c ∧ c ≤ 122 then some (c.toNat - 71)
  else if 48 ≤ c ∧ c ≤ 57 then some (c.toNat + 4)
  else if c = 43 then some 62
  else if c = 47 then some 63
  else none

/-- The padding, `=`. -/
def pad : UInt8 := 61

def encode : List UInt8 → List UInt8
  | [] => []
  | [a] => [char (a.toNat / 4), char (a.toNat % 4 * 16), pad, pad]
  | [a, b] =>
    let v := a.toNat * 256 + b.toNat
    [char (v / 1024), char (v / 16 % 64), char (v % 16 * 4), pad]
  | a :: b :: c :: bs =>
    let v := a.toNat * 65536 + b.toNat * 256 + c.toNat
    char (v / 262144) :: char (v / 4096 % 64) :: char (v / 64 % 64) :: char (v % 64) :: encode bs

/-- The bytes of four characters. -/
def decodeQuad (w x y z : UInt8) : Option (List UInt8) :=
  match value w, value x, value y, value z with
  | some w, some x, some y, some z =>
    let v := w * 262144 + x * 4096 + y * 64 + z
    some [.ofNat (v / 65536), .ofNat (v / 256 % 256), .ofNat (v % 256)]
  | _, _, _, _ => none

/-- The bytes of the last four characters, which may be padded: the bits the
padding stands for are zero. -/
def decodeLast (w x y z : UInt8) : Option (List UInt8) :=
  if z ≠ pad then decodeQuad w x y z
  else if y ≠ pad then
    match value w, value x, value y with
    | some w, some x, some y =>
      let v := w * 4096 + x * 64 + y
      if v % 4 = 0 then some [.ofNat (v / 1024), .ofNat (v / 4 % 256)] else none
    | _, _, _ => none
  else
    match value w, value x with
    | some w, some x =>
      let v := w * 64 + x
      if v % 16 = 0 then some [.ofNat (v / 16)] else none
    | _, _ => none

def decode : List UInt8 → Option (List UInt8)
  | [] => some []
  | w :: x :: y :: z :: cs =>
    if cs = [] then decodeLast w x y z
    else (decodeQuad w x y z).bind fun bs => (decode cs).map (bs ++ ·)
  | _ => none

theorem value_char : ∀ n < 64, value (char n) = some n := by decide

theorem char_ne_pad : ∀ n < 64, char n ≠ pad := by decide

/-! ## Round trip -/

theorem decodeQuad_char {v : Nat} (hv : v < 16777216) :
    decodeQuad (char (v / 262144)) (char (v / 4096 % 64)) (char (v / 64 % 64)) (char (v % 64)) =
      some [.ofNat (v / 65536), .ofNat (v / 256 % 256), .ofNat (v % 256)] := by
  have hw := value_char (v / 262144) (by omega)
  have hx := value_char (v / 4096 % 64) (by omega)
  have hy := value_char (v / 64 % 64) (by omega)
  have hz := value_char (v % 64) (by omega)
  have e : v / 262144 * 262144 + v / 4096 % 64 * 4096 + v / 64 % 64 * 64 + v % 64 = v := by omega
  simp only [decodeQuad, hw, hx, hy, hz, e]

theorem decodeLast_char₂ {v : Nat} (hv : v < 65536) :
    decodeLast (char (v / 1024)) (char (v / 16 % 64)) (char (v % 16 * 4)) pad =
      some [.ofNat (v / 256), .ofNat (v % 256)] := by
  have hw := value_char (v / 1024) (by omega)
  have hx := value_char (v / 16 % 64) (by omega)
  have hy := value_char (v % 16 * 4) (by omega)
  have hp := char_ne_pad (v % 16 * 4) (by omega)
  have e : v / 1024 * 4096 + v / 16 % 64 * 64 + v % 16 * 4 = v * 4 := by omega
  have e₁ : v * 4 / 1024 = v / 256 := by omega
  have e₂ : v * 4 / 4 % 256 = v % 256 := by omega
  have e₀ : v * 4 % 4 = 0 := by omega
  simp only [decodeLast, hp, hw, hx, hy, e, e₀, e₁, e₂, ne_eq, not_true_eq_false,
    not_false_eq_true, ↓reduceIte]

theorem decodeLast_char₁ {v : Nat} (hv : v < 256) :
    decodeLast (char (v / 4)) (char (v % 4 * 16)) pad pad = some [.ofNat v] := by
  have hw := value_char (v / 4) (by omega)
  have hx := value_char (v % 4 * 16) (by omega)
  have e : v / 4 * 64 + v % 4 * 16 = v * 16 := by omega
  have e₁ : v * 16 / 16 = v := by omega
  have e₀ : v * 16 % 16 = 0 := by omega
  simp only [decodeLast, hw, hx, e, e₀, e₁, ne_eq, not_true_eq_false, ↓reduceIte]

/-- Decoding gives back the bytes encoded. -/
theorem decode_encode (bs : List UInt8) : decode (encode bs) = some bs := by
  induction bs using encode.induct with
  | case1 => rfl
  | case2 a =>
    have ha := a.toNat_lt
    rw [encode, decode, if_pos rfl, decodeLast_char₁ ha, UInt8.ofNat_toNat]
  | case3 a b =>
    have ha := a.toNat_lt
    have hb := b.toNat_lt
    have e₁ : (a.toNat * 256 + b.toNat) / 256 = a.toNat := by omega
    have e₂ : (a.toNat * 256 + b.toNat) % 256 = b.toNat := by omega
    rw [encode, decode, if_pos rfl, decodeLast_char₂ (by omega), e₁, e₂, UInt8.ofNat_toNat,
      UInt8.ofNat_toNat]
  | case4 a b c bs ih =>
    have ha := a.toNat_lt
    have hb := b.toNat_lt
    have hc := c.toNat_lt
    have e₁ : (a.toNat * 65536 + b.toNat * 256 + c.toNat) / 65536 = a.toNat := by omega
    have e₂ : (a.toNat * 65536 + b.toNat * 256 + c.toNat) / 256 % 256 = b.toNat := by omega
    have e₃ : (a.toNat * 65536 + b.toNat * 256 + c.toNat) % 256 = c.toNat := by omega
    have hquad := decodeQuad_char (v := a.toNat * 65536 + b.toNat * 256 + c.toNat) (by omega)
    rw [e₁, e₂, e₃, UInt8.ofNat_toNat, UInt8.ofNat_toNat, UInt8.ofNat_toNat] at hquad
    rw [encode, decode, hquad, ih]
    split
    · rename_i hnil
      have hbs : bs = [] := by
        rw [hnil] at ih
        exact (Option.some.inj ih).symm
      have hp := char_ne_pad ((a.toNat * 65536 + b.toNat * 256 + c.toNat) % 64) (by omega)
      rw [decodeLast, if_pos hp, hquad, hbs]
    · rfl

/-! ## The alphabet -/

/-- A printable ASCII character that is no space. -/
def isGraphic (c : UInt8) : Bool := 33 ≤ c ∧ c < 127

theorem isGraphic_of_value {c : UInt8} {n : Nat} (h : value c = some n) : isGraphic c = true := by
  unfold value at h
  unfold isGraphic
  grind

theorem isGraphic_of_decodeQuad {w x y z : UInt8} {bs : List UInt8}
    (h : decodeQuad w x y z = some bs) : [w, x, y, z].all isGraphic = true := by
  unfold decodeQuad at h
  split at h
  · rename_i hw hx hy hz
    simp [isGraphic_of_value hw, isGraphic_of_value hx, isGraphic_of_value hy,
      isGraphic_of_value hz]
  · cases h

theorem isGraphic_of_decodeLast {w x y z : UInt8} {bs : List UInt8}
    (h : decodeLast w x y z = some bs) : [w, x, y, z].all isGraphic = true := by
  have hpad : isGraphic pad = true := rfl
  unfold decodeLast at h
  split at h
  · exact isGraphic_of_decodeQuad h
  rename_i hz
  rw [not_ne_iff.1 hz]
  split at h
  · split at h
    · rename_i hw hx hy
      simp [isGraphic_of_value hw, isGraphic_of_value hx, isGraphic_of_value hy, hpad]
    · cases h
  · rename_i hy
    rw [not_ne_iff.1 hy]
    split at h
    · rename_i hw hx
      simp [isGraphic_of_value hw, isGraphic_of_value hx, hpad]
    · cases h

/-- What decodes is printable. -/
theorem isGraphic_of_decode {cs bs : List UInt8} (h : decode cs = some bs) :
    cs.all isGraphic = true := by
  induction cs using decode.induct generalizing bs with
  | case1 => rfl
  | case2 w x y z =>
    rw [decode, if_pos rfl] at h
    exact isGraphic_of_decodeLast h
  | case3 w x y z cs hne ih =>
    rw [decode, if_neg hne] at h
    obtain ⟨quad, hq, h⟩ := Option.bind_eq_some_iff.1 h
    obtain ⟨rest, hr, -⟩ := Option.map_eq_some_iff.1 h
    show ([w, x, y, z] ++ cs).all isGraphic = true
    rw [List.all_append, isGraphic_of_decodeQuad hq, ih hr]
    rfl
  | case4 cs h₁ h₂ =>
    rw [decode] at h
    · cases h
    · exact h₁
    · exact h₂

end Framework.Base64
