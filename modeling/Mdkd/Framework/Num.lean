import Mathlib.Algebra.BigOperators.Group.List.Basic
import Mathlib.Algebra.GroupWithZero.Nat

/-!
# Machine integers

What a program with wrapping 64-bit arithmetic computes, stated on naturals:

* `mul_exact_iff`: a bare product is the product of the naturals exactly when
  that fits 64 bits;
* `checkedMul`, `saturatingAdd`, `saturatingSub`, `saturatingMul`: the
  operations that refuse or clamp instead, each with the natural it computes;
* `mulDivTrunc`: a product and a division in 128 bits, cut back to 64;
* `toNat_wrappingSum`: a sum without overflow checks;
* `sum_le_floors`: a sum against the sum of its summands rounded down;
* `sub_max_mono`, `le_mulDiv_iff`: what is left after a share and a floor, and a
  share against the whole;
* `toInt_toInt64`, `toInt_toInt64_of_le`: a value as a signed one, below `2⁶³`
  and from there on; `toInt64_le_iff` compares two.
-/

namespace Framework

/-- A bare product is exact, or it has wrapped. -/
theorem mul_exact_iff (a b : UInt64) :
    (a * b).toNat = a.toNat * b.toNat ↔ a.toNat * b.toNat < 2 ^ 64 := by
  rw [UInt64.toNat_mul]
  exact ⟨fun h => h ▸ Nat.mod_lt _ (by decide), Nat.mod_eq_of_lt⟩

theorem mul_wraps (a b : UInt64) : (a * b).toNat = a.toNat * b.toNat % 2 ^ 64 :=
  UInt64.toNat_mul a b

theorem eq_zero_iff_toNat {a : UInt64} : a = 0 ↔ a.toNat = 0 := by
  rw [← UInt64.toNat_inj, UInt64.toNat_zero]

/-! ## Operations that refuse or clamp -/

/-- `a.checked_mul(b)`. -/
def checkedMul (a b : UInt64) : Option UInt64 :=
  if a.toNat * b.toNat < 2 ^ 64 then some (a * b) else none

/-- A product `checkedMul` gives is the product of the naturals. -/
theorem checkedMul_eq_some {a b c : UInt64} :
    checkedMul a b = some c ↔ c.toNat = a.toNat * b.toNat := by
  unfold checkedMul
  split
  · rename_i h
    have e := (mul_exact_iff a b).2 h
    rw [Option.some.injEq, ← UInt64.toNat_inj, e, eq_comm]
  · rename_i h
    refine ⟨nofun, fun e => absurd c.toNat_lt ?_⟩
    rw [e]; exact h

/-- `a.saturating_add(b)`. -/
def saturatingAdd (a b : UInt64) : UInt64 := .ofNat (min (a.toNat + b.toNat) (2 ^ 64 - 1))

theorem toNat_saturatingAdd (a b : UInt64) :
    (saturatingAdd a b).toNat = min (a.toNat + b.toNat) (2 ^ 64 - 1) := by
  rw [saturatingAdd, UInt64.toNat_ofNat']
  exact Nat.mod_eq_of_lt (by omega)

/-- `a.saturating_sub(b)`. -/
def saturatingSub (a b : UInt64) : UInt64 := .ofNat (a.toNat - b.toNat)

theorem toNat_saturatingSub (a b : UInt64) : (saturatingSub a b).toNat = a.toNat - b.toNat := by
  have := a.toNat_lt
  rw [saturatingSub, UInt64.toNat_ofNat']
  exact Nat.mod_eq_of_lt (by omega)

/-- `a.saturating_mul(b)`. -/
def saturatingMul (a b : UInt64) : UInt64 := .ofNat (min (a.toNat * b.toNat) (2 ^ 64 - 1))

theorem toNat_saturatingMul (a b : UInt64) :
    (saturatingMul a b).toNat = min (a.toNat * b.toNat) (2 ^ 64 - 1) := by
  rw [saturatingMul, UInt64.toNat_ofNat']
  exact Nat.mod_eq_of_lt (by omega)

theorem toNat_max (a b : UInt64) : (max a b).toNat = max a.toNat b.toNat := by
  show (if a ≤ b then b else a).toNat = _
  split
  · rename_i h
    have hab : a.toNat ≤ b.toNat := UInt64.le_iff_toNat_le.1 h
    omega
  · rename_i h
    have hba : ¬ a.toNat ≤ b.toNat := fun hle => h (UInt64.le_iff_toNat_le.2 hle)
    omega

/-- `((a as u128) * (b as u128) / d) as u64`: the product of a 64-bit and a
16-bit value fits 128 bits, so only the last cast can lose anything. -/
def mulDivTrunc (a : UInt64) (b : UInt16) (d : Nat) : UInt64 := .ofNat (a.toNat * b.toNat / d)

theorem toNat_mulDivTrunc (a : UInt64) (b : UInt16) (d : Nat) :
    (mulDivTrunc a b d).toNat = a.toNat * b.toNat / d % 2 ^ 64 := UInt64.toNat_ofNat'

/-! ## Sums -/

theorem foldl_add_toNat (xs : List UInt64) (a : UInt64) :
    (xs.foldl (· + ·) a).toNat = (a.toNat + (xs.map UInt64.toNat).sum) % 2 ^ 64 := by
  induction xs generalizing a with
  | nil => simp
  | cons x xs ih =>
    rw [List.foldl_cons, ih, UInt64.toNat_add, List.map_cons, List.sum_cons]
    omega

/-- `Iterator::sum` on 64-bit values without overflow checks. -/
def wrappingSum (xs : List UInt64) : UInt64 := xs.foldl (· + ·) 0

/-- A wrapping sum is the sum of the naturals modulo `2⁶⁴`. -/
theorem toNat_wrappingSum (xs : List UInt64) :
    (wrappingSum xs).toNat = (xs.map UInt64.toNat).sum % 2 ^ 64 := by
  rw [wrappingSum, foldl_add_toNat, UInt64.toNat_zero, Nat.zero_add]

/-- Rounding each summand down loses less than one unit for each. -/
theorem sum_le_floors (xs : List Nat) {d : Nat} (hd : 0 < d) :
    xs.sum ≤ d * (xs.map (· / d)).sum + (d - 1) * xs.length := by
  induction xs with
  | nil => simp
  | cons x xs ih =>
    have hx := Nat.div_add_mod x d
    have hr := Nat.mod_lt x hd
    rw [List.sum_cons, List.map_cons, List.sum_cons, List.length_cons, Nat.mul_add, Nat.mul_add]
    omega

/-! ## Shares -/

/-- What is left of a value, once a share of it or a floor is taken off,
whichever is more, grows with the value. -/
theorem sub_max_mono {a b : Nat} (h : a ≤ b) (k c : Nat) {d : Nat} (hd : 0 < d) :
    a - max (a * k / d) c ≤ b - max (b * k / d) c := by
  by_cases hk : k ≤ d
  · -- The share grows by no more than the value.
    have hstep : b * k / d ≤ a * k / d + (b - a) := by
      have hb : b * k = a * k + (b - a) * k := by rw [← Nat.add_mul]; congr 1; omega
      have hle : b * k ≤ a * k + (b - a) * d := by
        rw [hb]
        exact Nat.add_le_add_left (Nat.mul_le_mul_left _ hk) _
      calc b * k / d ≤ (a * k + (b - a) * d) / d := Nat.div_le_div_right hle
        _ = a * k / d + (b - a) := Nat.add_mul_div_right _ _ hd
    omega
  · -- The share is the whole value, and more.
    have hall : a ≤ a * k / d := by
      rw [Nat.le_div_iff_mul_le hd]
      exact Nat.mul_le_mul_left _ (by omega)
    omega

/-- A share is the whole or more exactly when it is no proper share. -/
theorem le_mulDiv_iff {a k d : Nat} (hd : 0 < d) : a ≤ a * k / d ↔ a = 0 ∨ d ≤ k := by
  rw [Nat.le_div_iff_mul_le hd]
  by_cases ha : a = 0
  · simp [ha]
  · simp only [ha, false_or]
    exact Nat.mul_le_mul_left_iff (Nat.pos_of_ne_zero ha)

/-! ## Signed values -/

/-- A value that fits 63 bits is the same as a signed one. -/
theorem toInt_toInt64 {a : UInt64} (h : a.toNat < 2 ^ 63) : a.toInt64.toInt = a.toNat := by
  show a.toBitVec.toInt = _
  rw [BitVec.toInt_eq_toNat_of_lt (by show 2 * a.toNat < 2 ^ 64; omega)]
  rfl

/-- A value that does not is negative as a signed one. -/
theorem toInt_toInt64_of_le {a : UInt64} (h : 2 ^ 63 ≤ a.toNat) :
    a.toInt64.toInt = a.toNat - 2 ^ 64 := by
  have hn : ¬ 2 * a.toBitVec.toNat < 2 ^ 64 := by
    show ¬ 2 * a.toNat < 2 ^ 64
    omega
  show a.toBitVec.toInt = _
  rw [BitVec.toInt_eq_toNat_cond, if_neg hn]
  rfl

/-- As signed values, those from `2⁶³` on come before the others, and each half
is in its order. -/
theorem toInt64_le_iff (a b : UInt64) :
    a.toInt64 ≤ b.toInt64 ↔
      (a.toNat < 2 ^ 63 ↔ b.toNat < 2 ^ 63) ∧ a ≤ b ∨ 2 ^ 63 ≤ a.toNat ∧ b.toNat < 2 ^ 63 := by
  have ha := a.toNat_lt
  have hb := b.toNat_lt
  rw [Int64.le_iff_toInt_le, UInt64.le_iff_toNat_le]
  by_cases ha' : a.toNat < 2 ^ 63
  · rw [toInt_toInt64 ha']
    by_cases hb' : b.toNat < 2 ^ 63
    · rw [toInt_toInt64 hb']
      omega
    · rw [toInt_toInt64_of_le (by omega)]
      omega
  · rw [toInt_toInt64_of_le (by omega)]
    by_cases hb' : b.toNat < 2 ^ 63
    · rw [toInt_toInt64 hb']
      omega
    · rw [toInt_toInt64_of_le (by omega)]
      omega

end Framework
