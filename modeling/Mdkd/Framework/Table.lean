import Mdkd.Framework.Collections
import Mdkd.Framework.Num

/-!
# Tables with a primary key

Rows of distinct keys, in the order they were inserted, with the statements a
program runs on them: `find` by key, `insert`, and an update of the row of a
key. `find_insert` and `find_updateAt` are what a `find` reads after each, and
`insert_eq_none` when an insert fails. `page` is a query's `LIMIT` and `OFFSET`,
which are signed; `page_eq_iff` says when it is the page of unsigned ones.
-/

namespace Framework

/-- Rows of distinct keys, in the order they were inserted. -/
structure Table {ρ κ : Type*} (key : ρ → κ) where
  rows : List ρ
  nodup : (rows.map key).Nodup

namespace Table

variable {ρ κ : Type*} {key : ρ → κ} [DecidableEq κ]

/-- The table without rows. -/
def empty : Table key := ⟨[], List.nodup_nil⟩

/-- The row of a key. -/
def find (t : Table key) (k : κ) : Option ρ := t.rows.find? fun r => key r = k

theorem find_eq_some {t : Table key} {k : κ} {r : ρ} : t.find k = some r ↔ r ∈ t.rows ∧ key r = k :=
  find_key_iff t.nodup

/-- The rows of a key that satisfy `p`: at most one. -/
theorem countP_find (t : Table key) (p : ρ → Bool) (k : κ) :
    (t.rows.countP fun r => p r && decide (key r = k)) = if (t.find k).any p then 1 else 0 :=
  countP_key t.nodup p k

/-- A key has one row. -/
theorem eq_of_key_eq {t : Table key} {r r' : ρ} (h : r ∈ t.rows) (h' : r' ∈ t.rows)
    (e : key r = key r') : r = r' := by
  have h₁ := find_eq_some.2 ⟨h, e⟩
  have h₂ := find_eq_some.2 ⟨h', rfl⟩
  exact Option.some.inj (h₁.symm.trans h₂)

/-- Adding a row at the end; `none` where its key is taken. -/
def insert (t : Table key) (r : ρ) : Option (Table key) :=
  if h : key r ∈ t.rows.map key then none
  else some ⟨t.rows ++ [r], by
    rw [List.map_append, List.map_singleton]
    exact List.nodup_append.2 ⟨t.nodup, List.nodup_singleton _, fun a ha b hb e =>
      h (List.mem_singleton.1 hb ▸ e ▸ ha)⟩⟩

theorem find_eq_none {t : Table key} {k : κ} : t.find k = none ↔ k ∉ t.rows.map key := by
  simp only [find, List.find?_eq_none, decide_eq_true_eq, List.mem_map, not_exists, not_and]

@[simp] theorem find_empty (k : κ) : (empty : Table key).find k = none := rfl

/-- An insert fails exactly where the key is taken. -/
theorem insert_eq_none {t : Table key} {r : ρ} :
    t.insert r = none ↔ t.find (key r) ≠ none := by
  unfold insert
  rw [Ne, find_eq_none, not_not]
  split
  · rename_i h
    exact iff_of_true rfl h
  · rename_i h
    exact iff_of_false (Option.some_ne_none _) h

theorem rows_insert {t t' : Table key} {r : ρ} (h : t.insert r = some t') :
    t'.rows = t.rows ++ [r] := by
  unfold insert at h
  split at h
  · cases h
  · rw [← Option.some.inj h]

/-- An insert that succeeds is of a fresh key. -/
theorem find_of_insert {t t' : Table key} {r : ρ} (h : t.insert r = some t') :
    t.find (key r) = none := by
  by_contra hne
  rw [insert_eq_none.2 hne] at h
  cases h

/-- A row inserted is found, and the others as before. -/
theorem find_insert {t t' : Table key} {r : ρ} (h : t.insert r = some t') (k : κ) :
    t'.find k = if k = key r then some r else t.find k := by
  have hnew := find_of_insert h
  rw [find, rows_insert h, List.find?_append]
  show (t.find k).or _ = _
  by_cases hk : k = key r
  · rw [hk, hnew, Option.none_or, if_pos rfl]
    simp
  · rw [if_neg hk]
    have hs : [r].find? (fun r => key r = k) = none := by simpa using fun e => hk e.symm
    rw [hs, Option.or_none]

/-- `f` on the row of a key. -/
def updateAt (t : Table key) (k : κ) (f : ρ → ρ) (hf : ∀ r, key (f r) = key r) : Table key where
  rows := t.rows.map fun r => if key r = k then f r else r
  nodup := by
    rw [List.map_map]
    have : (key ∘ fun r => if key r = k then f r else r) = key := by
      funext r
      by_cases h : key r = k <;> simp [h, hf]
    rw [this]; exact t.nodup

/-- An update is found at its key, and the other rows as before. -/
theorem find_updateAt (t : Table key) (k : κ) (f : ρ → ρ) (hf : ∀ r, key (f r) = key r) (k' : κ) :
    (t.updateAt k f hf).find k' = if k' = k then (t.find k').map f else t.find k' := by
  have hkey : ((fun r => decide (key r = k')) ∘ fun r => if key r = k then f r else r) =
      fun r => decide (key r = k') := by
    funext r
    by_cases h : key r = k <;> simp [h, hf]
  show (t.rows.map _).find? _ = _
  rw [List.find?_map, hkey]
  show (t.find k').map _ = _
  cases hr : t.find k' with
  | none => simp
  | some r =>
    obtain ⟨-, rfl⟩ := find_eq_some.1 hr
    rw [Option.map_some, Option.map_some]
    by_cases hk : key r = k <;> simp [hk]

omit [DecidableEq κ] in
theorem ext_rows {t t' : Table key} (h : t.rows = t'.rows) : t = t' := by
  obtain ⟨rows, nodup⟩ := t
  obtain rfl : rows = t'.rows := h
  rfl

/-- Updates that commute on each row commute on the table. -/
theorem updateAt_comm (t : Table key) (k k' : κ) {f g : ρ → ρ} (hf : ∀ r, key (f r) = key r)
    (hg : ∀ r, key (g r) = key r) (h : ∀ r, f (g r) = g (f r)) :
    (t.updateAt k g hg).updateAt k' f hf = (t.updateAt k' f hf).updateAt k g hg := by
  apply ext_rows
  show (t.rows.map _).map _ = (t.rows.map _).map _
  rw [List.map_map, List.map_map]
  refine List.map_congr_left fun r _ => ?_
  by_cases hk : key r = k <;> by_cases hk' : key r = k' <;> simp_all

/-- An update that changes a row once changes the table once. -/
theorem updateAt_idem (t : Table key) (k : κ) {f : ρ → ρ} (hf : ∀ r, key (f r) = key r)
    (h : ∀ r, f (f r) = f r) : (t.updateAt k f hf).updateAt k f hf = t.updateAt k f hf := by
  apply ext_rows
  show (t.rows.map _).map _ = t.rows.map _
  rw [List.map_map]
  refine List.map_congr_left fun r _ => ?_
  by_cases hk : key r = k <;> simp [hk, hf, h]

end Table

/-- `LIMIT limit OFFSET offset` on signed parameters: a negative limit is no
limit, a negative offset none. -/
def page {ρ : Type*} (limit offset : Int64) (rows : List ρ) : List ρ :=
  let rest := rows.drop offset.toInt.toNat
  if limit < 0 then rest else rest.take limit.toInt.toNat

theorem page_sublist {ρ : Type*} (limit offset : Int64) (rows : List ρ) :
    (page limit offset rows).Sublist rows := by
  unfold page
  simp only
  split
  · exact List.drop_sublist _ _
  · exact (List.take_sublist _ _).trans (List.drop_sublist _ _)

theorem page_map {ρ α : Type*} (f : ρ → α) (limit offset : Int64) (rows : List ρ) :
    (page limit offset rows).map f = page limit offset (rows.map f) := by
  unfold page
  simp only
  split
  · rw [List.map_drop]
  · rw [List.map_take, List.map_drop]

/-- An offset that came as an unsigned value: none from `2⁶³` on. -/
def signedOffset (offset : UInt64) : Nat := if offset.toNat < 2 ^ 63 then offset.toNat else 0

theorem toNat_toInt_toInt64 (offset : UInt64) :
    offset.toInt64.toInt.toNat = signedOffset offset := by
  unfold signedOffset
  split
  · rename_i h
    rw [toInt_toInt64 h]
    rfl
  · rename_i h
    have := offset.toNat_lt
    rw [toInt_toInt64_of_le (by omega)]
    omega

/-- A page of unsigned parameters: from `2⁶³` on, a limit is no limit. -/
theorem page_toInt64 {ρ : Type*} (limit offset : UInt64) (rows : List ρ) :
    page limit.toInt64 offset.toInt64 rows =
      if limit.toNat < 2 ^ 63 then (rows.drop (signedOffset offset)).take limit.toNat
      else rows.drop (signedOffset offset) := by
  unfold page
  simp only [toNat_toInt_toInt64]
  by_cases h : limit.toNat < 2 ^ 63
  · have hn : ¬ limit.toInt64 < 0 := by
      rw [Int64.lt_iff_toInt_lt, toInt_toInt64 h]
      show ¬ ((limit.toNat : Int) < 0)
      omega
    have hs : signedOffset limit = limit.toNat := if_pos h
    rw [if_neg hn, if_pos h, hs]
  · have hlt := limit.toNat_lt
    have hn : limit.toInt64 < 0 := by
      rw [Int64.lt_iff_toInt_lt, toInt_toInt64_of_le (by omega)]
      show (limit.toNat - 2 ^ 64 : Int) < 0
      omega
    rw [if_pos hn, if_neg h]

/-- A page is empty when it has no room, or lies behind the rows. -/
theorem page_eq_nil_iff {ρ : Type*} {limit offset : UInt64} {rows : List ρ} :
    page limit.toInt64 offset.toInt64 rows = [] ↔
      limit = 0 ∨ rows.length ≤ signedOffset offset := by
  rw [page_toInt64, eq_zero_iff_toNat]
  split
  · rw [List.take_eq_nil_iff, List.drop_eq_nil_iff]
  · rw [List.drop_eq_nil_iff]
    omega

/-- Of distinct rows, the page is that of the unsigned parameters exactly when
the limit is 0, or the offset is below `2⁶³`, or without effect, and the limit
likewise. -/
theorem page_eq_iff {ρ : Type*} {limit offset : UInt64} {rows : List ρ} (hn : rows.Nodup) :
    page limit.toInt64 offset.toInt64 rows = (rows.drop offset.toNat).take limit.toNat ↔
      limit = 0 ∨ (offset.toNat < 2 ^ 63 ∨ rows = []) ∧
        (limit.toNat < 2 ^ 63 ∨ rows.length ≤ offset.toNat + limit.toNat) := by
  rw [page_toInt64, eq_zero_iff_toNat]
  by_cases hz : limit.toNat = 0
  · rw [hz]
    simp
  by_cases ho : offset.toNat < 2 ^ 63
  · have hs : signedOffset offset = offset.toNat := if_pos ho
    rw [hs]
    by_cases hl : limit.toNat < 2 ^ 63
    · rw [if_pos hl]
      exact iff_of_true rfl (.inr ⟨.inl ho, .inl hl⟩)
    · rw [if_neg hl, eq_comm, List.take_eq_self_iff, List.length_drop]
      omega
  · have hs : signedOffset offset = 0 := if_neg ho
    rw [hs, List.drop_zero]
    cases rows with
    | nil => simp
    | cons r rows =>
      -- the first row is on the signed page, and before the other
      have hmem : r ∈ if limit.toNat < 2 ^ 63 then (r :: rows).take limit.toNat else r :: rows := by
        split
        · obtain ⟨k, hk⟩ := Nat.exists_eq_succ_of_ne_zero hz
          rw [hk, List.take_succ_cons]
          exact List.mem_cons_self
        · exact List.mem_cons_self
      have hnot : r ∉ ((r :: rows).drop offset.toNat).take limit.toNat := by
        intro h
        obtain ⟨k, hk⟩ := Nat.exists_eq_succ_of_ne_zero (show offset.toNat ≠ 0 by omega)
        have hr := List.mem_of_mem_take h
        rw [hk, List.drop_succ_cons] at hr
        exact (List.nodup_cons.1 hn).1 (List.mem_of_mem_drop hr)
      refine iff_of_false (fun e => hnot (e ▸ hmem)) ?_
      rintro (h | ⟨h | h, -⟩)
      · exact hz h
      · exact ho h
      · cases h

end Framework
