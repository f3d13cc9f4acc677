import Mathlib.Data.List.AList
import Mathlib.Data.List.Induction
import Mathlib.Order.Lattice

/-!
# Iterators and keyed maps

* `find_key_iff`, `countP_key`, `filter_key`: the element with a given key, in
  a list of distinct keys;
* `flatMap_pages`: the pages of a list, one after the other;
* `maxByKey`: the last maximum of a list (`maxByKey_spec`, `maxByKey_eq_some`);
* `retain`: an in-place filter of a map with distinct keys, keeping, changing
  or dropping each entry (`lookup_retain`);
* `collect`: a map of a list of pairs (`lookup_collect`).
-/

namespace Framework

/-- In a list of distinct keys, looking a key up finds the element that has it. -/
theorem find_key_iff {α κ : Type*} [DecidableEq κ] {key : α → κ} {xs : List α}
    (hn : (xs.map key).Nodup) {k : κ} {a : α} :
    xs.find? (fun x => key x = k) = some a ↔ a ∈ xs ∧ key a = k := by
  refine ⟨fun h => ⟨List.mem_of_find?_eq_some h, by simpa using List.find?_some h⟩, ?_⟩
  rintro ⟨ha, rfl⟩
  induction xs with
  | nil => cases ha
  | cons x xs ih =>
    obtain ⟨hx, hn⟩ := List.nodup_cons.1 hn
    rw [List.find?_cons]
    rcases List.mem_cons.1 ha with rfl | ha
    · simp
    · have hne : key x ≠ key a := fun e => hx (e ▸ List.mem_map_of_mem ha)
      simp only [hne, decide_false]
      exact ih hn ha

/-- In a list of distinct keys, at most the element of a given key has it. -/
theorem countP_key {α κ : Type*} [DecidableEq κ] {key : α → κ} {xs : List α}
    (hn : (xs.map key).Nodup) (p : α → Bool) (k : κ) :
    (xs.countP fun x => p x && decide (key x = k)) =
      if (xs.find? fun x => key x = k).any p then 1 else 0 := by
  induction xs with
  | nil => rfl
  | cons x xs ih =>
    obtain ⟨hx, hn⟩ := List.nodup_cons.1 hn
    rw [List.countP_cons, ih hn, List.find?_cons]
    by_cases hk : key x = k
    · have hnone : (xs.find? fun x => key x = k) = none := by
        refine List.find?_eq_none.2 fun y hy => ?_
        rw [decide_eq_true_eq]
        exact fun e => hx (hk.trans e.symm ▸ List.mem_map_of_mem hy)
      simp [hk, hnone]
    · simp [hk]

/-- Where no two elements share a key, the elements with the key of one are
that one. -/
theorem filter_key {α κ : Type*} [DecidableEq κ] {key : α → Option κ} {xs : List α}
    (hd : xs.Pairwise fun x y => ∀ k, key x = some k → key y ≠ some k) {a : α} (ha : a ∈ xs)
    {k : κ} (hk : key a = some k) : xs.filter (fun x => key x = some k) = [a] := by
  induction xs with
  | nil => cases ha
  | cons x xs ih =>
    obtain ⟨hx, hd⟩ := List.pairwise_cons.1 hd
    rcases List.mem_cons.1 ha with rfl | ha
    · have hnone : xs.filter (fun x => key x = some k) = [] := by
        refine List.filter_eq_nil_iff.2 fun y hy => ?_
        rw [decide_eq_true_eq]
        exact hx y hy k hk
      rw [List.filter_cons_of_pos (by simpa using hk), hnone]
    · have hne : key x ≠ some k := fun h => hx a ha k h hk
      rw [List.filter_cons_of_neg (by simpa using hne)]
      exact ih hd ha

/-- The first `n` pages of `m` elements each. -/
theorem flatMap_pages {α : Type*} (xs : List α) (m n : ℕ) :
    ((List.range n).flatMap fun k => (xs.drop (k * m)).take m) = xs.take (n * m) := by
  induction n with
  | zero => simp
  | succ n ih =>
    rw [List.range_succ, List.flatMap_append, ih, List.flatMap_singleton, Nat.succ_mul,
      List.take_add]

section
variable {α κ : Type*} [LinearOrder κ]

/-- The better of two elements, the second where they tie. -/
def laterMax (key : α → κ) (x y : α) : α := if key y < key x then x else y

theorem laterMax_eq (key : α → κ) (x y : α) : laterMax key x y = x ∨ laterMax key x y = y := by
  unfold laterMax; split <;> simp

theorem le_laterMax (key : α → κ) (x y : α) :
    key x ≤ key (laterMax key x y) ∧ key y ≤ key (laterMax key x y) := by
  unfold laterMax
  split
  · rename_i h; exact ⟨le_refl _, le_of_lt h⟩
  · rename_i h; exact ⟨not_lt.1 h, le_refl _⟩

/-- `Iterator::max_by_key`: the last element of largest key. -/
def maxByKey (key : α → κ) : List α → Option α
  | [] => none
  | x :: xs => some (xs.foldl (laterMax key) x)

theorem foldl_laterMax (key : α → κ) (x : α) (xs : List α) :
    xs.foldl (laterMax key) x ∈ x :: xs ∧
      ∀ y ∈ x :: xs, key y ≤ key (xs.foldl (laterMax key) x) := by
  induction xs generalizing x with
  | nil => simp
  | cons z xs ih =>
    obtain ⟨hm, hle⟩ := ih (laterMax key x z)
    have hb := hle _ List.mem_cons_self
    obtain ⟨h₁, h₂⟩ := le_laterMax key x z
    refine ⟨?_, fun y hy => ?_⟩
    · rcases List.mem_cons.1 hm with h | h
      · rw [List.foldl_cons, h]
        rcases laterMax_eq key x z with e | e <;> rw [e] <;> simp
      · exact List.mem_cons_of_mem _ (List.mem_cons_of_mem _ h)
    · rcases List.mem_cons.1 hy with rfl | hy
      · exact le_trans h₁ hb
      · rcases List.mem_cons.1 hy with rfl | hy
        · exact le_trans h₂ hb
        · exact hle y (List.mem_cons_of_mem _ hy)

/-- What `maxByKey` gives is an element, and none has a larger key. -/
theorem maxByKey_spec {key : α → κ} {xs : List α} {m : α} (h : maxByKey key xs = some m) :
    m ∈ xs ∧ ∀ y ∈ xs, key y ≤ key m := by
  cases xs with
  | nil => cases h
  | cons x xs => cases h; exact foldl_laterMax key x xs

theorem foldl_laterMax_of_lt {key : α → κ} {m : α} {xs : List α} (h : ∀ y ∈ xs, key y < key m) :
    xs.foldl (laterMax key) m = m := by
  induction xs with
  | nil => rfl
  | cons x xs ih =>
    have hx : laterMax key m x = m := if_pos (h x List.mem_cons_self)
    rw [List.foldl_cons, hx]
    exact ih fun y hy => h y (List.mem_cons_of_mem _ hy)

theorem maxByKey_concat (key : α → κ) (xs : List α) (y : α) :
    maxByKey key (xs ++ [y]) = some ((maxByKey key xs).elim y fun m => laterMax key m y) := by
  cases xs with
  | nil => rfl
  | cons x xs => simp [maxByKey]

/-- `maxByKey` gives the last maximum: nothing before it is larger, and
everything after it is smaller. -/
theorem maxByKey_eq_some {key : α → κ} {xs : List α} {m : α} :
    maxByKey key xs = some m ↔
      ∃ pre post, xs = pre ++ m :: post ∧ (∀ y ∈ pre, key y ≤ key m) ∧
        ∀ y ∈ post, key y < key m := by
  constructor
  · intro h
    induction xs using List.reverseRecOn generalizing m with
    | nil => cases h
    | append_singleton xs y ih =>
      rw [maxByKey_concat, Option.some.injEq] at h
      cases hx : maxByKey key xs with
      | none =>
        obtain rfl : xs = [] := by cases xs with | nil => rfl | cons => cases hx
        obtain rfl : y = m := h
        exact ⟨[], [], rfl, by simp, by simp⟩
      | some n =>
        rw [hx, Option.elim_some, laterMax] at h
        split at h
        · rename_i hlt
          subst h
          obtain ⟨pre, post, rfl, hpre, hpost⟩ := ih hx
          refine ⟨pre, post ++ [y], by simp, hpre, fun z hz => ?_⟩
          rcases List.mem_append.1 hz with hz | hz
          · exact hpost z hz
          · rwa [List.mem_singleton.1 hz]
        · rename_i hlt
          subst h
          refine ⟨xs, [], rfl, fun z hz => ?_, by simp⟩
          exact le_trans ((maxByKey_spec hx).2 z hz) (not_lt.1 hlt)
  · rintro ⟨pre, post, rfl, hpre, hpost⟩
    cases pre with
    | nil => exact congrArg some (foldl_laterMax_of_lt hpost)
    | cons x pre =>
      have hx := (foldl_laterMax key x pre).1
      have hm : laterMax key (pre.foldl (laterMax key) x) m = m := if_neg (not_lt.2 (hpre _ hx))
      rw [List.cons_append, maxByKey, List.foldl_append, List.foldl_cons, hm,
        foldl_laterMax_of_lt hpost]

end

section
variable {α β : Type*}

/-- The entries a filtering loop keeps, with the values it leaves in them. -/
def retainEntries (f : α → β → Option β) (es : List (Sigma fun _ : α => β)) :
    List (Sigma fun _ : α => β) :=
  es.filterMap fun e => (f e.1 e.2).map fun b => ⟨e.1, b⟩

theorem retainEntries_cons_none {f : α → β → Option β} {k : α} {b : β} (h : f k b = none)
    (es : List (Sigma fun _ : α => β)) : retainEntries f (⟨k, b⟩ :: es) = retainEntries f es := by
  simp [retainEntries, h]

theorem retainEntries_cons_some {f : α → β → Option β} {k : α} {b b' : β} (h : f k b = some b')
    (es : List (Sigma fun _ : α => β)) :
    retainEntries f (⟨k, b⟩ :: es) = ⟨k, b'⟩ :: retainEntries f es := by
  simp [retainEntries, h]

theorem retainEntries_keys (f : α → β → Option β) (es : List (Sigma fun _ : α => β)) :
    (retainEntries f es).keys.Sublist es.keys := by
  induction es with
  | nil => exact List.Sublist.refl _
  | cons e es ih =>
    cases h : f e.1 e.2 with
    | none => rw [retainEntries_cons_none h]; exact ih.cons _
    | some b => rw [retainEntries_cons_some h]; exact ih.cons_cons _

/-- `HashMap::retain`: each entry is dropped, or kept with the value the
closure leaves in it. -/
def retain (f : α → β → Option β) (m : AList fun _ : α => β) : AList fun _ : α => β where
  entries := retainEntries f m.entries
  nodupKeys := List.Nodup.sublist (retainEntries_keys f m.entries) m.nodupKeys

theorem keys_retain (f : α → β → Option β) (m : AList fun _ : α => β) :
    (retain f m).keys.Sublist m.keys := retainEntries_keys f m.entries

variable [DecidableEq α]

theorem dlookup_retainEntries (f : α → β → Option β) (a : α)
    {es : List (Sigma fun _ : α => β)} (h : es.NodupKeys) :
    (retainEntries f es).dlookup a = (es.dlookup a).bind (f a) := by
  induction es with
  | nil => rfl
  | cons e es ih =>
    obtain ⟨k, b⟩ := e
    obtain ⟨hk, hes⟩ := List.nodupKeys_cons.1 h
    by_cases e : k = a
    · subst e
      have hd : k ∉ (retainEntries f es).keys := fun hm => hk ((retainEntries_keys f es).subset hm)
      rw [List.dlookup_cons_eq, Option.bind_some]
      cases hf : f k b with
      | none => rw [retainEntries_cons_none hf]; exact List.dlookup_eq_none.2 hd
      | some b' => rw [retainEntries_cons_some hf, List.dlookup_cons_eq]
    · rw [List.dlookup_cons_ne es ⟨k, b⟩ (Ne.symm e)]
      cases hf : f k b with
      | none => rw [retainEntries_cons_none hf]; exact ih hes
      | some b' =>
        rw [retainEntries_cons_some hf]
        exact (List.dlookup_cons_ne _ (⟨k, b'⟩ : Sigma fun _ : α => β) (Ne.symm e)).trans (ih hes)

@[simp] theorem lookup_retain (f : α → β → Option β) (m : AList fun _ : α => β) (a : α) :
    (retain f m).lookup a = (m.lookup a).bind (f a) :=
  dlookup_retainEntries f a m.nodupKeys

theorem lookup_eq_none_iff {m : AList fun _ : α => β} {a : α} : m.lookup a = none ↔ a ∉ m.keys := by
  rw [AList.lookup_eq_none, AList.mem_keys]

/-- Collecting pairs into a map, the later of two with one key. -/
def collect (es : List (α × β)) : AList fun _ : α => β :=
  es.foldl (fun m e => m.insert e.1 e.2) ∅

/-- In a map collected from pairs of distinct keys, looking a key up finds the
value paired with it. -/
theorem lookup_collect {es : List (α × β)} (hn : (es.map Prod.fst).Nodup) {a : α} {b : β} :
    (collect es).lookup a = some b ↔ (a, b) ∈ es := by
  induction es using List.reverseRecOn generalizing b with
  | nil => simp [collect]
  | append_singleton es e ih =>
    rw [List.map_append, List.nodup_append] at hn
    obtain ⟨hes, -, hdis⟩ := hn
    have hfold : collect (es ++ [e]) = (collect es).insert e.1 e.2 := by
      simp only [collect, List.foldl_append, List.foldl_cons, List.foldl_nil]
    rw [hfold, List.mem_append, List.mem_singleton]
    by_cases ha : a = e.1
    · subst ha
      have hnot : ∀ b, (e.1, b) ∉ es := fun b hb =>
        hdis e.1 (List.mem_map.2 ⟨_, hb, rfl⟩) e.1 (by simp) rfl
      rw [AList.lookup_insert]
      simp [hnot, Prod.ext_iff, eq_comm]
    · have hne : (a, b) ≠ e := fun h => ha (h ▸ rfl)
      rw [AList.lookup_insert_ne ha, ih hes]
      simp [hne]

/-- Inserting under a fresh key makes a map one entry longer. -/
theorem length_keys_insert {m : AList fun _ : α => β} {a : α} (b : β) (h : a ∉ m.keys) :
    (m.insert a b).keys.length = m.keys.length + 1 := by
  rw [AList.keys_insert, List.length_cons, List.erase_of_not_mem h]

end

end Framework
