import Mathlib.Data.List.Infix
import Mathlib.Logic.Function.Basic
import Mdkd.Framework.Table

/-!
# Relations with declared columns

A table as its file has it: the columns it was declared with, and rows of
values. A statement names columns, and fails to compile where the table lacks
one of them. An `Encoding` writes the rows of a typed table as values; along it
the statements do what the typed table does (`Encoding.Holds`), whether or not
the relation has the columns they do not name:

* `holds_create`, `Holds.addColumn`: declaring the table, and adding a column
  whose default is what the rows stand for;
* `Holds.insertInto`, `Holds.updateWhere`, `Holds.select`: the statements on rows.
-/

namespace Framework

/-- What is declared of a table's columns, by name: its primary key, the `NOT
NULL` constraints and the defaults. -/
structure Declarations (κ ν : Type*) where
  key : κ
  null : ν
  notNull : κ → Bool
  default : κ → ν

/-- The columns a table has, and its rows, which are null elsewhere. -/
structure Relation {κ ν : Type*} (D : Declarations κ ν) where
  columns : List κ
  table : Table fun row : κ → ν => row D.key

namespace Relation

variable {κ ν : Type*} {D : Declarations κ ν} [DecidableEq κ] [DecidableEq ν]

/-- `CREATE TABLE IF NOT EXISTS`. -/
def create (columns : List κ) (r : Option (Relation D)) : Relation D :=
  r.getD ⟨columns, .empty⟩

/-- `ALTER TABLE … ADD COLUMN`: `none` where there is one. -/
def addColumn (c : κ) (hc : c ≠ D.key) (r : Relation D) : Option (Relation D) :=
  if c ∈ r.columns then none
  else some
    { columns := r.columns ++ [c]
      table :=
        { rows := r.table.rows.map (Function.update · c (D.default c))
          nodup := by
            have hkey : (fun row => row D.key) ∘ (Function.update · c (D.default c)) =
                fun row : κ → ν => row D.key := by
              funext row
              exact Function.update_of_ne hc.symm _ _
            rw [List.map_map, hkey]
            exact r.table.nodup } }

/-- Whether the columns a statement names are columns of the table. -/
def knows (r : Relation D) (names : List κ) : Bool := names.all (· ∈ r.columns)

/-- The row an `INSERT` makes of the values of the columns it names. -/
def newRow (r : Relation D) (names : List κ) (values : List ν) : κ → ν := fun c =>
  if c ∈ r.columns then ((names.zip values).lookup c).getD (D.default c) else D.null

/-- `INSERT INTO … (names) VALUES (values)`: `none` where it fails. -/
def insertInto (names : List κ) (values : List ν) (r : Relation D) : Option (Relation D) :=
  let row := r.newRow names values
  if r.knows names ∧ r.columns.all fun c => !D.notNull c || row c ≠ D.null then
    (r.table.insert row).map fun table => { r with table }
  else none

/-- `INSERT OR IGNORE`: a row that a constraint refuses is left out. -/
def insertOrIgnore (names : List κ) (values : List ν) (r : Relation D) : Option (Relation D) :=
  if r.knows names then some ((r.insertInto names values).getD r) else none

/-- `UPDATE … SET c = v WHERE key = k`: `none` where it fails. -/
def updateWhere (k : ν) (c : κ) (v : ν) (hc : c ≠ D.key) (r : Relation D) : Option (Relation D) :=
  if r.knows [c, D.key] then
    some
      { r with
        table := r.table.updateAt k (Function.update · c v) fun _ =>
          Function.update_of_ne hc.symm _ _ }
  else none

/-- `SELECT names FROM …`, with the columns that its other clauses read: `none`
where it fails. -/
def select (names reads : List κ) (clauses : List (κ → ν) → List (κ → ν)) (r : Relation D) :
    Option (List (List ν)) :=
  if r.knows (names ++ reads) then some ((clauses r.table.rows).map fun row => names.map row)
  else none

omit [DecidableEq ν] in
theorem knows_iff {r : Relation D} {names : List κ} : r.knows names ↔ ∀ c ∈ names, c ∈ r.columns := by
  simp [knows]

end Relation

/-- How the rows of a typed table are written as values. -/
structure Encoding {κ ν ρ α : Type*} (D : Declarations κ ν) (key : ρ → α) where
  values : ρ → κ → ν
  embed : α → ν
  embed_injective : Function.Injective embed
  values_key : ∀ row, values row D.key = embed (key row)

namespace Encoding

variable {κ ν ρ α : Type*} {D : Declarations κ ν} {key : ρ → α} [DecidableEq κ] [DecidableEq ν]
  [DecidableEq α] (E : Encoding D key)

/-- The values of a row in some columns. -/
def on (columns : List κ) (row : ρ) : κ → ν := fun c =>
  if c ∈ columns then E.values row c else D.null

/-- The relation holds the rows of the table, in the columns that it has. -/
structure Holds (r : Relation D) (t : Table key) : Prop where
  key : D.key ∈ r.columns
  rows : r.table.rows = t.rows.map (E.on r.columns)

variable {E} {r r' : Relation D} {t : Table key}

omit [DecidableEq ν] [DecidableEq α] in
theorem on_key (h : E.Holds r t) (row : ρ) : E.on r.columns row D.key = E.embed (key row) := by
  rw [on, if_pos h.key, E.values_key]

omit [DecidableEq ν] [DecidableEq α] in
theorem holds_create {columns : List κ} (h : D.key ∈ columns) :
    E.Holds (Relation.create columns none) (.empty : Table key) := ⟨h, rfl⟩

omit [DecidableEq ν] [DecidableEq α] in
/-- Adding a column keeps the rows where each has the default there. -/
theorem Holds.addColumn (h : E.Holds r t) {c : κ} (hc : c ≠ D.key)
    (hd : ∀ row ∈ t.rows, E.values row c = D.default c) (hr : r.addColumn c hc = some r') :
    E.Holds r' t ∧ r'.columns = r.columns ++ [c] := by
  unfold Relation.addColumn at hr
  split at hr
  · cases hr
  obtain rfl := Option.some.inj hr
  refine ⟨⟨List.mem_append_left _ h.key, ?_⟩, rfl⟩
  show r.table.rows.map _ = t.rows.map (E.on (r.columns ++ [c]))
  rw [h.rows, List.map_map]
  refine List.map_congr_left fun row hrow => funext fun c' => ?_
  show Function.update (E.on r.columns row) c (D.default c) c' = E.on (r.columns ++ [c]) row c'
  by_cases hcc : c' = c
  · rw [hcc, Function.update_self, on, if_pos (List.mem_append_right _ (List.mem_singleton_self c)),
      hd row hrow]
  · have hmem : c' ∈ r.columns ++ [c] ↔ c' ∈ r.columns := by simp [hcc]
    rw [Function.update_of_ne hcc, on, on]
    exact if_congr hmem.symm rfl rfl

theorem Holds.find (h : E.Holds r t) (k : α) :
    r.table.find (E.embed k) = (t.find k).map (E.on r.columns) := by
  rw [Table.find, h.rows, List.find?_map, Table.find]
  congr 2
  funext row
  show decide (E.on r.columns row D.key = _) = _
  rw [on_key h]
  exact decide_eq_decide.2 E.embed_injective.eq_iff

/-- An `INSERT` of a row's values fails where the table's insert does, and adds
the row otherwise. -/
theorem Holds.insertInto (h : E.Holds r t) {names : List κ} {values : List ν} {row : ρ}
    (hknows : r.knows names)
    (hvalues : ∀ c ∈ r.columns, ((names.zip values).lookup c).getD (D.default c) = E.values row c)
    (hnull : ∀ c, D.notNull c → E.values row c ≠ D.null) :
    (r.insertInto names values = none ∧ t.insert row = none) ∨
      ∃ r' t', r.insertInto names values = some r' ∧ t.insert row = some t' ∧ E.Holds r' t' ∧
        r'.columns = r.columns := by
  have hrow : r.newRow names values = E.on r.columns row := by
    funext c
    unfold Relation.newRow on
    split
    · rename_i hc
      exact hvalues c hc
    · rfl
  have hall : r.knows names ∧
      r.columns.all fun c => !D.notNull c || E.on r.columns row c ≠ D.null := by
    refine ⟨hknows, List.all_eq_true.2 fun c hc => ?_⟩
    cases hn : D.notNull c with
    | false => rfl
    | true =>
      rw [on, if_pos hc]
      exact decide_eq_true (hnull c hn)
  have hins : r.insertInto names values =
      (r.table.insert (E.on r.columns row)).map fun table => { r with table } := by
    unfold Relation.insertInto
    simp only [hrow]
    exact if_pos hall
  have hiff : r.table.insert (E.on r.columns row) = none ↔ t.insert row = none := by
    rw [Table.insert_eq_none, Table.insert_eq_none, on_key h, h.find, Ne, Option.map_eq_none_iff]
  rw [hins]
  cases ht : t.insert row with
  | none => exact .inl ⟨by rw [hiff.2 ht]; rfl, rfl⟩
  | some t' =>
    have hne : r.table.insert (E.on r.columns row) ≠ none := by
      rw [Ne, hiff, ht]
      exact Option.some_ne_none _
    obtain ⟨table, htable⟩ := Option.ne_none_iff_exists'.1 hne
    refine .inr ⟨{ r with table }, t', by rw [htable]; rfl, rfl, ⟨h.key, ?_⟩, rfl⟩
    show table.rows = _
    rw [Table.rows_insert htable, Table.rows_insert ht, h.rows, List.map_append,
      List.map_singleton]

/-- An `UPDATE` of a row's column. -/
theorem Holds.updateWhere (h : E.Holds r t) (k : α) {c : κ} {v : ν}
    (hc : c ≠ D.key) (hmem : c ∈ r.columns) {f : ρ → ρ} (hf : ∀ row, key (f row) = key row)
    (hv : ∀ row, E.values (f row) = Function.update (E.values row) c v) :
    ∃ r', r.updateWhere (E.embed k) c v hc = some r' ∧ E.Holds r' (t.updateAt k f hf) ∧
      r'.columns = r.columns := by
  have hknows : r.knows [c, D.key] := Relation.knows_iff.2 (by simp [hmem, h.key])
  refine ⟨_, if_pos hknows, ⟨h.key, ?_⟩, rfl⟩
  show r.table.rows.map _ = (t.rows.map _).map _
  rw [h.rows, List.map_map, List.map_map]
  refine List.map_congr_left fun row _ => ?_
  show (if E.on r.columns row D.key = E.embed k then _ else _) = E.on r.columns (if _ then _ else _)
  rw [on_key h]
  by_cases hk : key row = k
  · rw [if_pos (congrArg E.embed hk), if_pos hk]
    funext c'
    by_cases hcc : c' = c
    · rw [hcc, Function.update_self, on, if_pos hmem, hv, Function.update_self]
    · rw [Function.update_of_ne hcc, on, on, hv, Function.update_of_ne hcc]
  · rw [if_neg (fun e => hk (E.embed_injective e)), if_neg hk]

omit [DecidableEq ν] [DecidableEq α] in
/-- A `SELECT` whose clauses choose among the rows as `choose` does. -/
theorem Holds.select (h : E.Holds r t) {names reads : List κ}
    {clauses : List (κ → ν) → List (κ → ν)} {choose : List ρ → List ρ}
    (hknows : r.knows (names ++ reads))
    (hchoose : clauses (t.rows.map (E.on r.columns)) = (choose t.rows).map (E.on r.columns)) :
    r.select names reads clauses =
      some ((choose t.rows).map fun row => names.map (E.values row)) := by
  unfold Relation.select
  rw [if_pos hknows, h.rows, hchoose, List.map_map]
  refine congrArg some (List.map_congr_left fun row _ => ?_)
  refine List.map_congr_left fun c hc => ?_
  exact if_pos (Relation.knows_iff.1 hknows c (List.mem_append_left _ hc))

end Encoding

end Framework
