import Mdkd.Framework.Text

/-!
# Forms

`application/x-www-form-urlencoded`: pairs of a name and a value. A byte that is
neither a letter or digit nor one of `*-._` is written as `%` and its two digits,
a space as `+`. A reader takes any byte written so, and what is no escape as it
is. `lossy` is how it makes a text of bytes, whatever they are.

* `read_write`: pairs that were written are read back;
* `pathText_encodePath`: so is a segment of a path.
-/

namespace Framework.Form

/-! ## Writing -/

/-- The bytes that stand for themselves. -/
def isUnreserved (b : UInt8) : Bool :=
  (48 ≤ b && b < 58) || (65 ≤ b && b < 91) || (97 ≤ b && b < 123) ||
    b = 42 || b = 45 || b = 46 || b = 95

/-- The digit of `n < 16`, in upper case. -/
def digit (n : Nat) : UInt8 := if n < 10 then .ofNat (48 + n) else .ofNat (55 + n)

def escape (b : UInt8) : List UInt8 := [37, digit (b.toNat / 16), digit (b.toNat % 16)]

def encodeByte (b : UInt8) : List UInt8 :=
  if isUnreserved b then [b] else if b = 32 then [43] else escape b

def encode (s : String) : List UInt8 := (utf8 s).flatMap encodeByte

def writePair (p : String × String) : List UInt8 := encode p.1 ++ 61 :: encode p.2

def write (ps : List (String × String)) : List UInt8 := [38].intercalate (ps.map writePair)

/-! ## Reading -/

/-- The byte of an escape. -/
def escaped (b h l : UInt8) : Option UInt8 :=
  if b = 37 then
    match hexVal (Char.ofNat h.toNat), hexVal (Char.ofNat l.toNat) with
    | some x, some y => some (.ofNat (16 * x + y))
    | _, _ => none
  else none

def percentDecode : List UInt8 → List UInt8
  | b :: h :: l :: bs =>
    match escaped b h l with
    | some c => c :: percentDecode bs
    | none => b :: percentDecode (h :: l :: bs)
  | bs => bs

def plusToSpace (b : UInt8) : UInt8 := if b = 43 then 32 else b

variable (lossy : List UInt8 → String)

def decode (bs : List UInt8) : String := lossy (percentDecode (bs.map plusToSpace))

/-- A pair is cut at its first `=`; without one, the value is empty. -/
def readPair (bs : List UInt8) : String × String :=
  (decode lossy (bs.takeWhile (· ≠ 61)), decode lossy ((bs.dropWhile (· ≠ 61)).drop 1))

def read (bs : List UInt8) : List (String × String) :=
  ((bs.splitOn 38).filter (· ≠ [])).map (readPair lossy)

/-! ## Reading what was written -/

theorem ne_of_isUnreserved {b c : UInt8} (hb : isUnreserved b = true)
    (hc : isUnreserved c = false) : b ≠ c := by
  intro h
  rw [h, hc] at hb
  exact absurd hb (by decide)

theorem isUnreserved_spec {b : UInt8} (h : isUnreserved b = true) :
    b ≠ 37 ∧ b ≠ 38 ∧ b ≠ 43 ∧ b ≠ 47 ∧ b ≠ 61 :=
  ⟨ne_of_isUnreserved h (by decide), ne_of_isUnreserved h (by decide),
    ne_of_isUnreserved h (by decide), ne_of_isUnreserved h (by decide),
    ne_of_isUnreserved h (by decide)⟩

theorem encodeByte_cases (b : UInt8) : (encodeByte b = [b] ∧ b ≠ 37 ∧ b ≠ 38 ∧ b ≠ 43 ∧ b ≠ 61) ∨
    (encodeByte b = [43] ∧ b = 32) ∨ encodeByte b = escape b := by
  unfold encodeByte
  by_cases hu : isUnreserved b = true
  · obtain ⟨h37, h38, h43, -, h61⟩ := isUnreserved_spec hu
    exact .inl ⟨if_pos hu, h37, h38, h43, h61⟩
  · rw [if_neg hu]
    by_cases hs : b = 32
    · exact .inr (.inl ⟨if_pos hs, hs⟩)
    · exact .inr (.inr (if_neg hs))

theorem digit_spec : ∀ n < 16, hexVal (Char.ofNat (digit n).toNat) = some n ∧
    digit n ≠ 38 ∧ digit n ≠ 43 ∧ digit n ≠ 47 ∧ digit n ≠ 61 := by
  decide

theorem escaped_digit (b : UInt8) :
    escaped 37 (digit (b.toNat / 16)) (digit (b.toNat % 16)) = some b := by
  have hb : b.toNat < 256 := b.toNat_lt
  have hh := (digit_spec (b.toNat / 16) (by omega)).1
  have hl := (digit_spec (b.toNat % 16) (by omega)).1
  have e : 16 * (b.toNat / 16) + b.toNat % 16 = b.toNat := Nat.div_add_mod _ _
  rw [escaped, if_pos rfl, hh, hl]
  show some (UInt8.ofNat (16 * (b.toNat / 16) + b.toNat % 16)) = some b
  rw [e, UInt8.ofNat_toNat]

/-- An escape has no separator. -/
theorem ne_of_mem_escape {b c : UInt8} (h : c ∈ escape b) :
    c ≠ 38 ∧ c ≠ 43 ∧ c ≠ 47 ∧ c ≠ 61 := by
  have hb : b.toNat < 256 := b.toNat_lt
  rcases List.mem_cons.1 h with h | h
  · rw [h]
    decide
  · rcases List.mem_cons.1 h with h | h
    · rw [h]
      exact (digit_spec (b.toNat / 16) (by omega)).2
    · rw [List.mem_singleton.1 h]
      exact (digit_spec (b.toNat % 16) (by omega)).2

/-- A byte that starts no escape is read as it is. -/
theorem percentDecode_cons {b : UInt8} (h : b ≠ 37) (bs : List UInt8) :
    percentDecode (b :: bs) = b :: percentDecode bs := by
  match bs with
  | [] => rfl
  | [_] => rfl
  | c :: d :: bs =>
    have hnone : escaped b c d = none := if_neg h
    rw [percentDecode, hnone]

theorem percentDecode_escape (b : UInt8) (bs : List UInt8) :
    percentDecode (escape b ++ bs) = b :: percentDecode bs := by
  show percentDecode (37 :: digit (b.toNat / 16) :: digit (b.toNat % 16) :: bs) = _
  rw [percentDecode, escaped_digit]

theorem map_plusToSpace_escape (b : UInt8) : (escape b).map plusToSpace = escape b := by
  refine (List.map_congr_left fun c hc => ?_).trans (List.map_id _)
  exact if_neg (ne_of_mem_escape hc).2.1

/-- A byte that was written is read back. -/
theorem percentDecode_encodeByte (b : UInt8) (bs : List UInt8) :
    percentDecode ((encodeByte b).map plusToSpace ++ bs) = b :: percentDecode bs := by
  rcases encodeByte_cases b with ⟨he, h37, -, h43, -⟩ | ⟨he, rfl⟩ | he
  · rw [he]
    show percentDecode (plusToSpace b :: bs) = _
    rw [plusToSpace, if_neg h43, percentDecode_cons h37]
  · rw [he]
    exact percentDecode_cons (by decide) bs
  · rw [he, map_plusToSpace_escape, percentDecode_escape]

theorem percentDecode_encode (bs : List UInt8) :
    percentDecode ((bs.flatMap encodeByte).map plusToSpace) = bs := by
  induction bs with
  | nil => rfl
  | cons b bs ih =>
    rw [List.flatMap_cons, List.map_append, percentDecode_encodeByte, ih]

/-- What is written has no separator. -/
theorem not_mem_encode {s : String} {b : UInt8} (h : b ∈ encode s) : b ≠ 38 ∧ b ≠ 61 := by
  obtain ⟨a, -, hb⟩ := List.mem_flatMap.1 h
  rcases encodeByte_cases a with ⟨he, -, h38, -, h61⟩ | ⟨he, -⟩ | he
  · rw [he, List.mem_singleton] at hb
    rw [hb]
    exact ⟨h38, h61⟩
  · rw [he, List.mem_singleton] at hb
    rw [hb]
    decide
  · rw [he] at hb
    have hplain := ne_of_mem_escape hb
    exact ⟨hplain.1, hplain.2.2.2⟩

section
variable {lossy} (hl : ∀ s, lossy (utf8 s) = s)
include hl

theorem decode_encode (s : String) : decode lossy (encode s) = s := by
  rw [decode, encode, percentDecode_encode, hl]

theorem readPair_write (p : String × String) : readPair lossy (writePair p) = p := by
  have hname : ∀ b ∈ encode p.1, (decide (b ≠ 61)) = true := fun b hb =>
    decide_eq_true (not_mem_encode hb).2
  have htake : (writePair p).takeWhile (· ≠ 61) = encode p.1 := by
    rw [writePair, List.takeWhile_append_of_pos hname]
    simp
  have hdrop : (writePair p).dropWhile (· ≠ 61) = 61 :: encode p.2 := by
    rw [writePair, List.dropWhile_append_of_pos hname]
    simp
  rw [readPair, htake, hdrop, decode_encode hl]
  show (p.1, decode lossy (encode p.2)) = p
  rw [decode_encode hl]

/-- Pairs that were written are read back. -/
theorem read_write (ps : List (String × String)) : read lossy (write ps) = ps := by
  have hsplit : ∀ qs : List (String × String), qs ≠ [] →
      (write qs).splitOn 38 = qs.map writePair := by
    intro qs hqs
    refine List.splitOn_intercalate 38 (fun l hmem h38 => ?_) (by simpa using hqs)
    obtain ⟨p, -, rfl⟩ := List.mem_map.1 hmem
    rcases List.mem_append.1 h38 with h38 | h38
    · exact (not_mem_encode h38).1 rfl
    · rcases List.mem_cons.1 h38 with h38 | h38
      · exact absurd h38 (by decide)
      · exact (not_mem_encode h38).1 rfl
  have hne : ∀ p : String × String, writePair p ≠ [] := by
    intro p h
    have hmem : (61 : UInt8) ∈ writePair p := List.mem_append_right _ List.mem_cons_self
    rw [h] at hmem
    cases hmem
  cases ps with
  | nil => rfl
  | cons p ps =>
    rw [read, hsplit _ (by simp), List.filter_eq_self.2, List.map_map]
    · exact (List.map_congr_left fun q _ => readPair_write hl q).trans (List.map_id _)
    · intro l hmem
      obtain ⟨q, -, rfl⟩ := List.mem_map.1 hmem
      exact decide_eq_true (hne q)

end

/-! ## Segments of a path -/

/-- A segment of a path, in which a space is an escape like others. -/
def encodePath (s : String) : List UInt8 :=
  (utf8 s).flatMap fun b => if isUnreserved b then [b] else escape b

/-- The text of a segment, if it is one. -/
def pathText (bs : List UInt8) : Option String := fromUtf8 (percentDecode bs)

theorem pathText_encodePath (s : String) : pathText (encodePath s) = some s := by
  have hall : ∀ bs : List UInt8,
      percentDecode (bs.flatMap fun b => if isUnreserved b then [b] else escape b) = bs := by
    intro bs
    induction bs with
    | nil => rfl
    | cons b bs ih =>
      rw [List.flatMap_cons]
      split
      · rename_i hb
        rw [List.singleton_append, percentDecode_cons (isUnreserved_spec hb).1, ih]
      · rw [percentDecode_escape, ih]
  rw [pathText, encodePath, hall, fromUtf8_eq_some.2 rfl]

/-- A segment has no slash. -/
theorem not_mem_encodePath (s : String) : (47 : UInt8) ∉ encodePath s := by
  intro h
  obtain ⟨b, -, hb⟩ := List.mem_flatMap.1 h
  split at hb
  · rename_i hu
    rw [List.mem_singleton] at hb
    exact (isUnreserved_spec hu).2.2.2.1 hb.symm
  · exact (ne_of_mem_escape hb).2.2.1 rfl

end Framework.Form
