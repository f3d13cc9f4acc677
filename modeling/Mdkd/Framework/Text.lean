import Mathlib.Data.Vector.Basic

/-!
# Texts

Hexadecimal texts of byte arrays of a fixed length, the bytes of a text, its
parts, the trimming of surrounding white space, and decimal numbers.

* `fromHex_toHex`: a text in lower case is read back as the bytes it was
  written from, so distinct byte arrays have distinct texts (`toHex_inj`);
* `exists_fromHex`: the texts that are read;
* `fromUtf8_eq_some`: the bytes that are the text of a string;
* `stripPrefix_eq_some`, `splitOnce_eq_some`: the strings a string is cut into;
  `not_mem_of_mem_split`: the parts between separators have none;
* `parseNat_toString`: the decimal text of a number is read back.
-/

namespace Framework

/-! ## Hexadecimal -/

/-- The digit of `n < 16`, in lower case. -/
def hexDigit (n : Nat) : Char := if n < 10 then Char.ofNat (48 + n) else Char.ofNat (87 + n)

/-- The value of a digit, in either case. -/
def hexVal (c : Char) : Option Nat :=
  if '0' ≤ c ∧ c ≤ '9' then some (c.toNat - 48)
  else if 'a' ≤ c ∧ c ≤ 'f' then some (c.toNat - 87)
  else if 'A' ≤ c ∧ c ≤ 'F' then some (c.toNat - 55)
  else none

theorem hexVal_hexDigit : ∀ n < 16, hexVal (hexDigit n) = some n := by decide

/-- Two digits for each byte, the high one first. -/
def hexDigits : List UInt8 → List Char
  | [] => []
  | b :: bs => hexDigit (b.toNat / 16) :: hexDigit (b.toNat % 16) :: hexDigits bs

/-- The bytes of a text of digits; `none` at an odd length or another character. -/
def hexBytes : List Char → Option (List UInt8)
  | [] => some []
  | [_] => none
  | c :: d :: cs =>
    match hexVal c, hexVal d, hexBytes cs with
    | some h, some l, some bs => some (.ofNat (16 * h + l) :: bs)
    | _, _, _ => none

theorem hexBytes_hexDigits (bs : List UInt8) : hexBytes (hexDigits bs) = some bs := by
  induction bs with
  | nil => rfl
  | cons b bs ih =>
    have hb : b.toNat < 256 := b.toNat_lt
    have hh := hexVal_hexDigit (b.toNat / 16) (by omega)
    have hl := hexVal_hexDigit (b.toNat % 16) (by omega)
    have e : 16 * (b.toNat / 16) + b.toNat % 16 = b.toNat := Nat.div_add_mod _ _
    simp only [hexDigits, hexBytes, hh, hl, ih, e, UInt8.ofNat_toNat]

variable {n : Nat}

/-- The lower-case hexadecimal text of a byte array. -/
def toHex (bs : Vector UInt8 n) : String := String.ofList (hexDigits bs.toList)

/-- `format!("{b:02x}")`: the digits of a byte, two at least. -/
def formatByte (b : UInt8) : List Char :=
  let digits := Nat.toDigits 16 b.toNat
  List.replicate (2 - digits.length) '0' ++ digits

theorem digitChar_eq : ∀ n < 16, Nat.digitChar n = hexDigit n := by decide

/-- A byte has its two digits. -/
theorem formatByte_eq (b : UInt8) :
    formatByte b = [hexDigit (b.toNat / 16), hexDigit (b.toNat % 16)] := by
  have hb : b.toNat < 256 := b.toNat_lt
  have hl := digitChar_eq (b.toNat % 16) (by omega)
  unfold formatByte
  by_cases h : b.toNat < 16
  · have h0 : b.toNat / 16 = 0 := by omega
    have hm : b.toNat % 16 = b.toNat := by omega
    rw [hm] at hl ⊢
    rw [Nat.toDigits_of_lt_base h, hl, h0]
    rfl
  · have hh := digitChar_eq (b.toNat / 16) (by omega)
    rw [Nat.toDigits_of_base_le (by decide) (by omega), Nat.toDigits_of_lt_base (by omega), hh, hl]
    rfl

/-- The digits of bytes, one byte at a time. -/
theorem hexDigits_eq_flatMap (bs : List UInt8) :
    hexDigits bs = bs.flatMap fun b => [hexDigit (b.toNat / 16), hexDigit (b.toNat % 16)] := by
  induction bs with
  | nil => rfl
  | cons b bs ih => rw [hexDigits, ih, List.flatMap_cons]; rfl

/-- `<[u8; n]>::from_hex`. -/
def fromHex (n : Nat) (s : String) : Option (Vector UInt8 n) :=
  (hexBytes s.toList).bind fun bs =>
    if h : bs.length = n then some ⟨bs.toArray, by simpa using h⟩ else none

/-- Reading back the text of a byte array. -/
@[simp] theorem fromHex_toHex (bs : Vector UInt8 n) : fromHex n (toHex bs) = some bs := by
  rw [fromHex, toHex, String.toList_ofList, hexBytes_hexDigits, Option.bind_some,
    dif_pos Vector.length_toList]
  exact congrArg some (Vector.toArray_inj.1 (Array.toArray_toList))

theorem toHex_inj {as bs : Vector UInt8 n} : toHex as = toHex bs ↔ as = bs := by
  refine ⟨fun h => ?_, fun h => h ▸ rfl⟩
  have := fromHex_toHex as
  rw [h, fromHex_toHex] at this
  exact (Option.some.inj this).symm

/-- The digits `toHex` writes. -/
def isLowerHexDigit (c : Char) : Bool := ('0' ≤ c && c ≤ '9') || ('a' ≤ c && c ≤ 'f')

theorem isLowerHexDigit_hexDigit : ∀ n < 16, isLowerHexDigit (hexDigit n) = true := by decide

theorem length_hexDigits (bs : List UInt8) : (hexDigits bs).length = 2 * bs.length := by
  induction bs with
  | nil => rfl
  | cons b bs ih =>
    rw [hexDigits, List.length_cons, List.length_cons, ih, List.length_cons]
    omega

theorem isLowerHexDigit_of_mem {bs : List UInt8} {c : Char} (h : c ∈ hexDigits bs) :
    isLowerHexDigit c = true := by
  induction bs with
  | nil => cases h
  | cons b bs ih =>
    have hb : b.toNat < 256 := b.toNat_lt
    rw [hexDigits, List.mem_cons, List.mem_cons] at h
    rcases h with rfl | rfl | h
    · exact isLowerHexDigit_hexDigit _ (by omega)
    · exact isLowerHexDigit_hexDigit _ (by omega)
    · exact ih h

theorem exists_hexVal {c : Char} (h : isLowerHexDigit c = true) : ∃ v, hexVal c = some v := by
  unfold isLowerHexDigit at h
  simp only [Bool.or_eq_true, Bool.and_eq_true, decide_eq_true_eq] at h
  unfold hexVal
  rcases h with h | h
  · exact ⟨_, if_pos h⟩
  · by_cases hd : '0' ≤ c ∧ c ≤ '9'
    · exact ⟨_, if_pos hd⟩
    · rw [if_neg hd]
      exact ⟨_, if_pos h⟩

/-- Two digits for each byte are read. -/
theorem exists_hexBytes {cs : List Char} (h : ∀ c ∈ cs, isLowerHexDigit c = true)
    (hn : cs.length = 2 * n) : ∃ bs, hexBytes cs = some bs ∧ bs.length = n := by
  induction n generalizing cs with
  | zero =>
    obtain rfl := List.length_eq_zero_iff.1 hn
    exact ⟨[], rfl, rfl⟩
  | succ n ih =>
    obtain ⟨c, d, cs, rfl⟩ : ∃ c d cs', cs = c :: d :: cs' := by
      match cs, hn with
      | c :: d :: cs, _ => exact ⟨c, d, cs, rfl⟩
    obtain ⟨hc, hd, h⟩ : isLowerHexDigit c = true ∧ isLowerHexDigit d = true ∧
        ∀ c ∈ cs, isLowerHexDigit c = true := by simpa using h
    obtain ⟨hi, hhi⟩ := exists_hexVal hc
    obtain ⟨lo, hlo⟩ := exists_hexVal hd
    have hlen : cs.length = 2 * n := by
      rw [List.length_cons, List.length_cons] at hn
      omega
    obtain ⟨bs, hbs, hl⟩ := ih h hlen
    refine ⟨.ofNat (16 * hi + lo) :: bs, ?_, by rw [List.length_cons, hl]⟩
    simp only [hexBytes, hhi, hlo, hbs]

/-- A text of lower-case digits, two for each byte, is read. -/
theorem exists_fromHex {s : String} (h : ∀ c ∈ s.toList, isLowerHexDigit c = true)
    (hn : s.toList.length = 2 * n) : ∃ bs, fromHex n s = some bs := by
  obtain ⟨bs, hbs, hl⟩ := exists_hexBytes h hn
  rw [fromHex, hbs, Option.bind_some]
  exact ⟨_, dif_pos hl⟩

/-! ## Bytes -/

/-- `str::as_bytes`. -/
def utf8 (s : String) : List UInt8 := s.toByteArray.data.toList

/-- `String::from_utf8`. -/
def fromUtf8 (bs : List UInt8) : Option String := String.fromUTF8? ⟨bs.toArray⟩

theorem utf8_append (s t : String) : utf8 (s ++ t) = utf8 s ++ utf8 t := by
  rw [utf8, String.toByteArray_append, ByteArray.data_append, Array.toList_append]
  rfl

theorem fromUtf8_eq_some {bs : List UInt8} {s : String} : fromUtf8 bs = some s ↔ bs = utf8 s := by
  rw [fromUtf8, String.fromUTF8?]
  constructor
  · intro h
    split at h
    · rw [← Option.some.inj h]
      rfl
    · cases h
  · rintro rfl
    exact dif_pos s.isValidUTF8

theorem utf8_inj {s t : String} : utf8 s = utf8 t ↔ s = t := by
  refine ⟨fun h => ?_, fun h => h ▸ rfl⟩
  have ht := fromUtf8_eq_some.2 h
  rw [fromUtf8_eq_some.2 rfl] at ht
  exact Option.some.inj ht

theorem utf8EncodeChar_ofNat : ∀ n < 128, String.utf8EncodeChar (Char.ofNat n) = [.ofNat n] := by
  decide

/-- ASCII bytes are those of a text. -/
theorem exists_utf8_of_ascii {bs : List UInt8} (h : ∀ b ∈ bs, b.toNat < 128) :
    ∃ s, bs = utf8 s := by
  induction bs with
  | nil => exact ⟨"", rfl⟩
  | cons b bs ih =>
    rw [List.forall_mem_cons] at h
    obtain ⟨s, rfl⟩ := ih h.2
    refine ⟨String.singleton (Char.ofNat b.toNat) ++ s, ?_⟩
    have hb : utf8 (String.singleton (Char.ofNat b.toNat)) = [b] := by
      rw [utf8, String.toByteArray_singleton, List.utf8Encode_singleton,
        utf8EncodeChar_ofNat _ h.1, UInt8.ofNat_toNat]
      rfl
    rw [utf8_append, hb]
    rfl

/-! ## Parts -/

/-- `str::strip_prefix`. -/
def stripPrefix (p s : String) : Option String :=
  (s.toList.dropPrefix? p.toList).map String.ofList

/-- The characters before the first `c`, and those after it. -/
def splitChars (c : Char) : List Char → Option (List Char × List Char)
  | [] => none
  | d :: ds => if d = c then some ([], ds) else (splitChars c ds).map fun p => (d :: p.1, p.2)

/-- `str::split_once`. -/
def splitOnce (c : Char) (s : String) : Option (String × String) :=
  (splitChars c s.toList).map fun p => (String.ofList p.1, String.ofList p.2)

/-- `str::split`: the parts between the `c`s. -/
def split (c : Char) (s : String) : List String := (s.toList.splitOn c).map String.ofList

theorem split_of_not_mem {c : Char} {s : String} (h : c ∉ s.toList) : split c s = [s] := by
  rw [split, List.splitOn_eq_singleton h, List.map_singleton, String.ofList_toList]

theorem not_mem_of_mem_splitOn {c : Char} {cs part : List Char} (h : part ∈ cs.splitOn c) :
    c ∉ part := by
  induction cs generalizing part with
  | nil =>
    rw [List.splitOn_nil, List.mem_singleton] at h
    rw [h]
    exact List.not_mem_nil
  | cons d cs ih =>
    rw [List.splitOn_cons_eq_if_modifyHead] at h
    by_cases hd : d = c
    · rw [if_pos (beq_iff_eq.2 hd), List.mem_cons] at h
      rcases h with rfl | h
      · exact List.not_mem_nil
      · exact ih h
    · rw [if_neg fun e => hd (beq_iff_eq.1 e)] at h
      cases hs : cs.splitOn c with
      | nil => exact absurd hs (List.splitOn_ne_nil c cs)
      | cons first rest =>
        rw [hs, List.modifyHead_cons, List.mem_cons] at h
        rcases h with rfl | h
        · rw [List.mem_cons, not_or]
          exact ⟨Ne.symm hd, ih (hs ▸ List.mem_cons_self)⟩
        · exact ih (hs ▸ List.mem_cons_of_mem _ h)

/-- No part has the character the text is split at. -/
theorem not_mem_of_mem_split {c : Char} {s part : String} (h : part ∈ split c s) :
    c ∉ part.toList := by
  obtain ⟨cs, hcs, rfl⟩ := List.mem_map.1 h
  rw [String.toList_ofList]
  exact not_mem_of_mem_splitOn hcs

theorem stripPrefix_eq_some {p s r : String} : stripPrefix p s = some r ↔ s = p ++ r := by
  rw [stripPrefix, Option.map_eq_some_iff]
  constructor
  · rintro ⟨cs, h, rfl⟩
    obtain ⟨p', e, hp⟩ := List.dropPrefix?_eq_some_iff.1 h
    rw [eq_of_beq hp] at e
    rw [← String.toList_inj, String.toList_append, String.toList_ofList, e]
  · rintro rfl
    refine ⟨r.toList, ?_, String.ofList_toList⟩
    rw [String.toList_append]
    exact List.dropPrefix?_eq_some_iff.2 ⟨_, rfl, beq_self_eq_true _⟩

theorem splitChars_eq_some {c : Char} {cs a b : List Char} :
    splitChars c cs = some (a, b) ↔ c ∉ a ∧ cs = a ++ c :: b := by
  induction cs generalizing a with
  | nil => simp [splitChars]
  | cons d ds ih =>
    rw [splitChars]
    by_cases hd : d = c
    · rw [if_pos hd, Option.some.injEq, Prod.mk.injEq]
      cases a with
      | nil => simp [hd]
      | cons x a => simp only [List.cons_append, List.cons.injEq, List.mem_cons]; grind
    · rw [if_neg hd, Option.map_eq_some_iff]
      cases a with
      | nil => simp [hd]
      | cons x a =>
        simp only [Prod.mk.injEq, List.cons.injEq, List.cons_append, List.mem_cons, not_or]
        constructor
        · rintro ⟨⟨a', b'⟩, h, ⟨rfl, rfl⟩, rfl⟩
          obtain ⟨ha, e⟩ := ih.1 h
          exact ⟨⟨Ne.symm hd, ha⟩, rfl, e⟩
        · rintro ⟨⟨-, ha⟩, rfl, e⟩
          exact ⟨(a, b), ih.2 ⟨ha, e⟩, ⟨rfl, rfl⟩, rfl⟩

theorem splitOnce_eq_some {c : Char} {s a b : String} :
    splitOnce c s = some (a, b) ↔ c ∉ a.toList ∧ s = a ++ String.singleton c ++ b := by
  have hs : s = a ++ String.singleton c ++ b ↔ s.toList = a.toList ++ c :: b.toList := by
    rw [← String.toList_inj]
    simp
  rw [hs, ← splitChars_eq_some, splitOnce, Option.map_eq_some_iff]
  constructor
  · rintro ⟨⟨a', b'⟩, h, e⟩
    obtain ⟨rfl, rfl⟩ := Prod.mk.inj e
    rwa [String.toList_ofList, String.toList_ofList]
  · intro h
    exact ⟨_, h, by rw [String.ofList_toList, String.ofList_toList]⟩

/-! ## White space -/

/-- The characters with the Unicode property `White_Space`. -/
def isWhitespace (c : Char) : Bool :=
  let n := c.toNat
  (9 ≤ n && n ≤ 13) || n = 32 || n = 0x85 || n = 0xA0 || n = 0x1680 ||
    (0x2000 ≤ n && n ≤ 0x200A) || n = 0x2028 || n = 0x2029 || n = 0x202F || n = 0x205F ||
    n = 0x3000

/-- `str::trim`. -/
def trim (s : String) : String :=
  String.ofList ((s.toList.dropWhile isWhitespace).reverse.dropWhile isWhitespace).reverse

/-- What is left is of the text. -/
theorem mem_of_mem_trim {s : String} {c : Char} (h : c ∈ (trim s).toList) : c ∈ s.toList := by
  rw [trim, String.toList_ofList, List.mem_reverse] at h
  have hfront := (List.dropWhile_sublist _).subset h
  rw [List.mem_reverse] at hfront
  exact (List.dropWhile_sublist _).subset hfront

/-! ## Numbers -/

/-- The digits of a number, without the `+` they may come after. -/
def dropPlus : List Char → List Char
  | '+' :: cs => cs
  | cs => cs

/-- `str::parse` of an unsigned number below `bound`. -/
def parseNat (bound : Nat) (s : String) : Option Nat :=
  let digits := dropPlus s.toList
  if digits ≠ [] ∧ digits.all Char.isDigit ∧ Nat.ofDigitChars 10 digits 0 < bound then
    some (Nat.ofDigitChars 10 digits 0)
  else none

def parseUInt64 (s : String) : Option UInt64 := (parseNat (2 ^ 64) s).map .ofNat

def parseUInt32 (s : String) : Option UInt32 := (parseNat (2 ^ 32) s).map .ofNat

theorem parseNat_toString {bound n : Nat} (h : n < bound) :
    parseNat bound (toString n) = some n := by
  have htext : (toString n).toList = Nat.toDigits 10 n := Nat.toList_repr
  have hdigit : ∀ c ∈ Nat.toDigits 10 n, c.isDigit = true := fun c hc =>
    Nat.isDigit_of_mem_toDigits (by decide) (by decide) hc
  have hdrop : dropPlus (Nat.toDigits 10 n) = Nat.toDigits 10 n := by
    unfold dropPlus
    split
    · rename_i cs heq
      have hplus := hdigit '+' (by rw [heq]; exact List.mem_cons_self)
      exact absurd hplus (by decide)
    · rfl
  have hvalue : Nat.ofDigitChars 10 (Nat.toDigits 10 n) 0 = n := Nat.ofDigitChars_ten_toDigits
  simp only [parseNat, htext, hdrop, hvalue]
  exact if_pos ⟨Nat.toDigits_ne_nil, List.all_eq_true.2 hdigit, h⟩

@[simp] theorem parseUInt64_toString (n : UInt64) : parseUInt64 (toString n.toNat) = some n := by
  rw [parseUInt64, parseNat_toString n.toNat_lt, Option.map_some, UInt64.ofNat_toNat]

@[simp] theorem parseUInt32_toString (n : UInt32) : parseUInt32 (toString n.toNat) = some n := by
  rw [parseUInt32, parseNat_toString n.toNat_lt, Option.map_some, UInt32.ofNat_toNat]

end Framework
