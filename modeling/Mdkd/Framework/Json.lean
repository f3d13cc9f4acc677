import Mathlib.Data.List.TakeWhile
import Mdkd.Framework.Text

/-!
# JSON texts

Values of JSON, a writer without white space and a reader, on texts as lists of
characters. A number is kept as it is written, so that no value is lost; an
object keeps its members in order.

* `Json.read_write`: the reader gives back the value a text was written from;
* `Numeral.toNat?_ofNat`: a natural number is read back from its numeral.
-/

namespace Framework

/-! ## Numbers -/

/-- One digit or more: what follows them. -/
def takeDigits : List Char → Option (List Char)
  | c :: cs => if c.isDigit then some (cs.dropWhile Char.isDigit) else none
  | [] => none

def takeInteger : List Char → Option (List Char)
  | '0' :: cs => some cs
  | cs => takeDigits cs

def takeFraction : List Char → Option (List Char)
  | '.' :: cs => takeDigits cs
  | cs => some cs

def takeExponent : List Char → Option (List Char)
  | c :: cs =>
    if c = 'e' ∨ c = 'E' then
      match cs with
      | '+' :: ds => takeDigits ds
      | '-' :: ds => takeDigits ds
      | ds => takeDigits ds
    else some (c :: cs)
  | [] => some []

def dropMinus : List Char → List Char
  | '-' :: cs => cs
  | cs => cs

/-- The characters a number is made of. -/
def isNumberChar (c : Char) : Bool := c.isDigit || "+-.eE".toList.contains c

/-- A text that is a number: an integer part without a leading zero, then a
fraction and an exponent where there are. -/
def isNumeral (cs : List Char) : Bool :=
  cs.all isNumberChar &&
    ((takeInteger (dropMinus cs)).bind takeFraction).bind takeExponent = some []

/-- A number, as it is written. -/
structure Numeral where
  text : List Char
  valid : isNumeral text = true
  deriving DecidableEq

namespace Numeral

theorem isNumberChar_of_mem (n : Numeral) {c : Char} (h : c ∈ n.text) : isNumberChar c = true := by
  have hv := n.valid
  simp only [isNumeral, Bool.and_eq_true, List.all_eq_true] at hv
  exact hv.1 c h

theorem text_ne_nil (n : Numeral) : n.text ≠ [] := by
  intro h
  have hv := n.valid
  rw [h] at hv
  exact absurd hv (by decide)

/-- The digits of a natural number start with a zero only where it is one. -/
theorem toDigits_cons (n : Nat) :
    Nat.toDigits 10 n = ['0'] ∨
      ∃ c cs, Nat.toDigits 10 n = c :: cs ∧ c ≠ '0' ∧ c.isDigit = true := by
  induction n using Nat.strongRecOn with
  | ind n ih =>
    by_cases h : n < 10
    · rw [Nat.toDigits_of_lt_base h]
      have hall : ∀ n < 10, Nat.digitChar n = '0' ∨
          Nat.digitChar n ≠ '0' ∧ (Nat.digitChar n).isDigit = true := by decide
      rcases hall n h with h0 | hd
      · exact .inl (by rw [h0])
      · exact .inr ⟨_, [], rfl, hd.1, hd.2⟩
    · rw [Nat.toDigits_of_base_le (by decide) (by omega)]
      rcases ih (n / 10) (by omega) with h0 | ⟨c, cs, hc, hne, hd⟩
      · -- the quotient is not zero, so its digits are not
        have hn := congrArg (fun ds => Nat.ofDigitChars 10 ds 0) h0
        simp only [Nat.ofDigitChars_ten_toDigits] at hn
        have hz : Nat.ofDigitChars 10 ['0'] 0 = 0 := by decide
        omega
      · exact .inr ⟨c, _, by rw [hc]; rfl, hne, hd⟩

theorem isNumeral_toDigits (n : Nat) : isNumeral (Nat.toDigits 10 n) = true := by
  have hd : ∀ c ∈ Nat.toDigits 10 n, c.isDigit = true := fun c hc =>
    Nat.isDigit_of_mem_toDigits (by decide) (by decide) hc
  have hall : (Nat.toDigits 10 n).all isNumberChar = true := by
    rw [List.all_eq_true]
    intro c hc
    rw [isNumberChar, hd c hc, Bool.true_or]
  rcases toDigits_cons n with h0 | ⟨c, cs, hc, hne, hdc⟩
  · rw [h0]
    decide
  · rw [hc] at hall hd ⊢
    have hdrop : cs.dropWhile Char.isDigit = [] := by
      simpa [List.dropWhile_eq_nil_iff] using fun x hx => hd x (List.mem_cons_of_mem _ hx)
    have htake : takeInteger (c :: cs) = some [] := by
      unfold takeInteger
      split
      · rename_i h
        exact absurd (List.cons.inj h).1 hne
      · rw [takeDigits, if_pos hdc, hdrop]
    have hminus : dropMinus (c :: cs) = c :: cs := by
      unfold dropMinus
      split
      · rename_i h
        rw [(List.cons.inj h).1] at hdc
        exact absurd hdc (by decide)
      · rfl
    rw [isNumeral, hall, hminus, htake]
    rfl

def ofNat (n : Nat) : Numeral := ⟨Nat.toDigits 10 n, isNumeral_toDigits n⟩

/-- The natural number a numeral of digits only is. -/
def toNat? (n : Numeral) : Option Nat :=
  if n.text.all Char.isDigit then some (Nat.ofDigitChars 10 n.text 0) else none

@[simp] theorem toNat?_ofNat (n : Nat) : (ofNat n).toNat? = some n := by
  have h : (ofNat n).text.all Char.isDigit = true := by
    rw [List.all_eq_true]
    exact fun c hc => Nat.isDigit_of_mem_toDigits (by decide) (by decide) hc
  rw [toNat?, if_pos h]
  exact congrArg some Nat.ofDigitChars_ten_toDigits

end Numeral

/-! ## Values and their texts -/

inductive Json where
  | null
  | bool (b : Bool)
  | number (n : Numeral)
  | string (s : String)
  | array (elements : List Json)
  | object (members : List (String × Json))

/-- The double quote. -/
abbrev quote : Char := '\x22'

abbrev backslash : Char := '\x5c'

/-- A character inside a string: quotes, backslashes and control characters
are escaped. -/
def escapeChar (c : Char) : List Char :=
  if c = quote ∨ c = backslash then [backslash, c]
  else if c = '\x08' then [backslash, 'b']
  else if c = '\x0c' then [backslash, 'f']
  else if c = '\n' then [backslash, 'n']
  else if c = '\r' then [backslash, 'r']
  else if c = '\t' then [backslash, 't']
  else if c.toNat < 32 then
    [backslash, 'u', '0', '0', hexDigit (c.toNat / 16), hexDigit (c.toNat % 16)]
  else [c]

def writeString (s : String) : List Char := quote :: (s.toList.flatMap escapeChar ++ [quote])

mutual

def writeValue : Json → List Char
  | .null => "null".toList
  | .bool true => "true".toList
  | .bool false => "false".toList
  | .number n => n.text
  | .string s => writeString s
  | .array elements => '[' :: writeElements elements
  | .object members => '{' :: writeMembers members

/-- Elements, with the closing bracket. -/
def writeElements : List Json → List Char
  | [] => [']']
  | [v] => writeValue v ++ [']']
  | v :: vs => writeValue v ++ ',' :: writeElements vs

/-- Members, with the closing brace. -/
def writeMembers : List (String × Json) → List Char
  | [] => ['}']
  | [(key, v)] => writeString key ++ ':' :: (writeValue v ++ ['}'])
  | (key, v) :: ms => writeString key ++ ':' :: (writeValue v ++ ',' :: writeMembers ms)

end

/-- The text of a value. -/
def Json.write (v : Json) : String := String.ofList (writeValue v)

/-! ## Reading -/

def isJsonSpace (c : Char) : Bool := c = ' ' || c = '\t' || c = '\n' || c = '\r'

def skipSpace (cs : List Char) : List Char := cs.dropWhile isJsonSpace

def readHex4 : List Char → Option (Nat × List Char)
  | a :: b :: c :: d :: cs => do
    let a ← hexVal a
    let b ← hexVal b
    let c ← hexVal c
    let d ← hexVal d
    some (4096 * a + 256 * b + 16 * c + d, cs)
  | _ => none

/-- The character a code names, which takes two codes outside the basic plane. -/
def readCode (cs : List Char) : Option (Char × List Char) :=
  match readHex4 cs with
  | none => none
  | some (n, cs) =>
    if n < 0xD800 ∨ 0xDFFF < n then some (Char.ofNat n, cs)
    else if 0xDBFF < n then none
    else
      match cs with
      | '\x5c' :: 'u' :: ds =>
        match readHex4 ds with
        | none => none
        | some (m, ds) =>
          if 0xDC00 ≤ m ∧ m ≤ 0xDFFF then
            some (Char.ofNat (0x10000 + (n - 0xD800) * 1024 + (m - 0xDC00)), ds)
          else none
      | _ => none

/-- What follows a backslash. -/
def readEscape : List Char → Option (Char × List Char)
  | '\x22' :: cs => some ('\x22', cs)
  | '\x5c' :: cs => some ('\x5c', cs)
  | '/' :: cs => some ('/', cs)
  | 'b' :: cs => some ('\x08', cs)
  | 'f' :: cs => some ('\x0c', cs)
  | 'n' :: cs => some ('\n', cs)
  | 'r' :: cs => some ('\r', cs)
  | 't' :: cs => some ('\t', cs)
  | 'u' :: cs => readCode cs
  | _ => none

/-- One character of a string. -/
def readChar : List Char → Option (Char × List Char)
  | [] => none
  | c :: cs =>
    if c = backslash then readEscape cs else if c.toNat < 32 then none else some (c, cs)

/-- The characters of a string, up to its closing quote. -/
def readChars : Nat → List Char → Option (List Char × List Char)
  | 0, _ => none
  | fuel + 1, cs =>
    if cs.head? = some quote then some ([], cs.tail)
    else
      match readChar cs with
      | none => none
      | some (c, r) => (readChars fuel r).map fun p => (c :: p.1, p.2)

/-- A string, after its opening quote. -/
def readString (cs : List Char) : Option (String × List Char) :=
  (readChars (cs.length + 1) cs).map fun p => (String.ofList p.1, p.2)

def readNumber (cs : List Char) : Option (Json × List Char) :=
  if h : isNumeral (cs.takeWhile isNumberChar) = true then
    some (.number ⟨cs.takeWhile isNumberChar, h⟩, cs.dropWhile isNumberChar)
  else none

def readLiteral : List Char → Option (Json × List Char)
  | 'n' :: 'u' :: 'l' :: 'l' :: cs => some (.null, cs)
  | 't' :: 'r' :: 'u' :: 'e' :: cs => some (.bool true, cs)
  | 'f' :: 'a' :: 'l' :: 's' :: 'e' :: cs => some (.bool false, cs)
  | _ => none

/-- A key and its colon. -/
def readKey (cs : List Char) : Option (String × List Char) :=
  match skipSpace cs with
  | '\x22' :: r =>
    match readString r with
    | none => none
    | some (key, r) =>
      match skipSpace r with
      | ':' :: r => some (key, r)
      | _ => none
  | _ => none

mutual

def readValue : Nat → List Char → Option (Json × List Char)
  | 0, _ => none
  | fuel + 1, cs =>
    match skipSpace cs with
    | [] => none
    | c :: r =>
      if c = quote then (readString r).map fun p => (.string p.1, p.2)
      else if c = '[' then
        if (skipSpace r).head? = some ']' then some (.array [], (skipSpace r).tail)
        else (readElements fuel r).map fun p => (.array p.1, p.2)
      else if c = '{' then
        if (skipSpace r).head? = some '}' then some (.object [], (skipSpace r).tail)
        else (readMembers fuel r).map fun p => (.object p.1, p.2)
      else if isNumberChar c then readNumber (c :: r)
      else readLiteral (c :: r)

/-- One element or more, and the closing bracket. -/
def readElements : Nat → List Char → Option (List Json × List Char)
  | 0, _ => none
  | fuel + 1, cs =>
    match readValue fuel cs with
    | none => none
    | some (v, r) =>
      match skipSpace r with
      | ']' :: r => some ([v], r)
      | ',' :: r => (readElements fuel r).map fun p => (v :: p.1, p.2)
      | _ => none

/-- One member or more, and the closing brace. -/
def readMembers : Nat → List Char → Option (List (String × Json) × List Char)
  | 0, _ => none
  | fuel + 1, cs =>
    match readKey cs with
    | none => none
    | some (key, r) =>
      match readValue fuel r with
      | none => none
      | some (v, r) =>
        match skipSpace r with
        | '}' :: r => some ([(key, v)], r)
        | ',' :: r => (readMembers fuel r).map fun p => ((key, v) :: p.1, p.2)
        | _ => none

end

/-- The value a text is of. -/
def Json.read (s : String) : Option Json :=
  match readValue (s.toList.length + 1) s.toList with
  | none => none
  | some (v, r) => if skipSpace r = [] then some v else none

/-! ## Reading back -/

theorem hexBytes_code {n : Nat} (h : n < 32) (rest : List Char) :
    readHex4 ('0' :: '0' :: hexDigit (n / 16) :: hexDigit (n % 16) :: rest) = some (n, rest) := by
  have hh := hexVal_hexDigit (n / 16) (by omega)
  have hl := hexVal_hexDigit (n % 16) (by omega)
  have h0 : hexVal '0' = some 0 := by decide
  have e : 4096 * 0 + 256 * 0 + 16 * (n / 16) + n % 16 = n := by omega
  simp only [readHex4, h0, hh, hl, Option.bind_eq_bind, Option.bind_some, e]

/-- A character is read from what it is written as. -/
theorem readChar_escapeChar (c : Char) (rest : List Char) :
    readChar (escapeChar c ++ rest) = some (c, rest) := by
  unfold escapeChar
  by_cases h1 : c = quote ∨ c = backslash
  · rw [if_pos h1]
    rcases h1 with rfl | rfl <;> rfl
  rw [if_neg h1]
  by_cases h2 : c = '\x08'
  · rw [if_pos h2, h2]
    rfl
  rw [if_neg h2]
  by_cases h3 : c = '\x0c'
  · rw [if_pos h3, h3]
    rfl
  rw [if_neg h3]
  by_cases h4 : c = '\n'
  · rw [if_pos h4, h4]
    rfl
  rw [if_neg h4]
  by_cases h5 : c = '\r'
  · rw [if_pos h5, h5]
    rfl
  rw [if_neg h5]
  by_cases h6 : c = '\t'
  · rw [if_pos h6, h6]
    rfl
  rw [if_neg h6]
  by_cases h7 : c.toNat < 32
  · rw [if_pos h7]
    show readCode ('0' :: '0' :: hexDigit (c.toNat / 16) :: hexDigit (c.toNat % 16) :: rest) = _
    have hlow : c.toNat < 0xD800 ∨ 0xDFFF < c.toNat := by omega
    rw [readCode, hexBytes_code h7]
    simp only [hlow, ↓reduceIte, Char.ofNat_toNat]
  · rw [if_neg h7]
    have hb : c ≠ backslash := fun h => h1 (.inr h)
    show (if c = backslash then readEscape rest
      else if c.toNat < 32 then none else some (c, rest)) = _
    rw [if_neg hb, if_neg h7]

/-- What it is written as does not start with a quote. -/
theorem exists_escapeChar (c : Char) : ∃ d ds, escapeChar c = d :: ds ∧ d ≠ quote := by
  have hb : backslash ≠ quote := by decide
  unfold escapeChar
  by_cases h1 : c = quote ∨ c = backslash
  · rw [if_pos h1]
    exact ⟨_, _, rfl, hb⟩
  · rw [if_neg h1]
    repeat' split
    all_goals first
      | exact ⟨_, _, rfl, hb⟩
      | exact ⟨_, _, rfl, fun h => h1 (.inl h)⟩

theorem readChars_escape (s : List Char) (rest : List Char) {fuel : Nat} (h : s.length < fuel) :
    readChars fuel (s.flatMap escapeChar ++ quote :: rest) = some (s, rest) := by
  induction s generalizing fuel with
  | nil =>
    obtain ⟨fuel, rfl⟩ := Nat.exists_eq_succ_of_ne_zero (show fuel ≠ 0 by omega)
    rfl
  | cons c s ih =>
    obtain ⟨fuel, rfl⟩ := Nat.exists_eq_succ_of_ne_zero (show fuel ≠ 0 by omega)
    obtain ⟨d, ds, hd, hne⟩ := exists_escapeChar c
    have hhead : (escapeChar c ++ (s.flatMap escapeChar ++ quote :: rest)).head? ≠ some quote := by
      rw [hd, List.cons_append, List.head?_cons]
      exact fun e => hne (Option.some.inj e)
    rw [List.length_cons] at h
    rw [List.flatMap_cons, List.append_assoc, readChars, if_neg hhead, readChar_escapeChar]
    simp only [ih (show s.length < fuel by omega), Option.map_some]

theorem length_le_flatMap_escape (s : List Char) : s.length ≤ (s.flatMap escapeChar).length := by
  induction s with
  | nil => exact Nat.le_refl 0
  | cons c s ih =>
    obtain ⟨d, ds, hd, -⟩ := exists_escapeChar c
    rw [List.flatMap_cons, hd, List.length_append, List.length_cons, List.length_cons]
    omega

/-- A string is read from what it is written as. -/
theorem readString_write (s : String) (rest : List Char) :
    readString (s.toList.flatMap escapeChar ++ quote :: rest) = some (s, rest) := by
  have hl := length_le_flatMap_escape s.toList
  have hlen : s.toList.length <
      (s.toList.flatMap escapeChar ++ quote :: rest).length + 1 := by
    rw [List.length_append]
    omega
  rw [readString, readChars_escape _ _ hlen, Option.map_some, String.ofList_toList]

theorem writeString_append (s : String) (rest : List Char) :
    writeString s ++ rest = quote :: (s.toList.flatMap escapeChar ++ quote :: rest) := by
  rw [writeString, List.cons_append, List.append_assoc, List.singleton_append]

/-- What follows a number does not go on with it. -/
def Ends (rest : List Char) : Prop := ∀ c ∈ rest.head?, isNumberChar c = false

theorem readNumber_write (n : Numeral) {rest : List Char} (h : Ends rest) :
    readNumber (n.text ++ rest) = some (.number n, rest) := by
  have hall : ∀ c ∈ n.text, isNumberChar c = true := fun c hc => n.isNumberChar_of_mem hc
  have htake : rest.takeWhile isNumberChar = [] := by
    cases rest with
    | nil => rfl
    | cons c cs => rw [List.takeWhile_cons, h c rfl]; rfl
  have hdrop : rest.dropWhile isNumberChar = rest := by
    cases rest with
    | nil => rfl
    | cons c cs => rw [List.dropWhile_cons, h c rfl]; rfl
  have ht : (n.text ++ rest).takeWhile isNumberChar = n.text := by
    rw [List.takeWhile_append_of_pos hall, htake, List.append_nil]
  have hd : (n.text ++ rest).dropWhile isNumberChar = rest := by
    rw [List.dropWhile_append_of_pos hall, hdrop]
  unfold readNumber
  simp only [ht, hd, n.valid, ↓reduceDIte]

/-- A value starts with a character that is no space and closes nothing. -/
theorem exists_writeValue (v : Json) :
    ∃ c cs, writeValue v = c :: cs ∧ isJsonSpace c = false ∧ c ≠ ']' := by
  cases v with
  | null => exact ⟨_, _, rfl, by decide, by decide⟩
  | bool b => cases b <;> exact ⟨_, _, rfl, by decide, by decide⟩
  | string s => exact ⟨_, _, rfl, by decide, by decide⟩
  | array elements => exact ⟨_, _, by rw [writeValue], by decide, by decide⟩
  | object members => exact ⟨_, _, by rw [writeValue], by decide, by decide⟩
  | number n =>
    cases ht : n.text with
    | nil => exact absurd ht n.text_ne_nil
    | cons c cs =>
      have hc := n.isNumberChar_of_mem (c := c) (ht ▸ List.mem_cons_self)
      refine ⟨c, cs, by rw [writeValue, ht], ?_, ?_⟩
      · by_contra hs
        have hs' : isJsonSpace c = true := by simpa using hs
        simp only [isJsonSpace, Bool.or_eq_true, decide_eq_true_eq] at hs'
        rcases hs' with ((rfl | rfl) | rfl) | rfl <;> exact absurd hc (by decide)
      · rintro rfl
        exact absurd hc (by decide)

theorem skipSpace_cons {c : Char} (h : isJsonSpace c = false) (cs : List Char) :
    skipSpace (c :: cs) = c :: cs := by
  rw [skipSpace, List.dropWhile_cons, h]
  rfl

theorem readKey_write (key : String) (rest : List Char) :
    readKey (writeString key ++ ':' :: rest) = some (key, rest) := by
  rw [writeString_append, readKey, skipSpace_cons (by decide)]
  simp only [readString_write, skipSpace_cons (show isJsonSpace ':' = false by decide)]

theorem ends_cons {c : Char} (h : isNumberChar c = false) (cs : List Char) : Ends (c :: cs) := by
  intro d hd
  rw [List.head?_cons, Option.mem_def, Option.some.injEq] at hd
  rw [← hd, h]

/-- A number character opens nothing. -/
theorem readValue_number {c : Char} (hc : isNumberChar c = true) (fuel : Nat) (cs : List Char) :
    readValue (fuel + 1) (c :: cs) = readNumber (c :: cs) := by
  have hopen : ∀ d : Char, isNumberChar d = false → c ≠ d := by
    intro d hd e
    rw [e, hd] at hc
    cases hc
  have h1 : c ≠ quote := hopen _ (by decide)
  have h2 : c ≠ '[' := hopen _ (by decide)
  have h3 : c ≠ '{' := hopen _ (by decide)
  have hspace : isJsonSpace c = false := by
    have h4 : c ≠ ' ' := hopen _ (by decide)
    have h5 : c ≠ '\t' := hopen _ (by decide)
    have h6 : c ≠ '\n' := hopen _ (by decide)
    have h7 : c ≠ '\r' := hopen _ (by decide)
    simp [isJsonSpace, h4, h5, h6, h7]
  rw [readValue, skipSpace_cons hspace]
  simp only [h1, h2, h3, hc, ↓reduceIte]

theorem readValue_array {r : List Char} (h : (skipSpace r).head? ≠ some ']') (fuel : Nat) :
    readValue (fuel + 1) ('[' :: r) = (readElements fuel r).map fun p => (.array p.1, p.2) := by
  rw [readValue, skipSpace_cons (by decide)]
  show (if (skipSpace r).head? = some ']' then some (Json.array [], (skipSpace r).tail)
    else (readElements fuel r).map fun p => (Json.array p.1, p.2)) = _
  rw [if_neg h]

theorem readValue_object {r : List Char} (h : (skipSpace r).head? ≠ some '}') (fuel : Nat) :
    readValue (fuel + 1) ('{' :: r) = (readMembers fuel r).map fun p => (.object p.1, p.2) := by
  rw [readValue, skipSpace_cons (by decide)]
  show (if (skipSpace r).head? = some '}' then some (Json.object [], (skipSpace r).tail)
    else (readMembers fuel r).map fun p => (Json.object p.1, p.2)) = _
  rw [if_neg h]

theorem writeElements_cons (v w : Json) (ws : List Json) :
    writeElements (v :: w :: ws) = writeValue v ++ ',' :: writeElements (w :: ws) := by
  rw [writeElements]
  exact List.cons_ne_nil w ws

theorem writeMembers_cons (key : String) (v : Json) (m : String × Json)
    (ms : List (String × Json)) :
    writeMembers ((key, v) :: m :: ms) =
      writeString key ++ ':' :: (writeValue v ++ ',' :: writeMembers (m :: ms)) := by
  rw [writeMembers]
  exact List.cons_ne_nil m ms

/-- Elements start with the first of them. -/
theorem exists_writeElements (v : Json) (vs : List Json) :
    ∃ cs, writeElements (v :: vs) = writeValue v ++ cs := by
  cases vs with
  | nil => exact ⟨_, by rw [writeElements]⟩
  | cons w ws => exact ⟨_, writeElements_cons v w ws⟩

/-- Members start with the quote of a key. -/
theorem exists_writeMembers (m : String × Json) (ms : List (String × Json)) :
    ∃ cs, writeMembers (m :: ms) = quote :: cs := by
  cases ms with
  | nil => exact ⟨_, by rw [writeMembers, writeString_append]⟩
  | cons n ns => exact ⟨_, by rw [writeMembers_cons, writeString_append]⟩

theorem head?_writeElements (v : Json) (vs : List Json) (rest : List Char) :
    (skipSpace (writeElements (v :: vs) ++ rest)).head? ≠ some ']' := by
  obtain ⟨cs, hcs⟩ := exists_writeElements v vs
  obtain ⟨c, ds, hv, hs, hne⟩ := exists_writeValue v
  rw [hcs, hv, List.cons_append, List.cons_append, skipSpace_cons hs, List.head?_cons]
  exact fun e => hne (Option.some.inj e)

theorem head?_writeMembers (m : String × Json) (ms : List (String × Json)) (rest : List Char) :
    (skipSpace (writeMembers (m :: ms) ++ rest)).head? ≠ some '}' := by
  obtain ⟨cs, hcs⟩ := exists_writeMembers m ms
  rw [hcs, List.cons_append, skipSpace_cons (by decide), List.head?_cons]
  decide

/-- With this much fuel, values are read from their texts, whatever follows. -/
def ReadsValue (fuel : Nat) : Prop :=
  ∀ v rest, Ends rest → (writeValue v).length ≤ fuel →
    readValue fuel (writeValue v ++ rest) = some (v, rest)

def ReadsElements (fuel : Nat) : Prop :=
  ∀ v vs rest, (writeElements (v :: vs)).length ≤ fuel →
    readElements fuel (writeElements (v :: vs) ++ rest) = some (v :: vs, rest)

def ReadsMembers (fuel : Nat) : Prop :=
  ∀ m ms rest, (writeMembers (m :: ms)).length ≤ fuel →
    readMembers fuel (writeMembers (m :: ms) ++ rest) = some (m :: ms, rest)

variable {fuel : Nat}

theorem readsValue_succ (he : ReadsElements fuel) (hm : ReadsMembers fuel) :
    ReadsValue (fuel + 1) := by
  intro v rest hrest hf
  cases v with
  | null => rfl
  | bool b => cases b <;> rfl
  | number n =>
    obtain ⟨c, cs, hc⟩ := List.exists_cons_of_ne_nil n.text_ne_nil
    have hnum : isNumberChar c = true := n.isNumberChar_of_mem (hc ▸ List.mem_cons_self)
    rw [writeValue, hc, List.cons_append, readValue_number hnum, ← List.cons_append, ← hc,
      readNumber_write n hrest]
  | string s =>
    rw [writeValue, writeString_append, readValue, skipSpace_cons (by decide)]
    simp only [↓reduceIte, readString_write, Option.map_some]
  | array elements =>
    cases elements with
    | nil => rfl
    | cons w ws =>
      rw [writeValue, List.length_cons] at hf
      rw [writeValue, List.cons_append, readValue_array (head?_writeElements w ws rest),
        he w ws rest (by omega), Option.map_some]
  | object members =>
    cases members with
    | nil => rfl
    | cons m ms =>
      rw [writeValue, List.length_cons] at hf
      rw [writeValue, List.cons_append, readValue_object (head?_writeMembers m ms rest),
        hm m ms rest (by omega), Option.map_some]

theorem readsElements_succ (hv : ReadsValue fuel) (he : ReadsElements fuel) :
    ReadsElements (fuel + 1) := by
  intro v vs rest hf
  cases vs with
  | nil =>
    rw [writeElements, List.length_append, List.length_singleton] at hf
    have hr := hv v (']' :: rest) (ends_cons (by decide) rest) (by omega)
    rw [writeElements, List.append_assoc, List.singleton_append, readElements, hr]
    rfl
  | cons w ws =>
    rw [writeElements_cons, List.length_append, List.length_cons] at hf
    have hr := hv v (',' :: (writeElements (w :: ws) ++ rest)) (ends_cons (by decide) _) (by omega)
    have hws := he w ws rest (by omega)
    rw [writeElements_cons, List.append_assoc, List.cons_append, readElements, hr]
    simp only [skipSpace_cons (show isJsonSpace ',' = false by decide), hws, Option.map_some]

theorem readsMembers_succ (hv : ReadsValue fuel) (hm : ReadsMembers fuel) :
    ReadsMembers (fuel + 1) := by
  intro m ms rest hf
  obtain ⟨key, v⟩ := m
  cases ms with
  | nil =>
    rw [writeMembers, List.length_append, List.length_cons, List.length_append] at hf
    have hr := hv v ('}' :: rest) (ends_cons (by decide) rest) (by omega)
    rw [writeMembers, List.append_assoc, List.cons_append, List.append_assoc,
      List.singleton_append, readMembers, readKey_write]
    simp only [hr]
    rfl
  | cons n ns =>
    rw [writeMembers_cons, List.length_append, List.length_cons, List.length_append,
      List.length_cons] at hf
    have hr := hv v (',' :: (writeMembers (n :: ns) ++ rest)) (ends_cons (by decide) _) (by omega)
    have hns := hm n ns rest (by omega)
    rw [writeMembers_cons, List.append_assoc, List.cons_append, List.append_assoc,
      List.cons_append, readMembers, readKey_write]
    simp only [hr, skipSpace_cons (show isJsonSpace ',' = false by decide), hns, Option.map_some]

theorem reads (fuel : Nat) : ReadsValue fuel ∧ ReadsElements fuel ∧ ReadsMembers fuel := by
  induction fuel with
  | zero =>
    refine ⟨fun v rest _ hf => ?_, fun v vs rest hf => ?_, fun m ms rest hf => ?_⟩
    · obtain ⟨c, cs, hc, -, -⟩ := exists_writeValue v
      rw [hc, List.length_cons] at hf
      omega
    · obtain ⟨c, cs, hc, -, -⟩ := exists_writeValue v
      obtain ⟨ds, hds⟩ := exists_writeElements v vs
      rw [hds, hc, List.cons_append, List.length_cons] at hf
      omega
    · obtain ⟨cs, hcs⟩ := exists_writeMembers m ms
      rw [hcs, List.length_cons] at hf
      omega
  | succ fuel ih =>
    obtain ⟨hv, he, hm⟩ := ih
    exact ⟨readsValue_succ he hm, readsElements_succ hv he, readsMembers_succ hv hm⟩

/-- The reader gives back the value a text was written from. -/
@[simp] theorem Json.read_write (v : Json) : Json.read v.write = some v := by
  have hends : Ends [] := by
    intro c hc
    cases hc
  have hr := (reads _).1 v [] hends (Nat.le_succ (writeValue v).length)
  rw [List.append_nil] at hr
  rw [Json.read, Json.write, String.toList_ofList, hr]
  rfl

/-- A JSON writer: what it writes is a JSON text of the value. -/
def IsWriter (write : Json → String) : Prop := ∀ v, Json.read (write v) = some v

theorem isWriter_write : IsWriter Json.write := Json.read_write

/-! ## Objects -/

/-- The last member of a name. -/
def Json.get (name : String) : Json → Option Json
  | .object members => members.reverse.lookup name
  | _ => none

end Framework
