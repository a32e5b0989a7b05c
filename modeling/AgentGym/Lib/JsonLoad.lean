import Mathlib.Data.List.TakeWhile
import AgentGym.Lib.JsonText

/-!
# Reading any JSON text

Blanks may stand around every value and every separator, and a character may be written by
its code units. A value that is written on lines of its own, with every character beyond
ASCII escaped, is read back.
-/

namespace AgentGym.JsonLoad

open JsonText

/-! ### Blanks and characters -/

def isBlank (c : Char) : Bool := c = ' ' || c = '\t' || c = '\n' || c = '\r'

def skip (cs : List Char) : List Char := cs.dropWhile isBlank

def hexDigit (c : Char) : Option Nat :=
  if c.isDigit then some (c.toNat - 48)
  else if 97 ≤ c.toNat && c.toNat ≤ 102 then some (c.toNat - 87)
  else if 65 ≤ c.toNat && c.toNat ≤ 70 then some (c.toNat - 55)
  else none

/-- A code unit after `\u`. -/
def readUnit : List Char → Option (Nat × List Char)
  | a :: b :: c :: d :: cs => do
    let a ← hexDigit a
    let b ← hexDigit b
    let c ← hexDigit c
    let d ← hexDigit d
    pure (4096 * a + 256 * b + 16 * c + d, cs)
  | _ => none

/-- The second code unit of a pair. -/
def readLow (n : Nat) : List Char → Option (Char × List Char)
  | '\\' :: 'u' :: cs => (readUnit cs).bind fun p =>
    if 0xDC00 ≤ p.1 && p.1 ≤ 0xDFFF then some (Char.ofNat (0x10000 + (n - 0xD800) * 0x400 + (p.1 - 0xDC00)), p.2) else none
  | _ => none

/-- A character by its code units; no text has half of a pair. -/
def readPair (n : Nat) (cs : List Char) : Option (Char × List Char) :=
  if 0xD800 ≤ n && n ≤ 0xDBFF then readLow n cs
  else if 0xDC00 ≤ n && n ≤ 0xDFFF then none
  else some (Char.ofNat n, cs)

def escapes : List (Char × Char) :=
  [('"', '"'), ('\\', '\\'), ('/', '/'), ('b', Char.ofNat 8), ('f', Char.ofNat 12), ('n', '\n'), ('r', '\r'), ('t', '\t')]

/-- What follows a backslash. -/
def readEscape : List Char → Option (Char × List Char)
  | [] => none
  | c :: cs =>
    if c = 'u' then (readUnit cs).bind fun p => readPair p.1 p.2
    else (escapes.lookup c).map (·, cs)

/-- A character of a string; a control character must be escaped. -/
def readChar (c : Char) (cs : List Char) : Option (Char × List Char) :=
  if c = '\\' then readEscape cs
  else if c.toNat < 32 then none
  else some (c, cs)

/-- A string after its opening quote. -/
def readString : Nat → List Char → Option (List Char × List Char)
  | 0, _ => none
  | _ + 1, [] => none
  | n + 1, c :: cs =>
    if c = '"' then some ([], cs)
    else (readChar c cs).bind fun p => (readString n p.2).map fun q => (p.1 :: q.1, q.2)

/-! ### Numerals -/

/-- The digits at the front, if there are any. -/
def readDigits (cs : List Char) : Option (List Char × List Char) :=
  if (cs.takeWhile Char.isDigit).isEmpty then none else some (cs.takeWhile Char.isDigit, cs.dropWhile Char.isDigit)

/-- The digits of an integer do not start with a zero that something follows. -/
def readNatural : List Char → Option (List Char × List Char)
  | '0' :: cs => some (['0'], cs)
  | cs => readDigits cs

def readInteger : List Char → Option (List Char × List Char)
  | '-' :: cs => (readNatural cs).map fun p => ('-' :: p.1, p.2)
  | cs => readNatural cs

/-- A fraction, if one follows. -/
def readFraction : List Char → List Char × List Char
  | '.' :: cs =>
    match readDigits cs with
    | some (digits, rest) => ('.' :: digits, rest)
    | none => ([], '.' :: cs)
  | cs => ([], cs)

def readSign : List Char → List Char × List Char
  | '+' :: cs => (['+'], cs)
  | '-' :: cs => (['-'], cs)
  | cs => ([], cs)

/-- An exponent, if one follows. -/
def readExponent : List Char → List Char × List Char
  | [] => ([], [])
  | c :: cs =>
    if c = 'e' || c = 'E' then
      match readDigits (readSign cs).2 with
      | some (digits, rest) => (c :: (readSign cs).1 ++ digits, rest)
      | none => ([], c :: cs)
    else ([], c :: cs)

/-- An integer, and what is after its point or exponent. -/
def readNumeral (cs : List Char) : Option ((List Char × List Char) × List Char) :=
  (readInteger cs).map fun p => ((p.1, (readFraction p.2).1 ++ (readExponent (readFraction p.2).2).1),
    (readExponent (readFraction p.2).2).2)

/-! ### Values -/

section Read

variable {α : Type} (close : Char) (item : List Char → Option (α × List Char))

/-- Items between commas, up to the closing bracket. -/
def readItems : Nat → List Char → Option (List α × List Char)
  | 0, _ => none
  | n + 1, cs => (item (skip cs)).bind fun p =>
    match skip p.2 with
    | [] => none
    | c :: rest =>
      if c = close then some ([p.1], rest)
      else if c = ',' then (readItems n rest).map fun q => (p.1 :: q.1, q.2)
      else none

/-- The items of a list after its opening bracket. -/
def readList (n : Nat) (cs : List Char) : Option (List α × List Char) :=
  match skip cs with
  | [] => none
  | c :: rest => if c = close then some ([], rest) else readItems close item n (c :: rest)

end Read

/-- An object of these pairs; a later value for a key replaces an earlier one. -/
def object (pairs : List (String × Json)) : Json := .ofDict (Dict.empty.update pairs)

def readField (n : Nat) (value : List Char → Option (Json × List Char)) :
    List Char → Option ((String × Json) × List Char)
  | '"' :: cs => (readString n cs).bind fun p =>
    match skip p.2 with
    | ':' :: rest => (value (skip rest)).map fun q => ((String.ofList p.1, q.1), q.2)
    | _ => none
  | _ => none

section Value

variable (readFloat : String → Option Rat)

/-- An integer, or the float that the text stands for; zero has a sign. -/
def numeralValue (integer fraction : List Char) : Option Json :=
  if fraction.isEmpty then (readInt integer).map Json.int
  else (readFloat (String.ofList (integer ++ fraction))).map fun q =>
    if q = 0 && integer.head? == some '-' then .negZero else .float q

def readValue : Nat → List Char → Option (Json × List Char)
  | 0, _ => none
  | _ + 1, [] => none
  | n + 1, c :: cs =>
    if c = '[' then (readList ']' (readValue n) n cs).map fun p => (.arr p.1, p.2)
    else if c = '{' then (readList '}' (readField n (readValue n)) n cs).map fun p => (object p.1, p.2)
    else if c = '"' then (readString n cs).map fun p => (.str (String.ofList p.1), p.2)
    else if c = 'n' then readLiteral ['u', 'l', 'l'] .null cs
    else if c = 't' then readLiteral ['r', 'u', 'e'] (.bool true) cs
    else if c = 'f' then readLiteral ['a', 'l', 's', 'e'] (.bool false) cs
    else (readNumeral (c :: cs)).bind fun p => (numeralValue readFloat p.1.1 p.1.2).map (·, p.2)

/-- `json.loads`: one value, with blanks around it. -/
def loads (text : String) : Except String Json :=
  match readValue readFloat text.toList.length (skip text.toList) with
  | some (v, rest) => if (skip rest).isEmpty then .ok v else .error "Extra data"
  | none => .error "Expecting value"

end Value

/-! ### Reading what was escaped -/

theorem hexDigit_digitChar : ∀ n < 16, hexDigit (Nat.digitChar n) = some n := by decide

theorem readUnit_codeUnit {n : Nat} (unit : n < 65536) (cs : List Char) :
    ∃ digits, codeUnit n = '\\' :: 'u' :: digits ∧ readUnit (digits ++ cs) = some (n, cs) := by
  refine ⟨[n / 4096, n / 256 % 16, n / 16 % 16, n % 16].map Nat.digitChar, rfl, ?_⟩
  have whole : 4096 * (n / 4096) + 256 * (n / 256 % 16) + 16 * (n / 16 % 16) + n % 16 = n := by omega
  simp only [List.map_cons, List.map_nil, List.cons_append, List.nil_append, readUnit,
    hexDigit_digitChar (n / 4096) (by omega), hexDigit_digitChar (n / 256 % 16) (by omega),
    hexDigit_digitChar (n / 16 % 16) (by omega), hexDigit_digitChar (n % 16) (by omega), Option.bind_eq_bind,
    Option.bind_some, Option.pure_def, whole]

theorem charRange (c : Char) : c.toNat < 0xD800 ∨ 0xDFFF < c.toNat ∧ c.toNat < 0x110000 := c.valid

theorem readPair_single {c : Char} (small : c.toNat < 65536) (cs : List Char) : readPair c.toNat cs = some (c, cs) := by
  have range := charRange c
  have high : ¬ (0xD800 ≤ c.toNat && c.toNat ≤ 0xDBFF) = true := by
    simp only [Bool.and_eq_true, decide_eq_true_eq]
    omega
  have low : ¬ (0xDC00 ≤ c.toNat && c.toNat ≤ 0xDFFF) = true := by
    simp only [Bool.and_eq_true, decide_eq_true_eq]
    omega
  rw [readPair, if_neg high, if_neg low, Char.ofNat_toNat]

theorem readLow_of_unit {n m : Nat} {cs rest : List Char} (read : readUnit cs = some (m, rest))
    (low : (0xDC00 ≤ m && m ≤ 0xDFFF) = true) :
    readLow n ('\\' :: 'u' :: cs) = some (Char.ofNat (0x10000 + (n - 0xD800) * 0x400 + (m - 0xDC00)), rest) := by
  rw [readLow, read, Option.bind_some, if_pos low]

theorem readPair_pair {c : Char} (large : 65536 ≤ c.toNat) (cs : List Char) :
    readPair (55296 + (c.toNat - 65536) / 1024) (codeUnit (56320 + (c.toNat - 65536) % 1024) ++ cs) = some (c, cs) := by
  have range := charRange c
  obtain ⟨digits, text, read⟩ := readUnit_codeUnit (show 56320 + (c.toNat - 65536) % 1024 < 65536 by omega) cs
  have high : (0xD800 ≤ 55296 + (c.toNat - 65536) / 1024 && 55296 + (c.toNat - 65536) / 1024 ≤ 0xDBFF) = true := by
    simp only [Bool.and_eq_true, decide_eq_true_eq]
    omega
  have low : (0xDC00 ≤ 56320 + (c.toNat - 65536) % 1024 && 56320 + (c.toNat - 65536) % 1024 ≤ 0xDFFF) = true := by
    simp only [Bool.and_eq_true, decide_eq_true_eq]
    omega
  have whole : 0x10000 + (55296 + (c.toNat - 65536) / 1024 - 0xD800) * 0x400 +
      (56320 + (c.toNat - 65536) % 1024 - 0xDC00) = c.toNat := by omega
  rw [readPair, if_pos high, text, List.cons_append, List.cons_append, readLow_of_unit read low, whole, Char.ofNat_toNat]

theorem control_eq {c : Char} (low : c.toNat < 32) :
    (∃ e, JsonText.control c = ['\\', e] ∧ e ≠ 'u' ∧ escapes.lookup e = some c) ∨ JsonText.control c = codeUnit c.toNat := by
  have code : Char.ofNat c.toNat = c := Char.ofNat_toNat c
  unfold JsonText.control
  by_cases newline : c = '\n'
  · subst newline
    exact .inl ⟨'n', rfl, by decide, by decide⟩
  by_cases feed : c = '\r'
  · subst feed
    exact .inl ⟨'r', rfl, by decide, by decide⟩
  by_cases tab : c = '\t'
  · subst tab
    exact .inl ⟨'t', rfl, by decide, by decide⟩
  rw [if_neg newline, if_neg feed, if_neg tab]
  by_cases back : c.toNat = 8
  · rw [back] at code
    rw [if_pos back]
    exact .inl ⟨'b', rfl, by decide, by rw [← code]; decide⟩
  by_cases page : c.toNat = 12
  · rw [page] at code
    rw [if_neg back, if_pos page]
    exact .inl ⟨'f', rfl, by decide, by rw [← code]; decide⟩
  rw [if_neg back, if_neg page]
  have digits : c.toNat / 4096 = 0 ∧ c.toNat / 256 % 16 = 0 ∧ c.toNat / 16 % 16 = c.toNat / 16 := by omega
  right
  rw [codeUnit, digits.1, digits.2.1, digits.2.2]
  rfl

/-- What a character is written as starts no end of a string, and is read as the character. -/
theorem readChar_asciiEscape (c : Char) (cs : List Char) :
    ∃ first rest, asciiEscape c = first :: rest ∧ first ≠ '"' ∧ readChar first (rest ++ cs) = some (c, cs) := by
  have escaped : ∀ e, e ≠ 'u' → escapes.lookup e = some c → readChar '\\' ([e] ++ cs) = some (c, cs) := by
    intro e other found
    show readEscape (e :: cs) = _
    rw [readEscape, if_neg other, found]
    rfl
  have unit : ∀ {n} more result, n < 65536 → readPair n more = result →
      ∃ rest, codeUnit n = '\\' :: rest ∧ readChar '\\' (rest ++ more) = result := by
    intro n more result small pair
    obtain ⟨digits, text, read⟩ := readUnit_codeUnit small more
    refine ⟨'u' :: digits, text, ?_⟩
    show (readUnit (digits ++ more)).bind _ = _
    rw [read]
    exact pair
  unfold asciiEscape
  by_cases ascii : c.toNat < 127
  · rw [if_pos ascii]
    unfold escape
    by_cases isQuote : c = '"'
    · subst isQuote
      exact ⟨_, _, rfl, by decide, escaped _ (by decide) (by decide)⟩
    by_cases isSlash : c = '\\'
    · subst isSlash
      exact ⟨_, _, rfl, by decide, escaped _ (by decide) (by decide)⟩
    rw [if_neg isQuote, if_neg isSlash]
    by_cases low : c.toNat < 32
    · rw [if_pos low]
      obtain ⟨e, text, other, found⟩ | text := control_eq low
      · exact ⟨_, _, text, by decide, escaped e other found⟩
      · obtain ⟨rest, shape, read⟩ := unit cs _ (by omega) (readPair_single (c := c) (by omega) cs)
        exact ⟨_, rest, text.trans shape, by decide, read⟩
    · rw [if_neg low]
      exact ⟨c, [], rfl, isQuote, by rw [readChar, if_neg isSlash, if_neg low]; rfl⟩
  · rw [if_neg ascii]
    by_cases small : c.toNat < 65536
    · rw [if_pos small]
      obtain ⟨rest, shape, read⟩ := unit cs _ small (readPair_single small cs)
      exact ⟨_, rest, shape, by decide, read⟩
    · rw [if_neg small]
      have range := charRange c
      obtain ⟨rest, shape, read⟩ := unit _ _ (show 55296 + (c.toNat - 65536) / 1024 < 65536 by omega)
        (readPair_pair (c := c) (by omega) cs)
      refine ⟨_, rest ++ codeUnit (56320 + (c.toNat - 65536) % 1024), by rw [shape]; rfl, by decide, ?_⟩
      rw [List.append_assoc]
      exact read

theorem readString_asciiQuoted {n : Nat} {s : List Char} (fuel : s.length < n) (rest : List Char) :
    readString n (s.flatMap asciiEscape ++ '"' :: rest) = some (s, rest) := by
  induction s generalizing n with
  | nil =>
    obtain ⟨n, rfl⟩ := Nat.exists_eq_succ_of_ne_zero (Nat.ne_of_gt fuel)
    rfl
  | cons c s ih =>
    obtain ⟨n, rfl⟩ := Nat.exists_eq_succ_of_ne_zero (Nat.ne_of_gt (Nat.zero_lt_of_lt fuel))
    obtain ⟨first, more, text, other, read⟩ := readChar_asciiEscape c (s.flatMap asciiEscape ++ '"' :: rest)
    rw [List.flatMap_cons, List.append_assoc, text, List.cons_append, readString, if_neg other, read]
    simp only [Option.bind_some, ih (Nat.lt_of_succ_lt_succ fuel), Option.map_some]

theorem length_asciiEscape (c : Char) : 1 ≤ (asciiEscape c).length := by
  obtain ⟨first, rest, text, -⟩ := readChar_asciiEscape c []
  rw [text]
  exact Nat.succ_pos _

theorem length_asciiQuoted (s : List Char) : s.length ≤ (s.flatMap asciiEscape).length := by
  induction s with
  | nil => exact Nat.le_refl _
  | cons c s ih =>
    have one := length_asciiEscape c
    rw [List.flatMap_cons, List.length_append, List.length_cons]
    omega

/-! ### Reading numerals -/

/-- How floats are written: as numerals with a fraction or an exponent, and zero without a sign. -/
structure Numerals (float : Rat → String) (readFloat : String → Option Rat) : Prop extends FloatText float readFloat where
  scanned : ∀ q rest, Stops rest → ∃ integer fraction, integer ++ fraction = (float q).toList ∧ fraction ≠ [] ∧
    readNumeral ((float q).toList ++ rest) = some ((integer, fraction), rest)
  positive : (float 0).toList.head? ≠ some '-'
  negative : readFloat "-0.0" = some 0

theorem not_digit_of_stops {rest : List Char} (stops : Stops rest) : ∀ c ∈ rest.head?, c.isDigit = false := by
  intro c head
  have other := stops c head
  unfold isNumeral at other
  cases digit : c.isDigit with
  | false => rfl
  | true =>
    rw [digit] at other
    cases other

theorem readDigits_append {digits rest : List Char} (all : ∀ c ∈ digits, c.isDigit = true) (some_ : digits ≠ [])
    (stops : ∀ c ∈ rest.head?, c.isDigit = false) : readDigits (digits ++ rest) = some (digits, rest) := by
  have none : rest.takeWhile Char.isDigit = [] ∧ rest.dropWhile Char.isDigit = rest := by
    cases rest with
    | nil => exact ⟨rfl, rfl⟩
    | cons c rest =>
      have other := stops c rfl
      exact ⟨by simp [other], by simp [other]⟩
  rw [readDigits, List.takeWhile_append_of_pos all, List.dropWhile_append_of_pos all, none.1, none.2, List.append_nil,
    if_neg (by simpa using some_)]

theorem head_toDigits {n : Nat} (pos : 0 < n) : ∃ c cs, Nat.toDigits 10 n = c :: cs ∧ c ≠ '0' := by
  induction n using Nat.strong_induction_on with
  | h n ih =>
    by_cases small : n < 10
    · refine ⟨_, [], Nat.toDigits_of_lt_base small, ?_⟩
      have each : ∀ d < 10, 0 < d → Nat.digitChar d ≠ '0' := by decide
      exact each n small pos
    · obtain ⟨c, cs, text, other⟩ := ih (n / 10) (by omega) (by omega)
      exact ⟨c, cs ++ [Nat.digitChar (n % 10)], by rw [Nat.toDigits_of_base_le (by decide) (by omega), text]; rfl, other⟩

theorem readNatural_toDigits (n : Nat) {rest : List Char} (stops : ∀ c ∈ rest.head?, c.isDigit = false) :
    readNatural (Nat.toDigits 10 n ++ rest) = some (Nat.toDigits 10 n, rest) := by
  rcases Nat.eq_zero_or_pos n with rfl | pos
  · rw [Nat.toDigits_zero]
    rfl
  · have all : ∀ c ∈ Nat.toDigits 10 n, c.isDigit = true :=
      fun c member => Nat.isDigit_of_mem_toDigits (by decide) (by decide) member
    obtain ⟨c, cs, text, other⟩ := head_toDigits pos
    have scan := readDigits_append all Nat.toDigits_ne_nil stops
    rw [text, List.cons_append] at scan ⊢
    rw [readNatural, scan]
    exact fun _ same => other (List.cons.inj same).1

theorem readInteger_writeInt (i : Int) {rest : List Char} (stops : ∀ c ∈ rest.head?, c.isDigit = false) :
    readInteger (writeInt i ++ rest) = some (writeInt i, rest) := by
  cases i with
  | ofNat n =>
    have first : ∀ cs, writeInt (.ofNat n) ++ rest = '-' :: cs → False := by
      intro cs same
      obtain ⟨c, more, text⟩ := List.exists_cons_of_ne_nil (Nat.toDigits_ne_nil (n := n) (b := 10))
      have digit : c.isDigit = true :=
        Nat.isDigit_of_mem_toDigits (b := 10) (n := n) (by decide) (by decide) (by rw [text]; exact List.mem_cons_self)
      rw [writeInt, text, List.cons_append] at same
      rw [(List.cons.inj same).1] at digit
      exact absurd digit (by decide)
    rw [readInteger.eq_2 _ first]
    exact readNatural_toDigits n stops
  | negSucc n =>
    show (readNatural (Nat.toDigits 10 (n + 1) ++ rest)).map _ = _
    rw [readNatural_toDigits (n + 1) stops]
    rfl

/-- Nothing is left of a numeral where something else follows. -/
theorem stops_ends {rest : List Char} (stops : Stops rest) :
    readFraction rest = ([], rest) ∧ readExponent rest = ([], rest) := by
  cases rest with
  | nil => exact ⟨rfl, rfl⟩
  | cons c rest =>
    have other : ∀ d, isNumeral d = true → c ≠ d := by
      rintro d numeral rfl
      rw [stops c rfl] at numeral
      cases numeral
    refine ⟨readFraction.eq_2 _ fun _ same => other '.' rfl (List.cons.inj same).1, ?_⟩
    rw [readExponent, if_neg]
    simp [other 'e' rfl, other 'E' rfl]

theorem readNumeral_writeInt (i : Int) {rest : List Char} (stops : Stops rest) :
    readNumeral (writeInt i ++ rest) = some ((writeInt i, []), rest) := by
  obtain ⟨fraction, exponent⟩ := stops_ends stops
  rw [readNumeral, readInteger_writeInt i (not_digit_of_stops stops), Option.map_some, fraction, exponent]
  rfl

/-! ### Reading values on lines of their own -/

theorem skip_of_other {c : Char} (other : isBlank c = false) (cs : List Char) : skip (c :: cs) = c :: cs := by
  simp [skip, other]

theorem skip_newline (level : Nat) {c : Char} (other : isBlank c = false) (cs : List Char) :
    skip (newline level ++ c :: cs) = c :: cs := by
  have blank : ∀ b ∈ newline level, isBlank b = true := by
    intro b member
    rcases List.mem_cons.mp member with rfl | space
    · rfl
    · rw [List.eq_of_mem_replicate space]
      rfl
  rw [skip, List.dropWhile_append_of_pos blank]
  exact skip_of_other other cs

/-- The text starts with something that is neither a blank nor the end of a list. -/
def Opens (close : Char) (text : List Char) : Prop := ∃ c cs, text = c :: cs ∧ isBlank c = false ∧ c ≠ close

section Lists

variable {α : Type} {close : Char} {item : List Char → Option (α × List Char)}

theorem Opens.skip {piece : List Char} (opens : Opens close piece) (level : Nat) (tail : List Char) :
    skip (newline level ++ (piece ++ tail)) = piece ++ tail := by
  obtain ⟨c, cs, rfl, other, -⟩ := opens
  exact skip_newline level other (cs ++ tail)

theorem stops_newline (level : Nat) (cs : List Char) : Stops (newline level ++ cs) := by
  intro c head
  obtain rfl := Option.some.inj head
  rfl

theorem stops_comma (cs : List Char) : Stops (',' :: cs) := by
  intro c head
  obtain rfl := Option.some.inj head
  rfl

theorem readItems_onLines (noComma : close ≠ ',') (notBlank : isBlank close = false)
    {level outer : Nat} {values : List α} {pieces : List (List Char)} (reads : ReadsAll item values pieces)
    (opens : ∀ piece ∈ pieces, Opens close piece) (some_ : pieces ≠ []) {n : Nat} (fuel : pieces.length ≤ n)
    (rest : List Char) :
    readItems close item n (onLines level pieces ++ (newline outer ++ close :: rest)) = some (values, rest) := by
  induction pieces generalizing values n with
  | nil => exact absurd rfl some_
  | cons piece pieces ih =>
    obtain ⟨a, values, first, others, rfl⟩ := List.forall₂_cons_right_iff.mp reads
    obtain ⟨opened, later⟩ := List.forall_mem_cons.mp opens
    obtain ⟨n, rfl⟩ := Nat.exists_eq_succ_of_ne_zero (Nat.ne_of_gt (Nat.lt_of_lt_of_le (Nat.succ_pos _) fuel))
    cases pieces with
    | nil =>
      obtain rfl := List.forall₂_nil_right_iff.mp others
      rw [onLines, List.append_assoc, readItems, opened.skip, first _ (stops_newline outer _), Option.bind_some]
      simp only [skip_newline outer notBlank, if_true]
    | cons next pieces =>
      have tail := ih others later (List.cons_ne_nil _ _) (Nat.le_of_succ_le_succ fuel)
      rw [onLines, List.append_assoc, List.append_assoc, List.cons_append, readItems, opened.skip, first _ (stops_comma _),
        Option.bind_some]
      · simp only [skip_of_other (show isBlank ',' = false from rfl), if_neg (Ne.symm noComma), if_true, tail, Option.map_some]
      · exact List.cons_ne_nil _ _

theorem onLines_cons (level : Nat) (piece : List Char) (pieces : List (List Char)) :
    ∃ more, onLines level (piece :: pieces) = newline level ++ (piece ++ more) := by
  cases pieces with
  | nil => exact ⟨[], by rw [onLines, List.append_nil]⟩
  | cons next pieces => exact ⟨_, by rw [onLines, List.append_assoc]; exact List.cons_ne_nil _ _⟩

theorem readList_onLines (noComma : close ≠ ',') (notBlank : isBlank close = false)
    {level outer : Nat} {values : List α} {pieces : List (List Char)} (reads : ReadsAll item values pieces)
    (opens : ∀ piece ∈ pieces, Opens close piece) (some_ : pieces ≠ []) {n : Nat} (fuel : pieces.length ≤ n)
    (rest : List Char) :
    readList close item n (onLines level pieces ++ (newline outer ++ close :: rest)) = some (values, rest) := by
  have items : readItems close item n (onLines level pieces ++ (newline outer ++ close :: rest)) = some (values, rest) :=
    readItems_onLines noComma notBlank reads opens some_ fuel rest
  obtain ⟨piece, pieces, rfl⟩ := List.exists_cons_of_ne_nil some_
  obtain ⟨more, lines⟩ := onLines_cons level piece pieces
  have opened := opens piece List.mem_cons_self
  rw [lines, List.append_assoc, List.append_assoc] at items ⊢
  have skipped := opened.skip level (more ++ (newline outer ++ close :: rest))
  obtain ⟨c, cs, rfl, other, notClose⟩ := opened
  have again : readItems close item n (c :: (cs ++ (more ++ (newline outer ++ close :: rest)))) = some (values, rest) := by
    rw [← items]
    cases n with
    | zero => rfl
    | succ n => rw [readItems, readItems, skipped, skip_of_other other, List.cons_append]
  rw [readList, skipped]
  simp only [List.cons_append, if_neg notClose, again]

end Lists

section RoundTrip

variable {float : Rat → String} {readFloat : String → Option Rat}

theorem numeralValue_write (laws : Numerals float readFloat) {v : Json} (number : IsNumber v) {rest : List Char}
    (stops : Stops rest) : ∃ integer fraction, readNumeral (write float v ++ rest) = some ((integer, fraction), rest) ∧
      numeralValue readFloat integer fraction = some v := by
  rcases number with ⟨i, rfl⟩ | ⟨q, rfl⟩ | rfl
  · refine ⟨writeInt i, [], readNumeral_writeInt i stops, ?_⟩
    rw [numeralValue, readInt_writeInt]
    rfl
  · obtain ⟨integer, fraction, text, some_, scanned⟩ := laws.scanned q rest stops
    refine ⟨integer, fraction, scanned, ?_⟩
    have value : readFloat (String.ofList (integer ++ fraction)) = some q := by
      rw [text, String.ofList_toList, laws.read]
    have plain : (q = 0 && integer.head? == some '-') = false := by
      rw [Bool.and_eq_false_iff]
      by_cases zero : q = 0
      · subst zero
        right
        rw [beq_eq_false_iff_ne]
        intro minus
        obtain ⟨cs, rfl⟩ := List.head?_eq_some_iff.mp minus
        exact laws.positive (by rw [← text]; rfl)
      · exact .inl (decide_eq_false zero)
    rw [numeralValue, if_neg (by simpa using some_), value]
    simp only [Option.map_some, plain, Bool.false_eq_true, if_false]
  · have zeros : ∀ c ∈ ['0'], c.isDigit = true := List.forall_mem_singleton.mpr rfl
    have zero : readDigits ('0' :: rest) = some (['0'], rest) :=
      readDigits_append zeros (List.cons_ne_nil _ _) (not_digit_of_stops stops)
    have exponent := (stops_ends stops).2
    refine ⟨['-', '0'], ['.', '0'], ?_, ?_⟩
    · have fraction : readFraction ('.' :: '0' :: rest) = (['.', '0'], rest) := by
        rw [readFraction, zero]
      show (readInteger ('-' :: '0' :: '.' :: '0' :: rest)).map _ = _
      rw [show readInteger ('-' :: '0' :: '.' :: '0' :: rest) = some (['-', '0'], '.' :: '0' :: rest) from rfl,
        Option.map_some, fraction, exponent]
      rfl
    · rw [numeralValue, if_neg (by decide), show String.ofList (['-', '0'] ++ ['.', '0']) = "-0.0" from rfl, laws.negative]
      rfl

/-- A value that is read back from its lines, wherever something else follows. -/
def ReadsLines (float : Rat → String) (readFloat : String → Option Rat) (v : Json) : Prop :=
  ∀ level n rest, (indented float level v).length ≤ n → Stops rest →
    readValue readFloat n (indented float level v ++ rest) = some (v, rest)

theorem readsLines_numeral (laws : Numerals float readFloat) {v : Json} (number : IsNumber v) {n : Nat} {rest : List Char}
    (fuel : (write float v).length ≤ n) (stops : Stops rest) :
    readValue readFloat n (write float v ++ rest) = some (v, rest) := by
  obtain ⟨-, all, some_⟩ := readNumeral_write laws.toFloatText number
  obtain ⟨integer, fraction, scanned, value⟩ := numeralValue_write laws number stops
  obtain ⟨c, cs, text⟩ := List.exists_cons_of_ne_nil some_
  have first : isNumeral c = true := all c (by simp [text])
  have other : ∀ d, isNumeral d = false → c ≠ d := by
    rintro d no rfl
    rw [first] at no
    cases no
  rw [text] at fuel scanned ⊢
  obtain ⟨n, rfl⟩ := Nat.exists_eq_succ_of_ne_zero (Nat.ne_of_gt (Nat.lt_of_lt_of_le (Nat.succ_pos _) fuel))
  rw [List.cons_append] at scanned ⊢
  rw [readValue, if_neg (other _ rfl), if_neg (other _ rfl), if_neg (other _ rfl), if_neg (other _ rfl),
    if_neg (other _ rfl), if_neg (other _ rfl), scanned, Option.bind_some, value]
  rfl

theorem readsLines_str (s : String) : ReadsLines float readFloat (.str s) := by
  intro level n rest fuel stops
  have longer := length_asciiQuoted s.toList
  rw [indented] at fuel ⊢
  simp only [asciiQuote, List.length_append, List.length_cons, List.length_nil] at fuel
  obtain ⟨n, rfl⟩ := Nat.exists_eq_succ_of_ne_zero (show n ≠ 0 by omega)
  have read : readString n (s.toList.flatMap asciiEscape ++ '"' :: rest) = some (s.toList, rest) :=
    readString_asciiQuoted (by omega) rest
  rw [asciiQuote, List.append_assoc, List.singleton_append, List.cons_append, readValue, if_neg (by decide),
    if_neg (by decide), if_pos rfl, read]
  simp only [Option.map_some, String.ofList_toList]

theorem indented_write {v : Json} (leaf : v.isLeaf = true) (text : ∀ s, v ≠ .str s) (level : Nat) :
    indented float level v = write float v := by
  cases v with
  | str s => exact absurd rfl (text s)
  | arr xs => cases leaf
  | obj kvs => cases leaf
  | _ => simp [indented]

theorem isBlank_of_numeral {c : Char} (numeral : isNumeral c = true) : isBlank c = false := by
  have other : ∀ d, isNumeral d = false → c ≠ d := by
    rintro d no rfl
    rw [numeral] at no
    cases no
  simp [isBlank, other ' ' rfl, other '\t' rfl, other '\n' rfl, other '\r' rfl]

/-- A value starts with something that ends no list. -/
theorem indented_opens (laws : Numerals float readFloat) (level : Nat) (v : Json) :
    Opens ']' (indented float level v) := by
  have number : IsNumber v → Opens ']' (write float v) := by
    intro number
    obtain ⟨-, all, some_⟩ := readNumeral_write laws.toFloatText number
    obtain ⟨c, cs, text⟩ := List.exists_cons_of_ne_nil some_
    have first : isNumeral c = true := all c (by simp [text])
    refine ⟨c, cs, text, isBlank_of_numeral first, ?_⟩
    rintro rfl
    exact absurd first (by decide)
  have opens : Opens ']' (write float v) → v.isLeaf = true → (∀ s, v ≠ .str s) → Opens ']' (indented float level v) := by
    intro opens leaf text
    rwa [indented_write leaf text]
  cases v with
  | null => exact opens ⟨_, _, rfl, by decide, by decide⟩ rfl (by simp)
  | bool b => exact opens (by cases b <;> exact ⟨_, _, rfl, by decide, by decide⟩) rfl (by simp)
  | int i => exact opens (number (.inl ⟨i, rfl⟩)) rfl (by simp)
  | float q => exact opens (number (.inr (.inl ⟨q, rfl⟩))) rfl (by simp)
  | negZero => exact opens (number (.inr (.inr rfl))) rfl (by simp)
  | str s => rw [indented]; exact ⟨_, _, rfl, by decide, by decide⟩
  | arr xs => cases xs <;> rw [indented] <;> exact ⟨_, _, rfl, by decide, by decide⟩
  | obj kvs => cases kvs <;> rw [indented] <;> exact ⟨_, _, rfl, by decide, by decide⟩

theorem readsLines_leaf (laws : Numerals float readFloat) {v : Json} (leaf : v.isLeaf = true) :
    ReadsLines float readFloat v := by
  have number : (∀ s, v ≠ .str s) → IsNumber v → ReadsLines float readFloat v := by
    intro text number level n rest fuel stops
    rw [indented_write leaf text] at fuel ⊢
    exact readsLines_numeral laws number fuel stops
  have literal : (∀ s, v ≠ .str s) → (∀ n rest, readValue readFloat (n + 1) (write float v ++ rest) = some (v, rest)) →
      ReadsLines float readFloat v := by
    intro text read level n rest fuel stops
    obtain ⟨c, cs, opens, -⟩ := indented_opens laws level v
    rw [opens] at fuel
    obtain ⟨n, rfl⟩ := Nat.exists_eq_succ_of_ne_zero (Nat.ne_of_gt (Nat.lt_of_lt_of_le (Nat.succ_pos _) fuel))
    rw [indented_write leaf text]
    exact read n rest
  cases v with
  | null => exact literal (by simp) fun n rest => by simp [write, readValue, readLiteral]
  | bool b => exact literal (by simp) fun n rest => by cases b <;> simp [write, readValue, readLiteral]
  | int i => exact number (by simp) (.inl ⟨i, rfl⟩)
  | float q => exact number (by simp) (.inr (.inl ⟨q, rfl⟩))
  | negZero => exact number (by simp) (.inr (.inr rfl))
  | str s => exact readsLines_str s
  | arr xs => cases leaf
  | obj kvs => cases leaf

theorem indentedItems_eq (level : Nat) (xs : List Json) :
    indentedItems float level xs = xs.map (indented float level) := by
  induction xs with
  | nil => rfl
  | cons x xs ih => rw [indentedItems, ih, List.map_cons]

def indentedField (float : Rat → String) (level : Nat) (e : String × Json) : List Char :=
  asciiQuote e.1.toList ++ ':' :: ' ' :: indented float level e.2

theorem indentedFields_eq (level : Nat) (kvs : List (String × Json)) :
    indentedFields float level kvs = kvs.map (indentedField float level) := by
  induction kvs with
  | nil => rfl
  | cons e kvs ih =>
    obtain ⟨k, v⟩ := e
    rw [indentedFields, ih, List.map_cons]
    rfl

/-- Lines are more than the pieces on them, and as long as each. -/
theorem length_onLines (level : Nat) (pieces : List (List Char)) :
    pieces.length ≤ (onLines level pieces).length ∧ ∀ p ∈ pieces, p.length ≤ (onLines level pieces).length := by
  induction pieces with
  | nil => simp [onLines]
  | cons piece pieces ih =>
    obtain ⟨count, each⟩ := ih
    have break_ : 1 ≤ (newline level).length := Nat.succ_pos _
    cases pieces with
    | nil =>
      simp only [onLines, List.length_append, List.length_cons, List.length_nil, List.forall_mem_singleton]
      omega
    | cons next pieces =>
      rw [onLines]
      · simp only [List.length_append, List.length_cons] at count ⊢
        refine ⟨by omega, List.forall_mem_cons.mpr ⟨by omega, fun p member => ?_⟩⟩
        have bound := each p member
        omega
      · exact List.cons_ne_nil _ _

theorem readsLines_arr (laws : Numerals float readFloat) {xs : List Json}
    (items : ∀ x ∈ xs, ReadsLines float readFloat x) :
    ReadsLines float readFloat (.arr xs) := by
  intro level n rest fuel stops
  cases xs with
  | nil =>
    rw [indented] at fuel ⊢
    obtain ⟨n, rfl⟩ := Nat.exists_eq_succ_of_ne_zero (Nat.ne_of_gt (Nat.lt_of_lt_of_le (Nat.succ_pos _) fuel))
    rfl
  | cons x xs =>
    rw [indented, indentedItems_eq] at fuel ⊢
    simp only [List.length_append, List.length_cons] at fuel
    obtain ⟨n, rfl⟩ := Nat.exists_eq_succ_of_ne_zero (show n ≠ 0 by omega)
    obtain ⟨count, each⟩ := length_onLines (level + 1) ((x :: xs).map (indented float (level + 1)))
    have reads : ReadsAll (readValue readFloat n) (x :: xs) ((x :: xs).map (indented float (level + 1))) := by
      unfold ReadsAll
      rw [List.forall₂_map_right_iff, List.forall₂_same]
      intro x member rest stops
      have bound := each _ (List.mem_map_of_mem member)
      exact items x member (level + 1) n rest (by omega) stops
    have opens : ∀ piece ∈ (x :: xs).map (indented float (level + 1)), Opens ']' piece := by
      intro piece member
      obtain ⟨x, -, rfl⟩ := List.mem_map.mp member
      exact indented_opens laws (level + 1) x
    rw [List.append_assoc, List.append_assoc, List.cons_append, readValue, if_pos rfl, List.singleton_append,
      readList_onLines (by decide) rfl reads opens (by simp) (by omega)]
    rfl

theorem entries_set_fresh {entries : List (String × Json)} {k : String} (fresh : k ∉ entries.map Prod.fst) (v : Json) :
    Entries.set entries k v = entries ++ [(k, v)] := by
  induction entries with
  | nil => rfl
  | cons e entries ih =>
    obtain ⟨k', v'⟩ := e
    rw [List.map_cons, List.mem_cons, not_or] at fresh
    rw [Entries.set, if_neg (Ne.symm fresh.1), ih fresh.2]
    rfl

theorem entries_update {d : Dict String Json} {pairs : List (String × Json)}
    (nodup : (d.keys ++ pairs.map Prod.fst).Nodup) : (d.update pairs).entries = d.entries ++ pairs := by
  induction pairs generalizing d with
  | nil => exact (List.append_nil _).symm
  | cons e pairs ih =>
    have fresh : e.1 ∉ d.entries.map Prod.fst := fun inside =>
      (List.nodup_append.mp nodup).2.2 _ inside _ List.mem_cons_self rfl
    have set_ : (d.set e.1 e.2).entries = d.entries ++ [e] := entries_set_fresh fresh e.2
    have keys : (d.set e.1 e.2).keys = d.keys ++ [e.1] := by
      rw [Dict.keys, set_, List.map_append]
      rfl
    show ((d.set e.1 e.2).update pairs).entries = _
    rw [ih (by rw [keys, List.append_assoc]; exact nodup), set_, List.append_assoc]
    rfl

theorem object_of_nodup {kvs : List (String × Json)} (nodup : (kvs.map Prod.fst).Nodup) : object kvs = .obj kvs :=
  congrArg Json.obj (entries_update (d := .empty) nodup)

theorem readField_indented {k : String} {v : Json} {level n : Nat} (key : k.length < n)
    {value : List Char → Option (Json × List Char)} {rest : List Char} (opens : Opens ']' (indented float level v))
    (read : value (indented float level v ++ rest) = some (v, rest)) :
    readField n value (indentedField float level (k, v) ++ rest) = some ((k, v), rest) := by
  obtain ⟨c, cs, text, other, -⟩ := opens
  have string : readString n (k.toList.flatMap asciiEscape ++ '"' :: (':' :: ' ' :: (indented float level v ++ rest))) =
      some (k.toList, ':' :: ' ' :: (indented float level v ++ rest)) := readString_asciiQuoted key _
  have colon : skip (':' :: ' ' :: (indented float level v ++ rest)) = ':' :: ' ' :: (indented float level v ++ rest) :=
    skip_of_other rfl _
  have space : skip (' ' :: (indented float level v ++ rest)) = indented float level v ++ rest := by
    rw [text]
    exact skip_of_other other _
  simp only [indentedField, asciiQuote, List.append_assoc, List.cons_append, List.nil_append, readField, string,
    Option.bind_some, colon, space, read, Option.map_some, String.ofList_toList]

theorem readsLines_obj (laws : Numerals float readFloat) {kvs : List (String × Json)} (nodup : (kvs.map Prod.fst).Nodup)
    (fields : ∀ e ∈ kvs, ReadsLines float readFloat e.2) : ReadsLines float readFloat (.obj kvs) := by
  intro level n rest fuel stops
  cases kvs with
  | nil =>
    rw [indented] at fuel ⊢
    obtain ⟨n, rfl⟩ := Nat.exists_eq_succ_of_ne_zero (Nat.ne_of_gt (Nat.lt_of_lt_of_le (Nat.succ_pos _) fuel))
    rfl
  | cons e kvs =>
    rw [indented, indentedFields_eq] at fuel ⊢
    simp only [List.length_append, List.length_cons] at fuel
    obtain ⟨n, rfl⟩ := Nat.exists_eq_succ_of_ne_zero (show n ≠ 0 by omega)
    obtain ⟨count, each⟩ := length_onLines (level + 1) ((e :: kvs).map (indentedField float (level + 1)))
    have reads : ReadsAll (readField n (readValue readFloat n)) (e :: kvs)
        ((e :: kvs).map (indentedField float (level + 1))) := by
      unfold ReadsAll
      rw [List.forall₂_map_right_iff, List.forall₂_same]
      intro e member rest stops
      have bound := each _ (List.mem_map_of_mem member)
      have longer := length_asciiQuoted e.1.toList
      simp only [indentedField, asciiQuote, List.length_append, List.length_cons, List.length_nil, String.length_toList]
        at bound longer
      exact readField_indented (by omega) (indented_opens laws (level + 1) e.2)
        (fields e member (level + 1) n rest (by omega) stops)
    have opens : ∀ piece ∈ (e :: kvs).map (indentedField float (level + 1)), Opens '}' piece := by
      intro piece member
      obtain ⟨e, -, rfl⟩ := List.mem_map.mp member
      exact ⟨_, _, rfl, by decide, by decide⟩
    rw [List.append_assoc, List.append_assoc, List.cons_append, readValue, if_neg (by decide), if_pos rfl,
      List.singleton_append, readList_onLines (by decide) rfl reads opens (by simp) (by omega), Option.map_some,
      object_of_nodup nodup]

theorem nodup_sortEntries {α : Type} (kvs : List (String × α)) : ((sortEntries kvs).map Prod.fst).Nodup := by
  have perm : (sortEntries kvs).Perm (Dict.ofEntries kvs).entries := List.perm_insertionSort _ _
  exact (perm.map Prod.fst).nodup_iff.mpr (Dict.ofEntries kvs).nodup

theorem mem_of_mem_sortEntries {α : Type} {kvs : List (String × α)} {e : String × α} (member : e ∈ sortEntries kvs) :
    e ∈ kvs :=
  Entries.mem_of_lookup ((lookup_sortEntries kvs e.1).symm.trans (Entries.lookup_of_mem (nodup_sortEntries kvs) member))

theorem readsLines_sorted (laws : Numerals float readFloat) (v : Json) : ReadsLines float readFloat (sorted v) := by
  induction v using Json.ind with
  | leaf v leaf =>
    have same : sorted v = v := by cases v <;> first | rfl | cases leaf
    rw [same]
    exact readsLines_leaf laws leaf
  | arr xs ih =>
    rw [sorted, sortedItems_eq]
    refine readsLines_arr laws fun x member => ?_
    obtain ⟨y, inside, rfl⟩ := List.mem_map.mp member
    exact ih y inside
  | obj kvs ih =>
    rw [sorted, sortedFields_eq]
    refine readsLines_obj laws (nodup_sortEntries _) fun e member => ?_
    obtain ⟨y, inside, rfl⟩ := List.mem_map.mp (mem_of_mem_sortEntries member)
    exact ih y inside

/-- What was written on lines is read back with its keys sorted, also with blanks after it. -/
theorem loads_dumpsIndented (laws : Numerals float readFloat) (v : Json) {blanks : List Char}
    (blank : ∀ c ∈ blanks, isBlank c = true) :
    loads readFloat (dumpsIndented float v ++ String.ofList blanks) = .ok (sorted v) := by
  have stops : Stops blanks := by
    intro c head
    have space := blank c (List.mem_of_mem_head? head)
    cases numeral : isNumeral c with
    | false => rfl
    | true =>
      rw [isBlank_of_numeral numeral] at space
      cases space
  have read := readsLines_sorted laws v 0 (indented float 0 (sorted v) ++ blanks).length blanks (by simp) stops
  have start : skip (indented float 0 (sorted v) ++ blanks) = indented float 0 (sorted v) ++ blanks := by
    obtain ⟨c, cs, text, other, -⟩ := indented_opens laws 0 (sorted v)
    rw [text]
    exact skip_of_other other _
  have rest : skip blanks = [] := List.dropWhile_eq_nil_iff.mpr blank
  rw [loads, dumpsIndented, String.toList_append, String.toList_ofList, String.toList_ofList, start, read]
  simp only [rest, List.isEmpty_nil, if_true]

end RoundTrip

/-! ### An exact text of fractions -/

def readExact (text : String) : Option Rat := if text = "-0.0" then some 0 else JsonText.readFraction text

theorem readExponent_digits (n : Nat) {rest : List Char} (stops : Stops rest) :
    readExponent ('e' :: (Nat.toDigits 10 n ++ rest)) = ('e' :: Nat.toDigits 10 n, rest) := by
  have all : ∀ c ∈ Nat.toDigits 10 n, c.isDigit = true :=
    fun c member => Nat.isDigit_of_mem_toDigits (by decide) (by decide) member
  have digits := readDigits_append all Nat.toDigits_ne_nil (not_digit_of_stops stops)
  have sign : readSign (Nat.toDigits 10 n ++ rest) = ([], Nat.toDigits 10 n ++ rest) := by
    obtain ⟨c, cs, text⟩ := List.exists_cons_of_ne_nil (Nat.toDigits_ne_nil (n := n) (b := 10))
    have digit := all c (by rw [text]; exact List.mem_cons_self)
    have other : ∀ d : Char, d.isDigit = false → c ≠ d := by
      rintro d no rfl
      rw [digit] at no
      cases no
    rw [text]
    exact readSign.eq_3 _ (fun _ same => other '+' rfl (List.cons.inj same).1)
      fun _ same => other '-' rfl (List.cons.inj same).1
  rw [readExponent, if_pos (by decide), sign]
  simp only [digits, List.nil_append, List.cons_append]

theorem readExact_numerals : Numerals fractionText readExact where
  numeral := fractionText_laws.numeral
  marked := fractionText_laws.marked
  nonzero := fractionText_laws.nonzero
  read q := by
    have other : fractionText q ≠ "-0.0" := fun same => fractionText_laws.nonzero q (by rw [same]; rfl)
    rw [readExact, if_neg other, fractionText_laws.read]
  scanned q rest stops := by
    have stopped : ∀ c ∈ ('e' :: (Nat.toDigits 10 q.den ++ rest)).head?, c.isDigit = false := by
      intro c head
      obtain rfl := Option.some.inj head
      rfl
    have fraction : readFraction ('e' :: (Nat.toDigits 10 q.den ++ rest)) = ([], 'e' :: (Nat.toDigits 10 q.den ++ rest)) :=
      readFraction.eq_2 _ fun _ same => absurd (List.cons.inj same).1 (by decide)
    refine ⟨writeInt q.num, 'e' :: Nat.toDigits 10 q.den, String.toList_ofList.symm, List.cons_ne_nil _ _, ?_⟩
    rw [fractionText, String.toList_ofList, List.append_assoc, List.cons_append, readNumeral,
      readInteger_writeInt q.num stopped, Option.map_some]
    simp only [fraction, readExponent_digits q.den stops, List.nil_append]
  positive := by decide
  negative := rfl

end AgentGym.JsonLoad
