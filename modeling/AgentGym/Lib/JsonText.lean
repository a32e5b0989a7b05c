import Mathlib.Data.List.Sort
import AgentGym.Lib.Json

/-!
# JSON text

JSON is written compactly, with the keys of every object sorted and characters beyond
ASCII left as they are. A parser reads back what was written. How floats are printed is
a parameter, and reading them its inverse.
-/

namespace AgentGym.JsonText

/-! ### Strings -/

/-- The escape of a character below the blank. -/
def control (c : Char) : List Char :=
  if c = '\n' then ['\\', 'n']
  else if c = '\r' then ['\\', 'r']
  else if c = '\t' then ['\\', 't']
  else if c.toNat = 8 then ['\\', 'b']
  else if c.toNat = 12 then ['\\', 'f']
  else ['\\', 'u', '0', '0', Nat.digitChar (c.toNat / 16), Nat.digitChar (c.toNat % 16)]

def escape (c : Char) : List Char :=
  if c = '"' then ['\\', '"']
  else if c = '\\' then ['\\', '\\']
  else if c.toNat < 32 then control c
  else [c]

def quote (s : List Char) : List Char := '"' :: s.flatMap escape ++ ['"']

/-! ### Values -/

def writeMore (close : Char) : List (List Char) → List Char
  | [] => [close]
  | piece :: pieces => ',' :: piece ++ writeMore close pieces

/-- Pieces between commas, up to the closing bracket. -/
def writeList (close : Char) : List (List Char) → List Char
  | [] => [close]
  | piece :: pieces => piece ++ writeMore close pieces

def writeInt : Int → List Char
  | .ofNat n => Nat.toDigits 10 n
  | .negSucc n => '-' :: Nat.toDigits 10 (n + 1)

section Write

variable (float : Rat → String)

mutual

/-- The text of a value, its entries in order. -/
def write : Json → List Char
  | .null => ['n', 'u', 'l', 'l']
  | .bool true => ['t', 'r', 'u', 'e']
  | .bool false => ['f', 'a', 'l', 's', 'e']
  | .int i => writeInt i
  | .float q => (float q).toList
  | .negZero => ['-', '0', '.', '0']
  | .str s => quote s.toList
  | .arr xs => '[' :: writeList ']' (writeItems xs)
  | .obj kvs => '{' :: writeList '}' (writeFields kvs)

def writeItems : List Json → List (List Char)
  | [] => []
  | x :: xs => write x :: writeItems xs

def writeFields : List (String × Json) → List (List Char)
  | [] => []
  | (k, v) :: kvs => (quote k.toList ++ ':' :: write v) :: writeFields kvs

end

end Write

/-- The order of texts by code points. -/
def textLE : List Char → List Char → Bool
  | [], _ => true
  | _ :: _, [] => false
  | a :: as, b :: bs => a.toNat < b.toNat || (a.toNat == b.toNat && textLE as bs)

/-- The entries of a mapping by key. -/
def sortEntries {α : Type} (kvs : List (String × α)) : List (String × α) :=
  (Dict.ofEntries kvs).entries.insertionSort fun a b => textLE a.1.toList b.1.toList = true

mutual

/-- The value with the entries of every object sorted, without shadowed ones. -/
def sorted : Json → Json
  | .arr xs => .arr (sortedItems xs)
  | .obj kvs => .obj (sortEntries (sortedFields kvs))
  | v => v

def sortedItems : List Json → List Json
  | [] => []
  | x :: xs => sorted x :: sortedItems xs

def sortedFields : List (String × Json) → List (String × Json)
  | [] => []
  | (k, v) :: kvs => (k, sorted v) :: sortedFields kvs

end

/-- `json.dumps` with compact separators, sorted keys and no escapes beyond ASCII. -/
def dumps (float : Rat → String) (v : Json) : String := String.ofList (write float (sorted v))

/-! ### Indented text -/

/-- `\uXXXX`, of a UTF-16 code unit. -/
def codeUnit (n : Nat) : List Char :=
  '\\' :: 'u' :: [n / 4096, n / 256 % 16, n / 16 % 16, n % 16].map Nat.digitChar

/-- The escape that leaves ASCII alone. -/
def asciiEscape (c : Char) : List Char :=
  if c.toNat < 127 then escape c
  else if c.toNat < 65536 then codeUnit c.toNat
  else codeUnit (55296 + (c.toNat - 65536) / 1024) ++ codeUnit (56320 + (c.toNat - 65536) % 1024)

def asciiQuote (s : List Char) : List Char := '"' :: s.flatMap asciiEscape ++ ['"']

def newline (level : Nat) : List Char := '\n' :: List.replicate (2 * level) ' '

/-- Pieces on lines of their own, with commas between. -/
def onLines (level : Nat) : List (List Char) → List Char
  | [] => []
  | [piece] => newline level ++ piece
  | piece :: pieces => newline level ++ piece ++ ',' :: onLines level pieces

section Indented

variable (float : Rat → String)

mutual

def indented (level : Nat) : Json → List Char
  | .str s => asciiQuote s.toList
  | .arr [] => ['[', ']']
  | .arr (x :: xs) => '[' :: onLines (level + 1) (indentedItems (level + 1) (x :: xs)) ++ newline level ++ [']']
  | .obj [] => ['{', '}']
  | .obj (e :: kvs) => '{' :: onLines (level + 1) (indentedFields (level + 1) (e :: kvs)) ++ newline level ++ ['}']
  | v => write float v

def indentedItems (level : Nat) : List Json → List (List Char)
  | [] => []
  | x :: xs => indented level x :: indentedItems level xs

def indentedFields (level : Nat) : List (String × Json) → List (List Char)
  | [] => []
  | (k, v) :: kvs => (asciiQuote k.toList ++ ':' :: ' ' :: indented level v) :: indentedFields level kvs

end

end Indented

/-- `json.dumps` with an indent of two and sorted keys. -/
def dumpsIndented (float : Rat → String) (v : Json) : String := String.ofList (indented float 0 (sorted v))

/-! ### Sorting changes nothing -/

theorem sortedItems_eq (xs : List Json) : sortedItems xs = xs.map sorted := by
  induction xs with
  | nil => rfl
  | cons x xs ih => rw [sortedItems, ih, List.map_cons]

theorem sortedFields_eq (kvs : List (String × Json)) : sortedFields kvs = kvs.map fun e => (e.1, sorted e.2) := by
  induction kvs with
  | nil => rfl
  | cons e kvs ih =>
    obtain ⟨k, v⟩ := e
    rw [sortedFields, ih, List.map_cons]

theorem lookup_sortEntries {α : Type} (kvs : List (String × α)) (k : String) :
    (sortEntries kvs).lookup k = kvs.lookup k := by
  have perm : (sortEntries kvs).Perm (Dict.ofEntries kvs).entries := List.perm_insertionSort _ _
  have nodup : ((sortEntries kvs).map Prod.fst).Nodup := (perm.map Prod.fst).nodup_iff.mpr (Dict.ofEntries kvs).nodup
  rw [← Dict.get?_ofEntries kvs k]
  cases found : (Dict.ofEntries kvs).get? k with
  | some v => exact Entries.lookup_of_mem nodup (perm.mem_iff.mpr (Dict.mem_entries_iff.mpr found))
  | none =>
    rw [Entries.lookup_none_iff_not_mem]
    intro member
    obtain ⟨⟨_, v⟩, inside, rfl⟩ := List.mem_map.mp member
    have there := Dict.mem_entries_iff.mp (perm.mem_iff.mp inside)
    rw [found] at there
    cases there

theorem sameText_sorted (v : Json) : (sorted v).sameText v = true := by
  induction v using Json.ind with
  | leaf v leaf =>
    have same : sorted v = v := by
      cases v with
      | arr xs => cases leaf
      | obj kvs => cases leaf
      | _ => rfl
    rw [same]
    exact Json.sameText_refl v
  | arr xs ih =>
    rw [sorted, sortedItems_eq, Json.sameText, Json.eqBy_arr, List.forall₂_map_left_iff, List.forall₂_same]
    exact ih
  | obj kvs ih =>
    rw [sorted, sortedFields_eq, Json.sameText, Json.eqBy_obj]
    intro k
    rw [lookup_sortEntries, Entries.lookup_map]
    cases found : kvs.lookup k with
    | none => rfl
    | some v => exact ih (k, v) (Entries.mem_of_lookup found)

theorem get?_sorted (v : Json) (k : String) : (sorted v).get? k = (v.get? k).map sorted := by
  cases v with
  | obj kvs =>
    show (sortEntries (sortedFields kvs)).lookup k = (kvs.lookup k).map sorted
    rw [lookup_sortEntries, sortedFields_eq, Entries.lookup_map]
  | _ => rfl

/-- The dictionary of a sorted object. -/
def sortedDict (d : Dict String Json) : Dict String Json := .ofEntries (sortEntries (sortedFields d.entries))

theorem get?_sortedDict (d : Dict String Json) (k : String) : (sortedDict d).get? k = (d.get? k).map sorted := by
  rw [sortedDict, Dict.get?_ofEntries]
  exact get?_sorted (.ofDict d) k

/-! ### Sorting leaves one text -/

theorem textLE_total (as bs : List Char) : textLE as bs = true ∨ textLE bs as = true := by
  induction as generalizing bs with
  | nil => exact Or.inl rfl
  | cons a as ih =>
    cases bs with
    | nil => exact Or.inr rfl
    | cons b bs =>
      simp only [textLE, Bool.or_eq_true, Bool.and_eq_true, decide_eq_true_eq, beq_iff_eq]
      rcases Nat.lt_trichotomy a.toNat b.toNat with less | equal | more
      · exact Or.inl (Or.inl less)
      · exact (ih bs).imp (fun tail => Or.inr ⟨equal, tail⟩) fun tail => Or.inr ⟨equal.symm, tail⟩
      · exact Or.inr (Or.inl more)

theorem textLE_trans {as bs cs : List Char} (left : textLE as bs = true) (right : textLE bs cs = true) :
    textLE as cs = true := by
  induction as generalizing bs cs with
  | nil => rfl
  | cons a as ih =>
    cases bs with
    | nil => cases left
    | cons b bs =>
      cases cs with
      | nil => cases right
      | cons c cs =>
        simp only [textLE, Bool.or_eq_true, Bool.and_eq_true, decide_eq_true_eq, beq_iff_eq] at left right ⊢
        rcases left with less | ⟨equal, tail⟩
        · rcases right with less' | ⟨equal', -⟩
          · exact Or.inl (Nat.lt_trans less less')
          · exact Or.inl (equal' ▸ less)
        · rcases right with less' | ⟨equal', tail'⟩
          · exact Or.inl (equal ▸ less')
          · exact Or.inr ⟨equal.trans equal', ih tail tail'⟩

theorem textLE_antisymm {as bs : List Char} (left : textLE as bs = true) (right : textLE bs as = true) : as = bs := by
  induction as generalizing bs with
  | nil =>
    cases bs with
    | nil => rfl
    | cons b bs => cases right
  | cons a as ih =>
    cases bs with
    | nil => cases left
    | cons b bs =>
      simp only [textLE, Bool.or_eq_true, Bool.and_eq_true, decide_eq_true_eq, beq_iff_eq] at left right
      rcases left with less | ⟨equal, tail⟩
      · rcases right with less' | ⟨equal', -⟩
        · exact absurd less (Nat.lt_asymm less')
        · exact absurd equal' (Nat.ne_of_gt less)
      · rcases right with less' | ⟨-, tail'⟩
        · exact absurd equal (Nat.ne_of_gt less')
        · rw [ih tail tail', Char.toNat_inj.mp equal]

/-- Mappings with the same values under every key have the same entries once sorted. -/
theorem sortEntries_congr {α : Type} {kvs kvs' : List (String × α)} (same : ∀ k, kvs.lookup k = kvs'.lookup k) :
    sortEntries kvs = sortEntries kvs' := by
  let below : String × α → String × α → Prop := fun a b => textLE a.1.toList b.1.toList = true
  have : Std.Total below := ⟨fun a b => textLE_total _ _⟩
  have : IsTrans (String × α) below := ⟨fun _ _ _ => textLE_trans⟩
  have nodup : ∀ d : Dict String α, d.entries.Nodup := fun d => List.Nodup.of_map Prod.fst d.nodup
  have perm : (Dict.ofEntries kvs).entries.Perm (Dict.ofEntries kvs').entries := by
    rw [List.perm_ext_iff_of_nodup (nodup _) (nodup _)]
    rintro ⟨k, v⟩
    rw [Dict.mem_entries_iff, Dict.mem_entries_iff, Dict.get?_ofEntries, Dict.get?_ofEntries, same]
  have sides : (sortEntries kvs).Perm (sortEntries kvs') :=
    (List.perm_insertionSort _ _).trans (perm.trans (List.perm_insertionSort _ _).symm)
  refine @List.Perm.eq_of_pairwise _ below _ _ ?_ (List.pairwise_insertionSort below _)
    (List.pairwise_insertionSort below _) sides
  rintro ⟨k, v⟩ ⟨k', w⟩ left right le le'
  obtain rfl : k = k' := String.toList_injective (textLE_antisymm le le')
  have mem : ∀ entries : List (String × α), ∀ e, e ∈ sortEntries entries → e ∈ (Dict.ofEntries entries).entries :=
    fun entries e member => (List.perm_insertionSort _ _).mem_iff.mp member
  have first := Dict.mem_entries_iff.mp (mem _ _ left)
  have second := Dict.mem_entries_iff.mp (mem _ _ right)
  rw [Dict.get?_ofEntries] at first second
  rw [same, second] at first
  rw [Option.some.inj first]

theorem sorted_of_sameText {a b : Json} (same : a.sameText b = true) : sorted a = sorted b := by
  induction a using Json.ind generalizing b with
  | leaf a leaf => rw [Json.eq_of_sameText leaf same]
  | arr xs ih =>
    cases b with
    | arr ys =>
      have items := Json.forall₂_imp_mem (Json.eqBy_arr.mp same) fun x member y equal => ih x member equal
      rw [sorted, sorted, sortedItems_eq, sortedItems_eq]
      congr 1
      rw [← List.forall₂_eq_eq_eq, List.forall₂_map_left_iff, List.forall₂_map_right_iff]
      exact items
    | _ => simp [Json.sameText, Json.eqBy] at same
  | obj kvs ih =>
    cases b with
    | obj kvs' =>
      rw [sorted, sorted, sortedFields_eq, sortedFields_eq]
      congr 1
      apply sortEntries_congr
      intro k
      have field := Json.eqBy_obj.mp same k
      rw [Entries.lookup_map, Entries.lookup_map]
      cases left : kvs.lookup k with
      | none => cases right : kvs'.lookup k <;> simp_all [Json.optEqBy]
      | some v =>
        cases right : kvs'.lookup k with
        | none => simp [left, right, Json.optEqBy] at field
        | some w =>
          rw [left, right] at field
          exact congrArg some (ih (k, v) (Entries.mem_of_lookup left) field)
    | _ => cases Json.isObj_of_sameText same

theorem dumps_of_sameText (float : Rat → String) {a b : Json} (same : a.sameText b = true) :
    dumps float a = dumps float b := by
  unfold dumps
  rw [sorted_of_sameText same]

/-! ### Reading strings -/

def hexValue (c : Char) : Nat := if c.isDigit then c.toNat - 48 else c.toNat - 87

def unescape (c : Char) (cs : List Char) : Option (Char × List Char) :=
  if c = 'n' then some ('\n', cs)
  else if c = 'r' then some ('\r', cs)
  else if c = 't' then some ('\t', cs)
  else if c = 'b' then some (Char.ofNat 8, cs)
  else if c = 'f' then some (Char.ofNat 12, cs)
  else if c = 'u' then
    match cs with
    | _ :: _ :: high :: low :: cs => some (Char.ofNat (16 * hexValue high + hexValue low), cs)
    | _ => none
  else some (c, cs)

/-- A string after its opening quote. -/
def readString : Nat → List Char → Option (List Char × List Char)
  | 0, _ => none
  | _ + 1, [] => none
  | n + 1, c :: cs =>
    if c = '"' then some ([], cs)
    else if c = '\\' then
      match cs with
      | [] => none
      | e :: cs => (unescape e cs).bind fun p => (readString n p.2).map fun q => (p.1 :: q.1, q.2)
    else (readString n cs).map fun q => (c :: q.1, q.2)

theorem hexValue_digitChar : ∀ n < 16, hexValue (Nat.digitChar n) = n := by decide

theorem readString_control (n : Nat) {c : Char} (low : c.toNat < 32) (cs : List Char) :
    readString (n + 1) (control c ++ cs) = (readString n cs).map fun q => (c :: q.1, q.2) := by
  have code : Char.ofNat c.toNat = c := Char.ofNat_toNat c
  unfold control
  by_cases newline : c = '\n'
  · subst newline
    rfl
  by_cases feed : c = '\r'
  · subst feed
    rfl
  by_cases tab : c = '\t'
  · subst tab
    rfl
  rw [if_neg newline, if_neg feed, if_neg tab]
  by_cases back : c.toNat = 8
  · rw [if_pos back]
    rw [back] at code
    subst code
    rfl
  by_cases page : c.toNat = 12
  · rw [if_neg back, if_pos page]
    rw [page] at code
    subst code
    rfl
  rw [if_neg back, if_neg page]
  have digits : 16 * hexValue (Nat.digitChar (c.toNat / 16)) + hexValue (Nat.digitChar (c.toNat % 16)) = c.toNat := by
    rw [hexValue_digitChar _ (by omega), hexValue_digitChar _ (by omega)]
    omega
  show ((unescape 'u' ('0' :: '0' :: _ :: _ :: cs)).bind fun p => (readString n p.2).map fun q => (p.1 :: q.1, q.2)) = _
  simp only [unescape, Char.reduceEq, if_false, if_true, Option.bind_some, digits, code]

theorem readString_escape (n : Nat) (c : Char) (cs : List Char) :
    readString (n + 1) (escape c ++ cs) = (readString n cs).map fun q => (c :: q.1, q.2) := by
  unfold escape
  by_cases isQuote : c = '"'
  · subst isQuote
    rfl
  by_cases isSlash : c = '\\'
  · subst isSlash
    rfl
  rw [if_neg isQuote, if_neg isSlash]
  by_cases low : c.toNat < 32
  · rw [if_pos low]
    exact readString_control n low cs
  · rw [if_neg low]
    simp [readString, isQuote, isSlash]

theorem readString_quoted {n : Nat} {s : List Char} (fuel : s.length < n) (rest : List Char) :
    readString n (s.flatMap escape ++ '"' :: rest) = some (s, rest) := by
  induction s generalizing n with
  | nil =>
    cases n with
    | zero => exact absurd fuel (Nat.not_lt_zero _)
    | succ n => rfl
  | cons c s ih =>
    cases n with
    | zero => exact absurd fuel (Nat.not_lt_zero _)
    | succ n =>
      rw [List.flatMap_cons, List.append_assoc, readString_escape, ih (Nat.lt_of_succ_lt_succ fuel)]
      rfl

theorem length_escape (c : Char) : 1 ≤ (escape c).length := by
  unfold escape control
  split_ifs <;> simp

theorem length_quoted (s : List Char) : s.length ≤ (s.flatMap escape).length := by
  induction s with
  | nil => exact Nat.le_refl _
  | cons c s ih =>
    have one := length_escape c
    rw [List.flatMap_cons, List.length_append, List.length_cons]
    omega

/-! ### Reading lists -/

section Lists

variable {α : Type} (close : Char) (item : List Char → Option (α × List Char))

def readItems : Nat → List Char → Option (List α × List Char)
  | 0, _ => none
  | n + 1, cs => (item cs).bind fun p => match p.2 with
    | [] => none
    | c :: rest =>
      if c = close then some ([p.1], rest)
      else if c = ',' then (readItems n rest).map fun q => (p.1 :: q.1, q.2)
      else none

/-- The items of a list after its opening bracket. -/
def readList (n : Nat) : List Char → Option (List α × List Char)
  | [] => none
  | c :: cs => if c = close then some ([], cs) else readItems close item n (c :: cs)

/-- A character of a numeral. -/
def isNumeral (c : Char) : Bool := c.isDigit || c = '-' || c = '+' || c = '.' || c = 'e' || c = 'E'

/-- What follows a value does not go on with it. -/
def Stops (rest : List Char) : Prop := ∀ c ∈ rest.head?, isNumeral c = false

/-- These values are read from these pieces, wherever something else follows. -/
def ReadsAll (item : List Char → Option (α × List Char)) (values : List α) (pieces : List (List Char)) : Prop :=
  List.Forall₂ (fun a piece => ∀ rest, Stops rest → item (piece ++ rest) = some (a, rest)) values pieces

variable {close item}

theorem stops_more (closes : isNumeral close = false) (pieces : List (List Char)) (rest : List Char) :
    Stops (writeMore close pieces ++ rest) := by
  intro c head
  cases pieces with
  | nil =>
    obtain rfl := Option.some.inj head
    exact closes
  | cons piece pieces =>
    obtain rfl := Option.some.inj head
    rfl

theorem readItems_more (closes : isNumeral close = false) (noComma : close ≠ ',') {values : List α} {a : α}
    {pieces : List (List Char)} {piece : List Char} (reads : ReadsAll item (a :: values) (piece :: pieces)) {n : Nat}
    (fuel : pieces.length < n) (rest : List Char) :
    readItems close item n (piece ++ (writeMore close pieces ++ rest)) = some (a :: values, rest) := by
  induction values generalizing n a piece pieces with
  | nil =>
    obtain ⟨first, others⟩ := List.forall₂_cons.mp reads
    obtain rfl := List.forall₂_nil_left_iff.mp others
    cases n with
    | zero => exact absurd fuel (Nat.not_lt_zero _)
    | succ n =>
      rw [readItems, first _ (stops_more closes [] rest)]
      simp [writeMore]
  | cons b values ih =>
    obtain ⟨first, others⟩ := List.forall₂_cons.mp reads
    obtain ⟨next, later, -, -, rfl⟩ := List.forall₂_cons_left_iff.mp others
    cases n with
    | zero => exact absurd fuel (Nat.not_lt_zero _)
    | succ n =>
      have tail := ih others (Nat.lt_of_succ_lt_succ fuel)
      rw [readItems, first _ (stops_more closes _ rest)]
      simp only [writeMore, List.cons_append, List.append_assoc, Option.bind_some, if_neg (Ne.symm noComma), if_true, tail,
        Option.map_some]

theorem readList_write (closes : isNumeral close = false) (noComma : close ≠ ',') {values : List α}
    {pieces : List (List Char)} (reads : ReadsAll item values pieces)
    (opens : ∀ piece ∈ pieces, ∃ c cs, piece = c :: cs ∧ c ≠ close) {n : Nat} (fuel : pieces.length ≤ n)
    (rest : List Char) : readList close item n (writeList close pieces ++ rest) = some (values, rest) := by
  cases pieces with
  | nil =>
    obtain rfl := List.forall₂_nil_right_iff.mp reads
    simp [writeList, readList]
  | cons piece pieces =>
    obtain ⟨a, values, -, -, rfl⟩ := List.forall₂_cons_right_iff.mp reads
    obtain ⟨c, cs, rfl, other⟩ := opens piece List.mem_cons_self
    have items := readItems_more closes noComma reads (Nat.lt_of_succ_le fuel) rest
    simp only [writeList, List.append_assoc, List.cons_append, readList, if_neg other] at items ⊢
    exact items

end Lists

/-! ### Reading values -/

def readNat (cs : List Char) : Option Nat :=
  if cs.isEmpty || !cs.all Char.isDigit then none else some (Nat.ofDigitChars 10 cs 0)

def readInt : List Char → Option Int
  | '-' :: cs => (readNat cs).map fun n => -(n : Int)
  | cs => (readNat cs).map Int.ofNat

section Read

variable (readFloat : String → Option Rat)

/-- A numeral without a point or an exponent is an integer. -/
def readNumeral (cs : List Char) : Option Json :=
  if cs = ['-', '0', '.', '0'] then some .negZero
  else if cs.all fun c => c.isDigit || c = '-' then (readInt cs).map Json.int
  else (readFloat (String.ofList cs)).map Json.float

def readLiteral (text : List Char) (v : Json) (cs : List Char) : Option (Json × List Char) :=
  if text.isPrefixOf cs then some (v, cs.drop text.length) else none

def readField (n : Nat) (value : List Char → Option (Json × List Char)) :
    List Char → Option ((String × Json) × List Char)
  | '"' :: cs => (readString n cs).bind fun p => match p.2 with
    | ':' :: rest => (value rest).map fun q => ((String.ofList p.1, q.1), q.2)
    | _ => none
  | _ => none

def readValue : Nat → List Char → Option (Json × List Char)
  | 0, _ => none
  | _ + 1, [] => none
  | n + 1, c :: cs =>
    if c = '[' then (readList ']' (readValue n) n cs).map fun p => (.arr p.1, p.2)
    else if c = '{' then (readList '}' (readField n (readValue n)) n cs).map fun p => (.obj p.1, p.2)
    else if c = '"' then (readString n cs).map fun p => (.str (String.ofList p.1), p.2)
    else if c = 'n' then readLiteral ['u', 'l', 'l'] .null cs
    else if c = 't' then readLiteral ['r', 'u', 'e'] (.bool true) cs
    else if c = 'f' then readLiteral ['a', 'l', 's', 'e'] (.bool false) cs
    else (readNumeral readFloat ((c :: cs).takeWhile isNumeral)).map fun v => (v, (c :: cs).dropWhile isNumeral)

end Read

/-- How floats are written and read back: as numerals with a point or an exponent. -/
structure FloatText (float : Rat → String) (readFloat : String → Option Rat) : Prop where
  numeral : ∀ q, ∀ c ∈ (float q).toList, isNumeral c = true
  marked : ∀ q, ∃ c ∈ (float q).toList, c = '.' ∨ c = 'e'
  nonzero : ∀ q, (float q).toList ≠ ['-', '0', '.', '0']
  read : ∀ q, readFloat (float q) = some q

/-! ### Reading what was written -/

theorem numeral_split {cs rest : List Char} (numeral : ∀ c ∈ cs, isNumeral c = true) (stops : Stops rest) :
    (cs ++ rest).takeWhile isNumeral = cs ∧ (cs ++ rest).dropWhile isNumeral = rest := by
  have none : rest.takeWhile isNumeral = [] ∧ rest.dropWhile isNumeral = rest := by
    cases rest with
    | nil => exact ⟨rfl, rfl⟩
    | cons c rest =>
      have other : isNumeral c = false := stops c rfl
      exact ⟨by simp [other], by simp [other]⟩
  rw [List.takeWhile_append_of_pos numeral, List.dropWhile_append_of_pos numeral, none.1, none.2, List.append_nil]
  exact ⟨rfl, rfl⟩

theorem readNat_toDigits (n : Nat) : readNat (Nat.toDigits 10 n) = some n := by
  have digits : (Nat.toDigits 10 n).all Char.isDigit = true := by
    rw [List.all_eq_true]
    exact fun c member => Nat.isDigit_of_mem_toDigits (by decide) (by decide) member
  have some_ : (Nat.toDigits 10 n).isEmpty = false := by
    rw [List.isEmpty_eq_false_iff]
    exact Nat.toDigits_ne_nil
  rw [readNat, digits, some_, Nat.ofDigitChars_ten_toDigits]
  rfl

theorem readInt_writeInt (i : Int) : readInt (writeInt i) = some i := by
  cases i with
  | ofNat n =>
    have first : ∀ cs, Nat.toDigits 10 n ≠ '-' :: cs := by
      intro cs same
      have digit : ('-').isDigit = true :=
        Nat.isDigit_of_mem_toDigits (b := 10) (n := n) (by decide) (by decide) (by rw [same]; exact List.mem_cons_self)
      exact absurd digit (by decide)
    rw [writeInt, readInt, readNat_toDigits]
    · rfl
    · exact first
  | negSucc n =>
    rw [writeInt, readInt, readNat_toDigits]
    rfl

theorem writeInt_numeral (i : Int) : (∀ c ∈ writeInt i, c.isDigit || c = '-') ∧ writeInt i ≠ [] := by
  have digits : ∀ n, ∀ c ∈ Nat.toDigits 10 n, (c.isDigit || c = '-') = true := by
    intro n c member
    simp [Nat.isDigit_of_mem_toDigits (by decide) (by decide) member]
  cases i with
  | ofNat n => exact ⟨by simpa [writeInt] using digits n, Nat.toDigits_ne_nil⟩
  | negSucc n =>
    refine ⟨?_, by simp [writeInt]⟩
    intro c member
    rcases List.mem_cons.mp member with rfl | later
    · rfl
    · exact digits (n + 1) c later

section RoundTrip

variable {float : Rat → String} {readFloat : String → Option Rat}

/-- A number, written as a numeral. -/
def IsNumber (v : Json) : Prop := (∃ i, v = .int i) ∨ (∃ q, v = .float q) ∨ v = .negZero

theorem readNumeral_write (laws : FloatText float readFloat) {v : Json} (number : IsNumber v) :
    readNumeral readFloat (write float v) = some v ∧ (∀ c ∈ write float v, isNumeral c = true) ∧ write float v ≠ [] := by
  rcases number with ⟨i, rfl⟩ | ⟨q, rfl⟩ | rfl
  · obtain ⟨digits, some_⟩ := writeInt_numeral i
    have notZero : writeInt i ≠ ['-', '0', '.', '0'] := by
      intro same
      exact absurd (digits '.' (by simp [same])) (by decide)
    refine ⟨?_, ?_, some_⟩
    · rw [write, readNumeral, if_neg notZero, if_pos (List.all_eq_true.mpr digits), readInt_writeInt]
      rfl
    · intro c member
      have digit := digits c member
      simp only [Bool.or_eq_true, decide_eq_true_eq] at digit
      rcases digit with digit | rfl
      · simp [isNumeral, digit]
      · rfl
  · obtain ⟨c, member, mark⟩ := laws.marked q
    have pointed : ¬ (float q).toList.all (fun c => c.isDigit || c = '-') := by
      intro all
      have digit := List.all_eq_true.mp all c member
      rcases mark with rfl | rfl <;> exact absurd digit (by decide)
    refine ⟨?_, laws.numeral q, List.ne_nil_of_mem member⟩
    rw [write, readNumeral, if_neg (laws.nonzero q), if_neg pointed, String.ofList_toList, laws.read]
    rfl
  · exact ⟨rfl, by simp [write, isNumeral], by simp [write]⟩

/-- A value that is read back from its text, wherever something else follows. -/
def ReadsBack (float : Rat → String) (readFloat : String → Option Rat) (v : Json) : Prop :=
  ∀ n rest, (write float v).length ≤ n → Stops rest → readValue readFloat n (write float v ++ rest) = some (v, rest)

theorem readsBack_numeral (laws : FloatText float readFloat) {v : Json} (number : IsNumber v) :
    ReadsBack float readFloat v := by
  intro n rest fuel stops
  obtain ⟨read, all, some_⟩ := readNumeral_write laws number
  obtain ⟨split, drop⟩ := numeral_split all stops
  cases text : write float v with
  | nil => exact absurd text some_
  | cons c cs =>
    have first : isNumeral c = true := all c (by simp [text])
    have other : ∀ d, isNumeral d = false → c ≠ d := by
      rintro d no rfl
      rw [first] at no
      cases no
    cases n with
    | zero => simp [text] at fuel
    | succ n =>
      rw [text] at read split drop
      simp only [List.cons_append] at split drop ⊢
      rw [readValue, if_neg (other _ rfl), if_neg (other _ rfl), if_neg (other _ rfl), if_neg (other _ rfl),
        if_neg (other _ rfl), if_neg (other _ rfl), split, drop, read]
      rfl

theorem readsBack_str (s : String) : ReadsBack float readFloat (.str s) := by
  intro n rest fuel stops
  have longer := length_quoted s.toList
  simp only [write, quote, List.length_append, List.length_cons, List.length_nil] at fuel
  cases n with
  | zero => omega
  | succ n =>
    have read : readString n (s.toList.flatMap escape ++ '"' :: rest) = some (s.toList, rest) :=
      readString_quoted (by omega) rest
    rw [write, quote, List.append_assoc, List.singleton_append, List.cons_append, readValue, if_neg (by decide),
      if_neg (by decide), if_pos rfl, read]
    simp only [Option.map_some, String.ofList_toList]

/-- The text of a value ends no list. -/
theorem write_opens (laws : FloatText float readFloat) (v : Json) : ∃ c cs, write float v = c :: cs ∧ c ≠ ']' := by
  have number : IsNumber v → ∃ c cs, write float v = c :: cs ∧ c ≠ ']' := by
    intro number
    obtain ⟨-, all, some_⟩ := readNumeral_write laws number
    obtain ⟨c, cs, text⟩ := List.exists_cons_of_ne_nil some_
    refine ⟨c, cs, text, ?_⟩
    rintro rfl
    exact absurd (all ']' (by simp [text])) (by decide)
  cases v with
  | null => exact ⟨_, _, rfl, by decide⟩
  | bool b => cases b <;> exact ⟨_, _, rfl, by decide⟩
  | int i => exact number (Or.inl ⟨i, rfl⟩)
  | float q => exact number (Or.inr (Or.inl ⟨q, rfl⟩))
  | negZero => exact number (Or.inr (Or.inr rfl))
  | str s => exact ⟨_, _, rfl, by decide⟩
  | arr xs => exact ⟨_, _, rfl, by decide⟩
  | obj kvs => exact ⟨_, _, rfl, by decide⟩

theorem length_write (laws : FloatText float readFloat) (v : Json) : 1 ≤ (write float v).length := by
  obtain ⟨c, cs, text, -⟩ := write_opens laws v
  simp [text]

theorem readsBack_leaf (laws : FloatText float readFloat) {v : Json} (leaf : v.isLeaf = true) :
    ReadsBack float readFloat v := by
  have literal : ∀ w ∈ [Json.null, .bool true, .bool false], ReadsBack float readFloat w := by
    intro w member n rest fuel _
    obtain ⟨n, rfl⟩ := Nat.exists_eq_succ_of_ne_zero (Nat.ne_of_gt (Nat.le_trans (length_write laws w) fuel))
    simp only [List.mem_cons, List.not_mem_nil, or_false] at member
    rcases member with rfl | rfl | rfl <;> simp [write, readValue, readLiteral]
  cases v with
  | null => exact literal _ (by simp)
  | bool b => cases b <;> exact literal _ (by simp)
  | int i => exact readsBack_numeral laws (Or.inl ⟨i, rfl⟩)
  | float q => exact readsBack_numeral laws (Or.inr (Or.inl ⟨q, rfl⟩))
  | negZero => exact readsBack_numeral laws (Or.inr (Or.inr rfl))
  | str s => exact readsBack_str s
  | arr xs => cases leaf
  | obj kvs => cases leaf

/-- A list is longer than the number of its pieces, and as long as each of them. -/
theorem length_writeMore (close : Char) (pieces : List (List Char)) :
    pieces.length + 1 ≤ (writeMore close pieces).length ∧ ∀ p ∈ pieces, p.length ≤ (writeMore close pieces).length := by
  induction pieces with
  | nil => simp [writeMore]
  | cons piece pieces ih =>
    obtain ⟨count, each⟩ := ih
    simp only [writeMore, List.cons_append, List.length_append, List.length_cons]
    refine ⟨by omega, ?_⟩
    intro p member
    rcases List.mem_cons.mp member with rfl | later
    · omega
    · have bound := each p later
      omega

theorem length_writeList (close : Char) (pieces : List (List Char)) :
    pieces.length ≤ (writeList close pieces).length ∧ ∀ p ∈ pieces, p.length ≤ (writeList close pieces).length := by
  cases pieces with
  | nil => simp [writeList]
  | cons piece pieces =>
    obtain ⟨count, each⟩ := length_writeMore close pieces
    simp only [writeList, List.length_append, List.length_cons]
    refine ⟨by omega, ?_⟩
    intro p member
    rcases List.mem_cons.mp member with rfl | later
    · omega
    · have bound := each p later
      omega

theorem writeItems_eq (xs : List Json) : writeItems float xs = xs.map (write float) := by
  induction xs with
  | nil => rfl
  | cons x xs ih => rw [writeItems, ih, List.map_cons]

def writeField (float : Rat → String) (e : String × Json) : List Char := quote e.1.toList ++ ':' :: write float e.2

theorem writeFields_eq (kvs : List (String × Json)) : writeFields float kvs = kvs.map (writeField float) := by
  induction kvs with
  | nil => rfl
  | cons e kvs ih =>
    obtain ⟨k, v⟩ := e
    rw [writeFields, ih, List.map_cons]
    rfl

theorem readsBack_arr (laws : FloatText float readFloat) {xs : List Json}
    (items : ∀ x ∈ xs, ReadsBack float readFloat x) : ReadsBack float readFloat (.arr xs) := by
  intro n rest fuel stops
  rw [write, writeItems_eq] at fuel ⊢
  cases n with
  | zero => simp at fuel
  | succ n =>
    obtain ⟨count, each⟩ := length_writeList ']' (xs.map (write float))
    have fits : (writeList ']' (xs.map (write float))).length ≤ n := Nat.le_of_succ_le_succ fuel
    have reads : ReadsAll (readValue readFloat n) xs (xs.map (write float)) := by
      unfold ReadsAll
      rw [List.forall₂_map_right_iff, List.forall₂_same]
      intro x member rest stops
      exact items x member n rest ((each _ (List.mem_map_of_mem member)).trans fits) stops
    have opens : ∀ piece ∈ xs.map (write float), ∃ c cs, piece = c :: cs ∧ c ≠ ']' := by
      intro piece member
      obtain ⟨x, -, rfl⟩ := List.mem_map.mp member
      exact write_opens laws x
    rw [List.cons_append, readValue, if_pos rfl, readList_write rfl (by decide) reads opens (count.trans fits)]
    rfl

theorem readsBack_obj {kvs : List (String × Json)} (fields : ∀ e ∈ kvs, ReadsBack float readFloat e.2) :
    ReadsBack float readFloat (.obj kvs) := by
  intro n rest fuel stops
  rw [write, writeFields_eq] at fuel ⊢
  cases n with
  | zero => simp at fuel
  | succ n =>
    obtain ⟨count, each⟩ := length_writeList '}' (kvs.map (writeField float))
    have fits : (writeList '}' (kvs.map (writeField float))).length ≤ n := Nat.le_of_succ_le_succ fuel
    have reads : ReadsAll (readField n (readValue readFloat n)) kvs (kvs.map (writeField float)) := by
      unfold ReadsAll
      rw [List.forall₂_map_right_iff, List.forall₂_same]
      intro e member rest stops
      have bound := (each _ (List.mem_map_of_mem member)).trans fits
      have longer := length_quoted e.1.toList
      simp only [writeField, quote, List.length_append, List.length_cons, List.length_nil] at bound
      have key : readString n (e.1.toList.flatMap escape ++ '"' :: (':' :: (write float e.2 ++ rest))) =
          some (e.1.toList, ':' :: (write float e.2 ++ rest)) := readString_quoted (by omega) _
      have value := fields e member n rest (by omega) stops
      simp only [writeField, quote, List.append_assoc, List.cons_append, List.nil_append, readField, key,
        Option.bind_some, value, Option.map_some, String.ofList_toList]
    have opens : ∀ piece ∈ kvs.map (writeField float), ∃ c cs, piece = c :: cs ∧ c ≠ '}' := by
      intro piece member
      obtain ⟨e, -, rfl⟩ := List.mem_map.mp member
      exact ⟨_, _, rfl, by decide⟩
    rw [List.cons_append, readValue, if_neg (by decide), if_pos rfl,
      readList_write rfl (by decide) reads opens (count.trans fits)]
    rfl

theorem readsBack (laws : FloatText float readFloat) (v : Json) : ReadsBack float readFloat v := by
  induction v using Json.ind with
  | leaf v leaf => exact readsBack_leaf laws leaf
  | arr xs ih => exact readsBack_arr laws ih
  | obj kvs ih => exact readsBack_obj ih

end RoundTrip

/-- A value and nothing but blank lines after it. -/
def loads (readFloat : String → Option Rat) (text : String) : Except String Json :=
  match readValue readFloat text.toList.length text.toList with
  | some (v, rest) => if rest.all (· = '\n') then .ok v else .error "Extra data"
  | none => .error "Expecting value"

/-- A value that was written is read up to where it ends. -/
theorem loads_written {float : Rat → String} {readFloat : String → Option Rat} (laws : FloatText float readFloat) (v : Json)
    {rest : List Char} (stops : Stops rest) : loads readFloat (dumps float v ++ String.ofList rest) =
      if rest.all (· = '\n') then .ok (sorted v) else .error "Extra data" := by
  have read := readsBack laws (sorted v) (write float (sorted v) ++ rest).length rest (by simp) stops
  rw [loads, dumps, String.toList_append, String.toList_ofList, String.toList_ofList, read]

/-- What was written is read back as the same value, also with a line break after it. -/
theorem loads_dumps {float : Rat → String} {readFloat : String → Option Rat} (laws : FloatText float readFloat) (v : Json)
    (breaks : List Char) (blank : ∀ c ∈ breaks, c = '\n') :
    loads readFloat (dumps float v ++ String.ofList breaks) = .ok (sorted v) := by
  have stops : Stops breaks := by
    intro c head
    obtain rfl := blank c (List.mem_of_mem_head? head)
    rfl
  have ignored : breaks.all (· = '\n') = true := List.all_eq_true.mpr (by simpa using blank)
  rw [loads_written laws v stops, if_pos ignored]

/-! ### An exact text of fractions -/

def fractionText (q : Rat) : String := String.ofList (writeInt q.num ++ 'e' :: Nat.toDigits 10 q.den)

def readFraction (text : String) : Option Rat :=
  (readInt (text.toList.takeWhile (· != 'e'))).bind fun n =>
    (readNat ((text.toList.dropWhile (· != 'e')).drop 1)).map fun d => mkRat n d

theorem fractionText_laws : FloatText fractionText readFraction where
  numeral q c member := by
    rw [fractionText, String.toList_ofList] at member
    rcases List.mem_append.mp member with inNum | later
    · have digit := (writeInt_numeral q.num).1 c inNum
      simp only [Bool.or_eq_true, decide_eq_true_eq] at digit
      rcases digit with digit | rfl
      · simp [isNumeral, digit]
      · rfl
    · rcases List.mem_cons.mp later with rfl | inDen
      · rfl
      · simp [isNumeral, Nat.isDigit_of_mem_toDigits (by decide) (by decide) inDen]
  marked q := ⟨'e', by simp [fractionText], Or.inr rfl⟩
  nonzero q same := by
    have inside : 'e' ∈ (fractionText q).toList := by simp [fractionText]
    rw [same] at inside
    exact absurd inside (by decide)
  read q := by
    have before : ∀ c ∈ writeInt q.num, (c != 'e') = true := by
      intro c member
      have digit := (writeInt_numeral q.num).1 c member
      simp only [bne_iff_ne]
      rintro rfl
      exact absurd digit (by decide)
    have taken : (writeInt q.num ++ 'e' :: Nat.toDigits 10 q.den).takeWhile (· != 'e') = writeInt q.num := by
      rw [List.takeWhile_append_of_pos before]
      simp
    have dropped : (writeInt q.num ++ 'e' :: Nat.toDigits 10 q.den).dropWhile (· != 'e') =
        'e' :: Nat.toDigits 10 q.den := by
      rw [List.dropWhile_append_of_pos before]
      simp
    rw [readFraction, fractionText, String.toList_ofList, taken, dropped, readInt_writeInt, List.drop_succ_cons, List.drop_zero,
      readNat_toDigits]
    exact congrArg some (Rat.mkRat_self q)

/-! ### No control characters -/

/-- No character below the blank: in particular no line break. -/
def Printable (cs : List Char) : Prop := ∀ c ∈ cs, 32 ≤ c.toNat

theorem printable_literal {cs : List Char} (h : cs.all (fun c => Nat.ble 32 c.toNat) = true) : Printable cs := by
  intro c member
  exact Nat.le_of_ble_eq_true (List.all_eq_true.mp h c member)

theorem printable_append {cs ds : List Char} : Printable (cs ++ ds) ↔ Printable cs ∧ Printable ds := by
  simp [Printable, or_imp, forall_and]

theorem printable_cons {c : Char} {cs : List Char} : Printable (c :: cs) ↔ 32 ≤ c.toNat ∧ Printable cs := by
  simp [Printable]

theorem printable_escape (c : Char) : Printable (escape c) := by
  have digit : ∀ n < 16, 32 ≤ (Nat.digitChar n).toNat := by decide
  unfold escape
  split_ifs with isQuote isSlash low
  · exact printable_literal rfl
  · exact printable_literal rfl
  · unfold control
    split_ifs
    · exact printable_literal rfl
    · exact printable_literal rfl
    · exact printable_literal rfl
    · exact printable_literal rfl
    · exact printable_literal rfl
    · have high := digit (c.toNat / 16) (by omega)
      have rest := digit (c.toNat % 16) (by omega)
      simp only [printable_cons, high, rest, true_and]
      exact ⟨by decide, by decide, by decide, by decide, printable_literal rfl⟩
  · simp only [printable_cons]
    exact ⟨by omega, by simp [Printable]⟩

theorem printable_quote (s : List Char) : Printable (quote s) := by
  unfold quote
  rw [printable_append, printable_cons]
  refine ⟨⟨by decide, ?_⟩, printable_literal rfl⟩
  intro c member
  obtain ⟨d, -, inside⟩ := List.mem_flatMap.mp member
  exact printable_escape d c inside

theorem printable_of_numeral {cs : List Char} (numeral : ∀ c ∈ cs, isNumeral c = true) : Printable cs := by
  intro c member
  have one := numeral c member
  simp only [isNumeral, Bool.or_eq_true, decide_eq_true_eq] at one
  rcases one with ((((digit | rfl) | rfl) | rfl) | rfl) | rfl
  · have zero : ('0').toNat = 48 := rfl
    have low := (Char.isDigit_iff_toNat.mp digit).1
    omega
  all_goals decide

theorem printable_writeList {close : Char} (closes : 32 ≤ close.toNat) {pieces : List (List Char)}
    (each : ∀ p ∈ pieces, Printable p) : Printable (writeList close pieces) := by
  have more : ∀ pieces : List (List Char), (∀ p ∈ pieces, Printable p) → Printable (writeMore close pieces) := by
    intro pieces each
    induction pieces with
    | nil => simpa [writeMore, printable_cons, Printable] using closes
    | cons piece pieces ih =>
      rw [writeMore, List.cons_append, printable_cons, printable_append]
      exact ⟨by decide, each piece List.mem_cons_self, ih fun p member => each p (List.mem_cons_of_mem _ member)⟩
  cases pieces with
  | nil => exact more [] each
  | cons piece pieces =>
    rw [writeList, printable_append]
    exact ⟨each piece List.mem_cons_self, more pieces fun p member => each p (List.mem_cons_of_mem _ member)⟩

theorem printable_write {float : Rat → String} (numeral : ∀ q, ∀ c ∈ (float q).toList, isNumeral c = true) (v : Json) :
    Printable (write float v) := by
  induction v using Json.ind with
  | leaf v leaf =>
    cases v with
    | null => exact (printable_literal rfl : Printable ['n', 'u', 'l', 'l'])
    | bool b =>
      cases b
      · exact (printable_literal rfl : Printable ['f', 'a', 'l', 's', 'e'])
      · exact (printable_literal rfl : Printable ['t', 'r', 'u', 'e'])
    | int i =>
      refine printable_of_numeral fun c member => ?_
      have digit := (writeInt_numeral i).1 c member
      simp only [Bool.or_eq_true, decide_eq_true_eq] at digit
      rcases digit with digit | rfl
      · simp [isNumeral, digit]
      · rfl
    | float q => exact printable_of_numeral (numeral q)
    | negZero => exact (printable_literal rfl : Printable ['-', '0', '.', '0'])
    | str s => exact printable_quote s.toList
    | arr xs => cases leaf
    | obj kvs => cases leaf
  | arr xs ih =>
    rw [write, writeItems_eq, printable_cons]
    refine ⟨by decide, printable_writeList (by decide) fun p member => ?_⟩
    obtain ⟨x, inside, rfl⟩ := List.mem_map.mp member
    exact ih x inside
  | obj kvs ih =>
    rw [write, writeFields_eq, printable_cons]
    refine ⟨by decide, printable_writeList (by decide) fun p member => ?_⟩
    obtain ⟨e, inside, rfl⟩ := List.mem_map.mp member
    rw [writeField, printable_append, printable_cons]
    exact ⟨printable_quote e.1.toList, by decide, ih e inside⟩

theorem printable_dumps {float : Rat → String} (numeral : ∀ q, ∀ c ∈ (float q).toList, isNumeral c = true) (v : Json) :
    Printable (dumps float v).toList := by
  rw [dumps, String.toList_ofList]
  exact printable_write numeral (sorted v)

end AgentGym.JsonText
