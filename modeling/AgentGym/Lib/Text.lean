import Mathlib.Data.List.Infix
import AgentGym.Lib.Json

/-!
# Python text

`PyText` holds the standard library functions that are tables or printing rules. The
rest of the text library is written out. `LaxInt` is the validation library's reading of
an integer field, of which only the documented laws are used.
-/

namespace AgentGym

/-- Lax integer validation. -/
class LaxInt where
  laxInt : Json → Option Int
  /-- An integer is taken as it is. -/
  laxInt_int : ∀ n, laxInt (.int n) = some n
  /-- Any other number that is taken keeps its value. -/
  laxInt_number : ∀ {v n q}, laxInt v = some n → v.number? = some q → q = n
  /-- Lists and mappings are refused. -/
  laxInt_composite : ∀ {v}, v.isLeaf = false → laxInt v = none

export LaxInt (laxInt)

attribute [simp] LaxInt.laxInt_int

/-- Integers and booleans only, for closed examples. -/
@[reducible] def plainInts : LaxInt where
  laxInt
    | .int n => some n
    | .bool b => some (if b then 1 else 0)
    | _ => none
  laxInt_int _ := rfl
  laxInt_number := by
    intro v n q read number
    cases v with
    | int i =>
      obtain rfl := Option.some.inj read
      exact (Option.some.inj number).symm
    | bool b =>
      obtain rfl := Option.some.inj read
      obtain rfl := Option.some.inj number
      cases b <;> rfl
    | _ => cases read
  laxInt_composite := by
    intro v composite
    cases v <;> first | rfl | cases composite

class PyText extends LaxInt where
  /-- `str.casefold`. -/
  casefold : String → String
  /-- `repr` of a value. -/
  repr : Json → String
  /-- `json.dumps(value, sort_keys=True)`. -/
  dumps : Json → String
  /-- `json.dumps(value, ensure_ascii=False, sort_keys=True)`. -/
  dumpsUnicode : Json → String
  /-- Case folding leaves lower-case ASCII letters alone. -/
  casefold_lower : ∀ s : String, (∀ c ∈ s.toList, 'a' ≤ c ∧ c ≤ 'z') → casefold s = s

/-- `str(value)`. -/
def pyStr [PyText] : Json → String
  | .str s => s
  | v => PyText.repr v

/-- `fragment in text`. -/
def textContains (text fragment : String) : Bool := decide (fragment.toList <:+: text.toList)

def startsWith (text start : String) : Bool := start.toList.isPrefixOf text.toList

/-- The characters `str.strip` removes. -/
def isPySpace (c : Char) : Bool :=
  let n := c.toNat
  (9 ≤ n && n ≤ 13) || (28 ≤ n && n ≤ 32) || n == 0x85 || n == 0xa0 || n == 0x1680 ||
    (0x2000 ≤ n && n ≤ 0x200a) || n == 0x2028 || n == 0x2029 || n == 0x202f || n == 0x205f ||
    n == 0x3000

def stripList (cs : List Char) : List Char :=
  (((cs.dropWhile isPySpace).reverse).dropWhile isPySpace).reverse

def strip (s : String) : String := String.ofList (stripList s.toList)

/-- Decimal digits with single underscores between them. -/
def digitsValue : Bool → Nat → List Char → Option Nat
  | afterDigit, value, [] => if afterDigit then some value else none
  | afterDigit, value, c :: rest =>
    if c.isDigit then digitsValue true (10 * value + (c.toNat - '0'.toNat)) rest
    else if c == '_' && afterDigit then digitsValue false value rest
    else none

/-- `int(text)`, with the interpreter's limit of 4300 digits. -/
def pyInt (text : String) : Option Int :=
  let cs := stripList text.toList
  if 4300 < (cs.filter Char.isDigit).length then none
  else match cs with
    | '-' :: rest => (digitsValue false 0 rest).map fun n => -(n : Int)
    | '+' :: rest => (digitsValue false 0 rest).map Int.ofNat
    | _ => (digitsValue false 0 cs).map Int.ofNat

example : pyInt " +1_0 " = some 10 := by decide

theorem toLower_of_lower {c : Char} (h : 'a' ≤ c ∧ c ≤ 'z') : c.toLower = c := by
  have upper : ¬ (c.val ≥ 65 ∧ c.val ≤ 90) := by
    intro bounds
    have low : (97 : UInt32) ≤ c.val := h.1
    exact absurd (UInt32.le_trans low bounds.2) (by decide)
  show (if _ : c.val ≥ 65 ∧ c.val ≤ 90 then _ else c) = c
  rw [dif_neg upper]

/-- The text library on plain ASCII text and scalars, for closed examples. -/
@[reducible] def asciiText : PyText where
  toLaxInt := plainInts
  casefold s := String.ofList (s.toList.map Char.toLower)
  repr
    | .null => "None"
    | .bool true => "True"
    | .bool false => "False"
    | .int i => toString i
    | .str s => s!"'{s}'"
    | _ => ""
  dumps
    | .null => "null"
    | .bool true => "true"
    | .bool false => "false"
    | .int i => toString i
    | .str s => "\"" ++ s ++ "\""
    | _ => ""
  dumpsUnicode
    | .null => "null"
    | .bool true => "true"
    | .bool false => "false"
    | .int i => toString i
    | .str s => "\"" ++ s ++ "\""
    | _ => ""
  casefold_lower := by
    intro s lower
    have same : s.toList.map Char.toLower = s.toList := by
      conv_rhs => rw [← List.map_id s.toList]
      exact List.map_congr_left fun c member => toLower_of_lower (lower c member)
    rw [same, String.ofList_toList]

theorem textContains_iff {text fragment : String} :
    textContains text fragment = true ↔ fragment.toList <:+: text.toList := by
  simp [textContains]

theorem textContains_self (text : String) : textContains text text = true :=
  textContains_iff.mpr List.infix_rfl

theorem textContains_trans {text inner fragment : String} (outer : textContains text inner = true)
    (within : textContains inner fragment = true) : textContains text fragment = true :=
  textContains_iff.mpr ((textContains_iff.mp within).trans (textContains_iff.mp outer))

theorem textContains_append_left {text fragment : String} (h : textContains text fragment = true) (rest : String) :
    textContains (text ++ rest) fragment = true := by
  rw [textContains_iff, String.toList_append]
  exact (textContains_iff.mp h).trans (List.prefix_append _ _).isInfix

theorem textContains_append_right {text fragment : String} (h : textContains text fragment = true) (start : String) :
    textContains (start ++ text) fragment = true := by
  rw [textContains_iff, String.toList_append]
  exact (textContains_iff.mp h).trans (List.suffix_append _ _).isInfix

theorem textContains_intercalate (separator : String) {texts : List String} {text : String} (member : text ∈ texts) :
    textContains (separator.intercalate texts) text = true := by
  induction texts with
  | nil => simp at member
  | cons first texts ih =>
    cases texts with
    | nil =>
      obtain rfl := List.mem_singleton.mp member
      rw [String.intercalate_singleton]
      exact textContains_self text
    | cons second texts =>
      rw [String.intercalate_cons_cons]
      rcases List.mem_cons.mp member with rfl | later
      · exact textContains_append_left (textContains_append_left (textContains_self text) _) _
      · exact textContains_append_right (ih later) _

theorem textContains_lacking {text fragment : String} {c : Char} (has : c ∈ fragment.toList) (lacks : c ∉ text.toList) :
    textContains text fragment ≠ true :=
  fun contains => lacks ((textContains_iff.mp contains).subset has)

theorem lacking_append {c : Char} {left right : String} (l : c ∉ left.toList) (r : c ∉ right.toList) :
    c ∉ (left ++ right).toList := by
  rw [String.toList_append, List.mem_append]
  exact not_or.mpr ⟨l, r⟩

/-- A property of a literal's characters is one of the list of them. -/
theorem forall_literal {P : List Char → Prop} {cs : List Char} (h : P cs) : P (String.ofList cs).toList := by
  rwa [String.toList_ofList]

theorem append_separator_inj {separator : Char} {a b x y : List Char} (left : separator ∉ a) (right : separator ∉ b)
    (same : a ++ separator :: x = b ++ separator :: y) : a = b ∧ x = y := by
  induction a generalizing b with
  | nil =>
    cases b with
    | nil => exact ⟨rfl, (List.cons.inj same).2⟩
    | cons d b => exact absurd ((List.cons.inj same).1 ▸ List.mem_cons_self) right
  | cons c a ih =>
    cases b with
    | nil => exact absurd ((List.cons.inj same).1 ▸ List.mem_cons_self) left
    | cons d b =>
      obtain ⟨rfl, rest⟩ := List.cons.inj same
      obtain ⟨rfl, after⟩ := ih (List.not_mem_of_not_mem_cons left) (List.not_mem_of_not_mem_cons right) rest
      exact ⟨rfl, after⟩

/-! ### Bytes as characters -/

theorem charOfByte_injective : Function.Injective fun byte : UInt8 => Char.ofNat byte.toNat := by
  intro x y equal
  have valid : ∀ byte : UInt8, (Char.ofNat byte.toNat).toNat = byte.toNat := by
    intro byte
    have small : byte.toNat.isValidChar := Or.inl (Nat.lt_trans byte.toNat_lt (by decide))
    unfold Char.ofNat
    rw [dif_pos small]
    rfl
  have codes := congrArg Char.toNat equal
  simp only [valid] at codes
  exact UInt8.toNat_inj.mp codes

theorem chars_injective {a b : ByteArray} (same : a.data.toList.map (fun byte => Char.ofNat byte.toNat) =
    b.data.toList.map fun byte => Char.ofNat byte.toNat) : a = b :=
  ByteArray.ext (Array.toList_inj.mp (List.map_injective_iff.mpr charOfByte_injective same))

/-- One value of its own for one argument keeps a function injective. -/
theorem injective_entry {α β : Type} {p : α → Prop} [DecidablePred p] {value : β} {f : α → β}
    (unique : ∀ a b, p a → p b → a = b) (injective : Function.Injective f) (fresh : ∀ a, f a ≠ value) :
    Function.Injective fun a => if p a then value else f a := by
  intro a b same
  simp only at same
  split at same
  · rename_i first
    split at same
    · rename_i second
      exact unique a b first second
    · exact absurd same.symm (fresh b)
  · split at same
    · exact absurd same (fresh a)
    · exact injective same

theorem ofList_cons_ne {c : Char} {cs : List Char} {text : String} (heads : text.toList.head? ≠ some c) :
    String.ofList (c :: cs) ≠ text := by
  rintro rfl
  simp at heads

end AgentGym
