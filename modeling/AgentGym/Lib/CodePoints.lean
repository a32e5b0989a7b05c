import Mathlib.Data.List.Basic
import AgentGym.Lib.Dict

/-!
# Strings of code points

A string may hold any code point, also the surrogates that stand for no character. UTF-8
encodes the strings of characters, and refuses a string with a surrogate in it.
-/

namespace AgentGym

abbrev CodePoint := Fin 0x110000

abbrev PyString := List CodePoint

namespace CodePoint

def isSurrogate (c : CodePoint) : Bool := 0xD800 ≤ c.val && c.val ≤ 0xDFFF

theorem toNat_lt (c : Char) : c.toNat < 0x110000 := by
  rcases c.valid with low | ⟨-, high⟩
  · exact Nat.lt_trans low (by decide)
  · exact high

def ofChar (c : Char) : CodePoint := ⟨c.toNat, toNat_lt c⟩

/-- The character of a code point; a surrogate is none. -/
def toChar? (c : CodePoint) : Option Char := if c.isSurrogate then none else some (Char.ofNat c.val)

theorem isSurrogate_ofChar (c : Char) : (ofChar c).isSurrogate = false := by
  unfold isSurrogate ofChar
  rcases c.valid with low | ⟨high, -⟩
  · have below : c.toNat < 0xD800 := low
    simp [Nat.not_le_of_lt below]
  · have above : 0xDFFF < c.toNat := high
    simp [Nat.not_le_of_lt above]

@[simp] theorem toChar?_ofChar (c : Char) : (ofChar c).toChar? = some c := by
  rw [toChar?, isSurrogate_ofChar]
  exact congrArg some (Char.ofNat_toNat c)

theorem toChar?_eq_some {c : CodePoint} {d : Char} (char : c.toChar? = some d) : c = ofChar d := by
  unfold toChar? at char
  split at char
  · cases char
  · rename_i plain
    obtain rfl := Option.some.inj char
    have valid : c.val.isValidChar := by
      simp only [isSurrogate, Bool.and_eq_true, decide_eq_true_eq, not_and_or, Nat.not_le] at plain
      rcases plain with low | high
      · exact Or.inl low
      · exact Or.inr ⟨high, c.isLt⟩
    refine Fin.ext ?_
    show c.val = (Char.ofNat c.val).toNat
    rw [Char.ofNat, dif_pos valid]
    rfl

end CodePoint

namespace PyString

def ofChars (cs : List Char) : PyString := cs.map CodePoint.ofChar

def ofString (s : String) : PyString := ofChars s.toList

def chars (s : PyString) : Option (List Char) := s.mapM CodePoint.toChar?

/-- `str.encode("utf-8")`. -/
def encodeUtf8 (s : PyString) : Except String ByteArray :=
  match s.chars with
  | some cs => .ok (String.ofList cs).toUTF8
  | none => .error "'utf-8' codec can't encode characters: surrogates not allowed"

theorem chars_ofChars (cs : List Char) : (ofChars cs).chars = some cs := by
  induction cs with
  | nil => rfl
  | cons c cs ih =>
    rw [chars] at ih ⊢
    rw [ofChars, List.map_cons, List.mapM_cons, CodePoint.toChar?_ofChar]
    rw [ofChars] at ih
    rw [ih]
    rfl

theorem chars_eq_some {s : PyString} {cs : List Char} (read : s.chars = some cs) : s = ofChars cs := by
  induction s generalizing cs with
  | nil =>
    obtain rfl := Option.some.inj read
    rfl
  | cons c s ih =>
    rw [chars, List.mapM_cons] at read
    obtain ⟨d, first, rest⟩ := Option.bind_eq_some_iff.mp read
    obtain ⟨ds, others, same⟩ := Option.bind_eq_some_iff.mp rest
    obtain rfl := Option.some.inj same
    rw [CodePoint.toChar?_eq_some first, ih others]
    rfl

/-- A string with no surrogate in it. -/
def Plain (s : PyString) : Prop := ∀ c ∈ s, c.isSurrogate = false

theorem plain_ofChars (cs : List Char) : Plain (ofChars cs) := by
  intro c member
  obtain ⟨d, -, rfl⟩ := List.mem_map.mp member
  exact CodePoint.isSurrogate_ofChar d

theorem exists_ofChars {s : PyString} (plain : s.Plain) : ∃ cs, s = ofChars cs := by
  induction s with
  | nil => exact ⟨[], rfl⟩
  | cons c s ih =>
    obtain ⟨cs, rfl⟩ := ih fun d member => plain d (List.mem_cons_of_mem c member)
    have char : c.toChar? = some (Char.ofNat c.val) := by simp [CodePoint.toChar?, plain c List.mem_cons_self]
    exact ⟨Char.ofNat c.val :: cs, congrArg (· :: ofChars cs) (CodePoint.toChar?_eq_some char)⟩

theorem encodeUtf8_ofChars (cs : List Char) : (ofChars cs).encodeUtf8 = .ok (String.ofList cs).toUTF8 := by
  rw [encodeUtf8, chars_ofChars]

/-- Only strings of characters are encoded. -/
theorem encodeUtf8_ok_iff (s : PyString) : (∃ bytes, s.encodeUtf8 = .ok bytes) ↔ s.Plain := by
  constructor
  · rintro ⟨bytes, encoded⟩
    unfold encodeUtf8 at encoded
    split at encoded
    · rename_i cs read
      rw [chars_eq_some read]
      exact plain_ofChars cs
    · cases encoded
  · intro plain
    obtain ⟨cs, rfl⟩ := exists_ofChars plain
    exact ⟨_, encodeUtf8_ofChars cs⟩

end PyString

end AgentGym
