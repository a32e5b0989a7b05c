import AgentGym.Lib.JsonText
import Mathlib.Data.List.TakeWhile

/-!
# JSON text that is cut off

A reader that has come to the end of a value finds the same one when more text follows.
So an object that is cut off anywhere before its last bracket is no value.
-/

namespace AgentGym.JsonText

/-! ### More text -/

theorem unescape_on {c x : Char} {cs rest : List Char} (read : unescape c cs = some (x, rest)) (more : List Char) :
    unescape c (cs ++ more) = some (x, rest ++ more) := by
  unfold unescape at read ⊢
  split_ifs at read ⊢ with n r t b f u
  all_goals try
    obtain ⟨rfl, rfl⟩ := Prod.mk.inj (Option.some.inj read)
    rfl
  split at read
  · obtain ⟨rfl, rfl⟩ := Prod.mk.inj (Option.some.inj read)
    rfl
  · cases read

theorem readString_on {n : Nat} {cs s rest : List Char} (read : readString n cs = some (s, rest)) {m : Nat} (fuel : n ≤ m)
    (more : List Char) : readString m (cs ++ more) = some (s, rest ++ more) := by
  induction n generalizing cs s m with
  | zero => cases read
  | succ n ih =>
    obtain ⟨m, rfl⟩ := Nat.exists_eq_succ_of_ne_zero (Nat.ne_of_gt (Nat.lt_of_lt_of_le (Nat.succ_pos n) fuel))
    have less : n ≤ m := Nat.le_of_succ_le_succ fuel
    cases cs with
    | nil => cases read
    | cons c cs =>
      rw [List.cons_append]
      rw [readString.eq_def] at read ⊢
      dsimp only at read ⊢
      split_ifs at read ⊢ with ends escapes
      · obtain ⟨rfl, rfl⟩ := Prod.mk.inj (Option.some.inj read)
        rfl
      · cases cs with
        | nil => cases read
        | cons e cs =>
          obtain ⟨⟨x, tail⟩, unescaped, read⟩ := Option.bind_eq_some_iff.mp read
          obtain ⟨⟨s', rest'⟩, inner, same⟩ := Option.map_eq_some_iff.mp read
          obtain ⟨rfl, rfl⟩ := Prod.mk.inj same
          simp only [List.cons_append, unescape_on unescaped more, Option.bind_some, ih inner less, Option.map_some]
      · obtain ⟨⟨s', rest'⟩, inner, same⟩ := Option.map_eq_some_iff.mp read
        obtain ⟨rfl, rfl⟩ := Prod.mk.inj same
        rw [ih inner less]
        rfl

/-- What the first reader reads before other text, the second one reads where more text follows. -/
def ReadsOn {α : Type} (read read' : List Char → Option (α × List Char)) : Prop :=
  ∀ cs a d rest, read cs = some (a, d :: rest) → ∀ more, read' (cs ++ more) = some (a, d :: rest ++ more)

section Lists

variable {α : Type} {close : Char} {item item' : List Char → Option (α × List Char)}

theorem readItems_on (on : ReadsOn item item') {n : Nat} {cs : List Char} {as : List α} {rest : List Char}
    (read : readItems close item n cs = some (as, rest)) {m : Nat} (fuel : n ≤ m) (more : List Char) :
    readItems close item' m (cs ++ more) = some (as, rest ++ more) := by
  induction n generalizing cs as m with
  | zero => cases read
  | succ n ih =>
    obtain ⟨m, rfl⟩ := Nat.exists_eq_succ_of_ne_zero (Nat.ne_of_gt (Nat.lt_of_lt_of_le (Nat.succ_pos n) fuel))
    rw [readItems] at read ⊢
    obtain ⟨⟨a, tail⟩, first, read⟩ := Option.bind_eq_some_iff.mp read
    cases tail with
    | nil => cases read
    | cons d tail =>
      rw [on cs a d tail first more]
      dsimp only [Option.bind_some, List.cons_append] at read ⊢
      split_ifs at read ⊢ with ends goesOn
      · obtain ⟨rfl, rfl⟩ := Prod.mk.inj (Option.some.inj read)
        rfl
      · obtain ⟨⟨as', rest'⟩, inner, same⟩ := Option.map_eq_some_iff.mp read
        obtain ⟨rfl, rfl⟩ := Prod.mk.inj same
        rw [ih inner (Nat.le_of_succ_le_succ fuel)]
        rfl

theorem readList_on (on : ReadsOn item item') {n : Nat} {cs : List Char} {as : List α} {rest : List Char}
    (read : readList close item n cs = some (as, rest)) {m : Nat} (fuel : n ≤ m) (more : List Char) :
    readList close item' m (cs ++ more) = some (as, rest ++ more) := by
  cases cs with
  | nil => cases read
  | cons c cs =>
    rw [List.cons_append]
    rw [readList] at read ⊢
    split_ifs at read ⊢ with ends
    · obtain ⟨rfl, rfl⟩ := Prod.mk.inj (Option.some.inj read)
      rfl
    · exact readItems_on on read fuel more

end Lists

section Values

variable {readFloat : String → Option Rat}

theorem readField_on {n m : Nat} (fuel : n ≤ m) {value value' : List Char → Option (Json × List Char)}
    (on : ReadsOn value value') : ReadsOn (readField n value) (readField m value') := by
  intro cs a d rest read more
  unfold readField at read
  split at read
  · rename_i cs
    obtain ⟨⟨key, tail⟩, named, read⟩ := Option.bind_eq_some_iff.mp read
    dsimp only at read
    split at read
    · rename_i tail
      obtain ⟨⟨v, rest'⟩, inner, same⟩ := Option.map_eq_some_iff.mp read
      obtain ⟨rfl, rfl⟩ := Prod.mk.inj same
      simp only [List.cons_append, readField, readString_on named fuel, Option.bind_some, on tail v d rest inner more,
        Option.map_some]
    · cases read
  · cases read

theorem readLiteral_on {text cs rest : List Char} {v w : Json} (read : readLiteral text v cs = some (w, rest))
    (more : List Char) : readLiteral text v (cs ++ more) = some (w, rest ++ more) := by
  unfold readLiteral at read ⊢
  split_ifs at read with begins
  obtain ⟨rfl, rfl⟩ := Prod.mk.inj (Option.some.inj read)
  obtain ⟨tail, rfl⟩ := List.isPrefixOf_iff_prefix.mp begins
  have begins' : text.isPrefixOf (text ++ tail ++ more) = true :=
    List.isPrefixOf_iff_prefix.mpr ⟨tail ++ more, (List.append_assoc _ _ _).symm⟩
  rw [if_pos begins', List.append_assoc, List.drop_left, List.drop_left]

/-- The text of a numeral ends where something else begins. -/
theorem numeral_on {cs rest : List Char} {d : Char} (ends : cs.dropWhile isNumeral = d :: rest) (more : List Char) :
    (cs ++ more).takeWhile isNumeral = cs.takeWhile isNumeral ∧ (cs ++ more).dropWhile isNumeral = d :: rest ++ more := by
  have pieces : cs.takeWhile isNumeral ++ d :: rest = cs := by
    rw [← ends]
    exact List.takeWhile_append_dropWhile
  have other : isNumeral d = false := by
    have first := List.head?_dropWhile_not isNumeral cs
    rw [ends] at first
    simpa using first
  have stops : Stops (d :: rest ++ more) := by
    intro c head
    obtain rfl := Option.some.inj head
    exact other
  have digits : ∀ c ∈ cs.takeWhile isNumeral, isNumeral c = true := fun c member => List.mem_takeWhile_imp member
  have split := numeral_split digits stops
  rw [← List.append_assoc, pieces] at split
  exact split

theorem readValue_on {n m : Nat} (fuel : n ≤ m) : ReadsOn (readValue readFloat n) (readValue readFloat m) := by
  induction n generalizing m with
  | zero => exact fun _ _ _ _ read => nomatch read
  | succ n ih =>
    obtain ⟨m, rfl⟩ := Nat.exists_eq_succ_of_ne_zero (Nat.ne_of_gt (Nat.lt_of_lt_of_le (Nat.succ_pos n) fuel))
    have less : n ≤ m := Nat.le_of_succ_le_succ fuel
    intro cs a d rest read more
    cases cs with
    | nil => cases read
    | cons c cs =>
      rw [List.cons_append]
      rw [readValue] at read ⊢
      split_ifs at read ⊢
      · obtain ⟨⟨as, rest'⟩, inner, same⟩ := Option.map_eq_some_iff.mp read
        obtain ⟨rfl, rfl⟩ := Prod.mk.inj same
        rw [readList_on (ih less) inner less]
        rfl
      · obtain ⟨⟨as, rest'⟩, inner, same⟩ := Option.map_eq_some_iff.mp read
        obtain ⟨rfl, rfl⟩ := Prod.mk.inj same
        rw [readList_on (readField_on less (ih less)) inner less]
        rfl
      · obtain ⟨⟨s, rest'⟩, inner, same⟩ := Option.map_eq_some_iff.mp read
        obtain ⟨rfl, rfl⟩ := Prod.mk.inj same
        rw [readString_on inner less]
        rfl
      · exact readLiteral_on read more
      · exact readLiteral_on read more
      · exact readLiteral_on read more
      · obtain ⟨v, inner, same⟩ := Option.map_eq_some_iff.mp read
        obtain ⟨rfl, ends⟩ := Prod.mk.inj same
        obtain ⟨taken, dropped⟩ := numeral_on ends more
        rw [← List.cons_append, taken, dropped, inner]
        rfl

/-- An object is read up to its bracket, whatever follows. -/
theorem readValue_object_on {n m : Nat} (fuel : n ≤ m) {cs rest : List Char} {v : Json}
    (read : readValue readFloat n ('\x7b' :: cs) = some (v, rest)) (more : List Char) :
    readValue readFloat m ('\x7b' :: cs ++ more) = some (v, rest ++ more) := by
  cases n with
  | zero => cases read
  | succ n =>
    obtain ⟨m, rfl⟩ := Nat.exists_eq_succ_of_ne_zero (Nat.ne_of_gt (Nat.lt_of_lt_of_le (Nat.succ_pos n) fuel))
    have less : n ≤ m := Nat.le_of_succ_le_succ fuel
    rw [List.cons_append]
    rw [readValue, if_neg (by decide), if_pos rfl] at read ⊢
    obtain ⟨⟨as, rest'⟩, inner, same⟩ := Option.map_eq_some_iff.mp read
    obtain ⟨rfl, rfl⟩ := Prod.mk.inj same
    rw [readList_on (readField_on less (readValue_on less)) inner less]
    rfl

/-- No object is read from the text of one that is cut off. -/
theorem loads_cut {float : Rat → String} (laws : FloatText float readFloat) {kvs : List (String × Json)} {cs more : List Char}
    (cut : more ≠ []) (whole : cs ++ more = (dumps float (.obj kvs)).toList) :
    loads readFloat (String.ofList cs) = .error "Expecting value" := by
  have nothing : readValue readFloat cs.length cs = none := by
    cases read : readValue readFloat cs.length cs with
    | none => rfl
    | some result =>
      obtain ⟨v, rest⟩ := result
      cases cs with
      | nil => cases read
      | cons c cs =>
        rw [dumps, String.toList_ofList] at whole
        have opens : c = '\x7b' := (List.cons.inj whole).1
        subst opens
        have longer := readValue_object_on (m := (write float (sorted (.obj kvs)) ++ []).length)
          (by rw [List.append_nil, ← whole, List.length_append]; exact Nat.le_add_right _ _) read more
        rw [whole, ← List.append_nil (write float (sorted (.obj kvs)))] at longer
        rw [readsBack laws _ _ [] (by simp) (by simp [Stops])] at longer
        have ended := (Prod.mk.inj (Option.some.inj longer)).2
        exact absurd (List.append_eq_nil_iff.mp ended.symm).2 cut
  rw [loads, String.toList_ofList, nothing]

end Values

end AgentGym.JsonText
