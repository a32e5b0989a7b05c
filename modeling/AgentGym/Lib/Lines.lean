import Mathlib.Data.List.Basic

/-!
# Lines of a text file

Reading a file in text mode turns every carriage return, with a line feed after it or
not, into a line feed, and gives the lines with their line feeds. A text made of pieces
without either character, each ended by a line feed, is read back piece by piece.
-/

namespace AgentGym

/-- Universal newlines; the flag says that the character before was a carriage return. -/
def translateNewlines : Bool → List Char → List Char
  | _, [] => []
  | afterReturn, c :: cs =>
    if c = '\r' then '\n' :: translateNewlines true cs
    else if c = '\n' ∧ afterReturn then translateNewlines false cs
    else c :: translateNewlines false cs

/-- The lines of a text, the first of them begun already. -/
def splitLines (begun : List Char) : List Char → List (List Char)
  | [] => if begun = [] then [] else [begun]
  | c :: cs => if c = '\n' then (begun ++ [c]) :: splitLines [] cs else splitLines (begun ++ [c]) cs

def textLines (cs : List Char) : List (List Char) := splitLines [] (translateNewlines false cs)

theorem translateNewlines_eq {cs : List Char} (noReturn : '\r' ∉ cs) : translateNewlines false cs = cs := by
  induction cs with
  | nil => rfl
  | cons c cs ih =>
    obtain ⟨first, rest⟩ := not_or.mp (List.mem_cons.not.mp noReturn)
    rw [translateNewlines, if_neg (Ne.symm first), if_neg (by simp), ih rest]

theorem splitLines_piece {piece : List Char} (oneLine : '\n' ∉ piece) (begun rest : List Char) :
    splitLines begun (piece ++ '\n' :: rest) = (begun ++ piece ++ ['\n']) :: splitLines [] rest := by
  induction piece generalizing begun with
  | nil => simp [splitLines]
  | cons c piece ih =>
    obtain ⟨first, later⟩ := not_or.mp (List.mem_cons.not.mp oneLine)
    rw [List.cons_append, splitLines, if_neg (Ne.symm first), ih later]
    simp

/-- Pieces without line breaks come back as the lines of the file. -/
theorem textLines_pieces {pieces : List (List Char)} (oneLine : ∀ p ∈ pieces, '\n' ∉ p ∧ '\r' ∉ p) :
    textLines (pieces.flatMap (· ++ ['\n'])) = pieces.map (· ++ ['\n']) := by
  have noReturn : '\r' ∉ pieces.flatMap (· ++ ['\n']) := by
    intro member
    obtain ⟨p, inside, found⟩ := List.mem_flatMap.mp member
    rcases List.mem_append.mp found with found | found
    · exact (oneLine p inside).2 found
    · simp at found
  unfold textLines
  rw [translateNewlines_eq noReturn]
  clear noReturn
  induction pieces with
  | nil => rfl
  | cons p pieces ih =>
    have tail := ih fun q member => oneLine q (List.mem_cons_of_mem _ member)
    rw [List.flatMap_cons, List.append_assoc, List.singleton_append, splitLines_piece (oneLine p List.mem_cons_self).1, tail]
    simp

theorem splitLines_open {cs : List Char} (oneLine : '\n' ∉ cs) (begun : List Char) :
    splitLines begun cs = if begun ++ cs = [] then [] else [begun ++ cs] := by
  induction cs generalizing begun with
  | nil => rw [splitLines, List.append_nil]
  | cons c cs ih =>
    obtain ⟨first, later⟩ := not_or.mp (List.mem_cons.not.mp oneLine)
    rw [splitLines, if_neg (Ne.symm first), ih later, List.append_assoc, List.singleton_append]

theorem textLines_open {cs : List Char} (oneLine : '\n' ∉ cs ∧ '\r' ∉ cs) (nonempty : cs ≠ []) : textLines cs = [cs] := by
  unfold textLines
  rw [translateNewlines_eq oneLine.2, splitLines_open oneLine.1, List.nil_append, if_neg nonempty]

/-! ### Texts that end a line -/

/-- The text is empty, or ends with a line break. -/
def Terminated (cs : List Char) : Prop := ∀ c, cs.getLast? = some c → c = '\n' ∨ c = '\r'

theorem terminated_append {cs ds : List Char} (first : Terminated cs) (second : Terminated ds) : Terminated (cs ++ ds) := by
  intro c last
  rw [List.getLast?_append] at last
  cases tail : ds.getLast? with
  | none =>
    rw [tail] at last
    exact first c last
  | some d =>
    rw [tail] at last
    obtain rfl := Option.some.inj last
    exact second d tail

theorem terminated_pieces {pieces : List (List Char)} : Terminated (pieces.flatMap (· ++ ['\n'])) := by
  induction pieces with
  | nil => simp [Terminated]
  | cons p pieces ih =>
    intro c last
    rw [List.flatMap_cons] at last
    cases rest : pieces.flatMap (· ++ ['\n']) with
    | nil =>
      rw [rest, List.append_nil, List.getLast?_concat] at last
      exact Or.inl (Option.some.inj last).symm
    | cons d ds =>
      rw [rest, List.getLast?_append_cons, ← rest] at last
      exact ih c last

theorem translateNewlines_append {ds : List Char} (start : ds.head? ≠ some '\n') (afterReturn : Bool) (cs : List Char) :
    translateNewlines afterReturn (cs ++ ds) = translateNewlines afterReturn cs ++ translateNewlines false ds := by
  induction cs generalizing afterReturn with
  | nil =>
    cases ds with
    | nil => rfl
    | cons d ds =>
      have other : d ≠ '\n' := fun same => start (same ▸ rfl)
      rw [List.nil_append, translateNewlines, translateNewlines, translateNewlines]
      simp [other]
  | cons c cs ih =>
    rw [List.cons_append, translateNewlines, translateNewlines]
    split
    · rw [ih, List.cons_append]
    · split
      · rw [ih]
      · rw [ih, List.cons_append]

theorem translateNewlines_ne_nil {cs : List Char} (nonempty : cs ≠ []) : translateNewlines false cs ≠ [] := by
  cases cs with
  | nil => exact absurd rfl nonempty
  | cons c cs =>
    rw [translateNewlines]
    split
    · simp
    · simp

theorem translateNewlines_terminated {cs : List Char} (terminated : Terminated cs) (afterReturn : Bool) :
    ∀ c, (translateNewlines afterReturn cs).getLast? = some c → c = '\n' := by
  induction cs generalizing afterReturn with
  | nil => simp [translateNewlines]
  | cons c cs ih =>
    have rest : ∀ flag, ∀ c, (translateNewlines flag cs).getLast? = some c → c = '\n' := by
      cases cs with
      | nil => simp [translateNewlines]
      | cons d ds => exact ih (by simpa [Terminated, List.getLast?_cons_cons] using terminated)
    -- The last character is the head's, or one of the rest.
    have headed : ∀ {x flag}, (x = '\n' ∨ translateNewlines flag cs ≠ []) →
        ∀ c, (x :: translateNewlines flag cs).getLast? = some c → c = '\n' := by
      intro x flag either c last
      cases later : translateNewlines flag cs with
      | nil =>
        rcases either with rfl | nonempty
        · simpa [later, eq_comm] using last
        · exact absurd later nonempty
      | cons d ds =>
        rw [later, List.getLast?_cons_cons, ← later] at last
        exact rest flag c last
    rw [translateNewlines]
    split
    · exact headed (Or.inl rfl)
    · rename_i other
      split
      · exact rest false
      · refine headed ?_
        by_cases empty : cs = []
        · subst empty
          rcases terminated c rfl with feed | back
          · exact Or.inl feed
          · exact absurd back other
        · exact Or.inr (translateNewlines_ne_nil empty)

theorem splitLines_append {cs : List Char} (terminated : ∀ c, cs.getLast? = some c → c = '\n') (begun rest : List Char)
    (nonempty : cs ≠ []) : splitLines begun (cs ++ rest) = splitLines begun cs ++ splitLines [] rest := by
  induction cs generalizing begun with
  | nil => exact absurd rfl nonempty
  | cons c cs ih =>
    rw [List.cons_append, splitLines, splitLines]
    cases cs with
    | nil =>
      obtain rfl := terminated c rfl
      simp [splitLines]
    | cons d ds =>
      have later := ih (by simpa [List.getLast?_cons_cons] using terminated)
      split
      · rw [later _ (by simp), List.cons_append]
      · rw [later _ (by simp)]

/-- Behind a text that ends a line, the lines of another follow. -/
theorem textLines_append {cs ds : List Char} (terminated : Terminated cs) (start : ds.head? ≠ some '\n') :
    textLines (cs ++ ds) = textLines cs ++ textLines ds := by
  unfold textLines
  rw [translateNewlines_append start]
  by_cases empty : translateNewlines false cs = []
  · simp [empty, splitLines]
  · exact splitLines_append (translateNewlines_terminated terminated false) [] _ empty

/-- What is left of joined lines when they are cut is the first of them and what begins the next. -/
theorem pieces_cut {pieces : List (List Char)} {cs more : List Char} (whole : cs ++ more = pieces.flatMap (· ++ ['\n'])) :
    ∃ k begun, cs = (pieces.take k).flatMap (· ++ ['\n']) ++ begun ∧
      ((k = pieces.length ∧ begun = []) ∨ ∃ piece rest, pieces[k]? = some piece ∧ begun ++ rest = piece) := by
  induction pieces generalizing cs with
  | nil =>
    obtain ⟨rfl, -⟩ := List.append_eq_nil_iff.mp whole
    exact ⟨0, [], rfl, Or.inl ⟨rfl, rfl⟩⟩
  | cons piece pieces ih =>
    rw [List.flatMap_cons, List.append_assoc] at whole
    obtain ⟨begun, rfl, rest⟩ | ⟨past, rfl, rest⟩ := List.append_eq_append_iff.mp whole
    · exact ⟨0, cs, rfl, Or.inr ⟨_, begun, rfl, rfl⟩⟩
    · cases past with
      | nil => exact ⟨0, piece, by simp, Or.inr ⟨piece, [], rfl, List.append_nil _⟩⟩
      | cons c past =>
        obtain ⟨rfl, later⟩ := List.cons.inj rest
        obtain ⟨k, begun, rfl, place⟩ := ih later.symm
        refine ⟨k + 1, begun, by simp, ?_⟩
        rcases place with ⟨rfl, rfl⟩ | ⟨next, left, here, same⟩
        · exact Or.inl ⟨rfl, rfl⟩
        · exact Or.inr ⟨next, left, here, same⟩

/-- Joined lines, and one that is not ended. -/
theorem textLines_pieces_open {pieces : List (List Char)} {begun : List Char}
    (oneLine : ∀ p ∈ begun :: pieces, '\n' ∉ p ∧ '\r' ∉ p) :
    textLines (pieces.flatMap (· ++ ['\n']) ++ begun) = pieces.map (· ++ ['\n']) ++ if begun = [] then [] else [begun] := by
  have here := oneLine begun List.mem_cons_self
  have start : begun.head? ≠ some '\n' := fun first => here.1 (List.mem_of_mem_head? first)
  rw [textLines_append terminated_pieces start, textLines_pieces fun p member => oneLine p (List.mem_cons_of_mem _ member)]
  split
  · rename_i empty
    rw [empty]
    rfl
  · rename_i nonempty
    rw [textLines_open here nonempty]

end AgentGym
