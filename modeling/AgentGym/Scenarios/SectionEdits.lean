import AgentGym.Scenarios.Sections

/-!
# Section edits

What the edits of a body do to its sections. An edit changes the first section of its
heading and nothing else, so edits of two headings may be made in either order.
-/

namespace AgentGym.Scenarios

open World (PyError)

/-! ### Two edits of first matches -/

section EditFirst

variable {α : Type} {p q : α → Bool} {f g : α → α}

theorem editFirst_comm (apart : ∀ a, p a = true → q a = false) (left : ∀ a, q (f a) = q a) (right : ∀ a, p (g a) = p a)
    (l : List α) : (editFirst p f l).bind (editFirst q g) = (editFirst q g l).bind (editFirst p f) := by
  induction l with
  | nil => rfl
  | cons a l ih =>
    rw [editFirst, editFirst]
    by_cases here : p a = true
    · have other := apart a here
      rw [if_pos here, if_neg (by simp [other]), Option.bind_some, editFirst, left, if_neg (by simp [other])]
      cases editFirst q g l with
      | none => rfl
      | some l' => exact (if_pos here).symm
    · by_cases there : q a = true
      · rw [if_neg here, if_pos there, Option.bind_some, editFirst, right, if_neg here]
        cases editFirst p f l with
        | none => rfl
        | some l' => exact if_pos there
      · -- Both edits pass the head by.
        have first : ∀ l', editFirst p f (a :: l') = (editFirst p f l').map (a :: ·) := fun _ => if_neg here
        have second : ∀ l', editFirst q g (a :: l') = (editFirst q g l').map (a :: ·) := fun _ => if_neg there
        rw [if_neg here, if_neg there, Option.bind_map, Option.bind_map]
        have same := congrArg (Option.map (a :: ·)) ih
        rw [Option.map_bind, Option.map_bind] at same
        simpa only [Function.comp_def, first, second] using same

theorem editFirst_append {before after : List α} {a : α} (earlier : ∀ b ∈ before, p b = false) (here : p a = true) :
    editFirst p f (before ++ a :: after) = some (before ++ f a :: after) := by
  induction before with
  | nil => exact if_pos here
  | cons b before ih =>
    obtain ⟨first, earlier⟩ := List.forall_mem_cons.mp earlier
    rw [List.cons_append, editFirst, if_neg (by simp [first]), ih earlier]
    rfl

end EditFirst

/-! ### Edits of a section -/

/-- `replace_section` or `append_to_section`, with the text that it is given. -/
inductive SectionEdit where
  | replace (text : String)
  | append (text : String)

namespace SectionEdit

def text : SectionEdit → String
  | replace text | append text => text

def run (edit : SectionEdit) (heading body : String) : Option String :=
  match edit with
  | replace text => replaceSection body heading text
  | append text => appendToSection body heading text

/-- The content of the section afterwards. -/
def content (edit : SectionEdit) (old : String) : String :=
  match edit with
  | replace text => text
  | append text => old ++ "\n" ++ text

/-- The first section of the heading, changed. -/
def on (edit : SectionEdit) (heading : String) (sections : List (String × String)) : Option (List (String × String)) :=
  editFirst (fun s => s.1 = heading) (fun s => (s.1, edit.content s.2)) sections

variable {edit edit' : SectionEdit} {heading heading' : String} {sections : List (String × String)}

theorem plain_content (plain : PlainContent edit.text) {old : String} (before : PlainContent old) :
    PlainContent (edit.content old) := by
  cases edit with
  | replace text => exact plain
  | append text => exact before.note plain

theorem run_eq (wf : WellFormed sections) (line : '\n' ∉ heading.toList) :
    edit.run heading (sectionedBody sections) = (edit.on heading sections).map sectionedBody := by
  cases edit with
  | replace text => exact wf.replaceSection_eq line text
  | append text => exact wf.appendToSection_eq line text

theorem on_wellFormed (wf : WellFormed sections) (plain : PlainContent edit.text) {sections' : List (String × String)}
    (edited : edit.on heading sections = some sections') : WellFormed sections' :=
  wf.edited edited fun _ => plain_content plain

theorem on_eq {before after : List (String × String)} {old : String} (first : heading ∉ before.map Prod.fst) :
    edit.on heading (before ++ (heading, old) :: after) = some (before ++ (heading, edit.content old) :: after) := by
  refine editFirst_append (fun s member => ?_) (decide_eq_true rfl)
  exact decide_eq_false fun same => first (same ▸ List.mem_map_of_mem member)

theorem on_comm (apart : heading ≠ heading') :
    (edit.on heading sections).bind (edit'.on heading') = (edit'.on heading' sections).bind (edit.on heading) := by
  refine editFirst_comm ?_ ?_ ?_ sections
  · intro s here
    exact decide_eq_false fun there => apart ((of_decide_eq_true here).symm.trans there)
  · intro s
    rfl
  · intro s
    rfl

theorem run_bind (wf : WellFormed sections) (plain : PlainContent edit.text) (line : '\n' ∉ heading.toList)
    (line' : '\n' ∉ heading'.toList) : (edit.run heading (sectionedBody sections)).bind (edit'.run heading') =
      ((edit.on heading sections).bind (edit'.on heading')).map sectionedBody := by
  rw [run_eq wf line]
  cases edited : edit.on heading sections with
  | none => rfl
  | some sections' => exact run_eq (on_wellFormed wf plain edited) line'

theorem run_comm (wf : WellFormed sections) (apart : heading ≠ heading') (plain : PlainContent edit.text)
    (plain' : PlainContent edit'.text) (line : '\n' ∉ heading.toList) (line' : '\n' ∉ heading'.toList) :
    (edit.run heading (sectionedBody sections)).bind (edit'.run heading') =
      (edit'.run heading' (sectionedBody sections)).bind (edit.run heading) := by
  rw [run_bind wf plain line line', run_bind wf plain' line' line, on_comm apart]

theorem run_eq_none_iff (wf : WellFormed sections) (line : '\n' ∉ heading.toList) :
    edit.run heading (sectionedBody sections) = none ↔ heading ∉ sections.map Prod.fst := by
  rw [run_eq wf line, Option.map_eq_none_iff, ← Option.not_isSome_iff_eq_none, on, editFirst_isSome]
  simp [List.any_eq_true]

/-- The other sections' texts are in the body before and after. -/
theorem run_keeps (wf : WellFormed sections) (plain : PlainContent edit.text) (line : '\n' ∉ heading.toList)
    {body : String} (edited : edit.run heading (sectionedBody sections) = some body) :
    ∀ text ∈ sectionTexts body (some heading),
      textContains (sectionedBody sections) text = true ∧ textContains body text = true := by
  rw [run_eq wf line] at edited
  obtain ⟨sections', changed, rfl⟩ := Option.map_eq_some_iff.mp edited
  have wf' := on_wellFormed wf plain changed
  obtain ⟨before, s, after, rfl, same, _, rfl⟩ := editFirst_eq_some changed
  obtain rfl := of_decide_eq_true same
  intro text member
  rw [wf'.sectionTexts_eq line] at member
  obtain ⟨t, other, rfl⟩ := List.mem_map.mp member
  obtain ⟨member, other⟩ := List.mem_filter.mp other
  refine ⟨textContains_section ?_, textContains_section member⟩
  simp only [List.mem_append, List.mem_cons] at member ⊢
  rcases member with earlier | rfl | later
  · exact Or.inl earlier
  · simp at other
  · exact Or.inr (Or.inr later)

end SectionEdit

section Errors

variable [PyText]

theorem orNotFound_raises {heading : String} {result : Option String} :
    (∃ message, orNotFound heading result = .error (.valueError message)) ↔ result = none := by
  cases result with
  | none => exact ⟨fun _ => rfl, fun _ => ⟨_, rfl⟩⟩
  | some body => exact ⟨fun ⟨_, raised⟩ => (nomatch raised), nofun⟩

/-- The edits of a well-formed body are local and commute. -/
theorem section_edits_local {sections : List (String × String)} (wf : WellFormed sections) :
    sectionTexts (sectionedBody sections) none = sections.map (fun s => renderSection s.1 s.2) ∧
    ∀ (edit : SectionEdit) (heading : String), '\n' ∉ heading.toList → PlainContent edit.text →
      (∀ before old after, sections = before ++ (heading, old) :: after → heading ∉ before.map Prod.fst →
        orNotFound heading (edit.run heading (sectionedBody sections)) =
          .ok (sectionedBody (before ++ (heading, edit.content old) :: after))) ∧
      ((∃ message, orNotFound heading (edit.run heading (sectionedBody sections)) = .error (.valueError message)) ↔
        heading ∉ sections.map Prod.fst) ∧
      (∀ body, edit.run heading (sectionedBody sections) = some body → ∀ text ∈ sectionTexts body (some heading),
        textContains (sectionedBody sections) text = true ∧ textContains body text = true) ∧
      ∀ (edit' : SectionEdit) (heading' : String), '\n' ∉ heading'.toList → PlainContent edit'.text → heading ≠ heading' →
        (edit.run heading (sectionedBody sections)).bind (edit'.run heading') =
          (edit'.run heading' (sectionedBody sections)).bind (edit.run heading) := by
  refine ⟨wf.split, fun edit heading line plain => ⟨?_, ?_, ?_, ?_⟩⟩
  · intro before old after parts first
    rw [SectionEdit.run_eq wf line, parts, SectionEdit.on_eq first]
    rfl
  · rw [orNotFound_raises, SectionEdit.run_eq_none_iff wf line]
  · intro body edited
    exact SectionEdit.run_keeps wf plain line edited
  · intro edit' heading' line' plain' apart
    exact SectionEdit.run_comm wf apart plain plain' line line'

end Errors

/-! ### Two sections -/

/-- Two sections, the heading of one a prefix of the other's. -/
def twoSections : List (String × String) := [("Overview", "Start here."), ("Overview notes", "End here.")]

theorem twoSections_wellFormed : WellFormed twoSections :=
  .of_lines (by simp [twoSections]) (by
    simp only [twoSections, List.forall_mem_cons]
    exact ⟨⟨oneLine_literal (by decide), oneLine_literal (by decide)⟩,
      ⟨oneLine_literal (by decide), oneLine_literal (by decide)⟩, by simp⟩)

theorem section_edits_two :
    @orNotFound asciiText "Overview" ((SectionEdit.append "Done.").run "Overview" (sectionedBody twoSections)) =
      .ok (sectionedBody [("Overview", "Start here.\nDone."), ("Overview notes", "End here.")]) := by
  have line : OneLine "Overview" := oneLine_literal (by decide)
  have text : OneLine "Done." := oneLine_literal (by decide)
  have edits := ((@section_edits_local asciiText _ twoSections_wellFormed).2 (.append "Done.") "Overview" line.2 text.plain).1
  exact edits [] "Start here." [("Overview notes", "End here.")] rfl (by simp)

end AgentGym.Scenarios
