import AgentGym.World.Page

/-!
# Sectioned bodies

A scenario writes its page bodies as Markdown sections, a heading line and its text, with
a blank line between one section and the next.
-/

namespace AgentGym.Scenarios

open World (PyError)

/-! ### Splitting -/

/-- The pieces between the separators, found left to right. `skip` counts the rest of a separator. -/
def splitList (separator : List Char) : (skip : Nat) → (piece : List Char) → List Char → List (List Char)
  | _, piece, [] => [piece.reverse]
  | skip + 1, piece, _ :: rest => splitList separator skip piece rest
  | 0, piece, c :: rest =>
    if separator.isPrefixOf (c :: rest) then
      piece.reverse :: splitList separator (separator.length - 1) [] rest
    else splitList separator 0 (c :: piece) rest

/-- `text.split(separator)`. -/
def pySplit (text separator : String) : List String :=
  (splitList separator.toList 0 [] text.toList).map String.ofList

example : pySplit "a--b---c" "--" = ["a", "b", "-c"] := by decide

/-! ### Sections -/

def blankLine : String := "\n\n"

def renderSection (heading content : String) : String := "## " ++ heading ++ "\n" ++ content

def sectionedBody (sections : List (String × String)) : String :=
  blankLine.intercalate (sections.map fun (heading, content) => renderSection heading content)

def sectionMarker (heading : String) : String := renderSection heading ""

/-- The body with its first section of that heading changed, if there is one. -/
def editSection (body heading : String) (edit : String → String) : Option String :=
  let sections := pySplit body blankLine
  (sections.findIdx? fun text => startsWith text (sectionMarker heading)).map fun index =>
    blankLine.intercalate (sections.modify index edit)

def replaceSection (body heading content : String) : Option String :=
  editSection body heading fun _ => renderSection heading content

def appendSection (body heading content : String) : String := body ++ blankLine ++ renderSection heading content

def appendToSection (body heading text : String) : Option String :=
  editSection body heading fun old => old ++ "\n" ++ text

/-- What the section functions raise when there is no section of that heading. -/
def orNotFound [PyText] (heading : String) : Option String → Except PyError String
  | some body => .ok body
  | none =>
    let name := PyText.repr (.str heading)
    .error (.valueError s!"section {name} not found")

/-- The texts of the sections, without those of an excluded heading. -/
def sectionTexts (body : String) (excluding : Option String) : List String :=
  let sections := pySplit body blankLine
  match excluding with
  | none => sections
  | some heading => sections.filter fun text => !startsWith text (sectionMarker heading)

/-! ### Splitting at blank lines -/

def blank : List Char := ['\n', '\n']

/-- A text a blank line on either side keeps apart: it has none inside, and ends in no newline. -/
structure Unbroken (cs : List Char) : Prop where
  inside : ¬ blank <:+: cs
  stop : cs.getLast? ≠ some '\n'

theorem not_blank_start {c : Char} {cs : List Char} (inside : ¬ blank <:+: c :: cs)
    (stop : (c :: cs).getLast? ≠ some '\n') (rest : List Char) : ¬ blank <+: c :: (cs ++ rest) := by
  intro start
  obtain ⟨rfl, next⟩ := List.cons_prefix_cons.mp start
  cases cs with
  | nil => exact stop rfl
  | cons d cs =>
    obtain rfl : '\n' = d := List.singleton_prefix_cons_iff.mp next
    exact inside (List.prefix_append blank cs).isInfix

theorem splitList_unbroken {cs : List Char} (unbroken : Unbroken cs) (piece rest : List Char) :
    splitList blank 0 piece (cs ++ blank ++ rest) = (piece.reverse ++ cs) :: splitList blank 0 [] rest := by
  obtain ⟨inside, stop⟩ := unbroken
  induction cs generalizing piece with
  | nil => simp [splitList, blank]
  | cons c cs ih =>
    have start := not_blank_start inside stop (blank ++ rest)
    rw [List.cons_append, List.cons_append, List.append_assoc, splitList, if_neg (by simpa using start),
      ← List.append_assoc, ih, List.reverse_cons, List.append_assoc]
    · rfl
    · exact fun later => inside (List.infix_cons later)
    · intro last
      refine stop ?_
      rw [List.getLast?_cons, last]
      rfl

theorem splitList_last {cs : List Char} (inside : ¬ blank <:+: cs) (piece : List Char) :
    splitList blank 0 piece cs = [piece.reverse ++ cs] := by
  induction cs generalizing piece with
  | nil => simp [splitList]
  | cons c cs ih =>
    have start : ¬ blank <+: c :: cs := fun start => inside start.isInfix
    rw [splitList, if_neg (by simpa using start), ih fun later => inside (List.infix_cons later)]
    simp

theorem splitList_intercalate {pieces : List (List Char)} (nonempty : pieces ≠ [])
    (unbroken : ∀ cs ∈ pieces, Unbroken cs) : splitList blank 0 [] (blank.intercalate pieces) = pieces := by
  induction pieces with
  | nil => exact absurd rfl nonempty
  | cons cs pieces ih =>
    obtain ⟨first, later⟩ := List.forall_mem_cons.mp unbroken
    cases pieces with
    | nil => simp [splitList_last first.inside]
    | cons ds pieces =>
      rw [List.intercalate_cons_cons, splitList_unbroken first, ih (by simp) later]
      rfl

/-- Joined with blank lines, unbroken texts are split again into themselves. -/
theorem pySplit_intercalate {texts : List String} (nonempty : texts ≠ [])
    (unbroken : ∀ text ∈ texts, Unbroken text.toList) :
    pySplit (blankLine.intercalate texts) blankLine = texts := by
  have separator : blankLine.toList = blank := by decide
  have pieces : texts.map String.toList ≠ [] := by simpa using nonempty
  have split := splitList_intercalate pieces (by simpa using unbroken)
  rw [pySplit, separator, String.toList_intercalate, separator, split, List.map_map]
  conv_rhs => rw [← List.map_id texts]
  exact List.map_congr_left fun text _ => String.ofList_toList

/-! ### Editing the first match -/

section EditFirst

variable {α β : Type}

/-- The list with its first element that passes the test changed, if there is one. -/
def editFirst (p : α → Bool) (f : α → α) : List α → Option (List α)
  | [] => none
  | a :: l => if p a then some (f a :: l) else (editFirst p f l).map (a :: ·)

theorem map_modify_findIdx? (p : α → Bool) (f : α → α) (l : List α) :
    ((l.findIdx? p).map fun i => l.modify i f) = editFirst p f l := by
  induction l with
  | nil => rfl
  | cons a l ih =>
    rw [editFirst, List.findIdx?_cons, ← ih]
    by_cases test : p a = true
    · simp [test]
    · cases l.findIdx? p <;> simp [test]

theorem editFirst_map {p : α → Bool} {f : α → α} {q : β → Bool} {g : β → β} (r : α → β) {l : List α}
    (tests : ∀ a ∈ l, q (r a) = p a) (edits : ∀ a ∈ l, p a = true → g (r a) = r (f a)) :
    editFirst q g (l.map r) = (editFirst p f l).map (List.map r) := by
  induction l with
  | nil => rfl
  | cons a l ih =>
    obtain ⟨test, tests⟩ := List.forall_mem_cons.mp tests
    obtain ⟨edit, edits⟩ := List.forall_mem_cons.mp edits
    rw [List.map_cons, editFirst, editFirst, test, ih tests edits]
    by_cases found : p a = true
    · simp [found, edit found]
    · cases editFirst p f l <;> simp [found]

theorem editFirst_eq_some {p : α → Bool} {f : α → α} {l l' : List α} (h : editFirst p f l = some l') :
    ∃ before a after, l = before ++ a :: after ∧ p a = true ∧ (∀ b ∈ before, p b = false) ∧
      l' = before ++ f a :: after := by
  induction l generalizing l' with
  | nil => simp [editFirst] at h
  | cons a l ih =>
    rw [editFirst] at h
    split at h
    · rename_i found
      exact ⟨[], a, l, rfl, found, by simp, (Option.some.inj h).symm⟩
    · rename_i passed
      obtain ⟨rest, edited, rfl⟩ := Option.map_eq_some_iff.mp h
      obtain ⟨before, b, after, rfl, found, earlier, rfl⟩ := ih edited
      refine ⟨a :: before, b, after, rfl, found, ?_, rfl⟩
      exact List.forall_mem_cons.mpr ⟨by simpa using passed, earlier⟩

theorem editFirst_isSome {p : α → Bool} {f : α → α} {l : List α} :
    (editFirst p f l).isSome = l.any p := by
  induction l with
  | nil => rfl
  | cons a l ih =>
    rw [editFirst, List.any_cons, ← ih]
    by_cases found : p a = true
    · simp [found]
    · simp [found]

end EditFirst

/-! ### Well-formed sections -/

/-- Section contents: some text without blank lines, and without a newline at either end. -/
structure PlainContent (content : String) : Prop where
  nonempty : content.toList ≠ []
  inside : ¬ blank <:+: content.toList
  start : content.toList.head? ≠ some '\n'
  stop : content.toList.getLast? ≠ some '\n'

/-- A body's sections: at least one, headings on one line, contents plain. -/
structure WellFormed (sections : List (String × String)) : Prop where
  nonempty : sections ≠ []
  headings : ∀ s ∈ sections, '\n' ∉ s.1.toList
  contents : ∀ s ∈ sections, PlainContent s.2

/-- A text on one line. -/
def OneLine (text : String) : Prop := text.toList ≠ [] ∧ '\n' ∉ text.toList

theorem oneLine_literal {cs : List Char} (h : cs ≠ [] ∧ '\n' ∉ cs) : OneLine (String.ofList cs) :=
  forall_literal (P := fun cs => cs ≠ [] ∧ '\n' ∉ cs) h

theorem OneLine.plain {text : String} (line : OneLine text) : PlainContent text where
  nonempty := line.1
  inside broken := line.2 (broken.subset List.mem_cons_self)
  start first := line.2 (List.mem_of_head? first)
  stop last := line.2 (List.mem_of_getLast? last)

theorem WellFormed.of_lines {sections : List (String × String)} (nonempty : sections ≠ [])
    (lines : ∀ s ∈ sections, OneLine s.1 ∧ OneLine s.2) : WellFormed sections where
  nonempty := nonempty
  headings s member := (lines s member).1.2
  contents s member := (lines s member).2.plain

theorem blank_newline {cs ds : List Char} (left : ¬ blank <:+: cs) (stop : cs.getLast? ≠ some '\n')
    (right : ¬ blank <:+: ds) (start : ds.head? ≠ some '\n') : ¬ blank <:+: cs ++ '\n' :: ds := by
  induction cs with
  | nil =>
    intro broken
    rcases List.infix_cons_iff.mp broken with first | later
    · exact start (List.singleton_prefix_iff_head?_eq_some.mp (List.cons_prefix_cons.mp first).2)
    · exact right later
  | cons c cs ih =>
    intro broken
    rcases List.infix_cons_iff.mp broken with first | later
    · exact not_blank_start left stop _ first
    · refine ih (fun inner => left (List.infix_cons inner)) ?_ later
      intro last
      refine stop ?_
      rw [List.getLast?_cons, last]
      rfl

theorem getLast?_newline {cs ds : List Char} (nonempty : ds ≠ []) (stop : ds.getLast? ≠ some '\n') :
    (cs ++ '\n' :: ds).getLast? ≠ some '\n' := by
  cases ds with
  | nil => exact absurd rfl nonempty
  | cons d ds =>
    intro last
    rw [List.getLast?_append_cons, List.getLast?_cons_cons] at last
    exact stop last

theorem not_blank_line {cs : List Char} (line : '\n' ∉ cs) : ¬ blank <:+: cs ∧ cs.getLast? ≠ some '\n' := by
  refine ⟨fun broken => line (broken.subset List.mem_cons_self), ?_⟩
  intro last
  exact line (List.mem_of_getLast? last)

theorem toList_renderSection (heading content : String) :
    (renderSection heading content).toList = ('#' :: '#' :: ' ' :: heading.toList) ++ '\n' :: content.toList := by
  have marker : "## ".toList = ['#', '#', ' '] := by decide
  have newline : "\n".toList = ['\n'] := by decide
  rw [renderSection, String.toList_append, String.toList_append, String.toList_append, marker, newline]
  simp

theorem renderSection_unbroken {heading content : String} (line : '\n' ∉ heading.toList)
    (plain : PlainContent content) : Unbroken (renderSection heading content).toList := by
  have line : '\n' ∉ '#' :: '#' :: ' ' :: heading.toList := by simpa using line
  obtain ⟨left, last⟩ := not_blank_line line
  rw [toList_renderSection]
  exact ⟨blank_newline left last plain.inside plain.start, getLast?_newline plain.nonempty plain.stop⟩

theorem PlainContent.note {content text : String} (plain : PlainContent content) (note : PlainContent text) :
    PlainContent (content ++ "\n" ++ text) := by
  have newline : "\n".toList = ['\n'] := by decide
  have chars : (content ++ "\n" ++ text).toList = content.toList ++ '\n' :: text.toList := by
    rw [String.toList_append, String.toList_append, newline]
    simp
  refine ⟨?_, ?_, ?_, ?_⟩ <;> rw [chars]
  · simp
  · exact blank_newline plain.inside plain.stop note.inside note.start
  · rw [List.head?_append_of_ne_nil _ plain.nonempty]
    exact plain.start
  · exact getLast?_newline note.nonempty note.stop

theorem marker_prefix {cs ds rest : List Char} (left : '\n' ∉ cs) (right : '\n' ∉ ds) :
    cs ++ ['\n'] <+: ds ++ '\n' :: rest ↔ cs = ds := by
  induction cs generalizing ds with
  | nil =>
    cases ds with
    | nil => simp
    | cons d ds =>
      have other : '\n' ≠ d := fun same => right (same ▸ List.mem_cons_self)
      simp [other]
  | cons c cs ih =>
    obtain ⟨head, left⟩ := not_or.mp (List.mem_cons.not.mp left)
    cases ds with
    | nil => simp [Ne.symm head]
    | cons d ds =>
      rw [List.cons_append, List.cons_append, List.cons_prefix_cons, List.cons.injEq,
        ih left fun member => right (List.mem_cons_of_mem _ member)]

/-- On one-line headings the marker finds the sections of exactly that heading. -/
theorem startsWith_sectionMarker {heading other : String} (left : '\n' ∉ heading.toList)
    (right : '\n' ∉ other.toList) (content : String) :
    startsWith (renderSection other content) (sectionMarker heading) = decide (other = heading) := by
  have marker : (sectionMarker heading).toList = ('#' :: '#' :: ' ' :: heading.toList) ++ ['\n'] :=
    toList_renderSection heading ""
  rw [startsWith, marker, toList_renderSection, Bool.eq_iff_iff, List.isPrefixOf_iff_prefix,
    marker_prefix (by simpa using left) (by simpa using right), decide_eq_true_iff]
  simp [String.toList_inj, eq_comm]

namespace WellFormed

variable {sections : List (String × String)} (wf : WellFormed sections)
include wf

theorem split : pySplit (sectionedBody sections) blankLine = sections.map fun s => renderSection s.1 s.2 := by
  refine pySplit_intercalate (by simpa using wf.nonempty) ?_
  intro text member
  obtain ⟨s, listed, rfl⟩ := List.mem_map.mp member
  exact renderSection_unbroken (wf.headings s listed) (wf.contents s listed)

variable {heading : String} (line : '\n' ∉ heading.toList)
include line

/-- Editing a section of a body edits the first section of that heading. -/
theorem editSection_eq {edit : String → String} {f : String → String}
    (edits : ∀ content, edit (renderSection heading content) = renderSection heading (f content)) :
    editSection (sectionedBody sections) heading edit =
      (editFirst (fun s => s.1 = heading) (fun s => (s.1, f s.2)) sections).map sectionedBody := by
  have rendered : editFirst (fun text => startsWith text (sectionMarker heading)) edit
      (sections.map fun s => renderSection s.1 s.2) =
      (editFirst (fun s => s.1 = heading) (fun s => (s.1, f s.2)) sections).map
        (List.map fun s => renderSection s.1 s.2) := by
    refine editFirst_map _ (fun s member => startsWith_sectionMarker line (wf.headings s member) s.2) ?_
    intro s _ same
    obtain rfl := of_decide_eq_true same
    exact edits s.2
  unfold editSection
  rw [wf.split]
  have edited := congrArg (Option.map (String.intercalate blankLine)) rendered
  rw [← map_modify_findIdx?, Option.map_map, Option.map_map] at edited
  exact edited

theorem replaceSection_eq (content : String) :
    replaceSection (sectionedBody sections) heading content =
      (editFirst (fun s => s.1 = heading) (fun s => (s.1, content)) sections).map sectionedBody := by
  rw [replaceSection, wf.editSection_eq line (f := fun _ => content) fun _ => rfl]

theorem appendToSection_eq (text : String) :
    appendToSection (sectionedBody sections) heading text =
      (editFirst (fun s => s.1 = heading) (fun s => (s.1, s.2 ++ "\n" ++ text)) sections).map sectionedBody := by
  rw [appendToSection, wf.editSection_eq line (f := fun content => content ++ "\n" ++ text)]
  intro content
  simp [renderSection, String.append_assoc]

theorem sectionTexts_eq : sectionTexts (sectionedBody sections) (some heading) =
    (sections.filter fun s => s.1 ≠ heading).map fun s => renderSection s.1 s.2 := by
  rw [sectionTexts, wf.split]
  rw [List.filter_map]
  refine congrArg _ (List.filter_congr fun s member => ?_)
  rw [Function.comp_apply, startsWith_sectionMarker line (wf.headings s member), decide_not]

omit line in
theorem edited {f : String → String} {sections' : List (String × String)}
    (edited : editFirst (fun s => s.1 = heading) (fun s => (s.1, f s.2)) sections = some sections')
    (plain : ∀ content, PlainContent content → PlainContent (f content)) : WellFormed sections' := by
  obtain ⟨before, s, after, rfl, _, _, rfl⟩ := editFirst_eq_some edited
  have listed : s ∈ before ++ s :: after := List.mem_append_right _ List.mem_cons_self
  have kept : ∀ t ∈ before ++ (s.1, f s.2) :: after, t = (s.1, f s.2) ∨ t ∈ before ++ s :: after := by
    intro t member
    simp only [List.mem_append, List.mem_cons] at member ⊢
    tauto
  refine ⟨by simp, ?_, ?_⟩
  · intro t member
    rcases kept t member with rfl | old
    · exact wf.headings s listed
    · exact wf.headings t old
  · intro t member
    rcases kept t member with rfl | old
    · exact plain _ (wf.contents s listed)
    · exact wf.contents t old

end WellFormed

/-! ### What an edit keeps -/

theorem textContains_section {sections : List (String × String)} {s : String × String} (member : s ∈ sections) :
    textContains (sectionedBody sections) (renderSection s.1 s.2) = true :=
  textContains_intercalate blankLine (List.mem_map_of_mem member)

theorem textContains_content (heading content : String) :
    textContains (renderSection heading content) content = true :=
  textContains_append_right (textContains_self content) _

theorem exists_edited {sections : List (String × String)} {heading : String}
    (listed : heading ∈ sections.map Prod.fst) (f : String → String) :
    ∃ sections', editFirst (fun s => s.1 = heading) (fun s => (s.1, f s.2)) sections = some sections' ∧
      (∃ content, (heading, f content) ∈ sections') ∧
      (∀ s ∈ sections, s.1 ≠ heading → s ∈ sections') ∧ ∀ s ∈ sections', s.1 ≠ heading → s ∈ sections := by
  have present : (editFirst (fun s => s.1 = heading) (fun s => (s.1, f s.2)) sections).isSome = true := by
    obtain ⟨s, member, rfl⟩ := List.mem_map.mp listed
    rw [editFirst_isSome]
    exact List.any_eq_true.mpr ⟨s, member, by simp⟩
  obtain ⟨sections', edited⟩ := Option.isSome_iff_exists.mp present
  obtain ⟨before, s, after, rfl, same, _, rfl⟩ := editFirst_eq_some edited
  obtain rfl := of_decide_eq_true same
  refine ⟨_, edited, ⟨s.2, by simp⟩, ?_, ?_⟩
  · intro t member other
    simp only [List.mem_append, List.mem_cons] at member ⊢
    rcases member with earlier | rfl | later
    · exact Or.inl earlier
    · exact absurd rfl other
    · exact Or.inr (Or.inr later)
  · intro t member other
    simp only [List.mem_append, List.mem_cons] at member ⊢
    rcases member with earlier | rfl | later
    · exact Or.inl earlier
    · exact absurd rfl other
    · exact Or.inr (Or.inr later)

namespace WellFormed

variable {sections : List (String × String)} (wf : WellFormed sections)
include wf

theorem replaceSection_keeps {heading content : String} (line : '\n' ∉ heading.toList)
    (listed : heading ∈ sections.map Prod.fst) (plain : PlainContent content) :
    ∃ after, replaceSection (sectionedBody sections) heading content = some after ∧
      textContains after content = true ∧ ∀ text ∈ sectionTexts after (some heading),
        textContains (sectionedBody sections) text = true ∧ textContains after text = true := by
  obtain ⟨sections', edited, ⟨_, new⟩, _, kept⟩ := exists_edited listed fun _ => content
  have wf' := wf.edited edited fun _ _ => plain
  refine ⟨sectionedBody sections', ?_, ?_, ?_⟩
  · rw [wf.replaceSection_eq line, edited]
    rfl
  · exact textContains_trans (textContains_section new) (textContains_content heading content)
  · intro text member
    rw [wf'.sectionTexts_eq line] at member
    obtain ⟨s, other, rfl⟩ := List.mem_map.mp member
    obtain ⟨member, other⟩ := List.mem_filter.mp other
    exact ⟨textContains_section (kept s member (of_decide_eq_true other)), textContains_section member⟩

theorem appendSection_keeps (heading content : String) :
    ∀ text ∈ sectionTexts (sectionedBody sections) none, textContains (sectionedBody sections) text = true ∧
      textContains (appendSection (sectionedBody sections) heading content) text = true := by
  intro text member
  rw [sectionTexts, wf.split] at member
  obtain ⟨s, listed, rfl⟩ := List.mem_map.mp member
  have within := textContains_section listed
  exact ⟨within, textContains_append_left (textContains_append_left within _) _⟩

/-- A note in one section outlives the replacement of another. -/
theorem noted_replaced {heading content humanHeading note : String} (line : '\n' ∉ heading.toList)
    (humanLine : '\n' ∉ humanHeading.toList) (listed : heading ∈ sections.map Prod.fst)
    (humanListed : humanHeading ∈ sections.map Prod.fst) (apart : humanHeading ≠ heading)
    (plain : PlainContent note) :
    ∃ human after, appendToSection (sectionedBody sections) humanHeading note = some human ∧
      replaceSection human heading content = some after ∧ textContains after content = true ∧
      textContains after note = true := by
  obtain ⟨noted, edited, ⟨old, withNote⟩, kept, _⟩ := exists_edited humanListed fun old => old ++ "\n" ++ note
  have wf' := wf.edited edited fun _ old => old.note plain
  have still : heading ∈ noted.map Prod.fst := by
    obtain ⟨s, member, rfl⟩ := List.mem_map.mp listed
    exact List.mem_map_of_mem (kept s member apart.symm)
  obtain ⟨final, replaced, ⟨_, new⟩, later, _⟩ := exists_edited still fun _ => content
  refine ⟨sectionedBody noted, sectionedBody final, ?_, ?_, ?_, ?_⟩
  · rw [wf.appendToSection_eq humanLine, edited]
    rfl
  · rw [wf'.replaceSection_eq line, replaced]
    rfl
  · exact textContains_trans (textContains_section new) (textContains_content heading content)
  · have text := textContains_content humanHeading (old ++ "\n" ++ note)
    have inner := textContains_append_right (textContains_self note) (old ++ "\n")
    exact textContains_trans (textContains_section (later _ withNote apart)) (textContains_trans text inner)

end WellFormed

end AgentGym.Scenarios
