import AgentGym.Scenarios.Denied

/-!
# Task ids

The id of a task is its family's id, a dash, and the seed with zeros in front. It tells the
family and the seed, whatever the seed's sign.
-/

namespace AgentGym.Scenarios

open World

/-! ### Padded seeds -/

/-- The digits of a padded seed. -/
def seedDigits (seed : Int) : List Char :=
  let digits := Nat.toDigits 10 seed.natAbs
  List.replicate (4 - (if seed < 0 then 1 else 0) - digits.length) '0' ++ digits

theorem toList_paddedSeed (seed : Int) :
    (paddedSeed seed).toList = (if seed < 0 then ['-'] else []) ++ seedDigits seed := by
  have digits : (toString seed.natAbs).toList = Nat.toDigits 10 seed.natAbs := Nat.toList_repr
  have width : (toString seed.natAbs).length = (Nat.toDigits 10 seed.natAbs).length := by rw [← String.length_toList, digits]
  have dash : "-".toList = ['-'] := by decide
  simp only [paddedSeed, seedDigits, width, String.toList_append, String.toList_ofList, digits]
  by_cases negative : seed < 0
  · rw [if_pos negative, if_pos negative, if_pos negative, dash, List.append_assoc]
    rfl
  · rw [if_neg negative, if_neg negative, if_neg negative, List.append_assoc]
    rfl

theorem seedDigits_isDigit (seed : Int) : ∀ c ∈ seedDigits seed, c.isDigit = true := by
  intro c member
  rcases List.mem_append.mp member with zero | digit
  · rw [List.eq_of_mem_replicate zero]
    rfl
  · exact Nat.isDigit_of_mem_toDigits (by decide) (by decide) digit

theorem seedDigits_ne_nil (seed : Int) : seedDigits seed ≠ [] :=
  List.append_ne_nil_of_right_ne_nil _ Nat.toDigits_ne_nil

theorem dash_notMem_seedDigits (seed : Int) : '-' ∉ seedDigits seed := fun member =>
  absurd (seedDigits_isDigit seed _ member) (by decide)

theorem ofDigitChars_seedDigits (seed : Int) : Nat.ofDigitChars 10 (seedDigits seed) 0 = seed.natAbs := by
  rw [seedDigits, Nat.ofDigitChars_append, Nat.ofDigitChars_replicate_zero, Nat.mul_zero, Nat.ofDigitChars_ten_toDigits]

theorem paddedSeed_injective : Function.Injective paddedSeed := by
  intro a b same
  have texts := congrArg String.toList same
  rw [toList_paddedSeed, toList_paddedSeed] at texts
  have signs : ∀ {x y : Int}, x < 0 → ¬ y < 0 →
      (if x < 0 then ['-'] else []) ++ seedDigits x ≠ (if y < 0 then ['-'] else []) ++ seedDigits y := by
    intro x y negative positive equal
    rw [if_pos negative, if_neg positive, List.nil_append] at equal
    exact dash_notMem_seedDigits y (equal ▸ List.mem_cons_self)
  by_cases left : a < 0
  · by_cases right : b < 0
    · rw [if_pos left, if_pos right] at texts
      have abs := congrArg (Nat.ofDigitChars 10 · 0) (List.append_cancel_left texts)
      rw [ofDigitChars_seedDigits, ofDigitChars_seedDigits] at abs
      omega
    · exact absurd texts (signs left right)
  · by_cases right : b < 0
    · exact absurd texts.symm (signs right left)
    · rw [if_neg left, if_neg right] at texts
      have abs := congrArg (Nat.ofDigitChars 10 · 0) (List.append_cancel_left texts)
      rw [ofDigitChars_seedDigits, ofDigitChars_seedDigits] at abs
      omega

/-! ### Families -/

namespace Family

def id : Family → String
  | .retrieval => "retrieval"
  | .editPage => "edit_page"
  | .preservation => "preservation"
  | .concurrentEdit => "concurrent_edit"
  | .permissions => "permissions"

theorem id_injective : Function.Injective Family.id := by
  intro a b same
  cases a <;> cases b <;> first | rfl | exact absurd same (by decide)

theorem dash_notMem_id (family : Family) : '-' ∉ family.id.toList := by cases family <;> decide

end Family

def taskId (family : Family) (seed : Int) : String := s!"{family.id}-{paddedSeed seed}"

def snapshotRef (family : Family) (seed : Int) : String := s!"snapshots/{family.id}-{paddedSeed seed}.json"

theorem toList_taskId (family : Family) (seed : Int) :
    (taskId family seed).toList = family.id.toList ++ '-' :: (paddedSeed seed).toList := by
  have dash : "-".toList = ['-'] := by decide
  show (toString family.id ++ "-" ++ toString (paddedSeed seed)).toList = _
  rw [String.toList_append, String.toList_append, dash]
  simp [toString]

theorem taskId_injective {family family' : Family} {seed seed' : Int} (same : taskId family seed = taskId family' seed') :
    family = family' ∧ seed = seed' := by
  have texts := congrArg String.toList same
  rw [toList_taskId, toList_taskId] at texts
  obtain ⟨families, seeds⟩ := append_separator_inj family.dash_notMem_id family'.dash_notMem_id texts
  exact ⟨Family.id_injective (String.toList_inj.mp families), paddedSeed_injective (String.toList_inj.mp seeds)⟩

theorem snapshotRef_eq (family : Family) (seed : Int) :
    snapshotRef family seed = "snapshots/" ++ taskId family seed ++ ".json" := by
  simp [snapshotRef, taskId, toString, String.append_assoc]

theorem reference_injective {id id' : String} (same : "snapshots/" ++ id ++ ".json" = "snapshots/" ++ id' ++ ".json") :
    id = id' := by
  have texts := congrArg String.toList same
  simp only [String.toList_append, List.append_assoc] at texts
  exact String.toList_inj.mp (List.append_cancel_right (List.append_cancel_left texts))

/-! ### What the families stamp on their tasks -/

/-- The stamp of a family on what it makes of a seed. -/
structure Stamped (family : Family) (seed : Int) (g : Generated) : Prop where
  id : g.task.id = taskId family seed
  scenario : g.task.scenarioId = family.id
  reference : g.task.initialSnapshotRef = snapshotRef family seed
  snapshot : g.snapshot.id = taskId family seed
  unseeded : g.task.metadata.get? "seed" = none

theorem stamped_stagedTask {family : Family} {seed : Int} {s : ConfluenceStore} {goal actorId difficulty : String}
    {config metadata : List (String × Json)} (unseeded : "seed" ∉ metadata.map Prod.fst) :
    Stamped family seed (stagedTask family.id seed s goal actorId difficulty config metadata) where
  id := rfl
  scenario := rfl
  reference := rfl
  snapshot := rfl
  unseeded := by
    show (Dict.update _ metadata).get? "seed" = none
    rw [Dict.get?_update_of_not_mem unseeded, Dict.get?_update_of_not_mem (by simp)]
    rfl

/-- Whatever the computation gives has the property. -/
def Yields {ε α : Type} (P : α → Prop) (x : Except ε α) : Prop := ∀ a, x = .ok a → P a

theorem yields_pure {ε α : Type} {P : α → Prop} {a : α} (holds : P a) : Yields P (pure a : Except ε α) := by
  rintro _ ⟨⟩
  exact holds

theorem yields_bind {ε α β : Type} {P : β → Prop} {x : Except ε α} {f : α → Except ε β} (each : ∀ a, Yields P (f a)) :
    Yields P (x >>= f) := by
  intro b result
  obtain ⟨a, -, later⟩ := bind_eq_ok_iff.mp result
  exact each a b later

theorem generate_stamped [PyText] (rng fixtures : Random) (seed : Int) (family : Family) :
    Yields (Stamped family seed) (generate rng fixtures seed family) := by
  cases family with
  | retrieval =>
    iterate 8 refine yields_bind fun _ => ?_
    exact yields_pure (stamped_stagedTask (by simp))
  | editPage =>
    iterate 7 refine yields_bind fun _ => ?_
    exact yields_pure (stamped_stagedTask (by simp))
  | preservation =>
    iterate 7 refine yields_bind fun _ => ?_
    exact yields_pure (stamped_stagedTask (by simp))
  | concurrentEdit =>
    iterate 8 refine yields_bind fun _ => ?_
    exact yields_pure (stamped_stagedTask (by simp))
  | permissions =>
    iterate 5 refine yields_bind fun _ => ?_
    exact yields_pure (stamped_stagedTask (by simp))

theorem exists_stamped [PyText] (rng fixtures : Random) (seed : Int) (family : Family) :
    ∃ g, generate rng fixtures seed family = .ok g ∧ Stamped family seed g := by
  let _ := Verifier.integers
  obtain ⟨g, generated, -⟩ := solvable_iff family rng fixtures seed ("", "")
  exact ⟨g, generated, generate_stamped rng fixtures seed family g generated⟩

/-! ### Seeds that are too long -/

/-- `f"{seed:04d}"`, with the `ValueError` of an integer that is too long for a text. -/
def formatSeed (seed : Int) : Except PyError String :=
  if PyValue.HasText seed then .ok (paddedSeed seed)
  else .error (.valueError ("Exceeds the limit (4300 digits) for integer string conversion; " ++
    "use sys.set_int_max_str_digits() to increase the limit"))

/-- `generate`, which formats its seed at last. -/
def generate? [PyText] (rng fixtures : Random) (seed : Int) (family : Family) : Except PyError Generated := do
  let g ← generate rng fixtures seed family
  let _ ← formatSeed seed
  pure g

theorem generate?_eq_ok_iff [PyText] {rng fixtures : Random} {seed : Int} {family : Family} {g : Generated} :
    generate? rng fixtures seed family = .ok g ↔
      PyValue.HasText seed ∧ generate rng fixtures seed family = .ok g := by
  unfold generate? formatSeed
  rw [bind_eq_ok_iff]
  constructor
  · rintro ⟨g, generated, formatted⟩
    obtain ⟨_, printed, same⟩ := bind_eq_ok_iff.mp formatted
    obtain rfl := Except.ok.inj same
    split at printed
    · rename_i short
      exact ⟨short, generated⟩
    · cases printed
  · rintro ⟨short, generated⟩
    refine ⟨g, generated, ?_⟩
    rw [if_pos short]
    rfl

/-- A family generates its task for exactly the seeds that have a text. -/
theorem exists_generate?_iff [PyText] (rng fixtures : Random) (seed : Int) (family : Family) :
    (∃ g, generate? rng fixtures seed family = .ok g ∧ Stamped family seed g) ↔ PyValue.HasText seed := by
  constructor
  · rintro ⟨g, generated, -⟩
    exact (generate?_eq_ok_iff.mp generated).1
  · intro short
    obtain ⟨g, generated, stamped⟩ := exists_stamped rng fixtures seed family
    exact ⟨g, generate?_eq_ok_iff.mpr ⟨short, generated⟩, stamped⟩

end AgentGym.Scenarios
