import AgentGym.Lib.PyJsonText
import AgentGym.Verifier.Accepts
import AgentGym.Verifier.Partition

/-!
# When the verifier raises

`compare` raises where a version delta cannot be computed, and an integer of too many digits
has no text, neither as canonical JSON nor in a message. `verify?` is `verify` with these
exceptions: it answers as `verify` does, or raises.
-/

namespace AgentGym.Verifier

open World (resourceKind)

/-! ### The targets -/

/-- A page id, or a list of distinct ones, none of them empty. -/
def PageIds (config : Json) (key : String) (ids : List String) : Prop :=
  ids ≠ [] ∧ ids.Nodup ∧ (∀ id ∈ ids, id ≠ "") ∧
    ((∃ id, config.get? key = some (.str id) ∧ ids = [id]) ∨ config.get? key = some (.arr (ids.map .str)))

theorem nonemptyString?_eq_some {v : Json} {id : String} : nonemptyString? v = some id ↔ v = .str id ∧ id ≠ "" := by
  cases v with
  | str s =>
    by_cases empty : s = ""
    · simp [nonemptyString?, empty]
    · simp only [nonemptyString?, if_neg empty, Option.some.injEq, Json.str.injEq]
      constructor
      · rintro rfl
        exact ⟨rfl, empty⟩
      · exact fun h => h.1
  | _ => simp [nonemptyString?]

theorem filterMap_strings {f : Json → Option String} (string : ∀ v s, f v = some s → v = .str s) {values : List Json}
    (all : (values.filterMap f).length = values.length) : values = (values.filterMap f).map .str := by
  induction values with
  | nil => rfl
  | cons v values ih =>
    cases found : f v with
    | none =>
      rw [List.filterMap_cons_none found, List.length_cons] at all
      have bound := List.length_filterMap_le f values
      omega
    | some s =>
      rw [List.filterMap_cons_some found, List.length_cons, List.length_cons, Nat.add_right_cancel_iff] at all
      rw [List.filterMap_cons_some found, List.map_cons, ← ih all, string v s found]

theorem pageIdCollection_iff {config : Json} {key : String} {ids : List String} :
    pageIdCollection config key = .ok ids ↔ PageIds config key ids := by
  have checked : ∀ values : List Json, (let found := values.filterMap nonemptyString?
      if found.length ≠ values.length ∨ found = [] then Except.error s!"missing or invalid {key}"
      else if found.dedup.length ≠ found.length then .error s!"duplicate page ids in {key}"
      else .ok found) = .ok ids ↔
        ids ≠ [] ∧ ids.Nodup ∧ (∀ id ∈ ids, id ≠ "") ∧ values = ids.map .str := by
    intro values
    dsimp only
    constructor
    · intro ok
      split at ok
      · simp at ok
      · rename_i sound
        split at ok
        · simp at ok
        · rename_i distinct
          obtain ⟨all, nonempty⟩ := not_or.mp sound
          obtain rfl := Except.ok.inj ok
          refine ⟨nonempty, ?_, ?_, ?_⟩
          · rw [← (List.dedup_sublist _).eq_of_length (not_not.mp distinct)]
            exact List.nodup_dedup _
          · intro id member
            obtain ⟨v, -, found⟩ := List.mem_filterMap.mp member
            exact (nonemptyString?_eq_some.mp found).2
          · exact filterMap_strings (fun v s found => (nonemptyString?_eq_some.mp found).1) (not_not.mp all)
    · rintro ⟨nonempty, nodup, full, rfl⟩
      have same : (ids.map Json.str).filterMap nonemptyString? = ids := by
        rw [List.filterMap_map]
        have each : ∀ id ∈ ids, (nonemptyString? ∘ Json.str) id = some id := fun id member => by
          simp [nonemptyString?, full id member]
        rw [List.filterMap_congr each, List.filterMap_some]
      rw [same, if_neg (by simp [nonempty]), if_neg (by simp [nodup.dedup])]
  unfold pageIdCollection PageIds
  dsimp only at checked ⊢
  split
  · rename_i id found
    have single : [Json.str id] = ids.map .str ↔ ∃ id', some (Json.str id) = some (Json.str id') ∧ ids = [id'] := by
      rw [eq_comm, List.map_eq_singleton_iff]
      constructor
      · rintro ⟨id', own, same⟩
        exact ⟨id', by rw [same], own⟩
      · rintro ⟨id', same, own⟩
        exact ⟨id', own, (Option.some.inj same).symm⟩
    rw [checked, found, single]
    simp
  · rename_i values found
    rw [checked, found]
    simp
  · rename_i noString noList
    simp only [reduceCtorEq, false_iff, not_and, not_or, not_exists]
    exact fun _ _ _ => ⟨fun id found => absurd found (noString id), noList _⟩

/-! ### Texts -/

inductive VerifierError where
  | overflow (e : OverflowError)
  /-- An integer exceeds the interpreter's limit of digits. -/
  | digits

/-- `str(error)`. -/
def VerifierError.text : VerifierError → String
  | .overflow _ => "int too large to convert to float"
  | .digits => "Exceeds the limit (4300 digits) for integer string conversion; " ++
      "use sys.set_int_max_str_digits() to increase the limit"

/-- None of the integers in the value is too long for a text. -/
def Printable (v : Json) : Prop := v.allInts (fun i => decide (PyValue.HasText i)) = true

instance (v : Json) : Decidable (Printable v) := inferInstanceAs (Decidable (_ = true))

/-- The values are turned into text one by one. -/
def print (values : List Json) : Except VerifierError Unit :=
  if ∀ v ∈ values, Printable v then .ok () else .error .digits

/-- What the message of `assert_equal` prints; it is built also where another one is given. -/
def equalTexts (expected actual : Json) : List Json :=
  if actual.pyEq expected then [] else [expected, actual]

/-- The entries that are compared, up to the first two that differ. -/
def entryTexts : List (Json × Json) → List Json
  | [] => []
  | (entry, prior) :: rest => entry :: prior :: if entry.sameText prior then entryTexts rest else []

/-- What `_canonical_bytes` prints for one page id, in order. -/
def historyTexts (initialPage finalPage initialHistory finalHistory : Option Json) : List Json :=
  orNull initialPage :: orNull finalPage ::
    if (orNull initialPage).sameText (orNull finalPage) then [orNull initialHistory, orNull finalHistory]
    else match finalPage with
      | some (.obj page) =>
        let initial := entriesOf initialHistory
        let final := entriesOf finalHistory
        entryTexts ((final.zip initial).take (overlap initial final)) ++
          match final.getLast? with
          | some entry => [entry, .obj page]
          | none => []
      | _ => []

def pageHistoryTexts (initial final : WorldSnapshot) : List Json :=
  let initialPages := collection initial.resources "pages"
  let finalPages := collection final.resources "pages"
  let initialHistories := collection initial.resources "page_versions"
  let finalHistories := collection final.resources "page_versions"
  let pageIds := unionIds (unionIds initialPages.keys finalPages.keys)
    (unionIds initialHistories.keys finalHistories.keys)
  pageIds.flatMap fun pageId => historyTexts (initialPages.get? pageId) (finalPages.get? pageId)
    (initialHistories.get? pageId) (finalHistories.get? pageId)

/-- What `_world_invariants` prints. -/
def invariantTexts (initial final : WorldSnapshot) : List Json :=
  (unchangedInvariantKinds.flatMap fun kind =>
    equalTexts (resourceKind initial.resources kind) (resourceKind final.resources kind)) ++
  pageHistoryTexts initial final

/-- What `_world_unchanged` prints. -/
def worldTexts (initial final : WorldSnapshot) : List Json :=
  equalTexts (.ofDict initial.resources) (.ofDict final.resources)

/-! ### The families -/

section Exceptions

variable [PyText] [PyFloat]

/-- `compare`, and what is printed after it. -/
def comparePrinting (initial final : WorldSnapshot) (values : List Json) : Except VerifierError Unit := do
  let _ ← (compare? initial.resources final.resources).mapError .overflow
  print values

/-- `_verify_edit` with its exceptions, which come once the targets are known. -/
def verifyEdit? (initial final : WorldSnapshot) (config : Json) (exactBody : Bool) :
    Except VerifierError (List AssertionResult) :=
  match targetPageIds config with
  | .error _ => .ok (verifyEdit initial final config exactBody)
  | .ok _ => (comparePrinting initial final (invariantTexts initial final)).map fun _ =>
      verifyEdit initial final config exactBody

def verifyReadOnly? (initial final : WorldSnapshot) (trajectory config : Json) :
    Except VerifierError (List AssertionResult) :=
  (print (worldTexts initial final)).map fun _ => verifyReadOnly initial final trajectory config

def verifyPreservation? (initial final : WorldSnapshot) (config : Json) : Except VerifierError (List AssertionResult) :=
  (verifyEdit? initial final config true).map fun _ => verifyPreservation initial final config

def verifyConcurrent? (task : Task) (initial final : WorldSnapshot) (config : Json) :
    Except VerifierError (List AssertionResult) :=
  (verifyEdit? initial final config true).map fun _ => verifyConcurrent task initial final config

def verifyDeniedWrite? (initial final : WorldSnapshot) (config : Json) : Except VerifierError (List AssertionResult) :=
  match targetPageIds config with
  | .error _ => .ok (verifyDeniedWrite initial final config)
  | .ok _ => (comparePrinting initial final (worldTexts initial final)).map fun _ =>
      verifyDeniedWrite initial final config

def verifyPermissions? (task : Task) (initial final : WorldSnapshot) (trajectory config : Json)
    (resultMetadata : List (String × Json)) : Except VerifierError VerificationResult :=
  match permissionMode task.metadata config with
  | .str "denied_read" => (verifyReadOnly? initial final trajectory config).map fun assertions =>
      buildResult assertions (resultMetadata ++ [("mode", .str "denied_read")])
  | .str "denied_write" => (verifyDeniedWrite? initial final config).map fun assertions =>
      buildResult assertions (resultMetadata ++ [("mode", .str "denied_write")])
  | .str "allowed" => (verifyEdit? initial final config false).map fun assertions =>
      buildResult assertions (resultMetadata ++ [("mode", .str "allowed")])
  | _ => .ok (configurationFailure "unknown permission mode")

def verifyFamily? (family : String) (task : Task) (initial final : WorldSnapshot) (trajectory config : Json)
    (resultMetadata : List (String × Json)) : Except VerifierError VerificationResult :=
  match family with
  | "retrieval" => (verifyReadOnly? initial final trajectory config).map (buildResult · resultMetadata)
  | "permissions" => verifyPermissions? task initial final trajectory config resultMetadata
  | "concurrent_edit" => (verifyConcurrent? task initial final config).map (buildResult · resultMetadata)
  | "preservation" => (verifyPreservation? initial final config).map (buildResult · resultMetadata)
  | _ => (verifyEdit? initial final config true).map (buildResult · resultMetadata)

/-- `verify` with its exceptions. -/
def verify? (task : Task) (initial final : WorldSnapshot) (trajectory : Json) :
    Except VerifierError VerificationResult :=
  match task.metadata.get? "family" with
  | some (.str family) =>
    if supportedFamilies.contains family then
      match task.metadata.get? "verifier_config" with
      | some (.obj config) => verifyFamily? family task initial final trajectory (.obj config)
          [("verifier_id", .str verifierId), ("family", .str family)]
      | _ => .ok (configurationFailure "invalid verifier_config")
    else .ok (unknownFamilyResult (.str family))
  | family => .ok (unknownFamilyResult (orNull family))

end Exceptions

/-! ### When it answers -/

def EqualOrPrintable (expected actual : Json) : Prop :=
  actual.pyEq expected = true ∨ Printable expected ∧ Printable actual

/-- The page is printable in both worlds, and of its histories what is compared. -/
structure HistoryPrintable (initialPage finalPage initialHistory finalHistory : Option Json) : Prop where
  pages : Printable (orNull initialPage) ∧ Printable (orNull finalPage)
  untouched : (orNull initialPage).sameText (orNull finalPage) = true →
    Printable (orNull initialHistory) ∧ Printable (orNull finalHistory)
  last : (orNull initialPage).sameText (orNull finalPage) = false → (orNull finalPage).isObj = true →
    ∀ entry, (entriesOf finalHistory).getLast? = some entry → Printable entry
  prior : (orNull initialPage).sameText (orNull finalPage) = false → (orNull finalPage).isObj = true →
    ∀ before entry old after, ((entriesOf finalHistory).zip (entriesOf initialHistory)).take
        (overlap (entriesOf initialHistory) (entriesOf finalHistory)) = before ++ (entry, old) :: after →
      (∀ e ∈ before, e.1.sameText e.2 = true) → Printable entry ∧ Printable old

/-- What the invariants of an edit print has a text. -/
structure EditPrintable (initial final : WorldSnapshot) : Prop where
  kinds : ∀ kind ∈ unchangedInvariantKinds,
    EqualOrPrintable (resourceKind initial.resources kind) (resourceKind final.resources kind)
  histories : ∀ k, HistoryPrintable (pageOf initial k) (pageOf final k) (historyOf initial k) (historyOf final k)

def WorldPrintable (initial final : WorldSnapshot) : Prop :=
  EqualOrPrintable (.ofDict initial.resources) (.ofDict final.resources)

def Named (config : Json) : Prop := ∃ targets, PageIds config "expected_page_ids" targets

/-- What a family needs of the two worlds for an answer. -/
structure FamilyAnswers (task : Task) (initial final : WorldSnapshot) (family : String) (config : Json) : Prop where
  reading : family = "retrieval" ∨ family = "permissions" ∧ permissionMode task.metadata config = .str "denied_read" →
    WorldPrintable initial final
  editing : Named config → family ∈ ["edit_page", "preservation", "concurrent_edit"] ∨
      family = "permissions" ∧ permissionMode task.metadata config = .str "allowed" →
    Subtractable initial.resources final.resources ∧ EditPrintable initial final
  denied : Named config → family = "permissions" → permissionMode task.metadata config = .str "denied_write" →
    Subtractable initial.resources final.resources ∧ WorldPrintable initial final

/-- The worlds of a task are such that `verify` answers. -/
def Answerable (task : Task) (initial final : WorldSnapshot) : Prop :=
  ∀ family config, task.metadata.get? "family" = some (.str family) →
    task.metadata.get? "verifier_config" = some (.obj config) → FamilyAnswers task initial final family (.obj config)

theorem printable_equalTexts {expected actual : Json} :
    (∀ v ∈ equalTexts expected actual, Printable v) ↔ EqualOrPrintable expected actual := by
  unfold equalTexts EqualOrPrintable
  cases actual.pyEq expected <;> simp

theorem printable_entryTexts {entries : List (Json × Json)} :
    (∀ v ∈ entryTexts entries, Printable v) ↔ ∀ before entry old after, entries = before ++ (entry, old) :: after →
      (∀ e ∈ before, e.1.sameText e.2 = true) → Printable entry ∧ Printable old := by
  induction entries with
  | nil => simp [entryTexts]
  | cons e rest ih =>
    obtain ⟨first, second⟩ := e
    simp only [entryTexts, List.forall_mem_cons]
    constructor
    · rintro ⟨here, there, later⟩ before entry old after split same
      cases before with
      | nil =>
        obtain ⟨head, -⟩ := List.cons.inj split
        obtain ⟨rfl, rfl⟩ := Prod.mk.inj head
        exact ⟨here, there⟩
      | cons e before =>
        obtain ⟨rfl, tail⟩ := List.cons.inj split
        obtain ⟨equal, same⟩ := List.forall_mem_cons.mp same
        rw [if_pos equal] at later
        exact ih.mp later before entry old after tail same
    · intro compared
      obtain ⟨here, there⟩ := compared [] first second rest rfl (by simp)
      refine ⟨here, there, ?_⟩
      split
      · rename_i equal
        refine ih.mpr fun before entry old after split same => ?_
        exact compared ((first, second) :: before) entry old after (by rw [split]; rfl)
          (List.forall_mem_cons.mpr ⟨equal, same⟩)
      · simp

theorem printable_historyTexts {initialPage finalPage initialHistory finalHistory : Option Json} :
    (∀ v ∈ historyTexts initialPage finalPage initialHistory finalHistory, Printable v) ↔
      HistoryPrintable initialPage finalPage initialHistory finalHistory := by
  unfold historyTexts
  rw [List.forall_mem_cons, List.forall_mem_cons, ← and_assoc]
  cases same : (orNull initialPage).sameText (orNull finalPage) with
  | true =>
    rw [if_pos rfl]
    constructor
    · rintro ⟨pages, histories⟩
      exact ⟨pages, fun _ => by simpa using histories, by simp [same], by simp [same]⟩
    · intro printable
      exact ⟨printable.pages, by simpa using printable.untouched same⟩
  | false =>
    rw [if_neg (by simp)]
    by_cases object : (orNull finalPage).isObj = true
    · obtain ⟨page, rfl⟩ : ∃ page, finalPage = some (.obj page) := by
        rcases finalPage with _ | v
        · simp [orNull, Json.isObj] at object
        · cases v <;> simp_all [orNull, Json.isObj]
      dsimp only
      rw [List.forall_mem_append, printable_entryTexts]
      constructor
      · rintro ⟨pages, prior, last⟩
        refine ⟨pages, by simp [same], fun _ _ entry final => ?_, fun _ _ => prior⟩
        rw [final] at last
        exact last entry List.mem_cons_self
      · intro printable
        refine ⟨printable.pages, printable.prior same object, ?_⟩
        cases final : (entriesOf finalHistory).getLast? with
        | none => simp
        | some entry =>
          have own : Printable (.obj page) := printable.pages.2
          simpa using ⟨printable.last same object entry final, own⟩
    · have none : ∀ page, finalPage ≠ some (.obj page) := by
        rintro page rfl
        exact object rfl
      constructor
      · rintro ⟨pages, -⟩
        exact ⟨pages, by simp [same], fun _ here => absurd here object, fun _ here => absurd here object⟩
      · intro printable
        refine ⟨printable.pages, ?_⟩
        split
        · exact absurd rfl (none _)
        · simp

theorem historyPrintable_absent : HistoryPrintable none none none none where
  pages := by decide
  untouched _ := by decide
  last changed := by simp [Json.sameText_refl] at changed
  prior changed := by simp [Json.sameText_refl] at changed

theorem printable_pageHistoryTexts {initial final : WorldSnapshot} :
    (∀ v ∈ pageHistoryTexts initial final, Printable v) ↔
      ∀ k, HistoryPrintable (pageOf initial k) (pageOf final k) (historyOf initial k) (historyOf final k) := by
  have absent : ∀ {d : Dict String Json} {k}, k ∉ d.keys → d.get? k = none := fun away => by
    rw [← Option.not_isSome_iff_eq_none, ← Dict.mem_keys_iff]
    exact away
  constructor
  · intro printable k
    by_cases listed : k ∈ unionIds
        (unionIds (collection initial.resources "pages").keys (collection final.resources "pages").keys)
        (unionIds (collection initial.resources "page_versions").keys (collection final.resources "page_versions").keys)
    · exact printable_historyTexts.mp fun v member => printable v (List.mem_flatMap.mpr ⟨k, listed, member⟩)
    · simp only [mem_unionIds, not_or] at listed
      obtain ⟨⟨initialPage, finalPage⟩, initialHistory, finalHistory⟩ := listed
      rw [pageOf, pageOf, historyOf, historyOf, absent initialPage, absent finalPage, absent initialHistory,
        absent finalHistory]
      exact historyPrintable_absent
  · intro printable v member
    obtain ⟨k, -, member⟩ := List.mem_flatMap.mp member
    exact printable_historyTexts.mpr (printable k) v member

theorem printable_invariantTexts {initial final : WorldSnapshot} :
    (∀ v ∈ invariantTexts initial final, Printable v) ↔ EditPrintable initial final := by
  rw [invariantTexts, List.forall_mem_append, printable_pageHistoryTexts]
  constructor
  · rintro ⟨kinds, histories⟩
    refine ⟨fun kind member => printable_equalTexts.mp fun v listed => ?_, histories⟩
    exact kinds v (List.mem_flatMap.mpr ⟨kind, member, listed⟩)
  · rintro ⟨kinds, histories⟩
    refine ⟨fun v listed => ?_, histories⟩
    obtain ⟨kind, member, listed⟩ := List.mem_flatMap.mp listed
    exact printable_equalTexts.mpr (kinds kind member) v listed

/-! ### What it returns -/

/-- The computation returns `x` where `P` holds, and raises elsewhere. -/
def Returns {ε α : Type} (m : Except ε α) (P : Prop) (x : α) : Prop := ∀ a, m = .ok a ↔ P ∧ a = x

section Returning

variable {ε α : Type} {m : Except ε α} {P : Prop} {x : α}

theorem returns_ok (holds : P) (x : α) : Returns (.ok x : Except ε α) P x := by
  intro a
  simp [holds, eq_comm]

theorem Returns.map {β : Type} (returns : Returns m P x) (f : α → β) : Returns (m.map f) P (f x) := by
  intro b
  have answer := returns
  cases m with
  | error e =>
    have never : ¬ P := fun holds => by cases (answer x).mpr ⟨holds, rfl⟩
    simp [Except.map, never]
  | ok a =>
    obtain ⟨holds, rfl⟩ := (answer a).mp rfl
    simp [Except.map, holds, eq_comm]

theorem Returns.mapError {ε' : Type} (returns : Returns m P x) (f : ε → ε') : Returns (m.mapError f) P x := by
  intro a
  rw [← returns a]
  cases m <;> simp [Except.mapError]

theorem Returns.bind {β : Type} {f : α → Except ε β} {Q : Prop} {y : β} (returns : Returns m P x)
    (next : Returns (f x) Q y) : Returns (m >>= f) (P ∧ Q) y := by
  intro b
  have answer := returns
  cases m with
  | error e =>
    have never : ¬ P := fun holds => by cases (answer x).mpr ⟨holds, rfl⟩
    simp [Bind.bind, Except.bind, never]
  | ok a =>
    obtain ⟨holds, rfl⟩ := (answer a).mp rfl
    rw [and_assoc, ← next b]
    simp [Bind.bind, Except.bind, holds]

theorem Returns.congr {Q : Prop} (returns : Returns m P x) (same : P ↔ Q) : Returns m Q x :=
  fun a => (returns a).trans (and_congr_left fun _ => same)

end Returning

theorem returns_print {values : List Json} {P : Prop} (same : (∀ v ∈ values, Printable v) ↔ P) :
    Returns (print values) P () := by
  intro u
  unfold print
  split <;> simp_all

theorem named_iff {config : Json} : Named config ↔ ∃ targets, targetPageIds config = .ok targets :=
  exists_congr fun _ => pageIdCollection_iff.symm

section Families

variable [PyText] [PyFloat] {task : Task} {initial final : WorldSnapshot} {trajectory config : Json}

omit [PyText] in
theorem returns_comparePrinting {values : List Json} {P : Prop} (same : (∀ v ∈ values, Printable v) ↔ P) :
    Returns (comparePrinting initial final values) (Subtractable initial.resources final.resources ∧ P) () := by
  have compared : Returns (compare? initial.resources final.resources)
      (Subtractable initial.resources final.resources) (compare initial.resources final.resources) :=
    fun _ => compare?_ok
  exact (compared.mapError _).bind (returns_print same)

theorem returns_verifyEdit? (exactBody : Bool) : Returns (verifyEdit? initial final config exactBody)
    (Named config → Subtractable initial.resources final.resources ∧ EditPrintable initial final)
    (verifyEdit initial final config exactBody) := by
  unfold verifyEdit?
  rw [named_iff]
  cases targetPageIds config with
  | error message => exact returns_ok (by simp) _
  | ok targets => exact ((returns_comparePrinting printable_invariantTexts).map _).congr (by simp)

omit [PyFloat] in
theorem returns_verifyReadOnly? : Returns (verifyReadOnly? initial final trajectory config)
    (WorldPrintable initial final) (verifyReadOnly initial final trajectory config) :=
  (returns_print printable_equalTexts).map _

theorem returns_verifyDeniedWrite? : Returns (verifyDeniedWrite? initial final config)
    (Named config → Subtractable initial.resources final.resources ∧ WorldPrintable initial final)
    (verifyDeniedWrite initial final config) := by
  unfold verifyDeniedWrite?
  rw [named_iff]
  cases targetPageIds config with
  | error message => exact returns_ok (by simp) _
  | ok targets =>
    refine ((returns_comparePrinting printable_equalTexts).map _).congr ?_
    simp only [Except.ok.injEq, exists_eq', forall_const]
    rfl

omit [PyText] [PyFloat] in
theorem familyAnswers_permissions : FamilyAnswers task initial final "permissions" config ↔
    (permissionMode task.metadata config = .str "denied_read" → WorldPrintable initial final) ∧
    (permissionMode task.metadata config = .str "allowed" → Named config →
      Subtractable initial.resources final.resources ∧ EditPrintable initial final) ∧
    (permissionMode task.metadata config = .str "denied_write" → Named config →
      Subtractable initial.resources final.resources ∧ WorldPrintable initial final) := by
  constructor
  · intro answers
    exact ⟨fun mode => answers.reading (Or.inr ⟨rfl, mode⟩), fun mode named => answers.editing named (Or.inr ⟨rfl, mode⟩),
      fun mode named => answers.denied named rfl mode⟩
  · rintro ⟨reading, editing, denied⟩
    refine ⟨fun kind => ?_, fun named kind => ?_, fun named _ mode => denied mode named⟩
    · exact reading (by simpa using kind)
    · exact editing (by simpa using kind) named

omit [PyText] [PyFloat] in
theorem familyAnswers_edit {family : String} (edits : family ∈ ["edit_page", "preservation", "concurrent_edit"]) :
    FamilyAnswers task initial final family config ↔
      (Named config → Subtractable initial.resources final.resources ∧ EditPrintable initial final) := by
  have others : family ≠ "retrieval" ∧ family ≠ "permissions" := by
    simp only [List.mem_cons, List.not_mem_nil, or_false] at edits
    obtain rfl | rfl | rfl := edits <;> decide
  constructor
  · exact fun answers named => answers.editing named (Or.inl edits)
  · intro answers
    exact ⟨by simp [others], fun named _ => answers named, fun _ own => absurd own others.2⟩

omit [PyText] [PyFloat] in
theorem familyAnswers_retrieval : FamilyAnswers task initial final "retrieval" config ↔ WorldPrintable initial final :=
  ⟨fun answers => answers.reading (Or.inl rfl), fun printable => ⟨fun _ => printable, by simp, by simp⟩⟩

theorem returns_verifyPermissions? (metadata : List (String × Json)) :
    Returns (verifyPermissions? task initial final trajectory config metadata)
      (FamilyAnswers task initial final "permissions" config)
      (verifyPermissions task initial final trajectory config metadata) := by
  rw [familyAnswers_permissions]
  unfold verifyPermissions?
  split
  · rename_i mode
    have result : verifyPermissions task initial final trajectory config metadata =
        buildResult (verifyReadOnly initial final trajectory config) (metadata ++ [("mode", .str "denied_read")]) := by
      rw [verifyPermissions, mode]
      rfl
    rw [result]
    exact (returns_verifyReadOnly?.map _).congr (by simp [mode])
  · rename_i mode
    have result : verifyPermissions task initial final trajectory config metadata =
        buildResult (verifyDeniedWrite initial final config) (metadata ++ [("mode", .str "denied_write")]) := by
      rw [verifyPermissions, mode]
      rfl
    rw [result]
    exact (returns_verifyDeniedWrite?.map _).congr (by simp [mode])
  · rename_i mode
    have result : verifyPermissions task initial final trajectory config metadata =
        buildResult (verifyEdit initial final config false) (metadata ++ [("mode", .str "allowed")]) := by
      rw [verifyPermissions, mode]
      rfl
    rw [result]
    exact ((returns_verifyEdit? false).map _).congr (by simp [mode])
  · rename_i reading denied allowed
    have result : verifyPermissions task initial final trajectory config metadata =
        configurationFailure "unknown permission mode" := by
      unfold verifyPermissions
      split
      · exact absurd ‹_› reading
      · exact absurd ‹_› denied
      · exact absurd ‹_› allowed
      · rfl
    rw [result]
    exact returns_ok ⟨fun mode => absurd mode reading, fun mode => absurd mode allowed, fun mode => absurd mode denied⟩ _

omit [PyText] [PyFloat] in
theorem answerable_iff {family : String} {kvs : List (String × Json)}
    (familyField : task.metadata.get? "family" = some (.str family))
    (configField : task.metadata.get? "verifier_config" = some (.obj kvs)) :
    Answerable task initial final ↔ FamilyAnswers task initial final family (.obj kvs) := by
  simp [Answerable, familyField, configField]

/-- `verify` answers on answerable worlds, and raises on others. -/
theorem returns_verify? : Returns (verify? task initial final trajectory) (Answerable task initial final)
    (verify task initial final trajectory) := by
  unfold verify?
  split
  · rename_i family familyField
    split
    · rename_i supported
      split
      · rename_i config configField
        rw [answerable_iff familyField configField,
          verify_family (List.contains_iff_mem.mp supported) familyField configField]
        simp only [supportedFamilies, List.contains_iff_mem, List.mem_cons, List.not_mem_nil, or_false] at supported
        obtain rfl | rfl | rfl | rfl | rfl := supported
        · exact (returns_verifyReadOnly?.map _).congr familyAnswers_retrieval.symm
        · exact ((returns_verifyEdit? true).map _).congr (familyAnswers_edit (by decide)).symm
        · exact (((returns_verifyEdit? true).map _).map _).congr (familyAnswers_edit (by decide)).symm
        · exact (((returns_verifyEdit? true).map _).map _).congr (familyAnswers_edit (by decide)).symm
        · exact returns_verifyPermissions? _
      · rename_i noConfig
        have result : verify task initial final trajectory = configurationFailure "invalid verifier_config" := by
          simp only [verify, familyField, supported, if_true]
        rw [result]
        exact returns_ok (fun _ config _ configField => absurd configField (noConfig config)) _
    · rename_i unsupported
      have result : verify task initial final trajectory = unknownFamilyResult (.str family) := by
        simp only [verify, familyField, if_neg unsupported]
      rw [result]
      refine returns_ok (fun family' config familyField' _ => ?_) _
      obtain rfl := Json.str.inj (Option.some.inj (familyField.symm.trans familyField'))
      simp only [supportedFamilies, List.contains_iff_mem, List.mem_cons, List.not_mem_nil, or_false,
        not_or] at unsupported
      obtain ⟨retrieval, edit, preservation, concurrent, permissions⟩ := unsupported
      exact ⟨by simp [retrieval, permissions], by simp [edit, preservation, concurrent, permissions],
        fun _ own => absurd own permissions⟩
  · rename_i noFamily
    have result : verify task initial final trajectory = unknownFamilyResult (orNull (task.metadata.get? "family")) := by
      unfold verify
      split
      · rename_i family familyField
        exact absurd familyField (noFamily family)
      · rfl
    rw [result]
    exact returns_ok (fun family _ familyField => absurd familyField (noFamily family)) _

end Families

end AgentGym.Verifier
