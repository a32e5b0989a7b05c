import AgentGym.Verifier.Accepts
import AgentGym.World.LostUpdate

/-!
# No write escapes the verifier

A store numbers its writes in the versions of its pages, and a snapshot shows every
version. A passing verification therefore fixes how often each page was written between
the two snapshots, whatever was asked of the store in between.
-/

namespace AgentGym.Verifier

open World

/-! ### What passing says about the writes -/

/-- No page was created, and page `k` was changed `count k` times. -/
def WritesPer (tr : History) (count : String → Nat) : Prop :=
  ∀ k, creations k tr = [] ∧ (changes k tr).length = count k

theorem WritesPer.none {tr : History} (h : WritesPer tr fun _ => 0) :
    ∀ t ∈ tr, accepted t.event t.response = none := by
  intro t member
  cases write : accepted t.event t.response with
  | none => rfl
  | some w =>
    cases w with
    | create payload =>
      have created : payload ∈ creations payload.id tr :=
        List.mem_filterMap.mpr ⟨t, member, by simp [creationOf, write]⟩
      rw [(h payload.id).1] at created
      simp at created
    | change k title body =>
      have changed : ⟨title, body⟩ ∈ changes k tr :=
        List.mem_filterMap.mpr ⟨t, member, by simp [changeOf, write]⟩
      rw [List.eq_nil_of_length_eq_zero (h k).2] at changed
      simp at changed

/-- What the accepted writes of a run must have been for the family to pass. -/
structure Accounts (family : String) (mode config : Json) (tr : History) : Prop where
  readOnly : family = "retrieval" ∨ family = "permissions" ∧ (mode = .str "denied_read" ∨ mode = .str "denied_write") →
    ∀ t ∈ tr, accepted t.event t.response = none
  once : family = "edit_page" ∨ family = "preservation" ∨ family = "permissions" ∧ mode = .str "allowed" →
    ∃ targets, targetPageIds config = .ok targets ∧ WritesPer tr fun k => if k ∈ targets then 1 else 0
  concurrent : family = "concurrent_edit" → ∃ first rest, targetPageIds config = .ok (first :: rest) ∧
    WritesPer tr fun k => if k = first then 2 else if k ∈ rest then 1 else 0

section Runs

variable [PyText] {s : ConfluenceStore} (valid : s.Valid) (keyed : s.Keyed) (es : List Event)
  {initial final : WorldSnapshot} (before : initial.resources = s.resources)
  (after : final.resources = (Machine.final handle s es).resources)
include valid keyed before after

theorem writes_unreported {k : String} (same : Unreported (pageOf initial k) (pageOf final k)) :
    creations k (Machine.trace handle s es) = [] ∧ (changes k (Machine.trace handle s es)).length = 0 := by
  rw [pageOf_taken before, pageOf_taken after] at same
  cases page : s.pages.get? k with
  | none =>
    rcases (accounted_run valid keyed es k).2 page with ⟨_, uncreated, idle⟩ | ⟨_, _, _, _, _, _, _, _, _, q, found, _⟩
    · exact ⟨uncreated, by rw [idle]; rfl⟩
    · simp [page, found, Unreported] at same
  | some d =>
    obtain ⟨p, rfl⟩ := valid.pages page
    obtain ⟨uncreated, q, found, version, _⟩ := page_run valid keyed es page
    refine ⟨uncreated, ?_⟩
    rw [page, found, Option.map_some, Option.map_some] at same
    rcases same with ⟨absent, _⟩ | ⟨_, _, left, right, _, _, equal⟩
    · simp at absent
    · obtain rfl := Option.some.inj left
      obtain rfl := Option.some.inj right
      have versions : (Json.int p.version).pyEq (.int q.version) = true :=
        Json.optEqBy_get? Json.pyScalarEq_laws equal "version"
      have number := Json.pyEq_int.mp versions
      omega

theorem writes_raised [PyFloat] {k : String} {count : Nat} (raised : VersionRaised initial final k count) :
    creations k (Machine.trace handle s es) = [] ∧ (changes k (Machine.trace handle s es)).length = count := by
  have field : ∀ {w : WorldSnapshot}, resourceField w.resources k "version" "pages" =
      (pageOf w k).bind (·.get? "version") := rfl
  cases page : s.pages.get? k with
  | none =>
    have present := assertVersionBumpedBy_isSome raised
    rw [field, pageOf_taken before, page] at present
    simp at present
  | some d =>
    obtain ⟨p, rfl⟩ := valid.pages page
    obtain ⟨uncreated, q, found, version, _⟩ := page_run valid keyed es page
    refine ⟨uncreated, ?_⟩
    rw [VersionRaised, assertVersionBumpedBy_iff (n := p.version)] at raised
    swap
    · rw [field, pageOf_taken before, page]
      rfl
    obtain ⟨v, stored, number⟩ := raised
    rw [field, pageOf_taken after, found] at stored
    obtain rfl := Option.some.inj stored
    simp only [numeric?, Option.some.injEq] at number
    have raised : q.version = p.version + count := by exact_mod_cast number
    omega

theorem writes_edit [PyFloat] {config : Json} {exactBody : Bool} {targets : List String} (count : String → Nat)
    (edit : EditOk initial final config exactBody targets fun k => count k) :
    WritesPer (Machine.trace handle s es) fun k => if k ∈ targets then count k else 0 := by
  intro k
  dsimp only
  by_cases target : k ∈ targets
  · rw [if_pos target]
    exact writes_raised valid keyed es before after (edit.versions k target)
  · rw [if_neg target]
    exact writes_unreported valid keyed es before after (edit.others k target)

theorem writes_unchanged {category : Category} {assertionId : String}
    (same : (worldUnchanged initial final category assertionId).passed = true) :
    ∀ t ∈ Machine.trace handle s es, accepted t.event t.response = none := by
  refine WritesPer.none fun k => writes_unreported valid keyed es before after ?_
  have worlds : (Json.ofDict final.resources).pyEq (.ofDict initial.resources) = true := same
  have pages := Json.optEqBy_get? Json.pyScalarEq_laws (Json.pyEq_symm worlds) "pages"
  rw [before, after] at pages
  have lookups : Json.optEqBy Json.pyScalarEq ((s.pages.mapValues Json.ofDict).get? k)
      (((Machine.final handle s es).pages.mapValues Json.ofDict).get? k) = true :=
    Json.optEqBy_get? Json.pyScalarEq_laws pages k
  rw [Dict.get?_mapValues, Dict.get?_mapValues] at lookups
  rw [pageOf_taken before, pageOf_taken after]
  cases left : s.pages.get? k <;> cases right : (Machine.final handle s es).pages.get? k <;>
    simp only [left, right, Option.map_none, Option.map_some, Json.optEqBy, Bool.false_eq_true] at lookups
  · exact Or.inl ⟨rfl, rfl⟩
  · exact Or.inr ⟨_, _, rfl, rfl, rfl, rfl, lookups⟩

end Runs

/-! ### The families -/

section Families

variable [PyText] [PyFloat]

theorem verify_passed {task : Task} {initial final : WorldSnapshot} {trajectory : Json}
    (passed : (verify task initial final trajectory).passed = true) :
    ∃ family config, task.metadata.get? "family" = some (.str family) ∧
      task.metadata.get? "verifier_config" = some (.obj config) ∧
      (verifyFamily family task initial final trajectory (.obj config)
        [("verifier_id", .str verifierId), ("family", .str family)]).passed = true := by
  have unknown : ∀ v, (unknownFamilyResult v).passed = false := fun v => rfl
  have misconfigured : ∀ message, (configurationFailure message).passed = false := fun message => rfl
  unfold verify at passed
  split at passed
  · rename_i family familyField
    split at passed
    · split at passed
      · rename_i config configField
        exact ⟨family, config, familyField, configField, passed⟩
      · simp [misconfigured] at passed
    · simp [unknown] at passed
  · simp [unknown] at passed

variable {s : ConfluenceStore} (valid : s.Valid) (keyed : s.Keyed) (es : List Event)
  {initial final : WorldSnapshot} (before : initial.resources = s.resources)
  (after : final.resources = (Machine.final handle s es).resources)
include valid keyed before after

theorem accounts_edit {config : Json} {exactBody : Bool} (all : AllPass (verifyEdit initial final config exactBody)) :
    ∃ targets, targetPageIds config = .ok targets ∧
      WritesPer (Machine.trace handle s es) fun k => if k ∈ targets then 1 else 0 := by
  obtain ⟨targets, named⟩ := targets_of_verifyEdit all
  exact ⟨targets, named, writes_edit valid keyed es before after (fun _ => 1)
    ((allPass_verifyEdit named).mp all)⟩

theorem accounts_preservation {config : Json} (all : AllPass (verifyPreservation initial final config)) :
    ∃ targets, targetPageIds config = .ok targets ∧
      WritesPer (Machine.trace handle s es) fun k => if k ∈ targets then 1 else 0 := by
  obtain ⟨targets, named⟩ := targets_of_verifyPreservation all
  refine ⟨targets, named, ?_⟩
  cases targets with
  | nil => exact absurd rfl (pageIdCollection_ok named).1
  | cons target rest =>
    exact writes_edit valid keyed es before after (fun _ => 1)
      ((allPass_verifyPreservation named).mp all).1

theorem accounts_concurrent {task : Task} {config : Json}
    (all : AllPass (verifyConcurrent task initial final config)) :
    ∃ first rest, targetPageIds config = .ok (first :: rest) ∧
      WritesPer (Machine.trace handle s es) fun k => if k = first then 2 else if k ∈ rest then 1 else 0 := by
  obtain ⟨targets, named⟩ := targets_of_verifyConcurrent all
  obtain ⟨nonempty, distinct⟩ := pageIdCollection_ok named
  cases targets with
  | nil => exact absurd rfl nonempty
  | cons first rest =>
    have edit := ((allPass_verifyConcurrent named (List.nodup_cons.mp distinct).1).mp all).1
    have counted := writes_edit valid keyed es before after (fun k => if k = first then 2 else 1)
      (edit.congr fun k _ => by split <;> rfl)
    refine ⟨first, rest, named, fun k => ?_⟩
    obtain ⟨uncreated, number⟩ := counted k
    refine ⟨uncreated, number.trans ?_⟩
    by_cases same : k = first <;> simp [same]

theorem accounts_family {task : Task} {family : String} {trajectory config : Json}
    {metadata : List (String × Json)}
    (passed : (verifyFamily family task initial final trajectory config metadata).passed = true) :
    Accounts family (permissionMode task.metadata config) config (Machine.trace handle s es) := by
  have readOnly : AllPass (verifyReadOnly initial final trajectory config) →
      ∀ t ∈ Machine.trace handle s es, accepted t.event t.response = none := fun all =>
    writes_unchanged valid keyed es before after (allPass_cons.mp all).1
  refine ⟨?_, ?_, ?_⟩
  · rintro (rfl | ⟨rfl, denied⟩)
    · exact readOnly (buildResult_passed.mp passed)
    · simp only [verifyFamily, verifyPermissions] at passed
      rcases denied with mode | mode
      · rw [mode] at passed
        exact readOnly (buildResult_passed.mp passed)
      · rw [mode] at passed
        have all := buildResult_passed.mp passed
        unfold verifyDeniedWrite at all
        split at all
        · simp [configurationFailureAssertion] at all
        · simp only [allPass_cons] at all
          exact writes_unchanged valid keyed es before after all.2.2.1
  · rintro (rfl | rfl | ⟨rfl, mode⟩)
    · exact accounts_edit valid keyed es before after (buildResult_passed.mp passed)
    · exact accounts_preservation valid keyed es before after (buildResult_passed.mp passed)
    · simp only [verifyFamily, verifyPermissions, mode] at passed
      exact accounts_edit valid keyed es before after (buildResult_passed.mp passed)
  · rintro rfl
    exact accounts_concurrent valid keyed es before after (buildResult_passed.mp passed)

end Families

/-- No write is invisible: a passing verification of a run on a restored world accounts for every
accepted write. -/
theorem accepted_writes_seen [PyText] [PyFloat] {s : ConfluenceStore} (valid : s.Valid) (keyed : s.Keyed)
    (blank : ConfluenceStore) (es : List Event) {initial : WorldSnapshot} {ids ids' : String × String}
    (taken : initial = s.snapshot ids.1 ids.2) {task : Task} {trajectory : Json}
    (passed : (verify task initial
      ((Machine.final handle (blank.restore initial).2 es).snapshot ids'.1 ids'.2) trajectory).passed = true) :
    ∃ family config, task.metadata.get? "family" = some (.str family) ∧
      task.metadata.get? "verifier_config" = some (.obj config) ∧
      Accounts family (permissionMode task.metadata (.obj config)) (.obj config)
        (Machine.trace handle (blank.restore initial).2 es) := by
  subst taken
  rw [ConfluenceStore.restore_snapshot valid] at passed ⊢
  obtain ⟨family, config, familyField, configField, passed⟩ := verify_passed passed
  exact ⟨family, config, familyField, configField, accounts_family valid keyed es rfl rfl passed⟩

theorem accepted_writes_seen_home :
    let store := ConfluenceStore.soloStore ["ann"] ⟨"home", "eng", "Home", "Hello", 1, "ann", Dict.empty, Page.noExtras⟩
    let blank := ConfluenceStore.ofCollections (.obj []) (.obj []) (.obj [])
    let initial := store.snapshot "initial" "2026-01-01T00:00:00Z"
    let events := [Event.request (some "ann") (.updatePage "home" ⟨none, some "Bye"⟩ (some "1"))]
    ∃ family config, homeTask.metadata.get? "family" = some (.str family) ∧
      homeTask.metadata.get? "verifier_config" = some (.obj config) ∧
      Accounts family (permissionMode homeTask.metadata (.obj config)) (.obj config)
        (Machine.trace (@handle asciiText) (@ConfluenceStore.restore plainInts blank initial).2 events) := by
  intro store blank initial events
  have coherent : store.Coherent := ConfluenceStore.soloStore_coherent ["ann"] rfl
  exact @accepted_writes_seen asciiText integers store coherent.valid coherent.keyed blank events initial
    ("initial", "2026-01-01T00:00:00Z") ("final", "2026-01-01T00:01:00Z") rfl homeTask (.arr []) (by decide +kernel)

end AgentGym.Verifier
