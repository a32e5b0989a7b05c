import AgentGym.Verifier.Accepts

/-!
# What an exact edit may hide

For a single target with a configured final body the verifier's assertions pin down almost
the whole final world. What they leave open is listed in `UncheckedKept`: the target's
other fields, the version of the entry between the two edits of a concurrent task, and
histories that are `null`.
-/

namespace AgentGym.Verifier

open World (resourceKind)

/-- Two lookups that agree for Python: both absent, or equal. -/
def SameValue (a b : Option Json) : Prop := Json.optEqBy Json.pyScalarEq a b = true

theorem SameValue.refl (a : Option Json) : SameValue a a := Json.optEqBy_refl fun v _ => Json.pyEq_refl v

theorem SameValue.symm {a b : Option Json} (h : SameValue a b) : SameValue b a :=
  Json.optEqBy_symm Json.pyScalarEq_laws h

theorem SameValue.trans {a b c : Option Json} (hab : SameValue a b) (hbc : SameValue b c) : SameValue a c :=
  Json.optEqBy_trans Json.pyScalarEq_laws hab hbc

theorem SameValue.isSome {a b : Option Json} (h : SameValue a b) : a.isSome = b.isSome := by
  cases a <;> cases b <;> first | rfl | simp [SameValue, Json.optEqBy] at h

/-- Pages are stored under their id, and the history of each is as long as its version and ends
with it. -/
structure CoherentSnapshot (w : WorldSnapshot) : Prop where
  keyed : ∀ k page, pageOf w k = some page → page.get? "id" = some (.str k)
  history : ∀ k page, pageOf w k = some page → ∃ entries, historyOf w k = some (.arr entries) ∧
    page.get? "version" = some (.int entries.length) ∧ entries.getLast? = some page

/-- The final world is the initial one with the target's body replaced in `writes` new versions. -/
structure OnlyIntended (initial final : WorldSnapshot) (target body : String) (version writes : Nat) : Prop where
  kinds : ∀ kind ∈ unchangedInvariantKinds,
    (resourceKind final.resources kind).pyEq (resourceKind initial.resources kind) = true
  pages : ∀ k, k ≠ target → SameValue (pageOf initial k) (pageOf final k)
  histories : ∀ k, k ≠ target → SameValue (historyOf initial k) (historyOf final k)
  page : ∃ kvs, pageOf final target = some (.obj kvs) ∧ kvs.lookup "body" = some (.str body) ∧
    kvs.lookup "version" = some (.int (version + writes))
  fields : ∀ field, field ≠ "body" → field ≠ "version" →
    SameValue ((pageOf initial target).bind (·.get? field)) ((pageOf final target).bind (·.get? field))
  log : ∃ old kept new, historyOf initial target = some (.arr old) ∧
    historyOf final target = some (.arr (kept ++ new)) ∧
    List.Forall₂ (fun x y => x.pyEq y = true) old kept ∧ new.length = writes ∧
    (∀ (i : Nat) (entry : Json), new[i]? = some entry → SameValue (entry.get? "version") (some (.int (version + i + 1)))) ∧
    SameValue new.getLast? (pageOf final target)

/-- What no assertion looks at is as it should be. -/
structure UncheckedKept (initial final : WorldSnapshot) (target : String) (version writes : Nat) : Prop where
  fields : ∀ field, field ≠ "body" → field ≠ "version" →
    SameValue ((pageOf initial target).bind (·.get? field)) ((pageOf final target).bind (·.get? field))
  between : writes = 2 → ∀ entry, (entriesOf (historyOf final target))[version]? = some entry →
    SameValue (entry.get? "version") (some (.int (version + 1)))
  nulls : ∀ k, k ≠ target → (historyOf initial k).isSome = (historyOf final k).isSome

/-! ### Histories that grew -/

theorem sameText_numeric {n : Int} {v : Json} (h : (Json.int n).sameText v = true) : v = .int n := by
  cases v <;> simp_all [Json.sameText, Json.eqBy, Json.textScalarEq]

theorem Grown.kept {page : List (String × Json)} {initial final : Option Json}
    (grown : Grown page initial final) {n : Nat} (old : n ≤ (entriesOf initial).length)
    (new : n < (entriesOf final).length) :
    List.Forall₂ (fun x y => x.pyEq y = true) ((entriesOf initial).take n) ((entriesOf final).take n) := by
  rw [List.forall₂_iff_zip]
  refine ⟨by simp; omega, ?_⟩
  intro a b pair
  refine Json.pyEq_symm (Json.pyEq_of_sameText (grown.prior (b, a) ?_))
  obtain ⟨i, bound, entry⟩ := List.mem_iff_getElem.mp pair
  rw [List.getElem_zip, List.getElem_take, List.getElem_take, Prod.mk.injEq] at entry
  rw [List.length_zip, List.length_take, List.length_take] at bound
  have short : i < overlap (entriesOf initial) (entriesOf final) := by
    unfold overlap
    omega
  refine List.mem_iff_getElem.mpr ⟨i, ?_, ?_⟩
  · rw [List.length_take, List.length_zip]
    omega
  · rw [List.getElem_take, List.getElem_zip, entry.1, entry.2]

theorem Grown.same {kvs : List (String × Json)} {page : Json} {entries : List Json} {final : Option Json}
    (grown : Grown kvs (some (.arr entries)) final) (equal : page.pyEq (.obj kvs) = true)
    (version : page.get? "version" = some (.int entries.length)) (last : entries.getLast? = some page) :
    SameValue (some (.arr entries)) final := by
  obtain ⟨entries', rfl, version'⟩ := grown.version
  have numbers := Json.optEqBy_get? Json.pyScalarEq_laws equal "version"
  rw [version, Json.get?_obj, version'] at numbers
  have length : entries.length = entries'.length := by exact_mod_cast Json.pyEq_int.mp numbers
  obtain ⟨entry, last', tail⟩ := grown.last
  have nonempty : entries ≠ [] := by
    rintro rfl
    simp at last
  have positive := List.length_pos_of_ne_nil nonempty
  have init : List.Forall₂ (fun x y => x.pyEq y = true) entries.dropLast entries'.dropLast := by
    rw [List.dropLast_eq_take, List.dropLast_eq_take, ← length]
    exact grown.kept (by simp [entriesOf]) (by simp [entriesOf]; omega)
  have final : page.pyEq entry = true :=
    Json.pyEq_trans equal (Json.pyEq_symm (Json.pyEq_of_sameText tail))
  have left : entries.dropLast ++ [page] = entries := List.dropLast_append_getLast? page last
  have right : entries'.dropLast ++ [entry] = entries' := List.dropLast_append_getLast? entry last'
  show Json.eqBy _ (.arr entries) (.arr entries') = true
  rw [Json.eqBy_arr, ← left, ← right]
  exact List.rel_append init (.cons final .nil)

/-! ### Accepted worlds -/

section Accepted

variable [PyText] [PyFloat] {initial final : WorldSnapshot} (coherent : CoherentSnapshot initial)
  {config : Json} {target : String} {writes : Nat}
  (edit : EditOk initial final config true [target] fun k => if k = target then (writes : Int) else 1)
include coherent edit

theorem history_same {k : String} (other : k ≠ target)
    (present : (historyOf initial k).isSome = (historyOf final k).isSome) :
    SameValue (historyOf initial k) (historyOf final k) := by
  have unreported := edit.others k (by simpa using other)
  have ok := edit.histories k
  unfold HistoryOk at ok
  split at ok
  · cases left : historyOf initial k <;> cases right : historyOf final k <;>
      simp [left, right] at present
    · exact SameValue.refl none
    · rw [left, right] at ok
      exact Json.pyEq_of_sameText ok
  · rename_i changed
    obtain ⟨kvs, found, grown⟩ := ok
    rcases unreported with ⟨_, missing⟩ | ⟨page, page', found', same, _, _, equal⟩
    · simp [missing] at found
    · obtain rfl := Option.some.inj (found.symm.trans same)
      obtain ⟨entries, history, version, last⟩ := coherent.history k page found'
      rw [history] at grown ⊢
      exact grown.same equal version last

variable {page : Json} (found : pageOf initial target = some page) {version : Nat}
  (number : page.get? "version" = some (.int version)) (positive : 0 < writes)
include found number positive

omit coherent in
theorem target_grown : ∃ kvs entries, pageOf final target = some (.obj kvs) ∧
    historyOf final target = some (.arr entries) ∧ entries.length = version + writes ∧
    kvs.lookup "version" = some (.int (version + writes)) ∧ Grown kvs (historyOf initial target) (some (.arr entries)) := by
  have raised := edit.versions target (List.mem_singleton_self target)
  rw [if_pos rfl, VersionRaised, assertVersionBumpedBy_iff (n := version)] at raised
  swap
  · show (pageOf initial target).bind _ = _
    rw [found]
    exact number
  obtain ⟨v, field, value⟩ := raised
  have field : (pageOf final target).bind (·.get? "version") = some v := field
  have ok := edit.histories target
  unfold HistoryOk at ok
  split at ok
  · -- An unchanged page would have an unchanged version.
    rename_i same
    cases now : pageOf final target with
    | none => simp [now] at field
    | some page' =>
      rw [now, Option.bind_some] at field
      rw [found, now] at same
      simp only [orNull, Option.getD_some] at same
      have versions := Json.optEqBy_get? Json.textScalarEq_laws same "version"
      rw [number, field] at versions
      obtain rfl := sameText_numeric versions
      simp only [numeric?, Option.some.injEq] at value
      have raised : (version : Int) = version + writes := by exact_mod_cast value
      omega
  · obtain ⟨kvs, now, grown⟩ := ok
    obtain ⟨entries, history, version'⟩ := grown.version
    rw [now, Option.bind_some, Json.get?_obj, version', Option.some.injEq] at field
    subst field
    simp only [numeric?, Option.some.injEq] at value
    have length : (entries.length : Int) = version + writes := by exact_mod_cast value
    rw [length] at version'
    rw [history] at grown
    exact ⟨kvs, entries, now, history, by exact_mod_cast length, version', grown⟩

/-- Among accepted worlds, exactly those that keep what is unchecked are as intended. -/
theorem onlyIntended_iff {body : String} (configured : expectedFinalBody config target 1 = .ok body)
    (atMost : writes ≤ 2) :
    OnlyIntended initial final target body version writes ↔
      UncheckedKept initial final target version writes := by
  obtain ⟨old, oldHistory, oldVersion, _⟩ := coherent.history target page found
  have oldLength : old.length = version := by
    have same := oldVersion.symm.trans number
    simp only [Option.some.injEq, Json.int.injEq] at same
    exact_mod_cast same
  obtain ⟨kvs, entries, now, history, length, version', grown⟩ :=
    target_grown edit found number positive
  obtain ⟨entry, last, tail⟩ := grown.last
  have bodyField : kvs.lookup "body" = some (.str body) := by
    obtain ⟨_, configured', stored⟩ := (edit.bodies target (List.mem_singleton_self target)).exact rfl
    obtain rfl := Except.ok.inj (configured.symm.trans configured')
    have field : (pageOf final target).bind (·.get? "body") = some (.str body) := pageBody_eq_some.mp stored
    rwa [now] at field
  have lastVersion : SameValue (entry.get? "version") (some (.int (version + writes))) := by
    have same := Json.optEqBy_get? Json.pyScalarEq_laws (Json.pyEq_of_sameText tail) "version"
    rwa [Json.get?_obj, version'] at same
  constructor
  · rintro ⟨_, _, histories, _, fields, log⟩
    refine ⟨fields, ?_, fun k other => (histories k other).isSome⟩
    intro two entry₁ middle
    obtain ⟨old', kept, new, oldHistory', history', same, count, versions, _⟩ := log
    obtain rfl := Json.arr.inj (Option.some.inj (oldHistory.symm.trans oldHistory'))
    obtain rfl := Json.arr.inj (Option.some.inj (history.symm.trans history'))
    have keptLength : kept.length = version := same.length_eq.symm.trans oldLength
    rw [history] at middle
    simp only [entriesOf] at middle
    rw [List.getElem?_append_right (by omega), keptLength, Nat.sub_self] at middle
    simpa using versions 0 entry₁ middle
  · rintro ⟨fields, between, nulls⟩
    have prior : List.Forall₂ (fun x y => x.pyEq y = true) old (entries.take version) := by
      have compared := grown.kept (n := version) (by simp [oldHistory, entriesOf, oldLength])
        (by simp [entriesOf, length]; omega)
      rwa [oldHistory, entriesOf, entriesOf, ← oldLength, List.take_length, oldLength] at compared
    refine ⟨edit.kinds, ?_, fun k other => history_same coherent edit other (nulls k other),
      ⟨kvs, now, bodyField, version'⟩, fields, old, entries.take version, entries.drop version, oldHistory,
      by rw [List.take_append_drop, history], prior, by simp [length], ?_, ?_⟩
    · intro k other
      rcases edit.others k (by simpa using other) with ⟨absent, absent'⟩ | ⟨_, _, left, right, _, _, equal⟩
      · rw [absent, absent']
        exact SameValue.refl none
      · rw [left, right]
        exact equal
    · intro i entry₁ member
      rw [List.getElem?_drop] at member
      have bound := (List.getElem?_eq_some_iff.mp member).1
      by_cases final : i + 1 = writes
      · have newest : entry₁ = entry := by
          rw [entriesOf, List.getLast?_eq_getElem?] at last
          have position : entries.length - 1 = version + i := by omega
          rw [position] at last
          exact Option.some.inj (member.symm.trans last)
        rw [newest]
        have number : (version : Int) + i + 1 = version + writes := by omega
        rw [number]
        exact lastVersion
      · have first : i = 0 := by omega
        subst first
        have middle := between (by omega) entry₁ (by rw [history]; simpa [entriesOf] using member)
        simpa using middle
    · have newest : (entries.drop version).getLast? = some entry := by
        rw [List.getLast?_drop, if_neg (by omega)]
        exact last
      rw [newest, now]
      exact Json.pyEq_of_sameText tail

end Accepted

/-! ### The three exact families -/

def writesOf (family : String) : Nat := if family = "concurrent_edit" then 2 else 1

/-- All that the assertions of the family cover. -/
def Covered [PyText] [PyFloat] (family : String) (task : Task) (initial final : WorldSnapshot) (config : Json)
    (target : String) : Prop :=
  EditOk initial final config true [target] (fun k => if k = target then (writesOf family : Int) else 1) ∧
    (family = "preservation" → PreservationOk initial final config target) ∧
    (family = "concurrent_edit" → ConcurrencyOk task initial final config target)

theorem verify_exact_passed_iff [PyText] [PyFloat] {task : Task} {initial final : WorldSnapshot}
    {trajectory : Json} {family : String} {config : List (String × Json)}
    (exact : family ∈ ["edit_page", "preservation", "concurrent_edit"])
    (familyField : task.metadata.get? "family" = some (.str family))
    (configField : task.metadata.get? "verifier_config" = some (.obj config)) {target : String}
    (named : targetPageIds (.obj config) = .ok [target]) :
    (verify task initial final trajectory).passed = true ↔
      Covered family task initial final (.obj config) target := by
  have once : EditOk initial final (.obj config) true [target] (fun _ => 1) ↔
      EditOk initial final (.obj config) true [target] (fun k => if k = target then ((1 : Nat) : Int) else 1) :=
    ⟨EditOk.congr (by simp), EditOk.congr (by simp)⟩
  simp only [List.mem_cons, List.not_mem_nil, or_false] at exact
  rcases exact with rfl | rfl | rfl
  · rw [verify_family (by decide) familyField configField]
    show (buildResult (verifyEdit initial final (.obj config) true) _).passed = true ↔ _
    rw [buildResult_passed, allPass_verifyEdit named, once]
    exact ⟨fun edit => ⟨edit, fun h => absurd h (by decide), fun h => absurd h (by decide)⟩, fun h => h.1⟩
  · rw [verify_family (by decide) familyField configField]
    show (buildResult (verifyPreservation initial final (.obj config)) _).passed = true ↔ _
    rw [buildResult_passed, allPass_verifyPreservation named, once]
    exact ⟨fun h => ⟨h.1, fun _ => h.2, fun h => absurd h (by decide)⟩, fun h => ⟨h.1, h.2.1 rfl⟩⟩
  · rw [verify_family (by decide) familyField configField]
    show (buildResult (verifyConcurrent task initial final (.obj config)) _).passed = true ↔ _
    rw [buildResult_passed, allPass_verifyConcurrent named List.not_mem_nil]
    exact ⟨fun h => ⟨h.1, fun h => absurd h (by decide), fun _ => h.2⟩, fun h => ⟨h.1, h.2.2 rfl⟩⟩

/-- An accepted world is the intended one exactly when it keeps what no assertion looks at. -/
theorem exact_edit_sound_iff [PyText] [PyFloat] {task : Task} {initial final : WorldSnapshot}
    {trajectory : Json} {family : String} {config : List (String × Json)}
    (exact : family ∈ ["edit_page", "preservation", "concurrent_edit"])
    (familyField : task.metadata.get? "family" = some (.str family))
    (configField : task.metadata.get? "verifier_config" = some (.obj config)) {target body : String}
    (named : targetPageIds (.obj config) = .ok [target])
    (bodyField : (Json.obj config).get? "expected_final_body" = some (.str body))
    (coherent : CoherentSnapshot initial) {page : Json} (found : pageOf initial target = some page)
    {version : Nat} (number : page.get? "version" = some (.int version)) :
    ((verify task initial final trajectory).passed = true →
      OnlyIntended initial final target body version (writesOf family)) ↔
    (Covered family task initial final (.obj config) target →
      UncheckedKept initial final target version (writesOf family)) := by
  rw [verify_exact_passed_iff exact familyField configField named]
  have configured : expectedFinalBody (.obj config) target 1 = .ok body := by
    simp only [expectedFinalBody, bodyField]
  refine imp_congr_right fun covered => ?_
  refine onlyIntended_iff coherent covered.1 found number ?_ configured ?_
  · unfold writesOf
    split <;> decide
  · unfold writesOf
    split <;> decide

/-! ### A change nobody sees -/

/-- One page at a version, with its history. -/
def homePage (title body : String) (version : Int) : Json :=
  .obj [("id", .str "home"), ("space_id", .str "eng"), ("title", .str title), ("body", .str body),
    ("version", .int version), ("owner_id", .str "ann")]

def homeWorld (page : Json) (history : List Json) : WorldSnapshot where
  id := "snapshot"
  domainId := "enterprise-confluence"
  schemaVersion := "1"
  timestamp := "2026-01-01T00:00:00Z"
  resources := ⟨[("users", .obj []), ("spaces", .obj []), ("pages", .obj [("home", page)]),
    ("page_versions", .obj [("home", .arr history)]), ("permissions", .obj [])],
    World.ConfluenceStore.resourceKinds_nodup⟩

theorem pageOf_homeWorld {page : Json} {history : List Json} {k : String} :
    pageOf (homeWorld page history) k = if k = "home" then some page else none := by
  show (Dict.ofEntries [("home", page)]).get? k = _
  simp [Entries.lookup_cons, eq_comm]

theorem historyOf_homeWorld {page : Json} {history : List Json} {k : String} :
    historyOf (homeWorld page history) k = if k = "home" then some (.arr history) else none := by
  show (Dict.ofEntries [("home", Json.arr history)]).get? k = _
  simp [Entries.lookup_cons, eq_comm]

theorem homeWorld_coherent (title body : String) :
    CoherentSnapshot (homeWorld (homePage title body 1) [homePage title body 1]) where
  keyed := by
    intro k page found
    rw [pageOf_homeWorld] at found
    split at found
    · rename_i same
      obtain rfl := Option.some.inj found
      rw [same]
      rfl
    · simp at found
  history := by
    intro k page found
    rw [pageOf_homeWorld] at found
    split at found
    · rename_i same
      obtain rfl := Option.some.inj found
      exact ⟨_, by rw [historyOf_homeWorld, if_pos same], rfl, rfl⟩
    · simp at found

/-- An edit that also renames the page passes. -/
theorem hidden_rename : let initial := homeWorld (homePage "Home" "Hello" 1) [homePage "Home" "Hello" 1]
    let final := homeWorld (homePage "Pwned" "Bye" 2) [homePage "Home" "Hello" 1, homePage "Pwned" "Bye" 2]
    CoherentSnapshot initial ∧
      (@verify asciiText integers homeTask initial final (.arr [])).passed = true ∧
      ¬ OnlyIntended initial final "home" "Bye" 1 1 := by
  refine ⟨homeWorld_coherent "Home" "Hello", by decide +kernel, fun intended => ?_⟩
  have title := intended.fields "title" (by decide) (by decide)
  rw [pageOf_homeWorld, pageOf_homeWorld, if_pos rfl, if_pos rfl] at title
  have renamed : Json.optEqBy Json.pyScalarEq (some (.str "Home")) (some (.str "Pwned")) = true := title
  exact absurd renamed (by decide)

/-- An edit that keeps the title passes and is as intended. -/
theorem exact_edit_sound_home : let initial := homeWorld (homePage "Home" "Hello" 1) [homePage "Home" "Hello" 1]
    let final := homeWorld (homePage "Home" "Bye" 2) [homePage "Home" "Hello" 1, homePage "Home" "Bye" 2]
    (@verify asciiText integers homeTask initial final (.arr [])).passed = true ∧
      OnlyIntended initial final "home" "Bye" 1 1 := by
  have passes : (@verify asciiText integers homeTask
      (homeWorld (homePage "Home" "Hello" 1) [homePage "Home" "Hello" 1])
      (homeWorld (homePage "Home" "Bye" 2) [homePage "Home" "Hello" 1, homePage "Home" "Bye" 2])
      (.arr [])).passed = true := by decide +kernel
  refine ⟨passes, (@exact_edit_sound_iff asciiText integers homeTask _ _ (.arr []) "edit_page"
    [("expected_page_ids", .arr [.str "home"]), ("expected_final_body", .str "Bye")]
    (by decide) rfl rfl "home" "Bye" (by decide +kernel) rfl (homeWorld_coherent "Home" "Hello")
    (homePage "Home" "Hello" 1) (by rw [pageOf_homeWorld, if_pos rfl]) 1 rfl).mpr ?_ passes⟩
  rintro -
  refine ⟨?_, fun two => absurd two (by decide), ?_⟩
  · intro field notBody notVersion
    rw [pageOf_homeWorld, pageOf_homeWorld, if_pos rfl, if_pos rfl]
    have same : ∀ field ∉ ["body", "version"],
        (homePage "Home" "Hello" 1).get? field = (homePage "Home" "Bye" 2).get? field := by
      intro field other
      simp only [List.mem_cons, List.not_mem_nil, or_false, not_or] at other
      simp [homePage, Json.get?_obj, Entries.lookup_cons, Ne.symm other.1, Ne.symm other.2]
    rw [Option.bind_some, Option.bind_some, same field (by simp [notBody, notVersion])]
    exact SameValue.refl _
  · intro k other
    rw [historyOf_homeWorld, historyOf_homeWorld, if_neg other, if_neg other]

end AgentGym.Verifier
