import AgentGym.Verifier.ExactBody
import AgentGym.World.Coherent

/-!
# Restoring and capturing

A world restored from a snapshot is captured again in canonical form: five collections,
and every page with its version. The verifier compares that with the snapshot itself, so
a world nobody wrote to counts as unchanged exactly when its snapshot was canonical.
-/

namespace AgentGym.Verifier

open World

/-! ### Canonical snapshots -/

/-- A page that states its version, as a number. -/
def Numbered (page : Json) : Prop := ∃ version, page.get? "version" = some version ∧ version.number?.isSome = true

structure Canonical (resources : Dict String Json) : Prop where
  kinds : ∀ k, (resources.get? k).isSome = true ↔ k ∈ ["users", "spaces", "pages", "page_versions", "permissions"]
  pages : ∀ {k page}, (resourceKind resources "pages").get? k = some page → Numbered page
  histories : ∀ {k history}, (resourceKind resources "page_versions").get? k = some history →
    ∃ entries, history = .arr entries ∧ ∀ entry ∈ entries, Numbered entry

theorem pyEq_obj {kvs : List (String × Json)} {d : Dict String Json} :
    (Json.obj kvs).pyEq (.ofDict d) = true ↔
      ∀ k, Json.optEqBy Json.pyScalarEq (kvs.lookup k) (d.get? k) = true :=
  Json.eqBy_obj

theorem optEq_some {o : Option Json} {v : Json} :
    Json.optEqBy Json.pyScalarEq o (some v) = true ↔ ∃ w, o = some w ∧ w.pyEq v = true := by
  cases o with
  | none => simp [Json.optEqBy]
  | some w => simp [Json.optEqBy, Json.pyEq]

theorem optEq_none {o : Option Json} : Json.optEqBy Json.pyScalarEq o none = true ↔ o = none := by
  cases o <;> simp [Json.optEqBy]

/-- An integer read leniently equals its source exactly when that was a number. -/
theorem pyEq_laxInt [LaxInt] {w : Json} {n : Int} (read : laxInt w = some n) :
    w.pyEq (.int n) = true ↔ w.number?.isSome = true := by
  cases number : w.number? with
  | none => cases w <;> simp_all [Json.pyEq, Json.eqBy, Json.pyScalarEq, Json.number?]
  | some q =>
    obtain rfl := LaxInt.laxInt_number read number
    cases w <;> simp_all [Json.pyEq, Json.eqBy, Json.pyScalarEq, Json.number?]

/-! ### Pages -/

theorem intField_some [LaxInt] {v : Json} {name : String} {missing : Option Int} {n : Int} {w : Json}
    (read : intField v name missing = .ok n) (found : v.get? name = some w) : laxInt w = some n := by
  unfold intField at read
  rw [found] at read
  dsimp only at read
  split at read
  · rename_i i lax
    rw [lax, Except.ok.inj read]
  · simp at read

theorem pageData_pyEq_iff [LaxInt] {v : Json} {d : PageData} (valid : pageData v = .ok d) :
    v.pyEq (.ofDict d) = true ↔ Numbered v := by
  obtain ⟨p, model, rfl⟩ := exists_page_of_pageData valid
  unfold pageModel at model
  cases v with
  | obj kvs =>
    obtain ⟨id, space, title, body, owner⟩ := modelValidate_strings model
    obtain ⟨version, extras⟩ := modelValidate_rest model
    rw [pyEq_obj]
    constructor
    · intro same
      obtain ⟨w, found, equal⟩ := optEq_some.mp (p.get?_version ▸ same "version")
      exact ⟨w, found, (pyEq_laxInt (intField_some version found)).mp equal⟩
    · rintro ⟨w, found, number⟩ k
      by_cases field : k ∈ pageFields
      · have text : ∀ {s : String}, (Json.obj kvs).get? k = some (.str s) → p.modelDump.get? k = some (.str s) →
            Json.optEqBy Json.pyScalarEq (kvs.lookup k) (p.modelDump.get? k) = true := by
          intro s left right
          rw [right]
          exact optEq_some.mpr ⟨_, left, Json.pyEq_refl _⟩
        simp only [pageFields, List.mem_cons, List.not_mem_nil, or_false] at field
        obtain rfl | rfl | rfl | rfl | rfl | rfl := field
        · exact text id p.get?_id
        · exact text space p.get?_space_id
        · exact text title p.get?_title
        · exact text body p.get?_body
        · rw [p.get?_version]
          exact optEq_some.mpr ⟨w, found, (pyEq_laxInt (intField_some version found)).mpr number⟩
        · exact text owner p.get?_owner_id
      · have other : p.modelDump.get? k = kvs.lookup k := by
          rw [Page.modelDump_get?, extras, Dict.get?_filterKeys, if_pos (by simpa using field),
            Dict.get?_ofEntries]
          have absent : p.fieldEntries.lookup k = none :=
            Entries.lookup_none_iff_not_mem.mpr field
          rw [absent]
          rfl
        rw [other]
        exact Json.optEqBy_refl fun v _ => Json.pyEq_refl v
  | _ => simp [modelValidate] at model

theorem loadHistory_pyEq_iff [LaxInt] {v : Json} {ds : List PageData} (valid : loadHistory v = .ok ds) :
    v.pyEq (.arr (ds.map Json.ofDict)) = true ↔ ∃ entries, v = .arr entries ∧ ∀ entry ∈ entries, Numbered entry := by
  cases v with
  | arr entries =>
    have images : List.Forall₂ (fun x d => pageData x = .ok d) entries ds := forall₂_of_mapM valid
    have each : List.Forall₂ (fun x d => x.pyEq (Json.ofDict d) = true) entries ds ↔
        ∀ entry ∈ entries, Numbered entry := by
      clear valid
      induction images with
      | nil => simp
      | cons head _ ih => rw [List.forall₂_cons, List.forall_mem_cons, ih, pageData_pyEq_iff head]
    unfold Json.pyEq at each ⊢
    rw [Json.eqBy_arr, List.forall₂_map_right_iff, each]
    simp
  | _ => simp [Json.pyEq, Json.eqBy, Json.pyScalarEq, Json.number?]

/-! ### Collections -/

/-- A mapping loaded value by value comes back equal when each of its values does. -/
theorem mapValuesM_pyEq_iff {α : Type} {load : Json → Except PyError α} {dump : α → Json} {P : Json → Prop}
    (each : ∀ {v a}, load v = .ok a → (v.pyEq (dump a) = true ↔ P v)) {kvs : List (String × Json)} {d : Dict String α}
    (loaded : (Dict.ofEntries kvs).mapValuesM load = .ok d) :
    (Json.obj kvs).pyEq (.ofDict (d.mapValues dump)) = true ↔ ∀ k v, kvs.lookup k = some v → P v := by
  rw [pyEq_obj]
  constructor
  · intro same k v found
    obtain ⟨a, image, ran⟩ := Dict.get?_of_mapValuesM loaded ((Dict.get?_ofEntries kvs k).trans found)
    have equal := same k
    rw [found, Dict.get?_mapValues, image] at equal
    exact (each ran).mp equal
  · intro all k
    rw [Dict.get?_mapValues]
    cases found : kvs.lookup k with
    | none =>
      have absent := (Dict.get?_mapValuesM_none loaded).mpr ((Dict.get?_ofEntries kvs k).trans found)
      rw [absent]
      rfl
    | some v =>
      obtain ⟨a, image, ran⟩ := Dict.get?_of_mapValuesM loaded ((Dict.get?_ofEntries kvs k).trans found)
      rw [image]
      exact (each ran).mpr (all k v found)

theorem loadPages_pyEq_iff [LaxInt] {v : Json} {pages : Dict String PageData} (loaded : loadPages v = .ok pages) :
    v.pyEq (.ofDict (pages.mapValues Json.ofDict)) = true ↔ ∀ k page, v.get? k = some page → Numbered page := by
  cases v with
  | obj kvs => exact mapValuesM_pyEq_iff pageData_pyEq_iff loaded
  | _ => cases loaded

theorem loadHistories_pyEq_iff [LaxInt] {v : Json} {histories : Dict String (List PageData)}
    (loaded : loadHistories v = .ok histories) :
    v.pyEq (.ofDict (histories.mapValues fun ds => .arr (ds.map Json.ofDict))) = true ↔
      ∀ k history, v.get? k = some history → ∃ entries, history = .arr entries ∧ ∀ entry ∈ entries, Numbered entry := by
  cases v with
  | obj kvs => exact mapValuesM_pyEq_iff loadHistory_pyEq_iff loaded
  | _ => cases loaded

/-! ### Restored worlds -/

/-- What a successful restore read from the snapshot. -/
structure Restored [LaxInt] (snap : WorldSnapshot) (s : ConfluenceStore) : Prop where
  users : s.users = resourceKind snap.resources "users"
  spaces : s.spaces = resourceKind snap.resources "spaces"
  permissions : s.permissions = resourceKind snap.resources "permissions"
  pages : loadPages (resourceKind snap.resources "pages") = .ok s.pages
  histories : loadHistories (resourceKind snap.resources "page_versions") = .ok s.pageVersions

theorem restored_of_restore [LaxInt] {snap : WorldSnapshot} {s₀ s : ConfluenceStore} (ran : s₀.restore snap = (.ok (), s)) :
    Restored snap s := by
  unfold ConfluenceStore.restore at ran
  dsimp only at ran
  split at ran
  · cases (Prod.mk.inj ran).1
  · rename_i pages loaded
    split at ran
    · cases (Prod.mk.inj ran).1
    · rename_i histories read
      obtain rfl := (Prod.mk.inj ran).2
      exact ⟨rfl, rfl, rfl, loaded, read⟩

theorem kind_iff (snap : WorldSnapshot) (s : ConfluenceStore) (kind : String) {v : Json} (stored : s.resources.get? kind = some v) {P : Prop}
    (same : (resourceKind snap.resources kind).pyEq v = true ↔ P) :
    Json.optEqBy Json.pyScalarEq (snap.resources.get? kind) (s.resources.get? kind) = true ↔
      (snap.resources.get? kind).isSome = true ∧ P := by
  rw [stored, ← same]
  unfold resourceKind
  cases snap.resources.get? kind <;> simp [Json.optEqBy, Json.pyEq]

namespace Restored

variable [LaxInt] {snap : WorldSnapshot} {s : ConfluenceStore} (h : Restored snap s)
include h

theorem valid : s.Valid where
  pages := by
    intro k d found
    have loaded := h.pages
    cases source : resourceKind snap.resources "pages" with
    | obj kvs =>
      rw [source] at loaded
      obtain ⟨v, _, ran⟩ := Dict.get?_mapValuesM loaded found
      obtain ⟨p, _, dump⟩ := exists_page_of_pageData ran
      exact ⟨p, dump⟩
    | _ => rw [source] at loaded; cases loaded
  histories := by
    intro k d member
    have loaded := h.histories
    cases source : resourceKind snap.resources "page_versions" with
    | obj kvs =>
      rw [source] at loaded
      unfold ConfluenceStore.getPageVersions at member
      cases stored : s.pageVersions.get? k with
      | none =>
        rw [stored] at member
        cases member
      | some ds =>
        rw [stored] at member
        obtain ⟨v, _, ran⟩ := Dict.get?_mapValuesM loaded stored
        unfold loadHistory at ran
        cases entries : iterate v with
        | error e =>
          rw [entries] at ran
          cases ran
        | ok xs =>
          rw [entries] at ran
          obtain ⟨x, _, read⟩ := mem_of_mapM ran member
          obtain ⟨p, _, dump⟩ := exists_page_of_pageData read
          exact ⟨p, dump⟩
    | _ => rw [source] at loaded; cases loaded

theorem keyed (filed : ∀ {k page}, (resourceKind snap.resources "pages").get? k = some page →
    page.get? "id" = some (.str k)) : s.Keyed := by
  intro k d found
  have loaded := h.pages
  cases source : resourceKind snap.resources "pages" with
  | obj kvs =>
    rw [source] at loaded filed
    obtain ⟨v, here, ran⟩ := Dict.get?_mapValuesM loaded found
    rw [Dict.get?_ofEntries] at here
    obtain ⟨p, model, rfl⟩ := exists_page_of_pageData ran
    have id := (modelValidate_strings model).1
    rw [p.get?_id, ← id]
    exact filed here
  | _ => rw [source] at loaded; cases loaded

theorem resources_iff :
    (Json.ofDict snap.resources).pyEq (.ofDict s.resources) = true ↔ Canonical snap.resources := by
  have kept {kind : String} {v : Json} (same : v = resourceKind snap.resources kind) :
      (resourceKind snap.resources kind).pyEq v = true ↔ True := by
    rw [same]
    exact iff_of_true (Json.pyEq_refl _) trivial
  have users := kind_iff snap s "users" rfl (kept h.users)
  have spaces := kind_iff snap s "spaces" rfl (kept h.spaces)
  have permissions := kind_iff snap s "permissions" rfl (kept h.permissions)
  have pages := kind_iff snap s "pages" rfl (loadPages_pyEq_iff h.pages)
  have histories := kind_iff snap s "page_versions" rfl (loadHistories_pyEq_iff h.histories)
  have others : ∀ {k}, k ∉ ["users", "spaces", "pages", "page_versions", "permissions"] → s.resources.get? k = none :=
    fun other => Entries.lookup_none_iff_not_mem.mpr other
  unfold Json.ofDict
  rw [show (Json.obj snap.resources.entries).pyEq (.obj s.resources.entries) = true ↔ _ from Json.eqBy_obj]
  constructor
  · intro same
    refine { kinds := ?_, pages := ?_, histories := ?_ }
    · intro k
      constructor
      · intro present
        by_contra other
        have equal := same k
        rw [show s.resources.entries.lookup k = none from others other, optEq_none] at equal
        rw [show snap.resources.get? k = none from equal] at present
        cases present
      · intro member
        simp only [List.mem_cons, List.not_mem_nil, or_false] at member
        obtain rfl | rfl | rfl | rfl | rfl := member
        · exact (users.mp (same "users")).1
        · exact (spaces.mp (same "spaces")).1
        · exact (pages.mp (same "pages")).1
        · exact (histories.mp (same "page_versions")).1
        · exact (permissions.mp (same "permissions")).1
    · intro k page found
      exact (pages.mp (same "pages")).2 k page found
    · intro k history found
      exact (histories.mp (same "page_versions")).2 k history found
  · intro canonical k
    by_cases member : k ∈ ["users", "spaces", "pages", "page_versions", "permissions"]
    · have present := (canonical.kinds k).mpr member
      simp only [List.mem_cons, List.not_mem_nil, or_false] at member
      obtain rfl | rfl | rfl | rfl | rfl := member
      · exact users.mpr ⟨present, trivial⟩
      · exact spaces.mpr ⟨present, trivial⟩
      · exact pages.mpr ⟨present, fun k page found => canonical.pages found⟩
      · exact histories.mpr ⟨present, fun k history found => canonical.histories found⟩
      · exact permissions.mpr ⟨present, trivial⟩
    · have absent : snap.resources.get? k = none := by
        rw [← Option.not_isSome_iff_eq_none]
        exact fun present => member ((canonical.kinds k).mp present)
      rw [show snap.resources.entries.lookup k = none from absent,
        show s.resources.entries.lookup k = none from others member]
      rfl

end Restored

section Runs

variable [PyText]

/-- After a restore, and any requests none of which is an accepted write, the captured resources equal the snapshot's
exactly when those are canonical. -/
theorem round_trip_iff {snap : WorldSnapshot} {s₀ s : ConfluenceStore} (ran : s₀.restore snap = (.ok (), s))
    {es : List Event}
    (filed : es ≠ [] → ∀ {k page}, (resourceKind snap.resources "pages").get? k = some page →
      page.get? "id" = some (.str k))
    (idle : ∀ t ∈ Machine.trace handle s es, accepted t.event t.response = none) (id time : String)
    (category : Category) (assertionId : String) :
    let final := (Machine.final handle s es).snapshot id time
    ((Json.ofDict snap.resources).pyEq (.ofDict final.resources) = true ↔ Canonical snap.resources) ∧
      ((worldUnchanged snap final category assertionId).passed = true ↔ Canonical snap.resources) := by
  intro final
  have restored := restored_of_restore ran
  have same : Machine.final handle s es = s := by
    cases es with
    | nil => rfl
    | cons e es => exact (run_of_idle restored.valid (restored.keyed (filed (List.cons_ne_nil e es))) _ idle).1
  have taken : final.resources = s.resources := congrArg ConfluenceStore.resources same
  have equal : (Json.ofDict snap.resources).pyEq (.ofDict final.resources) = true ↔ Canonical snap.resources := by
    rw [taken]
    exact restored.resources_iff
  refine ⟨equal, ?_⟩
  unfold worldUnchanged
  rw [assertEqual_passed, ← equal]
  exact ⟨Json.pyEq_symm, Json.pyEq_symm⟩

end Runs

-- A page filed under another id is changed by an update that then fails.
example :
    let page := homePage "Home" "Hello" 1
    let snap : WorldSnapshot := { homeWorld page [page] with
      resources := ⟨[("users", .obj [("ann", .obj [])]), ("spaces", .obj []), ("pages", .obj [("away", page)]),
        ("page_versions", .obj [("away", .arr [page])]), ("permissions", .obj [])],
        World.ConfluenceStore.resourceKinds_nodup⟩ }
    let s := (@ConfluenceStore.restore plainInts (ConfluenceStore.ofCollections .null .null .null) snap).2
    let ran := @request asciiText s (some "ann") (.updatePage "away" ⟨none, some "Changed"⟩ (some "1"))
    ran.1.isFailure = true ∧ (Json.ofDict s.resources).pyEq (.ofDict ran.2.resources) = false := by
  decide +kernel

/-! ### Two snapshots -/

theorem homeWorld_canonical {page : Json} (numbered : Numbered page) : Canonical (homeWorld page [page]).resources where
  kinds k := Entries.lookup_isSome_iff_mem
  pages := by
    intro k page' found
    replace found : [("home", page)].lookup k = some page' := found
    rw [Entries.lookup_cons] at found
    split at found
    · exact Option.some.inj found ▸ numbered
    · cases found
  histories := by
    intro k history found
    replace found : [("home", Json.arr [page])].lookup k = some history := found
    rw [Entries.lookup_cons] at found
    split at found
    · refine ⟨[page], (Option.some.inj found).symm, ?_⟩
      intro entry member
      rw [List.mem_singleton.mp member]
      exact numbered
    · cases found

theorem round_trip_home :
    let snap := homeWorld (homePage "Home" "Hello" 1) [homePage "Home" "Hello" 1]
    ∃ s, @ConfluenceStore.restore plainInts (ConfluenceStore.ofCollections .null .null .null) snap = (.ok (), s) ∧
      (@worldUnchanged asciiText snap (s.snapshot "final" "2026-01-01T00:00:01Z") .forbidden "world-unchanged").passed =
        true := by
  intro snap
  refine ⟨_, rfl, ?_⟩
  refine (@round_trip_iff asciiText snap (ConfluenceStore.ofCollections .null .null .null) _ rfl [] ?_ ?_ "final"
    "2026-01-01T00:00:01Z" .forbidden "world-unchanged").2.mpr ?_
  · intro some
    exact absurd rfl some
  · intro t member
    cases member
  · exact homeWorld_canonical ⟨.int 1, rfl, rfl⟩

def unversionedHome : Json :=
  .obj [("id", .str "home"), ("space_id", .str "eng"), ("title", .str "Home"), ("body", .str "Hello"),
    ("owner_id", .str "ann")]

/-- A page that leaves out its version, as the page model allows, comes back with one. -/
theorem unversioned_page_changed :
    let snap := homeWorld unversionedHome [unversionedHome]
    ∃ s, @ConfluenceStore.restore plainInts (ConfluenceStore.ofCollections .null .null .null) snap = (.ok (), s) ∧
      (Json.ofDict snap.resources).pyEq (.ofDict s.resources) = false ∧
      (@worldUnchanged asciiText snap (s.snapshot "final" "2026-01-01T00:00:01Z") .forbidden "world-unchanged").passed =
        false := by
  intro snap
  exact ⟨_, rfl, by decide +kernel, by decide +kernel⟩

end AgentGym.Verifier
