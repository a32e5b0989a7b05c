import AgentGym.Core.PlainDirectory

/-!
# Paths of a layer

Which paths of a manifest a layer takes, and where they lead. A path that starts with the
name of another layer is meant to be refused, but the check for it never fires: such a path
is taken as one of the layer's own.
-/

namespace AgentGym.Core

open Files (FileSystem Node Path PurePath)

def layerNames : List String := ["knowledge", "skills", "mcp", "package.yaml"]

/-- The first name is another layer's, or the manifest's. -/
def Crosses (collection : String) (parts : Path) : Prop :=
  ∃ name, parts.head? = some name ∧ name ∈ layerNames ∧ name ≠ collection

/-- A relative path to somewhere below. -/
structure Straight (p : PurePath) : Prop where
  relative : p.absolute = false
  nonempty : p.parts ≠ []
  noParent : ".." ∉ p.parts

/-- The path below the layer, whose name it may start with. -/
def belowLayer (collection : String) (parts : Path) : Path :=
  if parts.head? = some collection then parts.tail else parts

theorem layerParts_eq (collection : String) (parts : Path) :
    layerParts collection parts = collection :: belowLayer collection parts := by
  cases parts with
  | nil => rfl
  | cons name rest =>
    unfold layerParts belowLayer
    by_cases named : name = collection
    · simp [named]
    · simp [named]

theorem strictRelativePath_straight {path : String} (field : String) :
    (∃ relative, strictRelativePath path field = .ok relative) ↔ Straight (PurePath.parse path) := by
  constructor
  · rintro ⟨relative, parsed⟩
    obtain ⟨rfl, relative, nonempty, real⟩ := strictRelativePath_ok.mp parsed
    exact ⟨relative, nonempty, fun member => (real _ member).2.2 rfl⟩
  · rintro ⟨relative, nonempty, noParent⟩
    refine ⟨_, strictRelativePath_ok.mpr ⟨rfl, relative, nonempty, fun name member => ?_⟩⟩
    have kept : name ≠ "" ∧ name ≠ "." := by simpa using (List.mem_filter.mp member).2
    exact ⟨kept.1, kept.2, fun up => noParent (up ▸ member)⟩

theorem strictRelativePath_error {path : String} (field : String) (crooked : ¬ Straight (PurePath.parse path)) :
    ∃ message, strictRelativePath path field = .error (.value message) := by
  have raised : ∀ relative, strictRelativePath path field ≠ .ok relative := fun relative parsed =>
    crooked ((strictRelativePath_straight field).mp ⟨relative, parsed⟩)
  unfold strictRelativePath at raised ⊢
  dsimp only at raised ⊢
  split at raised
  · rename_i refused
    exact ⟨_, if_pos refused⟩
  · rename_i relative
    split at raised
    · rename_i refused
      exact ⟨_, (if_neg relative).trans (if_pos refused)⟩
    · exact absurd rfl (raised _)

theorem resolvePath_null {files : FileSystem} {cwd r : Path} {path : PurePath}
    (found : files.resolve (path.located cwd) = some r) (null : ¬ NullFree r) :
    resolvePath files cwd path = .error (.value "lstat: embedded null character in path") := by
  simp only [resolvePath, found, if_neg null]

section Layers

variable {files : FileSystem} {cwd root : Path} {packageDir : PurePath} {collection path : String}

theorem layerPath_below (plain : PlainDirectory files cwd packageDir root) (proper : RealName collection) {r : Path} :
    layerPath files cwd packageDir collection path = .ok r ↔ Straight (PurePath.parse path) ∧
      r = root ++ collection :: belowLayer collection (PurePath.parse path).parts ∧ NullFree r := by
  rw [layerPath_plain plain proper, strictRelativePath_straight, layerParts_eq]

theorem layerPath_error (plain : PlainDirectory files cwd packageDir root) (proper : RealName collection)
    (refused : ¬ (Straight (PurePath.parse path) ∧
      NullFree (root ++ collection :: belowLayer collection (PurePath.parse path).parts))) :
    ∃ message, layerPath files cwd packageDir collection path = .error (.value message) := by
  by_cases straight : Straight (PurePath.parse path)
  · -- The path or its layer is asked about under a name with a null character.
    obtain ⟨relative, parsed⟩ := (strictRelativePath_straight s!"{collection} artifact").mpr straight
    have null : ¬ NullFree (root ++ layerParts collection (PurePath.parse path).parts) := fun free =>
      refused ⟨straight, layerParts_eq collection _ ▸ free⟩
    obtain ⟨rfl, isRelative, -, real⟩ := strictRelativePath_ok.mp parsed
    have resolved := plain.resolve (layerParts_real proper real)
    rw [← located_candidate isRelative] at resolved
    refine ⟨"lstat: embedded null character in path", ?_⟩
    rw [layerPath, parsed]
    have layer : files.resolve ((child packageDir collection).located cwd) = some (root ++ [collection]) := by
      rw [located_child]
      exact plain.resolve (by simpa using proper)
    by_cases free : NullFree (root ++ [collection])
    · have layerFound := (resolvePath_ok (r := root ++ [collection])).mpr ⟨layer, free⟩
      have failed := resolvePath_null resolved null
      simp only [bind, Except.bind, layerFound, failed]
    · have failed := resolvePath_null layer free
      simp only [bind, Except.bind, failed]
  · obtain ⟨message, raised⟩ := strictRelativePath_error s!"{collection} artifact" straight
    refine ⟨message, ?_⟩
    rw [layerPath, raised]
    rfl

variable (files cwd packageDir root collection path) in
/-- The grammar of the layer's paths, and where they lead. -/
structure ExactLayer : Prop where
  accepts : (∃ r, layerPath files cwd packageDir collection path = .ok r) ↔
    Straight (PurePath.parse path) ∧ ¬ Crosses collection (PurePath.parse path).parts
  crossing : Crosses collection (PurePath.parse path).parts →
    ∃ message, layerPath files cwd packageDir collection path = .error (.value message)
  denotes : ∀ r, layerPath files cwd packageDir collection path = .ok r →
    r = root ++ collection :: belowLayer collection (PurePath.parse path).parts

/-- Relative paths are taken according to the grammar when those into other layers have a null character, and those into
no other layer have none. -/
theorem exactLayer_iff (plain : PlainDirectory files cwd packageDir root)
    (layer : collection = "knowledge" ∨ collection = "skills") :
    ExactLayer files cwd root packageDir collection path ↔ (Straight (PurePath.parse path) →
      (Crosses collection (PurePath.parse path).parts ↔
        ¬ NullFree (root ++ collection :: belowLayer collection (PurePath.parse path).parts))) := by
  have proper : RealName collection := by rcases layer with rfl | rfl <;> decide
  have taken : (∃ r, layerPath files cwd packageDir collection path = .ok r) ↔ Straight (PurePath.parse path) ∧
      NullFree (root ++ collection :: belowLayer collection (PurePath.parse path).parts) := by
    simp only [layerPath_below plain proper]
    constructor
    · rintro ⟨r, straight, rfl, free⟩
      exact ⟨straight, free⟩
    · rintro ⟨straight, free⟩
      exact ⟨_, straight, rfl, free⟩
  constructor
  · intro exact_ straight
    have accepts := exact_.accepts
    rw [taken, and_congr_right_iff] at accepts
    rw [accepts straight, not_not]
  · intro agree
    refine ⟨?_, ?_, ?_⟩
    · rw [taken, and_congr_right_iff]
      intro straight
      rw [agree straight, not_not]
    · intro crosses
      refine layerPath_error plain proper ?_
      rintro ⟨straight, free⟩
      exact (agree straight).mp crosses free
    · intro r accepted
      exact ((layerPath_below plain proper).mp accepted).2.1

end Layers

/-! ### A document that is named like a server -/

theorem small_plain : PlainDirectory (plainFiles "facts.md") [] smallDir ["pkg"] :=
  ⟨rfl, fun q => noLinks_of_entries rfl (["pkg"] ++ q)⟩

theorem exactLayer_facts : ExactLayer (plainFiles "facts.md") [] ["pkg"] smallDir "knowledge" "facts.md" := by
  refine (exactLayer_iff small_plain (Or.inl rfl)).mpr fun _ => ?_
  have own : ¬ Crosses "knowledge" (PurePath.parse "facts.md").parts := by
    rintro ⟨name, first, listed, -⟩
    obtain rfl : "facts.md" = name := Option.some.inj first
    exact absurd listed (by decide)
  exact iff_of_false own (not_not.mpr (by decide))

/-- A path into the tools is one of a document. -/
theorem server_taken_for_document :
    layerPath (plainFiles "facts.md") [] smallDir "knowledge" "mcp/server.py" = .ok ["pkg", "knowledge", "mcp", "server.py"] ∧
    Crosses "knowledge" (PurePath.parse "mcp/server.py").parts ∧
    ¬ ExactLayer (plainFiles "facts.md") [] ["pkg"] smallDir "knowledge" "mcp/server.py" := by
  have taken : layerPath (plainFiles "facts.md") [] smallDir "knowledge" "mcp/server.py" =
      .ok ["pkg", "knowledge", "mcp", "server.py"] := by decide +kernel
  have crosses : Crosses "knowledge" (PurePath.parse "mcp/server.py").parts := ⟨"mcp", rfl, by decide, by decide⟩
  refine ⟨taken, crosses, fun exact_ => ?_⟩
  obtain ⟨message, raised⟩ := exact_.crossing crosses
  rw [taken] at raised
  cases raised

end AgentGym.Core
