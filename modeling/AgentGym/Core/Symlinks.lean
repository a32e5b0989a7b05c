import AgentGym.Core.Package

/-!
# What the integrity check confines

The check refuses links in a tree it digests, but each path is resolved before it is
looked at: where an artifact, its layer or the tool root is reached through a link, the
link is followed, out of the package even.
-/

namespace AgentGym.Core

open Files (FileSystem Node Path PurePath asPosix)

/-- No component of the path, counted from the root given, is a link. -/
def LinkFree (files : FileSystem) (root parts : Path) : Prop :=
  ∀ q name target, q ++ [name] <+: parts → files.get? (root ++ (q ++ [name])) ≠ some (.link target)

/-- The regular files a digest of a resolved path is taken of: the one there, or those below it. -/
def FileOf (files : FileSystem) (r file : Path) : Prop := r <+: file ∧ ∃ contents, files.get? file = some (.file contents)

/-- A file whose bytes are digested when the package is verified. -/
inductive HashedFile (files : FileSystem) (cwd : Path) (p : AgentPackage) (packageDir : PurePath) (file : Path) : Prop
  | knowledge {a : KnowledgeArtifact} {r : Path} (member : a ∈ p.knowledge)
      (resolved : artifactPath files cwd packageDir "knowledge" a.path = .ok r) (of : FileOf files r file)
  | skill {a : SkillArtifact} {r : Path} (member : a ∈ p.skills)
      (resolved : artifactPath files cwd packageDir "skills" a.path = .ok r) (of : FileOf files r file)
  | tool {r : Path} (resolved : toolRootPath files cwd packageDir p.tools.root = .ok r) (of : FileOf files r file)

/-- No link on the way from the package directory to anything the manifest names or the tool tree holds, and
nothing digested outside. -/
structure Confined (files : FileSystem) (cwd : Path) (p : AgentPackage) (packageDir : PurePath) (root : Path) : Prop where
  knowledge : ∀ a ∈ p.knowledge, LinkFree files root (layerParts "knowledge" (PurePath.parse a.path).parts)
  skills : ∀ a ∈ p.skills, LinkFree files root (layerParts "skills" (PurePath.parse a.path).parts)
  toolRoot : LinkFree files root (PurePath.parse p.tools.root).parts
  entrypoint : LinkFree files root ((PurePath.parse p.tools.root).parts ++ (PurePath.parse p.tools.serverEntrypoint).parts)
  tree : ∀ r, toolRootPath files cwd packageDir p.tools.root = .ok r → ∀ entry ∈ files.rglob r,
    LinkFree files root ((PurePath.parse p.tools.root).parts ++ entry.1)
  inside : ∀ file, HashedFile files cwd p packageDir file → root <+: file

/-- No link on the way to an artifact or to the tool root. -/
structure Unlinked (files : FileSystem) (p : AgentPackage) (root : Path) : Prop where
  knowledge : ∀ a ∈ p.knowledge, LinkFree files root (layerParts "knowledge" (PurePath.parse a.path).parts)
  skills : ∀ a ∈ p.skills, LinkFree files root (layerParts "skills" (PurePath.parse a.path).parts)
  toolRoot : LinkFree files root (PurePath.parse p.tools.root).parts

section Links

variable {files : FileSystem} {root : Path}

theorem linkFree_append {p q : Path} : LinkFree files root (p ++ q) ↔ LinkFree files root p ∧ LinkFree files (root ++ p) q := by
  constructor
  · intro free
    refine ⟨fun r name target start => free r name target (start.trans (List.prefix_append p q)), ?_⟩
    intro r name target start
    have whole := free (p ++ r) name target (by simpa using start)
    simpa using whole
  · rintro ⟨first, second⟩ r name target start
    rcases FileSystem.concat_prefix_append start with within | ⟨rest, rfl, beyond⟩
    · exact first r name target within
    · rw [List.append_assoc, ← List.append_assoc root]
      exact second rest name target beyond

theorem LinkFree.location {parts : Path} (free : LinkFree files root parts) (base : files.IsLocation root)
    (real : ∀ name ∈ parts, RealName name) : files.IsLocation (root ++ parts) := by
  intro q name start
  rcases FileSystem.concat_prefix_append start with within | ⟨rest, rfl, beyond⟩
  · exact base q name within
  · refine ⟨real name (beyond.subset (by simp)), fun target => ?_⟩
    rw [List.append_assoc]
    exact free rest name target beyond

theorem layerParts_real {collection : String} (proper : RealName collection) {parts : Path}
    (real : ∀ name ∈ parts, RealName name) : ∀ name ∈ layerParts collection parts, RealName name := by
  unfold layerParts
  split
  · exact real
  · exact List.forall_mem_cons.mpr ⟨proper, real⟩

end Links

section Verification

variable {sha256 : ByteArray → String} {files : FileSystem} {cwd : Path} {packageDir : PurePath} {p : AgentPackage}

theorem plain_below {r : Path} (location : files.IsLocation r) {digest : String}
    (digested : sha256Path sha256 files r = .ok digest) {q : Path} (below : q ≠ []) (target : String) :
    files.get? (r ++ q) ≠ some (.link target) := by
  intro linked
  have dir := FileSystem.dir_above below (by rw [linked]; rfl)
  rcases (sha256Path_ok location).mp digested with ⟨contents, file, -⟩ | ⟨-, plain, -⟩
  · simp [file] at dir
  · have entry := plain (q, .link target)
      ((FileSystem.mem_rglob location (by rw [dir]; rfl)).mpr ⟨below, linked⟩)
    simp [Node.isLink] at entry

theorem artifactPath_unlinked {collection path : String} (proper : RealName collection) {root r : Path}
    (base : files.resolve (packageDir.located cwd) = some root)
    (free : LinkFree files root (layerParts collection (PurePath.parse path).parts))
    (resolved : artifactPath files cwd packageDir collection path = .ok r) :
    r = root ++ layerParts collection (PurePath.parse path).parts := by
  obtain ⟨relative, layerRoot, parsed, -, found, -⟩ := layerPath_ok.mp (artifactPath_ok.mp resolved).1
  obtain ⟨rfl, -, -, real⟩ := strictRelativePath_ok.mp parsed
  rw [← FileSystem.resolve_append base] at found
  have location := free.location (FileSystem.location_resolve base) (layerParts_real proper real)
  exact Option.some.inj (found.symm.trans (FileSystem.resolve_location location))

theorem toolRootPath_unlinked {root r : Path} {path : String} (base : files.resolve (packageDir.located cwd) = some root)
    (free : LinkFree files root (PurePath.parse path).parts)
    (resolved : toolRootPath files cwd packageDir path = .ok r) : r = root ++ (PurePath.parse path).parts := by
  obtain ⟨relative, mcpRoot, parsed, -, -, found, -⟩ := toolRootPath_ok.mp resolved
  obtain ⟨rfl, -, -, real⟩ := strictRelativePath_ok.mp parsed
  rw [← FileSystem.resolve_append base] at found
  exact Option.some.inj (found.symm.trans (FileSystem.resolve_location (free.location (FileSystem.location_resolve base) real)))

/-- A verified package is confined just when no link leads to its artifacts or its tool root. -/
theorem verified_confined_iff {path : PurePath} (verified : p.verifyHashes sha256 files cwd path = .ok ()) :
    ∃ root, files.resolve ((packageDirectory path).located cwd) = some root ∧
      (Confined files cwd p (packageDirectory path) root ↔ Unlinked files p root) := by
  obtain ⟨knowledge, skills, toolRoot, entrypoint, resolved, present, entry, digested⟩ := verifyHashes_ok.mp verified
  obtain ⟨_, _, -, -, mcp, -, -⟩ := toolRootPath_ok.mp resolved
  obtain ⟨root, base⟩ := FileSystem.exists_resolve_prefix mcp
  refine ⟨root, base, fun confined => ⟨confined.knowledge, confined.skills, confined.toolRoot⟩, ?_⟩
  rintro ⟨freeKnowledge, freeSkills, freeRoot⟩
  have spelled := toolRootPath_unlinked base freeRoot resolved
  have location : files.IsLocation toolRoot := by
    obtain ⟨_, _, -, -, -, found, -⟩ := toolRootPath_ok.mp resolved
    exact FileSystem.location_resolve found
  have below : ∀ parts, LinkFree files toolRoot parts := fun parts q name target start =>
    plain_below location digested (by simp) target
  have beyond : ∀ parts, LinkFree files root ((PurePath.parse p.tools.root).parts ++ parts) := fun parts =>
    linkFree_append.mpr ⟨freeRoot, spelled ▸ below parts⟩
  refine ⟨freeKnowledge, freeSkills, freeRoot, beyond _, fun _ _ entry _ => beyond entry.1, ?_⟩
  intro file hashed
  cases hashed with
  | knowledge member artifact of =>
    rw [artifactPath_unlinked (by decide) base (freeKnowledge _ member) artifact] at of
    exact (List.prefix_append _ _).trans of.1
  | skill member artifact of =>
    rw [artifactPath_unlinked (by decide) base (freeSkills _ member) artifact] at of
    exact (List.prefix_append _ _).trans of.1
  | tool again of =>
    rw [toolRootPath_unlinked base freeRoot again] at of
    exact (List.prefix_append _ _).trans of.1

end Verification

/-! ### A document behind a link -/

theorem plain_verified :
    (smallPackage "facts.md").verifyHashes recordedSha256 (plainFiles "facts.md") [] smallDir = .ok () := by decide +kernel

theorem verified_confined_plain : ∃ root, (plainFiles "facts.md").resolve ((packageDirectory smallDir).located []) = some root ∧
    (Confined (plainFiles "facts.md") [] (smallPackage "facts.md") (packageDirectory smallDir) root ↔
      Unlinked (plainFiles "facts.md") (smallPackage "facts.md") root) :=
  verified_confined_iff plain_verified

theorem linkedFormed : FileSystem.wellFormed (smallNodes [(["pkg", "knowledge"], .link "/shared"), (["shared"], .dir),
    (["shared", "facts.md"], .file "Hi".toUTF8)]) = true := by
  rfl

def linkedFiles : FileSystem := .ofNodes _ linkedFormed

/-- A layer that is a link out of the package is digested there. -/
theorem linked_layer_accepted :
    (smallPackage "facts.md").verifyHashes recordedSha256 linkedFiles [] smallDir = .ok () ∧
    linkedFiles.resolve ((packageDirectory smallDir).located []) = some ["pkg"] ∧
    linkedFiles.get? ["pkg", "knowledge"] = some (.link "/shared") ∧
    HashedFile linkedFiles [] (smallPackage "facts.md") (packageDirectory smallDir) ["shared", "facts.md"] ∧
    ¬ Confined linkedFiles [] (smallPackage "facts.md") (packageDirectory smallDir) ["pkg"] := by
  have outside : HashedFile linkedFiles [] (smallPackage "facts.md") (packageDirectory smallDir) ["shared", "facts.md"] :=
    .knowledge List.mem_cons_self (by decide +kernel) ⟨List.prefix_refl _, "Hi".toUTF8, rfl⟩
  refine ⟨by decide +kernel, rfl, rfl, outside, fun confined => ?_⟩
  exact absurd (confined.inside _ outside) (by decide)

end AgentGym.Core
