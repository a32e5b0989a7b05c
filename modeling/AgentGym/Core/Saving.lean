import AgentGym.Core.PlainDirectory

/-!
# Saving a package and loading it

The digests of the documents, of the skills and of the tools make one list, which is cut up
again by the numbers of artifacts. What is saved is what loads, and it loads only as long as
the files are those it was saved with.
-/

namespace AgentGym.Core

open Files (FileSystem Node Path PurePath)
open Files.FileSystem (Changed)

/-! ### Digests in manifest order -/

/-- The package apart from its digests. -/
def AgentPackage.unhashed (p : AgentPackage) : AgentPackage := { p with
  knowledge := p.knowledge.map fun artifact => { artifact with sha256 := "" }
  skills := p.skills.map fun artifact => { artifact with sha256 := "" }
  tools := { p.tools with sha256 := "" } }

section Hashing

variable {sha256 : ByteArray → String} {files : FileSystem} {cwd : Path} {packageDir : PurePath} {p : AgentPackage}

theorem setHashes_ok {hashes : List String} (computed : p.computedHashes sha256 files cwd packageDir = .ok hashes) :
    ∃ saved, p.setHashes sha256 files cwd packageDir = .ok saved ∧ saved.unhashed = p.unhashed ∧
      Verified sha256 files cwd saved packageDir := by
  obtain ⟨knowledge, skills, tool, knowledgeDigests, skillDigests, toolDigest, rfl⟩ := computedHashes_ok.mp computed
  have knowledgeSlice : (knowledge ++ skills ++ [tool]).take p.knowledge.length = knowledge := by
    rw [List.append_assoc, knowledgeDigests.length_eq, List.take_left]
  have skillSlice : ((knowledge ++ skills ++ [tool]).drop p.knowledge.length).take p.skills.length = skills := by
    rw [List.append_assoc, knowledgeDigests.length_eq, List.drop_left, skillDigests.length_eq, List.take_left]
  have last : (knowledge ++ skills ++ [tool]).getLast? = some tool := List.getLast?_concat
  simp only [AgentPackage.setHashes, AgentPackage.zipStrict, bind_eq_ok_iff, computed, Except.ok.injEq, exists_eq_left',
    knowledgeSlice, skillSlice, last, if_pos knowledgeDigests.length_eq, if_pos skillDigests.length_eq, Option.getD_some]
  refine ⟨_, rfl, ?_, ?_⟩
  · have knowledgeKept : ((p.knowledge.zip knowledge).map fun pair => KnowledgeArtifact.mk pair.1.path "" pair.1.tags) =
        p.knowledge.map fun artifact => { artifact with sha256 := "" } := by
      conv_rhs => rw [← List.map_fst_zip knowledgeDigests.length_eq.le, List.map_map]
      rfl
    have skillsKept : ((p.skills.zip skills).map fun pair => SkillArtifact.mk pair.1.path "") =
        p.skills.map fun artifact => { artifact with sha256 := "" } := by
      conv_rhs => rw [← List.map_fst_zip skillDigests.length_eq.le, List.map_map]
      rfl
    simp only [AgentPackage.unhashed, List.map_map, AgentPackage.mk.injEq, and_true, true_and]
    exact ⟨knowledgeKept, skillsKept⟩
  · refine ⟨?_, ?_, toolDigest⟩
    · rintro a member
      obtain ⟨⟨artifact, digest⟩, paired, rfl⟩ := List.mem_map.mp member
      have own := (List.forall₂_iff_zip.mp knowledgeDigests).2 paired
      exact own
    · rintro a member
      obtain ⟨⟨artifact, digest⟩, paired, rfl⟩ := List.mem_map.mp member
      have own := (List.forall₂_iff_zip.mp skillDigests).2 paired
      exact own

end Hashing

/-! ### Packages in their directory -/

def RegularArtifact (files : FileSystem) (cwd : Path) (packageDir : PurePath) (collection path : String) : Prop :=
  ∃ r contents, layerPath files cwd packageDir collection path = .ok r ∧ files.get? r = some (.file contents)

/-- A directory without links that has a package's artifacts in it. -/
structure Holds (files : FileSystem) (cwd : Path) (packageDir : PurePath) (root : Path) (p : AgentPackage) : Prop where
  found : files.stat (packageDir.located cwd) = some root
  directory : files.get? root = some .dir
  noLinks : ∀ q target, files.get? (root ++ q) ≠ some (.link target)
  knowledge : ∀ a ∈ p.knowledge, RegularArtifact files cwd packageDir "knowledge" a.path
  skills : ∀ a ∈ p.skills, RegularArtifact files cwd packageDir "skills" a.path
  tools : ∃ toolRoot entrypoint, toolRootPath files cwd packageDir p.tools.root = .ok toolRoot ∧
    toolEntrypoint files cwd toolRoot p.tools.serverEntrypoint = .ok entrypoint

/-- The directory is not named like a manifest, nothing else has the place of a layer or of the manifest, and eight
bytes hold the lengths in the tool tree. -/
structure Writable (files : FileSystem) (packageDir : PurePath) (root : Path) (tools : ToolPackage) : Prop where
  notManifest : packageDir.name ≠ "package.yaml"
  knowledge : files.get? (root ++ ["knowledge"]) = none ∨ files.get? (root ++ ["knowledge"]) = some .dir
  skills : files.get? (root ++ ["skills"]) = none ∨ files.get? (root ++ ["skills"]) = some .dir
  manifest : files.get? (root ++ ["package.yaml"]) ≠ some .dir
  lengths : ∀ entry ∈ treeFiles files (root ++ (PurePath.parse tools.root).parts),
    entry.1.toUTF8.size < 18446744073709551616 ∧ entry.2.size < 18446744073709551616

section Held

variable {sha256 : ByteArray → String} {files files' : FileSystem} {cwd root : Path} {packageDir : PurePath} {p : AgentPackage}

theorem Holds.plain (holds : Holds files cwd packageDir root p) : PlainDirectory files cwd packageDir root :=
  ⟨FileSystem.resolve_of_stat holds.found, holds.noLinks⟩

theorem regularArtifact_kept (plain : PlainDirectory files cwd packageDir root) (kept : Kept files files' root)
    {collection path : String} (proper : RealName collection) (other : collection ≠ "package.yaml")
    (regular : RegularArtifact files cwd packageDir collection path) :
    RegularArtifact files' cwd packageDir collection path := by
  obtain ⟨r, contents, resolved, file⟩ := regular
  obtain ⟨parsed, rfl, free⟩ := (layerPath_plain plain proper).mp resolved
  have aside := layerParts_beside other (PurePath.parse path).parts []
  rw [List.append_nil] at aside
  exact ⟨_, contents, (layerPath_plain (plain.grows kept.grows) proper).mpr ⟨parsed, rfl, free⟩,
    (kept.files _ contents aside).mp file⟩

theorem Holds.kept (holds : Holds files cwd packageDir root p) (kept : Kept files files' root) :
    Holds files' cwd packageDir root p := by
  obtain ⟨toolRoot, entrypoint, resolved, entry⟩ := holds.tools
  obtain ⟨resolved', entry'⟩ := toolEntrypoint_kept holds.plain kept resolved entry
  exact {
    found := FileSystem.stat_grows kept.grows holds.found
    directory := kept.grows.dirs _ holds.directory
    noLinks := (holds.plain.grows kept.grows).noLinks
    knowledge := fun a member => regularArtifact_kept holds.plain kept (by decide) (by decide) (holds.knowledge a member)
    skills := fun a member => regularArtifact_kept holds.plain kept (by decide) (by decide) (holds.skills a member)
    tools := ⟨toolRoot, entrypoint, resolved', entry'⟩ }

variable (sha256) in
theorem RegularArtifact.digest (plain : PlainDirectory files cwd packageDir root) {collection path : String}
    (proper : RealName collection) (regular : RegularArtifact files cwd packageDir collection path) :
    ∃ digest, ArtifactDigest sha256 files cwd packageDir collection path digest := by
  obtain ⟨r, contents, resolved, file⟩ := regular
  obtain ⟨⟨relative, parsed⟩, rfl, free⟩ := (layerPath_plain plain proper).mp resolved
  obtain ⟨rfl, -, -, real⟩ := strictRelativePath_ok.mp parsed
  have digested : sha256Path sha256 files (root ++ layerParts collection (PurePath.parse path).parts) = .ok (sha256 contents) :=
    (sha256Path_ok (plain.location (layerParts_real proper real))).mpr (Or.inl ⟨contents, file, rfl⟩)
  exact ⟨_, (artifactDigest_plain plain proper).mpr ⟨⟨_, parsed⟩, free, digested⟩⟩

/-- The tool root is a directory, for the server is below it. -/
theorem toolTree_plain (plain : PlainDirectory files cwd packageDir root) {tools : ToolPackage} {toolRoot entrypoint : Path}
    (resolved : toolRootPath files cwd packageDir tools.root = .ok toolRoot)
    (entry : toolEntrypoint files cwd toolRoot tools.serverEntrypoint = .ok entrypoint) :
    toolRoot = root ++ (PurePath.parse tools.root).parts ∧ files.IsLocation toolRoot ∧ files.get? toolRoot = some .dir := by
  obtain ⟨⟨relative, parsed⟩, -, rfl, -⟩ := (toolRootPath_plain plain).mp resolved
  obtain ⟨rfl, -, -, real⟩ := strictRelativePath_ok.mp parsed
  obtain ⟨⟨_, entryParsed⟩, rfl, -, contents, file⟩ := (toolEntrypoint_plain plain real).mp entry
  obtain ⟨rfl, -, nonempty, -⟩ := strictRelativePath_ok.mp entryParsed
  exact ⟨rfl, plain.location real, FileSystem.dir_above nonempty (by rw [file]; rfl)⟩

variable (sha256) in
theorem Holds.toolDigest (holds : Holds files cwd packageDir root p)
    (lengths : ∀ entry ∈ treeFiles files (root ++ (PurePath.parse p.tools.root).parts),
      entry.1.toUTF8.size < 18446744073709551616 ∧ entry.2.size < 18446744073709551616) :
    ∃ digest, ToolDigest sha256 files cwd packageDir p.tools digest := by
  obtain ⟨toolRoot, entrypoint, resolved, entry⟩ := holds.tools
  obtain ⟨rfl, location, dir⟩ := toolTree_plain holds.plain resolved entry
  obtain ⟨bytes, encoded⟩ := treeBytes_total.mpr lengths
  have digested : sha256Path sha256 files (root ++ (PurePath.parse p.tools.root).parts) = .ok (sha256 ⟨bytes.toArray⟩) := by
    refine (sha256Path_ok location).mpr (Or.inr ⟨dir, ?_, bytes, encoded, rfl⟩)
    rintro ⟨q, node⟩ listed
    have here := ((FileSystem.mem_rglob location (by rw [dir]; rfl)).mp listed).2
    rw [List.append_assoc] at here
    cases node with
    | link target => exact absurd here (holds.noLinks _ target)
    | _ => rfl
  exact ⟨_, _, _, resolved, pathExists_of_sha256Path digested, entry, digested⟩

variable (sha256) in
theorem Holds.computedHashes (holds : Holds files cwd packageDir root p)
    (lengths : ∀ entry ∈ treeFiles files (root ++ (PurePath.parse p.tools.root).parts),
      entry.1.toUTF8.size < 18446744073709551616 ∧ entry.2.size < 18446744073709551616) :
    ∃ hashes, p.computedHashes sha256 files cwd packageDir = .ok hashes := by
  have digests : ∀ {α : Type} {R : α → String → Prop} (xs : List α), (∀ x ∈ xs, ∃ digest, R x digest) →
      ∃ hashes, List.Forall₂ R xs hashes := by
    intro α R xs each
    induction xs with
    | nil => exact ⟨[], .nil⟩
    | cons x xs ih =>
      obtain ⟨⟨digest, first⟩, rest⟩ := List.forall_mem_cons.mp each
      obtain ⟨hashes, later⟩ := ih rest
      exact ⟨digest :: hashes, .cons first later⟩
  obtain ⟨knowledge, knowledgeDigests⟩ := digests p.knowledge fun a member =>
    (holds.knowledge a member).digest sha256 holds.plain (by decide)
  obtain ⟨skills, skillDigests⟩ := digests p.skills fun a member =>
    (holds.skills a member).digest sha256 holds.plain (by decide)
  obtain ⟨tool, toolDigest⟩ := holds.toolDigest sha256 lengths
  exact ⟨_, computedHashes_ok.mpr ⟨knowledge, skills, tool, knowledgeDigests, skillDigests, toolDigest, rfl⟩⟩

end Held

/-! ### Saving and loading -/

section Persisted

variable [LaxInt] [PyYaml] {sha256 : ByteArray → String} {files : FileSystem} {cwd root : Path} {packageDir : PurePath}
  {p q : AgentPackage}

omit [LaxInt] in
/-- Saving sets the digests, writes the manifest, and leaves the artifacts as they are. -/
theorem save_holds (holds : Holds files cwd packageDir root p) (writable : Writable files packageDir root p.tools) :
    ∃ files' saved, p.save sha256 files cwd packageDir none = .ok (files', saved) ∧ Kept files files' root ∧
      files'.get? (root ++ ["package.yaml"]) = some (.file (PyYaml.safeDump saved.modelDump)) ∧
      saved.unhashed = p.unhashed ∧ Verified sha256 files' cwd saved packageDir := by
  have same : packageDirectory packageDir = packageDir := if_neg writable.notManifest
  have directory : files.isDir (packageDir.located cwd) = true := by
    simp [FileSystem.isDir, FileSystem.node?, holds.found, holds.directory, Node.isDir]
  obtain ⟨files₁, made₁, changed₁⟩ := FileSystem.ensureDir_child holds.found holds.directory (by decide) writable.knowledge
  have kept₁ := kept_of_layer changed₁ writable.knowledge
  have holds₁ := holds.kept kept₁
  have room : files₁.get? (root ++ ["skills"]) = none ∨ files₁.get? (root ++ ["skills"]) = some .dir := by
    rw [changed₁.elsewhere _ (by simp)]
    exact writable.skills
  obtain ⟨files₂, made₂, changed₂⟩ := FileSystem.ensureDir_child holds₁.found holds₁.directory (by decide) room
  have kept₂ := kept₁.trans (kept_of_layer changed₂ room)
  have holds₂ := holds.kept kept₂
  obtain ⟨toolRoot, entrypoint, resolved, entry⟩ := holds₂.tools
  obtain ⟨rfl, location, dir⟩ := toolTree_plain holds₂.plain resolved entry
  have toolDirectory : files₂.isDir (root ++ (PurePath.parse p.tools.root).parts) = true := by
    simp [FileSystem.isDir, FileSystem.node?_location location, dir, Node.isDir]
  have lengths : treeFiles files (root ++ (PurePath.parse p.tools.root).parts) =
      treeFiles files₂ (root ++ (PurePath.parse p.tools.root).parts) := by
    obtain ⟨⟨relative, parsed⟩, layer, -⟩ := (toolRootPath_plain holds₂.plain).mp resolved
    obtain ⟨rfl, -, -, real⟩ := strictRelativePath_ok.mp parsed
    obtain ⟨toolRoot', entrypoint', resolved', entry'⟩ := holds.tools
    obtain ⟨rfl, -, dir'⟩ := toolTree_plain holds.plain resolved' entry'
    exact treeFiles_kept holds.plain kept₂ real (mcp_beside layer) (by rw [dir']; rfl)
  obtain ⟨hashes, computed⟩ := holds₂.computedHashes sha256 (lengths ▸ writable.lengths)
  obtain ⟨saved, hashed, unhashed, verified⟩ := setHashes_ok computed
  have leaf : files₂.get? (root ++ ["package.yaml"]) ≠ some .dir := by
    rw [changed₂.elsewhere _ (by simp), changed₁.elsewhere _ (by simp)]
    exact writable.manifest
  obtain ⟨files₃, written, changed₃⟩ := FileSystem.writeBytes_child (PyYaml.safeDump saved.modelDump)
    holds₂.plain.leads holds₂.directory (by decide) (holds₂.noLinks _) leaf
  have kept₃ := kept_of_manifest changed₃ (holds₂.noLinks _) leaf
  refine ⟨files₃, saved, ?_, kept₂.trans kept₃, changed₃.there, unhashed, verified_kept holds₂.plain kept₃ verified⟩
  simp only [AgentPackage.save, bind_eq_ok_iff, mapError_eq_ok_iff, same, located_child]
  exact ⟨(), rfl, files, FileSystem.makeDirs_existing directory _, files₁, made₁, files₂, made₂, _, resolved,
    files₂, FileSystem.makeDirs_existing toolDirectory _, saved, hashed, files₃, written, rfl⟩

theorem load_plain (plain : PlainDirectory files cwd packageDir root) (notManifest : packageDir.name ≠ "package.yaml") :
    AgentPackage.load sha256 files cwd packageDir none = .ok q ↔ files.isDir (packageDir.located cwd) = true ∧
      ∃ manifest data, files.get? (root ++ ["package.yaml"]) = some (.file manifest) ∧
        PyYaml.safeLoad manifest = some data ∧ AgentPackage.modelValidate data = .ok q ∧
        Verified sha256 files cwd q packageDir := by
  have same : packageDirectory packageDir = packageDir := if_neg notManifest
  have leads : ∀ {parts r : Path}, (∀ name ∈ parts, RealName name) →
      files.stat (packageDir.located cwd ++ parts) = some r → r = root ++ parts := fun real found =>
    Option.some.inj ((FileSystem.resolve_of_stat found).symm.trans (plain.resolve real))
  have manifestAt : files.isDir (packageDir.located cwd) = true → ∀ manifest,
      (files.node? (packageDir.located cwd ++ ["package.yaml"]) = some (.file manifest) ↔
        files.get? (root ++ ["package.yaml"]) = some (.file manifest)) := by
    intro directory manifest
    rw [FileSystem.node?_eq_some]
    constructor
    · rintro ⟨r, found, here⟩
      rwa [leads (by decide) found] at here
    · intro here
      obtain ⟨node, reached, -⟩ := Option.any_eq_true _ _ |>.mp directory
      obtain ⟨r, found, -⟩ := FileSystem.node?_eq_some.mp reached
      have isRoot : r = root ++ [] := leads (by simp) (by simpa using found)
      rw [List.append_nil] at isRoot
      exact ⟨_, FileSystem.stat_child (isRoot ▸ found) here rfl, here⟩
  by_cases directory : files.isDir (packageDir.located cwd) = true
  · simp only [load_directory directory, fromDirectory_ok, same, located_child, manifestAt directory, directory, true_and,
      AgentPackage.validateCapabilities, and_true]
  · simp only [directory, Bool.false_eq_true, false_and, iff_false]
    intro loaded
    unfold AgentPackage.load at loaded
    split at loaded
    · rw [AgentPackage.fromYaml, if_neg notManifest] at loaded
      cases loaded
    · obtain ⟨isDirectory, -⟩ := fromDirectory_ok.mp loaded
      rw [same] at isDirectory
      exact directory isDirectory

end Persisted

end AgentGym.Core
