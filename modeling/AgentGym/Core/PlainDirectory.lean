import AgentGym.Core.Symlinks
import AgentGym.Core.Tree
import AgentGym.Lib.FileChanges

/-!
# Package directories without links

Where there are no links, a path of a manifest denotes the file it spells, and what is written
next to the artifacts changes nothing about their digests.
-/

namespace AgentGym.Core

open Files (FileSystem Node Path PurePath)
open Files.FileSystem (Grows Changed)

/-! ### Directories without links -/

/-- A package directory that leads to `root`, with no link below. -/
structure PlainDirectory (files : FileSystem) (cwd : Path) (packageDir : PurePath) (root : Path) : Prop where
  leads : files.resolve (packageDir.located cwd) = some root
  noLinks : ∀ q target, files.get? (root ++ q) ≠ some (.link target)

section Plain

variable {sha256 : ByteArray → String} {files files' : FileSystem} {cwd root : Path} {packageDir : PurePath}

theorem PlainDirectory.linkFree (plain : PlainDirectory files cwd packageDir root) (parts : Path) :
    LinkFree files root parts := fun q name target _ => plain.noLinks (q ++ [name]) target

theorem PlainDirectory.location (plain : PlainDirectory files cwd packageDir root) {parts : Path}
    (real : ∀ name ∈ parts, RealName name) : files.IsLocation (root ++ parts) :=
  (plain.linkFree parts).location (FileSystem.location_resolve plain.leads) real

theorem PlainDirectory.resolve (plain : PlainDirectory files cwd packageDir root) {parts : Path}
    (real : ∀ name ∈ parts, RealName name) : files.resolve (packageDir.located cwd ++ parts) = some (root ++ parts) := by
  rw [← FileSystem.resolve_append plain.leads]
  exact FileSystem.resolve_location (plain.location real)

theorem PlainDirectory.grows (plain : PlainDirectory files cwd packageDir root) (grows : Grows files files') :
    PlainDirectory files' cwd packageDir root :=
  ⟨(FileSystem.resolve_congr grows.links _).symm.trans plain.leads,
    fun q target linked => plain.noLinks q target ((grows.links _ target).mpr linked)⟩

theorem layerParts_cons (collection : String) (parts : Path) : ∃ rest, layerParts collection parts = collection :: rest := by
  unfold layerParts
  split
  · rename_i named
    cases parts with
    | nil => simp at named
    | cons name rest => exact ⟨rest, by simpa using named⟩
  · exact ⟨parts, rfl⟩

theorem layerPath_plain (plain : PlainDirectory files cwd packageDir root) {collection path : String}
    (proper : RealName collection) {r : Path} : layerPath files cwd packageDir collection path = .ok r ↔
      (∃ relative, strictRelativePath path s!"{collection} artifact" = .ok relative) ∧
        r = root ++ layerParts collection (PurePath.parse path).parts ∧ NullFree r := by
  rw [layerPath_ok]
  constructor
  · rintro ⟨relative, layerRoot, parsed, -, found, -, free⟩
    obtain ⟨rfl, -, -, real⟩ := strictRelativePath_ok.mp parsed
    rw [plain.resolve (layerParts_real proper real)] at found
    exact ⟨⟨_, parsed⟩, (Option.some.inj found).symm, free⟩
  · rintro ⟨⟨relative, parsed⟩, rfl, free⟩
    obtain ⟨rfl, -, -, real⟩ := strictRelativePath_ok.mp parsed
    obtain ⟨rest, starts⟩ := layerParts_cons collection (PurePath.parse path).parts
    refine ⟨_, root ++ [collection], parsed, plain.resolve (by simpa using proper),
      plain.resolve (layerParts_real proper real), ?_, free⟩
    rw [starts, List.prefix_append_right_inj]
    exact ⟨rest, rfl⟩

theorem toolRootPath_plain (plain : PlainDirectory files cwd packageDir root) {path : String} {r : Path} :
    toolRootPath files cwd packageDir path = .ok r ↔
      (∃ relative, strictRelativePath path "tool package root" = .ok relative) ∧
        (PurePath.parse path).parts.take 1 = ["mcp"] ∧ r = root ++ (PurePath.parse path).parts ∧ NullFree r := by
  rw [toolRootPath_ok]
  constructor
  · rintro ⟨relative, mcpRoot, parsed, layer, -, found, -, free⟩
    obtain ⟨rfl, -, -, real⟩ := strictRelativePath_ok.mp parsed
    rw [plain.resolve real] at found
    exact ⟨⟨_, parsed⟩, layer, (Option.some.inj found).symm, free⟩
  · rintro ⟨⟨relative, parsed⟩, layer, rfl, free⟩
    obtain ⟨rfl, -, -, real⟩ := strictRelativePath_ok.mp parsed
    refine ⟨_, root ++ ["mcp"], parsed, layer, plain.resolve (by decide), plain.resolve real, ?_, free⟩
    rw [List.prefix_append_right_inj, ← layer]
    exact List.take_prefix 1 _

theorem toolEntrypoint_plain (plain : PlainDirectory files cwd packageDir root) {parts : Path}
    (real : ∀ name ∈ parts, RealName name) {entrypoint : String} {r : Path} :
    toolEntrypoint files cwd (root ++ parts) entrypoint = .ok r ↔
      (∃ relative, strictRelativePath entrypoint "MCP server entrypoint" = .ok relative) ∧
        r = root ++ parts ++ (PurePath.parse entrypoint).parts ∧ NullFree r ∧
        ∃ contents, files.get? r = some (.file contents) := by
  have regular : ∀ {r}, files.IsLocation r → (files.isFile r = true ↔ ∃ contents, files.get? r = some (.file contents)) := by
    intro r location
    rw [FileSystem.isFile, FileSystem.node?_location location]
    cases files.get? r with
    | none => simp
    | some node => cases node <;> simp [Node.isFile]
  have there : ∀ {below : Path}, (∀ name ∈ below, RealName name) → files.IsLocation (root ++ parts ++ below) := by
    intro below realBelow
    rw [List.append_assoc]
    exact plain.location (List.forall_mem_append.mpr ⟨real, realBelow⟩)
  rw [toolEntrypoint_ok]
  constructor
  · rintro ⟨relative, parsed, found, -, free, file⟩
    obtain ⟨rfl, -, -, realBelow⟩ := strictRelativePath_ok.mp parsed
    obtain rfl := Option.some.inj ((FileSystem.resolve_location (there realBelow)).symm.trans found)
    exact ⟨⟨_, parsed⟩, rfl, free, (regular (there realBelow)).mp file⟩
  · rintro ⟨⟨relative, parsed⟩, rfl, free, file⟩
    obtain ⟨rfl, -, -, realBelow⟩ := strictRelativePath_ok.mp parsed
    exact ⟨_, parsed, FileSystem.resolve_location (there realBelow), List.prefix_append _ _, free,
      (regular (there realBelow)).mpr file⟩

theorem pathExists_of_sha256Path {r : Path} {digest : String} (digested : sha256Path sha256 files r = .ok digest) :
    files.pathExists r = true := by
  unfold sha256Path at digested
  rw [FileSystem.pathExists]
  cases here : files.node? r with
  | some node => rfl
  | none =>
    simp only [here] at digested
    split at digested <;> cases digested

theorem artifactDigest_plain (plain : PlainDirectory files cwd packageDir root) {collection path digest : String}
    (proper : RealName collection) : ArtifactDigest sha256 files cwd packageDir collection path digest ↔
      (∃ relative, strictRelativePath path s!"{collection} artifact" = .ok relative) ∧
        NullFree (root ++ layerParts collection (PurePath.parse path).parts) ∧
        sha256Path sha256 files (root ++ layerParts collection (PurePath.parse path).parts) = .ok digest := by
  constructor
  · rintro ⟨r, resolved, digested⟩
    obtain ⟨parsed, rfl, free⟩ := (layerPath_plain plain proper).mp (artifactPath_ok.mp resolved).1
    exact ⟨parsed, free, digested⟩
  · rintro ⟨parsed, free, digested⟩
    have resolved := (layerPath_plain plain proper).mpr ⟨parsed, rfl, free⟩
    exact ⟨_, artifactPath_ok.mpr ⟨resolved, pathExists_of_sha256Path digested⟩, digested⟩

end Plain

/-! ### What saving leaves as it was -/

/-- Directories and the manifest aside, the package directory holds the same. -/
structure Kept (files files' : FileSystem) (root : Path) : Prop where
  grows : Grows files files'
  files : ∀ q contents, q ≠ ["package.yaml"] →
    (files.get? (root ++ q) = some (.file contents) ↔ files'.get? (root ++ q) = some (.file contents))

section Kept

variable {sha256 : ByteArray → String} {files files' files'' : FileSystem} {cwd root : Path} {packageDir : PurePath}
  {p : AgentPackage}

theorem Kept.trans (first : Kept files files' root) (second : Kept files' files'' root) : Kept files files'' root :=
  ⟨first.grows.trans second.grows, fun q contents other => (first.files q contents other).trans (second.files q contents other)⟩

theorem kept_of_layer {name : String} (changed : Changed files files' (root ++ [name]) .dir)
    (room : files.get? (root ++ [name]) = none ∨ files.get? (root ++ [name]) = some .dir) : Kept files files' root := by
  have was : ∀ node, files.get? (root ++ [name]) = some node → node = .dir := by
    intro node here
    rcases room with free | taken
    · simp [free] at here
    · exact Option.some.inj (here.symm.trans taken)
  refine ⟨changed.grows rfl (fun target linked => by cases was _ linked) fun _ => rfl, ?_⟩
  intro q contents _
  by_cases here : root ++ q = root ++ [name]
  · rw [here, changed.there]
    constructor
    · exact fun found => by cases was _ found
    · exact fun found => by cases Option.some.inj found
  · rw [changed.elsewhere _ here]

theorem kept_of_manifest {contents : ByteArray} (changed : Changed files files' (root ++ ["package.yaml"]) (.file contents))
    (plain : ∀ target, files.get? (root ++ ["package.yaml"]) ≠ some (.link target))
    (leaf : files.get? (root ++ ["package.yaml"]) ≠ some .dir) : Kept files files' root := by
  refine ⟨changed.grows rfl plain fun dir => absurd dir leaf, ?_⟩
  intro q contents other
  rw [changed.elsewhere _ fun same => other (List.append_cancel_left same)]

theorem beside_manifest {name : String} {rest : Path} (other : name ≠ "package.yaml") (q : Path) :
    name :: rest ++ q ≠ ["package.yaml"] := fun same => other (List.cons.inj same).1

theorem layerParts_beside {collection : String} (other : collection ≠ "package.yaml") (parts q : Path) :
    layerParts collection parts ++ q ≠ ["package.yaml"] := by
  obtain ⟨rest, starts⟩ := layerParts_cons collection parts
  rw [starts]
  exact beside_manifest other q

theorem mcp_beside {parts : Path} (layer : parts.take 1 = ["mcp"]) (q : Path) : parts ++ q ≠ ["package.yaml"] := by
  cases parts with
  | nil => simp at layer
  | cons name rest =>
    obtain rfl : name = "mcp" := by simpa using layer
    exact beside_manifest (by decide) q

theorem treeFiles_kept (plain : PlainDirectory files cwd packageDir root) (kept : Kept files files' root) {parts : Path}
    (real : ∀ name ∈ parts, RealName name) (beside : ∀ q, parts ++ q ≠ ["package.yaml"])
    (present : (files.get? (root ++ parts)).isSome) : treeFiles files (root ++ parts) = treeFiles files' (root ++ parts) := by
  refine treeFiles_congr (plain.location real) present ((plain.grows kept.grows).location real) (kept.grows.present _ present) ?_
  intro q contents _
  rw [List.append_assoc]
  exact kept.files _ contents (beside q)

theorem sha256Path_kept (plain : PlainDirectory files cwd packageDir root) (kept : Kept files files' root) {parts : Path}
    (real : ∀ name ∈ parts, RealName name) (beside : ∀ q, parts ++ q ≠ ["package.yaml"]) {digest : String}
    (digested : sha256Path sha256 files (root ++ parts) = .ok digest) :
    sha256Path sha256 files' (root ++ parts) = .ok digest := by
  have plain' := plain.grows kept.grows
  rw [sha256Path_ok (plain'.location real)]
  rcases (sha256Path_ok (plain.location real)).mp digested with ⟨contents, file, same⟩ | ⟨dir, -, bytes, encoded, same⟩
  · have aside : parts ≠ ["package.yaml"] := by simpa using beside []
    exact Or.inl ⟨contents, (kept.files parts contents aside).mp file, same⟩
  · have dir' := kept.grows.dirs _ dir
    refine Or.inr ⟨dir', ?_, bytes, ?_, same⟩
    · rintro ⟨q, node⟩ listed
      have here := ((FileSystem.mem_rglob (plain'.location real) (by rw [dir']; rfl)).mp listed).2
      rw [List.append_assoc] at here
      cases node with
      | link target => exact absurd here (plain'.noLinks _ target)
      | _ => rfl
    · rw [← treeFiles_kept plain kept real beside (by rw [dir]; rfl)]
      exact encoded

theorem artifactDigest_kept (plain : PlainDirectory files cwd packageDir root) (kept : Kept files files' root)
    {collection path digest : String} (proper : RealName collection) (other : collection ≠ "package.yaml")
    (digested : ArtifactDigest sha256 files cwd packageDir collection path digest) :
    ArtifactDigest sha256 files' cwd packageDir collection path digest := by
  obtain ⟨⟨relative, parsed⟩, free, hashed⟩ := (artifactDigest_plain plain proper).mp digested
  obtain ⟨-, -, -, real⟩ := strictRelativePath_ok.mp parsed
  obtain rfl := (strictRelativePath_ok.mp parsed).1
  exact (artifactDigest_plain (plain.grows kept.grows) proper).mpr
    ⟨⟨_, parsed⟩, free, sha256Path_kept plain kept (layerParts_real proper real) (layerParts_beside other _) hashed⟩

theorem toolEntrypoint_kept (plain : PlainDirectory files cwd packageDir root) (kept : Kept files files' root)
    {path entrypoint : String} {toolRoot r : Path} (resolved : toolRootPath files cwd packageDir path = .ok toolRoot)
    (entry : toolEntrypoint files cwd toolRoot entrypoint = .ok r) : toolRootPath files' cwd packageDir path = .ok toolRoot ∧
      toolEntrypoint files' cwd toolRoot entrypoint = .ok r := by
  have plain' := plain.grows kept.grows
  obtain ⟨⟨relative, parsed⟩, layer, rfl, free⟩ := (toolRootPath_plain plain).mp resolved
  obtain ⟨rfl, -, -, real⟩ := strictRelativePath_ok.mp parsed
  obtain ⟨entryParsed, rfl, entryFree, contents, file⟩ := (toolEntrypoint_plain plain real).mp entry
  refine ⟨(toolRootPath_plain plain').mpr ⟨⟨_, parsed⟩, layer, rfl, free⟩, ?_⟩
  refine (toolEntrypoint_plain plain' real).mpr ⟨entryParsed, rfl, entryFree, contents, ?_⟩
  rw [List.append_assoc] at file ⊢
  exact (kept.files _ contents (mcp_beside layer _)).mp file

theorem verified_kept (plain : PlainDirectory files cwd packageDir root) (kept : Kept files files' root)
    (verified : Verified sha256 files cwd p packageDir) : Verified sha256 files' cwd p packageDir := by
  refine ⟨fun a member => artifactDigest_kept plain kept (by decide) (by decide) (verified.knowledge a member),
    fun a member => artifactDigest_kept plain kept (by decide) (by decide) (verified.skills a member), ?_⟩
  obtain ⟨toolRoot, entrypoint, resolved, -, entry, digested⟩ := verified.tools
  obtain ⟨resolved', entry'⟩ := toolEntrypoint_kept plain kept resolved entry
  obtain ⟨⟨relative, parsed⟩, layer, rfl, -⟩ := (toolRootPath_plain plain).mp resolved
  obtain ⟨rfl, -, -, real⟩ := strictRelativePath_ok.mp parsed
  have hashed := sha256Path_kept plain kept real (mcp_beside layer) digested
  exact ⟨_, _, resolved', pathExists_of_sha256Path hashed, entry', hashed⟩

end Kept

end AgentGym.Core
