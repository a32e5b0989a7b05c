import AgentGym.Lib.Files
import AgentGym.World.Page

/-!
# Agent packages

A package is a manifest over artifact files: knowledge and skill documents and a tree of
tools. The manifest holds a digest of each, taken when the package is saved and compared
when it is loaded. A path in the manifest is resolved, links and all, before anything else
is asked of it.
-/

namespace AgentGym.Core

open Files (FileSystem Node Path PurePath OsError asPosix)
open World (strField intField)

/-! ### Manifests -/

structure KnowledgeArtifact where
  path : String
  sha256 : String
  tags : List String

structure SkillArtifact where
  path : String
  sha256 : String

structure ToolPackage where
  root : String
  serverEntrypoint : String
  sha256 : String
  declaredCapabilities : List String

structure AgentPackage where
  id : String
  version : String
  generation : Int
  parentId : Option String
  knowledge : List KnowledgeArtifact
  skills : List SkillArtifact
  tools : ToolPackage
  metadata : Dict String Json

inductive PackageError where
  /-- `PackageIntegrityError` -/
  | integrity (message : String)
  | value (message : String)
  | fileNotFound (message : String)
  | notADirectory (message : String)
  | os (e : OsError)
  | overflow
  | symlinkLoop
  | yaml
  | validation
  deriving DecidableEq

def KnowledgeArtifact.modelDump (a : KnowledgeArtifact) : Json :=
  .obj [("path", .str a.path), ("sha256", .str a.sha256), ("tags", .arr (a.tags.map .str))]

def SkillArtifact.modelDump (a : SkillArtifact) : Json := .obj [("path", .str a.path), ("sha256", .str a.sha256)]

def ToolPackage.modelDump (t : ToolPackage) : Json :=
  .obj [("root", .str t.root), ("server_entrypoint", .str t.serverEntrypoint), ("sha256", .str t.sha256),
    ("declared_capabilities", .arr (t.declaredCapabilities.map .str))]

def AgentPackage.modelDump (p : AgentPackage) : Json :=
  .obj [("id", .str p.id), ("version", .str p.version), ("generation", .int p.generation),
    ("parent_id", (p.parentId.map Json.str).getD .null), ("knowledge", .arr (p.knowledge.map (·.modelDump))),
    ("skills", .arr (p.skills.map (·.modelDump))), ("tools", p.tools.modelDump), ("metadata", .ofDict p.metadata)]

/-! ### Validation -/

def listField {α : Type} (item : Json → Except World.PyError α) (v : Json) (name : String) : Except World.PyError (List α) :=
  match v.get? name with
  | some (.arr values) => values.mapM item
  | _ => .error .validationError

def strItem : Json → Except World.PyError String
  | .str s => .ok s
  | _ => .error .validationError

def KnowledgeArtifact.modelValidate (v : Json) : Except World.PyError KnowledgeArtifact := do
  let path ← strField v "path"
  let sha256 ← strField v "sha256"
  let tags ← listField strItem v "tags"
  pure { path, sha256, tags }

def SkillArtifact.modelValidate (v : Json) : Except World.PyError SkillArtifact := do
  let path ← strField v "path"
  let sha256 ← strField v "sha256"
  pure { path, sha256 }

def ToolPackage.modelValidate (v : Json) : Except World.PyError ToolPackage := do
  let root ← strField v "root"
  let serverEntrypoint ← strField v "server_entrypoint"
  let sha256 ← strField v "sha256"
  let declaredCapabilities ← listField strItem v "declared_capabilities"
  pure { root, serverEntrypoint, sha256, declaredCapabilities }

/-- `str | None`, which must be given. -/
def optionalStrField (v : Json) (name : String) : Except World.PyError (Option String) :=
  match v.get? name with
  | some .null => .ok none
  | some (.str s) => .ok (some s)
  | _ => .error .validationError

def dictField (v : Json) (name : String) : Except World.PyError (Dict String Json) :=
  match v.get? name with
  | some (.obj kvs) => .ok (Dict.ofEntries kvs)
  | _ => .error .validationError

def AgentPackage.modelValidate [LaxInt] (v : Json) : Except World.PyError AgentPackage := do
  let id ← strField v "id"
  let version ← strField v "version"
  let generation ← intField v "generation" none
  let parentId ← optionalStrField v "parent_id"
  let knowledge ← listField KnowledgeArtifact.modelValidate v "knowledge"
  let skills ← listField SkillArtifact.modelValidate v "skills"
  let tools ← ToolPackage.modelValidate (orMissing (v.get? "tools"))
  let metadata ← dictField v "metadata"
  pure { id, version, generation, parentId, knowledge, skills, tools, metadata }
where
  orMissing : Option Json → Json
    | some v => v
    | none => .null

/-- The capabilities a tool package declares beyond the allowed ones are an error. -/
def ToolPackage.validateCapabilities (t : ToolPackage) (allowed : List String) : Except PackageError Unit :=
  let undeclared := ((t.declaredCapabilities.filter fun c => !allowed.contains c).dedup).insertionSort (· ≤ ·)
  if undeclared = [] then .ok ()
  else
    let capabilities := ", ".intercalate undeclared
    .error (.value s!"Tool package declares unavailable capabilities: {capabilities}")

/-! ### Paths -/

/-- `_package_directory`. -/
def packageDirectory (path : PurePath) : PurePath := if path.name = "package.yaml" then path.parent else path

/-- `path / name`, for a name without slashes. -/
def child (path : PurePath) (name : String) : PurePath := ⟨path.absolute, path.parts ++ [name]⟩

def showPath (p : Path) : String := "/" ++ asPosix p

/-- No name has a null character, which no path of the system can have. -/
abbrev NullFree (p : Path) : Prop := ∀ name ∈ p, '\x00' ∉ name.toList

/-- `_strict_relative_path`. -/
def strictRelativePath (path field : String) : Except PackageError PurePath :=
  let relative := PurePath.parse path
  if relative.absolute ∨ relative.parts = [] then
    .error (.value s!"{field} must be a non-empty relative path: {path}")
  else if relative.parts.any fun part => part = "." ∨ part = ".." then
    .error (.value s!"{field} must not contain traversal components: {path}")
  else .ok relative

section Resolving

variable (files : FileSystem) (cwd : Path)

/-- `path.resolve()`. A loop of links is an error, here or where the path is used. -/
def resolvePath (path : PurePath) : Except PackageError Path :=
  match files.resolve (path.located cwd) with
  | some location =>
    -- `lstat` is asked about every name of the location, and takes no null character.
    if NullFree location then .ok location else .error (.value "lstat: embedded null character in path")
  | none => .error .symlinkLoop

/-- `_layer_path`. -/
def layerPath (packageDir : PurePath) (collection path : String) : Except PackageError Path := do
  let relative ← strictRelativePath path s!"{collection} artifact"
  -- The check that the path crosses package layers looks a tuple up among strings: it never fires.
  let candidate := if relative.parts.take 1 = [collection] then packageDir.join relative
    else (child packageDir collection).join relative
  let layerRoot ← resolvePath files cwd (child packageDir collection)
  let resolved ← resolvePath files cwd candidate
  if layerRoot.isPrefixOf resolved then pure resolved
  else throw (.value s!"{collection} artifact path escapes its layer: {path}")

/-- `_artifact_path`. -/
def artifactPath (packageDir : PurePath) (collection path : String) : Except PackageError Path := do
  let candidate ← layerPath files cwd packageDir collection path
  if files.pathExists candidate then pure candidate
  else throw (.fileNotFound s!"Artifact file does not exist: {path}")

/-- `_tool_root_path`. -/
def toolRootPath (packageDir : PurePath) (root : String) : Except PackageError Path := do
  let relative ← strictRelativePath root "tool package root"
  if relative.parts.take 1 = ["mcp"] then
    let mcpRoot ← resolvePath files cwd (child packageDir "mcp")
    let resolved ← resolvePath files cwd (packageDir.join relative)
    if mcpRoot.isPrefixOf resolved then pure resolved
    else throw (.value s!"Tool package root escapes the mcp layer: {root}")
  else throw (.value s!"Tool package root must be under the mcp layer: {root}")

/-- `_tool_entrypoint`. -/
def toolEntrypoint (toolRoot : Path) (entrypoint : String) : Except PackageError Path := do
  let relative ← strictRelativePath entrypoint "MCP server entrypoint"
  let candidate ← resolvePath files cwd (PurePath.join ⟨true, toolRoot⟩ relative)
  if toolRoot.isPrefixOf candidate then
    if files.isFile candidate then pure candidate
    else throw (.fileNotFound s!"MCP server entrypoint does not exist: {entrypoint}")
  else throw (.value s!"MCP server entrypoint escapes tool root: {entrypoint}")

end Resolving

/-! ### Digests -/

/-- `n.to_bytes(8, "big")`. -/
def toBytes (n : Nat) : Except PackageError (List UInt8) :=
  if n < 18446744073709551616 then .ok ((List.range 8).map fun i => UInt8.ofNat (n / Nat.pow 256 (7 - i)))
  else .error .overflow

/-- What is fed to the digest of a tree: each path and each file after its length. -/
def treeBytes : List (String × ByteArray) → Except PackageError (List UInt8)
  | [] => .ok []
  | (path, contents) :: rest => do
    let relative := path.toUTF8.data.toList
    let pathLength ← toBytes relative.length
    let contentsLength ← toBytes contents.size
    let rest ← treeBytes rest
    pure (pathLength ++ relative ++ contentsLength ++ contents.data.toList ++ rest)

/-- The regular files below a path, by their paths from there, in order. -/
def treeFiles (files : FileSystem) (path : Path) : List (String × ByteArray) :=
  ((files.rglob path).filterMap fun (relative, node) => match node with
    | .file contents => some (asPosix relative, contents)
    | _ => none).insertionSort fun a b => a.1 ≤ b.1

section Digests

variable (sha256 : ByteArray → String) (files : FileSystem)

/-- `_sha256_path`. -/
def sha256Path (path : Path) : Except PackageError String :=
  let shown := showPath path
  if files.isSymlink path then .error (.value s!"Symlinks are not allowed in package artifacts: {shown}")
  else
    match files.node? path with
    | some (.file contents) => .ok (sha256 contents)
    | some .dir =>
      if (files.rglob path).any fun entry => entry.2.isLink then
        .error (.value s!"Symlinks are not allowed in tool package trees: {shown}")
      else (treeBytes (treeFiles files path)).map fun bytes => sha256 ⟨bytes.toArray⟩
    | _ => .error (.fileNotFound s!"Artifact path does not exist: {shown}")

end Digests

/-- A YAML library, on encoded documents. -/
class PyYaml where
  safeDump : Json → ByteArray
  safeLoad : ByteArray → Option Json

namespace AgentPackage

/-! ### Verifying -/

section Verifying

variable (sha256 : ByteArray → String) (files : FileSystem) (cwd : Path) (p : AgentPackage)

/-- `_computed_hashes`: of the knowledge, of the skills and of the tools. -/
def computedHashes (packageDir : PurePath) : Except PackageError (List String) := do
  let knowledgeHashes ← p.knowledge.mapM fun artifact => do
    sha256Path sha256 files (← artifactPath files cwd packageDir "knowledge" artifact.path)
  let skillHashes ← p.skills.mapM fun artifact => do
    sha256Path sha256 files (← artifactPath files cwd packageDir "skills" artifact.path)
  let toolRoot ← toolRootPath files cwd packageDir p.tools.root
  let shown := showPath toolRoot
  if files.pathExists toolRoot then
    let _ ← toolEntrypoint files cwd toolRoot p.tools.serverEntrypoint
    let toolHash ← sha256Path sha256 files toolRoot
    pure (knowledgeHashes ++ skillHashes ++ [toolHash])
  else throw (.fileNotFound s!"Tool package root does not exist: {shown}")

/-- `_stored_hashes`. -/
def storedHashes : List String :=
  p.knowledge.map (·.sha256) ++ p.skills.map (·.sha256) ++ [p.tools.sha256]

/-- A missing file is a mismatch; other exceptions go through. -/
def missingAsMismatch : PackageError → PackageError
  | .fileNotFound _ => .integrity "Agent package artifact files do not match the manifest"
  | e => e

def verifyHashes (path : PurePath) : Except PackageError Unit := do
  let expected ← (computedHashes sha256 files cwd p (packageDirectory path)).mapError missingAsMismatch
  if expected = p.storedHashes then pure ()
  else throw (.integrity "Agent package artifact hashes do not match files on disk")

/-- `zip(xs, ys, strict=True)`. -/
def zipStrict {α β : Type} (xs : List α) (ys : List β) : Except PackageError (List (α × β)) :=
  if xs.length = ys.length then .ok (xs.zip ys) else .error (.value "zip() argument 2 is shorter than argument 1")

/-- `_set_hashes`: the computed list is cut up by the numbers of artifacts. -/
def setHashes (packageDir : PurePath) : Except PackageError AgentPackage := do
  let computed ← computedHashes sha256 files cwd p packageDir
  let knowledgeCount := p.knowledge.length
  let skillCount := p.skills.length
  let knowledge ← zipStrict p.knowledge (computed.take knowledgeCount)
  let skills ← zipStrict p.skills ((computed.drop knowledgeCount).take skillCount)
  pure { p with
    knowledge := knowledge.map fun (artifact, digest) => { artifact with sha256 := digest }
    skills := skills.map fun (artifact, digest) => { artifact with sha256 := digest }
    tools := { p.tools with sha256 := computed.getLast?.getD "" } }

end Verifying

/-! ### Loading and saving -/

section Persisting

variable [LaxInt] [PyYaml] (sha256 : ByteArray → String) (files : FileSystem) (cwd : Path)

def validateCapabilities (p : AgentPackage) : (domain : Option (List String)) → Except PackageError Unit
  | none => .ok ()
  | some allowed => p.tools.validateCapabilities allowed

/-- `open(path)` for reading. -/
def readFile (path : PurePath) : Except PackageError ByteArray :=
  match files.node? (path.located cwd) with
  | some (.file contents) => .ok contents
  | some .dir => .error (.os .isADirectory)
  | _ => .error (.os .fileNotFound)

def fromDirectory (path : PurePath) (domain : Option (List String)) : Except PackageError AgentPackage := do
  let packageDir := packageDirectory path
  let shown := showPath (packageDir.located cwd)
  if files.isDir (packageDir.located cwd) then
    let manifest ← readFile files cwd (child packageDir "package.yaml")
    match PyYaml.safeLoad manifest with
    | none => throw .yaml
    | some data =>
      let package ← (AgentPackage.modelValidate data).mapError fun _ => PackageError.validation
      verifyHashes sha256 files cwd package packageDir
      package.validateCapabilities domain
      pure package
  else throw (.notADirectory s!"Package directory does not exist: {shown}")

def fromYaml (path : PurePath) (domain : Option (List String)) : Except PackageError AgentPackage :=
  if path.name = "package.yaml" then fromDirectory sha256 files cwd path.parent domain
  else .error (.value "Agent package manifests must be named package.yaml")

def load (path : PurePath) (domain : Option (List String)) : Except PackageError AgentPackage :=
  if files.isFile (path.located cwd) then fromYaml sha256 files cwd path domain
  else fromDirectory sha256 files cwd path domain

/-- `save`: the file system afterwards, and the package with its digests. -/
def save (p : AgentPackage) (path : PurePath) (domain : Option (List String)) :
    Except PackageError (FileSystem × AgentPackage) := do
  p.validateCapabilities domain
  let packageDir := packageDirectory path
  let dir := packageDir.located cwd
  let files ← (files.makeDirs dir.length dir).mapError PackageError.os
  let files ← (files.ensureDir ((child packageDir "knowledge").located cwd)).mapError PackageError.os
  let files ← (files.ensureDir ((child packageDir "skills").located cwd)).mapError PackageError.os
  let toolRoot ← toolRootPath files cwd packageDir p.tools.root
  let files ← (files.makeDirs toolRoot.length toolRoot).mapError PackageError.os
  let p ← setHashes sha256 files cwd p packageDir
  let files ← (files.writeBytes ((child packageDir "package.yaml").located cwd) (PyYaml.safeDump p.modelDump)).mapError
    PackageError.os
  pure (files, p)

end Persisting

end AgentPackage

/-! ### What success says -/

abbrev RealName (name : String) : Prop := name ≠ "" ∧ name ≠ "." ∧ name ≠ ".."

theorem strictRelativePath_ok {path field : String} {relative : PurePath} :
    strictRelativePath path field = .ok relative ↔ relative = PurePath.parse path ∧ relative.absolute = false ∧
      relative.parts ≠ [] ∧ ∀ name ∈ relative.parts, RealName name := by
  have kept : ∀ name ∈ (PurePath.parse path).parts, name ≠ "" ∧ name ≠ "." := by
    intro name member
    simpa using (List.mem_filter.mp member).2
  unfold strictRelativePath
  dsimp only
  constructor
  · intro parsed
    split at parsed
    · simp at parsed
    · rename_i relativePath
      split at parsed
      · simp at parsed
      · rename_i straight
        obtain rfl := Except.ok.inj parsed
        obtain ⟨notAbsolute, nonempty⟩ := not_or.mp relativePath
        refine ⟨rfl, by simpa using notAbsolute, nonempty, ?_⟩
        intro name member
        refine ⟨(kept name member).1, (kept name member).2, ?_⟩
        rintro rfl
        exact straight (List.any_eq_true.mpr ⟨"..", member, by simp⟩)
  · rintro ⟨rfl, notAbsolute, nonempty, real⟩
    rw [if_neg (by simp [notAbsolute, nonempty]), if_neg]
    intro dots
    obtain ⟨name, member, dot⟩ := List.any_eq_true.mp dots
    obtain ⟨-, notDot, notDotDot⟩ := real name member
    simp [notDot, notDotDot] at dot

theorem resolvePath_ok {files : FileSystem} {cwd r : Path} {path : PurePath} :
    resolvePath files cwd path = .ok r ↔ files.resolve (path.located cwd) = some r ∧ NullFree r := by
  unfold resolvePath
  cases files.resolve (path.located cwd) with
  | none => simp
  | some location =>
    dsimp only
    split
    · rename_i free
      constructor
      · rintro ⟨⟩
        exact ⟨rfl, free⟩
      · rintro ⟨⟨⟩, -⟩
        rfl
    · rename_i null
      refine ⟨nofun, ?_⟩
      rintro ⟨⟨⟩, free⟩
      exact absurd free null

theorem nullFree_prefix {p q : Path} (start : p <+: q) (free : NullFree q) : NullFree p :=
  fun name member => free name (start.subset member)

/-- Where an artifact lies in the package, by its path: below its layer, named there or not. -/
def layerParts (collection : String) (parts : Path) : Path :=
  if parts.take 1 = [collection] then parts else collection :: parts

theorem located_join {cwd : Path} {packageDir relative : PurePath} (isRelative : relative.absolute = false) :
    (packageDir.join relative).located cwd = packageDir.located cwd ++ relative.parts := by
  have joined : packageDir.join relative = ⟨packageDir.absolute, packageDir.parts ++ relative.parts⟩ := by
    rw [PurePath.join, if_neg (by simp [isRelative])]
  rw [joined]
  unfold PurePath.located
  cases packageDir.absolute <;> simp

theorem located_child {cwd : Path} {packageDir : PurePath} {name : String} :
    (child packageDir name).located cwd = packageDir.located cwd ++ [name] := by
  unfold child PurePath.located
  cases packageDir.absolute <;> simp

section Success

variable {files : FileSystem} {cwd : Path} {packageDir : PurePath}

/-- Where `_layer_path` looks, whether or not the layer is named. -/
theorem located_candidate {collection : String} {relative : PurePath} (isRelative : relative.absolute = false) :
    (if relative.parts.take 1 = [collection] then packageDir.join relative
      else (child packageDir collection).join relative).located cwd =
      packageDir.located cwd ++ layerParts collection relative.parts := by
  unfold layerParts
  split
  · exact located_join isRelative
  · rw [located_join isRelative, located_child, List.append_assoc, List.singleton_append]

theorem layerPath_ok {collection path : String} {r : Path} :
    layerPath files cwd packageDir collection path = .ok r ↔ ∃ relative layerRoot,
      strictRelativePath path s!"{collection} artifact" = .ok relative ∧
      files.resolve (packageDir.located cwd ++ [collection]) = some layerRoot ∧
      files.resolve (packageDir.located cwd ++ layerParts collection relative.parts) = some r ∧ layerRoot <+: r ∧
      NullFree r := by
  simp only [layerPath, bind_eq_ok_iff, resolvePath_ok, located_child, checked_eq_ok_iff, pure_eq_ok_iff,
    List.isPrefixOf_iff_prefix]
  constructor
  · rintro ⟨relative, parsed, layerRoot, ⟨root, -⟩, r, ⟨found, free⟩, within, rfl⟩
    rw [located_candidate (strictRelativePath_ok.mp parsed).2.1] at found
    exact ⟨relative, layerRoot, parsed, root, found, within, free⟩
  · rintro ⟨relative, layerRoot, parsed, root, found, within, free⟩
    rw [← located_candidate (strictRelativePath_ok.mp parsed).2.1] at found
    exact ⟨relative, parsed, layerRoot, ⟨root, nullFree_prefix within free⟩, r, ⟨found, free⟩, within, rfl⟩

theorem artifactPath_ok {collection path : String} {r : Path} :
    artifactPath files cwd packageDir collection path = .ok r ↔
      layerPath files cwd packageDir collection path = .ok r ∧ files.pathExists r = true := by
  simp only [artifactPath, bind_eq_ok_iff, checked_eq_ok_iff, pure_eq_ok_iff]
  constructor
  · rintro ⟨r, found, present, rfl⟩
    exact ⟨found, present⟩
  · rintro ⟨found, present⟩
    exact ⟨r, found, present, rfl⟩

theorem toolRootPath_ok {root : String} {r : Path} :
    toolRootPath files cwd packageDir root = .ok r ↔ ∃ relative mcpRoot,
      strictRelativePath root "tool package root" = .ok relative ∧ relative.parts.take 1 = ["mcp"] ∧
      files.resolve (packageDir.located cwd ++ ["mcp"]) = some mcpRoot ∧
      files.resolve (packageDir.located cwd ++ relative.parts) = some r ∧ mcpRoot <+: r ∧ NullFree r := by
  simp only [toolRootPath, bind_eq_ok_iff, resolvePath_ok, located_child, checked_eq_ok_iff, pure_eq_ok_iff,
    List.isPrefixOf_iff_prefix]
  constructor
  · rintro ⟨relative, parsed, layer, mcpRoot, ⟨base, -⟩, r, ⟨found, free⟩, within, rfl⟩
    rw [located_join (strictRelativePath_ok.mp parsed).2.1] at found
    exact ⟨relative, mcpRoot, parsed, layer, base, found, within, free⟩
  · rintro ⟨relative, mcpRoot, parsed, layer, base, found, within, free⟩
    rw [← located_join (strictRelativePath_ok.mp parsed).2.1] at found
    exact ⟨relative, parsed, layer, mcpRoot, ⟨base, nullFree_prefix within free⟩, r, ⟨found, free⟩, within, rfl⟩

theorem toolEntrypoint_ok {toolRoot r : Path} {entrypoint : String} :
    toolEntrypoint files cwd toolRoot entrypoint = .ok r ↔ ∃ relative,
      strictRelativePath entrypoint "MCP server entrypoint" = .ok relative ∧
      files.resolve (toolRoot ++ relative.parts) = some r ∧ toolRoot <+: r ∧ NullFree r ∧ files.isFile r = true := by
  simp only [toolEntrypoint, bind_eq_ok_iff, resolvePath_ok, checked_eq_ok_iff, pure_eq_ok_iff, List.isPrefixOf_iff_prefix]
  constructor
  · rintro ⟨relative, parsed, r, ⟨found, free⟩, within, file, rfl⟩
    rw [located_join (strictRelativePath_ok.mp parsed).2.1] at found
    exact ⟨relative, parsed, found, within, free, file⟩
  · rintro ⟨relative, parsed, found, within, free, file⟩
    have joined : (PurePath.join ⟨true, toolRoot⟩ relative).located cwd = toolRoot ++ relative.parts :=
      located_join (strictRelativePath_ok.mp parsed).2.1
    exact ⟨relative, parsed, r, ⟨joined ▸ found, free⟩, within, file, rfl⟩

end Success

section Digested

variable {sha256 : ByteArray → String} {files : FileSystem} {cwd : Path} {packageDir : PurePath}

theorem sha256Path_ok {r : Path} (location : files.IsLocation r) {digest : String} :
    sha256Path sha256 files r = .ok digest ↔
      (∃ contents, files.get? r = some (.file contents) ∧ digest = sha256 contents) ∨
      (files.get? r = some .dir ∧ (∀ entry ∈ files.rglob r, entry.2.isLink = false) ∧
        ∃ bytes, treeBytes (treeFiles files r) = .ok bytes ∧ digest = sha256 ⟨bytes.toArray⟩) := by
  simp only [sha256Path, FileSystem.isSymlink_location location, FileSystem.node?_location location]
  cases files.get? r with
  | none => simp
  | some node =>
    cases node with
    | file contents =>
      simp only [Bool.false_eq_true, if_false, Except.ok.injEq, Option.some.injEq, Node.file.injEq, exists_eq_left',
        reduceCtorEq, false_and, or_false]
      exact eq_comm
    | link target => simp
    | dir =>
      simp only [Bool.false_eq_true, if_false, reduceCtorEq, Option.some.injEq, false_and, exists_false, true_and, false_or]
      by_cases linked : ((files.rglob r).any fun entry => entry.2.isLink) = true
      · rw [if_pos linked]
        obtain ⟨entry, member, isLink⟩ := List.any_eq_true.mp linked
        simp only [reduceCtorEq, false_iff, not_and]
        intro plain
        simp [plain entry member] at isLink
      · rw [if_neg linked]
        have plain : ∀ entry ∈ files.rglob r, entry.2.isLink = false := fun entry member =>
          Bool.eq_false_iff.mpr fun isLink => linked (List.any_eq_true.mpr ⟨entry, member, isLink⟩)
        cases treeBytes (treeFiles files r) with
        | error e => simp [Except.map]
        | ok bytes =>
          simp only [Except.map, Except.ok.injEq, exists_eq_left']
          exact ⟨fun same => ⟨plain, same.symm⟩, fun same => same.2.symm⟩

/-- The digest of the file an artifact's path denotes. -/
def ArtifactDigest (sha256 : ByteArray → String) (files : FileSystem) (cwd : Path) (packageDir : PurePath)
    (collection path digest : String) : Prop :=
  ∃ r, artifactPath files cwd packageDir collection path = .ok r ∧ sha256Path sha256 files r = .ok digest

/-- The digest of the tool tree, where the server is. -/
def ToolDigest (sha256 : ByteArray → String) (files : FileSystem) (cwd : Path) (packageDir : PurePath)
    (tools : ToolPackage) (digest : String) : Prop :=
  ∃ toolRoot entrypoint, toolRootPath files cwd packageDir tools.root = .ok toolRoot ∧
    files.pathExists toolRoot = true ∧ toolEntrypoint files cwd toolRoot tools.serverEntrypoint = .ok entrypoint ∧
    sha256Path sha256 files toolRoot = .ok digest

theorem computedHashes_ok {p : AgentPackage} {hashes : List String} :
    p.computedHashes sha256 files cwd packageDir = .ok hashes ↔ ∃ knowledge skills tool,
      List.Forall₂ (fun a => ArtifactDigest sha256 files cwd packageDir "knowledge" a.path) p.knowledge knowledge ∧
      List.Forall₂ (fun a => ArtifactDigest sha256 files cwd packageDir "skills" a.path) p.skills skills ∧
      ToolDigest sha256 files cwd packageDir p.tools tool ∧ hashes = knowledge ++ skills ++ [tool] := by
  simp only [AgentPackage.computedHashes, bind_eq_ok_iff, mapM_eq_ok_iff, checked_eq_ok_iff, pure_eq_ok_iff]
  constructor
  · rintro ⟨knowledge, knowledgeDigests, skills, skillDigests, toolRoot, resolved, present, entrypoint, entry, tool, digest, rfl⟩
    exact ⟨knowledge, skills, tool, knowledgeDigests, skillDigests, ⟨toolRoot, entrypoint, resolved, present, entry, digest⟩,
      rfl⟩
  · rintro ⟨knowledge, skills, tool, knowledgeDigests, skillDigests, ⟨toolRoot, entrypoint, resolved, present, entry, digest⟩,
      rfl⟩
    exact ⟨knowledge, knowledgeDigests, skills, skillDigests, toolRoot, resolved, present, entrypoint, entry, tool, digest, rfl⟩

/-- What the stored digests of a package stand for. -/
structure Verified (sha256 : ByteArray → String) (files : FileSystem) (cwd : Path) (p : AgentPackage)
    (packageDir : PurePath) : Prop where
  knowledge : ∀ a ∈ p.knowledge, ArtifactDigest sha256 files cwd packageDir "knowledge" a.path a.sha256
  skills : ∀ a ∈ p.skills, ArtifactDigest sha256 files cwd packageDir "skills" a.path a.sha256
  tools : ToolDigest sha256 files cwd packageDir p.tools p.tools.sha256

theorem forall₂_map_iff {α β : Type} {R : α → β → Prop} {f : α → β} {xs : List α} :
    List.Forall₂ R xs (xs.map f) ↔ ∀ x ∈ xs, R x (f x) := by
  rw [List.forall₂_map_right_iff, List.forall₂_same]

theorem verifyHashes_ok {p : AgentPackage} {path : PurePath} :
    p.verifyHashes sha256 files cwd path = .ok () ↔ Verified sha256 files cwd p (packageDirectory path) := by
  simp only [AgentPackage.verifyHashes, bind_eq_ok_iff, mapError_eq_ok_iff, computedHashes_ok, checked_eq_ok_iff]
  constructor
  · rintro ⟨_, ⟨knowledge, skills, tool, knowledgeDigests, skillDigests, toolDigest, rfl⟩, same, -⟩
    rw [AgentPackage.storedHashes] at same
    obtain ⟨artifacts, last⟩ := List.append_inj' same rfl
    obtain ⟨first, second⟩ := List.append_inj artifacts (by rw [← knowledgeDigests.length_eq, List.length_map])
    subst first second
    obtain rfl := List.cons.inj last |>.1
    exact ⟨forall₂_map_iff.mp knowledgeDigests, forall₂_map_iff.mp skillDigests, toolDigest⟩
  · rintro ⟨knowledge, skills, tools⟩
    exact ⟨p.storedHashes, ⟨_, _, _, forall₂_map_iff.mpr knowledge, forall₂_map_iff.mpr skills, tools, rfl⟩, rfl, rfl⟩

end Digested

/-! ### Manifests that load -/

section Loaded

variable [LaxInt] [PyYaml] {sha256 : ByteArray → String} {files : FileSystem} {cwd : Path} {path : PurePath} {p : AgentPackage}
  {domain : Option (List String)}

omit [PyYaml] in
theorem modelValidate_modelDump (p : AgentPackage) : AgentPackage.modelValidate p.modelDump = .ok p := by
  have items : ∀ texts : List String, (texts.map Json.str).mapM strItem = .ok texts := by
    intro texts
    rw [mapM_eq_ok_iff, List.forall₂_map_left_iff, List.forall₂_same]
    exact fun _ _ => rfl
  have knowledge : (p.knowledge.map (·.modelDump)).mapM KnowledgeArtifact.modelValidate = .ok p.knowledge := by
    rw [mapM_eq_ok_iff, List.forall₂_map_left_iff, List.forall₂_same]
    intro a _
    have tags : listField strItem a.modelDump "tags" = .ok a.tags := items a.tags
    simp only [KnowledgeArtifact.modelValidate, tags]
    rfl
  have skills : (p.skills.map (·.modelDump)).mapM SkillArtifact.modelValidate = .ok p.skills := by
    rw [mapM_eq_ok_iff, List.forall₂_map_left_iff, List.forall₂_same]
    exact fun _ _ => rfl
  have tools : ToolPackage.modelValidate p.tools.modelDump = .ok p.tools := by
    have capabilities : listField strItem p.tools.modelDump "declared_capabilities" = .ok p.tools.declaredCapabilities :=
      items p.tools.declaredCapabilities
    simp only [ToolPackage.modelValidate, capabilities]
    rfl
  have parent : optionalStrField p.modelDump "parent_id" = .ok p.parentId := by
    show optionalStrField (.obj [("parent_id", (p.parentId.map Json.str).getD .null)]) "parent_id" = _
    cases p.parentId <;> rfl
  have knowledgeField : listField KnowledgeArtifact.modelValidate p.modelDump "knowledge" = .ok p.knowledge := knowledge
  have skillsField : listField SkillArtifact.modelValidate p.modelDump "skills" = .ok p.skills := skills
  have toolsField : ToolPackage.modelValidate (AgentPackage.modelValidate.orMissing (p.modelDump.get? "tools")) = .ok p.tools :=
    tools
  have metadata : dictField p.modelDump "metadata" = .ok p.metadata :=
    congrArg Except.ok (Dict.ofEntries_entries p.metadata)
  have generation : intField p.modelDump "generation" none = .ok p.generation := by
    have found : p.modelDump.get? "generation" = some (.int p.generation) := rfl
    simp [intField, found]
  simp only [AgentPackage.modelValidate, parent, generation, knowledgeField, skillsField, toolsField, metadata]
  rfl

omit [LaxInt] [PyYaml] in
theorem readFile_ok {path : PurePath} {contents : ByteArray} :
    AgentPackage.readFile files cwd path = .ok contents ↔ files.node? (path.located cwd) = some (.file contents) := by
  unfold AgentPackage.readFile
  cases files.node? (path.located cwd) with
  | none => simp
  | some node => cases node <;> simp

theorem fromDirectory_ok : AgentPackage.fromDirectory sha256 files cwd path domain = .ok p ↔
    files.isDir ((packageDirectory path).located cwd) = true ∧ ∃ manifest data,
      files.node? ((child (packageDirectory path) "package.yaml").located cwd) = some (.file manifest) ∧
      PyYaml.safeLoad manifest = some data ∧ AgentPackage.modelValidate data = .ok p ∧
      Verified sha256 files cwd p (packageDirectory (packageDirectory path)) ∧ p.validateCapabilities domain = .ok () := by
  simp only [AgentPackage.fromDirectory, checked_eq_ok_iff, bind_eq_ok_iff, readFile_ok]
  refine and_congr_right fun _ => exists_congr fun manifest => ?_
  cases PyYaml.safeLoad manifest with
  | none => simp [throw, throwThe, MonadExceptOf.throw]
  | some data =>
    simp only [bind_eq_ok_iff, mapError_eq_ok_iff, pure_eq_ok_iff]
    constructor
    · rintro ⟨read, package, valid, ⟨⟩, verified, ⟨⟩, granted, rfl⟩
      exact ⟨data, read, rfl, valid, verifyHashes_ok.mp verified, granted⟩
    · rintro ⟨data, read, ⟨⟩, valid, verified, granted⟩
      exact ⟨read, p, valid, (), verifyHashes_ok.mpr verified, (), granted, rfl⟩

theorem load_directory (directory : files.isDir (path.located cwd) = true) :
    AgentPackage.load sha256 files cwd path domain = AgentPackage.fromDirectory sha256 files cwd path domain := by
  obtain ⟨node, here, kind⟩ := Option.any_eq_true _ _ |>.mp directory
  have noFile : files.isFile (path.located cwd) = false := by
    cases node with
    | dir => simp [FileSystem.isFile, here, Node.isFile]
    | _ => simp [Node.isDir] at kind
  rw [AgentPackage.load, if_neg (by simp [noFile])]

end Loaded

/-! ### A small package -/

/-- What is digested of a server file that is empty. -/
def serverBytes : ByteArray :=
  ⟨#[0, 0, 0, 0, 0, 0, 0, 9, 115, 101, 114, 118, 101, 114, 46, 112, 121, 0, 0, 0, 0, 0, 0, 0, 0]⟩

/-- SHA-256 of what the small package holds; any other bytes are spelled out. -/
def recordedSha256 (bytes : ByteArray) : String :=
  if bytes = "Hi".toUTF8 then "3639efcd08abb273b1619e82e78c29a7df02c1051b1820e99fc395dcaa3326b8"
  else if bytes = serverBytes then "3ebe58ec17b546217e523c8981e880725872283be7a89063ebcebcdd77305e60"
  else String.ofList ('#' :: bytes.data.toList.map fun b => Char.ofNat b.toNat)

def smallPackage (path : String) : AgentPackage where
  id := "baseline"
  version := "0.1"
  generation := 0
  parentId := none
  knowledge := [⟨path, "3639efcd08abb273b1619e82e78c29a7df02c1051b1820e99fc395dcaa3326b8", []⟩]
  skills := []
  tools := ⟨"mcp", "server.py", "3ebe58ec17b546217e523c8981e880725872283be7a89063ebcebcdd77305e60", []⟩
  metadata := .empty

def smallNodes (others : List (Path × Node)) : Dict Path Node :=
  .ofEntries ([([], .dir), (["pkg"], .dir), (["pkg", "mcp"], .dir), (["pkg", "mcp", "server.py"], .file "".toUTF8)] ++ others)

def smallDir : PurePath := ⟨true, ["pkg"]⟩

/-- The manifest of the small package, as it is written. -/
def smallManifest (path : String) : ByteArray :=
  ("id: baseline\nversion: '0.1'\ngeneration: 0\nparent_id: null\nknowledge:\n- path: " ++ path ++
    "\n  sha256: 3639efcd08abb273b1619e82e78c29a7df02c1051b1820e99fc395dcaa3326b8\n  tags: []\nskills: []\n" ++
    "tools:\n  root: mcp\n  server_entrypoint: server.py\n" ++
    "  sha256: 3ebe58ec17b546217e523c8981e880725872283be7a89063ebcebcdd77305e60\n" ++
    "  declared_capabilities: []\nmetadata: \x7b\x7d\n").toUTF8

@[reducible] def smallYaml (path : String) : PyYaml where
  safeDump _ := smallManifest path
  safeLoad bytes := if bytes = smallManifest path then some (smallPackage path).modelDump else none

def plainNodes (path : String) : Dict Path Node := smallNodes [(["pkg", "package.yaml"], .file (smallManifest path)),
  (["pkg", "knowledge"], .dir), (["pkg", "knowledge", "facts.md"], .file "Hi".toUTF8)]

theorem plainFormed (path : String) : FileSystem.wellFormed (plainNodes path) = true := by
  rfl

def plainFiles (path : String) : FileSystem := .ofNodes _ (plainFormed path)

end AgentGym.Core
