import AgentGym.Core.Package
import AgentGym.Lib.Lines
import AgentGym.Runtime.ReferenceAgent

/-!
# What was checked and what is used

Loading a package digests the files its paths denote, and running it reads them again. The
agent finds its documents in its own way: a path that names its layer has the layer in it
twice. The runner spells the server's path out, and takes the baseline's server where it
finds nothing there.
-/

namespace AgentGym.Runtime

open Files (FileSystem Node Path PurePath)
open AgentGym.Core

/-! ### Reading artifacts -/

/-- `read_text(encoding="utf-8")`. -/
def readText (contents : ByteArray) : Option String :=
  (String.fromUTF8? contents).map fun text => String.ofList (translateNewlines false text.toList)

section Reading

variable (files : FileSystem)

/-- The file `_read_artifact` reads, below a resolved root. -/
def readPath (root : Path) (layer relativePath : String) : Except String Path :=
  let layerPath := child ⟨true, root⟩ layer
  let path := layerPath.join (PurePath.parse relativePath)
  match resolvePath files [] path, resolvePath files [] layerPath with
  | .ok resolved, .ok layerRoot =>
    if layerRoot.isPrefixOf resolved then .ok resolved
    else .error s!"package artifact escapes {layer}: {relativePath}"
  | _, _ => .error "Symlink loop"

def readTextOf (path : Path) : Except String String :=
  match files.node? path with
  | some (.file contents) => match readText contents with
    | some text => .ok text
    | none => .error "'utf-8' codec can't decode"
  | some .dir => .error "Is a directory"
  | _ => .error "No such file or directory"

/-- `_read_artifact`. -/
def readArtifact (root : Option Path) (layer relativePath : String) : Except String String :=
  match root with
  | none => .ok s!"(artifact unavailable: {layer}/{relativePath})"
  | some root => do readTextOf files (← readPath files root layer relativePath)

/-- The text of the file whose digest was compared. -/
def checkedArtifact (cwd : Path) (packageDir : PurePath) (layer path : String) : Except String String :=
  match artifactPath files cwd packageDir layer path with
  | .ok file => readTextOf files file
  | .error _ => .error "not checked"

/-! ### The server -/

def fileAt (path : Path) : Option Path :=
  (files.stat path).filter fun location => (files.get? location).any Node.isFile

def serverPath (root : Path) (tools : ToolPackage) : Path :=
  (((⟨true, root⟩ : PurePath).join (.parse tools.root)).join (.parse tools.serverEntrypoint)).located []

def fallbackPath (cwd : Path) : Path := cwd ++ ["packages", "baseline", "mcp", "server.py"]

/-- The file `_build_executor` executes. -/
def serverFile (cwd root : Path) (tools : ToolPackage) : Except String Path :=
  let shown := showPath (serverPath root tools)
  match fileAt files (serverPath root tools) with
  | some location => .ok location
  | none =>
    match fileAt files (fallbackPath cwd) with
    | some location => .ok location
    | none => .error s!"MCP server entrypoint does not exist: {shown}"

end Reading

def view (p : Core.AgentPackage) : AgentPackage where
  id := p.id
  declaredCapabilities := p.tools.declaredCapabilities
  knowledge := p.knowledge.map (·.path)
  skills := p.skills.map (·.path)

/-! ### Loaded packages -/

section Loaded

variable {sha256 : ByteArray → String} {files : FileSystem} {cwd : Path} {path : PurePath} {p : Core.AgentPackage}

theorem child_parent {manifest : PurePath} {name : String} (named : manifest.name = name) (nonempty : name ≠ "") :
    child manifest.parent name = manifest := by
  cases last : manifest.parts.getLast? with
  | none =>
    rw [PurePath.name, last] at named
    exact absurd named.symm nonempty
  | some final =>
    obtain rfl : final = name := by rwa [PurePath.name, last] at named
    show PurePath.mk manifest.absolute (manifest.parts.dropLast ++ [final]) = manifest
    rw [List.dropLast_append_getLast? final last]

/-- A directory that loads is not named like a manifest, and its digests were compared. -/
theorem verified_of_load [LaxInt] [PyYaml] {domain : Option (List String)}
    (loaded : Core.AgentPackage.load sha256 files cwd path domain = .ok p)
    (directory : files.isDir (path.located cwd) = true) :
    packageDirectory path = path ∧ Verified sha256 files cwd p path := by
  rw [load_directory directory, fromDirectory_ok] at loaded
  obtain ⟨-, manifest, data, read, -, -, verified, -⟩ := loaded
  have same : packageDirectory path = path := by
    unfold packageDirectory at read ⊢
    split
    · rename_i named
      rw [if_pos named, child_parent named (by decide)] at read
      simp [FileSystem.isDir, read, Node.isDir] at directory
    · rfl
  rw [same, same] at verified
  exact ⟨same, verified⟩

end Loaded

/-! ### What the agent is given -/

/-- The agent reads the files whose digests were compared, and the server is in the compared tree. -/
structure GivenAsChecked [PyText] (files : FileSystem) (cwd : Path) (path : PurePath) (p : Core.AgentPackage)
    (root : Path) : Prop where
  knowledge : ∀ a ∈ p.knowledge, ∃ file, artifactPath files cwd path "knowledge" a.path = .ok file ∧
    readPath files root "knowledge" a.path = .ok file
  skills : ∀ a ∈ p.skills, ∃ file, artifactPath files cwd path "skills" a.path = .ok file ∧
    readPath files root "skills" a.path = .ok file
  prompt : ∀ task descriptions, ∃ prompt,
    buildSystemPrompt (readArtifact files (some root)) task (view p) descriptions = .ok prompt ∧
      buildSystemPrompt (checkedArtifact files cwd path) task (view p) descriptions = .ok prompt
  server : ∀ toolRoot file, toolRootPath files cwd path p.tools.root = .ok toolRoot →
    serverFile files cwd root p.tools = .ok file → toolRoot <+: file

/-- The layer's name before a path that has it already makes no difference. -/
def PrefixHarmless (files : FileSystem) (root : Path) (layer path : String) : Prop :=
  (PurePath.parse path).parts.take 1 = [layer] →
    files.resolve (root ++ layer :: (PurePath.parse path).parts) = files.resolve (root ++ (PurePath.parse path).parts)

/-- The system finds the server at its spelled-out path, or the baseline's server is not taken for it. -/
def ServerFound (files : FileSystem) (cwd : Path) (path : PurePath) (root : Path) (tools : ToolPackage) : Prop :=
  files.isFile (serverPath root tools) = true ∨ ∀ toolRoot file, toolRootPath files cwd path tools.root = .ok toolRoot →
    fileAt files (fallbackPath cwd) = some file → toolRoot <+: file

/-- Artifacts are regular UTF-8 files. -/
def TextFiles (files : FileSystem) (cwd : Path) (path : PurePath) (layer : String) (paths : List String) : Prop :=
  ∀ artifact ∈ paths, ∀ file, artifactPath files cwd path layer artifact = .ok file →
    ∃ contents text, files.get? file = some (.file contents) ∧ readText contents = some text

section Given

variable {files : FileSystem} {cwd root : Path} {path : PurePath} {p : Core.AgentPackage}

theorem readPath_ok {layer artifact : String} {r : Path} (isRelative : (PurePath.parse artifact).absolute = false) :
    readPath files root layer artifact = .ok r ↔ ∃ layerRoot, files.resolve (root ++ [layer]) = some layerRoot ∧
      files.resolve (root ++ layer :: (PurePath.parse artifact).parts) = some r ∧ layerRoot <+: r ∧ NullFree r := by
  have base : (child ⟨true, root⟩ layer).located [] = root ++ [layer] := located_child
  have whole : ((child ⟨true, root⟩ layer).join (PurePath.parse artifact)).located [] =
      root ++ layer :: (PurePath.parse artifact).parts := by
    rw [located_join isRelative, base, List.append_assoc, List.singleton_append]
  have isLayer : ∀ layerRoot, resolvePath files [] (child ⟨true, root⟩ layer) = .ok layerRoot ↔
      files.resolve (root ++ [layer]) = some layerRoot ∧ NullFree layerRoot := fun _ => by rw [resolvePath_ok, base]
  have isFile : ∀ resolved, resolvePath files [] ((child ⟨true, root⟩ layer).join (PurePath.parse artifact)) = .ok resolved ↔
      files.resolve (root ++ layer :: (PurePath.parse artifact).parts) = some resolved ∧ NullFree resolved :=
    fun _ => by rw [resolvePath_ok, whole]
  unfold readPath
  constructor
  · intro read
    dsimp only at read
    split at read
    · rename_i resolved layerRoot first second
      split at read
      · rename_i within
        obtain rfl := Except.ok.inj read
        obtain ⟨found, free⟩ := (isFile resolved).mp first
        exact ⟨layerRoot, ((isLayer layerRoot).mp second).1, found, List.isPrefixOf_iff_prefix.mp within, free⟩
      · cases read
    · cases read
  · rintro ⟨layerRoot, below, found, within, free⟩
    have first := (isFile r).mpr ⟨found, free⟩
    have second := (isLayer layerRoot).mpr ⟨below, nullFree_prefix within free⟩
    simp only [first, second, List.isPrefixOf_iff_prefix.mpr within, if_true]

/-- The agent reads the checked file just when the layer's name twice makes no difference. -/
theorem readPath_checked_iff {layer artifact : String} (base : files.resolve (path.located cwd) = some root) {file : Path}
    (checked : artifactPath files cwd path layer artifact = .ok file) :
    readPath files root layer artifact = .ok file ↔ PrefixHarmless files root layer artifact := by
  obtain ⟨relative, layerRoot, parsed, below, found, within, free⟩ := layerPath_ok.mp (artifactPath_ok.mp checked).1
  obtain ⟨rfl, isRelative, -, -⟩ := strictRelativePath_ok.mp parsed
  rw [← FileSystem.resolve_append base] at below found
  rw [readPath_ok isRelative, PrefixHarmless]
  unfold layerParts at found
  by_cases named : (PurePath.parse artifact).parts.take 1 = [layer]
  · rw [if_pos named] at found
    rw [found]
    constructor
    · rintro ⟨_, -, read, -⟩ _
      exact read
    · intro harmless
      exact ⟨layerRoot, below, harmless named, within, free⟩
  · rw [if_neg named] at found
    exact ⟨fun _ again => absurd again named, fun _ => ⟨layerRoot, below, found, within, free⟩⟩

theorem artifactSections_agree {read read' : String → String → Except String String} {layer : String} (title : String)
    {paths : List String} (agree : ∀ artifact ∈ paths, ∃ text, read layer artifact = .ok text ∧ read' layer artifact = .ok text) :
    ∃ sections, artifactSections read layer title paths = .ok sections ∧
      artifactSections read' layer title paths = .ok sections := by
  have texts : ∃ sections, (paths.mapM fun path => do
        let text ← read layer path
        pure [s!"\n## {title}: {path}", text]) = .ok sections ∧
      (paths.mapM fun path => do
        let text ← read' layer path
        pure [s!"\n## {title}: {path}", text]) = .ok sections := by
    induction paths with
    | nil => exact ⟨[], rfl, rfl⟩
    | cons artifact paths ih =>
      obtain ⟨⟨text, left, right⟩, rest⟩ := List.forall_mem_cons.mp agree
      obtain ⟨sections, tail, tail'⟩ := ih rest
      refine ⟨[s!"\n## {title}: {artifact}", text] :: sections, ?_, ?_⟩
      · rw [List.mapM_cons, tail, left]
        rfl
      · rw [List.mapM_cons, tail', right]
        rfl
  obtain ⟨sections, left, right⟩ := texts
  unfold artifactSections
  split
  · exact ⟨_, rfl, rfl⟩
  · exact ⟨sections.flatten, by rw [left]; rfl, by rw [right]; rfl⟩

theorem fileAt_eq_some {q location : Path} : fileAt files q = some location ↔
    files.stat q = some location ∧ (files.get? location).any Node.isFile = true :=
  Option.filter_eq_some_iff

theorem isFile_iff {q : Path} : files.isFile q = true ↔ ∃ location, fileAt files q = some location := by
  simp only [fileAt_eq_some, FileSystem.isFile, FileSystem.node?]
  cases files.stat q <;> simp

theorem server_located {toolRoot entrypoint location : Path} {tools : ToolPackage}
    (base : files.resolve (path.located cwd) = some root)
    (resolved : toolRootPath files cwd path tools.root = .ok toolRoot)
    (entry : toolEntrypoint files cwd toolRoot tools.serverEntrypoint = .ok entrypoint)
    (found : fileAt files (serverPath root tools) = some location) : toolRoot <+: location := by
  obtain ⟨rootPath, _, rootParsed, -, -, rootFound, -⟩ := toolRootPath_ok.mp resolved
  obtain ⟨entryPath, entryParsed, entryFound, within, -⟩ := toolEntrypoint_ok.mp entry
  obtain ⟨rfl, rootRelative, -, -⟩ := strictRelativePath_ok.mp rootParsed
  obtain ⟨rfl, entryRelative, -, -⟩ := strictRelativePath_ok.mp entryParsed
  have spelled : serverPath root tools =
      root ++ (PurePath.parse tools.root).parts ++ (PurePath.parse tools.serverEntrypoint).parts := by
    rw [serverPath, located_join entryRelative, located_join rootRelative]
    rfl
  rw [← FileSystem.resolve_append base] at rootFound
  rw [FileSystem.resolve_append rootFound] at entryFound
  have there := FileSystem.resolve_of_stat (fileAt_eq_some.mp found).1
  rw [spelled] at there
  obtain rfl := Option.some.inj (entryFound.symm.trans there)
  exact within

/-- The executed server lies in the tree when it is found, or when the baseline's server does. -/
theorem serverFile_within_iff {toolRoot entrypoint : Path} {tools : ToolPackage}
    (base : files.resolve (path.located cwd) = some root)
    (resolved : toolRootPath files cwd path tools.root = .ok toolRoot)
    (entry : toolEntrypoint files cwd toolRoot tools.serverEntrypoint = .ok entrypoint) :
    (∀ toolRoot file, toolRootPath files cwd path tools.root = .ok toolRoot → serverFile files cwd root tools = .ok file →
      toolRoot <+: file) ↔ ServerFound files cwd path root tools := by
  constructor
  · intro within
    by_cases found : files.isFile (serverPath root tools) = true
    · exact Or.inl found
    · refine Or.inr fun toolRoot file resolved fallback => within toolRoot file resolved ?_
      have missing : fileAt files (serverPath root tools) = none := by
        rw [isFile_iff, not_exists] at found
        exact Option.eq_none_iff_forall_not_mem.mpr found
      simp only [serverFile, missing, fallback]
  · intro server toolRoot' file resolved' executed
    obtain rfl := Except.ok.inj (resolved.symm.trans resolved')
    unfold serverFile at executed
    dsimp only at executed
    split at executed
    · rename_i location found
      obtain rfl := Except.ok.inj executed
      exact server_located base resolved entry found
    · rename_i missing
      split at executed
      · rename_i location fallback
        obtain rfl := Except.ok.inj executed
        rcases server with found | baseline
        · obtain ⟨location', found⟩ := isFile_iff.mp found
          simp [missing] at found
        · exact baseline _ _ resolved fallback
      · simp at executed

theorem texts_agree {layer : String} {paths : List String} (regular : TextFiles files cwd path layer paths)
    (agreed : ∀ artifact ∈ paths, ∃ file, artifactPath files cwd path layer artifact = .ok file ∧
      readPath files root layer artifact = .ok file) :
    ∀ artifact ∈ paths, ∃ text, readArtifact files (some root) layer artifact = .ok text ∧
      checkedArtifact files cwd path layer artifact = .ok text := by
  intro artifact member
  obtain ⟨file, checked, read⟩ := agreed artifact member
  obtain ⟨contents, text, here, decoded⟩ := regular artifact member file checked
  obtain ⟨_, _, -, -, found, -⟩ := layerPath_ok.mp (artifactPath_ok.mp checked).1
  have of : readTextOf files file = .ok text := by
    simp only [readTextOf, FileSystem.node?_location (FileSystem.location_resolve found), here, decoded]
  refine ⟨text, ?_, ?_⟩
  · rw [readArtifact, read]
    exact of
  · rw [checkedArtifact, checked]
    exact of

/-- What is used is what was checked, for a package whose paths do not name their layer and whose server is found. -/
theorem given_as_checked_iff [PyYaml] [PyText] {sha256 : ByteArray → String} {domain : Option (List String)}
    (loaded : Core.AgentPackage.load sha256 files cwd path domain = .ok p)
    (directory : files.isDir (path.located cwd) = true) (base : files.resolve (path.located cwd) = some root)
    (documents : TextFiles files cwd path "knowledge" (p.knowledge.map (·.path)))
    (procedures : TextFiles files cwd path "skills" (p.skills.map (·.path))) :
    GivenAsChecked files cwd path p root ↔
      (∀ a ∈ p.knowledge, PrefixHarmless files root "knowledge" a.path) ∧
      (∀ a ∈ p.skills, PrefixHarmless files root "skills" a.path) ∧ ServerFound files cwd path root p.tools := by
  obtain ⟨-, ⟨knowledge, skills, toolRoot, entrypoint, resolved, -, entry, -⟩⟩ := verified_of_load loaded directory
  constructor
  · intro given
    refine ⟨?_, ?_, (serverFile_within_iff base resolved entry).mp given.server⟩
    · intro a member
      obtain ⟨file, checked, read⟩ := given.knowledge a member
      exact (readPath_checked_iff base checked).mp read
    · intro a member
      obtain ⟨file, checked, read⟩ := given.skills a member
      exact (readPath_checked_iff base checked).mp read
  · rintro ⟨documentsHarmless, proceduresHarmless, server⟩
    -- Each text is read from the file that was digested.
    have same : ∀ {layer artifact digest : String}, ArtifactDigest sha256 files cwd path layer artifact digest →
        PrefixHarmless files root layer artifact →
        ∃ file, artifactPath files cwd path layer artifact = .ok file ∧ readPath files root layer artifact = .ok file := by
      rintro layer artifact digest ⟨file, checked, -⟩ harmless
      exact ⟨file, checked, (readPath_checked_iff base checked).mpr harmless⟩
    have agreedKnowledge := fun a member => same (knowledge a member) (documentsHarmless a member)
    have agreedSkills := fun a member => same (skills a member) (proceduresHarmless a member)
    refine ⟨agreedKnowledge, agreedSkills, ?_, (serverFile_within_iff base resolved entry).mpr server⟩
    intro task descriptions
    obtain ⟨first, left, left'⟩ := artifactSections_agree "Knowledge"
      (texts_agree documents (List.forall_mem_map.mpr agreedKnowledge))
    obtain ⟨second, right, right'⟩ := artifactSections_agree "Skill"
      (texts_agree procedures (List.forall_mem_map.mpr agreedSkills))
    simp only [buildSystemPrompt, view, left, left', right, right']
    exact ⟨_, rfl, rfl⟩

end Given

/-! ### A path that names its layer -/

theorem small_loads {path : String}
    (verified : (smallPackage path).verifyHashes recordedSha256 (plainFiles path) [] smallDir = .ok ()) :
    @Core.AgentPackage.load plainInts (smallYaml path) recordedSha256 (plainFiles path) [] smallDir none = .ok (smallPackage path) := by
  let _ := plainInts
  let _ := smallYaml path
  have same : packageDirectory smallDir = smallDir := by decide
  have directory : (plainFiles path).isDir (smallDir.located []) = true := rfl
  have found : (plainFiles path).stat ["pkg", "package.yaml"] = some ["pkg", "package.yaml"] := rfl
  have manifest : (plainFiles path).node? ((child smallDir "package.yaml").located []) = some (.file (smallManifest path)) :=
    FileSystem.node?_eq_some.mpr ⟨_, found, rfl⟩
  rw [load_directory directory, fromDirectory_ok, same, same]
  exact ⟨directory, _, _, manifest, if_pos rfl, modelValidate_modelDump _, same ▸ verifyHashes_ok.mp verified, rfl⟩

theorem small_documents {path : String}
    (checked : artifactPath (plainFiles path) [] smallDir "knowledge" path = .ok ["pkg", "knowledge", "facts.md"])
    (here : (plainFiles path).get? ["pkg", "knowledge", "facts.md"] = some (.file "Hi".toUTF8)) :
    TextFiles (plainFiles path) [] smallDir "knowledge" ((smallPackage path).knowledge.map (·.path)) := by
  intro artifact member file found
  obtain rfl := List.mem_singleton.mp member
  obtain rfl := Except.ok.inj (checked.symm.trans found)
  exact ⟨_, "Hi", here, by decide +kernel⟩

theorem given_as_checked_small :
    @GivenAsChecked asciiText (plainFiles "facts.md") [] smallDir (smallPackage "facts.md") ["pkg"] ↔
      (∀ a ∈ (smallPackage "facts.md").knowledge, PrefixHarmless (plainFiles "facts.md") ["pkg"] "knowledge" a.path) ∧
      (∀ a ∈ (smallPackage "facts.md").skills, PrefixHarmless (plainFiles "facts.md") ["pkg"] "skills" a.path) ∧
      ServerFound (plainFiles "facts.md") [] smallDir ["pkg"] (smallPackage "facts.md").tools :=
  @given_as_checked_iff (plainFiles "facts.md") [] ["pkg"] smallDir (smallPackage "facts.md") (smallYaml "facts.md") asciiText
    recordedSha256 none (small_loads (by decide +kernel)) (by decide +kernel) (by decide +kernel)
    (small_documents (by decide +kernel) (by decide +kernel)) (by simp [TextFiles, smallPackage])

/-- A document whose path names its layer is digested in one place and looked for in another. -/
theorem prefixed_document_missing :
    @Core.AgentPackage.load plainInts (smallYaml "knowledge/facts.md") recordedSha256 (plainFiles "knowledge/facts.md") [] smallDir none =
      .ok (smallPackage "knowledge/facts.md") ∧
    TextFiles (plainFiles "knowledge/facts.md") [] smallDir "knowledge" ["knowledge/facts.md"] ∧
    readArtifact (plainFiles "knowledge/facts.md") (some ["pkg"]) "knowledge" "knowledge/facts.md" =
      .error "No such file or directory" ∧
    ¬ @GivenAsChecked asciiText (plainFiles "knowledge/facts.md") [] smallDir (smallPackage "knowledge/facts.md") ["pkg"] := by
  let _ := asciiText
  refine ⟨small_loads (by decide +kernel),
    small_documents (by decide +kernel) (by decide +kernel), by decide +kernel, fun given => ?_⟩
  obtain ⟨file, checked, read⟩ := given.knowledge _ List.mem_cons_self
  have base : (plainFiles "knowledge/facts.md").resolve (smallDir.located []) = some ["pkg"] := by decide +kernel
  have harmless := (readPath_checked_iff base checked).mp read (by decide +kernel)
  exact absurd harmless (by decide +kernel)

end AgentGym.Runtime
