import AgentGym.Core.Saving

/-!
# Tampering with a saved package

A saved package loads as it was saved. Once a document, a skill or a file of the tool tree is
other than it was, it does not load.
-/

namespace AgentGym.Core

open Files (FileSystem Node Path PurePath)

/-! ### Other files than the saved ones -/

/-- A document is gone or is another, and what has its place is no directory whose tree reads like it. -/
def DocumentChanged (files later : FileSystem) (r : Path) : Prop :=
  later.get? r ≠ files.get? r ∧ ∀ contents bytes, files.get? r = some (.file contents) → later.get? r = some .dir →
    treeBytes (treeFiles later r) = .ok bytes → bytes ≠ contents.data.toList

/-- A regular file is added, removed, renamed or changed. -/
def TreeChanged (files later : FileSystem) (r : Path) : Prop :=
  ∃ q contents, ¬ (files.get? (r ++ q) = some (.file contents) ↔ later.get? (r ++ q) = some (.file contents))

inductive Tampered (files later : FileSystem) (root : Path) (p : AgentPackage) : Prop
  | knowledge {a : KnowledgeArtifact} (member : a ∈ p.knowledge)
      (changed : DocumentChanged files later (root ++ layerParts "knowledge" (PurePath.parse a.path).parts))
  | skill {a : SkillArtifact} (member : a ∈ p.skills)
      (changed : DocumentChanged files later (root ++ layerParts "skills" (PurePath.parse a.path).parts))
  | tools (changed : TreeChanged files later (root ++ (PurePath.parse p.tools.root).parts))

section Pinned

variable {sha256 : ByteArray → String} {files later : FileSystem} {cwd root : Path} {packageDir : PurePath} {p : AgentPackage}

theorem document_pinned (injective : Function.Injective sha256) (plain : PlainDirectory files cwd packageDir root)
    (plainLater : PlainDirectory later cwd packageDir root) {collection path digest : String} (proper : RealName collection)
    (regular : RegularArtifact files cwd packageDir collection path)
    (digested : ArtifactDigest sha256 files cwd packageDir collection path digest)
    (again : ArtifactDigest sha256 later cwd packageDir collection path digest) :
    ¬ DocumentChanged files later (root ++ layerParts collection (PurePath.parse path).parts) := by
  rintro ⟨other, unlike⟩
  obtain ⟨r, contents, resolved, file⟩ := regular
  obtain ⟨⟨relative, parsed⟩, rfl, -⟩ := (layerPath_plain plain proper).mp resolved
  obtain ⟨rfl, -, -, real⟩ := strictRelativePath_ok.mp parsed
  have location := plain.location (layerParts_real proper real)
  have locationLater := plainLater.location (layerParts_real proper real)
  have hashed := (sha256Path_ok location).mp ((artifactDigest_plain plain proper).mp digested).2.2
  have hashedLater := (sha256Path_ok locationLater).mp ((artifactDigest_plain plainLater proper).mp again).2.2
  have of : digest = sha256 contents := by
    rcases hashed with ⟨contents', file', same⟩ | ⟨dir, -⟩
    · rw [file] at file'
      cases Option.some.inj file'
      exact same
    · simp [file] at dir
  rcases hashedLater with ⟨contents', file', same⟩ | ⟨dir, -, bytes, encoded, same⟩
  · obtain rfl := injective (of.symm.trans same)
    exact other (file'.trans file.symm)
  · have bytesOf := injective (of.symm.trans same)
    exact unlike contents bytes file dir encoded (by rw [bytesOf])

/-- What the digest of the tools is taken of. -/
theorem ToolDigest.encoded (plain : PlainDirectory files cwd packageDir root) {tools : ToolPackage} {digest : String}
    (digested : ToolDigest sha256 files cwd packageDir tools digest) :
    files.IsLocation (root ++ (PurePath.parse tools.root).parts) ∧
    files.get? (root ++ (PurePath.parse tools.root).parts) = some .dir ∧
    ∃ bytes, treeBytes (treeFiles files (root ++ (PurePath.parse tools.root).parts)) = .ok bytes ∧
      digest = sha256 ⟨bytes.toArray⟩ := by
  obtain ⟨toolRoot, entrypoint, resolved, -, entry, hashed⟩ := digested
  obtain ⟨rfl, location, dir⟩ := toolTree_plain plain resolved entry
  refine ⟨location, dir, ?_⟩
  rcases (sha256Path_ok location).mp hashed with ⟨contents, file, -⟩ | ⟨-, -, bytes, encoded, same⟩
  · simp [file] at dir
  · exact ⟨bytes, encoded, same⟩

theorem tree_pinned (injective : Function.Injective sha256) (plain : PlainDirectory files cwd packageDir root)
    (plainLater : PlainDirectory later cwd packageDir root) {tools : ToolPackage} {digest : String}
    (digested : ToolDigest sha256 files cwd packageDir tools digest)
    (again : ToolDigest sha256 later cwd packageDir tools digest) :
    ¬ TreeChanged files later (root ++ (PurePath.parse tools.root).parts) := by
  obtain ⟨location, dir, bytes, encoded, same⟩ := digested.encoded plain
  obtain ⟨location', dir', bytes', encoded', same'⟩ := again.encoded plainLater
  have equal : bytes = bytes' := by
    have arrays := congrArg ByteArray.data (injective (same.symm.trans same'))
    simpa using arrays
  have trees := treeBytes_injective encoded (equal ▸ encoded')
  have present : (files.get? (root ++ (PurePath.parse tools.root).parts)).isSome := by rw [dir]; rfl
  have present' : (later.get? (root ++ (PurePath.parse tools.root).parts)).isSome := by rw [dir']; rfl
  rintro ⟨q, contents, differ⟩
  refine differ ?_
  by_cases whole : q = []
  · subst whole
    simp [dir, dir']
  · exact ⟨same_files_of_treeFiles location present location' present' trees whole,
      same_files_of_treeFiles location' present' location present trees.symm whole⟩

theorem not_tampered (injective : Function.Injective sha256) (holds : Holds files cwd packageDir root p)
    (plainLater : PlainDirectory later cwd packageDir root) (verified : Verified sha256 files cwd p packageDir)
    (again : Verified sha256 later cwd p packageDir) : ¬ Tampered files later root p := by
  intro tampered
  cases tampered with
  | knowledge member changed =>
    exact document_pinned injective holds.plain plainLater (by decide) (holds.knowledge _ member)
      (verified.knowledge _ member) (again.knowledge _ member) changed
  | skill member changed =>
    exact document_pinned injective holds.plain plainLater (by decide) (holds.skills _ member)
      (verified.skills _ member) (again.skills _ member) changed
  | tools changed => exact tree_pinned injective holds.plain plainLater verified.tools again.tools changed

theorem Holds.rehashed {saved : AgentPackage} (holds : Holds files cwd packageDir root p) (same : saved.unhashed = p.unhashed) :
    Holds files cwd packageDir root saved := by
  have knowledge : saved.knowledge.map (fun artifact => { artifact with sha256 := "" }) =
      p.knowledge.map fun artifact => { artifact with sha256 := "" } := congrArg AgentPackage.knowledge same
  have skills : saved.skills.map (fun artifact => { artifact with sha256 := "" }) =
      p.skills.map fun artifact => { artifact with sha256 := "" } := congrArg AgentPackage.skills same
  have toolRoot : saved.tools.root = p.tools.root := congrArg (fun package => package.tools.root) same
  have server : saved.tools.serverEntrypoint = p.tools.serverEntrypoint :=
    congrArg (fun package => package.tools.serverEntrypoint) same
  refine { holds with knowledge := ?_, skills := ?_, tools := ?_ }
  · intro a member
    obtain ⟨b, memberOf, paths⟩ := List.mem_map.mp (knowledge ▸ List.mem_map_of_mem member)
    rw [← (KnowledgeArtifact.mk.inj paths).1]
    exact holds.knowledge b memberOf
  · intro a member
    obtain ⟨b, memberOf, paths⟩ := List.mem_map.mp (skills ▸ List.mem_map_of_mem member)
    rw [← (SkillArtifact.mk.inj paths).1]
    exact holds.skills b memberOf
  · rw [toolRoot, server]
    exact holds.tools

theorem artifactDigest_unique {collection path digest digest' : String}
    (left : ArtifactDigest sha256 files cwd packageDir collection path digest)
    (right : ArtifactDigest sha256 files cwd packageDir collection path digest') : digest = digest' := by
  obtain ⟨r, resolved, digested⟩ := left
  obtain ⟨r', resolved', digested'⟩ := right
  obtain rfl := Except.ok.inj (resolved.symm.trans resolved')
  exact Except.ok.inj (digested.symm.trans digested')

theorem toolDigest_unique {tools tools' : ToolPackage} {digest digest' : String} (roots : tools.root = tools'.root)
    (left : ToolDigest sha256 files cwd packageDir tools digest)
    (right : ToolDigest sha256 files cwd packageDir tools' digest') : digest = digest' := by
  obtain ⟨r, -, resolved, -, -, digested⟩ := left
  obtain ⟨r', -, resolved', -, -, digested'⟩ := right
  obtain rfl := Except.ok.inj (resolved.symm.trans (roots ▸ resolved'))
  exact Except.ok.inj (digested.symm.trans digested')

theorem verified_unique {q : AgentPackage} (left : Verified sha256 files cwd p packageDir)
    (right : Verified sha256 files cwd q packageDir) (same : p.unhashed = q.unhashed) : p = q := by
  have lists : ∀ {α : Type} {f : α → α} {xs ys : List α}, xs.map f = ys.map f →
      (∀ x ∈ xs, ∀ y ∈ ys, f x = f y → x = y) → xs = ys := by
    intro α f xs ys mapped determined
    refine List.forall₂_eq_eq_eq ▸ List.forall₂_iff_get.mpr ⟨by simpa using congrArg List.length mapped, ?_⟩
    intro i inXs inYs
    refine determined _ (List.get_mem _ _) _ (List.get_mem _ _) ?_
    have images := congrArg (fun zs => zs[i]?) mapped
    simpa [inXs, inYs] using images
  have knowledge : p.knowledge = q.knowledge := by
    refine lists (congrArg AgentPackage.knowledge same) ?_
    rintro ⟨path, digest, tags⟩ member ⟨path', digest', tags'⟩ member' artifact
    obtain ⟨rfl, -, rfl⟩ := KnowledgeArtifact.mk.inj artifact
    obtain rfl : digest = digest' :=
      artifactDigest_unique (left.knowledge _ member) (right.knowledge ⟨path, digest', tags⟩ member')
    rfl
  have skills : p.skills = q.skills := by
    refine lists (congrArg AgentPackage.skills same) ?_
    rintro ⟨path, digest⟩ member ⟨path', digest'⟩ member' artifact
    obtain ⟨rfl, -⟩ := SkillArtifact.mk.inj artifact
    obtain rfl : digest = digest' := artifactDigest_unique (left.skills _ member) (right.skills ⟨path, digest'⟩ member')
    rfl
  have tools : p.tools = q.tools := by
    have erased : ({ p.tools with sha256 := "" } : ToolPackage) = { q.tools with sha256 := "" } :=
      congrArg AgentPackage.tools same
    obtain ⟨roots, servers, -, capabilities⟩ := ToolPackage.mk.inj erased
    have digests := toolDigest_unique roots left.tools right.tools
    calc p.tools = ⟨p.tools.root, p.tools.serverEntrypoint, p.tools.sha256, p.tools.declaredCapabilities⟩ := rfl
      _ = q.tools := by rw [roots, servers, digests, capabilities]
  obtain ⟨ids, versions, generations, parents, -, -, -, metadata⟩ := AgentPackage.mk.inj same
  calc p = ⟨p.id, p.version, p.generation, p.parentId, p.knowledge, p.skills, p.tools, p.metadata⟩ := rfl
    _ = q := by rw [ids, versions, generations, parents, knowledge, skills, tools, metadata]

end Pinned

/-- Saving sets the digest of every artifact and writes what loads again, until a file is tampered with. -/
def PersistsUntilTampered [LaxInt] [PyYaml] (sha256 : ByteArray → String) (files : FileSystem) (cwd : Path) (packageDir : PurePath)
    (root : Path) (p : AgentPackage) : Prop :=
  ∃ files' saved, p.save sha256 files cwd packageDir none = .ok (files', saved) ∧ saved.unhashed = p.unhashed ∧
    Verified sha256 files' cwd saved packageDir ∧
    (PyYaml.safeLoad (PyYaml.safeDump saved.modelDump) = some saved.modelDump →
      AgentPackage.load sha256 files' cwd packageDir none = .ok saved ∧
      ∀ later, PlainDirectory later cwd packageDir root →
        later.get? (root ++ ["package.yaml"]) = files'.get? (root ++ ["package.yaml"]) →
        Tampered files' later root saved → ∃ e, AgentPackage.load sha256 later cwd packageDir none = .error e)

/-- What is saved loads as it was saved, and no longer once the files are tampered with. -/
theorem saved_loads_until_tampered [LaxInt] [PyYaml] {sha256 : ByteArray → String} {files : FileSystem} {cwd root : Path}
    {packageDir : PurePath} {p : AgentPackage} (injective : Function.Injective sha256)
    (holds : Holds files cwd packageDir root p) (writable : Writable files packageDir root p.tools) :
    PersistsUntilTampered sha256 files cwd packageDir root p := by
  obtain ⟨files', saved, done, kept, manifest, unhashed, verified⟩ := save_holds holds writable
  have holds' := (holds.kept kept).rehashed unhashed
  refine ⟨files', saved, done, unhashed, verified, fun yaml => ⟨?_, ?_⟩⟩
  · have directory : files'.isDir (packageDir.located cwd) = true := by
      simp [FileSystem.isDir, FileSystem.node?, holds'.found, holds'.directory, Node.isDir]
    exact (load_plain holds'.plain writable.notManifest).mpr
      ⟨directory, _, _, manifest, yaml, modelValidate_modelDump saved, verified⟩
  · intro later plainLater sameManifest tampered
    cases loaded : AgentPackage.load sha256 later cwd packageDir none with
    | error e => exact ⟨e, rfl⟩
    | ok q =>
      obtain ⟨-, text, data, there, parsed, valid, again⟩ := (load_plain plainLater writable.notManifest).mp loaded
      rw [sameManifest, manifest] at there
      obtain rfl : PyYaml.safeDump saved.modelDump = text := by simpa using there
      obtain rfl := Option.some.inj (yaml.symm.trans parsed)
      obtain rfl := Except.ok.inj ((modelValidate_modelDump saved).symm.trans valid)
      exact absurd tampered (not_tampered injective holds' plainLater verified again)

/-! ### The small package, saved -/

theorem recordedSha256_injective : Function.Injective recordedSha256 := by
  have one : ∀ x a b : ByteArray, a = x → b = x → a = b := fun _ _ _ first second => first.trans second.symm
  refine injective_entry (one _) (injective_entry (one _) ?_ ?_) ?_
  · intro a b same
    exact chars_injective (List.cons.inj (String.ofList_injective same)).2
  · exact fun _ => ofList_cons_ne (by decide)
  · intro a
    split
    · decide
    · exact ofList_cons_ne (by decide)

theorem holds_of_files {files : FileSystem} {packageDir : PurePath} {root : Path} (document server : ByteArray)
    (noLinks : ∀ q target, files.get? q ≠ some (.link target)) (found : files.stat (packageDir.located []) = some root)
    (directory : files.get? root = some .dir) (free : NullFree root)
    (documentThere : files.get? (root ++ ["knowledge", "facts.md"]) = some (.file document))
    (serverThere : files.get? (root ++ ["mcp"] ++ ["server.py"]) = some (.file server)) :
    Holds files [] packageDir root (smallPackage "facts.md") := by
  have plain : PlainDirectory files [] packageDir root := ⟨FileSystem.resolve_of_stat found, fun q => noLinks (root ++ q)⟩
  have below : ∀ {parts : Path}, NullFree parts → NullFree (root ++ parts) := fun parts =>
    List.forall_mem_append.mpr ⟨free, parts⟩
  have artifact : layerPath files [] packageDir "knowledge" "facts.md" = .ok (root ++ ["knowledge", "facts.md"]) :=
    (layerPath_plain plain (by decide)).mpr ⟨⟨.parse "facts.md", rfl⟩, by congr 1, below (by decide)⟩
  have tools : toolRootPath files [] packageDir "mcp" = .ok (root ++ ["mcp"]) :=
    (toolRootPath_plain plain).mpr ⟨⟨.parse "mcp", rfl⟩, rfl, by congr 1, below (by decide)⟩
  have entry : toolEntrypoint files [] (root ++ ["mcp"]) "server.py" = .ok (root ++ ["mcp"] ++ ["server.py"]) := by
    refine (toolEntrypoint_plain plain (by decide)).mpr ⟨⟨.parse "server.py", rfl⟩, by congr 1, ?_, server, serverThere⟩
    rw [List.append_assoc]
    exact below (by decide)
  exact ⟨found, directory, plain.noLinks, List.forall_mem_singleton.mpr ⟨_, _, artifact, documentThere⟩, by simp [smallPackage],
    _, _, tools, entry⟩

theorem plain_holds : Holds (plainFiles "facts.md") [] smallDir ["pkg"] (smallPackage "facts.md") :=
  holds_of_files "Hi".toUTF8 "".toUTF8 (noLinks_of_entries rfl) rfl rfl (by decide) rfl rfl

theorem plain_writable : Writable (plainFiles "facts.md") smallDir ["pkg"] (smallPackage "facts.md").tools where
  notManifest := by decide
  knowledge := Or.inr rfl
  skills := Or.inl rfl
  manifest dir := by cases (dir : some (Node.file (smallManifest "facts.md")) = some .dir)
  lengths := by decide +kernel

theorem saved_loads_plain :
    @PersistsUntilTampered plainInts (smallYaml "facts.md") recordedSha256 (plainFiles "facts.md") [] smallDir ["pkg"]
      (smallPackage "facts.md") :=
  @saved_loads_until_tampered plainInts (smallYaml "facts.md") _ _ _ _ _ _ recordedSha256_injective plain_holds plain_writable

/-! ### Directories that do not take a manifest, and a document that is gone -/

/-- A directory that has the small package, and where saving it is an error. -/
def Unsaved (files : FileSystem) (packageDir : PurePath) (root : Path) : Prop :=
  Holds files [] packageDir root (smallPackage "facts.md") ∧
    ∃ e, @AgentPackage.save (smallYaml "facts.md") recordedSha256 files [] (smallPackage "facts.md") packageDir none = .error e

theorem error_of_map {α β : Type} {f : α → β} {x : Except PackageError α} {e : PackageError} (mapped : x.map f = .error e) :
    ∃ e, x = .error e := by
  cases x with
  | error e => exact ⟨e, rfl⟩
  | ok a => cases mapped

def layerTaken : Dict Path Node := smallNodes [(["pkg", "skills"], .file "".toUTF8), (["pkg", "knowledge"], .dir),
  (["pkg", "knowledge", "facts.md"], .file "Hi".toUTF8)]

def manifestTaken : Dict Path Node := smallNodes [(["pkg", "package.yaml"], .dir), (["pkg", "knowledge"], .dir),
  (["pkg", "knowledge", "facts.md"], .file "Hi".toUTF8)]

def namedLikeManifest : Dict Path Node := .ofEntries [([], .dir), (["package.yaml"], .dir), (["package.yaml", "mcp"], .dir),
  (["package.yaml", "mcp", "server.py"], .file "".toUTF8), (["package.yaml", "knowledge"], .dir),
  (["package.yaml", "knowledge", "facts.md"], .file "Hi".toUTF8)]

theorem layerTakenFormed : FileSystem.wellFormed layerTaken = true := by rfl

theorem manifestTakenFormed : FileSystem.wellFormed manifestTaken = true := by rfl

theorem namedLikeManifestFormed : FileSystem.wellFormed namedLikeManifest = true := by rfl

def served (contents : ByteArray) : Dict Path Node := .ofEntries [([], .dir), (["pkg"], .dir), (["pkg", "mcp"], .dir),
  (["pkg", "mcp", "server.py"], .file contents), (["pkg", "skills"], .dir), (["pkg", "knowledge"], .dir),
  (["pkg", "knowledge", "facts.md"], .file "Hi".toUTF8)]

theorem servedFormed (contents : ByteArray) : FileSystem.wellFormed (served contents) = true := by rfl

/-- A file longer than eight bytes can say. -/
theorem long_server_not_saved {contents : ByteArray} (long : 18446744073709551616 ≤ contents.size) :
    ∃ e, @AgentPackage.save (smallYaml "facts.md") recordedSha256 (.ofNodes _ (servedFormed contents)) []
      (smallPackage "facts.md") smallDir none = .error e := by
  cases saved : @AgentPackage.save (smallYaml "facts.md") recordedSha256 (.ofNodes _ (servedFormed contents)) []
      (smallPackage "facts.md") smallDir none with
  | error e => exact ⟨e, rfl⟩
  | ok result =>
    simp only [AgentPackage.save, bind_eq_ok_iff, mapError_eq_ok_iff] at saved
    obtain ⟨_, -, files₀, made₀, files₁, made₁, files₂, made₂, toolRoot, resolved, files₃, made₃, hashed, set, -⟩ := saved
    have plain : PlainDirectory (.ofNodes _ (servedFormed contents)) [] smallDir ["pkg"] :=
      ⟨rfl, fun q => noLinks_of_entries rfl (["pkg"] ++ q)⟩
    obtain rfl := Except.ok.inj ((FileSystem.makeDirs_existing rfl _).symm.trans made₀)
    obtain rfl := Except.ok.inj ((FileSystem.ensureDir_existing rfl).symm.trans made₁)
    obtain rfl := Except.ok.inj ((FileSystem.ensureDir_existing rfl).symm.trans made₂)
    obtain rfl : toolRoot = ["pkg", "mcp"] := ((toolRootPath_plain plain).mp resolved).2.2.1
    obtain rfl := Except.ok.inj ((FileSystem.makeDirs_existing rfl _).symm.trans made₃)
    simp only [AgentPackage.setHashes, bind_eq_ok_iff] at set
    obtain ⟨hashes, computed, -⟩ := set
    obtain ⟨-, -, digest, -, -, tools, -⟩ := computedHashes_ok.mp computed
    obtain ⟨location, dir, bytes, encoded, -⟩ := tools.encoded plain
    have listed := (mem_treeFiles location (by rw [dir]; rfl)).mpr
      ⟨["server.py"], by decide, rfl, (rfl : (FileSystem.ofNodes _ (servedFormed contents)).get? ["pkg", "mcp", "server.py"] = _)⟩
    exact absurd (treeBytes_total.mp ⟨bytes, encoded⟩ _ listed).2 (Nat.not_lt.mpr long)

theorem save_errors :
    ((@AgentPackage.save (smallYaml "facts.md") recordedSha256 (.ofNodes _ layerTakenFormed) []
      (smallPackage "facts.md") smallDir none).map fun r => r.2.storedHashes) = .error (.os .fileExists) ∧
    ((@AgentPackage.save (smallYaml "facts.md") recordedSha256 (.ofNodes _ manifestTakenFormed) []
      (smallPackage "facts.md") smallDir none).map fun r => r.2.storedHashes) = .error (.os .isADirectory) ∧
    ((@AgentPackage.save (smallYaml "facts.md") recordedSha256 (.ofNodes _ namedLikeManifestFormed) []
      (smallPackage "facts.md") ⟨true, ["package.yaml"]⟩ none).map fun r => r.2.storedHashes) =
      .error (.fileNotFound "Artifact file does not exist: facts.md") := by
  decide +kernel

theorem served_unsaved (contents : ByteArray) (long : 18446744073709551616 ≤ contents.size) :
    Unsaved (.ofNodes _ (servedFormed contents)) smallDir ["pkg"] :=
  ⟨holds_of_files "Hi".toUTF8 contents (noLinks_of_entries rfl) rfl rfl (by decide) rfl rfl, long_server_not_saved long⟩

/-! ### A document that is gone -/

/-- A package whose document reads like the tree of a server. -/
def twinPackage : AgentPackage := { smallPackage "facts.md" with
  knowledge := [⟨"facts.md", "3ebe58ec17b546217e523c8981e880725872283be7a89063ebcebcdd77305e60", []⟩] }

def twinManifest : ByteArray :=
  ("id: baseline\nversion: '0.1'\ngeneration: 0\nparent_id: null\nknowledge:\n- path: facts.md\n" ++
    "  sha256: 3ebe58ec17b546217e523c8981e880725872283be7a89063ebcebcdd77305e60\n  tags: []\nskills: []\n" ++
    "tools:\n  root: mcp\n  server_entrypoint: server.py\n" ++
    "  sha256: 3ebe58ec17b546217e523c8981e880725872283be7a89063ebcebcdd77305e60\n" ++
    "  declared_capabilities: []\nmetadata: \x7b\x7d\n").toUTF8

@[reducible] def twinYaml : PyYaml where
  safeDump _ := twinManifest
  safeLoad bytes := if bytes = twinManifest then some twinPackage.modelDump else none

def documentNodes : Dict Path Node := smallNodes [(["pkg", "knowledge"], .dir),
  (["pkg", "knowledge", "facts.md"], .file serverBytes)]

/-- A directory with a server in the place of the document. -/
def twinNodes : Dict Path Node := smallNodes [(["pkg", "package.yaml"], .file twinManifest), (["pkg", "knowledge"], .dir),
  (["pkg", "knowledge", "facts.md"], .dir),
  (["pkg", "knowledge", "facts.md", "server.py"], .file "".toUTF8)]

theorem documentFormed : FileSystem.wellFormed documentNodes = true := by rfl

theorem twinFormed : FileSystem.wellFormed twinNodes = true := by rfl

def documentFiles : FileSystem := .ofNodes _ documentFormed

def twinFiles : FileSystem := .ofNodes _ twinFormed

theorem twin_loads {files : FileSystem} (plain : PlainDirectory files [] smallDir ["pkg"])
    (directory : files.isDir ["pkg"] = true) (manifest : files.get? ["pkg", "package.yaml"] = some (.file twinManifest))
    (verified : Verified recordedSha256 files [] twinPackage smallDir) :
    @AgentPackage.load plainInts twinYaml recordedSha256 files [] smallDir none = .ok twinPackage := by
  let _ := plainInts
  let _ := twinYaml
  exact (load_plain plain (by decide)).mpr ⟨directory, _, _, manifest, if_pos rfl, modelValidate_modelDump _, verified⟩

theorem twin_verified {files : FileSystem} (checked : twinPackage.verifyHashes recordedSha256 files [] smallDir = .ok ()) :
    Verified recordedSha256 files [] twinPackage smallDir := by
  have same : packageDirectory smallDir = smallDir := by decide
  exact same ▸ verifyHashes_ok.mp checked

theorem document_holds : Holds documentFiles [] smallDir ["pkg"] twinPackage :=
  (holds_of_files serverBytes "".toUTF8 (noLinks_of_entries rfl) rfl rfl (by decide) rfl rfl).rehashed rfl

theorem document_writable : Writable documentFiles smallDir ["pkg"] twinPackage.tools where
  notManifest := by decide
  knowledge := Or.inr rfl
  skills := Or.inl rfl
  manifest dir := by cases (dir : none = some Node.dir)
  lengths := by decide +kernel

theorem twin_plain : PlainDirectory twinFiles [] smallDir ["pkg"] :=
  ⟨rfl, fun q => noLinks_of_entries rfl (["pkg"] ++ q)⟩

/-- A saved document gives way to a directory, and the package loads. -/
def Undetected : Prop :=
  ∃ files', @AgentPackage.save twinYaml recordedSha256 documentFiles [] twinPackage smallDir none = .ok (files', twinPackage) ∧
    @AgentPackage.load plainInts twinYaml recordedSha256 files' [] smallDir none = .ok twinPackage ∧
    PlainDirectory twinFiles [] smallDir ["pkg"] ∧
    twinFiles.get? ["pkg", "package.yaml"] = files'.get? ["pkg", "package.yaml"] ∧
    files'.get? ["pkg", "knowledge", "facts.md"] = some (.file serverBytes) ∧
    twinFiles.get? ["pkg", "knowledge", "facts.md"] = some .dir ∧
    @AgentPackage.load plainInts twinYaml recordedSha256 twinFiles [] smallDir none = .ok twinPackage

theorem document_undetected : Undetected := by
  obtain ⟨files', saved, done, kept, manifest, unhashed, verified⟩ :=
    @save_holds twinYaml recordedSha256 _ _ _ _ _ document_holds document_writable
  have before : Verified recordedSha256 documentFiles [] twinPackage smallDir := twin_verified (by decide +kernel)
  obtain rfl := verified_unique verified (verified_kept document_holds.plain kept before) unhashed
  have holds := document_holds.kept kept
  have directory : files'.isDir ["pkg"] = true := by
    have found : files'.stat ["pkg"] = some ["pkg"] := holds.found
    simp [FileSystem.isDir, FileSystem.node?, found, holds.directory, Node.isDir]
  have there : twinFiles.get? ["pkg", "package.yaml"] = some (.file twinManifest) := rfl
  have document : documentFiles.get? (["pkg"] ++ ["knowledge", "facts.md"]) = some (.file serverBytes) := rfl
  exact ⟨files', done, twin_loads holds.plain directory manifest verified, twin_plain, there.trans manifest.symm,
    (kept.files _ _ (by decide)).mp document, rfl, twin_loads twin_plain rfl there (twin_verified (by decide +kernel))⟩

/-- Directories that a package is not saved in, and a document that is gone but not missed. -/
theorem unsaved_and_undetected :
    Unsaved (.ofNodes _ layerTakenFormed) smallDir ["pkg"] ∧ Unsaved (.ofNodes _ manifestTakenFormed) smallDir ["pkg"] ∧
    Unsaved (.ofNodes _ namedLikeManifestFormed) ⟨true, ["package.yaml"]⟩ ["package.yaml"] ∧
    (∀ contents : ByteArray, 18446744073709551616 ≤ contents.size →
      Unsaved (.ofNodes _ (servedFormed contents)) smallDir ["pkg"]) ∧ Undetected :=
  ⟨⟨holds_of_files "Hi".toUTF8 "".toUTF8 (noLinks_of_entries rfl) rfl rfl (by decide) rfl rfl, error_of_map save_errors.1⟩,
    ⟨holds_of_files "Hi".toUTF8 "".toUTF8 (noLinks_of_entries rfl) rfl rfl (by decide) rfl rfl, error_of_map save_errors.2.1⟩,
    ⟨holds_of_files "Hi".toUTF8 "".toUTF8 (noLinks_of_entries rfl) rfl rfl (by decide) rfl rfl, error_of_map save_errors.2.2⟩,
    served_unsaved, document_undetected⟩

end AgentGym.Core
