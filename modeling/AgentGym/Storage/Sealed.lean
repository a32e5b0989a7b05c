import AgentGym.Storage.Filesystem

/-!
# What a store leaves for the loader

Every artifact is read back as the value it was written from. The manifest of a store is
valid whatever the caller put into it, and names the hashes of the two states; the
loader accepts a state exactly if it has the hash of the one that was stored.
-/

namespace AgentGym.Storage

open Runner World

/-! ### Fields of values with the same text -/

theorem strField_sameText {a b : Json} (same : a.sameText b = true) (name : String) : strField a name = strField b name := by
  unfold strField
  rcases Json.get?_of_sameText same name with equal | ⟨v, w, left, right, leaf, leaf', -⟩
  · rw [equal]
  · rw [left, right]
    cases v <;> simp_all [Json.isLeaf] <;> cases w <;> simp_all

theorem intField_sameText [LaxInt] {a b : Json} (same : a.sameText b = true) (name : String) (missing : Option Int) :
    intField a name missing = intField b name missing := by
  unfold intField
  rcases Json.get?_of_sameText same name with equal | ⟨v, w, left, right, leaf, leaf', -⟩
  · rw [equal]
  · simp only [left, right, LaxInt.laxInt_composite leaf, LaxInt.laxInt_composite leaf']

theorem textValue_sameText {a b : Json} (same : a.sameText b = true) (name : String) :
    textValue (a.get? name) = textValue (b.get? name) := by
  rcases Json.get?_of_sameText same name with equal | ⟨v, w, left, right, leaf, leaf', -⟩
  · rw [equal]
  · rw [left, right]
    cases v <;> simp_all [Json.isLeaf] <;> cases w <;> simp_all [textValue]

theorem isStr_isLeaf {v : Json} (text : isStr v = true) : v.isLeaf = true := by
  cases v <;> simp_all [isStr, Json.isLeaf]

theorem strings_iff {kvs : List (String × Json)} :
    (Dict.ofEntries kvs).values.all isStr = true ↔ ∀ k v, kvs.lookup k = some v → isStr v = true := by
  simp only [List.all_eq_true, Dict.mem_values_iff, Dict.get?_ofEntries]
  constructor
  · intro all k v found
    exact all v ⟨k, found⟩
  · rintro all v ⟨k, found⟩
    exact all k v found

theorem stringMapField_iff {v : Json} {name : String} :
    stringMapField v name = .ok () ↔
      ∃ kvs, v.get? name = some (.obj kvs) ∧ ∀ k w, kvs.lookup k = some w → isStr w = true := by
  unfold stringMapField
  simp only [← strings_iff]
  split
  · rename_i kvs found
    simp [found]
  · rename_i other
    constructor
    · intro valid
      cases valid
    · rintro ⟨kvs, found, -⟩
      exact absurd found (other kvs)

theorem stringMapField_sameText {a b : Json} (same : a.sameText b = true) {name : String}
    (valid : stringMapField b name = .ok ()) : stringMapField a name = .ok () := by
  rw [stringMapField_iff] at valid ⊢
  obtain ⟨kvs', found, strings⟩ := valid
  rcases Json.get?_of_sameText same name with equal | ⟨v, w, left, right, -, -, inner⟩
  · exact ⟨kvs', equal.trans found, strings⟩
  · obtain rfl := Option.some.inj (right.symm.trans found)
    cases v with
    | obj kvs =>
      refine ⟨kvs, left, ?_⟩
      intro k u inside
      rcases Json.get?_of_sameText inner k with equal | ⟨_, u', -, there, -, leaf, -⟩
      · exact strings k u (equal.symm.trans inside)
      · have text := isStr_isLeaf (strings k u' there)
        rw [leaf] at text
        cases text
    | _ => cases Json.isObj_of_sameText inner

/-- The fields of a manifest that have to be texts. -/
def textFields : List String :=
  ["task_id", "task_hash", "package_id", "package_hash", "domain_version", "world_snapshot_hash"]

theorem validateManifest_iff [LaxInt] {v : Json} :
    validateManifest v = .ok () ↔
      (∀ name ∈ textFields, ∃ s, strField v name = .ok s) ∧ stringMapField v "runtime" = .ok () ∧
        stringMapField v "model" = .ok () ∧ ∃ i, intField v "seed" none = .ok i := by
  unfold validateManifest textFields
  simp only [bind_eq_ok_iff, List.forall_mem_cons, List.not_mem_nil, false_implies, implies_true, and_true]
  constructor
  · rintro ⟨_, taskId, _, taskHash, _, packageId, _, packageHash, _, version, _, world, _, runtime, _, model, i, seed, -⟩
    exact ⟨⟨⟨_, taskId⟩, ⟨_, taskHash⟩, ⟨_, packageId⟩, ⟨_, packageHash⟩, ⟨_, version⟩, ⟨_, world⟩⟩, runtime, model, i, seed⟩
  · rintro ⟨⟨⟨_, taskId⟩, ⟨_, taskHash⟩, ⟨_, packageId⟩, ⟨_, packageHash⟩, ⟨_, version⟩, ⟨_, world⟩⟩, runtime, model, i, seed⟩
    exact ⟨_, taskId, _, taskHash, _, packageId, _, packageHash, _, version, _, world, _, runtime, _, model, i, seed, rfl⟩

theorem validateManifest_sameText [LaxInt] {a b : Json} (same : a.sameText b = true) (valid : validateManifest b = .ok ()) :
    validateManifest a = .ok () := by
  rw [validateManifest_iff] at valid ⊢
  obtain ⟨texts, runtime, model, seed⟩ := valid
  refine ⟨?_, stringMapField_sameText same runtime, stringMapField_sameText same model, ?_⟩
  · intro name member
    rw [strField_sameText same]
    exact texts name member
  · rw [intField_sameText same]
    exact seed

/-! ### The manifest of a store -/

section Store

variable [PyJson] {sha256 : ByteArray → String}

theorem stringMapping_strings (value : Dict String Json) (defaults : List (String × String)) {k : String} {v : Json}
    (found : (stringMapping value defaults).get? k = some v) : isStr v = true := by
  unfold stringMapping at found
  rcases Dict.get?_update_eq_some found with earlier | changed
  · rcases Dict.get?_update_eq_some earlier with none | default
    · cases none
    · obtain ⟨e, -, same⟩ := List.mem_map.mp default
      cases same
      rfl
  · obtain ⟨e, -, same⟩ := List.mem_map.mp changed
    cases same
    rfl

variable {now runId taskId taskHash packageId packageHash : String} {args : StoreArgs}

theorem runFields_functional :
    Dict.Functional (runFields sha256 now runId taskId taskHash packageId packageHash args) := by
  apply Dict.functional_of_nodup
  unfold runFields
  simp only [List.map_cons, List.map_nil]
  decide

theorem manifestResult_get? {k : String} {v : Json}
    (member : (k, v) ∈ runFields sha256 now runId taskId taskHash packageId packageHash args) :
    (manifestResult sha256 now runId taskId taskHash packageId packageHash args).get? k = some v :=
  Dict.get?_update_of_mem runFields_functional member _

/-- The manifest of a store passes the check that follows, whatever the caller gave. -/
theorem manifestResult_valid :
    validateManifest (.ofDict (manifestResult sha256 now runId taskId taskHash packageId packageHash args)) = .ok () := by
  have field : ∀ {k v}, (k, v) ∈ runFields sha256 now runId taskId taskHash packageId packageHash args →
      (Json.ofDict (manifestResult sha256 now runId taskId taskHash packageId packageHash args)).get? k = some v :=
    manifestResult_get?
  have text : ∀ {name s}, (name, Json.str s) ∈ runFields sha256 now runId taskId taskHash packageId packageHash args →
      ∃ s, strField (.ofDict (manifestResult sha256 now runId taskId taskHash packageId packageHash args)) name = .ok s := by
    intro name s member
    exact ⟨s, by unfold strField; rw [field member]⟩
  have mapping : ∀ {name value defaults},
      (name, Json.ofDict (stringMapping value defaults)) ∈
        runFields sha256 now runId taskId taskHash packageId packageHash args →
      stringMapField (.ofDict (manifestResult sha256 now runId taskId taskHash packageId packageHash args)) name =
        .ok () := by
    intro name value defaults member
    exact stringMapField_iff.mpr ⟨_, field member, fun k w found => stringMapping_strings value defaults found⟩
  rw [validateManifest_iff]
  refine ⟨?_, mapping (List.mem_of_getElem? (i := 7) rfl), mapping (List.mem_of_getElem? (i := 8) rfl), ?_⟩
  · simp only [textFields, List.forall_mem_cons]
    exact ⟨text (List.mem_of_getElem? (i := 1) rfl), text (List.mem_of_getElem? (i := 2) rfl),
      text (List.mem_of_getElem? (i := 3) rfl), text (List.mem_of_getElem? (i := 4) rfl),
      text (List.mem_of_getElem? (i := 5) rfl), text (List.mem_of_getElem? (i := 6) rfl), by simp⟩
  · unfold intField
    rw [field (List.mem_of_getElem? (i := 9) rfl)]
    dsimp only
    rw [LaxInt.laxInt_int]
    exact ⟨_, rfl⟩

/-! ### The five files -/

theorem assembleManifest_ok {dirName : String} {result : Dict String Json}
    (assembled : assembleManifest sha256 now dirName taskId packageId args = .ok result) :
    ∃ runId taskHash packageHash,
      result = manifestResult sha256 now runId taskId taskHash packageId packageHash args := by
  unfold assembleManifest at assembled
  simp only [bind_eq_ok_iff] at assembled
  obtain ⟨taskHash, -, packageHash, -, assembled⟩ := assembled
  split at assembled
  · cases assembled
  · obtain ⟨_, -, same⟩ := bind_eq_ok_iff.mp assembled
    exact ⟨args.resolvedRunId dirName, taskHash, packageHash, (Except.ok.inj same).symm⟩

/-- The manifest of a call, which its other files have no part in. -/
def manifestOf (sha256 : ByteArray → String) (now dirName : String) (args : StoreArgs) : Except String (Dict String Json) :=
  match args.resolvedTaskId, args.resolvedPackageId with
  | some taskId, some packageId => assembleManifest sha256 now dirName taskId packageId args
  | _, _ => .error "store_run requires task_id and package_id"

/-- The files of one call, with the data of its manifest. -/
structure Prepared (sha256 : ByteArray → String) (args : StoreArgs) (result : Dict String Json) (new : RunBytes) : Prop where
  initialState : new.initialState = canonicalJsonBytes args.initialValue
  finalState : new.finalState = canonicalJsonBytes args.finalValue
  trajectory : trajectoryBytes args.trajectory = .ok new.trajectory
  verification : new.verification = canonicalJsonBytes args.verificationValue
  manifest : new.manifest = canonicalJsonBytes (.ofDict result)
  fields : ∃ now runId taskId taskHash packageId packageHash,
    result = manifestResult sha256 now runId taskId taskHash packageId packageHash args

theorem prepare_ok {dirName : String} {new : RunBytes} (prepared : prepare sha256 now dirName args = .ok new) :
    ∃ result, manifestOf sha256 now dirName args = .ok result ∧ Prepared sha256 args result new := by
  unfold prepare at prepared
  split at prepared
  · rename_i taskId packageId task package
    simp only [bind_eq_ok_iff] at prepared
    obtain ⟨trajectory, written, result, assembled, same⟩ := prepared
    obtain ⟨runId, taskHash, packageHash, fields⟩ := assembleManifest_ok assembled
    obtain rfl := Except.ok.inj same
    refine ⟨result, ?_, rfl, rfl, written, rfl, rfl, now, runId, taskId, taskHash, packageId, packageHash, fields⟩
    unfold manifestOf
    rw [task, package]
    exact assembled
  · cases prepared

/-- `store_run` gets as far as writing unless an id is missing, a hash is refused or the trajectory is invalid. -/
theorem prepare_succeeds {dirName : String} {trajectory : ByteArray} (task : args.resolvedTaskId = some taskId)
    (package : args.resolvedPackageId = some packageId) (written : trajectoryBytes args.trajectory = .ok trajectory)
    (taskDigest : hashSource sha256 args.task
      ((nonEmpty args.taskHash).or (textValue ((mappingValue (some args.manifest)).get? "task_hash")))
      (.obj [("task_id", .str taskId)]) = .ok taskHash)
    (packageDigest : hashSource sha256 args.package
      ((nonEmpty args.packageHash).or (textValue ((mappingValue (some args.manifest)).get? "package_hash")))
      (.obj [("package_id", .str packageId)]) = .ok packageHash)
    (world : args.worldSnapshotHash = none) : ∃ new, prepare sha256 now dirName args = .ok new := by
  have assembled : ∃ result, assembleManifest sha256 now dirName taskId packageId args = .ok result := by
    unfold assembleManifest
    simp only [taskDigest, packageDigest, world, manifestResult_valid]
    exact ⟨_, rfl⟩
  obtain ⟨result, assembled⟩ := assembled
  unfold prepare
  simp only [task, package, written, assembled]
  exact ⟨_, rfl⟩

theorem hashSource_supplied {digest : String} (valid : isDigest digest = true) (fallback : Json) :
    hashSource sha256 .null (some digest) fallback = .ok digest := by
  unfold hashSource
  exact if_pos valid

theorem loadsBytes_canonical (v : Json) :
    ∃ w, PyJson.loadsBytes (canonicalJsonBytes v) = .ok w ∧ w.sameText v = true := PyJson.loadsBytes_dumps v

/-- A manifest that names the hashes of the two states. -/
structure Sealed (sha256 : ByteArray → String) (new : RunBytes) (manifest : Json) : Prop where
  reads : loadManifest (some new.manifest) = .ok manifest
  initial : textValue (manifest.get? "initial_state_hash") = some (sha256 new.initialState)
  world : textValue (manifest.get? "world_snapshot_hash") = some (sha256 new.initialState)
  final : textValue (manifest.get? "final_state_hash") = some (sha256 new.finalState)

theorem readJson_ok {name : String} {bytes : ByteArray} {v : Json} :
    readJson name bytes = .ok v ↔ PyJson.loadsBytes bytes = .ok v ∧ v.isObj = true := by
  unfold readJson
  rw [bind_eq_ok_iff]
  constructor
  · rintro ⟨w, reads, checked⟩
    split at checked
    · cases checked
      exact ⟨reads, by assumption⟩
    · cases checked
  · rintro ⟨reads, object⟩
    exact ⟨v, reads, if_pos object⟩

theorem loadManifest_ok {bytes : ByteArray} {v : Json} :
    loadManifest (some bytes) = .ok v ↔
      PyJson.loadsBytes bytes = .ok v ∧ v.isObj = true ∧ validateManifest v = .ok () := by
  unfold loadManifest
  simp only [mapError_eq_ok_iff, bind_eq_ok_iff, readJson_ok]
  constructor
  · rintro ⟨_, opened, w, ⟨reads, object⟩, _, valid, same⟩
    cases opened
    cases same
    exact ⟨reads, object, valid⟩
  · rintro ⟨reads, object, valid⟩
    exact ⟨bytes, rfl, v, ⟨reads, object⟩, (), valid, rfl⟩

omit [PyJson] in
theorem textValue_str {s : String} (some_ : s ≠ "") : textValue (some (.str s)) = some s := if_neg some_

/-- The manifest of a store is read back, and is the seal of the two states. -/
theorem Prepared.sealed {result : Dict String Json} {new : RunBytes} (prepared : Prepared sha256 args result new)
    (nonempty : ∀ bytes, sha256 bytes ≠ "") :
    ∃ manifest, Sealed sha256 new manifest ∧ manifest.sameText (.ofDict result) = true := by
  obtain ⟨initialState, finalState, -, -, written, now, runId, taskId, taskHash, packageId, packageHash, rfl⟩ := prepared
  obtain ⟨manifest, reads, same⟩ :=
    loadsBytes_canonical (.ofDict (manifestResult sha256 now runId taskId taskHash packageId packageHash args))
  have digest : ∀ {name bytes}, (name, Json.str (sha256 bytes)) ∈
      runFields sha256 now runId taskId taskHash packageId packageHash args →
      textValue (manifest.get? name) = some (sha256 bytes) := by
    intro name bytes member
    rw [textValue_sameText same, Json.get?_ofDict, manifestResult_get? member, textValue_str (nonempty bytes)]
  refine ⟨manifest, ⟨?_, ?_, ?_, ?_⟩, same⟩
  · rw [written, loadManifest_ok]
    exact ⟨reads, Json.isObj_of_sameText same, validateManifest_sameText same manifestResult_valid⟩
  · rw [initialState]
    exact digest (List.mem_of_getElem? (i := 12) rfl)
  · rw [initialState]
    exact digest (List.mem_of_getElem? (i := 6) rfl)
  · rw [finalState]
    exact digest (List.mem_of_getElem? (i := 13) rfl)

/-! ### The loader -/

omit [PyJson] in
theorem readBytes_ok {name : String} {file : Option ByteArray} {bytes : ByteArray} :
    readBytes name file = .ok bytes ↔ file = some bytes := by
  cases file <;> simp [readBytes]

theorem loadStates_ok {new : RunBytes} {manifest : Json} (seal_ : Sealed sha256 new manifest)
    {initialFile finalFile : Option ByteArray} {initial final : ByteArray} :
    loadStates sha256 manifest initialFile finalFile = .ok (initial, final) ↔
      initialFile = some initial ∧ finalFile = some final ∧ sha256 initial = sha256 new.initialState ∧
        sha256 final = sha256 new.finalState := by
  unfold loadStates
  simp only [bind_eq_ok_iff, mapError_eq_ok_iff, readBytes_ok, seal_.initial, seal_.world, seal_.final]
  simp only [Option.any_some, bne_iff_ne, ne_eq, Option.some.injEq, ite_not]
  constructor
  · rintro ⟨i, first, f, second, checked⟩
    split at checked
    · rename_i sameInitial
      split at checked
      · cases checked
        exact ⟨first, second, sameInitial.symm, by assumption⟩
      · cases checked
    · cases checked
  · rintro ⟨first, second, initialHash, finalHash⟩
    exact ⟨initial, first, final, second, by rw [if_pos initialHash.symm, if_pos initialHash.symm, if_pos finalHash]⟩

theorem loadArtifacts_ok {manifest : Json} {initial final : ByteArray} {verificationFile trajectoryFile : Option ByteArray}
    {run : StoredRun} :
    loadArtifacts manifest initial final verificationFile trajectoryFile = .ok run ↔
      run.manifest = manifest ∧ PyJson.loadsBytes initial = .ok run.initialState ∧
        PyJson.loadsBytes final = .ok run.finalState ∧
        (∃ bytes, verificationFile = some bytes ∧ readJson "verification.json" bytes = .ok run.verification) ∧
        ∃ bytes, trajectoryFile = some bytes ∧ loadTrajectory bytes = .ok run.trajectory := by
  unfold loadArtifacts
  simp only [bind_eq_ok_iff, mapError_eq_ok_iff, readBytes_ok]
  constructor
  · rintro ⟨initialState, initialReads, finalState, finalReads, bytes, opened, verification, verified, lines, there,
      trajectory, loaded, same⟩
    cases same
    exact ⟨rfl, initialReads, finalReads, ⟨bytes, opened, verified⟩, lines, there, loaded⟩
  · obtain ⟨_, trajectory, initialState, finalState, verification⟩ := run
    rintro ⟨rfl, initialReads, finalReads, ⟨bytes, opened, verified⟩, lines, there, loaded⟩
    exact ⟨initialState, initialReads, finalState, finalReads, bytes, opened, verification, verified, lines, there,
      trajectory, loaded, rfl⟩

theorem loadRun_ok {files : RunFiles} {run : StoredRun} :
    loadRun sha256 files = .ok run ↔
      ∃ manifest initial final, loadManifest files.manifest = .ok manifest ∧
        loadStates sha256 manifest files.initialState files.finalState = .ok (initial, final) ∧
        loadArtifacts manifest initial final files.verification files.trajectory = .ok run := by
  unfold loadRun
  simp only [bind_eq_ok_iff]
  constructor
  · rintro ⟨manifest, read, ⟨initial, final⟩, states, loaded⟩
    exact ⟨manifest, initial, final, read, states, loaded⟩
  · rintro ⟨manifest, initial, final, read, states, loaded⟩
    exact ⟨manifest, read, (initial, final), states, loaded⟩

end Store

end AgentGym.Storage
