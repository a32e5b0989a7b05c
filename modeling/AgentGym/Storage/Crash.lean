import AgentGym.Storage.Reload

/-!
# Crashes between two replacements

The manifest names the hashes of the two states only. A crash can leave the new
trajectory, and then the new verification, under the manifest of the earlier run, and
the loader notices nothing when the states of the two runs are the same.
-/

namespace AgentGym.Storage

open Runner World

theorem TrajectoryEvent.Same.refl (e : TrajectoryEvent) : e.Same e :=
  ⟨rfl, rfl, rfl, rfl, Json.sameText_refl _⟩

/-- The same run, its values with the same text. -/
structure StoredRun.Same (run run' : StoredRun) : Prop where
  manifest : run.manifest.sameText run'.manifest = true
  initialState : run.initialState.sameText run'.initialState = true
  finalState : run.finalState.sameText run'.finalState = true
  verification : run.verification.sameText run'.verification = true
  trajectory : List.Forall₂ TrajectoryEvent.Same run.trajectory run'.trajectory

theorem StoredRun.Same.refl (run : StoredRun) : run.Same run :=
  ⟨Json.sameText_refl _, Json.sameText_refl _, Json.sameText_refl _, Json.sameText_refl _,
    List.forall₂_same.mpr fun e _ => TrajectoryEvent.Same.refl e⟩

/-- The runs of a trajectory under the artifacts of one call differ as their events do. -/
theorem StoredRun.Same.of_events {manifest initialState finalState verification : Json} {events events' : List TrajectoryEvent}
    (same : List.Forall₂ TrajectoryEvent.Same events events') :
    (StoredRun.mk manifest events initialState finalState verification).Same
      (StoredRun.mk manifest events' initialState finalState verification) :=
  ⟨Json.sameText_refl _, Json.sameText_refl _, Json.sameText_refl _, Json.sameText_refl _, same⟩

/-- A call of `store_run`. -/
structure StoreCall where
  now : String
  dirName : String
  args : StoreArgs

section Crash

variable [PyJson] (sha256 : ByteArray → String)

def StoreCall.prepare (call : StoreCall) : Except String RunBytes :=
  Storage.prepare sha256 call.now call.dirName call.args

/-- A run directory that is empty, or holds what an earlier call left in it. -/
inductive Holds : RunFiles → Option StoreCall → Prop
  | empty : Holds noFiles none
  | complete {call : StoreCall} {old : RunBytes} (prepared : call.prepare sha256 = .ok old) (before : RunFiles) :
      Holds (replaced before old 5) (some call)

/-- After a crash the loader raises, or returns the earlier run, or the new one. -/
def AllOrNothing (files : RunFiles) (new : RunBytes) : Prop :=
  ∀ k run, loadRun sha256 (replaced files new k) = .ok run →
    (∃ earlier, loadRun sha256 files = .ok earlier ∧ run.Same earlier) ∨
      ∃ complete, loadRun sha256 (replaced files new 5) = .ok complete ∧ run.Same complete

/-! ### Which mixtures are noticed -/

/-- The events that are read back from what is stored of a trajectory. -/
def storedEvents (source : TrajectorySource) : Except String (List TrajectoryEvent) :=
  trajectoryBytes source >>= loadTrajectory

theorem storedEvents_written {items : List EventSource} {bytes : ByteArray}
    (written : trajectoryBytes (.events items) = .ok bytes) :
    ∃ events, storedEvents (.events items) = .ok events ∧
      List.Forall₂ (fun loaded item => ∃ e, item.validated = .ok e ∧ loaded.Same e) events items := by
  obtain ⟨events, loaded, same⟩ := loadTrajectory_written written
  refine ⟨events, ?_, same⟩
  unfold storedEvents
  rw [written]
  exact loaded

def SameTrajectory (new old : StoreArgs) : Prop :=
  ∃ events events', storedEvents new.trajectory = .ok events ∧ storedEvents old.trajectory = .ok events' ∧
    List.Forall₂ TrajectoryEvent.Same events events'

omit [PyJson] in
def SameVerification (new old : StoreArgs) : Prop :=
  new.verificationValue.isObj = true ∧ old.verificationValue.isObj = true ∧
    new.verificationValue.sameText old.verificationValue = true

def SameManifest (new old : StoreCall) : Prop :=
  ∃ result result', manifestOf sha256 new.now new.dirName new.args = .ok result ∧
    manifestOf sha256 old.now old.dirName old.args = .ok result' ∧
    (Json.ofDict result).sameText (.ofDict result') = true

/-- No crash leaves a mixture of two runs behind that the loader takes: a state tells them apart, or what is stored
of the new run under the manifest of the earlier one is no mixture. -/
def CrashSafe (new old : StoreCall) : Prop :=
  new.args.initialValue.sameText old.args.initialValue = true → new.args.finalValue.sameText old.args.finalValue = true →
    ∀ events, storedEvents new.args.trajectory = .ok events →
      (old.args.verificationValue.isObj = true →
        SameTrajectory new.args old.args ∨ SameVerification new.args old.args ∧ SameManifest sha256 new old) ∧
      (new.args.verificationValue.isObj = true →
        SameTrajectory new.args old.args ∧ SameVerification new.args old.args ∨ SameManifest sha256 new old)

variable {sha256}

/-! ### What the files of a call read as -/

/-- What the files of a call read as. -/
structure Reading (sha256 : ByteArray → String) (call : StoreCall) (bytes : RunBytes) where
  result : Dict String Json
  manifest : Json
  initialState : Json
  finalState : Json
  verification : Json
  assembled : manifestOf sha256 call.now call.dirName call.args = .ok result
  seal_ : Sealed sha256 bytes manifest
  manifestSame : manifest.sameText (.ofDict result) = true
  initialBytes : bytes.initialState = canonicalJsonBytes call.args.initialValue
  finalBytes : bytes.finalState = canonicalJsonBytes call.args.finalValue
  initialReads : PyJson.loadsBytes bytes.initialState = .ok initialState
  finalReads : PyJson.loadsBytes bytes.finalState = .ok finalState
  verificationReads : PyJson.loadsBytes bytes.verification = .ok verification
  verificationSame : verification.sameText call.args.verificationValue = true
  trajectoryReads : loadTrajectory bytes.trajectory = storedEvents call.args.trajectory

theorem exists_reading (nonempty : ∀ bytes, sha256 bytes ≠ "") {call : StoreCall} {bytes : RunBytes}
    (prepared : call.prepare sha256 = .ok bytes) : Nonempty (Reading sha256 call bytes) := by
  obtain ⟨result, assembled, written⟩ := prepare_ok prepared
  obtain ⟨manifest, seal_, manifestSame⟩ := written.sealed nonempty
  obtain ⟨initialState, initialReads, -⟩ := loadsBytes_canonical call.args.initialValue
  obtain ⟨finalState, finalReads, -⟩ := loadsBytes_canonical call.args.finalValue
  obtain ⟨verification, verificationReads, verificationSame⟩ := loadsBytes_canonical call.args.verificationValue
  refine ⟨⟨result, manifest, initialState, finalState, verification, assembled, seal_, manifestSame, written.initialState,
    written.finalState, written.initialState ▸ initialReads, written.finalState ▸ finalReads,
    written.verification ▸ verificationReads, verificationSame, ?_⟩⟩
  unfold storedEvents
  rw [written.trajectory]
  rfl

/-- Under a manifest of a call the loader takes the states of that call alone, with any trajectory and verification. -/
theorem loadRun_under (injective : Function.Injective sha256) {call : StoreCall} {bytes : RunBytes}
    (reading : Reading sha256 call bytes) {files : RunFiles} {verification trajectory : ByteArray} {run : StoredRun}
    (manifestFile : files.manifest = some bytes.manifest) (verificationFile : files.verification = some verification)
    (trajectoryFile : files.trajectory = some trajectory) :
    loadRun sha256 files = .ok run ↔
      files.initialState = some bytes.initialState ∧ files.finalState = some bytes.finalState ∧
        run.manifest = reading.manifest ∧ run.initialState = reading.initialState ∧ run.finalState = reading.finalState ∧
        (PyJson.loadsBytes verification = .ok run.verification ∧ run.verification.isObj = true) ∧
        loadTrajectory trajectory = .ok run.trajectory := by
  rw [loadRun_ok]
  constructor
  · rintro ⟨manifest, initial, final, read, states, loaded⟩
    rw [manifestFile, reading.seal_.reads] at read
    obtain rfl := Except.ok.inj read
    obtain ⟨first, second, initialHash, finalHash⟩ := (loadStates_ok reading.seal_).mp states
    obtain rfl := injective initialHash
    obtain rfl := injective finalHash
    obtain ⟨same, initialReads, finalReads, ⟨_, opened, verified⟩, _, opened', events⟩ := loadArtifacts_ok.mp loaded
    rw [reading.initialReads] at initialReads
    rw [reading.finalReads] at finalReads
    obtain rfl := Option.some.inj (verificationFile.symm.trans opened)
    obtain rfl := Option.some.inj (trajectoryFile.symm.trans opened')
    exact ⟨first, second, same, (Except.ok.inj initialReads).symm, (Except.ok.inj finalReads).symm, readJson_ok.mp verified,
      events⟩
  · rintro ⟨first, second, same, initialSame, finalSame, verified, events⟩
    refine ⟨reading.manifest, bytes.initialState, bytes.finalState, ?_, ?_, ?_⟩
    · rw [manifestFile]
      exact reading.seal_.reads
    · exact (loadStates_ok reading.seal_).mpr ⟨first, second, rfl, rfl⟩
    · rw [loadArtifacts_ok]
      exact ⟨same, initialSame ▸ reading.initialReads, finalSame ▸ reading.finalReads,
        ⟨verification, verificationFile, readJson_ok.mpr verified⟩, trajectory, trajectoryFile, events⟩

/-- Two calls write the same states exactly if these have the same text. -/
theorem sameBytes_iff {a b : Json} : canonicalJsonBytes a = canonicalJsonBytes b ↔ a.sameText b = true := by
  constructor
  · intro same
    obtain ⟨v, reads, textA⟩ := loadsBytes_canonical a
    obtain ⟨w, reads', textB⟩ := loadsBytes_canonical b
    rw [same, reads'] at reads
    obtain rfl := Except.ok.inj reads
    exact Json.sameText_trans (Json.sameText_symm textA) textB
  · intro same
    unfold canonicalJsonBytes canonicalJson
    rw [JsonText.dumps_of_sameText _ same]

/-! ### Directories with files of two calls -/

theorem loadRun_mixture (injective : Function.Injective sha256) {call callV callT : StoreCall}
    {bytes bytesV bytesT : RunBytes} (reading : Reading sha256 call bytes) (readingV : Reading sha256 callV bytesV)
    (readingT : Reading sha256 callT bytesT) {files : RunFiles} {run : StoredRun}
    (manifestFile : files.manifest = some bytes.manifest) (verificationFile : files.verification = some bytesV.verification)
    (trajectoryFile : files.trajectory = some bytesT.trajectory) :
    loadRun sha256 files = .ok run ↔
      files.initialState = some bytes.initialState ∧ files.finalState = some bytes.finalState ∧
        callV.args.verificationValue.isObj = true ∧ ∃ events, storedEvents callT.args.trajectory = .ok events ∧
          run = ⟨reading.manifest, events, reading.initialState, reading.finalState, readingV.verification⟩ := by
  rw [loadRun_under injective reading manifestFile verificationFile trajectoryFile, readingV.verificationReads,
    readingT.trajectoryReads, ← Json.isObj_of_sameText readingV.verificationSame]
  constructor
  · rintro ⟨first, second, same, initialSame, finalSame, ⟨verified, object⟩, events⟩
    obtain ⟨manifest, trajectory, initialState, finalState, verification⟩ := run
    obtain rfl := Except.ok.inj verified
    cases same
    cases initialSame
    cases finalSame
    exact ⟨first, second, object, trajectory, events, rfl⟩
  · rintro ⟨first, second, object, events, stored, rfl⟩
    exact ⟨first, second, rfl, rfl, rfl, ⟨rfl, object⟩, stored⟩

section Pair

variable {new old : StoreCall} {newBytes oldBytes : RunBytes} (readingNew : Reading sha256 new newBytes)
  (readingOld : Reading sha256 old oldBytes)

include readingNew readingOld

theorem sameManifest_iff : SameManifest sha256 new old ↔ readingNew.manifest.sameText readingOld.manifest = true := by
  constructor
  · rintro ⟨result, result', assembled, assembled', same⟩
    obtain rfl := Except.ok.inj (readingNew.assembled.symm.trans assembled)
    obtain rfl := Except.ok.inj (readingOld.assembled.symm.trans assembled')
    exact Json.sameText_trans readingNew.manifestSame (Json.sameText_trans same (Json.sameText_symm readingOld.manifestSame))
  · intro same
    exact ⟨readingNew.result, readingOld.result, readingNew.assembled, readingOld.assembled,
      Json.sameText_trans (Json.sameText_symm readingNew.manifestSame) (Json.sameText_trans same readingOld.manifestSame)⟩

theorem sameVerification_iff : SameVerification new.args old.args ↔
    new.args.verificationValue.isObj = true ∧ old.args.verificationValue.isObj = true ∧
      readingNew.verification.sameText readingOld.verification = true := by
  have texts : new.args.verificationValue.sameText old.args.verificationValue = true ↔
      readingNew.verification.sameText readingOld.verification = true := by
    constructor
    · intro same
      exact Json.sameText_trans readingNew.verificationSame
        (Json.sameText_trans same (Json.sameText_symm readingOld.verificationSame))
    · intro same
      exact Json.sameText_trans (Json.sameText_symm readingNew.verificationSame)
        (Json.sameText_trans same readingOld.verificationSame)
  unfold SameVerification
  rw [texts]

theorem sameStates (initialSame : newBytes.initialState = oldBytes.initialState)
    (finalSame : newBytes.finalState = oldBytes.finalState) :
    readingNew.initialState = readingOld.initialState ∧ readingNew.finalState = readingOld.finalState := by
  have initialReads := readingNew.initialReads
  have finalReads := readingNew.finalReads
  rw [initialSame, readingOld.initialReads] at initialReads
  rw [finalSame, readingOld.finalReads] at finalReads
  exact ⟨(Except.ok.inj initialReads).symm, (Except.ok.inj finalReads).symm⟩

/-- Whatever the crash left of the earlier run, its states are those of the new one. -/
theorem states_text (same : newBytes.initialState = oldBytes.initialState ∧ newBytes.finalState = oldBytes.finalState) :
    readingOld.initialState.sameText readingNew.initialState = true ∧
      readingOld.finalState.sameText readingNew.finalState = true := by
  obtain ⟨initial, final⟩ := sameStates readingNew readingOld same.1 same.2
  rw [initial, final]
  exact ⟨Json.sameText_refl _, Json.sameText_refl _⟩

theorem sameStateBytes_iff :
    newBytes.initialState = oldBytes.initialState ∧ newBytes.finalState = oldBytes.finalState ↔
      new.args.initialValue.sameText old.args.initialValue = true ∧
        new.args.finalValue.sameText old.args.finalValue = true := by
  rw [readingNew.initialBytes, readingOld.initialBytes, readingNew.finalBytes, readingOld.finalBytes, sameBytes_iff,
    sameBytes_iff]

end Pair

omit [PyJson] in
theorem replaced_all (files : RunFiles) (new : RunBytes) {k : Nat} (all : 5 ≤ k) :
    replaced files new k = replaced files new 5 := by
  have reached : ∀ n ≤ 5, (n ≤ k ↔ n ≤ 5) := fun n le => ⟨fun _ => le, fun _ => Nat.le_trans le all⟩
  unfold replaced
  simp only [reached 1 (by decide), reached 2 (by decide), reached 3 (by decide), reached 4 (by decide),
    reached 5 (by decide)]

omit [PyJson] in
/-- Until the third replacement only states are new. -/
theorem replaced_states {files : RunFiles} {new : RunBytes} {k : Nat} (early : k ≤ 2) :
    (replaced files new k).manifest = files.manifest ∧ (replaced files new k).verification = files.verification ∧
      (replaced files new k).trajectory = files.trajectory := by
  unfold replaced
  exact ⟨if_neg (by omega), if_neg (by omega), if_neg (by omega)⟩

/-- The five files of a call are taken, or its verification is no object or its trajectory cannot be read. -/
theorem loadRun_complete (injective : Function.Injective sha256) {call : StoreCall} {bytes : RunBytes}
    (reading : Reading sha256 call bytes) (before : RunFiles) {run : StoredRun} :
    loadRun sha256 (replaced before bytes 5) = .ok run ↔
      call.args.verificationValue.isObj = true ∧ ∃ events, storedEvents call.args.trajectory = .ok events ∧
        run = ⟨reading.manifest, events, reading.initialState, reading.finalState, reading.verification⟩ := by
  rw [loadRun_mixture injective reading reading reading rfl rfl rfl]
  constructor
  · rintro ⟨-, -, loaded⟩
    exact loaded
  · intro loaded
    exact ⟨rfl, rfl, loaded⟩

section Complete

variable (injective : Function.Injective sha256) {new old : StoreCall} {newBytes oldBytes : RunBytes}
  (readingNew : Reading sha256 new newBytes) (readingOld : Reading sha256 old oldBytes) (before : RunFiles)

include injective

/-- A crash between two states is noticed unless it changed nothing. -/
theorem loadRun_early (readingOld : Reading sha256 old oldBytes) {k : Nat} (early : k ≤ 2) {run : StoredRun}
    (loaded : loadRun sha256 (replaced (replaced before oldBytes 5) newBytes k) = .ok run) :
    loadRun sha256 (replaced before oldBytes 5) = .ok run := by
  obtain ⟨manifestFile, verificationFile, trajectoryFile⟩ :=
    @replaced_states (replaced before oldBytes 5) newBytes k early
  obtain ⟨-, -, object, events, stored, rfl⟩ :=
    (loadRun_mixture injective readingOld readingOld readingOld manifestFile verificationFile trajectoryFile).mp loaded
  exact (loadRun_complete injective readingOld before).mpr ⟨object, events, stored, rfl⟩

include readingNew readingOld

theorem loadRun_third {run : StoredRun} :
    loadRun sha256 (replaced (replaced before oldBytes 5) newBytes 3) = .ok run ↔
      (newBytes.initialState = oldBytes.initialState ∧ newBytes.finalState = oldBytes.finalState) ∧
        old.args.verificationValue.isObj = true ∧ ∃ events, storedEvents new.args.trajectory = .ok events ∧
          run = ⟨readingOld.manifest, events, readingOld.initialState, readingOld.finalState, readingOld.verification⟩ := by
  rw [loadRun_mixture injective readingOld readingOld readingNew rfl rfl rfl, and_assoc]
  simp [replaced]

theorem loadRun_fourth {run : StoredRun} :
    loadRun sha256 (replaced (replaced before oldBytes 5) newBytes 4) = .ok run ↔
      (newBytes.initialState = oldBytes.initialState ∧ newBytes.finalState = oldBytes.finalState) ∧
        new.args.verificationValue.isObj = true ∧ ∃ events, storedEvents new.args.trajectory = .ok events ∧
          run = ⟨readingOld.manifest, events, readingOld.initialState, readingOld.finalState, readingNew.verification⟩ := by
  rw [loadRun_mixture injective readingOld readingNew readingNew rfl rfl rfl, and_assoc]
  simp [replaced]

theorem allOrNothing_of_crashSafe (safe : CrashSafe sha256 new old) :
    AllOrNothing sha256 (replaced before oldBytes 5) newBytes := by
  intro k run loaded
  rcases Nat.lt_or_ge k 3 with early | late
  · exact Or.inl ⟨run, loadRun_early injective before readingOld (by omega) loaded, StoredRun.Same.refl run⟩
  rcases Nat.lt_or_ge 4 k with all | notAll
  · rw [replaced_all _ _ all] at loaded
    exact Or.inr ⟨run, loaded, StoredRun.Same.refl run⟩
  have eventsSame : ∀ events : List TrajectoryEvent, List.Forall₂ TrajectoryEvent.Same events events :=
    fun events => List.forall₂_same.mpr fun e _ => TrajectoryEvent.Same.refl e
  obtain rfl | rfl : k = 3 ∨ k = 4 := by omega
  · -- the new trajectory under the earlier verification and manifest
    obtain ⟨same, object, events, stored, rfl⟩ := (loadRun_third injective readingNew readingOld before).mp loaded
    obtain ⟨initialSame, finalSame⟩ := (sameStateBytes_iff readingNew readingOld).mp same
    obtain ⟨initialText, finalText⟩ := states_text readingNew readingOld same
    rcases (safe initialSame finalSame events stored).1 object with trajectory | ⟨verification, manifest⟩
    · obtain ⟨events₁, earlier, stored₁, storedEarlier, sameEvents⟩ := trajectory
      obtain rfl := Except.ok.inj (stored.symm.trans stored₁)
      exact Or.inl ⟨_, (loadRun_complete injective readingOld before).mpr ⟨object, earlier, storedEarlier, rfl⟩,
        StoredRun.Same.of_events sameEvents⟩
    · obtain ⟨newObject, -, sameVerification⟩ := (sameVerification_iff readingNew readingOld).mp verification
      have sameManifest := (sameManifest_iff readingNew readingOld).mp manifest
      exact Or.inr ⟨_, (loadRun_complete injective readingNew _).mpr ⟨newObject, events, stored, rfl⟩,
        ⟨Json.sameText_symm sameManifest, initialText, finalText, Json.sameText_symm sameVerification, eventsSame events⟩⟩
  · -- the new verification as well
    obtain ⟨same, object, events, stored, rfl⟩ := (loadRun_fourth injective readingNew readingOld before).mp loaded
    obtain ⟨initialSame, finalSame⟩ := (sameStateBytes_iff readingNew readingOld).mp same
    obtain ⟨initialText, finalText⟩ := states_text readingNew readingOld same
    rcases (safe initialSame finalSame events stored).2 object with ⟨trajectory, verification⟩ | manifest
    · obtain ⟨events₁, earlier, stored₁, storedEarlier, sameEvents⟩ := trajectory
      obtain rfl := Except.ok.inj (stored.symm.trans stored₁)
      obtain ⟨-, oldObject, sameVerification⟩ := (sameVerification_iff readingNew readingOld).mp verification
      exact Or.inl ⟨_, (loadRun_complete injective readingOld before).mpr ⟨oldObject, earlier, storedEarlier, rfl⟩,
        ⟨Json.sameText_refl _, Json.sameText_refl _, Json.sameText_refl _, sameVerification, sameEvents⟩⟩
    · have sameManifest := (sameManifest_iff readingNew readingOld).mp manifest
      exact Or.inr ⟨_, (loadRun_complete injective readingNew _).mpr ⟨object, events, stored, rfl⟩,
        ⟨Json.sameText_symm sameManifest, initialText, finalText, Json.sameText_refl _, eventsSame events⟩⟩

theorem crashSafe_of_allOrNothing (whole : AllOrNothing sha256 (replaced before oldBytes 5) newBytes) :
    CrashSafe sha256 new old := by
  intro initialSame finalSame events stored
  have same := (sameStateBytes_iff readingNew readingOld).mpr ⟨initialSame, finalSame⟩
  constructor
  · intro object
    have loaded := (loadRun_third injective readingNew readingOld before).mpr ⟨same, object, events, stored, rfl⟩
    rcases whole 3 _ loaded with ⟨earlier, read, equal⟩ | ⟨complete, read, equal⟩
    · obtain ⟨-, events', stored', rfl⟩ := (loadRun_complete injective readingOld before).mp read
      exact Or.inl ⟨events, events', stored, stored', equal.trajectory⟩
    · obtain ⟨newObject, _, -, rfl⟩ := (loadRun_complete injective readingNew _).mp read
      exact Or.inr ⟨(sameVerification_iff readingNew readingOld).mpr
        ⟨newObject, object, Json.sameText_symm equal.verification⟩,
        (sameManifest_iff readingNew readingOld).mpr (Json.sameText_symm equal.manifest)⟩
  · intro object
    have loaded := (loadRun_fourth injective readingNew readingOld before).mpr ⟨same, object, events, stored, rfl⟩
    rcases whole 4 _ loaded with ⟨earlier, read, equal⟩ | ⟨complete, read, equal⟩
    · obtain ⟨oldObject, events', stored', rfl⟩ := (loadRun_complete injective readingOld before).mp read
      exact Or.inl ⟨⟨events, events', stored, stored', equal.trajectory⟩,
        (sameVerification_iff readingNew readingOld).mpr ⟨object, oldObject, equal.verification⟩⟩
    · obtain ⟨-, _, -, rfl⟩ := (loadRun_complete injective readingNew _).mp read
      exact Or.inr ((sameManifest_iff readingNew readingOld).mpr (Json.sameText_symm equal.manifest))

end Complete

/-- Before the manifest is there, nothing can be loaded from a directory that was empty. -/
theorem allOrNothing_empty (new : RunBytes) : AllOrNothing sha256 noFiles new := by
  intro k run loaded
  rcases Nat.lt_or_ge k 5 with early | all
  · have missing : (replaced noFiles new k).manifest = none := if_neg (by omega)
    obtain ⟨manifest, _, _, read, -, -⟩ := loadRun_ok.mp loaded
    rw [missing] at read
    cases read
  · rw [replaced_all _ _ all] at loaded
    exact Or.inr ⟨run, loaded, StoredRun.Same.refl run⟩

/-- A store is all-or-nothing across a crash exactly if the mixtures that the loader takes are none. -/
theorem allOrNothing_iff (injective : Function.Injective sha256) (nonempty : ∀ bytes, sha256 bytes ≠ "")
    {files : RunFiles} {earlier : Option StoreCall} (holds : Holds sha256 files earlier) {call : StoreCall}
    {new : RunBytes} (prepared : call.prepare sha256 = .ok new) :
    AllOrNothing sha256 files new ↔ ∀ old ∈ earlier, CrashSafe sha256 call old := by
  obtain ⟨readingNew⟩ := exists_reading nonempty prepared
  cases holds with
  | empty => simp [allOrNothing_empty]
  | @complete old oldBytes written before =>
    obtain ⟨readingOld⟩ := exists_reading nonempty written
    constructor
    · intro whole _ member
      cases member
      exact crashSafe_of_allOrNothing injective readingNew readingOld before whole
    · intro safe
      exact allOrNothing_of_crashSafe injective readingNew readingOld before (safe old rfl)

end Crash

/-! ### Two runs with the same states -/

theorem byteChars_injective : Function.Injective byteChars := fun _ _ => chars_injective

theorem sampleDigest_injective : Function.Injective sampleDigest := by
  refine injective_entry (fun a b first second => byteChars_injective (first.trans second.symm)) ?_ ?_
  · intro a b same
    exact byteChars_injective (List.cons.inj (String.ofList_injective same)).2
  · exact fun _ => ofList_cons_ne (by decide)

/-- A call that stores one event, and whether the run passed. -/
def sampleCall (runId : String) (type : TrajectoryEventType) (passed : Bool) : StoreCall where
  now := "2026-01-01T00:00:01Z"
  dirName := "run"
  args := { sampleArgs with
    runId := some runId
    trajectory := .events [.event { brokenLines with type := type }]
    verification := .obj [("passed", .bool passed)] }

theorem sampleCall_prepared (runId : String) (type : TrajectoryEventType) (passed : Bool) :
    ∃ bytes, @StoreCall.prepare asciiJson sampleDigest (sampleCall runId type passed) = .ok bytes := by
  have digest : isDigest "44136fa355b3678a1146ad16f7e8649e94fb4fc21fe77e8310c060f61caaff8a" = true := by decide +kernel
  exact @prepare_succeeds asciiJson sampleDigest _ "task-1" _ "package-1" _ (sampleCall runId type passed).args _ _ rfl rfl
    rfl (@hashSource_supplied asciiJson _ _ digest _) (@hashSource_supplied asciiJson _ _ digest _) rfl

theorem sampleCall_events (runId : String) (type : TrajectoryEventType) (passed : Bool) :
    ∃ events, @storedEvents asciiJson (sampleCall runId type passed).args.trajectory = .ok events ∧
      ∃ e, events = [e] ∧ e.type = type := by
  obtain ⟨events, stored, same⟩ := @storedEvents_written asciiJson [.event { brokenLines with type := type }] _ rfl
  refine ⟨events, stored, ?_⟩
  obtain ⟨e, rest, ⟨_, validated, equal⟩, none, rfl⟩ := List.forall₂_cons_right_iff.mp same
  obtain rfl := Except.ok.inj validated
  cases none
  exact ⟨e, rfl, equal.2.2.1⟩

/-- A run that passed is stored over by one that did not, and the crash after three files leaves its events under the
earlier verification. -/
theorem mixture_loaded :
    ∃ old new, @StoreCall.prepare asciiJson sampleDigest (sampleCall "run-1" .runStarted true) = .ok old ∧
      @StoreCall.prepare asciiJson sampleDigest (sampleCall "run-2" .agentError false) = .ok new ∧
      ¬ @AllOrNothing asciiJson sampleDigest (replaced noFiles old 5) new := by
  obtain ⟨old, preparedOld⟩ := sampleCall_prepared "run-1" .runStarted true
  obtain ⟨new, preparedNew⟩ := sampleCall_prepared "run-2" .agentError false
  obtain ⟨readingOld⟩ := @exists_reading asciiJson _ sampleDigest_nonempty _ _ preparedOld
  obtain ⟨readingNew⟩ := @exists_reading asciiJson _ sampleDigest_nonempty _ _ preparedNew
  refine ⟨old, new, preparedOld, preparedNew, ?_⟩
  intro whole
  have safe := @crashSafe_of_allOrNothing asciiJson _ sampleDigest_injective _ _ _ _ readingNew readingOld noFiles whole
  obtain ⟨events, stored, -⟩ := sampleCall_events "run-2" .agentError false
  rcases (safe (Json.sameText_refl _) (Json.sameText_refl _) events stored).1 rfl with trajectory | ⟨verification, -⟩
  · obtain ⟨events₁, events₂, stored₁, stored₂, same⟩ := trajectory
    obtain ⟨_, storedNew, e, rfl, type⟩ := sampleCall_events "run-2" .agentError false
    obtain ⟨_, storedOld, e', rfl, type'⟩ := sampleCall_events "run-1" .runStarted true
    obtain rfl := Except.ok.inj (storedNew.symm.trans stored₁)
    obtain rfl := Except.ok.inj (storedOld.symm.trans stored₂)
    obtain ⟨⟨-, -, sameType, -⟩, -⟩ := List.forall₂_cons.mp same
    rw [type, type'] at sameType
    cases sameType
  · exact absurd verification.2.2 (by decide)

theorem allOrNothing_iff_two_runs :
    ∃ old new, @StoreCall.prepare asciiJson sampleDigest (sampleCall "run-1" .runStarted true) = .ok old ∧
      @StoreCall.prepare asciiJson sampleDigest (sampleCall "run-2" .agentError false) = .ok new ∧
      (@AllOrNothing asciiJson sampleDigest (replaced noFiles old 5) new ↔
        ∀ earlier ∈ some (sampleCall "run-1" .runStarted true),
          @CrashSafe asciiJson sampleDigest (sampleCall "run-2" .agentError false) earlier) := by
  obtain ⟨old, preparedOld⟩ := sampleCall_prepared "run-1" .runStarted true
  obtain ⟨new, preparedNew⟩ := sampleCall_prepared "run-2" .agentError false
  exact ⟨old, new, preparedOld, preparedNew, @allOrNothing_iff asciiJson sampleDigest sampleDigest_injective
    sampleDigest_nonempty _ _ (@Holds.complete asciiJson _ _ _ preparedOld noFiles) _ _ preparedNew⟩

end AgentGym.Storage
