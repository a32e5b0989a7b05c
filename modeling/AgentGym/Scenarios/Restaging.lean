import AgentGym.Lib.JsonLoad
import AgentGym.Scenarios.Materialize
import AgentGym.World.Alike
import AgentGym.World.Process

/-!
# Worlds from snapshot files

A snapshot file is read back as the snapshot that was written, with its keys sorted. A world
restored from the file is the one that was staged, but for key order: no run of calls tells
them apart, and whatever is done to both, their snapshots have the same bytes again.
-/

namespace AgentGym.Scenarios

open World

/-- `json.load`, with the texts of floats that `json.dumps` writes. -/
class JsonFloats extends PyText where
  readFloat : String → Option Rat
  numerals : JsonLoad.Numerals (fun q => repr (.float q)) readFloat

inductive SnapshotError where
  | fileNotFound (reference : String)
  | decode (message : String)
  | validation (message : String)

/-! ### Reading what was written -/

/-- The snapshot that is read from the file of a snapshot. -/
def readBack (snap : WorldSnapshot) : WorldSnapshot := { snap with resources := JsonText.sortedDict snap.resources }

section Reading

variable [JsonFloats]

def readSnapshot (files : Dict String String) (reference : String) : Except SnapshotError WorldSnapshot :=
  match files.get? reference with
  | none => .error (.fileNotFound reference)
  | some text => do
    let payload ← (JsonLoad.loads JsonFloats.readFloat text).mapError .decode
    (snapshotValidate payload).mapError .validation

theorem loads_snapshotText (snap : WorldSnapshot) :
    JsonLoad.loads JsonFloats.readFloat (snapshotText snap) = .ok (JsonText.sorted (Runner.snapshotDump snap)) := by
  have blank : ∀ c ∈ ['\n'], JsonLoad.isBlank c = true := List.forall_mem_singleton.mpr rfl
  exact JsonLoad.loads_dumpsIndented JsonFloats.numerals (Runner.snapshotDump snap) blank

omit [JsonFloats] in
theorem snapshotValidate_sorted (snap : WorldSnapshot) :
    snapshotValidate (JsonText.sorted (Runner.snapshotDump snap)) = .ok (readBack snap) := by
  have field : ∀ k, (JsonText.sorted (Runner.snapshotDump snap)).get? k =
      ((Runner.snapshotDump snap).get? k).map JsonText.sorted := JsonText.get?_sorted _
  simp only [snapshotValidate, World.snapshotText, field]
  rfl

theorem readSnapshot_written (files : Dict String String) (reference : String) (snap : WorldSnapshot) :
    readSnapshot (writeSnapshot files reference snap) reference = .ok (readBack snap) := by
  rw [readSnapshot, writeSnapshot, Dict.get?_set_self]
  simp only [loads_snapshotText, Except.mapError, ok_bind, snapshotValidate_sorted]

/-- The text of a snapshot tells everything but key order. -/
theorem snapshotText_eq_iff {x y : WorldSnapshot} :
    snapshotText x = snapshotText y ↔ (Runner.snapshotDump x).sameText (Runner.snapshotDump y) = true := by
  constructor
  · intro same
    have loads := loads_snapshotText x
    rw [same, loads_snapshotText] at loads
    have left := JsonText.sameText_sorted (Runner.snapshotDump x)
    rw [← Except.ok.inj loads] at left
    exact Json.sameText_trans (Json.sameText_symm left) (JsonText.sameText_sorted _)
  · intro same
    rw [snapshotText, snapshotText, JsonText.dumpsIndented, JsonText.dumpsIndented, JsonText.sorted_of_sameText same]

/-! ### Restoring what was read -/

theorem snapshotText_same {a b : ConfluenceStore} (h : Alike a b) (id timestamp : String) :
    snapshotText (a.snapshot id timestamp) = snapshotText (b.snapshot id timestamp) := by
  refine snapshotText_eq_iff.mpr (sameText_of_entries ?_)
  have text : ∀ {s t : String}, s = t → (Json.str s).sameText (.str t) = true := by
    rintro s _ rfl
    exact Json.sameText_refl _
  exact .cons ⟨rfl, text rfl⟩ (.cons ⟨rfl, text h.domainId⟩ (.cons ⟨rfl, text h.schemaVersion⟩ (.cons ⟨rfl, text rfl⟩
    (.cons ⟨rfl, h.resources⟩ .nil))))

omit [JsonFloats] in
theorem sameData_sortedDict (d : Dict String Json) : SameData d (JsonText.sortedDict d) := by
  refine .of_get? fun k => ?_
  rw [JsonText.get?_sortedDict]
  cases d.get? k with
  | none => exact .none
  | some v => exact .some (Json.sameText_symm (JsonText.sameText_sorted v))

/-- A world restored from a snapshot file answers every run of calls as the staged one does, and a snapshot of it
afterwards has the same bytes. -/
theorem staged_world_unchanged {s : ConfluenceStore} (valid : s.Valid) (keyed : s.Keyed) (plain : Unambiguous s)
    (files : Dict String String) (reference id timestamp : String) : ∃ back s',
      readSnapshot (writeSnapshot files reference (s.snapshot id timestamp)) reference = .ok back ∧
      (∀ w : ConfluenceStore, w.restore back = (.ok (), s')) ∧
      ∀ events, List.Forall₂ SameAnswer (Machine.responses handle s events) (Machine.responses handle s' events) ∧
        ∀ id timestamp, snapshotText ((Machine.final handle s' events).snapshot id timestamp) =
          snapshotText ((Machine.final handle s events).snapshot id timestamp) := by
  have read := readSnapshot_written files reference (s.snapshot id timestamp)
  obtain ⟨s', restores, valid', alike⟩ := @restore_same _ s valid (readBack (s.snapshot id timestamp)) rfl rfl
    (sameData_sortedDict s.resources)
  refine ⟨_, s', read, restores, fun events => ?_⟩
  obtain ⟨answers, last⟩ := alike.runs_same ⟨valid, valid'⟩ keyed plain events
  exact ⟨answers, fun id timestamp => (snapshotText_same last id timestamp).symm⟩

end Reading

/-! ### A world whose users are not in order -/

@[reducible] def exactFloats : JsonFloats where
  toPyText := { asciiText with repr := fun v => match v with
    | .float q => JsonText.fractionText q
    | v => asciiText.repr v }
  readFloat := JsonLoad.readExact
  numerals := JsonLoad.readExact_numerals

def bobFirst : ConfluenceStore :=
  .soloStore ["bob", "ann"] ⟨"home", "eng", "Home", "Hello", 1, "ann", Dict.empty, Page.noExtras⟩

theorem bobFirst_unambiguous : Unambiguous bobFirst where
  names := by
    have alone : ∀ u x, bobFirst.users.get? u = some x → userAliases u x = [u] := by
      intro u x found
      have member : (u, x) ∈ [("bob", Json.obj []), ("ann", Json.obj [])] := Entries.mem_of_lookup found
      simp only [List.mem_cons, List.not_mem_nil, or_false, Prod.mk.injEq] at member
      obtain ⟨rfl, rfl⟩ | ⟨rfl, rfl⟩ := member <;> rfl
    intro u v x y name left right first second
    rw [alone u x left, List.mem_singleton] at first
    rw [alone v y right, List.mem_singleton] at second
    exact first.symm.trans second
  owners := by
    intro id space owner found
    cases found

theorem staged_world_unchanged_bobFirst :
    let reference := "snapshots/home.json"
    let files := @writeSnapshot exactFloats.toPyText .empty reference (bobFirst.snapshot "home" "2026-01-01T00:00:00Z")
    let reading := [Event.request (some "ann") (.getPage "home")]
    ∃ back s', @readSnapshot exactFloats files reference = .ok back ∧
      @ConfluenceStore.restore exactFloats.toLaxInt bobFirst back = (.ok (), s') ∧
      List.Forall₂ SameAnswer (Machine.responses (@handle exactFloats.toPyText) bobFirst reading)
        (Machine.responses (@handle exactFloats.toPyText) s' reading) := by
  intro reference files reading
  have coherent : bobFirst.Coherent := ConfluenceStore.soloStore_coherent ["bob", "ann"] rfl
  obtain ⟨back, s', read, restores, runs⟩ := @staged_world_unchanged exactFloats bobFirst coherent.valid coherent.keyed
    bobFirst_unambiguous Dict.empty reference "home" "2026-01-01T00:00:00Z"
  exact ⟨back, s', read, restores bobFirst, (runs reading).1⟩

end AgentGym.Scenarios
