import AgentGym.Storage.Sealed

/-!
# Stored runs load back

No line of a trajectory contains a line break of its own, so the loader splits the file
where the writer joined it, and every line is read back as the event it was written
from.
-/

namespace AgentGym.Storage

open Runner World

/-- The same event, with a payload of the same text. -/
def TrajectoryEvent.Same (e e' : TrajectoryEvent) : Prop :=
  e.sequence = e'.sequence ∧ e.timestamp = e'.timestamp ∧ e.type = e'.type ∧ e.actor = e'.actor ∧
    (Json.ofDict e.payload).sameText (.ofDict e'.payload) = true

theorem eventTypes_value (type : TrajectoryEventType) :
    eventTypes.find? (fun t => t.value == type.value) = some type := by
  cases type <;> decide

/-- An event is read back from any object with its text. -/
theorem modelValidate_modelDump [LaxInt] {e : TrajectoryEvent} {w : Json} (same : w.sameText e.modelDump = true) :
    ∃ e', TrajectoryEvent.modelValidate w = .ok e' ∧ e'.Same e := by
  have payload : ∃ kvs, w.get? "payload" = some (.obj kvs) ∧ (Json.obj kvs).sameText (.ofDict e.payload) = true := by
    rcases Json.get?_of_sameText same "payload" with equal | ⟨v, u, left, right, -, -, inner⟩
    · exact ⟨_, equal, Json.sameText_refl _⟩
    · obtain rfl : Json.ofDict e.payload = u := Option.some.inj right
      cases v with
      | obj kvs => exact ⟨kvs, left, inner⟩
      | _ => cases Json.isObj_of_sameText inner
  obtain ⟨kvs, found, inner⟩ := payload
  have sequence : intField w "sequence" none = .ok e.sequence := by
    have number : e.modelDump.get? "sequence" = some (.int e.sequence) := rfl
    rw [intField_sameText same, intField, number]
    simp
  have timestamp : strField w "timestamp" = .ok e.timestamp := strField_sameText same _
  have actor : strField w "actor" = .ok e.actor := strField_sameText same _
  have type : eventTypeField w = .ok e.type := by
    have text : strField w "type" = .ok e.type.value := strField_sameText same _
    unfold eventTypeField
    rw [text]
    simp only [bind, Except.bind, eventTypes_value]
    rfl
  refine ⟨⟨e.sequence, e.timestamp, e.type, e.actor, .ofEntries kvs⟩, ?_, rfl, rfl, rfl, rfl, ?_⟩
  · unfold TrajectoryEvent.modelValidate payloadField
    rw [sequence, timestamp, type, actor, found]
    rfl
  · show Json.eqBy _ (.obj (Dict.ofEntries kvs).entries) (.obj e.payload.entries) = true
    rw [Json.eqBy_obj]
    intro k
    have read : (Dict.ofEntries kvs).entries.lookup k = kvs.lookup k := Dict.get?_ofEntries kvs k
    rw [read]
    exact Json.eqBy_obj.mp inner k

section Reload

variable [PyJson]

theorem toList_canonicalJson_printable (v : Json) : JsonText.Printable (canonicalJson v).toList :=
  JsonText.printable_dumps PyJson.float_numeral v

theorem canonicalJson_oneLine (v : Json) : '\n' ∉ (canonicalJson v).toList ∧ '\r' ∉ (canonicalJson v).toList := by
  have printable := toList_canonicalJson_printable v
  exact ⟨fun inside => absurd (printable _ inside) (by decide), fun inside => absurd (printable _ inside) (by decide)⟩

theorem loadLine_of_reads {line : List Char} {e : TrajectoryEvent}
    (reads : ∃ w, PyJson.loads (String.ofList line) = .ok w ∧ w.sameText e.modelDump = true) :
    ∃ e', loadLine line = .ok e' ∧ e'.Same e := by
  obtain ⟨w, reads, same⟩ := reads
  obtain ⟨e', valid, equal⟩ := modelValidate_modelDump same
  have object : w.isObj = true := Json.isObj_of_sameText same
  refine ⟨e', ?_, equal⟩
  unfold loadLine
  rw [reads]
  simp only [bind, Except.bind, object, valid]
  rfl

theorem loadLine_written (e : TrajectoryEvent) :
    ∃ e', loadLine ((canonicalJson e.modelDump).toList ++ ['\n']) = .ok e' ∧ e'.Same e := by
  apply loadLine_of_reads
  rw [String.ofList_append, String.ofList_toList]
  exact PyJson.loads_dumps e.modelDump

omit [PyJson] in
theorem decodeUtf8_toUTF8 (s : String) : decodeUtf8 s.toUTF8 = .ok s := by
  have decoded : String.fromUTF8? s.toUTF8 = some s := by
    unfold String.fromUTF8?
    exact dif_pos s.isValidUTF8
  unfold decodeUtf8
  rw [decoded]

omit [PyJson] in
theorem decodeUtf8_ok {bytes : ByteArray} {s : String} (decoded : decodeUtf8 bytes = .ok s) : bytes = s.toUTF8 := by
  unfold decodeUtf8 String.fromUTF8? at decoded
  split at decoded
  · rename_i text found
    obtain rfl := Except.ok.inj decoded
    split at found
    · obtain rfl := Option.some.inj found
      rfl
    · cases found
  · cases decoded

theorem textLines_written (sources : List TrajectoryEvent) :
    textLines (joinLines (sources.map fun e => canonicalJson e.modelDump)).toList =
      sources.map fun e => (canonicalJson e.modelDump).toList ++ ['\n'] := by
  have oneLine : ∀ p ∈ sources.map (fun e => (canonicalJson e.modelDump).toList), '\n' ∉ p ∧ '\r' ∉ p := by
    intro p member
    obtain ⟨e, -, rfl⟩ := List.mem_map.mp member
    exact canonicalJson_oneLine e.modelDump
  have split := textLines_pieces oneLine
  unfold joinLines
  rw [String.toList_ofList, List.flatMap_map]
  rw [List.flatMap_map, List.map_map] at split
  exact split

theorem mapM_loadLine_written (sources : List TrajectoryEvent) :
    ∃ events, (sources.map fun e => (canonicalJson e.modelDump).toList ++ ['\n']).mapM loadLine = .ok events ∧
      List.Forall₂ TrajectoryEvent.Same events sources :=
  mapM_related (f := loadLine) (g := fun e : TrajectoryEvent => (canonicalJson e.modelDump).toList ++ ['\n'])
    (R := TrajectoryEvent.Same) fun e (_ : e ∈ sources) => loadLine_written e

/-- What `_trajectory_bytes` writes of events, the loader reads back in order. -/
theorem loadTrajectory_written {items : List EventSource} {bytes : ByteArray}
    (written : trajectoryBytes (.events items) = .ok bytes) :
    ∃ events, loadTrajectory bytes = .ok events ∧
      List.Forall₂ (fun loaded item => ∃ e, item.validated = .ok e ∧ loaded.Same e) events items := by
  unfold trajectoryBytes at written
  obtain ⟨sources, validated, joined⟩ := bind_eq_ok_iff.mp written
  obtain rfl := Except.ok.inj joined
  obtain ⟨events, loaded, same⟩ := mapM_loadLine_written sources
  refine ⟨events, ?_, ?_⟩
  · unfold loadTrajectory
    rw [decodeUtf8_toUTF8]
    simp only [bind, Except.bind]
    rw [textLines_written]
    exact loaded
  · exact Json.forall₂_compose same (forall₂_of_mapM validated)

/-! ### A stored run -/

variable {sha256 : ByteArray → String} {now dirName : String} {args : StoreArgs} {before after : RunFiles} {returned : Json}

end Reload

/-! ### A library whose floats are fractions -/

def fractionRepr : Json → String
  | .float q => JsonText.fractionText q
  | v => asciiText.repr v

theorem fraction_loads (v : Json) (breaks : List Char) (blank : ∀ c ∈ breaks, c = '\n') :
    ∃ w, JsonText.loads JsonText.readFraction
      (JsonText.dumps (fun q => fractionRepr (.float q)) v ++ String.ofList breaks) = .ok w ∧ w.sameText v = true :=
  ⟨_, JsonText.loads_dumps JsonText.fractionText_laws v breaks blank, JsonText.sameText_sorted v⟩

def fractionLoadsBytes (bytes : ByteArray) : Except String Json :=
  (decodeUtf8 bytes).bind (JsonText.loads JsonText.readFraction)

theorem fraction_loadsBytes (v : Json) :
    ∃ w, fractionLoadsBytes (JsonText.dumps (fun q => fractionRepr (.float q)) v).toUTF8 = .ok w ∧ w.sameText v = true := by
  obtain ⟨w, read, same⟩ := fraction_loads v [] (by simp)
  rw [String.ofList_nil, String.append_empty] at read
  refine ⟨w, ?_, same⟩
  unfold fractionLoadsBytes
  rw [decodeUtf8_toUTF8]
  exact read

@[reducible] def asciiJson : PyJson where
  toPyText := { asciiText with repr := fractionRepr }
  loads := JsonText.loads JsonText.readFraction
  loadsBytes := fractionLoadsBytes
  float_numeral := JsonText.fractionText_laws.numeral
  loads_dumps v := fraction_loads v ['\n'] (by simp)
  loadsBytes_dumps := fraction_loadsBytes

/-- A character for each byte. -/
def byteChars (bytes : ByteArray) : List Char := bytes.data.toList.map fun byte => Char.ofNat byte.toNat

/-- The digest of `{}`, and for other bytes a text of their own that starts with an `x`. -/
def sampleDigest (bytes : ByteArray) : String :=
  if byteChars bytes = ['{', '}'] then "44136fa355b3678a1146ad16f7e8649e94fb4fc21fe77e8310c060f61caaff8a"
  else String.ofList ('x' :: byteChars bytes)

theorem sampleDigest_nonempty (bytes : ByteArray) : sampleDigest bytes ≠ "" := by
  unfold sampleDigest
  split
  · decide
  · intro same
    have lists := congrArg String.toList same
    rw [String.toList_ofList] at lists
    cases lists

/-- An event whose payload has line breaks of every kind. -/
def brokenLines : TrajectoryEvent :=
  ⟨1, "2026-01-01T00:00:00Z", .runStarted, "runner",
    .ofEntries [("text", .str (String.ofList ['a', '\r', 'b', '\n', 'c', Char.ofNat 0x2028]))]⟩

def sampleArgs : StoreArgs where
  taskId := some "task-1"
  packageId := some "package-1"
  trajectory := .events [.event brokenLines]
  verification := .obj [("passed", .bool true)]
  taskHash := some "44136fa355b3678a1146ad16f7e8649e94fb4fc21fe77e8310c060f61caaff8a"
  packageHash := some "44136fa355b3678a1146ad16f7e8649e94fb4fc21fe77e8310c060f61caaff8a"

def noFiles : RunFiles := ⟨none, none, none, none, none⟩

end AgentGym.Storage
