import AgentGym.Lib.JsonPrefix
import AgentGym.Storage.Flushing

/-!
# Salvaging a trajectory

`load` can go on behind corrupt lines and note them. It then gives the events of all the
other lines, so a file whose last flush was cut off gives every event before the cut, unless
the cut goes through a character.
-/

namespace AgentGym.Storage

open Runner

/-! ### Loading -/

structure TrajectoryLoadError where
  lineNumber : Nat
  reason : String

def TrajectoryLoadError.message (e : TrajectoryLoadError) : String :=
  s!"invalid trajectory event at line {e.lineNumber}: {e.reason}"

/-- What `load` raises. -/
inductive LoadFailure where
  /-- A `UnicodeDecodeError`, which no mode catches. -/
  | text (message : String)
  /-- The `RecursionError` of a value that is nested too deep, which no mode catches either. -/
  | recursion
  | line (e : TrajectoryLoadError)

/-- What `load` returns, and what it appends to `errors`. -/
structure Loaded where
  events : List TrajectoryEvent
  errors : List TrajectoryLoadError

section Load

variable [PyJson]

/-- The lines that are nested too deep for the stack, of `json.loads` or of the validation, are given by `deep`. -/
def loadLines (deep : List Char → Bool) (skipCorrupt : Bool) :
    (lineNumber : Nat) → List (List Char) → Except LoadFailure Loaded
  | _, [] => .ok ⟨[], []⟩
  | lineNumber, line :: lines =>
    if deep line then .error .recursion
    else match loadLine line with
      | .ok e =>
        (loadLines deep skipCorrupt (lineNumber + 1) lines).map fun rest => { rest with events := e :: rest.events }
      | .error reason =>
        if skipCorrupt then
          (loadLines deep skipCorrupt (lineNumber + 1) lines).map fun rest =>
            { rest with errors := ⟨lineNumber, reason⟩ :: rest.errors }
        else .error (.line ⟨lineNumber, reason⟩)

/-- `TrajectoryRecorder.load`; `skip_and_record` goes before `skip_corrupt`. -/
def load (skipCorrupt : Bool) (skipAndRecord : Option Bool) (bytes : ByteArray)
    (deep : List Char → Bool := fun _ => false) : Except LoadFailure Loaded :=
  match decodeUtf8 bytes with
  | .error message => .error (.text message)
  | .ok text => loadLines deep (skipAndRecord.getD skipCorrupt) 1 (textLines text.toList)

/-! ### Every line -/

/-- The error of a line under its number, if it has one. -/
def noted (numbered : List Char × Nat) : Option TrajectoryLoadError :=
  match loadLine numbered.1 with
  | .ok _ => none
  | .error reason => some ⟨numbered.2, reason⟩

/-- The events of the lines that have one, and the errors of the others. -/
def salvaged (lineNumber : Nat) (lines : List (List Char)) : Loaded :=
  ⟨lines.filterMap fun line => (loadLine line).toOption, (lines.zipIdx lineNumber).filterMap noted⟩

section Lines

variable (deep : List Char → Bool)

/-- The lines before the first one that is nested too deep. -/
def shallow (lines : List (List Char)) : List (List Char) := lines.takeWhile fun line => !deep line

theorem loadLines_skip (lineNumber : Nat) (lines : List (List Char)) :
    loadLines deep true lineNumber lines =
      if shallow deep lines = lines then .ok (salvaged lineNumber lines) else .error .recursion := by
  induction lines generalizing lineNumber with
  | nil => rfl
  | cons line lines ih =>
    rw [loadLines, shallow, List.takeWhile_cons]
    cases deep line with
    | true => rfl
    | false =>
      have same : line :: shallow deep lines = line :: lines ↔ shallow deep lines = lines := by simp
      show _ = if line :: shallow deep lines = line :: lines then _ else _
      rw [if_congr same rfl rfl, ih, if_neg Bool.false_ne_true]
      unfold salvaged
      rw [List.zipIdx_cons, List.filterMap_cons, List.filterMap_cons, noted]
      by_cases whole : shallow deep lines = lines
      · rw [if_pos whole, if_pos whole]
        cases loadLine line <;> rfl
      · rw [if_neg whole, if_neg whole]
        cases loadLine line <;> rfl

/-- The first error that skipping notes is the one that not skipping raises. -/
theorem loadLines_strict (lineNumber : Nat) (lines : List (List Char)) :
    loadLines deep false lineNumber lines = match (salvaged lineNumber (shallow deep lines)).errors with
      | [] => loadLines deep true lineNumber lines
      | e :: _ => .error (.line e) := by
  induction lines generalizing lineNumber with
  | nil => rfl
  | cons line lines ih =>
    have rest := ih (lineNumber + 1)
    rw [loadLines, loadLines, shallow, List.takeWhile_cons]
    cases deep line with
    | true => rfl
    | false =>
      show _ = match (salvaged lineNumber (line :: shallow deep lines)).errors with | [] => _ | e :: _ => _
      unfold salvaged at rest ⊢
      dsimp only at rest ⊢
      rw [List.zipIdx_cons, List.filterMap_cons, noted]
      cases loadLine line with
      | error reason => rfl
      | ok e =>
        dsimp only
        rw [if_neg Bool.false_ne_true, if_neg Bool.false_ne_true, rest]
        generalize ((shallow deep lines).zipIdx (lineNumber + 1)).filterMap noted = errors
        cases errors <;> rfl

end Lines

theorem loadLines_whole (lineNumber : Nat) (lines : List (List Char)) :
    loadLines (fun _ => false) true lineNumber lines = .ok (salvaged lineNumber lines) := by
  have all : shallow (fun _ => false) lines = lines := List.takeWhile_eq_self_iff.mpr fun _ _ => rfl
  rw [loadLines_skip, if_pos all]

theorem salvaged_append (lineNumber : Nat) (lines lines' : List (List Char)) :
    salvaged lineNumber (lines ++ lines') =
      ⟨(salvaged lineNumber lines).events ++ (salvaged (lineNumber + lines.length) lines').events,
        (salvaged lineNumber lines).errors ++ (salvaged (lineNumber + lines.length) lines').errors⟩ := by
  unfold salvaged
  rw [List.filterMap_append, List.zipIdx_append, List.filterMap_append]

theorem salvaged_ok {lines : List (List Char)} {events : List TrajectoryEvent} (read : lines.mapM loadLine = .ok events)
    (lineNumber : Nat) : salvaged lineNumber lines = ⟨events, []⟩ := by
  induction lines generalizing events lineNumber with
  | nil =>
    obtain rfl := Except.ok.inj read
    rfl
  | cons line lines ih =>
    rw [List.mapM_cons] at read
    obtain ⟨e, first, read⟩ := bind_eq_ok_iff.mp read
    obtain ⟨rest, later, same⟩ := bind_eq_ok_iff.mp read
    obtain rfl := Except.ok.inj same
    have tail := Loaded.mk.inj (ih later (lineNumber + 1))
    unfold salvaged
    rw [List.zipIdx_cons, List.filterMap_cons, List.filterMap_cons, noted, first]
    exact congrArg₂ Loaded.mk (congrArg (e :: ·) tail.1) tail.2

/-- Every line of a text gives its event or, once, its error under its number, unless a line is nested too deep; not
skipping raises the first of these errors. -/
theorem load_partitions (deep : List Char → Bool) (text : String) :
    let lines := textLines text.toList
    let shallow := lines.takeWhile fun line => !deep line
    load true none text.toUTF8 deep = (if shallow = lines then
        .ok ⟨lines.filterMap fun line => (loadLine line).toOption, (lines.zipIdx 1).filterMap noted⟩
      else .error .recursion) ∧
    load false none text.toUTF8 deep = match (shallow.zipIdx 1).filterMap noted with
      | [] => load true none text.toUTF8 deep
      | e :: _ => .error (.line e) := by
  dsimp only
  unfold load
  rw [decodeUtf8_toUTF8]
  exact ⟨loadLines_skip deep 1 _, loadLines_strict deep 1 _⟩

/-! ### A flush that is cut off -/

/-- `json.loads` sees where an object ends. -/
structure Delimited : Prop where
  whole : ∀ v, ∃ w, PyJson.loads (canonicalJson v) = .ok w ∧ w.sameText v = true
  cut : ∀ kvs cs more, more ≠ [] → cs ++ more = (canonicalJson (.obj kvs)).toList →
    ∃ e, PyJson.loads (String.ofList cs) = .error e

/-- The bytes that a flush appends for these events. -/
def flushedBytes (events : List TrajectoryEvent) : ByteArray := (joinLines (events.map eventLine)).toUTF8

omit [PyJson] in
theorem toUTF8_append (s t : String) : (s ++ t).toUTF8 = s.toUTF8 ++ t.toUTF8 := String.toByteArray_append

omit [PyJson] in
/-- What follows a text in the bytes of a text is a text. -/
theorem rest_of_toUTF8 {s t : String} {bytes : ByteArray} (whole : s.toUTF8 ++ bytes = t.toUTF8) :
    ∃ more : String, t = s ++ more ∧ bytes = more.toUTF8 := by
  have starts : s.toList <+: t.toList := by
    apply List.isPrefix_of_utf8Encode_append_eq_utf8Encode bytes
    rw [← String.toByteArray_ofList, ← String.toByteArray_ofList, String.ofList_toList, String.ofList_toList]
    exact whole
  obtain ⟨more, joined⟩ := starts
  have parts : t = s ++ String.ofList more := by
    rw [← String.toList_inj, String.toList_append, String.toList_ofList, joined]
  rw [parts, toUTF8_append] at whole
  exact ⟨_, parts, (ByteArray.append_right_inj s.toUTF8).mp whole⟩

omit [PyJson] in
theorem decodeUtf8_append (s : String) (bytes : ByteArray) :
    decodeUtf8 (s.toUTF8 ++ bytes) = (decodeUtf8 bytes).map (s ++ ·) := by
  cases rest : decodeUtf8 bytes with
  | ok more =>
    rw [decodeUtf8_ok rest, ← toUTF8_append, decodeUtf8_toUTF8]
    rfl
  | error e =>
    cases all : decodeUtf8 (s.toUTF8 ++ bytes) with
    | error e' =>
      unfold decodeUtf8 at rest all
      split at rest
      · cases rest
      · split at all
        · cases all
        · rw [← Except.error.inj rest, ← Except.error.inj all]
          rfl
    | ok t =>
      obtain ⟨more, -, same⟩ := rest_of_toUTF8 (decodeUtf8_ok all)
      rw [same, decodeUtf8_toUTF8] at rest
      cases rest

/-- The event of a line without its line break, and none of a line that is cut off before. -/
theorem loadLine_cut (delimited : Delimited) {e : TrajectoryEvent} {begun rest : List Char}
    (whole : begun ++ rest = (eventLine e).toList) :
    if rest = [] then ∃ e', loadLine begun = .ok e' ∧ e'.Same e else ∃ reason, loadLine begun = .error reason := by
  split
  · rename_i ended
    rw [ended, List.append_nil] at whole
    apply loadLine_of_reads
    rw [whole, String.ofList_toList]
    exact delimited.whole e.modelDump
  · rename_i more
    obtain ⟨reason, failed⟩ := delimited.cut _ begun rest more whole
    refine ⟨reason, ?_⟩
    unfold loadLine
    rw [failed]
    rfl

theorem toList_joinLines (events : List TrajectoryEvent) :
    (joinLines (events.map eventLine)).toList = (events.map fun e => (eventLine e).toList).flatMap (· ++ ['\n']) := by
  rw [joinLines, String.toList_ofList, List.flatMap_map, List.flatMap_map]

theorem size_flushedBytes_succ {events : List TrajectoryEvent} {k : Nat} {e : TrajectoryEvent} (here : events[k]? = some e) :
    (flushedBytes (events.take (k + 1))).size = (flushedBytes (events.take k)).size + (eventLine e).utf8ByteSize + 1 := by
  have joined : joinLines ((events.take (k + 1)).map eventLine) = joinLines ((events.take k).map eventLine) ++ (eventLine e ++ "\n") := by
    rw [← String.toList_inj, String.toList_append, toList_joinLines, toList_joinLines, List.take_add_one, here]
    simp
  have lineBreak : ("\n" : String).utf8ByteSize = 1 := by decide
  unfold flushedBytes
  rw [joined, toUTF8_append, toUTF8_append, ByteArray.size_append, ByteArray.size_append, Nat.add_assoc, ← lineBreak]
  rfl

omit [PyJson] in
theorem utf8ByteSize_ofList_pos {cs : List Char} (nonempty : cs ≠ []) : 0 < (String.ofList cs).utf8ByteSize :=
  Nat.pos_of_ne_zero fun zero => nonempty (String.ofList_eq_empty_iff.mp (String.utf8ByteSize_eq_zero_iff.mp zero))

omit [PyJson] in
theorem utf8ByteSize_begun {begun rest : List Char} {line : String} (whole : begun ++ rest = line.toList) :
    line.utf8ByteSize = (String.ofList begun).utf8ByteSize + (String.ofList rest).utf8ByteSize := by
  rw [← String.utf8ByteSize_append, ← String.ofList_append, whole, String.ofList_toList]

theorem eventLine_nonempty (e : TrajectoryEvent) : 0 < (eventLine e).utf8ByteSize := by
  obtain ⟨rest, opens⟩ := Journal.eventLine_opens e
  have positive := utf8ByteSize_ofList_pos (List.cons_ne_nil '\x7b' rest)
  rwa [← opens, String.ofList_toList] at positive

/-- How a text that a flush appends is cut off: behind a line, or within one. -/
theorem flush_cut {events : List TrajectoryEvent} {text more : String}
    (cut : text ++ more = joinLines (events.map eventLine)) :
    ∃ k begun, text = joinLines ((events.take k).map eventLine) ++ String.ofList begun ∧
      ((k = events.length ∧ begun = []) ∨
        ∃ e rest, events[k]? = some e ∧ begun ++ rest = (eventLine e).toList) := by
  rw [← String.toList_inj, String.toList_append, toList_joinLines] at cut
  obtain ⟨k, begun, same, place⟩ := pieces_cut cut
  refine ⟨k, begun, ?_, ?_⟩
  · rw [← String.toList_inj, String.toList_append, toList_joinLines, String.toList_ofList, same, List.map_take]
  · rw [List.length_map] at place
    refine place.imp_right ?_
    rintro ⟨piece, rest, here, same⟩
    rw [List.getElem?_map] at here
    obtain ⟨e, here, line⟩ := Option.map_eq_some_iff.mp here
    exact ⟨e, rest, here, same.trans line.symm⟩

/-- What is loaded behind the old lines of a file when a flush of events to it was cut off. -/
structure Salvages (lines : List (List Char)) (events : List TrajectoryEvent) (torn : ByteArray) (before loaded : Loaded)
    (k : Nat) : Prop where
  within : k ≤ events.length
  /-- The bytes hold the first `k` lines, but perhaps the last line break. -/
  held : (flushedBytes (events.take k)).size ≤ torn.size + 1
  next : k < events.length → torn.size + 1 < (flushedBytes (events.take (k + 1))).size
  read : ∃ new, loaded.events = before.events ++ new ∧ List.Forall₂ TrajectoryEvent.Same new (events.take k)
  noted : if torn.size ≤ (flushedBytes (events.take k)).size then loaded.errors = before.errors
    else ∃ reason, loaded.errors = before.errors ++ [⟨lines.length + k + 1, reason⟩]

theorem salvaged_written (lineNumber : Nat) (events : List TrajectoryEvent) :
    ∃ new, salvaged lineNumber (events.map fun e => (eventLine e).toList ++ ['\n']) = ⟨new, []⟩ ∧
      List.Forall₂ TrajectoryEvent.Same new events := by
  obtain ⟨new, read, same⟩ := mapM_loadLine_written events
  exact ⟨new, salvaged_ok read lineNumber, same⟩

/-- What the line that is left of a cut one gives. -/
theorem salvaged_begun (delimited : Delimited) {e : TrajectoryEvent} {begun rest : List Char}
    (whole : begun ++ rest = (eventLine e).toList) (lineNumber : Nat) :
    if rest = [] then ∃ e', salvaged lineNumber [begun] = ⟨[e'], []⟩ ∧ e'.Same e
    else ∃ reason, salvaged lineNumber [begun] = ⟨[], [⟨lineNumber, reason⟩]⟩ := by
  have read := loadLine_cut delimited whole
  split at read
  · rename_i ended
    obtain ⟨e', read, same⟩ := read
    refine (if_pos ended).mpr ⟨e', ?_, same⟩
    unfold salvaged
    simp [noted, read, Except.toOption]
  · rename_i more
    obtain ⟨reason, failed⟩ := read
    refine (if_neg more).mpr ⟨reason, ?_⟩
    unfold salvaged
    simp [noted, failed, Except.toOption]

theorem salvages_cut (delimited : Delimited) {events : List TrajectoryEvent} {text more : String}
    (cut : text ++ more = joinLines (events.map eventLine)) (lines : List (List Char)) :
    ∃ k, Salvages lines events text.toUTF8 (salvaged 1 lines) (salvaged 1 (lines ++ textLines text.toList)) k := by
  obtain ⟨k, begun, same, place⟩ := flush_cut cut
  have oneLine : ∀ p ∈ begun :: (events.take k).map fun e => (eventLine e).toList, '\n' ∉ p ∧ '\r' ∉ p := by
    intro p member
    rcases List.mem_cons.mp member with rfl | member
    · rcases place with ⟨-, rfl⟩ | ⟨e, rest, -, line⟩
      · simp
      · have whole := Journal.eventLine_oneLine e
        rw [← line] at whole
        exact ⟨fun inside => whole.1 (List.mem_append_left _ inside), fun inside => whole.2 (List.mem_append_left _ inside)⟩
    · obtain ⟨e, -, rfl⟩ := List.mem_map.mp member
      exact Journal.eventLine_oneLine e
  have split : textLines text.toList =
      ((events.take k).map fun e => (eventLine e).toList ++ ['\n']) ++ if begun = [] then [] else [begun] := by
    rw [same, String.toList_append, toList_joinLines, String.toList_ofList, textLines_pieces_open oneLine, List.map_map]
    rfl
  have size : text.toUTF8.size = (flushedBytes (events.take k)).size + (String.ofList begun).utf8ByteSize := by
    rw [same, toUTF8_append, ByteArray.size_append]
    rfl
  obtain ⟨new, written, equal⟩ := salvaged_written (1 + lines.length) (events.take k)
  rw [split, salvaged_append, salvaged_append, written, List.length_map, List.length_take]
  by_cases empty : begun = []
  · subst empty
    rw [String.ofList_nil, String.utf8ByteSize_empty, Nat.add_zero] at size
    have within : k ≤ events.length := by
      rcases place with ⟨all, -⟩ | ⟨e, rest, here, -⟩
      · exact Nat.le_of_eq all
      · exact Nat.le_of_lt (List.getElem?_eq_some_iff.mp here).1
    refine ⟨k, within, ?_, ?_, ⟨new, ?_, equal⟩, ?_⟩
    · rw [size]
      exact Nat.le_succ _
    · intro more
      rw [size, size_flushedBytes_succ (List.getElem?_eq_getElem more)]
      have positive := eventLine_nonempty events[k]
      omega
    · simp [salvaged]
    · rw [if_pos (Nat.le_of_eq size)]
      simp [salvaged]
  · obtain ⟨-, none⟩ | ⟨e, rest, here, line⟩ := place
    · exact absurd none empty
    have within : k < events.length := (List.getElem?_eq_some_iff.mp here).1
    have grown := size_flushedBytes_succ here
    rw [if_neg empty, Nat.min_eq_left (Nat.le_of_lt within)]
    have last := salvaged_begun delimited line (1 + lines.length + k)
    split at last
    · rename_i ended
      obtain ⟨e', last, same⟩ := last
      rw [ended, List.append_nil] at line
      rw [line, String.ofList_toList] at size
      rw [last]
      refine ⟨k + 1, within, ?_, ?_, ⟨new ++ [e'], rfl, ?_⟩, ?_⟩
      · rw [grown, size]
      · intro more
        rw [size_flushedBytes_succ (List.getElem?_eq_getElem more), grown, size]
        have positive := eventLine_nonempty events[k + 1]
        omega
      · rw [List.take_add_one, here]
        exact List.rel_append equal (.cons same .nil)
      · rw [if_pos (by rw [grown, size]; exact Nat.le_succ _)]
        exact List.append_nil _
    · rename_i more
      obtain ⟨reason, last⟩ := last
      have parts := utf8ByteSize_begun line
      have begins := utf8ByteSize_ofList_pos empty
      have remains := utf8ByteSize_ofList_pos more
      rw [last]
      refine ⟨k, Nat.le_of_lt within, ?_, ?_, ⟨new, by rw [List.append_nil], equal⟩, ?_⟩
      · rw [size]
        omega
      · intro _
        rw [grown, size]
        omega
      · rw [if_neg (by rw [size]; omega), Nat.add_comm 1, Nat.add_right_comm]
        exact ⟨reason, rfl⟩

/-- Once a flush to a file that ends its lines was cut off, loading gives the old lines' events and those whose lines the
bytes hold up to the line break, and notes at most one more line; bytes that end within a character are not loaded. -/
theorem torn_flush_salvaged (delimited : Delimited) {file : Option ByteArray} (ended : Journal.Ended file)
    {events : List TrajectoryEvent} {torn rest : ByteArray} (cut : torn ++ rest = flushedBytes events) :
    ∃ lines before, Journal.linesOf file = .ok lines ∧ load true none (file.getD .empty) = .ok before ∧
      (∀ message, decodeUtf8 torn = .error message → load true none (file.getD .empty ++ torn) = .error (.text message)) ∧
      ∀ text, decodeUtf8 torn = .ok text → ∃ loaded k, load true none (file.getD .empty ++ torn) = .ok loaded ∧
        Salvages lines events torn before loaded k := by
  obtain ⟨text, same, terminated⟩ := ended
  have decoded := decodeUtf8_toUTF8 text
  refine ⟨textLines text.toList, salvaged 1 (textLines text.toList), ?_, ?_, ?_, ?_⟩
  · cases file with
    | none =>
      have empty : text = "" := String.toByteArray_inj.mp same.symm
      rw [empty]
      rfl
    | some bytes =>
      show (decodeUtf8 bytes).map _ = _
      rw [show bytes = text.toUTF8 from same, decoded]
      rfl
  · unfold load
    rw [same, decoded]
    exact loadLines_whole 1 _
  · intro message failed
    rw [same]
    unfold load
    rw [decodeUtf8_append, failed]
    rfl
  · intro more part
    obtain rfl := decodeUtf8_ok part
    obtain ⟨left, whole, -⟩ := rest_of_toUTF8 cut
    obtain ⟨k, salvages⟩ := salvages_cut delimited whole.symm (textLines text.toList)
    have start : more.toList.head? ≠ some '\n' := by
      intro first
      have head := Journal.head_joinLines events
      rw [whole, String.toList_append, List.head?_append, first] at head
      exact head rfl
    refine ⟨_, k, ?_, salvages⟩
    rw [same, ← toUTF8_append]
    unfold load
    rw [decodeUtf8_toUTF8, ← textLines_append terminated start, ← String.toList_append]
    exact loadLines_whole 1 _

end Load

/-! ### An event and a brace -/

theorem ascii_delimited : @Delimited asciiJson :=
  @Delimited.mk asciiJson
    (by
      intro v
      have reads := fraction_loads v [] (by simp)
      rw [String.ofList_nil, String.append_empty] at reads
      exact reads)
    fun _ _ _ left whole => ⟨_, JsonText.loads_cut JsonText.fractionText_laws left whole⟩

def startedEvent : TrajectoryEvent := ⟨1, "2026-01-01T00:00:00Z", .runStarted, "runner", .empty⟩

theorem brace_cut (events : List TrajectoryEvent) (e : TrajectoryEvent) :
    ∃ rest, @flushedBytes asciiJson events ++ "\x7b".toUTF8 ++ rest = @flushedBytes asciiJson (events ++ [e]) := by
  obtain ⟨rest, opens⟩ := @Journal.eventLine_opens asciiJson e
  have joined : joinLines (events.map (@eventLine asciiJson)) ++ "\x7b" ++ String.ofList (rest ++ ['\n']) =
      joinLines ((events ++ [e]).map (@eventLine asciiJson)) := by
    rw [← String.toList_inj, String.toList_append, String.toList_append, @toList_joinLines asciiJson, @toList_joinLines asciiJson]
    simp [opens]
  refine ⟨(String.ofList (rest ++ ['\n'])).toUTF8, ?_⟩
  unfold flushedBytes
  rw [← toUTF8_append, ← toUTF8_append, joined]

def corruptFile : ByteArray := (joinLines ["corrupt"]).toUTF8

/-- The first event and the brace that opens the second one. -/
def bracedBytes : ByteArray := @flushedBytes asciiJson [startedEvent] ++ "\x7b".toUTF8

theorem torn_flush_salvaged_brace :
    ∃ lines before, Journal.linesOf (some corruptFile) = .ok lines ∧
      @load asciiJson true none corruptFile (fun _ => false) = .ok before ∧
      (∀ message, decodeUtf8 bracedBytes = .error message →
        @load asciiJson true none (corruptFile ++ bracedBytes) (fun _ => false) = .error (.text message)) ∧
      ∀ text, decodeUtf8 bracedBytes = .ok text → ∃ loaded k,
        @load asciiJson true none (corruptFile ++ bracedBytes) (fun _ => false) = .ok loaded ∧
          @Salvages asciiJson lines [startedEvent, startedEvent] bracedBytes before loaded k := by
  obtain ⟨rest, cut⟩ : ∃ rest, bracedBytes ++ rest = @flushedBytes asciiJson [startedEvent, startedEvent] :=
    brace_cut [startedEvent] startedEvent
  have terminated : Terminated (joinLines ["corrupt"]).toList := by
    rw [joinLines, String.toList_ofList]
    exact @terminated_pieces ["corrupt".toList]
  have ended : Journal.Ended (some corruptFile) := ⟨joinLines ["corrupt"], Option.getD_some, terminated⟩
  exact @torn_flush_salvaged asciiJson ascii_delimited _ ended _ _ rest cut

end AgentGym.Storage
