import AgentGym.Lib.Machine
import AgentGym.Storage.Reload

/-!
# Incremental flushing

Recorders number their events and append them to files, each remembering how many of its
events a file has already got. The lines of a file are then the first ones and those that
were flushed to it, unless the text that was there did not end its last line.
-/

namespace AgentGym.Storage

open Runner

/-! ### Recorders -/

section Recorders

variable {κ : Type} [DecidableEq κ]

structure Recorder (κ : Type) [DecidableEq κ] where
  events : List TrajectoryEvent
  flushedCounts : Dict κ Nat

inductive EventOrType where
  | event (e : TrajectoryEvent)
  | type (value : String)

inductive PayloadArg where
  | missing
  | none
  | mapping (payload : Dict String Json)
  /-- A mapping with values that are no JSON. -/
  | notJson
  | notMapping

namespace Recorder

def fresh : Recorder κ := ⟨[], .empty⟩

/-- The event that `append` makes of its arguments. -/
def made (r : Recorder κ) (what : EventOrType) (actor : Option String) (payload : PayloadArg) (now : String) :
    Except String TrajectoryEvent :=
  match what with
  | .event e =>
    match actor, payload with
    | .none, .missing => .ok { e with sequence := r.events.length + 1, timestamp := now }
    | _, _ => .error "actor and payload are not accepted with a TrajectoryEvent"
  | .type value =>
    match actor, payload with
    | .none, _ => .error "actor is required when appending an event type"
    | some _, .missing | some _, .none => .error "payload is required when appending an event type"
    | some _, .notMapping => .error "trajectory payload must be a mapping"
    | some _, .notJson => .error "invalid trajectory event"
    | some actor, .mapping payload =>
      match eventTypes.find? fun type => type.value == value with
      | some type => .ok ⟨r.events.length + 1, now, type, actor, payload⟩
      | .none => .error "invalid trajectory event"

def appended (r : Recorder κ) (e : TrajectoryEvent) : Recorder κ := { r with events := r.events ++ [e] }

def append (r : Recorder κ) (what : EventOrType) (actor : Option String) (payload : PayloadArg) (now : String) :
    Except String (Recorder κ) :=
  (r.made what actor payload now).map r.appended

def flushedCount (r : Recorder κ) (path : κ) : Nat := (r.flushedCounts.get? path).getD 0

def pending (r : Recorder κ) (path : κ) : List TrajectoryEvent := r.events.drop (r.flushedCount path)

def flushed (r : Recorder κ) (path : κ) : Recorder κ :=
  { r with flushedCounts := r.flushedCounts.set path r.events.length }

theorem flushedCount_flushed (r : Recorder κ) (path path' : κ) :
    (r.flushed path).flushedCount path' = if path' = path then r.events.length else r.flushedCount path' := by
  unfold flushedCount flushed
  rw [Dict.get?_set]
  split
  · rfl
  · rfl

theorem made_sequence {r : Recorder κ} {what : EventOrType} {actor : Option String} {payload : PayloadArg} {now : String}
    {e : TrajectoryEvent} (made : r.made what actor payload now = .ok e) : e.sequence = r.events.length + 1 := by
  unfold Recorder.made at made
  split at made
  · split at made
    · obtain rfl := Except.ok.inj made
      rfl
    · cases made
  · split at made
    all_goals try cases made
    split at made
    · obtain rfl := Except.ok.inj made
      rfl
    · cases made

end Recorder

end Recorders

/-! ### Recorders and files -/

section Journal

variable {ρ κ : Type} [DecidableEq ρ] [DecidableEq κ]

/-- The recorders, and the files they append to. -/
structure Journal (ρ κ : Type) [DecidableEq κ] where
  recorders : ρ → Recorder κ
  files : κ → Option ByteArray

inductive JournalOp (ρ κ : Type) where
  | append (r : ρ) (what : EventOrType) (actor : Option String) (payload : PayloadArg) (now : String)
  | flush (r : ρ) (path : κ)

variable [PyJson]

def eventLine (e : TrajectoryEvent) : String := canonicalJson e.modelDump

/-- The file after the pending events are appended to it. -/
def appendEvents (file : Option ByteArray) (events : List TrajectoryEvent) : ByteArray :=
  file.getD .empty ++ (joinLines (events.map eventLine)).toUTF8

theorem appendEvents_append (file : Option ByteArray) (first second : List TrajectoryEvent) :
    appendEvents (some (appendEvents file first)) second = appendEvents file (first ++ second) := by
  have joined : joinLines ((first ++ second).map eventLine) =
      joinLines (first.map eventLine) ++ joinLines (second.map eventLine) := by
    simp only [joinLines, List.map_append, List.flatMap_append, String.ofList_append]
  unfold appendEvents
  rw [joined, Option.getD_some, ByteArray.append_assoc]
  rfl

theorem appendEvents_toUTF8 {file : Option ByteArray} {text : String} (same : file.getD .empty = text.toUTF8)
    (events : List TrajectoryEvent) : appendEvents file events = (text ++ joinLines (events.map eventLine)).toUTF8 := by
  unfold appendEvents
  rw [same]
  exact String.toByteArray_append.symm

namespace Journal

def start (files : κ → Option ByteArray) : Journal ρ κ := ⟨fun _ => .fresh, files⟩

def step (s : Journal ρ κ) : JournalOp ρ κ → Except String Unit × Journal ρ κ
  | .append r what actor payload now =>
    match (s.recorders r).append what actor payload now with
    | .ok recorder => (.ok (), { s with recorders := Function.update s.recorders r recorder })
    | .error e => (.error e, s)
  | .flush r path =>
    (.ok (), {
      recorders := Function.update s.recorders r ((s.recorders r).flushed path)
      files := Function.update s.files path (some (appendEvents (s.files path) ((s.recorders r).pending path))) })

/-- What a step writes to a file, and who. -/
def written (s : Journal ρ κ) : JournalOp ρ κ → κ → List (ρ × TrajectoryEvent)
  | .append .., _ => []
  | .flush r target, path => if target = path then ((s.recorders r).pending path).map (r, ·) else []

/-- What a run writes to a file, and who. -/
def contributed (s : Journal ρ κ) : List (JournalOp ρ κ) → κ → List (ρ × TrajectoryEvent)
  | [], _ => []
  | op :: ops, path => s.written op path ++ contributed (step s op).2 ops path

/-- A file that is not there, or whose text does not leave its last line open. -/
def EndsLine : Option ByteArray → Prop
  | none => True
  | some bytes => ∀ text, decodeUtf8 bytes = .ok text → Terminated text.toList

/-- Events are flushed to files that end their last line. -/
def Meets (s : Journal ρ κ) : JournalOp ρ κ → Prop
  | .append .. => True
  | .flush r path => (s.recorders r).pending path ≠ [] → EndsLine (s.files path)

/-! ### What a step keeps -/

/-- The files are what they were at first, and what the log says was written since. -/
structure Accounts (files : κ → Option ByteArray) (log : κ → List (ρ × TrajectoryEvent)) (s : Journal ρ κ) : Prop where
  numbered : ∀ r, (s.recorders r).events.map (·.sequence) = (List.range (s.recorders r).events.length).map fun i : Nat => (i : Int) + 1
  counted : ∀ r path, (s.recorders r).flushedCount path ≤ (s.recorders r).events.length
  shares : ∀ r path, ((log path).filter fun x => x.1 = r).map Prod.snd =
    (s.recorders r).events.take ((s.recorders r).flushedCount path)
  absent : ∀ path, s.files path = none → files path = none ∧ log path = []
  present : ∀ path bytes, s.files path = some bytes → bytes = appendEvents (files path) ((log path).map Prod.snd)
  ended : ∀ path, log path ≠ [] → EndsLine (files path)

variable {files : κ → Option ByteArray} {log : κ → List (ρ × TrajectoryEvent)} {s : Journal ρ κ}

theorem step_append (s : Journal ρ κ) (r : ρ) (what : EventOrType) (actor : Option String) (payload : PayloadArg)
    (now : String) :
    (s.step (.append r what actor payload now)).2 = s ∨
    ∃ e : TrajectoryEvent, e.sequence = (s.recorders r).events.length + 1 ∧
      (s.step (.append r what actor payload now)).2 =
        { s with recorders := Function.update s.recorders r ((s.recorders r).appended e) } := by
  simp only [step, Recorder.append]
  cases made : (s.recorders r).made what actor payload now with
  | error e => exact Or.inl rfl
  | ok e => exact Or.inr ⟨e, Recorder.made_sequence made, rfl⟩

theorem accounts_start (files : κ → Option ByteArray) : Accounts files (fun _ => []) (start (ρ := ρ) files) where
  numbered _ := rfl
  counted _ _ := Nat.zero_le _
  shares _ _ := rfl
  absent path none := ⟨none, rfl⟩
  present path bytes some_ := by
    have here : files path = some bytes := some_
    simp [appendEvents, here, joinLines]
  ended _ nonempty := absurd rfl nonempty

theorem accounts_append (accounts : Accounts files log s) {r : ρ} {e : TrajectoryEvent}
    (sequence : e.sequence = (s.recorders r).events.length + 1) :
    Accounts files log { s with recorders := Function.update s.recorders r ((s.recorders r).appended e) } where
  numbered := by
    intro r'
    by_cases same : r' = r
    · subst same
      simp [Recorder.appended, accounts.numbered, sequence, List.range_succ]
    · simpa [Function.update_of_ne same] using accounts.numbered r'
  counted := by
    intro r' path
    by_cases same : r' = r
    · subst same
      have within := accounts.counted r' path
      simp only [Function.update_self, Recorder.appended, List.length_append, List.length_singleton]
      exact Nat.le_succ_of_le within
    · simpa [Function.update_of_ne same] using accounts.counted r' path
  shares := by
    intro r' path
    by_cases same : r' = r
    · subst same
      have within := accounts.counted r' path
      simp only [Function.update_self]
      show _ = ((s.recorders r').events ++ [e]).take ((s.recorders r').flushedCount path)
      rw [List.take_append_of_le_length within]
      exact accounts.shares r' path
    · simpa [Function.update_of_ne same] using accounts.shares r' path
  absent := accounts.absent
  present := accounts.present
  ended := accounts.ended

omit [PyJson] in
theorem written_own (s : Journal ρ κ) (r : ρ) (path : κ) :
    ((s.written (.flush r path) path).filter fun x => x.1 = r).map Prod.snd = (s.recorders r).pending path := by
  rw [written, if_pos rfl, List.filter_map, List.map_map]
  simp [Function.comp_def]

omit [PyJson] in
theorem written_other (s : Journal ρ κ) {r r' : ρ} (other : r' ≠ r) (path path' : κ) :
    (s.written (.flush r path) path').filter (fun x => x.1 = r') = [] := by
  rw [written]
  split
  · rw [List.filter_map]
    simp [Function.comp_def, Ne.symm other]
  · rfl

omit [PyJson] [DecidableEq ρ] in
theorem written_elsewhere (s : Journal ρ κ) (r : ρ) {path path' : κ} (elsewhere : path' ≠ path) :
    s.written (.flush r path) path' = [] := if_neg (Ne.symm elsewhere)

omit [PyJson] [DecidableEq ρ] in
theorem written_events (s : Journal ρ κ) (r : ρ) (path : κ) :
    (s.written (.flush r path) path).map Prod.snd = (s.recorders r).pending path := by
  rw [written, if_pos rfl, List.map_map]
  simp [Function.comp_def]

theorem events_flush (s : Journal ρ κ) (r r' : ρ) (path : κ) :
    ((s.step (.flush r path)).2.recorders r').events = (s.recorders r').events := by
  by_cases same : r' = r
  · subst same
    simp [step, Recorder.flushed]
  · simp [step, Function.update_of_ne same]

theorem flushedCount_flush (s : Journal ρ κ) (r r' : ρ) (path path' : κ) :
    ((s.step (.flush r path)).2.recorders r').flushedCount path' =
      if r' = r ∧ path' = path then (s.recorders r').events.length else (s.recorders r').flushedCount path' := by
  by_cases same : r' = r
  · subst same
    simp [step, Recorder.flushedCount_flushed]
  · simp [step, same]

theorem files_flush (s : Journal ρ κ) (r : ρ) (path : κ) :
    (s.step (.flush r path)).2.files path = some (appendEvents (s.files path) ((s.recorders r).pending path)) := by
  simp [step]

theorem files_flush_ne (s : Journal ρ κ) (r : ρ) {path path' : κ} (elsewhere : path' ≠ path) :
    (s.step (.flush r path)).2.files path' = s.files path' := by
  simp [step, Function.update_of_ne elsewhere]

/-- A file that nothing was flushed to is the first one. -/
theorem first_ended (accounts : Accounts files log s) {path : κ} (fresh : log path = []) (ends : EndsLine (s.files path)) :
    EndsLine (files path) := by
  cases first : files path with
  | none => trivial
  | some bytes =>
    cases file : s.files path with
    | none =>
      have missing := (accounts.absent path file).1
      rw [first] at missing
      cases missing
    | some now =>
      have same := accounts.present path now file
      rw [file, same, first, fresh] at ends
      simpa [appendEvents, joinLines] using ends

theorem accounts_flush (accounts : Accounts files log s) {r : ρ} {path : κ} (meets : s.Meets (.flush r path)) :
    Accounts files (fun p => log p ++ s.written (.flush r path) p) (s.step (.flush r path)).2 where
  numbered := by
    intro r'
    rw [events_flush]
    exact accounts.numbered r'
  counted := by
    intro r' path'
    rw [events_flush, flushedCount_flush]
    split
    · exact Nat.le_refl _
    · exact accounts.counted r' path'
  shares := by
    intro r' path'
    rw [List.filter_append, List.map_append, accounts.shares r' path', events_flush, flushedCount_flush]
    by_cases same : r' = r
    · subst same
      by_cases here : path' = path
      · subst here
        rw [if_pos ⟨rfl, rfl⟩, written_own]
        exact (List.take_append_drop _ _).trans (List.take_length).symm
      · rw [if_neg fun both => here both.2, written_elsewhere s r' here]
        exact List.append_nil _
    · rw [if_neg fun both => same both.1, written_other s same]
      exact List.append_nil _
  absent := by
    intro path' none
    by_cases here : path' = path
    · subst here
      rw [files_flush] at none
      cases none
    · rw [files_flush_ne s r here] at none
      rw [written_elsewhere s r here, List.append_nil]
      exact accounts.absent path' none
  present := by
    intro path' bytes some_
    rw [List.map_append]
    by_cases here : path' = path
    · subst here
      rw [files_flush] at some_
      rw [written_events, ← Option.some.inj some_]
      cases file : s.files path' with
      | none =>
        obtain ⟨absent, empty⟩ := accounts.absent path' file
        rw [absent, empty]
        rfl
      | some bytes => rw [accounts.present path' bytes file, appendEvents_append]
    · rw [files_flush_ne s r here] at some_
      rw [written_elsewhere s r here, List.map_nil, List.append_nil]
      exact accounts.present path' bytes some_
  ended := by
    intro path' nonempty
    by_cases earlier : log path' = []
    · by_cases here : path' = path
      · subst here
        have some_pending : (s.recorders r).pending path' ≠ [] := by
          intro empty
          apply nonempty
          rw [earlier, ← List.map_eq_nil_iff (f := Prod.snd), List.nil_append, written_events, empty]
        exact first_ended accounts earlier (meets some_pending)
      · rw [written_elsewhere s r here, List.append_nil] at nonempty
        exact absurd earlier nonempty
    · exact accounts.ended path' earlier

theorem accounts_step (accounts : Accounts files log s) {op : JournalOp ρ κ} (meets : s.Meets op) :
    Accounts files (fun path => log path ++ s.written op path) (s.step op).2 := by
  cases op with
  | append r what actor payload now =>
    have unwritten : (fun path => log path ++ s.written (.append r what actor payload now) path) = log :=
      funext fun path => List.append_nil _
    rw [unwritten]
    rcases step_append s r what actor payload now with same | ⟨e, sequence, recorded⟩
    · rw [same]
      exact accounts
    · rw [recorded]
      exact accounts_append accounts sequence
  | flush r path => exact accounts_flush accounts meets

theorem accounts_run (accounts : Accounts files log s) {ops : List (JournalOp ρ κ)}
    (meets : ∀ t ∈ Machine.trace step s ops, t.before.Meets t.event) :
    Accounts files (fun path => log path ++ s.contributed ops path) (Machine.final step s ops) := by
  induction ops generalizing log s with
  | nil => simpa [contributed, Machine.final] using accounts
  | cons op ops ih =>
    have first : s.Meets op := meets (Machine.transition step s op) List.mem_cons_self
    have rest := ih (accounts_step accounts first) fun t member => meets t (List.mem_cons_of_mem _ member)
    simpa only [contributed, Machine.final, List.append_assoc] using rest

theorem step_grows (s : Journal ρ κ) (op : JournalOp ρ κ) {path : κ} {bytes : ByteArray} (before : s.files path = some bytes) :
    ∃ more, (s.step op).2.files path = some (bytes ++ more) := by
  have same : s.files path = some (bytes ++ ByteArray.empty) := by rw [ByteArray.append_empty, before]
  cases op with
  | append r what actor payload now =>
    refine ⟨.empty, ?_⟩
    rcases step_append s r what actor payload now with unchanged | ⟨e, -, recorded⟩
    · rw [unchanged, same]
    · rw [recorded]
      exact same
  | flush r target =>
    by_cases here : path = target
    · subst here
      rw [files_flush, before]
      exact ⟨_, rfl⟩
    · refine ⟨.empty, ?_⟩
      rw [files_flush_ne s r here, same]

/-! ### What is read from the files -/

/-- The lines of a file, and none where there is no file. -/
def linesOf : Option ByteArray → Except String (List (List Char))
  | none => .ok []
  | some bytes => (decodeUtf8 bytes).map fun text => textLines text.toList

/-- The events in a file, and none where there is no file. -/
def eventsOf : Option ByteArray → Except String (List TrajectoryEvent)
  | none => .ok []
  | some bytes => loadTrajectory bytes

theorem eventsOf_eq (file : Option ByteArray) : eventsOf file = linesOf file >>= fun lines => lines.mapM loadLine := by
  cases file with
  | none => rfl
  | some bytes =>
    show (decodeUtf8 bytes >>= fun text => _) = (decodeUtf8 bytes).map _ >>= _
    cases decodeUtf8 bytes with
    | error e => rfl
    | ok text => rfl

theorem eventsOf_toUTF8 (text : String) : eventsOf (some text.toUTF8) = (textLines text.toList).mapM loadLine := by
  show (decodeUtf8 text.toUTF8 >>= fun text => _) = _
  rw [decodeUtf8_toUTF8]
  rfl

theorem eventLine_opens (e : TrajectoryEvent) : ∃ rest, (eventLine e).toList = '\x7b' :: rest := by
  unfold eventLine canonicalJson JsonText.dumps
  rw [String.toList_ofList]
  exact ⟨_, rfl⟩

theorem eventLine_oneLine (e : TrajectoryEvent) : '\n' ∉ (eventLine e).toList ∧ '\r' ∉ (eventLine e).toList :=
  canonicalJson_oneLine e.modelDump

theorem head_joinLines (events : List TrajectoryEvent) : (joinLines (events.map eventLine)).toList.head? ≠ some '\n' := by
  cases events with
  | nil => simp [joinLines]
  | cons e events =>
    obtain ⟨rest, opens⟩ := eventLine_opens e
    rw [joinLines, String.toList_ofList, List.map_cons, List.flatMap_cons, opens]
    simp

/-- Events that are appended to a file whose last line is ended are its next lines. -/
theorem linesOf_appendEvents {file : Option ByteArray} {events : List TrajectoryEvent} (ends : events ≠ [] → EndsLine file)
    {lines : List (List Char)} (first : linesOf file = .ok lines) :
    linesOf (some (appendEvents file events)) = .ok (lines ++ events.map fun e => (eventLine e).toList ++ ['\n']) := by
  obtain ⟨text, decoded, same, ended⟩ : ∃ text : String, file.getD .empty = text.toUTF8 ∧ textLines text.toList = lines ∧
      (events ≠ [] → Terminated text.toList) := by
    cases file with
    | none => exact ⟨"", rfl, Except.ok.inj first, fun _ c last => nomatch last⟩
    | some bytes =>
      replace first : (decodeUtf8 bytes).map (fun text => textLines text.toList) = .ok lines := first
      cases decoded : decodeUtf8 bytes with
      | error e =>
        rw [decoded] at first
        cases first
      | ok text =>
        rw [decoded] at first
        exact ⟨text, decodeUtf8_ok decoded, Except.ok.inj first, fun nonempty => ends nonempty text decoded⟩
  show (decodeUtf8 (appendEvents file events)).map (fun text => textLines text.toList) = _
  rw [appendEvents_toUTF8 decoded, decodeUtf8_toUTF8]
  simp only [Except.map, String.toList_append]
  congr 1
  by_cases empty : events = []
  · subst empty
    simp [joinLines, same]
  · rw [textLines_append (ended empty) (head_joinLines events), same]
    exact congrArg (lines ++ ·) (textLines_written events)

/-! ### Whole runs -/

/-- What recorders and files are after a run that started with these files. -/
structure Kept (files : κ → Option ByteArray) (ops : List (JournalOp ρ κ)) : Prop where
  /-- No step takes a byte from a file. -/
  grows : ∀ t ∈ Machine.trace step (start files) ops, ∀ path bytes, t.before.files path = some bytes →
    ∃ more, t.after.files path = some (bytes ++ more)
  /-- A recorder that was just flushed has contributed its events, each of them once and in order. -/
  complete : ∀ earlier r path, ops = earlier ++ [.flush r path] →
    (((start files).contributed ops path).filter fun x => x.1 = r).map Prod.snd =
      ((Machine.final step (start files) ops).recorders r).events
  /-- The lines of a file are the first ones and those that recorders contributed. -/
  lines : ∀ path first, linesOf (files path) = .ok first →
    linesOf ((Machine.final step (start files) ops).files path) =
      .ok (first ++ ((start files).contributed ops path).map fun x => (eventLine x.2).toList ++ ['\n'])
  /-- `load` returns the events of all these lines. -/
  loads : ∀ path first, eventsOf (files path) = .ok first →
    ∃ new, eventsOf ((Machine.final step (start files) ops).files path) = .ok (first ++ new) ∧
      List.Forall₂ TrajectoryEvent.Same new (((start files).contributed ops path).map Prod.snd)
  numbered : ∀ r, ((Machine.final step (start files) ops).recorders r).events.map (·.sequence) =
    (List.range ((Machine.final step (start files) ops).recorders r).events.length).map fun i : Nat => (i : Int) + 1

theorem accounts_lines (accounts : Accounts files log s) {path : κ} {first : List (List Char)}
    (read : linesOf (files path) = .ok first) :
    linesOf (s.files path) = .ok (first ++ (log path).map fun x => (eventLine x.2).toList ++ ['\n']) := by
  cases file : s.files path with
  | none =>
    obtain ⟨absent, empty⟩ := accounts.absent path file
    rw [absent] at read
    obtain rfl := Except.ok.inj read
    rw [empty]
    rfl
  | some bytes =>
    have ends : (log path).map Prod.snd ≠ [] → EndsLine (files path) := fun nonempty =>
      accounts.ended path fun empty => nonempty (by rw [empty]; rfl)
    rw [accounts.present path bytes file, linesOf_appendEvents ends read, List.map_map]
    rfl

theorem accounts_loads (accounts : Accounts files log s) {path : κ} {first : List TrajectoryEvent}
    (read : eventsOf (files path) = .ok first) :
    ∃ new, eventsOf (s.files path) = .ok (first ++ new) ∧ List.Forall₂ TrajectoryEvent.Same new ((log path).map Prod.snd) := by
  rw [eventsOf_eq] at read
  obtain ⟨lines, split, loaded⟩ := bind_eq_ok_iff.mp read
  obtain ⟨new, added, same⟩ := mapM_loadLine_written ((log path).map Prod.snd)
  refine ⟨new, ?_, same⟩
  rw [List.map_map] at added
  have appended := accounts_lines accounts split
  rw [eventsOf_eq, appended]
  show (lines ++ _).mapM loadLine = _
  rw [List.mapM_append, loaded]
  show ((log path).map _).mapM loadLine >>= _ = _
  exact congrArg (· >>= fun added => .ok (first ++ added)) added

theorem flushed_is_kept {files : κ → Option ByteArray} {ops : List (JournalOp ρ κ)}
    (meets : ∀ t ∈ Machine.trace step (start files) ops, t.before.Meets t.event) : Kept files ops := by
  have accounts := accounts_run (accounts_start files) meets
  simp only [List.nil_append] at accounts
  refine ⟨?_, ?_, fun path first => accounts_lines accounts, fun path first => accounts_loads accounts, accounts.numbered⟩
  · intro t member path bytes before
    rw [Machine.transition_of_mem member]
    exact step_grows t.before t.event before
  · rintro earlier r path rfl
    have share := accounts.shares r path
    have all : ((Machine.final step (start files) (earlier ++ [.flush r path])).recorders r).flushedCount path =
        ((Machine.final step (start files) (earlier ++ [.flush r path])).recorders r).events.length := by
      rw [Machine.final_append]
      show ((step _ (.flush r path)).2.recorders r).flushedCount path = ((step _ (.flush r path)).2.recorders r).events.length
      rw [flushedCount_flush, events_flush, if_pos ⟨rfl, rfl⟩]
    rw [share, all, List.take_length]

/-! ### Files that end their lines -/

/-- A file that is not there, or a text that ends its last line. -/
def Ended (file : Option ByteArray) : Prop := ∃ text : String, file.getD .empty = text.toUTF8 ∧ Terminated text.toList

theorem ended_appendEvents {file : Option ByteArray} (ended : Ended file) (events : List TrajectoryEvent) :
    Ended (some (appendEvents file events)) := by
  obtain ⟨text, same, terminated⟩ := ended
  refine ⟨text ++ joinLines (events.map eventLine), appendEvents_toUTF8 same events, ?_⟩
  have pieces : joinLines (events.map eventLine) =
      String.ofList ((events.map fun e => (eventLine e).toList).flatMap (· ++ ['\n'])) := by
    rw [joinLines, List.flatMap_map, List.flatMap_map]
  rw [String.toList_append, pieces, String.toList_ofList]
  exact terminated_append terminated terminated_pieces

/-- Once all files end their lines, every run flushes to files that do. -/
theorem meets_of_ended {files : κ → Option ByteArray} (ended : ∀ path, Ended (files path)) (ops : List (JournalOp ρ κ)) :
    ∀ t ∈ Machine.trace step (start files) ops, t.before.Meets t.event := by
  intro t member
  have keep : ∀ (s : Journal ρ κ) op, (∀ path, Ended (s.files path)) → ∀ path, Ended ((step s op).2.files path) := by
    intro s op before path
    cases op with
    | append r what actor payload now =>
      rcases step_append s r what actor payload now with same | ⟨e, -, recorded⟩
      · rw [same]
        exact before path
      · rw [recorded]
        exact before path
    | flush r target =>
      by_cases here : path = target
      · subst here
        rw [files_flush]
        exact ended_appendEvents (before path) _
      · rw [files_flush_ne s r here]
        exact before path
  have before := Machine.before_inv keep ended member
  cases event : t.event with
  | append r what actor payload now => trivial
  | flush r path =>
    intro _
    cases file : t.before.files path with
    | none => trivial
    | some bytes =>
      intro text decoded
      obtain ⟨text', same, terminated⟩ := before path
      rw [file, Option.getD_some, decodeUtf8_ok decoded] at same
      rw [String.toByteArray_inj.mp same]
      exact terminated

end Journal

end Journal

/-! ### Two recorders and a file -/

namespace Journal

def readyEvent : EventOrType := .event ⟨7, "2026-01-01T00:00:00Z", .runStarted, "runner", .empty⟩

def interleaved : List (JournalOp Bool Unit) :=
  [.append true readyEvent none .missing "2026-01-01T00:00:01Z", .append false readyEvent none .missing "2026-01-01T00:00:02Z",
    .flush true (), .flush false (), .append true readyEvent none .missing "2026-01-01T00:00:03Z", .flush true ()]

theorem interleaved_is_kept : @Kept Bool Unit _ _ asciiJson (fun _ => none) interleaved :=
  @flushed_is_kept Bool Unit _ _ asciiJson (fun _ => none) interleaved
    (@meets_of_ended Bool Unit _ _ asciiJson (fun _ => none) (fun _ => ⟨"", rfl, nofun⟩) interleaved)

/-- A line that is not ended is an event of the file, until another one is appended to it. -/
theorem open_line (e e' : TrajectoryEvent) :
    (∃ first, @eventsOf asciiJson (some (@eventLine asciiJson e).toUTF8) = .ok first) ∧
      @eventsOf asciiJson (some (@appendEvents asciiJson (some (@eventLine asciiJson e).toUTF8) [e'])) =
        .error "Extra data" := by
  obtain ⟨rest, opens⟩ := @eventLine_opens asciiJson e'
  have first := @eventLine_oneLine asciiJson e
  have second := @eventLine_oneLine asciiJson e'
  constructor
  · have nonempty : (@eventLine asciiJson e).toList ≠ [] := by
      obtain ⟨_, opens⟩ := @eventLine_opens asciiJson e
      simp [opens]
    have reads := fraction_loads e.modelDump [] (by simp)
    rw [String.ofList_nil, String.append_empty] at reads
    obtain ⟨loaded, read, -⟩ := @loadLine_of_reads asciiJson (@eventLine asciiJson e).toList e
      (by rw [String.ofList_toList]; exact reads)
    rw [@eventsOf_toUTF8 asciiJson, textLines_open first nonempty, List.mapM_cons, read]
    exact ⟨_, rfl⟩
  · -- The second object follows the first one on its line.
    have text : (@eventLine asciiJson e ++ joinLines [@eventLine asciiJson e']).toList =
        [(@eventLine asciiJson e).toList ++ (@eventLine asciiJson e').toList].flatMap (· ++ ['\n']) := by
      simp [joinLines]
    have oneLine : ∀ p ∈ [(@eventLine asciiJson e).toList ++ (@eventLine asciiJson e').toList], '\n' ∉ p ∧ '\r' ∉ p := by
      simp [first, second]
    have stops : JsonText.Stops ((@eventLine asciiJson e').toList ++ ['\n']) := by
      simp [JsonText.Stops, opens, JsonText.isNumeral]
    have raises := JsonText.loads_written JsonText.fractionText_laws e.modelDump stops
    rw [if_neg (by simp [opens])] at raises
    have line : String.ofList ((@eventLine asciiJson e).toList ++ (@eventLine asciiJson e').toList ++ ['\n']) =
        @eventLine asciiJson e ++ String.ofList ((@eventLine asciiJson e').toList ++ ['\n']) := by
      rw [List.append_assoc, String.ofList_append, String.ofList_toList]
    have failed : @loadLine asciiJson ((@eventLine asciiJson e).toList ++ (@eventLine asciiJson e').toList ++ ['\n']) =
        .error "Extra data" := by
      unfold loadLine
      rw [line]
      exact congrArg (· >>= _) raises
    rw [@appendEvents_toUTF8 asciiJson _ _ rfl, @eventsOf_toUTF8 asciiJson, List.map_singleton, text,
      textLines_pieces oneLine, List.map_singleton, List.mapM_cons, failed]
    rfl

theorem open_line_is_not_kept :
    (∃ first, @eventsOf asciiJson (some (@eventLine asciiJson brokenLines).toUTF8) = .ok first) ∧
      ¬@Kept Unit Unit _ _ asciiJson (fun _ => some (@eventLine asciiJson brokenLines).toUTF8)
        [.append () readyEvent none .missing "2026-01-01T00:00:01Z", .flush () ()] := by
  obtain ⟨⟨first, read⟩, raises⟩ := open_line brokenLines ⟨1, "2026-01-01T00:00:01Z", .runStarted, "runner", .empty⟩
  refine ⟨⟨first, read⟩, fun kept => ?_⟩
  obtain ⟨new, loaded, -⟩ := @Kept.loads Unit Unit _ _ asciiJson _ _ kept () first read
  cases raises.symm.trans loaded

end Journal

end AgentGym.Storage
