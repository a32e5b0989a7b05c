import AgentGym.Core.JsonSafe
import AgentGym.Lib.PyJsonText
import AgentGym.Storage.Reload

/-!
# What can be persisted

A value that passes as JSON-safe is written as canonical JSON text and encoded as UTF-8.
The check accepts every string and every integer, so it accepts values that have no text,
or a text with no encoding. All other accepted values are read back as they were.
-/

namespace AgentGym.Storage.Persistence

open AgentGym.Core PyValue
open PyString (Plain)

/-! ### The value that a graph stands for -/

section Unfold

variable {ι : Type}

def unfoldEntry (unfold : PyObject ι → Option PyValue) : DictKey × PyObject ι → Option (PyString × PyValue)
  | (.str key, item) => (unfold item).map (key, ·)
  | (.foreign .., _) => none

/-- The value without references, down to so many containers. -/
def unfold (heap : ι → Container ι) : Nat → PyObject ι → Option PyValue
  | 0, _ => none
  | frames + 1, value =>
    match value with
    | .none => some .null
    | .bool b => some (.bool b)
    | .int i => some (.int i)
    | .float (.finite q) => some (.float q)
    | .float .negZero => some .negZero
    | .float _ => none
    | .str s => some (.str s)
    | .container id =>
      match heap id with
      | .dict items => (items.entries.mapM (unfoldEntry (unfold heap frames))).map .dict
      | .list items => (items.mapM (unfold heap frames)).map .list
    | .foreign _ => none

theorem unfold_dict {heap : ι → Container ι} {id : ι} {items : Dict DictKey (PyObject ι)} (contents : heap id = .dict items)
    (frames : Nat) : unfold heap (frames + 1) (.container id) =
      (items.entries.mapM (unfoldEntry (unfold heap frames))).map .dict := by
  rw [unfold]
  simp only [contents]

theorem unfold_list {heap : ι → Container ι} {id : ι} {items : List (PyObject ι)} (contents : heap id = .list items)
    (frames : Nat) : unfold heap (frames + 1) (.container id) = (items.mapM (unfold heap frames)).map .list := by
  rw [unfold]
  simp only [contents]

theorem unfold_scalar (heap : ι → Container ι) (frames : Nat) {value : PyObject ι} (scalar : value.isScalar = true) :
    ∃ v, unfold heap (frames + 1) value = some v ∧ v.Distinct := by
  cases value with
  | none => exact ⟨_, rfl, .leaf rfl⟩
  | bool b => exact ⟨_, rfl, .leaf rfl⟩
  | int i => exact ⟨_, rfl, .leaf rfl⟩
  | str s => exact ⟨_, rfl, .leaf rfl⟩
  | float x =>
    cases x with
    | finite q => exact ⟨_, rfl, .leaf rfl⟩
    | negZero => exact ⟨_, rfl, .leaf rfl⟩
    | inf negative => cases scalar
    | nan => cases scalar
  | container id => cases scalar
  | foreign typeName => cases scalar

theorem unfold_items {unfold : PyObject ι → Option PyValue} {items : List (PyObject ι)}
    (each : ∀ item ∈ items, ∃ v, unfold item = some v ∧ v.Distinct) :
    ∃ vs, items.mapM unfold = some vs ∧ ∀ v ∈ vs, v.Distinct := by
  induction items with
  | nil => exact ⟨[], rfl, by simp⟩
  | cons item items ih =>
    obtain ⟨v, first, here⟩ := each item List.mem_cons_self
    obtain ⟨vs, rest, later⟩ := ih fun item member => each item (List.mem_cons_of_mem _ member)
    refine ⟨v :: vs, ?_, List.forall_mem_cons.mpr ⟨here, later⟩⟩
    rw [List.mapM_cons, first, rest]
    rfl

theorem unfold_entries {unfold : PyObject ι → Option PyValue} {entries : List (DictKey × PyObject ι)}
    (keys : ∀ e ∈ entries, e.1.isStr = true) (each : ∀ item ∈ entries.map Prod.snd, ∃ v, unfold item = some v ∧ v.Distinct) :
    ∃ kvs, entries.mapM (unfoldEntry unfold) = some kvs ∧ kvs.map (fun e => DictKey.str e.1) = entries.map Prod.fst ∧
      ∀ e ∈ kvs, e.2.Distinct := by
  induction entries with
  | nil => exact ⟨[], rfl, rfl, by simp⟩
  | cons e entries ih =>
    obtain ⟨key, item⟩ := e
    obtain ⟨str, others⟩ := List.forall_mem_cons.mp keys
    rw [List.map_cons, List.forall_mem_cons] at each
    obtain ⟨⟨v, first, here⟩, rest⟩ := each
    obtain ⟨kvs, unfolded, names, later⟩ := ih others rest
    cases key with
    | foreign id repr => cases str
    | str key =>
      refine ⟨(key, v) :: kvs, ?_, ?_, List.forall_mem_cons.mpr ⟨here, later⟩⟩
      · rw [List.mapM_cons, unfoldEntry, first, unfolded]
        rfl
      · rw [List.map_cons, names, List.map_cons]

variable [DecidableEq ι] [Fintype ι] {heap : ι → Container ι}

theorem unfold_of_sound {frames : Nat} {active : Finset ι} (enough : activeᶜ.card < frames) {value : PyObject ι}
    (sound : Traversal.Sound (Child heap) (Acceptable heap) (activeValues active) value) :
    ∃ v, unfold heap frames value = some v ∧ v.Distinct := by
  induction frames generalizing value active with
  | zero => exact absurd enough (Nat.not_lt_zero _)
  | succ frames ih =>
    cases value with
    | container id =>
      have member : id ∉ active := fun inside => sound.outside _ .refl ⟨id, inside, rfl⟩
      have fewer : (insert id active)ᶜ.card < frames := by
        rw [← card_compl_insert member] at enough
        exact Nat.lt_of_succ_lt_succ enough
      obtain ⟨keys, inner⟩ := (sound_container heap member).mp sound
      have each := fun item inside => ih fewer (inner item inside)
      cases contents : heap id with
      | dict entries =>
        rw [contents] at keys each
        obtain ⟨kvs, unfolded, names, later⟩ := unfold_entries keys each
        refine ⟨.dict kvs, by rw [unfold_dict contents, unfolded]; rfl, .dict ?_ later⟩
        have nodup := entries.nodup
        rw [← names] at nodup
        exact List.Nodup.of_map DictKey.str (by rw [List.map_map]; exact nodup)
      | list items =>
        rw [contents] at each
        have each : ∀ item ∈ items, ∃ v, unfold heap frames item = some v ∧ v.Distinct := each
        obtain ⟨vs, unfolded, later⟩ := unfold_items each
        exact ⟨.list vs, by rw [unfold_list contents, unfolded]; rfl, .list later⟩
    | _ => exact unfold_scalar heap frames ((sound_leaf heap rfl).mp sound)

end Unfold

/-! ### Persisting -/

section Persist

variable [PyJson]

def canonicalText (v : PyValue) : Except String PyString := v.dumps fun q => PyText.repr (.float q)

/-- `canonical_json_bytes`. -/
def canonicalJsonBytes (v : PyValue) : Except String ByteArray := do
  let text ← canonicalText v
  text.encodeUtf8

/-- `json.loads` of the bytes gives the value, up to the order of keys. -/
def ReadBack (bytes : ByteArray) (v : PyValue) : Prop :=
  ∃ w j, PyJson.loadsBytes bytes = .ok w ∧ v = ofJson j ∧ w.sameText j = true

/-- An event as it is after its validation. -/
structure Event where
  sequence : Int
  timestamp : PyString
  type : Runner.TrajectoryEventType
  actor : PyString
  payload : List (PyString × PyValue)

def Event.modelDump (e : Event) : PyValue :=
  .dict [(py "sequence", .int e.sequence), (py "timestamp", .str e.timestamp), (py "type", .str (py e.type.value)),
    (py "actor", .str e.actor), (py "payload", .dict e.payload)]

/-- `_trajectory_bytes`. -/
def trajectoryBytes (events : List Event) : Except String ByteArray := do
  let lines ← (events.map Event.modelDump).mapM canonicalText
  PyString.encodeUtf8 (lines.flatMap (· ++ py "\n"))

theorem canonicalText_ok_iff (v : PyValue) : (∃ text, canonicalText v = .ok text ∧ Plain text) ↔ v.Persistable := by
  constructor
  · rintro ⟨text, written, plain⟩
    exact persistable_of_dumps written plain
  · intro persistable
    obtain ⟨j, same⟩ := exists_ofJson ((persistable_sorted v).mpr persistable)
    have written := write_ofJson (fun q => PyText.repr (.float q)) (same ▸ (persistable_sorted v).mpr persistable)
    rw [same] at written
    exact ⟨_, written, PyString.plain_ofChars _⟩

theorem persistable_of_canonicalJsonBytes {v : PyValue} {bytes : ByteArray} (encoded : canonicalJsonBytes v = .ok bytes) :
    v.Persistable := by
  obtain ⟨text, written, encodes⟩ := bind_eq_ok_iff.mp encoded
  exact (canonicalText_ok_iff v).mp ⟨text, written, (PyString.encodeUtf8_ok_iff text).mp ⟨bytes, encodes⟩⟩

theorem canonicalJsonBytes_ok_iff {v : PyValue} (distinct : v.Distinct) :
    (∃ bytes, canonicalJsonBytes v = .ok bytes ∧ ReadBack bytes v) ↔ v.Persistable := by
  constructor
  · rintro ⟨bytes, encoded, -⟩
    exact persistable_of_canonicalJsonBytes encoded
  · intro persistable
    obtain ⟨j, rfl⟩ := exists_ofJson persistable
    obtain ⟨w, read, same⟩ := PyJson.loadsBytes_dumps j
    refine ⟨_, ?_, w, j, read, rfl, same⟩
    unfold canonicalJsonBytes canonicalText
    rw [dumps_ofJson _ distinct persistable]
    show PyString.encodeUtf8 (.ofChars _) = _
    rw [PyString.encodeUtf8_ofChars, String.ofList_toList]

omit [PyJson] in
theorem plain_flatMap {lines : List PyString} : Plain (lines.flatMap (· ++ py "\n")) ↔ ∀ line ∈ lines, Plain line := by
  constructor
  · intro plain line member c inside
    exact plain c (List.mem_flatMap.mpr ⟨line, member, List.mem_append_left _ inside⟩)
  · intro each c inside
    obtain ⟨line, member, found⟩ := List.mem_flatMap.mp inside
    rcases List.mem_append.mp found with here | feed
    · exact each line member c here
    · exact PyString.plain_ofChars _ c feed

theorem trajectoryBytes_ok_iff (events : List Event) :
    (∃ bytes, trajectoryBytes events = .ok bytes) ↔ ∀ e ∈ events, e.modelDump.Persistable := by
  constructor
  · rintro ⟨bytes, stored⟩ e member
    obtain ⟨lines, written, encoded⟩ := bind_eq_ok_iff.mp stored
    obtain ⟨line, inside, ran⟩ := mem_mapM_of_mem written (List.mem_map_of_mem member)
    have plain := plain_flatMap.mp ((PyString.encodeUtf8_ok_iff _).mp ⟨bytes, encoded⟩)
    exact (canonicalText_ok_iff _).mp ⟨line, ran, plain line inside⟩
  · intro each
    obtain ⟨lines, written, related⟩ := mapM_related (f := canonicalText) (g := Event.modelDump) (R := fun text _ => Plain text)
      fun e member => (canonicalText_ok_iff _).mpr (each e member)
    have plain : ∀ line ∈ lines, Plain line := by
      intro line member
      obtain ⟨e, -, plain⟩ := exists_of_forall₂ related member
      exact plain
    obtain ⟨bytes, encoded⟩ := (PyString.encodeUtf8_ok_iff _).mpr (plain_flatMap.mpr plain)
    exact ⟨bytes, bind_eq_ok_iff.mpr ⟨lines, written, encoded⟩⟩

/-- What the check accepts is persisted and read back if and only if no string and no key in it has
a surrogate and its integers have texts; events are stored under the same condition. -/
theorem accepted_persists_iff {ι : Type} [DecidableEq ι] [Fintype ι] (heap : ι → Container ι) {frames : Nat}
    (enough : Fintype.card ι < frames) {value : PyObject ι} {path : PyString}
    (accepted : ensureJsonSafe heap frames value path = .ok value) :
    (∃ v, unfold heap frames value = some v ∧
      ((∃ bytes, canonicalJsonBytes v = .ok bytes ∧ ReadBack bytes v) ↔ v.Persistable)) ∧
    ∀ events, (∃ bytes, trajectoryBytes events = .ok bytes) ↔ ∀ e ∈ events, e.modelDump.Persistable := by
  have empty : activeValues (∅ : Finset ι) = ∅ := by simp [activeValues]
  have sound := (jsonSafe_iff heap value).mp ((ensureJsonSafe_accepts heap enough value path).mp accepted)
  rw [← empty] at sound
  obtain ⟨v, unfolded, distinct⟩ := unfold_of_sound (card_compl_empty enough) sound
  exact ⟨⟨v, unfolded, canonicalJsonBytes_ok_iff distinct⟩, trajectoryBytes_ok_iff⟩

end Persist

/-! ### Two payloads -/

def payloadHeap (content : PyString) : Unit → Container Unit := fun _ => .dict (.ofEntries [(.str (py "content"), .str content)])

theorem greeting_persists :
    (∃ v, unfold (payloadHeap (py "hello")) 2 (.container ()) = some v ∧
      ((∃ bytes, @canonicalJsonBytes asciiJson v = .ok bytes ∧ @ReadBack asciiJson bytes v) ↔ v.Persistable)) ∧
    ∀ events, (∃ bytes, @trajectoryBytes asciiJson events = .ok bytes) ↔ ∀ e ∈ events, e.modelDump.Persistable :=
  @accepted_persists_iff asciiJson Unit _ _ (payloadHeap (py "hello")) 2 (by decide) (.container ()) (py "$") rfl

/-- What `json.loads` reads of the escape `\ud800`. -/
def loneSurrogate : PyString := [0xD800]

theorem lone_surrogate_is_not_persisted :
    ensureJsonSafe (payloadHeap loneSurrogate) 2 (.container ()) (py "$") = .ok (.container ()) ∧
      ∃ v, unfold (payloadHeap loneSurrogate) 2 (.container ()) = some v ∧
        ∀ bytes, @canonicalJsonBytes asciiJson v ≠ .ok bytes := by
  refine ⟨rfl, .dict [(py "content", .str loneSurrogate)], rfl, fun bytes encoded => ?_⟩
  have persistable := @persistable_of_canonicalJsonBytes asciiJson _ bytes encoded
  rw [persistable_dict] at persistable
  have plain : Plain loneSurrogate := (persistable _ (List.mem_singleton_self _)).2
  exact absurd (plain 0xD800 (List.mem_singleton_self _)) (by decide)

end AgentGym.Storage.Persistence
