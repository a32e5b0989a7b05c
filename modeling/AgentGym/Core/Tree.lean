import Mathlib.Data.String.Basic
import AgentGym.Core.Package
import AgentGym.Lib.Framing

/-!
# What the digest of a tool tree is of

Each path and each file goes into the digest after its length in eight bytes, in the order of
the paths. So the bytes tell the tree, and are the same however the tree is listed.
-/

namespace AgentGym.Core

open Files (FileSystem Node Path ProperName asPosix asPosix_injective components asPosix_components components_asPosix)
open Framing

/-! ### Lengths -/

theorem toBytes_ok {n : Nat} {bytes : List UInt8} : toBytes n = .ok bytes ↔ n < 18446744073709551616 ∧
    (List.range 8).map (fun i => UInt8.ofNat (n / Nat.pow 256 (7 - i))) = bytes := by
  unfold toBytes
  split
  · rename_i small
    simp [small]
  · rename_i large
    simp [large]

theorem toBytes_length {n : Nat} {bytes : List UInt8} (encoded : toBytes n = .ok bytes) : bytes.length = 8 := by
  obtain ⟨-, rfl⟩ := toBytes_ok.mp encoded
  simp

theorem toBytes_injective {n m : Nat} {bytes : List UInt8} (left : toBytes n = .ok bytes) (right : toBytes m = .ok bytes) :
    n = m := by
  obtain ⟨small, rfl⟩ := toBytes_ok.mp left
  obtain ⟨small', same⟩ := toBytes_ok.mp right
  have digit : ∀ i < 8, n / Nat.pow 256 (7 - i) % 256 = m / Nat.pow 256 (7 - i) % 256 := by
    intro i bound
    have byte := List.map_inj_left.mp same i (List.mem_range.mpr bound)
    have value := congrArg UInt8.toNat byte
    simpa using value.symm
  -- The first `i + 1` bytes tell what is left of the number without the others.
  have above : ∀ i < 8, n / Nat.pow 256 (7 - i) = m / Nat.pow 256 (7 - i) := by
    intro i bound
    induction i with
    | zero =>
      have first := digit 0 bound
      simp only [Nat.pow_eq] at first ⊢
      omega
    | succ i ih =>
      have before := ih (by omega)
      have here := digit (i + 1) bound
      have step : Nat.pow 256 (7 - i) = Nat.pow 256 (7 - (i + 1)) * 256 := by
        rw [show 7 - i = 7 - (i + 1) + 1 by omega]
        rfl
      rw [step, ← Nat.div_div_eq_div_mul, ← Nat.div_div_eq_div_mul] at before
      omega
  simpa using above 7 (by omega)

theorem length_selfDelimiting : SelfDelimiting fun n w => toBytes n = .ok w :=
  selfDelimiting_of_width (fun _ _ => toBytes_length) fun _ _ _ => toBytes_injective

/-! ### Trees -/

def fields (entry : String × ByteArray) : List UInt8 × List UInt8 := (entry.1.toUTF8.data.toList, entry.2.data.toList)

theorem fields_injective : Function.Injective fields := by
  rintro ⟨path, contents⟩ ⟨path', contents'⟩ same
  obtain ⟨paths, bytes⟩ := Prod.mk.inj same
  have text : path.toUTF8 = path'.toUTF8 := ByteArray.ext (Array.toList_inj.mp paths)
  obtain rfl := String.toByteArray_inj.mp text
  obtain rfl : contents = contents' := ByteArray.ext (Array.toList_inj.mp bytes)
  rfl

/-- An entry is its path and its contents, each after its length. -/
def EntryCode : List UInt8 × List UInt8 → List UInt8 → Prop :=
  Both (Prefixed fun n w => toBytes n = .ok w) (Prefixed fun n w => toBytes n = .ok w)

theorem entryCode_selfDelimiting : SelfDelimiting EntryCode := length_selfDelimiting.prefixed.both length_selfDelimiting.prefixed

theorem entryCode_nonempty (fields : List UInt8 × List UInt8) : ¬ EntryCode fields [] := by
  rintro ⟨_, _, ⟨length, encoded, rfl⟩, -, empty⟩
  have width := toBytes_length encoded
  obtain ⟨start, -⟩ := List.append_eq_nil_iff.mp empty.symm
  obtain ⟨rfl, -⟩ := List.append_eq_nil_iff.mp start
  simp at width

theorem treeBytes_ok {entries : List (String × ByteArray)} {bytes : List UInt8} :
    treeBytes entries = .ok bytes ↔ Sequence EntryCode (entries.map fields) bytes := by
  induction entries generalizing bytes with
  | nil =>
    constructor
    · intro encoded
      obtain rfl := Except.ok.inj encoded
      exact .nil
    · rintro ⟨⟩
      rfl
  | cons entry entries ih =>
    obtain ⟨path, contents⟩ := entry
    simp only [treeBytes, bind_eq_ok_iff, ih]
    constructor
    · rintro ⟨pathLength, first, contentsLength, second, rest, later, whole⟩
      obtain rfl := Except.ok.inj whole
      have coded : EntryCode (fields (path, contents))
          ((pathLength ++ path.toUTF8.data.toList) ++ (contentsLength ++ contents.data.toList)) :=
        ⟨_, _, ⟨pathLength, first, rfl⟩, ⟨contentsLength, second, rfl⟩, rfl⟩
      simpa using Sequence.cons coded later
    · intro coded
      rw [List.map_cons] at coded
      cases coded with
      | cons coded later =>
        obtain ⟨_, _, ⟨pathLength, first, rfl⟩, ⟨contentsLength, second, rfl⟩, rfl⟩ := coded
        refine ⟨pathLength, first, contentsLength, second, _, later, ?_⟩
        simp [fields, pure, Except.pure]

/-- Different files feed different bytes to the digest. -/
theorem treeBytes_injective {entries entries' : List (String × ByteArray)} {bytes : List UInt8}
    (left : treeBytes entries = .ok bytes) (right : treeBytes entries' = .ok bytes) : entries = entries' :=
  List.map_injective_iff.mpr fields_injective
    (Sequence.injective entryCode_selfDelimiting entryCode_nonempty (treeBytes_ok.mp left) (treeBytes_ok.mp right))

/-- Lengths fit into eight bytes, or there are no bytes to digest. -/
theorem treeBytes_total {entries : List (String × ByteArray)} : (∃ bytes, treeBytes entries = .ok bytes) ↔
    ∀ entry ∈ entries, entry.1.toUTF8.size < 18446744073709551616 ∧ entry.2.size < 18446744073709551616 := by
  induction entries with
  | nil => simp [treeBytes]
  | cons entry entries ih =>
    obtain ⟨path, contents⟩ := entry
    simp only [treeBytes, bind_eq_ok_iff, toBytes_ok, List.forall_mem_cons, ← ih]
    constructor
    · rintro ⟨bytes, _, ⟨first, -⟩, _, ⟨second, -⟩, rest, later, -⟩
      exact ⟨⟨first, second⟩, rest, later⟩
    · rintro ⟨⟨first, second⟩, rest, later⟩
      exact ⟨_, _, ⟨first, rfl⟩, _, ⟨second, rfl⟩, rest, later, rfl⟩

/-! ### The files of a tree -/

section Listed

variable {files files' : FileSystem} {r r' : Path}

theorem mem_treeFiles (location : files.IsLocation r) (present : (files.get? r).isSome) {name : String}
    {contents : ByteArray} : (name, contents) ∈ treeFiles files r ↔
      ∃ q, q ≠ [] ∧ asPosix q = name ∧ files.get? (r ++ q) = some (.file contents) := by
  simp only [treeFiles, List.mem_insertionSort, List.mem_filterMap, Prod.exists, FileSystem.mem_rglob location present]
  constructor
  · rintro ⟨q, node, ⟨nonempty, here⟩, listed⟩
    cases node with
    | file bytes =>
      obtain ⟨rfl, rfl⟩ := Prod.mk.inj (Option.some.inj listed)
      exact ⟨q, nonempty, rfl, here⟩
    | _ => simp at listed
  · rintro ⟨q, nonempty, rfl, here⟩
    exact ⟨q, .file contents, ⟨nonempty, here⟩, rfl⟩

theorem proper_below {q : Path} {node : Node} (here : files.get? (r ++ q) = some node) : ∀ name ∈ q, ProperName name :=
  fun name member => FileSystem.proper_of_present (by rw [here]; rfl) name (List.mem_append_right r member)

/-- The files among what is listed, in order. -/
def listedFiles (entries : List (Path × Node)) : List (String × ByteArray) :=
  (entries.filterMap fun (relative, node) => match node with
    | .file contents => some (asPosix relative, contents)
    | _ => none).insertionSort fun a b => a.1 ≤ b.1

theorem listedFiles_sorted (location : files.IsLocation r) (present : (files.get? r).isSome) {entries : List (Path × Node)}
    (listing : entries.Perm (files.rglob r)) : (listedFiles entries).Pairwise fun a b => a.1 < b.1 := by
  have ordered : (listedFiles entries).Pairwise fun a b => a.1 ≤ b.1 := List.pairwise_insertionSort _ _
  have distinct : (listedFiles entries).Pairwise fun a b => a.1 ≠ b.1 := by
    rw [listedFiles, (List.perm_insertionSort _ _).pairwise_iff fun h => h.symm, List.pairwise_filterMap]
    have keys : (entries.map Prod.fst).Nodup := (listing.map Prod.fst).nodup_iff.mpr (FileSystem.rglob_nodup r)
    refine (List.pairwise_map.mp keys).imp_of_mem ?_
    rintro ⟨q, node⟩ ⟨q', node'⟩ listed listed' other entry kept entry' kept' same
    have proper := proper_below ((FileSystem.mem_rglob location present).mp (listing.mem_iff.mp listed)).2
    have proper' := proper_below ((FileSystem.mem_rglob location present).mp (listing.mem_iff.mp listed')).2
    cases node with
    | file contents =>
      cases node' with
      | file contents' =>
        obtain rfl := Option.some.inj kept
        obtain rfl := Option.some.inj kept'
        exact other (asPosix_injective proper proper' same)
      | _ => simp at kept'
    | _ => simp at kept
  exact (ordered.and distinct).imp fun h => lt_of_le_of_ne h.1 h.2

theorem treeFiles_sorted (location : files.IsLocation r) (present : (files.get? r).isSome) :
    (treeFiles files r).Pairwise fun a b => a.1 < b.1 := listedFiles_sorted location present (.refl _)

theorem listedFiles_eq (location : files.IsLocation r) (present : (files.get? r).isSome) {entries : List (Path × Node)}
    (listing : entries.Perm (files.rglob r)) : listedFiles entries = treeFiles files r := by
  refine List.Pairwise.eq_of_mem_iff (listedFiles_sorted location present listing) (treeFiles_sorted location present) ?_
  intro entry
  have same : treeFiles files r = listedFiles (files.rglob r) := rfl
  simp only [same, listedFiles, List.mem_insertionSort, (listing.filterMap _).mem_iff]

theorem treeFiles_congr (location : files.IsLocation r) (present : (files.get? r).isSome)
    (location' : files'.IsLocation r') (present' : (files'.get? r').isSome)
    (same : ∀ q contents, q ≠ [] →
      (files.get? (r ++ q) = some (.file contents) ↔ files'.get? (r' ++ q) = some (.file contents))) :
    treeFiles files r = treeFiles files' r' := by
  refine List.Pairwise.eq_of_mem_iff (treeFiles_sorted location present) (treeFiles_sorted location' present') ?_
  rintro ⟨name, contents⟩
  rw [mem_treeFiles location present, mem_treeFiles location' present']
  exact exists_congr fun q => and_congr_right fun nonempty => and_congr_right fun _ => same q contents nonempty

theorem same_files_of_treeFiles (location : files.IsLocation r) (present : (files.get? r).isSome)
    (location' : files'.IsLocation r') (present' : (files'.get? r').isSome) (same : treeFiles files r = treeFiles files' r')
    {q : Path} {contents : ByteArray} (nonempty : q ≠ []) (here : files.get? (r ++ q) = some (.file contents)) :
    files'.get? (r' ++ q) = some (.file contents) := by
  have listed : (asPosix q, contents) ∈ treeFiles files' r' :=
    same ▸ (mem_treeFiles location present).mpr ⟨q, nonempty, rfl, here⟩
  obtain ⟨q', -, names, there⟩ := (mem_treeFiles location' present').mp listed
  rwa [asPosix_injective (proper_below there) (proper_below here) names] at there

end Listed

/-! ### Trees as maps -/

/-- What a tree has at a relative path, if that is a regular file. -/
def treeMap (files : FileSystem) (r : Path) (name : String) : Option ByteArray :=
  match files.get? (r ++ components name) with
  | some (.file contents) => some contents
  | _ => none

/-- `_sha256_path` of a directory, with what `rglob` lists as an argument. -/
def sha256Listed (sha256 : ByteArray → String) (path : Path) (entries : List (Path × Node)) : Except PackageError String :=
  let shown := showPath path
  if entries.any fun entry => entry.2.isLink then
    .error (.value s!"Symlinks are not allowed in tool package trees: {shown}")
  else (treeBytes (listedFiles entries)).map fun bytes => sha256 ⟨bytes.toArray⟩

/-- A path to a directory without links below, whose paths and files have lengths of eight bytes. -/
structure PlainTree (files : FileSystem) (path r : Path) : Prop where
  notLink : files.isSymlink path = false
  found : files.stat path = some r
  directory : files.get? r = some .dir
  noLinks : ∀ q target, files.get? (r ++ q) ≠ some (.link target)
  lengths : ∀ name contents, treeMap files r name = some contents →
    name.toUTF8.size < 18446744073709551616 ∧ contents.size < 18446744073709551616

/-- The bytes go to the digest, however the directory is listed. -/
def Feeds (files : FileSystem) (path : Path) (bytes : ByteArray) : Prop :=
  ∀ sha256 : ByteArray → String, sha256Path sha256 files path = .ok (sha256 bytes) ∧
    ∀ entries, entries.Perm (files.rglob path) → sha256Listed sha256 path entries = .ok (sha256 bytes)

section Maps

variable {files files' : FileSystem} {path path' r r' : Path}

theorem mem_treeFiles_iff (location : files.IsLocation r) (present : (files.get? r).isSome) {name : String}
    {contents : ByteArray} : (name, contents) ∈ treeFiles files r ↔ treeMap files r name = some contents := by
  have file : treeMap files r name = some contents ↔ files.get? (r ++ components name) = some (.file contents) := by
    unfold treeMap
    split
    · rename_i bytes here
      simp [here]
    · rename_i other
      simpa using other contents
  rw [mem_treeFiles location present, file]
  constructor
  · rintro ⟨q, nonempty, rfl, here⟩
    rwa [components_asPosix (proper_below here) nonempty]
  · intro here
    refine ⟨components name, ?_, asPosix_components name, here⟩
    simp [components, List.splitOn_ne_nil]

/-- The files that are digested make up the map, and no more. -/
theorem treeFiles_eq_iff (location : files.IsLocation r) (present : (files.get? r).isSome)
    (location' : files'.IsLocation r') (present' : (files'.get? r').isSome) :
    treeFiles files r = treeFiles files' r' ↔ treeMap files r = treeMap files' r' := by
  constructor
  · intro same
    refine funext fun name => Option.ext fun contents => ?_
    rw [← mem_treeFiles_iff location present, ← mem_treeFiles_iff location' present', same]
  · intro same
    refine List.Pairwise.eq_of_mem_iff (treeFiles_sorted location present) (treeFiles_sorted location' present') ?_
    rintro ⟨name, contents⟩
    rw [mem_treeFiles_iff location present, mem_treeFiles_iff location' present', same]

theorem PlainTree.location (plain : PlainTree files path r) : files.IsLocation r :=
  FileSystem.location_resolve (FileSystem.resolve_of_stat plain.found)

theorem PlainTree.present (plain : PlainTree files path r) : (files.get? r).isSome := by
  rw [plain.directory]
  rfl

theorem PlainTree.rglob_eq (plain : PlainTree files path r) : files.rglob path = files.rglob r := by
  rw [FileSystem.rglob, FileSystem.rglob, plain.found, FileSystem.stat_location plain.location plain.present]

theorem PlainTree.feeds (plain : PlainTree files path r) :
    ∃ bytes, treeBytes (treeFiles files r) = .ok bytes ∧ Feeds files path ⟨bytes.toArray⟩ := by
  obtain ⟨bytes, encoded⟩ := treeBytes_total.mpr fun entry listed =>
    plain.lengths _ _ ((mem_treeFiles_iff plain.location plain.present).mp (show (entry.1, entry.2) ∈ _ from listed))
  have noLink : ∀ entries : List (Path × Node), entries.Perm (files.rglob path) →
      (entries.any fun entry => entry.2.isLink) = false := by
    intro entries listing
    refine List.any_eq_false.mpr ?_
    rintro ⟨q, node⟩ listed
    rw [listing.mem_iff, plain.rglob_eq, FileSystem.mem_rglob plain.location plain.present] at listed
    cases node with
    | link target => exact absurd listed.2 (plain.noLinks q target)
    | _ => simp [Node.isLink]
  refine ⟨bytes, encoded, fun sha256 => ?_⟩
  have any : ∀ entries : List (Path × Node), entries.Perm (files.rglob path) →
      sha256Listed sha256 path entries = .ok (sha256 ⟨bytes.toArray⟩) := by
    intro entries listing
    rw [sha256Listed, noLink entries listing,
      listedFiles_eq plain.location plain.present (plain.rglob_eq ▸ listing), encoded]
    rfl
  have node : files.node? path = some .dir := FileSystem.node?_eq_some.mpr ⟨r, plain.found, plain.directory⟩
  have whole : sha256Path sha256 files path = sha256Listed sha256 path (files.rglob path) := by
    simp only [sha256Path, plain.notLink, node, Bool.false_eq_true, if_false]
    rfl
  exact ⟨whole.trans (any _ (.refl _)), any⟩

/-- The digested bytes tell the tree's map, and the map tells them. -/
theorem tree_digest_exact (plain : PlainTree files path r) (plain' : PlainTree files' path' r') :
    ∃ bytes bytes', Feeds files path bytes ∧ Feeds files' path' bytes' ∧
      (bytes = bytes' ↔ treeMap files r = treeMap files' r') ∧
      ∀ sha256, Function.Injective sha256 →
        (sha256Path sha256 files path = sha256Path sha256 files' path' ↔ treeMap files r = treeMap files' r') := by
  obtain ⟨bytes, encoded, feeds⟩ := plain.feeds
  obtain ⟨bytes', encoded', feeds'⟩ := plain'.feeds
  have exact : (⟨bytes.toArray⟩ : ByteArray) = ⟨bytes'.toArray⟩ ↔ treeMap files r = treeMap files' r' := by
    rw [← treeFiles_eq_iff plain.location plain.present plain'.location plain'.present]
    constructor
    · intro same
      obtain rfl : bytes = bytes' := by simpa using congrArg ByteArray.data same
      exact treeBytes_injective encoded encoded'
    · intro same
      rw [same, encoded'] at encoded
      rw [Except.ok.inj encoded]
  refine ⟨_, _, feeds, feeds', exact, fun sha256 injective => ?_⟩
  rw [(feeds sha256).1, (feeds' sha256).1, Except.ok.injEq, injective.eq_iff, exact]

end Maps

/-! ### Two trees of the small package -/

theorem plainTree_of_listed {files : FileSystem} {r : Path} (location : files.IsLocation r) (directory : files.get? r = some .dir)
    (noLinks : ∀ q target, files.get? (r ++ q) ≠ some (.link target))
    (lengths : ∀ entry ∈ treeFiles files r, entry.1.toUTF8.size < 18446744073709551616 ∧ entry.2.size < 18446744073709551616) :
    PlainTree files r r where
  notLink := FileSystem.isSymlink_location location
  found := FileSystem.stat_location location (by rw [directory]; rfl)
  directory := directory
  noLinks := noLinks
  lengths name contents found :=
    lengths (name, contents) ((mem_treeFiles_iff location (by rw [directory]; rfl)).mpr found)

theorem noLinks_of_entries {nodes : Dict Path Node} {formed : FileSystem.wellFormed nodes = true}
    (plain : (nodes.entries.all fun e => !e.2.isLink) = true) (q : Path) (target : String) :
    (FileSystem.ofNodes nodes formed).get? q ≠ some (.link target) := by
  intro linked
  have checked := List.all_eq_true.mp plain (q, .link target) (Dict.mem_entries_iff.mpr linked)
  simp [Node.isLink] at checked

theorem small_tools : PlainTree (plainFiles "facts.md") ["pkg", "mcp"] ["pkg", "mcp"] :=
  plainTree_of_listed (FileSystem.location_resolve (p := ["pkg", "mcp"]) rfl) rfl (fun q => noLinks_of_entries rfl _)
    (by decide +kernel)

theorem small_documents : PlainTree (plainFiles "facts.md") ["pkg", "knowledge"] ["pkg", "knowledge"] :=
  plainTree_of_listed (FileSystem.location_resolve (p := ["pkg", "knowledge"]) rfl) rfl (fun q => noLinks_of_entries rfl _)
    (by decide +kernel)

theorem tree_digest_exact_small :
    ∃ bytes bytes', Feeds (plainFiles "facts.md") ["pkg", "mcp"] bytes ∧
      Feeds (plainFiles "facts.md") ["pkg", "knowledge"] bytes' ∧
      (bytes = bytes' ↔ treeMap (plainFiles "facts.md") ["pkg", "mcp"] = treeMap (plainFiles "facts.md") ["pkg", "knowledge"]) ∧
      ∀ sha256, Function.Injective sha256 →
        (sha256Path sha256 (plainFiles "facts.md") ["pkg", "mcp"] = sha256Path sha256 (plainFiles "facts.md") ["pkg", "knowledge"] ↔
          treeMap (plainFiles "facts.md") ["pkg", "mcp"] = treeMap (plainFiles "facts.md") ["pkg", "knowledge"]) :=
  tree_digest_exact small_tools small_documents

end AgentGym.Core
