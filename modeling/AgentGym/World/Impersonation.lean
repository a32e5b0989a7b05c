import AgentGym.World.Routes

/-!
# Whom a request acts as

An actor header is looked up among the users in order, and each user answers to the names
in the profile as well as to the id. So a request that gives an id acts as that user unless
somebody listed before answers to it.
-/

namespace AgentGym.World

/-- The names a profile adds to the user's id. -/
def profileNames (user : Json) : List String := (userAliases "" user).tail

theorem userAliases_eq (userId : String) (user : Json) : userAliases userId user = userId :: profileNames user := rfl

/-- The identity a user's own id and record make. -/
def ownIdentity (userId : String) (user : Json) : ActorIdentity := ⟨userId, userAliases userId user⟩

section Checks

variable [PyText]

/-- Every check of the actor is the one of the user. -/
structure ActsAs (store : ConfluenceStore) (userId : String) (user : Json) (actor : ActorIdentity) : Prop where
  identity : actor.userId = userId
  admin : isGlobalAdmin store actor = isGlobalAdmin store (ownIdentity userId user)
  pageOwner : ∀ page, isPageOwner page actor = isPageOwner page (ownIdentity userId user)
  spaceOwner : ∀ spaceId, isSpaceOwner store spaceId actor = isSpaceOwner store spaceId (ownIdentity userId user)
  access : ∀ page operation,
    canAccessPage store page actor operation = canAccessPage store page (ownIdentity userId user) operation
  create : ∀ spaceId, canCreatePage store spaceId actor = canCreatePage store spaceId (ownIdentity userId user)

/-- A request under the id acts as the user. -/
def Unimpersonated (store : ConfluenceStore) (userId : String) (user : Json) : Prop :=
  ∃ actor, resolveActor store (some userId) = .ok actor ∧ ActsAs store userId user actor

variable {store : ConfluenceStore} {users : Dict String Json} {userId : String} {user : Json}

theorem ActsAs.refl : ActsAs store userId user (ownIdentity userId user) :=
  ⟨rfl, rfl, fun _ => rfl, fun _ => rfl, fun _ _ => rfl, fun _ => rfl⟩

omit [PyText] in
theorem resolveActor_users (stored : store.users = .ofDict users) (nonempty : userId ≠ "") (unpadded : strip userId = userId) :
    resolveActor store (some userId) =
      match users.entries.find? fun e => (userAliases e.1 e.2).contains userId with
      | some e => .ok (ownIdentity e.1 e.2)
      | none => .error (.error 401 "unknown_actor" s!"unknown actor: {userId}") := by
  have entries : (Dict.ofEntries users.entries).entries = users.entries := by rw [Dict.ofEntries_entries]
  unfold resolveActor
  rw [Option.map_some, unpadded, stored]
  split
  · rename_i same
    cases same
  · rename_i same
    exact absurd (Option.some.inj same) nonempty
  · rename_i _ requested same
    obtain rfl := Option.some.inj same
    simp only [Json.ofDict, entries]
    rfl

omit [PyText] in
theorem find?_own {entries : List (String × Json)} (nodup : (entries.map Prod.fst).Nodup)
    (listed : (userId, user) ∈ entries) :
    (∃ e, entries.find? (fun e => (userAliases e.1 e.2).contains userId) = some e ∧ e.1 = userId) ↔
      ∀ e ∈ entries.takeWhile fun e => e.1 ≠ userId, userId ∉ profileNames e.2 := by
  induction entries with
  | nil => cases listed
  | cons e rest ih =>
    obtain ⟨fresh, nodup⟩ := List.nodup_cons.mp nodup
    by_cases own : e.1 = userId
    · simp [own, userAliases_eq]
    · have later : (userId, user) ∈ rest := by
        rcases List.mem_cons.mp listed with rfl | later
        · exact absurd rfl own
        · exact later
      rw [List.takeWhile_cons_of_pos (by simpa using own), List.forall_mem_cons, ← ih nodup later, List.find?_cons]
      by_cases answers : userId ∈ profileNames e.2
      · simp [userAliases_eq, answers, own]
      · simp [userAliases_eq, answers, Ne.symm own]

/-- A request under a user's id acts as the user just when nobody listed before has the id in the profile. -/
theorem unimpersonated_iff (stored : store.users = .ofDict users) (listed : users.get? userId = some user)
    (nonempty : userId ≠ "") (unpadded : strip userId = userId) :
    Unimpersonated store userId user ↔
      ∀ e ∈ users.entries.takeWhile fun e => e.1 ≠ userId, userId ∉ profileNames e.2 := by
  have member := Dict.mem_entries_iff.mpr listed
  rw [← find?_own users.nodup member, Unimpersonated, resolveActor_users stored nonempty unpadded]
  constructor
  · rintro ⟨actor, resolved, acts⟩
    cases found : users.entries.find? fun e => (userAliases e.1 e.2).contains userId with
    | none =>
      rw [found] at resolved
      cases resolved
    | some e =>
      rw [found] at resolved
      obtain rfl := Except.ok.inj resolved
      exact ⟨e, rfl, acts.identity⟩
  · rintro ⟨e, found, rfl⟩
    obtain rfl : e.2 = user := by
      have same := Dict.mem_entries_iff.mp (List.mem_of_find?_eq_some found)
      exact Option.some.inj (same.symm.trans listed)
    rw [found]
    exact ⟨_, rfl, .refl⟩

end Checks

/-! ### Two users -/

/-- An administrator named `bob` and a user of another id. -/
def twoUsers (userId : String) (apart : ["root", userId].Nodup) : Dict String Json where
  entries := [("root", .obj [("is_admin", .bool true), ("name", .str "bob")]), (userId, .obj [])]
  nodup := apart

theorem apart_ann : ["root", "ann"].Nodup := by decide

theorem apart_bob : ["root", "bob"].Nodup := by decide

def storeOf (users : Dict String Json) : ConfluenceStore := ConfluenceStore.ofCollections (.ofDict users) .null .null

theorem unimpersonated_ann : @Unimpersonated asciiText (storeOf (twoUsers "ann" apart_ann)) "ann" (.obj []) :=
  (@unimpersonated_iff asciiText (storeOf (twoUsers "ann" apart_ann)) (twoUsers "ann" apart_ann) "ann" (.obj []) rfl rfl
    (by decide) (by decide)).mpr (by decide)

/-- A name in the profile of an administrator makes a request of `bob` one of the administrator. -/
theorem named_like_bob :
    let store := storeOf (twoUsers "bob" apart_bob)
    resolveActor store (some "bob") = .ok ⟨"root", ["root", "bob"]⟩ ∧
    @isGlobalAdmin asciiText store ⟨"root", ["root", "bob"]⟩ = .ok true ∧
    @isGlobalAdmin asciiText store (ownIdentity "bob" (.obj [])) = .ok false ∧
    ¬ @Unimpersonated asciiText store "bob" (.obj []) := by
  intro store
  have resolved : resolveActor store (some "bob") = .ok ⟨"root", ["root", "bob"]⟩ := by
    have stored : store.users = .ofDict (twoUsers "bob" apart_bob) := rfl
    rw [resolveActor_users stored (by decide) (by decide)]
    rfl
  refine ⟨resolved, rfl, rfl, ?_⟩
  rintro ⟨actor, found, acts⟩
  rw [resolved] at found
  obtain rfl := Except.ok.inj found
  exact absurd (@ActsAs.identity asciiText _ _ _ _ acts) (by decide)

end AgentGym.World
