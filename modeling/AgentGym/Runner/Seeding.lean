import Mathlib.Algebra.Order.Ring.Int
import AgentGym.Runner.Consistent
import AgentGym.Scenarios.Seeds

/-!
# The seed in the manifest

A run that is given no seed takes the one in its task's id, from after the last dash. That
is the seed the task was made from, unless it was negative: its sign is taken for the dash.
-/

namespace AgentGym.Runner

open Scenarios (Family Generated Stamped taskId seedDigits)
open World (Random)

/-- What `isdigit` and `int` make of ASCII digits, when `int` takes texts up to some length. -/
structure ReadsDigits (limit : Nat) (digits : String → Except String (Option Int)) : Prop where
  /-- The limit cannot be set lower. -/
  threshold : 640 ≤ limit
  number : ∀ cs : List Char, cs ≠ [] → (∀ c ∈ cs, c.isDigit = true) → cs.length ≤ limit →
    digits (String.ofList cs) = .ok (some (Nat.ofDigitChars 10 cs 0))
  tooLong : ∀ cs : List Char, (∀ c ∈ cs, c.isDigit = true) → limit < cs.length → ∃ e, digits (String.ofList cs) = .error e

theorem idSuffix_ofList {before after : List Char} (fresh : '-' ∉ after) :
    idSuffix (String.ofList (before ++ '-' :: after)) = String.ofList after := by
  have kept : ∀ c ∈ after.reverse, (c != '-') = true := by
    intro c member
    rw [bne_iff_ne]
    rintro rfl
    exact fresh (List.mem_reverse.mp member)
  rw [idSuffix, String.toList_ofList, List.reverse_append, List.reverse_cons, List.append_assoc,
    List.takeWhile_append_of_pos kept, List.singleton_append, List.takeWhile_cons_of_neg (by simp), List.append_nil,
    List.reverse_reverse]

theorem idSuffix_taskId (family : Family) (seed : Int) : idSuffix (taskId family seed) = String.ofList (seedDigits seed) := by
  have texts : ∃ before, (taskId family seed).toList = before ++ '-' :: seedDigits seed := by
    rw [Scenarios.toList_taskId, Scenarios.toList_paddedSeed]
    split
    · exact ⟨family.id.toList ++ ['-'], by simp⟩
    · exact ⟨family.id.toList, rfl⟩
  obtain ⟨before, text⟩ := texts
  rw [← String.ofList_toList (s := taskId family seed), text]
  exact idSuffix_ofList (Scenarios.dash_notMem_seedDigits seed)

theorem length_seedDigits_le {limit : Nat} (threshold : 4 ≤ limit) (seed : Int) :
    (seedDigits seed).length ≤ limit ↔ seed.natAbs < 10 ^ limit := by
  rw [← Nat.length_toDigits_le_iff (by decide) (by omega), seedDigits, List.length_append, List.length_replicate]
  omega

section Seeds

variable {config : RunnerConfig} {site : Site} {limit : Nat} {family : Family} {seed : Int} {g : Generated}

theorem runSeed_stamped (unset : config.seed = none) (stamped : Stamped family seed g) :
    runSeed config site g.task = (site.digits (String.ofList (seedDigits seed))).map fun number => number.getD 0 := by
  rw [runSeed, unset]
  simp only [taskSeed, stamped.unseeded, stamped.id, idSuffix_taskId]

theorem runSeed_natAbs (unset : config.seed = none) (reads : ReadsDigits limit site.digits) (stamped : Stamped family seed g)
    (short : seed.natAbs < 10 ^ limit) : runSeed config site g.task = .ok seed.natAbs := by
  have threshold := reads.threshold
  have number := reads.number (seedDigits seed) (Scenarios.seedDigits_ne_nil seed) (Scenarios.seedDigits_isDigit seed)
    ((length_seedDigits_le (by omega) seed).mpr short)
  rw [runSeed_stamped unset stamped, number, Scenarios.ofDigitChars_seedDigits]
  rfl

/-- The recorded seed is the one the task was made from if that is not negative, and has no more digits than `int` takes. -/
theorem recorded_seed_iff [PyText] (rng fixtures : Random) (family : Family) (seed : Int) (unset : config.seed = none)
    (reads : ReadsDigits limit site.digits) :
    ∃ g, Scenarios.generate rng fixtures seed family = .ok g ∧ g.task.metadata.get? "seed" = none ∧
      (runSeed config site g.task = .ok seed ↔ 0 ≤ seed ∧ seed < 10 ^ limit) := by
  obtain ⟨g, generated, stamped⟩ := Scenarios.exists_stamped rng fixtures seed family
  refine ⟨g, generated, stamped.unseeded, ?_⟩
  have threshold := reads.threshold
  have cast : ((10 ^ limit : Nat) : Int) = 10 ^ limit := by push_cast; rfl
  by_cases short : seed.natAbs < 10 ^ limit
  · rw [runSeed_natAbs unset reads stamped short, Except.ok.injEq]
    omega
  · have long : limit < (seedDigits seed).length := by
      rw [← not_le, length_seedDigits_le (by omega) seed]
      exact short
    obtain ⟨e, failed⟩ := reads.tooLong _ (Scenarios.seedDigits_isDigit seed) long
    rw [runSeed_stamped unset stamped, failed]
    refine ⟨nofun, fun bounds => ?_⟩
    omega

end Seeds

/-! ### A seed and its negative -/

/-- `int(text) if text.isdigit()`, on ASCII text. -/
def asciiDigits (text : String) : Except String (Option Int) :=
  let cs := text.toList
  if cs = [] ∨ !cs.all Char.isDigit then .ok none
  else if 4300 < cs.length then .error "Exceeds the limit (4300 digits) for integer string conversion"
  else .ok (some (Nat.ofDigitChars 10 cs 0))

theorem asciiDigits_reads : ReadsDigits 4300 asciiDigits where
  threshold := by decide
  number cs nonempty digits short := by
    have all : cs.all Char.isDigit = true := List.all_eq_true.mpr digits
    simp only [asciiDigits, String.toList_ofList, all]
    rw [if_neg (by simp [nonempty]), if_neg (by omega)]
  tooLong cs digits long := by
    have all : cs.all Char.isDigit = true := List.all_eq_true.mpr digits
    have nonempty : cs ≠ [] := by
      rintro rfl
      simp at long
    refine ⟨"Exceeds the limit (4300 digits) for integer string conversion", ?_⟩
    simp only [asciiDigits, String.toList_ofList, all]
    rw [if_neg (by simp [nonempty]), if_pos long]

def digitSite : Site := { countedSite with digits := asciiDigits }

theorem recorded_seed_seven :
    ∃ g, @Scenarios.generate asciiText (fun _ => 0) (fun _ => 0) 7 .retrieval = .ok g ∧ g.task.metadata.get? "seed" = none ∧
      (runSeed { runtimeVersion := "0.1" } digitSite g.task = .ok 7 ↔ 0 ≤ (7 : Int) ∧ (7 : Int) < 10 ^ 4300) :=
  @recorded_seed_iff _ _ _ asciiText (fun _ => 0) (fun _ => 0) .retrieval 7 rfl asciiDigits_reads

/-- The task of a negative seed is recorded with the seed of another task. -/
theorem negative_seed_recorded :
    ∃ g, @Scenarios.generate asciiText (fun _ => 0) (fun _ => 0) (-7) .retrieval = .ok g ∧ g.task.id = "retrieval--007" ∧
      runSeed { runtimeVersion := "0.1" } digitSite g.task = .ok 7 ∧
      runSeed { runtimeVersion := "0.1" } digitSite g.task ≠ .ok (-7) := by
  obtain ⟨g, generated, stamped⟩ := @Scenarios.exists_stamped asciiText (fun _ => 0) (fun _ => 0) (-7) .retrieval
  have seed : runSeed { runtimeVersion := "0.1" } digitSite g.task = .ok 7 := by
    rw [runSeed_stamped rfl stamped]
    rfl
  refine ⟨g, generated, stamped.id, seed, ?_⟩
  rw [seed]
  decide

end AgentGym.Runner
