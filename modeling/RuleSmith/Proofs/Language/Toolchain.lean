import Mathlib.Tactic.SplitIfs
import RuleSmith.Language.Toolchain
import RuleSmith.Proofs.Session

namespace RuleSmith.Language.Toolchain
open Files

variable {σ ρ : Type} {toolchain : Toolchain ρ} {source path : String} {options : CompileOptions}
  {world : World σ} {rules : ρ} {failure : Failure} {bytes : List UInt8}
  {applying others : List Sighting}

theorem world_engineCompile (toolchain : Toolchain ρ) (source : String) (options : CompileOptions)
    (world : World σ) : (toolchain.engineCompile source options world).world = world := by
  unfold engineCompile
  split
  · rfl
  · split_ifs <;> rfl

theorem value_engineCompile (toolchain : Toolchain ρ) (source : String) (options : CompileOptions)
    (world other : World σ) : (toolchain.engineCompile source options world).value =
      (toolchain.engineCompile source options other).value := by
  unfold engineCompile
  split
  · rfl
  · split_ifs <;> rfl

theorem engineScan_of_read {told : List Sighting × List Sighting}
    (read : world.files.read path = .ok bytes) (reported : toolchain.scan rules bytes = .ok told) :
    toolchain.engine.scan rules path world =
      .ofRecords world [] (candidateRecords told.1 told.2) := by
  simp only [engine, engineScan, read, reported]

theorem functional_engine (toolchain : Toolchain ρ) : (toolchain.engine : Engine σ ρ).Functional where
  compile := toolchain.value_engineCompile
  scan rules path world other same := by
    simp only [engine, engineScan, same]
    cases other.files.read path with
    | error error => exact ⟨rfl, rfl⟩
    | ok bytes =>
      simp only
      cases toolchain.scan rules bytes with
      | error message => exact ⟨rfl, rfl⟩
      | ok reported => simp only [Scan.told_ofRecords, Scan.reply_ofRecords, and_self]
  files_compile source options world :=
    congrArg World.files (toolchain.world_engineCompile source options world)
  files_scan rules path world := by
    simp only [engine, engineScan]
    cases world.files.read path with
    | error error => rfl
    | ok bytes =>
      simp only
      cases toolchain.scan rules bytes with
      | error message => rfl
      | ok reported => simp only [Scan.reply_ofRecords]

theorem keepsFiles_engine (toolchain : Toolchain ρ) : (toolchain.engine : Engine σ ρ).KeepsFiles :=
  toolchain.functional_engine.keepsFiles

theorem build_of_value (accepted : (toolchain.engine.compile source options world).value = .ok rules) :
    ∃ warnings, toolchain.build source options = .ok (rules, warnings) := by
  simp only [engine, engineCompile] at accepted
  split at accepted
  · cases accepted
  · split_ifs at accepted <;> cases accepted <;> exact ⟨_, ‹_›⟩

theorem refusal_of_value
    (refused : (toolchain.engine.compile source options world).value = .error failure) :
    ∃ message, failure = refusal message source := by
  simp only [engine, engineCompile] at refused
  split at refused
  · cases refused
    exact ⟨_, rfl⟩
  · split_ifs at refused
    cases refused
    exact ⟨_, rfl⟩

theorem scan_not_compile (toolchain : Toolchain ρ) (rules : ρ) (path : String) (world : World σ)
    {report : CompileReport} :
    (toolchain.engine.scan rules path world).reply.value ≠ .error (.compile report) := by
  intro failed
  simp only [engine, engineScan] at failed
  split at failed
  · cases failed
  · split at failed
    · cases failed
    · rw [Scan.reply_ofRecords] at failed
      cases failed

theorem compile_of_build {warnings : List String}
    (builds : toolchain.build source options = .ok (rules, warnings)) :
    ∃ setup, toolchain.compile setup source = .ok (rules, warnings) := by
  unfold build at builds
  simp only at builds
  split at builds
  · cases builds
  · exact ⟨_, builds⟩

theorem build_congr (toolchain : Toolchain ρ) (source : String) (options : CompileOptions)
    (errorOnWarning : Bool) :
    toolchain.build source { options with errorOnWarning } = toolchain.build source options := rfl

theorem compile_lenient (accepted : (toolchain.engine.compile source
      { options with errorOnWarning := true } world).value = .ok rules) :
    toolchain.engine.compile source { options with errorOnWarning := false } world =
      toolchain.engine.compile source { options with errorOnWarning := true } world := by
  simp only [engine, engineCompile, build_congr] at accepted ⊢
  split at accepted
  · cases accepted
  · split_ifs at accepted with silent
    simp only [silent, if_true]

theorem refused_strictly (accepted : (toolchain.engine.compile source
      { options with errorOnWarning := false } world).value = .ok rules)
    (refused : (toolchain.engine.compile source
      { options with errorOnWarning := true } world).value = .error failure) :
    ∃ warnings, warnings ≠ [] ∧ toolchain.build source options = .ok (rules, warnings) ∧
      failure = refusal ("\n".intercalate warnings) source := by
  simp only [engine, engineCompile, build_congr] at accepted refused
  split at accepted
  · cases accepted
  · rename_i compiled warnings builds
    rw [builds] at refused
    simp only at refused
    split_ifs at refused with silent
    simp only [silent, Bool.false_eq_true, if_false] at accepted
    cases accepted
    cases refused
    exact ⟨warnings, by simpa using silent, builds, rfl⟩

end RuleSmith.Language.Toolchain
