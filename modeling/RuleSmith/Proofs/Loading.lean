import RuleSmith.CommandLine.Run
import RuleSmith.Proofs.Decision
import RuleSmith.Proofs.Files.Passage
import RuleSmith.Proofs.Language.Toolchain
import RuleSmith.Proofs.Store.Saving

/-!
# Where rules are loaded from

A save refuses a name that is no file name, a load does not. It goes from the directory of the store
wherever the steps of the name lead, and an absolute name leads it away from there at once. Only what is
loaded under a name without slashes stands in the directory itself. A recovery of stored rules loads
them so and has their source scanned so.
-/

namespace RuleSmith
open Files Text FileTree

variable {σ ρ : Type}

theorem Files.FileTree.content?_of_read {tree : FileTree} {text : String} {content : List UInt8}
    (found : tree.read text = .ok content) :
    tree.content? (walk (tree.start (Path.ofString text).absolute) (Path.ofString text).steps) =
      some content := by
  unfold read at found
  split at found
  · cases found
  rename_i location resolved
  split at found
  · cases found
  · cases found
  rename_i stands
  split at found <;> cases found
  rename_i ending
  -- A path to a file ends in a name, and is passed through as far as in front of it.
  have leads : location = walk (tree.start (Path.ofString text).absolute) (Path.ofString text).steps := by
    have named : (Path.ofString text).ending ≠ .inside := by simp [ending]
    obtain ⟨front, name, steps⟩ := Path.getLast_steps named
    unfold resolve at resolved
    split at resolved
    · cases resolved
    · simp only [follow, Path.passage, Path.last?, ending, reduceCtorEq, if_false, steps,
        List.dropLast_concat, List.getLast?_concat] at resolved
      split at resolved
      · cases resolved
      · rename_i here entered
        split at resolved <;> cases resolved
        rw [enter_eq_walk entered, steps, walk_append]
        rfl
  rw [← leads]
  exact content?_eq_some_iff.mpr stands

namespace Store

variable {store : Store} {files : FileTree} {name inside : String} {content : List UInt8}

def reach (store : Store) (files : FileTree) (inside : String) : Location :=
  let directory := Path.ofString store.directory
  let path := Path.ofString inside
  if path.absolute then walk [] path.steps
  else walk (walk (files.start directory.absolute) directory.steps) path.steps

/-- Whether a file with some content stands where a path inside the directory of a store leads; without
slashes the path is the name of a file in the directory. -/
structure Reached (store : Store) (files : FileTree) (inside : String) (content : List UInt8) :
    Prop where
  reach : files.content? (store.reach files inside) = some content
  plain : '/' ∉ inside.toList → ∃ home, files.leads store.directory = .ok home ∧
    files.content? (home ++ [inside]) = some content

theorem reached_of_read (found : files.read (join store.directory inside) = .ok content) :
    store.Reached files inside content where
  reach := by
    have place := content?_of_read found
    -- An absolute path is joined by leaving out the directory.
    by_cases relative : inside.toList.head? = some '/'
    · have absolute : (Path.ofString inside).absolute = true := decide_eq_true relative
      rw [join, if_pos relative, absolute] at place
      rw [Store.reach, if_pos absolute]
      exact place
    · have absolute : (Path.ofString inside).absolute = false := decide_eq_false relative
      obtain ⟨start, steps⟩ := Path.steps_join relative store.directory
      rw [start, steps, walk_append] at place
      rw [Store.reach, if_neg (Bool.eq_false_iff.mp absolute)]
      exact place
  plain slash := read_join_plain slash found

theorem reached_of_loadSource {text : String} (loads : store.loadSource name files = .ok text) :
    store.Reached files (name ++ store.sourceExtension) (utf8 text) := by
  obtain ⟨bytes, found, reads⟩ := loadSource_ok loads
  rw [ofUtf8?_eq_some reads] at found
  exact reached_of_read found

theorem reached_of_loadCompiled [Storable ρ] {rules : ρ}
    (loads : store.loadCompiled name ρ files = .ok rules) :
    ∃ content, Storable.ofBytes content = .ok rules ∧
      store.Reached files (name ++ store.compiledExtension) content := by
  obtain ⟨bytes, found, reads⟩ := loadCompiled_ok loads
  exact ⟨bytes, reads, reached_of_read found⟩

end Store

namespace Generator
open Job Store

variable [Storable ρ] {generator : Generator σ ρ} {toolchain : Language.Toolchain ρ} {name : String}
  {session : Session σ} {rules : ρ} {failure : Failure}

theorem asked_recover (loads : generator.store.loadCompiled name ρ session.world.files = .ok rules)
    (condition : String) :
    let asked := session.asked ++ [.scanned (generator.store.sourcePath name)]
    ((generator.recoverRecord (.stored name) condition).start session).2.asked = asked ∧
      ((generator.recoverSource (.stored name) condition).start session).2.asked = asked := by
  have loaded : generator.rulesOf session.world.files (.stored name) = .ok rules := loads
  obtain ⟨events, last⟩ := last_recoverRecord loaded condition
  obtain ⟨events', last'⟩ := last_recoverSource loaded condition
  rw [last, last']
  simp [Compiled.name]

theorem recover_unloaded
    (fails : generator.store.loadCompiled name ρ session.world.files = .error failure)
    (condition : String) :
    (generator.recoverRecord (.stored name) condition).start session =
        (.error failure, session.logging [.loadFailed name failure]) ∧
      (generator.recoverSource (.stored name) condition).start session =
        (.error failure, session.logging [.loadFailed name failure]) := by
  have unloaded : generator.rulesOf session.world.files (.stored name) = .error failure := fails
  rw [start_recoverSource, recoverRecord_of_unloaded unloaded]
  exact ⟨rfl, rfl⟩

theorem read_of_scans {compiled : Compiled ρ} {record : Record} {settings : Settings}
    (scans : (ofSettings settings toolchain.engine).Scans compiled session rules record) :
    ∃ content, session.world.files.read (settings.store.sourcePath compiled.name) = .ok content := by
  obtain ⟨applying, ended⟩ := scans.ended
  cases found : session.world.files.read (settings.store.sourcePath compiled.name) with
  | ok content => exact ⟨content, rfl⟩
  | error error =>
    simp only [ofSettings, Language.Toolchain.engine, Language.Toolchain.engineScan, found] at ended
    cases ended

theorem started_of_output {α : Type} {write : α → String} {job : Job Unit α} {files : FileTree}
    {text : String} (output : (CommandLine.runJob write job files).result = .output text) :
    ∃ value last, job.start ⟨⟨files, ()⟩, []⟩ = (.ok value, last) := by
  rcases started : job.start ⟨⟨files, ()⟩, []⟩ with ⟨failure | value, last⟩
  · simp only [CommandLine.runJob, started] at output
    cases output
  · exact ⟨value, last, rfl⟩

theorem scans_of_output {directory : Option String} {condition : String} {json : Bool}
    {files : FileTree} {text : String}
    (output : ((CommandLine.Command.recover name condition json).run toolchain.engine directory
      files).result = .output text) :
    ∃ rules record, (ofSettings (CommandLine.settingsFor directory) toolchain.engine).Scans
      (.stored name) ⟨⟨files, ()⟩, []⟩ rules record := by
  cases json with
  | true =>
    simp only [CommandLine.Command.run, if_true] at output
    obtain ⟨recovered, last, started⟩ := started_of_output output
    obtain ⟨rules, record, scans, -⟩ := recoverRecord_ok_iff.mp started
    exact ⟨rules, record, scans⟩
  | false =>
    simp only [CommandLine.Command.run, Bool.false_eq_true, if_false] at output
    obtain ⟨recovered, last, started⟩ := started_of_output output
    obtain ⟨rules, record, scans, -⟩ := recoverSource_ok_iff.mp started
    exact ⟨rules, record, scans⟩

/-- Whatever the name, what is loaded is the content of the file to which the name, as a path from the
directory of the store on, leads; and a recovery of stored rules has no other file scanned than the
one to which the name leads so. For a name without slashes that is a file in the directory. -/
theorem load_reached (generator : Generator σ ρ) (name : String) (session : Session σ) :
    let store := generator.store
    let files := session.world.files
    let start {α : Type} (job : Job σ α) := job.start session
    (∀ text, store.loadSource name files = .ok text →
      store.Reached files (name ++ store.sourceExtension) (utf8 text)) ∧
    (∀ rules, store.loadCompiled name ρ files = .ok rules → ∃ content,
      Storable.ofBytes content = .ok rules ∧
        store.Reached files (name ++ store.compiledExtension) content) ∧
    (∀ content, files.read (store.sourcePath name) = .ok content →
      store.Reached files (name ++ store.sourceExtension) content) ∧
    (∀ condition failure, store.loadCompiled name ρ files = .error failure →
      (start (generator.recoverRecord (.stored name) condition)).1 = .error failure ∧
      (start (generator.recoverSource (.stored name) condition)).1 = .error failure ∧
      (start (generator.recoverRecord (.stored name) condition)).2.asked = session.asked ∧
      (start (generator.recoverSource (.stored name) condition)).2.asked = session.asked) ∧
    (∀ condition rules, store.loadCompiled name ρ files = .ok rules →
      let asked := session.asked ++ [.scanned (store.sourcePath name)]
      (start (generator.recoverRecord (.stored name) condition)).2.asked = asked ∧
      (start (generator.recoverSource (.stored name) condition)).2.asked = asked) ∧
    ∀ (toolchain : Language.Toolchain ρ) directory condition json files text,
      ((CommandLine.Command.recover name condition json).run toolchain.engine directory files).result =
        .output text →
        let store := (CommandLine.settingsFor directory).store
        ∃ rules source, store.Reached files (name ++ store.compiledExtension) rules ∧
          store.Reached files (name ++ store.sourceExtension) source := by
  intro store files start
  refine ⟨fun text loads => reached_of_loadSource loads,
    fun rules loads => reached_of_loadCompiled loads, fun content found => reached_of_read found,
    fun condition failure fails => ?_, fun condition rules loads => asked_recover loads condition,
    fun toolchain directory condition json files text output => ?_⟩
  · obtain ⟨record, source⟩ := recover_unloaded fails condition
    simp only [start, record, source, Session.asked_logging, and_self]
  · obtain ⟨rules, record, scans⟩ := scans_of_output output
    obtain ⟨source, found⟩ := read_of_scans scans
    obtain ⟨content, -, reached⟩ := reached_of_loadCompiled scans.loaded
    exact ⟨content, source, reached, reached_of_read found⟩

namespace Sample

def hidden : String := "rule hidden\n\x7b\n    condition:\n        true\n\x7d"

def outside : FileTree :=
  let rules : RuleSet := ⟨[⟨"hidden", "default", [], [], [], .constant true⟩]⟩
  ((((FileTree.bare ["work"]).put ["work", "rules"] .directory).put ["work", "outside"] .directory).put
    ["work", "outside", "hidden.yar"] (.file (utf8 hidden))).put
      ["work", "outside", "hidden.bin"] (.file rules.toBytes)

end Sample

/-- A name that every save refuses leads a load out of the directory. -/
theorem load_escapes :
    let store : Store := {}
    let name := "../outside/hidden"
    let recover := CommandLine.Command.recover name "true" false
    isFileName name = false ∧
    (Sample.outside.leads store.directory = .ok ["work", "rules"] ∧
      ∀ file, Sample.outside.content? ["work", "rules", file] = none) ∧
    store.loadSource name Sample.outside = .ok Sample.hidden ∧
    (store.loadCompiled name RuleSet Sample.outside).toOption.isSome = true ∧
    (recover.run Language.engine none Sample.outside).result = .output (Sample.hidden ++ "\n") := by
  refine ⟨by decide +kernel, ⟨by decide +kernel, fun file => ?_⟩, by decide +kernel,
    by decide +kernel, by decide +kernel⟩
  have keys : Sample.outside.entries.keys = [["work", "rules"], ["work", "outside"],
      ["work", "outside", "hidden.yar"], ["work", "outside", "hidden.bin"]] := by
    decide +kernel
  have absent : Sample.outside.entries.get? ["work", "rules", file] = none := by
    refine InsertionMap.lookup_eq_none_iff.mpr ?_
    change ["work", "rules", file] ∉ Sample.outside.entries.keys
    rw [keys]
    simp
  rw [FileTree.content?, entryAt?, absent]
  rfl

end Generator
end RuleSmith
