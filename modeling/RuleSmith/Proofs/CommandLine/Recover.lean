import RuleSmith.CommandLine.Run
import RuleSmith.Proofs.Rule.Json
import RuleSmith.Proofs.RoundTrip

namespace RuleSmith.CommandLine
open Files FileTree Text Generator

variable {ρ : Type} [Storable ρ] {engine : Engine Unit ρ} {name condition text : String}
  {directory : Option String} {files : FileTree} {failure : Failure}

theorem ofString_long {letters : List Char} (plain : '=' ∉ letters) (value : String) :
    Argument.ofString ("--" ++ String.ofList letters ++ "=" ++ value) =
      .long (String.ofList letters) (some value) := by
  have spelled : ("--" ++ String.ofList letters ++ "=" ++ value).toList =
      '-' :: '-' :: (letters ++ '=' :: value.toList) := by simp
  have passes : ∀ c ∈ letters, decide (c ≠ '=') = true :=
    fun c member => decide_eq_true fun same => plain (same ▸ member)
  have stops : (letters ++ '=' :: value.toList).dropWhile (· ≠ '=') = '=' :: value.toList := by
    rw [List.dropWhile_append_of_pos passes]
    rfl
  have taken : (letters ++ '=' :: value.toList).takeWhile (· ≠ '=') = letters := by
    rw [List.takeWhile_append_of_pos passes]
    exact List.append_nil _
  unfold Argument.ofString
  rw [spelled]
  split
  · rename_i ends
    simp at ends
  · rename_i rest _ same
    cases same
    rw [stops, taken]
    exact congrArg (fun value => Argument.long _ (some value)) String.ofList_toList
  · rename_i c rest other same
    cases same
    exact (other rfl).elim
  · rename_i other
    exact (other _ _ rfl).elim

theorem readArguments_long {options : List OptionSpec} {most : Nat} {argument letters : String}
    {value : Option String} {given given' : Given} (rest : List String)
    (long : Argument.ofString argument = .long letters value)
    (taken : takeArgument options (.long letters value) given = some (.next given')) :
    readArguments options most (argument :: rest) given = readArguments options most rest given' := by
  rw [readArguments, long]
  simp only [taken]

theorem readArguments_separator (options : List OptionSpec) (most : Nat) (rest : List String)
    (given : Given) :
    readArguments options most ("--" :: rest) given = (takePlain most given rest).map .given := by
  rw [readArguments]
  rfl

def recoverArguments (directory : Option String) (name condition : String) (json : Bool) :
    List String :=
  (directory.map ("--rules-dir=" ++ ·)).toList ++ "recover" ::
    ((if json then ["--json"] else []) ++ ["--condition=" ++ condition, "--", name])

theorem readCommand_recover (directory : Option String) (name condition : String) (json : Bool) :
    readCommand directory "recover"
      ((if json then ["--json"] else []) ++ ["--condition=" ++ condition, "--", name]) =
      some (.run directory (.recover name condition json)) := by
  have spelled : Argument.ofString ("--condition=" ++ condition) = .long "condition" (some condition) :=
    ofString_long (by decide : '=' ∉ "condition".toList) condition
  cases json with
  | false =>
    simp only [readCommand, commandOptions, List.nil_append, Bool.false_eq_true, if_false]
    rw [readArguments_long _ spelled rfl, readArguments_separator]
    rfl
  | true =>
    simp only [readCommand, commandOptions, List.cons_append, List.nil_append, if_true]
    rw [readArguments_long _ (by decide : Argument.ofString "--json" = .long "json" none) rfl,
      readArguments_long _ spelled rfl, readArguments_separator]
    rfl

theorem run_emptyDirectory (engine : Engine Unit ρ) (name condition : String) (json : Bool)
    (files : FileTree) :
    runWith engine (recoverArguments (some "") name condition json) files =
      ⟨.refused, [], files⟩ := by
  have spelled : Argument.ofString ("--rules-dir=" ++ "") = .long "rules-dir" (some "") := by decide
  have taken : takeArgument programOptions (.long "rules-dir" (some "")) default =
      some (.next ⟨[], [("rules-dir", "")], []⟩) := rfl
  have empty : hasEmptyDirectory ⟨[], [("rules-dir", "")], []⟩ = true := rfl
  rw [runWith, Invocation.ofArguments, recoverArguments]
  simp only [Option.map_some, Option.toList_some, List.cons_append, List.nil_append, readInvocation,
    spelled, taken, empty, if_true]

theorem run_recoverArguments (named : directory ≠ some "") (name condition : String) (json : Bool)
    (files : FileTree) :
    runWith engine (recoverArguments directory name condition json) files =
      (Command.recover name condition json).run engine directory files := by
  have command : Argument.ofString "recover" = .plain "recover" := by decide
  rw [runWith, Invocation.ofArguments, recoverArguments]
  cases directory with
  | none =>
    simp only [Option.map_none, Option.toList_none, List.nil_append, readInvocation, command]
    rw [readCommand_recover]
    rfl
  | some path =>
    have spelled : Argument.ofString ("--rules-dir=" ++ path) = .long "rules-dir" (some path) :=
      ofString_long (by decide : '=' ∉ "rules-dir".toList) path
    have taken : takeArgument programOptions (.long "rules-dir" (some path)) default =
        some (.next ⟨[], [("rules-dir", path)], []⟩) := rfl
    have nonempty : hasEmptyDirectory ⟨[], [("rules-dir", path)], []⟩ = false :=
      decide_eq_false named
    simp only [Option.map_some, Option.toList_some, List.cons_append, List.nil_append, readInvocation,
      spelled, taken, nonempty, command, Bool.false_eq_true, if_false]
    rw [readCommand_recover]
    rfl

theorem runJob_forms {α : Type} (write write' : α → String) (job : Job Unit α) (files : FileTree) :
    let call := runJob write job files
    let call' := runJob write' job files
    ((∃ text, call.result = .output text) ↔ ∃ text, call'.result = .output text) ∧
    (∀ text text', call.result = .output text → call'.result = .output text' →
      ∃ value, (job.start ⟨⟨files, ()⟩, []⟩).1 = .ok value ∧ text = write value ∧
        text' = write' value) ∧
    (∀ complaint, call.result = .complaint complaint ↔ call'.result = .complaint complaint) ∧
    call.events = call'.events ∧ call.files = call'.files := by
  simp only [runJob]
  rcases job.start ⟨⟨files, ()⟩, []⟩ with ⟨failure | value, later⟩
  · simp
  · simp

theorem parse_line_pretty (record : Record) :
    Record.reader.parse (utf8 (line record.json.pretty)) = .ok record := by
  have printed : line record.json.pretty = String.ofList (record.json (.pretty 0) ++ ['\n']) := by
    rw [String.ofList_append]
    rfl
  rw [printed, Json.utf8_ofList, Json.encode_append]
  exact (record.prints (.pretty 0)).parse_amid Json.blanks_nil (Json.blanks_line (.pretty 0))

theorem condition_of_recoverRecord {σ : Type} {generator : Generator σ ρ} {compiled : Compiled ρ}
    {session : Session σ} {record : Record}
    (recovered : ((generator.recoverRecord compiled condition).start session).1 = .ok record) :
    record.condition = condition := by
  obtain ⟨rules, scanned, -, -, rfl, -⟩ := recoverRecord_ok_iff.mp (eq_of_fst recovered)
  rfl

theorem run_recover (engine : Engine Unit ρ) (directory : Option String) (name condition : String)
    (json : Bool) (files : FileTree) :
    let generator := ofSettings (settingsFor directory) engine
    let write (record : Record) :=
      line (if json then record.json.pretty else record.toSource.render)
    (Command.recover name condition json).run engine directory files =
      runJob write (generator.recoverRecord (.stored name) condition) files := by
  dsimp only
  cases json with
  | true => rfl
  | false =>
    simp only [Command.run, Bool.false_eq_true, if_false, runJob]
    rw [start_recoverSource]
    rcases ((ofSettings (settingsFor directory) engine).recoverRecord (.stored name) condition).start
      ⟨⟨files, ()⟩, []⟩ with ⟨failure | record, later⟩ <;> rfl

/-- The arguments of a recovery run it, with any engine, unless its directory is an empty path. Whether
it is asked for as a source or as a record, it comes to the same: it logs the same, leaves the same
files, and fails in the same way or succeeds in both forms. Then the record that is read back from what
the one form writes has the condition that was asked for, and renders to the source that the other
writes. -/
theorem recover_forms (engine : Engine Unit ρ) (directory : Option String)
    (name condition : String) (files : FileTree) :
    let source := runWith engine (recoverArguments directory name condition false) files
    let record := runWith engine (recoverArguments directory name condition true) files
    (directory ≠ some "" →
      source = (Command.recover name condition false).run engine directory files ∧
      record = (Command.recover name condition true).run engine directory files) ∧
    ((∃ text, record.result = .output text) ↔ ∃ text, source.result = .output text) ∧
    (∀ printed text, record.result = .output printed → source.result = .output text →
      ∃ recovered, Record.reader.parse (utf8 printed) = .ok recovered ∧
        text = line recovered.toSource.render ∧ recovered.condition = condition) ∧
    (∀ complaint, record.result = .complaint complaint ↔ source.result = .complaint complaint) ∧
    record.events = source.events ∧ record.files = source.files := by
  by_cases empty : directory = some ""
  · subst empty
    simp [run_emptyDirectory]
  dsimp only
  rw [run_recoverArguments empty, run_recoverArguments empty]
  refine ⟨fun _ => ⟨rfl, rfl⟩, ?_⟩
  simp only [run_recover]
  obtain ⟨succeeds, writes, fails, logs, leaves⟩ := runJob_forms
    (fun record : Record => line record.json.pretty) (fun record => line record.toSource.render)
    ((ofSettings (settingsFor directory) engine).recoverRecord (.stored name) condition) files
  refine ⟨succeeds, ?_, fails, logs, leaves⟩
  intro printed text written written'
  obtain ⟨recovered, found, rfl, rfl⟩ := writes printed text written written'
  exact ⟨recovered, parse_line_pretty recovered, rfl, condition_of_recoverRecord found⟩

def Sample.kept : FileTree :=
  (((FileTree.bare ["work"]).put ["work", "rules"] .directory).put ["work", "rules", "a_b.bin"]
    (.file (RuleSet.mk [Generator.Sample.compiled]).toBytes)).put ["work", "rules", "a_b.yar"]
    (.file (utf8 "evil"))

theorem scans_kept : (ofSettings (settingsFor none) Language.engine).Scans (.stored "a_b")
    ⟨⟨Sample.kept, ()⟩, []⟩ ⟨[Generator.Sample.compiled]⟩
      ((Language.sight (utf8 "evil") Generator.Sample.compiled).record true) := by
  have source : Sample.kept.read ((settingsFor none).store.sourcePath "a_b") = .ok (utf8 "evil") := by
    decide +kernel
  have compiled : Sample.kept.read ((settingsFor none).store.compiledPath "a_b") =
      .ok (RuleSet.mk [Generator.Sample.compiled]).toBytes := by
    decide +kernel
  have scan : (Language.engine : Engine Unit).scan ⟨[Generator.Sample.compiled]⟩
      ((settingsFor none).store.sourcePath "a_b") ⟨Sample.kept, ()⟩ = .ofRecords ⟨Sample.kept, ()⟩ []
        [(Language.sight (utf8 "evil") Generator.Sample.compiled).record true] := by
    have reported : Language.Toolchain.language.scan ⟨[Generator.Sample.compiled]⟩ (utf8 "evil") =
        .ok (Language.sightings ⟨[Generator.Sample.compiled]⟩ (utf8 "evil")) := rfl
    rw [Language.engine, Language.Toolchain.engineScan_of_read source reported,
      Language.candidateRecords_single]
    rfl
  exact .of_record (Store.loadCompiled_of_read compiled (RuleSet.storable_ofBytes_toBytes _)) scan

theorem recover_forms_sample :
    let run json := (run (recoverArguments none "a_b" "$a" json) Sample.kept).result
    ∃ printed text, run true = .output printed ∧ run false = .output text ∧
      ∃ recovered, Record.reader.parse (utf8 printed) = .ok recovered ∧
        text = line recovered.toSource.render ∧ recovered.condition = "$a" := by
  have recovered : ((ofSettings (settingsFor none) Language.engine).recoverRecord (.stored "a_b")
      "$a").start ⟨⟨Sample.kept, ()⟩, []⟩ = (.ok _, _) :=
    recoverRecord_ok_iff.mpr ⟨_, _, scans_kept, by decide +kernel, rfl, rfl⟩
  have written (json : Bool) : ∃ text,
      (run (recoverArguments none "a_b" "$a" json) Sample.kept).result = .output text := by
    rw [run, run_recoverArguments (Option.some_ne_none "").symm, run_recover, runJob, recovered]
    exact ⟨_, rfl⟩
  obtain ⟨printed, json⟩ := written true
  obtain ⟨text, source⟩ := written false
  obtain ⟨-, -, same, -⟩ := recover_forms Language.engine none "a_b" "$a" Sample.kept
  exact ⟨printed, text, json, source, same printed text json source⟩

end RuleSmith.CommandLine
