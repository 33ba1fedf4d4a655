import RuleSmith.Proofs.Effect

/-!
# Staying in the directory of all rules

A request comes with any text for a name. Two filters stand between it and the files: cleaning, and the
store's own check of names. They fit together: what is left of a name after cleaning is a file name
unless it is blank, and a blank name is refused before anything is touched.
-/

namespace RuleSmith
open Files Text FileTree

theorem Identifier.isBlankName_iff {name : String} :
    isBlankName name = true ↔ ∀ c ∈ name.toList, isBlank c = true := List.all_eq_true

variable {σ ρ : Type}

/-- Whether an engine itself words a failure, for a source to compile or a file to scan. -/
def Engine.Words (engine : Engine σ ρ) (source : String) (options : CompileOptions) (path : String)
    (failure : Failure) : Prop :=
  (∃ world, (engine.compile source options world).value = .error failure) ∨
    ∃ rules world, (engine.scan rules path world).reply.value = .error failure

def Failure.isOfRecovery : Failure → Bool
  | .storage .. | .compiledFormat .. | .noRecord .. | .severalRules .. | .incomplete .. => true
  | .invalid .. | .compile .. | .scan .. | .request .. | .engine .. => false

namespace Generator
open Job Store

variable {generator : Generator σ ρ} {request : Request} {rule : RenderedRule}
  {errorOnWarning : Bool} {session : Session σ} {world : World σ} {result : Except Failure String}
  {name : String} {after : FileTree}

theorem render_error_iff {failure : Failure} :
    ((render request : Job σ RenderedRule).start session).1 = .error failure ↔
      Identifier.isBlankName request.rule = true ∧ failure = .invalid (.blankRule request.rule) := by
  have same : Identifier.isBlankName request.rendered.name = Identifier.isBlankName request.rule :=
    Identifier.isBlankName_sanitize request.rule
  cases blank : Identifier.isBlankName request.rule with
  | true =>
    rw [start_render_of_blank (same.trans blank)]
    simp [eq_comm]
  | false =>
    rw [start_render_of_named (same.trans blank)]
    simp

theorem render_ok_iff :
    ((render request : Job σ RenderedRule).start session).1 = .ok rule ↔
      Identifier.isBlankName request.rendered.name = false ∧ rule = request.rendered := by
  cases blank : Identifier.isBlankName request.rendered.name with
  | true =>
    rw [start_render_of_blank blank]
    simp
  | false =>
    rw [start_render_of_named blank]
    simp [eq_comm]

theorem about_eq_invalid {failure : Failure} {problem : InputProblem}
    (same : failure.about name request = .invalid problem) : failure = .invalid problem := by
  cases failure <;> first | exact same | cases same

variable [Storable ρ]

theorem recoverRecord_error {compiled : Compiled ρ} {condition : String} {failure : Failure}
    (failed : ((generator.recoverRecord compiled condition).start session).1 = .error failure) :
    failure.isOfRecovery = true ∨ ∃ rules world,
      (generator.engine.scan rules (generator.store.sourcePath compiled.name) world).reply.value =
        .error failure := by
  obtain ⟨later, ran⟩ : ∃ later,
      (generator.recoverRecord compiled condition).start session = (.error failure, later) :=
    ⟨_, eq_of_fst failed⟩
  cases generator.recovers_of_start ran with
  | unloaded loaded =>
    left
    cases compiled with
    | inMemory rules name => cases loaded
    | stored name =>
      simp only [rulesOf, loadCompiled] at loaded
      split at loaded
      · cases loaded
        rfl
      · split at loaded <;> cases loaded
        rfl
  | unscanned loaded scanned => exact .inr ⟨_, _, scanned⟩
  | refused loaded scanned judged =>
    obtain ⟨-, rfl⟩ | ⟨record, missing, -, rfl⟩ | ⟨count, -, rfl⟩ := verdict_error judged
    · exact .inl rfl
    · exact .inl rfl
    · exact .inl rfl

theorem recoverSource_error {compiled : Compiled ρ} {condition : String} {failure : Failure}
    (failed : ((generator.recoverSource compiled condition).start session).1 = .error failure) :
    failure.isOfRecovery = true ∨ ∃ rules world,
      (generator.engine.scan rules (generator.store.sourcePath compiled.name) world).reply.value =
        .error failure := by
  rw [start_recoverSource] at failed
  split at failed <;> rename_i outcome
  · cases failed
  · cases failed
    apply recoverRecord_error
    rw [outcome]

theorem Course.not_fileName (course : generator.Course request rule errorOnWarning world result after)
    (valid : isFileName rule.name = true)
    (failed : result = .error (.invalid (.fileName name))) :
    generator.engine.Words rule.source (generator.optionsWith errorOnWarning)
      (generator.store.sourcePath rule.name) (.invalid (.fileName name)) := by
  cases course with
  | unsaved saved =>
    cases failed
    refine absurd (congrArg Prod.fst saved) (save_not_fileName valid _ ?_ _ _)
    intro other
    rw [checkSource_utf8]
    split <;> simp
  | refused saved compiled =>
    exact .inl ⟨_, compiled.trans (congrArg _ (about_eq_invalid (Except.error.inj failed)))⟩
  | unstored saved compiled stored =>
    cases failed
    refine absurd (congrArg Prod.fst stored) (save_not_fileName valid _ ?_ _ _)
    intro other
    unfold serialize
    split <;> simp
  | stored saved compiled stored files =>
    obtain own | scanned := recoverSource_error failed
    · cases own
    · exact .inr scanned

/-- What a request can do to the files, and what a save can. The name of a request is refused exactly
if it is blank. Otherwise what is left of it is a file name, so that no save of a call refuses it. A call
writes its two files directly into the directory of the store, and a save one. -/
theorem generateWith_confined (keeps : generator.engine.KeepsFiles)
    (plain : '/' ∉ generator.store.sourceExtension.toList)
    (plain' : '/' ∉ generator.store.compiledExtension.toList) (request : Request)
    (errorOnWarning : Bool) (session : Session σ) :
    let store := generator.store
    let rendering := ((render request : Job σ RenderedRule).start session).1
    let call := (generator.generateWith request errorOnWarning).start session
    ((∃ failure, rendering = .error failure) ↔ ∀ c ∈ request.rule.toList, isBlank c = true) ∧
    (∀ failure, rendering = .error failure → failure = .invalid (.blankRule request.rule) ∧
      call.2.world = session.world) ∧
    (∀ rule, rendering = .ok rule →
      rule.name = Identifier.sanitize request.rule ∧ isFileName rule.name = true ∧
      '/' ∉ rule.name.toList ∧ '\\' ∉ rule.name.toList ∧ '\x00' ∉ rule.name.toList ∧
      (∀ name, call.1 = .error (.invalid (.fileName name)) →
        generator.engine.Words rule.source { generator.options with errorOnWarning }
          (store.sourcePath rule.name) (.invalid (.fileName name))) ∧
      store.Confines (fileNames store rule.name) session.world.files call.2.world.files) ∧
    ∀ (name : String) (files : FileTree),
      (∀ content, store.Confines [name ++ store.sourceExtension] files
        (store.saveSource name content files).2) ∧
      (∀ rules : ρ, store.Confines [name ++ store.compiledExtension] files
        (store.saveCompiled name rules files).2) ∧
      ∀ content, store.Confines [name ++ store.compiledExtension] files
        (store.saveCompiledBytes name content ρ files).2 := by
  dsimp only
  refine ⟨?_, ?_, ?_, ?_⟩
  · rw [← Identifier.isBlankName_iff]
    simp only [render_error_iff]
    simp
  · intro failure refused
    obtain ⟨blank, rfl⟩ := render_error_iff.mp refused
    refine ⟨rfl, ?_⟩
    rw [start_generateWith,
      start_render_of_blank ((Identifier.isBlankName_sanitize request.rule).trans blank)]
    rfl
  · intro rule rendered
    obtain ⟨named, rfl⟩ := render_ok_iff.mp rendered
    have valid : isFileName request.rendered.name = true := Identifier.isFileName_sanitize named
    have course := course_generateWith keeps named errorOnWarning session
    refine ⟨rfl, valid, Identifier.not_mem_sanitize (by decide +kernel),
      Identifier.not_mem_sanitize (by decide +kernel), Identifier.not_mem_sanitize (by decide +kernel),
      fun name failed => course.not_fileName valid failed, ?_⟩
    refine ⟨_, List.Subset.refl _, ?_, course.changesOnly valid plain plain'⟩
    intro file member
    rcases List.mem_pair.mp member with rfl | rfl
    · exact namesFile_append valid plain
    · exact namesFile_append valid plain'
  · intro name files
    exact ⟨fun content => save_confined plain name _ files,
      fun rules => save_confined plain' name _ files, fun content => save_confined plain' name _ files⟩

def Sample.climbing : Request := { Sample.request with rule := "../etc/passwd" }

theorem generateWith_confined_sample :
    let call := (Sample.pickyGenerator.generateWith Sample.climbing true).start Sample.emptySession
    Sample.climbing.rendered.name = "___etc_passwd" ∧
    (∀ name, call.1 = .error (.invalid (.fileName name)) →
      Sample.pickyGenerator.engine.Words Sample.climbing.rendered.source
        { Sample.pickyGenerator.options with errorOnWarning := true } "rules/___etc_passwd.yar"
        (.invalid (.fileName name))) ∧
    Sample.pickyGenerator.store.Confines ["___etc_passwd.yar", "___etc_passwd.bin"]
      Sample.emptySession.world.files call.2.world.files := by
  have keeps : Sample.pickyGenerator.engine.KeepsFiles := Sample.pickyEngine_functional.keepsFiles
  have extensions : Sample.pickyGenerator.store.UsualExtensions := ⟨rfl, rfl⟩
  have cleaned : Sample.climbing.rendered.name = "___etc_passwd" := by decide +kernel
  have rendered : ((render Sample.climbing : Job Unit RenderedRule).start Sample.emptySession).1 =
      .ok Sample.climbing.rendered := render_ok_iff.mpr ⟨by decide +kernel, rfl⟩
  have path : Sample.pickyGenerator.store.sourcePath "___etc_passwd" = "rules/___etc_passwd.yar" := by
    decide +kernel
  have names : fileNames Sample.pickyGenerator.store "___etc_passwd" =
      ["___etc_passwd.yar", "___etc_passwd.bin"] := by decide +kernel
  obtain ⟨-, -, law, -⟩ := generateWith_confined keeps extensions.plain.1 extensions.plain.2
    Sample.climbing true Sample.emptySession
  obtain ⟨-, -, -, -, -, words, confined⟩ := law Sample.climbing.rendered rendered
  rw [cleaned] at words confined
  rw [path] at words
  rw [names] at confined
  exact ⟨cleaned, words, confined⟩

end Generator
end RuleSmith
