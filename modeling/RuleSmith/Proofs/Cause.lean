import RuleSmith.Proofs.Containment
import RuleSmith.Proofs.Tolerance

namespace RuleSmith
open Files Text

variable {σ ρ : Type} [Storable ρ]

inductive Step
  | naming
  | saving
  | compiling
  | storing
  | recovering
deriving DecidableEq

namespace Step

def answer (request : Request) : Step → Failure → Failure
  | .compiling, .compile report =>
    .compile { report with rule := Identifier.sanitize request.rule, request := some request }
  | _, cause => cause

def report (request : Request) (failure : Failure) : Step → List Event
  | .naming => []
  | _ => Generator.failureReport request request.rendered failure

theorem answer_compiling (request : Request) (cause : Failure) :
    compiling.answer request cause = cause.about request.rendered.name request := by
  cases cause <;> rfl

theorem answer_of_ne {step : Step} (other : step ≠ .compiling) (request : Request)
    (cause : Failure) : step.answer request cause = cause := by
  cases step with
  | compiling => exact absurd rfl other
  | naming | saving | storing | recovering => rfl

theorem refusal_of_answer {step : Step} {request : Request} {cause : Failure}
    {report : CompileReport} (same : .compile report = step.answer request cause) :
    ∃ refused, cause = .compile refused := by
  by_cases compiling : step = .compiling
  · subst compiling
    cases cause <;> first | exact ⟨_, rfl⟩ | cases same
  · rw [answer_of_ne compiling] at same
    exact ⟨report, same.symm⟩

theorem report_of_ne {step : Step} (later : step ≠ .naming) (request : Request)
    (failure : Failure) :
    step.report request failure = Generator.failureReport request request.rendered failure := by
  cases step with
  | naming => exact absurd rfl later
  | saving | compiling | storing | recovering => rfl

end Step

namespace Generator
open Job Store

/-- Whether a generation comes to a step and this step fails, for a cause and in a session. -/
inductive FailsAt (generator : Generator σ ρ) (request : Request) (errorOnWarning : Bool)
    (session : Session σ) : Step → Failure → Session σ → Prop
  | naming {cause : Failure} {later : Session σ}
      (refused : (render request : Job σ RenderedRule).start session = (.error cause, later)) :
      FailsAt generator request errorOnWarning session .naming cause later
  | saving {rule : RenderedRule} {start : Session σ} {cause : Failure} {files : FileTree}
      (rendered : (render request).start session = (.ok rule, start))
      (refused : generator.store.saveSource rule.name (utf8 rule.source) start.world.files =
        (.error cause, files)) :
      FailsAt generator request errorOnWarning session .saving cause (start.withFiles files)
  | compiling {rule : RenderedRule} {start : Session σ} {path : String} {files : FileTree}
      {cause : Failure}
      (rendered : (render request).start session = (.ok rule, start))
      (saved : generator.store.saveSource rule.name (utf8 rule.source) start.world.files =
        (.ok path, files))
      (refused : (generator.engine.compile rule.source (generator.optionsWith errorOnWarning)
        (start.withFiles files).world).value = .error cause) :
      FailsAt generator request errorOnWarning session .compiling cause
        (generator.afterCompile rule.source (generator.optionsWith errorOnWarning)
          (start.withFiles files))
  | storing {rule : RenderedRule} {start : Session σ} {path : String} {files files' : FileTree}
      {rules : ρ} {cause : Failure}
      (rendered : (render request).start session = (.ok rule, start))
      (saved : generator.store.saveSource rule.name (utf8 rule.source) start.world.files =
        (.ok path, files))
      (compiled : (generator.engine.compile rule.source (generator.optionsWith errorOnWarning)
        (start.withFiles files).world).value = .ok rules)
      (refused : generator.store.saveCompiled rule.name rules
        (generator.afterCompile rule.source (generator.optionsWith errorOnWarning)
          (start.withFiles files)).world.files = (.error cause, files')) :
      FailsAt generator request errorOnWarning session .storing cause
        ((generator.afterCompile rule.source (generator.optionsWith errorOnWarning)
          (start.withFiles files)).withFiles files')
  | recovering {rule : RenderedRule} {rules : ρ} {before later : Session σ} {cause : Failure}
      (reaches : generator.Reaches request errorOnWarning session rule rules before)
      (refused : (generator.recoverSource (.stored rule.name) request.condition).start before =
        (.error cause, later)) :
      FailsAt generator request errorOnWarning session .recovering cause later

variable {generator : Generator σ ρ} {request : Request} {errorOnWarning : Bool}
  {session later last : Session σ} {rule : RenderedRule} {step : Step} {cause failure : Failure}

theorem FailsAt.start_generateWith
    (fails : generator.FailsAt request errorOnWarning session step cause later) :
    (generator.generateWith request errorOnWarning).start session =
      (.error (step.answer request cause),
        later.logging (step.report request (step.answer request cause))) := by
  rw [Generator.start_generateWith]
  cases fails with
  | naming refused =>
    rw [refused]
    exact congrArg _ (Session.logging_nil later).symm
  | saving rendered refused =>
    obtain rfl := rendered_of_start rendered
    simp only [rendered, start_produce, refused]
    rfl
  | compiling rendered saved refused =>
    obtain rfl := rendered_of_start rendered
    simp only [rendered, start_produce, saved, refused, Step.answer_compiling]
    rfl
  | storing rendered saved compiled refused =>
    obtain rfl := rendered_of_start rendered
    simp only [rendered, start_produce, saved, compiled, refused]
    rfl
  | recovering reaches refused =>
    cases reaches with
    | intro rendered saved compiled stored =>
      obtain rfl := rendered_of_start rendered
      simp only [rendered, start_produce, saved, compiled, stored, refused]
      rfl

theorem exists_failsAt
    (failed : ((generator.generateWith request errorOnWarning).start session).1 = .error failure) :
    ∃ step cause later, generator.FailsAt request errorOnWarning session step cause later := by
  rcases rendered : (render request : Job σ RenderedRule).start session with ⟨cause | rule, start⟩
  · exact ⟨_, _, _, .naming rendered⟩
  rcases saved : generator.store.saveSource rule.name (utf8 rule.source) start.world.files
    with ⟨cause | path, files⟩
  · exact ⟨_, _, _, .saving rendered saved⟩
  cases compiled : (generator.engine.compile rule.source (generator.optionsWith errorOnWarning)
    (start.withFiles files).world).value with
  | error cause => exact ⟨_, _, _, .compiling rendered saved compiled⟩
  | ok rules =>
    rcases stored : generator.store.saveCompiled rule.name rules
      (generator.afterCompile rule.source (generator.optionsWith errorOnWarning)
        (start.withFiles files)).world.files with ⟨cause | path', files'⟩
    · exact ⟨_, _, _, .storing rendered saved compiled stored⟩
    have reaches : generator.Reaches request errorOnWarning session rule rules _ :=
      .intro rendered saved compiled stored
    rcases recovered : (generator.recoverSource (.stored rule.name) request.condition).start
      ((generator.afterCompile rule.source (generator.optionsWith errorOnWarning)
        (start.withFiles files)).withFiles files') with ⟨cause | out, later⟩
    · exact ⟨_, _, _, .recovering reaches recovered⟩
    -- Nothing has failed, so the generation has not failed either.
    · have generated := generateWith_ok_iff.mpr ⟨rule, rules, _, later, reaches, recovered, rfl⟩
      rw [generated] at failed
      cases failed

theorem generateWith_error_iff :
    (generator.generateWith request errorOnWarning).start session = (.error failure, last) ↔
      ∃ step cause later, generator.FailsAt request errorOnWarning session step cause later ∧
        failure = step.answer request cause ∧ last = later.logging (step.report request failure) := by
  constructor
  · intro failed
    obtain ⟨step, cause, later, fails⟩ := exists_failsAt (congrArg Prod.fst failed)
    have run := fails.start_generateWith
    rw [failed] at run
    cases run
    exact ⟨step, cause, later, fails, rfl, rfl⟩
  · rintro ⟨step, cause, later, fails, rfl, rfl⟩
    exact fails.start_generateWith

/-! ## Refusals by a compiler -/

namespace FailsAt

variable {settings : Settings} {toolchain : Language.Toolchain ρ} {report : CompileReport}

theorem compile
    (fails : (ofSettings settings (toolchain.engine : Engine σ ρ)).FailsAt request errorOnWarning
      session step (.compile report) later) :
    step = .compiling := by
  cases fails with
  | compiling rendered saved refused => rfl
  | naming refused =>
    obtain ⟨-, same⟩ := render_error_iff.mp (congrArg Prod.fst refused)
    cases same
  | saving rendered refused =>
    obtain ⟨-, same⟩ | unacceptable | ⟨place, error, same⟩ :=
      save_failure (congrArg Prod.fst refused)
    · cases same
    · rw [checkSource_utf8] at unacceptable
      split at unacceptable <;> cases unacceptable
    · cases same
  | storing rendered saved compiled refused =>
    obtain ⟨-, same⟩ | unacceptable | ⟨place, error, same⟩ :=
      save_failure (congrArg Prod.fst refused)
    · cases same
    · rw [serialize] at unacceptable
      split at unacceptable <;> cases unacceptable
    · cases same
  | recovering reaches refused =>
    obtain own | ⟨rules, world, scanned⟩ := recoverSource_error (congrArg Prod.fst refused)
    · cases own
    · exact absurd scanned (toolchain.scan_not_compile rules _ world)

theorem stores
    (fails : (ofSettings settings (toolchain.engine : Engine σ ρ)).FailsAt request errorOnWarning
      session .compiling (.compile report) later) :
    ((render request : Job σ RenderedRule).start session).1 =
        .ok ⟨request.rendered.name, report.source⟩ ∧
      later.world.files.read (settings.store.sourcePath request.rendered.name) =
        .ok (utf8 report.source) := by
  cases fails with
  | compiling rendered saved refused =>
    obtain rfl := rendered_of_start rendered
    obtain ⟨message, worded⟩ := Language.Toolchain.refusal_of_value refused
    cases worded
    have keeps : (ofSettings settings (toolchain.engine : Engine σ ρ)).engine.KeepsFiles :=
      toolchain.keepsFiles_engine
    refine ⟨congrArg Prod.fst rendered, ?_⟩
    rw [keeps_afterCompile keeps, Session.files_withFiles]
    exact read_of_saveSource saved

end FailsAt

theorem failsAt_storing (keeps : generator.engine.KeepsFiles) {path message : String}
    {between : FileTree} {rules : ρ} (named : Identifier.isBlankName request.rendered.name = false)
    (saved : generator.store.saveSource request.rendered.name (utf8 request.rendered.source)
      session.world.files = (.ok path, between))
    (compiled : (generator.engine.compile request.rendered.source (generator.optionsWith errorOnWarning)
      { session.world with files := between }).value = .ok rules)
    (unwritable : Storable.toBytes rules = .error message) :
    ∃ later, generator.FailsAt request errorOnWarning session .storing
      (.compiledFormat (.unwritable message)) later := by
  have rendered := start_render_of_named named session
  refine ⟨_, .storing rendered saved compiled (?_ : _ = (_, between))⟩
  rw [keeps_afterCompile keeps, Session.files_withFiles]
  exact saveCompiled_unwritable saved unwritable

/-- A generation fails exactly when one of its steps fails, and for the cause of that step; only a
refusal by the compiler is told with the rule and the request in addition. Rules that cannot be written
fail it with the words of the writer. If a compiler and a scanner make the engine, whatever they are,
every refusal comes with the very source that was rendered and that is stored by then. -/
theorem generateWith_cause :
    (∀ (generator : Generator σ ρ) (request : Request) (errorOnWarning : Bool) (session : Session σ)
      (failure : Failure),
      ((generator.generateWith request errorOnWarning).start session).1 = .error failure ↔
        ∃ step cause later, generator.FailsAt request errorOnWarning session step cause later ∧
          failure = step.answer request cause) ∧
    (∀ (generator : Generator σ ρ) (request : Request) (errorOnWarning : Bool) (session : Session σ)
      (path : String) (between : FileTree) (rules : ρ) (message : String),
      generator.engine.KeepsFiles → Identifier.isBlankName request.rendered.name = false →
      generator.store.saveSource request.rendered.name (utf8 request.rendered.source)
        session.world.files = (.ok path, between) →
      (generator.engine.compile request.rendered.source { generator.options with errorOnWarning }
        { session.world with files := between }).value = .ok rules →
      Storable.toBytes rules = .error message →
        ((generator.generateWith request errorOnWarning).start session).1 =
          .error (.compiledFormat (.unwritable message))) ∧
    ∀ (toolchain : Language.Toolchain ρ) (settings : Settings) (request : Request)
      (errorOnWarning : Bool) (session : Session σ) (report : CompileReport),
      let generator := ofSettings settings toolchain.engine
      let run := (generator.generateWith request errorOnWarning).start session
      run.1 = .error (.compile report) →
        report.rule = Identifier.sanitize request.rule ∧ report.request = some request ∧
        ((render request : Job σ RenderedRule).start session).1 =
          .ok ⟨report.rule, report.source⟩ ∧
        run.2.world.files.read (settings.store.sourcePath report.rule) =
          .ok (utf8 report.source) := by
  refine ⟨?_, ?_, ?_⟩
  · intro generator request errorOnWarning session failure
    constructor
    · intro failed
      obtain ⟨step, cause, later, fails, same, -⟩ := generateWith_error_iff.mp (eq_of_fst failed)
      exact ⟨step, cause, later, fails, same⟩
    · rintro ⟨step, cause, later, fails, rfl⟩
      rw [fails.start_generateWith]
  · intro generator request errorOnWarning session path between rules message keeps named saved compiled
      unwritable
    obtain ⟨later, fails⟩ := failsAt_storing keeps named saved compiled unwritable
    rw [fails.start_generateWith]
    rfl
  · intro toolchain settings request errorOnWarning session report generator run failed
    obtain ⟨step, cause, later, fails, same, last⟩ := generateWith_error_iff.mp (eq_of_fst failed)
    -- Every step answers a refusal for a refusal only, so it is the compiler that refuses.
    obtain ⟨refused, rfl⟩ := Step.refusal_of_answer same
    obtain rfl := fails.compile
    cases same
    obtain ⟨rendered, read⟩ := fails.stores
    have files : run.2.world.files = _ := congrArg (fun session => session.world.files) last
    rw [files, Session.world_logging]
    exact ⟨rfl, rfl, rendered, read⟩

namespace Sample

def unwritable : Request := { Sample.request with condition := "?" }

theorem keeps_verbatim : verbatim.engine.KeepsFiles := ⟨fun _ _ _ => rfl, fun _ _ _ => rfl⟩

theorem saved_unwritable : (verbatim.store.saveSource unwritable.rendered.name
    (utf8 unwritable.rendered.source) emptySession.world.files).1 = .ok "rules/a_b.yar" := by
  decide +kernel

end Sample

theorem generateWith_cause_sample :
    let generator : Generator Unit := ofSettings {} Language.Toolchain.language.engine
    let run := (generator.generateWith Sample.careless true).start (Sample.beside {})
    (∃ report, run.1 = .error (.compile report) ∧ report.rule = "a_b" ∧
      report.request = some Sample.careless ∧
      ((render Sample.careless : Job Unit RenderedRule).start (Sample.beside {})).1 =
        .ok ⟨report.rule, report.source⟩ ∧
      run.2.world.files.read "rules/a_b.yar" = .ok (utf8 report.source) ∧
      ∃ step cause later, generator.FailsAt Sample.careless true (Sample.beside {}) step cause later ∧
        .compile report = step.answer Sample.careless cause) ∧
    ((Sample.verbatim.generateWith Sample.unwritable true).start Sample.emptySession).1 =
      .error (.compiledFormat (.unwritable "unsupported")) := by
  dsimp only
  obtain ⟨-, between, saved⟩ := saved_careless {} List.mem_cons_self
  obtain ⟨accepted, message, refused⟩ :=
    value_careless { (Sample.beside {}).world with files := between }
  obtain ⟨warnings, last, -, -, failed⟩ := generateWith_refused_strictly
    {} (by decide +kernel) saved accepted refused
  obtain ⟨causes, -, tells⟩ := generateWith_cause (σ := Unit) (ρ := RuleSet)
  obtain ⟨-, unwritten, -⟩ := generateWith_cause (σ := Unit) (ρ := RuleSmith.Sample.Verbatim)
  obtain ⟨-, request, rendered, read⟩ :=
    tells Language.Toolchain.language {} Sample.careless true _ _ (congrArg Prod.fst failed)
  have rule : Sample.careless.rendered.name = "a_b" := congrArg RenderedRule.name rendered_careless
  have path : ({} : Settings).store.sourcePath Sample.careless.rendered.name = "rules/a_b.yar" := by
    rw [rule]
    decide +kernel
  dsimp only at read
  rw [path] at read
  refine ⟨⟨_, congrArg Prod.fst failed, rule, request, rendered, ?_,
    (causes _ Sample.careless true _ _).mp (congrArg Prod.fst failed)⟩, ?_⟩
  · dsimp only
    exact read
  · exact unwritten Sample.verbatim Sample.unwritable true Sample.emptySession _ _ _ _
      Sample.keeps_verbatim (by decide +kernel) (eq_of_fst Sample.saved_unwritable) rfl
      (by decide +kernel)

end Generator
end RuleSmith
