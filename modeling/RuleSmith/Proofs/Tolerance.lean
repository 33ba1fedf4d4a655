import RuleSmith.Proofs.Effect
import RuleSmith.Proofs.Language.Toolchain
import RuleSmith.Proofs.RoundTrip

namespace RuleSmith
open Files Text FileTree

variable {σ ρ : Type} [Storable ρ]

namespace Generator
open Job Store

/-! ## Sessions in one world -/

theorem recoverRecord_congr_world (generator : Generator σ ρ) (compiled : Compiled ρ)
    (condition : String) {session other : Session σ} (same : session.world = other.world) :
    let run := (generator.recoverRecord compiled condition).start
    (run session).1 = (run other).1 ∧ (run session).2.world = (run other).2.world := by
  dsimp only
  rw [start_recoverRecord, start_recoverRecord, same]
  cases generator.rulesOf other.world.files compiled with
  | error failure => exact ⟨rfl, same⟩
  | ok rules =>
    have later (path : String) : (generator.afterScan rules path session).world =
        (generator.afterScan rules path other).world := by
      rw [afterScan, afterScan, same]
      rfl
    simp only
    split
    · exact ⟨rfl, later _⟩
    · split
      · exact ⟨rfl, later _⟩
      · exact ⟨rfl, later _⟩

theorem recoverSource_congr_world (generator : Generator σ ρ) (compiled : Compiled ρ)
    (condition : String) {session other : Session σ} (same : session.world = other.world) :
    let run := (generator.recoverSource compiled condition).start
    (run session).1 = (run other).1 ∧ (run session).2.world = (run other).2.world := by
  obtain ⟨value, world⟩ := recoverRecord_congr_world generator compiled condition same
  dsimp only at value world ⊢
  rw [start_recoverSource, start_recoverSource]
  rcases first : (generator.recoverRecord compiled condition).start session with ⟨result, later⟩
  rcases second : (generator.recoverRecord compiled condition).start other with ⟨result', later'⟩
  rw [first, second] at value world
  cases value
  cases result <;> exact ⟨rfl, world⟩

/-! ## Two runs -/

variable {generator : Generator σ ρ} {toolchain : Language.Toolchain ρ} {settings : Settings}
  {request : Request} {rule : RenderedRule} {session other : Session σ} {path out : String}
  {between : FileTree} {rules : ρ} {failure : Failure}

theorem produce_congr_world {strict strict' : Bool} (same : session.world = other.world)
    (replies : ∀ path between,
      generator.store.saveSource rule.name (utf8 rule.source) session.world.files = (.ok path, between) →
        generator.engine.compile rule.source (generator.optionsWith strict)
            (session.withFiles between).world =
          generator.engine.compile rule.source (generator.optionsWith strict')
            (session.withFiles between).world) :
    let run strict := (generator.produce request rule strict).start
    (run strict session).1 = (run strict' other).1 ∧
      (run strict session).2.world = (run strict' other).2.world := by
  obtain ⟨world, history⟩ := session
  obtain ⟨world', history'⟩ := other
  obtain rfl : world = world' := same
  dsimp only
  rw [start_produce, start_produce]
  rcases saved : generator.store.saveSource rule.name (utf8 rule.source) world.files
    with ⟨failure | path, between⟩
  · exact ⟨rfl, rfl⟩
  -- From here on the runs are one computation, in worlds that are equal.
  have reply := replies path between saved
  simp only [Session.withFiles, afterCompile, Session.enter] at reply ⊢
  rw [reply]
  cases (generator.engine.compile rule.source (generator.optionsWith strict')
    { world with files := between }).value with
  | error failure => exact ⟨rfl, rfl⟩
  | ok rules =>
    simp only
    split
    · exact ⟨rfl, rfl⟩
    · exact recoverSource_congr_world _ _ _ rfl

theorem produce_tolerant (same : session.world = other.world)
    (produced : (((ofSettings settings toolchain.engine).produce request rule true).start session).1 =
      .ok out) :
    let run strict := ((ofSettings settings toolchain.engine).produce request rule strict).start
    (run false other).1 = .ok out ∧ (run false other).2.world = (run true session).2.world := by
  refine (produce_congr_world same fun path between saved => ?_).imp
    (fun value => value.symm.trans produced) Eq.symm
  cases accepted : (toolchain.engine.compile rule.source
    ((ofSettings settings (toolchain.engine : Engine σ ρ)).optionsWith true)
    (session.withFiles between).world).value with
  | error failure =>
    have stopped : ((ofSettings settings toolchain.engine).produce request rule true).start session =
        (.error _, _) := produce_refused session saved accepted
    rw [stopped] at produced
    cases produced
  | ok rules => exact (Language.Toolchain.compile_lenient accepted).symm

theorem produce_refused_strictly (request : Request)
    (session : Session σ)
    (saved : settings.store.saveSource rule.name (utf8 rule.source) session.world.files =
      (.ok path, between))
    (accepted : (toolchain.engine.compile rule.source { settings.options with errorOnWarning := false }
      { session.world with files := between }).value = .ok rules)
    (refused : (toolchain.engine.compile rule.source { settings.options with errorOnWarning := true }
      { session.world with files := between }).value = .error failure) :
    ∃ warnings last, warnings ≠ [] ∧ last.world.files = between ∧
      ((ofSettings settings toolchain.engine).produce request rule true).start session =
        (.error (.compile ⟨"\n".intercalate warnings, rule.name, rule.source, some request⟩), last) := by
  obtain ⟨warnings, some, -, rfl⟩ := Language.Toolchain.refused_strictly accepted refused
  have keeps : (ofSettings settings (toolchain.engine : Engine σ ρ)).engine.KeepsFiles :=
    toolchain.keepsFiles_engine
  have stopped : ((ofSettings settings toolchain.engine).produce request rule true).start session =
      (.error _, _) := produce_refused session saved refused
  refine ⟨warnings, _, some, ?_, stopped⟩
  exact keeps_afterCompile keeps _ _ _

theorem generateWith_refused_strictly (settings : Settings)
    (named : Identifier.isBlankName request.rendered.name = false)
    (saved : settings.store.saveSource request.rendered.name (utf8 request.rendered.source)
      session.world.files = (.ok path, between))
    (accepted : (toolchain.engine.compile request.rendered.source
      { settings.options with errorOnWarning := false }
      { session.world with files := between }).value = .ok rules)
    (refused : (toolchain.engine.compile request.rendered.source
      { settings.options with errorOnWarning := true }
      { session.world with files := between }).value = .error failure) :
    ∃ warnings last, warnings ≠ [] ∧ last.world.files = between ∧
      ((ofSettings settings toolchain.engine).generateWith request true).start session =
        (.error (.compile ⟨"\n".intercalate warnings, request.rendered.name, request.rendered.source,
          some request⟩), last) := by
  obtain ⟨before, after, run⟩ :=
    start_generateWith_of_named (ofSettings settings toolchain.engine) named true session
  obtain ⟨warnings, last, some, files, stopped⟩ := produce_refused_strictly request
    (session.logging before) saved accepted refused
  exact ⟨warnings, last.logging after, some, files, by rw [run, stopped]⟩

namespace Sample

def careless : Request := { Sample.plain with condition := "true" }

def constant : CompiledRule := { Sample.compiled with patterns := [], condition := .constant true }

def beside (store : Store) : Session Unit :=
  Sample.emptySession.withFiles
    (store.saveCompiled "a_b" (RuleSet.mk [Sample.compiled]) Sample.emptySession.world.files).2

end Sample

theorem rendered_careless :
    Sample.careless.rendered = ⟨"a_b", "rule a_b: mal\n\x7b\n    meta:\n        author = \"me\"\n\n" ++
      "    condition:\n        true\n\x7d"⟩ := by
  decide +kernel

theorem compile_careless :
    Language.compile Sample.careless.rendered.source ⟨false, false, none, []⟩ =
      .ok (⟨[Sample.constant]⟩, [.knownCondition "a_b" true ⟨"true\n\x7d".toList, "\n\x7d".toList⟩]) := by
  rw [rendered_careless]
  cbv

theorem value_careless (world : World σ) :
    let compile errorOnWarning := (Language.engine.compile Sample.careless.rendered.source
      { errorOnWarning } world).value
    compile false = .ok ⟨[Sample.constant]⟩ ∧ ∃ message,
      compile true = .error (Language.refusal message Sample.careless.rendered.source) := by
  have builds (errorOnWarning : Bool) :=
    @Language.build_language _ { errorOnWarning } _ _ rfl compile_careless
  simp only [Language.engine, Language.Toolchain.engine, Language.Toolchain.engineCompile, builds]
  exact ⟨rfl, _, rfl⟩

theorem saved_careless : ∀ store ∈ [({} : Store), { sourceExtension := ".bin" }],
    (Sample.beside store).world.files.read (store.compiledPath "a_b") =
      .ok (RuleSet.mk [Sample.compiled]).toBytes ∧
    ∃ between, store.saveSource Sample.careless.rendered.name (utf8 Sample.careless.rendered.source)
      (Sample.beside store).world.files = (.ok (store.sourcePath "a_b"), between) := by
  have stored : ∀ store ∈ [({} : Store), { sourceExtension := ".bin" }],
      (store.saveCompiled "a_b" (RuleSet.mk [Sample.compiled]) Sample.emptySession.world.files).1 =
        .ok (store.compiledPath "a_b") ∧
      (store.saveSource Sample.careless.rendered.name (utf8 Sample.careless.rendered.source)
        (Sample.beside store).world.files).1 = .ok (store.sourcePath "a_b") := by
    decide +kernel
  intro store member
  obtain ⟨compiled, source⟩ := stored store member
  obtain ⟨content, written, found⟩ := read_of_saveCompiled (eq_of_fst compiled)
  cases written
  exact ⟨found, _, eq_of_fst source⟩

/-- Whatever a strict generation answers, a lenient one answers too, and leaves the same. If the source
is saved and then refused for its warnings alone, the strict failure tells of these, of the rule and of
the request. No file but the source is changed by then, so the compiled rules stay as they were unless
the settings give them the place of the source. -/
theorem generateWith_tolerant (toolchain : Language.Toolchain ρ) (settings : Settings)
    (request : Request) (session : Session σ) :
    let generator := Generator.ofSettings settings toolchain.engine
    let store := settings.store
    let rule := request.rendered
    let files := session.world.files
    let strict := (generator.generateWith request true).start session
    let lenient := (generator.generateWith request false).start session
    let compile between errorOnWarning := (generator.engine.compile rule.source
      { settings.options with errorOnWarning } { session.world with files := between }).value
    let left := strict.2.world.files
    (∀ out, strict.1 = .ok out → lenient.1 = .ok out ∧ lenient.2.world = strict.2.world) ∧
    ∀ path between rules failure, Identifier.isBlankName rule.name = false →
      store.saveSource rule.name (utf8 rule.source) files = (.ok path, between) →
      compile between false = .ok rules → compile between true = .error failure →
        (∃ warnings, warnings ≠ [] ∧ strict.1 = .error (.compile
          ⟨"\n".intercalate warnings, rule.name, rule.source, some request⟩)) ∧
        (∃ written, left.resolve (store.sourcePath rule.name) = .ok written ∧
          ChangesOnly (· = written) files left) ∧
        (∀ place, left.resolve (store.compiledPath rule.name) = .ok place →
          left.resolve (store.sourcePath rule.name) ≠ .ok place →
            left.content? place = files.content? place) ∧
        ('/' ∉ store.sourceExtension.toList → store.sourceExtension ≠ store.compiledExtension →
          KeepsCompiled store rule.name files left) := by
  intro generator store rule files strict lenient compile left
  refine ⟨fun out produced => ?_, fun path between rules failure named saved accepted refused => ?_⟩
  · cases named : Identifier.isBlankName rule.name with
    | true =>
      -- A blank name is refused with whatever word on warnings.
      simp only [strict, start_generateWith, start_render_of_blank named] at produced
      cases produced
    | false =>
      obtain ⟨before, after, run⟩ := start_generateWith_of_named generator named true session
      obtain ⟨before', after', run'⟩ := start_generateWith_of_named generator named false session
      simp only [strict, lenient, run, run', Session.world_logging] at produced ⊢
      -- What is logged around the productions does not count for what they answer and leave.
      exact produce_tolerant rfl produced
  · obtain ⟨warnings, last, some, files, run⟩ :=
      generateWith_refused_strictly settings named saved accepted refused
    -- Nothing is written after the refusal, so the files are those of the first save.
    have leaves : left = between := by
      simp only [left, strict, generator, run, files]
    obtain ⟨written, leads, changes⟩ := save_resolves saved
    rw [leaves]
    refine ⟨⟨warnings, some, by simp only [strict, generator, run, rule]⟩, ⟨written, leads, changes⟩,
      fun place _ apart => ?_, fun plain differ => ?_⟩
    · exact changes.content? fun same => apart (same ▸ leads)
    · have valid : isFileName rule.name = true := Identifier.isFileName_sanitize named
      exact keepsCompiled_of_differ plain differ valid saved (.refl _)

theorem generateWith_tolerant_sample :
    let generator : Generator Unit := ofSettings {} Language.Toolchain.language.engine
    let run request errorOnWarning := (generator.generateWith request errorOnWarning).start
    (∃ out, (run Sample.plain true Sample.emptySession).1 = .ok out ∧
      (run Sample.plain false Sample.emptySession).1 = .ok out) ∧
    (∃ warnings, warnings ≠ [] ∧ (run Sample.careless true (Sample.beside {})).1 =
      .error (.compile ⟨"\n".intercalate warnings, "a_b", Sample.careless.rendered.source,
        some Sample.careless⟩)) ∧
    KeepsCompiled {} "a_b" (Sample.beside {}).world.files
      (run Sample.careless true (Sample.beside {})).2.world.files := by
  dsimp only
  refine ⟨?_, ?_⟩
  · obtain ⟨out, last, generated⟩ := generateWith_plain true
    obtain ⟨tolerates, -⟩ :=
      generateWith_tolerant Language.Toolchain.language {} Sample.plain Sample.emptySession
    exact ⟨out, congrArg Prod.fst generated, (tolerates _ (congrArg Prod.fst generated)).1⟩
  · obtain ⟨-, refuses⟩ :=
      generateWith_tolerant Language.Toolchain.language {} Sample.careless (Sample.beside {})
    obtain ⟨-, between, saved⟩ := saved_careless {} List.mem_cons_self
    obtain ⟨accepted, message, refused⟩ :=
      value_careless { (Sample.beside {}).world with files := between }
    obtain ⟨told, -, -, kept⟩ :=
      refuses _ between _ _ (by decide +kernel) saved accepted refused
    rw [← show Sample.careless.rendered.name = "a_b" from congrArg RenderedRule.name rendered_careless]
    exact ⟨told, kept (by decide +kernel) (by decide +kernel)⟩

/-- Settings can give a source the place of the rules that were compiled before it. -/
theorem compiled_overwritten :
    let settings : Settings := { store := { sourceExtension := ".bin" } }
    let store := settings.store
    let generator : Generator Unit := ofSettings settings Language.Toolchain.language.engine
    let rule := Sample.careless.rendered
    let before := Sample.beside store
    let strict := (generator.generateWith Sample.careless true).start before
    let compile between errorOnWarning := (generator.engine.compile rule.source
      { settings.options with errorOnWarning } { before.world with files := between }).value
    let stored : RuleSet := ⟨[Sample.compiled]⟩
    (∃ path between failure,
      store.saveSource rule.name (utf8 rule.source) before.world.files = (.ok path, between) ∧
      compile between false = .ok ⟨[Sample.constant]⟩ ∧ compile between true = .error failure) ∧
    before.world.files.read (store.compiledPath "a_b") = .ok stored.toBytes ∧
    strict.2.world.files.read (store.compiledPath "a_b") ≠ .ok stored.toBytes := by
  intro settings store generator rule before strict compile stored
  obtain ⟨compiled, between, saved⟩ :=
    saved_careless store (List.mem_cons_of_mem _ List.mem_cons_self)
  obtain ⟨accepted, message, refused⟩ := value_careless { before.world with files := between }
  refine ⟨⟨_, between, _, saved, accepted, refused⟩, compiled, ?_⟩
  obtain ⟨warnings, last, -, files, run⟩ :=
    generateWith_refused_strictly settings (by decide +kernel) saved accepted refused
  have left : strict.2.world.files = between := by
    simp only [strict, generator, before, run, files]
  -- Both extensions are the same, and so are the paths.
  have read : between.read (store.compiledPath "a_b") = .ok (utf8 rule.source) := by
    have name : rule.name = "a_b" := congrArg RenderedRule.name rendered_careless
    exact name ▸ read_of_saveSource saved
  intro same
  rw [← left] at read
  have bytes := Except.ok.inj (read.symm.trans same)
  revert bytes
  decide +kernel

end Generator
end RuleSmith
