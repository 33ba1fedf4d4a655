import RuleSmith.Proofs.Engine.Noting
import RuleSmith.Proofs.Generation
import RuleSmith.Proofs.Store.Saving

/-!
# What one generation does

A generation goes through four steps behind its rendering and ends at the first that fails: it saves
its source, compiles it, saves the compiled rules and recovers the rule. Where it ends tells what it
asked of the engine and what it left in the files, whatever stood there before.
-/

namespace RuleSmith
open Files Text FileTree

variable {σ ρ : Type} [Storable ρ]

namespace Generator
open Job Store

variable {generator : Generator σ ρ} {request : Request} {rule : RenderedRule}
  {errorOnWarning : Bool} {world : World σ} {path path' : String}
  {failure : Failure} {rules : ρ} {between after : FileTree}

/-! ## Where a production ends -/

theorem produce_unsaved (session : Session σ)
    (saved : generator.store.saveSource rule.name (utf8 rule.source) session.world.files =
      (.error failure, after)) :
    (generator.produce request rule errorOnWarning).start session =
      (.error failure, session.withFiles after) := by
  rw [start_produce, saved]

theorem produce_refused (session : Session σ)
    (saved : generator.store.saveSource rule.name (utf8 rule.source) session.world.files =
      (.ok path, between))
    (compiled : (generator.engine.compile rule.source (generator.optionsWith errorOnWarning)
      (session.withFiles between).world).value = .error failure) :
    (generator.produce request rule errorOnWarning).start session =
      (.error (failure.about rule.name request),
        generator.afterCompile rule.source (generator.optionsWith errorOnWarning)
          (session.withFiles between)) := by
  rw [start_produce, saved]
  simp only [compiled]

theorem produce_unstored (keeps : generator.engine.KeepsFiles) (session : Session σ)
    (saved : generator.store.saveSource rule.name (utf8 rule.source) session.world.files =
      (.ok path, between))
    (compiled : (generator.engine.compile rule.source (generator.optionsWith errorOnWarning)
      (session.withFiles between).world).value = .ok rules)
    (stored : generator.store.saveCompiled rule.name rules between = (.error failure, after)) :
    (generator.produce request rule errorOnWarning).start session =
      (.error failure, (generator.afterCompile rule.source (generator.optionsWith errorOnWarning)
        (session.withFiles between)).withFiles after) := by
  rw [start_produce, saved]
  simp only [compiled, keeps_afterCompile keeps, Session.files_withFiles, stored]

theorem produce_stored (keeps : generator.engine.KeepsFiles) (session : Session σ)
    (saved : generator.store.saveSource rule.name (utf8 rule.source) session.world.files =
      (.ok path, between))
    (compiled : (generator.engine.compile rule.source (generator.optionsWith errorOnWarning)
      (session.withFiles between).world).value = .ok rules)
    (stored : generator.store.saveCompiled rule.name rules between = (.ok path', after)) :
    (generator.produce request rule errorOnWarning).start session =
      (generator.recoverSource (.stored rule.name) request.condition).start
        ((generator.afterCompile rule.source (generator.optionsWith errorOnWarning)
          (session.withFiles between)).withFiles after) := by
  rw [start_produce, saved]
  simp only [compiled, keeps_afterCompile keeps, Session.files_withFiles, stored]

theorem asked_produce_stored (keeps : generator.engine.KeepsFiles) (session : Session σ)
    (saved : generator.store.saveSource rule.name (utf8 rule.source) session.world.files =
      (.ok path, between))
    (compiled : (generator.engine.compile rule.source (generator.optionsWith errorOnWarning)
      (session.withFiles between).world).value = .ok rules)
    (stored : generator.store.saveCompiled rule.name rules between = (.ok path', after)) :
    ((generator.produce request rule errorOnWarning).start session).2.asked = session.asked ++
      (.compiled rule.source (generator.optionsWith errorOnWarning) ::
        match generator.store.loadCompiled rule.name ρ after with
        | .ok _ => [.scanned (generator.store.sourcePath rule.name)]
        | .error _ => []) := by
  rw [produce_stored keeps session saved compiled stored, asked_recoverSource,
    Session.asked_withFiles, asked_afterCompile, Session.asked_withFiles, List.append_assoc]
  rfl

theorem files_produce_stored (keeps : generator.engine.KeepsFiles) (session : Session σ)
    (saved : generator.store.saveSource rule.name (utf8 rule.source) session.world.files =
      (.ok path, between))
    (compiled : (generator.engine.compile rule.source (generator.optionsWith errorOnWarning)
      (session.withFiles between).world).value = .ok rules)
    (stored : generator.store.saveCompiled rule.name rules between = (.ok path', after)) :
    ((generator.produce request rule errorOnWarning).start session).2.world.files = after := by
  rw [produce_stored keeps session saved compiled stored, keeps_recoverSource keeps,
    Session.files_withFiles]

theorem left_produce_stored (keeps : generator.engine.KeepsFiles) (session : Session σ)
    (saved : generator.store.saveSource rule.name (utf8 rule.source) session.world.files =
      (.ok path, between))
    (compiled : (generator.engine.compile rule.source (generator.optionsWith errorOnWarning)
      (session.withFiles between).world).value = .ok rules)
    (stored : generator.store.saveCompiled rule.name rules between = (.ok path', after)) :
    let last := ((generator.produce request rule errorOnWarning).start session).2
    ∃ content, Storable.toBytes rules = .ok content ∧
      last.world.files.read (generator.store.compiledPath rule.name) = .ok content ∧
      (∀ loaded : ρ, Storable.ofBytes content = .ok loaded → last.asked = session.asked ++
        [.compiled rule.source (generator.optionsWith errorOnWarning),
          .scanned (generator.store.sourcePath rule.name)]) ∧
      (∀ message, (Storable.ofBytes content : Except String ρ) = .error message →
        last.asked = session.asked ++
          [.compiled rule.source (generator.optionsWith errorOnWarning)]) := by
  obtain ⟨content, written, found⟩ := read_of_saveCompiled stored
  dsimp only
  rw [files_produce_stored keeps session saved compiled stored,
    asked_produce_stored keeps session saved compiled stored]
  refine ⟨content, written, found, fun loaded reads => ?_, fun message unread => ?_⟩
  · rw [loadCompiled_of_read found reads]
  · simp only [loadCompiled, found, unread]

inductive Course (generator : Generator σ ρ) (request : Request) (rule : RenderedRule)
    (errorOnWarning : Bool) (world : World σ) : Except Failure String → FileTree → Prop
  | unsaved {failure : Failure} {after : FileTree}
      (saved : generator.store.saveSource rule.name (utf8 rule.source) world.files =
        (.error failure, after)) :
      Course generator request rule errorOnWarning world (.error failure) after
  | refused {path : String} {failure : Failure} {after : FileTree}
      (saved : generator.store.saveSource rule.name (utf8 rule.source) world.files =
        (.ok path, after))
      (compiled : (generator.engine.compile rule.source (generator.optionsWith errorOnWarning)
        { world with files := after }).value = .error failure) :
      Course generator request rule errorOnWarning world
        (.error (failure.about rule.name request)) after
  | unstored {path : String} {failure : Failure} {rules : ρ} {between after : FileTree}
      (saved : generator.store.saveSource rule.name (utf8 rule.source) world.files =
        (.ok path, between))
      (compiled : (generator.engine.compile rule.source (generator.optionsWith errorOnWarning)
        { world with files := between }).value = .ok rules)
      (stored : generator.store.saveCompiled rule.name rules between = (.error failure, after)) :
      Course generator request rule errorOnWarning world (.error failure) after
  | stored {path path' : String} {rules : ρ} {between after : FileTree} {before : Session σ}
      (saved : generator.store.saveSource rule.name (utf8 rule.source) world.files =
        (.ok path, between))
      (compiled : (generator.engine.compile rule.source (generator.optionsWith errorOnWarning)
        { world with files := between }).value = .ok rules)
      (stored : generator.store.saveCompiled rule.name rules between = (.ok path', after))
      (files : before.world.files = after) :
      Course generator request rule errorOnWarning world
        ((generator.recoverSource (.stored rule.name) request.condition).start before).1 after

theorem course_produce (keeps : generator.engine.KeepsFiles) (request : Request)
    (rule : RenderedRule) (errorOnWarning : Bool) (session : Session σ) :
    generator.Course request rule errorOnWarning session.world
      ((generator.produce request rule errorOnWarning).start session).1
      ((generator.produce request rule errorOnWarning).start session).2.world.files := by
  rcases saved : generator.store.saveSource rule.name (utf8 rule.source) session.world.files
    with ⟨failure | path, between⟩
  · rw [produce_unsaved session saved]
    exact .unsaved saved
  cases compiled : (generator.engine.compile rule.source (generator.optionsWith errorOnWarning)
    (session.withFiles between).world).value with
  | error failure =>
    rw [produce_refused session saved compiled, keeps_afterCompile keeps]
    exact .refused saved compiled
  | ok rules =>
    rcases stored : generator.store.saveCompiled rule.name rules between
      with ⟨failure | path', after⟩
    · rw [produce_unstored keeps session saved compiled stored]
      exact .unstored saved compiled stored
    · rw [files_produce_stored keeps session saved compiled stored,
        produce_stored keeps session saved compiled stored]
      exact .stored saved compiled stored rfl

theorem course_generateWith (keeps : generator.engine.KeepsFiles) {request : Request}
    (named : Identifier.isBlankName request.rendered.name = false) (errorOnWarning : Bool)
    (session : Session σ) :
    generator.Course request request.rendered errorOnWarning session.world
      ((generator.generateWith request errorOnWarning).start session).1
      ((generator.generateWith request errorOnWarning).start session).2.world.files := by
  obtain ⟨before, after, same⟩ :=
    start_generateWith_of_named generator named errorOnWarning session
  rw [same]
  exact course_produce keeps request request.rendered errorOnWarning (session.logging before)

/-! ## The files -/

def fileNames (store : Store) (name : String) : List String :=
  [name ++ store.sourceExtension, name ++ store.compiledExtension]

theorem Course.changesOnly {result : Except Failure String}
    (course : generator.Course request rule errorOnWarning world result after)
    (valid : isFileName rule.name = true) (plain : '/' ∉ generator.store.sourceExtension.toList)
    (plain' : '/' ∉ generator.store.compiledExtension.toList) :
    ChangesOnly (generator.store.Holds after (fileNames generator.store rule.name)) world.files
      after := by
  have source {last : FileTree}
      (saved : (generator.store.saveSource rule.name (utf8 rule.source) world.files).2 = last) :
      ChangesOnly (generator.store.Holds last (fileNames generator.store rule.name)) world.files
        last :=
    (save_changesOnly (namesFile_append valid plain) saved).mono fun _ holds =>
      holds.mono (.refl _) (List.cons_subset_cons _ (List.nil_subset _))
  have both {rules : ρ} {between last : FileTree}
      (saved : (generator.store.saveSource rule.name (utf8 rule.source) world.files).2 = between)
      (stored : (generator.store.saveCompiled rule.name rules between).2 = last) :
      ChangesOnly (generator.store.Holds last (fileNames generator.store rule.name)) world.files
        last := by
    have changes := save_changesOnly (namesFile_append valid plain') stored
    exact ((source saved).mono fun _ holds =>
      holds.mono changes.directoriesIn (List.Subset.refl _)).trans
        (changes.mono fun _ holds => holds.mono (.refl _) (List.subset_cons_self _ _))
  cases course with
  | unsaved saved | refused saved _ => exact source (congrArg Prod.snd saved)
  | unstored saved _ stored | stored saved _ stored _ =>
    exact both (congrArg Prod.snd saved) (congrArg Prod.snd stored)

/-- Where compiled rules would be stored, all is as it was before. -/
def KeepsCompiled (store : Store) (name : String) (files after : FileTree) : Prop :=
  ∃ home, after.leads store.directory = .ok home ∧
    after.content? (home ++ [name ++ store.compiledExtension]) =
      files.content? (home ++ [name ++ store.compiledExtension])

theorem keepsCompiled_of_differ {store : Store} {files : FileTree} {name source : String}
    (plain : '/' ∉ store.sourceExtension.toList)
    (differ : store.sourceExtension ≠ store.compiledExtension) (valid : isFileName name = true)
    (saved : store.saveSource name (utf8 source) files = (.ok path, between))
    (adds : AddsDirectories between after) : KeepsCompiled store name files after := by
  obtain ⟨home, stands, changes⟩ := save_stands (namesFile_append valid plain) saved
  refine ⟨home, adds.directoriesIn.leads stands.leads, ?_⟩
  rw [adds.content?, changes.content? fun same => differ ?_]
  simpa using same.symm

theorem keepsCompiled_of_saveSource {store : Store} {files : FileTree} {name source : String}
    (extensions : store.UsualExtensions) (valid : isFileName name = true)
    (saved : store.saveSource name (utf8 source) files = (.ok path, between))
    (adds : AddsDirectories between after) : KeepsCompiled store name files after :=
  keepsCompiled_of_differ extensions.plain.1 extensions.differ valid saved adds

theorem Course.read_source {result : Except Failure String}
    (course : generator.Course request rule errorOnWarning world result after)
    (extensions : generator.store.UsualExtensions)
    (saved : generator.store.saveSource rule.name (utf8 rule.source) world.files = (.ok path, between)) :
    after.read (generator.store.sourcePath rule.name) = .ok (utf8 rule.source) := by
  cases course with
  | unsaved unsaved =>
    rw [saved] at unsaved
    cases unsaved
  | refused saved _ => exact read_of_saveSource saved
  | unstored saved _ stored | stored saved _ stored _ =>
    exact read_source_of_saves extensions.plain.1 extensions.plain.2 extensions.differ saved
      (congrArg Prod.snd stored)

/-- What a generation leaves and asks. If no name is left of the request, nothing happens. If the
source cannot be saved, the engine is not asked, and directories are made at most. Otherwise the source
is stored in the end and was compiled once, with the options of the generator but for the word on
warnings. If it is refused, or if the rules cannot be written or saved, no compiled rules are touched and
nothing is scanned. Otherwise the written rules are stored in the end, whatever the recovery comes to,
and the source was scanned once if they can be read again. No other file is touched. The questions told
are the applications of the engine: one that notes these has noted just them. -/
theorem generateWith_effect (keeps : generator.engine.KeepsFiles)
    (extensions : generator.store.UsualExtensions) (request : Request) (errorOnWarning : Bool)
    (session : Session σ) :
    let store := generator.store
    let rule := request.rendered
    let files := session.world.files
    let options := { generator.options with errorOnWarning }
    let compile between := (generator.engine.compile rule.source options
      { session.world with files := between }).value
    let last := ((generator.generateWith request errorOnWarning).start session).2
    (Identifier.isBlankName rule.name = true →
      last.world = session.world ∧ last.asked = session.asked) ∧
    (Identifier.isBlankName rule.name = false →
      ((render request : Job σ RenderedRule).start session).1 = .ok rule ∧
      (∀ failure between,
        store.saveSource rule.name (utf8 rule.source) files = (.error failure, between) →
          AddsDirectories files last.world.files ∧ last.asked = session.asked) ∧
      (∀ path between,
        store.saveSource rule.name (utf8 rule.source) files = (.ok path, between) →
          last.world.files.read (store.sourcePath rule.name) = .ok (utf8 rule.source) ∧
          (∀ failure, compile between = .error failure →
            last.asked = session.asked ++ [.compiled rule.source options] ∧
              KeepsCompiled store rule.name files last.world.files) ∧
          (∀ rules, compile between = .ok rules →
            (∀ failure after, store.saveCompiled rule.name rules between = (.error failure, after) →
              last.asked = session.asked ++ [.compiled rule.source options] ∧
                KeepsCompiled store rule.name files last.world.files) ∧
            (∀ path' after, store.saveCompiled rule.name rules between = (.ok path', after) →
              ∃ content, Storable.toBytes rules = .ok content ∧
                last.world.files.read (store.compiledPath rule.name) = .ok content ∧
                (∀ loaded : ρ, Storable.ofBytes content = .ok loaded → last.asked = session.asked ++
                  [.compiled rule.source options, .scanned (store.sourcePath rule.name)]) ∧
                (∀ message, (Storable.ofBytes content : Except String ρ) = .error message →
                  last.asked = session.asked ++ [.compiled rule.source options]))))) ∧
    ChangesOnly (store.Holds last.world.files (fileNames store rule.name)) files
      last.world.files ∧
    ((generator.noting.generateWith request errorOnWarning).start session.noted).2.world.memory.2 =
      last.asked := by
  dsimp only
  have notes : ((generator.noting.generateWith request errorOnWarning).start
      session.noted).2.world.memory.2 =
        ((generator.generateWith request errorOnWarning).start session).2.asked := by
    rw [noted_generateWith generator request errorOnWarning session]
    rfl
  cases named : Identifier.isBlankName request.rendered.name with
  | true =>
    rw [notes, start_generateWith, start_render_of_blank named]
    refine ⟨fun _ => ⟨rfl, Session.asked_logging _ _⟩, fun blank => Bool.noConfusion blank, ?_, rfl⟩
    exact (AddsDirectories.refl _).changesOnly _
  | false =>
    have valid : isFileName request.rendered.name = true := Identifier.isFileName_sanitize named
    have course := course_generateWith keeps named errorOnWarning session
    have frame := course.changesOnly valid extensions.plain.1 extensions.plain.2
    -- The events around the production make no difference to what is left and asked.
    obtain ⟨before, behind, same⟩ :=
      start_generateWith_of_named generator named errorOnWarning session
    rw [same, Session.world_logging] at course
    refine ⟨fun blank => Bool.noConfusion blank, fun _ => ⟨?_, ?_, ?_⟩, frame, notes⟩
    · rw [start_render_of_named named]
    all_goals rw [same, Session.world_logging, Session.asked_logging]
    · intro failure between unsaved
      rw [produce_unsaved (session.logging before) unsaved]
      exact ⟨save_error unsaved, by simp⟩
    · intro path between saved
      refine ⟨?_, ?_, ?_⟩
      · exact course.read_source extensions saved
      · intro failure refused
        rw [produce_refused (session.logging before) saved refused, keeps_afterCompile keeps]
        exact ⟨by simp; rfl, keepsCompiled_of_saveSource extensions valid saved (.refl _)⟩
      · intro rules compiled
        refine ⟨?_, ?_⟩
        · intro failure after unstored
          rw [produce_unstored keeps (session.logging before) saved compiled unstored]
          exact ⟨by simp; rfl,
            keepsCompiled_of_saveSource extensions valid saved (save_error unstored)⟩
        · intro path' after stored
          rw [← Session.asked_logging session before]
          exact left_produce_stored keeps (session.logging before) saved compiled stored

namespace Sample

def stored : Session Unit := (pickyGenerator.answer ⟨Sample.request, true⟩ emptySession).2

def again : Request := { Sample.request with rule := "a+b", condition := "?" }

theorem rendered_again : again.rendered = ⟨"a_b", refused⟩ := by decide +kernel

theorem usable_stored : pickyGenerator.store.Usable stored.world.files ["work", "rules"] := by
  have saves := saves_answer regular_pickyGenerator usable_emptySession ⟨Sample.request, true⟩
  rw [stored]
  exact saves.usable usable_emptySession

theorem value_refused (options : CompileOptions) (world : World Unit) :
    (pickyEngine.compile refused options world).value =
      .error (.compile ⟨"unexpected token", "engine", refused, none⟩) := by
  rw [value_pickyEngine]
  exact if_pos (by cbv)

end Sample

theorem generateWith_effect_sample :
    let last := ((Sample.pickyGenerator.generateWith Sample.again true).start Sample.stored).2
    last.world.files.read (Sample.pickyGenerator.store.sourcePath "a_b") =
        .ok (utf8 Sample.refused) ∧
      last.asked = Sample.stored.asked ++
        [.compiled Sample.refused (Sample.pickyGenerator.optionsWith true)] ∧
      KeepsCompiled Sample.pickyGenerator.store "a_b" Sample.stored.world.files last.world.files := by
  have keeps : Sample.pickyGenerator.engine.KeepsFiles := Sample.pickyEngine_functional.keepsFiles
  have sound : Sample.pickyGenerator.store.sourceFault "a_b" Sample.refused = none := by
    decide +kernel
  have saved := Sample.usable_stored.saveSource (by decide +kernel : isFileName "a_b" = true)
    (by decide +kernel) Sample.refused
  rw [sound] at saved
  obtain ⟨-, named, -⟩ := generateWith_effect keeps ⟨rfl, rfl⟩ Sample.again true Sample.stored
  rw [Sample.rendered_again] at named
  obtain ⟨-, -, outcome⟩ := named (by decide +kernel)
  obtain ⟨source, refused, -⟩ := outcome _ _ saved
  obtain ⟨asked, kept⟩ := refused _ (Sample.value_refused _ _)
  exact ⟨source, asked, kept⟩

end Generator
end RuleSmith
