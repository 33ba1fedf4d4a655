import RuleSmith.Proofs.Identifier
import RuleSmith.Proofs.Recovery
import RuleSmith.Proofs.Store

/-!
# Runs of generations

Generations one after another work in one store, and names of rules may become one when they are
cleaned. Each of them still answers as if it was alone, and the store holds what was saved last.
-/

namespace RuleSmith
open Files Text FileTree

variable {σ ρ : Type}

structure Store.UsualExtensions (store : Store) : Prop where
  source : store.sourceExtension = ".yar"
  compiled : store.compiledExtension = ".bin"

namespace Store

variable {store : Store} {files : FileTree} {home : Location} {name : String}

theorem UsualExtensions.plain (h : store.UsualExtensions) :
    '/' ∉ store.sourceExtension.toList ∧ '/' ∉ store.compiledExtension.toList := by
  rw [h.source, h.compiled]
  decide +kernel

theorem UsualExtensions.differ (h : store.UsualExtensions) :
    store.sourceExtension ≠ store.compiledExtension := by
  rw [h.source, h.compiled]
  decide +kernel

/-- Whether no file of a store is named for both a source and compiled rules. -/
def ExtensionsApart (store : Store) : Prop :=
  ∀ name other, name ++ store.sourceExtension ≠ other ++ store.compiledExtension

theorem UsualExtensions.extensionsApart (h : store.UsualExtensions) : store.ExtensionsApart := by
  intro name other same
  rw [h.source, h.compiled] at same
  have last := congrArg String.toList same
  rw [String.toList_append, String.toList_append] at last
  have ends := (List.append_inj' last (by decide)).2
  exact absurd ends (by decide)

theorem UsualExtensions.apart (h : store.UsualExtensions) (name other : String) :
    home ++ [name ++ store.sourceExtension] ≠ home ++ [other ++ store.compiledExtension] :=
  fun same => h.extensionsApart name other (List.singleton_inj.mp (List.append_cancel_left same))

theorem joinFault_compiled (h : store.UsualExtensions) (valid : isFileName name = true) :
    joinFault store.directory (name ++ store.compiledExtension) =
      joinFault store.directory (name ++ store.sourceExtension) := by
  rw [h.source, h.compiled]
  exact joinFault_append valid (by decide +kernel) (by decide +kernel) (by decide +kernel)
    (by decide +kernel) (by decide +kernel) _

theorem joinFault_of_sourceFault {source : String} (sound : store.sourceFault name source = none) :
    joinFault store.directory (name ++ store.sourceExtension) = none := by
  unfold sourceFault at sound
  split at sound
  · cases sound
  · simpa using sound

theorem reads_withCompiled (extensions : store.UsualExtensions) {later : FileTree} {source : String}
    (usable : store.Usable files home) (valid : isFileName name = true)
    (sound : store.sourceFault name source = none) (content : List UInt8)
    (saved : later = store.withCompiled home name content
      (store.withSource home name source files)) :
    later.read (store.compiledPath name) = .ok content ∧
      later.read (store.sourcePath name) = .ok (utf8 source) := by
  subst saved
  have fits := joinFault_of_sourceFault sound
  have written := usable.withSource valid source
  have leads := (written.standsAt_withCompiled valid content).leads
  constructor
  · apply read_join (namesFile_append valid extensions.plain.2) leads
    · rw [joinFault_compiled extensions valid, fits]
    · rw [written.content?_withCompiled valid, if_pos rfl]
  · apply read_join (namesFile_append valid extensions.plain.1) leads fits
    rw [written.content?_withCompiled valid, if_neg (extensions.apart name name),
      usable.content?_withSource valid, if_pos rfl]

end Store

variable [Storable ρ]

def Engine.Serializes (engine : Engine σ ρ) : Prop :=
  ∀ source options world rules, (engine.compile source options world).value = .ok rules →
    ∃ bytes, Storable.toBytes rules = .ok bytes

namespace Generator
open Job Store

structure Regular (generator : Generator σ ρ) : Prop where
  functional : generator.engine.Functional
  serializes : generator.engine.Serializes
  extensions : generator.store.UsualExtensions

def bytesOf (rules : ρ) : List UInt8 := (Storable.toBytes rules).toOption.getD []

theorem toBytes_eq {rules : ρ} (writes : ∃ bytes, Storable.toBytes rules = .ok bytes) :
    Storable.toBytes rules = .ok (bytesOf rules) := by
  obtain ⟨bytes, written⟩ := writes
  rw [bytesOf, written]
  rfl

variable {generator : Generator σ ρ} {request : Request} {rendered : RenderedRule}
  {errorOnWarning : Bool} {home : Location} {session : Session σ}

/-! ## One generation in a usable store -/

theorem start_produce_usable (regular : generator.Regular)
    (usable : generator.store.Usable session.world.files home)
    (valid : isFileName rendered.name = true) (request : Request) (errorOnWarning : Bool) :
    (generator.produce request rendered errorOnWarning).start session =
      match generator.store.sourceFault rendered.name rendered.source with
      | some failure => (.error failure, session.withFiles (generator.store.opened session.world.files))
      | none =>
        let options := generator.optionsWith errorOnWarning
        let session := session.withFiles
          (generator.store.withSource home rendered.name rendered.source session.world.files)
        let later := generator.afterCompile rendered.source options session
        match (generator.engine.compile rendered.source options session.world).value with
        | .error failure => (.error (failure.about rendered.name request), later)
        | .ok rules =>
          (generator.recoverSource (.stored rendered.name) request.condition).start
            (later.withFiles (generator.store.withCompiled home rendered.name (bytesOf rules)
              session.world.files)) := by
  rw [start_produce, usable.saveSource valid regular.extensions.plain.1]
  cases fault : generator.store.sourceFault rendered.name rendered.source with
  | some failure => rfl
  | none =>
    simp only
    cases compiles : (generator.engine.compile rendered.source (generator.optionsWith errorOnWarning)
      (session.withFiles (generator.store.withSource home rendered.name rendered.source
        session.world.files)).world).value with
    | error failure => rfl
    | ok rules =>
      have written := serialize_ok.mpr (toBytes_eq (regular.serializes _ _ _ _ compiles))
      simp only [files_afterCompile regular.functional, Session.files_withFiles]
      rw [(usable.withSource valid rendered.source).saveCompiled valid regular.extensions.plain.2,
        written, joinFault_compiled regular.extensions valid, joinFault_of_sourceFault fault]

theorem reaches_usable (functional : generator.engine.Functional)
    (extensions : generator.store.UsualExtensions)
    (usable : generator.store.Usable session.world.files home)
    (named : Identifier.isBlankName (Identifier.sanitize request.rule) = false)
    (isRendered : rendered = ⟨Identifier.sanitize request.rule,
      (request.toSource (Identifier.sanitize request.rule)).render⟩)
    (sound : generator.store.sourceFault rendered.name rendered.source = none) {rules : ρ}
    {content : List UInt8} (written : Storable.toBytes rules = .ok content)
    (compiles : ∀ world, (generator.engine.compile rendered.source
      (generator.optionsWith errorOnWarning) world).value = .ok rules) :
    ∃ before, generator.Reaches request errorOnWarning session rendered rules before ∧
      before.world.files = generator.store.withCompiled home rendered.name content
        (generator.store.withSource home rendered.name rendered.source session.world.files) := by
  have valid : isFileName rendered.name = true := isRendered ▸ Identifier.isFileName_sanitize named
  obtain ⟨start, render, same⟩ : ∃ start : Session σ,
      (render request).start session = (.ok rendered, start) ∧ start.world = session.world := by
    rw [start_render]
    simp only [named, Bool.false_eq_true, if_false, ← isRendered]
    exact ⟨_, rfl, rfl⟩
  rw [← same] at usable
  have saved := usable.saveSource valid extensions.plain.1 rendered.source
  rw [sound] at saved
  have stored := (usable.withSource valid rendered.source).saveCompiled valid extensions.plain.2 rules
  rw [serialize_ok.mpr written, joinFault_compiled extensions valid, joinFault_of_sourceFault sound]
    at stored
  have kept (files : FileTree) : (generator.afterCompile rendered.source
      (generator.optionsWith errorOnWarning) (start.withFiles files)).world.files = files := by
    rw [files_afterCompile functional, Session.files_withFiles]
  refine ⟨_, .intro render saved (compiles _) ((congrArg _ (kept _)).trans stored), ?_⟩
  rw [← same]
  rfl

theorem recoverSource_congr (functional : generator.engine.Functional) {compiled : Compiled ρ}
    (condition : String) {session other : Session σ}
    (rules : generator.rulesOf session.world.files compiled =
      generator.rulesOf other.world.files compiled)
    (source : session.world.files.read (generator.store.sourcePath compiled.name) =
      other.world.files.read (generator.store.sourcePath compiled.name)) :
    ((generator.recoverSource compiled condition).start session).1 =
      ((generator.recoverSource compiled condition).start other).1 := by
  have recorded : ((generator.recoverRecord compiled condition).start session).1 =
      ((generator.recoverRecord compiled condition).start other).1 := by
    rw [start_recoverRecord, start_recoverRecord, rules]
    cases generator.rulesOf other.world.files compiled with
    | error failure => rfl
    | ok rules =>
      obtain ⟨told, value⟩ := functional.scan rules _ _ _ source
      simp only [told, value]
      split
      · rfl
      · split <;> rfl
  rw [start_recoverSource, start_recoverSource]
  rcases first : (generator.recoverRecord compiled condition).start session with ⟨_ | _, later⟩ <;>
    rcases second : (generator.recoverRecord compiled condition).start other with ⟨_ | _, later'⟩ <;>
    simp_all

theorem produce_congr (regular : generator.Regular) (rendered : RenderedRule)
    (session alone : Session σ) {home other : Location}
    (usable : generator.store.Usable session.world.files home)
    (usable' : generator.store.Usable alone.world.files other)
    (valid : isFileName rendered.name = true) (request : Request) (errorOnWarning : Bool) :
    ((generator.produce request rendered errorOnWarning).start session).1 =
      ((generator.produce request rendered errorOnWarning).start alone).1 := by
  rw [start_produce_usable regular usable valid,
    start_produce_usable regular usable' valid]
  cases fault : generator.store.sourceFault rendered.name rendered.source with
  | some failure => rfl
  | none =>
    simp only
    rw [regular.functional.compile rendered.source (generator.optionsWith errorOnWarning)
      (session.withFiles _).world (alone.withFiles (generator.store.withSource other rendered.name
        rendered.source alone.world.files)).world]
    cases (generator.engine.compile rendered.source (generator.optionsWith errorOnWarning)
      (alone.withFiles (generator.store.withSource other rendered.name rendered.source
        alone.world.files)).world).value with
    | error failure => rfl
    | ok rules =>
      obtain ⟨loaded, scanned⟩ :=
        reads_withCompiled regular.extensions usable valid fault (bytesOf rules) rfl
      obtain ⟨loaded', scanned'⟩ :=
        reads_withCompiled regular.extensions usable' valid fault (bytesOf rules) rfl
      apply recoverSource_congr regular.functional
      · simp only [rulesOf, loadCompiled, Session.files_withFiles, loaded, loaded']
      · exact scanned.trans scanned'.symm

/-! ## Calls -/

structure Call where
  request : Request
  errorOnWarning : Bool

def answer (generator : Generator σ ρ) (call : Call) : Session σ → Except Failure String × Session σ :=
  (generator.generateWith call.request call.errorOnWarning).start

theorem answer_fst (call : Call) (session : Session σ) :
    (generator.answer call session).1 =
      match (render call.request : Job σ RenderedRule).start session with
      | (.error failure, _) => .error failure
      | (.ok rendered, later) =>
        ((generator.produce call.request rendered call.errorOnWarning).start later).1 := by
  rw [answer, start_generateWith]
  rcases (render call.request : Job σ RenderedRule).start session with ⟨_ | rendered, later⟩
  · rfl
  · simp only
    split <;> rename_i eq <;> rw [eq]

theorem files_answer (call : Call) (session : Session σ) :
    (generator.answer call session).2.world.files =
      match (render call.request : Job σ RenderedRule).start session with
      | (.error _, later) => later.world.files
      | (.ok rendered, later) =>
        ((generator.produce call.request rendered call.errorOnWarning).start later).2.world.files := by
  rw [answer, start_generateWith]
  rcases (render call.request : Job σ RenderedRule).start session with ⟨_ | rendered, later⟩
  · rfl
  · simp only
    split <;> rename_i eq <;> rw [eq] <;> rfl

def savedOf (generator : Generator σ ρ) (rendered : RenderedRule) (session : Session σ) :
    Option (String × String) :=
  match generator.store.saveSource rendered.name (utf8 rendered.source) session.world.files with
  | (.error _, _) => none
  | (.ok _, _) => some (rendered.name, rendered.source)

def compiledOf (generator : Generator σ ρ) (rendered : RenderedRule) (errorOnWarning : Bool)
    (session : Session σ) : Option (String × ρ) :=
  match generator.store.saveSource rendered.name (utf8 rendered.source) session.world.files with
  | (.error _, _) => none
  | (.ok _, files) =>
    match (generator.engine.compile rendered.source (generator.optionsWith errorOnWarning)
      (session.withFiles files).world).value with
    | .error _ => none
    | .ok rules => some (rendered.name, rules)

/-- The name and the source that a call saves, if it does. -/
def savedBy (generator : Generator σ ρ) (call : Call) (session : Session σ) :
    Option (String × String) :=
  match (render call.request : Job σ RenderedRule).start session with
  | (.error _, _) => none
  | (.ok rendered, later) => generator.savedOf rendered later

/-- The name and the rules that a call compiles its saved source to, if it does. -/
def compiledBy (generator : Generator σ ρ) (call : Call) (session : Session σ) :
    Option (String × ρ) :=
  match (render call.request : Job σ RenderedRule).start session with
  | (.error _, _) => none
  | (.ok rendered, later) => generator.compiledOf rendered call.errorOnWarning later

theorem writes_of_compiledBy (regular : generator.Regular) {call : Call} {name : String} {rules : ρ}
    (h : generator.compiledBy call session = some (name, rules)) :
    ∃ bytes, Storable.toBytes rules = .ok bytes := by
  unfold compiledBy compiledOf at h
  split at h
  · cases h
  · split at h
    · cases h
    · split at h <;> cases h
      exact regular.serializes _ _ _ _ ‹_›

theorem answer_congr (regular : generator.Regular) {session alone : Session σ}
    {home other : Location} (usable : generator.store.Usable session.world.files home)
    (usable' : generator.store.Usable alone.world.files other) (call : Call) :
    (generator.answer call session).1 = (generator.answer call alone).1 := by
  simp only [answer_fst, start_render]
  by_cases blank : Identifier.isBlankName (Identifier.sanitize call.request.rule) = true
  · simp only [if_pos blank]
  · simp only [if_neg blank]
    have valid : isFileName (Identifier.sanitize call.request.rule) = true :=
      Identifier.isFileName_sanitize (by simpa using blank)
    generalize (call.request.toSource (Identifier.sanitize call.request.rule)).render = source
    exact produce_congr regular ⟨_, source⟩ (session.logging _) (alone.logging _) usable
      usable' valid _ _

inductive Saves (store : Store) (home : Location) (files : FileTree) :
    Option (String × String) → Option (String × ρ) → FileTree → Prop
  | nothing : Saves store home files none none files
  | directory : Saves store home files none none (store.opened files)
  | source {name source : String} (valid : isFileName name = true)
      (sound : store.sourceFault name source = none) :
      Saves store home files (some (name, source)) none (store.withSource home name source files)
  | compiled {name source : String} {rules : ρ} (valid : isFileName name = true)
      (sound : store.sourceFault name source = none) :
      Saves store home files (some (name, source)) (some (name, rules))
        (store.withCompiled home name (bytesOf rules) (store.withSource home name source files))

theorem saves_produce (regular : generator.Regular) (rendered : RenderedRule) (session : Session σ)
    (usable : generator.store.Usable session.world.files home)
    (valid : isFileName rendered.name = true) (request : Request) (errorOnWarning : Bool) :
    Saves generator.store home session.world.files (generator.savedOf rendered session)
      (generator.compiledOf rendered errorOnWarning session)
      ((generator.produce request rendered errorOnWarning).start session).2.world.files := by
  rw [start_produce_usable regular usable valid, savedOf, compiledOf,
    usable.saveSource valid regular.extensions.plain.1]
  cases fault : generator.store.sourceFault rendered.name rendered.source with
  | some failure => exact .directory
  | none =>
    simp only
    cases (generator.engine.compile rendered.source (generator.optionsWith errorOnWarning)
      (session.withFiles (generator.store.withSource home rendered.name rendered.source
        session.world.files)).world).value with
    | error failure =>
      simp only [files_afterCompile regular.functional]
      exact .source valid fault
    | ok rules =>
      simp only [files_recoverSource regular.functional]
      exact .compiled valid fault

theorem saves_answer (regular : generator.Regular)
    (usable : generator.store.Usable session.world.files home) (call : Call) :
    Saves generator.store home session.world.files (generator.savedBy call session)
      (generator.compiledBy call session) (generator.answer call session).2.world.files := by
  simp only [files_answer, savedBy, compiledBy, start_render]
  by_cases blank : Identifier.isBlankName (Identifier.sanitize call.request.rule) = true
  · simp only [if_pos blank]
    exact .nothing
  · simp only [if_neg blank]
    have valid : isFileName (Identifier.sanitize call.request.rule) = true :=
      Identifier.isFileName_sanitize (by simpa using blank)
    generalize (call.request.toSource (Identifier.sanitize call.request.rule)).render = source
    exact saves_produce regular ⟨_, source⟩ (session.logging _) usable valid _ _

omit [Storable ρ] in
theorem savedBy_usable (extensions : generator.store.UsualExtensions)
    (usable : generator.store.Usable session.world.files home) (call : Call) (name source : String)
    (cleaned : Identifier.sanitize call.request.rule = name)
    (named : Identifier.isBlankName name = false)
    (isRendered : (call.request.toSource name).render = source)
    (sound : generator.store.sourceFault name source = none) {reply : Except Failure ρ}
    (compiles : ∀ world, (generator.engine.compile source
      (generator.optionsWith call.errorOnWarning) world).value = reply) :
    generator.savedBy call session = some (name, source) ∧
      generator.compiledBy call session = reply.toOption.map (name, ·) := by
  subst cleaned isRendered
  have saved := usable.saveSource (Identifier.isFileName_sanitize named) extensions.plain.1
    (call.request.toSource (Identifier.sanitize call.request.rule)).render
  rw [sound] at saved
  simp only [savedBy, compiledBy, start_render, named, Bool.false_eq_true, if_false, savedOf,
    compiledOf, Session.world_logging, saved, compiles, true_and]
  cases reply <;> rfl

def lastOf {α : Type} (name : String) : List (String × α) → Option α
  | [] => none
  | (other, value) :: rest => (lastOf name rest).or (if other = name then some value else none)

theorem lastOf_append {α : Type} (name : String) (first second : List (String × α)) :
    lastOf name (first ++ second) = (lastOf name second).or (lastOf name first) := by
  induction first with
  | nil => simp [lastOf]
  | cons entry rest ih => simp [lastOf, ih, Option.or_assoc]

theorem ite_eq_lastOf_single {α β : Type} (write : α → β) (home : Location)
    (name other extension : String) (value : α) (before : Option β) :
    (if home ++ [name ++ extension] = home ++ [other ++ extension] then some (write value)
      else before) = ((lastOf name [(other, value)]).map write).or before := by
  by_cases same : other = name
  · simp [lastOf, same]
  · simp [lastOf, same, Ne.symm same]

theorem mem_of_lastOf {α : Type} {name : String} {value : α} {items : List (String × α)}
    (h : lastOf name items = some value) : (name, value) ∈ items := by
  induction items with
  | nil => cases h
  | cons entry rest ih =>
    obtain ⟨other, first⟩ := entry
    rw [lastOf, Option.or_eq_some_iff] at h
    rcases h with later | ⟨-, here⟩
    · exact List.mem_cons_of_mem _ (ih later)
    · split at here
      · cases here
        subst other
        exact List.mem_cons_self
      · cases here

namespace Saves

variable {store : Store} {files after : FileTree} {source : Option (String × String)}
  {compiled : Option (String × ρ)} {name : String}

theorem usable (saves : Saves store home files source compiled after)
    (usable : store.Usable files home) : store.Usable after home := by
  cases saves with
  | nothing => exact usable
  | directory => exact usable.opened
  | source valid sound => exact usable.withSource valid _
  | compiled valid sound => exact (usable.withSource valid _).withCompiled valid _

theorem standsAt (saves : Saves store home files source compiled after)
    (usable : store.Usable files home) (h : source.isSome = true ∨ store.StandsAt files home) :
    store.StandsAt after home := by
  cases saves with
  | nothing => exact h.resolve_left (by simp)
  | directory => exact usable.standsAt
  | source valid sound => exact usable.standsAt_withSource valid _
  | compiled valid sound => exact (usable.withSource valid _).standsAt_withCompiled valid _

theorem fits (saves : Saves store home files source compiled after) {text : String}
    (saved : source = some (name, text)) :
    isFileName name = true ∧
      joinFault store.directory (name ++ store.sourceExtension) = none := by
  cases saves with
  | nothing => cases saved
  | directory => cases saved
  | source valid sound | compiled valid sound =>
    cases saved
    exact ⟨valid, joinFault_of_sourceFault sound⟩

theorem source_of_compiled (saves : Saves store home files source compiled after)
    {rules : ρ} (h : compiled = some (name, rules)) :
    ∃ text, source = some (name, text) := by
  cases saves with
  | nothing => cases h
  | directory => cases h
  | source valid sound => cases h
  | compiled valid sound =>
    cases h
    exact ⟨_, rfl⟩

theorem content?_opened (location : Location) :
    (store.opened files).content? location = files.content? location :=
  (makeDirectory_adds store files).content? location

theorem content?_source (saves : Saves store home files source compiled after)
    (extensions : store.UsualExtensions) (usable : store.Usable files home) (name : String) :
    after.content? (home ++ [name ++ store.sourceExtension]) =
      ((lastOf name source.toList).map utf8).or
        (files.content? (home ++ [name ++ store.sourceExtension])) := by
  cases saves with
  | nothing => rfl
  | directory => exact content?_opened _
  | @source other text valid sound =>
    rw [usable.content?_withSource valid]
    exact ite_eq_lastOf_single utf8 home name other _ text _
  | @compiled other text rules valid sound =>
    rw [(usable.withSource valid text).content?_withCompiled valid,
      if_neg (extensions.apart name other), usable.content?_withSource valid]
    exact ite_eq_lastOf_single utf8 home name other _ text _

theorem content?_compiled (saves : Saves store home files source compiled after)
    (extensions : store.UsualExtensions) (usable : store.Usable files home) (name : String) :
    after.content? (home ++ [name ++ store.compiledExtension]) =
      ((lastOf name compiled.toList).map bytesOf).or
        (files.content? (home ++ [name ++ store.compiledExtension])) := by
  cases saves with
  | nothing => rfl
  | directory => exact content?_opened _
  | @source other text valid sound =>
    rw [usable.content?_withSource valid, if_neg (extensions.apart other name).symm]
    rfl
  | @compiled other text rules valid sound =>
    rw [(usable.withSource valid text).content?_withCompiled valid,
      usable.content?_withSource valid, if_neg (extensions.apart other name).symm]
    exact ite_eq_lastOf_single bytesOf home name other _ rules _

end Saves

/-! ## Runs -/

structure Turn (σ : Type) where
  call : Call
  before : Session σ

def turns (generator : Generator σ ρ) : List Call → Session σ → List (Turn σ)
  | [], _ => []
  | call :: calls, session =>
    ⟨call, session⟩ :: generator.turns calls (generator.answer call session).2

def finish (generator : Generator σ ρ) : List Call → Session σ → Session σ
  | [], session => session
  | call :: calls, session => generator.finish calls (generator.answer call session).2

def saved (generator : Generator σ ρ) (turns : List (Turn σ)) : List (String × String) :=
  turns.filterMap fun turn => generator.savedBy turn.call turn.before

def compiled (generator : Generator σ ρ) (turns : List (Turn σ)) : List (String × ρ) :=
  turns.filterMap fun turn => generator.compiledBy turn.call turn.before

theorem filterMap_cons_toList {α β : Type} (f : α → Option β) (item : α) (items : List α) :
    (item :: items).filterMap f = (f item).toList ++ items.filterMap f := by
  rw [List.filterMap_cons]
  cases f item <;> rfl

omit [Storable ρ] in
theorem saved_cons (turn : Turn σ) (turns : List (Turn σ)) :
    generator.saved (turn :: turns) =
      (generator.savedBy turn.call turn.before).toList ++ generator.saved turns :=
  filterMap_cons_toList _ _ _

omit [Storable ρ] in
theorem compiled_cons (turn : Turn σ) (turns : List (Turn σ)) :
    generator.compiled (turn :: turns) =
      (generator.compiledBy turn.call turn.before).toList ++ generator.compiled turns :=
  filterMap_cons_toList _ _ _

theorem usable_turns (regular : generator.Regular) {session : Session σ}
    (usable : generator.store.Usable session.world.files home) (calls : List Call) :
    (∀ turn ∈ generator.turns calls session, generator.store.Usable turn.before.world.files home) ∧
      generator.store.Usable (generator.finish calls session).world.files home := by
  induction calls generalizing session with
  | nil => exact ⟨by simp [turns], usable⟩
  | cons call calls ih =>
    have saves := saves_answer regular usable call
    obtain ⟨turnsUsable, finishUsable⟩ := ih (saves.usable usable)
    refine ⟨?_, finishUsable⟩
    intro turn member
    rcases List.mem_cons.mp member with rfl | later
    · exact usable
    · exact turnsUsable turn later

theorem content?_finish (regular : generator.Regular) {session : Session σ}
    (usable : generator.store.Usable session.world.files home) (calls : List Call)
    (name : String) :
    (generator.finish calls session).world.files.content?
        (home ++ [name ++ generator.store.sourceExtension]) =
      ((lastOf name (generator.saved (generator.turns calls session))).map utf8).or
        (session.world.files.content? (home ++ [name ++ generator.store.sourceExtension])) ∧
    (generator.finish calls session).world.files.content?
        (home ++ [name ++ generator.store.compiledExtension]) =
      ((lastOf name (generator.compiled (generator.turns calls session))).map bytesOf).or
        (session.world.files.content? (home ++ [name ++ generator.store.compiledExtension])) := by
  induction calls generalizing session with
  | nil => exact ⟨rfl, rfl⟩
  | cons call calls ih =>
    -- What the later calls save comes before what this one saves, and that before what was there.
    have saves := saves_answer regular usable call
    obtain ⟨source, compiled⟩ := ih (saves.usable usable)
    constructor
    · rw [finish, source, saves.content?_source regular.extensions usable, turns, saved_cons,
        lastOf_append, Option.map_or, Option.or_assoc]
    · rw [finish, compiled, saves.content?_compiled regular.extensions usable, turns, compiled_cons,
        lastOf_append, Option.map_or, Option.or_assoc]

theorem standsAt_finish (regular : generator.Regular) {session : Session σ}
    (usable : generator.store.Usable session.world.files home) (calls : List Call)
    (h : generator.saved (generator.turns calls session) ≠ [] ∨
      generator.store.StandsAt session.world.files home) :
    generator.store.StandsAt (generator.finish calls session).world.files home := by
  induction calls generalizing session with
  | nil => exact h.resolve_left (by simp [turns, saved])
  | cons call calls ih =>
    have saves := saves_answer regular usable call
    apply ih (saves.usable usable)
    rw [turns, saved_cons] at h
    cases first : generator.savedBy call session with
    | some entry => exact Or.inr (saves.standsAt usable (Or.inl (by simp [first])))
    | none =>
      rcases h with later | stands
      · exact Or.inl (by simpa [first] using later)
      · exact Or.inr (saves.standsAt usable (Or.inr stands))

theorem read_source (regular : generator.Regular) {session : Session σ}
    (usable : generator.store.Usable session.world.files home) (calls : List Call)
    {name source : String}
    (last : lastOf name (generator.saved (generator.turns calls session)) = some source) :
    (generator.finish calls session).world.files.read (generator.store.sourcePath name) =
      .ok (utf8 source) := by
  have member := mem_of_lastOf last
  obtain ⟨turn, turnOf, savedTurn⟩ := List.mem_filterMap.mp member
  have saves := saves_answer regular
    ((usable_turns regular usable calls).1 turn turnOf) turn.call
  obtain ⟨valid, fits⟩ := saves.fits savedTurn
  have stands := standsAt_finish regular usable calls
    (Or.inl (List.ne_nil_of_mem member))
  apply read_join (namesFile_append valid regular.extensions.plain.1) stands.leads fits
  rw [(content?_finish regular usable calls name).1, last]
  rfl

theorem read_compiled (regular : generator.Regular) {session : Session σ}
    (usable : generator.store.Usable session.world.files home) (calls : List Call)
    {name : String} {rules : ρ}
    (last : lastOf name (generator.compiled (generator.turns calls session)) = some rules) :
    ∃ bytes, Storable.toBytes rules = .ok bytes ∧
      (generator.finish calls session).world.files.read (generator.store.compiledPath name) =
        .ok bytes := by
  obtain ⟨turn, turnOf, compiledTurn⟩ := List.mem_filterMap.mp (mem_of_lastOf last)
  have saves := saves_answer regular
    ((usable_turns regular usable calls).1 turn turnOf) turn.call
  obtain ⟨source, savedTurn⟩ := saves.source_of_compiled compiledTurn
  obtain ⟨valid, fits⟩ := saves.fits savedTurn
  have saved : (name, source) ∈ generator.saved (generator.turns calls session) :=
    List.mem_filterMap.mpr ⟨turn, turnOf, savedTurn⟩
  have stands := standsAt_finish regular usable calls
    (Or.inl (List.ne_nil_of_mem saved))
  refine ⟨bytesOf rules, toBytes_eq (writes_of_compiledBy regular compiledTurn), ?_⟩
  apply read_join (namesFile_append valid regular.extensions.plain.2) stands.leads
  · rw [joinFault_compiled regular.extensions valid, fits]
  · rw [(content?_finish regular usable calls name).2, last]
    rfl

namespace Sample

def pickyEngine : Engine Unit where
  compile source _ world :=
    if source.toList.contains '?' then
      ⟨.error (.compile ⟨"unexpected token", "engine", source, none⟩), world, []⟩
    else ⟨.ok ⟨[]⟩, world, []⟩
  scan _ path world :=
    match world.files.read path with
    | .error error => .failed world (.scan path error)
    | .ok _ => .ofRecords world [] [record]

theorem pickyEngine_functional : pickyEngine.Functional where
  compile := by
    intro source options world other
    simp only [pickyEngine]
    split <;> rfl
  scan := by
    intro rules path world other same
    simp only [pickyEngine, same]
    cases other.files.read path with
    | error error => exact ⟨rfl, rfl⟩
    | ok bytes => simp
  files_compile := by
    intro source options world
    simp only [pickyEngine]
    split <;> rfl
  files_scan := by
    intro rules path world
    simp only [pickyEngine]
    cases world.files.read path with
    | error error => rfl
    | ok bytes => simp

def pickyGenerator : Generator Unit := ⟨{}, pickyEngine, {}⟩

theorem regular_pickyGenerator : pickyGenerator.Regular :=
  ⟨pickyEngine_functional, fun _ _ _ rules _ => ⟨rules.toBytes, rfl⟩, ⟨rfl, rfl⟩⟩

def emptySession : Session Unit := ⟨⟨.bare ["work"], ()⟩, []⟩

def verbatim : Generator Unit RuleSmith.Sample.Verbatim where
  store := {}
  engine :=
    { compile := fun source _ world => ⟨.ok ⟨source⟩, world, []⟩
      scan := fun _ _ world => .ofRecords world [] [record] }
  options := {}

theorem usable_emptySession :
    pickyGenerator.store.Usable emptySession.world.files ["work", "rules"] := by
  have opened : pickyGenerator.store.opened emptySession.world.files =
      (FileTree.bare ["work"]).put ["work", "rules"] .directory := rfl
  apply usable_of_empty
  · decide +kernel
  · decide +kernel
  · intro file
    rw [opened, entryAt?_put (by decide +kernel)]
    simp [entryAt?, bare]
  · rfl

def calls : List Call := [
  ⟨Sample.request, true⟩, ⟨{ Sample.request with rule := "a+b", condition := "?" }, true⟩]

def refused : String :=
  "rule a_b: mal\n\x7b\n    meta:\n        author = \"me\"\n\n    condition:\n        ?\n\x7d"

end Sample

theorem Sample.value_pickyEngine (source : String) (options : CompileOptions) (world : World Unit) :
    (Sample.pickyEngine.compile source options world).value =
      if source.toList.contains '?' then
        .error (.compile ⟨"unexpected token", "engine", source, none⟩) else .ok ⟨[]⟩ := by
  simp only [pickyEngine]
  split <;> rfl

theorem Sample.lastOf_calls :
    lastOf "a_b" (Sample.pickyGenerator.saved
      (Sample.pickyGenerator.turns Sample.calls Sample.emptySession)) = some Sample.refused ∧
    lastOf "a_b" (Sample.pickyGenerator.compiled
      (Sample.pickyGenerator.turns Sample.calls Sample.emptySession)) = some ⟨[]⟩ := by
  have extensions : Sample.pickyGenerator.store.UsualExtensions := ⟨rfl, rfl⟩
  have usable := (saves_answer Sample.regular_pickyGenerator Sample.usable_emptySession
    ⟨Sample.request, true⟩).usable Sample.usable_emptySession
  obtain ⟨saved, compiled⟩ := savedBy_usable extensions Sample.usable_emptySession
    ⟨Sample.request, true⟩ "a_b" Sample.source (by decide +kernel) (by decide +kernel)
    (by decide +kernel) (by decide +kernel) (Sample.value_pickyEngine Sample.source _)
  obtain ⟨saved', compiled'⟩ := savedBy_usable extensions usable
    ⟨{ Sample.request with rule := "a+b", condition := "?" }, true⟩ "a_b" Sample.refused
    (by decide +kernel) (by decide +kernel) (by decide +kernel) (by decide +kernel)
    (Sample.value_pickyEngine Sample.refused _)
  have accepted : Sample.source.toList.contains '?' = false := by decide +kernel
  have refused : Sample.refused.toList.contains '?' = true := by decide +kernel
  rw [accepted] at compiled
  rw [refused] at compiled'
  rw [Sample.calls, turns, turns, turns, saved_cons, saved_cons, compiled_cons, compiled_cons, saved,
    saved', compiled, compiled']
  exact ⟨rfl, rfl⟩

/-- Whatever calls come one after another in a usable store, each is answered as it is in any other
usable store, such as an empty one. In the end the source of a name is the last one that was saved for
it, and its compiled rules are the last ones that a saved source was compiled to; what no call saved
is as it was. -/
theorem run_isolated (regular : generator.Regular) {start : Session σ}
    (usable : generator.store.Usable start.world.files home) (calls : List Call) :
    (∀ turn ∈ generator.turns calls start, ∀ (alone : Session σ) (other : Location),
      generator.store.Usable alone.world.files other →
        (generator.answer turn.call turn.before).1 = (generator.answer turn.call alone).1) ∧
    ∀ name,
      (∀ source, lastOf name (generator.saved (generator.turns calls start)) = some source →
        (generator.finish calls start).world.files.read (generator.store.sourcePath name) =
          .ok (utf8 source)) ∧
      (lastOf name (generator.saved (generator.turns calls start)) = none →
        (generator.finish calls start).world.files.content?
            (home ++ [name ++ generator.store.sourceExtension]) =
          start.world.files.content? (home ++ [name ++ generator.store.sourceExtension])) ∧
      (∀ rules, lastOf name (generator.compiled (generator.turns calls start)) = some rules →
        ∃ bytes, Storable.toBytes rules = .ok bytes ∧
          (generator.finish calls start).world.files.read (generator.store.compiledPath name) =
            .ok bytes) ∧
      (lastOf name (generator.compiled (generator.turns calls start)) = none →
        (generator.finish calls start).world.files.content?
            (home ++ [name ++ generator.store.compiledExtension]) =
          start.world.files.content? (home ++ [name ++ generator.store.compiledExtension])) := by
  constructor
  · intro turn member alone other usable'
    have before := (usable_turns regular usable calls).1 turn member
    exact answer_congr regular before usable' turn.call
  · intro name
    obtain ⟨sources, compiled⟩ := content?_finish regular usable calls name
    refine ⟨?_, ?_, ?_, ?_⟩
    · intro source last
      exact read_source regular usable calls last
    · intro last
      rw [sources, last]
      rfl
    · intro rules last
      exact read_compiled regular usable calls last
    · intro last
      rw [compiled, last]
      rfl

theorem run_isolated_sample :
    (∀ turn ∈ Sample.pickyGenerator.turns Sample.calls Sample.emptySession,
      (Sample.pickyGenerator.answer turn.call turn.before).1 =
        (Sample.pickyGenerator.answer turn.call Sample.emptySession).1) ∧
    (Sample.pickyGenerator.finish Sample.calls Sample.emptySession).world.files.read
      (Sample.pickyGenerator.store.sourcePath "a_b") = .ok (utf8 Sample.refused) ∧
    (Sample.pickyGenerator.finish Sample.calls Sample.emptySession).world.files.read
      (Sample.pickyGenerator.store.compiledPath "a_b") = .ok (RuleSet.toBytes ⟨[]⟩) := by
  have law := run_isolated Sample.regular_pickyGenerator Sample.usable_emptySession Sample.calls
  obtain ⟨last, last'⟩ := Sample.lastOf_calls
  refine ⟨fun turn member => law.1 turn member _ _ Sample.usable_emptySession, ?_, ?_⟩
  · exact (law.2 "a_b").1 _ last
  · obtain ⟨bytes, written, found⟩ := (law.2 "a_b").2.2.1 _ last'
    cases written
    exact found

end Generator
end RuleSmith
