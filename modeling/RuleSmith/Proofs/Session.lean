import Mathlib
import RuleSmith.Generator

/-!
# What jobs do to a session

Every task of a generator as an equation: its result, the world it leaves and what it adds to the
history, in terms of the engine's replies and of the operations of the store.
-/

namespace RuleSmith
open Files Text

variable {σ ρ α β : Type}

/-! ## Scans that are never aborted -/

namespace Scan

def told : Scan σ → List Record
  | .finished _ => []
  | .found record resume => record :: (resume .proceed).told

def reply : Scan σ → Reply σ (Except Failure (List Record))
  | .finished reply => reply
  | .found _ resume => (resume .proceed).reply

theorem run_hear (scan : Scan σ) (listener : Listener) :
    scan.run Listener.hear listener =
      (scan.reply, ⟨listener.records ++ scan.told,
        listener.answers ++ List.replicate scan.told.length .proceed⟩) := by
  induction scan generalizing listener with
  | finished reply => simp [run, told, Scan.reply]
  | found record resume ih =>
    rw [run, ih]
    simp [Listener.hear, told, Scan.reply, List.replicate_succ]

@[simp] theorem told_ofRecords (world : World σ) (kept records : List Record) :
    (Scan.ofRecords world kept records).told = records := by
  induction records generalizing kept with
  | nil => rfl
  | cons record others ih => simp [ofRecords, told, ih]

@[simp] theorem reply_ofRecords (world : World σ) (kept records : List Record) :
    (Scan.ofRecords world kept records).reply =
      ⟨.ok (kept ++ records.filter (·.applies)), world, []⟩ := by
  induction records generalizing kept with
  | nil => simp [ofRecords, Scan.reply]
  | cons record others ih =>
    simp only [ofRecords, Scan.reply, ih, List.filter_cons]
    split <;> simp

end Scan

/-- Whether the answers of an engine come from nothing but its arguments and the bytes of the file that
it scans, and it changes no file. -/
structure Engine.Functional (engine : Engine σ ρ) : Prop where
  compile : ∀ source options world other,
    (engine.compile source options world).value = (engine.compile source options other).value
  scan : ∀ rules path world other, world.files.read path = other.files.read path →
    (engine.scan rules path world).told = (engine.scan rules path other).told ∧
      (engine.scan rules path world).reply.value = (engine.scan rules path other).reply.value
  files_compile : ∀ source options world,
    (engine.compile source options world).world.files = world.files
  files_scan : ∀ rules path world, (engine.scan rules path world).reply.world.files = world.files

structure Engine.KeepsFiles (engine : Engine σ ρ) : Prop where
  compile : ∀ source options world,
    (engine.compile source options world).world.files = world.files
  scan : ∀ rules path world, (engine.scan rules path world).reply.world.files = world.files

theorem Engine.Functional.keepsFiles {engine : Engine σ ρ} (h : engine.Functional) :
    engine.KeepsFiles := ⟨h.files_compile, h.files_scan⟩

def Activity.isQuestion : Activity → Bool
  | .compiled .. | .scanned .. => true
  | .answered .. | .logged .. => false

theorem filter_logged {keep : Activity → Bool} (silent : ∀ event, keep (.logged event) = false)
    (events : List Event) : (events.map Activity.logged).filter keep = [] := by
  rw [List.filter_eq_nil_iff]
  intro activity member
  obtain ⟨event, -, rfl⟩ := List.mem_map.mp member
  simp [silent]

theorem filter_isQuestion_logged (events : List Event) :
    (events.map Activity.logged).filter Activity.isQuestion = [] :=
  filter_logged (fun _ => rfl) events

/-! ## Sessions -/

namespace Session

def withFiles (session : Session σ) (files : FileTree) : Session σ :=
  { session with world := { session.world with files } }

def enter (session : Session σ) (world : World σ) (activities : List Activity) : Session σ :=
  ⟨world, session.history ++ activities⟩

def logging (session : Session σ) (events : List Event) : Session σ :=
  session.enter session.world (events.map .logged)

@[simp] theorem files_withFiles (session : Session σ) (files : FileTree) :
    (session.withFiles files).world.files = files := rfl

@[simp] theorem world_enter (session : Session σ) (world : World σ) (activities : List Activity) :
    (session.enter world activities).world = world := rfl

@[simp] theorem world_logging (session : Session σ) (events : List Event) :
    (session.logging events).world = session.world := rfl

@[simp] theorem logging_nil (session : Session σ) : session.logging [] = session := by
  simp [logging, enter]

theorem logging_logging (session : Session σ) (first second : List Event) :
    (session.logging first).logging second = session.logging (first ++ second) := by
  simp [logging, enter]

def asked (session : Session σ) : List Activity := session.history.filter Activity.isQuestion

@[simp] theorem asked_withFiles (session : Session σ) (files : FileTree) :
    (session.withFiles files).asked = session.asked := rfl

@[simp] theorem asked_enter (session : Session σ) (world : World σ) (activities : List Activity) :
    (session.enter world activities).asked =
      session.asked ++ activities.filter Activity.isQuestion := by
  simp [asked, enter]

@[simp] theorem asked_logging (session : Session σ) (events : List Event) :
    (session.logging events).asked = session.asked := by
  simp [logging, filter_isQuestion_logged]

end Session

/-! ## Jobs -/

namespace Job

@[simp] theorem start_pure (value : α) (session : Session σ) :
    (pure value : Job σ α).start session = (.ok value, session) := rfl

@[simp] theorem start_throw (failure : Failure) (session : Session σ) :
    (throw failure : Job σ α).start session = (.error failure, session) := rfl

@[simp] theorem start_get (session : Session σ) :
    (get : Job σ (Session σ)).start session = (.ok session, session) := rfl

@[simp] theorem start_set (session later : Session σ) :
    (set later : Job σ PUnit).start session = (.ok ⟨⟩, later) := rfl

@[simp] theorem start_modify (change : Session σ → Session σ) (session : Session σ) :
    (modify change : Job σ PUnit).start session = (.ok ⟨⟩, change session) := rfl

theorem start_bind (job : Job σ α) (next : α → Job σ β) (session : Session σ) :
    (job >>= next).start session =
      match job.start session with
      | (.ok value, later) => (next value).start later
      | (.error failure, later) => (.error failure, later) := by
  simp only [start, bind, ExceptT.bind, ExceptT.run, ExceptT.mk, StateT.bind, ExceptT.bindCont]
  rcases job session with ⟨_ | _, later⟩ <;> rfl

theorem start_tryCatch (job : Job σ α) (handler : Failure → Job σ α) (session : Session σ) :
    (tryCatch job handler : Job σ α).start session =
      match job.start session with
      | (.ok value, later) => (.ok value, later)
      | (.error failure, later) => (handler failure).start later := by
  simp only [start, tryCatch, tryCatchThe, MonadExceptOf.tryCatch, ExceptT.tryCatch, ExceptT.run,
    ExceptT.mk, bind, StateT.bind]
  rcases job session with ⟨_ | _, later⟩ <;> rfl

@[simp] theorem start_record (activity : Activity) (session : Session σ) :
    (record activity).start session = (.ok (), session.enter session.world [activity]) := rfl

@[simp] theorem start_log (event : Event) (session : Session σ) :
    (log event).start session = (.ok (), session.logging [event]) := rfl

@[simp] theorem start_liftExcept (result : Except Failure α) (session : Session σ) :
    (onFiles.liftExcept result : Job σ α).start session = (result, session) := by
  cases result <;> rfl

@[simp] theorem start_onFiles (work : FileTree → Except Failure α × FileTree)
    (session : Session σ) :
    (onFiles work).start session =
      ((work session.world.files).1, session.withFiles (work session.world.files).2) := by
  simp [onFiles, start_bind, Session.withFiles]

@[simp] theorem start_lookAt (look : FileTree → Except Failure α) (session : Session σ) :
    (lookAt look).start session = (look session.world.files, session) := by
  simp [lookAt, Session.withFiles]

@[simp] theorem start_settle (reply : Reply σ (Except Failure α)) (session : Session σ) :
    (settle reply).start session =
      (reply.value, session.enter reply.world (reply.events.map .logged)) := by
  simp [settle, start_bind, Session.enter]

theorem start_onFailure {job : Job σ α} {report : Failure → Job σ Unit}
    (events : Failure → List Event)
    (reports : ∀ failure session,
      (report failure).start session = (.ok (), session.logging (events failure)))
    (session : Session σ) :
    (job.onFailure report).start session =
      match job.start session with
      | (.ok value, later) => (.ok value, later)
      | (.error failure, later) => (.error failure, later.logging (events failure)) := by
  rw [onFailure, start_tryCatch]
  rcases job.start session with ⟨failure | value, later⟩
  · simp only [start_bind, reports, start_throw]
  · rfl

end Job

/-! ## The tasks of a generator -/

def Request.source (request : Request) : Source :=
  request.toSource (Identifier.sanitize request.rule)

def Request.rendered (request : Request) : RenderedRule :=
  ⟨Identifier.sanitize request.rule, request.source.render⟩

namespace Generator
open Job

variable (generator : Generator σ ρ)

theorem start_render (request : Request) (session : Session σ) :
    (render request : Job σ RenderedRule).start session =
      let name := Identifier.sanitize request.rule
      if Identifier.isBlankName name then
        (.error (.invalid (.blankRule request.rule)), session.logging [.blankName request])
      else
        (.ok ⟨name, (request.toSource name).render⟩,
          session.logging (if Identifier.exceedsLimit name then [.overlongName name] else [])) := by
  unfold render
  simp only
  split
  · rfl
  · split <;> simp only [start_bind, start_log, start_pure, Session.logging_nil]

theorem start_render_of_blank {request : Request}
    (blank : Identifier.isBlankName request.rendered.name = true) (session : Session σ) :
    (render request : Job σ RenderedRule).start session =
      (.error (.invalid (.blankRule request.rule)), session.logging [.blankName request]) := by
  rw [start_render]
  exact if_pos blank

theorem start_render_of_named {request : Request}
    (named : Identifier.isBlankName request.rendered.name = false) (session : Session σ) :
    (render request : Job σ RenderedRule).start session =
      (.ok request.rendered, session.logging
        (if Identifier.exceedsLimit request.rendered.name then [.overlongName request.rendered.name]
          else [])) := by
  rw [start_render]
  exact if_neg (by rw [← Bool.not_eq_true] at named; exact named)

def afterCompile (source : String) (options : CompileOptions) (session : Session σ) : Session σ :=
  let reply := generator.engine.compile source options session.world
  session.enter reply.world (.compiled source options :: reply.events.map .logged)

@[simp] theorem asked_afterCompile (source : String) (options : CompileOptions)
    (session : Session σ) :
    (generator.afterCompile source options session).asked =
      session.asked ++ [.compiled source options] := by
  rw [afterCompile, Session.asked_enter, List.filter_cons_of_pos rfl, filter_isQuestion_logged]

theorem start_compile (source : String) (options : CompileOptions) (session : Session σ) :
    (generator.compile source options).start session =
      ((generator.engine.compile source options session.world).value,
        generator.afterCompile source options session) := by
  simp [compile, start_bind, afterCompile, Session.enter]

def afterScan (rules : ρ) (path : String) (session : Session σ) : Session σ :=
  let scan := generator.engine.scan rules path session.world
  session.enter scan.reply.world (.scanned path :: List.replicate scan.told.length (.answered .proceed)
    ++ scan.reply.events.map .logged)

@[simp] theorem asked_afterScan (rules : ρ) (path : String) (session : Session σ) :
    (generator.afterScan rules path session).asked = session.asked ++ [.scanned path] := by
  rw [afterScan, Session.asked_enter, List.cons_append, List.filter_cons_of_pos rfl,
    List.filter_append, filter_isQuestion_logged]
  simp [Activity.isQuestion]

theorem start_scan (rules : ρ) (path : String) (session : Session σ) :
    (generator.scan rules path).start session =
      ((generator.engine.scan rules path session.world).reply.value.map fun _ =>
          (generator.engine.scan rules path session.world).told,
        generator.afterScan rules path session) := by
  simp only [scan, start_bind, start_record, start_get, start_modify, start_settle, Scan.run_hear,
    Session.world_enter]
  rcases (generator.engine.scan rules path session.world).reply.value with _ | _ <;>
    simp [afterScan, Session.enter, Except.map]

def optionsWith (errorOnWarning : Bool) : CompileOptions := { generator.options with errorOnWarning }

theorem start_compileRequest (request : Request) (rendered : RenderedRule) (errorOnWarning : Bool)
    (session : Session σ) :
    (generator.compileRequest request rendered errorOnWarning).start session =
      let options := generator.optionsWith errorOnWarning
      ((generator.engine.compile rendered.source options session.world).value.mapError
          fun failure => failure.about rendered.name request,
        generator.afterCompile rendered.source options session) := by
  simp only [compileRequest, start_tryCatch, start_compile, optionsWith]
  cases (generator.engine.compile rendered.source _ session.world).value <;> rfl

theorem keeps_afterCompile {generator : Generator σ ρ}
    (keeps : generator.engine.KeepsFiles) (source : String)
    (options : CompileOptions) (session : Session σ) :
    (generator.afterCompile source options session).world.files = session.world.files :=
  keeps.compile _ _ _

theorem files_afterCompile {generator : Generator σ ρ}
    (functional : generator.engine.Functional) (source : String)
    (options : CompileOptions) (session : Session σ) :
    (generator.afterCompile source options session).world.files = session.world.files :=
  keeps_afterCompile functional.keepsFiles source options session

variable [Storable ρ]

def rulesOf (files : FileTree) : Compiled ρ → Except Failure ρ
  | .inMemory rules _ => .ok rules
  | .stored name => generator.store.loadCompiled name ρ files

theorem start_load (compiled : Compiled ρ) (session : Session σ) :
    (generator.load compiled).start session =
      match generator.rulesOf session.world.files compiled with
      | .ok rules => (.ok rules, session)
      | .error failure => (.error failure, session.logging [.loadFailed compiled.name failure]) := by
  cases compiled with
  | inMemory rules name => rfl
  | stored name =>
    rw [load, start_onFailure (fun failure => [.loadFailed name failure])
      fun _ _ => start_log _ _, start_lookAt]
    simp only [rulesOf, Compiled.name]
    cases generator.store.loadCompiled name ρ session.world.files <;> rfl

def verdict (name path condition : String) : List Record → Except (Event × Failure) Record
  | [] => .error (.noRecord name path, .noRecord name path)
  | [record] =>
    let missing := Reference.missing condition record.strings
    if missing.isEmpty then .ok (record.withCondition condition)
    else .error (.missingPatterns name missing condition path, .incomplete record.rule missing)
  | first :: second :: others =>
    let count := (first :: second :: others).length
    .error (.severalRules name count, .severalRules name count)

theorem start_recoverRecord (compiled : Compiled ρ) (condition : String) (session : Session σ) :
    (generator.recoverRecord compiled condition).start session =
      match generator.rulesOf session.world.files compiled with
      | .error failure => (.error failure, session.logging [.loadFailed compiled.name failure])
      | .ok rules =>
        let path := generator.store.sourcePath compiled.name
        let scan := generator.engine.scan rules path session.world
        let later := generator.afterScan rules path session
        match scan.reply.value with
        | .error failure => (.error failure, later.logging [.scanFailed path failure])
        | .ok _ =>
          match verdict compiled.name path condition scan.told with
          | .error (event, failure) => (.error failure, later.logging [event])
          | .ok record => (.ok record, later) := by
  simp only [recoverRecord, start_bind, start_load]
  cases generator.rulesOf session.world.files compiled with
  | error failure => rfl
  | ok rules =>
    simp only
    rw [start_onFailure (fun failure =>
      [.scanFailed (generator.store.sourcePath compiled.name) failure])
      fun _ _ => start_log _ _, start_scan]
    generalize generator.engine.scan rules (generator.store.sourcePath compiled.name) session.world
      = scan
    cases scan.reply.value with
    | error failure => rfl
    | ok _ =>
      simp only [Except.map]
      rcases scan.told with _ | ⟨record, _ | ⟨second, others⟩⟩
      · rfl
      · simp only [onlyRecord, start_pure, verdict]
        split <;> rfl
      · rfl

section Verdict

variable {name path condition : String} {records : List Record}

theorem verdict_ok {recovered : Record}
    (judged : verdict name path condition records = .ok recovered) :
    ∃ record, records = [record] ∧
      (Reference.missing condition record.strings).isEmpty = true ∧
      recovered = record.withCondition condition := by
  unfold verdict at judged
  split at judged
  · cases judged
  · rename_i record
    simp only at judged
    split at judged <;> cases judged
    exact ⟨record, rfl, ‹_›, rfl⟩
  · cases judged

theorem verdict_error {event : Event} {failure : Failure}
    (judged : verdict name path condition records = .error (event, failure)) :
    (event = .noRecord name path ∧ failure = .noRecord name path) ∨
      (∃ (record : Record) (missing : List String),
        event = .missingPatterns name missing condition path ∧
          failure = .incomplete record.rule missing) ∨
      ∃ count, event = .severalRules name count ∧ failure = .severalRules name count := by
  unfold verdict at judged
  split at judged
  · cases judged
    exact .inl ⟨rfl, rfl⟩
  · rename_i record
    simp only at judged
    split at judged <;> cases judged
    exact .inr (.inl ⟨record, _, rfl, rfl⟩)
  · cases judged
    exact .inr (.inr ⟨_, rfl, rfl⟩)

end Verdict

inductive Recovers (generator : Generator σ ρ) (compiled : Compiled ρ) (condition : String)
    (session : Session σ) : Except Failure Record → Session σ → Prop
  | unloaded {failure : Failure}
      (loaded : generator.rulesOf session.world.files compiled = .error failure) :
      Recovers generator compiled condition session (.error failure)
        (session.logging [.loadFailed compiled.name failure])
  | unscanned {rules : ρ} {failure : Failure}
      (loaded : generator.rulesOf session.world.files compiled = .ok rules)
      (scanned : (generator.engine.scan rules (generator.store.sourcePath compiled.name)
        session.world).reply.value = .error failure) :
      Recovers generator compiled condition session (.error failure)
        ((generator.afterScan rules (generator.store.sourcePath compiled.name) session).logging
          [.scanFailed (generator.store.sourcePath compiled.name) failure])
  | refused {rules : ρ} {applying : List Record} {event : Event} {failure : Failure}
      (loaded : generator.rulesOf session.world.files compiled = .ok rules)
      (scanned : (generator.engine.scan rules (generator.store.sourcePath compiled.name)
        session.world).reply.value = .ok applying)
      (judged : verdict compiled.name (generator.store.sourcePath compiled.name) condition
        (generator.engine.scan rules (generator.store.sourcePath compiled.name) session.world).told =
          .error (event, failure)) :
      Recovers generator compiled condition session (.error failure)
        ((generator.afterScan rules (generator.store.sourcePath compiled.name) session).logging
          [event])
  | recovered {rules : ρ} {applying : List Record} {record : Record}
      (loaded : generator.rulesOf session.world.files compiled = .ok rules)
      (scanned : (generator.engine.scan rules (generator.store.sourcePath compiled.name)
        session.world).reply.value = .ok applying)
      (judged : verdict compiled.name (generator.store.sourcePath compiled.name) condition
        (generator.engine.scan rules (generator.store.sourcePath compiled.name) session.world).told =
          .ok record) :
      Recovers generator compiled condition session (.ok record)
        (generator.afterScan rules (generator.store.sourcePath compiled.name) session)

theorem recovers_of_start {compiled : Compiled ρ} {condition : String} {session later : Session σ}
    {result : Except Failure Record}
    (ran : (generator.recoverRecord compiled condition).start session = (result, later)) :
    Recovers generator compiled condition session result later := by
  rw [start_recoverRecord] at ran
  split at ran
  · cases ran
    exact .unloaded ‹_›
  · simp only at ran
    split at ran
    · cases ran
      exact .unscanned ‹_› ‹_›
    · split at ran <;> cases ran
      · exact .refused ‹_› ‹_› ‹_›
      · exact .recovered ‹_› ‹_› ‹_›

theorem start_recoverSource (compiled : Compiled ρ) (condition : String) (session : Session σ) :
    (generator.recoverSource compiled condition).start session =
      match (generator.recoverRecord compiled condition).start session with
      | (.ok record, later) => (.ok record.toSource.render, later)
      | (.error failure, later) => (.error failure, later) := by
  rw [recoverSource, start_bind]
  rcases (generator.recoverRecord compiled condition).start session with ⟨_ | _, later⟩ <;> rfl

theorem start_produce (request : Request) (rendered : RenderedRule) (errorOnWarning : Bool)
    (session : Session σ) :
    (generator.produce request rendered errorOnWarning).start session =
      let saved := generator.store.saveSource rendered.name (utf8 rendered.source) session.world.files
      match saved.1 with
      | .error failure => (.error failure, session.withFiles saved.2)
      | .ok _ =>
        let options := generator.optionsWith errorOnWarning
        let session := session.withFiles saved.2
        let later := generator.afterCompile rendered.source options session
        match (generator.engine.compile rendered.source options session.world).value with
        | .error failure => (.error (failure.about rendered.name request), later)
        | .ok rules =>
          let saved := generator.store.saveCompiled rendered.name rules later.world.files
          match saved.1 with
          | .error failure => (.error failure, later.withFiles saved.2)
          | .ok _ =>
            (generator.recoverSource (.stored rendered.name) request.condition).start
              (later.withFiles saved.2) := by
  simp only [produce, start_bind, start_onFiles, start_compileRequest]
  rcases generator.store.saveSource rendered.name (utf8 rendered.source) session.world.files
    with ⟨failure | path, files⟩
  · rfl
  · simp only
    cases (generator.engine.compile rendered.source (generator.optionsWith errorOnWarning)
      (session.withFiles files).world).value with
    | error failure => rfl
    | ok rules =>
      simp only [Except.mapError]
      rcases generator.store.saveCompiled rendered.name rules
        (generator.afterCompile rendered.source (generator.optionsWith errorOnWarning)
          (session.withFiles files)).world.files with ⟨failure | path, files⟩ <;> rfl

def failureReport (request : Request) (rendered : RenderedRule) (failure : Failure) : List Event :=
  [.failed rendered.name failure, .failedSource rendered.source, .failedRequest request]

theorem start_generateWith (request : Request) (errorOnWarning : Bool) (session : Session σ) :
    (generator.generateWith request errorOnWarning).start session =
      match (render request : Job σ RenderedRule).start session with
      | (.error failure, later) => (.error failure, later)
      | (.ok rendered, later) =>
        match (generator.produce request rendered errorOnWarning).start later with
        | (.error failure, last) =>
          (.error failure, last.logging (failureReport request rendered failure))
        | (.ok recovered, last) => (.ok recovered, last.logging [.stored rendered.name recovered]) := by
  rw [generateWith, start_bind]
  rcases (render request : Job σ RenderedRule).start session with ⟨failure | rendered, later⟩
  · rfl
  simp only [start_bind]
  rw [start_onFailure (failureReport request rendered)]
  · rcases (generator.produce request rendered errorOnWarning).start later with ⟨_ | recovered, last⟩
    · rfl
    · simp
  · intro failure session
    simp [start_bind, Session.logging_logging, failureReport]

/-! ## Where sessions end -/

variable {generator : Generator σ ρ}

theorem last_recoverRecord {compiled : Compiled ρ} {rules : ρ} {session : Session σ}
    (loaded : generator.rulesOf session.world.files compiled = .ok rules) (condition : String) :
    ∃ events, ((generator.recoverRecord compiled condition).start session).2 =
      (generator.afterScan rules (generator.store.sourcePath compiled.name) session).logging
        events := by
  rw [start_recoverRecord, loaded]
  simp only
  split
  · exact ⟨_, rfl⟩
  · split
    · exact ⟨_, rfl⟩
    · exact ⟨[], (Session.logging_nil _).symm⟩

theorem later_recoverSource (compiled : Compiled ρ) (condition : String) (session : Session σ) :
    ((generator.recoverSource compiled condition).start session).2 =
      ((generator.recoverRecord compiled condition).start session).2 := by
  rw [start_recoverSource]
  split <;> rename_i eq <;> rw [eq]

theorem last_recoverSource {compiled : Compiled ρ} {rules : ρ} {session : Session σ}
    (loaded : generator.rulesOf session.world.files compiled = .ok rules) (condition : String) :
    ∃ events, ((generator.recoverSource compiled condition).start session).2 =
      (generator.afterScan rules (generator.store.sourcePath compiled.name) session).logging
        events := by
  rw [later_recoverSource]
  exact last_recoverRecord loaded condition

theorem asked_recoverSource (compiled : Compiled ρ) (condition : String) (session : Session σ) :
    ((generator.recoverSource compiled condition).start session).2.asked = session.asked ++
      match generator.rulesOf session.world.files compiled with
      | .ok _ => [.scanned (generator.store.sourcePath compiled.name)]
      | .error _ => [] := by
  cases loaded : generator.rulesOf session.world.files compiled with
  | error failure =>
    rw [later_recoverSource, start_recoverRecord, loaded, Session.asked_logging, List.append_nil]
  | ok rules =>
    obtain ⟨events, last⟩ := last_recoverSource loaded condition
    rw [last, Session.asked_logging, asked_afterScan]

theorem start_generateWith_of_named (generator : Generator σ ρ) {request : Request}
    (named : Identifier.isBlankName request.rendered.name = false) (errorOnWarning : Bool)
    (session : Session σ) :
    ∃ before after, (generator.generateWith request errorOnWarning).start session =
      (((generator.produce request request.rendered errorOnWarning).start
        (session.logging before)).1,
      ((generator.produce request request.rendered errorOnWarning).start
        (session.logging before)).2.logging after) := by
  rw [start_generateWith, start_render_of_named named]
  simp only
  split <;> rename_i eq <;> exact ⟨_, _, by rw [eq]⟩

theorem keeps_recoverRecord (keeps : generator.engine.KeepsFiles) (compiled : Compiled ρ)
    (condition : String) (session : Session σ) :
    ((generator.recoverRecord compiled condition).start session).2.world.files =
      session.world.files := by
  obtain ⟨result, later, ran⟩ : ∃ result later,
      (generator.recoverRecord compiled condition).start session = (result, later) := ⟨_, _, rfl⟩
  rw [ran]
  cases generator.recovers_of_start ran with
  | unloaded => rfl
  | unscanned | refused | recovered => exact keeps.scan _ _ session.world

theorem keeps_recoverSource (keeps : generator.engine.KeepsFiles) (compiled : Compiled ρ)
    (condition : String) (session : Session σ) :
    ((generator.recoverSource compiled condition).start session).2.world.files =
      session.world.files := by
  rw [later_recoverSource]
  exact keeps_recoverRecord keeps compiled condition session

theorem files_recoverSource (functional : generator.engine.Functional) (compiled : Compiled ρ)
    (condition : String) (session : Session σ) :
    ((generator.recoverSource compiled condition).start session).2.world.files =
      session.world.files :=
  keeps_recoverSource functional.keepsFiles compiled condition session

end Generator
end RuleSmith
