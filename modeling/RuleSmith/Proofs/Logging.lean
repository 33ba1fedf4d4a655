import RuleSmith.Proofs.Cause

namespace RuleSmith
open Files Text

variable {σ ρ : Type}

structure Engine.Silent (engine : Engine σ ρ) : Prop where
  compile : ∀ source options world, (engine.compile source options world).events = []
  scan : ∀ rules path world, (engine.scan rules path world).reply.events = []

/-! ## Events -/

def Activity.event? : Activity → Option Event
  | .logged event => some event
  | .compiled .. | .scanned .. | .answered .. => none

def Event.ofLevel (level : Level) (events : List Event) : List Event :=
  events.filter fun event => event.level = level

@[simp] theorem Event.ofLevel_append (level : Level) (first second : List Event) :
    ofLevel level (first ++ second) = ofLevel level first ++ ofLevel level second :=
  List.filter_append ..

theorem Event.ofLevel_same {level : Level} {events : List Event}
    (all : ∀ event ∈ events, event.level = level) : ofLevel level events = events :=
  List.filter_eq_self.mpr fun event member => decide_eq_true (all event member)

theorem Event.ofLevel_other (level : Level) {other : Level} {events : List Event}
    (all : ∀ event ∈ events, event.level = other) (differ : other ≠ level) :
    ofLevel level events = [] := by
  apply List.filter_eq_nil_iff.mpr
  intro event member
  rw [all event member]
  simpa using differ

namespace Session

def events (session : Session σ) : List Event := session.history.filterMap Activity.event?

theorem filterMap_logged (events : List Event) :
    (events.map Activity.logged).filterMap Activity.event? = events := by
  rw [List.filterMap_map]
  exact List.filterMap_some

@[simp] theorem events_withFiles (session : Session σ) (files : FileTree) :
    (session.withFiles files).events = session.events := rfl

theorem events_enter (session : Session σ) (world : World σ) (activities : List Activity) :
    (session.enter world activities).events =
      session.events ++ activities.filterMap Activity.event? := by
  rw [events, enter, List.filterMap_append]
  rfl

@[simp] theorem events_logging (session : Session σ) (events : List Event) :
    (session.logging events).events = session.events ++ events := by
  rw [logging, events_enter, filterMap_logged]

end Session

def Request.cautions (request : Request) : List Event :=
  if Identifier.exceedsLimit request.rendered.name then [.overlongName request.rendered.name] else []

theorem Request.level_cautions (request : Request) :
    ∀ event ∈ request.cautions, event.level = .warn := by
  intro event member
  rw [cautions] at member
  split at member
  · rw [List.mem_singleton.mp member]
    rfl
  · cases member

namespace Generator
open Job Store

theorem level_failureReport (request : Request) (rendered : RenderedRule) (failure : Failure) :
    ∀ event ∈ failureReport request rendered failure, event.level = .error := by
  simp [failureReport, Event.level]

variable {generator : Generator σ ρ} {request : Request} {errorOnWarning : Bool}
  {session later : Session σ} {rule : RenderedRule} {step : Step} {cause : Failure}
  {name path condition : String}

theorem events_afterCompile (silent : generator.engine.Silent) (source : String)
    (options : CompileOptions) (session : Session σ) :
    (generator.afterCompile source options session).events = session.events := by
  rw [afterCompile, Session.events_enter, silent.compile]
  exact List.append_nil _

theorem events_afterScan (silent : generator.engine.Silent) (rules : ρ) (path : String)
    (session : Session σ) : (generator.afterScan rules path session).events = session.events := by
  rw [afterScan, Session.events_enter, silent.scan]
  simp [Activity.event?]

theorem events_render_ok {start : Session σ}
    (rendered : (render request : Job σ RenderedRule).start session = (.ok rule, start)) :
    start.events = session.events ++ request.cautions := by
  obtain ⟨named, -⟩ := render_ok_iff.mp (congrArg Prod.fst rendered)
  rw [start_render_of_named named] at rendered
  cases rendered
  exact Session.events_logging session request.cautions

theorem events_render_error
    (refused : (render request : Job σ RenderedRule).start session = (.error cause, later)) :
    later.events = session.events ++ [.blankName request] := by
  obtain ⟨blank, rfl⟩ := render_error_iff.mp (congrArg Prod.fst refused)
  rw [start_render_of_blank ((Identifier.isBlankName_sanitize request.rule).trans blank)] at refused
  cases refused
  exact Session.events_logging session _

variable [Storable ρ]

theorem Reaches.events (silent : generator.engine.Silent) {rules : ρ} {before : Session σ}
    (reaches : generator.Reaches request errorOnWarning session rule rules before) :
    before.events = session.events ++ request.cautions := by
  cases reaches with
  | intro rendered saved compiled stored =>
    rw [Session.events_withFiles, events_afterCompile silent, Session.events_withFiles]
    exact events_render_ok rendered

/-! ## Recoveries -/

theorem level_verdict {records : List Record} {event : Event}
    (judged : verdict name path condition records = .error (event, cause)) :
    event.level = .error := by
  obtain ⟨rfl, -⟩ | ⟨record, missing, rfl, -⟩ | ⟨count, rfl, -⟩ := verdict_error judged
  · rfl
  · rfl
  · rfl

theorem events_recoverRecord (silent : generator.engine.Silent) (compiled : Compiled ρ)
    (condition : String) (session : Session σ) :
    let run := (generator.recoverRecord compiled condition).start session
    (∀ record, run.1 = .ok record → run.2.events = session.events) ∧
    ∀ failure, run.1 = .error failure →
      ∃ event, event.level = .error ∧ run.2.events = session.events ++ [event] := by
  obtain ⟨result, later, ran⟩ : ∃ result later,
      (generator.recoverRecord compiled condition).start session = (result, later) := ⟨_, _, rfl⟩
  simp only [ran]
  cases generator.recovers_of_start ran with
  | unloaded loaded =>
    exact ⟨nofun, fun _ _ => ⟨.loadFailed _ _, rfl, Session.events_logging session _⟩⟩
  | unscanned loaded scanned =>
    refine ⟨nofun, fun _ _ => ⟨_, ?_, by rw [Session.events_logging, events_afterScan silent]⟩⟩
    rfl
  | refused loaded scanned judged =>
    refine ⟨nofun, fun _ _ => ⟨_, level_verdict judged, ?_⟩⟩
    rw [Session.events_logging, events_afterScan silent]
  | recovered loaded scanned judged => exact ⟨fun _ _ => events_afterScan silent _ _ _, nofun⟩

theorem events_recoverSource_ok (silent : generator.engine.Silent) {compiled : Compiled ρ}
    {out : String}
    (recovered : (generator.recoverSource compiled condition).start session = (.ok out, later)) :
    later.events = session.events := by
  rw [start_recoverSource] at recovered
  split at recovered <;> rename_i found <;> cases recovered
  have quiet := (events_recoverRecord silent compiled condition session).1
  rw [found] at quiet
  exact quiet _ rfl

theorem events_recoverSource_error (silent : generator.engine.Silent) {compiled : Compiled ρ}
    (failed : (generator.recoverSource compiled condition).start session = (.error cause, later)) :
    ∃ event, event.level = .error ∧ later.events = session.events ++ [event] := by
  rw [start_recoverSource] at failed
  split at failed <;> rename_i found <;> cases failed
  have reports := (events_recoverRecord silent compiled condition session).2
  rw [found] at reports
  exact reports _ rfl

/-! ## Generations -/

theorem events_generateWith_ok (silent : generator.engine.Silent) {out : String} {last : Session σ}
    (generated : (generator.generateWith request errorOnWarning).start session = (.ok out, last)) :
    last.events = session.events ++ (request.cautions ++ [.stored request.rendered.name out]) := by
  obtain ⟨rule, rules, before, later, reaches, recovered, rfl⟩ := generateWith_ok_iff.mp generated
  obtain rfl := reaches.rendered_eq
  rw [Session.events_logging, events_recoverSource_ok silent recovered, reaches.events silent,
    List.append_assoc]

theorem FailsAt.events (silent : generator.engine.Silent)
    (fails : generator.FailsAt request errorOnWarning session step cause later)
    (named : step ≠ .naming) :
    ∃ further, later.events = session.events ++ request.cautions ++ further ∧
      (∀ event ∈ further, event.level = .error) ∧
      further.length = if step = .recovering then 1 else 0 := by
  cases fails with
  | naming refused => exact absurd rfl named
  | saving rendered refused =>
    exact ⟨[], by simp [events_render_ok rendered], by simp, rfl⟩
  | compiling rendered saved refused =>
    exact ⟨[], by simp [events_afterCompile silent, events_render_ok rendered], by simp, rfl⟩
  | storing rendered saved compiled refused =>
    exact ⟨[], by simp [events_afterCompile silent, events_render_ok rendered], by simp, rfl⟩
  | recovering reaches refused =>
    obtain ⟨event, level, logged⟩ := events_recoverSource_error silent refused
    exact ⟨[event], by rw [logged, reaches.events silent], by simpa using level, rfl⟩

/-- The log of a generation. If it succeeds, a long name is warned of and at last the success is told.
If it fails, it fails at a step; nothing tells of a success then. A refused name is one error. Any other
failure ends in the three errors for the failure, the source and the request, with one more error before
them if and only if it is the recovery that failed. A recovery on its own logs one error if it fails
and no event otherwise. -/
theorem generateWith_logged (silent : generator.engine.Silent) :
    (∀ (request : Request) (errorOnWarning : Bool) (session : Session σ),
      let run := (generator.generateWith request errorOnWarning).start session
      (∀ out, run.1 = .ok out → ∃ added, run.2.events = session.events ++ added ∧
        added = request.cautions ++ [.stored request.rendered.name out] ∧
        Event.ofLevel .info added = [.stored request.rendered.name out] ∧
        Event.ofLevel .warn added = request.cautions ∧ Event.ofLevel .error added = []) ∧
      (∀ failure, run.1 = .error failure →
        ∃ step cause later, generator.FailsAt request errorOnWarning session step cause later) ∧
      ∀ step cause later, generator.FailsAt request errorOnWarning session step cause later →
        ∃ failure added, run.1 = .error failure ∧ run.2.events = session.events ++ added ∧
          Event.ofLevel .info added = [] ∧
          (step = .naming → Event.ofLevel .error added = [.blankName request]) ∧
          (step ≠ .naming → ∃ further, Event.ofLevel .error added = further ++
              [.failed request.rendered.name failure, .failedSource request.rendered.source,
                .failedRequest request] ∧
            further.length = if step = .recovering then 1 else 0)) ∧
    ∀ (compiled : Compiled ρ) (condition : String) (session : Session σ),
      let run := (generator.recoverRecord compiled condition).start session
      (∀ record, run.1 = .ok record → run.2.events = session.events) ∧
      ∀ failure, run.1 = .error failure →
        ∃ event, event.level = .error ∧ run.2.events = session.events ++ [event] := by
  refine ⟨fun request errorOnWarning session => ⟨?_, ?_, ?_⟩,
    fun compiled condition session => events_recoverRecord silent compiled condition session⟩
  · intro out generated
    refine ⟨_, events_generateWith_ok silent (eq_of_fst generated), rfl, ?_, ?_, ?_⟩
    · rw [Event.ofLevel_append, Event.ofLevel_other .info request.level_cautions nofun]
      rfl
    · rw [Event.ofLevel_append, Event.ofLevel_same request.level_cautions]
      exact List.append_nil _
    · rw [Event.ofLevel_append, Event.ofLevel_other .error request.level_cautions nofun]
      rfl
  · intro failure failed
    exact exists_failsAt failed
  · intro step cause later fails
    rw [fails.start_generateWith]
    -- A refused name is told before anything is logged of a rule.
    by_cases naming : step = .naming
    · subst naming
      cases fails with
      | naming refused =>
        refine ⟨_, [.blankName request], rfl, ?_, rfl, fun _ => rfl, fun named => absurd rfl named⟩
        simp [Step.report, events_render_error refused]
    · have report := level_failureReport request request.rendered (step.answer request cause)
      obtain ⟨further, logged, errors, length⟩ := fails.events silent naming
      refine ⟨step.answer request cause, request.cautions ++ (further ++
        failureReport request request.rendered (step.answer request cause)), rfl, ?_, ?_,
        fun named => absurd named naming, fun _ => ⟨further, ?_, length⟩⟩
      · rw [Session.events_logging, logged, Step.report_of_ne naming, List.append_assoc,
          List.append_assoc]
      · simp only [Event.ofLevel_append, Event.ofLevel_other .info request.level_cautions nofun,
          Event.ofLevel_other .info errors nofun, Event.ofLevel_other .info report nofun,
          List.append_nil]
      · simp only [Event.ofLevel_append, Event.ofLevel_other .error request.level_cautions nofun,
          Event.ofLevel_same errors, Event.ofLevel_same report, List.nil_append]
        rfl

theorem silent_scripted : Engine.scripted.Silent where
  compile _ _ _ := rfl
  scan rules path world := by
    simp only [Engine.scripted]
    split
    · rfl
    · rw [Scan.reply_ofRecords]

def Sample.unheard : Session Script := ⟨⟨.bare ["work"], {}⟩, []⟩

theorem Sample.silent_verbatim : Sample.verbatim.engine.Silent where
  compile _ _ _ := rfl
  scan _ _ _ := by
    simp only [verbatim]
    rw [Scan.reply_ofRecords]

theorem Sample.failsAt_unwritable : ∃ later, verbatim.FailsAt unwritable true emptySession .storing
    (.compiledFormat (.unwritable "unsupported")) later :=
  failsAt_storing keeps_verbatim (by decide +kernel) (eq_of_fst saved_unwritable) rfl
    (by decide +kernel)

theorem generateWith_logged_sample :
    let run session := (Sample.generator.generateWith Sample.request true).start session
    let unwritten := (Sample.verbatim.generateWith Sample.unwritable true).start Sample.emptySession
    Sample.generator.engine.Silent ∧
    Event.ofLevel .info (run Sample.session).2.events = [.stored "a_b" Sample.source] ∧
    Event.ofLevel .error (run Sample.session).2.events = [] ∧
    (∃ event failure, Event.ofLevel .error (run Sample.unheard).2.events =
      [event, .failed "a_b" failure, .failedSource Sample.source, .failedRequest Sample.request]) ∧
    ∃ failure, unwritten.1 = .error failure ∧ Event.ofLevel .info unwritten.2.events = [] ∧
      Event.ofLevel .error unwritten.2.events = [.failed Sample.unwritable.rendered.name failure,
        .failedSource Sample.unwritable.rendered.source, .failedRequest Sample.unwritable] := by
  dsimp only
  have silent : Sample.generator.engine.Silent := silent_scripted
  have rendered : Sample.request.rendered = ⟨"a_b", Sample.source⟩ := by decide +kernel
  obtain ⟨generations, -⟩ := generateWith_logged silent
  refine ⟨silent, ?_⟩
  obtain ⟨succeeds, -, -⟩ := generations Sample.request true Sample.session
  obtain ⟨added, logged, -, infos, -, errors⟩ := succeeds Sample.source (by decide +kernel)
  obtain ⟨-, -, reports⟩ := generations Sample.request true Sample.unheard
  have reaches : Sample.generator.Reaches Sample.request true Sample.unheard
      ⟨"a_b", Sample.source⟩ ⟨[]⟩ _ :=
    .intro (eq_of_fst (by decide +kernel))
      (eq_of_fst (by decide +kernel) : _ = (Except.ok "rules/a_b.yar", _)) (by decide +kernel)
      (eq_of_fst (by decide +kernel) : _ = (Except.ok "rules/a_b.bin", _))
  have fails : Sample.generator.FailsAt Sample.request true Sample.unheard .recovering
      (.noRecord "a_b" "rules/a_b.yar") _ :=
    .recovering reaches (eq_of_fst (by decide +kernel))
  obtain ⟨failure, added', -, logged', -, -, behind⟩ := reports _ _ _ fails
  obtain ⟨further, errors', length⟩ := behind nofun
  obtain ⟨event, rfl⟩ := List.length_eq_one_iff.mp length
  rw [rendered] at infos errors'
  rw [logged, logged']
  refine ⟨infos, errors, ⟨event, failure, errors'⟩, ?_⟩
  obtain ⟨later, unwritten⟩ := Sample.failsAt_unwritable
  obtain ⟨verbatim, -⟩ := generateWith_logged Sample.silent_verbatim
  obtain ⟨-, -, reported⟩ := verbatim Sample.unwritable true Sample.emptySession
  obtain ⟨failure, added, failed, logged, infos, -, behind⟩ := reported _ _ _ unwritten
  obtain ⟨further, errors, none⟩ := behind nofun
  rw [List.eq_nil_of_length_eq_zero none] at errors
  rw [logged]
  exact ⟨failure, failed, infos, errors⟩

end Generator
end RuleSmith
