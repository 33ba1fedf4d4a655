import RuleSmith.Proofs.Session

namespace RuleSmith
open Files

variable {σ ρ α β : Type}

def Scan.withNotes (notes : List Activity) : Scan σ → Scan (σ × List Activity)
  | .finished reply =>
    .finished ⟨reply.value, ⟨reply.world.files, (reply.world.memory, notes)⟩, reply.events⟩
  | .found record resume => .found record fun answer => (resume answer).withNotes notes

def Engine.noting (engine : Engine σ ρ) : Engine (σ × List Activity) ρ where
  compile source options world :=
    let reply := engine.compile source options ⟨world.files, world.memory.1⟩
    let notes := world.memory.2 ++ [.compiled source options]
    ⟨reply.value, ⟨reply.world.files, (reply.world.memory, notes)⟩, reply.events⟩
  scan rules path world :=
    (engine.scan rules path ⟨world.files, world.memory.1⟩).withNotes
      (world.memory.2 ++ [.scanned path])

def Session.noted (session : Session σ) : Session (σ × List Activity) :=
  ⟨⟨session.world.files, (session.world.memory, session.asked)⟩, session.history⟩

theorem Session.noted_logging (session : Session σ) (events : List Event) :
    (session.logging events).noted = session.noted.logging events := by
  rw [noted, asked_logging]
  rfl

theorem Scan.told_withNotes (scan : Scan σ) (notes : List Activity) :
    (scan.withNotes notes).told = scan.told := by
  induction scan with
  | finished reply => rfl
  | found record resume ih => rw [withNotes, told, told, ih]

theorem Scan.reply_withNotes (scan : Scan σ) (notes : List Activity) :
    (scan.withNotes notes).reply = ⟨scan.reply.value,
      ⟨scan.reply.world.files, (scan.reply.world.memory, notes)⟩, scan.reply.events⟩ := by
  induction scan with
  | finished reply => rfl
  | found record resume ih => exact ih .proceed

namespace Generator
open Job

def noting (generator : Generator σ ρ) : Generator (σ × List Activity) ρ :=
  ⟨generator.store, generator.engine.noting, generator.options⟩

/-- Whether a job with an engine that notes its applications does what a job without the notes does,
and notes just the questions. -/
def Noted (job : Job σ α) (noting : Job (σ × List Activity) α) : Prop :=
  ∀ session, noting.start session.noted = ((job.start session).1, (job.start session).2.noted)

variable {job : Job σ α} {noting : Job (σ × List Activity) α}

theorem noted_pure (value : α) : Noted (pure value : Job σ α) (pure value) := fun _ => rfl

theorem noted_throw (failure : Failure) : Noted (throw failure : Job σ α) (throw failure) :=
  fun _ => rfl

theorem noted_log (event : Event) : Noted (log event : Job σ Unit) (log event) := fun session => by
  rw [start_log, start_log, Session.noted_logging]

theorem noted_onFiles (work : FileTree → Except Failure α × FileTree) :
    Noted (onFiles work : Job σ α) (onFiles work) := fun session => by
  rw [start_onFiles, start_onFiles]
  rfl

theorem Noted.bind {next : α → Job σ β} {next' : α → Job (σ × List Activity) β}
    (noted : Noted job noting) (nextNoted : ∀ value, Noted (next value) (next' value)) :
    Noted (job >>= next) (noting >>= next') := by
  intro session
  rw [start_bind, start_bind, noted session]
  rcases job.start session with ⟨failure | value, later⟩
  · rfl
  · exact nextNoted value later

theorem Noted.tryCatch {handler : Failure → Job σ α}
    {handler' : Failure → Job (σ × List Activity) α} (noted : Noted job noting)
    (handlerNoted : ∀ failure, Noted (handler failure) (handler' failure)) :
    Noted (MonadExcept.tryCatch job handler) (MonadExcept.tryCatch noting handler') := by
  intro session
  rw [start_tryCatch, start_tryCatch, noted session]
  rcases job.start session with ⟨failure | value, later⟩
  · exact handlerNoted failure later
  · rfl

theorem Noted.onFailure {report : Failure → Job σ Unit}
    {report' : Failure → Job (σ × List Activity) Unit} (noted : Noted job noting)
    (reportNoted : ∀ failure, Noted (report failure) (report' failure)) :
    Noted (job.onFailure report) (noting.onFailure report') :=
  noted.tryCatch fun failure => (reportNoted failure).bind fun _ => noted_throw failure

variable (generator : Generator σ ρ)

theorem noted_compile (source : String) (options : CompileOptions) :
    Noted (generator.compile source options) (generator.noting.compile source options) := by
  intro session
  simp only [start_compile, Session.noted, asked_afterCompile]
  rfl

theorem noted_scan (rules : ρ) (path : String) :
    Noted (generator.scan rules path) (generator.noting.scan rules path) := by
  intro session
  simp only [start_scan, Session.noted, asked_afterScan]
  simp only [Generator.noting, Engine.noting, afterScan, Session.enter, Scan.told_withNotes,
    Scan.reply_withNotes]

theorem noted_render (request : Request) :
    Noted (render request : Job σ RenderedRule) (render request) := by
  unfold render
  simp only
  split
  · exact (noted_log _).bind fun _ => noted_throw _
  · split
    · exact (noted_log _).bind fun _ => noted_pure _
    · exact noted_pure _

theorem noted_onlyRecord (name path : String) (records : List Record) :
    Noted (onlyRecord name path records : Job σ Record) (onlyRecord name path records) := by
  rcases records with _ | ⟨record, _ | ⟨second, others⟩⟩
  · exact (noted_log _).bind fun _ => noted_throw _
  · exact noted_pure record
  · exact (noted_log _).bind fun _ => noted_throw _

variable [Storable ρ]

theorem noted_load (compiled : Compiled ρ) :
    Noted (generator.load compiled) (generator.noting.load compiled) := by
  cases compiled with
  | inMemory rules name => exact noted_pure rules
  | stored name => exact (noted_onFiles _).onFailure fun _ => noted_log _

theorem noted_recoverRecord (compiled : Compiled ρ) (condition : String) :
    Noted (generator.recoverRecord compiled condition)
      (generator.noting.recoverRecord compiled condition) := by
  refine (noted_load generator compiled).bind fun rules => ?_
  refine ((noted_scan generator rules _).onFailure fun _ => noted_log _).bind fun records => ?_
  refine (noted_onlyRecord _ _ records).bind fun record => ?_
  simp only
  split
  · exact noted_pure _
  · exact (noted_log _).bind fun _ => noted_throw _

theorem noted_recoverSource (compiled : Compiled ρ) (condition : String) :
    Noted (generator.recoverSource compiled condition)
      (generator.noting.recoverSource compiled condition) :=
  (noted_recoverRecord generator compiled condition).bind fun _ => noted_pure _

theorem noted_produce (request : Request) (rendered : RenderedRule) (errorOnWarning : Bool) :
    Noted (generator.produce request rendered errorOnWarning)
      (generator.noting.produce request rendered errorOnWarning) := by
  refine (noted_onFiles _).bind fun _ => ?_
  refine ((noted_compile generator _ _).tryCatch fun _ => noted_throw _).bind fun rules => ?_
  exact (noted_onFiles _).bind fun _ => noted_recoverSource generator _ _

/-- With an engine that notes its applications, a generation answers and leaves the same, and what the
engine noted are the questions of the history. -/
theorem noted_generateWith (request : Request) (errorOnWarning : Bool) :
    Noted (generator.generateWith request errorOnWarning)
      (generator.noting.generateWith request errorOnWarning) := by
  refine (noted_render request).bind fun rendered => ?_
  refine ((noted_produce generator _ _ _).onFailure fun failure => ?_).bind fun recovered => ?_
  · exact (noted_log _).bind fun _ => (noted_log _).bind fun _ => noted_log _
  · exact (noted_log _).bind fun _ => noted_pure _

end Generator
end RuleSmith
