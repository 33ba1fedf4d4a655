import RuleSmith.Engine.Basic
import RuleSmith.Json.Printer
import RuleSmith.Rule.Rendering
import RuleSmith.Store

/-!
# Generating and recovering rules

A request is rendered, its source saved and compiled, the compiled rules saved, and the rule recovered
from them: they are run over the saved source, and the one record that this gives is rendered again
with the condition of the request. What happened on the way, every question to the engine and every
event, is kept as a history.
-/

namespace RuleSmith
open Files

inductive Activity
  | compiled (source : String) (options : CompileOptions)
  | scanned (path : String)
  | answered (answer : Answer)
  | logged (event : Event)
deriving DecidableEq

structure Session (σ : Type) where
  world : World σ
  history : List Activity

/-- A task that works in a session and may fail. What a failed task did stays done. -/
abbrev Job (σ α : Type) := ExceptT Failure (StateM (Session σ)) α

namespace Job

variable {σ α : Type}

def start (job : Job σ α) (session : Session σ) : Except Failure α × Session σ :=
  ExceptT.run job session

def record (activity : Activity) : Job σ Unit :=
  modify fun session => { session with history := session.history ++ [activity] }

def log (event : Event) : Job σ Unit := record (.logged event)

def onFiles (work : FileTree → Except Failure α × FileTree) : Job σ α := do
  let session ← get
  let (result, files) := work session.world.files
  set { session with world := { session.world with files } }
  liftExcept result
where
  liftExcept : Except Failure α → Job σ α
    | .ok value => pure value
    | .error failure => throw failure

def lookAt (look : FileTree → Except Failure α) : Job σ α :=
  onFiles fun files => (look files, files)

def settle (reply : Reply σ (Except Failure α)) : Job σ α := do
  modify fun session =>
    { world := reply.world, history := session.history ++ reply.events.map .logged }
  onFiles.liftExcept reply.value

def onFailure (job : Job σ α) (report : Failure → Job σ Unit) : Job σ α :=
  tryCatch job fun failure => do
    report failure
    throw failure

end Job

structure RenderedRule where
  name : String
  source : String
deriving DecidableEq

inductive Compiled (ρ : Type := RuleSet)
  | inMemory (rules : ρ) (name : String)
  | stored (name : String)

def Compiled.name {ρ : Type} : Compiled ρ → String
  | .inMemory _ name => name
  | .stored name => name

structure Listener where
  records : List Record
  answers : List Answer

def Listener.hear (listener : Listener) (record : Record) : Answer × Listener :=
  (.proceed, ⟨listener.records ++ [record], listener.answers ++ [.proceed]⟩)

structure Generator (σ : Type) (ρ : Type := RuleSet) where
  store : Store
  engine : Engine σ ρ
  options : CompileOptions

namespace Generator
open Job

variable {σ ρ : Type}

def ofSettings (settings : Settings) (engine : Engine σ ρ) : Generator σ ρ :=
  ⟨settings.store, engine, settings.options⟩

def render (request : Request) : Job σ RenderedRule := do
  let name := Identifier.sanitize request.rule
  if Identifier.isBlankName name then
    log (.blankName request)
    throw (.invalid (.blankRule request.rule))
  else
    if Identifier.exceedsLimit name then log (.overlongName name)
    return ⟨name, (request.toSource name).render⟩

def compile (generator : Generator σ ρ) (source : String) (options : CompileOptions) :
    Job σ ρ := do
  record (.compiled source options)
  let session ← get
  settle (generator.engine.compile source options session.world)

def scan (generator : Generator σ ρ) (rules : ρ) (path : String) : Job σ (List Record) := do
  record (.scanned path)
  let session ← get
  let (reply, listener) :=
    (generator.engine.scan rules path session.world).run Listener.hear ⟨[], []⟩
  -- The answers are taken down before the reply, so a scan that fails has them too.
  modify fun session =>
    { session with history := session.history ++ listener.answers.map .answered }
  let _ ← settle reply
  return listener.records

def compileRequest (generator : Generator σ ρ) (request : Request) (rendered : RenderedRule)
    (errorOnWarning : Bool) : Job σ ρ :=
  tryCatch (generator.compile rendered.source { generator.options with errorOnWarning })
    fun failure => throw (failure.about rendered.name request)

variable [Storable ρ]

def load (generator : Generator σ ρ) : Compiled ρ → Job σ ρ
  | .inMemory rules _ => pure rules
  | .stored name =>
    (lookAt (generator.store.loadCompiled name ρ)).onFailure fun failure =>
      log (.loadFailed name failure)

def onlyRecord (name path : String) : List Record → Job σ Record
  | [record] => pure record
  | [] => do
    log (.noRecord name path)
    throw (.noRecord name path)
  | records@(_ :: _ :: _) => do
    log (.severalRules name records.length)
    throw (.severalRules name records.length)

/-- The record of a rule with its condition, recovered from compiled rules: they are run over the
source that belongs to them, have to give one record, and that has to hold every string that the
condition refers to. -/
def recoverRecord (generator : Generator σ ρ) (compiled : Compiled ρ) (condition : String) :
    Job σ Record := do
  let name := compiled.name
  let rules ← generator.load compiled
  let path := generator.store.sourcePath name
  let records ← (generator.scan rules path).onFailure fun failure => log (.scanFailed path failure)
  let record ← onlyRecord name path records
  let missing := Reference.missing condition record.strings
  if missing.isEmpty then return record.withCondition condition
  else
    log (.missingPatterns name missing condition path)
    throw (.incomplete record.rule missing)

def recoverSource (generator : Generator σ ρ) (compiled : Compiled ρ) (condition : String) :
    Job σ String := do
  let record ← generator.recoverRecord compiled condition
  return record.toSource.render

def produce (generator : Generator σ ρ) (request : Request) (rendered : RenderedRule)
    (errorOnWarning : Bool) : Job σ String := do
  let _ ← onFiles (generator.store.saveSource rendered.name (Text.utf8 rendered.source))
  -- From here on a failure leaves behind what was saved.
  let rules ← generator.compileRequest request rendered errorOnWarning
  let _ ← onFiles (generator.store.saveCompiled rendered.name rules)
  generator.recoverSource (.stored rendered.name) request.condition

/-- Generates the rule of a request and answers its recovered source. A failure after rendering is
logged with the source and the request; files that were saved before it stay. -/
def generateWith (generator : Generator σ ρ) (request : Request) (errorOnWarning : Bool) :
    Job σ String := do
  let rendered ← render request
  let recovered ← (generator.produce request rendered errorOnWarning).onFailure fun failure => do
    log (.failed rendered.name failure)
    log (.failedSource rendered.source)
    log (.failedRequest request)
  log (.stored rendered.name recovered)
  return recovered

def generate (generator : Generator σ ρ) (request : Request) : Job σ String :=
  generator.generateWith request generator.options.errorOnWarning

end Generator
end RuleSmith
