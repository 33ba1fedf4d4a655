import RuleSmith.CommandLine.Help
import RuleSmith.Generator
import RuleSmith.Language.Engine
import RuleSmith.Rule.Json

namespace RuleSmith.CommandLine
open Files

variable {ρ : Type}

inductive Complaint
  | unreadable (path : String) (error : FileError)
  | unparsable (path : String) (error : Json.Error)
  | failed (failure : Failure)
deriving DecidableEq

def Complaint.message : Complaint → String
  | .unreadable path _ => "reading " ++ path
  | .unparsable path _ => "parsing " ++ path
  | .failed failure => failure.message

def Complaint.causes : Complaint → List String
  | .unreadable _ error => [error.message]
  | .unparsable _ error => [requestMessage error, error.message]
  | .failed failure => failure.causes

def numbered (entry : Nat × String) : String :=
  let number := toString entry.1
  String.ofList (List.replicate (5 - number.length) ' ') ++ number ++ ": " ++ entry.2

def causeLines : List String → String
  | [] => ""
  | [cause] => "\nCaused by:\n    " ++ cause ++ "\n"
  | causes =>
    "\nCaused by:\n" ++ String.join ((causes.mapIdx fun index cause => (index, cause)).map
      fun entry => numbered entry ++ "\n")

def Complaint.report (complaint : Complaint) : String :=
  "Error: " ++ complaint.message ++ "\n" ++ causeLines complaint.causes

inductive Result
  | output (text : String)
  | complaint (complaint : Complaint)
  | refused
deriving DecidableEq

def Result.status : Result → Nat
  | .output _ => 0
  | .complaint _ => 1
  | .refused => 2

structure Call where
  result : Result
  events : List Event
  files : FileTree

def readRequest (files : FileTree) (path : String) : Except Complaint Request :=
  match files.read path with
  | .error error => .error (.unreadable path error)
  | .ok content =>
    match Request.parse content with
    | .error error => .error (.unparsable path error)
    | .ok request => .ok request

def runJob {α : Type} (write : α → String) (job : Job Unit α) (files : FileTree) : Call :=
  let (result, session) := job.start ⟨⟨files, ()⟩, []⟩
  { result := match result with
      | .ok value => .output (write value)
      | .error failure => .complaint (.failed failure)
    events := session.history.filterMap fun
      | .logged event => some event
      | _ => none
    files := session.world.files }

def runRequest {α : Type} (path : String) (write : α → String) (job : Request → Job Unit α)
    (files : FileTree) : Call :=
  match readRequest files path with
  | .error complaint => ⟨.complaint complaint, [], files⟩
  | .ok request => runJob write (job request) files

def line (text : String) : String := text ++ "\n"

def settingsFor (directory : Option String) : Settings :=
  .ofChanges (directory.map Setting.directory).toList

def Command.run [Storable ρ] (engine : Engine Unit ρ) (directory : Option String)
    (command : Command) (files : FileTree) : Call :=
  let generator := Generator.ofSettings (settingsFor directory) engine
  match command with
  | .compile request allowWarnings =>
    runRequest request line (generator.generateWith · (!allowWarnings)) files
  | .render request =>
    runRequest request (fun rule : RenderedRule => line rule.source) Generator.render files
  | .recover name condition json =>
    if json then
      runJob (fun record : Record => line record.json.pretty)
        (generator.recoverRecord (.stored name) condition) files
    else runJob line (generator.recoverSource (.stored name) condition) files
  | .sanitize raw => ⟨.output (line (Identifier.sanitize raw)), [], files⟩

def versionText : String := "yaraforge 0.1.0\n"

def runWith [Storable ρ] (engine : Engine Unit ρ) (arguments : List String) (files : FileTree) :
    Call :=
  match Invocation.ofArguments arguments with
  | none => ⟨.refused, [], files⟩
  | some .version => ⟨.output versionText, [], files⟩
  | some (.help topic) => ⟨.output (helpText topic), [], files⟩
  | some (.run directory command) => command.run engine directory files

def run (arguments : List String) (files : FileTree) : Call :=
  runWith Language.engine arguments files

end RuleSmith.CommandLine
