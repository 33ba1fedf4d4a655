import RuleSmith.Failure
import RuleSmith.Identifier
import RuleSmith.Text.Preview

namespace RuleSmith
open Text

inductive Level
  | info
  | warn
  | error
deriving DecidableEq

inductive Event
  | blankName (request : Request)
  | overlongName (name : String)
  | compilerWarning (text : String)
  | loadFailed (name : String) (failure : Failure)
  | scanFailed (path : String) (failure : Failure)
  | noRecord (name path : String)
  | severalRules (name : String) (count : Nat)
  | missingPatterns (name : String) (missing : List String) (condition path : String)
  | failed (name : String) (failure : Failure)
  | failedSource (source : String)
  | failedRequest (request : Request)
  | stored (name recovered : String)
deriving DecidableEq

def Event.level : Event → Level
  | .stored .. => .info
  | .overlongName .. | .compilerWarning .. => .warn
  | _ => .error

def namePreview : Nat := 40

def sourcePreview : Nat := 160

def Event.message : Event → String
  | .blankName _ => "Rejected rule request with empty name, incoming request:"
  | .overlongName name =>
    "Rule name `" ++ preview name namePreview ++ "` exceeds " ++ toString Identifier.maxLength
      ++ " characters, the compiler may reject it"
  | .compilerWarning text => "Compiler warning: " ++ text
  | .loadFailed name failure =>
    "recover_source could not load compiled rules `" ++ name ++ "`: " ++ failure.message
  | .scanFailed path failure => "recover_source scan of " ++ path ++ " failed: " ++ failure.message
  | .noRecord name path =>
    "recover_source `" ++ name ++ "`: no callback record, compiled rules and " ++ path
      ++ " are inconsistent"
  | .severalRules name count =>
    "recover_source `" ++ name ++ "`: " ++ toString count ++ " rules found, expected exactly one"
  | .missingPatterns name missing condition path =>
    "recover_source `" ++ name ++ "`: pattern(s) " ++ quotedList missing
      ++ " referenced by condition `" ++ condition ++ "` have no match in " ++ path
  | .failed name failure => "compile_from_source failed for `" ++ name ++ "`: " ++ failure.message
  | .failedSource source => "compile_from_source rendered source:\n" ++ source
  | .failedRequest _ => "compile_from_source incoming request:"
  | .stored name recovered =>
    "Rule `" ++ name ++ "` compiled and stored: " ++ preview recovered sourcePreview

end RuleSmith
