import RuleSmith.Files.Tree
import RuleSmith.Json.Fault
import RuleSmith.Rule.Basic

namespace RuleSmith
open Files Text

inductive InputProblem
  | fileName (name : String)
  | blankRule (raw : String)
  | sourceNotText
  | sourceHasNul
  | notCompiled (message : String)
deriving DecidableEq

inductive FormatProblem
  | unwritable (message : String)
  | unreadable (path message : String)
deriving DecidableEq

structure CompileReport where
  message : String
  rule : String
  source : String
  request : Option Request
deriving DecidableEq

inductive EngineComplaint
  | validation
  | compiledFormat
  | noRecord
  | unsupported
  | scan
deriving DecidableEq

inductive Failure
  | invalid (problem : InputProblem)
  | compile (report : CompileReport)
  | storage (path : String) (error : FileError)
  | compiledFormat (problem : FormatProblem)
  | noRecord (name path : String)
  | severalRules (name : String) (count : Nat)
  | incomplete (rule : String) (missing : List String)
  | scan (path : String) (error : FileError)
  | request (error : Json.Error)
  | engine (complaint : EngineComplaint) (detail : String)
deriving DecidableEq

def EngineComplaint.opening : EngineComplaint → String
  | .validation => "输入校验失败："
  | .compiledFormat => "编译产物格式无效："
  | .noRecord => "未收到匹配记录："
  | .unsupported => "不支持的输入："
  | .scan => "规则扫描失败："

def unreadableDetail (message : String) : String := "deserialize failed: " ++ message

def FormatProblem.detail : FormatProblem → String
  | .unwritable message => "serialize failed: " ++ message
  | .unreadable path message => path ++ ": " ++ unreadableDetail message

def InputProblem.detail : InputProblem → String
  | .fileName name => "invalid rule file name: " ++ quoted name
  | .blankRule raw => "rule name " ++ quoted raw ++ " is empty after sanitizing"
  | .sourceNotText => "save_source: rule source must be UTF-8 text"
  | .sourceHasNul => "save_source: rule source must not contain NUL bytes"
  | .notCompiled message =>
    "save_compiled: content is not a compiled rule set (" ++ EngineComplaint.compiledFormat.opening
      ++ unreadableDetail message ++ ")"

def CompileReport.opening (report : CompileReport) : String :=
  "规则编译失败（" ++ report.rule ++ "）："

def requestMessage (error : Json.Error) : String := "Rule request parse failed: " ++ error.message

def Failure.message : Failure → String
  | .invalid problem => EngineComplaint.validation.opening ++ problem.detail
  | .compile report => report.opening ++ report.message
  | .storage path error => "规则存储读写失败（" ++ path ++ "）：" ++ error.message
  | .compiledFormat problem => EngineComplaint.compiledFormat.opening ++ problem.detail
  | .noRecord name path =>
    EngineComplaint.noRecord.opening ++ "compiled rules `" ++ name
      ++ "` produced no record against " ++ path
  | .severalRules name count =>
    EngineComplaint.unsupported.opening ++ "compiled rules `" ++ name ++ "` contain "
      ++ toString count ++ " rules, recovery supports exactly one"
  | .incomplete rule missing =>
    "回扫记录缺少条件引用的字符串变量（" ++ rule ++ "）：" ++ ", ".intercalate missing
  | .scan path error =>
    EngineComplaint.scan.opening ++ path ++ ": can not open `" ++ path ++ "`: " ++ error.message
  | .request error => requestMessage error
  | .engine complaint detail => complaint.opening ++ detail

def Failure.causes : Failure → List String
  | .storage _ error => [error.message]
  | .request error => [error.message]
  | _ => []

/-- A compiler's refusal with the rule and the request it is about; other failures stay as they
are. -/
def Failure.about (failure : Failure) (name : String) (request : Request) : Failure :=
  match failure with
  | .compile report => .compile { report with rule := name, request := some request }
  | other => other

end RuleSmith
