import RuleSmith.Language.Report

namespace RuleSmith.Language

inductive Kind
  | integer
  | real
  | text
  | truth
deriving DecidableEq

def Kind.name : Kind → String
  | .integer => "integer"
  | .real => "float"
  | .text => "string"
  | .truth => "boolean"

def Kind.truthNote : Kind → Option String
  | .integer => some "non-zero integers are considered `true`, while zero is `false`"
  | .real => some "non-zero floats are considered `true`, while zero is `false`"
  | .text =>
    some "non-empty strings are considered `true`, while the empty string (\"\") is `false`"
  | .truth => none

inductive Problem
  | badForm
  | repeatedRule (name : String) (first again : Place)
  | takenName (name : Located String)
  | repeatedTag (name : Located String)
  | repeatedPattern (name : String) (first again : Place)
  | unknownPattern (name : Located String)
  | unusedPattern (name : Located String)
  | noPatterns (place : Place)
  | unknownName (name : Located String)
  | unordered (place : Place)
  | incomparable (left right : Located Kind)
  | emptyPattern (name : String) (place : Place)
  | unsupportedExpression (place : Place)
  | slowPattern (place : Place)
deriving DecidableEq

inductive Warning
  | repeatedContent (name : String) (first again : Place)
  | valueAsTruth (kind : Located Kind)
  /-- A truth value is compared with one of the numbers that stand for them. -/
  | truthAsNumber (place : Place) (simpler : String)
  | knownCondition (rule : String) (value : Bool) (place : Place)
  | slowPattern (place : Place)
deriving DecidableEq

def reason (place : Place) (text : String) : Label := ⟨place, text, true⟩

def aside (place : Place) (text : String) : Label := ⟨place, text, false⟩

def errorReport (code title : String) (labels : List Label) : Report :=
  ⟨.error, code, title, labels, none⟩

def slowLabel (place : Place) : Label := reason place "this pattern may slow down the scan"

def Problem.report : Problem → Report
  | .badForm => errorReport "E001" "syntax error" []
  | .unordered place =>
    errorReport "E002" "wrong type" [reason place
      "expression should be `integer`, `float` or `string`, but it is `boolean`"]
  | .incomparable left right =>
    errorReport "E003" "mismatching types" [
      reason left.place ("this expression is `" ++ left.value.name ++ "`"),
      reason right.place ("this expression is `" ++ right.value.name ++ "`")]
  | .unknownName name =>
    errorReport "E009" ("unknown identifier `" ++ name.value ++ "`")
      [reason name.place "this identifier has not been declared"]
  | .repeatedRule name first again =>
    errorReport "E012" ("duplicate rule `" ++ name ++ "`") [
      reason again ("duplicate declaration of `" ++ name ++ "`"),
      aside first ("`" ++ name ++ "` declared here for the first time")]
  | .takenName name =>
    errorReport "E013" ("rule `" ++ name.value ++ "` conflicts with an existing identifier")
      [reason name.place "identifier already in use by a module or global variable"]
  | .unsupportedExpression place =>
    errorReport "E014" "invalid regular expression" [reason place "invalid regular expression"]
  | .noPatterns place =>
    errorReport "E016" "no matching patterns" [reason place "there's no pattern in this set"]
  | .slowPattern place => errorReport "E018" "slow pattern" [slowLabel place]
  | .repeatedTag name =>
    errorReport "E021" ("duplicate tag `" ++ name.value ++ "`") [reason name.place "duplicate tag"]
  | .unusedPattern name =>
    errorReport "E022" ("unused pattern `" ++ name.value ++ "`")
      [reason name.place "this pattern was not used in the condition"]
  | .repeatedPattern name first again =>
    errorReport "E023" ("duplicate pattern `" ++ name ++ "`") [
      reason again ("duplicate declaration of `" ++ name ++ "`"),
      aside first ("`" ++ name ++ "` declared here for the first time")]
  | .emptyPattern name place =>
    errorReport "E024" ("invalid pattern `" ++ name ++ "`")
      [reason place "this pattern is too short"]
  | .unknownPattern name =>
    errorReport "E025" ("unknown pattern `" ++ name.value ++ "`")
      [reason name.place "this pattern is not declared in the `strings` section"]

def Problem.message (source : List Char) (problem : Problem) : String :=
  problem.report.text source

def Warning.report : Warning → Report
  | .repeatedContent name first again => {
      severity := .warning, code := "duplicate_pattern_value", title := "duplicate pattern value"
      labels := [
        aside first ("pattern `" ++ name ++ "` defined here first"),
        reason again ("duplicate of pattern `" ++ name ++ "`")]
      note := none }
  | .valueAsTruth kind => {
      severity := .warning, code := "non_bool_expr"
      title := "non-boolean expression used as boolean"
      labels := [reason kind.place
        ("this expression is `" ++ kind.value.name ++ "` but is being used as `bool`")]
      note := kind.value.truthNote }
  | .truthAsNumber place simpler => {
      severity := .warning, code := "bool_int_comparison"
      title := "comparison between boolean and integer"
      labels := [reason place ("this comparison can be replaced with: `" ++ simpler ++ "`")]
      note := none }
  | .knownCondition rule value place =>
    let shown := if value then "true" else "false"
    { severity := .warning, code := "invariant_expr", title := "invariant boolean expression"
      labels := [reason place ("this expression is always " ++ shown)]
      note := some ("rule `" ++ rule ++ "` is always `" ++ shown ++ "`") }
  | .slowPattern place => {
      severity := .warning, code := "slow_pattern", title := "slow pattern"
      labels := [slowLabel place], note := none }

def Warning.message (source : List Char) (warning : Warning) : String :=
  warning.report.text source

end RuleSmith.Language
