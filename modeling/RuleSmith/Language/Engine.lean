import RuleSmith.Language.Compile
import RuleSmith.Language.Scan

namespace RuleSmith.Language

variable {σ : Type}

def isExternalName (name : String) : Bool :=
  match name.toList with
  | [] => false
  | c :: rest => isWordStart c && rest.all isWordChar

def rejection? (setup : CompilerSetup) (external : String × ExternalValue) : Option String :=
  if !isExternalName external.1 then some ("invalid variable identifier `" ++ external.1 ++ "`")
  else if (setup.externals.lookup external.1).isSome then
    some ("variable `" ++ external.1 ++ "` already exists")
  else none

def Toolchain.language : Toolchain RuleSet where
  rejection? := Language.rejection?
  compile setup source :=
    match Language.compile source setup with
    | .error problem => .error (problem.message source.toList)
    | .ok (rules, warnings) => .ok (rules, warnings.map (Warning.message source.toList))
  scan rules bytes := .ok (sightings rules bytes)

def engine : Engine σ := Toolchain.language.engine

end RuleSmith.Language
