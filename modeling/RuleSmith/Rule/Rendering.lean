import RuleSmith.Rule.Basic

namespace RuleSmith.Source

def entryLine (entry : String × String) : String :=
  "\n        " ++ entry.1 ++ " = \"" ++ entry.2 ++ "\""

def section? (title : String) (entries : List (String × String)) : Option String :=
  if entries.isEmpty then none
  else some ("    " ++ title ++ ":" ++ String.join (entries.map entryLine))

def headLine (source : Source) : String :=
  match source.tags.getD [] with
  | [] => "rule " ++ source.rule
  | tags => "rule " ++ source.rule ++ ": " ++ " ".intercalate tags

def referencedStrings (source : Source) : Patterns :=
  Reference.filter source.condition (source.strings.getD .empty)

def sections (source : Source) : List String :=
  (section? "meta" (source.metadata.getD .empty).toList).toList
    ++ (section? "strings" source.referencedStrings.toList).toList
    ++ ["    condition:\n        " ++ source.condition]

def render (source : Source) : String :=
  source.headLine ++ "\n\x7b\n" ++ "\n\n".intercalate source.sections ++ "\n\x7d"

end RuleSmith.Source
