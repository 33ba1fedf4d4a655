import RuleSmith.CommandLine.Run

namespace RuleSmith.CommandLine
open Files

def rulePaths (store : Store) (name : String) : List String :=
  [store.sourcePath name, store.compiledPath name]

/-- The paths that a command goes to. Those of a compiled rule are only known when its request can be
read from the files at hand. -/
def Command.paths (directory : Option String) (files : FileTree) : Command → List String
  | .compile request _ =>
    match readRequest files request with
    | .error _ => [request]
    | .ok found =>
      request :: rulePaths (settingsFor directory).store (Identifier.sanitize found.rule)
  | .render request => [request]
  | .recover name _ _ => rulePaths (settingsFor directory).store name
  | .sanitize _ => []

def passed (here : Location) : List Step → List Location
  | [] => []
  | .up :: rest => passed here.dropLast rest
  | .name name :: rest => (here ++ [name]) :: passed (here ++ [name]) rest

def onTheWay (files : FileTree) (path : String) : List Location :=
  if (FileTree.refusedSpelling path).isSome then []
  else
    let parsed := Path.ofString path
    passed (files.start parsed.absolute) parsed.steps

def footprint (arguments : List String) (files : FileTree) : List Location :=
  match Invocation.ofArguments arguments with
  | some (.run directory command) => (command.paths directory files).flatMap (onTheWay files)
  | _ => []

def changes (before after : FileTree) : List (Location × Entry) :=
  after.entries.toList.filter fun entry => before.entryAt? entry.1 ≠ some entry.2

end RuleSmith.CommandLine
