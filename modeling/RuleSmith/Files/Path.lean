/-!
# Paths

A path is a text of names parted by slashes. To follow one, it is read as steps: into a directory by
its name, or up to the parent. Empty names and single dots are no steps, but how a path ends says what
it can lead to.
-/

namespace RuleSmith.Files

inductive Step
  | up
  | name (name : String)
deriving DecidableEq

inductive Ending
  | name
  /-- In a name and slashes: what has the name can only be a directory. -/
  | slash
  /-- In a dot, two dots or the root: it leads to a directory that has to be there. -/
  | inside
deriving DecidableEq

structure Path where
  absolute : Bool
  steps : List Step
  ending : Ending
deriving DecidableEq

def segments (text : String) : List (List Char) := text.toList.splitOn '/'

def Step.ofSegment (part : List Char) : Option Step :=
  if part = [] ∨ part = ['.'] then none
  else if part = ['.', '.'] then some .up
  else some (.name (String.ofList part))

def Ending.ofSegments (parts : List (List Char)) : Ending :=
  match parts.reverse.dropWhile (· = []) with
  | [] => .inside
  | last :: _ =>
    if last = ['.'] ∨ last = ['.', '.'] then .inside
    else if parts.getLast? = some [] then .slash
    else .name

def Path.ofString (text : String) : Path :=
  let parts := segments text
  { absolute := text.toList.head? = some '/'
    steps := parts.filterMap Step.ofSegment
    ending := .ofSegments parts }

def Path.passage (path : Path) : List Step :=
  if path.ending = .inside then path.steps else path.steps.dropLast

def Path.last? (path : Path) : Option String :=
  if path.ending = .inside then none
  else match path.steps.getLast? with
    | some (.name name) => some name
    | _ => none

def Ending.ofSteps (steps : List Step) : Ending :=
  match steps.getLast? with
  | some (.name _) => .name
  | _ => .inside

def Path.withAncestors (path : Path) : List Path :=
  let above := (List.range path.steps.length).reverse.map path.steps.take
  path :: (above.filter (· ≠ [])).map fun steps => ⟨path.absolute, steps, .ofSteps steps⟩

/-- A path inside a directory: the two with one slash between them, unless the first is empty or has
one already; an absolute path stands for itself. -/
def join (directory inside : String) : String :=
  if inside.toList.head? = some '/' then inside
  else if directory.toList = [] ∨ directory.toList.getLast? = some '/' then directory ++ inside
  else directory ++ "/" ++ inside

def sameSpelling (left right : String) : Bool :=
  let startsAtDot (text : String) := (segments text).head? == some ['.']
  (Path.ofString left).absolute == (Path.ofString right).absolute
    && startsAtDot left == startsAtDot right
    && (Path.ofString left).steps == (Path.ofString right).steps

end RuleSmith.Files
