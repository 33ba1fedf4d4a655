import RuleSmith.Files.Path
import RuleSmith.InsertionMap

/-!
# A tree of files

Files and directories by their location, and the operations of a file system on them: reading,
writing, making directories. Each operation follows its path name by name and fails at the first name
that does not let it go on; one that fails leaves the tree as it is, except that making a path keeps
the directories that it made before it failed.
-/

namespace RuleSmith.Files

abbrev Location := List String

inductive Entry
  | directory
  | file (content : List UInt8)
deriving DecidableEq

inductive FileError
  | missing
  | alreadyThere
  | notDirectory
  | isDirectory
  | nameTooLong
  | nulInName
  | denied
  | notText
deriving DecidableEq

def FileError.message : FileError → String
  | .missing => "No such file or directory (os error 2)"
  | .alreadyThere => "File exists (os error 17)"
  | .notDirectory => "Not a directory (os error 20)"
  | .isDirectory => "Is a directory (os error 21)"
  | .nameTooLong => "File name too long (os error 36)"
  | .nulInName => "file name contained an unexpected NUL byte"
  | .denied => "Permission denied (os error 13)"
  | .notText => "stream did not contain valid UTF-8"

structure FileTree where
  entries : InsertionMap Location Entry
  workingDirectory : Location
  /-- Where nothing may be written or made, though what stands there can be read. -/
  guarded : List Location := []

namespace FileTree

def bare (workingDirectory : Location) : FileTree := { entries := .empty, workingDirectory }

def entryAt? (tree : FileTree) (location : Location) : Option Entry :=
  if location.isPrefixOf tree.workingDirectory then some .directory
  else tree.entries.get? location

def put (tree : FileTree) (location : Location) (entry : Entry) : FileTree :=
  { tree with entries := tree.entries.insert location entry }

def maxName : Nat := 255

def maxPath : Nat := 4095

def enter (tree : FileTree) (here : Location) : List Step → Except FileError Location
  | [] => .ok here
  | .up :: rest => tree.enter here.dropLast rest
  | .name name :: rest =>
    if maxName < name.utf8ByteSize then .error .nameTooLong
    else match tree.entryAt? (here ++ [name]) with
      | none => .error .missing
      | some (.file _) => .error .notDirectory
      | some .directory => tree.enter (here ++ [name]) rest

def start (tree : FileTree) (absolute : Bool) : Location :=
  if absolute then [] else tree.workingDirectory

def refusedSpelling (path : String) : Option FileError :=
  if path.toList.contains '\x00' then some .nulInName
  else if maxPath < path.utf8ByteSize then some .nameTooLong
  else if path.toList = [] then some .missing
  else none

def follow (tree : FileTree) (path : Path) : Except FileError Location :=
  match tree.enter (tree.start path.absolute) path.passage with
  | .error error => .error error
  | .ok here =>
    match path.last? with
    | none => .ok here
    | some name => if maxName < name.utf8ByteSize then .error .nameTooLong else .ok (here ++ [name])

def resolve (tree : FileTree) (path : String) : Except FileError Location :=
  match refusedSpelling path with
  | some error => .error error
  | none => tree.follow (.ofString path)

def hasDirectory (tree : FileTree) (path : Path) : Bool :=
  match tree.follow path with
  | .error _ => false
  | .ok location => tree.entryAt? location = some .directory

def isDirectory (tree : FileTree) (path : String) : Bool :=
  (refusedSpelling path).isNone && tree.hasDirectory (.ofString path)

def isFile (tree : FileTree) (path : String) : Bool :=
  match tree.resolve path with
  | .error _ => false
  | .ok location =>
    match tree.entryAt? location with
    | some (.file _) => (Path.ofString path).ending = .name
    | _ => false

def read (tree : FileTree) (path : String) : Except FileError (List UInt8) :=
  match tree.resolve path with
  | .error error => .error error
  | .ok location =>
    match tree.entryAt? location with
    | none => .error .missing
    | some .directory => .error .isDirectory
    | some (.file content) =>
      if (Path.ofString path).ending = .name then .ok content else .error .notDirectory

/-- The tree after a file is written where a path leads to. What a path with another ending than a
name leads to is a directory, however long the name in front of its slashes. -/
def write (tree : FileTree) (path : String) (content : List UInt8) : Except FileError FileTree :=
  match refusedSpelling path with
  | some error => .error error
  | none =>
    let parsed := Path.ofString path
    match tree.enter (tree.start parsed.absolute) parsed.passage with
    | .error error => .error error
    | .ok here =>
      match parsed.ending, parsed.last? with
      | .name, some name =>
        if maxName < name.utf8ByteSize then .error .nameTooLong
        else if tree.entryAt? (here ++ [name]) = some .directory then .error .isDirectory
        else if tree.guarded.contains (here ++ [name]) then .error .denied
        else .ok (tree.put (here ++ [name]) (.file content))
      | _, _ => .error .isDirectory

def makeDirectory (tree : FileTree) (path : Path) : Except FileError FileTree :=
  match tree.follow path with
  | .error error => .error error
  | .ok location =>
    if (tree.entryAt? location).isSome then .error .alreadyThere
    else if tree.guarded.contains location then .error .denied
    else .ok (tree.put location .directory)

/-- Makes the directory that a path leads to if those above it can be made, which are given from the
nearest on. A directory that is there already is as good as made. -/
def makePath (tree : FileTree) : List Path → Except FileError Unit × FileTree
  | [] => (.ok (), tree)
  | path :: above =>
    let settle (tree : FileTree) (error : FileError) : Except FileError Unit × FileTree :=
      if tree.hasDirectory path then (.ok (), tree) else (.error error, tree)
    match tree.makeDirectory path with
    | .ok tree => (.ok (), tree)
    | .error .missing =>
      match tree.makePath above with
      | (.error error, tree) => (.error error, tree)
      | (.ok _, tree) =>
        match tree.makeDirectory path with
        | .ok tree => (.ok (), tree)
        | .error error => settle tree error
    | .error error => settle tree error

def makeDirectories (tree : FileTree) (path : String) : Except FileError Unit × FileTree :=
  if path.toList = [] then (.ok (), tree)
  else match refusedSpelling path with
    | some error => (.error error, tree)
    | none => tree.makePath (Path.ofString path).withAncestors

def remove (tree : FileTree) (location : Location) : FileTree :=
  let kept := tree.entries.keys.filter fun other => location.isPrefixOf other
  { tree with entries := kept.foldl InsertionMap.erase tree.entries }

end FileTree
end RuleSmith.Files
