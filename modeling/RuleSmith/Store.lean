import RuleSmith.Failure
import RuleSmith.RuleSet.Bytes
import RuleSmith.Settings
import RuleSmith.Text.Utf8

/-!
# The store of rules

Sources and compiled rules are files in one directory, named for their rule. A name that is no file
name is refused before anything is touched, and content of the wrong kind before anything is written.
-/

namespace RuleSmith.Store
open Files Text

def sourcePath (store : Store) (name : String) : String :=
  join store.directory (name ++ store.sourceExtension)

def compiledPath (store : Store) (name : String) : String :=
  join store.directory (name ++ store.compiledExtension)

def isFileName (name : String) : Bool :=
  let cs := name.toList
  !(cs.isEmpty || cs.contains '/' || cs.contains '\\' || cs = ['.'] || cs = ['.', '.'])

def makeDirectory (store : Store) (files : FileTree) : Except Failure Unit × FileTree :=
  if files.isDirectory store.directory then (.ok (), files)
  else match files.makeDirectories store.directory with
    | (.ok _, files) => (.ok (), files)
    | (.error error, files) => (.error (.storage store.directory error), files)

def writeFile (path : String) (content : List UInt8) (files : FileTree) :
    Except Failure String × FileTree :=
  match files.write path content with
  | .ok files => (.ok path, files)
  | .error error => (.error (.storage path error), files)

/-- Saves a file under the name of a rule, after its content was checked in the directory of all
rules. -/
def save (store : Store) (name path : String) (content : Except Failure (List UInt8))
    (files : FileTree) : Except Failure String × FileTree :=
  if isFileName name then
    match store.makeDirectory files with
    | (.error failure, files) => (.error failure, files)
    | (.ok _, files) =>
      match content with
      | .error failure => (.error failure, files)
      | .ok content => writeFile path content files
  else (.error (.invalid (.fileName name)), files)

def checkSource (content : List UInt8) : Except Failure (List UInt8) :=
  if (ofUtf8? content).isNone then .error (.invalid .sourceNotText)
  else if content.contains 0 then .error (.invalid .sourceHasNul)
  else .ok content

def serialize {ρ : Type} [Storable ρ] (rules : ρ) : Except Failure (List UInt8) :=
  match Storable.toBytes rules with
  | .ok content => .ok content
  | .error message => .error (.compiledFormat (.unwritable message))

def checkCompiled (ρ : Type) [Storable ρ] (content : List UInt8) : Except Failure (List UInt8) :=
  match (Storable.ofBytes content : Except String ρ) with
  | .ok _ => .ok content
  | .error message => .error (.invalid (.notCompiled message))

def saveSource (store : Store) (name : String) (content : List UInt8) (files : FileTree) :
    Except Failure String × FileTree :=
  store.save name (store.sourcePath name) (checkSource content) files

def saveCompiled {ρ : Type} [Storable ρ] (store : Store) (name : String) (rules : ρ)
    (files : FileTree) : Except Failure String × FileTree :=
  store.save name (store.compiledPath name) (serialize rules) files

def saveCompiledBytes (store : Store) (name : String) (content : List UInt8) (ρ : Type := RuleSet)
    [Storable ρ] (files : FileTree) : Except Failure String × FileTree :=
  store.save name (store.compiledPath name) (checkCompiled ρ content) files

def loadSource (store : Store) (name : String) (files : FileTree) : Except Failure String :=
  let path := store.sourcePath name
  match files.read path with
  | .error error => .error (.storage path error)
  | .ok content =>
    match ofUtf8? content with
    | some text => .ok text
    | none => .error (.storage path .notText)

def loadCompiled (store : Store) (name : String) (ρ : Type := RuleSet) [Storable ρ]
    (files : FileTree) : Except Failure ρ :=
  let path := store.compiledPath name
  match files.read path with
  | .error error => .error (.storage path error)
  | .ok content =>
    match Storable.ofBytes content with
    | .ok rules => .ok rules
    | .error message => .error (.compiledFormat (.unreadable path message))

def hasSource (store : Store) (name : String) (files : FileTree) : Bool :=
  files.isFile (store.sourcePath name)

def hasCompiled (store : Store) (name : String) (files : FileTree) : Bool :=
  files.isFile (store.compiledPath name)

end RuleSmith.Store
