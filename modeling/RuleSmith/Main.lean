import RuleSmith.CommandLine.Footprint

namespace RuleSmith.CommandLine
open Files

def locationPath (location : Location) : String := "/" ++ "/".intercalate location

def look (files : FileTree) (location : Location) : IO FileTree := do
  let path := (← IO.currentDir) / locationPath location
  if ← path.isDir then return files.put location .directory
  else if ← path.pathExists then
    return files.put location (.file (← IO.FS.readBinFile path).data.toList)
  else return files

def lookAround (arguments : List String) (files : FileTree) : IO FileTree :=
  (footprint arguments files).foldlM look files

def write : Location × Entry → IO Unit
  | (location, .directory) => IO.FS.createDirAll (locationPath location)
  | (location, .file content) => IO.FS.writeBinFile (locationPath location) ⟨content.toArray⟩

def levelText : Level → String
  | .info => "INFO"
  | .warn => "WARN"
  | .error => "ERROR"

def report (call : Call) : IO Unit := do
  for event in call.events do
    IO.eprintln (levelText event.level ++ " " ++ event.message)
  match call.result with
  | .output text => IO.print text
  | .complaint complaint => IO.eprint complaint.report
  | .refused => IO.eprint (helpText .program)

end RuleSmith.CommandLine

open RuleSmith RuleSmith.CommandLine RuleSmith.Files in
/-- Runs the call that the arguments ask for. The files are looked at twice, because the first look
tells which rule a request is about. -/
def main (arguments : List String) : IO UInt32 := do
  let here := ((← IO.currentDir).toString.splitOn "/").filter fun part => part ≠ ""
  let seen ← lookAround arguments (.bare here)
  let files ← lookAround arguments seen
  let call := run arguments files
  (changes files call.files).forM write
  report call
  return UInt32.ofNat call.result.status
