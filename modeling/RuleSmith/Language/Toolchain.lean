import RuleSmith.Decimal.Style
import RuleSmith.Engine.Basic
import RuleSmith.Literal

/-!
# Engines made of a compiler and a scanner

What an engine adds to a compiler and a scanner, whatever these are. It tells the compiler of the
external variables one by one; a warning is an error or logged, as the options say; and of every rule
that the scanner reports it tells a record, first of those that apply. It changes no file and has no
memory.
-/

namespace RuleSmith
namespace Language
open Files

variable {σ ρ : Type}

/-- What a scanner reports of a rule: what the rule holds, and beside the name of each of its patterns
all that the pattern matched, by position. -/
structure Sighting where
  name : String
  scope : String
  tags : List String
  metadata : List (String × MetaValue)
  hits : List (String × List (List UInt8))
deriving DecidableEq

def metaStyle : Decimal.Style := ⟨none, false, true⟩

def metaText : MetaValue → String
  | .integer value => toString value.toInt
  | .real bits => metaStyle.write bits
  | .truth value => if value then "true" else "false"
  | .bytes bytes => Literal.escape bytes

def patternName (name : String) : String :=
  if name.toList.head? = some '$' then name else "$" ++ name

def Sighting.record (applies : Bool) (sighting : Sighting) : Record where
  rule := sighting.name
  scope := sighting.scope
  tags := sighting.tags
  metadata := .ofList (sighting.metadata.map fun entry => (entry.1, metaText entry.2))
  strings := .ofList (sighting.hits.filterMap fun hit =>
    hit.2.head?.map fun data => (patternName hit.1, Literal.escape data))
  condition := ""
  applies := applies

def candidateRecords (applying others : List Sighting) : List Record :=
  applying.map (Sighting.record true) ++ others.map (Sighting.record false)

structure CompilerSetup where
  relaxedPatterns : Bool
  errorOnSlowPattern : Bool
  scope : Option String
  externals : List (String × ExternalValue)
deriving DecidableEq

structure Toolchain (ρ : Type) where
  /-- Why one more external variable is rejected, if it is. -/
  rejection? : CompilerSetup → String × ExternalValue → Option String
  /-- The rules of a source and what is worth a warning, or why the source is refused. -/
  compile : CompilerSetup → String → Except String (ρ × List String)
  /-- What is reported of the rules that apply to some bytes, and of the others. -/
  scan : ρ → List UInt8 → Except String (List Sighting × List Sighting)

def refusal (message source : String) : Failure := .compile ⟨message, "", source, none⟩

namespace Toolchain

def define (toolchain : Toolchain ρ) (setup : CompilerSetup) :
    List (String × ExternalValue) → Except String CompilerSetup
  | [] => .ok setup
  | external :: others =>
    match toolchain.rejection? setup external with
    | some reason => .error ("external variable `" ++ external.1 ++ "` rejected: " ++ reason)
    | none => toolchain.define { setup with externals := setup.externals ++ [external] } others

def build (toolchain : Toolchain ρ) (source : String) (options : CompileOptions) :
    Except String (ρ × List String) :=
  let setup := ⟨options.relaxedPatterns, options.errorOnSlowPattern, options.scope, []⟩
  match toolchain.define setup options.externals with
  | .error message => .error message
  | .ok setup => toolchain.compile setup source

def engineCompile (toolchain : Toolchain ρ) (source : String) (options : CompileOptions)
    (world : World σ) : Reply σ (Except Failure ρ) :=
  match toolchain.build source options with
  | .error message => ⟨.error (refusal message source), world, []⟩
  | .ok (rules, warnings) =>
    if warnings.isEmpty then ⟨.ok rules, world, []⟩
    else if options.errorOnWarning then
      ⟨.error (refusal ("\n".intercalate warnings) source), world, []⟩
    else ⟨.ok rules, world, warnings.map .compilerWarning⟩

def engineScan (toolchain : Toolchain ρ) (rules : ρ) (path : String) (world : World σ) : Scan σ :=
  match world.files.read path with
  | .error error => .failed world (.scan path error)
  | .ok bytes =>
    match toolchain.scan rules bytes with
    | .error message => .failed world (.engine .scan (path ++ ": " ++ message))
    | .ok (applying, others) => .ofRecords world [] (candidateRecords applying others)

def engine (toolchain : Toolchain ρ) : Engine σ ρ :=
  ⟨toolchain.engineCompile, toolchain.engineScan⟩

end Toolchain
end Language
end RuleSmith
