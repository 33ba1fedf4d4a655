import RuleSmith.Engine.Basic

namespace RuleSmith

structure Script where
  compileError : Option String := none
  /-- What its compiler finds invalid; it counts if nothing is refused. -/
  compileInvalid : Option String := none
  scanError : Option String := none
  records : List Record := []
deriving Inhabited

def Script.compile (script : Script) (source : String) : Except Failure RuleSet :=
  match script.compileError, script.compileInvalid with
  | some message, _ => .error (.compile ⟨message, "engine", source, none⟩)
  | none, some text => .error (.engine .validation text)
  | none, none => .ok ⟨[]⟩

def Engine.scripted : Engine Script where
  compile source _ world := ⟨world.memory.compile source, world, []⟩
  scan _ _ world :=
    match world.memory.scanError with
    | some text => .failed world (.engine .scan text)
    | none => .ofRecords world [] world.memory.records

end RuleSmith
