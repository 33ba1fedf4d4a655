import RuleSmith.RuleSet.Condition

namespace RuleSmith

/-- Compiled rules that can be kept as bytes. To write them or to read them may fail, each with words of
its own. -/
class Storable (ρ : Type) where
  toBytes : ρ → Except String (List UInt8)
  ofBytes : List UInt8 → Except String ρ

/-- Whether rules that were written are read back as they were. -/
def Storable.RoundTrips (ρ : Type) [Storable ρ] : Prop :=
  ∀ (rules : ρ) (bytes : List UInt8), toBytes rules = .ok bytes → ofBytes bytes = .ok rules

inductive MetaValue
  | integer (value : Int64)
  | real (bits : UInt64)
  | truth (value : Bool)
  | bytes (value : List UInt8)
deriving DecidableEq, Inhabited

structure Pattern where
  name : String
  content : List UInt8
  ignoreCase : Bool
deriving DecidableEq, Inhabited

structure CompiledRule where
  name : String
  scope : String
  tags : List String
  metadata : List (String × MetaValue)
  patterns : List Pattern
  condition : Condition
deriving DecidableEq, Inhabited

structure RuleSet where
  rules : List CompiledRule
deriving DecidableEq, Inhabited

end RuleSmith
