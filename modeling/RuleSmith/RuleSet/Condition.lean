namespace RuleSmith

inductive Relation
  | equal
  | notEqual
  | less
  | atMost
  | greater
  | atLeast
deriving DecidableEq, Inhabited

inductive Operand
  | fileSize
  | integer (value : Int)
  | real (bits : UInt64)
  | bytes (value : List UInt8)
deriving DecidableEq, Inhabited

inductive Condition
  | constant (value : Bool)
  | pattern (position : Nat)
  | anyPattern
  | allPatterns
  | compare (relation : Relation) (left right : Operand)
  | not (inner : Condition)
  | both (left right : Condition)
  | either (left right : Condition)
deriving DecidableEq, Inhabited

def Relation.accepts (relation : Relation) (outcome : Ordering) : Bool :=
  match relation with
  | .equal => outcome.isEq
  | .notEqual => outcome.isNe
  | .less => outcome.isLT
  | .atMost => outcome.isLE
  | .greater => outcome.isGT
  | .atLeast => outcome.isGE

def Relation.acceptsReals (relation : Relation) (left right : Float) : Bool :=
  match relation with
  | .equal => left == right
  | .notEqual => left != right
  | .less => left < right
  | .atMost => left ≤ right
  | .greater => right < left
  | .atLeast => right ≤ left

def compareBytes : List UInt8 → List UInt8 → Ordering
  | [], [] => .eq
  | [], _ :: _ => .lt
  | _ :: _, [] => .gt
  | a :: left, b :: right => (compare a.toNat b.toNat).then (compareBytes left right)

inductive Scalar
  | integer (value : Int)
  | real (value : Float)
  | bytes (value : List UInt8)

def Operand.value (size : Nat) : Operand → Scalar
  | .fileSize => .integer size
  | .integer value => .integer value
  | .real bits => .real (Float.ofBits bits)
  | .bytes value => .bytes value

/-- Compares two values; values of different kinds are not compared, but an integer counts as a double
beside one. -/
def Relation.holds (relation : Relation) : Scalar → Scalar → Bool
  | .integer left, .integer right => relation.accepts (compare left right)
  | .integer left, .real right => relation.acceptsReals (Float.ofInt left) right
  | .real left, .integer right => relation.acceptsReals left (Float.ofInt right)
  | .real left, .real right => relation.acceptsReals left right
  | .bytes left, .bytes right => relation.accepts (compareBytes left right)
  | _, _ => false

def Condition.holds (found : List Bool) (size : Nat) : Condition → Bool
  | .constant value => value
  | .pattern position => found[position]?.getD false
  | .anyPattern => found.any id
  | .allPatterns => found.all id
  | .compare relation left right => relation.holds (left.value size) (right.value size)
  | .not inner => !inner.holds found size
  | .both left right => left.holds found size && right.holds found size
  | .either left right => left.holds found size || right.holds found size

inductive ConditionStep
  | constant (value : Bool)
  | pattern (position : Nat)
  | anyPattern
  | allPatterns
  | compare (relation : Relation) (left right : Operand)
  | not
  | both
  | either
deriving DecidableEq

def Condition.toSteps : Condition → List ConditionStep
  | .constant value => [.constant value]
  | .pattern position => [.pattern position]
  | .anyPattern => [.anyPattern]
  | .allPatterns => [.allPatterns]
  | .compare relation left right => [.compare relation left right]
  | .not inner => inner.toSteps ++ [.not]
  | .both left right => left.toSteps ++ right.toSteps ++ [.both]
  | .either left right => left.toSteps ++ right.toSteps ++ [.either]

def Condition.ofSteps : List ConditionStep → List Condition → Option Condition
  | [], [condition] => some condition
  | [], _ => none
  | .constant value :: steps, stack => ofSteps steps (.constant value :: stack)
  | .pattern position :: steps, stack => ofSteps steps (.pattern position :: stack)
  | .anyPattern :: steps, stack => ofSteps steps (.anyPattern :: stack)
  | .allPatterns :: steps, stack => ofSteps steps (.allPatterns :: stack)
  | .compare relation left right :: steps, stack =>
    ofSteps steps (.compare relation left right :: stack)
  | .not :: steps, inner :: stack => ofSteps steps (.not inner :: stack)
  | .both :: steps, right :: left :: stack => ofSteps steps (.both left right :: stack)
  | .either :: steps, right :: left :: stack => ofSteps steps (.either left right :: stack)
  | _ :: _, _ => none

theorem Condition.ofSteps_append (condition : Condition) (steps : List ConditionStep)
    (stack : List Condition) :
    ofSteps (condition.toSteps ++ steps) stack = ofSteps steps (condition :: stack) := by
  induction condition generalizing steps stack with
  | constant | pattern | anyPattern | allPatterns | compare => rfl
  | not inner ih => simp [toSteps, ih, ofSteps]
  | both left right ihLeft ihRight => simp [toSteps, ihLeft, ihRight, ofSteps]
  | either left right ihLeft ihRight => simp [toSteps, ihLeft, ihRight, ofSteps]

theorem Condition.ofSteps_toSteps (condition : Condition) :
    ofSteps condition.toSteps [] = some condition := by
  simpa [ofSteps] using ofSteps_append condition [] []

end RuleSmith
