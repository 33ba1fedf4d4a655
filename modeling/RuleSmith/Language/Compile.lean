import RuleSmith.Language.Declaration
import RuleSmith.Language.Problem
import RuleSmith.Language.Toolchain
import RuleSmith.Text.Utf8

/-!
# Compiling rules

A source is compiled to rules that need no names any more: patterns are known by position, external
variables by value. Whatever is declared twice, not declared, or declared and not used is an error;
two patterns that look for the same, a pattern that nearly everything holds, a value in the place of a
truth value and a condition whose value is known beforehand are worth a warning.
-/

namespace RuleSmith.Language

def repetitions {α : Type} (alike : α → α → Bool) : List α → List α → List (α × α)
  | _, [] => []
  | earlier, item :: others =>
    let rest := repetitions alike (earlier ++ [item]) others
    match earlier.find? fun first => alike first item with
    | some first => (first, item) :: rest
    | none => rest

def sameValue {α : Type} [DecidableEq α] (left right : Located α) : Bool := left.value = right.value

def external? (externals : List (String × ExternalValue)) (name : Located String) :
    Except Problem ExternalValue :=
  match externals.lookup name.value with
  | some value => .ok value
  | none => .error (.unknownName name)

def functionNames : List String := [
  "int8", "int8be", "int16", "int16be", "int32", "int32be", "int64", "int64be",
  "uint8", "uint8be", "uint16", "uint16be", "uint32", "uint32be", "uint64", "uint64be",
  "float32", "float32be", "float64", "float64be"]

def checkName (externals : List (String × ExternalValue)) (earlier : List (Located String))
    (name : Located String) : Except Problem Unit :=
  match earlier.find? fun first => sameValue first name with
  | some first => .error (.repeatedRule name.value first.place name.place)
  | none =>
    if functionNames.contains name.value || (externals.lookup name.value).isSome then
      .error (.takenName name)
    else .ok ()

def isSpecial (c : Char) : Bool := "\\.^$*+?()[]|".toList.contains c

def repeats : List Char → Bool
  | '\x7b' :: c :: rest => c.isDigit || c = ',' || repeats (c :: rest)
  | _ :: rest => repeats rest
  | [] => false

def expressionBytes? (relaxed : Bool) (body : List Char) : Option (List UInt8) :=
  if body.any isSpecial || repeats body then none
  else if body.contains '\x7b' && !relaxed then none
  else some (Text.utf8 (String.ofList body))

def compilePattern (relaxed : Bool) (pattern : PatternDeclaration) : Except Problem Pattern := do
  let compiled : Pattern ← match pattern.body.value with
    | .literal bytes ignoreCase => .ok ⟨pattern.name.value, bytes, ignoreCase⟩
    | .expression body =>
      match expressionBytes? relaxed body with
      | some bytes => .ok ⟨pattern.name.value, bytes, false⟩
      | none => .error (.unsupportedExpression pattern.body.place)
  if compiled.content.isEmpty then .error (.emptyPattern pattern.name.value pattern.body.place)
  else .ok compiled

def sameName (left right : PatternDeclaration) : Bool :=
  left.name.value ≠ "$" && sameValue left.name right.name

def sameContent (left right : PatternDeclaration) : Bool := sameValue left.body right.body

/-- The bytes that fill files: zero, the largest byte, and the machine instructions for doing nothing
and for stopping. -/
def fillBytes : List UInt8 := [0x00, 0x90, 0xCC, 0xFF]

def isSlow (content : List UInt8) : Bool :=
  match content with
  | [] => false
  | byte :: others => others.isEmpty || (fillBytes.contains byte && others.all (· = byte))

def compileTerm (externals : List (String × ExternalValue)) (term : Located Term) :
    Except Problem (Operand ⊕ Bool) :=
  match term.value with
  | .fileSize => .ok (.inl .fileSize)
  | .integer value => .ok (.inl (.integer value))
  | .real bits => .ok (.inl (.real bits))
  | .text bytes => .ok (.inl (.bytes bytes))
  | .name name => do
    match ← external? externals ⟨name, term.place⟩ with
    | .truth value => .ok (.inr value)
    | .integer value => .ok (.inl (.integer value.toInt))
    | .real bits => .ok (.inl (.real bits))
    | .text text => .ok (.inl (.bytes (Text.utf8 text)))

def kindOf : Operand ⊕ Bool → Kind
  | .inl .fileSize | .inl (.integer _) => .integer
  | .inl (.real _) => .real
  | .inl (.bytes _) => .text
  | .inr _ => .truth

def asCondition : Operand ⊕ Bool → Condition
  | .inr value => .constant value
  | .inl (.bytes bytes) => .constant (!bytes.isEmpty)
  | .inl operand => .compare .notEqual operand (.integer 0)

def asOperand : Operand ⊕ Bool → Operand
  | .inl operand => operand
  | .inr value => .integer (if value then 1 else 0)

def ordersValues (relation : Relation) : Bool := relation ≠ .equal && relation ≠ .notEqual

def compileComparison (externals : List (String × ExternalValue)) (relation : Relation)
    (left right : Located Term) : Except Problem Condition := do
  let leftValue ← compileTerm externals left
  let rightValue ← compileTerm externals right
  let leftKind := kindOf leftValue
  let rightKind := kindOf rightValue
  if ordersValues relation && leftKind = .truth then .error (.unordered left.place)
  else if ordersValues relation && rightKind = .truth then .error (.unordered right.place)
  else if (leftKind = .text) ≠ (rightKind = .text) then
    .error (.incomparable ⟨leftKind, left.place⟩ ⟨rightKind, right.place⟩)
  else .ok (.compare relation (asOperand leftValue) (asOperand rightValue))

def compileCondition (externals : List (String × ExternalValue)) (names : List String)
    (place : Place) : Expression → Except Problem Condition
  | .constant value => .ok (.constant value)
  | .pattern name =>
    match names.idxOf? name.value with
    | some position =>
      -- A pattern without a name has none to be referred to by.
      if name.value = "$" then .error (.unknownPattern name) else .ok (.pattern position)
    | none => .error (.unknownPattern name)
  | .anyOfThem => if names.isEmpty then .error (.noPatterns place) else .ok .anyPattern
  | .allOfThem => if names.isEmpty then .error (.noPatterns place) else .ok .allPatterns
  | .term term => do return asCondition (← compileTerm externals term)
  | .compare relation left right => compileComparison externals relation left right
  | .group inner => compileCondition externals names place inner
  | .not inner => do return .not (← compileCondition externals names place inner)
  | .both left right => do
    return .both (← compileCondition externals names place left)
      (← compileCondition externals names place right)
  | .either left right => do
    return .either (← compileCondition externals names place left)
      (← compileCondition externals names place right)

/-- The patterns that a condition uses; asking for some of them uses them all. -/
def usedPatterns (names : List String) : Expression → List String
  | .pattern name => [name.value]
  | .anyOfThem | .allOfThem => names
  | .group inner | .not inner => usedPatterns names inner
  | .both left right | .either left right => usedPatterns names left ++ usedPatterns names right
  | _ => []

def mayIdle (name : String) : Bool := "$_".toList.isPrefixOf name.toList

def knownValue : Expression → Option Bool
  | .constant value => some value
  | .group inner => knownValue inner
  | .not inner => (knownValue inner).map (!·)
  | .both left right =>
    match knownValue left, knownValue right with
    | some false, _ | _, some false => some false
    | some true, some true => some true
    | _, _ => none
  | .either left right =>
    match knownValue left, knownValue right with
    | some true, _ | _, some true => some true
    | some false, some false => some false
    | _, _ => none
  | _ => none

def valueOfWhole (externals : List (String × ExternalValue)) : Expression → Option Bool
  | .group inner => valueOfWhole externals inner
  | .term term =>
    match compileTerm externals term with
    | .ok (.inl .fileSize) | .error _ => none
    | .ok value => some ((asCondition value).holds [] 0)
  | condition => knownValue condition

def termWarnings (externals : List (String × ExternalValue)) (term : Located Term) : List Warning :=
  match compileTerm externals term with
  | .error _ => []
  | .ok value =>
    if kindOf value = .truth then [] else [.valueAsTruth ⟨kindOf value, term.place⟩]

def simplerComparison? (externals : List (String × ExternalValue)) (left right : Located Term) :
    Option String :=
  let isTruth (term : Located Term) : Bool :=
    match compileTerm externals term with
    | .ok (.inr _) => true
    | _ => false
  let simpler (truth number : Located Term) : Option String :=
    let name := String.ofList truth.place.text
    if number.value = .integer 0 then some ("not " ++ name)
    else if number.value = .integer 1 then some name
    else none
  if isTruth left then simpler left right
  else if isTruth right then simpler right left
  else none

def partWarnings (externals : List (String × ExternalValue)) : Expression → List Warning
  | .term term => termWarnings externals term
  | .compare .equal left right =>
    match simplerComparison? externals left right with
    | some simpler => [.truthAsNumber (left.place.through right.place) simpler]
    | none => []
  | .group inner | .not inner => partWarnings externals inner
  | .both left right | .either left right =>
    partWarnings externals left ++ partWarnings externals right
  | _ => []

def warnings (externals : List (String × ExternalValue)) (rule : RuleDeclaration)
    (slow : List PatternDeclaration) : List Warning :=
  let condition := rule.condition
  (repetitions sameContent [] rule.patterns).map
      (fun (first, again) => .repeatedContent first.name.value first.place again.place)
    ++ partWarnings externals condition.value
    ++ ((valueOfWhole externals condition.value).toList.map fun value =>
      .knownCondition rule.name.value value condition.place)
    ++ slow.map (fun pattern => .slowPattern pattern.place)

def defaultScope : String := "default"

def compileRule (setup : CompilerSetup) (earlier : List (Located String))
    (rule : RuleDeclaration) : Except Problem (CompiledRule × List Warning) := do
  -- Of several problems, the first that is looked for is told.
  checkName setup.externals earlier rule.name
  if let some (_, tag) := (repetitions sameValue [] rule.tags).head? then throw (.repeatedTag tag)
  if let some (first, again) := (repetitions sameName [] rule.patterns).head? then
    throw (.repeatedPattern again.name.value first.name.place again.name.place)
  let patterns ← rule.patterns.mapM (compilePattern setup.relaxedPatterns)
  let names := rule.patterns.map fun pattern => pattern.name.value
  let condition ← compileCondition setup.externals names rule.condition.place rule.condition.value
  let used := usedPatterns names rule.condition.value
  if let some pattern := rule.patterns.find? fun pattern =>
      !used.contains pattern.name.value && !mayIdle pattern.name.value then
    throw (.unusedPattern pattern.name)
  let slow := ((rule.patterns.zip patterns).filter fun pair => isSlow pair.2.content).map Prod.fst
  if let some pattern := slow.head? then
    if setup.errorOnSlowPattern then throw (.slowPattern pattern.place)
  let scope := setup.scope.getD defaultScope
  return (⟨rule.name.value, scope, rule.tags.map Located.value, rule.metadata, patterns, condition⟩,
    warnings setup.externals rule slow)

def compileRules (setup : CompilerSetup) :
    List (Located String) → List RuleDeclaration → Except Problem (List (CompiledRule × List Warning))
  | _, [] => .ok []
  | earlier, rule :: others => do
    let compiled ← compileRule setup earlier rule
    return compiled :: (← compileRules setup (earlier ++ [rule.name]) others)

def compile (source : String) (setup : CompilerSetup) :
    Except Problem (RuleSet × List Warning) := do
  match declarations? source.toList with
  | none => throw .badForm
  | some rules =>
    let compiled ← compileRules setup [] rules
    return (⟨compiled.map Prod.fst⟩, compiled.flatMap Prod.snd)

end RuleSmith.Language
