import RuleSmith.Language.Token
import RuleSmith.RuleSet.Basic

namespace RuleSmith.Language

inductive Term
  | fileSize
  | integer (value : Int)
  | real (bits : UInt64)
  | text (bytes : List UInt8)
  | name (name : String)
deriving DecidableEq, Inhabited

inductive Expression
  | constant (value : Bool)
  | pattern (name : Located String)
  | anyOfThem
  | allOfThem
  | term (term : Located Term)
  | compare (relation : Relation) (left right : Located Term)
  | group (inner : Expression)
  | not (inner : Expression)
  | both (left right : Expression)
  | either (left right : Expression)
deriving DecidableEq, Inhabited

inductive PatternBody
  | literal (bytes : List UInt8) (ignoreCase : Bool)
  | expression (body : List Char)
deriving DecidableEq

structure PatternDeclaration where
  name : Located String
  body : Located PatternBody
deriving DecidableEq

def PatternDeclaration.place (pattern : PatternDeclaration) : Place :=
  pattern.name.place.through pattern.body.place

structure RuleDeclaration where
  name : Located String
  tags : List (Located String)
  metadata : List (String × MetaValue)
  patterns : List PatternDeclaration
  condition : Located Expression
deriving DecidableEq

/-- How deep the parts of a condition lie below it. Parentheses count twice: they stand for a part and
hold a whole condition. -/
def Expression.depth : Expression → Nat
  | .group inner => inner.depth + 2
  | .not inner => inner.depth + 1
  | .both left right | .either left right => max left.depth right.depth
  | _ => 0

/-! ## Conditions -/

def keywords : List String := [
  "all", "and", "any", "ascii", "at", "base64", "base64wide", "condition", "contains", "defined",
  "endswith", "entrypoint", "false", "filesize", "for", "fullword", "global", "icontains",
  "iendswith", "iequals", "import", "in", "include", "istartswith", "matches", "meta", "nocase",
  "none", "not", "of", "or", "private", "rule", "startswith", "strings", "them", "true", "wide",
  "with", "xor"]

def isName (word : String) : Bool := !keywords.contains word

def Relation.ofSymbol : List Char → Option Relation
  | ['=', '='] => some .equal
  | ['!', '='] => some .notEqual
  | ['<'] => some .less
  | ['<', '='] => some .atMost
  | ['>'] => some .greater
  | ['>', '='] => some .atLeast
  | _ => none

def maxInteger : Nat := Nat.pow 2 64 - 1

def maxNegated : Nat := Nat.pow 2 63

def realBits (negative : Bool) (digits places : Nat) : UInt64 :=
  let magnitude := Float.ofScientific digits true places
  (if negative then -magnitude else magnitude).toBits

def readTerm : List Lexeme → Option (Located Term × List Lexeme)
  | ⟨.word "filesize", place⟩ :: rest => some (⟨.fileSize, place⟩, rest)
  | ⟨.word name, place⟩ :: rest => if isName name then some (⟨.name name, place⟩, rest) else none
  | ⟨.integer value, place⟩ :: rest =>
    if value ≤ maxInteger then some (⟨.integer value, place⟩, rest) else none
  | ⟨.symbol .minus, sign⟩ :: ⟨.integer value, place⟩ :: rest =>
    if value ≤ maxNegated then some (⟨.integer (-(value : Int)), sign.through place⟩, rest) else none
  | ⟨.decimal digits places, place⟩ :: rest =>
    some (⟨.real (realBits false digits places), place⟩, rest)
  | ⟨.symbol .minus, sign⟩ :: ⟨.decimal digits places, place⟩ :: rest =>
    some (⟨.real (realBits true digits places), sign.through place⟩, rest)
  | ⟨.text bytes, place⟩ :: rest => some (⟨.text bytes, place⟩, rest)
  | _ => none

def readAtom (tokens : List Lexeme) : Option (Located Expression × List Lexeme) :=
  match tokens with
  | ⟨.word "true", place⟩ :: rest => some (⟨.constant true, place⟩, rest)
  | ⟨.word "false", place⟩ :: rest => some (⟨.constant false, place⟩, rest)
  | ⟨.word "any", first⟩ :: ⟨.word "of", _⟩ :: ⟨.word "them", last⟩ :: rest =>
    some (⟨.anyOfThem, first.through last⟩, rest)
  | ⟨.word "all", first⟩ :: ⟨.word "of", _⟩ :: ⟨.word "them", last⟩ :: rest =>
    some (⟨.allOfThem, first.through last⟩, rest)
  | ⟨.pattern name, place⟩ :: rest => some (⟨.pattern ⟨name, place⟩, place⟩, rest)
  | tokens =>
    match readTerm tokens with
    | none => none
    | some (left, ⟨.symbol (.relation sign), _⟩ :: rest) =>
      match Relation.ofSymbol sign, readTerm rest with
      | some relation, some (right, rest) =>
        some (⟨.compare relation left right, left.place.through right.place⟩, rest)
      | _, _ => none
    | some (left, rest) => some (⟨.term left, left.place⟩, rest)

theorem readTerm_shortens {tokens rest : List Lexeme} {term : Located Term}
    (read : readTerm tokens = some (term, rest)) : rest.length < tokens.length := by
  unfold readTerm at read
  split at read <;> (try split at read) <;> simp at read <;>
    (obtain ⟨_, rfl⟩ := read; simp only [List.length_cons]; omega)

theorem readAtom_shortens {tokens rest : List Lexeme} {expression : Located Expression}
    (read : readAtom tokens = some (expression, rest)) : rest.length < tokens.length := by
  unfold readAtom at read
  split at read
  case h_6 =>
    split at read
    · simp at read
    · next left sign after found =>
      have first := readTerm_shortens found
      split at read
      · next final _ again =>
        have second := readTerm_shortens again
        simp only [Option.some.injEq, Prod.mk.injEq] at read
        simp only [List.length_cons] at first
        rw [← read.2]
        omega
      · simp at read
    · next found =>
      simp only [Option.some.injEq, Prod.mk.injEq] at read
      exact read.2 ▸ readTerm_shortens found
  all_goals
    simp only [Option.some.injEq, Prod.mk.injEq] at read
    rw [← read.2]
    simp only [List.length_cons]
    omega

abbrev ReadFrom (tokens : List Lexeme) :=
  Option (Located Expression × { rest : List Lexeme // rest.length < tokens.length })

def joined (join : Expression → Expression → Expression) (left right : Located Expression) :
    Located Expression :=
  ⟨join left.value right.value, left.place.through right.place⟩

mutual

def readEither (tokens : List Lexeme) : ReadFrom tokens :=
  match readBoth tokens with
  | none => none
  | some (left, ⟨⟨.word word, place⟩ :: rest, shorter⟩) =>
    if word = "or" then
      match readEither rest with
      | none => none
      | some (right, ⟨rest, deeper⟩) =>
        some (joined .either left right, ⟨rest, by simp only [List.length_cons] at shorter; omega⟩)
    else some (left, ⟨⟨.word word, place⟩ :: rest, shorter⟩)
  | some (left, rest) => some (left, rest)
termination_by (tokens.length, 2)
decreasing_by
  · exact Prod.Lex.right _ (by decide)
  · exact Prod.Lex.left _ _ (by simp only [List.length_cons] at shorter; omega)

def readBoth (tokens : List Lexeme) : ReadFrom tokens :=
  match readNot tokens with
  | none => none
  | some (left, ⟨⟨.word word, place⟩ :: rest, shorter⟩) =>
    if word = "and" then
      match readBoth rest with
      | none => none
      | some (right, ⟨rest, deeper⟩) =>
        some (joined .both left right, ⟨rest, by simp only [List.length_cons] at shorter; omega⟩)
    else some (left, ⟨⟨.word word, place⟩ :: rest, shorter⟩)
  | some (left, rest) => some (left, rest)
termination_by (tokens.length, 1)
decreasing_by
  · exact Prod.Lex.right _ (by decide)
  · exact Prod.Lex.left _ _ (by simp only [List.length_cons] at shorter; omega)

def readNot (tokens : List Lexeme) : ReadFrom tokens :=
  match tokens with
  | ⟨.word "not", place⟩ :: rest =>
    match readNot rest with
    | none => none
    | some (inner, ⟨rest, shorter⟩) =>
      some (⟨.not inner.value, place.through inner.place⟩,
        ⟨rest, by simp only [List.length_cons]; omega⟩)
  | ⟨.symbol .openParenthesis, _⟩ :: rest =>
    match readEither rest with
    | some (inner, ⟨⟨.symbol .closeParenthesis, _⟩ :: rest, shorter⟩) =>
      some (⟨.group inner.value, inner.place⟩,
        ⟨rest, by simp only [List.length_cons] at shorter ⊢; omega⟩)
    | _ => none
  | tokens =>
    match found : readAtom tokens with
    | none => none
    | some (atom, rest) => some (atom, ⟨rest, readAtom_shortens found⟩)
termination_by (tokens.length, 0)
decreasing_by
  · exact Prod.Lex.left _ _ (by simp)
  · exact Prod.Lex.left _ _ (by simp)

end

/-! ## Rules -/

def readNames : List Lexeme → List (Located String) × List Lexeme
  | ⟨.word name, place⟩ :: rest =>
    if isName name then
      let others := readNames rest
      (⟨name, place⟩ :: others.1, others.2)
    else ([], ⟨.word name, place⟩ :: rest)
  | tokens => ([], tokens)

def readTags : List Lexeme → Option (List (Located String) × List Lexeme)
  | ⟨.symbol .colon, _⟩ :: rest =>
    let tags := readNames rest
    if tags.1.isEmpty then none else some tags
  | tokens => some ([], tokens)

def metaInteger (value : Int) : Option MetaValue :=
  if -(Nat.pow 2 63 : Int) < value ∧ value < Nat.pow 2 63 then some (.integer (Int64.ofInt value)) else none

def readMetaValue : List Lexeme → Option (MetaValue × List Lexeme)
  | ⟨.word "true", _⟩ :: rest => some (.truth true, rest)
  | ⟨.word "false", _⟩ :: rest => some (.truth false, rest)
  | ⟨.text bytes, _⟩ :: rest => some (.bytes bytes, rest)
  | tokens =>
    match readTerm tokens with
    | some (⟨.integer value, _⟩, rest) => (metaInteger value).map (·, rest)
    | some (⟨.real bits, _⟩, rest) => some (.real bits, rest)
    | _ => none

theorem readMetaValue_le {tokens rest : List Lexeme} {value : MetaValue}
    (read : readMetaValue tokens = some (value, rest)) : rest.length ≤ tokens.length := by
  unfold readMetaValue at read
  split at read
  case h_4 =>
    split at read
    · next found =>
      obtain ⟨_, _, same⟩ := Option.map_eq_some_iff.mp read
      simp only [Prod.mk.injEq] at same
      exact same.2 ▸ Nat.le_of_lt (readTerm_shortens found)
    · next found =>
      simp only [Option.some.injEq, Prod.mk.injEq] at read
      exact read.2 ▸ Nat.le_of_lt (readTerm_shortens found)
    · simp at read
  all_goals
    simp only [Option.some.injEq, Prod.mk.injEq] at read
    rw [← read.2]
    simp

def readMetadata (tokens : List Lexeme) : Option (List (String × MetaValue) × List Lexeme) :=
  match tokens with
  | ⟨.word name, _⟩ :: ⟨.symbol .assign, _⟩ :: rest =>
    if isName name then
      match _ : readMetaValue rest with
      | none => none
      | some (value, rest) =>
        (readMetadata rest).map fun (others, rest) => ((name, value) :: others, rest)
    else none
  | tokens => some ([], tokens)
termination_by tokens.length
decreasing_by
  have := readMetaValue_le ‹_›
  simp only [List.length_cons]
  omega

def readPatterns : List Lexeme → Option (List PatternDeclaration × List Lexeme)
  | ⟨.pattern name, place⟩ :: ⟨.symbol .assign, _⟩ :: ⟨.text bytes, body⟩ ::
      ⟨.word "nocase", last⟩ :: rest =>
    (readPatterns rest).map fun (others, rest) =>
      (⟨⟨name, place⟩, .literal bytes true, body.through last⟩ :: others, rest)
  | ⟨.pattern name, place⟩ :: ⟨.symbol .assign, _⟩ :: ⟨.text bytes, body⟩ :: rest =>
    (readPatterns rest).map fun (others, rest) =>
      (⟨⟨name, place⟩, .literal bytes false, body⟩ :: others, rest)
  | ⟨.pattern name, place⟩ :: ⟨.symbol .assign, _⟩ :: ⟨.expression text, body⟩ :: rest =>
    (readPatterns rest).map fun (others, rest) =>
      (⟨⟨name, place⟩, .expression text, body⟩ :: others, rest)
  | ⟨.pattern _, _⟩ :: _ => none
  | tokens => some ([], tokens)

def readSection {α : Type} (title : String)
    (entries : List Lexeme → Option (List α × List Lexeme)) :
    List Lexeme → Option (List α × List Lexeme)
  | ⟨.word word, place⟩ :: ⟨.symbol .colon, colon⟩ :: rest =>
    if word = title then
      match entries rest with
      | none => none
      | some (found, rest) => if found.isEmpty then none else some (found, rest)
    else some ([], ⟨.word word, place⟩ :: ⟨.symbol .colon, colon⟩ :: rest)
  | tokens => some ([], tokens)

def readCondition : List Lexeme → Option (Located Expression × List Lexeme)
  | ⟨.word "condition", _⟩ :: ⟨.symbol .colon, _⟩ :: rest =>
    match readEither rest with
    | some (condition, ⟨⟨.symbol .closeBrace, _⟩ :: rest, _⟩) => some (condition, rest)
    | _ => none
  | _ => none

def readRule (name : Located String) (tokens : List Lexeme) :
    Option (RuleDeclaration × List Lexeme) := do
  let (tags, tokens) ← readTags tokens
  match tokens with
  | ⟨.symbol .openBrace, _⟩ :: tokens =>
    let (metadata, tokens) ← readSection "meta" readMetadata tokens
    let (patterns, tokens) ← readSection "strings" readPatterns tokens
    let (condition, tokens) ← readCondition tokens
    return (⟨name, tags, metadata, patterns, condition⟩, tokens)
  | _ => none

def readRules : Nat → List Lexeme → Option (List RuleDeclaration)
  | _, [] => some []
  | fuel + 1, ⟨.word "rule", _⟩ :: ⟨.word name, place⟩ :: rest =>
    if isName name then
      match readRule ⟨name, place⟩ rest with
      | none => none
      | some (rule, rest) => (readRules fuel rest).map (rule :: ·)
    else none
  | _, _ => none

/-- How deep the parts of a condition may lie below it; a rule whose condition goes deeper is passed over
as if it was not there. -/
def maxDepth : Nat := 2994

def declarations? (source : List Char) : Option (List RuleDeclaration) :=
  match Token.scanAll source with
  | none => none
  | some tokens =>
    (readRules tokens.length tokens).map
      (·.filter fun rule => rule.condition.value.depth ≤ maxDepth)

end RuleSmith.Language
