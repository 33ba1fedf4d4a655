import RuleSmith.InsertionMap
import RuleSmith.Text.Class

/-!
# References to strings

A condition refers to a string by a dollar sign and the run of word characters after it. A rule may
only declare the strings that its condition refers to, so candidates are filtered by the condition.
-/

namespace RuleSmith
open Text

abbrev Patterns := InsertionMap String String

namespace Reference

/-- The references of a condition, in order of position: each dollar sign that a word character
follows, with the whole run of word characters after it. -/
def scanChars : List Char → List (List Char)
  | [] => []
  | c :: rest =>
    if c = '$' then
      match rest.takeWhile isWord with
      | [] => scanChars rest
      | first :: others => ('$' :: first :: others) :: scanChars rest
    else scanChars rest

def scan (condition : String) : List String := (scanChars condition.toList).map String.ofList

def collect (candidates : Patterns) : List String → Patterns → Patterns
  | [], confirmed => confirmed
  | reference :: rest, confirmed =>
    if confirmed.contains reference then collect candidates rest confirmed
    else match candidates.get? reference with
      | none => collect candidates rest confirmed
      | some value => collect candidates rest (confirmed.insert reference value)

def filter (condition : String) (candidates : Patterns) : Patterns :=
  collect candidates (scan condition) .empty

def missing (condition : String) (present : Patterns) : List String :=
  (scan condition).foldl (fun missing reference =>
    if present.contains reference || missing.contains reference then missing
    else missing ++ [reference]) []

end Reference
end RuleSmith
