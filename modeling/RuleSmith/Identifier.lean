import RuleSmith.Text.Class

namespace RuleSmith.Identifier
open Text

/-- The longest name that compilers promise to take. -/
def maxLength : Nat := 128

def cleanChar (c : Char) : Char := if isWord c || isBlank c then c else '_'

def guardDigit : List Char → List Char
  | [] => []
  | c :: rest => if isDigit c then '_' :: c :: rest else c :: rest

def sanitize (raw : String) : String := String.ofList ((guardDigit raw.toList).map cleanChar)

def exceedsLimit (name : String) : Bool := maxLength < name.toList.length

def isBlankName (name : String) : Bool := name.toList.all isBlank

end RuleSmith.Identifier
