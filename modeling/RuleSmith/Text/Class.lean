import RuleSmith.Text.WordRanges
import RuleSmith.Text.DigitRanges

namespace RuleSmith.Text

def blankRanges : Ranges := [
    (0x9, 0xD), (0x20, 0x20), (0x85, 0x85), (0xA0, 0xA0), (0x1680, 0x1680), (0x2000, 0x200A),
    (0x2028, 0x2029), (0x202F, 0x202F), (0x205F, 0x205F), (0x3000, 0x3000)]

/-- Letters, marks, decimal digits, connectors and joiners. -/
def isWord (c : Char) : Bool := wordRanges.contains c.toNat

def isDigit (c : Char) : Bool := digitRanges.contains c.toNat

def isBlank (c : Char) : Bool := blankRanges.contains c.toNat

def trim (cs : List Char) : List Char :=
  ((cs.dropWhile isBlank).reverse.dropWhile isBlank).reverse

end RuleSmith.Text
