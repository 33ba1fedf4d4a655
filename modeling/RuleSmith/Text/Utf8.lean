namespace RuleSmith.Text

def utf8 (text : String) : List UInt8 := text.toUTF8.data.toList

def ofUtf8? (bytes : List UInt8) : Option String := String.fromUTF8? ⟨bytes.toArray⟩

def isContinuation (byte : UInt8) : Bool := 0x80 ≤ byte && byte ≤ 0xBF

def beginsThree (lead second : UInt8) : Bool :=
  (lead = 0xE0 && 0xA0 ≤ second && second ≤ 0xBF)
    || (0xE1 ≤ lead && lead ≤ 0xEC && isContinuation second)
    || (lead = 0xED && 0x80 ≤ second && second ≤ 0x9F)
    || (0xEE ≤ lead && lead ≤ 0xEF && isContinuation second)

def beginsFour (lead second : UInt8) : Bool :=
  (lead = 0xF0 && 0x90 ≤ second && second ≤ 0xBF)
    || (0xF1 ≤ lead && lead ≤ 0xF3 && isContinuation second)
    || (lead = 0xF4 && 0x80 ≤ second && second ≤ 0x8F)

/-- What follows the longest well-formed beginning of some bytes. -/
def dropWellFormed : List UInt8 → List UInt8
  | [] => []
  | [a] => if a < 0x80 then [] else [a]
  | [a, b] =>
    if a < 0x80 then dropWellFormed [b]
    else if 0xC2 ≤ a && a ≤ 0xDF && isContinuation b then []
    else [a, b]
  | [a, b, c] =>
    if a < 0x80 then dropWellFormed [b, c]
    else if 0xC2 ≤ a && a ≤ 0xDF && isContinuation b then dropWellFormed [c]
    else if beginsThree a b && isContinuation c then []
    else [a, b, c]
  | a :: b :: c :: d :: rest =>
    if a < 0x80 then dropWellFormed (b :: c :: d :: rest)
    else if 0xC2 ≤ a && a ≤ 0xDF && isContinuation b then dropWellFormed (c :: d :: rest)
    else if beginsThree a b && isContinuation c then dropWellFormed (d :: rest)
    else if beginsFour a b && isContinuation c && isContinuation d then dropWellFormed rest
    else a :: b :: c :: d :: rest

end RuleSmith.Text
