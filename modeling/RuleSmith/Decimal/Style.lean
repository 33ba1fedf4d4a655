import RuleSmith.Decimal.Shortest

namespace RuleSmith.Decimal

structure Style where
  /-- The powers of ten of the first digit that are written out in full; all of them if absent. -/
  positional : Option (Int × Int)
  keepsPoint : Bool
  tieUp : Bool

def Style.full (style : Style) (digits : List Char) (exponent : Int) : List Char :=
  if 0 ≤ exponent then
    digits ++ List.replicate exponent.toNat '0' ++ (if style.keepsPoint then ['.', '0'] else [])
  else
    let places := (-exponent).toNat
    if places < digits.length then
      digits.take (digits.length - places) ++ '.' :: digits.drop (digits.length - places)
    else '0' :: '.' :: List.replicate (places - digits.length) '0' ++ digits

def scientific (digits : List Char) (leading : Int) : List Char :=
  let fraction := match digits with
    | [] => []
    | [first] => [first]
    | first :: others => first :: '.' :: others
  let sign := if leading < 0 then '-' else '+'
  fraction ++ 'e' :: sign :: Nat.toDigits 10 leading.natAbs

def Style.write (style : Style) (bits : UInt64) : String :=
  let sign := if bits.toNat / Nat.pow 2 63 = 1 then ['-'] else []
  let magnitude := bits.toNat % Nat.pow 2 63
  if magnitude = 0x7FF0000000000000 then String.ofList (sign ++ ['i', 'n', 'f'])
  else if magnitude > 0x7FF0000000000000 then "NaN"
  else if magnitude = 0 then
    String.ofList (sign ++ '0' :: if style.keepsPoint then ['.', '0'] else [])
  else
    let shortest := shortest (Binary.ofBits magnitude) style.tieUp
    let digits := Nat.toDigits 10 shortest.value
    let leading := shortest.exponent + digits.length - 1
    let inFull := match style.positional with
      | none => true
      | some (low, high) => low ≤ leading && leading ≤ high
    String.ofList (sign ++
      if inFull then style.full digits shortest.exponent else scientific digits leading)

end RuleSmith.Decimal
