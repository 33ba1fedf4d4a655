/-!
# The fewest digits that read back

A finite double is an integer times a power of two. The numbers that round to it form an interval,
whose ends belong to it when that integer is even. `shortest` searches the decimal grids from one
digit to seventeen for a point of the interval next to the number, and takes the nearer of two.
-/

namespace RuleSmith.Decimal

structure Binary where
  significand : Nat
  exponent : Int
  lowerGapHalved : Bool

structure Digits where
  value : Nat
  exponent : Int
deriving DecidableEq, Repr

def Binary.ofBits (bits : Nat) : Binary :=
  let fraction : Nat := bits % Nat.pow 2 52
  let biased : Nat := bits / Nat.pow 2 52
  if biased = 0 then ⟨fraction, -1074, false⟩
  else ⟨Nat.pow 2 52 + fraction, (biased : Int) - 1075, fraction = 0 && biased > 1⟩

structure Grid where
  value : Nat
  low : Nat
  high : Nat
  step : Nat
  closed : Bool

def Binary.grid (b : Binary) (power : Int) : Grid :=
  let unit := b.exponent - 2
  let up := Nat.pow 2 unit.toNat * Nat.pow 10 (-power).toNat
  let quarters := 4 * b.significand
  { value := quarters * up
    low := (quarters - if b.lowerGapHalved then 1 else 2) * up
    high := (quarters + 2) * up
    step := Nat.pow 2 (-unit).toNat * Nat.pow 10 power.toNat
    closed := b.significand % 2 = 0 }

def Grid.admits (g : Grid) (point : Nat) : Bool :=
  if g.closed then g.low ≤ point * g.step && point * g.step ≤ g.high
  else g.low < point * g.step && point * g.step < g.high

/-- The point next to the number that rounds to it, the nearer one of two; a tie goes to the upper
point if `tieUp` says so and to the even point else. -/
def Grid.nearest? (g : Grid) (tieUp : Bool) : Option Nat :=
  let below := g.value / g.step
  let above := below + 1
  match g.admits below, g.admits above with
  | true, true =>
    let toBelow := g.value - below * g.step
    let toAbove := above * g.step - g.value
    if toBelow < toAbove then some below
    else if toAbove < toBelow then some above
    else if tieUp || below % 2 = 1 then some above
    else some below
  | true, false => some below
  | false, true => some above
  | false, false => none

/-- How many decimal places after the point a number below one has before its first digit counts,
that digit included; at most `fuel`. -/
def leadingPlaces (numerator denominator : Nat) : Nat → Nat
  | 0 => 0
  | fuel + 1 =>
    if denominator ≤ numerator then 0
    else leadingPlaces (numerator * 10) denominator fuel + 1

def Binary.magnitude (b : Binary) : Int :=
  let numerator := b.significand * Nat.pow 2 b.exponent.toNat
  let denominator := Nat.pow 2 (-b.exponent).toNat
  if denominator ≤ numerator then ((Nat.toDigits 10 (numerator / denominator)).length : Int)
  else 1 - (leadingPlaces numerator denominator 400 : Int)

def Digits.strip (d : Digits) : Nat → Digits
  | 0 => d
  | fuel + 1 =>
    if d.value % 10 = 0 && d.value ≠ 0 then Digits.strip ⟨d.value / 10, d.exponent + 1⟩ fuel else d

def shortest (b : Binary) (tieUp : Bool) : Digits :=
  let magnitude := b.magnitude
  let found := (List.range 17).findSome? fun n =>
    let power := magnitude - (n + 1 : Nat)
    ((b.grid power).nearest? tieUp).map fun point => Digits.mk point power
  (found.getD ⟨0, 0⟩).strip 18

end RuleSmith.Decimal
