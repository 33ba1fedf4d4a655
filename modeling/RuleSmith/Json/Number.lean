import RuleSmith.Json.Blank

/-!
# Numbers

A number that has neither a fraction nor an exponent and fits into 64 bits is an integer; every
other number is a double. A double is reckoned from at most the leading digits that fit into 64 bits
and a power of ten: the digits are rounded once, and multiplying or dividing by the power rounds
again. Numbers beyond the largest double are refused, those below the smallest are zero.
-/

namespace RuleSmith.Json

inductive Number
  | natural (value : Nat)
  | negative (value : Nat)
  | real (bits : UInt64)
deriving DecidableEq

def Number.found : Number → Found
  | .natural value => .integer value
  | .negative value => .integer (-(value : Int))
  | .real bits => .real bits

def isDigit (byte : UInt8) : Bool := 0x30 ≤ byte && byte ≤ 0x39

def digitValue (byte : UInt8) : Nat := byte.toNat - 0x30

def isExponentMark (byte : UInt8) : Bool := byte = 'e'.toUInt8 || byte = 'E'.toUInt8

def takeDigits (value count : Nat) : Input → Nat × Nat × Input
  | [] => (value, count, [])
  | byte :: rest =>
    if isDigit byte && value * 10 + digitValue byte < Nat.pow 2 64 then
      takeDigits (value * 10 + digitValue byte) (count + 1) rest
    else (value, count, byte :: rest)

theorem takeDigits_le (value count : Nat) (input : Input) :
    (takeDigits value count input).2.2.length ≤ input.length := by
  induction input generalizing value count with
  | nil => simp [takeDigits]
  | cons byte rest ih =>
    unfold takeDigits
    split
    · exact Nat.le_succ_of_le (ih _ _)
    · exact Nat.le_refl _

def scale (value : Float) (power : Int) : Option Float :=
  if small : power.natAbs ≤ 308 then
    if 0 ≤ power then
      let product := value * Float.ofScientific 1 false power.natAbs
      if product.isInf then none else some product
    else some (value / Float.ofScientific 1 false power.natAbs)
  else if value == 0 then some value
  else if positive : 0 ≤ power then none
  else scale (value / Float.ofScientific 1 false 308) (power + 308)
termination_by power.natAbs
decreasing_by omega

def assemble (negative : Bool) (value : Nat) (power : Int) (rest : Input) :
    Except Fault (Number × Input) :=
  match scale (Float.ofNat value) power with
  | none => .error ⟨.numberOutOfRange, rest⟩
  | some magnitude =>
    .ok (.real (if negative then -magnitude else magnitude).toBits, rest)

def exponentSign : Input → Bool × Input
  | [] => (false, [])
  | byte :: rest =>
    if byte = '+'.toUInt8 then (false, rest)
    else if byte = '-'.toUInt8 then (true, rest)
    else (false, byte :: rest)

def maxExponent : Nat := Nat.pow 2 31 - 1

def takeExponent (value : Nat) : Input → Option Nat × Input
  | [] => (some value, [])
  | byte :: rest =>
    if isDigit byte then
      if value * 10 + digitValue byte ≤ maxExponent then
        takeExponent (value * 10 + digitValue byte) rest
      else (none, rest)
    else (some value, byte :: rest)

def readExponent (negative : Bool) (value : Nat) (power : Int) (input : Input) :
    Except Fault (Number × Input) :=
  let (down, input) := exponentSign input
  match input with
  | [] => .error ⟨.endInValue, []⟩
  | byte :: rest =>
    if isDigit byte then
      match takeExponent (digitValue byte) rest with
      | (some exponent, rest) =>
        assemble negative value (if down then power - exponent else power + exponent) rest
      | (none, rest) =>
        if value ≠ 0 && !down then .error ⟨.numberOutOfRange, rest⟩
        else .ok (.real (if negative then -0.0 else 0.0 : Float).toBits, rest.dropWhile isDigit)
    else .error ⟨.invalidNumber, rest⟩

def readTail (negative : Bool) (value : Nat) (power : Int) : Input → Except Fault (Number × Input)
  | [] => assemble negative value power []
  | byte :: rest =>
    if isExponentMark byte then readExponent negative value power rest
    else assemble negative value power (byte :: rest)

def readFraction (negative : Bool) (value : Nat) (power : Int) (input : Input) :
    Except Fault (Number × Input) :=
  match takeDigits value 0 input with
  | (value, count, rest) =>
    if (rest.head?.map isDigit).getD false then
      readTail negative value (power - count) (rest.dropWhile isDigit)
    else if count = 0 then
      match rest with
      | [] => .error ⟨.endInValue, []⟩
      | byte :: rest => .error (.atNext .invalidNumber (byte :: rest))
    else readTail negative value (power - count) rest

/-- An integer of at most 64 bits with its sign; negative zero is a double, and so is what lies
below the signed integers. -/
def wholeNumber (negative : Bool) (value : Nat) : Number :=
  if negative then
    if 0 < value ∧ value ≤ Nat.pow 2 63 then .negative value else .real (-(Float.ofNat value)).toBits
  else .natural value

def readInteger (negative : Bool) (value : Nat) : Input → Except Fault (Number × Input)
  | [] => .ok (wholeNumber negative value, [])
  | byte :: rest =>
    if byte = '.'.toUInt8 then readFraction negative value 0 rest
    else if isExponentMark byte then readExponent negative value 0 rest
    else .ok (wholeNumber negative value, byte :: rest)

def readLongInteger (negative : Bool) (value : Nat) (input : Input) :
    Except Fault (Number × Input) :=
  let power := (input.takeWhile isDigit).length
  match input.dropWhile isDigit with
  | [] => assemble negative value power []
  | byte :: rest =>
    if byte = '.'.toUInt8 then readFraction negative value power rest
    else readTail negative value power (byte :: rest)

def readNumber (negative : Bool) : Input → Except Fault (Number × Input)
  | [] => .error ⟨.endInValue, []⟩
  | byte :: rest =>
    if byte = '0'.toUInt8 then
      if (rest.head?.map isDigit).getD false then .error (.atNext .invalidNumber rest)
      else readInteger negative 0 rest
    else if isDigit byte then
      match takeDigits (digitValue byte) 0 rest with
      | (value, _, rest) =>
        if (rest.head?.map isDigit).getD false then readLongInteger negative value rest
        else readInteger negative value rest
    else .error ⟨.invalidNumber, rest⟩

theorem assemble_rest {negative : Bool} {value : Nat} {power : Int} {input rest : Input}
    {number : Number} (read : assemble negative value power input = .ok (number, rest)) :
    rest = input := by
  unfold assemble at read
  split at read
  · simp at read
  · simp only [Except.ok.injEq, Prod.mk.injEq] at read
    exact read.2.symm

theorem exponentSign_le (input : Input) : (exponentSign input).2.length ≤ input.length := by
  cases input with
  | nil => simp [exponentSign]
  | cons byte rest =>
    simp only [exponentSign]
    split
    · simp
    · split <;> simp

theorem takeExponent_le (value : Nat) (input : Input) :
    (takeExponent value input).2.length ≤ input.length := by
  induction input generalizing value with
  | nil => simp [takeExponent]
  | cons byte rest ih =>
    unfold takeExponent
    split
    · split
      · exact Nat.le_succ_of_le (ih _)
      · simp
    · simp

theorem readExponent_le {negative : Bool} {value : Nat} {power : Int} {input rest : Input}
    {number : Number} (read : readExponent negative value power input = .ok (number, rest)) :
    rest.length ≤ input.length := by
  have sign := exponentSign_le input
  unfold readExponent at read
  split at read
  next down after signed =>
  rw [signed] at sign
  split at read
  · simp at read
  next byte others =>
  have digits := takeExponent_le (digitValue byte) others
  simp only [List.length_cons] at sign
  split at read
  · split at read
    · next found =>
      rw [found] at digits
      rw [assemble_rest read]
      simp only at digits
      omega
    · next found =>
      rw [found] at digits
      split at read
      · simp at read
      · simp only [Except.ok.injEq, Prod.mk.injEq] at read
        obtain ⟨_, rfl⟩ := read
        rename_i after' _ _
        have dropped := (List.dropWhile_sublist (l := after') isDigit).length_le
        simp only at digits
        omega
  · simp at read

theorem readTail_le {negative : Bool} {value : Nat} {power : Int} {input rest : Input}
    {number : Number} (read : readTail negative value power input = .ok (number, rest)) :
    rest.length ≤ input.length := by
  cases input with
  | nil => exact Nat.le_of_eq (congrArg List.length (assemble_rest read))
  | cons byte others =>
    simp only [readTail] at read
    split at read
    · exact Nat.le_succ_of_le (readExponent_le read)
    · exact Nat.le_of_eq (congrArg List.length (assemble_rest read))

theorem readFraction_le {negative : Bool} {value : Nat} {power : Int} {input rest : Input}
    {number : Number} (read : readFraction negative value power input = .ok (number, rest)) :
    rest.length ≤ input.length := by
  have digits := takeDigits_le value 0 input
  unfold readFraction at read
  split at read
  next value' count others taken =>
  rw [taken] at digits
  simp only at digits
  split at read
  · have dropped := (List.dropWhile_sublist (l := others) isDigit).length_le
    have tail := readTail_le read
    omega
  · split at read
    · split at read <;> simp at read
    · exact Nat.le_trans (readTail_le read) digits

theorem readInteger_le {negative : Bool} {value : Nat} {input rest : Input} {number : Number}
    (read : readInteger negative value input = .ok (number, rest)) :
    rest.length ≤ input.length := by
  cases input with
  | nil =>
    simp only [readInteger, Except.ok.injEq, Prod.mk.injEq] at read
    obtain ⟨_, rfl⟩ := read
    exact Nat.le_refl _
  | cons byte others =>
    simp only [readInteger] at read
    split at read
    · exact Nat.le_succ_of_le (readFraction_le read)
    · split at read
      · exact Nat.le_succ_of_le (readExponent_le read)
      · simp only [Except.ok.injEq, Prod.mk.injEq] at read
        obtain ⟨_, rfl⟩ := read
        exact Nat.le_refl _

theorem readLongInteger_le {negative : Bool} {value : Nat} {input rest : Input} {number : Number}
    (read : readLongInteger negative value input = .ok (number, rest)) :
    rest.length ≤ input.length := by
  have dropped := (List.dropWhile_sublist (l := input) isDigit).length_le
  unfold readLongInteger at read
  split at read
  · rw [assemble_rest read]; simp
  · next byte others found =>
    rw [found, List.length_cons] at dropped
    split at read
    · exact Nat.le_trans (readFraction_le read) (by omega)
    · exact Nat.le_trans (readTail_le read) (by simpa using dropped)

theorem readNumber_shortens {negative : Bool} {input rest : Input} {number : Number}
    (read : readNumber negative input = .ok (number, rest)) : rest.length < input.length := by
  cases input with
  | nil => simp [readNumber] at read
  | cons byte others =>
    have digits := takeDigits_le (digitValue byte) 0 others
    simp only [readNumber] at read
    split at read
    · split at read
      · simp at read
      · exact Nat.lt_succ_of_le (readInteger_le read)
    · split at read
      · split at read
        · exact Nat.lt_succ_of_le (Nat.le_trans (readLongInteger_le read) digits)
        · exact Nat.lt_succ_of_le (Nat.le_trans (readInteger_le read) digits)
      · simp at read

end RuleSmith.Json
