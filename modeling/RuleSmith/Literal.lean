import RuleSmith.Text.Hex

/-!
# Text literals of the rule language

The body of a text literal stands between double quotes and denotes bytes. `escape` writes bytes as
such a body in printable ASCII; `read` reads a body up to its closing quote.
-/

namespace RuleSmith.Literal
open Text

def escapeByte (byte : UInt8) : List Char :=
  if byte = 0x22 then ['\\', '"']
  else if byte = 0x5C then ['\\', '\\']
  else if byte = 0x0A then ['\\', 'n']
  else if byte = 0x09 then ['\\', 't']
  else if byte = 0x0D then ['\\', 'r']
  else if 0x20 ≤ byte ∧ byte ≤ 0x7E then [Char.ofNat byte.toNat]
  else '\\' :: 'x' :: hexByte byte

def escapeChars (bytes : List UInt8) : List Char := bytes.flatMap escapeByte

def escape (bytes : List UInt8) : String := String.ofList (escapeChars bytes)

/-- Reads the body of a text literal up to its closing quote: the bytes it denotes and what follows
the quote. A line end inside the body, an unknown escape and a missing quote are refused. -/
def read : List Char → Option (List UInt8 × List Char)
  | [] => none
  | '"' :: rest => some ([], rest)
  | '\n' :: _ => none
  | '\\' :: '"' :: rest => (read rest).map fun (bytes, rest) => (0x22 :: bytes, rest)
  | '\\' :: '\\' :: rest => (read rest).map fun (bytes, rest) => (0x5C :: bytes, rest)
  | '\\' :: 'n' :: rest => (read rest).map fun (bytes, rest) => (0x0A :: bytes, rest)
  | '\\' :: 't' :: rest => (read rest).map fun (bytes, rest) => (0x09 :: bytes, rest)
  | '\\' :: 'r' :: rest => (read rest).map fun (bytes, rest) => (0x0D :: bytes, rest)
  | '\\' :: 'x' :: high :: low :: rest =>
    match hexValue? high, hexValue? low with
    | some high, some low =>
      (read rest).map fun (bytes, rest) => (UInt8.ofNat (16 * high + low) :: bytes, rest)
    | _, _ => none
  | '\\' :: _ => none
  | c :: rest => (read rest).map fun (bytes, rest) => (String.utf8EncodeChar c ++ bytes, rest)

end RuleSmith.Literal
