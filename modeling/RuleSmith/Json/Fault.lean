import RuleSmith.Decimal.Style
import RuleSmith.Text.Quoted

namespace RuleSmith.Json
open Text

abbrev Input := List UInt8

inductive Found
  | null
  | truth (value : Bool)
  | integer (value : Int)
  | real (bits : UInt64)
  | text (value : String)
  | sequence
  | map
deriving DecidableEq

inductive Expected
  | text
  | sequence
  | map
  | truth
  | integer
  | record (name : String)
deriving DecidableEq

inductive Cause
  | endInValue
  | endInList
  | endInObject
  | endInText
  | expectedColon
  | expectedListCommaOrEnd
  | expectedObjectCommaOrEnd
  | expectedWord
  | expectedValue
  | keyNotText
  | trailingComma
  | trailingCharacters
  | invalidNumber
  | numberOutOfRange
  | controlCharacter
  | invalidEscape
  | loneSurrogate
  | unfinishedSurrogate
  | invalidCodePoint
  | invalidType (found : Found) (expected : Expected)
  | integerTooLarge (value : Nat)
  | missingField (name : String)
  | duplicateField (name : String)
  | tooShort (length : Nat) (name : String) (fields : Nat)
deriving DecidableEq

structure Fault where
  cause : Cause
  rest : Input
deriving DecidableEq

structure Error where
  cause : Cause
  line : Nat
  column : Nat
deriving DecidableEq

def nextPlace (place : Nat × Nat) (byte : UInt8) : Nat × Nat :=
  if byte = 0x0A then (place.1 + 1, 0) else (place.1, place.2 + 1)

def placeAfter (bytes : Input) : Nat × Nat := bytes.foldl nextPlace (1, 0)

def Fault.locate (whole : Input) (fault : Fault) : Error :=
  let place := placeAfter (whole.take (whole.length - fault.rest.length))
  ⟨fault.cause, place.1, place.2⟩

/-- Doubles in messages are written in full from five places after the point up to sixteen before
it. -/
def messageStyle : Decimal.Style := ⟨some (-5, 15), true, false⟩

def Found.describe : Found → String
  | .null => "null"
  | .truth value => "boolean `" ++ (if value then "true" else "false") ++ "`"
  | .integer value => "integer `" ++ toString value ++ "`"
  | .real bits => "floating point `" ++ messageStyle.write bits ++ "`"
  | .text value => "string " ++ quoted value
  | .sequence => "sequence"
  | .map => "map"

def Expected.describe : Expected → String
  | .text => "a string"
  | .sequence => "a sequence"
  | .map => "a map with string keys"
  | .truth => "a boolean"
  | .integer => "i64"
  | .record name => "struct " ++ name

def Cause.message : Cause → String
  | .endInValue => "EOF while parsing a value"
  | .endInList => "EOF while parsing a list"
  | .endInObject => "EOF while parsing an object"
  | .endInText => "EOF while parsing a string"
  | .expectedColon => "expected `:`"
  | .expectedListCommaOrEnd => "expected `,` or `]`"
  | .expectedObjectCommaOrEnd => "expected `,` or `\x7d`"
  | .expectedWord => "expected ident"
  | .expectedValue => "expected value"
  | .keyNotText => "key must be a string"
  | .trailingComma => "trailing comma"
  | .trailingCharacters => "trailing characters"
  | .invalidNumber => "invalid number"
  | .numberOutOfRange => "number out of range"
  | .controlCharacter => "control character (\\u0000-\\u001F) found while parsing a string"
  | .invalidEscape => "invalid escape"
  | .loneSurrogate => "lone leading surrogate in hex escape"
  | .unfinishedSurrogate => "unexpected end of hex escape"
  | .invalidCodePoint => "invalid unicode code point"
  | .invalidType found expected =>
    "invalid type: " ++ found.describe ++ ", expected " ++ expected.describe
  | .integerTooLarge value =>
    "invalid value: integer `" ++ toString value ++ "`, expected " ++ Expected.integer.describe
  | .missingField name => "missing field `" ++ name ++ "`"
  | .duplicateField name => "duplicate field `" ++ name ++ "`"
  | .tooShort length name fields =>
    "invalid length " ++ toString length ++ ", expected " ++ (Expected.record name).describe
      ++ " with " ++ toString fields ++ " elements"

def Error.message (error : Error) : String :=
  error.cause.message ++ " at line " ++ toString error.line ++ " column " ++ toString error.column

end RuleSmith.Json
