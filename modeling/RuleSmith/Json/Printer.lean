import RuleSmith.InsertionMap
import RuleSmith.Text.Hex

namespace RuleSmith.Json
open Text

inductive Layout
  | compact
  | pretty (depth : Nat)

def Layout.inner : Layout → Layout
  | .compact => .compact
  | .pretty depth => .pretty (depth + 1)

def Layout.line : Layout → List Char
  | .compact => []
  | .pretty depth => '\n' :: List.replicate (2 * depth) ' '

def Layout.colon : Layout → List Char
  | .compact => [':']
  | .pretty _ => [':', ' ']

abbrev Printable := Layout → List Char

def Printable.compact (value : Printable) : String := String.ofList (value .compact)

def Printable.pretty (value : Printable) : String := String.ofList (value (.pretty 0))

def printChar (c : Char) : List Char :=
  if c = '"' then ['\\', '"']
  else if c = '\\' then ['\\', '\\']
  else if c = '\x08' then ['\\', 'b']
  else if c = '\x0c' then ['\\', 'f']
  else if c = '\n' then ['\\', 'n']
  else if c = '\r' then ['\\', 'r']
  else if c = '\t' then ['\\', 't']
  else if c.toNat < 0x20 then '\\' :: 'u' :: '0' :: '0' :: hexByte (UInt8.ofNat c.toNat)
  else [c]

def printText (text : String) : List Char := '"' :: text.toList.flatMap printChar ++ ['"']

def bracketed (opening closing : Char) (items : List Printable) : Printable := fun layout =>
  match items with
  | [] => [opening, closing]
  | _ =>
    opening :: [','].intercalate (items.map fun item => layout.inner.line ++ item layout.inner)
      ++ layout.line ++ [closing]

namespace Printable

def text (value : String) : Printable := fun _ => printText value

def truth (value : Bool) : Printable := fun _ =>
  if value then ['t', 'r', 'u', 'e'] else ['f', 'a', 'l', 's', 'e']

def int64 (value : Int64) : Printable := fun _ => (toString value.toInt).toList

def list (items : List Printable) : Printable := bracketed '[' ']' items

def object (members : List (String × Printable)) : Printable :=
  bracketed '{' '}' (members.map fun member => fun layout =>
    printText member.1 ++ layout.colon ++ member.2 layout)

def map {α : Type} (item : α → Printable) (entries : InsertionMap String α) : Printable :=
  object (entries.toList.map fun entry => (entry.1, item entry.2))

end Printable
end RuleSmith.Json
