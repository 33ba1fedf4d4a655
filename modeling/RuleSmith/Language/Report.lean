import RuleSmith.Language.Place
import RuleSmith.Text.Width

/-!
# Reports on a source

What a compiler finds is shown below the line of the source where it stands, underlined and labelled:

    error[E013]: rule `uint32` conflicts with an existing identifier
     --> line:1:6
      |
    1 | rule uint32
      |      ^^^^^^ identifier already in use by a module or global variable

Lines and columns are counted from one. Between two shown lines a single one is shown too, and more are
left out.
-/

namespace RuleSmith.Language
open Text

inductive Severity
  | error
  | warning
deriving DecidableEq

structure Label where
  place : Place
  text : String
  isReason : Bool
deriving DecidableEq

structure Report where
  severity : Severity
  code : String
  title : String
  labels : List Label
  note : Option String
deriving DecidableEq

def linesOf (text : List Char) : List (List Char) := text.splitOn '\n'

structure Mark where
  line : Nat
  start : Nat
  length : Nat
  text : String
  isReason : Bool
deriving DecidableEq

def Label.mark (source : List Char) (label : Label) : Mark :=
  let before := linesOf (source.take (offset source label.place.start))
  { line := before.length - 1
    start := (before.getLast?.getD []).length
    length := ((linesOf label.place.text).head?.getD []).length
    text := label.text
    isReason := label.isReason }

def blanks (count : Nat) : List Char := List.replicate count ' '

def shown (line : List Char) : List Char := line.flatMap fun c => if c = '\t' then blanks 4 else [c]

def Mark.column (mark : Mark) (line : List Char) : Nat := width (shown (line.take mark.start))

def Mark.breadth (mark : Mark) (line : List Char) : Nat :=
  max 1 (width (shown ((line.drop mark.start).take mark.length)))

def Mark.stroke (severity : Severity) (mark : Mark) : Char :=
  if severity = .error && mark.isReason then '^' else '-'

def spread (pieces : List (Nat × List Char)) : List Char :=
  pieces.foldl (fun written piece => written ++ blanks (piece.1 - width written) ++ piece.2) []

/-- The labels of marks that are given from right to left, each on a line of its own below bars that
lead up to the marks still to come. -/
def hanging (line : List Char) : List Mark → List (List Char)
  | [] => []
  | mark :: others =>
    let bars := others.reverse.map fun other => (other.column line, ['|'])
    spread (bars ++ [(mark.column line, mark.text.toList)]) :: hanging line others

def underlines (severity : Severity) (line : List Char) (marks : List Mark) : List (List Char) :=
  let stroke (mark : Mark) :=
    (mark.column line, List.replicate (mark.breadth line) (mark.stroke severity))
  match marks.reverse with
  | [] => []
  | last :: others =>
    let drawn := spread (marks.map stroke) ++ [' '] ++ last.text.toList
    if others.isEmpty then [drawn]
    else
      let bars := marks.dropLast.map fun mark => (mark.column line, ['|'])
      drawn :: spread bars :: hanging line others

def margined (margin : Nat) (number : String) (line : List Char) : List Char :=
  let gutter := number.toList ++ blanks (margin - number.length) ++ [' ', '|']
  if line.isEmpty then gutter else gutter ++ [' '] ++ line

def sourceLine (margin : Nat) (lines : List (List Char)) (index : Nat) : List Char :=
  margined margin (toString (index + 1)) (shown (lines[index]?.getD []))

def excerpt (severity : Severity) (margin : Nat) (lines : List (List Char)) (marks : List Mark) :
    List Nat → List (List Char)
  | [] => []
  | index :: others =>
    let line := lines[index]?.getD []
    let here := marks.filter fun mark => mark.line = index
    let below := (underlines severity line here).map (margined margin "")
    let between := match others with
      | [] => []
      | next :: _ =>
        if next = index + 1 then []
        else if next = index + 2 then [sourceLine margin lines (index + 1)]
        else [['.', '.', '.']]
    sourceLine margin lines index :: below ++ between
      ++ excerpt severity margin lines marks others

def sortedMarks (marks : List Mark) : List Mark :=
  marks.mergeSort fun left right =>
    left.line < right.line || (left.line = right.line && left.start ≤ right.start)

def chiefMark (severity : Severity) (marks : List Mark) : Option Mark :=
  (marks.find? fun mark => severity = .error && mark.isReason).or marks.head?

def Severity.name : Severity → String
  | .error => "error"
  | .warning => "warning"

def Report.body (source : List Char) (report : Report) : List (List Char) :=
  let marks := sortedMarks (report.labels.map (Label.mark source))
  match chiefMark report.severity marks with
  | none => []
  | some chief =>
    let indices := (marks.map Mark.line).eraseDups
    let margin := (toString ((indices.getLast?.getD 0) + 1)).length
    let place := "--> line:" ++ toString (chief.line + 1) ++ ":" ++ toString (chief.start + 1)
    (blanks margin ++ place.toList) :: margined margin "" []
      :: excerpt report.severity margin (linesOf source) marks indices
      ++ match report.note with
        | none => []
        | some note =>
          [margined margin "" [], blanks margin ++ (" = note: " ++ note).toList]

def Report.text (source : List Char) (report : Report) : String :=
  let title := report.severity.name ++ "[" ++ report.code ++ "]: " ++ report.title
  "\n".intercalate (title :: (report.body source).map String.ofList)

end RuleSmith.Language
