import RuleSmith.Language.Place
import RuleSmith.Literal

namespace RuleSmith.Language

inductive Symbol
  | openBrace
  | closeBrace
  | openParenthesis
  | closeParenthesis
  | colon
  | assign
  | minus
  | relation (relation : List Char)
deriving DecidableEq

inductive Token
  | word (text : String)
  | pattern (name : String)
  | integer (value : Nat)
  | decimal (digits places : Nat)
  | text (bytes : List UInt8)
  | expression (body : List Char)
  | symbol (symbol : Symbol)
deriving DecidableEq

def isWordStart (c : Char) : Bool := c.isAlpha || c = '_'

def isWordChar (c : Char) : Bool := c.isAlphanum || c = '_'

def isSeparator (c : Char) : Bool := c = ' ' || c = '\t' || c = '\n' || c = '\r'

def decimalValue (digits : List Char) : Nat :=
  digits.foldl (fun value c => value * 10 + (c.toNat - 0x30)) 0

def hexValue (digits : List Char) : Nat :=
  digits.foldl (fun value c => value * 16 + (Text.hexValue? c).getD 0) 0

theorem left_of_map {α β : Type} {read : Option (α × List Char)}
    {make : α × List Char → β × List Char} {value : β} {rest : List Char}
    (mapped : read.map make = some (value, rest)) (keeps : ∀ part, (make part).2 = part.2) :
    ∃ inner, read = some (inner, rest) := by
  obtain ⟨⟨inner, after⟩, found, same⟩ := Option.map_eq_some_iff.mp mapped
  have kept : rest = after := by simpa only [same] using keeps (inner, after)
  exact ⟨inner, kept ▸ found⟩

def afterComment : List Char → Option (List Char)
  | [] => none
  | '*' :: '/' :: rest => some rest
  | _ :: rest => afterComment rest

theorem afterComment_le {input rest : List Char} (closed : afterComment input = some rest) :
    rest.length ≤ input.length := by
  fun_induction afterComment input with
  | case1 => simp at closed
  | case2 others =>
    simp only [Option.some.injEq] at closed
    simp only [← closed, List.length_cons]
    omega
  | case3 c others _ ih => exact Nat.le_succ_of_le (ih closed)

def expressionBody : List Char → Option (List Char × List Char)
  | [] => none
  | '\n' :: _ => none
  | '/' :: rest => some ([], rest)
  | '\\' :: c :: rest => (expressionBody rest).map fun (body, rest) => ('\\' :: c :: body, rest)
  | c :: rest => (expressionBody rest).map fun (body, rest) => (c :: body, rest)

theorem expressionBody_le {input body rest : List Char}
    (closed : expressionBody input = some (body, rest)) : rest.length ≤ input.length := by
  fun_induction expressionBody input generalizing body rest with
  | case1 => simp at closed
  | case2 => simp at closed
  | case3 others =>
    simp only [Option.some.injEq, Prod.mk.injEq] at closed
    simp [← closed.2]
  | case4 c others ih =>
    obtain ⟨inner, found⟩ := left_of_map closed fun _ => rfl
    exact Nat.le_succ_of_le (Nat.le_succ_of_le (ih found))
  | case5 c others _ _ _ ih =>
    obtain ⟨inner, found⟩ := left_of_map closed fun _ => rfl
    exact Nat.le_succ_of_le (ih found)

theorem literal_le {input rest : List Char} {bytes : List UInt8}
    (read : Literal.read input = some (bytes, rest)) : rest.length ≤ input.length := by
  fun_induction Literal.read input generalizing bytes rest with
  | case2 others =>
    simp only [Option.some.injEq, Prod.mk.injEq] at read
    simp [← read.2]
  | case1 | case3 | case11 | case10 => simp at read
  | _ =>
    rename_i ih
    obtain ⟨inner, found⟩ := left_of_map read fun _ => rfl
    have := ih found
    simp only [List.length_cons]
    omega

def sizeSuffix : List Char → Nat × List Char
  | 'K' :: 'B' :: rest => (Nat.pow 2 10, rest)
  | 'M' :: 'B' :: rest => (Nat.pow 2 20, rest)
  | rest => (1, rest)

theorem sizeSuffix_le (input : List Char) : (sizeSuffix input).2.length ≤ input.length := by
  unfold sizeSuffix
  split <;> simp <;> omega

def isOctalDigit (c : Char) : Bool := '0' ≤ c && c ≤ '7'

def octalValue (digits : List Char) : Nat :=
  digits.foldl (fun value c => value * 8 + (c.toNat - 0x30)) 0

def scanDecimal (first : Char) (rest : List Char) : Token × List Char :=
  let digits := first :: rest.takeWhile Char.isDigit
  match rest.dropWhile Char.isDigit with
  | '.' :: after =>
    let places := after.takeWhile Char.isDigit
    if places.isEmpty then (.integer (decimalValue digits), '.' :: after)
    else (.decimal (decimalValue (digits ++ places)) places.length, after.dropWhile Char.isDigit)
  | after =>
    let suffix := sizeSuffix after
    (.integer (decimalValue digits * suffix.1), suffix.2)

def scanNumber (first : Char) (rest : List Char) : Token × List Char :=
  match first, rest with
  | '0', 'x' :: digit :: after =>
    if (Text.hexValue? digit).isSome then
      (.integer (hexValue (digit :: after.takeWhile fun c => (Text.hexValue? c).isSome)),
        after.dropWhile fun c => (Text.hexValue? c).isSome)
    else scanDecimal first rest
  | '0', 'o' :: digit :: after =>
    if isOctalDigit digit then
      (.integer (octalValue (digit :: after.takeWhile isOctalDigit)), after.dropWhile isOctalDigit)
    else scanDecimal first rest
  | _, _ => scanDecimal first rest

theorem scanDecimal_le (first : Char) (rest : List Char) :
    (scanDecimal first rest).2.length ≤ rest.length := by
  have dropped := (List.dropWhile_sublist (l := rest) Char.isDigit).length_le
  unfold scanDecimal
  simp only
  split
  · next after found =>
    rw [found, List.length_cons] at dropped
    have deeper := (List.dropWhile_sublist (l := after) Char.isDigit).length_le
    split
    · simpa using dropped
    · simp only
      omega
  · exact Nat.le_trans (sizeSuffix_le _) dropped

theorem scanNumber_le (first : Char) (rest : List Char) :
    (scanNumber first rest).2.length ≤ rest.length := by
  unfold scanNumber
  split
  · next digit after =>
    have dropped := (List.dropWhile_sublist (l := after)
      fun c => (Text.hexValue? c).isSome).length_le
    split
    · simp only [List.length_cons]
      omega
    · exact scanDecimal_le _ _
  · next digit after =>
    have dropped := (List.dropWhile_sublist (l := after) isOctalDigit).length_le
    split
    · simp only [List.length_cons]
      omega
    · exact scanDecimal_le _ _
  · exact scanDecimal_le _ _

def scanSymbol (c : Char) (rest : List Char) : Option (Symbol × List Char) :=
  match c, rest with
  | '{', rest => some (.openBrace, rest)
  | '}', rest => some (.closeBrace, rest)
  | '(', rest => some (.openParenthesis, rest)
  | ')', rest => some (.closeParenthesis, rest)
  | ':', rest => some (.colon, rest)
  | '-', rest => some (.minus, rest)
  | '=', '=' :: rest => some (.relation ['=', '='], rest)
  | '!', '=' :: rest => some (.relation ['!', '='], rest)
  | '<', '=' :: rest => some (.relation ['<', '='], rest)
  | '>', '=' :: rest => some (.relation ['>', '='], rest)
  | '=', rest => some (.assign, rest)
  | '<', rest => some (.relation ['<'], rest)
  | '>', rest => some (.relation ['>'], rest)
  | _, _ => none

theorem scanSymbol_le {c : Char} {input rest : List Char} {symbol : Symbol}
    (scanned : scanSymbol c input = some (symbol, rest)) : rest.length ≤ input.length := by
  unfold scanSymbol at scanned
  split at scanned <;> cases scanned <;> simp

def Token.scan (c : Char) (rest : List Char) : Option (Option Token × List Char) :=
  if isSeparator c then some (none, rest)
  else if isWordStart c then
    some (some (.word (String.ofList (c :: rest.takeWhile isWordChar))), rest.dropWhile isWordChar)
  else if c = '$' then
    some (some (.pattern (String.ofList ('$' :: rest.takeWhile isWordChar))),
      rest.dropWhile isWordChar)
  else if c.isDigit then
    let number := scanNumber c rest
    some (some number.1, number.2)
  else if c = '"' then
    (Literal.read rest).map fun (bytes, rest) => (some (.text bytes), rest)
  else if c = '/' then
    match rest with
    | '/' :: rest => some (none, rest.dropWhile (· ≠ '\n'))
    | '*' :: rest => (afterComment rest).map fun rest => (none, rest)
    | rest => (expressionBody rest).map fun (body, rest) => (some (.expression body), rest)
  else (scanSymbol c rest).map fun (sign, rest) => (some (.symbol sign), rest)

theorem Token.scan_le {c : Char} {input rest : List Char} {token : Option Token}
    (scanned : Token.scan c input = some (token, rest)) : rest.length ≤ input.length := by
  unfold Token.scan at scanned
  split at scanned
  · simp only [Option.some.injEq, Prod.mk.injEq] at scanned
    exact scanned.2 ▸ Nat.le_refl _
  split at scanned
  · simp only [Option.some.injEq, Prod.mk.injEq] at scanned
    exact scanned.2 ▸ (List.dropWhile_sublist _).length_le
  split at scanned
  · simp only [Option.some.injEq, Prod.mk.injEq] at scanned
    exact scanned.2 ▸ (List.dropWhile_sublist _).length_le
  split at scanned
  · simp only [Option.some.injEq, Prod.mk.injEq] at scanned
    exact scanned.2 ▸ scanNumber_le _ _
  split at scanned
  · obtain ⟨bytes, found⟩ := left_of_map scanned fun _ => rfl
    exact literal_le found
  split at scanned
  · split at scanned
    · simp only [Option.some.injEq, Prod.mk.injEq] at scanned
      exact Nat.le_succ_of_le (scanned.2 ▸ (List.dropWhile_sublist _).length_le)
    · obtain ⟨after, found, same⟩ := Option.map_eq_some_iff.mp scanned
      simp only [Prod.mk.injEq] at same
      exact Nat.le_succ_of_le (same.2 ▸ afterComment_le found)
    · obtain ⟨body, found⟩ := left_of_map scanned fun _ => rfl
      exact expressionBody_le found
  · obtain ⟨sign, found⟩ := left_of_map scanned fun _ => rfl
    exact scanSymbol_le found

abbrev Lexeme := Located Token

def Token.scanAll (source : List Char) : Option (List Lexeme) :=
  match source with
  | [] => some []
  | c :: rest =>
    match _ : Token.scan c rest with
    | none => none
    | some (token, after) =>
      (scanAll after).map ((token.map (⟨·, c :: rest, after⟩)).toList ++ ·)
termination_by source.length
decreasing_by exact Nat.lt_succ_of_le (Token.scan_le ‹_›)

end RuleSmith.Language
