import Mathlib
import RuleSmith.Language.Token
import RuleSmith.Proofs.Literal
import RuleSmith.Text.Class

/-!
# How texts scan

How a text begins is told by the grammar of tokens, apart from the scanner, and with what remains
behind them, so that no word can be cut short.
-/

namespace RuleSmith.Language
open Token Text

def IsWord (text : String) : Prop :=
  ∃ first others, text.toList = first :: others ∧ isWordStart first = true ∧
    others.all isWordChar = true

def singleSymbols : List (Char × Symbol) :=
  [('\x7b', .openBrace), ('\x7d', .closeBrace), ('(', .openParenthesis), (')', .closeParenthesis),
    (':', .colon)]

/-- Whether a text begins with some tokens, in whatever layout, and a rest follows them. -/
inductive Begins (rest : List Char) : List Token → List Char → Prop
  | done : Begins rest [] rest
  | blank {c : Char} {text : List Char} {tokens : List Token} (blank : isSeparator c = true)
      (begins : Begins rest tokens text) : Begins rest tokens (c :: text)
  | word {word : String} {next : Char} {text : List Char} {tokens : List Token}
      (isWord : IsWord word) (ends : isWordChar next = false)
      (begins : Begins rest tokens (next :: text)) :
      Begins rest (.word word :: tokens) (word.toList ++ next :: text)
  | pattern {next : Char} {letters text : List Char} {tokens : List Token}
      (isName : letters.all isWord = true) (ends : isWordChar next = false)
      (begins : Begins rest tokens (next :: text)) :
      Begins rest (.pattern (String.ofList ('$' :: letters)) :: tokens)
        ('$' :: (letters ++ next :: text))
  | literal {body : String} {text : List Char} {tokens : List Token}
      (isBody : Literal.IsBody body) (begins : Begins rest tokens text) :
      Begins rest (.text (Literal.denoted body) :: tokens) ('"' :: (body.toList ++ '"' :: text))
  | symbol {c : Char} {sign : Symbol} {text : List Char} {tokens : List Token}
      (single : (c, sign) ∈ singleSymbols) (begins : Begins rest tokens text) :
      Begins rest (.symbol sign :: tokens) (c :: text)
  | assign {next : Char} {text : List Char} {tokens : List Token} (apart : next ≠ '=')
      (begins : Begins rest tokens (next :: text)) :
      Begins rest (.symbol .assign :: tokens) ('=' :: next :: text)

variable {text more rest : List Char} {tokens : List Token} {next : Char}

theorem Begins.blanks (blanks : List Char) (all : blanks.all isSeparator = true)
    (begins : Begins rest tokens text) : Begins rest tokens (blanks ++ text) := by
  induction blanks with
  | nil => exact begins
  | cons c blanks ih =>
    rw [List.all_cons, Bool.and_eq_true] at all
    exact .blank all.1 (ih all.2)

theorem Begins.append {others : List Token} (begins : Begins more tokens text)
    (behind : Begins rest others more) : Begins rest (tokens ++ others) text := by
  induction begins with
  | done => exact behind
  | blank blank _ ih => exact .blank blank ih
  | word isWord ends _ ih => exact .word isWord ends ih
  | pattern isName ends _ ih => exact .pattern isName ends ih
  | literal isBody _ ih => exact .literal isBody ih
  | symbol single _ ih => exact .symbol single ih
  | assign apart _ ih => exact .assign apart ih

def Scans (text : List Char) (token : Option Token) (rest : List Char) : Prop :=
  ∃ c input, text = c :: input ∧ Token.scan c input = some (token, rest)

theorem Scans.lexemes {token : Option Token} (scans : Scans text token rest) :
    ∃ lexemes : List Lexeme, lexemes.map Located.value = token.toList ∧
      scanAll text = (scanAll rest).map (lexemes ++ ·) := by
  obtain ⟨c, input, rfl, scanned⟩ := scans
  refine ⟨(token.map fun token => (⟨token, c :: input, rest⟩ : Lexeme)).toList, ?_, ?_⟩
  · cases token <;> rfl
  · rw [Token.scanAll]
    split
    · simp_all
    · rename_i found
      cases found.symm.trans scanned
      rfl

theorem takeWhile_isWordChar (word : text.all isWordChar = true) (ends : isWordChar next = false)
    (rest : List Char) :
    (text ++ next :: rest).takeWhile isWordChar = text ∧
      (text ++ next :: rest).dropWhile isWordChar = next :: rest := by
  rw [List.all_eq_true] at word
  rw [List.takeWhile_append_of_pos word, List.dropWhile_append_of_pos word]
  simp [ends]

theorem isSeparator_of_isWordStart {c : Char} (h : isWordStart c = true) :
    isSeparator c = false := by
  cases separator : isSeparator c with
  | false => rfl
  | true =>
    simp only [isSeparator, Bool.or_eq_true, decide_eq_true_eq] at separator
    rcases separator with ((rfl | rfl) | rfl) | rfl <;> exact absurd h (by decide)

theorem scans_blank {c : Char} (blank : isSeparator c = true) (rest : List Char) :
    Scans (c :: rest) none rest :=
  ⟨c, rest, rfl, by simp [Token.scan, blank]⟩

theorem scans_word {word : String} (h : IsWord word) (ends : isWordChar next = false)
    (rest : List Char) : Scans (word.toList ++ next :: rest) (some (.word word)) (next :: rest) := by
  obtain ⟨first, others, spelled, start, all⟩ := h
  obtain ⟨taken, dropped⟩ := takeWhile_isWordChar all ends rest
  have whole : String.ofList (first :: others) = word := by
    rw [← spelled, String.ofList_toList]
  refine ⟨first, others ++ next :: rest, by rw [spelled, List.cons_append], ?_⟩
  simp [Token.scan, isSeparator_of_isWordStart start, start, taken, dropped, whole]

theorem scan_dollar (rest : List Char) :
    Token.scan '$' rest =
      some (some (.pattern (String.ofList ('$' :: rest.takeWhile isWordChar))),
        rest.dropWhile isWordChar) := by
  have separator : isSeparator '$' = false := by decide
  have start : isWordStart '$' = false := by decide
  simp [Token.scan, separator, start]

theorem scans_pattern (word : text.all isWordChar = true) (ends : isWordChar next = false)
    (rest : List Char) :
    Scans ('$' :: (text ++ next :: rest)) (some (.pattern (String.ofList ('$' :: text))))
      (next :: rest) := by
  obtain ⟨taken, dropped⟩ := takeWhile_isWordChar word ends rest
  exact ⟨_, _, rfl, by rw [scan_dollar, taken, dropped]⟩

theorem scans_literal {body : String} (h : Literal.IsBody body) (rest : List Char) :
    Scans ('"' :: (body.toList ++ '"' :: rest)) (some (.text (Literal.denoted body))) rest := by
  have separator : isSeparator '"' = false := by decide
  have start : isWordStart '"' = false := by decide
  exact ⟨_, _, rfl, by simp [Token.scan, separator, start, h.read]⟩

theorem scans_symbol {c : Char} {sign : Symbol} (single : (c, sign) ∈ singleSymbols)
    (rest : List Char) : Scans (c :: rest) (some (.symbol sign)) rest := by
  refine ⟨c, rest, rfl, ?_⟩
  simp only [singleSymbols, List.mem_cons, Prod.mk.injEq, List.not_mem_nil, or_false] at single
  rcases single with ⟨rfl, rfl⟩ | ⟨rfl, rfl⟩ | ⟨rfl, rfl⟩ | ⟨rfl, rfl⟩ | ⟨rfl, rfl⟩ <;> rfl

theorem scans_assign (apart : next ≠ '=') (rest : List Char) :
    Scans ('=' :: next :: rest) (some (.symbol .assign)) (next :: rest) := by
  have separator : isSeparator '=' = false := by decide
  have start : isWordStart '=' = false := by decide
  have digit : '='.isDigit = false := by decide
  refine ⟨_, _, rfl, ?_⟩
  simp [Token.scan, separator, start, digit, scanSymbol, apart]

theorem scan_of_isWord {c : Char} (word : isWord c = true) (other : isWordChar c = false)
    (rest : List Char) : Token.scan c rest = none := by
  have apart : ∀ d, isWord d = false → c ≠ d := by
    rintro d none rfl
    rw [word] at none
    cases none
  have start : isWordStart c = false := by
    cases start : isWordStart c with
    | false => rfl
    | true =>
      simp only [isWordStart, isWordChar, Char.isAlphanum, Bool.or_eq_true, Bool.or_eq_false_iff]
        at start other
      simp_all
  have digit : c.isDigit = false := by
    simp only [isWordChar, Char.isAlphanum, Bool.or_eq_false_iff] at other
    exact other.1.2
  have separator : isSeparator c = false := by
    simp [isSeparator, apart ' ' (by decide +kernel), apart '\t' (by decide +kernel),
      apart '\n' (by decide +kernel), apart '\r' (by decide +kernel)]
  have sign : scanSymbol c rest = none := by
    unfold scanSymbol
    split <;> first | rfl | exact absurd rfl (apart _ (by decide +kernel))
  simp [Token.scan, separator, start, digit, sign, apart '$' (by decide +kernel),
    apart '"' (by decide +kernel), apart '/' (by decide +kernel)]

/-- Whether a text, if it scans at all, scans as some tokens and then as a rest does. -/
def Reads (text : List Char) (tokens : List Token) (rest : List Char) : Prop :=
  ∀ lexemes, scanAll text = some lexemes →
    ∃ front back, front.map Located.value = tokens ∧ scanAll rest = some back ∧
      lexemes = front ++ back

theorem Scans.reads {token : Option Token} (scans : Scans text token more)
    (reads : Reads more tokens rest) : Reads text (token.toList ++ tokens) rest := by
  obtain ⟨first, value, scanned⟩ := scans.lexemes
  intro lexemes all
  rw [scanned] at all
  obtain ⟨_, after, rfl⟩ := Option.map_eq_some_iff.mp all
  obtain ⟨front, back, values, stands, rfl⟩ := reads _ after
  exact ⟨first ++ front, back, by rw [List.map_append, value, values], stands, by simp⟩

theorem reads_pattern {letters : List Char} (isName : letters.all isWord = true)
    (ends : isWordChar next = false) (reads : Reads (next :: text) tokens rest) :
    Reads ('$' :: (letters ++ next :: text))
      (.pattern (String.ofList ('$' :: letters)) :: tokens) rest := by
  cases found : letters.find? (!isWordChar ·) with
  | none =>
    have ascii : letters.all isWordChar = true := by simpa using found
    exact (scans_pattern ascii ends text).reads reads
  | some c =>
    obtain ⟨other, front, back, rfl, ascii⟩ := List.find?_eq_some_iff_append.mp found
    have stops : isWordChar c = false := by simpa using other
    have foreign : isWord c = true := List.all_eq_true.mp isName c (by simp)
    obtain ⟨_, -, scanned⟩ := (scans_pattern
      (List.all_eq_true.mpr (by simpa using ascii)) stops (back ++ next :: text)).lexemes
    have refused : scanAll (c :: (back ++ next :: text)) = none := by
      rw [scanAll, scan_of_isWord foreign stops]
    intro lexemes all
    simp [scanned, refused] at all

theorem Begins.reads (begins : Begins rest tokens text) : Reads text tokens rest := by
  induction begins with
  | done => exact fun lexemes all => ⟨[], lexemes, rfl, all, rfl⟩
  | blank blank _ ih => exact (scans_blank blank _).reads ih
  | word isWord ends _ ih => exact (scans_word isWord ends _).reads ih
  | pattern isName ends _ ih => exact reads_pattern isName ends ih
  | literal isBody _ ih => exact (scans_literal isBody _).reads ih
  | symbol single _ ih => exact (scans_symbol single _).reads ih
  | assign apart _ ih => exact (scans_assign apart _).reads ih

theorem Begins.scans (begins : Begins rest tokens text) (plain : ∀ name, .pattern name ∉ tokens) :
    ∃ front : List Lexeme, front.map Located.value = tokens ∧
      scanAll text = (scanAll rest).map (front ++ ·) := by
  have step {text more : List Char} {token : Option Token} {tokens : List Token}
      (scans : Scans text token more) (plain : ∀ name, .pattern name ∉ token.toList ++ tokens)
      (ih : (∀ name, .pattern name ∉ tokens) → ∃ front : List Lexeme,
        front.map Located.value = tokens ∧ scanAll more = (scanAll rest).map (front ++ ·)) :
      ∃ front : List Lexeme, front.map Located.value = token.toList ++ tokens ∧
        scanAll text = (scanAll rest).map (front ++ ·) := by
    obtain ⟨first, value, scanned⟩ := scans.lexemes
    obtain ⟨front, values, stands⟩ :=
      ih fun name member => plain name (List.mem_append.mpr (Or.inr member))
    refine ⟨first ++ front, by rw [List.map_append, value, values], ?_⟩
    rw [scanned, stands, Option.map_map]
    congr 1
    funext lexemes
    simp
  induction begins with
  | done => exact ⟨[], rfl, by simp⟩
  | blank blank _ ih => exact step (scans_blank blank _) plain ih
  | word isWord ends _ ih => exact step (scans_word isWord ends _) plain ih
  | pattern => exact absurd List.mem_cons_self (plain _)
  | literal isBody _ ih => exact step (scans_literal isBody _) plain ih
  | symbol single _ ih => exact step (scans_symbol single _) plain ih
  | assign apart _ ih => exact step (scans_assign apart _) plain ih

end RuleSmith.Language
