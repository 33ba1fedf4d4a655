import RuleSmith.Json.Blank
import RuleSmith.Text.Hex
import RuleSmith.Text.Utf8

/-!
# Texts

A text stands between quotes. Its escapes are undone, surrogate escapes have to come in pairs, and
the bytes that result have to be UTF-8. Bytes that are not are reported when the text has been read:
the place is counted back from behind the closing quote, by as many bytes as the denoted text has
from its first ill-formed one on. An escape counts there for what it denotes.
-/

namespace RuleSmith.Json
open Text

def isHighSurrogate (unit : Nat) : Bool := 0xD800 ≤ unit && unit ≤ 0xDBFF

def isLowSurrogate (unit : Nat) : Bool := 0xDC00 ≤ unit && unit ≤ 0xDFFF

def hexByteValue? (byte : UInt8) : Option Nat := hexValue? (Char.ofNat byte.toNat)

def readCodeUnit : Input → Except Fault (Nat × Input)
  | a :: b :: c :: d :: rest =>
    match hexByteValue? a, hexByteValue? b, hexByteValue? c, hexByteValue? d with
    | some a, some b, some c, some d => .ok (((a * 16 + b) * 16 + c) * 16 + d, rest)
    | _, _, _, _ => .error ⟨.invalidEscape, rest⟩
  | _ => .error ⟨.endInText, []⟩

theorem readCodeUnit_shortens {input rest : Input} {unit : Nat}
    (read : readCodeUnit input = .ok (unit, rest)) : rest.length < input.length := by
  unfold readCodeUnit at read
  split at read
  · split at read
    · simp only [Except.ok.injEq, Prod.mk.injEq] at read
      obtain ⟨_, rfl⟩ := read
      simp only [List.length_cons]
      omega
    · simp at read
  · simp at read

def readLowSurrogate (high : Nat) : Input → Except Fault (Char × Input)
  | [] => .error ⟨.endInText, []⟩
  | [byte] =>
    if byte = '\\'.toUInt8 then .error ⟨.endInText, []⟩ else .error ⟨.unfinishedSurrogate, []⟩
  | byte :: letter :: rest =>
    if byte ≠ '\\'.toUInt8 then .error ⟨.unfinishedSurrogate, letter :: rest⟩
    else if letter ≠ 'u'.toUInt8 then .error ⟨.unfinishedSurrogate, rest⟩
    else do
      let (low, rest) ← readCodeUnit rest
      if isLowSurrogate low then
        .ok (Char.ofNat (0x10000 + (high - 0xD800) * 0x400 + (low - 0xDC00)), rest)
      else .error ⟨.loneSurrogate, rest⟩

def readUnicode (input : Input) : Except Fault (Char × Input) := do
  let (unit, rest) ← readCodeUnit input
  if isLowSurrogate unit then .error ⟨.loneSurrogate, rest⟩
  else if isHighSurrogate unit then readLowSurrogate unit rest
  else .ok (Char.ofNat unit, rest)

def plainEscape? (letter : UInt8) : Option Char :=
  if letter = '"'.toUInt8 then some '"'
  else if letter = '\\'.toUInt8 then some '\\'
  else if letter = '/'.toUInt8 then some '/'
  else if letter = 'b'.toUInt8 then some '\x08'
  else if letter = 'f'.toUInt8 then some '\x0c'
  else if letter = 'n'.toUInt8 then some '\n'
  else if letter = 'r'.toUInt8 then some '\r'
  else if letter = 't'.toUInt8 then some '\t'
  else none

def readEscape : Input → Except Fault (Char × Input)
  | [] => .error ⟨.endInText, []⟩
  | letter :: rest =>
    match plainEscape? letter with
    | some c => .ok (c, rest)
    | none => if letter = 'u'.toUInt8 then readUnicode rest else .error ⟨.invalidEscape, rest⟩

theorem readLowSurrogate_shortens {high : Nat} {input rest : Input} {c : Char}
    (read : readLowSurrogate high input = .ok (c, rest)) : rest.length < input.length := by
  unfold readLowSurrogate at read
  split at read
  · simp at read
  · split at read <;> simp at read
  next byte letter others =>
  split at read
  · simp at read
  split at read
  · simp at read
  simp only [bind, Except.bind] at read
  split at read
  · simp at read
  next found =>
  have shorter := readCodeUnit_shortens found
  split at read
  · simp only [Except.ok.injEq, Prod.mk.injEq] at read
    obtain ⟨_, rfl⟩ := read
    simp only [List.length_cons]
    omega
  · simp at read

theorem readUnicode_shortens {input rest : Input} {c : Char}
    (read : readUnicode input = .ok (c, rest)) : rest.length < input.length := by
  simp only [readUnicode, bind, Except.bind] at read
  split at read
  · simp at read
  next found =>
  have shorter := readCodeUnit_shortens found
  split at read
  · simp at read
  split at read
  · exact Nat.lt_trans (readLowSurrogate_shortens read) shorter
  · simp only [Except.ok.injEq, Prod.mk.injEq] at read
    obtain ⟨_, rfl⟩ := read
    exact shorter

theorem readEscape_shortens {input rest : Input} {c : Char}
    (read : readEscape input = .ok (c, rest)) : rest.length < input.length := by
  cases input with
  | nil => simp [readEscape] at read
  | cons letter others =>
    simp only [readEscape] at read
    split at read
    · simp only [Except.ok.injEq, Prod.mk.injEq] at read
      obtain ⟨_, rfl⟩ := read
      simp
    · split at read
      · exact Nat.lt_succ_of_lt (readUnicode_shortens read)
      · simp at read

def readBody (input : Input) : Except Fault (List UInt8 × Input) :=
  match input with
  | [] => .error ⟨.endInText, []⟩
  | byte :: rest =>
    if byte = '"'.toUInt8 then .ok ([], rest)
    else if byte = '\\'.toUInt8 then
      match _ : readEscape rest with
      | .error fault => .error fault
      | .ok (c, after) =>
        match readBody after with
        | .error fault => .error fault
        | .ok (bytes, rest) => .ok (String.utf8EncodeChar c ++ bytes, rest)
    else if byte < 0x20 then .error ⟨.controlCharacter, rest⟩
    else
      match readBody rest with
      | .error fault => .error fault
      | .ok (bytes, rest) => .ok (byte :: bytes, rest)
termination_by input.length
decreasing_by
  · have := readEscape_shortens ‹_›
    simp only [List.length_cons]
    omega
  · simp

theorem readBody_shortens {input rest : Input} {bytes : List UInt8}
    (read : readBody input = .ok (bytes, rest)) : rest.length < input.length := by
  fun_induction readBody input generalizing bytes rest with
  | case2 =>
    simp only [Except.ok.injEq, Prod.mk.injEq] at read
    obtain ⟨_, rfl⟩ := read
    simp
  | case5 others c after escape bytes' rest' inner _ ih =>
    have shorter := readEscape_shortens escape
    have deeper := ih inner
    simp only [Except.ok.injEq, Prod.mk.injEq] at read
    obtain ⟨_, rfl⟩ := read
    simp only [List.length_cons]
    omega
  | case8 byte others _ _ _ bytes' rest' inner ih =>
    have deeper := ih inner
    simp only [Except.ok.injEq, Prod.mk.injEq] at read
    obtain ⟨_, rfl⟩ := read
    simp only [List.length_cons]
    omega
  | _ => simp at read

/-- The end of a text that was read from `input`, reported as many bytes before `rest` as the denoted
bytes have from the first ill-formed one on. -/
def illFormed (input rest : Input) (bytes : List UInt8) : Fault :=
  ⟨.invalidCodePoint, input.drop (input.length - (rest.length + (dropWellFormed bytes).length))⟩

def readText (input : Input) : Except Fault (String × Input) :=
  match readBody input with
  | .error fault => .error fault
  | .ok (bytes, rest) =>
    match ofUtf8? bytes with
    | some text => .ok (text, rest)
    | none => .error (illFormed input rest bytes)

theorem readText_shortens {input rest : Input} {text : String}
    (read : readText input = .ok (text, rest)) : rest.length < input.length := by
  unfold readText at read
  split at read
  · simp at read
  next found =>
  split at read
  · simp only [Except.ok.injEq, Prod.mk.injEq] at read
    obtain ⟨_, rfl⟩ := read
    exact readBody_shortens found
  · simp at read

end RuleSmith.Json
