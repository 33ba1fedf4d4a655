import RuleSmith.Json.Printer
import RuleSmith.Json.Skip
import RuleSmith.Proofs.Text.Utf8

namespace RuleSmith.Json
open Text

variable {input after rest : Input} {bytes : List UInt8} {c : Char} {byte : UInt8}

def encode (cs : List Char) : Input := cs.flatMap String.utf8EncodeChar

@[simp] theorem encode_nil : encode [] = [] := rfl

@[simp] theorem encode_append (cs ds : List Char) : encode (cs ++ ds) = encode cs ++ encode ds :=
  List.flatMap_append

theorem encode_cons (c : Char) (cs : List Char) :
    encode (c :: cs) = String.utf8EncodeChar c ++ encode cs := List.flatMap_cons

theorem encode_cons_of_ascii (ascii : c.toNat < 0x80) (cs : List Char) :
    encode (c :: cs) = c.toUInt8 :: encode cs := by
  rw [encode_cons, utf8EncodeChar_of_ascii ascii, List.singleton_append]

theorem utf8_ofList (cs : List Char) : utf8 (String.ofList cs) = encode cs := by
  rw [utf8_eq_flatMap, String.toList_ofList, encode]

theorem encode_toList (text : String) : encode text.toList = utf8 text := (utf8_eq_flatMap text).symm

theorem readBody_quote (rest : Input) : readBody ('"'.toUInt8 :: rest) = .ok ([], rest) := by
  rw [readBody, if_pos rfl]

theorem readBody_escape (escape : readEscape input = .ok (c, after))
    (read : readBody after = .ok (bytes, rest)) :
    readBody ('\\'.toUInt8 :: input) = .ok (String.utf8EncodeChar c ++ bytes, rest) := by
  rw [readBody, if_neg (by decide), if_pos rfl]
  split <;> rename_i found <;> rw [escape] at found <;> cases found
  rw [read]

def IsPlain (byte : UInt8) : Prop :=
  byte ≠ '"'.toUInt8 ∧ byte ≠ '\\'.toUInt8 ∧ ¬ byte < 0x20

theorem readBody_plain (plain : IsPlain byte) (read : readBody input = .ok (bytes, rest)) :
    readBody (byte :: input) = .ok (byte :: bytes, rest) := by
  rw [readBody, if_neg plain.1, if_neg plain.2.1, if_neg plain.2.2, read]

theorem readBody_plains {plains : List UInt8} (plain : ∀ byte ∈ plains, IsPlain byte)
    (read : readBody input = .ok (bytes, rest)) :
    readBody (plains ++ input) = .ok (plains ++ bytes, rest) := by
  induction plains with
  | nil => exact read
  | cons byte others ih =>
    exact readBody_plain (plain byte List.mem_cons_self)
      (ih fun each member => plain each (List.mem_cons_of_mem _ member))

theorem hexByteValue?_hexDigit : ∀ value < 16, hexByteValue? (hexDigit value).toUInt8 = some value := by
  decide

theorem hexDigit_ascii : ∀ value < 16, (hexDigit value).toNat < 0x80 := by decide

theorem readCodeUnit_hexByte {value : Nat} (small : value < 0x100) (rest : Input) :
    readCodeUnit (encode ('0' :: '0' :: hexByte (UInt8.ofNat value)) ++ rest) = .ok (value, rest) := by
  have high : value / 16 < 16 := by omega
  have low : value % 16 < 16 := by omega
  rw [hexByte, UInt8.toNat_ofNat_of_lt' small, encode_cons_of_ascii (by decide),
    encode_cons_of_ascii (by decide), encode_cons_of_ascii (hexDigit_ascii _ high),
    encode_cons_of_ascii (hexDigit_ascii _ low)]
  have zero : hexByteValue? '0'.toUInt8 = some 0 := by decide
  simp only [encode_nil, List.cons_append, List.nil_append, readCodeUnit, zero,
    hexByteValue?_hexDigit _ high, hexByteValue?_hexDigit _ low]
  congr 2
  omega

theorem readEscape_control (control : c.toNat < 0x20) (rest : Input) :
    readEscape (encode ('u' :: '0' :: '0' :: hexByte (UInt8.ofNat c.toNat)) ++ rest) =
      .ok (c, rest) := by
  have unit : isLowSurrogate c.toNat = false := by simp [isLowSurrogate]; omega
  have unit' : isHighSurrogate c.toNat = false := by simp [isHighSurrogate]; omega
  have letter : plainEscape? 'u'.toUInt8 = none := by decide
  rw [encode_cons_of_ascii (by decide), List.cons_append, readEscape, letter]
  simp only [if_true, readUnicode, readCodeUnit_hexByte (show c.toNat < 0x100 by omega), bind,
    Except.bind, unit, unit', Bool.false_eq_true, if_false, Char.ofNat_toNat]

theorem isPlain_of_mem (quote : c ≠ '"') (backslash : c ≠ '\\') (solid : ¬ c.toNat < 0x20)
    (member : byte ∈ String.utf8EncodeChar c) : IsPlain byte := by
  by_cases ascii : c.toNat < 0x80
  · rw [utf8EncodeChar_of_ascii ascii, List.mem_singleton] at member
    subst member
    have number : c.toUInt8.toNat = c.toNat :=
      UInt8.toNat_ofNat_of_lt' (Nat.lt_trans ascii (by decide))
    have apart {d : Char} (small : d.toNat < 0x80) (other : c ≠ d) : c.toUInt8 ≠ d.toUInt8 := by
      intro same
      have numbers := congrArg UInt8.toNat same
      rw [number, show d.toUInt8.toNat = d.toNat from
        UInt8.toNat_ofNat_of_lt' (Nat.lt_trans small (by decide))] at numbers
      exact other (Char.toNat_inj.mp numbers)
    refine ⟨apart (by decide) quote, apart (by decide) backslash, ?_⟩
    rw [UInt8.lt_iff_toNat_lt, number]
    exact solid
  · have high := UInt8.le_iff_toNat_le.mp (le_of_mem_utf8EncodeChar ascii member)
    refine ⟨?_, ?_, ?_⟩
    · rintro rfl
      exact absurd high (by decide)
    · rintro rfl
      exact absurd high (by decide)
    · rw [UInt8.lt_iff_toNat_lt]
      exact Nat.not_lt.mpr (Nat.le_trans (by decide) high)

theorem readBody_printChar (c : Char) (read : readBody input = .ok (bytes, rest)) :
    readBody (encode (printChar c) ++ input) = .ok (String.utf8EncodeChar c ++ bytes, rest) := by
  have plain {letter : Char} (ascii : letter.toNat < 0x80)
      (escape : plainEscape? letter.toUInt8 = some c) :
      readBody (encode ['\\', letter] ++ input) = .ok (String.utf8EncodeChar c ++ bytes, rest) := by
    rw [encode_cons_of_ascii (by decide), encode_cons_of_ascii ascii]
    have escaped : readEscape (letter.toUInt8 :: input) = .ok (c, input) := by
      simp only [readEscape, escape]
    exact readBody_escape escaped read
  unfold printChar
  repeat' split
  all_goals try (subst c; exact plain (by decide) (by decide))
  · rename_i control
    rw [encode_cons_of_ascii (by decide), List.cons_append]
    exact readBody_escape (readEscape_control control input) read
  · rename_i quote backslash _ _ _ _ _ solid
    rw [encode_cons, encode_nil, List.append_nil]
    exact readBody_plains (fun byte member => isPlain_of_mem quote backslash solid member) read

theorem readBody_printed (cs : List Char) (rest : Input) :
    readBody (encode (cs.flatMap printChar) ++ '"'.toUInt8 :: rest) = .ok (encode cs, rest) := by
  induction cs with
  | nil => exact readBody_quote rest
  | cons c cs ih =>
    rw [List.flatMap_cons, encode_append, List.append_assoc, encode_cons]
    exact readBody_printChar c ih

theorem readText_printed (text : String) (rest : Input) :
    readText (encode (text.toList.flatMap printChar) ++ '"'.toUInt8 :: rest) = .ok (text, rest) := by
  simp only [readText, readBody_printed, encode_toList, ofUtf8?_utf8]

theorem skipText_quote (rest : Input) : skipText ('"'.toUInt8 :: rest) = .ok rest := by
  rw [skipText, if_pos rfl]

theorem skipText_step (escape : skipEscape input = .ok after) :
    skipText ('\\'.toUInt8 :: input) = skipText after := by
  rw [skipText, if_neg (by decide), if_pos rfl]
  split <;> rename_i found <;> rw [escape] at found <;> cases found
  rfl

theorem skipText_plain (plain : IsPlain byte) (input : Input) :
    skipText (byte :: input) = skipText input := by
  rw [skipText, if_neg plain.1, if_neg plain.2.1, if_neg plain.2.2]

theorem skipEscape_unicode {unit : Nat} (read : readCodeUnit input = .ok (unit, after)) :
    skipEscape ('u'.toUInt8 :: input) = .ok after := by
  have letter : plainEscape? 'u'.toUInt8 = none := by decide
  simp only [skipEscape, letter, Option.isSome_none, Bool.false_eq_true, if_false, if_true, read]

/-- The second half of a surrogate pair is an escape of its own to one who passes over it. -/
theorem skipText_lowSurrogate {high : Nat} (read : readLowSurrogate high input = .ok (c, after)) :
    skipText input = skipText after := by
  unfold readLowSurrogate at read
  split at read
  · cases read
  · split at read <;> cases read
  · rename_i byte letter others
    split at read
    · cases read
    rename_i backslash
    split at read
    · cases read
    rename_i unicode
    rw [ne_eq, Decidable.not_not] at backslash unicode
    subst backslash unicode
    cases unit : readCodeUnit others with
    | error fault => simp [unit, bind, Except.bind] at read
    | ok found =>
      simp only [unit, bind, Except.bind] at read
      split at read
      · simp only [Except.ok.injEq, Prod.mk.injEq] at read
        exact read.2 ▸ skipText_step (skipEscape_unicode unit)
      · cases read

theorem skipText_escape (escape : readEscape input = .ok (c, after)) :
    skipText ('\\'.toUInt8 :: input) = skipText after := by
  cases input with
  | nil => cases escape
  | cons letter others =>
    simp only [readEscape] at escape
    cases plain : plainEscape? letter with
    | some d =>
      simp only [plain] at escape
      cases escape
      exact skipText_step (by simp only [skipEscape, plain, Option.isSome_some, if_true])
    | none =>
      simp only [plain] at escape
      split at escape
      · rename_i unicode
        subst unicode
        cases unit : readCodeUnit others with
        | error fault => simp [readUnicode, unit, bind, Except.bind] at escape
        | ok found =>
          rw [skipText_step (skipEscape_unicode unit)]
          simp only [readUnicode, unit, bind, Except.bind] at escape
          split at escape
          · cases escape
          · split at escape
            · exact skipText_lowSurrogate escape
            · cases escape
              rfl
      · cases escape

theorem skipText_of_readBody (read : readBody input = .ok (bytes, rest)) :
    skipText input = .ok rest := by
  fun_induction readBody input generalizing bytes rest with
  | case2 others =>
    cases read
    exact skipText_quote others
  | case5 others c after escape bytes' rest' inner _ ih =>
    cases read
    rw [skipText_escape escape, ih inner]
  | case8 byte others quote backslash solid bytes' rest' inner ih =>
    cases read
    rw [skipText_plain ⟨quote, backslash, solid⟩, ih inner]
  | _ => cases read

theorem skipText_of_readText {text : String} (read : readText input = .ok (text, rest)) :
    skipText input = .ok rest := by
  unfold readText at read
  split at read
  · cases read
  · split at read <;> cases read
    exact skipText_of_readBody ‹_›

end RuleSmith.Json
