import RuleSmith.Language.Token
import RuleSmith.Proofs.Text.Utf8

namespace RuleSmith.Literal
open Text

theorem read_plain {c : Char} (quote : c ≠ '"') (newline : c ≠ '\n') (backslash : c ≠ '\\')
    (rest : List Char) :
    read (c :: rest) =
      (read rest).map fun (bytes, rest) => (String.utf8EncodeChar c ++ bytes, rest) := by
  rw [read]
  · exact quote
  · exact newline
  all_goals
    intros
    exact absurd ‹c = '\\'› backslash

theorem read_append {input rest : List Char} {bytes : List UInt8}
    (h : read input = some (bytes, rest)) (more : List Char) :
    read (input ++ more) = some (bytes, rest ++ more) := by
  fun_induction read input generalizing bytes rest with
  | case1 | case3 | case11 | case10 => simp at h
  | case2 others => simp_all [read]
  | case12 c others quote newline _ _ _ _ _ _ backslash ih =>
    obtain ⟨⟨inner, after⟩, found, same⟩ := Option.map_eq_some_iff.mp h
    cases same
    rw [List.cons_append, read_plain quote newline backslash, ih found]
    rfl
  | _ =>
    rename_i ih
    obtain ⟨⟨inner, after⟩, found, same⟩ := Option.map_eq_some_iff.mp h
    cases same
    simp_all [read]

theorem hexValue?_hexDigit : ∀ value < 16, hexValue? (hexDigit value) = some value := by
  decide

theorem read_hexByte (byte : UInt8) (rest : List Char) :
    read ('\\' :: 'x' :: hexByte byte ++ rest) =
      (read rest).map fun (bytes, rest) => (byte :: bytes, rest) := by
  have size := byte.toNat_lt
  have high := hexValue?_hexDigit (byte.toNat / 16) (by omega)
  have low := hexValue?_hexDigit (byte.toNat % 16) (by omega)
  have whole : UInt8.ofNat (16 * (byte.toNat / 16) + byte.toNat % 16) = byte := by
    rw [Nat.div_add_mod, UInt8.ofNat_toNat]
  simp [hexByte, read, high, low, whole]

theorem toNat_ofNat_of_ascii {value : Nat} (small : value < 0x7F) :
    (Char.ofNat value).toNat = value := by
  have valid : value.isValidChar := Or.inl (by omega)
  rw [Char.ofNat, dif_pos valid]
  rfl

theorem utf8EncodeChar_ofNat {value : Nat} (small : value < 0x7F) :
    String.utf8EncodeChar (Char.ofNat value) = [UInt8.ofNat value] := by
  have same := toNat_ofNat_of_ascii small
  rw [utf8EncodeChar_of_ascii (same.symm ▸ Nat.lt_succ_of_lt small)]
  exact congrArg (fun number => [UInt8.ofNat number]) same

theorem read_ascii {byte : UInt8} (quote : byte ≠ 0x22) (newline : byte ≠ 0x0A)
    (backslash : byte ≠ 0x5C) (ascii : byte ≤ 0x7E) (rest : List Char) :
    read (Char.ofNat byte.toNat :: rest) =
      (read rest).map fun (bytes, rest) => (byte :: bytes, rest) := by
  have small : byte.toNat < 0x7F := Nat.lt_succ_of_le (UInt8.le_iff_toNat_le.mp ascii)
  have apart : ∀ other : UInt8, byte ≠ other → Char.ofNat byte.toNat ≠ Char.ofNat other.toNat ∨
      0x7F ≤ other.toNat := by
    intro other different
    by_cases large : 0x7F ≤ other.toNat
    · exact Or.inr large
    · refine Or.inl fun same => different (UInt8.toNat_inj.mp ?_)
      rw [← toNat_ofNat_of_ascii small, same, toNat_ofNat_of_ascii (by omega)]
  rw [read_plain ((apart _ quote).resolve_right (by decide))
    ((apart _ newline).resolve_right (by decide)) ((apart _ backslash).resolve_right (by decide)),
    utf8EncodeChar_ofNat small, UInt8.ofNat_toNat]
  rfl

theorem read_escapeByte (byte : UInt8) (rest : List Char) :
    read (escapeByte byte ++ rest) = (read rest).map fun (bytes, rest) => (byte :: bytes, rest) := by
  unfold escapeByte
  by_cases quote : byte = 0x22
  · simp [quote, read]
  by_cases backslash : byte = 0x5C
  · simp [backslash, read]
  by_cases newline : byte = 0x0A
  · simp [newline, read]
  by_cases tab : byte = 0x09
  · simp [tab, read]
  by_cases carriageReturn : byte = 0x0D
  · simp [carriageReturn, read]
  rw [if_neg quote, if_neg backslash, if_neg newline, if_neg tab, if_neg carriageReturn]
  split
  · rename_i printable
    exact read_ascii quote newline backslash printable.2 rest
  · exact read_hexByte byte rest

theorem read_escape (bytes : List UInt8) (rest : List Char) :
    read (escapeChars bytes ++ '"' :: rest) = some (bytes, rest) := by
  induction bytes with
  | nil => simp [escapeChars, read]
  | cons byte bytes ih =>
    rw [escapeChars, List.flatMap_cons, List.append_assoc, read_escapeByte]
    rw [escapeChars] at ih
    rw [ih]
    rfl

def denoted (body : String) : List UInt8 :=
  match read (body.toList ++ ['"']) with
  | some (bytes, _) => bytes
  | none => []

/-- Whether a text is the body of a literal: it is read up to the quote behind it. -/
def IsBody (body : String) : Prop := read (body.toList ++ ['"']) = some (denoted body, [])

instance (body : String) : Decidable (IsBody body) :=
  inferInstanceAs (Decidable (read (body.toList ++ ['"']) = some (denoted body, [])))

def normal (body : String) : String := escape (denoted body)

theorem IsBody.read {body : String} (h : IsBody body) (rest : List Char) :
    read (body.toList ++ '"' :: rest) = some (denoted body, rest) := by
  simpa using read_append h rest

theorem denoted_escape (bytes : List UInt8) : denoted (escape bytes) = bytes := by
  rw [denoted, escape, String.toList_ofList, read_escape]

theorem normal_escape (bytes : List UInt8) : normal (escape bytes) = escape bytes := by
  rw [normal, denoted_escape]

end RuleSmith.Literal
