import RuleSmith.Proofs.Json.Rows

namespace RuleSmith.Json

variable {rest : Input} {value : Nat} {c : Char}

theorem not_isDigit_of_isDelimiter {byte : UInt8} (delimiter : isDelimiter byte = true) :
    isDigit byte = false ∧ byte ≠ '.'.toUInt8 ∧ isExponentMark byte = false := by
  simp only [isDelimiter, isBlank, Bool.or_eq_true, decide_eq_true_eq] at delimiter
  rcases delimiter with (((((rfl | rfl) | rfl) | rfl) | rfl) | rfl) | rfl <;> decide

theorem head_not_isDigit (delimited : Delimited rest) :
    (rest.head?.map isDigit).getD false = false := by
  cases rest with
  | nil => rfl
  | cons byte others => exact (not_isDigit_of_isDelimiter (delimited byte rfl)).1

theorem ascii_of_isDigit (digit : c.isDigit = true) : '0'.toNat ≤ c.toNat ∧ c.toNat ≤ '9'.toNat := by
  simp only [Char.isDigit, Bool.and_eq_true, decide_eq_true_eq, UInt32.le_iff_toNat_le] at digit
  exact digit

theorem toNat_toUInt8 (digit : c.isDigit = true) : c.toUInt8.toNat = c.toNat :=
  UInt8.toNat_ofNat_of_lt' (Nat.lt_of_le_of_lt (ascii_of_isDigit digit).2 (by decide))

theorem encode_digit (digit : c.isDigit = true) (cs : List Char) :
    encode (c :: cs) = c.toUInt8 :: encode cs :=
  encode_cons_of_ascii (Nat.lt_of_le_of_lt (ascii_of_isDigit digit).2 (by decide)) cs

theorem isDigit_toUInt8 (digit : c.isDigit = true) : isDigit c.toUInt8 = true := by
  rw [isDigit, Bool.and_eq_true, decide_eq_true_iff, decide_eq_true_iff, UInt8.le_iff_toNat_le,
    UInt8.le_iff_toNat_le, toNat_toUInt8 digit]
  exact ascii_of_isDigit digit

theorem digitValue_toUInt8 (digit : c.isDigit = true) :
    digitValue c.toUInt8 = c.toNat - '0'.toNat := by
  rw [digitValue, toNat_toUInt8 digit]
  rfl

theorem le_ofDigitChars (digits : List Char) (start : Nat) :
    start ≤ Nat.ofDigitChars 10 digits start := by
  induction digits generalizing start with
  | nil => exact Nat.le_refl _
  | cons c digits ih =>
    refine Nat.le_trans ?_ (ih (10 * start + (c.toNat - '0'.toNat)))
    omega

theorem takeDigits_digits {digits : List Char} (all : ∀ c ∈ digits, c.isDigit = true)
    {start : Nat} (fits : Nat.ofDigitChars 10 digits start < Nat.pow 2 64) (count : Nat)
    (delimited : Delimited rest) :
    ∃ taken, takeDigits start count (encode digits ++ rest) =
      (Nat.ofDigitChars 10 digits start, taken, rest) := by
  induction digits generalizing start count with
  | nil =>
    cases rest with
    | nil => exact ⟨count, rfl⟩
    | cons byte others =>
      have stop := (not_isDigit_of_isDelimiter (delimited byte rfl)).1
      refine ⟨count, ?_⟩
      rw [encode_nil, List.nil_append, takeDigits, stop, Bool.false_and, if_neg Bool.false_ne_true]
      rfl
  | cons c digits ih =>
    have digit := all c List.mem_cons_self
    have next : Nat.ofDigitChars 10 (c :: digits) start =
        Nat.ofDigitChars 10 digits (start * 10 + digitValue c.toUInt8) := by
      rw [digitValue_toUInt8 digit, Nat.mul_comm start]
      rfl
    rw [next] at fits ⊢
    have small := Nat.lt_of_le_of_lt (le_ofDigitChars digits _) fits
    rw [encode_digit digit, List.cons_append, takeDigits,
      if_pos (by rw [isDigit_toUInt8 digit, Bool.true_and]; exact decide_eq_true small)]
    exact ih (fun each member => all each (List.mem_cons_of_mem _ member)) fits _

theorem exists_toDigits_eq_cons {n : Nat} (positive : 0 < n) :
    ∃ c cs, Nat.toDigits 10 n = c :: cs ∧ c ≠ '0' := by
  induction n using Nat.strongRecOn with
  | ind n ih =>
    rw [Nat.toDigits_eq_if (by decide)]
    split
    · rename_i single
      refine ⟨_, [], rfl, fun zero => ?_⟩
      have number := Nat.toNat_digitChar_of_lt_ten single
      rw [zero] at number
      change 48 = 48 + n at number
      omega
    · obtain ⟨c, cs, front, apart⟩ := ih (n / 10) (by omega) (by omega)
      exact ⟨c, _, by rw [front, List.cons_append], apart⟩

theorem readInteger_delimited (delimited : Delimited rest) (negative : Bool) (value : Nat) :
    readInteger negative value rest = .ok (wholeNumber negative value, rest) := by
  cases rest with
  | nil => rfl
  | cons byte others =>
    obtain ⟨-, point, mark⟩ := not_isDigit_of_isDelimiter (delimited byte rfl)
    rw [readInteger, if_neg point, mark, if_neg Bool.false_ne_true]

theorem readNumber_digits (delimited : Delimited rest) (negative : Bool)
    (fits : value < Nat.pow 2 64) :
    readNumber negative (encode (Nat.toDigits 10 value) ++ rest) =
      .ok (wholeNumber negative value, rest) := by
  rcases Nat.eq_zero_or_pos value with rfl | positive
  · change readNumber negative ('0'.toUInt8 :: rest) = _
    rw [readNumber, if_pos rfl, head_not_isDigit delimited, if_neg Bool.false_ne_true,
      readInteger_delimited delimited]
  · obtain ⟨c, cs, digits, apart⟩ := exists_toDigits_eq_cons positive
    have all : ∀ each ∈ c :: cs, each.isDigit = true := fun each member =>
      Nat.isDigit_of_mem_toDigits (by decide) (by decide) (digits ▸ member)
    have digit := all c List.mem_cons_self
    have first : digitValue c.toUInt8 = 10 * 0 + (c.toNat - '0'.toNat) := by
      rw [digitValue_toUInt8 digit, Nat.mul_zero, Nat.zero_add]
    have whole : Nat.ofDigitChars 10 cs (digitValue c.toUInt8) = value :=
      calc Nat.ofDigitChars 10 cs (digitValue c.toUInt8)
          = Nat.ofDigitChars 10 (c :: cs) 0 := by rw [first]; rfl
        _ = value := by rw [← digits, Nat.ofDigitChars_ten_toDigits]
    have zero : c.toUInt8 ≠ '0'.toUInt8 := by
      intro same
      have numbers := congrArg UInt8.toNat same
      rw [toNat_toUInt8 digit] at numbers
      exact apart (Char.toNat_inj.mp numbers)
    have fits' : Nat.ofDigitChars 10 cs (digitValue c.toUInt8) < Nat.pow 2 64 := whole.symm ▸ fits
    obtain ⟨taken, took⟩ := takeDigits_digits
      (fun each member => all each (List.mem_cons_of_mem _ member)) fits' 0 delimited
    rw [digits, encode_digit digit, List.cons_append, readNumber, if_neg zero,
      if_pos (isDigit_toUInt8 digit), took]
    simp only [head_not_isDigit delimited, Bool.false_eq_true, if_false, whole,
      readInteger_delimited delimited]

theorem toList_toString_ofNat (n : Nat) : (toString (Int.ofNat n)).toList = Nat.toDigits 10 n :=
  Nat.toList_repr

theorem toList_toString_negSucc (n : Nat) :
    (toString (Int.negSucc n)).toList = '-' :: Nat.toDigits 10 (n + 1) := by
  change ("-" ++ Nat.repr (n + 1)).toList = _
  rw [String.toList_append, Nat.toList_repr]
  rfl

theorem exists_digits_eq_cons (value : Nat) :
    ∃ byte others, encode (Nat.toDigits 10 value) = byte :: others ∧ isDigit byte = true := by
  cases digits : Nat.toDigits 10 value with
  | nil => exact absurd digits Nat.toDigits_ne_nil
  | cons c cs =>
    have digit : c.isDigit = true :=
      Nat.isDigit_of_mem_toDigits (by decide) (by decide) (digits ▸ List.mem_cons_self)
    exact ⟨_, _, encode_digit digit cs, isDigit_toUInt8 digit⟩

theorem ne_of_isDigit {byte other : UInt8} (digit : isDigit byte = true)
    (apart : isDigit other = false) : byte ≠ other := by
  rintro rfl
  exact Bool.noConfusion (digit.symm.trans apart)

theorem begins_of_isDigit {byte : UInt8} (digit : isDigit byte = true) (others : Input) :
    Begins (byte :: others) := by
  refine ⟨byte, others, rfl, ?_, ne_of_isDigit digit (by decide), ne_of_isDigit digit (by decide)⟩
  simp only [isBlank, Bool.or_eq_false_iff, decide_eq_false_iff_not]
  exact ⟨⟨⟨ne_of_isDigit digit (by decide), ne_of_isDigit digit (by decide)⟩,
    ne_of_isDigit digit (by decide)⟩, ne_of_isDigit digit (by decide)⟩

theorem natural_readAs {n : Nat} (fits : n < Nat.pow 2 63) :
    ReadAs int64 (encode (Nat.toDigits 10 n)) (Int64.ofNat n) := by
  obtain ⟨byte, others, digits, digit⟩ := exists_digits_eq_cons n
  have begins := begins_of_isDigit digit others
  refine ⟨digits ▸ begins, fun {blanks rest} blank delimited => ?_⟩
  obtain ⟨_, _, same, solid, -⟩ := begins
  cases same
  have number := readNumber_digits delimited false (Nat.lt_trans fits (by decide))
  rw [digits, List.cons_append] at number ⊢
  simp only [int64, nextByte_append_cons blank solid, digit, if_true,
    if_neg (ne_of_isDigit digit (by decide : isDigit '-'.toUInt8 = false)), readInt64, number,
    wholeNumber, Bool.false_eq_true, if_false, Number.toInt64, if_pos fits]

theorem negative_readAs {n : Nat} (positive : 0 < n) (fits : n ≤ Nat.pow 2 63) :
    ReadAs int64 (encode ('-' :: Nat.toDigits 10 n)) (Int64.ofInt (-(n : Int))) := by
  rw [encode_cons_of_ascii (by decide)]
  refine ⟨⟨_, _, rfl, by decide, by decide, by decide⟩, fun {blanks rest} blank delimited => ?_⟩
  have number := readNumber_digits delimited true (Nat.lt_of_le_of_lt fits (by decide))
  rw [List.cons_append]
  simp only [int64, nextByte_append_cons blank (by decide : isBlank '-'.toUInt8 = false), if_true,
    readInt64, number, wholeNumber, positive, fits, and_self, Number.toInt64]

theorem int64_readAs (value : Int64) : ReadAs int64 (encode (toString value.toInt).toList) value := by
  have lower := value.le_toInt
  have upper := value.toInt_lt
  have restored := Int64.ofInt_toInt value
  cases sign : value.toInt with
  | ofNat n =>
    rw [sign] at upper restored
    rw [toList_toString_ofNat, ← restored]
    exact natural_readAs (Int.ofNat_lt.mp upper)
  | negSucc n =>
    rw [sign] at lower restored
    rw [toList_toString_negSucc, ← restored]
    have fits : n + 1 ≤ Nat.pow 2 63 := by
      change -((2 ^ 63 : Nat) : Int) ≤ _ at lower
      rw [Int.negSucc_eq] at lower
      exact Int.ofNat_le.mp (Int.neg_le_neg_iff.mp lower)
    exact negative_readAs (Nat.succ_pos n) fits

end RuleSmith.Json
