import RuleSmith.Proofs.Json.Printing

/-!
# The grammar of JSON texts

What is a value in JSON, told apart from any reader: words, numbers, texts with whatever escapes, lists
and objects, with blanks around all parts. A text between quotes may spell each of its characters in
several ways; some bodies between quotes spell no text at all, since an escape may name half a
surrogate pair.
-/

namespace RuleSmith.Json
open Text

variable {α : Type} {input rest text body part value : Input} {c : Char} {cs : List Char}
  {name : String}

/-! ## Texts -/

inductive CodeUnit : Input → Nat → Prop
  | intro {a b c d : UInt8} {i j k l : Nat} (first : hexByteValue? a = some i)
      (second : hexByteValue? b = some j) (third : hexByteValue? c = some k)
      (fourth : hexByteValue? d = some l) :
      CodeUnit [a, b, c, d] (((i * 16 + j) * 16 + k) * 16 + l)

def letterEscapes : List (Char × Char) := [
  ('"', '"'), ('\\', '\\'), ('/', '/'), ('b', '\x08'), ('f', '\x0c'), ('n', '\n'), ('r', '\r'),
  ('t', '\t')]

inductive SpelledChar : Input → Char → Prop
  | plain {c : Char} (quote : c ≠ '"') (backslash : c ≠ '\\') (solid : ¬ c.toNat < 0x20) :
      SpelledChar (String.utf8EncodeChar c) c
  | letter {letter c : Char} (known : (letter, c) ∈ letterEscapes) :
      SpelledChar ['\\'.toUInt8, letter.toUInt8] c
  | unit {digits : Input} {c : Char} (unit : CodeUnit digits c.toNat) :
      SpelledChar ('\\'.toUInt8 :: 'u'.toUInt8 :: digits) c
  | pair {digits digits' : Input} {high low : Nat} (first : CodeUnit digits high)
      (second : CodeUnit digits' low) (isHigh : isHighSurrogate high = true)
      (isLow : isLowSurrogate low = true) :
      SpelledChar ('\\'.toUInt8 :: 'u'.toUInt8 :: (digits ++ '\\'.toUInt8 :: 'u'.toUInt8 :: digits'))
        (Char.ofNat (0x10000 + (high - 0xD800) * 0x400 + (low - 0xDC00)))

inductive Spelling : Input → List Char → Prop
  | nil : Spelling [] []
  | cons {part body : Input} {c : Char} {cs : List Char} (spelled : SpelledChar part c)
      (others : Spelling body cs) : Spelling (part ++ body) (c :: cs)

inductive Body : Input → Prop
  | nil : Body []
  | plain {byte : UInt8} {body : Input} (plain : IsPlain byte) (others : Body body) :
      Body (byte :: body)
  | letter {letter c : Char} {body : Input} (known : (letter, c) ∈ letterEscapes)
      (others : Body body) : Body ('\\'.toUInt8 :: letter.toUInt8 :: body)
  | unit {digits body : Input} {unit : Nat} (named : CodeUnit digits unit) (others : Body body) :
      Body ('\\'.toUInt8 :: 'u'.toUInt8 :: (digits ++ body))

theorem readCodeUnit_of_codeUnit {digits : Input} {unit : Nat} (named : CodeUnit digits unit)
    (rest : Input) : readCodeUnit (digits ++ rest) = .ok (unit, rest) := by
  obtain ⟨first, second, third, fourth⟩ := named
  simp only [List.cons_append, List.nil_append, readCodeUnit, first, second, third, fourth]

theorem plainEscape?_of_known {letter : Char} (known : (letter, c) ∈ letterEscapes) :
    plainEscape? letter.toUInt8 = some c := by
  have all : ∀ pair ∈ letterEscapes, plainEscape? pair.1.toUInt8 = some pair.2 := by decide
  exact all _ known

theorem plainEscape?_unicode : plainEscape? 'u'.toUInt8 = none := by decide

theorem readEscape_unit {digits : Input} (named : CodeUnit digits c.toNat) (rest : Input) :
    readEscape ('u'.toUInt8 :: (digits ++ rest)) = .ok (c, rest) := by
  -- A character is no half of a surrogate pair.
  have valid : c.toNat < 0xD800 ∨ 0xDFFF < c.toNat := by
    obtain low | ⟨high, -⟩ := c.valid
    · exact .inl low
    · exact .inr high
  have noHigh : isHighSurrogate c.toNat = false := by simp [isHighSurrogate]; omega
  have noLow : isLowSurrogate c.toNat = false := by simp [isLowSurrogate]; omega
  simp only [readEscape, plainEscape?_unicode, if_true, readUnicode, readCodeUnit_of_codeUnit named,
    bind, Except.bind, noHigh, noLow, Bool.false_eq_true, if_false, Char.ofNat_toNat]

theorem readEscape_pair {digits digits' : Input} {high low : Nat} (first : CodeUnit digits high)
    (second : CodeUnit digits' low) (isHigh : isHighSurrogate high = true)
    (isLow : isLowSurrogate low = true) (rest : Input) :
    readEscape ('u'.toUInt8 :: (digits ++ '\\'.toUInt8 :: 'u'.toUInt8 :: (digits' ++ rest))) =
      .ok (Char.ofNat (0x10000 + (high - 0xD800) * 0x400 + (low - 0xDC00)), rest) := by
  have noLow : isLowSurrogate high = false := by
    simp [isHighSurrogate, isLowSurrogate] at isHigh ⊢
    omega
  simp only [readEscape, plainEscape?_unicode, if_true, readUnicode, readCodeUnit_of_codeUnit first,
    bind, Except.bind, noLow, isHigh, Bool.false_eq_true, if_false, readLowSurrogate, ne_eq,
    not_true_eq_false, readCodeUnit_of_codeUnit second, isLow]

theorem readBody_of_spelledChar {bytes : List UInt8} (spelled : SpelledChar part c)
    (read : readBody input = .ok (bytes, rest)) :
    readBody (part ++ input) = .ok (String.utf8EncodeChar c ++ bytes, rest) := by
  cases spelled with
  | plain quote backslash solid =>
    exact readBody_plains (fun byte member => isPlain_of_mem quote backslash solid member) read
  | @letter letter _ known =>
    have escape : readEscape (letter.toUInt8 :: input) = .ok (c, input) := by
      simp only [readEscape, plainEscape?_of_known known]
    exact readBody_escape escape read
  | unit named => exact readBody_escape (readEscape_unit named input) read
  | pair first second isHigh isLow =>
    simp only [List.cons_append, List.append_assoc]
    exact readBody_escape (readEscape_pair first second isHigh isLow input) read

theorem readBody_of_spelling (spelling : Spelling body cs) (rest : Input) :
    readBody (body ++ '"'.toUInt8 :: rest) = .ok (encode cs, rest) := by
  induction spelling with
  | nil => exact readBody_quote rest
  | cons spelled others ih =>
    rw [List.append_assoc, encode_cons]
    exact readBody_of_spelledChar spelled ih

theorem readText_of_spelling (spelling : Spelling body name.toList) (rest : Input) :
    readText (body ++ '"'.toUInt8 :: rest) = .ok (name, rest) := by
  simp only [readText, readBody_of_spelling spelling, encode_toList, ofUtf8?_utf8]

theorem skipText_of_body (isBody : Body body) (rest : Input) :
    skipText (body ++ '"'.toUInt8 :: rest) = .ok rest := by
  induction isBody with
  | nil => exact skipText_quote rest
  | plain plain others ih =>
    rw [List.cons_append, skipText_plain plain, ih]
  | letter known others ih =>
    rw [List.cons_append, List.cons_append, skipText_step, ih]
    simp only [skipEscape, plainEscape?_of_known known, Option.isSome_some, if_true]
  | unit named others ih =>
    rw [List.cons_append, List.cons_append, List.append_assoc, skipText_step, ih]
    exact skipEscape_unicode (readCodeUnit_of_codeUnit named _)

theorem Body.append {body' : Input} (first : Body body) (second : Body body') :
    Body (body ++ body') := by
  induction first with
  | nil => exact second
  | plain plain others ih => exact .plain plain ih
  | letter known others ih => exact .letter known ih
  | unit named others ih =>
    rw [List.cons_append, List.cons_append, List.append_assoc]
    exact .unit named ih

theorem body_of_plains (plain : ∀ byte ∈ body, IsPlain byte) : Body body := by
  induction body with
  | nil => exact .nil
  | cons byte others ih =>
    exact .plain (plain byte List.mem_cons_self) (ih fun each member =>
      plain each (List.mem_cons_of_mem _ member))

theorem SpelledChar.isBody (spelled : SpelledChar part c) : Body part := by
  cases spelled with
  | plain quote backslash solid =>
    exact body_of_plains fun byte member => isPlain_of_mem quote backslash solid member
  | letter known => exact .letter known .nil
  | unit named =>
    have isBody := Body.unit named .nil
    rwa [List.append_nil] at isBody
  | pair first second isHigh isLow =>
    have isBody := Body.unit second .nil
    rw [List.append_nil] at isBody
    exact .unit first isBody

theorem Spelling.isBody (spelling : Spelling body cs) : Body body := by
  induction spelling with
  | nil => exact .nil
  | cons spelled others ih => exact spelled.isBody.append ih

def needsNoEscape (c : Char) : Bool := c ≠ '"' && c ≠ '\\' && !(c.toNat < 0x20)

theorem spelling_of_plain (plain : cs.all needsNoEscape = true) : Spelling (encode cs) cs := by
  induction cs with
  | nil => exact .nil
  | cons c cs ih =>
    rw [List.all_cons, Bool.and_eq_true] at plain
    obtain ⟨here, others⟩ := plain
    simp only [needsNoEscape, Bool.and_eq_true, decide_eq_true_eq, Bool.not_eq_true',
      decide_eq_false_iff_not] at here
    obtain ⟨⟨quote, backslash⟩, solid⟩ := here
    rw [encode_cons]
    exact .cons (.plain quote backslash solid) (ih others)

/-! ## Numbers -/

def Digits (digits : Input) : Prop := ∀ digit ∈ digits, isDigit digit = true

inductive IntegerPart : Input → Prop
  | zero : IntegerPart ['0'.toUInt8]
  | digits {digit : UInt8} {digits : Input} (first : isDigit digit = true)
      (nonzero : digit ≠ '0'.toUInt8) (others : Digits digits) : IntegerPart (digit :: digits)

inductive FractionPart : Input → Prop
  | none : FractionPart []
  | some {digit : UInt8} {digits : Input} (first : isDigit digit = true) (others : Digits digits) :
      FractionPart ('.'.toUInt8 :: digit :: digits)

inductive ExponentPart : Input → Prop
  | none : ExponentPart []
  | some {mark digit : UInt8} {sign digits : Input} (marks : isExponentMark mark = true)
      (signs : sign ∈ [[], ['+'.toUInt8], ['-'.toUInt8]]) (first : isDigit digit = true)
      (others : Digits digits) : ExponentPart (mark :: (sign ++ digit :: digits))

inductive Magnitude : Input → Prop
  | intro {integer fraction exponent : Input} (integerPart : IntegerPart integer)
      (fractionPart : FractionPart fraction) (exponentPart : ExponentPart exponent) :
      Magnitude (integer ++ (fraction ++ exponent))

section Numbers

variable {digits integer fraction exponent : Input}

theorem dropWhile_digits (all : Digits digits) (stops : ∀ byte ∈ rest.head?, isDigit byte = false) :
    (digits ++ rest).dropWhile isDigit = rest := by
  rw [List.dropWhile_append_of_pos all]
  cases rest with
  | nil => rfl
  | cons byte others => exact List.dropWhile_cons_of_neg (by simp [stops byte rfl])

theorem head_exponent (exponentPart : ExponentPart exponent) (delimited : Delimited rest) :
    ∀ byte ∈ (exponent ++ rest).head?, isDigit byte = false ∧ byte ≠ '.'.toUInt8 := by
  intro byte head
  cases exponentPart with
  | none =>
    obtain ⟨noDigit, noPoint, -⟩ := not_isDigit_of_isDelimiter (delimited byte head)
    exact ⟨noDigit, noPoint⟩
  | some marks signs first others =>
    obtain rfl := Option.some.inj head
    simp only [isExponentMark, Bool.or_eq_true, decide_eq_true_eq] at marks
    obtain rfl | rfl := marks <;> decide

theorem head_fraction (fractionPart : FractionPart fraction) (exponentPart : ExponentPart exponent)
    (delimited : Delimited rest) :
    ∀ byte ∈ (fraction ++ (exponent ++ rest)).head?, isDigit byte = false := by
  intro byte head
  cases fractionPart with
  | none => exact (head_exponent exponentPart delimited byte head).1
  | some first others =>
    obtain rfl := Option.some.inj head
    decide

theorem skipTail_exponent (exponentPart : ExponentPart exponent) (delimited : Delimited rest) :
    skipTail (exponent ++ rest) = .ok rest := by
  cases exponentPart with
  | none =>
    cases rest with
    | nil => rfl
    | cons byte others =>
      obtain ⟨-, -, noMark⟩ := not_isDigit_of_isDelimiter (delimited byte rfl)
      simp only [List.nil_append, skipTail, noMark, Bool.false_eq_true, if_false]
  | @some mark digit sign digits marks signs first others =>
    have unsigned : (exponentSign (sign ++ digit :: (digits ++ rest))).2 =
        digit :: (digits ++ rest) := by
      simp only [List.mem_cons, List.not_mem_nil, or_false] at signs
      obtain rfl | rfl | rfl := signs
      · have noPlus : digit ≠ '+'.toUInt8 := by
          rintro rfl
          exact absurd first (by decide)
        have noMinus : digit ≠ '-'.toUInt8 := by
          rintro rfl
          exact absurd first (by decide)
        simp only [List.nil_append, exponentSign, if_neg noPlus, if_neg noMinus]
      · rfl
      · rfl
    have stops := fun byte head => (not_isDigit_of_isDelimiter (delimited byte head)).1
    simp only [List.cons_append, List.append_assoc, skipTail, marks, if_true, skipExponent, unsigned,
      first, dropWhile_digits others stops]

theorem skipFraction_fraction (fractionPart : FractionPart fraction)
    (exponentPart : ExponentPart exponent) (delimited : Delimited rest) :
    skipFraction (fraction ++ (exponent ++ rest)) = .ok rest := by
  have heads := head_exponent exponentPart delimited
  have tail := skipTail_exponent exponentPart delimited
  cases fractionPart with
  | none =>
    rw [List.nil_append]
    generalize exponent ++ rest = behind at heads tail
    cases behind with
    | nil => exact tail
    | cons byte others => simp only [skipFraction, if_neg (heads byte rfl).2, tail]
  | @some digit digits first others =>
    have all : Digits (digit :: digits) := List.forall_mem_cons.mpr ⟨first, others⟩
    have dropped := dropWhile_digits all fun byte head => (heads byte head).1
    rw [List.cons_append] at dropped
    simp only [List.cons_append, skipFraction, if_true, List.head?_cons, Option.map_some,
      Option.getD_some, first, dropped, tail]

theorem skipNumber_of_magnitude (magnitude : Magnitude text) (delimited : Delimited rest) :
    skipNumber (text ++ rest) = .ok rest := by
  obtain ⟨integer, fraction, exponent⟩ := magnitude
  have heads := head_fraction fraction exponent delimited
  have passed := skipFraction_fraction fraction exponent delimited
  simp only [List.append_assoc]
  cases integer with
  | zero =>
    generalize _ ++ (_ ++ rest) = behind at heads passed ⊢
    have stops : (behind.head?.map isDigit).getD false = false := by
      cases behind with
      | nil => rfl
      | cons byte others => exact heads byte rfl
    simp only [List.cons_append, List.nil_append, skipNumber, if_true, stops, Bool.false_eq_true,
      if_false, passed]
  | digits first nonzero others =>
    simp only [List.cons_append, skipNumber, if_neg nonzero, first, if_true,
      dropWhile_digits others heads, passed]

theorem Magnitude.head_isDigit (magnitude : Magnitude text) :
    ∃ digit others, text = digit :: others ∧ isDigit digit = true := by
  obtain ⟨integer, fraction, exponent⟩ := magnitude
  cases integer with
  | zero => exact ⟨_, _, rfl, by decide⟩
  | digits first nonzero others => exact ⟨_, _, rfl, first⟩

end Numbers

/-! ## Values -/

inductive Pair : Input → Input → Input → Prop
  | intro {body between before value : Input} (inside : Blanks between) (inside' : Blanks before) :
      Pair ('"'.toUInt8 :: (body ++ '"'.toUInt8 :: (between ++ ':'.toUInt8 :: (before ++ value))))
        body value

/-- The values of JSON. -/
inductive WellFormed : Input → Prop
  | word {word : String} (known : word ∈ ["null", "true", "false"]) : WellFormed (encode word.toList)
  | natural {text : Input} (magnitude : Magnitude text) : WellFormed text
  | negative {text : Input} (magnitude : Magnitude text) : WellFormed ('-'.toUInt8 :: text)
  | text {body : Input} (isBody : Body body) : WellFormed ('"'.toUInt8 :: (body ++ ['"'.toUInt8]))
  | list {parts : List Input} {text : Input} (row : Row ']'.toUInt8 true parts text)
      (each : ∀ part ∈ parts, WellFormed part) : WellFormed ('['.toUInt8 :: text)
  | object {parts : List Input} {text : Input} {members : List (Input × Input)}
      (row : Row '}'.toUInt8 true parts text)
      (pairs : List.Forall₂ (fun part member => Pair part member.1 member.2) parts members)
      (names : ∀ member ∈ members, Body member.1) (values : ∀ member ∈ members, WellFormed member.2) :
      WellFormed ('{'.toUInt8 :: text)

theorem exists_of_mem_left {β γ : Type} {relates : β → γ → Prop} {first : List β} {second : List γ}
    (each : List.Forall₂ relates first second) {left : β} (member : left ∈ first) :
    ∃ right ∈ second, relates left right := by
  induction each with
  | nil => cases member
  | cons related others ih =>
    obtain rfl | later := List.mem_cons.mp member
    · exact ⟨_, List.mem_cons_self, related⟩
    · obtain ⟨right, among, related⟩ := ih later
      exact ⟨right, List.mem_cons_of_mem _ among, related⟩

theorem Pair.passedIn (pair : Pair part body value) (isBody : Body body) (passed : Passed value) :
    PassedIn .object part := by
  obtain ⟨inside, inside'⟩ := pair
  refine passed.member ⟨_, _, rfl, by decide, by decide, by decide⟩ fun rest =>
    ⟨_, _, _, List.cons_append, ?_, inside, inside'⟩
  simp only [List.append_assoc, List.cons_append]
  exact skipText_of_body isBody _

theorem Magnitude.passed (magnitude : Magnitude text) : Passed text := by
  obtain ⟨digit, others, rfl, first⟩ := magnitude.head_isDigit
  refine .scalar (begins_of_isDigit first others) (ne_of_isDigit first (by decide))
    (ne_of_isDigit first (by decide)) fun rest delimited => ?_
  rw [skipScalar, if_neg (ne_of_isDigit first (by decide)), if_neg (ne_of_isDigit first (by decide)),
    if_neg (ne_of_isDigit first (by decide)), if_neg (ne_of_isDigit first (by decide)), if_pos first]
  exact skipNumber_of_magnitude magnitude delimited

theorem passed_word (word : String) (known : word ∈ ["null", "true", "false"]) :
    Passed (encode word.toList) := by
  have null (rest : Input) : readWord ['u', 'l', 'l'] (encode ['u', 'l', 'l'] ++ rest) = .ok rest :=
    readWord_encode rfl rest
  have true (rest : Input) : readWord ['r', 'u', 'e'] (encode ['r', 'u', 'e'] ++ rest) = .ok rest :=
    readWord_encode rfl rest
  have false (rest : Input) : readWord ['a', 'l', 's', 'e'] (encode ['a', 'l', 's', 'e'] ++ rest) =
      .ok rest := readWord_encode rfl rest
  simp only [List.mem_cons, List.not_mem_nil, or_false] at known
  obtain rfl | rfl | rfl := known
  · exact .scalar ⟨_, _, rfl, by decide, by decide, by decide⟩ (by decide) (by decide)
      fun rest _ => null rest
  · exact .scalar ⟨_, _, rfl, by decide, by decide, by decide⟩ (by decide) (by decide)
      fun rest _ => true rest
  · exact .scalar ⟨_, _, rfl, by decide, by decide, by decide⟩ (by decide) (by decide)
      fun rest _ => false rest

theorem WellFormed.passed (wellFormed : WellFormed text) : Passed text := by
  induction wellFormed with
  | word known => exact passed_word _ known
  | natural magnitude => exact magnitude.passed
  | negative magnitude =>
    exact .scalar ⟨_, _, rfl, by decide, by decide, by decide⟩ (by decide) (by decide)
      fun rest delimited => skipNumber_of_magnitude magnitude delimited
  | @text body isBody =>
    refine .scalar ⟨_, _, rfl, by decide, by decide, by decide⟩ (by decide) (by decide)
      fun rest _ => ?_
    rw [List.append_assoc]
    exact skipText_of_body isBody rest
  | list row each ih => exact .list row ih
  | object row pairs names values ih =>
    refine .object row fun part member => ?_
    obtain ⟨member, among, pair⟩ := exists_of_mem_left pairs member
    exact pair.passedIn (names member among) (ih member among)

/-! ## Values that say something -/

inductive Quoted : Input → String → Prop
  | intro {body : Input} {value : String} (spelling : Spelling body value.toList) :
      Quoted ('"'.toUInt8 :: (body ++ ['"'.toUInt8])) value

inductive Listed (item : Input → α → Prop) : Input → List α → Prop
  | intro {parts : List Input} {text : Input} {values : List α}
      (row : Row ']'.toUInt8 true parts text) (each : List.Forall₂ item parts values) :
      Listed item ('['.toUInt8 :: text) values

inductive Labelled : Input → String × Input → Prop
  | intro {part body value : Input} {name : String} (pair : Pair part body value)
      (spelling : Spelling body name.toList) : Labelled part (name, value)

inductive IsObject : Input → List (String × Input) → Prop
  | intro {parts : List Input} {text : Input} {members : List (String × Input)}
      (row : Row '}'.toUInt8 true parts text) (each : List.Forall₂ Labelled parts members) :
      IsObject ('{'.toUInt8 :: text) members

/-- An object with what its values say. Of several values under one name the last counts. -/
inductive Mapped (item : Input → α → Prop) : Input → InsertionMap String α → Prop
  | intro {text : Input} {members : List (String × Input)} {entries : List (String × α)}
      (object : IsObject text members)
      (each : List.Forall₂ (fun member entry => member.1 = entry.1 ∧ item member.2 entry.2)
        members entries) : Mapped item text (.ofList entries)

section Readers

variable {tells : Input → α → Prop} {item : Reader α} {values : List α} {m : InsertionMap String α}
  {members : List (String × Input)}

theorem Quoted.readAs {value : String} (quoted : Quoted input value) :
    ReadAs Json.text input value := by
  obtain ⟨spelling⟩ := quoted
  refine ⟨⟨_, _, rfl, by decide, by decide, by decide⟩, fun {blanks rest} blank _ => ?_⟩
  rw [List.cons_append, List.append_assoc]
  simp only [Json.text, nextByte_append_cons blank (by decide : isBlank '"'.toUInt8 = false), if_true]
  exact readText_of_spelling spelling rest

theorem Listed.readAs (reads : ∀ part value, tells part value → ReadAs item part value)
    (listed : Listed tells input values) : ReadAs (list item) input values := by
  obtain ⟨row, each⟩ := listed
  exact list_readAs row (each.imp reads)

theorem Labelled.member (labelled : Labelled part (name, value)) : Member part name value := by
  obtain ⟨⟨inside, inside'⟩, spelling⟩ := labelled
  rename_i body between before
  have member : Member ('"'.toUInt8 :: ((body ++ ['"'.toUInt8]) ++
      (between ++ ':'.toUInt8 :: (before ++ value)))) name value :=
    .intro (fun rest => by
      rw [List.append_assoc]
      exact readText_of_spelling spelling rest) inside inside'
  rwa [List.append_assoc, List.singleton_append] at member

theorem readMember_of_labelled {parts : List Input} {entries : List (String × α)}
    (reads : ∀ part value, tells part value → ReadAs item part value)
    (labelled : List.Forall₂ Labelled parts members)
    (each : List.Forall₂ (fun member entry => member.1 = entry.1 ∧ tells member.2 entry.2)
      members entries) : List.Forall₂ (ReadMember item) parts entries := by
  induction labelled generalizing entries with
  | nil =>
    cases each
    exact .nil
  | @cons part member parts members named others ih =>
    cases each with
    | @cons _ entry _ entries same each =>
      obtain ⟨name, value⟩ := member
      obtain ⟨rfl, valued⟩ := same
      exact .cons ⟨value, named.member, reads value entry.2 valued⟩ (ih each)

theorem Mapped.readAs (reads : ∀ part value, tells part value → ReadAs item part value)
    (mapped : Mapped tells input m) : ReadAs (map item) input m := by
  obtain ⟨⟨row, labelled⟩, each⟩ := mapped
  exact map_readAs row (readMember_of_labelled reads labelled each)

theorem Quoted.wellFormed {value : String} (quoted : Quoted input value) : WellFormed input := by
  obtain ⟨spelling⟩ := quoted
  exact .text spelling.isBody

theorem Listed.wellFormed (sound : ∀ part value, tells part value → WellFormed part)
    (listed : Listed tells input values) : WellFormed input := by
  obtain ⟨row, each⟩ := listed
  refine .list row fun part member => ?_
  obtain ⟨value, -, said⟩ := exists_of_mem_left each member
  exact sound part value said

theorem exists_pairs {parts : List Input} (each : List.Forall₂ Labelled parts members) :
    ∃ pairs : List (Input × Input),
      List.Forall₂ (fun part pair => Pair part pair.1 pair.2) parts pairs ∧
      (∀ pair ∈ pairs, Body pair.1) ∧ ∀ pair ∈ pairs, ∃ member ∈ members, member.2 = pair.2 := by
  induction each with
  | nil => exact ⟨[], .nil, nofun, nofun⟩
  | cons labelled others ih =>
    obtain ⟨pairs, paired, names, among⟩ := ih
    obtain ⟨pair, spelling⟩ := labelled
    refine ⟨(_, _) :: pairs, .cons pair paired, List.forall_mem_cons.mpr ⟨spelling.isBody, names⟩,
      List.forall_mem_cons.mpr ⟨⟨_, List.mem_cons_self, rfl⟩, fun pair member => ?_⟩⟩
    obtain ⟨named, found, same⟩ := among pair member
    exact ⟨named, List.mem_cons_of_mem _ found, same⟩

theorem IsObject.wellFormed (object : IsObject input members)
    (values : ∀ member ∈ members, WellFormed member.2) : WellFormed input := by
  obtain ⟨row, each⟩ := object
  obtain ⟨pairs, paired, names, among⟩ := exists_pairs each
  refine .object row paired names fun pair member => ?_
  obtain ⟨named, found, same⟩ := among pair member
  exact same ▸ values named found

theorem Mapped.wellFormed (sound : ∀ part value, tells part value → WellFormed part)
    (mapped : Mapped tells input m) : WellFormed input := by
  obtain ⟨object, each⟩ := mapped
  refine object.wellFormed fun member among => ?_
  obtain ⟨entry, -, -, said⟩ := exists_of_mem_left each among
  exact sound member.2 entry.2 said

end Readers

end RuleSmith.Json
