import RuleSmith.Json.Number
import RuleSmith.Json.Text

/-!
# Values that nobody asked for

A member with an unknown name is passed over, however deep its value goes. What is passed over has to
have the form of JSON, but neither the size of its numbers nor the code points of its texts count.
The brackets that are still open stand on a stack.
-/

namespace RuleSmith.Json

inductive Frame
  | list
  | object
deriving DecidableEq

def Frame.close : Frame → UInt8
  | .list => ']'.toUInt8
  | .object => '}'.toUInt8

def Frame.ended : Frame → Fault
  | .list => ⟨.endInList, []⟩
  | .object => ⟨.endInObject, []⟩

def Frame.unfinished : Frame → Cause
  | .list => .expectedListCommaOrEnd
  | .object => .expectedObjectCommaOrEnd

def skipExponent (input : Input) : Except Fault Input :=
  match (exponentSign input).2 with
  | [] => .error ⟨.invalidNumber, []⟩
  | byte :: rest =>
    if isDigit byte then .ok (rest.dropWhile isDigit) else .error ⟨.invalidNumber, rest⟩

def skipTail : Input → Except Fault Input
  | [] => .ok []
  | byte :: rest => if isExponentMark byte then skipExponent rest else .ok (byte :: rest)

def skipFraction : Input → Except Fault Input
  | [] => .ok []
  | byte :: rest =>
    if byte = '.'.toUInt8 then
      if (rest.head?.map isDigit).getD false then skipTail (rest.dropWhile isDigit)
      else .error (.atNext .invalidNumber rest)
    else skipTail (byte :: rest)

def skipNumber : Input → Except Fault Input
  | [] => .error ⟨.invalidNumber, []⟩
  | byte :: rest =>
    if byte = '0'.toUInt8 then
      if (rest.head?.map isDigit).getD false then .error (.atNext .invalidNumber rest)
      else skipFraction rest
    else if isDigit byte then skipFraction (rest.dropWhile isDigit)
    else .error ⟨.invalidNumber, rest⟩

def skipEscape : Input → Except Fault Input
  | [] => .error ⟨.endInText, []⟩
  | letter :: rest =>
    if (plainEscape? letter).isSome then .ok rest
    else if letter = 'u'.toUInt8 then
      match readCodeUnit rest with
      | .error fault => .error fault
      | .ok (_, rest) => .ok rest
    else .error ⟨.invalidEscape, rest⟩

theorem skipEscape_shortens {input rest : Input} (skip : skipEscape input = .ok rest) :
    rest.length < input.length := by
  cases input with
  | nil => simp [skipEscape] at skip
  | cons letter others =>
    simp only [skipEscape] at skip
    split at skip
    · simp only [Except.ok.injEq] at skip
      simp [skip]
    · split at skip
      · split at skip
        · simp at skip
        · next found =>
          simp only [Except.ok.injEq] at skip
          exact Nat.lt_succ_of_lt (skip ▸ readCodeUnit_shortens found)
      · simp at skip

def skipText (input : Input) : Except Fault Input :=
  match input with
  | [] => .error ⟨.endInText, []⟩
  | byte :: rest =>
    if byte = '"'.toUInt8 then .ok rest
    else if byte = '\\'.toUInt8 then
      match _ : skipEscape rest with
      | .error fault => .error fault
      | .ok after => skipText after
    else if byte < 0x20 then .error ⟨.controlCharacter, byte :: rest⟩
    else skipText rest
termination_by input.length
decreasing_by
  · have := skipEscape_shortens ‹_›
    simp only [List.length_cons]
    omega
  · simp

def skipScalar (byte : UInt8) (rest : Input) : Except Fault Input :=
  if byte = 'n'.toUInt8 then readWord ['u', 'l', 'l'] rest
  else if byte = 't'.toUInt8 then readWord ['r', 'u', 'e'] rest
  else if byte = 'f'.toUInt8 then readWord ['a', 'l', 's', 'e'] rest
  else if byte = '-'.toUInt8 then skipNumber rest
  else if isDigit byte then skipNumber (byte :: rest)
  else if byte = '"'.toUInt8 then skipText rest
  else .error ⟨.expectedValue, rest⟩

def skipName (input : Input) : Except Fault Input :=
  match skipBlank input with
  | [] => .error ⟨.endInObject, []⟩
  | byte :: rest =>
    if byte = '"'.toUInt8 then
      match skipText rest with
      | .error fault => .error fault
      | .ok rest =>
        match skipBlank rest with
        | [] => .error ⟨.endInObject, []⟩
        | byte :: rest =>
          if byte = ':'.toUInt8 then .ok rest else .error ⟨.expectedColon, rest⟩
    else .error ⟨.keyNotText, rest⟩

def Frame.enter : Frame → Input → Except Fault Input
  | .list, input => .ok input
  | .object, input => skipName input

/-! ## What is passed over gets shorter -/

theorem skipExponent_le {input rest : Input} (skip : skipExponent input = .ok rest) :
    rest.length ≤ input.length := by
  have sign := exponentSign_le input
  unfold skipExponent at skip
  split at skip
  · simp at skip
  next byte others found =>
  rw [found, List.length_cons] at sign
  split at skip
  · simp only [Except.ok.injEq] at skip
    have dropped := (List.dropWhile_sublist (l := others) isDigit).length_le
    rw [skip] at dropped
    omega
  · simp at skip

theorem skipTail_le {input rest : Input} (skip : skipTail input = .ok rest) :
    rest.length ≤ input.length := by
  cases input with
  | nil =>
    simp only [skipTail, Except.ok.injEq] at skip
    exact skip ▸ Nat.le_refl _
  | cons byte others =>
    simp only [skipTail] at skip
    split at skip
    · exact Nat.le_succ_of_le (skipExponent_le skip)
    · simp only [Except.ok.injEq] at skip
      exact skip ▸ Nat.le_refl _

theorem skipFraction_le {input rest : Input} (skip : skipFraction input = .ok rest) :
    rest.length ≤ input.length := by
  cases input with
  | nil =>
    simp only [skipFraction, Except.ok.injEq] at skip
    exact skip ▸ Nat.le_refl _
  | cons byte others =>
    have dropped := (List.dropWhile_sublist (l := others) isDigit).length_le
    simp only [skipFraction] at skip
    split at skip
    · split at skip
      · exact Nat.le_succ_of_le (Nat.le_trans (skipTail_le skip) dropped)
      · simp at skip
    · exact skipTail_le skip

theorem skipNumber_shortens {input rest : Input} (skip : skipNumber input = .ok rest) :
    rest.length < input.length := by
  cases input with
  | nil => simp [skipNumber] at skip
  | cons byte others =>
    have dropped := (List.dropWhile_sublist (l := others) isDigit).length_le
    simp only [skipNumber] at skip
    split at skip
    · split at skip
      · simp at skip
      · exact Nat.lt_succ_of_le (skipFraction_le skip)
    · split at skip
      · exact Nat.lt_succ_of_le (Nat.le_trans (skipFraction_le skip) dropped)
      · simp at skip

theorem skipText_shortens {input rest : Input} (skip : skipText input = .ok rest) :
    rest.length < input.length := by
  fun_induction skipText input with
  | case2 =>
    simp only [Except.ok.injEq] at skip
    simp [skip]
  | case4 others after escape _ ih =>
    have shorter := skipEscape_shortens escape
    have deeper := ih skip
    simp only [List.length_cons]
    omega
  | case6 byte others _ _ _ ih =>
    have deeper := ih skip
    simp only [List.length_cons]
    omega
  | _ => simp at skip

theorem skipScalar_le {byte : UInt8} {input rest : Input}
    (skip : skipScalar byte input = .ok rest) : rest.length ≤ input.length := by
  unfold skipScalar at skip
  repeat' split at skip
  · exact readWord_le skip
  · exact readWord_le skip
  · exact readWord_le skip
  · exact Nat.le_of_lt (skipNumber_shortens skip)
  · exact Nat.le_of_lt_succ (skipNumber_shortens skip)
  · exact Nat.le_of_lt (skipText_shortens skip)
  · simp at skip

theorem skipName_shortens {input rest : Input} (skip : skipName input = .ok rest) :
    rest.length < input.length := by
  unfold skipName at skip
  split at skip
  · simp at skip
  next byte others found =>
  have first := skipBlank_cons_lt found
  split at skip
  · split at skip
    · simp at skip
    next after text =>
    have name := skipText_shortens text
    split at skip
    · simp at skip
    next colon final found =>
    have second := skipBlank_cons_lt found
    split at skip
    · simp only [Except.ok.injEq] at skip
      rw [← skip]
      omega
    · simp at skip
  · simp at skip

theorem Frame.enter_le {frame : Frame} {input rest : Input}
    (entered : frame.enter input = .ok rest) : rest.length ≤ input.length := by
  cases frame with
  | list =>
    simp only [Frame.enter, Except.ok.injEq] at entered
    exact entered ▸ Nat.le_refl _
  | object => exact Nat.le_of_lt (skipName_shortens entered)

mutual

def skipValue (frames : List Frame) (input : Input) : Except Fault Input :=
  match _ : nextByte input with
  | .error fault => .error fault
  | .ok (byte, rest) =>
    if byte = '['.toUInt8 then skipOpened .list frames rest
    else if byte = '{'.toUInt8 then skipOpened .object frames rest
    else
      match _ : skipScalar byte rest with
      | .error fault => .error fault
      | .ok after => skipClosing frames after
termination_by (input.length, 0)
decreasing_by
  · have := nextByte_shortens ‹_›
    exact Prod.Lex.left _ _ this
  · have := nextByte_shortens ‹_›
    exact Prod.Lex.left _ _ this
  · have := nextByte_shortens ‹_›
    have := skipScalar_le ‹_›
    exact Prod.Lex.left _ _ (by omega)

def skipOpened (frame : Frame) (frames : List Frame) (input : Input) : Except Fault Input :=
  match _ : skipBlank input with
  | [] => .error frame.ended
  | byte :: rest =>
    if byte = frame.close then skipClosing frames rest
    else
      match _ : frame.enter (byte :: rest) with
      | .error fault => .error fault
      | .ok after => skipValue (frame :: frames) after
termination_by (input.length, 1)
decreasing_by
  · exact Prod.Lex.left _ _ (skipBlank_cons_lt ‹_›)
  · have shorter := skipBlank_cons_lt ‹_›
    have entered := Frame.enter_le ‹_›
    simp only [List.length_cons] at entered
    rcases Nat.lt_or_eq_of_le (Nat.le_trans entered shorter) with less | same
    · exact Prod.Lex.left _ _ less
    · rw [same]
      exact Prod.Lex.right _ (by decide)

def skipClosing (frames : List Frame) (input : Input) : Except Fault Input :=
  match frames with
  | [] => .ok input
  | frame :: outer =>
    match _ : skipBlank input with
    | [] => .error frame.ended
    | byte :: rest =>
      if byte = ','.toUInt8 then
        match _ : frame.enter rest with
        | .error fault => .error fault
        | .ok after => skipValue (frame :: outer) after
      else if byte = frame.close then skipClosing outer rest
      else .error ⟨frame.unfinished, rest⟩
termination_by (input.length, 0)
decreasing_by
  · have shorter := skipBlank_cons_lt ‹_›
    have entered := Frame.enter_le ‹_›
    exact Prod.Lex.left _ _ (by omega)
  · exact Prod.Lex.left _ _ (skipBlank_cons_lt ‹_›)

end

theorem skipValue_ok {frames : List Frame} {input rest : Input}
    (passed : skipValue frames input = .ok rest) :
    ∃ byte behind, nextByte input = .ok (byte, behind) ∧
      (byte = '['.toUInt8 ∧ skipOpened .list frames behind = .ok rest ∨
        byte = '{'.toUInt8 ∧ skipOpened .object frames behind = .ok rest ∨
        byte ≠ '['.toUInt8 ∧ byte ≠ '{'.toUInt8 ∧
          ∃ after, skipScalar byte behind = .ok after ∧ skipClosing frames after = .ok rest) := by
  rw [skipValue] at passed
  split at passed
  · cases passed
  · rename_i byte behind next
    refine ⟨byte, behind, next, ?_⟩
    split at passed
    · exact .inl ⟨‹_›, passed⟩
    · split at passed
      · exact .inr (.inl ⟨‹_›, passed⟩)
      · split at passed
        · cases passed
        · exact .inr (.inr ⟨‹_›, ‹_›, _, ‹_›, passed⟩)

theorem skipOpened_ok {frame : Frame} {frames : List Frame} {input rest : Input}
    (passed : skipOpened frame frames input = .ok rest) :
    ∃ byte behind, skipBlank input = byte :: behind ∧
      (byte = frame.close ∧ skipClosing frames behind = .ok rest ∨
        byte ≠ frame.close ∧ ∃ after, frame.enter (byte :: behind) = .ok after ∧
          skipValue (frame :: frames) after = .ok rest) := by
  rw [skipOpened] at passed
  split at passed
  · cases passed
  · rename_i byte behind found
    refine ⟨byte, behind, found, ?_⟩
    split at passed
    · exact .inl ⟨‹_›, passed⟩
    · split at passed
      · cases passed
      · exact .inr ⟨‹_›, _, ‹_›, passed⟩

theorem skipClosing_ok {frame : Frame} {frames : List Frame} {input rest : Input}
    (passed : skipClosing (frame :: frames) input = .ok rest) :
    (∃ behind, skipBlank input = frame.close :: behind ∧ skipClosing frames behind = .ok rest) ∨
      ∃ behind after, skipBlank input = ','.toUInt8 :: behind ∧ frame.enter behind = .ok after ∧
        skipValue (frame :: frames) after = .ok rest := by
  rw [skipClosing] at passed
  split at passed
  · cases passed
  · rename_i byte behind found
    split at passed
    · rename_i comma
      split at passed
      · cases passed
      · exact .inr ⟨behind, _, comma ▸ found, ‹_›, passed⟩
    · split at passed
      · rename_i close
        exact .inl ⟨behind, close ▸ found, passed⟩
      · cases passed

section Induction

variable {value closing : List Frame → Input → Input → Prop}
  {opened : Frame → List Frame → Input → Input → Prop}

/-- What each step of passing over keeps holds of all that is passed over: values, what is behind
them, and what is behind an opening bracket. -/
theorem skip_induct
    (list : ∀ frames input behind rest, nextByte input = .ok ('['.toUInt8, behind) →
      opened .list frames behind rest → value frames input rest)
    (object : ∀ frames input behind rest, nextByte input = .ok ('{'.toUInt8, behind) →
      opened .object frames behind rest → value frames input rest)
    (scalar : ∀ frames input byte behind after rest, nextByte input = .ok (byte, behind) →
      byte ≠ '['.toUInt8 → byte ≠ '{'.toUInt8 → skipScalar byte behind = .ok after →
      closing frames after rest → value frames input rest)
    (done : ∀ input, closing [] input input)
    (close : ∀ frame frames input behind rest, skipBlank input = frame.close :: behind →
      closing frames behind rest → closing (frame :: frames) input rest)
    (comma : ∀ frame frames input behind after rest, skipBlank input = ','.toUInt8 :: behind →
      frame.enter behind = .ok after → value (frame :: frames) after rest →
      closing (frame :: frames) input rest)
    (empty : ∀ frame frames input behind rest, skipBlank input = frame.close :: behind →
      closing frames behind rest → opened frame frames input rest)
    (enter : ∀ frame frames input byte behind after rest, skipBlank input = byte :: behind →
      byte ≠ frame.close → frame.enter (byte :: behind) = .ok after →
      value (frame :: frames) after rest → opened frame frames input rest) :
    (∀ frames input rest, skipValue frames input = .ok rest → value frames input rest) ∧
    (∀ frames input rest, skipClosing frames input = .ok rest → closing frames input rest) ∧
    (∀ frame frames input rest, skipOpened frame frames input = .ok rest →
      opened frame frames input rest) := by
  -- Every step but the one from an opening bracket to a value has less to read, so the values are
  -- dealt with before the brackets.
  have bounded (bound : Nat) :
      (∀ frames input rest, input.length = bound → skipValue frames input = .ok rest →
        value frames input rest) ∧
      (∀ frames input rest, input.length = bound → skipClosing frames input = .ok rest →
        closing frames input rest) ∧
      (∀ frame frames input rest, input.length = bound → skipOpened frame frames input = .ok rest →
        opened frame frames input rest) := by
    induction bound using Nat.strongRecOn with
    | ind bound ih =>
    have values (frames : List Frame) (input rest : Input) (size : input.length = bound)
        (passed : skipValue frames input = .ok rest) : value frames input rest := by
      obtain ⟨byte, behind, next, ⟨rfl, inside⟩ | ⟨rfl, inside⟩ |
        ⟨noList, noObject, after, read, behind'⟩⟩ := skipValue_ok passed
      · have shorter := size ▸ nextByte_shortens next
        exact list _ _ _ _ next ((ih _ shorter).2.2 _ _ _ _ rfl inside)
      · have shorter := size ▸ nextByte_shortens next
        exact object _ _ _ _ next ((ih _ shorter).2.2 _ _ _ _ rfl inside)
      · have shorter := size ▸ Nat.lt_of_le_of_lt (skipScalar_le read) (nextByte_shortens next)
        exact scalar _ _ _ _ _ _ next noList noObject read ((ih _ shorter).2.1 _ _ _ rfl behind')
    refine ⟨values, ?_, ?_⟩
    · intro frames input rest size passed
      cases frames with
      | nil =>
        rw [skipClosing] at passed
        cases passed
        exact done input
      | cons frame frames =>
        obtain ⟨behind, found, passed⟩ | ⟨behind, after, found, entered, passed⟩ :=
          skipClosing_ok passed
        · have shorter := size ▸ skipBlank_cons_lt found
          exact close _ _ _ _ _ found ((ih _ shorter).2.1 _ _ _ rfl passed)
        · have shorter := size ▸ Nat.lt_of_le_of_lt (Frame.enter_le entered) (skipBlank_cons_lt found)
          exact comma _ _ _ _ _ _ found entered ((ih _ shorter).1 _ _ _ rfl passed)
    · intro frame frames input rest size passed
      obtain ⟨byte, behind, found, ⟨rfl, passed⟩ | ⟨apart, after, entered, passed⟩⟩ :=
        skipOpened_ok passed
      · have shorter := size ▸ skipBlank_cons_lt found
        exact empty _ _ _ _ _ found ((ih _ shorter).2.1 _ _ _ rfl passed)
      · have within : after.length ≤ bound :=
          size ▸ Nat.le_trans (Frame.enter_le entered) (skipBlank_cons_lt found)
        refine enter _ _ _ _ _ _ _ found apart entered ?_
        obtain shorter | same := Nat.lt_or_eq_of_le within
        · exact (ih _ shorter).1 _ _ _ rfl passed
        · exact values _ _ _ same passed
  exact ⟨fun _ _ _ => (bounded _).1 _ _ _ rfl, fun _ _ _ => (bounded _).2.1 _ _ _ rfl,
    fun _ _ _ _ => (bounded _).2.2 _ _ _ _ rfl⟩

end Induction

theorem skip_lengths :
    (∀ frames input rest, skipValue frames input = .ok rest → rest.length < input.length) ∧
    (∀ frames input rest, skipClosing frames input = .ok rest → rest.length ≤ input.length) ∧
    (∀ frame frames input rest, skipOpened frame frames input = .ok rest →
      rest.length < input.length) := by
  refine skip_induct ?list ?object ?scalar ?done ?close ?comma ?empty ?enter
  case list | object =>
    intro frames input behind rest next shorter
    exact Nat.lt_trans shorter (nextByte_shortens next)
  case scalar =>
    intro frames input byte behind after rest next _ _ scalar shorter
    exact Nat.lt_of_le_of_lt (Nat.le_trans shorter (skipScalar_le scalar)) (nextByte_shortens next)
  case done => exact fun input => Nat.le_refl _
  case close =>
    intro frame frames input behind rest found shorter
    exact Nat.le_of_lt (Nat.lt_of_le_of_lt shorter (skipBlank_cons_lt found))
  case comma =>
    intro frame frames input behind after rest found entered shorter
    have := skipBlank_cons_lt found
    have := Frame.enter_le entered
    omega
  case empty =>
    intro frame frames input behind rest found shorter
    exact Nat.lt_of_le_of_lt shorter (skipBlank_cons_lt found)
  case enter =>
    intro frame frames input byte behind after rest found _ entered shorter
    exact Nat.lt_of_lt_of_le shorter (Nat.le_trans (Frame.enter_le entered) (skipBlank_cons_lt found))

def skip (input : Input) : Except Fault Input := skipValue [] input

theorem skip_shortens {input rest : Input} (passed : skip input = .ok rest) :
    rest.length < input.length :=
  skip_lengths.1 _ _ _ passed

end RuleSmith.Json
