import RuleSmith.InsertionMap
import RuleSmith.Json.Skip

/-!
# Readers of typed values

A `Reader` reads one value from the front of a text and leaves a shorter rest. There is one for texts,
truth values and integers, and there are three that build on others: for what may be null, for lists,
and for maps that keep the order of their members. A value of another type is read over before it is
refused, so that a text that is broken earlier is refused for that.
-/

namespace RuleSmith.Json

structure Reader (α : Type) where
  read : Input → Except Fault (α × Input)
  shortens : ∀ {input rest : Input} {value : α}, read input = .ok (value, rest) →
    rest.length < input.length

def Reader.parse {α : Type} (reader : Reader α) (whole : Input) : Except Error α :=
  match reader.read whole with
  | .error fault => .error (fault.locate whole)
  | .ok (value, rest) =>
    match skipBlank rest with
    | [] => .ok value
    | _ :: rest => .error (Fault.locate whole ⟨.trailingCharacters, rest⟩)

def Reader.map {α β : Type} (f : α → β) (reader : Reader α) : Reader β where
  read input :=
    match reader.read input with
    | .error fault => .error fault
    | .ok (value, rest) => .ok (f value, rest)
  shortens := by
    intro input rest value read
    split at read
    · simp at read
    · next found =>
      simp only [Except.ok.injEq, Prod.mk.injEq] at read
      exact read.2 ▸ reader.shortens found

def mismatch (expected : Expected) (byte : UInt8) (rest : Input) : Fault :=
  let refusal (found : Found) : Except Fault Input → Fault
    | .error fault => fault
    | .ok after => ⟨.invalidType found expected, after⟩
  if byte = 'n'.toUInt8 then refusal .null (readWord ['u', 'l', 'l'] rest)
  else if byte = 't'.toUInt8 then refusal (.truth true) (readWord ['r', 'u', 'e'] rest)
  else if byte = 'f'.toUInt8 then refusal (.truth false) (readWord ['a', 'l', 's', 'e'] rest)
  else if byte = '-'.toUInt8 then
    match readNumber true rest with
    | .error fault => fault
    | .ok (number, after) => ⟨.invalidType number.found expected, after⟩
  else if isDigit byte then
    match readNumber false (byte :: rest) with
    | .error fault => fault
    | .ok (number, after) => ⟨.invalidType number.found expected, after⟩
  else if byte = '"'.toUInt8 then
    match readText rest with
    | .error fault => fault
    | .ok (text, after) => ⟨.invalidType (.text text) expected, after⟩
  else if byte = '['.toUInt8 then ⟨.invalidType .sequence expected, byte :: rest⟩
  else if byte = '{'.toUInt8 then ⟨.invalidType .map expected, byte :: rest⟩
  else ⟨.expectedValue, rest⟩

/-! ## Single values -/

def text : Reader String where
  read input :=
    match nextByte input with
    | .error fault => .error fault
    | .ok (byte, rest) =>
      if byte = '"'.toUInt8 then readText rest else .error (mismatch .text byte rest)
  shortens := by
    intro input rest value read
    split at read
    · simp at read
    next byte others found =>
    split at read
    · exact Nat.lt_trans (readText_shortens read) (nextByte_shortens found)
    · simp at read

def truth : Reader Bool where
  read input :=
    match nextByte input with
    | .error fault => .error fault
    | .ok (byte, rest) =>
      if byte = 't'.toUInt8 then (readWord ['r', 'u', 'e'] rest).map (true, ·)
      else if byte = 'f'.toUInt8 then (readWord ['a', 'l', 's', 'e'] rest).map (false, ·)
      else .error (mismatch .truth byte rest)
  shortens := by
    intro input rest value read
    split at read
    · simp at read
    next byte others found =>
    have shorter := nextByte_shortens found
    split at read
    · exact Nat.lt_of_le_of_lt (readWord_le (rest_of_map read)) shorter
    split at read
    · exact Nat.lt_of_le_of_lt (readWord_le (rest_of_map read)) shorter
    · simp at read

def Number.toInt64 (rest : Input) : Number → Except Fault (Int64 × Input)
  | .natural value =>
    if value < Nat.pow 2 63 then .ok (Int64.ofNat value, rest)
    else .error ⟨.integerTooLarge value, rest⟩
  | .negative value => .ok (Int64.ofInt (-(value : Int)), rest)
  | .real bits => .error ⟨.invalidType (.real bits) .integer, rest⟩

theorem Number.toInt64_rest {input rest : Input} {number : Number} {value : Int64}
    (read : number.toInt64 input = .ok (value, rest)) : rest = input := by
  cases number with
  | natural n =>
    simp only [Number.toInt64] at read
    split at read
    · simp only [Except.ok.injEq, Prod.mk.injEq] at read
      exact read.2.symm
    · simp at read
  | negative n =>
    simp only [Number.toInt64, Except.ok.injEq, Prod.mk.injEq] at read
    exact read.2.symm
  | real bits => simp [Number.toInt64] at read

def readInt64 (negative : Bool) (input : Input) : Except Fault (Int64 × Input) :=
  match readNumber negative input with
  | .error fault => .error fault
  | .ok (number, rest) => number.toInt64 rest

theorem readInt64_shortens {negative : Bool} {input rest : Input} {value : Int64}
    (read : readInt64 negative input = .ok (value, rest)) : rest.length < input.length := by
  unfold readInt64 at read
  split at read
  · simp at read
  · next found => exact Number.toInt64_rest read ▸ readNumber_shortens found

def int64 : Reader Int64 where
  read input :=
    match nextByte input with
    | .error fault => .error fault
    | .ok (byte, rest) =>
      if byte = '-'.toUInt8 then readInt64 true rest
      else if isDigit byte then readInt64 false (byte :: rest)
      else .error (mismatch .integer byte rest)
  shortens := by
    intro input rest value read
    split at read
    · simp at read
    next byte others found =>
    have shorter := nextByte_shortens found
    split at read
    · exact Nat.lt_trans (readInt64_shortens read) shorter
    split at read
    · exact Nat.lt_of_le_of_lt (Nat.le_of_lt_succ (readInt64_shortens read)) shorter
    · simp at read

def optional {α : Type} (reader : Reader α) : Reader (Option α) where
  read input :=
    match nextByte input with
    | .error fault => .error fault
    | .ok (byte, rest) =>
      if byte = 'n'.toUInt8 then (readWord ['u', 'l', 'l'] rest).map (none, ·)
      else
        match reader.read input with
        | .error fault => .error fault
        | .ok (value, rest) => .ok (some value, rest)
  shortens := by
    intro input rest value read
    split at read
    · simp at read
    next byte others found =>
    have shorter := nextByte_shortens found
    split at read
    · exact Nat.lt_of_le_of_lt (readWord_le (rest_of_map read)) shorter
    split at read
    · simp at read
    · next inner =>
      simp only [Except.ok.injEq, Prod.mk.injEq] at read
      exact read.2 ▸ reader.shortens inner

/-! ## Lists -/

def nextItem (first : Bool) (input : Input) : Except Fault (Bool × Input) :=
  match skipBlank input with
  | [] => .error ⟨.endInList, []⟩
  | byte :: rest =>
    if byte = ']'.toUInt8 then .ok (false, byte :: rest)
    else if first then .ok (true, byte :: rest)
    else if byte = ','.toUInt8 then
      match skipBlank rest with
      | [] => .error ⟨.endInValue, []⟩
      | byte :: rest =>
        if byte = ']'.toUInt8 then .error ⟨.trailingComma, rest⟩ else .ok (true, byte :: rest)
    else .error ⟨.expectedListCommaOrEnd, rest⟩

theorem nextItem_le {first more : Bool} {input rest : Input}
    (next : nextItem first input = .ok (more, rest)) : rest.length ≤ input.length := by
  unfold nextItem at next
  split at next
  · simp at next
  next byte others found =>
  have shorter := skipBlank_cons_lt found
  split at next
  · simp only [Except.ok.injEq, Prod.mk.injEq] at next
    exact next.2 ▸ shorter
  split at next
  · simp only [Except.ok.injEq, Prod.mk.injEq] at next
    exact next.2 ▸ shorter
  split at next
  · split at next
    · simp at next
    next again found =>
    have deeper := skipBlank_cons_lt found
    split at next
    · simp at next
    · simp only [Except.ok.injEq, Prod.mk.injEq] at next
      rw [← next.2, List.length_cons]
      omega
  · simp at next

def closeList (input : Input) : Except Fault Input :=
  match skipBlank input with
  | [] => .error ⟨.endInList, []⟩
  | byte :: rest =>
    if byte = ']'.toUInt8 then .ok rest
    else if byte = ','.toUInt8 then
      match skipBlank rest with
      | [] => .error ⟨.trailingCharacters, []⟩
      | byte :: rest =>
        if byte = ']'.toUInt8 then .error ⟨.trailingComma, rest⟩
        else .error ⟨.trailingCharacters, rest⟩
    else .error ⟨.trailingCharacters, rest⟩

theorem closeList_shortens {input rest : Input} (closed : closeList input = .ok rest) :
    rest.length < input.length := by
  unfold closeList at closed
  split at closed
  · simp at closed
  next byte others found =>
  have shorter := skipBlank_cons_lt found
  split at closed
  · simp only [Except.ok.injEq] at closed
    exact closed ▸ shorter
  split at closed
  · split at closed
    · simp at closed
    · split at closed <;> simp at closed
  · simp at closed

def readItems {α : Type} (item : Reader α) (first : Bool) (input : Input) :
    Except Fault (List α × Input) :=
  match _ : nextItem first input with
  | .error fault => .error fault
  | .ok (false, rest) => .ok ([], rest)
  | .ok (true, rest) =>
    match _ : item.read rest with
    | .error fault => .error fault
    | .ok (value, after) =>
      match readItems item false after with
      | .error fault => .error fault
      | .ok (values, rest) => .ok (value :: values, rest)
termination_by input.length
decreasing_by
  have := nextItem_le ‹_›
  have := item.shortens ‹_›
  omega

theorem readItems_le {α : Type} {item : Reader α} {first : Bool} {input rest : Input}
    {values : List α} (read : readItems item first input = .ok (values, rest)) :
    rest.length ≤ input.length := by
  fun_induction readItems item first input generalizing values rest with
  | case2 first input after next =>
    simp only [Except.ok.injEq, Prod.mk.injEq] at read
    exact read.2 ▸ nextItem_le next
  | case5 first input at_ next value after item_ others final more ih =>
    have stepped := nextItem_le next
    have shorter := item.shortens item_
    have deeper := ih more
    simp only [Except.ok.injEq, Prod.mk.injEq] at read
    rw [← read.2]
    omega
  | _ => simp at read

def list {α : Type} (item : Reader α) : Reader (List α) where
  read input :=
    match nextByte input with
    | .error fault => .error fault
    | .ok (byte, rest) =>
      if byte = '['.toUInt8 then
        match readItems item true rest with
        | .error fault => .error fault
        | .ok (values, rest) => (closeList rest).map (values, ·)
      else .error (mismatch .sequence byte rest)
  shortens := by
    intro input rest value read
    split at read
    · simp at read
    next byte others found =>
    have shorter := nextByte_shortens found
    split at read
    · split at read
      · simp at read
      next values after items =>
      have inside := readItems_le items
      have closing := closeList_shortens (rest_of_map read)
      omega
    · simp at read

/-! ## Maps -/

def readName (byte : UInt8) (rest : Input) : Except Fault (Option String × Input) :=
  if byte = '"'.toUInt8 then
    match readText rest with
    | .error fault => .error fault
    | .ok (name, rest) => .ok (some name, rest)
  else .error ⟨.keyNotText, rest⟩

def nextName (first : Bool) (input : Input) : Except Fault (Option String × Input) :=
  match skipBlank input with
  | [] => .error ⟨.endInObject, []⟩
  | byte :: rest =>
    if byte = '}'.toUInt8 then .ok (none, byte :: rest)
    else if first then readName byte rest
    else if byte = ','.toUInt8 then
      match skipBlank rest with
      | [] => .error ⟨.endInValue, []⟩
      | byte :: rest =>
        if byte = '}'.toUInt8 then .error ⟨.trailingComma, rest⟩ else readName byte rest
    else .error ⟨.expectedObjectCommaOrEnd, rest⟩

theorem readName_le {byte : UInt8} {input rest : Input} {name : Option String}
    (read : readName byte input = .ok (name, rest)) : rest.length ≤ input.length := by
  unfold readName at read
  split at read
  · split at read
    · simp at read
    · next found =>
      simp only [Except.ok.injEq, Prod.mk.injEq] at read
      exact read.2 ▸ Nat.le_of_lt (readText_shortens found)
  · simp at read

theorem nextName_le {first : Bool} {input rest : Input} {name : Option String}
    (next : nextName first input = .ok (name, rest)) : rest.length ≤ input.length := by
  unfold nextName at next
  split at next
  · simp at next
  next byte others found =>
  have shorter := skipBlank_cons_lt found
  split at next
  · simp only [Except.ok.injEq, Prod.mk.injEq] at next
    exact next.2 ▸ shorter
  split at next
  · have := readName_le next
    omega
  split at next
  · split at next
    · simp at next
    next again found =>
    have deeper := skipBlank_cons_lt found
    split at next
    · simp at next
    · have := readName_le next
      omega
  · simp at next

def readColon (input : Input) : Except Fault Input :=
  match skipBlank input with
  | [] => .error ⟨.endInObject, []⟩
  | byte :: rest => if byte = ':'.toUInt8 then .ok rest else .error ⟨.expectedColon, rest⟩

theorem readColon_shortens {input rest : Input} (read : readColon input = .ok rest) :
    rest.length < input.length := by
  unfold readColon at read
  split at read
  · simp at read
  next found =>
  split at read
  · simp only [Except.ok.injEq] at read
    exact read ▸ skipBlank_cons_lt found
  · simp at read

def closeObject (input : Input) : Except Fault Input :=
  match skipBlank input with
  | [] => .error ⟨.endInObject, []⟩
  | byte :: rest =>
    if byte = '}'.toUInt8 then .ok rest
    else if byte = ','.toUInt8 then .error ⟨.trailingComma, rest⟩
    else .error ⟨.trailingCharacters, rest⟩

theorem closeObject_shortens {input rest : Input} (closed : closeObject input = .ok rest) :
    rest.length < input.length := by
  unfold closeObject at closed
  split at closed
  · simp at closed
  next byte others found =>
  split at closed
  · simp only [Except.ok.injEq] at closed
    exact closed ▸ skipBlank_cons_lt found
  · split at closed <;> simp at closed

def readEntries {α : Type} (item : Reader α) (entries : InsertionMap String α) (first : Bool)
    (input : Input) : Except Fault (InsertionMap String α × Input) :=
  match _ : nextName first input with
  | .error fault => .error fault
  | .ok (none, rest) => .ok (entries, rest)
  | .ok (some name, rest) =>
    match _ : readColon rest with
    | .error fault => .error fault
    | .ok rest =>
      match _ : item.read rest with
      | .error fault => .error fault
      | .ok (value, after) => readEntries item (entries.insert name value) false after
termination_by input.length
decreasing_by
  have := nextName_le ‹_›
  have := readColon_shortens ‹_›
  have := item.shortens ‹_›
  omega

theorem readEntries_le {α : Type} {item : Reader α} {entries final : InsertionMap String α}
    {first : Bool} {input rest : Input}
    (read : readEntries item entries first input = .ok (final, rest)) :
    rest.length ≤ input.length := by
  fun_induction readEntries item entries first input with
  | case2 entries first input after next =>
    simp only [Except.ok.injEq, Prod.mk.injEq] at read
    exact read.2 ▸ nextName_le next
  | case5 entries first input name named next after colon value later item_ ih =>
    have stepped := nextName_le next
    have colon := readColon_shortens colon
    have shorter := item.shortens item_
    have deeper := ih read
    omega
  | _ => simp at read

def map {α : Type} (item : Reader α) : Reader (InsertionMap String α) where
  read input :=
    match nextByte input with
    | .error fault => .error fault
    | .ok (byte, rest) =>
      if byte = '{'.toUInt8 then
        match readEntries item .empty true rest with
        | .error fault => .error fault
        | .ok (entries, rest) => (closeObject rest).map (entries, ·)
      else .error (mismatch .map byte rest)
  shortens := by
    intro input rest value read
    split at read
    · simp at read
    next byte others found =>
    have shorter := nextByte_shortens found
    split at read
    · split at read
      · simp at read
      next entries after members =>
      have inside := readEntries_le members
      have closing := closeObject_shortens (rest_of_map read)
      omega
    · simp at read

end RuleSmith.Json
