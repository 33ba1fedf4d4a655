import RuleSmith.Json.Reader

/-!
# Records

A record is an object with known fields, in any order and with unknown members in between, or a list
of its fields in their order. A field that may be left out may also end a list early. No field may
come twice, and whatever is missing is reported where the record ends.
-/

namespace RuleSmith.Json

structure Field (δ : Type) where
  name : String
  required : Bool
  present : δ → Bool
  reader : δ → Reader δ

def field {δ β : Type} (name : String) (required : Bool) (get : δ → Option β) (put : δ → β → δ)
    (value : Reader β) : Field δ where
  name := name
  required := required
  present draft := (get draft).isSome
  reader draft := value.map (put draft)

structure Shape (δ α : Type) where
  name : String
  fields : List (Field δ)
  start : δ
  build : δ → α

/-- Why a record is refused: at a known place, or for a reason whose place is where it ends. -/
inductive Trouble
  | fault (fault : Fault)
  | complaint (cause : Cause) (rest : Input)

def Trouble.settle (place : Input → Input) : Trouble → Fault
  | .fault known => known
  | .complaint cause rest => ⟨cause, place rest⟩

def readMember {δ : Type} (fields : List (Field δ)) (name : String) (draft : δ) (input : Input) :
    Except Trouble (δ × Input) :=
  match fields.find? fun field => field.name = name with
  | none =>
    match readColon input with
    | .error fault => .error (.fault fault)
    | .ok rest =>
      match skip rest with
      | .error fault => .error (.fault fault)
      | .ok rest => .ok (draft, rest)
  | some field =>
    if field.present draft then .error (.complaint (.duplicateField name) input)
    else
      match readColon input with
      | .error fault => .error (.fault fault)
      | .ok rest =>
        match (field.reader draft).read rest with
        | .error fault => .error (.fault fault)
        | .ok (draft, rest) => .ok (draft, rest)

theorem readMember_shortens {δ : Type} {fields : List (Field δ)} {name : String}
    {draft draft' : δ} {input rest : Input}
    (read : readMember fields name draft input = .ok (draft', rest)) :
    rest.length < input.length := by
  unfold readMember at read
  split at read
  · split at read
    · simp at read
    next colon =>
    split at read
    · simp at read
    next passed =>
    simp only [Except.ok.injEq, Prod.mk.injEq] at read
    exact Nat.lt_trans (read.2 ▸ skip_shortens passed) (readColon_shortens colon)
  · split at read
    · simp at read
    split at read
    · simp at read
    next colon =>
    split at read
    · simp at read
    next value =>
    simp only [Except.ok.injEq, Prod.mk.injEq] at read
    exact Nat.lt_trans (read.2 ▸ (Field.reader _ _).shortens value) (readColon_shortens colon)

def readMembers {δ : Type} (fields : List (Field δ)) (draft : δ) (first : Bool) (input : Input) :
    Except Trouble (δ × Input) :=
  match _ : nextName first input with
  | .error fault => .error (.fault fault)
  | .ok (none, rest) => .ok (draft, rest)
  | .ok (some name, rest) =>
    match _ : readMember fields name draft rest with
    | .error trouble => .error trouble
    | .ok (draft, after) => readMembers fields draft false after
termination_by input.length
decreasing_by
  have := nextName_le ‹_›
  have := readMember_shortens ‹_›
  omega

def firstMissing {δ : Type} (fields : List (Field δ)) (draft : δ) : Option String :=
  (fields.find? fun field => field.required && !field.present draft).map Field.name

def readObject {δ α : Type} (shape : Shape δ α) (input : Input) : Except Trouble (δ × Input) :=
  match readMembers shape.fields shape.start true input with
  | .error trouble => .error trouble
  | .ok (draft, rest) =>
    match firstMissing shape.fields draft with
    | some name => .error (.complaint (.missingField name) rest)
    | none => .ok (draft, rest)

def readPositions {δ α : Type} (shape : Shape δ α) (draft : δ) (taken : Nat) (first : Bool)
    (fields : List (Field δ)) (input : Input) : Except Trouble (δ × Input) :=
  match fields with
  | [] => .ok (draft, input)
  | field :: others =>
    match nextItem first input with
    | .error fault => .error (.fault fault)
    | .ok (false, rest) =>
      if field.required then
        .error (.complaint (.tooShort taken shape.name shape.fields.length) rest)
      else readPositions shape draft (taken + 1) first others rest
    | .ok (true, rest) =>
      match (field.reader draft).read rest with
      | .error fault => .error (.fault fault)
      | .ok (draft, rest) => readPositions shape draft (taken + 1) false others rest

def afterList (input : Input) : Input :=
  match skipBlank input with
  | [] => []
  | byte :: rest =>
    if byte = ']'.toUInt8 then rest
    else if byte = ','.toUInt8 then skipBlank rest
    else byte :: rest

def afterObject (input : Input) : Input :=
  match skipBlank input with
  | [] => []
  | byte :: rest => if byte = '}'.toUInt8 then rest else byte :: rest

theorem readMembers_le {δ : Type} {fields : List (Field δ)} {draft draft' : δ} {first : Bool}
    {input rest : Input} (read : readMembers fields draft first input = .ok (draft', rest)) :
    rest.length ≤ input.length := by
  fun_induction readMembers fields draft first input with
  | case2 draft first input after next =>
    simp only [Except.ok.injEq, Prod.mk.injEq] at read
    exact read.2 ▸ nextName_le next
  | case4 draft first input name named next draft'' after member ih =>
    have stepped := nextName_le next
    have shorter := readMember_shortens member
    have deeper := ih read
    omega
  | _ => simp at read

theorem readObject_le {δ α : Type} {shape : Shape δ α} {draft : δ} {input rest : Input}
    (read : readObject shape input = .ok (draft, rest)) : rest.length ≤ input.length := by
  unfold readObject at read
  split at read
  · simp at read
  next found =>
  split at read
  · simp at read
  · simp only [Except.ok.injEq, Prod.mk.injEq] at read
    exact read.2 ▸ readMembers_le found

theorem readPositions_le {δ α : Type} {shape : Shape δ α} {fields : List (Field δ)}
    {draft draft' : δ} {taken : Nat} {first : Bool} {input rest : Input}
    (read : readPositions shape draft taken first fields input = .ok (draft', rest)) :
    rest.length ≤ input.length := by
  induction fields generalizing draft taken first input with
  | nil =>
    simp only [readPositions, Except.ok.injEq, Prod.mk.injEq] at read
    exact read.2 ▸ Nat.le_refl _
  | cons field others ih =>
    simp only [readPositions] at read
    split at read
    · simp at read
    · next next =>
      split at read
      · simp at read
      · exact Nat.le_trans (ih read) (nextItem_le next)
    · next next =>
      split at read
      · simp at read
      · next value =>
        have := (field.reader draft).shortens value
        have := nextItem_le next
        have := ih read
        omega

def record {δ α : Type} (shape : Shape δ α) : Reader α where
  read input :=
    match nextByte input with
    | .error fault => .error fault
    | .ok (byte, rest) =>
      if byte = '['.toUInt8 then
        match readPositions shape shape.start 0 true shape.fields rest with
        | .error trouble => .error (trouble.settle afterList)
        | .ok (draft, rest) => (closeList rest).map (shape.build draft, ·)
      else if byte = '{'.toUInt8 then
        match readObject shape rest with
        | .error trouble => .error (trouble.settle afterObject)
        | .ok (draft, rest) => (closeObject rest).map (shape.build draft, ·)
      else .error (mismatch (.record shape.name) byte rest)
  shortens := by
    intro input rest value read
    split at read
    · simp at read
    next byte others found =>
    have shorter := nextByte_shortens found
    split at read
    · split at read
      · simp at read
      next draft after positions =>
      have inside := readPositions_le positions
      have closing := closeList_shortens (rest_of_map read)
      omega
    split at read
    · split at read
      · simp at read
      next draft after members =>
      have inside := readObject_le members
      have closing := closeObject_shortens (rest_of_map read)
      omega
    · simp at read

end RuleSmith.Json
