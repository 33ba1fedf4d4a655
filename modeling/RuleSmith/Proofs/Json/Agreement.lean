import RuleSmith.Json.Record
import RuleSmith.Proofs.Json.Rows

namespace RuleSmith.Json

variable {δ α β : Type} {item : Reader α} {input rest text after blanks : Input} {name : String}
  {first : Bool} {frame : Frame} {fields : List (Field δ)} {draft final : δ}

def Ends (input rest : Input) : Prop :=
  ∀ frames, skipValue frames input = skipClosing frames rest

/-- Whether every value that is read can be passed over, up to the same place. -/
def Agrees (item : Reader α) : Prop :=
  ∀ {input rest : Input} {value : α}, item.read input = .ok (value, rest) → Ends input rest

/-! ## Brackets around what is passed over -/

theorem skip_inside :
    (∀ frames input rest, skipValue frames input = .ok rest →
      ∀ outer, skipValue (frames ++ outer) input = skipClosing outer rest) ∧
    (∀ frames input rest, skipClosing frames input = .ok rest →
      ∀ outer, skipClosing (frames ++ outer) input = skipClosing outer rest) ∧
    (∀ frame frames input rest, skipOpened frame frames input = .ok rest →
      ∀ outer, skipOpened frame (frames ++ outer) input = skipClosing outer rest) := by
  refine skip_induct ?list ?object ?scalar ?done ?close ?comma ?empty ?enter
  case list =>
    intro frames input behind rest next inside outer
    rw [skipValue_list next, inside]
  case object =>
    intro frames input behind rest next inside outer
    rw [skipValue_object next, inside]
  case scalar =>
    intro frames input byte behind after rest next noList noObject scalar inside outer
    rw [skipValue_scalar next noList noObject scalar, inside]
  case done => exact fun input outer => rfl
  case close =>
    intro frame frames input behind rest found inside outer
    rw [List.cons_append, skipClosing_close found, inside]
  case comma =>
    intro frame frames input behind after rest found entered inside outer
    rw [List.cons_append, skipClosing_comma found entered]
    exact inside outer
  case empty =>
    intro frame frames input behind rest found inside outer
    rw [skipOpened_close found, inside]
  case enter =>
    intro frame frames input byte behind after rest found apart entered inside outer
    rw [skipOpened_enter found apart entered]
    exact inside outer

theorem Ends.of_skip (passed : skip input = .ok rest) : Ends input rest :=
  skip_inside.1 [] input rest passed

theorem Ends.skip (ends : Ends input rest) : Json.skip input = .ok rest := by
  rw [Json.skip, ends, skipClosing]

theorem Ends.after_blanks (blank : Blanks blanks) (ends : Ends input rest) :
    Ends (blanks ++ input) rest := by
  have same : nextByte (blanks ++ input) = nextByte input := by
    rw [nextByte, skipBlank_blanks blank]
    rfl
  apply Ends.of_skip
  obtain ⟨byte, behind, next, ⟨rfl, opened⟩ | ⟨rfl, opened⟩ |
    ⟨noList, noObject, after, scalar, closing⟩⟩ := skipValue_ok ends.skip
  · rw [Json.skip, skipValue_list (same.trans next), opened]
  · rw [Json.skip, skipValue_object (same.trans next), opened]
  · rw [Json.skip, skipValue_scalar (same.trans next) noList noObject scalar, closing]

/-! ## Items and members -/

def skipRow (frame : Frame) (first : Bool) (frames : List Frame) (input : Input) :
    Except Fault Input :=
  if first then skipOpened frame frames input else skipClosing (frame :: frames) input

theorem skipRow_close (found : skipBlank input = frame.close :: rest) (first : Bool)
    (frames : List Frame) : skipRow frame first frames input = skipClosing frames rest := by
  cases first with
  | true => exact skipOpened_close found frames
  | false => exact skipClosing_close found frames

theorem nextItem_false (next : nextItem first input = .ok (false, rest)) :
    ∃ behind, skipBlank input = ']'.toUInt8 :: behind ∧ rest = ']'.toUInt8 :: behind := by
  unfold nextItem at next
  split at next
  · cases next
  · rename_i byte behind found
    split at next
    · rename_i close
      cases next
      exact ⟨behind, close ▸ found, by rw [close]⟩
    · split at next
      · cases next
      · split at next
        · split at next
          · cases next
          · split at next <;> cases next
        · cases next

theorem skipRow_item (next : nextItem first input = .ok (true, text)) (ends : Ends text after)
    (frames : List Frame) :
    skipRow .list first frames input = skipClosing (.list :: frames) after := by
  unfold nextItem at next
  split at next
  · cases next
  · rename_i byte behind found
    split at next
    · cases next
    · rename_i apart
      split at next
      · rename_i isFirst
        cases next
        have apart' : byte ≠ Frame.list.close := apart
        rw [skipRow, if_pos isFirst, skipOpened_enter found apart' rfl]
        exact ends _
      · rename_i later
        split at next
        · rename_i comma
          rw [comma] at found
          split at next
          · cases next
          · rename_i byte' behind' found'
            split at next
            · cases next
            · cases next
              obtain ⟨blanks, blank, rfl⟩ := eq_of_skipBlank found'
              rw [skipRow, if_neg later, skipClosing_comma found rfl]
              exact ends.after_blanks blank _
        · cases next

theorem enter_object {body : Input} (found : skipBlank input = '"'.toUInt8 :: body)
    (named : readText body = .ok (name, after)) (colon : readColon after = .ok text) :
    Frame.object.enter input = .ok text := by
  obtain ⟨between, inside, rfl⟩ := readColon_ok colon
  rw [Frame.enter, skipName, found]
  simp only [if_true, skipText_of_readText named, skipBlank_append_cons inside
    (by decide : isBlank ':'.toUInt8 = false)]

theorem skipRow_member {behind : Input} (next : nextName first input = .ok (some name, behind))
    (colon : readColon behind = .ok text) (ends : Ends text after) (frames : List Frame) :
    skipRow .object first frames input = skipClosing (.object :: frames) after := by
  have quote : isBlank '"'.toUInt8 = false := by decide
  obtain ⟨blanks, body, blank, named, ⟨rfl, rfl⟩ | ⟨rfl, blanks', blank', rfl⟩⟩ := nextName_some next
  · have entered := enter_object (skipBlank_of_not_blank quote body) named colon
    rw [skipRow, if_pos rfl, skipOpened_enter (skipBlank_append_cons blank quote body) (by decide)
      entered]
    exact ends _
  · have entered := enter_object (skipBlank_append_cons blank quote body) named colon
    rw [skipRow, if_neg Bool.false_ne_true,
      skipClosing_comma (skipBlank_append_cons blank' (by decide) _) entered]
    exact ends _

theorem nextName_end (next : nextName first input = .ok (none, rest)) :
    ∃ behind, skipBlank input = '}'.toUInt8 :: behind ∧ rest = '}'.toUInt8 :: behind := by
  obtain ⟨blanks, behind, blank, rfl, rfl⟩ := nextName_none next
  exact ⟨behind, skipBlank_append_cons blank (by decide) behind, rfl⟩

/-! ## Readers that agree -/

theorem agrees_text : Agrees Json.text := by
  intro input rest value read frames
  simp only [Json.text] at read
  split at read
  · cases read
  · rename_i byte behind next
    split at read
    · rename_i quote
      subst quote
      exact skipValue_scalar next (by decide) (by decide) (skipText_of_readText read) frames
    · cases read

theorem Agrees.map (agrees : Agrees item) (f : α → β) : Agrees (item.map f) := by
  intro input rest value read
  simp only [Reader.map] at read
  split at read <;> cases read
  exact agrees ‹_›

theorem skipRow_of_readItems (agrees : Agrees item) {values : List α}
    (read : readItems item first input = .ok (values, after)) (closed : closeList after = .ok rest)
    (frames : List Frame) : skipRow .list first frames input = skipClosing frames rest := by
  fun_induction readItems item first input generalizing values after with
  | case2 first input behind next =>
    cases read
    obtain ⟨others, found, rfl⟩ := nextItem_false next
    rw [closeList_bracket] at closed
    cases closed
    exact skipRow_close found first frames
  | case5 first input text next value behind read' others final more ih =>
    cases read
    rw [skipRow_item next (agrees read')]
    exact ih more closed
  | _ => cases read

theorem map_ok {closed : Except Fault Input} {value made : α}
    (mapped : closed.map (made, ·) = .ok (value, rest)) : value = made ∧ closed = .ok rest := by
  cases closed <;> cases mapped
  exact ⟨rfl, rfl⟩

theorem Agrees.list (agrees : Agrees item) : Agrees (list item) := by
  intro input rest value read frames
  simp only [Json.list] at read
  split at read
  · cases read
  · rename_i byte behind next
    split at read
    · rename_i bracket
      subst bracket
      split at read
      · cases read
      · rename_i values after items
        rw [skipValue_list next]
        exact skipRow_of_readItems agrees items (map_ok read).2 frames
    · cases read

theorem skipRow_of_members (agrees : Agrees item) {entries : List (String × α)}
    (members : Members item first input entries rest) (frames : List Frame) :
    skipRow .object first frames input = skipClosing frames rest := by
  induction members with
  | close blank => exact skipRow_close (skipBlank_append_cons blank (by decide) _) _ frames
  | first member others ih =>
    obtain ⟨before, named, inside, valued⟩ := member
    rw [skipRow_member (nextName_first before named) (readColon_blanks inside _) (agrees valued)]
    exact ih
  | next blank member others ih =>
    obtain ⟨before, named, inside, valued⟩ := member
    rw [skipRow_member (nextName_next blank before named) (readColon_blanks inside _) (agrees valued)]
    exact ih

theorem Agrees.object (agrees : Agrees item) : Agrees (Json.map item) := by
  intro input rest value read frames
  obtain ⟨entries, ⟨blanks, body, blank, rfl, members⟩, -⟩ := map_read_iff.mp read
  rw [skipValue_object (nextByte_append_cons blank (by decide) body)]
  exact skipRow_of_members agrees members frames

theorem readMember_ok {next : δ} (agree : ∀ field ∈ fields, ∀ draft, Agrees (field.reader draft))
    (read : readMember fields name draft input = .ok (next, rest)) :
    ∃ text, readColon input = .ok text ∧ Ends text rest := by
  unfold readMember at read
  split at read
  · split at read
    · cases read
    · rename_i text colon
      split at read <;> cases read
      exact ⟨text, colon, .of_skip ‹_›⟩
  · rename_i field found
    split at read
    · cases read
    · split at read
      · cases read
      · rename_i text colon
        split at read <;> cases read
        exact ⟨text, colon, agree field (List.mem_of_find?_eq_some found) draft ‹_›⟩

theorem skipRow_of_readMembers (agree : ∀ field ∈ fields, ∀ draft, Agrees (field.reader draft))
    (read : readMembers fields draft first input = .ok (final, after))
    (closed : closeObject after = .ok rest) (frames : List Frame) :
    skipRow .object first frames input = skipClosing frames rest := by
  fun_induction readMembers fields draft first input with
  | case2 draft first input behind next =>
    cases read
    obtain ⟨others, found, rfl⟩ := nextName_end next
    rw [closeObject_brace] at closed
    cases closed
    exact skipRow_close found first frames
  | case4 draft first input name behind next draft' after' member ih =>
    obtain ⟨text, colon, ends⟩ := readMember_ok agree member
    rw [skipRow_member next colon ends]
    exact ih read
  | _ => cases read

theorem closeList_ok (closed : closeList input = .ok rest) :
    skipBlank input = ']'.toUInt8 :: rest := by
  unfold closeList at closed
  split at closed
  · cases closed
  · rename_i byte behind found
    split at closed
    · rename_i bracket
      cases closed
      exact bracket ▸ found
    · split at closed
      · split at closed
        · cases closed
        · split at closed <;> cases closed
      · cases closed

theorem skipRow_of_readPositions {shape : Shape δ β} {taken : Nat}
    (agree : ∀ field ∈ fields, ∀ draft, Agrees (field.reader draft))
    (read : readPositions shape draft taken first fields input = .ok (final, after))
    (closed : closeList after = .ok rest) (frames : List Frame) :
    skipRow .list first frames input = skipClosing frames rest := by
  induction fields generalizing draft taken first input with
  | nil =>
    cases read
    exact skipRow_close (closeList_ok closed) first frames
  | cons field others ih =>
    have agree' := fun field member => agree field (List.mem_cons_of_mem _ member)
    simp only [readPositions] at read
    split at read
    · cases read
    · rename_i behind next
      obtain ⟨behind, found, rfl⟩ := nextItem_false next
      split at read
      · cases read
      · -- The fields that are left out are looked for at the closing bracket.
        have closing : skipBlank (']'.toUInt8 :: behind) = Frame.list.close :: behind :=
          skipBlank_of_not_blank (by decide) behind
        rw [skipRow_close found, ← skipRow_close closing first]
        exact ih agree' read
    · rename_i text next
      split at read
      · cases read
      · rename_i draft' behind valued
        rw [skipRow_item next (agree field List.mem_cons_self draft valued)]
        exact ih agree' read

theorem readObject_ok {shape : Shape δ α} (read : readObject shape input = .ok (draft, rest)) :
    readMembers shape.fields shape.start true input = .ok (draft, rest) ∧
      firstMissing shape.fields draft = none := by
  unfold readObject at read
  split at read
  · cases read
  · split at read <;> cases read
    exact ⟨‹_›, ‹_›⟩

theorem agrees_record {shape : Shape δ α}
    (agree : ∀ field ∈ shape.fields, ∀ draft, Agrees (field.reader draft)) :
    Agrees (record shape) := by
  intro input rest value read frames
  simp only [record] at read
  split at read
  · cases read
  · rename_i byte behind next
    split at read
    · rename_i bracket
      subst bracket
      split at read
      · cases read
      · rename_i draft after positions
        rw [skipValue_list next]
        exact skipRow_of_readPositions agree positions (map_ok read).2 frames
    · split at read
      · rename_i brace
        subst brace
        split at read
        · cases read
        · rename_i draft after object
          obtain ⟨members, -⟩ := readObject_ok object
          rw [skipValue_object next]
          exact skipRow_of_readMembers agree members (map_ok read).2 frames
      · cases read

end RuleSmith.Json
