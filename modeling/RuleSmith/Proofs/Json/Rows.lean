import Mathlib.Data.List.Forall2
import RuleSmith.Proofs.Json.Members
import RuleSmith.Proofs.Json.Texts

namespace RuleSmith.Json

variable {α : Type} {item : Reader α} {input after rest text part value blanks : Input}
  {parts : List Input} {name : String} {first : Bool} {frame : Frame} {frames : List Frame}

/-! ## Values in their surroundings -/

def isDelimiter (byte : UInt8) : Bool :=
  isBlank byte || byte = ','.toUInt8 || byte = ']'.toUInt8 || byte = '}'.toUInt8

def Delimited (rest : Input) : Prop := ∀ byte ∈ rest.head?, isDelimiter byte = true

def Begins (text : Input) : Prop := ∃ byte others, text = byte :: others ∧ isBlank byte = false ∧
  byte ≠ ']'.toUInt8 ∧ byte ≠ '}'.toUInt8

/-- Whether a text is read as a value, wherever it stands. -/
structure ReadAs (item : Reader α) (text : Input) (value : α) : Prop where
  begins : Begins text
  read : ∀ {blanks rest : Input}, Blanks blanks → Delimited rest →
    item.read (blanks ++ (text ++ rest)) = .ok (value, rest)

structure Passed (text : Input) : Prop where
  begins : Begins text
  skip : ∀ {blanks rest : Input} (frames : List Frame), Blanks blanks → Delimited rest →
    skipValue frames (blanks ++ (text ++ rest)) = skipClosing frames rest

theorem delimited_blanks_cons {byte : UInt8} (blank : Blanks blanks)
    (delimiter : isDelimiter byte = true) (rest : Input) : Delimited (blanks ++ byte :: rest) := by
  intro head is
  cases blanks with
  | nil => exact Option.some.inj is ▸ delimiter
  | cons first others =>
    obtain rfl := Option.some.inj is
    rw [isDelimiter, blank first List.mem_cons_self]
    rfl

theorem delimited_of_blanks (blank : Blanks blanks) : Delimited blanks := by
  intro head is
  rw [isDelimiter, blank head (List.mem_of_mem_head? is)]
  rfl

theorem ReadAs.parse_amid {reader : Reader α} {value : α} {blanks' : Input}
    (reads : ReadAs reader text value) (blank : Blanks blanks) (blank' : Blanks blanks') :
    reader.parse (blanks ++ (text ++ blanks')) = .ok value :=
  parse_ok_iff.mpr ⟨blanks', reads.read blank (delimited_of_blanks blank'), blank'⟩

theorem ReadAs.parse {reader : Reader α} {value : α} (reads : ReadAs reader text value) :
    reader.parse text = .ok value := by
  have parsed := reads.parse_amid blanks_nil blanks_nil
  rwa [List.nil_append, List.append_nil] at parsed

theorem ReadAs.map {β : Type} {value : α} (reads : ReadAs item text value) (f : α → β) :
    ReadAs (item.map f) text (f value) where
  begins := reads.begins
  read {_ _} blank delimited := by simp only [Reader.map, reads.read blank delimited]

theorem ReadAs.optional {value : α} (reads : ReadAs item text value)
    (solid : text.head? ≠ some 'n'.toUInt8) : ReadAs (optional item) text (some value) where
  begins := reads.begins
  read {blanks rest} blank delimited := by
    have read := reads.read blank delimited
    obtain ⟨byte, others, rfl, notBlank, -⟩ := reads.begins
    have apart : byte ≠ 'n'.toUInt8 := fun same => solid (congrArg some same)
    rw [List.cons_append] at read ⊢
    simp only [Json.optional, nextByte_append_cons blank notBlank, if_neg apart, read]

theorem Passed.skip_ok (passed : Passed text) (blank : Blanks blanks) (delimited : Delimited rest) :
    Json.skip (blanks ++ (text ++ rest)) = .ok rest := by
  rw [Json.skip, passed.skip [] blank delimited, skipClosing]

/-! ## Rows -/

/-- Parts with commas between them, up to the closing bracket. Only the first one needs no comma. -/
inductive Row (closing : UInt8) : Bool → List Input → Input → Prop
  | close {first : Bool} {blanks : Input} (blank : Blanks blanks) :
      Row closing first [] (blanks ++ [closing])
  | first {blanks part text : Input} {parts : List Input} (blank : Blanks blanks)
      (others : Row closing false parts text) :
      Row closing true (part :: parts) (blanks ++ (part ++ text))
  | next {blanks blanks' part text : Input} {parts : List Input} (blank : Blanks blanks)
      (blank' : Blanks blanks') (others : Row closing false parts text) :
      Row closing false (part :: parts) (blanks ++ ','.toUInt8 :: (blanks' ++ (part ++ text)))

theorem Row.delimited {closing : UInt8} (row : Row closing false parts text)
    (delimiter : isDelimiter closing = true) (rest : Input) : Delimited (text ++ rest) := by
  cases row with
  | close blank =>
    rw [List.append_assoc]
    exact delimited_blanks_cons blank delimiter _
  | next blank blank' others =>
    rw [List.append_assoc]
    exact delimited_blanks_cons blank (by decide) _

/-! ## Lists -/

theorem nextItem_close (blank : Blanks blanks) (first : Bool) (rest : Input) :
    nextItem first (blanks ++ ']'.toUInt8 :: rest) = .ok (false, ']'.toUInt8 :: rest) := by
  rw [nextItem, skipBlank_append_cons blank (by decide)]
  simp only [if_true]

theorem nextItem_first (blank : Blanks blanks) (begins : Begins text) (rest : Input) :
    nextItem true (blanks ++ (text ++ rest)) = .ok (true, text ++ rest) := by
  obtain ⟨byte, others, rfl, solid, bracket, -⟩ := begins
  rw [nextItem, List.cons_append, skipBlank_append_cons blank solid]
  simp only [if_neg bracket, if_true]

theorem nextItem_next {blanks' : Input} (blank : Blanks blanks) (blank' : Blanks blanks')
    (begins : Begins text) (rest : Input) :
    nextItem false (blanks ++ ','.toUInt8 :: (blanks' ++ (text ++ rest))) =
      .ok (true, text ++ rest) := by
  obtain ⟨byte, others, rfl, solid, bracket, -⟩ := begins
  rw [nextItem, skipBlank_append_cons blank (by decide)]
  simp only [if_neg (by decide : ¬ ','.toUInt8 = ']'.toUInt8), Bool.false_eq_true, if_false, if_true,
    List.cons_append, skipBlank_append_cons blank' solid, if_neg bracket]

theorem readItems_end (next : nextItem first input = .ok (false, rest)) :
    readItems item first input = .ok ([], rest) := by
  rw [readItems]
  split <;> rename_i found <;> rw [next] at found <;> cases found
  rfl

theorem readItems_step {value : α} {values : List α}
    (next : nextItem first input = .ok (true, text)) (read : item.read text = .ok (value, after))
    (others : readItems item false after = .ok (values, rest)) :
    readItems item first input = .ok (value :: values, rest) := by
  rw [readItems]
  split <;> rename_i found <;> rw [next] at found <;> cases found
  split <;> rename_i found <;> rw [read] at found <;> cases found
  rw [others]

theorem readItems_of_row {values : List α} (row : Row ']'.toUInt8 first parts text)
    (each : List.Forall₂ (ReadAs item) parts values) (rest : Input) :
    readItems item first (text ++ rest) = .ok (values, ']'.toUInt8 :: rest) := by
  induction row generalizing values with
  | close blank =>
    cases each
    rw [List.append_assoc]
    exact readItems_end (nextItem_close blank _ rest)
  | first blank others ih =>
    cases each with
    | cons reads each =>
      simp only [List.append_assoc]
      exact readItems_step (nextItem_first blank reads.begins _)
        (reads.read blanks_nil (others.delimited (by decide) rest)) (ih each)
  | next blank blank' others ih =>
    cases each with
    | cons reads each =>
      simp only [List.append_assoc, List.cons_append]
      exact readItems_step (nextItem_next blank blank' reads.begins _)
        (reads.read blanks_nil (others.delimited (by decide) rest)) (ih each)

theorem closeList_bracket (rest : Input) : closeList (']'.toUInt8 :: rest) = .ok rest := by
  rw [closeList, skipBlank_of_not_blank (by decide)]
  simp only [if_true]

theorem list_readAs {values : List α} (row : Row ']'.toUInt8 true parts text)
    (each : List.Forall₂ (ReadAs item) parts values) :
    ReadAs (list item) ('['.toUInt8 :: text) values where
  begins := ⟨_, _, rfl, by decide, by decide, by decide⟩
  read {blanks rest} blank _ := by
    have items := readItems_of_row row each rest
    rw [List.cons_append]
    simp only [list, nextByte_append_cons blank (by decide : isBlank '['.toUInt8 = false), if_true,
      items]
    rw [closeList_bracket]
    rfl

/-! ## Members -/

inductive Member : Input → String → Input → Prop
  | intro {body between before value : Input} {name : String}
      (spelled : ∀ rest, readText (body ++ rest) = .ok (name, rest)) (inside : Blanks between)
      (inside' : Blanks before) :
      Member ('"'.toUInt8 :: (body ++ (between ++ ':'.toUInt8 :: (before ++ value)))) name value

theorem Member.begins (member : Member part name value) : Begins part := by
  obtain ⟨spelled, inside, inside'⟩ := member
  exact ⟨_, _, rfl, by decide, by decide, by decide⟩

theorem Member.exists_named (member : Member part name value) (rest : Input) :
    ∃ body between before, part ++ rest = '"'.toUInt8 :: body ∧
      readText body = .ok (name, between ++ ':'.toUInt8 :: (before ++ (value ++ rest))) ∧
      Blanks between ∧ Blanks before := by
  obtain ⟨spelled, inside, inside'⟩ := member
  refine ⟨_, _, _, List.cons_append, ?_, inside, inside'⟩
  simp only [List.append_assoc, List.cons_append]
  exact spelled _

theorem memberAt_of_member {read : α} (member : Member part name value)
    (reads : ReadAs item value read) (blank : Blanks blanks) (delimited : Delimited rest) :
    MemberAt item (blanks ++ (part ++ rest)) name read rest := by
  obtain ⟨body, between, before, spelled, named, inside, inside'⟩ := member.exists_named rest
  rw [spelled]
  exact ⟨blank, named, inside, reads.read inside' delimited⟩

def ReadMember (item : Reader α) (part : Input) (entry : String × α) : Prop :=
  ∃ value, Member part entry.1 value ∧ ReadAs item value entry.2

theorem members_of_row {entries : List (String × α)} (row : Row '}'.toUInt8 first parts text)
    (each : List.Forall₂ (ReadMember item) parts entries) (rest : Input) :
    Members item first (text ++ rest) entries rest := by
  induction row generalizing entries with
  | close blank =>
    cases each
    rw [List.append_assoc]
    exact .close blank
  | first blank others ih =>
    cases each with
    | cons reads each =>
      obtain ⟨value, member, reads⟩ := reads
      simp only [List.append_assoc]
      exact .first (memberAt_of_member member reads blank (others.delimited (by decide) rest)) (ih each)
  | next blank blank' others ih =>
    cases each with
    | cons reads each =>
      obtain ⟨value, member, reads⟩ := reads
      simp only [List.append_assoc, List.cons_append]
      exact .next blank (memberAt_of_member member reads blank' (others.delimited (by decide) rest))
        (ih each)

theorem map_readAs {entries : List (String × α)} (row : Row '}'.toUInt8 true parts text)
    (each : List.Forall₂ (ReadMember item) parts entries) :
    ReadAs (map item) ('{'.toUInt8 :: text) (.ofList entries) where
  begins := ⟨_, _, rfl, by decide, by decide, by decide⟩
  read {blanks rest} blank _ :=
    map_read_iff.mpr ⟨entries, ⟨blanks, text ++ rest, blank, rfl, members_of_row row each rest⟩, rfl⟩

/-! ## Passing over rows -/

structure PassedIn (frame : Frame) (part : Input) : Prop where
  begins : Begins part
  skip : ∀ {blanks rest : Input} (frames : List Frame), Blanks blanks → Delimited rest →
    ∃ after, frame.enter (blanks ++ (part ++ rest)) = .ok after ∧
      skipValue (frame :: frames) after = skipClosing (frame :: frames) rest

theorem Frame.isDelimiter_close (frame : Frame) : isDelimiter frame.close = true := by
  cases frame <;> decide

theorem Frame.isBlank_close (frame : Frame) : isBlank frame.close = false := by
  cases frame <;> decide

theorem Begins.ne_close (begins : Begins text) (frame : Frame) :
    ∃ byte others, text = byte :: others ∧ isBlank byte = false ∧ byte ≠ frame.close := by
  obtain ⟨byte, others, same, solid, bracket, brace⟩ := begins
  exact ⟨byte, others, same, solid, by cases frame <;> assumption⟩

theorem skipClosing_close {frame : Frame} (found : skipBlank input = frame.close :: rest)
    (frames : List Frame) : skipClosing (frame :: frames) input = skipClosing frames rest := by
  rw [skipClosing]
  split <;> rename_i other <;> rw [found] at other <;> cases other
  rw [if_neg (by cases frame <;> decide), if_pos rfl]

theorem skipClosing_comma (found : skipBlank input = ','.toUInt8 :: rest)
    (entered : frame.enter rest = .ok after) (frames : List Frame) :
    skipClosing (frame :: frames) input = skipValue (frame :: frames) after := by
  rw [skipClosing]
  split <;> rename_i other <;> rw [found] at other <;> cases other
  rw [if_pos rfl]
  split <;> rename_i other <;> rw [entered] at other <;> cases other
  rfl

theorem skipOpened_close (found : skipBlank input = frame.close :: rest) (frames : List Frame) :
    skipOpened frame frames input = skipClosing frames rest := by
  rw [skipOpened]
  split <;> rename_i other <;> rw [found] at other <;> cases other
  rw [if_pos rfl]

theorem skipOpened_enter {byte : UInt8} (found : skipBlank input = byte :: rest)
    (apart : byte ≠ frame.close) (entered : frame.enter (byte :: rest) = .ok after)
    (frames : List Frame) : skipOpened frame frames input = skipValue (frame :: frames) after := by
  rw [skipOpened]
  split <;> rename_i other <;> rw [found] at other <;> cases other
  rw [if_neg apart]
  split <;> rename_i other <;> rw [entered] at other <;> cases other
  rfl

theorem skipValue_list (next : nextByte input = .ok ('['.toUInt8, rest)) (frames : List Frame) :
    skipValue frames input = skipOpened .list frames rest := by
  rw [skipValue]
  split <;> rename_i other <;> rw [next] at other <;> cases other
  rw [if_pos rfl]

theorem skipValue_object (next : nextByte input = .ok ('{'.toUInt8, rest)) (frames : List Frame) :
    skipValue frames input = skipOpened .object frames rest := by
  rw [skipValue]
  split <;> rename_i other <;> rw [next] at other <;> cases other
  rw [if_neg (by decide), if_pos rfl]

theorem skipValue_scalar {byte : UInt8} (next : nextByte input = .ok (byte, rest))
    (noList : byte ≠ '['.toUInt8) (noObject : byte ≠ '{'.toUInt8)
    (scalar : skipScalar byte rest = .ok after) (frames : List Frame) :
    skipValue frames input = skipClosing frames after := by
  rw [skipValue]
  split <;> rename_i other <;> rw [next] at other <;> cases other
  rw [if_neg noList, if_neg noObject]
  split <;> rename_i other <;> rw [scalar] at other <;> cases other
  rfl

theorem skipClosing_of_row (row : Row frame.close false parts text)
    (each : ∀ part ∈ parts, PassedIn frame part) (frames : List Frame) (rest : Input) :
    skipClosing (frame :: frames) (text ++ rest) = skipClosing frames rest := by
  generalize notFirst : false = first at row
  induction row with
  | close blank =>
    rw [List.append_assoc]
    exact skipClosing_close (skipBlank_append_cons blank frame.isBlank_close rest) frames
  | first blank others ih => cases notFirst
  | next blank blank' others ih =>
    simp only [List.append_assoc, List.cons_append]
    obtain ⟨after, entered, passed⟩ := (each _ List.mem_cons_self).skip frames blank'
      (others.delimited frame.isDelimiter_close rest)
    rw [skipClosing_comma (skipBlank_append_cons blank (by decide) _) entered, passed]
    exact ih (fun part member => each part (List.mem_cons_of_mem _ member)) rfl

theorem skipOpened_of_row (frame : Frame) (row : Row frame.close true parts text)
    (each : ∀ part ∈ parts, PassedIn frame part) (frames : List Frame) (rest : Input) :
    skipOpened frame frames (text ++ rest) = skipClosing frames rest := by
  cases row with
  | close blank =>
    rw [List.append_assoc]
    exact skipOpened_close (skipBlank_append_cons blank frame.isBlank_close rest) frames
  | first blank others =>
    simp only [List.append_assoc]
    have part := each _ List.mem_cons_self
    obtain ⟨after, entered, passed⟩ :=
      part.skip frames blanks_nil (others.delimited frame.isDelimiter_close rest)
    obtain ⟨byte, behind, rfl, solid, apart⟩ := part.begins.ne_close frame
    rw [List.cons_append] at entered ⊢
    rw [skipOpened_enter (skipBlank_append_cons blank solid _) apart entered, passed]
    exact skipClosing_of_row others (fun part member => each part (List.mem_cons_of_mem _ member))
      frames rest

theorem Passed.passedIn (passed : Passed text) : PassedIn .list text where
  begins := passed.begins
  skip {_ _} frames blank delimited := ⟨_, rfl, passed.skip (.list :: frames) blank delimited⟩

theorem Passed.member (passed : Passed value) (begins : Begins part)
    (named : ∀ rest, ∃ body between before, part ++ rest = '"'.toUInt8 :: body ∧
      skipText body = .ok (between ++ ':'.toUInt8 :: (before ++ (value ++ rest))) ∧
      Blanks between ∧ Blanks before) : PassedIn .object part where
  begins := begins
  skip {blanks rest} frames blank delimited := by
    obtain ⟨body, between, before, spelled, skipped, inside, inside'⟩ := named rest
    refine ⟨before ++ (value ++ rest), ?_, passed.skip (.object :: frames) inside' delimited⟩
    rw [spelled, Frame.enter, skipName, skipBlank_append_cons blank (by decide)]
    simp only [if_true, skipped, skipBlank_append_cons inside (by decide : isBlank ':'.toUInt8 = false)]

theorem Member.passedIn (member : Member part name value) (passed : Passed value) :
    PassedIn .object part := by
  refine passed.member member.begins fun rest => ?_
  obtain ⟨body, between, before, spelled, named, inside, inside'⟩ := member.exists_named rest
  exact ⟨body, between, before, spelled, skipText_of_readText named, inside, inside'⟩

theorem Passed.scalar {byte : UInt8} {others : Input} (begins : Begins (byte :: others))
    (noList : byte ≠ '['.toUInt8) (noObject : byte ≠ '{'.toUInt8)
    (scalar : ∀ rest, Delimited rest → skipScalar byte (others ++ rest) = .ok rest) :
    Passed (byte :: others) where
  begins := begins
  skip {blanks rest} frames blank delimited := by
    obtain ⟨_, _, same, solid, -⟩ := begins
    cases same
    exact skipValue_scalar (nextByte_append_cons blank solid _) noList noObject (scalar rest delimited)
      frames

theorem Passed.list (row : Row ']'.toUInt8 true parts text) (each : ∀ part ∈ parts, Passed part) :
    Passed ('['.toUInt8 :: text) where
  begins := ⟨_, _, rfl, by decide, by decide, by decide⟩
  skip {blanks rest} frames blank _ := by
    rw [List.cons_append, skipValue_list (nextByte_append_cons blank (by decide) _)]
    exact skipOpened_of_row .list row (fun part member => (each part member).passedIn) _ _

theorem Passed.object (row : Row '}'.toUInt8 true parts text)
    (each : ∀ part ∈ parts, PassedIn .object part) : Passed ('{'.toUInt8 :: text) where
  begins := ⟨_, _, rfl, by decide, by decide, by decide⟩
  skip {blanks rest} frames blank _ := by
    rw [List.cons_append, skipValue_object (nextByte_append_cons blank (by decide) _)]
    exact skipOpened_of_row .object row each _ _

end RuleSmith.Json
