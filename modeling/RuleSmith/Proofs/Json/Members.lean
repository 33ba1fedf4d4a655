import Mathlib.Data.List.TakeWhile
import RuleSmith.Json.Reader

namespace RuleSmith.Json

variable {α : Type} {item : Reader α} {input rest text blanks : Input} {name : String}
  {entries : List (String × α)} {first : Bool}

def Blanks (bytes : Input) : Prop := ∀ byte ∈ bytes, isBlank byte = true

theorem blanks_nil : Blanks [] := fun _ => nofun

theorem skipBlank_blanks (blank : Blanks blanks) (rest : Input) :
    skipBlank (blanks ++ rest) = skipBlank rest :=
  List.dropWhile_append_of_pos blank

theorem skipBlank_of_not_blank {byte : UInt8} (solid : isBlank byte = false) (rest : Input) :
    skipBlank (byte :: rest) = byte :: rest :=
  List.dropWhile_cons_of_neg (by simp [solid])

theorem exists_blanks (input : Input) : ∃ blanks, Blanks blanks ∧ input = blanks ++ skipBlank input :=
  ⟨input.takeWhile isBlank, fun _ member => List.mem_takeWhile_imp member,
    List.takeWhile_append_dropWhile.symm⟩

theorem skipBlank_eq_nil_iff : skipBlank input = [] ↔ Blanks input := List.dropWhile_eq_nil_iff

theorem skipBlank_append_cons {byte : UInt8} (blank : Blanks blanks) (solid : isBlank byte = false)
    (rest : Input) : skipBlank (blanks ++ byte :: rest) = byte :: rest := by
  rw [skipBlank_blanks blank, skipBlank_of_not_blank solid]

theorem eq_of_skipBlank {byte : UInt8} (found : skipBlank input = byte :: rest) :
    ∃ blanks, Blanks blanks ∧ input = blanks ++ byte :: rest :=
  found ▸ exists_blanks input

inductive MemberAt (item : Reader α) : Input → String → α → Input → Prop
  | intro {blanks body between text rest : Input} {name : String} {value : α}
      (before : Blanks blanks)
      (named : readText body = .ok (name, between ++ ':'.toUInt8 :: text))
      (inside : Blanks between) (valued : item.read text = .ok (value, rest)) :
      MemberAt item (blanks ++ '"'.toUInt8 :: body) name value rest

inductive Members (item : Reader α) : Bool → Input → List (String × α) → Input → Prop
  | close {first : Bool} {blanks rest : Input} (blank : Blanks blanks) :
      Members item first (blanks ++ '}'.toUInt8 :: rest) [] rest
  | first {input after rest : Input} {name : String} {value : α} {entries : List (String × α)}
      (member : MemberAt item input name value after)
      (others : Members item false after entries rest) :
      Members item true input ((name, value) :: entries) rest
  | next {blanks input after rest : Input} {name : String} {value : α}
      {entries : List (String × α)} (blank : Blanks blanks)
      (member : MemberAt item input name value after)
      (others : Members item false after entries rest) :
      Members item false (blanks ++ ','.toUInt8 :: input) ((name, value) :: entries) rest

def ObjectAt (item : Reader α) (input : Input) (entries : List (String × α)) (rest : Input) : Prop :=
  ∃ blanks body, Blanks blanks ∧ input = blanks ++ '{'.toUInt8 :: body ∧
    Members item true body entries rest

def ObjectOf (item : Reader α) (text : Input) (entries : List (String × α)) : Prop :=
  ∃ rest, ObjectAt item text entries rest ∧ Blanks rest

theorem nextName_close (blank : Blanks blanks) (first : Bool) (rest : Input) :
    nextName first (blanks ++ '}'.toUInt8 :: rest) = .ok (none, '}'.toUInt8 :: rest) := by
  rw [nextName, skipBlank_append_cons blank (by decide)]
  simp only [if_true]

theorem readName_text {body after : Input} (named : readText body = .ok (name, after)) :
    readName '"'.toUInt8 body = .ok (some name, after) := by
  simp only [readName, if_true, named]

theorem nextName_first (blank : Blanks blanks) {body after : Input}
    (named : readText body = .ok (name, after)) :
    nextName true (blanks ++ '"'.toUInt8 :: body) = .ok (some name, after) := by
  rw [nextName, skipBlank_append_cons blank (by decide)]
  simp only [if_neg (by decide : ¬ '"'.toUInt8 = '}'.toUInt8), if_true, readName_text named]

theorem nextName_next {blanks' : Input} (blank : Blanks blanks) (blank' : Blanks blanks')
    {body after : Input} (named : readText body = .ok (name, after)) :
    nextName false (blanks ++ ','.toUInt8 :: (blanks' ++ '"'.toUInt8 :: body)) =
      .ok (some name, after) := by
  rw [nextName, skipBlank_append_cons blank (by decide)]
  simp only [if_neg (by decide : ¬ ','.toUInt8 = '}'.toUInt8), Bool.false_eq_true, if_false, if_true,
    skipBlank_append_cons blank' (by decide : isBlank '"'.toUInt8 = false),
    if_neg (by decide : ¬ '"'.toUInt8 = '}'.toUInt8), readName_text named]

theorem readColon_blanks (blank : Blanks blanks) (text : Input) :
    readColon (blanks ++ ':'.toUInt8 :: text) = .ok text := by
  rw [readColon, skipBlank_append_cons blank (by decide)]
  simp only [if_true]

theorem closeObject_blanks (blank : Blanks blanks) (rest : Input) :
    closeObject (blanks ++ '}'.toUInt8 :: rest) = .ok rest := by
  rw [closeObject, skipBlank_append_cons blank (by decide)]
  simp only [if_true]

theorem closeObject_brace (rest : Input) : closeObject ('}'.toUInt8 :: rest) = .ok rest :=
  closeObject_blanks blanks_nil rest

theorem readEntries_end {m : InsertionMap String α}
    (next : nextName first input = .ok (none, rest)) :
    readEntries item m first input = .ok (m, rest) := by
  rw [readEntries]
  split <;> rename_i found <;> rw [next] at found <;> cases found
  rfl

theorem readEntries_step {m : InsertionMap String α} {after : Input} {value : α}
    (next : nextName first input = .ok (some name, after)) (colon : readColon after = .ok text)
    (read : item.read text = .ok (value, rest)) :
    readEntries item m first input = readEntries item (m.insert name value) false rest := by
  rw [readEntries]
  split <;> rename_i found <;> rw [next] at found <;> cases found
  split <;> rename_i found <;> rw [colon] at found <;> cases found
  split <;> rename_i found <;> rw [read] at found <;> cases found
  rfl

theorem readEntries_of_members (members : Members item first input entries rest)
    (m : InsertionMap String α) :
    readEntries item m first input = .ok (m.insertMany entries, '}'.toUInt8 :: rest) := by
  induction members generalizing m with
  | close blank => exact readEntries_end (nextName_close blank _ _)
  | first member others ih =>
    obtain ⟨before, named, inside, valued⟩ := member
    rw [readEntries_step (nextName_first before named) (readColon_blanks inside _) valued, ih]
    rfl
  | next blank member others ih =>
    obtain ⟨before, named, inside, valued⟩ := member
    rw [readEntries_step (nextName_next blank before named) (readColon_blanks inside _) valued, ih]
    rfl

theorem readName_ok {byte : UInt8} {found : Option String}
    (read : readName byte input = .ok (found, rest)) :
    byte = '"'.toUInt8 ∧ ∃ name, found = some name ∧ readText input = .ok (name, rest) := by
  unfold readName at read
  split at read
  · rename_i quote
    split at read <;> cases read
    exact ⟨quote, _, rfl, ‹_›⟩
  · cases read

theorem nextName_ok {named : Option String} (next : nextName first input = .ok (named, rest)) :
    (named = none ∧
      ∃ blanks rest', Blanks blanks ∧ input = blanks ++ rest ∧ rest = '}'.toUInt8 :: rest') ∨
    ∃ name blanks body, named = some name ∧ Blanks blanks ∧ readText body = .ok (name, rest) ∧
      (first = true ∧ input = blanks ++ '"'.toUInt8 :: body ∨
        first = false ∧ ∃ blanks', Blanks blanks' ∧
          input = blanks' ++ ','.toUInt8 :: (blanks ++ '"'.toUInt8 :: body)) := by
  unfold nextName at next
  split at next
  · cases next
  · rename_i byte others found
    obtain ⟨blanks, blank, same⟩ := eq_of_skipBlank found
    split at next
    · rename_i brace
      cases next
      exact .inl ⟨rfl, blanks, others, blank, same, by rw [brace]⟩
    · split at next
      · rename_i isFirst
        obtain ⟨rfl, name, rfl, read⟩ := readName_ok next
        exact .inr ⟨name, blanks, others, rfl, blank, read, .inl ⟨isFirst, same⟩⟩
      · rename_i later
        split at next
        · rename_i comma
          split at next
          · cases next
          · rename_i byte' body found'
            obtain ⟨blanks', blank', same'⟩ := eq_of_skipBlank found'
            split at next
            · cases next
            · obtain ⟨rfl, name, rfl, read⟩ := readName_ok next
              exact .inr ⟨name, blanks', body, rfl, blank', read,
                .inr ⟨by simpa using later, blanks, blank, by rw [same, comma, same']⟩⟩
        · cases next

theorem nextName_none (next : nextName first input = .ok (none, rest)) :
    ∃ blanks rest', Blanks blanks ∧ input = blanks ++ rest ∧ rest = '}'.toUInt8 :: rest' := by
  obtain ⟨-, closed⟩ | ⟨name, _, _, ⟨⟩, _⟩ := nextName_ok next
  exact closed

theorem nextName_some (next : nextName first input = .ok (some name, rest)) :
    ∃ blanks body, Blanks blanks ∧ readText body = .ok (name, rest) ∧
      (first = true ∧ input = blanks ++ '"'.toUInt8 :: body ∨
        first = false ∧ ∃ blanks', Blanks blanks' ∧
          input = blanks' ++ ','.toUInt8 :: (blanks ++ '"'.toUInt8 :: body)) := by
  obtain ⟨⟨⟩, _⟩ | ⟨_, blanks, body, ⟨⟩, stands⟩ := nextName_ok next
  exact ⟨blanks, body, stands⟩

theorem readColon_ok (read : readColon input = .ok rest) :
    ∃ blanks, Blanks blanks ∧ input = blanks ++ ':'.toUInt8 :: rest := by
  unfold readColon at read
  split at read
  · cases read
  · rename_i found
    obtain ⟨blanks, blank, same⟩ := eq_of_skipBlank found
    split at read <;> cases read
    rename_i colon
    exact ⟨blanks, blank, by rw [same, colon]⟩

theorem members_of_readEntries {m final : InsertionMap String α} {after : Input}
    (read : readEntries item m first input = .ok (final, after)) :
    ∃ entries rest, Members item first input entries rest ∧ after = '}'.toUInt8 :: rest ∧
      final = m.insertMany entries := by
  fun_induction readEntries item m first input with
  | case2 m first input rest next =>
    cases read
    obtain ⟨blanks, rest', blank, rfl, rfl⟩ := nextName_none next
    exact ⟨[], rest', .close blank, rfl, rfl⟩
  | case5 m first input name named next text colon value behind valued ih =>
    obtain ⟨entries, rest, others, same, inserted⟩ := ih read
    obtain ⟨between, inside, rfl⟩ := readColon_ok colon
    obtain ⟨blanks, body, before, isNamed, ⟨rfl, rfl⟩ | ⟨rfl, blanks', blank, rfl⟩⟩ :=
      nextName_some next
    · exact ⟨(name, value) :: entries, rest, .first ⟨before, isNamed, inside, valued⟩ others, same,
        inserted⟩
    · exact ⟨(name, value) :: entries, rest, .next blank ⟨before, isNamed, inside, valued⟩ others,
        same, inserted⟩
  | _ => cases read

theorem nextByte_append_cons {byte : UInt8} (blank : Blanks blanks) (solid : isBlank byte = false)
    (rest : Input) : nextByte (blanks ++ byte :: rest) = .ok (byte, rest) := by
  rw [nextByte, skipBlank_append_cons blank solid]

theorem nextByte_ok {byte : UInt8} (next : nextByte input = .ok (byte, rest)) :
    ∃ blanks, Blanks blanks ∧ input = blanks ++ byte :: rest := by
  unfold nextByte at next
  split at next <;> cases next
  exact eq_of_skipBlank ‹_›

theorem map_read_iff {m : InsertionMap String α} :
    (map item).read input = .ok (m, rest) ↔
      ∃ entries, ObjectAt item input entries rest ∧ m = .ofList entries := by
  constructor
  · intro read
    simp only [map] at read
    split at read
    · cases read
    · rename_i byte body next
      obtain ⟨blanks, blank, same⟩ := nextByte_ok next
      split at read
      · rename_i brace
        split at read
        · cases read
        · rename_i final after entered
          obtain ⟨entries, rest', members, rfl, rfl⟩ := members_of_readEntries entered
          rw [closeObject_brace] at read
          cases read
          exact ⟨entries, ⟨blanks, body, blank, by rw [same, brace], members⟩, rfl⟩
      · cases read
  · rintro ⟨entries, ⟨blanks, body, blank, rfl, members⟩, rfl⟩
    simp only [map, nextByte_append_cons blank (by decide : isBlank '{'.toUInt8 = false), if_true,
      readEntries_of_members members]
    rw [closeObject_brace]
    rfl

theorem parse_ok_iff {reader : Reader α} {value : α} :
    reader.parse text = .ok value ↔ ∃ rest, reader.read text = .ok (value, rest) ∧ Blanks rest := by
  unfold Reader.parse
  constructor
  · intro parsed
    split at parsed
    · cases parsed
    · split at parsed <;> cases parsed
      exact ⟨_, ‹_›, skipBlank_eq_nil_iff.mp ‹_›⟩
  · rintro ⟨rest, read, blank⟩
    simp only [read, skipBlank_eq_nil_iff.mpr blank]

theorem map_parse_iff {m : InsertionMap String α} :
    (map item).parse text = .ok m ↔ ∃ entries, ObjectOf item text entries ∧ m = .ofList entries := by
  rw [parse_ok_iff]
  constructor
  · rintro ⟨rest, read, blank⟩
    obtain ⟨entries, object, same⟩ := map_read_iff.mp read
    exact ⟨entries, ⟨rest, object, blank⟩, same⟩
  · rintro ⟨entries, ⟨rest, object, blank⟩, same⟩
    exact ⟨rest, map_read_iff.mpr ⟨entries, object, same⟩, blank⟩

end RuleSmith.Json
