import Mathlib.Data.List.Nodup
import RuleSmith.Json.Record
import RuleSmith.Proofs.Json.Rows

namespace RuleSmith.Json

variable {δ α β : Type} {fields : List (Field δ)} {draft next final : δ} {input after rest text : Input}
  {part value : Input} {parts parts' : List Input} {name : String} {first : Bool}

inductive Takes (fields : List (Field δ)) (draft : δ) (part : Input) : δ → Prop
  | known {name : String} {value : Input} {field : Field δ} {next : δ}
      (member : Member part name value) (found : fields.find? (·.name = name) = some field)
      (absent : field.present draft = false) (reads : ReadAs (field.reader draft) value next) :
      Takes fields draft part next
  | unknown {name : String} {value : Input} (member : Member part name value)
      (none : fields.find? (·.name = name) = none) (passed : Passed value) :
      Takes fields draft part draft

inductive Fills (fields : List (Field δ)) : δ → List Input → δ → Prop
  | done (draft : δ) : Fills fields draft [] draft
  | take {draft next final : δ} {part : Input} {parts : List Input}
      (takes : Takes fields draft part next) (others : Fills fields next parts final) :
      Fills fields draft (part :: parts) final

theorem Fills.append (fills : Fills fields draft parts next) (fills' : Fills fields next parts' final) :
    Fills fields draft (parts ++ parts') final := by
  induction fills with
  | done draft => exact fills'
  | take takes others ih => exact .take takes (ih fills')

theorem readMember_of_takes (takes : Takes fields draft part next) (delimited : Delimited rest) :
    ∃ body name after, part ++ rest = '"'.toUInt8 :: body ∧ readText body = .ok (name, after) ∧
      readMember fields name draft after = .ok (next, rest) := by
  cases takes with
  | known member found absent reads =>
    obtain ⟨body, between, before, spelled, named, inside, inside'⟩ := member.exists_named rest
    refine ⟨body, _, _, spelled, named, ?_⟩
    simp only [readMember, found, absent, Bool.false_eq_true, if_false, readColon_blanks inside,
      reads.read inside' delimited]
  | unknown member none passed =>
    obtain ⟨body, between, before, spelled, named, inside, inside'⟩ := member.exists_named rest
    refine ⟨body, _, _, spelled, named, ?_⟩
    simp only [readMember, none, readColon_blanks inside, passed.skip_ok inside' delimited]

theorem readMembers_end (named : nextName first input = .ok (none, rest)) :
    readMembers fields draft first input = .ok (draft, rest) := by
  rw [readMembers]
  split <;> rename_i found <;> rw [named] at found <;> cases found
  rfl

theorem readMembers_step (named : nextName first input = .ok (some name, after))
    (read : readMember fields name draft after = .ok (next, rest)) :
    readMembers fields draft first input = readMembers fields next false rest := by
  rw [readMembers]
  split <;> rename_i found <;> rw [named] at found <;> cases found
  split <;> rename_i found <;> rw [read] at found <;> cases found
  rfl

theorem readMembers_of_row (row : Row '}'.toUInt8 first parts text)
    (fills : Fills fields draft parts final) (rest : Input) :
    readMembers fields draft first (text ++ rest) = .ok (final, '}'.toUInt8 :: rest) := by
  induction row generalizing draft with
  | close blank =>
    cases fills
    rw [List.append_assoc]
    exact readMembers_end (nextName_close blank _ rest)
  | first blank others ih =>
    cases fills with
    | take takes fills =>
      obtain ⟨body, name, after, spelled, named, read⟩ :=
        readMember_of_takes takes (others.delimited (by decide) rest)
      simp only [List.append_assoc]
      rw [spelled, readMembers_step (nextName_first blank named) read]
      exact ih fills
  | next blank blank' others ih =>
    cases fills with
    | take takes fills =>
      obtain ⟨body, name, after, spelled, named, read⟩ :=
        readMember_of_takes takes (others.delimited (by decide) rest)
      simp only [List.append_assoc, List.cons_append]
      rw [spelled, readMembers_step (nextName_next blank blank' named) read]
      exact ih fills

theorem record_readAs {shape : Shape δ α} (row : Row '}'.toUInt8 true parts text)
    (fills : Fills shape.fields shape.start parts draft)
    (complete : firstMissing shape.fields draft = none) :
    ReadAs (record shape) ('{'.toUInt8 :: text) (shape.build draft) where
  begins := ⟨_, _, rfl, by decide, by decide, by decide⟩
  read {blanks rest} blank _ := by
    have members := readMembers_of_row row fills rest
    rw [List.cons_append]
    simp only [record, nextByte_append_cons blank (by decide : isBlank '{'.toUInt8 = false),
      if_neg (by decide : ¬ '{'.toUInt8 = '['.toUInt8), if_true, readObject, members, complete,
      closeObject_brace]
    rfl

def PassedMembers (parts : List Input) (members : List (String × Input)) : Prop :=
  List.Forall₂ (fun part member => Member part member.1 member.2 ∧ Passed member.2) parts members

def seenAs (name : String) (value : β) (seen : List String) : Option β :=
  if name ∈ seen then some value else none

theorem seenAs_of_not_mem {seen : List String} (unseen : name ∉ seen) (value : β) :
    seenAs name value seen = none := if_neg unseen

theorem seenAs_of_mem {seen : List String} (among : name ∈ seen) (value : β) :
    seenAs name value seen = some value := if_pos among

theorem seenAs_cons_of_ne {other : String} (apart : name ≠ other) (value : β) (seen : List String) :
    seenAs name value (other :: seen) = seenAs name value seen := by
  simp [seenAs, apart]

theorem find?_name {field : Field δ} (found : fields.find? (·.name = name) = some field) :
    field.name = name := by
  simpa using List.find?_some found

/-- Whether members fill drafts that depend on nothing but the names that were seen. -/
structure Fits (shape : Shape δ α) (draftOf : List String → δ) (members : List (String × Input)) :
    Prop where
  start : draftOf [] = shape.start
  known : ∀ member ∈ members, ∀ field, shape.fields.find? (·.name = member.1) = some field →
    ∀ seen, member.1 ∉ seen → field.present (draftOf seen) = false ∧
      ReadAs (field.reader (draftOf seen)) member.2 (draftOf (member.1 :: seen))
  unknown : ∀ member ∈ members, shape.fields.find? (·.name = member.1) = none →
    ∀ seen, draftOf (member.1 :: seen) = draftOf seen
  once : ∀ field ∈ shape.fields, (members.map Prod.fst).count field.name ≤ 1
  complete : ∀ field ∈ shape.fields, field.required = true →
    field.present (draftOf (members.map Prod.fst).reverse) = true

theorem field_fills {required : Bool} {get : δ → Option β} {put : δ → β → δ} {reader : Reader β}
    {read : β} (absent : get draft = none) (reads : ReadAs reader value read)
    (filled : put draft read = next) :
    (field name required get put reader).present draft = false ∧
      ReadAs ((field name required get put reader).reader draft) value next := by
  subst filled
  exact ⟨by simp only [field, absent, Option.isSome_none], reads.map _⟩

theorem field_put {required : Bool} {get : δ → Option β} {put : δ → β → δ} {reader : Reader β}
    (read : ((field name required get put reader).reader draft).read input = .ok (next, rest)) :
    ∃ value, next = put draft value := by
  simp only [field, Reader.map] at read
  split at read <;> cases read
  exact ⟨_, rfl⟩

theorem fills_of_members {draftOf : List String → δ} {members : List (String × Input)}
    (passed : PassedMembers parts members)
    (known : ∀ member ∈ members, ∀ field, fields.find? (·.name = member.1) = some field →
      ∀ seen, member.1 ∉ seen → field.present (draftOf seen) = false ∧
        ReadAs (field.reader (draftOf seen)) member.2 (draftOf (member.1 :: seen)))
    (unknown : ∀ member ∈ members, fields.find? (·.name = member.1) = none →
      ∀ seen, draftOf (member.1 :: seen) = draftOf seen)
    (seen : List String)
    (once : ∀ field ∈ fields, (members.map Prod.fst ++ seen).count field.name ≤ 1) :
    Fills fields (draftOf seen) parts (draftOf ((members.map Prod.fst).reverse ++ seen)) := by
  induction passed generalizing seen with
  | nil => exact .done _
  | @cons part member parts members each others ih =>
    obtain ⟨name, value⟩ := member
    -- The members behind this one are read with its name seen as well.
    have fills := ih (fun each among => known each (List.mem_cons_of_mem _ among))
      (fun each among => unknown each (List.mem_cons_of_mem _ among)) (name :: seen)
      fun field among => by
        have bound := once field among
        simp only [List.map_cons, List.cons_append, List.count_cons, List.count_append] at bound ⊢
        omega
    rw [List.map_cons, List.reverse_cons, List.append_assoc]
    refine .take ?_ fills
    cases found : fields.find? (·.name = name) with
    | none =>
      rw [unknown _ List.mem_cons_self found]
      exact .unknown each.1 found each.2
    | some field =>
      -- A known name that had been seen would come twice.
      have unseen : name ∉ seen := by
        intro among
        have bound := once field (List.mem_of_find?_eq_some found)
        have twice := List.count_pos_iff.mpr among
        simp only [find?_name found, List.map_cons, List.cons_append, List.count_cons_self,
          List.count_append] at bound
        omega
      obtain ⟨absent, reads⟩ := known _ List.mem_cons_self field found seen unseen
      exact .known each.1 found absent reads

section Fits

variable {members : List (String × Input)} (row : Row '}'.toUInt8 true parts text)
  (passed : PassedMembers parts members)
include row passed

theorem Fits.readAs {shape : Shape δ α} (draftOf : List String → δ)
    (fits : Fits shape draftOf members) : ReadAs (record shape) ('{'.toUInt8 :: text)
      (shape.build (draftOf (members.map Prod.fst).reverse)) := by
  have fills := fills_of_members passed fits.known fits.unknown [] (by simpa using fits.once)
  rw [fits.start, List.append_nil] at fills
  refine record_readAs row fills ?_
  simp only [firstMissing, Option.map_eq_none_iff, List.find?_eq_none]
  intro field among
  cases required : field.required with
  | false => simp
  | true => simp [fits.complete field among required]

end Fits

def valueAt (name : String) (item : Reader α) : Reader (Option α) :=
  record {
    name := name
    fields := [field name false id (fun _ value => some value) item]
    start := none
    build := id }

section ValueAt

variable {item : Reader α} {members : List (String × Input)} (row : Row '}'.toUInt8 true parts text)
  (passed : PassedMembers parts members)
include row passed

theorem valueAt_readAs {read : α} (nodup : (members.map Prod.fst).Nodup)
    (member : (name, value) ∈ members) (reads : ReadAs item value read) :
    ReadAs (valueAt name item) ('{'.toUInt8 :: text) (some read) := by
  have named : name ∈ (members.map Prod.fst).reverse :=
    List.mem_reverse.mpr (List.mem_map_of_mem member)
  rw [← seenAs_of_mem named read]
  refine Fits.readAs row passed (seenAs name read) ⟨rfl, ?_, ?_, ?_, ?_⟩
  · rintro ⟨other, value'⟩ among known found seen unseen
    obtain ⟨rfl, rfl⟩ : name = other ∧ field name false id (fun _ value => some value) item = known := by
      simpa [field] using found
    obtain ⟨-, rfl⟩ := Prod.mk.inj (List.inj_on_of_nodup_map nodup member among rfl)
    exact field_fills (seenAs_of_not_mem unseen read) reads (seenAs_of_mem List.mem_cons_self read).symm
  · intro other among none seen
    exact seenAs_cons_of_ne (by simpa [field] using none) read seen
  · exact fun known _ => List.nodup_iff_count_le_one.mp nodup known.name
  · simp [field]

theorem valueAt_readAs_none (absent : name ∉ members.map Prod.fst) :
    ReadAs (valueAt name item) ('{'.toUInt8 :: text) none := by
  refine Fits.readAs row passed (fun _ => none) ⟨rfl, ?_, fun _ _ _ _ => rfl, ?_, ?_⟩
  · rintro ⟨other, value'⟩ among known found
    obtain ⟨rfl, -⟩ : name = other ∧ field name false id (fun _ value => some value) item = known := by
      simpa [field] using found
    exact absurd (List.mem_map_of_mem among) absent
  · simp [field, List.count_eq_zero_of_not_mem absent]
  · simp [field]

end ValueAt

end RuleSmith.Json
