import RuleSmith.Proofs.Json.Agreement
import RuleSmith.Proofs.Json.Content

namespace RuleSmith.Json

variable {δ α β : Type} {item : Reader α} {input rest text value after : Input}
  {blanks part behind : Input} {parts : List Input} {name : String} {first : Bool}
  {fields : List (Field δ)} {members : List (String × Input)}

def Accepts (item : Reader α) (text : Input) : Prop :=
  ∃ blanks rest value after, Blanks blanks ∧ Delimited rest ∧
    item.read (blanks ++ (text ++ rest)) = .ok (value, after)

theorem Accepts.of_map {f : α → β} (accepts : Accepts (item.map f) text) : Accepts item text := by
  obtain ⟨blanks, rest, value, after, blank, delimited, read⟩ := accepts
  simp only [Reader.map] at read
  split at read <;> cases read
  exact ⟨blanks, rest, _, after, blank, delimited, ‹_›⟩

theorem after_eq_rest {found : α} (agrees : Agrees item) (passed : Passed text)
    (blank : Blanks blanks) (delimited : Delimited rest)
    (read : item.read (blanks ++ (text ++ rest)) = .ok (found, after)) : after = rest := by
  have ends := (agrees read).skip
  rw [passed.skip_ok blank delimited] at ends
  exact (Except.ok.inj ends).symm

inductive Stands (first : Bool) (name : String) (value : Input) : Input → Input → Prop
  | intro {input between before rest : Input}
      (named : nextName first input =
        .ok (some name, between ++ ':'.toUInt8 :: (before ++ (value ++ rest))))
      (inside : Blanks between) (inside' : Blanks before) (passed : Passed value)
      (delimited : Delimited rest) : Stands first name value input rest

theorem along_row {σ : Type} (loop : σ → Bool → Input → Prop)
    (outcome : σ → List (String × Input) → Prop)
    (done : ∀ {state first input rest}, nextName first input = .ok (none, rest) →
      loop state first input → outcome state [])
    (step : ∀ {state first name value input rest}, Stands first name value input rest →
      loop state first input → ∃ next, loop next false rest ∧
        ∀ members, outcome next members → outcome state ((name, value) :: members))
    (row : Row '}'.toUInt8 first parts text) (passed : PassedMembers parts members) {state : σ}
    (runs : loop state first (text ++ rest)) : outcome state members := by
  induction row generalizing state members with
  | close blank =>
    cases passed
    rw [List.append_assoc, List.singleton_append] at runs
    exact done (nextName_close blank _ rest) runs
  | first blank others ih =>
    cases passed with
    | cons each passed =>
      obtain ⟨body, between, before, spelled, named, inside, inside'⟩ := each.1.exists_named _
      simp only [List.append_assoc] at runs
      rw [spelled] at runs
      obtain ⟨next, runs, outcome⟩ := step ⟨nextName_first blank named, inside, inside', each.2,
        others.delimited (by decide) rest⟩ runs
      exact outcome _ (ih passed runs)
  | next blank blank' others ih =>
    cases passed with
    | cons each passed =>
      obtain ⟨body, between, before, spelled, named, inside, inside'⟩ := each.1.exists_named _
      simp only [List.append_assoc, List.cons_append] at runs
      rw [spelled] at runs
      obtain ⟨next, runs, outcome⟩ := step ⟨nextName_next blank blank' named, inside, inside', each.2,
        others.delimited (by decide) rest⟩ runs
      exact outcome _ (ih passed runs)

theorem readEntries_named {m final : InsertionMap String α}
    (named : nextName first input = .ok (some name, behind))
    (read : readEntries item m first input = .ok (final, rest)) :
    ∃ text value after, readColon behind = .ok text ∧ item.read text = .ok (value, after) ∧
      readEntries item (m.insert name value) false after = .ok (final, rest) := by
  rw [readEntries] at read
  split at read <;> rename_i found <;> rw [named] at found <;> cases found
  split at read
  · cases read
  · split at read
    · cases read
    · exact ⟨_, _, _, ‹_›, ‹_›, read⟩

theorem Accepts.entries (object : IsObject text members)
    (values : ∀ member ∈ members, WellFormed member.2) (agrees : Agrees item)
    (accepts : Accepts (Json.map item) text) : ∀ member ∈ members, Accepts item member.2 := by
  obtain ⟨row, labelled⟩ := object
  obtain ⟨blanks, rest, m, after, blank, -, read⟩ := accepts
  simp only [Json.map, List.cons_append,
    nextByte_append_cons blank (by decide : isBlank '{'.toUInt8 = false), if_true] at read
  split at read
  · cases read
  · rename_i final behind entered
    refine along_row (fun m first input => readEntries item m first input = .ok (final, behind))
      (fun _ members => ∀ member ∈ members, Accepts item member.2) (fun _ _ => nofun) ?_ row
      (passedMembers labelled values) entered
    rintro m first name value input rest ⟨named, inside, inside', passed, delimited⟩ read
    obtain ⟨text, found, after, colon, valued, others⟩ := readEntries_named named read
    rw [readColon_blanks inside] at colon
    cases colon
    obtain rfl := after_eq_rest agrees passed inside' delimited valued
    have accepted : Accepts item value := ⟨_, _, _, _, inside', delimited, valued⟩
    exact ⟨_, others, fun members rest => List.forall_mem_cons.mpr ⟨accepted, rest⟩⟩

inductive TakesUp (fields : List (Field δ)) (draft : δ) : String × Input → δ → Prop
  | known {name : String} {value blanks rest : Input} {field : Field δ} {next : δ}
      (found : fields.find? (·.name = name) = some field) (absent : field.present draft = false)
      (blank : Blanks blanks) (delimited : Delimited rest)
      (read : (field.reader draft).read (blanks ++ (value ++ rest)) = .ok (next, rest)) :
      TakesUp fields draft (name, value) next
  | unknown {name : String} {value : Input} (none : fields.find? (·.name = name) = none) :
      TakesUp fields draft (name, value) draft

inductive TakesAll (fields : List (Field δ)) (final : δ) : δ → List (String × Input) → Prop
  | done : TakesAll fields final final []
  | take {draft next : δ} {member : String × Input} {members : List (String × Input)}
      (takes : TakesUp fields draft member next) (others : TakesAll fields final next members) :
      TakesAll fields final draft (member :: members)

/-- Whether the fields of a record are read apart from each other, up to the end of their values. -/
structure Lawful (shape : Shape δ α) : Prop where
  empty : ∀ field ∈ shape.fields, field.present shape.start = false
  agrees : ∀ field ∈ shape.fields, ∀ draft, Agrees (field.reader draft)
  present : ∀ field ∈ shape.fields, ∀ {draft next input rest},
    (field.reader draft).read input = .ok (next, rest) → ∀ other ∈ shape.fields,
      (other.present next = true ↔ other.name = field.name ∨ other.present draft = true)

section Records

variable {shape : Shape δ α} {field : Field δ} {draft next final : δ} (lawful : Lawful shape)

theorem readMembers_named (named : nextName first input = .ok (some name, behind))
    (read : readMembers fields draft first input = .ok (final, rest)) :
    ∃ next after, readMember fields name draft behind = .ok (next, after) ∧
      readMembers fields next false after = .ok (final, rest) := by
  rw [readMembers] at read
  split at read <;> rename_i found <;> rw [named] at found <;> cases found
  split at read
  · cases read
  · exact ⟨_, _, ‹_›, read⟩

include lawful

theorem takesUp_of_readMember {between before : Input} (passed : Passed value)
    (inside : Blanks between) (inside' : Blanks before) (delimited : Delimited rest)
    (read : readMember shape.fields name draft
      (between ++ ':'.toUInt8 :: (before ++ (value ++ rest))) = .ok (next, after)) :
    after = rest ∧ TakesUp shape.fields draft (name, value) next := by
  simp only [readMember, readColon_blanks inside] at read
  split at read
  · rename_i none
    rw [passed.skip_ok inside' delimited] at read
    cases read
    exact ⟨rfl, .unknown none⟩
  · rename_i field found
    split at read
    · cases read
    · rename_i absent
      split at read <;> cases read
      rename_i valued
      obtain rfl := after_eq_rest (lawful.agrees field (List.mem_of_find?_eq_some found) draft) passed
        inside' delimited valued
      exact ⟨rfl, .known found (by simpa using absent) inside' delimited valued⟩

theorem takesAll_of_row (row : Row '}'.toUInt8 first parts text) (passed : PassedMembers parts members)
    (read : readMembers shape.fields draft first (text ++ rest) = .ok (final, after)) :
    TakesAll shape.fields final draft members := by
  refine along_row (fun draft first input =>
    readMembers shape.fields draft first input = .ok (final, after))
    (TakesAll shape.fields final) ?_ ?_ row passed read
  · intro draft first input rest none read
    rw [readMembers_end none] at read
    cases read
    exact .done
  · rintro draft first name value input rest ⟨named, inside, inside', passed, delimited⟩ read
    obtain ⟨next, after', taken, others⟩ := readMembers_named named read
    obtain ⟨rfl, takes⟩ := takesUp_of_readMember lawful passed inside inside' delimited taken
    exact ⟨next, others, fun members => .take takes⟩

theorem TakesUp.present {member : String × Input} (takes : TakesUp shape.fields draft member next)
    (found : shape.fields.find? (·.name = name) = some field) :
    (field.present next = true ↔ name = member.1 ∨ field.present draft = true) ∧
      (name = member.1 → field.present draft = false) := by
  have among := List.mem_of_find?_eq_some found
  cases takes with
  | @known name' value blanks rest field' next found' absent blank delimited read =>
    have present := lawful.present field' (List.mem_of_find?_eq_some found') read field among
    rw [find?_name found, find?_name found'] at present
    refine ⟨present, ?_⟩
    rintro rfl
    rw [found] at found'
    exact Option.some.inj found' ▸ absent
  | @unknown name' value none =>
    have apart : name ≠ name' := by
      rintro rfl
      rw [found] at none
      cases none
    exact ⟨(or_iff_right apart).symm, fun same => absurd same apart⟩

theorem TakesAll.present (takes : TakesAll shape.fields final draft members)
    (found : shape.fields.find? (·.name = name) = some field) :
    field.present final = true ↔ name ∈ members.map Prod.fst ∨ field.present draft = true := by
  induction takes with
  | done => simp
  | take takes others ih =>
    rw [ih, (takes.present lawful found).1, List.map_cons, List.mem_cons]
    tauto

theorem TakesAll.once (takes : TakesAll shape.fields final draft members)
    (found : shape.fields.find? (·.name = name) = some field) :
    (members.map Prod.fst).count name ≤ if field.present draft = true then 0 else 1 := by
  induction takes with
  | done => simp
  | @take draft next member members takes others ih =>
    obtain ⟨present, absent⟩ := takes.present lawful found
    rw [List.map_cons, List.count_cons]
    by_cases same : name = member.1
    · rw [if_pos (present.mpr (.inl same))] at ih
      rw [if_neg (by simp [absent same] : ¬ field.present draft = true)]
      split <;> omega
    · simp only [present, same, false_or] at ih
      simpa [Ne.symm same] using ih

omit lawful in
theorem TakesAll.accepted (takes : TakesAll fields final draft members)
    (found : fields.find? (·.name = name) = some field) (member : (name, value) ∈ members) :
    ∃ draft, Accepts (field.reader draft) value := by
  induction takes with
  | done => cases member
  | @take draft next taken members takes others ih =>
    obtain rfl | later := List.mem_cons.mp member
    · cases takes with
      | known found' absent blank delimited read =>
        rw [found] at found'
        cases found'
        exact ⟨draft, _, _, _, _, blank, delimited, read⟩
      | unknown none =>
        rw [found] at none
        cases none
    · exact ih later

structure Complete (shape : Shape δ α) (members : List (String × Input)) : Prop where
  required : ∀ {name field}, shape.fields.find? (·.name = name) = some field →
    field.required = true → name ∈ members.map Prod.fst
  once : ∀ {name field}, shape.fields.find? (·.name = name) = some field →
    (members.map Prod.fst).count name ≤ 1
  accepted : ∀ {name field value}, shape.fields.find? (·.name = name) = some field →
    (name, value) ∈ members → ∃ draft, Accepts (field.reader draft) value

theorem Accepts.complete (object : IsObject text members)
    (values : ∀ member ∈ members, WellFormed member.2) (accepts : Accepts (record shape) text) :
    Complete shape members := by
  obtain ⟨row, labelled⟩ := object
  obtain ⟨blanks, rest, built, after, blank, -, read⟩ := accepts
  simp only [record, List.cons_append,
    nextByte_append_cons blank (by decide : isBlank '{'.toUInt8 = false),
    if_neg (by decide : ¬ '{'.toUInt8 = '['.toUInt8), if_true] at read
  split at read
  · cases read
  · rename_i final behind entered
    obtain ⟨entered, complete⟩ := readObject_ok entered
    have takes := takesAll_of_row lawful row (passedMembers labelled values) entered
    constructor
    · intro name field found required
      have among := List.mem_of_find?_eq_some found
      simp only [firstMissing, Option.map_eq_none_iff, List.find?_eq_none] at complete
      have present : field.present final = true := by simpa [required] using complete field among
      obtain named | start := (takes.present lawful found).mp present
      · exact named
      · rw [lawful.empty field among] at start
        cases start
    · intro name field found
      have bound := takes.once lawful found
      split at bound <;> omega
    · exact fun found member => takes.accepted found member

end Records

/-- Why no record is read from an object: it lacks a member or has one twice. -/
inductive Flawed (names required : List String) (members : List (String × Input)) : Prop
  | lacking {name : String} (needed : name ∈ required) (absent : name ∉ members.map Prod.fst)
  | doubled {name : String} (known : name ∈ names) (twice : 2 ≤ (members.map Prod.fst).count name)

theorem Complete.not_flawed {shape : Shape δ α} {names required : List String}
    (complete : Complete shape members)
    (knows : ∀ name ∈ names, (shape.fields.find? (·.name = name)).isSome = true)
    (requires : ∀ name ∈ required,
      (shape.fields.find? (·.name = name)).map Field.required = some true) :
    ¬ Flawed names required members := by
  rintro (⟨needed, absent⟩ | ⟨known, twice⟩)
  · obtain ⟨field, found, required⟩ := Option.map_eq_some_iff.mp (requires _ needed)
    exact absent (complete.required found required)
  · obtain ⟨field, found⟩ := Option.isSome_iff_exists.mp (knows _ known)
    have once := complete.once found
    omega

end RuleSmith.Json
