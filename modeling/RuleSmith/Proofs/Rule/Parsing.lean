import RuleSmith.Proofs.Json.Acceptance
import RuleSmith.Rule.Json

namespace RuleSmith
open Json

variable {text before behind : Input} {members : List (String × Input)} {name : String}

/-! ## Readers -/

theorem Artifact.lawful : Lawful shape where
  empty := by simp [shape, field]
  agrees := by
    simp only [shape, List.forall_mem_cons, List.not_mem_nil, false_imp_iff, implies_true, and_true]
    exact ⟨fun _ => agrees_text.map _, fun _ => agrees_text.map _, fun _ => agrees_text.map _⟩
  present := by
    intro known among draft next input rest read
    simp only [shape, List.mem_cons, List.not_mem_nil, or_false] at among
    obtain rfl | rfl | rfl := among <;> obtain ⟨value, rfl⟩ := field_put read <;>
      simp [shape, field]

theorem Request.lawful : Lawful shape where
  empty := by simp [shape, field]
  agrees := by
    simp only [shape, List.forall_mem_cons, List.not_mem_nil, false_imp_iff, implies_true, and_true]
    exact ⟨fun _ => agrees_text.map _, fun _ => Agrees.map (Agrees.list agrees_text) _,
      fun _ => Agrees.map (Agrees.object agrees_text) _,
      fun _ => Agrees.map (Agrees.object (agrees_record Artifact.lawful.agrees)) _,
      fun _ => agrees_text.map _⟩
  present := by
    intro known among draft next input rest read
    simp only [shape, List.mem_cons, List.not_mem_nil, or_false] at among
    obtain rfl | rfl | rfl | rfl | rfl := among <;> obtain ⟨value, rfl⟩ := field_put read <;>
      simp [shape, field]

/-! ## Features -/

def Artifact.names : List String := ["artifact", "id", "type"]

structure Artifact.Told (artifact : Artifact) (members : List (String × Input)) : Prop where
  content : Holds Quoted members "artifact" artifact.content
  id : MayHold Quoted members "id" "" artifact.id
  kind : MayHold Quoted members "type" "" artifact.kind
  others : ∀ member ∈ members, member.1 ∉ Artifact.names → WellFormed member.2

def Artifact.Describes (text : Input) (artifact : Artifact) : Prop :=
  ∃ members, IsObject text members ∧ artifact.Told members

def Artifact.draftOf (artifact : Artifact) (seen : List String) : Artifact.Draft where
  content := seenAs "artifact" artifact.content seen
  id := seenAs "id" artifact.id seen
  kind := seenAs "type" artifact.kind seen

section Artifact

variable {artifact : Artifact}

theorem Artifact.Told.wellFormed (told : artifact.Told members) :
    ∀ member ∈ members, WellFormed member.2 := by
  rintro ⟨name, value⟩ member
  by_cases known : name ∈ names
  · simp only [names, List.mem_cons, List.not_mem_nil, or_false] at known
    obtain rfl | rfl | rfl := known
    · exact (told.content.told _ member).wellFormed
    · exact (told.id.told _ member).wellFormed
    · exact (told.kind.told _ member).wellFormed
  · exact told.others _ member known

theorem Artifact.Describes.wellFormed (describes : Describes text artifact) : WellFormed text := by
  obtain ⟨members, object, told⟩ := describes
  exact object.wellFormed told.wellFormed

theorem Artifact.Told.fits (told : artifact.Told members) :
    Fits shape artifact.draftOf members where
  start := rfl
  known := by
    rintro ⟨name, value⟩ member known found seen unseen
    have among := List.mem_of_find?_eq_some found
    obtain rfl := find?_name found
    simp only [shape, List.mem_cons, List.not_mem_nil, or_false] at among
    obtain rfl | rfl | rfl := among
    · exact field_fills (seenAs_of_not_mem unseen _) (told.content.told _ member).readAs
        (by simp [draftOf, field, seenAs])
    · exact field_fills (seenAs_of_not_mem unseen _) (told.id.told _ member).readAs
        (by simp [draftOf, field, seenAs])
    · exact field_fills (seenAs_of_not_mem unseen _) (told.kind.told _ member).readAs
        (by simp [draftOf, field, seenAs])
  unknown := by
    rintro ⟨name, value⟩ - none seen
    obtain ⟨content, id, kind⟩ : "artifact" ≠ name ∧ "id" ≠ name ∧ "type" ≠ name := by
      simpa [shape, field] using none
    simp only [draftOf, seenAs_cons_of_ne content, seenAs_cons_of_ne id, seenAs_cons_of_ne kind]
  once := by simpa [shape, field] using ⟨told.content.once.le, told.id.once, told.kind.once⟩
  complete := by simpa [shape, field, draftOf, seenAs] using told.content.mem

theorem Artifact.Describes.readAs (describes : Describes text artifact) :
    ReadAs reader text artifact := by
  obtain ⟨members, object, told⟩ := describes
  have reads := object.readAs told.wellFormed told.fits
  have built : shape.build (artifact.draftOf (members.map Prod.fst).reverse) = artifact := by
    simp only [shape, draftOf, (told.content.mayHold "").getD_seenAs, told.id.getD_seenAs,
      told.kind.getD_seenAs]
  rwa [built] at reads

end Artifact

/-! ## Requests -/

def Request.names : List String := ["rule", "tags", "meta", "artifacts", "condition"]

structure Request.Told (request : Request) (members : List (String × Input)) : Prop where
  rule : Holds Quoted members "rule" request.rule
  tags : MayHold (Listed Quoted) members "tags" [] request.tags
  metadata : MayHold (Mapped Quoted) members "meta" .empty request.metadata
  artifacts : MayHold (Mapped Artifact.Describes) members "artifacts" .empty request.artifacts
  condition : Holds Quoted members "condition" request.condition
  others : ∀ member ∈ members, member.1 ∉ Request.names → WellFormed member.2

def Request.draftOf (request : Request) (seen : List String) : Request.Draft where
  rule := seenAs "rule" request.rule seen
  tags := seenAs "tags" request.tags seen
  metadata := seenAs "meta" request.metadata seen
  artifacts := seenAs "artifacts" request.artifacts seen
  condition := seenAs "condition" request.condition seen

section Request

variable {request : Request}

theorem Request.Told.wellFormed (told : request.Told members) :
    ∀ member ∈ members, WellFormed member.2 := by
  rintro ⟨name, value⟩ member
  by_cases known : name ∈ names
  · simp only [names, List.mem_cons, List.not_mem_nil, or_false] at known
    obtain rfl | rfl | rfl | rfl | rfl := known
    · exact (told.rule.told _ member).wellFormed
    · exact (told.tags.told _ member).wellFormed fun _ _ => Quoted.wellFormed
    · exact (told.metadata.told _ member).wellFormed fun _ _ => Quoted.wellFormed
    · exact (told.artifacts.told _ member).wellFormed fun _ _ => Artifact.Describes.wellFormed
    · exact (told.condition.told _ member).wellFormed
  · exact told.others _ member known

theorem Request.Told.fits (told : request.Told members) : Fits shape request.draftOf members where
  start := rfl
  known := by
    rintro ⟨name, value⟩ member known found seen unseen
    have among := List.mem_of_find?_eq_some found
    obtain rfl := find?_name found
    simp only [shape, List.mem_cons, List.not_mem_nil, or_false] at among
    obtain rfl | rfl | rfl | rfl | rfl := among
    · exact field_fills (seenAs_of_not_mem unseen _) (told.rule.told _ member).readAs
        (by simp [draftOf, field, seenAs])
    · exact field_fills (seenAs_of_not_mem unseen _)
        ((told.tags.told _ member).readAs fun _ _ => Quoted.readAs) (by simp [draftOf, field, seenAs])
    · exact field_fills (seenAs_of_not_mem unseen _)
        ((told.metadata.told _ member).readAs fun _ _ => Quoted.readAs)
        (by simp [draftOf, field, seenAs])
    · exact field_fills (seenAs_of_not_mem unseen _)
        ((told.artifacts.told _ member).readAs fun _ _ => Artifact.Describes.readAs)
        (by simp [draftOf, field, seenAs])
    · exact field_fills (seenAs_of_not_mem unseen _) (told.condition.told _ member).readAs
        (by simp [draftOf, field, seenAs])
  unknown := by
    rintro ⟨name, value⟩ - none seen
    obtain ⟨rule, tags, metadata, artifacts, condition⟩ : "rule" ≠ name ∧ "tags" ≠ name ∧
        "meta" ≠ name ∧ "artifacts" ≠ name ∧ "condition" ≠ name := by
      simpa [shape, field] using none
    simp only [draftOf, seenAs_cons_of_ne rule, seenAs_cons_of_ne tags, seenAs_cons_of_ne metadata,
      seenAs_cons_of_ne artifacts, seenAs_cons_of_ne condition]
  once := by
    simpa [shape, field] using ⟨told.rule.once.le, told.tags.once, told.metadata.once,
      told.artifacts.once, told.condition.once.le⟩
  complete := by
    simpa [shape, field, draftOf, seenAs, -List.mem_map] using ⟨told.rule.mem, told.condition.mem⟩

theorem Request.Told.readAs (object : IsObject text members) (told : request.Told members) :
    ReadAs reader text request := by
  have reads := object.readAs told.wellFormed told.fits
  have built : shape.build (request.draftOf (members.map Prod.fst).reverse) = request := by
    simp only [shape, draftOf, (told.rule.mayHold "").getD_seenAs, told.tags.getD_seenAs,
      told.metadata.getD_seenAs, told.artifacts.getD_seenAs,
      (told.condition.mayHold "").getD_seenAs]
  rwa [built] at reads

end Request

/-! ## Requests that are refused -/

/-- Why no request is read from an object: it lacks a member or has one twice, or one of its features
does. -/
inductive Request.Flawed (members : List (String × Input)) : Prop
  | here (flawed : Json.Flawed names ["rule", "condition"] members)
  | within {value entry : Input} {name : String} {entries fields : List (String × Input)}
      (member : ("artifacts", value) ∈ members) (object : IsObject value entries)
      (values : ∀ member ∈ entries, WellFormed member.2) (listed : (name, entry) ∈ entries)
      (object' : IsObject entry fields) (values' : ∀ member ∈ fields, WellFormed member.2)
      (flawed : Json.Flawed Artifact.names ["artifact"] fields)

theorem Artifact.not_flawed (object : IsObject text members)
    (values : ∀ member ∈ members, WellFormed member.2) (accepts : Accepts reader text) :
    ¬ Json.Flawed names ["artifact"] members :=
  (accepts.complete lawful object values).not_flawed (by decide) (by decide)

theorem Request.not_flawed (object : IsObject text members)
    (values : ∀ member ∈ members, WellFormed member.2) (accepts : Accepts reader text) :
    ¬ Flawed members := by
  have complete := accepts.complete lawful object values
  rintro (flawed | ⟨member, object', values', listed, object'', values'', flawed⟩)
  · exact complete.not_flawed (by decide) (by decide) flawed
  · obtain ⟨draft, accepted⟩ := complete.accepted rfl member
    have entries := accepted.of_map.entries object' values' (agrees_record Artifact.lawful.agrees)
    exact Artifact.not_flawed object'' values'' (entries _ listed) flawed

/-- A request is read from every object that says what it is, with whatever other members, and from no
object with a flaw, whatever else that says. -/
theorem Request.parse_layout (object : IsObject text members) (blank : Blanks before)
    (blank' : Blanks behind) :
    (∀ request : Request, request.Told members → (∀ member ∈ members, WellFormed member.2) ∧
      parse (before ++ (text ++ behind)) = .ok request) ∧
    ((∀ member ∈ members, WellFormed member.2) → Flawed members →
      ∃ error, parse (before ++ (text ++ behind)) = .error error) := by
  refine ⟨fun request told => ⟨told.wellFormed, (told.readAs object).parse_amid blank blank'⟩,
    fun values flawed => ?_⟩
  cases parsed : parse (before ++ (text ++ behind)) with
  | error error => exact ⟨error, rfl⟩
  | ok request =>
    obtain ⟨rest, read, -⟩ := parse_ok_iff.mp parsed
    exact absurd flawed (not_flawed object values
      ⟨before, behind, request, rest, blank, delimited_of_blanks blank', read⟩)

/-! ## A request that is read and one that is refused -/

def plainText (text : String) : Input := '"'.toUInt8 :: (encode text.toList ++ ['"'.toUInt8])

def plainMember (name : String) (value : Input) : Input :=
  '"'.toUInt8 :: (encode name.toList ++ '"'.toUInt8 :: ([] ++ ':'.toUInt8 :: ([] ++ value)))

def plainObject (name : String) (value : Input) : Input :=
  '{'.toUInt8 :: ([] ++ (plainMember name value ++ ([] ++ ['}'.toUInt8])))

section Plain

variable (plain : name.toList.all needsNoEscape = true)
include plain

theorem quoted_plainText : Quoted (plainText name) name := .intro (spelling_of_plain plain)

theorem labelled_plainMember (value : Input) : Labelled (plainMember name value) (name, value) :=
  .intro (.intro blanks_nil blanks_nil) (spelling_of_plain plain)

theorem isObject_plainObject (value : Input) : IsObject (plainObject name value) [(name, value)] :=
  .intro (.first blanks_nil (.close blanks_nil)) (.cons (labelled_plainMember plain value) .nil)

end Plain

def Artifact.sampleText : Input := Text.utf8 "\x7b\"y\":null,\"artifact\":\"f\"\x7d"

def Artifact.sampleMembers : List (String × Input) := [
  ("y", Text.utf8 "null"), ("artifact", plainText "f")]

theorem wellFormed_null : WellFormed (Text.utf8 "null") := encode_toList "null" ▸ .word (by decide)

theorem Artifact.describes_sampleText : Describes sampleText ⟨"f", "", ""⟩ := by
  obtain ⟨text, object, same⟩ : ∃ text, IsObject text sampleMembers ∧ text = sampleText :=
    ⟨_, .intro (.first blanks_nil (.next blanks_nil blanks_nil (.close blanks_nil)))
      (.cons (labelled_plainMember (by decide) _) (.cons (labelled_plainMember (by decide) _) .nil)),
      by decide +kernel⟩
  refine ⟨sampleMembers, same ▸ object, ?_⟩
  constructor
  · exact holds_of_filter rfl (quoted_plainText (by decide))
  · exact mayHold_of_not_mem (by decide) ""
  · exact mayHold_of_not_mem (by decide) ""
  · simpa [sampleMembers, names] using wellFormed_null

def Request.sample : Request := ⟨"r", [], .empty, .ofList [("$a", ⟨"f", "", ""⟩)], "$a"⟩

def Request.sampleText : Input := Text.utf8
  ("\x7b \"condition\":\"$a\",\n\"x\":null,\"r\\u0075le\":\"r\"," ++
    "\"artifacts\":\x7b\"$a\":\x7b\"y\":null,\"artifact\":\"f\"\x7d\x7d\x7d")

def Request.sampleMembers : List (String × Input) := [
  ("condition", plainText "$a"), ("x", Text.utf8 "null"), ("rule", plainText "r"),
  ("artifacts", plainObject "$a" Artifact.sampleText)]

theorem Request.isObject_sampleText : IsObject sampleText sampleMembers := by
  have space : Blanks [0x20] := List.forall_mem_singleton.mpr rfl
  have line : Blanks [0x0A] := List.forall_mem_singleton.mpr rfl
  have unit : CodeUnit (encode "0075".toList) (((0 * 16 + 0) * 16 + 7) * 16 + 5) :=
    .intro rfl rfl rfl rfl
  have escaped : Spelling (encode ['r'] ++ (('\\'.toUInt8 :: 'u'.toUInt8 :: encode "0075".toList) ++
      encode ['l', 'e'])) "rule".toList := by
    rw [show "rule".toList = ['r', 'u', 'l', 'e'] by decide]
    exact .cons (.plain (c := 'r') (by decide) (by decide) (by decide))
      (.cons (.unit unit) (spelling_of_plain (by decide)))
  obtain ⟨text, object, same⟩ : ∃ text, IsObject text sampleMembers ∧ text = sampleText :=
    ⟨_, .intro (.first space (.next blanks_nil line (.next blanks_nil blanks_nil
        (.next blanks_nil blanks_nil (.close blanks_nil)))))
      (.cons (labelled_plainMember (by decide) _) (.cons (labelled_plainMember (by decide) _)
        (.cons (.intro (.intro blanks_nil blanks_nil) escaped)
          (.cons (labelled_plainMember (by decide) _) .nil)))), by decide +kernel⟩
  exact same ▸ object

theorem Request.sample_told : sample.Told sampleMembers := by
  constructor
  · exact holds_of_filter rfl (quoted_plainText (by decide))
  · exact mayHold_of_not_mem (by decide) []
  · exact mayHold_of_not_mem (by decide) _
  · exact (holds_of_filter rfl (.intro (isObject_plainObject (by decide) _)
      (.cons ⟨rfl, Artifact.describes_sampleText⟩ .nil))).mayHold _
  · exact holds_of_filter rfl (quoted_plainText (by decide))
  · simpa [sampleMembers, names] using wellFormed_null

def Request.flawedMembers : List (String × Input) := [
  ("rule", plainText "r"), ("artifacts", plainObject "$a" (plainObject "id" (plainText "7"))),
  ("condition", plainText "$a")]

def Request.flawedText : Input := Text.utf8
  "\x7b\"rule\":\"r\",\"artifacts\":\x7b\"$a\":\x7b\"id\":\"7\"\x7d\x7d,\"condition\":\"$a\"\x7d"

theorem Request.isObject_flawedText : IsObject flawedText flawedMembers := by
  obtain ⟨text, object, same⟩ : ∃ text, IsObject text flawedMembers ∧ text = flawedText :=
    ⟨_, .intro (.first blanks_nil (.next blanks_nil blanks_nil (.next blanks_nil blanks_nil
        (.close blanks_nil))))
      (.cons (labelled_plainMember (by decide) _) (.cons (labelled_plainMember (by decide) _)
        (.cons (labelled_plainMember (by decide) _) .nil))), by decide +kernel⟩
  exact same ▸ object

theorem Request.parse_layout_sample :
    (IsObject sampleText sampleMembers ∧ sample.Told sampleMembers ∧
      parse ([0x09] ++ (sampleText ++ [0x0A])) = .ok sample) ∧
    IsObject flawedText flawedMembers ∧ (∀ member ∈ flawedMembers, WellFormed member.2) ∧
      Flawed flawedMembers ∧ ∃ error, parse ([] ++ (flawedText ++ [])) = .error error := by
  have entry : ∀ member ∈ [("id", plainText "7")], WellFormed member.2 := by
    simpa using (quoted_plainText (by decide)).wellFormed
  have entries : ∀ member ∈ [("$a", plainObject "id" (plainText "7"))], WellFormed member.2 := by
    simpa using (isObject_plainObject (by decide) _).wellFormed entry
  have values : ∀ member ∈ flawedMembers, WellFormed member.2 := by
    simpa [flawedMembers] using ⟨(quoted_plainText (by decide)).wellFormed,
      (isObject_plainObject (by decide) _).wellFormed entries,
      (quoted_plainText (by decide)).wellFormed⟩
  have flawed : Flawed flawedMembers :=
    .within (List.mem_cons_of_mem _ List.mem_cons_self) (isObject_plainObject (by decide) _) entries
      List.mem_cons_self (isObject_plainObject (by decide) _) entry
      (.lacking List.mem_cons_self (by decide))
  exact ⟨⟨isObject_sampleText, sample_told,
      ((parse_layout isObject_sampleText (List.forall_mem_singleton.mpr rfl)
        (List.forall_mem_singleton.mpr rfl)).1 sample sample_told).2⟩,
    isObject_flawedText, values, flawed,
    (parse_layout isObject_flawedText blanks_nil blanks_nil).2 values flawed⟩

end RuleSmith
