import RuleSmith.Proofs.Json.Printing
import RuleSmith.Rule.Json

namespace RuleSmith
open Json

theorem skips_texts (values : List String) : Skips (.list (values.map .text)) := by
  apply Skips.list
  rintro item among
  obtain ⟨value, -, rfl⟩ := List.mem_map.mp among
  exact skips_text value

theorem prints_texts (values : List String) : Prints (list text) (.list (values.map .text)) values :=
  Prints.list prints_text values

theorem prints_entries (m : InsertionMap String String) : Prints (map text) (.map .text m) m :=
  Prints.map prints_text m

theorem skips_entries (m : InsertionMap String String) : Skips (.map .text m) := Skips.map skips_text m

def Artifact.members (artifact : Artifact) : List (String × Printable) := [
  ("artifact", .text artifact.content), ("id", .text artifact.id), ("type", .text artifact.kind)]

structure Artifact.Named (artifact : Artifact) : Prop where
  content : ReadBack (valueAt "artifact" text) artifact.json (some artifact.content)
  id : ReadBack (valueAt "id" text) artifact.json (some artifact.id)
  kind : ReadBack (valueAt "type" text) artifact.json (some artifact.kind)

section Artifact

variable (artifact : Artifact)

theorem Artifact.fills (layout : Layout) :
    Fills shape.fields {} (artifact.members.map (printMember layout))
      ⟨some artifact.content, some artifact.id, some artifact.kind⟩ :=
  .field rfl rfl (prints_text _) (.field rfl rfl (prints_text _)
    (.field rfl rfl (prints_text _) (.done _)))

theorem Artifact.prints : Prints reader artifact.json artifact := Prints.record artifact.fills rfl

theorem Artifact.skips_members : ∀ member ∈ artifact.members, Skips member.2 := by
  simp [members, skips_text]

theorem Artifact.skips : Skips artifact.json := Skips.object artifact.skips_members

theorem Artifact.named : artifact.Named := by
  have nodup : (artifact.members.map Prod.fst).Nodup := by simp [members]
  have skips := artifact.skips_members
  constructor
  · exact (Prints.valueAt skips nodup (by simp [members]) (prints_text _)).readBack
  · exact (Prints.valueAt skips nodup (by simp [members]) (prints_text _)).readBack
  · exact (Prints.valueAt skips nodup (by simp [members]) (prints_text _)).readBack

end Artifact

theorem prints_artifacts (m : InsertionMap String Artifact) :
    Prints (map Artifact.reader) (.map Artifact.json m) m := Prints.map Artifact.prints m

def Request.members (request : Request) : List (String × Printable) := [
  ("rule", .text request.rule),
  ("tags", .list (request.tags.map .text)),
  ("meta", .map .text request.metadata),
  ("artifacts", .map Artifact.json request.artifacts),
  ("condition", .text request.condition)]

structure Request.Named (request : Request) : Prop where
  rule : ReadBack (valueAt "rule" text) request.json (some request.rule)
  tags : ReadBack (valueAt "tags" (list text)) request.json (some request.tags)
  metadata : ReadBack (valueAt "meta" (map text)) request.json (some request.metadata)
  artifacts : ReadBack (valueAt "artifacts" (map Artifact.reader)) request.json
    (some request.artifacts)
  condition : ReadBack (valueAt "condition" text) request.json (some request.condition)

section Request

variable (request : Request)

theorem Request.fills (layout : Layout) :
    Fills shape.fields {} (request.members.map (printMember layout))
      ⟨some request.rule, some request.tags, some request.metadata, some request.artifacts,
        some request.condition⟩ :=
  .field rfl rfl (prints_text _) (.field rfl rfl (prints_texts _) (.field rfl rfl (prints_entries _)
    (.field rfl rfl (prints_artifacts _) (.field rfl rfl (prints_text _) (.done _)))))

theorem Request.prints : Prints reader request.json request := Prints.record request.fills rfl

theorem Request.named : request.Named := by
  have nodup : (request.members.map Prod.fst).Nodup := by simp [members]
  have skips : ∀ member ∈ request.members, Skips member.2 := by
    simp [members, skips_text, skips_texts, skips_entries, Skips.map Artifact.skips]
  constructor
  · exact (Prints.valueAt skips nodup (by simp [members]) (prints_text _)).readBack
  · exact (Prints.valueAt skips nodup (by simp [members]) (prints_texts _)).readBack
  · exact (Prints.valueAt skips nodup (by simp [members]) (prints_entries _)).readBack
  · exact (Prints.valueAt skips nodup (by simp [members]) (prints_artifacts _)).readBack
  · exact (Prints.valueAt skips nodup (by simp [members]) (prints_text _)).readBack

end Request

def Source.members (source : Source) : List (String × Printable) :=
  [("rule", .text source.rule)]
    ++ (source.tags.map fun tags => ("tags", Printable.list (tags.map .text))).toList
    ++ (source.metadata.map fun entries => ("meta", Printable.map .text entries)).toList
    ++ (source.strings.map fun strings => ("strings", Printable.map .text strings)).toList
    ++ [("condition", .text source.condition)]

structure Source.Named (source : Source) : Prop where
  rule : ReadBack (valueAt "rule" text) source.json (some source.rule)
  tags : ReadBack (valueAt "tags" (list text)) source.json source.tags
  metadata : ReadBack (valueAt "meta" (map text)) source.json source.metadata
  strings : ReadBack (valueAt "strings" (map text)) source.json source.strings
  condition : ReadBack (valueAt "condition" text) source.json (some source.condition)

section Source

variable (source : Source)

def Source.draft (source : Source) : Source.Draft where
  rule := some source.rule
  tags := source.tags.map some
  metadata := source.metadata.map some
  strings := source.strings.map some
  condition := some source.condition

theorem Source.fills (layout : Layout) :
    Fills shape.fields {} (source.members.map (printMember layout)) source.draft := by
  obtain ⟨rule, tags, metadata, strings, condition⟩ := source
  have front : Fills shape.fields {} ([("rule", .text rule)].map (printMember layout))
      { rule := some rule } := .field rfl rfl (prints_text _) (.done _)
  have tagged : Fills shape.fields { rule := some rule }
      ((tags.map fun tags => ("tags", .list (tags.map .text))).toList.map (printMember layout))
      { rule := some rule, tags := tags.map some } :=
    .section rfl rfl (Prints.optional_list prints_text) tags (by cases tags <;> rfl)
  have described : Fills shape.fields { rule := some rule, tags := tags.map some }
      ((metadata.map fun entries => ("meta", .map .text entries)).toList.map (printMember layout))
      { rule := some rule, tags := tags.map some, metadata := metadata.map some } :=
    .section rfl rfl (Prints.optional_map prints_text) metadata (by cases metadata <;> rfl)
  have matched : Fills shape.fields
      { rule := some rule, tags := tags.map some, metadata := metadata.map some }
      ((strings.map fun strings => ("strings", .map .text strings)).toList.map (printMember layout))
      { rule := some rule, tags := tags.map some, metadata := metadata.map some,
        strings := strings.map some } :=
    .section rfl rfl (Prints.optional_map prints_text) strings (by cases strings <;> rfl)
  simp only [members, List.map_append]
  exact (((front.append tagged).append described).append matched).append
    (.field rfl rfl (prints_text condition) (.done _))

theorem Source.build_draft : shape.build source.draft = source := by
  obtain ⟨rule, tags, metadata, strings, condition⟩ := source
  cases tags <;> cases metadata <;> cases strings <;> rfl

theorem Source.prints : Prints reader source.json source := by
  have prints : Prints reader source.json (shape.build source.draft) := Prints.record source.fills rfl
  rwa [source.build_draft] at prints

example : (Source.json ⟨"r", some [], none, none, ""⟩).compact =
    "\x7b\"rule\":\"r\",\"tags\":[],\"condition\":\"\"\x7d" := by decide +kernel

theorem Source.nodup_members : (source.members.map Prod.fst).Nodup := by
  obtain ⟨rule, tags, metadata, strings, condition⟩ := source
  cases tags <;> cases metadata <;> cases strings <;> simp [members]

theorem Source.skips_members : ∀ member ∈ source.members, Skips member.2 := by
  obtain ⟨rule, tags, metadata, strings, condition⟩ := source
  cases tags <;> cases metadata <;> cases strings <;>
    simp [members, skips_text, skips_texts, skips_entries]

theorem Source.named : source.Named := by
  have nodup := source.nodup_members
  have skips := source.skips_members
  constructor
  · exact (Prints.valueAt skips nodup (by simp [members]) (prints_text _)).readBack
  · exact (prints_valueAt skips nodup source.tags (by simp +contextual [members])
      (by simp +contextual [members]) prints_texts).readBack
  · exact (prints_valueAt skips nodup source.metadata (by simp +contextual [members])
      (by simp +contextual [members]) prints_entries).readBack
  · exact (prints_valueAt skips nodup source.strings (by simp +contextual [members])
      (by simp +contextual [members]) prints_entries).readBack
  · exact (Prints.valueAt skips nodup (by simp [members]) (prints_text _)).readBack

end Source

def Record.members (record : Record) : List (String × Printable) := [
  ("rule", .text record.rule),
  ("namespace", .text record.scope),
  ("tags", .list (record.tags.map .text)),
  ("meta", .map .text record.metadata),
  ("strings", .map .text record.strings),
  ("condition", .text record.condition),
  ("matches", .truth record.applies)]

structure Record.Named (record : Record) : Prop where
  rule : ReadBack (valueAt "rule" text) record.json (some record.rule)
  scope : ReadBack (valueAt "namespace" text) record.json (some record.scope)
  tags : ReadBack (valueAt "tags" (list text)) record.json (some record.tags)
  metadata : ReadBack (valueAt "meta" (map text)) record.json (some record.metadata)
  strings : ReadBack (valueAt "strings" (map text)) record.json (some record.strings)
  condition : ReadBack (valueAt "condition" text) record.json (some record.condition)
  applies : ReadBack (valueAt "matches" truth) record.json (some record.applies)

section Record

variable (record : Record)

theorem Record.fills (layout : Layout) :
    Fills shape.fields {} (record.members.map (printMember layout))
      ⟨some record.rule, some record.scope, some record.tags, some record.metadata,
        some record.strings, some record.condition, some record.applies⟩ :=
  .field rfl rfl (prints_text _) (.field rfl rfl (prints_text _) (.field rfl rfl (prints_texts _)
    (.field rfl rfl (prints_entries _) (.field rfl rfl (prints_entries _)
      (.field rfl rfl (prints_text _) (.field rfl rfl (prints_truth _) (.done _)))))))

theorem Record.prints : Prints reader record.json record := Prints.record record.fills rfl

theorem Record.named : record.Named := by
  have nodup : (record.members.map Prod.fst).Nodup := by simp [members]
  have skips : ∀ member ∈ record.members, Skips member.2 := by
    simp [members, skips_text, skips_texts, skips_entries, skips_truth]
  constructor
  · exact (Prints.valueAt skips nodup (by simp [members]) (prints_text _)).readBack
  · exact (Prints.valueAt skips nodup (by simp [members]) (prints_text _)).readBack
  · exact (Prints.valueAt skips nodup (by simp [members]) (prints_texts _)).readBack
  · exact (Prints.valueAt skips nodup (by simp [members]) (prints_entries _)).readBack
  · exact (Prints.valueAt skips nodup (by simp [members]) (prints_entries _)).readBack
  · exact (Prints.valueAt skips nodup (by simp [members]) (prints_text _)).readBack
  · exact (Prints.valueAt skips nodup (by simp [members]) (prints_truth _)).readBack

end Record

/-- A feature, a request, a source, a record and a map are read back from both their printed forms, with
every value under its own name, entries in order, and parts that are absent told from those that are
empty. -/
theorem roundTrip_json :
    (∀ artifact : Artifact, ReadBack Artifact.reader artifact.json artifact ∧ artifact.Named) ∧
    (∀ request : Request,
      (Request.parse (Text.utf8 request.json.compact) = .ok request ∧
        Request.parse (Text.utf8 request.json.pretty) = .ok request) ∧ request.Named) ∧
    (∀ source : Source, ReadBack Source.reader source.json source ∧ source.Named) ∧
    (∀ record : Record, ReadBack Record.reader record.json record ∧ record.Named) ∧
    (∀ m : InsertionMap String String, ReadBack (map text) (.map .text m) m) ∧
    (∀ m : InsertionMap String Artifact, ReadBack (map Artifact.reader) (.map Artifact.json m) m) ∧
    ∀ m : InsertionMap String Int64, ReadBack (map int64) (.map .int64 m) m :=
  ⟨fun artifact => ⟨artifact.prints.readBack, artifact.named⟩,
    fun request => ⟨request.prints.readBack, request.named⟩,
    fun source => ⟨source.prints.readBack, source.named⟩,
    fun record => ⟨record.prints.readBack, record.named⟩,
    fun m => (prints_entries m).readBack, fun m => (prints_artifacts m).readBack,
    fun m => (Prints.map prints_int64 m).readBack⟩

end RuleSmith
