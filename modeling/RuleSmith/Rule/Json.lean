import RuleSmith.Json.Printer
import RuleSmith.Json.Record
import RuleSmith.Rule.Basic

namespace RuleSmith
open Json

structure Artifact.Draft where
  content : Option String := none
  id : Option String := none
  kind : Option String := none

def Artifact.shape : Shape Artifact.Draft Artifact where
  name := "ArtifactEntry"
  fields := [
    field "artifact" true Draft.content (fun draft value => { draft with content := some value })
      text,
    field "id" false Draft.id (fun draft value => { draft with id := some value }) text,
    field "type" false Draft.kind (fun draft value => { draft with kind := some value }) text]
  start := {}
  build draft := ⟨draft.content.getD "", draft.id.getD "", draft.kind.getD ""⟩

def Artifact.reader : Reader Artifact := record shape

def Artifact.json (artifact : Artifact) : Printable := .object [
  ("artifact", .text artifact.content), ("id", .text artifact.id), ("type", .text artifact.kind)]

structure Request.Draft where
  rule : Option String := none
  tags : Option (List String) := none
  metadata : Option (InsertionMap String String) := none
  artifacts : Option (InsertionMap String Artifact) := none
  condition : Option String := none

def Request.shape : Shape Request.Draft Request where
  name := "RuleRequest"
  fields := [
    field "rule" true Draft.rule (fun draft value => { draft with rule := some value }) text,
    field "tags" false Draft.tags (fun draft value => { draft with tags := some value })
      (list text),
    field "meta" false Draft.metadata (fun draft value => { draft with metadata := some value })
      (map text),
    field "artifacts" false Draft.artifacts
      (fun draft value => { draft with artifacts := some value }) (map Artifact.reader),
    field "condition" true Draft.condition (fun draft value => { draft with condition := some value })
      text]
  start := {}
  build draft := {
    rule := draft.rule.getD ""
    tags := draft.tags.getD []
    metadata := draft.metadata.getD .empty
    artifacts := draft.artifacts.getD .empty
    condition := draft.condition.getD "" }

def Request.reader : Reader Request := record shape

def Request.parse (whole : Input) : Except Json.Error Request := reader.parse whole

def Request.json (request : Request) : Printable := .object [
  ("rule", .text request.rule),
  ("tags", .list (request.tags.map .text)),
  ("meta", .map .text request.metadata),
  ("artifacts", .map Artifact.json request.artifacts),
  ("condition", .text request.condition)]

structure Source.Draft where
  rule : Option String := none
  tags : Option (Option (List String)) := none
  metadata : Option (Option (InsertionMap String String)) := none
  strings : Option (Option Patterns) := none
  condition : Option String := none

def Source.shape : Shape Source.Draft Source where
  name := "RuleSource"
  fields := [
    field "rule" true Draft.rule (fun draft value => { draft with rule := some value }) text,
    field "tags" false Draft.tags (fun draft value => { draft with tags := some value })
      (optional (list text)),
    field "meta" false Draft.metadata (fun draft value => { draft with metadata := some value })
      (optional (map text)),
    field "strings" false Draft.strings (fun draft value => { draft with strings := some value })
      (optional (map text)),
    field "condition" true Draft.condition (fun draft value => { draft with condition := some value })
      text]
  start := {}
  build draft := {
    rule := draft.rule.getD ""
    tags := draft.tags.getD none
    metadata := draft.metadata.getD none
    strings := draft.strings.getD none
    condition := draft.condition.getD "" }

def Source.reader : Reader Source := record shape

def Source.json (source : Source) : Printable := .object (
  [("rule", .text source.rule)]
    ++ (source.tags.map fun tags => ("tags", Printable.list (tags.map .text))).toList
    ++ (source.metadata.map fun entries => ("meta", Printable.map .text entries)).toList
    ++ (source.strings.map fun strings => ("strings", Printable.map .text strings)).toList
    ++ [("condition", .text source.condition)])

structure Record.Draft where
  rule : Option String := none
  scope : Option String := none
  tags : Option (List String) := none
  metadata : Option (InsertionMap String String) := none
  strings : Option Patterns := none
  condition : Option String := none
  applies : Option Bool := none

def Record.shape : Shape Record.Draft Record where
  name := "MatchRecord"
  fields := [
    field "rule" true Draft.rule (fun draft value => { draft with rule := some value }) text,
    field "namespace" true Draft.scope (fun draft value => { draft with scope := some value }) text,
    field "tags" true Draft.tags (fun draft value => { draft with tags := some value })
      (list text),
    field "meta" true Draft.metadata (fun draft value => { draft with metadata := some value })
      (map text),
    field "strings" true Draft.strings (fun draft value => { draft with strings := some value })
      (map text),
    field "condition" true Draft.condition (fun draft value => { draft with condition := some value })
      text,
    field "matches" true Draft.applies (fun draft value => { draft with applies := some value })
      truth]
  start := {}
  build draft := {
    rule := draft.rule.getD ""
    scope := draft.scope.getD ""
    tags := draft.tags.getD []
    metadata := draft.metadata.getD .empty
    strings := draft.strings.getD .empty
    condition := draft.condition.getD ""
    applies := draft.applies.getD false }

def Record.reader : Reader Record := record shape

def Record.json (record : Record) : Printable := .object [
  ("rule", .text record.rule),
  ("namespace", .text record.scope),
  ("tags", .list (record.tags.map .text)),
  ("meta", .map .text record.metadata),
  ("strings", .map .text record.strings),
  ("condition", .text record.condition),
  ("matches", .truth record.applies)]

end RuleSmith
