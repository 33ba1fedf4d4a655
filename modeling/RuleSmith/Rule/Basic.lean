import RuleSmith.Reference

/-!
# Requests, sources and records

A rule is asked for by a `Request`, written down from a `Source`, and seen again by a scan as a
`Record`. A record has everything of a source but the condition, which compiled rules do not keep.
-/

namespace RuleSmith

structure Artifact where
  content : String
  id : String
  kind : String
deriving DecidableEq, Inhabited

structure Request where
  rule : String
  tags : List String
  metadata : InsertionMap String String
  artifacts : InsertionMap String Artifact
  condition : String
deriving DecidableEq, Inhabited

/-- What a rule is written down from; a part that is absent is not written. -/
structure Source where
  rule : String
  tags : Option (List String)
  metadata : Option (InsertionMap String String)
  strings : Option Patterns
  condition : String
deriving DecidableEq, Inhabited

structure Record where
  rule : String
  scope : String
  tags : List String
  metadata : InsertionMap String String
  strings : Patterns
  condition : String
  applies : Bool
deriving DecidableEq, Inhabited

def Request.patterns (request : Request) : Patterns :=
  .ofList (request.artifacts.toList.map fun entry => (entry.1, entry.2.content))

def Request.toSource (request : Request) (name : String) : Source where
  rule := name
  tags := some request.tags
  metadata := some request.metadata
  strings := some request.patterns
  condition := request.condition

def Record.withCondition (record : Record) (condition : String) : Record :=
  { record with condition }

def Record.toSource (record : Record) : Source where
  rule := record.rule
  tags := some record.tags
  metadata := some record.metadata
  strings := some record.strings
  condition := record.condition

end RuleSmith
