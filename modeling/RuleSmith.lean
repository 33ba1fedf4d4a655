import RuleSmith.Engine.Script
import RuleSmith.Main
import RuleSmith.Proofs.RoundTrip
import RuleSmith.Proofs.Identifier.Cleaned
import RuleSmith.Proofs.Files.Frame
import RuleSmith.Proofs.Rule.Unambiguous
import RuleSmith.Proofs.Effect
import RuleSmith.Proofs.Containment
import RuleSmith.Proofs.Pairing
import RuleSmith.Proofs.Decision
import RuleSmith.Proofs.InsertionMap.History
import RuleSmith.Proofs.Store.Tables
import RuleSmith.Proofs.Json.Texts
import RuleSmith.Proofs.Json.Rows
import RuleSmith.Proofs.Json.Numbers
import RuleSmith.Proofs.Json.Printing
import RuleSmith.Proofs.Rule.Json
import RuleSmith.Proofs.Rule.Reference.Spans
import RuleSmith.Proofs.Rule.Unreferenced
import RuleSmith.Proofs.Language.Denotation
import RuleSmith.Proofs.Store.AllOrNothing
import RuleSmith.Proofs.Engine.Callback
import RuleSmith.Proofs.Loading
import RuleSmith.Proofs.Tolerance
import RuleSmith.Proofs.Cause
import RuleSmith.Proofs.Logging
import RuleSmith.Proofs.CommandLine.Recover
import RuleSmith.Proofs.Json.Grammar
import RuleSmith.Proofs.Json.Agreement
import RuleSmith.Proofs.Json.Acceptance
import RuleSmith.Proofs.Rule.Parsing
import RuleSmith.Proofs.Text.Preview
