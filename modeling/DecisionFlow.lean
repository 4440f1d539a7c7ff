import DecisionFlow.CommandLine.Program
import DecisionFlow.Expr.Json
import DecisionFlow.Expr.Printer
import DecisionFlow.Main
import DecisionFlow.Value.Display
import DecisionFlow.Proofs.Eval.Truth
import DecisionFlow.Proofs.Expr.Induction
import DecisionFlow.Proofs.Eval.Simplify
import DecisionFlow.Proofs.Rule.Contents
import DecisionFlow.Proofs.Walk.Simplified
import DecisionFlow.Proofs.Source.Plain
import DecisionFlow.Proofs.Walk.Path
import DecisionFlow.Proofs.Walk.Resume
import DecisionFlow.Proofs.Source.Frames
import DecisionFlow.Proofs.Source.Nesting
import DecisionFlow.Proofs.Source.Printable
import DecisionFlow.Proofs.Source.Printed
import DecisionFlow.Proofs.Source.Continuation
import DecisionFlow.Proofs.Source.RoundTrip
import DecisionFlow.Proofs.Source.Printing
import DecisionFlow.Proofs.Source.Operation
import DecisionFlow.Proofs.Source.Layout
import DecisionFlow.Proofs.Source.Tail
import DecisionFlow.Proofs.Source.Locality
import DecisionFlow.Proofs.Source.Parenthesised
import DecisionFlow.Proofs.Rule.LastDefinition
import DecisionFlow.Proofs.Rule.FirstFailure
import DecisionFlow.Proofs.Walk.Lookups
import DecisionFlow.Proofs.Expr.Depth
import DecisionFlow.Proofs.Json.Strings
import DecisionFlow.Proofs.Json.Numerals
import DecisionFlow.Proofs.Json.RoundTrip
import DecisionFlow.Proofs.Rule.Canonical
import DecisionFlow.Proofs.Walk.Trace
import DecisionFlow.Proofs.Expr.RoundTrip
import DecisionFlow.Proofs.Expr.Growth
import DecisionFlow.Proofs.Source.Trees
import DecisionFlow.Proofs.Source.Depth
import DecisionFlow.Proofs.Eval.Mentions
import DecisionFlow.Proofs.Rule.Fingerprint
import DecisionFlow.Proofs.Value.Reordered
import DecisionFlow.Proofs.Eval.Reordered
import DecisionFlow.Proofs.Walk.Records
import DecisionFlow.Proofs.Source.Spacing
import DecisionFlow.Proofs.Source.Phrases
import DecisionFlow.Proofs.Source.Brackets
import DecisionFlow.Proofs.Source.Openings
import DecisionFlow.Proofs.Walk.Turns
import DecisionFlow.Proofs.Walk.Observed
import DecisionFlow.Proofs.Walk.Larger
import DecisionFlow.Proofs.Rule.Fields
import DecisionFlow.Proofs.Rule.RoundTrip
import DecisionFlow.Proofs.Yaml.Equality
import DecisionFlow.Proofs.Rule.Respelling
import DecisionFlow.Proofs.Number.Nearness
import DecisionFlow.Proofs.Value.Formed
import DecisionFlow.Proofs.Eval.Formed
import DecisionFlow.Proofs.Eval.Membership
import DecisionFlow.Proofs.Eval.Integers
import DecisionFlow.Proofs.Source.Integers
import DecisionFlow.Proofs.Eval.Causes
import DecisionFlow.Proofs.Walk.Causes
import DecisionFlow.Proofs.Eval.Divisors
import DecisionFlow.Proofs.Eval.Renaming
import DecisionFlow.Proofs.Eval.Methods
import DecisionFlow.Proofs.Eval.Template
import DecisionFlow.Proofs.Expr.Negations
import DecisionFlow.Proofs.Expr.DeadBranches
import DecisionFlow.Proofs.Number.Unsigned
import DecisionFlow.Proofs.Source.Nodes
import DecisionFlow.Proofs.Source.TextLiterals
import DecisionFlow.Proofs.Source.Uncounted
import DecisionFlow.Proofs.Source.Passes
import DecisionFlow.Proofs.Source.Progress
import DecisionFlow.Proofs.Source.Escapes
import DecisionFlow.Proofs.Walk.Recording
