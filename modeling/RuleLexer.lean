import RuleLexer.Journal
import RuleLexer.Main
import RuleLexer.Proofs.Clause.Literal
import RuleLexer.Proofs.Clause.Grammar
import RuleLexer.Proofs.Clause.Cover
import RuleLexer.Proofs.Clause.Printing
import RuleLexer.Proofs.Clause.Escape
import RuleLexer.Proofs.Value
import RuleLexer.Proofs.Specification.Printing
import RuleLexer.Proofs.Specification.Composition
import RuleLexer.Proofs.Specification.Literals
import RuleLexer.Proofs.Specification.LineEnd
import RuleLexer.Proofs.Specification.TrailingBlank
import RuleLexer.Proofs.Rule.Test
import RuleLexer.Proofs.Rule.Binding
import RuleLexer.Proofs.Rule.Join
import RuleLexer.Proofs.Rule.Source
import RuleLexer.Proofs.Rule.LeadingTag
import RuleLexer.Proofs.Rule.Printing
import RuleLexer.Proofs.Conservation
import RuleLexer.Proofs.Invariant
import RuleLexer.Proofs.Emission
import RuleLexer.Proofs.Failure
import RuleLexer.Proofs.WellFormed
import RuleLexer.Proofs.Errors
import RuleLexer.Proofs.Moments
import RuleLexer.Proofs.Journal
import RuleLexer.Proofs.Unmatched
import RuleLexer.Proofs.Tags
import RuleLexer.Proofs.Scan.Stream
import RuleLexer.Proofs.Scan.Simulation
import RuleLexer.Proofs.Scan.Causality
import RuleLexer.Proofs.Scan.Counters
import RuleLexer.Proofs.Scan.Boundary
import RuleLexer.Proofs.Scan.Skip
import RuleLexer.Proofs.Scan.Overflow
import RuleLexer.Proofs.Report
import RuleLexer.Proofs.Pattern
import RuleLexer.Proofs.TagNames
import RuleLexer.Proofs.Output
