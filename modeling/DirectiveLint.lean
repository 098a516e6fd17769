import DirectiveLint.DocumentStore
import DirectiveLint.Main
import DirectiveLint.Proofs.Directive.Pattern
import DirectiveLint.Proofs.Linter.Acceptance
import DirectiveLint.Proofs.Linter.Order
import DirectiveLint.Proofs.Linter.SpanEnds
import DirectiveLint.Proofs.Text.Lines
import DirectiveLint.Proofs.Linter.Document
import DirectiveLint.Proofs.Text.Order
import DirectiveLint.Proofs.Validator.Table
import DirectiveLint.Proofs.FlagTable.Names
import DirectiveLint.Proofs.Schema.Consistency
import DirectiveLint.Proofs.Database.Fallback
import DirectiveLint.Proofs.Database.Search
import DirectiveLint.Proofs.ValueShape.Mentions
import DirectiveLint.Proofs.Linter.Locality
import DirectiveLint.Proofs.DocumentStore.History
import DirectiveLint.Proofs.PathSet.Ascending
import DirectiveLint.Proofs.FileTree.Walk
import DirectiveLint.Proofs.Report.Collection
import DirectiveLint.Proofs.Report.Readable
import DirectiveLint.Proofs.CommandLine.Check
import DirectiveLint.Proofs.Validator.History
import DirectiveLint.Proofs.Flag.Encoding
import DirectiveLint.Proofs.Config.Reload
import DirectiveLint.Proofs.Validator.WholeMatch
import DirectiveLint.Proofs.ValueShape.Explanation
import DirectiveLint.Proofs.Linter.WrittenNames
import DirectiveLint.Proofs.Schema.KnownValidators
import DirectiveLint.Proofs.Linter.TableOrder
import DirectiveLint.Proofs.Validator.Override
import DirectiveLint.Proofs.Linter.Tag
import DirectiveLint.Proofs.Linter.LineEnds
import DirectiveLint.Proofs.Validator.Duration
import DirectiveLint.Proofs.Validator.PointInTime
import DirectiveLint.Proofs.Validator.NumberList
import DirectiveLint.Proofs.Validator.Offsets
import DirectiveLint.Proofs.ValueShape.Rearrangement
import DirectiveLint.Proofs.ValueShape.NestedLists
import DirectiveLint.Proofs.Report.Selection
