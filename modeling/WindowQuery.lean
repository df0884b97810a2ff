import WindowQuery.Number.Binary64
import WindowQuery.Number.Decimal
import WindowQuery.Text.Case
import WindowQuery.Text.CaseTable
import WindowQuery.Text.PrintTable
import WindowQuery.Text.Quoted
import WindowQuery.Kind
import WindowQuery.Cell.Basic
import WindowQuery.Cell.Order
import WindowQuery.Cell.Shift
import WindowQuery.Frame.Offset
import WindowQuery.QueryError
import WindowQuery.Column.Basic
import WindowQuery.Column.Write
import WindowQuery.Column.InPlace
import WindowQuery.Table.Basic
import WindowQuery.Frame.Basic
import WindowQuery.Window
import WindowQuery.Span
import WindowQuery.Partition
import WindowQuery.View.Runs
import WindowQuery.View.Basic
import WindowQuery.View.Sort
import WindowQuery.View.Frame
import WindowQuery.View.Search
import WindowQuery.Function.Basic
import WindowQuery.Function.Numeric
import WindowQuery.Function.Compute
import WindowQuery.Registry
import WindowQuery.Catalog
import WindowQuery.Expression
import WindowQuery.Schedule
import WindowQuery.Evaluation
import WindowQuery.Cancellation
import WindowQuery.Table.Summary
import WindowQuery.Cell.Fingerprint
import WindowQuery.Cell.Hashing
import WindowQuery.Grouping
import WindowQuery.Proofs.Steps
import WindowQuery.Proofs.Cell.Preorder
import WindowQuery.Proofs.Sort.Stable
import WindowQuery.Proofs.View.Runs
import WindowQuery.Proofs.View.Sorted
import WindowQuery.Proofs.View.Search
import WindowQuery.Proofs.Frame.Range
import WindowQuery.Proofs.Frame.Distance
import WindowQuery.Proofs.Column.Scatter
import WindowQuery.Proofs.Function.Segment
import WindowQuery.Proofs.Partition.Quotient
import WindowQuery.Proofs.Table.Indexed
import WindowQuery.Proofs.Table.Restrict
import WindowQuery.Proofs.Partition.Alike
import WindowQuery.Proofs.Function.Alike
import WindowQuery.Proofs.Evaluation.Gather
import WindowQuery.Proofs.Partition.Groups
import WindowQuery.Proofs.Evaluation.Locality
import WindowQuery.Proofs.Function.Extreme
import WindowQuery.Proofs.Function.Prefix
import WindowQuery.Proofs.Function.Totals
import WindowQuery.Proofs.Evaluation.Running
import WindowQuery.Proofs.View.Lexicographic
import WindowQuery.Proofs.Evaluation.Outcome
import WindowQuery.Proofs.Frame.Covers
import WindowQuery.Proofs.View.Numbering
import WindowQuery.Proofs.Frame.Matching
import WindowQuery.Proofs.Frame.Mirror
import WindowQuery.Proofs.Function.Ranking
import WindowQuery.Proofs.Partition.Reorder
import WindowQuery.Proofs.Evaluation.Reorder
import WindowQuery.Proofs.Partition.Classes
import WindowQuery.Proofs.Frame.Inverted
import WindowQuery.Proofs.Evaluation.Ranking
import WindowQuery.Proofs.Evaluation.Schema
import WindowQuery.Proofs.Frame.Rows
import WindowQuery.Proofs.Frame.Groups
import WindowQuery.Proofs.Frame.Sliding
import WindowQuery.Proofs.Evaluation.Several
import WindowQuery.Proofs.Function.Direct
import WindowQuery.Proofs.Function.Doubles
import WindowQuery.Proofs.Frame.Failing
import WindowQuery.Proofs.View.Successive
import WindowQuery.Proofs.Column.Writing
import WindowQuery.Proofs.Column.InPlace
import WindowQuery.Proofs.Function.Fill
import WindowQuery.Proofs.View.TieGroups
import WindowQuery.Proofs.View.Flipped
import WindowQuery.Proofs.Function.Flipped
import WindowQuery.Proofs.Function.Reading
import WindowQuery.Proofs.Function.Places
import WindowQuery.Proofs.Function.Tiles
import WindowQuery.Proofs.Function.LeastGreatest
import WindowQuery.Proofs.Number.Bits
import WindowQuery.Proofs.Number.Rounding
import WindowQuery.Proofs.Cell.Numbers
import WindowQuery.Proofs.Cell.Coherence
import WindowQuery.Proofs.Column.Series
import WindowQuery.Proofs.Table.History
import WindowQuery.Proofs.View.Division
import WindowQuery.Proofs.Registry.History
import WindowQuery.Proofs.Catalog.Grammar
import WindowQuery.Proofs.Evaluation.Unstopped
import WindowQuery.Proofs.Cancellation.Pass
import WindowQuery.Proofs.Cancellation.Sharing
