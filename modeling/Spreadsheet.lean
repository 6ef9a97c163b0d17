import Spreadsheet.Calendar.Gregorian
import Spreadsheet.Calendar.Serial
import Spreadsheet.Cell.Basic
import Spreadsheet.Cell.ErrorCode
import Spreadsheet.Cell.RowStore
import Spreadsheet.Cell.Store
import Spreadsheet.Cell.Value
import Spreadsheet.CommandLine.Arguments
import Spreadsheet.CommandLine.Run
import Spreadsheet.Data.Halt
import Spreadsheet.Data.InPlace
import Spreadsheet.Data.ListCount
import Spreadsheet.Eval.Aggregate
import Spreadsheet.Eval.Call
import Spreadsheet.Eval.Compare
import Spreadsheet.Eval.Evaluate
import Spreadsheet.Eval.Logic
import Spreadsheet.Eval.Lookup
import Spreadsheet.Eval.Operator
import Spreadsheet.Eval.TextPart
import Spreadsheet.Eval.Value
import Spreadsheet.Formula.Builtin
import Spreadsheet.Formula.Expr
import Spreadsheet.Formula.Fault
import Spreadsheet.Formula.InWords
import Spreadsheet.Formula.Lexer
import Spreadsheet.Formula.Move
import Spreadsheet.Formula.Parser
import Spreadsheet.Formula.Token
import Spreadsheet.Graph.AnyOrder
import Spreadsheet.Graph.Basic
import Spreadsheet.Graph.Countdown
import Spreadsheet.Graph.Levels
import Spreadsheet.Graph.Reach
import Spreadsheet.Graph.Search
import Spreadsheet.Grid.Column
import Spreadsheet.Grid.Fault
import Spreadsheet.Grid.InWords
import Spreadsheet.Grid.Limits
import Spreadsheet.Grid.LineEdit
import Spreadsheet.Grid.Position
import Spreadsheet.Grid.Range
import Spreadsheet.Grid.Reference
import Spreadsheet.Json.Basic
import Spreadsheet.Json.Parser
import Spreadsheet.Json.Record
import Spreadsheet.Json.Token
import Spreadsheet.Main
import Spreadsheet.Number.Binary64
import Spreadsheet.Number.Fixed
import Spreadsheet.Number.Notation
import Spreadsheet.Number.Shortest
import Spreadsheet.Proofs.Calendar.Gregorian
import Spreadsheet.Proofs.Calendar.Serial
import Spreadsheet.Proofs.Cell.Composition
import Spreadsheet.Proofs.Cell.FiniteMap
import Spreadsheet.Proofs.Cell.Lines
import Spreadsheet.Proofs.Cell.Listing
import Spreadsheet.Proofs.Cell.RowStore
import Spreadsheet.Proofs.Cell.Store
import Spreadsheet.Proofs.CommandLine.Printed
import Spreadsheet.Proofs.Data.InPlace
import Spreadsheet.Proofs.Data.Maps
import Spreadsheet.Proofs.Data.Outcome
import Spreadsheet.Proofs.Eval.Comparison
import Spreadsheet.Proofs.Eval.Dates
import Spreadsheet.Proofs.Eval.Dependence
import Spreadsheet.Proofs.Eval.Errors
import Spreadsheet.Proofs.Eval.FiniteValues
import Spreadsheet.Proofs.Eval.Locality
import Spreadsheet.Proofs.Eval.LookupAgreement
import Spreadsheet.Proofs.Eval.Matching
import Spreadsheet.Proofs.Eval.Order
import Spreadsheet.Proofs.Eval.Parts
import Spreadsheet.Proofs.Eval.Shifting
import Spreadsheet.Proofs.Eval.Tables
import Spreadsheet.Proofs.Eval.Termination
import Spreadsheet.Proofs.Eval.TrappedErrors
import Spreadsheet.Proofs.Formula.Acceptance
import Spreadsheet.Proofs.Formula.CanonicalText
import Spreadsheet.Proofs.Formula.Completeness
import Spreadsheet.Proofs.Formula.Composition
import Spreadsheet.Proofs.Formula.Derivations
import Spreadsheet.Proofs.Formula.Descent
import Spreadsheet.Proofs.Formula.Grammar
import Spreadsheet.Proofs.Formula.InWords
import Spreadsheet.Proofs.Formula.Lexemes
import Spreadsheet.Proofs.Formula.LexicalGrammar
import Spreadsheet.Proofs.Formula.Lexing
import Spreadsheet.Proofs.Formula.RoundTrip
import Spreadsheet.Proofs.Formula.Shifting
import Spreadsheet.Proofs.Formula.Soundness
import Spreadsheet.Proofs.Formula.SpacedText
import Spreadsheet.Proofs.Formula.WellFormed
import Spreadsheet.Proofs.Graph.AnyOrder
import Spreadsheet.Proofs.Graph.Countdown
import Spreadsheet.Proofs.Graph.CycleCheck
import Spreadsheet.Proofs.Graph.EdgeSets
import Spreadsheet.Proofs.Graph.Edges
import Spreadsheet.Proofs.Graph.Layers
import Spreadsheet.Proofs.Graph.LongestChains
import Spreadsheet.Proofs.Graph.Reachability
import Spreadsheet.Proofs.Grid.Axes
import Spreadsheet.Proofs.Grid.Bounds
import Spreadsheet.Proofs.Grid.CanonicalReference
import Spreadsheet.Proofs.Grid.Composition
import Spreadsheet.Proofs.Grid.Expansion
import Spreadsheet.Proofs.Grid.InWords
import Spreadsheet.Proofs.Grid.Maps
import Spreadsheet.Proofs.Grid.MovedRanges
import Spreadsheet.Proofs.Grid.ReferenceText
import Spreadsheet.Proofs.Grid.ReferenceWords
import Spreadsheet.Proofs.Grid.Shifting
import Spreadsheet.Proofs.Json.Lexemes
import Spreadsheet.Proofs.Json.RoundTrip
import Spreadsheet.Proofs.Number.Counts
import Spreadsheet.Proofs.Number.Fields
import Spreadsheet.Proofs.Number.Finite
import Spreadsheet.Proofs.Number.Integers
import Spreadsheet.Proofs.Number.Magnitude
import Spreadsheet.Proofs.Number.Order
import Spreadsheet.Proofs.Number.Text
import Spreadsheet.Proofs.Session.Cancellation
import Spreadsheet.Proofs.Session.Consistency
import Spreadsheet.Proofs.Session.Crash
import Spreadsheet.Proofs.Session.Evaluation
import Spreadsheet.Proofs.Session.FiniteValues
import Spreadsheet.Proofs.Session.InWords
import Spreadsheet.Proofs.Session.Independence
import Spreadsheet.Proofs.Session.Invariant
import Spreadsheet.Proofs.Session.LineEdits
import Spreadsheet.Proofs.Session.Refusal
import Spreadsheet.Proofs.Session.Regularity
import Spreadsheet.Proofs.Session.Reload
import Spreadsheet.Proofs.Session.Restorable
import Spreadsheet.Proofs.Session.Stacks
import Spreadsheet.Proofs.Session.Stored
import Spreadsheet.Proofs.Session.Tracking
import Spreadsheet.Proofs.Session.Truthfulness
import Spreadsheet.Proofs.Session.Undo
import Spreadsheet.Proofs.Sheet.Determined
import Spreadsheet.Proofs.Sheet.Entries
import Spreadsheet.Proofs.Sheet.Extent
import Spreadsheet.Proofs.Sheet.FiniteValues
import Spreadsheet.Proofs.Sheet.InPlace
import Spreadsheet.Proofs.Sheet.InWords
import Spreadsheet.Proofs.Sheet.MatrixRuns
import Spreadsheet.Proofs.Sheet.Rebuilding
import Spreadsheet.Proofs.Sheet.Recalculation
import Spreadsheet.Proofs.Sheet.Restoring
import Spreadsheet.Proofs.Sheet.Runs
import Spreadsheet.Proofs.Sheet.SameWiring
import Spreadsheet.Proofs.Sheet.Shifting
import Spreadsheet.Proofs.Sheet.Sound
import Spreadsheet.Proofs.Sheet.Standing
import Spreadsheet.Proofs.Sheet.StoredByRows
import Spreadsheet.Proofs.Sheet.Texts
import Spreadsheet.Proofs.Sheet.Tidy
import Spreadsheet.Proofs.Sheet.Values
import Spreadsheet.Proofs.Sheet.Wiring
import Spreadsheet.Proofs.Text.Characters
import Spreadsheet.Proofs.Text.Delimited
import Spreadsheet.Session.Basic
import Spreadsheet.Session.InPlace
import Spreadsheet.Session.InWords
import Spreadsheet.Session.Operation
import Spreadsheet.Session.Stored
import Spreadsheet.Sheet.Basic
import Spreadsheet.Sheet.History
import Spreadsheet.Sheet.InPlace
import Spreadsheet.Sheet.InWords
import Spreadsheet.Sheet.Matrix
import Spreadsheet.Sheet.Recalc
import Spreadsheet.Sheet.Snapshot
import Spreadsheet.Sheet.Wiring
import Spreadsheet.Text.Blank
import Spreadsheet.Text.Case
import Spreadsheet.Text.CaseTable
import Spreadsheet.Text.Delimited
import Spreadsheet.Text.HiddenTable
import Spreadsheet.Text.Quoted
import Spreadsheet.Text.Runs
