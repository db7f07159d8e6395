import TapeAutomaton.Analysis
import TapeAutomaton.Cli.Arguments
import TapeAutomaton.Cli.Input
import TapeAutomaton.Cli.Report
import TapeAutomaton.Cli.Session
import TapeAutomaton.Cli.Similarity
import TapeAutomaton.Decimal.Binary64
import TapeAutomaton.Decimal.Shortest
import TapeAutomaton.Direction
import TapeAutomaton.Fault
import TapeAutomaton.FileTree
import TapeAutomaton.Json.Cursor
import TapeAutomaton.Json.Doc
import TapeAutomaton.Json.Failure
import TapeAutomaton.Json.Frame
import TapeAutomaton.Json.Scalar
import TapeAutomaton.Json.Strings
import TapeAutomaton.Machine.Basic
import TapeAutomaton.Main
import TapeAutomaton.Program.Basic
import TapeAutomaton.Program.Document
import TapeAutomaton.Program.Files
import TapeAutomaton.Program.Render
import TapeAutomaton.Proofs.Composition
import TapeAutomaton.Proofs.Refinement
import TapeAutomaton.Proofs.TapeLaws
import TapeAutomaton.Registry
import TapeAutomaton.StepBudget
import TapeAutomaton.Table.Basic
import TapeAutomaton.Table.Document
import TapeAutomaton.Table.Raw
import TapeAutomaton.Tape
import TapeAutomaton.Text.Blank
import TapeAutomaton.Text.Case
import TapeAutomaton.Text.CodeRanges
import TapeAutomaton.Text.ExtendingMark
import TapeAutomaton.Text.Printable
import TapeAutomaton.Text.Quoted
import TapeAutomaton.Proofs.Lockstep
import TapeAutomaton.Proofs.Reachable
import TapeAutomaton.Proofs.WrittenTables
import TapeAutomaton.Proofs.Restart
import TapeAutomaton.Proofs.Warnings
import TapeAutomaton.Proofs.Reading
import TapeAutomaton.Proofs.ProgramDocuments
import TapeAutomaton.Proofs.OneStep
import TapeAutomaton.Proofs.TableQueries
import TapeAutomaton.Proofs.TableFaults
import TapeAutomaton.Proofs.Insertion
import TapeAutomaton.Proofs.BudgetText
import TapeAutomaton.Proofs.WarningLists
import TapeAutomaton.Proofs.Trace
import TapeAutomaton.Proofs.Sweeps
import TapeAutomaton.Proofs.Builtin
import TapeAutomaton.Proofs.ZeroFill
import TapeAutomaton.Proofs.BinaryIncrement
import TapeAutomaton.Tape.Word
import TapeAutomaton.Table.Nested
import TapeAutomaton.Proofs.IndexBounds
import TapeAutomaton.Proofs.NestedTables
