import MissionLint.Text.Utf8
import MissionLint.Text.Alphanumeric
import MissionLint.Text.WordCharacter
import MissionLint.Text.Uppercase
import MissionLint.Table
import MissionLint.Numeral.Shortest
import MissionLint.Numeral.Decimal
import MissionLint.Numeral.Number
import MissionLint.Data.Printer
import MissionLint.Data.Reader
import MissionLint.Script.Rule
import MissionLint.Script.Outline
import MissionLint.EventGraph.Dot
import MissionLint.EventGraph.Cycle
import MissionLint.Analysis.Lock
import MissionLint.Analysis.Machine
import MissionLint.Analysis.Load
import MissionLint.Analysis.Deadlock
import MissionLint.Section.Reader
import MissionLint.Report.Suppression
import MissionLint.Checker.Run
import MissionLint.Command.FileTree
import MissionLint.Main
import MissionLint.Proofs.EventGraph.Cycles
import MissionLint.Proofs.Section.Attribution
import MissionLint.Proofs.Checker.Verdict
import MissionLint.Proofs.EventGraph.Representation
import MissionLint.Proofs.Script.Ownership
import MissionLint.Proofs.Numeral.Conversion
import MissionLint.Proofs.Script.Literal
import MissionLint.Proofs.Analysis.Failure
import MissionLint.Proofs.Script.TrailingSpace
import MissionLint.Proofs.Analysis.Bare
import MissionLint.Proofs.Analysis.StateName
import MissionLint.Proofs.Report.Marker
import MissionLint.Proofs.Checker.Marked
import MissionLint.Proofs.EventGraph.Nodes
import MissionLint.Proofs.Checker.Independence
import MissionLint.Proofs.Analysis.LockIdiom
import MissionLint.Proofs.Analysis.Reconstruction
import MissionLint.Proofs.Script.Relabelling
import MissionLint.Proofs.Script.Concatenation
import MissionLint.Proofs.Analysis.Modularity
import MissionLint.Proofs.Analysis.BlockOrder
import MissionLint.Proofs.Analysis.Comments
import MissionLint.Proofs.Section.Variables
import MissionLint.Proofs.Analysis.Load
import MissionLint.Proofs.Settings.Usable
import MissionLint.Proofs.Checker.Suppressed
import MissionLint.Proofs.Analysis.Origin
import MissionLint.Proofs.Checker.Locations
import MissionLint.Proofs.Script.Tail
import MissionLint.Proofs.Script.Remainder
import MissionLint.Proofs.Script.Leftmost
import MissionLint.Proofs.Script.Identifier
import MissionLint.Proofs.Script.Accounting
import MissionLint.Proofs.Script.Parenthesis
import MissionLint.Proofs.Script.ClauseLine
import MissionLint.Proofs.Analysis.ClauseLoad
import MissionLint.Proofs.Analysis.Contention
import MissionLint.Proofs.Script.TriggerLine
import MissionLint.Proofs.Script.GuardClause
import MissionLint.Proofs.Analysis.GuardLoad
import MissionLint.Proofs.Script.Statement
import MissionLint.Proofs.Script.WholeLine
import MissionLint.Proofs.EventGraph.Recursion
import MissionLint.Proofs.Analysis.Reachability
import MissionLint.Proofs.Numeral.Overflow
import MissionLint.Proofs.Section.Loading
import MissionLint.Proofs.Settings.Loading
import MissionLint.Proofs.EventGraph.Drawing
import MissionLint.Proofs.EventGraph.Lossless
import MissionLint.Proofs.Script.VariableTable
import MissionLint.Proofs.Script.WholeWord
import MissionLint.Proofs.Analysis.RelatedEvents
import MissionLint.Proofs.Script.CommentSplit
import MissionLint.Proofs.Script.WordSearch
import MissionLint.Proofs.Text.OneLine
import MissionLint.Proofs.Analysis.Fault
import MissionLint.Proofs.Analysis.Naming
import MissionLint.Proofs.Checker.Listing
