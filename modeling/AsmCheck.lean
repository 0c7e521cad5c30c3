import AsmCheck.Analysis.Basic
import AsmCheck.Analysis.Conventions
import AsmCheck.Analysis.Flow
import AsmCheck.Analysis.Instructions
import AsmCheck.Analysis.Issue
import AsmCheck.Analysis.Routine
import AsmCheck.Analysis.Symbols
import AsmCheck.Assist
import AsmCheck.Bindings
import AsmCheck.Command.Check
import AsmCheck.Command.Options
import AsmCheck.Diagnostic
import AsmCheck.Editor.Document
import AsmCheck.Editor.Highlight
import AsmCheck.Editor.Problems
import AsmCheck.Editor.Window
import AsmCheck.Fault
import AsmCheck.Folder
import AsmCheck.InstructionSet.Basic
import AsmCheck.InstructionSet.Bundled
import AsmCheck.InstructionSet.Load
import AsmCheck.InstructionSet.Schema
import AsmCheck.InstructionSet.Selection
import AsmCheck.Json.Basic
import AsmCheck.Json.Reader
import AsmCheck.Json.Writer
import AsmCheck.Log
import AsmCheck.Main
import AsmCheck.Numeral
import AsmCheck.Path
import AsmCheck.Program.Assembly
import AsmCheck.Program.Basic
import AsmCheck.Program.Display
import AsmCheck.Program.Memory
import AsmCheck.Program.Substitution
import AsmCheck.Proofs.Analysis.DataBlocks
import AsmCheck.Proofs.Analysis.Flow
import AsmCheck.Proofs.Analysis.Instructions
import AsmCheck.Proofs.Analysis.LongNumerals
import AsmCheck.Proofs.Analysis.Ranges
import AsmCheck.Proofs.Analysis.Reachability
import AsmCheck.Proofs.Analysis.Reports
import AsmCheck.Proofs.Analysis.Retexting
import AsmCheck.Proofs.Analysis.Returns
import AsmCheck.Proofs.Analysis.Routines
import AsmCheck.Proofs.Analysis.Stretches
import AsmCheck.Proofs.Assembly.Causality
import AsmCheck.Proofs.Assembly.DataValues
import AsmCheck.Proofs.Assembly.Names
import AsmCheck.Proofs.Assembly.OperandCount
import AsmCheck.Proofs.Assembly.Placement
import AsmCheck.Proofs.Assembly.Retexting
import AsmCheck.Proofs.Assembly.Run
import AsmCheck.Proofs.Assembly.Symbols
import AsmCheck.Proofs.Bindings
import AsmCheck.Proofs.Command.Exit
import AsmCheck.Proofs.Command.Printing
import AsmCheck.Proofs.Json.Writing
import AsmCheck.Proofs.Program.Evaluation
import AsmCheck.Proofs.Program.Operands
import AsmCheck.Proofs.Program.Plainness
import AsmCheck.Proofs.Program.Substitution
import AsmCheck.Proofs.Sequence
import AsmCheck.Proofs.Source.Columns
import AsmCheck.Proofs.Source.Comments
import AsmCheck.Proofs.Source.Evaluation
import AsmCheck.Proofs.Source.Lines
import AsmCheck.Proofs.Source.Literals
import AsmCheck.Proofs.Source.Names
import AsmCheck.Proofs.Source.Operands
import AsmCheck.Proofs.Source.Pieces
import AsmCheck.Proofs.Source.Retexting
import AsmCheck.Proofs.Source.Tokens
import AsmCheck.Proofs.Text.Ascii
import AsmCheck.Proofs.Text.Trimming
import AsmCheck.Proofs.TrailingComments
import AsmCheck.Source.Expression
import AsmCheck.Source.Line
import AsmCheck.Source.Literal
import AsmCheck.Source.Operands
import AsmCheck.Source.Piece
import AsmCheck.Source.Quote
import AsmCheck.Source.Statement
import AsmCheck.Text.Basic
import AsmCheck.Text.CodePoint
import AsmCheck.Text.Digit
import AsmCheck.Text.Printable
import AsmCheck.Text.Quoted
import AsmCheck.Text.Upper
import AsmCheck.Text.Word
import AsmCheck.Proofs.Editor.Publication
import AsmCheck.Proofs.InstructionSet.Schema
import AsmCheck.Proofs.InstructionSet.Selection
import AsmCheck.Proofs.Editor.Window
import AsmCheck.Proofs.Editor.WindowRuns
import AsmCheck.Proofs.Source.Sums
import AsmCheck.Proofs.Command.Faults
import AsmCheck.Proofs.Program.Composition
import AsmCheck.Proofs.Program.Repairs
import AsmCheck.Proofs.Program.DefinedNames
import AsmCheck.Proofs.Assembly.Sites
import AsmCheck.Proofs.Assembly.Labels
import AsmCheck.Proofs.Assembly.DataLabels
import AsmCheck.Proofs.Assembly.CodeLabels
import AsmCheck.Proofs.Program.Memory
import AsmCheck.Proofs.Assembly.Layout
import AsmCheck.Proofs.Assembly.ExecutableLines
import AsmCheck.Proofs.Assembly.Renumbering
import AsmCheck.Proofs.Analysis.CallSites
import AsmCheck.Proofs.Analysis.Symbols
import AsmCheck.Proofs.Source.Joining
import AsmCheck.Proofs.Editor.Lexemes
import AsmCheck.Proofs.Editor.Highlight
import AsmCheck.Proofs.Source.Numbers
import AsmCheck.Proofs.Program.Display
import AsmCheck.Proofs.WordRange
