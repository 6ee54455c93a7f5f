import CoreWar.Assembler.Basic
import CoreWar.Assembler.Cause
import CoreWar.Assembler.Equates
import CoreWar.Assembler.Program
import CoreWar.Battle.Basic
import CoreWar.Battle.Load
import CoreWar.Battle.Run
import CoreWar.Cell.Basic
import CoreWar.Cell.Mode
import CoreWar.Cell.Opcode
import CoreWar.Command.Basic
import CoreWar.Command.Options
import CoreWar.Core.Basic
import CoreWar.Core.Defines
import CoreWar.Expression.Basic
import CoreWar.Expression.Interpreter
import CoreWar.Expression.Name
import CoreWar.Machine.Basic
import CoreWar.Machine.Fault
import CoreWar.Machine.Step
import CoreWar.Main
import CoreWar.Player
import CoreWar.Proofs.Assembler.Coincidence
import CoreWar.Proofs.Assembler.Defines
import CoreWar.Proofs.Assembler.Disassembly
import CoreWar.Proofs.Assembler.Endings
import CoreWar.Proofs.Assembler.Equates
import CoreWar.Proofs.Assembler.Grammar
import CoreWar.Proofs.Assembler.Independence
import CoreWar.Proofs.Assembler.Legal
import CoreWar.Proofs.Assembler.Outcome
import CoreWar.Proofs.Assembler.Progress
import CoreWar.Proofs.Assembler.Reading
import CoreWar.Proofs.Assembler.Traces
import CoreWar.Proofs.Assembler.Transparency
import CoreWar.Proofs.Battle.Alternation
import CoreWar.Proofs.Battle.Bookkeeping
import CoreWar.Proofs.Battle.Consistency
import CoreWar.Proofs.Battle.Legality
import CoreWar.Proofs.Battle.Load
import CoreWar.Proofs.Battle.Mirror
import CoreWar.Proofs.Battle.Offset
import CoreWar.Proofs.Battle.Origins
import CoreWar.Proofs.Battle.Ownership
import CoreWar.Proofs.Battle.Placement
import CoreWar.Proofs.Battle.Pointer
import CoreWar.Proofs.Battle.Request
import CoreWar.Proofs.Battle.Rotation
import CoreWar.Proofs.Battle.Simulation
import CoreWar.Proofs.Battle.Stalemate
import CoreWar.Proofs.Battle.Tick
import CoreWar.Proofs.Cell.Legal
import CoreWar.Proofs.Cell.Render
import CoreWar.Proofs.Command.Match
import CoreWar.Proofs.Core.Address
import CoreWar.Proofs.Core.Span
import CoreWar.Proofs.Expression.Mention
import CoreWar.Proofs.Expression.Name
import CoreWar.Proofs.Machine.Bounds
import CoreWar.Proofs.Machine.Fault
import CoreWar.Proofs.Machine.Footprint
import CoreWar.Proofs.Machine.Rotation
import CoreWar.Proofs.Machine.Step
import CoreWar.Proofs.Machine.Table
import CoreWar.Proofs.Report.CoreMap
import CoreWar.Proofs.Report.Summary
import CoreWar.Proofs.Script.Comparison
import CoreWar.Proofs.Script.Identifier
import CoreWar.Proofs.Script.Tokens
import CoreWar.Proofs.Source.Expansion
import CoreWar.Proofs.Source.Grammar
import CoreWar.Proofs.Source.Line
import CoreWar.Proofs.Source.Lines
import CoreWar.Proofs.Source.SinglePass
import CoreWar.Proofs.Source.Template
import CoreWar.Proofs.Text.Decimal
import CoreWar.Proofs.Text.Glyph
import CoreWar.Proofs.Text.Numeral
import CoreWar.Random.Pcg
import CoreWar.Report.CoreMap
import CoreWar.Report.Delivery
import CoreWar.Report.Log
import CoreWar.Report.Summary
import CoreWar.Script.Arguments
import CoreWar.Script.Bits
import CoreWar.Script.Call
import CoreWar.Script.Compare
import CoreWar.Script.DecimalForm
import CoreWar.Script.Digits
import CoreWar.Script.Display
import CoreWar.Script.Eval
import CoreWar.Script.Fault
import CoreWar.Script.FloatText
import CoreWar.Script.Floating
import CoreWar.Script.Interpreter
import CoreWar.Script.Lexer
import CoreWar.Script.Literal
import CoreWar.Script.Number
import CoreWar.Script.Operation
import CoreWar.Script.Parser
import CoreWar.Script.Pattern
import CoreWar.Script.Scope
import CoreWar.Script.Suggestion
import CoreWar.Script.Term
import CoreWar.Script.Token
import CoreWar.Script.Value
import CoreWar.Source.Expansion
import CoreWar.Source.Line
import CoreWar.Source.Lines
import CoreWar.Text.Basic
import CoreWar.Text.Characters
import CoreWar.Text.Decimal
import CoreWar.Text.Glyph
import CoreWar.Text.Letter
import CoreWar.Text.Message
import CoreWar.Text.Numeral
import CoreWar.Text.Printable
import CoreWar.Text.Quoted
import CoreWar.Text.SmallLetter
import CoreWar.Text.Unicode
import CoreWar.Word
