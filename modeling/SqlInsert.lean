import SqlInsert.Text.Character
import SqlInsert.Text.Lines
import SqlInsert.Text.Case
import SqlInsert.Number.Basic
import SqlInsert.Calendar.Reading
import SqlInsert.Calendar.Basic
import SqlInsert.Tree.Outline
import SqlInsert.Tree.Basic
import SqlInsert.Tree.Edit
import SqlInsert.Render.Node
import SqlInsert.Value.Inspect
import SqlInsert.Value.Equality
import SqlInsert.Recognition.Resolve
import SqlInsert.Insert.Recognition
import SqlInsert.Console.Markup
import SqlInsert.Console.Frame
import SqlInsert.Console.Report
import SqlInsert.Journal.Registry
import SqlInsert.Sql.Lexer
import SqlInsert.Sql.Statement
import SqlInsert.Insert.Acceptance
import SqlInsert.CommandLine.Program
import SqlInsert.Main
import SqlInsert.Proofs.Outcome
import SqlInsert.Proofs.Preorder
import SqlInsert.Proofs.Numbering
import SqlInsert.Proofs.Resolution
import SqlInsert.Proofs.RowDecision
import SqlInsert.Proofs.RowNumbering
import SqlInsert.Proofs.Names
import SqlInsert.Proofs.Recognition
import SqlInsert.Proofs.Digits
import SqlInsert.Proofs.CalendarText
import SqlInsert.Proofs.DecimalText
import SqlInsert.Json.Reading
import SqlInsert.Proofs.ValueIdentity
import SqlInsert.Proofs.JsonRoundTrip
import SqlInsert.Proofs.Telling
import SqlInsert.Proofs.Markup
import SqlInsert.Proofs.PlainText
import SqlInsert.Proofs.StyledText
import SqlInsert.Proofs.ReportText
import SqlInsert.Proofs.Batch
import SqlInsert.Proofs.Acceptance
import SqlInsert.Proofs.FileText
import SqlInsert.Proofs.Files
import SqlInsert.Proofs.Command
import SqlInsert.Proofs.InputRoutes
import SqlInsert.Proofs.Indices
import SqlInsert.Proofs.Reporting
import SqlInsert.Proofs.LazySetup
import SqlInsert.Proofs.NumberReading
import SqlInsert.Proofs.Negation
import SqlInsert.Proofs.FieldReading
import SqlInsert.Proofs.WeekDates
import SqlInsert.Proofs.DateForms
import SqlInsert.Proofs.CalendarReading
import SqlInsert.Proofs.TemporalCast
import SqlInsert.Proofs.Unquoting
import SqlInsert.Proofs.ColumnNames
import SqlInsert.Proofs.Delimiting
import SqlInsert.Proofs.TargetNames
import SqlInsert.Proofs.NameLists
import SqlInsert.Proofs.RowText
