import InlineSql.Text.Blank
import InlineSql.Text.Combining
import InlineSql.Text.Escape
import InlineSql.Text.Invisible
import InlineSql.Text.Quoted
import InlineSql.Number.Layout
import InlineSql.Number.Leading
import InlineSql.Number.Parts
import InlineSql.Number.Shortest
import InlineSql.Timestamp
import InlineSql.Value.Basic
import InlineSql.Value.Conversion
import InlineSql.Value.Integer
import InlineSql.Record
import InlineSql.Flavor
import InlineSql.Escaper
import InlineSql.Dialect
import InlineSql.Literal
import InlineSql.Predicate
import InlineSql.Window
import InlineSql.Statement.Basic
import InlineSql.Statement.Clause
import InlineSql.Statement.Compiled
import InlineSql.Statement.Defect
import InlineSql.Connection
import InlineSql.Event
import InlineSql.Table
import InlineSql.DefaultFlavor
import InlineSql.Session
import InlineSql.Inspection
import InlineSql.Proofs.Scan.Alike
import InlineSql.Proofs.Scan.Containment
import InlineSql.Proofs.Literal.Reader
import InlineSql.Proofs.Reading.Legible
import InlineSql.Proofs.Statement.Intent
import InlineSql.Proofs.Statement.Written
import InlineSql.Proofs.Statement.Unambiguous
import InlineSql.Proofs.Statement.Validated
import InlineSql.Proofs.Statement.Gathered
import InlineSql.Proofs.Statement.Skeleton
import InlineSql.Proofs.Session.Traffic
import InlineSql.Proofs.Scan.EscapeString
import InlineSql.Proofs.Statement.TextCondition
import InlineSql.Proofs.Statement.LastingDefect
import InlineSql.Proofs.Statement.OwnParts
import InlineSql.Proofs.Literal.EscapedText
import InlineSql.Proofs.Session.Ledger
import InlineSql.Proofs.Statement.WhereClause
import InlineSql.Proofs.Statement.FirstDefect
import InlineSql.Proofs.Statement.KeySearch
import InlineSql.Proofs.Statement.Insertion
import InlineSql.Proofs.Statement.RowWindow
import InlineSql.Proofs.Record.InsertionOrder
import InlineSql.Proofs.Session.Counting
import InlineSql.Proofs.Number.ByteScan
import InlineSql.Proofs.Value.Saturation
import InlineSql.Proofs.Reading.QuotedName
import InlineSql.Proofs.Text.Trimmed
import InlineSql.Proofs.Text.Columns
import InlineSql.Proofs.Timestamp.Calendar
import InlineSql.Proofs.Timestamp.Reading
import InlineSql.Proofs.Statement.Connectives
import InlineSql.Proofs.Timestamp.TextOrder
import InlineSql.Proofs.Session.FlavorRun
