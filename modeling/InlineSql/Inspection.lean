import InlineSql.Number.Layout
import InlineSql.Session

namespace InlineSql

namespace Inspection

def applied (name argument : String) : String := name ++ "(" ++ argument ++ ")"

def optional (shown : Option String) : String :=
  match shown with
  | none => "None"
  | some text => applied "Some" text

def fielded (name : String) (shown : List (String × String)) (rest : String) : String :=
  name ++ " \x7b " ++ ", ".intercalate (shown.map fun f => f.1 ++ ": " ++ f.2) ++ rest ++ " \x7d"

end Inspection

open Text Inspection

mutual
def Value.inspected : Value → String
  | .null => "Null"
  | .bool b => applied "Bool" (if b then "true" else "false")
  | .int n => applied "I64" (toString n)
  | .nat n => applied "U64" (toString n)
  | .float x => applied "F64" (Number.inspected x)
  | .text s => applied "String" (quoted s)
  | .timestamp t => applied "DateTime" t.inspected
  | .list items => applied "List" (bracketed (Value.inspectedAll items))
  | .raw sql => applied "Raw" (quoted sql)
def Value.inspectedAll : List Value → List String
  | [] => []
  | value :: rest => Value.inspected value :: Value.inspectedAll rest
end

def entryInspected (entry : String × Value) : String :=
  "(" ++ quoted entry.1 ++ ", " ++ entry.2.inspected ++ ")"

def Record.inspected (r : Record) : String :=
  fielded "Record" [("entries",bracketed (r.entries.map entryInspected))] ""

def Connective.inspected : Connective → String
  | .and => "And"
  | .or => "Or"
  | .other word => applied "Other" (quoted word)

def Predicate.inspected (p : Predicate) : String :=
  fielded "Predicate"
    [("column",quoted p.column),("value",p.value.inspected),
      ("operator",quoted p.operator),("connective",p.connective.inspected)] ""

def Method.inspected : Method → String
  | .select => "Select"
  | .update => "Update"
  | .insert => "Insert"
  | .delete => "Delete"
  | .count => "Count"
  | .findByKey => "FindByKey"

def Direction.inspected : Direction → String
  | .ascending => "Asc"
  | .descending => "Desc"

def SortKey.inspected (k : SortKey) : String :=
  "(" ++ quoted k.column ++ ", " ++ k.direction.inspected ++ ")"

def Window.inspected (w : Window) : String :=
  fielded "LimitWindow" [("offset",toString w.offset),("end",toString w.stop)] ""

def Statement.inspected (s : Statement) : String :=
  fielded "Statement"
    [("table",quoted s.table),
      ("method",optional (s.method.map Method.inspected)),
      ("columns",quotedList s.columns),
      ("predicates",bracketed (s.predicates.map Predicate.inspected)),
      ("group_key",optional (s.groupKey.map quoted)),
      ("orderings",bracketed (s.orderings.map SortKey.inspected)),
      ("limit",s.window.inspected),
      ("assignments",bracketed (s.assignments.map entryInspected)),
      ("rows",bracketed (s.rows.map Record.inspected)),
      ("key_column",optional (s.keyColumn.map quoted))] ""

def Table.inspected (t : Table) : String :=
  fielded "Table"
    [("name",quoted t.name),("key_column",quoted t.keyColumn),
      ("dialect",t.dialect.name)] ", .."

def Query.inspected (q : Query) : String :=
  fielded "Query" [("dialect",q.dialect.name),("statement",q.statement.inspected)] ", .."

end InlineSql
