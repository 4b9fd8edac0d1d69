import InlineSql.Proofs.Literal.Reader
import InlineSql.Proofs.Statement.Built

namespace InlineSql

inductive Test where
  | compare (operator : String) (value : Literal)
  | member (items : List Literal)

structure Condition where
  link : Option Connective
  column : String
  test : Test

structure Selection where
  columns : List String
  table : String
  conditions : List Condition
  group : Option String
  orderings : List SortKey
  window : Option (Int × Int)

-- What is left of a statement when everything is dropped that its text does not show.
inductive Intent where
  | nothing
  | select (s : Selection)
  | update (table : String) (assignments : List (String × Literal)) (conditions : List Condition)
  | insert (table : String) (columns : List String) (rows : List (List Literal))
  | delete (table : String) (conditions : List Condition)
  | count (table : String) (conditions : List Condition)

namespace Predicate

def test (f : Flavor) (p : Predicate) : Test :=
  match p.value with
  | .list items => .member (items.map (Value.literal f))
  | v => .compare p.operator (v.literal f)

def condition (f : Flavor) (link : Option Connective) (p : Predicate) : Condition :=
  ⟨link,p.column,p.test f⟩

def linked (f : Flavor) (p : Predicate) : Condition := p.condition f (some p.connective)

end Predicate

namespace Window

def rows (w : Window) : Option (Int × Int) :=
  if w.isSet then some (w.offset.toInt,max 0 (w.stop.toInt - w.offset.toInt)) else none

end Window

namespace Statement

def conditions (f : Flavor) (s : Statement) : List Condition :=
  match s.predicates.filter Predicate.qualifies with
  | [] => []
  | p :: rest => p.condition f none :: rest.map (Predicate.linked f)

def selection (f : Flavor) (s : Statement) : Selection where
  columns := s.columns
  table := s.table
  conditions := s.conditions f
  group := s.groupKey.filter (· != "")
  orderings := s.orderings
  window := s.window.rows

def placed (f : Flavor) (width : Nat) (r : Record) : List Literal :=
  ((r.values.take width).rightpad width .null).map (Value.literal f)

def intent (f : Flavor) (s : Statement) : Intent :=
  match s.method with
  | none => .nothing
  | some .select => .select (s.selection f)
  | some .update =>
    if s.assignments.isEmpty then .nothing
    else .update s.table (s.assignments.map fun entry => (entry.1,entry.2.literal f)) (s.conditions f)
  | some .insert => match s.rows with
    | [] => .nothing
    | first :: _ => .insert s.table first.columns (s.rows.map (placed f first.size))
  | some .delete => .delete s.table (s.conditions f)
  | some .count => .count s.table (s.conditions f)
  | some .findByKey => if s.usableKey = none then .nothing else .select (s.selection f)

end Statement

namespace Literal

mutual
def written (f : Flavor) : Literal → List Char
  | .null => "null".toList
  | .truth b => (f.dialect.boolLiteral b).toList
  | .number n => (toString n).toList
  | .text s => (f.dialect.stringLiteral f.escaper s).toList
  | .list items => ['('] ++ [','].intercalate (writtenAll f items) ++ [')']
def writtenAll (f : Flavor) : List Literal → List (List Char)
  | [] => []
  | l :: rest => written f l :: writtenAll f rest
end

theorem written_list (f : Flavor) (items : List Literal) : (Literal.list items).written f =
    ['('] ++ [','].intercalate (items.map (written f)) ++ [')'] := by
  have all : writtenAll f items = items.map (written f) := by
    induction items with
    | nil => simp [writtenAll]
    | cons l rest ih => simp [writtenAll,ih]
  rw [written,all]

end Literal

def Test.written (f : Flavor) : Test → List Char
  | .compare operator value => operator.toList ++ value.written f
  | .member items => letters " IN " ++ (Literal.list items).written f

def linkText : Option Connective → String
  | none => " WHERE "
  | some connective => " " ++ connective.word ++ " "

def directionText : Direction → List Char
  | .ascending => []
  | .descending => letters " DESC"

namespace Flavor

variable (f : Flavor)

def nameText (name : String) : List Char := (f.quote name).toList

def conditionText (c : Condition) : List Char :=
  letters (linkText c.link) ++ (f.nameText c.column ++ c.test.written f)

def conditionsText (conditions : List Condition) : List Char := conditions.flatMap f.conditionText

def groupText (group : Option String) : List Char :=
  group.elim [] fun key => letters " GROUP BY " ++ f.nameText key

def sortText (k : SortKey) : List Char := f.nameText k.column ++ directionText k.direction

def orderText (orderings : List SortKey) : List Char :=
  if orderings.isEmpty then []
  else letters " ORDER BY " ++ [','].intercalate (orderings.map f.sortText)

def windowText (window : Option (Int × Int)) : List Char :=
  window.elim [] fun w => letters " LIMIT " ++ ((toString (f.limitPair w.1 w.2).1).toList ++
    (f.limitWord.toList ++ (toString (f.limitPair w.1 w.2).2).toList))

def assignmentText (entry : String × Literal) : List Char :=
  f.nameText entry.1 ++ (letters "=" ++ entry.2.written f)

def columnsText (columns : List String) : List Char :=
  if columns.isEmpty then letters "*" else [','].intercalate (columns.map String.toList)

def rowText (row : List Literal) : List Char := (Literal.list row).written f

def selectionText (s : Selection) : List Char :=
  letters "SELECT " ++ (columnsText s.columns ++ (letters " FROM " ++ (s.table.toList ++
    (f.conditionsText s.conditions ++ (f.groupText s.group ++ (f.orderText s.orderings ++
      f.windowText s.window)))))) ++ letters ";"

def updateText (table : String) (assignments : List (String × Literal))
    (conditions : List Condition) : List Char :=
  letters "UPDATE " ++ (table.toList ++ (letters " SET " ++
    ([',',' '].intercalate (assignments.map f.assignmentText) ++
      f.conditionsText conditions))) ++ letters ";"

def insertionText (table : String) (columns : List String) (rows : List (List Literal)) :
    List Char :=
  letters "INSERT INTO " ++ (table.toList ++ (letters " (" ++
    ([','].intercalate (columns.map String.toList) ++ (letters ") VALUES " ++
      [','].intercalate (rows.map f.rowText))))) ++ letters ";"

def tableText (head table : String) (conditions : List Condition) : List Char :=
  letters head ++ (table.toList ++ f.conditionsText conditions) ++ letters ";"

end Flavor

def Intent.written (f : Flavor) : Intent → List Char
  | .nothing => []
  | .select s => f.selectionText s
  | .update table assignments conditions => f.updateText table assignments conditions
  | .insert table columns rows => f.insertionText table columns rows
  | .delete table conditions => f.tableText "DELETE FROM " table conditions
  | .count table conditions => f.tableText "SELECT COUNT(*) AS c FROM " table conditions

end InlineSql
