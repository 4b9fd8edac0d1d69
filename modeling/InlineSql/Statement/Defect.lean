import InlineSql.Statement.Basic
import InlineSql.Text.Quoted

namespace InlineSql

inductive Defect where
  | emptyColumn (index : Nat)
  | emptyOperator (index : Nat) (column : String)
  | emptyConnective (index : Nat) (column : String)
  | emptyValueSet (index : Nat) (column : String)
  | rowColumnsMismatch (row : Nat) (expected found : List String)
  | invalidLimit (offset stop : Int64)
  | missingKeyColumn
deriving DecidableEq

def Defect.message : Defect → String
  | .emptyColumn index => s!"predicate #{index} has an empty column"
  | .emptyOperator index column => s!"predicate #{index} on `{column}` has an empty operator"
  | .emptyConnective index column => s!"predicate #{index} on `{column}` has an empty connective"
  | .emptyValueSet index column => s!"predicate #{index} on `{column}` has an empty value set"
  | .rowColumnsMismatch row expected found =>
    let here := Text.quotedList found
    let first := Text.quotedList expected
    s!"insert row #{row} columns {here} do not match first row columns {first}"
  | .invalidLimit offset stop => s!"limit window end {stop} is before offset {offset}"
  | .missingKeyColumn => "find-by-key statement has no key column"

def Predicate.defect? (index : Nat) (p : Predicate) : Option Defect :=
  if p.column = "" then some (.emptyColumn index)
  else if p.operator = "" then some (.emptyOperator index p.column)
  else if p.connective.isBlank then some (.emptyConnective index p.column)
  else match p.value with
    | .list [] => some (.emptyValueSet index p.column)
    | _ => none

def predicateDefect? : Nat → List Predicate → Option Defect
  | _,[] => none
  | index,p :: rest => match p.defect? index with
    | some defect => some defect
    | none => predicateDefect? (index + 1) rest

def rowDefect? (expected : List String) : Nat → List Record → Option Defect
  | _,[] => none
  | row,r :: rest =>
    if r.columns = expected then rowDefect? expected (row + 1) rest
    else some (.rowColumnsMismatch row expected r.columns)

def Window.defect? (w : Window) : Option Defect :=
  if w.isSet && w.stop < w.offset then some (.invalidLimit w.offset w.stop) else none

namespace Statement

def keyDefect? (s : Statement) : Option Defect :=
  if s.method = some .findByKey ∧ s.usableKey = none then some .missingKeyColumn else none

def rowsDefect? (s : Statement) : Option Defect :=
  match s.rows with
  | [] => none
  | first :: rest => rowDefect? first.columns 1 rest

-- The first defect: of the key, of the conditions, of the rows, of the window. It
-- looks at all of them for every method, and compiling does not ask for it.
def defect? (s : Statement) : Option Defect :=
  s.keyDefect? <|> predicateDefect? 0 s.predicates <|> s.rowsDefect? <|> s.window.defect?

end Statement
end InlineSql
