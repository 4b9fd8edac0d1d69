import InlineSql.Statement.Basic

namespace InlineSql

inductive Clause where
  | columns (names : List String)
  | whereEq (column : String) (value : Value)
  | whereOp (column operator : String) (value : Value)
  | orWhereEq (column : String) (value : Value)
  | orWhereOp (column operator : String) (value : Value)
  | predicate (p : Predicate)
  | whereAll (entries : List (String × Value))
  | groupBy (column : String)
  | orderBy (column : String) (direction : Direction)
  | orderAscending (column : String)
  | orderDescending (column : String)
  | limit (count : Int64)
  | limitRange (offset stop : Int64)
  | set (column : String) (value : Value)
  | setAll (entries : List (String × Value))
  | row (r : Record)

namespace Statement

def addPredicate (s : Statement) (p : Predicate) : Statement :=
  {s with predicates:=s.predicates ++ [p]}

def addOrdering (s : Statement) (column : String) (direction : Direction) : Statement :=
  {s with orderings:=s.orderings ++ [⟨column,direction⟩]}

def addAssignment (s : Statement) (column : String) (value : Value) : Statement :=
  {s with assignments:=s.assignments ++ [(column,value)]}

-- Conditions, sort keys, assignments and rows are collected. The columns, the
-- group key and the window are those of the last call.
def add (s : Statement) : Clause → Statement
  | .columns names => {s with columns:=names}
  | .whereEq column value => s.addPredicate {column,value}
  | .whereOp column operator value => s.addPredicate {column,value,operator}
  | .orWhereEq column value => s.addPredicate {column,value,connective:=.or}
  | .orWhereOp column operator value => s.addPredicate {column,value,operator,connective:=.or}
  | .predicate p => s.addPredicate p
  | .whereAll entries => entries.foldl (fun s entry => s.addPredicate {column:=entry.1,value:=entry.2}) s
  | .groupBy column => {s with groupKey:=some column}
  | .orderBy column direction => s.addOrdering column direction
  | .orderAscending column => s.addOrdering column .ascending
  | .orderDescending column => s.addOrdering column .descending
  | .limit count => {s with window:=⟨0,count⟩}
  | .limitRange offset stop => {s with window:=⟨offset,stop⟩}
  | .set column value => s.addAssignment column value
  | .setAll entries => entries.foldl (fun s entry => s.addAssignment entry.1 entry.2) s
  | .row r => {s with rows:=s.rows ++ [r]}

def build (s : Statement) (clauses : List Clause) : Statement := clauses.foldl add s

end Statement
end InlineSql
