import InlineSql.Predicate
import InlineSql.Record
import InlineSql.Window

namespace InlineSql

inductive Method where
  | select
  | update
  | insert
  | delete
  | count
  | findByKey
deriving DecidableEq

inductive Direction where
  | ascending
  | descending
deriving DecidableEq

def Direction.parse (s : String) : Direction :=
  if Text.sameWord (Text.trim s) "DESC" then .descending else .ascending

structure SortKey where
  column : String
  direction : Direction
deriving DecidableEq

-- What one statement on one table should do, before any dialect. Every method
-- reads its own fields and leaves the others aside, so a statement may hold more
-- than its text shows.
structure Statement where
  table : String
  method : Option Method := none
  columns : List String := []
  predicates : List Predicate := []
  groupKey : Option String := none
  orderings : List SortKey := []
  window : Window := .unbounded
  assignments : List (String × Value) := []
  rows : List Record := []
  keyColumn : Option String := none
deriving BEq

namespace Statement

inductive Start where
  | bare
  | select
  | update
  | insert
  | delete
  | count
  | findByKey (keyColumn : String) (key : Value)

def start (table : String) : Start → Statement
  | .bare => {table}
  | .select => {table,method:=some .select}
  | .update => {table,method:=some .update}
  | .insert => {table,method:=some .insert}
  | .delete => {table,method:=some .delete}
  | .count => {table,method:=some .count}
  | .findByKey keyColumn key =>
    {table,method:=some .findByKey,predicates:=[{column:=keyColumn,value:=key}],
      window:=⟨0,1⟩,keyColumn:=some keyColumn}

def usableKey (s : Statement) : Option String := s.keyColumn.filter (· != "")

end Statement
end InlineSql
