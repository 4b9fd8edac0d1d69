import InlineSql.Escaper

namespace InlineSql

def Flavor.quote (f : Flavor) (identifier : String) : String :=
  Text.quoteName f.nameMark identifier

-- The spelling of the parts in which databases differ; the order of the clauses
-- is the same for all. A dialect belongs to a family and may still spell
-- differently. `stringMark` stands before the opening quote of a string.
structure Dialect where
  name : String
  flavor : Flavor
  quoteIdentifier : String → String := flavor.quote
  boolLiteral : Bool → String := fun b => if b then "1" else "0"
  stringMark : String := ""
  limitClause : Int64 → Int64 → String := fun offset count => s!" LIMIT {offset},{count}"

namespace Dialect

def countThenOffset (offset count : Int64) : String := s!" LIMIT {count} OFFSET {offset}"

def mySql : Dialect := {name:="MySql",flavor:=.mysql}

-- The mark E asks for backslash escapes inside the string, so the escaper has to
-- follow the backslash rules.
def postgres : Dialect where
  name := "Postgres"
  flavor := .postgresql
  boolLiteral := fun b => if b then "TRUE" else "FALSE"
  stringMark := "E"
  limitClause := countThenOffset

def sqlite : Dialect := {name:="Sqlite",flavor:=.sqlite,limitClause:=countThenOffset}

end Dialect

def Flavor.dialect : Flavor → Dialect
  | .mysql => .mySql
  | .postgresql => .postgres
  | .sqlite => .sqlite

end InlineSql
