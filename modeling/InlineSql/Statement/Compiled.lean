import InlineSql.Literal
import InlineSql.Statement.Basic

namespace InlineSql

structure Skip where
  index : Nat
  column : String
  operator : String
deriving DecidableEq

structure Compiled where
  sql : String
  skips : List Skip
deriving DecidableEq

def Compiled.nothing : Compiled := ⟨"",[]⟩

namespace Dialect

def condition (d : Dialect) (e : Escaper) (p : Predicate) : String :=
  d.quoteIdentifier p.column ++ match p.value with
    | .list items => " IN " ++ d.listLiteral e items
    | value => p.operator ++ d.encode e value

def conditions (d : Dialect) (e : Escaper) : Nat → Bool → List Predicate → Compiled
  | _,_,[] => .nothing
  | index,started,p :: rest =>
    if p.qualifies then
      let opening := if started then " " ++ p.connective.word ++ " " else " WHERE "
      let after := d.conditions e (index + 1) true rest
      {after with sql:=opening ++ d.condition e p ++ after.sql}
    else
      let after := d.conditions e (index + 1) started rest
      {after with skips:=⟨index,p.column,p.operator⟩ :: after.skips}

def whereClause (d : Dialect) (e : Escaper) (s : Statement) : Compiled :=
  d.conditions e 0 false s.predicates

def columnList (s : Statement) : String :=
  if s.columns.isEmpty then "*" else ",".intercalate s.columns

def groupClause (d : Dialect) (s : Statement) : String :=
  match s.groupKey with
  | none => ""
  | some key => if key = "" then "" else " GROUP BY " ++ d.quoteIdentifier key

def sortKey (d : Dialect) (k : SortKey) : String :=
  d.quoteIdentifier k.column ++ match k.direction with
    | .ascending => ""
    | .descending => " DESC"

def orderClause (d : Dialect) (s : Statement) : String :=
  if s.orderings.isEmpty then ""
  else " ORDER BY " ++ ",".intercalate (s.orderings.map d.sortKey)

def windowClause (d : Dialect) (w : Window) : String :=
  if w.isSet then d.limitClause w.offset w.count else ""

def assignment (d : Dialect) (e : Escaper) (entry : String × Value) : String :=
  d.quoteIdentifier entry.1 ++ "=" ++ d.encode e entry.2

-- The values of a row at the places of the first row's columns: nulls fill a
-- short row and the surplus of a long one is dropped. Names are not compared.
def tuple (d : Dialect) (e : Escaper) (width : Nat) (r : Record) : String :=
  d.listLiteral e ((r.values.take width).rightpad width .null)

def selection (d : Dialect) (e : Escaper) (s : Statement) : Compiled :=
  let conditions := d.whereClause e s
  {conditions with
    sql:="SELECT " ++ columnList s ++ " FROM " ++ s.table ++ conditions.sql ++
      d.groupClause s ++ d.orderClause s ++ d.windowClause s.window ++ ";"}

def update (d : Dialect) (e : Escaper) (s : Statement) : Compiled :=
  if s.assignments.isEmpty then .nothing else
  let conditions := d.whereClause e s
  {conditions with
    sql:="UPDATE " ++ s.table ++ " SET " ++
      ", ".intercalate (s.assignments.map (d.assignment e)) ++ conditions.sql ++ ";"}

def insertion (d : Dialect) (e : Escaper) (s : Statement) : Compiled :=
  match s.rows with
  | [] => .nothing
  | first :: _ =>
    ⟨"INSERT INTO " ++ s.table ++ " (" ++ ",".intercalate first.columns ++ ") VALUES " ++
      ",".intercalate (s.rows.map (d.tuple e first.size)) ++ ";",[]⟩

def deletion (d : Dialect) (e : Escaper) (s : Statement) : Compiled :=
  let conditions := d.whereClause e s
  {conditions with sql:="DELETE FROM " ++ s.table ++ conditions.sql ++ ";"}

def counting (d : Dialect) (e : Escaper) (s : Statement) : Compiled :=
  let conditions := d.whereClause e s
  {conditions with sql:="SELECT COUNT(*) AS c FROM " ++ s.table ++ conditions.sql ++ ";"}

-- Compiling never fails. What it cannot write it leaves out, and a statement
-- that would do nothing gets no text.
def compile (d : Dialect) (e : Escaper) (s : Statement) : Compiled :=
  match s.method with
  | none => .nothing
  | some .select => d.selection e s
  | some .update => d.update e s
  | some .insert => d.insertion e s
  | some .delete => d.deletion e s
  | some .count => d.counting e s
  | some .findByKey => if s.usableKey = none then .nothing else d.selection e s

end Dialect

namespace Statement

def compileWith (s : Statement) (f : Flavor) (e : Escaper) : Compiled := f.dialect.compile e s

def compileFor (s : Statement) (f : Flavor) : Compiled := s.compileWith f f.escaper

def toSql (s : Statement) (f : Flavor) : String := (s.compileFor f).sql

end Statement
end InlineSql
