import InlineSql.Statement.Clause
import InlineSql.Statement.Defect
import InlineSql.Event
import InlineSql.Value.Integer

namespace InlineSql

structure Run (α : Type) where
  value : α
  connection : Connection
  events : List Event

structure Table where
  name : String
  keyColumn : String := "id"
  dialect : Dialect

-- A statement that is being built for a table's dialect. It keeps nothing else of
-- the table, so a later change of the key column does not reach it.
structure Query where
  dialect : Dialect
  statement : Statement

namespace Table

-- A dialect of another family than the connection declares is allowed, with a
-- warning. A connection that declares nothing is never warned about.
def withDialect (c : Connection) (name : String) (d : Dialect) : Table × List Event :=
  ({name,dialect:=d},match c.flavor with
    | some f => if f = d.flavor then [] else [.dialectMismatch f d.flavor]
    | none => [])

def withFlavor (c : Connection) (name : String) (f : Flavor) : Table × List Event :=
  withDialect c name f.dialect

def forConnection (c : Connection) (default : Flavor) (name : String) : Table × List Event :=
  withFlavor c name (c.flavor.getD default)

def query (t : Table) (start : Statement.Start) : Query := ⟨t.dialect,.start t.name start⟩

def select (t : Table) : Query := t.query .select
def update (t : Table) : Query := t.query .update
def insert (t : Table) : Query := t.query .insert
def delete (t : Table) : Query := t.query .delete
def count (t : Table) : Query := t.query .count
def findByKey (t : Table) (key : Value) : Query := t.query (.findByKey t.keyColumn key)

end Table

namespace Query

def add (q : Query) (c : Clause) : Query := {q with statement:=q.statement.add c}

def build (q : Query) (clauses : List Clause) : Query := clauses.foldl add q

-- The connection's escaping is used even where it does not fit the dialect.
def compile (q : Query) (c : Connection) : Compiled := q.dialect.compile c.escaper q.statement

def execute (q : Query) (c : Connection) : Run (Except Failure Outcome) :=
  let compiled := q.compile c
  if compiled.sql = "" then
    ⟨.error .emptyStatement,c,
      compiled.events ++ [.emptyRefused q.statement.table q.statement.method]⟩
  else
    let (response,after) := c.query compiled.sql
    ⟨response.mapError .connection,after,
      compiled.events ++ [.executing q.dialect.flavor compiled.sql]⟩

def firstCount (set : ResultSet) : Int64 :=
  match set.fetch.1.bind (·.get? "c") with
  | some value => value.toInt64
  | none => 0

def executeCount (q : Query) (c : Connection) : Run Int64 :=
  let ran := q.execute c
  match ran.value with
  | .error failure =>
    {ran with value:=0,events:=ran.events ++ [.countFailed q.statement.table failure]}
  | .ok (.affected _) =>
    {ran with value:=0,events:=ran.events ++ [.countWithoutRows q.statement.table]}
  | .ok (.rows set) => {ran with value:=firstCount set}

end Query

namespace Table

def countBy (t : Table) (c : Connection) (attributes : List (String × Value)) : Run Int64 :=
  (t.count.add (.whereAll attributes)).executeCount c

def existsBy (t : Table) (c : Connection) (attributes : List (String × Value)) : Run Bool :=
  let ran := t.countBy c attributes
  {ran with value:=0 < ran.value}

end Table
end InlineSql
