import InlineSql.Escaper
import InlineSql.Record

namespace InlineSql

structure ResultSet where
  rows : List Record

namespace ResultSet

def fetch (set : ResultSet) : Option Record × ResultSet :=
  match set.rows with
  | [] => (none,set)
  | r :: rest => (some r,⟨rest⟩)

def size (set : ResultSet) : Nat := set.rows.length

end ResultSet

inductive Outcome where
  | rows (set : ResultSet)
  | affected (count : UInt64)

namespace Outcome

def rows? : Outcome → Option ResultSet
  | .rows set => some set
  | .affected _ => none

def affected? : Outcome → Option UInt64
  | .rows _ => none
  | .affected count => some count

end Outcome

structure ConnectionError where
  reason : String
deriving DecidableEq

def ConnectionError.message (e : ConnectionError) : String := "connection query error: " ++ e.reason

abbrev Response := Except ConnectionError Outcome

-- A connection that answers from a queue and keeps every text it was sent, oldest
-- first. It says nothing about what a database does with a text.
structure Connection where
  escaper : Escaper
  pending : List Response := []
  sent : List String := []

namespace Connection

-- Its own escaping comes first, then the rules of the family it declares, then
-- the backslash rules. The declaration is kept even when the escaping differs.
def connect (flavor : Option Flavor) (escape : Option (String → String))
    (pending : List Response) : Connection where
  escaper := ⟨escape.getD (match flavor with
    | some f => f.escaper.escape
    | none => Text.backslash),flavor⟩
  pending := pending

def flavor (c : Connection) : Option Flavor := c.escaper.flavor

def query (c : Connection) (sql : String) : Response × Connection :=
  (c.pending.head?.getD (.ok (.affected 0)),
    {c with pending:=c.pending.tail,sent:=c.sent ++ [sql]})

def respond (c : Connection) (r : Response) : Connection := {c with pending:=c.pending ++ [r]}

end Connection
end InlineSql
