import InlineSql.Connection
import InlineSql.Statement.Compiled

namespace InlineSql

inductive Failure where
  | connection (error : ConnectionError)
  | emptyStatement
deriving DecidableEq

def Failure.message : Failure → String
  | .connection error => error.message
  | .emptyStatement => "statement compiled to an empty string"

inductive Level where
  | trace
  | debug
  | warn
deriving DecidableEq

def Level.name : Level → String
  | .trace => "TRACE"
  | .debug => "DEBUG"
  | .warn => "WARN"

inductive Event where
  | skipped (skip : Skip)
  | dialectMismatch (connection dialect : Flavor)
  | emptyRefused (table : String) (method : Option Method)
  | executing (flavor : Flavor) (sql : String)
  | countFailed (table : String) (failure : Failure)
  | countWithoutRows (table : String)
deriving DecidableEq

namespace Event

def level : Event → Level
  | .skipped _ => .trace
  | .executing _ _ => .debug
  | .dialectMismatch _ _ | .emptyRefused _ _ | .countFailed _ _ | .countWithoutRows _ => .warn

def message : Event → String
  | .skipped _ => "skipping predicate with empty column or operator"
  | .dialectMismatch _ _ => "dialect does not match the connection's escaping rules"
  | .emptyRefused _ _ => "refusing to execute an empty statement"
  | .executing _ _ => "executing statement"
  | .countFailed _ _ => "count query failed, reporting 0"
  | .countWithoutRows _ => "count query returned no result set, reporting 0"

end Event

def Compiled.events (c : Compiled) : List Event := c.skips.map .skipped

end InlineSql
