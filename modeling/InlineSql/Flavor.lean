namespace InlineSql

inductive Flavor where
  | mysql
  | postgresql
  | sqlite
deriving DecidableEq

namespace Flavor

instance : Inhabited Flavor := ⟨.mysql⟩

def all : List Flavor := [.mysql,.postgresql,.sqlite]

def name : Flavor → String
  | .mysql => "MySQL"
  | .postgresql => "PostgreSQL"
  | .sqlite => "SQLite"

instance : ToString Flavor := ⟨name⟩

def ofName? (s : String) : Option Flavor := all.find? (·.name == s)

def nameMark : Flavor → Char
  | .mysql => '\x60'
  | .postgresql | .sqlite => '"'

end Flavor
end InlineSql
