import InlineSql.Text.Blank
import InlineSql.Value.Basic

namespace InlineSql

inductive Connective where
  | and
  | or
  | other (word : String)
deriving DecidableEq

namespace Connective

def word : Connective → String
  | .and => "AND"
  | .or => "OR"
  | .other word => word

-- Reading never gives a blank word: a blank text stands for AND. The case of an
-- unknown word is kept, the blanks around it are not.
def parse (s : String) : Connective :=
  let word := Text.trim s
  if word = "" || Text.sameWord word "AND" then .and
  else if Text.sameWord word "OR" then .or
  else .other word

def isBlank : Connective → Bool
  | .other word => Text.allBlank word
  | _ => false

end Connective

structure Predicate where
  column : String
  value : Value
  operator : String := "="
  connective : Connective := .and
deriving BEq

def Predicate.qualifies (p : Predicate) : Bool := p.column != "" && p.operator != ""

end InlineSql
