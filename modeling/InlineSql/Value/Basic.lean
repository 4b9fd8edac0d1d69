import InlineSql.Timestamp

namespace InlineSql

-- What a statement can hold at the place of a literal. `raw` is a piece of SQL
-- that the caller vouches for: it is written as it stands.
inductive Value where
  | null
  | bool (b : Bool)
  | int (n : Int64)
  | nat (n : UInt64)
  | float (x : Float)
  | text (s : String)
  | timestamp (t : Timestamp)
  | list (items : List Value)
  | raw (sql : String)

namespace Value

-- Values of different kinds never agree, not even the integers 1 and 1. Floats
-- are compared as numbers: a NaN agrees with nothing and the two zeros agree.
mutual
def agrees : Value → Value → Bool
  | .null,.null => true
  | .bool a,.bool b => a == b
  | .int a,.int b => a == b
  | .nat a,.nat b => a == b
  | .float a,.float b => a == b
  | .text a,.text b => a == b
  | .timestamp a,.timestamp b => a == b
  | .list as,.list bs => allAgree as bs
  | .raw a,.raw b => a == b
  | _,_ => false
def allAgree : List Value → List Value → Bool
  | [],[] => true
  | a :: as,b :: bs => agrees a b && allAgree as bs
  | _,_ => false
end

instance : BEq Value := ⟨agrees⟩
instance : Inhabited Value := ⟨.null⟩

def isNull : Value → Bool
  | .null => true
  | _ => false

end Value
end InlineSql
