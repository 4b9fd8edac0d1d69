import InlineSql.Dialect
import InlineSql.Number.Layout
import InlineSql.Value.Basic

namespace InlineSql.Dialect

def stringLiteral (d : Dialect) (e : Escaper) (s : String) : String :=
  d.stringMark ++ "'" ++ e.escape s ++ "'"

def floatLiteral (x : Float) : String := if x.isFinite then Number.plain x else "null"

-- The literal of a value. Only strings pass through the escaper; raw text passes
-- through nothing.
mutual
def encode (d : Dialect) (e : Escaper) : Value → String
  | .null => "null"
  | .bool b => d.boolLiteral b
  | .int n => toString n
  | .nat n => toString n
  | .float x => floatLiteral x
  | .text s => d.stringLiteral e s
  | .timestamp t => "'" ++ t.text ++ "'"
  | .list items => "(" ++ ",".intercalate (encodeAll d e items) ++ ")"
  | .raw sql => sql
def encodeAll (d : Dialect) (e : Escaper) : List Value → List String
  | [] => []
  | value :: rest => encode d e value :: encodeAll d e rest
end

def listLiteral (d : Dialect) (e : Escaper) (items : List Value) : String :=
  "(" ++ ",".intercalate (d.encodeAll e items) ++ ")"

theorem encode_list (d : Dialect) (e : Escaper) (items : List Value) :
    d.encode e (.list items) = d.listLiteral e items := by
  rw [encode,listLiteral]

theorem encodeAll_map (d : Dialect) (e : Escaper) (items : List Value) :
    d.encodeAll e items = items.map (d.encode e) := by
  induction items with
  | nil => simp [encodeAll]
  | cons value rest ih => simp [encodeAll,ih]

end InlineSql.Dialect
