import InlineSql.Value.Basic
import InlineSql.Number.Leading

namespace InlineSql.Value

-- A lenient reading that never fails: what denotes no number is zero, and what
-- lies outside the range becomes its nearest end. A fraction is cut off.
def toInt64 : Value → Int64
  | .bool b => if b then 1 else 0
  | .int n => n
  | .nat n => .ofIntClamp n.toNat
  | .float x => if x.isFinite then x.toInt64 else 0
  | .text s => Number.leadingInteger s
  | .raw s => Number.leadingInteger s
  | .null | .timestamp _ | .list _ => 0

end InlineSql.Value
