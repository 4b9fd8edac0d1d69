import InlineSql.Value.Basic
import InlineSql.Number.Shortest

namespace InlineSql

class ToValue (α : Type) where
  toValue : α → Value

export ToValue (toValue)

instance : ToValue Value := ⟨id⟩
instance : ToValue Unit := ⟨fun _ => .null⟩
instance : ToValue Bool := ⟨.bool⟩
instance : ToValue Int8 := ⟨fun n => .int n.toInt64⟩
instance : ToValue Int16 := ⟨fun n => .int n.toInt64⟩
instance : ToValue Int32 := ⟨fun n => .int n.toInt64⟩
instance : ToValue Int64 := ⟨.int⟩
instance : ToValue UInt8 := ⟨fun n => .nat n.toUInt64⟩
instance : ToValue UInt16 := ⟨fun n => .nat n.toUInt64⟩
instance : ToValue UInt32 := ⟨fun n => .nat n.toUInt64⟩
instance : ToValue UInt64 := ⟨.nat⟩
instance : ToValue USize := ⟨fun n => .nat n.toUInt64⟩
instance : ToValue Float := ⟨.float⟩
instance : ToValue Float32 := ⟨fun x => .float (Number.widen x)⟩
instance : ToValue String := ⟨.text⟩
instance : ToValue Timestamp := ⟨.timestamp⟩

instance {α : Type} [ToValue α] : ToValue (Option α) := ⟨fun
  | none => .null
  | some a => toValue a⟩

instance {α : Type} [ToValue α] : ToValue (List α) := ⟨fun as => .list (as.map toValue)⟩

end InlineSql
