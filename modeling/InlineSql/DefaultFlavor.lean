import InlineSql.Flavor

namespace InlineSql

def Flavor.toByte : Flavor → UInt8
  | .mysql => 0
  | .postgresql => 1
  | .sqlite => 2

def Flavor.ofByte (byte : UInt8) : Flavor :=
  if byte = 1 then .postgresql else if byte = 2 then .sqlite else .mysql

@[simp]
theorem Flavor.ofByte_toByte (f : Flavor) : ofByte f.toByte = f := by
  cases f <;> rfl

-- The family for connections that declare none, in one byte. `outer` is the one to
-- come back to when the open scope ends; scopes do not nest.
structure DefaultFlavor where
  cell : UInt8 := Flavor.mysql.toByte
  outer : Option Flavor := none
deriving DecidableEq

namespace DefaultFlavor

def current (d : DefaultFlavor) : Flavor := .ofByte d.cell

def set (d : DefaultFlavor) (f : Flavor) : Flavor × DefaultFlavor :=
  (d.current,{d with cell:=f.toByte})

def enter (d : DefaultFlavor) (f : Flavor) : Option DefaultFlavor :=
  if d.outer.isSome then none else
    let (old,inside) := d.set f
    some {inside with outer:=some old}

def leave (d : DefaultFlavor) : Option DefaultFlavor :=
  d.outer.map fun old => {(d.set old).2 with outer:=none}

end DefaultFlavor
end InlineSql
