namespace InlineSql

structure Window where
  offset : Int64
  stop : Int64
deriving DecidableEq

namespace Window

def unbounded : Window := ⟨-1,-1⟩

instance : Inhabited Window := ⟨unbounded⟩

def isSet (w : Window) : Bool := 0 ≤ w.offset && 0 ≤ w.stop

-- An inverted window has no rows. The difference stays in range for a window in
-- force; nothing is claimed about any other.
def count (w : Window) : Int64 := max 0 (w.stop - w.offset)

end Window
end InlineSql
