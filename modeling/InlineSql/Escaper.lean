import InlineSql.Text.Escape
import InlineSql.Flavor

namespace InlineSql

-- What makes a text safe inside a literal. It adds no quotes. `flavor` is the
-- family whose rules it declares to follow; nothing checks that it does.
structure Escaper where
  escape : String → String
  flavor : Option Flavor := none

def Flavor.escaper (f : Flavor) : Escaper where
  escape := match f with
    | .mysql | .postgresql => Text.backslash
    | .sqlite => Text.doubled
  flavor := some f

end InlineSql
