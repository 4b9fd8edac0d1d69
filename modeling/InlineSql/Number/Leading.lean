import InlineSql.Text.Blank

namespace InlineSql.Number

def digitValue (c : Char) : Nat := c.toNat - '0'.toNat

def denoted (digits : List Char) : Nat :=
  digits.foldl (fun n c => 10 * n + digitValue c) 0

def leadingNumber : List Char → Int
  | '-' :: rest => -denoted (rest.takeWhile Char.isDigit)
  | '+' :: rest => denoted (rest.takeWhile Char.isDigit)
  | rest => denoted (rest.takeWhile Char.isDigit)

-- Blanks in front are skipped, and a number outside the range of 64 bits becomes
-- the nearest end of that range.
def leadingInteger (s : String) : Int64 :=
  .ofIntClamp (leadingNumber (s.toList.dropWhile Text.isBlank))

end InlineSql.Number
