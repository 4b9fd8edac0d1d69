namespace InlineSql.Text

-- A character is blank when it has the Unicode White_Space property. The
-- zero-width characters and the separators of the C0 range are not blank.
def isBlank (c : Char) : Bool :=
  let n := c.toNat
  (9 ≤ n && n ≤ 13) || n == 0x20 || n == 0x85 || n == 0xA0 || n == 0x1680 ||
    (0x2000 ≤ n && n ≤ 0x200A) || n == 0x2028 || n == 0x2029 || n == 0x202F ||
    n == 0x205F || n == 0x3000

def allBlank (s : String) : Bool := s.toList.all isBlank

def trim (s : String) : String :=
  .ofList ((s.toList.dropWhile isBlank).reverse.dropWhile isBlank).reverse

def sameWord (s word : String) : Bool :=
  s.toList.map Char.toUpper == word.toList.map Char.toUpper

end InlineSql.Text
