namespace InlineSql.Text

def backslashChar : Char → List Char
  | '\x00' => ['\\','0']
  | '\n' => ['\\','n']
  | '\r' => ['\\','r']
  | '\x1a' => ['\\','Z']
  | '\'' => ['\\','\'']
  | '"' => ['\\','"']
  | '\\' => ['\\','\\']
  | c => [c]

def backslash (s : String) : String := .ofList (s.toList.flatMap backslashChar)

def twice (mark c : Char) : List Char := if c = mark then [mark,mark] else [c]

def doubled (s : String) : String := .ofList (s.toList.flatMap (twice '\''))

-- A name between two marks, with the marks inside it doubled. Every text is a
-- name here, the empty one included.
def quoteName (mark : Char) (name : String) : String :=
  .ofList (mark :: name.toList.flatMap (twice mark) ++ [mark])

end InlineSql.Text
