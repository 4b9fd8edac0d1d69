import InlineSql.Text.Invisible
import InlineSql.Text.Combining

namespace InlineSql.Text

def codePoint (c : Char) : List Char :=
  ['\\','u','\x7b'] ++ Nat.toDigits 16 c.toNat ++ ['\x7d']

def quotedChar : Char → List Char
  | '\x00' => ['\\','0']
  | '\t' => ['\\','t']
  | '\n' => ['\\','n']
  | '\r' => ['\\','r']
  | '"' => ['\\','"']
  | '\\' => ['\\','\\']
  | c => if isInvisible c || isCombining c then codePoint c else [c]

def quoted (s : String) : String := .ofList ('"' :: s.toList.flatMap quotedChar ++ ['"'])

def bracketed (items : List String) : String := "[" ++ ", ".intercalate items ++ "]"

def quotedList (items : List String) : String := bracketed (items.map quoted)

end InlineSql.Text
