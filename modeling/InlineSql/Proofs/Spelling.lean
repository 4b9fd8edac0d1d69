import InlineSql.Literal

namespace InlineSql

def isWordChar (c : Char) : Bool := c.isAlphanum || c == '_'

-- The characters of a fixed word. They stay folded, so that no unifier reads them by accident.
@[irreducible] def letters (word : String) : List Char := word.toList

theorem letters_eq (word : String) : letters word = word.toList := by rw [letters]

theorem isWordChar_of_isDigit {c : Char} (digit : c.isDigit = true) : isWordChar c = true := by
  simp [isWordChar,Char.isAlphanum,digit]

namespace Number

theorem digits_ten {n : Nat} {c : Char} (member : c ∈ Nat.toDigits 10 n) : c.isDigit = true :=
  Nat.isDigit_of_mem_toDigits (by decide) (by decide) member

theorem toList_int (n : Int) :
    (toString n).toList = (if n < 0 then ['-'] else []) ++ Nat.toDigits 10 n.natAbs := by
  cases n with
  | ofNat n => simp [toString,Int.repr]
  | negSucc n => simp [toString,Int.repr,Int.negSucc_lt_zero]

theorem toList_int64 (n : Int64) : (toString n).toList = (toString n.toInt).toList := rfl

theorem toList_nonnegative {n : Int64} (nonnegative : 0 ≤ n.toInt) :
    (toString n).toList = Nat.toDigits 10 n.toInt.toNat := by
  rw [toList_int64,toList_int,if_neg (by omega),List.nil_append]
  congr 1
  omega

theorem toList_uint64 (n : UInt64) : (toString n).toList = (toString (n.toNat : Int)).toList := rfl

theorem positional_ne_nil (d : Decimal) : d.positional [] ≠ [] := by
  have digits : d.text ≠ [] := Nat.toDigits_ne_nil
  unfold Decimal.positional
  split
  · simp [digits]
  · split <;> simp

theorem positional_chars (d : Decimal) :
    ∀ c ∈ d.positional [], isWordChar c = true ∨ c = '.' := by
  have digit : ∀ c ∈ d.text, isWordChar c = true := fun c member =>
    isWordChar_of_isDigit (digits_ten member)
  have zero : isWordChar '0' = true := by decide
  intro c member
  unfold Decimal.positional at member
  split at member
  · simp only [List.append_nil,List.mem_append,List.mem_replicate] at member
    rcases member with written | ⟨_,rfl⟩
    · exact .inl (digit c written)
    · exact .inl zero
  · split at member
    · simp only [List.mem_append,List.mem_cons] at member
      rcases member with before | rfl | after
      · exact .inl (digit c (List.mem_of_mem_take before))
      · exact .inr rfl
      · exact .inl (digit c (List.mem_of_mem_drop after))
    · simp only [List.cons_append,List.mem_cons,List.mem_append,List.mem_replicate] at member
      rcases member with rfl | rfl | ⟨_,rfl⟩ | written
      · exact .inl zero
      · exact .inr rfl
      · exact .inl zero
      · exact .inl (digit c written)

theorem toList_plain (x : Float) : ∃ (negative : Bool) (body : List Char), body ≠ [] ∧
    (∀ c ∈ body, isWordChar c = true ∨ c = '.') ∧
    (plain x).toList = (if negative then ['-'] else []) ++ body := by
  unfold plain
  cases parts x with
  | nan =>
    have word : "NaN".toList.all isWordChar = true := by decide
    have letter : ∀ c ∈ "NaN".toList, isWordChar c = true := List.all_eq_true.mp word
    exact ⟨false,"NaN".toList,by simp,fun c member => .inl (letter c member),rfl⟩
  | infinite negative =>
    have word : ['i','n','f'].all isWordChar = true := by decide
    have letter : ∀ c ∈ ['i','n','f'], isWordChar c = true := List.all_eq_true.mp word
    refine ⟨negative,['i','n','f'],by simp,fun c member => .inl (letter c member),?_⟩
    cases negative <;> simp [signed]
  | finite negative size =>
    refine ⟨negative,_,positional_ne_nil size.shortest,positional_chars size.shortest,?_⟩
    cases negative <;> simp [signed]

end Number

namespace Timestamp

theorem digits_padded {width n : Nat} {c : Char} (member : c ∈ padded width n) :
    c.isDigit = true := by
  simp only [padded,List.mem_append,List.mem_replicate] at member
  rcases member with ⟨_,rfl⟩ | written
  · decide
  · exact Number.digits_ten written

theorem text_chars (t : Timestamp) :
    ∀ c ∈ t.text.toList, c.isDigit = true ∨ c ∈ ['-',' ',':','.'] := by
  have year : ∀ c ∈ t.yearText, c.isDigit = true ∨ c = '-' := by
    intro c member
    unfold yearText at member
    split at member
    · rcases List.mem_cons.mp member with rfl | digits
      · exact .inr rfl
      · exact .inl (digits_padded digits)
    · exact .inl (digits_padded member)
  intro c member
  have fraction : c ∈ (if t.nanosecond = 0 then [] else '.' :: padded 6 (t.nanosecond / 1000)) →
      c.isDigit = true ∨ c = '.' := by
    intro member
    split at member
    · cases member
    · rcases List.mem_cons.mp member with rfl | digits
      · exact .inr rfl
      · exact .inl (digits_padded digits)
  simp only [text,dateText,minuteText,String.toList_ofList,List.mem_append,List.mem_cons] at member
  grind [digits_padded]

theorem text_inner (t : Timestamp) : ∀ c ∈ t.text.toList, c ≠ '\'' ∧ c ≠ '\\' := by
  intro c member
  rcases text_chars t c member with digit | separator
  · constructor <;> rintro rfl <;> revert digit <;> decide
  · constructor <;> rintro rfl <;> revert separator <;> decide

end Timestamp

namespace Text

theorem toList_backslash (s : String) :
    (backslash s).toList = s.toList.flatMap backslashChar := by simp [backslash]

theorem toList_doubled (s : String) :
    (doubled s).toList = s.toList.flatMap (twice '\'') := by simp [doubled]

theorem toList_quoteName (mark : Char) (name : String) : (quoteName mark name).toList =
    mark :: name.toList.flatMap (twice mark) ++ [mark] := by simp [quoteName]

end Text

theorem toList_stringLiteral (d : Dialect) (e : Escaper) (s : String) :
    (d.stringLiteral e s).toList =
      d.stringMark.toList ++ ('\'' :: (e.escape s).toList ++ ['\'']) := by
  simp [Dialect.stringLiteral]

theorem toList_listLiteral (d : Dialect) (e : Escaper) (items : List Value) :
    (d.listLiteral e items).toList =
      ['('] ++ [','].intercalate (items.map fun v => (d.encode e v).toList) ++ [')'] := by
  simp [Dialect.listLiteral,Dialect.encodeAll_map,Function.comp_def]

namespace Flavor

theorem dialect_flavor (f : Flavor) : f.dialect.flavor = f := by cases f <;> rfl

theorem dialect_quote (f : Flavor) (name : String) :
    f.dialect.quoteIdentifier name = f.quote name := by cases f <;> rfl

def limitWord : Flavor → String
  | .mysql => ","
  | .postgresql | .sqlite => " OFFSET "

def limitPair {α : Type} (f : Flavor) (offset count : α) : α × α :=
  if f = .mysql then (offset,count) else (count,offset)

theorem limitClause_text (f : Flavor) (offset count : Int64) :
    f.dialect.limitClause offset count = " LIMIT " ++ toString (f.limitPair offset count).1 ++
      (f.limitWord ++ toString (f.limitPair offset count).2) := by
  cases f <;> exact String.append_assoc

end Flavor
end InlineSql
