import InlineSql.Proofs.Literal.Reader

namespace InlineSql

-- The name in front of a text. Between its marks a doubled mark stands for one mark, and a mark
-- with no other behind it ends the name.
def Reader.name (mark : Char) : List Char → Option (String × List Char)
  | [] => none
  | c :: rest =>
    if c = mark then (doubled mark rest).map fun found => (.ofList found.1,found.2) else none

namespace Reader

variable {mark : Char} {s rest text : List Char}

theorem doubled_written (read : doubled mark text = some (s,rest)) :
    text = s.flatMap (Text.twice mark) ++ mark :: rest ∧ rest.head? ≠ some mark := by
  fun_induction doubled mark text generalizing s with
  | case1 => cases read
  | case2 =>
    cases read
    exact ⟨rfl,nofun⟩
  | case3 later ih =>
    obtain ⟨⟨inside,behind⟩,found,whole⟩ := Option.map_eq_some_iff.mp read
    cases whole
    obtain ⟨rfl,apart⟩ := ih found
    exact ⟨by simp [Text.twice],apart⟩
  | case4 c later other =>
    cases read
    exact ⟨rfl,by simpa using other⟩
  | case5 c later other ih =>
    obtain ⟨⟨inside,behind⟩,found,whole⟩ := Option.map_eq_some_iff.mp read
    cases whole
    obtain ⟨rfl,apart⟩ := ih found
    exact ⟨by simp [Text.twice,other],apart⟩

theorem name_quoted (mark : Char) (s : String) {t : List Char} (apart : t.head? ≠ some mark) :
    name mark ((Text.quoteName mark s).toList ++ t) = some (s,t) := by
  rw [Text.toList_quoteName,List.cons_append,List.cons_append,List.append_assoc,
    List.singleton_append,name,if_pos rfl,doubled_text mark s.toList apart,Option.map_some,
    String.ofList_toList]

theorem quoted_of_name {s : String} {t : List Char} (read : name mark text = some (s,t)) :
    text = (Text.quoteName mark s).toList ++ t ∧ t.head? ≠ some mark := by
  cases text with
  | nil => cases read
  | cons c rest =>
    rw [name] at read
    split at read
    · rename_i opens
      subst opens
      obtain ⟨⟨inside,behind⟩,found,whole⟩ := Option.map_eq_some_iff.mp read
      cases whole
      obtain ⟨rfl,apart⟩ := doubled_written found
      exact ⟨by simp [Text.toList_quoteName],apart⟩
    · cases read

end Reader

def Parts (write : String → String) (sep : String) : Prop := ∀ a b x y,
  write a ++ sep ++ write b = write x ++ sep ++ write y → a = x ∧ b = y

structure NamesReadBack (mark : Char) (write : String → String) : Prop where
  reads : ∀ (name : String) (t : List Char), t.head? ≠ some mark →
    Reader.name mark ((write name).toList ++ t) = some (name,t)
  only : ∀ text name t, Reader.name mark text = some (name,t) →
    text = (write name).toList ++ t ∧ t.head? ≠ some mark
  injective : ∀ a b, write a = write b → a = b
  parted : ∀ sep : String, sep ≠ "" → sep.toList.head? ≠ some mark → Parts write sep

theorem unmarked_append {mark : Char} {sep : String} (filled : sep ≠ "")
    (apart : sep.toList.head? ≠ some mark) (behind : List Char) :
    (sep.toList ++ behind).head? ≠ some mark := by
  cases letters : sep.toList with
  | nil => exact absurd (String.toList_eq_nil_iff.mp letters) filled
  | cons c rest =>
    rw [letters] at apart
    exact apart

theorem quoteName_read_back (mark : Char) : NamesReadBack mark (Text.quoteName mark) := by
  have whole : ∀ name, Reader.name mark (Text.quoteName mark name).toList = some (name,[]) := by
    intro name
    have read := Reader.name_quoted mark name (t:=[]) nofun
    rwa [List.append_nil] at read
  have injective : ∀ a b, Text.quoteName mark a = Text.quoteName mark b → a = b := by
    intro a b same
    have read := whole a
    rw [same,whole b] at read
    cases read
    rfl
  constructor
  case reads => exact fun name t apart => Reader.name_quoted mark name apart
  case only => exact fun text name t read => Reader.quoted_of_name read
  case injective => exact injective
  case parted =>
    intro sep filled apart a b x y same
    have texts := congrArg String.toList same
    simp only [String.toList_append,List.append_assoc] at texts
    have left := Reader.name_quoted mark a
      (unmarked_append filled apart (Text.quoteName mark b).toList)
    have right := Reader.name_quoted mark x
      (unmarked_append filled apart (Text.quoteName mark y).toList)
    rw [texts,right,Option.some.injEq,Prod.mk.injEq] at left
    obtain ⟨rfl,rest⟩ := left
    have second := List.append_cancel_left rest
    exact ⟨rfl,(injective y b (String.toList_inj.mp second)).symm⟩

theorem names_read_back (f : Flavor) : NamesReadBack f.nameMark f.quote ∧
    f.dialect.flavor = f ∧
    NamesReadBack f.dialect.flavor.nameMark f.dialect.quoteIdentifier := by
  have family := f.dialect_flavor
  have quote : f.dialect.quoteIdentifier = f.quote := funext f.dialect_quote
  have law := quoteName_read_back f.nameMark
  refine ⟨law,family,?_⟩
  rw [family,quote]
  exact law

-- With nothing between them the two names are not told apart: no name at all and the mark alone
-- can change places.
theorem names_side_by_side : "".toList.head? ≠ some Flavor.mysql.nameMark ∧
    Flavor.mysql.quote "" ++ "" ++ Flavor.mysql.quote "\x60" =
      Flavor.mysql.quote "\x60" ++ "" ++ Flavor.mysql.quote "" ∧
    ¬ Parts Flavor.mysql.quote "" := by
  have same : Flavor.mysql.quote "" ++ "" ++ Flavor.mysql.quote "\x60" =
      Flavor.mysql.quote "\x60" ++ "" ++ Flavor.mysql.quote "" := by decide
  refine ⟨by decide,same,fun parts => ?_⟩
  obtain ⟨first,_⟩ := parts "" "\x60" "\x60" "" same
  exact absurd first (by decide)

end InlineSql
