import InlineSql.Proofs.Reading.Legible
import InlineSql.Proofs.Statement.Written

namespace InlineSql

def Test.Good (f : Flavor) : Test → Prop
  | .compare operator value => (operator ≠ "" ∧ ∀ c ∈ operator.toList, isOperatorChar c = true) ∧
      Reader.Reads f (value.written f) value
  | .member items => Reader.Reads f (f.rowText items) (.list items)

structure Condition.Good (f : Flavor) (c : Condition) : Prop where
  link : ∀ word ∈ c.link, word = .and ∨ word = .or
  test : c.test.Good f

section
variable (f : Flavor)

theorem legible_literal : Legible (Literal.written f)
    (fun l => Reader.Reads f (l.written f) l) (Begins isDelimiter) :=
  legible_of_reads id (fun _ _ same => same) fun _ reads => reads

theorem legible_row : Legible f.rowText
    (fun row => Reader.Reads f (f.rowText row) (.list row)) (Begins isDelimiter) :=
  legible_of_reads Literal.list (fun _ _ same => Literal.list.inj same) fun _ reads => reads

theorem legible_int : Legible (fun n : Int => (toString n).toList) (fun _ => True)
    (Begins isDelimiter) :=
  legible_of_reads Literal.number (fun _ _ same => Literal.number.inj same)
    fun n _ => Reader.reads_int .mysql n

variable {f}

theorem begins_literal {test : Char → Bool}
    (opens : ∀ c, Reader.opensLiteral c = true → test c = true) {text : List Char} {l : Literal}
    (reads : Reader.Reads f text l) (t : List Char) :
    Begins test (text ++ t) := by
  have first := reads.opens
  cases text with
  | nil => cases first
  | cons c body => exact opens c first

theorem begins_letters {test : Char → Bool} {word : String}
    (first : word.toList.head?.any test = true) (t : List Char) :
    Begins test (letters word ++ t) := by
  rw [letters_eq]
  cases spelled : word.toList with
  | nil => rw [spelled] at first; cases first
  | cons c body => rw [spelled] at first; exact first

theorem begins_filled {test other : Char → Bool} {s : String} (filled : s ≠ "")
    (all : ∀ c ∈ s.toList, test c = true) (shown : ∀ c, test c = true → other c = true)
    (t : List Char) : Begins other (s.toList ++ t) := by
  cases spelled : s.toList with
  | nil => exact absurd (String.toList_eq_nil_iff.mp spelled) filled
  | cons c body =>
    rw [spelled] at all
    exact shown c (all c (by simp))

theorem operator_of_opens {c : Char} (opens : Reader.opensLiteral c = true) :
    (!isOperatorChar c) = true := by
  cases sign : isOperatorChar c with
  | false => rfl
  | true =>
    simp only [isOperatorChar,List.contains_eq_mem,List.mem_cons,List.not_mem_nil,or_false,
      decide_eq_true_eq] at sign
    rcases sign with rfl | rfl | rfl | rfl <;> exact absurd opens (by decide)

theorem begins_test {t : Test} (good : t.Good f) (rest : List Char) :
    Begins (fun c => c == ' ' || isOperatorChar c) (t.written f ++ rest) := by
  cases t with
  | compare operator value =>
    obtain ⟨⟨filled,signs⟩,_⟩ := good
    rw [Test.written,List.append_assoc]
    exact begins_filled filled signs (fun c sign => by simp [sign]) _
  | member items =>
    rw [Test.written,List.append_assoc]
    exact begins_letters rfl _

theorem legible_test : Legible (Test.written f) (Test.Good f) (Begins isDelimiter) := by
  have compared := (legible_run isOperatorChar).both (legible_literal f) fun l t reads _ =>
    begins_literal (fun c => operator_of_opens) reads t
  have listed := (legible_row f).after (letters " IN ")
  have unlike : ∀ operator l items t u, (Test.compare operator l).Good f →
      (Test.compare operator l).written f ++ t ≠ (Test.member items).written f ++ u := by
    intro operator l items t u good same
    obtain ⟨⟨filled,signs⟩,_⟩ := good
    have sign : Begins isOperatorChar (operator.toList ++ (l.written f ++ t)) :=
      begins_filled filled signs (fun _ => id) _
    have space : Begins (fun c => c == ' ') (letters " IN " ++ (f.rowText items ++ u)) :=
      begins_letters rfl _
    rw [Test.written,Test.written,List.append_assoc,List.append_assoc] at same
    obtain ⟨c,operatorChar,blank⟩ := sign.meet (same ▸ space)
    rw [beq_iff_eq.mp blank] at operatorChar
    cases operatorChar
  intro a b left right t u first second same
  cases a with
  | compare operator value =>
    cases b with
    | compare other literal =>
      obtain ⟨equal,rest⟩ := compared (operator,value) (other,literal) ⟨left.1.2,left.2⟩
        ⟨right.1.2,right.2⟩ t u first second same
      cases equal
      exact ⟨rfl,rest⟩
    | member items => exact absurd same (unlike _ _ _ _ _ left)
  | member items =>
    cases b with
    | compare other literal => exact absurd same.symm (unlike _ _ _ _ _ right)
    | member others =>
      obtain ⟨rfl,rest⟩ := listed items others left right t u first second same
      exact ⟨rfl,rest⟩

def linkWords : List (List Char) := [" WHERE ".toList," AND ".toList," OR ".toList]

theorem leads_link {link : Option Connective} (known : ∀ word ∈ link, word = .and ∨ word = .or)
    (t : List Char) : Leads linkWords (letters (linkText link) ++ t) := by
  rw [letters_eq]
  refine leads_word ?_ t
  cases link with
  | none => simp [linkWords,linkText]
  | some connective =>
    rcases known connective rfl with rfl | rfl <;> simp [linkWords,linkText,Connective.word]

theorem legible_link : Legible (fun link => letters (linkText link))
    (fun link => ∀ word ∈ link, word = Connective.and ∨ word = .or) (fun _ => True) := by
  have known : ∀ link : Option Connective, (∀ word ∈ link, word = .and ∨ word = .or) →
      link = none ∨ link = some .and ∨ link = some .or := by
    intro link each
    cases link with
    | none => exact .inl rfl
    | some connective => rcases each connective rfl with rfl | rfl <;> simp
  intro a b left right t u _ _ same
  rcases known a left with rfl | rfl | rfl <;> rcases known b right with rfl | rfl | rfl <;>
    simp_all [letters_eq,linkText,Connective.word]

theorem legible_condition : Legible f.conditionText (Condition.Good f) (Begins isDelimiter) := by
  have mark : ∀ c : Char, (c == ' ' || isOperatorChar c) = true → (c != f.nameMark) = true := by
    intro c shown
    simp only [isOperatorChar,Bool.or_eq_true,beq_iff_eq,List.contains_eq_mem,List.mem_cons,
      List.not_mem_nil,or_false,decide_eq_true_eq] at shown
    rcases shown with rfl | rfl | rfl | rfl | rfl <;> cases f <;> decide
  have tested := (legible_name f).both (legible_test (f:=f)) fun _ t good _ =>
    (begins_test good t).weaken mark
  have whole := legible_link.both tested fun _ _ _ _ => trivial
  have parts := whole.through (fun c : Condition => (c.link,c.column,c.test)) (by
    rintro ⟨_,_,_⟩ ⟨_,_,_⟩ same
    cases same
    rfl)
  exact parts.weaken (fun c good => ⟨good.link,trivial,good.test⟩) fun _ => id

def clauseWords : List (List Char) :=
  [" GROUP BY ".toList," ORDER BY ".toList," LIMIT ".toList,";".toList]

theorem apart_letters {words : List (List Char)} {w : String}
    (unlike : words.all (fun v => !v.isPrefixOf w.toList && !w.toList.isPrefixOf v) = true)
    (t : List Char) : ¬ Leads words (letters w ++ t) := by
  rw [letters_eq]
  exact Leads.apart unlike t

theorem leads_conditions {conditions : List Condition} (good : ∀ c ∈ conditions, c.Good f)
    {words : List (List Char)} {t : List Char} (leads : Leads words t) :
    Leads (linkWords ++ words) (f.conditionsText conditions ++ t) := by
  cases conditions with
  | nil => exact leads.more (List.subset_append_right linkWords words)
  | cons c rest =>
    have first := leads_link (good c (by simp)).link (f.nameText c.column ++ c.test.written f ++
      (f.conditionsText rest ++ t))
    have text : f.conditionsText (c :: rest) ++ t = letters (linkText c.link) ++
        (f.nameText c.column ++ c.test.written f ++ (f.conditionsText rest ++ t)) := by
      simp [Flavor.conditionsText,Flavor.conditionText]
    rw [text]
    exact first.more (List.subset_append_left linkWords words)

theorem legible_conditions : Legible f.conditionsText (fun l => ∀ c ∈ l, c.Good f)
    (Leads clauseWords) := by
  have text (c : Condition) (t : List Char) : f.conditionText c ++ t =
      letters (linkText c.link) ++ (f.nameText c.column ++ (c.test.written f ++ t)) := by
    simp [Flavor.conditionText]
  refine (legible_condition (f:=f)).flatMap (fun t leads => leads.begins (by decide)) ?_ ?_
  · intro c t good
    rw [text]
    exact (leads_link good.link _).begins (by decide)
  · intro c t good
    rw [text]
    obtain ⟨link,column,test⟩ := c
    cases link with
    | none => exact apart_letters (w:=" WHERE ") (by decide) _
    | some connective =>
      rcases good.link connective rfl with rfl | rfl
      · exact apart_letters (w:=" AND ") (by decide) _
      · exact apart_letters (w:=" OR ") (by decide) _

theorem legible_group : Legible f.groupText (fun _ => True) (Leads (clauseWords.drop 1)) := by
  have name : Legible f.nameText (fun _ => True) (Leads (clauseWords.drop 1)) :=
    (legible_name f).weaken (fun _ => id) fun t leads => leads.begins (by cases f <;> decide)
  exact (name.optional (apart_letters (by decide))).weaken (fun _ _ _ _ => trivial) fun _ => id

theorem leads_group (group : Option String) {t : List Char} (leads : Leads (clauseWords.drop 1) t) :
    Leads clauseWords (f.groupText group ++ t) := by
  cases group with
  | none => exact leads.more (List.drop_subset 1 clauseWords)
  | some key =>
    rw [Flavor.groupText,Option.elim_some,List.append_assoc,letters_eq]
    exact leads_word (by decide) _

theorem begins_name {test : Char → Bool} (mark : test f.nameMark = true) (name : String)
    (t : List Char) : Begins test (f.nameText name ++ t) := by
  have text : (f.nameText name).head? = some f.nameMark := by
    simp [Flavor.nameText,Flavor.quote,Text.quoteName]
  cases spelled : f.nameText name with
  | nil => rw [spelled] at text; cases text
  | cons c body =>
    rw [spelled] at text
    cases text
    exact mark

-- What may follow a list of things that begin with names is no such thing.
theorem name_apart {words : List (List Char)}
    (unlike : words.all (fun w => w.head?.any (· != f.nameMark)) = true) (name : String)
    (t : List Char) : ¬ Leads words (f.nameText name ++ t) := by
  intro leads
  have mark : Begins (· == f.nameMark) (f.nameText name ++ t) := begins_name (by simp) name t
  obtain ⟨c,equal,unequal⟩ := mark.meet (leads.begins unlike)
  simp_all

theorem same_empty {α : Type} (a b : List α) (left : a.isEmpty = true) (right : b.isEmpty = true) :
    a = b := by rw [List.isEmpty_iff.mp left,List.isEmpty_iff.mp right]

theorem legible_sort : Legible f.sortText (fun _ => True)
    (Leads ([','] :: clauseWords.drop 2)) := by
  have direction : Legible directionText (fun _ => True)
      (Leads ([','] :: clauseWords.drop 2)) := by
    have apart : ∀ t, ¬ Leads ([','] :: clauseWords.drop 2) (letters " DESC" ++ t) :=
      apart_letters (by decide)
    intro a b _ _ t u first second same
    cases a <;> cases b
    · exact ⟨rfl,same⟩
    · exact absurd (same ▸ first) (apart u)
    · exact absurd (same ▸ second) (apart t)
    · exact ⟨rfl,List.append_cancel_left same⟩
  have both := (legible_name f).both direction fun d t _ leads => by
    cases d with
    | ascending => exact leads.begins (by cases f <;> decide)
    | descending => exact begins_letters (by cases f <;> decide) t
  have parts := both.through (fun k : SortKey => (k.column,k.direction)) (by
    rintro ⟨_,_⟩ ⟨_,_⟩ same
    cases same
    rfl)
  exact parts.weaken (fun _ _ => ⟨trivial,trivial⟩) fun _ => id

theorem legible_orders : Legible f.orderText (fun _ => True) (Leads (clauseWords.drop 2)) := by
  have list : Legible (fun l : List SortKey => [','].intercalate (l.map f.sortText))
      (fun l => ∀ k ∈ l, True) (Leads (clauseWords.drop 2)) := by
    refine (legible_sort (f:=f)).intercalate ?_ ?_ ?_ ?_
    · exact fun t leads => leads.more (List.subset_cons_self _ _)
    · exact fun t => leads_word (by simp) t
    · exact Leads.apart (by decide)
    · intro k t _
      rw [Flavor.sortText,List.append_assoc]
      exact name_apart (by cases f <;> decide) k.column _
  have clause := list.clause same_empty (apart_letters (w:=" ORDER BY ") (by decide))
  exact clause.weaken (fun _ _ _ _ => trivial) fun _ => id

theorem leads_orders (orderings : List SortKey) {t : List Char}
    (leads : Leads (clauseWords.drop 2) t) :
    Leads (clauseWords.drop 1) (f.orderText orderings ++ t) := by
  unfold Flavor.orderText
  split
  · exact leads.more (List.drop_subset 1 (clauseWords.drop 1))
  · rw [List.append_assoc,letters_eq]
    exact leads_word (by decide) _

theorem limitPair_determined {a b : Int × Int} (same : f.limitPair a.1 a.2 = f.limitPair b.1 b.2) :
    a = b := by
  obtain ⟨offset,count⟩ := a
  obtain ⟨other,number⟩ := b
  cases f <;> simp_all [Flavor.limitPair]

theorem legible_window : Legible f.windowText (fun _ => True) (Leads (clauseWords.drop 3)) := by
  have between : ∀ t, Begins isDelimiter (f.limitWord.toList ++ t) := by
    cases f <;> exact fun _ => rfl
  have second := legible_int.after f.limitWord.toList
  have pair := (legible_int.both second fun n t _ _ => by
    rw [List.append_assoc]
    exact between _).through (fun w : Int × Int => f.limitPair w.1 w.2)
      fun _ _ => limitPair_determined
  have ended : Legible _ (fun _ => True) (Leads (clauseWords.drop 3)) :=
    pair.weaken (fun _ _ => ⟨trivial,trivial⟩) fun t leads => leads.begins (by decide)
  exact (ended.optional (apart_letters (w:=" LIMIT ") (by decide))).weaken
    (fun _ _ _ _ => trivial) fun _ => id

theorem leads_window (window : Option (Int × Int)) {t : List Char}
    (leads : Leads (clauseWords.drop 3) t) :
    Leads (clauseWords.drop 2) (f.windowText window ++ t) := by
  cases window with
  | none => exact leads.more (List.drop_subset 1 (clauseWords.drop 2))
  | some w =>
    rw [Flavor.windowText,Option.elim_some,List.append_assoc,letters_eq]
    exact leads_word (by decide) _

theorem legible_words : Legible String.toList IsName (Begins fun c => !isWordChar c) :=
  (legible_run isWordChar).weaken (fun _ name => name.2) fun _ => id

theorem begins_words {names : List String} (filled : names ≠ []) (each : ∀ c ∈ names, IsName c)
    (t : List Char) : Begins isWordChar ([','].intercalate (names.map String.toList) ++ t) := by
  cases names with
  | nil => exact absurd rfl filled
  | cons c rest =>
    obtain ⟨named,letters⟩ := each c (by simp)
    cases rest with
    | nil =>
      rw [List.map_singleton,List.intercalate_singleton]
      exact begins_filled named letters (fun _ => id) t
    | cons d later =>
      rw [List.map_cons,List.map_cons,List.intercalate_cons_cons,List.append_assoc,
        List.append_assoc]
      exact begins_filled named letters (fun _ => id) _

theorem legible_names {words : List (List Char)}
    (closing : words.all (fun w => w.head?.any fun c => !isWordChar c && c != ',') = true) :
    Legible (fun l : List String => [','].intercalate (l.map String.toList))
      (fun l => ∀ c ∈ l, IsName c) (Leads words) := by
  have tail : ∀ t, Leads words t → Begins (fun c => !isWordChar c && c != ',') t :=
    fun t leads => leads.begins closing
  refine legible_words.intercalate ?_ ?_ ?_ ?_
  · intro t leads
    apply (tail t leads).weaken
    intro c both
    rw [Bool.and_eq_true] at both
    obtain ⟨outside,_⟩ := both
    exact outside
  · exact fun _ => rfl
  · intro t leads
    have comma := tail _ leads
    cases comma
  · intro c t name leads
    obtain ⟨named,letters⟩ := name
    have word : Begins isWordChar (c.toList ++ t) := begins_filled named letters (fun _ => id) t
    obtain ⟨d,inside,outside⟩ := word.meet (tail _ leads)
    simp [inside] at outside

theorem legible_columns : Legible Flavor.columnsText (fun l => ∀ c ∈ l, IsName c)
    (Leads [" FROM ".toList]) := by
  apply (legible_names (by decide)).orWord same_empty
  intro names t u each filled _ _ same
  have word := begins_words (by simpa using filled) each u
  have star : Begins (fun c => c == '*') (letters "*" ++ t) := begins_letters rfl t
  rw [same] at star
  obtain ⟨c,inside,equal⟩ := word.meet star
  rw [beq_iff_eq.mp equal] at inside
  cases inside

theorem legible_assignments : Legible
    (fun l : List (String × Literal) => [',',' '].intercalate (l.map f.assignmentText))
    (fun l => ∀ entry ∈ l, Reader.Reads f (entry.2.written f) entry.2)
    (Leads (linkWords ++ clauseWords.drop 3)) := by
  have entry : Legible f.assignmentText (fun entry => Reader.Reads f (entry.2.written f) entry.2)
      (Begins isDelimiter) := by
    have both := (legible_name f).both ((legible_literal f).after (letters "=")) fun l t _ _ => by
      rw [List.append_assoc]
      exact begins_letters (by cases f <;> decide) _
    exact both.weaken (fun _ reads => ⟨trivial,reads⟩) fun _ => id
  refine entry.intercalate ?_ ?_ ?_ ?_
  · exact fun t leads => leads.begins (by decide)
  · exact fun _ => rfl
  · exact Leads.apart (by decide)
  · intro entry t _
    rw [Flavor.assignmentText,List.append_assoc]
    exact name_apart (by cases f <;> decide) entry.1 _

theorem legible_rows :
    Legible (fun rows : List (List Literal) => [','].intercalate (rows.map f.rowText))
    (fun rows => ∀ row ∈ rows, Reader.Reads f (f.rowText row) (.list row))
    (Leads (clauseWords.drop 3)) := by
  refine (legible_row f).intercalate ?_ ?_ ?_ ?_
  · exact fun t leads => leads.begins (by decide)
  · exact fun _ => rfl
  · exact Leads.apart (by decide)
  · intro row t reads leads
    have opens : Begins Reader.opensLiteral (f.rowText row ++ t) :=
      begins_literal (fun _ => id) reads t
    have other : Begins (fun c => !Reader.opensLiteral c) (f.rowText row ++ t) :=
      leads.begins (by decide)
    obtain ⟨c,opening,closing⟩ := opens.meet other
    simp [opening] at closing

end
end InlineSql
