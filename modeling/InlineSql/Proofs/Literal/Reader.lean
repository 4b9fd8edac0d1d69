import InlineSql.Proofs.Spelling
import InlineSql.Proofs.Value.Leaves

namespace InlineSql

inductive Literal where
  | null
  | truth (b : Bool)
  | number (n : Int)
  | text (s : String)
  | list (items : List Literal)

def Flavor.truth (f : Flavor) (b : Bool) : Literal :=
  if f = .postgresql then .truth b else .number (if b then 1 else 0)

namespace Value

-- Floats and raw text have no literal in this sense, and nothing is claimed about them.
def isExact : Value → Bool
  | .float _ | .raw _ => false
  | _ => true

mutual
def literal (f : Flavor) : Value → Literal
  | .null | .float _ | .raw _ => .null
  | .bool b => f.truth b
  | .int n => .number n.toInt
  | .nat n => .number n.toNat
  | .text s => .text s
  | .timestamp t => .text t.text
  | .list items => .list (literals f items)
def literals (f : Flavor) : List Value → List Literal
  | [] => []
  | v :: rest => literal f v :: literals f rest
end

theorem literal_list (f : Flavor) (items : List Value) :
    (Value.list items).literal f = .list (items.map (literal f)) := by
  rw [literal]
  congr 1
  induction items with
  | nil => simp [literals]
  | cons v rest ih => simp [literals,ih]

end Value

namespace Reader

def kept (c : Char) (found : List Char × List Char) : List Char × List Char :=
  (c :: found.1,found.2)

def undone : Char → Char
  | '0' => '\x00'
  | 'n' => '\n'
  | 'r' => '\r'
  | 'Z' => '\x1a'
  | c => c

def backslashed : List Char → Option (List Char × List Char)
  | [] => none
  | c :: rest =>
    if c = '\'' then some ([],rest)
    else if c = '\\' then match rest with
      | [] => none
      | d :: later => (backslashed later).map (kept (undone d))
    else (backslashed rest).map (kept c)

def doubled (mark : Char) : List Char → Option (List Char × List Char)
  | [] => none
  | c :: rest =>
    if c = mark then match rest with
      | [] => some ([],[])
      | d :: later => if d = mark then (doubled mark later).map (kept mark) else some ([],rest)
    else (doubled mark rest).map (kept c)

def asText (found : List Char × List Char) : Literal × List Char :=
  (.text (.ofList found.1),found.2)

def natural (text : List Char) : Option (Nat × List Char) :=
  let digits := text.takeWhile Char.isDigit
  if digits = [] then none
  else some (Nat.ofDigitChars 10 digits 0,text.dropWhile Char.isDigit)

def keyword (f : Flavor) (word tail : List Char) : Option (Literal × List Char) :=
  if word = ['n','u','l','l'] then some (.null,tail)
  else if f ≠ .postgresql then none
  else if word = ['T','R','U','E'] then some (.truth true,tail)
  else if word = ['F','A','L','S','E'] then some (.truth false,tail)
  else if word = ['E'] ∧ tail.head? = some '\'' then (backslashed tail.tail).map asText
  else none

def atom (f : Flavor) : List Char → Option (Literal × List Char)
  | [] => none
  | c :: rest =>
    if c = '\'' then (if f = .mysql then backslashed rest else doubled '\'' rest).map asText
    else if c = '-' then (natural rest).map fun found => (.number (-found.1),found.2)
    else if c.isDigit then (natural (c :: rest)).map fun found => (.number found.1,found.2)
    else keyword f ((c :: rest).takeWhile isWordChar) ((c :: rest).dropWhile isWordChar)

-- The fuel only makes the nesting total; the length of the text is always enough.
mutual
def literal (f : Flavor) : Nat → List Char → Option (Literal × List Char)
  | 0,_ => none
  | fuel+1,text =>
    if text.head? ≠ some '(' then atom f text
    else if text.tail.head? = some ')' then some (.list [],text.tail.tail)
    else (items f fuel text.tail).map fun found => (.list found.1,found.2)
def items (f : Flavor) : Nat → List Char → Option (List Literal × List Char)
  | 0,_ => none
  | fuel+1,text => match literal f fuel text with
    | some (first,')' :: tail) => some ([first],tail)
    | some (first,',' :: later) => (items f fuel later).map fun found => (first :: found.1,found.2)
    | _ => none
end

end Reader

def Flavor.readLiteral (f : Flavor) (text : List Char) : Option (Literal × List Char) :=
  Reader.literal f text.length text

def isDelimiter (c : Char) : Bool := [',',')',' ',';'].contains c

def Delimited (t : List Char) : Prop := t.head?.all isDelimiter = true

theorem word_of_delimiter {c : Char} (delimiter : isDelimiter c = true) : isWordChar c = false := by
  simp only [isDelimiter,List.contains_eq_mem,List.mem_cons,List.not_mem_nil,or_false,
    decide_eq_true_eq] at delimiter
  rcases delimiter with rfl | rfl | rfl | rfl <;> decide

theorem apart_of_word {c : Char} (word : isWordChar c = true) : c ≠ '(' ∧ c ≠ '\'' ∧ c ≠ '-' := by
  refine ⟨?_,?_,?_⟩
  all_goals rintro rfl; exact absurd word (by decide)

theorem Delimited.not_word {t : List Char} (delimited : Delimited t) :
    t.head?.any isWordChar = false := by
  cases t with
  | nil => rfl
  | cons c rest => exact word_of_delimiter delimited

theorem Delimited.not_digit {t : List Char} (delimited : Delimited t) :
    t.head?.any Char.isDigit = false := by
  cases t with
  | nil => rfl
  | cons c rest =>
    have word : isWordChar c = false := word_of_delimiter delimited
    cases digit : c.isDigit with
    | false => exact digit
    | true => rw [isWordChar_of_isDigit digit] at word; cases word

theorem Delimited.apart {t : List Char} (delimited : Delimited t) : t.head? ≠ some '\'' := by
  cases t with
  | nil => simp
  | cons c rest =>
    have delimiter : isDelimiter c = true := delimited
    have other : c ≠ '\'' := by rintro rfl; exact absurd delimiter (by decide)
    simpa using other

namespace Reader

theorem takeWhile_run {p : Char → Bool} {w t : List Char} (run : ∀ c ∈ w, p c = true)
    (stop : t.head?.any p = false) : (w ++ t).takeWhile p = w := by
  rw [List.takeWhile_append_of_pos run]
  cases t with
  | nil => simp
  | cons c rest =>
    have last : p c = false := stop
    simp [last]

theorem dropWhile_run {p : Char → Bool} {w t : List Char} (run : ∀ c ∈ w, p c = true)
    (stop : t.head?.any p = false) : (w ++ t).dropWhile p = t := by
  rw [List.dropWhile_append_of_pos run]
  cases t with
  | nil => rfl
  | cons c rest =>
    have last : p c = false := stop
    simp [last]

theorem backslashed_end (rest : List Char) : backslashed ('\'' :: rest) = some ([],rest) := by
  rw [backslashed.eq_def]
  exact if_pos rfl

theorem backslashed_escape (d : Char) (rest : List Char) :
    backslashed ('\\' :: d :: rest) = (backslashed rest).map (kept (undone d)) := by
  rw [backslashed.eq_def]
  exact if_neg (by decide)

theorem backslashed_plain {c : Char} (apostrophe : c ≠ '\'') (escape : c ≠ '\\')
    (rest : List Char) : backslashed (c :: rest) = (backslashed rest).map (kept c) := by
  rw [backslashed.eq_def]
  simp only [if_neg apostrophe,if_neg escape]

theorem doubled_end {mark : Char} {rest : List Char} (apart : rest.head? ≠ some mark) :
    doubled mark (mark :: rest) = some ([],rest) := by
  rw [doubled.eq_def]
  cases rest with
  | nil => simp
  | cons d later =>
    have other : d ≠ mark := by simpa using apart
    simp [other]

theorem doubled_mark (mark : Char) (rest : List Char) :
    doubled mark (mark :: mark :: rest) = (doubled mark rest).map (kept mark) := by
  rw [doubled.eq_def]
  simp

theorem doubled_plain {mark c : Char} (other : c ≠ mark) (rest : List Char) :
    doubled mark (c :: rest) = (doubled mark rest).map (kept c) := by
  rw [doubled.eq_def]
  simp only [if_neg other]

theorem backslashed_char (c : Char) (rest : List Char) :
    backslashed (Text.backslashChar c ++ rest) = (backslashed rest).map (kept c) := by
  unfold Text.backslashChar
  split
  case h_8 c _ _ _ _ apostrophe _ escape =>
    exact backslashed_plain apostrophe escape rest
  all_goals exact backslashed_escape _ rest

theorem backslashed_text (s rest : List Char) :
    backslashed (s.flatMap Text.backslashChar ++ '\'' :: rest) = some (s,rest) := by
  induction s with
  | nil => exact backslashed_end rest
  | cons c later ih =>
    rw [List.flatMap_cons,List.append_assoc,backslashed_char,ih]
    rfl

theorem doubled_char (mark c : Char) (rest : List Char) :
    doubled mark (Text.twice mark c ++ rest) = (doubled mark rest).map (kept c) := by
  unfold Text.twice
  split
  · rename_i same
    subst same
    exact doubled_mark c rest
  · rename_i other
    exact doubled_plain other rest

theorem doubled_text (mark : Char) (s : List Char) {rest : List Char}
    (apart : rest.head? ≠ some mark) :
    doubled mark (s.flatMap (Text.twice mark) ++ mark :: rest) = some (s,rest) := by
  induction s with
  | nil => exact doubled_end apart
  | cons c later ih =>
    rw [List.flatMap_cons,List.append_assoc,doubled_char,ih]
    rfl

theorem natural_digits (n : Nat) {t : List Char} (delimited : Delimited t) :
    natural (Nat.toDigits 10 n ++ t) = some (n,t) := by
  have digits : ∀ c ∈ Nat.toDigits 10 n, c.isDigit = true := fun _ => Number.digits_ten
  have filled : Nat.toDigits 10 n ≠ [] := Nat.toDigits_ne_nil
  rw [natural,takeWhile_run digits delimited.not_digit,dropWhile_run digits delimited.not_digit,
    if_neg filled,Nat.ofDigitChars_ten_toDigits]

def Reads (f : Flavor) (text : List Char) (l : Literal) : Prop :=
  text ≠ [] ∧ ∀ fuel t, text.length ≤ fuel → Delimited t → literal f fuel (text ++ t) = some (l,t)

theorem reads_atom {f : Flavor} {c : Char} {body : List Char} {l : Literal} (single : c ≠ '(')
    (read : ∀ t, Delimited t → atom f (c :: body ++ t) = some (l,t)) : Reads f (c :: body) l := by
  refine ⟨by simp,?_⟩
  intro fuel t enough delimited
  cases fuel with
  | zero => simp at enough
  | succ fuel =>
    have other : (c :: body ++ t).head? ≠ some '(' := by simpa using single
    rw [literal,if_pos other]
    exact read t delimited

theorem reads_keyword {f : Flavor} {word : List Char} {l : Literal} (filled : word ≠ [])
    (letters : word.all (fun c => isWordChar c && !c.isDigit) = true)
    (known : ∀ t, keyword f word t = some (l,t)) : Reads f word l := by
  cases word with
  | nil => exact absurd rfl filled
  | cons c body =>
    have letter : ∀ d ∈ c :: body, isWordChar d = true ∧ d.isDigit = false := by
      simpa only [List.all_eq_true,Bool.and_eq_true,Bool.not_eq_true'] using letters
    obtain ⟨first,digit⟩ := letter c (by simp)
    obtain ⟨bracket,apostrophe,sign⟩ := apart_of_word first
    have run : ∀ d ∈ c :: body, isWordChar d = true := fun d member => (letter d member).1
    apply reads_atom bracket
    intro t delimited
    have word := takeWhile_run run delimited.not_word
    have tail := dropWhile_run run delimited.not_word
    rw [List.cons_append] at word tail
    rw [List.cons_append,atom,if_neg apostrophe,if_neg sign,digit,word,tail]
    simpa using known t

theorem reads_null (f : Flavor) : Reads f "null".toList .null :=
  reads_keyword (by decide) (by decide) fun _ => rfl

theorem reads_digits (f : Flavor) (n : Nat) : Reads f (Nat.toDigits 10 n) (.number n) := by
  have digits : ∀ c ∈ Nat.toDigits 10 n, c.isDigit = true := fun _ => Number.digits_ten
  have read := fun t (delimited : Delimited t) => natural_digits n delimited
  cases text : Nat.toDigits 10 n with
  | nil => exact absurd text Nat.toDigits_ne_nil
  | cons c body =>
    rw [text] at digits read
    have first : c.isDigit = true := digits c (by simp)
    obtain ⟨bracket,apostrophe,sign⟩ := apart_of_word (isWordChar_of_isDigit first)
    apply reads_atom bracket
    intro t delimited
    have found := read t delimited
    rw [List.cons_append] at found
    rw [List.cons_append,atom,if_neg apostrophe,if_neg sign,if_pos first,found]
    rfl

theorem reads_int (f : Flavor) (n : Int) : Reads f (toString n).toList (.number n) := by
  rw [Number.toList_int]
  by_cases negative : n < 0
  · rw [if_pos negative]
    apply reads_atom (by decide)
    intro t delimited
    have value : (-(n.natAbs : Int)) = n := by omega
    change atom f ('-' :: (Nat.toDigits 10 n.natAbs ++ t)) = _
    rw [atom,if_neg (by decide),if_pos rfl,natural_digits _ delimited,Option.map_some,value]
  · have value : (n.natAbs : Int) = n := by omega
    have read := reads_digits f n.natAbs
    rw [value] at read
    rw [if_neg negative]
    exact read

theorem reads_bool (f : Flavor) (b : Bool) :
    Reads f (f.dialect.boolLiteral b).toList (f.truth b) := by
  cases f with
  | postgresql => cases b <;> exact reads_keyword (by decide) (by decide) fun _ => rfl
  | mysql => cases b with
    | false => exact reads_digits .mysql 0
    | true => exact reads_digits .mysql 1
  | sqlite => cases b with
    | false => exact reads_digits .sqlite 0
    | true => exact reads_digits .sqlite 1

theorem reads_quoted {f : Flavor} {body : List Char} {s : String}
    (inside : ∀ t, t.head? ≠ some '\'' → (if f = .mysql then backslashed (body ++ '\'' :: t)
      else doubled '\'' (body ++ '\'' :: t)) = some (s.toList,t)) :
    Reads f ('\'' :: body ++ ['\'']) (.text s) := by
  apply reads_atom (by decide)
  intro t delimited
  have text : '\'' :: (body ++ ['\'']) ++ t = '\'' :: (body ++ '\'' :: t) := by simp
  change atom f ('\'' :: (body ++ ['\'']) ++ t) = _
  rw [text,atom,if_pos rfl,inside t delimited.apart]
  simp [asText]

theorem reads_escape_string (s : String) :
    Reads .postgresql ('E' :: '\'' :: s.toList.flatMap Text.backslashChar ++ ['\'']) (.text s) := by
  apply reads_atom (by decide)
  intro t _
  have word : isWordChar 'E' = true := by decide
  have stop : isWordChar '\'' = false := by decide
  have digit : 'E'.isDigit = false := by decide
  have inside := backslashed_text s.toList t
  simp [atom,keyword,word,stop,digit,inside,asText]

theorem reads_string (f : Flavor) (s : String) :
    Reads f (f.dialect.stringLiteral f.escaper s).toList (.text s) := by
  rw [toList_stringLiteral]
  cases f with
  | mysql =>
    change Reads .mysql ('\'' :: (Text.backslash s).toList ++ ['\'']) _
    rw [Text.toList_backslash]
    exact reads_quoted fun t _ => backslashed_text s.toList t
  | postgresql =>
    change Reads .postgresql ('E' :: '\'' :: (Text.backslash s).toList ++ ['\'']) _
    rw [Text.toList_backslash]
    exact reads_escape_string s
  | sqlite =>
    change Reads .sqlite ('\'' :: (Text.doubled s).toList ++ ['\'']) _
    rw [Text.toList_doubled]
    exact reads_quoted fun t apart => doubled_text '\'' s.toList apart

theorem backslashed_as_is {s : List Char} (plain : ∀ c ∈ s, c ≠ '\'' ∧ c ≠ '\\')
    (rest : List Char) : backslashed (s ++ '\'' :: rest) = some (s,rest) := by
  induction s with
  | nil => exact backslashed_end rest
  | cons c later ih =>
    obtain ⟨apostrophe,escape⟩ := plain c (by simp)
    have others := ih fun d member => plain d (List.mem_cons_of_mem c member)
    rw [List.cons_append,backslashed_plain apostrophe escape,others]
    rfl

theorem doubled_as_is {mark : Char} {s rest : List Char} (plain : ∀ c ∈ s, c ≠ mark)
    (apart : rest.head? ≠ some mark) : doubled mark (s ++ mark :: rest) = some (s,rest) := by
  induction s with
  | nil => exact doubled_end apart
  | cons c later ih =>
    have others := ih fun d member => plain d (List.mem_cons_of_mem c member)
    rw [List.cons_append,doubled_plain (plain c (by simp)),others]
    rfl

theorem reads_timestamp (f : Flavor) (t : Timestamp) :
    Reads f ("'" ++ t.text ++ "'").toList (.text t.text) := by
  have text : ("'" ++ t.text ++ "'").toList = '\'' :: t.text.toList ++ ['\''] := by simp
  rw [text]
  apply reads_quoted
  intro rest apart
  split
  · exact backslashed_as_is t.text_inner rest
  · exact doubled_as_is (fun c member => (t.text_inner c member).1) apart

theorem reads_leaf (f : Flavor) {v : Value} (leaf : v.isList = false) (exact : v.isExact = true) :
    Reads f (f.dialect.encode f.escaper v).toList (v.literal f) := by
  cases v with
  | null => rw [Dialect.encode,Value.literal]; exact reads_null f
  | bool b => rw [Dialect.encode,Value.literal]; exact reads_bool f b
  | int n => rw [Dialect.encode,Value.literal]; exact reads_int f n.toInt
  | nat n => rw [Dialect.encode,Value.literal]; exact reads_int f n.toNat
  | text s => rw [Dialect.encode,Value.literal]; exact reads_string f s
  | timestamp t => rw [Dialect.encode,Value.literal]; exact reads_timestamp f t
  | float x => cases exact
  | raw sql => cases exact
  | list items => cases leaf

-- The items of a list, in front of the bracket that closes it. Fuel is spent on every
-- item and every item has a character.
theorem items_intercalate {α : Type} {f : Flavor} {spell : α → List Char} {means : α → Literal}
    (v : α) (rest : List α) (each : ∀ w ∈ v :: rest, Reads f (spell w) (means w)) (t : List Char)
    {fuel : Nat} (enough : ([','].intercalate ((v :: rest).map spell)).length < fuel) :
    items f fuel ([','].intercalate ((v :: rest).map spell) ++ ')' :: t) =
      some ((v :: rest).map means,t) := by
  obtain ⟨filled,first⟩ := each v (by simp)
  induction rest generalizing v fuel with
  | nil =>
    cases fuel with
    | zero => cases enough
    | succ fuel =>
      have within : (spell v).length ≤ fuel := by simp at enough; omega
      have closed : Delimited (')' :: t) := by simp [Delimited,isDelimiter]
      have read := first fuel (')' :: t) within closed
      simp [items,read]
  | cons second later ih =>
    cases fuel with
    | zero => cases enough
    | succ fuel =>
      have following : ∀ w ∈ second :: later, Reads f (spell w) (means w) := fun w member =>
        each w (List.mem_cons_of_mem v member)
      rw [List.map_cons,List.map_cons,List.intercalate_cons_cons,← List.map_cons] at enough ⊢
      have size := List.length_pos_iff.mpr filled
      simp only [List.length_append,List.length_singleton] at enough
      have within : (spell v).length ≤ fuel := by omega
      have others : ([','].intercalate ((second :: later).map spell)).length < fuel := by omega
      have parted : Delimited (',' :: ([','].intercalate ((second :: later).map spell) ++
          ')' :: t)) := by simp [Delimited,isDelimiter]
      have read := first fuel _ within parted
      obtain ⟨fresh,next⟩ := following second (by simp)
      have remaining := ih second following others fresh next
      rw [List.append_assoc,List.append_assoc,List.singleton_append,items,read]
      simp only [remaining]
      rfl

def opensLiteral (c : Char) : Bool := isWordChar c || ['(','\'','-'].contains c

theorem Reads.opens {f : Flavor} {text : List Char} {l : Literal} (reads : Reads f text l) :
    text.head?.any opensLiteral = true := by
  cases text with
  | nil => exact absurd rfl reads.1
  | cons c body =>
    obtain ⟨_,reading⟩ := reads
    have read := reading (c :: body).length [] (Nat.le_refl _) rfl
    cases opens : opensLiteral c with
    | true => exact opens
    | false =>
      simp only [opensLiteral,Bool.or_eq_false_iff,List.contains_eq_mem,List.mem_cons,
        List.not_mem_nil,or_false,decide_eq_false_iff_not,not_or] at opens
      obtain ⟨word,bracket,apostrophe,sign⟩ := opens
      have digit : c.isDigit = false := by
        cases digit : c.isDigit with
        | false => rfl
        | true => rw [isWordChar_of_isDigit digit] at word; cases word
      simp [literal,atom,keyword,word,digit,bracket,apostrophe,sign] at read

theorem reads_list {α : Type} {f : Flavor} {spell : α → List Char} {means : α → Literal}
    {vs : List α} (each : ∀ v ∈ vs, Reads f (spell v) (means v)) :
    Reads f (['('] ++ [','].intercalate (vs.map spell) ++ [')']) (.list (vs.map means)) := by
  refine ⟨by simp,?_⟩
  intro fuel t enough _
  cases fuel with
  | zero => simp at enough
  | succ fuel =>
    have text : ['('] ++ [','].intercalate (vs.map spell) ++ [')'] ++ t =
        '(' :: ([','].intercalate (vs.map spell) ++ ')' :: t) := by simp
    rw [text,literal,if_neg (by simp),List.tail_cons]
    cases vs with
    | nil => rfl
    | cons v rest =>
      have opened : ([','].intercalate ((v :: rest).map spell) ++ ')' :: t).head? ≠ some ')' := by
        have start := (each v (by simp)).opens
        cases spelled : spell v with
        | nil => rw [spelled] at start; cases start
        | cons c body =>
          have opens : opensLiteral c = true := by simpa [spelled] using start
          have other : c ≠ ')' := by rintro rfl; exact absurd opens (by decide)
          cases rest <;> simpa [spelled] using other
      have within : ([','].intercalate ((v :: rest).map spell)).length < fuel := by
        simp only [List.length_append,List.length_singleton] at enough
        omega
      rw [if_neg opened,items_intercalate v rest each t within]
      rfl

theorem reads_encode (f : Flavor) {v : Value} (exact : v.leaves Value.isExact = true) :
    Reads f (f.dialect.encode f.escaper v).toList (v.literal f) := by
  induction v using Value.nesting with
  | leaf v leaf =>
    rw [Value.leaves_leaf _ leaf] at exact
    exact reads_leaf f leaf exact
  | list items ih =>
    rw [Value.leaves_list,List.all_eq_true] at exact
    rw [Value.literal_list,Dialect.encode_list,toList_listLiteral]
    exact reads_list fun v member => ih v member (exact v member)

end Reader

-- Reading undoes encoding: it takes exactly the literal, leaves what stands behind it, and finds
-- the texts, the numbers and the nesting that were written.
theorem readLiteral_encode (f : Flavor) {v : Value} (exact : v.leaves Value.isExact = true)
    {t : List Char} (delimited : Delimited t) :
    f.readLiteral ((f.dialect.encode f.escaper v).toList ++ t) = some (v.literal f,t) := by
  obtain ⟨_,read⟩ := Reader.reads_encode f exact
  refine read _ t ?_ delimited
  simp

theorem readLiteral_nested :
    let v := Value.list [.text "it's\\",.list [.int (-3),.null],.bool true,.list []]
    v.leaves Value.isExact = true ∧ Delimited [',','1'] ∧
      Flavor.mysql.readLiteral
          ((Flavor.mysql.dialect.encode Flavor.mysql.escaper v).toList ++ [',','1']) =
        some (.list [.text "it's\\",.list [.number (-3),.null],.number 1,.list []],[',','1']) := by
  intro v
  have exact : v.leaves Value.isExact = true := by decide
  have delimited : Delimited [',','1'] := rfl
  have read := readLiteral_encode .mysql exact delimited
  exact ⟨exact,delimited,read⟩

end InlineSql
