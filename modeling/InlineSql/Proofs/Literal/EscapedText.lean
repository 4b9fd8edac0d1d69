import InlineSql.Proofs.Literal.Reader

-- Escape strings, read by the rules of the database that knows them. These are not the rules
-- by which the texts in them are written.
namespace InlineSql.EscapeString

def digit? (base : Nat) (c : Char) : Option Nat :=
  let value :=
    if c.isDigit then some (c.toNat - '0'.toNat)
    else if 'a' ≤ c ∧ c ≤ 'f' then some (c.toNat - 'a'.toNat + 10)
    else if 'A' ≤ c ∧ c ≤ 'F' then some (c.toNat - 'A'.toNat + 10)
    else none
  value.filter (· < base)

def digits (base : Nat) : Nat → List Char → List Nat × List Char
  | limit+1,c :: rest => match digit? base c with
    | some d => (d :: (digits base limit rest).1,(digits base limit rest).2)
    | none => ([],c :: rest)
  | _,text => ([],text)

def character? (n : Nat) : Option Char :=
  if n ≠ 0 ∧ (Char.ofNat n).toNat = n then some (Char.ofNat n) else none

def numbered (base least limit : Nat) (text : List Char) : Option (Char × List Char) :=
  let found := digits base limit text
  if found.1.length < least then none
  else (character? (found.1.foldl (base * · + ·) 0)).map (·,found.2)

def escape : List Char → Option (Char × List Char)
  | [] => none
  | 'b' :: rest => some ('\x08',rest)
  | 'f' :: rest => some ('\x0c',rest)
  | 'n' :: rest => some ('\n',rest)
  | 'r' :: rest => some ('\r',rest)
  | 't' :: rest => some ('\t',rest)
  | 'u' :: rest => numbered 16 4 4 rest
  | 'U' :: rest => numbered 16 8 8 rest
  | 'x' :: rest =>
    if rest.head?.any (fun c => (digit? 16 c).isSome) then numbered 16 1 2 rest
    else some ('x',rest)
  | c :: rest => if (digit? 8 c).isSome then numbered 8 1 3 (c :: rest) else some (c,rest)

def Takes (text found rest : List Char) : Prop :=
  ∃ taken, text = taken ++ rest ∧ ('\x00' ∈ found → '\x00' ∈ taken)

theorem Takes.nonzero {text rest : List Char} {c : Char} (nonzero : c ≠ '\x00')
    (behind : rest <:+ text) : Takes text [c] rest := by
  obtain ⟨taken,whole⟩ := behind
  refine ⟨taken,whole.symm,fun member => ?_⟩
  exact absurd (List.mem_singleton.mp member).symm nonzero

theorem Takes.one (c : Char) (rest : List Char) : Takes (c :: rest) [c] rest :=
  ⟨[c],rfl,id⟩

theorem Takes.behind {text found rest : List Char} (c : Char) (takes : Takes text found rest) :
    Takes (c :: text) found rest := by
  obtain ⟨taken,rfl,zero⟩ := takes
  exact ⟨c :: taken,rfl,fun member => List.mem_cons_of_mem c (zero member)⟩

theorem Takes.append {text later rest found more : List Char} (first : Takes text found later)
    (second : Takes later more rest) : Takes text (found ++ more) rest := by
  obtain ⟨taken,rfl,zero⟩ := first
  obtain ⟨others,rfl,other⟩ := second
  refine ⟨taken ++ others,(List.append_assoc _ _ _).symm,fun member => ?_⟩
  rcases List.mem_append.mp member with early | late
  · exact List.mem_append_left _ (zero early)
  · exact List.mem_append_right _ (other late)

theorem Takes.length {text found rest : List Char} (takes : Takes text found rest) :
    rest.length ≤ text.length := by
  obtain ⟨taken,rfl,_⟩ := takes
  simp

theorem digits_suffix (base limit : Nat) (text : List Char) :
    (digits base limit text).2 <:+ text := by
  induction text generalizing limit with
  | nil => cases limit <;> exact List.suffix_refl []
  | cons c rest ih =>
    cases limit with
    | zero => exact List.suffix_refl _
    | succ limit =>
      rw [digits]
      cases digit? base c with
      | none => exact List.suffix_refl _
      | some d => exact (ih limit).trans (List.suffix_cons c rest)

theorem character_nonzero {n : Nat} {c : Char} (found : character? n = some c) : c ≠ '\x00' := by
  unfold character? at found
  split at found
  · rename_i known
    obtain ⟨nonzero,number⟩ := known
    cases found
    intro zero
    rw [zero] at number
    exact nonzero number.symm
  · cases found

theorem numbered_takes {base least limit : Nat} {text later : List Char} {c : Char}
    (found : numbered base least limit text = some (c,later)) : Takes text [c] later := by
  unfold numbered at found
  dsimp only at found
  split at found
  · cases found
  · obtain ⟨d,known,same⟩ := Option.map_eq_some_iff.mp found
    cases same
    exact .nonzero (character_nonzero known) (digits_suffix base limit text)

theorem escape_takes {text later : List Char} {c : Char} (found : escape text = some (c,later)) :
    Takes text [c] later := by
  unfold escape at found
  split at found
  case h_1 => cases found
  case h_7 | h_8 => exact (numbered_takes found).behind _
  case h_9 =>
    split at found
    · exact (numbered_takes found).behind _
    · cases found
      exact .one _ _
  case h_10 =>
    split at found
    · exact numbered_takes found
    · cases found
      exact .one _ _
  all_goals
    cases found
    exact .nonzero (by decide) (List.suffix_cons _ _)

def inside (text : List Char) : Option (List Char × List Char) :=
  match text with
  | [] => none
  | c :: rest =>
    if c = '\'' then
      if rest.head? = some '\'' then (inside rest.tail).map (Reader.kept '\'') else some ([],rest)
    else if c = '\\' then match _read : escape rest with
      | none => none
      | some (d,later) => (inside later).map (Reader.kept d)
    else (inside rest).map (Reader.kept c)
termination_by text.length
decreasing_by
  · rw [List.length_tail,List.length_cons]
    omega
  · have shorter := (escape_takes _read).length
    rw [List.length_cons]
    omega
  · exact Nat.lt_succ_self _

theorem inside_end {rest : List Char} (apart : rest.head? ≠ some '\'') :
    inside ('\'' :: rest) = some ([],rest) := by
  rw [inside,if_pos rfl,if_neg apart]

theorem inside_escape {text later : List Char} {c : Char} (found : escape text = some (c,later)) :
    inside ('\\' :: text) = (inside later).map (Reader.kept c) := by
  rw [inside,if_neg (by decide),if_pos rfl]
  split
  · rename_i missing
    rw [found] at missing
    cases missing
  · rename_i read
    rw [found] at read
    cases read
    rfl

theorem inside_plain {c : Char} (apostrophe : c ≠ '\'') (backslash : c ≠ '\\')
    (rest : List Char) : inside (c :: rest) = (inside rest).map (Reader.kept c) := by
  rw [inside,if_neg apostrophe,if_neg backslash]

theorem Takes.kept {text later found rest : List Char} {c : Char} (first : Takes text [c] later)
    (onward : ∀ {found rest}, inside later = some (found,rest) → Takes later found rest)
    (read : (inside later).map (Reader.kept c) = some (found,rest)) : Takes text found rest := by
  obtain ⟨⟨more,behind⟩,inner,same⟩ := Option.map_eq_some_iff.mp read
  cases same
  exact first.append (onward inner)

theorem inside_takes {text found after : List Char} (read : inside text = some (found,after)) :
    Takes text found after := by
  fun_induction inside text generalizing found after with
  | case1 => cases read
  | case2 rest _ ih =>
    have first : Takes ('\'' :: rest) ['\''] rest.tail :=
      .nonzero (by decide) ((List.tail_suffix rest).trans (List.suffix_cons '\'' rest))
    exact first.kept ih read
  | case3 rest _ =>
    cases read
    exact ⟨['\''],rfl,by simp⟩
  | case4 => cases read
  | case5 rest d later escaped _ ih => exact ((escape_takes escaped).behind '\\').kept ih read
  | case6 c rest _ _ ih => exact (Takes.one c rest).kept ih read

def readAs (c : Char) : Char := if c = '\x1a' then 'Z' else c

theorem inside_char {c : Char} (nonzero : c ≠ '\x00') (rest : List Char) :
    inside (Text.backslashChar c ++ rest) = (inside rest).map (Reader.kept (readAs c)) := by
  unfold Text.backslashChar
  split
  case h_1 => exact absurd rfl nonzero
  case h_8 c _ _ _ substitute apostrophe _ backslash =>
    rw [readAs,if_neg substitute]
    exact inside_plain apostrophe backslash rest
  all_goals exact inside_escape rfl

theorem inside_text {s : List Char} (nonzero : '\x00' ∉ s) {rest : List Char}
    (apart : rest.head? ≠ some '\'') :
    inside (s.flatMap Text.backslashChar ++ '\'' :: rest) = some (s.map readAs,rest) := by
  induction s with
  | nil => exact inside_end apart
  | cons c later ih =>
    rw [List.mem_cons,not_or] at nonzero
    obtain ⟨first,others⟩ := nonzero
    rw [List.flatMap_cons,List.append_assoc,inside_char (Ne.symm first),ih others]
    rfl

theorem map_readAs {s : List Char} : s.map readAs = s ↔ '\x1a' ∉ s := by
  constructor
  · intro same member
    have first := List.map_inj_left.mp (same.trans s.map_id.symm) '\x1a' member
    exact absurd first (by decide)
  · intro absent
    refine (List.map_congr_left fun c member => ?_).trans s.map_id
    have other : c ≠ '\x1a' := fun same => absent (same ▸ member)
    exact if_neg other

theorem backslashed_nonzero (s : List Char) : '\x00' ∉ s.flatMap Text.backslashChar := by
  intro member
  obtain ⟨c,_,spelled⟩ := List.mem_flatMap.mp member
  unfold Text.backslashChar at spelled
  split at spelled
  case h_8 c nul _ _ _ _ _ _ => exact nul (List.mem_singleton.mp spelled).symm
  all_goals exact absurd spelled (by decide)

def literal : List Char → Option (List Char × List Char)
  | 'E' :: '\'' :: text => inside text
  | _ => none

theorem literal_encode (s : String) (t : List Char) :
    literal ((Dialect.postgres.encode Flavor.postgresql.escaper (.text s)).toList ++ t) =
      inside (s.toList.flatMap Text.backslashChar ++ '\'' :: t) := by
  have spelled : (Dialect.postgres.encode Flavor.postgresql.escaper (.text s)).toList =
      'E' :: '\'' :: (s.toList.flatMap Text.backslashChar ++ ['\'']) := by
    rw [Dialect.encode,toList_stringLiteral,← Text.toList_backslash]
    rfl
  rw [spelled,List.cons_append,List.cons_append,List.append_assoc]
  rfl

theorem literal_text {s : String} (nonzero : '\x00' ∉ s.toList) {t : List Char}
    (apart : t.head? ≠ some '\'') :
    literal ((Dialect.postgres.encode Flavor.postgresql.escaper (.text s)).toList ++ t) =
      some (s.toList.map readAs,t) := by
  rw [literal_encode,inside_text nonzero apart]

theorem literal_nonzero {s : String} {t : List Char}
    (read : literal ((Dialect.postgres.encode Flavor.postgresql.escaper (.text s)).toList ++ t) =
      some (s.toList,t)) : '\x00' ∉ s.toList := by
  rw [literal_encode] at read
  obtain ⟨taken,whole,zero⟩ := inside_takes read
  have between : s.toList.flatMap Text.backslashChar ++ ['\''] = taken := by
    apply (List.append_left_inj t).mp
    rw [List.append_assoc]
    exact whole
  intro member
  have written := zero member
  rw [← between,List.mem_append] at written
  rcases written with inner | last
  · exact backslashed_nonzero s.toList inner
  · exact absurd last (by decide)

-- The literal is read back as the text exactly when this has no NUL and no U+001A. The second
-- is written with a letter that its reader takes for itself.
theorem text_read_back (s : String) {t : List Char} (apart : t.head? ≠ some '\'') :
    let read := literal ((Dialect.postgres.encode Flavor.postgresql.escaper (.text s)).toList ++ t)
    (read = some (s.toList,t) ↔ '\x00' ∉ s.toList ∧ '\x1a' ∉ s.toList) ∧
      ('\x00' ∉ s.toList → read = some (s.toList.map readAs,t)) := by
  refine ⟨⟨fun read => ?_,fun ⟨nonzero,known⟩ => ?_⟩,fun nonzero => literal_text nonzero apart⟩
  · have nonzero := literal_nonzero read
    rw [literal_text nonzero apart] at read
    have same : s.toList.map readAs = s.toList := congrArg Prod.fst (Option.some.inj read)
    exact ⟨nonzero,map_readAs.mp same⟩
  · rw [literal_text nonzero apart,map_readAs.mpr known]

theorem text_read_back_quoted :
    [';'].head? ≠ some '\'' ∧ '\x00' ∉ "\\1 it's\n".toList ∧
      literal ((Dialect.postgres.encode Flavor.postgresql.escaper (.text "\\1 it's\n")).toList ++
        [';']) = some ("\\1 it's\n".toList,[';']) := by
  have apart : [';'].head? ≠ some '\'' := by decide
  have nonzero : '\x00' ∉ "\\1 it's\n".toList := by decide
  have known : '\x1a' ∉ "\\1 it's\n".toList := by decide
  exact ⟨apart,nonzero,(text_read_back "\\1 it's\n" apart).1.mpr ⟨nonzero,known⟩⟩

theorem substitute_read_as_letter :
    '\x00' ∉ "\x1a".toList ∧
      Dialect.postgres.encode Flavor.postgresql.escaper (.text "\x1a") = "E'\\Z'" ∧
      literal "E'\\Z'".toList = some (['Z'],[]) := by
  have nonzero : '\x00' ∉ "\x1a".toList := by decide
  have written : Dialect.postgres.encode Flavor.postgresql.escaper (.text "\x1a") = "E'\\Z'" := by
    decide +kernel
  have read := literal_text nonzero (t := []) (by decide)
  rw [written,List.append_nil] at read
  exact ⟨nonzero,written,read⟩

end InlineSql.EscapeString
