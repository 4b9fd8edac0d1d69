import InlineSql.Proofs.Reading.Clauses

namespace InlineSql

def Intent.Good (f : Flavor) : Intent → Prop
  | .nothing => True
  | .select s => (∀ c ∈ s.columns, IsName c) ∧ IsName s.table ∧ ∀ c ∈ s.conditions, c.Good f
  | .update table assignments conditions => IsName table ∧
      (∀ entry ∈ assignments, Reader.Reads f (entry.2.written f) entry.2) ∧
      ∀ c ∈ conditions, c.Good f
  | .insert table columns rows => IsName table ∧ (∀ c ∈ columns, IsName c) ∧
      ∀ row ∈ rows, Reader.Reads f (f.rowText row) (.list row)
  | .delete table conditions => IsName table ∧ ∀ c ∈ conditions, c.Good f
  | .count table conditions => IsName table ∧ ∀ c ∈ conditions, c.Good f

section
variable {f : Flavor}

theorem leads_end (t : List Char) : Leads (clauseWords.drop 3) (letters ";" ++ t) := by
  rw [letters_eq]
  exact leads_word (by decide) t

theorem begins_where {conditions : List Condition} (good : ∀ c ∈ conditions, c.Good f)
    (words : List (List Char))
    (closing : words.all (fun w => w.head?.any fun c => !isWordChar c) = true) {t : List Char}
    (leads : Leads words t) : Begins (fun c => !isWordChar c) (f.conditionsText conditions ++ t) := by
  have all : (linkWords ++ words).all (fun w => w.head?.any fun c => !isWordChar c) = true := by
    rw [List.all_append,closing]
    decide
  exact (leads_conditions good leads).begins all

theorem legible_selection : Legible f.selectionText (fun s => (Intent.select s).Good f)
    (fun _ => True) := by
  have ordered := (legible_orders (f:=f)).both (legible_window (f:=f)) fun window _ _ =>
    leads_window window
  have grouped := (legible_group (f:=f)).both ordered fun p t _ leads => by
    rw [List.append_assoc]
    exact leads_orders _ (leads_window _ leads)
  have conditioned := (legible_conditions (f:=f)).both grouped fun p t _ leads => by
    rw [List.append_assoc,List.append_assoc]
    exact leads_group _ (leads_orders _ (leads_window _ leads))
  have named := legible_words.both conditioned fun p t good leads => by
    rw [List.append_assoc,List.append_assoc,List.append_assoc]
    exact begins_where good.1 clauseWords (by decide)
      (leads_group _ (leads_orders _ (leads_window _ leads)))
  have listed := legible_columns.both (named.after (letters " FROM ")) fun p t _ _ => by
    rw [List.append_assoc,letters_eq]
    exact leads_word (by simp) _
  have whole := (listed.after (letters "SELECT ")).closed leads_end
  have parts := whole.through (fun s : Selection =>
    (s.columns,s.table,s.conditions,s.group,s.orderings,s.window)) (by
      rintro ⟨_,_,_,_,_,_⟩ ⟨_,_,_,_,_,_⟩ same
      cases same
      rfl)
  exact parts.weaken (fun s good => ⟨good.1,good.2.1,good.2.2,trivial,trivial,trivial⟩) fun _ => id

theorem legible_condition_end : Legible f.conditionsText (fun l => ∀ c ∈ l, c.Good f)
    (Leads (clauseWords.drop 3)) :=
  (legible_conditions (f:=f)).weaken (fun _ => id) fun _ leads =>
    leads.more (List.drop_subset 3 clauseWords)

theorem legible_update : Legible
    (fun p : String × List (String × Literal) × List Condition => f.updateText p.1 p.2.1 p.2.2)
    (fun p => (Intent.update p.1 p.2.1 p.2.2).Good f) (fun _ => True) := by
  have conditioned := (legible_assignments (f:=f)).both (legible_condition_end (f:=f))
    fun l t good leads => leads_conditions good leads
  have named := legible_words.both (conditioned.after (letters " SET ")) fun p t _ _ => by
    rw [List.append_assoc]
    exact begins_letters rfl _
  exact (named.after (letters "UPDATE ")).closed leads_end

theorem legible_insertion : Legible
    (fun p : String × List String × List (List Literal) => f.insertionText p.1 p.2.1 p.2.2)
    (fun p => (Intent.insert p.1 p.2.1 p.2.2).Good f) (fun _ => True) := by
  have columns : Legible _ _ (Leads [") VALUES ".toList]) := legible_names (by decide)
  have rows := (legible_rows (f:=f)).after (letters ") VALUES ")
  have valued := columns.both rows fun _ t _ _ => by
    rw [List.append_assoc,letters_eq]
    exact leads_word (by simp) _
  have named := legible_words.both (valued.after (letters " (")) fun p t _ _ => by
    rw [List.append_assoc]
    exact begins_letters rfl _
  exact (named.after (letters "INSERT INTO ")).closed leads_end

theorem legible_table (head : String) : Legible
    (fun p : String × List Condition => f.tableText head p.1 p.2)
    (fun p => IsName p.1 ∧ ∀ c ∈ p.2, c.Good f) (fun _ => True) := by
  have named := legible_words.both (legible_condition_end (f:=f)) fun l t good leads =>
    begins_where good (clauseWords.drop 3) (by decide) leads
  exact (named.after (letters head)).closed leads_end

-- A column may have the name of the function, but it is not followed by a bracket.
theorem columns_ne_count {columns : List String} (each : ∀ c ∈ columns, IsName c)
    (t u : List Char) :
    Flavor.columnsText columns ++ (letters " FROM " ++ t) ≠ "COUNT".toList ++ '(' :: u := by
  intro same
  cases columns with
  | nil =>
    have star : Begins (fun c => c == '*') (letters "*" ++ (letters " FROM " ++ t)) :=
      begins_letters rfl _
    have word : Begins isWordChar ("COUNT".toList ++ '(' :: u) := by simp [Begins,isWordChar]
    obtain ⟨c,equal,inside⟩ := star.meet (same ▸ word)
    rw [beq_iff_eq.mp equal] at inside
    cases inside
  | cons name rest =>
    obtain ⟨behind,text,first⟩ : ∃ behind,
        Flavor.columnsText (name :: rest) ++ (letters " FROM " ++ t) = name.toList ++ behind ∧
          Begins (fun c => !isWordChar c && c != '(') behind := by
      cases rest with
      | nil =>
        refine ⟨letters " FROM " ++ t,?_,begins_letters rfl t⟩
        simp [Flavor.columnsText]
      | cons other later =>
        refine ⟨',' :: ([','].intercalate ((other :: later).map String.toList) ++
          (letters " FROM " ++ t)),?_,rfl⟩
        simp [Flavor.columnsText]
    have count : IsName "COUNT" := by decide
    rw [text] at same
    have outside : Begins (fun c => !isWordChar c) behind := by
      apply first.weaken
      intro c both
      rw [Bool.and_eq_true] at both
      obtain ⟨other,_⟩ := both
      exact other
    obtain ⟨_,rest⟩ := legible_words name "COUNT" (each name (by simp)) count behind ('(' :: u)
      outside rfl same
    rw [rest] at first
    cases first

theorem selection_ne_count {s : Selection} (good : (Intent.select s).Good f) (table : String)
    (conditions : List Condition) :
    f.selectionText s ≠ f.tableText "SELECT COUNT(*) AS c FROM " table conditions := by
  have word : letters "SELECT COUNT(*) AS c FROM " =
      letters "SELECT " ++ ("COUNT".toList ++ '(' :: "*) AS c FROM ".toList) := by
    simp [letters_eq]
  intro same
  simp only [Flavor.selectionText,Flavor.tableText,word,List.append_assoc,List.cons_append] at same
  exact columns_ne_count good.1 _ _ (List.append_cancel_left same)

def Intent.initial : Intent → Option Char
  | .nothing => none
  | .select _ | .count _ _ => some 'S'
  | .update _ _ _ => some 'U'
  | .insert _ _ _ => some 'I'
  | .delete _ _ => some 'D'

theorem head_written (x : Intent) : (x.written f).head? = x.initial := by
  cases x <;> simp [Intent.written,Intent.initial,Flavor.selectionText,Flavor.updateText,
    Flavor.insertionText,Flavor.tableText,letters_eq]

theorem written_injective {x y : Intent} (left : x.Good f) (right : y.Good f)
    (same : x.written f = y.written f) : x = y := by
  have initial := congrArg List.head? same
  rw [head_written,head_written] at initial
  have ended := congrArg (· ++ ([] : List Char)) same
  cases x with
  | nothing => cases y <;> first | rfl | cases initial
  | select s =>
    cases y with
    | select other => rw [(legible_selection s other left right [] [] trivial trivial ended).1]
    | count table conditions => exact absurd same (selection_ne_count left table conditions)
    | _ => cases initial
  | update table assignments conditions =>
    cases y with
    | update other entries tests =>
      obtain ⟨equal,_⟩ := legible_update (table,assignments,conditions) (other,entries,tests)
        left right [] [] trivial trivial ended
      cases equal
      rfl
    | _ => cases initial
  | insert table columns rows =>
    cases y with
    | insert other names records =>
      obtain ⟨equal,_⟩ := legible_insertion (table,columns,rows) (other,names,records)
        left right [] [] trivial trivial ended
      cases equal
      rfl
    | _ => cases initial
  | delete table conditions =>
    cases y with
    | delete other tests =>
      obtain ⟨equal,_⟩ := legible_table _ (table,conditions) (other,tests) left right [] []
        trivial trivial ended
      cases equal
      rfl
    | _ => cases initial
  | count table conditions =>
    cases y with
    | count other tests =>
      obtain ⟨equal,_⟩ := legible_table _ (table,conditions) (other,tests) left right [] []
        trivial trivial ended
      cases equal
      rfl
    | select s => exact absurd same.symm (selection_ne_count right table conditions)
    | _ => cases initial

theorem reads_written {v : Value} (basic : v.leaves Value.isBasic = true) :
    Reader.Reads f ((v.literal f).written f) (v.literal f) := by
  have exact : v.leaves Value.isExact = true := by
    refine Value.leaves_weaken ?_ basic
    intro leaf test
    cases leaf <;> first | rfl | cases test
  rw [← encode_written basic]
  exact Reader.reads_encode f exact

theorem condition_good {p : Predicate} {link : Option Connective}
    (known : ∀ word ∈ link, word = .and ∨ word = .or) (written : p.qualifies = true)
    (operator : p.operator.toList.all isOperatorChar = true)
    (basic : p.value.leaves Value.isBasic = true) : (p.condition f link).Good f := by
  have filled : p.operator ≠ "" := by
    simp only [Predicate.qualifies,Bool.and_eq_true,bne_iff_ne] at written
    obtain ⟨_,filled⟩ := written
    exact filled
  have reads := reads_written (f:=f) basic
  refine ⟨known,?_⟩
  unfold Predicate.condition Predicate.test
  cases value : p.value with
  | list items => rw [value,Value.literal_list] at reads; exact reads
  | _ => rw [value] at reads; exact ⟨⟨filled,List.all_eq_true.mp operator⟩,reads⟩

theorem conditions_good {s : Statement} (plain : s.Plain) :
    ∀ c ∈ s.conditions f, c.Good f := by
  have each : ∀ p ∈ s.predicates.filter Predicate.qualifies, ∀ link : Option Connective,
      (∀ word ∈ link, word = .and ∨ word = .or) → (p.condition f link).Good f := by
    intro p member link known
    obtain ⟨listed,written⟩ := List.mem_filter.mp member
    exact condition_good known written (plain.operators p listed) (plain.predicate p listed)
  have linked : ∀ p ∈ s.predicates.filter Predicate.qualifies, ∀ word ∈ some p.connective,
      word = .and ∨ word = .or := by
    intro p member word here
    cases here
    exact plain.connectives p (List.mem_filter.mp member).1
  intro c member
  unfold Statement.conditions at member
  cases kept : s.predicates.filter Predicate.qualifies with
  | nil => rw [kept] at member; cases member
  | cons p rest =>
    rw [kept] at member each linked
    rcases List.mem_cons.mp member with rfl | later
    · exact each p (by simp) none (by simp)
    · obtain ⟨q,held,rfl⟩ := List.mem_map.mp later
      have known := List.mem_cons_of_mem p held
      exact each q known (some q.connective) (linked q known)

theorem intent_good {s : Statement} (plain : s.Plain) : (s.intent f).Good f := by
  have conditions := conditions_good (f:=f) plain
  have selection : (Intent.select (s.selection f)).Good f :=
    ⟨plain.columns,plain.table,conditions⟩
  unfold Statement.intent
  cases s.method with
  | none => trivial
  | some m =>
    cases m with
    | select => exact selection
    | delete => exact ⟨plain.table,conditions⟩
    | count => exact ⟨plain.table,conditions⟩
    | findByKey =>
      dsimp only
      split
      · trivial
      · exact selection
    | update =>
      dsimp only
      split
      · trivial
      · refine ⟨plain.table,?_,conditions⟩
        intro entry member
        obtain ⟨assigned,held,rfl⟩ := List.mem_map.mp member
        exact reads_written (plain.assignment assigned held)
    | insert =>
      cases rows : s.rows with
      | nil => trivial
      | cons first rest =>
        refine ⟨plain.table,plain.rowColumns first (by simp [rows]),?_⟩
        intro row member
        obtain ⟨r,held,rfl⟩ := List.mem_map.mp member
        have basic := plain.row r (rows ▸ held)
        have reads := reads_written (f:=f) (placed_basic basic first.size)
        rw [Value.literal_list] at reads
        exact reads

end

theorem toSql_eq_iff (f : Flavor) {a b : Statement} (plainA : a.Plain) (plainB : b.Plain) :
    a.toSql f = b.toSql f ↔ a.intent f = b.intent f := by
  rw [← String.toList_inj,toSql_written plainA,toSql_written plainB]
  constructor
  · exact written_injective (intent_good plainA) (intent_good plainB)
  · exact congrArg (Intent.written f)

theorem toSql_truth :
    let a := (Statement.start "users" .delete).build [.whereEq "it's" (.bool true)]
    let b := (Statement.start "users" .delete).build [.orWhereOp "it's" "=" (.nat 1),.limit 3]
    a.toSql .mysql = b.toSql .mysql ∧ a.toSql .postgresql ≠ b.toSql .postgresql := by
  intro a b
  have plainA : a.Plain := by constructor <;> decide
  have plainB : b.Plain := by constructor <;> decide
  constructor
  · exact (toSql_eq_iff .mysql plainA plainB).mpr rfl
  · intro same
    have intents := (toSql_eq_iff .postgresql plainA plainB).mp same
    cases intents

end InlineSql
