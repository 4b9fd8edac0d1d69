import InlineSql.Proofs.Spelling
import InlineSql.Proofs.Statement.Built
import InlineSql.Proofs.Statement.FirstFound
import InlineSql.Proofs.Statement.Frame

namespace InlineSql

structure Statement.Sound (s : Statement) : Prop where
  written : ∀ p ∈ s.predicates, p.qualifies = true
  connected : ∀ p ∈ s.predicates, p.connective.isBlank = false
  filled : ∀ p ∈ s.predicates, ∀ items, p.value = .list items → items ≠ []
  aligned : ∀ first rest, s.rows = first :: rest → ∀ r ∈ s.rows, r.columns = first.columns
  ordered : s.window.isSet = true → s.window.offset ≤ s.window.stop
  keyed : s.method = some .findByKey → s.usableKey ≠ none

theorem predicate_defect_none {index : Nat} {p : Predicate} (clean : p.defect? index = none) :
    p.qualifies = true ∧ p.connective.isBlank = false ∧
      ∀ items, p.value = .list items → items ≠ [] := by
  unfold Predicate.defect? at clean
  split at clean
  · cases clean
  · rename_i column
    split at clean
    · cases clean
    · rename_i operator
      split at clean
      · cases clean
      · rename_i blank
        refine ⟨by simp [Predicate.qualifies,column,operator],by simpa using blank,?_⟩
        intro items value empty
        rw [value,empty] at clean
        cases clean

theorem predicates_defect_none {ps : List Predicate} {index : Nat}
    (clean : predicateDefect? index ps = none) : ∀ p ∈ ps, ∃ place, p.defect? place = none := by
  intro p member
  obtain ⟨i,at_i⟩ := List.getElem?_of_mem member
  rw [predicateDefect_find,findSome?_zipIdx_eq_none] at clean
  exact ⟨index + i,clean i p at_i⟩

theorem rows_defect_none {expected : List String} {rows : List Record} {row : Nat}
    (clean : rowDefect? expected row rows = none) : ∀ r ∈ rows, r.columns = expected := by
  intro r member
  obtain ⟨i,at_i⟩ := List.getElem?_of_mem member
  rw [rowDefect_find,findSome?_zipIdx_eq_none] at clean
  exact mismatch_eq_none.mp (clean i r at_i)

theorem window_defect_none {w : Window} (clean : w.defect? = none) (set : w.isSet = true) :
    w.offset ≤ w.stop := by
  unfold Window.defect? at clean
  split at clean
  · cases clean
  · rename_i regular
    rw [set,Bool.true_and,decide_eq_true_eq] at regular
    exact Int64.not_lt.mp regular

theorem sound_of_defect_none {s : Statement} (valid : s.defect? = none) : s.Sound := by
  have clean : s.keyDefect? = none ∧ predicateDefect? 0 s.predicates = none ∧
      s.rowsDefect? = none ∧ s.window.defect? = none := by
    simpa [Statement.defect?] using valid
  obtain ⟨key,predicates,rows,window⟩ := clean
  have each : ∀ p ∈ s.predicates, p.qualifies = true ∧ p.connective.isBlank = false ∧
      ∀ items, p.value = .list items → items ≠ [] := by
    intro p member
    obtain ⟨place,found⟩ := predicates_defect_none predicates p member
    exact predicate_defect_none found
  refine ⟨fun p member => (each p member).1,fun p member => (each p member).2.1,
    fun p member => (each p member).2.2,?_,window_defect_none window,?_⟩
  · intro first rest here r member
    rw [Statement.rowsDefect?,here] at rows
    rw [here] at member
    rcases List.mem_cons.mp member with rfl | later
    · rfl
    · exact rows_defect_none rows r later
  · intro method missing
    rw [Statement.keyDefect?,if_pos ⟨method,missing⟩] at key
    cases key

theorem word_shows {c : Connective} (shown : c.isBlank = false) :
    ∃ x ∈ c.word.toList, Text.isBlank x = false := by
  cases c with
  | and => exact ⟨'A',by decide,by decide⟩
  | or => exact ⟨'O',by decide,by decide⟩
  | other word =>
    have visible : Text.allBlank word = false := shown
    rw [Text.allBlank,List.all_eq_false] at visible
    obtain ⟨x,member,other⟩ := visible
    exact ⟨x,member,by simpa using other⟩

namespace Dialect

variable (d : Dialect) (e : Escaper)

def everyCondition : List Predicate → String
  | [] => ""
  | p :: rest => " WHERE " ++ d.condition e p ++ String.join (rest.map fun q =>
      " " ++ q.connective.word ++ " " ++ d.condition e q)

theorem conditions_written {ps : List Predicate} (written : ∀ p ∈ ps, p.qualifies = true)
    (index : Nat) : d.conditions e index true ps =
      ⟨String.join (ps.map fun q => " " ++ q.connective.word ++ " " ++ d.condition e q),[]⟩ := by
  induction ps generalizing index with
  | nil => rfl
  | cons p rest ih =>
    have later := ih (fun q member => written q (List.mem_cons_of_mem p member)) (index + 1)
    rw [conditions,if_pos (written p (by simp)),later,List.map_cons,String.join_cons]
    rfl

theorem conditions_every {ps : List Predicate} (written : ∀ p ∈ ps, p.qualifies = true)
    (index : Nat) : d.conditions e index false ps = ⟨d.everyCondition e ps,[]⟩ := by
  cases ps with
  | nil => rfl
  | cons p rest =>
    have others : ∀ q ∈ rest, q.qualifies = true := fun q member =>
      written q (List.mem_cons_of_mem p member)
    rw [conditions,if_pos (written p (by simp)),d.conditions_written e others (index + 1)]
    rfl

theorem where_every {s : Statement} (written : ∀ p ∈ s.predicates, p.qualifies = true) :
    d.whereClause e s = ⟨d.everyCondition e s.predicates,[]⟩ := d.conditions_every e written 0

-- A list shows nothing between its brackets only for want of anything to show.
theorem listLiteral_blank {items : List Value} (blank : d.listLiteral e items = "()") :
    items = [] ∨ ∃ v, items = [v] ∧ d.encode e v = "" := by
  have text := congrArg String.toList blank
  rw [toList_listLiteral] at text
  cases items with
  | nil => exact .inl rfl
  | cons v rest =>
    cases rest with
    | nil =>
      refine .inr ⟨v,rfl,?_⟩
      simpa using text
    | cons w later =>
      have length := congrArg List.length text
      simp at length
      omega

theorem tuple_aligned {r first : Record} (same : r.columns = first.columns) :
    d.tuple e first.size r = "(" ++ ",".intercalate (r.values.map (d.encode e)) ++ ")" := by
  have width : r.values.length = first.size := r.length_values.trans (Record.size_same same)
  rw [tuple,place_whole width,listLiteral,encodeAll_map]

theorem cells_by_name {r first : Record} (same : r.columns = first.columns) :
    first.columns.map (fun c => (r.get? c).map (d.encode e)) =
      (r.values.map (d.encode e)).map some := by
  have cells := congrArg (List.map (Option.map (d.encode e))) r.get_columns
  rw [← same]
  simpa [Function.comp_def] using cells

structure Faithful (s : Statement) : Prop where
  unskipped : (d.compile e s).skips = []
  whole : ∀ w, d.frame e s = some w →
    (d.compile e s).sql = w.before ++ d.everyCondition e s.predicates ++ w.after
  carried : s.method = some .select ∨ s.method = some .delete ∨ s.method = some .count ∨
    s.method = some .findByKey ∨ (s.method = some .update ∧ s.assignments ≠ []) →
    ∃ w, d.frame e s = some w
  connected : ∀ p ∈ s.predicates, ∃ x ∈ p.connective.word.toList, Text.isBlank x = false
  filled : ∀ p ∈ s.predicates, ∀ items, p.value = .list items → items ≠ [] ∧
    (d.listLiteral e items = "()" → ∃ v, items = [v] ∧ d.encode e v = "")
  aligned : s.method = some .insert → ∀ first rest, s.rows = first :: rest →
    (∀ r ∈ s.rows, r.columns = first.columns) ∧ ∃ tuples : List (List String),
      s.rows.map (fun r => first.columns.map fun c => (r.get? c).map (d.encode e)) =
        tuples.map (·.map some) ∧
      (d.compile e s).sql = "INSERT INTO " ++ s.table ++ " (" ++ ",".intercalate first.columns ++
        ") VALUES " ++ ",".intercalate (tuples.map fun cells => "(" ++ ",".intercalate cells ++ ")") ++
        ";"
  unclamped : s.window.isSet = true → ∃ count : Int64,
    count.toInt = s.window.stop.toInt - s.window.offset.toInt ∧
      d.windowClause s.window = d.limitClause s.window.offset count
  found : s.method = some .findByKey → (d.compile e s).sql ≠ ""

theorem frame_carried {s : Statement} (sound : s.Sound)
    (method : s.method = some .select ∨ s.method = some .delete ∨ s.method = some .count ∨
      s.method = some .findByKey ∨ (s.method = some .update ∧ s.assignments ≠ [])) :
    ∃ w, d.frame e s = some w := by
  unfold frame
  rcases method with select | delete | count | key | ⟨update,assigned⟩
  · rw [select]
    exact ⟨_,rfl⟩
  · rw [delete]
    exact ⟨_,rfl⟩
  · rw [count]
    exact ⟨_,rfl⟩
  · rw [key]
    exact ⟨_,if_neg (sound.keyed key)⟩
  · have filled : ¬ s.assignments.isEmpty = true := by simpa using assigned
    rw [update]
    exact ⟨_,if_neg filled⟩

theorem framed_found {s : Statement} {w : Frame} (method : s.method = some .findByKey)
    (framed : d.frame e s = some w) : (d.framed e s w).sql ≠ "" := by
  unfold frame at framed
  rw [method] at framed
  dsimp only at framed
  split at framed
  · cases framed
  · cases framed
    intro empty
    have text := congrArg String.toList empty
    simp [Dialect.framed,selectionFrame] at text

theorem insertion_aligned {s : Statement} (sound : s.Sound) (method : s.method = some .insert)
    {first : Record} {rest : List Record} (rows : s.rows = first :: rest) :
    (d.compile e s).sql = "INSERT INTO " ++ s.table ++ " (" ++ ",".intercalate first.columns ++
      ") VALUES " ++ ",".intercalate ((s.rows.map fun r => r.values.map (d.encode e)).map
        fun cells => "(" ++ ",".intercalate cells ++ ")") ++ ";" := by
  have tuples : s.rows.map (d.tuple e first.size) = (s.rows.map fun r =>
      r.values.map (d.encode e)).map fun cells => "(" ++ ",".intercalate cells ++ ")" := by
    rw [List.map_map]
    exact List.map_congr_left fun r member =>
      d.tuple_aligned e (sound.aligned first rest rows r member)
  rw [← tuples]
  exact d.insertion_text e method rows

theorem compile_validated {s : Statement} (valid : s.defect? = none) : d.Faithful e s := by
  have sound := sound_of_defect_none valid
  have conditions := d.where_every e sound.written
  have compiled : ∀ w, d.frame e s = some w → d.compile e s = d.framed e s w := by
    intro w framed
    rw [d.compile_frame e s,framed]
  constructor
  case unskipped =>
    rw [d.compile_frame e s]
    cases framed : d.frame e s with
    | some w => exact congrArg Compiled.skips conditions
    | none =>
      dsimp only
      split
      · unfold insertion
        cases s.rows <;> rfl
      · rfl
  case whole =>
    intro w framed
    rw [compiled w framed,Dialect.framed,conditions]
  case carried => exact d.frame_carried e sound
  case connected => exact fun p member => word_shows (sound.connected p member)
  case filled =>
    intro p member items value
    refine ⟨sound.filled p member items value,?_⟩
    intro blank
    rcases d.listLiteral_blank e blank with none | single
    · exact absurd none (sound.filled p member items value)
    · exact single
  case aligned =>
    intro method first rest rows
    refine ⟨sound.aligned first rest rows,s.rows.map fun r => r.values.map (d.encode e),?_,?_⟩
    · rw [List.map_map]
      exact List.map_congr_left fun r member =>
        d.cells_by_name e (sound.aligned first rest rows r member)
    · exact d.insertion_aligned e sound method rows
  case unclamped =>
    intro set
    have ordered := Int64.le_iff_toInt_le.mp (sound.ordered set)
    have count := Window.count_toInt set
    refine ⟨s.window.count,by omega,?_⟩
    rw [windowClause,if_pos set]
  case found =>
    intro method
    obtain ⟨w,framed⟩ := d.frame_carried e sound (.inr (.inr (.inr (.inl method))))
    rw [compiled w framed]
    exact d.framed_found e method framed

end Dialect

theorem compile_validated_rows :
    let r := Record.ofEntries [("a",.int 1),("b",.text "it's")]
    let s := (Statement.start "t" .insert).build [.row r,.row (r.set "a" .null)]
    s.defect? = none ∧ Dialect.postgres.Faithful Flavor.postgresql.escaper s := by
  intro r s
  have valid : s.defect? = none := by decide
  exact ⟨valid,Dialect.compile_validated Dialect.postgres Flavor.postgresql.escaper valid⟩

-- Empty raw text counts as an item of a list and leaves nothing between the brackets.
theorem validated_empty_brackets :
    let p : Predicate := {column:="a",value:=.list [.raw ""]}
    let s := (Statement.start "t" .select).build [.predicate p]
    s.defect? = none ∧ s.predicates = [p] ∧
      Flavor.mysql.dialect.condition Flavor.mysql.escaper p = "\x60a\x60 IN ()" ∧
      s.toSql .mysql = "SELECT * FROM t WHERE \x60a\x60 IN ();" := by
  intro p s
  have valid : s.defect? = none := by decide
  have text : Flavor.mysql.dialect.condition Flavor.mysql.escaper p = "\x60a\x60 IN ()" := by
    decide +kernel
  have sql : s.toSql .mysql = "SELECT * FROM t WHERE \x60a\x60 IN ();" := by decide +kernel
  exact ⟨valid,rfl,text,sql⟩

end InlineSql
