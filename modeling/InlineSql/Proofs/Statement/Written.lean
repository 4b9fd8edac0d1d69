import InlineSql.Proofs.Statement.Frame
import InlineSql.Proofs.Statement.Intent

namespace InlineSql

def Value.isBasic : Value → Bool
  | .null | .bool _ | .int _ | .nat _ | .text _ => true
  | _ => false

def IsName (s : String) : Prop := s ≠ "" ∧ ∀ c ∈ s.toList, isWordChar c = true

instance (s : String) : Decidable (IsName s) :=
  decidable_of_iff (s ≠ "" ∧ s.toList.all isWordChar = true) (by simp [IsName])

def isOperatorChar (c : Char) : Bool := ['<','>','=','!'].contains c

-- What is copied as it stands is made of words and of comparison signs.
structure Statement.Plain (s : Statement) : Prop where
  table : IsName s.table
  columns : ∀ c ∈ s.columns, IsName c
  rowColumns : ∀ r ∈ s.rows.head?, ∀ c ∈ r.columns, IsName c
  operators : ∀ p ∈ s.predicates, p.operator.toList.all isOperatorChar = true
  connectives : ∀ p ∈ s.predicates, p.connective = .and ∨ p.connective = .or
  values : ∀ v ∈ s.values, v.leaves Value.isBasic = true

section
variable {f : Flavor} {s : Statement}

theorem encode_written {v : Value} (basic : v.leaves Value.isBasic = true) :
    (f.dialect.encode f.escaper v).toList = (v.literal f).written f := by
  induction v using Value.nesting with
  | leaf v leaf =>
    rw [Value.leaves_leaf _ leaf] at basic
    cases v with
    | null => rw [Dialect.encode,Value.literal,Literal.written]
    | bool b =>
      rw [Dialect.encode,Value.literal,Flavor.truth]
      split
      · rw [Literal.written]
      · rename_i other
        rw [Literal.written]
        cases f with
        | postgresql => exact absurd rfl other
        | mysql => cases b <;> rfl
        | sqlite => cases b <;> rfl
    | int n => rw [Dialect.encode,Value.literal,Literal.written,Number.toList_int64]
    | nat n => rw [Dialect.encode,Value.literal,Literal.written,Number.toList_uint64]
    | text s => rw [Dialect.encode,Value.literal,Literal.written]
    | list items => cases leaf
    | _ => cases basic
  | list items ih =>
    rw [Value.leaves_list,List.all_eq_true] at basic
    have each : items.map (fun v => (f.dialect.encode f.escaper v).toList) =
        items.map (fun v => (v.literal f).written f) :=
      List.map_congr_left fun v member => ih v member (basic v member)
    rw [Dialect.encode_list,toList_listLiteral,Value.literal_list,Literal.written_list,each,
      List.map_map]
    rfl

theorem condition_written {p : Predicate} (basic : p.value.leaves Value.isBasic = true) :
    (f.dialect.condition f.escaper p).toList = f.nameText p.column ++ (p.test f).written f := by
  cases value : p.value with
  | list items =>
    rw [value] at basic
    have list := encode_written (f:=f) basic
    rw [Dialect.encode_list,Value.literal_list] at list
    rw [condition_list value,Flavor.dialect_quote,Predicate.test,value,Test.written,← list]
    simp [Flavor.nameText,letters_eq]
  | _ =>
    have leaf : p.value.isList = false := by rw [value]; rfl
    rw [condition_leaf leaf,Flavor.dialect_quote,Predicate.test,value,Test.written,
      ← encode_written (value ▸ basic)]
    simp [Flavor.nameText]

theorem link_written (link : Option Connective) {p : Predicate}
    (basic : p.value.leaves Value.isBasic = true) (rest : String) :
    (linkText link ++ f.dialect.condition f.escaper p ++ rest).toList =
      f.conditionText (p.condition f link) ++ rest.toList := by
  rw [String.toList_append,String.toList_append,condition_written basic,← letters_eq]
  rfl

theorem linked_written {ps : List Predicate}
    (basic : ∀ p ∈ ps, p.value.leaves Value.isBasic = true) (index : Nat) :
    (f.dialect.conditions f.escaper index true ps).sql.toList =
      f.conditionsText ((ps.filter Predicate.qualifies).map (Predicate.linked f)) := by
  induction ps generalizing index with
  | nil => rfl
  | cons p rest ih =>
    have later := ih (fun q member => basic q (List.mem_cons_of_mem p member)) (index + 1)
    rw [Dialect.conditions,List.filter_cons]
    split
    · have here := link_written (f:=f) (some p.connective) (basic p (by simp))
        (f.dialect.conditions f.escaper (index + 1) true rest).sql
      rw [later] at here
      exact here
    · exact later

theorem where_written {ps : List Predicate}
    (basic : ∀ p ∈ ps, p.value.leaves Value.isBasic = true) (index : Nat) :
    (f.dialect.conditions f.escaper index false ps).sql.toList =
      f.conditionsText (match ps.filter Predicate.qualifies with
        | [] => []
        | p :: rest => p.condition f none :: rest.map (Predicate.linked f)) := by
  induction ps generalizing index with
  | nil => rfl
  | cons p rest ih =>
    have others : ∀ q ∈ rest, q.value.leaves Value.isBasic = true := fun q member =>
      basic q (List.mem_cons_of_mem p member)
    rw [Dialect.conditions,List.filter_cons]
    split
    · have here := link_written (f:=f) none (basic p (by simp))
        (f.dialect.conditions f.escaper (index + 1) true rest).sql
      rw [linked_written others] at here
      exact here
    · exact ih others (index + 1)

theorem group_written : (f.dialect.groupClause s).toList =
    f.groupText (s.groupKey.filter (· != "")) := by
  unfold Dialect.groupClause Flavor.groupText
  cases s.groupKey with
  | none => rfl
  | some name =>
    by_cases empty : name = ""
    · subst empty
      rfl
    · have kept : (some name).filter (· != "") = some name := by simp [empty]
      rw [kept]
      simp only [if_neg empty,String.toList_append,Flavor.dialect_quote,Option.elim_some,
        Flavor.nameText,letters_eq]

theorem sort_written (k : SortKey) : (f.dialect.sortKey k).toList = f.sortText k := by
  rw [Dialect.sortKey,Flavor.sortText,Flavor.dialect_quote,String.toList_append]
  cases k.direction with
  | ascending => rfl
  | descending => rw [directionText,letters_eq]; rfl

theorem order_written : (f.dialect.orderClause s).toList = f.orderText s.orderings := by
  unfold Dialect.orderClause Flavor.orderText
  split
  · rfl
  · have keys : s.orderings.map (String.toList ∘ f.dialect.sortKey) =
        s.orderings.map f.sortText := List.map_congr_left fun k _ => sort_written k
    rw [String.toList_append,String.toList_intercalate,List.map_map,keys,letters_eq]
    rfl

theorem window_written (w : Window) : (f.dialect.windowClause w).toList = f.windowText w.rows := by
  unfold Dialect.windowClause Window.rows
  split
  · rename_i set
    rw [Flavor.limitClause_text,String.toList_append,String.toList_append,String.toList_append]
    rw [Flavor.windowText,Option.elim_some,letters_eq,← Window.count_toInt set,List.append_assoc]
    cases f <;> rfl
  · rfl

theorem columns_written : (Dialect.columnList s).toList = Flavor.columnsText s.columns := by
  unfold Dialect.columnList Flavor.columnsText
  split
  · exact (letters_eq _).symm
  · exact String.toList_intercalate

theorem Statement.Plain.predicate (plain : s.Plain) :
    ∀ p ∈ s.predicates, p.value.leaves Value.isBasic = true := by
  intro p member
  exact plain.values p.value (Statement.predicate_held member)

theorem Statement.Plain.assignment (plain : s.Plain) :
    ∀ entry ∈ s.assignments, entry.2.leaves Value.isBasic = true := by
  intro entry member
  exact plain.values entry.2 (Statement.assignment_held member)

theorem Statement.Plain.row (plain : s.Plain) :
    ∀ r ∈ s.rows, ∀ v ∈ r.values, v.leaves Value.isBasic = true := by
  intro r member v held
  exact plain.values v (Statement.row_held member held)

theorem whereClause_written (plain : s.Plain) :
    (f.dialect.whereClause f.escaper s).sql.toList = f.conditionsText (s.conditions f) :=
  where_written plain.predicate 0

theorem framed_written (plain : s.Plain) (w : Frame) :
    (f.dialect.framed f.escaper s w).sql.toList =
      w.before.toList ++ f.conditionsText (s.conditions f) ++ w.after.toList := by
  rw [Dialect.framed,String.toList_append,String.toList_append,whereClause_written plain]

theorem selection_written (plain : s.Plain) :
    (f.dialect.framed f.escaper s (f.dialect.selectionFrame s)).sql.toList =
      f.selectionText (s.selection f) := by
  rw [framed_written plain]
  simp only [Dialect.selectionFrame,Flavor.selectionText,Statement.selection,String.toList_append,
    List.append_assoc,columns_written,group_written,order_written,window_written,
    letters_eq]

theorem tableFrame_written (plain : s.Plain) (head : String) :
    (f.dialect.framed f.escaper s ⟨head ++ s.table,";"⟩).sql.toList =
      f.tableText head s.table (s.conditions f) := by
  rw [framed_written plain]
  simp only [Flavor.tableText,String.toList_append,List.append_assoc,letters_eq]

theorem assignment_written {entry : String × Value} (basic : entry.2.leaves Value.isBasic = true) :
    (f.dialect.assignment f.escaper entry).toList =
      f.assignmentText (entry.1,entry.2.literal f) := by
  rw [Dialect.assignment,Flavor.dialect_quote,String.toList_append,String.toList_append,
    encode_written basic,List.append_assoc,← letters_eq "="]
  rfl

theorem update_written (plain : s.Plain) :
    (f.dialect.framed f.escaper s (f.dialect.updateFrame f.escaper s)).sql.toList =
      f.updateText s.table (s.assignments.map fun entry => (entry.1,entry.2.literal f))
        (s.conditions f) := by
  have entries : s.assignments.map (String.toList ∘ f.dialect.assignment f.escaper) =
      s.assignments.map (f.assignmentText ∘ fun entry => (entry.1,entry.2.literal f)) :=
    List.map_congr_left fun entry member => assignment_written (plain.assignment entry member)
  have comma : ", ".toList = [',',' '] := rfl
  rw [framed_written plain]
  simp only [Dialect.updateFrame,Flavor.updateText,String.toList_append,String.toList_intercalate,
    List.map_map,entries,comma,letters_eq,List.append_assoc]

theorem placed_basic {r : Record} (basic : ∀ v ∈ r.values, v.leaves Value.isBasic = true)
    (width : Nat) :
    (Value.list ((r.values.take width).rightpad width .null)).leaves Value.isBasic = true := by
  rw [Value.leaves_list,List.all_eq_true]
  intro v member
  rcases mem_place member with held | rfl
  · exact basic v held
  · rfl

theorem tuple_written {r : Record} (basic : ∀ v ∈ r.values, v.leaves Value.isBasic = true)
    (width : Nat) : (f.dialect.tuple f.escaper width r).toList =
      f.rowText (Statement.placed f width r) := by
  have written := encode_written (f:=f) (placed_basic basic width)
  rw [Dialect.encode_list,Value.literal_list] at written
  exact written

theorem insertion_written (plain : s.Plain) {first : Record} {rest : List Record}
    (rows : s.rows = first :: rest) : (f.dialect.insertion f.escaper s).sql.toList =
      f.insertionText s.table first.columns (s.rows.map (Statement.placed f first.size)) := by
  have each : s.rows.map (String.toList ∘ f.dialect.tuple f.escaper first.size) =
      s.rows.map (f.rowText ∘ Statement.placed f first.size) :=
    List.map_congr_left fun r member => tuple_written (plain.row r member) first.size
  have comma : ",".toList = [','] := rfl
  unfold Dialect.insertion
  rw [rows] at each ⊢
  simp only [Flavor.insertionText,String.toList_append,String.toList_intercalate,List.map_map,each,
    comma,letters_eq,List.append_assoc]

theorem toSql_written (plain : s.Plain) : (s.toSql f).toList = (s.intent f).written f := by
  change (f.dialect.compile f.escaper s).sql.toList = _
  rw [Dialect.compile_frame]
  unfold Dialect.frame Statement.intent
  cases method : s.method with
  | none => rfl
  | some m =>
    cases m with
    | insert =>
      cases rows : s.rows with
      | nil => simp [Dialect.insertion,rows,Compiled.nothing,Intent.written]
      | cons first rest =>
        have text := insertion_written (f:=f) plain rows
        rw [rows] at text
        exact text
    | select => exact selection_written plain
    | delete => exact tableFrame_written plain _
    | count => exact tableFrame_written plain _
    | update =>
      cases empty : s.assignments.isEmpty with
      | true => rfl
      | false => exact update_written plain
    | findByKey =>
      by_cases missing : s.usableKey = none
      · simp only [if_pos missing]
        rfl
      · simp only [if_neg missing]
        exact selection_written plain

end
end InlineSql
