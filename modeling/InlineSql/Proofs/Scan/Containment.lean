import InlineSql.Proofs.Scan.Literal
import InlineSql.Proofs.Statement.Built
import InlineSql.Proofs.Statement.Frame

namespace InlineSql
open Scan

namespace Predicate

structure SameShape (p q : Predicate) : Prop where
  qualifies : p.qualifies = q.qualifies
  operator : p.operator = q.operator
  connective : p.connective = q.connective
  value : p.value.masked = q.value.masked

structure Calm (p : Predicate) : Prop where
  connective : p.connective.word.toList.all isCalm = true
  operator : p.operator.toList.all isCalm = true
  ending : p.operator.toList.getLast?.any (fun c => !isWordChar c) = true
  written : p.value.leaves (fun v => !v.isRaw) = true

end Predicate

theorem alike_condition (f : Flavor) {p q : Predicate} (calm : p.Calm) (same : p.SameShape q) :
    Alike f Mode.Fresh (f.dialect.condition f.escaper p).toList
      (f.dialect.condition f.escaper q).toList Mode.Ready := by
  have name := alike_name f p.column q.column
  have literal := alike_encode f calm.written same.value
  cases value : p.value with
  | list items =>
    have shape := same.value
    rw [value] at shape
    obtain ⟨others,other,_⟩ := Value.masked_items shape
    rw [value,other,Dialect.encode_list,Dialect.encode_list] at literal
    rw [condition_list value,condition_list other]
    have membership : Alike f Mode.Ready " IN ".toList " IN ".toList Mode.Fresh :=
      .fresh
    simpa [Flavor.dialect_quote] using name.append (membership.append literal)
  | _ =>
    have leaf : p.value.isList = false := by rw [value]; rfl
    have otherLeaf : q.value.isList = false := by
      rcases Value.masked_leaf leaf same.value with ⟨s,t,_,there⟩ | equal
      · rw [there]; rfl
      · rw [← equal]; exact leaf
    have operator : Alike f Mode.Ready p.operator.toList p.operator.toList Mode.Fresh :=
      .fresh calm.operator calm.ending
    rw [condition_leaf leaf,condition_leaf otherLeaf,← same.operator]
    simpa [Flavor.dialect_quote] using name.append (operator.append literal)

def opening (started : Bool) (p : Predicate) : String :=
  if started then " " ++ p.connective.word ++ " " else " WHERE "

theorem alike_opening (f : Flavor) (started : Bool) {p : Predicate} (calm : p.Calm) :
    Alike f Mode.Ready (opening started p).toList (opening started p).toList Mode.Fresh := by
  cases started with
  | false => exact .fresh (w:=" WHERE ".toList) (by decide) (by decide)
  | true =>
    have text : (opening true p).toList = (' ' :: p.connective.word.toList) ++ [' '] := by
      simp [opening]
    rw [text]
    have blank : isCalm ' ' = true := by decide
    refine .fresh ?_ ?_
    · simp [blank,calm.connective]
    · rw [List.getLast?_append]
      rfl

theorem alike_conditions (f : Flavor) {ps qs : List Predicate}
    (same : List.Forall₂ Predicate.SameShape ps qs)
    (calm : ∀ p ∈ ps, p.qualifies = true → p.Calm) (index : Nat) (started : Bool) :
    Alike f Mode.Ready (f.dialect.conditions f.escaper index started ps).sql.toList
      (f.dialect.conditions f.escaper index started qs).sql.toList Mode.Ready := by
  induction same generalizing index started with
  | nil => exact .nil fun _ ready => ready
  | @cons p q ps qs first rest ih =>
    have later := fun p member => calm p (List.mem_cons_of_mem _ member)
    rw [Dialect.conditions,Dialect.conditions,← first.qualifies]
    split
    · rename_i written
      have here := calm p (by simp) written
      have words := alike_opening f started here
      have opened := words.append (alike_condition f here first)
      have whole := opened.append (ih later (index + 1) true)
      simpa [opening,first.connective] using whole
    · exact ih later (index + 1) started

namespace Statement

def grouped (s : Statement) : Bool := s.groupKey.any (· != "")

structure SameShape (a b : Statement) : Prop where
  table : a.table = b.table
  method : a.method = b.method
  columns : a.columns = b.columns
  predicates : List.Forall₂ Predicate.SameShape a.predicates b.predicates
  grouped : a.grouped = b.grouped
  directions : a.orderings.map SortKey.direction = b.orderings.map SortKey.direction
  window : a.window = b.window
  assignments : a.assignments.map (·.2.masked) = b.assignments.map (·.2.masked)
  rowColumns : a.rows.head?.map Record.columns = b.rows.head?.map Record.columns
  rows : a.rows.map (·.values.map Value.masked) = b.rows.map (·.values.map Value.masked)

structure Calm (s : Statement) : Prop where
  table : s.table.toList.all isCalm = true
  columns : ∀ c ∈ s.columns, c.toList.all isCalm = true
  rowColumns : ∀ r ∈ s.rows.head?, ∀ c ∈ r.columns, c.toList.all isCalm = true
  connectives : ∀ p ∈ s.predicates, p.qualifies = true →
    p.connective.word.toList.all isCalm = true
  operators : ∀ p ∈ s.predicates, p.qualifies = true → p.operator.toList.all isCalm = true ∧
    p.operator.toList.getLast?.all (fun c => !isWordChar c) = true

def RawFree (s : Statement) : Prop := ∀ v ∈ s.values, v.leaves (fun v => !v.isRaw) = true

end Statement

section
variable {f : Flavor} {a b : Statement}

theorem Statement.Calm.predicate (calm : a.Calm) (free : a.RawFree) :
    ∀ p ∈ a.predicates, p.qualifies = true → p.Calm := by
  intro p member written
  obtain ⟨operator,ending⟩ := calm.operators p member written
  have filled : p.operator.toList ≠ [] := by
    simp only [Predicate.qualifies,Bool.and_eq_true,bne_iff_ne] at written
    simpa using written.2
  have values := free p.value (Statement.predicate_held member)
  refine ⟨calm.connectives p member written,operator,?_,values⟩
  rw [List.getLast?_eq_some_getLast filled] at ending ⊢
  exact ending

theorem all_intercalate {test : Char → Bool} {sep : List Char} {parts : List (List Char)}
    (between : sep.all test = true) (each : ∀ part ∈ parts, part.all test = true) :
    (sep.intercalate parts).all test = true := by
  induction parts with
  | nil => rfl
  | cons first rest ih =>
    have here := each first (by simp)
    have later := ih fun part member => each part (List.mem_cons_of_mem _ member)
    cases rest with
    | nil => simpa using here
    | cons second others =>
      rw [List.intercalate_cons_cons,List.all_append,List.all_append,here,between,later]
      rfl

theorem alike_where (calm : a.Calm) (free : a.RawFree) (same : a.SameShape b) :
    Alike f Mode.Ready (f.dialect.whereClause f.escaper a).sql.toList
      (f.dialect.whereClause f.escaper b).sql.toList Mode.Ready :=
  alike_conditions f same.predicates (calm.predicate free) 0 false

theorem alike_group (same : a.SameShape b) :
    Alike f Mode.Ready (f.dialect.groupClause a).toList (f.dialect.groupClause b).toList
      Mode.Ready := by
  have opening : Alike f Mode.Ready " GROUP BY ".toList " GROUP BY ".toList Mode.Fresh :=
    .fresh
  have grouped := same.grouped
  have clause (s : Statement) : (s.grouped = false ∧ f.dialect.groupClause s = "") ∨
      (s.grouped = true ∧ ∃ key, f.dialect.groupClause s = " GROUP BY " ++ f.quote key) := by
    cases key : s.groupKey with
    | none => exact .inl ⟨by simp [Statement.grouped,key],by simp [Dialect.groupClause,key]⟩
    | some name =>
      by_cases empty : name = ""
      · exact .inl ⟨by simp [Statement.grouped,key,empty],by simp [Dialect.groupClause,key,empty]⟩
      · refine .inr ⟨by simp [Statement.grouped,key,empty],name,?_⟩
        simp [Dialect.groupClause,key,empty,Flavor.dialect_quote]
  rcases clause a with ⟨here,text⟩ | ⟨here,key,text⟩ <;>
    rcases clause b with ⟨there,other⟩ | ⟨there,name,other⟩
  · rw [text,other]
    exact .nil fun _ ready => ready
  · rw [here,there] at grouped
    cases grouped
  · rw [here,there] at grouped
    cases grouped
  · rw [text,other]
    simpa using opening.append (alike_name f key name)

theorem alike_orderings (same : a.SameShape b) :
    Alike f Mode.Ready (f.dialect.orderClause a).toList (f.dialect.orderClause b).toList
      Mode.Ready := by
  have comma : Alike f Mode.Ready ",".toList ",".toList Mode.Fresh := .fresh
  have opening : Alike f Mode.Ready " ORDER BY ".toList " ORDER BY ".toList Mode.Fresh :=
    .fresh
  have keys := forall₂_of_map same.directions fun k _ l direction =>
    show Alike f Mode.Fresh (f.dialect.sortKey k).toList (f.dialect.sortKey l).toList Mode.Ready by
      have name := alike_name f k.column l.column
      rw [Dialect.sortKey,Dialect.sortKey,direction,Flavor.dialect_quote,Flavor.dialect_quote]
      cases l.direction with
      | ascending => simpa using name
      | descending =>
        have word : Alike f Mode.Ready " DESC".toList " DESC".toList Mode.Ready := .calm
        simpa using name.append word
  have list := Alike.intercalate keys comma fun _ => Mode.Fresh.ready
  have length := keys.length_eq
  rw [Dialect.orderClause,Dialect.orderClause]
  cases left : a.orderings <;> cases right : b.orderings <;> rw [left,right] at length list
  · exact .nil fun _ ready => ready
  · cases length
  · cases length
  · simpa [Function.comp_def] using opening.append list

theorem alike_window (f : Flavor) (w : Window) :
    Alike f Mode.Ready (f.dialect.windowClause w).toList (f.dialect.windowClause w).toList
      Mode.Ready := by
  have opening : Alike f Mode.Ready " LIMIT ".toList " LIMIT ".toList Mode.Fresh :=
    .fresh
  have between : Alike f Mode.Ready f.limitWord.toList f.limitWord.toList Mode.Fresh := by
    cases f <;> exact .fresh
  have number (n : Int64) : Alike f Mode.Fresh (toString n).toList (toString n).toList Mode.Ready :=
    alike_int f n.toInt
  unfold Dialect.windowClause
  split
  · rw [Flavor.limitClause_text]
    simpa using (opening.append (number _)).append (between.append (number _))
  · exact .nil fun _ ready => ready

theorem alike_assignments (free : a.RawFree) (same : a.SameShape b) :
    Alike f Mode.Fresh (", ".intercalate (a.assignments.map (f.dialect.assignment f.escaper))).toList
      (", ".intercalate (b.assignments.map (f.dialect.assignment f.escaper))).toList Mode.Ready := by
  have comma : Alike f Mode.Ready ", ".toList ", ".toList Mode.Fresh :=
    .fresh
  have equals : Alike f Mode.Ready "=".toList "=".toList Mode.Fresh := .fresh
  have entries := forall₂_of_map same.assignments fun x member y value =>
    show Alike f Mode.Fresh (f.dialect.assignment f.escaper x).toList
        (f.dialect.assignment f.escaper y).toList Mode.Ready by
      have literal := alike_encode f (free x.2 (Statement.assignment_held member)) value
      rw [Dialect.assignment,Dialect.assignment,Flavor.dialect_quote,Flavor.dialect_quote]
      simpa using (alike_name f x.1 y.1).append (equals.append literal)
  have list := Alike.intercalate entries comma fun _ => Mode.Fresh.ready
  simpa [Function.comp_def] using list

theorem alike_tuple {width : Nat} {r t : Record}
    (free : ∀ v ∈ r.values, v.leaves (fun v => !v.isRaw))
    (same : r.values.map Value.masked = t.values.map Value.masked) :
    Alike f Mode.Ready (f.dialect.tuple f.escaper width r).toList
      (f.dialect.tuple f.escaper width t).toList Mode.Ready := by
  have placed : ((r.values.take width).rightpad width .null).map Value.masked =
      ((t.values.take width).rightpad width .null).map Value.masked := by
    rw [map_place,map_place,same]
  refine alike_list (forall₂_of_map placed fun v member w value => alike_encode f ?_ value)
  rcases mem_place member with held | rfl
  · exact free v held
  · rfl

structure AlikeFrames (f : Flavor) (u w : Frame) : Prop where
  before : Alike f Mode.Ready u.before.toList w.before.toList Mode.Ready
  after : Alike f Mode.Ready u.after.toList w.after.toList Mode.Fresh

theorem alike_selectionFrame (calm : a.Calm) (same : a.SameShape b) :
    AlikeFrames f (f.dialect.selectionFrame a) (f.dialect.selectionFrame b) := by
  have columns : (Dialect.columnList a).toList.all isCalm = true := by
    unfold Dialect.columnList
    split
    · decide
    · rw [String.toList_intercalate]
      refine all_intercalate (by decide) fun part member => ?_
      obtain ⟨c,listed,rfl⟩ := List.mem_map.mp member
      exact calm.columns c listed
  have sameColumns : Dialect.columnList b = Dialect.columnList a := by
    rw [Dialect.columnList,Dialect.columnList,same.columns]
  have select : Alike f Mode.Ready "SELECT ".toList "SELECT ".toList Mode.Ready := .calm
  have origin : Alike f Mode.Ready " FROM ".toList " FROM ".toList Mode.Ready := .calm
  have close : Alike f Mode.Ready ";".toList ";".toList Mode.Fresh := .fresh
  constructor
  · have head := ((select.append (.calm columns)).append origin).append (.calm calm.table)
    simpa only [Dialect.selectionFrame,String.toList_append,sameColumns,← same.table] using head
  · have keys := (alike_group same).append (alike_orderings (f:=f) same)
    have tail := (keys.append (alike_window f a.window)).append close
    simpa only [Dialect.selectionFrame,String.toList_append,← same.window] using tail

theorem alike_updateFrame (calm : a.Calm) (free : a.RawFree) (same : a.SameShape b) :
    AlikeFrames f (f.dialect.updateFrame f.escaper a) (f.dialect.updateFrame f.escaper b) := by
  have update : Alike f Mode.Ready "UPDATE ".toList "UPDATE ".toList Mode.Ready := .calm
  have set : Alike f Mode.Ready " SET ".toList " SET ".toList Mode.Fresh :=
    .fresh
  have head := (update.append (.calm calm.table)).append set
  have assigned := head.append (alike_assignments free same)
  constructor
  · simpa only [Dialect.updateFrame,String.toList_append,← same.table] using assigned
  · exact .fresh (w:=";".toList) (by decide) (by decide)

theorem alike_tableFrame {head : String} (calm : a.Calm) (same : a.SameShape b)
    (plain : head.toList.all isCalm = true) :
    AlikeFrames f ⟨head ++ a.table,";"⟩ ⟨head ++ b.table,";"⟩ := by
  have opening : Alike f Mode.Ready head.toList head.toList Mode.Ready := .calm plain
  constructor
  · simpa only [String.toList_append,← same.table] using opening.append (.calm calm.table)
  · exact .fresh (w:=";".toList) (by decide) (by decide)

-- Only the text of a search by key depends on whether something quoted is there at all: on the
-- key. Whether it is shows in the first condition, which both statements write or both skip.
theorem usableKey_same (builtA : a.Built) (builtB : b.Built) (same : a.SameShape b)
    (method : a.method = some .findByKey) : (a.usableKey = none) ↔ (b.usableKey = none) := by
  have here := builtA.usableKey method
  have there := builtB.usableKey (same.method ▸ method)
  have first : a.predicates.head?.any Predicate.qualifies =
      b.predicates.head?.any Predicate.qualifies := by
    have predicates := same.predicates
    generalize a.predicates = ps at predicates
    generalize b.predicates = qs at predicates
    cases predicates with
    | nil => rfl
    | cons first rest => simpa using first.qualifies
  rw [first,← there] at here
  rw [← Option.not_isSome_iff_eq_none,← Option.not_isSome_iff_eq_none,here]

theorem alike_frame (builtA : a.Built) (builtB : b.Built) (calm : a.Calm) (free : a.RawFree)
    (same : a.SameShape b) :
    Option.Rel (AlikeFrames f) (f.dialect.frame f.escaper a) (f.dialect.frame f.escaper b) := by
  unfold Dialect.frame
  rw [← same.method]
  cases method : a.method with
  | none => exact .none
  | some m =>
    cases m with
    | insert => exact .none
    | select => exact .some (alike_selectionFrame calm same)
    | delete => exact .some (alike_tableFrame calm same (by decide))
    | count => exact .some (alike_tableFrame calm same (by decide))
    | update =>
      have empty : a.assignments.isEmpty = b.assignments.isEmpty := by
        have length := congrArg List.length same.assignments
        rw [List.length_map,List.length_map] at length
        cases left : a.assignments <;> cases right : b.assignments <;> simp_all
      dsimp only
      rw [← empty]
      split
      · exact .none
      · exact .some (alike_updateFrame calm free same)
    | findByKey =>
      have usable := usableKey_same builtA builtB same method
      dsimp only
      by_cases missing : a.usableKey = none
      · rw [if_pos missing,if_pos (usable.mp missing)]
        exact .none
      · rw [if_neg missing,if_neg (missing ∘ usable.mpr)]
        exact .some (alike_selectionFrame calm same)

theorem alike_insertion (calm : a.Calm) (free : a.RawFree) (same : a.SameShape b) :
    Alike f Mode.Fresh (f.dialect.insertion f.escaper a).sql.toList
      (f.dialect.insertion f.escaper b).sql.toList Mode.Fresh := by
  have close : Alike f Mode.Ready [';'] [';'] Mode.Fresh := .fresh
  have comma : Alike f Mode.Ready ",".toList ",".toList Mode.Ready := .calm
  have into : Alike f Mode.Ready "INSERT INTO ".toList "INSERT INTO ".toList Mode.Ready :=
    .calm
  have bracket : Alike f Mode.Ready " (".toList " (".toList Mode.Ready := .calm
  have tuplesFollow : Alike f Mode.Ready ") VALUES ".toList ") VALUES ".toList Mode.Ready :=
    .calm
  have columns := same.rowColumns
  have names := calm.rowColumns
  have tuples (width : Nat) := forall₂_of_map same.rows fun r member t values =>
    show Alike f Mode.Ready (f.dialect.tuple f.escaper width r).toList
        (f.dialect.tuple f.escaper width t).toList Mode.Ready by
      exact alike_tuple (fun v held => free v (Statement.row_held member held)) values
  have length := (tuples 0).length_eq
  rw [Dialect.insertion,Dialect.insertion]
  cases left : a.rows with
  | nil =>
    cases right : b.rows with
    | nil => exact .nil fun _ fresh => fresh
    | cons other others => rw [left,right] at length; cases length
  | cons first rest =>
    cases right : b.rows with
    | nil => rw [left,right] at length; cases length
    | cons other others =>
      rw [left,right] at columns
      have sameColumns : first.columns = other.columns := by simpa using columns
      have width : other.size = first.size := Record.size_same sameColumns.symm
      have list := Alike.intercalate (tuples first.size) comma fun _ ready => ready
      have header : (",".intercalate first.columns).toList.all isCalm = true := by
        rw [String.toList_intercalate]
        refine all_intercalate (by decide) fun part member => ?_
        obtain ⟨c,listed,rfl⟩ := List.mem_map.mp member
        exact names first (by simp [left]) c listed
      have head := (((into.append (.calm calm.table)).append bracket).append (.calm header)).append
        tuplesFollow
      have whole := (head.append list).append close
      rw [left,right] at whole
      simpa [← sameColumns,← same.table,width,Function.comp_def] using
        whole.before_of fun _ => Mode.Fresh.ready

theorem alike_compile (builtA : a.Built) (builtB : b.Built) (calm : a.Calm) (free : a.RawFree)
    (same : a.SameShape b) :
    Alike f Mode.Fresh (a.toSql f).toList (b.toSql f).toList Mode.Fresh := by
  change Alike f Mode.Fresh (f.dialect.compile f.escaper a).sql.toList
    (f.dialect.compile f.escaper b).sql.toList Mode.Fresh
  have frames := alike_frame (f:=f) builtA builtB calm free same
  rw [Dialect.compile_frame,Dialect.compile_frame]
  generalize f.dialect.frame f.escaper a = u at frames
  generalize f.dialect.frame f.escaper b = w at frames
  cases frames with
  | some around =>
    have opened := around.before.append (alike_where calm free same)
    have whole := (opened.append around.after).before_of fun _ => Mode.Fresh.ready
    simpa only [Dialect.framed,String.toList_append] using whole
  | none =>
    dsimp only
    rw [← same.method]
    split
    · exact alike_insertion calm free same
    · exact .nil fun _ fresh => fresh

-- Injection containment. Neither a text nor a quoted name can end its quotation, open one, begin
-- a comment or change anything outside: both texts divide completely, into the same segments.
theorem divide_same_shape (f : Flavor) {a b : Statement} (builtA : a.Built) (builtB : b.Built)
    (calm : a.Calm) (free : a.RawFree) (same : a.SameShape b) :
    ∃ segments others, f.divide (a.toSql f) = some segments ∧ f.divide (b.toSql f) = some others ∧
      segments.map Segment.hidden = others.map Segment.hidden ∧
      ∀ segment ∈ segments, segment.isComment = false := by
  have begun : (Scan.start).mode.Fresh := by simp [Scan.start,Mode.Fresh]
  have unremarked : Scan.start.Unremarked := by simp [Scan.start,Unremarked]
  obtain ⟨hidden,fresh,plain⟩ :=
    alike_compile builtA builtB calm free same Scan.start Scan.start rfl begun unremarked
  obtain ⟨recent,mode⟩ := fresh.outside
  have other := outside_of_hidden hidden mode
  have segments := congrArg Scan.segments hidden
  refine ⟨_,_,by rw [Flavor.divide,Scan.finish,mode],by rw [Flavor.divide,Scan.finish,other],?_,?_⟩
  · simpa using segments
  · intro segment member
    have whole : Unremarked ⟨.outside recent.reverse :: _,.outside []⟩ := plain.begin rfl _
    exact whole segment (List.mem_reverse.mp member)

end

theorem divide_hostile_text :
    let a := (Statement.start "users" .select).build
      [.whereOp "name" "=" (.text "x\\' OR 1=1; -- "),.whereEq "b\x60" (.list [.text "\"",.int (-7)]),
        .orderDescending "\""]
    let b := (Statement.start "users" .select).build
      [.whereOp "id" "=" (.text "x"),.whereEq "b" (.list [.text "",.int (-7)]),.orderDescending "b"]
    a.Calm ∧ a.RawFree ∧ a.SameShape b ∧ ∃ segments others,
      Flavor.postgresql.divide (a.toSql .postgresql) = some segments ∧
        Flavor.postgresql.divide (b.toSql .postgresql) = some others ∧
        segments.map Segment.hidden = others.map Segment.hidden ∧
        ∀ segment ∈ segments, segment.isComment = false := by
  intro a b
  have calm : a.Calm := by
    constructor <;> decide
  have free : a.RawFree := by
    unfold Statement.RawFree
    decide
  have same : a.SameShape b := by
    constructor
    case predicates =>
      exact .cons ⟨rfl,rfl,rfl,rfl⟩ (.cons ⟨rfl,rfl,rfl,rfl⟩ .nil)
    all_goals rfl
  have builtA : a.Built := ⟨_,_,_,rfl⟩
  have builtB : b.Built := ⟨_,_,_,rfl⟩
  exact ⟨calm,free,same,divide_same_shape .postgresql builtA builtB calm free same⟩

end InlineSql
