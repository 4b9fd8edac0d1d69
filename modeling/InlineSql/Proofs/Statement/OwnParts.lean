import InlineSql.Proofs.Statement.Frame
import InlineSql.Proofs.Statement.Gathered

namespace InlineSql

-- What the text of a method is made from, beside the name of the table. A search by key also
-- asks for the key column, which no call changes.
def Method.parts : Method → List Part
  | .select | .findByKey => [.columns,.predicates,.groupKey,.orderings,.window]
  | .update => [.assignments,.predicates]
  | .insert => [.rows]
  | .delete | .count => [.predicates]

namespace Statement

def ownParts (s : Statement) : List Part :=
  match s.method with
  | none => []
  | some m => m.parts

structure SameOwn (s t : Statement) : Prop where
  table : s.table = t.table
  method : s.method = t.method
  parts : ∀ part ∈ s.ownParts, s.SamePart t part
  keyColumn : s.method = some .findByKey → s.keyColumn = t.keyColumn

theorem build_sameOwn (s : Statement) {clauses others : List Clause}
    (same : ∀ part ∈ s.ownParts, clauses.filter (·.part = part) = others.filter (·.part = part)) :
    (s.build clauses).SameOwn (s.build others) := by
  rw [build_eq_gathered,build_eq_gathered]
  exact ⟨rfl,rfl,fun part member => s.gathered_samePart (same part member),fun _ => rfl⟩

theorem filter_own {s : Statement} (clauses : List Clause) {part : Part} (member : part ∈ s.ownParts) :
    (clauses.filter (·.part ∈ s.ownParts)).filter (·.part = part) =
      clauses.filter (·.part = part) := by
  rw [List.filter_filter]
  refine List.filter_congr fun c _ => ?_
  by_cases here : c.part = part
  · simp [here,member]
  · simp [here]

end Statement

def Compiled.within (c : Compiled) (before after : String) : Compiled :=
  {c with sql:=before ++ c.sql ++ after}

namespace Dialect

variable (d : Dialect) (e : Escaper)

section
variable {s t : Statement}

theorem selection_own (table : s.table = t.table)
    (own : ∀ part ∈ Method.select.parts, s.SamePart t part) : d.selection e s = d.selection e t := by
  have columns : s.columns = t.columns := own .columns (by decide)
  have predicates : s.predicates = t.predicates := own .predicates (by decide)
  have groupKey : s.groupKey = t.groupKey := own .groupKey (by decide)
  have orderings : s.orderings = t.orderings := own .orderings (by decide)
  have window : s.window = t.window := own .window (by decide)
  unfold selection columnList whereClause groupClause orderClause
  rw [table,columns,predicates,groupKey,orderings,window]

theorem update_own (table : s.table = t.table)
    (own : ∀ part ∈ Method.update.parts, s.SamePart t part) : d.update e s = d.update e t := by
  have assignments : s.assignments = t.assignments := own .assignments (by decide)
  have predicates : s.predicates = t.predicates := own .predicates (by decide)
  unfold update whereClause
  rw [table,assignments,predicates]

theorem insertion_own (table : s.table = t.table)
    (own : ∀ part ∈ Method.insert.parts, s.SamePart t part) :
    d.insertion e s = d.insertion e t := by
  have rows : s.rows = t.rows := own .rows (by decide)
  unfold insertion
  rw [table,rows]

theorem deletion_own (table : s.table = t.table)
    (own : ∀ part ∈ Method.delete.parts, s.SamePart t part) : d.deletion e s = d.deletion e t := by
  have predicates : s.predicates = t.predicates := own .predicates (by decide)
  unfold deletion whereClause
  rw [table,predicates]

theorem counting_own (table : s.table = t.table)
    (own : ∀ part ∈ Method.count.parts, s.SamePart t part) : d.counting e s = d.counting e t := by
  have predicates : s.predicates = t.predicates := own .predicates (by decide)
  unfold counting whereClause
  rw [table,predicates]

theorem compile_own (same : s.SameOwn t) : d.compile e s = d.compile e t := by
  obtain ⟨table,sameMethod,own,key⟩ := same
  unfold compile
  rw [← sameMethod]
  cases method : s.method with
  | none => rfl
  | some m =>
    rw [Statement.ownParts,method] at own
    cases m with
    | select => exact d.selection_own e table own
    | update => exact d.update_own e table own
    | insert => exact d.insertion_own e table own
    | delete => exact d.deletion_own e table own
    | count => exact d.counting_own e table own
    | findByKey =>
      have usable : s.usableKey = t.usableKey := by
        rw [Statement.usableKey,Statement.usableKey,key method]
      dsimp only
      rw [usable,d.selection_own e table own]

end

theorem compile_build_own (s : Statement) (clauses : List Clause) : d.compile e (s.build clauses) =
    d.compile e (s.build (clauses.filter (·.part ∈ s.ownParts))) := by
  apply d.compile_own e
  apply Statement.build_sameOwn
  intro part member
  exact (Statement.filter_own clauses member).symm

theorem compile_around {s : Statement} {before after : String}
    (framed : d.frame e s = some ⟨before,after⟩) (ps : List Predicate) :
    d.compile e {s with predicates:=ps} = (d.conditions e 0 false ps).within before after := by
  have same : d.frame e {s with predicates:=ps} = d.frame e s := rfl
  rw [d.compile_frame,same,framed]
  rfl

-- A text comes from the parts of its own method alone. What the conditions give is the same for
-- every method that has any, and nothing around them depends on them.
theorem compile_own_parts :
    (∀ s t : Statement, s.SameOwn t → d.compile e s = d.compile e t) ∧
    (∀ (s : Statement) (clauses : List Clause), d.compile e (s.build clauses) =
      d.compile e (s.build (clauses.filter (·.part ∈ s.ownParts)))) ∧
    (∃ conditions : List Predicate → Compiled, ∀ s : Statement,
      (s.method = some .count → ∀ ps, d.compile e {s with predicates:=ps} =
        (conditions ps).within ("SELECT COUNT(*) AS c FROM " ++ s.table) ";") ∧
      (s.method = some .delete → ∀ ps, d.compile e {s with predicates:=ps} =
        (conditions ps).within ("DELETE FROM " ++ s.table) ";") ∧
      (s.method = some .update → s.assignments ≠ [] → ∃ assigned, ∀ ps,
        d.compile e {s with predicates:=ps} =
          (conditions ps).within ("UPDATE " ++ s.table ++ " SET " ++ assigned) ";") ∧
      (s.method = some .select ∨ s.method = some .findByKey ∧ s.usableKey ≠ none →
        ∃ columns after, ∀ ps, d.compile e {s with predicates:=ps} =
          (conditions ps).within ("SELECT " ++ columns ++ " FROM " ++ s.table) (after ++ ";"))) ∧
    ∀ s : Statement, s.method = some .insert → (d.compile e s).skips = [] := by
  refine ⟨fun s t same => d.compile_own e same,d.compile_build_own e,
    ⟨d.conditions e 0 false,fun s => ⟨?count,?delete,?update,?select⟩⟩,?insert⟩
  case count =>
    intro method
    have framed : d.frame e s = some ⟨"SELECT COUNT(*) AS c FROM " ++ s.table,";"⟩ := by
      rw [frame,method]
    exact d.compile_around e framed
  case delete =>
    intro method
    have framed : d.frame e s = some ⟨"DELETE FROM " ++ s.table,";"⟩ := by
      rw [frame,method]
    exact d.compile_around e framed
  case update =>
    intro method assigned
    have framed : d.frame e s = some (d.updateFrame e s) := by
      rw [frame,method]
      exact if_neg (by simpa using assigned)
    exact ⟨_,d.compile_around e framed⟩
  case select =>
    intro method
    have framed : d.frame e s = some (d.selectionFrame s) := by
      rcases method with select | ⟨search,found⟩
      · rw [frame,select]
      · rw [frame,search]
        exact if_neg found
    exact ⟨_,_,d.compile_around e framed⟩
  case insert =>
    intro s method
    rw [compile,method]
    exact d.insertion_skips e s

end Dialect

theorem compile_own_deletion :
    let s := (Statement.start "t" .delete).build [.whereEq "a" (.int 1)]
    let t := (Statement.start "t" .delete).build [.limit 5,.orderDescending "b",.groupBy "c",
      .columns ["d"],.whereEq "a" (.int 1),.set "e" .null,.row .empty]
    s.SameOwn t ∧ s.window ≠ t.window ∧ Dialect.mySql.compile Flavor.mysql.escaper s =
      Dialect.mySql.compile Flavor.mysql.escaper t ∧
      t.window = ⟨0,5⟩ ∧ t.predicates = [{column:="a",value:=.int 1}] ∧
      Dialect.mySql.compile Flavor.mysql.escaper t = ⟨"DELETE FROM t WHERE \x60a\x60=1;",[]⟩ := by
  intro s t
  have same : s.SameOwn t := by
    refine ⟨rfl,rfl,?_,fun _ => rfl⟩
    intro part member
    cases List.mem_singleton.mp member
    rfl
  have limited : Window.unbounded ≠ ⟨0,5⟩ := by decide
  have alike := (Dialect.compile_own_parts .mySql Flavor.mysql.escaper).1 s t same
  have text : Dialect.mySql.compile Flavor.mysql.escaper s =
      ⟨"DELETE FROM t WHERE \x60a\x60=1;",[]⟩ := by decide +kernel
  exact ⟨same,limited,alike,rfl,rfl,alike.symm.trans text⟩

end InlineSql
