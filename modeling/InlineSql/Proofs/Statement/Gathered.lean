import InlineSql.Proofs.Statement.Built
import InlineSql.Proofs.Statement.Validated

namespace InlineSql

inductive Part where
  | columns
  | predicates
  | groupKey
  | orderings
  | window
  | assignments
  | rows
deriving DecidableEq

namespace Clause

def part : Clause → Part
  | .columns _ => .columns
  | .groupBy _ => .groupKey
  | .orderBy _ _ | .orderAscending _ | .orderDescending _ => .orderings
  | .limit _ | .limitRange _ _ => .window
  | .set _ _ | .setAll _ => .assignments
  | .row _ => .rows
  | .whereEq _ _ | .whereOp _ _ _ | .orWhereEq _ _ | .orWhereOp _ _ _ | .predicate _
  | .whereAll _ => .predicates

def orderings : Clause → List SortKey
  | .orderBy column direction => [⟨column,direction⟩]
  | .orderAscending column => [⟨column,.ascending⟩]
  | .orderDescending column => [⟨column,.descending⟩]
  | _ => []

def assignments : Clause → List (String × Value)
  | .set column value => [(column,value)]
  | .setAll entries => entries
  | _ => []

def rows : Clause → List Record
  | .row r => [r]
  | _ => []

def columns? : Clause → Option (List String)
  | .columns names => some names
  | _ => none

def groupKey? : Clause → Option String
  | .groupBy column => some column
  | _ => none

def window? : Clause → Option Window
  | .limit count => some ⟨0,count⟩
  | .limitRange offset stop => some ⟨offset,stop⟩
  | _ => none

section
variable {α : Type} (part : Part) (clauses : List Clause)

theorem collected_part (collect : Clause → List α) (own : ∀ c, c.part ≠ part → collect c = []) :
    clauses.flatMap collect = (clauses.filter (·.part = part)).flatMap collect := by
  induction clauses with
  | nil => rfl
  | cons c rest ih =>
    rw [List.flatMap_cons,ih,List.filter_cons]
    by_cases here : c.part = part
    · simp [here]
    · simp [here,own c here]

theorem latest_part (choose : Clause → Option α) (own : ∀ c, c.part ≠ part → choose c = none) :
    clauses.filterMap choose = (clauses.filter (·.part = part)).filterMap choose := by
  induction clauses with
  | nil => rfl
  | cons c rest ih =>
    rw [List.filterMap_cons,ih,List.filter_cons]
    by_cases here : c.part = part
    · simp [here,List.filterMap_cons]
    · simp [here,own c here]

end

structure Single (c : Clause) : Prop where
  columns : c.part ≠ .columns → c.columns? = none
  predicates : c.part ≠ .predicates → c.predicates = []
  groupKey : c.part ≠ .groupKey → c.groupKey? = none
  orderings : c.part ≠ .orderings → c.orderings = []
  window : c.part ≠ .window → c.window? = none
  assignments : c.part ≠ .assignments → c.assignments = []
  rows : c.part ≠ .rows → c.rows = []

theorem single (c : Clause) : c.Single := by
  cases c <;> constructor <;> intro other <;> first | rfl | exact absurd rfl other

end Clause

namespace Record

def Lists (r : Record) (cells : List (String × Value)) : Prop :=
  cells.map (fun cell => (cell.1,some cell.2)) = r.columns.map fun c => (c,r.get? c)

theorem lists_entries (r : Record) : r.Lists r.entries := by
  have found := lookup_entries r.distinct
  rw [List.map_inj_left] at found
  rw [Lists,columns,List.map_map]
  exact List.map_congr_left fun entry member => congrArg (entry.1,·) (found entry member).symm

end Record

namespace Statement

-- The parts that collect keep what was there and get every item of every call, in the order
-- of the calls. The other three have what the last call for them gives; the table, the method
-- and the key column are as at the start.
def gathered (s : Statement) (clauses : List Clause) : Statement where
  table := s.table
  method := s.method
  columns := (clauses.filterMap Clause.columns?).getLast?.getD s.columns
  predicates := s.predicates ++ clauses.flatMap Clause.predicates
  groupKey := (clauses.filterMap Clause.groupKey?).getLast?.or s.groupKey
  orderings := s.orderings ++ clauses.flatMap Clause.orderings
  window := (clauses.filterMap Clause.window?).getLast?.getD s.window
  assignments := s.assignments ++ clauses.flatMap Clause.assignments
  rows := s.rows ++ clauses.flatMap Clause.rows
  keyColumn := s.keyColumn

theorem gathered_nil (s : Statement) : s.gathered [] = s := by
  simp [gathered]

theorem add_gathered (s : Statement) (c : Clause) : s.add c = s.gathered [c] := by
  cases c with
  | whereAll entries =>
    rw [add,foldl_addPredicate]
    simp [gathered,Clause.predicates,Clause.orderings,Clause.assignments,Clause.rows,
      Clause.columns?,Clause.groupKey?,Clause.window?]
  | setAll entries =>
    rw [add,foldl_addAssignment]
    simp [gathered,Clause.predicates,Clause.orderings,Clause.assignments,Clause.rows,
      Clause.columns?,Clause.groupKey?,Clause.window?]
  | _ =>
    simp [add,addPredicate,addOrdering,addAssignment,gathered,Clause.predicates,Clause.orderings,
      Clause.assignments,Clause.rows,Clause.columns?,Clause.groupKey?,Clause.window?]

theorem gathered_append (s : Statement) (before after : List Clause) :
    (s.gathered before).gathered after = s.gathered (before ++ after) := by
  simp only [gathered,List.filterMap_append,List.flatMap_append,List.append_assoc,
    List.getLast?_append,Option.or_assoc,Option.getD_or]

theorem build_eq_gathered (s : Statement) (clauses : List Clause) :
    s.build clauses = s.gathered clauses := by
  induction clauses generalizing s with
  | nil => exact (gathered_nil s).symm
  | cons c rest ih =>
    change (s.add c).build rest = s.gathered ([c] ++ rest)
    rw [ih,add_gathered,gathered_append]

def SamePart (s t : Statement) : Part → Prop
  | .columns => s.columns = t.columns
  | .predicates => s.predicates = t.predicates
  | .groupKey => s.groupKey = t.groupKey
  | .orderings => s.orderings = t.orderings
  | .window => s.window = t.window
  | .assignments => s.assignments = t.assignments
  | .rows => s.rows = t.rows

theorem gathered_samePart (s : Statement) {clauses others : List Clause} {part : Part}
    (same : clauses.filter (·.part = part) = others.filter (·.part = part)) :
    (s.gathered clauses).SamePart (s.gathered others) part := by
  have collected {α : Type} (collect : Clause → List α)
      (own : ∀ c, c.part ≠ part → collect c = []) :
      clauses.flatMap collect = others.flatMap collect := by
    rw [Clause.collected_part part clauses collect own,same,← Clause.collected_part part _ _ own]
  have latest {α : Type} (choose : Clause → Option α)
      (own : ∀ c, c.part ≠ part → choose c = none) :
      clauses.filterMap choose = others.filterMap choose := by
    rw [Clause.latest_part part clauses choose own,same,← Clause.latest_part part _ _ own]
  cases part with
  | columns =>
    exact congrArg (·.getLast?.getD s.columns) (latest Clause.columns? fun c => c.single.columns)
  | predicates =>
    exact congrArg (s.predicates ++ ·) (collected Clause.predicates fun c => c.single.predicates)
  | groupKey =>
    exact congrArg (·.getLast?.or s.groupKey) (latest Clause.groupKey? fun c => c.single.groupKey)
  | orderings =>
    exact congrArg (s.orderings ++ ·) (collected Clause.orderings fun c => c.single.orderings)
  | window =>
    exact congrArg (·.getLast?.getD s.window) (latest Clause.window? fun c => c.single.window)
  | assignments =>
    exact congrArg (s.assignments ++ ·) (collected Clause.assignments fun c => c.single.assignments)
  | rows => exact congrArg (s.rows ++ ·) (collected Clause.rows fun c => c.single.rows)

theorem gathered_shuffled (s : Statement) {clauses others : List Clause}
    (same : ∀ part, clauses.filter (·.part = part) = others.filter (·.part = part)) :
    s.gathered clauses = s.gathered others := by
  have part := fun part => s.gathered_samePart (same part)
  have columns := part .columns
  have predicates := part .predicates
  have groupKey := part .groupKey
  have orderings := part .orderings
  have window := part .window
  have assignments := part .assignments
  have rows := part .rows
  simp only [SamePart,gathered] at columns predicates groupKey orderings window assignments rows
  unfold gathered
  rw [columns,predicates,groupKey,orderings,window,assignments,rows]

-- A run of calls leaves in every part what the calls for that part put there, and two runs that
-- agree part by part cannot be told apart, however their calls were mixed.
theorem build_parts (table : String) (begin : Start) (clauses : List Clause) :
    (start table begin).build clauses = (start table begin).gathered clauses ∧
    (∀ entries : List (String × Value), let r := Record.ofEntries entries
      r.columns.Nodup ∧ (∀ c, c ∈ r.columns ↔ c ∈ entries.map Prod.fst) ∧
        r.Lists ((Clause.whereAll r.entries).predicates.map fun p => (p.column,p.value)) ∧
        r.Lists (Clause.setAll r.entries).assignments) ∧
    ∀ others : List Clause,
      (∀ part, clauses.filter (·.part = part) = others.filter (·.part = part)) →
      let s := (start table begin).build clauses
      let t := (start table begin).build others
      s = t ∧ (∀ (d : Dialect) (e : Escaper), (d.compile e s).sql = (d.compile e t).sql) ∧
        s.defect? = t.defect? := by
  refine ⟨build_eq_gathered _ clauses,fun entries => ?_,fun others same => ?_⟩
  · let r := Record.ofEntries entries
    have conditions : (Clause.whereAll r.entries).predicates.map (fun p => (p.column,p.value)) =
        r.entries := by
      rw [Clause.predicates,List.map_map]
      exact List.map_id _
    refine ⟨r.distinct,Record.columns_ofEntries entries,?_,r.lists_entries⟩
    rw [conditions]
    exact r.lists_entries
  · have equal : (start table begin).build clauses = (start table begin).build others := by
      rw [build_eq_gathered,build_eq_gathered,gathered_shuffled _ same]
    dsimp only
    rw [equal]
    exact ⟨rfl,fun _ _ => rfl,rfl⟩

theorem build_parts_mixed :
    let clauses : List Clause := [.whereEq "a" (.int 1),.limit 5,.set "b" .null,
      .whereAll [("a",.text "x"),("a",.int 2)],.limitRange 2 7,.orderAscending "a",.setAll [("b",.int 3)]]
    let others : List Clause := [.limit 5,.limitRange 2 7,.orderAscending "a",.set "b" .null,
      .setAll [("b",.int 3)],.whereEq "a" (.int 1),.whereAll [("a",.text "x"),("a",.int 2)]]
    (∀ part, clauses.filter (·.part = part) = others.filter (·.part = part)) ∧
      let s := (start "t" (.findByKey "id" (.int 9))).build clauses
      let t := (start "t" (.findByKey "id" (.int 9))).build others
      s = t ∧ (∀ (d : Dialect) (e : Escaper), (d.compile e s).sql = (d.compile e t).sql) ∧
        s.defect? = t.defect? ∧
        s = {
          table:="t",method:=some .findByKey,keyColumn:=some "id",window:=⟨2,7⟩,
          orderings:=[⟨"a",.ascending⟩],assignments:=[("b",.null),("b",.int 3)],
          predicates:=[{column:="id",value:=.int 9},{column:="a",value:=.int 1},
            {column:="a",value:=.text "x"},{column:="a",value:=.int 2}]} ∧
        s.toSql .mysql = "SELECT * FROM t WHERE \x60id\x60=9 AND \x60a\x60=1 AND \x60a\x60='x'" ++
          " AND \x60a\x60=2 ORDER BY \x60a\x60 LIMIT 2,5;" := by
  intro clauses others
  have same : ∀ part, clauses.filter (·.part = part) = others.filter (·.part = part) := by
    intro part
    cases part <;> rfl
  obtain ⟨gathered,_,shuffled⟩ := build_parts "t" (.findByKey "id" (.int 9)) clauses
  obtain ⟨equal,texts,defects⟩ := shuffled others same
  exact ⟨same,equal,texts,defects,gathered,by decide +kernel⟩

end Statement
end InlineSql
