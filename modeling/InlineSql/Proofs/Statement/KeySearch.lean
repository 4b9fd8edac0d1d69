import InlineSql.Proofs.Statement.FirstDefect
import InlineSql.Proofs.Statement.WhereClause

namespace InlineSql

namespace Statement

section
variable {s : Statement} {key : String} {value : Value} {later : List Predicate}

theorem Searches.idle (searches : s.Searches key value later) : s.isIdle = true ↔ key = "" := by
  simp [isIdle,searches.method,searches.keyColumn]

theorem Searches.keyless (searches : s.Searches key value later) : s.Keyless ↔ key = "" := by
  simp [Keyless,searches.method,searches.keyColumn]

theorem Searches.usable (searches : s.Searches key value later) (found : key ≠ "") :
    s.usableKey ≠ none := by
  simp [usableKey,searches.keyColumn,found]

end

theorem build_window (s : Statement) {clauses : List Clause}
    (limits : ∀ count, .limit count ∉ clauses)
    (ranges : ∀ offset stop, .limitRange offset stop ∉ clauses) :
    (s.build clauses).window = s.window := by
  have none : clauses.filterMap Clause.window? = [] := by
    rw [List.filterMap_eq_nil_iff]
    intro c member
    cases c with
    | limit count => exact absurd member (limits count)
    | limitRange offset stop => exact absurd member (ranges offset stop)
    | _ => rfl
  rw [build_eq_gathered,gathered,none]
  rfl

end Statement

namespace Dialect

variable (d : Dialect) (e : Escaper)

def keyText : Value → String
  | .list items => " IN " ++ d.listLiteral e items
  | value => "=" ++ d.encode e value

theorem condition_key (key : String) (value : Value) :
    d.condition e {column:=key,value} = d.quoteIdentifier key ++ d.keyText e value := by
  cases value <;> rfl

theorem compile_search {s : Statement} {key : String} {value : Value} {later : List Predicate}
    (searches : s.Searches key value later) (found : key ≠ "") : (d.compile e s).sql =
      "SELECT " ++ columnList s ++ " FROM " ++ s.table ++ " WHERE " ++
        d.condition e {column:=key,value} ++
        String.join ((later.filter Predicate.qualifies).map (d.linkedText e)) ++
        d.groupClause s ++ d.orderClause s ++ d.windowClause s.window ++ ";" := by
  have framed : d.frame e s = some (d.selectionFrame s) := by
    rw [frame,searches.method]
    exact if_neg (searches.usable found)
  have written : Predicate.qualifies {column:=key,value} = true := by
    simp [Predicate.qualifies,found]
  have conditions : d.whereText e s.predicates = " WHERE " ++ d.condition e {column:=key,value} ++
      String.join ((later.filter Predicate.qualifies).map (d.linkedText e)) := by
    rw [whereText_every,searches.predicates,List.filter_cons_of_pos written,everyCondition_cons]
  have text := congrArg Compiled.sql (d.compile_around e framed s.predicates)
  change (d.compile e s).sql = (d.selectionFrame s).before ++ d.whereText e s.predicates ++
    (d.selectionFrame s).after at text
  rw [text,conditions,selectionFrame]
  simp only [String.append_assoc]

end Dialect

namespace Statement

-- A search by key reads its own key first whatever is built on it, and reads one row unless a
-- call asks for others. Without a key it has no text, and the check says so.
theorem search_reads_key (d : Dialect) (e : Escaper) (table key : String) (value : Value)
    (clauses : List Clause) :
    let s := (start table (.findByKey key value)).build clauses
    let columns := (clauses.filterMap Clause.columns?).getLast?.getD []
    let later := (clauses.flatMap Clause.predicates).filter Predicate.qualifies
    ((d.compile e s).sql = "" ↔ key = "") ∧ (s.defect? = some .missingKeyColumn ↔ key = "") ∧
    (key ≠ "" → (d.compile e s).sql =
      "SELECT " ++ (if columns = [] then "*" else ",".intercalate columns) ++ " FROM " ++ table ++
        " WHERE " ++ d.quoteIdentifier key ++ d.keyText e value ++
        String.join (later.map fun p => " " ++ p.connective.word ++ " " ++ d.condition e p) ++
        d.groupClause s ++ d.orderClause s ++ d.windowClause s.window ++ ";") ∧
    ((∀ count, .limit count ∉ clauses) → (∀ offset stop, .limitRange offset stop ∉ clauses) →
      d.windowClause s.window = d.limitClause 0 1) := by
  intro s columns later
  have searches := (start_searches table key value).build clauses
  refine ⟨?_,?_,?_,?_⟩
  · rw [compile_empty_iff,searches.idle]
  · rw [missing_iff_keyless,searches.keyless]
  · intro found
    have parts : s.table = table ∧ s.columns = columns := by
      rw [show s = _ from build_eq_gathered _ clauses]
      exact ⟨rfl,rfl⟩
    have shown : Dialect.columnList s = if columns = [] then "*" else ",".intercalate columns := by
      rw [Dialect.columnList,parts.2]
      simp only [List.isEmpty_iff]
    have text := d.compile_search e searches found
    rw [shown,parts.1,d.condition_key,List.nil_append,← String.append_assoc] at text
    exact text
  · intro limits ranges
    rw [show s.window = ⟨0,1⟩ from build_window _ limits ranges]
    rfl

theorem search_reads_key_listed :
    let clauses := [.columns ["a"],.orWhereEq "b" (.text "x"),.whereOp "" "=" (.int 3),
      .orWhereEq "id" (.int 7),.orderDescending "b"]
    let s := (start "t" (.findByKey "id" (.list [.int 1,.int 2]))).build clauses
    "id" ≠ "" ∧ (∀ count, Clause.limit count ∉ clauses) ∧
      (∀ offset stop, Clause.limitRange offset stop ∉ clauses) ∧
      (s.toSql .postgresql = "SELECT a FROM t WHERE \"id\" IN (1,2) OR \"b\"=E'x' OR \"id\"=7" ++
        " ORDER BY \"b\" DESC LIMIT 1 OFFSET 0;") ∧ s.defect? ≠ some .missingKeyColumn := by
  intro clauses s
  have named : "id" ≠ "" := by decide
  have limits : ∀ count, Clause.limit count ∉ clauses := by simp [clauses]
  have ranges : ∀ offset stop, Clause.limitRange offset stop ∉ clauses := by simp [clauses]
  obtain ⟨_,missing,text,window⟩ := search_reads_key .postgres Flavor.postgresql.escaper "t" "id"
    (.list [.int 1,.int 2]) clauses
  refine ⟨named,limits,ranges,?_,mt missing.mp named⟩
  refine (text named).trans ?_
  rw [window limits ranges]
  decide +kernel

end Statement
end InlineSql
