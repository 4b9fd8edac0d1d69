import InlineSql.Proofs.Record.Basic
import InlineSql.Statement.Clause

namespace InlineSql

def Clause.predicates : Clause → List Predicate
  | .whereEq column value => [{column,value}]
  | .whereOp column operator value => [{column,value,operator}]
  | .orWhereEq column value => [{column,value,connective:=.or}]
  | .orWhereOp column operator value => [{column,value,operator,connective:=.or}]
  | .predicate p => [p]
  | .whereAll entries => entries.map fun entry => {column:=entry.1,value:=entry.2}
  | _ => []

namespace Statement

def values (s : Statement) : List Value :=
  s.predicates.map Predicate.value ++ s.assignments.map Prod.snd ++ s.rows.flatMap Record.values

theorem predicate_held {s : Statement} {p : Predicate} (member : p ∈ s.predicates) :
    p.value ∈ s.values := by
  simp only [values,List.mem_append,List.mem_map]
  exact .inl (.inl ⟨p,member,rfl⟩)

theorem assignment_held {s : Statement} {entry : String × Value} (member : entry ∈ s.assignments) :
    entry.2 ∈ s.values := by
  simp only [values,List.mem_append,List.mem_map]
  exact .inl (.inr ⟨entry,member,rfl⟩)

theorem row_held {s : Statement} {r : Record} (member : r ∈ s.rows) {v : Value}
    (held : v ∈ r.values) : v ∈ s.values := by
  simp only [values,List.mem_append,List.mem_flatMap]
  exact .inr ⟨r,member,held⟩

def Built (s : Statement) : Prop :=
  ∃ table begin clauses, s = (start table begin).build clauses

theorem foldl_addPredicate {α : Type} (predicate : α → Predicate) (entries : List α)
    (s : Statement) : entries.foldl (fun s entry => s.addPredicate (predicate entry)) s =
      {s with predicates:=s.predicates ++ entries.map predicate} := by
  induction entries generalizing s with
  | nil => simp
  | cons entry rest ih => rw [List.foldl_cons,ih]; simp [addPredicate]

theorem foldl_addAssignment (entries : List (String × Value)) (s : Statement) :
    entries.foldl (fun s entry => s.addAssignment entry.1 entry.2) s =
      {s with assignments:=s.assignments ++ entries} := by
  induction entries generalizing s with
  | nil => simp
  | cons entry rest ih => rw [List.foldl_cons,ih]; simp [addAssignment]

theorem add_predicates (s : Statement) (c : Clause) :
    (s.add c).predicates = s.predicates ++ c.predicates := by
  cases c with
  | whereAll entries => rw [add,foldl_addPredicate]; rfl
  | setAll entries => rw [add,foldl_addAssignment]; simp [Clause.predicates]
  | _ => simp [add,addPredicate,addOrdering,addAssignment,Clause.predicates]

theorem add_fixed (s : Statement) (c : Clause) :
    (s.add c).table = s.table ∧ (s.add c).method = s.method ∧
      (s.add c).keyColumn = s.keyColumn := by
  cases c with
  | whereAll entries => rw [add,foldl_addPredicate]; exact ⟨rfl,rfl,rfl⟩
  | setAll entries => rw [add,foldl_addAssignment]; exact ⟨rfl,rfl,rfl⟩
  | _ => exact ⟨rfl,rfl,rfl⟩

-- The key that a search was begun with, in both places in which a statement keeps it, and the
-- conditions that came later.
structure Searches (s : Statement) (key : String) (value : Value) (later : List Predicate) :
    Prop where
  method : s.method = some .findByKey
  keyColumn : s.keyColumn = some key
  predicates : s.predicates = {column:=key,value} :: later

section
variable {s : Statement} {key : String} {value : Value} {later : List Predicate}

theorem start_searches (table key : String) (value : Value) :
    (start table (.findByKey key value)).Searches key value [] := ⟨rfl,rfl,rfl⟩

theorem Searches.add (searches : s.Searches key value later) (c : Clause) :
    (s.add c).Searches key value (later ++ c.predicates) := by
  obtain ⟨_,method,keyColumn⟩ := add_fixed s c
  refine ⟨method.trans searches.method,keyColumn.trans searches.keyColumn,?_⟩
  rw [add_predicates,searches.predicates,List.cons_append]

theorem Searches.build (searches : s.Searches key value later) (clauses : List Clause) :
    (s.build clauses).Searches key value (later ++ clauses.flatMap Clause.predicates) := by
  induction clauses generalizing s later with
  | nil => simpa [Statement.build] using searches
  | cons c rest ih =>
    have behind := ih (searches.add c)
    rwa [List.append_assoc] at behind

end

def KeyFirst (s : Statement) : Prop :=
  s.method = some .findByKey → ∃ key value later,
    s.keyColumn = some key ∧ s.predicates = {column:=key,value} :: later

theorem start_keyFirst (table : String) (begin : Start) : (start table begin).KeyFirst := by
  intro method
  cases begin with
  | findByKey key value => exact ⟨key,value,[],rfl,rfl⟩
  | _ => cases method

theorem add_keyFirst {s : Statement} (c : Clause) (first : s.KeyFirst) :
    (s.add c).KeyFirst := by
  intro method
  have before : s.method = some .findByKey := (add_fixed s c).2.1 ▸ method
  obtain ⟨key,value,later,column,predicates⟩ := first before
  have after := Searches.add ⟨before,column,predicates⟩ c
  exact ⟨key,value,_,after.keyColumn,after.predicates⟩

theorem build_keyFirst {s : Statement} (clauses : List Clause) (first : s.KeyFirst) :
    (s.build clauses).KeyFirst := by
  induction clauses generalizing s with
  | nil => exact first
  | cons c rest ih => exact ih (add_keyFirst c first)

theorem Built.keyFirst {s : Statement} (built : s.Built) : s.KeyFirst := by
  obtain ⟨table,begin,clauses,rfl⟩ := built
  exact build_keyFirst clauses (start_keyFirst table begin)

theorem Built.usableKey {s : Statement} (built : s.Built) (method : s.method = some .findByKey) :
    s.usableKey.isSome = s.predicates.head?.any Predicate.qualifies := by
  obtain ⟨key,value,later,column,predicates⟩ := built.keyFirst method
  rw [Statement.usableKey,column,predicates]
  by_cases empty : key = "" <;> simp [empty,Predicate.qualifies]

end Statement
end InlineSql
