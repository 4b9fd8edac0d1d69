import InlineSql.Proofs.Statement.Gathered

namespace InlineSql

namespace Defect

def condition? : Defect → Option Nat
  | .emptyColumn index | .emptyOperator index _ | .emptyConnective index _
  | .emptyValueSet index _ => some index
  | _ => none

def row? : Defect → Option Nat
  | .rowColumnsMismatch row _ _ => some row
  | _ => none

structure Later (conditions rows : Nat) (d : Defect) : Prop where
  keyed : d ≠ .missingKeyColumn
  condition : ∀ place, d.condition? = some place → conditions ≤ place
  row : ∀ place, d.row? = some place → rows ≤ place

theorem later_condition {d : Defect} {place conditions : Nat} (rows : Nat)
    (about : d.condition? = some place) (behind : conditions ≤ place) : d.Later conditions rows := by
  constructor
  case keyed => rintro rfl; cases about
  case condition =>
    intro other same
    cases about.symm.trans same
    exact behind
  case row =>
    intro other same
    cases d with
    | rowColumnsMismatch _ _ _ => cases about
    | _ => cases same

theorem later_row {d : Defect} {place rows : Nat} (conditions : Nat)
    (about : d.row? = some place) (behind : rows ≤ place) : d.Later conditions rows := by
  constructor
  case keyed => rintro rfl; cases about
  case condition =>
    intro other same
    cases d with
    | rowColumnsMismatch _ _ _ => cases same
    | _ => cases about
  case row =>
    intro other same
    cases about.symm.trans same
    exact behind

theorem later_limit (conditions rows : Nat) (offset stop : Int64) :
    (invalidLimit offset stop).Later conditions rows := by
  refine ⟨by simp,?_,?_⟩
  · intro _ other; cases other
  · intro _ other; cases other

end Defect

theorem predicate_defect_place {p : Predicate} {index : Nat} {d : Defect}
    (found : p.defect? index = some d) : d.condition? = some index := by
  unfold Predicate.defect? at found
  split at found
  · cases found; rfl
  · split at found
    · cases found; rfl
    · split at found
      · cases found; rfl
      · split at found
        · cases found; rfl
        · cases found

theorem predicates_defect_place {ps : List Predicate} {index : Nat} {d : Defect}
    (found : predicateDefect? index ps = some d) :
    ∃ place, d.condition? = some place ∧ index ≤ place := by
  rw [predicateDefect_find] at found
  obtain ⟨⟨p,place⟩,member,here⟩ := List.exists_of_findSome?_eq_some found
  exact ⟨place,predicate_defect_place here,List.le_snd_of_mem_zipIdx member⟩

theorem predicates_defect_append (ps more : List Predicate) (index : Nat) :
    predicateDefect? index (ps ++ more) =
      (predicateDefect? index ps).or (predicateDefect? (index + ps.length) more) := by
  simp only [predicateDefect_find,List.zipIdx_append,List.findSome?_append]

theorem row_defect_place {expected : List String} {r : Record} {row : Nat} {d : Defect}
    (found : r.mismatch? expected row = some d) : d.row? = some row := by
  unfold Record.mismatch? at found
  split at found
  · cases found
  · cases found
    rfl

theorem rows_defect_place {expected : List String} {rows : List Record} {row : Nat} {d : Defect}
    (found : rowDefect? expected row rows = some d) :
    ∃ place, d.row? = some place ∧ row ≤ place := by
  rw [rowDefect_find] at found
  obtain ⟨⟨r,place⟩,member,here⟩ := List.exists_of_findSome?_eq_some found
  exact ⟨place,row_defect_place here,List.le_snd_of_mem_zipIdx member⟩

theorem rows_defect_append (expected : List String) (rows more : List Record) (row : Nat) :
    rowDefect? expected row (rows ++ more) =
      (rowDefect? expected row rows).or (rowDefect? expected (row + rows.length) more) := by
  simp only [rowDefect_find,List.zipIdx_append,List.findSome?_append]

theorem window_defect_limit {w : Window} {d : Defect} (found : w.defect? = some d) :
    d = .invalidLimit w.offset w.stop := by
  unfold Window.defect? at found
  split at found
  · exact (Option.some.inj found).symm
  · cases found

namespace Statement

-- The same search for the same thing, with more conditions and more rows behind those that
-- were there. The other parts may have changed in any way.
structure Extends (earlier later : Statement) : Prop where
  method : later.method = earlier.method
  keyColumn : later.keyColumn = earlier.keyColumn
  predicates : earlier.predicates <+: later.predicates
  rows : earlier.rows <+: later.rows

theorem extends_build (s : Statement) (clauses : List Clause) : s.Extends (s.build clauses) := by
  rw [build_eq_gathered]
  exact ⟨rfl,rfl,List.prefix_append _ _,List.prefix_append _ _⟩

theorem key_defect_missing {s : Statement} {d : Defect} (found : s.keyDefect? = some d) :
    d = .missingKeyColumn := by
  unfold keyDefect? at found
  split at found
  · exact (Option.some.inj found).symm
  · cases found

theorem rows_defect_row {s : Statement} {d : Defect} (found : s.rowsDefect? = some d) :
    ∃ place, d.row? = some place := by
  unfold rowsDefect? at found
  split at found
  · cases found
  · obtain ⟨place,about,_⟩ := rows_defect_place found
    exact ⟨place,about⟩

theorem defect_or (s : Statement) : s.defect? = s.keyDefect?.or
    ((predicateDefect? 0 s.predicates).or (s.rowsDefect?.or s.window.defect?)) := by
  simp [defect?]

namespace Extends

variable {s t : Statement} (grown : s.Extends t) {d : Defect}
include grown

theorem key_defect : t.keyDefect? = s.keyDefect? := by
  unfold keyDefect? usableKey
  rw [grown.method,grown.keyColumn]

theorem condition_defect : ∃ more, predicateDefect? 0 t.predicates =
    (predicateDefect? 0 s.predicates).or (predicateDefect? s.predicates.length more) := by
  obtain ⟨more,predicates⟩ := grown.predicates
  refine ⟨more,?_⟩
  rw [← predicates,predicates_defect_append,Nat.zero_add]

theorem row_defect : ∃ found : Option Defect, t.rowsDefect? = s.rowsDefect?.or found ∧
    ∀ d, found = some d → ∃ place, d.row? = some place ∧ s.rows.length ≤ place := by
  obtain ⟨more,rows⟩ := grown.rows
  cases here : s.rows with
  | nil =>
    refine ⟨t.rowsDefect?,by simp [rowsDefect?,here],fun d found => ?_⟩
    obtain ⟨place,about⟩ := rows_defect_row found
    exact ⟨place,about,Nat.zero_le _⟩
  | cons first rest =>
    rw [here,List.cons_append] at rows
    refine ⟨rowDefect? first.columns (1 + rest.length) more,?_,fun d found => ?_⟩
    · rw [rowsDefect?,rowsDefect?,here,← rows]
      exact rows_defect_append _ _ _ _
    · obtain ⟨place,about,behind⟩ := rows_defect_place found
      exact ⟨place,about,by rw [List.length_cons]; omega⟩

theorem defect_from (key : s.keyDefect? = none) : ∃ more found, t.defect? =
    (predicateDefect? 0 s.predicates).or
      ((predicateDefect? s.predicates.length more).or ((s.rowsDefect?.or found).or t.window.defect?)) ∧
    ∀ d, found = some d → ∃ place, d.row? = some place ∧ s.rows.length ≤ place := by
  obtain ⟨more,conditions⟩ := grown.condition_defect
  obtain ⟨found,rows,behind⟩ := grown.row_defect
  refine ⟨more,found,?_,behind⟩
  rw [t.defect_or,grown.key_defect,key,conditions,rows,Option.or_assoc]
  rfl

theorem key_lasts (key : s.keyDefect? = some d) : t.defect? = some d := by
  rw [t.defect_or,grown.key_defect,key]
  rfl

theorem condition_lasts (key : s.keyDefect? = none)
    (condition : predicateDefect? 0 s.predicates = some d) : t.defect? = some d := by
  obtain ⟨more,found,whole,_⟩ := grown.defect_from key
  rw [whole,condition]
  rfl

-- A defect of a condition is reported before one of the rows, however late the condition came.
theorem row_lasts (key : s.keyDefect? = none) (conditions : predicateDefect? 0 s.predicates = none)
    (row : s.rowsDefect? = some d) : t.defect? = some d ∨
      ∃ new place, t.defect? = some new ∧ new.condition? = some place ∧
        s.predicates.length ≤ place := by
  obtain ⟨more,found,whole,_⟩ := grown.defect_from key
  rw [whole,conditions,row]
  cases added : predicateDefect? s.predicates.length more with
  | none => exact .inl rfl
  | some new =>
    obtain ⟨place,about,behind⟩ := predicates_defect_place added
    exact .inr ⟨new,place,rfl,about,behind⟩

theorem only_later (key : s.keyDefect? = none) (conditions : predicateDefect? 0 s.predicates = none)
    (rows : s.rowsDefect? = none) {new : Defect} (reported : t.defect? = some new) :
    new.Later s.predicates.length s.rows.length := by
  obtain ⟨more,found,whole,behind⟩ := grown.defect_from key
  rw [whole,conditions,rows,Option.none_or,Option.none_or] at reported
  rcases Option.or_eq_some_iff.mp reported with condition | ⟨_,rest⟩
  · obtain ⟨place,about,later⟩ := predicates_defect_place condition
    exact Defect.later_condition _ about later
  · rcases Option.or_eq_some_iff.mp rest with row | ⟨_,window⟩
    · obtain ⟨place,about,later⟩ := behind new row
      exact Defect.later_row _ about later
    · rw [window_defect_limit window]
      exact Defect.later_limit _ _ _ _

end Extends

theorem first_defect_lasts (s : Statement) (clauses : List Clause) :
    match s.defect? with
    | none | some (.invalidLimit _ _) =>
      ∀ new, (s.build clauses).defect? = some new → new.Later s.predicates.length s.rows.length
    | some (.rowColumnsMismatch row expected found) =>
      (s.build clauses).defect? = some (.rowColumnsMismatch row expected found) ∨
        ∃ new place, (s.build clauses).defect? = some new ∧ new.condition? = some place ∧
          s.predicates.length ≤ place
    | some defect => (s.build clauses).defect? = some defect := by
  have grown := s.extends_build clauses
  rw [s.defect_or]
  cases key : s.keyDefect? with
  | some d =>
    cases key_defect_missing key
    exact grown.key_lasts key
  | none =>
    cases condition : predicateDefect? 0 s.predicates with
    | some d =>
      obtain ⟨place,about,_⟩ := predicates_defect_place condition
      have lasts := grown.condition_lasts key condition
      cases d with
      | rowColumnsMismatch _ _ _ | invalidLimit _ _ => cases about
      | _ => exact lasts
    | none =>
      cases row : s.rowsDefect? with
      | some d =>
        obtain ⟨place,about⟩ := rows_defect_row row
        cases d with
        | rowColumnsMismatch _ _ _ => exact grown.row_lasts key condition row
        | _ => cases about
      | none =>
        cases window : s.window.defect? with
        | none => exact fun _ => grown.only_later key condition row
        | some d =>
          cases window_defect_limit window
          exact fun _ => grown.only_later key condition row

example : let rows := [Clause.row (Record.empty.set "a" .null),.row (Record.empty.set "b" .null)]
    ((start "t" .insert).build rows).defect? = some (.rowColumnsMismatch 1 ["a"] ["b"]) ∧
    ((start "t" .insert).build (rows ++ [.whereOp "a" "" .null])).defect? =
      some (.emptyOperator 0 "a") := by
  decide

end Statement
end InlineSql
