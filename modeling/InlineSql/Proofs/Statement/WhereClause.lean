import InlineSql.Event
import InlineSql.Proofs.Statement.OwnParts
import InlineSql.Proofs.Statement.TextCondition
import InlineSql.Proofs.Statement.Validated

namespace InlineSql

namespace Predicate

def linkedBy (c : Connective) (p : Predicate) : Predicate := {p with connective:=c}

theorem filter_linkedBy (c : Connective) (ps : List Predicate) :
    (ps.map (linkedBy c)).filter qualifies = (ps.filter qualifies).map (linkedBy c) := List.filter_map

end Predicate

namespace Dialect

variable (d : Dialect) (e : Escaper)

def whereText (ps : List Predicate) : String := (d.conditions e 0 false ps).sql

def linkedText (p : Predicate) : String := " " ++ p.connective.word ++ " " ++ d.condition e p

theorem conditions_qualifying (ps : List Predicate) (index place : Nat) (started : Bool) :
    (d.conditions e index started ps).sql =
      (d.conditions e place started (ps.filter Predicate.qualifies)).sql := by
  induction ps generalizing index place started with
  | nil => rfl
  | cons p rest ih =>
    rw [conditions]
    by_cases written : p.qualifies = true
    · rw [if_pos written,List.filter_cons_of_pos written,conditions,if_pos written]
      dsimp only
      rw [ih (index + 1) (place + 1) true]
    · rw [if_neg written,List.filter_cons_of_neg written]
      exact ih (index + 1) place started

theorem qualifying_written (ps : List Predicate) :
    ∀ p ∈ ps.filter Predicate.qualifies, p.qualifies = true := fun _ member =>
  (List.mem_filter.mp member).2

theorem whereText_every (ps : List Predicate) :
    d.whereText e ps = d.everyCondition e (ps.filter Predicate.qualifies) := by
  rw [whereText,d.conditions_qualifying e ps 0 0,d.conditions_every e (qualifying_written ps)]

theorem conditions_linked (ps : List Predicate) (index : Nat) : (d.conditions e index true ps).sql =
    String.join ((ps.filter Predicate.qualifies).map (d.linkedText e)) := by
  rw [d.conditions_qualifying e ps index index,d.conditions_written e (qualifying_written ps)]
  rfl

theorem everyCondition_cons (p : Predicate) (rest : List Predicate) :
    d.everyCondition e (p :: rest) =
      " WHERE " ++ d.condition e p ++ String.join (rest.map (d.linkedText e)) := rfl

theorem everyCondition_ne_empty (p : Predicate) (rest : List Predicate) :
    d.everyCondition e (p :: rest) ≠ "" := by
  intro empty
  have text := congrArg String.toList empty
  simp [everyCondition] at text

theorem whereText_empty (ps : List Predicate) :
    d.whereText e ps = "" ↔ ps.filter Predicate.qualifies = [] := by
  rw [whereText_every]
  cases ps.filter Predicate.qualifies with
  | nil => exact ⟨fun _ => rfl,fun _ => rfl⟩
  | cons p rest => exact ⟨fun empty => absurd empty (d.everyCondition_ne_empty e p rest),nofun⟩

theorem whereText_append {ps : List Predicate} (begun : ps.filter Predicate.qualifies ≠ [])
    (more : List Predicate) : d.whereText e (ps ++ more) =
      d.whereText e ps ++ String.join ((more.filter Predicate.qualifies).map (d.linkedText e)) := by
  have started : ps.any Predicate.qualifies = true := by
    obtain ⟨p,member⟩ := List.exists_mem_of_ne_nil _ begun
    obtain ⟨held,written⟩ := List.mem_filter.mp member
    exact List.any_eq_true.mpr ⟨p,held,written⟩
  rw [whereText,conditions_append,started,Bool.or_true,conditions_linked]
  rfl

theorem conditions_relinked {earlier : List Predicate} (none : ∀ q ∈ earlier, q.qualifies = false)
    (p : Predicate) (c : Connective) (later : List Predicate) (index : Nat) :
    d.conditions e index false (earlier ++ p.linkedBy c :: later) =
      d.conditions e index false (earlier ++ p :: later) := by
  induction earlier generalizing index with
  | nil => rfl
  | cons q rest ih =>
    have others := ih (fun r member => none r (List.mem_cons_of_mem q member)) (index + 1)
    have left : ¬ q.qualifies = true := by simp [none q (by simp)]
    rw [List.cons_append,List.cons_append,conditions,conditions,if_neg left,if_neg left,others]

theorem join_linkedBy (word : String) (qs : List Predicate) :
    (String.join ((qs.map (Predicate.linkedBy (.other word))).map (d.linkedText e))).length =
      (String.join ((qs.map (Predicate.linkedBy (.other ""))).map (d.linkedText e))).length +
        qs.length * word.length := by
  induction qs with
  | nil => simp
  | cons q rest ih =>
    have same : d.condition e (q.linkedBy (.other word)) =
        d.condition e (q.linkedBy (.other "")) := rfl
    simp only [List.map_cons,String.join_cons,String.length_append,ih,linkedText,same,
      List.length_cons,Nat.add_mul]
    simp only [Predicate.linkedBy,Connective.word,String.length_empty]
    omega

theorem whereText_linkedBy (word : String) (ps : List Predicate) :
    (d.whereText e (ps.map (Predicate.linkedBy (.other word)))).length =
      (d.whereText e (ps.map (Predicate.linkedBy (.other "")))).length +
        ((ps.filter Predicate.qualifies).length - 1) * word.length := by
  rw [whereText_every,whereText_every,Predicate.filter_linkedBy,Predicate.filter_linkedBy]
  cases ps.filter Predicate.qualifies with
  | nil => simp [everyCondition]
  | cons p rest =>
    have first : d.condition e (p.linkedBy (.other word)) =
        d.condition e (p.linkedBy (.other "")) := rfl
    have count : (p :: rest).length - 1 = rest.length := rfl
    rw [List.map_cons,List.map_cons,everyCondition_cons,everyCondition_cons,first,count,
      String.length_append,d.join_linkedBy e word rest,← Nat.add_assoc,← String.length_append]

theorem compile_same_qualifying {s : Statement} {ps : List Predicate}
    (same : ps.filter Predicate.qualifies = s.predicates.filter Predicate.qualifies) :
    (d.compile e {s with predicates:=ps}).sql = (d.compile e s).sql := by
  have text : d.whereText e ps = d.whereText e s.predicates := by
    rw [whereText_every,whereText_every,same]
  cases framed : d.frame e s with
  | some w =>
    have here := congrArg Compiled.sql (d.compile_around e framed ps)
    have there := congrArg Compiled.sql (d.compile_around e framed s.predicates)
    calc (d.compile e {s with predicates:=ps}).sql
        = w.before ++ d.whereText e ps ++ w.after := here
      _ = w.before ++ d.whereText e s.predicates ++ w.after := by rw [text]
      _ = (d.compile e s).sql := there.symm
  | none =>
    have other : d.frame e {s with predicates:=ps} = none := framed
    rw [compile_frame,compile_frame,framed,other]
    rfl

-- How conditions are written: those with a column and an operator, each behind the word of its
-- own but for the first, and what is left out is told.
structure WhereRule : Prop where
  membership : ∀ (p : Predicate) items, p.value = .list items → d.condition e p =
    d.quoteIdentifier p.column ++ " IN (" ++ ",".intercalate (items.map (d.encode e)) ++ ")"
  comparison : ∀ p : Predicate, p.value.isList = false →
    d.condition e p = d.quoteIdentifier p.column ++ p.operator ++ d.encode e p.value
  empty : ∀ ps : List Predicate, d.whereText e ps = "" ↔ ∀ p ∈ ps, p.column = "" ∨ p.operator = ""
  written : ∀ ps first rest,
    ps.filter (fun p => p.column ≠ "" ∧ p.operator ≠ "") = first :: rest →
      d.whereText e ps = " WHERE " ++ d.condition e first ++ String.join (rest.map fun p =>
        " " ++ p.connective.word ++ " " ++ d.condition e p)
  gaps : ∀ (ps : List Predicate) (word : String),
    (d.whereText e (ps.map (Predicate.linkedBy (.other word)))).length =
      (d.whereText e (ps.map (Predicate.linkedBy (.other "")))).length +
        ((ps.filter Predicate.qualifies).length - 1) * word.length
  first : ∀ (earlier : List Predicate) p c later, (∀ q ∈ earlier, q.qualifies = false) →
    d.whereText e (earlier ++ p.linkedBy c :: later) = d.whereText e (earlier ++ p :: later)
  unseen : ∀ (s : Statement) ps,
    ps.filter Predicate.qualifies = s.predicates.filter Predicate.qualifies →
      (d.compile e {s with predicates:=ps}).sql = (d.compile e s).sql
  appended : ∀ ps more, ps.filter Predicate.qualifies ≠ [] → d.whereText e (ps ++ more) =
    d.whereText e ps ++ String.join ((more.filter Predicate.qualifies).map fun p =>
      " " ++ p.connective.word ++ " " ++ d.condition e p)
  placed : ∀ s w, d.frame e s = some w →
    (d.compile e s).sql = w.before ++ d.whereText e s.predicates ++ w.after ∧
      (d.compile e s).events = ((s.predicates.zipIdx.filter fun p => !p.1.qualifies).map fun p =>
        .skipped ⟨p.2,p.1.column,p.1.operator⟩)
  unplaced : ∀ s, d.frame e s = none → (d.compile e s).events = []

theorem where_rule : d.WhereRule e := by
  have qualifies : (fun p : Predicate => decide (p.column ≠ "" ∧ p.operator ≠ "")) =
      Predicate.qualifies := by
    funext p
    rw [Bool.eq_iff_iff]
    simp [Predicate.qualifies]
  constructor
  case membership =>
    intro p items value
    rw [condition_list value,listLiteral,encodeAll_map]
    simp only [String.append_assoc]
    rfl
  case comparison =>
    intro p leaf
    rw [condition_leaf leaf,String.append_assoc]
  case empty =>
    intro ps
    rw [whereText_empty,List.filter_eq_nil_iff]
    simp [Predicate.qualifies,Classical.or_iff_not_imp_left]
  case written =>
    intro ps first rest found
    rw [qualifies] at found
    rw [whereText_every,found]
    rfl
  case gaps => exact fun ps word => d.whereText_linkedBy e word ps
  case first =>
    intro earlier p c later none
    exact congrArg Compiled.sql (d.conditions_relinked e none p c later 0)
  case unseen => exact fun s ps same => d.compile_same_qualifying e same
  case appended => exact fun ps more begun => d.whereText_append e begun more
  case placed =>
    intro s w framed
    refine ⟨congrArg Compiled.sql (d.compile_around e framed s.predicates),?_⟩
    rw [Compiled.events,compile_skips,d.skips_framed framed,Predicate.passedOver,List.map_map]
    rfl
  case unplaced =>
    intro s unframed
    rw [Compiled.events,compile_skips,d.skips_unframed unframed]
    rfl

end Dialect
end InlineSql
