import InlineSql.Proofs.Statement.Idle
import InlineSql.Proofs.Value.Leaves

namespace InlineSql

theorem condition_list {d : Dialect} {e : Escaper} {p : Predicate} {items : List Value}
    (value : p.value = .list items) :
    d.condition e p = d.quoteIdentifier p.column ++ (" IN " ++ d.listLiteral e items) := by
  rw [Dialect.condition,value]

theorem condition_leaf {d : Dialect} {e : Escaper} {p : Predicate}
    (leaf : p.value.isList = false) :
    d.condition e p = d.quoteIdentifier p.column ++ (p.operator ++ d.encode e p.value) := by
  rw [Dialect.condition]
  cases value : p.value with
  | list items => rw [value] at leaf; cases leaf
  | _ => rfl

namespace Window

theorem set_bounds {w : Window} (set : w.isSet = true) :
    0 ≤ w.offset.toInt ∧ 0 ≤ w.stop.toInt := by
  simp only [Window.isSet,Bool.and_eq_true,decide_eq_true_eq,Int64.le_iff_toInt_le] at set
  exact set

-- The difference of two bounds in force stays within the 64 bits.
theorem difference_toInt {w : Window} (set : w.isSet = true) :
    (w.stop - w.offset).toInt = w.stop.toInt - w.offset.toInt := by
  obtain ⟨offset,stop⟩ := set_bounds set
  have first := w.offset.toInt_lt
  have last := w.stop.toInt_lt
  rw [Int64.toInt_sub]
  exact Int.bmod_eq_of_le (by omega) (by omega)

theorem count_toInt {w : Window} (set : w.isSet = true) :
    w.count.toInt = max 0 (w.stop.toInt - w.offset.toInt) := by
  have difference := difference_toInt set
  have zero : (0 : Int64).toInt = 0 := rfl
  change (if 0 ≤ w.stop - w.offset then w.stop - w.offset else 0 : Int64).toInt = _
  split
  · rename_i ordered
    have sign := Int64.le_iff_toInt_le.mp ordered
    rw [difference] at sign ⊢
    omega
  · rename_i inverted
    have sign := mt Int64.le_iff_toInt_le.mpr inverted
    rw [difference] at sign
    omega

end Window

section
variable {α : Type} {width : Nat} {fill : α} {l : List α}

theorem length_place : ((l.take width).rightpad width fill).length = width := by
  rw [List.length_rightpad]
  exact Nat.max_eq_left (List.length_take_le width l)

theorem mem_place {a : α} (member : a ∈ (l.take width).rightpad width fill) : a ∈ l ∨ a = fill := by
  simp only [List.rightpad,List.mem_append,List.mem_replicate] at member
  rcases member with held | ⟨_,same⟩
  · exact .inl (List.mem_of_mem_take held)
  · exact .inr same

theorem place_whole (length : l.length = width) : (l.take width).rightpad width fill = l := by
  rw [← length,List.take_length]
  simp [List.rightpad]

theorem map_place {β : Type} (g : α → β) (width : Nat) (fill : α) (l : List α) :
    ((l.take width).rightpad width fill).map g =
      ((l.map g).take width).rightpad width (g fill) := by
  simp [List.rightpad]

theorem place_range : (l.take width).rightpad width fill =
    (List.range width).map fun j => l[j]?.getD fill := by
  refine List.ext_getElem (by rw [length_place,List.length_map,List.length_range]) ?_
  intro j inside _
  rw [length_place] at inside
  by_cases held : j < l.length
  · have taken : j < min width l.length := by omega
    simp [List.rightpad,held,taken]
  · have behind : ¬ j < min width l.length := by omega
    simp [List.rightpad,List.getElem_append,held,behind]

end

namespace Predicate

def passedOver (index : Nat) (ps : List Predicate) : List Skip :=
  ((ps.zipIdx index).filter fun p => !p.1.qualifies).map fun p => ⟨p.2,p.1.column,p.1.operator⟩

theorem passedOver_cons (index : Nat) (p : Predicate) (rest : List Predicate) :
    passedOver index (p :: rest) = if p.qualifies then passedOver (index + 1) rest
      else ⟨index,p.column,p.operator⟩ :: passedOver (index + 1) rest := by
  unfold passedOver
  by_cases written : p.qualifies = true <;> simp [written]

end Predicate

def Statement.skips (s : Statement) : List Skip :=
  if s.isIdle ∨ s.method = some .insert then [] else Predicate.passedOver 0 s.predicates

structure Frame where
  before : String
  after : String
deriving DecidableEq

namespace Dialect

variable (d : Dialect) (e : Escaper) (s : Statement)

def selectionFrame : Frame where
  before := "SELECT " ++ columnList s ++ " FROM " ++ s.table
  after := d.groupClause s ++ d.orderClause s ++ d.windowClause s.window ++ ";"

def updateFrame : Frame where
  before := "UPDATE " ++ s.table ++ " SET " ++
    ", ".intercalate (s.assignments.map (d.assignment e))
  after := ";"

-- What a statement writes around its conditions. An insertion has none, and neither
-- has a statement without an effect.
def frame : Option Frame :=
  match s.method with
  | none | some .insert => none
  | some .select => some (d.selectionFrame s)
  | some .update => if s.assignments.isEmpty then none else some (d.updateFrame e s)
  | some .delete => some ⟨"DELETE FROM " ++ s.table,";"⟩
  | some .count => some ⟨"SELECT COUNT(*) AS c FROM " ++ s.table,";"⟩
  | some .findByKey => if s.usableKey = none then none else some (d.selectionFrame s)

def framed (w : Frame) : Compiled :=
  ⟨w.before ++ (d.whereClause e s).sql ++ w.after,(d.whereClause e s).skips⟩

theorem selection_framed : d.selection e s = d.framed e s (d.selectionFrame s) := by
  refine congrArg (Compiled.mk · _) ?_
  simp only [selectionFrame,String.append_assoc]

theorem compile_frame : d.compile e s = match d.frame e s with
    | some w => d.framed e s w
    | none => if s.method = some .insert then d.insertion e s else .nothing := by
  unfold compile frame
  cases s.method with
  | none => rfl
  | some m =>
    cases m with
    | insert => rfl
    | delete => rfl
    | count => rfl
    | select => exact d.selection_framed e s
    | update =>
      dsimp only
      unfold update
      split
      · rfl
      · rfl
    | findByKey =>
      dsimp only
      split
      · rfl
      · exact d.selection_framed e s

theorem conditions_skips (ps : List Predicate) (index : Nat) (started : Bool) :
    (d.conditions e index started ps).skips = Predicate.passedOver index ps := by
  induction ps generalizing index started with
  | nil => rfl
  | cons p rest ih =>
    rw [conditions,Predicate.passedOver_cons]
    split
    · exact ih (index + 1) true
    · exact congrArg _ (ih (index + 1) started)

theorem insertion_skips : (d.insertion e s).skips = [] := by
  unfold insertion
  cases s.rows <;> rfl

theorem frame_none : d.frame e s = none ↔ s.isIdle = true ∨ s.method = some .insert := by
  unfold frame Statement.isIdle
  cases s.method with
  | none => simp
  | some m =>
    cases m with
    | findByKey => simp [usableKey_none]
    | _ => simp

variable {e s} in
theorem skips_framed {w : Frame} (framed : d.frame e s = some w) :
    s.skips = Predicate.passedOver 0 s.predicates := by
  have written : ¬ (s.isIdle = true ∨ s.method = some .insert) := by
    rw [← d.frame_none e s,framed]
    exact Option.some_ne_none w
  exact if_neg written

variable {e s} in
theorem skips_unframed (unframed : d.frame e s = none) : s.skips = [] :=
  if_pos ((d.frame_none e s).mp unframed)

theorem compile_skips : (d.compile e s).skips = s.skips := by
  rw [compile_frame]
  cases framed : d.frame e s with
  | some w =>
    rw [d.skips_framed framed]
    exact d.conditions_skips e s.predicates 0 false
  | none =>
    rw [d.skips_unframed framed]
    dsimp only
    split
    · exact d.insertion_skips e s
    · rfl

variable {s} in
theorem insertion_text {first : Record} {rest : List Record}
    (method : s.method = some .insert) (rows : s.rows = first :: rest) :
    (d.compile e s).sql = "INSERT INTO " ++ s.table ++ " (" ++ ",".intercalate first.columns ++
      ") VALUES " ++ ",".intercalate (s.rows.map (d.tuple e first.size)) ++ ";" := by
  rw [compile,method]
  dsimp only
  rw [insertion,rows]

end Dialect
end InlineSql
