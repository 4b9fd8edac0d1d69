import InlineSql.Statement.Defect

namespace InlineSql

-- The first answer in a list whose items are asked in turn, each with its place: the item that
-- gives it, and silence before that.
theorem findSome?_zipIdx_eq_some {α β : Type} {ask : α × Nat → Option β} {items : List α}
    {start : Nat} {b : β} : (items.zipIdx start).findSome? ask = some b ↔
      ∃ i a, items[i]? = some a ∧ ask (a,start + i) = some b ∧
        ∀ j < i, ∀ x, items[j]? = some x → ask (x,start + j) = none := by
  induction items generalizing start with
  | nil => simp
  | cons first rest ih =>
    rw [List.zipIdx_cons,List.findSome?_cons]
    cases here : ask (first,start) with
    | some c =>
      constructor
      · intro found
        exact ⟨0,first,rfl,here.trans found,by intro j before; omega⟩
      · rintro ⟨i,a,at_i,found,silent⟩
        cases i with
        | zero =>
          cases at_i
          exact here.symm.trans found
        | succ i =>
          have none := silent 0 (Nat.succ_pos i) first rfl
          rw [Nat.add_zero,here] at none
          cases none
    | none =>
      dsimp only
      rw [ih]
      constructor
      · rintro ⟨i,a,at_i,found,silent⟩
        refine ⟨i + 1,a,at_i,?_,?_⟩
        · rw [← found,Nat.add_right_comm,Nat.add_assoc]
        · intro j before x at_j
          cases j with
          | zero =>
            cases at_j
            exact here
          | succ j =>
            rw [← silent j (Nat.lt_of_succ_lt_succ before) x at_j,Nat.add_right_comm,Nat.add_assoc]
      · rintro ⟨i,a,at_i,found,silent⟩
        cases i with
        | zero =>
          cases at_i
          rw [Nat.add_zero,here] at found
          cases found
        | succ i =>
          refine ⟨i,a,at_i,?_,?_⟩
          · rw [← found,Nat.add_right_comm,Nat.add_assoc]
          · intro j before x at_j
            rw [← silent (j + 1) (Nat.succ_lt_succ before) x at_j,Nat.add_right_comm,Nat.add_assoc]

theorem findSome?_zipIdx_eq_none {α β : Type} {ask : α × Nat → Option β} {items : List α}
    {start : Nat} : (items.zipIdx start).findSome? ask = none ↔
      ∀ i a, items[i]? = some a → ask (a,start + i) = none := by
  rw [List.findSome?_eq_none_iff]
  constructor
  · intro silent i a at_i
    apply silent
    rw [List.mk_mem_zipIdx_iff_le_and_getElem?_sub,Nat.add_sub_cancel_left]
    exact ⟨Nat.le_add_right start i,at_i⟩
  · rintro silent ⟨a,place⟩ member
    obtain ⟨behind,at_place⟩ := List.mk_mem_zipIdx_iff_le_and_getElem?_sub.mp member
    have none := silent (place - start) a at_place
    rwa [Nat.add_sub_cancel' behind] at none

theorem predicateDefect_find (index : Nat) (ps : List Predicate) :
    predicateDefect? index ps = (ps.zipIdx index).findSome? fun x => x.1.defect? x.2 := by
  induction ps generalizing index with
  | nil => rfl
  | cons p rest ih =>
    rw [predicateDefect?,List.zipIdx_cons,List.findSome?_cons,ih]
    dsimp only
    cases p.defect? index <;> rfl

def Record.mismatch? (expected : List String) (row : Nat) (r : Record) : Option Defect :=
  if r.columns = expected then none else some (.rowColumnsMismatch row expected r.columns)

theorem mismatch_eq_none {expected : List String} {row : Nat} {r : Record} :
    r.mismatch? expected row = none ↔ r.columns = expected := by
  simp [Record.mismatch?]

theorem rowDefect_find (expected : List String) (row : Nat) (rows : List Record) :
    rowDefect? expected row rows =
      (rows.zipIdx row).findSome? fun x => x.1.mismatch? expected x.2 := by
  induction rows generalizing row with
  | nil => rfl
  | cons r rest ih =>
    rw [rowDefect?,List.zipIdx_cons,List.findSome?_cons,ih,Record.mismatch?]
    split <;> rfl

end InlineSql
