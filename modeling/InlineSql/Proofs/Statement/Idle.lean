import InlineSql.Statement.Compiled

namespace InlineSql

def Statement.isIdle (s : Statement) : Bool :=
  match s.method with
  | none => true
  | some .update => s.assignments.isEmpty
  | some .insert => s.rows.isEmpty
  | some .findByKey => s.keyColumn.all (· == "")
  | some .select | some .delete | some .count => false

theorem usableKey_none {s : Statement} :
    s.usableKey = none ↔ s.keyColumn.all (· == "") = true := by
  unfold Statement.usableKey
  cases s.keyColumn with
  | none => simp
  | some key => by_cases empty : key = "" <;> simp [empty]

-- Every text that is written ends with a semicolon, whatever the dialect does.
theorem compile_empty_iff (d : Dialect) (e : Escaper) (s : Statement) :
    (d.compile e s).sql = "" ↔ s.isIdle = true := by
  have ended (text : String) : text ++ ";" ≠ "" := by
    intro empty
    have characters := congrArg String.toList empty
    simp at characters
  unfold Dialect.compile Statement.isIdle
  cases s.method with
  | none => exact iff_of_true rfl rfl
  | some m =>
    cases m with
    | select => exact iff_of_false (ended _) Bool.false_ne_true
    | delete => exact iff_of_false (ended _) Bool.false_ne_true
    | count => exact iff_of_false (ended _) Bool.false_ne_true
    | update =>
      dsimp only
      unfold Dialect.update
      split
      · rename_i empty
        exact iff_of_true rfl empty
      · rename_i assigned
        exact iff_of_false (ended _) assigned
    | insert =>
      dsimp only
      unfold Dialect.insertion
      cases s.rows with
      | nil => exact iff_of_true rfl rfl
      | cons first rest => exact iff_of_false (ended _) Bool.false_ne_true
    | findByKey =>
      dsimp only
      split
      · rename_i missing
        exact iff_of_true rfl (usableKey_none.mp missing)
      · rename_i found
        exact iff_of_false (ended _) (mt usableKey_none.mpr found)

end InlineSql
