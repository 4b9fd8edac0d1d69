import InlineSql.Proofs.Literal.Reader
import InlineSql.Proofs.Statement.KeySearch

namespace InlineSql

section
variable {α : Type}

def rowsBetween (first stop : Int) (rows : List α) : List α :=
  (rows.zipIdx.filter fun row => first ≤ row.2 ∧ row.2 < stop).map Prod.fst

theorem rowsBetween_take (offset count : Nat) (rows : List α) :
    rowsBetween offset (offset + count) rows = (rows.drop offset).take count := by
  let skipped := rows.take offset
  let taken := (rows.drop offset).take count
  let others := (rows.drop offset).drop count
  have whole : rows = skipped ++ (taken ++ others) := by
    rw [List.take_append_drop,List.take_append_drop]
  have skips : skipped.length = min offset rows.length := List.length_take
  have takes : taken.length = min count (rows.length - offset) := by
    rw [List.length_take,List.length_drop]
  have leaves : others.length = rows.length - offset - count := by
    rw [List.length_drop,List.length_drop]
  let inside : α × Nat → Bool := fun row =>
    decide ((offset : Int) ≤ row.2 ∧ (row.2 : Int) < offset + count)
  have before : (skipped.zipIdx 0).filter inside = [] := by
    rw [List.filter_eq_nil_iff]
    rintro ⟨row,i⟩ member
    obtain ⟨_,bound,_⟩ := List.mem_zipIdx member
    simp only [inside,decide_eq_true_eq]
    omega
  have within : (taken.zipIdx (0 + skipped.length)).filter inside =
      taken.zipIdx (0 + skipped.length) := by
    rw [List.filter_eq_self]
    rintro ⟨row,i⟩ member
    obtain ⟨least,bound,_⟩ := List.mem_zipIdx member
    simp only [inside,decide_eq_true_eq]
    omega
  have behind : (others.zipIdx (0 + skipped.length + taken.length)).filter inside = [] := by
    rw [List.filter_eq_nil_iff]
    rintro ⟨row,i⟩ member
    obtain ⟨least,bound,_⟩ := List.mem_zipIdx member
    simp only [inside,decide_eq_true_eq]
    omega
  have places : rows.zipIdx.filter inside = taken.zipIdx (0 + skipped.length) := by
    conv_lhs => rw [whole,List.zipIdx_append,List.zipIdx_append,List.filter_append,
      List.filter_append,before,within,behind]
    rw [List.nil_append,List.append_nil]
  rw [rowsBetween]
  change (rows.zipIdx.filter inside).map Prod.fst = taken
  rw [places,List.zipIdx_map_fst]

end

namespace Window

variable {w : Window}

theorem isSet_iff : w.isSet = true ↔ 0 ≤ w.offset ∧ 0 ≤ w.stop := by
  rw [isSet,Bool.and_eq_true,decide_eq_true_eq,decide_eq_true_eq]

theorem take_rows {α : Type} (set : w.isSet = true) (rows : List α) :
    (rows.drop w.offset.toInt.toNat).take (w.stop.toInt - w.offset.toInt).toNat =
      rowsBetween w.offset.toInt w.stop.toInt rows := by
  obtain ⟨offset,stop⟩ := set_bounds set
  rw [← rowsBetween_take]
  have first : (w.offset.toInt.toNat : Int) = w.offset.toInt := Int.toNat_of_nonneg offset
  rw [first]
  unfold rowsBetween
  congr 2
  funext row
  rw [Bool.eq_iff_iff]
  simp only [decide_eq_true_eq]
  omega

end Window

namespace Reader

def numberBehind (word : String) (text : List Char) : Option (Nat × List Char) :=
  (text.dropPrefix? word.toList).bind natural

theorem numberBehind_digits (word : String) (n : Nat) {t : List Char} (delimited : Delimited t) :
    numberBehind word (word.toList ++ (Nat.toDigits 10 n ++ t)) = some (n,t) := by
  have dropped : (word.toList ++ (Nat.toDigits 10 n ++ t)).dropPrefix? word.toList =
      some (Nat.toDigits 10 n ++ t) :=
    List.dropPrefix?_eq_some_iff.mpr ⟨word.toList,rfl,beq_self_eq_true _⟩
  rw [numberBehind,dropped,Option.bind_some,natural_digits n delimited]

end Reader

namespace Flavor

-- What a family reads in a limit: the number of rows to skip, the number of rows to take, and
-- the text behind. MySQL has the rows to skip in front, the others have them at the end.
def readLimit : Flavor → List Char → Option ((Nat × Nat) × List Char)
  | .mysql,text => do
    let (skip,between) ← Reader.numberBehind " LIMIT " text
    let (take,behind) ← Reader.numberBehind "," between
    return ((skip,take),behind)
  | .postgresql,text | .sqlite,text => do
    let (take,between) ← Reader.numberBehind " LIMIT " text
    let (skip,behind) ← Reader.numberBehind " OFFSET " between
    return ((skip,take),behind)

theorem readLimit_clause (f : Flavor) {offset count : Int64} (first : 0 ≤ offset.toInt)
    (size : 0 ≤ count.toInt) {t : List Char} (delimited : Delimited t) :
    f.readLimit ((f.dialect.limitClause offset count).toList ++ t) =
      some ((offset.toInt.toNat,count.toInt.toNat),t) := by
  have skip := Number.toList_nonnegative first
  have take := Number.toList_nonnegative size
  have comma : ∀ n : Nat, Delimited (",".toList ++ (Nat.toDigits 10 n ++ t)) := fun _ => rfl
  have word : ∀ n : Nat, Delimited (" OFFSET ".toList ++ (Nat.toDigits 10 n ++ t)) := fun _ => rfl
  rw [f.limitClause_text]
  cases f with
  | mysql =>
    simp only [limitPair,limitWord,if_pos,String.toList_append,skip,take,List.append_assoc]
    rw [readLimit,Reader.numberBehind_digits _ _ (comma _)]
    simp only [Option.bind_eq_bind,Option.bind_some]
    rw [Reader.numberBehind_digits _ _ delimited]
    rfl
  | postgresql | sqlite =>
    simp only [limitPair,limitWord,reduceCtorEq,if_false,String.toList_append,skip,take,
      List.append_assoc]
    rw [readLimit,Reader.numberBehind_digits _ _ (word _)]
    simp only [Option.bind_eq_bind,Option.bind_some]
    rw [Reader.numberBehind_digits _ _ delimited]
    rfl

theorem limitClause_ne_empty (f : Flavor) (offset count : Int64) :
    f.dialect.limitClause offset count ≠ "" := by
  intro empty
  have text := congrArg String.toList empty
  rw [f.limitClause_text] at text
  simp at text

end Flavor

namespace Statement

def Selects (s : Statement) : Prop :=
  s.method = some .select ∨ s.method = some .findByKey ∧ s.usableKey ≠ none

variable {s : Statement} {clauses : List Clause} {w : Window}

theorem Selects.build (selects : s.Selects) (clauses : List Clause) : (s.build clauses).Selects := by
  rw [build_eq_gathered]
  exact selects

theorem Selects.compile (selects : s.Selects) (d : Dialect) (e : Escaper) :
    d.compile e s = d.selection e s := by
  rw [Dialect.compile]
  rcases selects with method | ⟨method,found⟩
  · rw [method]
  · rw [method]
    exact if_neg found

theorem build_last_window (last : (clauses.filterMap Clause.window?).getLast? = some w) :
    (s.build clauses).window = w := by
  rw [build_eq_gathered,gathered,last]
  rfl

end Statement

structure Window.Denotes (w : Window) (skip take : Nat) : Prop where
  difference : (w.stop - w.offset).toInt = w.stop.toInt - w.offset.toInt
  range : Int64.minValue.toInt ≤ w.stop.toInt - w.offset.toInt ∧
    w.stop.toInt - w.offset.toInt ≤ Int64.maxValue.toInt
  skipped : (skip : Int) = w.offset.toInt
  taken : (take : Int) = max 0 (w.stop.toInt - w.offset.toInt)
  bounded : (take : Int) ≤ Int64.maxValue.toInt
  rows : ∀ (α : Type) (rows : List α),
    (rows.drop skip).take take = rowsBetween w.offset.toInt w.stop.toInt rows
  inverted : w.stop ≤ w.offset → ∀ (α : Type) (rows : List α), (rows.drop skip).take take = []

theorem Window.denotes {w : Window} (set : w.isSet = true) :
    w.Denotes w.offset.toInt.toNat (w.stop.toInt - w.offset.toInt).toNat := by
  obtain ⟨offset,stop⟩ := set_bounds set
  have first := w.offset.toInt_lt
  have last := w.stop.toInt_lt
  have least : Int64.minValue.toInt = -2 ^ 63 := rfl
  have greatest : Int64.maxValue.toInt = 2 ^ 63 - 1 := rfl
  constructor
  case difference => exact difference_toInt set
  case range => omega
  case skipped => omega
  case taken => omega
  case bounded => omega
  case rows => exact fun α rows => take_rows set rows
  case inverted =>
    intro inverted α rows
    have order := Int64.le_iff_toInt_le.mp inverted
    have none : (w.stop.toInt - w.offset.toInt).toNat = 0 := by omega
    rw [none,List.take_zero]

namespace Statement

-- The last window that was asked for is what a family reads at the end of the text. Both numbers
-- are exact, they are the same in every family, and they stand for the rows of the window.
theorem limit_reads_window {s : Statement} {clauses : List Clause} {w : Window}
    (selects : s.Selects) (last : (clauses.filterMap Clause.window?).getLast? = some w) :
    let t := s.build clauses
    let skip := w.offset.toInt.toNat
    let take := (w.stop.toInt - w.offset.toInt).toNat
    (0 ≤ w.offset → 0 ≤ w.stop → w.Denotes skip take) ∧
    ∀ (f : Flavor) (e : Escaper), ∃ before limit,
      (({t with window:=.unbounded}).compileWith f e).sql = before ++ ";" ∧
      (t.compileWith f e).sql = before ++ limit ++ ";" ∧
      (limit ≠ "" ↔ 0 ≤ w.offset ∧ 0 ≤ w.stop) ∧
      (0 ≤ w.offset → 0 ≤ w.stop →
        f.readLimit (limit ++ ";").toList = some ((skip,take),[';'])) := by
  intro t skip take
  have window : t.window = w := build_last_window last
  have limited : t.Selects := selects.build clauses
  have unlimited : Selects {t with window:=.unbounded} := limited
  refine ⟨fun offset stop => Window.denotes (Window.isSet_iff.mpr ⟨offset,stop⟩),fun f e => ?_⟩
  let d := f.dialect
  let before := "SELECT " ++ Dialect.columnList t ++ " FROM " ++ t.table ++ (d.whereClause e t).sql ++
    d.groupClause t ++ d.orderClause t
  refine ⟨before,d.windowClause w,?_,?_,?_,?_⟩
  · rw [compileWith,unlimited.compile]
    exact congrArg (· ++ ";") (String.append_empty (s:=before))
  · rw [compileWith,limited.compile,← window]
    rfl
  · rw [← Window.isSet_iff,Dialect.windowClause]
    split
    · rename_i set
      exact iff_of_true (f.limitClause_ne_empty _ _) set
    · rename_i unset
      exact iff_of_false (fun shown => shown rfl) unset
  · intro offset stop
    have set := Window.isSet_iff.mpr ⟨offset,stop⟩
    have size := Window.count_toInt set
    have take : (w.stop.toInt - w.offset.toInt).toNat = w.count.toInt.toNat := by omega
    have ended : Delimited ";".toList := rfl
    rw [Dialect.windowClause,if_pos set,String.toList_append,
      f.readLimit_clause (Window.set_bounds set).1 (by omega) ended,← take]
    rfl

theorem limit_reads_window_end :
    let clauses : List Clause := [.limitRange 7 2,.whereEq "a" (.text " LIMIT 1"),
      .limitRange 9223372036854775806 9223372036854775807,.orderAscending "b"]
    let s := start "t" (.findByKey "id" (.int 1))
    let w : Window := ⟨9223372036854775806,9223372036854775807⟩
    s.Selects ∧ (clauses.filterMap Clause.window?).getLast? = some w ∧
      w.Denotes 9223372036854775806 1 ∧ ∃ before limit,
        (s.build clauses).toSql .postgresql = before ++ limit ++ ";" ∧
        Flavor.postgresql.readLimit (limit ++ ";").toList =
          some ((9223372036854775806,1),[';']) := by
  intro clauses s w
  have selects : s.Selects := .inr ⟨rfl,by decide⟩
  have last : (clauses.filterMap Clause.window?).getLast? = some w := rfl
  obtain ⟨denotes,reads⟩ := limit_reads_window selects last
  obtain ⟨before,limit,_,text,_,numbers⟩ := reads .postgresql Flavor.postgresql.escaper
  have skip : w.offset.toInt.toNat = 9223372036854775806 := by decide
  have take : (w.stop.toInt - w.offset.toInt).toNat = 1 := by decide
  have offset : 0 ≤ w.offset := by decide
  have stop : 0 ≤ w.stop := by decide
  rw [skip,take] at denotes numbers
  exact ⟨selects,last,denotes offset stop,before,limit,text,numbers offset stop⟩

theorem limit_without_key :
    let s := (start "t" (.findByKey "" (.int 7))).build [.limit 5]
    s.method = some .findByKey ∧ s.window = ⟨0,5⟩ ∧ s.window.isSet = true ∧
      ∀ f : Flavor, s.toSql f = "" := by
  intro s
  refine ⟨rfl,rfl,by decide,fun f => ?_⟩
  exact (compile_empty_iff f.dialect f.escaper s).mpr rfl

end Statement
end InlineSql
