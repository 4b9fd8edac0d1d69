import InlineSql.Proofs.Spelling
import Mathlib.Algebra.Group.Nat.Defs
import Mathlib.Data.List.Forall2

namespace InlineSql

namespace Timestamp

theorem length_padded {width n : Nat} (wide : 0 < width) (fits : n < 10 ^ width) :
    (padded width n).length = width := by
  have digits := (Nat.length_toDigits_le_iff (by decide) wide).mpr fits
  simp only [padded,List.length_append,List.length_replicate]
  omega

theorem padded_ne_nil (width n : Nat) : padded width n ≠ [] :=
  List.append_ne_nil_of_right_ne_nil _ Nat.toDigits_ne_nil

theorem number_padded (width n : Nat) : Nat.ofDigitChars 10 (padded width n) 0 = n := by
  rw [padded,Nat.ofDigitChars_append,Nat.ofDigitChars_replicate_zero,Nat.mul_zero,
    Nat.ofDigitChars_ten_toDigits]

end Timestamp

namespace Text

structure Column where
  width : Nat
  mark : List Char

def Column.Fits (c : Column) (n : Nat) : Prop := 0 < c.width ∧ n < 10 ^ c.width

def writeColumns : List Column → List Nat → List Char → List Char
  | c :: layout,n :: rest,tail =>
    Timestamp.padded c.width n ++ (c.mark ++ writeColumns layout rest tail)
  | _,_,tail => tail

def readNumber (width : Nat) (text : List Char) : Option (Nat × List Char) :=
  let digits := text.take width
  if digits.length = width ∧ digits.all Char.isDigit then
    some (Nat.ofDigitChars 10 digits 0,text.drop width)
  else none

def readMark (mark text : List Char) : Option (List Char) :=
  if mark.isPrefixOf text then some (text.drop mark.length) else none

def readColumns : List Column → List Char → Option (List Nat × List Char)
  | [],text => some ([],text)
  | c :: layout,text => do
    let (n,behind) ← readNumber c.width text
    let next ← readMark c.mark behind
    let (rest,tail) ← readColumns layout next
    return (n :: rest,tail)

theorem readNumber_padded {width n : Nat} (wide : 0 < width) (fits : n < 10 ^ width)
    (tail : List Char) : readNumber width (Timestamp.padded width n ++ tail) = some (n,tail) := by
  have length := Timestamp.length_padded wide fits
  have digits : (Timestamp.padded width n).all Char.isDigit = true :=
    List.all_eq_true.mpr fun _ => Timestamp.digits_padded
  have first : (Timestamp.padded width n ++ tail).take width = Timestamp.padded width n :=
    List.take_left' length
  have behind : (Timestamp.padded width n ++ tail).drop width = tail := List.drop_left' length
  rw [readNumber,first,behind,if_pos ⟨length,digits⟩,Timestamp.number_padded]

theorem readMark_self (mark tail : List Char) : readMark mark (mark ++ tail) = some tail := by
  rw [readMark,if_pos (List.isPrefixOf_iff_prefix.mpr (List.prefix_append mark tail)),
    List.drop_left]

theorem readColumns_write {layout : List Column} {numbers : List Nat}
    (fits : List.Forall₂ Column.Fits layout numbers) (tail : List Char) :
    readColumns layout (writeColumns layout numbers tail) = some (numbers,tail) := by
  induction fits with
  | nil => rfl
  | cons first _ ih =>
    rw [writeColumns,readColumns,readNumber_padded first.1 first.2]
    simp [readMark_self,ih]

theorem mem_tail_writeColumns (layout : List Column) (numbers : List Nat) {tail : List Char}
    {c : Char} (member : c ∈ tail) : c ∈ writeColumns layout numbers tail := by
  fun_induction writeColumns layout numbers tail with
  | case1 column layout n rest tail ih =>
    exact List.mem_append_right _ (List.mem_append_right _ (ih member))
  | case2 => exact member

theorem mem_writeColumns {layout : List Column} {numbers : List Nat} {tail : List Char} {c : Char}
    (member : c ∈ writeColumns layout numbers tail) :
    c.isDigit = true ∨ (∃ column ∈ layout, c ∈ column.mark) ∨ c ∈ tail := by
  fun_induction writeColumns layout numbers tail with
  | case1 column layout n rest tail ih =>
    rcases List.mem_append.mp member with digit | behind
    · exact .inl (Timestamp.digits_padded digit)
    · rcases List.mem_append.mp behind with mark | later
      · exact .inr (.inl ⟨column,List.mem_cons_self,mark⟩)
      · rcases ih later with digit | ⟨other,held,mark⟩ | last
        · exact .inl digit
        · exact .inr (.inl ⟨other,List.mem_cons_of_mem column held,mark⟩)
        · exact .inr (.inr last)
  | case2 => exact .inr (.inr member)

section
variable {x y : List Char}

theorem number_cons (c : Char) (rest : List Char) : Nat.ofDigitChars 10 (c :: rest) 0 =
    10 ^ rest.length * (c.toNat - 48) + Nat.ofDigitChars 10 rest 0 := by
  rw [Nat.ofDigitChars_cons,Nat.ofDigitChars_eq_ofDigitChars_zero,Nat.mul_zero,Nat.zero_add]
  rfl

theorem number_bound (digits : ∀ c ∈ x, c.isDigit = true) :
    Nat.ofDigitChars 10 x 0 < 10 ^ x.length := by
  induction x with
  | nil => exact Nat.one_pos
  | cons c rest ih =>
    have others := ih fun d member => digits d (List.mem_cons_of_mem c member)
    have digit : 48 ≤ c.toNat ∧ c.toNat ≤ 57 := Char.isDigit_iff_toNat.mp (digits c List.mem_cons_self)
    have scaled : 10 ^ rest.length * (c.toNat - 48) ≤ 10 ^ rest.length * 9 :=
      Nat.mul_le_mul_left _ (by omega)
    rw [number_cons,List.length_cons,Nat.pow_succ]
    omega

-- Of two runs of digits of one length the smaller number comes first, whatever follows.
theorem digits_lt (length : x.length = y.length) (left : ∀ c ∈ x, c.isDigit = true)
    (right : ∀ c ∈ y, c.isDigit = true)
    (smaller : Nat.ofDigitChars 10 x 0 < Nat.ofDigitChars 10 y 0) (t u : List Char) :
    x ++ t < y ++ u := by
  induction x generalizing y with
  | nil =>
    cases List.length_eq_zero_iff.mp length.symm
    exact absurd smaller (Nat.lt_irrefl _)
  | cons c rest ih =>
    cases y with
    | nil => cases length
    | cons d later =>
      have same : rest.length = later.length := Nat.succ.inj length
      have others := fun e member => left e (List.mem_cons_of_mem c member)
      have remaining := fun e member => right e (List.mem_cons_of_mem d member)
      have lowest : 48 ≤ d.toNat := (Char.isDigit_iff_toNat.mp (right d List.mem_cons_self)).1
      rw [number_cons,number_cons,← same] at smaller
      rw [List.cons_append,List.cons_append,List.cons_lt_cons_iff]
      rcases Nat.lt_trichotomy c.toNat d.toNat with before | equal | behind
      · exact .inl (Char.lt_def.mpr before)
      · refine .inr ⟨Char.toNat_inj.mp equal,ih same others remaining ?_⟩
        rw [equal] at smaller
        exact Nat.lt_of_add_lt_add_left smaller
      · -- A greater first digit weighs more than all digits that follow it.
        have bound := number_bound remaining
        have scaled : 10 ^ rest.length * (d.toNat - 48 + 1) ≤ 10 ^ rest.length * (c.toNat - 48) :=
          Nat.mul_le_mul_left _ (by omega)
        rw [← same] at bound
        rw [Nat.mul_add] at scaled
        omega

end

theorem padded_lt {width m n : Nat} (wide : 0 < width) (smaller : m < n) (fits : n < 10 ^ width)
    (t u : List Char) : Timestamp.padded width m ++ t < Timestamp.padded width n ++ u := by
  have left := Timestamp.length_padded wide (Nat.lt_trans smaller fits)
  have right := Timestamp.length_padded wide fits
  apply digits_lt (left.trans right.symm) (fun _ => Timestamp.digits_padded)
    (fun _ => Timestamp.digits_padded)
  rw [Timestamp.number_padded,Timestamp.number_padded]
  exact smaller

theorem writeColumns_lt {layout : List Column} {m n : List Nat}
    (left : List.Forall₂ Column.Fits layout m) (right : List.Forall₂ Column.Fits layout n)
    (smaller : m < n) (t u : List Char) : writeColumns layout m t < writeColumns layout n u := by
  induction left generalizing n with
  | nil =>
    cases right
    exact absurd smaller (List.lt_irrefl _)
  | cons first others ih =>
    cases right with
    | cons second remaining =>
      rw [writeColumns,writeColumns]
      rcases List.cons_lt_cons_iff.mp smaller with before | ⟨rfl,later⟩
      · exact padded_lt first.1 before second.2 _ _
      · exact List.append_left_lt (List.append_left_lt (ih remaining later))

theorem writeColumns_tail_lt {layout : List Column} {numbers : List Nat}
    (fits : List.Forall₂ Column.Fits layout numbers) {t u : List Char} (smaller : t < u) :
    writeColumns layout numbers t < writeColumns layout numbers u := by
  induction fits with
  | nil => exact smaller
  | cons _ _ ih =>
    rw [writeColumns,writeColumns]
    exact List.append_left_lt (List.append_left_lt ih)

end Text
end InlineSql
