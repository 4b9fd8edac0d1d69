import InlineSql.Timestamp

namespace InlineSql

section
variable (year : Int)

def yearLength : Nat := if isLeap year then 366 else 365

def daysOfMonths : Nat → Nat
  | 0 => 0
  | m+1 => daysOfMonths m + daysIn year (m + 1)

def daysOfYears : Nat → Nat
  | 0 => 0
  | n+1 => daysOfYears n + yearLength (n - 9999)

theorem daysOfMonths_year : daysOfMonths year 12 = yearLength year := by
  unfold yearLength daysOfMonths
  cases leap : isLeap year <;> simp [daysOfMonths,daysIn,leap]

theorem daysOfMonths_mono {m n : Nat} (before : m ≤ n) :
    daysOfMonths year m ≤ daysOfMonths year n := by
  induction before with
  | refl => exact Nat.le_refl _
  | step _ ih => exact Nat.le_trans ih (Nat.le_add_right _ _)

theorem daysOfYears_mono {m n : Nat} (before : m ≤ n) : daysOfYears m ≤ daysOfYears n := by
  induction before with
  | refl => exact Nat.le_refl _
  | step _ ih => exact Nat.le_trans ih (Nat.le_add_right _ _)

end

namespace Timestamp

def dayNumber (t : Timestamp) : Nat :=
  daysOfYears (t.year + 9999).toNat + daysOfMonths t.year (t.month - 1) + t.day

-- The nanoseconds since the beginning of the calendar, up to a constant.
def elapsed (t : Timestamp) : Nat :=
  (((t.dayNumber * 24 + t.hour) * 60 + t.minute) * 60 + t.second) * 1000000000 + t.nanosecond

def inYear (t : Timestamp) : List Nat :=
  [t.month,t.day,t.hour,t.minute,t.second,t.nanosecond]

def Sooner (a b : Timestamp) : Prop :=
  a.year < b.year ∨ a.year = b.year ∧ a.inYear < b.inYear

section
variable {a b : Timestamp}

theorem day_bounds (t : Timestamp) : daysOfMonths t.year (t.month - 1) + t.day ≤
    daysOfMonths t.year t.month ∧ daysOfMonths t.year t.month ≤ yearLength t.year := by
  obtain ⟨first,last⟩ := t.monthRange
  constructor
  · obtain ⟨m,month⟩ := Nat.exists_eq_succ_of_ne_zero (Nat.ne_of_gt first)
    have day := t.dayRange.2
    rw [month] at day ⊢
    exact Nat.add_le_add_left day _
  · rw [← daysOfMonths_year]
    exact daysOfMonths_mono t.year last

theorem dayNumber_year (before : a.year < b.year) : a.dayNumber < b.dayNumber := by
  have range := a.yearRange
  have next : (a.year + 9999).toNat + 1 ≤ (b.year + 9999).toNat := by omega
  have year : ((a.year + 9999).toNat : Int) - 9999 = a.year := by omega
  have whole : daysOfYears ((a.year + 9999).toNat + 1) =
      daysOfYears (a.year + 9999).toNat + yearLength a.year := by rw [daysOfYears,year]
  have years := daysOfYears_mono next
  obtain ⟨month,twelve⟩ := a.day_bounds
  have day := b.dayRange.1
  unfold dayNumber
  omega

theorem dayNumber_month (year : a.year = b.year) (before : a.month < b.month) :
    a.dayNumber < b.dayNumber := by
  have first := a.monthRange.1
  have months := daysOfMonths_mono a.year (Nat.le_sub_one_of_lt before)
  obtain ⟨month,_⟩ := a.day_bounds
  have day := b.dayRange.1
  unfold dayNumber
  rw [← year]
  omega

theorem dayNumber_day (year : a.year = b.year) (month : a.month = b.month) :
    a.dayNumber + b.day = b.dayNumber + a.day := by
  unfold dayNumber
  rw [year,month]
  omega

theorem elapsed_day (before : a.dayNumber < b.dayNumber) : a.elapsed < b.elapsed := by
  have time := a.timeRange
  have fraction := a.nanosecondRange
  unfold elapsed
  omega

theorem elapsed_sooner (sooner : a.Sooner b) : a.elapsed < b.elapsed := by
  rcases sooner with year | ⟨year,later⟩
  · exact elapsed_day (dayNumber_year year)
  · simp only [inYear,List.cons_lt_cons_iff] at later
    rcases later with month | ⟨month,later⟩
    · exact elapsed_day (dayNumber_month year month)
    · have days := dayNumber_day year month
      rcases later with day | ⟨day,later⟩
      · exact elapsed_day (by omega)
      · have time := a.timeRange
        have other := b.timeRange
        have fraction := a.nanosecondRange
        have last : ¬ ([] : List Nat) < [] := List.lt_irrefl _
        simp only [last,and_false,or_false] at later
        unfold elapsed
        omega

theorem eq_of_fields (year : a.year = b.year) (rest : a.inYear = b.inYear) : a = b := by
  simp only [inYear,List.cons.injEq,and_true] at rest
  obtain ⟨month,day,hour,minute,second,nanosecond⟩ := rest
  cases a
  cases b
  cases year
  cases month
  cases day
  cases hour
  cases minute
  cases second
  cases nanosecond
  rfl

theorem eq_of_unsooner (left : ¬ a.Sooner b) (right : ¬ b.Sooner a) : a = b := by
  unfold Sooner at left right
  have year : a.year = b.year := by omega
  have before : ¬ a.inYear < b.inYear := fun before => left (.inr ⟨year,before⟩)
  have after : ¬ b.inYear < a.inYear := fun after => right (.inr ⟨year.symm,after⟩)
  exact eq_of_fields year (Std.Trichotomous.trichotomous _ _ before after)

theorem elapsed_le_iff : a.elapsed ≤ b.elapsed ↔ a.Sooner b ∨ a = b := by
  constructor
  · intro ordered
    rcases Nat.lt_or_eq_of_le ordered with before | same
    · refine .inl (Classical.byContradiction fun unsooner => ?_)
      have after : ¬ b.Sooner a := fun sooner => Nat.lt_asymm before (elapsed_sooner sooner)
      cases eq_of_unsooner unsooner after
      exact Nat.lt_irrefl _ before
    · refine .inr (eq_of_unsooner ?_ ?_)
      · exact fun sooner => Nat.ne_of_lt (elapsed_sooner sooner) same
      · exact fun sooner => Nat.ne_of_gt (elapsed_sooner sooner) same
  · rintro (sooner | rfl)
    · exact Nat.le_of_lt (elapsed_sooner sooner)
    · exact Nat.le_refl _

end
end Timestamp
end InlineSql
