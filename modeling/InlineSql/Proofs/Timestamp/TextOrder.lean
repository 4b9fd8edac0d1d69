import InlineSql.Proofs.Timestamp.Reading

namespace InlineSql.Timestamp
open Text

variable {a b : Timestamp}

-- No fraction comes before every fraction, the one of zeros included.
theorem fraction_ordered (ordered : a.nanosecond ≤ b.nanosecond) :
    a.fraction < b.fraction ∨ a.fraction = b.fraction := by
  have whole : a.nanosecond / 1000 ≤ b.nanosecond / 1000 := Nat.div_le_div_right ordered
  unfold fraction
  by_cases first : a.nanosecond = 0
  · rw [if_pos first]
    by_cases second : b.nanosecond = 0
    · rw [if_pos second]
      exact .inr rfl
    · rw [if_neg second]
      exact .inl (List.nil_lt_cons _ _)
  · have second : b.nanosecond ≠ 0 := by omega
    rw [if_neg first,if_neg second]
    rcases Nat.lt_or_eq_of_le whole with before | same
    · have digits := padded_lt (by decide) before b.microsecond_fits [] []
      rw [List.append_nil,List.append_nil] at digits
      exact .inl (List.cons_lt_cons_iff.mpr (.inr ⟨rfl,digits⟩))
    · rw [same]
      exact .inr rfl

theorem fields_sooner (first : 0 ≤ a.year) (sooner : a.Sooner b) :
    a.fields < b.fields ∨ a.fields = b.fields ∧ a.nanosecond ≤ b.nanosecond := by
  have last : ¬ ([] : List Nat) < [] := List.lt_irrefl _
  rcases sooner with year | ⟨year,later⟩
  · refine .inl (List.cons_lt_cons_iff.mpr (.inl ?_))
    omega
  · simp only [inYear,List.cons_lt_cons_iff,last,and_false,or_false] at later
    simp only [fields,List.cons_lt_cons_iff,last,and_false,or_false,List.cons.injEq,and_true,year,
      true_and]
    omega

theorem columns_ordered (first : 0 ≤ a.year) (sooner : a.Sooner b) :
    writeColumns layout a.fields a.fraction < writeColumns layout b.fields b.fraction ∨
    writeColumns layout a.fields a.fraction = writeColumns layout b.fields b.fraction := by
  rcases fields_sooner first sooner with before | ⟨same,fraction⟩
  · exact .inl (writeColumns_lt a.fields_fit b.fields_fit before _ _)
  · rw [same]
    rcases fraction_ordered fraction with before | equal
    · exact .inl (writeColumns_tail_lt b.fields_fit before)
    · exact .inr (congrArg _ equal)

theorem text_ordered (first : 0 ≤ a.year) (second : 0 ≤ b.year) (ordered : a.elapsed ≤ b.elapsed) :
    a.text ≤ b.text := by
  rcases elapsed_le_iff.mp ordered with sooner | rfl
  · have left := text_columns a
    have right := text_columns b
    rw [if_neg (Int.not_lt.mpr first),List.nil_append] at left
    rw [if_neg (Int.not_lt.mpr second),List.nil_append] at right
    rcases columns_ordered first sooner with before | same
    · rw [← left,← right] at before
      exact String.not_lt.mp (String.lt_asymm (String.lt_iff.mpr before))
    · rw [← left,← right] at same
      exact String.toList_inj.mp same ▸ String.le_refl _
  · exact String.le_refl _

structure ReadsBack (t : Timestamp) : Prop where
  quoted : ∀ (d : Dialect) (e : Escaper), d.encode e (.timestamp t) = "'" ++ t.text ++ "'"
  inner : '\'' ∉ t.text.toList
  moment : read? t.text.toList = some t.cut
  fraction : '.' ∈ t.text.toList ↔ t.nanosecond ≠ 0

structure Compares (a b : Timestamp) : Prop where
  time : a.elapsed ≤ b.elapsed ↔ a.Sooner b ∨ a = b
  order : a.elapsed ≤ b.elapsed → a.text ≤ b.text
  same : a.text = b.text ↔ a.cut = b.cut ∧ (a.nanosecond = 0 ↔ b.nanosecond = 0)

theorem reads_back (t : Timestamp) : t.ReadsBack := by
  constructor
  case quoted =>
    intro d e
    rw [Dialect.encode]
  case inner => exact fun member => (t.text_inner _ member).1 rfl
  case moment => exact t.read_text
  case fraction => exact t.point_text

theorem read_back_in_order : (∀ t : Timestamp, t.ReadsBack) ∧
    ∀ a b : Timestamp, 0 ≤ a.year → 0 ≤ b.year → a.Compares b := by
  refine ⟨reads_back,fun a b first second => ?_⟩
  constructor
  case time => exact elapsed_le_iff
  case order => exact text_ordered first second
  case same => exact text_eq_iff

def newYearsEve : Timestamp where
  year := 1999
  month := 12
  day := 31
  hour := 23
  minute := 59
  second := 59
  nanosecond := 999999999
  yearRange := by decide
  monthRange := by decide
  dayRange := by decide
  timeRange := by decide
  nanosecondRange := by decide

def newYear (nanosecond : Fin 1000) : Timestamp where
  year := 2000
  month := 1
  day := 1
  hour := 0
  minute := 0
  second := 0
  nanosecond := nanosecond
  yearRange := by decide
  monthRange := by decide
  dayRange := by decide
  timeRange := by decide
  nanosecondRange := Nat.lt_trans nanosecond.isLt (by decide)

theorem read_back_in_order_at_new_year :
    read? newYearsEve.text.toList = some newYearsEve.cut ∧ newYearsEve.text ≤ (newYear 0).text ∧
    (newYear 0).text ≤ (newYear 1).text ∧ (newYear 0).text ≠ (newYear 1).text ∧
    (newYear 1).text = (newYear 2).text := by
  have eve := read_back_in_order.2 newYearsEve (newYear 0) (by decide) (by decide)
  have next := read_back_in_order.2 (newYear 0) (newYear 1) (by decide) (by decide)
  have last := read_back_in_order.2 (newYear 1) (newYear 2) (by decide) (by decide)
  have before : newYearsEve.Sooner (newYear 0) := .inl (by decide)
  have after : (newYear 0).Sooner (newYear 1) := .inr (by decide)
  refine ⟨(read_back_in_order.1 newYearsEve).moment,eve.order (eve.time.mpr (.inl before)),
    next.order (next.time.mpr (.inl after)),fun same => ?_,last.same.mpr ?_⟩
  · exact absurd ((next.same.mp same).2.mp rfl) (by decide)
  · decide

end InlineSql.Timestamp
