import InlineSql.Proofs.Text.Columns
import InlineSql.Proofs.Timestamp.Calendar

namespace InlineSql.Timestamp
open Text

def layout : List Column :=
  [⟨4,['-']⟩,⟨2,['-']⟩,⟨2,[' ']⟩,⟨2,[':']⟩,⟨2,[':']⟩,⟨2,[]⟩]

def fields (t : Timestamp) : List Nat :=
  [t.year.natAbs,t.month,t.day,t.hour,t.minute,t.second]

def fraction (t : Timestamp) : List Char :=
  if t.nanosecond = 0 then [] else '.' :: padded 6 (t.nanosecond / 1000)

def cut (t : Timestamp) : Timestamp where
  __ := t
  nanosecond := t.nanosecond / 1000 * 1000
  nanosecondRange := by
    have range := t.nanosecondRange
    omega

def readFraction : List Char → Option Nat
  | [] => some 0
  | '.' :: digits => match readNumber 6 digits with
    | some (n,[]) => some (n * 1000)
    | _ => none
  | _ => none

def readSign : List Char → Int × List Char
  | '-' :: rest => (-1,rest)
  | rest => (1,rest)

def read? (text : List Char) : Option Timestamp := do
  let (sign,rest) := readSign text
  match ← readColumns layout rest with
  | ([year,month,day,hour,minute,second],behind) => do
    let nanosecond ← readFraction behind
    ofFields? (sign * year) month day hour minute second nanosecond
  | _ => none

variable {a b : Timestamp} (t : Timestamp)

theorem text_columns : t.text.toList =
    (if t.year < 0 then ['-'] else []) ++ writeColumns layout t.fields t.fraction := by
  rw [text,String.toList_ofList,dateText,yearText,minuteText]
  split <;> simp [layout,fields,writeColumns,fraction]

theorem daysIn_le (year : Int) (month : Nat) : daysIn year month ≤ 31 := by
  unfold daysIn
  split
  · split <;> decide
  · split <;> decide

theorem fields_fit : List.Forall₂ Column.Fits layout t.fields := by
  have year := t.yearRange
  have month := t.monthRange
  have day := t.dayRange
  have short := daysIn_le t.year t.month
  have time := t.timeRange
  simp only [layout,fields,List.forall₂_cons,Column.Fits,List.Forall₂.nil,and_true]
  omega

theorem microsecond_fits : t.nanosecond / 1000 < 10 ^ 6 := by
  have range := t.nanosecondRange
  omega

theorem readFraction_fraction : readFraction t.fraction = some t.cut.nanosecond := by
  unfold fraction
  split
  · rename_i whole
    change some 0 = some (t.nanosecond / 1000 * 1000)
    rw [whole]
  · have read := readNumber_padded (by decide) t.microsecond_fits []
    rw [List.append_nil] at read
    rw [readFraction,read]
    rfl

theorem readSign_digit {c : Char} (digit : c.isDigit = true) (rest : List Char) :
    readSign (c :: rest) = (1,c :: rest) := by
  unfold readSign
  split
  · rename_i later same
    cases same
    cases digit
  · rfl

-- A year without a sign begins with a digit.
theorem readSign_text : readSign t.text.toList =
    (if t.year < 0 then -1 else 1,writeColumns layout t.fields t.fraction) := by
  rw [text_columns]
  split
  · rfl
  · obtain ⟨c,rest,year⟩ := List.exists_cons_of_ne_nil (padded_ne_nil 4 t.year.natAbs)
    have digit : c.isDigit = true := digits_padded (year ▸ List.mem_cons_self)
    rw [List.nil_append,layout,fields,writeColumns,year]
    exact readSign_digit digit _

theorem ofFields_cut : ofFields? t.year t.month t.day t.hour t.minute t.second t.cut.nanosecond =
    some t.cut :=
  dif_pos ⟨t.yearRange,t.monthRange,t.dayRange,t.timeRange,t.cut.nanosecondRange⟩

theorem read_text : read? t.text.toList = some t.cut := by
  have year : (if t.year < 0 then -1 else 1) * (t.year.natAbs : Int) = t.year := by
    split <;> omega
  have columns := readColumns_write t.fields_fit t.fraction
  rw [read?,readSign_text]
  dsimp only
  rw [columns]
  simp only [fields,Option.bind_eq_bind,Option.bind_some,readFraction_fraction,year,ofFields_cut]

theorem point_text : '.' ∈ t.text.toList ↔ t.nanosecond ≠ 0 := by
  rw [text_columns,fraction]
  constructor
  · rintro member whole
    rw [if_pos whole] at member
    rcases List.mem_append.mp member with sign | column
    · split at sign
      · cases List.mem_singleton.mp sign
      · cases sign
    · rcases mem_writeColumns column with digit | mark | none
      · cases digit
      · revert mark
        decide
      · cases none
  · intro broken
    rw [if_neg broken]
    exact List.mem_append_right _ (mem_tail_writeColumns _ _ List.mem_cons_self)

theorem text_eq_iff : a.text = b.text ↔
    a.cut = b.cut ∧ (a.nanosecond = 0 ↔ b.nanosecond = 0) := by
  constructor
  · intro same
    have moments := read_text a
    rw [same,read_text] at moments
    have points := point_text a
    rw [same,point_text] at points
    exact ⟨(Option.some.inj moments).symm,not_iff_not.mp points.symm⟩
  · rintro ⟨moments,whole⟩
    apply String.toList_inj.mp
    have year : a.cut.year = b.cut.year := congrArg Timestamp.year moments
    have columns : a.cut.fields = b.cut.fields := congrArg fields moments
    have kept : a.nanosecond / 1000 * 1000 = b.nanosecond / 1000 * 1000 :=
      congrArg Timestamp.nanosecond moments
    have microsecond : a.nanosecond / 1000 = b.nanosecond / 1000 := by omega
    have behind : a.fraction = b.fraction := by
      unfold fraction
      simp only [whole,microsecond]
    change a.year = b.year at year
    change a.fields = b.fields at columns
    rw [text_columns,text_columns,year,columns,behind]

end InlineSql.Timestamp
