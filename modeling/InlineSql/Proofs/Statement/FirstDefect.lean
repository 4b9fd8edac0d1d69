import InlineSql.Proofs.Statement.Idle
import InlineSql.Proofs.Statement.LastingDefect

namespace InlineSql

namespace Predicate

def Unlinked (p : Predicate) : Prop :=
  ∃ word, p.connective = .other word ∧ ∀ c ∈ word.toList, Text.isBlank c = true

def Faulty (p : Predicate) : Prop :=
  p.column = "" ∨ p.operator = "" ∨ p.Unlinked ∨ p.value = .list []

inductive Fault (p : Predicate) (index : Nat) : Defect → Prop where
  | column (none : p.column = "") : Fault p index (.emptyColumn index)
  | operator (named : p.column ≠ "") (none : p.operator = "") :
      Fault p index (.emptyOperator index p.column)
  | connective (named : p.column ≠ "") (compared : p.operator ≠ "") (none : p.Unlinked) :
      Fault p index (.emptyConnective index p.column)
  | values (named : p.column ≠ "") (compared : p.operator ≠ "") (linked : ¬ p.Unlinked)
      (none : p.value = .list []) : Fault p index (.emptyValueSet index p.column)

section
variable {p : Predicate} {index : Nat} {d : Defect}

theorem unlinked_iff : p.Unlinked ↔ p.connective.isBlank = true := by
  unfold Unlinked Connective.isBlank
  cases p.connective with
  | other word => simp [Text.allBlank]
  | and => simp
  | or => simp

theorem fault_of_defect (found : p.defect? index = some d) : p.Fault index d := by
  unfold Predicate.defect? at found
  split at found
  · cases found
    exact .column ‹_›
  · rename_i named
    split at found
    · cases found
      exact .operator named ‹_›
    · rename_i compared
      split at found
      · cases found
        exact .connective named compared (unlinked_iff.mpr ‹_›)
      · rename_i linked
        split at found
        · cases found
          exact .values named compared (mt unlinked_iff.mp linked) ‹_›
        · cases found

theorem defect_of_fault (fault : p.Fault index d) : p.defect? index = some d := by
  unfold Predicate.defect?
  cases fault with
  | column none => rw [if_pos none]
  | operator named none => rw [if_neg named,if_pos none]
  | connective named compared none =>
    rw [if_neg named,if_neg compared,if_pos (unlinked_iff.mp none)]
  | values named compared linked none =>
    rw [if_neg named,if_neg compared,if_neg (mt unlinked_iff.mpr linked),none]

theorem defect_none_iff : p.defect? index = none ↔ ¬ p.Faulty := by
  constructor
  · intro clean faulty
    obtain ⟨written,shown,filled⟩ := predicate_defect_none clean
    obtain ⟨named,compared⟩ : p.column ≠ "" ∧ p.operator ≠ "" := by
      simpa [qualifies] using written
    rcases faulty with column | operator | unlinked | values
    · exact named column
    · exact compared operator
    · rw [unlinked_iff,shown] at unlinked
      cases unlinked
    · exact filled [] values rfl
  · intro sound
    cases found : p.defect? index with
    | none => rfl
    | some d =>
      refine absurd ?_ sound
      cases fault_of_defect found with
      | column none => exact .inl none
      | operator _ none => exact .inr (.inl none)
      | connective _ _ none => exact .inr (.inr (.inl none))
      | values _ _ _ none => exact .inr (.inr (.inr none))

end

theorem first_fault {ps : List Predicate} {d : Defect} : predicateDefect? 0 ps = some d ↔
    ∃ i p, ps[i]? = some p ∧ Fault p i d ∧ ∀ j < i, ∀ q, ps[j]? = some q → ¬ Faulty q := by
  simp only [predicateDefect_find,findSome?_zipIdx_eq_some,Nat.zero_add,defect_none_iff]
  have same : ∀ (p : Predicate) i, p.defect? i = some d ↔ p.Fault i d := fun _ _ =>
    ⟨fault_of_defect,defect_of_fault⟩
  simp only [same]

theorem no_fault {ps : List Predicate} :
    predicateDefect? 0 ps = none ↔ ∀ p ∈ ps, ¬ p.Faulty := by
  simp only [predicateDefect_find,findSome?_zipIdx_eq_none,defect_none_iff,
    List.mem_iff_getElem?]
  exact ⟨fun sound p ⟨i,at_i⟩ => sound i p at_i,fun sound i p at_i => sound p ⟨i,at_i⟩⟩

end Predicate

namespace Window

def Inverted (w : Window) : Prop := 0 ≤ w.stop.toInt ∧ w.stop.toInt < w.offset.toInt

theorem inverted_iff (w : Window) : w.Inverted ↔ (w.isSet && w.stop < w.offset) = true := by
  have zero : (0 : Int64).toInt = 0 := rfl
  simp only [Inverted,isSet,Bool.and_eq_true,decide_eq_true_eq,Int64.le_iff_toInt_le,
    Int64.lt_iff_toInt_lt,zero]
  omega

end Window

namespace Statement

variable (s : Statement)

def Keyless : Prop :=
  s.method = some .findByKey ∧ (s.keyColumn = none ∨ s.keyColumn = some "")

def Rectangular : Prop :=
  ∀ first, s.rows[0]? = some first → ∀ r ∈ s.rows, r.columns = first.columns

-- What the check of a statement has to answer: the fault of the key before those of the
-- conditions, these before those of the rows and these before that of the window. Of the
-- conditions and of the rows the first one at fault counts.
inductive Reports : Option Defect → Prop where
  | key (keyless : s.Keyless) : Reports (some .missingKeyColumn)
  | condition {i : Nat} {p : Predicate} {d : Defect} (keyed : ¬ s.Keyless)
      (place : s.predicates[i]? = some p) (fault : p.Fault i d)
      (earlier : ∀ j < i, ∀ q, s.predicates[j]? = some q → ¬ q.Faulty) : Reports (some d)
  | row {i : Nat} {first r : Record} (keyed : ¬ s.Keyless) (sound : ∀ p ∈ s.predicates, ¬ p.Faulty)
      (begins : s.rows[0]? = some first) (place : s.rows[i]? = some r)
      (other : r.columns ≠ first.columns)
      (earlier : ∀ j < i, ∀ q, s.rows[j]? = some q → q.columns = first.columns) :
      Reports (some (.rowColumnsMismatch i first.columns r.columns))
  | limit (keyed : ¬ s.Keyless) (sound : ∀ p ∈ s.predicates, ¬ p.Faulty) (rows : s.Rectangular)
      (inverted : s.window.Inverted) :
      Reports (some (.invalidLimit s.window.offset s.window.stop))
  | clean (keyed : ¬ s.Keyless) (sound : ∀ p ∈ s.predicates, ¬ p.Faulty) (rows : s.Rectangular)
      (ordered : ¬ s.window.Inverted) : Reports none

theorem keyless_iff : s.Keyless ↔ s.method = some .findByKey ∧ s.usableKey = none := by
  rw [Keyless,usableKey_none]
  cases s.keyColumn <;> simp

theorem keyed_iff : s.keyDefect? = none ↔ ¬ s.Keyless := by
  simp [keyDefect?,keyless_iff]

theorem keyless_of_defect {d : Defect} (found : s.keyDefect? = some d) : s.Keyless := by
  unfold keyDefect? at found
  split at found
  · exact s.keyless_iff.mpr ‹_›
  · cases found

-- The first row is compared with itself, which does no harm.
theorem rowsDefect_find {first : Record} {rest : List Record} (rows : s.rows = first :: rest) :
    s.rowsDefect? = (s.rows.zipIdx 0).findSome? fun x => x.1.mismatch? first.columns x.2 := by
  have itself : first.mismatch? first.columns 0 = none := mismatch_eq_none.mpr rfl
  rw [rowsDefect?,rows]
  dsimp only
  rw [rowDefect_find,List.zipIdx_cons,List.findSome?_cons,itself]

theorem first_mismatch {d : Defect} : s.rowsDefect? = some d ↔ ∃ i first r,
    s.rows[0]? = some first ∧ s.rows[i]? = some r ∧ r.columns ≠ first.columns ∧
      (∀ j < i, ∀ q, s.rows[j]? = some q → q.columns = first.columns) ∧
      d = .rowColumnsMismatch i first.columns r.columns := by
  cases rows : s.rows with
  | nil => simp [rowsDefect?,rows]
  | cons first rest =>
    rw [s.rowsDefect_find rows,findSome?_zipIdx_eq_some,rows]
    simp only [Nat.zero_add,mismatch_eq_none]
    constructor
    · rintro ⟨i,r,place,found,earlier⟩
      unfold Record.mismatch? at found
      split at found
      · cases found
      · rename_i other
        cases found
        exact ⟨i,first,r,rfl,place,other,earlier,rfl⟩
    · rintro ⟨i,head,r,begins,place,other,earlier,rfl⟩
      cases begins
      exact ⟨i,r,place,if_neg other,earlier⟩

theorem no_mismatch : s.rowsDefect? = none ↔ s.Rectangular := by
  unfold Rectangular
  cases rows : s.rows with
  | nil => simp [rowsDefect?,rows]
  | cons first rest =>
    rw [s.rowsDefect_find rows,findSome?_zipIdx_eq_none,rows]
    simp only [Nat.zero_add,mismatch_eq_none]
    constructor
    · intro same head begins r member
      cases begins
      obtain ⟨i,place⟩ := List.getElem?_of_mem member
      exact same i r place
    · intro same i r place
      exact same first rfl r (List.mem_of_getElem? place)

theorem window_defect : s.window.defect? =
    if s.window.isSet && s.window.stop < s.window.offset
      then some (.invalidLimit s.window.offset s.window.stop) else none := rfl

theorem reports_defect : s.Reports s.defect? := by
  rw [defect_or]
  cases key : s.keyDefect? with
  | some d =>
    cases key_defect_missing key
    exact .key (s.keyless_of_defect key)
  | none =>
    have keyed := s.keyed_iff.mp key
    cases condition : predicateDefect? 0 s.predicates with
    | some d =>
      obtain ⟨i,p,place,fault,earlier⟩ := Predicate.first_fault.mp condition
      exact .condition keyed place fault earlier
    | none =>
      have sound := Predicate.no_fault.mp condition
      cases row : s.rowsDefect? with
      | some d =>
        obtain ⟨i,first,r,begins,place,other,earlier,rfl⟩ := s.first_mismatch.mp row
        exact .row keyed sound begins place other earlier
      | none =>
        have rows := s.no_mismatch.mp row
        simp only [Option.none_or]
        rw [window_defect]
        split
        · exact .limit keyed sound rows ((Window.inverted_iff _).mpr ‹_›)
        · exact .clean keyed sound rows (mt (Window.inverted_iff _).mp ‹_›)

theorem defect_of_reports {s : Statement} {answer : Option Defect} (reports : s.Reports answer) :
    s.defect? = answer := by
  rw [defect_or]
  cases reports with
  | key keyless =>
    rw [keyDefect?,if_pos (s.keyless_iff.mp keyless)]
    rfl
  | condition keyed place fault earlier =>
    rw [s.keyed_iff.mpr keyed,Predicate.first_fault.mpr ⟨_,_,place,fault,earlier⟩]
    rfl
  | row keyed sound begins place other earlier =>
    rw [s.keyed_iff.mpr keyed,Predicate.no_fault.mpr sound,
      s.first_mismatch.mpr ⟨_,_,_,begins,place,other,earlier,rfl⟩]
    rfl
  | limit keyed sound rows inverted =>
    rw [s.keyed_iff.mpr keyed,Predicate.no_fault.mpr sound,s.no_mismatch.mpr rows,window_defect,
      if_pos (s.window.inverted_iff.mp inverted)]
    rfl
  | clean keyed sound rows ordered =>
    rw [s.keyed_iff.mpr keyed,Predicate.no_fault.mpr sound,s.no_mismatch.mpr rows,window_defect,
      if_neg (mt s.window.inverted_iff.mpr ordered)]
    rfl

theorem missing_iff_keyless : s.defect? = some .missingKeyColumn ↔ s.Keyless := by
  constructor
  · intro found
    cases found ▸ s.reports_defect with
    | key keyless => exact keyless
    | condition keyed place fault earlier => cases fault
  · intro keyless
    exact defect_of_reports (.key keyless)

theorem rectangular_agrees {s : Statement} (rows : s.Rectangular) (row : Nat)
    (expected found : List String) : s.defect? ≠ some (.rowColumnsMismatch row expected found) := by
  intro told
  cases told ▸ s.reports_defect with
  | condition keyed place fault earlier => cases fault
  | row keyed sound begins place other earlier =>
    exact other (rows _ begins _ (List.mem_of_getElem? place))

theorem defect_exact (answer : Option Defect) : (s.defect? = answer ↔ s.Reports answer) ∧
    (s.defect? = some .missingKeyColumn ↔ s.Keyless) ∧
    (s.defect? = none ↔ ¬ s.Keyless ∧ (∀ p ∈ s.predicates, ¬ p.Faulty) ∧ s.Rectangular ∧
      ¬ s.window.Inverted) := by
  have exact {answer : Option Defect} : s.defect? = answer ↔ s.Reports answer :=
    ⟨fun same => same ▸ s.reports_defect,defect_of_reports⟩
  refine ⟨exact,s.missing_iff_keyless,?_⟩
  rw [exact]
  constructor
  · intro reports
    cases reports with
    | clean keyed sound rows ordered => exact ⟨keyed,sound,rows,ordered⟩
  · rintro ⟨keyed,sound,rows,ordered⟩
    exact .clean keyed sound rows ordered

example : ((start "t" .insert).build [.whereEq "a" (.list [.null]),
    .predicate ⟨"b",.list [],"",.other " "⟩,.whereEq "" .null,.limitRange 5 2,
    .row (Record.empty.set "a" .null),.row (Record.empty.set "b" .null)]).defect? =
      some (.emptyOperator 1 "b") := by
  decide

end Statement
end InlineSql
