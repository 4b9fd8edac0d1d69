import InlineSql.Proofs.Statement.FirstDefect
import InlineSql.Proofs.Statement.WhereClause
import InlineSql.Proofs.Text.Trimmed

namespace InlineSql

namespace Connective

inductive Names (word : String) : Connective → Prop where
  | and (known : word = "" ∨ Text.Recased word "AND") : Names word .and
  | or (known : Text.Recased word "OR") : Names word .or
  | other (filled : word ≠ "") (conjunction : ¬ Text.Recased word "AND")
      (disjunction : ¬ Text.Recased word "OR") : Names word (.other word)

section
variable {s word : String} {c : Connective}

theorem or_apart (known : Text.Recased word "OR") : word ≠ "" ∧ ¬ Text.Recased word "AND" := by
  have length : word.toList.length = 2 := known.length_eq
  constructor
  · rintro rfl
    cases length
  · intro conjunction
    cases length.symm.trans conjunction.length_eq

theorem names_unique {other : Connective} (names : Names word c) (also : Names word other) :
    c = other := by
  cases names with
  | and known =>
    cases also with
    | and _ => rfl
    | or apart =>
      obtain ⟨filled,conjunction⟩ := or_apart apart
      rcases known with empty | known
      · exact absurd empty filled
      · exact absurd known conjunction
    | other filled conjunction _ =>
      rcases known with empty | known
      · exact absurd empty filled
      · exact absurd known conjunction
  | or known =>
    obtain ⟨filled,conjunction⟩ := or_apart known
    cases also with
    | and apart =>
      rcases apart with empty | apart
      · exact absurd empty filled
      · exact absurd apart conjunction
    | or _ => rfl
    | other _ _ disjunction => exact absurd known disjunction
  | other filled conjunction disjunction =>
    cases also with
    | and known =>
      rcases known with empty | known
      · exact absurd empty filled
      · exact absurd known conjunction
    | or known => exact absurd known disjunction
    | other _ _ _ => rfl

theorem parse_names (holds : Text.Holds s word) : Names word (parse s) := by
  have conjunction : Text.sameWord word "AND" = true ↔ Text.Recased word "AND" :=
    Text.sameWord_iff (by decide)
  have disjunction : Text.sameWord word "OR" = true ↔ Text.Recased word "OR" :=
    Text.sameWord_iff (by decide)
  unfold parse
  rw [Text.trim_word holds]
  dsimp only
  split
  · rename_i known
    rw [Bool.or_eq_true,decide_eq_true_eq,conjunction] at known
    exact .and known
  · rename_i unknown
    rw [Bool.or_eq_true,decide_eq_true_eq,conjunction,not_or] at unknown
    split
    · exact .or (disjunction.mp ‹_›)
    · exact .other unknown.1 unknown.2 (mt disjunction.mpr ‹_›)

theorem parse_iff (holds : Text.Holds s word) : parse s = c ↔ Names word c := by
  constructor
  · rintro rfl
    exact parse_names holds
  · exact names_unique (parse_names holds)

theorem Names.word_read (names : Names word c) (trimmed : Text.Trimmed word) :
    c.word ≠ "" ∧ Text.Trimmed c.word ∧ parse c.word = c := by
  cases names with
  | and _ => exact ⟨by decide,⟨by decide,by decide⟩,by decide⟩
  | or _ => exact ⟨by decide,⟨by decide,by decide⟩,by decide⟩
  | other filled conjunction disjunction =>
    exact ⟨filled,trimmed,(parse_iff trimmed.holds).mpr (.other filled conjunction disjunction)⟩

theorem parse_read (s : String) : (parse s).word ≠ "" ∧ Text.Trimmed (parse s).word ∧
    parse (parse s).word = parse s := by
  obtain ⟨_,_,_,_,trimmed,_⟩ := Text.holds_trim s
  exact (parse_names (Text.holds_trim s)).word_read trimmed

theorem parse_padded {front back : String} (before : Text.Blanks front) (behind : Text.Blanks back)
    (s : String) : parse (front ++ s ++ back) = parse s := by
  unfold parse
  rw [Text.trim_blanks before behind]

end

structure Parsed (s : String) : Prop where
  between : ∃ word, Text.Holds s word
  exact : ∀ word, Text.Holds s word → ∀ c, parse s = c ↔ Names word c
  filled : (parse s).word ≠ ""
  trimmed : Text.Trimmed (parse s).word
  stable : parse (parse s).word = parse s
  padded : ∀ front back, Text.Blanks front → Text.Blanks back →
    parse (front ++ s ++ back) = parse s

def Given (c : Connective) : Prop := c = .and ∨ c = .or ∨ ∃ text, c = parse text

theorem Given.shown {c : Connective} (given : c.Given) :
    ∃ x ∈ c.word.toList, Text.isBlank x = false := by
  rcases given with rfl | rfl | ⟨text,rfl⟩
  · exact ⟨'A',by decide,by decide⟩
  · exact ⟨'O',by decide,by decide⟩
  · obtain ⟨filled,trimmed,_⟩ := parse_read text
    exact trimmed.shows filled

end Connective

theorem Predicate.linked_of_given {p : Predicate} (given : p.connective.Given) : ¬ p.Unlinked := by
  rintro ⟨word,connective,blank⟩
  obtain ⟨x,member,shown⟩ := given.shown
  rw [connective] at member
  rw [blank x member] at shown
  cases shown

namespace Statement

theorem given_accepted {s : Statement} (given : ∀ p ∈ s.predicates, p.connective.Given)
    (index : Nat) (column : String) : s.defect? ≠ some (.emptyConnective index column) := by
  intro found
  cases found ▸ s.reports_defect with
  | condition keyed place fault earlier =>
    cases fault with
    | connective named compared unlinked =>
      exact Predicate.linked_of_given (given _ (List.mem_of_getElem? place)) unlinked

-- Neither the check nor the text meets a blank word: the check has no such fault to report, and
-- each condition that is written behind another one has a word in front that shows.
structure Linked (s : Statement) : Prop where
  accepted : ∀ index column, s.defect? ≠ some (.emptyConnective index column)
  written : ∀ (d : Dialect) (e : Escaper) w, d.frame e s = some w → ∀ first rest,
    s.predicates.filter Predicate.qualifies = first :: rest →
      (d.compile e s).sql = w.before ++ (" WHERE " ++ d.condition e first ++
        String.join (rest.map fun p => " " ++ p.connective.word ++ " " ++ d.condition e p)) ++
          w.after ∧
      ∀ p ∈ rest, ∃ x ∈ p.connective.word.toList, Text.isBlank x = false

theorem given_linked {s : Statement} (given : ∀ p ∈ s.predicates, p.connective.Given) :
    s.Linked := by
  refine ⟨given_accepted given,?_⟩
  intro d e w framed first rest qualifying
  obtain ⟨text,_⟩ := (d.where_rule e).placed s w framed
  refine ⟨?_,?_⟩
  · rw [text,d.whereText_every,qualifying,d.everyCondition_cons]
    rfl
  · intro p later
    have member : p ∈ s.predicates.filter Predicate.qualifies :=
      qualifying ▸ List.mem_cons_of_mem first later
    exact (given p (List.mem_filter.mp member).1).shown

end Statement

theorem connectives_read : (∀ s : String, Connective.Parsed s) ∧
    ∀ s : Statement, (∀ p ∈ s.predicates, p.connective.Given) → s.Linked := by
  refine ⟨fun s => ?_,fun s given => Statement.given_linked given⟩
  obtain ⟨filled,trimmed,stable⟩ := Connective.parse_read s
  constructor
  case between => exact ⟨_,Text.holds_trim s⟩
  case exact => exact fun word holds c => Connective.parse_iff holds
  case filled => exact filled
  case trimmed => exact trimmed
  case stable => exact stable
  case padded => exact fun front back before behind => Connective.parse_padded before behind s

theorem connectives_read_between_blanks :
    let p : Predicate := {column:="b",value:=.null,connective:=.parse "\u3000xOr\t"}
    let s := (Statement.start "t" .delete).build [.whereEq "a" .null,.predicate p]
    p.connective = .other "xOr" ∧ (∀ q ∈ s.predicates, q.connective.Given) ∧ s.Linked ∧
      Connective.parse ("\n" ++ "oR" ++ "\u2003") = Connective.parse "oR" := by
  intro p s
  have predicates : s.predicates = [{column:="a",value:=.null},p] := rfl
  have given : ∀ q ∈ s.predicates, q.connective.Given := by
    rw [predicates,List.forall_mem_cons,List.forall_mem_singleton]
    exact ⟨.inl rfl,.inr (.inr ⟨"\u3000xOr\t",rfl⟩)⟩
  have before : "\n".toList.all Text.isBlank = true := by decide
  have behind : "\u2003".toList.all Text.isBlank = true := by decide
  obtain ⟨texts,linked⟩ := connectives_read
  exact ⟨by decide,given,linked s given,
    (texts "oR").padded _ _ (List.all_eq_true.mp before) (List.all_eq_true.mp behind)⟩

end InlineSql
