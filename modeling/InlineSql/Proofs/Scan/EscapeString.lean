import InlineSql.Proofs.Scan.Containment

namespace InlineSql

def Segment.spelled : Segment → List Char
  | .outside text => text
  | .quoted q content => q.mark :: content ++ [q.mark]
  | .comment _ content => content

def Mode.spelled : Mode → List Char
  | .outside recent => recent.reverse
  | .inside q content | .escaping q content => q.mark :: content.reverse
  | .closing q content => q.mark :: content.reverse ++ [q.mark]
  | .comment _ content => content.reverse

namespace Scan

def spelled (s : Scan) : List Char := s.segments.reverse.flatMap Segment.spelled ++ s.mode.spelled

theorem opens_mark {f : Flavor} {recent : List Char} {c : Char} {q : Quotation}
    (opens : f.opens recent c = some q) : q.mark = c := by
  unfold Flavor.opens at opens
  split at opens
  · cases opens
    rfl
  · cases f <;> dsimp only at opens
    · split at opens
      · cases opens; rfl
      · cases opens
    · split at opens
      · cases opens; rfl
      · cases opens
    · split at opens
      · cases opens; rfl
      · split at opens
        · cases opens; rfl
        · cases opens

theorem spelled_outside (f : Flavor) (segments : List Segment) (recent : List Char) (c : Char) :
    (outside f segments recent c).spelled =
      segments.reverse.flatMap Segment.spelled ++ recent.reverse ++ [c] := by
  unfold outside
  cases opens : f.opens recent c with
  | some q => simp [spelled,Segment.spelled,Mode.spelled,opens_mark opens]
  | none => cases f.remarks recent c <;> simp [spelled,Segment.spelled,Mode.spelled]

theorem spelled_step (f : Flavor) (s : Scan) (c : Char) : (s.step f c).spelled = s.spelled ++ [c] := by
  obtain ⟨segments,mode⟩ := s
  cases mode with
  | outside recent => rw [step_outside,spelled_outside]; simp [spelled,Mode.spelled]
  | inside q content =>
    rw [step_inside,Quotation.read]
    split
    · rename_i mark
      simp [spelled,Mode.spelled,mark]
    · split <;> simp [spelled,Mode.spelled]
  | escaping q content => simp [step_escaping,spelled,Mode.spelled]
  | closing q content =>
    by_cases mark : c = q.mark
    · simp [mark,step_doubled,spelled,Mode.spelled]
    · rw [step_closed f segments content mark,spelled_outside]
      simp [spelled,Mode.spelled,Segment.spelled]
  | comment kind content =>
    by_cases ended : kind.ends content c <;> simp [step,ended,spelled,Mode.spelled,Segment.spelled]

theorem spelled_along (f : Flavor) (s : Scan) (text : List Char) :
    (s.along f text).spelled = s.spelled ++ text := by
  induction text generalizing s with
  | nil => exact (List.append_nil _).symm
  | cons c rest ih =>
    change ((s.step f c).along f rest).spelled = _
    rw [ih,spelled_step,List.append_assoc]
    rfl

theorem Keeps.content {f : Flavor} {q : Quotation} {body : List Char} (keeps : Keeps f q body)
    (segments : List Segment) (content : List Char) :
    Scan.along f ⟨segments,.inside q content⟩ body =
      ⟨segments,.inside q (body.reverse ++ content)⟩ := by
  obtain ⟨kept,reached⟩ := keeps segments content
  have read := spelled_along f ⟨segments,.inside q content⟩ body
  rw [reached] at read
  simp only [spelled,Mode.spelled,List.append_assoc,List.cons_append,List.append_cancel_left_eq,
    List.cons.injEq,true_and] at read
  rw [reached,← List.reverse_reverse kept,read,List.reverse_append,List.reverse_reverse]

end Scan

def Quotation.IsString (q : Quotation) : Prop := ∃ backslash, q = ⟨false,'\'',backslash⟩

def Quotation.Known (q : Quotation) : Prop := q = ⟨true,'"',false⟩ ∨ q.IsString

namespace Mode

def Known : Mode → Prop
  | .inside q _ | .escaping q _ | .closing q _ => q.Known
  | _ => True

def Held : Mode → Prop
  | .inside q _ => q.Known
  | .comment _ _ => True
  | _ => False

def Unnamed : Mode → Prop
  | .inside q _ | .escaping q _ => q.IsString
  | .closing q _ => q.Known
  | _ => True

end Mode

def isComparisonChar (c : Char) : Bool := c.isAlpha || [' ','<','>','=','!','~'].contains c

namespace Scan

theorem opens_known {recent : List Char} {c : Char} {q : Quotation}
    (opens : Flavor.postgresql.opens recent c = some q) :
    q = ⟨true,'"',false⟩ ∨ c = '\'' ∧ q.IsString := by
  unfold Flavor.opens at opens
  split at opens
  · rename_i mark
    cases opens
    exact .inl (by rw [mark]; rfl)
  · dsimp only at opens
    split at opens
    · rename_i mark
      cases opens
      exact .inr ⟨mark,_,by rw [mark]⟩
    · cases opens

theorem outside_cases (segments : List Segment) (recent : List Char) (c : Char) :
    (∃ q, q.mark = c ∧ q.Known ∧ (outside .postgresql segments recent c).mode = .inside q []) ∨
      (∃ kind, (outside .postgresql segments recent c).mode = .comment kind [c]) ∨
      (outside .postgresql segments recent c).mode = .outside (c :: recent) := by
  unfold outside
  cases opens : Flavor.postgresql.opens recent c with
  | some q => exact .inl ⟨q,opens_mark opens,(opens_known opens).imp id And.right,rfl⟩
  | none =>
    cases Flavor.postgresql.remarks recent c with
    | some kind => exact .inr (.inl ⟨kind,rfl⟩)
    | none => exact .inr (.inr rfl)

theorem outside_known (segments : List Segment) (recent : List Char) (c : Char) :
    (outside .postgresql segments recent c).mode.Known := by
  rcases outside_cases segments recent c with ⟨q,_,known,mode⟩ | ⟨kind,mode⟩ | mode <;> rw [mode]
  · exact known
  · trivial
  · trivial

theorem read_known {q : Quotation} (known : q.Known) (content : List Char) (c : Char) :
    (q.read content c).Known := by
  unfold Quotation.read
  split
  · exact known
  · split <;> exact known

theorem step_known {s : Scan} (known : s.mode.Known) (c : Char) :
    (s.step .postgresql c).mode.Known := by
  obtain ⟨segments,mode⟩ := s
  cases mode with
  | outside recent => exact outside_known segments recent c
  | inside q content => exact read_known known content c
  | escaping q content => exact known
  | closing q content =>
    by_cases mark : c = q.mark
    · rw [mark,step_doubled]
      exact known
    · rw [step_closed _ segments content mark]
      exact outside_known _ _ c
  | comment kind content => by_cases ended : kind.ends content c <;> simp [step,ended,Mode.Known]

theorem along_known {s : Scan} (known : s.mode.Known) (text : List Char) :
    (s.along .postgresql text).mode.Known := by
  induction text generalizing s with
  | nil => exact known
  | cons c rest ih => exact ih (step_known known c)

theorem step_held {s : Scan} (held : s.mode.Held) {c : Char}
    (inner : c ≠ '"' ∧ c ≠ '\'' ∧ c ≠ '\\' ∧ c ≠ '\n' ∧ c ≠ '/') :
    (s.step .postgresql c).mode.Held := by
  obtain ⟨quote,apostrophe,escape,newline,slash⟩ := inner
  obtain ⟨segments,mode⟩ := s
  cases mode with
  | inside q content =>
    have other : c ≠ q.mark := by
      rcases held with rfl | ⟨_,rfl⟩
      · exact quote
      · exact apostrophe
    rw [step_inside,Quotation.read,if_neg other,if_neg (fun both => escape both.1)]
    exact held
  | comment kind content => cases kind <;> simp [step,Comment.ends,newline,slash,Mode.Held]
  | _ => cases held

theorem step_held_quote {s : Scan} (held : s.mode.Held) :
    (s.step .postgresql '"').mode.Unnamed := by
  obtain ⟨segments,mode⟩ := s
  cases mode with
  | inside q content =>
    rcases held with rfl | ⟨backslash,rfl⟩
    · exact .inl rfl
    · exact ⟨backslash,rfl⟩
  | comment kind content => cases kind <;> trivial
  | _ => cases held

theorem step_unnamed_quote {s : Scan} (unnamed : s.mode.Unnamed) :
    (s.step .postgresql '"').mode.Held := by
  obtain ⟨segments,mode⟩ := s
  cases mode with
  | outside recent => exact .inl rfl
  | inside q content =>
    obtain ⟨backslash,rfl⟩ := unnamed
    exact .inr ⟨backslash,rfl⟩
  | escaping q content => exact .inr unnamed
  | closing q content =>
    rcases unnamed with rfl | ⟨backslash,rfl⟩
    · exact .inl rfl
    · exact .inl rfl
  | comment kind content => cases kind <;> trivial

theorem outside_unnamed (segments : List Segment) (recent : List Char) {c : Char} (other : c ≠ '"') :
    (outside .postgresql segments recent c).mode.Unnamed := by
  rcases outside_cases segments recent c with ⟨q,mark,known,mode⟩ | ⟨kind,mode⟩ | mode <;> rw [mode]
  · rcases known with rfl | string
    · exact absurd mark.symm other
    · exact string
  · trivial
  · trivial

theorem step_unnamed {s : Scan} (unnamed : s.mode.Unnamed) {c : Char} (other : c ≠ '"') :
    (s.step .postgresql c).mode.Unnamed := by
  obtain ⟨segments,mode⟩ := s
  cases mode with
  | outside recent => exact outside_unnamed segments recent other
  | inside q content =>
    rw [step_inside,Quotation.read]
    split
    · exact .inr unnamed
    · split <;> exact unnamed
  | escaping q content => exact unnamed
  | closing q content =>
    by_cases mark : c = q.mark
    · rcases unnamed with rfl | string
      · exact absurd mark other
      · rw [mark,step_doubled]
        exact string
    · rw [step_closed _ segments content mark]
      exact outside_unnamed _ _ other
  | comment kind content => by_cases ended : kind.ends content c <;> simp [step,ended,Mode.Unnamed]

theorem along_unnamed {s : Scan} (unnamed : s.mode.Unnamed) (name : List Char) :
    (s.along .postgresql (name.flatMap (Text.twice '"'))).mode.Unnamed := by
  induction name generalizing s with
  | nil => exact unnamed
  | cons c rest ih =>
    rw [List.flatMap_cons,along_append]
    refine ih ?_
    unfold Text.twice
    split
    · exact step_held_quote (step_unnamed_quote unnamed)
    · rename_i other
      exact step_unnamed unnamed other

theorem comparison_inner {c : Char} (comparison : isComparisonChar c = true) :
    c ≠ '"' ∧ c ≠ '\'' ∧ c ≠ '\\' ∧ c ≠ '\n' ∧ c ≠ '/' := by
  refine ⟨?_,?_,?_,?_,?_⟩ <;> rintro rfl <;> revert comparison <;> decide

theorem comparison_letter {operator : List Char} (comparison : operator.all isComparisonChar = true) :
    (operator ++ ['E']).all isComparisonChar = true := by
  rw [List.all_append,comparison]
  rfl

theorem along_held {s : Scan} (held : s.mode.Held) {text : List Char}
    (comparison : text.all isComparisonChar = true) : (s.along .postgresql text).mode.Held := by
  induction text generalizing s with
  | nil => exact held
  | cons c rest ih =>
    simp only [List.all_cons,Bool.and_eq_true] at comparison
    exact ih (step_held held (comparison_inner comparison.1)) comparison.2

def marked (column operator : List Char) : List Char :=
  '"' :: column.flatMap (Text.twice '"') ++ ['"'] ++ operator ++ ['E','\'']

-- A condition that is written inside a quotation or a comment never gets out of it in
-- time to open a string: the marks of its name come in pairs.
theorem marked_held {s : Scan} (held : s.mode.Held) (column : List Char) {operator : List Char}
    (comparison : operator.all isComparisonChar = true) (q : Quotation) :
    (s.along .postgresql (marked column operator)).mode ≠ .inside q [] := by
  have letter := comparison_letter comparison
  have named := along_unnamed (step_held_quote held) column
  have behind := along_held (step_unnamed_quote named) letter
  have text : s.along .postgresql (marked column operator) =
      Scan.step .postgresql (Scan.along .postgresql (Scan.step .postgresql
        (Scan.along .postgresql (s.step .postgresql '"') (column.flatMap (Text.twice '"'))) '"')
          (operator ++ ['E'])) '\'' := by
    simp [marked,along,List.foldl_append]
  rw [text]
  generalize Scan.along .postgresql _ (operator ++ ['E']) = reached at behind
  obtain ⟨segments,mode⟩ := reached
  intro opened
  cases mode with
  | inside r content =>
    rcases behind with rfl | ⟨backslash,rfl⟩
    · cases opened
    · cases opened
  | comment kind content => cases kind <;> cases opened
  | _ => cases behind

theorem along_single (f : Flavor) (s : Scan) (c : Char) : s.along f [c] = s.step f c := rfl

theorem step_blank {s : Scan} (known : s.mode.Known) :
    (∃ recent, (s.step .postgresql ' ').mode = .outside recent) ∨
      (s.step .postgresql ' ').mode.Held := by
  obtain ⟨segments,mode⟩ := s
  cases mode with
  | outside recent => exact .inl ⟨_,rfl⟩
  | inside q content =>
    have held : (Scan.mk segments (.inside q content)).mode.Held := known
    exact .inr (step_held held (by decide))
  | escaping q content => exact .inr known
  | closing q content =>
    have other : ' ' ≠ q.mark := by
      rcases known with rfl | ⟨_,rfl⟩
      · decide
      · exact show ' ' ≠ '\'' by decide
    rw [step_closed _ segments content other]
    exact .inl ⟨_,rfl⟩
  | comment kind content => cases kind <;> exact .inr trivial

theorem outside_comparison (segments : List Segment) (recent : List Char) {c : Char}
    (comparison : isComparisonChar c = true) :
    outside .postgresql segments recent c = ⟨segments,.outside (c :: recent)⟩ := by
  obtain ⟨quote,apostrophe,_⟩ := comparison_inner comparison
  have star : c ≠ '*' := by rintro rfl; revert comparison; decide
  have dash : c ≠ '-' := by rintro rfl; revert comparison; decide
  simp [outside,Flavor.opens,Flavor.nameMark,Flavor.remarks,quote,apostrophe,star,dash]

theorem along_comparison (segments : List Segment) (recent : List Char) {text : List Char}
    (comparison : text.all isComparisonChar = true) :
    Scan.along .postgresql ⟨segments,.outside recent⟩ text =
      ⟨segments,.outside (text.reverse ++ recent)⟩ := by
  induction text generalizing recent with
  | nil => rfl
  | cons c rest ih =>
    simp only [List.all_cons,Bool.and_eq_true] at comparison
    have first : Scan.step .postgresql ⟨segments,.outside recent⟩ c =
        ⟨segments,.outside (c :: recent)⟩ := outside_comparison segments recent comparison.1
    change Scan.along .postgresql (Scan.step .postgresql ⟨segments,.outside recent⟩ c) rest = _
    rw [first,ih (c :: recent) comparison.2]
    simp

theorem comparison_word {c : Char} (comparison : isComparisonChar c = true) :
    isWordChar c = c.isAlpha := by
  unfold isComparisonChar at comparison
  cases letter : c.isAlpha with
  | true => simp [isWordChar,Char.isAlphanum,letter]
  | false =>
    rw [letter,Bool.false_or,List.contains_iff_mem] at comparison
    have signs : [' ','<','>','=','!','~'].all (fun d => !isWordChar d) = true := by decide
    simpa using List.all_eq_true.mp signs c comparison

theorem endsInEscapeMark_comparison {operator : List Char}
    (comparison : operator.all isComparisonChar = true) :
    endsInEscapeMark (operator ++ ['E']).reverse = !operator.getLast?.any Char.isAlpha := by
  rcases List.eq_nil_or_concat operator with rfl | ⟨before,c,rfl⟩
  · rfl
  · simp only [List.concat_eq_append,List.all_append,Bool.and_eq_true,List.all_cons,List.all_nil,
      and_true] at comparison
    simp [endsInEscapeMark,comparison_word comparison.2]

theorem along_behind_name (segments : List Segment) (content : List Char) {text : List Char}
    (filled : text ≠ []) (comparison : text.all isComparisonChar = true) :
    Scan.along .postgresql ⟨segments,.closing ⟨true,'"',false⟩ content⟩ text =
      ⟨.quoted ⟨true,'"',false⟩ content.reverse :: segments,.outside text.reverse⟩ := by
  cases text with
  | nil => exact absurd rfl filled
  | cons c rest =>
    simp only [List.all_cons,Bool.and_eq_true] at comparison
    obtain ⟨quote,_⟩ := comparison_inner comparison.1
    have first : Scan.step .postgresql ⟨segments,.closing ⟨true,'"',false⟩ content⟩ c =
        ⟨.quoted ⟨true,'"',false⟩ content.reverse :: segments,.outside [c]⟩ := by
      rw [step_closed _ segments content quote,outside_comparison _ _ comparison.1]
    change Scan.along .postgresql (Scan.step .postgresql _ c) rest = _
    rw [first,along_comparison _ _ comparison.2,List.reverse_cons]

theorem marked_outside (segments : List Segment) (recent column : List Char) {operator : List Char}
    (comparison : operator.all isComparisonChar = true) :
    ∃ ended, Scan.along .postgresql ⟨segments,.outside recent⟩ (marked column operator) =
      ⟨ended,.inside ⟨false,'\'',!operator.getLast?.any Char.isAlpha⟩ []⟩ := by
  have letter := comparison_letter comparison
  obtain ⟨kept,inside⟩ := keeps_twice .postgresql (q:=⟨true,'"',false⟩) rfl column
    (.outside recent.reverse :: segments) []
  have opened : Scan.along .postgresql ⟨segments,.outside recent⟩
      ('"' :: column.flatMap (Text.twice '"')) =
      ⟨.outside recent.reverse :: segments,.inside ⟨true,'"',false⟩ kept⟩ := inside
  have closed : Scan.step .postgresql
      ⟨.outside recent.reverse :: segments,.inside ⟨true,'"',false⟩ kept⟩ '"' =
      ⟨.outside recent.reverse :: segments,.closing ⟨true,'"',false⟩ kept⟩ := rfl
  have filled : operator ++ ['E'] ≠ [] := by simp
  have compared := along_behind_name (.outside recent.reverse :: segments) kept filled letter
  have text : marked column operator =
      '"' :: column.flatMap (Text.twice '"') ++ '"' :: (operator ++ ['E'] ++ ['\'']) := by
    simp [marked]
  refine ⟨.outside (operator ++ ['E']).reverse.reverse ::
    .quoted ⟨true,'"',false⟩ kept.reverse :: .outside recent.reverse :: segments,?_⟩
  rw [text,along_append,opened,← endsInEscapeMark_comparison comparison]
  change Scan.along .postgresql (Scan.step .postgresql _ '"') _ = _
  rw [closed,along_append,compared]
  rfl

end Scan

-- Between the two texts `body` stands in one escape string: its letter begins a token, the
-- string is open as long as the body lasts, and the mark behind the body ends it for good.
def EscapeString (before body after : List Char) : Prop :=
  ∃ segments,
    Scan.start.along .postgresql (before ++ ['E','\'']) = ⟨segments,.inside ⟨false,'\'',true⟩ []⟩ ∧
    Scan.start.along .postgresql (before ++ ['E','\''] ++ body ++ ['\'']) =
      ⟨segments,.closing ⟨false,'\'',true⟩ body.reverse⟩ ∧
    after.head? ≠ some '\''

open Scan

theorem escapeString_iff {front column operator after : List Char} (text : String)
    (comparison : operator.all isComparisonChar = true) (apart : after.head? ≠ some '\'') :
    EscapeString (front ++ [' '] ++ ('"' :: column.flatMap (Text.twice '"') ++ ['"']) ++ operator)
        (Text.backslash text).toList after ↔
      (∃ recent, (start.along .postgresql (front ++ [' '])).mode = .outside recent) ∧
        operator.getLast?.any Char.isAlpha = false := by
  have split : front ++ [' '] ++ ('"' :: column.flatMap (Text.twice '"') ++ ['"']) ++ operator ++
      ['E','\''] = front ++ [' '] ++ marked column operator := by
    simp [marked]
  have known : start.mode.Known := trivial
  have body : Keeps .postgresql ⟨false,'\'',true⟩ (Text.backslash text).toList :=
    escape_keeps .postgresql text
  rw [EscapeString,split]
  constructor
  · rintro ⟨segments,opened,_⟩
    rw [along_append] at opened
    have blank := step_blank (along_known known front)
    rw [← along_single,← along_append] at blank
    rcases blank with ⟨recent,outside⟩ | held
    · refine ⟨⟨recent,outside⟩,?_⟩
      obtain ⟨ended,reached⟩ := marked_outside
        (start.along .postgresql (front ++ [' '])).segments recent column comparison
      rw [← outside] at reached
      rw [reached] at opened
      have read : ended = segments ∧ operator.getLast?.any Char.isAlpha = false := by
        simpa using opened
      exact read.2
    · exact absurd (congrArg Scan.mode opened) (marked_held held column comparison _)
  · rintro ⟨⟨recent,outside⟩,ending⟩
    obtain ⟨ended,reached⟩ := marked_outside
      (start.along .postgresql (front ++ [' '])).segments recent column comparison
    rw [← outside,ending] at reached
    have opened : start.along .postgresql (front ++ [' '] ++ marked column operator) =
        ⟨ended,.inside ⟨false,'\'',true⟩ []⟩ := (along_append ..).trans reached
    refine ⟨ended,opened,?_,apart⟩
    rw [along_append,along_append,opened,body.content,List.append_nil]
    rfl

end InlineSql
