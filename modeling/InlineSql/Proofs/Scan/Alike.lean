import InlineSql.Proofs.Scan.Basic
import InlineSql.Text.Escape
import Mathlib.Data.List.Forall2

namespace InlineSql

def isCalm (c : Char) : Bool :=
  isWordChar c || [' ','.',',','(',')','*','<','>','=','!',';'].contains c

theorem ne_of_calm {c d : Char} (calm : isCalm c = true) (loud : isCalm d = false) : c ≠ d := by
  rintro rfl
  rw [calm] at loud
  cases loud

theorem calm_words {text : List Char} (words : text.all isWordChar = true) :
    text.all isCalm = true := by
  rw [List.all_eq_true] at words ⊢
  intro c member
  simp [isCalm,words c member]

namespace Mode

def Ready : Mode → Prop
  | .outside recent => recent.head? ≠ some '-' ∧ recent.head? ≠ some '/'
  | .closing q _ => isCalm q.mark = false
  | _ => False

def Fresh : Mode → Prop
  | .outside recent =>
    recent.head? ≠ some '-' ∧ recent.head? ≠ some '/' ∧ recent.head?.any isWordChar = false
  | _ => False

theorem Fresh.ready {m : Mode} (fresh : m.Fresh) : m.Ready := by
  cases m with
  | outside recent => exact ⟨fresh.1,fresh.2.1⟩
  | _ => cases fresh

theorem Fresh.outside {m : Mode} (fresh : m.Fresh) : ∃ recent, m = .outside recent := by
  cases m with
  | outside recent => exact ⟨recent,rfl⟩
  | _ => cases fresh

-- A letter that asks for an escape string would stand inside a word.
theorem Fresh.unmarked {recent : List Char} (fresh : (Mode.outside recent).Fresh) :
    endsInEscapeMark recent = false := by
  cases recent with
  | nil => rfl
  | cons c before =>
    have apart : isWordChar c = false := by simpa using fresh.2.2
    have upper : c ≠ 'E' := by rintro rfl; revert apart; decide
    have lower : c ≠ 'e' := by rintro rfl; revert apart; decide
    simp [endsInEscapeMark,upper,lower]

end Mode

namespace Scan

theorem opens_calm (f : Flavor) (recent : List Char) {c : Char} (calm : isCalm c = true) :
    f.opens recent c = none := by
  have apostrophe : c ≠ '\'' := ne_of_calm calm (by decide)
  have quote : c ≠ '"' := ne_of_calm calm (by decide)
  have backtick : c ≠ '\x60' := ne_of_calm calm (by decide)
  cases f <;> simp [Flavor.opens,Flavor.nameMark,apostrophe,quote,backtick]

theorem remarks_calm (f : Flavor) {recent : List Char} {c : Char} (calm : isCalm c = true)
    (ready : (Mode.outside recent).Ready) : f.remarks recent c = none := by
  have dash : c ≠ '-' := ne_of_calm calm (by decide)
  have hash : c ≠ '#' := ne_of_calm calm (by decide)
  have dashes : recent.take 2 ≠ ['-','-'] := by
    intro both
    apply ready.1
    cases recent with
    | nil => cases both
    | cons d rest => simp at both; simp [both.1]
  simp [Flavor.remarks,ready.2,dash,hash,dashes]

theorem outside_calm (f : Flavor) (segments : List Segment) {recent : List Char} {c : Char}
    (calm : isCalm c = true) (ready : (Mode.outside recent).Ready) :
    outside f segments recent c = ⟨segments,.outside (c :: recent)⟩ := by
  rw [outside,opens_calm f recent calm]
  simp only [remarks_calm f calm ready]

def Unremarked (s : Scan) : Prop := ∀ segment ∈ s.segments, segment.isComment = false

theorem Unremarked.begin {segments : List Segment} {mode : Mode} {segment : Segment}
    (plain : Unremarked ⟨segments,mode⟩) (kind : segment.isComment = false) (next : Mode) :
    Unremarked ⟨segment :: segments,next⟩ := by
  intro other member
  rcases List.mem_cons.mp member with rfl | old
  · exact kind
  · exact plain other old

theorem step_calm (f : Flavor) {s : Scan} {c : Char} (calm : isCalm c = true)
    (ready : s.mode.Ready) (plain : s.Unremarked) :
    (∃ recent, (s.step f c).mode = .outside (c :: recent)) ∧ (s.step f c).Unremarked := by
  obtain ⟨segments,mode⟩ := s
  cases mode with
  | outside recent =>
    rw [step_outside,outside_calm f segments calm ready]
    exact ⟨⟨recent,rfl⟩,plain⟩
  | closing q content =>
    have begun : (Mode.outside []).Ready := by simp [Mode.Ready]
    rw [step_closed f segments content (ne_of_calm calm ready),outside_calm f _ calm begun]
    exact ⟨⟨[],rfl⟩,plain.begin rfl _⟩
  | _ => cases ready

theorem calm_ready {c : Char} (calm : isCalm c = true) (recent : List Char) :
    (Mode.outside (c :: recent)).Ready := by
  have dash : c ≠ '-' := ne_of_calm calm (by decide)
  have slash : c ≠ '/' := ne_of_calm calm (by decide)
  simp [Mode.Ready,dash,slash]

theorem along_ready (f : Flavor) {s : Scan} {text : List Char} (calm : text.all isCalm = true)
    (ready : s.mode.Ready) (plain : s.Unremarked) :
    (s.along f text).mode.Ready ∧ (s.along f text).Unremarked := by
  induction text generalizing s with
  | nil => exact ⟨ready,plain⟩
  | cons c rest ih =>
    simp only [List.all_cons,Bool.and_eq_true] at calm
    obtain ⟨first,others⟩ := calm
    obtain ⟨⟨recent,mode⟩,next⟩ := step_calm f first ready plain
    have behind : (s.step f c).mode.Ready := by
      rw [mode]
      exact calm_ready first recent
    exact ih others behind next

theorem along_fresh (f : Flavor) {s : Scan} {text : List Char} (calm : text.all isCalm = true)
    (ends : text.getLast?.any (fun c => !isWordChar c) = true) (ready : s.mode.Ready)
    (plain : s.Unremarked) : (s.along f text).mode.Fresh ∧ (s.along f text).Unremarked := by
  rcases List.eq_nil_or_concat text with rfl | ⟨before,c,rfl⟩
  · cases ends
  · simp only [List.concat_eq_append,List.all_append,Bool.and_eq_true,List.all_cons,List.all_nil,
      and_true] at calm
    simp only [List.concat_eq_append,List.getLast?_append,List.getLast?_singleton,Option.some_or,
      Option.any_some,Bool.not_eq_true'] at ends
    obtain ⟨whole,last⟩ := calm
    obtain ⟨here,kept⟩ := along_ready f whole ready plain
    obtain ⟨⟨recent,mode⟩,next⟩ := step_calm f last here kept
    have fresh : ((s.along f before).step f c).mode.Fresh := by
      obtain ⟨dash,slash⟩ := calm_ready last recent
      rw [mode]
      exact ⟨dash,slash,ends⟩
    rw [List.concat_eq_append,along_append]
    exact ⟨fresh,next⟩

theorem along_sign (f : Flavor) (segments : List Segment) {recent : List Char} {c : Char}
    (calm : isCalm c = true) (fresh : (Mode.outside recent).Fresh) :
    Scan.along f ⟨segments,.outside recent⟩ ['-',c] = ⟨segments,.outside (c :: '-' :: recent)⟩ := by
  have dash : c ≠ '-' := ne_of_calm calm (by decide)
  have hash : c ≠ '#' := ne_of_calm calm (by decide)
  have sign : outside f segments recent '-' = ⟨segments,.outside ('-' :: recent)⟩ := by
    cases f <;> simp [outside,Flavor.opens,Flavor.remarks,Flavor.nameMark,fresh.1,Text.isBlank]
  have single : recent.take 1 ≠ ['-'] := by
    intro before
    apply fresh.1
    cases recent with
    | nil => cases before
    | cons d rest => simpa using before
  have second : outside f segments ('-' :: recent) c =
      ⟨segments,.outside (c :: '-' :: recent)⟩ := by
    rw [outside,opens_calm f _ calm]
    simp [Flavor.remarks,dash,hash,single]
  simp only [along,List.foldl_cons,List.foldl_nil,step_outside,sign,second]

theorem along_signed (f : Flavor) {s : Scan} {c : Char} {rest : List Char}
    (calm : (c :: rest).all isCalm = true) (fresh : s.mode.Fresh) (plain : s.Unremarked) :
    (s.along f ('-' :: c :: rest)).mode.Ready ∧ (s.along f ('-' :: c :: rest)).Unremarked := by
  obtain ⟨segments,mode⟩ := s
  obtain ⟨recent,rfl⟩ := fresh.outside
  simp only [List.all_cons,Bool.and_eq_true] at calm
  obtain ⟨first,others⟩ := calm
  have after : Scan.along f ⟨segments,.outside recent⟩ ('-' :: c :: rest) =
      Scan.along f ⟨segments,.outside (c :: '-' :: recent)⟩ rest := by
    rw [← along_sign f segments first fresh,← along_append]
    rfl
  rw [after]
  exact along_ready f others (calm_ready first _) plain

def Keeps (f : Flavor) (q : Quotation) (body : List Char) : Prop :=
  ∀ segments content, ∃ kept,
    Scan.along f ⟨segments,.inside q content⟩ body = ⟨segments,.inside q kept⟩

theorem keeps_nil (f : Flavor) (q : Quotation) : Keeps f q [] := fun _ content => ⟨content,rfl⟩

theorem Keeps.append {f : Flavor} {q : Quotation} {x y : List Char} (first : Keeps f q x)
    (second : Keeps f q y) : Keeps f q (x ++ y) := by
  intro segments content
  obtain ⟨middle,left⟩ := first segments content
  obtain ⟨kept,right⟩ := second segments middle
  exact ⟨kept,by rw [along_append,left,right]⟩

theorem keeps_flatMap {f : Flavor} {q : Quotation} {spell : Char → List Char}
    (each : ∀ c, Keeps f q (spell c)) (s : List Char) : Keeps f q (s.flatMap spell) := by
  induction s with
  | nil => exact keeps_nil f q
  | cons c rest ih => exact (each c).append ih

theorem keeps_plain (f : Flavor) {q : Quotation} {c : Char} (inner : c ≠ q.mark)
    (kept : ¬ (c = '\\' ∧ q.backslash)) : Keeps f q [c] := by
  intro segments content
  have read : q.read content c = .inside q (c :: content) := by
    rw [Quotation.read,if_neg inner,if_neg kept]
  exact ⟨c :: content,by simp only [along,List.foldl_cons,List.foldl_nil,step_inside,read]⟩

theorem keeps_all_plain (f : Flavor) {q : Quotation} {body : List Char}
    (plain : ∀ c ∈ body, c ≠ q.mark ∧ c ≠ '\\') : Keeps f q body := by
  induction body with
  | nil => exact keeps_nil f q
  | cons c rest ih =>
    obtain ⟨inner,escape⟩ := plain c (by simp)
    have head : Keeps f q [c] := keeps_plain f inner (fun both => escape both.1)
    exact head.append (ih fun d member => plain d (List.mem_cons_of_mem _ member))

theorem keeps_doubled (f : Flavor) (q : Quotation) : Keeps f q [q.mark,q.mark] := by
  intro segments content
  have read : q.read content q.mark = .closing q content := if_pos rfl
  refine ⟨q.mark :: q.mark :: content,?_⟩
  simp only [along,List.foldl_cons,List.foldl_nil,step_inside,read,step_doubled]

theorem keeps_escaped (f : Flavor) {q : Quotation} (escapes : q.backslash = true)
    (mark : q.mark ≠ '\\') (c : Char) : Keeps f q ['\\',c] := by
  intro segments content
  have read : q.read content '\\' = .escaping q ('\\' :: content) := by
    rw [Quotation.read,if_neg mark.symm,if_pos ⟨rfl,escapes⟩]
  refine ⟨c :: '\\' :: content,?_⟩
  simp only [along,List.foldl_cons,List.foldl_nil,step_inside,read,step_escaping]

theorem keeps_backslash (f : Flavor) {q : Quotation} (escapes : q.backslash = true)
    (mark : q.mark = '\'') (s : List Char) : Keeps f q (s.flatMap Text.backslashChar) := by
  refine keeps_flatMap (fun c => ?_) s
  unfold Text.backslashChar
  split
  case h_8 c _ _ _ _ apostrophe _ escape =>
    exact keeps_plain f (mark ▸ apostrophe) (fun both => escape both.1)
  all_goals exact keeps_escaped f escapes (by rw [mark]; decide) _

theorem keeps_twice (f : Flavor) {q : Quotation} (plain : q.backslash = false) (s : List Char) :
    Keeps f q (s.flatMap (Text.twice q.mark)) := by
  refine keeps_flatMap (fun c => ?_) s
  unfold Text.twice
  split
  · exact keeps_doubled f q
  · rename_i other
    exact keeps_plain f other (by simp [plain])

theorem along_quoted {f : Flavor} {q : Quotation} {recent body : List Char}
    (segments : List Segment) (opens : f.opens recent q.mark = some q) (keeps : Keeps f q body) :
    ∃ kept, Scan.along f ⟨segments,.outside recent⟩ (q.mark :: body ++ [q.mark]) =
      ⟨.outside recent.reverse :: segments,.closing q kept⟩ := by
  obtain ⟨kept,inside⟩ := keeps (.outside recent.reverse :: segments) []
  have read : q.read kept q.mark = .closing q kept := if_pos rfl
  have begun : Scan.along f ⟨segments,.outside recent⟩ (q.mark :: body) =
      Scan.along f ⟨.outside recent.reverse :: segments,.inside q []⟩ body := by
    simp only [along,List.foldl_cons,step_outside,outside,opens]
  refine ⟨kept,?_⟩
  rw [along_append,begun,inside]
  simp only [along,List.foldl_cons,List.foldl_nil,step_inside,read]

theorem outside_of_hidden {s t : Scan} {recent : List Char} (same : s.hidden = t.hidden)
    (mode : s.mode = .outside recent) : t.mode = .outside recent := by
  have modes : s.mode.hidden = t.mode.hidden := congrArg Scan.mode same
  rw [mode] at modes
  cases here : t.mode with
  | outside other => rw [here] at modes; exact modes.symm
  | _ => rw [here] at modes; cases modes

end Scan

-- Two texts that a scan which cannot see into quotations does not tell apart,
-- wherever it starts in `before`; it is then in `after` and has met no comment.
def Alike (f : Flavor) (before : Mode → Prop) (x y : List Char) (after : Mode → Prop) : Prop :=
  ∀ s t : Scan, s.hidden = t.hidden → before s.mode → s.Unremarked →
    (s.along f x).hidden = (t.along f y).hidden ∧ after (s.along f x).mode ∧ (s.along f x).Unremarked

namespace Alike
open Scan

variable {f : Flavor} {before middle after : Mode → Prop} {w x y u v : List Char}

theorem append (first : Alike f before x y middle) (second : Alike f middle u v after) :
    Alike f before (x ++ u) (y ++ v) after := by
  intro s t same ready plain
  obtain ⟨here,reached,kept⟩ := first s t same ready plain
  rw [along_append,along_append]
  exact second _ _ here reached kept

theorem before_of {earlier : Mode → Prop} (enough : ∀ m, earlier m → before m)
    (alike : Alike f before x y after) : Alike f earlier x y after :=
  fun s t same ready plain => alike s t same (enough _ ready) plain

theorem refl (leads : ∀ s : Scan, before s.mode → s.Unremarked →
    after (s.along f w).mode ∧ (s.along f w).Unremarked) : Alike f before w w after := by
  intro s t same ready plain
  exact ⟨by rw [along_hidden f s,along_hidden f t,same],leads s ready plain⟩

theorem nil (enough : ∀ m, before m → after m) : Alike f before [] [] after :=
  refl fun s ready plain => ⟨enough s.mode ready,plain⟩

theorem calm (all : w.all isCalm = true := by decide) : Alike f Mode.Ready w w Mode.Ready :=
  refl fun _ => along_ready f all

theorem fresh (all : w.all isCalm = true := by decide)
    (ends : w.getLast?.any (fun c => !isWordChar c) = true := by decide) :
    Alike f Mode.Ready w w Mode.Fresh :=
  refl fun _ => along_fresh f all ends

theorem signed (negative : Bool) (filled : w ≠ []) (all : w.all isCalm = true) :
    Alike f Mode.Fresh ((if negative then ['-'] else []) ++ w)
      ((if negative then ['-'] else []) ++ w) Mode.Ready := by
  cases w with
  | nil => exact absurd rfl filled
  | cons c rest => cases negative with
    | false => exact (calm all).before_of fun _ => Mode.Fresh.ready
    | true => exact refl fun _ => along_signed f all

theorem quoted {q : Quotation} (loud : isCalm q.mark = false)
    (opening : ∀ m, before m → ∃ recent, m = .outside recent ∧ f.opens recent q.mark = some q)
    (left : Keeps f q x) (right : Keeps f q y) :
    Alike f before (q.mark :: x ++ [q.mark]) (q.mark :: y ++ [q.mark]) Mode.Ready := by
  rintro ⟨segments,mode⟩ t same ready plain
  obtain ⟨recent,rfl,opens⟩ := opening _ ready
  have other := outside_of_hidden same rfl
  obtain ⟨others,_⟩ := t
  cases other
  have hidden : segments.map Segment.hidden = others.map Segment.hidden :=
    congrArg Scan.segments same
  obtain ⟨_,here⟩ := along_quoted segments opens left
  obtain ⟨_,there⟩ := along_quoted others opens right
  rw [here,there]
  exact ⟨by simp [Scan.hidden,hidden],loud,plain.begin rfl _⟩

theorem intercalate {α β : Type} {spell : α → List Char} {write : β → List Char}
    {as : List α} {bs : List β}
    (items : List.Forall₂ (fun a b => Alike f before (spell a) (write b) after) as bs)
    (between : Alike f after w w before) (enough : ∀ m, before m → after m) :
    Alike f before (w.intercalate (as.map spell)) (w.intercalate (bs.map write)) after := by
  induction items with
  | nil => exact nil enough
  | cons first rest ih =>
    cases rest with
    | nil => simpa using first
    | cons second others =>
      simp only [List.map_cons,List.intercalate_cons_cons] at ih ⊢
      exact (first.append between).append ih

end Alike
end InlineSql
