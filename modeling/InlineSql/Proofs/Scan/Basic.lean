import InlineSql.Proofs.Spelling
import InlineSql.Flavor
import InlineSql.Text.Blank

namespace InlineSql

structure Quotation where
  naming : Bool
  mark : Char
  backslash : Bool
deriving DecidableEq

inductive Comment where
  | line
  | block
deriving DecidableEq

inductive Segment where
  | outside (text : List Char)
  | quoted (q : Quotation) (content : List Char)
  | comment (kind : Comment) (content : List Char)
deriving DecidableEq

-- Where a scan stands; the characters since the segment began are kept with the
-- latest first. A mark inside a quotation closes it unless the next character
-- is the same mark again.
inductive Mode where
  | outside (recent : List Char)
  | inside (q : Quotation) (content : List Char)
  | escaping (q : Quotation) (content : List Char)
  | closing (q : Quotation) (content : List Char)
  | comment (kind : Comment) (content : List Char)
deriving DecidableEq

structure Scan where
  segments : List Segment
  mode : Mode
deriving DecidableEq

-- Whether the latest word is the letter E alone, which asks PostgreSQL for an
-- escape string. At the end of a longer word the letter asks for nothing.
def endsInEscapeMark : List Char → Bool
  | c :: before => (c == 'E' || c == 'e') && !before.head?.any isWordChar
  | [] => false

namespace Flavor

-- What opens after the characters of the current stretch. Apostrophes hold strings
-- in every family and the name mark holds names; MySQL reads the double quote
-- as a string and SQLite the backtick as a name. Bracketed names and dollar quotes
-- are left out.
def opens (f : Flavor) (recent : List Char) (c : Char) : Option Quotation :=
  if c = f.nameMark then some ⟨true,c,false⟩
  else match f with
    | .mysql => if c = '\'' ∨ c = '"' then some ⟨false,c,true⟩ else none
    | .postgresql => if c = '\'' then some ⟨false,c,endsInEscapeMark recent⟩ else none
    | .sqlite => if c = '\'' then some ⟨false,c,false⟩ else if c = '\x60' then some ⟨true,c,false⟩ else none

def remarks (f : Flavor) (recent : List Char) (c : Char) : Option Comment :=
  if c = '*' ∧ recent.head? = some '/' then some .block
  else if f = .mysql then
    if c = '#' ∨ (Text.isBlank c ∧ recent.take 2 = ['-','-']) then some .line else none
  else if c = '-' ∧ recent.head? = some '-' then some .line
  else none

end Flavor

namespace Comment

def ends (kind : Comment) (content : List Char) (c : Char) : Bool :=
  match kind with
  | .line => c == '\n'
  | .block => c == '/' && content.head? == some '*'

end Comment

def Quotation.read (q : Quotation) (content : List Char) (c : Char) : Mode :=
  if c = q.mark then .closing q content
  else if c = '\\' ∧ q.backslash then .escaping q (c :: content)
  else .inside q (c :: content)

namespace Scan

def start : Scan := ⟨[],.outside []⟩

def outside (f : Flavor) (segments : List Segment) (recent : List Char) (c : Char) : Scan :=
  match f.opens recent c with
  | some q => ⟨.outside recent.reverse :: segments,.inside q []⟩
  | none => match f.remarks recent c with
    | some kind => ⟨.outside recent.reverse :: segments,.comment kind [c]⟩
    | none => ⟨segments,.outside (c :: recent)⟩

def step (f : Flavor) (s : Scan) (c : Char) : Scan :=
  match s.mode with
  | .outside recent => outside f s.segments recent c
  | .inside q content => {s with mode:=q.read content c}
  | .escaping q content => {s with mode:=.inside q (c :: content)}
  | .closing q content =>
    if c = q.mark then {s with mode:=.inside q (c :: c :: content)}
    else outside f (.quoted q content.reverse :: s.segments) [] c
  | .comment kind content =>
    if kind.ends content c then ⟨.comment kind (c :: content).reverse :: s.segments,.outside []⟩
    else {s with mode:=.comment kind (c :: content)}

section
variable (f : Flavor) (segments : List Segment) (q : Quotation) (content : List Char) (c : Char)

theorem step_outside (recent : List Char) :
    step f ⟨segments,.outside recent⟩ c = outside f segments recent c := rfl

theorem step_inside : step f ⟨segments,.inside q content⟩ c = ⟨segments,q.read content c⟩ := rfl

theorem step_escaping :
    step f ⟨segments,.escaping q content⟩ c = ⟨segments,.inside q (c :: content)⟩ := rfl

theorem step_doubled :
    step f ⟨segments,.closing q content⟩ q.mark =
      ⟨segments,.inside q (q.mark :: q.mark :: content)⟩ := if_pos rfl

variable {q c} in
theorem step_closed (other : c ≠ q.mark) :
    step f ⟨segments,.closing q content⟩ c =
      outside f (.quoted q content.reverse :: segments) [] c := if_neg other

end

def along (f : Flavor) (s : Scan) (text : List Char) : Scan := text.foldl (step f) s

def finish (s : Scan) : Option (List Segment) :=
  match s.mode with
  | .outside recent => some (.outside recent.reverse :: s.segments).reverse
  | .closing q content => some (.quoted q content.reverse :: s.segments).reverse
  | .comment .line content => some (.comment .line content.reverse :: s.segments).reverse
  | _ => none

end Scan

def Flavor.divide (f : Flavor) (text : String) : Option (List Segment) :=
  (Scan.start.along f text.toList).finish

def Segment.isComment : Segment → Bool
  | .comment _ _ => true
  | _ => false

def Segment.hidden : Segment → Segment
  | .quoted q _ => .quoted q []
  | segment => segment

def Mode.hidden : Mode → Mode
  | .inside q _ => .inside q []
  | .escaping q _ => .escaping q []
  | .closing q _ => .closing q []
  | mode => mode

@[simp] theorem Segment.hidden_hidden (s : Segment) : s.hidden.hidden = s.hidden := by
  cases s <;> rfl

@[simp] theorem Mode.hidden_hidden (m : Mode) : m.hidden.hidden = m.hidden := by cases m <;> rfl

@[simp] theorem Mode.hidden_outside (recent : List Char) :
    (Mode.outside recent).hidden = .outside recent := rfl

@[simp] theorem Mode.hidden_inside (q : Quotation) (content : List Char) :
    (Mode.inside q content).hidden = .inside q [] := rfl

@[simp] theorem Mode.hidden_closing (q : Quotation) (content : List Char) :
    (Mode.closing q content).hidden = .closing q [] := rfl

namespace Scan

def hidden (s : Scan) : Scan := ⟨s.segments.map Segment.hidden,s.mode.hidden⟩

@[simp] theorem segments_hidden (s : Scan) :
    s.hidden.segments = s.segments.map Segment.hidden := rfl

@[simp] theorem mode_hidden (s : Scan) : s.hidden.mode = s.mode.hidden := rfl

theorem along_append (f : Flavor) (s : Scan) (x y : List Char) :
    s.along f (x ++ y) = (s.along f x).along f y := List.foldl_append

theorem outside_hidden (f : Flavor) (segments : List Segment) (recent : List Char) (c : Char) :
    (outside f segments recent c).hidden =
      (outside f (segments.map Segment.hidden) recent c).hidden := by
  unfold outside
  cases f.opens recent c with
  | some q => simp [hidden]
  | none => cases f.remarks recent c <;> simp [hidden]

theorem read_hidden (q : Quotation) (content : List Char) (c : Char) :
    (q.read content c).hidden = (q.read [] c).hidden := by
  unfold Quotation.read
  split
  · rfl
  · split <;> rfl

theorem step_hidden (f : Flavor) (s : Scan) (c : Char) :
    (s.step f c).hidden = (s.hidden.step f c).hidden := by
  obtain ⟨segments,mode⟩ := s
  cases mode with
  | outside recent => exact outside_hidden f segments recent c
  | inside q content => simp [step_inside,hidden,read_hidden q content c]
  | escaping q content => simp [step,hidden,Mode.hidden]
  | closing q content =>
    by_cases mark : c = q.mark
    · simp [step,hidden,mark]
    · change _ = (step f ⟨segments.map Segment.hidden,.closing q []⟩ c).hidden
      rw [step_closed f segments content mark,step_closed f _ [] mark]
      exact outside_hidden f (.quoted q content.reverse :: segments) [] c
  | comment kind content =>
    by_cases ended : kind.ends content c <;> simp [step,hidden,Mode.hidden,ended]

theorem along_hidden (f : Flavor) (s : Scan) (text : List Char) :
    (s.along f text).hidden = (s.hidden.along f text).hidden := by
  induction text generalizing s with
  | nil => simp [along,hidden]
  | cons c rest ih =>
    have first := ih (s.step f c)
    have second := ih (s.hidden.step f c)
    rw [step_hidden,← second] at first
    exact first

end Scan
end InlineSql
