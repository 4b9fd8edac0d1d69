import InlineSql.Proofs.Scan.Alike

namespace InlineSql

def Segment.shown : Segment → List Char
  | .outside text => text
  | _ => []

def Mode.shown : Mode → List Char
  | .outside recent => recent.reverse
  | _ => []

namespace Scan

def shown (s : Scan) : List Char := s.segments.reverse.flatMap Segment.shown ++ s.mode.shown

theorem shown_finish {s : Scan} {recent : List Char} (outside : s.mode = .outside recent) :
    ∃ segments, s.finish = some segments ∧ segments.flatMap Segment.shown = s.shown := by
  refine ⟨_,by rw [finish,outside],?_⟩
  simp [shown,outside,Mode.shown,Segment.shown]

variable (f : Flavor) {s : Scan}

theorem shown_step {c : Char} (calm : isCalm c = true) (ready : s.mode.Ready) :
    (s.step f c).shown = s.shown ++ [c] := by
  obtain ⟨segments,mode⟩ := s
  cases mode with
  | outside recent =>
    rw [step_outside,outside_calm f segments calm ready]
    simp [shown,Mode.shown]
  | closing q content =>
    have begun : (Mode.outside []).Ready := by simp [Mode.Ready]
    rw [step_closed f segments content (ne_of_calm calm ready),outside_calm f _ calm begun]
    simp [shown,Mode.shown,Segment.shown]
  | _ => cases ready

theorem shown_calm {text : List Char} (calm : text.all isCalm = true) (ready : s.mode.Ready)
    (plain : s.Unremarked) : (s.along f text).shown = s.shown ++ text := by
  induction text generalizing s with
  | nil => exact (List.append_nil _).symm
  | cons c rest ih =>
    simp only [List.all_cons,Bool.and_eq_true] at calm
    obtain ⟨first,others⟩ := calm
    obtain ⟨⟨recent,mode⟩,next⟩ := step_calm f first ready plain
    have behind : (s.step f c).mode.Ready := by
      rw [mode]
      exact calm_ready first recent
    have later := ih others behind next
    rw [shown_step f first ready,List.append_assoc] at later
    exact later

theorem shown_signed {c : Char} {rest : List Char} (calm : (c :: rest).all isCalm = true)
    (fresh : s.mode.Fresh) (plain : s.Unremarked) :
    (s.along f ('-' :: c :: rest)).shown = s.shown ++ '-' :: c :: rest := by
  obtain ⟨segments,mode⟩ := s
  obtain ⟨recent,rfl⟩ := fresh.outside
  simp only [List.all_cons,Bool.and_eq_true] at calm
  obtain ⟨first,others⟩ := calm
  have after : Scan.along f ⟨segments,.outside recent⟩ ('-' :: c :: rest) =
      Scan.along f ⟨segments,.outside (c :: '-' :: recent)⟩ rest := by
    rw [← along_sign f segments first fresh,← along_append]
    rfl
  have behind : Unremarked ⟨segments,.outside (c :: '-' :: recent)⟩ := plain
  rw [after,shown_calm f others (calm_ready first _) behind]
  simp [shown,Mode.shown]

theorem shown_quoted {q : Quotation} {recent body : List Char} (outside : s.mode = .outside recent)
    (opens : f.opens recent q.mark = some q) (keeps : Keeps f q body) :
    (s.along f (q.mark :: body ++ [q.mark])).shown = s.shown := by
  obtain ⟨segments,mode⟩ := s
  cases outside
  obtain ⟨kept,closed⟩ := along_quoted segments opens keeps
  rw [closed]
  simp [shown,Mode.shown,Segment.shown]

end Scan

-- A text of which a scan that starts in `before` shows nothing but `v`, wherever that is.
structure Shows (f : Flavor) (before : Mode → Prop) (x v : List Char) (after : Mode → Prop) :
    Prop where
  alike : Alike f before x x after
  shown : ∀ s : Scan, before s.mode → s.Unremarked → (s.along f x).shown = s.shown ++ v

namespace Shows
open Scan

variable {f : Flavor} {before middle after : Mode → Prop} {w x y u v : List Char}

theorem append (first : Shows f before x u middle) (second : Shows f middle y v after) :
    Shows f before (x ++ y) (u ++ v) after := by
  refine ⟨first.alike.append second.alike,fun s ready plain => ?_⟩
  obtain ⟨_,reached,kept⟩ := first.alike s s rfl ready plain
  rw [along_append,second.shown _ reached kept,first.shown s ready plain,List.append_assoc]

theorem before_of {earlier : Mode → Prop} (enough : ∀ m, earlier m → before m)
    (shows : Shows f before x v after) : Shows f earlier x v after :=
  ⟨shows.alike.before_of enough,fun s ready => shows.shown s (enough _ ready)⟩

theorem nil (enough : ∀ m, before m → after m) : Shows f before [] [] after :=
  ⟨.nil enough,fun _ _ _ => (List.append_nil _).symm⟩

theorem plain (alike : Alike f before w w after) (enough : ∀ m, before m → m.Ready)
    (all : w.all isCalm = true) : Shows f before w w after :=
  ⟨alike,fun _ ready => shown_calm f all (enough _ ready)⟩

theorem calm (all : w.all isCalm = true := by decide) : Shows f Mode.Ready w w Mode.Ready :=
  plain (.calm all) (fun _ ready => ready) all

theorem fresh (all : w.all isCalm = true := by decide)
    (ends : w.getLast?.any (fun c => !isWordChar c) = true := by decide) :
    Shows f Mode.Ready w w Mode.Fresh :=
  plain (.fresh all ends) (fun _ ready => ready) all

theorem signed (negative : Bool) (filled : w ≠ []) (all : w.all isCalm = true) :
    Shows f Mode.Fresh ((if negative then ['-'] else []) ++ w)
      ((if negative then ['-'] else []) ++ w) Mode.Ready := by
  refine ⟨.signed negative filled all,fun s fresh plain => ?_⟩
  cases w with
  | nil => exact absurd rfl filled
  | cons c rest => cases negative with
    | false => exact shown_calm f all fresh.ready plain
    | true => exact shown_signed f all fresh plain

theorem quoted {q : Quotation} (loud : isCalm q.mark = false)
    (opening : ∀ m, before m → ∃ recent, m = .outside recent ∧ f.opens recent q.mark = some q)
    (keeps : Keeps f q x) : Shows f before (q.mark :: x ++ [q.mark]) [] Mode.Ready := by
  refine ⟨.quoted loud opening keeps keeps,fun s ready _ => ?_⟩
  obtain ⟨recent,outside,opens⟩ := opening _ ready
  rw [shown_quoted f outside opens keeps,List.append_nil]

theorem intercalate {α : Type} {spell : α → List Char} {fits : List Char → Prop} {items : List α}
    (each : ∀ a ∈ items, ∃ seen, fits seen ∧ Shows f before (spell a) seen after)
    (between : Shows f after w w before) (enough : ∀ m, before m → after m) :
    ∃ parts, parts.length = items.length ∧ (∀ part ∈ parts, fits part) ∧
      Shows f before (w.intercalate (items.map spell)) (w.intercalate parts) after := by
  induction items with
  | nil => exact ⟨[],rfl,by simp,nil enough⟩
  | cons a rest ih =>
    obtain ⟨seen,fit,here⟩ := each a (by simp)
    obtain ⟨parts,length,others,later⟩ := ih fun b member => each b (List.mem_cons_of_mem a member)
    refine ⟨seen :: parts,by simp [length],by simpa using ⟨fit,others⟩,?_⟩
    cases rest with
    | nil =>
      cases List.length_eq_zero_iff.mp length
      simpa using here
    | cons b further =>
      cases parts with
      | nil => cases length
      | cons second tail =>
        simp only [List.map_cons,List.intercalate_cons_cons] at later ⊢
        exact (here.append between).append later

theorem divide {text : String} {seen : List Char}
    (shows : Shows f Mode.Ready text.toList seen Mode.Fresh) :
    ∃ segments, f.divide text = some segments ∧ segments.flatMap Segment.shown = seen := by
  have ready : start.mode.Ready := by simp [start,Mode.Ready]
  have unremarked : start.Unremarked := by simp [start,Unremarked]
  obtain ⟨_,fresh,_⟩ := shows.alike start start rfl ready unremarked
  obtain ⟨recent,outside⟩ := fresh.outside
  obtain ⟨segments,divided,same⟩ := shown_finish outside
  have nothing : start.shown = [] := rfl
  rw [shows.shown start ready unremarked,nothing,List.nil_append] at same
  exact ⟨segments,divided,same⟩

end Shows

end InlineSql
