import InlineSql.Proofs.Scan.Brackets
import InlineSql.Proofs.Scan.Shown
import InlineSql.Proofs.Value.Leaves

namespace InlineSql
open Scan

def Flavor.stringQuotation (f : Flavor) : Quotation := ⟨false,'\'',f != .sqlite⟩

theorem escape_keeps (f : Flavor) (s : String) :
    Keeps f f.stringQuotation (f.escaper.escape s).toList := by
  cases f with
  | mysql => exact Text.toList_backslash s ▸ keeps_backslash .mysql rfl rfl s.toList
  | postgresql => exact Text.toList_backslash s ▸ keeps_backslash .postgresql rfl rfl s.toList
  | sqlite => exact Text.toList_doubled s ▸ keeps_twice .sqlite rfl s.toList

def Flavor.Marked (f : Flavor) (m : Mode) : Prop := ∃ recent, m = .outside recent ∧
  f.opens recent f.stringQuotation.mark = some f.stringQuotation

theorem alike_mark (f : Flavor) :
    Alike f Mode.Fresh f.dialect.stringMark.toList f.dialect.stringMark.toList f.Marked := by
  refine Alike.refl fun r fresh plain => ?_
  obtain ⟨segments,mode⟩ := r
  obtain ⟨recent,rfl⟩ := fresh.outside
  cases f with
  | mysql => exact ⟨⟨recent,rfl,rfl⟩,plain⟩
  | sqlite => exact ⟨⟨recent,rfl,rfl⟩,plain⟩
  | postgresql =>
    have escape : endsInEscapeMark ('E' :: recent) = true := by
      simpa [endsInEscapeMark] using fresh.2.2
    have calm : isCalm 'E' = true := by decide
    have read : Scan.along .postgresql ⟨segments,.outside recent⟩
        Flavor.postgresql.dialect.stringMark.toList = ⟨segments,.outside ('E' :: recent)⟩ :=
      outside_calm .postgresql segments calm fresh.ready
    rw [read]
    exact ⟨⟨'E' :: recent,rfl,by
      simp [Flavor.opens,Flavor.nameMark,Flavor.stringQuotation,escape]⟩,plain⟩

theorem stringQuotation_loud (f : Flavor) : isCalm f.stringQuotation.mark = false := rfl

theorem alike_string (f : Flavor) (s t : String) :
    Alike f Mode.Fresh (f.dialect.stringLiteral f.escaper s).toList
      (f.dialect.stringLiteral f.escaper t).toList Mode.Ready := by
  rw [toList_stringLiteral,toList_stringLiteral]
  exact (alike_mark f).append (Alike.quoted (q:=f.stringQuotation) (stringQuotation_loud f)
    (fun _ marked => marked) (escape_keeps f s) (escape_keeps f t))

theorem alike_name (f : Flavor) (a b : String) :
    Alike f Mode.Fresh (f.quote a).toList (f.quote b).toList Mode.Ready := by
  have opens : ∀ m, m.Fresh → ∃ recent, m = Mode.outside recent ∧
      f.opens recent f.nameMark = some ⟨true,f.nameMark,false⟩ := by
    intro m fresh
    obtain ⟨recent,rfl⟩ := fresh.outside
    exact ⟨recent,rfl,if_pos rfl⟩
  have loud : isCalm f.nameMark = false := by cases f <;> decide
  have keeps (s : String) : Keeps f ⟨true,f.nameMark,false⟩
      (s.toList.flatMap (Text.twice f.nameMark)) := keeps_twice f rfl s.toList
  rw [Flavor.quote,Flavor.quote,Text.toList_quoteName,Text.toList_quoteName]
  exact Alike.quoted (q:=⟨true,f.nameMark,false⟩) loud opens (keeps a) (keeps b)

-- With no letter E in front of it, an apostrophe opens a string in which only MySQL reads
-- backslashes.
theorem apostrophe_opens (f : Flavor) (m : Mode) (fresh : m.Fresh) : ∃ recent, m = .outside recent ∧
    f.opens recent '\'' = some ⟨false,'\'',f = .mysql⟩ := by
  obtain ⟨recent,rfl⟩ := fresh.outside
  refine ⟨recent,rfl,?_⟩
  cases f with
  | mysql => rfl
  | sqlite => rfl
  | postgresql => simp [Flavor.opens,Flavor.nameMark,fresh.unmarked]

section
variable (f : Flavor)

theorem shows_int (n : Int) : ∃ seen, seen.all isFlat = true ∧
    Shows f Mode.Fresh (toString n).toList seen Mode.Ready := by
  have words : (Nat.toDigits 10 n.natAbs).all isWordChar = true := by
    rw [List.all_eq_true]
    exact fun c member => isWordChar_of_isDigit (Number.digits_ten member)
  have number := Shows.signed (f:=f) (n < 0) Nat.toDigits_ne_nil (calm_words words)
  refine ⟨_,flat_signed (n < 0) (flat_words words),?_⟩
  rw [Number.toList_int]
  simpa using number

theorem alike_int (n : Int) :
    Alike f Mode.Fresh (toString n).toList (toString n).toList Mode.Ready := by
  obtain ⟨_,_,shows⟩ := shows_int f n
  exact shows.alike

theorem shows_float (x : Float) : ∃ seen, seen.all isFlat = true ∧
    Shows f Mode.Fresh (Dialect.floatLiteral x).toList seen Mode.Ready := by
  unfold Dialect.floatLiteral
  split
  · obtain ⟨negative,body,filled,chars,text⟩ := Number.toList_plain x
    have calm : body.all isCalm = true := by
      rw [List.all_eq_true]
      intro c member
      rcases chars c member with word | rfl
      · simp [isCalm,word]
      · decide
    have flat : body.all isFlat = true := by
      rw [List.all_eq_true]
      intro c member
      rcases chars c member with word | rfl
      · exact flat_of_word word
      · decide
    rw [text]
    exact ⟨_,flat_signed negative flat,.signed negative filled calm⟩
  · exact ⟨"null".toList,by decide,(Shows.calm).before_of fun _ => Mode.Fresh.ready⟩

theorem shows_string (s : String) : ∃ seen, seen.all isFlat = true ∧
    Shows f Mode.Fresh (f.dialect.stringLiteral f.escaper s).toList seen Mode.Ready := by
  have calm : f.dialect.stringMark.toList.all isCalm = true := by cases f <;> decide
  have flat : f.dialect.stringMark.toList.all isFlat = true := by cases f <;> decide
  have mark : Shows f Mode.Fresh f.dialect.stringMark.toList f.dialect.stringMark.toList f.Marked :=
    .plain (alike_mark f) (fun _ => Mode.Fresh.ready) calm
  have quoted := mark.append (Shows.quoted (q:=f.stringQuotation) (stringQuotation_loud f)
    (fun _ marked => marked) (escape_keeps f s))
  rw [toList_stringLiteral]
  exact ⟨_,by rw [List.append_nil]; exact flat,quoted⟩

theorem shows_timestamp (t : Timestamp) :
    Shows f Mode.Fresh ("'" ++ t.text ++ "'").toList [] Mode.Ready := by
  have loud : isCalm '\'' = false := by decide
  have keeps : Keeps f ⟨false,'\'',f = .mysql⟩ t.text.toList := keeps_all_plain f t.text_inner
  simpa using Shows.quoted (q:=⟨false,'\'',f = .mysql⟩) loud (apostrophe_opens f) keeps

theorem shows_leaf {v : Value} (leaf : v.isList = false) (written : v.isRaw = false) :
    ∃ seen, seen.all isFlat = true ∧
      Shows f Mode.Fresh (f.dialect.encode f.escaper v).toList seen Mode.Ready := by
  cases v with
  | null =>
    rw [Dialect.encode]
    exact ⟨"null".toList,by decide,(Shows.calm).before_of fun _ => Mode.Fresh.ready⟩
  | bool b =>
    have calm : (f.dialect.boolLiteral b).toList.all isCalm = true := by
      cases f <;> cases b <;> decide
    have flat : (f.dialect.boolLiteral b).toList.all isFlat = true := by
      cases f <;> cases b <;> decide
    rw [Dialect.encode]
    exact ⟨_,flat,(Shows.calm calm).before_of fun _ => Mode.Fresh.ready⟩
  | int n =>
    rw [Dialect.encode,Number.toList_int64]
    exact shows_int f n.toInt
  | nat n =>
    rw [Dialect.encode,Number.toList_uint64]
    exact shows_int f n.toNat
  | float x =>
    rw [Dialect.encode]
    exact shows_float f x
  | text s =>
    rw [Dialect.encode]
    exact shows_string f s
  | timestamp t =>
    rw [Dialect.encode]
    exact ⟨[],rfl,shows_timestamp f t⟩
  | list items => cases leaf
  | raw sql => cases written

theorem alike_leaf {v : Value} (leaf : v.isList = false) (written : v.isRaw = false) :
    Alike f Mode.Fresh (f.dialect.encode f.escaper v).toList (f.dialect.encode f.escaper v).toList
      Mode.Ready := by
  obtain ⟨_,_,shows⟩ := shows_leaf f leaf written
  exact shows.alike

theorem shows_list {items : List Value} (each : ∀ v ∈ items, ∃ seen, Closed seen ∧
      Shows f Mode.Fresh (f.dialect.encode f.escaper v).toList seen Mode.Ready) :
    ∃ parts, parts.length = items.length ∧ (∀ part ∈ parts, Closed part) ∧
      Shows f Mode.Ready (f.dialect.listLiteral f.escaper items).toList (inBrackets parts)
        Mode.Ready := by
  have opening : Shows f Mode.Ready ['('] ['('] Mode.Fresh := .fresh
  have comma : Shows f Mode.Ready [','] [','] Mode.Fresh := .fresh
  have closing : Shows f Mode.Ready [')'] [')'] Mode.Ready := .calm
  obtain ⟨parts,length,closed,inside⟩ := Shows.intercalate each comma fun _ => Mode.Fresh.ready
  rw [toList_listLiteral]
  exact ⟨parts,length,closed,(opening.append inside).append closing⟩

theorem shows_encode {v : Value} (written : v.leaves (fun v => !v.isRaw) = true) :
    ∃ seen, Closed seen ∧
      Shows f Mode.Fresh (f.dialect.encode f.escaper v).toList seen Mode.Ready := by
  induction v using Value.nesting with
  | leaf v leaf =>
    rw [Value.leaves_leaf _ leaf] at written
    obtain ⟨seen,flat,shows⟩ := shows_leaf f leaf (by simpa using written)
    exact ⟨seen,closed_flat flat,shows⟩
  | list items ih =>
    rw [Value.leaves_list,List.all_eq_true] at written
    obtain ⟨parts,_,closed,shows⟩ := shows_list f fun v member => ih v member (written v member)
    rw [Dialect.encode_list]
    exact ⟨_,closed_inBrackets closed,shows.before_of fun _ => Mode.Fresh.ready⟩

end

theorem forall₂_of_map {α β γ : Type} {related : α → β → Prop} {g : α → γ} {h : β → γ}
    {as : List α} {bs : List β} (same : as.map g = bs.map h)
    (each : ∀ a ∈ as, ∀ b, g a = h b → related a b) : List.Forall₂ related as bs := by
  induction as generalizing bs with
  | nil =>
    cases bs with
    | nil => exact .nil
    | cons b later => cases same
  | cons a rest ih =>
    cases bs with
    | nil => cases same
    | cons b later =>
      obtain ⟨first,others⟩ := List.cons.inj same
      exact .cons (each a (by simp) b first)
        (ih others fun x member => each x (List.mem_cons_of_mem _ member))

theorem alike_list {f : Flavor} {as bs : List Value}
    (items : List.Forall₂ (fun a b => Alike f Mode.Fresh (f.dialect.encode f.escaper a).toList
      (f.dialect.encode f.escaper b).toList Mode.Ready) as bs) :
    Alike f Mode.Ready (f.dialect.listLiteral f.escaper as).toList
      (f.dialect.listLiteral f.escaper bs).toList Mode.Ready := by
  rw [toList_listLiteral,toList_listLiteral]
  have opening : Alike f Mode.Ready ['('] ['('] Mode.Fresh := .fresh
  have comma : Alike f Mode.Ready [','] [','] Mode.Fresh := .fresh
  have closing : Alike f Mode.Ready [')'] [')'] Mode.Ready := .calm
  have inside := Alike.intercalate items comma fun _ => Mode.Fresh.ready
  exact (opening.append inside).append closing

theorem alike_encode (f : Flavor) {a b : Value} (written : a.leaves (fun v => !v.isRaw) = true)
    (same : a.masked = b.masked) :
    Alike f Mode.Fresh (f.dialect.encode f.escaper a).toList (f.dialect.encode f.escaper b).toList
      Mode.Ready := by
  induction a using Value.nesting generalizing b with
  | leaf a leaf =>
    rw [Value.leaves_leaf _ leaf] at written
    rcases Value.masked_leaf leaf same with ⟨s,t,rfl,rfl⟩ | rfl
    · rw [Dialect.encode,Dialect.encode]
      exact alike_string f s t
    · exact alike_leaf f leaf (by simpa using written)
  | list items ih =>
    obtain ⟨others,rfl,members⟩ := Value.masked_items same
    rw [Value.leaves_list,List.all_eq_true] at written
    rw [Dialect.encode_list,Dialect.encode_list]
    have each := forall₂_of_map members fun a member b same => ih a member (written a member) same
    exact (alike_list each).before_of fun _ => Mode.Fresh.ready

end InlineSql
