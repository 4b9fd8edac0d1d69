import InlineSql.Proofs.Literal.Reader

namespace InlineSql

def Begins (test : Char → Bool) (t : List Char) : Prop := t.head?.any test = true

def Leads (words : List (List Char)) (t : List Char) : Prop := ∃ w ∈ words, w <+: t

theorem Begins.meet {test other : Char → Bool} {t : List Char} (left : Begins test t)
    (right : Begins other t) : ∃ c, test c = true ∧ other c = true := by
  cases t with
  | nil => cases left
  | cons c rest => exact ⟨c,left,right⟩

theorem Begins.weaken {test other : Char → Bool} (shown : ∀ c, test c = true → other c = true)
    {t : List Char} (begins : Begins test t) : Begins other t := by
  cases t with
  | nil => cases begins
  | cons c rest => exact shown c begins

theorem Leads.begins {words : List (List Char)} {test : Char → Bool}
    (all : words.all (fun w => w.head?.any test) = true) {t : List Char} (leads : Leads words t) :
    Begins test t := by
  obtain ⟨w,member,rest,rfl⟩ := leads
  have first := List.all_eq_true.mp all w member
  cases w with
  | nil => cases first
  | cons c body => exact first

theorem Leads.more {few many : List (List Char)} (within : few ⊆ many) {t : List Char}
    (leads : Leads few t) : Leads many t := by
  obtain ⟨w,member,before⟩ := leads
  exact ⟨w,within member,before⟩

theorem leads_word {words : List (List Char)} {w : List Char} (member : w ∈ words)
    (rest : List Char) : Leads words (w ++ rest) := ⟨w,member,rest,rfl⟩

theorem Leads.apart {words : List (List Char)} {w : List Char}
    (unlike : words.all (fun v => !v.isPrefixOf w && !w.isPrefixOf v) = true) (rest : List Char) :
    ¬ Leads words (w ++ rest) := by
  rintro ⟨v,member,before⟩
  have both := List.all_eq_true.mp unlike v member
  simp only [Bool.and_eq_true,Bool.not_eq_true',← Bool.not_eq_true,
    List.isPrefixOf_iff_prefix] at both
  obtain ⟨short,long⟩ := both
  rcases List.prefix_or_prefix_of_prefix before (List.prefix_append w rest) with shorter | longer
  · exact short shorter
  · exact long longer

-- A way of writing in which the end of what is written can be seen: text of the kind `tail`
-- behind it is never taken for a part of it.
def Legible {α : Type} (write : α → List Char) (good : α → Prop) (tail : List Char → Prop) : Prop :=
  ∀ a b, good a → good b → ∀ t u, tail t → tail u → write a ++ t = write b ++ u → a = b ∧ t = u

namespace Legible

variable {α β : Type} {write : α → List Char} {spell : β → List Char} {good fine : α → Prop}
variable {nice : β → Prop} {tail ending : List Char → Prop}

theorem weaken (legible : Legible write good tail) (kind : ∀ a, fine a → good a)
    (behind : ∀ t, ending t → tail t) : Legible write fine ending := by
  intro a b left right t u first second same
  exact legible a b (kind a left) (kind b right) t u (behind t first) (behind u second) same

theorem after (w : List Char) (legible : Legible write good tail) :
    Legible (fun a => w ++ write a) good tail := by
  intro a b left right t u first second same
  rw [List.append_assoc,List.append_assoc] at same
  exact legible a b left right t u first second (List.append_cancel_left same)

theorem both (legible : Legible write good tail) (next : Legible spell nice ending)
    (follows : ∀ b t, nice b → ending t → tail (spell b ++ t)) :
    Legible (fun p : α × β => write p.1 ++ spell p.2) (fun p => good p.1 ∧ nice p.2) ending := by
  rintro ⟨a,x⟩ ⟨b,y⟩ ⟨left,latter⟩ ⟨right,other⟩ t u first second same
  simp only [List.append_assoc] at same
  obtain ⟨rfl,rest⟩ := legible a b left right _ _ (follows x t latter first)
    (follows y u other second) same
  obtain ⟨rfl,rfl⟩ := next x y latter other t u first second rest
  exact ⟨rfl,rfl⟩

theorem through (parts : β → α) (legible : Legible write good tail)
    (determined : ∀ x y, parts x = parts y → x = y) :
    Legible (fun x => write (parts x)) (fun x => good (parts x)) tail := by
  intro x y left right t u first second same
  obtain ⟨equal,rest⟩ := legible _ _ left right t u first second same
  exact ⟨determined x y equal,rest⟩

theorem orWord {empty : α → Bool} {word : List Char} (legible : Legible write good tail)
    (single : ∀ a b, empty a = true → empty b = true → a = b)
    (apart : ∀ a t u, good a → empty a = false → tail t → tail u → word ++ t ≠ write a ++ u) :
    Legible (fun a => if empty a then word else write a) good tail := by
  intro a b left right t u first second same
  dsimp only at same
  cases here : empty a with
  | true =>
    cases there : empty b with
    | true =>
      rw [here,there] at same
      exact ⟨single a b here there,List.append_cancel_left same⟩
    | false =>
      rw [here,there] at same
      exact absurd same (apart b t u right there first second)
  | false =>
    cases there : empty b with
    | true =>
      rw [here,there] at same
      exact absurd same.symm (apart a u t left here second first)
    | false =>
      rw [here,there] at same
      exact legible a b left right t u first second same

-- A clause that is left out with nothing to say, and has its own first word otherwise.
theorem clause {empty : α → Bool} {word : List Char} (legible : Legible write good tail)
    (single : ∀ a b, empty a = true → empty b = true → a = b)
    (apart : ∀ t, ¬ tail (word ++ t)) :
    Legible (fun a => if empty a then [] else word ++ write a) good tail := by
  apply (legible.after word).orWord single
  intro a t u _ _ first _ same
  rw [List.nil_append,List.append_assoc] at same
  exact apart _ (same ▸ first)

theorem optional {word : List Char} (legible : Legible write good tail)
    (apart : ∀ t, ¬ tail (word ++ t)) :
    Legible (fun o : Option α => o.elim [] fun a => word ++ write a) (fun o => ∀ a ∈ o, good a)
      tail := by
  intro o p left right t u first second same
  cases o with
  | none =>
    cases p with
    | none => exact ⟨rfl,same⟩
    | some b =>
      simp only [Option.elim_none,Option.elim_some,List.nil_append,List.append_assoc] at same
      exact absurd (same ▸ first) (apart _)
  | some a =>
    cases p with
    | none =>
      simp only [Option.elim_none,Option.elim_some,List.nil_append,List.append_assoc] at same
      exact absurd (same ▸ second) (apart _)
    | some b =>
      obtain ⟨rfl,rest⟩ := legible.after word a b (left a rfl) (right b rfl) t u first second same
      exact ⟨rfl,rest⟩

theorem closed {w : List Char} (legible : Legible write good tail) (closes : ∀ t, tail (w ++ t)) :
    Legible (fun a => write a ++ w) good (fun _ => True) := by
  intro a b left right t u _ _ same
  rw [List.append_assoc,List.append_assoc] at same
  obtain ⟨rfl,rest⟩ := legible a b left right _ _ (closes t) (closes u) same
  exact ⟨rfl,List.append_cancel_left rest⟩

theorem flatMap (item : Legible write good tail) (closing : ∀ t, ending t → tail t)
    (following : ∀ a t, good a → tail (write a ++ t))
    (apart : ∀ a t, good a → ¬ ending (write a ++ t)) :
    Legible (fun l : List α => l.flatMap write) (fun l => ∀ a ∈ l, good a) ending := by
  intro l m left right t u first second same
  have next : ∀ (l : List α) (t : List Char), (∀ a ∈ l, good a) → ending t →
      tail (l.flatMap write ++ t) := by
    intro l t each last
    cases l with
    | nil => exact closing t last
    | cons a rest =>
      rw [List.flatMap_cons,List.append_assoc]
      exact following a _ (each a (by simp))
  dsimp only at same
  induction l generalizing m with
  | nil =>
    cases m with
    | nil => exact ⟨rfl,same⟩
    | cons b later =>
      rw [List.flatMap_nil,List.nil_append,List.flatMap_cons,List.append_assoc] at same
      exact absurd (same ▸ first) (apart b _ (right b (by simp)))
  | cons a rest ih =>
    cases m with
    | nil =>
      rw [List.flatMap_nil,List.nil_append,List.flatMap_cons,List.append_assoc] at same
      exact absurd (same ▸ second) (apart a _ (left a (by simp)))
    | cons b later =>
      have others := fun x member => left x (List.mem_cons_of_mem a member)
      have remaining := fun x member => right x (List.mem_cons_of_mem b member)
      rw [List.flatMap_cons,List.flatMap_cons,List.append_assoc,List.append_assoc] at same
      obtain ⟨rfl,rest⟩ := item a b (left a (by simp)) (right b (by simp)) _ _
        (next _ t others first) (next _ u remaining second) same
      obtain ⟨rfl,rfl⟩ := ih later others remaining rest
      exact ⟨rfl,rfl⟩

theorem intercalate {sep : List Char} (item : Legible write good tail)
    (closing : ∀ t, ending t → tail t) (between : ∀ t, tail (sep ++ t))
    (apart : ∀ t, ¬ ending (sep ++ t)) (filled : ∀ a t, good a → ¬ ending (write a ++ t)) :
    Legible (fun l : List α => sep.intercalate (l.map write)) (fun l => ∀ a ∈ l, good a) ending := by
  have spelled : ∀ (a : α) (rest : List α), sep.intercalate ((a :: rest).map write) =
      write a ++ rest.flatMap (fun b => sep ++ write b) := by
    intro a rest
    induction rest generalizing a with
    | nil => simp
    | cons b later ih =>
      rw [List.map_cons,List.map_cons,List.intercalate_cons_cons,← List.map_cons,ih]
      simp
  have others := (item.after sep).flatMap closing (fun _ t _ => by
    rw [List.append_assoc]; exact between _) (fun _ t _ => by rw [List.append_assoc]; exact apart _)
  have whole := item.both others (fun l t _ last => by
    cases l with
    | nil => exact closing t last
    | cons b later =>
      rw [List.flatMap_cons,List.append_assoc,List.append_assoc]
      exact between _)
  intro l m left right t u first second same
  cases l with
  | nil =>
    cases m with
    | nil => exact ⟨rfl,same⟩
    | cons b later =>
      dsimp only at same
      rw [spelled,List.map_nil,List.intercalate_nil,List.nil_append,List.append_assoc] at same
      exact absurd (same ▸ first) (filled b _ (right b (by simp)))
  | cons a rest =>
    cases m with
    | nil =>
      dsimp only at same
      rw [spelled,List.map_nil,List.intercalate_nil,List.nil_append,List.append_assoc] at same
      exact absurd (same ▸ second) (filled a _ (left a (by simp)))
    | cons b later =>
      dsimp only at same
      rw [spelled,spelled] at same
      obtain ⟨equal,rest⟩ := whole (a,rest) (b,later)
        ⟨left a (by simp),fun x member => left x (List.mem_cons_of_mem a member)⟩
        ⟨right b (by simp),fun x member => right x (List.mem_cons_of_mem b member)⟩ t u
        first second same
      cases equal
      exact ⟨rfl,rest⟩

end Legible

theorem legible_run (test : Char → Bool) : Legible String.toList
    (fun s => ∀ c ∈ s.toList, test c = true) (Begins fun c => !test c) := by
  intro a b left right t u first second same
  have stop : ∀ t, Begins (fun c => !test c) t → t.head?.any test = false := by
    intro t begins
    cases t with
    | nil => rfl
    | cons c rest => simpa [Begins] using begins
  have runs := congrArg (List.takeWhile test) same
  have tails := congrArg (List.dropWhile test) same
  rw [Reader.takeWhile_run left (stop t first),Reader.takeWhile_run right (stop u second)] at runs
  rw [Reader.dropWhile_run left (stop t first),Reader.dropWhile_run right (stop u second)] at tails
  exact ⟨String.toList_inj.mp runs,tails⟩

theorem legible_name (f : Flavor) : Legible (fun s => (f.quote s).toList) (fun _ => True)
    (Begins fun c => c != f.nameMark) := by
  intro a b _ _ t u first second same
  have text : ∀ s t, (f.quote s).toList ++ t =
      f.nameMark :: (s.toList.flatMap (Text.twice f.nameMark) ++ f.nameMark :: t) := by
    intro s t
    rw [Flavor.quote,Text.toList_quoteName]
    simp
  have apart : ∀ t, Begins (fun c => c != f.nameMark) t → t.head? ≠ some f.nameMark := by
    intro t begins mark
    rw [Begins,mark] at begins
    simp at begins
  dsimp only at same
  rw [text,text] at same
  obtain ⟨_,behind⟩ := List.cons.inj same
  have inside := congrArg (Reader.doubled f.nameMark) behind
  rw [Reader.doubled_text _ _ (apart t first),Reader.doubled_text _ _ (apart u second)] at inside
  simp only [Option.some.injEq,Prod.mk.injEq] at inside
  obtain ⟨name,rest⟩ := inside
  exact ⟨String.toList_inj.mp name,rest⟩

theorem Begins.delimited {t : List Char} (begins : Begins isDelimiter t) : Delimited t := by
  cases t with
  | nil => cases begins
  | cons c rest => exact begins

theorem legible_of_reads {α : Type} {f : Flavor} {write : α → List Char} {good : α → Prop}
    (means : α → Literal) (determined : ∀ a b, means a = means b → a = b)
    (reads : ∀ a, good a → Reader.Reads f (write a) (means a)) :
    Legible write good (Begins isDelimiter) := by
  intro a b left right t u first second same
  obtain ⟨_,readLeft⟩ := reads a left
  obtain ⟨_,readRight⟩ := reads b right
  have here := readLeft (write a ++ t).length t (by simp) first.delimited
  have there := readRight (write b ++ u).length u (by simp) second.delimited
  rw [same,there] at here
  simp only [Option.some.injEq,Prod.mk.injEq] at here
  obtain ⟨meaning,rest⟩ := here
  exact ⟨determined a b meaning.symm,rest.symm⟩

end InlineSql
