import InlineSql.Proofs.Number.Parting
import Mathlib.Data.List.Forall2
import Mathlib.Data.List.TakeWhile

namespace InlineSql.Text

def Blanks (s : String) : Prop := ∀ c ∈ s.toList, isBlank c = true

structure Trimmed (word : String) : Prop where
  first : word.toList.head?.any isBlank = false
  last : word.toList.getLast?.any isBlank = false

def Holds (s word : String) : Prop :=
  ∃ front back, Blanks front ∧ Blanks back ∧ Trimmed word ∧ s = front ++ word ++ back

theorem blanks_append {s t : String} : Blanks (s ++ t) ↔ Blanks s ∧ Blanks t := by
  simp only [Blanks,String.toList_append,List.forall_mem_append]

theorem dropWhile_between {front word : List Char} (blank : ∀ c ∈ front, isBlank c = true)
    (first : word.head?.any isBlank = false) (filled : word ≠ []) (back : List Char) :
    (front ++ (word ++ back)).dropWhile isBlank = word ++ back := by
  apply Reader.dropWhile_run blank
  cases word with
  | nil => exact absurd rfl filled
  | cons c rest => exact first

theorem trim_word {s word : String} (holds : Holds s word) : trim s = word := by
  obtain ⟨front,back,before,behind,trimmed,rfl⟩ := holds
  rw [trim,String.toList_append,String.toList_append,List.append_assoc]
  by_cases empty : word.toList = []
  · have blank : ∀ c ∈ front.toList ++ back.toList, isBlank c = true :=
      List.forall_mem_append.mpr ⟨before,behind⟩
    rw [empty,List.nil_append,List.dropWhile_eq_nil_iff.mpr blank,String.toList_eq_nil_iff.mp empty]
    rfl
  · rw [dropWhile_between before trimmed.first empty,List.reverse_append]
    have reversed : word.toList.reverse.head?.any isBlank = false := by
      rw [List.head?_reverse]
      exact trimmed.last
    have backwards : ∀ c ∈ back.toList.reverse, isBlank c = true := fun c member =>
      behind c (List.mem_reverse.mp member)
    rw [Reader.dropWhile_run backwards reversed,List.reverse_reverse,String.ofList_toList]

theorem holds_trim (s : String) : Holds s (trim s) := by
  let shown := s.toList.dropWhile isBlank
  let kept := shown.reverse.dropWhile isBlank
  have word : (trim s).toList = kept.reverse := String.toList_ofList
  have split : shown = kept.reverse ++ (shown.reverse.takeWhile isBlank).reverse := by
    rw [← List.reverse_append,List.takeWhile_append_dropWhile,List.reverse_reverse]
  refine ⟨.ofList (s.toList.takeWhile isBlank),.ofList (shown.reverse.takeWhile isBlank).reverse,
    ?front,?back,⟨?first,?last⟩,?whole⟩
  case front =>
    rw [Blanks,String.toList_ofList]
    exact List.all_eq_true.mp List.all_takeWhile
  case back =>
    intro c member
    rw [String.toList_ofList,List.mem_reverse] at member
    exact List.all_eq_true.mp List.all_takeWhile c member
  case first =>
    -- Where anything is left, it begins as the text does behind its first blanks.
    have head := Number.head_dropWhile isBlank s.toList
    rw [word]
    cases left : kept.reverse with
    | nil => rfl
    | cons c rest =>
      have begins : s.toList.dropWhile isBlank = c :: (rest ++ _) := split.trans (by rw [left]; rfl)
      rw [begins] at head
      exact head
  case last =>
    rw [word,List.getLast?_reverse]
    exact Number.head_dropWhile isBlank shown.reverse
  case whole =>
    apply String.toList_inj.mp
    rw [String.toList_append,String.toList_append,String.toList_ofList,String.toList_ofList,word,
      List.append_assoc,← split,List.takeWhile_append_dropWhile]

theorem Trimmed.holds {word : String} (trimmed : Trimmed word) : Holds word word :=
  ⟨"","",nofun,nofun,trimmed,by simp⟩

theorem trim_blanks {front back : String} (before : Blanks front) (behind : Blanks back)
    (s : String) : trim (front ++ s ++ back) = trim s := by
  obtain ⟨left,right,first,last,trimmed,whole⟩ := holds_trim s
  apply trim_word
  refine ⟨front ++ left,right ++ back,blanks_append.mpr ⟨before,first⟩,
    blanks_append.mpr ⟨last,behind⟩,trimmed,?_⟩
  calc front ++ s ++ back
      = front ++ (left ++ trim s ++ right) ++ back := by rw [← whole]
    _ = front ++ left ++ trim s ++ (right ++ back) := by simp only [String.append_assoc]

theorem Trimmed.shows {word : String} (trimmed : Trimmed word) (filled : word ≠ "") :
    ∃ c ∈ word.toList, isBlank c = false := by
  cases letters : word.toList with
  | nil => exact absurd (String.toList_eq_nil_iff.mp letters) filled
  | cons c rest =>
    have first := trimmed.first
    rw [letters] at first
    exact ⟨c,List.mem_cons_self,first⟩

def Recased (s word : String) : Prop :=
  List.Forall₂ (fun c letter => c = letter ∨ c = letter.toLower) s.toList word.toList

theorem toNat_toUpper (c : Char) : c.toUpper.toNat =
    if 97 ≤ c.toNat ∧ c.toNat ≤ 122 then c.toNat - 32 else c.toNat := by
  unfold Char.toUpper Char.toNat
  simp only [Char.reduceVal,UInt32.le_iff_toNat_le,UInt32.reduceToNat,UInt32.reduceSub]
  split
  · rw [UInt32.toNat_add]
    simp only [UInt32.reduceToNat]
    omega
  · rfl

theorem toNat_toLower (c : Char) : c.toLower.toNat =
    if 65 ≤ c.toNat ∧ c.toNat ≤ 90 then c.toNat + 32 else c.toNat := by
  unfold Char.toLower Char.toNat
  simp only [Char.reduceVal,UInt32.le_iff_toNat_le,UInt32.reduceToNat,UInt32.reduceSub]
  split
  · rw [UInt32.toNat_add]
    simp only [UInt32.reduceToNat]
    omega
  · rfl

theorem toUpper_capital {c letter : Char} (capital : letter.isUpper = true) :
    c.toUpper = letter.toUpper ↔ c = letter ∨ c = letter.toLower := by
  have range : 65 ≤ letter.toNat ∧ letter.toNat ≤ 90 :=
    (of_decide_eq_true capital).imp UInt32.le_iff_toNat_le.mp UInt32.le_iff_toNat_le.mp
  simp only [← Char.toNat_inj,toNat_toUpper,toNat_toLower]
  split <;> split <;> omega

theorem toUpper_capitals {text letters : List Char} (capitals : ∀ c ∈ letters, c.isUpper = true) :
    text.map Char.toUpper = letters.map Char.toUpper ↔
      List.Forall₂ (fun c letter => c = letter ∨ c = letter.toLower) text letters := by
  induction letters generalizing text with
  | nil => simp
  | cons letter rest ih =>
    cases text with
    | nil => simp
    | cons c later =>
      have first := @toUpper_capital c letter (capitals letter List.mem_cons_self)
      have others : ∀ d ∈ rest, d.isUpper = true := fun d member =>
        capitals d (List.mem_cons_of_mem letter member)
      rw [List.map_cons,List.map_cons,List.cons.injEq,List.forall₂_cons,first,ih others]

theorem sameWord_iff {s word : String} (capitals : word.toList.all Char.isUpper = true) :
    sameWord s word = true ↔ Recased s word := by
  rw [sameWord,beq_iff_eq]
  exact toUpper_capitals (List.all_eq_true.mp capitals)

end InlineSql.Text
