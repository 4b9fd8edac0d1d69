import InlineSql.Proofs.Scan.Basic

namespace InlineSql

def isFlat (c : Char) : Bool := c != '(' && c != ')' && c != ','

theorem flat_of_word {c : Char} (word : isWordChar c = true) : isFlat c = true := by
  have apart : ∀ d, isWordChar d = false → c ≠ d := by
    rintro d other rfl
    rw [word] at other
    cases other
  simp [isFlat,apart '(' (by decide),apart ')' (by decide),apart ',' (by decide)]

theorem flat_words {text : List Char} (words : text.all isWordChar = true) :
    text.all isFlat = true := by
  rw [List.all_eq_true] at words ⊢
  exact fun c member => flat_of_word (words c member)

theorem flat_signed {w : List Char} (negative : Bool) (flat : w.all isFlat = true) :
    ((if negative then ['-'] else []) ++ w).all isFlat = true := by
  rw [List.all_append,flat]
  cases negative <;> rfl

-- A reader that counts places: how deep in brackets it stands, how many places the outermost
-- bracket has had so far, and how many each of those had that have ended.
structure Tally where
  depth : Nat
  places : Nat
  widths : List Nat

namespace Tally

def start : Tally := ⟨0,0,[]⟩

def read (t : Tally) (c : Char) : Tally :=
  if c = '(' then {t with depth:=t.depth + 1,places:=if t.depth = 0 then 1 else t.places}
  else if c = ')' then
    {t with depth:=t.depth - 1,widths:=if t.depth = 1 then t.widths ++ [t.places] else t.widths}
  else if c = ',' ∧ t.depth = 1 then {t with places:=t.places + 1}
  else t

def along (t : Tally) (text : List Char) : Tally := text.foldl read t

theorem along_append (t : Tally) (x y : List Char) :
    t.along (x ++ y) = (t.along x).along y := List.foldl_append

theorem along_flat {text : List Char} (flat : text.all isFlat = true) (t : Tally) :
    t.along text = t := by
  induction text with
  | nil => rfl
  | cons c rest ih =>
    simp only [List.all_cons,Bool.and_eq_true,isFlat,bne_iff_ne,ne_eq] at flat
    obtain ⟨⟨⟨opens,closes⟩,parts⟩,later⟩ := flat
    have same : t.read c = t := by
      rw [read,if_neg opens,if_neg closes,if_neg fun both => parts both.1]
    have behind := ih later
    rw [along,List.foldl_cons,same]
    exact behind

end Tally

def bracketWidths (text : List Char) : List Nat := (Tally.start.along text).widths

def Closed (text : List Char) : Prop := ∀ t : Tally, 1 ≤ t.depth → t.along text = t

theorem closed_flat {text : List Char} (flat : text.all isFlat = true) : Closed text :=
  fun t _ => Tally.along_flat flat t

def inBrackets (parts : List (List Char)) : List Char := ['('] ++ [','].intercalate parts ++ [')']

section
variable {parts : List (List Char)}

theorem along_places (closed : ∀ part ∈ parts, Closed part) {t : Tally} (inside : 1 ≤ t.depth) :
    t.along ([','].intercalate parts) =
      {t with places:=t.places + if t.depth = 1 then parts.length - 1 else 0} := by
  induction parts generalizing t with
  | nil => simp [List.intercalate,Tally.along]
  | cons part rest ih =>
    have here := closed part (by simp) t inside
    have others := fun other member => closed other (List.mem_cons_of_mem part member)
    cases rest with
    | nil => simp [here]
    | cons second later =>
      have comma : t.along [','] = {t with places:=t.places + if t.depth = 1 then 1 else 0} := by
        by_cases outermost : t.depth = 1 <;> simp [Tally.along,Tally.read,outermost]
      have behind := ih others (t:={t with places:=t.places + if t.depth = 1 then 1 else 0}) inside
      rw [List.intercalate_cons_cons,Tally.along_append,Tally.along_append,here,comma,behind]
      by_cases outermost : t.depth = 1
      · simp only [if_pos outermost,List.length_cons]
        congr 1
        omega
      · simp only [if_neg outermost,Nat.add_zero]

theorem closed_inBrackets (closed : ∀ part ∈ parts, Closed part) : Closed (inBrackets parts) := by
  intro t inside
  have above : t.depth ≠ 0 := by omega
  have below : t.depth + 1 ≠ 1 := by omega
  have opened : t.along ['('] = {t with depth:=t.depth + 1} := by
    simp [Tally.along,Tally.read,above]
  rw [inBrackets,Tally.along_append,Tally.along_append,opened,along_places closed (by simp)]
  simp [Tally.along,Tally.read,above]

end

def Measures (text : List Char) (widths : List Nat) : Prop := ∀ t : Tally, t.depth = 0 →
  (t.along text).depth = 0 ∧ (t.along text).widths = t.widths ++ widths

namespace Measures

theorem flat {text : List Char} (flat : text.all isFlat = true) : Measures text [] := by
  intro t outside
  rw [Tally.along_flat flat]
  exact ⟨outside,(List.append_nil _).symm⟩

theorem comma : Measures [','] [] := by
  intro t outside
  simp [Tally.along,Tally.read,outside]

theorem append {x y : List Char} {m n : List Nat} (first : Measures x m) (second : Measures y n) :
    Measures (x ++ y) (m ++ n) := by
  intro t outside
  obtain ⟨between,before⟩ := first t outside
  obtain ⟨behind,after⟩ := second _ between
  rw [Tally.along_append]
  exact ⟨behind,by rw [after,before,List.append_assoc]⟩

theorem bracket {parts : List (List Char)} (closed : ∀ part ∈ parts, Closed part)
    (filled : 1 ≤ parts.length) : Measures (inBrackets parts) [parts.length] := by
  intro t outside
  have opened : t.along ['('] = {t with depth:=1,places:=1} := by
    simp [Tally.along,Tally.read,outside]
  have places : 1 + (parts.length - 1) = parts.length := by omega
  rw [inBrackets,Tally.along_append,Tally.along_append,opened,along_places closed (Nat.le_refl 1)]
  simp [Tally.along,Tally.read,places]

theorem intercalate {parts : List (List Char)} {width : Nat}
    (each : ∀ part ∈ parts, Measures part [width]) :
    Measures ([','].intercalate parts) (List.replicate parts.length width) := by
  induction parts with
  | nil => exact flat rfl
  | cons part rest ih =>
    have here := each part (by simp)
    have later := ih fun other member => each other (List.mem_cons_of_mem part member)
    cases rest with
    | nil => simpa using here
    | cons second others =>
      have whole := (here.append comma).append later
      rw [List.intercalate_cons_cons,List.length_cons,List.replicate_succ]
      exact whole

theorem widths_eq {text : List Char} {widths : List Nat} (measures : Measures text widths) :
    bracketWidths text = widths := (measures Tally.start rfl).2

end Measures

example : bracketWidths "t (a,b) VALUES (1,(2,3)),((),null)".toList = [2,2,2] := by decide

end InlineSql
