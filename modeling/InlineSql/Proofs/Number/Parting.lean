import InlineSql.Proofs.Literal.Reader
import InlineSql.Number.Leading

namespace InlineSql.Number

def isSign (c : Char) : Bool := c == '+' || c == '-'

theorem not_blank_of_digit {c : Char} (digit : c.isDigit = true) : Text.isBlank c = false := by
  have range : 48 ≤ c.toNat ∧ c.toNat ≤ 57 := Char.isDigit_iff_toNat.mp digit
  simp only [Text.isBlank,Bool.or_eq_false_iff,Bool.and_eq_false_iff,decide_eq_false_iff_not,
    beq_eq_false_iff_ne]
  omega

theorem not_sign_of_digit {c : Char} (digit : c.isDigit = true) : isSign c = false := by
  rw [isSign,Bool.or_eq_false_iff]
  constructor <;> rw [beq_eq_false_iff_ne] <;> rintro rfl <;> revert digit <;> decide

section
variable {sign digits rest : List Char}

def Signed (sign rest : List Char) : Prop :=
  sign = ['+'] ∨ sign = ['-'] ∨ sign = [] ∧ rest.head?.any isSign = false

def splitSign : List Char → List Char × List Char
  | '+' :: rest => (['+'],rest)
  | '-' :: rest => (['-'],rest)
  | rest => ([],rest)

theorem splitSign_signed (text : List Char) : Signed (splitSign text).1 (splitSign text).2 ∧
    (splitSign text).1 ++ (splitSign text).2 = text := by
  fun_cases splitSign text with
  | case1 rest => exact ⟨.inl rfl,rfl⟩
  | case2 rest => exact ⟨.inr (.inl rfl),rfl⟩
  | case3 text plus minus =>
    refine ⟨.inr (.inr ⟨rfl,?_⟩),rfl⟩
    cases text with
    | nil => rfl
    | cons c rest =>
      rw [List.head?_cons,Option.any_some,isSign,Bool.or_eq_false_iff]
      constructor <;> rw [beq_eq_false_iff_ne] <;> rintro rfl
      · exact plus rest rfl
      · exact minus rest rfl

theorem Signed.split (signed : Signed sign rest) : splitSign (sign ++ rest) = (sign,rest) := by
  rcases signed with rfl | rfl | ⟨rfl,bare⟩
  · rfl
  · rfl
  · rw [List.nil_append]
    fun_cases splitSign rest with
    | case1 rest => cases bare
    | case2 rest => cases bare
    | case3 => rfl

theorem Signed.of_digits (signed : Signed sign (digits ++ rest))
    (digit : ∀ c ∈ digits, c.isDigit = true) : Signed sign digits := by
  rcases signed with plus | minus | ⟨none,_⟩
  · exact .inl plus
  · exact .inr (.inl minus)
  · refine .inr (.inr ⟨none,?_⟩)
    cases digits with
    | nil => rfl
    | cons c later => exact not_sign_of_digit (digit c List.mem_cons_self)

def numberOf (sign digits : List Char) : Int :=
  if sign = ['-'] then -Nat.ofDigitChars 10 digits 0 else Nat.ofDigitChars 10 digits 0

theorem numberOf_nil (sign : List Char) : numberOf sign [] = 0 := ite_self 0

theorem leadingNumber_split (text : List Char) : leadingNumber text =
    numberOf (splitSign text).1 ((splitSign text).2.takeWhile Char.isDigit) := by
  fun_cases splitSign text with
  | case1 rest => rfl
  | case2 rest => rfl
  | case3 text plus minus =>
    rw [leadingNumber]
    · rfl
    · exact fun rest found => minus rest found
    · exact fun rest found => plus rest found

end

-- A text taken apart from the front: blanks, at most one sign, digits as far as they go, and
-- what is left.
structure Parted (text blanks sign digits rest : List Char) : Prop where
  whole : text = blanks ++ (sign ++ (digits ++ rest))
  blank : ∀ c ∈ blanks, Text.isBlank c = true
  filled : (sign ++ (digits ++ rest)).head?.any Text.isBlank = false
  signed : Signed sign (digits ++ rest)
  digit : ∀ c ∈ digits, c.isDigit = true
  ended : rest.head?.any Char.isDigit = false

theorem head_dropWhile (p : Char → Bool) (text : List Char) :
    (text.dropWhile p).head?.any p = false := by
  have left := List.head?_dropWhile_not p text
  cases found : (text.dropWhile p).head? with
  | none => rfl
  | some c =>
    rw [found] at left
    exact left

theorem exists_parted (text : List Char) :
    ∃ blanks sign digits rest, Parted text blanks sign digits rest := by
  let shown := text.dropWhile Text.isBlank
  obtain ⟨signed,joined⟩ := splitSign_signed shown
  let behind := (splitSign shown).2
  have run : behind.takeWhile Char.isDigit ++ behind.dropWhile Char.isDigit = behind :=
    List.takeWhile_append_dropWhile
  refine ⟨text.takeWhile Text.isBlank,(splitSign shown).1,behind.takeWhile Char.isDigit,
    behind.dropWhile Char.isDigit,?_⟩
  constructor
  case whole => rw [run,joined,List.takeWhile_append_dropWhile]
  case blank => exact List.all_eq_true.mp List.all_takeWhile
  case filled =>
    rw [run,joined]
    exact head_dropWhile Text.isBlank text
  case signed =>
    rw [run]
    exact signed
  case digit => exact List.all_eq_true.mp List.all_takeWhile
  case ended => exact head_dropWhile Char.isDigit behind

namespace Parted

variable {text blanks sign digits rest : List Char}

theorem unblanked (parted : Parted text blanks sign digits rest) :
    text.dropWhile Text.isBlank = sign ++ (digits ++ rest) := by
  rw [parted.whole,Reader.dropWhile_run parted.blank parted.filled]

theorem reads {s : String} (parted : Parted s.toList blanks sign digits rest) :
    leadingInteger s = .ofIntClamp (numberOf sign digits) := by
  rw [leadingInteger,parted.unblanked,leadingNumber_split,parted.signed.split]
  dsimp only
  rw [Reader.takeWhile_run parted.digit parted.ended]

theorem of_digits (digit : ∀ c ∈ digits, c.isDigit = true) : Parted digits [] [] digits [] := by
  have head {p : Char → Bool} (other : ∀ c : Char, c.isDigit = true → p c = false) :
      (digits ++ []).head?.any p = false := by
    cases digits with
    | nil => rfl
    | cons c later => exact other c (digit c List.mem_cons_self)
  exact ⟨(List.append_nil _).symm,nofun,head fun _ => not_blank_of_digit,
    .inr (.inr ⟨rfl,head fun _ => not_sign_of_digit⟩),digit,rfl⟩

theorem of_decimal (n : Int) (blank : ∀ c ∈ blanks, Text.isBlank c = true)
    (ended : rest.head?.any Char.isDigit = false) :
    Parted (blanks ++ (toString n).toList ++ rest) blanks (if n < 0 then ['-'] else [])
      (Nat.toDigits 10 n.natAbs) rest := by
  obtain ⟨first,later,written⟩ := List.exists_cons_of_ne_nil (Nat.toDigits_ne_nil (b:=10) (n:=n.natAbs))
  have digit : first.isDigit = true := digits_ten (n:=n.natAbs) (written ▸ List.mem_cons_self)
  constructor
  case whole => rw [toList_int,List.append_assoc,List.append_assoc]
  case blank => exact blank
  case filled =>
    rw [written]
    split
    · rfl
    · exact not_blank_of_digit digit
  case signed =>
    rw [written]
    split
    · exact .inr (.inl rfl)
    · exact .inr (.inr ⟨rfl,not_sign_of_digit digit⟩)
  case digit => exact fun c member => digits_ten member
  case ended => exact ended

end Parted

theorem numberOf_decimal (n : Int) :
    numberOf (if n < 0 then ['-'] else []) (Nat.toDigits 10 n.natAbs) = n := by
  rw [numberOf,Nat.ofDigitChars_ten_toDigits]
  split
  · rw [if_pos rfl]
    omega
  · rw [if_neg (by decide)]
    omega

section
variable {x y : Int}

theorem toInt_clamped (x : Int) : (Int64.ofIntClamp x).toInt =
    max Int64.minValue.toInt (min x Int64.maxValue.toInt) := by
  have order : Int64.minValue.toInt ≤ Int64.maxValue.toInt := by decide
  rw [Int64.ofIntClamp]
  split
  · split
    · rename_i least greatest
      rw [Int64.ofIntLE_eq_ofIntClamp,Int64.toInt_ofIntClamp least greatest]
      omega
    · omega
  · omega

theorem clamped_mono (smaller : x ≤ y) : Int64.ofIntClamp x ≤ Int64.ofIntClamp y := by
  rw [Int64.le_iff_toInt_le,toInt_clamped,toInt_clamped]
  omega

end
end InlineSql.Number
