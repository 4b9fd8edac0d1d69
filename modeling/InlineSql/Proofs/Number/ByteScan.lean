import InlineSql.Proofs.Number.Parting

namespace InlineSql.Number

def isSignByte (b : UInt8) : Bool := b == 43 || b == 45
def isDigitByte (b : UInt8) : Bool := 48 ≤ b && b ≤ 57

def signEnd (bytes : ByteArray) : Nat := if bytes.data[0]?.any isSignByte then 1 else 0

def digitsEnd (bytes : ByteArray) (i : Nat) : Nat :=
  if _ : i < bytes.size then
    if isDigitByte bytes[i] then digitsEnd bytes (i + 1) else i
  else i
termination_by bytes.size - i

def front (text : String) (stop : Nat) : Option String :=
  if boundary : String.Pos.Raw.IsValid text ⟨stop⟩ then
    some (String.extract text.startPos ⟨⟨stop⟩,boundary⟩)
  else none

def checked (s : String) : Option Int64 :=
  let (sign,digits) := splitSign s.toList
  let n := numberOf sign digits
  if digits ≠ [] ∧ digits.all Char.isDigit ∧ Int64.minValue.toInt ≤ n ∧ n ≤ Int64.maxValue.toInt
  then some (.ofInt n) else none

def shown (s : String) : String := .ofList (s.toList.dropWhile Text.isBlank)
def startOf (s : String) : Nat := signEnd (shown s).toByteArray
def stopOf (s : String) : Nat := digitsEnd (shown s).toByteArray (startOf s)

-- The lenient reading over bytes. A number that the checked reading refuses is the end of the
-- range on the side of its sign. Nothing is read when the digits end inside a character.
def scanned (s : String) : Option Int64 :=
  if stopOf s = startOf s then some 0
  else (front (shown s) (stopOf s)).map fun number => (checked number).getD
    (if (shown s).toList.head? = some '-' then Int64.minValue else Int64.maxValue)

theorem encode_first (c : Char) : ∃ b rest, String.utf8EncodeChar c = b :: rest ∧
    (c.toNat < 128 → b.toNat = c.toNat ∧ rest = []) ∧ (128 ≤ c.toNat → 128 ≤ b.toNat) := by
  have value : c.val.toNat = c.toNat := rfl
  have last : c.toNat < 1114112 := by
    rcases c.valid with low | ⟨_,high⟩
    · omega
    · exact high
  rw [String.utf8EncodeChar.eq_def]
  dsimp only
  rw [value]
  split
  · refine ⟨_,_,rfl,fun _ => ⟨?_,rfl⟩,fun _ => ?_⟩ <;> rw [UInt8.toNat_ofNat'] <;> omega
  · split
    · refine ⟨_,_,rfl,fun _ => ?_,fun _ => ?_⟩ <;> rw [UInt8.toNat_ofNat'] <;> omega
    · split <;> refine ⟨_,_,rfl,fun _ => ?_,fun _ => ?_⟩ <;> rw [UInt8.toNat_ofNat'] <;> omega

theorem encode_digit (c : Char) : ∃ b rest, String.utf8EncodeChar c = b :: rest ∧
    isDigitByte b = c.isDigit ∧ (c.isDigit = true → rest = []) := by
  obtain ⟨b,rest,encoded,ascii,other⟩ := encode_first c
  refine ⟨b,rest,encoded,?_,fun digit => ?_⟩
  · rw [Bool.eq_iff_iff,isDigitByte,Bool.and_eq_true,decide_eq_true_eq,decide_eq_true_eq,
      Char.isDigit_iff_toNat,UInt8.le_iff_toNat_le,UInt8.le_iff_toNat_le]
    change 48 ≤ b.toNat ∧ b.toNat ≤ 57 ↔ 48 ≤ c.toNat ∧ c.toNat ≤ 57
    omega
  · have range : 48 ≤ c.toNat ∧ c.toNat ≤ 57 := Char.isDigit_iff_toNat.mp digit
    exact (ascii (by omega)).2

theorem encode_sign (c : Char) : ∃ b rest, String.utf8EncodeChar c = b :: rest ∧
    isSignByte b = isSign c := by
  obtain ⟨b,rest,encoded,ascii,other⟩ := encode_first c
  refine ⟨b,rest,encoded,?_⟩
  rw [Bool.eq_iff_iff,isSignByte,isSign,Bool.or_eq_true,Bool.or_eq_true,beq_iff_eq,beq_iff_eq,
    beq_iff_eq,beq_iff_eq,← UInt8.toNat_inj,← UInt8.toNat_inj,← Char.toNat_inj,← Char.toNat_inj]
  change b.toNat = 43 ∨ b.toNat = 45 ↔ c.toNat = 43 ∨ c.toNat = 45
  omega

theorem toList_bytes (text : List Char) : (String.ofList text).toByteArray.data.toList =
    text.flatMap String.utf8EncodeChar := by
  rw [String.toByteArray_ofList,List.utf8Encode,List.toList_data_toByteArray]

theorem digitsEnd_run (bytes : ByteArray) (i : Nat) : digitsEnd bytes i =
    i + ((bytes.data.toList.drop i).takeWhile isDigitByte).length := by
  have next {j : Nat} (bound : j < bytes.size) :
      bytes.data.toList.drop j = bytes[j] :: bytes.data.toList.drop (j + 1) :=
    List.drop_eq_getElem_cons bound
  fun_induction digitsEnd bytes i with
  | case1 i bound digit ih =>
    rw [ih,next bound,List.takeWhile_cons_of_pos digit,List.length_cons]
    omega
  | case2 i bound other =>
    rw [next bound,List.takeWhile_cons_of_neg other,List.length_nil,Nat.add_zero]
  | case3 i ended =>
    have none : bytes.data.toList.drop i = [] := List.drop_eq_nil_of_le (Nat.not_lt.mp ended)
    rw [none,List.takeWhile_nil,List.length_nil,Nat.add_zero]

theorem encode_run (text : List Char) :
    ((text.flatMap String.utf8EncodeChar).takeWhile isDigitByte).length =
      (text.takeWhile Char.isDigit).length := by
  induction text with
  | nil => rfl
  | cons c text ih =>
    obtain ⟨b,rest,encoded,same,alone⟩ := encode_digit c
    rw [List.flatMap_cons,encoded]
    by_cases digit : c.isDigit = true
    · rw [alone digit,List.cons_append,List.nil_append,List.takeWhile_cons_of_pos (same.trans digit),
        List.takeWhile_cons_of_pos digit,List.length_cons,List.length_cons,ih]
    · have other : ¬ isDigitByte b = true := same ▸ digit
      rw [List.cons_append,List.takeWhile_cons_of_neg other,List.takeWhile_cons_of_neg digit]
      rfl

theorem signEnd_head (text : List Char) : signEnd (String.ofList text).toByteArray =
    if text.head?.any isSign then 1 else 0 := by
  rw [signEnd,← Array.getElem?_toList,toList_bytes]
  cases text with
  | nil => rfl
  | cons c text =>
    obtain ⟨b,rest,encoded,same⟩ := encode_sign c
    rw [List.flatMap_cons,encoded,List.cons_append,List.getElem?_cons_zero,Option.any_some,same]
    rfl

theorem size_ascii {text : List Char} (ascii : ∀ c ∈ text, c.toNat < 128) :
    (text.flatMap String.utf8EncodeChar).length = text.length := by
  induction text with
  | nil => rfl
  | cons c text ih =>
    obtain ⟨b,rest,encoded,alone,_⟩ := encode_first c
    rw [List.flatMap_cons,encoded,(alone (ascii c List.mem_cons_self)).2,List.length_append,
      ih fun d member => ascii d (List.mem_cons_of_mem _ member),List.length_cons]
    exact Nat.add_comm ..

theorem front_boundary {text cut : String} {stop : Nat} (found : front text stop = some cut) :
    String.Pos.Raw.IsValid text ⟨stop⟩ := by
  unfold front at found
  split at found
  · assumption
  · cases found

theorem front_append (a b : List Char) : front (.ofList (a ++ b))
    (a.flatMap String.utf8EncodeChar).length = some (.ofList a) := by
  have size : (a.flatMap String.utf8EncodeChar).length = (String.ofList a).utf8ByteSize := by
    rw [← toList_bytes]
    rfl
  have boundary : String.Pos.Raw.IsValid (.ofList (a ++ b))
      ⟨(a.flatMap String.utf8EncodeChar).length⟩ :=
    String.Pos.Raw.isValid_iff_exists_append.mpr
      ⟨.ofList a,.ofList b,String.ofList_append,congrArg String.Pos.Raw.mk size⟩
  have whole : (String.ofList (a ++ b)).toByteArray =
      (String.ofList a).toByteArray ++ (String.ofList b).toByteArray := by
    rw [String.ofList_append,String.toByteArray_append]
  rw [front,dif_pos boundary]
  congr 1
  rw [← String.toByteArray_inj,String.toByteArray_extract,whole]
  exact ByteArray.extract_append_eq_left size

section
variable {sign digits rest : List Char}

theorem Signed.ascii (signed : Signed sign rest) : ∀ c ∈ sign, c.toNat < 128 := by
  intro c member
  rcases signed with rfl | rfl | ⟨rfl,_⟩
  · rw [List.mem_singleton.mp member]
    decide
  · rw [List.mem_singleton.mp member]
    decide
  · cases member

theorem Signed.signEnd (signed : Signed sign rest) :
    signEnd (String.ofList (sign ++ rest)).toByteArray = sign.length := by
  rw [signEnd_head]
  rcases signed with rfl | rfl | ⟨rfl,bare⟩
  · rfl
  · rfl
  · rw [List.nil_append,bare]
    rfl

theorem checked_run (signed : Signed sign digits) (digit : ∀ c ∈ digits, c.isDigit = true)
    (filled : digits ≠ []) : (checked (.ofList (sign ++ digits))).getD
      (if sign = ['-'] then Int64.minValue else Int64.maxValue) =
        .ofIntClamp (numberOf sign digits) := by
  have lowest : Int64.minValue.toInt < 0 := by decide
  have highest : 0 < Int64.maxValue.toInt := by decide
  have above : sign ≠ ['-'] → 0 ≤ numberOf sign digits := by
    intro positive
    rw [numberOf,if_neg positive]
    exact Int.natCast_nonneg _
  have below : sign = ['-'] → numberOf sign digits ≤ 0 := by
    intro negative
    rw [numberOf,if_pos negative]
    omega
  have run : digits.all Char.isDigit = true := List.all_eq_true.mpr digit
  rw [checked,String.toList_ofList,signed.split,Int64.ofIntClamp]
  dsimp only
  by_cases least : Int64.minValue.toInt ≤ numberOf sign digits
  · rw [dif_pos least]
    by_cases greatest : numberOf sign digits ≤ Int64.maxValue.toInt
    · rw [dif_pos greatest,if_pos ⟨filled,run,least,greatest⟩]
      rfl
    · have positive : sign ≠ ['-'] := fun negative => by
        have := below negative
        omega
      rw [dif_neg greatest,if_neg fun fits => greatest fits.2.2.2,Option.getD_none,
        if_neg positive]
  · have negative : sign = ['-'] := Decidable.of_not_not fun positive => by
      have := above positive
      omega
    rw [dif_neg least,if_neg fun fits => least fits.2.2.1,Option.getD_none,if_pos negative]

end

section
variable {s : String} {blanks sign digits rest : List Char}

theorem shown_parted (parted : Parted s.toList blanks sign digits rest) :
    shown s = .ofList (sign ++ (digits ++ rest)) := by rw [shown,parted.unblanked]

theorem startOf_parted (parted : Parted s.toList blanks sign digits rest) :
    startOf s = sign.length := by rw [startOf,shown_parted parted,parted.signed.signEnd]

theorem stopOf_parted (parted : Parted s.toList blanks sign digits rest) :
    stopOf s = sign.length + digits.length := by
  have behind : ((sign ++ (digits ++ rest)).flatMap String.utf8EncodeChar).drop sign.length =
      (digits ++ rest).flatMap String.utf8EncodeChar := by
    rw [List.flatMap_append,List.drop_left' (size_ascii parted.signed.ascii)]
  rw [stopOf,startOf_parted parted,shown_parted parted,digitsEnd_run,toList_bytes,behind,encode_run,
    Reader.takeWhile_run parted.digit parted.ended]

theorem front_parted (parted : Parted s.toList blanks sign digits rest) :
    front (shown s) (sign.length + digits.length) = some (.ofList (sign ++ digits)) := by
  have ascii : ∀ c ∈ sign ++ digits, c.toNat < 128 := by
    intro c member
    rcases List.mem_append.mp member with sign | digit
    · exact parted.signed.ascii c sign
    · have range : 48 ≤ c.toNat ∧ c.toNat ≤ 57 := Char.isDigit_iff_toNat.mp (parted.digit c digit)
      omega
  rw [← List.length_append,← size_ascii ascii,shown_parted parted,← List.append_assoc]
  exact front_append (sign ++ digits) rest

theorem negative_parted (parted : Parted s.toList blanks sign digits rest) :
    (shown s).toList.head? = some '-' ↔ sign = ['-'] := by
  rw [shown_parted parted,String.toList_ofList]
  rcases parted.signed with rfl | rfl | ⟨rfl,bare⟩
  · exact iff_of_false (fun minus => absurd (Option.some.inj minus) (by decide)) (by decide)
  · exact iff_of_true rfl rfl
  · refine iff_of_false (fun minus => ?_) nofun
    rw [List.nil_append] at minus
    rw [minus] at bare
    cases bare

theorem scanned_parted (parted : Parted s.toList blanks sign digits rest) :
    scanned s = some (leadingInteger s) := by
  rw [scanned,startOf_parted parted,stopOf_parted parted,parted.reads]
  by_cases empty : digits = []
  · rw [empty,List.length_nil,Nat.add_zero,if_pos rfl,numberOf_nil]
    decide
  · have filled : sign.length + digits.length ≠ sign.length := by
      have := List.length_pos_iff.mpr empty
      omega
    rw [if_neg filled,front_parted parted,Option.map_some]
    simp only [negative_parted parted]
    rw [checked_run (parted.signed.of_digits parted.digit) parted.digit empty]

end
end InlineSql.Number
