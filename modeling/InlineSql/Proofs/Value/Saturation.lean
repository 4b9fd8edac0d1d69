import InlineSql.Proofs.Number.ByteScan
import InlineSql.Value.Integer

namespace InlineSql.Value
open Number

structure ReadsParts (s : String) (sign digits : List Char) (n : Int64) : Prop where
  starts : startOf s = sign.length
  stops : stopOf s = sign.length + digits.length
  boundary : String.Pos.Raw.IsValid (shown s) ⟨stopOf s⟩
  cut : front (shown s) (stopOf s) = some (.ofList (sign ++ digits))
  scanned : scanned s = some n
  empty : digits = [] → n = 0
  clamped : digits ≠ [] →
    n.toInt = max Int64.minValue.toInt (min (numberOf sign digits) Int64.maxValue.toInt)

section
variable {s : String} {blanks sign digits rest : List Char}

theorem text_parts (parted : Parted s.toList blanks sign digits rest) :
    ReadsParts s sign digits (Value.text s).toInt64 := by
  have stops := stopOf_parted parted
  have cut := front_parted parted
  rw [← stops] at cut
  constructor
  case starts => exact startOf_parted parted
  case stops => exact stops
  case boundary => exact front_boundary cut
  case cut => exact cut
  case scanned => exact scanned_parted parted
  case empty =>
    intro empty
    rw [toInt64,parted.reads,empty,numberOf_nil]
    decide
  case clamped =>
    intro _
    rw [toInt64,parted.reads,toInt_clamped]

theorem text_decimal (n : Int) {w t : String} (blank : ∀ c ∈ w.toList, Text.isBlank c = true)
    (ended : t.toList.head?.any Char.isDigit = false) :
    (Value.text (w ++ toString n ++ t)).toInt64 = .ofIntClamp n := by
  have parted := Parted.of_decimal n blank ended
  rw [← String.toList_append,← String.toList_append] at parted
  rw [toInt64,parted.reads,numberOf_decimal]

theorem text_digits (digit : ∀ c ∈ s.toList, c.isDigit = true) :
    (Value.text s).toInt64 = .ofIntClamp (Nat.ofDigitChars 10 s.toList 0) := by
  rw [toInt64,(Parted.of_digits digit).reads]
  rfl

end

theorem nat_clamped (n : UInt64) :
    (Value.nat n).toInt64.toInt = min (n.toNat : Int) Int64.maxValue.toInt := by
  have lowest : Int64.minValue.toInt < 0 := by decide
  have highest : 0 < Int64.maxValue.toInt := by decide
  rw [toInt64,toInt_clamped]
  omega

-- Every text has such parts, and the number in front is read whatever its length. So
-- decimal numbers are read back, longer digits never give less, and both ways to hold an unsigned
-- number agree.
theorem toInt64_saturates :
    (∀ s : String, (Value.raw s).toInt64 = (Value.text s).toInt64 ∧
      (∃ blanks sign digits rest, Parted s.toList blanks sign digits rest) ∧
      ∀ blanks sign digits rest, Parted s.toList blanks sign digits rest →
        ReadsParts s sign digits (Value.text s).toInt64) ∧
    (∀ (n : Int64) (w t : String), (∀ c ∈ w.toList, Text.isBlank c = true) →
      t.toList.head?.any Char.isDigit = false →
        (Value.text (w ++ toString n ++ t)).toInt64 = n) ∧
    (∀ d e : String, (∀ c ∈ d.toList, c.isDigit = true) → (∀ c ∈ e.toList, c.isDigit = true) →
      Nat.ofDigitChars 10 d.toList 0 ≤ Nat.ofDigitChars 10 e.toList 0 →
        (Value.text d).toInt64 ≤ (Value.text e).toInt64) ∧
    ∀ n : UInt64, (Value.nat n).toInt64.toInt = min (n.toNat : Int) Int64.maxValue.toInt ∧
      (Value.text (toString n)).toInt64 = (Value.nat n).toInt64 := by
  refine ⟨fun s => ⟨rfl,exists_parted s.toList,fun _ _ _ _ parted => text_parts parted⟩,?_,?_,
    fun n => ⟨nat_clamped n,?_⟩⟩
  · intro n w t blank ended
    have spelled : toString n = toString n.toInt := String.toList_inj.mp (toList_int64 n)
    rw [spelled,text_decimal n.toInt blank ended,Int64.ofIntClamp_toInt]
  · intro d e left right smaller
    rw [text_digits left,text_digits right]
    exact clamped_mono (Int.ofNat_le.mpr smaller)
  · have spelled : toString n = toString (n.toNat : Int) := String.toList_inj.mp (toList_uint64 n)
    have read := text_decimal (n.toNat : Int) (w:="") (t:="") nofun rfl
    rw [String.empty_append,String.append_empty,← spelled] at read
    exact read

theorem toInt64_saturates_ends :
    let s := "\u3000-120é9"
    Parted s.toList ['\u3000'] ['-'] ['1','2','0'] ['é','9'] ∧
      ReadsParts s ['-'] ['1','2','0'] (Value.text s).toInt64 ∧
      (Value.text ("\u3000" ++ toString Int64.minValue ++ "é9")).toInt64 = Int64.minValue ∧
      (Value.text "9223372036854775807").toInt64 ≤ (Value.text "92233720368547758070").toInt64 ∧
      (Value.text (toString (18446744073709551615 : UInt64))).toInt64 =
        (Value.nat 18446744073709551615).toInt64 := by
  intro s
  have wide : "\u3000".toList.all Text.isBlank = true := by decide
  have short : "9223372036854775807".toList.all Char.isDigit = true := by decide
  have long : "92233720368547758070".toList.all Char.isDigit = true := by decide
  have run : ['1','2','0'].all Char.isDigit = true := by decide
  have parted : Parted s.toList ['\u3000'] ['-'] ['1','2','0'] ['é','9'] :=
    ⟨by decide,List.all_eq_true.mp wide,by decide,.inr (.inl rfl),List.all_eq_true.mp run,by decide⟩
  obtain ⟨texts,decimals,digits,numbers⟩ := toInt64_saturates
  exact ⟨parted,(texts s).2.2 _ _ _ _ parted,
    decimals Int64.minValue "\u3000" "é9" (List.all_eq_true.mp wide) (by decide),
    digits _ _ (List.all_eq_true.mp short) (List.all_eq_true.mp long) (by decide),
    (numbers 18446744073709551615).2⟩

end InlineSql.Value
