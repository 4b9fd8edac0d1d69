namespace InlineSql

-- The Gregorian calendar, carried on before its start and before year 1.
def isLeap (year : Int) : Bool := year % 4 == 0 && (year % 100 != 0 || year % 400 == 0)

def daysIn (year : Int) (month : Nat) : Nat :=
  if month = 2 then (if isLeap year then 29 else 28)
  else if month = 4 ∨ month = 6 ∨ month = 9 ∨ month = 11 then 30 else 31

structure Timestamp where
  year : Int
  month : Nat
  day : Nat
  hour : Nat
  minute : Nat
  second : Nat
  nanosecond : Nat
  yearRange : -9999 ≤ year ∧ year ≤ 9999
  monthRange : 1 ≤ month ∧ month ≤ 12
  dayRange : 1 ≤ day ∧ day ≤ daysIn year month
  timeRange : hour < 24 ∧ minute < 60 ∧ second < 60
  nanosecondRange : nanosecond < 1000000000
deriving DecidableEq

namespace Timestamp

def ofFields? (year : Int) (month day hour minute second nanosecond : Nat) : Option Timestamp :=
  if h : (-9999 ≤ year ∧ year ≤ 9999) ∧ (1 ≤ month ∧ month ≤ 12) ∧
      (1 ≤ day ∧ day ≤ daysIn year month) ∧ (hour < 24 ∧ minute < 60 ∧ second < 60) ∧
      nanosecond < 1000000000 then
    some ⟨year,month,day,hour,minute,second,nanosecond,h.1,h.2.1,h.2.2.1,h.2.2.2.1,h.2.2.2.2⟩
  else none

def padded (width n : Nat) : List Char :=
  let digits := Nat.toDigits 10 n
  List.replicate (width - digits.length) '0' ++ digits

def yearText (t : Timestamp) : List Char :=
  if t.year < 0 then '-' :: padded 4 t.year.natAbs else padded 4 t.year.natAbs

def dateText (t : Timestamp) : List Char :=
  t.yearText ++ '-' :: padded 2 t.month ++ '-' :: padded 2 t.day

def minuteText (t : Timestamp) : List Char :=
  ':' :: padded 2 t.minute ++ ':' :: padded 2 t.second

-- Whole microseconds, cut and not rounded. A moment on the full second has no
-- fraction, one less than a microsecond later has a fraction of zeros.
def text (t : Timestamp) : String :=
  .ofList <| t.dateText ++ ' ' :: padded 2 t.hour ++ t.minuteText ++
    if t.nanosecond = 0 then [] else '.' :: padded 6 (t.nanosecond / 1000)

def fractionText (t : Timestamp) : List Char :=
  match (padded 9 t.nanosecond).reverse.dropWhile (· == '0') with
  | [] => ['0']
  | digits => digits.reverse

def inspected (t : Timestamp) : String :=
  .ofList <| t.dateText ++ ' ' :: Nat.toDigits 10 t.hour ++ t.minuteText ++ '.' :: t.fractionText

end Timestamp
end InlineSql
