import InlineSql.Number.Parts

namespace InlineSql.Number

structure Decimal where
  digits : Nat
  exponent : Int
deriving DecidableEq

-- A grid of decimals laid over the sizes that read back as `x`: the quarter unit
-- `t` of `x` stands at t·up / down on the grid of multiples of 10^exponent.
structure Grid where
  up : Nat
  down : Nat

def Magnitude.grid (x : Magnitude) (exponent : Int) : Grid :=
  let fine := x.exponent - 2
  ⟨twoTo fine.toNat * tenTo (-exponent).toNat,twoTo (-fine).toNat * tenTo exponent.toNat⟩

def Magnitude.admits (x : Magnitude) (g : Grid) (point : Nat) : Bool :=
  let low := (4 * x.significand - if x.narrow then 1 else 2) * g.up
  let high := (4 * x.significand + 2) * g.up
  let here := point * g.down
  if x.significand % 2 = 0 then low ≤ here && here ≤ high else low < here && here < high

def Magnitude.onGrid (x : Magnitude) (g : Grid) : Option Nat :=
  let value := 4 * x.significand * g.up
  let below := value / g.down
  match x.admits g below,x.admits g (below + 1) with
  | true,true => some (if 2 * value < (2 * below + 1) * g.down then below else below + 1)
  | true,false => some below
  | false,true => some (below + 1)
  | false,false => none

def leadingExponent (num den : Nat) : Int :=
  let e : Int := (Nat.toDigits 10 num).length - (Nat.toDigits 10 den).length
  if den * tenTo e.toNat ≤ num * tenTo (-e).toNat then e else e - 1

def Magnitude.leading (x : Magnitude) : Int :=
  leadingExponent (x.significand * twoTo x.exponent.toNat) (twoTo (-x.exponent).toNat)

-- Tries finer and finer grids. Seventeen digits tell any two doubles apart, so a
-- search that is allowed as many never comes to the last grid; it only ends the
-- recursion.
def Magnitude.search (x : Magnitude) : Nat → Int → Decimal
  | 0,e => ⟨4 * x.significand * (x.grid e).up / (x.grid e).down,e⟩
  | places+1,e => match x.onGrid (x.grid e) with
    | some point => ⟨point,e⟩
    | none => x.search places (e - 1)

def Decimal.carried (d : Decimal) : Decimal :=
  if d.digits = 10 then ⟨1,d.exponent + 1⟩ else d

def Magnitude.shortest (x : Magnitude) : Decimal :=
  if x.significand = 0 then ⟨0,0⟩ else (x.search 17 x.leading).carried

def widen (x : Float32) : Float :=
  match parts32 x with
  | .finite negative size =>
    let d := size.shortest
    let wide := Float.ofScientific d.digits (d.exponent < 0) d.exponent.natAbs
    if negative then -wide else wide
  | _ => x.toFloat

end InlineSql.Number
