import InlineSql.Number.Shortest

namespace InlineSql.Number

def Decimal.text (d : Decimal) : List Char := Nat.toDigits 10 d.digits

def Decimal.point (d : Decimal) : Int := d.text.length + d.exponent

def Decimal.positional (d : Decimal) (whole : List Char) : List Char :=
  if 0 ≤ d.exponent then d.text ++ List.replicate d.exponent.toNat '0' ++ whole
  else if 0 < d.point then d.text.take d.point.toNat ++ '.' :: d.text.drop d.point.toNat
  else '0' :: '.' :: List.replicate (-d.point).toNat '0' ++ d.text

def Decimal.scientific (d : Decimal) : List Char :=
  let fraction := d.text.drop 1
  d.text.take 1 ++ (if fraction.isEmpty then [] else '.' :: fraction) ++
    'e' :: (toString (d.point - 1)).toList

def signed (negative : Bool) (text : List Char) : String :=
  .ofList (if negative then '-' :: text else text)

-- A number as statements show it: never an exponent, no fraction for a whole
-- number, and a sign for the negative zero.
def plain (x : Float) : String :=
  match parts x with
  | .nan => "NaN"
  | .infinite negative => signed negative ['i','n','f']
  | .finite negative size => signed negative (size.shortest.positional [])

def inspected (x : Float) : String :=
  match parts x with
  | .nan => "NaN"
  | .infinite negative => signed negative ['i','n','f']
  | .finite negative size =>
    let d := size.shortest
    signed negative <|
      if d.digits = 0 || (-4 < d.point && d.point ≤ 16) then d.positional ['.','0']
      else d.scientific

end InlineSql.Number
