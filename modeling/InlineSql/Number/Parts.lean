namespace InlineSql.Number

def twoTo (n : Nat) : Nat := Nat.pow 2 n
def tenTo (n : Nat) : Nat := Nat.pow 10 n

-- A size m·2^e. `narrow` says that the gap to the next smaller size is half the
-- gap to the next larger one, as it is at the powers of two.
structure Magnitude where
  significand : Nat
  exponent : Int
  narrow : Bool
deriving DecidableEq

inductive Parts where
  | nan
  | infinite (negative : Bool)
  | finite (negative : Bool) (size : Magnitude)
deriving DecidableEq

def Parts.ofWord (fractionBits levelBits word : Nat) : Parts :=
  let whole := twoTo fractionBits
  let fraction := word % whole
  let level := word / whole % twoTo levelBits
  let negative := word / twoTo (fractionBits + levelBits) % 2 == 1
  let least : Int := 2 - twoTo (levelBits - 1) - fractionBits
  if level + 1 = twoTo levelBits then
    if fraction = 0 then .infinite negative else .nan
  else if level = 0 then .finite negative ⟨fraction,least,false⟩
  else .finite negative ⟨fraction + whole,least + level - 1,fraction == 0 && 1 < level⟩

def parts (x : Float) : Parts := .ofWord 52 11 x.toBits.toNat
def parts32 (x : Float32) : Parts := .ofWord 23 8 x.toBits.toNat

end InlineSql.Number
