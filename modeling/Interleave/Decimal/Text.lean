import Interleave.Decimal.Shortest

/-!
# Decimals as text

- `positional`: all digits in their places, and no point in a whole number;
- `scientific`: positional between `10 ^ -5` and `10 ^ 16`, always with a point, and otherwise one digit before
  the point and an exponent with its sign.
-/

namespace Interleave.Decimal

def digitsOf (n : Nat) : List Char := Nat.toDigits 10 n

def zeros (n : Nat) : List Char := List.replicate n '0'

/-- Whole and fractional digits of `digits · 10 ^ exponent`. -/
def places (digits : Nat) (exponent : Int) : List Char × List Char :=
  let ds := digitsOf digits
  if 0 ≤ exponent then (if digits = 0 then ['0'] else ds ++ zeros exponent.toNat, [])
  else
    let after := (-exponent).toNat
    let padded := zeros (after + 1 - ds.length) ++ ds
    (padded.take (padded.length - after), padded.drop (padded.length - after))

def signed (negative : Bool) (s : List Char) : String := String.ofList (if negative then '-' :: s else s)

/-- All digits in their places. -/
def positional : Decimal → String
  | nan => "NaN"
  | infinite negative => signed negative "inf".toList
  | finite negative digits exponent =>
    let (whole, fraction) := places digits exponent
    signed negative (if fraction.isEmpty then whole else whole ++ '.' :: fraction)

/-- An exponent with its sign. -/
def exponentText (e : Int) : List Char := (if e < 0 then '-' else '+') :: digitsOf e.natAbs

/-- Positional for moderate numbers, with an exponent for very small and very large ones. -/
def scientific : Decimal → String
  | nan => "NaN"
  | infinite negative => signed negative "inf".toList
  | finite negative digits exponent =>
    let ds := digitsOf digits
    let lead := exponent + ds.length - 1
    if digits = 0 || (-5 ≤ lead && lead ≤ 15) then
      let (whole, fraction) := places digits exponent
      signed negative (whole ++ '.' :: (if fraction.isEmpty then ['0'] else fraction))
    else
      let mantissa := match ds with
        | [d] => [d]
        | d :: rest => d :: '.' :: rest
        | [] => []
      signed negative (mantissa ++ 'e' :: exponentText lead)

end Interleave.Decimal
