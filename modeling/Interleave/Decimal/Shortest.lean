/-!
# Shortest decimals

The digits of a binary fraction are the fewest that read back as it: of all decimals nearer to it than to any
other fraction of its format, one with the fewest digits, and of those the nearest.

- `Shortest.digits`: the digits and the exponent of the last of them, for a positive fraction;
- `Decimal.ofFloat`: the same for any double, with its sign.
-/

namespace Interleave.Decimal

/-- A positive binary fraction `m · 2 ^ q` among its neighbours: the gap below it is half the gap above it when
`narrow` is set. -/
structure Binary where
  m : Nat
  q : Int
  narrow : Bool := false

namespace Binary

/-- Numerator over a power of two, with two spare bits for the ends of the interval. -/
def num (b : Binary) : Nat := 4 * b.m * Nat.pow 2 b.q.toNat

def den (b : Binary) : Nat := 4 * Nat.pow 2 (-b.q).toNat

/-- Half the gap above, over `den`. -/
def above (b : Binary) : Nat := 2 * Nat.pow 2 b.q.toNat

/-- Half the gap below, over `den`. -/
def below (b : Binary) : Nat := if b.narrow then b.above / 2 else b.above

/-- Whether the decimal `n / d` reads back as the fraction: ends count when `m` is even. -/
def readsBack (b : Binary) (n d : Nat) : Bool :=
  let x := n * b.den
  let low := (b.num - b.below) * d
  let high := (b.num + b.above) * d
  if b.m % 2 = 0 then low ≤ x && x ≤ high else low < x && x < high

end Binary

/-- The exponent of the first digit of `num / den`. -/
def leadingExponent (num den : Nat) : Int :=
  if den ≤ num then ((Nat.toDigits 10 (num / den)).length : Int) - 1
  else
    let l := (Nat.toDigits 10 (den / num)).length
    if den ≤ num * Nat.pow 10 (l - 1) then -((l : Int) - 1) else -(l : Int)

/-- The multiple of `10 ^ e` that reads back, if one of the two around the fraction does: the nearer of two,
the even one of two equally near. -/
def onGrid (b : Binary) (e : Int) : Option Nat :=
  let up := Nat.pow 10 e.toNat
  let down := Nat.pow 10 (-e).toNat
  let low := b.num * down / (b.den * up)
  let high := low + 1
  let fits (n : Nat) := b.readsBack (n * up) down
  -- twice the distance from the lower multiple, against one step of the grid
  let twice := 2 * (b.num * down - low * b.den * up)
  let step := b.den * up
  match fits low && low != 0, fits high with
  | true, true => if twice < step || (twice == step && low % 2 == 0) then some low else some high
  | true, false => some low
  | false, true => some high
  | false, false => none

/-- Drops zeros at the end. -/
def dropZeros : Nat → Nat → Int → Nat × Int
  | 0, n, e => (n, e)
  | fuel + 1, n, e => if n != 0 && n % 10 == 0 then dropZeros fuel (n / 10) (e + 1) else (n, e)

/-- Tries one digit, then two, up to `17`. -/
def shortestFrom (b : Binary) (lead : Int) : Nat → Nat → Nat × Int
  | 0, _ => (0, 0)
  | fuel + 1, count =>
    let e := lead - (count - 1)
    match onGrid b e with
    | some n => dropZeros 20 n e
    | none => shortestFrom b lead fuel (count + 1)

/-- The shortest digits of a positive fraction, as a number and the exponent of its last digit. -/
def Binary.shortest (b : Binary) : Nat × Int := shortestFrom b (leadingExponent b.num b.den) 18 1

end Interleave.Decimal

namespace Interleave

/-- A number as it is printed: not a number, infinite, or digits with the exponent of the last of them. -/
inductive Decimal
  | nan
  | infinite (negative : Bool)
  | finite (negative : Bool) (digits : Nat) (exponent : Int)
  deriving DecidableEq, Repr

namespace Decimal

/-- The shortest decimal of a double. -/
def ofBits (bits : UInt64) : Decimal :=
  let negative := bits >>> 63 != 0
  let biased := ((bits >>> 52) &&& 0x7ff).toNat
  let fraction := (bits &&& 0xfffffffffffff).toNat
  if biased = 0x7ff then (if fraction = 0 then .infinite negative else .nan)
  else if biased = 0 then
    if fraction = 0 then .finite negative 0 0
    else
      let (n, e) := Binary.shortest ⟨fraction, -1074, false⟩
      .finite negative n e
  else
    let (n, e) := Binary.shortest ⟨fraction + Nat.pow 2 52, biased - 1075, fraction = 0 && biased != 1⟩
    .finite negative n e

def ofFloat (x : Float) : Decimal := ofBits x.toBits

end Decimal

end Interleave
