import Interleave.Json.ReadError
import Interleave.Decimal.Text

/-!
# JSON numbers

A whole number of 64 bits is an integer, every other number a double. The double is the first digits of the
literal, as many as a word of 64 bits holds, scaled by one power of ten at a time; a number beyond all doubles
is out of range.
-/

namespace Interleave.Json

/-- A number literal in its parts: digits before the point, digits after it, and the exponent. -/
structure Literal where
  negative : Bool
  whole : List Nat
  fraction : Option (List Nat) := none
  exponent : Option Int := none
  deriving DecidableEq, Repr

inductive Number
  | integer (n : Int)
  | float (x : Float)
  | outOfRange

namespace Literal

/-- The largest word. -/
def wordMax : Nat := Nat.pow 2 64 - 1

/-- Takes digits into a word while they fit, and returns the digits that are left. -/
def fill (word : Nat) : List Nat → Nat × List Nat
  | [] => (word, [])
  | d :: ds => if word * 10 + d ≤ wordMax then fill (word * 10 + d) ds else (word, d :: ds)

/-- The word of first digits and the exponent that goes with it. -/
def scaled (l : Literal) : Nat × Int :=
  let (word, left) := fill 0 l.whole
  let (word, used) := match l.fraction with
    | none => (word, 0)
    | some ds =>
      let (word', left') := fill word ds
      (word', ds.length - left'.length)
  (word, (left.length : Int) - used + l.exponent.getD 0)

/-- Powers of ten that a double holds. -/
def power (n : Nat) : Float := Float.ofScientific 1 false n

/-- Scales a double by a power of ten, by at most `10 ^ 308` at a time. -/
def scale (fuel : Nat) (x : Float) (e : Int) : Option Float :=
  match fuel with
  | 0 => some 0.0
  | fuel + 1 =>
    if e.natAbs ≤ 308 then
      if 0 ≤ e then
        let y := x * power e.natAbs
        if y.isInf then none else some y
      else some (x / power e.natAbs)
    else if x == 0.0 then some x
    else if 0 ≤ e then none
    else scale fuel (x / power 308) (e + 308)

def toFloat (l : Literal) : Option Float :=
  let (word, e) := l.scaled
  (scale 8 word.toUInt64.toFloat e).map fun x => if l.negative then -x else x

/-- The number a literal stands for. -/
def number (l : Literal) : Number :=
  let n := l.whole.foldl (fun n d => n * 10 + d) 0
  let isWhole := l.fraction.isNone && l.exponent.isNone
  if isWhole && !l.negative && n ≤ wordMax then .integer n
  else if isWhole && l.negative && 0 < n && n ≤ Nat.pow 2 63 then .integer (-n)
  else match l.toFloat with
    | some x => .float x
    | none => .outOfRange

end Literal

/-- A number as a data error describes it. -/
def Number.found : Number → Found
  | integer n => .integer n
  | float x => .float (Decimal.ofFloat x).scientific
  | outOfRange => .null

end Interleave.Json
