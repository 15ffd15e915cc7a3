import Interleave.Decimal.Shortest
import Interleave.Text.Scan

/-!
# Reading numbers

- `readInteger`: a whole number between two bounds, and why a text is none;
- `readFloat?`: a number with digits around a point, taken as the nearest double;
- `readInteger_bounds`: what is read keeps the bounds.
-/

namespace Interleave.Decimal

open Text

/-! ## Whole numbers -/

/-- Why a text is no whole number between the bounds. -/
inductive IntegerFault
  | empty
  | invalidDigit
  | tooLarge
  | tooSmall
  deriving DecidableEq, Repr

def IntegerFault.text : IntegerFault → String
  | empty => "cannot parse integer from empty string"
  | invalidDigit => "invalid digit found in string"
  | tooLarge => "number too large to fit in target type"
  | tooSmall => "number too small to fit in target type"

/-- Takes digits into a number up to a limit; the first fault from the left decides. -/
def takeDigits (limit : Nat) (beyond : IntegerFault) (n : Nat) : List Char → Except IntegerFault Nat
  | [] => .ok n
  | c :: cs =>
    if !c.isDigit then .error .invalidDigit
    else
      let n := n * 10 + (c.toNat - 0x30)
      if limit < n then .error beyond else takeDigits limit beyond n cs

/-- A whole number from `-low` to `high`, with an optional sign; a minus is a sign only if `low` is positive. -/
def readInteger (low high : Nat) (cs : List Char) : Except IntegerFault Int :=
  match cs with
  | [] => .error .empty
  | ['+'] | ['-'] => .error .invalidDigit
  | '+' :: cs => (takeDigits high .tooLarge 0 cs).map Int.ofNat
  | '-' :: cs =>
    if low = 0 then .error .invalidDigit else (takeDigits low .tooSmall 0 cs).map fun n => -Int.ofNat n
  | cs => (takeDigits high .tooLarge 0 cs).map Int.ofNat

theorem takeDigits_le {limit n k : Nat} {beyond : IntegerFault} {cs : List Char} (hn : n ≤ limit)
    (h : takeDigits limit beyond n cs = .ok k) : k ≤ limit := by
  induction cs generalizing n with
  | nil => simp [takeDigits] at h; omega
  | cons c cs ih =>
    simp only [takeDigits] at h
    split at h
    · simp at h
    · split at h
      · simp at h
      · exact ih (by omega) h

theorem readInteger_bounds {low high : Nat} {cs : List Char} {n : Int} (h : readInteger low high cs = .ok n) :
    -(low : Int) ≤ n ∧ n ≤ high := by
  have key {l : Nat} {b : IntegerFault} {ds : List Char} {f : Nat → Int}
      (h : (takeDigits l b 0 ds).map f = .ok n) : ∃ k ≤ l, f k = n := by
    cases hk : takeDigits l b 0 ds with
    | error e => simp [hk, Except.map] at h
    | ok k => exact ⟨k, takeDigits_le (Nat.zero_le _) hk, by simpa [hk, Except.map] using h⟩
  unfold readInteger at h
  split at h
  · simp at h
  · simp at h
  · simp at h
  · obtain ⟨k, hk, rfl⟩ := key h; simp; omega
  · split at h
    · simp at h
    · obtain ⟨k, hk, rfl⟩ := key h; simp; omega
  · obtain ⟨k, hk, rfl⟩ := key h; simp; omega

/-! ## Doubles -/

/-- The double nearest to `digits · 10 ^ exponent`. Beyond `10 ^ 310` all numbers are infinite, below
`10 ^ -330` all are zero. -/
def nearest (negative : Bool) (digits : Nat) (exponent : Int) : Decimal :=
  let lead := (Nat.toDigits 10 digits).length + exponent
  if digits = 0 || lead < -330 then .finite negative 0 0
  else if 310 < lead then .infinite negative
  else
    let x := Float.ofScientific digits (exponent < 0) exponent.natAbs
    ofFloat (if negative then -x else x)

def digitsValue (cs : List Char) : Nat := cs.foldl (fun n c => n * 10 + (c.toNat - 0x30)) 0

/-- A sign, if there is one: whether it is a minus. -/
def scanSign : Scan Bool := do
  if ← Scan.accept '-' then return true
  discard (Scan.accept '+')
  return false

/-- An exponent with its letter; zero if there is none. -/
def scanExponent : Scan Int := do
  if ← Scan.acceptSome ['e', 'E'] then
    let negative ← scanSign
    let n := digitsValue (← Scan.takeSome Char.isDigit)
    return if negative then -Int.ofNat n else Int.ofNat n
  else return 0

/-- A number with an optional sign, a point that may stand before or behind all digits, and an exponent. -/
def scanFloat : Scan Decimal := do
  let negative ← scanSign
  let whole ← Scan.takeWhile Char.isDigit
  let fraction ← if ← Scan.accept '.' then Scan.takeWhile Char.isDigit else pure []
  if whole.isEmpty && fraction.isEmpty then failure
  let exponent ← scanExponent
  return nearest negative (digitsValue (whole ++ fraction)) (exponent - fraction.length)

/-- The double that a text of digits stands for. -/
def readFloat? (cs : List Char) : Option Decimal := scanFloat.whole? cs

end Interleave.Decimal
