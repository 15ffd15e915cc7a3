import Interleave.Decimal.Text
import Interleave.Text.Quoted

/-!
# Settings

What a file or the environment gives for a bound, before it is known whether it fits.

- `Setting.count`: a setting as a count; a negative number is of the right type but has no right value;
- `Setting.isSet`: a setting as a flag;
- `count_eq_ok_iff`, `isSet_eq_ok_iff`: nothing is converted.
-/

namespace Interleave

open Text

/-- What a source gives for a name. Lists and tables are no bounds, so that what is in them does not matter. -/
inductive Setting
  | flag (b : Bool)
  /-- a number from a source that tells counts from other numbers -/
  | natural (n : Nat)
  | integer (n : Int)
  | float (x : Decimal)
  | text (s : String)
  | list
  | table
  deriving DecidableEq, Repr

/-- Why a setting does not fit. -/
inductive Mismatch
  | invalidType (found : Setting) (expected : String)
  | invalidValue (found : Setting) (expected : String)
  deriving DecidableEq, Repr

namespace Setting

/-- A setting as a mismatch describes it. -/
def shown : Setting → String
  | flag b => "bool " ++ (if b then "true" else "false")
  | natural n => "unsigned int \x60" ++ toString n ++ "\x60"
  | integer n => "signed int \x60" ++ toString n ++ "\x60"
  | float x => "float \x60" ++ x.positional ++ "\x60"
  | text s => "string " ++ quoted s
  | list => "sequence"
  | table => "map"

/-- A setting as a count; `expected` names the type in case it is none. -/
def count (expected : String) : Setting → Except Mismatch Nat
  | natural n => .ok n
  | integer n => if 0 ≤ n then .ok n.toNat else .error (.invalidValue (integer n) expected)
  | s => .error (.invalidType s expected)

/-- A setting as a flag. -/
def isSet : Setting → Except Mismatch Bool
  | flag b => .ok b
  | s => .error (.invalidType s "a boolean")

theorem count_eq_ok_iff {e : String} {s : Setting} {n : Nat} :
    s.count e = .ok n ↔ s = .natural n ∨ s = .integer n := by
  cases s with
  | natural m => simp [count]
  | integer m =>
    simp only [count]
    split
    · simp; omega
    · simp; omega
  | _ => simp [count]

theorem isSet_eq_ok_iff {s : Setting} {b : Bool} : s.isSet = .ok b ↔ s = .flag b := by
  cases s <;> simp [isSet]

end Setting

def Mismatch.text : Mismatch → String
  | invalidType found expected => "invalid type: found " ++ found.shown ++ ", expected " ++ expected
  | invalidValue found expected => "invalid value " ++ found.shown ++ ", expected " ++ expected

end Interleave
