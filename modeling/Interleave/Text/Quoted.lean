import Interleave.Text.Plain

/-!
# Quoted text

- `quoted`: a text between double quotes, one visible character for each character that `isPlain` and an
  escape for every other;
- `recorded`, `bracketed`, `optional`: records, lists and values that may be absent, of texts in this form.

Names, messages and lines appear in reports in this form, so that a blank, a control character or a
combining mark in them can be seen.
-/

namespace Interleave.Text

/-- The digits of a code point in base sixteen, lower case, without leading zeros. -/
def hexDigits (n : Nat) : List Char := Nat.toDigits 16 n

/-- A character inside a quoted text. -/
def escapeChar (c : Char) : List Char :=
  match c with
  | '"' => ['\\', '"']
  | '\\' => ['\\', '\\']
  | '\t' => ['\\', 't']
  | '\r' => ['\\', 'r']
  | '\n' => ['\\', 'n']
  | '\x00' => ['\\', '0']
  | c => if isPlain c then [c] else '\\' :: 'u' :: '\x7b' :: (hexDigits c.toNat ++ ['\x7d'])

/-- A text between double quotes, with its unprintable characters escaped. -/
def quoted (s : String) : String := String.ofList ('"' :: (s.toList.flatMap escapeChar ++ ['"']))

/-! ## Records and lists in quoted form -/

/-- A list of shown values. -/
def bracketed (items : List String) : String := "[" ++ ", ".intercalate items ++ "]"

/-- A record of shown fields, on one line. -/
def recorded (name : String) (fields : List (String × String)) : String :=
  name ++ " \x7b " ++ ", ".intercalate (fields.map fun (k, v) => k ++ ": " ++ v) ++ " \x7d"

/-- A record of shown fields that keeps others to itself. -/
def recordedOpen (name : String) (fields : List (String × String)) : String :=
  name ++ " \x7b " ++ ", ".intercalate (fields.map fun (k, v) => k ++ ": " ++ v) ++ ", .. \x7d"

/-- A record that keeps some fields to itself, one shown field a line. -/
def recordedOpenLines (name : String) (fields : List (String × String)) : String :=
  let lines := fields.map fun (k, v) => "    " ++ k ++ ": " ++ v ++ ",\n"
  name ++ " \x7b\n" ++ String.join lines ++ "    ..\n\x7d"

/-- A value that may be absent. -/
def optional (shown : Option String) : String :=
  match shown with
  | none => "None"
  | some s => "Some(" ++ s ++ ")"

end Interleave.Text
