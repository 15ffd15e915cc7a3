import Interleave.Text.Digit
import Interleave.Text.Scan

/-!
# Escapes in quoted settings

A text between double quotes may hold escapes: a backslash with a letter, a quote, a backslash, or the digits
of a code point.

- `untilQuote`: what stands before the closing quote, escapes included;
- `unescape`: the text that is meant. In a text of several lines, a backslash at the end of a line joins it with
  the next that is not blank.
-/

namespace Interleave.Text

/-- The character with the code point of `count` hexadecimal digits. -/
def codePoint? (count : Nat) (cs : List Char) : Option Char :=
  let digits := cs.take count
  if digits.length = count then
    (numeral? 16 digits).bind fun n => if n.isValidChar then some (Char.ofNat n) else none
  else none

/-- What follows a backslash: the character that is meant, and how many characters say so. -/
def escape? : List Char → Option (Char × Nat)
  | 'b' :: _ => some ('\x08', 1)
  | 't' :: _ => some ('\t', 1)
  | 'n' :: _ => some ('\n', 1)
  | 'f' :: _ => some ('\x0c', 1)
  | 'r' :: _ => some ('\r', 1)
  | '"' :: _ => some ('"', 1)
  | '\\' :: _ => some ('\\', 1)
  | 'u' :: cs => (codePoint? 4 cs).map (·, 5)
  | 'U' :: cs => (codePoint? 8 cs).map (·, 9)
  | _ => none

/-- Blanks inside a line. -/
def isGap (c : Char) : Bool := c == ' ' || c == '\t'

/-- How many blanks and ends of lines follow a backslash that ends a line. -/
def lineJoint? (cs : List Char) : Option Nat :=
  if (cs.dropWhile isGap).head? = some '\n' then some (cs.takeWhile fun c => isGap c || c == '\n').length
  else none

/-- Characters that stand for themselves: tabs, but no other control characters. -/
def isPrintable (c : Char) : Bool := c == '\t' || (' ' ≤ c && c ≠ '\x7f')

/-- The text that is meant by what stands between quotes; `lines` if it may go over several lines. -/
def unescape (lines : Bool) : List Char → Option (List Char)
  | [] => some []
  | '\\' :: cs =>
    match escape? cs with
    | some (c, n) => (unescape lines (cs.drop n)).map (c :: ·)
    | none =>
      match lineJoint? cs with
      | some n => if lines then unescape lines (cs.drop n) else none
      | none => none
  | c :: cs =>
    if isPrintable c || (lines && c == '\n') then (unescape lines cs).map (c :: ·) else none
termination_by cs => cs.length
decreasing_by all_goals (simp only [List.length_cons, List.length_drop]; omega)

/-- What stands before the closing quote; a backslash keeps the character after it from closing the text if
`escapes` are read. -/
def untilQuote (escapes : Bool) (quote : Char) : Scan (List Char)
  | [] => none
  | c :: cs =>
    if c = quote then some ([], cs)
    else
      match escapes && c = '\\', cs with
      | true, d :: ds => (untilQuote escapes quote ds).map fun (a, rest) => (c :: d :: a, rest)
      | _, cs => (untilQuote escapes quote cs).map fun (a, rest) => (c :: a, rest)

/-- What stands before three closing quotes. Up to two more quotes before them belong to the text. -/
def untilQuotes (escapes : Bool) (quote : Char) : Scan (List Char)
  | [] => none
  | c :: cs =>
    let run := ((c :: cs).takeWhile (· = quote)).length
    if 6 ≤ run then none
    else if 3 ≤ run then some (List.replicate (run - 3) quote, (c :: cs).drop run)
    else
      match escapes && c = '\\', cs with
      | true, d :: ds => (untilQuotes escapes quote ds).map fun (a, rest) => (c :: d :: a, rest)
      | _, cs => (untilQuotes escapes quote cs).map fun (a, rest) => (c :: a, rest)

end Interleave.Text
