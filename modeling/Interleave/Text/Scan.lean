/-!
# Scanning a text

A scanner reads something from the front of a text, or fails without a reason. Scanners are tried one after the
other with `<|>`; each starts where the one before it started.

- `whole?`: what a scanner reads if it reads the whole text;
- `whole?_eq_some_iff`: nothing may be left.
-/

namespace Interleave.Text

abbrev Scan (α : Type) := StateT (List Char) Option α

namespace Scan

/-- The next character, which stays. -/
def peek? : Scan (Option Char) := fun cs => some (cs.head?, cs)

/-- The next character. -/
def next : Scan Char
  | [] => none
  | c :: cs => some (c, cs)

/-- A given character. -/
def char (c : Char) : Scan Unit := do
  if (← next) ≠ c then failure

/-- Whether a given character comes next; it is read if so. -/
def accept (c : Char) : Scan Bool
  | [] => some (false, [])
  | d :: cs => some (if d = c then (true, cs) else (false, d :: cs))

/-- Whether one of the given characters comes next; it is read if so. -/
def acceptSome (choice : List Char) : Scan Bool
  | [] => some (false, [])
  | d :: cs => some (if choice.contains d then (true, cs) else (false, d :: cs))

/-- A given word. -/
def word (w : String) : Scan Unit := w.toList.forM char

/-- The characters up to the first that does not satisfy `p`. -/
def takeWhile (p : Char → Bool) : Scan (List Char) := fun cs => some (cs.takeWhile p, cs.dropWhile p)

def skipWhile (p : Char → Bool) : Scan Unit := fun cs => some ((), cs.dropWhile p)

/-- At least one character that satisfies `p`, up to the first that does not. -/
def takeSome (p : Char → Bool) : Scan (List Char) := do
  let cs ← takeWhile p
  if cs.isEmpty then failure else return cs

/-- Reads what is there, or nothing. -/
def optional {α : Type} (s : Scan α) : Scan (Option α) := (some <$> s) <|> pure none

/-- What a scanner reads if it reads the whole text. -/
def whole? {α : Type} (s : Scan α) (cs : List Char) : Option α :=
  match s cs with
  | some (a, []) => some a
  | _ => none

theorem whole?_eq_some_iff {α : Type} {s : Scan α} {cs : List Char} {a : α} :
    whole? s cs = some a ↔ s cs = some (a, []) := by
  unfold whole?; split <;> simp_all

end Scan

end Interleave.Text
