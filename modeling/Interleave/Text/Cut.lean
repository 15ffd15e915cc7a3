import Interleave.Text.Quoted

/-!
# Cutting a text after a number of bytes

- `takeBytes`: the characters within the first bytes of a text;
- `BadCut`: a cut that would divide a character.
-/

namespace Interleave.Text

/-- A cut inside a character: after how many bytes it was to be made, the character, and where that starts. -/
structure BadCut where
  index : Nat
  char : Char
  start : Nat
  deriving DecidableEq, Repr

def BadCut.message (b : BadCut) : String :=
  "end byte index " ++ toString b.index ++ " is not a char boundary; it is inside '" ++
    String.ofList (escapeChar b.char) ++ "' (bytes " ++ toString b.start ++ ".." ++
    toString (b.start + b.char.utf8Size) ++ " of string)"

/-- Cuts after `n` bytes a text whose first character starts at byte `start`. -/
def takeBytesFrom (start n : Nat) : List Char → Except BadCut (List Char)
  | [] => .ok []
  | c :: cs =>
    if n ≤ start then .ok []
    else if n < start + c.utf8Size then .error ⟨n, c, start⟩
    else (takeBytesFrom (start + c.utf8Size) n cs).map (c :: ·)

/-- The characters within the first `n` bytes of a text. -/
def takeBytes (n : Nat) (cs : List Char) : Except BadCut (List Char) := takeBytesFrom 0 n cs

end Interleave.Text
