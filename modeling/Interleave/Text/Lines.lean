import Interleave.Text.Blank

/-!
# Lines of a byte stream

- `lines`: the pieces between line ends, without a last piece that is empty;
- `decode`: the text of a piece, if it is well-formed UTF-8;
- `decodeCut`: the text of a piece whose last character may be incomplete.
-/

namespace Interleave.Text

/-- Cuts a byte stream at its line ends. -/
def lines : List UInt8 → List (List UInt8)
  | [] => []
  | b :: bs =>
    if b = 10 then [] :: lines bs
    else match lines bs with
      | [] => [[b]]
      | line :: rest => (b :: line) :: rest

/-- The bytes of a text. -/
def encode (s : String) : List UInt8 := s.toUTF8.toList

/-- The text of some bytes. -/
def decode (bytes : List UInt8) : Option String := String.fromUTF8? bytes.toByteArray

/-- The text of bytes that were cut off somewhere: a replacement character stands for an incomplete last one,
which has up to three bytes. -/
def decodeCut (bytes : List UInt8) : String :=
  match decode bytes with
  | some s => s
  | none =>
    let shorter (n : Nat) : Option String := decode (bytes.take (bytes.length - n))
    (([1, 2, 3].findSome? shorter).getD "").push '\ufffd'

end Interleave.Text
