import Interleave.Decimal.Reader
import Interleave.Setting.Basic
import Interleave.Text.Escape

/-!
# Values of a settings file

A settings file is a TOML document. Its values are texts, whole numbers of 64 bits in four bases, doubles,
flags, dates and times, lists, and tables between braces.

- `scanValue`: a value, with the setting it stands for;
- `scanPath`: a key, which may have several parts with points between them;
- `lineText?`: the text of a file with its ends of lines made equal. Other control characters than tabs are
  refused, so that nothing else needs to look for them.
-/

namespace Interleave.Toml

open Text

/-! ## Characters -/

/-- The text of a file, each line ended by a line feed alone. -/
def lineText? : List Char → Option (List Char)
  | [] => some []
  | '\r' :: '\n' :: cs => (lineText? cs).map ('\n' :: ·)
  | c :: cs => if isPrintable c || c == '\n' then (lineText? cs).map (c :: ·) else none

def skipGap : Scan Unit := Scan.skipWhile isGap

/-- What is left after blanks, comments and ends of lines; `inComment` until the end of the line. -/
def afterLines (inComment : Bool) : List Char → List Char
  | [] => []
  | c :: cs =>
    if inComment then afterLines (c != '\n') cs
    else if isGap c || c == '\n' then afterLines false cs
    else if c == '#' then afterLines true cs
    else c :: cs

def skipLines : Scan Unit := fun cs => some ((), afterLines false cs)

/-! ## Texts -/

/-- A text on one line. -/
def scanLine (escapes : Bool) (quote : Char) : Scan (List Char) := do
  Scan.char quote
  let raw ← untilQuote escapes quote
  if raw.contains '\n' then failure
  if escapes then unescape false raw else return raw

/-- A text between three quotes on each side, which may go over several lines; an end of line at its start is
left out. -/
def scanLines (escapes : Bool) (quote : Char) : Scan (List Char) := do
  Scan.word (String.ofList [quote, quote, quote])
  discard (Scan.accept '\n')
  let raw ← untilQuotes escapes quote
  if escapes then unescape true raw else return raw

def scanText : Scan (List Char) :=
  scanLines true '"' <|> scanLines false '\'' <|> scanLine true '"' <|> scanLine false '\''

/-! ## Keys -/

def isBareKeyChar (c : Char) : Bool := c.isAlphanum || c == '_' || c == '-'

def scanKey : Scan (List Char) := scanLine true '"' <|> scanLine false '\'' <|> Scan.takeSome isBareKeyChar

/-- How deep lists and tables may be nested, and how many parts a key may have. -/
def maxDepth : Nat := 79

def scanParts : Nat → Scan (List String × String)
  | 0 => failure
  | parts + 1 => do
    skipGap
    let key := String.ofList (← scanKey)
    skipGap
    if ← Scan.accept '.' then
      let (path, last) ← scanParts parts
      return (key :: path, last)
    else return ([], key)

/-- A key: the parts before the last, and the last. -/
def scanPath : Scan (List String × String) := scanParts maxDepth

/-! ## Numbers -/

/-- Digits with single underscores between them. -/
def scanDigits (isDigit : Char → Bool) : Scan (List Char) := do
  let run ← Scan.takeSome fun c => isDigit c || c == '_'
  let doubled := (run.zip run.tail).contains ('_', '_')
  if run.head? = some '_' || run.getLast? = some '_' || doubled then failure
  return run.filter (· != '_')

def scanSign : Scan (List Char) := do
  match ← Scan.peek? with
  | some '+' => Scan.char '+'; return []
  | some '-' => Scan.char '-'; return ['-']
  | _ => return []

/-- A sign and digits without zeros in front. -/
def scanWhole : Scan (List Char) := do
  let sign ← scanSign
  let digits ← scanDigits Char.isDigit
  if digits.head? = some '0' && digits.length ≠ 1 then failure
  return sign ++ digits

def scanFraction : Scan (List Char) := do
  Scan.char '.'
  return '.' :: (← scanDigits Char.isDigit)

def scanExponent : Scan (List Char) := do
  if !(← Scan.acceptSome ['e', 'E']) then failure
  let sign ← scanSign
  return 'e' :: (sign ++ (← scanDigits Char.isDigit))

/-- A number with a fraction or an exponent, which must not be too large if it is positive. -/
def scanFloat : Scan Setting := do
  let whole ← scanWhole
  let rest ← scanExponent <|> do
    let fraction ← scanFraction
    return fraction ++ (← scanExponent <|> pure [])
  match Decimal.readFloat? (whole ++ rest) with
  | none | some (.infinite false) => failure
  | some x => return .float x

def scanSpecial : Scan Setting := do
  let sign ← scanSign
  (do Scan.word "inf"; return .float (.infinite (!sign.isEmpty))) <|> (do Scan.word "nan"; return .float .nan)

/-- A number after the mark of its base. -/
def scanBased (mark : String) (base : Nat) : Scan Setting := do
  Scan.word mark
  let digits ← scanDigits fun c => (hexDigit? c).any (· < base)
  match numeral? base digits with
  | some n => if n < Nat.pow 2 63 then return .integer n else failure
  | none => failure

def scanInteger : Scan Setting :=
  scanBased "0x" 16 <|> scanBased "0o" 8 <|> scanBased "0b" 2 <|> do
  match Decimal.readInteger (Nat.pow 2 63) (Nat.pow 2 63 - 1) (← scanWhole) with
  | .ok n => return .integer n
  | .error _ => failure

/-! ## Dates and times -/

/-- A number of exactly `count` digits between two bounds. -/
def scanField (count low high : Nat) : Scan Nat := fun cs =>
  let digits := cs.take count
  let n := Decimal.digitsValue digits
  if digits.length = count && digits.all Char.isDigit && low ≤ n && n ≤ high then some (n, cs.drop count)
  else none

def daysIn (year month : Nat) : Nat :=
  if month = 2 then (if year % 4 = 0 && (year % 100 ≠ 0 || year % 400 = 0) then 29 else 28)
  else if [4, 6, 9, 11].contains month then 30
  else 31

def scanDate : Scan Unit := do
  let year ← scanField 4 0 9999
  Scan.char '-'
  let month ← scanField 2 1 12
  Scan.char '-'
  discard (scanField 2 1 (daysIn year month))

def scanTime : Scan Unit := do
  discard (scanField 2 0 23)
  Scan.char ':'
  discard (scanField 2 0 59)
  Scan.char ':'
  discard (scanField 2 0 60)
  discard (Scan.optional do
    Scan.char '.'
    Scan.takeSome Char.isDigit)

/-- How far a time is from the universal one. -/
def scanOffset : Scan Unit := do
  if ← Scan.acceptSome ['Z', 'z'] then return
  if !(← Scan.acceptSome ['+', '-']) then failure
  discard (scanField 2 0 23)
  Scan.char ':'
  discard (scanField 2 0 59)

/-- A date, a time, or both. They are kept as tables. -/
def scanMoment : Scan Setting := do
  (do
    scanDate
    discard (Scan.optional do
      if !(← Scan.acceptSome ['T', 't', ' ']) then failure
      scanTime
      discard (Scan.optional scanOffset))) <|> scanTime
  return .table

/-! ## Lists and tables -/

/-- Whether keys may all be set in one table between braces, where each part of a key before the last makes a
table of its own: no key is set twice, and none is both set and made a table. -/
def areDistinct (keys : List (List String)) : Bool :=
  keys.zipIdx.all fun (k, i) => keys.zipIdx.all fun (l, j) => i == j || !k.isPrefixOf l

/-- The items of a list up to its end. -/
def scanItems (value : Scan Setting) : Nat → Scan Unit
  | 0 => failure
  | fuel + 1 => do
    skipLines
    if ← Scan.accept ']' then return
    discard value
    skipLines
    if ← Scan.accept ',' then scanItems value fuel else Scan.char ']'

/-- The pairs of a table up to its end, with commas between them: their keys. -/
def scanPairs (value : Scan Setting) : Nat → Scan (List (List String))
  | 0 => failure
  | fuel + 1 => do
    let (path, key) ← scanPath
    Scan.char '='
    skipGap
    discard value
    skipGap
    let key := path ++ [key]
    if ← Scan.accept ',' then return key :: (← scanPairs value fuel)
    Scan.char '\x7d'
    return [key]

/-- A list or a table by its first character; `value` reads what is in it. -/
def scanCollection (value : Scan Setting) : Scan Setting := fun cs =>
  let fuel := cs.length
  let list : Scan Setting := do
    Scan.char '['
    scanItems value fuel
    return .list
  let table : Scan Setting := do
    Scan.char '\x7b'
    skipGap
    if ← Scan.accept '\x7d' then return .table
    if areDistinct (← scanPairs value fuel) then return .table else failure
  (list <|> table) cs

/-- A value inside at most `maxDepth - depth` lists and tables. -/
def scanValueWithin (depth : Nat) : Scan Setting :=
  let collection : Scan Setting := match depth with
    | 0 => failure
    | depth + 1 => scanCollection (scanValueWithin depth)
  (do return .text (String.ofList (← scanText))) <|> collection <|> scanMoment <|> scanFloat <|> scanSpecial <|>
    scanInteger <|> (do Scan.word "true"; return .flag true) <|> (do Scan.word "false"; return .flag false)

def scanValue : Scan Setting := scanValueWithin maxDepth

end Interleave.Toml
