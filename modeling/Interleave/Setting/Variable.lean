import Interleave.Decimal.Reader
import Interleave.Setting.Basic
import Interleave.Text.Blank
import Interleave.Text.Cut
import Interleave.Text.Escape
import Interleave.Text.Split

/-!
# Settings from environment variables

A variable whose name starts with a prefix, in any case, gives a setting for the rest of its name in lower
case. Points in that rest make tables of tables, and none of its parts may be empty.

- `Setting.ofText`: the setting a value stands for. A value that fits no other form is a text as it stands;
- `Setting.unquote`: a text with escapes counts the characters before its first escape as bytes;
- `variableSettings`: the settings of an environment, the last one for a name first.
-/

namespace Interleave

open Text

namespace Setting

/-! ## Values -/

def isAsciiBlank (c : Char) : Bool := c == ' ' || c == '\t' || c == '\n' || c == '\x0c' || c == '\r'

/-- Characters that end a plain value. -/
def isSeparator (c : Char) : Bool := c == ',' || c == '\x7b' || c == '\x7d' || c == '[' || c == ']'

def isKeyChar (c : Char) : Bool := c.isAlphanum || c == '_' || c == '-'

def wordMax : Nat := Nat.pow 2 64 - 1

/-- A value without marks: a number if it is one, else a text. -/
def ofPlain (cs : List Char) : Setting :=
  let cs := trim cs
  match if cs.contains '.' then Decimal.readFloat? cs else none with
  | some x => float x
  | none =>
    match Decimal.readInteger 0 wordMax cs with
    | .ok n => natural n.toNat
    | .error _ =>
      match Decimal.readInteger (Nat.pow 2 63) (Nat.pow 2 63 - 1) cs with
      | .ok n => integer n
      | .error _ => text (String.ofList cs)

/-- The text that is meant by what stands between double quotes. In front of the first escape, as many bytes
are kept as there are characters. -/
def unquote (cs : List Char) : Option (Except BadCut (List Char)) :=
  let before := cs.takeWhile (· ≠ '\\')
  match cs.dropWhile (· ≠ '\\') with
  | [] => if before.all isPrintable then some (.ok before) else none
  | escaped =>
    if before.all isPrintable then
      match takeBytes before.length before with
      | .error e => some (.error e)
      | .ok kept => (unescape false escaped).map fun rest => .ok (kept ++ rest)
    else none

/-- A scan that ends at once when a text would be cut inside a character. -/
abbrev CutScan (α : Type) := ExceptT BadCut Scan α

/-- A text between double quotes. -/
def scanQuoted : CutScan (List Char) := do
  (Scan.char '"' : Scan Unit)
  match unquote (← (untilQuote true '"' : Scan (List Char))) with
  | some cs => cs
  | none => (failure : Scan (List Char))

def scanKey : CutScan Unit := do
  if (← Scan.peek?) = some '"' then discard scanQuoted else discard (Scan.takeSome isKeyChar : Scan _)

/-- Items up to a closing mark, with commas between them and perhaps one at the end. -/
def scanItems (item : CutScan Unit) (close : Char) : Nat → CutScan Unit
  | 0 => (failure : Scan Unit)
  | fuel + 1 => do
    if ← Scan.accept close then return
    item
    if ← Scan.accept ',' then scanItems item close fuel else Scan.char close

/-- Items up to a closing mark; each takes at least its comma. -/
def scanAll (item : CutScan Unit) (close : Char) : CutScan Unit :=
  ExceptT.mk fun cs => scanItems item close (cs.length + 1) cs

def scanFlag : Scan Bool :=
  (do Scan.word "true"; return true) <|> (do Scan.word "false"; return false)

/-- A value by its first characters; `value` reads what is in a list or a table. -/
def scanMarked (value : CutScan Setting) : CutScan Setting := do
  if let some b ← Scan.optional scanFlag then return flag b
  match ← Scan.peek? with
  | some '\x7b' =>
    Scan.char '\x7b'
    scanAll (do
      Scan.skipWhile isAsciiBlank
      scanKey
      Scan.skipWhile isAsciiBlank
      Scan.char '='
      discard value) '\x7d'
    return table
  | some '[' =>
    Scan.char '['
    scanAll (discard value) ']'
    return list
  | some '"' => return text (String.ofList (← scanQuoted))
  | some '\'' =>
    Scan.char '\''
    let c ← Scan.next
    Scan.char '\''
    return text (String.singleton c)
  | _ => return ofPlain (← Scan.takeWhile fun c => !isSeparator c)

/-- A value inside fewer than `depth` lists and tables. -/
def scanValue : Nat → CutScan Setting
  | 0 => (failure : Scan Setting)
  | depth + 1 => do
    Scan.skipWhile isAsciiBlank
    let s ← scanMarked (scanValue depth)
    Scan.skipWhile isAsciiBlank
    return s

/-- The setting that the value of a variable stands for. -/
def ofText (value : String) : Except BadCut Setting :=
  let cs := value.toList
  match (scanValue (cs.length + 1)).run cs with
  | some (.error e, _) => .error e
  | some (.ok s, []) => .ok s
  | _ => .ok (text value)

end Setting

/-! ## Variables -/

/-- The environment after variables were set in the given order: one that is set again keeps its place. -/
def environmentOf (assignments : List (String × String)) : List (String × String) :=
  assignments.foldl (fun env (name, value) =>
    if env.any (·.1 == name) then env.map fun v => if v.1 = name then (name, value) else v
    else env ++ [(name, value)]) []

/-- The name for which a variable gives a setting, and whether it gives a table. -/
def variableName? (start name : String) : Option (String × Bool) :=
  let lower := (trim name.toList).map Char.toLower
  let start := start.toList.map Char.toLower
  if start.isPrefixOf lower then
    match splitAll (· == '.') (trim (lower.drop start.length)) with
    | [] => none
    | part :: more =>
      if (part :: more).any List.isEmpty then none else some (String.ofList part, !more.isEmpty)
  else none

/-- The setting that a variable gives, if it gives one. -/
def variableSetting? (start : String) (v : String × String) : Except BadCut (Option (String × Setting)) :=
  match variableName? start v.1 with
  | none => .ok none
  | some (name, nested) => do
    let s ← Setting.ofText v.2
    return some (name, if nested then .table else s)

/-- The settings of an environment. Of two for a name the last one counts, so it comes first. -/
def variableSettings (start : String) (environment : List (String × String)) :
    Except BadCut (List (String × Setting)) := do
  return ((← environment.mapM (variableSetting? start)).filterMap id).reverse

end Interleave
