import Interleave.Toml.Value

/-!
# Tables of a settings file

A file is a list of statements: pairs, and headers that open a table, or another table of a list, for the pairs
after them. The statements are carried out in order; a table may be opened once, and a key may be set once.

- `scanStatements`: the statements of a file;
- `Table.perform`: one statement;
- `read?`: the settings of a file by their names, nothing if the file is not well formed.
-/

namespace Interleave.Toml

open Text

/-! ## Statements -/

inductive Statement
  | pair (path : List String) (key : String) (value : Setting)
  /-- opens a table -/
  | table (path : List String) (key : String)
  /-- opens another table of a list of tables -/
  | item (path : List String) (key : String)

/-- The rest of a line after a statement: nothing, or a comment. -/
def scanLineEnd : Scan Unit := do
  skipGap
  if (← Scan.peek?) = some '#' then Scan.skipWhile (· != '\n')
  match ← Scan.peek? with
  | none => return
  | some _ => Scan.char '\n'

def scanHeader : Scan Statement :=
  (do
    Scan.word "[["
    let (path, key) ← scanPath
    Scan.word "]]"
    return .item path key) <|> do
  Scan.char '['
  let (path, key) ← scanPath
  Scan.char ']'
  return .table path key

def scanPair : Scan Statement := do
  let (path, key) ← scanPath
  Scan.char '='
  skipGap
  return .pair path key (← scanValue)

/-- Statements up to the end of the file; each takes at least one character. -/
def scanStatements : Nat → Scan (List Statement)
  | 0 => failure
  | fuel + 1 => do
    skipLines
    match ← Scan.peek? with
    | none => return []
    | some c =>
      let s ← if c = '[' then scanHeader else scanPair
      scanLineEnd
      return s :: (← scanStatements fuel)

/-! ## Tables -/

/-- How a table came to be. -/
inductive Origin
  /-- it was opened by a header -/
  | opened
  /-- it is on the path of a header -/
  | implied
  /-- it is on the path of a key -/
  | dotted
  deriving DecidableEq, Repr

/-- What a key stands for. -/
inductive Entry
  | setting (s : Setting)
  | table (origin : Origin) (entries : List (String × Entry))
  /-- a list of tables, of which only the last can change -/
  | tables (last : List (String × Entry))

abbrev Table := List (String × Entry)

namespace Table

/-- Puts another entry in the place of one that is there. -/
def replace (t : Table) (key : String) (e : Entry) : Table :=
  t.map fun entry => if entry.1 = key then (key, e) else entry

/-- Changes the table at the path of a header, making the tables that are missing. -/
def within (f : Table → Option Table) : List String → Table → Option Table
  | [], t => f t
  | key :: path, t =>
    match t.lookup key with
    | none => (within f path []).map fun u => t ++ [(key, .table .implied u)]
    | some (.table origin u) => (within f path u).map fun u => t.replace key (.table origin u)
    | some (.tables u) => (within f path u).map fun u => t.replace key (.tables u)
    | some (.setting _) => none

/-- Sets a key. On its path there may be tables that no header has opened, the last of them made by keys. -/
def set (key : String) (s : Setting) : List String → Table → Option Table
  | [], t => if (t.lookup key).isSome then none else some (t ++ [(key, .setting s)])
  | part :: path, t =>
    match t.lookup part with
    | none => (set key s path []).map fun u => t ++ [(part, .table .dotted u)]
    | some (.table origin u) =>
      if origin = .opened || (path.isEmpty && origin = .implied) then none
      else (set key s path u).map fun u => t.replace part (.table origin u)
    | some (.tables u) =>
      if path.isEmpty then none else (set key s path u).map fun u => t.replace part (.tables u)
    | some (.setting _) => none

/-- Opens a table, which must be new or implied. -/
def openTable (key : String) (t : Table) : Option Table :=
  match t.lookup key with
  | none => some (t ++ [(key, .table .opened [])])
  | some (.table .implied u) => some (t.replace key (.table .opened u))
  | some _ => none

/-- Opens another table of a list, which must be new or a list of tables. -/
def openItem (key : String) (t : Table) : Option Table :=
  match t.lookup key with
  | none => some (t ++ [(key, .tables [])])
  | some (.tables _) => some (t.replace key (.tables []))
  | some _ => none

/-- Carries out a statement; `place` is the path of the open table. -/
def perform (state : Table × List String) (s : Statement) : Option (Table × List String) :=
  let (t, place) := state
  match s with
  | .pair path key v => (within (set key v path) place t).map (·, place)
  | .table path key => (within (openTable key) path t).map (·, path ++ [key])
  | .item path key => (within (openItem key) path t).map (·, path ++ [key])

end Table

/-- The setting that an entry is. -/
def Entry.toSetting : Entry → Setting
  | setting s => s
  | table _ _ => .table
  | tables _ => .list

/-! ## Files -/

/-- The settings of a file by their names. A mark of byte order at its start does not count. -/
def read? (file : String) : Option (List (String × Setting)) := do
  let cs := match file.toList with
    | '\ufeff' :: cs => cs
    | cs => cs
  let cs ← lineText? cs
  let statements ← (scanStatements (cs.length + 1)).whole? cs
  let (t, _) ← statements.foldlM Table.perform ([], [])
  return t.map fun (key, e) => (key, e.toSetting)

end Interleave.Toml
