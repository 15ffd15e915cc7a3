/-!
# Why a JSON text cannot be read

A text fails either because it is not JSON (`SyntaxError`) or because the value in it is not of the wanted
form (`DataError`). Both know where reading stopped, if the place is known.
-/

namespace Interleave.Json

/-- A place in a text: the line, and the number of bytes read on it, both from one. -/
structure Position where
  line : Nat
  column : Nat
  deriving DecidableEq, Repr

/-- Ways in which a text is not JSON. -/
inductive SyntaxError
  | endInList
  | endInObject
  | endInString
  | endInValue
  | expectedColon
  | expectedListCommaOrEnd
  | expectedObjectCommaOrEnd
  | expectedLiteral
  | expectedValue
  | invalidEscape
  | invalidNumber
  | numberOutOfRange
  | controlCharacter
  | keyNotString
  | loneSurrogate
  | trailingComma
  | trailingCharacters
  | endOfHexEscape
  | tooDeep
  deriving DecidableEq, Repr

def SyntaxError.text : SyntaxError → String
  | endInList => "EOF while parsing a list"
  | endInObject => "EOF while parsing an object"
  | endInString => "EOF while parsing a string"
  | endInValue => "EOF while parsing a value"
  | expectedColon => "expected \x60:\x60"
  | expectedListCommaOrEnd => "expected \x60,\x60 or \x60]\x60"
  | expectedObjectCommaOrEnd => "expected \x60,\x60 or \x60\x7d\x60"
  | expectedLiteral => "expected ident"
  | expectedValue => "expected value"
  | invalidEscape => "invalid escape"
  | invalidNumber => "invalid number"
  | numberOutOfRange => "number out of range"
  | controlCharacter => "control character (\\u0000-\\u001F) found while parsing a string"
  | keyNotString => "key must be a string"
  | loneSurrogate => "lone leading surrogate in hex escape"
  | trailingComma => "trailing comma"
  | trailingCharacters => "trailing characters"
  | endOfHexEscape => "unexpected end of hex escape"
  | tooDeep => "recursion limit exceeded"

/-- A value as a data error describes it. -/
inductive Found
  | null
  | boolean (b : Bool)
  | integer (n : Int)
  | float (text : String)
  | string (shown : String)
  | sequence
  | map
  deriving DecidableEq, Repr

def Found.text : Found → String
  | null => "null"
  | boolean b => "boolean \x60" ++ (if b then "true" else "false") ++ "\x60"
  | integer n => "integer \x60" ++ toString n ++ "\x60"
  | float t => "floating point \x60" ++ t ++ "\x60"
  | string s => "string " ++ s
  | sequence => "sequence"
  | map => "map"

/-- Ways in which a value is not of the wanted form. -/
inductive DataError
  | missingField (name : String)
  | duplicateField (name : String)
  | unknownVariant (name : String) (variants : List String)
  | invalidType (found : Found) (expected : String)
  | invalidValue (found : Found) (expected : String)
  | invalidLength (length : Nat) (expected : String)
  deriving DecidableEq, Repr

def DataError.text : DataError → String
  | missingField f => "missing field \x60" ++ f ++ "\x60"
  | duplicateField f => "duplicate field \x60" ++ f ++ "\x60"
  | unknownVariant v vs =>
    "unknown variant \x60" ++ v ++ "\x60, expected one of " ++
      ", ".intercalate (vs.map fun v => "\x60" ++ v ++ "\x60")
  | invalidType found expected => "invalid type: " ++ found.text ++ ", expected " ++ expected
  | invalidValue found expected => "invalid value: " ++ found.text ++ ", expected " ++ expected
  | invalidLength n expected => "invalid length " ++ toString n ++ ", expected " ++ expected

/-- Why a text could not be read as a value of the wanted form. -/
inductive ReadError
  | notJson (e : SyntaxError) (place : Position)
  | notWanted (e : DataError) (place : Option Position)
  deriving DecidableEq, Repr

def ReadError.message : ReadError → String
  | notJson e p => e.text ++ " at line " ++ toString p.line ++ " column " ++ toString p.column
  | notWanted e none => e.text
  | notWanted e (some p) => e.text ++ " at line " ++ toString p.line ++ " column " ++ toString p.column

end Interleave.Json
