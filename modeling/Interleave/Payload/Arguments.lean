import Interleave.Payload.Basic
import Interleave.Text.Split

/-!
# Reading payloads

The tokens of a payload are read as a command line from left to right, and the first fault decides. The first
token is not looked at.

- An option is written `--name=value`, or `--name` with the value as the next token, unless that starts with a
  dash and more.
- Class and test are given at most once; the value of the test is `method=` and a name that is not empty, then
  possibly `,exception=` and a type name.
- Two dashes end the options, and nothing may follow them.
- In the end class and test are there together or not at all.
-/

namespace Interleave

open Text

/-! ## Tests -/

/-- Reads the value of the test option. -/
def TestSpec.read (value : String) : Except TestSpecError TestSpec :=
  let key := "method=".toList
  if key.isPrefixOf value.toList then
    let rest := value.toList.drop key.length
    let (method, exception) :=
      match splitOnce exceptionSeparator.toList rest with
      | some (method, exception) => (method, some (String.ofList exception))
      | none => (rest, none)
    if method.isEmpty then .error .emptyMethod else .ok ⟨String.ofList method, exception⟩
  else .error (.noMethod value)

/-! ## Tokens -/

/-- What a token is when an option may start. -/
inductive Token
  | endOfOptions
  | option (o : PayloadOption) (value : Option String)
  | unknown (argument : String)
  deriving DecidableEq, Repr

/-- Reads a token that may start an option. An unknown one is cut to the part that names it. -/
def Token.ofString (s : String) : Token :=
  match s.toList with
  | ['-', '-'] => .endOfOptions
  | '-' :: '-' :: rest =>
    let (name, value) :=
      match splitOnce ['='] rest with
      | some (name, value) => (String.ofList name, some (String.ofList value))
      | none => (String.ofList rest, none)
    match PayloadOption.ofName? name with
    | some o => .option o value
    | none => .unknown ("--" ++ name)
  | '-' :: c :: _ => .unknown (String.ofList ['-', c])
  | _ => .unknown s

/-- Whether a token can be the value of the option before it: it does not look like an option. -/
def isSeparateValue (s : String) : Bool :=
  match s.toList with
  | '-' :: _ :: _ => false
  | _ => true

/-! ## Command lines -/

/-- What the options of a payload say. -/
structure Arguments where
  testClass : Option String := none
  test : Option TestSpec := none
  befores : List String := []
  afters : List String := []
  deriving DecidableEq, Repr

namespace Arguments

/-- Takes in one option with its value. -/
def set (a : Arguments) (o : PayloadOption) (value : String) : Except ArgumentError Arguments :=
  match o with
  | .testClass =>
    if a.testClass.isSome then .error (.repeated .testClass) else .ok { a with testClass := value }
  | .test =>
    if a.test.isSome then .error (.repeated .test)
    else match TestSpec.read value with
      | .ok t => .ok { a with test := t }
      | .error e => .error (.invalidTest value e)
  | .beforeMethod => .ok { a with befores := a.befores ++ [value] }
  | .afterMethod => .ok { a with afters := a.afters ++ [value] }

/-- Where an option may start: the argument that the next token shows to be unknown, if it does. -/
def unknown? : List String → Option String
  | [] => none
  | t :: rest =>
    match Token.ofString t with
    | .endOfOptions => rest.head?
    | .option _ _ => none
    | .unknown argument => some argument

/-- What is wrong when an option still needs its value and the tokens that follow do not give it. -/
def noValue (o : PayloadOption) (rest : List String) : ArgumentError :=
  match unknown? rest with
  | some argument => .unknownArgument argument
  | none => .missingValue o

/-- Takes in the options of a token list. A value in a token of its own is looked at when the next option
comes or the tokens end, so an unknown argument right behind it is the fault that is found first. -/
def readTokens (a : Arguments) : List String → Except ArgumentError Arguments
  | [] => .ok a
  | [t] =>
    match Token.ofString t with
    | .endOfOptions => .ok a
    | .option o (some value) => a.set o value
    | .option o none => .error (.missingValue o)
    | .unknown argument => .error (.unknownArgument argument)
  | t :: next :: rest =>
    match Token.ofString t with
    | .endOfOptions => .error (.unknownArgument next)
    | .option o (some value) => do (← a.set o value).readTokens (next :: rest)
    | .option o none =>
      if isSeparateValue next then
        match unknown? rest with
        | some argument => .error (.unknownArgument argument)
        | none => do (← a.set o next).readTokens rest
      else .error (noValue o (next :: rest))
    | .unknown argument => .error (.unknownArgument argument)

/-- Class and test are named together or not at all. -/
def checkPair (a : Arguments) : Except PayloadError Arguments :=
  match a.testClass, a.test with
  | some c, none => .error (.missingTest c)
  | none, some t => .error (.missingTestClass t.method)
  | _, _ => .ok a

/-- Reads a payload. -/
def read (tokens : List String) : Except PayloadError Arguments :=
  match readTokens {} (tokens.drop 1) with
  | .error e => .error (.malformed e)
  | .ok a => a.checkPair

/-- The test that is asked for, if any. -/
def checkedTest? (a : Arguments) : Option CheckedTest := do
  return { className := ← a.testClass, test := ← a.test, befores := a.befores, afters := a.afters }

end Arguments

end Interleave
