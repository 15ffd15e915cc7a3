import Interleave.Text.Terminal

/-!
# Why a payload cannot be read

A payload is a token list in the form of a command line with four options. It is refused for a token that is
no option, for an option without or with a bad value, for a repeated option, and when it names only one of
class and test method.
-/

namespace Interleave

open Text

/-- The options of a payload. -/
inductive PayloadOption
  | testClass
  | test
  | beforeMethod
  | afterMethod
  deriving DecidableEq, Repr

namespace PayloadOption

/-- The option as it is written, without its dashes. -/
def name : PayloadOption → String
  | testClass => "testclass"
  | test => "test"
  | beforeMethod => "beforemethod"
  | afterMethod => "aftermethod"

/-- The name under which messages speak of the option's value. -/
def placeholder : PayloadOption → String
  | testClass => "TEST_CLASS"
  | test => "TEST"
  | beforeMethod => "BEFORE_METHODS"
  | afterMethod => "AFTER_METHODS"

/-- The option with its value, as messages show it. -/
def usage (o : PayloadOption) : String := "--" ++ o.name ++ " <" ++ o.placeholder ++ ">"

def ofName? (s : String) : Option PayloadOption :=
  if s = "testclass" then some testClass
  else if s = "test" then some test
  else if s = "beforemethod" then some beforeMethod
  else if s = "aftermethod" then some afterMethod
  else none

theorem ofName?_name (o : PayloadOption) : ofName? o.name = some o := by cases o <;> decide

end PayloadOption

/-- Ways in which the value of the test option is no test. -/
inductive TestSpecError
  | noMethod (value : String)
  | emptyMethod
  deriving DecidableEq, Repr

def TestSpecError.message : TestSpecError → String
  | noMethod value => "test descriptor must start with \x60method=\x60: " ++ value
  | emptyMethod => "test descriptor names an empty method"

/-- Ways in which a token list is no command line with the four options. -/
inductive ArgumentError
  | unknownArgument (argument : String)
  | missingValue (o : PayloadOption)
  | repeated (o : PayloadOption)
  | invalidTest (value : String) (reason : TestSpecError)
  deriving DecidableEq, Repr

/-- The message ends its line. What it takes from the payload is shown without control sequences, and one that
is still open at its end takes the end of the line with it. -/
def ArgumentError.message : ArgumentError → String
  | unknownArgument a => "unexpected argument '" ++ visible a ++ "' found\n"
  | missingValue o => "a value is required for '" ++ o.usage ++ "' but none was supplied\n"
  | repeated o => "the argument '" ++ o.usage ++ "' cannot be used multiple times\n"
  | invalidTest v e =>
    "invalid value '" ++ visible v ++ "' for '" ++ PayloadOption.test.usage ++ "': " ++
      visible (e.message ++ "\n")

/-- Why a payload was refused. -/
inductive PayloadError
  | malformed (e : ArgumentError)
  | missingTest (className : String)
  | missingTestClass (method : String)
  deriving DecidableEq, Repr

def PayloadError.message : PayloadError → String
  | malformed e => "malformed payload: error: " ++ e.message
  | missingTest c => "payload names class " ++ c ++ " but no test method"
  | missingTestClass m => "payload names test method " ++ m ++ " but no class"

end Interleave
