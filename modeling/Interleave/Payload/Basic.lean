import Interleave.Method
import Interleave.Failure.Expectation

/-!
# Payloads

A payload tells an engine which test to check. It is a list of tokens: the entry point, a token for the
class, one for the test with the type of its expected failure, and one for each method around it.

- `Payload.ofTest`: the payload of a test;
- `Payload.warmUp`: the entry point alone, which asks for nothing to be run.
-/

namespace Interleave

/-- The first token of every payload. -/
def entryPoint : String := "weft-checked-wrapper"

/-- What separates the name of a test from the type of its expected failure. -/
def exceptionSeparator : String := ",exception="

/-- A test and the type of failure it is expected to end with, by name. -/
structure TestSpec where
  method : String
  exception : Option String := none
  deriving DecidableEq, Repr

/-- A test with the methods to run around it, by name. -/
structure CheckedTest where
  className : String
  test : TestSpec
  befores : List String := []
  afters : List String := []
  deriving DecidableEq, Repr

/-- A list of tokens for an engine. -/
structure Payload where
  tokens : List String
  deriving DecidableEq, Repr

namespace TestSpec

/-- The value of the test option. -/
def text (t : TestSpec) : String :=
  "method=" ++ t.method ++ match t.exception with
    | none => ""
    | some e => exceptionSeparator ++ e

end TestSpec

/-- An option with its value in one token. -/
def PayloadOption.token (o : PayloadOption) (value : String) : String := "--" ++ o.name ++ "=" ++ value

namespace Payload

/-- Asks for nothing to be run. -/
def warmUp : Payload := ⟨[entryPoint]⟩

/-- Asks for a test to be checked. -/
def ofTest (t : CheckedTest) : Payload where
  tokens := [entryPoint, PayloadOption.testClass.token t.className, PayloadOption.test.token t.test.text] ++
    t.befores.map PayloadOption.beforeMethod.token ++ t.afters.map PayloadOption.afterMethod.token

/-- The tokens in one line. -/
def text (p : Payload) : String := " ".intercalate p.tokens

def contains (p : Payload) (token : String) : Bool := p.tokens.contains token

end Payload

end Interleave
