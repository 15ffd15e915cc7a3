import Interleave.Text.Quoted

/-!
# Test methods by name

A class registers methods in four roles. A method is addressed by the name of its class and its own name.
-/

namespace Interleave

open Text

/-- The role a method is registered in. -/
inductive MethodKind
  | test
  | concurrent
  | before
  | after
  deriving DecidableEq, Repr, Inhabited

namespace MethodKind

/-- Ordinary and concurrent tests, as opposed to the methods that run around them. -/
def isTest : MethodKind → Bool
  | test | concurrent => true
  | before | after => false

def text : MethodKind → String
  | test => "Test"
  | concurrent => "Concurrent"
  | before => "Before"
  | after => "After"

/-- Whether a method registered as `actual` can be used as `wanted`: every test can be used as a test. -/
def fits (actual wanted : MethodKind) : Bool :=
  if wanted.isTest then actual.isTest else actual == wanted

end MethodKind

/-- A method named by its class and its own name. -/
structure Descriptor where
  className : String
  name : String
  deriving DecidableEq, Repr, Inhabited

namespace Descriptor

def text (d : Descriptor) : String := d.className ++ "::" ++ d.name

/-- All fields in quoted form. -/
def shown (d : Descriptor) : String :=
  recorded "MethodDescriptor" [("class", quoted d.className), ("name", quoted d.name)]

end Descriptor

/-- What is wrong with a registered method. -/
inductive ClassProblem
  | emptyName (kind : MethodKind)
  | repeatedName (name : String)
  | expectingHook (kind : MethodKind) (name : String)
  deriving DecidableEq, Repr

def ClassProblem.message : ClassProblem → String
  | emptyName kind => "a " ++ kind.text ++ " method has an empty name"
  | repeatedName name => "method " ++ name ++ " is registered more than once"
  | expectingHook kind name => kind.text ++ " method " ++ name ++ " cannot declare an expected failure"

/-- Ways in which a request does not fit a class, or a class is not a class. -/
inductive ConfigurationError
  | undeclaredMethod (className method : String)
  | foreignMethod (className method owner : String)
  | wrongKind (className method : String) (wanted actual : MethodKind)
  | unknownFailureType (className typeName : String)
  | invalidClass (className : String) (problems : List ClassProblem)
  deriving DecidableEq, Repr

def ConfigurationError.message : ConfigurationError → String
  | undeclaredMethod c m => "class " ++ c ++ " does not declare method " ++ m
  | foreignMethod c m o => "method " ++ m ++ " belongs to class " ++ o ++ ", not to " ++ c
  | wrongKind c m wanted actual =>
    "method " ++ m ++ " of class " ++ c ++ " is a " ++ actual.text ++ " method, not a " ++
      wanted.text ++ " method"
  | unknownFailureType c t => "class " ++ c ++ " declares no expected failure of type " ++ t
  | invalidClass c problems =>
    "class " ++ c ++ " is invalid: " ++ "; ".intercalate (problems.map ClassProblem.message)

end Interleave
