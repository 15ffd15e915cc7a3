import Interleave.Bounds.Field
import Interleave.Json.Document

/-!
# Reading bounds from JSON

Bounds are an object with their names, or a list of them in order; those that are missing have their defaults.

- Members that name no bound are ignored; one that does may not come twice.
- A list may be short, but not long.
- The first value that does not fit decides, unless the text before it is no JSON.
-/

namespace Interleave.Bounds

open Json

/-- A value as a count. -/
def countOf (expected : String) (d : Document) : Except ReadError Nat :=
  match d with
  | .scalar (.number (.integer n)) stop =>
    if 0 ≤ n then .ok n.toNat else .error (.notWanted (.invalidValue (.integer n) expected) (some stop))
  | d => d.refuse expected

/-- A value as a count or as no bound. -/
def optionalCountOf (expected : String) (d : Document) : Except ReadError (Option Nat) :=
  match d with
  | .scalar .null _ => .ok none
  | d => some <$> countOf expected d

/-- A value as a flag. -/
def flagOf (d : Document) : Except ReadError Bool :=
  match d with
  | .scalar (.bool b) _ => .ok b
  | d => d.refuse "a boolean"

/-- Sets one bound to a value. -/
def assignValue (b : Bounds) (f : Field) (d : Document) : Except ReadError Bounds :=
  match f with
  | .preemptionBound => do return { b with preemptionBound := ← optionalCountOf "usize" d }
  | .maxBranches => do return { b with maxBranches := ← countOf "usize" d }
  | .maxPermutations => do return { b with maxPermutations := ← optionalCountOf "usize" d }
  | .maxDurationSecs => do return { b with maxDurationSecs := ← optionalCountOf "u64" d }
  | .log => do return { b with log := ← flagOf d }
  | .location => do return { b with location := ← flagOf d }

/-- Where the reading of a list or an object ended. -/
def placeOf (stop : Except SyntaxFault Position) : Position :=
  match stop with
  | .ok place => place
  | .error e => e.place

/-- Sets bounds from the members of an object; `seen` are those that are set already. -/
def ofMembers (stop : Except SyntaxFault Position) (seen : List Field) (b : Bounds) :
    List (Except SyntaxFault String × Document) → Except ReadError Bounds
  | [] => do
    checkFault (Document.faultOf? stop)
    return b
  | (.error e, _) :: _ => .error (.notJson e.error e.place)
  | (.ok key, d) :: rest =>
    match Field.ofName? key with
    | none => do
      checkFault d.skippedFault?
      ofMembers stop seen b rest
    | some f =>
      if f ∈ seen then .error (.notWanted (.duplicateField key) (some (placeOf stop)))
      else do ofMembers stop (f :: seen) (← b.assignValue f d) rest

/-- Sets bounds from the items of a list. -/
def ofItems (stop : Except SyntaxFault Position) (b : Bounds) :
    List Field → List Document → Except ReadError Bounds
  | _, [] => do
    checkFault (Document.faultOf? stop)
    return b
  | [], _ :: _ => .error (.notJson .trailingCharacters (placeOf stop))
  | f :: fields, d :: rest => do ofItems stop (← b.assignValue f d) fields rest

/-- Reads bounds from a value. -/
def ofDocument (d : Document) : Except ReadError Bounds :=
  match d with
  | .array _ items stop => ofItems stop {} Field.all items
  | .object _ members stop => ofMembers stop [] {} members
  | d => d.refuse "struct ExplorationConfig"

/-- Reads bounds from a text. -/
def read (text : String) : Except ReadError Bounds := do
  let (d, after) := Document.read text
  let b ← ofDocument d
  checkFault after
  return b

end Interleave.Bounds
