import Interleave.Bounds.Field
import Interleave.Setting.Variable
import Interleave.Toml.Table

/-!
# Loading bounds

A bound is what the environment sets it to, else what the file sets it to, else its default.

- `Layers.find?`: what the highest layer that has a name sets it to;
- `Bounds.assign`: sets one bound, if the setting fits it;
- `Bounds.ofLayers`: all bounds, in the order of their names; the first that does not fit decides;
- `Bounds.load`: a variable that cannot be read is an error whatever the file says, and a file that is not well
  formed is one whatever the environment says.

What no bound is named, and what a higher layer hides, is not looked at.
-/

namespace Interleave

/-- Why bounds could not be loaded. A text that would be cut inside a character makes the loading panic. -/
inductive LoadError
  | badCut (b : Text.BadCut)
  | malformedFile
  | mismatch (name : String) (m : Mismatch)
  deriving DecidableEq, Repr

/-- Settings by their names, the highest layer first. -/
abbrev Layers := List (List (String × Setting))

/-- What the highest layer that has a name sets it to. -/
def Layers.find? (layers : Layers) (name : String) : Option Setting := layers.findSome? (·.lookup name)

namespace Bounds

/-- What the name of a variable that sets a bound starts with. -/
def variableStart : String := "WEFT_"

/-- Sets one bound. -/
def assign (b : Bounds) (f : Field) (s : Setting) : Except Mismatch Bounds :=
  match f with
  | .preemptionBound => do return { b with preemptionBound := some (← s.count "usize") }
  | .maxBranches => do return { b with maxBranches := ← s.count "usize" }
  | .maxPermutations => do return { b with maxPermutations := some (← s.count "usize") }
  | .maxDurationSecs => do return { b with maxDurationSecs := some (← s.count "u64") }
  | .log => do return { b with log := ← s.isSet }
  | .location => do return { b with location := ← s.isSet }

/-- Sets one bound to what the layers say, if they say something. -/
def assignFrom (layers : Layers) (b : Bounds) (f : Field) : Except LoadError Bounds :=
  match layers.find? f.name with
  | none => .ok b
  | some s => (b.assign f s).mapError (.mismatch f.name)

/-- The bounds that layers of settings give. -/
def ofLayers (layers : Layers) : Except LoadError Bounds := Field.byName.foldlM (assignFrom layers) {}

/-- The bounds that a file, if there is one, and an environment give. -/
def load (file : Option String) (environment : List (String × String)) : Except LoadError Bounds := do
  let fromVariables ← (variableSettings variableStart environment).mapError .badCut
  match file with
  | none => ofLayers [fromVariables]
  | some text =>
    match Toml.read? text with
    | none => .error .malformedFile
    | some fromFile => ofLayers [fromVariables, fromFile]

end Bounds

end Interleave
