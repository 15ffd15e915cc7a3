import Interleave.Bounds.Basic

/-!
# The bounds by name

- `Bounds.Field`: the bounds as things to be set;
- `Field.name`: the name by which files, variables and objects set a bound.
-/

namespace Interleave.Bounds

inductive Field
  | preemptionBound
  | maxBranches
  | maxPermutations
  | maxDurationSecs
  | log
  | location
  deriving DecidableEq, Repr

namespace Field

/-- The bounds in the order in which a list gives them. -/
def all : List Field := [preemptionBound, maxBranches, maxPermutations, maxDurationSecs, log, location]

/-- The bounds in the order of their names. -/
def byName : List Field := [location, log, maxBranches, maxDurationSecs, maxPermutations, preemptionBound]

def name : Field → String
  | preemptionBound => "preemption_bound"
  | maxBranches => "max_branches"
  | maxPermutations => "max_permutations"
  | maxDurationSecs => "max_duration_secs"
  | log => "log"
  | location => "location"

def ofName? (name : String) : Option Field := all.find? (·.name == name)

theorem mem_byName (f : Field) : f ∈ byName := by
  cases f <;> decide

end Field

end Interleave.Bounds
