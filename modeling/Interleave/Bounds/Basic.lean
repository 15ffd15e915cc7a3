/-!
# Bounds of an exploration

How far an exploration goes, and what it prints. Only bounds that cannot be set up keep it from starting
(`Bounds.refusal`).
-/

namespace Interleave

/-- The settings of an explorer. -/
structure Bounds where
  preemptionBound : Option Nat := some 3
  maxBranches : Nat := 1000
  maxPermutations : Option Nat := none
  maxDurationSecs : Option Nat := none
  log : Bool := false
  location : Bool := false
  deriving DecidableEq, Repr, Inhabited

namespace Bounds

/-- Why an exploration within these bounds cannot start: preemptions are counted in a byte, and the branches of
an execution are recorded in memory. -/
def refusal (b : Bounds) : Option String :=
  if b.preemptionBound.any (255 < ·) then some "preemption_bound too big: TryFromIntError(PosOverflow)"
  else if Nat.pow 2 60 ≤ b.maxBranches then some "capacity overflow"
  else none

end Bounds

end Interleave
