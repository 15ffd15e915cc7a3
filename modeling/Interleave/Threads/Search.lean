import Interleave.Threads.Program
import Std.Data.HashSet

/-!
# All runs of a program

The states that a program can reach are found step by step: those after one step, those after two, and so on,
each of them once. A state in which no thread can do anything is a deadlock, or endless spinning.

When the starting thread panics, its panic is one ending, and the ways in which the threads that it leaves behind
go wrong are others, found later.
-/

namespace Interleave.Threads

/-- Elements in order of their first occurrence. -/
def distinct {α : Type} [BEq α] [Hashable α] (xs : List α) : List α :=
  (xs.foldl (fun (seen, out) x => if seen.contains x then (seen, out) else (seen.insert x, x :: out))
    ((∅ : Std.HashSet α), [])).2.reverse

namespace State

/-- The numbers of all parts, the starting thread first. -/
def everyone (s : State) : List Nat := List.range (s.parts.length + 1)

/-- The end of a run in a state. -/
def result (s : State) (e : Ending) : Result := ⟨e, s.leaked, s.scheduled⟩

/-- Whether nothing is left to do but for a starting thread that panicked. -/
def abandoned (s : State) : Bool := s.phase == .unwound && s.parts.all Part.done

/-- The ends of runs in a state, and the states after one more step. -/
def advance (p : Program) (s : State) : List Result × List State :=
  let moves := s.everyone.map (s.step p)
  let results := moves.filterMap fun
    | .stop e => some (s.result e)
    | _ => none
  let states := moves.filterMap fun
    | .next s => some s
    | .stop (.panicked _) => some { (s.release 0) with phase := .unwound }
    | _ => none
  if results.isEmpty && states.isEmpty && !s.abandoned then
    ([{ ending := if s.everyone.any (s.spins p) then .spinning else .deadlocked }], [])
  else (results, states)

end State

/-- The ends of runs from the given states, within a number of steps. -/
def resultsFrom (p : Program) : Nat → List State → List Result
  | 0, _ => []
  | n + 1, states =>
    let moves := states.map (State.advance p)
    let next := distinct (moves.flatMap Prod.snd)
    moves.flatMap Prod.fst ++ if next.isEmpty then [] else resultsFrom p n next

/-- All ends of runs of a program, in the order of their first occurrence. -/
def Program.results (p : Program) : List Result := distinct (resultsFrom p (p.size + 2) [p.start])

end Interleave.Threads
