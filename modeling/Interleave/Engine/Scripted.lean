import Interleave.Engine.Basic

/-!
# Engines that follow a script

A scripted engine answers every warm-up in one way, and the other payloads in the order in which they come: the
first with the first entry of its script, the next with the next, and the last entry again and again.
-/

namespace Interleave

open Session

/-- An observation as a script gives it: a failure in it is raised when it is reported. -/
inductive Cue
  | completed
  | thrown (f : Failure)
  | raised (d : Draft)
  | violated (description : String)

def Cue.observation : Cue → Quiet Observation
  | completed => pure .completed
  | thrown f => pure (.thrown f)
  | raised d => .thrown <$> raiseDraft d
  | violated d => pure (.violated d)

/-- One answer of a script. -/
structure ScriptedRun where
  cues : List Cue := [.completed]
  ending : EngineEnd := .done

def ScriptedRun.answer (r : ScriptedRun) : Quiet Answer := do
  return { observations := ← r.cues.mapM Cue.observation, ending := r.ending }

structure ScriptedEngine where
  warmUp : ScriptedRun := {}
  runs : List ScriptedRun := []

namespace ScriptedEngine

/-- The entry of the script for the payload after `n` others. -/
def entry (e : ScriptedEngine) (n : Nat) : ScriptedRun :=
  (e.runs[n]?.or e.runs.getLast?).getD {}

def answer (e : ScriptedEngine) (earlier : List Payload) (p : Payload) : Quiet Answer :=
  if p = .warmUp then e.warmUp.answer
  else (e.entry (earlier.filter (· ≠ .warmUp)).length).answer

def engine (e : ScriptedEngine) (id : Nat) : Engine := ⟨id, e.answer⟩

end ScriptedEngine

end Interleave
