import Interleave.Body
import Interleave.Threads.Search

/-!
# Scripted bodies

A script is a list of steps on a whole number of 64 bits: it may set and check the number, fail, panic, and run
programs of several threads. A script passes if it runs out of steps; the first step that does not pass ends it.
-/

namespace Interleave

/-- One step of a script. -/
inductive ScriptStep
  | raises (f : Failure)
  | fails (d : Draft)
  | panics (p : PanicPayload)
  | set (n : Int)
  | add (n : Int)
  /-- checks the number -/
  | want (n : Int)
  /-- takes a lock that it holds -/
  | relock
  /-- runs a program, and reports a failed check as the given fault -/
  | threads (p : Threads.Program) (fault : Threads.Complaint → Fault)

namespace ScriptStep

/-- The ending of a body that runs a program. -/
def endingOf (fault : Threads.Complaint → Fault) : Threads.Ending → Ending
  | .finished => .passes
  | .failed c => .fails (.ofFault (fault c))
  | .panicked t => .panics ⟨.text t, .body⟩
  | .threadFailed c => .panics ⟨.text ((fault c).typeName ++ ": " ++ (fault c).text), .thread⟩
  | .threadPanicked t => .panics ⟨.text t, .thread⟩
  | .deadlocked => .panics ⟨.text Scheduler.deadlockText, .scheduler⟩
  | .spinning => .panics ⟨.text Scheduler.branchLimitText, .scheduler⟩

/-- The ways through one step. -/
def passages (n : Int) : ScriptStep → List (Passage Int)
  | raises f => [{ fixture := n, ending := .raises f }]
  | fails d => [{ fixture := n, ending := .fails d }]
  | panics p => [{ fixture := n, ending := .panics ⟨p, .body⟩ }]
  | set k => [{ fixture := k }]
  | add k => [{ fixture := Int.bmod (n + k) (Nat.pow 2 64) }]
  | want k =>
    if n = k then [{ fixture := n }]
    else
      let complaint : Fault := .io ("value is " ++ toString n ++ ", wanted " ++ toString k)
      [{ fixture := n, ending := .fails (.ofFault complaint) }]
  | relock =>
    [{ fixture := n, ending := .panics ⟨.text Scheduler.deadlockText, .scheduler⟩, scheduled := true }]
  | threads p fault => p.results.map fun r =>
    { fixture := n, ending := endingOf fault r.ending, scheduled := r.scheduled, leaks := r.leaked }

end ScriptStep

/-- Goes on with `q` where `p` has passed. -/
def Passage.followedBy (p q : Passage Int) : Passage Int :=
  { q with scheduled := p.scheduled || q.scheduled, leaks := p.leaks || q.leaks }

/-- The ways through a script. -/
def scriptPassages : List ScriptStep → Int → List (Passage Int)
  | [], n => [{ fixture := n }]
  | step :: rest, n => (step.passages n).flatMap fun p =>
    if p.passes then (scriptPassages rest p.fixture).map p.followedBy else [p]

/-- The body of a script. -/
def Body.ofScript (script : List ScriptStep) : Body Int where
  first n := (scriptPassages script n).headD { fixture := n }
  others n := (scriptPassages script n).tail

end Interleave
