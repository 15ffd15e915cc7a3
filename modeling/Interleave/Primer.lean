import Interleave.Engine.Basic

/-!
# Warming up engines

The first payload that an engine gets costs it more time than the others. A primer sends a warm-up to one
engine, once; how that ends is logged and otherwise ignored.
-/

namespace Interleave

open Session

structure Primer where
  id : Nat
  deriving DecidableEq, Repr

namespace Primer

def isPrimed (p : Primer) (s : Session) : Bool := s.primed.contains p.id

/-- What is logged at the end of a warm-up. -/
def record : EngineEnd → Record
  | .done => { level := .debug, name := "checking engine primed" }
  | .failed e => { level := .warn, name := "priming the checking engine failed", fields := [("error", e.text)] }
  | .panicked p =>
    { level := .warn, name := "checking engine panicked while priming", fields := [("panic", p.message)] }

/-- Warms an engine up, unless the primer has done its work. -/
def prime (p : Primer) (e : Engine) : Quiet Unit := do
  if p.isPrimed (← get) then return
  event .debug "priming checking engine"
  let (_, ending) ← e.run Collector.observe {} .warmUp
  Session.record (record ending)
  modify fun s => { s with primed := s.primed ++ [p.id] }

end Primer

end Interleave
