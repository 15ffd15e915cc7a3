import Interleave.Session

/-!
# Bodies of test methods

A body works on a fixture and ends by passing, failing or panicking. A body that starts threads may end in
several ways, one for each way in which they interleave: `Body.passages` lists them all, and a run takes the
one it is told to. A body without threads has one passage (`Body.sequential`).

Whoever catches the panic of a body drops the value that it carries. The values here can be dropped; one that panics
in turn would end whatever runs the body.
-/

namespace Interleave

/-- How a body ends. -/
inductive Ending
  | passes
  /-- an existing failure is raised again -/
  | raises (f : Failure)
  | fails (d : Draft)
  | panics (p : Panic)

/-- One way through a body: the fixture it leaves, its ending, whether the scheduler had to choose between
threads, and whether a shared value was lost on the way. -/
structure Passage (σ : Type) where
  fixture : σ
  ending : Ending := .passes
  scheduled : Bool := false
  leaks : Bool := false

namespace Passage

variable {σ : Type}

/-- Whether the method fails or passes, rather than ending the whole execution. -/
def returns (p : Passage σ) : Bool :=
  match p.ending with
  | .panics ⟨_, .body⟩ => true
  | .panics _ => false
  | _ => true

def passes (p : Passage σ) : Bool :=
  match p.ending with
  | .passes => true
  | _ => false

end Passage

/-- The code of a method: its ways through, of which there is at least one. -/
structure Body (σ : Type) where
  first : σ → Passage σ
  others : σ → List (Passage σ) := fun _ => []

namespace Body

variable {σ : Type}

def passages (b : Body σ) (s : σ) : List (Passage σ) := b.first s :: b.others s

/-- The passage with the given number, the first one if there is none. -/
def run (b : Body σ) (choice : Nat) (s : σ) : Passage σ := (b.passages s)[choice]?.getD (b.first s)

/-- A body without threads of its own. -/
def sequential (f : σ → σ × Ending) : Body σ where
  first s := { fixture := (f s).1, ending := (f s).2 }

/-- A body that does nothing. -/
def skip : Body σ := sequential fun s => (s, .passes)

end Body

end Interleave
