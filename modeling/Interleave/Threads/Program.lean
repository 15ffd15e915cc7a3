/-!
# Programs of several threads

A program starts its threads, runs a part of its own beside them, waits for all of them, and then runs a last
part alone. Threads share atomic cells and values behind locks; each part has a register, and gives its locks
back when it ends.

- `State`: the shared values and where every thread stands;
- `State.step`: what one thread does next, if it can do anything;
- each step takes a thread forward (`State.step` never goes back), so a program of `size` instructions has ended
  or is stuck after as many steps.
-/

namespace Interleave.Threads

/-- One instruction; `r` stands for the register. -/
inductive Op
  | load (cell : Nat)
  | store (cell : Nat) (k : Int)
  | storeRegister (cell : Nat)
  | addRegister (k : Int)
  | fetchAdd (cell : Nat) (k : Int)
  | swap (cell : Nat) (k : Int)
  /-- sets `r` to one if the cell held the old value and now holds the new one, else to zero -/
  | compareSwap (cell : Nat) (old new : Int)
  | lock (m : Nat)
  | unlock (m : Nat)
  | get (m : Nat)
  | set (m : Nat) (k : Int)
  | put (m : Nat)
  | add (m : Nat) (k : Int)
  | require (v : Int)
  | skipUnless (v : Int) (n : Nat)
  | skipUnlessAtLeast (v : Int) (n : Nat)
  | pause
  /-- waits for the cell to have the value, giving way to other threads -/
  | spin (cell : Nat) (v : Int)
  | panic
  | failUnless (cell : Nat) (v : Int)
  | failIfNegative (m : Nat)
  /-- loses a shared value -/
  | leak
  deriving DecidableEq, Repr, Hashable

/-- The instruction with a written name and the given operands. -/
def Op.named? (name : String) (operands : List Int) : Option Op :=
  match name, operands with
  | "load", [i] => some (.load i.toNat)
  | "store", [i, k] => some (.store i.toNat k)
  | "store_r", [i] => some (.storeRegister i.toNat)
  | "add_r", [k] => some (.addRegister k)
  | "fetch_add", [i, k] => some (.fetchAdd i.toNat k)
  | "swap", [i, k] => some (.swap i.toNat k)
  | "cas", [i, old, new] => some (.compareSwap i.toNat old new)
  | "lock", [m] => some (.lock m.toNat)
  | "unlock", [m] => some (.unlock m.toNat)
  | "get", [m] => some (.get m.toNat)
  | "set", [m, k] => some (.set m.toNat k)
  | "put", [m] => some (.put m.toNat)
  | "madd", [m, k] => some (.add m.toNat k)
  | "require_r", [v] => some (.require v)
  | "skip_unless_r", [v, n] => some (.skipUnless v n.toNat)
  | "skip_unless_ge", [v, n] => some (.skipUnlessAtLeast v n.toNat)
  | "yield", [] => some .pause
  | "spin", [i, v] => some (.spin i.toNat v)
  | "panic", [] => some .panic
  | "fail_unless", [i, v] => some (.failUnless i.toNat v)
  | "fail_if_negative", [m] => some (.failIfNegative m.toNat)
  | "leak", [] => some .leak
  | _, _ => none

structure Program where
  cells : List Int := []
  values : List Int := []
  threads : List (List Op) := []
  main : List Op := []
  after : List Op := []

/-- What a check of a shared value says when it fails: the value that was found. -/
inductive Complaint
  | cell (found : Int)
  | value (found : Int)
  deriving DecidableEq, Repr, Hashable

/-- How a run of a program ends. -/
inductive Ending
  | finished
  | failed (c : Complaint)
  | panicked (text : String)
  | threadFailed (c : Complaint)
  | threadPanicked (text : String)
  | deadlocked
  /-- threads are left, and all of them wait for each other with a spinning one among them -/
  | spinning
  deriving DecidableEq, Repr, Hashable

/-- The end of a run, whether it lost a shared value, and whether the scheduler had to choose in it. -/
structure Result where
  ending : Ending
  leaked : Bool := false
  scheduled : Bool := true
  deriving DecidableEq, Repr, Hashable

/-! ## States -/

/-- Where a part of a program stands. -/
structure Part where
  position : Nat := 0
  register : Int := 0
  done : Bool := false
  deriving DecidableEq, Repr, Hashable

/-- What the starting thread is at. -/
inductive Phase
  | main
  | joining (failure : Option Complaint)
  | after
  /-- it panicked and left the others behind -/
  | unwound
  deriving DecidableEq, Repr, Hashable

structure State where
  cells : List Int
  values : List Int
  /-- the part that holds each lock: zero for the starting thread, then the others in order -/
  owners : List (Option Nat)
  parts : List Part
  phase : Phase := .main
  starter : Part := {}
  leaked : Bool := false
  scheduled : Bool := false
  deriving DecidableEq, Repr, Hashable

namespace Program

def start (p : Program) : State where
  cells := p.cells
  values := p.values
  owners := p.values.map fun _ => none
  parts := p.threads.map fun _ => {}

/-- The instructions of all parts, and the ends of the parts. -/
def size (p : Program) : Nat :=
  p.threads.foldl (fun n t => n + (t.length + 1)) 0 + (p.main.length + 1) + (p.after.length + 1) + 1

end Program

/-- What a thread does next. -/
inductive Move
  | stuck
  | next (s : State)
  | stop (ending : Ending)

namespace State

def cell (s : State) (i : Nat) : Int := s.cells[i]?.getD 0

def value (s : State) (m : Nat) : Int := s.values[m]?.getD 0

def owner (s : State) (m : Nat) : Option Nat := (s.owners[m]?).join

def setCell (s : State) (i : Nat) (v : Int) : State := { s with cells := s.cells.set i v, scheduled := true }

def setValue (s : State) (m : Nat) (v : Int) : State := { s with values := s.values.set m v }

/-- The part with the given number. -/
def part (s : State) (who : Nat) : Part :=
  match who with
  | 0 => s.starter
  | i + 1 => s.parts[i]?.getD {}

def setPart (s : State) (who : Nat) (p : Part) : State :=
  match who with
  | 0 => { s with starter := p }
  | i + 1 => { s with parts := s.parts.set i p }

/-- Gives all locks of a part back. -/
def release (s : State) (who : Nat) : State :=
  { s with owners := s.owners.map fun o => if o = some who then none else o }

def withScheduled (s : State) : State := { s with scheduled := true }

/-- Moves a part on by `n` instructions. -/
def forward (s : State) (who : Nat) (n : Nat := 1) : State :=
  let p := s.part who
  s.setPart who { p with position := p.position + n }

/-- Moves a part on and sets its register. -/
def forwardWith (s : State) (who : Nat) (r : Int) : State :=
  let p := s.part who
  s.setPart who { p with position := p.position + 1, register := r }

/-- A failed check: the starting thread keeps it until the others have ended. -/
def fail (s : State) (who : Nat) (c : Complaint) : Move :=
  if who ≠ 0 then .stop (.threadFailed c)
  else match s.phase with
    | .after => .stop (.failed c)
    | _ => .next { (s.release who) with phase := .joining (some c), starter := {} }

def panic (who : Nat) (text : String) : Move :=
  .stop (if who = 0 then .panicked text else .threadPanicked text)

/-- One instruction. -/
def perform (s : State) (who : Nat) (op : Op) : Move :=
  let r := (s.part who).register
  match op with
  | .load i => .next ((s.forwardWith who (s.cell i)).withScheduled)
  | .store i k => .next ((s.setCell i k).forward who)
  | .storeRegister i => .next ((s.setCell i r).forward who)
  | .addRegister k => .next (s.forwardWith who (Int.bmod (r + k) (Nat.pow 2 64)))
  | .fetchAdd i k => .next ((s.setCell i (Int.bmod (s.cell i + k) (Nat.pow 2 64))).forwardWith who (s.cell i))
  | .swap i k => .next ((s.setCell i k).forwardWith who (s.cell i))
  | .compareSwap i old new =>
    if s.cell i = old then .next ((s.setCell i new).forwardWith who 1)
    else .next ((s.forwardWith who 0).withScheduled)
  | .lock m =>
    if (s.owner m).isSome then .stuck
    else .next (({ s with owners := s.owners.set m (some who) }.forward who).withScheduled)
  | .unlock m =>
    if s.owner m = some who then .next ({ s with owners := s.owners.set m none }.forward who)
    else .next (s.forward who)
  | .get m => .next (s.forwardWith who (s.value m))
  | .set m k => .next ((s.setValue m k).forward who)
  | .put m => .next ((s.setValue m r).forward who)
  | .add m k => .next ((s.setValue m (Int.bmod (s.value m + k) (Nat.pow 2 64))).forward who)
  | .require v =>
    if r = v then .next (s.forward who)
    else panic who ("register is " ++ toString r ++ ", wanted " ++ toString v)
  | .skipUnless v n => .next (s.forward who (if r = v then 1 else n + 1))
  | .skipUnlessAtLeast v n => .next (s.forward who (if v ≤ r then 1 else n + 1))
  | .pause => .next ((s.forward who).withScheduled)
  | .spin i v => if s.cell i = v then .next ((s.forward who).withScheduled) else .stuck
  | .panic => panic who "model panic"
  | .failUnless i v =>
    if s.cell i = v then .next ((s.forward who).withScheduled) else s.withScheduled.fail who (.cell (s.cell i))
  | .failIfNegative m =>
    if (s.owner m).isSome then .stuck
    else if s.value m < 0 then s.withScheduled.fail who (.value (s.value m))
    else .next ((s.forward who).withScheduled)
  | .leak => .next ({ s with leaked := true }.forward who)

/-- What the starting thread does next. -/
def stepStarter (p : Program) (s : State) : Move :=
  match s.phase with
  | .main =>
    match p.main[s.starter.position]? with
    | some op => s.perform 0 op
    | none => .next { (s.release 0) with phase := .joining none, starter := {} }
  | .joining failure =>
    if s.parts.all Part.done then
      match failure with
      | some c => .stop (.failed c)
      | none => .next { s with phase := .after, scheduled := s.scheduled || !s.parts.isEmpty }
    else .stuck
  | .after =>
    match p.after[s.starter.position]? with
    | some op => s.perform 0 op
    | none => .stop .finished
  | .unwound => .stuck

/-- What a thread does next. -/
def step (p : Program) (s : State) (who : Nat) : Move :=
  match who with
  | 0 => s.stepStarter p
  | i + 1 =>
    let part := s.part who
    if part.done then .stuck
    else match (p.threads[i]?.getD [])[part.position]? with
      | some op => s.perform who op
      | none => .next ((s.release who).setPart who { part with done := true })

/-- Whether a part waits for a cell. -/
def spins (p : Program) (s : State) (who : Nat) : Bool :=
  let code : List Op := match who with
    | 0 => if s.phase == .main then p.main else if s.phase == .after then p.after else []
    | i + 1 => p.threads[i]?.getD []
  match code[(s.part who).position]? with
  | some (.spin _ _) => !(s.part who).done
  | _ => false

end State

end Interleave.Threads
