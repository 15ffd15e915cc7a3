import Interleave.Engine.Basic
import Interleave.Event.Stream

/-!
# Checking a test in another process

The engine starts a program with its leading arguments and the tokens of the payload, and reads events from
what the program writes.

- A line that is no event is an error, whatever came before it and however the program ended.
- A program that ended badly is an error if no event arrived; otherwise it is only logged.
-/

namespace Interleave

open Text Session

/-- How a process ends. -/
inductive ExitStatus
  | exited (code : Nat)
  | killed (signal : Nat)
  deriving DecidableEq, Repr

namespace ExitStatus

/-- The status of a program that ends with the given code, of which eight bits are kept. -/
def ofCode (code : Nat) : ExitStatus := exited (code % 256)

def isSuccess : ExitStatus → Bool
  | exited 0 => true
  | _ => false

/-- The names of the signals that end a process. -/
def signalName? : Nat → Option String
  | 1 => some "SIGHUP"
  | 2 => some "SIGINT"
  | 3 => some "SIGQUIT"
  | 4 => some "SIGILL"
  | 5 => some "SIGTRAP"
  | 6 => some "SIGABRT"
  | 7 => some "SIGBUS"
  | 8 => some "SIGFPE"
  | 9 => some "SIGKILL"
  | 10 => some "SIGUSR1"
  | 11 => some "SIGSEGV"
  | 12 => some "SIGUSR2"
  | 13 => some "SIGPIPE"
  | 14 => some "SIGALRM"
  | 15 => some "SIGTERM"
  | 16 => some "SIGSTKFLT"
  | 24 => some "SIGXCPU"
  | 25 => some "SIGXFSZ"
  | 26 => some "SIGVTALRM"
  | 27 => some "SIGPROF"
  | 29 => some "SIGIO"
  | 30 => some "SIGPWR"
  | 31 => some "SIGSYS"
  | _ => none

def text : ExitStatus → String
  | exited code => "exit status: " ++ toString code
  | killed n => "signal: " ++ toString n ++ match signalName? n with
    | some name => " (" ++ name ++ ")"
    | none => ""

end ExitStatus

/-- What a process that ran has left: the bytes it wrote, and how it ended. -/
structure ProcessOutput where
  written : List UInt8 := []
  status : ExitStatus := .exited 0

/-- Why a program could not be started. -/
inductive SpawnError
  | notFound
  | notAllowed
  | zeroByte
  deriving DecidableEq, Repr

def SpawnError.message : SpawnError → String
  | notFound => "No such file or directory (os error 2)"
  | notAllowed => "Permission denied (os error 13)"
  | zeroByte => "nul byte found in provided data"

/-- A program: what it does with its arguments, of which the first is the name that it was started under. -/
abbrev Program := List String → Except SpawnError ProcessOutput

/-- A program that writes the same bytes whatever its arguments are, then repeats its arguments behind its name if
`echo` is set, each as the description of a violation and as it stands, and ends. -/
def Program.writing (bytes : List UInt8) (echo : Bool) (status : ExitStatus) : Program := fun arguments =>
  let line (argument : String) : List UInt8 :=
    encode ("\x7b\"event\":\"violation\",\"description\":\"" ++ argument ++ "\"\x7d\n")
  .ok { written := bytes ++ (if echo then arguments.tail.flatMap line else []), status }

/-- A program that is run for each payload. -/
structure ChildEngine where
  name : String
  leading : List String := []
  program : Program

namespace ChildEngine

/-- The arguments that the program gets, its name first. -/
def arguments (c : ChildEngine) (p : Payload) : List String := c.name :: (c.leading ++ p.tokens)

/-- Starts the program. Nothing can be passed to it that holds a zero byte. -/
def spawn (c : ChildEngine) (p : Payload) : Except SpawnError ProcessOutput :=
  if (c.arguments p).any fun s => s.toList.contains '\x00' then .error .zeroByte
  else c.program (c.arguments p)

/-- The records at the end of a run. -/
def closing (forwarded : Nat) (status : ExitStatus) : List Record :=
  (if status.isSuccess then []
   else [{ level := .warn, name := "checking engine exited unsuccessfully after reporting",
           fields := [("status", status.text), ("forwarded", toString forwarded)] }]) ++
  [{ level := .debug, name := "checking engine finished", fields := [("forwarded", toString forwarded)] }]

/-- The answer of a program that has run. -/
def answerOf (output : ProcessOutput) : Quiet Answer := do
  let (events, ending) := Event.ofBytes output.written
  let observations ← events.mapM Event.observation
  match ending.error? with
  | some e => return { observations, ending := .failed e }
  | none =>
    if events.isEmpty && !output.status.isSuccess then
      return { ending := .failed (.exited output.status.text) }
    else return { observations, closing := closing events.length output.status }

/-- Runs the program for a payload. -/
def answer (c : ChildEngine) (p : Payload) : Quiet Answer := do
  event .debug "spawning checking engine" [("program", quoted c.name), ("payload", p.text)]
  match c.spawn p with
  | .error e => return .failed (.spawn c.name (.io e.message))
  | .ok output => answerOf output

def engine (c : ChildEngine) (id : Nat) : Engine := ⟨id, fun _ p => c.answer p⟩

end ChildEngine

end Interleave
