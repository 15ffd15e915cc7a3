import Interleave.Runner
import Interleave.Serve
import Interleave.Worker
import Interleave.Script
import Interleave.Engine.Child
import Interleave.Engine.Scripted
import Interleave.Bounds.Field
import Interleave.Bounds.Load
import Interleave.Bounds.Reader
import Interleave.Engine.PanicPlace
import Interleave.Worker.Script
import Interleave.Proofs.Runner.Agreement
import Interleave.Proofs.Runner.Independence
import Interleave.Proofs.Text.Bytes
import Interleave.Proofs.Text.CutOff
import Interleave.Proofs.Json.Strings
import Interleave.Proofs.Json.Fuel
import Interleave.Proofs.Event.Members
import Interleave.Proofs.Event.RoundTrip
import Interleave.Proofs.Event.Truncation
import Interleave.Proofs.TestClass.Requests
import Interleave.Proofs.Engine.Executions
import Interleave.Proofs.Lifecycle.Twins
import Interleave.Proofs.Lifecycle.Steps
import Interleave.Proofs.Engine.Reports
import Interleave.Proofs.Engine.Isolation
import Interleave.Proofs.Engine.Completion
import Interleave.Proofs.Engine.ChildArguments
import Interleave.Proofs.Engine.Serving
import Interleave.Proofs.Worker.Results
import Interleave.Proofs.Invocation.Priming
import Interleave.Proofs.Engine.Violations
import Interleave.Proofs.TestClass.Refusals
import Interleave.Proofs.Lifecycle.Outcomes
import Interleave.Proofs.Engine.ChildOutput
import Interleave.Proofs.Payload.Grammar
import Interleave.Proofs.Failure.Sources
import Interleave.Proofs.Engine.Writing
import Interleave.Proofs.Engine.Relay
import Interleave.Proofs.Verdict.Causes
import Interleave.Proofs.TestClass.Problems
import Interleave.Proofs.Bounds.Layers
