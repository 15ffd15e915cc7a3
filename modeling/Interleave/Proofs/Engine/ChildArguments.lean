import Interleave.Serve
import Interleave.Engine.Child
import Interleave.Proofs.Payload.RoundTrip

/-!
# What a child makes of its arguments

A child engine puts the name of the program and its leading arguments in front of the payload, and the program takes
the payload from the first entry point on.

- What stands in front of the entry point is skipped, whatever it is (`payloadTokens_append`), and what begins with the
  entry point is a payload (`payloadTokens_of_head?`).
- The name of the program is skipped like any other argument, so a program that has the name of the entry point takes
  all its arguments for the payload (`ChildEngine.payloadTokens_arguments_iff`).
-/

namespace Interleave

/-- Arguments in front of the entry point are skipped. -/
theorem payloadTokens_append {as : List String} (has : entryPoint ∉ as) (bs : List String) :
    payloadTokens (as ++ bs) = payloadTokens bs := by
  refine List.dropWhile_append_of_pos fun a ha => ?_
  have hne : a ≠ entryPoint := fun h => has (h ▸ ha)
  simpa using hne

/-- What begins with the entry point is a payload as it stands. -/
theorem payloadTokens_of_head? {as : List String} (has : as.head? = some entryPoint) : payloadTokens as = as := by
  obtain ⟨bs, rfl⟩ := List.head?_eq_some_iff.1 has
  exact List.dropWhile_cons_of_neg (by simp)

namespace ChildEngine

variable {c : ChildEngine} {p : Payload}

/-- **The payload of a child.** If the entry point is not among the leading arguments of a child engine, and the payload
begins with it, the child takes from its arguments the payload that was sent exactly if the name of the program is not
that of the entry point. Then the child reads what the payload says, and does what it would do if it got the payload
alone. Otherwise it takes all of its arguments for the payload. -/
theorem payloadTokens_arguments_iff (hleading : entryPoint ∉ c.leading) (hp : p.tokens.head? = some entryPoint) :
    (payloadTokens (c.arguments p) = p.tokens ↔ c.name ≠ entryPoint) ∧
    (c.name ≠ entryPoint → Arguments.read (payloadTokens (c.arguments p)) = Arguments.read p.tokens ∧
      ∀ {σ : Type} (registry : Registry σ) (bounds : Except LoadError Bounds),
        serveProgram registry bounds (c.arguments p) = serveProgram registry bounds p.tokens) ∧
    (c.name = entryPoint → payloadTokens (c.arguments p) = c.arguments p) := by
  have hown (hname : c.name = entryPoint) : payloadTokens (c.arguments p) = c.arguments p :=
    payloadTokens_of_head? (congrArg some hname)
  have hother (hname : c.name ≠ entryPoint) : payloadTokens (c.arguments p) = p.tokens := by
    have hfront : entryPoint ∉ c.name :: c.leading := List.not_mem_cons_of_ne_of_not_mem hname.symm hleading
    calc payloadTokens (c.arguments p) = payloadTokens ((c.name :: c.leading) ++ p.tokens) := rfl
      _ = payloadTokens p.tokens := payloadTokens_append hfront p.tokens
      _ = p.tokens := payloadTokens_of_head? hp
  refine ⟨⟨fun h hname => ?_, hother⟩, fun hname => ⟨by rw [hother hname], fun registry bounds => ?_⟩, hown⟩
  · -- all arguments are more than the payload, if only by the name of the program
    have hlength := congrArg List.length (h.symm.trans (hown hname))
    simp only [arguments, List.length_cons, List.length_append] at hlength
    omega
  · unfold serveProgram
    rw [hother hname, payloadTokens_of_head? hp]

/-- A program behind the flags of a test harness. -/
theorem payloadTokens_arguments_harness :
    let c : ChildEngine := { name := "test-bin", leading := ["--nocapture"], program := .writing [] false (.exited 0) }
    let p : Payload := .ofTest ⟨"Cart", ⟨"adds", none⟩, ["fills"], []⟩
    entryPoint ∉ c.leading ∧ p.tokens.head? = some entryPoint ∧ payloadTokens (c.arguments p) = p.tokens := by
  intro c p
  have hleading : entryPoint ∉ c.leading := by decide
  have hp : p.tokens.head? = some entryPoint := rfl
  exact ⟨hleading, hp, (payloadTokens_arguments_iff hleading hp).1.2 (by decide)⟩

/-- A program that has the name of the entry point takes it for the entry point, and cannot read the payload. -/
theorem payloadTokens_arguments_own_name :
    let c : ChildEngine := { name := entryPoint, program := .writing [] false (.exited 0) }
    let p : Payload := .ofTest ⟨"Cart", ⟨"adds", none⟩, [], []⟩
    entryPoint ∉ c.leading ∧ p.tokens.head? = some entryPoint ∧ payloadTokens (c.arguments p) ≠ p.tokens ∧
      Arguments.read (payloadTokens (c.arguments p)) = .error (.malformed (.unknownArgument entryPoint)) ∧
      ∃ a, Arguments.read p.tokens = .ok a := by
  intro c p
  have hown : payloadTokens (c.arguments p) = c.arguments p := payloadTokens_of_head? rfl
  rw [hown]
  refine ⟨List.not_mem_nil, rfl, by decide, ?_, ?_⟩
  · cbv
  · exact ⟨_, Arguments.read_ofTest_eq_ok_iff.2 ⟨by cbv, rfl⟩⟩

end ChildEngine

end Interleave
