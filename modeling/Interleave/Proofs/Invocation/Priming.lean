import Interleave.Proofs.Engine.Scripts
import Interleave.Proofs.Invocation.Outcome

/-!
# Priming

Calls one behind the other share a primer. The first of them warms up its engine, and it has no bearing on anything
else how that ends.

- A primer that has not done its work sends a warm-up, whatever comes of it (`Primer.prime_scripted`).
- From there on, calls in two sessions with engines of the same scripts go on abreast (`Call.along`, `Call.along_mapM`).
- So there is one warm-up, before all else, and what the engines do with it changes nothing (`Call.primed_once`).
-/

namespace Interleave

open Session

/-! ## Primers -/

/-- A primer that has not done its work sends a warm-up, and has done its work then. -/
theorem Primer.prime_scripted {p : Primer} {s : Session} (h : ¬ p.isPrimed s) (e : ScriptedEngine) (id : Nat) :
    let t := ((p.prime (e.engine id)).run s).2
    t.primed = s.primed ++ [p.id] ∧ t.deliveries = s.deliveries ++ [⟨id, Payload.warmUp.tokens⟩] ∧
      s.nextFailure ≤ t.nextFailure := by
  obtain ⟨log, hrun⟩ := run_prime_of_not_isPrimed h (e.engine id)
  let u := s.logged [{ level := .debug, name := "priming checking engine" }]
  let v : Session := { u with deliveries := u.deliveries ++ [⟨id, Payload.warmUp.tokens⟩] }
  have hv : Abreast s.primed s.nextFailure s.nextFailure v.deliveries v v := ⟨rfl, rfl, rfl, rfl, 0, rfl, rfl⟩
  obtain ⟨-, ht⟩ := e.along_answer ((e.engine id).received u) .warmUp v v hv
  obtain ⟨k, hk, -⟩ := ht.next
  rw [hrun]
  exact ⟨congrArg (· ++ [p.id]) ht.primed, ht.deliveries, hk ▸ Nat.le_add_right _ k⟩

/-- Primers that find the same done go on abreast if their engines answer a warm-up along with each other. -/
theorem Primer.abreast_prime {ps : List Nat} {a b : Nat} {ds : List Delivery} {R : Answer → Answer → Prop}
    (p : Primer) {e e' : Engine} (hid : e.id = e'.id)
    (h : ∀ es earlier, Along ps a b es es R (e.answer earlier .warmUp) (e'.answer earlier .warmUp)) {s s' : Session}
    (hs : Abreast ps a b ds s s') :
    ∃ ps' ds', Abreast ps' a b ds' ((p.prime e).run s).2 ((p.prime e').run s').2 := by
  have hprimed : p.isPrimed s' = p.isPrimed s := by rw [isPrimed, isPrimed, hs.primed, hs.primed']
  by_cases hp : p.isPrimed s
  · rw [run_prime_of_isPrimed hp, run_prime_of_isPrimed (hprimed.trans hp)]
    exact ⟨ps, ds, hs⟩
  · obtain ⟨log, hrun⟩ := run_prime_of_not_isPrimed hp e
    obtain ⟨log', hrun'⟩ := run_prime_of_not_isPrimed (hprimed ▸ hp) e'
    let opening : List Record := [{ level := .debug, name := "priming checking engine" }]
    obtain ⟨-, ht⟩ := Engine.abreast_reply hid h (hs.logged opening opening)
    rw [hrun, hrun']
    exact ⟨ps ++ [p.id], _, congrArg (· ++ [p.id]) ht.primed, congrArg (· ++ [p.id]) ht.primed', ht.deliveries,
      ht.deliveries', ht.next⟩

/-! ## Payloads -/

namespace Payload

theorem ofTest_ne_warmUp (t : CheckedTest) : ofTest t ≠ warmUp := by
  intro h
  simp [ofTest, warmUp] at h

/-- A request has the same payload wherever it is built. -/
theorem along_build {σ : Type} (c : TestClass σ) (test : Descriptor) (befores afters : List Descriptor)
    (expected : Option Expectation) {ps : List Nat} {a b : Nat} {ds : List Delivery} : Along ps a b ds ds
      (fun r r' => r = r' ∧
        r = (c.validate test befores afters).map fun _ => ofTest (c.asked test befores afters expected))
      (build c test befores afters expected) (build c test befores afters expected) := by
  intro s s' hs
  rw [run_build, run_build]
  cases c.validate test befores afters with
  | error e => exact ⟨⟨rfl, rfl⟩, hs⟩
  | ok _ => exact ⟨⟨rfl, rfl⟩, { hs with }⟩

end Payload

/-! ## Calls -/

/-- One of a row of calls that share a primer: to prime an engine, or to check a test with it. -/
inductive Call : Type 1
  | prime (engine : Nat)
  | check {σ : Type} (engine : Nat) (c : TestClass σ) (test : Descriptor) (befores afters : List Descriptor)
    (expected : Option Expectation)

namespace Call

def engine : Call → Nat
  | prime id => id
  | check id .. => id

/-- The payload that is sent for a call, warm-ups apart: none if the request does not fit the class. -/
def delivery? : Call → Option Delivery
  | prime _ => none
  | check id c test befores afters expected =>
    match c.validate test befores afters with
    | .ok () => some ⟨id, (Payload.ofTest (c.asked test befores afters expected)).tokens⟩
    | .error _ => none

/-- Makes a call, and catches what panics: to check a test has a result. -/
def attempt (engines : Nat → ScriptedEngine) (p : Primer) : Call → Quiet (Option (Except Panic Invoked))
  | prime id => do
    p.prime ((engines id).engine id)
    return none
  | check id c test befores afters expected =>
    some <$> catching (Invocation.run ⟨(engines id).engine id, p⟩ c test befores afters expected)

/-- What is logged before the primer is asked. -/
def opening : Call → List Record
  | prime _ => []
  | check _ _ test .. =>
    [{ span := true, level := .info, name := "checked_invocation",
       fields := [("class", test.className), ("method", test.name)] }]

/-- The session that a call finds when the primer has been asked. -/
def ready (engines : Nat → ScriptedEngine) (p : Primer) (call : Call) (s : Session) : Session :=
  ((p.prime ((engines call.engine).engine call.engine)).run (s.logged call.opening)).2

/-- Invocations whose engines are followed alike, for the payload of a request, lead on from where their primers have
been asked. -/
theorem abreast_run {ps : List Nat} {a b : Nat} {ds : List Delivery} (i i' : Invocation) {s s' : Session} {σ : Type}
    (c : TestClass σ) (test : Descriptor) (befores afters : List Descriptor) (expected : Option Expectation)
    (hengine : let payload := Payload.ofTest (c.asked test befores afters expected)
      ∀ ds, Along ps a b ds (ds ++ [⟨i.engine.id, payload.tokens⟩])
        (fun x y => Collector.Moved a b x.1 y.1 ∧ x.2 = y.2)
        (i.engine.run Collector.observe {} payload) (i'.engine.run Collector.observe {} payload))
    (h : Abreast ps a b ds (i.prepared test s) (i'.prepared test s')) :
    let r := (catching (i.run c test befores afters expected)).run s
    let r' := (catching (i'.run c test befores afters expected)).run s'
    Invocation.Moved a b r.1 r'.1 ∧
      Abreast ps a b (ds ++ (check i.engine.id c test befores afters expected).delivery?.toList) r.2 r'.2 := by
  intro r r'
  dsimp only [r, r']
  rw [Invocation.run, Invocation.run, catching_bind_lift _ _ s, catching_bind_lift _ _ s', run_span, run_span,
    catching_bind_lift _ _ (s.logged _), catching_bind_lift _ _ (s'.logged _), delivery?]
  refine (Along.bind_lift (Payload.along_build c test befores afters expected) ?_) _ _ h
  rintro r _ ⟨rfl, hr⟩
  cases hvalid : c.validate test befores afters with
  | error e =>
    rw [hr, hvalid]
    dsimp only [Option.toList_none]
    rw [List.append_nil]
    exact along_pure (.same _)
  | ok _ =>
    rw [hr, hvalid]
    refine Along.bind_lift (along_event _ _ _) fun _ _ _ => Along.bind_lift (hengine ds) ?_
    rintro ⟨collector, ending⟩ ⟨collector', _⟩ ⟨hcollector, rfl⟩
    exact hcollector.along_conclude ending

section Abreast

variable {engines engines' : Nat → ScriptedEngine} {p : Primer} {ps : List Nat} {a b : Nat} {ds : List Delivery}
  {s s' : Session}

/-- A call whose primer has done its work finds the session as it was, but for the log. -/
theorem abreast_ready (call : Call) (hp : p.id ∈ ps) (h : Abreast ps a b ds s s') :
    Abreast ps a b ds (call.ready engines p s) (call.ready engines' p s') := by
  have hs : p.isPrimed (s.logged call.opening) := by
    rw [Primer.isPrimed, List.contains_iff_mem]
    exact h.primed ▸ hp
  have hs' : p.isPrimed (s'.logged call.opening) := by
    rw [Primer.isPrimed, List.contains_iff_mem]
    exact h.primed' ▸ hp
  rw [ready, ready, Primer.run_prime_of_isPrimed hs, Primer.run_prime_of_isPrimed hs']
  exact h.logged _ _

variable (hruns : ∀ id, (engines id).runs = (engines' id).runs)
include hruns

/-- A call, behind the primer, leads sessions that are abreast to others which are. -/
theorem along (call : Call) (h : Abreast ps a b ds (call.ready engines p s) (call.ready engines' p s')) :
    Option.Rel (Invocation.Moved a b) ((call.attempt engines p).run s).1 ((call.attempt engines' p).run s').1 ∧
      Abreast ps a b (ds ++ call.delivery?.toList) ((call.attempt engines p).run s).2
        ((call.attempt engines' p).run s').2 := by
  cases call with
  | prime id =>
    rw [ready, ready, opening, logged_nil, logged_nil] at h
    exact ⟨.none, (List.append_nil ds).symm ▸ h⟩
  | check id c test befores afters expected =>
    obtain ⟨hresult, ht⟩ := abreast_run ⟨(engines id).engine id, p⟩ ⟨(engines' id).engine id, p⟩ c test befores afters
      expected (fun _ => ScriptedEngine.along_run (hruns id) id (Payload.ofTest_ne_warmUp _)) h
    exact ⟨.some hresult, ht⟩

/-- A call and more calls: they lead on from where the primer has been asked for the first of them. -/
theorem along_cons {call : Call} {calls : List Call}
    (h : Abreast ps a b ds (call.ready engines p s) (call.ready engines' p s'))
    (hcalls : ∀ ds, Along ps a b ds (ds ++ calls.filterMap delivery?)
      (List.Forall₂ (Option.Rel (Invocation.Moved a b))) (calls.mapM (attempt engines p))
      (calls.mapM (attempt engines' p))) :
    let r := ((call :: calls).mapM (attempt engines p)).run s
    let r' := ((call :: calls).mapM (attempt engines' p)).run s'
    List.Forall₂ (Option.Rel (Invocation.Moved a b)) r.1 r'.1 ∧
      Abreast ps a b (ds ++ (call :: calls).filterMap delivery?) r.2 r'.2 := by
  have hsent : ds ++ (call :: calls).filterMap delivery? =
      ds ++ call.delivery?.toList ++ calls.filterMap delivery? := by
    rw [List.append_assoc]
    cases hd : call.delivery? <;> simp [hd]
  rw [hsent, List.mapM_cons, List.mapM_cons]
  obtain ⟨hr, ht⟩ := call.along hruns h
  obtain ⟨hrs, hu⟩ := hcalls _ _ _ ht
  exact ⟨.cons hr hrs, hu⟩

/-- Calls in a row lead sessions that are abreast to others which are, once the primer has done its work. -/
theorem along_mapM (hp : p.id ∈ ps) (calls : List Call) (ds : List Delivery) :
    Along ps a b ds (ds ++ calls.filterMap delivery?) (List.Forall₂ (Option.Rel (Invocation.Moved a b)))
      (calls.mapM (attempt engines p)) (calls.mapM (attempt engines' p)) := by
  induction calls generalizing ds with
  | nil =>
    rw [List.filterMap_nil, List.append_nil]
    exact along_pure .nil
  | cons call calls ih => exact fun s s' hs => along_cons hruns (call.abreast_ready hp hs) ih

end Abreast

/-- What is sent for a call is no warm-up. -/
theorem tokens_ne_of_delivery? {call : Call} {d : Delivery} (h : call.delivery? = some d) :
    d.tokens ≠ Payload.warmUp.tokens := by
  cases call with
  | prime id => cases h
  | check id c test befores afters expected =>
    rw [delivery?] at h
    split at h
    · cases h
      exact fun h => Payload.ofTest_ne_warmUp _ (congrArg Payload.mk h)
    · cases h

/-- **Priming.** Calls one behind the other, the first of which finds that the primer has not done its work. One
warm-up is sent, to the engine of the first call and before all else; each request that fits its class has its payload
sent; and the primer has done its work. If the engines take warm-ups in any other ways, the same is sent, and each call
ends as it does here, with identities that have moved. -/
theorem primed_once (engines : Nat → ScriptedEngine) (warmUps : Nat → ScriptedRun) (p : Primer) (call : Call)
    (calls : List Call) {s : Session} (hs : p.isPrimed s = false) :
    let engines' := fun id => { engines id with warmUp := warmUps id }
    let r := ((call :: calls).mapM (attempt engines p)).run s
    let r' := ((call :: calls).mapM (attempt engines' p)).run s
    let sent := (call :: calls).filterMap delivery?
    r.2.deliveries = s.deliveries ++ ⟨call.engine, Payload.warmUp.tokens⟩ :: sent ∧
    (∀ d ∈ sent, d.tokens ≠ Payload.warmUp.tokens) ∧ p.isPrimed r.2 ∧
    r'.2.deliveries = r.2.deliveries ∧
    ∃ a b, s.nextFailure ≤ a ∧ s.nextFailure ≤ b ∧ List.Forall₂ (Option.Rel (Invocation.Moved a b)) r.1 r'.1 := by
  intro engines' r r' sent
  have hready (engines : Nat → ScriptedEngine) := Primer.prime_scripted (s := s.logged call.opening)
    (p := p) (by rw [← Bool.not_eq_true] at hs; exact hs) (engines call.engine) call.engine
  obtain ⟨hprimed, hdeliveries, hnext⟩ := hready engines
  obtain ⟨hprimed', hdeliveries', hnext'⟩ := hready engines'
  -- behind the first warm-up, the sessions differ in the log and in how many failures have been raised
  have hstart : Abreast (s.primed ++ [p.id]) (call.ready engines p s).nextFailure (call.ready engines' p s).nextFailure
      (s.deliveries ++ [⟨call.engine, Payload.warmUp.tokens⟩]) (call.ready engines p s) (call.ready engines' p s) :=
    ⟨hprimed, hprimed', hdeliveries, hdeliveries', 0, rfl, rfl⟩
  have hp : p.id ∈ s.primed ++ [p.id] := List.mem_append_right _ List.mem_cons_self
  have hruns : ∀ id, (engines id).runs = (engines' id).runs := fun _ => rfl
  obtain ⟨hresults, ht⟩ := along_cons hruns hstart (along_mapM hruns hp calls)
  have hdeliveries : r.2.deliveries = s.deliveries ++ ⟨call.engine, Payload.warmUp.tokens⟩ :: sent := by
    rw [ht.deliveries, List.append_assoc]
    rfl
  refine ⟨hdeliveries, fun d hd => ?_, ?_, ?_, _, _, hnext, hnext', hresults⟩
  · obtain ⟨call', -, hcall⟩ := List.mem_filterMap.1 hd
    exact tokens_ne_of_delivery? hcall
  · rw [Primer.isPrimed, ht.primed, List.contains_iff_mem]
    exact hp
  · rw [hdeliveries, ht.deliveries', List.append_assoc]
    rfl

/-- A request for a method of another class primes an engine, which raises a failure and panics over it; then another
engine checks a test, and the first one is to be primed again. -/
theorem primed_once_panics :
    let c := (TestClass.empty "Cart" 0).register .concurrent "adds" .skip
    let lost : Draft := ⟨"LostUpdate", .custom "LostUpdate" "lost" none⟩
    let engines (_ : Nat) : ScriptedEngine :=
      { warmUp := ⟨[.raised lost], .panicked (.text "boom")⟩, runs := [⟨[.raised lost], .done⟩] }
    let calls : List Call :=
      [.check 0 c ⟨"Basket", "adds"⟩ [] [] none, .check 1 c ⟨"Cart", "adds"⟩ [] [] none, .prime 0]
    let r := (calls.mapM (attempt engines ⟨0⟩)).run .start
    let r' := (calls.mapM (attempt (fun id => { engines id with warmUp := {} }) ⟨0⟩)).run .start
    r.2.deliveries = [⟨0, [entryPoint]⟩, ⟨1, [entryPoint, "--testclass=Cart", "--test=method=adds"]⟩] ∧
      r'.2.deliveries = r.2.deliveries ∧
      r.1[1]? = some (some (.ok (.error (.testFailed ⟨1, lost.typeName, lost.fault⟩)))) ∧
      ∃ a b, List.Forall₂ (Option.Rel (Invocation.Moved a b)) r.1 r'.1 := by
  intro c lost engines calls r r'
  obtain ⟨hdeliveries, -, -, hsame, a, b, -, -, hresults⟩ :=
    primed_once engines (fun _ => {}) ⟨0⟩ (.check 0 c ⟨"Basket", "adds"⟩ [] [] none) _ (s := .start) rfl
  exact ⟨hdeliveries.trans rfl, hsame, rfl, a, b, hresults⟩

end Call

end Interleave
