import Interleave.Proofs.Invocation.Outcome
import Interleave.Proofs.TestClass.Requests

/-!
# Requests that are refused

A request names a test and the methods around it by descriptors, each of them in a role.

- `TestClass.Serves`: the descriptor is one of the class, and the first method of its name has a kind that the role
  takes.
- `TestClass.Refuses`: what is said of a descriptor that is not served. That it is of another class comes before that
  no method has its name, and this before that the method is of a kind which the role does not take.
- The test is looked at first, then the befores, then the afters, and the first descriptor that is refused decides
  (`TestClass.validate_eq_error_iff`).
- A request that is refused leaves nothing behind, and no engine sees it (`Payload.build_serves_or_refuses`).
-/

namespace Interleave

/-! ## Roles -/

/-- The kinds of methods that a role takes: a test of either kind is a test. -/
def MethodKind.takes : MethodKind → List MethodKind
  | test | concurrent => [test, concurrent]
  | before => [before]
  | after => [after]

theorem MethodKind.fits_iff_mem_takes (actual wanted : MethodKind) : actual.fits wanted ↔ actual ∈ wanted.takes := by
  cases actual <;> cases wanted <;> decide

/-- The descriptors of a request in the order in which they are looked at, each with the role it is wanted in. -/
def Descriptor.requests (test : Descriptor) (befores afters : List Descriptor) : List (MethodKind × Descriptor) :=
  (.concurrent, test) :: (befores.map (.before, ·) ++ afters.map (.after, ·))

namespace TestClass

variable {σ : Type}

/-- The descriptor is one of the class, and the first method of its name has a kind that the role takes. -/
def Serves (c : TestClass σ) (wanted : MethodKind) (d : Descriptor) : Prop :=
  d.className = c.name ∧ ∃ m, c.FirstNamed d.name m ∧ m.kind ∈ wanted.takes

/-- Why a descriptor is not served in a role, the first reason before the others. -/
inductive Refuses (c : TestClass σ) (wanted : MethodKind) (d : Descriptor) : ConfigurationError → Prop
  | foreign (hclass : d.className ≠ c.name) : Refuses c wanted d (.foreignMethod c.name d.name d.className)
  | undeclared (hclass : d.className = c.name) (hname : ∀ m ∈ c.methods, m.name ≠ d.name) :
      Refuses c wanted d (.undeclaredMethod c.name d.name)
  | wrongKind (hclass : d.className = c.name) {m : TestMethod σ} (hname : c.FirstNamed d.name m)
      (hkind : m.kind ∉ wanted.takes) : Refuses c wanted d (.wrongKind c.name d.name wanted m.kind)

variable {c : TestClass σ} {wanted : MethodKind} {d : Descriptor} {e : ConfigurationError}

theorem method?_eq_none_iff {name : String} : c.method? name = none ↔ ∀ m ∈ c.methods, m.name ≠ name := by
  simp [method?]

/-- A descriptor finds a method exactly if it is served. -/
theorem exists_described_iff : (∃ m, c.described wanted d = .ok m) ↔ c.Serves wanted d := by
  simp only [described_eq_ok_iff, inRole_eq_ok_iff, exists_and_left, MethodKind.fits_iff_mem_takes, Serves]

/-- A name of the class finds nothing in a role exactly if its descriptor is refused. -/
theorem inRole_eq_error_iff (hclass : d.className = c.name) :
    c.inRole wanted d.name = .error e ↔ c.Refuses wanted d e := by
  rw [inRole]
  cases hm : c.method? d.name with
  | none =>
    constructor
    · intro h
      cases h
      exact .undeclared hclass (method?_eq_none_iff.1 hm)
    · rintro (h | _ | @⟨_, m, hname, _⟩)
      · exact absurd hclass h
      · rfl
      · rw [method?_eq_some_iff.2 hname] at hm
        cases hm
  | some m =>
    by_cases hfit : m.kind.fits wanted
    · simp only [hfit, if_true, reduceCtorEq, false_iff]
      rintro (h | ⟨_, hname⟩ | @⟨_, n, hname, hkind⟩)
      · exact h hclass
      · rw [method?_eq_none_iff.2 hname] at hm
        cases hm
      · rw [method?_eq_some_iff.2 hname, Option.some.injEq] at hm
        subst hm
        exact hkind ((MethodKind.fits_iff_mem_takes _ _).1 hfit)
    · simp only [hfit, Bool.false_eq_true, if_false]
      have hkind : m.kind ∉ wanted.takes := fun h => hfit ((MethodKind.fits_iff_mem_takes _ _).2 h)
      constructor
      · intro h
        cases h
        exact .wrongKind hclass (method?_eq_some_iff.1 hm) hkind
      · rintro (h | ⟨_, hname⟩ | @⟨_, n, hname, _⟩)
        · exact absurd hclass h
        · rw [method?_eq_none_iff.2 hname] at hm
          cases hm
        · rw [method?_eq_some_iff.2 hname, Option.some.injEq] at hm
          rw [hm]

/-- A descriptor finds nothing exactly if it is refused. -/
theorem described_eq_error_iff : c.described wanted d = .error e ↔ c.Refuses wanted d e := by
  rw [described]
  split
  · rename_i hclass
    exact inRole_eq_error_iff hclass
  · rename_i hclass
    constructor
    · intro h
      cases h
      exact .foreign hclass
    · rintro (_ | ⟨h, _⟩ | ⟨h, _⟩)
      · rfl
      · exact absurd h hclass
      · exact absurd h hclass

/-! ## Requests -/

section Requests

variable {test : Descriptor} {befores afters : List Descriptor}

/-- A request is checked descriptor by descriptor. -/
theorem validate_eq (c : TestClass σ) (test : Descriptor) (befores afters : List Descriptor) :
    c.validate test befores afters =
      discard ((test.requests befores afters).mapM fun r => c.described r.1 r.2) := by
  have hbefores : ((fun r : MethodKind × Descriptor => c.described r.1 r.2) ∘ (MethodKind.before, ·)) =
      c.described .before := rfl
  have hafters : ((fun r : MethodKind × Descriptor => c.described r.1 r.2) ∘ (MethodKind.after, ·)) =
      c.described .after := rfl
  rw [validate, Descriptor.requests, List.mapM_cons, List.mapM_append, List.mapM_map, List.mapM_map, hbefores, hafters]
  cases c.described .concurrent test with
  | error e => rfl
  | ok m =>
    cases befores.mapM (c.described .before) with
    | error e => rfl
    | ok bs => cases afters.mapM (c.described .after) <;> rfl

/-- A request is accepted exactly if each of its descriptors is served. -/
theorem validate_eq_ok_iff_serves : c.validate test befores afters = .ok () ↔
    ∀ r ∈ test.requests befores afters, c.Serves r.1 r.2 := by
  simp only [validate_eq, discard_eq_ok_iff, exists_mapM_eq_ok_iff, exists_described_iff]

/-- A request is refused with the error of the first of its descriptors that is refused. -/
theorem validate_eq_error_iff : c.validate test befores afters = .error e ↔
    ∃ served wanted d rest, test.requests befores afters = served ++ (wanted, d) :: rest ∧
      (∀ r ∈ served, c.Serves r.1 r.2) ∧ c.Refuses wanted d e := by
  rw [validate_eq, discard_eq_error_iff, mapM_eq_error_iff]
  simp only [Prod.exists, exists_described_iff, described_eq_error_iff]

/-- A before of another class, which comes after a test that the class does not have, and an after that is a before. -/
example :
    let c := (TestClass.empty "Cart" ()).register .before "fills" .skip
    c.validate ⟨"Cart", "adds"⟩ [⟨"Till", "fills"⟩] [⟨"Cart", "fills"⟩] = .error (.undeclaredMethod "Cart" "adds") := by
  cbv

end Requests

end TestClass

/-! ## What a request leaves behind -/

/-- An engine that sends no payload while it answers one. -/
def Engine.SendsNothing (e : Engine) : Prop :=
  ∀ earlier p s, ((e.answer earlier p).run s).2.deliveries = s.deliveries

section Deliveries

variable {e : Engine} (he : e.SendsNothing) (s : Session)
include he

theorem Engine.deliveries_reply (p : Payload) : (e.reply p s).2.deliveries = s.deliveries ++ [⟨e.id, p.tokens⟩] :=
  he _ _ _

/-- A primer sends one warm-up, unless it has done its work. -/
theorem Primer.deliveries_prime (p : Primer) : ((p.prime e).run s).2.deliveries =
    s.deliveries ++ if p.isPrimed s then [] else [⟨e.id, Payload.warmUp.tokens⟩] := by
  by_cases hp : p.isPrimed s
  · rw [run_prime_of_isPrimed hp, if_pos hp, List.append_nil]
  · obtain ⟨log, hrun⟩ := run_prime_of_not_isPrimed hp e
    rw [hrun, if_neg hp]
    exact e.deliveries_reply he _ _

end Deliveries

/-- A catalogue gains what a request asks to be remembered, if anything. -/
theorem Catalogue.exists_entries_rememberAll (known : Catalogue) (expected : Option Expectation) :
    ∃ gained, gained <+: expected.toList ∧ (known.rememberAll expected).entries = known.entries ++ gained := by
  cases expected with
  | none => exact ⟨[], List.nil_prefix, (List.append_nil _).symm⟩
  | some e =>
    show ∃ gained, gained <+: [e] ∧ (known.remember e).entries = known.entries ++ gained
    rw [remember]
    split
    · exact ⟨[], List.nil_prefix, (List.append_nil _).symm⟩
    · exact ⟨[e], List.prefix_refl _, rfl⟩

/-- **Requests are served or refused.** A payload is built exactly if every descriptor of the request is served; if
not, the error is that of the first one that is refused: the session is left as it was, and an invocation ends with the
error where its primer has left the session, so that its engine has got a warm-up at most. A request that is served adds
at most its own expectation to the catalogue, and changes nothing else. -/
theorem Payload.build_serves_or_refuses {σ : Type} (c : TestClass σ) (test : Descriptor)
    (befores afters : List Descriptor) (expected : Option Expectation) (s : Session) :
    let requests := test.requests befores afters
    let r := (build c test befores afters expected).run s
    ((∃ p, r.1 = .ok p) ↔ ∀ request ∈ requests, c.Serves request.1 request.2) ∧
    (∀ e, r.1 = .error e ↔ ∃ served wanted d rest, requests = served ++ (wanted, d) :: rest ∧
      (∀ request ∈ served, c.Serves request.1 request.2) ∧ c.Refuses wanted d e) ∧
    (∀ e, r.1 = .error e → r.2 = s ∧ ∀ i : Invocation,
      (catching (i.run c test befores afters expected)).run s = (.ok (.error (.configuration e)), i.prepared test s) ∧
      (i.engine.SendsNothing → (i.prepared test s).deliveries = s.deliveries ++
        if i.primer.isPrimed s then [] else [⟨i.engine.id, warmUp.tokens⟩])) ∧
    (∀ p, r.1 = .ok p → r.2 = { s with catalogue := r.2.catalogue } ∧
      ∃ gained, gained <+: expected.toList ∧ r.2.catalogue.entries = s.catalogue.entries ++ gained) := by
  intro requests r
  rw [← TestClass.validate_eq_ok_iff_serves]
  simp only [← TestClass.validate_eq_error_iff, requests]
  cases hv : c.validate test befores afters with
  | error e =>
    have hr : r = (.error e, s) := by rw [show r = _ from run_build c test befores afters expected s, hv]
    rw [hr]
    refine ⟨by simp, by simp, fun e' he => ⟨rfl, fun i => ⟨?_, fun hi => i.primer.deliveries_prime hi _⟩⟩, by simp⟩
    rw [Invocation.run_eq, run_build, hv]
    cases he
    rfl
  | ok _ =>
    have hr : r = (.ok (.ofTest (c.asked test befores afters expected)),
        { s with catalogue := s.catalogue.rememberAll expected }) := by
      rw [show r = _ from run_build c test befores afters expected s, hv]
    rw [hr]
    exact ⟨by simp, by simp, by simp, fun _ _ => ⟨rfl, s.catalogue.exists_entries_rememberAll expected⟩⟩

end Interleave
