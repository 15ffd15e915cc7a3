import Interleave.Runner
import Interleave.Engine.Explorer
import Interleave.Proofs.Payload.RoundTrip
import Interleave.Proofs.TestClass.Lookup

/-!
# What a report is about

A runner addresses the tests of its class by their names, and so does the payload that it sends for a concurrent
test. The explorer that gets the payload resolves it to the very test and its expectation exactly if the separator
of names and expectations is not in the name (`resolve_payload_iff`). A class may have no problems and yet a test
whose name has the separator: the report on it is then about another test (`resolves_another_test`).
-/

namespace Interleave

variable {σ : Type}

/-! ## Runners and what they ask for -/

namespace Runner

/-- A runner is made of a class exactly if the class is valid. -/
theorem ofClass_eq_ok_iff {c : TestClass σ} {i : Invocation} {r : Runner σ} :
    ofClass c i = .ok r ↔ c.Valid ∧ r = ⟨c, i⟩ := by
  rw [← TestClass.problems_eq_nil_iff, ← List.isEmpty_iff, ofClass]
  constructor
  · intro h
    split at h
    · rename_i hc
      cases h
      exact ⟨hc, rfl⟩
    · cases h
  · rintro ⟨hc, rfl⟩
    rw [if_pos hc]

end Runner

namespace TestClass

/-- The payload of a concurrent test of a valid class is always built. -/
theorem run_build_of_mem {c : TestClass σ} (hc : c.Valid) {m : TestMethod σ} (hm : m ∈ c.methodsOf .concurrent)
    (s : Session) :
    (Payload.build c m.descriptor ((c.methodsOf .before).map TestMethod.descriptor)
      ((c.methodsOf .after).map TestMethod.descriptor) m.expected).run s =
      (.ok (.ofTest (c.byName m)), { s with catalogue := s.catalogue.rememberAll m.expected }) := by
  obtain ⟨hmem, hkind⟩ := mem_methodsOf.1 hm
  rw [Payload.run_build, validate_of_mem hc hmem (by rw [hkind]; rfl)]
  simp only [asked, List.map_map]
  rfl

end TestClass

/-! ## Resolving a payload -/

/-- The lifecycle that an explorer finds for the names of a test of a class that it has registered. -/
theorem Explorer.resolve_eq_ok_some_iff {x : Explorer σ} {c : TestClass σ}
    (hx : x.registry.find? c.name = some c) {a : Arguments} {t : CheckedTest} (ha : a.checkedTest? = some t)
    (ht : t.className = c.name) {known : Catalogue} {l : Lifecycle σ} :
    x.resolve known a = .ok (some l) ↔ c.resolve known t = .ok l := by
  rw [resolve, ha]
  simp only [ht, hx]
  cases c.resolve known t <;> simp

/-- The explorer resolves the payload of a test of a valid class to the test between the hooks of its class, if the
separator is not in the name. -/
theorem Explorer.resolve_of_mem {x : Explorer σ} {c : TestClass σ} (hx : x.registry.find? c.name = some c)
    (hc : c.Valid) {m : TestMethod σ} (hm : m ∈ c.methodsOf .concurrent)
    (hin : ¬ exceptionSeparator.toList <:+: m.name.toList) :
    ∃ a, Arguments.read (Payload.ofTest (c.byName m)).tokens = .ok a ∧
      ∀ known, x.resolve known a = .ok (some (c.lifecycle m)) := by
  obtain ⟨hmem, hkind⟩ := TestClass.mem_methodsOf.1 hm
  obtain ⟨a, ha, hask⟩ := (Payload.asks_ofTest_iff (c.byName m)).2 ⟨hc.name_ne m hmem, hin⟩
  refine ⟨a, ha, fun known => (resolve_eq_ok_some_iff hx hask rfl).2 ?_⟩
  exact TestClass.resolve_of_mem hc hmem (by rw [hkind]; rfl) known

/-- **Reports and the methods they name.** The payload of a concurrent test of a class without problems is always
built. The explorer resolves it to the test itself with the expectation that it declares exactly if the separator
is not in the name of the test, and cannot read it exactly if the name begins with the separator. -/
theorem Runner.resolve_payload_iff {c : TestClass σ} {x : Explorer σ} {id : Nat} {primer : Primer} {r : Runner σ}
    (hr : Runner.ofClass c ⟨x.engine id, primer⟩ = .ok r) (hx : x.registry.find? c.name = some c)
    {m : TestMethod σ} (hm : m ∈ r.concurrentTests) (s : Session) (known : Catalogue) :
    let st := r.concurrentStatement m
    ∃ p, ((Payload.build st.target st.test st.befores st.afters st.expected).run s).1 = .ok p ∧
      ((∃ a l, Arguments.read p.tokens = .ok a ∧ x.resolve known a = .ok (some l) ∧ l.test = m ∧
          l.expected = m.expected) ↔ ¬ exceptionSeparator.toList <:+: m.name.toList) ∧
      ((∃ a, Arguments.read p.tokens = .ok a) ↔ ¬ exceptionSeparator.toList <+: m.name.toList) := by
  intro st
  obtain ⟨hc, rfl⟩ := Runner.ofClass_eq_ok_iff.1 hr
  refine ⟨.ofTest (c.byName m), ?_, ?_, ?_⟩
  · exact congrArg Prod.fst (TestClass.run_build_of_mem hc hm s)
  · constructor
    · rintro ⟨a, l, ha, hl, rfl, -⟩
      have hask := Arguments.checkedTest?_of_read_ofTest ha
      rw [Explorer.resolve_eq_ok_some_iff hx hask rfl, TestClass.resolve_eq_ok_iff] at hl
      have hname := TestClass.name_of_inRole hl.2.2.2.1
      intro hin
      have := TestSpec.length_ofText_body_lt (t := (c.byName l.test).test) hin
      rw [← hname] at this
      exact Nat.lt_irrefl _ this
    · intro hin
      obtain ⟨a, ha, hres⟩ := Explorer.resolve_of_mem hx hc hm hin
      exact ⟨a, _, ha, hres known, rfl, rfl⟩
  · have hne : m.name ≠ "" := hc.name_ne m (TestClass.mem_methodsOf.1 hm).1
    simp only [Arguments.read_ofTest_eq_ok_iff, exists_and_left, exists_eq, and_true, ne_eq,
      TestSpec.method_ofText_body_eq_empty_iff, TestClass.byName, hne, false_or]

/-- A test that expects a failure, behind a before: its payload is resolved to it. -/
theorem Runner.resolve_payload_expecting :
    let m : TestMethod Unit := ⟨⟨"Cart", "adds,exception"⟩, .concurrent, .skip, some ⟨"LostUpdate"⟩⟩
    let c := ((TestClass.empty "Cart" ()).register .before "fills" .skip).register .concurrent "adds,exception"
      .skip (some ⟨"LostUpdate"⟩)
    let x : Explorer Unit := ⟨.ofList [c], {}⟩
    ∃ r p a l, Runner.ofClass c ⟨x.engine 0, ⟨0⟩⟩ = .ok r ∧ x.registry.find? c.name = some c ∧
      m ∈ r.concurrentTests ∧
      ((Payload.build c m.descriptor [⟨"Cart", "fills"⟩] [] m.expected).run .start).1 = .ok p ∧
      Arguments.read p.tokens = .ok a ∧ x.resolve default a = .ok (some l) ∧ l.test = m ∧
      l.expected = m.expected := by
  intro m c x
  have hr : Runner.ofClass c ⟨x.engine 0, ⟨0⟩⟩ = .ok ⟨c, ⟨x.engine 0, ⟨0⟩⟩⟩ := rfl
  have hx : x.registry.find? c.name = some c := Registry.find?_register_self {} c
  have hm : m ∈ (⟨c, ⟨x.engine 0, ⟨0⟩⟩⟩ : Runner Unit).concurrentTests := List.mem_singleton.2 rfl
  have hin : ¬ exceptionSeparator.toList <:+: m.name.toList := by
    rw [← Text.splitOnce_eq_none_iff]
    cbv
  obtain ⟨p, hp, hl, -⟩ := resolve_payload_iff hr hx hm .start default
  obtain ⟨a, l, ha, hl, ht, he⟩ := hl.2 hin
  exact ⟨_, p, a, l, hr, hx, hm, hp, ha, hl, ht, he⟩

/-- A test whose name is that of another test with an expectation behind it: its payload is resolved to the other
test, with that expectation. -/
theorem Runner.resolves_another_test :
    let m : TestMethod Unit := ⟨⟨"Cart", "a,exception=weft::failure::Panicked"⟩, .concurrent, .skip, none⟩
    let c := ((TestClass.empty "Cart" ()).register .concurrent "a"
      (.sequential fun s => (s, .panics ⟨.text "boom", .body⟩))).register .concurrent m.name m.body
    let x : Explorer Unit := ⟨.ofList [c], {}⟩
    c.problems = [] ∧ x.registry.find? c.name = some c ∧ ∃ r p a l, Runner.ofClass c ⟨x.engine 0, ⟨0⟩⟩ = .ok r ∧
      m ∈ r.concurrentTests ∧ ((Payload.build c m.descriptor [] [] m.expected).run .start).1 = .ok p ∧
      Arguments.read p.tokens = .ok a ∧ x.resolve default a = .ok (some l) ∧ l.test.name = "a" ∧
      l.expected = some .panic := by
  intro m c x
  have hc : c.problems = [] := by cbv
  have hx : x.registry.find? c.name = some c := Registry.find?_register_self {} c
  have hm : m ∈ c.methodsOf .concurrent := List.mem_cons_of_mem _ (List.mem_singleton.2 rfl)
  have hspec : TestSpec.ofText (c.byName m).test.body = ⟨"a", some "weft::failure::Panicked"⟩ := by cbv
  have ha := (Arguments.read_ofTest_eq_ok_iff (t := c.byName m)).2 ⟨by rw [hspec]; decide, rfl⟩
  have hask := Arguments.checkedTest?_of_read_ofTest ha
  let l : Lifecycle Unit := { fixture := c.fixture, test := c.methods[0], expected := some .panic }
  have hl : c.resolve default { c.byName m with test := TestSpec.ofText (c.byName m).test.body } = .ok l := by
    rw [hspec]
    rfl
  refine ⟨hc, hx, ⟨c, ⟨x.engine 0, ⟨0⟩⟩⟩, _, _, l, rfl, hm, ?_, ha, ?_, rfl, rfl⟩
  · exact congrArg Prod.fst (TestClass.run_build_of_mem (TestClass.problems_eq_nil_iff.1 hc) hm .start)
  · exact (Explorer.resolve_eq_ok_some_iff hx hask rfl).2 hl

end Interleave
