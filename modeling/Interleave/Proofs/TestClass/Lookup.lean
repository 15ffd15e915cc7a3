import Interleave.Proofs.Fallible
import Interleave.TestClass.Resolve

/-!
# Classes without problems, and what is found in them

- a class has no problems exactly if it is `Valid` (`problems_eq_nil_iff`);
- then the name of a method finds that method (`method?_of_mem`), in every role that its kind fits
  (`inRole_of_mem`, `described_of_mem`), and so a request by descriptors is accepted (`validate_of_mem`);
- names resolve to a lifecycle exactly if each finds a method in its role and the type of the expected failure is
  known (`resolve_eq_ok_iff`); the names of a test and of all hooks of a valid class resolve to these very methods
  and to the expectation of the test (`resolve_of_mem`).
-/

namespace Interleave

/-- Among elements with different keys, each one is found by its key. -/
theorem find?_key_of_nodup {α : Type} {key : α → String} {xs : List α} (h : (xs.map key).Nodup) {a : α}
    (ha : a ∈ xs) : xs.find? (key · == key a) = some a := by
  induction xs with
  | nil => cases ha
  | cons x xs ih =>
    rw [List.map_cons, List.nodup_cons] at h
    rcases List.mem_cons.1 ha with rfl | ha
    · simp
    · have hne : key x ≠ key a := fun he => h.1 (he ▸ List.mem_map_of_mem ha)
      rw [List.find?_cons_of_neg (by simpa using hne)]
      exact ih h.2 ha

theorem MethodKind.fits_self (kind : MethodKind) : kind.fits kind := by cases kind <;> rfl

namespace TestClass

variable {σ : Type} {c : TestClass σ}

/-! ## Problems -/

/-- One method has no problem exactly if its name is there and new, and only tests expect failures. -/
theorem problemsOf_eq_nil_iff {seen : List String} {m : TestMethod σ} :
    problemsOf seen m = [] ↔ m.name ≠ "" ∧ m.name ∉ seen ∧ (m.expected.isSome → m.kind.isTest) := by
  cases h : m.kind.isTest <;> simp [problemsOf, h]

/-- Methods have no problems exactly if their names are there, new and different, and only tests expect
failures. -/
theorem problemsFrom_eq_nil_iff {seen : List String} {ms : List (TestMethod σ)} :
    problemsFrom seen ms = [] ↔
      (∀ m ∈ ms, m.name ≠ "") ∧ ((ms.map TestMethod.name).Nodup ∧ ∀ m ∈ ms, m.name ∉ seen) ∧
        ∀ m ∈ ms, m.expected.isSome → m.kind.isTest := by
  induction ms generalizing seen with
  | nil => simp [problemsFrom]
  | cons m ms ih =>
    rw [problemsFrom, List.append_eq_nil_iff, problemsOf_eq_nil_iff, ih]
    simp only [List.map_cons, List.nodup_cons, List.forall_mem_cons]
    simp only [List.mem_map, List.mem_cons, not_or, not_exists, not_and]
    constructor
    · rintro ⟨⟨h1, h2, h3⟩, hne, ⟨hnd, hnew⟩, hexp⟩
      exact ⟨⟨h1, hne⟩, ⟨⟨fun n hn => (hnew n hn).1, hnd⟩, h2, fun n hn => (hnew n hn).2⟩, h3, hexp⟩
    · rintro ⟨⟨h1, hne⟩, ⟨⟨hfst, hnd⟩, h2, hnew⟩, h3, hexp⟩
      exact ⟨⟨h1, h2, h3⟩, hne, ⟨hnd, fun n hn => ⟨hfst n hn, hnew n hn⟩⟩, hexp⟩

/-- A class has no problems exactly if it is valid. -/
theorem problems_eq_nil_iff : c.problems = [] ↔ c.Valid := by
  rw [problems, problemsFrom_eq_nil_iff]
  constructor
  · rintro ⟨hne, ⟨hnd, -⟩, hexp⟩
    exact ⟨hne, hnd, hexp⟩
  · rintro ⟨hne, hnd, hexp⟩
    exact ⟨hne, ⟨hnd, by simp⟩, hexp⟩

/-! ## Methods by name -/

/-- The name of a method of a valid class finds that method. -/
theorem method?_of_mem (hc : c.Valid) {m : TestMethod σ} (hm : m ∈ c.methods) : c.method? m.name = some m :=
  find?_key_of_nodup hc.names_nodup hm

/-- The method that a name finds in a role has that name. -/
theorem name_of_inRole {wanted : MethodKind} {name : String} {m : TestMethod σ}
    (h : c.inRole wanted name = .ok m) : m.name = name := by
  rw [inRole] at h
  cases hm : c.method? name with
  | none =>
    rw [hm] at h
    cases h
  | some n =>
    rw [hm] at h
    have hn : n.name = name := by simpa using List.find?_some hm
    by_cases hfit : n.kind.fits wanted = true
    · simp only [hfit, if_true, Except.ok.injEq] at h
      rw [← h, hn]
    · simp [hfit] at h

theorem mem_methodsOf {kind : MethodKind} {m : TestMethod σ} :
    m ∈ c.methodsOf kind ↔ m ∈ c.methods ∧ m.kind = kind := by
  simp [methodsOf]

section Roles

variable (hc : c.Valid) {wanted : MethodKind}
include hc

/-- The name of a method of a valid class finds that method in every role that its kind fits. -/
theorem inRole_of_mem {m : TestMethod σ} (hm : m ∈ c.methods) (hfit : m.kind.fits wanted) :
    c.inRole wanted m.name = .ok m := by
  rw [inRole, method?_of_mem hc hm]
  simp [hfit]

/-- The descriptor of a method of a valid class names that method in every role that its kind fits. -/
theorem described_of_mem {m : TestMethod σ} (hm : m ∈ c.methods) (hfit : m.kind.fits wanted) :
    c.described wanted m.descriptor = .ok m := by
  have howned : m.descriptor.className = c.name := c.owned m hm
  rw [described, if_pos howned]
  exact inRole_of_mem hc hm hfit

/-- The names of methods of one kind find these methods in their role, in their order. -/
theorem mapM_inRole_names {kind : MethodKind} {ms : List (TestMethod σ)} (h : ∀ m ∈ ms, m ∈ c.methodsOf kind) :
    (ms.map TestMethod.name).mapM (c.inRole kind) = .ok ms := by
  refine mapM_eq_ok fun m hm => ?_
  obtain ⟨hmem, rfl⟩ := mem_methodsOf.1 (h m hm)
  exact inRole_of_mem hc hmem m.kind.fits_self

/-- The descriptors of the methods of a kind name these methods in their role, in their order. -/
theorem mapM_described (kind : MethodKind) :
    ((c.methodsOf kind).map TestMethod.descriptor).mapM (c.described kind) = .ok (c.methodsOf kind) := by
  refine mapM_eq_ok fun m hm => ?_
  obtain ⟨hmem, rfl⟩ := mem_methodsOf.1 hm
  exact described_of_mem hc hmem m.kind.fits_self

end Roles

/-! ## Expectations by name -/

/-- Expectations of one type name are one expectation. -/
theorem expectation_ext {d e : Expectation} (h : d.typeName = e.typeName) : d = e := by
  obtain ⟨_⟩ := d
  obtain ⟨_⟩ := e
  cases h
  rfl

/-- The expectation found by a type name is of that type. -/
theorem typeName_of_expectation? {known : Catalogue} {t : String} {e : Expectation}
    (h : c.expectation? known t = some e) : e.typeName = t := by
  rw [expectation?] at h
  rcases Option.or_eq_some_iff.1 h with h | ⟨-, h⟩
  · simpa using List.find?_some h
  · exact (Catalogue.find?_eq_some_iff.1 h).2

/-- The type name of an expectation that a method declares finds this expectation. -/
theorem expectation?_of_mem {m : TestMethod σ} (hm : m ∈ c.methods) {e : Expectation} (he : m.expected = some e)
    (known : Catalogue) : c.expectation? known e.typeName = some e := by
  have hmem : e ∈ c.methods.filterMap TestMethod.expected ++ c.failures ++ [Expectation.panic] := by
    simp only [List.mem_append, List.mem_filterMap]
    exact Or.inl (Or.inl ⟨m, hm, he⟩)
  obtain ⟨d, hd⟩ : ∃ d, c.expectation? known e.typeName = some d := by
    rw [expectation?, ← Option.isSome_iff_exists, Option.isSome_or, Bool.or_eq_true]
    exact Or.inl (List.find?_isSome.2 ⟨e, hmem, by simp⟩)
  rw [hd, expectation_ext (typeName_of_expectation? hd)]

/-! ## Requests -/

/-- The expectation that a request names by its type, if it names one that is known. -/
theorem mapM_expectation?_eq_ok_iff {known : Catalogue} {o : Option String} {x : Option Expectation} :
    (o.mapM fun e => match c.expectation? known e with
      | some expected => Except.ok expected
      | none => .error (ConfigurationError.unknownFailureType c.name e)) = .ok x ↔
      x.map Expectation.typeName = o ∧ ∀ e ∈ o, (c.expectation? known e).isSome := by
  cases o with
  | none => cases x <;> simp [pure, Except.pure]
  | some e =>
    cases hd : c.expectation? known e with
    | none => simp [hd, Functor.map, Except.map]
    | some d =>
      have hname : d.typeName = e := typeName_of_expectation? hd
      simp only [Option.mapM_some, hd, Functor.map, Except.map, Except.ok.injEq, Option.map_eq_some_iff]
      constructor
      · rintro rfl
        exact ⟨⟨d, rfl, hname⟩, fun e' he' => by cases he'; rw [hd]; rfl⟩
      · rintro ⟨⟨y, rfl, hy⟩, -⟩
        rw [expectation_ext (hname.trans hy.symm)]

/-- Names resolve to a lifecycle exactly if each of them finds a method in its role and the type of the expected
failure is known; the lifecycle is made of these. -/
theorem resolve_eq_ok_iff {known : Catalogue} {t : CheckedTest} {l : Lifecycle σ} :
    c.resolve known t = .ok l ↔
      l.fixture = c.fixture ∧ t.befores.mapM (c.inRole .before) = .ok l.befores ∧
        t.afters.mapM (c.inRole .after) = .ok l.afters ∧ c.inRole .concurrent t.test.method = .ok l.test ∧
        l.expected.map Expectation.typeName = t.test.exception ∧
        ∀ e ∈ t.test.exception, (c.expectation? known e).isSome := by
  obtain ⟨fixture, befores, test, afters, expected⟩ := l
  simp only [resolve, bind_eq_ok_iff]
  constructor
  · rintro ⟨bs, hb, as, ha, m, hm, x, hx, hl⟩
    cases hl
    exact ⟨rfl, hb, ha, hm, mapM_expectation?_eq_ok_iff.1 hx⟩
  · rintro ⟨rfl, hb, ha, hm, hx⟩
    exact ⟨befores, hb, afters, ha, test, hm, expected, mapM_expectation?_eq_ok_iff.2 hx, rfl⟩

/-- A test between all befores and all afters of its class. -/
def lifecycle (c : TestClass σ) (m : TestMethod σ) : Lifecycle σ where
  fixture := c.fixture
  befores := c.methodsOf .before
  test := m
  afters := c.methodsOf .after
  expected := m.expected

/-- A test between all befores and all afters of its class, by name. -/
def byName (c : TestClass σ) (m : TestMethod σ) : CheckedTest where
  className := c.name
  test := ⟨m.name, m.expected.map Expectation.typeName⟩
  befores := (c.methodsOf .before).map TestMethod.name
  afters := (c.methodsOf .after).map TestMethod.name

section Requests

variable (hc : c.Valid) {m : TestMethod σ} (hm : m ∈ c.methods) (htest : m.kind.isTest)
include hc hm htest

/-- A request for a test of a valid class between hooks of the class is accepted. -/
theorem validate_of_mem : c.validate m.descriptor ((c.methodsOf .before).map TestMethod.descriptor)
    ((c.methodsOf .after).map TestMethod.descriptor) = .ok () := by
  have htest' : c.described .concurrent m.descriptor = .ok m := described_of_mem hc hm htest
  rw [validate, htest', mapM_described hc .before, mapM_described hc .after]
  rfl

/-- The names of a test of a valid class and of any hooks of the class resolve to these methods and to the expectation
that the test declares. -/
theorem resolve_names {befores afters : List (TestMethod σ)} (hbefores : ∀ b ∈ befores, b ∈ c.methodsOf .before)
    (hafters : ∀ a ∈ afters, a ∈ c.methodsOf .after) (known : Catalogue) :
    c.resolve known ⟨c.name, ⟨m.name, m.expected.map Expectation.typeName⟩, befores.map TestMethod.name,
        afters.map TestMethod.name⟩ =
      .ok { fixture := c.fixture, befores, test := m, afters, expected := m.expected } := by
  refine resolve_eq_ok_iff.2
    ⟨rfl, mapM_inRole_names hc hbefores, mapM_inRole_names hc hafters, inRole_of_mem hc hm htest, rfl, ?_⟩
  intro e he
  obtain ⟨x, hx, rfl⟩ := Option.map_eq_some_iff.1 he
  rw [expectation?_of_mem hm hx]
  rfl

/-- The names of a test of a valid class and of its hooks resolve to these methods and to the expectation that
the test declares. -/
theorem resolve_of_mem (known : Catalogue) :
    c.resolve known (c.byName m) = .ok (c.lifecycle m) :=
  resolve_names hc hm htest (fun _ => id) (fun _ => id) known

end Requests

end TestClass

end Interleave
