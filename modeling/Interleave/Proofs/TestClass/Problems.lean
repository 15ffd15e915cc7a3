import Interleave.Proofs.TestClass.Lookup

/-!
# The problems of a class

- `TestClass.Faulty`: what is wrong with a method that is registered after others. Up to three things may be wrong
  with one method.
- The problems of a class are those of its methods, one method after the other in the order of registration
  (`problemsFrom_eq_flatten`).
- A class has no problems exactly if its names are there and differ and only tests expect failures; then names stand
  for the methods that have them (`problems_exact`).
-/

namespace Interleave

theorem MethodKind.isTest_iff {kind : MethodKind} : kind.isTest ↔ kind = .test ∨ kind = .concurrent := by
  cases kind <;> decide

theorem MethodKind.isTest_eq_false_iff {kind : MethodKind} : kind.isTest = false ↔ kind = .before ∨ kind = .after := by
  cases kind <;> decide

namespace TestClass

variable {σ : Type}

/-! ## One method -/

/-- What is wrong with a method that is registered after others. -/
inductive Faulty (earlier : List (TestMethod σ)) (m : TestMethod σ) : ClassProblem → Prop
  | unnamed (hname : m.name = "") : Faulty earlier m (.emptyName m.kind)
  | repeated {n : TestMethod σ} (hn : n ∈ earlier) (hname : n.name = m.name) :
      Faulty earlier m (.repeatedName m.name)
  | expecting {e : Expectation} (he : m.expected = some e) (hkind : m.kind = .before ∨ m.kind = .after) :
      Faulty earlier m (.expectingHook m.kind m.name)

/-- The list names all that is wrong with a method, each thing once: first that it has no name, then that its name is
taken, then that it expects a failure. -/
structure Names (earlier : List (TestMethod σ)) (m : TestMethod σ) (faults : List ClassProblem) : Prop where
  ordered : List.Sublist faults [.emptyName m.kind, .repeatedName m.name, .expectingHook m.kind m.name]
  mem_iff : ∀ p, p ∈ faults ↔ Faulty earlier m p

section Step

variable {seen : List String} {earlier : List (TestMethod σ)}
  (hseen : ∀ name, name ∈ seen ↔ ∃ n ∈ earlier, n.name = name)
include hseen

theorem mem_problemsOf_iff {m : TestMethod σ} {p : ClassProblem} : p ∈ problemsOf seen m ↔ Faulty earlier m p := by
  simp only [problemsOf, List.mem_append, List.mem_ite_nil_right, List.mem_singleton, hseen, Bool.and_eq_true,
    Bool.not_eq_true', MethodKind.isTest_eq_false_iff, Option.isSome_iff_exists]
  constructor
  · rintro ((⟨hname, rfl⟩ | ⟨⟨n, hn, hname⟩, rfl⟩) | ⟨⟨⟨e, he⟩, hkind⟩, rfl⟩)
    · exact .unnamed hname
    · exact .repeated hn hname
    · exact .expecting he hkind
  · rintro (hname | ⟨hn, hname⟩ | ⟨he, hkind⟩)
    · exact Or.inl (Or.inl ⟨hname, rfl⟩)
    · exact Or.inl (Or.inr ⟨⟨_, hn, hname⟩, rfl⟩)
    · exact Or.inr ⟨⟨⟨_, he⟩, hkind⟩, rfl⟩

/-- The problems of one method name what is wrong with it, if the names that were seen are those of the methods
before it. -/
theorem names_problemsOf (m : TestMethod σ) : Names earlier m (problemsOf seen m) := by
  have single (b : Prop) [Decidable b] (p : ClassProblem) : List.Sublist (if b then [p] else []) [p] := by
    split <;> simp
  refine ⟨?_, fun p => mem_problemsOf_iff hseen⟩
  exact ((single _ _).append (single _ _)).append (single _ _)

/-- The problems of methods are one list for each of them, which names what is wrong with it after the others. -/
theorem problemsFrom_eq_flatten (ms : List (TestMethod σ)) :
    ∃ parts : List (List ClassProblem), problemsFrom seen ms = parts.flatten ∧ parts.length = ms.length ∧
      ∀ before m after, ms = before ++ m :: after →
        ∃ faults, parts[before.length]? = some faults ∧ Names (earlier ++ before) m faults := by
  induction ms generalizing seen earlier with
  | nil => exact ⟨[], rfl, rfl, fun before m after h => by simp at h⟩
  | cons n ms ih =>
    have hseen' (name : String) : name ∈ n.name :: seen ↔ ∃ k ∈ earlier ++ [n], k.name = name := by
      simp only [List.mem_cons, hseen, List.mem_append, List.not_mem_nil, or_false, or_and_right, exists_or,
        exists_eq_left]
      rw [or_comm, @eq_comm _ name]
    obtain ⟨parts, hflatten, hlength, hparts⟩ := ih hseen'
    refine ⟨problemsOf seen n :: parts, ?_, by simp [hlength], ?_⟩
    · rw [problemsFrom, hflatten, List.flatten_cons]
    · rintro (_ | ⟨k, before⟩) m after h
      · cases h
        exact ⟨_, rfl, by simpa using names_problemsOf hseen n⟩
      · cases h
        obtain ⟨faults, hfaults, hnames⟩ := hparts before m after rfl
        exact ⟨faults, by simpa using hfaults, by simpa using hnames⟩

end Step

/-! ## All methods -/

/-- **Validation is exact, and names are clear after it.** A class has no problems exactly if its methods have names,
no two of them the same, and only tests of either kind expect failures. In any case its problems are, in the order of
registration, what is wrong with each method, and nothing else. If there are none, the name of each method finds it,
names of methods of one role find these in that role, in their order, and the names of a test and of hooks resolve to
them and to what the test expects. -/
theorem problems_exact (c : TestClass σ) :
    (c.problems = [] ↔ (∀ m ∈ c.methods, m.name ≠ "") ∧ c.methods.Pairwise (fun m n => m.name ≠ n.name) ∧
      ∀ m ∈ c.methods, m.expected.isSome → m.kind = .test ∨ m.kind = .concurrent) ∧
    (∃ parts : List (List ClassProblem), c.problems = parts.flatten ∧ parts.length = c.methods.length ∧
      ∀ earlier m later, c.methods = earlier ++ m :: later →
        ∃ faults, parts[earlier.length]? = some faults ∧ Names earlier m faults) ∧
    (c.problems = [] →
      (∀ m ∈ c.methods, c.method? m.name = some m) ∧
      (∀ role, ∀ ms : List (TestMethod σ), (∀ m ∈ ms, m ∈ c.methodsOf role) →
        (ms.map TestMethod.name).mapM (c.inRole role) = .ok ms) ∧
      ∀ test ∈ c.methods, test.kind.isTest → ∀ befores afters : List (TestMethod σ),
        (∀ m ∈ befores, m ∈ c.methodsOf .before) → (∀ m ∈ afters, m ∈ c.methodsOf .after) → ∀ known,
          c.resolve known ⟨c.name, ⟨test.name, test.expected.map Expectation.typeName⟩,
              befores.map TestMethod.name, afters.map TestMethod.name⟩ =
            .ok { fixture := c.fixture, befores, test, afters, expected := test.expected }) := by
  refine ⟨?_, ?_, fun hnone => ?_⟩
  · rw [problems_eq_nil_iff, ← List.pairwise_map]
    simp only [← MethodKind.isTest_iff]
    exact ⟨fun hc => ⟨hc.name_ne, hc.names_nodup, hc.test_of_expected⟩, fun ⟨hne, hnd, hexp⟩ => ⟨hne, hnd, hexp⟩⟩
  · have hseen (name : String) : name ∈ [] ↔ ∃ m ∈ ([] : List (TestMethod σ)), m.name = name := by simp
    exact problemsFrom_eq_flatten hseen c.methods
  · have hc : c.Valid := problems_eq_nil_iff.1 hnone
    exact ⟨fun m hm => method?_of_mem hc hm, fun role ms hms => mapM_inRole_names hc hms,
      fun test htest hkind befores afters hbefores hafters known =>
        resolve_names hc htest hkind hbefores hafters known⟩

/-- A hook that expects a failure, and has no name either, as the test before it. -/
example :
    let c : TestClass Unit := { fixture := ⟨"Cart", ()⟩ }
    ((c.register .test "" .skip).register .after "" .skip (some .panic)).problems =
      [.emptyName .test, .emptyName .after, .repeatedName "", .expectingHook .after ""] := by
  decide

end TestClass

end Interleave
