import Interleave.Proofs.Runner.Resolution

/-!
# Requests that were accepted

A request is checked twice: by descriptors when its payload is built, and by names when the payload is resolved.

- Both checks look for the first method registered under a name and at its role (`described_eq_ok_iff`,
  `inRole_eq_ok_iff`), so what fits by descriptors fits by names (`resolve_of_validate`).
- The expectation of a request is remembered, and stays so whatever is remembered later (`mem_catalogue_run_forM`).
- So a payload that was built is resolved, as it was asked for, at any later time (`Payload.resolve_of_build`).
-/

namespace Interleave

namespace TestClass

variable {σ : Type} {c : TestClass σ}

/-! ## Names and descriptors -/

/-- The method is the first one that the class has registered under the name. -/
def FirstNamed (c : TestClass σ) (name : String) (m : TestMethod σ) : Prop :=
  ∃ earlier later, c.methods = earlier ++ m :: later ∧ m.name = name ∧ ∀ n ∈ earlier, n.name ≠ name

theorem method?_eq_some_iff {name : String} {m : TestMethod σ} :
    c.method? name = some m ↔ c.FirstNamed name m := by
  rw [method?, List.find?_eq_some_iff_append, FirstNamed]
  constructor
  · rintro ⟨hname, earlier, later, heq, hearlier⟩
    exact ⟨earlier, later, heq, by simpa using hname, fun n hn => by simpa using hearlier n hn⟩
  · rintro ⟨earlier, later, heq, hname, hearlier⟩
    exact ⟨by simpa using hname, earlier, later, heq, fun n hn => by simpa using hearlier n hn⟩

/-- A name finds the first method that is registered under it, if that fits the role. -/
theorem inRole_eq_ok_iff {wanted : MethodKind} {name : String} {m : TestMethod σ} :
    c.inRole wanted name = .ok m ↔ c.FirstNamed name m ∧ m.kind.fits wanted := by
  rw [← method?_eq_some_iff, inRole]
  cases hm : c.method? name with
  | none => simp
  | some n =>
    by_cases hfit : n.kind.fits wanted
    · simp only [hfit, if_true, Except.ok.injEq, Option.some.injEq]
      exact ⟨fun h => ⟨h, h ▸ hfit⟩, And.left⟩
    · simp only [hfit, Bool.false_eq_true, if_false, reduceCtorEq, false_iff, Option.some.injEq]
      rintro ⟨rfl, h⟩
      exact hfit h

/-- A descriptor finds what its name finds, if it is of this class. -/
theorem described_eq_ok_iff {wanted : MethodKind} {d : Descriptor} {m : TestMethod σ} :
    c.described wanted d = .ok m ↔ d.className = c.name ∧ c.inRole wanted d.name = .ok m := by
  rw [described]
  split
  · rename_i h
    simp [h]
  · rename_i h
    simp [h]

/-- A request is accepted exactly if each descriptor finds a method in its role. -/
theorem validate_eq_ok_iff {test : Descriptor} {befores afters : List Descriptor} :
    c.validate test befores afters = .ok () ↔
      (∃ m, c.described .concurrent test = .ok m) ∧ (∃ ms, befores.mapM (c.described .before) = .ok ms) ∧
        ∃ ms, afters.mapM (c.described .after) = .ok ms := by
  simp only [validate, bind_eq_ok_iff, discard_eq_ok_iff, exists_and_left, exists_const]

/-- A method that a descriptor finds is found by the name alone. -/
theorem mapM_inRole_of_mapM_described {wanted : MethodKind} {ds : List Descriptor} {ms : List (TestMethod σ)}
    (h : ds.mapM (c.described wanted) = .ok ms) : (ds.map Descriptor.name).mapM (c.inRole wanted) = .ok ms := by
  rw [mapM_eq_ok_iff] at h ⊢
  rw [List.forall₂_map_left_iff]
  exact h.imp fun d m hd => (described_eq_ok_iff.1 hd).2

/-- What is found in a role are the first methods of their names. -/
theorem forall₂_firstNamed_of_mapM_inRole {wanted : MethodKind} {names : List String} {ms : List (TestMethod σ)}
    (h : names.mapM (c.inRole wanted) = .ok ms) : List.Forall₂ c.FirstNamed names ms :=
  (mapM_eq_ok_iff.1 h).imp fun _ _ hm => (inRole_eq_ok_iff.1 hm).1

/-! ## Resolving what was accepted -/

/-- An expectation that is in the catalogue is found by its type name, whether the class declares it or not. -/
theorem isSome_expectation?_of_mem {known : Catalogue} {e : Expectation} (h : e ∈ known) :
    (c.expectation? known e.typeName).isSome := by
  rw [expectation?, Option.isSome_or, Bool.or_eq_true, Catalogue.find?_eq_some_iff.2 ⟨h, rfl⟩]
  exact Or.inr rfl

/-- A request that was accepted by descriptors is resolved by names, if its expectation is known. -/
theorem resolve_of_validate {test : Descriptor} {befores afters : List Descriptor} {expected : Option Expectation}
    (h : c.validate test befores afters = .ok ()) {known : Catalogue} (hknown : ∀ e ∈ expected, e ∈ known) :
    ∃ l, c.resolve known (c.asked test befores afters expected) = .ok l ∧ l.fixture = c.fixture ∧
      c.FirstNamed test.name l.test ∧ List.Forall₂ c.FirstNamed (befores.map Descriptor.name) l.befores ∧
      List.Forall₂ c.FirstNamed (afters.map Descriptor.name) l.afters ∧ l.expected = expected := by
  obtain ⟨⟨m, hm⟩, ⟨bs, hbs⟩, ⟨as, has⟩⟩ := validate_eq_ok_iff.1 h
  have hm' := (described_eq_ok_iff.1 hm).2
  have hbs' := mapM_inRole_of_mapM_described hbs
  have has' := mapM_inRole_of_mapM_described has
  refine ⟨⟨c.fixture, bs, m, as, expected⟩, ?_, rfl, (inRole_eq_ok_iff.1 hm').1,
    forall₂_firstNamed_of_mapM_inRole hbs', forall₂_firstNamed_of_mapM_inRole has', rfl⟩
  refine resolve_eq_ok_iff.2 ⟨rfl, hbs', has', hm', rfl, fun t ht => ?_⟩
  obtain ⟨e, he, rfl⟩ := Option.map_eq_some_iff.1 ht
  exact isSome_expectation?_of_mem (hknown e he)

end TestClass

/-! ## What is done with the catalogue -/

namespace Catalogue

/-- Something that is done with the catalogue: an expectation is remembered, or a payload is built for a request to
any class, which may be refused. -/
inductive Access : Type 1
  | remember (e : Expectation)
  | build {τ : Type} (c : TestClass τ) (test : Descriptor) (befores afters : List Descriptor)
      (expected : Option Expectation)

def Access.run : Access → Quiet Unit
  | remember e => Session.remember e
  | build c test befores afters expected => discard <| Payload.build c test befores afters expected

/-- What a request asks for to be remembered is in the catalogue afterwards, and so is what was there before. -/
theorem mem_rememberAll {known : Catalogue} {expected : Option Expectation} {e : Expectation} :
    e ∈ known.rememberAll expected ↔ e ∈ known ∨ expected = some e := by
  cases expected with
  | none => simp [rememberAll]
  | some d => simp [rememberAll, mem_remember, eq_comm]

/-- Nothing that is done with the catalogue makes it forget an expectation. -/
theorem mem_catalogue_run {e : Expectation} {s : Session} (h : e ∈ s.catalogue) (access : Access) :
    e ∈ (access.run.run s).2.catalogue := by
  cases access with
  | remember d => exact mem_remember.2 (Or.inl h)
  | build c test befores afters expected =>
    show e ∈ ((Payload.build c test befores afters expected).run s).2.catalogue
    rw [Payload.run_build]
    cases c.validate test befores afters with
    | error _ => exact h
    | ok _ => exact mem_rememberAll.2 (Or.inl h)

/-- The catalogue never forgets an expectation, whatever is done with it. -/
theorem mem_catalogue_run_forM {e : Expectation} {s : Session} (h : e ∈ s.catalogue) (later : List Access) :
    e ∈ ((later.forM Access.run).run s).2.catalogue := by
  induction later generalizing s with
  | nil => exact h
  | cons access later ih => exact ih (mem_catalogue_run h access)

end Catalogue

/-- A payload that was built is resolved at any later time: it can be read, and the class that it was built for, if
registered, resolves it to the first methods of the names asked for, position by position, and to the expectation
asked for, whether the class declares it or not. -/
theorem Payload.resolve_of_build {σ : Type} {c : TestClass σ} {x : Explorer σ}
    (hx : x.registry.find? c.name = some c) {test : Descriptor} {befores afters : List Descriptor}
    {expected : Option Expectation} {s t : Session} {p : Payload}
    (h : (build c test befores afters expected).run s = (.ok p, t)) (hname : test.name ≠ "")
    (hin : ¬ exceptionSeparator.toList <:+: test.name.toList) (later : List Catalogue.Access) :
    ∃ a l, Arguments.read p.tokens = .ok a ∧
      x.resolve ((later.forM Catalogue.Access.run).run t).2.catalogue a = .ok (some l) ∧
      l.fixture = c.fixture ∧ c.FirstNamed test.name l.test ∧
      List.Forall₂ c.FirstNamed (befores.map Descriptor.name) l.befores ∧
      List.Forall₂ c.FirstNamed (afters.map Descriptor.name) l.afters ∧ l.expected = expected := by
  rw [run_build] at h
  cases hv : c.validate test befores afters with
  | error e =>
    rw [hv] at h
    cases h
  | ok _ =>
    rw [hv] at h
    cases h
    obtain ⟨a, ha, hask⟩ := (asks_ofTest_iff (c.asked test befores afters expected)).2 ⟨hname, hin⟩
    have hknown : ∀ e ∈ expected, e ∈ ((later.forM Catalogue.Access.run).run
        { s with catalogue := s.catalogue.rememberAll expected }).2.catalogue :=
      fun e he => Catalogue.mem_catalogue_run_forM (Catalogue.mem_rememberAll.2 (Or.inr he)) later
    obtain ⟨l, hl, hplan⟩ := TestClass.resolve_of_validate hv hknown
    exact ⟨a, l, ha, (Explorer.resolve_eq_ok_some_iff hx hask rfl).2 hl, hplan⟩

/-- A class that is not valid, a failure that it does not declare, and later a request that is refused, one that is
not, and an expectation that is remembered. -/
theorem Payload.resolve_of_build_undeclared :
    let c := (((TestClass.empty "Cart" ()).register .before "fills" .skip).register .concurrent "adds" .skip).register
      .after "adds" .skip
    let x : Explorer Unit := ⟨.ofList [c], {}⟩
    let later : List Catalogue.Access :=
      [.build c ⟨"Till", "adds"⟩ [] [] (some ⟨"Refused"⟩), .remember ⟨"Torn"⟩,
        .build c ⟨"Cart", "adds"⟩ [] [] (some .panic)]
    ∃ p t a l, (build c ⟨"Cart", "adds"⟩ [⟨"Cart", "fills"⟩, ⟨"Cart", "fills"⟩] [] (some ⟨"LostUpdate"⟩)).run .start =
        (.ok p, t) ∧
      x.registry.find? c.name = some c ∧ "adds" ≠ "" ∧ ¬ exceptionSeparator.toList <:+: "adds".toList ∧
      Arguments.read p.tokens = .ok a ∧
      x.resolve ((later.forM Catalogue.Access.run).run t).2.catalogue a = .ok (some l) ∧
      c.FirstNamed "adds" l.test ∧ List.Forall₂ c.FirstNamed ["fills", "fills"] l.befores ∧
      l.expected = some ⟨"LostUpdate"⟩ := by
  intro c x later
  have hx : x.registry.find? c.name = some c := Registry.find?_register_self {} c
  have hv : c.validate ⟨"Cart", "adds"⟩ [⟨"Cart", "fills"⟩, ⟨"Cart", "fills"⟩] [] = .ok () := by cbv
  have hrun := run_build c ⟨"Cart", "adds"⟩ [⟨"Cart", "fills"⟩, ⟨"Cart", "fills"⟩] [] (some ⟨"LostUpdate"⟩) .start
  rw [hv] at hrun
  have hin : ¬ exceptionSeparator.toList <:+: "adds".toList := by
    rw [← Text.splitOnce_eq_none_iff]
    cbv
  obtain ⟨a, l, ha, hl, -, htest, hbefores, -, hexpected⟩ := resolve_of_build hx hrun (by decide) hin later
  exact ⟨_, _, a, l, hrun, hx, by decide, hin, ha, hl, htest, hbefores, hexpected⟩

end Interleave
